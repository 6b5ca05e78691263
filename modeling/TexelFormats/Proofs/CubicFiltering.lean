import TexelFormats.Proofs.OfferedFeatures
import TexelFormats.Proofs.Support

namespace TexelFormats

namespace FeatureSet

variable {s t : FeatureSet} {x : Feature}

def withoutCubic (s : FeatureSet) : FeatureSet := s \ {.sampledImageFilterCubic}

def SamplesCubic (s : FeatureSet) : Prop := .sampledImageFilterCubic ∈ s → .sampledImage ∈ s

theorem mem_withoutCubic : x ∈ s.withoutCubic ↔ x ∈ s ∧ x ≠ .sampledImageFilterCubic := by
  rw [withoutCubic, FlagSet.mem_sdiff, FlagSet.mem_singleton]

theorem eq_withoutCubic (hs : s.Owned) (ht : t.Owned) (hcubic : .sampledImageFilterCubic ∉ s)
    (h : ∀ x, x ≠ .sampledImageFilterCubic → (x ∈ s ↔ x ∈ t)) : s = t.withoutCubic := by
  refine FlagSet.ext_of_owned hs (ht.sdiff _) fun x ↦ ?_
  by_cases hx : x = .sampledImageFilterCubic
  · subst hx
    exact iff_of_false hcubic fun hm ↦ (mem_withoutCubic.1 hm).2 rfl
  · exact (h x hx).trans (mem_withoutCubic.trans (and_iff_left hx)).symm

theorem withoutCubic_eq_empty_iff (hs : s.Owned) (h : s.SamplesCubic) :
    s.withoutCubic = ∅ ↔ s = ∅ := by
  constructor
  · intro he
    refine FlagSet.ext_of_owned hs FlagSet.owned_empty fun x ↦ ?_
    refine iff_of_false (fun hx ↦ ?_) FlagSet.not_mem_empty
    -- a set with the feature in it has another one that is kept
    have hkept : ∃ y, y ∈ s.withoutCubic := by
      by_cases hc : x = .sampledImageFilterCubic
      · exact ⟨.sampledImage, mem_withoutCubic.2 ⟨h (hc ▸ hx), by decide⟩⟩
      · exact ⟨x, mem_withoutCubic.2 ⟨hx, hc⟩⟩
    obtain ⟨y, hy⟩ := hkept
    exact FlagSet.not_mem_empty (he ▸ hy)
  · rintro rfl
    rfl

theorem withoutCubic_legacy (s : FeatureSet) : s.legacy.withoutCubic = s.withoutCubic.legacy := by
  refine FlagSet.ext ?_
  change s.word &&& _ &&& ~~~_ = s.word &&& ~~~_ &&& _
  rw [BitVec.and_assoc, BitVec.and_comm 0x7fffffff, ← BitVec.and_assoc]

end FeatureSet

def Features.withoutCubic (f : Features) : Features :=
  ⟨f.linear.withoutCubic, f.optimal.withoutCubic, f.buffer.withoutCubic⟩

structure Features.SamplesCubic (f : Features) : Prop where
  linear : f.linear.SamplesCubic
  optimal : f.optimal.SamplesCubic

def Facts.withoutCubic (k : Facts) : Facts := { k with filtersCubic := false }

def Device.withoutCubic (d : Device) : Device := { d with filtersCubic := false }

def Support.withoutCubic (s : Support) : Support := { s with features := s.features.withoutCubic }

namespace Facts

variable {k : Facts} {x : Feature}

theorem offersImage_withoutCubic (hx : x ≠ .sampledImageFilterCubic) :
    k.withoutCubic.offersImage x = k.offersImage x := by
  cases x with
  | sampledImageFilterCubic => exact absurd rfl hx
  | _ => rfl

theorem offersImage_sampledImageFilterCubic :
    k.withoutCubic.offersImage .sampledImageFilterCubic = false := by
  simp [offersImage, withoutCubic]

/-- Without the extension the rules give what they give with it, less the one feature. -/
theorem features_withoutCubic (k : Facts) : k.withoutCubic.features = k.features.withoutCubic := by
  have howned := k.owned_features
  have howned' := k.withoutCubic.owned_features
  ext1
  · refine FeatureSet.eq_withoutCubic howned'.linear howned.linear ?_ fun x hx ↦ ?_
    · simp [mem_linear_features, offersLinear, offersImage_sampledImageFilterCubic]
    · rw [mem_linear_features, mem_linear_features, offersLinear, offersLinear,
        offersImage_withoutCubic hx]
      rfl
  · refine FeatureSet.eq_withoutCubic howned'.optimal howned.optimal ?_ fun x hx ↦ ?_
    · simp [mem_optimal_features, offersOptimal, offersImage_sampledImageFilterCubic]
    · rw [mem_optimal_features, mem_optimal_features, offersOptimal, offersOptimal,
        offersImage_withoutCubic hx]
      rfl
  · refine FeatureSet.eq_withoutCubic howned'.buffer howned.buffer ?_ fun x hx ↦ ?_
    · simp [mem_buffer_features, offersBuffer]
    · rw [mem_buffer_features, mem_buffer_features]
      rfl

theorem isSampled_of_filtersCubic (h : k.offersImage .sampledImageFilterCubic = true) :
    k.offersImage .sampledImage = true := by
  simp only [offersImage, Bool.and_eq_true] at h
  exact h.1.1

theorem samplesCubic_features (k : Facts) : k.features.SamplesCubic := by
  refine ⟨fun h ↦ ?_, fun h ↦ ?_⟩
  · simp only [mem_linear_features, offersLinear, reduceCtorEq, decide_false, Bool.false_and,
      Bool.or_false, Bool.and_eq_true] at h ⊢
    exact ⟨h.1, isSampled_of_filtersCubic h.2⟩
  · simp only [mem_optimal_features, offersOptimal, reduceCtorEq, decide_false, Bool.false_and,
      Bool.or_false, Bool.and_eq_true] at h ⊢
    exact ⟨h.1, isSampled_of_filtersCubic h.2⟩

end Facts

namespace ImageQuery

variable {q : ImageQuery} {features : FeatureSet}

theorem unmet?_withoutCubic : q.unmet? features.withoutCubic = q.unmet? features := by
  have hrequired : ∀ r ∈ requirements, r.2 ≠ .sampledImageFilterCubic := by decide
  exact unmet?_congr fun r hr ↦ FeatureSet.mem_withoutCubic.trans (and_iff_left (hrequired r hr))

theorem sampleCounts_withoutCubic :
    q.sampleCounts features.withoutCubic = q.sampleCounts features := by
  have hmeets : features.withoutCubic.Meets {.colorAttachment, .depthStencilAttachment} ↔
      features.Meets {.colorAttachment, .depthStencilAttachment} := by
    simp [meets_attachments_iff, FeatureSet.mem_withoutCubic]
  simp only [sampleCounts, hmeets]

end ImageQuery

namespace Device

open ImageQuery Logged

variable {d : Device} {f : Format} {q : ImageQuery} {all : Features} {features : FeatureSet}

theorem facts?_withoutCubic : d.withoutCubic.facts? f = (d.facts? f).map Facts.withoutCubic := by
  unfold facts?
  cases f.descriptor? with
  | none => rfl
  | some c =>
    simp only [Option.bind_eq_bind, Option.bind_some]
    split <;> rfl

theorem features_withoutCubic (d : Device) (f : Format) :
    d.withoutCubic.features f = (d.features f).withoutCubic := by
  rw [features, features, facts?_withoutCubic]
  cases d.facts? f with
  | none => rfl
  | some k => exact k.features_withoutCubic

theorem samplesCubic_features (d : Device) (f : Format) : (d.features f).SamplesCubic := by
  obtain h | ⟨k, -, h⟩ := d.features_cases f
  · rw [h]
    exact ⟨fun hm ↦ absurd hm FlagSet.not_mem_empty, fun hm ↦ absurd hm FlagSet.not_mem_empty⟩
  · rw [h]
    exact k.samplesCubic_features

theorem linear_withoutCubic_eq_empty_iff :
    (d.features f).linear.withoutCubic = ∅ ↔ (d.features f).linear = ∅ :=
  FeatureSet.withoutCubic_eq_empty_iff (d.owned_features f).linear (d.samplesCubic_features f).linear

theorem optimal_withoutCubic_eq_empty_iff :
    (d.features f).optimal.withoutCubic = ∅ ↔ (d.features f).optimal = ∅ :=
  FeatureSet.withoutCubic_eq_empty_iff (d.owned_features f).optimal
    (d.samplesCubic_features f).optimal

theorem result_supportWith_withoutCubic (he : features.withoutCubic = ∅ ↔ features = ∅) :
    (supportWith q features.withoutCubic).result =
      (supportWith q features).result.map Support.withoutCubic := by
  unfold supportWith
  rw [unmet?_withoutCubic, sampleCounts_withoutCubic]
  by_cases hn : features = ∅
  · rw [if_pos hn, if_pos (he.2 hn)]
    rfl
  rw [if_neg hn, if_neg (mt he.1 hn)]
  split
  · rfl
  split
  · rfl
  split <;> rfl

theorem compresses_withoutCubic (s : Surface) : d.withoutCubic.compresses s = d.compresses s := rfl

theorem result_featuresByModifier_withoutCubic
    (he : all.optimal.withoutCubic = ∅ ↔ all.optimal = ∅) :
    (d.withoutCubic.featuresByModifier q all.withoutCubic).result =
      (d.featuresByModifier q all).result.map FeatureSet.withoutCubic := by
  by_cases hm : q.modifier = some .compressed
  · have hne : all.withoutCubic.optimal ≠ ∅ ↔ all.optimal ≠ ∅ := not_congr he
    simp only [result_featuresByModifier_compressed hm, compresses_withoutCubic, hne]
    split <;> rfl
  unfold featuresByModifier
  cases hq : q.modifier with
  | none => rfl
  | some m =>
    have hc : m ≠ .compressed := fun h ↦ hm (h ▸ hq)
    simp only [if_neg hc]
    split <;> rfl

theorem result_selectedFeatures_withoutCubic
    (he : all.optimal.withoutCubic = ∅ ↔ all.optimal = ∅) :
    (d.withoutCubic.selectedFeatures q all.withoutCubic).result =
      (d.selectedFeatures q all).result.map FeatureSet.withoutCubic := by
  by_cases hm : q.tiling = .byModifier
  · rw [selectedFeatures, selectedFeatures, if_pos hm, if_pos hm]
    exact result_featuresByModifier_withoutCubic he
  rw [selectedFeatures, selectedFeatures, if_neg hm, if_neg hm, Features.get?, Features.get?]
  by_cases hl : q.tiling = .linear
  · rw [if_pos hl, if_pos hl]
    rfl
  rw [if_neg hl, if_neg hl]
  by_cases ho : q.tiling = .optimal
  · rw [if_pos ho, if_pos ho]
    rfl
  · rw [if_neg ho, if_neg ho]
    rfl

theorem withoutCubic_eq_empty_iff_of_selected
    (h : (d.selectedFeatures q (d.features f)).result = .ok features) :
    features.withoutCubic = ∅ ↔ features = ∅ := by
  obtain rfl | rfl := eq_of_selectedFeatures h
  · exact linear_withoutCubic_eq_empty_iff
  · exact optimal_withoutCubic_eq_empty_iff

theorem result_support_withoutCubic (d : Device) (q : ImageQuery) :
    (d.withoutCubic.support q).result = (d.support q).result.map Support.withoutCubic := by
  rw [result_support, result_support, features_withoutCubic,
    result_selectedFeatures_withoutCubic optimal_withoutCubic_eq_empty_iff]
  cases hs : (d.selectedFeatures q (d.features q.format)).result with
  | error e => rfl
  | ok features => exact result_supportWith_withoutCubic (withoutCubic_eq_empty_iff_of_selected hs)

end Device

end TexelFormats
