import TexelFormats.Proofs.Support

namespace TexelFormats

def Failure.retile (t : Tiling) : Failure → Failure
  | .refused (.formatNotSupported f _) => .refused (.formatNotSupported f t)
  | e => e

namespace ImageQuery

variable {q : ImageQuery} {m : Modifier} {t : Tiling} {features : FeatureSet}

def arranged (q : ImageQuery) (m : Modifier) : ImageQuery :=
  { q with tiling := .byModifier, modifier := some m }

theorem allowedBy_arranged_iff :
    (q.arranged m).AllowedBy features ↔ (q.tiled t).AllowedBy features :=
  ⟨fun ⟨hn, hf, hg⟩ ↦ ⟨hn, hf, hg⟩, fun ⟨hn, hf, hg⟩ ↦ ⟨hn, hf, hg⟩⟩

end ImageQuery

namespace Device

open ImageQuery Logged

variable {d : Device} {q : ImageQuery} {m : Modifier} {all : Features} {features : FeatureSet}
  {s t : Support}

theorem sampleCounts_arranged : (q.arranged m).sampleCounts features = {.one} :=
  sampleCounts_of_not_optimal (by simp only [arranged]; decide)

theorem result_supportWith_arranged :
    (supportWith (q.arranged m) features).result =
      (supportWith (q.tiled .linear) features).result.mapError (.retile .byModifier) := by
  have hcounts : (q.arranged m).sampleCounts features = (q.tiled .linear).sampleCounts features :=
    sampleCounts_arranged.trans (sampleCounts_of_not_optimal (by simp only [tiled]; decide)).symm
  have hunmet : (q.arranged m).unmet? features = (q.tiled .linear).unmet? features := rfl
  have hbounds : (q.arranged m).imageType.bounds? = (q.tiled .linear).imageType.bounds? := rfl
  have hflat : ((q.arranged m).imageType ≠ .twoD ∧ (q.arranged m).format.hasDepthOrStencil = true) ↔
      (q.tiled .linear).imageType ≠ .twoD ∧ (q.tiled .linear).format.hasDepthOrStencil = true :=
    .rfl
  unfold supportWith
  by_cases he : features = ∅
  · rw [if_pos he, if_pos he]
    rfl
  by_cases hf : (q.tiled .linear).imageType ≠ .twoD ∧
      (q.tiled .linear).format.hasDepthOrStencil = true
  · rw [if_neg he, if_neg he, if_pos hf, if_pos (hflat.2 hf)]
    rfl
  rw [if_neg he, if_neg he, if_neg hf, if_neg (mt hflat.1 hf), hcounts, hunmet, hbounds]
  cases (q.tiled .linear).imageType.bounds? with
  | none => rfl
  | some bounds => cases (q.tiled .linear).unmet? features <;> rfl

theorem selectedFeatures_arranged :
    d.selectedFeatures (q.arranged m) all = d.featuresByModifier (q.arranged m) all := if_pos rfl

theorem result_support_arranged_linear :
    (d.support (q.arranged .linear)).result =
      (d.support (q.tiled .linear)).result.mapError (.retile .byModifier) := by
  have harranged : (d.selectedFeatures (q.arranged .linear) (d.features q.format)).result =
      .ok (d.features q.format).linear := by
    rw [selectedFeatures_arranged]
    exact featuresByModifier_linear rfl
  have htiled : (d.selectedFeatures (q.tiled .linear) (d.features q.format)).result =
      .ok (d.features q.format).linear := result_selectedFeatures_linear
  rw [result_support, result_support]
  change (d.selectedFeatures _ (d.features q.format)).result >>= _ =
    ((d.selectedFeatures _ (d.features q.format)).result >>= _).mapError _
  rw [harranged, htiled]
  exact result_supportWith_arranged

theorem featuresByModifier_compressed (all : Features) (hm : q.modifier = some .compressed) :
    (d.featuresByModifier q all).result = .ok all.optimal ∨
      (d.featuresByModifier q all).result =
        .error (.refused (.modifierNotSupported q.format .compressed)) := by
  rw [result_featuresByModifier_compressed hm]
  split
  · exact .inl rfl
  · exact .inr rfl

theorem support_tiled_of_arranged_compressed
    (h : (d.support (q.arranged .compressed)).result = .ok s) :
    ∃ t, (d.support (q.tiled .optimal)).result = .ok t ∧ t.features = s.features ∧
      t.limits.SameSize s.limits := by
  obtain ⟨hs, hallowed, -⟩ := allowedBy_of_support h
  rw [selectedFeatures_arranged, featuresByModifier_compressed_eq_ok_iff rfl] at hs
  obtain ⟨-, -, -, -, hs⟩ := hs
  have htiled : (d.selectedFeatures (q.tiled .optimal) (d.features q.format)).result =
      .ok s.features := hs ▸ result_selectedFeatures_optimal
  obtain ⟨t, ht, hfeatures, hsize, -⟩ :=
    support_of_allowedBy h htiled (allowedBy_arranged_iff.1 hallowed) rfl
  exact ⟨t, ht, hfeatures, hsize⟩

theorem support_arranged_compressed_of_tiled
    (h : (d.support (q.tiled .optimal)).result = .ok t) :
    (∃ s, (d.support (q.arranged .compressed)).result = .ok s ∧ s.features = t.features ∧
        s.limits.SameSize t.limits) ∨
      (d.support (q.arranged .compressed)).result =
        .error (.refused (.modifierNotSupported q.format .compressed)) := by
  obtain ⟨-, hallowed, -⟩ := allowedBy_of_support h
  have hm : (q.arranged .compressed).modifier = some .compressed := rfl
  rcases featuresByModifier_compressed (d := d) (d.features q.format) hm with hs | hs
  · rw [← features_of_support_optimal h, ← selectedFeatures_arranged] at hs
    obtain ⟨s, hs, hfeatures, hsize, -⟩ :=
      support_of_allowedBy h hs (allowedBy_arranged_iff.2 hallowed) rfl
    exact .inl ⟨s, hs, hfeatures, hsize⟩
  · right
    rw [← selectedFeatures_arranged] at hs
    rw [result_support]
    change (d.selectedFeatures _ (d.features q.format)).result >>= _ = _
    rw [hs]
    rfl

/-- The linear modifier stands for linear tiling, refusals and violations included. The compressed
one stands for optimal tiling with a single sample, or else the modifier itself is refused. -/
theorem modifiers_refine_tilings (d : Device) (q : ImageQuery) :
    (d.support (q.arranged .linear)).result =
        (d.support (q.tiled .linear)).result.mapError (.retile .byModifier) ∧
      (∀ s, (d.support (q.arranged .compressed)).result = .ok s →
        s.limits.sampleCounts = {.one} ∧
          ∃ t, (d.support (q.tiled .optimal)).result = .ok t ∧ t.features = s.features ∧
            t.limits.SameSize s.limits) ∧
      ∀ t, (d.support (q.tiled .optimal)).result = .ok t →
        (∃ s, (d.support (q.arranged .compressed)).result = .ok s ∧ s.features = t.features ∧
            s.limits.SameSize t.limits) ∨
          (d.support (q.arranged .compressed)).result =
            .error (.refused (.modifierNotSupported q.format .compressed)) := by
  refine ⟨result_support_arranged_linear, fun s hs ↦ ⟨?_, ?_⟩, fun t ht ↦ ?_⟩
  · obtain ⟨-, -, hcounts⟩ := allowedBy_of_support hs
    exact hcounts.trans sampleCounts_arranged
  · exact support_tiled_of_arranged_compressed hs
  · exact support_arranged_compressed_of_tiled ht

theorem modifiers_refine_tilings_of_attachment : ∃ s t : Support,
    ((default : Device).support (arranged {
      format := .r8g8b8a8Unorm, usage := {.colorAttachment} } .compressed)).result = .ok s ∧
    ((default : Device).support (tiled {
      format := .r8g8b8a8Unorm, usage := {.colorAttachment} } .optimal)).result = .ok t ∧
    t.features = s.features ∧ t.limits.SameSize s.limits ∧
    s.limits.sampleCounts = {.one} ∧ t.limits.sampleCounts = {.one, .two, .four} := by
  obtain ⟨-, hcompressed, -⟩ := modifiers_refine_tilings default {
    format := .r8g8b8a8Unorm, usage := {.colorAttachment} }
  obtain ⟨hone, t, ht, hfeatures, hsize⟩ := hcompressed _ rfl
  refine ⟨_, t, rfl, ht, hfeatures, hsize, hone, ?_⟩
  cases ht
  rfl

end Device

end TexelFormats
