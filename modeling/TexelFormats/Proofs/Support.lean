import Mathlib.Data.List.Find
import TexelFormats.Limits
import TexelFormats.Proofs.FlagSets

namespace TexelFormats

def Usage.needs? : Usage → Option Feature
  | .sampled => some .sampledImage
  | .storage => some .storageImage
  | .colorAttachment => some .colorAttachment
  | .depthStencilAttachment => some .depthStencilAttachment
  | _ => none

def Usage.GrantedBy (u : Usage) (features : FeatureSet) : Prop :=
  ∀ x, u.needs? = some x → x ∈ features

theorem Usage.GrantedBy.mono {u : Usage} {s t : FeatureSet} (h : u.GrantedBy s) (hs : s ⊆ t) :
    u.GrantedBy t :=
  fun x hx ↦ FlagSet.mem_of_subset hs (h x hx)

structure Limits.SameSize (l m : Limits) : Prop where
  maxExtent : l.maxExtent = m.maxExtent
  maxMipLevels : l.maxMipLevels = m.maxMipLevels
  maxArrayLayers : l.maxArrayLayers = m.maxArrayLayers
  maxResourceSize : l.maxResourceSize = m.maxResourceSize

namespace ImageQuery

variable {q : ImageQuery} {features : FeatureSet} {usage u : Usage} {feature x : Feature}

def tiled (q : ImageQuery) (t : Tiling) : ImageQuery := { q with tiling := t }

/-- What the features have to grant for the image to be created, its type's limits apart. -/
structure AllowedBy (q : ImageQuery) (features : FeatureSet) : Prop where
  nonempty : features ≠ ∅
  flat : q.imageType = .twoD ∨ q.format.hasDepthOrStencil = false
  granted : .extendedUsage ∈ q.flags ∨ ∀ u ∈ q.usage, u.GrantedBy features

def FirstUngranted (q : ImageQuery) (features : FeatureSet) (usage : Usage) : Prop :=
  ∃ before after,
    [.sampled, .storage, .colorAttachment, .depthStencilAttachment] = before ++ usage :: after ∧
      (∀ u ∈ before, u ∈ q.usage → u.GrantedBy features) ∧
      usage ∈ q.usage ∧ ¬ usage.GrantedBy features

/-- The first thing that the features do not grant, with what the refusal says of it. -/
inductive RefusedFor (q : ImageQuery) (features : FeatureSet) : Refusal → Prop
  | noFeatures : features = ∅ → RefusedFor q features (.formatNotSupported q.format q.tiling)
  | notFlat :
      features ≠ ∅ → q.imageType ≠ .twoD → q.format.hasDepthOrStencil = true →
      RefusedFor q features (.imageTypeNotSupported q.format q.imageType)
  | ungranted {usage : Usage} :
      features ≠ ∅ → (q.imageType = .twoD ∨ q.format.hasDepthOrStencil = false) →
      .extendedUsage ∉ q.flags → q.FirstUngranted features usage →
      RefusedFor q features (.usageNotSupported q.format usage)

theorem flat_iff : q.imageType = .twoD ∨ q.format.hasDepthOrStencil = false ↔
    ¬ (q.imageType ≠ .twoD ∧ q.format.hasDepthOrStencil = true) := by
  simp [Classical.or_iff_not_imp_left]

theorem mem_requirements : (u, x) ∈ requirements ↔ u.needs? = some x := by
  cases u <;> simp [requirements, Usage.needs?, eq_comm]

theorem map_fst_requirements : requirements.map Prod.fst =
    [.sampled, .storage, .colorAttachment, .depthStencilAttachment] := rfl

theorem grantedBy_iff (h : (u, x) ∈ requirements) : u.GrantedBy features ↔ x ∈ features := by
  simp [Usage.GrantedBy, mem_requirements.1 h]

theorem unmet?_congr {s t : FeatureSet} (h : ∀ r ∈ requirements, r.2 ∈ s ↔ r.2 ∈ t) :
    q.unmet? s = q.unmet? t := by
  unfold unmet?
  split
  · rfl
  · refine List.find?_congr fun r hr ↦ ?_
    simp only [h r hr]

theorem unmet?_eq_none_iff : q.unmet? features = none ↔
    .extendedUsage ∈ q.flags ∨ ∀ u ∈ q.usage, u.GrantedBy features := by
  unfold unmet?
  split
  · simp [*]
  · simp only [List.find?_eq_none, Prod.forall, mem_requirements, decide_eq_true_eq, not_and,
      Classical.not_not, *, false_or]
    exact ⟨fun h u hu x hx ↦ h u x hx hu, fun h u x hx hu ↦ h u hu x hx⟩

theorem unmet?_eq_some_iff : q.unmet? features = some (usage, feature) ↔
    .extendedUsage ∉ q.flags ∧ usage ∈ q.usage ∧ feature ∉ features ∧
      ∃ before after, requirements = before ++ (usage, feature) :: after ∧
        ∀ u x, (u, x) ∈ before → u ∈ q.usage → x ∈ features := by
  unfold unmet?
  split
  · simp [*]
  · simp [*, List.find?_eq_some_iff_append, and_assoc, Classical.or_iff_not_imp_left]

theorem exists_unmet?_iff : (∃ feature, q.unmet? features = some (usage, feature)) ↔
    .extendedUsage ∉ q.flags ∧ q.FirstUngranted features usage := by
  simp only [unmet?_eq_some_iff]
  constructor
  · rintro ⟨feature, hx, hu, hm, before, after, hsplit, hbefore⟩
    have hpair : (usage, feature) ∈ requirements := by simp [hsplit]
    refine ⟨hx, before.map Prod.fst, after.map Prod.fst, ?_, ?_, hu, mt (grantedBy_iff hpair).1 hm⟩
    · rw [← map_fst_requirements, hsplit, List.map_append, List.map_cons]
    · intro u hmem hu
      obtain ⟨⟨u, x⟩, hb, rfl⟩ := List.mem_map.1 hmem
      have hpair : (u, x) ∈ requirements := by simp [hsplit, hb]
      exact (grantedBy_iff hpair).2 (hbefore u x hb hu)
  · rintro ⟨hx, before, after, hsplit, hbefore, hu, hg⟩
    -- each usage is checked for one feature only, so the split of the usages is one of the pairs
    rw [← map_fst_requirements, List.map_eq_append_iff] at hsplit
    obtain ⟨before, rest, hsplit, rfl, hrest⟩ := hsplit
    obtain ⟨⟨usage, feature⟩, after, rfl, rfl, rfl⟩ := List.map_eq_cons_iff.1 hrest
    have hpair : (usage, feature) ∈ requirements := by simp [hsplit]
    refine ⟨feature, hx, hu, mt (grantedBy_iff hpair).2 hg, before, after, hsplit, ?_⟩
    intro u x hb hu
    have hpair : (u, x) ∈ requirements := by simp [hsplit, hb]
    exact (grantedBy_iff hpair).1 (hbefore u (List.mem_map.2 ⟨_, hb, rfl⟩) hu)

theorem meets_attachments_iff : features.Meets {.colorAttachment, .depthStencilAttachment} ↔
    .colorAttachment ∈ features ∨ .depthStencilAttachment ∈ features := by
  rw [FlagSet.meets_iff_of_owned (by simp)]
  simp [and_or_left, exists_or]

theorem sampleCounts_of_not_optimal (h : q.tiling ≠ .optimal) :
    q.sampleCounts features = {.one} := by
  rw [sampleCounts, if_neg fun hc ↦ h hc.1]

theorem one_subset_sampleCounts (q : ImageQuery) (features : FeatureSet) :
    {.one} ⊆ q.sampleCounts features := by
  unfold sampleCounts
  split <;> decide

theorem allowedBy_or_refusedFor (q : ImageQuery) (features : FeatureSet) :
    q.AllowedBy features ∨ ∃ why, q.RefusedFor features why := by
  by_cases he : features = ∅
  · exact .inr ⟨_, .noFeatures he⟩
  by_cases hf : q.imageType = .twoD ∨ q.format.hasDepthOrStencil = false
  · rcases hu : q.unmet? features with _ | ⟨usage, feature⟩
    · exact .inl ⟨he, hf, unmet?_eq_none_iff.1 hu⟩
    · obtain ⟨hx, hu⟩ := exists_unmet?_iff.1 ⟨feature, hu⟩
      exact .inr ⟨_, .ungranted he hf hx hu⟩
  · rw [not_or, Bool.not_eq_false] at hf
    exact .inr ⟨_, .notFlat he hf.1 hf.2⟩

end ImageQuery

namespace Device

open Logged ImageQuery

variable {d : Device} {p q : ImageQuery} {all : Features} {features : FeatureSet}
  {support : Support} {why : Refusal}

@[simp]
theorem result_refuse {α : Type} (reason : Event) (why : Refusal) :
    (refuse reason why : Logged Failure α).result = .error (.refused why) := rfl

theorem supportWith_of_refusedFor (ht : q.imageType.bounds?.isSome = true)
    (h : q.RefusedFor features why) :
    (supportWith q features).result = .error (.refused why) := by
  obtain ⟨⟨extent, mipLevels, arrayLayers⟩, hb⟩ := Option.isSome_iff_exists.1 ht
  cases h with
  | noFeatures he =>
    rw [supportWith, if_pos he]
    rfl
  | notFlat he hf hd =>
    rw [supportWith, if_neg he, if_pos ⟨hf, hd⟩]
    rfl
  | ungranted he hf hx hu =>
    obtain ⟨feature, hunmet⟩ := exists_unmet?_iff.2 ⟨hx, hu⟩
    rw [supportWith, if_neg he, if_neg (flat_iff.1 hf), hb]
    simp only [hunmet, result_refuse]

theorem supportWith_eq_ok_iff : (supportWith q features).result = .ok support ↔
    q.AllowedBy features ∧ ∃ extent mipLevels arrayLayers,
      q.imageType.bounds? = some (extent, mipLevels, arrayLayers) ∧ support = {
        limits := ⟨extent, mipLevels, arrayLayers, q.sampleCounts features, Limits.maxSize⟩
        features := features } := by
  constructor
  · intro h
    rw [supportWith] at h
    split at h
    · simp at h
    rename_i he
    split at h
    · simp at h
    rename_i hf
    split at h
    · simp at h
    rename_i extent mipLevels arrayLayers hb
    split at h
    · simp at h
    rename_i hu
    refine ⟨⟨he, flat_iff.2 hf, unmet?_eq_none_iff.1 hu⟩, extent, mipLevels, arrayLayers, hb, ?_⟩
    simpa using h.symm
  · rintro ⟨h, extent, mipLevels, arrayLayers, hb, rfl⟩
    rw [supportWith, if_neg h.nonempty, if_neg (flat_iff.1 h.flat), hb]
    simp only [unmet?_eq_none_iff.2 h.granted]
    rfl

theorem support_eq_ok_iff : (d.support q).result = .ok support ↔
    ∃ features, (d.selectedFeatures q (d.features q.format)).result = .ok features ∧
      (supportWith q features).result = .ok support := by
  rw [result_support]
  cases (d.selectedFeatures q (d.features q.format)).result with
  | error e => exact ⟨nofun, nofun⟩
  | ok features => exact ⟨fun h ↦ ⟨features, rfl, h⟩, by rintro ⟨_, ⟨⟩, h⟩; exact h⟩

theorem allowedBy_of_support (h : (d.support q).result = .ok support) :
    (d.selectedFeatures q (d.features q.format)).result = .ok support.features ∧
      q.AllowedBy support.features ∧
      support.limits.sampleCounts = q.sampleCounts support.features := by
  obtain ⟨features, hs, hw⟩ := support_eq_ok_iff.1 h
  obtain ⟨hallowed, extent, mipLevels, arrayLayers, -, rfl⟩ := supportWith_eq_ok_iff.1 hw
  exact ⟨hs, hallowed, rfl⟩

theorem support_of_allowedBy (h : (d.support p).result = .ok support)
    (hs : (d.selectedFeatures q (d.features q.format)).result = .ok features)
    (hq : q.AllowedBy features) (hi : q.imageType = p.imageType) :
    ∃ other, (d.support q).result = .ok other ∧ other.features = features ∧
      other.limits.SameSize support.limits ∧
      other.limits.sampleCounts = q.sampleCounts features := by
  obtain ⟨_, -, hw⟩ := support_eq_ok_iff.1 h
  obtain ⟨-, extent, mipLevels, arrayLayers, hb, rfl⟩ := supportWith_eq_ok_iff.1 hw
  rw [← hi] at hb
  have hok := supportWith_eq_ok_iff.2 ⟨hq, extent, mipLevels, arrayLayers, hb, rfl⟩
  exact ⟨_, support_eq_ok_iff.2 ⟨features, hs, hok⟩, rfl, ⟨rfl, rfl, rfl, rfl⟩, rfl⟩

theorem result_selectedFeatures (ht : q.tiling = .linear ∨ q.tiling = .optimal) :
    (d.selectedFeatures q all).result =
      .ok (if q.tiling = .linear then all.linear else all.optimal) := by
  have hl : Tiling.linear ≠ .byModifier := by decide
  have ho : Tiling.optimal ≠ .byModifier := by decide
  have hne : Tiling.optimal ≠ .linear := by decide
  rcases ht with ht | ht <;> simp [selectedFeatures, Features.get?, ht, hl, ho, hne]

theorem result_selectedFeatures_linear :
    (d.selectedFeatures (q.tiled .linear) all).result = .ok all.linear :=
  result_selectedFeatures (.inl rfl)

theorem result_selectedFeatures_optimal :
    (d.selectedFeatures (q.tiled .optimal) all).result = .ok all.optimal :=
  result_selectedFeatures (.inr rfl)

theorem features_of_support_linear (h : (d.support (q.tiled .linear)).result = .ok support) :
    support.features = (d.features q.format).linear := by
  obtain ⟨hs, -, -⟩ := allowedBy_of_support h
  rw [result_selectedFeatures_linear] at hs
  exact (Except.ok.inj hs).symm

theorem features_of_support_optimal (h : (d.support (q.tiled .optimal)).result = .ok support) :
    support.features = (d.features q.format).optimal := by
  obtain ⟨hs, -, -⟩ := allowedBy_of_support h
  rw [result_selectedFeatures_optimal] at hs
  exact (Except.ok.inj hs).symm

theorem featuresByModifier_linear (hm : q.modifier = some .linear) :
    (d.featuresByModifier q all).result = .ok all.linear := by
  have hne : Modifier.linear ≠ .compressed := by decide
  simp [featuresByModifier, hm, hne]

theorem result_featuresByModifier_compressed (hm : q.modifier = some .compressed) :
    (d.featuresByModifier q all).result =
      if all.optimal ≠ ∅ ∧ q.format.canBeTiled = true ∧ .mutableFormat ∉ q.flags ∧
          d.compresses q.surface = true then .ok all.optimal
      else .error (.refused (.modifierNotSupported q.format .compressed)) := by
  rw [featuresByModifier, hm]
  simp only [if_pos]
  by_cases ht : all.optimal = ∅ ∨ ¬ q.format.canBeTiled = true
  · rw [if_pos ht, if_neg fun h ↦ ht.elim h.1 fun hn ↦ hn h.2.1]
    rfl
  rw [if_neg ht]
  rw [not_or, Classical.not_not] at ht
  by_cases hmutable : .mutableFormat ∈ q.flags
  · rw [if_pos hmutable, if_neg fun h ↦ h.2.2.1 hmutable]
    rfl
  rw [if_neg hmutable, result_bind_ok (result_records _)]
  by_cases hc : d.compresses q.surface = true
  · rw [if_pos hc, if_pos ⟨ht.1, ht.2, hmutable, hc⟩]
    rfl
  · rw [if_neg hc, if_neg fun h ↦ hc h.2.2.2]
    rfl

theorem featuresByModifier_compressed_eq_ok_iff (hm : q.modifier = some .compressed) :
    (d.featuresByModifier q all).result = .ok features ↔
      all.optimal ≠ ∅ ∧ q.format.canBeTiled = true ∧ .mutableFormat ∉ q.flags ∧
        d.compresses q.surface = true ∧ all.optimal = features := by
  rw [result_featuresByModifier_compressed hm]
  split
  · rename_i h
    obtain ⟨ho, ht, hmutable, hc⟩ := h
    exact ⟨fun hf ↦ ⟨ho, ht, hmutable, hc, Except.ok.inj hf⟩, fun h ↦ congrArg _ h.2.2.2.2⟩
  · rename_i h
    exact ⟨nofun, fun ⟨ho, ht, hmutable, hc, _⟩ ↦ absurd ⟨ho, ht, hmutable, hc⟩ h⟩

theorem featuresByModifier_eq_ok_iff : (d.featuresByModifier q all).result = .ok features ↔
    q.modifier = some .linear ∧ all.linear = features ∨
      q.modifier = some .compressed ∧ all.optimal ≠ ∅ ∧ q.format.canBeTiled = true ∧
        .mutableFormat ∉ q.flags ∧ d.compresses q.surface = true ∧ all.optimal = features := by
  have hne : Modifier.compressed ≠ .linear := by decide
  rcases hm : q.modifier with _ | m
  · simp [featuresByModifier, hm]
  by_cases hc : m = .compressed
  · subst hc
    simp [featuresByModifier_compressed_eq_ok_iff hm, hne]
  by_cases hl : m = .linear
  · subst hl
    simp [featuresByModifier_linear hm, hne.symm]
  · simp [featuresByModifier, hm, hc, hl]

theorem eq_of_selectedFeatures (h : (d.selectedFeatures q all).result = .ok features) :
    features = all.linear ∨ features = all.optimal := by
  by_cases hm : q.tiling = .byModifier
  · rw [selectedFeatures, if_pos hm, featuresByModifier_eq_ok_iff] at h
    rcases h with ⟨-, h⟩ | ⟨-, -, -, -, -, h⟩
    · exact .inl h.symm
    · exact .inr h.symm
  rw [selectedFeatures, if_neg hm, Features.get?] at h
  by_cases hl : q.tiling = .linear
  · rw [if_pos hl] at h
    exact .inl (Except.ok.inj h).symm
  by_cases ho : q.tiling = .optimal
  · rw [if_neg hl, if_pos ho] at h
    exact .inr (Except.ok.inj h).symm
  · rw [if_neg hl, if_neg ho] at h
    cases h

end Device

end TexelFormats
