import TexelFormats.Proofs.Support

namespace TexelFormats.Device

open ImageQuery Logged

variable {d : Device} {q : ImageQuery} {features : FeatureSet} {x : Logged Failure Support}

inductive Selects (d : Device) (q : ImageQuery) : FeatureSet → Prop
  | linear : q.tiling = .linear → Selects d q (d.features q.format).linear
  | optimal : q.tiling = .optimal → Selects d q (d.features q.format).optimal
  | linearModifier :
      q.tiling = .byModifier → q.modifier = some .linear → Selects d q (d.features q.format).linear
  | compressedModifier :
      q.tiling = .byModifier → q.modifier = some .compressed →
      (d.features q.format).optimal ≠ ∅ → q.format.canBeTiled = true → .mutableFormat ∉ q.flags →
      d.compresses q.surface = true → Selects d q (d.features q.format).optimal

def decided (d : Device) (q : ImageQuery) : Logged Failure Support :=
  d.selectedFeatures q (d.features q.format) >>= supportWith q

/-- Every way in which a query is decided. Of the conditions that are looked at in turn, each case
has those that hold up to the one that decides. -/
inductive Decision (d : Device) (q : ImageQuery) : Logged Failure Support → Prop
  | badTiling :
      q.tiling ∉ [.linear, .optimal, .byModifier] →
      Decision d q (fail (.violated (.badTiling q.tiling)))
  | missingModifier :
      q.tiling = .byModifier → q.modifier = none → Decision d q (fail (.violated .missingModifier))
  | unknownModifier {m : Modifier} :
      q.tiling = .byModifier → q.modifier = some m → m ≠ .linear → m ≠ .compressed →
      Decision d q (refuse (.unknownModifier q.format m) (.modifierNotSupported q.format m))
  | notTileable :
      q.tiling = .byModifier → q.modifier = some .compressed →
      ((d.features q.format).optimal = ∅ ∨ ¬ q.format.canBeTiled = true) →
      Decision d q (refuse (.notTileable q.format) (.modifierNotSupported q.format .compressed))
  | mutableFormat :
      q.tiling = .byModifier → q.modifier = some .compressed →
      (d.features q.format).optimal ≠ ∅ → q.format.canBeTiled = true → .mutableFormat ∈ q.flags →
      Decision d q (refuse (.mutableFormat q.format) (.modifierNotSupported q.format .compressed))
  | incompressible :
      q.tiling = .byModifier → q.modifier = some .compressed →
      (d.features q.format).optimal ≠ ∅ → q.format.canBeTiled = true → .mutableFormat ∉ q.flags →
      ¬ d.compresses q.surface = true →
      Decision d q (do
        records (d.compressionEvents q.surface)
        refuse (.incompressible q.format q.usage) (.modifierNotSupported q.format .compressed))
  | noFeatures :
      d.Selects q ∅ →
      Decision d q
        (refuse (.noFeatures q.format q.tiling) (.formatNotSupported q.format q.tiling))
  | notFlat {features : FeatureSet} :
      d.Selects q features → features ≠ ∅ → q.imageType ≠ .twoD →
      q.format.hasDepthOrStencil = true →
      Decision d q
        (refuse (.depthStencilNot2d q.format) (.imageTypeNotSupported q.format q.imageType))
  | badImageType {features : FeatureSet} :
      d.Selects q features → features ≠ ∅ → q.format.hasDepthOrStencil = false →
      q.imageType ∉ [.oneD, .twoD, .threeD] →
      Decision d q (fail (.violated (.badImageType q.imageType)))
  | ungranted {features : FeatureSet} {usage : Usage} {feature : Feature} :
      d.Selects q features → features ≠ ∅ →
      (q.imageType = .twoD ∨ q.format.hasDepthOrStencil = false) →
      q.imageType ∈ [.oneD, .twoD, .threeD] → q.unmet? features = some (usage, feature) →
      Decision d q
        (refuse (.lacksFeature q.format q.tiling feature) (.usageNotSupported q.format usage))
  | supported {features : FeatureSet} {extent : Extent} {mipLevels arrayLayers : UInt32} :
      d.Selects q features → q.AllowedBy features →
      q.imageType.bounds? = some (extent, mipLevels, arrayLayers) →
      Decision d q (pure {
        limits := ⟨extent, mipLevels, arrayLayers, q.sampleCounts features, Limits.maxSize⟩
        features := features })

theorem bounds?_eq_none_iff {t : ImageType} : t.bounds? = none ↔ t ∉ [.oneD, .twoD, .threeD] := by
  unfold ImageType.bounds?
  split
  · simp [*]
  split
  · simp [*]
  split
  · simp [*]
  · simp [*]

theorem compressionEvents_of_compresses {s : Surface} (h : d.compresses s = true) :
    d.compressionEvents s = [] := by
  rw [compresses, Option.isNone_iff_eq_none] at h
  simp [compressionEvents, h]

theorem selectedFeatures_of_selects (h : d.Selects q features) :
    d.selectedFeatures q (d.features q.format) = pure features := by
  have hlinear : Tiling.linear ≠ .byModifier := by decide
  have hoptimal : Tiling.optimal ≠ .byModifier := by decide
  have htilings : Tiling.optimal ≠ .linear := by decide
  have hmodifiers : Modifier.linear ≠ .compressed := by decide
  cases h with
  | linear ht =>
    rw [selectedFeatures, ht, if_neg hlinear]
    rfl
  | optimal ht =>
    rw [selectedFeatures, ht, if_neg hoptimal, Features.get?, if_neg htilings]
    rfl
  | linearModifier ht hm =>
    rw [selectedFeatures, if_pos ht, featuresByModifier, hm]
    simp only [if_neg hmodifiers, if_pos]
  | compressedModifier ht hm ho hc hmutable hcompresses =>
    rw [selectedFeatures, if_pos ht, featuresByModifier, hm]
    have htileable := not_or.2 ⟨ho, not_not_intro hc⟩
    simp only [if_pos, if_neg htileable, if_neg hmutable, hcompresses,
      compressionEvents_of_compresses hcompresses]
    rfl

theorem decided_of_selects (h : d.Selects q features) : d.decided q = supportWith q features := by
  rw [decided, selectedFeatures_of_selects h]
  rfl

theorem decided_of_modifier {reason : Event} {why : Refusal} (ht : q.tiling = .byModifier)
    (h : d.featuresByModifier q (d.features q.format) = refuse reason why) :
    d.decided q = refuse reason why := by
  rw [decided, selectedFeatures, if_pos ht, h]
  rfl

theorem Decision.decided_eq (h : d.Decision q x) : d.decided q = x := by
  cases h with
  | badTiling ht =>
    simp only [List.mem_cons, List.not_mem_nil, or_false, not_or] at ht
    rw [decided, selectedFeatures, if_neg ht.2.2, Features.get?, if_neg ht.1, if_neg ht.2.1]
    rfl
  | missingModifier ht hm =>
    rw [decided, selectedFeatures, if_pos ht, featuresByModifier, hm]
    rfl
  | unknownModifier ht hm hl hc =>
    refine decided_of_modifier ht ?_
    rw [featuresByModifier, hm]
    simp only [if_neg hc, if_neg hl]
  | notTileable ht hm hn =>
    refine decided_of_modifier ht ?_
    rw [featuresByModifier, hm]
    simp only [if_pos, if_pos hn]
  | mutableFormat ht hm ho hc hmutable =>
    have htileable := not_or.2 ⟨ho, not_not_intro hc⟩
    refine decided_of_modifier ht ?_
    rw [featuresByModifier, hm]
    simp only [if_pos, if_neg htileable, if_pos hmutable]
  | incompressible ht hm ho hc hmutable hn =>
    have htileable := not_or.2 ⟨ho, not_not_intro hc⟩
    rw [decided, selectedFeatures, if_pos ht, featuresByModifier, hm]
    simp only [if_pos, if_neg htileable, if_neg hmutable, if_neg hn]
    rfl
  | noFeatures hs =>
    rw [decided_of_selects hs, supportWith, if_pos rfl]
  | notFlat hs hne hf hd =>
    rw [decided_of_selects hs, supportWith, if_neg hne, if_pos ⟨hf, hd⟩]
  | badImageType hs hne hd hi =>
    rw [decided_of_selects hs, supportWith, if_neg hne, if_neg (flat_iff.1 (.inr hd)),
      bounds?_eq_none_iff.2 hi]
  | ungranted hs hne hf hi hu =>
    have hb : q.imageType.bounds? ≠ none := mt bounds?_eq_none_iff.1 (not_not_intro hi)
    obtain ⟨⟨extent, mipLevels, arrayLayers⟩, hb⟩ := Option.ne_none_iff_exists'.1 hb
    rw [decided_of_selects hs, supportWith, if_neg hne, if_neg (flat_iff.1 hf), hb]
    simp only [hu]
  | supported hs hallowed hb =>
    rw [decided_of_selects hs, supportWith, if_neg hallowed.nonempty,
      if_neg (flat_iff.1 hallowed.flat), hb]
    simp only [unmet?_eq_none_iff.2 hallowed.granted]

theorem exists_decision_of_selects (hs : d.Selects q features) : ∃ x, d.Decision q x := by
  by_cases hne : features = ∅
  · exact ⟨_, .noFeatures (hne ▸ hs)⟩
  by_cases hf : q.imageType = .twoD ∨ q.format.hasDepthOrStencil = false
  · by_cases hi : q.imageType ∈ [.oneD, .twoD, .threeD]
    · have hb : q.imageType.bounds? ≠ none := mt bounds?_eq_none_iff.1 (not_not_intro hi)
      obtain ⟨⟨extent, mipLevels, arrayLayers⟩, hb⟩ := Option.ne_none_iff_exists'.1 hb
      rcases hu : q.unmet? features with _ | ⟨usage, feature⟩
      · exact ⟨_, .supported hs ⟨hne, hf, unmet?_eq_none_iff.1 hu⟩ hb⟩
      · exact ⟨_, .ungranted hs hne hf hi hu⟩
    · have hd : q.format.hasDepthOrStencil = false :=
        hf.resolve_left fun h2d ↦ hi (by simp [h2d])
      exact ⟨_, .badImageType hs hne hd hi⟩
  · rw [not_or, Bool.not_eq_false] at hf
    exact ⟨_, .notFlat hs hne hf.1 hf.2⟩

theorem exists_decision (d : Device) (q : ImageQuery) : ∃ x, d.Decision q x := by
  by_cases ht : q.tiling = .byModifier
  · rcases hm : q.modifier with _ | m
    · exact ⟨_, .missingModifier ht hm⟩
    by_cases hl : m = .linear
    · subst hl
      exact exists_decision_of_selects (.linearModifier ht hm)
    by_cases hc : m = .compressed
    · subst hc
      by_cases hn : (d.features q.format).optimal = ∅ ∨ ¬ q.format.canBeTiled = true
      · exact ⟨_, .notTileable ht hm hn⟩
      rw [not_or, Classical.not_not] at hn
      by_cases hmutable : .mutableFormat ∈ q.flags
      · exact ⟨_, .mutableFormat ht hm hn.1 hn.2 hmutable⟩
      by_cases hcompresses : d.compresses q.surface = true
      · exact exists_decision_of_selects
          (.compressedModifier ht hm hn.1 hn.2 hmutable hcompresses)
      · exact ⟨_, .incompressible ht hm hn.1 hn.2 hmutable hcompresses⟩
    · exact ⟨_, .unknownModifier ht hm hl hc⟩
  by_cases hl : q.tiling = .linear
  · exact exists_decision_of_selects (.linear hl)
  by_cases ho : q.tiling = .optimal
  · exact exists_decision_of_selects (.optimal ho)
  · exact ⟨_, .badTiling (by simp [hl, ho, ht])⟩

end TexelFormats.Device
