import TexelFormats.Proofs.OfferedFeatures
import TexelFormats.Proofs.Support

namespace TexelFormats

namespace Facts

variable {k : Facts} {x : Feature}

theorem isUntiled_iff : k.isUntiled = true ↔
    k.format ∈ [.packed422Gbgr, .packed422Bgrg, .biplanar420] := by
  have hgbgr : Format.packed422Gbgr ≠ .triplanar420 := by decide
  have hbgrg : Format.packed422Bgrg ≠ .triplanar420 := by decide
  have hbiplanar : Format.biplanar420 ≠ .triplanar420 := by decide
  rw [isUntiled, Bool.and_eq_true, sharesColor_iff, decide_eq_true_iff]
  simp only [List.mem_cons, List.not_mem_nil, or_false]
  constructor
  · rintro ⟨h | h | h | h, hne⟩
    · exact .inl h
    · exact .inr (.inl h)
    · exact .inr (.inr h)
    · exact absurd h hne
  · rintro (h | h | h)
    · exact ⟨.inl h, h ▸ hgbgr⟩
    · exact ⟨.inr (.inl h), h ▸ hbgrg⟩
    · exact ⟨.inr (.inr (.inl h)), h ▸ hbiplanar⟩

theorem offersOptimal_of_offersLinear (hk : k.isUntiled = false) (h : k.offersLinear x = true) :
    k.offersOptimal x = true := by
  simp only [offersLinear, offersOptimal, hk, Bool.not_false, Bool.and_true, Bool.true_and,
    Bool.and_eq_true, Bool.or_eq_true] at h ⊢
  exact .inl h.2

theorem offersLinear_iff (hk : k.isUntiled = false) (hf : k.format ≠ .d32SfloatS8Uint) :
    k.offersLinear x = true ↔ k.offersOptimal x = true ∧ x ≠ .depthStencilAttachment := by
  have hdepth : k.offersImage .depthStencilAttachment = false := rfl
  by_cases hx : x = .depthStencilAttachment
  · subst hx
    simp [offersLinear, hdepth]
  · simp [offersLinear, offersOptimal, hk, hf, hx]

theorem linear_subset_optimal (hk : k.isUntiled = false) :
    k.features.linear ⊆ k.features.optimal := by
  refine FlagSet.subset_of_owned k.owned_features.linear fun x hx ↦ ?_
  rw [mem_linear_features] at hx
  exact mem_optimal_features.2 (offersOptimal_of_offersLinear hk hx)

theorem linear_eq_optimal_sdiff (hk : k.isUntiled = false) (hf : k.format ≠ .d32SfloatS8Uint) :
    k.features.linear = k.features.optimal \ {.depthStencilAttachment} := by
  have howned := k.owned_features
  refine FlagSet.ext_of_owned howned.linear (howned.optimal.sdiff _) fun x ↦ ?_
  rw [mem_linear_features, offersLinear_iff hk hf, FlagSet.mem_sdiff, FlagSet.mem_singleton,
    mem_optimal_features]

theorem optimal_eq_empty (hk : k.isUntiled = true) : k.features.optimal = ∅ := by
  refine FlagSet.ext_of_owned k.owned_features.optimal FlagSet.owned_empty fun x ↦ ?_
  rw [mem_optimal_features]
  simp [offersOptimal, hk]

theorem linear_eq_empty (hf : k.format = .d32SfloatS8Uint) : k.features.linear = ∅ := by
  refine FlagSet.ext_of_owned k.owned_features.linear FlagSet.owned_empty fun x ↦ ?_
  rw [mem_linear_features]
  simp [offersLinear, hf]

theorem linear_ne_empty (ho : k.features.optimal ≠ ∅) (hf : k.format ≠ .d32SfloatS8Uint)
    (hs : k.depthFormat.isSome = true → k.isSampled = true) : k.features.linear ≠ ∅ := by
  have hk : k.isUntiled = false := Bool.eq_false_iff.2 (mt optimal_eq_empty ho)
  obtain ⟨x, hx⟩ := FlagSet.exists_mem_of_owned k.owned_features.optimal ho
  rw [mem_optimal_features] at hx
  suffices ∃ y, k.offersLinear y = true by
    obtain ⟨y, hy⟩ := this
    rw [← mem_linear_features] at hy
    exact fun he ↦ FlagSet.not_mem_empty (he ▸ hy)
  by_cases hdepth : x = .depthStencilAttachment
  · subst hdepth
    have hsome : k.depthFormat.isSome = true := by
      simpa [offersOptimal, offersImage, hk] using hx
    refine ⟨.sampledImage, ?_⟩
    simp [offersLinear, offersImage, hf, hs hsome]
  · exact ⟨x, (offersLinear_iff hk hf).2 ⟨hx, hdepth⟩⟩

end Facts

namespace Format

variable {f : Format}

theorem mem_of_isSome_depthFormat? (h : f.depthFormat?.isSome = true) :
    f ∈ [d16Unorm, x8D24UnormPack32, d24UnormS8Uint, d32Sfloat, d32SfloatS8Uint, s8Uint] := by
  unfold depthFormat? at h
  split at h
  · simp [*]
  split at h
  · rename_i hf
    rcases hf with hf | hf <;> simp [hf]
  split at h
  · rename_i hf
    rcases hf with hf | hf | hf <;> simp [hf]
  · simp at h

theorem isSampled_of_depthFormat (h : f.depthFormat?.isSome = true) :
    f.acceptedByTexture = true ∧ f.hasPowerOfTwoBlock = true := by
  have hf := mem_of_isSome_depthFormat? h
  simp only [List.mem_cons, List.not_mem_nil, or_false] at hf
  rcases hf with rfl | rfl | rfl | rfl | rfl | rfl <;> exact ⟨rfl, rfl⟩

end Format

namespace Device

open ImageQuery

variable {d : Device} {f : Format} {k : Facts} {q : ImageQuery} {s t : Support}

theorem linear_subset_optimal (d : Device)
    (hf : f ∉ [.packed422Gbgr, .packed422Bgrg, .biplanar420]) :
    (d.features f).linear ⊆ (d.features f).optimal := by
  obtain h | ⟨k, hk, h⟩ := d.features_cases f
  · rw [h]
    rfl
  · obtain ⟨rfl, -⟩ := facts?_eq_some hk
    rw [h]
    exact k.linear_subset_optimal (Bool.eq_false_iff.2 (mt Facts.isUntiled_iff.1 hf))

theorem optimal_eq_empty (d : Device)
    (hf : f ∈ [.packed422Gbgr, .packed422Bgrg, .biplanar420]) : (d.features f).optimal = ∅ := by
  obtain h | ⟨k, hk, h⟩ := d.features_cases f
  · rw [h]
    rfl
  · obtain ⟨rfl, -⟩ := facts?_eq_some hk
    rw [h]
    exact k.optimal_eq_empty (Facts.isUntiled_iff.2 hf)

theorem linear_eq_empty (d : Device) (hf : f = .d32SfloatS8Uint) : (d.features f).linear = ∅ := by
  obtain h | ⟨k, hk, h⟩ := d.features_cases f
  · rw [h]
    rfl
  · obtain ⟨rfl, -⟩ := facts?_eq_some hk
    rw [h]
    exact k.linear_eq_empty hf

theorem linear_eq_optimal_sdiff (ho : (d.features f).optimal ≠ ∅) (hf : f ≠ .d32SfloatS8Uint) :
    (d.features f).linear = (d.features f).optimal \ {.depthStencilAttachment} := by
  obtain h | ⟨k, hk, h⟩ := d.features_cases f
  · exact absurd (congrArg Features.optimal h) ho
  · obtain ⟨rfl, -⟩ := facts?_eq_some hk
    rw [h] at ho ⊢
    exact k.linear_eq_optimal_sdiff (Bool.eq_false_iff.2 (mt k.optimal_eq_empty ho)) hf

theorem isSampled_of_accepted (hk : d.facts? f = some k)
    (h : f.acceptedByTexture = true ∧ f.hasPowerOfTwoBlock = true) : k.isSampled = true := by
  obtain ⟨-, hc, ht, -⟩ := facts?_eq_some hk
  obtain ⟨htexture, hblock⟩ := h
  rw [Format.hasPowerOfTwoBlock, hc, Option.any_some] at hblock
  rw [Facts.isSampled, ht, htexture, hblock]
  rfl

theorem isSampled_of_depthFormat (hk : d.facts? f = some k) (h : k.depthFormat.isSome = true) :
    k.isSampled = true := by
  obtain ⟨-, -, -, hd⟩ := facts?_eq_some hk
  rw [hd] at h
  exact isSampled_of_accepted hk (Format.isSampled_of_depthFormat h)

theorem linear_ne_empty (ho : (d.features f).optimal ≠ ∅) (hf : f ≠ .d32SfloatS8Uint) :
    (d.features f).linear ≠ ∅ := by
  obtain h | ⟨k, hk, h⟩ := d.features_cases f
  · exact absurd (congrArg Features.optimal h) ho
  · obtain ⟨rfl, -⟩ := facts?_eq_some hk
    rw [h] at ho ⊢
    exact Facts.linear_ne_empty ho hf (isSampled_of_depthFormat hk)

theorem support_optimal_of_linear (h : (d.support (q.tiled .linear)).result = .ok s)
    (hf : q.format ∉ [.packed422Gbgr, .packed422Bgrg, .biplanar420]) :
    ∃ t, (d.support (q.tiled .optimal)).result = .ok t ∧ s.features ⊆ t.features ∧
      s.limits.sampleCounts ⊆ t.limits.sampleCounts := by
  obtain ⟨-, hallowed, hcounts⟩ := allowedBy_of_support h
  have hsubset : s.features ⊆ (d.features q.format).optimal := by
    rw [features_of_support_linear h]
    exact linear_subset_optimal d hf
  have hoptimal : (q.tiled .optimal).AllowedBy (d.features q.format).optimal := by
    refine ⟨fun he ↦ ?_, hallowed.flat, hallowed.granted.imp_right fun hg u hu ↦ ?_⟩
    · rw [he] at hsubset
      exact hallowed.nonempty (FlagSet.eq_empty_of_subset hsubset)
    · exact (hg u hu).mono hsubset
  obtain ⟨t, ht, hfeatures, -, hcounts'⟩ :=
    support_of_allowedBy h result_selectedFeatures_optimal hoptimal rfl
  refine ⟨t, ht, hfeatures ▸ hsubset, ?_⟩
  have hone : (q.tiled .linear).sampleCounts s.features = {.one} :=
    sampleCounts_of_not_optimal (by simp only [tiled]; decide)
  rw [hcounts, hone, hcounts']
  exact one_subset_sampleCounts _ _

theorem support_linear_of_optimal (h : (d.support (q.tiled .optimal)).result = .ok t)
    (hf : q.format ≠ .d32SfloatS8Uint)
    (hu : .extendedUsage ∈ q.flags ∨ .depthStencilAttachment ∉ q.usage) :
    ∃ s, (d.support (q.tiled .linear)).result = .ok s ∧
      s.features = t.features \ {.depthStencilAttachment} := by
  obtain ⟨-, hallowed, -⟩ := allowedBy_of_support h
  have hnonempty := hallowed.nonempty
  rw [features_of_support_optimal h] at hallowed hnonempty ⊢
  have hsdiff := linear_eq_optimal_sdiff hnonempty hf
  have hlinear : (q.tiled .linear).AllowedBy (d.features q.format).linear := by
    refine ⟨linear_ne_empty hnonempty hf, hallowed.flat, ?_⟩
    rcases hallowed.granted with hx | hg
    · exact .inl hx
    refine hu.imp_right fun hdepth u hmem x hx ↦ ?_
    rw [hsdiff, FlagSet.mem_sdiff, FlagSet.mem_singleton]
    refine ⟨hg u hmem x hx, ?_⟩
    rintro rfl
    cases u <;> simp [Usage.needs?] at hx
    exact hdepth hmem
  obtain ⟨s, hs, hfeatures, -⟩ :=
    support_of_allowedBy h result_selectedFeatures_linear hlinear rfl
  exact ⟨s, hs, hfeatures.trans hsdiff⟩

/-- Linear and optimal tiling support the same images with the same features, but for what is known
to be wrong with each: three formats are never tiled, one is never linear, and no depth can be drawn
to a linear image. -/
theorem linear_and_optimal_differ_by_errata (d : Device) (q : ImageQuery) :
    (∀ s, (d.support (q.tiled .linear)).result = .ok s →
        q.format ∉ [.packed422Gbgr, .packed422Bgrg, .biplanar420] →
        ∃ t, (d.support (q.tiled .optimal)).result = .ok t ∧ s.features ⊆ t.features ∧
          s.limits.sampleCounts ⊆ t.limits.sampleCounts) ∧
      (∀ t, (d.support (q.tiled .optimal)).result = .ok t → q.format ≠ .d32SfloatS8Uint →
        .extendedUsage ∈ q.flags ∨ .depthStencilAttachment ∉ q.usage →
        ∃ s, (d.support (q.tiled .linear)).result = .ok s ∧
          s.features = t.features \ {.depthStencilAttachment}) ∧
      (q.format ∈ [.packed422Gbgr, .packed422Bgrg, .biplanar420] →
        ∀ t, (d.support (q.tiled .optimal)).result ≠ .ok t) ∧
      (q.format = .d32SfloatS8Uint → ∀ s, (d.support (q.tiled .linear)).result ≠ .ok s) := by
  refine ⟨fun s hs hf ↦ support_optimal_of_linear hs hf,
    fun t ht hf hu ↦ support_linear_of_optimal ht hf hu, fun hf t ht ↦ ?_, fun hf s hs ↦ ?_⟩
  · obtain ⟨-, hallowed, -⟩ := allowedBy_of_support ht
    exact hallowed.nonempty ((features_of_support_optimal ht).trans (optimal_eq_empty d hf))
  · obtain ⟨-, hallowed, -⟩ := allowedBy_of_support hs
    exact hallowed.nonempty ((features_of_support_linear hs).trans (linear_eq_empty d hf))

theorem linear_and_optimal_differ_by_errata_extended : ∃ s t : Support,
    ((default : Device).support (tiled {
      format := .d24UnormS8Uint, usage := {.depthStencilAttachment}
      flags := {.extendedUsage} } .linear)).result = .ok s ∧
    ((default : Device).support (tiled {
      format := .d24UnormS8Uint, usage := {.depthStencilAttachment}
      flags := {.extendedUsage} } .optimal)).result = .ok t ∧
    s.features ⊆ t.features ∧ s.features = t.features \ {.depthStencilAttachment} ∧
    s.limits.sampleCounts ⊆ t.limits.sampleCounts := by
  obtain ⟨hlinear, hoptimal, -, -⟩ := linear_and_optimal_differ_by_errata default {
    format := .d24UnormS8Uint, usage := {.depthStencilAttachment}, flags := {.extendedUsage} }
  obtain ⟨s, hs, hfeatures⟩ := hoptimal _ rfl (by decide) (.inl (by decide))
  obtain ⟨t, ht, hsubset, hcounts⟩ := hlinear s hs (by decide)
  cases ht
  exact ⟨s, _, hs, rfl, hsubset, hfeatures, hcounts⟩

end Device

end TexelFormats
