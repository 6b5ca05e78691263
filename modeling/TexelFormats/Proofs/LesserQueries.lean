import TexelFormats.Proofs.Compression
import TexelFormats.Proofs.Support

namespace TexelFormats

namespace ImageQuery

variable {p q : ImageQuery} {features : FeatureSet}

/-- The query `p` is for an image like that of `q` and asks for nothing that `q` does not ask for.
Usages and flags that bear on no support are left open, and so are handles and views. -/
structure AsksNoMore (p q : ImageQuery) : Prop where
  format : p.format = q.format
  imageType : p.imageType = q.imageType
  tiling : p.tiling = q.tiling
  modifier : p.modifier = q.modifier
  usage : ∀ u ∈ [.sampled, .storage, .colorAttachment, .depthStencilAttachment],
    u ∈ p.usage → u ∈ q.usage
  stencilUsage : ∀ u ∈ [.storage, .sampled, .inputAttachment],
    u ∈ p.actualStencilUsage → u ∈ q.actualStencilUsage
  flags : ∀ c ∈ [.mutableFormat, .cubeCompatible], c ∈ p.flags → c ∈ q.flags
  extended : .extendedUsage ∈ q.flags → .extendedUsage ∈ p.flags

theorem AsksNoMore.allowedBy (h : p.AsksNoMore q) (hq : q.AllowedBy features) :
    p.AllowedBy features := by
  refine ⟨hq.nonempty, ?_, ?_⟩
  · rw [h.imageType, h.format]
    exact hq.flat
  · refine hq.granted.imp h.extended fun hg u hu x hx ↦ ?_
    -- a usage that needs a feature is one of those that are compared
    have hmem : u ∈ [.sampled, .storage, .colorAttachment, .depthStencilAttachment] := by
      cases u <;> simp [Usage.needs?] at hx ⊢
    exact hg u (h.usage u hmem hu) x hx

theorem AsksNoMore.sampleCounts_subset (h : p.AsksNoMore q) :
    q.sampleCounts features ⊆ p.sampleCounts features := by
  by_cases hq : q.tiling = .optimal ∧ q.imageType = .twoD ∧
      features.Meets {.colorAttachment, .depthStencilAttachment} ∧
      .cubeCompatible ∉ q.flags ∧ .storage ∉ q.usage
  · obtain ⟨ht, hi, hmeets, hc, hs⟩ := hq
    have hp : p.tiling = .optimal ∧ p.imageType = .twoD ∧
        features.Meets {.colorAttachment, .depthStencilAttachment} ∧
        .cubeCompatible ∉ p.flags ∧ .storage ∉ p.usage :=
      ⟨h.tiling.trans ht, h.imageType.trans hi, hmeets, mt (h.flags _ (by simp)) hc,
        mt (h.usage _ (by simp)) hs⟩
    rw [sampleCounts, if_pos ⟨ht, hi, hmeets, hc, hs⟩, sampleCounts, if_pos hp]
    decide
  · rw [sampleCounts, if_neg hq]
    exact one_subset_sampleCounts p features

end ImageQuery

namespace Device

open ImageQuery Logged

variable {d : Device} {p q : ImageQuery} {all : Features} {features : FeatureSet} {s : Support}

theorem compresses_surface_of_asksNoMore (h : p.AsksNoMore q)
    (hq : d.compresses q.surface = true) : d.compresses p.surface = true := by
  obtain ⟨-, hleaves⟩ := compresses_iff.1 hq
  have hs : p.surface.AsksNoMore q.surface := {
    format := h.format
    flat := fun hp ↦ hleaves.flat (h.imageType.symm.trans hp)
    storage := by
      simp only [FlagSet.mem_union]
      exact Or.imp (h.usage _ (by simp)) (h.stencilUsage _ (by simp))
    stencilRead := Or.imp (h.stencilUsage _ (by simp)) (h.stencilUsage _ (by simp))
    samples := Nat.le_max_left _ _
    stencilAsUint := id }
  exact compresses_of_asksNoMore hs id id hq

theorem selectedFeatures_of_asksNoMore (h : p.AsksNoMore q)
    (hq : (d.selectedFeatures q all).result = .ok features) :
    (d.selectedFeatures p all).result = .ok features := by
  by_cases ht : q.tiling = .byModifier
  · rw [selectedFeatures, if_pos ht, featuresByModifier_eq_ok_iff] at hq
    rw [selectedFeatures, if_pos (h.tiling.trans ht), featuresByModifier_eq_ok_iff, h.modifier,
      h.format]
    refine hq.imp_right ?_
    rintro ⟨hm, ho, hc, hmutable, hcompresses, hfeatures⟩
    exact ⟨hm, ho, hc, mt (h.flags _ (by simp)) hmutable, compresses_surface_of_asksNoMore h hcompresses,
      hfeatures⟩
  · rw [selectedFeatures, if_neg ht] at hq
    rw [selectedFeatures, if_neg (h.tiling ▸ ht), h.tiling]
    exact hq

/-- An image of which less is asked is supported as well, with the same features and size and at
least as many sample counts. -/
theorem support_of_asksNoMore (h : p.AsksNoMore q) (hq : (d.support q).result = .ok s) :
    ∃ t, (d.support p).result = .ok t ∧ t.features = s.features ∧ t.limits.SameSize s.limits ∧
      s.limits.sampleCounts ⊆ t.limits.sampleCounts := by
  obtain ⟨hs, hallowed, hcounts⟩ := allowedBy_of_support hq
  have hp : (d.selectedFeatures p (d.features p.format)).result = .ok s.features := by
    rw [h.format]
    exact selectedFeatures_of_asksNoMore h hs
  obtain ⟨t, ht, hfeatures, hsize, hcounts'⟩ :=
    support_of_allowedBy hq hp (h.allowedBy hallowed) h.imageType
  refine ⟨t, ht, hfeatures, hsize, ?_⟩
  rw [hcounts, hcounts']
  exact h.sampleCounts_subset

theorem support_of_asksNoMore_compressed : ∃ s t : Support,
    ((default : Device).support {
      format := .r8g8b8a8Unorm, tiling := .byModifier, modifier := some .compressed
      usage := {.sampled, .colorAttachment}, flags := {.cubeCompatible} }).result = .ok s ∧
    ((default : Device).support {
      format := .r8g8b8a8Unorm, tiling := .byModifier, modifier := some .compressed
      usage := {.transferDst, .sampled}, flags := {.extendedUsage}
      stencilUsage := some {.transferSrc}, handleTypes := some {.dmaBuf} }).result = .ok t ∧
    t.features = s.features ∧ t.limits.SameSize s.limits ∧
    s.limits.sampleCounts ⊆ t.limits.sampleCounts := by
  have hless : AsksNoMore {
      format := .r8g8b8a8Unorm, tiling := .byModifier, modifier := some .compressed
      usage := {.transferDst, .sampled}, flags := {.extendedUsage}
      stencilUsage := some {.transferSrc}, handleTypes := some {.dmaBuf} } {
      format := .r8g8b8a8Unorm, tiling := .byModifier, modifier := some .compressed
      usage := {.sampled, .colorAttachment}, flags := {.cubeCompatible} } :=
    ⟨rfl, rfl, rfl, rfl, by decide, by decide, by decide, by decide⟩
  obtain ⟨t, ht, hfeatures, hsize, hcounts⟩ :=
    support_of_asksNoMore (d := default) hless rfl
  exact ⟨_, t, rfl, ht, hfeatures, hsize, hcounts⟩

end Device

end TexelFormats
