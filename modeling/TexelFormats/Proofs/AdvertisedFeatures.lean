import TexelFormats.Device.Queries
import TexelFormats.Proofs.FlagSets
import TexelFormats.Proofs.Responses
import TexelFormats.Proofs.Support

namespace TexelFormats

namespace ImageQuery

variable {q : ImageQuery} {features : FeatureSet} {why why' : Refusal}

structure Multisampled (q : ImageQuery) (features : FeatureSet) : Prop where
  tiled : q.tiling = .optimal
  flat : q.imageType = .twoD
  attachable : .colorAttachment ∈ features ∨ .depthStencilAttachment ∈ features
  notCube : .cubeCompatible ∉ q.flags
  notStored : .storage ∉ q.usage

theorem multisampled_iff : q.Multisampled features ↔
    q.tiling = .optimal ∧ q.imageType = .twoD ∧
      features.Meets {.colorAttachment, .depthStencilAttachment} ∧
      .cubeCompatible ∉ q.flags ∧ .storage ∉ q.usage := by
  rw [meets_attachments_iff]
  exact ⟨fun ⟨ht, hf, ha, hc, hs⟩ ↦ ⟨ht, hf, ha, hc, hs⟩,
    fun ⟨ht, hf, ha, hc, hs⟩ ↦ ⟨ht, hf, ha, hc, hs⟩⟩

theorem sampleCounts_iff :
    (q.sampleCounts features = {.one, .two, .four} ↔ q.Multisampled features) ∧
      (q.sampleCounts features = {.one} ↔ ¬ q.Multisampled features) := by
  have hne : ({.one} : SampleCounts) ≠ {.one, .two, .four} := by decide
  rw [multisampled_iff, sampleCounts]
  split <;> simp [*, hne.symm]

theorem AllowedBy.not_refusedFor (h : q.AllowedBy features) : ¬ q.RefusedFor features why := by
  intro hr
  cases hr with
  | noFeatures he => exact h.nonempty he
  | notFlat he hf hd => exact flat_iff.1 h.flat ⟨hf, hd⟩
  | ungranted he hf hx hu =>
    obtain ⟨before, after, -, -, hu, hg⟩ := hu
    exact h.granted.elim hx fun hall ↦ hg (hall _ hu)

theorem RefusedFor.unique (ht : q.imageType.bounds?.isSome = true) (h : q.RefusedFor features why)
    (h' : q.RefusedFor features why') : why = why' := by
  have hw := (Device.supportWith_of_refusedFor ht h).symm.trans
    (Device.supportWith_of_refusedFor ht h')
  simpa using hw

theorem isSome_bounds?
    (h : q.imageType = .oneD ∨ q.imageType = .twoD ∨ q.imageType = .threeD) :
    q.imageType.bounds?.isSome = true := by
  rcases h with h | h | h <;> rw [h] <;> rfl

end ImageQuery

namespace Device

open ImageQuery Logged

variable {d : Device} {q : ImageQuery} {r : Response} {all : Features} {features : FeatureSet}

theorem externalFor_eq (h : q.namedHandleTypes = none) : externalFor q = pure none := by
  simp [externalFor, h]

theorem queryImage_of_features (hb : q.imageType.bounds?.isSome = true)
    (hn : q.namedHandleTypes = none) (hr : r.isOpen .filterCubic = false)
    (hs : (d.selectedFeatures q (d.features q.format)).result = .ok features) :
    (∃ reply, (d.queryImage q r).result = .ok reply ∧ reply.refusal = none ∧
        q.AllowedBy features ∧
        reply.response.properties.sampleCounts = q.sampleCounts features) ∨
      ∃ reply why, (d.queryImage q r).result = .ok reply ∧ reply.refusal = some why ∧
        q.RefusedFor features why := by
  have hsupport : (d.support q).result = (supportWith q features).result := by
    rw [result_support, hs]
    rfl
  have hanswerable : r.Answerable q := by
    intro ho
    simp [hr] at ho
  rcases q.allowedBy_or_refusedFor features with h | ⟨why, h⟩
  · obtain ⟨⟨extent, mipLevels, arrayLayers⟩, hb⟩ := Option.isSome_iff_exists.1 hb
    have hok := hsupport.trans
      (supportWith_eq_ok_iff.2 ⟨h, extent, mipLevels, arrayLayers, hb, rfl⟩)
    have hv := verdict_eq_ok_iff.2 ⟨hok, by rw [externalFor_eq hn, result_pure]⟩
    exact .inl ⟨_, queryImage_of_ok hv hanswerable, rfl, h, rfl⟩
  · have hv := verdict_of_error (hsupport.trans (supportWith_of_refusedFor hb h))
    exact .inr ⟨_, why, queryImage_of_refused hv, rfl, h⟩

/-- An image can be created exactly where the features that its format is said to have allow it.
Otherwise the refusal names the first thing that they do not allow. -/
theorem queryImage_agrees_with_queryFormat {requested : List FormatOutput}
    (h : .properties3 ∈ requested) (ht : q.tiling = .linear ∨ q.tiling = .optimal)
    (hi : q.imageType = .oneD ∨ q.imageType = .twoD ∨ q.imageType = .threeD)
    (hn : q.namedHandleTypes = none) (hr : r.isOpen .filterCubic = false) :
    ∃ all features reply,
      (d.queryFormat q.format requested).value.full = some all ∧
      features = (if q.tiling = .linear then all.linear else all.optimal) ∧
      (d.queryImage q r).result = .ok reply ∧
      (reply.refusal = none ↔ q.AllowedBy features) ∧
      (∀ why, reply.refusal = some why ↔ q.RefusedFor features why) ∧
      (reply.refusal = none →
        (reply.response.properties.sampleCounts = {.one, .two, .four} ↔
          q.Multisampled features) ∧
        (reply.response.properties.sampleCounts = {.one} ↔ ¬ q.Multisampled features)) := by
  have hfull : (d.queryFormat q.format requested).value.full = some (d.features q.format) := by
    simp [value_queryFormat, h]
  have hb := isSome_bounds? hi
  -- exactly one of the two holds, and each settles every part of the answer
  rcases queryImage_of_features hb hn hr (result_selectedFeatures ht) with
    ⟨reply, hreply, hnone, hallowed, hcounts⟩ | ⟨reply, why, hreply, hsome, hrefused⟩
  · refine ⟨_, _, reply, hfull, rfl, hreply, iff_of_true hnone hallowed, fun why ↦ ?_, fun _ ↦ ?_⟩
    · exact iff_of_false (by simp [hnone]) hallowed.not_refusedFor
    · rw [hcounts]
      exact sampleCounts_iff
  · have hsome' : reply.refusal ≠ none := by simp [hsome]
    refine ⟨_, _, reply, hfull, rfl, hreply, ?_, fun why' ↦ ?_, fun hnone ↦ absurd hnone hsome'⟩
    · exact iff_of_false hsome' fun hallowed ↦ hallowed.not_refusedFor hrefused
    · rw [hsome, Option.some.injEq]
      exact ⟨fun he ↦ he ▸ hrefused, fun hrefused' ↦ hrefused.unique hb hrefused'⟩

theorem queryImage_agrees_with_queryFormat_of_unattachable : ∃ reply,
    ((default : Device).queryImage {
      format := .r8g8b8a8Unorm, tiling := .linear
      usage := {.sampled, .depthStencilAttachment} } {}).result = .ok reply ∧
    reply.refusal = some (.usageNotSupported .r8g8b8a8Unorm .depthStencilAttachment) := by
  obtain ⟨all, features, reply, hfull, rfl, hreply, -, hrefused, -⟩ :=
    queryImage_agrees_with_queryFormat (d := default) (r := {}) (q := {
      format := .r8g8b8a8Unorm, tiling := .linear
      usage := {.sampled, .depthStencilAttachment} })
      (.head []) (.inl rfl) (.inr (.inl rfl)) rfl rfl
  cases hfull
  have hsampled : Usage.sampled.GrantedBy
      ((default : Device).features .r8g8b8a8Unorm).linear := by
    rintro _ ⟨⟩
    decide
  refine ⟨reply, hreply, (hrefused _).2 (.ungranted ?_ (.inl rfl) ?_
    ⟨[.sampled, .storage, .colorAttachment], [], rfl, ?_, ?_, fun hg ↦ ?_⟩)⟩
  · decide
  · decide
  · simpa using hsampled
  · decide
  · exact absurd (hg _ rfl) (by decide)

end Device

end TexelFormats
