import TexelFormats.Proofs.ModifierList
import TexelFormats.Proofs.Responses

namespace TexelFormats

inductive Inquiry where
  | format (f : Format) (requested : List FormatOutput)
  | image (q : ImageQuery) (r : Response)
  | externalBuffer (h : HandleTypes)
  | sparse (q : SparseQuery)

/-- All that is seen of an answer, the records apart. Of an image query that breaks the rules of
asking there is still what it has written of the response. -/
inductive Outcome where
  | format (p : FormatProperties)
  | image (response : Response) (result : Except Violation (Option Refusal))
  | externalBuffer (m : ExternalMemory)
  | sparse (ps : List SparseProperties)

def Device.outcome (d : Device) : Inquiry → Outcome
  | .format f requested => .format (d.queryFormat f requested).value
  | .image q r =>
    let done := (d.replyImage q).run r
    .image done.response done.result
  | .externalBuffer h => .externalBuffer (d.queryExternalBuffer h)
  | .sparse q => .sparse (d.querySparse q)

/-- One channel of eight bits. The signed normalized form is left out: it is compressed nowhere. -/
def Format.IsNarrow (f : Format) : Prop := f ∈ [.r8Unorm, .r8Uint, .r8Sint, .r8Srgb]

def ImageQuery.NamesCompressed (q : ImageQuery) : Prop :=
  q.tiling = .byModifier ∧ q.modifier = some .compressed

namespace Inquiry

def IsNarrow : Inquiry → Prop
  | .format f _ => f.IsNarrow
  | .image q _ => q.format.IsNarrow
  | .externalBuffer _ | .sparse _ => False

def NamesCompressed : Inquiry → Prop
  | .image q _ => q.NamesCompressed
  | .format _ _ | .externalBuffer _ | .sparse _ => False

end Inquiry

def FormatProperties.withoutCompressed (p : FormatProperties) : FormatProperties :=
  { p with modifiers := p.modifiers.map (·.filter (·.modifier ≠ .compressed)) }

def Outcome.withoutCompressed : Outcome → Outcome
  | .format p => .format p.withoutCompressed
  | .image response result => .image response result
  | .externalBuffer m => .externalBuffer m
  | .sparse ps => .sparse ps

namespace Device

open Logged

variable {d e : Device} {f : Format} {q : ImageQuery} {all : Features} {i : Inquiry}

theorem features_congr (h : d.filtersCubic = e.filtersCubic) : d.features f = e.features f := by
  simp only [features, facts?, h]

theorem not_canCompress_r8Snorm : ¬ d.CanCompress .r8Snorm := by
  rintro ⟨c, hc, -, hsigned, -⟩
  have h : Format.r8Snorm.descriptor?.all Descriptor.isSignedNormalized = true := by decide
  rw [hc] at h
  exact hsigned h

theorem canCompress_congr (h : d.compresses8bpp = e.compresses8bpp ∨ ¬ f.IsNarrow) :
    d.CanCompress f ↔ e.CanCompress f := by
  by_cases hs : f = .r8Snorm
  · subst hs
    exact iff_of_false not_canCompress_r8Snorm not_canCompress_r8Snorm
  rcases h with h | h
  · simp only [CanCompress, h]
  · have hwide : f ∉ [Format.r8Unorm, .r8Snorm, .r8Uint, .r8Sint, .r8Srgb] := by
      simp only [Format.IsNarrow, List.mem_cons, not_or] at h ⊢
      exact ⟨h.1, hs, h.2⟩
    simp [CanCompress, hwide]

theorem modifiers_congr (hf : d.features f = e.features f)
    (hc : d.CanCompress f ↔ e.CanCompress f) : d.modifiers f = e.modifiers f := by
  have hplain : d.compresses { format := f } = e.compresses { format := f } :=
    compresses_congr rfl hc
  simp only [modifiers, hf, hplain]

theorem featuresByModifier_congr (hm : q.modifier ≠ some .compressed) :
    d.featuresByModifier q all = e.featuresByModifier q all := by
  unfold featuresByModifier
  cases hq : q.modifier with
  | none => rfl
  | some m =>
    have hc : m ≠ .compressed := fun h ↦ hm (h ▸ hq)
    simp only [if_neg hc]

theorem result_selectedFeatures_congr
    (hc : q.NamesCompressed → (d.CanCompress q.format ↔ e.CanCompress q.format)) :
    (d.selectedFeatures q all).result = (e.selectedFeatures q all).result := by
  unfold selectedFeatures
  by_cases ht : q.tiling = .byModifier
  · rw [if_pos ht, if_pos ht]
    by_cases hm : q.modifier = some .compressed
    · have hsurface : d.compresses q.surface = e.compresses q.surface :=
        compresses_congr rfl (hc ⟨ht, hm⟩)
      simp only [result_featuresByModifier_compressed hm, hsurface]
    · rw [featuresByModifier_congr hm]
  · rw [if_neg ht, if_neg ht]

theorem result_support_congr (hf : d.features q.format = e.features q.format)
    (hc : q.NamesCompressed → (d.CanCompress q.format ↔ e.CanCompress q.format)) :
    (d.support q).result = (e.support q).result := by
  rw [result_support, result_support, hf, result_selectedFeatures_congr hc]

theorem run_answerImage_congr {r : Response} (h : (d.support q).result = (e.support q).result) :
    ((d.answerImage q).run r).response = ((e.answerImage q).run r).response ∧
      ((d.answerImage q).run r).result = ((e.answerImage q).run r).result := by
  rcases hd : (d.support q).result with failure | support
  · rw [run_answerImage_of_error hd, run_answerImage_of_error (h.symm.trans hd)]
    exact ⟨rfl, rfl⟩
  · have he := h.symm.trans hd
    rcases hx : (externalFor q).result with failure | external
    · rw [run_answerImage_of_handle hd hx, run_answerImage_of_handle he hx]
      exact ⟨rfl, rfl⟩
    · rw [run_answerImage (verdict_eq_ok_iff.2 ⟨hd, hx⟩),
        run_answerImage (verdict_eq_ok_iff.2 ⟨he, hx⟩)]
      exact ⟨rfl, rfl⟩

theorem outcome_image_congr {r : Response} (h : (d.support q).result = (e.support q).result) :
    d.outcome (.image q r) = e.outcome (.image q r) := by
  obtain ⟨hresponse, hresult⟩ := run_answerImage_congr (r := r) h
  have hview : ∀ (r s : Response) limits, id r = id s →
      id { r with properties := limits } = id { s with properties := limits } := by
    rintro r _ limits rfl
    rfl
  obtain ⟨hresponse, hresult⟩ := Progress.settled_congr hview hresponse hresult
  exact congrArg₂ Outcome.image hresponse hresult

theorem outcome_congr (hcubic : d.filtersCubic = e.filtersCubic)
    (h : d.compresses8bpp = e.compresses8bpp ∨ ¬ i.IsNarrow) : d.outcome i = e.outcome i := by
  cases i with
  | format f requested =>
    have hf : d.features f = e.features f := features_congr hcubic
    have hm : d.modifiers f = e.modifiers f := modifiers_congr hf (canCompress_congr h)
    rw [outcome, outcome, value_queryFormat, value_queryFormat, hf, hm]
  | image q r =>
    have hs : (d.support q).result = (e.support q).result :=
      result_support_congr (features_congr hcubic) fun _ ↦ canCompress_congr h
    exact outcome_image_congr hs
  | externalBuffer h => rfl
  | sparse q => rfl

theorem withoutCompressed_outcome_congr (hcubic : d.filtersCubic = e.filtersCubic)
    (h : ¬ i.NamesCompressed) :
    (d.outcome i).withoutCompressed = (e.outcome i).withoutCompressed := by
  cases i with
  | format f requested =>
    have hf : d.features f = e.features f := features_congr hcubic
    have hm : (d.modifiers f).filter (·.modifier ≠ .compressed) =
        (e.modifiers f).filter (·.modifier ≠ .compressed) := by
      rw [filter_modifiers_ne_compressed, filter_modifiers_ne_compressed, hf]
    simp only [outcome, Outcome.withoutCompressed, FormatProperties.withoutCompressed,
      value_queryFormat, hf, apply_ite (Option.map _), Option.map_some, Option.map_none, hm]
  | image q r =>
    have hs : (d.support q).result = (e.support q).result :=
      result_support_congr (features_congr hcubic) fun hn ↦ absurd hn h
    rw [outcome_image_congr hs]
  | externalBuffer h => rfl
  | sparse q => rfl

end Device

end TexelFormats
