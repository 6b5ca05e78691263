import TexelFormats.Proofs.CubicFiltering
import TexelFormats.Proofs.Inquiries

namespace TexelFormats

def ModifierProperties.withoutCubic (p : ModifierProperties) : ModifierProperties :=
  { p with features := p.features.withoutCubic }

def FormatProperties.withoutCubic (p : FormatProperties) : FormatProperties where
  legacy := p.legacy.withoutCubic
  full := p.full.map Features.withoutCubic
  modifiers := p.modifiers.map (·.map ModifierProperties.withoutCubic)

def Response.withoutCubic (r : Response) : Response :=
  { r with filterCubic := r.filterCubic.map fun _ ↦ ⟨false, false⟩ }

def Outcome.withoutCubic : Outcome → Outcome
  | .format p => .format p.withoutCubic
  | .image response result => .image response.withoutCubic result
  | .externalBuffer m => .externalBuffer m
  | .sparse ps => .sparse ps

theorem Features.withoutCubic_legacy (f : Features) :
    f.legacy.withoutCubic = f.withoutCubic.legacy := by
  simp only [legacy, withoutCubic, FeatureSet.withoutCubic_legacy]

theorem Response.filled_withoutCubic {r : Response} {q : ImageQuery} {support : Support}
    {external : Option ExternalMemory} :
    (r.filled q support.withoutCubic external).withoutCubic =
      (r.filled q support external).withoutCubic := by
  rcases r with ⟨p, m, _ | c, y⟩
  · rfl
  · simp [withoutCubic, filled, ImageQuery.filterCubic?, Support.withoutCubic, Function.comp_def]

theorem Outcome.withoutCompressed_withoutCubic (o : Outcome) :
    o.withoutCompressed.withoutCubic = o.withoutCubic.withoutCompressed := by
  -- which modifiers are in a list is not a matter of their features
  have hlist (list : List ModifierProperties) :
      (list.filter (·.modifier ≠ .compressed)).map ModifierProperties.withoutCubic =
        (list.map ModifierProperties.withoutCubic).filter (·.modifier ≠ .compressed) := by
    rw [List.filter_map]
    rfl
  cases o with
  | format p =>
    rcases p with ⟨legacy, full, _ | list⟩
    · rfl
    · simp only [withoutCubic, withoutCompressed, FormatProperties.withoutCubic,
        FormatProperties.withoutCompressed, Option.map_some, hlist]
  | image response result => rfl
  | externalBuffer m => rfl
  | sparse ps => rfl

namespace Device

variable {d e : Device} {f : Format} {q : ImageQuery} {r : Response} {i : Inquiry}

theorem modifiers_withoutCubic :
    d.withoutCubic.modifiers f = (d.modifiers f).map ModifierProperties.withoutCubic := by
  have hlinear := linear_withoutCubic_eq_empty_iff (d := d) (f := f)
  have hoptimal := optimal_withoutCubic_eq_empty_iff (d := d) (f := f)
  simp only [modifiers, features_withoutCubic, Features.withoutCubic, compresses_withoutCubic,
    hlinear, hoptimal, ne_eq, List.map_append]
  congr 1
  · split <;> rfl
  · split <;> rfl

theorem queryFormat_withoutCubic {requested : List FormatOutput} :
    (d.withoutCubic.queryFormat f requested).value =
      (d.queryFormat f requested).value.withoutCubic := by
  simp only [value_queryFormat, features_withoutCubic, modifiers_withoutCubic,
    FormatProperties.withoutCubic, Features.withoutCubic_legacy, apply_ite (Option.map _),
    Option.map_some, Option.map_none]

theorem run_answerImage_withoutCubic :
    ((d.withoutCubic.answerImage q).run r).response.withoutCubic =
      ((d.answerImage q).run r).response.withoutCubic ∧
    ((d.withoutCubic.answerImage q).run r).result = ((d.answerImage q).run r).result := by
  have hoff := d.result_support_withoutCubic (q := q)
  rcases hs : (d.support q).result with failure | support <;> rw [hs] at hoff
  · rw [run_answerImage_of_error hs, run_answerImage_of_error hoff]
    exact ⟨rfl, rfl⟩
  · rcases hx : (externalFor q).result with failure | external
    · rw [run_answerImage_of_handle hs hx, run_answerImage_of_handle hoff hx]
      exact ⟨rfl, rfl⟩
    · rw [run_answerImage (verdict_eq_ok_iff.2 ⟨hs, hx⟩),
        run_answerImage (verdict_eq_ok_iff.2 ⟨hoff, hx⟩)]
      by_cases hr : r.Answerable q
      · rw [Response.run_fill hr, Response.run_fill hr]
        exact ⟨Response.filled_withoutCubic, rfl⟩
      · have hr (limits : Limits) : ¬ ({ r with properties := limits } : Response).Answerable q := hr
        rw [Response.run_fill_of_not_answerable (hr _), Response.run_fill_of_not_answerable (hr _)]
        exact ⟨rfl, rfl⟩

theorem outcome_image_withoutCubic :
    (d.withoutCubic.outcome (.image q r)).withoutCubic =
      (d.outcome (.image q r)).withoutCubic := by
  have hview : ∀ (r s : Response) limits, r.withoutCubic = s.withoutCubic →
      Response.withoutCubic { r with properties := limits } =
        Response.withoutCubic { s with properties := limits } := by
    intro r s limits h
    exact congrArg (fun r : Response ↦ { r with properties := limits }) h
  obtain ⟨hresponse, hresult⟩ := d.run_answerImage_withoutCubic (q := q) (r := r)
  obtain ⟨hresponse, hresult⟩ := Progress.settled_congr hview hresponse hresult
  exact congrArg₂ Outcome.image hresponse hresult

theorem outcome_withoutCubic :
    (d.withoutCubic.outcome i).withoutCubic = (d.outcome i).withoutCubic := by
  cases i with
  | format f requested =>
    have htwice : d.withoutCubic.withoutCubic = d.withoutCubic := rfl
    have hoff : (d.withoutCubic.queryFormat f requested).value.withoutCubic =
        (d.queryFormat f requested).value.withoutCubic := by
      rw [← queryFormat_withoutCubic, htwice, queryFormat_withoutCubic]
    rw [outcome, outcome, Outcome.withoutCubic, Outcome.withoutCubic, hoff]
  | image q r =>
    exact outcome_image_withoutCubic
  | externalBuffer h => rfl
  | sparse q => rfl

/-- Seen through the view, two devices answer alike, but for the compression of narrow formats. -/
structure AgreeButNarrow (d e : Device) (view : Outcome → Outcome) : Prop where
  wide : ∀ i, ¬ i.IsNarrow → view (d.outcome i) = view (e.outcome i)
  uncompressed : ∀ i, ¬ i.NamesCompressed →
    view (d.outcome i).withoutCompressed = view (e.outcome i).withoutCompressed

theorem agreeButNarrow_of_filtersCubic (h : d.filtersCubic = e.filtersCubic)
    (view : Outcome → Outcome) : AgreeButNarrow d e view where
  wide i hi := by rw [outcome_congr h (.inr hi)]
  uncompressed i hi := by rw [withoutCompressed_outcome_congr h hi]

theorem agreeButNarrow_withoutCubic (d e : Device) : AgreeButNarrow d e Outcome.withoutCubic := by
  have hoff : d.withoutCubic.filtersCubic = e.withoutCubic.filtersCubic := rfl
  have h : AgreeButNarrow d.withoutCubic e.withoutCubic Outcome.withoutCubic :=
    agreeButNarrow_of_filtersCubic hoff _
  refine ⟨fun i hi ↦ ?_, fun i hi ↦ ?_⟩
  · have hwide := h.wide i hi
    rwa [outcome_withoutCubic, outcome_withoutCubic] at hwide
  · have huncompressed := h.uncompressed i hi
    simp only [Outcome.withoutCompressed_withoutCubic, outcome_withoutCubic] at huncompressed ⊢
    exact huncompressed

/-- Only two settings of a device can be seen: one in the compression of narrow formats, the other
in what is said of cubic filtering. -/
theorem outcome_agrees_beyond_settings (d e : Device) :
    (d.compresses8bpp = e.compresses8bpp → d.filtersCubic = e.filtersCubic →
      ∀ i, d.outcome i = e.outcome i) ∧
    (d.filtersCubic = e.filtersCubic → AgreeButNarrow d e id) ∧
    (d.compresses8bpp = e.compresses8bpp →
      ∀ i, (d.outcome i).withoutCubic = (e.outcome i).withoutCubic) ∧
    AgreeButNarrow d e Outcome.withoutCubic := by
  refine ⟨fun h8 hcubic i ↦ outcome_congr hcubic (.inl h8),
    fun hcubic ↦ agreeButNarrow_of_filtersCubic hcubic id, fun h8 i ↦ ?_,
    agreeButNarrow_withoutCubic d e⟩
  have hoff : d.withoutCubic.outcome i = e.withoutCubic.outcome i := outcome_congr rfl (.inl h8)
  rw [← outcome_withoutCubic, hoff, outcome_withoutCubic]

theorem outcome_agrees_beyond_settings_r8Unorm :
    (a630.queryFormat .r8Unorm [.modifierList]).value.modifiers.map List.length = some 2 ∧
    ({ a650 with compresses8bpp := false }.queryFormat .r8Unorm
      [.modifierList]).value.modifiers.map List.length = some 1 ∧
    (a630.outcome (.format .r8Unorm [.modifierList])).withoutCompressed.withoutCubic =
      ({ a650 with compresses8bpp := false }.outcome
        (.format .r8Unorm [.modifierList])).withoutCompressed.withoutCubic ∧
    a650.outcome (.format .r8g8Unorm [.modifierList]) =
      { a650 with compresses8bpp := false }.outcome (.format .r8g8Unorm [.modifierList]) ∧
    a618.outcome (.image { format := .r8Unorm } {}) =
      a630.outcome (.image { format := .r8Unorm } {}) ∧
    (a630.outcome (.image { format := .r8Unorm } {})).withoutCubic =
      (a650.outcome (.image { format := .r8Unorm } {})).withoutCubic := by
  obtain ⟨-, -, -, hnarrow⟩ :=
    outcome_agrees_beyond_settings a630 { a650 with compresses8bpp := false }
  obtain ⟨-, hcompression, -, -⟩ :=
    outcome_agrees_beyond_settings a650 { a650 with compresses8bpp := false }
  obtain ⟨hsame, -, -, -⟩ := outcome_agrees_beyond_settings a618 a630
  obtain ⟨-, -, hcubic, -⟩ := outcome_agrees_beyond_settings a630 a650
  have hwide : Format.r8g8Unorm ∉ [.r8Unorm, .r8Uint, .r8Sint, .r8Srgb] := by decide
  exact ⟨rfl, rfl, hnarrow.uncompressed _ nofun, (hcompression rfl).wide _ hwide,
    hsame rfl rfl _, hcubic rfl _⟩

end Device

end TexelFormats
