import TexelFormats.Proofs.Decisions
import TexelFormats.Proofs.ExternalMemory
import TexelFormats.Proofs.Responses

namespace TexelFormats

open Logged

namespace ImageQuery

variable {q : ImageQuery}

def HandlesBacked (q : ImageQuery) : Prop :=
  ∀ h, q.handleTypes = some h → h = ∅ ∨ h.Backs q.imageType

/-- The query is not a proper one, whatever device and format it is about. -/
inductive Malformed (q : ImageQuery) : Prop
  | imageType : q.imageType ∉ [.oneD, .twoD, .threeD] → Malformed q
  | tiling : q.tiling ∉ [.linear, .optimal, .byModifier] → Malformed q
  | modifier : q.tiling = .byModifier → q.modifier = none → Malformed q

end ImageQuery

namespace Device

open ImageQuery

variable {d : Device} {q : ImageQuery} {r : Response} {how : Violation} {why : Refusal}
  {text : String}

theorem externalFor_of_backed (h : q.HandlesBacked) :
    ∃ external, externalFor q = pure external := by
  unfold externalFor
  rcases hq : q.namedHandleTypes with _ | m
  · exact ⟨none, rfl⟩
  · obtain ⟨hsome, hne⟩ := Option.filter_eq_some_iff.1 hq
    have hm := HandleTypes.forImage_of_backs ((h m hsome).resolve_left (by simpa using hne))
    simp only [hm]
    exact ⟨some m.forDedicated, rfl⟩

theorem externalFor_of_not_backed (h : ¬ q.HandlesBacked) : ∃ m, q.handleTypes = some m ∧
    externalFor q = refuse (.handleRefused (.handleNotSupported m q.imageType))
      (.handleNotSupported m q.imageType) := by
  simp only [HandlesBacked, Classical.not_forall, not_or, exists_prop] at h
  obtain ⟨m, hsome, hne, hb⟩ := h
  have hq : q.namedHandleTypes = some m := by simp [namedHandleTypes, hsome, hne]
  refine ⟨m, hsome, ?_⟩
  simp only [externalFor, hq, HandleTypes.forImage_of_not_backs hb]
  rfl

/-- The ways in which a query breaks the rules of asking before any slot is written, each with what
is said of it. -/
inductive Violates (d : Device) (q : ImageQuery) : Violation → String → Prop
  | badTiling :
      q.tiling ∉ [.linear, .optimal, .byModifier] →
      Violates d q (.badTiling q.tiling)
        ("internal error: entered unreachable code: bad image tiling " ++ q.tiling.text)
  | missingModifier :
      q.tiling = .byModifier → q.modifier = none →
      Violates d q .missingModifier "DRM modifier tiling queried without a modifier"
  | badImageType {features : FeatureSet} :
      d.Selects q features → features ≠ ∅ → q.format.hasDepthOrStencil = false →
      q.imageType ∉ [.oneD, .twoD, .threeD] →
      Violates d q (.badImageType q.imageType)
        ("internal error: entered unreachable code: bad image type " ++ q.imageType.text)

structure LacksView (d : Device) (q : ImageQuery) (r : Response) : Prop where
  supported : ∃ support, (d.support q).result = .ok support
  backed : q.HandlesBacked
  asked : r.isOpen .filterCubic = true
  lacking : q.viewType = none

theorem result_support_eq (d : Device) (q : ImageQuery) :
    (d.support q).result = (d.decided q).result := by
  rw [result_support, decided, result_bind]

theorem result_support_violated_iff :
    (d.support q).result = .error (.violated how) ∧ how.message = text ↔ d.Violates q how text := by
  rw [result_support_eq]
  constructor
  · rintro ⟨h, rfl⟩
    obtain ⟨x, hx⟩ := d.exists_decision q
    rw [hx.decided_eq] at h
    cases hx with
    | badTiling ht =>
      cases h
      exact .badTiling ht
    | missingModifier ht hm =>
      cases h
      exact .missingModifier ht hm
    | badImageType hs hne hd hi =>
      cases h
      exact .badImageType hs hne hd hi
    | _ => cases h
  · intro h
    cases h with
    | badTiling ht => exact ⟨by rw [(Decision.badTiling ht).decided_eq, result_fail], rfl⟩
    | missingModifier ht hm =>
      exact ⟨by rw [(Decision.missingModifier ht hm).decided_eq, result_fail], rfl⟩
    | badImageType hs hne hd hi =>
      exact ⟨by rw [(Decision.badImageType hs hne hd hi).decided_eq, result_fail], rfl⟩

theorem backed_of_externalFor {external : Option ExternalMemory}
    (h : (externalFor q).result = .ok external) : q.HandlesBacked := by
  refine Classical.byContradiction fun hb ↦ ?_
  obtain ⟨m, -, he⟩ := externalFor_of_not_backed hb
  rw [he] at h
  cases h

theorem verdict_eq_violated_iff :
    d.verdict q = .error (.violated how) ↔ (d.support q).result = .error (.violated how) := by
  refine ⟨fun h ↦ ?_, verdict_of_error⟩
  rcases hs : (d.support q).result with e | support
  · rw [verdict_of_error hs] at h
    cases h
    rfl
  · rw [verdict, hs] at h
    by_cases hb : q.HandlesBacked
    · obtain ⟨external, he⟩ := externalFor_of_backed hb
      rw [he] at h
      cases h
    · obtain ⟨m, -, he⟩ := externalFor_of_not_backed hb
      rw [he] at h
      cases h

theorem lacksView_iff : d.LacksView q r ↔
    (∃ support external, d.verdict q = .ok (support, external)) ∧ ¬ r.Answerable q := by
  constructor
  · rintro ⟨⟨support, hs⟩, hb, ho, hv⟩
    obtain ⟨external, he⟩ := externalFor_of_backed hb
    refine ⟨⟨support, external, verdict_eq_ok_iff.2 ⟨hs, by rw [he, result_pure]⟩⟩, fun h ↦ ?_⟩
    have hsome := h ho
    rw [hv] at hsome
    cases hsome
  · rintro ⟨⟨support, external, hv⟩, hr⟩
    obtain ⟨hs, he⟩ := verdict_eq_ok_iff.1 hv
    have ⟨ho, hview⟩ : r.isOpen .filterCubic = true ∧ q.viewType = none := by
      simpa [Response.Answerable] using hr
    exact ⟨⟨support, hs⟩, backed_of_externalFor he, ho, hview⟩

theorem result_queryImage_error_iff : (d.queryImage q r).result = .error how ↔
    (d.support q).result = .error (.violated how) ∨ d.LacksView q r ∧ how = .missingViewType := by
  rw [← verdict_eq_violated_iff, lacksView_iff]
  rcases hv : d.verdict q with (why | how') | ⟨support, external⟩
  · simp [queryImage_of_refused hv]
  · simp [queryImage_of_violated hv]
  · by_cases hr : r.Answerable q
    · simp [queryImage_of_ok hv hr, hr]
    · simp [queryImage_of_not_answerable hv hr, hr, eq_comm]

theorem Violates.unique {how' : Violation} {text' : String} (h : d.Violates q how text)
    (h' : d.Violates q how' text') : how = how' ∧ text = text' := by
  obtain ⟨hr, rfl⟩ := result_support_violated_iff.2 h
  obtain ⟨hr', rfl⟩ := result_support_violated_iff.2 h'
  rw [hr] at hr'
  cases hr'
  exact ⟨rfl, rfl⟩

theorem LacksView.not_violates (h : d.LacksView q r) : ¬ d.Violates q how text := by
  intro hv
  obtain ⟨support, hs⟩ := h.supported
  obtain ⟨hv, -⟩ := result_support_violated_iff.2 hv
  rw [hs] at hv
  cases hv

theorem Violates.malformed (h : d.Violates q how text) : q.Malformed := by
  cases h with
  | badTiling ht => exact .tiling ht
  | missingModifier ht hm => exact .modifier ht hm
  | badImageType _ _ _ hi => exact .imageType hi

/-- A query breaks the rules of asking in one of four ways, of which no two go together, and a query
that is well formed and names a view where it has to breaks none. -/
theorem queryImage_violated_iff (d : Device) (q : ImageQuery) (r : Response) :
    (∀ how text, (d.queryImage q r).result = .error how ∧ how.message = text ↔
      d.Violates q how text ∨ d.LacksView q r ∧ how = .missingViewType ∧
        text = "cubic filter support queried without an image view type") ∧
    (∀ how text how' text', d.Violates q how text → d.Violates q how' text' →
      how = how' ∧ text = text') ∧
    (d.LacksView q r → ∀ how text, ¬ d.Violates q how text) ∧
    (¬ q.Malformed → r.Answerable q → ∃ reply, (d.queryImage q r).result = .ok reply) := by
  refine ⟨fun how text ↦ ?_, fun _ _ _ _ ↦ Violates.unique, fun h _ _ ↦ h.not_violates,
    fun h hr ↦ ?_⟩
  · rw [← result_support_violated_iff, result_queryImage_error_iff, or_and_right, and_assoc]
    refine or_congr_right (and_congr_right fun _ ↦ and_congr_right fun hhow ↦ ?_)
    rw [hhow]
    exact eq_comm
  · rcases hq : (d.queryImage q r).result with how | reply
    · obtain hs | ⟨hview, -⟩ := result_queryImage_error_iff.1 hq
      · exact absurd (result_support_violated_iff.1 ⟨hs, rfl⟩).malformed h
      · exact absurd hr (lacksView_iff.1 hview).2
    · exact ⟨reply, rfl⟩

theorem queryImage_violated_iff_of_dmaBuf :
    ((default : Device).queryImage { format := .r8g8b8a8Unorm, handleTypes := some {.dmaBuf} }
      (.withSlots [.filterCubic])).result = .error .missingViewType ∧
    ∃ reply, ((default : Device).queryImage {
      format := .r8g8b8a8Unorm, handleTypes := some {.dmaBuf}, viewType := some .twoD }
      (.withSlots [.filterCubic])).result = .ok reply := by
  obtain ⟨hviolated, -⟩ := queryImage_violated_iff default
    { format := .r8g8b8a8Unorm, handleTypes := some {.dmaBuf} } (.withSlots [.filterCubic])
  obtain ⟨-, -, -, hanswered⟩ := queryImage_violated_iff default
    { format := .r8g8b8a8Unorm, handleTypes := some {.dmaBuf}, viewType := some .twoD }
    (.withSlots [.filterCubic])
  refine ⟨((hviolated _ _).2 (.inr ⟨⟨⟨_, rfl⟩, ?_, rfl, rfl⟩, rfl, rfl⟩)).1,
    hanswered ?_ fun _ ↦ rfl⟩
  · rintro h ⟨⟩
    exact .inr (.inl ⟨by simp, rfl⟩)
  · rintro (hi | ht | ⟨ht, -⟩)
    · exact hi (by simp)
    · exact ht (by simp)
    · exact absurd ht (by decide)

/-- The refusals that a query meets before its image type is looked at. -/
inductive RefusedEarly (d : Device) (q : ImageQuery) : Refusal → Prop
  | modifier {m : Modifier} :
      q.tiling = .byModifier → q.modifier = some m → (∀ features, ¬ d.Selects q features) →
      RefusedEarly d q (.modifierNotSupported q.format m)
  | noFeatures : d.Selects q ∅ → RefusedEarly d q (.formatNotSupported q.format q.tiling)
  | notFlat {features : FeatureSet} :
      d.Selects q features → features ≠ ∅ → q.imageType ≠ .twoD →
      q.format.hasDepthOrStencil = true →
      RefusedEarly d q (.imageTypeNotSupported q.format q.imageType)

theorem Selects.imageType_of_malformed {features : FeatureSet} (hs : d.Selects q features)
    (h : q.Malformed) : q.imageType ∉ [.oneD, .twoD, .threeD] := by
  have hne : Tiling.linear ≠ .byModifier ∧ Tiling.optimal ≠ .byModifier := by decide
  cases h with
  | imageType hi => exact hi
  | tiling ht => cases hs <;> simp_all
  | modifier ht hm => cases hs <;> simp_all

theorem result_support_of_modifier {m : Modifier} (ht : q.tiling = .byModifier)
    (hm : q.modifier = some m) (hnone : ∀ features, ¬ d.Selects q features) :
    (d.support q).result = .error (.refused (.modifierNotSupported q.format m)) := by
  rw [result_support_eq]
  obtain ⟨x, hx⟩ := d.exists_decision q
  rw [hx.decided_eq]
  cases hx with
  | badTiling ht' => exact absurd (by simp [ht]) ht'
  | missingModifier _ hm' =>
    rw [hm] at hm'
    cases hm'
  | unknownModifier _ hm' _ _ | notTileable _ hm' _ | mutableFormat _ hm' _ _ _
  | incompressible _ hm' _ _ _ _ =>
    rw [hm] at hm'
    cases hm'
    rfl
  | noFeatures hs | notFlat hs _ _ _ | badImageType hs _ _ _ | ungranted hs _ _ _ _
  | supported hs _ _ => exact absurd hs (hnone _)

theorem RefusedEarly.result_support (h : d.RefusedEarly q why) :
    (d.support q).result = .error (.refused why) := by
  cases h with
  | modifier ht hm hnone => exact result_support_of_modifier ht hm hnone
  | noFeatures hs => rw [result_support_eq, (Decision.noFeatures hs).decided_eq, result_refuse]
  | notFlat hs hne hf hd =>
    rw [result_support_eq, (Decision.notFlat hs hne hf hd).decided_eq, result_refuse]

theorem support_cases_of_malformed (d : Device) (h : q.Malformed) :
    (∃ why, d.RefusedEarly q why) ∨ ∃ how text, d.Violates q how text := by
  by_cases hs : ∃ features, d.Selects q features
  · obtain ⟨features, hs⟩ := hs
    have hi := hs.imageType_of_malformed h
    have h2d : q.imageType ≠ .twoD := fun h2d ↦ hi (by simp [h2d])
    by_cases hne : features = ∅
    · exact .inl ⟨_, .noFeatures (hne ▸ hs)⟩
    by_cases hd : q.format.hasDepthOrStencil = true
    · exact .inl ⟨_, .notFlat hs hne h2d hd⟩
    · exact .inr ⟨_, _, .badImageType hs hne (Bool.eq_false_iff.2 hd) hi⟩
  · rw [not_exists] at hs
    by_cases ht : q.tiling = .byModifier
    · rcases hm : q.modifier with _ | m
      · exact .inr ⟨_, _, .missingModifier ht hm⟩
      · exact .inl ⟨_, .modifier ht hm hs⟩
    · have hlinear : q.tiling ≠ .linear := fun hl ↦ hs _ (.linear hl)
      have hoptimal : q.tiling ≠ .optimal := fun ho ↦ hs _ (.optimal ho)
      exact .inr ⟨_, _, .badTiling (by simp [hlinear, hoptimal, ht])⟩

theorem violated_of_malformed_tiling (h : q.tiling ∉ [.linear, .optimal, .byModifier] ∨
    q.tiling = .byModifier ∧ q.modifier = none) :
    ∃ how, (d.support q).result = .error (.violated how) := by
  obtain ht | ⟨ht, hm⟩ := h
  · exact ⟨_, (result_support_violated_iff.2 (.badTiling ht)).1⟩
  · exact ⟨_, (result_support_violated_iff.2 (.missingModifier ht hm)).1⟩

/-- A malformed query is never supported. It is a violation, unless the type of its image alone is
wrong and a refusal comes before the type is looked at. -/
theorem support_of_malformed (h : q.Malformed) :
    (∀ support, (d.support q).result ≠ .ok support) ∧
    (q.tiling ∉ [.linear, .optimal, .byModifier] ∨ q.tiling = .byModifier ∧ q.modifier = none →
      ∃ how, (d.support q).result = .error (.violated how)) ∧
    (∀ why, (d.support q).result = .error (.refused why) ↔ d.RefusedEarly q why) ∧
    ((∀ why, ¬ d.RefusedEarly q why) → ∃ how, (d.support q).result = .error (.violated how)) := by
  rcases d.support_cases_of_malformed h with ⟨why, hr⟩ | ⟨how, text, hv⟩
  · have hresult := hr.result_support
    refine ⟨by simp [hresult], violated_of_malformed_tiling,
      fun why' ↦ ⟨fun hs ↦ ?_, fun hr' ↦ hr'.result_support⟩, fun hnone ↦ absurd hr (hnone why)⟩
    rw [hresult] at hs
    cases hs
    exact hr
  · obtain ⟨hresult, -⟩ := result_support_violated_iff.2 hv
    refine ⟨by simp [hresult], violated_of_malformed_tiling,
      fun why' ↦ ⟨fun hs ↦ ?_, fun hr' ↦ hr'.result_support⟩, fun _ ↦ ⟨how, hresult⟩⟩
    rw [hresult] at hs
    cases hs

theorem support_of_malformed_imageType :
    (∃ how, ((default : Device).support {
      format := .r8g8b8a8Unorm, imageType := ⟨7⟩ }).result = .error (.violated how)) ∧
    ((default : Device).support { format := .undefined, imageType := ⟨7⟩ }).result =
      .error (.refused (.formatNotSupported .undefined .optimal)) := by
  obtain ⟨-, -, hrefused, hviolated⟩ := support_of_malformed (d := default)
    (q := { format := .r8g8b8a8Unorm, imageType := ⟨7⟩ }) (.imageType (by decide))
  obtain ⟨-, -, hrefused', -⟩ := support_of_malformed (d := default)
    (q := { format := .undefined, imageType := ⟨7⟩ }) (.imageType (by decide))
  refine ⟨hviolated fun why hr ↦ ?_, (hrefused' _).2 (.noFeatures (.optimal rfl))⟩
  have hresult := (hrefused why).2 hr
  cases hresult

/-- Depth and stencil rule out all types but the flat one, defined or not, so this malformed query
is refused and breaks no rule. -/
theorem malformed_refused :
    ImageQuery.Malformed { format := .d16Unorm, imageType := ⟨7⟩ } ∧
    ((default : Device).support { format := .d16Unorm, imageType := ⟨7⟩ }).result =
      .error (.refused (.imageTypeNotSupported .d16Unorm ⟨7⟩)) ∧
    ∀ how, ((default : Device).support { format := .d16Unorm, imageType := ⟨7⟩ }).result ≠
      .error (.violated how) :=
  ⟨.imageType (by decide), rfl, nofun⟩

end Device

end TexelFormats
