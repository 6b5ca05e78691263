import TexelFormats.Device.Queries

namespace TexelFormats

namespace Answering

section

variable {ε α β : Type} {x : Answering ε α} {f : α → Answering ε β}

def KeepsSlots (x : Answering ε α) : Prop :=
  ∀ r, ∃ limits, (x.run r).response = { r with properties := limits }

theorem keepsSlots_lift (x : Logged ε α) : (lift x).KeepsSlots := fun r ↦ ⟨r.properties, rfl⟩

theorem keepsSlots_modify (limits : Limits) :
    KeepsSlots (modify fun r ↦ { r with properties := limits } : Answering ε Unit) :=
  fun _ ↦ ⟨limits, rfl⟩

end

section

variable {α β : Type} {x : Answering Failure α} {f : α → Answering Failure β}

def NeverRefuses (x : Answering Failure α) : Prop :=
  ∀ r why, (x.run r).result ≠ .error (.refused why)

/-- A refusal, if there is one, finds all slots as they were at the beginning. -/
def RefusesFirst (x : Answering Failure α) : Prop :=
  ∀ r why, (x.run r).result = .error (.refused why) →
    ∃ limits, (x.run r).response = { r with properties := limits }

theorem NeverRefuses.refusesFirst (h : x.NeverRefuses) : x.RefusesFirst :=
  fun r why hr ↦ absurd hr (h r why)

theorem NeverRefuses.bind (hx : x.NeverRefuses) (hf : ∀ a, (f a).NeverRefuses) :
    (x >>= f).NeverRefuses := by
  intro r why
  rcases h : x.run r with ⟨es, s, e | a⟩
  · rw [run_bind_error h]
    rintro ⟨⟩
    exact hx r why (by rw [h])
  · rw [run_bind_ok h]
    exact hf a s why

theorem neverRefuses_forM {γ : Type} {g : γ → Answering Failure Unit}
    (h : ∀ c, (g c).NeverRefuses) (cs : List γ) : NeverRefuses (forM cs g) := by
  induction cs with
  | nil => exact fun _ _ ↦ nofun
  | cons c cs ih =>
    rw [List.forM_cons]
    exact (h c).bind fun _ ↦ ih

theorem KeepsSlots.refusesFirst_bind (hx : x.KeepsSlots) (hf : ∀ a, (f a).RefusesFirst) :
    (x >>= f).RefusesFirst := by
  intro r why hr
  obtain ⟨limits, hlimits⟩ := hx r
  rcases h : x.run r with ⟨es, s, e | a⟩
  -- either part may refuse, and only limits have been written before the second one starts
  · rw [run_bind_error h]
    exact ⟨limits, by rw [← hlimits, h]⟩
  · rw [run_bind_ok h] at hr ⊢
    obtain ⟨limits', hrest⟩ := hf a s why hr
    have hs : s = { r with properties := limits } := by rw [← hlimits, h]
    exact ⟨limits', by rw [hrest, hs]⟩

end

end Answering

namespace ImageQuery

open Answering Logged

def filterCubic? (q : ImageQuery) (features : FeatureSet) : Option FilterCubic :=
  q.viewType.map fun view ↦
    let works := (view = .twoD || view = .twoDArray) && .sampledImageFilterCubic ∈ features
    ⟨works, works⟩

variable {q : ImageQuery} {features : FeatureSet} {external : Option ExternalMemory}

theorem neverRefuses_write (o : ImageOutput) : (q.write features external o).NeverRefuses := by
  intro r why
  cases o with
  | filterCubic =>
    unfold write
    cases q.viewType <;> exact nofun
  | _ => exact nofun

theorem neverRefuses_writeRequested (o : ImageOutput) :
    (q.writeRequested features external o).NeverRefuses := by
  refine NeverRefuses.bind (fun _ _ ↦ nofun) fun r ↦ ?_
  split
  · exact NeverRefuses.bind (fun _ _ ↦ nofun) fun _ ↦ neverRefuses_write o
  · exact fun _ _ ↦ nofun

theorem neverRefuses_fill : (q.fill features external).NeverRefuses :=
  neverRefuses_forM neverRefuses_writeRequested _

theorem run_writeRequested (o : ImageOutput) (r : Response) :
    (q.writeRequested features external o).run r =
      if r.isOpen o then
        let done := (q.write features external o).run r
        ⟨.writing o q.format :: done.log, done.response, done.result⟩
      else ⟨[], r, .ok ()⟩ := by
  rw [writeRequested, run_bind_ok (run_get r)]
  split
  · rw [run_bind_ok (run_lift _ r)]
    rfl
  · rfl

end ImageQuery

namespace Response

open Answering

variable {r s : Response} {q : ImageQuery} {features : FeatureSet} {support : Support}
  {external : Option ExternalMemory}

def SameSlots (r s : Response) : Prop := ∀ o, r.isOpen o = s.isOpen o

def Answerable (r : Response) (q : ImageQuery) : Prop :=
  r.isOpen .filterCubic = true → q.viewType.isSome = true

def withExternal (r : Response) (external : Option ExternalMemory) : Response :=
  { r with externalMemory := r.externalMemory.map fun _ ↦ external.getD ∅ }

def filled (r : Response) (q : ImageQuery) (support : Support)
    (external : Option ExternalMemory) : Response where
  properties := support.limits
  externalMemory := r.externalMemory.map fun _ ↦ external.getD ∅
  filterCubic := r.filterCubic.bind fun _ ↦ q.filterCubic? support.features
  ycbcrConversion := r.ycbcrConversion.map fun _ ↦ ⟨1⟩

def writings (r : Response) (q : ImageQuery) (os : List ImageOutput) : List Event :=
  (os.filter r.isOpen).map fun o ↦ .writing o q.format

theorem run_externalMemory (r : Response) :
    (q.writeRequested features external .externalMemory).run r =
      ⟨r.writings q [.externalMemory], r.withExternal external, .ok ()⟩ := by
  rw [ImageQuery.run_writeRequested]
  rcases r with ⟨p, _ | m, c, y⟩ <;> rfl

theorem run_filterCubic (h : r.Answerable q) :
    (q.writeRequested features external .filterCubic).run r =
      ⟨r.writings q [.filterCubic],
        { r with filterCubic := r.filterCubic.bind fun _ ↦ q.filterCubic? features }, .ok ()⟩ := by
  rw [ImageQuery.run_writeRequested]
  rcases r with ⟨p, m, _ | c, y⟩
  · rfl
  · obtain ⟨view, hv⟩ := Option.isSome_iff_exists.1 (h rfl)
    simp [isOpen, ImageQuery.write, hv, ImageQuery.filterCubic?]
    rfl

theorem run_filterCubic_of_not (h : ¬ r.Answerable q) :
    (q.writeRequested features external .filterCubic).run r =
      ⟨r.writings q [.filterCubic], r, .error (.violated .missingViewType)⟩ := by
  have ⟨ho, hv⟩ : r.isOpen .filterCubic = true ∧ q.viewType = none := by
    simpa [Answerable] using h
  rw [ImageQuery.run_writeRequested, if_pos ho]
  simp [writings, ImageQuery.write, ho, hv]

theorem run_samplerYcbcrConversion (r : Response) :
    (q.writeRequested features external .samplerYcbcrConversion).run r =
      ⟨r.writings q [.samplerYcbcrConversion],
        { r with ycbcrConversion := r.ycbcrConversion.map fun _ ↦ ⟨1⟩ }, .ok ()⟩ := by
  rw [ImageQuery.run_writeRequested]
  rcases r with ⟨p, m, c, _ | y⟩ <;> rfl

theorem run_fill (h : r.Answerable q) :
    (q.fill support.features external).run { r with properties := support.limits } =
      ⟨r.writings q [.externalMemory, .filterCubic, .samplerYcbcrConversion],
        r.filled q support external, .ok ()⟩ := by
  have h : ({ r with properties := support.limits }.withExternal external).Answerable q := h
  rw [ImageQuery.fill, List.forM_cons, run_bind_ok (run_externalMemory _), List.forM_cons,
    run_bind_ok (run_filterCubic h), List.forM_cons, run_bind_ok (run_samplerYcbcrConversion _)]
  rcases r with ⟨p, _ | m, _ | c, _ | y⟩ <;> rfl

theorem run_fill_of_not_answerable (h : ¬ r.Answerable q) :
    (q.fill features external).run r =
      ⟨r.writings q [.externalMemory, .filterCubic], r.withExternal external,
        .error (.violated .missingViewType)⟩ := by
  have h : ¬ (r.withExternal external).Answerable q := h
  rw [ImageQuery.fill, List.forM_cons, run_bind_ok (run_externalMemory _), List.forM_cons,
    run_bind_error (run_filterCubic_of_not h)]
  rcases r with ⟨p, _ | m, c, y⟩ <;> rfl

theorem filled_congr (h : r.SameSlots s) :
    r.filled q support external = s.filled q support external := by
  have hm := h .externalMemory
  have hc := h .filterCubic
  have hy := h .samplerYcbcrConversion
  rcases r with ⟨p, _ | m, _ | c, _ | y⟩ <;> rcases s with ⟨p', _ | m', _ | c', _ | y'⟩ <;>
    simp_all [filled, isOpen]

theorem sameSlots_filled (h : r.Answerable q) : (r.filled q support external).SameSlots r := by
  rcases r with ⟨p, m, c, y⟩
  rintro ⟨⟩
  · simp [filled, isOpen]
  · cases c with
    | none => rfl
    | some c => simpa [filled, isOpen, ImageQuery.filterCubic?] using h rfl
  · simp [filled, isOpen]

end Response

namespace Progress

variable {x y : Progress Failure Unit} {why : Refusal} {how : Violation}

theorem settled_of_refused (h : x.result = .error (.refused why)) :
    x.settled = ⟨x.log, { x.response with properties := .unsupported }, .ok (some why)⟩ := by
  rcases x with ⟨es, r, result⟩
  cases h
  rfl

theorem settled_of_violated (h : x.result = .error (.violated how)) :
    x.settled = ⟨x.log, x.response, .error how⟩ := by
  rcases x with ⟨es, r, result⟩
  cases h
  rfl

theorem settled_congr {view : Response → Response}
    (hview : ∀ r s limits, view r = view s →
      view { r with properties := limits } = view { s with properties := limits })
    (hresponse : view x.response = view y.response) (hresult : x.result = y.result) :
    view x.settled.response = view y.settled.response ∧ x.settled.result = y.settled.result := by
  rcases x with ⟨es, r, result⟩
  rcases y with ⟨es', s, result'⟩
  obtain rfl : result = result' := hresult
  match result with
  | .ok () | .error (.violated how) => exact ⟨hresponse, rfl⟩
  | .error (.refused why) => exact ⟨hview r s .unsupported hresponse, rfl⟩

theorem log_settled (x : Progress Failure Unit) : x.settled.log = x.log := by
  rcases x with ⟨es, r, (_ | _) | _⟩ <;> rfl

end Progress

namespace Device

open Answering Logged

variable {d : Device} {q : ImageQuery} {r : Response} {reply : Reply} {support : Support}
  {external : Option ExternalMemory} {why : Refusal} {how : Violation} {e : Failure}

/-- What a query comes to before any slot is written. The response has no part in it. -/
def verdict (d : Device) (q : ImageQuery) : Except Failure (Support × Option ExternalMemory) := do
  let support ← (d.support q).result
  let external ← (externalFor q).result
  pure (support, external)

theorem verdict_eq_ok_iff : d.verdict q = .ok (support, external) ↔
    (d.support q).result = .ok support ∧ (externalFor q).result = .ok external := by
  unfold verdict
  cases (d.support q).result with
  | error e => exact ⟨nofun, nofun⟩
  | ok s =>
    cases (externalFor q).result with
    | error e => exact ⟨nofun, nofun⟩
    | ok e =>
      change Except.ok (s, e) = .ok (support, external) ↔ _
      simp

theorem verdict_of_error (h : (d.support q).result = .error e) : d.verdict q = .error e := by
  rw [verdict, h]
  rfl

theorem verdict_of_handle (hs : (d.support q).result = .ok support)
    (he : (externalFor q).result = .error e) : d.verdict q = .error e := by
  rw [verdict, hs, he]
  rfl

/-- A refusal can come from the limits or from the kind of handle, and no slot is written before the
last of the two. -/
theorem refusesFirst_answerImage (d : Device) (q : ImageQuery) :
    (d.answerImage q).RefusesFirst :=
  (keepsSlots_lift _).refusesFirst_bind fun support ↦
    (keepsSlots_modify support.limits).refusesFirst_bind fun _ ↦
      (keepsSlots_lift _).refusesFirst_bind fun _ ↦ q.neverRefuses_fill.refusesFirst

theorem run_answerImage_of_error (h : (d.support q).result = .error e) :
    (d.answerImage q).run r = ⟨(d.support q).log, r, .error e⟩ :=
  run_bind_error (by rw [run_lift, h])

theorem run_answerImage_of_handle (hs : (d.support q).result = .ok support)
    (he : (externalFor q).result = .error e) :
    (d.answerImage q).run r = ⟨(d.support q).log ++ (externalFor q).log,
      { r with properties := support.limits }, .error e⟩ := by
  rw [answerImage, run_bind_ok (by rw [run_lift, hs]), run_bind_ok (run_modify _ r),
    run_bind_error (by rw [run_lift, he])]
  rfl

theorem run_answerImage (h : d.verdict q = .ok (support, external)) :
    (d.answerImage q).run r =
      let done := (q.fill support.features external).run { r with properties := support.limits }
      ⟨(d.support q).log ++ (externalFor q).log ++ done.log, done.response, done.result⟩ := by
  obtain ⟨hs, he⟩ := verdict_eq_ok_iff.1 h
  rw [answerImage, run_bind_ok (by rw [run_lift, hs]), run_bind_ok (run_modify _ r),
    run_bind_ok (by rw [run_lift, he])]
  simp

theorem result_answerImage_of_error (h : d.verdict q = .error e) :
    ((d.answerImage q).run r).result = .error e := by
  rcases hs : (d.support q).result with e' | support
  · rw [verdict_of_error hs] at h
    cases h
    rw [run_answerImage_of_error hs]
  · rcases he : (externalFor q).result with e' | external
    · rw [verdict_of_handle hs he] at h
      cases h
      rw [run_answerImage_of_handle hs he]
    · rw [verdict_eq_ok_iff.2 ⟨hs, he⟩] at h
      cases h

theorem run_replyImage (d : Device) (q : ImageQuery) (r : Response) :
    (d.replyImage q).run r = ((d.answerImage q).run r).settled := rfl

theorem queryImage_of_refused (h : d.verdict q = .error (.refused why)) :
    (d.queryImage q r).result = .ok ⟨{ r with properties := .unsupported }, some why⟩ := by
  have hresult := result_answerImage_of_error (r := r) h
  obtain ⟨limits, hresponse⟩ := refusesFirst_answerImage d q r why hresult
  rw [queryImage, run_replyImage, Progress.settled_of_refused hresult, hresponse]
  rfl

theorem queryImage_of_violated (h : d.verdict q = .error (.violated how)) :
    (d.queryImage q r).result = .error how := by
  have hresult := result_answerImage_of_error (r := r) h
  rw [queryImage, run_replyImage, Progress.settled_of_violated hresult]
  rfl

theorem queryImage_of_ok (h : d.verdict q = .ok (support, external)) (hr : r.Answerable q) :
    (d.queryImage q r).result = .ok ⟨r.filled q support external, none⟩ := by
  rw [queryImage, run_replyImage, run_answerImage h, Response.run_fill hr]
  rfl

theorem queryImage_of_not_answerable (h : d.verdict q = .ok (support, external))
    (hr : ¬ r.Answerable q) : (d.queryImage q r).result = .error .missingViewType := by
  have hr : ¬ ({ r with properties := support.limits } : Response).Answerable q := hr
  rw [queryImage, run_replyImage, run_answerImage h, Response.run_fill_of_not_answerable hr]
  rfl

theorem queryImage_cases (h : (d.queryImage q r).result = .ok reply) :
    (∃ support external, d.verdict q = .ok (support, external) ∧ r.Answerable q ∧
        reply = ⟨r.filled q support external, none⟩) ∨
      ∃ why, d.verdict q = .error (.refused why) ∧
        reply = ⟨{ r with properties := .unsupported }, some why⟩ := by
  rcases hv : d.verdict q with (why | how) | ⟨support, external⟩
  · rw [queryImage_of_refused hv, Except.ok.injEq] at h
    exact .inr ⟨why, rfl, h.symm⟩
  · rw [queryImage_of_violated hv] at h
    cases h
  · by_cases hr : r.Answerable q
    · rw [queryImage_of_ok hv hr, Except.ok.injEq] at h
      exact .inl ⟨support, external, rfl, hr, h.symm⟩
    · rw [queryImage_of_not_answerable hv hr] at h
      cases h

end Device

end TexelFormats
