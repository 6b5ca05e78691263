import TexelFormats.Proofs.Responses
import TexelFormats.Session

namespace TexelFormats

namespace Device

open Response

variable {d : Device} {q : ImageQuery} {r s : Response} {reply other : Reply}

/-- A reply owes nothing to what the response held before the query. -/
structure RepliesAfresh (d : Device) (q : ImageQuery) (r : Response) (reply : Reply) : Prop where
  sameSlots : reply.response.SameSlots r
  independent : ∀ s other, (d.queryImage q s).result = .ok other →
    other.refusal = reply.refusal ∧ other.response.properties = reply.response.properties
  limits_eq : reply.refusal = none →
    ∃ support, (d.support q).result = .ok support ∧ reply.response.properties = support.limits
  eq_withSlots : reply.refusal = none → ∀ os, (∀ o, o ∈ os ↔ r.isOpen o = true) →
    (d.queryImage q (.withSlots os)).result = .ok reply
  restored : reply.refusal ≠ none → reply.response = { r with properties := .unsupported }

theorem queryImage_independent (h : (d.queryImage q r).result = .ok reply)
    (hs : (d.queryImage q s).result = .ok other) :
    other.refusal = reply.refusal ∧ other.response.properties = reply.response.properties := by
  obtain ⟨support, external, hv, -, rfl⟩ | ⟨why, hv, rfl⟩ := queryImage_cases h <;>
    obtain ⟨support', external', hv', -, rfl⟩ | ⟨why', hv', rfl⟩ := queryImage_cases hs <;>
    rw [hv] at hv' <;> cases hv' <;> exact ⟨rfl, rfl⟩

theorem repliesAfresh (h : (d.queryImage q r).result = .ok reply) : d.RepliesAfresh q r reply := by
  have hind := fun s other (hs : (d.queryImage q s).result = .ok other) ↦
    queryImage_independent h hs
  obtain ⟨support, external, hv, hr, rfl⟩ | ⟨why, hv, rfl⟩ := queryImage_cases h
  · refine ⟨sameSlots_filled hr, hind, fun _ ↦ ⟨support, (verdict_eq_ok_iff.1 hv).1, rfl⟩,
      fun _ os hos ↦ ?_, fun h ↦ absurd rfl h⟩
    have hopen : (withSlots os).SameSlots r := fun o ↦ by
      rw [Bool.eq_iff_iff, isOpen_withSlots, hos]
    rw [queryImage_of_ok hv fun h ↦ hr (hopen .filterCubic ▸ h), filled_congr hopen]
  · refine ⟨?_, hind, nofun, nofun, fun _ ↦ rfl⟩
    rintro ⟨⟩ <;> rfl

end Device

namespace Session

open Logged Response

inductive Reaches : Session → List Step → List Answer → Session → Prop
  | done (s : Session) : Reaches s [] [] s
  | step {s t u : Session} {step : Step} {steps : List Step} {answer : Answer}
      {answers : List Answer} :
      (s.step step).result = .ok (t, answer) → Reaches t steps answers u →
      Reaches s (step :: steps) (answer :: answers) u

def Step.requested? : Step → Option (List ImageOutput)
  | .request outputs => some outputs
  | _ => none

def lastRequested? : List Step → Option (List ImageOutput)
  | [] => none
  | step :: steps => (lastRequested? steps).or step.requested?

variable {s t : Session} {step : Step} {steps before after : List Step} {answer : Answer}
  {answers : List Answer} {q : ImageQuery} {o : ImageOutput}

theorem step_query (h : (s.step (.query q)).result = .ok (t, answer)) :
    ∃ reply, (s.device.queryImage q s.response).result = .ok reply ∧
      t = { s with response := reply.response } ∧ answer = .reply reply := by
  rcases hr : (s.device.queryImage q s.response).result with how | reply
  · rw [Session.step, result_bind_error hr] at h
    cases h
  · rw [Session.step, result_bind_ok hr] at h
    cases h
    exact ⟨reply, rfl, rfl, rfl⟩

theorem isOpen_step (h : (s.step step).result = .ok (t, answer)) :
    t.response.isOpen o = true ↔
      step.requested?.elim (s.response.isOpen o = true) (o ∈ ·) := by
  cases step with
  | device d =>
    cases h
    rfl
  | request outputs =>
    cases h
    exact isOpen_withSlots
  | poke limits =>
    cases h
    cases o <;> rfl
  | query q =>
    obtain ⟨reply, hr, rfl, -⟩ := step_query h
    exact Bool.eq_iff_iff.1 ((Device.repliesAfresh hr).sameSlots o)
  | features f =>
    cases h
    rfl

theorem Reaches.isOpen (h : s.Reaches steps answers t) :
    t.response.isOpen o = true ↔
      (lastRequested? steps).elim (s.response.isOpen o = true) (o ∈ ·) := by
  induction h with
  | done s => rfl
  | @step s t u step steps answer answers hs h ih =>
    rw [ih, isOpen_step hs, lastRequested?]
    cases lastRequested? steps <;> rfl

theorem run_cons (h : ∀ how, .violation how ∉ (s.run (step :: steps)).2) :
    ∃ t answer, (s.step step).result = .ok (t, answer) ∧
      (s.run (step :: steps)).2 = answer :: (t.run steps).2 := by
  rcases hs : (s.step step).result with how | ⟨t, answer⟩
  · simp [run, hs] at h
  · exact ⟨t, answer, rfl, by simp [run, hs]⟩

theorem exists_reaches (h : ∀ how, .violation how ∉ (s.run (before ++ after)).2) :
    ∃ t answers, s.Reaches before answers t ∧
      (s.run (before ++ after)).2 = answers ++ (t.run after).2 := by
  induction before generalizing s with
  | nil => exact ⟨s, [], .done s, rfl⟩
  | cons step before ih =>
    obtain ⟨t, answer, hs, hrun⟩ := run_cons h
    -- a violation later on would be one of the whole run
    have ht : ∀ how, .violation how ∉ (t.run (before ++ after)).2 := by
      intro how hm
      exact h how (hrun ▸ .tail _ hm)
    obtain ⟨u, answers, hu, hrest⟩ := ih ht
    exact ⟨u, answer :: answers, .step hs hu, hrun.trans (congrArg _ hrest)⟩

/-- One response may serve any number of queries. Whatever the steps of a run that breaks no rule,
the slots open after some of them are those of the last request, and a query that comes next finds
no trace of what the response held. -/
theorem run_reuses_response (h : ∀ how, .violation how ∉ (s.run (before ++ after)).2) :
    ∃ t answers, s.Reaches before answers t ∧
      (s.run (before ++ after)).2 = answers ++ (t.run after).2 ∧
      (∀ o, t.response.isOpen o = true ↔
        (lastRequested? before).elim (s.response.isOpen o = true) (o ∈ ·)) ∧
      ∀ q rest, after = .query q :: rest →
        ∃ reply, (t.run after).2.head? = some (.reply reply) ∧
          (t.step (.query q)).result = .ok ({ t with response := reply.response }, .reply reply) ∧
          t.device.RepliesAfresh q t.response reply := by
  obtain ⟨t, answers, ht, hrun⟩ := exists_reaches h
  refine ⟨t, answers, ht, hrun, fun o ↦ ht.isOpen, ?_⟩
  rintro q rest rfl
  have hafter : ∀ how, .violation how ∉ (t.run (.query q :: rest)).2 := by
    intro how hm
    exact h how (hrun ▸ List.mem_append_right _ hm)
  obtain ⟨u, answer, hs, hhead⟩ := run_cons hafter
  obtain ⟨reply, hr, rfl, rfl⟩ := step_query hs
  exact ⟨reply, by rw [hhead]; rfl, hs, Device.repliesAfresh hr⟩

theorem run_reuses_response_after_refusal : ∃ t a first refused reply,
    Reaches {} [.request [.filterCubic, .externalMemory, .filterCubic],
      .query { format := .r8g8b8a8Unorm, handleTypes := some {.hostAllocation},
               viewType := some .twoD },
      .query {}] [.requested a, .reply first, .reply refused] t ∧
    t.response.isOpen .externalMemory = true ∧ t.response.isOpen .samplerYcbcrConversion ≠ true ∧
    t.device.RepliesAfresh { format := .r8g8b8a8Unorm, viewType := some .twoD } t.response reply ∧
    first.refusal = none ∧ first.response.externalMemory = some HandleTypes.hostImport ∧
    refused.refusal = some (.formatNotSupported .undefined .optimal) ∧
    refused.response = { first.response with properties := .unsupported } ∧
    reply.refusal = none ∧ reply.response.properties.maxMipLevels = 15 ∧
    reply.response.externalMemory = some ∅ ∧
    reply.response.filterCubic = some ⟨false, false⟩ ∧
    reply.response.ycbcrConversion = none := by
  have hrun : ∃ a b c d, (run {} ([.request [.filterCubic, .externalMemory, .filterCubic],
      .query { format := .r8g8b8a8Unorm, handleTypes := some {.hostAllocation},
               viewType := some .twoD },
      .query {}] ++ [.query { format := .r8g8b8a8Unorm, viewType := some .twoD }])).2 =
        [.requested a, .reply b, .reply c, .reply d] ∧
      b.refusal = none ∧ b.response.externalMemory = some HandleTypes.hostImport ∧
      c.refusal = some (.formatNotSupported .undefined .optimal) ∧
      c.response = { b.response with properties := .unsupported } ∧
      d.refusal = none ∧ d.response.properties.maxMipLevels = 15 ∧
      d.response.externalMemory = some ∅ ∧ d.response.filterCubic = some ⟨false, false⟩ ∧
      d.response.ycbcrConversion = none :=
    ⟨_, _, _, _, rfl, rfl, rfl, rfl, rfl, rfl, rfl, rfl, rfl, rfl⟩
  obtain ⟨a, b, c, d, hrun, hreplies⟩ := hrun
  obtain ⟨t, answers, ht, hall, hopen, hquery⟩ := run_reuses_response (by rw [hrun]; simp)
  obtain ⟨reply, -, hstep, hreply⟩ := hquery _ _ rfl
  have hlast : (t.run [.query { format := .r8g8b8a8Unorm, viewType := some .twoD }]).2 =
      [.reply reply] := by simp [run, hstep]
  rw [hrun, hlast] at hall
  have hsplit : [.requested a, .reply b, .reply c] ++ [.reply d] = answers ++ [.reply reply] := hall
  obtain ⟨rfl, hd⟩ := List.append_inj' hsplit rfl
  cases hd
  refine ⟨t, a, b, c, d, ht, (hopen _).2 ?_, mt (hopen _).1 ?_, hreply, hreplies⟩
  · simp [lastRequested?, Step.requested?]
  · simp [lastRequested?, Step.requested?]

end Session

end TexelFormats
