import TexelFormats.Proofs.Compression
import TexelFormats.Proofs.TableRows
import TexelFormats.Proofs.Violations

namespace TexelFormats

open Logged

namespace Facts

theorem map_fst_history (k : Facts) (rules : List Rule) (f : Features) :
    (k.history rules f).map Prod.fst = rules := by
  induction rules generalizing f with
  | nil => rfl
  | cons r rules ih => rw [history, List.map_cons, ih]

theorem run_of_getElem?_history {k : Facts} {rules : List Rule} {r : Rule} {f s : Features}
    {i : Nat} (h : (k.history rules f)[i]? = some (r, s)) : s = k.run (rules.take (i + 1)) f := by
  induction rules generalizing f i with
  | nil => cases h
  | cons t rules ih =>
    cases i with
    | zero =>
      cases h
      rfl
    | succ i => exact ih h

end Facts

namespace Response

variable {r : Response} {q : ImageQuery} {support : Support} {external : Option ExternalMemory}
  {os : List ImageOutput} {e : Event}

theorem exists_of_mem_writings (h : e ∈ r.writings q os) : ∃ o, e = .writing o q.format := by
  obtain ⟨o, -, rfl⟩ := List.mem_map.1 h
  exact ⟨o, rfl⟩

theorem exists_writing_of_mem_fill (h : e ∈
    ((q.fill support.features external).run { r with properties := support.limits }).log) :
    ∃ o, e = .writing o q.format := by
  by_cases hr : r.Answerable q
  · rw [run_fill hr] at h
    exact exists_of_mem_writings h
  · have hr : ¬ ({ r with properties := support.limits } : Response).Answerable q := hr
    rw [run_fill_of_not_answerable hr] at h
    exact exists_of_mem_writings h

end Response

namespace Device

open ImageQuery

variable {d : Device} {q : ImageQuery} {r : Response} {f : Format} {why : Refusal}
  {reason e : Event} {reasons : List Event} {reply : Reply}

structure RuleRecords (d : Device) (f : Format) (events : List Event) : Prop where
  unlisted : f.row? = none → events = []
  listed : f.row?.isSome = true → ∃ k states, d.facts? f = some k ∧
    (∀ i s, states[i]? = some s → s = k.run (Rule.all.take (i + 1)) ∅) ∧
    states.length = 12 ∧ states.getLast? = some (d.features f) ∧
    events = List.zipWith (fun rule s ↦ .ruleApplied f rule.name s) Rule.all states

/-- Nothing but the third dimension forbids the compression that the modifier stands for. -/
structure StoppedIn3d (d : Device) (q : ImageQuery) : Prop where
  tiling : q.tiling = .byModifier
  modifier : q.modifier = some .compressed
  imageType : q.imageType = .threeD
  optimal : (d.features q.format).optimal ≠ ∅
  tileable : q.format.canBeTiled = true
  immutable : .mutableFormat ∉ q.flags
  compressible : d.CanCompress q.format

inductive ToldBy (q : ImageQuery) : Refusal → Event → Prop
  | notTileable : ToldBy q (.modifierNotSupported q.format .compressed) (.notTileable q.format)
  | mutableFormat :
      .mutableFormat ∈ q.flags →
      ToldBy q (.modifierNotSupported q.format .compressed) (.mutableFormat q.format)
  | incompressible :
      ToldBy q (.modifierNotSupported q.format .compressed) (.incompressible q.format q.usage)
  | unknownModifier {m : Modifier} :
      m ≠ .linear → m ≠ .compressed →
      ToldBy q (.modifierNotSupported q.format m) (.unknownModifier q.format m)
  | noFeatures : ToldBy q (.formatNotSupported q.format q.tiling) (.noFeatures q.format q.tiling)
  | notFlat : ToldBy q (.imageTypeNotSupported q.format q.imageType) (.depthStencilNot2d q.format)
  | ungranted {usage : Usage} {feature : Feature} :
      usage.needs? = some feature →
      ToldBy q (.usageNotSupported q.format usage) (.lacksFeature q.format q.tiling feature)
  | handle {h : HandleTypes} :
      q.handleTypes = some h →
      ToldBy q (.handleNotSupported h q.imageType)
        (.handleRefused (.handleNotSupported h q.imageType))

/-- The records between those of the rules and those of the slots. -/
inductive ReasonRecords (d : Device) (q : ImageQuery) : Option Refusal → List Event → Prop
  | answered : ReasonRecords d q none []
  | refused {why : Refusal} {reason : Event} :
      ¬ d.StoppedIn3d q → ToldBy q why reason → ReasonRecords d q (some why) [reason]
  | stoppedIn3d :
      d.StoppedIn3d q →
      ReasonRecords d q (some (.modifierNotSupported q.format .compressed))
        [.uncompressedIn3d d q.format, .incompressible q.format q.usage]

theorem ruleRecords_featureEvents (d : Device) (f : Format) :
    d.RuleRecords f (d.featureEvents f) := by
  have hfacts := d.isSome_facts?_iff (f := f)
  unfold featureEvents
  rcases hk : d.facts? f with _ | k
  · refine ⟨fun _ ↦ rfl, fun h ↦ ?_⟩
    rw [← hfacts, hk] at h
    cases h
  · refine ⟨fun h ↦ ?_, fun _ ↦ ⟨k, (k.history Rule.all ∅).map Prod.snd, hk, ?_, ?_, ?_, ?_⟩⟩
    · rw [hk, h] at hfacts
      cases hfacts.1 rfl
    · intro i s hs
      rw [List.getElem?_map, Option.map_eq_some_iff] at hs
      obtain ⟨⟨r, s⟩, hs, rfl⟩ := hs
      exact Facts.run_of_getElem?_history hs
    · rw [List.length_map, ← List.length_map Prod.fst, k.map_fst_history]
      rfl
    · rw [List.getLast?_map, features, hk]
      exact k.getLast?_history _ _ ∅
    · have hzip := List.zip_of_prod (k.map_fst_history Rule.all ∅) rfl
      exact (congrArg (List.map _) hzip).trans List.map_zip_eq_zipWith

theorem level_of_mem_featureEvents (h : e ∈ d.featureEvents f) : e.level = .trace := by
  unfold featureEvents at h
  split at h
  · cases h
  · obtain ⟨⟨rule, s⟩, -, rfl⟩ := List.mem_map.1 h
    rfl

theorem ToldBy.level_eq (h : ToldBy q why reason) : reason.level = .debug := by
  cases h <;> rfl

theorem ReasonRecords.level_eq {answer : Option Refusal} (h : d.ReasonRecords q answer reasons)
    (he : e ∈ reasons) : e.level = .debug := by
  cases h with
  | answered => cases he
  | refused _ htold =>
    rw [List.mem_singleton.1 he]
    exact htold.level_eq
  | stoppedIn3d _ =>
    simp only [List.mem_cons, List.not_mem_nil, or_false] at he
    rcases he with rfl | rfl <;> rfl

theorem ReasonRecords.eq_nil_iff {answer : Option Refusal} (h : d.ReasonRecords q answer reasons) :
    reasons = [] ↔ answer = none := by
  cases h <;> simp

theorem StoppedIn3d.not_selects {features : FeatureSet} (h : d.StoppedIn3d q) :
    ¬ d.Selects q features := by
  have hlinear : Tiling.linear ≠ .byModifier := by decide
  have hoptimal : Tiling.optimal ≠ .byModifier := by decide
  have hmodifiers : some Modifier.linear ≠ some .compressed := by decide
  intro hs
  cases hs with
  | linear ht => exact hlinear (ht.symm.trans h.tiling)
  | optimal ht => exact hoptimal (ht.symm.trans h.tiling)
  | linearModifier _ hm => exact hmodifiers (hm.symm.trans h.modifier)
  | compressedModifier _ _ _ _ _ hc => exact (compresses_iff.1 hc).2.flat h.imageType

theorem compressionEvents_of_stoppedIn3d (h : d.StoppedIn3d q) :
    d.compressionEvents q.surface = [.uncompressedIn3d d q.format] :=
  if_pos (obstacle?_eq_threeDimensional_iff.2 ⟨h.compressible, h.imageType⟩)

theorem compressionEvents_of_not_stoppedIn3d (ht : q.tiling = .byModifier)
    (hm : q.modifier = some .compressed) (ho : (d.features q.format).optimal ≠ ∅)
    (hc : q.format.canBeTiled = true) (hmutable : .mutableFormat ∉ q.flags)
    (h : ¬ d.StoppedIn3d q) : d.compressionEvents q.surface = [] := by
  refine if_neg fun hobstacle ↦ h ?_
  obtain ⟨hcompress, hi⟩ := obstacle?_eq_threeDimensional_iff.1 hobstacle
  exact ⟨ht, hm, hi, ho, hc, hmutable, hcompress⟩

theorem decided_cases (d : Device) (q : ImageQuery) :
    (∃ support, d.decided q = pure support ∧ ¬ d.StoppedIn3d q) ∨
      (∃ how, d.decided q = fail (.violated how)) ∨
      ∃ why reasons, d.ReasonRecords q (some why) reasons ∧
        d.decided q = ⟨reasons, .error (.refused why)⟩ := by
  obtain ⟨x, hx⟩ := d.exists_decision q
  rw [hx.decided_eq]
  cases hx with
  | badTiling _ => exact .inr (.inl ⟨_, rfl⟩)
  | missingModifier _ _ => exact .inr (.inl ⟨_, rfl⟩)
  | badImageType _ _ _ _ => exact .inr (.inl ⟨_, rfl⟩)
  | supported hs _ _ => exact .inl ⟨_, rfl, fun h ↦ h.not_selects hs⟩
  | unknownModifier _ hm hl hc =>
    refine .inr (.inr ⟨_, _, .refused (fun h ↦ ?_) (.unknownModifier hl hc), rfl⟩)
    exact hc (Option.some.inj (hm.symm.trans h.modifier))
  | notTileable _ _ hn =>
    exact .inr (.inr ⟨_, _,
      .refused (fun h ↦ hn.elim h.optimal fun hc ↦ hc h.tileable) .notTileable, rfl⟩)
  | mutableFormat _ _ _ _ hmutable =>
    exact .inr (.inr ⟨_, _, .refused (fun h ↦ h.immutable hmutable) (.mutableFormat hmutable), rfl⟩)
  | incompressible ht hm ho hc hmutable _ =>
    -- the one refusal that can leave a second record
    by_cases h : d.StoppedIn3d q
    · rw [compressionEvents_of_stoppedIn3d h]
      exact .inr (.inr ⟨_, _, .stoppedIn3d h, rfl⟩)
    · rw [compressionEvents_of_not_stoppedIn3d ht hm ho hc hmutable h]
      exact .inr (.inr ⟨_, _, .refused h .incompressible, rfl⟩)
  | noFeatures hs => exact .inr (.inr ⟨_, _, .refused (fun h ↦ h.not_selects hs) .noFeatures, rfl⟩)
  | notFlat hs _ _ _ =>
    exact .inr (.inr ⟨_, _, .refused (fun h ↦ h.not_selects hs) .notFlat, rfl⟩)
  | @ungranted _ usage feature hs _ _ _ hu =>
    obtain ⟨-, -, -, before, after, hsplit, -⟩ := unmet?_eq_some_iff.1 hu
    have hneeds : usage.needs? = some feature := mem_requirements.1 (by simp [hsplit])
    exact .inr (.inr ⟨_, _, .refused (fun h ↦ h.not_selects hs) (.ungranted hneeds), rfl⟩)

theorem log_support (d : Device) (q : ImageQuery) :
    (d.support q).log = d.featureEvents q.format ++ (d.decided q).log :=
  log_bind_ok (result_records _)

theorem log_answerImage_cases (d : Device) (q : ImageQuery) (r : Response) :
    (∃ how, d.verdict q = .error (.violated how) ∧
      ((d.answerImage q).run r).log = d.featureEvents q.format) ∨
    (∃ why reasons, d.verdict q = .error (.refused why) ∧ d.ReasonRecords q (some why) reasons ∧
      ((d.answerImage q).run r).log = d.featureEvents q.format ++ reasons) ∨
    ∃ support external, d.verdict q = .ok (support, external) ∧ ((d.answerImage q).run r).log =
      d.featureEvents q.format ++
        ((q.fill support.features external).run { r with properties := support.limits }).log := by
  obtain ⟨support, hd, hstopped⟩ | ⟨how, hd⟩ | ⟨why, reasons, hreasons, hd⟩ := d.decided_cases q
  · have hs : (d.support q).result = .ok support := by rw [result_support_eq, hd, result_pure]
    have hlog : (d.support q).log = d.featureEvents q.format := by
      rw [log_support, hd, log_pure, List.append_nil]
    by_cases hb : q.HandlesBacked
    · obtain ⟨external, he⟩ := externalFor_of_backed hb
      have hv := verdict_eq_ok_iff.2 ⟨hs, by rw [he, result_pure]⟩
      refine .inr (.inr ⟨support, external, hv, ?_⟩)
      rw [run_answerImage hv, hlog, he, log_pure, List.append_nil]
    · obtain ⟨m, hm, he⟩ := externalFor_of_not_backed hb
      have hx : (externalFor q).result =
          .error (.refused (.handleNotSupported m q.imageType)) := by rw [he, result_refuse]
      refine .inr (.inl ⟨_, _, verdict_of_handle hs hx, .refused hstopped (.handle hm), ?_⟩)
      rw [run_answerImage_of_handle hs hx, hlog, he]
      rfl
  · have hs : (d.support q).result = .error (.violated how) := by
      rw [result_support_eq, hd, result_fail]
    refine .inl ⟨how, verdict_of_error hs, ?_⟩
    rw [run_answerImage_of_error hs, log_support, hd, log_fail, List.append_nil]
  · have hs : (d.support q).result = .error (.refused why) := by rw [result_support_eq, hd]
    refine .inr (.inl ⟨why, reasons, verdict_of_error hs, hreasons, ?_⟩)
    rw [run_answerImage_of_error hs, log_support, hd]

theorem log_queryImage_eq (d : Device) (q : ImageQuery) (r : Response) :
    (d.queryImage q r).log = ((d.answerImage q).run r).log := Progress.log_settled _

theorem level_of_mem_log (h : e ∈ (d.queryImage q r).log) :
    e.level = .debug ∨ e.level = .trace := by
  rw [log_queryImage_eq] at h
  obtain ⟨how, -, hlog⟩ | ⟨why, reasons, -, hreasons, hlog⟩ | ⟨support, external, -, hlog⟩ :=
    d.log_answerImage_cases q r
  · rw [hlog] at h
    exact .inr (level_of_mem_featureEvents h)
  · rw [hlog, List.mem_append] at h
    exact h.symm.imp hreasons.level_eq level_of_mem_featureEvents
  · rw [hlog, List.mem_append] at h
    obtain h | h := h
    · exact .inr (level_of_mem_featureEvents h)
    · obtain ⟨o, rfl⟩ := Response.exists_writing_of_mem_fill h
      exact .inr rfl

theorem exists_reasons_of_reply (h : (d.queryImage q r).result = .ok reply) :
    ∃ reasons, d.ReasonRecords q reply.refusal reasons ∧
      (d.queryImage q r).log = d.featureEvents q.format ++ reasons ++
        if reply.refusal = none then
          ([.externalMemory, .filterCubic, .samplerYcbcrConversion].filter r.isOpen).map
            fun o ↦ .writing o q.format
        else [] := by
  rw [log_queryImage_eq]
  obtain ⟨support, external, hv, hr, rfl⟩ | ⟨why, hv, rfl⟩ := queryImage_cases h
  · obtain ⟨_, hv', -⟩ | ⟨_, _, hv', -⟩ | ⟨_, _, hv', hlog⟩ := d.log_answerImage_cases q r
    · cases hv.symm.trans hv'
    · cases hv.symm.trans hv'
    · cases hv.symm.trans hv'
      rw [Response.run_fill hr] at hlog
      refine ⟨[], .answered, ?_⟩
      rw [if_pos rfl, List.append_nil]
      exact hlog
  · obtain ⟨_, hv', -⟩ | ⟨_, reasons, hv', hreasons, hlog⟩ | ⟨_, _, hv', -⟩ :=
      d.log_answerImage_cases q r
    · cases hv.symm.trans hv'
    · cases hv.symm.trans hv'
      refine ⟨reasons, hreasons, ?_⟩
      rw [if_neg nofun, List.append_nil]
      exact hlog
    · cases hv.symm.trans hv'

/-- A query that breaks no rule of asking leaves the rules by which its features were found, then
the reasons if it was refused, then the slots that were written if it was not. -/
theorem log_queryImage (d : Device) (q : ImageQuery) (r : Response) :
    (∀ e ∈ (d.queryImage q r).log, e.level = .debug ∨ e.level = .trace) ∧
    ∀ reply, (d.queryImage q r).result = .ok reply → ∃ rules reasons writings,
      (d.queryImage q r).log = rules ++ reasons ++ writings ∧
      (∀ e ∈ rules ++ writings, e.level = .trace) ∧ (∀ e ∈ reasons, e.level = .debug) ∧
      d.RuleRecords q.format rules ∧
      d.ReasonRecords q reply.refusal reasons ∧ (reasons = [] ↔ reply.refusal = none) ∧
      writings = if reply.refusal = none then
          ([.externalMemory, .filterCubic, .samplerYcbcrConversion].filter r.isOpen).map
            fun o ↦ .writing o q.format
        else [] := by
  refine ⟨fun e ↦ level_of_mem_log, fun reply h ↦ ?_⟩
  obtain ⟨reasons, hreasons, hlog⟩ := exists_reasons_of_reply h
  refine ⟨_, reasons, _, hlog, fun e he ↦ ?_, fun e ↦ hreasons.level_eq,
    d.ruleRecords_featureEvents q.format, hreasons, hreasons.eq_nil_iff, rfl⟩
  obtain he | he := List.mem_append.1 he
  · exact level_of_mem_featureEvents he
  · split at he
    · obtain ⟨o, -, rfl⟩ := List.mem_map.1 he
      rfl
    · cases he

theorem log_queryImage_of_threeD :
    ∃ rules, rules.length = 12 ∧ ((default : Device).queryImage {
      format := .r8g8b8a8Unorm, imageType := .threeD, tiling := .byModifier
      modifier := some .compressed } (.withSlots [.filterCubic])).log =
        rules ++ [.uncompressedIn3d default .r8g8b8a8Unorm, .incompressible .r8g8b8a8Unorm ∅] := by
  obtain ⟨-, hreply⟩ := log_queryImage default {
    format := .r8g8b8a8Unorm, imageType := .threeD, tiling := .byModifier
    modifier := some .compressed } (.withSlots [.filterCubic])
  obtain ⟨rules, reasons, writings, hlog, -, -, hrules, hreasons, -, rfl⟩ := hreply
    ⟨.withSlots [.filterCubic], some (.modifierNotSupported .r8g8b8a8Unorm .compressed)⟩ rfl
  have hlength : rules.length = 12 := by
    obtain ⟨k, states, -, -, hstates, -, rfl⟩ := hrules.listed rfl
    rw [List.length_zipWith, hstates]
    rfl
  refine ⟨rules, hlength, ?_⟩
  cases hreasons with
  | refused h _ =>
    refine absurd ⟨rfl, rfl, rfl, ?_, ?_, ?_, compresses_plain_iff.1 rfl⟩ h <;> decide
  | stoppedIn3d _ => rw [hlog, if_neg nofun, List.append_nil]

end Device

end TexelFormats
