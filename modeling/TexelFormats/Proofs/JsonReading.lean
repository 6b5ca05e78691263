import TexelFormats.Proofs.JsonLiterals

namespace TexelFormats.Json

variable {c : Char} {cs ds rest : List Char} {fuel : Nat}

variable {α : Type} {P : List Char → α → Prop} {item : Reader α} {close : Char} {x : α}
  {xs : List α}

def Closes (rest : List Char) : Prop := ∀ c ∈ rest.head?, c ∈ [',', ']', '}']

theorem Closes.nil : Closes [] := fun c hc ↦ absurd hc (Option.not_mem_none c)

/-- The reader takes in the text, but maybe for space at its end, wherever it stands. -/
def Reads (item : Reader α) (cs : List Char) (x : α) : Prop :=
  ∀ rest, Closes rest → ∃ ws, Space ws ∧ item (cs ++ rest) = some (x, ws ++ rest)

theorem skipSpace_append_close (hc : c ∈ [',', ']', '}']) {ws : List Char} (hws : Space ws)
    (rest : List Char) : skipSpace (ws ++ c :: rest) = c :: rest := by
  have hspace : isSpace c = false := by
    simp only [List.mem_cons, List.not_mem_nil, or_false] at hc
    obtain rfl | rfl | rfl := hc <;> decide
  rw [skipSpace_append hws, skipSpace_of_not_isSpace hspace]

theorem Separated.length_le (h : Separated P cs xs) : xs.length ≤ cs.length + 1 := by
  induction h with
  | one _ => simp
  | more _ _ ih =>
    simp only [List.length_cons, List.length_append]
    omega

theorem separated_append (hclose : close ∈ [']', '}']) (h : Separated P cs xs)
    (hitem : ∀ body x, P body x → body.length ≤ cs.length → Reads item body x)
    (hfuel : xs.length ≤ fuel) :
    separated item close fuel (cs ++ close :: rest) = some (xs, rest) := by
  have hends : close ∈ [',', ']', '}'] := List.mem_cons_of_mem _ hclose
  induction h generalizing fuel with
  | @one cs x hx =>
    obtain ⟨fuel, rfl⟩ : ∃ k, fuel = k + 1 := Nat.exists_eq_add_of_le' hfuel
    obtain ⟨ws, hws, hread⟩ :=
      hitem _ _ hx (Nat.le_refl _) (close :: rest) (by simpa [Closes] using hends)
    simp only [separated, hread, Option.bind_eq_bind, Option.bind_some,
      skipSpace_append_close hends hws, if_true]
  | @more cs cs' x xs hx h ih =>
    obtain ⟨fuel, rfl⟩ : ∃ k, fuel = k + 1 :=
      Nat.exists_eq_add_of_le' (Nat.le_trans (by simp) hfuel)
    have hlen : xs.length ≤ fuel := by simpa using hfuel
    have hrest := ih (fun body x hx hlen ↦ hitem body x hx (by simp; omega)) hlen
    obtain ⟨ws, hws, hread⟩ :=
      hitem _ _ hx (by simp) (',' :: (cs' ++ close :: rest)) (by simp [Closes])
    have hne : ¬ ',' = close := by
      rintro rfl
      exact absurd hclose (by decide)
    rw [List.append_assoc, List.cons_append, separated, hread, Option.bind_eq_bind,
      Option.bind_some]
    simp only [skipSpace_append_close (.head _) hws, if_neg hne, if_true, hrest]
    rfl

theorem enclosed_of_separated
    (hitem : ∀ cs, (∀ c ∈ (skipSpace cs).head?, c = close) → item cs = none)
    (h : separated item close fuel cs = some (xs, rest)) :
    enclosed item close fuel cs = some (xs, rest) := by
  have hsome : item cs ≠ none := by
    intro hnone
    cases fuel with
    | zero => cases h
    | succ fuel =>
      rw [separated, hnone] at h
      cases h
  rw [enclosed]
  split
  · next hspace => exact absurd (hitem cs (by simp [hspace])) hsome
  · next c r hspace =>
    rw [if_neg, h]
    rintro rfl
    exact hsome (hitem cs (by simp [hspace]))

theorem enclosed_append_of_separated (hclose : close ∈ [']', '}']) (h : Separated P cs xs)
    (hitem : ∀ body x, P body x → body.length ≤ cs.length → Reads item body x)
    (hnone : ∀ cs, (∀ c ∈ (skipSpace cs).head?, c = close) → item cs = none)
    (hfuel : cs.length < fuel) :
    enclosed item close fuel (cs ++ close :: rest) = some (xs, rest) := by
  have hlen : xs.length ≤ fuel := Nat.le_trans h.length_le hfuel
  exact enclosed_of_separated hnone (separated_append hclose h hitem hlen)

theorem enclosed_append_of_space (hclose : close ∈ [']', '}']) (h : Space cs) :
    enclosed item close fuel (cs ++ close :: rest) = some ([], rest) := by
  have hends : close ∈ [',', ']', '}'] := List.mem_cons_of_mem _ hclose
  simp only [enclosed, skipSpace_append_close hends h, if_true]

variable {v : Json} {key : Spelling}

theorem value_eq_object (h : skipSpace cs = '{' :: rest) : value (fuel + 1) cs =
    (enclosed (member (value fuel)) '}' fuel rest).map fun (ms, rest) ↦ (object ms, rest) := by
  rw [value, h]
  rfl

theorem value_eq_array (h : skipSpace cs = '[' :: rest) : value (fuel + 1) cs =
    (enclosed (value fuel) ']' fuel rest).map fun (vs, rest) ↦ (array vs, rest) := by
  rw [value, h]
  rfl

theorem value_eq_string (h : skipSpace cs = '"' :: rest) :
    value (fuel + 1) cs = (spelling rest).map fun (s, rest) ↦ (string s, rest) := by
  rw [value, h]
  rfl

theorem value_eq_literal (h : skipSpace cs = c :: rest) (hc : c ∉ ['{', '[', '"', 'n', 't', 'f']) :
    value (fuel + 1) cs = (literal (c :: rest)).map fun (ds, rest) ↦ (number ds, rest) := by
  rw [value, h]
  split
  case h_7 => rfl
  all_goals
    next heq =>
      cases heq
      exact absurd (by decide) hc

theorem value_eq_none (h : ∀ c ∈ (skipSpace cs).head?, c = ']') : value fuel cs = none := by
  cases fuel with
  | zero => rfl
  | succ fuel =>
    rcases hspace : skipSpace cs with _ | ⟨c, rest⟩
    · rw [value, hspace]
      rfl
    · obtain rfl : c = ']' := h c (by rw [hspace]; rfl)
      rw [value_eq_literal hspace (by decide)]
      rfl

theorem member_eq_none (h : ∀ c ∈ (skipSpace cs).head?, c = '}') :
    member (value fuel) cs = none := by
  rcases hspace : skipSpace cs with _ | ⟨c, rest⟩
  · rw [member, hspace]
  · obtain rfl : c = '}' := h c (by rw [hspace]; rfl)
    rw [member, hspace]
    rfl

theorem Number.exists_cons (h : Number cs) :
    ∃ c rest, cs = c :: rest ∧ isSpace c = false ∧ c ∉ ['{', '[', '"', 'n', 't', 'f'] := by
  have hdigit : ∀ c : Char, c.isDigit = true →
      isSpace c = false ∧ c ∉ ['{', '[', '"', 'n', 't', 'f'] := by
    intro c hc
    rw [Bool.eq_false_iff, Ne, isSpace_iff]
    constructor <;> intro hmem <;> simp only [List.mem_cons, List.not_mem_nil, or_false] at hmem
    · obtain rfl | rfl | rfl | rfl := hmem <;> exact absurd hc (by decide)
    · obtain rfl | rfl | rfl | rfl | rfl | rfl := hmem <;> exact absurd hc (by decide)
  cases h with
  | unsigned h =>
    obtain ⟨hw, -, -⟩ := h
    obtain ⟨d, ds, rfl, hd⟩ := hw.exists_cons
    exact ⟨d, _, rfl, hdigit d hd⟩
  | negative _ => exact ⟨'-', _, rfl, by decide, by decide⟩

theorem endsNumber_append {ws : List Char} (hws : Space ws) (hrest : Closes rest) :
    EndsNumber (ws ++ rest) := by
  intro c hc
  have hmem : c ∈ [' ', '\t', '\n', '\r'] ++ [',', ']', '}'] := by
    cases ws with
    | nil => exact List.mem_append_right _ (hrest c hc)
    | cons w ws =>
      cases hc
      exact List.mem_append_left _ (hws _ (.head _))
  have hends : ∀ c ∈ [' ', '\t', '\n', '\r'] ++ [',', ']', '}'],
      c.isDigit = false ∧ c ∉ ['.', 'e', 'E'] := by simp
  exact hends c hmem

def ReadsValue (fuel : Nat) (cs : List Char) (v : Json) : Prop :=
  ∀ ws rest, Space ws → EndsNumber rest → value fuel (ws ++ (cs ++ rest)) = some (v, rest)

theorem ReadsValue.reads {before after : List Char} (h : ReadsValue fuel cs v)
    (hbefore : Space before) (hafter : Space after) :
    Reads (value fuel) (before ++ cs ++ after) v := by
  intro rest hrest
  refine ⟨after, hafter, ?_⟩
  have hread := h before (after ++ rest) hbefore (endsNumber_append hafter hrest)
  rw [List.append_assoc, List.append_assoc, hread]

theorem Reads.member (hkey : Spaced Quoted cs key) (hv : Reads (value fuel) ds v) :
    Reads (member (value fuel)) (cs ++ ':' :: ds) (key, v) := by
  intro rest hrest
  obtain ⟨hbefore, ⟨hbody⟩, hafter⟩ := hkey
  obtain ⟨ws, hws, hread⟩ := hv rest hrest
  refine ⟨ws, hws, ?_⟩
  simp only [List.append_assoc, List.cons_append, List.nil_append]
  rw [Json.member, skipSpace_append hbefore, skipSpace_of_not_isSpace (by decide)]
  have hcolon : isSpace ':' = false := by decide
  simp only [spelling_append hbody, Option.bind_eq_bind, Option.bind_some,
    skipSpace_append hafter, skipSpace_of_not_isSpace hcolon, hread]

theorem value_append (fuel : Nat) :
    ∀ cs v, Value cs v → cs.length < fuel → ReadsValue fuel cs v := by
  induction fuel with
  | zero => exact fun _ _ _ h ↦ absurd h (Nat.not_lt_zero _)
  | succ fuel ih =>
    intro cs v h hlen ws rest hws hrest
    -- what stands between brackets is shorter than the whole, so the fuel left is enough for it
    have hspaced : ∀ body v, Spaced Value body v → body.length < fuel →
        Reads (value fuel) body v := by
      rintro _ v ⟨hbefore, hv, hafter⟩ hlen
      simp only [List.length_append] at hlen
      exact (ih _ v hv (by omega)).reads hbefore hafter
    have hmember : ∀ body m, Member Value body m → body.length < fuel →
        Reads (member (value fuel)) body m := by
      rintro _ _ ⟨hkey, hv⟩ hlen
      simp only [List.length_append, List.length_cons] at hlen
      exact .member hkey (hspaced _ _ hv (by omega))
    have hskip : ∀ c r, isSpace c = false → skipSpace (ws ++ (c :: r)) = c :: r := by
      intro c r hc
      rw [skipSpace_append hws, skipSpace_of_not_isSpace hc]
    cases h with
    | null | true | false =>
      rw [value, List.cons_append, hskip _ _ (by decide)]
      rfl
    | number hn =>
      obtain ⟨c, r, rfl, hspace, hc⟩ := hn.exists_cons
      have hread := literal_append hn hrest
      rw [List.cons_append] at hread ⊢
      rw [value_eq_literal (hskip c (r ++ rest) hspace) hc, hread]
      rfl
    | string hs =>
      obtain ⟨hbody⟩ := hs
      simp only [List.cons_append, List.append_assoc, List.nil_append]
      rw [value_eq_string (hskip _ _ (by decide)), spelling_append hbody]
      rfl
    | noItems hspace =>
      simp only [List.cons_append, List.append_assoc, List.nil_append]
      rw [value_eq_array (hskip _ _ (by decide)), enclosed_append_of_space (by simp) hspace]
      rfl
    | @array items vs h =>
      simp only [List.length_append, List.length_cons, List.length_nil] at hlen
      have hitem : ∀ body v, Spaced Value body v → body.length ≤ items.length →
          Reads (value fuel) body v := fun body v hv hle ↦ hspaced body v hv (by omega)
      simp only [List.cons_append, List.append_assoc, List.nil_append]
      rw [value_eq_array (hskip _ _ (by decide)), enclosed_append_of_separated (by simp) h hitem
        (fun _ ↦ value_eq_none) (by omega)]
      rfl
    | noMembers hspace =>
      simp only [List.cons_append, List.append_assoc, List.nil_append]
      rw [value_eq_object (hskip _ _ (by decide)), enclosed_append_of_space (by simp) hspace]
      rfl
    | @object members ms h =>
      simp only [List.length_append, List.length_cons, List.length_nil] at hlen
      have hitem : ∀ body m, Member Value body m → body.length ≤ members.length →
          Reads (member (value fuel)) body m := fun body m hm hle ↦ hmember body m hm (by omega)
      simp only [List.cons_append, List.append_assoc, List.nil_append]
      rw [value_eq_object (hskip _ _ (by decide)), enclosed_append_of_separated (by simp) h hitem
        (fun _ ↦ member_eq_none) (by omega)]
      rfl

/-- What the reader takes off the front is as the grammar has it, with any space after it. -/
def Takes (item : Reader α) (P : List Char → α → Prop) : Prop :=
  ∀ cs x rest, item cs = some (x, rest) →
    ∃ body, cs = body ++ rest ∧ ∀ ws, Space ws → P (body ++ ws) x

theorem separated_eq_some (hitem : Takes item P)
    (h : separated item close fuel cs = some (xs, rest)) :
    ∃ body, Separated P body xs ∧ cs = body ++ close :: rest := by
  induction fuel generalizing cs xs rest with
  | zero => cases h
  | succ fuel ih =>
    obtain ⟨⟨x, r⟩, hread, htail⟩ := Option.bind_eq_some_iff.1 h
    obtain ⟨body, rfl, hbody⟩ := hitem _ _ _ hread
    obtain ⟨ws, hws, hr⟩ := exists_skipSpace r
    dsimp only at htail
    split at htail
    · cases htail
    · next c tail hspace =>
      rw [hspace] at hr
      rw [hr]
      by_cases hclose : c = close
      · rw [if_pos hclose] at htail
        cases htail
        exact ⟨body ++ ws, .one (hbody ws hws), by simp [hclose]⟩
      · rw [if_neg hclose] at htail
        by_cases hcomma : c = ','
        · rw [if_pos hcomma] at htail
          obtain ⟨⟨xs, after⟩, hrest, heq⟩ := Option.bind_eq_some_iff.1 htail
          cases heq
          obtain ⟨body', hbody', rfl⟩ := ih hrest
          exact ⟨body ++ ws ++ ',' :: body', .more (hbody ws hws) hbody', by simp [hcomma]⟩
        · rw [if_neg hcomma] at htail
          cases htail

theorem enclosed_eq_some (hitem : Takes item P)
    (h : enclosed item close fuel cs = some (xs, rest)) :
    ∃ body, cs = body ++ close :: rest ∧ (Space body ∧ xs = [] ∨ Separated P body xs) := by
  rw [enclosed] at h
  split at h
  · cases h
  · next c r hspace =>
    by_cases hclose : c = close
    · rw [if_pos hclose] at h
      cases h
      obtain ⟨ws, hws, hcs⟩ := exists_skipSpace cs
      rw [hspace, hclose] at hcs
      exact ⟨ws, hcs, .inl ⟨hws, rfl⟩⟩
    · rw [if_neg hclose] at h
      obtain ⟨body, hbody, hcs⟩ := separated_eq_some hitem h
      exact ⟨body, hcs, .inr hbody⟩

theorem takes_member (hvalue : Takes (value fuel) (Spaced Value)) :
    Takes (member (value fuel)) (Member Value) := by
  rintro cs ⟨key, v⟩ rest h
  obtain ⟨before, hbefore, hcs⟩ := exists_skipSpace cs
  rw [member] at h
  split at h
  · next r hquote =>
    obtain ⟨⟨s, r⟩, hs, htail⟩ := Option.bind_eq_some_iff.1 h
    obtain ⟨body, hbody, rfl⟩ := spelling_eq_some hs
    obtain ⟨after, hafter, hr⟩ := exists_skipSpace r
    dsimp only at htail
    split at htail
    · next tail hcolon =>
      obtain ⟨⟨w, r⟩, hw, heq⟩ := Option.bind_eq_some_iff.1 htail
      cases heq
      obtain ⟨text, rfl, htext⟩ := hvalue _ _ _ hw
      rw [hquote, hr, hcolon] at hcs
      refine ⟨before ++ ('"' :: body ++ ['"']) ++ after ++ ':' :: text, ?_, fun ws hws ↦ ?_⟩
      · simp [hcs]
      · rw [List.append_assoc, List.cons_append]
        exact .mk (.mk hbefore (.mk hbody) hafter) (htext ws hws)
    · cases htail
  · cases h

theorem value_eq_some (fuel : Nat) : ∀ cs v rest, value fuel cs = some (v, rest) →
    ∃ ws body, Space ws ∧ Value body v ∧ cs = ws ++ (body ++ rest) := by
  induction fuel with
  | zero => nofun
  | succ fuel ih =>
    intro cs v rest h
    have hvalue : Takes (value fuel) (Spaced Value) := by
      intro cs v rest h
      obtain ⟨ws, body, hws, hbody, rfl⟩ := ih cs v rest h
      exact ⟨ws ++ body, by simp, fun after hafter ↦ .mk hws hbody hafter⟩
    obtain ⟨ws, hws, hcs⟩ := exists_skipSpace cs
    -- the space in front is set aside, so that each case starts at the first character
    suffices hbody : ∃ body, Value body v ∧ skipSpace cs = body ++ rest by
      obtain ⟨body, hbody, hspace⟩ := hbody
      exact ⟨ws, body, hws, hbody, hspace ▸ hcs⟩
    rw [value] at h
    split at h
    · next hspace =>
      obtain ⟨⟨ms, r⟩, hread, heq⟩ := Option.map_eq_some_iff.1 h
      cases heq
      obtain ⟨body, rfl, ⟨hbody, rfl⟩ | hms⟩ := enclosed_eq_some (takes_member hvalue) hread
      · exact ⟨_, .noMembers hbody, by simp [hspace]⟩
      · exact ⟨_, .object hms, by simp [hspace]⟩
    · next hspace =>
      obtain ⟨⟨vs, r⟩, hread, heq⟩ := Option.map_eq_some_iff.1 h
      cases heq
      obtain ⟨body, rfl, ⟨hbody, rfl⟩ | hvs⟩ := enclosed_eq_some hvalue hread
      · exact ⟨_, .noItems hbody, by simp [hspace]⟩
      · exact ⟨_, .array hvs, by simp [hspace]⟩
    · next hspace =>
      obtain ⟨⟨s, r⟩, hread, heq⟩ := Option.map_eq_some_iff.1 h
      cases heq
      obtain ⟨body, hbody, rfl⟩ := spelling_eq_some hread
      exact ⟨_, .string (.mk hbody), by simp [hspace]⟩
    · next hspace =>
      cases h
      exact ⟨_, .null, hspace⟩
    · next hspace =>
      cases h
      exact ⟨_, .true, hspace⟩
    · next hspace =>
      cases h
      exact ⟨_, .false, hspace⟩
    · obtain ⟨⟨ds, r⟩, hread, heq⟩ := Option.map_eq_some_iff.1 h
      cases heq
      obtain ⟨hds, hspace⟩ := literal_eq_some hread
      exact ⟨ds, .number hds, hspace⟩

theorem read?_eq_some_iff {text : String} : read? text = some v ↔ Text text v := by
  constructor
  · intro h
    rw [read?] at h
    split at h
    · next w rest hread =>
      by_cases hspace : skipSpace rest = []
      · rw [if_pos hspace] at h
        cases h
        obtain ⟨ws, body, hws, hbody, htext⟩ := value_eq_some _ _ _ _ hread
        obtain ⟨after, hafter, hrest⟩ := exists_skipSpace rest
        rw [hspace, List.append_nil] at hrest
        rw [Text, htext, hrest, ← List.append_assoc]
        exact .mk hws hbody hafter
      · rw [if_neg hspace] at h
        cases h
    · cases h
  · intro h
    obtain ⟨before, body, after, hbefore, hv, hafter, htext⟩ := h.exists_value
    have hlen : body.length < text.toList.length + 1 := by
      rw [htext]
      simp only [List.length_append]
      omega
    have hrest : EndsNumber after := by
      rw [← List.append_nil after]
      exact endsNumber_append hafter .nil
    have hread := value_append _ body v hv hlen before after hbefore hrest
    have hspace : skipSpace after = [] := by
      rw [← List.append_nil after, skipSpace_append hafter]
      rfl
    rw [← List.append_assoc, ← htext] at hread
    rw [read?, hread]
    exact if_pos hspace

end TexelFormats.Json
