import TexelFormats.Proofs.JsonReading

namespace TexelFormats.Json

variable {c : Char} {ds : List Char} {n m : Nat} {v : Json} {t text : String}
  {raw : List (Spelling × Json)} {ms : Members Json}

theorem digitValue?_lt_ten_iff :
    digitValue? c = some n ∧ n < 10 ↔ c.isDigit = true ∧ n = c.toNat - '0'.toNat := by
  rw [digitValue?]
  by_cases hc : c.isDigit = true
  · have hle : c.toNat ≤ '9'.toNat := by
      simp only [Char.isDigit, ge_iff_le, Bool.and_eq_true, decide_eq_true_eq] at hc
      exact hc.2
    have hnine : '9'.toNat - '0'.toNat < 10 := by decide
    have hlt : c.toNat - '0'.toNat < 10 := by omega
    rw [if_pos hc, Option.some.injEq]
    constructor
    · intro h
      exact ⟨hc, h.1.symm⟩
    · intro h
      exact ⟨h.2.symm, h.2 ▸ hlt⟩
  · rw [if_neg hc]
    refine iff_of_false ?_ (fun h ↦ hc h.1)
    intro h
    obtain ⟨hn, hlt⟩ := h
    split at hn
    · cases hn
      omega
    · split at hn
      · cases hn
        omega
      · cases hn

theorem numberFrom?_ten_eq_some_iff : numberFrom? 10 n ds = some m ↔
    (∀ c ∈ ds, c.isDigit = true) ∧ Nat.ofDigitChars 10 ds n = m := by
  induction ds generalizing n with
  | nil => simp [numberFrom?]
  | cons c ds ih =>
    rw [numberFrom?_cons_eq_some_iff, List.forall_mem_cons, Nat.ofDigitChars_cons, and_assoc]
    constructor
    · intro h
      obtain ⟨i, hi, hlt, hrest⟩ := h
      obtain ⟨hc, rfl⟩ := digitValue?_lt_ten_iff.1 ⟨hi, hlt⟩
      rw [Nat.mul_comm] at hrest
      exact ⟨hc, ih.1 hrest⟩
    · intro h
      obtain ⟨hi, hlt⟩ := digitValue?_lt_ten_iff.2 ⟨h.1, rfl⟩
      refine ⟨_, hi, hlt, ?_⟩
      rw [Nat.mul_comm]
      exact ih.2 h.2

theorem nat?_eq_some_iff : v.nat? = some n ↔
    ∃ ds, v = .number ds ∧ Digits ds ∧ Nat.ofDigitChars 10 ds 0 = n := by
  cases v with
  | number ds =>
    rw [nat?, number?]
    by_cases hds : ds = []
    · simp [hds, Digits]
    · rw [if_neg hds, numberFrom?_ten_eq_some_iff]
      simp [Digits, hds]
  | _ => simp [nat?]

theorem Spelling.text?_eq_some_iff {s : Spelling} : s.text? = some t ↔ s.Denotes t.toList := by
  rw [text?, Option.map_eq_some_iff]
  constructor
  · intro h
    obtain ⟨cs, hcs, rfl⟩ := h
    rw [String.toList_ofList]
    exact denotes_of_characters? hcs
  · intro h
    exact ⟨t.toList, characters?_of_denotes h, String.ofList_toList⟩

theorem text?_eq_some_iff : v.text? = some t ↔ ∃ s, v = .string s ∧ s.Denotes t.toList := by
  cases v with
  | string s => simp [text?, Spelling.text?_eq_some_iff]
  | _ => simp [text?]

theorem bool?_eq_some_iff {b : Bool} : v.bool? = some b ↔ v = .bool b := by
  cases v <;> simp [bool?]

theorem toWord?_eq_some_iff {w : UInt32} : toWord? n = some w ↔ n = w.toNat := by
  rw [toWord?]
  constructor
  · intro h
    by_cases hlt : n < UInt32.size
    · rw [if_pos hlt] at h
      cases h
      rw [UInt32.toNat_ofNat_of_lt' hlt]
    · rw [if_neg hlt] at h
      cases h
  · intro h
    rw [h, if_pos w.toNat_lt_size, UInt32.ofNat_toNat]

theorem mapM_named?_eq_some_iff : raw.mapM named? = some ms ↔ Keyed raw ms := by
  constructor
  · intro h
    induction raw generalizing ms with
    | nil =>
      cases h
      exact .nil
    | cons m raw ih =>
      rw [List.mapM_cons] at h
      obtain ⟨_, hm, h⟩ := Option.bind_eq_some_iff.1 h
      obtain ⟨rest, hrest, h⟩ := Option.bind_eq_some_iff.1 h
      cases h
      obtain ⟨name, hname, rfl⟩ := Option.map_eq_some_iff.1 hm
      exact .cons (Spelling.text?_eq_some_iff.1 hname) (ih hrest)
  · intro h
    induction h with
    | nil => rfl
    | cons hname _ ih =>
      rw [List.mapM_cons, ih, named?, Spelling.text?_eq_some_iff.2 hname]
      rfl

theorem objectText_or_arrayText_of_shape? {shape : Shape Json}
    (h : decoder.shape? text = some shape) :
    (∃ ms, ObjectText text ms) ∨ ∃ items, ArrayText text items := by
  obtain ⟨v, hv, hshape⟩ := Option.bind_eq_some_iff.1 h
  have htext := read?_eq_some_iff.1 hv
  cases v with
  | object raw =>
    obtain ⟨ms, hms, -⟩ := Option.map_eq_some_iff.1 hshape
    exact .inl ⟨ms, raw, htext, mapM_named?_eq_some_iff.1 hms⟩
  | array items => exact .inr ⟨items, htext⟩
  | _ => cases hshape

theorem isDecoder_decoder : IsDecoder decoder id where
  object := by
    intro text ms h
    obtain ⟨raw, htext, hraw⟩ := h
    change (read? text).bind shape? = _
    rw [read?_eq_some_iff.2 htext, Option.bind_some, shape?, mapM_named?_eq_some_iff.2 hraw]
    exact congrArg (some ∘ Shape.members) (List.map_id ms).symm
  array := by
    intro text items h
    change (read? text).bind shape? = _
    rw [read?_eq_some_iff.2 h, List.map_id]
    rfl
  only := objectText_or_arrayText_of_shape?
  text_iff := text?_eq_some_iff
  word_iff := by
    intro v n
    rw [← nat?_eq_some_iff]
    change v.nat?.bind toWord? = some n ↔ _
    simp [Option.bind_eq_some_iff, toWord?_eq_some_iff]
  flag_iff := bool?_eq_some_iff

end TexelFormats.Json
