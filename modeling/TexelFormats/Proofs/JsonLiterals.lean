import Mathlib.Data.List.DropRight
import Mathlib.Data.List.TakeDrop
import TexelFormats.Json.Reader
import TexelFormats.Proofs.JsonGrammar

namespace TexelFormats.Json

variable {c : Char} {cs ds rest : List Char} {n : Nat}

theorem isSpace_iff : isSpace c = true ↔ c ∈ [' ', '\t', '\n', '\r'] := by
  simp [isSpace, or_assoc]

theorem skipSpace_append (h : Space cs) (rest : List Char) :
    skipSpace (cs ++ rest) = skipSpace rest :=
  List.dropWhile_append_of_pos fun c hc ↦ isSpace_iff.2 (h c hc)

theorem exists_skipSpace (cs : List Char) : ∃ ws, Space ws ∧ cs = ws ++ skipSpace cs := by
  refine ⟨cs.takeWhile isSpace, fun c hc ↦ ?_, List.takeWhile_append_dropWhile.symm⟩
  exact isSpace_iff.1 (List.mem_takeWhile_imp hc)

theorem skipSpace_of_not_isSpace (h : isSpace c = false) (cs : List Char) :
    skipSpace (c :: cs) = c :: cs := by
  rw [skipSpace, List.dropWhile_cons_of_neg (by simp [h])]

theorem digits_eq (cs : List Char) :
    digits cs = (cs.takeWhile Char.isDigit, cs.dropWhile Char.isDigit) :=
  List.span_eq_takeWhile_dropWhile _ cs

theorem digits1_append (h : Digits ds) (hrest : ∀ c ∈ rest.head?, c.isDigit = false) :
    digits1 (ds ++ rest) = some (ds, rest) := by
  obtain ⟨hne, hds⟩ := h
  have hstop : rest.takeWhile Char.isDigit = [] ∧ rest.dropWhile Char.isDigit = rest := by
    cases rest with
    | nil => exact ⟨rfl, rfl⟩
    | cons c rest =>
      have hc : ¬ c.isDigit = true := by simp [hrest c rfl]
      exact ⟨List.takeWhile_cons_of_neg hc, List.dropWhile_cons_of_neg hc⟩
  rw [digits1, digits_eq, List.takeWhile_append_of_pos hds, List.dropWhile_append_of_pos hds,
    hstop.1, hstop.2, List.append_nil]
  cases ds with
  | nil => exact absurd rfl hne
  | cons d ds => rfl

theorem digits1_eq_some (h : digits1 cs = some (ds, rest)) : Digits ds ∧ cs = ds ++ rest := by
  rw [digits1, digits_eq] at h
  split at h
  · cases h
  · next hne heq =>
    cases h
    cases heq
    exact ⟨⟨hne, fun c hc ↦ List.mem_takeWhile_imp hc⟩, List.takeWhile_append_dropWhile.symm⟩

/-- No number that stands in front of the characters could go on into them. -/
def EndsNumber (cs : List Char) : Prop :=
  ∀ c ∈ cs.head?, c.isDigit = false ∧ c ∉ ['.', 'e', 'E']

variable {whole fraction exponent : List Char}

theorem Digits.exists_cons (h : Digits ds) : ∃ d rest, ds = d :: rest ∧ d.isDigit = true := by
  obtain ⟨hne, hds⟩ := h
  cases ds with
  | nil => exact absurd rfl hne
  | cons d ds => exact ⟨d, ds, rfl, hds d (.head _)⟩

theorem Whole.exists_cons (h : Whole whole) :
    ∃ d rest, whole = d :: rest ∧ d.isDigit = true := by
  cases h with
  | zero => exact ⟨'0', [], rfl, by decide⟩
  | digits _ hds => exact hds.exists_cons

theorem not_isDigit_of_fraction (hf : Fraction fraction) (he : Exponent exponent)
    (hrest : EndsNumber rest) :
    ∀ c ∈ (fraction ++ (exponent ++ rest)).head?, c.isDigit = false := by
  cases hf with
  | digits _ =>
    rintro c ⟨⟩
    decide
  | none =>
    cases he with
    | none => exact fun c hc ↦ (hrest c hc).1
    | unsigned hletter _ | signed hletter _ _ =>
      rintro c ⟨⟩
      simp only [List.mem_cons, List.not_mem_nil, or_false] at hletter
      obtain rfl | rfl := hletter <;> decide

theorem ne_point_of_exponent (he : Exponent exponent) (hrest : EndsNumber rest) :
    ∀ c ∈ (exponent ++ rest).head?, c.isDigit = false ∧ c ≠ '.' := by
  cases he with
  | none =>
    intro c hc
    obtain ⟨hdigit, hletter⟩ := hrest c hc
    exact ⟨hdigit, fun h ↦ hletter (by simp [h])⟩
  | unsigned hletter _ | signed hletter _ _ =>
    rintro c ⟨⟩
    simp only [List.mem_cons, List.not_mem_nil, or_false] at hletter
    obtain rfl | rfl := hletter <;> decide

theorem wholePart_append (h : Whole whole) (hrest : ∀ c ∈ rest.head?, c.isDigit = false) :
    wholePart (whole ++ rest) = some (whole, rest) := by
  cases h with
  | zero => rfl
  | @digits d ds hd hds =>
    have hpart : wholePart (d :: (ds ++ rest)) = digits1 (d :: (ds ++ rest)) := by
      rw [wholePart]
      rintro _ ⟨⟩
      exact hd rfl
    exact hpart.trans (digits1_append hds hrest)

theorem fractionPart_append (h : Fraction fraction)
    (hrest : ∀ c ∈ rest.head?, c.isDigit = false ∧ c ≠ '.') :
    fractionPart (fraction ++ rest) = some (fraction, rest) := by
  cases h with
  | none =>
    rw [List.nil_append, fractionPart]
    rintro r rfl
    exact (hrest '.' rfl).2 rfl
  | digits hds =>
    rw [List.cons_append, fractionPart, digits1_append hds fun c hc ↦ (hrest c hc).1]
    rfl

theorem exponentPart_append (h : Exponent exponent) (hrest : EndsNumber rest) :
    exponentPart (exponent ++ rest) = some (exponent, rest) := by
  have hdigit : ∀ c ∈ rest.head?, c.isDigit = false := fun c hc ↦ (hrest c hc).1
  cases h with
  | none =>
    have hne : ∀ c ∈ rest.head?, ¬ (c = 'e' ∨ c = 'E') := by
      intro c hc
      have hletter := (hrest c hc).2
      simp only [List.mem_cons, List.not_mem_nil, or_false, not_or] at hletter
      exact not_or.2 hletter.2
    match rest with
    | [] => rfl
    | [c] =>
      have hc := not_or.1 (hne c rfl)
      rw [List.nil_append, exponentPart]
      · rintro e sign r ⟨⟩
      · rintro ⟨⟩
        exact hc.1 rfl
      · rintro ⟨⟩
        exact hc.2 rfl
    | c :: sign :: rest => rw [List.nil_append, exponentPart, if_neg (hne c rfl)]
  | @unsigned e ds he hds =>
    obtain ⟨d, ds, rfl, hd⟩ := hds.exists_cons
    simp only [List.mem_cons, List.not_mem_nil, or_false] at he
    have hsign : ¬ (d = '+' ∨ d = '-') := by
      rintro (rfl | rfl) <;> exact absurd hd (by decide)
    have hds := digits1_append hds hdigit
    rw [List.cons_append] at hds
    rw [List.cons_append, List.cons_append, exponentPart, if_pos he, if_neg hsign, hds]
    rfl
  | @signed e sign ds he hs hds =>
    simp only [List.mem_cons, List.not_mem_nil, or_false] at he hs
    rw [List.cons_append, List.cons_append, exponentPart, if_pos he, if_pos hs,
      digits1_append hds hdigit]
    rfl

theorem unsignedLiteral_append (h : Unsigned cs) (hrest : EndsNumber rest) :
    unsignedLiteral (cs ++ rest) = some (cs, rest) := by
  obtain ⟨hw, hf, he⟩ := h
  rw [List.append_assoc, List.append_assoc, unsignedLiteral,
    wholePart_append hw (not_isDigit_of_fraction hf he hrest), Option.bind_eq_bind,
    Option.bind_some]
  simp only [fractionPart_append hf (ne_point_of_exponent he hrest), Option.bind_some,
    exponentPart_append he hrest]

theorem literal_append (h : Number cs) (hrest : EndsNumber rest) :
    literal (cs ++ rest) = some (cs, rest) := by
  cases h with
  | unsigned h =>
    have hread := unsignedLiteral_append h hrest
    obtain ⟨hw, hf, he⟩ := h
    obtain ⟨d, ds, rfl, hd⟩ := hw.exists_cons
    rw [literal]
    · exact hread
    · rintro r ⟨⟩
      exact absurd hd (by decide)
  | negative h =>
    rw [List.cons_append, literal, unsignedLiteral_append h hrest]
    rfl

theorem wholePart_eq_some (h : wholePart cs = some (whole, rest)) :
    Whole whole ∧ cs = whole ++ rest := by
  rw [wholePart.eq_def] at h
  split at h
  · cases h
    exact ⟨.zero, rfl⟩
  · next hzero =>
    obtain ⟨hds, rfl⟩ := digits1_eq_some h
    obtain ⟨d, ds, rfl, -⟩ := hds.exists_cons
    exact ⟨.digits (fun hd ↦ hzero (ds ++ rest) (by rw [hd]; rfl)) hds, rfl⟩

theorem fractionPart_eq_some (h : fractionPart cs = some (fraction, rest)) :
    Fraction fraction ∧ cs = fraction ++ rest := by
  rw [fractionPart.eq_def] at h
  split at h
  · obtain ⟨⟨ds, r⟩, hread, heq⟩ := Option.map_eq_some_iff.1 h
    cases heq
    obtain ⟨hds, rfl⟩ := digits1_eq_some hread
    exact ⟨.digits hds, rfl⟩
  · cases h
    exact ⟨.none, rfl⟩

theorem exponentPart_eq_some (h : exponentPart cs = some (exponent, rest)) :
    Exponent exponent ∧ cs = exponent ++ rest := by
  rw [exponentPart.eq_def] at h
  split at h
  · next e sign r =>
    by_cases he : e = 'e' ∨ e = 'E'
    · have hletter : e ∈ ['e', 'E'] := by simpa using he
      rw [if_pos he] at h
      by_cases hs : sign = '+' ∨ sign = '-'
      · rw [if_pos hs] at h
        obtain ⟨⟨ds, r⟩, hread, heq⟩ := Option.map_eq_some_iff.1 h
        cases heq
        obtain ⟨hds, rfl⟩ := digits1_eq_some hread
        exact ⟨.signed hletter (by simpa using hs) hds, rfl⟩
      · rw [if_neg hs] at h
        obtain ⟨⟨ds, r⟩, hread, heq⟩ := Option.map_eq_some_iff.1 h
        cases heq
        obtain ⟨hds, heq⟩ := digits1_eq_some hread
        rw [heq]
        exact ⟨.unsigned hletter hds, rfl⟩
    · rw [if_neg he] at h
      cases h
      exact ⟨.none, rfl⟩
  · cases h
  · cases h
  · cases h
    exact ⟨.none, rfl⟩

theorem unsignedLiteral_eq_some (h : unsignedLiteral cs = some (ds, rest)) :
    Unsigned ds ∧ cs = ds ++ rest := by
  obtain ⟨⟨whole, r⟩, hwhole, h⟩ := Option.bind_eq_some_iff.1 h
  obtain ⟨⟨fraction, r'⟩, hfraction, h⟩ := Option.bind_eq_some_iff.1 h
  obtain ⟨⟨exponent, r''⟩, hexponent, h⟩ := Option.bind_eq_some_iff.1 h
  cases h
  obtain ⟨hw, rfl⟩ := wholePart_eq_some hwhole
  obtain ⟨hf, rfl⟩ := fractionPart_eq_some hfraction
  obtain ⟨he, rfl⟩ := exponentPart_eq_some hexponent
  exact ⟨.mk hw hf he, by simp only [List.append_assoc]⟩

theorem literal_eq_some (h : literal cs = some (ds, rest)) : Number ds ∧ cs = ds ++ rest := by
  rw [literal.eq_def] at h
  split at h
  · obtain ⟨⟨ds, r⟩, hread, heq⟩ := Option.map_eq_some_iff.1 h
    cases heq
    obtain ⟨hds, rfl⟩ := unsignedLiteral_eq_some hread
    exact ⟨.negative hds, rfl⟩
  · obtain ⟨hds, rfl⟩ := unsignedLiteral_eq_some h
    exact ⟨.unsigned hds, rfl⟩

variable {s : Spelling} {a : Char}

theorem toNat_le_of_digitValue? (h : digitValue? c = some n) : c.toNat ≤ 'z'.toNat := by
  have hle : ∀ z : Char, c ≤ z → c.toNat ≤ z.toNat := fun z h ↦ h
  rw [digitValue?] at h
  split at h
  · next hd =>
    simp only [Char.isDigit, ge_iff_le, Bool.and_eq_true, decide_eq_true_eq] at hd
    exact Nat.le_trans (hle '9' hd.2) (by decide)
  · split at h
    · next hd => exact hle 'z' hd.2
    · split at h
      · next hd => exact Nat.le_trans (hle 'Z' hd.2) (by decide)
      · cases h

theorem digitValue?_eq_some_iff (hn : n < 16) : digitValue? c = some n ↔ (c, n) ∈ hexValues := by
  constructor
  · intro h
    have hmem : ∀ m : Fin 123, ∀ n ∈ digitValue? (Char.ofNat m), n < 16 →
        (Char.ofNat m, n) ∈ hexValues := by decide +kernel
    have hc : c.toNat < 123 := Nat.lt_succ_of_le (toNat_le_of_digitValue? h)
    rw [← Char.ofNat_toNat c] at h ⊢
    exact hmem ⟨c.toNat, hc⟩ n h hn
  · intro h
    have hvalue : ∀ p ∈ hexValues, digitValue? p.1 = some p.2 := by decide
    exact hvalue _ h

theorem numberFrom?_cons_eq_some_iff {base m : Nat} : numberFrom? base n (c :: cs) = some m ↔
    ∃ i, digitValue? c = some i ∧ i < base ∧ numberFrom? base (n * base + i) cs = some m := by
  rw [numberFrom?]
  cases digitValue? c with
  | none => simp
  | some i =>
    by_cases hlt : i < base
    · simp [hlt]
    · simp [hlt]

theorem exists_hexValue {m : Nat} (h : numberFrom? 16 n (c :: cs) = some m) :
    ∃ i, (c, i) ∈ hexValues ∧ numberFrom? 16 (n * 16 + i) cs = some m := by
  obtain ⟨i, hi, hlt, hrest⟩ := numberFrom?_cons_eq_some_iff.1 h
  exact ⟨i, (digitValue?_eq_some_iff hlt).1 hi, hrest⟩

theorem numberFrom?_cons {i : Nat} (hi : (c, i) ∈ hexValues) :
    numberFrom? 16 n (c :: cs) = numberFrom? 16 (n * 16 + i) cs := by
  have hlt : ∀ p ∈ hexValues, p.2 < 16 := by decide
  rw [numberFrom?, (digitValue?_eq_some_iff (hlt _ hi)).2 hi]
  exact if_pos (hlt _ hi)

theorem spelling_append (h : Characters cs s) : spelling (cs ++ '"' :: rest) = some (s, rest) := by
  induction h with
  | nil => rfl
  | unescaped hspace hquote hslash _ ih =>
    rw [List.cons_append, spelling, if_neg (by simpa using hspace), ih]
    · rfl
    · exact hquote
    · exact fun _ _ _ _ _ h ↦ absurd h hslash
    · exact fun _ _ h ↦ absurd h hslash
  | escaped he _ ih =>
    have hletter : ∀ p ∈ escapes, unescape? p.1 = some p.2 ∧ p.1 ≠ 'u' := by decide
    obtain ⟨hunescape, hne⟩ := hletter _ he
    rw [List.cons_append, List.cons_append, spelling, hunescape, ih]
    · rfl
    · rintro _ _ _ _ _ rfl
      exact absurd rfl hne
  | unit ha hb hc hd _ ih =>
    rw [List.cons_append, List.cons_append, List.cons_append, List.cons_append, List.cons_append,
      List.cons_append, spelling, number?, if_neg nofun, numberFrom?_cons ha, numberFrom?_cons hb,
      numberFrom?_cons hc, numberFrom?_cons hd, numberFrom?, ih]
    simp

theorem mem_escapes (h : unescape? a = some c) : (a, c) ∈ escapes := by
  unfold unescape? at h
  split at h
  all_goals cases h
  all_goals decide

theorem spelling_eq_some (h : spelling cs = some (s, rest)) :
    ∃ body, Characters body s ∧ cs = body ++ '"' :: rest := by
  fun_induction spelling cs generalizing s rest with
  | case1 => cases h
  | case2 r =>
    cases h
    exact ⟨[], .nil, rfl⟩
  | case3 a b c d r ih =>
    obtain ⟨n, hn, h⟩ := Option.bind_eq_some_iff.1 h
    obtain ⟨⟨s, r'⟩, hs, h⟩ := Option.bind_eq_some_iff.1 h
    cases h
    obtain ⟨body, hbody, rfl⟩ := ih hs
    rw [number?, if_neg nofun] at hn
    obtain ⟨i, hi, hn⟩ := exists_hexValue hn
    obtain ⟨j, hj, hn⟩ := exists_hexValue hn
    obtain ⟨k, hk, hn⟩ := exists_hexValue hn
    obtain ⟨l, hl, hn⟩ := exists_hexValue hn
    cases hn
    refine ⟨'\\' :: 'u' :: a :: b :: c :: d :: body, ?_, rfl⟩
    simpa using Characters.unit hi hj hk hl hbody
  | case4 e r hunit ih =>
    obtain ⟨c, hc, h⟩ := Option.bind_eq_some_iff.1 h
    obtain ⟨⟨s, r'⟩, hs, h⟩ := Option.bind_eq_some_iff.1 h
    cases h
    obtain ⟨body, hbody, rfl⟩ := ih hs
    exact ⟨_, .escaped (mem_escapes hc) hbody, rfl⟩
  | case5 c r hquote hunit hslash hlt => cases h
  | case6 c r hquote hunit hslash hlt ih =>
    obtain ⟨⟨s, r'⟩, hs, h⟩ := Option.bind_eq_some_iff.1 h
    cases h
    obtain ⟨body, hbody, rfl⟩ := ih hs
    -- a backslash comes here only as the last character, but there is still a quote to come
    have hc : c ≠ '\\' := by
      rintro rfl
      obtain ⟨e, r, hr⟩ := List.exists_cons_of_ne_nil (List.append_ne_nil_of_right_ne_nil body
        (List.cons_ne_nil '"' rest))
      exact hslash e r rfl hr
    exact ⟨_, .unescaped (by simpa using hlt) hquote hc hbody, rfl⟩

namespace Spelling

theorem toNat_ofNat {n : Nat} (h : n < 0xD800 ∨ 0xDFFF < n ∧ n < 0x110000) :
    (Char.ofNat n).toNat = n := by
  rw [Char.ofNat, dif_pos h]
  rfl

theorem characters?_of_denotes (h : s.Denotes cs) : s.characters? = some cs := by
  induction h with
  | nil => rfl
  | char _ ih =>
    rw [characters?, ih]
    rfl
  | @unit n c s cs hc _ ih =>
    have hvalid : c.toNat < 0xD800 ∨ 0xDFFF < c.toNat ∧ c.toNat < 0x110000 := c.valid
    have hhigh : ¬ (0xD800 ≤ n ∧ n ≤ 0xDBFF) := by
      simp only [UInt16.le_iff_toNat_le, UInt16.reduceToNat]
      omega
    have hlow : ¬ (0xDC00 ≤ n ∧ n ≤ 0xDFFF) := by
      simp only [UInt16.le_iff_toNat_le, UInt16.reduceToNat]
      omega
    rw [characters?.eq_def]
    dsimp only
    rw [if_neg hhigh, if_neg hlow, ih, ← hc, Char.ofNat_toNat]
    rfl
  | @pair high low c s cs hhigh hhigh' hlow hlow' hc _ ih =>
    have hh : 0xD800 ≤ high ∧ high ≤ 0xDBFF := by
      simp only [UInt16.le_iff_toNat_le, UInt16.reduceToNat]
      omega
    have hl : 0xDC00 ≤ low ∧ low ≤ 0xDFFF := by
      simp only [UInt16.le_iff_toNat_le, UInt16.reduceToNat]
      omega
    rw [characters?, if_pos hh]
    simp only [if_pos hl, ih]
    rw [← hc, Char.ofNat_toNat]
    rfl

theorem denotes_of_characters? (h : s.characters? = some cs) : s.Denotes cs := by
  fun_induction characters? s generalizing cs with
  | case1 =>
    cases h
    exact .nil
  | case2 c rest ih =>
    obtain ⟨cs, hcs, rfl⟩ := Option.map_eq_some_iff.1 h
    exact .char (ih hcs)
  | case3 high hh low rest hl point =>
    rename_i ih
    obtain ⟨cs, hcs, rfl⟩ := Option.map_eq_some_iff.1 h
    simp only [UInt16.le_iff_toNat_le, UInt16.reduceToNat] at hh hl
    refine .pair hh.1 (by omega) hl.1 (by omega) (toNat_ofNat ?_) (ih hcs)
    omega
  | case4 | case5 | case6 => cases h
  | case7 n rest hh hl ih =>
    obtain ⟨cs, hcs, rfl⟩ := Option.map_eq_some_iff.1 h
    simp only [UInt16.le_iff_toNat_le, UInt16.reduceToNat] at hh hl
    refine .unit (toNat_ofNat ?_) (ih hcs)
    have hlt := n.toNat_lt
    omega

end Spelling

end TexelFormats.Json
