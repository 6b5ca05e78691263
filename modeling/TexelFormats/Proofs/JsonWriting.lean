import TexelFormats.Json.Basic
import TexelFormats.Proofs.JsonGrammar

namespace TexelFormats.Json

variable {n w : Nat}

theorem hexDigits_one (hn : n < 16) : hexDigits 1 n = [n.digitChar] := by
  rw [hexDigits, Nat.toDigits_of_lt_base hn]
  rfl

theorem hexDigits_succ (hw : 0 < w) (n : Nat) :
    hexDigits (w + 1) n = hexDigits w (n / 16) ++ [(n % 16).digitChar] := by
  by_cases hn : n < 16
  · -- one digit, so all the others are padding on both sides
    have hzero : n / 16 = 0 ∧ n % 16 = n := by omega
    have hpad : List.replicate w '0' = List.replicate (w - 1) '0' ++ ['0'] := by
      rw [← List.replicate_succ', Nat.sub_add_cancel hw]
    rw [hexDigits, hexDigits, hzero.1, hzero.2, Nat.toDigits_of_lt_base hn, Nat.toDigits_zero]
    change List.replicate w '0' ++ _ = List.replicate (w - 1) '0' ++ ['0'] ++ _
    rw [← hpad]
  · rw [hexDigits, hexDigits, Nat.toDigits_of_base_le (by decide) (by omega)]
    simp

theorem hexDigits_four (hn : n < 65536) : hexDigits 4 n = [(n / 16 / 16 / 16).digitChar,
    (n / 16 / 16 % 16).digitChar, (n / 16 % 16).digitChar, (n % 16).digitChar] := by
  rw [hexDigits_succ (by decide), hexDigits_succ (by decide), hexDigits_succ (by decide),
    hexDigits_one (by omega)]
  rfl

theorem spells_hexDigits {c : Char} (hc : c.toNat < 65536) :
    Spells c ('\\' :: 'u' :: hexDigits 4 c.toNat) := by
  have hdigit : ∀ i < 16, (i.digitChar, i) ∈ hexValues := by decide
  rw [hexDigits_four hc]
  exact .unit (hdigit _ (by omega)) (hdigit _ (by omega)) (hdigit _ (by omega))
    (hdigit _ (by omega)) (by omega)

theorem spells_print (c : Char) : Spells c (Piece.char c).print := by
  by_cases hletter : c ∈ ['"', '\\', '\x08', '\x0c', '\n', '\r', '\t']
  · simp only [List.mem_cons, List.not_mem_nil, or_false] at hletter
    obtain rfl | rfl | rfl | rfl | rfl | rfl | rfl := hletter <;> exact .escaped (by decide)
  · simp only [List.mem_cons, List.not_mem_nil, or_false, not_or] at hletter
    obtain ⟨hquote, hslash, hb, hf, hn, hr, ht⟩ := hletter
    simp only [Piece.print, hquote, hslash, hb, hf, hn, hr, ht, if_false]
    by_cases hcontrol : c < ' '
    · rw [if_pos hcontrol]
      have hlt : c.toNat < ' '.toNat := hcontrol
      exact spells_hexDigits (Nat.lt_trans hlt (by decide))
    · rw [if_neg hcontrol]
      exact .unescaped (by simpa using hcontrol) hquote hslash

theorem forall₂_spells_print (cs : List Char) :
    List.Forall₂ Spells cs (cs.map fun c ↦ (Piece.char c).print) := by
  rw [List.forall₂_map_right_iff, List.forall₂_same]
  exact fun c _ ↦ spells_print c

theorem exists_characters {cs : List Char} {spelled : List (List Char)}
    (h : List.Forall₂ Spells cs spelled) :
    ∃ s, Characters spelled.flatten s ∧ s.Denotes cs := by
  induction h with
  | nil => exact ⟨[], .nil, .nil⟩
  | cons hc _ ih =>
    obtain ⟨s, hs, hdenotes⟩ := ih
    cases hc with
    | unescaped hspace hquote hslash =>
      exact ⟨_, .unescaped hspace hquote hslash hs, .char hdenotes⟩
    | escaped he => exact ⟨_, .escaped he hs, .char hdenotes⟩
    | unit ha hb hc hd hvalue =>
      have hlt : ∀ p ∈ hexValues, p.2 < 16 := by decide
      have hi := hlt _ ha
      have hj := hlt _ hb
      have hk := hlt _ hc
      have hl := hlt _ hd
      refine ⟨_, .unit ha hb hc hd hs, .unit ?_ hdenotes⟩
      rw [hvalue, UInt16.toNat_ofNat', Nat.mod_eq_of_lt (by omega)]

theorem exists_quoted (t : String) : ∃ cs s, Quoted cs s ∧ s.Denotes t.toList := by
  obtain ⟨s, hs, hdenotes⟩ := exists_characters (forall₂_spells_print t.toList)
  exact ⟨_, s, .mk hs, hdenotes⟩

theorem denotes_ofText (t : String) : (Spelling.ofText t).Denotes t.toList := by
  rw [Spelling.ofText]
  induction t.toList with
  | nil => exact .nil
  | cons c cs ih => exact .char ih

theorem exists_toDigits_eq_cons (hn : 0 < n) :
    ∃ c cs, Nat.toDigits 10 n = c :: cs ∧ c ≠ '0' := by
  induction n using Nat.strongRecOn with
  | ind n ih =>
    by_cases hlt : n < 10
    · have hdigit : ∀ i < 10, 0 < i → i.digitChar ≠ '0' := by decide
      exact ⟨_, [], Nat.toDigits_of_lt_base hlt, hdigit n hlt hn⟩
    · obtain ⟨c, cs, hcs, hc⟩ := ih (n / 10) (by omega) (by omega)
      rw [Nat.toDigits_of_base_le (by decide) (by omega), hcs]
      exact ⟨c, cs ++ [(n % 10).digitChar], rfl, hc⟩

theorem digits_toDigits (n : Nat) : Digits (Nat.toDigits 10 n) :=
  ⟨Nat.toDigits_ne_nil, fun _ hc ↦ Nat.isDigit_of_mem_toDigits (by decide) (by decide) hc⟩

theorem whole_toDigits (n : Nat) : Whole (Nat.toDigits 10 n) := by
  have hdigits := digits_toDigits n
  rcases Nat.eq_zero_or_pos n with rfl | hn
  · exact .zero
  · obtain ⟨c, cs, hcs, hc⟩ := exists_toDigits_eq_cons hn
    rw [hcs] at hdigits ⊢
    exact .digits hc hdigits

theorem number_toDigits (n : Nat) : Number (Nat.toDigits 10 n) := by
  have h := Unsigned.mk (whole_toDigits n) .none .none
  rw [List.append_nil, List.append_nil] at h
  exact .unsigned h

theorem value_toDigits (n : Nat) : Value (Nat.toDigits 10 n) (ofNat n) :=
  .number (number_toDigits n)

theorem Spaced.of_tight {α : Type} {P : List Char → α → Prop} {cs : List Char} {a : α}
    (h : P cs a) : Spaced P cs a := by
  have hspaced : Spaced P ([] ++ cs ++ []) a := .mk .nil h .nil
  rwa [List.nil_append, List.append_nil] at hspaced

theorem separated_intercalate {α : Type} {P : List Char → α → Prop} {css : List (List Char)}
    {as : List α} (h : List.Forall₂ P css as) (hne : as ≠ []) :
    Separated P ([','].intercalate css) as := by
  induction h with
  | nil => exact absurd rfl hne
  | cons ha has ih =>
    cases has with
    | nil =>
      rw [List.intercalate_singleton]
      exact .one ha
    | cons hb has =>
      rw [List.intercalate_cons_cons, List.append_assoc]
      exact .more ha (ih (List.cons_ne_nil _ _))

/-- A member of a record as it is written, for a member with its key as a text. -/
def Writes (written : String) (m : String × Json) : Prop :=
  ∃ s, s.Denotes m.1.toList ∧ Member Value written.toList (s, m.2)

theorem Writes.mk {key value : String} {m : String × Json} {s : Spelling}
    (hkey : Quoted key.toList s) (hs : s.Denotes m.1.toList) (hvalue : Value value.toList m.2) :
    Writes (key ++ ":" ++ value) m := by
  refine ⟨s, hs, ?_⟩
  rw [String.toList_append, String.toList_append, List.append_assoc]
  exact .mk (.of_tight hkey) (.of_tight hvalue)

theorem objectText_of_writes {written : List String} {ms : Members Json}
    (h : List.Forall₂ Writes written ms) :
    ObjectText ("\x7b" ++ ",".intercalate written ++ "\x7d") ms := by
  have hraw : ∃ raw, List.Forall₂ (Member Value) (written.map String.toList) raw ∧
      Keyed raw ms := by
    induction h with
    | nil => exact ⟨[], .nil, .nil⟩
    | cons hm _ ih =>
      obtain ⟨raw, hraw, hkeyed⟩ := ih
      obtain ⟨s, hs, hmember⟩ := hm
      exact ⟨_, .cons hmember hraw, .cons hs hkeyed⟩
  obtain ⟨raw, hraw, hkeyed⟩ := hraw
  refine ⟨raw, .of_tight ?_, hkeyed⟩
  rw [String.toList_append, String.toList_append, String.toList_intercalate]
  by_cases hne : raw = []
  · rw [hne, List.forall₂_nil_right_iff] at hraw
    rw [hne, hraw]
    exact .noMembers .nil
  · exact .object (separated_intercalate hraw hne)

namespace IsWriter

variable {W : Writer}

theorem exists_quoted (hW : IsWriter W) (t : String) :
    ∃ s, Quoted (W.setting (.text t)).toList s ∧ s.Denotes t.toList := by
  obtain ⟨spelled, hspelled, htext⟩ := hW.text t
  obtain ⟨s, hs, hdenotes⟩ := exists_characters hspelled
  rw [htext, String.toList_ofList]
  exact ⟨s, .mk hs, hdenotes⟩

theorem value_word (hW : IsWriter W) (n : UInt32) :
    Value (W.setting (.word n)).toList (ofNat n.toNat) := by
  rw [hW.word, String.toList_ofList]
  exact value_toDigits n.toNat

theorem value_flag (hW : IsWriter W) (b : Bool) : Value (W.setting (.flag b)).toList (bool b) := by
  rw [hW.flag]
  cases b
  · exact .false
  · exact .true

theorem objectText_record (hW : IsWriter W) {es : List (String × Setting)} {ms : Members Json}
    (h : List.Forall₂ (fun e m ↦ e.1 = m.1 ∧ Value (W.setting e.2).toList m.2) es ms) :
    ObjectText (W.record es) ms := by
  rw [hW.record]
  refine objectText_of_writes (List.forall₂_map_left_iff.2 (h.imp ?_))
  intro e m hm
  obtain ⟨hkey, hvalue⟩ := hm
  obtain ⟨s, hs, hdenotes⟩ := hW.exists_quoted e.1
  exact .mk hs (hkey ▸ hdenotes) hvalue

end IsWriter

theorem separated_zip {cs : List Char} {vs : List Json} (h : Separated (Spaced Value) cs vs)
    (keys : List String) (hlen : vs.length ≤ keys.length) :
    ∃ body raw, Separated (Member Value) body raw ∧ Keyed raw (keys.zip vs) := by
  induction h generalizing keys with
  | one hv =>
    obtain ⟨key, keys, rfl⟩ := List.exists_cons_of_length_pos hlen
    obtain ⟨_, s, hkey, hs⟩ := exists_quoted key
    rw [List.zip_cons_cons, List.zip_nil_right]
    exact ⟨_, _, .one (.mk (.of_tight hkey) hv), .cons hs .nil⟩
  | more hv _ ih =>
    obtain ⟨key, keys, rfl⟩ := List.exists_cons_of_length_pos (Nat.zero_lt_of_lt hlen)
    obtain ⟨_, s, hkey, hs⟩ := exists_quoted key
    obtain ⟨body, raw, hbody, hkeyed⟩ := ih keys (Nat.le_of_succ_le_succ hlen)
    exact ⟨_, _, .more (.mk (.of_tight hkey) hv) hbody, .cons hs hkeyed⟩

/-- The items of an array can be written as an object under any keys. -/
theorem exists_objectText {text : String} {items : List Json} (h : ArrayText text items)
    (keys : List String) (hlen : items.length ≤ keys.length) :
    ∃ object, ObjectText object (keys.zip items) := by
  have hbody : ∃ body raw, Value body (object raw) ∧ Keyed raw (keys.zip items) := by
    obtain ⟨_, _, _, -, hv, -, -⟩ := h.exists_value
    cases hv with
    | noItems _ =>
      rw [List.zip_nil_right]
      exact ⟨_, [], .noMembers .nil, .nil⟩
    | array hvs =>
      obtain ⟨body, raw, hbody, hkeyed⟩ := separated_zip hvs keys hlen
      exact ⟨_, raw, .object hbody, hkeyed⟩
  obtain ⟨body, raw, hbody, hkeyed⟩ := hbody
  refine ⟨.ofList body, raw, ?_, hkeyed⟩
  rw [Text, String.toList_ofList]
  exact .of_tight hbody

theorem render_ofText (t : String) : (ofText t).render =
    .ofList ('"' :: (t.toList.map fun c ↦ (Piece.char c).print).flatten ++ ['"']) := by
  rw [ofText, render, print, Spelling.print, Spelling.ofText, List.flatMap_map, List.flatMap]

theorem render_ofRecord (ms : List (String × Json)) : (ofRecord ms).render =
    "\x7b" ++ ",".intercalate (ms.map fun m ↦ (ofText m.1).render ++ ":" ++ m.2.render) ++
      "\x7d" := by
  have hmembers : printMembers (ms.map fun m ↦ (.ofText m.1, m.2)) =
      [','].intercalate (ms.map fun m ↦ (ofText m.1).print ++ ':' :: m.2.print) := by
    induction ms with
    | nil => rfl
    | cons m ms ih =>
      cases ms with
      | nil =>
        rw [List.map_singleton, List.map_singleton, List.intercalate_singleton]
        rfl
      | cons m' ms =>
        rw [List.map_cons, List.map_cons] at ih ⊢
        rw [List.map_cons, List.map_cons, List.intercalate_cons_cons, ← ih]
        simp [printMembers, ofText, print]
  have htext : ∀ v : Json, v.render.toList = v.print := fun v ↦ String.toList_ofList
  rw [← String.toList_inj, htext, ofRecord, print, hmembers]
  simp [htext, Function.comp_def]

theorem isWriter_writer : IsWriter writer where
  text t := ⟨_, forall₂_spells_print t.toList, render_ofText t⟩
  word n := rfl
  flag b := by cases b <;> rfl
  record es := by
    change (ofRecord _).render = _
    rw [render_ofRecord, List.map_map]
    rfl

end TexelFormats.Json
