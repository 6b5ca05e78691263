import TexelFormats.Yaml.Mapping

namespace TexelFormats.Yaml

variable {c x : Char} {cs before rest tail key value : List Char} {depth indentation fuel : Nat}

def isWord (c : Char) : Bool := c.isAlphanum || c = '_'

theorem isWord_of_isAlphanum (h : c.isAlphanum = true) : isWord c = true := by
  rw [isWord, h, Bool.true_or]

theorem toNat_lt_of_isWord (hc : isWord c = true) : c.toNat < 128 := by
  rw [isWord, Bool.or_eq_true, decide_eq_true_iff] at hc
  obtain halphanum | rfl := hc
  · obtain halpha | hdigit := Bool.or_eq_true_iff.1 halphanum
    · obtain hupper | hlower := Bool.or_eq_true_iff.1 halpha
      · have hle : c.val ≤ 'Z'.val := (of_decide_eq_true hupper).2
        exact Nat.lt_of_le_of_lt (UInt32.le_iff_toNat_le.1 hle) (by decide)
      · have hle : c.val ≤ 'z'.val := of_decide_eq_true (Bool.and_eq_true_iff.1 hlower).2
        exact Nat.lt_of_le_of_lt (UInt32.le_iff_toNat_le.1 hle) (by decide)
    · have hle : c.val ≤ '9'.val := of_decide_eq_true (Bool.and_eq_true_iff.1 hdigit).2
      exact Nat.lt_of_le_of_lt (UInt32.le_iff_toNat_le.1 hle) (by decide)
  · decide

@[elab_as_elim]
theorem of_isWord {P : Char → Prop} {c : Char} (hc : isWord c = true)
    (h : ∀ n < 128, isWord (.ofNat n) = true → P (.ofNat n)) : P c := by
  have hn := h c.toNat (toNat_lt_of_isWord hc)
  rw [Char.ofNat_toNat] at hn
  exact hn hc

theorem isAllowed_of_isWord (hc : isWord c = true) : isAllowed c = true :=
  of_isWord hc (by decide)

theorem isBreak_of_isWord (hc : isWord c = true) : isBreak c = false :=
  of_isWord hc (by decide)

theorem isBlank_of_isWord (hc : isWord c = true) : isBlank c = false :=
  of_isWord hc (by decide)

theorem ne_of_isWord (hc : isWord c = true) (hx : isWord x = false) : c ≠ x := by
  rintro rfl
  rw [hc] at hx
  cases hx

theorem utf8Size_of_isWord (hc : isWord c = true) : c.utf8Size = 1 :=
  of_isWord hc (by decide)

structure Bare (cs : List Char) : Prop where
  ne_nil : cs ≠ []
  isWord : ∀ c ∈ cs, isWord c = true

theorem Bare.exists_cons (h : Bare cs) : ∃ c rest, cs = c :: rest ∧ Yaml.isWord c = true := by
  obtain ⟨c, rest, rfl⟩ := List.exists_cons_of_ne_nil h.ne_nil
  exact ⟨c, rest, rfl, h.isWord c (.head _)⟩

/-- Nothing, or a line that begins with a word. -/
def Resumes (rest : List Char) : Prop := ∀ c ∈ rest.head?, isWord c = true

namespace Cursor

variable {inBraces : Bool}

theorem skip_of_resumes (before : List Char) (h : Resumes rest) :
    (mk before rest).skip inBraces = ⟨before, rest⟩ := by
  cases rest with
  | nil => rfl
  | cons c rest =>
    have hc : isWord c = true := h c rfl
    simp (disch := decide) [skip, skipFrom, isBreak_of_isWord hc, ne_of_isWord hc]

theorem skip_colon : (mk before (':' :: rest)).skip false = ⟨before, ':' :: rest⟩ := by
  simp [skip, skipFrom, isBreak, byteOrderMark]

theorem skip_space (h : Resumes rest) :
    (mk before (' ' :: rest)).skip false = ⟨' ' :: before, rest⟩ := by
  have hskip : (mk (' ' :: before) rest).skip false = ⟨' ' :: before, rest⟩ :=
    skip_of_resumes _ h
  simpa [skip, skipFrom, isBreak] using hskip

end Cursor

theorem startsMarker_of_ne (h : ∀ c ∈ rest.head?, c ≠ x) : startsMarker x rest = false := by
  match rest with
  | [] | [_] | [_, _] => rfl
  | c :: _ :: _ :: _ =>
    have hc : c ≠ x := h c rfl
    simp [startsMarker, hc]

theorem startsAnyMarker_of_resumes (h : Resumes rest) : startsAnyMarker rest = false := by
  have hdash := startsMarker_of_ne fun c hc ↦ ne_of_isWord (x := '-') (h c hc) (by decide)
  have hdot := startsMarker_of_ne fun c hc ↦ ne_of_isWord (x := '.') (h c hc) (by decide)
  rw [startsAnyMarker, hdash, hdot]
  rfl

theorem plain_word (hc : isWord c = true) (column : Nat) :
    plain false indentation column .empty (c :: rest) =
      (plain false indentation (column + 1) .empty rest).map fun (cs, rest) ↦ (c :: cs, rest) := by
  simp (disch := decide) [plain, Gap.empty, Gap.text, isBreak_of_isWord hc, isBlank_of_isWord hc,
    ne_of_isWord hc]

theorem plain_colon (column : Nat) :
    plain false indentation column .empty (':' :: ' ' :: rest) = some ([], ':' :: ' ' :: rest) := by
  simp [plain, isBreak, isBlank, startsGap, isGap]

theorem plain_break (h : Resumes rest) (column : Nat) :
    plain false (depth + 1) column .empty ('\n' :: rest) = some ([], rest) := by
  cases rest with
  | nil => rfl
  | cons c rest =>
    have hc : isWord c = true := h c rfl
    have hgap : isBreak '\n' = true := by decide
    simp (disch := decide) [plain, Gap.push, isBreak_of_isWord hc, isBlank_of_isWord hc,
      ne_of_isWord hc, hgap]

theorem plain_append (hcs : ∀ c ∈ cs, isWord c = true)
    (htail : ∀ column, plain false indentation column .empty tail = some ([], rest))
    (column : Nat) : plain false indentation column .empty (cs ++ tail) = some (cs, rest) := by
  induction cs generalizing column with
  | nil => exact htail column
  | cons c cs ih =>
    rw [List.cons_append, plain_word (hcs c (.head _)), ih fun x hx ↦ hcs x (.tail _ hx)]
    rfl

theorem startsPlain_of_isWord (hc : isWord c = true) : startsPlain false (c :: rest) = true := by
  have hdash : c ≠ '-' := ne_of_isWord hc (by decide)
  rw [startsPlain]
  · simp (disch := decide) [isGap, isBreak_of_isWord hc, isBlank_of_isWord hc, ne_of_isWord hc]
  · simp [hdash]

theorem Scalar.read?_of_bare (hcs : Bare cs)
    (htail : ∀ column, Yaml.plain false indentation column .empty tail = some ([], rest)) :
    Scalar.read? false indentation ⟨before, cs ++ tail⟩ =
      some (.ofPlain cs, Cursor.moveTo ⟨before, cs ++ tail⟩ rest) := by
  have hplain := plain_append hcs.isWord htail
  obtain ⟨c, cs, rfl, hc⟩ := hcs.exists_cons
  rw [List.cons_append] at hplain ⊢
  have hresumes : Resumes (c :: (cs ++ tail)) := by simp [Resumes, hc]
  rw [read?, if_neg (by simp [Cursor.isAtAnyMarker, startsAnyMarker_of_resumes hresumes])]
  have hdouble : c ≠ '"' := ne_of_isWord hc (by decide)
  have hsingle : c ≠ '\'' := ne_of_isWord hc (by decide)
  simp [startsPlain_of_isWord hc, hplain, hdouble, hsingle]

namespace Cursor

variable {s : Cursor}

theorem line_append (h : ∀ c ∈ cs, isWord c = true) :
    (mk (cs.reverse ++ before) rest).line = (mk before tail).line := by
  have hbreaks : cs.countP isBreak = 0 :=
    List.countP_eq_zero.2 fun c hc ↦ by simp [isBreak_of_isWord (h c hc)]
  simp [line, hbreaks]

theorem offset_append (h : ∀ c ∈ cs, isWord c = true) :
    (mk (cs.reverse ++ before) rest).offset = (mk before tail).offset + cs.length := by
  induction cs generalizing before with
  | nil => rfl
  | cons c cs ih =>
    have hone := utf8Size_of_isWord (h c (.head _))
    rw [List.reverse_cons, List.append_assoc, ih fun x hx ↦ h x (.tail _ hx)]
    simp [offset, hone]
    omega

theorem reachesColon_of_word (h : ∀ c ∈ cs, isWord c = true) (hlen : cs.length ≤ maxKeySize) :
    reachesColon ⟨before, tail⟩ ⟨cs.reverse ++ before, rest⟩ = true := by
  simp only [reachesColon, Bool.and_eq_true, decide_eq_true_eq]
  exact ⟨(line_append h).symm, by rw [offset_append h]; exact Nat.add_le_add_left hlen _⟩

end Cursor

def line (key value : List Char) : List Char := key ++ ':' :: ' ' :: value ++ ['\n']

theorem Scalar.read?_key (hkey : Bare key) :
    Scalar.read? false indentation ⟨before, key ++ ':' :: ' ' :: rest⟩ =
      some (.ofPlain key, ⟨key.reverse ++ before, ':' :: ' ' :: rest⟩) := by
  rw [read?_of_bare hkey plain_colon, Cursor.moveTo_of_after_eq rfl]

theorem Scalar.read?_value (hvalue : Bare value) (hrest : Resumes rest) :
    Scalar.read? false (depth + 1) ⟨before, value ++ '\n' :: rest⟩ =
      some (.ofPlain value, ⟨'\n' :: value.reverse ++ before, rest⟩) := by
  have hafter : value ++ '\n' :: rest = (value ++ ['\n']) ++ rest := by simp
  rw [read?_of_bare hvalue (plain_break hrest), Cursor.moveTo_of_after_eq hafter]
  simp

theorem Cursor.moveTo_colon (before rest : List Char) :
    (Cursor.mk before (':' :: rest)).moveTo rest = ⟨':' :: before, rest⟩ := by
  have hafter : (Cursor.mk before (':' :: rest)).after = [':'] ++ rest := rfl
  rw [moveTo_of_after_eq hafter]
  rfl

theorem blockEntry?_line (before : List Char) (hkey : Bare key) (hlen : key.length ≤ maxKeySize)
    (hvalue : Bare value) (hrest : Resumes rest) : blockEntry? 0 ⟨before, line key value ++ rest⟩ =
      some ((String.ofList key, .ofPlain value), ⟨(line key value).reverse ++ before, rest⟩) := by
  let body := value ++ '\n' :: rest
  have hline : line key value ++ rest = key ++ ':' :: ' ' :: body := by simp [line, body]
  have hbody : Resumes body := by
    obtain ⟨c, cs, rfl, hc⟩ := hvalue.exists_cons
    simp [Resumes, body, hc]
  have hcolon : reachesColon ⟨before, key ++ ':' :: ' ' :: body⟩
      ⟨key.reverse ++ before, ':' :: ' ' :: body⟩ = true :=
    Cursor.reachesColon_of_word hkey.isWord hlen
  have hindented : (Cursor.mk (' ' :: ':' :: (key.reverse ++ before)) body).column ≠ 0 := by
    simp [Cursor.column, Cursor.lineBefore, isBreak]
  have hend : '\n' :: value.reverse ++ ' ' :: ':' :: (key.reverse ++ before) =
      (line key value).reverse ++ before := by simp [line]
  rw [hline, blockEntry?, Scalar.read?_key hkey, Option.bind_eq_bind, Option.bind_some]
  simp only [Cursor.skip_colon, Cursor.moveTo_colon, Cursor.skip_space hbody]
  rw [if_pos ⟨rfl, hcolon⟩, if_neg (by simp [hindented, body]), Scalar.read?_value hvalue hrest,
    Option.bind_some, Cursor.skip_of_resumes _ hrest, hend]
  rfl

structure Writable (m : List Char × List Char) : Prop where
  key : Bare m.1
  short : m.1.length ≤ maxKeySize
  value : Bare m.2

def block (ms : List (List Char × List Char)) : List Char := ms.flatMap fun m ↦ line m.1 m.2

variable {m : List Char × List Char} {ms : List (List Char × List Char)}

theorem Writable.resumes (h : Writable m) : Resumes (line m.1 m.2 ++ rest) := by
  obtain ⟨c, cs, hcs, hc⟩ := h.key.exists_cons
  simp [Resumes, line, hcs, hc]

theorem resumes_block (h : ∀ m ∈ ms, Writable m) : Resumes (block ms) := by
  cases ms with
  | nil => exact fun c hc ↦ absurd hc (Option.not_mem_none c)
  | cons m ms => exact (h m (.head _)).resumes

theorem length_le_length_block (ms : List (List Char × List Char)) :
    ms.length ≤ (block ms).length := by
  induction ms with
  | nil => exact Nat.le_refl 0
  | cons m ms ih =>
    simp only [block, line, List.flatMap_cons, List.length_append, List.length_cons] at ih ⊢
    omega

def scalars (ms : List (List Char × List Char)) : Members Scalar :=
  ms.map fun m ↦ (String.ofList m.1, .ofPlain m.2)

theorem opensLine_after_line (key value before rest : List Char) :
    (Cursor.mk ((line key value).reverse ++ before) rest).opensLine = true ∧
      (Cursor.mk ((line key value).reverse ++ before) rest).column = 0 := by
  simp [Cursor.opensLine, Cursor.column, Cursor.lineBefore, line, isBreak]

theorem blockEntries?_block (before : List Char) (hne : ms ≠ []) (h : ∀ m ∈ ms, Writable m)
    (hfuel : ms.length ≤ fuel) :
    blockEntries? 0 fuel ⟨before, block ms⟩ =
      some (scalars ms, ⟨(block ms).reverse ++ before, []⟩) := by
  induction ms generalizing before fuel with
  | nil => exact absurd rfl hne
  | cons m ms ih =>
    obtain ⟨fuel, rfl⟩ := Nat.exists_eq_add_of_le' (Nat.lt_of_lt_of_le (Nat.succ_pos _) hfuel)
    have hm := h m (.head _)
    have hms : ∀ m ∈ ms, Writable m := fun x hx ↦ h x (.tail _ hx)
    have hentry := blockEntry?_line before hm.key hm.short hm.value (resumes_block hms)
    have hblock : block (m :: ms) = line m.1 m.2 ++ block ms := rfl
    rw [hblock, blockEntries?, hentry, Option.bind_eq_bind, Option.bind_some]
    cases ms with
    | nil => simp [block, scalars]
    | cons m' ms =>
      have hrest := ih ((line m.1 m.2).reverse ++ before) (List.cons_ne_nil m' ms) hms
        (Nat.le_of_succ_le_succ hfuel)
      have hmarker : Cursor.isAtAnyMarker ⟨(line m.1 m.2).reverse ++ before, block (m' :: ms)⟩ =
          false := by
        rw [Cursor.isAtAnyMarker, startsAnyMarker_of_resumes (resumes_block hms), Bool.and_false]
      have hsome : block (m' :: ms) ≠ [] := by simp [block, line]
      obtain ⟨hopens, hcolumn⟩ := opensLine_after_line m.1 m.2 before (block (m' :: ms))
      dsimp only
      rw [if_pos ⟨hsome, hopens, hcolumn, by simp [hmarker]⟩, hrest, Option.bind_eq_bind,
        Option.bind_some]
      simp [scalars]

theorem isWord_or_of_mem_block {c : Char} (h : ∀ m ∈ ms, Writable m) (hc : c ∈ block ms) :
    isWord c = true ∨ c = ':' ∨ c = ' ' ∨ c = '\n' := by
  obtain ⟨m, hm, hc⟩ := List.mem_flatMap.1 hc
  simp only [line, List.mem_append, List.mem_cons, List.not_mem_nil, or_false] at hc
  rcases hc with (hkey | hcolon | hspace | hvalue) | hbreak
  · exact .inl ((h m hm).key.isWord c hkey)
  · exact .inr (.inl hcolon)
  · exact .inr (.inr (.inl hspace))
  · exact .inl ((h m hm).value.isWord c hvalue)
  · exact .inr (.inr (.inr hbreak))

theorem unifyBreaks_of_forall_ne (h : ∀ c ∈ cs, c ≠ '\r' ∧ c ≠ '\u0085') :
    unifyBreaks cs = cs := by
  induction cs with
  | nil => rfl
  | cons c cs ih =>
    obtain ⟨hreturn, hnext⟩ := h c (.head _)
    rw [unifyBreaks, ih fun x hx ↦ h x (.tail _ hx)]
    all_goals simp [hreturn, hnext]

theorem opening_of_resumes (h : Resumes cs) : opening (.atStart cs) = .atStart cs := by
  have hskip : (Cursor.atStart cs).skip false = .atStart cs := Cursor.skip_of_resumes [] h
  have hmarker := startsAnyMarker_of_resumes h
  simp only [startsAnyMarker, Bool.or_eq_false_iff] at hmarker
  have hdash : (Cursor.atStart cs).isAtMarker '-' = false := by
    simp [Cursor.isAtMarker, Cursor.atStart, hmarker.1]
  rw [opening, hskip]
  simp [hdash]

theorem root?_of_resumes (h : Resumes cs) :
    root? (.atStart cs) = blockEntries? 0 (cs.length + 1) (.atStart cs) := by
  cases cs with
  | nil => rfl
  | cons c cs =>
    have hc : c ≠ '{' := ne_of_isWord (h c rfl) (by decide)
    have hopens : (Cursor.mk [] (c :: cs)).opensLine = true := rfl
    have hcolumn : (Cursor.mk [] (c :: cs)).column = 0 := rfl
    simp [root?, Cursor.atStart, hc, hopens, hcolumn]

/-- A block of plain members is read as it was written. -/
theorem mapping?_block (hne : ms ≠ []) (h : ∀ m ∈ ms, Writable m) :
    mapping? (String.ofList (block ms)) = some (scalars ms) := by
  have hallowed : (block ms).all isAllowed = true := by
    refine List.all_eq_true.2 fun c hc ↦ ?_
    obtain hc | rfl | rfl | rfl := isWord_or_of_mem_block h hc
    · exact isAllowed_of_isWord hc
    all_goals decide
  have hbreaks : unifyBreaks (block ms) = block ms := by
    refine unifyBreaks_of_forall_ne fun c hc ↦ ?_
    obtain hc | rfl | rfl | rfl := isWord_or_of_mem_block h hc
    · exact ⟨ne_of_isWord hc (by decide), ne_of_isWord hc (by decide)⟩
    all_goals decide
  have hroot : root? (.atStart (block ms)) = some (scalars ms, ⟨(block ms).reverse ++ [], []⟩) := by
    rw [root?_of_resumes (resumes_block h)]
    exact blockEntries?_block [] hne h (Nat.le_succ_of_le (length_le_length_block ms))
  rw [mapping?, String.toList_ofList, if_pos hallowed, hbreaks,
    opening_of_resumes (resumes_block h), hroot]
  rfl

def reserved : List String := ["null", "Null", "NULL", "true", "True", "TRUE", "false", "False",
  "FALSE"]

/-- What the documentation of a reader of YAML says of blocks and of the scalars in them, each of
which it keeps as a node of its own. -/
structure IsDecoder {ν : Type} (Y : Decoder ν) (node : List Char → ν) : Prop where
  block {ms : List (List Char × List Char)} : ms ≠ [] → (∀ m ∈ ms, Writable m) →
    Y.shape? (.ofList (block ms)) = some (.members (ms.map fun m ↦ (.ofList m.1, node m.2)))
  text {cs : List Char} : (∃ c ∈ cs.head?, c.isAlpha = true) → (∀ c ∈ cs, isWord c = true) →
    String.ofList cs ∉ reserved → Y.text? (node cs) = some (.ofList cs)
  word (n : Nat) : Y.word? (node (Nat.toDigits 10 n)) = toWord? n
  flag (b : Bool) : Y.flag? (node (if b then "true".toList else "false".toList)) = some b
  null : Y.flag? (node "null".toList) = none

end TexelFormats.Yaml
