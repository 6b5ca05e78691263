import TexelFormats.Proofs.Configuration
import TexelFormats.Proofs.YamlBlocks

namespace TexelFormats

namespace Yaml

theorem number?_toDigits (n : Nat) : number? 10 (Nat.toDigits 10 n) = some n :=
  Json.nat?_eq_some_iff.2 ⟨_, rfl, Json.digits_toDigits n, Nat.ofDigitChars_ten_toDigits⟩

theorem unsigned?_toDigits (n : Nat) : unsigned? (Nat.toDigits 10 n) = some n := by
  obtain rfl | hn := Nat.eq_zero_or_pos n
  · rfl
  · obtain ⟨c, cs, hcs, hc⟩ := Json.exists_toDigits_eq_cons hn
    rw [← number?_toDigits n, hcs]
    simp [unsigned?, hc]

theorem word?_toDigits (n : Nat) : (Scalar.ofPlain (Nat.toDigits 10 n)).word? = toWord? n := by
  have hread : (unsigned? (Nat.toDigits 10 n)).bind toWord? = toWord? n := by
    rw [unsigned?_toDigits, Option.bind_some]
  obtain ⟨c, cs, hcs, hc⟩ := (Json.digits_toDigits n).exists_cons
  have hplus : c ≠ '+' := by
    intro h
    rw [h] at hc
    exact absurd hc (by decide)
  rw [hcs] at hread ⊢
  simpa [Scalar.word?, Scalar.ofPlain, hplus] using hread

theorem isDecoder_decoder : IsDecoder decoder Scalar.ofPlain where
  block hne h := congrArg (Option.map Shape.members) (mapping?_block hne h)
  text _ _ _ := rfl
  word := word?_toDigits
  flag b := by cases b <;> rfl
  null := rfl

end Yaml

namespace Device

structure Word where
  chars : List Char
  begins : ∃ c ∈ chars.head?, c.isAlpha = true
  isAlphanum : ∀ c ∈ chars, c.isAlphanum = true
  isText : String.ofList chars ∉ Yaml.reserved

theorem Word.isWord (w : Word) : ∀ c ∈ w.chars, Yaml.isWord c = true :=
  fun c hc ↦ Yaml.isWord_of_isAlphanum (w.isAlphanum c hc)

structure Identifier where
  chars : List Char
  begins : ∃ c ∈ chars.head?, c.isDigit = false
  isWord : ∀ c ∈ chars, Yaml.isWord c = true
  length_le : chars.length ≤ 64

namespace Identifier

def text (k : Identifier) : String := .ofList k.chars

theorem toList_text (k : Identifier) : k.text.toList = k.chars := String.toList_ofList

end Identifier

/-- A member of a configuration that both languages can write. What is neither a name nor a chip is
true, false or else null. -/
inductive Entry where
  | name (word : Word)
  | chipId (n : Nat)
  | other (key : Identifier) (value : Option Bool) (isOther : key.text ∉ ["name", "chip_id"])

namespace Entry

def key : Entry → String
  | name _ => "name"
  | chipId _ => "chip_id"
  | other k _ _ => k.text

def json : Entry → Json
  | name w => .ofText (.ofList w.chars)
  | chipId n => .ofNat n
  | other _ (some b) _ => .bool b
  | other _ none _ => .null

def plain : Entry → List Char
  | name w => w.chars
  | chipId n => Nat.toDigits 10 n
  | other _ (some b) _ => if b then "true".toList else "false".toList
  | other _ none _ => "null".toList

def quoted : Entry → String
  | name w => "\"" ++ .ofList w.chars ++ "\""
  | e => .ofList e.plain

theorem bare_plain (e : Entry) : Yaml.Bare e.plain := by
  cases e with
  | name w =>
    obtain ⟨c, hc, -⟩ := w.begins
    exact ⟨List.ne_nil_of_mem (List.mem_of_head? hc), w.isWord⟩
  | chipId n =>
    obtain ⟨hne, hdigits⟩ := Json.digits_toDigits n
    refine ⟨hne, fun c hc ↦ Yaml.isWord_of_isAlphanum ?_⟩
    exact Bool.or_eq_true_iff.2 (.inr (hdigits c hc))
  | other _ b _ =>
    rcases b with _ | _ | _ <;> exact ⟨List.cons_ne_nil _ _, List.all_eq_true.1 rfl⟩

theorem bare_key (e : Entry) : Yaml.Bare e.key.toList := by
  have hname : Yaml.Bare "name".toList := ⟨by decide, List.all_eq_true.1 (by decide)⟩
  have hchip : Yaml.Bare "chip_id".toList := ⟨by decide, List.all_eq_true.1 (by decide)⟩
  cases e with
  | name _ => exact hname
  | chipId _ => exact hchip
  | other k _ _ =>
    obtain ⟨c, hc, -⟩ := k.begins
    rw [key, k.toList_text]
    exact ⟨List.ne_nil_of_mem (List.mem_of_head? hc), k.isWord⟩

theorem length_key_le (e : Entry) : e.key.toList.length ≤ Yaml.maxKeySize := by
  have hname : "name".toList.length ≤ Yaml.maxKeySize := by decide
  have hchip : "chip_id".toList.length ≤ Yaml.maxKeySize := by decide
  cases e with
  | name _ => exact hname
  | chipId _ => exact hchip
  | other k _ _ =>
    rw [key, k.toList_text]
    exact Nat.le_trans k.length_le (by decide)

theorem writable (e : Entry) : Yaml.Writable (e.key.toList, e.plain) :=
  ⟨e.bare_key, e.length_key_le, e.bare_plain⟩

theorem quoted_word {t : String} (h : ∀ c ∈ t.toList, Yaml.isWord c = true) :
    Json.Quoted ("\"" ++ t ++ "\"").toList (.ofText t) := by
  have hcharacters : Json.Characters t.toList (.ofText t) := by
    rw [Json.Spelling.ofText]
    generalize t.toList = cs at h
    induction cs with
    | nil => exact .nil
    | cons c cs ih =>
      obtain ⟨hc, hcs⟩ := List.forall_mem_cons.1 h
      have hspace : ' ' ≤ c := Yaml.of_isWord hc (by decide)
      exact .unescaped hspace (Yaml.ne_of_isWord hc (by decide)) (Yaml.ne_of_isWord hc (by decide))
        (ih hcs)
  rw [String.toList_append, String.toList_append]
  exact .mk hcharacters

theorem value_quoted (e : Entry) : Json.Value e.quoted.toList e.json := by
  cases e with
  | name w =>
    refine .string (quoted_word ?_)
    rw [String.toList_ofList]
    exact w.isWord
  | chipId n =>
    rw [quoted, String.toList_ofList]
    · exact Json.value_toDigits n
    · nofun
  | other _ b _ =>
    rw [quoted, String.toList_ofList]
    · rcases b with _ | _ | _
      · exact .null
      · exact .false
      · exact .true
    · nofun

theorem writes (e : Entry) :
    Json.Writes ("\"" ++ e.key ++ "\"" ++ ":" ++ e.quoted) (e.key, e.json) :=
  .mk (quoted_word e.bare_key.isWord) (Json.denotes_ofText e.key) e.value_quoted

end Entry

def members (es : List Entry) : Members Json := es.map fun e ↦ (e.key, e.json)

def block (es : List Entry) : String :=
  .ofList (Yaml.block (es.map fun e ↦ (e.key.toList, e.plain)))

def object (es : List Entry) : String :=
  "\x7b" ++ ",".intercalate (es.map fun e ↦ "\"" ++ e.key ++ "\"" ++ ":" ++ e.quoted) ++ "\x7d"

theorem objectText_object (es : List Entry) : Json.ObjectText (object es) (members es) := by
  refine Json.objectText_of_writes ?_
  rw [members, List.forall₂_map_left_iff, List.forall₂_map_right_iff, List.forall₂_same]
  exact fun e _ ↦ e.writes

section

variable {ν μ : Type} {V : Visitor} {J : Decoder ν} {node : Json → ν} {Y : Decoder μ}
  {scalar : List Char → μ} {es : List Entry}

theorem text?_ofText (hJ : Json.IsDecoder J node) (t : String) :
    J.text? (node (.ofText t)) = some t :=
  hJ.text_iff.2 ⟨_, rfl, Json.denotes_ofText t⟩

theorem word?_ofNat (hJ : Json.IsDecoder J node) (n : Nat) :
    J.word? (node (.ofNat n)) = toWord? n := by
  apply Option.ext
  intro w
  rw [hJ.word_iff, Json.toWord?_eq_some_iff]
  constructor
  · intro h
    obtain ⟨ds, hds, -, hvalue⟩ := h
    cases hds
    rwa [Nat.ofDigitChars_ten_toDigits] at hvalue
  · intro hn
    rw [hn]
    exact ⟨_, rfl, Json.digits_toDigits _, Nat.ofDigitChars_ten_toDigits⟩

theorem flag?_null (hJ : Json.IsDecoder J node) : J.flag? (node .null) = none := by
  rw [Option.eq_none_iff_forall_ne_some]
  intro b hb
  cases hJ.flag_iff.1 hb

theorem kind_eq {f : Field Kind Setting} (hf : f ∈ fields) : f.kind =
    if f.key = "name" then .text else if f.key = "chip_id" then .word else .flag := by
  revert f
  simp [fields]

theorem setting?_entry (hJ : Json.IsDecoder J node) (hY : Yaml.IsDecoder Y scalar)
    {f : Field Kind Setting} (hf : f ∈ fields) {e : Entry} (hkey : e.key = f.key) :
    Y.setting? f.kind (scalar e.plain) = J.setting? f.kind (node e.json) := by
  rw [kind_eq hf, ← hkey]
  cases e with
  | name w =>
    exact congrArg (Option.map Setting.text)
      ((hY.text w.begins w.isWord w.isText).trans (text?_ofText hJ _).symm)
  | chipId n =>
    exact congrArg (Option.map Setting.word) ((hY.word n).trans (word?_ofNat hJ n).symm)
  | other k b hother =>
    simp only [List.mem_cons, List.not_mem_nil, or_false, not_or] at hother
    rw [Entry.key, if_neg hother.1, if_neg hother.2]
    refine congrArg (Option.map Setting.flag) ?_
    cases b with
    | none => exact hY.null.trans (flag?_null hJ).symm
    | some b => exact (hY.flag b).trans (hJ.flag_iff.2 rfl).symm

theorem ofMembers?_scalars (hJ : Json.IsDecoder J node) (hY : Yaml.IsDecoder Y scalar)
    (es : List Entry) : ofMembers? Y (es.map fun e ↦ (e.key, scalar e.plain)) =
      ofMembers? J (nodes node (members es)) := by
  have hnodes : nodes node (members es) = es.map fun e ↦ (e.key, node e.json) := by
    rw [nodes, members, List.map_map]
    rfl
  rw [hnodes, ofMembers?, ofMembers?]
  refine congrArg (Option.bind · ofSettings?) (mapM_congr fun f hf ↦ ?_)
  rw [Members.given_map, Members.given_map]
  refine f.settle?_map_congr fun e he ↦ setting?_entry hJ hY hf ?_
  simpa using (List.mem_filter.1 he).2

theorem ofText?_block (hV : V.Derived) (hJ : Json.IsDecoder J node)
    (hY : Yaml.IsDecoder Y scalar) (hne : es ≠ []) :
    ofText? V Y (block es) = ofMembers? J (nodes node (members es)) := by
  have hwritable : ∀ m ∈ es.map fun e ↦ (e.key.toList, e.plain), Yaml.Writable m := by
    simpa using fun e _ ↦ e.writable
  have hshape := hY.block (by simpa using hne) hwritable
  rw [block, ofText?_of_members hV hshape, List.map_map, ← ofMembers?_scalars hJ hY]
  simp [Function.comp_def]

/-- Both languages take the same members for the same device, or refuse them. -/
theorem yaml_agrees_with_json (hV : V.Derived) (hJ : Json.IsDecoder J node)
    (hY : Yaml.IsDecoder Y scalar) (hne : es ≠ []) :
    ofText? V Y (block es) = ofText? V J (object es) ∧
    (∀ text, Json.ObjectText text (members es) →
      ofText? V Y (block es) = ofText? V J text) ∧
    ∀ d, ofText? V Y (block es) = some d ↔ d.DescribedBy (members es) := by
  have hany : ∀ text, Json.ObjectText text (members es) →
      ofText? V Y (block es) = ofText? V J text := by
    intro text h
    rw [ofText?_block hV hJ hY hne, ofText?_of_objectText hV hJ h]
  refine ⟨hany _ (objectText_object es), hany, fun d ↦ ?_⟩
  rw [ofText?_block hV hJ hY hne]
  exact ofMembers?_nodes_eq_some_iff hJ

theorem yaml_agrees_with_json_beside_unknown_null :
    ofText? .standard Yaml.decoder "chip_id: 640\nname: q7\nx: null\n" =
      some ⟨"q7", 640, true, false, false⟩ ∧
    ofText? .standard Json.decoder "\x7b\"chip_id\":640,\"name\":\"q7\",\"x\":null\x7d" =
      some ⟨"q7", 640, true, false, false⟩ := by
  let es : List Entry := [.chipId 640,
    .name ⟨['q', '7'], ⟨'q', rfl, rfl⟩, List.all_eq_true.1 rfl, by decide⟩,
    .other ⟨['x'], ⟨'x', rfl, rfl⟩, List.all_eq_true.1 rfl, by decide⟩ none (by decide)]
  have hne : es ≠ [] := List.cons_ne_nil _ _
  have hd : DescribedBy ⟨"q7", 640, true, false, false⟩ (members es) :=
    ⟨⟨_, rfl, Json.denotes_ofText "q7"⟩, ⟨_, rfl, Json.digits_toDigits 640, rfl⟩, .inl ⟨rfl, rfl⟩,
      .inl ⟨rfl, rfl⟩, .inl ⟨rfl, rfl⟩⟩
  obtain ⟨hobject, -, haccepted⟩ := yaml_agrees_with_json Visitor.derived_standard
    Json.isDecoder_decoder Yaml.isDecoder_decoder hne
  have hblock := (haccepted _).2 hd
  exact ⟨hblock, hobject.symm.trans hblock⟩

end

end Device

end TexelFormats
