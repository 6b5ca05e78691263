import Mathlib.Data.List.Forall2
import TexelFormats.Json.Basic

namespace TexelFormats.Json

def Space (cs : List Char) : Prop := ∀ c ∈ cs, c ∈ [' ', '\t', '\n', '\r']

theorem Space.nil : Space [] := fun _ hc ↦ absurd hc List.not_mem_nil

def Digits (cs : List Char) : Prop := cs ≠ [] ∧ ∀ c ∈ cs, c.isDigit = true

inductive Whole : List Char → Prop
  | zero : Whole ['0']
  | digits {c : Char} {cs : List Char} : c ≠ '0' → Digits (c :: cs) → Whole (c :: cs)

inductive Fraction : List Char → Prop
  | none : Fraction []
  | digits {cs : List Char} : Digits cs → Fraction ('.' :: cs)

inductive Exponent : List Char → Prop
  | none : Exponent []
  | unsigned {e : Char} {cs : List Char} : e ∈ ['e', 'E'] → Digits cs → Exponent (e :: cs)
  | signed {e sign : Char} {cs : List Char} :
      e ∈ ['e', 'E'] → sign ∈ ['+', '-'] → Digits cs → Exponent (e :: sign :: cs)

inductive Unsigned : List Char → Prop
  | mk {whole fraction exponent : List Char} : Whole whole → Fraction fraction →
      Exponent exponent → Unsigned (whole ++ fraction ++ exponent)

inductive Number : List Char → Prop
  | unsigned {cs : List Char} : Unsigned cs → Number cs
  | negative {cs : List Char} : Unsigned cs → Number ('-' :: cs)

def escapes : List (Char × Char) := [('"', '"'), ('\\', '\\'), ('/', '/'), ('b', '\x08'),
  ('f', '\x0c'), ('n', '\n'), ('r', '\r'), ('t', '\t')]

def hexValues : List (Char × Nat) :=
  "0123456789abcdef".toList.zipIdx ++ "ABCDEF".toList.zipIdx 10

inductive Characters : List Char → Spelling → Prop
  | nil : Characters [] []
  | unescaped {c : Char} {cs : List Char} {s : Spelling} :
      ' ' ≤ c → c ≠ '"' → c ≠ '\\' → Characters cs s → Characters (c :: cs) (.char c :: s)
  | escaped {e c : Char} {cs : List Char} {s : Spelling} :
      (e, c) ∈ escapes → Characters cs s → Characters ('\\' :: e :: cs) (.char c :: s)
  | unit {a b c d : Char} {i j k l : Nat} {cs : List Char} {s : Spelling} :
      (a, i) ∈ hexValues → (b, j) ∈ hexValues → (c, k) ∈ hexValues → (d, l) ∈ hexValues →
      Characters cs s →
      Characters ('\\' :: 'u' :: a :: b :: c :: d :: cs)
        (.unit (.ofNat (((i * 16 + j) * 16 + k) * 16 + l)) :: s)

inductive Quoted : List Char → Spelling → Prop
  | mk {cs : List Char} {s : Spelling} : Characters cs s → Quoted ('"' :: cs ++ ['"']) s

section

variable {α : Type} (P : List Char → α → Prop)

inductive Spaced : List Char → α → Prop
  | mk {before cs after : List Char} {a : α} :
      Space before → P cs a → Space after → Spaced (before ++ cs ++ after) a

inductive Separated : List Char → List α → Prop
  | one {cs : List Char} {a : α} : P cs a → Separated cs [a]
  | more {cs rest : List Char} {a : α} {as : List α} :
      P cs a → Separated rest as → Separated (cs ++ ',' :: rest) (a :: as)

end

inductive Member (P : List Char → Json → Prop) : List Char → Spelling × Json → Prop
  | mk {cs rest : List Char} {key : Spelling} {v : Json} :
      Spaced Quoted cs key → Spaced P rest v → Member P (cs ++ ':' :: rest) (key, v)

inductive Value : List Char → Json → Prop
  | null : Value ['n', 'u', 'l', 'l'] null
  | true : Value ['t', 'r', 'u', 'e'] (bool true)
  | false : Value ['f', 'a', 'l', 's', 'e'] (bool false)
  | number {cs : List Char} : Number cs → Value cs (number cs)
  | string {cs : List Char} {s : Spelling} : Quoted cs s → Value cs (string s)
  | noItems {cs : List Char} : Space cs → Value ('[' :: cs ++ [']']) (array [])
  | array {cs : List Char} {vs : List Json} :
      Separated (Spaced Value) cs vs → Value ('[' :: cs ++ [']']) (array vs)
  | noMembers {cs : List Char} : Space cs → Value ('{' :: cs ++ ['}']) (object [])
  | object {cs : List Char} {ms : List (Spelling × Json)} :
      Separated (Member Value) cs ms → Value ('{' :: cs ++ ['}']) (object ms)

def Text (text : String) (v : Json) : Prop := Spaced Value text.toList v

theorem Text.exists_value {text : String} {v : Json} (h : Text text v) :
    ∃ before body after, Space before ∧ Value body v ∧ Space after ∧
      text.toList = before ++ body ++ after := by
  rw [Text] at h
  generalize text.toList = cs at h
  obtain ⟨hbefore, hv, hafter⟩ := h
  exact ⟨_, _, _, hbefore, hv, hafter, rfl⟩

/-- The characters that a spelled string stands for. No character is a surrogate, so a unit that is
one counts only in a pair of a high and a low one. -/
inductive Spelling.Denotes : Spelling → List Char → Prop
  | nil : Denotes [] []
  | char {c : Char} {s : Spelling} {cs : List Char} :
      Denotes s cs → Denotes (.char c :: s) (c :: cs)
  | unit {n : UInt16} {c : Char} {s : Spelling} {cs : List Char} :
      c.toNat = n.toNat → Denotes s cs → Denotes (.unit n :: s) (c :: cs)
  | pair {high low : UInt16} {c : Char} {s : Spelling} {cs : List Char} :
      0xD800 ≤ high.toNat → high.toNat < 0xDC00 → 0xDC00 ≤ low.toNat → low.toNat < 0xE000 →
      c.toNat = 0x10000 + (high.toNat - 0xD800) * 0x400 + (low.toNat - 0xDC00) →
      Denotes s cs → Denotes (.unit high :: .unit low :: s) (c :: cs)

/-- The members of an object, with the texts that their keys stand for. -/
inductive Keyed : List (Spelling × Json) → Members Json → Prop
  | nil : Keyed [] []
  | cons {key : Spelling} {name : String} {v : Json} {raw : List (Spelling × Json)}
      {ms : Members Json} :
      key.Denotes name.toList → Keyed raw ms → Keyed ((key, v) :: raw) ((name, v) :: ms)

def ObjectText (text : String) (ms : Members Json) : Prop :=
  ∃ raw, Text text (object raw) ∧ Keyed raw ms

def ArrayText (text : String) (items : List Json) : Prop := Text text (array items)

/-- What the documentation of a reader of JSON says of the texts that it takes for a record, and of
the values in them, each of which it keeps as a node of its own. A word has digits only. -/
structure IsDecoder {ν : Type} (J : Decoder ν) (node : Json → ν) : Prop where
  object {text : String} {ms : Members Json} : ObjectText text ms →
    J.shape? text = some (.members (ms.map fun m ↦ (m.1, node m.2)))
  array {text : String} {items : List Json} : ArrayText text items →
    J.shape? text = some (.items (items.map node))
  only {text : String} {shape : Shape ν} : J.shape? text = some shape →
    (∃ ms, ObjectText text ms) ∨ ∃ items, ArrayText text items
  text_iff {v : Json} {t : String} : J.text? (node v) = some t ↔
    ∃ s, v = .string s ∧ s.Denotes t.toList
  word_iff {v : Json} {n : UInt32} : J.word? (node v) = some n ↔
    ∃ ds, v = .number ds ∧ Digits ds ∧ Nat.ofDigitChars 10 ds 0 = n.toNat
  flag_iff {v : Json} {b : Bool} : J.flag? (node v) = some b ↔ v = .bool b

inductive Spells : Char → List Char → Prop
  | unescaped {c : Char} : ' ' ≤ c → c ≠ '"' → c ≠ '\\' → Spells c [c]
  | escaped {e c : Char} : (e, c) ∈ escapes → Spells c ['\\', e]
  | unit {a b c d x : Char} {i j k l : Nat} :
      (a, i) ∈ hexValues → (b, j) ∈ hexValues → (c, k) ∈ hexValues → (d, l) ∈ hexValues →
      x.toNat = ((i * 16 + j) * 16 + k) * 16 + l → Spells x ['\\', 'u', a, b, c, d]

/-- What the documentation of a writer of JSON says of the texts that it makes. Which characters of
a string it escapes, and how, is its own affair. -/
structure IsWriter (W : Writer) : Prop where
  text (t : String) : ∃ spelled, List.Forall₂ Spells t.toList spelled ∧
    W.setting (.text t) = .ofList ('"' :: spelled.flatten ++ ['"'])
  word (n : UInt32) : W.setting (.word n) = .ofList (Nat.toDigits 10 n.toNat)
  flag (b : Bool) : W.setting (.flag b) = if b then "true" else "false"
  record (es : List (String × Setting)) : W.record es =
    "\x7b" ++ ",".intercalate (es.map fun e ↦ W.setting (.text e.1) ++ ":" ++ W.setting e.2) ++
      "\x7d"

end TexelFormats.Json
