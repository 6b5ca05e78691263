import TexelFormats.Record
import TexelFormats.Yaml.Scalar

namespace TexelFormats.Yaml

/-- A place in a text. What stands before it is kept from its end to its beginning. -/
structure Cursor where
  before : List Char
  after : List Char

def byteOrderMark : Char := '\ufeff'

namespace Cursor

def atStart (cs : List Char) : Cursor := ⟨[], cs⟩

def moveTo (s : Cursor) (rest : List Char) : Cursor :=
  ⟨(s.after.take (s.after.length - rest.length)).reverse ++ s.before, rest⟩

theorem moveTo_of_after_eq {s : Cursor} {cs rest : List Char} (h : s.after = cs ++ rest) :
    s.moveTo rest = ⟨cs.reverse ++ s.before, rest⟩ := by
  simp [moveTo, h]

def lineBefore (s : Cursor) : List Char := s.before.takeWhile (!isBreak ·)

def column (s : Cursor) : Nat := s.lineBefore.length

def line (s : Cursor) : Nat := s.before.countP isBreak

def offset (s : Cursor) : Nat := s.before.foldr (fun c n ↦ c.utf8Size + n) 0

def opensLine (s : Cursor) : Bool := s.lineBefore.all fun c ↦ isBlank c || c = byteOrderMark

def isAtMarker (c : Char) (s : Cursor) : Bool := s.column = 0 && startsMarker c s.after

def isAtAnyMarker (s : Cursor) : Bool := s.column = 0 && startsAnyMarker s.after

def skipFrom (inBraces inComment : Bool) (before : List Char) : List Char → Cursor
  | [] => ⟨before, []⟩
  | c :: rest =>
    let s : Cursor := ⟨before, c :: rest⟩
    if isBreak c then skipFrom inBraces false (c :: before) rest
    else if inComment ∨ c = '#' then skipFrom inBraces true (c :: before) rest
    else if c = ' ' ∨ c = '\t' ∧ (inBraces ∨ ¬ s.opensLine) ∨ c = byteOrderMark ∧ s.column = 0 then
      skipFrom inBraces false (c :: before) rest
    else s

/-- Passes over blanks, breaks and comments. Outside braces a tab cannot indent. -/
def skip (inBraces : Bool) (s : Cursor) : Cursor := skipFrom inBraces false s.before s.after

end Cursor

/-- A value that is one text. Only what stands without quotes can be more than a text. -/
structure Scalar where
  text : String
  plain : Bool
  deriving DecidableEq

def unsigned? : List Char → Option Nat
  | '0' :: 'x' :: digits => number? 16 digits
  | '0' :: 'o' :: digits => number? 8 digits
  | '0' :: 'b' :: digits => number? 2 digits
  | ['0'] => some 0
  | '0' :: _ => none
  | digits => number? 10 digits

namespace Scalar

def empty : Scalar := ⟨"", true⟩

def ofPlain (cs : List Char) : Scalar := ⟨String.ofList cs, true⟩

def ofQuoted (cs : List Char) : Scalar := ⟨String.ofList cs, false⟩

def read? (inBraces : Bool) (indentation : Nat) (s : Cursor) : Option (Scalar × Cursor) :=
  if s.isAtAnyMarker then none
  else match s.after with
    | '"' :: rest =>
      (doubleQuoted .empty rest).map fun (cs, rest) ↦ (ofQuoted cs, s.moveTo rest)
    | '\'' :: rest =>
      (singleQuoted .empty rest).map fun (cs, rest) ↦ (ofQuoted cs, s.moveTo rest)
    | rest =>
      if startsPlain inBraces rest then
        (Yaml.plain inBraces indentation s.column .empty rest).map
          fun (cs, rest) ↦ (ofPlain cs, s.moveTo rest)
      else none

def word? (s : Scalar) : Option UInt32 :=
  if s.plain then
    let digits := match s.text.toList with
      | '+' :: digits => digits
      | digits => digits
    (unsigned? digits).bind toWord?
  else none

def flag? (s : Scalar) : Option Bool :=
  if s.plain then
    if s.text ∈ ["true", "True", "TRUE"] then some true
    else if s.text ∈ ["false", "False", "FALSE"] then some false
    else none
  else none

end Scalar

def maxKeySize : Nat := 1024

def reachesColon (key colon : Cursor) : Bool :=
  key.line = colon.line && colon.offset ≤ key.offset + maxKeySize

def blockEntry? (depth : Nat) (s : Cursor) : Option ((String × Scalar) × Cursor) := do
  let (key, t) ← Scalar.read? false (depth + 1) s
  let t := t.skip false
  match t.after with
  | ':' :: rest =>
    if startsGap rest ∧ reachesColon s t then
      let t := (t.moveTo rest).skip false
      if t.after = [] ∨ t.column ≤ depth then some ((key.text, .empty), t)
      else do
        let (value, t) ← Scalar.read? false (depth + 1) t
        some ((key.text, value), t.skip false)
    else none
  | _ => none

/-- Every entry begins a line, and all are indented alike. Each costs one unit of fuel. -/
def blockEntries? (depth : Nat) : Nat → Cursor → Option (Members Scalar × Cursor)
  | 0, _ => none
  | fuel + 1, s => do
    let (entry, t) ← blockEntry? depth s
    if t.after ≠ [] ∧ t.opensLine ∧ t.column = depth ∧ ¬ t.isAtAnyMarker then
      let (entries, t) ← blockEntries? depth fuel t
      some (entry :: entries, t)
    else some ([entry], t)

def endsKeyInBraces : List Char → Bool
  | ':' :: _ | ',' :: _ | '}' :: _ => true
  | _ => false

def flowKey? (s : Cursor) : Option (Scalar × Cursor) :=
  match s.after with
  | '?' :: rest =>
    let s := (s.moveTo rest).skip true
    if endsKeyInBraces s.after then some (.empty, s)
    else (Scalar.read? true 0 s).map fun (key, t) ↦ (key, t.skip true)
  | _ => do
    let (key, t) ← Scalar.read? true 0 s
    let t := t.skip true
    if t.after.head? = some ':' ∧ ¬ reachesColon s t then none else some (key, t)

def flowEntry? (s : Cursor) : Option ((String × Scalar) × Cursor) := do
  let (key, t) ← flowKey? s
  match t.after with
  | ':' :: rest =>
    let t := (t.moveTo rest).skip true
    match t.after with
    | ',' :: _ | '}' :: _ => some ((key.text, .empty), t)
    | _ => do
      let (value, t) ← Scalar.read? true 0 t
      some ((key.text, value), t.skip true)
  | _ => some ((key.text, .empty), t)

def flowEntries? : Nat → Cursor → Option (Members Scalar × Cursor)
  | 0, _ => none
  | fuel + 1, s =>
    let s := s.skip true
    match s.after with
    | '}' :: rest => some ([], s.moveTo rest)
    | _ => do
      let (entry, t) ← flowEntry? s
      match t.after with
      | ',' :: rest =>
        let (entries, t) ← flowEntries? fuel (t.moveTo rest)
        some (entry :: entries, t)
      | '}' :: rest => some ([entry], t.moveTo rest)
      | _ => none

def root? (s : Cursor) : Option (Members Scalar × Cursor) :=
  let fuel := s.after.length + 1
  match s.after with
  | '{' :: rest => (flowEntries? fuel (s.moveTo rest)).map fun (ms, t) ↦ (ms, t.skip false)
  | _ => if s.opensLine then blockEntries? s.column fuel s else none

def isOver : Nat → Cursor → Bool
  | 0, _ => false
  | fuel + 1, s =>
    s.after = [] || s.isAtMarker '.' && isOver fuel ((s.moveTo (s.after.drop 3)).skip false)

def opening (s : Cursor) : Cursor :=
  let s := s.skip false
  if s.isAtMarker '-' then (s.moveTo (s.after.drop 3)).skip false else s

/-- Reads a small part of YAML: one mapping from scalars to scalars, either with a line for each
entry or in braces. -/
def mapping? (text : String) : Option (Members Scalar) :=
  if text.toList.all isAllowed then do
    let (ms, t) ← root? (opening (.atStart (unifyBreaks text.toList)))
    if isOver (t.after.length + 1) t then some ms else none
  else none

def decoder : Decoder Scalar where
  shape? text := (mapping? text).map .members
  text? s := some s.text
  word? := Scalar.word?
  flag? := Scalar.flag?

end TexelFormats.Yaml
