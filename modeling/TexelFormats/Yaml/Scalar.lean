import TexelFormats.Text

namespace TexelFormats.Yaml

def isAllowed (c : Char) : Bool :=
  c = '\t' || c = '\n' || c = '\r' || ' ' ≤ c && c ≤ '~' || c = '\u0085' ||
    '\u00a0' ≤ c && c ≠ '\ufffe' && c ≠ '\uffff'

def unifyBreaks : List Char → List Char
  | '\r' :: '\n' :: rest | '\r' :: rest | '\u0085' :: rest => '\n' :: unifyBreaks rest
  | c :: rest => c :: unifyBreaks rest
  | [] => []

def isBlank (c : Char) : Bool := c = ' ' || c = '\t'

def isBreak (c : Char) : Bool := c = '\n' || c = '\u2028' || c = '\u2029'

def isGap (c : Char) : Bool := isBlank c || isBreak c

def startsGap : List Char → Bool
  | [] => true
  | c :: _ => isGap c

def startsMarker (c : Char) : List Char → Bool
  | c₀ :: c₁ :: c₂ :: rest => c₀ = c && c₁ = c && c₂ = c && startsGap rest
  | _ => false

def startsAnyMarker (cs : List Char) : Bool := startsMarker '-' cs || startsMarker '.' cs

/-- The blanks and breaks since the last character of another kind inside a scalar. -/
structure Gap where
  chars : List Char
  isJoint : Bool

namespace Gap

def empty : Gap := ⟨[], false⟩

def joint : Gap := ⟨[], true⟩

def push (g : Gap) (c : Char) : Gap := { g with chars := g.chars ++ [c] }

/-- What a scalar shows for a gap. Blanks beside a break are lost. A line feed stands for a space if
no other break follows it, and for nothing otherwise. -/
def text (g : Gap) : List Char :=
  match g.isJoint, g.chars.filter isBreak with
  | false, [] => g.chars
  | false, ['\n'] => [' ']
  | false, '\n' :: breaks => breaks
  | _, breaks => breaks

def endsLine (g : Gap) : Bool :=
  match g.chars.getLast? with
  | none => g.isJoint
  | some c => isBreak c

end Gap

def startsPlain (inBraces : Bool) : List Char → Bool
  | [] => false
  | '-' :: rest => !startsGap rest
  | c :: rest =>
    if c = '?' ∨ c = ':' then !inBraces && !startsGap rest
    else !isGap c && c ∉ [',', '[', ']', '{', '}', '#', '&', '*', '!', '|', '>', '\'', '"', '%',
      '@', '\x60']

def endsInBraces (c : Char) : Bool := c ∈ [',', '[', ']', '{', '}']

def isColonAstray : List Char → Bool
  | ':' :: c :: _ => endsInBraces c || c = '?'
  | _ => false

/-- A scalar without quotes and what follows it and the gap after it. It goes on from line to line
as long as the lines are indented, and ends at a colon that separates, a comment, a document's
beginning or end or, inside braces, a delimiter. A tab may not stand for indentation. -/
def plain (inBraces : Bool) (indentation column : Nat) (gap : Gap) :
    List Char → Option (List Char × List Char)
  | [] => some ([], [])
  | c :: rest =>
    if isBreak c then plain inBraces indentation 0 (gap.push c) rest
    else if c = '\t' ∧ gap.chars.any isBreak ∧ column < indentation then none
    else if isBlank c then plain inBraces indentation (column + 1) (gap.push c) rest
    else if gap.chars ≠ [] ∧
        (c = '#' ∨ column < indentation ∨ gap.endsLine ∧ startsAnyMarker (c :: rest)) ∨
        c = ':' ∧ startsGap rest ∨ inBraces ∧ endsInBraces c then some ([], c :: rest)
    else if inBraces ∧ isColonAstray (c :: rest) then none
    else
      (plain inBraces indentation (column + 1) .empty rest).map
        fun (cs, rest) ↦ (gap.text ++ c :: cs, rest)

def singleQuoted (gap : Gap) : List Char → Option (List Char × List Char)
  | [] => none
  | c :: rest =>
    if isGap c then singleQuoted (gap.push c) rest
    else if gap.endsLine ∧ startsAnyMarker (c :: rest) then none
    else match c, rest with
      | '\'', '\'' :: rest =>
        (singleQuoted .empty rest).map fun (cs, rest) ↦ (gap.text ++ '\'' :: cs, rest)
      | '\'', rest => some (gap.text, rest)
      | c, rest => (singleQuoted .empty rest).map fun (cs, rest) ↦ (gap.text ++ c :: cs, rest)

def unescape? : Char → Option Char
  | '0' => some '\x00'
  | 'a' => some '\x07'
  | 'b' => some '\x08'
  | 't' | '\t' => some '\t'
  | 'n' => some '\n'
  | 'v' => some '\x0b'
  | 'f' => some '\x0c'
  | 'r' => some '\r'
  | 'e' => some '\x1b'
  | ' ' => some ' '
  | '"' => some '"'
  | '/' => some '/'
  | '\\' => some '\\'
  | 'N' => some '\u0085'
  | '_' => some '\u00a0'
  | 'L' => some '\u2028'
  | 'P' => some '\u2029'
  | _ => none

def doubleQuoted (gap : Gap) : List Char → Option (List Char × List Char)
  | [] => none
  | '"' :: rest => some (gap.text, rest)
  | '\\' :: 'x' :: a :: b :: rest => do
    let c ← (number? 16 [a, b]).bind character?
    let (cs, rest) ← doubleQuoted .empty rest
    some (gap.text ++ c :: cs, rest)
  | '\\' :: 'u' :: a :: b :: c :: d :: rest => do
    let c ← (number? 16 [a, b, c, d]).bind character?
    let (cs, rest) ← doubleQuoted .empty rest
    some (gap.text ++ c :: cs, rest)
  | '\\' :: 'U' :: a :: b :: c :: d :: e :: f :: g :: h :: rest => do
    let c ← (number? 16 [a, b, c, d, e, f, g, h]).bind character?
    let (cs, rest) ← doubleQuoted .empty rest
    some (gap.text ++ c :: cs, rest)
  | '\\' :: e :: rest => do
    if isBreak e then
      let (cs, rest) ← doubleQuoted .joint rest
      some (gap.text ++ cs, rest)
    else
      let c ← unescape? e
      let (cs, rest) ← doubleQuoted .empty rest
      some (gap.text ++ c :: cs, rest)
  | c :: rest =>
    if isGap c then doubleQuoted (gap.push c) rest
    else if gap.endsLine ∧ startsAnyMarker (c :: rest) then none
    else (doubleQuoted .empty rest).map fun (cs, rest) ↦ (gap.text ++ c :: cs, rest)

end TexelFormats.Yaml
