import TexelFormats.Json.Basic

namespace TexelFormats.Json

/-- Reads something off the front and leaves the rest. -/
abbrev Reader (α : Type) := List Char → Option (α × List Char)

def isSpace (c : Char) : Bool := c = ' ' || c = '\t' || c = '\n' || c = '\r'

def skipSpace (cs : List Char) : List Char := cs.dropWhile isSpace

def unescape? : Char → Option Char
  | '"' => some '"'
  | '\\' => some '\\'
  | '/' => some '/'
  | 'b' => some '\x08'
  | 'f' => some '\x0c'
  | 'n' => some '\n'
  | 'r' => some '\r'
  | 't' => some '\t'
  | _ => none

def spelling : Reader Spelling
  | [] => none
  | '"' :: rest => some ([], rest)
  | '\\' :: 'u' :: a :: b :: c :: d :: rest => do
    let n ← number? 16 [a, b, c, d]
    let (s, rest) ← spelling rest
    some (.unit (UInt16.ofNat n) :: s, rest)
  | '\\' :: e :: rest => do
    let c ← unescape? e
    let (s, rest) ← spelling rest
    some (.char c :: s, rest)
  | c :: rest =>
    if c < ' ' then none
    else do
      let (s, rest) ← spelling rest
      some (.char c :: s, rest)

def digits (cs : List Char) : List Char × List Char := cs.span Char.isDigit

def digits1 : Reader (List Char) := fun cs ↦
  match digits cs with
  | ([], _) => none
  | (ds, rest) => some (ds, rest)

def wholePart : Reader (List Char)
  | '0' :: rest => some (['0'], rest)
  | cs => digits1 cs

def fractionPart : Reader (List Char)
  | '.' :: rest => (digits1 rest).map fun (ds, rest) ↦ ('.' :: ds, rest)
  | cs => some ([], cs)

def exponentPart : Reader (List Char)
  | e :: sign :: rest =>
    if e = 'e' ∨ e = 'E' then
      if sign = '+' ∨ sign = '-' then
        (digits1 rest).map fun (ds, rest) ↦ (e :: sign :: ds, rest)
      else (digits1 (sign :: rest)).map fun (ds, rest) ↦ (e :: ds, rest)
    else some ([], e :: sign :: rest)
  | ['e'] | ['E'] => none
  | cs => some ([], cs)

def unsignedLiteral : Reader (List Char) := fun cs ↦ do
  let (whole, rest) ← wholePart cs
  let (fraction, rest) ← fractionPart rest
  let (exponent, rest) ← exponentPart rest
  some (whole ++ fraction ++ exponent, rest)

def literal : Reader (List Char)
  | '-' :: rest => (unsignedLiteral rest).map fun (ds, rest) ↦ ('-' :: ds, rest)
  | cs => unsignedLiteral cs

/-- One thing or more with commas between them, up to and with the closing character. Each comma
costs one unit of fuel. -/
def separated {α : Type} (item : Reader α) (close : Char) : Nat → Reader (List α)
  | 0, _ => none
  | fuel + 1, cs => do
    let (a, rest) ← item cs
    match skipSpace rest with
    | [] => none
    | c :: rest =>
      if c = close then some ([a], rest)
      else if c = ',' then do
        let (as, rest) ← separated item close fuel rest
        some (a :: as, rest)
      else none

def enclosed {α : Type} (item : Reader α) (close : Char) (fuel : Nat) : Reader (List α) := fun cs ↦
  match skipSpace cs with
  | [] => none
  | c :: rest => if c = close then some ([], rest) else separated item close fuel cs

def member (value : Reader Json) : Reader (Spelling × Json) := fun cs ↦
  match skipSpace cs with
  | '"' :: rest => do
    let (key, rest) ← spelling rest
    match skipSpace rest with
    | ':' :: rest => do
      let (v, rest) ← value rest
      some ((key, v), rest)
    | _ => none
  | _ => none

def value : Nat → Reader Json
  | 0, _ => none
  | fuel + 1, cs =>
    match skipSpace cs with
    | '{' :: rest => (enclosed (member (value fuel)) '}' fuel rest).map fun (ms, rest) ↦
        (object ms, rest)
    | '[' :: rest => (enclosed (value fuel) ']' fuel rest).map fun (vs, rest) ↦ (array vs, rest)
    | '"' :: rest => (spelling rest).map fun (s, rest) ↦ (string s, rest)
    | 'n' :: 'u' :: 'l' :: 'l' :: rest => some (null, rest)
    | 't' :: 'r' :: 'u' :: 'e' :: rest => some (bool true, rest)
    | 'f' :: 'a' :: 'l' :: 's' :: 'e' :: rest => some (bool false, rest)
    | cs => (literal cs).map fun (ds, rest) ↦ (number ds, rest)

/-- A text that is one value with nothing but space around it. No value nests deeper, and no list
has more items, than its text has characters. -/
def read? (text : String) : Option Json :=
  match value (text.toList.length + 1) text.toList with
  | some (v, rest) => if skipSpace rest = [] then some v else none
  | none => none

def decoder : Decoder Json where
  shape? text := (read? text).bind shape?
  text? := text?
  word? v := v.nat?.bind toWord?
  flag? := bool?

end TexelFormats.Json
