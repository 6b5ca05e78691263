import TexelFormats.Record
import TexelFormats.Text

namespace TexelFormats

namespace Json

/-- A piece of a written string: a character, or a unit of 16 bits given by number. -/
inductive Piece where
  | char (c : Char)
  | unit (n : UInt16)
  deriving DecidableEq

/-- What a string spells before its surrogates are paired. -/
abbrev Spelling := List Piece

end Json

/-- A value of the JSON data format, with its numbers and strings as they are spelled. -/
inductive Json where
  | null
  | bool (b : Bool)
  | number (literal : List Char)
  | string (s : Json.Spelling)
  | array (items : List Json)
  | object (members : List (Json.Spelling × Json))

namespace Json

namespace Spelling

/-- The characters that a string stands for. Two surrogates count only as a pair. -/
def characters? : Spelling → Option (List Char)
  | [] => some []
  | .char c :: rest => (characters? rest).map (c :: ·)
  | .unit n :: rest =>
    if 0xD800 ≤ n ∧ n ≤ 0xDBFF then
      match rest with
      | .unit m :: rest =>
        if 0xDC00 ≤ m ∧ m ≤ 0xDFFF then
          let point := 0x10000 + (n.toNat - 0xD800) * 0x400 + (m.toNat - 0xDC00)
          (characters? rest).map (Char.ofNat point :: ·)
        else none
      | _ => none
    else if 0xDC00 ≤ n ∧ n ≤ 0xDFFF then none
    else (characters? rest).map (Char.ofNat n.toNat :: ·)

def text? (s : Spelling) : Option String := (characters? s).map String.ofList

def ofText (s : String) : Spelling := s.toList.map .char

end Spelling

def ofText (s : String) : Json := string (.ofText s)

def ofNat (n : Nat) : Json := number (Nat.toDigits 10 n)

def ofRecord (members : List (String × Json)) : Json :=
  object (members.map fun m ↦ (.ofText m.1, m.2))

def nat? : Json → Option Nat
  | number literal => number? 10 literal
  | _ => none

def text? : Json → Option String
  | string s => s.text?
  | _ => none

def bool? : Json → Option Bool
  | bool b => some b
  | _ => none

def named? : Spelling × Json → Option (String × Json)
  | (key, v) => key.text?.map fun key ↦ (key, v)

def shape? : Json → Option (Shape Json)
  | object ms => (ms.mapM named?).map .members
  | array items => some (.items items)
  | _ => none

def hexDigits (width n : Nat) : List Char :=
  let digits := Nat.toDigits 16 n
  List.replicate (width - digits.length) '0' ++ digits

/-- Quotes, backslashes and control characters are escaped, by a letter where there is one. -/
def Piece.print : Piece → List Char
  | .unit n => '\\' :: 'u' :: hexDigits 4 n.toNat
  | .char c =>
    if c = '"' then ['\\', '"']
    else if c = '\\' then ['\\', '\\']
    else if c = '\x08' then ['\\', 'b']
    else if c = '\x0c' then ['\\', 'f']
    else if c = '\n' then ['\\', 'n']
    else if c = '\r' then ['\\', 'r']
    else if c = '\t' then ['\\', 't']
    else if c < ' ' then '\\' :: 'u' :: hexDigits 4 c.toNat
    else [c]

def Spelling.print (s : Spelling) : List Char := '"' :: s.flatMap Piece.print ++ ['"']

mutual

def print : Json → List Char
  | null => "null".toList
  | bool true => "true".toList
  | bool false => "false".toList
  | number literal => literal
  | string s => s.print
  | array items => '[' :: printItems items ++ [']']
  | object members => '{' :: printMembers members ++ ['}']

def printItems : List Json → List Char
  | [] => []
  | [v] => print v
  | v :: vs => print v ++ ',' :: printItems vs

def printMembers : List (Spelling × Json) → List Char
  | [] => []
  | [(k, v)] => k.print ++ ':' :: print v
  | (k, v) :: ms => k.print ++ ':' :: print v ++ ',' :: printMembers ms

end

def render (v : Json) : String := String.ofList v.print

def ofSetting : Setting → Json
  | .text s => ofText s
  | .word n => ofNat n.toNat
  | .flag b => bool b

def writer : Writer where
  setting s := (ofSetting s).render
  record es := (ofRecord (es.map fun e ↦ (e.1, ofSetting e.2))).render

end Json

end TexelFormats
