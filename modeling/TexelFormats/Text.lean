namespace TexelFormats

def nameOrNumber (names : List (Int32 × String)) (n : Int32) : String :=
  (names.lookup n).getD (toString n.toInt)

/-- The characters with the Unicode property White_Space. -/
def blanks : List Char := ['\t', '\n', '\x0b', '\x0c', '\r', ' ', '\u0085', '\u00a0', '\u1680',
  '\u2000', '\u2001', '\u2002', '\u2003', '\u2004', '\u2005', '\u2006', '\u2007', '\u2008',
  '\u2009', '\u200a', '\u2028', '\u2029', '\u202f', '\u205f', '\u3000']

def isBlank (c : Char) : Bool := c ∈ blanks

def trim (cs : List Char) : List Char :=
  ((cs.dropWhile isBlank).reverse.dropWhile isBlank).reverse

def digitValue? (c : Char) : Option Nat :=
  if c.isDigit then some (c.toNat - '0'.toNat)
  else if 'a' ≤ c ∧ c ≤ 'z' then some (c.toNat - 'a'.toNat + 10)
  else if 'A' ≤ c ∧ c ≤ 'Z' then some (c.toNat - 'A'.toNat + 10)
  else none

def numberFrom? (base : Nat) (n : Nat) : List Char → Option Nat
  | [] => some n
  | c :: cs =>
    match digitValue? c with
    | none => none
    | some d => if d < base then numberFrom? base (n * base + d) cs else none

def number? (base : Nat) (cs : List Char) : Option Nat :=
  if cs = [] then none else numberFrom? base 0 cs

def toWord? (n : Nat) : Option UInt32 := if n < UInt32.size then some (UInt32.ofNat n) else none

def character? (n : Nat) : Option Char := if n.isValidChar then some (Char.ofNat n) else none

end TexelFormats
