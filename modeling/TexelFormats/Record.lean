namespace TexelFormats

/-- A named value of a record. One with a default may be left out. -/
structure Field (κ σ : Type) where
  key : String
  kind : κ
  default? : Option σ := none

abbrev Members (ν : Type) := List (String × ν)

/-- What a text holds where a record is expected: values by name, or in the order of the fields. -/
inductive Shape (ν : Type) where
  | members (ms : Members ν)
  | items (vs : List ν)

section

variable {κ σ ν : Type}

def fieldFor? (fields : List (Field κ σ)) (key : String) : Option (Field κ σ) :=
  fields.find? fun f ↦ f.key = key

def note (found : String → Option σ) (key : String) (a : σ) : String → Option σ :=
  fun k ↦ if k = key then some a else found k

end

/-- The code that is derived from the fields of a record and gathers their values, in the order of
the fields, as a reader of some language hands them over. From `found` on it has still to meet the
members that are left. -/
structure Visitor where
  members {κ σ ν : Type} (read : κ → ν → Option σ) (fields : List (Field κ σ))
    (found : String → Option σ) (ms : Members ν) : Option (List σ)
  items {κ σ ν : Type} (read : κ → ν → Option σ) (fields : List (Field κ σ)) (vs : List ν) :
    Option (List σ)

namespace Visitor

variable {κ σ ν : Type} (read : κ → ν → Option σ)

def visit? (V : Visitor) (fields : List (Field κ σ)) : Shape ν → Option (List σ)
  | .members ms => V.members read fields (fun _ ↦ none) ms
  | .items vs => V.items read fields vs

def gather (fields : List (Field κ σ)) (found : String → Option σ) : Members ν → Option (List σ)
  | [] => fields.mapM fun f ↦ (found f.key).or f.default?
  | (key, v) :: ms =>
    match fieldFor? fields key with
    | none => gather fields found ms
    | some f =>
      if (found key).isSome then none
      else (read f.kind v).bind fun a ↦ gather fields (note found key a) ms

def lineUp : List (Field κ σ) → List ν → Option (List σ)
  | [], [] => some []
  | [], _ :: _ => none
  | f :: fields, [] => do
    let a ← f.default?
    let as ← lineUp fields []
    some (a :: as)
  | f :: fields, v :: vs => do
    let a ← read f.kind v
    let as ← lineUp fields vs
    some (a :: as)

def standard : Visitor := ⟨gather, lineUp⟩

end Visitor

inductive Kind where
  | text | word | flag

inductive Setting where
  | text (s : String)
  | word (n : UInt32)
  | flag (b : Bool)

/-- A reader of some data language: what a text holds where a record is expected, and its values as
far as they are of the kind that is asked for. -/
structure Decoder (ν : Type) where
  shape? : String → Option (Shape ν)
  text? : ν → Option String
  word? : ν → Option UInt32
  flag? : ν → Option Bool

def Decoder.setting? {ν : Type} (D : Decoder ν) : Kind → ν → Option Setting
  | .text, v => (D.text? v).map .text
  | .word, v => (D.word? v).map .word
  | .flag, v => (D.flag? v).map .flag

structure Writer where
  setting : Setting → String
  record : List (String × Setting) → String

end TexelFormats
