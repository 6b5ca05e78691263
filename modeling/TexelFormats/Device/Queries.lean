import TexelFormats.Response

namespace TexelFormats

/-- What a query leaves in the response, and the refusal if there was one. -/
structure Reply where
  response : Response
  refusal : Option Refusal
  deriving DecidableEq

inductive FormatOutput where
  | properties3 | modifierList
  deriving DecidableEq

structure FormatProperties where
  legacy : Features
  full : Option Features
  modifiers : Option (List ModifierProperties)
  deriving DecidableEq

/-- A refusal zeroes the limits, and nothing else of what has been written. -/
def Progress.settled : Progress Failure Unit → Progress Violation (Option Refusal)
  | ⟨log, response, .ok ()⟩ => ⟨log, response, .ok none⟩
  | ⟨log, response, .error (.refused why)⟩ =>
    ⟨log, { response with properties := .unsupported }, .ok (some why)⟩
  | ⟨log, response, .error (.violated how)⟩ => ⟨log, response, .error how⟩

namespace Device

open Answering Logged

def opened {ε : Type} (d : Device) : Logged ε Unit := record (.opened d)

/-- An optimal image can be shared only if it is tiled and compressed. -/
def modifiers (d : Device) (f : Format) : List ModifierProperties :=
  let all := d.features f
  let linear := if all.linear = ∅ then [] else [⟨.linear, f.planeCount, all.linear⟩]
  let compressed :=
    if all.optimal ≠ ∅ ∧ f.canBeTiled ∧ d.compresses { format := f } then
      [⟨.compressed, f.planeCount, all.optimal⟩]
    else []
  linear ++ compressed

def queryFormat (d : Device) (f : Format) (requested : List FormatOutput) :
    Logged Empty FormatProperties := do
  records (d.featureEvents f)
  let all := d.features f
  pure {
    legacy := all.legacy
    full := if .properties3 ∈ requested then some all else none
    modifiers := if .modifierList ∈ requested then some (d.modifiers f) else none }

theorem value_queryFormat (d : Device) (f : Format) (os : List FormatOutput) :
    (d.queryFormat f os).value = {
      legacy := (d.features f).legacy
      full := if .properties3 ∈ os then some (d.features f) else none
      modifiers := if .modifierList ∈ os then some (d.modifiers f) else none } := rfl

def externalFor (q : ImageQuery) : Logged Failure (Option ExternalMemory) :=
  match q.namedHandleTypes with
  | none => pure none
  | some h => do
    let external ← h.forImage q.imageType
    pure (some external)

/-- The limits are written before the kind of handle is looked at. -/
def answerImage (d : Device) (q : ImageQuery) : Answering Failure Unit := do
  let support ← lift (d.support q)
  modify fun r ↦ { r with properties := support.limits }
  let external ← lift (externalFor q)
  q.fill support.features external

def replyImage (d : Device) (q : ImageQuery) : Answering Violation (Option Refusal) where
  run r := ((d.answerImage q).run r).settled

def queryImage (d : Device) (q : ImageQuery) (r : Response) : Logged Violation Reply :=
  let done := (d.replyImage q).run r
  ⟨done.log, done.result.map fun refusal ↦ ⟨done.response, refusal⟩⟩

def queryExternalBuffer (_ : Device) (h : HandleTypes) : ExternalMemory := h.forBuffer

structure SparseProperties where
  granularity : Extent
  flags : UInt32

def querySparse (_ : Device) (_ : SparseQuery) : List SparseProperties := []

end Device

end TexelFormats
