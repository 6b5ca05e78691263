import TexelFormats.Limits
import TexelFormats.Log

namespace TexelFormats

namespace HandleTypes

open Logged

def shareable : HandleTypes := {.opaqueFd, .dmaBuf}

def hostImport : ExternalMemory where
  features := {.importable}
  exportFromImported := ∅
  compatible := {.hostAllocation}

/-- Only the exact kinds are supported: a mask of several kinds is none of them. -/
def forImage (h : HandleTypes) (t : ImageType) : Logged Failure ExternalMemory :=
  let why := .handleNotSupported h t
  let refuse := do
    record (.handleRefused why)
    fail (.refused why)
  if h = {.opaqueFd} ∨ h = {.dmaBuf} then
    if t = .twoD then pure {
      features := {.dedicatedOnly, .exportable, .importable}
      exportFromImported := shareable
      compatible := shareable }
    else refuse
  else if h = {.hostAllocation} then pure hostImport
  else refuse

def forBuffer (h : HandleTypes) : ExternalMemory :=
  if h = {.opaqueFd} ∨ h = {.dmaBuf} then {
    features := {.exportable, .importable}
    exportFromImported := shareable
    compatible := shareable }
  else if h = {.hostAllocation} then hostImport
  else ∅

end HandleTypes

structure FilterCubic where
  supported : Bool
  minmax : Bool
  deriving DecidableEq

structure YcbcrConversion where
  descriptorCount : UInt32
  deriving DecidableEq

/-- The answer to an image query: limits always, and three slots that are open only on request. -/
structure Response where
  properties : Limits := .unsupported
  externalMemory : Option ExternalMemory := none
  filterCubic : Option FilterCubic := none
  ycbcrConversion : Option YcbcrConversion := none
  deriving DecidableEq

namespace Response

def openSlot (r : Response) : ImageOutput → Response
  | .externalMemory => { r with externalMemory := some ∅ }
  | .filterCubic => { r with filterCubic := some ⟨false, false⟩ }
  | .samplerYcbcrConversion => { r with ycbcrConversion := some ⟨0⟩ }

def withSlots (outputs : List ImageOutput) : Response := outputs.foldl openSlot {}

def isOpen (r : Response) : ImageOutput → Bool
  | .externalMemory => r.externalMemory.isSome
  | .filterCubic => r.filterCubic.isSome
  | .samplerYcbcrConversion => r.ycbcrConversion.isSome

theorem isOpen_openSlot {r : Response} {o p : ImageOutput} :
    (r.openSlot p).isOpen o = true ↔ o = p ∨ r.isOpen o = true := by
  cases o <;> cases p <;> simp [openSlot, isOpen]

theorem isOpen_withSlots {os : List ImageOutput} {o : ImageOutput} :
    (withSlots os).isOpen o = true ↔ o ∈ os := by
  suffices ∀ r : Response, (os.foldl openSlot r).isOpen o = true ↔ o ∈ os ∨ r.isOpen o = true by
    rw [withSlots, this]
    cases o <;> simp [isOpen]
  induction os with
  | nil => simp
  | cons p os ih =>
    intro r
    rw [List.foldl_cons, ih, isOpen_openSlot, List.mem_cons]
    exact or_left_comm.trans or_assoc.symm

end Response

/-- Where a computation that answers a query ends, well or badly: the records it has left, the
response as far as it has been written, and how it came out. -/
structure Progress (ε α : Type) where
  log : List Event
  response : Response
  result : Except ε α

/-- A computation that writes a response as it goes. A failure takes back nothing that has been
written. -/
structure Answering (ε α : Type) where
  run : Response → Progress ε α

namespace Answering

variable {ε α β : Type}

def bind (x : Answering ε α) (f : α → Answering ε β) : Answering ε β where
  run r :=
    let done := x.run r
    match done.result with
    | .ok a =>
      let rest := (f a).run done.response
      ⟨done.log ++ rest.log, rest.response, rest.result⟩
    | .error e => ⟨done.log, done.response, .error e⟩

instance : Monad (Answering ε) where
  pure a := ⟨fun r ↦ ⟨[], r, .ok a⟩⟩
  bind := bind

def lift (x : Logged ε α) : Answering ε α := ⟨fun r ↦ ⟨x.log, r, x.result⟩⟩

instance : MonadStateOf Response (Answering ε) where
  get := ⟨fun r ↦ ⟨[], r, .ok r⟩⟩
  set r := ⟨fun _ ↦ ⟨[], r, .ok ()⟩⟩
  modifyGet f := ⟨fun r ↦ ⟨[], (f r).2, .ok (f r).1⟩⟩

variable {x : Answering ε α} {f : α → Answering ε β} {r s : Response} {es : List Event} {a : α}
  {e : ε}

@[simp]
theorem run_lift (x : Logged ε α) (r : Response) : (lift x).run r = ⟨x.log, r, x.result⟩ := rfl

@[simp]
theorem run_get (r : Response) : (get : Answering ε Response).run r = ⟨[], r, .ok r⟩ := rfl

@[simp]
theorem run_modify (f : Response → Response) (r : Response) :
    (modify f : Answering ε Unit).run r = ⟨[], f r, .ok ()⟩ := rfl

theorem run_bind_ok (h : x.run r = ⟨es, s, .ok a⟩) :
    (x >>= f).run r = ⟨es ++ ((f a).run s).log, ((f a).run s).response, ((f a).run s).result⟩ := by
  change (bind x f).run r = _
  simp [bind, h]

theorem run_bind_error (h : x.run r = ⟨es, s, .error e⟩) :
    (x >>= f).run r = ⟨es, s, .error e⟩ := by
  change (bind x f).run r = _
  simp [bind, h]

end Answering

namespace ImageQuery

open Answering Logged

def write (q : ImageQuery) (features : FeatureSet) (external : Option ExternalMemory) :
    ImageOutput → Answering Failure Unit
  | .externalMemory => modify fun r ↦ { r with externalMemory := some (external.getD ∅) }
  | .filterCubic =>
    match q.viewType with
    | none => lift (fail (.violated .missingViewType))
    | some view =>
      let works := (view = .twoD || view = .twoDArray) && .sampledImageFilterCubic ∈ features
      modify fun r ↦ { r with filterCubic := some ⟨works, works⟩ }
  | .samplerYcbcrConversion => modify fun r ↦ { r with ycbcrConversion := some ⟨1⟩ }

def writeRequested (q : ImageQuery) (features : FeatureSet) (external : Option ExternalMemory)
    (o : ImageOutput) : Answering Failure Unit := do
  let r ← get
  if r.isOpen o then
    lift (record (.writing o q.format))
    q.write features external o

def fill (q : ImageQuery) (features : FeatureSet) (external : Option ExternalMemory) :
    Answering Failure Unit :=
  forM [.externalMemory, .filterCubic, .samplerYcbcrConversion]
    (q.writeRequested features external)

end ImageQuery

end TexelFormats
