import TexelFormats.Features
import TexelFormats.Flags
import TexelFormats.Format
import TexelFormats.Image

namespace TexelFormats

inductive HandleType where
  | opaqueFd | opaqueWin32 | hostAllocation | hostMappedForeignMemory | dmaBuf
  deriving DecidableEq

namespace HandleType

def bit : HandleType → Fin 32
  | opaqueFd => 0
  | opaqueWin32 => 1
  | hostAllocation => 7
  | hostMappedForeignMemory => 8
  | dmaBuf => 9

instance : Flag HandleType 32 where
  bit := bit
  all := [opaqueFd, opaqueWin32, hostAllocation, hostMappedForeignMemory, dmaBuf]
  find_bit := by intro i; cases i <;> rfl

end HandleType

abbrev HandleTypes := FlagSet HandleType 32

inductive MemoryFeature where
  | dedicatedOnly | exportable | importable
  deriving DecidableEq

namespace MemoryFeature

def bit : MemoryFeature → Fin 32
  | dedicatedOnly => 0
  | exportable => 1
  | importable => 2

instance : Flag MemoryFeature 32 where
  bit := bit
  all := [dedicatedOnly, exportable, importable]
  find_bit := by intro i; cases i <;> rfl

end MemoryFeature

abbrev MemoryFeatures := FlagSet MemoryFeature 32

/-- How memory behind a kind of handle can be used. -/
structure ExternalMemory where
  features : MemoryFeatures
  exportFromImported : HandleTypes
  compatible : HandleTypes
  deriving DecidableEq

instance : EmptyCollection ExternalMemory := ⟨⟨∅, ∅, ∅⟩⟩

/-- The number by which drivers agree on an exact arrangement of an image's memory. -/
structure Modifier where
  raw : UInt64
  deriving DecidableEq

namespace Modifier

def linear : Modifier := ⟨0⟩

def compressed : Modifier := ⟨0x0500000000000001⟩

end Modifier

structure ModifierProperties where
  modifier : Modifier
  planeCount : UInt32
  features : FeatureSet
  deriving DecidableEq

def ModifierProperties.legacy (p : ModifierProperties) : ModifierProperties :=
  { p with features := p.features.legacy }

/-- An image that someone would like to create. -/
structure ImageQuery where
  format : Format := .undefined
  imageType : ImageType := .twoD
  tiling : Tiling := .optimal
  usage : UsageSet := ∅
  flags : CreateFlags := ∅
  stencilUsage : Option UsageSet := none
  modifier : Option Modifier := none
  handleTypes : Option HandleTypes := none
  viewType : Option ViewType := none

namespace ImageQuery

def actualStencilUsage (q : ImageQuery) : UsageSet := q.stencilUsage.getD q.usage

/-- Naming no kind of handle is the same as giving none. -/
def namedHandleTypes (q : ImageQuery) : Option HandleTypes := q.handleTypes.filter (· ≠ ∅)

end ImageQuery

structure SparseQuery where
  format : Format
  imageType : ImageType
  samples : SampleCounts
  usage : UsageSet
  tiling : Tiling

def hexadecimal (n : Nat) : String := "0x" ++ String.ofList (Nat.toDigits 16 n)

/-- Why a well-formed query gets no for an answer. Another combination may do better. -/
inductive Refusal where
  | formatNotSupported (format : Format) (tiling : Tiling)
  | imageTypeNotSupported (format : Format) (imageType : ImageType)
  | usageNotSupported (format : Format) (usage : Usage)
  | modifierNotSupported (format : Format) (modifier : Modifier)
  | handleNotSupported (handleTypes : HandleTypes) (imageType : ImageType)
  deriving DecidableEq

namespace Refusal

def message : Refusal → String
  | formatNotSupported f t => f.text ++ " has no features with " ++ t.text ++ " tiling"
  | imageTypeNotSupported f t => f.text ++ " unsupported for " ++ t.text
  | usageNotSupported f u => f.text ++ " does not support usage " ++ u.name
  | modifierNotSupported f m =>
    f.text ++ " unsupported with DRM modifier " ++ hexadecimal m.raw.toNat
  | handleNotSupported h t =>
    "VkExternalMemoryTypeFlagBits(" ++ hexadecimal h.word.toNat ++ ") unsupported for " ++ t.text

def resultCode (_ : Refusal) : Int32 := -11

end Refusal

/-- A query that breaks the rules of asking, which no other combination can mend. -/
inductive Violation where
  | badImageType (imageType : ImageType)
  | badTiling (tiling : Tiling)
  | missingModifier
  | missingViewType
  deriving DecidableEq

namespace Violation

def message : Violation → String
  | badImageType t => "internal error: entered unreachable code: bad image type " ++ t.text
  | badTiling t => "internal error: entered unreachable code: bad image tiling " ++ t.text
  | missingModifier => "DRM modifier tiling queried without a modifier"
  | missingViewType => "cubic filter support queried without an image view type"

end Violation

inductive Failure where
  | refused (why : Refusal)
  | violated (how : Violation)
  deriving DecidableEq

end TexelFormats
