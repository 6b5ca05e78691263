import TexelFormats.Format.Classes
import TexelFormats.Log

namespace TexelFormats

/-- What decides whether an image can be compressed to save bandwidth. -/
structure Surface where
  format : Format
  imageType : ImageType := .twoD
  usage : UsageSet := ∅
  stencilUsage : UsageSet := ∅
  samples : SampleCounts := {.one}
  stencilAsUint : Bool := false

inductive Obstacle where
  | unknownFormat
  | noEnableBit
  | signedNormalized
  | narrow
  | threeDimensional
  | storage
  | stencilRead
  | multisampledStencil
  deriving DecidableEq

namespace Device

/-- The first obstacle, in the order in which they are looked for. -/
def obstacle? (d : Device) (s : Surface) : Option Obstacle :=
  match s.format.descriptor? with
  | none => some .unknownFormat
  | some c =>
    if c.isBlockCompressed ∨ s.format = .e5b9g9r9UfloatPack32 ∨ s.format = .s8Uint then
      some .noEnableBit
    else if c.isSignedNormalized then some .signedNormalized
    else if ¬ d.compresses8bpp ∧ s.format ∈ [.r8Unorm, .r8Snorm, .r8Uint, .r8Sint, .r8Srgb] then
      some .narrow
    else if s.imageType = .threeD then some .threeDimensional
    else if .storage ∈ s.usage ∪ s.stencilUsage then some .storage
    else if ¬ s.stencilAsUint ∧ s.format = .d24UnormS8Uint ∧
        s.stencilUsage.Meets {.sampled, .inputAttachment} then
      some .stencilRead
    else if ¬ d.samplesStencilAsUint ∧ s.format ∈ [.d24UnormS8Uint, .x8D24UnormPack32] ∧
        1 < s.samples.word.toNat then
      some .multisampledStencil
    else none

def compresses (d : Device) (s : Surface) : Bool := (d.obstacle? s).isNone

def compressionEvents (d : Device) (s : Surface) : List Event :=
  if d.obstacle? s = some .threeDimensional then [.uncompressedIn3d d s.format] else []

end Device

end TexelFormats
