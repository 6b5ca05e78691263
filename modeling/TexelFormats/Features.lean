import TexelFormats.Device
import TexelFormats.Encoding.Table
import TexelFormats.Feature
import TexelFormats.Format.Classes
import TexelFormats.Image

namespace TexelFormats

/-- The part of a set that the older word of 32 bits can hold. Its last bit is not used. -/
def FeatureSet.legacy (s : FeatureSet) : FeatureSet := ⟨s.word &&& 0x7fffffff⟩

theorem FeatureSet.mem_legacy {s : FeatureSet} {x : Feature} :
    x ∈ s.legacy ↔ x ∈ s ∧ x.bit < 31 := by
  have hbit : (0x7fffffff : BitVec 64).getLsbD x.bit = decide (x.bit < 31) := by
    cases x <;> rfl
  change (s.word &&& 0x7fffffff).getLsbD x.bit = true ↔ s.word.getLsbD x.bit = true ∧ _
  rw [BitVec.getLsbD_and, hbit, Bool.and_eq_true, decide_eq_true_iff]

@[ext]
structure Features where
  linear : FeatureSet
  optimal : FeatureSet
  buffer : FeatureSet
  deriving DecidableEq

namespace Features

instance : EmptyCollection Features := ⟨⟨∅, ∅, ∅⟩⟩

@[simp]
theorem linear_empty : (∅ : Features).linear = ∅ := rfl

@[simp]
theorem optimal_empty : (∅ : Features).optimal = ∅ := rfl

@[simp]
theorem buffer_empty : (∅ : Features).buffer = ∅ := rfl

def isEmpty (f : Features) : Bool := f.linear = ∅ ∧ f.optimal = ∅ ∧ f.buffer = ∅

def get? (f : Features) (t : Tiling) : Option FeatureSet :=
  if t = .linear then some f.linear
  else if t = .optimal then some f.optimal
  else none

def legacy (f : Features) : Features := ⟨f.linear.legacy, f.optimal.legacy, f.buffer.legacy⟩

end Features

/-- What the rules know about a format on a device. -/
structure Facts where
  format : Format
  descriptor : Descriptor
  vertex : Bool
  color : Bool
  texture : Bool
  depthFormat : Option DepthFormat
  filtersCubic : Bool

def Device.facts? (d : Device) (f : Format) : Option Facts := do
  let k : Facts := {
    format := f
    descriptor := ← f.descriptor?
    vertex := f.acceptedByVertex
    color := f.acceptedByColor
    texture := f.acceptedByTexture
    depthFormat := f.depthFormat?
    filtersCubic := d.filtersCubic }
  if k.vertex || k.color || k.texture then some k else none

/-- A step in working out the features of a format: it grants some or takes some back. -/
structure Rule where
  name : String
  apply : Facts → Features → Features

namespace Rule

def granted (p : Bool) (s : FeatureSet) : FeatureSet := if p then s else ∅

theorem mem_granted {p : Bool} {s : FeatureSet} {x : Feature} :
    x ∈ granted p s ↔ p = true ∧ x ∈ s := by
  cases p <;> simp [granted]

def powerOfTwoTransfer : Rule where
  name := "pot_transfer"
  apply k f :=
    { f with buffer := f.buffer ∪
        granted k.descriptor.hasPowerOfTwoBlock {.transferSrc, .transferDst} }

def vertexBuffer : Rule where
  name := "vertex_buffer"
  apply k f := { f with buffer := f.buffer ∪ granted k.vertex {.vertexBuffer} }

def uniformTexelBuffer : Rule where
  name := "uniform_texel_buffer"
  apply k f := { f with buffer := f.buffer ∪ granted k.texture {.uniformTexelBuffer} }

def sampledImage : Rule where
  name := "sampled_image"
  apply k f :=
    let d := k.descriptor
    let sampled := k.texture && d.hasPowerOfTwoBlock
    let filtered := sampled && !d.isInteger
    { f with optimal := f.optimal
        ∪ granted sampled {.transferSrc, .transferDst, .sampledImage, .sampledImageFilterMinmax,
            .cositedChromaSamples, .midpointChromaSamples}
        ∪ granted (sampled && !d.hasSharedSamples) {.blitSrc}
        ∪ granted (sampled && d.layout ≠ .subsampled) {.sampledImageYcbcrConversionLinearFilter}
        ∪ granted filtered {.sampledImageFilterLinear}
        ∪ granted (filtered && k.filtersCubic) {.sampledImageFilterCubic} }

def colorAttachment : Rule where
  name := "color_attachment"
  apply k f :=
    let atomic := k.color && (k.format = .r32Uint || k.format = .r32Sint)
    { f with
      optimal := f.optimal
        ∪ granted k.color {.colorAttachment, .blitDst, .storageImage, .storageReadWithoutFormat,
            .storageWriteWithoutFormat}
        ∪ granted atomic {.storageImageAtomic}
        ∪ granted (k.color && !k.descriptor.isInteger) {.colorAttachmentBlend}
      buffer := f.buffer
        ∪ granted k.color {.storageTexelBuffer, .storageReadWithoutFormat,
            .storageWriteWithoutFormat}
        ∪ granted atomic {.storageTexelBufferAtomic} }

def depthAttachment : Rule where
  name := "depth_attachment"
  apply k f :=
    { f with
      linear := f.optimal
      optimal := f.optimal ∪ granted k.depthFormat.isSome {.depthStencilAttachment} }

def untileable : Rule where
  name := "untileable"
  apply k f :=
    if !k.format.canBeTiled && k.format ≠ .triplanar420 then { f with optimal := ∅ } else f

def sharedColorNoBuffer : Rule where
  name := "yuv_no_buffer"
  apply k f :=
    if k.format ∈ [.packed422Gbgr, .packed422Bgrg, .biplanar420, .triplanar420] then
      { f with buffer := ∅ }
    else f

def packed16Bit : Rule where
  name := "packed_16bit"
  apply k f :=
    if k.descriptor.channels > 2 ∧ k.descriptor.blockBits = 16 then
      { linear := f.linear \ {.storageImage, .storageImageAtomic}
        optimal := f.optimal \ {.storageImage, .storageImageAtomic}
        buffer := f.buffer ∩ {.uniformTexelBuffer} }
    else f

def depthComparison : Rule where
  name := "depth_comparison"
  apply k f :=
    let compared := granted (k.descriptor.hasDepth && .sampledImage ∈ f.optimal)
      {.sampledImageDepthComparison}
    { f with linear := f.linear ∪ compared, optimal := f.optimal ∪ compared }

def depthStencilNoBuffer : Rule where
  name := "depth_stencil_no_buffer"
  apply k f := if k.descriptor.hasDepthOrStencil then { f with buffer := ∅ } else f

def splitStencilNoLinear : Rule where
  name := "d32s8_no_linear"
  apply k f := if k.format = .d32SfloatS8Uint then { f with linear := ∅ } else f

def all : List Rule := [powerOfTwoTransfer, vertexBuffer, uniformTexelBuffer, sampledImage,
  colorAttachment, depthAttachment, untileable, sharedColorNoBuffer, packed16Bit, depthComparison,
  depthStencilNoBuffer, splitStencilNoLinear]

end Rule

namespace Facts

def history (k : Facts) (rules : List Rule) (f : Features) : List (Rule × Features) :=
  match rules with
  | [] => []
  | r :: rs => (r, r.apply k f) :: k.history rs (r.apply k f)

def features (k : Facts) : Features := Rule.all.foldl (fun f r ↦ r.apply k f) ∅

theorem getLast?_history (k : Facts) (r : Rule) (rs : List Rule) (f : Features) :
    ((k.history (r :: rs) f).getLast?).map Prod.snd =
      some ((r :: rs).foldl (fun f r ↦ r.apply k f) f) := by
  induction rs generalizing r f with
  | nil => rfl
  | cons s rs ih => simpa [history] using ih s (r.apply k f)

end Facts

/-- A format that no stage of the pipeline accepts has no features. -/
def Device.features (d : Device) (f : Format) : Features :=
  match d.facts? f with
  | none => ∅
  | some k => k.features

end TexelFormats
