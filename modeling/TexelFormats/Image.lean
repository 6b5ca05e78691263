import TexelFormats.Flags
import TexelFormats.Text

namespace TexelFormats

/-- The number of an image's dimensionality; only three numbers are defined. -/
structure ImageType where
  raw : Int32
  deriving DecidableEq

namespace ImageType

def oneD : ImageType := ⟨0⟩
def twoD : ImageType := ⟨1⟩
def threeD : ImageType := ⟨2⟩

def text (t : ImageType) : String :=
  nameOrNumber [(0, "TYPE_1D"), (1, "TYPE_2D"), (2, "TYPE_3D")] t.raw

end ImageType

structure Tiling where
  raw : Int32
  deriving DecidableEq

namespace Tiling

def optimal : Tiling := ⟨0⟩
def linear : Tiling := ⟨1⟩
def byModifier : Tiling := ⟨1000158000⟩

def text (t : Tiling) : String :=
  nameOrNumber [(0, "OPTIMAL"), (1, "LINEAR"), (1000158000, "DRM_FORMAT_MODIFIER_EXT")] t.raw

end Tiling

structure ViewType where
  raw : Int32
  deriving DecidableEq

namespace ViewType

def twoD : ViewType := ⟨1⟩
def twoDArray : ViewType := ⟨5⟩

end ViewType

inductive Usage where
  | transferSrc | transferDst | sampled | storage | colorAttachment | depthStencilAttachment
  | transientAttachment | inputAttachment | fragmentShadingRateAttachmentKhr
  | fragmentDensityMapExt | videoDecodeDstKhr | videoDecodeSrcKhr | videoDecodeDpbKhr
  | videoEncodeDstKhr | videoEncodeSrcKhr | videoEncodeDpbKhr | reserved16Qcom | reserved17Qcom
  | invocationMaskHuawei | attachmentFeedbackLoopExt | sampleWeightQcom | sampleBlockMatchQcom
  | reserved22Ext | reserved23Ext
  deriving DecidableEq

namespace Usage

def bit : Usage → Fin 32
  | transferSrc => 0
  | transferDst => 1
  | sampled => 2
  | storage => 3
  | colorAttachment => 4
  | depthStencilAttachment => 5
  | transientAttachment => 6
  | inputAttachment => 7
  | fragmentShadingRateAttachmentKhr => 8
  | fragmentDensityMapExt => 9
  | videoDecodeDstKhr => 10
  | videoDecodeSrcKhr => 11
  | videoDecodeDpbKhr => 12
  | videoEncodeDstKhr => 13
  | videoEncodeSrcKhr => 14
  | videoEncodeDpbKhr => 15
  | reserved16Qcom => 16
  | reserved17Qcom => 17
  | invocationMaskHuawei => 18
  | attachmentFeedbackLoopExt => 19
  | sampleWeightQcom => 20
  | sampleBlockMatchQcom => 21
  | reserved22Ext => 22
  | reserved23Ext => 23

def name : Usage → String
  | transferSrc => "TRANSFER_SRC"
  | transferDst => "TRANSFER_DST"
  | sampled => "SAMPLED"
  | storage => "STORAGE"
  | colorAttachment => "COLOR_ATTACHMENT"
  | depthStencilAttachment => "DEPTH_STENCIL_ATTACHMENT"
  | transientAttachment => "TRANSIENT_ATTACHMENT"
  | inputAttachment => "INPUT_ATTACHMENT"
  | fragmentShadingRateAttachmentKhr => "FRAGMENT_SHADING_RATE_ATTACHMENT_KHR"
  | fragmentDensityMapExt => "FRAGMENT_DENSITY_MAP_EXT"
  | videoDecodeDstKhr => "VIDEO_DECODE_DST_KHR"
  | videoDecodeSrcKhr => "VIDEO_DECODE_SRC_KHR"
  | videoDecodeDpbKhr => "VIDEO_DECODE_DPB_KHR"
  | videoEncodeDstKhr => "VIDEO_ENCODE_DST_KHR"
  | videoEncodeSrcKhr => "VIDEO_ENCODE_SRC_KHR"
  | videoEncodeDpbKhr => "VIDEO_ENCODE_DPB_KHR"
  | reserved16Qcom => "RESERVED_16_QCOM"
  | reserved17Qcom => "RESERVED_17_QCOM"
  | invocationMaskHuawei => "INVOCATION_MASK_HUAWEI"
  | attachmentFeedbackLoopExt => "ATTACHMENT_FEEDBACK_LOOP_EXT"
  | sampleWeightQcom => "SAMPLE_WEIGHT_QCOM"
  | sampleBlockMatchQcom => "SAMPLE_BLOCK_MATCH_QCOM"
  | reserved22Ext => "RESERVED_22_EXT"
  | reserved23Ext => "RESERVED_23_EXT"

def all : List Usage :=
  [.transferSrc, .transferDst, .sampled, .storage, .colorAttachment, .depthStencilAttachment,
   .transientAttachment, .inputAttachment, .videoDecodeDstKhr, .videoDecodeSrcKhr,
   .videoDecodeDpbKhr, .reserved16Qcom, .reserved17Qcom, .fragmentDensityMapExt,
   .fragmentShadingRateAttachmentKhr, .reserved22Ext, .videoEncodeDstKhr, .videoEncodeSrcKhr,
   .videoEncodeDpbKhr, .attachmentFeedbackLoopExt, .invocationMaskHuawei, .sampleWeightQcom,
   .sampleBlockMatchQcom, .reserved23Ext]

instance : NamedFlag Usage 32 where
  bit := bit
  all := all
  find_bit := by intro i; cases i <;> rfl
  name := name

end Usage

abbrev UsageSet := FlagSet Usage 32

inductive CreateFlag where
  | mutableFormat | cubeCompatible | extendedUsage
  deriving DecidableEq

namespace CreateFlag

def bit : CreateFlag → Fin 32
  | mutableFormat => 3
  | cubeCompatible => 4
  | extendedUsage => 8

instance : Flag CreateFlag 32 where
  bit := bit
  all := [mutableFormat, cubeCompatible, extendedUsage]
  find_bit := by intro i; cases i <;> rfl

end CreateFlag

abbrev CreateFlags := FlagSet CreateFlag 32

/-- A number of samples for each texel; the bit of a count has the count as its value. -/
inductive SampleCount where
  | one | two | four | eight | sixteen | thirtyTwo | sixtyFour
  deriving DecidableEq

namespace SampleCount

def bit : SampleCount → Fin 32
  | one => 0
  | two => 1
  | four => 2
  | eight => 3
  | sixteen => 4
  | thirtyTwo => 5
  | sixtyFour => 6

instance : Flag SampleCount 32 where
  bit := bit
  all := [one, two, four, eight, sixteen, thirtyTwo, sixtyFour]
  find_bit := by intro i; cases i <;> rfl

end SampleCount

abbrev SampleCounts := FlagSet SampleCount 32

structure Extent where
  width : UInt32
  height : UInt32
  depth : UInt32
  deriving DecidableEq

end TexelFormats
