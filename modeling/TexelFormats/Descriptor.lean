namespace TexelFormats

inductive Layout where
  | plain
  | subsampled
  | planar2
  | planar3
  | blockCompressed
  deriving DecidableEq

inductive Numeric where
  | unorm | snorm | uscaled | sscaled | uint | sint | float
  deriving DecidableEq

/-- The widths in bits of up to four channels in memory order; an absent channel has width zero. -/
structure ChannelBits where
  first : UInt8
  second : UInt8
  third : UInt8
  fourth : UInt8
  deriving DecidableEq

/-- What the hardware needs to know about a format. -/
structure Descriptor where
  channels : UInt8
  channelBits : ChannelBits
  blockBits : UInt16
  blockWidth : UInt8
  blockHeight : UInt8
  layout : Layout
  numeric : Numeric
  isSrgb : Bool
  depthBits : UInt8
  stencilBits : UInt8
  deriving DecidableEq

def ChannelBits.toList (b : ChannelBits) : List UInt8 := [b.first, b.second, b.third, b.fourth]

/-- Channels counted one after the other, with the bits that they take, in words of fixed size. -/
structure Tally where
  channels : UInt8
  bits : UInt16

def Tally.add (t : Tally) (width : UInt8) : Tally :=
  if width = 0 then t else ⟨t.channels + 1, t.bits + width.toUInt16⟩

def ChannelBits.tally (b : ChannelBits) : Tally := b.toList.foldl Tally.add ⟨0, 0⟩

namespace Descriptor

def ofChannels (bits : ChannelBits) (numeric : Numeric) : Descriptor where
  channels := bits.tally.channels
  channelBits := bits
  blockBits := bits.tally.bits
  blockWidth := 1
  blockHeight := 1
  layout := .plain
  numeric := numeric
  isSrgb := false
  depthBits := 0
  stencilBits := 0

def ofSrgb (bits : ChannelBits) : Descriptor := { ofChannels bits .unorm with isSrgb := true }

def ofBlock (width height : UInt8) (blockBits : UInt16) (channels : UInt8) (numeric : Numeric)
    (srgb : Bool) : Descriptor where
  channels := channels
  channelBits := ⟨0, 0, 0, 0⟩
  blockBits := blockBits
  blockWidth := width
  blockHeight := height
  layout := .blockCompressed
  numeric := numeric
  isSrgb := srgb
  depthBits := 0
  stencilBits := 0

def ofDepthStencil (depth stencil padding : UInt8) (numeric : Numeric) : Descriptor :=
  { ofChannels ⟨depth, stencil, padding, 0⟩ numeric with depthBits := depth, stencilBits := stencil }

def ofShared (layout : Layout) (width : UInt8) (blockBits : UInt16) : Descriptor where
  channels := 3
  channelBits := ⟨8, 8, 8, 0⟩
  blockBits := blockBits
  blockWidth := width
  blockHeight := 1
  layout := layout
  numeric := .unorm
  isSrgb := false
  depthBits := 0
  stencilBits := 0

/-- An empty block counts as a power of two: subtracting one from it gives all ones. -/
def hasPowerOfTwoBlock (d : Descriptor) : Bool := d.blockBits &&& (d.blockBits - 1) = 0

def isInteger (d : Descriptor) : Bool := d.numeric = .uint ∨ d.numeric = .sint

def isSignedNormalized (d : Descriptor) : Bool := d.numeric = .snorm

def hasDepth (d : Descriptor) : Bool := d.depthBits ≠ 0

def hasStencil (d : Descriptor) : Bool := d.stencilBits ≠ 0

def hasDepthOrStencil (d : Descriptor) : Bool := d.hasDepth || d.hasStencil

def isBlockCompressed (d : Descriptor) : Bool := d.layout = .blockCompressed

def hasSharedSamples (d : Descriptor) : Bool :=
  d.layout = .subsampled ∨ d.layout = .planar2 ∨ d.layout = .planar3

end Descriptor

end TexelFormats
