import TexelFormats.Flags
import TexelFormats.Format

namespace TexelFormats

structure Code where
  byte : UInt8
  deriving DecidableEq

namespace Code

def unorm8 : Code := ⟨0x03⟩
def snorm8 : Code := ⟨0x04⟩
def uint8 : Code := ⟨0x05⟩
def sint8 : Code := ⟨0x06⟩
def unorm4x4 : Code := ⟨0x08⟩
def unorm5551 : Code := ⟨0x0a⟩
def unorm1555 : Code := ⟨0x0c⟩
def unorm565 : Code := ⟨0x0e⟩
def unorm8x2 : Code := ⟨0x0f⟩
def snorm8x2 : Code := ⟨0x10⟩
def uint8x2 : Code := ⟨0x11⟩
def sint8x2 : Code := ⟨0x12⟩
def unorm16 : Code := ⟨0x15⟩
def snorm16 : Code := ⟨0x16⟩
def float16 : Code := ⟨0x17⟩
def uint16 : Code := ⟨0x18⟩
def sint16 : Code := ⟨0x19⟩
def unorm8x3 : Code := ⟨0x21⟩
def snorm8x3 : Code := ⟨0x22⟩
def uint8x3 : Code := ⟨0x23⟩
def sint8x3 : Code := ⟨0x24⟩
def unorm8x4 : Code := ⟨0x30⟩
def snorm8x4 : Code := ⟨0x32⟩
def uint8x4 : Code := ⟨0x33⟩
def sint8x4 : Code := ⟨0x34⟩
def float999E5 : Code := ⟨0x35⟩
def unorm1010102 : Code := ⟨0x36⟩
def snorm1010102 : Code := ⟨0x39⟩
def uint1010102 : Code := ⟨0x3a⟩
def sint1010102 : Code := ⟨0x3b⟩
def float111110 : Code := ⟨0x42⟩
def unorm16x2 : Code := ⟨0x43⟩
def snorm16x2 : Code := ⟨0x44⟩
def float16x2 : Code := ⟨0x45⟩
def uint16x2 : Code := ⟨0x46⟩
def sint16x2 : Code := ⟨0x47⟩
def float32 : Code := ⟨0x4a⟩
def uint32 : Code := ⟨0x4b⟩
def sint32 : Code := ⟨0x4c⟩
def unorm16x3 : Code := ⟨0x58⟩
def snorm16x3 : Code := ⟨0x59⟩
def float16x3 : Code := ⟨0x5a⟩
def uint16x3 : Code := ⟨0x5b⟩
def sint16x3 : Code := ⟨0x5c⟩
def unorm16x4 : Code := ⟨0x60⟩
def snorm16x4 : Code := ⟨0x61⟩
def float16x4 : Code := ⟨0x62⟩
def uint16x4 : Code := ⟨0x63⟩
def sint16x4 : Code := ⟨0x64⟩
def float32x2 : Code := ⟨0x67⟩
def uint32x2 : Code := ⟨0x68⟩
def sint32x2 : Code := ⟨0x69⟩
def float32x3 : Code := ⟨0x72⟩
def uint32x3 : Code := ⟨0x73⟩
def sint32x3 : Code := ⟨0x74⟩
def float32x4 : Code := ⟨0x82⟩
def uint32x4 : Code := ⟨0x83⟩
def sint32x4 : Code := ⟨0x84⟩
def packed422Rgrb : Code := ⟨0x8e⟩
def packed422Grbr : Code := ⟨0x8f⟩
def biplanar420 : Code := ⟨0x90⟩
def triplanar420 : Code := ⟨0x91⟩
def x8Z24Unorm : Code := ⟨0xa0⟩
def z24UnormS8Uint : Code := ⟨0xa1⟩
def etc2Rg11Unorm : Code := ⟨0xab⟩
def etc2Rg11Snorm : Code := ⟨0xac⟩
def etc2R11Unorm : Code := ⟨0xad⟩
def etc2R11Snorm : Code := ⟨0xae⟩
def etc2Rgb8 : Code := ⟨0xb0⟩
def etc2Rgba8 : Code := ⟨0xb1⟩
def etc2Rgb8a1 : Code := ⟨0xb2⟩
def dxt1 : Code := ⟨0xb3⟩
def dxt3 : Code := ⟨0xb4⟩
def dxt5 : Code := ⟨0xb5⟩
def rgtc1Unorm : Code := ⟨0xb7⟩
def rgtc1Snorm : Code := ⟨0xb8⟩
def rgtc2Unorm : Code := ⟨0xbb⟩
def rgtc2Snorm : Code := ⟨0xbc⟩
def bptcUfloat : Code := ⟨0xbe⟩
def bptcFloat : Code := ⟨0xbf⟩
def bptc : Code := ⟨0xc0⟩
def astc4x4 : Code := ⟨0xc1⟩
def astc5x4 : Code := ⟨0xc2⟩
def astc5x5 : Code := ⟨0xc3⟩
def astc6x5 : Code := ⟨0xc4⟩
def astc6x6 : Code := ⟨0xc5⟩
def astc8x5 : Code := ⟨0xc6⟩
def astc8x6 : Code := ⟨0xc7⟩
def astc8x8 : Code := ⟨0xc8⟩
def astc10x5 : Code := ⟨0xc9⟩
def astc10x6 : Code := ⟨0xca⟩
def astc10x8 : Code := ⟨0xcb⟩
def astc10x10 : Code := ⟨0xcc⟩
def astc12x10 : Code := ⟨0xcd⟩
def astc12x12 : Code := ⟨0xce⟩

end Code

inductive Swap where
  | wzyx | wxyz | zyxw | xyzw
  deriving DecidableEq

inductive TileMode where
  | linear | tiled | compressed
  deriving DecidableEq

def TileMode.isTiled : TileMode → Bool
  | linear => false
  | tiled | compressed => true

inductive Stage where
  | vertex | color | texture
  deriving DecidableEq

namespace Stage

def bit : Stage → Fin 8
  | vertex => 0
  | texture => 1
  | color => 2

instance : Flag Stage 8 where
  bit := bit
  all := [vertex, texture, color]
  find_bit := by intro i; cases i <;> rfl

end Stage

abbrev StageSet := FlagSet Stage 8

/-- A format as one stage of the pipeline sees it. -/
structure Encoding where
  code : Code
  swap : Swap
  deriving DecidableEq

inductive DepthFormat where
  | d16 | d24S8 | d32
  deriving DecidableEq

/-- The stages that accept a format, and how they see it in a linear surface. -/
structure Row where
  format : Format
  code : Code
  swap : Swap
  support : StageSet
  deriving DecidableEq

end TexelFormats
