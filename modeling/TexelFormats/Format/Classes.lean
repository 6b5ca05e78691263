import TexelFormats.Descriptor
import TexelFormats.Format

namespace TexelFormats.Format

open Descriptor

/-- The formats that the hardware knows. Formats that encode brightness and color difference are
described by the layout they share with red, green and blue, since nothing converts them. -/
def classes : List (Format × Descriptor) := [
  (r4g4UnormPack8, ofChannels ⟨4, 4, 0, 0⟩ .unorm),
  (r8Unorm, ofChannels ⟨8, 0, 0, 0⟩ .unorm),
  (r8Snorm, ofChannels ⟨8, 0, 0, 0⟩ .snorm),
  (r8Uscaled, ofChannels ⟨8, 0, 0, 0⟩ .uscaled),
  (r8Sscaled, ofChannels ⟨8, 0, 0, 0⟩ .sscaled),
  (r8Uint, ofChannels ⟨8, 0, 0, 0⟩ .uint),
  (r8Sint, ofChannels ⟨8, 0, 0, 0⟩ .sint),
  (r8Srgb, ofSrgb ⟨8, 0, 0, 0⟩),
  (r4g4b4a4UnormPack16, ofChannels ⟨4, 4, 4, 4⟩ .unorm),
  (b4g4r4a4UnormPack16, ofChannels ⟨4, 4, 4, 4⟩ .unorm),
  (a4r4g4b4UnormPack16, ofChannels ⟨4, 4, 4, 4⟩ .unorm),
  (a4b4g4r4UnormPack16, ofChannels ⟨4, 4, 4, 4⟩ .unorm),
  (r5g6b5UnormPack16, ofChannels ⟨5, 6, 5, 0⟩ .unorm),
  (b5g6r5UnormPack16, ofChannels ⟨5, 6, 5, 0⟩ .unorm),
  (r5g5b5a1UnormPack16, ofChannels ⟨5, 5, 5, 1⟩ .unorm),
  (b5g5r5a1UnormPack16, ofChannels ⟨5, 5, 5, 1⟩ .unorm),
  (a1r5g5b5UnormPack16, ofChannels ⟨1, 5, 5, 5⟩ .unorm),
  (r8g8Unorm, ofChannels ⟨8, 8, 0, 0⟩ .unorm),
  (r8g8Snorm, ofChannels ⟨8, 8, 0, 0⟩ .snorm),
  (r8g8Uscaled, ofChannels ⟨8, 8, 0, 0⟩ .uscaled),
  (r8g8Sscaled, ofChannels ⟨8, 8, 0, 0⟩ .sscaled),
  (r8g8Uint, ofChannels ⟨8, 8, 0, 0⟩ .uint),
  (r8g8Sint, ofChannels ⟨8, 8, 0, 0⟩ .sint),
  (r8g8Srgb, ofSrgb ⟨8, 8, 0, 0⟩),
  (r16Unorm, ofChannels ⟨16, 0, 0, 0⟩ .unorm),
  (r16Snorm, ofChannels ⟨16, 0, 0, 0⟩ .snorm),
  (r16Uscaled, ofChannels ⟨16, 0, 0, 0⟩ .uscaled),
  (r16Sscaled, ofChannels ⟨16, 0, 0, 0⟩ .sscaled),
  (r16Uint, ofChannels ⟨16, 0, 0, 0⟩ .uint),
  (r16Sint, ofChannels ⟨16, 0, 0, 0⟩ .sint),
  (r16Sfloat, ofChannels ⟨16, 0, 0, 0⟩ .float),
  (r8g8b8Unorm, ofChannels ⟨8, 8, 8, 0⟩ .unorm),
  (b8g8r8Unorm, ofChannels ⟨8, 8, 8, 0⟩ .unorm),
  (r8g8b8Snorm, ofChannels ⟨8, 8, 8, 0⟩ .snorm),
  (b8g8r8Snorm, ofChannels ⟨8, 8, 8, 0⟩ .snorm),
  (r8g8b8Uscaled, ofChannels ⟨8, 8, 8, 0⟩ .uscaled),
  (b8g8r8Uscaled, ofChannels ⟨8, 8, 8, 0⟩ .uscaled),
  (r8g8b8Sscaled, ofChannels ⟨8, 8, 8, 0⟩ .sscaled),
  (b8g8r8Sscaled, ofChannels ⟨8, 8, 8, 0⟩ .sscaled),
  (r8g8b8Uint, ofChannels ⟨8, 8, 8, 0⟩ .uint),
  (b8g8r8Uint, ofChannels ⟨8, 8, 8, 0⟩ .uint),
  (r8g8b8Sint, ofChannels ⟨8, 8, 8, 0⟩ .sint),
  (b8g8r8Sint, ofChannels ⟨8, 8, 8, 0⟩ .sint),
  (r8g8b8Srgb, ofSrgb ⟨8, 8, 8, 0⟩),
  (b8g8r8Srgb, ofSrgb ⟨8, 8, 8, 0⟩),
  (r8g8b8a8Unorm, ofChannels ⟨8, 8, 8, 8⟩ .unorm),
  (b8g8r8a8Unorm, ofChannels ⟨8, 8, 8, 8⟩ .unorm),
  (a8b8g8r8UnormPack32, ofChannels ⟨8, 8, 8, 8⟩ .unorm),
  (r8g8b8a8Snorm, ofChannels ⟨8, 8, 8, 8⟩ .snorm),
  (b8g8r8a8Snorm, ofChannels ⟨8, 8, 8, 8⟩ .snorm),
  (a8b8g8r8SnormPack32, ofChannels ⟨8, 8, 8, 8⟩ .snorm),
  (r8g8b8a8Uscaled, ofChannels ⟨8, 8, 8, 8⟩ .uscaled),
  (b8g8r8a8Uscaled, ofChannels ⟨8, 8, 8, 8⟩ .uscaled),
  (a8b8g8r8UscaledPack32, ofChannels ⟨8, 8, 8, 8⟩ .uscaled),
  (r8g8b8a8Sscaled, ofChannels ⟨8, 8, 8, 8⟩ .sscaled),
  (b8g8r8a8Sscaled, ofChannels ⟨8, 8, 8, 8⟩ .sscaled),
  (a8b8g8r8SscaledPack32, ofChannels ⟨8, 8, 8, 8⟩ .sscaled),
  (r8g8b8a8Uint, ofChannels ⟨8, 8, 8, 8⟩ .uint),
  (b8g8r8a8Uint, ofChannels ⟨8, 8, 8, 8⟩ .uint),
  (a8b8g8r8UintPack32, ofChannels ⟨8, 8, 8, 8⟩ .uint),
  (r8g8b8a8Sint, ofChannels ⟨8, 8, 8, 8⟩ .sint),
  (b8g8r8a8Sint, ofChannels ⟨8, 8, 8, 8⟩ .sint),
  (a8b8g8r8SintPack32, ofChannels ⟨8, 8, 8, 8⟩ .sint),
  (r8g8b8a8Srgb, ofSrgb ⟨8, 8, 8, 8⟩),
  (b8g8r8a8Srgb, ofSrgb ⟨8, 8, 8, 8⟩),
  (a8b8g8r8SrgbPack32, ofSrgb ⟨8, 8, 8, 8⟩),
  (a2r10g10b10UnormPack32, ofChannels ⟨10, 10, 10, 2⟩ .unorm),
  (a2b10g10r10UnormPack32, ofChannels ⟨10, 10, 10, 2⟩ .unorm),
  (a2r10g10b10SnormPack32, ofChannels ⟨10, 10, 10, 2⟩ .snorm),
  (a2b10g10r10SnormPack32, ofChannels ⟨10, 10, 10, 2⟩ .snorm),
  (a2r10g10b10UscaledPack32, ofChannels ⟨10, 10, 10, 2⟩ .uscaled),
  (a2b10g10r10UscaledPack32, ofChannels ⟨10, 10, 10, 2⟩ .uscaled),
  (a2r10g10b10SscaledPack32, ofChannels ⟨10, 10, 10, 2⟩ .sscaled),
  (a2b10g10r10SscaledPack32, ofChannels ⟨10, 10, 10, 2⟩ .sscaled),
  (a2r10g10b10UintPack32, ofChannels ⟨10, 10, 10, 2⟩ .uint),
  (a2b10g10r10UintPack32, ofChannels ⟨10, 10, 10, 2⟩ .uint),
  (a2r10g10b10SintPack32, ofChannels ⟨10, 10, 10, 2⟩ .sint),
  (a2b10g10r10SintPack32, ofChannels ⟨10, 10, 10, 2⟩ .sint),
  (r16g16Unorm, ofChannels ⟨16, 16, 0, 0⟩ .unorm),
  (r16g16Snorm, ofChannels ⟨16, 16, 0, 0⟩ .snorm),
  (r16g16Uscaled, ofChannels ⟨16, 16, 0, 0⟩ .uscaled),
  (r16g16Sscaled, ofChannels ⟨16, 16, 0, 0⟩ .sscaled),
  (r16g16Uint, ofChannels ⟨16, 16, 0, 0⟩ .uint),
  (r16g16Sint, ofChannels ⟨16, 16, 0, 0⟩ .sint),
  (r16g16Sfloat, ofChannels ⟨16, 16, 0, 0⟩ .float),
  (r32Uint, ofChannels ⟨32, 0, 0, 0⟩ .uint),
  (r32Sint, ofChannels ⟨32, 0, 0, 0⟩ .sint),
  (r32Sfloat, ofChannels ⟨32, 0, 0, 0⟩ .float),
  (b10g11r11UfloatPack32, ofChannels ⟨11, 11, 10, 0⟩ .float),
  (e5b9g9r9UfloatPack32, ofChannels ⟨9, 9, 9, 5⟩ .float),
  (r16g16b16Unorm, ofChannels ⟨16, 16, 16, 0⟩ .unorm),
  (r16g16b16Snorm, ofChannels ⟨16, 16, 16, 0⟩ .snorm),
  (r16g16b16Uscaled, ofChannels ⟨16, 16, 16, 0⟩ .uscaled),
  (r16g16b16Sscaled, ofChannels ⟨16, 16, 16, 0⟩ .sscaled),
  (r16g16b16Uint, ofChannels ⟨16, 16, 16, 0⟩ .uint),
  (r16g16b16Sint, ofChannels ⟨16, 16, 16, 0⟩ .sint),
  (r16g16b16Sfloat, ofChannels ⟨16, 16, 16, 0⟩ .float),
  (r16g16b16a16Unorm, ofChannels ⟨16, 16, 16, 16⟩ .unorm),
  (r16g16b16a16Snorm, ofChannels ⟨16, 16, 16, 16⟩ .snorm),
  (r16g16b16a16Uscaled, ofChannels ⟨16, 16, 16, 16⟩ .uscaled),
  (r16g16b16a16Sscaled, ofChannels ⟨16, 16, 16, 16⟩ .sscaled),
  (r16g16b16a16Uint, ofChannels ⟨16, 16, 16, 16⟩ .uint),
  (r16g16b16a16Sint, ofChannels ⟨16, 16, 16, 16⟩ .sint),
  (r16g16b16a16Sfloat, ofChannels ⟨16, 16, 16, 16⟩ .float),
  (r32g32Uint, ofChannels ⟨32, 32, 0, 0⟩ .uint),
  (r32g32Sint, ofChannels ⟨32, 32, 0, 0⟩ .sint),
  (r32g32Sfloat, ofChannels ⟨32, 32, 0, 0⟩ .float),
  (r32g32b32Uint, ofChannels ⟨32, 32, 32, 0⟩ .uint),
  (r32g32b32Sint, ofChannels ⟨32, 32, 32, 0⟩ .sint),
  (r32g32b32Sfloat, ofChannels ⟨32, 32, 32, 0⟩ .float),
  (r32g32b32a32Uint, ofChannels ⟨32, 32, 32, 32⟩ .uint),
  (r32g32b32a32Sint, ofChannels ⟨32, 32, 32, 32⟩ .sint),
  (r32g32b32a32Sfloat, ofChannels ⟨32, 32, 32, 32⟩ .float),
  (d16Unorm, ofDepthStencil 16 0 0 .unorm),
  (x8D24UnormPack32, ofDepthStencil 24 0 8 .unorm),
  (d32Sfloat, ofDepthStencil 32 0 0 .float),
  (s8Uint, ofDepthStencil 0 8 0 .uint),
  (d16UnormS8Uint, ofDepthStencil 16 8 0 .unorm),
  (d24UnormS8Uint, ofDepthStencil 24 8 0 .unorm),
  (d32SfloatS8Uint, ofDepthStencil 32 8 24 .float),
  (etc2R8g8b8UnormBlock, ofBlock 4 4 64 3 .unorm false),
  (etc2R8g8b8SrgbBlock, ofBlock 4 4 64 3 .unorm true),
  (etc2R8g8b8a1UnormBlock, ofBlock 4 4 64 4 .unorm false),
  (etc2R8g8b8a1SrgbBlock, ofBlock 4 4 64 4 .unorm true),
  (etc2R8g8b8a8UnormBlock, ofBlock 4 4 128 4 .unorm false),
  (etc2R8g8b8a8SrgbBlock, ofBlock 4 4 128 4 .unorm true),
  (eacR11UnormBlock, ofBlock 4 4 64 1 .unorm false),
  (eacR11SnormBlock, ofBlock 4 4 64 1 .snorm false),
  (eacR11g11UnormBlock, ofBlock 4 4 128 2 .unorm false),
  (eacR11g11SnormBlock, ofBlock 4 4 128 2 .snorm false),
  (bc1RgbUnormBlock, ofBlock 4 4 64 3 .unorm false),
  (bc1RgbSrgbBlock, ofBlock 4 4 64 3 .unorm true),
  (bc1RgbaUnormBlock, ofBlock 4 4 64 4 .unorm false),
  (bc1RgbaSrgbBlock, ofBlock 4 4 64 4 .unorm true),
  (bc2UnormBlock, ofBlock 4 4 128 4 .unorm false),
  (bc2SrgbBlock, ofBlock 4 4 128 4 .unorm true),
  (bc3UnormBlock, ofBlock 4 4 128 4 .unorm false),
  (bc3SrgbBlock, ofBlock 4 4 128 4 .unorm true),
  (bc4UnormBlock, ofBlock 4 4 64 1 .unorm false),
  (bc4SnormBlock, ofBlock 4 4 64 1 .snorm false),
  (bc5UnormBlock, ofBlock 4 4 128 2 .unorm false),
  (bc5SnormBlock, ofBlock 4 4 128 2 .snorm false),
  (bc6hUfloatBlock, ofBlock 4 4 128 3 .float false),
  (bc6hSfloatBlock, ofBlock 4 4 128 3 .float false),
  (bc7UnormBlock, ofBlock 4 4 128 4 .unorm false),
  (bc7SrgbBlock, ofBlock 4 4 128 4 .unorm true),
  (packed422Gbgr, ofShared .subsampled 2 32),
  (packed422Bgrg, ofShared .subsampled 2 32),
  (biplanar420, ofShared .planar2 1 8),
  (triplanar420, ofShared .planar3 1 8),
  (astc4x4UnormBlock, ofBlock 4 4 128 4 .unorm false),
  (astc4x4SrgbBlock, ofBlock 4 4 128 4 .unorm true),
  (astc5x4UnormBlock, ofBlock 5 4 128 4 .unorm false),
  (astc5x4SrgbBlock, ofBlock 5 4 128 4 .unorm true),
  (astc5x5UnormBlock, ofBlock 5 5 128 4 .unorm false),
  (astc5x5SrgbBlock, ofBlock 5 5 128 4 .unorm true),
  (astc6x5UnormBlock, ofBlock 6 5 128 4 .unorm false),
  (astc6x5SrgbBlock, ofBlock 6 5 128 4 .unorm true),
  (astc6x6UnormBlock, ofBlock 6 6 128 4 .unorm false),
  (astc6x6SrgbBlock, ofBlock 6 6 128 4 .unorm true),
  (astc8x5UnormBlock, ofBlock 8 5 128 4 .unorm false),
  (astc8x5SrgbBlock, ofBlock 8 5 128 4 .unorm true),
  (astc8x6UnormBlock, ofBlock 8 6 128 4 .unorm false),
  (astc8x6SrgbBlock, ofBlock 8 6 128 4 .unorm true),
  (astc8x8UnormBlock, ofBlock 8 8 128 4 .unorm false),
  (astc8x8SrgbBlock, ofBlock 8 8 128 4 .unorm true),
  (astc10x5UnormBlock, ofBlock 10 5 128 4 .unorm false),
  (astc10x5SrgbBlock, ofBlock 10 5 128 4 .unorm true),
  (astc10x6UnormBlock, ofBlock 10 6 128 4 .unorm false),
  (astc10x6SrgbBlock, ofBlock 10 6 128 4 .unorm true),
  (astc10x8UnormBlock, ofBlock 10 8 128 4 .unorm false),
  (astc10x8SrgbBlock, ofBlock 10 8 128 4 .unorm true),
  (astc10x10UnormBlock, ofBlock 10 10 128 4 .unorm false),
  (astc10x10SrgbBlock, ofBlock 10 10 128 4 .unorm true),
  (astc12x10UnormBlock, ofBlock 12 10 128 4 .unorm false),
  (astc12x10SrgbBlock, ofBlock 12 10 128 4 .unorm true),
  (astc12x12UnormBlock, ofBlock 12 12 128 4 .unorm false),
  (astc12x12SrgbBlock, ofBlock 12 12 128 4 .unorm true)]

def descriptor? (f : Format) : Option Descriptor := classes.lookup f

def hasPowerOfTwoBlock (f : Format) : Bool := f.descriptor?.any Descriptor.hasPowerOfTwoBlock

def isInteger (f : Format) : Bool := f.descriptor?.any Descriptor.isInteger

def hasDepth (f : Format) : Bool := f.descriptor?.any Descriptor.hasDepth

def hasStencil (f : Format) : Bool := f.descriptor?.any Descriptor.hasStencil

def hasDepthOrStencil (f : Format) : Bool := f.descriptor?.any Descriptor.hasDepthOrStencil

def layout? (f : Format) : Option Layout := f.descriptor?.map Descriptor.layout

def planeCount (f : Format) : UInt32 :=
  if f = biplanar420 ∨ f = d32SfloatS8Uint then 2
  else if f = triplanar420 then 3
  else 1

def canBeTiled (f : Format) : Bool :=
  f ∉ [packed422Gbgr, packed422Bgrg, biplanar420, triplanar420]

end TexelFormats.Format
