import TexelFormats.Device.Queries
import TexelFormats.Json.Basic

namespace TexelFormats.Json

/-- Types whose values are written as JSON, in one form, and read from it, in every form allowed. -/
class Form (α : Type) where
  write : α → Json
  read? : Json → Option α

instance : Form Bool where
  write := bool
  read? := bool?

instance : Form String where
  write := ofText
  read? := text?

instance : Form UInt8 where
  write n := ofNat n.toNat
  read? v := v.nat?.bind fun n ↦ if n < UInt8.size then some (UInt8.ofNat n) else none

instance : Form UInt16 where
  write n := ofNat n.toNat
  read? v := v.nat?.bind fun n ↦ if n < UInt16.size then some (UInt16.ofNat n) else none

instance : Form UInt32 where
  write n := ofNat n.toNat
  read? v := v.nat?.bind toWord?

def name? : Json → Option String
  | string s => s.text?
  | object [(key, null)] => key.text?
  | _ => none

abbrev Form.ofNames {α : Type} (all : List α) (name : α → String) : Form α where
  write a := ofText (name a)
  read? v := v.name?.bind fun s ↦ all.find? fun a ↦ name a = s

/-- The values of a record's fields in the order of the keys, none of which may be left out. -/
def record? {α : Type} (keys : List String) (read : List Json → Option α) (v : Json) :
    Option α := do
  let shape ← v.shape?
  let vs ← Visitor.standard.visit? (fun _ v ↦ some v) (keys.map fun key ↦ { key, kind := () }) shape
  read vs

instance : Form Layout :=
  .ofNames [.plain, .subsampled, .planar2, .planar3, .blockCompressed] fun
    | .plain => "Plain"
    | .subsampled => "Subsampled"
    | .planar2 => "Planar2"
    | .planar3 => "Planar3"
    | .blockCompressed => "BlockCompressed"

instance : Form Numeric :=
  .ofNames [.unorm, .snorm, .uscaled, .sscaled, .uint, .sint, .float] fun
    | .unorm => "Unorm"
    | .snorm => "Snorm"
    | .uscaled => "Uscaled"
    | .sscaled => "Sscaled"
    | .uint => "Uint"
    | .sint => "Sint"
    | .float => "Float"

instance : Form Swap :=
  .ofNames [.wzyx, .wxyz, .zyxw, .xyzw] fun
    | .wzyx => "Wzyx"
    | .wxyz => "Wxyz"
    | .zyxw => "Zyxw"
    | .xyzw => "Xyzw"

instance : Form TileMode :=
  .ofNames [.linear, .tiled, .compressed] fun
    | .linear => "Linear"
    | .tiled => "Tiled"
    | .compressed => "Ubwc"

instance : Form Stage :=
  .ofNames [.vertex, .color, .texture] fun
    | .vertex => "Vertex"
    | .color => "Color"
    | .texture => "Texture"

instance : Form DepthFormat :=
  .ofNames [.d16, .d24S8, .d32] fun
    | .d16 => "D16"
    | .d24S8 => "D24_8"
    | .d32 => "D32"

instance : Form FormatOutput :=
  .ofNames [.properties3, .modifierList] fun
    | .properties3 => "Properties3"
    | .modifierList => "DrmFormatModifierList"

instance : Form ImageOutput :=
  .ofNames [.externalMemory, .filterCubic, .samplerYcbcrConversion] ImageOutput.name

instance : Form Code where
  write c := Form.write c.byte
  read? v := (Form.read? v).map Code.mk

instance : Form Encoding where
  write e := .ofRecord [("fmt", Form.write e.code), ("swap", Form.write e.swap)]
  read? := record? ["fmt", "swap"] fun
    | [code, swap] => do some ⟨← Form.read? code, ← Form.read? swap⟩
    | _ => none

instance : Form Extent where
  write e := .ofRecord [("width", Form.write e.width), ("height", Form.write e.height),
    ("depth", Form.write e.depth)]
  read? := record? ["width", "height", "depth"] fun
    | [width, height, depth] => do
      some ⟨← Form.read? width, ← Form.read? height, ← Form.read? depth⟩
    | _ => none

instance : Form FilterCubic where
  write c := .ofRecord [("filter_cubic", Form.write c.supported),
    ("filter_cubic_minmax", Form.write c.minmax)]
  read? := record? ["filter_cubic", "filter_cubic_minmax"] fun
    | [supported, minmax] => do some ⟨← Form.read? supported, ← Form.read? minmax⟩
    | _ => none

instance : Form YcbcrConversion where
  write c := .ofRecord
    [("combined_image_sampler_descriptor_count", Form.write c.descriptorCount)]
  read? := record? ["combined_image_sampler_descriptor_count"] fun
    | [count] => do some ⟨← Form.read? count⟩
    | _ => none

instance : Form ChannelBits where
  write b := array (b.toList.map Form.write)
  read?
    | array [a, b, c, d] => do
      some ⟨← Form.read? a, ← Form.read? b, ← Form.read? c, ← Form.read? d⟩
    | _ => none

def descriptorKeys : List String := ["channels", "channel_bits", "block_bits", "block_width",
  "block_height", "layout", "numeric", "srgb", "depth_bits", "stencil_bits"]

instance : Form Descriptor where
  write d := .ofRecord [("channels", Form.write d.channels),
    ("channel_bits", Form.write d.channelBits), ("block_bits", Form.write d.blockBits),
    ("block_width", Form.write d.blockWidth), ("block_height", Form.write d.blockHeight),
    ("layout", Form.write d.layout), ("numeric", Form.write d.numeric),
    ("srgb", Form.write d.isSrgb), ("depth_bits", Form.write d.depthBits),
    ("stencil_bits", Form.write d.stencilBits)]
  read? := record? descriptorKeys fun
    | [channels, channelBits, blockBits, blockWidth, blockHeight, layout, numeric, isSrgb,
        depthBits, stencilBits] => do
      some {
        channels := ← Form.read? channels
        channelBits := ← Form.read? channelBits
        blockBits := ← Form.read? blockBits
        blockWidth := ← Form.read? blockWidth
        blockHeight := ← Form.read? blockHeight
        layout := ← Form.read? layout
        numeric := ← Form.read? numeric
        isSrgb := ← Form.read? isSrgb
        depthBits := ← Form.read? depthBits
        stencilBits := ← Form.read? stencilBits }
    | _ => none

end TexelFormats.Json
