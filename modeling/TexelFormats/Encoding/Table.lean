import TexelFormats.Encoding

namespace TexelFormats

namespace Row

def vertexOnly : StageSet := {.vertex}
def textureOnly : StageSet := {.texture}
def vertexTexture : StageSet := {.vertex, .texture}
def textureColor : StageSet := {.texture, .color}
def everywhere : StageSet := {.vertex, .texture, .color}

/-- Every format that a pipeline stage accepts, with the stages that do. -/
def table : List Row := [
  ⟨.r8Unorm, .unorm8, .wzyx, everywhere⟩,
  ⟨.r8Snorm, .snorm8, .wzyx, everywhere⟩,
  ⟨.r8Uscaled, .uint8, .wzyx, vertexOnly⟩,
  ⟨.r8Sscaled, .sint8, .wzyx, vertexOnly⟩,
  ⟨.r8Uint, .uint8, .wzyx, everywhere⟩,
  ⟨.r8Sint, .sint8, .wzyx, everywhere⟩,
  ⟨.r8Srgb, .unorm8, .wzyx, textureColor⟩,
  ⟨.r4g4b4a4UnormPack16, .unorm4x4, .xyzw, textureColor⟩,
  ⟨.b4g4r4a4UnormPack16, .unorm4x4, .zyxw, textureColor⟩,
  ⟨.a4r4g4b4UnormPack16, .unorm4x4, .wxyz, textureColor⟩,
  ⟨.a4b4g4r4UnormPack16, .unorm4x4, .wzyx, textureColor⟩,
  ⟨.r5g6b5UnormPack16, .unorm565, .wxyz, textureColor⟩,
  ⟨.b5g6r5UnormPack16, .unorm565, .wzyx, textureColor⟩,
  ⟨.r5g5b5a1UnormPack16, .unorm5551, .xyzw, textureColor⟩,
  ⟨.b5g5r5a1UnormPack16, .unorm5551, .zyxw, textureColor⟩,
  ⟨.a1r5g5b5UnormPack16, .unorm1555, .wxyz, textureColor⟩,
  ⟨.r8g8Unorm, .unorm8x2, .wzyx, everywhere⟩,
  ⟨.r8g8Snorm, .snorm8x2, .wzyx, everywhere⟩,
  ⟨.r8g8Uscaled, .uint8x2, .wzyx, vertexOnly⟩,
  ⟨.r8g8Sscaled, .sint8x2, .wzyx, vertexOnly⟩,
  ⟨.r8g8Uint, .uint8x2, .wzyx, everywhere⟩,
  ⟨.r8g8Sint, .sint8x2, .wzyx, everywhere⟩,
  ⟨.r8g8Srgb, .unorm8x2, .wzyx, textureColor⟩,
  ⟨.r16Unorm, .unorm16, .wzyx, everywhere⟩,
  ⟨.r16Snorm, .snorm16, .wzyx, everywhere⟩,
  ⟨.r16Uscaled, .uint16, .wzyx, vertexOnly⟩,
  ⟨.r16Sscaled, .sint16, .wzyx, vertexOnly⟩,
  ⟨.r16Uint, .uint16, .wzyx, everywhere⟩,
  ⟨.r16Sint, .sint16, .wzyx, everywhere⟩,
  ⟨.r16Sfloat, .float16, .wzyx, everywhere⟩,
  ⟨.r8g8b8Unorm, .unorm8x3, .wzyx, vertexTexture⟩,
  ⟨.r8g8b8Snorm, .snorm8x3, .wzyx, vertexTexture⟩,
  ⟨.r8g8b8Uscaled, .uint8x3, .wzyx, vertexOnly⟩,
  ⟨.r8g8b8Sscaled, .sint8x3, .wzyx, vertexOnly⟩,
  ⟨.r8g8b8Uint, .uint8x3, .wzyx, vertexTexture⟩,
  ⟨.r8g8b8Sint, .sint8x3, .wzyx, vertexTexture⟩,
  ⟨.r8g8b8Srgb, .unorm8x3, .wzyx, textureOnly⟩,
  ⟨.r8g8b8a8Unorm, .unorm8x4, .wzyx, everywhere⟩,
  ⟨.r8g8b8a8Snorm, .snorm8x4, .wzyx, everywhere⟩,
  ⟨.r8g8b8a8Uscaled, .uint8x4, .wzyx, vertexOnly⟩,
  ⟨.r8g8b8a8Sscaled, .sint8x4, .wzyx, vertexOnly⟩,
  ⟨.r8g8b8a8Uint, .uint8x4, .wzyx, everywhere⟩,
  ⟨.r8g8b8a8Sint, .sint8x4, .wzyx, everywhere⟩,
  ⟨.r8g8b8a8Srgb, .unorm8x4, .wzyx, textureColor⟩,
  ⟨.b8g8r8a8Unorm, .unorm8x4, .wxyz, everywhere⟩,
  ⟨.b8g8r8a8Snorm, .snorm8x4, .wxyz, textureColor⟩,
  ⟨.b8g8r8a8Uint, .uint8x4, .wxyz, textureColor⟩,
  ⟨.b8g8r8a8Sint, .sint8x4, .wxyz, textureColor⟩,
  ⟨.b8g8r8a8Srgb, .unorm8x4, .wxyz, textureColor⟩,
  ⟨.a8b8g8r8UnormPack32, .unorm8x4, .wzyx, everywhere⟩,
  ⟨.a8b8g8r8SnormPack32, .snorm8x4, .wzyx, everywhere⟩,
  ⟨.a8b8g8r8UscaledPack32, .uint8x4, .wzyx, vertexOnly⟩,
  ⟨.a8b8g8r8SscaledPack32, .sint8x4, .wzyx, vertexOnly⟩,
  ⟨.a8b8g8r8UintPack32, .uint8x4, .wzyx, everywhere⟩,
  ⟨.a8b8g8r8SintPack32, .sint8x4, .wzyx, everywhere⟩,
  ⟨.a8b8g8r8SrgbPack32, .unorm8x4, .wzyx, textureColor⟩,
  ⟨.a2r10g10b10UnormPack32, .unorm1010102, .wxyz, everywhere⟩,
  ⟨.a2r10g10b10SnormPack32, .snorm1010102, .wxyz, vertexOnly⟩,
  ⟨.a2r10g10b10UintPack32, .uint1010102, .wxyz, textureColor⟩,
  ⟨.a2b10g10r10UnormPack32, .unorm1010102, .wzyx, everywhere⟩,
  ⟨.a2b10g10r10SnormPack32, .snorm1010102, .wzyx, vertexOnly⟩,
  ⟨.a2b10g10r10UscaledPack32, .uint1010102, .wzyx, vertexOnly⟩,
  ⟨.a2b10g10r10SscaledPack32, .sint1010102, .wzyx, vertexOnly⟩,
  ⟨.a2b10g10r10UintPack32, .uint1010102, .wzyx, everywhere⟩,
  ⟨.a2b10g10r10SintPack32, .sint1010102, .wzyx, vertexOnly⟩,
  ⟨.r16g16Unorm, .unorm16x2, .wzyx, everywhere⟩,
  ⟨.r16g16Snorm, .snorm16x2, .wzyx, everywhere⟩,
  ⟨.r16g16Uscaled, .uint16x2, .wzyx, vertexOnly⟩,
  ⟨.r16g16Sscaled, .sint16x2, .wzyx, vertexOnly⟩,
  ⟨.r16g16Uint, .uint16x2, .wzyx, everywhere⟩,
  ⟨.r16g16Sint, .sint16x2, .wzyx, everywhere⟩,
  ⟨.r16g16Sfloat, .float16x2, .wzyx, everywhere⟩,
  ⟨.r32Uint, .uint32, .wzyx, everywhere⟩,
  ⟨.r32Sint, .sint32, .wzyx, everywhere⟩,
  ⟨.r32Sfloat, .float32, .wzyx, everywhere⟩,
  ⟨.b10g11r11UfloatPack32, .float111110, .wzyx, everywhere⟩,
  ⟨.e5b9g9r9UfloatPack32, .float999E5, .wzyx, textureOnly⟩,
  ⟨.r16g16b16Unorm, .unorm16x3, .wzyx, vertexTexture⟩,
  ⟨.r16g16b16Snorm, .snorm16x3, .wzyx, vertexTexture⟩,
  ⟨.r16g16b16Uscaled, .uint16x3, .wzyx, vertexOnly⟩,
  ⟨.r16g16b16Sscaled, .sint16x3, .wzyx, vertexOnly⟩,
  ⟨.r16g16b16Uint, .uint16x3, .wzyx, vertexTexture⟩,
  ⟨.r16g16b16Sint, .sint16x3, .wzyx, vertexTexture⟩,
  ⟨.r16g16b16Sfloat, .float16x3, .wzyx, vertexTexture⟩,
  ⟨.r16g16b16a16Unorm, .unorm16x4, .wzyx, everywhere⟩,
  ⟨.r16g16b16a16Snorm, .snorm16x4, .wzyx, everywhere⟩,
  ⟨.r16g16b16a16Uscaled, .uint16x4, .wzyx, vertexOnly⟩,
  ⟨.r16g16b16a16Sscaled, .sint16x4, .wzyx, vertexOnly⟩,
  ⟨.r16g16b16a16Uint, .uint16x4, .wzyx, everywhere⟩,
  ⟨.r16g16b16a16Sint, .sint16x4, .wzyx, everywhere⟩,
  ⟨.r16g16b16a16Sfloat, .float16x4, .wzyx, everywhere⟩,
  ⟨.r32g32Uint, .uint32x2, .wzyx, everywhere⟩,
  ⟨.r32g32Sint, .sint32x2, .wzyx, everywhere⟩,
  ⟨.r32g32Sfloat, .float32x2, .wzyx, everywhere⟩,
  ⟨.r32g32b32Uint, .uint32x3, .wzyx, vertexTexture⟩,
  ⟨.r32g32b32Sint, .sint32x3, .wzyx, vertexTexture⟩,
  ⟨.r32g32b32Sfloat, .float32x3, .wzyx, vertexTexture⟩,
  ⟨.r32g32b32a32Uint, .uint32x4, .wzyx, everywhere⟩,
  ⟨.r32g32b32a32Sint, .sint32x4, .wzyx, everywhere⟩,
  ⟨.r32g32b32a32Sfloat, .float32x4, .wzyx, everywhere⟩,
  ⟨.d16Unorm, .unorm16, .wzyx, textureColor⟩,
  ⟨.x8D24UnormPack32, .x8Z24Unorm, .wzyx, textureColor⟩,
  ⟨.d32Sfloat, .float32, .wzyx, textureColor⟩,
  ⟨.s8Uint, .uint8, .wzyx, textureColor⟩,
  ⟨.d24UnormS8Uint, .z24UnormS8Uint, .wzyx, textureColor⟩,
  ⟨.d32SfloatS8Uint, .float32, .wzyx, textureColor⟩,
  ⟨.etc2R8g8b8UnormBlock, .etc2Rgb8, .wzyx, textureOnly⟩,
  ⟨.etc2R8g8b8SrgbBlock, .etc2Rgb8, .wzyx, textureOnly⟩,
  ⟨.etc2R8g8b8a1UnormBlock, .etc2Rgb8a1, .wzyx, textureOnly⟩,
  ⟨.etc2R8g8b8a1SrgbBlock, .etc2Rgb8a1, .wzyx, textureOnly⟩,
  ⟨.etc2R8g8b8a8UnormBlock, .etc2Rgba8, .wzyx, textureOnly⟩,
  ⟨.etc2R8g8b8a8SrgbBlock, .etc2Rgba8, .wzyx, textureOnly⟩,
  ⟨.eacR11UnormBlock, .etc2R11Unorm, .wzyx, textureOnly⟩,
  ⟨.eacR11SnormBlock, .etc2R11Snorm, .wzyx, textureOnly⟩,
  ⟨.eacR11g11UnormBlock, .etc2Rg11Unorm, .wzyx, textureOnly⟩,
  ⟨.eacR11g11SnormBlock, .etc2Rg11Snorm, .wzyx, textureOnly⟩,
  ⟨.bc1RgbUnormBlock, .dxt1, .wzyx, textureOnly⟩,
  ⟨.bc1RgbSrgbBlock, .dxt1, .wzyx, textureOnly⟩,
  ⟨.bc1RgbaUnormBlock, .dxt1, .wzyx, textureOnly⟩,
  ⟨.bc1RgbaSrgbBlock, .dxt1, .wzyx, textureOnly⟩,
  ⟨.bc2UnormBlock, .dxt3, .wzyx, textureOnly⟩,
  ⟨.bc2SrgbBlock, .dxt3, .wzyx, textureOnly⟩,
  ⟨.bc3UnormBlock, .dxt5, .wzyx, textureOnly⟩,
  ⟨.bc3SrgbBlock, .dxt5, .wzyx, textureOnly⟩,
  ⟨.bc4UnormBlock, .rgtc1Unorm, .wzyx, textureOnly⟩,
  ⟨.bc4SnormBlock, .rgtc1Snorm, .wzyx, textureOnly⟩,
  ⟨.bc5UnormBlock, .rgtc2Unorm, .wzyx, textureOnly⟩,
  ⟨.bc5SnormBlock, .rgtc2Snorm, .wzyx, textureOnly⟩,
  ⟨.bc6hUfloatBlock, .bptcUfloat, .wzyx, textureOnly⟩,
  ⟨.bc6hSfloatBlock, .bptcFloat, .wzyx, textureOnly⟩,
  ⟨.bc7UnormBlock, .bptc, .wzyx, textureOnly⟩,
  ⟨.bc7SrgbBlock, .bptc, .wzyx, textureOnly⟩,
  ⟨.astc4x4UnormBlock, .astc4x4, .wzyx, textureOnly⟩,
  ⟨.astc4x4SrgbBlock, .astc4x4, .wzyx, textureOnly⟩,
  ⟨.astc5x4UnormBlock, .astc5x4, .wzyx, textureOnly⟩,
  ⟨.astc5x4SrgbBlock, .astc5x4, .wzyx, textureOnly⟩,
  ⟨.astc5x5UnormBlock, .astc5x5, .wzyx, textureOnly⟩,
  ⟨.astc5x5SrgbBlock, .astc5x5, .wzyx, textureOnly⟩,
  ⟨.astc6x5UnormBlock, .astc6x5, .wzyx, textureOnly⟩,
  ⟨.astc6x5SrgbBlock, .astc6x5, .wzyx, textureOnly⟩,
  ⟨.astc6x6UnormBlock, .astc6x6, .wzyx, textureOnly⟩,
  ⟨.astc6x6SrgbBlock, .astc6x6, .wzyx, textureOnly⟩,
  ⟨.astc8x5UnormBlock, .astc8x5, .wzyx, textureOnly⟩,
  ⟨.astc8x5SrgbBlock, .astc8x5, .wzyx, textureOnly⟩,
  ⟨.astc8x6UnormBlock, .astc8x6, .wzyx, textureOnly⟩,
  ⟨.astc8x6SrgbBlock, .astc8x6, .wzyx, textureOnly⟩,
  ⟨.astc8x8UnormBlock, .astc8x8, .wzyx, textureOnly⟩,
  ⟨.astc8x8SrgbBlock, .astc8x8, .wzyx, textureOnly⟩,
  ⟨.astc10x5UnormBlock, .astc10x5, .wzyx, textureOnly⟩,
  ⟨.astc10x5SrgbBlock, .astc10x5, .wzyx, textureOnly⟩,
  ⟨.astc10x6UnormBlock, .astc10x6, .wzyx, textureOnly⟩,
  ⟨.astc10x6SrgbBlock, .astc10x6, .wzyx, textureOnly⟩,
  ⟨.astc10x8UnormBlock, .astc10x8, .wzyx, textureOnly⟩,
  ⟨.astc10x8SrgbBlock, .astc10x8, .wzyx, textureOnly⟩,
  ⟨.astc10x10UnormBlock, .astc10x10, .wzyx, textureOnly⟩,
  ⟨.astc10x10SrgbBlock, .astc10x10, .wzyx, textureOnly⟩,
  ⟨.astc12x10UnormBlock, .astc12x10, .wzyx, textureOnly⟩,
  ⟨.astc12x10SrgbBlock, .astc12x10, .wzyx, textureOnly⟩,
  ⟨.astc12x12UnormBlock, .astc12x12, .wzyx, textureOnly⟩,
  ⟨.astc12x12SrgbBlock, .astc12x12, .wzyx, textureOnly⟩,
  ⟨.packed422Gbgr, .packed422Rgrb, .wzyx, textureOnly⟩,
  ⟨.packed422Bgrg, .packed422Grbr, .wzyx, textureOnly⟩,
  ⟨.biplanar420, .biplanar420, .wzyx, textureOnly⟩,
  ⟨.triplanar420, .triplanar420, .wzyx, textureOnly⟩]

end Row

def Code.asColor (c : Code) : Code :=
  if c = .x8Z24Unorm ∨ c = .z24UnormS8Uint then .unorm8x4 else c

namespace Row

/-- Rows enter in table order; a later row for a format replaces an earlier one. -/
def index : Format → Option Row :=
  table.foldl (fun found row f ↦ if f = row.format then some row else found f) fun _ ↦ none

theorem mem_of_index {f : Format} {r : Row} (h : index f = some r) :
    r ∈ table ∧ r.format = f := by
  suffices ∀ (rows : List Row) (found : Format → Option Row),
      (∀ r, found f = some r → r ∈ table ∧ r.format = f) → (∀ r ∈ rows, r ∈ table) →
      ∀ r, rows.foldl (fun found row f ↦ if f = row.format then some row else found f) found f =
        some r → r ∈ table ∧ r.format = f from
    this table _ (fun _ h ↦ by simp at h) (fun _ h ↦ h) r h
  intro rows
  induction rows with
  | nil => exact fun found hf _ r h ↦ hf r h
  | cons row rows ih =>
    intro found hf hrows
    refine ih _ (fun r h ↦ ?_) fun r hr ↦ hrows r (.tail _ hr)
    dsimp only at h
    split at h
    · cases h
      exact ⟨hrows row (.head _), (by assumption : f = row.format).symm⟩
    · exact hf r h

/-- A tiled surface keeps its components in canonical order. A vertex buffer is never tiled. -/
def encoding? (r : Row) (stage : Stage) (mode : TileMode) : Option Encoding :=
  if stage ∈ r.support then
    match stage with
    | .vertex => some ⟨r.code, r.swap⟩
    | .color | .texture => some ⟨r.code.asColor, if mode.isTiled then .wzyx else r.swap⟩
  else none

end Row

namespace Format

def known : List Format := Row.table.map Row.format

def row? (f : Format) : Option Row := Row.index f

def encoding? (f : Format) (stage : Stage) (mode : TileMode) : Option Encoding :=
  f.row?.bind fun r ↦ r.encoding? stage mode

def vertexEncoding? (f : Format) : Option Encoding := f.encoding? .vertex .linear

def colorEncoding? (f : Format) (mode : TileMode) : Option Encoding := f.encoding? .color mode

def textureEncoding? (f : Format) (mode : TileMode) : Option Encoding := f.encoding? .texture mode

def acceptedByVertex (f : Format) : Bool := f.vertexEncoding?.isSome

def acceptedByColor (f : Format) : Bool := (f.colorEncoding? .linear).isSome

def acceptedByTexture (f : Format) : Bool := (f.textureEncoding? .linear).isSome

def depthFormat? (f : Format) : Option DepthFormat :=
  if f = d16Unorm then some .d16
  else if f = x8D24UnormPack32 ∨ f = d24UnormS8Uint then some .d24S8
  else if f = d32Sfloat ∨ f = d32SfloatS8Uint ∨ f = s8Uint then some .d32
  else none

end Format

end TexelFormats
