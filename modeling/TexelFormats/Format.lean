import TexelFormats.Text

namespace TexelFormats

/-- The number by which a texel format is known; a number that names no format is allowed. -/
structure Format where
  raw : Int32
  deriving DecidableEq

namespace Format

def undefined : Format := ⟨0⟩
def r4g4UnormPack8 : Format := ⟨1⟩
def r4g4b4a4UnormPack16 : Format := ⟨2⟩
def b4g4r4a4UnormPack16 : Format := ⟨3⟩
def r5g6b5UnormPack16 : Format := ⟨4⟩
def b5g6r5UnormPack16 : Format := ⟨5⟩
def r5g5b5a1UnormPack16 : Format := ⟨6⟩
def b5g5r5a1UnormPack16 : Format := ⟨7⟩
def a1r5g5b5UnormPack16 : Format := ⟨8⟩
def r8Unorm : Format := ⟨9⟩
def r8Snorm : Format := ⟨10⟩
def r8Uscaled : Format := ⟨11⟩
def r8Sscaled : Format := ⟨12⟩
def r8Uint : Format := ⟨13⟩
def r8Sint : Format := ⟨14⟩
def r8Srgb : Format := ⟨15⟩
def r8g8Unorm : Format := ⟨16⟩
def r8g8Snorm : Format := ⟨17⟩
def r8g8Uscaled : Format := ⟨18⟩
def r8g8Sscaled : Format := ⟨19⟩
def r8g8Uint : Format := ⟨20⟩
def r8g8Sint : Format := ⟨21⟩
def r8g8Srgb : Format := ⟨22⟩
def r8g8b8Unorm : Format := ⟨23⟩
def r8g8b8Snorm : Format := ⟨24⟩
def r8g8b8Uscaled : Format := ⟨25⟩
def r8g8b8Sscaled : Format := ⟨26⟩
def r8g8b8Uint : Format := ⟨27⟩
def r8g8b8Sint : Format := ⟨28⟩
def r8g8b8Srgb : Format := ⟨29⟩
def b8g8r8Unorm : Format := ⟨30⟩
def b8g8r8Snorm : Format := ⟨31⟩
def b8g8r8Uscaled : Format := ⟨32⟩
def b8g8r8Sscaled : Format := ⟨33⟩
def b8g8r8Uint : Format := ⟨34⟩
def b8g8r8Sint : Format := ⟨35⟩
def b8g8r8Srgb : Format := ⟨36⟩
def r8g8b8a8Unorm : Format := ⟨37⟩
def r8g8b8a8Snorm : Format := ⟨38⟩
def r8g8b8a8Uscaled : Format := ⟨39⟩
def r8g8b8a8Sscaled : Format := ⟨40⟩
def r8g8b8a8Uint : Format := ⟨41⟩
def r8g8b8a8Sint : Format := ⟨42⟩
def r8g8b8a8Srgb : Format := ⟨43⟩
def b8g8r8a8Unorm : Format := ⟨44⟩
def b8g8r8a8Snorm : Format := ⟨45⟩
def b8g8r8a8Uscaled : Format := ⟨46⟩
def b8g8r8a8Sscaled : Format := ⟨47⟩
def b8g8r8a8Uint : Format := ⟨48⟩
def b8g8r8a8Sint : Format := ⟨49⟩
def b8g8r8a8Srgb : Format := ⟨50⟩
def a8b8g8r8UnormPack32 : Format := ⟨51⟩
def a8b8g8r8SnormPack32 : Format := ⟨52⟩
def a8b8g8r8UscaledPack32 : Format := ⟨53⟩
def a8b8g8r8SscaledPack32 : Format := ⟨54⟩
def a8b8g8r8UintPack32 : Format := ⟨55⟩
def a8b8g8r8SintPack32 : Format := ⟨56⟩
def a8b8g8r8SrgbPack32 : Format := ⟨57⟩
def a2r10g10b10UnormPack32 : Format := ⟨58⟩
def a2r10g10b10SnormPack32 : Format := ⟨59⟩
def a2r10g10b10UscaledPack32 : Format := ⟨60⟩
def a2r10g10b10SscaledPack32 : Format := ⟨61⟩
def a2r10g10b10UintPack32 : Format := ⟨62⟩
def a2r10g10b10SintPack32 : Format := ⟨63⟩
def a2b10g10r10UnormPack32 : Format := ⟨64⟩
def a2b10g10r10SnormPack32 : Format := ⟨65⟩
def a2b10g10r10UscaledPack32 : Format := ⟨66⟩
def a2b10g10r10SscaledPack32 : Format := ⟨67⟩
def a2b10g10r10UintPack32 : Format := ⟨68⟩
def a2b10g10r10SintPack32 : Format := ⟨69⟩
def r16Unorm : Format := ⟨70⟩
def r16Snorm : Format := ⟨71⟩
def r16Uscaled : Format := ⟨72⟩
def r16Sscaled : Format := ⟨73⟩
def r16Uint : Format := ⟨74⟩
def r16Sint : Format := ⟨75⟩
def r16Sfloat : Format := ⟨76⟩
def r16g16Unorm : Format := ⟨77⟩
def r16g16Snorm : Format := ⟨78⟩
def r16g16Uscaled : Format := ⟨79⟩
def r16g16Sscaled : Format := ⟨80⟩
def r16g16Uint : Format := ⟨81⟩
def r16g16Sint : Format := ⟨82⟩
def r16g16Sfloat : Format := ⟨83⟩
def r16g16b16Unorm : Format := ⟨84⟩
def r16g16b16Snorm : Format := ⟨85⟩
def r16g16b16Uscaled : Format := ⟨86⟩
def r16g16b16Sscaled : Format := ⟨87⟩
def r16g16b16Uint : Format := ⟨88⟩
def r16g16b16Sint : Format := ⟨89⟩
def r16g16b16Sfloat : Format := ⟨90⟩
def r16g16b16a16Unorm : Format := ⟨91⟩
def r16g16b16a16Snorm : Format := ⟨92⟩
def r16g16b16a16Uscaled : Format := ⟨93⟩
def r16g16b16a16Sscaled : Format := ⟨94⟩
def r16g16b16a16Uint : Format := ⟨95⟩
def r16g16b16a16Sint : Format := ⟨96⟩
def r16g16b16a16Sfloat : Format := ⟨97⟩
def r32Uint : Format := ⟨98⟩
def r32Sint : Format := ⟨99⟩
def r32Sfloat : Format := ⟨100⟩
def r32g32Uint : Format := ⟨101⟩
def r32g32Sint : Format := ⟨102⟩
def r32g32Sfloat : Format := ⟨103⟩
def r32g32b32Uint : Format := ⟨104⟩
def r32g32b32Sint : Format := ⟨105⟩
def r32g32b32Sfloat : Format := ⟨106⟩
def r32g32b32a32Uint : Format := ⟨107⟩
def r32g32b32a32Sint : Format := ⟨108⟩
def r32g32b32a32Sfloat : Format := ⟨109⟩
def b10g11r11UfloatPack32 : Format := ⟨122⟩
def e5b9g9r9UfloatPack32 : Format := ⟨123⟩
def d16Unorm : Format := ⟨124⟩
def x8D24UnormPack32 : Format := ⟨125⟩
def d32Sfloat : Format := ⟨126⟩
def s8Uint : Format := ⟨127⟩
def d16UnormS8Uint : Format := ⟨128⟩
def d24UnormS8Uint : Format := ⟨129⟩
def d32SfloatS8Uint : Format := ⟨130⟩
def bc1RgbUnormBlock : Format := ⟨131⟩
def bc1RgbSrgbBlock : Format := ⟨132⟩
def bc1RgbaUnormBlock : Format := ⟨133⟩
def bc1RgbaSrgbBlock : Format := ⟨134⟩
def bc2UnormBlock : Format := ⟨135⟩
def bc2SrgbBlock : Format := ⟨136⟩
def bc3UnormBlock : Format := ⟨137⟩
def bc3SrgbBlock : Format := ⟨138⟩
def bc4UnormBlock : Format := ⟨139⟩
def bc4SnormBlock : Format := ⟨140⟩
def bc5UnormBlock : Format := ⟨141⟩
def bc5SnormBlock : Format := ⟨142⟩
def bc6hUfloatBlock : Format := ⟨143⟩
def bc6hSfloatBlock : Format := ⟨144⟩
def bc7UnormBlock : Format := ⟨145⟩
def bc7SrgbBlock : Format := ⟨146⟩
def etc2R8g8b8UnormBlock : Format := ⟨147⟩
def etc2R8g8b8SrgbBlock : Format := ⟨148⟩
def etc2R8g8b8a1UnormBlock : Format := ⟨149⟩
def etc2R8g8b8a1SrgbBlock : Format := ⟨150⟩
def etc2R8g8b8a8UnormBlock : Format := ⟨151⟩
def etc2R8g8b8a8SrgbBlock : Format := ⟨152⟩
def eacR11UnormBlock : Format := ⟨153⟩
def eacR11SnormBlock : Format := ⟨154⟩
def eacR11g11UnormBlock : Format := ⟨155⟩
def eacR11g11SnormBlock : Format := ⟨156⟩
def astc4x4UnormBlock : Format := ⟨157⟩
def astc4x4SrgbBlock : Format := ⟨158⟩
def astc5x4UnormBlock : Format := ⟨159⟩
def astc5x4SrgbBlock : Format := ⟨160⟩
def astc5x5UnormBlock : Format := ⟨161⟩
def astc5x5SrgbBlock : Format := ⟨162⟩
def astc6x5UnormBlock : Format := ⟨163⟩
def astc6x5SrgbBlock : Format := ⟨164⟩
def astc6x6UnormBlock : Format := ⟨165⟩
def astc6x6SrgbBlock : Format := ⟨166⟩
def astc8x5UnormBlock : Format := ⟨167⟩
def astc8x5SrgbBlock : Format := ⟨168⟩
def astc8x6UnormBlock : Format := ⟨169⟩
def astc8x6SrgbBlock : Format := ⟨170⟩
def astc8x8UnormBlock : Format := ⟨171⟩
def astc8x8SrgbBlock : Format := ⟨172⟩
def astc10x5UnormBlock : Format := ⟨173⟩
def astc10x5SrgbBlock : Format := ⟨174⟩
def astc10x6UnormBlock : Format := ⟨175⟩
def astc10x6SrgbBlock : Format := ⟨176⟩
def astc10x8UnormBlock : Format := ⟨177⟩
def astc10x8SrgbBlock : Format := ⟨178⟩
def astc10x10UnormBlock : Format := ⟨179⟩
def astc10x10SrgbBlock : Format := ⟨180⟩
def astc12x10UnormBlock : Format := ⟨181⟩
def astc12x10SrgbBlock : Format := ⟨182⟩
def astc12x12UnormBlock : Format := ⟨183⟩
def astc12x12SrgbBlock : Format := ⟨184⟩
def packed422Gbgr : Format := ⟨1000156000⟩
def packed422Bgrg : Format := ⟨1000156001⟩
def triplanar420 : Format := ⟨1000156002⟩
def biplanar420 : Format := ⟨1000156003⟩
def a4r4g4b4UnormPack16 : Format := ⟨1000340000⟩
def a4b4g4r4UnormPack16 : Format := ⟨1000340001⟩

def names : List (Int32 × String) := [
  (0, "UNDEFINED"), (1, "R4G4_UNORM_PACK8"), (2, "R4G4B4A4_UNORM_PACK16"),
  (3, "B4G4R4A4_UNORM_PACK16"), (4, "R5G6B5_UNORM_PACK16"), (5, "B5G6R5_UNORM_PACK16"),
  (6, "R5G5B5A1_UNORM_PACK16"), (7, "B5G5R5A1_UNORM_PACK16"), (8, "A1R5G5B5_UNORM_PACK16"),
  (9, "R8_UNORM"), (10, "R8_SNORM"), (11, "R8_USCALED"), (12, "R8_SSCALED"), (13, "R8_UINT"),
  (14, "R8_SINT"), (15, "R8_SRGB"), (16, "R8G8_UNORM"), (17, "R8G8_SNORM"), (18, "R8G8_USCALED"),
  (19, "R8G8_SSCALED"), (20, "R8G8_UINT"), (21, "R8G8_SINT"), (22, "R8G8_SRGB"),
  (23, "R8G8B8_UNORM"), (24, "R8G8B8_SNORM"), (25, "R8G8B8_USCALED"), (26, "R8G8B8_SSCALED"),
  (27, "R8G8B8_UINT"), (28, "R8G8B8_SINT"), (29, "R8G8B8_SRGB"), (30, "B8G8R8_UNORM"),
  (31, "B8G8R8_SNORM"), (32, "B8G8R8_USCALED"), (33, "B8G8R8_SSCALED"), (34, "B8G8R8_UINT"),
  (35, "B8G8R8_SINT"), (36, "B8G8R8_SRGB"), (37, "R8G8B8A8_UNORM"), (38, "R8G8B8A8_SNORM"),
  (39, "R8G8B8A8_USCALED"), (40, "R8G8B8A8_SSCALED"), (41, "R8G8B8A8_UINT"),
  (42, "R8G8B8A8_SINT"), (43, "R8G8B8A8_SRGB"), (44, "B8G8R8A8_UNORM"), (45, "B8G8R8A8_SNORM"),
  (46, "B8G8R8A8_USCALED"), (47, "B8G8R8A8_SSCALED"), (48, "B8G8R8A8_UINT"),
  (49, "B8G8R8A8_SINT"), (50, "B8G8R8A8_SRGB"), (51, "A8B8G8R8_UNORM_PACK32"),
  (52, "A8B8G8R8_SNORM_PACK32"), (53, "A8B8G8R8_USCALED_PACK32"), (54, "A8B8G8R8_SSCALED_PACK32"),
  (55, "A8B8G8R8_UINT_PACK32"), (56, "A8B8G8R8_SINT_PACK32"), (57, "A8B8G8R8_SRGB_PACK32"),
  (58, "A2R10G10B10_UNORM_PACK32"), (59, "A2R10G10B10_SNORM_PACK32"),
  (60, "A2R10G10B10_USCALED_PACK32"), (61, "A2R10G10B10_SSCALED_PACK32"),
  (62, "A2R10G10B10_UINT_PACK32"), (63, "A2R10G10B10_SINT_PACK32"),
  (64, "A2B10G10R10_UNORM_PACK32"), (65, "A2B10G10R10_SNORM_PACK32"),
  (66, "A2B10G10R10_USCALED_PACK32"), (67, "A2B10G10R10_SSCALED_PACK32"),
  (68, "A2B10G10R10_UINT_PACK32"), (69, "A2B10G10R10_SINT_PACK32"), (70, "R16_UNORM"),
  (71, "R16_SNORM"), (72, "R16_USCALED"), (73, "R16_SSCALED"), (74, "R16_UINT"), (75, "R16_SINT"),
  (76, "R16_SFLOAT"), (77, "R16G16_UNORM"), (78, "R16G16_SNORM"), (79, "R16G16_USCALED"),
  (80, "R16G16_SSCALED"), (81, "R16G16_UINT"), (82, "R16G16_SINT"), (83, "R16G16_SFLOAT"),
  (84, "R16G16B16_UNORM"), (85, "R16G16B16_SNORM"), (86, "R16G16B16_USCALED"),
  (87, "R16G16B16_SSCALED"), (88, "R16G16B16_UINT"), (89, "R16G16B16_SINT"),
  (90, "R16G16B16_SFLOAT"), (91, "R16G16B16A16_UNORM"), (92, "R16G16B16A16_SNORM"),
  (93, "R16G16B16A16_USCALED"), (94, "R16G16B16A16_SSCALED"), (95, "R16G16B16A16_UINT"),
  (96, "R16G16B16A16_SINT"), (97, "R16G16B16A16_SFLOAT"), (98, "R32_UINT"), (99, "R32_SINT"),
  (100, "R32_SFLOAT"), (101, "R32G32_UINT"), (102, "R32G32_SINT"), (103, "R32G32_SFLOAT"),
  (104, "R32G32B32_UINT"), (105, "R32G32B32_SINT"), (106, "R32G32B32_SFLOAT"),
  (107, "R32G32B32A32_UINT"), (108, "R32G32B32A32_SINT"), (109, "R32G32B32A32_SFLOAT"),
  (110, "R64_UINT"), (111, "R64_SINT"), (112, "R64_SFLOAT"), (113, "R64G64_UINT"),
  (114, "R64G64_SINT"), (115, "R64G64_SFLOAT"), (116, "R64G64B64_UINT"), (117, "R64G64B64_SINT"),
  (118, "R64G64B64_SFLOAT"), (119, "R64G64B64A64_UINT"), (120, "R64G64B64A64_SINT"),
  (121, "R64G64B64A64_SFLOAT"), (122, "B10G11R11_UFLOAT_PACK32"), (123, "E5B9G9R9_UFLOAT_PACK32"),
  (124, "D16_UNORM"), (125, "X8_D24_UNORM_PACK32"), (126, "D32_SFLOAT"), (127, "S8_UINT"),
  (128, "D16_UNORM_S8_UINT"), (129, "D24_UNORM_S8_UINT"), (130, "D32_SFLOAT_S8_UINT"),
  (131, "BC1_RGB_UNORM_BLOCK"), (132, "BC1_RGB_SRGB_BLOCK"), (133, "BC1_RGBA_UNORM_BLOCK"),
  (134, "BC1_RGBA_SRGB_BLOCK"), (135, "BC2_UNORM_BLOCK"), (136, "BC2_SRGB_BLOCK"),
  (137, "BC3_UNORM_BLOCK"), (138, "BC3_SRGB_BLOCK"), (139, "BC4_UNORM_BLOCK"),
  (140, "BC4_SNORM_BLOCK"), (141, "BC5_UNORM_BLOCK"), (142, "BC5_SNORM_BLOCK"),
  (143, "BC6H_UFLOAT_BLOCK"), (144, "BC6H_SFLOAT_BLOCK"), (145, "BC7_UNORM_BLOCK"),
  (146, "BC7_SRGB_BLOCK"), (147, "ETC2_R8G8B8_UNORM_BLOCK"), (148, "ETC2_R8G8B8_SRGB_BLOCK"),
  (149, "ETC2_R8G8B8A1_UNORM_BLOCK"), (150, "ETC2_R8G8B8A1_SRGB_BLOCK"),
  (151, "ETC2_R8G8B8A8_UNORM_BLOCK"), (152, "ETC2_R8G8B8A8_SRGB_BLOCK"),
  (153, "EAC_R11_UNORM_BLOCK"), (154, "EAC_R11_SNORM_BLOCK"), (155, "EAC_R11G11_UNORM_BLOCK"),
  (156, "EAC_R11G11_SNORM_BLOCK"), (157, "ASTC_4X4_UNORM_BLOCK"), (158, "ASTC_4X4_SRGB_BLOCK"),
  (159, "ASTC_5X4_UNORM_BLOCK"), (160, "ASTC_5X4_SRGB_BLOCK"), (161, "ASTC_5X5_UNORM_BLOCK"),
  (162, "ASTC_5X5_SRGB_BLOCK"), (163, "ASTC_6X5_UNORM_BLOCK"), (164, "ASTC_6X5_SRGB_BLOCK"),
  (165, "ASTC_6X6_UNORM_BLOCK"), (166, "ASTC_6X6_SRGB_BLOCK"), (167, "ASTC_8X5_UNORM_BLOCK"),
  (168, "ASTC_8X5_SRGB_BLOCK"), (169, "ASTC_8X6_UNORM_BLOCK"), (170, "ASTC_8X6_SRGB_BLOCK"),
  (171, "ASTC_8X8_UNORM_BLOCK"), (172, "ASTC_8X8_SRGB_BLOCK"), (173, "ASTC_10X5_UNORM_BLOCK"),
  (174, "ASTC_10X5_SRGB_BLOCK"), (175, "ASTC_10X6_UNORM_BLOCK"), (176, "ASTC_10X6_SRGB_BLOCK"),
  (177, "ASTC_10X8_UNORM_BLOCK"), (178, "ASTC_10X8_SRGB_BLOCK"), (179, "ASTC_10X10_UNORM_BLOCK"),
  (180, "ASTC_10X10_SRGB_BLOCK"), (181, "ASTC_12X10_UNORM_BLOCK"), (182, "ASTC_12X10_SRGB_BLOCK"),
  (183, "ASTC_12X12_UNORM_BLOCK"), (184, "ASTC_12X12_SRGB_BLOCK"),
  (1000054000, "PVRTC1_2BPP_UNORM_BLOCK_IMG"), (1000054001, "PVRTC1_4BPP_UNORM_BLOCK_IMG"),
  (1000054002, "PVRTC2_2BPP_UNORM_BLOCK_IMG"), (1000054003, "PVRTC2_4BPP_UNORM_BLOCK_IMG"),
  (1000054004, "PVRTC1_2BPP_SRGB_BLOCK_IMG"), (1000054005, "PVRTC1_4BPP_SRGB_BLOCK_IMG"),
  (1000054006, "PVRTC2_2BPP_SRGB_BLOCK_IMG"), (1000054007, "PVRTC2_4BPP_SRGB_BLOCK_IMG"),
  (1000066000, "ASTC_4X4_SFLOAT_BLOCK"), (1000066001, "ASTC_5X4_SFLOAT_BLOCK"),
  (1000066002, "ASTC_5X5_SFLOAT_BLOCK"), (1000066003, "ASTC_6X5_SFLOAT_BLOCK"),
  (1000066004, "ASTC_6X6_SFLOAT_BLOCK"), (1000066005, "ASTC_8X5_SFLOAT_BLOCK"),
  (1000066006, "ASTC_8X6_SFLOAT_BLOCK"), (1000066007, "ASTC_8X8_SFLOAT_BLOCK"),
  (1000066008, "ASTC_10X5_SFLOAT_BLOCK"), (1000066009, "ASTC_10X6_SFLOAT_BLOCK"),
  (1000066010, "ASTC_10X8_SFLOAT_BLOCK"), (1000066011, "ASTC_10X10_SFLOAT_BLOCK"),
  (1000066012, "ASTC_12X10_SFLOAT_BLOCK"), (1000066013, "ASTC_12X12_SFLOAT_BLOCK"),
  (1000156000, "G8B8G8R8_422_UNORM"), (1000156001, "B8G8R8G8_422_UNORM"),
  (1000156002, "G8_B8_R8_3PLANE_420_UNORM"), (1000156003, "G8_B8R8_2PLANE_420_UNORM"),
  (1000156004, "G8_B8_R8_3PLANE_422_UNORM"), (1000156005, "G8_B8R8_2PLANE_422_UNORM"),
  (1000156006, "G8_B8_R8_3PLANE_444_UNORM"), (1000156007, "R10X6_UNORM_PACK16"),
  (1000156008, "R10X6G10X6_UNORM_2PACK16"), (1000156009, "R10X6G10X6B10X6A10X6_UNORM_4PACK16"),
  (1000156010, "G10X6B10X6G10X6R10X6_422_UNORM_4PACK16"),
  (1000156011, "B10X6G10X6R10X6G10X6_422_UNORM_4PACK16"),
  (1000156012, "G10X6_B10X6_R10X6_3PLANE_420_UNORM_3PACK16"),
  (1000156013, "G10X6_B10X6R10X6_2PLANE_420_UNORM_3PACK16"),
  (1000156014, "G10X6_B10X6_R10X6_3PLANE_422_UNORM_3PACK16"),
  (1000156015, "G10X6_B10X6R10X6_2PLANE_422_UNORM_3PACK16"),
  (1000156016, "G10X6_B10X6_R10X6_3PLANE_444_UNORM_3PACK16"), (1000156017, "R12X4_UNORM_PACK16"),
  (1000156018, "R12X4G12X4_UNORM_2PACK16"), (1000156019, "R12X4G12X4B12X4A12X4_UNORM_4PACK16"),
  (1000156020, "G12X4B12X4G12X4R12X4_422_UNORM_4PACK16"),
  (1000156021, "B12X4G12X4R12X4G12X4_422_UNORM_4PACK16"),
  (1000156022, "G12X4_B12X4_R12X4_3PLANE_420_UNORM_3PACK16"),
  (1000156023, "G12X4_B12X4R12X4_2PLANE_420_UNORM_3PACK16"),
  (1000156024, "G12X4_B12X4_R12X4_3PLANE_422_UNORM_3PACK16"),
  (1000156025, "G12X4_B12X4R12X4_2PLANE_422_UNORM_3PACK16"),
  (1000156026, "G12X4_B12X4_R12X4_3PLANE_444_UNORM_3PACK16"),
  (1000156027, "G16B16G16R16_422_UNORM"), (1000156028, "B16G16R16G16_422_UNORM"),
  (1000156029, "G16_B16_R16_3PLANE_420_UNORM"), (1000156030, "G16_B16R16_2PLANE_420_UNORM"),
  (1000156031, "G16_B16_R16_3PLANE_422_UNORM"), (1000156032, "G16_B16R16_2PLANE_422_UNORM"),
  (1000156033, "G16_B16_R16_3PLANE_444_UNORM"), (1000288000, "ASTC_3X3X3_UNORM_BLOCK_EXT"),
  (1000288001, "ASTC_3X3X3_SRGB_BLOCK_EXT"), (1000288002, "ASTC_3X3X3_SFLOAT_BLOCK_EXT"),
  (1000288003, "ASTC_4X3X3_UNORM_BLOCK_EXT"), (1000288004, "ASTC_4X3X3_SRGB_BLOCK_EXT"),
  (1000288005, "ASTC_4X3X3_SFLOAT_BLOCK_EXT"), (1000288006, "ASTC_4X4X3_UNORM_BLOCK_EXT"),
  (1000288007, "ASTC_4X4X3_SRGB_BLOCK_EXT"), (1000288008, "ASTC_4X4X3_SFLOAT_BLOCK_EXT"),
  (1000288009, "ASTC_4X4X4_UNORM_BLOCK_EXT"), (1000288010, "ASTC_4X4X4_SRGB_BLOCK_EXT"),
  (1000288011, "ASTC_4X4X4_SFLOAT_BLOCK_EXT"), (1000288012, "ASTC_5X4X4_UNORM_BLOCK_EXT"),
  (1000288013, "ASTC_5X4X4_SRGB_BLOCK_EXT"), (1000288014, "ASTC_5X4X4_SFLOAT_BLOCK_EXT"),
  (1000288015, "ASTC_5X5X4_UNORM_BLOCK_EXT"), (1000288016, "ASTC_5X5X4_SRGB_BLOCK_EXT"),
  (1000288017, "ASTC_5X5X4_SFLOAT_BLOCK_EXT"), (1000288018, "ASTC_5X5X5_UNORM_BLOCK_EXT"),
  (1000288019, "ASTC_5X5X5_SRGB_BLOCK_EXT"), (1000288020, "ASTC_5X5X5_SFLOAT_BLOCK_EXT"),
  (1000288021, "ASTC_6X5X5_UNORM_BLOCK_EXT"), (1000288022, "ASTC_6X5X5_SRGB_BLOCK_EXT"),
  (1000288023, "ASTC_6X5X5_SFLOAT_BLOCK_EXT"), (1000288024, "ASTC_6X6X5_UNORM_BLOCK_EXT"),
  (1000288025, "ASTC_6X6X5_SRGB_BLOCK_EXT"), (1000288026, "ASTC_6X6X5_SFLOAT_BLOCK_EXT"),
  (1000288027, "ASTC_6X6X6_UNORM_BLOCK_EXT"), (1000288028, "ASTC_6X6X6_SRGB_BLOCK_EXT"),
  (1000288029, "ASTC_6X6X6_SFLOAT_BLOCK_EXT"), (1000330000, "G8_B8R8_2PLANE_444_UNORM"),
  (1000330001, "G10X6_B10X6R10X6_2PLANE_444_UNORM_3PACK16"),
  (1000330002, "G12X4_B12X4R12X4_2PLANE_444_UNORM_3PACK16"),
  (1000330003, "G16_B16R16_2PLANE_444_UNORM"), (1000340000, "A4R4G4B4_UNORM_PACK16"),
  (1000340001, "A4B4G4R4_UNORM_PACK16"), (1000464000, "R16G16_S10_5_NV")]

def text (f : Format) : String := nameOrNumber names f.raw

end Format

end TexelFormats
