import TexelFormats.Flags

namespace TexelFormats

/-- What a device can do with a format in one arrangement of memory. -/
inductive Feature where
  | sampledImage | storageImage | storageImageAtomic | uniformTexelBuffer | storageTexelBuffer
  | storageTexelBufferAtomic | vertexBuffer | colorAttachment | colorAttachmentBlend
  | depthStencilAttachment | blitSrc | blitDst | sampledImageFilterLinear
  | sampledImageFilterCubic | transferSrc | transferDst | sampledImageFilterMinmax
  | midpointChromaSamples | sampledImageYcbcrConversionLinearFilter
  | sampledImageYcbcrConversionSeparateReconstructionFilter
  | sampledImageYcbcrConversionChromaReconstructionExplicit
  | sampledImageYcbcrConversionChromaReconstructionExplicitForceable | disjoint
  | cositedChromaSamples | fragmentDensityMapExt | videoDecodeOutputKhr | videoDecodeDpbKhr
  | videoEncodeInputKhr | videoEncodeDpbKhr | accelerationStructureVertexBufferKhr
  | fragmentShadingRateAttachmentKhr | storageReadWithoutFormat | storageWriteWithoutFormat
  | sampledImageDepthComparison | weightImageQcom | weightSampledImageQcom | blockMatchingQcom
  | boxFilterSampledQcom | linearColorAttachmentNv | reserved39Ext | opticalFlowImageNv
  | opticalFlowVectorNv | opticalFlowCostNv | reserved44Ext | reserved45Ext | reserved46Ext
  deriving DecidableEq

namespace Feature

def bit : Feature → Fin 64
  | sampledImage => 0
  | storageImage => 1
  | storageImageAtomic => 2
  | uniformTexelBuffer => 3
  | storageTexelBuffer => 4
  | storageTexelBufferAtomic => 5
  | vertexBuffer => 6
  | colorAttachment => 7
  | colorAttachmentBlend => 8
  | depthStencilAttachment => 9
  | blitSrc => 10
  | blitDst => 11
  | sampledImageFilterLinear => 12
  | sampledImageFilterCubic => 13
  | transferSrc => 14
  | transferDst => 15
  | sampledImageFilterMinmax => 16
  | midpointChromaSamples => 17
  | sampledImageYcbcrConversionLinearFilter => 18
  | sampledImageYcbcrConversionSeparateReconstructionFilter => 19
  | sampledImageYcbcrConversionChromaReconstructionExplicit => 20
  | sampledImageYcbcrConversionChromaReconstructionExplicitForceable => 21
  | disjoint => 22
  | cositedChromaSamples => 23
  | fragmentDensityMapExt => 24
  | videoDecodeOutputKhr => 25
  | videoDecodeDpbKhr => 26
  | videoEncodeInputKhr => 27
  | videoEncodeDpbKhr => 28
  | accelerationStructureVertexBufferKhr => 29
  | fragmentShadingRateAttachmentKhr => 30
  | storageReadWithoutFormat => 31
  | storageWriteWithoutFormat => 32
  | sampledImageDepthComparison => 33
  | weightImageQcom => 34
  | weightSampledImageQcom => 35
  | blockMatchingQcom => 36
  | boxFilterSampledQcom => 37
  | linearColorAttachmentNv => 38
  | reserved39Ext => 39
  | opticalFlowImageNv => 40
  | opticalFlowVectorNv => 41
  | opticalFlowCostNv => 42
  | reserved44Ext => 44
  | reserved45Ext => 45
  | reserved46Ext => 46

def name : Feature → String
  | sampledImage => "SAMPLED_IMAGE"
  | storageImage => "STORAGE_IMAGE"
  | storageImageAtomic => "STORAGE_IMAGE_ATOMIC"
  | uniformTexelBuffer => "UNIFORM_TEXEL_BUFFER"
  | storageTexelBuffer => "STORAGE_TEXEL_BUFFER"
  | storageTexelBufferAtomic => "STORAGE_TEXEL_BUFFER_ATOMIC"
  | vertexBuffer => "VERTEX_BUFFER"
  | colorAttachment => "COLOR_ATTACHMENT"
  | colorAttachmentBlend => "COLOR_ATTACHMENT_BLEND"
  | depthStencilAttachment => "DEPTH_STENCIL_ATTACHMENT"
  | blitSrc => "BLIT_SRC"
  | blitDst => "BLIT_DST"
  | sampledImageFilterLinear => "SAMPLED_IMAGE_FILTER_LINEAR"
  | sampledImageFilterCubic => "SAMPLED_IMAGE_FILTER_CUBIC"
  | transferSrc => "TRANSFER_SRC"
  | transferDst => "TRANSFER_DST"
  | sampledImageFilterMinmax => "SAMPLED_IMAGE_FILTER_MINMAX"
  | midpointChromaSamples => "MIDPOINT_CHROMA_SAMPLES"
  | sampledImageYcbcrConversionLinearFilter => "SAMPLED_IMAGE_YCBCR_CONVERSION_LINEAR_FILTER"
  | sampledImageYcbcrConversionSeparateReconstructionFilter => "SAMPLED_IMAGE_YCBCR_CONVERSION_SEPARATE_RECONSTRUCTION_FILTER"
  | sampledImageYcbcrConversionChromaReconstructionExplicit => "SAMPLED_IMAGE_YCBCR_CONVERSION_CHROMA_RECONSTRUCTION_EXPLICIT"
  | sampledImageYcbcrConversionChromaReconstructionExplicitForceable => "SAMPLED_IMAGE_YCBCR_CONVERSION_CHROMA_RECONSTRUCTION_EXPLICIT_FORCEABLE"
  | disjoint => "DISJOINT"
  | cositedChromaSamples => "COSITED_CHROMA_SAMPLES"
  | fragmentDensityMapExt => "FRAGMENT_DENSITY_MAP_EXT"
  | videoDecodeOutputKhr => "VIDEO_DECODE_OUTPUT_KHR"
  | videoDecodeDpbKhr => "VIDEO_DECODE_DPB_KHR"
  | videoEncodeInputKhr => "VIDEO_ENCODE_INPUT_KHR"
  | videoEncodeDpbKhr => "VIDEO_ENCODE_DPB_KHR"
  | accelerationStructureVertexBufferKhr => "ACCELERATION_STRUCTURE_VERTEX_BUFFER_KHR"
  | fragmentShadingRateAttachmentKhr => "FRAGMENT_SHADING_RATE_ATTACHMENT_KHR"
  | storageReadWithoutFormat => "STORAGE_READ_WITHOUT_FORMAT"
  | storageWriteWithoutFormat => "STORAGE_WRITE_WITHOUT_FORMAT"
  | sampledImageDepthComparison => "SAMPLED_IMAGE_DEPTH_COMPARISON"
  | weightImageQcom => "WEIGHT_IMAGE_QCOM"
  | weightSampledImageQcom => "WEIGHT_SAMPLED_IMAGE_QCOM"
  | blockMatchingQcom => "BLOCK_MATCHING_QCOM"
  | boxFilterSampledQcom => "BOX_FILTER_SAMPLED_QCOM"
  | linearColorAttachmentNv => "LINEAR_COLOR_ATTACHMENT_NV"
  | reserved39Ext => "RESERVED_39_EXT"
  | opticalFlowImageNv => "OPTICAL_FLOW_IMAGE_NV"
  | opticalFlowVectorNv => "OPTICAL_FLOW_VECTOR_NV"
  | opticalFlowCostNv => "OPTICAL_FLOW_COST_NV"
  | reserved44Ext => "RESERVED_44_EXT"
  | reserved45Ext => "RESERVED_45_EXT"
  | reserved46Ext => "RESERVED_46_EXT"

/-- In the order in which they are written, which is not the order of the bits. -/
def all : List Feature :=
  [.sampledImage, .storageImage, .storageImageAtomic, .uniformTexelBuffer, .storageTexelBuffer,
   .storageTexelBufferAtomic, .vertexBuffer, .colorAttachment, .colorAttachmentBlend,
   .depthStencilAttachment, .blitSrc, .blitDst, .sampledImageFilterLinear,
   .sampledImageFilterCubic, .transferSrc, .transferDst, .sampledImageFilterMinmax,
   .midpointChromaSamples, .sampledImageYcbcrConversionLinearFilter,
   .sampledImageYcbcrConversionSeparateReconstructionFilter,
   .sampledImageYcbcrConversionChromaReconstructionExplicit,
   .sampledImageYcbcrConversionChromaReconstructionExplicitForceable, .disjoint,
   .cositedChromaSamples, .storageReadWithoutFormat, .storageWriteWithoutFormat,
   .sampledImageDepthComparison, .videoDecodeOutputKhr, .videoDecodeDpbKhr,
   .accelerationStructureVertexBufferKhr, .fragmentDensityMapExt,
   .fragmentShadingRateAttachmentKhr, .reserved44Ext, .reserved45Ext, .reserved46Ext,
   .videoEncodeInputKhr, .videoEncodeDpbKhr, .linearColorAttachmentNv, .weightImageQcom,
   .weightSampledImageQcom, .blockMatchingQcom, .boxFilterSampledQcom, .reserved39Ext,
   .opticalFlowImageNv, .opticalFlowVectorNv, .opticalFlowCostNv]

instance : NamedFlag Feature 64 where
  bit := bit
  all := all
  find_bit := by intro i; cases i <;> rfl
  name := name

end Feature

abbrev FeatureSet := FlagSet Feature 64

end TexelFormats
