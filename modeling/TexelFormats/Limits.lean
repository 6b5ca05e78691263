import TexelFormats.Compression
import TexelFormats.Features
import TexelFormats.Log

namespace TexelFormats

/-- How large an image may be; all zero for an image that is not supported. -/
structure Limits where
  maxExtent : Extent
  maxMipLevels : UInt32
  maxArrayLayers : UInt32
  sampleCounts : SampleCounts
  maxResourceSize : UInt64
  deriving DecidableEq

namespace Limits

def unsupported : Limits := ⟨⟨0, 0, 0⟩, 0, 0, ∅, 0⟩

def isUnsupported (l : Limits) : Bool := l = unsupported

def maxSize : UInt64 := 4294967295

end Limits

structure Support where
  limits : Limits
  features : FeatureSet
  deriving DecidableEq

def ImageType.bounds? (t : ImageType) : Option (Extent × UInt32 × UInt32) :=
  if t = .oneD then some (⟨16384, 1, 1⟩, 15, 2048)
  else if t = .twoD then some (⟨16384, 16384, 1⟩, 15, 2048)
  else if t = .threeD then some (⟨2048, 2048, 2048⟩, 12, 1)
  else none

namespace ImageQuery

def surface (q : ImageQuery) : Surface where
  format := q.format
  imageType := q.imageType
  usage := q.usage
  stencilUsage := q.actualStencilUsage

/-- Eight samples are never offered, since not every path can take them. -/
def sampleCounts (q : ImageQuery) (features : FeatureSet) : SampleCounts :=
  if q.tiling = .optimal ∧ q.imageType = .twoD ∧
      features.Meets {.colorAttachment, .depthStencilAttachment} ∧
      .cubeCompatible ∉ q.flags ∧ .storage ∉ q.usage then
    {.one, .two, .four}
  else {.one}

def requirements : List (Usage × Feature) := [(.sampled, .sampledImage), (.storage, .storageImage),
  (.colorAttachment, .colorAttachment), (.depthStencilAttachment, .depthStencilAttachment)]

/-- The first usage whose feature is missing. With extended usage it is up to the views. -/
def unmet? (q : ImageQuery) (features : FeatureSet) : Option (Usage × Feature) :=
  if .extendedUsage ∈ q.flags then none
  else requirements.find? fun r ↦ r.1 ∈ q.usage ∧ r.2 ∉ features

end ImageQuery

namespace Device

open Logged

def refuse {α : Type} (reason : Event) (why : Refusal) : Logged Failure α := do
  record reason
  fail (.refused why)

def featureEvents (d : Device) (f : Format) : List Event :=
  match d.facts? f with
  | none => []
  | some k => (k.history Rule.all ∅).map fun (r, s) ↦ .ruleApplied f r.name s

/-- The compressed modifier never falls back to an uncompressed image. -/
def featuresByModifier (d : Device) (q : ImageQuery) (all : Features) : Logged Failure FeatureSet :=
  match q.modifier with
  | none => fail (.violated .missingModifier)
  | some m =>
    let why := .modifierNotSupported q.format m
    if m = .compressed then
      if all.optimal = ∅ ∨ ¬ q.format.canBeTiled then refuse (.notTileable q.format) why
      else if .mutableFormat ∈ q.flags then refuse (.mutableFormat q.format) why
      else do
        records (d.compressionEvents q.surface)
        if d.compresses q.surface then pure all.optimal
        else refuse (.incompressible q.format q.usage) why
    else if m = .linear then pure all.linear
    else refuse (.unknownModifier q.format m) why

def selectedFeatures (d : Device) (q : ImageQuery) (all : Features) : Logged Failure FeatureSet :=
  if q.tiling = .byModifier then d.featuresByModifier q all
  else match all.get? q.tiling with
    | some features => pure features
    | none => fail (.violated (.badTiling q.tiling))

def supportWith (q : ImageQuery) (features : FeatureSet) : Logged Failure Support :=
  if features = ∅ then
    refuse (.noFeatures q.format q.tiling) (.formatNotSupported q.format q.tiling)
  else if q.imageType ≠ .twoD ∧ q.format.hasDepthOrStencil then
    refuse (.depthStencilNot2d q.format) (.imageTypeNotSupported q.format q.imageType)
  else match q.imageType.bounds? with
    | none => fail (.violated (.badImageType q.imageType))
    | some (extent, mipLevels, arrayLayers) =>
      match q.unmet? features with
      | some (usage, feature) =>
        refuse (.lacksFeature q.format q.tiling feature) (.usageNotSupported q.format usage)
      | none => pure {
          limits := ⟨extent, mipLevels, arrayLayers, q.sampleCounts features, Limits.maxSize⟩
          features := features }

def support (d : Device) (q : ImageQuery) : Logged Failure Support := do
  records (d.featureEvents q.format)
  let features ← d.selectedFeatures q (d.features q.format)
  supportWith q features

theorem result_support (d : Device) (q : ImageQuery) :
    (d.support q).result = (d.selectedFeatures q (d.features q.format)).result >>=
      fun features ↦ (supportWith q features).result := by
  rw [support, result_bind, result_records]
  exact result_bind _ _

end Device

end TexelFormats
