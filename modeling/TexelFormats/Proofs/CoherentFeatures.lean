import TexelFormats.Proofs.TableRows
import TexelFormats.Proofs.TilingErrata

namespace TexelFormats

def Feature.base? : Feature → Option Feature
  | .colorAttachmentBlend => some .colorAttachment
  | .storageImageAtomic => some .storageImage
  | .sampledImageFilterCubic => some .sampledImageFilterLinear
  | .sampledImageDepthComparison => some .sampledImage
  | .storageTexelBufferAtomic => some .storageTexelBuffer
  | .storageTexelBuffer => some .uniformTexelBuffer
  | _ => none

def Format.isPacked16Bit (f : Format) : Bool :=
  f.descriptor?.any fun c ↦ c.channels > 2 ∧ c.blockBits = 16

namespace FeatureSet

def HasBases (s : FeatureSet) : Prop := ∀ x ∈ s, ∀ y, x.base? = some y → y ∈ s

/-- What can be relied on in the features that images of the format have under some tiling. -/
structure CoherentForImages (s : FeatureSet) (f : Format) : Prop where
  sampled : s ≠ ∅ → .sampledImage ∈ s ∧ .transferSrc ∈ s ∧ .transferDst ∈ s
  powerOfTwo : s ≠ ∅ → f.hasPowerOfTwoBlock = true
  noBuffer : ∀ x ∈ [.vertexBuffer, .uniformTexelBuffer, .storageTexelBuffer,
    .storageTexelBufferAtomic], x ∉ s
  bases : s.HasBases
  blitted : .blitDst ∈ s ↔ .colorAttachment ∈ s
  readUnformatted : .storageReadWithoutFormat ∈ s ↔ .colorAttachment ∈ s
  writtenUnformatted : .storageWriteWithoutFormat ∈ s ↔ .colorAttachment ∈ s
  stored : .storageImage ∈ s ↔ .colorAttachment ∈ s ∧ f.isPacked16Bit = false

structure CoherentForBuffers (s : FeatureSet) (f : Format) : Prop where
  notPowerOfTwo : f.hasPowerOfTwoBlock = false → s ⊆ {.vertexBuffer, .uniformTexelBuffer}
  noImage : ∀ x ∈ [.sampledImage, .storageImage, .storageImageAtomic, .colorAttachment,
    .colorAttachmentBlend, .depthStencilAttachment, .fragmentShadingRateAttachmentKhr,
    .linearColorAttachmentNv, .blitSrc, .blitDst], x ∉ s
  bases : s.HasBases
  readUnformatted : .storageReadWithoutFormat ∈ s ↔ .storageTexelBuffer ∈ s
  writtenUnformatted : .storageWriteWithoutFormat ∈ s ↔ .storageTexelBuffer ∈ s

theorem coherentForImages_empty (f : Format) : (∅ : FeatureSet).CoherentForImages f :=
  ⟨absurd rfl, absurd rfl, by simp, by simp [HasBases], by simp, by simp, by simp, by simp⟩

theorem coherentForBuffers_empty (f : Format) : (∅ : FeatureSet).CoherentForBuffers f :=
  ⟨fun _ ↦ FlagSet.subset_of_owned FlagSet.owned_empty (by simp), by simp, by simp [HasBases],
    by simp, by simp⟩

end FeatureSet

namespace Facts

variable {k : Facts} {f : Format} {s : FeatureSet} {x : Feature}

/-- The facts that are gathered about a format fit together: what can be drawn to can be sampled. -/
structure Fits (k : Facts) (f : Format) : Prop where
  descriptor : f.descriptor? = some k.descriptor
  color : k.color = true → k.isSampled = true
  depth : k.depthFormat.isSome = true → k.isSampled = true

theorem isSampled_of_offersImage (hk : k.Fits f) (h : k.offersImage x = true) :
    k.isSampled = true := by
  have hcolor := hk.color
  cases x <;> simp_all [offersImage]

theorem offersImage_base {x y : Feature} (hb : x.base? = some y) (h : k.offersImage x = true) :
    k.offersImage y = true := by
  cases x <;> cases hb <;> simp_all [offersImage]

theorem coherentForImages (tiled compared drawn : Prop) (hk : k.Fits f) (howned : s.Owned)
    (hs : ∀ x, x ∈ s ↔ tiled ∧ (k.offersImage x = true ∨
      x = .sampledImageDepthComparison ∧ compared ∨ x = .depthStencilAttachment ∧ drawn))
    (hcompared : compared → k.isSampled = true) (hdrawn : drawn → k.isSampled = true) :
    s.CoherentForImages f := by
  have hsampled : s ≠ ∅ → tiled ∧ k.isSampled = true := by
    intro hne
    obtain ⟨x, hx⟩ := FlagSet.exists_mem_of_owned howned hne
    obtain ⟨ht, hx | ⟨-, hx⟩ | ⟨-, hx⟩⟩ := (hs x).1 hx
    · exact ⟨ht, isSampled_of_offersImage hk hx⟩
    · exact ⟨ht, hcompared hx⟩
    · exact ⟨ht, hdrawn hx⟩
  have hpacked : f.isPacked16Bit = k.isPacked16Bit := by
    rw [Format.isPacked16Bit, hk.descriptor]
    rfl
  refine ⟨fun hne ↦ ?_, fun hne ↦ ?_, ?_, fun x hx y hy ↦ ?_, ?_, ?_, ?_, ?_⟩
  · obtain ⟨ht, hk⟩ := hsampled hne
    exact ⟨(hs _).2 ⟨ht, .inl hk⟩, (hs _).2 ⟨ht, .inl hk⟩, (hs _).2 ⟨ht, .inl hk⟩⟩
  · obtain ⟨-, hblock⟩ := hsampled hne
    rw [isSampled, Bool.and_eq_true] at hblock
    rw [Format.hasPowerOfTwoBlock, hk.descriptor]
    exact hblock.2
  · simp [hs, offersImage]
  · obtain ⟨ht, hoffered | ⟨rfl, hc⟩ | ⟨rfl, -⟩⟩ := (hs x).1 hx
    · exact (hs y).2 ⟨ht, .inl (offersImage_base hy hoffered)⟩
    · cases hy
      exact (hs _).2 ⟨ht, .inl (hcompared hc)⟩
    · cases hy
  · simp [hs, offersImage]
  · simp [hs, offersImage]
  · simp [hs, offersImage]
  · simp [hs, offersImage, hpacked, and_assoc]

theorem isSampled_of_comparesDepth (h : k.comparesDepth = true) : k.isSampled = true := by
  rw [comparesDepth, Bool.and_eq_true] at h
  exact h.1

theorem coherentForImages_linear (hk : k.Fits f) : k.features.linear.CoherentForImages f := by
  refine coherentForImages (k.format ≠ .d32SfloatS8Uint)
    (k.comparesDepth = true ∧ k.isUntiled = false) False hk k.owned_features.linear (fun x ↦ ?_)
    (fun h ↦ isSampled_of_comparesDepth h.1) False.elim
  rw [mem_linear_features]
  simp [offersLinear, and_assoc]

theorem coherentForImages_optimal (hk : k.Fits f) : k.features.optimal.CoherentForImages f := by
  refine coherentForImages (k.isUntiled = false) (k.comparesDepth = true)
    (k.depthFormat.isSome = true) hk k.owned_features.optimal (fun x ↦ ?_)
    isSampled_of_comparesDepth hk.depth
  rw [mem_optimal_features]
  simp [offersOptimal, or_assoc]

theorem offersBuffer_base {x y : Feature} (hk : k.Fits f) (hb : x.base? = some y)
    (h : k.offersBuffer x = true) : k.offersBuffer y = true := by
  have htexture : k.color = true → k.texture = true := fun hc ↦ by
    have hs := hk.color hc
    rw [isSampled, Bool.and_eq_true] at hs
    exact hs.1
  cases x <;> cases hb <;> simp_all [offersBuffer]

theorem coherentForBuffers (hk : k.Fits f) : k.features.buffer.CoherentForBuffers f := by
  refine ⟨fun hblock ↦ ?_, ?_, fun x hx y hy ↦ ?_, ?_, ?_⟩
  · refine FlagSet.subset_of_owned k.owned_features.buffer fun x hx ↦ ?_
    rw [Format.hasPowerOfTwoBlock, hk.descriptor, Option.any_some] at hblock
    have hcolor : k.color = false := by
      refine Bool.eq_false_iff.2 fun hc ↦ ?_
      have hs := hk.color hc
      simp [isSampled, hblock] at hs
    rw [mem_buffer_features] at hx
    cases x <;> simp_all [offersBuffer]
  · simp [mem_buffer_features, offersBuffer]
  · rw [mem_buffer_features] at hx ⊢
    exact offersBuffer_base hk hy hx
  · simp [mem_buffer_features, offersBuffer]
  · simp [mem_buffer_features, offersBuffer]

end Facts

namespace Device

theorem fits_of_facts? {d : Device} {f : Format} {k : Facts} (h : d.facts? f = some k) :
    k.Fits f :=
  ⟨(facts?_eq_some h).2.1, isSampled_of_color h, isSampled_of_depthFormat h⟩

/-- Whatever the device and the format, what is said of its features makes sense: images can be
sampled and copied or are not to be had at all, images and buffers keep to features of their own,
and no feature comes without the one that it builds upon. -/
theorem features_coherent (d : Device) (f : Format) :
    (d.features f).linear.CoherentForImages f ∧ (d.features f).optimal.CoherentForImages f ∧
      (d.features f).buffer.CoherentForBuffers f := by
  obtain h | ⟨k, hk, h⟩ := d.features_cases f
  · rw [h]
    exact ⟨FeatureSet.coherentForImages_empty f, FeatureSet.coherentForImages_empty f,
      FeatureSet.coherentForBuffers_empty f⟩
  · rw [h]
    have hfits := fits_of_facts? hk
    exact ⟨Facts.coherentForImages_linear hfits, Facts.coherentForImages_optimal hfits,
      Facts.coherentForBuffers hfits⟩

end Device

end TexelFormats
