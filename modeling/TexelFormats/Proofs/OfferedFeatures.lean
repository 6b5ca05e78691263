import TexelFormats.Features
import TexelFormats.Proofs.FlagSets

namespace TexelFormats

namespace Facts

variable (k : Facts)

def isSampled : Bool := k.texture && k.descriptor.hasPowerOfTwoBlock

def isPacked16Bit : Bool := k.descriptor.channels > 2 ∧ k.descriptor.blockBits = 16

def isAtomic : Bool := k.format ∈ [.r32Uint, .r32Sint]

def sharesColor : Bool :=
  k.format ∈ [.packed422Gbgr, .packed422Bgrg, .biplanar420, .triplanar420]

def isUntiled : Bool := k.sharesColor && k.format ≠ .triplanar420

def comparesDepth : Bool := k.isSampled && k.descriptor.depthBits ≠ 0

def offersImage : Feature → Bool
  | .transferSrc | .transferDst | .sampledImage | .sampledImageFilterMinmax
  | .cositedChromaSamples | .midpointChromaSamples => k.isSampled
  | .blitSrc => k.isSampled && k.descriptor.layout ∉ [.subsampled, .planar2, .planar3]
  | .sampledImageYcbcrConversionLinearFilter => k.isSampled && k.descriptor.layout ≠ .subsampled
  | .sampledImageFilterLinear => k.isSampled && !k.descriptor.isInteger
  | .sampledImageFilterCubic => k.isSampled && !k.descriptor.isInteger && k.filtersCubic
  | .colorAttachment | .blitDst | .storageReadWithoutFormat | .storageWriteWithoutFormat => k.color
  | .colorAttachmentBlend => k.color && !k.descriptor.isInteger
  | .storageImage => k.color && !k.isPacked16Bit
  | .storageImageAtomic => k.color && k.isAtomic && !k.isPacked16Bit
  | _ => false

def offersLinear (x : Feature) : Bool :=
  k.format ≠ .d32SfloatS8Uint &&
    (k.offersImage x || x = .sampledImageDepthComparison && k.comparesDepth && !k.isUntiled)

def offersOptimal (x : Feature) : Bool :=
  !k.isUntiled &&
    (k.offersImage x || x = .sampledImageDepthComparison && k.comparesDepth ||
      x = .depthStencilAttachment && k.depthFormat.isSome)

def offersBuffer (x : Feature) : Bool :=
  !k.sharesColor && !k.descriptor.hasDepthOrStencil &&
    match x with
    | .uniformTexelBuffer => k.texture
    | .transferSrc | .transferDst => k.descriptor.hasPowerOfTwoBlock && !k.isPacked16Bit
    | .vertexBuffer => k.vertex && !k.isPacked16Bit
    | .storageTexelBuffer | .storageReadWithoutFormat | .storageWriteWithoutFormat =>
      k.color && !k.isPacked16Bit
    | .storageTexelBufferAtomic => k.color && k.isAtomic && !k.isPacked16Bit
    | _ => false

end Facts

namespace Rule

def early : List Rule :=
  [powerOfTwoTransfer, vertexBuffer, uniformTexelBuffer, sampledImage, colorAttachment]

def late : List Rule :=
  [depthAttachment, untileable, sharedColorNoBuffer, packed16Bit, depthComparison,
    depthStencilNoBuffer, splitStencilNoLinear]

theorem all_eq : all = early ++ late := rfl

end Rule

namespace Features

structure Owned (f : Features) : Prop where
  linear : f.linear.Owned
  optimal : f.optimal.Owned
  buffer : f.buffer.Owned

theorem owned_empty : (∅ : Features).Owned :=
  ⟨FlagSet.owned_empty, FlagSet.owned_empty, FlagSet.owned_empty⟩

theorem Owned.ite {p : Prop} [Decidable p] {f g : Features} (hf : f.Owned) (hg : g.Owned) :
    (if p then f else g).Owned := by
  split
  · exact hf
  · exact hg

end Features

namespace Rule

variable {k : Facts} {f : Features}

@[simp]
theorem owned_granted {p : Bool} {s : FeatureSet} (hs : s.Owned) : (granted p s).Owned := by
  cases p
  · exact FlagSet.owned_empty
  · exact hs

theorem owned_apply {r : Rule} (hr : r ∈ all) (hf : f.Owned) : (r.apply k f).Owned := by
  have ⟨hl, ho, hb⟩ := hf
  simp only [all, List.mem_cons, List.not_mem_nil, or_false] at hr
  rcases hr with rfl | rfl | rfl | rfl | rfl | rfl | rfl | rfl | rfl | rfl | rfl | rfl
  · exact ⟨hl, ho, by simp [powerOfTwoTransfer, hb]⟩
  · exact ⟨hl, ho, by simp [vertexBuffer, hb]⟩
  · exact ⟨hl, ho, by simp [uniformTexelBuffer, hb]⟩
  · exact ⟨hl, by simp [sampledImage, ho], hb⟩
  · exact ⟨hl, by simp [colorAttachment, ho], by simp [colorAttachment, hb]⟩
  · exact ⟨ho, by simp [depthAttachment, ho], hb⟩
  · exact .ite ⟨hl, FlagSet.owned_empty, hb⟩ hf
  · exact .ite ⟨hl, ho, FlagSet.owned_empty⟩ hf
  · exact .ite ⟨hl.sdiff _, ho.sdiff _, hb.inter _⟩ hf
  · exact ⟨by simp [depthComparison, hl], by simp [depthComparison, ho], hb⟩
  · exact .ite ⟨hl, ho, FlagSet.owned_empty⟩ hf
  · exact .ite ⟨FlagSet.owned_empty, ho, hb⟩ hf

end Rule

namespace Facts

variable {k : Facts} {f : Features} {x : Feature}

def run (k : Facts) (rules : List Rule) (f : Features) : Features :=
  rules.foldl (fun f r ↦ r.apply k f) f

theorem features_eq_run (k : Facts) : k.features = k.run Rule.late (k.run Rule.early ∅) := by
  rw [features, Rule.all_eq, List.foldl_append]
  rfl

theorem owned_run {rules : List Rule} (hr : ∀ r ∈ rules, r ∈ Rule.all) (hf : f.Owned) :
    (k.run rules f).Owned := by
  induction rules generalizing f with
  | nil => exact hf
  | cons r rules ih =>
    exact ih (fun s hs ↦ hr s (.tail _ hs)) (Rule.owned_apply (hr r (.head _)) hf)

theorem owned_features (k : Facts) : k.features.Owned :=
  owned_run (fun _ hr ↦ hr) Features.owned_empty

theorem isPacked16Bit_iff :
    k.isPacked16Bit = true ↔ k.descriptor.channels > 2 ∧ k.descriptor.blockBits = 16 := by
  simp [isPacked16Bit]

theorem sharesColor_iff : k.sharesColor = true ↔
    k.format ∈ [.packed422Gbgr, .packed422Bgrg, .biplanar420, .triplanar420] := by
  simp [sharesColor]

theorem isUntiled_eq : k.isUntiled = (!k.format.canBeTiled && k.format ≠ .triplanar420) := by
  simp [isUntiled, sharesColor, Format.canBeTiled]

theorem mem_buffer_late : x ∈ (k.run Rule.late f).buffer ↔
    k.sharesColor = false ∧ k.descriptor.hasDepthOrStencil = false ∧
      x ∈ f.buffer ∧ (k.isPacked16Bit = true → x = .uniformTexelBuffer) := by
  simp only [run, Rule.late, List.foldl, Rule.depthAttachment, Rule.untileable,
    Rule.sharedColorNoBuffer, Rule.packed16Bit, Rule.depthComparison, Rule.depthStencilNoBuffer,
    Rule.splitStencilNoLinear, apply_ite Features.buffer, ite_self, ← sharesColor_iff,
    ← isPacked16Bit_iff]
  cases k.descriptor.hasDepthOrStencil <;> cases k.sharesColor <;> cases k.isPacked16Bit <;> simp

theorem mem_optimal_late : x ∈ (k.run Rule.late f).optimal ↔
    k.isUntiled = false ∧
      ((x ∈ f.optimal ∨ x = .depthStencilAttachment ∧ k.depthFormat.isSome = true) ∧
          (k.isPacked16Bit = true → x ∉ [.storageImage, .storageImageAtomic]) ∨
        x = .sampledImageDepthComparison ∧ k.descriptor.hasDepth = true ∧
          .sampledImage ∈ f.optimal) := by
  simp only [run, Rule.late, List.foldl, Rule.depthAttachment, Rule.untileable,
    Rule.sharedColorNoBuffer, Rule.packed16Bit, Rule.depthComparison, Rule.depthStencilNoBuffer,
    Rule.splitStencilNoLinear, apply_ite Features.optimal, ite_self, ← isUntiled_eq,
    ← isPacked16Bit_iff]
  cases k.isUntiled <;> cases k.isPacked16Bit <;> simp [Rule.mem_granted, and_comm]

theorem mem_linear_late : x ∈ (k.run Rule.late f).linear ↔
    k.format ≠ .d32SfloatS8Uint ∧
      (x ∈ f.optimal ∧ (k.isPacked16Bit = true → x ∉ [.storageImage, .storageImageAtomic]) ∨
        x = .sampledImageDepthComparison ∧ k.descriptor.hasDepth = true ∧
          .sampledImage ∈ f.optimal ∧ k.isUntiled = false) := by
  simp only [run, Rule.late, List.foldl, Rule.depthAttachment, Rule.untileable,
    Rule.sharedColorNoBuffer, Rule.packed16Bit, Rule.depthComparison, Rule.depthStencilNoBuffer,
    Rule.splitStencilNoLinear, apply_ite Features.optimal, apply_ite Features.linear, ite_self,
    ← isUntiled_eq, ← isPacked16Bit_iff]
  split
  · simp [*]
  · cases k.isUntiled <;> cases k.isPacked16Bit <;> simp [Rule.mem_granted, and_comm, *]

theorem mem_optimal_early : x ∈ (k.run Rule.early ∅).optimal ∧
      (k.isPacked16Bit = true → x ∉ [.storageImage, .storageImageAtomic]) ↔
    k.offersImage x = true := by
  simp only [run, Rule.early, List.foldl, Rule.powerOfTwoTransfer, Rule.vertexBuffer,
    Rule.uniformTexelBuffer, Rule.sampledImage, Rule.colorAttachment, Features.optimal_empty,
    FlagSet.mem_union, Rule.mem_granted, FlagSet.mem_insert, FlagSet.mem_singleton,
    FlagSet.not_mem_empty, false_or]
  cases x <;> simp [offersImage, isAtomic, isSampled, Descriptor.hasSharedSamples]

theorem sampledImage_mem_early :
    .sampledImage ∈ (k.run Rule.early ∅).optimal ↔ k.isSampled = true := by
  rw [← show k.offersImage .sampledImage = k.isSampled from rfl, ← mem_optimal_early]
  simp

theorem comparesDepth_iff : k.comparesDepth = true ↔
    k.descriptor.hasDepth = true ∧ .sampledImage ∈ (k.run Rule.early ∅).optimal := by
  simp [comparesDepth, sampledImage_mem_early, Descriptor.hasDepth, and_comm]

theorem mem_buffer_features : x ∈ k.features.buffer ↔ k.offersBuffer x = true := by
  rw [features_eq_run, mem_buffer_late]
  simp only [run, Rule.early, List.foldl, Rule.powerOfTwoTransfer, Rule.vertexBuffer,
    Rule.uniformTexelBuffer, Rule.sampledImage, Rule.colorAttachment, Features.buffer_empty,
    FlagSet.mem_union, Rule.mem_granted, FlagSet.mem_insert, FlagSet.mem_singleton,
    FlagSet.not_mem_empty, false_or, offersBuffer]
  cases x <;> simp [isAtomic, and_assoc]

theorem mem_optimal_features : x ∈ k.features.optimal ↔ k.offersOptimal x = true := by
  -- what is taken from packed formats was never a depth attachment
  have hstencil : (x = .depthStencilAttachment ∧ k.depthFormat.isSome = true) ∧
      (k.isPacked16Bit = true → x ∉ [.storageImage, .storageImageAtomic]) ↔
      x = .depthStencilAttachment ∧ k.depthFormat.isSome = true :=
    and_iff_left_of_imp (by rintro ⟨rfl, -⟩; simp)
  rw [features_eq_run, mem_optimal_late, or_and_right, mem_optimal_early, hstencil,
    ← comparesDepth_iff]
  simp [offersOptimal, or_right_comm]

theorem mem_linear_features : x ∈ k.features.linear ↔ k.offersLinear x = true := by
  rw [features_eq_run, mem_linear_late, mem_optimal_early, ← and_assoc (b := _ ∈ _),
    ← comparesDepth_iff]
  simp [offersLinear, and_assoc]

/-- The rules, run in order from nothing, add up to one table, whatever the facts. -/
theorem features_eq_offered (k : Facts) :
    k.features = ⟨.ofPred k.offersLinear, .ofPred k.offersOptimal, .ofPred k.offersBuffer⟩ := by
  have ho := k.owned_features
  ext1
  · exact FlagSet.ext_of_owned ho.linear (FlagSet.owned_ofPred _) (by simp [mem_linear_features])
  · exact FlagSet.ext_of_owned ho.optimal (FlagSet.owned_ofPred _) (by simp [mem_optimal_features])
  · exact FlagSet.ext_of_owned ho.buffer (FlagSet.owned_ofPred _) (by simp [mem_buffer_features])

end Facts

namespace Device

variable {d : Device} {f : Format} {k : Facts}

theorem facts?_eq_some (h : d.facts? f = some k) :
    k.format = f ∧ f.descriptor? = some k.descriptor ∧ k.texture = f.acceptedByTexture ∧
      k.depthFormat = f.depthFormat? := by
  rcases hc : f.descriptor? with _ | c
  · simp [facts?, hc] at h
  · simp only [facts?, hc, Option.bind_eq_bind, Option.bind_some, Option.ite_none_right_eq_some,
      Option.some.injEq] at h
    obtain ⟨-, rfl⟩ := h
    exact ⟨rfl, rfl, rfl, rfl⟩

theorem features_cases (d : Device) (f : Format) :
    d.features f = ∅ ∨ ∃ k, d.facts? f = some k ∧ d.features f = k.features := by
  unfold features
  rcases d.facts? f with _ | k
  · exact .inl rfl
  · exact .inr ⟨k, rfl, rfl⟩

theorem owned_features (d : Device) (f : Format) : (d.features f).Owned := by
  obtain h | ⟨k, -, h⟩ := d.features_cases f
  · exact h ▸ Features.owned_empty
  · exact h ▸ k.owned_features

end Device

end TexelFormats
