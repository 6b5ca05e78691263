import TexelFormats.Proofs.TableRows
import TexelFormats.Proofs.TilingErrata

namespace TexelFormats.Format

def planesOf : Option Layout → UInt32
  | some .planar2 => 2
  | some .planar3 => 3
  | _ => 1

variable {f : Format} {r : Row} {c : Descriptor}

/-- The table, the descriptors and the shorter lists each go over the formats by themselves. This is
how what they say of one format fits together. -/
structure TablesAgree (f : Format) : Prop where
  described : f.row?.isSome = true → f.descriptor?.isSome = true
  color : ∀ r, f.row? = some r → .color ∈ r.support →
    .texture ∈ r.support ∧ f.hasPowerOfTwoBlock = true ∧ f.layout? = some .plain
  depth : f.depthFormat?.isSome = true ↔ f.row?.isSome = true ∧ f.hasDepthOrStencil = true
  depthRow : ∀ r, f.row? = some r → f.depthFormat?.isSome = true → r.support = {.texture, .color}
  untiled : f.canBeTiled = false ↔
    f.layout? ∈ [some .subsampled, some .planar2, some .planar3]
  untiledBuffer : ∀ k g, k.format = f → Rule.sharedColorNoBuffer.apply k g =
    if f.canBeTiled = false then { g with buffer := ∅ } else g
  planes : f ≠ .d32SfloatS8Uint → f.planeCount = planesOf f.layout?
  splitStencil : f = .d32SfloatS8Uint → f.planeCount = 2 ∧ f.layout? = some .plain ∧
    ∀ d : Device, (d.features f).linear = ∅
  blockCompressed : f.layout? = some .blockCompressed →
    ∃ r, f.row? = some r ∧ r.support = {.texture}
  vertex : ∀ r, f.row? = some r → .vertex ∈ r.support →
    f.hasDepthOrStencil = false ∧ f.layout? = some .plain

theorem exists_fits_of_row? (h : f.row? = some r) : ∃ c, r.Fits c ∧ f.descriptor? = some c ∧
    f.layout? = some c.layout ∧ f.hasDepthOrStencil = c.hasDepthOrStencil ∧
    f.hasPowerOfTwoBlock = c.hasPowerOfTwoBlock := by
  obtain ⟨hr, rfl⟩ := Row.mem_of_index h
  obtain ⟨c, hc, hfits⟩ := Row.exists_fits hr
  refine ⟨c, hfits, hc, ?_, ?_, ?_⟩
  · rw [layout?, hc, Option.map_some]
  · rw [hasDepthOrStencil, hc, Option.any_some]
  · rw [hasPowerOfTwoBlock, hc, Option.any_some]

theorem isSome_descriptor?_of_row? (h : f.row?.isSome = true) : f.descriptor?.isSome = true := by
  obtain ⟨r, hr⟩ := Option.isSome_iff_exists.1 h
  obtain ⟨c, -, hc, -⟩ := exists_fits_of_row? hr
  rw [hc, Option.isSome_some]

theorem plain_of_color (hr : f.row? = some r) (h : .color ∈ r.support) :
    .texture ∈ r.support ∧ f.hasPowerOfTwoBlock = true ∧ f.layout? = some .plain := by
  obtain ⟨c, hfits, -, hlayout, -, hblock⟩ := exists_fits_of_row? hr
  rw [hlayout, hblock]
  obtain ⟨htexture, hpower, hplain⟩ := hfits.color h
  exact ⟨htexture, hpower, congrArg some hplain⟩

theorem plain_of_vertex (hr : f.row? = some r) (h : .vertex ∈ r.support) :
    f.hasDepthOrStencil = false ∧ f.layout? = some .plain := by
  obtain ⟨c, hfits, -, hlayout, hds, -⟩ := exists_fits_of_row? hr
  rw [hlayout, hds]
  obtain ⟨hnone, hplain⟩ := hfits.vertex h
  exact ⟨hnone, congrArg some hplain⟩

theorem isSome_depthFormat?_iff :
    f.depthFormat?.isSome = true ↔ f.row?.isSome = true ∧ f.hasDepthOrStencil = true := by
  constructor
  · intro h
    refine ⟨accepted_iff.1 ?_, ?_⟩
    · simp [(isSampled_of_depthFormat h).1]
    · have hf := mem_of_isSome_depthFormat? h
      simp only [List.mem_cons, List.not_mem_nil, or_false] at hf
      rcases hf with rfl | rfl | rfl | rfl | rfl | rfl <;> rfl
  · intro ⟨hrow, hd⟩
    obtain ⟨r, hr⟩ := Option.isSome_iff_exists.1 hrow
    obtain ⟨c, hfits, -, -, hds, -⟩ := exists_fits_of_row? hr
    rw [hds] at hd
    obtain ⟨-, rfl⟩ := Row.mem_of_index hr
    exact (hfits.depthOrStencil hd).2

theorem support_of_depthFormat? (hr : f.row? = some r) (h : f.depthFormat?.isSome = true) :
    r.support = {.texture, .color} := by
  obtain ⟨c, hfits, -, -, hds, -⟩ := exists_fits_of_row? hr
  have hd := (isSome_depthFormat?_iff.1 h).2
  rw [hds] at hd
  exact (hfits.depthOrStencil hd).1

theorem canBeTiled_eq_false_iff : f.canBeTiled = false ↔
    f ∈ [packed422Gbgr, packed422Bgrg, biplanar420, triplanar420] := by
  rw [canBeTiled, decide_eq_false_iff_not, Classical.not_not]

theorem canBeTiled_eq_false_iff_layout? :
    f.canBeTiled = false ↔ f.layout? ∈ [some .subsampled, some .planar2, some .planar3] := by
  have hall : ∀ c ∈ classes,
      some c.2.layout ∈ [some .subsampled, some .planar2, some .planar3] →
        c.1.canBeTiled = false := by decide +kernel
  constructor
  · intro h
    have hf := canBeTiled_eq_false_iff.1 h
    simp only [List.mem_cons, List.not_mem_nil, or_false] at hf
    rcases hf with rfl | rfl | rfl | rfl <;> decide +kernel
  · intro h
    rcases hc : f.descriptor? with _ | c
    · simp [layout?, hc] at h
    · rw [layout?, hc] at h
      exact hall _ (mem_classes_of_descriptor? hc) h

theorem sharedColorNoBuffer_apply (k : Facts) (g : Features) :
    Rule.sharedColorNoBuffer.apply k g =
      if k.format.canBeTiled = false then { g with buffer := ∅ } else g := by
  simp only [Rule.sharedColorNoBuffer, canBeTiled_eq_false_iff]

theorem planeCount_eq (hf : f ≠ .d32SfloatS8Uint) : f.planeCount = planesOf f.layout? := by
  have hall : ∀ c ∈ classes, c.1 ≠ .d32SfloatS8Uint →
      c.1.planeCount = planesOf (some c.2.layout) := by decide +kernel
  rcases hc : f.descriptor? with _ | c
  -- what has more than one plane has a descriptor
  · have hbiplanar : f ≠ biplanar420 := by
      rintro rfl
      exact absurd hc (by decide +kernel)
    have htriplanar : f ≠ triplanar420 := by
      rintro rfl
      exact absurd hc (by decide +kernel)
    rw [planeCount, if_neg (not_or.2 ⟨hbiplanar, hf⟩), if_neg htriplanar, layout?, hc]
    rfl
  · rw [layout?, hc]
    exact hall _ (mem_classes_of_descriptor? hc) hf

theorem isSome_row?_of_blockCompressed (h : f.layout? = some .blockCompressed) :
    f.row?.isSome = true := by
  have hall : ∀ c ∈ classes, c.2.layout = .blockCompressed →
      (known.any fun f ↦ f.word.beq c.1.word) = true := by decide +kernel
  rcases hc : f.descriptor? with _ | c
  · simp [layout?, hc] at h
  · rw [layout?, hc] at h
    obtain ⟨g, hg, hw⟩ := List.any_eq_true.1
      (hall _ (mem_classes_of_descriptor? hc) (Option.some.inj h))
    obtain rfl : g = f := eq_of_word_eq (Nat.eq_of_beq_eq_true hw)
    exact isSome_row?_iff.2 hg

theorem exists_row?_of_blockCompressed (h : f.layout? = some .blockCompressed) :
    ∃ r, f.row? = some r ∧ r.support = {.texture} := by
  obtain ⟨r, hr⟩ := Option.isSome_iff_exists.1 (isSome_row?_of_blockCompressed h)
  obtain ⟨c, hfits, -, hlayout, -⟩ := exists_fits_of_row? hr
  rw [hlayout] at h
  exact ⟨r, hr, hfits.blockCompressed (Option.some.inj h)⟩

theorem splitStencil (hf : f = .d32SfloatS8Uint) : f.planeCount = 2 ∧ f.layout? = some .plain ∧
    ∀ d : Device, (d.features f).linear = ∅ := by
  subst hf
  exact ⟨by decide +kernel, rfl, fun d ↦ d.linear_eq_empty rfl⟩

/-- Whatever the number of the format, also where nothing is known by it, all that is written down
about formats fits together. -/
theorem tables_agree (f : Format) : f.TablesAgree where
  described := isSome_descriptor?_of_row?
  color _ hr h := plain_of_color hr h
  depth := isSome_depthFormat?_iff
  depthRow _ hr h := support_of_depthFormat? hr h
  untiled := canBeTiled_eq_false_iff_layout?
  untiledBuffer k g hk := hk ▸ sharedColorNoBuffer_apply k g
  planes := planeCount_eq
  splitStencil := splitStencil
  blockCompressed := exists_row?_of_blockCompressed
  vertex _ hr h := plain_of_vertex hr h

end TexelFormats.Format
