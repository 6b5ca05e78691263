import Mathlib.Algebra.Order.BigOperators.Group.List
import Mathlib.Algebra.Order.Ring.Nat
import TexelFormats.Proofs.TableRows

namespace TexelFormats

namespace Tally

variable {t t' : Tally} {w : UInt8} {ws seen : List UInt8}

/-- The step with a check: what would no longer fit its word is refused. -/
def add? (t : Tally) (w : UInt8) : Option Tally :=
  if w = 0 ∨ t.channels.toNat + 1 < UInt8.size ∧ t.bits.toNat + w.toNat < UInt16.size then
    some (t.add w)
  else none

/-- The words hold what counting and adding without bound would give. -/
structure Counts (t : Tally) (seen : List UInt8) : Prop where
  channels : t.channels.toNat = seen.countP (· ≠ 0)
  bits : t.bits.toNat = (seen.map UInt8.toNat).sum

theorem counts_nil : Counts ⟨0, 0⟩ [] := ⟨rfl, rfl⟩

theorem counts_append_zero : t.Counts (seen ++ [0]) ↔ t.Counts seen := by
  have hcount : (seen ++ [0]).countP (· ≠ 0) = seen.countP (· ≠ 0) := by simp
  have hsum : ((seen ++ [0]).map UInt8.toNat).sum = (seen.map UInt8.toNat).sum := by simp
  exact ⟨fun h ↦ ⟨h.channels.trans hcount, h.bits.trans hsum⟩,
    fun h ↦ ⟨h.channels.trans hcount.symm, h.bits.trans hsum.symm⟩⟩

theorem Counts.channels_le (h : t.Counts seen) : t.channels.toNat ≤ seen.length := by
  rw [h.channels]
  exact List.countP_le_length

theorem Counts.bits_le (h : t.Counts seen) : t.bits.toNat ≤ seen.length * 255 := by
  have hwidth : ∀ n ∈ seen.map UInt8.toNat, n ≤ 255 := by
    intro n hn
    obtain ⟨w, -, rfl⟩ := List.mem_map.1 hn
    exact Nat.le_of_lt_succ w.toNat_lt
  have hsum := List.sum_le_card_nsmul _ 255 hwidth
  rw [List.length_map, Nat.nsmul_eq_mul] at hsum
  rw [h.bits]
  exact hsum

theorem Counts.add (h : t.Counts seen) (hlen : seen.length < 255) (w : UInt8) :
    t.add? w = some (t.add w) ∧ (t.add w).Counts (seen ++ [w]) := by
  by_cases hw : w = 0
  · subst hw
    exact ⟨if_pos (.inl rfl), counts_append_zero.2 h⟩
  · have hchannels : t.channels.toNat + 1 < 2 ^ 8 := by
      have := h.channels_le
      omega
    have hbits : t.bits.toNat + w.toNat < 2 ^ 16 := by
      have := h.bits_le
      have := w.toNat_lt
      omega
    refine ⟨if_pos (.inr ⟨hchannels, hbits⟩), ?_⟩
    rw [Tally.add, if_neg hw]
    constructor
    · rw [UInt8.toNat_add, UInt8.toNat_one, Nat.mod_eq_of_lt hchannels, h.channels]
      simp [hw]
    · rw [UInt16.toNat_add, UInt8.toNat_toUInt16, Nat.mod_eq_of_lt hbits, h.bits]
      simp

theorem Counts.foldl_add (h : t.Counts seen) (hlen : seen.length + ws.length ≤ 255) :
    ws.foldlM add? t = some (ws.foldl Tally.add t) ∧
      (ws.foldl Tally.add t).Counts (seen ++ ws) := by
  induction ws generalizing t seen with
  | nil => exact ⟨rfl, by simpa using h⟩
  | cons w ws ih =>
    rw [List.length_cons] at hlen
    obtain ⟨hstep, hcounts⟩ := h.add (by omega) w
    obtain ⟨hrun, hcounts'⟩ := ih hcounts (by simp; omega)
    refine ⟨?_, by simpa using hcounts'⟩
    rw [List.foldlM_cons, hstep]
    exact hrun

end Tally

namespace Descriptor

variable {f : Format} {c : Descriptor}

def tally (c : Descriptor) : Tally := ⟨c.channels, c.blockBits⟩

theorem foldlM_add?_toList (bits : ChannelBits) (numeric : Numeric) :
    bits.toList.foldlM Tally.add? ⟨0, 0⟩ = some (ofChannels bits numeric).tally ∧
      (ofChannels bits numeric).tally.Counts bits.toList := by
  have hlen : ([] : List UInt8).length + bits.toList.length ≤ 255 := by simp [ChannelBits.toList]
  exact Tally.counts_nil.foldl_add hlen

theorem counts_ofChannels (bits : ChannelBits) (numeric : Numeric) :
    (ofChannels bits numeric).tally.Counts bits.toList :=
  (foldlM_add?_toList bits numeric).2

/-- A number and the one before it share no bit just where it is a power of two. Zero shares none
with the word of all ones that comes before it. -/
theorem hasPowerOfTwoBlock_iff : c.hasPowerOfTwoBlock = true ↔
    c.blockBits.toNat = 0 ∨ ∃ k, c.blockBits.toNat = 2 ^ k := by
  rw [hasPowerOfTwoBlock, decide_eq_true_iff, ← UInt16.toNat_inj, UInt16.toNat_and]
  by_cases hzero : c.blockBits = 0
  · simp [hzero]
  · have hne : c.blockBits.toNat ≠ 0 := fun h ↦ hzero (UInt16.toNat_inj.1 h)
    have hone : 1 ≤ c.blockBits := Nat.one_le_iff_ne_zero.2 hne
    rw [UInt16.toNat_sub_of_le _ _ hone, or_iff_right hne]
    exact Nat.and_sub_one_eq_zero_iff_isPowerOfTwo hne

theorem eq_ofDepthStencil (h : f.descriptor? = some c) (hd : c.hasDepthOrStencil = true) :
    c = ofDepthStencil c.depthBits c.stencilBits c.channelBits.third c.numeric := by
  have hall : ∀ p ∈ Format.classes, p.2.hasDepthOrStencil = true →
      p.2 = ofDepthStencil p.2.depthBits p.2.stencilBits p.2.channelBits.third p.2.numeric := by
    decide +kernel
  exact hall _ (Format.mem_classes_of_descriptor? h) hd

theorem plain_of_hasDepthOrStencil (h : f.descriptor? = some c)
    (hd : c.hasDepthOrStencil = true) : c.layout = .plain :=
  congrArg layout (eq_ofDepthStencil h hd)

theorem eq_ofChannels_or_ofSrgb (h : f.descriptor? = some c) (hplain : c.layout = .plain)
    (hd : c.hasDepthOrStencil = false) :
    c = ofChannels c.channelBits c.numeric ∨ c = ofSrgb c.channelBits := by
  have hall : ∀ p ∈ Format.classes, p.2.layout = .plain → p.2.hasDepthOrStencil = false →
      p.2 = ofChannels p.2.channelBits p.2.numeric ∨ p.2 = ofSrgb p.2.channelBits := by
    decide +kernel
  exact hall _ (Format.mem_classes_of_descriptor? h) hplain hd

theorem counts_of_plain (h : f.descriptor? = some c) (hplain : c.layout = .plain) :
    c.tally.Counts c.channelBits.toList := by
  cases hd : c.hasDepthOrStencil
  case true =>
    rw [eq_ofDepthStencil h hd]
    exact counts_ofChannels _ c.numeric
  case false =>
    obtain hc | hc := eq_ofChannels_or_ofSrgb h hplain hd
    · rw [hc]
      exact counts_ofChannels _ _
    · rw [hc]
      exact counts_ofChannels _ .unorm

theorem exists_padding (h : f.descriptor? = some c) (hd : c.hasDepthOrStencil = true) :
    ∃ padding, c.channelBits = ⟨c.depthBits, c.stencilBits, padding, 0⟩ ∧
      c.tally.Counts [c.depthBits, c.stencilBits, padding] := by
  have hbits : c.channelBits = ⟨c.depthBits, c.stencilBits, c.channelBits.third, 0⟩ :=
    congrArg channelBits (eq_ofDepthStencil h hd)
  have hcounts := counts_of_plain h (plain_of_hasDepthOrStencil h hd)
  rw [hbits] at hcounts
  exact ⟨_, hbits, Tally.counts_append_zero.1 hcounts⟩

/-- Nothing overflows where the widths of four channels are counted and added up, and the result is
the number of channels and the sum of their bits, which is tested for being zero or a power of two.
So it is for each plain format, padding beside depth and stencil being one more channel. -/
theorem channel_arithmetic_exact :
    (∀ (bits : ChannelBits) (numeric : Numeric),
      bits.toList.foldlM Tally.add? ⟨0, 0⟩ = some (ofChannels bits numeric).tally ∧
      (ofChannels bits numeric).tally.Counts bits.toList ∧
      ((ofChannels bits numeric).hasPowerOfTwoBlock = true ↔
        (bits.toList.map UInt8.toNat).sum = 0 ∨ ∃ k, (bits.toList.map UInt8.toNat).sum = 2 ^ k)) ∧
    ∀ (f : Format) (c : Descriptor), f.descriptor? = some c →
      (c.layout = .plain → c.tally.Counts c.channelBits.toList) ∧
      (c.hasDepthOrStencil = true → c.layout = .plain ∧
        ∃ padding, c.channelBits = ⟨c.depthBits, c.stencilBits, padding, 0⟩ ∧
          c.tally.Counts [c.depthBits, c.stencilBits, padding]) := by
  constructor
  · intro bits numeric
    obtain ⟨hrun, hcounts⟩ := foldlM_add?_toList bits numeric
    refine ⟨hrun, hcounts, ?_⟩
    rw [← hcounts.bits]
    exact hasPowerOfTwoBlock_iff
  · intro f c h
    exact ⟨counts_of_plain h, fun hd ↦ ⟨plain_of_hasDepthOrStencil h hd, exists_padding h hd⟩⟩

theorem channel_arithmetic_exact_of_padded :
    Format.d32SfloatS8Uint.descriptor? = some (ofDepthStencil 32 8 24 .float) ∧
    (ofDepthStencil 32 8 24 .float).layout = .plain ∧
    (ofDepthStencil 32 8 24 .float).hasDepthOrStencil = true ∧
    (ofDepthStencil 32 8 24 .float).tally.Counts [32, 8, 24, 0] ∧
    ∃ padding, (ofDepthStencil 32 8 24 .float).channelBits = ⟨32, 8, padding, 0⟩ ∧
      (ofDepthStencil 32 8 24 .float).tally.Counts [32, 8, padding] := by
  have hclass : Format.d32SfloatS8Uint.descriptor? = some (ofDepthStencil 32 8 24 .float) := by
    decide +kernel
  obtain ⟨hplain, hdepth⟩ := channel_arithmetic_exact.2 _ _ hclass
  exact ⟨hclass, rfl, rfl, hplain rfl, (hdepth rfl).2⟩

end Descriptor

end TexelFormats
