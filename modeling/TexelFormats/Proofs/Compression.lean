import TexelFormats.Compression
import TexelFormats.Proofs.FlagSets

namespace TexelFormats

/-- The surface `t` has the format of `s`, and whatever it asks for that rules out compression, `s`
asks for too. -/
structure Surface.AsksNoMore (t s : Surface) : Prop where
  format : t.format = s.format
  flat : t.imageType ≠ .threeD
  storage : .storage ∈ t.usage ∪ t.stencilUsage → .storage ∈ s.usage ∪ s.stencilUsage
  stencilRead : .sampled ∈ t.stencilUsage ∨ .inputAttachment ∈ t.stencilUsage →
    .sampled ∈ s.stencilUsage ∨ .inputAttachment ∈ s.stencilUsage
  samples : t.samples.word.toNat ≤ max s.samples.word.toNat 1
  stencilAsUint : s.stencilAsUint = true → t.stencilAsUint = true

namespace Device

variable {d e : Device} {f : Format} {s t : Surface}

def CanCompress (d : Device) (f : Format) : Prop :=
  ∃ c, f.descriptor? = some c ∧
    ¬ (c.isBlockCompressed = true ∨ f = .e5b9g9r9UfloatPack32 ∨ f = .s8Uint) ∧
    ¬ c.isSignedNormalized = true ∧
    ¬ (¬ d.compresses8bpp = true ∧ f ∈ [.r8Unorm, .r8Snorm, .r8Uint, .r8Sint, .r8Srgb])

structure LeavesCompressed (d : Device) (s : Surface) : Prop where
  flat : s.imageType ≠ .threeD
  notStored : .storage ∉ s.usage ∪ s.stencilUsage
  stencilUnread : ¬ (¬ s.stencilAsUint = true ∧ s.format = .d24UnormS8Uint ∧
    s.stencilUsage.Meets {.sampled, .inputAttachment})
  singlySampled : ¬ (¬ d.samplesStencilAsUint = true ∧
    s.format ∈ [.d24UnormS8Uint, .x8D24UnormPack32] ∧ 1 < s.samples.word.toNat)

theorem meets_reads_iff {u : UsageSet} :
    u.Meets {.sampled, .inputAttachment} ↔ .sampled ∈ u ∨ .inputAttachment ∈ u := by
  rw [FlagSet.meets_iff_of_owned (by simp)]
  constructor
  · rintro ⟨x, hx, hr⟩
    rcases FlagSet.mem_insert.1 hr with rfl | hr
    · exact .inl hx
    · obtain rfl := FlagSet.mem_singleton.1 hr
      exact .inr hx
  · rintro (h | h)
    · exact ⟨_, h, by simp⟩
    · exact ⟨_, h, by simp⟩

theorem ite_some_eq_none {α : Type} {p : Prop} [Decidable p] {a : α} {o : Option α} :
    (if p then some a else o) = none ↔ ¬ p ∧ o = none := by
  split <;> simp [*]

theorem compresses_iff : d.compresses s = true ↔ d.CanCompress s.format ∧ d.LeavesCompressed s := by
  rw [compresses, Option.isNone_iff_eq_none, obstacle?]
  rcases hc : s.format.descriptor? with _ | c
  · simp [CanCompress, hc]
  simp only [CanCompress, hc, Option.some.injEq, exists_eq_left', ite_some_eq_none]
  constructor
  · rintro ⟨henabled, hsigned, hnarrow, hflat, hstored, hread, hsamples, -⟩
    exact ⟨⟨henabled, hsigned, hnarrow⟩, hflat, hstored, hread, hsamples⟩
  · rintro ⟨⟨henabled, hsigned, hnarrow⟩, hs⟩
    exact ⟨henabled, hsigned, hnarrow, hs.flat, hs.notStored, hs.stencilUnread, hs.singlySampled,
      trivial⟩

theorem ite_some_eq_some_of_ne {α : Type} {p : Prop} [Decidable p] {a b : α} {o : Option α}
    (h : a ≠ b) : (if p then some a else o) = some b ↔ ¬ p ∧ o = some b := by
  split <;> simp [*]

theorem obstacle?_eq_threeDimensional_iff :
    d.obstacle? s = some .threeDimensional ↔ d.CanCompress s.format ∧ s.imageType = .threeD := by
  rw [obstacle?]
  rcases hc : s.format.descriptor? with _ | c
  · simp [CanCompress, hc]
  simp (disch := decide) only [ite_some_eq_some_of_ne, CanCompress, hc, Option.some.injEq,
    exists_eq_left', and_assoc]
  refine and_congr_right fun _ ↦ and_congr_right fun _ ↦ and_congr_right fun _ ↦ ?_
  split
  · simp [*]
  · simp (disch := decide) only [ite_some_eq_some_of_ne, reduceCtorEq, and_false, *]

theorem CanCompress.mono (h : d.CanCompress f)
    (hnarrow : d.compresses8bpp = true → e.compresses8bpp = true) : e.CanCompress f := by
  obtain ⟨c, hc, henabled, hsigned, hd⟩ := h
  have he : ¬ (¬ e.compresses8bpp = true ∧ f ∈ [.r8Unorm, .r8Snorm, .r8Uint, .r8Sint, .r8Srgb]) :=
    fun he ↦ hd ⟨mt hnarrow he.1, he.2⟩
  exact ⟨c, hc, henabled, hsigned, he⟩

theorem LeavesCompressed.mono (h : d.LeavesCompressed s) (ht : t.AsksNoMore s)
    (hsampled : d.samplesStencilAsUint = true → e.samplesStencilAsUint = true) :
    e.LeavesCompressed t := by
  refine ⟨ht.flat, mt ht.storage h.notStored, ?_, ?_⟩
  · rintro ⟨hu, hformat, hmeets⟩
    have hread : s.stencilUsage.Meets {.sampled, .inputAttachment} := by
      rw [meets_reads_iff] at hmeets ⊢
      exact ht.stencilRead hmeets
    exact h.stencilUnread ⟨mt ht.stencilAsUint hu, ht.format ▸ hformat, hread⟩
  · rintro ⟨hu, hformat, hone⟩
    have hmany : 1 < s.samples.word.toNat := by
      have hle := ht.samples
      omega
    exact h.singlySampled ⟨mt hsampled hu, ht.format ▸ hformat, hmany⟩

theorem compresses_of_asksNoMore (ht : t.AsksNoMore s)
    (hnarrow : d.compresses8bpp = true → e.compresses8bpp = true)
    (hsampled : d.samplesStencilAsUint = true → e.samplesStencilAsUint = true)
    (h : d.compresses s = true) : e.compresses t = true := by
  rw [compresses_iff] at h ⊢
  obtain ⟨hcan, hleaves⟩ := h
  rw [ht.format]
  exact ⟨hcan.mono hnarrow, hleaves.mono ht hsampled⟩

theorem singlySampled_of_one (hs : s.samples = {.one}) : ¬ (¬ d.samplesStencilAsUint = true ∧
    s.format ∈ [.d24UnormS8Uint, .x8D24UnormPack32] ∧ 1 < s.samples.word.toNat) := by
  have hone : ({.one} : SampleCounts).word.toNat = 1 := rfl
  rintro ⟨-, -, hmany⟩
  rw [hs, hone] at hmany
  omega

theorem leavesCompressed_congr (hs : s.samples = {.one}) :
    d.LeavesCompressed s ↔ e.LeavesCompressed s :=
  ⟨fun h ↦ ⟨h.flat, h.notStored, h.stencilUnread, singlySampled_of_one hs⟩,
    fun h ↦ ⟨h.flat, h.notStored, h.stencilUnread, singlySampled_of_one hs⟩⟩

theorem compresses_congr (hs : s.samples = {.one})
    (hc : d.CanCompress s.format ↔ e.CanCompress s.format) : d.compresses s = e.compresses s := by
  rw [Bool.eq_iff_iff, compresses_iff, compresses_iff, hc, leavesCompressed_congr hs]

theorem leavesCompressed_of_unused (hflat : s.imageType ≠ .threeD) (hu : s.usage = ∅)
    (hstencil : s.stencilUsage = ∅) (hsamples : s.samples = {.one}) : d.LeavesCompressed s := by
  refine ⟨hflat, ?_, ?_, singlySampled_of_one hsamples⟩
  · simp [hu, hstencil]
  · rw [hstencil]
    exact fun hread ↦ FlagSet.not_empty_meets _ hread.2.2

theorem compresses_plain_iff : d.compresses { format := f } = true ↔ d.CanCompress f := by
  have hflat : ImageType.twoD ≠ .threeD := by decide
  rw [compresses_iff]
  exact ⟨And.left, fun h ↦ ⟨h, leavesCompressed_of_unused hflat rfl rfl rfl⟩⟩

/-- Eligibility for compression is monotone: a surface that can be compressed stays so when less is
asked of it and when the device can do more, down to the flat surface with nothing asked of it. No
device compresses a format that it knows nothing about. -/
theorem compresses_mono (d : Device) (s : Surface) :
    (∀ (e : Device) (t : Surface),
      (d.compresses8bpp = true → e.compresses8bpp = true) →
      (d.samplesStencilAsUint = true → e.samplesStencilAsUint = true) →
      t.AsksNoMore s → d.compresses s = true → e.compresses t = true) ∧
    (d.compresses s = true → d.compresses ⟨s.format, .twoD, ∅, ∅, {.one}, false⟩ = true) ∧
    (s.format.descriptor? = none → d.compresses s = false) := by
  refine ⟨fun e t hnarrow hsampled ht ↦ compresses_of_asksNoMore ht hnarrow hsampled,
    fun h ↦ ?_, fun h ↦ ?_⟩
  · obtain ⟨hcan, -⟩ := compresses_iff.1 h
    exact compresses_plain_iff.2 hcan
  · rw [compresses, obstacle?, h]
    rfl

theorem compresses_mono_of_packed :
    compresses { a650 with compresses8bpp := false } {
      format := .d24UnormS8Uint, samples := {.four} } = true ∧
    a660.compresses {
      format := .d24UnormS8Uint, imageType := ⟨7⟩, usage := {.sampled}, samples := ⟨3⟩,
      stencilAsUint := true } = true := by
  have hs : compresses { a650 with compresses8bpp := false } {
      format := .d24UnormS8Uint, samples := {.four} } = true := by decide
  obtain ⟨hmono, -, -⟩ := compresses_mono { a650 with compresses8bpp := false }
    { format := .d24UnormS8Uint, samples := {.four} }
  refine ⟨hs, hmono a660 _ (fun _ ↦ rfl) (fun _ ↦ rfl) ?_ hs⟩
  exact ⟨rfl, by decide, by decide, by decide, by decide, by decide⟩

end Device

end TexelFormats
