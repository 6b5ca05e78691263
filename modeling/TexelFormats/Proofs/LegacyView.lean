import TexelFormats.Proofs.CoherentFeatures
import TexelFormats.Proofs.ModifierList

namespace TexelFormats

open ImageQuery

namespace FeatureSet

variable {s : FeatureSet}

/-- The view is what a word of 31 bits can hold of the set, and whoever decides by it on whether
there is anything to offer, or on whether an image may be used as it is to be, decides no other way
than by the set. -/
structure KeptBy (s view : FeatureSet) : Prop where
  lowBits : view.word = (s.word.setWidth 31).setWidth 64
  empty_iff : view = ∅ ↔ s = ∅
  granted_iff : ∀ u : Usage, u.GrantedBy view ↔ u.GrantedBy s
  unmet_eq : ∀ q : ImageQuery, q.unmet? view = q.unmet? s

def ReachesLow (s : FeatureSet) : Prop := s ≠ ∅ → ∃ x ∈ s, x.bit.val < 31

theorem word_legacy (s : FeatureSet) : s.legacy.word = (s.word.setWidth 31).setWidth 64 := by
  have hmask : (0x7fffffff : BitVec 64) = (BitVec.allOnes 31).setWidth 64 := rfl
  refine BitVec.eq_of_getLsbD_eq fun n hn ↦ ?_
  change (s.word &&& 0x7fffffff).getLsbD n = _
  rw [hmask, BitVec.getLsbD_and, BitVec.getLsbD_setWidth, BitVec.getLsbD_allOnes,
    BitVec.getLsbD_setWidth, BitVec.getLsbD_setWidth, decide_eq_true hn, Bool.true_and,
    Bool.true_and, Bool.and_comm]

theorem legacy_eq_empty_iff (h : s.ReachesLow) : s.legacy = ∅ ↔ s = ∅ := by
  constructor
  · intro he
    refine Classical.byContradiction fun hne ↦ ?_
    obtain ⟨x, hx, hlow⟩ := h hne
    have hmem : x ∈ s.legacy := mem_legacy.2 ⟨hx, hlow⟩
    rw [he] at hmem
    exact FlagSet.not_mem_empty hmem
  · intro he
    rw [he]
    rfl

theorem bit_lt_of_mem_requirements {r : Usage × Feature} (hr : r ∈ requirements) :
    r.2.bit < 31 := by
  revert r
  decide

theorem mem_legacy_of_required {r : Usage × Feature} (hr : r ∈ requirements) :
    r.2 ∈ s.legacy ↔ r.2 ∈ s :=
  mem_legacy.trans (and_iff_left (bit_lt_of_mem_requirements hr))

theorem granted_legacy_iff (u : Usage) : u.GrantedBy s.legacy ↔ u.GrantedBy s :=
  forall₂_congr fun _ hx ↦ mem_legacy_of_required (mem_requirements.2 hx)

theorem unmet_legacy (q : ImageQuery) : q.unmet? s.legacy = q.unmet? s :=
  unmet?_congr fun _ hr ↦ mem_legacy_of_required hr

theorem keptBy_legacy (h : s.ReachesLow) : s.KeptBy s.legacy :=
  ⟨s.word_legacy, legacy_eq_empty_iff h, granted_legacy_iff, unmet_legacy⟩

theorem CoherentForImages.reachesLow {f : Format} (h : s.CoherentForImages f) : s.ReachesLow :=
  fun hne ↦ ⟨.sampledImage, (h.sampled hne).1, by decide⟩

end FeatureSet

namespace Facts

variable {k : Facts} {f : Format} {x : Feature}

theorem bit_of_offersBuffer (h : k.offersBuffer x = true) :
    x.bit < 31 ∨ x = .storageReadWithoutFormat ∨ x = .storageWriteWithoutFormat := by
  cases x <;> simp [offersBuffer] at h <;> decide

theorem reachesLow_buffer (hk : k.Fits f) : k.features.buffer.ReachesLow := by
  intro hne
  obtain ⟨x, hx⟩ := FlagSet.exists_mem_of_owned k.owned_features.buffer hne
  have hcoherent := coherentForBuffers hk
  rcases bit_of_offersBuffer (mem_buffer_features.1 hx) with hlow | rfl | rfl
  · exact ⟨x, hx, hlow⟩
  · exact ⟨.storageTexelBuffer, hcoherent.readUnformatted.1 hx, by decide⟩
  · exact ⟨.storageTexelBuffer, hcoherent.writtenUnformatted.1 hx, by decide⟩

end Facts

structure Features.ReachLow (f : Features) : Prop where
  linear : f.linear.ReachesLow
  optimal : f.optimal.ReachesLow
  buffer : f.buffer.ReachesLow

namespace Device

variable {d : Device} {f : Format} {m : Modifier} {features : FeatureSet}

theorem reachLow_features (d : Device) (f : Format) : (d.features f).ReachLow := by
  obtain h | ⟨k, hk, h⟩ := d.features_cases f
  · rw [h]
    exact ⟨absurd rfl, absurd rfl, absurd rfl⟩
  · rw [h]
    have hfits := fits_of_facts? hk
    exact ⟨(Facts.coherentForImages_linear hfits).reachesLow,
      (Facts.coherentForImages_optimal hfits).reachesLow, Facts.reachesLow_buffer hfits⟩

theorem Shares.reachesLow (h : d.Shares f m features) : features.ReachesLow := by
  have hlow := d.reachLow_features f
  cases h with
  | linear => exact hlow.linear
  | compressed => exact hlow.optimal

/-- The older view of a format, which is the same whatever else is asked for, leads to the same
decisions as the newer one, and so does the older view of each modifier. -/
theorem legacy_loses_no_decision (d : Device) (f : Format) :
    (∀ requested, (d.queryFormat f requested).value = {
      legacy := (d.features f).legacy
      full := if .properties3 ∈ requested then some (d.features f) else none
      modifiers := if .modifierList ∈ requested then some (d.modifiers f) else none }) ∧
    (d.features f).linear.KeptBy (d.features f).legacy.linear ∧
    (d.features f).optimal.KeptBy (d.features f).legacy.optimal ∧
    (d.features f).buffer.KeptBy (d.features f).legacy.buffer ∧
    ∀ p ∈ d.modifiers f, p.features.KeptBy p.legacy.features := by
  have hlow := d.reachLow_features f
  refine ⟨fun requested ↦ value_queryFormat d f requested, ?_, ?_, ?_, fun p hp ↦ ?_⟩
  · exact FeatureSet.keptBy_legacy hlow.linear
  · exact FeatureSet.keptBy_legacy hlow.optimal
  · exact FeatureSet.keptBy_legacy hlow.buffer
  · exact FeatureSet.keptBy_legacy (mem_modifiers_iff.1 hp).1.reachesLow

end Device

end TexelFormats
