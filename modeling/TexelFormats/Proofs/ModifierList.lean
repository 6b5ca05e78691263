import TexelFormats.Device.Queries
import TexelFormats.Proofs.Compression
import TexelFormats.Proofs.Support

namespace TexelFormats.Device

open ImageQuery Logged

variable {d : Device} {f : Format} {m : Modifier} {p : ModifierProperties} {q : ImageQuery}
  {support : Support}

/-- The features under which the format can be shared with the modifier, if there are any. -/
inductive Shares (d : Device) (f : Format) : Modifier → FeatureSet → Prop
  | linear : (d.features f).linear ≠ ∅ → Shares d f .linear (d.features f).linear
  | compressed : (d.features f).optimal ≠ ∅ → f.canBeTiled = true → d.CanCompress f →
      Shares d f .compressed (d.features f).optimal

theorem compressed_ne_linear : Modifier.compressed ≠ .linear := by decide

theorem filter_modifiers {features : FeatureSet} (h : d.Shares f m features) :
    (d.modifiers f).filter (·.modifier = m) = [⟨m, f.planeCount, features⟩] := by
  rw [modifiers, List.filter_append]
  cases h with
  | linear hl =>
    rw [if_neg hl]
    split <;> simp [compressed_ne_linear]
  | compressed ho ht hc =>
    have hlast : (d.features f).optimal ≠ ∅ ∧ f.canBeTiled = true ∧
        d.compresses { format := f } = true := ⟨ho, ht, compresses_plain_iff.2 hc⟩
    simp only [if_pos hlast]
    split <;> simp [compressed_ne_linear.symm]

theorem filter_modifiers_ne_compressed (d : Device) (f : Format) :
    (d.modifiers f).filter (·.modifier ≠ .compressed) =
      if (d.features f).linear = ∅ then [] else [⟨.linear, f.planeCount, (d.features f).linear⟩] := by
  rw [modifiers]
  split <;> split <;> simp [compressed_ne_linear.symm]

theorem mem_modifiers_iff :
    p ∈ d.modifiers f ↔ d.Shares f p.modifier p.features ∧ p.planeCount = f.planeCount := by
  constructor
  · intro h
    rcases List.mem_append.1 h with h | h
    · split at h
      · simp at h
      · rename_i hl
        rw [List.mem_singleton.1 h]
        exact ⟨.linear hl, rfl⟩
    · split at h
      · rename_i hc
        rw [List.mem_singleton.1 h]
        exact ⟨.compressed hc.1 hc.2.1 (compresses_plain_iff.1 hc.2.2), rfl⟩
      · simp at h
  · rintro ⟨h, hp⟩
    have hmem : p ∈ (d.modifiers f).filter (·.modifier = p.modifier) := by
      rw [filter_modifiers h, ← hp]
      exact List.mem_singleton.2 rfl
    exact (List.mem_filter.1 hmem).1

theorem nodup_modifiers (d : Device) (f : Format) :
    ((d.modifiers f).map ModifierProperties.modifier).Nodup := by
  rw [modifiers]
  split <;> split <;> simp [compressed_ne_linear.symm]

theorem shares_of_support (ht : q.tiling = .byModifier) (hm : q.modifier = some m)
    (h : (d.support q).result = .ok support) : d.Shares q.format m support.features := by
  obtain ⟨features, hs, hw⟩ := support_eq_ok_iff.1 h
  obtain ⟨hallowed, extent, mipLevels, arrayLayers, -, rfl⟩ := supportWith_eq_ok_iff.1 hw
  rw [selectedFeatures, if_pos ht, featuresByModifier_eq_ok_iff, hm] at hs
  -- of what kept this very surface compressed, only the part that any surface needs is left
  rcases hs with ⟨hl, rfl⟩ | ⟨hc, ho, htiled, -, hcompresses, rfl⟩
  · cases hl
    exact .linear hallowed.nonempty
  · cases hc
    exact .compressed ho htiled (compresses_iff.1 hcompresses).1

theorem support_of_shares {features : FeatureSet} (h : d.Shares q.format m features)
    (ht : q.tiling = .byModifier) (hm : q.modifier = some m) (h2d : q.imageType = .twoD)
    (hu : q.usage = ∅) (hstencil : q.actualStencilUsage = ∅) (hf : q.flags = ∅) :
    ∃ limits, (d.support q).result = .ok ⟨limits, features⟩ := by
  have hb : q.imageType.bounds? = some (⟨16384, 16384, 1⟩, 15, 2048) := by rw [h2d]; rfl
  have hallowed {features : FeatureSet} (hne : features ≠ ∅) : q.AllowedBy features := by
    refine ⟨hne, .inl h2d, .inr fun u hmem ↦ ?_⟩
    simp [hu] at hmem
  have hselected : (d.selectedFeatures q (d.features q.format)).result = .ok features := by
    rw [selectedFeatures, if_pos ht, featuresByModifier_eq_ok_iff]
    cases h with
    | linear hl => exact .inl ⟨hm, rfl⟩
    | compressed ho htiled hc =>
      have hflat : q.imageType ≠ .threeD := by rw [h2d]; decide
      have hleaves : d.LeavesCompressed q.surface :=
        leavesCompressed_of_unused hflat hu hstencil rfl
      exact .inr ⟨hm, ho, htiled, by simp [hf], compresses_iff.2 ⟨hc, hleaves⟩, rfl⟩
  have hne : features ≠ ∅ := by
    cases h <;> assumption
  exact ⟨_, support_eq_ok_iff.2 ⟨features, hselected,
    supportWith_eq_ok_iff.2 ⟨hallowed hne, _, _, _, hb, rfl⟩⟩⟩

/-- The modifiers listed for a format are those with which an image of it can be created, and an
image has the features that are listed for its modifier. -/
theorem modifiers_agree_with_support {requested : List FormatOutput}
    (h : .modifierList ∈ requested) : ∃ list,
      (d.queryFormat f requested).value.modifiers = some list ∧
      (list.map ModifierProperties.modifier).Nodup ∧
      (∀ p ∈ list, p.planeCount = f.planeCount) ∧
      (∀ q m support, q.format = f → q.tiling = .byModifier → q.modifier = some m →
        (d.support q).result = .ok support →
        list.filter (·.modifier = m) = [⟨m, f.planeCount, support.features⟩]) ∧
      ∀ p ∈ list, ∀ q : ImageQuery, q.format = f → q.tiling = .byModifier →
        q.modifier = some p.modifier → q.imageType = .twoD → q.usage = ∅ →
        q.actualStencilUsage = ∅ → q.flags = ∅ →
        ∃ limits, (d.support q).result = .ok ⟨limits, p.features⟩ := by
  refine ⟨d.modifiers f, by simp [value_queryFormat, h], nodup_modifiers d f,
    fun p hp ↦ (mem_modifiers_iff.1 hp).2, ?_, ?_⟩
  · rintro q m support rfl ht hm hs
    exact filter_modifiers (shares_of_support ht hm hs)
  · rintro p hp q rfl ht hm h2d hu hstencil hf
    exact support_of_shares (mem_modifiers_iff.1 hp).1 ht hm h2d hu hstencil hf

theorem modifiers_agree_with_support_compressed : ∃ list,
    ((default : Device).queryFormat .r8g8b8a8Unorm [.modifierList]).value.modifiers = some list ∧
      ∃ features, list.filter (·.modifier = .compressed) = [⟨.compressed, 1, features⟩] := by
  obtain ⟨list, hlist, -, -, hlisted, -⟩ :=
    modifiers_agree_with_support (d := default) (f := .r8g8b8a8Unorm) (.head _)
  have hok : ∃ support, ((default : Device).support {
      format := .r8g8b8a8Unorm, tiling := .byModifier, modifier := some .compressed
      usage := {.sampled, .colorAttachment} }).result = .ok support := ⟨_, rfl⟩
  obtain ⟨support, hok⟩ := hok
  exact ⟨list, hlist, support.features, hlisted _ _ support rfl rfl rfl hok⟩

end TexelFormats.Device
