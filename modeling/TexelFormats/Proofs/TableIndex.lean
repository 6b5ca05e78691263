import Mathlib.Data.List.Find
import Mathlib.Data.List.Nodup
import TexelFormats.Proofs.FormatTables

namespace TexelFormats

namespace Format

variable {f : Format}

theorem nodup_known : known.Nodup := by
  have hwords : (known.map word).Nodup := by decide +kernel
  exact hwords.of_map

theorem isSampled_of_untiled (h : f.canBeTiled = false) :
    f.acceptedByTexture = true ∧ f.hasPowerOfTwoBlock = true := by
  have hf := canBeTiled_eq_false_iff.1 h
  simp only [List.mem_cons, List.not_mem_nil, or_false] at hf
  rcases hf with rfl | rfl | rfl | rfl <;> exact ⟨rfl, rfl⟩

end Format

namespace Row

variable {r r' : Row} {c : Descriptor}

theorem eq_of_format_eq (hr : r ∈ table) (hr' : r' ∈ table) (h : r.format = r'.format) : r = r' :=
  List.inj_on_of_nodup_map Format.nodup_known hr hr' h

theorem find?_table_eq_find?_reverse (f : Format) :
    table.find? (fun r ↦ r.format = f) = table.reverse.find? fun r ↦ r.format = f := by
  refine List.find?_eq_find?_of_perm (List.reverse_perm table).symm ?_
  rintro r ⟨hr, hf⟩ r' ⟨hr', hf'⟩
  rw [decide_eq_true_eq] at hf hf'
  exact eq_of_format_eq hr hr' (hf.trans hf'.symm)

theorem not_packed_of_vertexOnly (hr : r ∈ table) (hc : r.format.descriptor? = some c)
    (h : .texture ∉ r.support) : ¬ (c.channels > 2 ∧ c.blockBits = 16) := by
  have hall : ∀ r ∈ table, .texture ∉ r.support →
      ((Format.classes.find? fun c ↦ c.1.word.beq r.format.word).all
        fun c ↦ decide (¬ (c.2.channels > 2 ∧ c.2.blockBits = 16))) = true := by decide +kernel
  have hnot := hall r hr h
  rw [Format.descriptor?_eq_find?, Option.map_eq_some_iff] at hc
  obtain ⟨_, hfind, rfl⟩ := hc
  rw [hfind] at hnot
  exact of_decide_eq_true hnot

end Row

theorem Features.isEmpty_eq_false {f : Features} {x : Feature}
    (h : x ∈ f.linear ∨ x ∈ f.optimal ∨ x ∈ f.buffer) : f.isEmpty = false := by
  rw [isEmpty, decide_eq_false_iff_not]
  rintro ⟨hl, ho, hb⟩
  rw [hl, ho, hb] at h
  simp at h

namespace Facts

variable {k : Facts}

theorem sampledImage_mem_of_isSampled (h : k.isSampled = true) :
    .sampledImage ∈ k.features.linear ∨ .sampledImage ∈ k.features.optimal := by
  rw [mem_linear_features, mem_optimal_features]
  have himage : k.offersImage .sampledImage = true := h
  by_cases hf : k.format = .d32SfloatS8Uint
  · have htiled : k.isUntiled = false := by
      rw [Bool.eq_false_iff, ne_eq, isUntiled_iff, hf]
      decide
    exact .inr (by simp [offersOptimal, htiled, himage])
  · exact .inl (by simp [offersLinear, hf, himage])

end Facts

namespace Device

variable {d : Device} {f : Format} {k : Facts}

theorem vertex_of_facts? (h : d.facts? f = some k) : k.vertex = f.acceptedByVertex := by
  rcases hc : f.descriptor? with _ | c
  · simp [facts?, hc] at h
  · simp only [facts?, hc, Option.bind_eq_bind, Option.bind_some, Option.ite_none_right_eq_some,
      Option.some.injEq] at h
    obtain ⟨-, rfl⟩ := h
    rfl

theorem exists_row?_of_facts? (hk : d.facts? f = some k) :
    ∃ r, f.row? = some r ∧ r ∈ Row.table ∧ r.format = f := by
  have hrow : f.row?.isSome = true := isSome_facts?_iff.1 (Option.isSome_of_eq_some hk)
  obtain ⟨r, hr⟩ := Option.isSome_iff_exists.1 hrow
  exact ⟨r, hr, Row.mem_of_index hr⟩

theorem sharesColor_of_not_sampled (hk : d.facts? f = some k) (hs : k.isSampled = false) :
    k.sharesColor = false := by
  obtain ⟨hformat, -⟩ := facts?_eq_some hk
  rw [Bool.eq_false_iff, ne_eq, Facts.sharesColor_iff, hformat, ← Format.canBeTiled_eq_false_iff]
  intro huntiled
  have hsampled := isSampled_of_accepted hk (Format.isSampled_of_untiled huntiled)
  simp [hs] at hsampled

theorem hasDepthOrStencil_of_not_sampled (hk : d.facts? f = some k) (hs : k.isSampled = false) :
    k.descriptor.hasDepthOrStencil = false := by
  obtain ⟨-, hc, -⟩ := facts?_eq_some hk
  obtain ⟨r, hr, hmem, rfl⟩ := exists_row?_of_facts? hk
  rw [Bool.eq_false_iff]
  intro hd
  have hcolor : .color ∈ r.support := by
    rw [((Row.fits hmem hc).depthOrStencil hd).1]
    decide
  have haccepted : r.format.acceptedByColor = true :=
    Format.isSome_encoding?_iff.2 ⟨r, hr, hcolor⟩
  have hsampled := isSampled_of_color hk ((color_of_facts? hk).trans haccepted)
  simp [hs] at hsampled

theorem exists_mem_buffer (hk : d.facts? f = some k) (hs : k.isSampled = false) :
    ∃ x, x ∈ k.features.buffer := by
  have hshared := sharesColor_of_not_sampled hk hs
  have hdepth := hasDepthOrStencil_of_not_sampled hk hs
  obtain ⟨-, hc, ht, -⟩ := facts?_eq_some hk
  obtain ⟨r, hr, hmem, rfl⟩ := exists_row?_of_facts? hk
  by_cases htexture : .texture ∈ r.support
  · have haccepted : k.texture = true := ht.trans (Format.isSome_encoding?_iff.2 ⟨r, hr, htexture⟩)
    refine ⟨.uniformTexelBuffer, Facts.mem_buffer_features.2 ?_⟩
    simp [Facts.offersBuffer, hshared, hdepth, haccepted]
  · have hvertex := (Row.vertex_or_texture_mem_support hmem).resolve_right htexture
    have haccepted : k.vertex = true :=
      (vertex_of_facts? hk).trans (Format.isSome_encoding?_iff.2 ⟨r, hr, hvertex⟩)
    have hpacked : k.isPacked16Bit = false := by
      rw [Bool.eq_false_iff, ne_eq, Facts.isPacked16Bit_iff]
      exact Row.not_packed_of_vertexOnly hmem hc htexture
    refine ⟨.vertexBuffer, Facts.mem_buffer_features.2 ?_⟩
    simp [Facts.offersBuffer, hshared, hdepth, haccepted, hpacked]

theorem isEmpty_features_iff : (d.features f).isEmpty = false ↔ f.row?.isSome = true := by
  rw [← isSome_facts?_iff (d := d), features]
  rcases hk : d.facts? f with _ | k
  · simp [Features.isEmpty]
  · simp only [Option.isSome_some, iff_true]
    by_cases hs : k.isSampled = true
    · obtain hl | ho := Facts.sampledImage_mem_of_isSampled hs
      · exact Features.isEmpty_eq_false (.inl hl)
      · exact Features.isEmpty_eq_false (.inr (.inl ho))
    · obtain ⟨x, hx⟩ := exists_mem_buffer hk (Bool.eq_false_iff.2 hs)
      exact Features.isEmpty_eq_false (.inr (.inr hx))

end Device

/-- The index answers as a search of the table from either end would, and the formats that it knows,
each once, are those that some device, and so every device, has a use for. -/
theorem Format.index_agrees_with_table (f : Format) :
    f.row? = (Row.table.filter fun r ↦ r.format = f).head? ∧
    f.row? = (Row.table.filter fun r ↦ r.format = f).getLast? ∧
    known.Nodup ∧
    ∀ d : Device, (f ∈ known ↔ f.row?.isSome = true) ∧
      (f.row?.isSome = true ↔ (d.features f).isEmpty = false) := by
  have hlast := Row.index_eq_find? f
  refine ⟨?_, ?_, nodup_known, fun d ↦ ⟨isSome_row?_iff.symm, Device.isEmpty_features_iff.symm⟩⟩
  · rw [List.head?_filter, Row.find?_table_eq_find?_reverse]
    exact hlast
  · rw [List.getLast?_filter]
    exact hlast

end TexelFormats
