import TexelFormats.Proofs.TableRows

namespace TexelFormats

theorem Code.asColor_not_packed (c : Code) : c.asColor ∉ [.x8Z24Unorm, .z24UnormS8Uint] := by
  by_cases h : c = .x8Z24Unorm ∨ c = .z24UnormS8Uint
  · rw [asColor, if_pos h]
    decide
  · rw [asColor, if_neg h]
    simpa using h

namespace Row

variable {r : Row} {stage : Stage} {mode : TileMode}

def seenBy (r : Row) (stage : Stage) (mode : TileMode) : Encoding where
  code := r.code.asColor
  swap := if stage = .vertex ∨ mode = .linear then r.swap else .wzyx

theorem asColor_code_of_vertex (hr : r ∈ table) (h : .vertex ∈ r.support) :
    r.code.asColor = r.code := by
  have hall : ∀ r ∈ table, .vertex ∈ r.support → r.code.asColor = r.code := by decide +kernel
  exact hall r hr h

theorem texture_mem_support (hr : r ∈ table) (h : .color ∈ r.support) : .texture ∈ r.support := by
  obtain ⟨c, -, hfits⟩ := exists_fits hr
  exact (hfits.color h).1

theorem encoding?_eq (hr : r ∈ table) : r.encoding? stage mode =
    if stage ∈ r.support then some (r.seenBy stage mode) else none := by
  unfold encoding?
  split
  · rename_i hs
    cases stage with
    | vertex =>
      rw [seenBy, asColor_code_of_vertex hr hs]
      rfl
    | color => cases mode <;> rfl
    | texture => cases mode <;> rfl
  · rfl

end Row

namespace Format

variable {f : Format} {r : Row} {stage : Stage} {mode : TileMode} {e e' : Encoding}

def rowFor? (f : Format) (stage : Stage) : Option Row := f.row?.filter fun r ↦ stage ∈ r.support

theorem rowFor?_eq_some_iff : f.rowFor? stage = some r ↔ f.row? = some r ∧ stage ∈ r.support := by
  simp [rowFor?, Option.filter_eq_some_iff]

theorem mem_table_of_row? (h : f.row? = some r) : r ∈ Row.table := (Row.mem_of_index h).1

theorem encoding?_eq_map (f : Format) (stage : Stage) (mode : TileMode) :
    f.encoding? stage mode = (f.rowFor? stage).map fun r ↦ r.seenBy stage mode := by
  rw [encoding?, rowFor?]
  rcases hr : f.row? with _ | r
  · rfl
  · rw [Option.bind_some, Row.encoding?_eq (mem_table_of_row? hr), Option.filter_some]
    by_cases hs : stage ∈ r.support <;> simp [hs]

theorem encoding?_eq_some_iff : f.encoding? stage mode = some e ↔
    ∃ r, f.row? = some r ∧ stage ∈ r.support ∧ r.seenBy stage mode = e := by
  rw [encoding?_eq_map, Option.map_eq_some_iff]
  simp only [rowFor?_eq_some_iff, and_assoc]

/-- How the encodings of one format fit together over the stages and the ways to arrange a
surface. -/
structure EncodingsAgree (f : Format) : Prop where
  vertex : ∀ mode, f.encoding? .vertex mode = f.vertexEncoding?
  code : ∀ stage mode mode',
    (f.encoding? stage mode).map Encoding.code = (f.encoding? stage mode').map Encoding.code
  color : ∀ mode, (f.colorEncoding? mode).isSome = f.acceptedByColor
  texture : ∀ mode, (f.textureEncoding? mode).isSome = f.acceptedByTexture
  swap : ∀ stage mode e, stage ≠ .vertex → f.encoding? stage mode = some e →
    ∃ r, f.row? = some r ∧ e.swap = if mode = .linear then r.swap else .wzyx
  texture_of_color : ∀ mode e, f.colorEncoding? mode = some e → f.textureEncoding? mode = some e
  vertex_eq_texture : ∀ e e',
    f.vertexEncoding? = some e → f.textureEncoding? .linear = some e' → e = e'
  not_packed : ∀ stage mode e, f.encoding? stage mode = some e →
    e.code ∉ [.x8Z24Unorm, .z24UnormS8Uint]
  listed : f ∈ known ↔ ∃ stage mode, (f.encoding? stage mode).isSome = true

theorem vertexEncoding?_eq (f : Format) (mode : TileMode) :
    f.encoding? .vertex mode = f.vertexEncoding? := by
  rw [vertexEncoding?, encoding?_eq_map, encoding?_eq_map]
  rfl

theorem map_code_encoding? (f : Format) (stage : Stage) (mode : TileMode) :
    (f.encoding? stage mode).map Encoding.code =
      (f.rowFor? stage).map fun r ↦ r.code.asColor := by
  rw [encoding?_eq_map, Option.map_map]
  rfl

theorem isSome_encoding? (f : Format) (stage : Stage) (mode : TileMode) :
    (f.encoding? stage mode).isSome = (f.rowFor? stage).isSome := by
  rw [encoding?_eq_map, Option.isSome_map]

theorem swap_of_encoding? (hs : stage ≠ .vertex) (h : f.encoding? stage mode = some e) :
    ∃ r, f.row? = some r ∧ e.swap = if mode = .linear then r.swap else .wzyx := by
  obtain ⟨r, hr, -, rfl⟩ := encoding?_eq_some_iff.1 h
  exact ⟨r, hr, by simp [Row.seenBy, hs]⟩

theorem not_packed_of_encoding? (h : f.encoding? stage mode = some e) :
    e.code ∉ [.x8Z24Unorm, .z24UnormS8Uint] := by
  obtain ⟨r, -, -, rfl⟩ := encoding?_eq_some_iff.1 h
  exact r.code.asColor_not_packed

theorem textureEncoding?_of_color (h : f.colorEncoding? mode = some e) :
    f.textureEncoding? mode = some e := by
  rw [colorEncoding?, encoding?_eq_some_iff] at h
  obtain ⟨r, hr, hcolor, rfl⟩ := h
  have htexture := Row.texture_mem_support (mem_table_of_row? hr) hcolor
  exact encoding?_eq_some_iff.2 ⟨r, hr, htexture, by simp [Row.seenBy]⟩

theorem vertexEncoding?_eq_texture (h : f.vertexEncoding? = some e)
    (h' : f.textureEncoding? .linear = some e') : e = e' := by
  rw [vertexEncoding?, encoding?_eq_some_iff] at h
  rw [textureEncoding?, encoding?_eq_some_iff] at h'
  obtain ⟨r, hr, -, rfl⟩ := h
  obtain ⟨r', hr', -, rfl⟩ := h'
  obtain rfl : r = r' := Option.some.inj (hr.symm.trans hr')
  rfl

theorem mem_known_iff_exists_encoding? :
    f ∈ known ↔ ∃ stage mode, (f.encoding? stage mode).isSome = true := by
  rw [← isSome_row?_iff]
  simp only [isSome_encoding?_iff]
  constructor
  · intro h
    obtain ⟨r, hr⟩ := Option.isSome_iff_exists.1 h
    rcases Row.vertex_or_texture_mem_support (mem_table_of_row? hr) with hs | hs
    · exact ⟨.vertex, .linear, r, hr, hs⟩
    · exact ⟨.texture, .linear, r, hr, hs⟩
  · intro ⟨_, _, r, hr, _⟩
    rw [hr, Option.isSome_some]

/-- The tiling of a surface decides on nothing but the order of its components, the stages see one
format alike, and none but the depth buffer ever sees a packed depth and stencil code. -/
theorem encodings_agree (f : Format) : f.EncodingsAgree where
  vertex := f.vertexEncoding?_eq
  code stage mode mode' := (f.map_code_encoding? stage mode).trans
    (f.map_code_encoding? stage mode').symm
  color mode := (f.isSome_encoding? .color mode).trans (f.isSome_encoding? .color .linear).symm
  texture mode :=
    (f.isSome_encoding? .texture mode).trans (f.isSome_encoding? .texture .linear).symm
  swap _ _ _ hs he := swap_of_encoding? hs he
  texture_of_color _ _ he := textureEncoding?_of_color he
  vertex_eq_texture _ _ he he' := vertexEncoding?_eq_texture he he'
  not_packed _ _ _ he := not_packed_of_encoding? he
  listed := mem_known_iff_exists_encoding?

end Format

end TexelFormats
