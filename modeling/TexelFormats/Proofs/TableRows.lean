import TexelFormats.Limits
import TexelFormats.Proofs.OfferedFeatures

namespace TexelFormats

namespace Format

variable {f g : Format} {c : Descriptor}

/-- The words of two formats are compared faster than the formats themselves. -/
def word (f : Format) : Nat := f.raw.toBitVec.toNat

theorem eq_of_word_eq (h : f.word = g.word) : f = g := by
  rcases f with ⟨⟨⟨a⟩⟩⟩
  rcases g with ⟨⟨⟨b⟩⟩⟩
  have hab : a = b := BitVec.eq_of_toNat_eq h
  rw [hab]

theorem mem_classes_of_descriptor? (h : f.descriptor? = some c) : (f, c) ∈ classes := by
  obtain ⟨before, after, hsplit, -⟩ := List.lookup_eq_some_iff.1 h
  simp [hsplit]

theorem descriptor?_eq_find? (f : Format) :
    f.descriptor? = (classes.find? fun c ↦ c.1.word.beq f.word).map Prod.snd := by
  have hword (g : Format) : (f == g) = g.word.beq f.word := by
    rw [Bool.eq_iff_iff, beq_iff_eq, Nat.beq_eq]
    exact ⟨fun h ↦ h ▸ rfl, fun h ↦ (eq_of_word_eq h).symm⟩
  unfold descriptor?
  generalize classes = cs
  induction cs with
  | nil => rfl
  | cons c cs ih =>
    rw [List.lookup_cons, List.find?_cons, hword]
    cases c.1.word.beq f.word
    · exact ih
    · rfl

theorem isSome_encoding?_iff {stage : Stage} {mode : TileMode} :
    (f.encoding? stage mode).isSome = true ↔ ∃ r, f.row? = some r ∧ stage ∈ r.support := by
  unfold encoding?
  cases f.row? with
  | none => simp
  | some r =>
    by_cases hs : stage ∈ r.support
    · cases stage <;> simp [Row.encoding?, hs]
    · simp [Row.encoding?, hs]

end Format

namespace Row

variable {r : Row} {c : Descriptor}

theorem index_eq_find? (f : Format) : index f = table.reverse.find? fun r ↦ r.format = f := by
  suffices ∀ (rows : List Row) (found : Format → Option Row),
      rows.foldl (fun found row f ↦ if f = row.format then some row else found f) found f =
        (rows.reverse.find? fun r ↦ r.format = f).or (found f) from
    (this table _).trans Option.or_none
  intro rows
  induction rows with
  | nil =>
    intro found
    rfl
  | cons row rows ih =>
    intro found
    rw [List.foldl_cons, ih, List.reverse_cons, List.find?_append, Option.or_assoc]
    by_cases hf : f = row.format
    · simp [hf]
    · simp [hf, Ne.symm hf]

/-- What the stages that accept a format take for granted of it. -/
structure Fits (r : Row) (c : Descriptor) : Prop where
  color : .color ∈ r.support →
    .texture ∈ r.support ∧ c.hasPowerOfTwoBlock = true ∧ c.layout = .plain
  vertex : .vertex ∈ r.support → c.hasDepthOrStencil = false ∧ c.layout = .plain
  depthOrStencil : c.hasDepthOrStencil = true →
    r.support = {.texture, .color} ∧ r.format.depthFormat?.isSome = true
  blockCompressed : c.layout = .blockCompressed → r.support = {.texture}

instance : Decidable (r.Fits c) :=
  decidable_of_iff
    ((.color ∈ r.support →
        .texture ∈ r.support ∧ c.hasPowerOfTwoBlock = true ∧ c.layout = .plain) ∧
      (.vertex ∈ r.support → c.hasDepthOrStencil = false ∧ c.layout = .plain) ∧
      (c.hasDepthOrStencil = true →
        r.support = {.texture, .color} ∧ r.format.depthFormat?.isSome = true) ∧
      (c.layout = .blockCompressed → r.support = {.texture}))
    ⟨fun ⟨hc, hv, hd, hb⟩ ↦ ⟨hc, hv, hd, hb⟩, fun ⟨hc, hv, hd, hb⟩ ↦ ⟨hc, hv, hd, hb⟩⟩

theorem exists_fits (hr : r ∈ table) : ∃ c, r.format.descriptor? = some c ∧ r.Fits c := by
  have hall : ∀ r ∈ table, ((Format.classes.find? fun c ↦ c.1.word.beq r.format.word).any
      fun c ↦ decide (r.Fits c.2)) = true := by decide +kernel
  obtain ⟨c, hc, hfits⟩ := (Option.any_eq_true _ _).1 (hall r hr)
  refine ⟨c.2, ?_, of_decide_eq_true hfits⟩
  rw [Format.descriptor?_eq_find?, hc]
  rfl

theorem fits (hr : r ∈ table) (hc : r.format.descriptor? = some c) : r.Fits c := by
  obtain ⟨c', hc', hfits⟩ := exists_fits hr
  obtain rfl : c = c' := Option.some.inj (hc.symm.trans hc')
  exact hfits

theorem vertex_or_texture_mem_support (hr : r ∈ table) :
    .vertex ∈ r.support ∨ .texture ∈ r.support := by
  have hall : ∀ r ∈ table, .vertex ∈ r.support ∨ .texture ∈ r.support := by decide +kernel
  exact hall r hr

end Row

namespace Format

variable {f : Format}

theorem isSome_row?_iff : f.row?.isSome = true ↔ f ∈ known := by
  rw [row?, Row.index_eq_find?, List.find?_isSome, known, List.mem_map]
  simp

theorem accepted_iff :
    (f.acceptedByVertex || f.acceptedByColor || f.acceptedByTexture) = true ↔
      f.row?.isSome = true := by
  simp only [Bool.or_eq_true, acceptedByVertex, acceptedByColor, acceptedByTexture,
    vertexEncoding?, colorEncoding?, textureEncoding?, isSome_encoding?_iff]
  constructor
  · rintro ((⟨r, hr, -⟩ | ⟨r, hr, -⟩) | ⟨r, hr, -⟩) <;> simp [hr]
  · intro h
    obtain ⟨r, hr⟩ := Option.isSome_iff_exists.1 h
    obtain ⟨hmem, -⟩ := Row.mem_of_index hr
    rcases Row.vertex_or_texture_mem_support hmem with hv | ht
    · exact .inl (.inl ⟨r, hr, hv⟩)
    · exact .inr ⟨r, hr, ht⟩

end Format

namespace Device

variable {d : Device} {f : Format} {k : Facts}

theorem isSome_facts?_iff : (d.facts? f).isSome = true ↔ f.row?.isSome = true := by
  rcases hc : f.descriptor? with _ | c
  · refine iff_of_false (by simp [facts?, hc]) fun h ↦ ?_
    obtain ⟨r, hr⟩ := Option.isSome_iff_exists.1 h
    obtain ⟨hmem, rfl⟩ := Row.mem_of_index hr
    obtain ⟨c, hsome, -⟩ := Row.exists_fits hmem
    simp [hc] at hsome
  · rw [← Format.accepted_iff]
    simp [facts?, hc]

theorem color_of_facts? (h : d.facts? f = some k) : k.color = f.acceptedByColor := by
  rcases hc : f.descriptor? with _ | c
  · simp [facts?, hc] at h
  · simp only [facts?, hc, Option.bind_eq_bind, Option.bind_some, Option.ite_none_right_eq_some,
      Option.some.injEq] at h
    obtain ⟨-, rfl⟩ := h
    rfl

theorem isSampled_of_color (hk : d.facts? f = some k) (h : k.color = true) :
    k.isSampled = true := by
  obtain ⟨-, hc, ht, -⟩ := facts?_eq_some hk
  rw [color_of_facts? hk] at h
  obtain ⟨r, hr, hcolor⟩ := Format.isSome_encoding?_iff.1 h
  obtain ⟨hmem, rfl⟩ := Row.mem_of_index hr
  obtain ⟨htexture, hblock, -⟩ := (Row.fits hmem hc).color hcolor
  have haccepted : r.format.acceptedByTexture = true :=
    Format.isSome_encoding?_iff.2 ⟨r, hr, htexture⟩
  rw [Facts.isSampled, ht, haccepted, hblock]
  rfl

end Device

end TexelFormats
