import Mathlib.Data.List.DropRight
import TexelFormats.Device

namespace TexelFormats

variable {c : Char} {cs core before after : List Char}

/-- What is left of a text once nothing at either end of it is blank. -/
structure Trimmed (cs core : List Char) : Prop where
  around : ∃ before after, cs = before ++ core ++ after ∧
    (∀ c ∈ before, isBlank c = true) ∧ ∀ c ∈ after, isBlank c = true
  first : ∀ c, core.head? = some c → isBlank c = false
  last : ∀ c, core.getLast? = some c → isBlank c = false

theorem trim_eq_rdropWhile (cs : List Char) :
    trim cs = (cs.dropWhile isBlank).rdropWhile isBlank := rfl

theorem trim_append (hb : ∀ c ∈ before, isBlank c = true) (ha : ∀ c ∈ after, isBlank c = true) :
    trim (before ++ cs ++ after) = trim cs := by
  rw [trim, trim, List.append_assoc, List.dropWhile_append_of_pos hb, List.dropWhile_append]
  -- a text of nothing but blanks is used up before its end is looked at
  split
  · rename_i he
    rw [List.isEmpty_iff.1 he, List.dropWhile_eq_nil_iff.2 ha]
  · have hreverse : ∀ c ∈ after.reverse, isBlank c = true :=
      fun c hc ↦ ha c (List.mem_reverse.1 hc)
    rw [List.reverse_append, List.dropWhile_append_of_pos hreverse]

theorem not_isBlank_of_head?_dropWhile (h : (cs.dropWhile isBlank).head? = some c) :
    isBlank c = false := by
  have hnot := List.head?_dropWhile_not isBlank cs
  rw [h] at hnot
  exact hnot

theorem trimmed_trim (cs : List Char) : Trimmed cs (trim cs) := by
  rw [trim_eq_rdropWhile]
  refine ⟨⟨cs.takeWhile isBlank, (cs.dropWhile isBlank).rtakeWhile isBlank, ?_, ?_, ?_⟩, ?_, ?_⟩
  · rw [List.append_assoc, List.rdropWhile_append_rtakeWhile, List.takeWhile_append_dropWhile]
  · intro c hc
    exact List.mem_takeWhile_imp hc
  · intro c hc
    exact List.mem_rtakeWhile_imp hc
  · intro c hc
    -- what is dropped at the end leaves the first character in its place
    obtain ⟨dropped, hdropped⟩ := List.rdropWhile_prefix isBlank (cs.dropWhile isBlank)
    have hfirst : (cs.dropWhile isBlank).head? = some c := by
      rw [← hdropped, List.head?_append, hc, Option.some_or]
    exact not_isBlank_of_head?_dropWhile hfirst
  · intro c hc
    rw [List.rdropWhile, List.getLast?_reverse] at hc
    exact not_isBlank_of_head?_dropWhile hc

theorem Trimmed.eq_trim (h : Trimmed cs core) : core = trim cs := by
  obtain ⟨before, after, rfl, hb, ha⟩ := h.around
  rw [trim_append hb ha, trim_eq_rdropWhile]
  have hfirst : core.dropWhile isBlank = core := by
    cases core with
    | nil => rfl
    | cons c cs => rw [List.dropWhile_cons_of_neg (Bool.eq_false_iff.1 (h.first c rfl))]
  rw [hfirst, List.rdropWhile_eq_self_iff.2]
  intro hne
  exact Bool.eq_false_iff.1 (h.last _ (List.getLast?_eq_some_getLast hne))

theorem trimmed_iff : Trimmed cs core ↔ core = trim cs :=
  ⟨Trimmed.eq_trim, fun h ↦ h ▸ trimmed_trim cs⟩

theorem not_isBlank_of_letter (h : 'A'.val ≤ c.val ∧ c.val ≤ 'z'.val) : isBlank c = false := by
  have hblanks : (blanks.any fun b ↦ 'A'.val ≤ b.val ∧ b.val ≤ 'z'.val) = false := by decide
  exact decide_eq_false fun hc ↦ List.any_eq_false.1 hblanks c hc (decide_eq_true h)

theorem isBlank_toLower (c : Char) : isBlank c.toLower = isBlank c := by
  unfold Char.toLower
  split
  · rename_i h
    obtain ⟨hfirst, hlast⟩ := h
    simp only [ge_iff_le, UInt32.le_iff_toNat_le] at hfirst hlast
    have hA : 'A'.val.toNat = 65 := rfl
    have hZ : 'Z'.val.toNat = 90 := rfl
    have hz : 'z'.val.toNat = 122 := rfl
    have hlower : (c.val + ('a'.val - 'A'.val)).toNat = c.val.toNat + 32 := by
      rw [UInt32.toNat_add]
      change (c.val.toNat + 32) % 2 ^ 32 = _
      omega
    rw [not_isBlank_of_letter, not_isBlank_of_letter]
    · simp only [UInt32.le_iff_toNat_le]
      omega
    · simp only [UInt32.le_iff_toNat_le, hlower]
      omega
  · rfl

theorem trim_map_toLower (cs : List Char) :
    trim (cs.map Char.toLower) = (trim cs).map Char.toLower := by
  have hlower : isBlank ∘ Char.toLower = isBlank := funext isBlank_toLower
  rw [trim, trim, List.dropWhile_map, hlower, ← List.map_reverse, List.dropWhile_map, hlower,
    List.map_reverse]

namespace Device

variable {d : Device} {name : String} {letters p q : List Char}

def chips : List Device := [a618, a630, a650, a660]

def digits (d : Device) : List Char := Nat.toDigits 10 d.chipId.toNat

def beginnings : List (List Char) := [['a'], ['f', 'd']]

def spellings (d : Device) : List (List Char) := d.digits :: beginnings.map (· ++ d.digits)

theorem presets_eq : presets = chips.map fun d ↦ (String.ofList d.digits, d) := by decide

theorem lookup_presets_eq_some_iff :
    presets.lookup (String.ofList letters) = some d ↔ d ∈ chips ∧ letters = d.digits := by
  have hall : ∀ d ∈ chips, presets.lookup (String.ofList d.digits) = some d := by decide
  constructor
  · intro h
    obtain ⟨before, after, hsplit, -⟩ := List.lookup_eq_some_iff.1 h
    have hmem : (String.ofList letters, d) ∈ presets := by simp [hsplit]
    rw [presets_eq, List.mem_map] at hmem
    obtain ⟨chip, hchip, heq⟩ := hmem
    obtain ⟨hletters, rfl⟩ := Prod.mk.inj heq
    exact ⟨hchip, (String.ofList_inj.1 hletters).symm⟩
  · intro ⟨hd, hletters⟩
    rw [hletters]
    exact hall d hd

theorem chipDigits_eq_iff (hd : d ∈ chips) :
    chipDigits letters = d.digits ↔ letters ∈ d.spellings := by
  have hall : ∀ d ∈ chips, ∀ letters ∈ d.spellings, chipDigits letters = d.digits := by decide
  constructor
  · intro h
    unfold chipDigits at h
    split at h <;> simp [spellings, beginnings, h]
  · intro h
    exact hall d hd letters h

theorem ofName?_eq_some_iff : ofName? name = some d ↔
    d ∈ chips ∧ (trim name.toList).map Char.toLower ∈ d.spellings := by
  rw [ofName?, lookup_presets_eq_some_iff]
  exact and_congr_right fun hd ↦ chipDigits_eq_iff hd

theorem ofName?_append {before after : String}
    (h : ∀ c ∈ before.toList ++ after.toList, isBlank c = true) (name : String) :
    ofName? (before ++ name ++ after) = ofName? name := by
  rw [ofName?, ofName?, String.toList_append, String.toList_append, trim_append]
  · exact fun c hc ↦ h c (List.mem_append_left _ hc)
  · exact fun c hc ↦ h c (List.mem_append_right _ hc)

theorem ofName?_congr {name' : String}
    (h : name.toList.map Char.toLower = name'.toList.map Char.toLower) :
    ofName? name = ofName? name' := by
  rw [ofName?, ofName?, ← trim_map_toLower, h, trim_map_toLower]

theorem ofName?_of_stacked (hp : p ∈ beginnings) (hq : q ∈ beginnings)
    (h : p ++ q <+: (trim name.toList).map Char.toLower) : ofName? name = none := by
  have hsix : ∀ d ∈ chips, d.digits.head? = some '6' := by decide
  have hstripped (rest : List Char) : chipDigits (p ++ q ++ rest) = q ++ rest := by
    simp only [beginnings, List.mem_cons, List.not_mem_nil, or_false] at hp
    rcases hp with rfl | rfl <;> rfl
  obtain ⟨rest, hrest⟩ := h
  refine Option.eq_none_iff_forall_ne_some.2 fun d hd ↦ ?_
  obtain ⟨hchip, hletters⟩ := ofName?_eq_some_iff.1 hd
  rw [← hrest, ← chipDigits_eq_iff hchip, hstripped] at hletters
  have hhead := hsix d hchip
  rw [← hletters] at hhead
  simp only [beginnings, List.mem_cons, List.not_mem_nil, or_false] at hq
  rcases hq with rfl | rfl <;> simp at hhead

theorem ofName?_of_inner_blank {c : Char} (hc : c ∈ trim name.toList) (hb : isBlank c = true) :
    ofName? name = none := by
  have hall : ∀ d ∈ chips, ∀ letters ∈ d.spellings, (letters.any isBlank) = false := by decide
  refine Option.eq_none_iff_forall_ne_some.2 fun d hd ↦ ?_
  obtain ⟨hchip, hletters⟩ := ofName?_eq_some_iff.1 hd
  have hnot := List.any_eq_false.1 (hall d hchip _ hletters) c.toLower (List.mem_map_of_mem hc)
  rw [isBlank_toLower] at hnot
  exact hnot hb

/-- A chip is found by its digits, alone or after one of two beginnings, in letters of either case
and with blanks around. Nothing else that a text may hold is taken for a chip's name. -/
theorem ofName?_accepts :
    (∀ name d, ofName? name = some d ↔ d ∈ chips ∧
      ∃ core, Trimmed name.toList core ∧ core.map Char.toLower ∈ d.spellings) ∧
    (∀ before name after : String, (∀ c ∈ before.toList ++ after.toList, isBlank c = true) →
      ofName? (before ++ name ++ after) = ofName? name) ∧
    (∀ name name' : String, name.toList.map Char.toLower = name'.toList.map Char.toLower →
      ofName? name = ofName? name') ∧
    (∀ p ∈ beginnings, ∀ q ∈ beginnings, ∀ name core, Trimmed name.toList core →
      p ++ q <+: core.map Char.toLower → ofName? name = none) ∧
    (∀ name core, Trimmed name.toList core → ∀ c ∈ core, isBlank c = true →
      ofName? name = none) ∧
    ∀ d ∈ chips, ofName? d.name = some d := by
  refine ⟨fun name d ↦ ?_, fun before name after h ↦ ofName?_append h name,
    fun name name' h ↦ ofName?_congr h, ?_, ?_, by decide⟩
  · simp only [ofName?_eq_some_iff, trimmed_iff, exists_eq_left]
  · intro p hp q hq name core hcore h
    rw [hcore.eq_trim] at h
    exact ofName?_of_stacked hp hq h
  · intro name core hcore c hc hb
    rw [hcore.eq_trim] at hc
    exact ofName?_of_inner_blank hc hb

example : ofName? "\tfD650\u3000" = some a650 ∧ ofName? "afd650" = none := by decide

end Device

end TexelFormats
