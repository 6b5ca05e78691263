import TexelFormats.Flags

namespace TexelFormats.FlagSet

variable {ι : Type} {w : Nat} {s t : FlagSet ι w}

theorem not_empty_meets (t : FlagSet ι w) : ¬ (∅ : FlagSet ι w).Meets t :=
  fun h ↦ h (FlagSet.ext BitVec.zero_and)

theorem eq_empty_of_subset (h : s ⊆ ∅) : s = ∅ := by
  have h : s ∩ ∅ = s := h
  exact h.symm.trans (FlagSet.ext BitVec.and_zero)

theorem inter_comm (s t : FlagSet ι w) : s ∩ t = t ∩ s := FlagSet.ext (BitVec.and_comm _ _)

variable [Flag ι w] {i : ι}

/-- No bit is set that no flag owns, so that the members say all there is to say. -/
def Owned (s : FlagSet ι w) : Prop :=
  ∀ n, s.word.getLsbD n = true → ∃ i : ι, (Flag.bit i : Nat) = n

theorem ext_of_owned (hs : s.Owned) (ht : t.Owned) (h : ∀ i, i ∈ s ↔ i ∈ t) : s = t := by
  ext n hn
  rw [← BitVec.getLsbD_eq_getElem, ← BitVec.getLsbD_eq_getElem, Bool.eq_iff_iff]
  constructor
  · intro hb
    obtain ⟨i, rfl⟩ := hs n hb
    exact (h i).1 hb
  · intro hb
    obtain ⟨i, rfl⟩ := ht n hb
    exact (h i).2 hb

theorem Owned.inter (hs : s.Owned) (t : FlagSet ι w) : (s ∩ t).Owned := by
  intro n hn
  change (s.word &&& t.word).getLsbD n = true at hn
  rw [BitVec.getLsbD_and, Bool.and_eq_true] at hn
  exact hs n hn.1

theorem subset_of_owned (hs : s.Owned) (h : ∀ i, i ∈ s → i ∈ t) : s ⊆ t :=
  ext_of_owned (hs.inter t) hs fun i ↦ mem_inter.trans (and_iff_left_of_imp (h i))

@[simp]
theorem owned_empty : (∅ : FlagSet ι w).Owned := by
  intro n hn
  change (0#w).getLsbD n = true at hn
  simp at hn

theorem exists_mem_of_owned (hs : s.Owned) (hne : s ≠ ∅) : ∃ i, i ∈ s := by
  refine Classical.byContradiction fun hn ↦ hne (ext_of_owned hs owned_empty fun i ↦ ?_)
  exact iff_of_false (fun hi ↦ hn ⟨i, hi⟩) not_mem_empty

@[simp]
theorem owned_singleton (i : ι) : ({i} : FlagSet ι w).Owned := by
  intro n hn
  change (BitVec.twoPow w (Flag.bit i)).getLsbD n = true at hn
  rw [BitVec.getLsbD_twoPow, Bool.and_eq_true, decide_eq_true_iff] at hn
  exact ⟨i, by simpa using hn.2⟩

@[simp]
theorem owned_union : (s ∪ t).Owned ↔ s.Owned ∧ t.Owned := by
  have hbit (n : Nat) : (s ∪ t).word.getLsbD n = true ↔
      s.word.getLsbD n = true ∨ t.word.getLsbD n = true := by
    rw [← Bool.or_eq_true, ← BitVec.getLsbD_or]
    rfl
  simp only [Owned, hbit]
  exact ⟨fun h ↦ ⟨fun n hn ↦ h n (.inl hn), fun n hn ↦ h n (.inr hn)⟩,
    fun h n hn ↦ hn.elim (h.1 n) (h.2 n)⟩

@[simp]
theorem owned_insert : (insert i s : FlagSet ι w).Owned ↔ s.Owned := by
  simp [insert_eq]

theorem Owned.sdiff (hs : s.Owned) (t : FlagSet ι w) : (s \ t).Owned := by
  intro n hn
  change (s.word &&& ~~~t.word).getLsbD n = true at hn
  rw [BitVec.getLsbD_and, Bool.and_eq_true] at hn
  exact hs n hn.1

theorem owned_ofList (is : List ι) : (ofList is : FlagSet ι w).Owned := by
  induction is with
  | nil => exact owned_empty
  | cons i is ih => exact owned_insert.2 ih

theorem meets_iff_of_owned (ht : t.Owned) : s.Meets t ↔ ∃ i, i ∈ s ∧ i ∈ t := by
  constructor
  · intro h
    refine Classical.byContradiction fun hn ↦ h ?_
    rw [inter_comm]
    refine ext_of_owned (ht.inter s) owned_empty fun i ↦ ?_
    rw [mem_inter, and_comm]
    exact iff_of_false (fun hi ↦ hn ⟨i, hi⟩) not_mem_empty
  · rintro ⟨i, hs, ht⟩ h
    have hi : i ∈ s ∩ t := mem_inter.2 ⟨hs, ht⟩
    rw [h] at hi
    exact not_mem_empty hi

def ofPred (p : ι → Bool) : FlagSet ι w := ofList (Flag.all.filter p)

@[simp]
theorem mem_ofPred {p : ι → Bool} : i ∈ (ofPred p : FlagSet ι w) ↔ p i = true := by
  simp [ofPred, Flag.mem_all]

theorem owned_ofPred (p : ι → Bool) : (ofPred p : FlagSet ι w).Owned := owned_ofList _

end TexelFormats.FlagSet
