namespace TexelFormats

/-- Flags that each own one bit of a word, listed in the order in which they are written. -/
class Flag (ι : Type) (w : outParam Nat) where
  bit : ι → Fin w
  all : List ι
  find_bit : ∀ i, all.find? (fun j ↦ bit j = bit i) = some i

class NamedFlag (ι : Type) (w : outParam Nat) extends Flag ι w where
  name : ι → String

/-- Flags packed into a word. Some bits may have no flag, so sets with the same members need not be
equal. -/
@[ext]
structure FlagSet (ι : Type) (w : Nat) where
  word : BitVec w

instance neZero_wordSize : @NeZero Nat Zero.ofOfNat0 32 := ⟨by decide⟩

namespace Flag

variable {ι : Type} {w : Nat} [Flag ι w] {i j : ι}

theorem bit_injective (h : bit i = bit j) : i = j := by
  have hi := find_bit i
  rw [h, find_bit j] at hi
  exact (Option.some.inj hi).symm

@[simp]
theorem bit_inj : bit i = bit j ↔ i = j := ⟨bit_injective, fun h ↦ h ▸ rfl⟩

theorem mem_all (i : ι) : i ∈ all := List.mem_of_find?_eq_some (find_bit i)

end Flag

namespace FlagSet

variable {ι : Type} {w : Nat} {s t : FlagSet ι w}

instance : DecidableEq (FlagSet ι w) :=
  fun _ _ ↦ decidable_of_iff' _ FlagSet.ext_iff

instance : Inhabited (FlagSet ι w) := ⟨⟨0⟩⟩

instance : EmptyCollection (FlagSet ι w) := ⟨⟨0⟩⟩

instance : Union (FlagSet ι w) := ⟨fun s t ↦ ⟨s.word ||| t.word⟩⟩

instance : Inter (FlagSet ι w) := ⟨fun s t ↦ ⟨s.word &&& t.word⟩⟩

instance : SDiff (FlagSet ι w) := ⟨fun s t ↦ ⟨s.word &&& ~~~t.word⟩⟩

/-- Every bit of the first is a bit of the second, whether a flag owns it or not. -/
instance : HasSubset (FlagSet ι w) := ⟨fun s t ↦ s ∩ t = s⟩

instance : Decidable (s ⊆ t) := inferInstanceAs (Decidable (s ∩ t = s))

def Meets (s t : FlagSet ι w) : Prop := s ∩ t ≠ ∅

instance : Decidable (s.Meets t) := inferInstanceAs (Decidable (s ∩ t ≠ ∅))

variable [Flag ι w] {i j : ι}

instance : Membership ι (FlagSet ι w) := ⟨fun s i ↦ s.word.getLsbD (Flag.bit i) = true⟩

instance : Decidable (i ∈ s) := inferInstanceAs (Decidable (_ = true))

instance : Singleton ι (FlagSet ι w) := ⟨fun i ↦ ⟨BitVec.twoPow w (Flag.bit i)⟩⟩

instance : Insert ι (FlagSet ι w) := ⟨fun i s ↦ {i} ∪ s⟩

def ofList (is : List ι) : FlagSet ι w := is.foldr insert ∅

theorem mem_def : i ∈ s ↔ s.word.getLsbD (Flag.bit i) = true := Iff.rfl

@[simp]
theorem not_mem_empty : i ∉ (∅ : FlagSet ι w) := by
  change ¬ (0#w).getLsbD _ = true
  simp

@[simp]
theorem mem_union : i ∈ s ∪ t ↔ i ∈ s ∨ i ∈ t := by
  change (s.word ||| t.word).getLsbD _ = true ↔ _
  simp [mem_def]

@[simp]
theorem mem_inter : i ∈ s ∩ t ↔ i ∈ s ∧ i ∈ t := by
  change (s.word &&& t.word).getLsbD _ = true ↔ _
  simp [mem_def]

@[simp]
theorem mem_sdiff : i ∈ s \ t ↔ i ∈ s ∧ i ∉ t := by
  change (s.word &&& ~~~t.word).getLsbD _ = true ↔ _
  simp [mem_def]

@[simp]
theorem mem_singleton : i ∈ ({j} : FlagSet ι w) ↔ i = j := by
  change (BitVec.twoPow w _).getLsbD _ = true ↔ _
  simp [Fin.val_inj, eq_comm]

theorem insert_eq (j : ι) (s : FlagSet ι w) : insert j s = {j} ∪ s := rfl

@[simp]
theorem mem_insert : i ∈ (insert j s : FlagSet ι w) ↔ i = j ∨ i ∈ s := by
  simp [insert_eq]

@[simp]
theorem mem_ofList {is : List ι} : i ∈ (ofList is : FlagSet ι w) ↔ i ∈ is := by
  induction is with
  | nil => simp [ofList]
  | cons k is ih =>
    change i ∈ insert k (ofList is) ↔ _
    simp [ih]

theorem mem_of_subset (h : s ⊆ t) (hi : i ∈ s) : i ∈ t := by
  have h : s ∩ t = s := h
  rw [← h] at hi
  exact (mem_inter.1 hi).2

end FlagSet

namespace FlagSet

variable {ι : Type} {w : Nat} [NamedFlag ι w]

/-- The names of the members, then the bits that no flag owns as one binary number; nothing at all
for the empty set. -/
def text (s : FlagSet ι w) : String :=
  let known : List ι := Flag.all
  let unowned := s \ ofList known
  let names := (known.filter (· ∈ s)).map NamedFlag.name
  let digits := String.ofList (Nat.toDigits 2 unowned.word.toNat)
  " | ".intercalate (if unowned = ∅ then names else names ++ [digits])

end FlagSet

end TexelFormats
