import TexelFormats.Proofs.FlagSets
import TexelFormats.Proofs.Support
import TexelFormats.Response

namespace TexelFormats.HandleTypes

open Logged

variable {h k : HandleTypes} {t : ImageType} {c : ExternalMemory}

def Backs (h : HandleTypes) (t : ImageType) : Prop :=
  h ∈ [{.opaqueFd}, {.dmaBuf}] ∧ t = .twoD ∨ h = {.hostAllocation}

def forDedicated (h : HandleTypes) : ExternalMemory :=
  if .exportable ∈ h.forBuffer.features then
    { h.forBuffer with features := insert .dedicatedOnly h.forBuffer.features }
  else h.forBuffer

def ofBit (i : Fin 32) : HandleTypes := ⟨BitVec.twoPow 32 i⟩

theorem getLsbD_ofBit {i j : Fin 32} : (ofBit i).word.getLsbD j = true ↔ i = j := by
  simp [ofBit, Fin.val_inj, eq_comm]

theorem ofBit_subset_iff {i : Fin 32} : ofBit i ⊆ h ↔ h.word.getLsbD i = true := by
  constructor
  · intro hs
    have hs : ofBit i ∩ h = ofBit i := hs
    have hi : (ofBit i ∩ h).word.getLsbD i = true := by
      rw [hs]
      exact getLsbD_ofBit.2 rfl
    change ((ofBit i).word &&& h.word).getLsbD i = true at hi
    rw [BitVec.getLsbD_and, Bool.and_eq_true] at hi
    exact hi.2
  · intro hi
    refine FlagSet.ext (BitVec.eq_of_getLsbD_eq fun n hn ↦ ?_)
    change ((ofBit i).word &&& h.word).getLsbD n = _
    rw [BitVec.getLsbD_and]
    by_cases hin : (ofBit i).word.getLsbD n = true
    · obtain rfl : i = ⟨n, hn⟩ := getLsbD_ofBit.1 hin
      rw [hin, hi]
      rfl
    · rw [Bool.not_eq_true] at hin
      rw [hin, Bool.false_and]

theorem forImage_of_backs (hb : h.Backs t) : h.forImage t = pure h.forDedicated := by
  unfold forImage
  obtain ⟨hs, rfl⟩ | rfl := hb
  · simp only [List.mem_cons, List.not_mem_nil, or_false] at hs
    rw [if_pos hs, if_pos rfl]
    obtain rfl | rfl := hs <;> rfl
  · rfl

theorem forImage_of_not_backs (hb : ¬ h.Backs t) : h.forImage t =
    Device.refuse (.handleRefused (.handleNotSupported h t)) (.handleNotSupported h t) := by
  simp only [Backs, List.mem_cons, List.not_mem_nil, or_false, not_or, not_and] at hb
  unfold forImage
  by_cases hs : h = {.opaqueFd} ∨ h = {.dmaBuf}
  · rw [if_pos hs, if_neg (hb.1 hs)]
    rfl
  · rw [if_neg hs, if_neg hb.2]
    rfl

theorem result_forImage_eq_ok_iff :
    (h.forImage t).result = .ok c ↔ h.Backs t ∧ c = h.forDedicated := by
  by_cases hb : h.Backs t
  · rw [forImage_of_backs hb, result_pure]
    simp [hb, eq_comm]
  · rw [forImage_of_not_backs hb, Device.result_refuse]
    simp [hb]

theorem backs_twoD_iff : h.Backs .twoD ↔ h ∈ [{.opaqueFd}, {.dmaBuf}, {.hostAllocation}] := by
  simp [Backs, or_assoc]

theorem Backs.twoD (hb : h.Backs t) : h.Backs .twoD := hb.imp_left fun hs ↦ ⟨hs.1, rfl⟩

theorem forBuffer_eq_empty_iff : h.forBuffer = ∅ ↔ ¬ h.Backs .twoD := by
  rw [backs_twoD_iff]
  constructor
  · intro he hb
    simp only [List.mem_cons, List.not_mem_nil, or_false] at hb
    revert he
    obtain rfl | rfl | rfl := hb <;> decide
  · intro hb
    simp only [List.mem_cons, List.not_mem_nil, or_false, not_or] at hb
    rw [forBuffer, if_neg (not_or.2 ⟨hb.1, hb.2.1⟩), if_neg hb.2.2]

theorem Backs.of_compatible (hb : h.Backs t) {i : Fin 32}
    (hi : h.forBuffer.compatible.word.getLsbD i = true) :
    (ofBit i).Backs t ∧ (ofBit i).forBuffer = h.forBuffer := by
  obtain ⟨hs, ht⟩ | rfl := hb
  · have hbits : ∀ i : Fin 32, shareable.word.getLsbD i = true → i = 0 ∨ i = 9 := by decide
    have hshareable : h.forBuffer.compatible = shareable ∧
        h.forBuffer = forBuffer {.opaqueFd} := by
      simp only [List.mem_cons, List.not_mem_nil, or_false] at hs
      obtain rfl | rfl := hs <;> exact ⟨rfl, rfl⟩
    rw [hshareable.1] at hi
    rw [hshareable.2]
    obtain rfl | rfl := hbits i hi
    · exact ⟨.inl ⟨.head _, ht⟩, rfl⟩
    · exact ⟨.inl ⟨.tail _ (.head _), ht⟩, rfl⟩
  · have hbits : ∀ i : Fin 32,
        (forBuffer {.hostAllocation}).compatible.word.getLsbD i = true → i = 7 := by decide
    obtain rfl := hbits i hi
    exact ⟨.inr rfl, rfl⟩

theorem Backs.exists_ofBit (hb : h.Backs t) : ∃ i, h = ofBit i := by
  obtain ⟨hs, -⟩ | rfl := hb
  · simp only [List.mem_cons, List.not_mem_nil, or_false] at hs
    obtain rfl | rfl := hs
    · exact ⟨0, rfl⟩
    · exact ⟨9, rfl⟩
  · exact ⟨7, rfl⟩

theorem Backs.subset_compatible (hb : h.Backs t) : h ⊆ h.forBuffer.compatible := by
  have hb := backs_twoD_iff.1 hb.twoD
  simp only [List.mem_cons, List.not_mem_nil, or_false] at hb
  obtain rfl | rfl | rfl := hb <;> decide

theorem not_backs_of_bits (hh : h = ∅ ∨
    ∃ i j : Fin 32, i ≠ j ∧ h.word.getLsbD i = true ∧ h.word.getLsbD j = true) : ¬ h.Backs t := by
  intro hb
  obtain ⟨n, rfl⟩ := hb.exists_ofBit
  obtain he | ⟨i, j, hne, hi, hj⟩ := hh
  · have hn : (ofBit n).word.getLsbD n = true := getLsbD_ofBit.2 rfl
    rw [he] at hn
    change (0#32).getLsbD n = true at hn
    simp at hn
  · exact hne ((getLsbD_ofBit.1 hi).symm.trans (getLsbD_ofBit.1 hj))

/-- The answer for images fits with what is said of buffers, with itself, and with the answers for
the kinds of handle that it names. -/
structure Consistent (h : HandleTypes) (t : ImageType) (c : ExternalMemory) : Prop where
  compatible_eq : c.compatible = h.forBuffer.compatible
  exportFromImported_eq : c.exportFromImported = h.forBuffer.exportFromImported
  features_eq : c.features = if .exportable ∈ c.features
    then insert .dedicatedOnly h.forBuffer.features else h.forBuffer.features
  buffer_not_dedicated : .dedicatedOnly ∉ h.forBuffer.features
  subset_compatible : h ⊆ c.compatible
  closed : ∀ i : Fin 32, c.compatible.word.getLsbD i = true →
    ((ofBit i).forImage t).result = .ok c
  importable : .importable ∈ c.features
  export_subset : c.exportFromImported ⊆ c.compatible
  export_iff : c.exportFromImported ≠ ∅ ↔ .exportable ∈ c.features

theorem consistent (hc : (h.forImage t).result = .ok c) : h.Consistent t c := by
  obtain ⟨hb, rfl⟩ := result_forImage_eq_ok_iff.1 hc
  have hcompatible : h.forDedicated.compatible = h.forBuffer.compatible := by
    unfold forDedicated
    split <;> rfl
  have hkinds := backs_twoD_iff.1 hb.twoD
  simp only [List.mem_cons, List.not_mem_nil, or_false] at hkinds
  refine ⟨hcompatible, ?_, ?_, ?_, hcompatible ▸ hb.subset_compatible, fun i hi ↦ ?_, ?_, ?_, ?_⟩
  rotate_left 3
  · rw [hcompatible] at hi
    obtain ⟨hbit, hanswer⟩ := hb.of_compatible hi
    refine result_forImage_eq_ok_iff.2 ⟨hbit, ?_⟩
    rw [forDedicated, forDedicated, hanswer]
  all_goals obtain rfl | rfl | rfl := hkinds <;> decide

def Compatible (t : ImageType) (h k : HandleTypes) : Prop :=
  ∃ c, (h.forImage t).result = .ok c ∧ k ⊆ c.compatible

theorem compatible_iff {c' : ExternalMemory} (hc : (h.forImage t).result = .ok c)
    (hk : (k.forImage t).result = .ok c') : Compatible t h k ↔ c = c' := by
  obtain ⟨hb, -⟩ := result_forImage_eq_ok_iff.1 hk
  constructor
  · rintro ⟨a, ha, hsubset⟩
    obtain rfl : c = a := Except.ok.inj (hc.symm.trans ha)
    obtain ⟨i, rfl⟩ := hb.exists_ofBit
    have hanswer := (consistent hc).closed i (ofBit_subset_iff.1 hsubset)
    exact Except.ok.inj (hanswer.symm.trans hk)
  · rintro rfl
    exact ⟨c, hc, (consistent hk).subset_compatible⟩

theorem equivalence_compatible (t : ImageType) : Equivalence
    fun a b : { h : HandleTypes // ∃ c, (h.forImage t).result = .ok c } ↦ Compatible t a b := by
  constructor
  · rintro ⟨a, c, ha⟩
    exact (compatible_iff ha ha).2 rfl
  · rintro ⟨a, c, ha⟩ ⟨b, c', hb⟩ hab
    exact (compatible_iff hb ha).2 ((compatible_iff ha hb).1 hab).symm
  · rintro ⟨a, c, ha⟩ ⟨b, c', hb⟩ ⟨e, c'', he⟩ hab hbe
    have hac := ((compatible_iff ha hb).1 hab).trans ((compatible_iff hb he).1 hbe)
    exact (compatible_iff ha he).2 hac

/-- What is said of memory behind handles is the same whether it is asked for images or for buffers,
but that images that can be passed on need memory of their own. The kinds of handle that go together
are classes, and a mask that is not of one kind is in none of them. -/
theorem forImage_consistent (h : HandleTypes) (t : ImageType) :
    (h.forBuffer ≠ ∅ ↔ ∃ c, (h.forImage .twoD).result = .ok c) ∧
    (∀ c, (h.forImage t).result = .ok c → h.Consistent t c) ∧
    Equivalence (fun a b : { h : HandleTypes // ∃ c, (h.forImage t).result = .ok c } ↦
      Compatible t a b) ∧
    (h = ∅ ∨ (∃ i j : Fin 32, i ≠ j ∧ h.word.getLsbD i = true ∧ h.word.getLsbD j = true) →
      (h.forImage t).result = .error (.refused (.handleNotSupported h t)) ∧ h.forBuffer = ∅) := by
  refine ⟨?_, fun c hc ↦ consistent hc, equivalence_compatible t, fun hh ↦ ?_⟩
  · rw [ne_eq, forBuffer_eq_empty_iff, Classical.not_not]
    simp [result_forImage_eq_ok_iff]
  · refine ⟨?_, forBuffer_eq_empty_iff.2 (not_backs_of_bits hh)⟩
    rw [forImage_of_not_backs (not_backs_of_bits hh), Device.result_refuse]

theorem forImage_consistent_of_dmaBuf :
    Consistent {.dmaBuf} .twoD (forDedicated {.dmaBuf}) ∧
    (forImage {.opaqueFd, .dmaBuf} .twoD).result =
      .error (.refused (.handleNotSupported {.opaqueFd, .dmaBuf} .twoD)) := by
  obtain ⟨-, hconsistent, -, -⟩ := forImage_consistent {.dmaBuf} .twoD
  obtain ⟨-, -, -, hrefused⟩ := forImage_consistent {.opaqueFd, .dmaBuf} .twoD
  refine ⟨hconsistent _ rfl, (hrefused (.inr ⟨0, 9, ?_⟩)).1⟩
  decide

end TexelFormats.HandleTypes
