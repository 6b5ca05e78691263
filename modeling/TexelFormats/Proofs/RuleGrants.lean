import Mathlib.Data.Nat.Find
import TexelFormats.Proofs.OfferedFeatures

namespace TexelFormats

inductive Part where
  | linear | optimal | buffer

def Features.part (f : Features) : Part → FeatureSet
  | .linear => f.linear
  | .optimal => f.optimal
  | .buffer => f.buffer

/-- A rule with all that it can ever add to each of the sets. -/
structure Grant where
  rule : Rule
  adds : Part → List Feature
  copies : Bool := false

namespace Grant

def sampling : List Feature := [.transferSrc, .transferDst, .sampledImage,
  .sampledImageFilterMinmax, .cositedChromaSamples, .midpointChromaSamples, .blitSrc,
  .sampledImageYcbcrConversionLinearFilter, .sampledImageFilterLinear, .sampledImageFilterCubic]

def drawing : List Feature := [.colorAttachment, .blitDst, .storageImage,
  .storageReadWithoutFormat, .storageWriteWithoutFormat, .storageImageAtomic,
  .colorAttachmentBlend]

def nothing (rule : Rule) : Grant where
  rule := rule
  adds _ := []

def all : List Grant := [
  ⟨.powerOfTwoTransfer, fun | .buffer => [.transferSrc, .transferDst] | _ => [], false⟩,
  ⟨.vertexBuffer, fun | .buffer => [.vertexBuffer] | _ => [], false⟩,
  ⟨.uniformTexelBuffer, fun | .buffer => [.uniformTexelBuffer] | _ => [], false⟩,
  ⟨.sampledImage, fun | .optimal => sampling | _ => [], false⟩,
  ⟨.colorAttachment, fun
    | .linear => []
    | .optimal => drawing
    | .buffer => [.storageTexelBuffer, .storageReadWithoutFormat, .storageWriteWithoutFormat,
        .storageTexelBufferAtomic], false⟩,
  ⟨.depthAttachment, fun
    | .linear => sampling ++ drawing
    | .optimal => [.depthStencilAttachment]
    | .buffer => [], true⟩,
  nothing .untileable, nothing .sharedColorNoBuffer, nothing .packed16Bit,
  ⟨.depthComparison, fun
    | .linear | .optimal => [.sampledImageDepthComparison]
    | .buffer => [], false⟩,
  nothing .depthStencilNoBuffer, nothing .splitStencilNoLinear]

theorem map_rule_all : all.map rule = Rule.all := rfl

theorem pairwise_adds (p : Part) :
    all.Pairwise fun g h ↦ ∀ x ∈ h.adds p, x ∉ g.adds p := by
  cases p <;> decide

theorem pairwise_copies :
    all.Pairwise fun g h ↦ h.copies = true → ∀ x ∈ g.adds .optimal, x ∈ h.adds .linear := by
  decide

theorem pairwise_adds_linear (p : Part) :
    all.Pairwise fun g h ↦ h.copies = false → ∀ x ∈ h.adds .linear, x ∉ g.adds p := by
  cases p <;> decide

theorem copies_of_late {g : Grant} (hg : g ∈ all.drop (Rule.early.length + 1)) :
    g.copies = false := by
  have hall : ∀ g ∈ all.drop (Rule.early.length + 1), g.copies = false := by decide
  exact hall g hg

variable {k : Facts} {f : Features} {p : Part} {x : Feature} {g h : Grant} {i j : Nat}

theorem mem_part_ite {c : Prop} [Decidable c] {f' : Features}
    (hsub : ∀ p, x ∈ f'.part p → x ∈ f.part p) (hx : x ∈ (if c then f' else f).part p) :
    x ∈ f.part p := by
  split at hx
  · exact hsub p hx
  · exact hx

theorem mem_of_mem_union_granted {c : Bool} {s t : FeatureSet} {xs : List Feature}
    (ht : ∀ y, y ∈ t → y ∈ xs) (hx : x ∈ s ∪ Rule.granted c t) : x ∈ s ∨ x ∈ xs := by
  rw [FlagSet.mem_union, Rule.mem_granted] at hx
  exact hx.imp_right fun h ↦ ht x h.2

theorem mem_of_mem_apply (hg : g ∈ all) (hx : x ∈ (g.rule.apply k f).part p) :
    x ∈ f.part p ∨ x ∈ g.adds p ∨ g.copies = true ∧ p = .linear ∧ x ∈ f.optimal := by
  simp only [all, List.mem_cons, List.not_mem_nil, or_false] at hg
  rcases hg with rfl | rfl | rfl | rfl | rfl | rfl | rfl | rfl | rfl | rfl | rfl | rfl
  · cases p with
    | buffer => exact (mem_of_mem_union_granted (by simp) hx).imp_right .inl
    | _ => exact .inl hx
  · cases p with
    | buffer => exact (mem_of_mem_union_granted (by simp) hx).imp_right .inl
    | _ => exact .inl hx
  · cases p with
    | buffer => exact (mem_of_mem_union_granted (by simp) hx).imp_right .inl
    | _ => exact .inl hx
  · cases p with
    | optimal =>
      simp [Features.part, Rule.sampledImage, Rule.mem_granted, sampling] at hx ⊢
      grind
    | _ => exact .inl hx
  · cases p with
    | linear => exact .inl hx
    | _ =>
      simp [Features.part, Rule.colorAttachment, Rule.mem_granted, drawing] at hx ⊢
      grind
  · cases p with
    | linear => exact .inr (.inr ⟨rfl, rfl, hx⟩)
    | optimal => exact (mem_of_mem_union_granted (by simp) hx).imp_right .inl
    | buffer => exact .inl hx
  · exact .inl (mem_part_ite (fun p ↦ by cases p <;> simp [Features.part]) hx)
  · exact .inl (mem_part_ite (fun p ↦ by cases p <;> simp [Features.part]) hx)
  · exact .inl (mem_part_ite (fun p ↦ by cases p <;> simp [Features.part] <;> grind) hx)
  · cases p with
    | buffer => exact .inl hx
    | _ => exact (mem_of_mem_union_granted (by simp) hx).imp_right .inl
  · exact .inl (mem_part_ite (fun p ↦ by cases p <;> simp [Features.part]) hx)
  · exact .inl (mem_part_ite (fun p ↦ by cases p <;> simp [Features.part]) hx)

section Order

variable {p : Part} {x : Feature} {g h : Grant} {i l : Nat}

theorem rel_of_mem_take {R : Grant → Grant → Prop} (hR : all.Pairwise R)
    (hg : g ∈ all.take i) (hh : all[l]? = some h) (hil : i ≤ l) : R g h := by
  rw [← List.take_append_drop i all, List.pairwise_append] at hR
  refine hR.2.2 g hg h (List.mem_of_getElem? (i := l - i) ?_)
  rw [List.getElem?_drop, Nat.add_sub_cancel' hil, hh]

theorem not_added_again (hg : g ∈ all.take l) (hh : all[l]? = some h) (hx : x ∈ g.adds p) :
    x ∉ h.adds p :=
  fun hagain ↦ rel_of_mem_take (pairwise_adds p) hg hh le_rfl x hagain hx

theorem copied_of_lt (hg : g ∈ all.take l) (hh : all[l]? = some h) (hcopies : h.copies = true)
    (hx : x ∈ g.adds .optimal) : x ∈ h.adds .linear :=
  rel_of_mem_take pairwise_copies hg hh le_rfl hcopies x hx

theorem not_added_to_linear (hg : g ∈ all.take l) (hh : all[l]? = some h)
    (hlate : Rule.early.length < l) (hx : x ∈ g.adds p) : x ∉ h.adds .linear := by
  have hcopies : h.copies = false :=
    copies_of_late (List.mem_of_getElem? (i := l - (Rule.early.length + 1)) (by
      rw [List.getElem?_drop, Nat.add_sub_cancel' hlate, hh]))
  exact fun hagain ↦ rel_of_mem_take (pairwise_adds_linear p) hg hh le_rfl hcopies x hagain hx

end Order

end Grant

namespace Facts

variable {k : Facts} {p : Part} {x : Feature} {g h : Grant} {i j l : Nat}

def after (k : Facts) (i : Nat) : Features := k.run (Rule.all.take i) ∅

theorem after_zero (k : Facts) : k.after 0 = ∅ := rfl

theorem after_length (k : Facts) : k.after Rule.all.length = k.features := by
  rw [after, List.take_length]
  rfl

theorem getElem?_history (k : Facts) (rules : List Rule) (f : Features) (i : Nat) :
    (k.history rules f)[i]? = rules[i]?.map fun r ↦ (r, k.run (rules.take (i + 1)) f) := by
  induction rules generalizing f i with
  | nil => rfl
  | cons r rules ih =>
    cases i with
    | zero => rfl
    | succ i => exact ih (r.apply k f) i

theorem owned_after (k : Facts) (i : Nat) : (k.after i).Owned :=
  owned_run (fun _ hr ↦ List.mem_of_mem_take hr) Features.owned_empty

theorem after_succ_of_getElem? (hg : Grant.all[i]? = some g) :
    k.after (i + 1) = g.rule.apply k (k.after i) := by
  have hr : Rule.all[i]? = some g.rule := by
    rw [← Grant.map_rule_all, List.getElem?_map, hg]
    rfl
  rw [after, List.take_add_one, hr, run, List.foldl_append]
  rfl

theorem after_succ_of_le (hi : Grant.all.length ≤ i) : k.after (i + 1) = k.after i := by
  have hlen : Rule.all.length ≤ i := hi
  rw [after, after, List.take_of_length_le hlen, List.take_of_length_le (Nat.le_succ_of_le hlen)]

theorem mem_or_adds_or_copies (hx : x ∈ (k.after (i + 1)).part p) :
    x ∈ (k.after i).part p ∨ ∃ h, Grant.all[i]? = some h ∧
      (x ∈ h.adds p ∨ h.copies = true ∧ p = .linear ∧ x ∈ (k.after i).optimal) := by
  cases hh : Grant.all[i]? with
  | none =>
    rw [after_succ_of_le (List.getElem?_eq_none_iff.1 hh)] at hx
    exact .inl hx
  | some h =>
    rw [after_succ_of_getElem? hh] at hx
    exact (Grant.mem_of_mem_apply (List.mem_of_getElem? hh) hx).imp_right fun h ↦ ⟨_, rfl, h⟩

theorem exists_adds_of_mem (hx : x ∈ (k.after i).part p) :
    ∃ g ∈ Grant.all.take i, x ∈ g.adds p := by
  induction i generalizing p with
  | zero =>
    cases p <;> exact absurd hx FlagSet.not_mem_empty
  | succ i ih =>
    obtain hx | ⟨h, hh, hnew⟩ := mem_or_adds_or_copies hx
    · obtain ⟨g, hg, hadds⟩ := ih hx
      exact ⟨g, List.take_subset_take_left _ i.le_succ hg, hadds⟩
    · refine ⟨h, by simp [List.take_add_one, hh], ?_⟩
      obtain hadds | ⟨hcopies, rfl, hcopied⟩ := hnew
      · exact hadds
      · obtain ⟨g, hg, hadds⟩ := ih (p := .optimal) hcopied
        exact Grant.copied_of_lt hg hh hcopies hadds

theorem mem_after_succ (hx : x ∈ (k.after (i + 1)).part p) :
    x ∈ (k.after i).part p ∨ ∃ h, Grant.all[i]? = some h ∧ x ∈ h.adds p := by
  refine (mem_or_adds_or_copies hx).imp_right fun ⟨h, hh, hnew⟩ ↦ ⟨h, hh, ?_⟩
  obtain hadds | ⟨hcopies, rfl, hcopied⟩ := hnew
  · exact hadds
  · obtain ⟨g, hg, hadds⟩ := exists_adds_of_mem (p := .optimal) hcopied
    exact Grant.copied_of_lt hg hh hcopies hadds

theorem not_mem_of_not_added (habsent : x ∉ (k.after j).part p)
    (hadds : ∀ l h, j ≤ l → Grant.all[l]? = some h → x ∉ h.adds p) (hjl : j ≤ l) :
    x ∉ (k.after l).part p := by
  induction l, hjl using Nat.le_induction with
  | base => exact habsent
  | succ l hjl ih =>
    intro hback
    obtain hback | ⟨h, hh, hagain⟩ := mem_after_succ hback
    · exact ih hback
    · exact hadds l h hjl hh hagain

theorem not_mem_of_cleared (hx : x ∈ (k.after i).part p) (hij : i ≤ j)
    (hcleared : x ∉ (k.after j).part p) (hjl : j ≤ l) : x ∉ (k.after l).part p := by
  obtain ⟨g, hg, hadds⟩ := exists_adds_of_mem hx
  refine not_mem_of_not_added hcleared (fun l h hjl hh ↦ ?_) hjl
  have hg : g ∈ Grant.all.take l := List.take_subset_take_left _ (Nat.le_trans hij hjl) hg
  exact Grant.not_added_again hg hh hadds

theorem not_mem_linear_of_cleared (hx : x ∈ (k.after i).part p) (hij : i ≤ j)
    (hearly : Rule.early.length < j) (hcleared : x ∉ (k.after j).linear) (hjl : j ≤ l) :
    x ∉ (k.after l).linear := by
  obtain ⟨g, hg, hadds⟩ := exists_adds_of_mem hx
  refine not_mem_of_not_added (p := .linear) hcleared (fun l h hjl hh ↦ ?_) hjl
  have hg : g ∈ Grant.all.take l := List.take_subset_take_left _ (Nat.le_trans hij hjl) hg
  exact Grant.not_added_to_linear hg hh (Nat.lt_of_lt_of_le hearly hjl) hadds

theorem linear_after_snapshot (k : Facts) :
    (k.after (Rule.early.length + 1)).linear = (k.after Rule.early.length).optimal := rfl

/-- A feature is absent from a set, then it may be present, then it is absent again. -/
theorem exists_span (k : Facts) (p : Part) (x : Feature) :
    ∃ first last, ∀ i ≤ Rule.all.length, x ∈ (k.after i).part p ↔ first ≤ i ∧ i < last := by
  classical
  by_cases hpresent : ∃ i, x ∈ (k.after i).part p
  · let first := Nat.find hpresent
    have hfirst : x ∈ (k.after first).part p := Nat.find_spec hpresent
    by_cases hcleared : ∃ j, first ≤ j ∧ x ∉ (k.after j).part p
    · refine ⟨first, Nat.find hcleared, fun i _ ↦ ⟨fun hx ↦ ⟨Nat.find_min' hpresent hx, ?_⟩, ?_⟩⟩
      · obtain ⟨hle, habsent⟩ := Nat.find_spec hcleared
        exact lt_of_not_ge fun hi ↦ not_mem_of_cleared hfirst hle habsent hi hx
      · rintro ⟨hle, hlt⟩
        exact not_not.1 fun habsent ↦ Nat.find_min hcleared hlt ⟨hle, habsent⟩
    · push Not at hcleared
      exact ⟨first, Rule.all.length + 1, fun i hi ↦
        ⟨fun hx ↦ ⟨Nat.find_min' hpresent hx, Nat.lt_succ_of_le hi⟩, fun h ↦ hcleared i h.1⟩⟩
  · exact ⟨0, 0, fun i _ ↦ ⟨fun hx ↦ absurd ⟨i, hx⟩ hpresent, fun h ↦ absurd h.2 i.not_lt_zero⟩⟩

example : (Device.a630.facts? .packed422Gbgr).map (fun k ↦ [3, 4, 6, 7, 12].map fun i ↦
    decide (.sampledImage ∈ (k.after i).optimal)) = some [false, true, true, false, false] := by
  decide

/-- What a rule takes back is not granted again: along the rules each feature of each set is
absent, then present, then absent, and nothing that was cleared comes back into the linear set,
not even what was cleared from another one. -/
theorem cleared_stays_cleared (k : Facts) :
    (k.after 0 = ∅ ∧
      (∀ i, (k.history Rule.all ∅)[i]? = Rule.all[i]?.map fun r ↦ (r, k.after (i + 1))) ∧
      k.after Rule.all.length = k.features ∧ ∀ i, (k.after i).Owned) ∧
    (∀ p x i j l, i ≤ j → j ≤ l → x ∈ (k.after i).part p → x ∉ (k.after j).part p →
      x ∉ (k.after l).part p) ∧
    (∀ p x, ∃ first last, ∀ i ≤ Rule.all.length,
      x ∈ (k.after i).part p ↔ first ≤ i ∧ i < last) ∧
    (k.after (Rule.early.length + 1)).linear = (k.after Rule.early.length).optimal ∧
    ∀ p x i j l, i ≤ j → Rule.early.length < j → j ≤ l → x ∈ (k.after i).part p →
      x ∉ (k.after j).linear → x ∉ (k.after l).linear := by
  refine ⟨⟨k.after_zero, k.getElem?_history Rule.all ∅, k.after_length, k.owned_after⟩, ?_,
    k.exists_span, k.linear_after_snapshot, ?_⟩
  · intro p x i j l hij hjl hx hcleared
    exact not_mem_of_cleared hx hij hcleared hjl
  · intro p x i j l hij hearly hjl hx hcleared
    exact not_mem_linear_of_cleared hx hij hearly hcleared hjl

end Facts

end TexelFormats
