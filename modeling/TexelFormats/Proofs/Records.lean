import Mathlib.Data.List.Nodup
import TexelFormats.Record

namespace TexelFormats

namespace Members

variable {ν μ : Type} {ms ms' : Members ν} {keys : List String} {key : String}

def given (ms : Members ν) (key : String) : List ν :=
  (ms.filter fun m ↦ m.1 = key).map Prod.snd

theorem given_cons (m : String × ν) (ms : Members ν) (key : String) :
    given (m :: ms) key = if m.1 = key then m.2 :: given ms key else given ms key := by
  by_cases h : m.1 = key
  · simp [given, h]
  · simp [given, h]

theorem given_map {ε : Type} (key : ε → String) (f : ε → ν) (es : List ε) (k : String) :
    given (es.map fun e ↦ (key e, f e)) k = (es.filter fun e ↦ key e = k).map f := by
  rw [given, List.filter_map, List.map_map]
  rfl

theorem given_map_snd (f : ν → μ) (ms : Members ν) (key : String) :
    given (ms.map fun m ↦ (m.1, f m.2)) key = (ms.given key).map f := by
  rw [given_map Prod.fst fun m ↦ f m.2, given, List.map_map]
  rfl

theorem given_zip_of_not_mem {vs : List ν} (h : key ∉ keys) :
    given (keys.zip vs) key = [] := by
  rw [given, List.map_eq_nil_iff, List.filter_eq_nil_iff]
  intro m hm
  have hne : m.1 ≠ key := fun hkey ↦ h (hkey ▸ (List.of_mem_zip hm).1)
  simpa using hne

theorem perm_given (h : (ms.filter (·.1 ∈ keys)).Perm (ms'.filter (·.1 ∈ keys)))
    (hkey : key ∈ keys) : (ms.given key).Perm (ms'.given key) := by
  -- what is given under a known key is among the members with known keys
  have hfilter : ∀ ms : Members ν, ms.given key = given (ms.filter (·.1 ∈ keys)) key := by
    intro ms
    rw [given, given, List.filter_filter]
    congr 2
    funext m
    by_cases hm : m.1 = key
    · simp [hm, hkey]
    · simp [hm]
  rw [hfilter ms, hfilter ms']
  exact (h.filter _).map _

end Members

section

variable {κ σ ν : Type} {fields : List (Field κ σ)} {f : Field κ σ} {key : String}

theorem mapM_cons_eq {α β : Type} (g : α → Option β) (a : α) (as : List α) :
    (a :: as).mapM g = (g a).bind fun b ↦ (as.mapM g).map (b :: ·) := by
  rw [List.mapM_cons]
  cases g a with
  | none => rfl
  | some b => cases as.mapM g <;> rfl

theorem mapM_congr {α β : Type} {as : List α} {g h : α → Option β} (hgh : ∀ a ∈ as, g a = h a) :
    as.mapM g = as.mapM h := by
  induction as with
  | nil => rfl
  | cons a as ih =>
    rw [mapM_cons_eq, mapM_cons_eq, hgh a (.head _), ih fun b hb ↦ hgh b (.tail _ hb)]

theorem mapM_eq_none {α β : Type} {as : List α} {a : α} {g : α → Option β} (ha : a ∈ as)
    (hg : g a = none) : as.mapM g = none := by
  induction ha with
  | head as => rw [mapM_cons_eq, hg, Option.bind_none]
  | tail b _ ih =>
    rw [mapM_cons_eq, ih]
    cases g b <;> rfl

theorem mapM_eq_some_iff {α β : Type} {as : List α} {bs : List β} {g : α → Option β} :
    as.mapM g = some bs ↔ as.map g = bs.map some := by
  induction as generalizing bs with
  | nil => cases bs <;> simp
  | cons a as ih =>
    rw [mapM_cons_eq]
    cases bs with
    | nil => cases g a <;> cases as.mapM g <;> simp
    | cons b bs => simp [Option.bind_eq_some_iff, ih]

theorem mem_of_fieldFor? (h : fieldFor? fields key = some f) : f ∈ fields ∧ f.key = key := by
  have hkey := List.find?_some h
  exact ⟨List.mem_of_find?_eq_some h, by simpa using hkey⟩

theorem ne_of_fieldFor?_eq_none (h : fieldFor? fields key = none) (hf : f ∈ fields) :
    key ≠ f.key := by
  have hne := List.find?_eq_none.1 h f hf
  exact Ne.symm (by simpa using hne)

/-- The value of a field that had been found, or not, before the values that are still given. -/
def Field.settle? (f : Field κ σ) (read : κ → ν → Option σ) : Option σ → List ν → Option σ
  | some a, [] => some a
  | none, [] => f.default?
  | none, [v] => read f.kind v
  | _, _ => none

theorem Field.settle?_cons {read : κ → ν → Option σ} (f : Field κ σ) (v : ν) (vs : List ν) :
    f.settle? read none (v :: vs) =
      (read f.kind v).bind fun a ↦ f.settle? read (some a) vs := by
  cases vs with
  | nil =>
    rw [settle?]
    cases read f.kind v <;> rfl
  | cons w vs => cases read f.kind v <;> rfl

theorem Field.settle?_none_eq_some_iff {read : κ → ν → Option σ} {vs : List ν} {a : σ} :
    f.settle? read none vs = some a ↔
      vs = [] ∧ f.default? = some a ∨ ∃ v, vs = [v] ∧ read f.kind v = some a := by
  match vs with
  | [] => simp [settle?]
  | [v] => simp [settle?]
  | v :: w :: vs => simp [settle?]

theorem Field.settle?_perm {read : κ → ν → Option σ} {vs vs' : List ν} (h : vs.Perm vs') :
    f.settle? read none vs = f.settle? read none vs' := by
  match vs, vs', h.length_eq with
  | [], vs', _ => rw [h.symm.eq_nil]
  | [v], vs', _ => rw [List.perm_singleton.1 h.symm]
  | _ :: _ :: _, _ :: _ :: _, _ => rfl

theorem Field.settle?_map_congr {ε μ : Type} {read : κ → ν → Option σ} {read' : κ → μ → Option σ}
    {g : ε → ν} {g' : ε → μ} {es : List ε}
    (h : ∀ e ∈ es, read f.kind (g e) = read' f.kind (g' e)) :
    f.settle? read none (es.map g) = f.settle? read' none (es.map g') := by
  match es with
  | [] => rfl
  | [e] => exact h e (.head _)
  | _ :: _ :: _ => rfl

end

namespace Visitor

/-- What the documentation of derived code says, for a record with any fields. Of members: one with
an unknown key is ignored, one whose key has been met before is an error, any other is read as its
field's kind, and a field that has not been met at the end takes its default or is an error. Of
items: each field takes the next one, or its default where there is none left, and it is an error if
any are left over. -/
structure Derived (V : Visitor) : Prop where
  unknown {κ σ ν : Type} {read : κ → ν → Option σ} {fields : List (Field κ σ)}
    {found : String → Option σ} {key : String} (v : ν) (ms : Members ν) :
    fieldFor? fields key = none →
      V.members read fields found ((key, v) :: ms) = V.members read fields found ms
  repeated {κ σ ν : Type} {read : κ → ν → Option σ} {fields : List (Field κ σ)}
    {found : String → Option σ} {key : String} {f : Field κ σ} (v : ν) (ms : Members ν) :
    fieldFor? fields key = some f → (found key).isSome = true →
      V.members read fields found ((key, v) :: ms) = none
  known {κ σ ν : Type} {read : κ → ν → Option σ} {fields : List (Field κ σ)}
    {found : String → Option σ} {key : String} {f : Field κ σ} (v : ν) (ms : Members ν) :
    fieldFor? fields key = some f → found key = none →
      V.members read fields found ((key, v) :: ms) =
        (read f.kind v).bind fun a ↦ V.members read fields (note found key a) ms
  finish {κ σ ν : Type} (read : κ → ν → Option σ) (fields : List (Field κ σ))
    (found : String → Option σ) :
    V.members read fields found [] = fields.mapM fun f ↦ (found f.key).or f.default?
  item {κ σ ν : Type} (read : κ → ν → Option σ) (f : Field κ σ) (fields : List (Field κ σ))
    (v : ν) (vs : List ν) :
    V.items read (f :: fields) (v :: vs) =
      (read f.kind v).bind fun a ↦ (V.items read fields vs).map (a :: ·)
  noItem {κ σ ν : Type} (read : κ → ν → Option σ) (f : Field κ σ) (fields : List (Field κ σ)) :
    V.items read (f :: fields) [] =
      f.default?.bind fun a ↦ (V.items read fields []).map (a :: ·)
  noField {κ σ ν : Type} (read : κ → ν → Option σ) : V.items read [] [] = some []
  leftOver {κ σ ν : Type} (read : κ → ν → Option σ) (v : ν) (vs : List ν) :
    V.items read [] (v :: vs) = none

theorem derived_standard : standard.Derived where
  unknown v ms h := by
    change gather .. = gather ..
    rw [gather, h]
  repeated v ms h hfound := by
    change gather .. = none
    rw [gather, h]
    exact if_pos hfound
  known v ms h hfound := by
    change gather .. = (_ : Option _).bind fun a ↦ gather ..
    rw [gather, h]
    exact if_neg (by simp [hfound])
  finish read fields found := by
    change gather .. = _
    rw [gather]
  item read f fields v vs := by
    change lineUp .. = (read f.kind v).bind fun a ↦ (lineUp ..).map _
    rw [lineUp]
    cases read f.kind v with
    | none => rfl
    | some a => cases lineUp read fields vs <;> rfl
  noItem read f fields := by
    change lineUp .. = f.default?.bind fun a ↦ (lineUp ..).map _
    rw [lineUp]
    cases f.default? with
    | none => rfl
    | some a => cases lineUp read fields [] <;> rfl
  noField read := rfl
  leftOver read v vs := rfl

variable {κ σ ν : Type} {V : Visitor} {read : κ → ν → Option σ} {fields : List (Field κ σ)}

/-- Wherever the visit of the members has come to, each field is settled by what has been found for
it and what is still given. -/
theorem Derived.members_eq (hV : V.Derived) (hkeys : (fields.map Field.key).Nodup)
    (found : String → Option σ) (ms : Members ν) : V.members read fields found ms =
      fields.mapM fun f ↦ f.settle? read (found f.key) (ms.given f.key) := by
  induction ms generalizing found with
  | nil =>
    rw [hV.finish]
    refine mapM_congr fun f _ ↦ ?_
    cases found f.key <;> rfl
  | cons m ms ih =>
    obtain ⟨key, v⟩ := m
    cases hfield : fieldFor? fields key with
    | none =>
      rw [hV.unknown v ms hfield, ih]
      refine mapM_congr fun f hf ↦ ?_
      rw [Members.given_cons, if_neg (ne_of_fieldFor?_eq_none hfield hf)]
    | some f =>
      obtain ⟨hf, rfl⟩ := mem_of_fieldFor? hfield
      cases hfound : found f.key with
      | some a =>
        -- met for the second time: one field is enough to spoil the whole record
        rw [hV.repeated v ms hfield (by rw [hfound]; rfl), mapM_eq_none hf]
        rw [hfound, Members.given_cons, if_pos rfl]
        rfl
      | none =>
        rw [hV.known v ms hfield hfound]
        cases hread : read f.kind v with
        | none =>
          rw [Option.bind_none, mapM_eq_none hf]
          rw [hfound, Members.given_cons, if_pos rfl, Field.settle?_cons, hread, Option.bind_none]
        | some a =>
          rw [Option.bind_some, ih]
          refine mapM_congr fun g hg ↦ ?_
          -- from here on the value counts as found for its own field and for no other
          by_cases hkey : g.key = f.key
          · obtain rfl := List.inj_on_of_nodup_map hkeys hg hf hkey
            rw [note, if_pos rfl, hfound, Members.given_cons, if_pos rfl, Field.settle?_cons, hread,
              Option.bind_some]
          · rw [note, if_neg hkey, Members.given_cons, if_neg (Ne.symm hkey)]

theorem Derived.items_eq (hV : V.Derived) (hkeys : (fields.map Field.key).Nodup) (vs : List ν) :
    V.items read fields vs =
      if vs.length ≤ fields.length then
        V.members read fields (fun _ ↦ none) ((fields.map Field.key).zip vs)
      else none := by
  rw [hV.members_eq hkeys]
  induction fields generalizing vs with
  | nil =>
    cases vs with
    | nil => exact hV.noField read
    | cons v vs => exact hV.leftOver read v vs
  | cons f fields ih =>
    obtain ⟨hf, hkeys⟩ := List.nodup_cons.1 hkeys
    cases vs with
    | nil =>
      rw [hV.noItem, ih hkeys, List.zip_nil_right, List.zip_nil_right, mapM_cons_eq]
      rfl
    | cons v vs =>
      -- the first item is given to the first field, whose key no other field has
      have hhead : Members.given ((f.key, v) :: (fields.map Field.key).zip vs) f.key = [v] := by
        rw [Members.given_cons, if_pos rfl, Members.given_zip_of_not_mem hf]
      have htail : ∀ g ∈ fields, Members.given ((f.key, v) :: (fields.map Field.key).zip vs) g.key =
          Members.given ((fields.map Field.key).zip vs) g.key := by
        intro g hg
        have hne : f.key ≠ g.key := fun h ↦ hf (h ▸ List.mem_map_of_mem hg)
        rw [Members.given_cons, if_neg hne]
      rw [hV.item, ih hkeys, List.map_cons, List.zip_cons_cons, mapM_cons_eq, hhead,
        mapM_congr fun g hg ↦ congrArg _ (htail g hg), List.length_cons, List.length_cons]
      by_cases hlen : vs.length ≤ fields.length
      · rw [if_pos hlen, if_pos (Nat.succ_le_succ hlen)]
        rfl
      · rw [if_neg hlen, if_neg fun h ↦ hlen (Nat.le_of_succ_le_succ h)]
        cases read f.kind v <;> rfl

end Visitor

end TexelFormats
