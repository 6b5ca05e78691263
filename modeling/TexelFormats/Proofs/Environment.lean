import TexelFormats.Device.Config

namespace TexelFormats

namespace Logged

variable {α β : Type}

theorem result_eq_ok_value (x : Logged Empty α) : x.result = .ok x.value := by
  rw [value]
  split
  assumption

theorem log_bind (x : Logged Empty α) (f : α → Logged Empty β) :
    (x >>= f).log = x.log ++ (f x.value).log :=
  log_bind_ok x.result_eq_ok_value

theorem value_bind (x : Logged Empty α) (f : α → Logged Empty β) :
    (x >>= f).value = (f x.value).value := by
  have hbind := result_bind_ok (f := f) x.result_eq_ok_value
  rw [result_eq_ok_value, result_eq_ok_value] at hbind
  exact Except.ok.inj hbind

end Logged

namespace Device

open Logged

variable {chip cubic : Option ByteArray} {name text : String} {d base : Device}

/-- A variable is set, and the bytes it is set to are the text in UTF-8. -/
def HoldsText (value : Option ByteArray) (text : String) : Prop := value = some text.toByteArray

theorem bind_fromUTF8?_eq_some_iff {value : Option ByteArray} :
    value.bind String.fromUTF8? = some text ↔ HoldsText value text := by
  rw [HoldsText, Option.bind_eq_some_iff]
  constructor
  · intro h
    obtain ⟨bytes, hbytes, htext⟩ := h
    rw [String.fromUTF8?] at htext
    split at htext
    · cases htext
      exact hbytes
    · cases htext
  · intro h
    refine ⟨_, h, ?_⟩
    rw [String.fromUTF8?, dif_pos text.isValidUTF8]
    rfl

theorem bind_fromUTF8?_eq_none_iff {value : Option ByteArray} :
    value.bind String.fromUTF8? = none ↔ ∀ text, ¬ HoldsText value text := by
  simp only [Option.eq_none_iff_forall_ne_some, ne_eq, bind_fromUTF8?_eq_some_iff]

inductive NamedBy (chip : Option ByteArray) : Device → List Event → Prop
  | known {name : String} {d : Device} :
      HoldsText chip name → ofName? name = some d → NamedBy chip d []
  | unknown {name : String} :
      HoldsText chip name → ofName? name = none → NamedBy chip default [.unknownChip name]
  | unnamed : (∀ name, ¬ HoldsText chip name) → NamedBy chip default []

def one : ByteArray := ⟨#[0x31]⟩

inductive Switched (cubic : Option ByteArray) (d : Device) : Device → Prop
  | on : cubic = some one → Switched cubic d { d with filtersCubic := true }
  | off {text : String} :
      HoldsText cubic text → cubic ≠ some one → Switched cubic d { d with filtersCubic := false }
  | kept : (∀ text, ¬ HoldsText cubic text) → Switched cubic d d

theorem HoldsText.unique {value : Option ByteArray} (h : HoldsText value name)
    (h' : HoldsText value text) : name = text := by
  have hbytes := Option.some.inj (h.symm.trans h')
  exact String.toByteArray_inj.1 hbytes

theorem namedBy_ofChip (chip : Option ByteArray) :
    NamedBy chip (ofChip chip).value (ofChip chip).log := by
  rw [ofChip]
  rcases hchip : chip.bind String.fromUTF8? with _ | name
  · exact .unnamed (bind_fromUTF8?_eq_none_iff.1 hchip)
  · have hname := bind_fromUTF8?_eq_some_iff.1 hchip
    rcases hd : ofName? name with _ | d
    · simp only [hd]
      exact .unknown hname hd
    · simp only [hd]
      exact .known hname hd

theorem NamedBy.level_eq_iff {events : List Event} (h : NamedBy chip base events) :
    (events.map Event.level = [.warn] ↔ ∃ name, HoldsText chip name ∧ ofName? name = none) ∧
    (events = [] ↔ ¬ ∃ name, HoldsText chip name ∧ ofName? name = none) := by
  cases h with
  | known hname hd =>
    have hnone : ¬ ∃ name, HoldsText chip name ∧ ofName? name = none := by
      intro ⟨_, hname', hd'⟩
      obtain rfl := hname.unique hname'
      cases hd.symm.trans hd'
    simp [hnone]
  | unknown hname hd =>
    have hsome : ∃ name, HoldsText chip name ∧ ofName? name = none := ⟨_, hname, hd⟩
    simp [hsome, Event.level]
  | unnamed hnot =>
    simp [hnot]

theorem log_ofEnvironment (chip cubic : Option ByteArray) :
    (ofEnvironment chip cubic).log = (ofChip chip).log := by
  rw [ofEnvironment, log_bind]
  split
  · exact List.append_nil _
  · exact List.append_nil _

theorem switched_value (chip cubic : Option ByteArray) :
    Switched cubic (ofChip chip).value (ofEnvironment chip cubic).value := by
  rw [ofEnvironment, value_bind]
  split
  · rename_i hcubic
    exact .kept (bind_fromUTF8?_eq_none_iff.1 hcubic)
  · rename_i text hcubic
    have htext := bind_fromUTF8?_eq_some_iff.1 hcubic
    by_cases hone : text = "1"
    · subst hone
      exact .on htext
    · have hdigit : HoldsText (some one) "1" := rfl
      have hne : cubic ≠ some one := fun h ↦ hone (htext.unique (h ▸ hdigit))
      simp only [hone, decide_false]
      exact .off htext hne

theorem Switched.update_eq (h : Switched cubic base d) (b : Bool) :
    { d with filtersCubic := b } = { base with filtersCubic := b } := by
  cases h <;> rfl

/-- The chip's name and the switch are looked at apart: the name decides on everything but cubic
filtering and on what is recorded, and the switch on cubic filtering alone. -/
theorem ofEnvironment_independent (chip cubic : Option ByteArray) :
    (∃ base, NamedBy chip base (ofEnvironment chip cubic).log ∧
      Switched cubic base (ofEnvironment chip cubic).value) ∧
    (∀ cubic' b, { (ofEnvironment chip cubic).value with filtersCubic := b } =
      { (ofEnvironment chip cubic').value with filtersCubic := b }) ∧
    ((ofEnvironment chip cubic).log.map Event.level = [.warn] ↔
      ∃ name, HoldsText chip name ∧ ofName? name = none) ∧
    ((ofEnvironment chip cubic).log = [] ↔
      ¬ ∃ name, HoldsText chip name ∧ ofName? name = none) := by
  have hbase := namedBy_ofChip chip
  have hlog := log_ofEnvironment chip cubic
  refine ⟨⟨_, hlog ▸ hbase, switched_value chip cubic⟩, ?_, hlog ▸ hbase.level_eq_iff⟩
  intro cubic' b
  exact ((switched_value chip cubic).update_eq b).trans
    ((switched_value chip cubic').update_eq b).symm

example : (ofEnvironment (some "a650".toByteArray) (some ⟨#[0x20, 0x31]⟩)).value =
      { a650 with filtersCubic := false } ∧
    (ofEnvironment (some "a650".toByteArray) (some ⟨#[]⟩)).value =
      { a650 with filtersCubic := false } ∧
    (ofEnvironment (some "a650".toByteArray) (some ⟨#[0xff]⟩)).value = a650 := by
  decide

end Device

end TexelFormats
