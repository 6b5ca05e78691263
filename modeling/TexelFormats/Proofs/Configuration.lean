import TexelFormats.Device.Config
import TexelFormats.Proofs.JsonDecoding
import TexelFormats.Proofs.JsonWriting
import TexelFormats.Proofs.Records

namespace TexelFormats.Device

open Json

section

variable {ν : Type} {V : Visitor} {D : Decoder ν} {ss : List Setting} {ms ms' : Members ν}
  {vs : List ν} {text : String} {d : Device}

theorem nodup_keys : (fields.map Field.key).Nodup := by decide

theorem ofSettings?_eq_some_iff : ofSettings? ss = some d ↔ ss = d.settings := by
  constructor
  · intro h
    rw [ofSettings?.eq_def] at h
    split at h
    · cases h
      rfl
    · cases h
  · intro h
    rw [h]
    rfl

def ofMembers? (D : Decoder ν) (ms : Members ν) : Option Device :=
  (fields.mapM fun f : Field Kind Setting ↦
    f.settle? D.setting? none (ms.given f.key)).bind ofSettings?

theorem ofMembers?_eq_some_iff : ofMembers? D ms = some d ↔
    fields.map (fun f : Field Kind Setting ↦ f.settle? D.setting? none (ms.given f.key)) =
      d.settings.map some := by
  rw [ofMembers?, Option.bind_eq_some_iff]
  constructor
  · intro h
    obtain ⟨ss, hss, hd⟩ := h
    rw [ofSettings?_eq_some_iff.1 hd] at hss
    exact mapM_eq_some_iff.1 hss
  · intro h
    exact ⟨d.settings, mapM_eq_some_iff.2 h, ofSettings?_eq_some_iff.2 rfl⟩

theorem ofMembers?_perm (h : (ms.filter (·.1 ∈ keys)).Perm (ms'.filter (·.1 ∈ keys))) :
    ofMembers? D ms = ofMembers? D ms' := by
  have hfield : ∀ f ∈ fields, f.settle? D.setting? none (ms.given f.key) =
      f.settle? D.setting? none (ms'.given f.key) :=
    fun f hf ↦ f.settle?_perm (Members.perm_given h (List.mem_map_of_mem hf))
  rw [ofMembers?, ofMembers?, mapM_congr hfield]

theorem ofText?_of_members (hV : V.Derived) (h : D.shape? text = some (.members ms)) :
    ofText? V D text = ofMembers? D ms := by
  rw [ofText?, h, Option.bind_eq_bind, Option.bind_some, Visitor.visit?, hV.members_eq nodup_keys]
  rfl

theorem ofText?_of_items (hV : V.Derived) (h : D.shape? text = some (.items vs)) :
    ofText? V D text = if vs.length ≤ 5 then ofMembers? D (keys.zip vs) else none := by
  have hfive : fields.length = 5 := rfl
  rw [ofText?, h, Option.bind_eq_bind, Option.bind_some, Visitor.visit?, hV.items_eq nodup_keys,
    hfive]
  by_cases hlen : vs.length ≤ 5
  · rw [if_pos hlen, if_pos hlen, hV.members_eq nodup_keys]
    rfl
  · rw [if_neg hlen, if_neg hlen]
    rfl

end

variable {ν : Type} {V : Visitor} {J : Decoder ν} {node : Json → ν} {W : Writer} {d : Device}
  {text : String} {ms : Members Json} {items : List Json}

/-- The members of an object that stands for a device: its name and chip given once, and each of its
other settings at most once. -/
structure DescribedBy (d : Device) (ms : Members Json) : Prop where
  name : ∃ s, ms.given "name" = [.string s] ∧ s.Denotes d.name.toList
  chipId : ∃ ds, ms.given "chip_id" = [.number ds] ∧ Digits ds ∧
    Nat.ofDigitChars 10 ds 0 = d.chipId.toNat
  compresses8bpp : ms.given "has_8bpp_ubwc" = [] ∧ d.compresses8bpp = true ∨
    ms.given "has_8bpp_ubwc" = [.bool d.compresses8bpp]
  samplesStencilAsUint : ms.given "has_z24uint_s8uint" = [] ∧ d.samplesStencilAsUint = false ∨
    ms.given "has_z24uint_s8uint" = [.bool d.samplesStencilAsUint]
  filtersCubic : ms.given "ext_filter_cubic" = [] ∧ d.filtersCubic = false ∨
    ms.given "ext_filter_cubic" = [.bool d.filtersCubic]

def nodes (node : Json → ν) (ms : Members Json) : Members ν := ms.map fun m ↦ (m.1, node m.2)

section

variable {key : String}

theorem settle?_nodes_eq_some_iff {kind : Kind} {otherwise? : Option Setting} {a : Setting} :
    Field.settle? ⟨key, kind, otherwise?⟩ J.setting? none ((nodes node ms).given key) = some a ↔
      ms.given key = [] ∧ otherwise? = some a ∨
        ∃ v, ms.given key = [v] ∧ J.setting? kind (node v) = some a := by
  simp [nodes, Field.settle?_none_eq_some_iff, Members.given_map_snd, List.map_eq_singleton_iff]

theorem settle?_text_eq_some_iff (hJ : IsDecoder J node) {t : String} :
    Field.settle? ⟨key, .text, none⟩ J.setting? none ((nodes node ms).given key) =
        some (.text t) ↔ ∃ s, ms.given key = [.string s] ∧ s.Denotes t.toList := by
  rw [settle?_nodes_eq_some_iff]
  simp [Decoder.setting?, hJ.text_iff]

theorem settle?_word_eq_some_iff (hJ : IsDecoder J node) {n : UInt32} :
    Field.settle? ⟨key, .word, none⟩ J.setting? none ((nodes node ms).given key) =
        some (.word n) ↔
      ∃ ds, ms.given key = [.number ds] ∧ Digits ds ∧ Nat.ofDigitChars 10 ds 0 = n.toNat := by
  rw [settle?_nodes_eq_some_iff]
  simp [Decoder.setting?, hJ.word_iff]

theorem settle?_flag_eq_some_iff (hJ : IsDecoder J node) {otherwise b : Bool} :
    Field.settle? ⟨key, .flag, some (.flag otherwise)⟩ J.setting? none
        ((nodes node ms).given key) = some (.flag b) ↔
      ms.given key = [] ∧ b = otherwise ∨ ms.given key = [.bool b] := by
  rw [settle?_nodes_eq_some_iff, @eq_comm _ b]
  simp [Decoder.setting?, hJ.flag_iff]

end

theorem ofMembers?_nodes_eq_some_iff (hJ : IsDecoder J node) :
    ofMembers? J (nodes node ms) = some d ↔ d.DescribedBy ms := by
  simp only [ofMembers?_eq_some_iff, fields, settings, List.map_cons, List.map_nil,
    List.cons.injEq, and_true, settle?_text_eq_some_iff hJ, settle?_word_eq_some_iff hJ,
    settle?_flag_eq_some_iff hJ]
  constructor
  · intro h
    obtain ⟨hname, hchip, hnarrow, hstencil, hcubic⟩ := h
    exact ⟨hname, hchip, hnarrow, hstencil, hcubic⟩
  · intro h
    exact ⟨h.name, h.chipId, h.compresses8bpp, h.samplesStencilAsUint, h.filtersCubic⟩

theorem ofText?_of_objectText (hV : V.Derived) (hJ : IsDecoder J node) (h : ObjectText text ms) :
    ofText? V J text = ofMembers? J (nodes node ms) :=
  ofText?_of_members hV (hJ.object h)

theorem ofText?_of_arrayText (hV : V.Derived) (hJ : IsDecoder J node) (h : ArrayText text items) :
    ofText? V J text =
      if items.length ≤ 5 then ofMembers? J (nodes node (keys.zip items)) else none := by
  rw [ofText?_of_items hV (hJ.array h), List.length_map, List.zip_map_right]
  rfl

theorem two_le_length_of_describedBy_zip (h : d.DescribedBy (keys.zip items)) :
    2 ≤ items.length := by
  obtain ⟨ds, hchip, -⟩ := h.chipId
  match items with
  | [] => cases hchip
  | [v] => cases hchip
  | _ :: _ :: _ => exact Nat.le_add_left 2 _

theorem filter_nodes (p : String → Bool) :
    (nodes node ms).filter (fun m ↦ p m.1) = nodes node (ms.filter fun m ↦ p m.1) := by
  rw [nodes, List.filter_map]
  rfl

/-- A text gives a device just when it is an object with the members that the device takes, or an
array of the values of such an object. Nothing hangs on the order of the members, nor on those that
are not known. -/
theorem ofText?_accepts (hV : V.Derived) (hJ : IsDecoder J node) (text : String) :
    (∀ d ms, ObjectText text ms → (ofText? V J text = some d ↔ d.DescribedBy ms)) ∧
    (∀ d items, ArrayText text items → (ofText? V J text = some d ↔
      2 ≤ items.length ∧ items.length ≤ 5 ∧
        ∃ object, ObjectText object (keys.zip items) ∧ ofText? V J object = some d)) ∧
    (∀ d, ofText? V J text = some d →
      (∃ ms, ObjectText text ms) ∨ ∃ items, ArrayText text items) ∧
    ∀ text' ms ms', ObjectText text ms → ObjectText text' ms' →
      (ms.filter (·.1 ∈ keys)).Perm (ms'.filter (·.1 ∈ keys)) →
        ofText? V J text' = ofText? V J text := by
  refine ⟨?object, ?array, ?only, ?order⟩
  case object =>
    intro d ms h
    rw [ofText?_of_objectText hV hJ h]
    exact ofMembers?_nodes_eq_some_iff hJ
  case array =>
    intro d items h
    rw [ofText?_of_arrayText hV hJ h]
    constructor
    · intro hd
      by_cases hlen : items.length ≤ 5
      · rw [if_pos hlen] at hd
        have htwo := two_le_length_of_describedBy_zip ((ofMembers?_nodes_eq_some_iff hJ).1 hd)
        obtain ⟨object, hobject⟩ := exists_objectText h keys hlen
        exact ⟨htwo, hlen, object, hobject, (ofText?_of_objectText hV hJ hobject).trans hd⟩
      · rw [if_neg hlen] at hd
        cases hd
    · intro hd
      obtain ⟨-, hlen, object, hobject, hd⟩ := hd
      rw [if_pos hlen, ← hd, ofText?_of_objectText hV hJ hobject]
  case only =>
    intro d h
    obtain ⟨shape, hshape, -⟩ := Option.bind_eq_some_iff.1 h
    exact hJ.only hshape
  case order =>
    intro text' ms ms' h h' hperm
    rw [ofText?_of_objectText hV hJ h, ofText?_of_objectText hV hJ h']
    refine (ofMembers?_perm ?_).symm
    rw [filter_nodes (· ∈ keys), filter_nodes (· ∈ keys)]
    exact hperm.map _

theorem ofText?_accepts_of_escaped_key :
    ofText? .standard decoder "\x7b\"x\": [null], \"chip_id\": 640, \"n\\u0061me\": \"q\"\x7d" =
      some ⟨"q", 640, true, false, false⟩ ∧
    ofText? .standard decoder "\x7b\"name\": \"q\", \"chip_id\": 640\x7d" =
      some ⟨"q", 640, true, false, false⟩ ∧
    ofText? .standard decoder "[\"q\", 640]" = some ⟨"q", 640, true, false, false⟩ := by
  have hescaped : ObjectText "\x7b\"x\": [null], \"chip_id\": 640, \"n\\u0061me\": \"q\"\x7d"
      [("x", .array [.null]), ("chip_id", .number ['6', '4', '0']),
        ("name", .string [.char 'q'])] := by
    have hread : read? "\x7b\"x\": [null], \"chip_id\": 640, \"n\\u0061me\": \"q\"\x7d" =
        some (.object [(.ofText "x", .array [.null]), (.ofText "chip_id", .number ['6', '4', '0']),
          ([.char 'n', .unit 0x61, .char 'm', .char 'e'], .string [.char 'q'])]) := rfl
    exact ⟨_, read?_eq_some_iff.1 hread, mapM_named?_eq_some_iff.1 rfl⟩
  have hplain : ObjectText "\x7b\"name\": \"q\", \"chip_id\": 640\x7d"
      [("name", .string [.char 'q']), ("chip_id", .number ['6', '4', '0'])] := by
    have hread : read? "\x7b\"name\": \"q\", \"chip_id\": 640\x7d" = some (.object
        [(.ofText "name", .string [.char 'q']), (.ofText "chip_id", .number ['6', '4', '0'])]) :=
      rfl
    exact ⟨_, read?_eq_some_iff.1 hread, mapM_named?_eq_some_iff.1 rfl⟩
  have hread : read? "[\"q\", 640]" =
      some (.array [.string [.char 'q'], .number ['6', '4', '0']]) := rfl
  have hitems : ArrayText "[\"q\", 640]" [.string [.char 'q'], .number ['6', '4', '0']] :=
    read?_eq_some_iff.1 hread
  have hd : DescribedBy ⟨"q", 640, true, false, false⟩ [("x", .array [.null]),
      ("chip_id", .number ['6', '4', '0']), ("name", .string [.char 'q'])] :=
    ⟨⟨_, rfl, .char .nil⟩, ⟨_, rfl, digits_toDigits 640, rfl⟩, .inl ⟨rfl, rfl⟩,
      .inl ⟨rfl, rfl⟩, .inl ⟨rfl, rfl⟩⟩
  obtain ⟨hobject, -, -, horder⟩ := ofText?_accepts Visitor.derived_standard isDecoder_decoder
    "\x7b\"x\": [null], \"chip_id\": 640, \"n\\u0061me\": \"q\"\x7d"
  have hfirst := (hobject _ _ hescaped).2 hd
  have hsecond := (horder _ _ _ hescaped hplain (.swap _ _ _)).trans hfirst
  obtain ⟨-, harray, -, -⟩ :=
    ofText?_accepts Visitor.derived_standard isDecoder_decoder "[\"q\", 640]"
  have hthird := (harray _ _ hitems).2 ⟨Nat.le_refl 2, Nat.le_add_right 2 3, _, hplain, hsecond⟩
  exact ⟨hfirst, hsecond, hthird⟩

theorem objectText_toText (hW : IsWriter W) (d : Device) : ∃ s, s.Denotes d.name.toList ∧
    ObjectText (toText W d) [("name", .string s), ("chip_id", ofNat d.chipId.toNat),
      ("has_8bpp_ubwc", .bool d.compresses8bpp),
      ("has_z24uint_s8uint", .bool d.samplesStencilAsUint),
      ("ext_filter_cubic", .bool d.filtersCubic)] := by
  obtain ⟨s, hs, hdenotes⟩ := hW.exists_quoted d.name
  refine ⟨s, hdenotes, hW.objectText_record ?_⟩
  exact .cons ⟨rfl, .string hs⟩ <| .cons ⟨rfl, hW.value_word _⟩ <|
    .cons ⟨rfl, hW.value_flag _⟩ <| .cons ⟨rfl, hW.value_flag _⟩ <|
    .cons ⟨rfl, hW.value_flag _⟩ .nil

/-- Every device is read from the object that is written for it, so no two are written alike. -/
theorem ofText?_toText (hV : V.Derived) (hJ : IsDecoder J node) (hW : IsWriter W) :
    (∀ d, ofText? V J (toText W d) = some d) ∧
    (∀ d : Device, ∃ s, s.Denotes d.name.toList ∧ ObjectText (toText W d)
      [("name", .string s), ("chip_id", ofNat d.chipId.toNat),
        ("has_8bpp_ubwc", .bool d.compresses8bpp),
        ("has_z24uint_s8uint", .bool d.samplesStencilAsUint),
        ("ext_filter_cubic", .bool d.filtersCubic)]) ∧
    Function.Injective (toText W) := by
  have hread : ∀ d, ofText? V J (toText W d) = some d := by
    intro d
    obtain ⟨s, hs, htext⟩ := objectText_toText hW d
    rw [ofText?_of_objectText hV hJ htext, ofMembers?_nodes_eq_some_iff hJ]
    exact {
      name := ⟨s, rfl, hs⟩
      chipId := ⟨_, rfl, digits_toDigits _, Nat.ofDigitChars_ten_toDigits⟩
      compresses8bpp := .inr rfl
      samplesStencilAsUint := .inr rfl
      filtersCubic := .inr rfl }
  refine ⟨hread, objectText_toText hW, fun d e h ↦ ?_⟩
  have hsame := congrArg (ofText? V J) h
  rw [hread, hread] at hsame
  exact Option.some.inj hsame

theorem ofText?_toText_of_escaped_name :
    toText writer ⟨"a\"\x01𝄞", 618, true, false, true⟩ =
      "\x7b\"name\":\"a\\\"\\u0001𝄞\",\"chip_id\":618,\"has_8bpp_ubwc\":true," ++
      "\"has_z24uint_s8uint\":false,\"ext_filter_cubic\":true\x7d" ∧
    ofText? .standard decoder (toText writer ⟨"a\"\x01𝄞", 618, true, false, true⟩) =
      some ⟨"a\"\x01𝄞", 618, true, false, true⟩ :=
  ⟨rfl, (ofText?_toText Visitor.derived_standard isDecoder_decoder isWriter_writer).1 _⟩

end TexelFormats.Device
