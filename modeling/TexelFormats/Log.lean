import TexelFormats.Device
import TexelFormats.ImageQuery

namespace TexelFormats

inductive Level where
  | error | warn | info | debug | trace
  deriving DecidableEq

def Level.rank : Level → Nat
  | error => 0
  | warn => 1
  | info => 2
  | debug => 3
  | trace => 4

inductive ImageOutput where
  | externalMemory | filterCubic | samplerYcbcrConversion
  deriving DecidableEq

def ImageOutput.name : ImageOutput → String
  | externalMemory => "ExternalMemory"
  | filterCubic => "FilterCubic"
  | samplerYcbcrConversion => "SamplerYcbcrConversion"

/-- Something worth a record in the log. -/
inductive Event where
  | opened (device : Device)
  | unknownChip (chip : String)
  | ruleApplied (format : Format) (rule : String) (features : Features)
  | uncompressedIn3d (device : Device) (format : Format)
  | notTileable (format : Format)
  | mutableFormat (format : Format)
  | incompressible (format : Format) (usage : UsageSet)
  | unknownModifier (format : Format) (modifier : Modifier)
  | noFeatures (format : Format) (tiling : Tiling)
  | depthStencilNot2d (format : Format)
  | lacksFeature (format : Format) (tiling : Tiling) (feature : Feature)
  | handleRefused (why : Refusal)
  | writing (output : ImageOutput) (format : Format)
  deriving DecidableEq

namespace Event

def level : Event → Level
  | unknownChip _ => .warn
  | ruleApplied .. | writing .. => .trace
  | _ => .debug

def text : Event → String
  | opened d => "format capabilities for " ++ d.text
  | unknownChip c => "A6XX_CAPS_CHIP=" ++ c ++ " is not a known chip, using defaults"
  | ruleApplied f r s => f.text ++ " after " ++ r ++ ": linear=" ++ s.linear.text ++ " optimal=" ++
      s.optimal.text ++ " buffer=" ++ s.buffer.text
  | uncompressedIn3d d f => d.text ++ ": disabling UBWC for 3D " ++ f.text
  | notTileable f => f.text ++ " cannot be tiled"
  | mutableFormat f => f.text ++ " is mutable, no UBWC"
  | incompressible f u => f.text ++ " usage " ++ u.text ++ " is not UBWC compatible"
  | unknownModifier f m => f.text ++ ": unknown DRM modifier " ++ hexadecimal m.raw.toNat
  | noFeatures f t => f.text ++ " has no " ++ t.text ++ " features"
  | depthStencilNot2d f => f.text ++ " is depth/stencil, only 2D is allowed"
  | lacksFeature f t x => f.text ++ " " ++ t.text ++ " lacks " ++ x.name
  | handleRefused r => r.message
  | writing o f => "writing " ++ o.name ++ " for " ++ f.text

def shownAt (e : Event) (most : Level) : Bool := e.level.rank ≤ most.rank

end Event

/-- A computation that may fail, with the records it leaves either way. -/
structure Logged (ε α : Type) where
  log : List Event
  result : Except ε α

namespace Logged

variable {ε ε' α β : Type}

def bind (x : Logged ε α) (f : α → Logged ε β) : Logged ε β :=
  match x.result with
  | .ok a => ⟨x.log ++ (f a).log, (f a).result⟩
  | .error e => ⟨x.log, .error e⟩

instance : Monad (Logged ε) where
  pure a := ⟨[], .ok a⟩
  bind := bind

def record (e : Event) : Logged ε Unit := ⟨[e], .ok ()⟩

def records (es : List Event) : Logged ε Unit := ⟨es, .ok ()⟩

def fail (e : ε) : Logged ε α := ⟨[], .error e⟩

def value (x : Logged Empty α) : α :=
  match x.result with
  | .ok a => a

@[simp]
theorem log_pure (a : α) : (pure a : Logged ε α).log = [] := rfl

@[simp]
theorem result_pure (a : α) : (pure a : Logged ε α).result = .ok a := rfl

@[simp]
theorem result_records (es : List Event) : (records es : Logged ε Unit).result = .ok () := rfl

@[simp]
theorem log_fail (e : ε) : (fail e : Logged ε α).log = [] := rfl

@[simp]
theorem result_fail (e : ε) : (fail e : Logged ε α).result = .error e := rfl

theorem result_bind (x : Logged ε α) (f : α → Logged ε β) :
    (x >>= f).result = x.result >>= fun a ↦ (f a).result := by
  change (bind x f).result = _
  unfold bind
  cases x.result <;> rfl

theorem result_bind_ok {x : Logged ε α} {f : α → Logged ε β} {a : α} (h : x.result = .ok a) :
    (x >>= f).result = (f a).result := by
  rw [result_bind, h]
  rfl

theorem result_bind_error {x : Logged ε α} {f : α → Logged ε β} {e : ε} (h : x.result = .error e) :
    (x >>= f).result = .error e := by
  rw [result_bind, h]
  rfl

theorem log_bind_ok {x : Logged ε α} {f : α → Logged ε β} {a : α} (h : x.result = .ok a) :
    (x >>= f).log = x.log ++ (f a).log := by
  change (bind x f).log = _
  simp [bind, h]

end Logged

end TexelFormats
