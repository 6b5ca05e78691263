import TexelFormats.Text

namespace TexelFormats

/-- What sets one chip of the family apart from another. -/
structure Device where
  name : String
  chipId : UInt32
  compresses8bpp : Bool
  samplesStencilAsUint : Bool
  filtersCubic : Bool
  deriving DecidableEq

namespace Device

def a618 : Device := ⟨"FD618", 618, true, false, false⟩

def a630 : Device := ⟨"FD630", 630, true, false, false⟩

def a650 : Device := ⟨"FD650", 650, true, true, true⟩

def a660 : Device := ⟨"FD660", 660, true, true, true⟩

instance : Inhabited Device := ⟨a630⟩

def text (d : Device) : String := "[Name " ++ d.name ++ " -- Chip " ++ toString d.chipId.toNat ++ "]"

def presets : List (String × Device) :=
  [("618", a618), ("630", a630), ("650", a650), ("660", a660)]

def chipDigits : List Char → List Char
  | 'f' :: 'd' :: rest => rest
  | 'a' :: rest => rest
  | letters => letters

/-- A chip by its name in one of the common spellings. Only ASCII letters have two cases. -/
def ofName? (name : String) : Option Device :=
  presets.lookup (String.ofList (chipDigits ((trim name.toList).map Char.toLower)))

end Device

end TexelFormats
