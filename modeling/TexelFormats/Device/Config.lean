import TexelFormats.Device
import TexelFormats.Log
import TexelFormats.Record

namespace TexelFormats.Device

open Logged

def ofChip (chip : Option ByteArray) : Logged Empty Device :=
  match chip.bind String.fromUTF8? with
  | none => pure default
  | some name =>
    match ofName? name with
    | some d => pure d
    | none => do
      record (.unknownChip name)
      pure default

/-- The device that the values of two environment variables describe: the chip's name, and a switch
that turns cubic filtering on if it is exactly one and off if it is anything else. -/
def ofEnvironment (chip cubic : Option ByteArray) : Logged Empty Device := do
  let d ← ofChip chip
  match cubic.bind String.fromUTF8? with
  | none => pure d
  | some switch => pure { d with filtersCubic := switch = "1" }

/-- What a configuration says of a device. The name and the number of the chip have to be given. -/
def fields : List (Field Kind Setting) := [
  { key := "name", kind := .text },
  { key := "chip_id", kind := .word },
  { key := "has_8bpp_ubwc", kind := .flag, default? := some (.flag true) },
  { key := "has_z24uint_s8uint", kind := .flag, default? := some (.flag false) },
  { key := "ext_filter_cubic", kind := .flag, default? := some (.flag false) }]

def keys : List String := fields.map Field.key

def settings (d : Device) : List Setting := [.text d.name, .word d.chipId, .flag d.compresses8bpp,
  .flag d.samplesStencilAsUint, .flag d.filtersCubic]

def ofSettings? : List Setting → Option Device
  | [.text name, .word chipId, .flag compresses8bpp, .flag samplesStencilAsUint,
      .flag filtersCubic] =>
    some { name, chipId, compresses8bpp, samplesStencilAsUint, filtersCubic }
  | _ => none

/-- The device that a text describes in the language of the decoder. -/
def ofText? {ν : Type} (V : Visitor) (D : Decoder ν) (text : String) : Option Device := do
  let shape ← D.shape? text
  let settings ← V.visit? D.setting? fields shape
  ofSettings? settings

def toText (W : Writer) (d : Device) : String := W.record (keys.zip d.settings)

end TexelFormats.Device
