/-!
# UTF-8

Bytes are decoded one at a time. A sequence that breaks off, by a byte that cannot continue it or by the end of the bytes, counts as one ill-formed unit, as long as it was the start of some character; the byte that broke it is looked at afresh. So a byte below `0x80` always stands for itself, whatever came before it.
-/

namespace DriverIndex.Text.Utf8

/-- What the decoder is in the middle of. -/
inductive Pending where
  | nothing
  /-- A character that lacks `missing` bytes, the next of them between `low` and `high`; `value` is what its bits say so far. -/
  | character (missing : Nat) (low high : UInt8) (value : Nat)
deriving DecidableEq

/-- A decoder that has read some bytes. A unit is a character, or `none` for an ill-formed sequence; the newest comes first. -/
structure Decoder where
  pending : Pending
  units : List (Option Char)

def Decoder.start : Decoder := ⟨.nothing, []⟩

/-- Looks at a byte that can only start something. -/
def Decoder.lead (units : List (Option Char)) (byte : UInt8) : Decoder :=
  if byte < 0x80 then ⟨.nothing, some (Char.ofNat byte.toNat) :: units⟩
  else if byte < 0xC2 then ⟨.nothing, none :: units⟩
  else if byte < 0xE0 then ⟨.character 1 0x80 0xBF (byte.toNat - 0xC0), units⟩
  else if byte = 0xE0 then ⟨.character 2 0xA0 0xBF 0, units⟩
  else if byte = 0xED then ⟨.character 2 0x80 0x9F 0xD, units⟩
  else if byte < 0xF0 then ⟨.character 2 0x80 0xBF (byte.toNat - 0xE0), units⟩
  else if byte = 0xF0 then ⟨.character 3 0x90 0xBF 0, units⟩
  else if byte < 0xF4 then ⟨.character 3 0x80 0xBF (byte.toNat - 0xF0), units⟩
  else if byte = 0xF4 then ⟨.character 3 0x80 0x8F 4, units⟩
  else ⟨.nothing, none :: units⟩

def Decoder.feed (decoder : Decoder) (byte : UInt8) : Decoder :=
  match decoder.pending with
  | .nothing => lead decoder.units byte
  | .character missing low high value =>
    if low ≤ byte ∧ byte ≤ high then
      let value := value * 64 + (byte.toNat - 0x80)
      if missing ≤ 1 then ⟨.nothing, some (Char.ofNat value) :: decoder.units⟩
      else ⟨.character (missing - 1) 0x80 0xBF value, decoder.units⟩
    else lead (none :: decoder.units) byte

/-- All units in order, a character that was never finished being ill-formed. -/
def Decoder.close (decoder : Decoder) : List (Option Char) :=
  match decoder.pending with
  | .nothing => decoder.units.reverse
  | .character .. => (none :: decoder.units).reverse

def units (bytes : List UInt8) : List (Option Char) := (bytes.foldl Decoder.feed .start).close

/-- Decodes any bytes, with U+FFFD for every ill-formed sequence. -/
def decodeLossy (bytes : List UInt8) : List Char := (units bytes).map fun unit => unit.getD '\uFFFD'

/-- Decodes well-formed bytes only. -/
def decode? (bytes : List UInt8) : Option (List Char) := (units bytes).mapM id

def encode (text : List Char) : List UInt8 := text.flatMap String.utf8EncodeChar

end DriverIndex.Text.Utf8
