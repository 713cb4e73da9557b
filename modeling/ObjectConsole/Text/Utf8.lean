/-!
# Bytes of text

Text becomes bytes by UTF-8 (`String.utf8EncodeChar`) and comes back by a reader that never fails:
a byte sequence that is no character is read as `U+FFFD`, one for each longest stretch that a
character could have begun with. The reader is a machine with one register, the character begun
but not yet finished, so that it runs byte by byte and its progress needs no look-ahead.
-/

namespace ObjectConsole.Text.Utf8

/-- The mark for bytes that are no character. -/
def replacement : Char := '\uFFFD'

/-- A character begun: the bits read so far, how many bytes are still to come, and the bounds of
the next one. Only the byte behind the first is ever held to bounds narrower than `80`–`BF`: they
exclude overlong forms, surrogates and numbers above the last code point. -/
structure Begun where
  bits : Nat
  missing : Nat
  low : Nat := 0x80
  high : Nat := 0xBF
  deriving DecidableEq, Repr

/-- Reads a byte where a character may begin: the finished characters, and the one begun. -/
def start (byte : UInt8) : List Char × Option Begun :=
  let b := byte.toNat
  if b < 0x80 then ([Char.ofNat b], none)
  else if b < 0xC2 then ([replacement], none)
  else if b < 0xE0 then ([], some ⟨b - 0xC0, 1, 0x80, 0xBF⟩)
  else if b = 0xE0 then ([], some ⟨0, 2, 0xA0, 0xBF⟩)
  else if b = 0xED then ([], some ⟨0xD, 2, 0x80, 0x9F⟩)
  else if b < 0xF0 then ([], some ⟨b - 0xE0, 2, 0x80, 0xBF⟩)
  else if b = 0xF0 then ([], some ⟨0, 3, 0x90, 0xBF⟩)
  else if b < 0xF4 then ([], some ⟨b - 0xF0, 3, 0x80, 0xBF⟩)
  else if b = 0xF4 then ([], some ⟨4, 3, 0x80, 0x8F⟩)
  else ([replacement], none)

/-- Reads one byte. A byte that cannot continue the character begun leaves one mark for it and is
read afresh. -/
def step : Option Begun → UInt8 → List Char × Option Begun
  | none, byte => start byte
  | some begun, byte =>
    if begun.low ≤ byte.toNat ∧ byte.toNat ≤ begun.high then
      let bits := begun.bits * 64 + (byte.toNat - 0x80)
      if begun.missing ≤ 1 then ([Char.ofNat bits], none)
      else ([], some ⟨bits, begun.missing - 1, 0x80, 0xBF⟩)
    else
      let fresh := start byte
      (replacement :: fresh.1, fresh.2)

/-- The characters of a byte sequence whose first bytes may continue the character begun. -/
def decodeFrom : Option Begun → List UInt8 → List Char
  | none, [] => []
  | some _, [] => [replacement]
  | state, byte :: rest =>
    let out := step state byte
    out.1 ++ decodeFrom out.2 rest

/-- The characters of a byte sequence. -/
def decode (bytes : List UInt8) : List Char :=
  decodeFrom none bytes

/-- The bytes of a text. -/
def encode (text : List Char) : List UInt8 :=
  text.flatMap String.utf8EncodeChar

end ObjectConsole.Text.Utf8
