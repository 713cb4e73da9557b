import ObjectConsole.Text.Digits
import ObjectConsole.Text.Utf8

/-!
# Percent coding of address components

A component is one name inside an address: a type, an operation, a key, a value, a token. Encoding
hides every character that could end the component or leave the printable ASCII range; brackets and
`$` stay as they are, so that reference tokens remain legible in links. Decoding undoes any escape,
also of characters that did not need one, leaves a malformed escape as it stands, and reads the
resulting bytes by `Utf8.decode`.
-/

namespace ObjectConsole.Text.Percent

/-- The characters that a component writes as escapes. -/
def escaped (c : Char) : Bool :=
  c.toNat < 0x20 || 0x7F ≤ c.toNat || " \"#%&+/<=>?".toList.contains c

/-- A byte as an escape. -/
def escapeByte (byte : UInt8) : List Char :=
  ['%', Hex.upper ⟨byte.toNat / 16, by have := byte.toNat_lt; omega⟩,
    Hex.upper ⟨byte.toNat % 16, Nat.mod_lt _ (by decide)⟩]

/-- One character of a component: itself, or the escapes of its bytes. -/
def encodeChar (c : Char) : List Char :=
  if escaped c then (String.utf8EncodeChar c).flatMap escapeByte else [c]

/-- A text as a component, character by character. -/
def encodeChars (text : List Char) : List Char :=
  text.flatMap encodeChar

/-- The byte that two hexadecimal digits spell. -/
def byteOf? (high low : Char) : Option UInt8 :=
  match Hex.value? high, Hex.value? low with
  | some h, some l => some (UInt8.ofNat (h.val * 16 + l.val))
  | _, _ => none

/-- The bytes that a component stands for. -/
def bytes : List Char → List UInt8
  | [] => []
  | '%' :: high :: low :: rest =>
    match byteOf? high low with
    | some byte => byte :: bytes rest
    | none => 0x25 :: bytes (high :: low :: rest)
  | c :: rest => String.utf8EncodeChar c ++ bytes rest

/-- The text that a component stands for, as characters. -/
def decodeChars (component : List Char) : List Char :=
  Utf8.decode (bytes component)

/-- A text as a component. -/
def encode (text : String) : String :=
  String.ofList (encodeChars text.toList)

/-- The text that a component stands for. -/
def decode (component : String) : String :=
  String.ofList (decodeChars component.toList)

@[simp] theorem toList_encode (text : String) :
    (encode text).toList = encodeChars text.toList :=
  String.toList_ofList

@[simp] theorem toList_decode (component : String) :
    (decode component).toList = decodeChars component.toList :=
  String.toList_ofList

theorem encodeChars_append (s t : List Char) :
    encodeChars (s ++ t) = encodeChars s ++ encodeChars t :=
  List.flatMap_append

end ObjectConsole.Text.Percent
