import ObjectConsole.Text.Digits
import ObjectConsole.Text.Hidden

/-!
# Escaped text

A page holds text in two places, between tags and inside quoted attributes, and one escape serves
both: the quote, the angle brackets and the ampersand become decimal references, and so does every
character outside ASCII, so that a page is ASCII whatever it shows (`Html.escape`).

Error messages and descriptions show text between quotation marks, so that its ends and its unseen
characters can be told: the mark itself and the backslash are escaped, the common controls have a
letter of their own, and every hidden character is given by its code point (`Quoted.text`).
-/

namespace ObjectConsole.Text.Html

/-- The characters that a page writes as references. -/
def escaped (c : Char) : Bool :=
  0x7F < c.toNat || "\"<>&".toList.contains c

/-- The decimal reference to a character. -/
def reference (c : Char) : List Char :=
  '&' :: '#' :: (Decimal.ofNat c.toNat ++ [';'])

/-- One character of a page's text. -/
def escapeChar (c : Char) : List Char :=
  if escaped c then reference c else [c]

/-- A text as it stands in a page, character by character. -/
def escapeChars (text : List Char) : List Char :=
  text.flatMap escapeChar

/-- A text as it stands in a page. -/
def escape (text : String) : String :=
  String.ofList (escapeChars text.toList)

@[simp] theorem toList_escape (text : String) :
    (escape text).toList = escapeChars text.toList :=
  String.toList_ofList

theorem escapeChars_append (s t : List Char) :
    escapeChars (s ++ t) = escapeChars s ++ escapeChars t :=
  List.flatMap_append

theorem escape_append (s t : String) : escape (s ++ t) = escape s ++ escape t := by
  simp [← String.toList_inj, escapeChars_append]

end ObjectConsole.Text.Html

namespace ObjectConsole.Text.Quoted

/-- A character by its code point, in lower-case hexadecimal between braces. -/
def codePoint (c : Char) : List Char :=
  "\\u\x7b".toList ++ Nat.toDigits 16 c.toNat ++ ['\x7d']

/-- One character of a quoted text between two `mark`s. -/
def writeChar (mark c : Char) : List Char :=
  if c = '\x00' then ['\\', '0']
  else if c = '\t' then ['\\', 't']
  else if c = '\n' then ['\\', 'n']
  else if c = '\r' then ['\\', 'r']
  else if c = '\\' ∨ c = mark then ['\\', c]
  else if Hidden.hidden c then codePoint c
  else [c]

/-- A text between two `mark`s. -/
def write (mark : Char) (text : List Char) : List Char :=
  mark :: (text.flatMap (writeChar mark) ++ [mark])

/-- A text in double quotation marks. -/
def text (s : String) : String :=
  String.ofList (write '"' s.toList)

/-- A character in single quotation marks. -/
def char (c : Char) : String :=
  String.ofList (write '\'' [c])

/-- A text that may be absent. -/
def optional : Option String → String
  | none => "None"
  | some s => "Some(" ++ text s ++ ")"

end ObjectConsole.Text.Quoted
