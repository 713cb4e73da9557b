import ObjectConsole.Reference.Uuid
import ObjectConsole.Text.Escaping

/-!
# Reference tokens

A token names a value in one of two namespaces: `[identifier]` a temporary one, `$name` one that was
given a name. The first character decides which is meant, so no name can be mistaken for an
identifier, however it is spelled.
-/

namespace ObjectConsole

open Text

/-- A reference to a value. -/
inductive Token where
  | ephemeral (id : Uuid)
  | persistent (name : String)
  deriving DecidableEq, Repr

namespace Token

/-- Why a text is no token. -/
inductive Reason where
  | noOpeningBracket
  | noClosingBracket
  | invalidIdentifier
  | emptyName
  | noOpening
  deriving DecidableEq, Repr

/-- The wording of a reason. -/
def Reason.message : Reason → String
  | noOpeningBracket => "expected '['"
  | noClosingBracket => "expected closing ']'"
  | invalidIdentifier => "invalid uuid"
  | emptyName => "empty persistent name"
  | noOpening => "expected '[' or '$'"

/-- A text that is no token. -/
structure Malformed where
  text : String
  reason : Reason
  deriving DecidableEq, Repr

/-- The wording of the error. -/
def Malformed.message (e : Malformed) : String :=
  "malformed reference token " ++ Quoted.text e.text ++ ": " ++ e.reason.message

/-- Reads an identifier in brackets. -/
def readEphemeral : List Char → Except Reason Uuid
  | '[' :: rest =>
    if rest.getLast? = some ']' then
      (Uuid.parse? rest.dropLast).elim (.error .invalidIdentifier) .ok
    else .error .noClosingBracket
  | _ => .error .noOpeningBracket

/-- Reads a token. -/
def read : List Char → Except Reason Token
  | '[' :: rest => (readEphemeral ('[' :: rest)).map ephemeral
  | ['$'] => .error .emptyName
  | '$' :: name => .ok (persistent (String.ofList name))
  | _ => .error .noOpening

/-- Reads an identifier in brackets from a text. -/
def parseEphemeral (s : String) : Except Malformed Uuid :=
  (readEphemeral s.toList).mapError fun reason ↦ ⟨s, reason⟩

/-- Reads a token from a text. -/
def parse (s : String) : Except Malformed Token :=
  (read s.toList).mapError fun reason ↦ ⟨s, reason⟩

/-- A token as it is written. -/
def text : Token → String
  | ephemeral id => "[" ++ id.text ++ "]"
  | persistent name => "$" ++ name

end Token

end ObjectConsole
