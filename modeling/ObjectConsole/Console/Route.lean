import ObjectConsole.Text.Cut
import ObjectConsole.Text.Percent

/-!
# Routes

What a request asks for is read off its path and the first word of its query. The path is decoded as
a whole; the query is not, since its parts are decoded one by one. The rules are tried in order: the
root, the verbs `call` and `get` on any path, then reference tokens, then a single name.
-/

namespace ObjectConsole

open Text

/-- What a request asks for. -/
inductive Route where
  /-- The start page, which is that of the root type. -/
  | root
  /-- The members of a type, perhaps of one of its values. -/
  | members (typeName : String) (receiver : Option String)
  /-- A call of the operation that path and query name. -/
  | call (path query : String)
  /-- The value of the field that the path names. -/
  | field (path : String) (receiver : Option String)
  /-- A name for the value that a token refers to: the given one, or an automatic one. -/
  | persist (token : String) (name : Option String)
  /-- The page of the value that a token refers to. -/
  | resolve (token : String)
  /-- Nothing that the console has. -/
  | unrouted (path : String)
  deriving DecidableEq, Repr

namespace Route

/-- A text unless it is empty. -/
def nonempty? (text : List Char) : Option String :=
  if text = [] then none else some (String.ofList text)

/-- What follows a verb at the start of a query. The verb is a word: it ends with the query or at
one of four characters. -/
def behindVerb? (verb : String) (query : List Char) : Option (List Char) :=
  match behind? verb.toList query with
  | none => none
  | some [] => some []
  | some (c :: rest) => if c ∈ ['&', '=', '[', '$'] then some (c :: rest) else none

/-- The receiver given behind the verb of a field. It may stand there at once, behind `=`, or as the
text of the receiver key. -/
def receiver? (rest : List Char) : Option String :=
  nonempty? (Percent.decodeChars (behind ['='] (behind "this".toList (behind ['&'] rest))))

/-- The name given behind the verb of a promotion. -/
def name? (rest : List Char) : Option String :=
  (behind? ['='] rest).map fun name ↦ String.ofList (Percent.decodeChars name)

/-- A path without one slash at its end. -/
def dropLastSlash (path : List Char) : List Char :=
  if path.getLast? = some '/' then path.dropLast else path

/-- The route of a path that has no verb for it, already decoded. -/
def ofPath (path query : List Char) : Route :=
  let trimmed := dropSlashes path
  match trimmed with
  | '[' :: _ =>
    match behindVerb? "persist" query with
    | some rest => persist (String.ofList trimmed) (name? rest)
    | none => resolve (String.ofList trimmed)
  | '$' :: _ => resolve (String.ofList trimmed)
  | _ =>
    let segment := dropLastSlash trimmed
    if segment ≠ [] ∧ '/' ∉ segment then
      members (String.ofList segment) (nonempty? (Percent.decodeChars query))
    else unrouted (String.ofList path)

/-- The route of a raw path and query, as characters. -/
def ofChars (rawPath query : List Char) : Route :=
  let path := Percent.decodeChars rawPath
  if path = [] ∨ path = ['/'] then root
  else
    match behindVerb? "call" query with
    | some rest => call (String.ofList path) (String.ofList rest)
    | none =>
      match behindVerb? "get" query with
      | some rest => field (String.ofList path) (receiver? rest)
      | none => ofPath path query

/-- The route of a raw path and query. A missing query is like an empty one. -/
def ofAddress (path : String) (query : Option String) : Route :=
  ofChars path.toList (query.getD "").toList

end Route

end ObjectConsole
