import ObjectConsole.Console.Response
import ObjectConsole.Text.Cut
import ObjectConsole.Text.Digits

/-!
# Messages

Requests and responses as they go over the wire. A request's target may be a whole address; what
counts of it is the path and the query, and a fragment never belongs to either. Not every text is a
target (`IsTarget`): it must not be too long, and paths and queries hold no spaces, no controls and
not all of the punctuation. A response carries the few headers that the server sets.
-/

namespace ObjectConsole.Server

open Text

/-! ## Targets -/

/-- The part of an address behind its authority: from the first `/` or `?` on. -/
def behindAuthority (address : List Char) : List Char :=
  address.dropWhile fun c ↦ c ≠ '/' && c ≠ '?'

/-- The part of an address behind its scheme and authority, if it has them. A lone asterisk is a
target of its own. -/
def localPart : List Char → List Char
  | [] => []
  | ['*'] => ['*']
  | '/' :: rest => '/' :: rest
  | address =>
    match pieces "://".toList address with
    | _ :: behind :: more => behindAuthority ("://".toList.intercalate (behind :: more))
    | _ => behindAuthority address

/-- The path and the query of a text, if it is a target. A missing path is the root path. -/
def target (text : String) : String × Option String :=
  let whole := localPart (text.toList.takeWhile (· ≠ '#'))
  let parts := match cut? '?' whole with
    | some (path, query) => (path, some (String.ofList query))
    | none => (whole, none)
  (if parts.1 = [] then "/" else String.ofList parts.1, parts.2)

/-- Whether a path may hold a character. A number sign or a question mark would end the path, and is
not asked about. -/
def pathChar (c : Char) : Bool :=
  0x20 < c.toNat && !"<>`".toList.contains c

/-- Whether a query may hold a character. -/
def queryChar (c : Char) : Bool :=
  0x20 < c.toNat && !"\"<>".toList.contains c

/-- The number of bytes that a target has at most. -/
def maxTargetSize : Nat := 65534

/-- A text that can be a target. Only its length, its path and its query are looked at: nothing here
depends on the authority of an address. -/
structure IsTarget (text : String) : Prop where
  size_le : text.utf8ByteSize ≤ maxTargetSize
  path : (target text).1.toList.all pathChar
  query : (target text).2.all fun query ↦ query.toList.all queryChar

instance (text : String) : Decidable (IsTarget text) :=
  decidable_of_iff
    (text.utf8ByteSize ≤ maxTargetSize ∧ (target text).1.toList.all pathChar ∧
      (target text).2.all fun query ↦ query.toList.all queryChar)
    ⟨fun ⟨hsize, hpath, hquery⟩ ↦ ⟨hsize, hpath, hquery⟩, fun h ↦ ⟨h.1, h.2, h.3⟩⟩

/-! ## Requests and responses -/

/-- A request: its method, its target, and the identifier it was given, if any. -/
structure HttpRequest where
  method : String := "GET"
  target : String
  requestId : Option String := none
  deriving DecidableEq, Repr

/-- Whether a request only reads. -/
def HttpRequest.Reads (request : HttpRequest) : Prop :=
  request.method = "GET" ∨ request.method = "HEAD"

instance (request : HttpRequest) : Decidable request.Reads :=
  inferInstanceAs (Decidable (_ ∨ _))

/-- A response with its headers. -/
structure HttpResponse where
  status : Nat
  contentType : Option String := none
  location : Option String := none
  allow : Option String := none
  requestId : Option String := none
  body : String := ""
  deriving DecidableEq, Repr

namespace HttpResponse

/-- A plain text. -/
def plain (status : Nat) (body : String) : HttpResponse :=
  { status, contentType := some ContentType.plain.text, body }

/-- The number of a status. -/
def statusNumber : Status → Nat
  | .ok => 200
  | .redirect => 303
  | .badRequest => 400
  | .notFound => 404
  | .internalError => 500

/-- Whether a header may hold a character: no control other than the tab. -/
def headerChar (c : Char) : Bool :=
  c = '\t' || (0x20 ≤ c.toNat && c.toNat ≠ 0x7F)

/-- A console's response as a message. A location that no header can hold is an error. -/
def ofResponse (response : Response) : HttpResponse :=
  if (response.location.getD "").toList.all headerChar then
    { status := statusNumber response.status
      contentType := some response.contentType.text
      location := response.location
      body := response.body }
  else plain 500 "failed to parse header value"

end HttpResponse

/-! ## Messages as text -/

/-- Reads a request line. Nothing is a request when it has no target. -/
def HttpRequest.ofLine? (line : String) : Option HttpRequest :=
  let words := (line.toList.splitOn ' ').filter (· ≠ [])
  match words with
  | [] => none
  | [target] => some { target := String.ofList target }
  | method :: target :: _ => some { method := String.ofList method, target := String.ofList target }

/-- A header line; nothing for a header that is not set. -/
def headerLine (name : String) : Option String → String
  | none => ""
  | some value => name ++ ": " ++ value ++ "\n"

/-- A response as text. -/
def HttpResponse.text (response : HttpResponse) : String :=
  "HTTP/1.1 " ++ String.ofList (Decimal.ofNat response.status) ++ "\n" ++
    headerLine "content-type" response.contentType ++
    headerLine "location" response.location ++
    headerLine "allow" response.allow ++
    headerLine "x-request-id" response.requestId ++
    "\n" ++ response.body ++ "\n"

end ObjectConsole.Server
