import ObjectConsole.Console.Invocation
import ObjectConsole.Execution.Call
import ObjectConsole.Reference.Coercion

/-!
# Responses

The console answers with a page, a redirect or a plain text. What can go wrong with a request is one
type, `RouteError`, and its status follows from the kind of error: malformed requests, things that
are not there, and an execution context that is gone. A failing operation is none of these. Its
failure is what the result page shows.
-/

namespace ObjectConsole

/-- The status of a response. -/
inductive Status where
  | ok
  | redirect
  | badRequest
  | notFound
  | internalError
  deriving DecidableEq, Repr

/-- The media type of a response. -/
inductive ContentType where
  | html
  | plain
  deriving DecidableEq, Repr

/-- The name of a media type. -/
def ContentType.text : ContentType → String
  | html => "text/html; charset=utf-8"
  | plain => "text/plain; charset=utf-8"

/-- A response. -/
structure Response where
  status : Status
  contentType : ContentType
  body : String
  location : Option String := none
  deriving DecidableEq, Repr

namespace Response

/-- A page. -/
def page (body : String) : Response :=
  ⟨.ok, .html, body, none⟩

/-- A redirect. -/
def redirect (location : String) : Response :=
  ⟨.redirect, .plain, "", some location⟩

/-- A plain text. -/
def plain (status : Status) (body : String) : Response :=
  ⟨status, .plain, body, none⟩

end Response

/-- Why a request gets neither page nor redirect. -/
inductive RouteError where
  | malformed (error : MalformedPath)
  | badToken (error : Token.Malformed)
  | unknownType (typeName : String)
  | unknownOperation (name : String) (parameters : List String)
  | unknownField (name : String)
  | emptyName
  | coercion (error : Coercion.Error)
  | noSuchObject (error : NoSuchObject)
  | unavailable (why : Unavailable)
  | unrouted (path : String)
  deriving DecidableEq, Repr

namespace RouteError

/-- The wording of an error. -/
def message : RouteError → String
  | malformed error => error.message
  | badToken error => error.message
  | unknownType typeName => "unknown type: " ++ typeName
  | unknownOperation name parameters =>
    "no operation " ++ name ++ " matching parameter types (" ++ ", ".intercalate parameters ++ ")"
  | unknownField name => "no field " ++ name
  | emptyName => "persistent name must not be empty"
  | coercion error => error.message
  | noSuchObject error => error.message
  | unavailable why => (DelegationError.unavailable why).message
  | unrouted path => "not found: " ++ path

/-- The status of an error. -/
def status : RouteError → Status
  | malformed _ | badToken _ | emptyName | coercion (.valueFormat ..) => .badRequest
  | unknownType _ | unknownOperation .. | unknownField _ | coercion (.noSuchObject _)
  | noSuchObject _ | unrouted _ => .notFound
  | unavailable _ => .internalError

/-- The response to an error. -/
def response (error : RouteError) : Response :=
  .plain error.status error.message

end RouteError

end ObjectConsole
