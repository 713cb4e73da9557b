import ObjectConsole.Console.Page
import ObjectConsole.Console.Response
import ObjectConsole.Console.Route
import ObjectConsole.Execution.Delegate
import ObjectConsole.Value.Description

/-!
# Handling requests

A request is handled in two halves. The first only reads: it finds the operation or field that is
asked for and coerces receiver and arguments, and every error that the request itself can have is
found there. The second runs the body by way of the delegate and shows the result, which is added to
the registry so that its page can be visited.

A rendered object may panic after its value was added. Then there is no response, and the panic is
the answer instead; the world is as the request left it.
-/

namespace ObjectConsole

/-- What stays the same from request to request. Identifiers come from a source that is asked for
them in order. -/
structure Console where
  catalog : Catalog
  rootType : String
  identifier : Nat → Uuid

/-- What requests change. `drawn` counts the identifiers taken from the source. -/
structure World where
  heap : Heap := ∅
  registry : Registry := ∅
  delegate : Delegate := .inline
  drawn : Nat := 0

/-- The circumstances of a request: the clock, the time since the start, and the thread that handles
it. -/
structure Moment where
  now : UInt64
  uptime : Nat
  thread : Thread

/-- A response, or the text of a panic in its place. -/
abbrev Reply := Except String Response

namespace World

/-- The next identifier. -/
def drawIdentifier (world : World) (console : Console) : Uuid × World :=
  (console.identifier world.drawn, { world with drawn := world.drawn + 1 })

/-- Adds a value to the registry under a new identifier. -/
def addValue (world : World) (console : Console) (now : UInt64) (v : Value) : Uuid × World :=
  let drawn := world.drawIdentifier console
  (drawn.1, { drawn.2 with registry := world.registry.add now drawn.1 v })

end World

/-- A body that is ready to run, and how the result page calls it. -/
structure Task where
  signature : String
  body : Body
  receiver : Option Value
  arguments : List Value

/-- The call of a task. -/
def Task.call (task : Task) : Call :=
  .body fun context heap ↦ task.body context task.receiver task.arguments heap

namespace Console

/-! ## Reading the request -/

/-- The type of a name. -/
def lookup (console : Console) (typeName : String) : Except RouteError TypeEntry :=
  (console.catalog.lookup? typeName).elim (.error (.unknownType typeName)) .ok

/-- The receiver of a member: none for a static one, whatever the request gives. -/
def receiver (registry : Registry) (isStatic : Bool) (text : Option String) (typeName : String) :
    Except RouteError (Option Value) :=
  if isStatic then .ok none
  else
    match Coercion.receiver registry text typeName with
    | .ok v => .ok (some v)
    | .error e => .error (.coercion e)

/-- The arguments of an operation, of which the first that does not fit decides. -/
def arguments (registry : Registry) (parameters : List Parameter) :
    Except RouteError (List Value) :=
  (parameters.mapM fun p ↦ Coercion.argument registry p.text p.type).mapError .coercion

/-- The task of a call. -/
def callTask (console : Console) (registry : Registry) (path query : String) :
    Except RouteError Task :=
  match Invocation.ofAddress path query with
  | .error e => .error (.malformed e)
  | .ok invocation =>
    match console.lookup invocation.targetType with
    | .error e => .error e
    | .ok entry =>
      match entry.findOperation? invocation.operation invocation.parameterTypes with
      | none => .error (.unknownOperation invocation.operation invocation.parameterTypes)
      | some operation =>
        match receiver registry operation.isStatic invocation.receiver invocation.targetType with
        | .error e => .error e
        | .ok this =>
          match arguments registry invocation.parameters with
          | .error e => .error e
          | .ok values => .ok ⟨operation.signature entry.name, operation.body, this, values⟩

/-- The type and the field that a path names, both nonempty. -/
def fieldTarget? (path : List Char) : Option (List Char × List Char) :=
  (Text.cut? '/' (Text.dropSlashes path)).filter fun parts ↦ parts.1 ≠ [] ∧ parts.2 ≠ []

/-- The task of reading a field. -/
def fieldTask (console : Console) (registry : Registry) (path : String)
    (receiverText : Option String) : Except RouteError Task :=
  match fieldTarget? path.toList with
  | none => .error (.malformed ⟨path, .noField⟩)
  | some (typeName, name) =>
    match console.lookup (String.ofList typeName) with
    | .error e => .error e
    | .ok entry =>
      match entry.findField? (String.ofList name) with
      | none => .error (.unknownField (String.ofList name))
      | some field =>
        match receiver registry field.isStatic receiverText (String.ofList typeName) with
        | .error e => .error e
        | .ok this => .ok ⟨field.signature entry.name, field.body, this, []⟩

/-! ## Answering it -/

/-- The reply to a verdict on a task. A value that is not null is added to the registry first, and
then shown with a link to it. -/
def showVerdict (console : Console) (moment : Moment) (signature : String) (verdict : Verdict)
    (world : World) : Reply × World :=
  match verdict with
  | .error (.unavailable why) => (.ok (RouteError.unavailable why).response, world)
  | .error (.raised failure) =>
    (.ok (.page (resultPage (failureLine signature failure) "")), world)
  | .ok v =>
    if v.isNull then
      ((v.render world.heap).map fun rendered ↦
        .page (resultPage (resultLine signature rendered) ""), world)
    else
      let added := world.addValue console moment.now v
      ((v.render world.heap).map fun rendered ↦
        .page (resultPage (resultLine signature rendered) (valueLink v (.ephemeral added.1))),
        added.2)

/-- Runs a task by way of the delegate and shows its verdict. -/
def perform (console : Console) (moment : Moment) (task : Task) (world : World) : Reply × World :=
  let run := world.delegate.call moment.thread moment.uptime task.call world.heap
  console.showVerdict moment task.signature run.1
    { world with delegate := run.2.1, heap := run.2.2 }

/-- The reply to a prepared task, or to the error in its place. -/
def performOrReject (console : Console) (moment : Moment) (task : Except RouteError Task)
    (world : World) : Reply × World :=
  match task with
  | .ok task => console.perform moment task world
  | .error e => (.ok e.response, world)

/-- The page of a type's members, in the catalog or built in. -/
def membersPage? (console : Console) (typeName : String) (receiver : Option String) :
    Option MembersPage :=
  match console.catalog.lookup? typeName with
  | some entry => some (.ofEntry entry receiver)
  | none => if typeName ∈ Value.builtinTypeNames then some (.bare typeName receiver) else none

/-- The response to a request for a type's members. -/
def members (console : Console) (typeName : String) (receiver : Option String) : Response :=
  match console.membersPage? typeName receiver with
  | some page => .page page.markup
  | none => (RouteError.unknownType typeName).response

/-- Names the value that a token refers to: the name in use and the registry with it. -/
def promote (registry : Registry) (token : String) (name : Option String) :
    Except RouteError (String × Registry) :=
  match Token.parseEphemeral token with
  | .error e => .error (.badToken e)
  | .ok id =>
    match name with
    | some name =>
      if name = "" then .error .emptyName
      else
        match registry.promote id name with
        | .ok registry => .ok (name, registry)
        | .error e => .error (.noSuchObject e)
    | none => (registry.promoteAuto id).mapError .noSuchObject

/-- The redirect to the page of the value that a token refers to. -/
def redirectTo (registry : Registry) (token : Token) : Response :=
  match registry.resolve token with
  | .ok v => .redirect (Address.ofValue v token)
  | .error e => (RouteError.noSuchObject e).response

/-- The response to a request for a name, and the registry after it. -/
def persist (registry : Registry) (token : String) (name : Option String) : Response × Registry :=
  match promote registry token name with
  | .error e => (e.response, registry)
  | .ok (name, promoted) => (redirectTo promoted (.persistent name), promoted)

/-- The response to a request for a value's page. -/
def resolve (registry : Registry) (token : String) : Response :=
  match Token.parse token with
  | .error e => (RouteError.badToken e).response
  | .ok token => redirectTo registry token

/-- The reply to what a request asks for, and the world after it. -/
def dispatch (console : Console) (moment : Moment) (route : Route) (world : World) :
    Reply × World :=
  match route with
  | .root => (.ok (.redirect (Address.ofType console.rootType)), world)
  | .members typeName receiver => (.ok (console.members typeName receiver), world)
  | .call path query =>
    console.performOrReject moment (console.callTask world.registry path query) world
  | .field path receiver =>
    console.performOrReject moment (console.fieldTask world.registry path receiver) world
  | .persist token name =>
    let persisted := persist world.registry token name
    (.ok persisted.1, { world with registry := persisted.2 })
  | .resolve token => (.ok (resolve world.registry token), world)
  | .unrouted path => (.ok (RouteError.unrouted path).response, world)

/-- The reply to a request, and the world after it. -/
def handle (console : Console) (moment : Moment) (path : String) (query : Option String)
    (world : World) : Reply × World :=
  console.dispatch moment (.ofAddress path query) world

/-- The description of a console over a registry. -/
def description (console : Console) (registry : Registry) : String :=
  "InvocationRouter \x7b root_type: " ++ Text.Quoted.text console.rootType ++ ", registry: " ++
    registry.description ++ ", .. \x7d"

end Console

end ObjectConsole
