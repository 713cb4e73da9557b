import ObjectConsole.Console.Handle
import ObjectConsole.Server.Lifecycle
import ObjectConsole.Server.Message

/-!
# The server

The server answers three health routes itself and leaves every other path to the console. The
console is asked only by requests that read, and only while the server accepts them; such a request
holds a guard until it is answered, also when handling it panics, which is then the answer.
-/

namespace ObjectConsole.Server

open Text

/-- What requests change: the console's world, the server's life, and the number of console
requests given to the worker threads. -/
structure State where
  world : World := {}
  lifecycle : Lifecycle := {}
  jobs : Nat := 0

/-! ## Health routes -/

/-- A route that the server answers itself. -/
inductive HealthRoute where
  | report
  | liveness
  | readiness
  deriving DecidableEq, Repr

/-- The health route of a path. -/
def HealthRoute.ofPath? (path : String) : Option HealthRoute :=
  if path = "/health" then some .report
  else if path = "/health/live" then some .liveness
  else if path = "/health/ready" then some .readiness
  else none

/-- The report on a server: its state, its guards, its age in seconds and the sizes of its
registry. -/
def healthReport (state : State) (uptime : Nat) : String :=
  let number (n : Nat) := String.ofList (Decimal.ofNat n)
  "\x7b\"in_flight\":" ++ number state.lifecycle.inFlight ++
    ",\"objects\":\x7b\"ephemeral\":" ++ number state.world.registry.ephemeral.size ++
    ",\"persistent\":" ++ number state.world.registry.persistent.size ++
    "\x7d,\"state\":\"" ++ state.lifecycle.health.text ++
    "\",\"uptime_secs\":" ++ number (uptime / 1000) ++ "\x7d"

/-- The response on a health route. -/
def HealthRoute.respond (route : HealthRoute) (state : State) (uptime : Nat)
    (request : HttpRequest) : HttpResponse :=
  if request.Reads then
    match route with
    | report =>
      { status := 200, contentType := some "application/json", body := healthReport state uptime }
    | liveness => { status := 200 }
    | readiness => { status := if state.lifecycle.health = .ready then 200 else 503 }
  else { status := 405, allow := some "GET,HEAD" }

/-! ## Console requests -/

/-- The response to a reply; a panic is reported with the number of the job it happened in. -/
def respondToReply (job : Nat) : Reply → HttpResponse
  | .ok response => .ofResponse response
  | .error message =>
    .plain 500 ("console worker failed: task " ++ String.ofList (Decimal.ofNat job) ++
      " panicked with message " ++ Quoted.text message)

/-- Answers a request under a guard. -/
def runConsole (console : Console) (moment : Moment) (path : String) (query : Option String)
    (state : State) : HttpResponse × State :=
  let guarded := state.lifecycle.takeGuard
  let handled := console.handle moment path query state.world
  (respondToReply state.jobs handled.1,
    { world := handled.2, lifecycle := guarded.releaseGuard, jobs := state.jobs + 1 })

/-- Answers a request for the console, unless its method or the state of the server forbids it. -/
def askConsole (console : Console) (moment : Moment) (request : HttpRequest) (path : String)
    (query : Option String) (state : State) : HttpResponse × State :=
  if ¬ request.Reads then (.plain 405 "console accepts GET only", state)
  else if ¬ state.lifecycle.Accepting then (.plain 503 "server is shutting down", state)
  else runConsole console moment path query state

/-! ## All requests -/

/-- The response that goes out: under the identifier of its request, and without a body when only
the headers were asked for. -/
def finish (request : HttpRequest) (requestId : String) (response : HttpResponse) : HttpResponse :=
  { response with
    requestId := some requestId
    body := if request.method = "HEAD" then "" else response.body }

/-- The identifier of a request: its own, or a new one. -/
def requestIdentifier (console : Console) (request : HttpRequest) (state : State) :
    String × State :=
  match request.requestId with
  | some id => (id, state)
  | none =>
    let drawn := state.world.drawIdentifier console
    (drawn.1.text, { state with world := drawn.2 })

/-- Answers a request. -/
def answer (console : Console) (moment : Moment) (request : HttpRequest) (state : State) :
    HttpResponse × State :=
  let identified := requestIdentifier console request state
  let address := target request.target
  let answered :=
    match HealthRoute.ofPath? address.1 with
    | some route => (route.respond identified.2 moment.uptime request, identified.2)
    | none => askConsole console moment request address.1 address.2 identified.2
  (finish request identified.1 answered.1, answered.2)

/-- Takes in what was sent as a request. It is none, and is turned down before anything is done
about it, when its target cannot be one. -/
def receive (console : Console) (moment : Moment) (request : HttpRequest) (state : State) :
    Option (HttpResponse × State) :=
  if IsTarget request.target then some (answer console moment request state) else none

/-! ## From start to stop -/

/-- The panic of a server that is told to serve before it was started. -/
def notStarted : String := "start() must be called before serve()"

/-- Serves until the signal to stop, which has been given already, and drains. The guards that are
held stay held meanwhile. -/
def serve (started : Bool) (drainTimeout : Nat) (lifecycle : Lifecycle) :
    Except String Lifecycle :=
  if started then
    let draining := lifecycle.setReady.beginDraining
    .ok (draining.afterWait (Lifecycle.wait (fun _ ↦ draining.inFlight) drainTimeout))
  else .error notStarted

end ObjectConsole.Server
