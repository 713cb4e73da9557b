/-!
# The life of a server

A server starts, becomes ready, drains and stops. Requests are accepted in the first two states, and
each request that is being answered holds a guard. Draining waits for the guards: it looks at their
number every `pollInterval`, and gives up at the first look at or after the deadline that still
finds one. The number is looked at before the clock, so guards that are gone by then count as
drained however late it is.

Time enters as the number of guards at each instant from the start of the wait. Releases of guards
that are due at a time make such a schedule (`Timeline`).
-/

namespace ObjectConsole.Server

/-- How far a server is. -/
inductive Health where
  | starting
  | ready
  | draining
  | stopped
  deriving DecidableEq, Repr

/-- The name of a state. -/
def Health.text : Health → String
  | starting => "starting"
  | ready => "ready"
  | draining => "draining"
  | stopped => "stopped"

/-- The state of a server, and the number of guards on it. -/
structure Lifecycle where
  health : Health := .starting
  inFlight : Nat := 0
  deriving DecidableEq, Repr

namespace Lifecycle

/-- Whether requests are accepted. -/
def Accepting (lifecycle : Lifecycle) : Prop :=
  lifecycle.health = .starting ∨ lifecycle.health = .ready

instance (lifecycle : Lifecycle) : Decidable lifecycle.Accepting :=
  inferInstanceAs (Decidable (_ ∨ _))

/-- The server becomes ready. -/
def setReady (lifecycle : Lifecycle) : Lifecycle :=
  { lifecycle with health := .ready }

/-- The server begins to drain. -/
def beginDraining (lifecycle : Lifecycle) : Lifecycle :=
  { lifecycle with health := .draining }

/-- The server has stopped. -/
def stop (lifecycle : Lifecycle) : Lifecycle :=
  { lifecycle with health := .stopped }

/-- One more guard. -/
def takeGuard (lifecycle : Lifecycle) : Lifecycle :=
  { lifecycle with inFlight := lifecycle.inFlight + 1 }

/-- One guard less. -/
def releaseGuard (lifecycle : Lifecycle) : Lifecycle :=
  { lifecycle with inFlight := lifecycle.inFlight - 1 }

/-! ## Waiting for the guards -/

/-- The milliseconds between two looks at the number of guards. -/
def pollInterval : Nat := 10

/-- How a wait ended, and how long it took. -/
structure Wait where
  drained : Bool
  elapsed : Nat
  deriving DecidableEq, Repr

/-- Looks at the number of guards, `elapsed` milliseconds into a wait, and goes on until there are
none or the time is up. -/
def waitFrom (guards : Nat → Nat) (timeout elapsed : Nat) : Wait :=
  if guards elapsed = 0 then ⟨true, elapsed⟩
  else if timeout ≤ elapsed then ⟨false, elapsed⟩
  else waitFrom guards timeout (elapsed + pollInterval)
termination_by timeout - elapsed
decreasing_by simp only [pollInterval]; omega

/-- Waits for the guards. -/
def wait (guards : Nat → Nat) (timeout : Nat) : Wait :=
  waitFrom guards timeout 0

/-- The server after a wait: stopped if all guards were gone, and as before otherwise. -/
def afterWait (lifecycle : Lifecycle) (result : Wait) : Lifecycle :=
  if result.drained then lifecycle.stop else lifecycle

end Lifecycle

/-! ## Scheduled releases -/

/-- A server on a clock, with the times at which some of its guards will be released. -/
structure Timeline where
  lifecycle : Lifecycle := {}
  clock : Nat := 0
  releases : List Nat := []
  deriving DecidableEq, Repr

namespace Timeline

/-- The number of guards some time ahead, if nothing happens but the scheduled releases. A look at
the very instant of a release comes before it. -/
def guardsAhead (timeline : Timeline) (ahead : Nat) : Nat :=
  timeline.lifecycle.inFlight -
    (timeline.releases.filter (· < timeline.clock + ahead)).length

/-- Lets time pass. -/
def advance (timeline : Timeline) (ms : Nat) : Timeline where
  lifecycle := { timeline.lifecycle with inFlight := timeline.guardsAhead ms }
  clock := timeline.clock + ms
  releases := timeline.releases.filter (timeline.clock + ms ≤ ·)

/-- Schedules the release of one guard. -/
def scheduleRelease (timeline : Timeline) (ahead : Nat) : Timeline :=
  { timeline with releases := (timeline.clock + ahead) :: timeline.releases }

/-- Waits for the guards, which takes as long as it takes. -/
def waitForDrain (timeline : Timeline) (timeout : Nat) : Lifecycle.Wait × Timeline :=
  let result := Lifecycle.wait timeline.guardsAhead timeout
  let later := timeline.advance result.elapsed
  (result, { later with lifecycle := later.lifecycle.afterWait result })

end Timeline

end ObjectConsole.Server
