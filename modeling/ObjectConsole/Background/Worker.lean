/-!
# Background work

A worker runs submitted tasks in the order they came, calls a hook at regular times, and runs a last
hook when it ends. It is a machine of small steps. From outside, tasks are submitted (`submit`), and
to stop it, its loop is sent a signal and its queue is closed (`signal`, `close`). Inside, the loop
takes a branch that is ready: a waiting task (`runNext?`), a tick that is due (`tick?`), the signal
(`heed?`), or the end of the queue, which is found behind all that was waiting (`drain?`). Which one
is left open.

The `k`-th tick is due `k` intervals after the start, whenever the worker gets to it, so that late
ticks are caught up and none is lost. A worker whose hook panics is gone at once, as is one that was
given no interval at all.
-/

namespace ObjectConsole.Background

/-- What a worker does with tasks `τ` to a world `σ`. Each of the hooks may panic. -/
structure Hooks (τ σ : Type) where
  run : τ → σ → Option σ
  tick : σ → Option σ := some
  shutdown : σ → Option σ := some

/-- Where the worker's loop is. -/
inductive Loop where
  | running
  | finished
  | crashed
  deriving DecidableEq, Repr

/-- A worker: its interval and start, the ticks so far, the waiting tasks, and whether its loop was
signalled and its queue closed. -/
structure Worker (τ : Type) where
  interval : Nat
  origin : Nat
  ticks : Nat := 0
  waiting : List τ := []
  loop : Loop := .running
  signalled : Bool := false
  closed : Bool := false
  deriving DecidableEq, Repr

/-- How many tasks can wait. -/
def capacity : Nat := 256

/-- Why a task is not taken. -/
inductive Refusal where
  | closed
  | notRunning
  deriving DecidableEq, Repr

/-- The wording of a refusal. -/
def Refusal.message : Refusal → String
  | closed => "worker channel closed"
  | notRunning => "worker not running"

namespace Worker

variable {τ σ : Type}

/-! ## Steps -/

/-- A worker that starts at a time. -/
def start (interval now : Nat) : Worker τ :=
  { interval, origin := now, loop := if interval = 0 then .crashed else .running }

/-- Whether there is room for a task. A submission that is not refused waits for it. -/
def HasRoom (worker : Worker τ) : Prop :=
  worker.waiting.length < capacity

instance (worker : Worker τ) : Decidable worker.HasRoom :=
  inferInstanceAs (Decidable (_ < _))

/-- Submits a task. -/
def submit (worker : Worker τ) (task : τ) : Except Refusal (Worker τ) :=
  if worker.closed then .error .notRunning
  else
    match worker.loop with
    | .running => .ok { worker with waiting := worker.waiting ++ [task] }
    | .finished | .crashed => .error .closed

/-- Signals the loop to end. -/
def signal (worker : Worker τ) : Worker τ :=
  { worker with signalled := true }

/-- Closes the queue. -/
def close (worker : Worker τ) : Worker τ :=
  { worker with closed := true }

/-- Tells the worker to stop. -/
def requestStop (worker : Worker τ) : Worker τ :=
  worker.signal.close

/-- A worker whose loop is over for a reason. What was still waiting is gone. -/
def ended (worker : Worker τ) (loop : Loop) : Worker τ :=
  { worker with waiting := [], loop }

/-- Runs the oldest waiting task; nothing when there is none or the loop has ended. -/
def runNext? (hooks : Hooks τ σ) (worker : Worker τ) (world : σ) : Option (Worker τ × σ) :=
  match worker.loop, worker.waiting with
  | .running, task :: rest =>
    match hooks.run task world with
    | some world => some ({ worker with waiting := rest }, world)
    | none => some (worker.ended .crashed, world)
  | _, _ => none

/-- The time at which a tick is due, the first one being number zero. -/
def dueAt (worker : Worker τ) (number : Nat) : Nat :=
  worker.origin + (number + 1) * worker.interval

/-- Ticks once; nothing when no tick is due or the loop has ended. -/
def tick? (hooks : Hooks τ σ) (now : Nat) (worker : Worker τ) (world : σ) :
    Option (Worker τ × σ) :=
  if worker.loop = .running ∧ worker.dueAt worker.ticks ≤ now then
    match hooks.tick world with
    | some world => some ({ worker with ticks := worker.ticks + 1 }, world)
    | none => some (worker.ended .crashed, world)
  else none

/-- Ends the loop. -/
def finish (hooks : Hooks τ σ) (worker : Worker τ) (world : σ) : Worker τ × σ :=
  match hooks.shutdown world with
  | some world => (worker.ended .finished, world)
  | none => (worker.ended .crashed, world)

/-- Ends the loop because it was signalled to. -/
def heed? (hooks : Hooks τ σ) (worker : Worker τ) (world : σ) : Option (Worker τ × σ) :=
  if worker.loop = .running ∧ worker.signalled then some (worker.finish hooks world) else none

/-- Ends the loop because the queue is closed and nothing waits in it. -/
def drain? (hooks : Hooks τ σ) (worker : Worker τ) (world : σ) : Option (Worker τ × σ) :=
  if worker.loop = .running ∧ worker.closed ∧ worker.waiting = [] then
    some (worker.finish hooks world)
  else none

end Worker

end ObjectConsole.Background
