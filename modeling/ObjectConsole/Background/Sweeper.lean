import ObjectConsole.Background.Worker
import ObjectConsole.Reference.Registry

/-!
# Workers at work

Of the runs that a worker may take, `settle` is the one in which it does all it can: the waiting
tasks, then the ticks that are due, then the end. The background work of a console is to sweep its
registry, at every tick and whenever it is asked to (`sweeper`). Stopping does nothing more. Another
worker only keeps a record of what it was given to do (`recorder`).
-/

namespace ObjectConsole.Background

/-! ## Runs -/

namespace Worker

variable {τ σ : Type}

/-- Runs the waiting tasks, at most `bound` of them. -/
def runWaiting (hooks : Hooks τ σ) : Nat → Worker τ → σ → Worker τ × σ
  | 0, worker, world => (worker, world)
  | bound + 1, worker, world =>
    match worker.runNext? hooks world with
    | some (worker, world) => runWaiting hooks bound worker world
    | none => (worker, world)

/-- Ticks as often as is due, at most `bound` times. -/
def catchUp (hooks : Hooks τ σ) (now : Nat) : Nat → Worker τ → σ → Worker τ × σ
  | 0, worker, world => (worker, world)
  | bound + 1, worker, world =>
    match worker.tick? hooks now world with
    | some (worker, world) => catchUp hooks now bound worker world
    | none => (worker, world)

/-- Does all that can be done at a time: the waiting tasks, the due ticks, and the end if it was
asked for. No more ticks are due than the intervals that have passed. -/
def settle (hooks : Hooks τ σ) (now : Nat) (worker : Worker τ) (world : σ) : Worker τ × σ :=
  let ran := worker.runWaiting hooks worker.waiting.length world
  let ticked := ran.1.catchUp hooks now ((now - worker.origin) / worker.interval) ran.2
  ((ticked.1.heed? hooks ticked.2).or (ticked.1.drain? hooks ticked.2)).getD ticked

end Worker

/-! ## Work -/

/-- The hooks that sweep a registry by a clock that shows `now`. -/
def sweeper (now : UInt64) : Hooks Unit Registry where
  run _ registry := some (registry.sweep now).2
  tick registry := some (registry.sweep now).2

/-- The hooks that write down what was done. Where ticks and the end are not of interest, only tasks
are recorded. A task called `panic` panics when everything is recorded. -/
def recorder (everything : Bool) : Hooks String (List String) where
  run task log := if everything ∧ task = "panic" then none else some (log ++ ["run:" ++ task])
  tick log := some (if everything then log ++ ["tick"] else log)
  shutdown log := some (if everything then log ++ ["shutdown"] else log)

end ObjectConsole.Background
