import ObjectConsole.Proofs.Console.Effect
import ObjectConsole.Proofs.Execution.Meeting
import ObjectConsole.Proofs.Operation.Catalog

/-!
# The choice of a delegate does not show

A console over a queue answers like one that runs everything in place, provided that no body asks
which thread it is on. The two differ in their delegates only, and the proof goes through one
request at a time: `World.over` puts a world over a delegate, and a request takes two worlds that
agree apart from the delegate to two such worlds, with the same reply. What carries this from
request to request is that a queue that was ready for calls is ready again after an exchange
(`Delegate.Ready`), whatever the outcome was.

A queue that is gone refuses the call, and the refusal is all that can be seen of it. It comes last,
so every error that a request has by itself is reported as before.
-/

namespace ObjectConsole

open Execution

/-! ## Queues that are ready -/

namespace Execution.Affinity

variable {γ ρ σ : Type}

/-- A queue that takes calls and has none waiting. -/
def Ready (affinity : Affinity γ ρ) : Prop :=
  affinity.gate = .accepting ∧ affinity.waiting = []

theorem Ready.fulfil {affinity : Affinity γ ρ} (h : affinity.Ready) (number : Nat) (outcome : ρ) :
    (affinity.fulfil number outcome).Ready := by
  rw [fulfil_eq_change]
  simpa [Ready] using h

theorem Ready.runAll {affinity : Affinity γ ρ} (h : affinity.Ready) (run : γ → σ → ρ × σ)
    (jobs : List (Nat × γ)) (world : σ) : (runAll run jobs affinity world).1.Ready := by
  induction jobs generalizing affinity world with
  | nil => exact h
  | cons job jobs ih => exact ih (h.fulfil _ _) _

theorem Ready.of_collect? {affinity collected : Affinity γ ρ} (h : affinity.Ready) {number : Nat}
    {outcome : Option ρ} (hcollect : affinity.collect? number = some (outcome, collected)) :
    collected.Ready := by
  obtain ⟨rendezvous, acquired, -, -, -, rfl⟩ := exists_of_collect?_eq_some hcollect
  simpa [Ready] using h

end Execution.Affinity

namespace Delegate

/-- A designated thread at a queue that is ready for calls. -/
def Ready (delegate : Delegate) : Prop :=
  ∃ thread queue, delegate = designated thread queue ∧ queue.Ready

theorem ready_driven (thread : Thread) : (driven thread).Ready :=
  ⟨thread, _, rfl, rfl, rfl⟩

/-- A call whose run does not depend on the thread ends as in place, and leaves the queue ready. -/
theorem exists_call_eq_of_ready {delegate : Delegate} (h : delegate.Ready) (caller : Thread)
    (uptime : Nat) (work : Call) (heap : Heap)
    (hwork : ∀ name name' : Option String,
      work.runGuarded ⟨name, uptime⟩ heap = work.runGuarded ⟨name', uptime⟩ heap) :
    ∃ after, after.Ready ∧ delegate.call caller uptime work heap =
      ((inline.call caller uptime work heap).1, after,
        (inline.call caller uptime work heap).2.2) := by
  obtain ⟨thread, queue, rfl, hready⟩ := h
  rw [call, call]
  by_cases hplace : queue.RunsInPlace caller
  · rw [if_pos hplace]
    exact ⟨_, ⟨thread, queue, rfl, hready⟩, rfl⟩
  · obtain ⟨after, hafter, -, hexchange⟩ :=
      exchange_of_accepting hready.1 thread uptime work heap
    -- nobody waits in front, so the call meets the heap as it is
    have hheap : (queue.runPending thread (Call.runGuarded (context thread uptime)) heap).2.2 =
        heap := by
      rw [Affinity.runPending, hready.2, Affinity.runAll]
    have hresult : work.runGuarded (context thread uptime) heap =
        work.runGuarded (context caller uptime) heap := hwork _ _
    rw [if_neg hplace, hexchange, hheap, hresult]
    exact ⟨_, ⟨thread, after, rfl, .of_collect? (.runAll ⟨rfl, rfl⟩ _ _ _) hafter⟩, rfl⟩

/-- A delegate that refuses the calls of a thread because its queue is gone. -/
def Gone (delegate : Delegate) (caller : Thread) : Prop :=
  ∃ thread queue, delegate = designated thread queue ∧ queue.gate = .dropped ∧
    ¬queue.RunsInPlace caller

theorem gone_gone (thread caller : Thread) : (gone thread).Gone caller :=
  ⟨thread, _, rfl, rfl, nofun⟩

theorem call_eq_of_gone {delegate : Delegate} {caller : Thread} (h : delegate.Gone caller)
    (uptime : Nat) (work : Call) (heap : Heap) :
    delegate.call caller uptime work heap = (.error (.unavailable .shutDown), delegate, heap) := by
  obtain ⟨thread, queue, rfl, hgate, hplace⟩ := h
  have hrefuses : queue.gate ≠ .accepting := by
    rw [hgate]
    exact nofun
  rw [call, if_neg hplace, exchange_of_not_accepting hrefuses]

theorem arrival?_eq_none_of_gone {delegate : Delegate} {caller : Thread} (h : delegate.Gone caller)
    (uptime : Nat) (heap : Heap) : delegate.arrival? caller uptime heap = none := by
  obtain ⟨thread, queue, rfl, hgate, hplace⟩ := h
  rw [arrival?, if_neg hplace, hgate, if_neg (by decide)]

end Delegate

/-! ## Bodies that do not ask for the thread -/

/-- A body that does not observe which thread it runs on. -/
def Body.IgnoresThread (body : Body) : Prop :=
  ∀ (name name' : Option String) uptime receiver arguments heap,
    body ⟨name, uptime⟩ receiver arguments heap = body ⟨name', uptime⟩ receiver arguments heap

/-- A catalog of such bodies. -/
def Catalog.IgnoresThread (catalog : Catalog) : Prop :=
  ∀ entry ∈ catalog.entries, (∀ operation ∈ entry.operations, operation.body.IgnoresThread) ∧
    ∀ field ∈ entry.fields, field.body.IgnoresThread

theorem Task.runGuarded_call {task : Task} (h : task.body.IgnoresThread)
    (name name' : Option String) (uptime : Nat) (heap : Heap) :
    task.call.runGuarded ⟨name, uptime⟩ heap = task.call.runGuarded ⟨name', uptime⟩ heap := by
  rw [Call.runGuarded, Call.runGuarded, call, Call.run, Call.run, h name name']

namespace Console

variable {console : Console} {registry : Registry} {task : Task}

theorem ignoresThread_of_task? (hcatalog : console.catalog.IgnoresThread) {route : Route}
    (h : console.task? registry route = some (.ok task)) : task.body.IgnoresThread := by
  cases route with
  | call path query =>
    obtain ⟨typeName, name, entry, operation, this, values, -, hlookup, hfind, -, -, rfl⟩ :=
      exists_of_callTask (Option.some.inj h)
    exact (hcatalog entry (Catalog.mem_of_lookup? hlookup)).1 operation
      (List.mem_of_find?_eq_some hfind)
  | field path receiver =>
    obtain ⟨typeName, name, entry, field, this, -, hlookup, hfind, -, rfl⟩ :=
      exists_of_fieldTask (Option.some.inj h)
    exact (hcatalog entry (Catalog.mem_of_lookup? hlookup)).2 field
      (List.mem_of_find?_eq_some hfind)
  | _ => cases h

end Console

/-! ## Errors of the request itself -/

theorem RouteError.status_eq_of_ne_unavailable {error : RouteError}
    (h : ∀ why, error ≠ .unavailable why) :
    error.status = .badRequest ∨ error.status = .notFound := by
  cases error with
  | unavailable why => exact absurd rfl (h why)
  | coercion error => cases error <;> simp [status]
  | _ => simp [status]

namespace Console

variable {console : Console} {registry : Registry} {error : RouteError}

theorem ne_unavailable_of_receiver {isStatic : Bool} {text : Option String} {typeName : String}
    (h : receiver registry isStatic text typeName = .error error) (why : Unavailable) :
    error ≠ .unavailable why := by
  rw [receiver] at h
  split at h
  · cases h
  · split at h <;> cases h
    exact nofun

theorem ne_unavailable_of_arguments {parameters : List Parameter}
    (h : arguments registry parameters = .error error) (why : Unavailable) :
    error ≠ .unavailable why := by
  rw [arguments] at h
  cases hvalues : parameters.mapM fun p ↦ Coercion.argument registry p.text p.type <;>
    rw [hvalues] at h <;> cases h
  exact nofun

theorem ne_unavailable_of_lookup {typeName : String}
    (h : console.lookup typeName = .error error) (why : Unavailable) :
    error ≠ .unavailable why := by
  rw [lookup] at h
  cases hlookup : console.catalog.lookup? typeName <;> rw [hlookup] at h <;> cases h
  exact RouteError.noConfusion

/-- No request finds out that a delegate is unavailable before it is there. -/
theorem ne_unavailable_of_task? {route : Route}
    (h : console.task? registry route = some (.error error)) (why : Unavailable) :
    error ≠ .unavailable why := by
  cases route with
  | call path query =>
    have h : console.callTask registry path query = .error error := Option.some.inj h
    unfold callTask at h
    split at h
    · cases h; exact nofun
    · split at h
      · next hlookup => cases h; exact ne_unavailable_of_lookup hlookup why
      · split at h
        · cases h; exact nofun
        · split at h
          · next hreceiver => cases h; exact ne_unavailable_of_receiver hreceiver why
          · split at h <;> cases h
            next harguments => exact ne_unavailable_of_arguments harguments why
  | field path receiver =>
    have h : console.fieldTask registry path receiver = .error error := Option.some.inj h
    unfold fieldTask at h
    split at h
    · cases h; exact nofun
    · split at h
      · next hlookup => cases h; exact ne_unavailable_of_lookup hlookup why
      · split at h
        · cases h; exact nofun
        · split at h <;> cases h
          next hreceiver => exact ne_unavailable_of_receiver hreceiver why
  | _ => cases h

end Console

/-! ## One request -/

/-- A world over another delegate. -/
def World.over (world : World) (delegate : Delegate) : World :=
  { world with delegate := delegate }

namespace Console

variable {console : Console} {moment : Moment} {route : Route} {world : World}

/-- What is shown of a verdict does not depend on the delegate. -/
theorem showVerdict_over (console : Console) (moment : Moment) (signature : String)
    (verdict : Verdict) (world : World) (delegate : Delegate) :
    console.showVerdict moment signature verdict (world.over delegate) =
      ((console.showVerdict moment signature verdict world).1,
        (console.showVerdict moment signature verdict world).2.over delegate) := by
  cases verdict with
  | error error => cases error <;> rfl
  | ok v =>
    rw [showVerdict, showVerdict]
    by_cases hv : v.isNull
    · rw [if_pos hv, if_pos hv]
      rfl
    · rw [if_neg hv, if_neg hv]
      rfl

/-- What runs no body is answered without the delegate. -/
theorem dispatch_over (moment : Moment) (delegate : Delegate)
    (h : ∀ task, console.task? world.registry route ≠ some (.ok task)) :
    console.dispatch moment route (world.over delegate) =
      ((console.dispatch moment route world).1,
        (console.dispatch moment route world).2.over delegate) := by
  cases htask : console.task? world.registry route with
  | some prepared =>
    cases prepared with
    | ok task => exact absurd htask (h task)
    | error error =>
      rw [console.dispatch_of_task? moment world htask,
        console.dispatch_of_task? moment (world.over delegate) htask]
      rfl
  | none =>
    cases route with
    | call path query => cases htask
    | field path receiver => cases htask
    | _ => rfl

/-- **A request over a queue that is ready ends as in place**, and leaves the queue ready. -/
theorem exists_dispatch_of_ready (hcatalog : console.catalog.IgnoresThread) {delegate : Delegate}
    (h : delegate.Ready) (moment : Moment) (route : Route) (world : World) :
    ∃ (reply : Reply) (core : World) (after : Delegate), after.Ready ∧
      console.dispatch moment route (world.over .inline) = (reply, core.over .inline) ∧
      console.dispatch moment route (world.over delegate) = (reply, core.over after) := by
  by_cases htask : ∃ task, console.task? world.registry route = some (.ok task)
  · obtain ⟨task, htask⟩ := htask
    have hperform (other : Delegate) : console.dispatch moment route (world.over other) =
        console.perform moment task (world.over other) :=
      console.dispatch_of_task? moment (world.over other) htask
    obtain ⟨after, hafter, hcall⟩ := Delegate.exists_call_eq_of_ready h moment.thread moment.uptime
      task.call world.heap fun name name' ↦
        Task.runGuarded_call (ignoresThread_of_task? hcatalog htask) name name' _ _
    let run := Delegate.inline.call moment.thread moment.uptime task.call world.heap
    let ran : World := { world with heap := run.2.2 }
    let shown := console.showVerdict moment task.signature run.1 ran
    refine ⟨shown.1, shown.2, after, hafter, ?_, ?_⟩
    · rw [hperform]
      exact console.showVerdict_over moment task.signature run.1 ran .inline
    · rw [hperform, perform]
      simp only [World.over, hcall]
      exact console.showVerdict_over moment task.signature run.1 ran after
  · push Not at htask
    exact ⟨_, _, delegate, h, dispatch_over moment .inline htask, dispatch_over moment _ htask⟩

theorem dispatch_of_gone {delegate : Delegate} (h : delegate.Gone moment.thread) {task : Task}
    (htask : console.task? world.registry route = some (.ok task)) :
    console.dispatch moment route (world.over delegate) =
      (.ok (RouteError.unavailable .shutDown).response, world.over delegate) := by
  have hperform : console.dispatch moment route (world.over delegate) =
      console.perform moment task (world.over delegate) :=
    console.dispatch_of_task? moment (world.over delegate) htask
  rw [hperform, perform]
  simp only [World.over, Delegate.call_eq_of_gone h, showVerdict]

end Console

/-! ## Requests one after another -/

/-- A request, with the circumstances under which it is handled. -/
structure Request where
  moment : Moment
  path : String
  query : Option String

namespace Console

/-- What is seen of requests that are handled one after another: each reply, and the registry and
the heap after it. -/
def transcript (console : Console) : List Request → World → List (Reply × Registry × Heap)
  | [], _ => []
  | request :: rest, world =>
    let handled := console.handle request.moment request.path request.query world
    (handled.1, handled.2.registry, handled.2.heap) :: console.transcript rest handled.2

theorem transcript_of_ready {console : Console} (hcatalog : console.catalog.IgnoresThread)
    {delegate : Delegate} (h : delegate.Ready) (requests : List Request) (world : World) :
    console.transcript requests (world.over delegate) =
      console.transcript requests (world.over .inline) := by
  induction requests generalizing delegate world with
  | nil => rfl
  | cons request rest ih =>
    obtain ⟨reply, core, after, hafter, hinline, hready⟩ := exists_dispatch_of_ready hcatalog h
      request.moment (.ofAddress request.path request.query) world
    simp only [transcript, handle, hinline, hready, ih hafter core]
    rfl

/-- **The choice of a delegate does not change answers.** Over a queue that is ready for calls any
requests are answered as in place, with the same registry and heap after each, if no body observes
the thread. Over a queue that is gone

* a request that would run a body in place is refused and runs none, and the world stays as it was;
* a request that has an error by itself is answered with that error;
* every other request, too, is answered as in place, and has the same effect. -/
theorem delegate_choice (console : Console) :
    (console.catalog.IgnoresThread → ∀ delegate : Delegate, delegate.Ready →
      ∀ (requests : List Request) (world : World),
      console.transcript requests (world.over delegate) =
        console.transcript requests (world.over .inline)) ∧
    ∀ (delegate : Delegate) (moment : Moment), delegate.Gone moment.thread →
      ∀ (path : String) (query : Option String) (world : World),
      (∀ task, console.task? world.registry (.ofAddress path query) = some (.ok task) →
        (task.outcome? moment (world.over .inline)).isSome ∧
        task.outcome? moment (world.over delegate) = none ∧
        ∃ response : Response, response.status = .internalError ∧
          console.handle moment path query (world.over delegate) =
            (.ok response, world.over delegate)) ∧
      (∀ error, console.task? world.registry (.ofAddress path query) = some (.error error) →
        (error.status = .badRequest ∨ error.status = .notFound) ∧
        console.handle moment path query (world.over delegate) =
          (.ok error.response, world.over delegate)) ∧
      ((∀ task, console.task? world.registry (.ofAddress path query) ≠ some (.ok task)) →
        console.handle moment path query (world.over delegate) =
          ((console.handle moment path query (world.over .inline)).1,
            (console.handle moment path query (world.over .inline)).2.over delegate)) := by
  refine ⟨fun hcatalog delegate h ↦ transcript_of_ready hcatalog h,
    fun delegate moment h path query world ↦ ⟨fun task htask ↦ ?_, fun error herror ↦ ?_,
      fun hnone ↦ ?_⟩⟩
  · refine ⟨rfl, ?_, _, rfl, dispatch_of_gone h htask⟩
    rw [Task.outcome?]
    simp only [World.over, Delegate.arrival?_eq_none_of_gone h, Option.map_none]
  · exact ⟨RouteError.status_eq_of_ne_unavailable (ne_unavailable_of_task? herror),
      console.dispatch_of_task? moment (world.over delegate) herror⟩
  · exact @dispatch_over console _ (world.over .inline) moment delegate hnone

/-- An operation that returns the same value wherever it runs. -/
theorem ignoresThread_returning (v : Value) : (returning v).catalog.IgnoresThread := by
  intro entry hentry
  obtain rfl := List.mem_singleton.mp hentry
  refine ⟨fun operation hoperation ↦ ?_, nofun⟩
  obtain rfl := List.mem_singleton.mp hoperation
  exact fun _ _ _ _ _ _ ↦ rfl

/-- Two calls that both end in the panic of a display, each after its value was added. -/
theorem delegate_choice_returning_panics :
    let console := returning (.object (.foreign "T" (.panics "x")))
    let call : Request := ⟨⟨5, 0, ⟨0, none⟩⟩, "/T/f", some "call"⟩
    let driven : World := { delegate := .driven ⟨1, some "main"⟩ }
    let gone : World := { delegate := .gone ⟨1, some "main"⟩ }
    console.transcript [call, call] driven = console.transcript [call, call] {} ∧
      (console.transcript [call, call] {}).map
        (fun seen ↦ (seen.1.isOk, seen.2.1.ephemeral.size)) = [(false, 1), (false, 2)] ∧
      ∃ response : Response, response.status = .internalError ∧
        console.handle call.moment call.path call.query gone = (.ok response, gone) := by
  intro console call driven gone
  obtain ⟨hready, hgone⟩ := delegate_choice console
  obtain ⟨task, htask⟩ : ∃ task, console.task? ({} : World).registry
      (.ofAddress "/T/f" (some "call")) = some (.ok task) :=
    ⟨⟨_, _, none, []⟩, rfl⟩
  have hcatalog : console.catalog.IgnoresThread := ignoresThread_returning _
  refine ⟨hready hcatalog _ (Delegate.ready_driven _) [call, call] {}, by decide, ?_⟩
  obtain ⟨hrefused, -, -⟩ := hgone _ call.moment (Delegate.gone_gone ⟨1, some "main"⟩ _) call.path
    call.query {}
  exact (hrefused task htask).2.2

end Console

end ObjectConsole
