import ObjectConsole.Proofs.Console.CounterRequests
import ObjectConsole.Proofs.Recorded
import Mathlib.Algebra.BigOperators.Group.List.Basic
import Mathlib.Algebra.Ring.Int.Defs

/-!
# The totals of counters

A run of requests is put on record with the registry that each request met, since the registry says
which counter a token stands for at that time. Between requests anything may be done to the
registry: values are added and swept, names are given and come to stand for other counters. What a
request added to a counter is read off the record (`Exchange.amount?`), and tokens no longer matter
from there on.

The total of a counter is the number it began with and the sum of all that was added to it
(`Console.get?_of_recorded`). Additions go around the ends of the range one by one, and this is the
same as once at the end (`Word.wrap_add`); so only the sum matters, and not the order in which it
came about.
-/

namespace ObjectConsole

open Number Store

/-! ## What is on record -/

/-- A request and its reply, with the registry that said at the time what the request was about. -/
structure Exchange where
  registry : Registry
  route : Route
  reply : Reply

namespace Exchange

/-- The request was answered by a page. -/
def Succeeded (exchange : Exchange) : Prop :=
  exchange.reply.toOption.map Response.status = some .ok

instance (exchange : Exchange) : Decidable exchange.Succeeded :=
  inferInstanceAs (Decidable (_ = _))

theorem succeeded_of_showsInt {exchange : Exchange} {response : Response} {n : Word .w32}
    (hreply : exchange.reply = .ok response) (h : response.ShowsInt n) : exchange.Succeeded := by
  obtain ⟨signature, id, rfl⟩ := h
  rw [Succeeded, hreply]
  rfl

theorem not_succeeded_of_refused {exchange : Exchange}
    (h : exchange.reply = .ok (RouteError.unavailable .shutDown).response) :
    ¬exchange.Succeeded := by
  rw [Succeeded, h]
  decide

/-- What the request asked of which counter. -/
def asked? (exchange : Exchange) : Option (CounterRef × Demo.Action) :=
  Demo.asked? exchange.registry exchange.route

/-- What the request added to a counter. -/
def amount? (counter : CounterRef) (exchange : Exchange) : Option (Word .w32) :=
  match exchange.asked? with
  | some (asked, .add amount) =>
    if asked = counter ∧ exchange.Succeeded then some amount else none
  | _ => none

/-- What the requests on record added to a counter, in order. -/
def amounts (counter : CounterRef) (past : List Exchange) : List (Word .w32) :=
  past.filterMap (amount? counter)

/-- The sum of all that the requests on record added to a counter. -/
def sum (counter : CounterRef) (past : List Exchange) : Int :=
  ((amounts counter past).map Word.val).sum

variable {counter : CounterRef} {past past' : List Exchange}

theorem sum_singleton (counter : CounterRef) (exchange : Exchange) :
    sum counter [exchange] =
      match exchange.asked? with
      | some (asked, action) =>
        if asked = counter ∧ exchange.Succeeded then action.amount else 0
      | none => 0 := by
  rw [sum, amounts, List.filterMap_cons, amount?]
  rcases exchange.asked? with _ | ⟨asked, delta | _⟩
  · rfl
  · dsimp only
    split_ifs
    · exact Int.add_zero _
    · rfl
  · dsimp only [Demo.Action.amount]
    split_ifs <;> rfl

theorem sum_nil (counter : CounterRef) : sum counter [] = 0 := rfl

theorem sum_append (past past' : List Exchange) :
    sum counter (past ++ past') = sum counter past + sum counter past' := by
  simp only [sum, amounts, List.filterMap_append, List.map_append, List.sum_append]

theorem sum_eq_of_perm (h : (amounts counter past).Perm (amounts counter past')) :
    sum counter past = sum counter past' :=
  (h.map Word.val).sum_eq

end Exchange

namespace Console

open Demo

variable {console : Console} {world world' : World} {counter : CounterRef} {total : Word .w32}

variable (console) in
/-- One thing that happens to a world with counters in it, and what is recorded of it. Requests are.
What else is done to the registry never touches the heap, and what is done elsewhere leaves every
counter as it is. -/
inductive Answers (world : World) : List Exchange → World → Prop
  | request (moment : Moment) (path : String) (query : Option String) {reply : Reply}
      {world' : World} (h : console.handle moment path query world = (reply, world')) :
      Answers world [⟨world.registry, .ofAddress path query, reply⟩] world'
  | registry (registry : Registry) (drawn : Nat) :
      Answers world [] { world with registry := registry, drawn := drawn }
  | elsewhere (heap : Heap) (delegate : Delegate) (hheap : world.heap.KeepsCounters heap)
      (hdelegate : delegate.KeepsCounters) :
      Answers world [] { world with heap := heap, delegate := delegate }

namespace Answers

variable {new : List Exchange} {exchange : Exchange} {action : Action}

/-- A request about a counter shows what the counter then holds, unless it is refused. -/
theorem shows (hcatalog : console.catalog = Demo.catalog)
    (h : console.Answers world [exchange] world') (hdelegate : world.delegate.KeepsCounters)
    (hget : world.heap.counters.get? counter.cell = some total)
    (hasked : exchange.asked? = some (counter, action)) :
    (exchange.Succeeded ∧ ∃ response, exchange.reply = .ok response ∧
      response.ShowsInt (Word.wrap .w32 (total.val + action.amount))) ∨
    (¬exchange.Succeeded ∧
      exchange.reply = .ok (RouteError.unavailable .shutDown).response) := by
  cases h with
  | request moment path query h =>
    rcases handle_of_asked? hcatalog hdelegate hasked h with ⟨rfl, -⟩ |
      ⟨before, response, hbefore, rfl, hshows, -⟩
    · exact .inr ⟨Exchange.not_succeeded_of_refused rfl, rfl⟩
    · rw [(Action.run_of_get? (hbefore _ _ hget)).1] at hshows
      exact .inl ⟨Exchange.succeeded_of_showsInt rfl hshows, response, rfl, hshows⟩

theorem keepsCounters_delegate (h : console.Answers world new world')
    (hdelegate : world.delegate.KeepsCounters) : world'.delegate.KeepsCounters := by
  cases h with
  | request moment path query h => exact keepsCounters_delegate_handle hdelegate h
  | registry registry drawn => exact hdelegate
  | elsewhere heap delegate hheap hdelegate' => exact hdelegate'

/-- A step adds to a counter what the request on record added to it. -/
theorem get?_eq (hcatalog : console.catalog = Demo.catalog)
    (h : console.Answers world new world') (hdelegate : world.delegate.KeepsCounters)
    (hget : world.heap.counters.get? counter.cell = some total) :
    world'.heap.counters.get? counter.cell =
      some (Word.wrap .w32 (total.val + Exchange.sum counter new)) := by
  cases h with
  | registry registry drawn => rwa [Exchange.sum_nil, Word.wrap_val_add_zero]
  | elsewhere heap delegate hheap hdelegate' =>
    rw [Exchange.sum_nil, Word.wrap_val_add_zero]
    exact hheap _ _ hget
  | @request moment path query reply _ h =>
    rw [Exchange.sum_singleton]
    cases hasked : Demo.asked? world.registry (.ofAddress path query) with
    | none =>
      rw [Exchange.asked?, hasked, Word.wrap_val_add_zero]
      exact keepsCounters_handle hcatalog hdelegate hasked h _ _ hget
    | some pair =>
      obtain ⟨asked, action⟩ := pair
      rw [Exchange.asked?, hasked]
      dsimp only
      rcases handle_of_asked? hcatalog hdelegate hasked h with ⟨rfl, hheap⟩ |
        ⟨before, response, hbefore, rfl, hshows, hheap⟩
      · rw [if_neg (fun hboth ↦ Exchange.not_succeeded_of_refused rfl hboth.2),
          Word.wrap_val_add_zero, hheap]
        exact hget
      · rw [hheap]
        by_cases hcounter : asked = counter
        · obtain rfl := hcounter
          rw [if_pos ⟨rfl, Exchange.succeeded_of_showsInt rfl hshows⟩]
          exact (Action.run_of_get? (hbefore _ _ hget)).2
        -- what is done to another counter is nothing to this one
        · rw [if_neg (fun hboth ↦ hcounter hboth.1), Word.wrap_val_add_zero,
            Action.get?_run_of_ne (Ne.symm hcounter)]
          exact hbefore _ _ hget

theorem eq_nil_or (h : console.Answers world new world') :
    new = [] ∨ ∃ exchange, new = [exchange] := by
  cases h with
  | request moment path query h => exact .inr ⟨_, rfl⟩
  | registry registry drawn => exact .inl rfl
  | elsewhere heap delegate hheap hdelegate => exact .inl rfl

end Answers

/-- A reply that shows no value stands for a request that left every counter as it was: whatever was
wrong with a request, no amount of it is counted. -/
theorem keepsCounters_of_not_links {moment : Moment} {path : String} {query : Option String}
    {reply : Reply} (hcatalog : console.catalog = Demo.catalog)
    (hdelegate : world.delegate.KeepsCounters)
    (h : console.handle moment path query world = (reply, world'))
    (hfailed : ∀ response v id, reply = .ok response → ¬response.Links v id) :
    world.heap.KeepsCounters world'.heap := by
  cases hasked : Demo.asked? world.registry (.ofAddress path query) with
  | none => exact keepsCounters_handle hcatalog hdelegate hasked h
  | some pair =>
    rcases handle_of_asked? hcatalog hdelegate hasked h with ⟨-, hheap⟩ |
      ⟨before, response, -, hreply, ⟨signature, id, hpage⟩, -⟩
    · rw [hheap]
      exact .refl _
    · exact absurd ⟨_, hpage⟩ (hfailed response _ id hreply)

/-! ## Runs -/

variable {start : World} {past : List Exchange}

theorem keepsCounters_delegate_of_recorded (h : Recorded console.Answers start past world)
    (hdelegate : start.delegate.KeepsCounters) : world.delegate.KeepsCounters := by
  induction h with
  | refl => exact hdelegate
  | step _ hstep ih => exact hstep.keepsCounters_delegate ih

/-- A counter holds what it held at the start and all that was added to it, reduced to a word. -/
theorem get?_of_recorded (hcatalog : console.catalog = Demo.catalog)
    (h : Recorded console.Answers start past world) (hdelegate : start.delegate.KeepsCounters)
    (hget : start.heap.counters.get? counter.cell = some total) :
    world.heap.counters.get? counter.cell =
      some (Word.wrap .w32 (total.val + Exchange.sum counter past)) := by
  induction h with
  | refl => rwa [Exchange.sum_nil, Word.wrap_val_add_zero]
  | step hrun hstep ih =>
    rw [hstep.get?_eq hcatalog (keepsCounters_delegate_of_recorded hrun hdelegate) ih,
      Word.wrap_add, Exchange.sum_append, Int.add_assoc]

/-- **Counters add up.** Over the demonstration catalog:

* a request for a new counter is refused, because the console has shut down, or it makes one that
  was not there before; the counter holds the number that was asked for, and the page links to it;
* a request whose reply shows no value leaves every counter as it was;
* in any run, a counter holds what it held at the start and the sum of all that was added to it,
  reduced to a word, and this is what each request about it shows, whichever token it used; a
  request about a counter that does not succeed was refused because the console has shut down;
* runs that add the same amounts in different orders leave the counter with the same total. -/
theorem counters_add_up (hcatalog : console.catalog = Demo.catalog) :
    (∀ moment path query world reply world' n, world.delegate.KeepsCounters →
      Demo.start? (.ofAddress path query) = some n →
      console.handle moment path query world = (reply, world') →
      world'.delegate.KeepsCounters ∧
      ((reply = .ok (RouteError.unavailable .shutDown).response ∧ world'.heap = world.heap) ∨
      ∃ counter response, reply = .ok response ∧
        response.Links (.object (.counter counter)) (console.identifier world.drawn) ∧
        world'.registry.find? (console.identifier world.drawn) =
          some (.object (.counter counter)) ∧
        world.heap.counters.get? counter.cell = none ∧
        world'.heap.counters.get? counter.cell = some n)) ∧
    (∀ moment path query world reply world', world.delegate.KeepsCounters →
      console.handle moment path query world = (reply, world') →
      (∀ response v id, reply = .ok response → ¬response.Links v id) →
      world.heap.KeepsCounters world'.heap) ∧
    ∀ counter total start past world, start.delegate.KeepsCounters →
      start.heap.counters.get? counter.cell = some total →
      Recorded console.Answers start past world →
      world.heap.counters.get? counter.cell =
        some (Word.wrap .w32 (total.val + Exchange.sum counter past)) ∧
      (∀ before exchange after, past = before ++ exchange :: after →
        ∀ action, exchange.asked? = some (counter, action) →
          (exchange.Succeeded ∧ ∃ response, exchange.reply = .ok response ∧ response.ShowsInt
            (Word.wrap .w32 (total.val + Exchange.sum counter before + action.amount))) ∨
          (¬exchange.Succeeded ∧
            exchange.reply = .ok (RouteError.unavailable .shutDown).response)) ∧
      ∀ past' world', Recorded console.Answers start past' world' →
        (Exchange.amounts counter past').Perm (Exchange.amounts counter past) →
        world'.heap.counters.get? counter.cell = world.heap.counters.get? counter.cell := by
  refine ⟨fun _ _ _ _ _ _ _ hdelegate hstart h ↦
      ⟨keepsCounters_delegate_handle hdelegate h, handle_of_start? hcatalog hdelegate hstart h⟩,
    fun _ _ _ _ _ _ hdelegate ↦ keepsCounters_of_not_links hcatalog hdelegate,
    fun counter total start past world hdelegate hget hrun ↦ ⟨?_, ?_, ?_⟩⟩
  · exact get?_of_recorded hcatalog hrun hdelegate hget
  · intro before exchange after hpast action hasked
    obtain ⟨earlier, later, hbefore, hstep, -⟩ := hrun.exists_step Answers.eq_nil_or hpast
    have hshows := hstep.shows hcatalog (keepsCounters_delegate_of_recorded hbefore hdelegate)
      (get?_of_recorded hcatalog hbefore hdelegate hget) hasked
    rwa [Word.wrap_add] at hshows
  · intro past' world' hrun' hperm
    rw [get?_of_recorded hcatalog hrun hdelegate hget,
      get?_of_recorded hcatalog hrun' hdelegate hget, Exchange.sum_eq_of_perm hperm]

/-- A console over the demonstration catalog. -/
def demonstration : Console where
  catalog := Demo.catalog
  rootType := "System"
  identifier := Uuid.ofNat

/-- A counter that begins at the greatest number goes on at the least. -/
theorem counters_add_up_around : ∃ reply world reply' world',
    demonstration.handle ⟨5, 0, ⟨0, none⟩⟩ "/System/new_counter" (some "call&int=2147483647") {} =
      (reply, world) ∧
    demonstration.handle ⟨6, 0, ⟨0, none⟩⟩ "/Counter/increment"
      (some "call&this=[00000000-0000-0000-0000-000000000000]") world = (reply', world') ∧
    (∃ response, reply' = .ok response ∧ response.ShowsInt (Word.wrap .w32 (-2147483648))) ∧
    world'.heap.counters.get? 0 = some (Word.wrap .w32 (-2147483648)) := by
  obtain ⟨hnew, -, hruns⟩ := @counters_add_up demonstration rfl
  obtain ⟨reply, world, reply', world', hcreated, hincremented, hget, hasked, hok⟩ :
      ∃ reply world reply' world',
        demonstration.handle ⟨5, 0, ⟨0, none⟩⟩ "/System/new_counter"
          (some "call&int=2147483647") {} = (reply, world) ∧
        demonstration.handle ⟨6, 0, ⟨0, none⟩⟩ "/Counter/increment"
          (some "call&this=[00000000-0000-0000-0000-000000000000]") world = (reply', world') ∧
        world.heap.counters.get? 0 = some (Word.wrap .w32 2147483647) ∧
        Demo.asked? world.registry (.ofAddress "/Counter/increment"
          (some "call&this=[00000000-0000-0000-0000-000000000000]")) =
            some (⟨0⟩, .add (Word.wrap .w32 1)) ∧
        reply'.toOption.map Response.status = some .ok :=
    ⟨_, _, _, _, rfl, rfl, rfl, rfl, rfl⟩
  obtain ⟨hdelegate, -⟩ := hnew _ _ _ {} _ _ _ trivial rfl hcreated
  obtain ⟨htotal, hshows, -⟩ := hruns ⟨0⟩ _ world _ world' hdelegate hget
    (.single (.request _ _ _ hincremented))
  have haround : Word.wrap .w32 ((Word.wrap .w32 2147483647).val + (Word.wrap .w32 1).val) =
      Word.wrap .w32 (-2147483648) := by decide
  refine ⟨reply, world, reply', world', hcreated, hincremented, ?_, ?_⟩
  · rcases hshows [] _ [] rfl _ hasked with ⟨-, hshown⟩ | ⟨hfailed, -⟩
    · rwa [Exchange.sum_nil, Int.add_zero, Action.amount, haround] at hshown
    · exact absurd hok hfailed
  · rw [Exchange.sum_singleton, Exchange.asked?, hasked] at htotal
    dsimp only at htotal
    rwa [if_pos ⟨rfl, hok⟩, Action.amount, haround] at htotal

end Console

end ObjectConsole
