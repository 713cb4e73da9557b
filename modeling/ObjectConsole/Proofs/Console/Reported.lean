import ObjectConsole.Proofs.Console.Effect
import ObjectConsole.Proofs.Console.ResultPage

/-!
# Entries and the pages that report them

A value that a request adds is of use only to someone who is told its identifier. `Reported` says
that the entries of a request are those that its response links to, and that nothing is left behind
when there is no response.

Responses keep this law: the page of a result links to the one entry that was added for it, and no
other response links to anything. Panics do not. A value is added before it is shown, so when its
display panics the entry is there already and no one learns of it. The law therefore holds for
exactly the requests that show no value with a panicking display (`reported_iff`).
-/

namespace ObjectConsole

open Store

/-! ## Links -/

/-- A response that is the page of a result, with the link to a value under an identifier. -/
def Response.Links (response : Response) (v : Value) (id : Uuid) : Prop :=
  ∃ line, response = .page (resultPage line (valueLink v (.ephemeral id)))

namespace Response

variable {response : Response} {v v' : Value} {id id' : Uuid}

theorem Links.id_eq (h : response.Links v id) (h' : response.Links v' id') : id = id' := by
  obtain ⟨line, rfl⟩ := h
  obtain ⟨line', hpage⟩ := h'
  exact id_eq_of_resultPage_eq (congrArg body hpage)

theorem not_links_of_isError (h : response.status.IsError) : ¬response.Links v id := by
  rintro ⟨line, rfl⟩
  exact Status.not_isError_ok h

theorem not_links_resultPage (line : String) : ¬(page (resultPage line "")).Links v id := by
  rintro ⟨line', hpage⟩
  exact resultPage_ne line line' v (.ephemeral id) (congrArg body hpage)

theorem not_links_of_plain (h : response.Plain) : ¬response.Links v id := by
  rcases h with herror | hredirect | ⟨page, rfl⟩
  · exact not_links_of_isError herror
  · rintro ⟨line, rfl⟩
    cases hredirect
  · rintro ⟨line, hpage⟩
    exact page.markup_ne line _ (congrArg body hpage)

end Response

/-! ## The law -/

/-- An identifier that came to resolve. -/
def Added (world world' : World) (id : Uuid) : Prop :=
  world.registry.ephemeral.get? id = none ∧ world'.registry.ephemeral.get? id ≠ none

/-- The entries that came in are those that the response links to, and without a response the
registry is as it was. -/
structure Reported (world : World) (reply : Reply) (world' : World) : Prop where
  added_iff : ∀ id, Added world world' id ↔
    ∃ response v, reply = .ok response ∧ world'.registry.find? id = some v ∧ response.Links v id
  registry_eq : ∀ message, reply = .error message → world'.registry = world.registry

variable {console : Console} {moment : Moment} {path : String} {query : Option String}
  {world world' : World} {reply : Reply} {response : Response}

theorem not_added_of_eq (h : world'.registry.ephemeral = world.registry.ephemeral) (id : Uuid) :
    ¬Added world world' id := by
  rintro ⟨hnone, hsome⟩
  rw [h] at hsome
  exact hsome hnone

/-- A response that links to nothing reports that nothing was added. -/
theorem reported_of_not_links (h : world'.registry.ephemeral = world.registry.ephemeral)
    (hlinks : ∀ v id, ¬response.Links v id) : Reported world (.ok response) world' where
  added_iff id := by
    refine iff_of_false (not_added_of_eq h id) ?_
    rintro ⟨linking, v, ⟨⟩, -, hlink⟩
    exact hlinks v id hlink
  registry_eq message hmessage := by cases hmessage

theorem reported_of_links {now : UInt64} {id : Uuid} {v : Value}
    (hnone : world.registry.ephemeral.get? id = none)
    (hregistry : world'.registry = world.registry.add now id v) (hlinks : response.Links v id) :
    Reported world (.ok response) world' where
  added_iff other := by
    rw [Added, hregistry, Registry.get?_add]
    constructor
    · rintro ⟨hother, hsome⟩
      by_cases hid : other = id
      · refine ⟨response, v, rfl, ?_, hid ▸ hlinks⟩
        rw [Registry.find?, Registry.get?_add, if_pos hid]
        rfl
      · rw [if_neg hid] at hsome
        exact absurd hother hsome
    · rintro ⟨linking, w, ⟨⟩, -, hlink⟩
      obtain rfl := hlinks.id_eq hlink
      rw [if_pos rfl]
      exact ⟨hnone, Option.some_ne_none _⟩
  registry_eq message hmessage := by cases hmessage

theorem not_reported_of_error {now : UInt64} {id : Uuid} {v : Value} {message : String}
    (hnone : world.registry.ephemeral.get? id = none)
    (hregistry : world'.registry = world.registry.add now id v) :
    ¬Reported world (.error message) world' := by
  intro h
  have hget : world'.registry.ephemeral.get? id = some ⟨now, v⟩ := by
    rw [hregistry, Registry.get?_add, if_pos rfl]
  rw [h.registry_eq message rfl, hnone] at hget
  cases hget

namespace Console

/-- A request whose body returns a value that cannot be shown. -/
def ShowsPanic (console : Console) (moment : Moment) (route : Route) (world world' : World) :
    Prop :=
  ∃ task v message, console.task? world.registry route = some (.ok task) ∧
    task.outcome? moment world = some (.returned v) ∧ v.render world'.heap = .error message

/-- A task that was answered by a response returned nothing that cannot be shown. -/
theorem not_showsPanic_of_ends {route : Route} {task : Task}
    (htask : console.task? world.registry route = some (.ok task))
    (hends : task.Ends console moment world (.ok response) world') :
    ¬console.ShowsPanic moment route world world' := by
  rintro ⟨task', v, message, htask', houtcome, hrender⟩
  rw [htask, Option.some.injEq, Except.ok.injEq] at htask'
  subst htask'
  have hv : v ≠ .null := by
    rintro rfl
    cases hrender
  obtain ⟨-, -, hreply⟩ := hends.of_returned houtcome hv
  obtain ⟨rendered, hrendered, -⟩ := valueReply_eq_ok_iff.mp hreply.symm
  rw [hrendered] at hrender
  cases hrender

theorem reported_of_ends {task : Task}
    (hnone : world.registry.ephemeral.get? (console.identifier world.drawn) = none)
    (hends : task.Ends console moment world (.ok response) world') :
    Reported world (.ok response) world' := by
  cases hends with
  | refused houtcome hsame =>
    exact reported_of_not_links (congrArg _ hsame.registry_eq)
      fun _ _ ↦ Response.not_links_of_isError (RouteError.isError_response _)
  | raised houtcome hguard hsame =>
    exact reported_of_not_links (congrArg _ hsame.registry_eq)
      fun _ _ ↦ Response.not_links_resultPage _
  | null houtcome hsame =>
    exact reported_of_not_links (congrArg _ hsame.registry_eq)
      fun _ _ ↦ Response.not_links_resultPage _
  | value houtcome hv hregistry hdrawn hreply =>
    obtain ⟨rendered, -, hpage⟩ := valueReply_eq_ok_iff.mp hreply.symm
    exact reported_of_links hnone hregistry ⟨_, hpage⟩

theorem not_showsPanic_of_task?_ne {route : Route}
    (h : ∀ task, console.task? world.registry route ≠ some (.ok task)) :
    ¬console.ShowsPanic moment route world world' := by
  rintro ⟨task, v, message, htask, -⟩
  exact h task htask

/-- A response reports what was added, and nothing was returned that cannot be shown. -/
theorem reported_of_response
    (hnone : world.registry.ephemeral.get? (console.identifier world.drawn) = none)
    (h : console.handle moment path query world = (.ok response, world')) :
    Reported world (.ok response) world' ∧
      ¬console.ShowsPanic moment (.ofAddress path query) world world' := by
  cases console.handle_ends moment h with
  | performed htask hends =>
    exact ⟨reported_of_ends hnone hends, not_showsPanic_of_ends htask hends⟩
  -- the other endings come without a task, and their responses link to nothing
  | unprepared htask =>
    exact ⟨reported_of_not_links rfl
        fun _ _ ↦ Response.not_links_of_isError (RouteError.isError_response _),
      not_showsPanic_of_task?_ne fun task ↦ by rw [htask]; nofun⟩
  | unnamed hroute =>
    exact ⟨reported_of_not_links rfl
        fun _ _ ↦ Response.not_links_of_isError (RouteError.isError_response _),
      not_showsPanic_of_task?_ne fun task ↦ by rw [hroute]; nofun⟩
  | named hroute hpromoted =>
    exact ⟨reported_of_not_links hpromoted.binds.ephemeral_eq
        fun _ _ ↦ Response.not_links_of_plain (.inr (.inl rfl)),
      not_showsPanic_of_task?_ne fun task ↦ by rw [hroute]; nofun⟩
  | answered htask hpersist hplain =>
    exact ⟨reported_of_not_links rfl fun _ _ ↦ Response.not_links_of_plain hplain,
      not_showsPanic_of_task?_ne fun task ↦ by rw [htask]; nofun⟩

/-- A panic is that of a value which was added before it was shown. -/
theorem showsPanic_of_error {message : String}
    (h : console.handle moment path query world = (.error message, world')) :
    console.ShowsPanic moment (.ofAddress path query) world world' ∧
      ∃ v, v.render world'.heap = .error message ∧ world'.registry =
        world.registry.add moment.now (console.identifier world.drawn) v := by
  cases console.handle_ends moment h with
  | performed htask hends =>
    cases hends with
    | value houtcome hv hregistry hdrawn hreply =>
      have hrender := valueReply_eq_error_iff.mp hreply.symm
      exact ⟨⟨_, _, message, htask, houtcome, hrender⟩, _, hrender, hregistry⟩

/-- **What was added is reported, unless its display panics.** In a reachable world, when the next
identifier differs from the earlier ones, a request reports what it adds exactly when its body does
not return a value whose display panics. If it does, the panic is the reply, and the value stays
behind under an identifier that no one was told. -/
theorem reported_iff (hreachable : console.Reachable world)
    (hfresh : ∀ k < world.drawn, console.identifier k ≠ console.identifier world.drawn)
    (h : console.handle moment path query world = (reply, world')) :
    (Reported world reply world' ↔
      ¬console.ShowsPanic moment (.ofAddress path query) world world') ∧
    (console.ShowsPanic moment (.ofAddress path query) world world' →
      ∃ v message, reply = .error message ∧ v.render world'.heap = .error message ∧
        world.registry.ephemeral.get? (console.identifier world.drawn) = none ∧
        world'.registry =
          world.registry.add moment.now (console.identifier world.drawn) v) := by
  have hnone := hreachable.get?_eq_none hfresh
  cases reply with
  | ok response =>
    obtain ⟨hreported, hnot⟩ := reported_of_response hnone h
    exact ⟨iff_of_true hreported hnot, fun hpanic ↦ absurd hpanic hnot⟩
  | error message =>
    obtain ⟨hpanic, v, hrender, hregistry⟩ := showsPanic_of_error h
    exact ⟨iff_of_false (not_reported_of_error hnone hregistry) (not_not_intro hpanic),
      fun _ ↦ ⟨v, message, rfl, hrender, hnone, hregistry⟩⟩

theorem reported_iff_returning_true :
    ∃ response world', (returning (.bool true)).handle ⟨5, 0, ⟨0, none⟩⟩ "/T/f" (some "call")
        drawnOnce = (.ok response, world') ∧ Reported drawnOnce (.ok response) world' := by
  have hfresh : ∀ k < drawnOnce.drawn, (returning (.bool true)).identifier k ≠
      (returning (.bool true)).identifier drawnOnce.drawn := by decide
  obtain ⟨response, world', h⟩ : ∃ response world', (returning (.bool true)).handle
      ⟨5, 0, ⟨0, none⟩⟩ "/T/f" (some "call") drawnOnce = (.ok response, world') := ⟨_, _, rfl⟩
  refine ⟨response, world', h, (reported_iff (reachable_drawnOnce _) hfresh h).1.mpr ?_⟩
  rintro ⟨task, v, message, ⟨⟩, ⟨⟩, hrender⟩
  cases hrender

/-- An object whose display panics is added, and the panic is all that the request comes to. -/
theorem not_reported_returning_panics :
    (returning (.object (.foreign "T" (.panics "x")))).Reachable {} ∧
      ∃ message world', (returning (.object (.foreign "T" (.panics "x")))).handle
          ⟨0, 0, ⟨0, none⟩⟩ "/T/f" (some "call") {} = (.error message, world') ∧
        Added {} world' (.ofNat 0) ∧ ¬Reported {} (.error message) world' := by
  refine ⟨⟨{}, rfl, rfl, .refl⟩, _, _, rfl, ⟨rfl, nofun⟩, fun hreported ↦ ?_⟩
  have hsize := congrArg (fun registry ↦ registry.ephemeral.size) (hreported.registry_eq _ rfl)
  exact absurd hsize (by decide)

end Console

end ObjectConsole
