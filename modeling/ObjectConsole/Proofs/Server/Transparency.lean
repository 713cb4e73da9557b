import ObjectConsole.Proofs.Console.Answers
import ObjectConsole.Proofs.Text.Component
import ObjectConsole.Server.Serve

/-!
# The server in front of the console

A request passes several layers on its way to the console and its answer passes them on the way
back: an identifier is found for it, its path is compared with the routes of the server, its method
and the state of the server are checked, a guard is taken, and the console's response is turned into
a message. What stays of all this is said by `transparent`: off the server's own routes a request is
refused, and then the console never hears of it, or it is answered by what the console replies.

Two things could come between. A guard might be left behind; it is not, however the console ends
(`lifecycle_answer`). And a location might be none that a header can hold, upon which the message
would be an error instead; but a location is an address, and addresses are written in components,
whose characters are all good for headers (`headerChar_of_location`).
-/

namespace ObjectConsole.Server

open Text

/-! ## Locations -/

namespace HttpResponse

theorem headerChar_of_plain {c : Char} (h : Percent.Plain c) : headerChar c = true := by
  obtain ⟨⟨hcontrol, hdelete⟩, -⟩ := h.visible
  simp [headerChar, Nat.le_of_lt hcontrol, Nat.ne_of_lt hdelete]

theorem headerChar_of_mem_encode {text : String} {c : Char} (h : c ∈ (Percent.encode text).toList) :
    headerChar c = true := by
  rw [Percent.toList_encode] at h
  exact headerChar_of_plain (Percent.plain_of_mem_encodeChars h)

theorem headerChar_of_mem_ofType {typeName : String} {c : Char}
    (h : c ∈ (Address.ofType typeName).toList) : headerChar c = true := by
  rw [Address.ofType, String.toList_append, List.mem_append] at h
  rcases h with hslash | hname
  · obtain rfl := List.mem_singleton.mp hslash
    decide
  · exact headerChar_of_mem_encode hname

theorem headerChar_of_mem_ofValue {v : Value} {token : Token} {c : Char}
    (h : c ∈ (Address.ofValue v token).toList) : headerChar c = true := by
  rw [Address.ofValue, String.toList_append, String.toList_append, List.mem_append,
    List.mem_append] at h
  rcases h with (htype | hmark) | htoken
  · exact headerChar_of_mem_ofType htype
  · obtain rfl := List.mem_singleton.mp hmark
    decide
  · exact headerChar_of_mem_encode htoken

/-- A header can hold every location that a console gives. -/
theorem headerChar_of_location {console : Console} {response : Response}
    (h : console.Gives response) :
    ∀ c ∈ (response.location.getD "").toList, headerChar c = true := by
  intro c hc
  cases h with
  | start => exact headerChar_of_mem_ofType hc
  | redirect v token => exact headerChar_of_mem_ofValue hc
  | members | null | value | failure | error => cases hc

theorem ofResponse_of_gives {console : Console} {response : Response} (h : console.Gives response) :
    ofResponse response =
      { status := statusNumber response.status
        contentType := some response.contentType.text
        location := response.location
        body := response.body } := by
  rw [ofResponse, if_pos]
  exact List.all_eq_true.mpr (headerChar_of_location h)

/-- A message that says what the console replied: its response, of which the body is left out when
only the headers were asked for, or that it panicked. -/
def Carries (message : HttpResponse) (request : HttpRequest) : Reply → Prop
  | .ok response =>
    message.status = statusNumber response.status ∧
      message.contentType = some response.contentType.text ∧
      message.location = response.location ∧
      message.body = if request.method = "HEAD" then "" else response.body
  | .error _ => message.status = 500

end HttpResponse

instance HttpResponse.decidableCarries (message : HttpResponse) (request : HttpRequest) :
    (reply : Reply) → Decidable (message.Carries request reply)
  | .ok _ => inferInstanceAs (Decidable (_ ∧ _ ∧ _ ∧ _))
  | .error _ => inferInstanceAs (Decidable (_ = _))

/-! ## One request -/

/-- The world that a request is answered in: an identifier was drawn for a request that has none. -/
def HttpRequest.enter (request : HttpRequest) (world : World) : World :=
  { world with drawn := world.drawn + if request.requestId.isSome then 0 else 1 }

/-- A request that the console never hears of: no worker is given a job, nothing of the world
changes but for the identifier of the request, and another catalog, or another root type, would have
made no difference. -/
structure Unasked (console : Console) (moment : Moment) (request : HttpRequest) (state : State) :
    Prop where
  state_eq : (answer console moment request state).2 =
    { state with world := request.enter state.world }
  answer_eq : ∀ other : Console, other.identifier = console.identifier →
    answer other moment request state = answer console moment request state

section OneRequest

variable (console : Console) (moment : Moment) (request : HttpRequest) (state : State)

theorem snd_requestIdentifier :
    (requestIdentifier console request state).2 =
      { state with world := request.enter state.world } := by
  rw [requestIdentifier, HttpRequest.enter]
  cases request.requestId <;> rfl

theorem requestIdentifier_congr {other : Console} (h : other.identifier = console.identifier) :
    requestIdentifier other request state = requestIdentifier console request state := by
  rw [requestIdentifier, requestIdentifier, World.drawIdentifier, World.drawIdentifier, h]

variable {request state}

/-- Off the routes of the server, an answer is the console's part of it, sent out. -/
theorem answer_of_ofPath?_eq_none
    (hpath : HealthRoute.ofPath? (target request.target).1 = none) :
    answer console moment request state =
      let asked := askConsole console moment request (target request.target).1
        (target request.target).2 { state with world := request.enter state.world }
      (finish request (requestIdentifier console request state).1 asked.1, asked.2) := by
  rw [answer, hpath, snd_requestIdentifier]

/-- What all consoles answer with one message is answered without them. -/
theorem unasked_of_answer {message : HttpResponse}
    (h : ∀ other, answer other moment request state =
      (finish request (requestIdentifier other request state).1 message,
        { state with world := request.enter state.world })) :
    Unasked console moment request state where
  state_eq := by rw [h]
  answer_eq other hother := by rw [h, h, requestIdentifier_congr console request state hother]

theorem answer_of_not_reads (hpath : HealthRoute.ofPath? (target request.target).1 = none)
    (hreads : ¬request.Reads) :
    (answer console moment request state).1.status = 405 ∧
      Unasked console moment request state := by
  have hanswer (other : Console) : answer other moment request state =
      (finish request (requestIdentifier other request state).1
        (.plain 405 "console accepts GET only"),
        { state with world := request.enter state.world }) := by
    rw [answer_of_ofPath?_eq_none other moment hpath, askConsole, if_pos hreads]
  exact ⟨by rw [hanswer]; rfl, unasked_of_answer console moment hanswer⟩

theorem answer_of_not_accepting (hpath : HealthRoute.ofPath? (target request.target).1 = none)
    (hreads : request.Reads) (haccepting : ¬state.lifecycle.Accepting) :
    (answer console moment request state).1.status = 503 ∧
      Unasked console moment request state := by
  have hanswer (other : Console) : answer other moment request state =
      (finish request (requestIdentifier other request state).1
        (.plain 503 "server is shutting down"),
        { state with world := request.enter state.world }) := by
    rw [answer_of_ofPath?_eq_none other moment hpath, askConsole, if_neg (not_not.mpr hreads),
      if_pos haccepting]
  exact ⟨by rw [hanswer]; rfl, unasked_of_answer console moment hanswer⟩

/-- The message for a reply carries it. -/
theorem carries_finish {reply : Reply} (job : Nat) (requestId : String)
    (h : ∀ response, reply = .ok response → console.Gives response) :
    (finish request requestId (respondToReply job reply)).Carries request reply := by
  cases reply with
  | error message => rfl
  | ok response =>
    rw [respondToReply, HttpResponse.ofResponse_of_gives (h response rfl)]
    exact ⟨rfl, rfl, rfl, rfl⟩

theorem answer_of_accepting (hpath : HealthRoute.ofPath? (target request.target).1 = none)
    (hreads : request.Reads) (haccepting : state.lifecycle.Accepting) :
    let handled := console.handle moment (target request.target).1 (target request.target).2
      (request.enter state.world)
    (answer console moment request state).1.Carries request handled.1 ∧
      (answer console moment request state).2.world = handled.2 := by
  intro handled
  have hgives : ∀ response, handled.1 = .ok response → console.Gives response :=
    fun response h ↦ Console.gives_of_handle (Prod.ext h rfl)
  rw [answer_of_ofPath?_eq_none console moment hpath, askConsole, if_neg (not_not.mpr hreads),
    if_neg (not_not.mpr haccepting), runConsole]
  exact ⟨carries_finish console _ _ hgives, rfl⟩

variable (request state)

/-- Whatever the console does, the guard that was taken for it is released. -/
theorem lifecycle_askConsole (path : String) (query : Option String) :
    (askConsole console moment request path query state).2.lifecycle = state.lifecycle := by
  rw [askConsole]
  split
  · rfl
  · split
    · rfl
    · -- one guard more and one less, with the console's run between
      exact congrArg (Lifecycle.mk _) (Nat.add_sub_cancel ..)

/-- A request leaves the life of the server as it was, and the guards with it. -/
theorem lifecycle_answer :
    (answer console moment request state).2.lifecycle = state.lifecycle := by
  rw [answer, snd_requestIdentifier]
  cases HealthRoute.ofPath? (target request.target).1 with
  | some route => rfl
  | none => exact lifecycle_askConsole console moment request _ _ _

end OneRequest

/-! ## Many requests -/

/-- The answers to requests given one after another, and the state after the last. -/
def answerAll (console : Console) : List (Moment × HttpRequest) → State → List HttpResponse × State
  | [], state => ([], state)
  | (moment, request) :: requests, state =>
    let answered := answer console moment request state
    let others := answerAll console requests answered.2
    (answered.1 :: others.1, others.2)

theorem length_answerAll (console : Console) (requests : List (Moment × HttpRequest))
    (state : State) : (answerAll console requests state).1.length = requests.length := by
  induction requests generalizing state with
  | nil => rfl
  | cons first requests ih => exact congrArg (· + 1) (ih _)

theorem answerAll_append (console : Console) (earlier later : List (Moment × HttpRequest))
    (state : State) :
    answerAll console (earlier ++ later) state =
      let before := answerAll console earlier state
      let after := answerAll console later before.2
      (before.1 ++ after.1, after.2) := by
  induction earlier generalizing state with
  | nil => rfl
  | cons first earlier ih =>
    rw [List.cons_append, answerAll, answerAll, ih]
    rfl

theorem lifecycle_answerAll (console : Console) (requests : List (Moment × HttpRequest))
    (state : State) : (answerAll console requests state).2.lifecycle = state.lifecycle := by
  induction requests generalizing state with
  | nil => rfl
  | cons first requests ih =>
    rw [answerAll]
    exact (ih _).trans (lifecycle_answer console first.1 first.2 state)

/-- **The server is transparent.** Among requests given one after another, from any state on, each
is answered like this, and leaves the state of the server and its guards as they were at the start.
Unless its path is one of the server's own:

* a method that does not only read is refused with 405, and a server that does not accept requests
  refuses with 503; the console never hears of either;
* any other request is answered by what the console replies to the same path and query in the same
  world, and leaves the world as the console does. -/
theorem transparent (console : Console) (start : State)
    (earlier later : List (Moment × HttpRequest)) (moment : Moment) (request : HttpRequest) :
    let state := (answerAll console earlier start).2
    let answered := answer console moment request state
    let (path, query) := target request.target
    (answerAll console (earlier ++ (moment, request) :: later) start).1[earlier.length]? =
        some answered.1 ∧
      state.lifecycle = start.lifecycle ∧ answered.2.lifecycle = start.lifecycle ∧
      (HealthRoute.ofPath? path = none →
        (¬request.Reads → answered.1.status = 405 ∧ Unasked console moment request state) ∧
        (request.Reads → ¬start.lifecycle.Accepting →
          answered.1.status = 503 ∧ Unasked console moment request state) ∧
        (request.Reads → start.lifecycle.Accepting →
          let handled := console.handle moment path query (request.enter state.world)
          answered.1.Carries request handled.1 ∧ answered.2.world = handled.2)) := by
  intro state answered
  have hlifecycle : state.lifecycle = start.lifecycle := lifecycle_answerAll console earlier start
  refine ⟨?_, hlifecycle, (lifecycle_answer console moment request state).trans hlifecycle,
    fun hpath ↦ ⟨fun hreads ↦ ?_, fun hreads haccepting ↦ ?_, fun hreads haccepting ↦ ?_⟩⟩
  · rw [answerAll_append, List.getElem?_append_right (Nat.le_of_eq (length_answerAll ..)),
      length_answerAll, Nat.sub_self]
    rfl
  · exact answer_of_not_reads console moment hpath hreads
  · exact answer_of_not_accepting console moment hpath hreads (hlifecycle ▸ haccepting)
  · exact answer_of_accepting console moment hpath hreads (hlifecycle ▸ haccepting)

end ObjectConsole.Server
