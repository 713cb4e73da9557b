import Mathlib.Data.List.TakeWhile
import ObjectConsole.Proofs.Console.Effect
import ObjectConsole.Proofs.Console.Links
import ObjectConsole.Proofs.Server.Transparency

/-!
# Where links lead over the server

A visitor follows an address by sending it back as a target. The server reads off the path and the
query that were written (`target_ofHalves`), and then compares the path with its own routes before
the console is asked. An address is about a type, a member or a token, and its path names that and
nothing else, so the routes of the server are the paths of three topics (`HealthRoute.topic`): a
type that is called `health`, and two members of it. Addresses about these never reach the console.

Not every address can be a target at all. Names are written in components, and these escape all that
a target must not have, with one exception: a path may not hold a backtick. So an address is turned
down when a name in its path has one, or when it is too long (`isTarget_iff_of_about`). All others
reach the console, and are answered as it replies.
-/

namespace ObjectConsole.Server

open Text

/-! ## Targets -/

theorem target_ofHalves {path : String} {query : Option String}
    (hslash : ∃ rest, path.toList = '/' :: rest) (hmark : '?' ∉ path.toList)
    (hhash : '#' ∉ path.toList) (hquery : ∀ text ∈ query, '#' ∉ text.toList) :
    target (Address.ofHalves path query) = (path, query) := by
  obtain ⟨rest, hrest⟩ := hslash
  -- a target that begins with a slash names no host, so all of it is local
  have hlocal (behind : List Char) : localPart (path.toList ++ behind) = path.toList ++ behind := by
    rw [hrest, List.cons_append, localPart]
  have hempty (behind : List Char) : path.toList ++ behind ≠ [] := by
    rw [hrest]
    exact List.cons_ne_nil _ _
  have hkept (text : List Char) (htext : '#' ∉ text) : text.takeWhile (· ≠ '#') = text :=
    List.takeWhile_eq_self_iff.mpr fun c hc ↦ decide_eq_true (fun h ↦ htext (h ▸ hc))
  cases query with
  | none =>
    have hcut : cut? '?' path.toList = none := cut?_eq_none_iff.mpr hmark
    have hwhole := hlocal []
    rw [List.append_nil] at hwhole
    rw [target, Address.ofHalves, hkept path.toList hhash, hwhole]
    simp only [hcut, String.ofList_toList]
    rw [if_neg (by simpa using hempty [])]
  | some query =>
    have hbehind : '#' ∉ path.toList ++ '?' :: query.toList := by
      have hquery := hquery query rfl
      simp [hhash, hquery]
    have haddress : (path ++ "?" ++ query).toList = path.toList ++ '?' :: query.toList := by simp
    have hcut : cut? '?' (path.toList ++ '?' :: query.toList) = some (path.toList, query.toList) :=
      cut?_eq_some_iff.mpr ⟨rfl, hmark⟩
    rw [target, Address.ofHalves, haddress, hkept _ hbehind, hlocal]
    simp only [hcut, String.ofList_toList]
    rw [if_neg (by simpa using hempty [])]

theorem exists_target_eq_of_about {topic : Topic} {address : String}
    (h : Address.About topic address) :
    ∃ query, target address = (topic.path, query) ∧
      ∀ text ∈ query, Address.Joined ['&', '='] text.toList := by
  obtain ⟨query, rfl, hquery⟩ := h.exists_eq_ofHalves
  refine ⟨query, target_ofHalves topic.exists_path_eq ?_ ?_ fun text htext ↦ ?_, hquery⟩
  · exact topic.joined_path.notMem (by decide) (by decide)
  · exact topic.joined_path.notMem (by decide) (by decide)
  · exact (hquery text htext).notMem (by decide) (by decide)

/-! ## Addresses that are no targets -/

/-- The one character that components leave as it is and that no path may hold. -/
def backtick : Char := '\x60'

theorem pathChar_iff {c : Char} (hvisible : Percent.Visible c) (hmark : c ∉ Percent.marks) :
    pathChar c ↔ c ≠ backtick := by
  have hlow : 0x20 < c.toNat := hvisible.1
  have hopen : c ≠ '<' := ne_of_mem_of_not_mem (by decide) hmark |>.symm
  have hclose : c ≠ '>' := ne_of_mem_of_not_mem (by decide) hmark |>.symm
  simp [pathChar, hlow, hopen, hclose, backtick]

theorem queryChar_of_visible {c : Char} (hvisible : Percent.Visible c)
    (hmark : c ∉ Percent.marks) : queryChar c := by
  have hlow : 0x20 < c.toNat := hvisible.1
  have hlisted : c ∉ "\"<>".toList := fun hmem ↦ by
    have hmarks : "\"<>".toList ⊆ Percent.marks := by decide
    exact hmark (hmarks hmem)
  simpa [queryChar, hlow] using hlisted

theorem all_pathChar_path_iff (topic : Topic) :
    topic.path.toList.all pathChar ↔ ∀ name ∈ topic.names, backtick ∉ name.toList := by
  have hpath : topic.path.toList.all pathChar ↔ backtick ∉ topic.path.toList := by
    rw [List.all_eq_true]
    constructor
    · intro hall hmem
      exact absurd (hall backtick hmem) (by decide)
    · intro hnone c hc
      by_cases hslash : c = '/'
      · subst hslash
        decide
      · obtain ⟨hvisible, hmark⟩ :=
          topic.joined_path.visible_of_mem hc (by rwa [List.mem_singleton])
        exact (pathChar_iff hvisible hmark).mpr (ne_of_mem_of_not_mem hc hnone)
  rw [hpath, Topic.mem_path_iff (by decide) (by decide)]
  simp only [not_exists, not_and]

theorem all_queryChar_of_joined {text : List Char} (h : Address.Joined ['&', '='] text) :
    text.all queryChar := by
  rw [List.all_eq_true]
  intro c hc
  by_cases hseparator : c ∈ ['&', '=']
  · rw [List.mem_cons, List.mem_singleton] at hseparator
    rcases hseparator with rfl | rfl
    · decide
    · decide
  · obtain ⟨hvisible, hmark⟩ := h.visible_of_mem hc hseparator
    exact queryChar_of_visible hvisible hmark

/-- An address can be followed unless it is too long, or a name in its path has a backtick. -/
theorem isTarget_iff_of_about {topic : Topic} {address : String}
    (h : Address.About topic address) :
    IsTarget address ↔
      address.utf8ByteSize ≤ maxTargetSize ∧ ∀ name ∈ topic.names, backtick ∉ name.toList := by
  obtain ⟨query, htarget, hquery⟩ := exists_target_eq_of_about h
  constructor
  · intro haddress
    have hpath := haddress.path
    rw [htarget, all_pathChar_path_iff] at hpath
    exact ⟨haddress.size_le, hpath⟩
  · rintro ⟨hsize, hnames⟩
    refine ⟨hsize, ?_, ?_⟩
    · rw [htarget]
      exact (all_pathChar_path_iff topic).mpr hnames
    · rw [htarget]
      cases query with
      | none => rfl
      | some text => exact all_queryChar_of_joined (hquery text rfl)

section

variable {console : Console} {moment : Moment} {request : HttpRequest} {state : State}

theorem receive_eq_some_iff {answered : HttpResponse × State} :
    receive console moment request state = some answered ↔
      IsTarget request.target ∧ answer console moment request state = answered := by
  rw [receive, Option.ite_none_right_eq_some, Option.some.injEq]

theorem receive_eq_none_iff :
    receive console moment request state = none ↔ ¬IsTarget request.target := by
  rw [receive, ite_eq_right_iff]
  simp only [reduceCtorEq, imp_false]

end

/-! ## The routes of the server -/

/-- What the path of a route would be about if it were the console's. -/
def HealthRoute.topic : HealthRoute → Topic
  | report => .type "health"
  | liveness => .member "health" "live"
  | readiness => .member "health" "ready"

theorem HealthRoute.ofPath?_eq_some_iff {path : String} {route : HealthRoute} :
    ofPath? path = some route ↔ path = route.topic.path := by
  have hreport : report.topic.path = "/health" := by decide
  have hliveness : liveness.topic.path = "/health/live" := by decide
  have hreadiness : readiness.topic.path = "/health/ready" := by decide
  rw [ofPath?]
  cases route with
  | report => rw [hreport]; split_ifs <;> simp_all
  | liveness => rw [hliveness]; split_ifs <;> simp_all
  | readiness => rw [hreadiness]; split_ifs <;> simp_all

/-- The server answers the addresses about the topics of its routes, and no others. -/
theorem HealthRoute.ofPath?_path_eq_some_iff {topic : Topic} {address : String}
    (h : Address.About topic address) {route : HealthRoute} :
    ofPath? topic.path = some route ↔ topic = route.topic := by
  -- a token is written like the name of a type, but begins with a bracket
  have htoken : ∀ text, topic = .token text → text ≠ "health" := by
    rintro text rfl rfl
    exact absurd h.head?_eq (by decide)
  rw [ofPath?_eq_some_iff]
  cases route with
  | report => exact Topic.path_eq_path_type_iff htoken
  | liveness => exact Topic.path_eq_path_member_iff
  | readiness => exact Topic.path_eq_path_member_iff

theorem answer_of_ofPath?_eq_some (console : Console) (moment : Moment) {request : HttpRequest}
    {state : State} {route : HealthRoute}
    (hpath : HealthRoute.ofPath? (target request.target).1 = some route) :
    (answer console moment request state).1 =
        finish request (requestIdentifier console request state).1
          (route.respond { state with world := request.enter state.world } moment.uptime request) ∧
      Unasked console moment request state := by
  have hanswer (other : Console) : answer other moment request state =
      (finish request (requestIdentifier other request state).1
        (route.respond { state with world := request.enter state.world } moment.uptime request),
        { state with world := request.enter state.world }) := by
    rw [answer, hpath, snd_requestIdentifier]
  exact ⟨by rw [hanswer], unasked_of_answer console moment hanswer⟩

/-! ## Following links -/

/-- **Where the links of a response lead.** Each address that a response offers, as a location or as
a link on its page, is about a topic, and its target is the path of the topic with a query. Whoever
sends it back to a server that accepts requests is turned down exactly if the address is too long or
a name in its path has a backtick in it. All others get what the console replies to this path and
query, exactly unless the topic is that of one of the server's own routes; then the server answers
itself and the console is not asked. -/
theorem offered_reaches_console {console : Console} {moment : Moment} {path : String}
    {query : Option String} {world world' : World} {response : Response}
    (h : console.handle moment path query world = (.ok response, world')) {address : String}
    (hoffered : address ∈ response.offered) :
    ∃ topic query, Address.About topic address ∧ target address = (topic.path, query) ∧
      ∀ (later : Moment) (request : HttpRequest) (state : State), request.method = "GET" →
        request.target = address → state.lifecycle.Accepting →
        (receive console later request state = none ↔
          maxTargetSize < address.utf8ByteSize ∨
            ∃ name ∈ topic.names, backtick ∈ name.toList) ∧
        ∀ answered, receive console later request state = some answered →
          ((∀ route : HealthRoute, topic ≠ route.topic) →
            let handled := console.handle later topic.path query (request.enter state.world)
            answered.1.Carries request handled.1 ∧ answered.2.world = handled.2) ∧
          (∀ route : HealthRoute, topic = route.topic →
            answered.1 = finish request (requestIdentifier console request state).1
              (route.respond { state with world := request.enter state.world } later.uptime
                request) ∧
            Unasked console later request state) := by
  obtain ⟨topic, habout⟩ := Response.exists_about_of_offered (Console.gives_of_handle h) hoffered
  obtain ⟨query, htarget, -⟩ := exists_target_eq_of_about habout
  refine ⟨topic, query, habout, htarget, ?_⟩
  rintro later request state hget rfl haccepting
  constructor
  · rw [receive_eq_none_iff, isTarget_iff_of_about habout, not_and_or, Nat.not_le]
    simp only [not_forall, not_not, exists_prop]
  · intro answered hreceived
    obtain ⟨-, rfl⟩ := receive_eq_some_iff.mp hreceived
    have hroute (route : HealthRoute) :
        HealthRoute.ofPath? (target request.target).1 = some route ↔ topic = route.topic := by
      rw [htarget]
      exact HealthRoute.ofPath?_path_eq_some_iff habout
    constructor
    · intro hother
      have hpath : HealthRoute.ofPath? (target request.target).1 = none :=
        Option.eq_none_iff_forall_ne_some.mpr fun route ↦ mt (hroute route).mp (hother route)
      have hanswer := answer_of_accepting console later hpath (.inl hget) haccepting
      rwa [htarget] at hanswer
    · intro route htopic
      exact answer_of_ofPath?_eq_some console later ((hroute route).mpr htopic)

/-- The value of a result is visited under the address that its page links to. -/
theorem offered_reaches_console_returning_true :
    ∃ response world', (Console.returning (.bool true)).handle ⟨5, 0, ⟨0, none⟩⟩ "/T/f"
        (some "call") {} = (.ok response, world') ∧
      let request : HttpRequest := { target := "/bool?[00000000-0000-0000-0000-000000000000]" }
      request.target ∈ response.offered ∧
        ∃ answered, receive (Console.returning (.bool true)) ⟨6, 1, ⟨0, none⟩⟩ request
            { world := world' } = some answered ∧
          answered.1.Carries request
            ((Console.returning (.bool true)).handle ⟨6, 1, ⟨0, none⟩⟩ "/bool"
              (some "[00000000-0000-0000-0000-000000000000]") (request.enter world')).1 := by
  let request : HttpRequest := { target := "/bool?[00000000-0000-0000-0000-000000000000]" }
  have htargets : IsTarget request.target := by decide +kernel
  obtain ⟨response, world', h, hoffered⟩ : ∃ response world',
      (Console.returning (.bool true)).handle ⟨5, 0, ⟨0, none⟩⟩ "/T/f" (some "call") {} =
        (.ok response, world') ∧ request.target ∈ response.offered :=
    ⟨_, _, rfl, by decide +kernel⟩
  obtain ⟨topic, query, -, htarget, hfollowed⟩ := offered_reaches_console h hoffered
  have hhalves : target request.target =
      ("/bool", some "[00000000-0000-0000-0000-000000000000]") := by decide +kernel
  obtain ⟨hpath, rfl⟩ := Prod.mk.inj (htarget.symm.trans hhalves)
  have hother : ∀ route : HealthRoute, topic ≠ route.topic := by
    rintro route rfl
    revert hpath
    cases route <;> decide
  obtain ⟨-, hanswered⟩ :=
    hfollowed ⟨6, 1, ⟨0, none⟩⟩ request { world := world' } rfl rfl (.inl rfl)
  obtain ⟨hconsole, -⟩ := hanswered _ (receive_eq_some_iff.mpr ⟨htargets, rfl⟩)
  refine ⟨response, world', h, hoffered, _, receive_eq_some_iff.mpr ⟨htargets, rfl⟩, ?_⟩
  rw [← hpath]
  exact (hconsole hother).1

/-- A console with a type that is called like a route of the server, and so is its operation, and
with a type whose name is a backtick. -/
def misnamed : Console where
  catalog := .ofTypes [
    (TypeEntry.mk "health" [] []).static "live" [] "health" fun _ _ _ heap ↦
      (.returned (.bool true), heap),
    (TypeEntry.mk "`" [] []).static "f" [] "health" fun _ _ _ heap ↦
      (.returned (.bool true), heap)]
  rootType := "health"
  identifier := Uuid.ofNat

/-- The start page of such a console redirects to a page that is never seen, the call of the
operation there is not answered by the console either, and the call that the page of the other type
offers is turned down. -/
theorem not_reached_of_misnamed :
    let moment : Moment := ⟨5, 0, ⟨0, none⟩⟩
    let members : HttpRequest := { target := "/health" }
    let call : HttpRequest := { target := "/health/live?call" }
    let quoted : HttpRequest := { target := "/`/f?call" }
    let state : State := {}
    Route.Addressable "health" ∧ Route.Addressable "`" ∧ state.lifecycle.Accepting ∧
      (∃ response, (misnamed.handle moment "/" none {}).1 = .ok response ∧
        members.target ∈ response.offered) ∧
      ¬(∃ answered, receive misnamed moment members state = some answered ∧
        answered.1.Carries members
          (misnamed.handle moment "/health" none (members.enter state.world)).1) ∧
      (∃ response, (misnamed.handle moment "/health" none {}).1 = .ok response ∧
        call.target ∈ response.offered) ∧
      ¬(∃ answered, receive misnamed moment call state = some answered ∧
        answered.1.Carries call
          (misnamed.handle moment "/health/live" (some "call") (call.enter state.world)).1) ∧
      (∃ response, (misnamed.handle moment "/%60" none {}).1 = .ok response ∧
        quoted.target ∈ response.offered) ∧
      receive misnamed moment quoted state = none := by
  intro moment members call quoted state
  have hhealth : Route.Addressable "health" := ⟨by decide, by decide, by decide, by decide⟩
  have hbacktick : Route.Addressable "`" := ⟨by decide, by decide, by decide, by decide⟩
  refine ⟨hhealth, hbacktick, by decide, ⟨_, rfl, by decide +kernel⟩, ?_,
    ⟨_, rfl, by decide +kernel⟩, ?_, ⟨_, rfl, by decide +kernel⟩, ?_⟩
  · rintro ⟨answered, hreceived, hcarries⟩
    obtain ⟨-, rfl⟩ := receive_eq_some_iff.mp hreceived
    revert hcarries
    decide +kernel
  · rintro ⟨answered, hreceived, hcarries⟩
    obtain ⟨-, rfl⟩ := receive_eq_some_iff.mp hreceived
    revert hcarries
    decide +kernel
  · exact receive_eq_none_iff.mpr (by decide +kernel)

end ObjectConsole.Server
