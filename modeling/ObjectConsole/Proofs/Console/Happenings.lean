import ObjectConsole.Proofs.Console.Reported
import ObjectConsole.Proofs.Console.ValueAddress
import ObjectConsole.Proofs.Recorded
import ObjectConsole.Proofs.Reference.Token

/-!
# What happens to a world

The worlds that a console can come to are told by steps, and here the steps are put on record. What
is recorded are requests with their replies, promotions and sweeps. Additions by others, identifiers
that others draw and what they do to the heap leave no record, because nothing that the registry
holds is lost by them.

The two halves of the registry are then read off the record, each from one kind of happening alone:

* an entry is there until a sweep drops it (`Recorded.get?_eq_some_iff`), as long as the identifiers
  that are drawn meanwhile differ from its own;
* a name stands for what it stood for until a promotion under it (`Recorded.named?_eq`).

The record also tells which links pages have shown. A page links to an identifier that was drawn for
it, so every identifier is linked to at most once (`Recorded.exists_drawn_of_carries`).
-/

namespace ObjectConsole

/-! ## Happenings -/

/-- What is recorded of a world. -/
inductive Happening where
  | requested (moment : Moment) (path : String) (query : Option String) (reply : Reply)
  | promoted (id : Uuid) (name : String)
  | swept (now : UInt64)

namespace Happening

/-- A request was answered by a page that links to a value under an identifier. -/
inductive Carries (id : Uuid) : Happening → Prop
  | page {moment : Moment} {path : String} {query : Option String} {response : Response} {v : Value}
      (hlinks : response.Links v id) : Carries id (.requested moment path query (.ok response))

/-- The value under an identifier was given a name, by a request or by someone else. A request tells
the name in use by the address that it redirects to. -/
inductive Promotes (id : Uuid) (name : String) : Happening → Prop
  | direct : Promotes id name (.promoted id name)
  | request {moment : Moment} {path token : String} {query given : Option String} {v : Value}
      (hroute : Route.ofAddress path query = .persist token given)
      (htoken : Token.parseEphemeral token = .ok id) :
      Promotes id name
        (.requested moment path query (.ok (.redirect (Address.ofValue v (.persistent name)))))

end Happening

/-! ## One request -/

/-- The address of a named value tells its name. -/
theorem Address.name_eq_of_ofValue_eq {v v' : Value} {name name' : String}
    (h : ofValue v (.persistent name) = ofValue v' (.persistent name')) : name = name' := by
  have hhalves := congrArg halves? h
  rw [halves?_ofValue, halves?_ofValue, Option.some.injEq, Prod.mk.injEq] at hhalves
  have htext := congrArg (fun query ↦ Text.Percent.decodeChars query.toList) hhalves.2
  simp only [Text.Percent.toList_encode, Text.Percent.decodeChars_encodeChars,
    Token.toList_text_persistent, List.cons.injEq, true_and] at htext
  exact String.toList_inj.mp htext

namespace Console

variable {console : Console} {moment : Moment} {path : String} {query : Option String}
  {world world' : World} {reply : Reply} {response : Response} {id : Uuid} {name : String}
  {v : Value}

theorem drawn_of_links (h : console.handle moment path query world = (.ok response, world'))
    (hlinks : response.Links v id) :
    id = console.identifier world.drawn ∧ world'.drawn = world.drawn + 1 := by
  cases console.handle_ends moment h with
  | unprepared htask =>
    exact absurd hlinks (Response.not_links_of_isError (RouteError.isError_response _))
  | unnamed hroute =>
    exact absurd hlinks (Response.not_links_of_isError (RouteError.isError_response _))
  | named hroute hpromoted =>
    exact absurd hlinks (Response.not_links_of_plain (.inr (.inl rfl)))
  | answered htask hpersist hplain => exact absurd hlinks (Response.not_links_of_plain hplain)
  | performed htask hends =>
    cases hends with
    | refused houtcome hsame =>
      exact absurd hlinks (Response.not_links_of_isError (RouteError.isError_response _))
    | raised houtcome hguard hsame => exact absurd hlinks (Response.not_links_resultPage _)
    | null houtcome hsame => exact absurd hlinks (Response.not_links_resultPage _)
    | value houtcome hv hregistry hdrawn hreply =>
      obtain ⟨rendered, -, hpage⟩ := valueReply_eq_ok_iff.mp hreply.symm
      exact ⟨hlinks.id_eq ⟨_, hpage⟩, hdrawn⟩

theorem named?_handle (h : console.handle moment path query world = (reply, world'))
    (hname : ∀ id, ¬(Happening.requested moment path query reply).Promotes id name) :
    world'.registry.named? name = world.registry.named? name := by
  cases console.handle_ends moment h with
  | unprepared htask => rfl
  | unnamed hroute => rfl
  | answered htask hpersist hplain => rfl
  | @named token used given id v promoted hroute hpromoted =>
    have hne : name ≠ used := by
      rintro rfl
      exact hname id (.request hroute hpromoted.token_eq)
    rw [hpromoted.binds.named?_eq, if_neg hne]
  | performed htask hends =>
    cases hends with
    | refused houtcome hsame => rw [hsame.registry_eq]
    | raised houtcome hguard hsame => rw [hsame.registry_eq]
    | null houtcome hsame => rw [hsame.registry_eq]
    | value houtcome hv hregistry hdrawn hreply =>
      rw [hregistry]
      rfl

theorem named?_handle_of_promotes (h : console.handle moment path query world = (reply, world'))
    (hname : (Happening.requested moment path query reply).Promotes id name) :
    ∃ v, world.registry.find? id = some v ∧ world'.registry.named? name = some v := by
  cases hname with
  | request hroute htoken =>
    obtain ⟨other, v, used, hresponse, hpromoted⟩ := promoted_of_redirect h hroute rfl
    obtain rfl : other = id := Except.ok.inj (hpromoted.token_eq.symm.trans htoken)
    obtain rfl := Address.name_eq_of_ofValue_eq
      (Option.some.inj (congrArg Response.location hresponse))
    exact ⟨v, hpromoted.find?_eq, (hpromoted.binds.named?_eq _).trans (if_pos rfl)⟩

/-! ## One step -/

variable (console) in
/-- One thing that happens to a world, and what is recorded of it. -/
inductive Does (world : World) : List Happening → World → Prop
  | request (moment : Moment) (path : String) (query : Option String) {reply : Reply}
      {world' : World} (h : console.handle moment path query world = (reply, world')) :
      Does world [.requested moment path query reply] world'
  | add (now : UInt64) (v : Value) : Does world [] (world.addValue console now v).2
  | draw : Does world [] (world.drawIdentifier console).2
  | promote {id : Uuid} {name : String} {promoted : Registry}
      (h : world.registry.promote id name = .ok promoted) :
      Does world [.promoted id name] { world with registry := promoted }
  | promoteAuto {id : Uuid} {name : String} {promoted : Registry}
      (h : world.registry.promoteAuto id = .ok (name, promoted)) :
      Does world [.promoted id name] { world with registry := promoted }
  | sweep (now : UInt64) :
      Does world [.swept now] { world with registry := (world.registry.sweep now).2 }
  | elsewhere (heap : Heap) (delegate : Delegate) :
      Does world [] { world with heap := heap, delegate := delegate }

theorem step_iff_exists_does :
    console.Step world world' ↔ ∃ happenings, console.Does world happenings world' := by
  constructor
  · intro h
    cases h with
    | request moment path query => exact ⟨_, .request moment path query (Prod.eta _).symm⟩
    | add now v => exact ⟨_, .add now v⟩
    | draw => exact ⟨_, .draw⟩
    | promote h => exact ⟨_, .promote h⟩
    | promoteAuto h => exact ⟨_, .promoteAuto h⟩
    | sweep now => exact ⟨_, .sweep now⟩
    | elsewhere heap delegate => exact ⟨_, .elsewhere heap delegate⟩
  · rintro ⟨happenings, h⟩
    cases h with
    | request moment path query h =>
      obtain rfl : (console.handle moment path query world).2 = world' := congrArg Prod.snd h
      exact .request moment path query
    | add now v => exact .add now v
    | draw => exact .draw
    | promote h => exact .promote h
    | promoteAuto h => exact .promoteAuto h
    | sweep now => exact .sweep now
    | elsewhere heap delegate => exact .elsewhere heap delegate

/-- The worlds that a console can come to are those that come about on record. -/
theorem reachable_iff_recorded :
    console.Reachable world ↔ ∃ (start : World) (past : List Happening),
      start.registry = ∅ ∧ start.drawn = 0 ∧ Recorded console.Does start past world := by
  constructor
  · rintro ⟨start, hregistry, hdrawn, hsteps⟩
    suffices hrecorded : ∃ past, Recorded console.Does start past world by
      obtain ⟨past, hpast⟩ := hrecorded
      exact ⟨start, past, hregistry, hdrawn, hpast⟩
    induction hsteps with
    | refl => exact ⟨[], .refl⟩
    | tail _ hstep ih =>
      obtain ⟨past, hpast⟩ := ih
      obtain ⟨happenings, hdoes⟩ := step_iff_exists_does.mp hstep
      exact ⟨past ++ happenings, hpast.step hdoes⟩
  · rintro ⟨start, past, hregistry, hdrawn, hpast⟩
    refine ⟨start, hregistry, hdrawn, ?_⟩
    induction hpast with
    | refl => exact .refl
    | step _ hdoes ih => exact ih.tail (step_iff_exists_does.mpr ⟨_, hdoes⟩)

namespace Does

variable {happenings : List Happening} {happening : Happening} {entry : Entry}

theorem drawn_le (h : console.Does world happenings world') : world.drawn ≤ world'.drawn := by
  cases h with
  | request moment path query h =>
    rcases console.handle_entries h with ⟨-, hdrawn⟩ | ⟨v, -, hdrawn⟩
    · exact Nat.le_of_eq hdrawn.symm
    · exact Nat.le_of_lt (Nat.lt_of_succ_le (Nat.le_of_eq hdrawn.symm))
  | add | draw => exact Nat.le_succ _
  | promote | promoteAuto | sweep | elsewhere => exact Nat.le_refl _

/-- An entry is dropped by a sweep that finds it too old, and by nothing else, unless its identifier
is drawn once more. -/
theorem get?_eq_some_iff (h : console.Does world happenings world')
    (hid : ∀ k, world.drawn ≤ k → k < world'.drawn → console.identifier k ≠ id) :
    world'.registry.ephemeral.get? id = some entry ↔
      world.registry.ephemeral.get? id = some entry ∧
        ∀ now, .swept now ∈ happenings →
          now.toNat ≤ entry.createdAt.toNat + Registry.lifetime.toNat := by
  -- an addition concerns the identifier that it draws
  have hadd (hdrawn : world'.drawn = world.drawn + 1) (now : UInt64) (v : Value) :
      (world.registry.add now (console.identifier world.drawn) v).ephemeral.get? id =
        world.registry.ephemeral.get? id := by
    rw [Registry.get?_add, if_neg]
    exact (hid world.drawn (Nat.le_refl _) (by omega)).symm
  cases h with
  | request moment path query h =>
    rcases console.handle_entries h with ⟨hephemeral, -⟩ | ⟨v, hregistry, hdrawn⟩
    · simp [hephemeral]
    · simp [hregistry, hadd hdrawn]
  | add now v => simp [World.addValue, World.drawIdentifier, hadd rfl]
  | draw => simp [World.drawIdentifier]
  | promote h =>
    obtain ⟨-, v, -, hbinds⟩ := Registry.binds_of_promote h
    simp [hbinds.ephemeral_eq]
  | promoteAuto h =>
    obtain ⟨v, -, hbinds⟩ := Registry.binds_of_promoteAuto h
    simp [hbinds.ephemeral_eq]
  | sweep now => simp [Registry.get?_sweep_eq_some_iff]
  | elsewhere heap delegate => simp

theorem named?_eq (h : console.Does world happenings world')
    (hname : ∀ happening ∈ happenings, ∀ id, ¬happening.Promotes id name) :
    world'.registry.named? name = world.registry.named? name := by
  cases h with
  | request moment path query h => exact named?_handle h (hname _ List.mem_cons_self)
  | add now v => rfl
  | draw => rfl
  | promote h =>
    obtain ⟨-, v, -, hbinds⟩ := Registry.binds_of_promote h
    rw [hbinds.named?_eq, if_neg]
    rintro rfl
    exact hname _ List.mem_cons_self _ .direct
  | promoteAuto h =>
    obtain ⟨v, -, hbinds⟩ := Registry.binds_of_promoteAuto h
    rw [hbinds.named?_eq, if_neg]
    rintro rfl
    exact hname _ List.mem_cons_self _ .direct
  | sweep now => rfl
  | elsewhere heap delegate => rfl

theorem named?_of_promotes (h : console.Does world [happening] world')
    (hname : happening.Promotes id name) :
    ∃ v, world.registry.find? id = some v ∧ world'.registry.named? name = some v := by
  cases h with
  | request moment path query h => exact named?_handle_of_promotes h hname
  | promote h =>
    cases hname
    obtain ⟨-, v, hfind, hbinds⟩ := Registry.binds_of_promote h
    exact ⟨v, hfind, (hbinds.named?_eq _).trans (if_pos rfl)⟩
  | promoteAuto h =>
    cases hname
    obtain ⟨v, hfind, hbinds⟩ := Registry.binds_of_promoteAuto h
    exact ⟨v, hfind, (hbinds.named?_eq _).trans (if_pos rfl)⟩
  | sweep now => cases hname

theorem drawn_of_carries (h : console.Does world happenings world')
    (hmem : happening ∈ happenings) (hcarries : happening.Carries id) :
    id = console.identifier world.drawn ∧ world'.drawn = world.drawn + 1 := by
  cases hcarries with
  | page hlinks =>
    cases h with
    | request moment path query h =>
      cases List.mem_singleton.mp hmem
      exact drawn_of_links h hlinks
    | promote | promoteAuto | sweep => cases List.mem_singleton.mp hmem
    | add | draw | elsewhere => cases hmem

end Does

end Console

/-! ## Runs -/

namespace Recorded

open Console

variable {console : Console} {start world : World} {past : List Happening} {id : Uuid}
  {name : String} {entry : Entry}

theorem drawn_le (h : Recorded console.Does start past world) : start.drawn ≤ world.drawn := by
  induction h with
  | refl => exact Nat.le_refl _
  | step _ hdoes ih => exact Nat.le_trans ih hdoes.drawn_le

/-- An entry is there until a sweep finds it too old. -/
theorem get?_eq_some_iff (h : Recorded console.Does start past world)
    (hid : ∀ k, start.drawn ≤ k → k < world.drawn → console.identifier k ≠ id) :
    world.registry.ephemeral.get? id = some entry ↔
      start.registry.ephemeral.get? id = some entry ∧
        ∀ now, .swept now ∈ past →
          now.toNat ≤ entry.createdAt.toNat + Registry.lifetime.toNat := by
  induction h with
  | refl => simp
  | @step past new state state' hrun hdoes ih =>
    rw [hdoes.get?_eq_some_iff fun k hle ↦ hid k (Nat.le_trans hrun.drawn_le hle),
      ih fun k hle hlt ↦ hid k hle (Nat.lt_of_lt_of_le hlt hdoes.drawn_le), and_assoc]
    simp only [List.mem_append, or_imp, forall_and]

theorem named?_eq (h : Recorded console.Does start past world)
    (hname : ∀ happening ∈ past, ∀ id, ¬happening.Promotes id name) :
    world.registry.named? name = start.registry.named? name := by
  induction h with
  | refl => rfl
  | step _ hdoes ih =>
    rw [hdoes.named?_eq fun happening hmem ↦ hname happening (List.mem_append_right _ hmem)]
    exact ih fun happening hmem ↦ hname happening (List.mem_append_left _ hmem)

theorem exists_drawn_of_carries (h : Recorded console.Does start past world)
    {happening : Happening} (hmem : happening ∈ past) (hcarries : happening.Carries id) :
    ∃ k, start.drawn ≤ k ∧ k < world.drawn ∧ console.identifier k = id := by
  induction h with
  | refl => cases hmem
  | @step past new state state' hrun hdoes ih =>
    rcases List.mem_append.mp hmem with hearlier | hnew
    · obtain ⟨k, hle, hlt, hidentifier⟩ := ih hearlier
      exact ⟨k, hle, Nat.lt_of_lt_of_le hlt hdoes.drawn_le, hidentifier⟩
    · obtain ⟨hid, hdrawn⟩ := hdoes.drawn_of_carries hnew hcarries
      exact ⟨state.drawn, hrun.drawn_le, hdrawn ▸ Nat.lt_succ_self _, hid.symm⟩

end Recorded

end ObjectConsole
