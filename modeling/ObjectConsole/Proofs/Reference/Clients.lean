import Mathlib.Logic.Function.Basic
import ObjectConsole.Proofs.Recorded
import ObjectConsole.Proofs.Reference.AutomaticName

/-!
# Clients of one registry

`Registry` has one operation for each call, but calls of several clients overlap. What is done
without being interrupted is one lookup in a table, one insertion, or one draw of a name. A `Move`
is such a piece of a call, and between any two of them all other clients may act. Undisturbed, the
pieces make up the operations (`Clients.exists_recorded_promote`,
`Clients.exists_recorded_promoteAuto`).

A client that is given an automatic name looks whether the name is free and binds it afterwards. In
between others may have bound it, and their binding is then replaced. So an automatic promotion
replaces a binding only if its look came first, while an explicit one always replaces what it finds
(`Clients.names_kept`). Two automatic promotions never return the same name before the counter goes
around, since each name is drawn once.
-/

namespace ObjectConsole.Registry

open Store

/-! ## Calls in pieces -/

/-- How far a client is with a call. -/
inductive Progress where
  | idle
  /-- The value to be bound has been found. -/
  | naming (v : Value) (name : String)
  | drawing (v : Value)
  | looking (v : Value) (name : String)
  /-- The name has been found free. -/
  | settled (v : Value) (name : String)

/-- One thing that a client did. -/
inductive Deed where
  | missed (client : Nat) (id : Uuid)
  | drew (client : Nat) (name : String)
  | sawBound (client : Nat) (name : String)
  | sawFree (client : Nat) (name : String)
  | promoted (client : Nat) (name : String) (v : Value)
  | autoPromoted (client : Nat) (name : String) (v : Value)

/-- What a client does without being interrupted. -/
inductive Move (client : Nat) (registry : Registry) :
    Progress → List Deed → Progress → Registry → Prop
  | miss {id : Uuid} (hfind : registry.find? id = none) :
      Move client registry .idle [.missed client id] .idle registry
  -- a promotion
  | find {id : Uuid} {v : Value} (name : String) (hfind : registry.find? id = some v) :
      Move client registry .idle [] (.naming v name) registry
  | bind (v : Value) (name : String) :
      Move client registry (.naming v name) [.promoted client name v] .idle (registry.bind name v)
  -- an automatic promotion
  | findAuto {id : Uuid} {v : Value} (hfind : registry.find? id = some v) :
      Move client registry .idle [] (.drawing v) registry
  | draw (v : Value) :
      Move client registry (.drawing v) [.drew client registry.drawName.1]
        (.looking v registry.drawName.1) registry.drawName.2
  | pass {name : String} (v : Value) (hbound : (registry.named? name).isSome) :
      Move client registry (.looking v name) [.sawBound client name] (.drawing v) registry
  | settle {name : String} (v : Value) (hfree : registry.named? name = none) :
      Move client registry (.looking v name) [.sawFree client name] (.settled v name) registry
  | bindAuto (v : Value) (name : String) :
      Move client registry (.settled v name) [.autoPromoted client name v] .idle
        (registry.bind name v)

/-- A registry and how far each client of it is. -/
structure Clients where
  registry : Registry := ∅
  progress : Nat → Progress := fun _ ↦ .idle

namespace Clients

/-- The clients when one of them has come further and the registry has changed. -/
def turn (clients : Clients) (client : Nat) (progress : Progress) (registry : Registry) :
    Clients where
  registry := registry
  progress := Function.update clients.progress client progress

section

variable (clients : Clients) (client : Nat) (progress : Progress) (registry : Registry)

@[simp] theorem registry_turn : (clients.turn client progress registry).registry = registry := rfl

@[simp] theorem progress_turn_self :
    (clients.turn client progress registry).progress client = progress :=
  Function.update_self _ _ _

theorem turn_turn (progress' : Progress) (registry' : Registry) :
    (clients.turn client progress registry).turn client progress' registry' =
      clients.turn client progress' registry' := by
  rw [turn, turn, turn, Function.update_idem]

theorem turn_of_progress_eq {progress : Progress} (h : clients.progress client = progress) :
    clients.turn client progress registry = { clients with registry := registry } := by
  rw [turn, ← h, Function.update_eq_self]

theorem progress_turn_of_ne {other : Nat} (h : other ≠ client) :
    (clients.turn client progress registry).progress other = clients.progress other :=
  Function.update_of_ne h _ _

end

/-- One client moves, or the entries change, which other calls may do at any time. -/
inductive Step (clients : Clients) : List Deed → Clients → Prop
  | move {client : Nat} {deeds : List Deed} {progress : Progress} {registry : Registry}
      (hmove : Move client clients.registry (clients.progress client) deeds progress registry) :
      Step clients deeds (clients.turn client progress registry)
  | elsewhere (table : Table Uuid Entry) :
      Step clients [] { clients with registry := { clients.registry with ephemeral := table } }

end Clients

/-! ## What a record tells -/

namespace Deed

/-- The client whose deed it is. -/
def client : Deed → Nat
  | missed client _ | drew client _ | sawBound client _ | sawFree client _ => client
  | promoted client _ _ | autoPromoted client _ _ => client

/-- The name that was drawn. -/
def drawn? : Deed → Option String
  | drew _ name => some name
  | _ => none

/-- The name that an automatic promotion returned. -/
def returned? : Deed → Option String
  | autoPromoted _ name _ => some name
  | _ => none

/-- What a name stands for after a deed, given what it stood for before. -/
def standing (name : String) (found : Option Value) : Deed → Option Value
  | promoted _ bound v | autoPromoted _ bound v => if name = bound then some v else found
  | _ => found

/-- The names that were drawn, in order. -/
def drawn (past : List Deed) : List String :=
  past.filterMap Deed.drawn?

/-- The names that automatic promotions returned, in order. -/
def returned (past : List Deed) : List String :=
  past.filterMap Deed.returned?

theorem drawn_nil : drawn [] = [] := rfl

theorem returned_nil : returned [] = [] := rfl

theorem drawn_append (past deeds : List Deed) : drawn (past ++ deeds) = drawn past ++ drawn deeds :=
  List.filterMap_append

theorem returned_append (past deeds : List Deed) :
    returned (past ++ deeds) = returned past ++ returned deeds :=
  List.filterMap_append

end Deed

theorem isSome_foldl_standing {past : List Deed} {name : String} {found : Option Value}
    (h : found.isSome) : (past.foldl (Deed.standing name) found).isSome := by
  induction past generalizing found with
  | nil => exact h
  | cons deed past ih =>
    refine ih ?_
    cases deed with
    | promoted client bound v | autoPromoted client bound v =>
      rw [Deed.standing]
      split
      · rfl
      · exact h
    | _ => exact h

/-! ## One move -/

/-- The name that a client was given and has not bound yet. -/
def Progress.held? : Progress → Option String
  | looking _ name | settled _ name => some name
  | _ => none

namespace Move

variable {client : Nat} {registry registry' : Registry} {progress progress' : Progress}
  {deeds : List Deed}

theorem deeds_eq (h : Move client registry progress deeds progress' registry') :
    deeds = [] ∨ ∃ deed, deeds = [deed] := by
  cases h <;> simp

theorem client_eq (h : Move client registry progress deeds progress' registry') :
    ∀ deed ∈ deeds, deed.client = client := by
  cases h <;> simp [Deed.client]

theorem named?_eq (h : Move client registry progress deeds progress' registry') (name : String) :
    registry'.named? name = deeds.foldl (Deed.standing name) (registry.named? name) := by
  cases h with
  | bind | bindAuto => exact named?_bind _ _ _
  | _ => rfl

theorem of_settled {v : Value} {name : String}
    (h : Move client registry progress deeds (.settled v name) registry') :
    deeds = [.sawFree client name] := by
  cases h with
  | settle => rfl

theorem named?_eq_none_of_sawFree {other : Nat} {name : String}
    (h : Move client registry progress [.sawFree other name] progress' registry') :
    registry.named? name = none := by
  cases h with
  | settle _ hfree => exact hfree

theorem of_autoPromoted {other : Nat} {name : String} {v : Value}
    (h : Move client registry progress [.autoPromoted other name v] progress' registry') :
    other = client ∧ progress = .settled v name := by
  cases h with
  | bindAuto => exact ⟨rfl, rfl⟩

/-- A client holds on to its name, gets one by a draw, or returns the one it has. -/
theorem names (h : Move client registry progress deeds progress' registry') :
    ((progress'.held? = none ∨ progress'.held? = progress.held?) ∧
        Deed.drawn deeds = [] ∧ Deed.returned deeds = []) ∨
      (∃ name, progress'.held? = some name ∧ Deed.drawn deeds = [name] ∧ Deed.returned deeds = []) ∨
      ∃ name, progress.held? = some name ∧ progress'.held? = none ∧ Deed.drawn deeds = [] ∧
        Deed.returned deeds = [name] := by
  cases h with
  | draw v => exact .inr (.inl ⟨_, rfl, rfl, rfl⟩)
  | bindAuto v name => exact .inr (.inr ⟨name, rfl, rfl, rfl, rfl⟩)
  | settle => exact .inl ⟨.inr rfl, rfl, rfl⟩
  | _ => exact .inl ⟨.inl rfl, rfl, rfl⟩

/-- Names are drawn one after another. -/
theorem drawn_eq (h : Move client registry progress deeds progress' registry') :
    Deed.drawn deeds = (List.range (Deed.drawn deeds).length).map registry.numbered ∧
      registry'.nextName = registry.nextName + UInt64.ofNat (Deed.drawn deeds).length := by
  cases h with
  | draw v => exact ⟨by simp [Deed.drawn, Deed.drawn?, fst_drawName, List.range_succ], rfl⟩
  | _ => exact ⟨rfl, (UInt64.add_zero _).symm⟩

end Move

/-! ## Many moves -/

namespace Clients

variable {start clients clients' : Clients} {registry : Registry} {past deeds : List Deed}

theorem Step.deeds_eq (h : clients.Step deeds clients') :
    deeds = [] ∨ ∃ deed, deeds = [deed] := by
  cases h with
  | move hmove => exact hmove.deeds_eq
  | elsewhere => exact .inl rfl

theorem Step.of_move (client : Nat) {progress progress' : Progress}
    (hclient : clients.progress client = progress)
    (hmove : Move client clients.registry progress deeds progress' registry) :
    clients.Step deeds (clients.turn client progress' registry) :=
  .move (hclient ▸ hmove)

/-! ### Undisturbed calls -/

section

variable {client : Nat} {id : Uuid} {v : Value} {name : String} {promoted : Registry}

theorem recorded_promote (client : Nat) (hclient : clients.progress client = .idle)
    (hfind : clients.registry.find? id = some v) (name : String) :
    Recorded Step clients [.promoted client name v]
      (clients.turn client .idle (clients.registry.bind name v)) := by
  have hfound := Recorded.single (Step.of_move _ hclient (.find name hfind))
  have hbound := hfound.step (.of_move _ (progress_turn_self _ _ _ _) (.bind v name))
  rwa [turn_turn] at hbound

theorem recorded_settle (hclient : clients.progress client = .drawing v)
    (hfree : clients.registry.named? clients.registry.drawName.1 = none) :
    Recorded Step clients
      [.drew client clients.registry.drawName.1, .sawFree client clients.registry.drawName.1]
      (clients.turn client (.settled v clients.registry.drawName.1)
        clients.registry.drawName.2) := by
  have hdrawn := Recorded.single (Step.of_move _ hclient (.draw v))
  have hsettled := hdrawn.step (.of_move _ (progress_turn_self _ _ _ _) (.settle v hfree))
  rwa [turn_turn] at hsettled

theorem exists_recorded_promote (hclient : clients.progress client = .idle)
    (h : clients.registry.promote id name = .ok promoted) :
    ∃ v, Recorded Step clients [.promoted client name v] { clients with registry := promoted } := by
  rw [promote] at h
  cases hfind : clients.registry.find? id with
  | none => rw [hfind] at h; cases h
  | some v =>
    rw [hfind] at h
    cases h
    have hbound := recorded_promote client hclient hfind name
    rw [turn_of_progress_eq _ _ _ hclient] at hbound
    exact ⟨v, hbound⟩

theorem exists_recorded_drawFreeName (bound : Nat)
    (hclient : clients.progress client = .drawing v)
    (hfree : clients.registry.named? (clients.registry.drawFreeName bound).1 = none) :
    ∃ past, Recorded Step clients past
      (clients.turn client (.settled v (clients.registry.drawFreeName bound).1)
        (clients.registry.drawFreeName bound).2) := by
  induction bound generalizing clients with
  | zero => exact ⟨_, recorded_settle hclient hfree⟩
  | succ bound ih =>
    rw [drawFreeName] at hfree ⊢
    split
    · next hbound =>
      rw [if_pos hbound] at hfree
      have hdrawn := Recorded.single (Step.of_move _ hclient (.draw v))
      have hpassed := hdrawn.step (.of_move _ (progress_turn_self _ _ _ _) (.pass v hbound))
      rw [turn_turn] at hpassed
      obtain ⟨past, hpast⟩ :=
        @ih (clients.turn client (.drawing v) clients.registry.drawName.2)
          (progress_turn_self _ _ _ _) hfree
      rw [turn_turn] at hpast
      exact ⟨_, hpassed.trans hpast⟩
    · next hunbound =>
      rw [if_neg hunbound] at hfree
      exact ⟨_, recorded_settle hclient hfree⟩

theorem exists_recorded_promoteAuto (hclient : clients.progress client = .idle)
    (hsize : clients.registry.persistent.size < UInt64.size)
    (h : clients.registry.promoteAuto id = .ok (name, promoted)) :
    ∃ past v, Recorded Step clients (past ++ [.autoPromoted client name v])
      { clients with registry := promoted } := by
  rw [promoteAuto] at h
  cases hfind : clients.registry.find? id with
  | none => rw [hfind] at h; cases h
  | some v =>
    rw [hfind] at h
    cases h
    have hfound := Recorded.single (Step.of_move _ hclient (.findAuto hfind))
    obtain ⟨past, hpast⟩ := exists_recorded_drawFreeName clients.registry.persistent.size
      (progress_turn_self clients client (.drawing v) clients.registry)
      (named?_fst_drawFreeName _ hsize)
    have hbound := (hfound.trans hpast).step
      (.of_move _ (progress_turn_self _ _ _ _) (.bindAuto v _))
    rw [turn_turn, turn_turn, turn_of_progress_eq _ _ _ hclient] at hbound
    exact ⟨_, v, hbound⟩

end

/-! ### What names stand for -/

theorem named?_eq (h : Recorded Step start past clients) (name : String) :
    clients.registry.named? name =
      past.foldl (Deed.standing name) (start.registry.named? name) := by
  induction h with
  | refl => rfl
  | step _ hstep ih =>
    rw [List.foldl_append, ← ih]
    cases hstep with
    | move hmove => exact hmove.named?_eq name
    | elsewhere => rfl

/-- A settled client has seen its name free, and has done nothing since. -/
theorem exists_sawFree_of_settled (h : Recorded Step { registry := registry } past clients)
    {client : Nat} {v : Value} {name : String}
    (hclient : clients.progress client = .settled v name) :
    ∃ before after, past = before ++ .sawFree client name :: after ∧
      ∀ deed ∈ after, deed.client ≠ client := by
  induction h with
  | refl => cases hclient
  | @step past deeds clients clients' _ hstep ih =>
    cases hstep with
    | elsewhere =>
      obtain ⟨before, after, rfl, hafter⟩ := ih hclient
      exact ⟨before, after, List.append_nil _, hafter⟩
    | @move mover _ progress registry' hmove =>
      by_cases hmover : client = mover
      · subst hmover
        rw [progress_turn_self] at hclient
        subst hclient
        rw [hmove.of_settled]
        exact ⟨past, [], rfl, by simp⟩
      · rw [progress_turn_of_ne _ _ _ _ hmover] at hclient
        obtain ⟨before, after, rfl, hafter⟩ := ih hclient
        refine ⟨before, after ++ deeds, by simp, ?_⟩
        intro deed hdeed
        rcases List.mem_append.mp hdeed with hdeed | hdeed
        · exact hafter deed hdeed
        · rw [hmove.client_eq deed hdeed]
          exact Ne.symm hmover

/-- A client that sees a name free looks before anything that binds the name. -/
theorem named?_eq_none_of_sawFree (h : Recorded Step start past clients) {before after : List Deed}
    {client : Nat} {name : String} (hpast : past = before ++ .sawFree client name :: after) :
    before.foldl (Deed.standing name) (start.registry.named? name) = none := by
  obtain ⟨looking, found, hlooking, hstep, -⟩ := h.exists_step Step.deeds_eq hpast
  rw [← named?_eq hlooking]
  generalize hdeeds : [Deed.sawFree client name] = deeds at hstep
  cases hstep with
  | elsewhere => cases hdeeds
  | move hmove =>
    subst hdeeds
    exact hmove.named?_eq_none_of_sawFree

/-- A client that returns an automatic name was settled on it. -/
theorem exists_settled_of_autoPromoted (h : Recorded Step start past clients)
    {before after : List Deed} {client : Nat} {name : String} {v : Value}
    (hpast : past = before ++ .autoPromoted client name v :: after) :
    ∃ settled, Recorded Step start before settled ∧
      settled.progress client = .settled v name := by
  obtain ⟨settled, returned, hsettled, hstep, -⟩ := h.exists_step Step.deeds_eq hpast
  refine ⟨settled, hsettled, ?_⟩
  generalize hdeeds : [Deed.autoPromoted client name v] = deeds at hstep
  cases hstep with
  | elsewhere => cases hdeeds
  | move hmove =>
    subst hdeeds
    obtain ⟨rfl, hprogress⟩ := hmove.of_autoPromoted
    exact hprogress

/-- The look that an automatic promotion relies on came before whatever bound the name by then. -/
theorem exists_sawFree_of_autoPromoted (h : Recorded Step { registry := registry } past clients)
    {before between rest : List Deed} {deed : Deed} {client : Nat} {name : String} {v : Value}
    (hbinds : ∀ found, (deed.standing name found).isSome)
    (hpast : past = before ++ deed :: between ++ .autoPromoted client name v :: rest) :
    ∃ earlier middle, before = earlier ++ .sawFree client name :: middle ∧
      ∀ other ∈ middle ++ deed :: between, other.client ≠ client := by
  obtain ⟨settled, hrecorded, hsettled⟩ := exists_settled_of_autoPromoted h hpast
  obtain ⟨earlier, later, hlook, hlater⟩ := exists_sawFree_of_settled hrecorded hsettled
  have hdeed : deed ≠ .sawFree client name := by
    rintro rfl
    cases hbinds none
  rcases List.append_eq_append_iff.mp hlook with
    ⟨middle, hearlier, hrest⟩ | ⟨middle, hbefore, hrest⟩
  · cases middle with
    | nil => exact absurd (List.cons.inj hrest).1 hdeed
    | cons first middle =>
      -- the look would have come after the deed, and found the name bound
      obtain ⟨rfl, -⟩ := List.cons.inj hrest
      have hnone := named?_eq_none_of_sawFree hrecorded hlook
      have hsome : (earlier.foldl (Deed.standing name) (registry.named? name)).isSome := by
        rw [hearlier, List.foldl_append, List.foldl_cons]
        exact isSome_foldl_standing (hbinds _)
      rw [hnone] at hsome
      cases hsome
  · cases middle with
    | nil => exact absurd (List.cons.inj hrest).1.symm hdeed
    | cons first middle =>
      obtain ⟨rfl, rfl⟩ := List.cons.inj hrest
      exact ⟨earlier, middle, hbefore, hlater⟩

/-! ## Distinct names -/

/-- Names are drawn one after another, by whichever clients. -/
theorem drawn_eq (h : Recorded Step start past clients) :
    Deed.drawn past = (List.range (Deed.drawn past).length).map start.registry.numbered ∧
      clients.registry.nextName =
        start.registry.nextName + UInt64.ofNat (Deed.drawn past).length := by
  induction h with
  | refl => exact ⟨rfl, (UInt64.add_zero _).symm⟩
  | @step past deeds clients clients' _ hstep ih =>
    obtain ⟨hpast, hnext⟩ := ih
    have hstep : Deed.drawn deeds =
          (List.range (Deed.drawn deeds).length).map clients.registry.numbered ∧
        clients'.registry.nextName =
          clients.registry.nextName + UInt64.ofNat (Deed.drawn deeds).length := by
      cases hstep with
      | move hmove => exact hmove.drawn_eq
      | elsewhere => exact ⟨rfl, (UInt64.add_zero _).symm⟩
    have hnumbered (draws : Nat) : clients.registry.numbered draws =
        start.registry.numbered ((Deed.drawn past).length + draws) := by
      rw [numbered, numbered, hnext, UInt64.ofNat_add, UInt64.add_assoc]
    rw [Deed.drawn_append, List.length_append]
    constructor
    · rw [List.range_add, List.map_append, ← hpast, List.map_map, hstep.1]
      simp [Function.comp_def, hnumbered]
    · rw [hstep.2, hnext, UInt64.ofNat_add, UInt64.add_assoc]

/-- Of the names that were drawn, none is in two hands, in a client's hands and returned, or
returned twice. -/
structure Apart (drawn returned : List String) (clients : Clients) : Prop where
  held : ∀ {client name}, (clients.progress client).held? = some name →
    name ∈ drawn ∧ name ∉ returned
  distinct : ∀ {client other name}, (clients.progress client).held? = some name →
    (clients.progress other).held? = some name → client = other
  returned_subset : returned ⊆ drawn
  nodup_returned : returned.Nodup

namespace Apart

variable {drawn returned : List String} {client : Nat} {progress : Progress} {name : String}

/-- What a client holds after a turn, it got by the turn or another client held before. -/
theorem held?_turn {other : Nat} {held : String}
    (h : ((clients.turn client progress registry).progress other).held? = some held) :
    other = client ∧ progress.held? = some held ∨
      other ≠ client ∧ (clients.progress other).held? = some held := by
  by_cases heq : other = client
  · subst heq
    rw [progress_turn_self] at h
    exact .inl ⟨rfl, h⟩
  · rw [progress_turn_of_ne _ _ _ _ heq] at h
    exact .inr ⟨heq, h⟩

theorem keep (h : Apart drawn returned clients)
    (hheld : progress.held? = none ∨ progress.held? = (clients.progress client).held?) :
    Apart drawn returned (clients.turn client progress registry) := by
  have hbefore {other : Nat} {held : String}
      (hother : ((clients.turn client progress registry).progress other).held? = some held) :
      (clients.progress other).held? = some held := by
    rcases held?_turn hother with ⟨rfl, hnow⟩ | ⟨-, hold⟩
    · rcases hheld with hnone | hsame
      · rw [hnone] at hnow
        cases hnow
      · rwa [← hsame]
    · exact hold
  exact ⟨fun hother ↦ h.held (hbefore hother),
    fun hone hother ↦ h.distinct (hbefore hone) (hbefore hother), h.returned_subset,
    h.nodup_returned⟩

theorem draw (h : Apart drawn returned clients) (hheld : progress.held? = some name)
    (hfirst : name ∉ drawn) :
    Apart (drawn ++ [name]) returned (clients.turn client progress registry) := by
  refine ⟨?_, ?_, List.subset_append_of_subset_left _ h.returned_subset, h.nodup_returned⟩
  · intro other held hother
    rcases held?_turn hother with ⟨-, hnow⟩ | ⟨-, hold⟩
    · cases hheld.symm.trans hnow
      exact ⟨by simp, fun hmem ↦ hfirst (h.returned_subset hmem)⟩
    · exact ⟨List.mem_append_left _ (h.held hold).1, (h.held hold).2⟩
  · intro one other held hone hother
    rcases held?_turn hone with ⟨rfl, hnow⟩ | ⟨-, hold⟩ <;>
      rcases held?_turn hother with ⟨rfl, hnow'⟩ | ⟨-, hold'⟩
    · rfl
    · cases hheld.symm.trans hnow
      exact absurd (h.held hold').1 hfirst
    · cases hheld.symm.trans hnow'
      exact absurd (h.held hold).1 hfirst
    · exact h.distinct hold hold'

theorem giveBack (h : Apart drawn returned clients)
    (hclient : (clients.progress client).held? = some name) (hheld : progress.held? = none) :
    Apart drawn (returned ++ [name]) (clients.turn client progress registry) := by
  have hbefore {other : Nat} {held : String}
      (hother : ((clients.turn client progress registry).progress other).held? = some held) :
      other ≠ client ∧ (clients.progress other).held? = some held := by
    refine (held?_turn hother).resolve_left ?_
    rintro ⟨-, hnow⟩
    cases hheld.symm.trans hnow
  obtain ⟨hdrawn, hnew⟩ := h.held hclient
  refine ⟨?_, fun hone hother ↦ h.distinct (hbefore hone).2 (hbefore hother).2, ?_, ?_⟩
  · intro other held hother
    obtain ⟨hne, hold⟩ := hbefore hother
    rw [List.mem_append, List.mem_singleton, not_or]
    refine ⟨(h.held hold).1, (h.held hold).2, ?_⟩
    rintro rfl
    exact hne (h.distinct hold hclient)
  · exact List.append_subset.mpr ⟨h.returned_subset, by simpa using hdrawn⟩
  · rw [← List.concat_eq_append]
    exact h.nodup_returned.concat hnew

end Apart

/-- Names stay apart as long as none is drawn twice. -/
theorem apart_of_recorded (h : Recorded Step { registry := registry } past clients)
    (hdrawn : (Deed.drawn past).Nodup) :
    Apart (Deed.drawn past) (Deed.returned past) clients := by
  induction h with
  | refl => exact ⟨nofun, nofun, List.nil_subset _, List.nodup_nil⟩
  | @step past deeds clients clients' _ hstep ih =>
    rw [Deed.drawn_append] at hdrawn
    obtain ⟨hpast, -, hdisjoint⟩ := List.nodup_append.mp hdrawn
    have hapart := ih hpast
    rw [Deed.drawn_append, Deed.returned_append]
    cases hstep with
    | elsewhere =>
      rw [Deed.drawn_nil, Deed.returned_nil, List.append_nil, List.append_nil]
      exact ⟨hapart.held, hapart.distinct, hapart.returned_subset, hapart.nodup_returned⟩
    | move hmove =>
      rcases hmove.names with ⟨hheld, hdrew, hreturned⟩ | ⟨name, hheld, hdrew, hreturned⟩ |
        ⟨name, hclient, hheld, hdrew, hreturned⟩
      · rw [hdrew, hreturned, List.append_nil, List.append_nil]
        exact hapart.keep hheld
      · rw [hdrew, hreturned, List.append_nil]
        exact hapart.draw hheld fun hmem ↦ hdisjoint name hmem name (by simp [hdrew]) rfl
      · rw [hdrew, hreturned, List.append_nil]
        exact hapart.giveBack hclient hheld

/-- **Whose binding is replaced by whom.** Once a promotion has returned, its name stands for the
value that was bound last, by it or later. What binds the name later is an explicit promotion, or an
automatic one whose client saw the name free before the promotion, and did nothing in between. As
long as the counter has not gone around, no two automatic promotions return the same name. -/
theorem names_kept (h : Recorded Step { registry := registry } past clients) :
    (∀ before after client name v, past = before ++ .promoted client name v :: after →
      clients.registry.named? name = after.foldl (Deed.standing name) (some v) ∧
      ∀ between rest other w, after = between ++ .autoPromoted other name w :: rest →
        ∃ earlier middle, before = earlier ++ .sawFree other name :: middle ∧
          ∀ deed ∈ middle ++ .promoted client name v :: between, deed.client ≠ other) ∧
    ((Deed.drawn past).length ≤ UInt64.size → (Deed.returned past).Nodup) := by
  constructor
  · rintro before after client name v rfl
    have hbinds (found : Option Value) :
        (Deed.promoted client name v).standing name found = some v :=
      if_pos rfl
    constructor
    · rw [named?_eq h, List.foldl_append, List.foldl_cons, hbinds]
    · rintro between rest other w rfl
      have hsplit :
          before ++ .promoted client name v :: (between ++ .autoPromoted other name w :: rest) =
            before ++ .promoted client name v :: between ++ .autoPromoted other name w :: rest := by
        simp
      refine exists_sawFree_of_autoPromoted h (fun found ↦ ?_) hsplit
      rw [hbinds]
      rfl
  · intro hlength
    have hdrawn : (Deed.drawn past).Nodup := by
      rw [(drawn_eq h).1]
      exact nodup_map_numbered _ hlength
    exact (apart_of_recorded h hdrawn).nodup_returned

/-! ## What is not kept -/

/-- A registry with two entries. -/
def twoEntries : Registry :=
  ((∅ : Registry).add 0 .nil (.bool true)).add 0 (.ofNat 1) (.bool false)

/-- A client promotes under the very name that another one has just seen free. -/
def overtaken : List Deed :=
  [.drew 0 (autoName 0), .sawFree 0 (autoName 0), .promoted 1 (autoName 0) (.bool true),
    .autoPromoted 0 (autoName 0) (.bool false)]

theorem exists_recorded_overtaken :
    ∃ clients, Recorded Step { registry := twoEntries } overtaken clients ∧
      clients.registry.named? (autoName 0) = some (.bool false) := by
  have hfirst : twoEntries.find? .nil = some (.bool true) := by decide
  have hsecond : twoEntries.find? (.ofNat 1) = some (.bool false) := by decide
  have hfound : Recorded Step { registry := twoEntries } [] _ :=
    .single (.of_move 0 rfl (.findAuto hsecond))
  have hsettled := hfound.trans (recorded_settle (progress_turn_self _ _ _ _) rfl)
  have hpromoted := hsettled.trans (recorded_promote 1 rfl hfirst (autoName 0))
  have hreplaced := hpromoted.step (.of_move 0 rfl (.bindAuto _ _))
  exact ⟨_, hreplaced, by decide⟩

theorem names_kept_overtaken :
    (∃ clients, Recorded Step { registry := twoEntries } overtaken clients) ∧
      (∃ earlier middle, [.drew 0 (autoName 0), .sawFree 0 (autoName 0)] =
          earlier ++ Deed.sawFree 0 (autoName 0) :: middle ∧
        ∀ deed ∈ middle ++ [.promoted 1 (autoName 0) (.bool true)], deed.client ≠ 0) ∧
      (Deed.returned overtaken).Nodup := by
  obtain ⟨clients, hrecorded, -⟩ := exists_recorded_overtaken
  obtain ⟨hkept, hnodup⟩ := names_kept hrecorded
  refine ⟨⟨clients, hrecorded⟩, ?_, hnodup (by decide)⟩
  exact (hkept _ _ 1 (autoName 0) (.bool true) rfl).2 [] [] 0 (.bool false) rfl

/-- The clients when each of some has drawn a name and seen it free. -/
def crowd (count : Nat) : Clients where
  registry := { twoEntries with nextName := UInt64.ofNat count }
  progress client :=
    if client < count then .settled (.bool true) (autoName (UInt64.ofNat client)) else .idle

theorem turn_crowd (count : Nat) :
    (crowd count).turn count (.settled (.bool true) (crowd count).registry.drawName.1)
      (crowd count).registry.drawName.2 = crowd (count + 1) := by
  have hnext : UInt64.ofNat count + 1 = UInt64.ofNat (count + 1) := by
    rw [UInt64.ofNat_add]
    rfl
  rw [turn, crowd, crowd, Clients.mk.injEq]
  constructor
  · rw [← hnext]
    rfl
  · funext client
    by_cases hclient : client = count
    · subst hclient
      rw [Function.update_self, if_pos (Nat.lt_succ_self client)]
      rfl
    · rw [Function.update_of_ne hclient]
      exact if_congr (by omega) rfl rfl

theorem exists_recorded_crowd (count : Nat) :
    ∃ past, Deed.returned past = [] ∧
      Recorded Step { registry := twoEntries } past (crowd count) := by
  induction count with
  | zero => exact ⟨[], rfl, .refl⟩
  | succ count ih =>
    obtain ⟨past, hreturned, hpast⟩ := ih
    have hclient : (crowd count).progress count = .idle := if_neg (Nat.lt_irrefl count)
    have hfind : twoEntries.find? .nil = some (.bool true) := by decide
    have hfound := hpast.step (.of_move _ hclient (.findAuto hfind))
    have hsettled := hfound.trans (recorded_settle (progress_turn_self _ _ _ _) rfl)
    rw [turn_turn, registry_turn, turn_crowd] at hsettled
    refine ⟨_, ?_, hsettled⟩
    rw [List.append_nil, Deed.returned_append, hreturned]
    rfl

/-- The look and the binding of an automatic promotion are two pieces, and nothing guards what lies
between. A name that was promoted there is taken away from its value. When the counter has gone
around meanwhile, the name that is taken away is one that another automatic promotion returned, and
it is returned a second time. -/
theorem names_not_kept :
    (∃ clients, Recorded Step { registry := twoEntries } overtaken clients ∧
      clients.registry.named? (autoName 0) = some (.bool false)) ∧
    ∃ past clients, Recorded Step { registry := twoEntries } past clients ∧
      ¬(Deed.returned past).Nodup := by
  refine ⟨exists_recorded_overtaken, ?_⟩
  -- the counter has gone around, so the first and the last of the crowd have the same name
  obtain ⟨past, hreturned, hpast⟩ := exists_recorded_crowd (UInt64.size + 1)
  have hfirst := hpast.step (.of_move 0 rfl (.bindAuto (.bool true) (autoName 0)))
  have hlast := hfirst.step (.of_move UInt64.size rfl (.bindAuto (.bool true) (autoName 0)))
  refine ⟨_, _, hlast, ?_⟩
  rw [Deed.returned_append, Deed.returned_append, hreturned]
  decide

end Clients

end ObjectConsole.Registry
