import ObjectConsole.Proofs.Reference.Registry
import Mathlib.Data.List.Induction

/-!
# The registry and its history

A registry keeps two tables and a counter, but what it answers can be told from what was done with
it. This file keeps a record of everything that happens to a registry and its clock, and reads the
answers off the record:

* a value resolves under an identifier exactly when it was added under it, and no sweep since then
  was more than the lifetime later (`Live`);
* a name stands for the value that its last promotion found (`Bound`).

Clock readings are words and may go back, while the record compares them as numbers. Nothing in
`Live` speaks of promotions and nothing in `Bound` speaks of sweeps: this is how the two tables stay
out of each other's way.

## The invariant

`Records` ties both tables to the record. The table of entries is described with the clock readings
in it (`Kept`), because the next sweep depends on them. One step appends one event, and each of the
two descriptions changes by that event alone (`kept_append_singleton`, `bound_append_singleton`).
Identifiers must be drawn without repetition: an entry that was added once more would be replaced,
and the first addition would then describe it no longer.
-/

namespace ObjectConsole.Registry

/-! ## What happens to a registry -/

/-- What is done with a registry. The identifier of an addition is the one that is drawn for it. -/
inductive Action where
  | setClock (now : UInt64)
  | add (drawn : Uuid) (v : Value)
  | get (id : Uuid)
  | getNamed (name : String)
  | promote (id : Uuid) (name : String)
  | promoteAuto (id : Uuid)
  | sweep
  deriving DecidableEq, Repr

/-- The identifier that an action draws. -/
def Action.drawn? : Action → Option Uuid
  | add drawn _ => some drawn
  | _ => none

/-- What an action comes back with. A promotion answers with the name in use. -/
inductive Answer where
  | done
  | added (id : Uuid)
  | found (v : Option Value)
  | promoted (name : String)
  | missing (error : NoSuchObject)
  | swept (count : Nat)
  deriving DecidableEq, Repr

/-- An action with its answer, and the clock reading at which it happened. -/
structure Event where
  clock : UInt64
  action : Action
  answer : Answer
  deriving DecidableEq, Repr

/-- A registry and the clock that it ages by. -/
structure Clocked where
  clock : UInt64
  registry : Registry := ∅

namespace Clocked

/-- Does one thing. -/
def perform (state : Clocked) : Action → Answer × Clocked
  | .setClock now => (.done, { state with clock := now })
  | .add drawn v =>
    (.added drawn, { state with registry := state.registry.add state.clock drawn v })
  | .get id => (.found (state.registry.find? id), state)
  | .getNamed name => (.found (state.registry.named? name), state)
  | .promote id name =>
    match state.registry.promote id name with
    | .ok registry => (.promoted name, { state with registry := registry })
    | .error e => (.missing e, state)
  | .promoteAuto id =>
    match state.registry.promoteAuto id with
    | .ok (name, registry) => (.promoted name, { state with registry := registry })
    | .error e => (.missing e, state)
  | .sweep =>
    let swept := state.registry.sweep state.clock
    (.swept swept.1, { state with registry := swept.2 })

/-- What doing one thing puts on record. -/
def event (state : Clocked) (action : Action) : Event :=
  ⟨state.clock, action, (state.perform action).1⟩

/-- Does one thing after another. The result begins with the record, oldest event first. -/
def run (state : Clocked) : List Action → List Event × Clocked
  | [] => ([], state)
  | action :: rest =>
    let remaining := (state.perform action).2.run rest
    (state.event action :: remaining.1, remaining.2)

theorem run_append (state : Clocked) (earlier later : List Action) :
    state.run (earlier ++ later) =
      ((state.run earlier).1 ++ ((state.run earlier).2.run later).1,
        ((state.run earlier).2.run later).2) := by
  induction earlier generalizing state with
  | nil => rfl
  | cons action earlier ih => rw [List.cons_append, run, ih]; rfl

end Clocked

/-! ## What the record says -/

/-- Something happened, and from then on only events of a kind. What happened may depend on the
record before it. -/
def Since (happened : List Event → Event → Prop) (kind : Event → Prop) (past : List Event) : Prop :=
  ∃ before event after, past = before ++ event :: after ∧ happened before event ∧
    ∀ other ∈ after, kind other

/-- The value that was added under an identifier at a clock reading and is still kept: each sweep
since then was at most ten minutes later. -/
def Kept (past : List Event) (id : Uuid) (clock : UInt64) (v : Value) : Prop :=
  Since (fun _ event ↦ event = ⟨clock, .add id v, .added id⟩)
    (fun event ↦ event.action = .sweep → event.clock.toNat ≤ clock.toNat + 600000) past

/-- The value that an identifier resolves to, if the record is right. -/
def Live (past : List Event) (id : Uuid) (v : Value) : Prop :=
  ∃ clock, Kept past id clock v

/-- A promotion of an identifier that succeeded with a name, given or drawn. -/
structure Event.Promotes (event : Event) (id : Uuid) (name : String) : Prop where
  action_eq : event.action = .promote id name ∨ event.action = .promoteAuto id
  answer_eq : event.answer = .promoted name

theorem Event.Promotes.unique {event : Event} {id id' : Uuid} {name name' : String}
    (h : event.Promotes id name) (h' : event.Promotes id' name') : id = id' ∧ name = name' := by
  obtain ⟨haction, hanswer⟩ := h
  obtain ⟨haction', hanswer'⟩ := h'
  rw [hanswer, Answer.promoted.injEq] at hanswer'
  refine ⟨?_, hanswer'⟩
  rcases haction with haction | haction <;> rcases haction' with haction' | haction' <;>
    rw [haction] at haction' <;> cases haction' <;> rfl

/-- The value that a name stands for, if the record is right: the one that its last promotion
found. -/
def Bound (past : List Event) (name : String) (v : Value) : Prop :=
  Since (fun before event ↦ ∃ id, event.Promotes id name ∧ Live before id v)
    (fun event ↦ ∀ id, ¬event.Promotes id name) past

/-- The identifiers drawn on record. -/
def drawn (past : List Event) : List Uuid :=
  past.filterMap fun event ↦ event.action.drawn?

section

variable {happened : List Event → Event → Prop} {kind : Event → Prop} {past : List Event}
  {event : Event} {id : Uuid} {clock : UInt64} {v : Value} {name : String}

theorem not_since_nil : ¬Since happened kind [] := by
  rintro ⟨before, event, after, hsplit, -⟩
  exact List.append_ne_nil_of_right_ne_nil before (List.cons_ne_nil event after) hsplit.symm

/-- The last event is the one that happened, or it is one of those since then. -/
theorem since_append_singleton :
    Since happened kind (past ++ [event]) ↔
      happened past event ∨ Since happened kind past ∧ kind event := by
  constructor
  · rintro ⟨before, first, after, hsplit, hfirst, hafter⟩
    rcases List.eq_nil_or_concat after with rfl | ⟨after, last, rfl⟩
    · obtain ⟨rfl, rfl⟩ := List.append_singleton_inj.mp hsplit
      exact .inl hfirst
    · rw [List.concat_eq_append, ← List.cons_append, ← List.append_assoc,
        List.append_singleton_inj] at hsplit
      obtain ⟨rfl, rfl⟩ := hsplit
      rw [List.concat_eq_append, List.forall_mem_append, List.forall_mem_singleton] at hafter
      exact .inr ⟨⟨before, first, after, rfl, hfirst, hafter.1⟩, hafter.2⟩
  · rintro (hevent | ⟨⟨before, first, after, rfl, hfirst, hafter⟩, hevent⟩)
    · exact ⟨past, event, [], rfl, hevent, fun _ hmem ↦ absurd hmem List.not_mem_nil⟩
    · refine ⟨before, first, after ++ [event], by simp, hfirst, ?_⟩
      rw [List.forall_mem_append, List.forall_mem_singleton]
      exact ⟨hafter, hevent⟩

theorem kept_append_singleton :
    Kept (past ++ [event]) id clock v ↔
      event = ⟨clock, .add id v, .added id⟩ ∨ Kept past id clock v ∧
        (event.action = .sweep → event.clock.toNat ≤ clock.toNat + 600000) :=
  since_append_singleton

theorem bound_append_singleton :
    Bound (past ++ [event]) name v ↔
      (∃ id, event.Promotes id name ∧ Live past id v) ∨
        Bound past name v ∧ ∀ id, ¬event.Promotes id name :=
  since_append_singleton

theorem Kept.mem_drawn (h : Kept past id clock v) : id ∈ drawn past := by
  obtain ⟨before, event, after, rfl, rfl, -⟩ := h
  exact List.mem_filterMap.mpr ⟨_, List.mem_append_right _ List.mem_cons_self, rfl⟩

/-- What is kept and was added earlier was kept earlier. -/
theorem Kept.of_append {later : List Event} (h : Kept (past ++ later) id clock v)
    (hlater : id ∉ drawn later) : Kept past id clock v := by
  induction later using List.reverseRecOn with
  | nil => rwa [List.append_nil] at h
  | append_singleton later event ih =>
    rw [drawn, List.filterMap_append, List.mem_append, not_or] at hlater
    rw [← List.append_assoc, kept_append_singleton] at h
    rcases h with rfl | ⟨h, -⟩
    · exact absurd (List.mem_filterMap.mpr ⟨_, List.mem_singleton_self _, rfl⟩) hlater.2
    · exact ih h hlater.1

end

/-! ## What one action changes -/

namespace Clocked

variable {state : Clocked} {action : Action} {id : Uuid} {name : String}

/-- A promotion binds the value that it finds, or it finds none and changes nothing. -/
theorem perform_promotion (h : action = .promote id name ∨ action = .promoteAuto id) :
    (∃ used v, (state.event action).Promotes id used ∧ state.registry.find? id = some v ∧
        state.registry.Binds (state.perform action).2.registry used v) ∨
      ∃ e, state.perform action = (.missing e, state) := by
  rcases h with rfl | rfl
  · cases hpromote : state.registry.promote id name with
    | error e => exact .inr ⟨e, by rw [perform, hpromote]⟩
    | ok promoted =>
      obtain ⟨-, v, hfind, hbinds⟩ := binds_of_promote hpromote
      refine .inl ⟨name, v, ⟨.inl rfl, ?_⟩, hfind, ?_⟩
      · simp only [event, perform, hpromote]
      · simpa only [perform, hpromote] using hbinds
  · cases hpromote : state.registry.promoteAuto id with
    | error e => exact .inr ⟨e, by rw [perform, hpromote]⟩
    | ok named =>
      obtain ⟨v, hfind, hbinds⟩ := binds_of_promoteAuto hpromote
      refine .inl ⟨named.1, v, ⟨.inr rfl, ?_⟩, hfind, ?_⟩
      · simp only [event, perform, hpromote]
      · simpa only [perform, hpromote] using hbinds

theorem ephemeral_perform (hadd : ∀ id v, action ≠ .add id v) (hsweep : action ≠ .sweep) :
    (state.perform action).2.registry.ephemeral = state.registry.ephemeral := by
  have hpromotion (id : Uuid) (name : String)
      (h : action = .promote id name ∨ action = .promoteAuto id) :
      (state.perform action).2.registry.ephemeral = state.registry.ephemeral := by
    rcases perform_promotion h with ⟨used, v, -, -, hbinds⟩ | ⟨e, hperform⟩
    · exact hbinds.ephemeral_eq
    · rw [hperform]
  cases action with
  | setClock now => rfl
  | get id => rfl
  | getNamed name => rfl
  | add id v => exact absurd rfl (hadd id v)
  | sweep => exact absurd rfl hsweep
  | promote id name => exact hpromotion id name (.inl rfl)
  | promoteAuto id => exact hpromotion id "" (.inr rfl)

/-- A promotion found the value that it binds. -/
theorem named?_perform_of_promotes (h : (state.event action).Promotes id name) :
    ∃ v, state.registry.find? id = some v ∧ ∀ other,
      (state.perform action).2.registry.named? other =
        if other = name then some v else state.registry.named? other := by
  have haction : action = .promote id name ∨ action = .promoteAuto id := h.action_eq
  rcases perform_promotion haction with ⟨used, v, hpromotes, hfind, hbinds⟩ | ⟨e, hperform⟩
  · obtain ⟨-, rfl⟩ := hpromotes.unique h
    exact ⟨v, hfind, hbinds.named?_eq⟩
  · have hanswer := h.answer_eq
    rw [event, hperform] at hanswer
    cases hanswer

theorem persistent_perform (h : ∀ id name, ¬(state.event action).Promotes id name) :
    (state.perform action).2.registry.persistent = state.registry.persistent := by
  have hpromotion (id : Uuid) (name : String)
      (haction : action = .promote id name ∨ action = .promoteAuto id) :
      (state.perform action).2.registry.persistent = state.registry.persistent := by
    rcases perform_promotion haction with ⟨used, v, hpromotes, -⟩ | ⟨e, hperform⟩
    · exact absurd hpromotes (h id used)
    · rw [hperform]
  cases action with
  | setClock now => rfl
  | add drawn v => rfl
  | get id => rfl
  | getNamed name => rfl
  | sweep => rfl
  | promote id name => exact hpromotion id name (.inl rfl)
  | promoteAuto id => exact hpromotion id "" (.inr rfl)

end Clocked

/-! ## The invariant -/

/-- Both tables are what the record says. -/
structure Records (past : List Event) (registry : Registry) : Prop where
  entry_iff : ∀ id clock v,
    registry.ephemeral.get? id = some ⟨clock, v⟩ ↔ Kept past id clock v
  named_iff : ∀ name v, registry.named? name = some v ↔ Bound past name v
  unnamed_iff : ∀ name, registry.named? name = none ↔
    ∀ event ∈ past, ∀ id, ¬event.Promotes id name

namespace Records

variable {past : List Event} {state : Clocked} {action : Action}

theorem nil : Records [] ∅ where
  entry_iff _ _ _ := iff_of_false (by rintro ⟨⟩) not_since_nil
  named_iff _ _ := iff_of_false (by rintro ⟨⟩) not_since_nil
  unnamed_iff _ := iff_of_true rfl fun _ hmem ↦ absurd hmem List.not_mem_nil

theorem find?_iff (h : Records past state.registry) (id : Uuid) (v : Value) :
    state.registry.find? id = some v ↔ Live past id v := by
  rw [find?_eq_some_iff]
  exact exists_congr fun clock ↦ h.entry_iff id clock v

/-- The entries after one more event. -/
theorem entry_perform (h : Records past state.registry)
    (hdrawn : ∀ id, action.drawn? = some id → id ∉ drawn past) (id : Uuid) (clock : UInt64)
    (v : Value) :
    (state.perform action).2.registry.ephemeral.get? id = some ⟨clock, v⟩ ↔
      Kept (past ++ [state.event action]) id clock v := by
  rw [kept_append_singleton, ← h.entry_iff]
  -- only additions and sweeps touch the entries, and each has its part in the description
  by_cases hadd : ∃ added w, action = .add added w
  · obtain ⟨added, w, rfl⟩ := hadd
    rw [Clocked.perform, get?_add]
    simp only [Clocked.event, Clocked.perform, Event.mk.injEq, Action.add.injEq,
      Answer.added.injEq, reduceCtorEq, false_implies, and_true]
    by_cases hid : id = added
    · -- the identifier is drawn for the first time, so the entry replaces none
      have hnone : ¬state.registry.ephemeral.get? id = some ⟨clock, v⟩ := by
        rw [h.entry_iff]
        exact fun hkept ↦ hdrawn id (hid ▸ rfl) hkept.mem_drawn
      rw [if_pos hid, Option.some.injEq, Entry.mk.injEq]
      simp [hid, hid ▸ hnone]
    · rw [if_neg hid]
      simp [Ne.symm hid]
  · by_cases hsweep : action = .sweep
    · subst hsweep
      rw [Clocked.perform, get?_sweep_eq_some_iff]
      simp [Clocked.event, lifetime]
    · push Not at hadd
      have hevent : ¬state.event action = ⟨clock, .add id v, .added id⟩ :=
        fun hevent ↦ hadd id v (congrArg Event.action hevent)
      rw [Clocked.ephemeral_perform hadd hsweep, or_iff_right hevent]
      exact ⟨fun hget ↦ ⟨hget, fun hevent ↦ absurd hevent hsweep⟩, And.left⟩

/-- The names after one more event: either the event bound one, or none. -/
theorem named_perform (h : Records past state.registry) (name : String) (v : Value) :
    (state.perform action).2.registry.named? name = some v ↔
      Bound (past ++ [state.event action]) name v := by
  rw [bound_append_singleton, ← h.named_iff]
  by_cases hevent : ∃ id written, (state.event action).Promotes id written
  · obtain ⟨id, written, hpromotes⟩ := hevent
    obtain ⟨w, hfind, hnamed⟩ := Clocked.named?_perform_of_promotes hpromotes
    rw [hnamed]
    by_cases hname : name = written
    · have hlast : ¬∀ id, ¬(state.event action).Promotes id name :=
        fun hnone ↦ hnone id (hname ▸ hpromotes)
      rw [if_pos hname, or_iff_left (fun hsince ↦ hlast hsince.2), ← hfind, h.find?_iff]
      constructor
      · exact fun hlive ↦ ⟨id, hname ▸ hpromotes, hlive⟩
      · rintro ⟨id', hpromotes', hlive⟩
        rwa [(hpromotes.unique hpromotes').1]
    · have hother (id' : Uuid) : ¬(state.event action).Promotes id' name :=
        fun hpromotes' ↦ hname (hpromotes'.unique hpromotes).2
      rw [if_neg hname, or_iff_right (fun ⟨id', hpromotes', _⟩ ↦ hother id' hpromotes')]
      exact (and_iff_left hother).symm
  · push Not at hevent
    rw [named?, Clocked.persistent_perform hevent,
      or_iff_right (fun ⟨id, hpromotes, _⟩ ↦ hevent id name hpromotes)]
    exact (and_iff_left fun id ↦ hevent id name).symm

theorem unnamed_perform (h : Records past state.registry) (name : String) :
    (state.perform action).2.registry.named? name = none ↔
      ∀ event ∈ past ++ [state.event action], ∀ id, ¬event.Promotes id name := by
  rw [List.forall_mem_append, List.forall_mem_singleton, ← h.unnamed_iff]
  by_cases hevent : ∃ id written, (state.event action).Promotes id written
  · obtain ⟨id, written, hpromotes⟩ := hevent
    obtain ⟨w, -, hnamed⟩ := Clocked.named?_perform_of_promotes hpromotes
    rw [hnamed]
    by_cases hname : name = written
    · rw [if_pos hname]
      exact iff_of_false (by rintro ⟨⟩) fun hnone ↦ hnone.2 id (hname ▸ hpromotes)
    · rw [if_neg hname]
      exact (and_iff_left fun id' hpromotes' ↦ hname (hpromotes'.unique hpromotes).2).symm
  · push Not at hevent
    rw [named?, Clocked.persistent_perform hevent]
    exact (and_iff_left fun id ↦ hevent id name).symm

/-- One action keeps the record right. -/
theorem perform (h : Records past state.registry)
    (hdrawn : ∀ id, action.drawn? = some id → id ∉ drawn past) :
    Records (past ++ [state.event action]) (state.perform action).2.registry where
  entry_iff := h.entry_perform hdrawn
  named_iff := h.named_perform
  unnamed_iff := h.unnamed_perform

/-- A run of actions keeps the record right, when it draws no identifier twice. -/
theorem run {actions : List Action} (h : Records past state.registry)
    (hdrawn : (drawn past ++ actions.filterMap Action.drawn?).Nodup) :
    Records (past ++ (state.run actions).1) (state.run actions).2.registry := by
  induction actions generalizing past state with
  | nil => rwa [Clocked.run, List.append_nil]
  | cons action actions ih =>
    have hsnoc : drawn (past ++ [state.event action]) = drawn past ++ action.drawn?.toList := by
      rw [drawn, drawn, List.filterMap_append]
      cases hid : action.drawn? <;> simp [Clocked.event, hid]
    have hcons : (action :: actions).filterMap Action.drawn? =
        action.drawn?.toList ++ actions.filterMap Action.drawn? := by
      cases hid : action.drawn? <;> simp [hid]
    rw [hcons, ← List.append_assoc] at hdrawn
    -- what the first action draws is not on record, since no identifier is drawn twice
    have hstep : Records (past ++ [state.event action]) (state.perform action).2.registry := by
      refine h.perform fun id hid hmem ↦ ?_
      obtain ⟨-, -, hdisjoint⟩ := List.nodup_append.mp (List.nodup_append.mp hdrawn).1
      exact hdisjoint id hmem id (by rw [hid]; exact List.mem_singleton_self id) rfl
    rw [Clocked.run]
    simpa using ih hstep (hsnoc ▸ hdrawn)

end Records

/-- The identifiers on record after a run are those that its actions drew. -/
theorem drawn_run (state : Clocked) (actions : List Action) :
    drawn (state.run actions).1 = actions.filterMap Action.drawn? := by
  induction actions generalizing state with
  | nil => rfl
  | cons action actions ih =>
    rw [Clocked.run, drawn, List.filterMap_cons, List.filterMap_cons, ← drawn, ih]
    rfl

/-- **The answers of a registry are told by its history.** After any run from the empty registry
that draws no identifier twice:

* an identifier resolves to the value that was added under it, exactly while no sweep since then was
  more than ten minutes later; a sweep exactly ten minutes later keeps the entry, promotions leave
  all entries as they are, and what resolved once and no longer does never resolves again;
* a name stands for the value that its last successful promotion found, and for none without one;
* a sweep counts the identifiers that resolve before it and not after it, which is also by how much
  the number of entries falls. -/
theorem answers_of_history (start : UInt64) (actions : List Action)
    (hdistinct : (actions.filterMap Action.drawn?).Nodup) {past : List Event} {state : Clocked}
    (hrun : Clocked.run ⟨start, ∅⟩ actions = (past, state)) :
    (∀ id v, (state.perform (.get id)).1 = .found (some v) ↔ Live past id v) ∧
    (∀ id clock v, Kept past id clock v → state.clock.toNat = clock.toNat + 600000 →
      (state.perform .sweep).2.registry.find? id = some v) ∧
    (∀ id name,
      (state.perform (.promote id name)).2.registry.ephemeral = state.registry.ephemeral ∧
      (state.perform (.promoteAuto id)).2.registry.ephemeral = state.registry.ephemeral) ∧
    (∀ earlier later, actions = earlier ++ later → ∀ id ∈ earlier.filterMap Action.drawn?,
      (Clocked.run ⟨start, ∅⟩ earlier).2.registry.find? id = none →
        state.registry.find? id = none) ∧
    (∀ name v, (state.perform (.getNamed name)).1 = .found (some v) ↔ Bound past name v) ∧
    (∀ name, (state.perform (.getNamed name)).1 = .found none ↔
      ∀ event ∈ past, ∀ id, ¬event.Promotes id name) ∧
    ∃ ids : List Uuid, ids.Nodup ∧
      (∀ id, id ∈ ids ↔ (state.registry.find? id).isSome ∧
        (state.perform .sweep).2.registry.find? id = none) ∧
      (state.perform .sweep).1 = .swept ids.length ∧
      ids.length + (state.perform .sweep).2.registry.ephemeral.size =
        state.registry.ephemeral.size := by
  have hrecords (actions : List Action) (h : (actions.filterMap Action.drawn?).Nodup) :
      Records (Clocked.run ⟨start, ∅⟩ actions).1 (Clocked.run ⟨start, ∅⟩ actions).2.registry := by
    have hstart : Records [] (Clocked.mk start ∅).registry := Records.nil
    exact hstart.run h
  have h := hrecords actions hdistinct
  rw [hrun] at h
  refine ⟨fun id v ↦ ?_, fun id clock v hkept hclock ↦ ?_, fun id name ↦ ⟨?_, ?_⟩, ?_,
    fun name v ↦ ?_, fun name ↦ ?_, ?_⟩
  · rw [Clocked.perform, Answer.found.injEq, h.find?_iff]
  · rw [Clocked.perform, find?_eq_some_iff]
    exact ⟨clock, get?_sweep_eq_some_iff.mpr
      ⟨(h.entry_iff id clock v).mpr hkept, Nat.le_of_eq hclock⟩⟩
  · exact Clocked.ephemeral_perform (fun _ _ ↦ nofun) nofun
  · exact Clocked.ephemeral_perform (fun _ _ ↦ nofun) nofun
  · rintro earlier later rfl id hid hnone
    rw [List.filterMap_append, List.nodup_append] at hdistinct
    rw [Clocked.run_append, Prod.mk.injEq] at hrun
    refine Option.eq_none_iff_forall_ne_some.mpr fun v hfind ↦ ?_
    -- what resolves now was added earlier and has been kept, so it resolved then
    obtain ⟨clock, hkept⟩ := (h.find?_iff id v).mp hfind
    rw [← hrun.1] at hkept
    have hkeptEarlier := hkept.of_append fun hmem ↦
      hdistinct.2.2 id hid id (drawn_run _ _ ▸ hmem) rfl
    have hfindEarlier := ((hrecords earlier hdistinct.1).find?_iff id v).mpr ⟨clock, hkeptEarlier⟩
    rw [hnone] at hfindEarlier
    cases hfindEarlier
  · rw [Clocked.perform, Answer.found.injEq, h.named_iff]
  · rw [Clocked.perform, Answer.found.injEq, h.unnamed_iff]
  · obtain ⟨⟨ids, hnodup, hmem, hcount⟩, hsize⟩ := sweep_counts state.registry state.clock
    rw [hcount] at hsize
    exact ⟨ids, hnodup, hmem, by rw [Clocked.perform, hcount], hsize⟩

/-- An entry that a sweep at the age of ten minutes keeps and the next one drops, promoted in
between. -/
def tenMinutes : List Action :=
  [.add .nil (.bool true), .setClock 600000, .sweep, .promoteAuto .nil, .setClock 600001, .sweep]

theorem answers_of_history_tenMinutes :
    (tenMinutes.filterMap Action.drawn?).Nodup ∧
      Bound (Clocked.run ⟨0, ∅⟩ tenMinutes).1 "o0" (.bool true) ∧
      ¬Live (Clocked.run ⟨0, ∅⟩ tenMinutes).1 .nil (.bool true) := by
  have hdistinct : (tenMinutes.filterMap Action.drawn?).Nodup := by decide
  obtain ⟨hget, -, -, -, hnamed, -⟩ := answers_of_history 0 tenMinutes hdistinct rfl
  exact ⟨hdistinct, (hnamed "o0" (.bool true)).mp (by decide),
    fun hlive ↦ absurd ((hget .nil (.bool true)).mpr hlive) (by decide)⟩

end ObjectConsole.Registry
