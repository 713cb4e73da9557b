import ObjectConsole.Proofs.Execution.Meeting
import ObjectConsole.Proofs.Recorded
import Mathlib.Data.List.Pairwise

/-!
# Nothing is handed over twice, and nothing is lost

Callers and the thread at the queue share no lock over a whole exchange, so what holds of it has to
hold of every interleaving. The invariant comes in two halves. `Worked` follows each call through
the queue and the hands of the thread there: a call is either done or on its way, in the order of
the numbers, and what was put on record adds up with what is still due. `Met` is about one
rendezvous and its caller, and says what the permit and the outcome stand for: the record decides
both, as far as the caller has not taken them yet. The second half rests on the first, because an
outcome that was stored twice, or a permit that was given twice, would not be decided by the record.
-/

namespace ObjectConsole.Execution

open Store

/-! ## Reading the record -/

namespace Event

/-- The call that the queue took, under its number. -/
@[simp] def queued? : Event → Option (Nat × Call)
  | queued number call => some (number, call)
  | _ => none

/-- The call that was run, under its number. -/
@[simp] def ran? : Event → Option (Nat × Call)
  | ran number call _ _ => some (number, call)
  | _ => none

/-- The verdict that was stored, under the number of its rendezvous. -/
@[simp] def stored? : Event → Option (Nat × Verdict)
  | stored number verdict => some (number, verdict)
  | _ => none

/-- The rendezvous that was given a permit. -/
@[simp] def released? : Event → Option Nat
  | released number => some number
  | _ => none

variable {past : List Event} {number : Nat}

theorem mem_queued_iff {call : Call} :
    (number, call) ∈ past.filterMap queued? ↔ queued number call ∈ past := by
  have hevent : ∀ event, queued? event = some (number, call) ↔ event = queued number call := by
    intro event
    cases event <;> simp
  simp only [List.mem_filterMap, hevent, exists_eq_right]

theorem mem_ran_iff {call : Call} :
    (number, call) ∈ past.filterMap ran? ↔ ∃ context heap, ran number call context heap ∈ past := by
  have hevent : ∀ event, ran? event = some (number, call) ↔
      ∃ context heap, event = ran number call context heap := by
    intro event
    cases event <;> simp
  simp only [List.mem_filterMap, hevent]
  constructor
  · rintro ⟨_, hmem, context, heap, rfl⟩
    exact ⟨context, heap, hmem⟩
  · rintro ⟨context, heap, hmem⟩
    exact ⟨_, hmem, context, heap, rfl⟩

theorem mem_stored_iff {verdict : Verdict} :
    (number, verdict) ∈ past.filterMap stored? ↔ stored number verdict ∈ past := by
  have hevent : ∀ event, stored? event = some (number, verdict) ↔
      event = stored number verdict := by
    intro event
    cases event <;> simp
  simp only [List.mem_filterMap, hevent, exists_eq_right]

theorem mem_released_iff : number ∈ past.filterMap released? ↔ released number ∈ past := by
  have hevent : ∀ event, released? event = some number ↔ event = released number := by
    intro event
    cases event <;> simp
  simp only [List.mem_filterMap, hevent, exists_eq_right]

/-- Where no number is run twice, a number has only one run. -/
theorem ran_unique (hnodup : ((past.filterMap ran?).map Prod.fst).Nodup) {call call' : Call}
    {context context' : Context} {heap heap' : Heap} (h : ran number call context heap ∈ past)
    (h' : ran number call' context' heap' ∈ past) :
    ran number call context heap = ran number call' context' heap' := by
  rw [List.Nodup, List.pairwise_map, List.pairwise_filterMap] at hnodup
  by_contra hne
  have : Std.Symm fun event event' : Event ↦ ∀ job, event.ran? = some job →
      ∀ job', event'.ran? = some job' → job.1 ≠ job'.1 :=
    ⟨fun _ _ hother job hjob job' hjob' ↦ (hother job' hjob' job hjob).symm⟩
  exact hnodup.forall h h' hne _ rfl _ rfl rfl

end Event

namespace Duty

/-- The job that is still to be run. -/
@[simp] def job? : Duty → Option (Nat × Call)
  | run number call => some (number, call)
  | _ => none

/-- The rendezvous that still has no outcome. -/
@[simp] def unanswered? : Duty → Option Nat
  | run number _ | store number _ | discard (some number) => some number
  | release _ | discard none => none

/-- The rendezvous that has its outcome and waits for the permit. -/
@[simp] def unreleased? : Duty → Option Nat
  | release number => some number
  | _ => none

end Duty

namespace Meeting

variable {past events : List Event} {meeting meeting' : Meeting}

/-! ## The thread at the queue -/

/-- The verdict on a call and what it comes from: the call was run, or it was still in the queue
when that went away. -/
def Answers (past : List Event) (gate : Gate) (number : Nat) (verdict : Verdict) : Prop :=
  (∃ call context heap, .ran number call context heap ∈ past ∧
    verdict = (call.runGuarded context heap).1) ∨
  (gate = .dropped ∧ number ∉ (past.filterMap Event.ran?).map Prod.fst ∧ verdict = discarded)

/-- What the record says about the calls that the queue took, as far as the thread there is
concerned. -/
structure Worked (past : List Event) (meeting : Meeting) : Prop where
  /-- Calls are numbered in the order in which they were queued. -/
  numbered : (past.filterMap Event.queued?).map Prod.fst = List.range meeting.queue.rendezvous.size
  /-- Calls are run in that order, and only those that a queue took with it are not. -/
  ordered : ∃ lost, past.filterMap Event.queued? = past.filterMap Event.ran? ++
      (meeting.duties.filterMap Duty.job? ++ meeting.queue.waiting) ++ lost ∧
    (meeting.queue.gate ≠ .dropped → lost = [])
  /-- Nothing is run once the queue is gone. -/
  idle : meeting.queue.gate = .dropped →
    meeting.duties.filterMap Duty.job? = [] ∧ meeting.queue.waiting = []
  /-- Each rendezvous has its outcome or is still to have it. -/
  answered : (past.filterMap Event.stored?).map Prod.fst ++
      (meeting.duties.filterMap Duty.unanswered? ++ meeting.queue.waiting.map Prod.fst) =
    List.range meeting.queue.rendezvous.size
  /-- Permits are given for outcomes that were stored. -/
  settled : (past.filterMap Event.released? ++ meeting.duties.filterMap Duty.unreleased?).Perm
    ((past.filterMap Event.stored?).map Prod.fst)
  /-- A job that is answered instead of being run was never run. -/
  discarding : ∀ number, .discard (some number) ∈ meeting.duties →
    meeting.queue.gate = .dropped ∧ number ∉ (past.filterMap Event.ran?).map Prod.fst
  /-- Verdicts are those of the calls they were stored for. -/
  answers : ∀ number verdict,
    .stored number verdict ∈ past ∨ .store number verdict ∈ meeting.duties →
      Answers past meeting.queue.gate number verdict

namespace Worked

theorem start (heap : Heap) : Worked [] { heap := heap } where
  numbered := rfl
  ordered := ⟨[], rfl, fun _ ↦ rfl⟩
  idle h := nomatch h
  answered := rfl
  settled := .refl _
  discarding number h := by cases h
  answers number verdict h := by rcases h with h | h <;> cases h

variable (h : Worked past meeting)
include h

theorem nodup_queued : ((past.filterMap Event.queued?).map Prod.fst).Nodup := by
  rw [h.numbered]
  exact List.nodup_range

theorem nodup_stored : ((past.filterMap Event.stored?).map Prod.fst).Nodup :=
  (List.nodup_append.mp (h.answered ▸ List.nodup_range)).1

theorem nodup_released : (past.filterMap Event.released?).Nodup :=
  (List.nodup_append.mp (h.settled.nodup_iff.mpr h.nodup_stored)).1

theorem ran_prefix_queued : past.filterMap Event.ran? <+: past.filterMap Event.queued? := by
  obtain ⟨lost, hlost, -⟩ := h.ordered
  rw [hlost, List.append_assoc]
  exact List.prefix_append _ _

theorem numbered_step (hstep : meeting.Step events meeting') :
    ((past ++ events).filterMap Event.queued?).map Prod.fst =
      List.range meeting'.queue.rendezvous.size := by
  have hnumbered := h.numbered
  cases hstep with
  | send hcaller hsend =>
    obtain ⟨-, rfl, rfl⟩ := Affinity.send?_eq_some_iff.mp hsend
    simp [List.range_succ, hnumbered]
  | take hduties howner htake =>
    obtain ⟨waiting, -, rfl⟩ := Affinity.take?_eq_some_iff.mp htake
    simpa using hnumbered
  | _ => simpa [List.filterMap_cons, Affinity.claim] using hnumbered

theorem ordered_step (hstep : meeting.Step events meeting') :
    ∃ lost, (past ++ events).filterMap Event.queued? = (past ++ events).filterMap Event.ran? ++
        (meeting'.duties.filterMap Duty.job? ++ meeting'.queue.waiting) ++ lost ∧
      (meeting'.queue.gate ≠ .dropped → lost = []) := by
  obtain ⟨lost, hqueued, hlost⟩ := h.ordered
  cases hstep with
  | send hcaller hsend =>
    obtain ⟨hgate, rfl, rfl⟩ := Affinity.send?_eq_some_iff.mp hsend
    have hnone : lost = [] := hlost (by rw [hgate]; decide)
    exact ⟨[], by simp [List.filterMap_cons, hqueued, hnone], fun _ ↦ rfl⟩
  | take hduties howner htake =>
    obtain ⟨waiting, hwaiting, rfl⟩ := Affinity.take?_eq_some_iff.mp htake
    exact ⟨lost, by simp [hqueued, hduties, hwaiting], hlost⟩
  | drop hduties =>
    -- what was waiting is lost with the queue
    refine ⟨meeting.queue.waiting ++ lost, ?_, fun hgate ↦ absurd rfl hgate⟩
    simp [hqueued, hduties, Function.comp_def]
  | run uptime hduties howner | store hduties | release hduties | answer hduties | letGo hduties =>
    exact ⟨lost, by simp [List.filterMap_cons, hqueued, hduties], by simpa using hlost⟩
  | _ =>
    exact ⟨lost, by simp [List.filterMap_cons, hqueued, Affinity.claim],
      by simpa [Affinity.claim] using hlost⟩

theorem idle_step (hstep : meeting.Step events meeting') (hgate : meeting'.queue.gate = .dropped) :
    meeting'.duties.filterMap Duty.job? = [] ∧ meeting'.queue.waiting = [] := by
  have hidle := h.idle
  cases hstep with
  | send hcaller hsend =>
    obtain ⟨haccepting, -, rfl⟩ := Affinity.send?_eq_some_iff.mp hsend
    exact absurd (haccepting.symm.trans hgate) (by decide)
  | take hduties howner htake =>
    obtain ⟨waiting, hwaiting, rfl⟩ := Affinity.take?_eq_some_iff.mp htake
    cases hwaiting.symm.trans (hidle hgate).2
  | drop hduties => simp [Function.comp_def]
  | run uptime hduties howner =>
    have hnone := (hidle hgate).1
    rw [hduties] at hnone
    cases hnone
  | store hduties | release hduties | answer hduties | letGo hduties =>
    simpa [List.filterMap_cons, hduties] using hidle (by simpa using hgate)
  | _ => simpa [Affinity.claim] using hidle (by simpa [Affinity.claim] using hgate)

theorem answered_step (hstep : meeting.Step events meeting') :
    ((past ++ events).filterMap Event.stored?).map Prod.fst ++
        (meeting'.duties.filterMap Duty.unanswered? ++ meeting'.queue.waiting.map Prod.fst) =
      List.range meeting'.queue.rendezvous.size := by
  have hanswered := h.answered
  cases hstep with
  | send hcaller hsend =>
    obtain ⟨-, rfl, rfl⟩ := Affinity.send?_eq_some_iff.mp hsend
    simp [List.filterMap_cons, List.range_succ, ← hanswered]
  | take hduties howner htake =>
    obtain ⟨waiting, hwaiting, rfl⟩ := Affinity.take?_eq_some_iff.mp htake
    simpa [List.filterMap_cons, hduties, hwaiting] using hanswered
  | drop hduties => simpa [hduties, Function.comp_def] using hanswered
  | run uptime hduties howner | store hduties | release hduties | answer hduties | letGo hduties =>
    simpa [List.filterMap_cons, hduties] using hanswered
  | _ => simpa [List.filterMap_cons, Affinity.claim] using hanswered

theorem settled_step (hstep : meeting.Step events meeting') :
    ((past ++ events).filterMap Event.released? ++ meeting'.duties.filterMap Duty.unreleased?).Perm
      (((past ++ events).filterMap Event.stored?).map Prod.fst) := by
  have hsettled := h.settled
  cases hstep with
  | store hduties =>
    rw [hduties] at hsettled
    simp only [List.filterMap_append, List.filterMap_cons, List.filterMap_nil, List.map_append,
      List.map_cons, List.map_nil, Event.released?, Event.stored?, Duty.unreleased?,
      List.append_nil] at hsettled ⊢
    exact List.perm_middle.trans ((hsettled.cons _).trans (List.perm_append_singleton _ _).symm)
  | take hduties howner htake | drop hduties =>
    simpa [List.filterMap_cons, hduties, Function.comp_def] using hsettled
  | run uptime hduties howner | release hduties | answer hduties | letGo hduties =>
    simpa [List.filterMap_cons, hduties] using hsettled
  | _ => simpa [List.filterMap_cons] using hsettled

theorem discarding_step (hstep : meeting.Step events meeting') {number : Nat}
    (hmem : .discard (some number) ∈ meeting'.duties) :
    meeting'.queue.gate = .dropped ∧
      number ∉ ((past ++ events).filterMap Event.ran?).map Prod.fst := by
  have hdiscarding := h.discarding number
  cases hstep with
  | send hcaller hsend =>
    obtain ⟨haccepting, -, rfl⟩ := Affinity.send?_eq_some_iff.mp hsend
    exact absurd (haccepting.symm.trans (hdiscarding hmem).1) (by decide)
  | take hduties howner htake => simp at hmem
  | drop hduties =>
    obtain ⟨job, hjob, hnumber⟩ := List.mem_map.mp hmem
    cases hnumber
    refine ⟨rfl, fun hran ↦ ?_⟩
    -- a job in the queue is queued behind those that were run
    obtain ⟨lost, hqueued, -⟩ := h.ordered
    have hnodup := h.nodup_queued
    rw [hqueued, List.append_assoc, List.map_append] at hnodup
    rw [List.append_nil] at hran
    refine (List.nodup_append.mp hnodup).2.2 _ hran _ ?_ rfl
    simp only [List.map_append, List.mem_append]
    exact .inl (.inr (List.mem_map_of_mem hjob))
  | run uptime hduties howner =>
    have hgate := (hdiscarding (by rw [hduties]; simpa using hmem)).1
    have hnone := (h.idle hgate).1
    rw [hduties] at hnone
    cases hnone
  | store hduties | release hduties | answer hduties | letGo hduties =>
    simpa [List.filterMap_cons] using hdiscarding (by rw [hduties]; simp_all)
  | _ => simpa [List.filterMap_cons, Affinity.claim] using hdiscarding hmem

theorem gone_step (hstep : meeting.Step events meeting') (hgate : meeting.queue.gate = .dropped) :
    meeting'.queue.gate = .dropped ∧ events.filterMap Event.ran? = [] := by
  cases hstep with
  | send hcaller hsend =>
    exact absurd ((Affinity.send?_eq_some_iff.mp hsend).1.symm.trans hgate) (by decide)
  | take hduties howner htake =>
    obtain ⟨waiting, -, rfl⟩ := Affinity.take?_eq_some_iff.mp htake
    exact ⟨hgate, rfl⟩
  | run uptime hduties howner =>
    have hnone := (h.idle hgate).1
    rw [hduties] at hnone
    cases hnone
  | _ => simp [List.filterMap_cons, Affinity.claim, hgate]

theorem answers_kept (hstep : meeting.Step events meeting') {number : Nat} {verdict : Verdict}
    (hanswers : Answers past meeting.queue.gate number verdict) :
    Answers (past ++ events) meeting'.queue.gate number verdict := by
  rcases hanswers with ⟨call, context, heap, hran, hverdict⟩ | ⟨hgate, hran, hverdict⟩
  · exact .inl ⟨call, context, heap, List.mem_append_left _ hran, hverdict⟩
  · obtain ⟨hgone, hnone⟩ := h.gone_step hstep hgate
    refine .inr ⟨hgone, ?_, hverdict⟩
    rwa [List.filterMap_append, hnone, List.append_nil]

theorem answers_step (hstep : meeting.Step events meeting') {number : Nat} {verdict : Verdict}
    (hmem : .stored number verdict ∈ past ++ events ∨ .store number verdict ∈ meeting'.duties) :
    Answers (past ++ events) meeting'.queue.gate number verdict := by
  by_cases hold : .stored number verdict ∈ past ∨ .store number verdict ∈ meeting.duties
  · exact h.answers_kept hstep (h.answers number verdict hold)
  -- a verdict that was not there before comes from a run or from an answer
  · cases hstep with
    | run uptime hduties howner =>
      simp only [hduties, List.mem_append, List.mem_cons, List.not_mem_nil, reduceCtorEq, or_false,
        false_or, Duty.store.injEq] at hmem hold
      obtain ⟨rfl, rfl⟩ := (hmem.resolve_left (mt .inl hold)).resolve_right (mt .inr hold)
      exact .inl ⟨_, _, _, List.mem_append_right _ (List.mem_singleton_self _), rfl⟩
    | answer hduties =>
      simp only [hduties, List.append_nil, List.mem_cons, reduceCtorEq, false_or,
        Duty.store.injEq] at hmem hold
      obtain ⟨rfl, rfl⟩ := (hmem.resolve_left (mt .inl hold)).resolve_right (mt .inr hold)
      obtain ⟨hgate, hran⟩ := h.discarding _ (by rw [hduties]; exact List.mem_cons_self)
      exact .inr ⟨hgate, by rwa [List.append_nil], rfl⟩
    | store hduties | release hduties | letGo hduties | take hduties howner htake | drop hduties =>
      exact absurd (by simpa [hduties, or_assoc] using hmem) hold
    | _ => exact absurd (by simpa using hmem) hold

/-- Every step keeps the record and what is due together. -/
theorem step (hstep : meeting.Step events meeting') : Worked (past ++ events) meeting' where
  numbered := h.numbered_step hstep
  ordered := h.ordered_step hstep
  idle := h.idle_step hstep
  answered := h.answered_step hstep
  settled := h.settled_step hstep
  discarding _ := h.discarding_step hstep
  answers _ _ := h.answers_step hstep

theorem number_lt_of_stored {number : Nat} {verdict : Verdict}
    (hmem : .stored number verdict ∈ past) : number < meeting.queue.rendezvous.size := by
  rw [← List.mem_range, ← h.answered]
  exact List.mem_append_left _ (List.mem_map_of_mem (Event.mem_stored_iff.mpr hmem))

theorem exists_stored_of_released {number : Nat} (hmem : .released number ∈ past) :
    ∃ verdict, .stored number verdict ∈ past := by
  have hstored := h.settled.subset (List.mem_append_left _ (Event.mem_released_iff.mpr hmem))
  obtain ⟨⟨_, verdict⟩, hverdict, rfl⟩ := List.mem_map.mp hstored
  exact ⟨verdict, Event.mem_stored_iff.mp hverdict⟩

/-- What is due to be stored was not stored before. -/
theorem notMem_stored {number : Nat} {verdict : Verdict} {duties : List Duty}
    (hduties : meeting.duties = .store number verdict :: duties) (verdict' : Verdict) :
    .stored number verdict' ∉ past := by
  intro hmem
  have hnodup := h.answered ▸ List.nodup_range
  refine (List.nodup_append.mp hnodup).2.2 number
    (List.mem_map_of_mem (Event.mem_stored_iff.mpr hmem)) number ?_ rfl
  rw [hduties]
  exact List.mem_cons_self

/-- What is due to be released was not released before. -/
theorem notMem_released {number : Nat} {duties : List Duty}
    (hduties : meeting.duties = .release number :: duties) : .released number ∉ past := by
  intro hmem
  have hnodup := h.settled.nodup_iff.mpr h.nodup_stored
  refine (List.nodup_append.mp hnodup).2.2 number (Event.mem_released_iff.mpr hmem) number ?_ rfl
  rw [hduties]
  exact List.mem_cons_self

end Worked

/-! ## A rendezvous and its caller -/

/-- What the permit and the outcome of a rendezvous stand for while its caller is in a phase. -/
structure Seat (past : List Event) (number : Nat) (phase : Phase)
    (rendezvous : Rendezvous Verdict) : Prop where
  permits_le : rendezvous.permits ≤ 1
  /-- The permit is there from its release until the caller takes it. -/
  permits_pos : 0 < rendezvous.permits ↔ phase = .waiting ∧ .released number ∈ past
  /-- Whoever got past waiting was released. -/
  released : phase ≠ .waiting → .released number ∈ past
  /-- The outcome is there from when it was stored until the caller takes it. -/
  outcome : phase ≠ .returned → ∀ verdict,
    rendezvous.outcome = some verdict ↔ .stored number verdict ∈ past

namespace Seat

variable {number : Nat} {phase : Phase} {rendezvous : Rendezvous Verdict}

theorem fresh (hreleased : .released number ∉ past)
    (hstored : ∀ verdict, .stored number verdict ∉ past) : Seat past number .waiting {} where
  permits_le := Nat.zero_le 1
  permits_pos := by simpa using hreleased
  released hphase := absurd rfl hphase
  outcome _ verdict := by simpa using hstored verdict

/-- What is put on record about other rendezvous does not matter. -/
theorem append (h : Seat past number phase rendezvous) (hreleased : .released number ∉ events)
    (hstored : ∀ verdict, .stored number verdict ∉ events) :
    Seat (past ++ events) number phase rendezvous where
  permits_le := h.permits_le
  permits_pos := by
    rw [List.mem_append, or_iff_left hreleased]
    exact h.permits_pos
  released hphase := List.mem_append_left _ (h.released hphase)
  outcome hphase verdict := by
    rw [List.mem_append, or_iff_left (hstored verdict)]
    exact h.outcome hphase verdict

theorem acquire {acquired : Rendezvous Verdict} (h : Seat past number .waiting rendezvous)
    (hacquire : rendezvous.acquire? = some acquired) : Seat past number .admitted acquired := by
  rw [Rendezvous.acquire?] at hacquire
  split at hacquire
  · cases hacquire
  next hpermits =>
    cases hacquire
    have hone : rendezvous.permits = 1 :=
      Nat.le_antisymm h.permits_le (Nat.pos_of_ne_zero hpermits)
    have hreleased := (h.permits_pos.mp (Nat.pos_of_ne_zero hpermits)).2
    exact
      { permits_le := by simp [hone]
        permits_pos := by simp [hone]
        released := fun _ ↦ hreleased
        outcome := fun _ ↦ h.outcome (by decide) }

theorem emptied (h : Seat past number .admitted rendezvous) :
    Seat past number .returned rendezvous.emptied where
  permits_le := h.permits_le
  permits_pos := by simpa [Rendezvous.emptied] using h.permits_pos
  released _ := h.released (by decide)
  outcome hphase := absurd rfl hphase

theorem store (h : Seat past number phase rendezvous) (verdict : Verdict)
    (hstored : ∀ verdict, .stored number verdict ∉ past) :
    Seat (past ++ [.stored number verdict]) number phase (rendezvous.store verdict) where
  permits_le := h.permits_le
  permits_pos := by simpa [Rendezvous.store] using h.permits_pos
  released hphase := List.mem_append_left _ (h.released hphase)
  outcome _ verdict' := by simp [Rendezvous.store, hstored, eq_comm]

theorem release (h : Seat past number phase rendezvous) (hreleased : .released number ∉ past) :
    Seat (past ++ [.released number]) number phase rendezvous.release := by
  -- nobody passes without a permit, so the caller is still waiting and there is none yet
  have hphase : phase = .waiting := by
    by_contra hne
    exact hreleased (h.released hne)
  have hnone : rendezvous.permits = 0 := by
    rw [← Nat.le_zero, ← Nat.not_lt]
    exact fun hpos ↦ hreleased (h.permits_pos.mp hpos).2
  exact
    { permits_le := by simp [Rendezvous.release, hnone]
      permits_pos := by simp [Rendezvous.release, hphase]
      released := fun hne ↦ absurd hphase hne
      outcome := fun hne verdict ↦ by simpa [Rendezvous.release] using h.outcome hne verdict }

end Seat

/-- Every caller has a rendezvous, and at every rendezvous the record is kept. -/
structure Met (past : List Event) (meeting : Meeting) : Prop where
  length : meeting.callers.length = meeting.queue.rendezvous.size
  seat : ∀ number phase rendezvous, meeting.callers[number]? = some phase →
    meeting.queue.rendezvous.get? number = some rendezvous → Seat past number phase rendezvous

namespace Met

theorem start (heap : Heap) : Met [] { heap := heap } where
  length := rfl
  seat number phase rendezvous hphase := by cases hphase

/-- A new caller finds a rendezvous that nothing is on record about. -/
theorem seat_send (h : Met past meeting) (hworked : Worked past meeting) {number : Nat}
    {phase : Phase} {rendezvous : Rendezvous Verdict}
    (hphase : (meeting.callers ++ [.waiting])[number]? = some phase)
    (hget : (meeting.queue.rendezvous.create {}).get? number = some rendezvous) :
    Seat past number phase rendezvous := by
  rw [Cells.get?_create, ← h.length] at hget
  by_cases hnew : number = meeting.callers.length
  · rw [if_pos hnew] at hget
    cases hget
    rw [hnew, List.getElem?_concat_length] at hphase
    cases hphase
    have hstored : ∀ verdict, .stored number verdict ∉ past := by
      intro verdict hmem
      have hlt := hworked.number_lt_of_stored hmem
      rw [← h.length, hnew] at hlt
      exact Nat.lt_irrefl _ hlt
    have hreleased : .released number ∉ past := by
      intro hmem
      obtain ⟨verdict, hmem⟩ := hworked.exists_stored_of_released hmem
      exact hstored verdict hmem
    exact .fresh hreleased hstored
  · rw [if_neg hnew] at hget
    have hle := (List.getElem?_eq_some_iff.mp hphase).1
    rw [List.length_append, List.length_singleton] at hle
    rw [List.getElem?_append_left (by omega)] at hphase
    exact h.seat number phase rendezvous hphase hget

/-- Where one rendezvous changes, only its own caller has to be looked at. -/
theorem seat_change (h : Met past meeting) {caller : Nat}
    {f : Rendezvous Verdict → Rendezvous Verdict} {callers : List Phase}
    (hcallers : ∀ number ≠ caller, callers[number]? = meeting.callers[number]?)
    (hevents : ∀ number ≠ caller, .released number ∉ events ∧
      ∀ verdict, .stored number verdict ∉ events)
    (hseat : ∀ phase rendezvous, callers[caller]? = some phase →
      meeting.queue.rendezvous.get? caller = some rendezvous →
        Seat (past ++ events) caller phase (f rendezvous))
    {number : Nat} {phase : Phase} {rendezvous : Rendezvous Verdict}
    (hphase : callers[number]? = some phase)
    (hget : (meeting.queue.change caller f).rendezvous.get? number = some rendezvous) :
    Seat (past ++ events) number phase rendezvous := by
  rw [Affinity.get?_change] at hget
  by_cases hnumber : number = caller
  · subst hnumber
    rw [if_pos rfl] at hget
    obtain ⟨old, hold, rfl⟩ := Option.map_eq_some_iff.mp hget
    exact hseat phase old hphase hold
  · rw [if_neg hnumber] at hget
    rw [hcallers number hnumber] at hphase
    obtain ⟨hreleased, hstored⟩ := hevents number hnumber
    exact (h.seat number phase rendezvous hphase hget).append hreleased hstored

theorem seat_step (h : Met past meeting) (hworked : Worked past meeting)
    (hstep : meeting.Step events meeting') {number : Nat} {phase : Phase}
    {rendezvous : Rendezvous Verdict} (hphase : meeting'.callers[number]? = some phase)
    (hget : meeting'.queue.rendezvous.get? number = some rendezvous) :
    Seat (past ++ events) number phase rendezvous := by
  cases hstep with
  | send hcaller hsend =>
    obtain ⟨-, rfl, rfl⟩ := Affinity.send?_eq_some_iff.mp hsend
    exact (h.seat_send hworked hphase hget).append (by simp) (by simp)
  | @acquire caller old acquired hwaiting hold hacquire =>
    refine h.seat_change (fun _ hne ↦ List.getElem?_set_ne hne.symm) (by simp) ?_ hphase hget
    intro phase' old' hphase' hold'
    rw [List.getElem?_set_self (List.getElem?_eq_some_iff.mp hwaiting).1] at hphase'
    cases hphase'
    cases hold.symm.trans hold'
    exact ((h.seat caller .waiting old hwaiting hold).acquire hacquire).append (by simp) (by simp)
  | @collect caller old hadmitted hold =>
    refine h.seat_change (fun _ hne ↦ List.getElem?_set_ne hne.symm) (by simp) ?_ hphase hget
    intro phase' old' hphase' hold'
    rw [List.getElem?_set_self (List.getElem?_eq_some_iff.mp hadmitted).1] at hphase'
    cases hphase'
    cases hold.symm.trans hold'
    exact (h.seat caller .admitted old hadmitted hold).emptied.append (by simp) (by simp)
  | store hduties =>
    refine h.seat_change (fun _ _ ↦ rfl) (by simp +contextual) ?_ hphase hget
    intro phase' old hphase' hold
    exact (h.seat _ phase' old hphase' hold).store _ (hworked.notMem_stored hduties)
  | release hduties =>
    refine h.seat_change (fun _ _ ↦ rfl) (by simp +contextual) ?_ hphase hget
    intro phase' old hphase' hold
    exact (h.seat _ phase' old hphase' hold).release (hworked.notMem_released hduties)
  | take hduties howner htake =>
    obtain ⟨waiting, -, rfl⟩ := Affinity.take?_eq_some_iff.mp htake
    exact (h.seat number phase rendezvous hphase hget).append (by simp) (by simp)
  | close =>
    rw [Affinity.rendezvous_close] at hget
    exact (h.seat number phase rendezvous hphase hget).append (by simp) (by simp)
  | _ => exact (h.seat number phase rendezvous hphase hget).append (by simp) (by simp)

theorem step (h : Met past meeting) (hworked : Worked past meeting)
    (hstep : meeting.Step events meeting') : Met (past ++ events) meeting' where
  length := (Run.refl.step hstep).length_callers h.length
  seat _ _ _ := h.seat_step hworked hstep

end Met

/-! ## Every meeting -/

theorem worked_and_met_of_reaches (h : Reaches past meeting) :
    Worked past meeting ∧ Met past meeting := by
  obtain ⟨heap, h⟩ := h
  induction h with
  | refl => exact ⟨.start heap, .start heap⟩
  | step _ hstep ih => exact ⟨ih.1.step hstep, ih.2.step ih.1 hstep⟩

/-- A step puts at most one event on record. -/
theorem Step.events_eq (h : meeting.Step events meeting') :
    events = [] ∨ ∃ event, events = [event] := by
  cases h <;> simp

/-- Whatever is on record happened, with the rest of the record before it and behind it. -/
theorem Reaches.exists_step (h : Reaches past meeting) {before after : List Event} {event : Event}
    (hpast : past = before ++ event :: after) :
    ∃ earlier later, Reaches before earlier ∧ earlier.Step [event] later := by
  obtain ⟨heap, h⟩ := h
  induction h generalizing after with
  | refl => simp at hpast
  | @step past events earlier later hrun hstep ih =>
    rcases append_eq_append_cons_cases hstep.events_eq hpast with ⟨_, -, hbefore⟩ | ⟨rfl, rfl, -⟩
    · exact ih hbefore
    · exact ⟨earlier, later, ⟨heap, hrun⟩, hstep⟩

theorem runGuarded_ne_unavailable (call : Call) (context : Context) (heap : Heap)
    (why : Unavailable) : (call.runGuarded context heap).1 ≠ .error (.unavailable why) := by
  rw [Call.runGuarded]
  cases (call.run context heap).1 <;> simp [Outcome.guard]

/-- A caller comes back with the verdict that was stored for it, after the permit was given. -/
theorem Reaches.of_returned (h : Reaches past meeting) {before after : List Event} {number : Nat}
    {verdict : Verdict} (hpast : past = before ++ .returned number verdict :: after) :
    .released number ∈ before ∧ .stored number verdict ∈ before := by
  obtain ⟨earlier, later, hearlier, hstep⟩ := h.exists_step hpast
  obtain ⟨hworked, hmet⟩ := worked_and_met_of_reaches hearlier
  generalize hevents : [Event.returned number verdict] = events at hstep
  cases hstep with
  | collect hphase hget =>
    cases hevents
    have hseat := hmet.seat _ _ _ hphase hget
    have hreleased := hseat.released (by decide)
    obtain ⟨stored, hstored⟩ := hworked.exists_stored_of_released hreleased
    rw [(hseat.outcome (by decide) stored).mpr hstored]
    exact ⟨hreleased, hstored⟩
  | _ => cases hevents

theorem Reaches.of_refused (h : Reaches past meeting) {call : Call} {verdict : Verdict}
    (hmem : .refused call verdict ∈ past) : verdict = refusal := by
  obtain ⟨before, after, hpast⟩ := List.append_of_mem hmem
  obtain ⟨earlier, later, -, hstep⟩ := h.exists_step hpast
  generalize hevents : [Event.refused call verdict] = events at hstep
  cases hstep with
  | refuse => cases hevents; rfl
  | _ => cases hevents

/-- What holds of a meeting and of its record, whatever was done in which order. -/
structure Orderly (past : List Event) (meeting : Meeting) : Prop where
  /-- The queue numbers the calls that it takes, and they are run in that order. -/
  in_order : (past.filterMap Event.queued?).map Prod.fst =
      List.range meeting.queue.rendezvous.size ∧
    past.filterMap Event.ran? <+: past.filterMap Event.queued?
  /-- No call is run twice. -/
  ran_once : ((past.filterMap Event.ran?).map Prod.fst).Nodup
  /-- No rendezvous has an outcome stored or a permit given twice. -/
  fulfilled_once : ((past.filterMap Event.stored?).map Prod.fst).Nodup ∧
    (past.filterMap Event.released?).Nodup
  /-- There is never more than one permit. -/
  permits : ∀ number rendezvous, meeting.queue.rendezvous.get? number = some rendezvous →
    rendezvous.permits = 0 ∨ rendezvous.permits = 1
  /-- A caller comes back after its rendezvous was fulfilled. -/
  returned : ∀ before number verdict after, past = before ++ .returned number verdict :: after →
    .stored number verdict ∈ before ∧ .released number ∈ before
  /-- If its call was run, the caller comes back with what that run came to. -/
  own : ∀ number verdict, .returned number verdict ∈ past → ∀ call context heap,
    .ran number call context heap ∈ past →
      .queued number call ∈ past ∧ verdict = (call.runGuarded context heap).1
  /-- The caller comes back without an answer exactly if its call was never run. -/
  unavailable_iff : ∀ number verdict, .returned number verdict ∈ past →
    ((∃ why, verdict = .error (.unavailable why)) ↔
      ∀ call context heap, .ran number call context heap ∉ past)
  /-- A caller whose call was not taken is told so. -/
  refused : ∀ call verdict, .refused call verdict ∈ past →
    verdict = .error (.unavailable .shutDown)
  /-- Nobody finds the outcome missing. -/
  present : ∀ number, .returned number (.error (.unavailable .noOutcome)) ∉ past

/-- The verdict of a caller that has come back. -/
theorem Reaches.answers (h : Reaches past meeting) {number : Nat} {verdict : Verdict}
    (hmem : .returned number verdict ∈ past) :
    Answers past meeting.queue.gate number verdict := by
  obtain ⟨before, after, hpast⟩ := List.append_of_mem hmem
  have hstored : .stored number verdict ∈ past := by
    rw [hpast]
    exact List.mem_append_left _ (h.of_returned hpast).2
  exact (worked_and_met_of_reaches h).1.answers number verdict (.inl hstored)

/-- **Meetings are orderly.** In every run of any number of callers against the thread at the queue,
with the queue closed or gone at any time and with callers woken for nothing, calls are run at most
once and in order, rendezvous are fulfilled at most once, and every caller that comes back has the
verdict on its own call. -/
theorem orderly_of_reaches (h : Reaches past meeting) : Orderly past meeting := by
  obtain ⟨hworked, hmet⟩ := worked_and_met_of_reaches h
  have hserved := hworked.ran_prefix_queued
  have hran : ((past.filterMap Event.ran?).map Prod.fst).Nodup :=
    hworked.nodup_queued.sublist (hserved.sublist.map Prod.fst)
  exact
    { in_order := ⟨hworked.numbered, hserved⟩
      ran_once := hran
      fulfilled_once := ⟨hworked.nodup_stored, hworked.nodup_released⟩
      permits := fun number rendezvous hget ↦ by
        have hlt : number < meeting.callers.length := by
          rw [hmet.length, ← Nat.not_le, ← Cells.get?_eq_none_iff, hget]
          exact Option.some_ne_none _
        exact Nat.le_one_iff_eq_zero_or_eq_one.mp
          (hmet.seat number _ rendezvous (List.getElem?_eq_getElem hlt) hget).permits_le
      returned := fun before number verdict after hpast ↦ (h.of_returned hpast).symm
      own := fun number verdict hmem call context heap hcall ↦ by
        have hqueued := Event.mem_queued_iff.mp
          (hserved.subset (Event.mem_ran_iff.mpr ⟨context, heap, hcall⟩))
        rcases h.answers hmem with ⟨call', context', heap', hcall', rfl⟩ | ⟨-, hnever, -⟩
        · cases Event.ran_unique hran hcall hcall'
          exact ⟨hqueued, rfl⟩
        · exact absurd (List.mem_map_of_mem (Event.mem_ran_iff.mpr ⟨context, heap, hcall⟩)) hnever
      unavailable_iff := fun number verdict hmem ↦ by
        rcases h.answers hmem with ⟨call, context, heap, hcall, rfl⟩ | ⟨-, hnever, rfl⟩
        · refine ⟨fun ⟨why, hwhy⟩ ↦ absurd hwhy (runGuarded_ne_unavailable _ _ _ _), fun hnone ↦ ?_⟩
          exact absurd hcall (hnone call context heap)
        · refine ⟨fun _ call context heap hcall ↦ hnever ?_, fun _ ↦ ⟨.dropped, rfl⟩⟩
          exact List.mem_map_of_mem (Event.mem_ran_iff.mpr ⟨context, heap, hcall⟩)
      refused := fun call verdict ↦ h.of_refused
      present := fun number hmem ↦ by
        rcases h.answers hmem with ⟨call, context, heap, -, hverdict⟩ | ⟨-, -, hverdict⟩
        · exact runGuarded_ne_unavailable _ _ _ _ hverdict.symm
        · cases hverdict }

/-- The thread at the queue runs the first of two calls and goes away before the second. -/
theorem orderly_of_reaches_twoCallers : ∃ past meeting, Reaches past meeting ∧
    .returned 0 (.ok (.bool true)) ∈ past ∧ .returned 1 discarded ∈ past ∧
      Orderly past meeting := by
  let verdict : Verdict := .ok (.bool true)
  let call : Call := .body fun _ heap ↦ (.returned (.bool true), heap)
  let thread : Thread := ⟨1, none⟩
  let state (gate : Gate) (waiting : List (Nat × Call)) (cell cell' : Rendezvous Verdict)
      (duties : List Duty) (phase phase' : Phase) : Meeting :=
    ⟨⟨some thread, gate, waiting, ⟨#[cell, cell']⟩⟩, ∅, duties, [phase, phase']⟩
  have hcaller : ¬(Affinity.claim ∅ thread : CallQueue).RunsInPlace ⟨2, none⟩ := by decide
  have hclaimed : Run {} [] { queue := Affinity.claim ∅ thread } :=
    Run.refl.step (.claim thread rfl)
  have hsent : Run {} _ (state .accepting [(0, call), (1, call)] {} {} [] .waiting .waiting) :=
    (hclaimed.step (.send hcaller (show Affinity.send? _ call = some (0, _) from rfl))).step
      (.send hcaller (show Affinity.send? _ call = some (1, _) from rfl))
  have htaken : Run {} _ (state .accepting [(1, call)] {} {} [.run 0 call] .waiting .waiting) :=
    hsent.step (@Step.take _ thread (0, call) _ rfl rfl rfl)
  have hran : Run {} _
      (state .accepting [(1, call)] {} {} [.store 0 verdict, .discard none] .waiting .waiting) :=
    htaken.step (@Step.run _ thread 0 0 call _ rfl rfl)
  have hstored : Run {} _ (state .accepting [(1, call)] ⟨some verdict, 0⟩ {}
      [.release 0, .discard none] .waiting .waiting) :=
    hran.step (@Step.store _ 0 verdict _ rfl)
  -- the outcome is there before the permit, so the caller is still woken for nothing
  have hwoken := hstored.step (@Step.wake _ 0 _ rfl rfl rfl)
  have hreleased : Run {} _ (state .accepting [(1, call)] ⟨some verdict, 1⟩ {}
      [.discard none] .waiting .waiting) :=
    hwoken.step (@Step.release _ 0 _ rfl)
  have hadmitted : Run {} _ (state .accepting [(1, call)] ⟨some verdict, 0⟩ {}
      [.discard none] .admitted .waiting) :=
    hreleased.step (@Step.acquire _ 0 _ _ rfl rfl rfl)
  have hreturned : Run {} _
      (state .accepting [(1, call)] {} {} [.discard none] .returned .waiting) :=
    hadmitted.step (@Step.collect _ 0 ⟨some verdict, 0⟩ rfl rfl)
  have hdropped : Run {} _ (state .dropped [] {} {} [.store 1 discarded] .returned .waiting) :=
    ((hreturned.step (.letGo rfl)).step (.drop rfl)).step (@Step.answer _ 1 _ rfl)
  have hanswered : Run {} _ (state .dropped [] {} ⟨some discarded, 1⟩ [] .returned .waiting) :=
    (hdropped.step (@Step.store _ 1 discarded _ rfl)).step (@Step.release _ 1 _ rfl)
  have hlast : Run {} _ (state .dropped [] {} ⟨some discarded, 0⟩ [] .returned .admitted) :=
    hanswered.step (@Step.acquire _ 1 _ _ rfl rfl rfl)
  have hdone : Run {} _ (state .dropped [] {} {} [] .returned .returned) :=
    hlast.step (@Step.collect _ 1 ⟨some discarded, 0⟩ rfl rfl)
  have hreaches : Reaches _ _ := ⟨∅, hdone⟩
  exact ⟨_, _, hreaches, by simp [verdict], by simp, orderly_of_reaches hreaches⟩

end Meeting

end ObjectConsole.Execution
