import Mathlib.Order.Bounds.Basic
import ObjectConsole.Proofs.Server.Lifecycle

/-!
# When a wait decides

A wait sees the guards at its looks only, ten milliseconds apart, while they are taken and released
at any time. It is decided at the first look that finds no guards or has the deadline behind it, and
if both are true the guards count. So a guard may go after the deadline, as long as it goes by the
next look; and a moment without guards is lost if no look falls on it. What is done to the guards is
given by a `Schedule`, and the releases of a timeline are one (`Timeline.lifecycle_advance`).
-/

namespace ObjectConsole.Server

namespace Lifecycle

/-! ## Schedules -/

/-- The acts on guards. -/
def Act.OfGuards : Act → Prop
  | takeGuard | releaseGuard => True
  | _ => False

/-- What is done to the guards of a server, from each millisecond to the next. An act at the very
instant of a look stands before or behind it in the schedule as it does in time. -/
structure Schedule where
  acts : Nat → List Act
  ofGuards : ∀ time, ∀ act ∈ acts time, act.OfGuards

/-- The state of a server at a time, from its state at the start. -/
def Schedule.state (schedule : Schedule) (start : Lifecycle) : Nat → Lifecycle
  | 0 => start
  | time + 1 => (schedule.state start time).after (schedule.acts time)

/-- A wait from a time on, and the state of the server when it returns. -/
def Schedule.wait (schedule : Schedule) (start : Lifecycle) (time timeout : Nat) :
    Wait × Lifecycle :=
  let result :=
    Lifecycle.wait (fun elapsed ↦ (schedule.state start (time + elapsed)).inFlight) timeout
  (result, (schedule.state start (time + result.elapsed)).afterWait result)

section Deciding

/-! The number of guards is taken look by look from here on. The first look that is not before the
deadline is number `(timeout + 9) / 10`. -/

variable {guards : Nat → Nat} {timeout k : Nat}
  (h : IsLeast {k | guards k = 0 ∨ timeout ≤ 10 * k} k)
include h

end Deciding

end Lifecycle

/-! ## Scheduled releases -/

namespace Timeline

/-- The releases of a timeline as a schedule, from its clock on. A release at the very instant of a
look stands behind it. -/
def schedule (timeline : Timeline) : Lifecycle.Schedule where
  acts ahead := .replicate (timeline.releases.count (timeline.clock + ahead)) .releaseGuard
  ofGuards := by
    intro ahead act hact
    rw [List.eq_of_mem_replicate hact]
    trivial

theorem length_filter_lt_succ (releases : List Nat) (time : Nat) :
    (releases.filter (· < time + 1)).length =
      (releases.filter (· < time)).length + releases.count time := by
  induction releases with
  | nil => rfl
  | cons release releases ih =>
    rw [List.filter_cons, List.filter_cons, List.count_cons]
    simp only [decide_eq_true_eq, beq_iff_eq]
    split_ifs <;> simp only [List.length_cons, ih] <;> omega

theorem lifecycle_advance (timeline : Timeline) (ahead : Nat) :
    (timeline.advance ahead).lifecycle =
      timeline.schedule.state (timeline.advance 0).lifecycle ahead := by
  induction ahead with
  | zero => rfl
  | succ ahead ih =>
    rw [Lifecycle.Schedule.state, ← ih, schedule, Lifecycle.after_replicate_releaseGuard, advance,
      advance, guardsAhead, guardsAhead, Nat.sub_sub, ← length_filter_lt_succ, Nat.add_assoc]

theorem waitForDrain_eq (timeline : Timeline) (timeout : Nat) :
    let waited := timeline.schedule.wait (timeline.advance 0).lifecycle 0 timeout
    (timeline.waitForDrain timeout).1 = waited.1 ∧
      (timeline.waitForDrain timeout).2.lifecycle = waited.2 := by
  intro waited
  have hguards : timeline.guardsAhead = fun elapsed ↦
      (timeline.schedule.state (timeline.advance 0).lifecycle (0 + elapsed)).inFlight := by
    funext elapsed
    rw [Nat.zero_add, ← lifecycle_advance]
    rfl
  have hresult : (timeline.waitForDrain timeout).1 = waited.1 := by
    rw [waitForDrain, hguards]
    rfl
  have hlifecycle : (timeline.waitForDrain timeout).2.lifecycle =
      (timeline.advance (timeline.waitForDrain timeout).1.elapsed).lifecycle.afterWait
        (timeline.waitForDrain timeout).1 := rfl
  refine ⟨hresult, ?_⟩
  rw [hlifecycle, hresult, lifecycle_advance, ← Nat.zero_add waited.1.elapsed]
  rfl

/-- A guard goes after the deadline, and in time for the next look. -/
example : (waitForDrain ⟨⟨.draining, 1⟩, 0, [17]⟩ 15).1 = ⟨true, 20⟩ := by
  decide +kernel

end Timeline

end ObjectConsole.Server
