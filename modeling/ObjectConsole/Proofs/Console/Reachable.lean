import ObjectConsole.Proofs.Console.Dispatch
import Mathlib.Logic.Relation

/-!
# Reachable worlds

A console does not own its world. Between two requests others may use the registry, take identifiers
from the same source, write to arrays and counters, and close or drive the queue. A world is
reachable when it comes from an empty registry by steps of all these kinds.

What every step keeps is that entries stand under identifiers that were drawn (`Drawn`), so the next
identifier is new to the registry as soon as it differs from the earlier ones. Nothing is assumed of
later draws: identifiers are finitely many, and no source can go on without repetition.
-/

namespace ObjectConsole

open Store

namespace Console

variable (console : Console)

/-! ## What a request does to the entries -/

/-- A request adds one entry under the next identifier, or it leaves the entries as they are. -/
theorem handle_entries {moment : Moment} {path : String} {query : Option String}
    {world world' : World} {reply : Reply}
    (h : console.handle moment path query world = (reply, world')) :
    (world'.registry.ephemeral = world.registry.ephemeral ∧ world'.drawn = world.drawn) ∨
      ∃ v, world'.registry =
          world.registry.add moment.now (console.identifier world.drawn) v ∧
        world'.drawn = world.drawn + 1 := by
  cases console.handle_ends moment h with
  | unprepared htask => exact .inl ⟨rfl, rfl⟩
  | unnamed hroute => exact .inl ⟨rfl, rfl⟩
  | named hroute hpromoted => exact .inl ⟨hpromoted.binds.ephemeral_eq, rfl⟩
  | answered htask hpersist hplain => exact .inl ⟨rfl, rfl⟩
  | performed htask hends =>
    cases hends with
    | refused houtcome hsame => exact .inl ⟨congrArg _ hsame.registry_eq, hsame.drawn_eq⟩
    | raised houtcome hguard hsame => exact .inl ⟨congrArg _ hsame.registry_eq, hsame.drawn_eq⟩
    | null houtcome hsame => exact .inl ⟨congrArg _ hsame.registry_eq, hsame.drawn_eq⟩
    | value houtcome hv hregistry hdrawn hreply => exact .inr ⟨_, hregistry, hdrawn⟩

/-! ## Steps -/

/-- One thing that happens to a world: a request is handled, someone uses the registry or takes an
identifier, or the heap and the delegate change. -/
inductive Step (world : World) : World → Prop
  | request (moment : Moment) (path : String) (query : Option String) :
      Step world (console.handle moment path query world).2
  | add (now : UInt64) (v : Value) : Step world (world.addValue console now v).2
  | draw : Step world (world.drawIdentifier console).2
  | promote {id : Uuid} {name : String} {promoted : Registry}
      (h : world.registry.promote id name = .ok promoted) :
      Step world { world with registry := promoted }
  | promoteAuto {id : Uuid} {name : String} {promoted : Registry}
      (h : world.registry.promoteAuto id = .ok (name, promoted)) :
      Step world { world with registry := promoted }
  | sweep (now : UInt64) : Step world { world with registry := (world.registry.sweep now).2 }
  | elsewhere (heap : Heap) (delegate : Delegate) :
      Step world { world with heap := heap, delegate := delegate }

/-- The worlds that a console can come to. -/
def Reachable (world : World) : Prop :=
  ∃ start : World, start.registry = ∅ ∧ start.drawn = 0 ∧
    Relation.ReflTransGen console.Step start world

/-! ## Entries stand under drawn identifiers -/

/-- Every entry stands under an identifier that was drawn. -/
def Drawn (world : World) : Prop :=
  ∀ id, world.registry.ephemeral.get? id ≠ none → ∃ k < world.drawn, console.identifier k = id

variable {console} {world world' : World}

theorem Drawn.of_eq (h : console.Drawn world)
    (hephemeral : world'.registry.ephemeral = world.registry.ephemeral)
    (hdrawn : world'.drawn = world.drawn) : console.Drawn world' := by
  rw [Drawn, hephemeral, hdrawn]
  exact h

theorem Drawn.add (h : console.Drawn world) {now : UInt64} {v : Value}
    (hregistry : world'.registry = world.registry.add now (console.identifier world.drawn) v)
    (hdrawn : world'.drawn = world.drawn + 1) : console.Drawn world' := by
  intro id hid
  rw [hdrawn]
  -- the new entry stands under the identifier drawn last, the others under earlier ones
  by_cases hnew : id = console.identifier world.drawn
  · exact ⟨world.drawn, Nat.lt_succ_self _, hnew.symm⟩
  · rw [hregistry, Registry.get?_add, if_neg hnew] at hid
    obtain ⟨k, hk, hidentifier⟩ := h id hid
    exact ⟨k, Nat.lt_succ_of_lt hk, hidentifier⟩

theorem Drawn.step (h : console.Drawn world) (hstep : console.Step world world') :
    console.Drawn world' := by
  cases hstep with
  | request moment path query =>
    have heta := (Prod.eta (console.handle moment path query world)).symm
    rcases console.handle_entries heta with ⟨hephemeral, hdrawn⟩ | ⟨v, hregistry, hdrawn⟩
    · exact h.of_eq hephemeral hdrawn
    · exact h.add hregistry hdrawn
  | add now v => exact h.add rfl rfl
  | draw =>
    intro id hid
    obtain ⟨k, hk, hidentifier⟩ := h id hid
    exact ⟨k, Nat.lt_succ_of_lt hk, hidentifier⟩
  | promote hpromote =>
    obtain ⟨-, v, -, hbinds⟩ := Registry.binds_of_promote hpromote
    exact h.of_eq hbinds.ephemeral_eq rfl
  | promoteAuto hpromote =>
    obtain ⟨v, -, hbinds⟩ := Registry.binds_of_promoteAuto hpromote
    exact h.of_eq hbinds.ephemeral_eq rfl
  | sweep now =>
    intro id hid
    obtain ⟨entry, hentry⟩ := Option.ne_none_iff_exists'.mp hid
    refine h id ?_
    rw [(Registry.get?_sweep_eq_some_iff.mp hentry).1]
    exact Option.some_ne_none entry
  | elsewhere heap delegate => exact h.of_eq rfl rfl

theorem Reachable.drawn (h : console.Reachable world) : console.Drawn world := by
  obtain ⟨start, hregistry, -, hsteps⟩ := h
  induction hsteps with
  | refl =>
    intro id hid
    rw [hregistry] at hid
    exact absurd rfl hid
  | tail _ hstep ih => exact ih.step hstep

/-- An identifier that differs from the earlier ones is new to the registry. -/
theorem Reachable.get?_eq_none (h : console.Reachable world)
    (hfresh : ∀ k < world.drawn, console.identifier k ≠ console.identifier world.drawn) :
    world.registry.ephemeral.get? (console.identifier world.drawn) = none := by
  by_contra hid
  obtain ⟨k, hk, hidentifier⟩ := h.drawn _ hid
  exact hfresh k hk hidentifier

end Console

end ObjectConsole
