import ObjectConsole.Proofs.Console.ArrayRequests
import ObjectConsole.Proofs.Recorded

/-!
# Who shares an array

A handle of an array may be with a client, in an element of an array (of the same one even), or in
the registry under an identifier or a name. These are the `Place`s. A step of `Sharing.Step` makes
an array, clones a handle from one place to another, writes to an array, or does what the registry
does; and it puts on record where the handle at each place was before (`Moves`). So the record alone
tells where a handle comes from. `origin` follows it back from clone to clone, up to the step that
made the array.

The record says nothing of which array a handle is of. Still two handles are of one array exactly if
they have one origin. Every step keeps this (`Sharing.Sound.step`) because a step can only hand on
what is somewhere already: each handle after it was at the place that the record names, except that
of the one array that the step may make, and no handle was of that array before (`Sharing.Follows`).

What a write changes was said without any of this (`Heap.element?_set`), and what a step is to the
heap is said once, by `Sharing.Step.alters`: the length of an array is a matter of that alone.
-/

namespace ObjectConsole

open Store

/-! ## Places -/

/-- Where a value can be. -/
inductive Place where
  /-- With a client, at a position of all that clients hold. -/
  | held (position : Nat)
  /-- In an array. -/
  | element (ref : ArrayRef) (index : Nat)
  /-- In the registry. -/
  | kept (token : Token)
  deriving DecidableEq

/-- Where the handle at a place was before a step. -/
inductive Source where
  /-- It is a clone of the one at a place, perhaps the same. -/
  | clone (place : Place)
  /-- Nowhere: the step made the array. -/
  | created
  /-- It is none, or the place is empty. -/
  | other

/-- Where the handles at all places were before a step. -/
abbrev Moves := Place → Source

namespace Moves

/-- Every place has what it had. -/
def stay : Moves := .clone

/-- One place is filled. -/
def into (moves : Moves) (target : Place) (source : Source) : Moves :=
  fun place ↦ if place = target then source else moves place

/-- The elements of an array are filled, in order. -/
def fill (moves : Moves) (ref : ArrayRef) (sources : List Source) : Moves
  | .element other index =>
    if other = ref then sources[index]?.getD .other else moves (.element other index)
  | place => moves place

/-- The array among the operands of `array_set` is handed on to where the result is put, and the
element to where it is written. -/
def arraySet (values : List Value) (sources : List Source) (result : Place) : Moves :=
  match Demo.arraySetOperands values with
  | .ok (ref, index, _) =>
    (stay.into (.element ref index) (sources[2]?.getD .other)).into result (sources[0]?.getD .other)
  | .error _ => stay

@[simp] theorem into_self (moves : Moves) (target : Place) (source : Source) :
    moves.into target source target = source :=
  if_pos rfl

theorem into_of_ne {place target : Place} (h : place ≠ target) (moves : Moves) (source : Source) :
    moves.into target source place = moves place :=
  if_neg h

/-- The steps that made the arrays, once a step of the given number was made after the others. -/
def trace (moves : Moves) (number : Nat) (earlier : Place → Option Nat) : Place → Option Nat :=
  fun place ↦
    match moves place with
    | .clone source => earlier source
    | .created => some number
    | .other => none

end Moves

/-- The number on record of the step that made the array of the handle at a place, as it is found by
following clones back. -/
def origin (past : List Moves) : Place → Option Nat :=
  past.zipIdx.foldl (fun earlier entry ↦ entry.1.trace entry.2 earlier) fun _ ↦ none

theorem origin_append_singleton (past : List Moves) (moves : Moves) :
    origin (past ++ [moves]) = moves.trace past.length (origin past) := by
  rw [origin, List.zipIdx_append, List.foldl_append, Nat.zero_add]
  rfl

/-- Where an argument of a request is from: the place that its text refers to. An argument that is
given by its text is no handle, whatever the text looks like. -/
def Parameter.source (p : Parameter) : Source :=
  match p.text.map Token.parse with
  | some (.ok token) => .clone (.kept token)
  | _ => .other

/-! ## States -/

/-- A world, and what the clients of its registry hold. -/
structure Sharing where
  world : World := {}
  held : List Value := []

namespace Sharing

/-- The value at a place. -/
def at? (sharing : Sharing) : Place → Option Value
  | .held position => sharing.held[position]?
  | .element ref index => sharing.world.heap.element? ref index
  | .kept token => (sharing.world.registry.resolve token).toOption

/-- A client comes to hold a value. -/
def hold (sharing : Sharing) (v : Value) : Sharing :=
  { sharing with held := sharing.held ++ [v] }

/-- The heap is another. -/
def withHeap (sharing : Sharing) (heap : Heap) : Sharing :=
  { sharing with world := { sharing.world with heap := heap } }

/-- The registry is another. -/
def withRegistry (sharing : Sharing) (registry : Registry) : Sharing :=
  { sharing with world := { sharing.world with registry := registry } }

/-- Someone writes to an array. -/
def set (sharing : Sharing) (ref : ArrayRef) (index : Nat) (v : Value) : Sharing :=
  sharing.withHeap (sharing.world.heap.set ref index v).2

/-- The array that would be made next. -/
def next (sharing : Sharing) : ArrayRef :=
  ⟨sharing.world.heap.arrays.size⟩

/-- A client makes an array. -/
def create (sharing : Sharing) (elements : List Value) : Sharing :=
  let made := sharing.world.heap.newArray elements
  (sharing.withHeap made.2).hold (.array made.1)

/-- A value can be had from a source. No handle can be made up: an array is the one at a place. -/
def Provides (sharing : Sharing) (source : Source) (v : Value) : Prop :=
  ∀ ref, v = .array ref → ∃ place, source = .clone place ∧ sharing.at? place = some v

/-- What a request for `array_set` moves, as its registry and its parameters tell. -/
def requestMoves (console : Console) (world : World) (invocation : Invocation) : Moves :=
  match Console.arguments world.registry invocation.parameters with
  | .ok values => .arraySet values (invocation.parameters.map Parameter.source)
      (.kept (.ephemeral (console.identifier world.drawn)))
  | .error _ => .stay

/-- One thing that is done with arrays, and where it moves their handles. -/
inductive Step (console : Console) (s : Sharing) : List Moves → Sharing → Prop
  /-- An array is made. -/
  | create {sources : List Source} {values : List Value}
      (h : List.Forall₂ s.Provides sources values) :
      Step console s [(Moves.stay.fill s.next sources).into (.held s.held.length) .created]
        (s.create values)
  /-- A handle is cloned, an element is read, or a reference is resolved. -/
  | clone {place : Place} {v : Value} (h : s.at? place = some v) :
      Step console s [Moves.stay.into (.held s.held.length) (.clone place)] (s.hold v)
  /-- An element is written, if the index is one of the array. -/
  | set {place : Place} {ref : ArrayRef} (index : Nat) {source : Source} {v : Value}
      (hplace : s.at? place = some (.array ref)) (h : s.Provides source v) :
      Step console s [Moves.stay.into (.element ref index) source] (s.set ref index v)
  /-- An array is made of what the elements of another are. -/
  | copy {place : Place} {ref : ArrayRef} (hplace : s.at? place = some (.array ref)) :
      Step console s
        [(Moves.stay.fill s.next ((List.range (s.world.heap.length ref)).map
          fun index ↦ .clone (.element ref index))).into (.held s.held.length) .created]
        (s.create (s.world.heap.elements ref))
  /-- The body of `array_set` is called, and returns. -/
  | returned (context : Context) (receiver : Option Value) {sources : List Source}
      {values : List Value} {v : Value} {heap : Heap} (h : List.Forall₂ s.Provides sources values)
      (hcall : Demo.arraySet context receiver values s.world.heap = (.returned v, heap)) :
      Step console s [.arraySet values sources (.held s.held.length)]
        ((s.withHeap heap).hold v)
  /-- The body of `array_set` is called, and fails. -/
  | failed (context : Context) (receiver : Option Value) {sources : List Source}
      {values : List Value} {failure : Failure} {heap : Heap}
      (h : List.Forall₂ s.Provides sources values)
      (hcall : Demo.arraySet context receiver values s.world.heap = (.failed failure, heap)) :
      Step console s [.stay] (s.withHeap heap)
  /-- A request for `array_set` is handled. It moves something if it takes an identifier. -/
  | request (moment : Moment) {route : Route} {invocation : Invocation} {reply : Reply}
      {world' : World} (hcalls : Demo.CallsArraySet route invocation)
      (h : console.dispatch moment route s.world = (reply, world')) :
      Step console s
        [if world'.drawn = s.world.drawn then .stay else requestMoves console s.world invocation]
        { s with world := world' }
  /-- A value is added to the registry. -/
  | add (now : UInt64) {source : Source} {v : Value} (h : s.Provides source v) :
      Step console s
        [Moves.stay.into (.kept (.ephemeral (console.identifier s.world.drawn))) source]
        { s with world := (s.world.addValue console now v).2 }
  /-- An entry of the registry is given a name. -/
  | promote {id : Uuid} {name : String} {promoted : Registry}
      (h : s.world.registry.promote id name = .ok promoted ∨
        s.world.registry.promoteAuto id = .ok (name, promoted)) :
      Step console s [Moves.stay.into (.kept (.persistent name)) (.clone (.kept (.ephemeral id)))]
        (s.withRegistry promoted)
  /-- Old entries of the registry are dropped. -/
  | sweep (now : UInt64) :
      Step console s [.stay] (s.withRegistry (s.world.registry.sweep now).2)

variable {console : Console} {s s' : Sharing} {new past : List Moves} {moves : Moves}
  {place : Place} {source : Source} {sources : List Source} {values : List Value} {v : Value}
  {ref : ArrayRef} {index : Nat}

/-! ## Sources -/

theorem provides_clone (h : s.at? place = some v) : s.Provides (.clone place) v :=
  fun _ _ ↦ ⟨place, rfl, h⟩

theorem at?_kept_eq_some_iff {token : Token} :
    s.at? (.kept token) = some v ↔ s.world.registry.resolve token = .ok v := by
  rw [at?]
  cases s.world.registry.resolve token <;> simp [Except.toOption]

/-- An argument that fits its type is had from where its text says, if it is an array. -/
theorem provides_of_fits {p : Parameter}
    (h : Coercion.Fits s.world.registry p.type p.text v) : s.Provides p.source v := by
  rintro ref rfl
  cases h with
  | @primitive kind _ _ _ _ hholds => cases kind <;> obtain ⟨_, ⟨⟩⟩ := hholds
  | string _ _ hvalue => rcases hvalue with ⟨_, _, heq⟩ | ⟨_, heq⟩ <;> cases heq
  | reference _ _ hrefers =>
    obtain ⟨text, token, htext, hparse, hresolve⟩ := hrefers
    refine ⟨.kept token, ?_, at?_kept_eq_some_iff.mpr hresolve⟩
    rw [Parameter.source, htext, Option.map_some, hparse]

theorem provides_arguments {parameters : List Parameter}
    (h : Console.arguments s.world.registry parameters = .ok values) :
    List.Forall₂ s.Provides (parameters.map Parameter.source) values := by
  rw [List.forall₂_map_left_iff]
  exact (Console.arguments_eq_ok_iff.mp h).imp fun _ _ ↦ provides_of_fits

theorem provides_getElem? (h : List.Forall₂ s.Provides sources values) {position : Nat}
    (hget : values[position]? = some v) : s.Provides (sources[position]?.getD .other) v := by
  rw [List.forall₂_iff_get] at h
  obtain ⟨hlength, hprovides⟩ := h
  obtain ⟨hlt, rfl⟩ := List.getElem?_eq_some_iff.mp hget
  rw [List.getElem?_eq_getElem (hlength ▸ hlt), Option.getD_some]
  exact hprovides position (hlength ▸ hlt) hlt

theorem provides_elements (s : Sharing) (ref : ArrayRef) :
    List.Forall₂ s.Provides
      ((List.range (s.world.heap.length ref)).map fun index ↦ .clone (.element ref index))
      (s.world.heap.elements ref) := by
  rw [List.forall₂_iff_get]
  refine ⟨by simp [Heap.length], fun index hlt hlt' ↦ ?_⟩
  simp only [List.get_eq_getElem, List.getElem_map, List.getElem_range]
  exact provides_clone (List.getElem?_eq_getElem hlt')

/-- The operands of a write are had from two of the sources. -/
theorem exists_moves_arraySet (h : List.Forall₂ s.Provides sources values)
    (hsets : Demo.SetsElement s.world.heap values ref index v) (result : Place) :
    ∃ array element, Moves.arraySet values sources result =
        (Moves.stay.into (.element ref index) element).into result array ∧
      s.Provides array (.array ref) ∧ s.Provides element v := by
  have hoperands := Demo.arraySetOperands_eq_ok_iff.mpr
    ⟨hsets.array_eq, hsets.index_eq, hsets.element_eq⟩
  refine ⟨_, _, ?_, provides_getElem? h hsets.array_eq, provides_getElem? h hsets.element_eq⟩
  rw [Moves.arraySet, hoperands]

/-! ## What a step does to the heap -/

/-- A heap after a step: it has one more array, or one element of an array that is at a place was
written, or it is as it was. -/
inductive Alters (s : Sharing) : Heap → Prop
  | newArray (elements : List Value) : Alters s (s.world.heap.newArray elements).2
  | set {place : Place} {ref : ArrayRef} (index : Nat) (v : Value)
      (hplace : s.at? place = some (.array ref)) : Alters s (s.world.heap.set ref index v).2
  | refl : Alters s s.world.heap

theorem alters_of_setsElement (h : List.Forall₂ s.Provides sources values)
    (hsets : Demo.SetsElement s.world.heap values ref index v) :
    s.Alters (s.world.heap.set ref index v).2 := by
  obtain ⟨place, -, hplace⟩ := provides_getElem? h hsets.array_eq ref rfl
  exact .set index v hplace

namespace Step

theorem idle (hcatalog : console.catalog = Demo.catalog) (h : Step console s new s')
    (hidle : s.world.delegate.Idle) : s'.world.delegate.Idle := by
  cases h with
  | request moment hcalls h => exact (Console.dispatch_arraySet hcatalog hidle hcalls h).1
  | _ => exact hidle

theorem alters (hcatalog : console.catalog = Demo.catalog) (h : Step console s new s')
    (hidle : s.world.delegate.Idle) : s.Alters s'.world.heap := by
  cases h with
  | create | copy => exact .newArray _
  | set index hplace => exact .set index _ hplace
  | returned context receiver h hcall =>
    obtain ⟨ref, index, w, hsets, -, rfl⟩ := Demo.exists_of_arraySet_returned hcall
    exact alters_of_setsElement h hsets
  | failed context receiver h hcall =>
    obtain rfl := Demo.heap_eq_of_arraySet_failed hcall
    exact .refl
  | request moment hcalls h =>
    rcases (Console.dispatch_arraySet hcatalog hidle hcalls h).2 with
      hleaves | ⟨ref, index, v, hset⟩
    · rw [hleaves.heap_eq]
      exact .refl
    · obtain ⟨values, hvalues, hsets⟩ := hset.asks.sets
      rw [hset.heap_eq]
      exact alters_of_setsElement (provides_arguments hvalues) hsets
  | clone | add | promote | sweep => exact .refl

end Step

namespace Alters

variable {heap : Heap}

theorem size_le (h : s.Alters heap) : s.world.heap.arrays.size ≤ heap.arrays.size := by
  cases h with
  | newArray elements => rw [Heap.newArray, Cells.size_create]; exact Nat.le_succ _
  | set index v hplace => exact Nat.le_of_eq (Heap.size_arrays_set _ _ _ _).symm
  | refl => exact Nat.le_refl _

theorem length_eq (h : s.Alters heap) (hlt : ref.cell < s.world.heap.arrays.size) :
    heap.length ref = s.world.heap.length ref := by
  cases h with
  | newArray elements =>
    rw [Heap.length, Heap.elements_newArray, if_neg, Heap.length]
    rintro rfl
    exact Nat.lt_irrefl _ hlt
  | set index v hplace => exact Heap.length_set _ _ _ _ _
  | refl => rfl

end Alters

/-! ## What a step does to the places -/

/-- A handle that is at a place after a step was at the place it was moved from, or it is of the one
array that the step made. -/
structure Follows (s : Sharing) (moves : Moves) (s' : Sharing) : Prop where
  alters : s.Alters s'.world.heap
  had : ∀ {place v}, s'.at? place = some v → s.Provides (moves place) v ∨
    moves place = .created ∧ v = .array s.next ∧ s.next.cell < s'.world.heap.arrays.size

/-- One place is filled by what a source provides, and of the others it is known where they have
what they have from. -/
theorem Follows.of_into {filled : Sharing} {target : Place} (halters : s.Alters s'.world.heap)
    (hsource : s.Provides source v)
    (hfilled : ∀ place w, filled.at? place = some w → s.Provides (moves place) w)
    (hat : ∀ place, s'.at? place = if place = target then some v else filled.at? place) :
    Follows s (moves.into target source) s' where
  alters := halters
  had := by
    intro place w hw
    left
    rw [hat] at hw
    rw [Moves.into]
    split at hw
    · next htarget =>
      cases hw
      rwa [if_pos htarget]
    · next htarget =>
      rw [if_neg htarget]
      exact hfilled place w hw

/-- What is where it was has not moved. -/
theorem Follows.of_stay (halters : s.Alters s'.world.heap)
    (h : ∀ place w, s'.at? place = some w → s.at? place = some w) : Follows s .stay s' :=
  ⟨halters, fun hw ↦ .inl (provides_clone (h _ _ hw))⟩

theorem at?_hold (s : Sharing) (v : Value) (place : Place) :
    (s.hold v).at? place = if place = .held s.held.length then some v else s.at? place := by
  cases place with
  | held position =>
    simp only [at?, hold, List.getElem?_append, List.getElem?_singleton, Place.held.injEq]
    grind
  | element | kept => rw [if_neg nofun]; rfl

theorem at?_create (s : Sharing) (elements : List Value) (place : Place) :
    (s.create elements).at? place =
      if place = .held s.held.length then some (.array s.next)
      else (s.withHeap (s.world.heap.newArray elements).2).at? place :=
  at?_hold _ _ _

theorem at?_newArray_element (s : Sharing) (elements : List Value) (ref : ArrayRef) (j : Nat) :
    (s.withHeap (s.world.heap.newArray elements).2).at? (.element ref j) =
      if ref = s.next then elements[j]? else s.at? (.element ref j) :=
  Heap.element?_newArray _ _ _ _

theorem at?_set_element (s : Sharing) (ref : ArrayRef) (index : Nat) (v : Value) (other : ArrayRef)
    (j : Nat) :
    (s.set ref index v).at? (.element other j) =
      if other = ref ∧ j = index ∧ index < s.world.heap.length ref then some v
      else s.at? (.element other j) :=
  Heap.element?_set _ _ _ _ _ _

/-- A token has come to refer to a value, and everything else is where it was. -/
theorem at?_of_resolve_eq {token : Token} (hheap : s'.world.heap = s.world.heap)
    (hheld : s'.held = s.held)
    (hresolve : ∀ other, s'.world.registry.resolve other =
      if other = token then .ok v else s.world.registry.resolve other) (place : Place) :
    s'.at? place = if place = .kept token then some v else s.at? place := by
  cases place with
  | held position => rw [if_neg nofun, at?, hheld, at?]
  | element ref j => rw [if_neg nofun, at?, hheap, at?]
  | kept other =>
    simp only [at?, hresolve, Place.kept.injEq]
    split <;> rfl

/-- What is in an array after a write was there before, or it is what was written. -/
theorem provides_set (hv : s.Provides source v) (place : Place) (w : Value)
    (hw : (s.set ref index v).at? place = some w) :
    s.Provides (Moves.stay.into (.element ref index) source place) w := by
  cases place with
  | held | kept =>
    rw [Moves.into, if_neg nofun]
    exact provides_clone hw
  | element other j =>
    rw [at?_set_element] at hw
    split at hw
    · next hwritten =>
      obtain ⟨rfl, rfl, -⟩ := hwritten
      cases hw
      rwa [Moves.into_self]
    · next hwritten =>
      rw [Moves.into_of_ne]
      · exact provides_clone hw
      -- an element that is there and is the one to be written would have been written
      · rintro ⟨⟩
        exact hwritten ⟨rfl, rfl, (List.getElem?_eq_some_iff.mp hw).1⟩

theorem follows_create (h : List.Forall₂ s.Provides sources values) :
    Follows s ((Moves.stay.fill s.next sources).into (.held s.held.length) .created)
      (s.create values) where
  alters := .newArray values
  had := by
    intro place w hw
    rw [at?_create] at hw
    by_cases hplace : place = .held s.held.length
    · subst hplace
      rw [if_pos rfl] at hw
      cases hw
      refine .inr ⟨Moves.into_self _ _ _, rfl, ?_⟩
      exact (Cells.size_create _ _).symm ▸ Nat.lt_succ_self _
    · rw [if_neg hplace] at hw
      rw [Moves.into_of_ne hplace]
      left
      cases place with
      | held | kept => exact provides_clone hw
      | element other j =>
        rw [at?_newArray_element] at hw
        rw [Moves.fill]
        split at hw
        · next hnew =>
          rw [if_pos hnew]
          exact provides_getElem? h hw
        · next hnew =>
          rw [if_neg hnew]
          exact provides_clone hw

theorem follows_request (hcatalog : console.catalog = Demo.catalog)
    (hidle : s.world.delegate.Idle) {moment : Moment} {route : Route} {invocation : Invocation}
    {reply : Reply} {world' : World} (hcalls : Demo.CallsArraySet route invocation)
    (h : console.dispatch moment route s.world = (reply, world'))
    (halters : s.Alters world'.heap) :
    Follows s
      (if world'.drawn = s.world.drawn then .stay else requestMoves console s.world invocation)
      { s with world := world' } := by
  rcases (Console.dispatch_arraySet hcatalog hidle hcalls h).2 with hleaves | ⟨ref, index, v, hset⟩
  · rw [if_pos hleaves.same.drawn_eq]
    refine .of_stay halters fun place w hw ↦ ?_
    cases place with
    | held position => exact hw
    | element other j => rwa [at?, hleaves.heap_eq] at hw
    | kept token => rwa [at?, hleaves.same.registry_eq] at hw
  · obtain ⟨values, hvalues, hsets⟩ := hset.asks.sets
    obtain ⟨array, element, hmoves, harray, helement⟩ := exists_moves_arraySet
      (provides_arguments hvalues) hsets (.kept (.ephemeral (console.identifier s.world.drawn)))
    rw [if_neg (hset.drawn_eq ▸ Nat.succ_ne_self _), requestMoves, hvalues]
    simp only [hmoves]
    refine .of_into halters harray (provides_set helement)
      (at?_of_resolve_eq hset.heap_eq rfl fun token ↦ ?_)
    rw [hset.registry_eq]
    exact Registry.resolve_add _ _ _ _

theorem Step.follows (hcatalog : console.catalog = Demo.catalog) (h : Step console s new s')
    (hidle : s.world.delegate.Idle) : ∃ moves, new = [moves] ∧ Follows s moves s' := by
  have halters := h.alters hcatalog hidle
  cases h with
  | create h => exact ⟨_, rfl, follows_create h⟩
  | copy hplace => exact ⟨_, rfl, follows_create (s.provides_elements _)⟩
  | clone h =>
    exact ⟨_, rfl, .of_into halters (provides_clone h) (fun _ _ ↦ provides_clone) (s.at?_hold _)⟩
  | set index hplace h => exact ⟨_, rfl, halters, fun hw ↦ .inl (provides_set h _ _ hw)⟩
  | returned context receiver h hcall =>
    obtain ⟨ref, index, w, hsets, rfl, rfl⟩ := Demo.exists_of_arraySet_returned hcall
    obtain ⟨array, element, hmoves, harray, helement⟩ := exists_moves_arraySet h hsets
      (.held s.held.length)
    rw [hmoves]
    exact ⟨_, rfl, .of_into halters harray (provides_set helement)
      ((s.set ref index w).at?_hold (.array ref))⟩
  | failed context receiver h hcall =>
    obtain rfl := Demo.heap_eq_of_arraySet_failed hcall
    exact ⟨_, rfl, .of_stay halters fun _ _ ↦ id⟩
  | request moment hcalls h => exact ⟨_, rfl, follows_request hcatalog hidle hcalls h halters⟩
  | add now h =>
    exact ⟨_, rfl, .of_into halters h (fun _ _ ↦ provides_clone)
      (at?_of_resolve_eq rfl rfl (Registry.resolve_add _ _ _))⟩
  | @promote id name promoted h =>
    obtain ⟨v, hfind, hbinds⟩ : ∃ v, s.world.registry.find? id = some v ∧
        s.world.registry.Binds promoted name v := by
      rcases h with h | h
      · exact (Registry.binds_of_promote h).2
      · exact Registry.binds_of_promoteAuto h
    have hid : s.at? (.kept (.ephemeral id)) = some v :=
      at?_kept_eq_some_iff.mpr (Registry.resolve_ephemeral_eq_ok_iff.mpr hfind)
    exact ⟨_, rfl, .of_into halters (provides_clone hid) (fun _ _ ↦ provides_clone)
      (at?_of_resolve_eq rfl rfl hbinds.resolve_eq)⟩
  | sweep now =>
    refine ⟨_, rfl, .of_stay halters fun place w hw ↦ ?_⟩
    cases place with
    | held | element => exact hw
    | kept token =>
      rw [at?_kept_eq_some_iff] at hw ⊢
      exact Registry.resolve_of_sweep hw

/-! ## Cells and origins -/

/-- What is known of the handles at all places: their arrays were made by a step on record, and two
are of one array exactly if it was the same step. -/
structure Sound (past : List Moves) (s : Sharing) : Prop where
  cell_lt : ∀ {place ref}, s.at? place = some (.array ref) → ref.cell < s.world.heap.arrays.size
  exists_origin : ∀ {place ref}, s.at? place = some (.array ref) →
    ∃ number < past.length, origin past place = some number
  eq_iff : ∀ {place other ref ref'}, s.at? place = some (.array ref) →
    s.at? other = some (.array ref') → (ref = ref' ↔ origin past place = origin past other)

/-- A handle after a step is one from before with its origin, or its array is new and so is its
origin. -/
theorem Follows.cases (h : Follows s moves s') (past : List Moves)
    (hplace : s'.at? place = some (.array ref)) :
    (∃ earlier, s.at? earlier = some (.array ref) ∧
      origin (past ++ [moves]) place = origin past earlier) ∨
    ref = s.next ∧ s.next.cell < s'.world.heap.arrays.size ∧
      origin (past ++ [moves]) place = some past.length := by
  rw [origin_append_singleton, Moves.trace]
  rcases h.had hplace with hprovides | ⟨hcreated, ⟨⟩, hlt⟩
  · obtain ⟨earlier, hsource, hearlier⟩ := hprovides ref rfl
    rw [hsource]
    exact .inl ⟨earlier, hearlier, rfl⟩
  · rw [hcreated]
    exact .inr ⟨rfl, hlt, rfl⟩

theorem Sound.step (hsound : Sound past s) (h : Follows s moves s') :
    Sound (past ++ [moves]) s' where
  cell_lt := by
    intro place ref hplace
    rcases h.cases past hplace with ⟨earlier, hearlier, -⟩ | ⟨rfl, hlt, -⟩
    · exact Nat.lt_of_lt_of_le (hsound.cell_lt hearlier) h.alters.size_le
    · exact hlt
  exists_origin := by
    intro place ref hplace
    rw [List.length_append, List.length_singleton]
    rcases h.cases past hplace with ⟨earlier, hearlier, horigin⟩ | ⟨-, -, horigin⟩
    · obtain ⟨number, hlt, hnumber⟩ := hsound.exists_origin hearlier
      exact ⟨number, Nat.lt_succ_of_lt hlt, horigin.trans hnumber⟩
    · exact ⟨past.length, Nat.lt_succ_self _, horigin⟩
  eq_iff := by
    intro place other ref ref' hplace hother
    -- an array that is there differs from the new one, and so does its origin
    have hdiffers {earlier : Place} {ref : ArrayRef} (h : s.at? earlier = some (.array ref)) :
        ref ≠ s.next ∧ origin past earlier ≠ some past.length := by
      refine ⟨?_, fun horigin ↦ ?_⟩
      · rintro rfl
        exact Nat.lt_irrefl _ (hsound.cell_lt h)
      · obtain ⟨number, hlt, hnumber⟩ := hsound.exists_origin h
        cases hnumber.symm.trans horigin
        exact Nat.lt_irrefl _ hlt
    rcases h.cases past hplace with ⟨earlier, hearlier, horigin⟩ | ⟨rfl, -, horigin⟩ <;>
      rcases h.cases past hother with ⟨earlier', hearlier', horigin'⟩ | ⟨rfl, -, horigin'⟩ <;>
      rw [horigin, horigin']
    · exact hsound.eq_iff hearlier hearlier'
    · exact iff_of_false (hdiffers hearlier).1 (hdiffers hearlier).2
    · exact iff_of_false (hdiffers hearlier').1.symm (hdiffers hearlier').2.symm
    · exact iff_of_true rfl rfl

/-! ## Runs -/

variable {start : Sharing}

theorem idle_of_recorded (hcatalog : console.catalog = Demo.catalog)
    (h : Recorded (Step console) start past s) (hidle : start.world.delegate.Idle) :
    s.world.delegate.Idle := by
  induction h with
  | refl => exact hidle
  | step _ hstep ih => exact hstep.idle hcatalog ih

theorem size_le_of_recorded (hcatalog : console.catalog = Demo.catalog)
    (h : Recorded (Step console) start past s) (hidle : start.world.delegate.Idle) :
    start.world.heap.arrays.size ≤ s.world.heap.arrays.size := by
  induction h with
  | refl => exact Nat.le_refl _
  | step hrun hstep ih =>
    exact Nat.le_trans ih (hstep.alters hcatalog (idle_of_recorded hcatalog hrun hidle)).size_le

/-- An array keeps its length for as long as anything is done. -/
theorem length_eq_of_recorded (hcatalog : console.catalog = Demo.catalog)
    (h : Recorded (Step console) start past s) (hidle : start.world.delegate.Idle)
    (hlt : ref.cell < start.world.heap.arrays.size) :
    s.world.heap.length ref = start.world.heap.length ref := by
  induction h with
  | refl => rfl
  | step hrun hstep ih =>
    have halters := hstep.alters hcatalog (idle_of_recorded hcatalog hrun hidle)
    rw [halters.length_eq (Nat.lt_of_lt_of_le hlt (size_le_of_recorded hcatalog hrun hidle)), ih]

/-- Where the registry and the heap are empty to begin with, there are no handles but those of
arrays that were made. -/
theorem sound_of_recorded (hcatalog : console.catalog = Demo.catalog) {delegate : Delegate}
    (hidle : delegate.Idle)
    (h : Recorded (Step console) { world := { delegate := delegate } } past s) :
    Sound past s := by
  induction h with
  | refl =>
    have hnone (place : Place) : at? { world := { delegate := delegate } } place = none := by
      cases place with
      | held | element => rfl
      | kept token => cases token <;> rfl
    exact
      { cell_lt := fun {place _} h ↦ nomatch (hnone place).symm.trans h
        exists_origin := fun {place _} h ↦ nomatch (hnone place).symm.trans h
        eq_iff := fun {place _ _ _} h ↦ nomatch (hnone place).symm.trans h }
  | step hrun hstep ih =>
    obtain ⟨moves, rfl, hfollows⟩ := hstep.follows hcatalog (idle_of_recorded hcatalog hrun hidle)
    exact ih.step hfollows

/-- **Arrays are cells of fixed length.** Whatever was done with arrays so far, in places that were
empty at first:

* every handle comes from a step that made its array, and two handles are of one array, which is one
  cell, exactly if they come from the same step through clones; a write to the array of one of them
  gives the element at its index to the other if they do, provided that the index is one of the
  array, and leaves it every other element;
* a write tells whether its index is one of the array, and changes nothing if not;
* an array keeps its length whatever is done next;
* what is done next makes one more array, writes an element through a handle that is at a place, or
  leaves all arrays as they are;
* `array_set` writes the element that it is called for and returns the array, or it fails and leaves
  all arrays as they are: if it is not called with an array, an index of it and an element;
* a request for it writes the element and registers the array, which its page links to, or it leaves
  all arrays and the registry as they are: if it does not ask for this, or the console has shut
  down. -/
theorem arrays_are_cells (hcatalog : console.catalog = Demo.catalog) {delegate : Delegate}
    (hidle : delegate.Idle)
    (h : Recorded (Step console) { world := { delegate := delegate } } past s) :
    (∀ place other ref ref', s.at? place = some (.array ref) → s.at? other = some (.array ref') →
      (∃ number < past.length, origin past place = some number) ∧
      (ref = ref' ↔ origin past place = origin past other) ∧
      (ref.cell = ref'.cell ↔ origin past place = origin past other) ∧
      ∀ index v j, (s.world.heap.set ref index v).2.element? ref' j =
        if origin past place = origin past other ∧ j = index ∧ index < s.world.heap.length ref then
          some v
        else s.world.heap.element? ref' j) ∧
    (∀ ref index v,
      ((s.world.heap.set ref index v).1 = true ↔ index < s.world.heap.length ref) ∧
      ((s.world.heap.set ref index v).1 = false →
        (s.world.heap.set ref index v).2 = s.world.heap)) ∧
    (∀ new s', Recorded (Step console) s new s' → ∀ place ref,
      s.at? place = some (.array ref) → s'.world.heap.length ref = s.world.heap.length ref) ∧
    (∀ new s', Step console s new s' → s.Alters s'.world.heap) ∧
    (∀ context receiver arguments,
      (∃ ref index v, Demo.SetsElement s.world.heap arguments ref index v ∧
        Demo.arraySet context receiver arguments s.world.heap =
          (.returned (.array ref), (s.world.heap.set ref index v).2)) ∨
      (∀ ref index v, ¬Demo.SetsElement s.world.heap arguments ref index v) ∧
        ∃ failure, Demo.arraySet context receiver arguments s.world.heap =
          (.failed failure, s.world.heap)) ∧
    (∀ moment route invocation reply world', Demo.CallsArraySet route invocation →
      console.dispatch moment route s.world = (reply, world') →
      Console.LeavesArrays s.world world' reply invocation ∨
      ∃ ref index v,
        Console.SetsArray console moment s.world world' reply invocation ref index v) := by
  have hsound := sound_of_recorded hcatalog hidle h
  have hidle' := idle_of_recorded hcatalog h hidle
  refine ⟨fun place other ref ref' hplace hother ↦ ?_, fun ref index v ↦ ⟨?_, ?_⟩,
    fun new s' hrun place ref hplace ↦ ?_, fun new s' hstep ↦ hstep.alters hcatalog hidle',
    fun context receiver arguments ↦ Demo.arraySet_cases _ _ _ _,
    fun moment route invocation reply world' hcalls hdispatch ↦ ?_⟩
  · have heq := hsound.eq_iff hplace hother
    refine ⟨hsound.exists_origin hplace, heq, ?_, fun index v j ↦ ?_⟩
    · rw [← heq]
      exact ⟨fun hcell ↦ congrArg ArrayRef.mk hcell, congrArg ArrayRef.cell⟩
    · rw [Heap.element?_set]
      exact if_congr (and_congr (eq_comm.trans heq) Iff.rfl) rfl rfl
  · exact Heap.fst_set_iff _
  · intro hfailed
    have hlt : ¬index < s.world.heap.length ref := by
      rw [← Heap.fst_set_iff (v := v), hfailed]
      exact Bool.false_ne_true
    rw [(Heap.set_of_not_lt _ hlt v).2]
  · exact length_eq_of_recorded hcatalog hrun hidle' (hsound.cell_lt hplace)
  · exact (Console.dispatch_arraySet hcatalog hidle' hcalls hdispatch).2

/-- A request to write a number to an array that was registered under the first identifier. -/
def writesSeven : Invocation where
  targetType := "System"
  operation := "array_set"
  receiver := none
  parameters := [⟨"array", some "[00000000-0000-0000-0000-000000000000]"⟩, ⟨"int", some "0"⟩,
    ⟨"int", some "7"⟩]

/-- An array that contains itself, a copy of it from before, and a request that writes to it. -/
theorem arrays_are_cells_within_itself :
    let console : Console := ⟨Demo.catalog, "System", Uuid.ofNat⟩
    ∃ past s, Recorded (Step console) { world := { delegate := .inline } } past s ∧
      origin past (.element ⟨0⟩ 0) = origin past (.held 1) ∧
      origin past (.held 2) ≠ origin past (.held 1) ∧
      (s.world.heap.set ⟨0⟩ 0 (.bool true)).2.element? ⟨1⟩ 0 = some .null ∧
      ∃ reply world' ref index v, Console.SetsArray console ⟨0, 0, ⟨0, none⟩⟩ s.world world' reply
        writesSeven ref index v := by
  intro console
  let made : Sharing := create { world := { delegate := .inline } } [.null]
  let cloned := made.hold (.array ⟨0⟩)
  let copied := cloned.create [.null]
  let within := copied.set ⟨0⟩ 0 (.array ⟨0⟩)
  have hmade : made.at? (.held 0) = some (.array ⟨0⟩) := rfl
  have hcloned : cloned.at? (.held 0) = some (.array ⟨0⟩) := rfl
  have hcopied : copied.at? (.held 0) = some (.array ⟨0⟩) := rfl
  have hwithin : within.at? (.held 0) = some (.array ⟨0⟩) := rfl
  have hnull : Provides { world := { delegate := .inline } } .other .null := nofun
  have hrun : Recorded (Step console) { world := { delegate := .inline } } _ _ :=
    ((((Recorded.refl.step (.create (.cons hnull .nil))).step (.clone hmade)).step
      (.copy hcloned)).step (.set 0 hcopied (provides_clone hcopied))).step
      (.add 0 (provides_clone hwithin))
  have hidle : Delegate.inline.Idle := trivial
  obtain ⟨hhandles, -, -, -, -, hrequests⟩ := arrays_are_cells rfl hidle hrun
  obtain ⟨-, hsame, -, -⟩ := hhandles (.element ⟨0⟩ 0) (.held 1) ⟨0⟩ ⟨0⟩ rfl rfl
  obtain ⟨-, hcopy, -, hwrite⟩ := hhandles (.held 1) (.held 2) ⟨0⟩ ⟨1⟩ rfl rfl
  have hdiffers := mt hcopy.mpr (by decide)
  refine ⟨_, _, hrun, hsame.mp rfl, Ne.symm hdiffers, ?_, ?_⟩
  · rw [hwrite, if_neg (fun hall ↦ hdiffers hall.1)]
    rfl
  · have hcalls : Demo.CallsArraySet (.call "/System/array_set"
        "array=[00000000-0000-0000-0000-000000000000]&int=0&int=7") writesSeven :=
      ⟨⟨_, _, rfl, rfl⟩, rfl, rfl⟩
    rcases hrequests ⟨0, 0, ⟨0, none⟩⟩ _ _ _ _ hcalls rfl with hleaves | ⟨ref, index, v, hset⟩
    -- a request that changes nothing would have taken no identifier
    · exact absurd hleaves.same.drawn_eq (by decide)
    · exact ⟨_, _, ref, index, v, hset⟩

end Sharing

end ObjectConsole
