import ObjectConsole.Proofs.Console.FieldLink

/-!
# Paths of members

A call and a read of a field name a member of a type by their path, and each takes the path apart
for itself. The reader of calls stops at a path without a slash and then at one with an empty name;
the reader of fields cuts first and looks at both names together. What they should accept is said
here without either, as a grammar (`MemberPath`): any number of slashes, the type's name, one slash,
and the member's name.

The type's name is not empty and has no slash, so it begins where the leading slashes end, and it
ends at the next slash. A path is therefore of this form in at most one way (`MemberPath.unique`):
slashes in front never belong to a name, and those further behind always belong to the member's.
Both readers accept exactly these paths and find the same names in them, so they agree.
-/

namespace ObjectConsole

open Text

/-- A path that names a member of a type, and the number of slashes that it begins with. -/
structure MemberPath (path : String) (slashes : Nat) (typeName member : String) : Prop where
  path_eq : path = String.ofList (List.replicate slashes '/') ++ typeName ++ "/" ++ member
  typeName_ne : typeName ≠ ""
  slash_notMem : '/' ∉ typeName.toList
  member_ne : member ≠ ""

/-! ## The grammar -/

namespace MemberPath

variable {path typeName typeName' member member' : String} {slashes slashes' : Nat}

theorem toList_path (h : MemberPath path slashes typeName member) :
    path.toList = List.replicate slashes '/' ++ (typeName.toList ++ '/' :: member.toList) := by
  rw [h.path_eq]
  simp

theorem dropSlashes_path (h : MemberPath path slashes typeName member) :
    dropSlashes path.toList = typeName.toList ++ '/' :: member.toList := by
  rw [h.toList_path]
  apply dropSlashes_replicate_append
  have hne : typeName.toList ≠ [] := mt String.toList_eq_nil_iff.mp h.typeName_ne
  obtain ⟨c, rest, hname⟩ := List.exists_cons_of_ne_nil hne
  have hslash := h.slash_notMem
  rw [hname] at hslash ⊢
  rintro ⟨⟩
  exact hslash List.mem_cons_self

theorem cut?_path (h : MemberPath path slashes typeName member) :
    cut? '/' (dropSlashes path.toList) = some (typeName.toList, member.toList) :=
  cut?_eq_some_iff.mpr ⟨h.dropSlashes_path, h.slash_notMem⟩

/-- **A path names a member in at most one way.** -/
theorem unique (h : MemberPath path slashes typeName member)
    (h' : MemberPath path slashes' typeName' member') :
    slashes = slashes' ∧ typeName = typeName' ∧ member = member' := by
  have hnames := h.cut?_path.symm.trans h'.cut?_path
  simp only [Option.some.injEq, Prod.mk.injEq, String.toList_inj] at hnames
  obtain ⟨rfl, rfl⟩ := hnames
  refine ⟨?_, rfl, rfl⟩
  have hlength := congrArg List.length (h.toList_path.symm.trans h'.toList_path)
  simpa using hlength

end MemberPath

/-! ## The reader of calls -/

namespace Invocation

variable {path query typeName member : String}

theorem target_eq_ok_iff_memberPath :
    target path.toList = .ok (typeName.toList, member.toList) ↔
      ∃ slashes, MemberPath path slashes typeName member := by
  rw [target_eq_ok_iff]
  constructor
  · rintro ⟨⟨htype, hslash, hmember⟩, slashes, hpath⟩
    refine ⟨slashes, ?_, mt String.toList_eq_nil_iff.mpr htype, hslash,
      mt String.toList_eq_nil_iff.mpr hmember⟩
    rw [← String.toList_inj, hpath]
    simp
  · rintro ⟨slashes, h⟩
    refine ⟨⟨mt String.toList_eq_nil_iff.mp h.typeName_ne, h.slash_notMem,
      mt String.toList_eq_nil_iff.mp h.member_ne⟩, slashes, ?_⟩
    rw [h.toList_path, List.append_assoc]

/-- What a call is read as when its path names a member. The query is read apart from the path. -/
theorem ofAddress_of_memberPath {slashes : Nat} (h : MemberPath path slashes typeName member)
    (query : String) :
    ofAddress path query = .ok ⟨typeName, member, Query.receiver (Query.pairs query.toList),
      (Query.parameters (Query.pairs query.toList)).map fun p ↦ ⟨p.1, p.2⟩⟩ := by
  rw [ofAddress, target_eq_ok_iff_memberPath.mpr ⟨slashes, h⟩]
  simp only [String.ofList_toList]

theorem exists_memberPath_of_ofAddress {invocation : Invocation}
    (h : ofAddress path query = .ok invocation) :
    ∃ slashes, MemberPath path slashes invocation.targetType invocation.operation := by
  rw [ofAddress] at h
  split at h
  · cases h
  · next htarget =>
    cases h
    apply target_eq_ok_iff_memberPath.mp
    rwa [String.toList_ofList, String.toList_ofList]

theorem exists_ofAddress_eq_error_iff :
    (∃ e, ofAddress path query = .error e) ↔
      ¬∃ slashes typeName member, MemberPath path slashes typeName member := by
  constructor
  · rintro ⟨e, he⟩ ⟨slashes, typeName, member, h⟩
    rw [ofAddress_of_memberPath h] at he
    cases he
  · intro hnone
    rcases hread : ofAddress path query with e | invocation
    · exact ⟨e, rfl⟩
    · obtain ⟨slashes, h⟩ := exists_memberPath_of_ofAddress hread
      exact absurd ⟨slashes, _, _, h⟩ hnone

end Invocation

/-! ## The reader of fields -/

namespace Console

variable {console : Console} {registry : Registry} {path typeName member : String}
  {receiverText : Option String}

theorem fieldTarget?_eq_some_iff_memberPath :
    fieldTarget? path.toList = some (typeName.toList, member.toList) ↔
      ∃ slashes, MemberPath path slashes typeName member := by
  rw [fieldTarget?_eq_some_iff, Invocation.target_eq_ok_iff_memberPath]

theorem fieldTarget?_eq_none_iff :
    fieldTarget? path.toList = none ↔
      ¬∃ slashes typeName member, MemberPath path slashes typeName member := by
  constructor
  · rintro hnone ⟨slashes, typeName, member, h⟩
    rw [fieldTarget?_eq_some_iff_memberPath.mpr ⟨slashes, h⟩] at hnone
    cases hnone
  · intro hnone
    rcases hread : fieldTarget? path.toList with _ | ⟨typeChars, memberChars⟩
    · rfl
    · rw [← String.toList_ofList (l := typeChars), ← String.toList_ofList (l := memberChars),
        fieldTarget?_eq_some_iff_memberPath] at hread
      obtain ⟨slashes, h⟩ := hread
      exact absurd ⟨slashes, _, _, h⟩ hnone

theorem eq_unknownType_of_lookup {e : RouteError} (h : console.lookup typeName = .error e) :
    e = .unknownType typeName := by
  rw [lookup] at h
  cases hlookup : console.catalog.lookup? typeName <;> rw [hlookup] at h <;> cases h
  rfl

theorem exists_eq_coercion_of_receiver {isStatic : Bool} {e : RouteError}
    (h : receiver registry isStatic receiverText typeName = .error e) :
    ∃ reason, e = .coercion reason := by
  rw [receiver] at h
  split_ifs at h
  split at h <;> cases h
  exact ⟨_, rfl⟩

/-- A read of a field is malformed exactly if its path names no member; whatever else it fails at
comes later and is an error of another kind. -/
theorem malformed_fieldTask_iff :
    (∃ e, console.fieldTask registry path receiverText = .error (.malformed e)) ↔
      ¬∃ slashes typeName member, MemberPath path slashes typeName member := by
  rw [← fieldTarget?_eq_none_iff]
  constructor
  · rintro ⟨e, he⟩
    rw [fieldTask] at he
    split at he
    · assumption
    · split at he
      · next hlookup => cases he; cases eq_unknownType_of_lookup hlookup
      · split at he
        · cases he
        · split at he
          · next hreceiver =>
            cases he
            obtain ⟨reason, hreason⟩ := exists_eq_coercion_of_receiver hreceiver
            cases hreason
          · cases he
  · intro hnone
    exact ⟨⟨path, .noField⟩, by rw [fieldTask, hnone]⟩

/-- **Calls and fields read paths alike.** Whatever the query and the receiver, and whatever the
console and the registry hold:

* a path that is malformed for one of the two readers is malformed for the other;
* the names that a call is read with are those that the reader of fields finds;
* both accept exactly the paths that name a member, and find its names;
* no path names a member in two ways. -/
theorem paths_read_alike (path : String) :
    (∀ (console : Console) registry receiverText query,
      (∃ e, Invocation.ofAddress path query = .error e) ↔
        ∃ e, console.fieldTask registry path receiverText = .error (.malformed e)) ∧
    (∀ query invocation, Invocation.ofAddress path query = .ok invocation →
      fieldTarget? path.toList =
        some (invocation.targetType.toList, invocation.operation.toList)) ∧
    (∀ typeName member,
      (∀ query, (∃ invocation, Invocation.ofAddress path query = .ok invocation ∧
          invocation.targetType = typeName ∧ invocation.operation = member) ↔
        ∃ slashes, MemberPath path slashes typeName member) ∧
      (fieldTarget? path.toList = some (typeName.toList, member.toList) ↔
        ∃ slashes, MemberPath path slashes typeName member)) ∧
    ∀ slashes slashes' typeName typeName' member member',
      MemberPath path slashes typeName member → MemberPath path slashes' typeName' member' →
        slashes = slashes' ∧ typeName = typeName' ∧ member = member' := by
  refine ⟨?_, ?_, fun typeName member ↦ ⟨fun query ↦ ⟨?_, ?_⟩, ?_⟩, ?_⟩
  · intro console registry receiverText query
    rw [Invocation.exists_ofAddress_eq_error_iff, malformed_fieldTask_iff]
  · intro query invocation h
    exact fieldTarget?_eq_some_iff_memberPath.mpr (Invocation.exists_memberPath_of_ofAddress h)
  · rintro ⟨invocation, h, rfl, rfl⟩
    exact Invocation.exists_memberPath_of_ofAddress h
  · rintro ⟨slashes, h⟩
    exact ⟨_, Invocation.ofAddress_of_memberPath h query, rfl, rfl⟩
  · exact fieldTarget?_eq_some_iff_memberPath
  · intro slashes slashes' typeName typeName' member member' h h'
    exact h.unique h'

/-- Slashes in front belong to neither name, and those behind the first between them to the
member's. -/
theorem paths_read_alike_slashes :
    Invocation.ofAddress "//Array//get/" "int=0" =
        .ok ⟨"Array", "/get/", none, [⟨"int", some "0"⟩]⟩ ∧
      fieldTarget? "//Array//get/".toList = some ("Array".toList, "/get/".toList) ∧
      MemberPath "//Array//get/" 2 "Array" "/get/" ∧
      ∀ slashes typeName member, MemberPath "//Array//get/" slashes typeName member →
        2 = slashes ∧ "Array" = typeName ∧ "/get/" = member := by
  have hread : Invocation.ofAddress "//Array//get/" "int=0" =
      .ok ⟨"Array", "/get/", none, [⟨"int", some "0"⟩]⟩ := by decide +kernel
  have hpath : MemberPath "//Array//get/" 2 "Array" "/get/" :=
    ⟨by decide, by decide, by decide, by decide⟩
  obtain ⟨-, hsame, -, hunique⟩ := paths_read_alike "//Array//get/"
  refine ⟨hread, hsame _ _ hread, hpath, ?_⟩
  intro slashes typeName member h
  exact hunique _ _ _ _ _ _ hpath h

end Console

end ObjectConsole
