import ObjectConsole.Proofs.Console.MemberPath

/-!
# Queries in a row

A query is read from the left, and nothing in it is ever malformed. What has been read so far are
the parameters in order and the receiver, which every further token with the receiver's key
replaces, also by none (`Query.receiver_append_singleton`). Hence a second query behind the first
puts its parameters behind those that are there, and it replaces the receiver exactly if it says
anything about one (`Query.receiver_append`).

What a token says is a grammar (`Query.Spells`): the key ends at the first `=`, and key and text are
decoded apart, so that a key may be spelled with escapes, and these may be malformed. The empty
token says nothing. For this reason separators may be repeated at any place that is inside no token
(`Query.Padded`).
-/

namespace ObjectConsole

open Text

namespace Query

/-! ## Tokens -/

/-- A token spells a key and perhaps a text. -/
inductive Spells : List Char → String → Option String → Prop
  | key {key : List Char} (h : '=' ∉ key) :
      Spells key (String.ofList (Percent.decodeChars key)) none
  | text {key : List Char} (h : '=' ∉ key) (text : List Char) :
      Spells (key ++ '=' :: text) (String.ofList (Percent.decodeChars key))
        (some (String.ofList (Percent.decodeChars text)))

/-- A token spells the key of the receiver. -/
def ForReceiver (token : List Char) : Prop :=
  ∃ text, Spells token receiverKey text

/-- A query says something about the receiver. -/
def NamesReceiver (query : List Char) : Prop :=
  ∃ token ∈ query.splitOn '&', ForReceiver token

/-- The last token of a query that says something about the receiver. -/
def LastForReceiver (query token : List Char) : Prop :=
  ∃ front behind, query.splitOn '&' = front ++ token :: behind ∧ ForReceiver token ∧
    ∀ other ∈ behind, ¬ForReceiver other

variable {query token : List Char} {key : String} {text : Option String}

theorem pair_eq_iff : pair token = (key, text) ↔ Spells token key text := by
  constructor
  · intro h
    rw [pair] at h
    split at h
    · next hcut =>
      obtain ⟨rfl, hkey⟩ := cut?_eq_some_iff.mp hcut
      cases h
      exact .text hkey _
    · next hcut =>
      cases h
      exact .key (cut?_eq_none_iff.mp hcut)
  · rintro (hkey | ⟨hkey, _⟩)
    · rw [pair, cut?_eq_none_iff.mpr hkey]
    · rw [pair, cut?_eq_some_iff.mpr ⟨rfl, hkey⟩]

theorem fst_pair_eq_receiverKey_iff : (pair token).1 = receiverKey ↔ ForReceiver token := by
  constructor
  · intro h
    exact ⟨_, pair_eq_iff.mp (Prod.ext h rfl)⟩
  · rintro ⟨text, h⟩
    rw [pair_eq_iff.mpr h]

theorem Spells.text_eq_none_iff (h : Spells token key text) : text = none ↔ '=' ∉ token := by
  rcases h with hkey | ⟨hkey, _⟩
  · exact iff_of_true rfl hkey
  · exact iff_of_false nofun (not_not_intro (by simp))

theorem ForReceiver.ne_nil (h : ForReceiver token) : token ≠ [] := by
  rintro rfl
  exact absurd (fst_pair_eq_receiverKey_iff.mpr h) (by decide)

theorem exists_lastForReceiver (h : NamesReceiver query) :
    ∃ token, LastForReceiver query token := by
  unfold NamesReceiver LastForReceiver at *
  generalize query.splitOn '&' = tokens at h ⊢
  induction tokens using List.reverseRecOn with
  | nil => simp at h
  | append_singleton tokens last ih =>
    by_cases hlast : ForReceiver last
    · exact ⟨last, tokens, [], rfl, hlast, nofun⟩
    · obtain ⟨other, hother, hfor⟩ := h
      rcases List.mem_append.mp hother with hmem | hmem
      · obtain ⟨token, front, behind, rfl, htoken, hbehind⟩ := ih ⟨other, hmem, hfor⟩
        refine ⟨token, front, behind ++ [last], by simp, htoken, ?_⟩
        exact List.forall_mem_append.mpr ⟨hbehind, List.forall_mem_singleton.mpr hlast⟩
      · rw [List.mem_singleton.mp hmem] at hfor
        exact absurd hfor hlast

/-! ## The receiver -/

theorem receiver_append_singleton (read : List (String × Option String))
    (next : String × Option String) :
    receiver (read ++ [next]) = if next.1 = receiverKey then next.2 else receiver read := by
  rw [receiver, List.filter_append, List.filter_singleton]
  by_cases h : next.1 = receiverKey <;> simp [h, receiver]

theorem receiver_append (front behind : List (String × Option String)) :
    receiver (front ++ behind) =
      if ∃ p ∈ behind, p.1 = receiverKey then receiver behind else receiver front := by
  induction behind using List.reverseRecOn with
  | nil => simp
  | append_singleton behind last ih =>
    rw [← List.append_assoc, receiver_append_singleton, receiver_append_singleton, ih]
    by_cases h : last.1 = receiverKey
    · rw [if_pos h, if_pos h, if_pos ⟨last, by simp, h⟩]
    · have hsame : (∃ p ∈ behind ++ [last], p.1 = receiverKey) ↔
          ∃ p ∈ behind, p.1 = receiverKey := by
        simp [or_and_right, exists_or, h]
      simp only [if_neg h, hsame]

/-- The tokens that are left out, which are empty, do not say anything about the receiver. -/
theorem exists_mem_map_pair_iff (tokens : List (List Char)) :
    (∃ p ∈ (tokens.filter fun token ↦ token ≠ []).map pair, p.1 = receiverKey) ↔
      ∃ token ∈ tokens, ForReceiver token := by
  constructor
  · rintro ⟨p, hp, hkey⟩
    obtain ⟨token, htoken, rfl⟩ := List.mem_map.mp hp
    exact ⟨token, List.mem_of_mem_filter htoken, fst_pair_eq_receiverKey_iff.mp hkey⟩
  · rintro ⟨token, htoken, h⟩
    refine ⟨pair token, List.mem_map_of_mem (List.mem_filter.mpr ⟨htoken, ?_⟩), ?_⟩
    · exact decide_eq_true h.ne_nil
    · exact fst_pair_eq_receiverKey_iff.mpr h

/-- The receiver is what the last token for it spells. -/
theorem LastForReceiver.spells (h : LastForReceiver query token) :
    Spells token receiverKey (receiver (pairs query)) := by
  obtain ⟨front, behind, hquery, hfor, hlast⟩ := h
  have hpairs : pairs query = (front.filter fun token ↦ token ≠ []).map pair ++ [pair token] ++
      (behind.filter fun token ↦ token ≠ []).map pair := by
    rw [pairs, hquery, List.filter_append, List.filter_cons_of_pos (by simpa using hfor.ne_nil),
      List.map_append, List.map_cons, List.append_assoc, List.singleton_append]
  have hnone : ¬∃ p ∈ (behind.filter fun token ↦ token ≠ []).map pair, p.1 = receiverKey := by
    rw [exists_mem_map_pair_iff]
    rintro ⟨other, hother, hforOther⟩
    exact hlast other hother hforOther
  have hkey : (pair token).1 = receiverKey := fst_pair_eq_receiverKey_iff.mpr hfor
  rw [hpairs, receiver_append, if_neg hnone, receiver_append_singleton, if_pos hkey, ← pair_eq_iff,
    ← hkey]

/-- A second query replaces the receiver of the first if it says something about one. -/
theorem receiver_pairs_append (front behind : List Char) :
    (NamesReceiver behind →
      receiver (pairs (front ++ '&' :: behind)) = receiver (pairs behind)) ∧
    (¬NamesReceiver behind →
      receiver (pairs (front ++ '&' :: behind)) = receiver (pairs front)) := by
  have hnames : (∃ p ∈ pairs behind, p.1 = receiverKey) ↔ NamesReceiver behind :=
    exists_mem_map_pair_iff _
  rw [pairs_append, receiver_append]
  constructor
  · intro h
    rw [if_pos (hnames.mpr h)]
  · intro h
    rw [if_neg (mt hnames.mp h)]

/-! ## Separators -/

/-- A place in a query that is inside no token. -/
def Border (front behind : List Char) : Prop :=
  (∀ c ∈ front.getLast?, c = '&') ∨ ∀ c ∈ behind.head?, c = '&'

/-- A query with further separators, at any number of places that are inside no token. -/
inductive Padded (query : List Char) : List Char → Prop
  | refl : Padded query query
  | insert {front behind : List Char} (h : Padded query (front ++ behind))
      (hborder : Border front behind) : Padded query (front ++ '&' :: behind)

theorem pairs_cons_separator (behind : List Char) : pairs ('&' :: behind) = pairs behind :=
  pairs_append [] behind

theorem pairs_append_separator (front : List Char) : pairs (front ++ ['&']) = pairs front :=
  (pairs_append front []).trans (List.append_nil _)

/-- One more separator beside another, or at an end, changes nothing. -/
theorem pairs_insert {front behind : List Char} (h : Border front behind) :
    pairs (front ++ '&' :: behind) = pairs (front ++ behind) := by
  rcases h with hfront | hbehind
  · rcases List.eq_nil_or_concat front with rfl | ⟨front, c, rfl⟩
    · exact pairs_cons_separator behind
    · obtain rfl : c = '&' := hfront c (by simp)
      rw [pairs_append, List.concat_eq_append, pairs_append_separator, List.append_assoc,
        List.singleton_append, pairs_append]
  · rcases behind with _ | ⟨c, behind⟩
    · rw [pairs_append_separator, List.append_nil]
    · obtain rfl : c = '&' := hbehind c rfl
      rw [pairs_append, pairs_cons_separator, pairs_append]

theorem Padded.pairs_eq {padded : List Char} (h : Padded query padded) :
    pairs padded = pairs query := by
  induction h with
  | refl => rfl
  | insert _ hborder ih => rw [pairs_insert hborder, ih]

end Query

/-! ## Reading a call -/

namespace Invocation

variable {path query query' : String}

theorem ofAddress_congr (h : Query.pairs query.toList = Query.pairs query'.toList) :
    ofAddress path query = ofAddress path query' := by
  rw [ofAddress, ofAddress, h]

theorem ofAddress_eq_error_iff {e : MalformedPath} :
    ofAddress path query = .error e ↔
      ∃ reason, target path.toList = .error reason ∧ e = ⟨path, reason⟩ := by
  rw [ofAddress]
  rcases target path.toList with reason | names
  · simp [eq_comm]
  · simp

/-- **Queries in a row are read in a row.**

* Whether a call is refused, and with which error, does not depend on its query.
* Further separators between the tokens of a query, or at its ends, change nothing.
* When a path names a member, a query with another behind it is read as a call of that member, with
  the parameters of both in order. The receiver is that of the first query unless a token of the
  second has the receiver's key. Then it is that of the second, and what the last such token spells:
  none exactly if this token has no `=`. -/
theorem queries_read_in_a_row (path : String) :
    (∀ query query' e, ofAddress path query = .error e ↔ ofAddress path query' = .error e) ∧
    (∀ query padded : String, Query.Padded query.toList padded.toList →
      ofAddress path padded = ofAddress path query) ∧
    ∀ slashes typeName member, MemberPath path slashes typeName member →
      ∀ front behind : String, ∃ ofFront ofBehind both,
        ofAddress path front = .ok ofFront ∧ ofAddress path behind = .ok ofBehind ∧
        ofAddress path (front ++ "&" ++ behind) = .ok both ∧
        both.targetType = typeName ∧ both.operation = member ∧
        both.parameters = ofFront.parameters ++ ofBehind.parameters ∧
        (¬Query.NamesReceiver behind.toList → both.receiver = ofFront.receiver) ∧
        (Query.NamesReceiver behind.toList → both.receiver = ofBehind.receiver ∧
          ∃ token, Query.LastForReceiver behind.toList token ∧
            Query.Spells token Query.receiverKey both.receiver ∧
            (both.receiver = none ↔ '=' ∉ token)) := by
  refine ⟨?_, ?_, ?_⟩
  · intro query query' e
    rw [ofAddress_eq_error_iff, ofAddress_eq_error_iff]
  · intro query padded h
    exact ofAddress_congr h.pairs_eq
  · intro slashes typeName member hpath front behind
    have hquery : (front ++ "&" ++ behind).toList = front.toList ++ '&' :: behind.toList := by
      simp
    obtain ⟨hnamed, hunnamed⟩ := Query.receiver_pairs_append front.toList behind.toList
    refine ⟨_, _, _, ofAddress_of_memberPath hpath front, ofAddress_of_memberPath hpath behind,
      ofAddress_of_memberPath hpath _, rfl, rfl, ?_, ?_, ?_⟩
    · rw [hquery, Query.pairs_append, Query.parameters, List.filter_append, List.map_append]
      rfl
    · rw [hquery]
      exact hunnamed
    · rw [hquery]
      intro h
      obtain ⟨token, hlast⟩ := Query.exists_lastForReceiver h
      refine ⟨hnamed h, token, hlast, ?_⟩
      rw [hnamed h]
      exact ⟨hlast.spells, hlast.spells.text_eq_none_iff⟩

/-- The receiver of a query is taken back by a second one, in which its key is spelled with an
escape and stands behind an empty token; an escape that is malformed stays as it is. -/
theorem queries_read_in_a_row_taken_back :
    ∃ both, ofAddress "/Foo/bar" ("this=$x&int=%ZZ" ++ "&" ++ "&th%69s&int") = .ok both ∧
      both.receiver = none ∧ both.parameters = [⟨"int", some "%ZZ"⟩, ⟨"int", none⟩] ∧
      ofAddress "/Foo/bar" "this=$x&&int=%ZZ" = ofAddress "/Foo/bar" "this=$x&int=%ZZ" := by
  have hpath : MemberPath "/Foo/bar" 1 "Foo" "bar" :=
    ⟨by decide, by decide, by decide, by decide⟩
  have hnames : Query.NamesReceiver "&th%69s&int".toList :=
    ⟨"th%69s".toList, by decide, Query.fst_pair_eq_receiverKey_iff.mp (by decide +kernel)⟩
  have hborder : Query.Border "this=$x&".toList "int=%ZZ".toList := by
    left
    rintro _ ⟨⟩
    rfl
  have hpadded : Query.Padded "this=$x&int=%ZZ".toList "this=$x&&int=%ZZ".toList :=
    @Query.Padded.insert _ "this=$x&".toList "int=%ZZ".toList .refl hborder
  have hfront : ofAddress "/Foo/bar" "this=$x&int=%ZZ" =
      .ok ⟨"Foo", "bar", some "$x", [⟨"int", some "%ZZ"⟩]⟩ := by decide +kernel
  have hbehind : ofAddress "/Foo/bar" "&th%69s&int" =
      .ok ⟨"Foo", "bar", none, [⟨"int", none⟩]⟩ := by decide +kernel
  obtain ⟨-, hsame, hrow⟩ := queries_read_in_a_row "/Foo/bar"
  obtain ⟨ofFront, ofBehind, both, hofFront, hofBehind, hboth, -, -, hparameters, -, hreceiver⟩ :=
    hrow _ _ _ hpath "this=$x&int=%ZZ" "&th%69s&int"
  cases hfront.symm.trans hofFront
  cases hbehind.symm.trans hofBehind
  exact ⟨both, hboth, (hreceiver hnames).1, hparameters, hsame _ _ hpadded⟩

end Invocation

end ObjectConsole
