import ObjectConsole.Proofs.Console.CallLink

/-!
# Calls as they are sent

A client that makes a call writes its parts as components: the path has the type and the operation,
and the query has the verb and a token for each parameter. The receiver is a token too and may stand
anywhere among the others. All texts are arbitrary, so they may look like separators, escapes or the
receiver's key, and the parameters may repeat.

Once the receiver has its place, a call is a list of tokens, and reading them gives back all but the
empty token (`Query.pairs_pieces`). What is then the receiver and what a parameter is decided by the
key alone, wherever the receiver's token stood (`Query.parameters_sent`, `Query.receiver_sent`).
-/

namespace ObjectConsole

open Text

namespace Parameter

/-- A parameter as it is written, behind the separator. -/
def token (parameter : Parameter) : String :=
  "&" ++ Percent.encode parameter.type ++
    match parameter.text with
    | none => ""
    | some text => "=" ++ Percent.encode text

theorem toList_token (parameter : Parameter) : parameter.token.toList = '&' :: parameter.piece := by
  rw [token, piece]
  cases parameter.text <;> simp

end Parameter

namespace Invocation

/-- A call whose parts survive being written. -/
structure Writable (invocation : Invocation) : Prop where
  targetType_ne : invocation.targetType ≠ ""
  slash_notMem : '/' ∉ invocation.targetType.toList
  operation_ne : invocation.operation ≠ ""
  parameters_ne : ∀ parameter ∈ invocation.parameters,
    parameter.type ≠ Query.receiverKey ∧ (parameter.type = "" → parameter.text ≠ none)

/-- The query of a call, with the receiver between two stretches of the parameters. -/
def query (front : List Parameter) (receiver : Option String) (behind : List Parameter) : String :=
  "call" ++ String.join (front.map Parameter.token) ++
    (match receiver with
    | none => ""
    | some text => "&this=" ++ Percent.encode text) ++
    String.join (behind.map Parameter.token)

/-- All that stands in the query of a call. The receiver is written like a parameter. -/
def sent (front : List Parameter) (receiver : Option String) (behind : List Parameter) :
    List Parameter :=
  front ++ receiver.toList.map (fun text ↦ ⟨Query.receiverKey, some text⟩) ++ behind

theorem query_eq (front : List Parameter) (receiver : Option String) (behind : List Parameter) :
    query front receiver behind = String.ofList ("call".toList ++
      ((sent front receiver behind).map Parameter.piece).flatMap fun piece ↦ '&' :: piece) := by
  have hkey : Percent.encodeChars Query.receiverKey.toList = "this".toList := by decide
  have hreceiver (text : String) : ("&this=" ++ Percent.encode text).toList =
      '&' :: Parameter.piece ⟨Query.receiverKey, some text⟩ := by
    simp [Parameter.piece, hkey]
  have hjoin (parameters : List Parameter) : (String.join (parameters.map Parameter.token)).toList =
      (parameters.map Parameter.piece).flatMap fun piece ↦ '&' :: piece := by
    simp [List.flatMap_map, Parameter.toList_token]
  unfold query sent
  rw [← String.toList_inj, String.toList_ofList, String.toList_append, String.toList_append,
    String.toList_append, hjoin, hjoin]
  cases receiver with
  | none => simp [List.flatMap_append]
  | some text => rw [hreceiver]; simp [List.flatMap_append]

end Invocation

/-! ## Reading the tokens -/

namespace Query

variable (front : List Parameter) (receiver : Option String) (behind : List Parameter)

/-- What is read as parameters are the parameters that can be, wherever the receiver stands. -/
theorem parameters_sent :
    parameters (pairs (((Invocation.sent front receiver behind).map Parameter.piece).flatMap
        fun piece ↦ '&' :: piece)) =
      ((front ++ behind).filter fun parameter ↦ parameter.type ≠ receiverKey ∧
        (parameter.type = "" → parameter.text ≠ none)).map
        fun parameter ↦ (parameter.type, parameter.text) := by
  have hreceiver : (receiver.toList.map fun text ↦ (⟨receiverKey, some text⟩ : Parameter)).filter
      (fun parameter ↦ decide (parameter.type ≠ receiverKey ∧
        (parameter.type = "" → parameter.text ≠ none))) = [] := by
    cases receiver <;> simp
  rw [pairs_pieces, parameters, List.filter_map, List.filter_filter, Invocation.sent]
  simp only [Function.comp_def, ← Bool.decide_and]
  rw [List.filter_append, List.filter_append, hreceiver, List.append_nil, ← List.filter_append]

theorem receiver_sent (h : ∀ parameter ∈ front ++ behind, parameter.type ≠ receiverKey) :
    Query.receiver (pairs (((Invocation.sent front receiver behind).map Parameter.piece).flatMap
      fun piece ↦ '&' :: piece)) = receiver := by
  -- of all that was sent, only the receiver has the receiver's key
  have hothers {parameters : List Parameter} (hsub : ∀ p ∈ parameters, p.type ≠ receiverKey) :
      parameters.filter (fun p ↦ decide (p.type = receiverKey ∧ (p.type = "" → p.text ≠ none))) =
        [] :=
    List.filter_eq_nil_iff.mpr fun p hp ↦ by simp [hsub p hp]
  obtain ⟨hfront, hbehind⟩ := List.forall_mem_append.mp h
  rw [pairs_pieces, Query.receiver, List.filter_map, List.filter_filter, Invocation.sent]
  simp only [Function.comp_def, ← Bool.decide_and]
  rw [List.filter_append, List.filter_append, hothers hfront, hothers hbehind, List.append_nil,
    List.nil_append]
  cases receiver with
  | none => rfl
  | some text => simp

end Query

/-! ## Reading a call -/

namespace Invocation

/-- Reading what was sent gives it back exactly when its parts survive the writing. -/
theorem ofAddress_sent_iff (typeName operation : String) (front : List Parameter)
    (receiver : Option String) (behind : List Parameter) :
    ofAddress (String.ofList ('/' :: typeName.toList ++ '/' :: operation.toList))
        (String.ofList (((sent front receiver behind).map Parameter.piece).flatMap
          fun piece ↦ '&' :: piece)) =
        .ok ⟨typeName, operation, receiver, front ++ behind⟩ ↔
      Writable ⟨typeName, operation, receiver, front ++ behind⟩ := by
  rw [ofAddress_ofMember_eq_ok_iff, Query.parameters_sent, List.map_map]
  constructor
  · rintro ⟨⟨hne, hslash, hname⟩, -, hparameters⟩
    -- reading leaves some parameters out, and equal lengths say that it left out none
    have hlength := congrArg List.length hparameters
    rw [List.length_map, List.length_filter_eq_length_iff] at hlength
    exact ⟨hne, hslash, hname, fun parameter hmem ↦ of_decide_eq_true (hlength parameter hmem)⟩
  · intro h
    refine ⟨⟨h.targetType_ne, h.slash_notMem, h.operation_ne⟩, ?_, ?_⟩
    · exact Query.receiver_sent front receiver behind fun parameter hmem ↦
        (h.parameters_ne parameter hmem).1
    · rw [List.filter_eq_self.mpr fun parameter hmem ↦
        decide_eq_true (h.parameters_ne parameter hmem)]
      exact List.map_id _

/-- **A call that is sent is the call that arrives.** Wherever the receiver is put among the
parameters, what is written is routed as a call. It is read as the same type, operation and receiver
and as the same parameters in the same order exactly when its parts survive the writing. -/
theorem ofAddress_sent (typeName operation : String) (receiver : Option String)
    (front behind : List Parameter) :
    ∃ callPath callQuery,
      Route.ofAddress ("/" ++ Percent.encode typeName ++ "/" ++ Percent.encode operation)
        (some (query front receiver behind)) = .call callPath callQuery ∧
      (ofAddress callPath callQuery = .ok ⟨typeName, operation, receiver, front ++ behind⟩ ↔
        Writable ⟨typeName, operation, receiver, front ++ behind⟩) := by
  refine ⟨_, _, ?_, ofAddress_sent_iff typeName operation front receiver behind⟩
  rw [query_eq]
  exact Route.ofAddress_call typeName operation _

/-- A receiver between a repeated key, all of them with characters that separate. -/
example :
    Invocation.query [⟨"&", none⟩] (some "[a=b]") [⟨"&", some "?"⟩, ⟨"", some ""⟩] =
      "call&%26&this=[a%3Db]&%26=%3F&=" := by
  decide +kernel

end Invocation

end ObjectConsole
