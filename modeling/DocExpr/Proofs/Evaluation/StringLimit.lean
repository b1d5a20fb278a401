import DocExpr.Proofs.Evaluation.Levels
import DocExpr.Proofs.Library.StringLimit

/-! Calls of the library's functions by an evaluator, against its limit on the length of strings. A
call returns no longer string, where what it is given and what its callbacks return hold no longer
ones, unless it is one of those that put a text together unchecked. -/
namespace DocExpr
open EvalM (Always Ensures Returns)
open Value (StringsWithin TextWithin)

/-- A call of a function of the library. -/
inductive BuiltinCall where
  | method (receiver : Value) (name : String) (args : List Value)
  | namespaceCall (space name : String) (args : List Value)
  | plain (name : String) (args : List Value)

namespace BuiltinCall

/-- Makes the call. -/
def perform (root : Value) : BuiltinCall → EvalM Value
  | .method receiver name args => EvalM.callMethod root receiver name args
  | .namespaceCall space name args => EvalM.callNamespace space name args
  | .plain name args => EvalM.callGlobal root name args

/-- What the call is given. -/
def given : BuiltinCall → List Value
  | .method receiver _ args => receiver :: args
  | .namespaceCall _ _ args | .plain _ args => args

/-- The call puts a text together without a look at the limit. -/
def isUnchecked (limit : Nat) : BuiltinCall → Bool
  | .method receiver name _ => Library.isUncheckedMethod limit receiver name
  | .namespaceCall space name _ =>
    ((Library.spaceCatalog space).find? name).any (·.1.isUnchecked)
  | .plain name args => (Library.GlobalFunction.catalog.find? name).any (·.1.isUnchecked args)

/-- What the call may have run by the evaluator: a function that an argument stands for, called
with what holds short strings, and the text that is evaluated. -/
inductive Callback (ev : Evaluator) (root : Value) : BuiltinCall → EvalM Value → Prop where
  | function {receiver : Value} {name : String} {args xs : List Value} {i : Nat}
      {params : List String} {before : Evaluator} {f : Lambda Value}
      (expected : Library.callback? receiver name i = some params)
      (advances : ev.Advances before)
      (made : ((EvalM.callable (Library.arg args i) params).runOn before).1 = .ok f)
      (short : ∀ x ∈ xs, x.StringsWithin ev.options.maxStringLength) :
      Callback ev root (.method receiver name args) (ev.eval.call f xs root)
  | text {name s : String} {arity : Arity} {args : List Value}
      (named : Library.GlobalFunction.catalog.find? name = some (.evaluate, arity))
      (isText : Library.arg args 0 = .string s) :
      Callback ev root (.plain name args) (ev.eval.text s (args.getD 1 root))

end BuiltinCall

section
variable {ev : Evaluator} {root : Value}

theorem callMethod_returns {receiver : Value} {name : String} {args : List Value}
    (checked : Library.isUncheckedMethod ev.options.maxStringLength receiver name = false)
    (own : receiver.StringsWithin ev.options.maxStringLength)
    (given : ∀ v ∈ args, v.StringsWithin ev.options.maxStringLength)
    (callbacks : ∀ act, (BuiltinCall.method receiver name args).Callback ev root act →
      act.Returns ev.Advances (StringsWithin ev.options.maxStringLength)) :
    (Library.callMethod (ev.eval.host ev.options.maxStringLength) root receiver name args).Returns
      ev.Advances (TextWithin ev.options.maxStringLength) := by
  have keeps := EvalM.framed_congruence
  have evals := (Evaluator.Widened.refl ev).eval_related keeps
  refine Library.callMethod_within checked own given fun i params expected => ?_
  refine EvalM.Framed.ensures (EvalM.callable_related keeps _ params)
    fun before advances f made xs short => ?_
  exact EvalM.Framed.ensures (Eval.call_related keeps evals f xs root)
    (callbacks _ (.function expected advances made short))

theorem callGlobal_returns {name : String} {args : List Value}
    (checked :
      (Library.GlobalFunction.catalog.find? name).any (·.1.isUnchecked args) = false)
    (given : ∀ v ∈ args, v.StringsWithin ev.options.maxStringLength)
    (callbacks : ∀ act, (BuiltinCall.plain name args).Callback ev root act →
      act.Returns ev.Advances (StringsWithin ev.options.maxStringLength)) :
    (Library.callGlobal (ev.eval.host ev.options.maxStringLength) root name args).Returns
      ev.Advances (TextWithin ev.options.maxStringLength) := by
  have inherited := Value.stringsWithin_inherited ev.options.maxStringLength
  have first := Library.arg_within given 0
  refine Library.callGlobal_within checked given (fun arity named s isText => ?_) fun path => ?_
  · exact (callbacks _ (.text named isText)).mono fun v within => within.text
  · refine Always.returns ((Eval.resolvePath_inherited inherited ev.eval first path).mono ?_)
    rintro v (within | ⟨ws, rfl, -⟩)
    · exact within.text
    · trivial

end

/-- No checked call of an evaluator outgrows its limit on the length of strings: where what the call
is given and what its callbacks return hold no longer strings, its result is no longer string. -/
theorem results_within_limit (ev : Evaluator) (root : Value) (call : BuiltinCall)
    (checked : call.isUnchecked ev.options.maxStringLength = false)
    (given : ∀ v ∈ call.given, v.StringsWithin ev.options.maxStringLength)
    (callbacks : ∀ act, call.Callback ev root act →
      act.Returns ev.Advances (StringsWithin ev.options.maxStringLength))
    (s : String) (result : ((call.perform root).runOn ev).1 = .ok (.string s)) :
    s.utf8ByteSize ≤ ev.options.maxStringLength := by
  have here : ∀ ev', ev' = ev → ev.Advances ev' := by
    rintro _ rfl
    exact .refl _
  have returns : (call.perform root).Returns (· = ev) (TextWithin ev.options.maxStringLength) := by
    cases call with
    | method receiver name args =>
      obtain ⟨own, given⟩ := List.forall_mem_cons.mp given
      refine .get fun ev' same => ?_
      exact callMethod_returns checked own given callbacks ev' (here ev' same)
    | namespaceCall space name args =>
      exact .get (.lift (Library.callNamespace_within checked _ given))
    | plain name args =>
      refine .get fun ev' same => ?_
      exact callGlobal_returns checked given callbacks ev' (here ev' same)
  exact returns ev rfl _ result

/-- An evaluator that allows strings of three bytes. -/
def narrow : Evaluator := { options := { maxStringLength := 3 } }

/-- A method of an array with two strings. -/
def onStrings (name : String) (args : List Value) : BuiltinCall :=
  .method (.array [.string "ab", .string "cd"]) name args

/-- A reduction by a function that returns a string, `() => 'abc'`. -/
def reduction : BuiltinCall := onStrings "reduce" [.lambda ⟨⟨0, 0⟩, [], .string "abc", []⟩]

theorem onStrings_given (name : String) {args : List Value}
    (short : ∀ v ∈ args, v.StringsWithin 3) :
    ∀ v ∈ (onStrings name args).given, v.StringsWithin 3 := by
  refine List.forall_mem_cons.mpr ⟨Value.stringsWithin_array ?_, short⟩
  refine List.forall_mem_cons.mpr ⟨Value.stringsWithin_string (by decide), ?_⟩
  exact List.forall_mem_singleton.mpr (Value.stringsWithin_string (by decide))

theorem reduction_callbacks (act : EvalM Value)
    (callback : reduction.Callback narrow .null act) :
    act.Returns narrow.Advances (StringsWithin 3) := by
  unfold reduction onStrings at callback
  cases callback with
  | @function _ _ _ xs i params before f expected advances made short =>
    cases i with
    | zero =>
      cases made
      refine .last fun _ => Always.withContext (.last fun _ => Always.deeper ?_) _
      exact .pure (Value.stringsWithin_string (by decide))
    | succ i => cases expected

/-- What a callback returns is text of three bytes, as many as the limit allows. -/
theorem reduced_within_limit :
    reduction.isUnchecked narrow.options.maxStringLength = false ∧
      (∀ v ∈ reduction.given, v.StringsWithin narrow.options.maxStringLength) ∧
      (∀ act, reduction.Callback narrow .null act →
        act.Returns narrow.Advances (StringsWithin narrow.options.maxStringLength)) ∧
      ((reduction.perform .null).runOn narrow).1 = .ok (.string "abc") ∧
      "abc".utf8ByteSize ≤ narrow.options.maxStringLength := by
  have checked : reduction.isUnchecked narrow.options.maxStringLength = false := by rfl
  have given : ∀ v ∈ reduction.given, v.StringsWithin narrow.options.maxStringLength :=
    onStrings_given _ (List.forall_mem_singleton.mpr (Value.stringsWithin_leaf trivial rfl))
  have result : ((reduction.perform .null).runOn narrow).1 = .ok (.string "abc") := by rfl
  exact ⟨checked, given, reduction_callbacks, result,
    results_within_limit narrow .null reduction checked given reduction_callbacks "abc" result⟩

/-- Where strings are joined the limit is not looked at: `['ab', 'cd'].join('')` has four bytes. -/
theorem joined_outgrows_limit :
    ¬ ∀ (ev : Evaluator) (root : Value) (call : BuiltinCall),
      (∀ v ∈ call.given, v.StringsWithin ev.options.maxStringLength) →
      (∀ act, call.Callback ev root act →
        act.Returns ev.Advances (StringsWithin ev.options.maxStringLength)) →
      ∀ s, ((call.perform root).runOn ev).1 = .ok (.string s) →
        s.utf8ByteSize ≤ ev.options.maxStringLength := by
  intro within
  have given := onStrings_given "join" (List.forall_mem_singleton.mpr
    (Value.stringsWithin_string (s := "") (by decide)))
  have noCallback : ∀ act, (onStrings "join" [.string ""]).Callback narrow .null act →
      act.Returns narrow.Advances (StringsWithin 3) := by
    intro act callback
    unfold onStrings at callback
    cases callback with
    | function expected => cases expected
  have bounded := within narrow .null (onStrings "join" [.string ""]) given noCallback "abcd" rfl
  exact absurd bounded (by decide)

end DocExpr
