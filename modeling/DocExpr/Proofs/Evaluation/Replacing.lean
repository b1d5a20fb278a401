import DocExpr.Proofs.Evaluation.Agreement
import DocExpr.Proofs.Evaluation.Literals
import DocExpr.Proofs.Evaluation.Scoping
import DocExpr.Proofs.Library.Replacing
import DocExpr.Proofs.Limits.Widening

/-! Replacing by a function. A function that returns the same text whatever it is called with
replaces as the text itself does, and one that returns what was matched leaves the string as it
was. Calling a function takes steps and a level of the evaluation, which the text does not. A text
that is too long for a regex can only be replaced by text. -/
namespace DocExpr
open EvalM (Yields Limited)
open Library (Replaceable Unreferring chosenMatches groupValue replaceByCalls replaceWithFunction
  replacedRegex)

/-- The function `() => r`. -/
def constantFunction (birth : Birth) (captured : List (String × Value)) (r : String) :
    Lambda Value := ⟨birth, [], .string r, captured⟩

/-- The function `x => x`. -/
def identityFunction (birth : Birth) (captured : List (String × Value)) (x : String) :
    Lambda Value := ⟨birth, [x], .name x, captured⟩

namespace Eval
variable {n : Nat} {f : Lambda Value} {args : List Value} {root v : Value}

/-- A call takes a step, and one for the body if that is evaluated in one level. -/
theorem yields_call (body : ∀ ev : Evaluator,
      ev.context = (Context.ofBindings f.captured).bindParams f.params args →
      ((levels n).node root f.body).runOn ev = (.ok v, ev)) :
    Yields ((levels (n + 1)).call f args root) 2 v := by
  intro ev enough
  rw [Eval.call, EvalM.runOn_bind, EvalM.runOn_tick, if_neg (by omega)]
  dsimp only
  rw [EvalM.runOn_withContext, levels, EvalM.runOn_bind, EvalM.runOn_tick,
    if_neg (by dsimp only; omega)]
  dsimp only
  rw [EvalM.runOn_deeper, body _ rfl]
  rfl

theorem yields_constantFunction (birth : Birth) (captured : List (String × Value)) (r : String) :
    Yields ((levels (n + 1)).call (constantFunction birth captured r) args root) 2 (.string r) :=
  yields_call fun _ _ => rfl

theorem yields_identityFunction (birth : Birth) (captured : List (String × Value)) (x : String) :
    Yields ((levels (n + 1)).call (identityFunction birth captured x) (v :: args) root) 2 v := by
  refine yields_call fun ev here => ?_
  have bound : ev.context.lookup? x = some v := by
    rw [here]
    exact (Context.lookup?_bind (Context.ofBindings_opened captured) x x v).trans (if_pos rfl)
  change ((levels n).node root (.name x)).runOn ev = _
  rw [node, EvalM.runOn_get, bound]
  rfl

end Eval

section
variable {host : Library.Host} {root : Value} {f : Lambda Value} {text : Array Char}
  {answer : Regex.Match → List Char}

/-- A function that yields an answer for each match puts the answers in their places. -/
theorem yields_replaceByCalls (s : String) {ms : List Regex.Match}
    (calls : ∀ m ∈ ms, ∀ more, Yields
      (host.call f ((m.texts text).map groupValue ++ more) root) 2 (.ofChars (answer m)))
    (start : Nat) : Yields (replaceByCalls host root s text f start ms) (2 * ms.length)
      (Regex.replaceFrom text answer start ms) := by
  induction ms generalizing start with
  | nil => exact .pure _
  | cons m ms ih =>
    obtain ⟨here, later⟩ := List.forall_mem_cons.mp calls
    have rest := (ih later m.stop).then_pure fun rest =>
      Regex.slice text start m.start ++ (Value.ofChars (answer m)).display.toList ++ rest
    have shown : (Value.ofChars (answer m)).display.toList = answer m := by
      rw [Value.ofChars, Value.display, String.toList_ofList]
    have steps : 2 * (m :: ms).length = 2 + 2 * ms.length := by
      rw [List.length_cons]
      omega
    have pieces : Regex.replaceFrom text answer start (m :: ms) = Regex.slice text start m.start ++
        (Value.ofChars (answer m)).display.toList ++ Regex.replaceFrom text answer m.stop ms := by
      rw [shown, Regex.replaceFrom]
    rw [steps, pieces]
    exact (here _).bind rest

theorem yields_replaceWithFunction {s : String} {all everywhere : Bool} {pattern : Value}
    {p : Regex.Program} (replaced : replacedRegex pattern = .ok (p, everywhere))
    (calls : ∀ m ∈ chosenMatches p s.toList.toArray (all || everywhere), ∀ more, Yields
      (host.call f ((m.texts s.toList.toArray).map groupValue ++ more) root) 2
      (.ofChars (answer m))) :
    Yields (replaceWithFunction host root s all pattern f)
      (2 * (chosenMatches p s.toList.toArray (all || everywhere)).length)
      (.ofChars (Regex.replaceFrom s.toList.toArray answer 0
        (chosenMatches p s.toList.toArray (all || everywhere)))) := by
  have made := (yields_replaceByCalls s calls 0).then_pure Value.ofChars
  rw [replaceWithFunction, replaced]
  exact made

end

/-- The name of the method. -/
def replaceName (all : Bool) : String := if all then "replaceAll" else "replace"

/-- A call gives a value where there is a level left for the functions that it calls, and two steps
for each time that it calls them; elsewhere it gives this value or reaches a limit. -/
structure GivesByCalls (act : EvalM Value) (ev : Evaluator) (calls : Nat) (v : Value) : Prop where
  enough : (0 < calls → ev.depth < ev.options.maxDepth) →
    ev.steps + 2 * calls ≤ ev.options.maxSteps →
    act.runOn ev = (.ok v, { ev with steps := ev.steps + 2 * calls })
  otherwise : Limited (act.runOn ev) ∨ (act.runOn ev).1 = .ok v

/-- The methods replace all matches or the first. -/
theorem Library.callMethod_replace (host : Host) (root : Value) (s : String) (all : Bool)
    (pattern replacement : Value) :
    callMethod host root (.string s) (replaceName all) [pattern, replacement] =
      replaceText host root s all [pattern, replacement] := by
  have present : ¬ (Value.string s).isNull = true := Bool.false_ne_true
  cases all with
  | false =>
    have found : TextMethod.catalog.find? (replaceName false) = some (.replace, .exact 2) := by
      decide
    rw [callMethod, if_neg present, ownMethod?, found]
    rfl
  | true =>
    have found : TextMethod.catalog.find? (replaceName true) = some (.replaceAll, .exact 2) := by
      decide
    rw [callMethod, if_neg present, ownMethod?, found]
    rfl

section
variable (root : Value) (s : String) (all : Bool) (pattern : Value)

theorem runOn_replaceText (r : String) (ev : Evaluator) :
    (EvalM.callMethod root (.string s) (replaceName all) [pattern, .string r]).runOn ev =
      (Library.replaceWithText s.toList all pattern r.toList, ev) := by
  rw [EvalM.callMethod, EvalM.runOn_get, Library.callMethod_replace]
  rfl

theorem runOn_replaceFunction (f : Lambda Value) (ev : Evaluator) :
    (EvalM.callMethod root (.string s) (replaceName all) [pattern, .lambda f]).runOn ev =
      (replaceWithFunction (ev.eval.host ev.options.maxStringLength) root s all pattern f).runOn
        ev := by
  rw [EvalM.callMethod, EvalM.runOn_get, Library.callMethod_replace]
  rfl

end

/-- With enough levels and steps everywhere, a method gives its value or reaches a limit. -/
theorem givesByCalls_of_enough {root receiver v : Value} {name : String} {args : List Value}
    {calls : Nat} (enough : ∀ ev : Evaluator, (0 < calls → ev.depth < ev.options.maxDepth) →
      ev.steps + 2 * calls ≤ ev.options.maxSteps →
      (EvalM.callMethod root receiver name args).runOn ev =
        (.ok v, { ev with steps := ev.steps + 2 * calls })) (ev : Evaluator) :
    GivesByCalls (EvalM.callMethod root receiver name args) ev calls v := by
  refine ⟨enough ev, ?_⟩
  let wide : Evaluator := { ev with options := { ev.options with
    maxDepth := max ev.options.maxDepth (ev.depth + 1)
    maxSteps := max ev.options.maxSteps (ev.steps + 2 * calls) } }
  have wider : ev.Widened wide :=
    ⟨⟨Nat.le_max_left _ _, Nat.le_max_left _ _, Nat.le_refl _⟩, rfl, rfl, rfl, rfl, rfl⟩
  have deep : ev.depth < max ev.options.maxDepth (ev.depth + 1) :=
    Nat.lt_of_lt_of_le (Nat.lt_succ_self _) (Nat.le_max_right _ _)
  have given := enough wide (fun _ => deep) (Nat.le_max_right _ _)
  have related : EvalM.Outlasted _ (EvalM.callMethod root receiver name args)
      (EvalM.callMethod root receiver name args) :=
    EvalM.outlasted_congruence.read fun _ _ wider =>
      Library.callMethod_related EvalM.outlasted_congruence
        (Eval.host_related EvalM.outlasted_congruence
          (wider.eval_related EvalM.outlasted_congruence) wider.limits.maxStringLength)
        root receiver name args
  obtain limited | ⟨same, -⟩ := related ev wide wider
  · exact .inl limited
  · rw [given] at same
    exact .inr same.symm

/-- Replacing by a function that yields an answer for each of the matches. -/
theorem gives_replaced (root : Value) {pattern : Value} {s : String} {all everywhere : Bool}
    {p : Regex.Program} {f : Lambda Value} (answer : Regex.Match → List Char)
    (replaced : replacedRegex pattern = .ok (p, everywhere))
    (calls : ∀ n, ∀ m ∈ chosenMatches p s.toList.toArray (all || everywhere), ∀ more, Yields
      ((Eval.levels (n + 1)).call f ((m.texts s.toList.toArray).map groupValue ++ more) root) 2
      (.ofChars (answer m))) (ev : Evaluator) :
    GivesByCalls
      (EvalM.callMethod root (.string s) (replaceName all) [pattern, .lambda f]) ev
      (chosenMatches p s.toList.toArray (all || everywhere)).length
      (.ofChars (Regex.replaceFrom s.toList.toArray answer 0
        (chosenMatches p s.toList.toArray (all || everywhere)))) := by
  refine givesByCalls_of_enough (fun ev level steps => ?_) ev
  rw [runOn_replaceFunction]
  refine yields_replaceWithFunction replaced (fun m isIn more => ?_) ev steps
  have left := level (List.length_pos_of_mem isIn)
  obtain ⟨n, levels⟩ : ∃ n, ev.options.maxDepth - ev.depth = n + 1 :=
    ⟨ev.options.maxDepth - ev.depth - 1, by omega⟩
  change Yields ((Eval.levels (ev.options.maxDepth - ev.depth)).call _ _ _) 2 _
  rw [levels]
  exact calls n m isIn more

/-- A function that returns the same text at every match replaces as the text does, and one that
returns the match leaves the string as it was. -/
theorem functions_replace_as_texts (root : Value) (s r : String) (all : Bool) {pattern : Value}
    (replaceable : Replaceable pattern) (unreferring : Unreferring pattern r) (birth : Birth)
    (captured : List (String × Value)) :
    ∃ (replaced : String) (calls : Nat), calls ≤ s.length + 1 ∧ ∀ ev : Evaluator,
      (EvalM.callMethod root (.string s) (replaceName all) [pattern, .string r]).runOn ev =
          (.ok (.string replaced), ev) ∧
      GivesByCalls (EvalM.callMethod root (.string s) (replaceName all)
          [pattern, .lambda (constantFunction birth captured r)]) ev calls (.string replaced) ∧
      ∀ x, GivesByCalls (EvalM.callMethod root (.string s) (replaceName all)
          [pattern, .lambda (identityFunction birth captured x)]) ev calls (.string s) := by
  obtain ⟨p, everywhere, framed, function, text⟩ := replaceable.routes s.toList all
  have few := Library.chosenMatches_length p s.toList.toArray (all || everywhere)
  have ordered := Library.chosenMatches_inOrder framed s.toList.toArray (all || everywhere)
  have whole := Regex.replaceFrom_texts ordered
  rw [Regex.slice_from, List.drop_zero] at whole
  refine ⟨String.ofList (Regex.replaceFrom s.toList.toArray (fun _ => r.toList) 0
    (chosenMatches p s.toList.toArray (all || everywhere))), _, few, fun ev => ?_⟩
  refine ⟨?_, ?_, fun x => ?_⟩
  · rw [runOn_replaceText, text r unreferring]
    rfl
  · refine gives_replaced root _ function (fun n m _ more => ?_) ev
    rw [Value.ofChars, String.ofList_toList]
    exact Eval.yields_constantFunction birth captured r
  · have matched : ∀ n, ∀ m ∈ chosenMatches p s.toList.toArray (all || everywhere), ∀ more, Yields
        ((Eval.levels (n + 1)).call (identityFunction birth captured x)
          ((m.texts s.toList.toArray).map groupValue ++ more) root) 2
        (.ofChars (m.text s.toList.toArray)) := by
      intro n m isIn more
      obtain ⟨others, texts⟩ := (ordered.lies isIn).texts_eq s.toList.toArray
      rw [texts]
      exact Eval.yields_identityFunction birth captured x
    have gives := gives_replaced root _ function matched ev
    rwa [whole, Value.ofChars, String.ofList_toList] at gives

/-- A regex with empty matches, of which its flag means all, replaced by both kinds of functions. -/
theorem stars_replaced : Replaceable (.regex "a*" "g") ∧ Unreferring (.regex "a*" "g") "-" ∧
    ((EvalM.callMethod .null (.string "baac") "replace"
      [.regex "a*" "g", .lambda (constantFunction ⟨0, 0⟩ [] "-")]).runOn (.start {} 0)).1 =
        .ok (.string "-b-c-") ∧
    ((EvalM.callMethod .null (.string "baac") "replace"
      [.regex "a*" "g", .lambda (identityFunction ⟨0, 0⟩ [] "m")]).runOn (.start {} 0)).1 =
        .ok (.string "baac") := by
  have replaceable : Replaceable (.regex "a*" "g") := .regex _ _ rfl
  have unreferring : Unreferring (.regex "a*" "g") "-" := fun _ _ _ => by decide
  obtain ⟨replaced, calls, few, routes⟩ := functions_replace_as_texts .null "baac" "-" false
    replaceable unreferring ⟨0, 0⟩ []
  obtain ⟨text, constant, identity⟩ := routes (.start {} 0)
  have few : calls ≤ 5 := few
  have level : 0 < calls → 0 < 256 := fun _ => by decide
  have steps : 0 + 2 * calls ≤ 1000000 := by omega
  have same : replaced = "-b-c-" := by
    rw [runOn_replaceText] at text
    have shown := congrArg (fun run => run.1.toOption.map Value.display) text
    have evaluated : (Library.replaceWithText "baac".toList false (.regex "a*" "g")
        "-".toList).toOption.map Value.display = some "-b-c-" := by decide +kernel
    exact Option.some.inj (shown.symm.trans evaluated)
  rw [← same]
  exact ⟨replaceable, unreferring, congrArg Prod.fst (constant.enough level steps),
    congrArg Prod.fst ((identity "m").enough level steps)⟩

/-- A text that is too long for a regex is replaced by text as every other, but no function can
replace it. -/
theorem long_text_replaced (root : Value) (s needle : String) (all : Bool)
    (long : Regex.longestLiteral < needle.utf8ByteSize) (ev : Evaluator) :
    (∀ r : String, (EvalM.callMethod root (.string s) (replaceName all)
      [.string needle, .string r]).runOn ev =
        (.ok (.ofChars (if all then Text.replaceAll needle.toList r.toList s.toList
          else Text.replaceFirst needle.toList r.toList s.toList)), ev)) ∧
    ∀ f, (EvalM.callMethod root (.string s) (replaceName all)
      [.string needle, .lambda f]).runOn ev =
        (.error (.badType (.badRegex (String.ofList (Regex.quoted needle.toList)))), ev) := by
  constructor
  · intro r
    rw [runOn_replaceText]
    rfl
  · intro f
    rw [runOn_replaceFunction, replaceWithFunction, Library.replacedRegex_text,
      if_neg (Nat.not_le_of_lt long)]
    rfl

/-- A text of six hundred thousand letters is not found, and refused where a function is to replace
it. -/
theorem long_text_refused :
    let needle := String.ofList (List.replicate 600000 'a')
    let ev := Evaluator.start {} 0
    (EvalM.callMethod .null (.string "x") "replace" [.string needle, .string "y"]).runOn ev =
        (.ok (.string "x"), ev) ∧
      (EvalM.callMethod .null (.string "x") "replace"
        [.string needle, .lambda (constantFunction ⟨0, 0⟩ [] "y")]).runOn ev =
        (.error (.badType (.badRegex needle)), ev) := by
  intro needle ev
  have chars : needle.toList = List.replicate 600000 'a' := String.toList_ofList
  have plain (n : Nat) : Regex.quoted (List.replicate n 'a') = List.replicate n 'a' := by
    induction n with
    | zero => rfl
    | succ n ih =>
      rw [List.replicate_succ, Regex.quoted, List.flatMap_cons]
      exact congrArg ('a' :: ·) ih
  have bytes (n : Nat) : String.utf8Len (List.replicate n 'a') = n := by
    induction n with
    | zero => rfl
    | succ n ih =>
      rw [List.replicate_succ, String.utf8Len_cons, ih]
      rfl
  have absent (n : Nat) :
      Text.replaceFirst (List.replicate (n + 1) 'a') "y".toList "x".toList = "x".toList := rfl
  have long : Regex.longestLiteral < needle.utf8ByteSize := by
    rw [← String.utf8Len_toList, chars, bytes]
    decide
  obtain ⟨text, function⟩ := long_text_replaced .null "x" needle false long ev
  constructor
  · refine (text "y").trans ?_
    rw [chars, if_neg Bool.false_ne_true, absent 599999]
    rfl
  · refine (function _).trans ?_
    rw [chars, plain]

end DocExpr
