import DocExpr.Library.Date
import DocExpr.Library.Number
import DocExpr.Library.Text

/-! Errors of methods. A method fails for its arguments or for a limit. That a function is unknown
is the fault of a name, which is looked up before any method runs; so no method says that by
itself, and what says it must be a function that the method calls. -/
namespace DocExpr

/-- The result is not that a function is unknown. -/
def KnowsFunctions {α : Type} (result : Except EvalError α) : Prop :=
  ∀ function, result ≠ .error (.unknownFunction function)

namespace KnowsFunctions
variable {α β : Type} {result : Except EvalError α}

theorem ok (a : α) : KnowsFunctions (.ok a) := nofun

theorem limit (fault : LimitFault) : KnowsFunctions (.error (.limit fault) : Except EvalError α) :=
  nofun

theorem typeError (fault : TypeFault) :
    KnowsFunctions (Library.typeError fault : Except EvalError α) := nofun

theorem bind {f : α → Except EvalError β} (first : KnowsFunctions result)
    (next : ∀ a, KnowsFunctions (f a)) : KnowsFunctions (result >>= f) := by
  cases result with
  | ok a => exact next a
  | error e =>
    intro function same
    cases same
    exact first function rfl

theorem map (f : α → β) (known : KnowsFunctions result) : KnowsFunctions (result.map f) := by
  cases result with
  | ok a => exact ok (f a)
  | error e =>
    intro function same
    cases same
    exact known function rfl

end KnowsFunctions

theorem Arity.check_known (a : Arity) (name : String) (given : Nat) :
    KnowsFunctions (a.check name given) := by
  unfold Arity.check
  split
  · exact .ok ()
  · exact .typeError _

namespace Library

theorem checkLength_known (length limit : Nat) : KnowsFunctions (checkLength length limit) := by
  unfold checkLength
  split
  · exact .limit _
  · exact .ok ()

theorem appendAll_known (limit : Nat) (s : String) (vs : List Value) :
    KnowsFunctions (appendAll limit s vs) := by
  induction vs generalizing s with
  | nil => exact .ok s
  | cons v vs ih => exact (checkLength_known _ limit).bind fun _ => ih _

theorem repeatText_known (limit : Nat) (s : String) (count : Float) :
    KnowsFunctions (repeatText limit s count) := by
  unfold repeatText
  dsimp only
  split
  · exact .typeError _
  · refine (checkLength_known _ limit).bind fun _ => ?_
    split
    · exact .typeError _
    · exact .ok _

theorem compileRegex_known (pattern flags : String) :
    KnowsFunctions (compileRegex pattern flags) := by
  unfold compileRegex
  split
  · exact .ok _
  · exact .typeError _

theorem regexArg_known (v : Value) : KnowsFunctions (regexArg v) := by
  unfold regexArg
  split
  · exact (compileRegex_known _ _).map _
  · exact (compileRegex_known _ _).map _

theorem matchText_known (text : Array Char) (v : Value) : KnowsFunctions (matchText text v) := by
  refine (regexArg_known v).bind fun (program, all) => ?_
  dsimp only
  split
  · split
    · exact .ok _
    · exact .ok _
  · split
    · exact .ok _
    · exact .ok _

theorem searchText_known (text : Array Char) (v : Value) : KnowsFunctions (searchText text v) := by
  refine (regexArg_known v).bind fun (program, _) => ?_
  dsimp only
  split
  · exact .ok _
  · exact .ok _

theorem replacedRegex_known (pattern : Value) : KnowsFunctions (replacedRegex pattern) := by
  unfold replacedRegex
  split
  · exact regexArg_known _
  · exact regexArg_known _

theorem replaceWithText_known (cs : List Char) (all : Bool) (pattern : Value)
    (replacement : List Char) : KnowsFunctions (replaceWithText cs all pattern replacement) := by
  unfold replaceWithText
  split
  · exact (compileRegex_known _ _).bind fun _ => .ok _
  · exact .ok _

theorem splitPieces_known (cs : List Char) (separator : Value) :
    KnowsFunctions (splitPieces cs separator) := by
  unfold splitPieces
  split
  · exact .ok _
  · exact (compileRegex_known _ _).bind fun _ => .ok _
  · split
    · exact .ok _
    · exact .ok _

theorem splitText_known (cs : List Char) (args : List Value) :
    KnowsFunctions (splitText cs args) :=
  (splitPieces_known cs _).bind fun _ => .ok _

theorem Placeholder.check_known (p : Placeholder) (v : Value) : KnowsFunctions (p.check v) := by
  unfold check
  split
  · split
    · exact .typeError _
    · exact .ok ()
  · exact .ok ()

theorem formatFrom_known (args : List Value) (skip used : Nat) (cs : List Char) :
    KnowsFunctions (formatFrom args skip used cs) := by
  induction cs generalizing skip used with
  | nil => exact .ok []
  | cons c rest ih =>
    cases skip with
    | succ skip => exact ih skip used
    | zero =>
      rw [formatFrom]
      split
      · exact (ih 0 used).map _
      · split
        · exact (ih 1 used).map _
        · split
          · exact (ih 0 used).map _
          · dsimp only
            split
            · exact (Placeholder.check_known _ _).bind fun _ => (ih _ _).map _
            · exact (ih _ _).map _

theorem format_known (text : String) (args : List Value) : KnowsFunctions (format text args) :=
  (formatFrom_known args 0 0 text.toList).map _

theorem digitsArg_known (name : String) (args : List Value) (least most : Nat) :
    KnowsFunctions (digitsArg name args least most) := by
  unfold digitsArg
  dsimp only
  split
  · exact .typeError _
  · exact .ok _

theorem NumberMethod.run_known (m : NumberMethod) (x : Float) (args : List Value) :
    KnowsFunctions (m.run x args) := by
  cases m with
  | toFixed => exact (digitsArg_known _ args 0 100).bind fun _ => .ok _
  | toExponential =>
    unfold NumberMethod.run
    dsimp only
    split
    · exact .ok _
    · exact (digitsArg_known _ args 0 100).bind fun _ => .ok _
  | toPrecision =>
    unfold NumberMethod.run
    dsimp only
    split
    · exact .ok _
    · exact (digitsArg_known _ args 1 100).bind fun _ => .ok _
  | toText =>
    unfold NumberMethod.run
    dsimp only
    split
    · exact .ok _
    · split
      · exact .typeError _
      · exact .ok _

theorem dateResult_known {α : Type} (r : Except Calendar.Fault α) :
    KnowsFunctions (dateResult r) := by
  cases r with
  | ok a => exact .ok a
  | error fault => exact .typeError _

theorem wholeArg_known (name : String) (args : List Value) :
    KnowsFunctions (wholeArg name args) := by
  unfold wholeArg
  dsimp only
  split
  · exact .ok _
  · exact .typeError _

theorem shiftDate_known (d : Calendar.Date) (unit : DateUnit) (amount : Int) :
    KnowsFunctions (shiftDate d unit amount) := by
  unfold shiftDate
  dsimp only
  split
  · exact .typeError _
  · exact dateResult_known _

theorem localText_known (d : Calendar.Date) (pattern : String) (args : List Value) :
    KnowsFunctions (localText d pattern args) := by
  unfold localText
  split
  dsimp only
  split
  · exact (dateResult_known _).bind fun _ => dateResult_known _
  · exact dateResult_known _

theorem DateMethod.run_known (m : DateMethod) (name : String) (d : Calendar.Date)
    (args : List Value) : KnowsFunctions (m.run name d args) := by
  cases m with
  | get part => exact .ok _
  | plus unit =>
    refine (wholeArg_known name args).bind fun amount => ?_
    exact (shiftDate_known d unit amount).bind fun _ => .ok _
  | minus unit =>
    refine (wholeArg_known name args).bind fun amount => ?_
    exact (shiftDate_known d unit (oppositeAmount amount)).bind fun _ => .ok _
  | set field =>
    refine (wholeArg_known name args).bind fun amount => ?_
    exact (dateResult_known _).bind fun _ => .ok _
  | isoText => exact .ok _
  | localText pattern => exact (localText_known d pattern args).bind fun _ => .ok _

end Library
end DocExpr
