import DocExpr.Library.Dispatch
import DocExpr.Proofs.Limits.Within
import DocExpr.Proofs.Placewise

/-! The library with two hosts. What a function of the library does with one host and with another
stays in every congruence in which the hosts are; each function with callbacks is followed
through its own recursion. The callbacks themselves may differ: it is enough that their calls are
related, and that a method which begins by making functions of its arguments begins alike. For
methods a relation is enough that survives sequencing, as they leave the state to their host. -/
namespace DocExpr.Library
open EvalM (Relation Sequenced Congruence)

/-- What methods use of two hosts is related, and the second one allows at least as long strings. -/
structure Host.CallbacksRelated (R : Relation) (host host' : Host) : Prop where
  callable : ∀ v params, R _ (host.callable v params) (host'.callable v params)
  call : ∀ f args root, R _ (host.call f args root) (host'.call f args root)
  maxStringLength : host.maxStringLength ≤ host'.maxStringLength

/-- All operations of two hosts are related. -/
structure Host.Related (R : Relation) (host host' : Host) : Prop
    extends host.CallbacksRelated R host' where
  evalText : ∀ s root, R _ (host.evalText s root) (host'.evalText s root)
  resolvePath : ∀ v path, R _ (host.resolvePath v path) (host'.resolvePath v path)

/-- Two functions, called with the same arguments, are related. -/
def Host.CallsRelated (R : Relation) (host host' : Host) (root : Value) (f f' : Lambda Value) :
    Prop :=
  ∀ args, R _ (host.call f args root) (host'.call f' args root)

variable {R : Relation} {host host' : Host}

section
variable (keeps : Sequenced R) (hosts : host.CallbacksRelated R host') (root : Value)

section
variable {α : Type} {compare compare' : α → α → EvalM Ordering}
  (compares : ∀ a b, R _ (compare a b) (compare' a b))
include keeps compares

theorem mergeLoop_related (fuel : Nat) (left right : List α) :
    R _ (mergeLoop compare fuel left right) (mergeLoop compare' fuel left right) := by
  induction fuel generalizing left right with
  | zero => exact keeps.pure _
  | succ fuel ih =>
    cases left with
    | nil => exact keeps.pure _
    | cons l left =>
      cases right with
      | nil => exact keeps.pure _
      | cons r right =>
        refine keeps.bind (compares r l) fun order => ?_
        cases order with
        | lt => exact keeps.bind (ih _ _) fun _ => keeps.pure _
        | eq => exact keeps.bind (ih _ _) fun _ => keeps.pure _
        | gt => exact keeps.bind (ih _ _) fun _ => keeps.pure _

theorem sortLoop_related (fuel : Nat) (xs : List α) :
    R _ (sortLoop compare fuel xs) (sortLoop compare' fuel xs) := by
  induction fuel generalizing xs with
  | zero => exact keeps.pure _
  | succ fuel ih =>
    rw [sortLoop, sortLoop]
    split
    · exact keeps.pure _
    · refine keeps.bind (ih _) fun left => ?_
      refine keeps.bind (ih _) fun right => ?_
      exact mergeLoop_related keeps compares _ left right

end

section
variable {root} {f f' : Lambda Value} (calls : host.CallsRelated R host' root f f')
include keeps calls

theorem sortBy_related (items : List Value) :
    R _ (sortBy host root f items) (sortBy host' root f' items) :=
  sortLoop_related keeps (fun a b => keeps.bind (calls [a, b]) fun _ => keeps.pure _) _ items

omit keeps in
theorem callOnItem_related (array item : Value) (i : Nat) :
    R _ (callOnItem host root f array item i) (callOnItem host' root f' array item i) :=
  calls _

theorem filterItems_related (array : Value) (i : Nat) (items : List Value) :
    R _ (filterItems host root f array i items) (filterItems host' root f' array i items) := by
  induction items generalizing i with
  | nil => exact keeps.pure _
  | cons v vs ih =>
    refine keeps.bind (callOnItem_related calls array v i) fun keep => ?_
    exact keeps.bind (ih (i + 1)) fun rest => keeps.pure _

theorem findItem_related (array : Value) (i : Nat) (items : List Value) :
    R _ (findItem host root f array i items) (findItem host' root f' array i items) := by
  induction items generalizing i with
  | nil => exact keeps.pure _
  | cons v vs ih =>
    refine keeps.bind (callOnItem_related calls array v i) fun found => ?_
    split
    · exact keeps.pure _
    · exact ih (i + 1)

theorem mapItems_related (array : Value) (i : Nat) (items : List Value) :
    R _ (mapItems host root f array i items) (mapItems host' root f' array i items) := by
  induction items generalizing i with
  | nil => exact keeps.pure _
  | cons v vs ih =>
    refine keeps.bind (callOnItem_related calls array v i) fun w => ?_
    exact keeps.bind (ih (i + 1)) fun rest => keeps.pure _

theorem reduceItems_related (array acc : Value) (items : List (Value × Nat)) :
    R _ (reduceItems host root f array acc items) (reduceItems host' root f' array acc items) := by
  induction items generalizing acc with
  | nil => exact keeps.pure _
  | cons item rest ih => exact keeps.bind (calls _) fun acc => ih acc

theorem reduceArray_related (array : Value) (initial : Option Value)
    (items : List (Value × Nat)) :
    R _ (reduceArray host root f array initial items)
      (reduceArray host' root f' array initial items) := by
  unfold reduceArray
  split
  · exact reduceItems_related keeps calls array _ _
  · exact reduceItems_related keeps calls array _ _
  · exact keeps.known (.typeError _)

/-- A function for the values may be missing. -/
theorem objectOfItems_related {value value' : Option (Lambda Value)}
    (values : Option.Rel (host.CallsRelated R host' root) value value')
    (array : Value) (done : Entries Value) (i : Nat) (items : List Value) :
    R _ (objectOfItems host root f value array done i items)
      (objectOfItems host' root f' value' array done i items) := by
  induction items generalizing done i with
  | nil => exact keeps.pure _
  | cons v vs ih =>
    refine keeps.bind (callOnItem_related calls array v i) fun k => ?_
    cases values with
    | none => exact ih _ _
    | some valueCalls =>
      exact keeps.bind (callOnItem_related valueCalls array v i) fun w => ih _ _

omit keeps in
theorem callOnEntry_related (object : Value) (k : String) (v : Value) :
    R _ (callOnEntry host root f object k v) (callOnEntry host' root f' object k v) :=
  calls _

theorem filterEntries_related (object : Value) (es : Entries Value) :
    R _ (filterEntries host root f object es) (filterEntries host' root f' object es) := by
  induction es with
  | nil => exact keeps.pure _
  | cons e es ih =>
    refine keeps.bind (callOnEntry_related calls object e.1 e.2) fun keep => ?_
    exact keeps.bind ih fun rest => keeps.pure _

theorem mapEntryKeys_related (object : Value) (done es : Entries Value) :
    R _ (mapEntryKeys host root f object done es) (mapEntryKeys host' root f' object done es) := by
  induction es generalizing done with
  | nil => exact keeps.pure _
  | cons e es ih =>
    exact keeps.bind (callOnEntry_related calls object e.1 e.2) fun k => ih _

theorem mapEntryValues_related (object : Value) (es : Entries Value) :
    R _ (mapEntryValues host root f object es) (mapEntryValues host' root f' object es) := by
  induction es with
  | nil => exact keeps.pure _
  | cons e es ih =>
    refine keeps.bind (callOnEntry_related calls object e.1 e.2) fun w => ?_
    exact keeps.bind ih fun rest => keeps.pure _

end

/-- The parameters of text that a method of arrays takes for a function, in that place of its
arguments. -/
def ArrayMethod.callback? : ArrayMethod → Nat → Option (List String)
  | .filter, 0 | .find, 0 | .findIndex, 0 | .map, 0 | .toObject, 0 | .toObject, 1 => some itemParams
  | .reduce, 0 | .reduceRight, 0 => some reduceParams
  | .sort, 0 => some sortParams
  | _, _ => none

/-- The parameters of text that a method of objects takes for a function, in that place of its
arguments. -/
def ObjectMethod.callback? : ObjectMethod → Nat → Option (List String)
  | .filter, 0 | .mapKeys, 0 | .mapValues, 0 => some entryParams
  | _, _ => none

/-- The parameters of text that stands for a function, in that place of the arguments of a method;
none where text is just text. -/
def callback? (receiver : Value) (name : String) (i : Nat) : Option (List String) :=
  match receiver with
  | .array _ => (ArrayMethod.catalog.find? name).bind fun (m, _) => m.callback? i
  | .object _ => (ObjectMethod.catalog.find? name).bind fun (m, _) => m.callback? i
  | _ => none

/-- Values in one place of the arguments: `given` for one another where a function is expected, and
the same elsewhere. -/
def Handed (given : List String → Value → Value → Prop) :
    Option (List String) → Value → Value → Prop
  | some params, v, v' => given params v v'
  | none, v, v' => v' = v

/-- How two runs of a method begin, as far as `P` tells, when values that are `given` for one
another are made functions: what comes next must be related for functions with related calls. -/
structure Begins (R P : Relation) (host host' : Host) (root : Value)
    (given : List String → Value → Value → Prop) : Prop where
  of_related : ∀ {α} {x x' : EvalM α}, R α x x' → P α x x'
  checked : ∀ {α} {r : Except EvalError Unit}, KnowsFunctions r → ∀ {x x' : EvalM α}, P α x x' →
    P α (lift r >>= fun _ => x) (lift r >>= fun _ => x')
  callable : ∀ {params v v'}, given params v v' → ∀ {α} {k k' : Lambda Value → EvalM α},
    (∀ f f', host.CallsRelated R host' root f f' → P α (k f) (k' f')) →
    P α (host.callable v params >>= k) (host'.callable v' params >>= k')
  same : ∀ params v, given params v v
  null : ∀ {params v v'}, given params v v' → (v = .null ↔ v' = .null)

/-- A relation that survives sequencing is a beginning where nothing is given for anything
else. -/
theorem Host.CallbacksRelated.begins (hosts : host.CallbacksRelated R host') (keeps : Sequenced R)
    (root : Value) : Begins R R host host' root fun _ v v' => v' = v where
  of_related := id
  checked known _ _ rest := keeps.bind (keeps.known known) fun _ => rest
  callable {params v v'} same := by
    subst same
    exact fun rest => keeps.bind (hosts.callable v' params) fun f =>
      rest f f fun args => hosts.call f args root
  same _ _ := rfl
  null same := by rw [same]

section
variable {P : Relation} {root} {given : List String → Value → Value → Prop}
  (begins : Begins R P host host' root given) {args args' : List Value}
include keeps begins

omit keeps in
theorem Begins.handed_same (params? : Option (List String)) (v : Value) :
    Handed given params? v v := by
  cases params? with
  | none => rfl
  | some params => exact begins.same params v

omit keeps in
theorem Begins.handed_arg {callback? : Nat → Option (List String)}
    (handed : Placewise (fun i => Handed given (callback? i)) 0 args args') (i : Nat) :
    Handed given (callback? i) (arg args i) (arg args' i) := by
  have place := handed.getElem? i
  rw [Nat.zero_add] at place
  rw [arg, arg, List.getD_eq_getElem?_getD, List.getD_eq_getElem?_getD]
  generalize args[i]? = v at place ⊢
  generalize args'[i]? = v' at place ⊢
  cases place with
  | none => exact begins.handed_same _ _
  | some handed => exact handed

omit keeps in
/-- Most methods make one function, of their first argument. -/
theorem Begins.firstArg {callback? : Nat → Option (List String)}
    (handed : Placewise (fun i => Handed given (callback? i)) 0 args args') {params : List String}
    (expected : callback? 0 = some params) {α : Type} {k k' : Lambda Value → EvalM α}
    (next : ∀ f f', host.CallsRelated R host' root f f' → R α (k f) (k' f')) :
    P α (host.callable (arg args 0) params >>= k) (host'.callable (arg args' 0) params >>= k') := by
  have first := begins.handed_arg handed 0
  rw [expected] at first
  exact begins.callable first fun f f' calls => begins.of_related (next f f' calls)

omit keeps begins in
theorem ArrayMethod.run_sort_callable {host : Host} {root v : Value} {items args : List Value}
    (isFunction : v ≠ .null) :
    ArrayMethod.sort.run host root items (v :: args) =
      host.callable v sortParams >>= fun f => do return .array (← sortBy host root f items) := by
  cases v with
  | null => exact absurd rfl isFunction
  | _ => rfl

theorem ArrayMethod.run_begun (m : ArrayMethod) (items : List Value)
    (handed : Placewise (fun i => Handed given (m.callback? i)) 0 args args') :
    P _ (m.run host root items args) (m.run host' root items args') := by
  cases m with
  | filter =>
    refine begins.firstArg handed rfl fun f f' calls => ?_
    exact keeps.bind (filterItems_related keeps calls _ 0 items) fun _ => keeps.pure _
  | find =>
    refine begins.firstArg handed rfl fun f f' calls => ?_
    refine keeps.bind (findItem_related keeps calls _ 0 items) fun found => ?_
    cases found with
    | none => exact keeps.pure _
    | some found => exact keeps.pure _
  | findIndex =>
    refine begins.firstArg handed rfl fun f f' calls => ?_
    exact keeps.bind (findItem_related keeps calls _ 0 items) fun _ => keeps.pure _
  | map =>
    refine begins.firstArg handed rfl fun f f' calls => ?_
    exact keeps.bind (mapItems_related keeps calls _ 0 items) fun _ => keeps.pure _
  | reduce =>
    refine begins.firstArg handed rfl fun f f' calls => ?_
    rw [handed.getElem?_eq 1 fun _ _ same => same]
    exact reduceArray_related keeps calls _ _ _
  | reduceRight =>
    refine begins.firstArg handed rfl fun f f' calls => ?_
    rw [handed.getElem?_eq 1 fun _ _ same => same]
    exact reduceArray_related keeps calls _ _ _
  | toObject =>
    refine begins.callable (begins.handed_arg handed 0) fun key key' calls => ?_
    have built := fun {value value' : Option (Lambda Value)}
        (values : Option.Rel (host.CallsRelated R host' root) value value') => keeps.bind
      (objectOfItems_related keeps calls values (.array items) [] 0 items)
      fun es => keeps.pure (Value.object es)
    have second : Option.Rel (given itemParams) args[1]? args'[1]? := handed.getElem? 1
    generalize args[1]? = v at second ⊢
    generalize args'[1]? = v' at second ⊢
    cases second with
    | none =>
      simp only [pure_bind]
      exact begins.of_related (built .none)
    | some given =>
      simp only [map_eq_pure_bind, bind_assoc, pure_bind]
      exact begins.callable given fun f f' calls => begins.of_related (built (.some calls))
  | sort =>
    cases handed with
    | nil => exact begins.of_related (keeps.pure _)
    | @cons _ v v' args args' first others =>
      have null := begins.null first
      by_cases isNull : v = .null
      · rw [isNull, null.mp isNull]
        exact begins.of_related (keeps.pure _)
      · rw [run_sort_callable isNull, run_sort_callable (mt null.mpr isNull)]
        refine begins.callable first fun f f' calls => begins.of_related ?_
        exact keeps.bind (sortBy_related keeps calls items) fun _ => keeps.pure _
  | _ =>
    rw [handed.eq fun _ _ _ same => same]
    exact begins.of_related (keeps.pure _)

theorem ObjectMethod.run_begun (m : ObjectMethod) (es : Entries Value)
    (handed : Placewise (fun i => Handed given (m.callback? i)) 0 args args') :
    P _ (m.run host root es args) (m.run host' root es args') := by
  cases m with
  | filter =>
    refine begins.firstArg handed rfl fun f f' calls => ?_
    exact keeps.bind (filterEntries_related keeps calls _ es) fun _ => keeps.pure _
  | mapKeys =>
    refine begins.firstArg handed rfl fun f f' calls => ?_
    exact keeps.bind (mapEntryKeys_related keeps calls _ [] es) fun _ => keeps.pure _
  | mapValues =>
    refine begins.firstArg handed rfl fun f f' calls => ?_
    exact keeps.bind (mapEntryValues_related keeps calls _ es) fun _ => keeps.pure _
  | _ =>
    rw [handed.eq fun _ _ _ same => same]
    exact begins.of_related (keeps.pure _)

end

section
include keeps hosts

theorem replaceByCalls_related (s : String) (text : Array Char) (f : Lambda Value) (start : Nat)
    (ms : List Regex.Match) :
    R _ (replaceByCalls host root s text f start ms)
      (replaceByCalls host' root s text f start ms) := by
  induction ms generalizing start with
  | nil => exact keeps.pure _
  | cons m ms ih =>
    refine keeps.bind (hosts.call f _ root) fun v => ?_
    exact keeps.bind (ih m.stop) fun rest => keeps.pure _

theorem replaceWithFunction_related (s : String) (all : Bool) (pattern : Value)
    (f : Lambda Value) :
    R _ (replaceWithFunction host root s all pattern f)
      (replaceWithFunction host' root s all pattern f) := by
  have replaced := fun (chosen : Regex.Program × Bool) => keeps.bind
    (replaceByCalls_related keeps hosts root s s.toList.toArray f 0
      (chosenMatches chosen.1 s.toList.toArray (all || chosen.2)))
    fun cs => keeps.pure (Value.ofChars cs)
  exact keeps.bind (keeps.known (replacedRegex_known pattern)) replaced

theorem replaceText_related (s : String) (all : Bool) (args : List Value) :
    R _ (replaceText host root s all args) (replaceText host' root s all args) := by
  unfold replaceText
  split
  · exact replaceWithFunction_related keeps hosts root s all _ _
  · exact keeps.known (replaceWithText_known _ all _ _)

theorem TextMethod.run_related (m : TextMethod) (s : String) (args : List Value) :
    R _ (m.run host root s args) (m.run host' root s args) := by
  have longer := hosts.maxStringLength
  cases m with
  | concat =>
    exact keeps.bind (keeps.lift_within (appendAll_within longer s args) (appendAll_known _ s args))
      fun _ => keeps.pure _
  | repeated => exact keeps.lift_within (repeatText_within longer s _) (repeatText_known _ s _)
  | replace => exact replaceText_related keeps hosts root s false args
  | replaceAll => exact replaceText_related keeps hosts root s true args
  | matchRegex => exact keeps.known (matchText_known _ _)
  | search => exact keeps.known (searchText_known _ _)
  | split => exact keeps.known (splitText_known _ args)
  | sprintf => exact keeps.bind (keeps.known (format_known s args)) fun _ => keeps.pure _
  | _ => exact keeps.pure _

end

/-- There is no method, or the same one with runs in `P` on these arguments. -/
inductive RunsRelated (P : Relation) (args args' : List Value) :
    Option (Arity × (List Value → EvalM Value)) →
    Option (Arity × (List Value → EvalM Value)) → Prop where
  | none : RunsRelated P args args' none none
  | some (arity : Arity) {run run' : List Value → EvalM Value}
      (runs : P _ (run args) (run' args')) :
      RunsRelated P args args' (some (arity, run)) (some (arity, run'))

theorem RunsRelated.of_found {P : Relation} {args args' : List Value} {M : Type}
    (run run' : M → List Value → EvalM Value) (found : Option (M × Arity))
    (runs : ∀ m arity, found = Option.some (m, arity) → P _ (run m args) (run' m args')) :
    RunsRelated P args args' (found.map fun (m, a) => (a, run m))
      (found.map fun (m, a) => (a, run' m)) := by
  cases found with
  | none => exact .none
  | some method => exact .some method.2 (runs method.1 method.2 rfl)

section
variable {P : Relation} {root} {given : List String → Value → Value → Prop}
  (begins : Begins R P host host' root given) {args args' : List Value}
include keeps hosts begins

theorem ownMethod?_begun (receiver : Value) (name : String)
    (handed : Placewise (fun i => Handed given (callback? receiver name i)) 0 args args') :
    RunsRelated P args args' (ownMethod? host root receiver name)
      (ownMethod? host' root receiver name) := by
  cases receiver with
  | string s =>
    rw [handed.eq fun _ _ _ same => same]
    exact .of_found (TextMethod.run · host root s) (TextMethod.run · host' root s) _
      fun m _ _ => begins.of_related (m.run_related keeps hosts root s args)
  | number x =>
    rw [handed.eq fun _ _ _ same => same]
    exact .of_found (lift ∘ NumberMethod.run · x) (lift ∘ NumberMethod.run · x) _
      fun m _ _ => begins.of_related (keeps.known (m.run_known x args))
  | array items =>
    refine .of_found (ArrayMethod.run · host root items) (ArrayMethod.run · host' root items) _
      fun m arity found => m.run_begun keeps begins items ?_
    simpa only [callback?, found, Option.bind_some] using handed
  | object es =>
    refine .of_found (ObjectMethod.run · host root es) (ObjectMethod.run · host' root es) _
      fun m arity found => m.run_begun keeps begins es ?_
    simpa only [callback?, found, Option.bind_some] using handed
  | date d =>
    rw [handed.eq fun _ _ _ same => same]
    exact .of_found (lift ∘ DateMethod.run · name d) (lift ∘ DateMethod.run · name d) _
      fun m _ _ => begins.of_related (keeps.known (m.run_known name d args))
  | _ => exact .none

/-- A method is called alike on arguments of which the callbacks are given for one another. That
the name is unknown everywhere must be related where that is so. -/
theorem callMethod_begun (receiver : Value) (name : String)
    (handed : Placewise (fun i => Handed given (callback? receiver name i)) 0 args args')
    (unknown : isMethodName name = false → name ≠ "toString" → ∀ function,
      R Value (lift (.error (.unknownFunction function)))
        (lift (.error (.unknownFunction function)))) :
    P _ (callMethod host root receiver name args) (callMethod host' root receiver name args') := by
  unfold callMethod
  rw [handed.length_eq]
  split
  · exact begins.of_related (keeps.known (.typeError _))
  · have methods := ownMethod?_begun keeps hosts begins receiver name handed
    generalize ownMethod? host root receiver name = method at methods ⊢
    generalize ownMethod? host' root receiver name = method' at methods ⊢
    cases methods with
    | some arity runs => exact begins.checked (arity.check_known name _) runs
    | none =>
      dsimp only
      split
      next =>
        exact begins.checked (Arity.check_known _ name _) (begins.of_related (keeps.pure _))
      next other =>
        split
        next => exact begins.of_related (keeps.known (.typeError _))
        next unlisted =>
          exact begins.of_related (unknown (Bool.eq_false_iff.mpr unlisted) other _)

end

include keeps hosts in
/-- A method is called alike on the same arguments. -/
theorem callMethod_sequenced (receiver : Value) (name : String) (args : List Value)
    (unknown : isMethodName name = false → name ≠ "toString" → ∀ function,
      R Value (lift (.error (.unknownFunction function)))
        (lift (.error (.unknownFunction function)))) :
    R _ (callMethod host root receiver name args) (callMethod host' root receiver name args) := by
  have begins := hosts.begins keeps root
  exact callMethod_begun keeps hosts begins receiver name
    (.refl (fun i v => begins.handed_same (callback? receiver name i) v) 0 args) unknown

end

section
variable (keeps : Congruence R) (hosts : host.Related R host') (root : Value)
include keeps hosts

theorem callMethod_related (receiver : Value) (name : String) (args : List Value) :
    R _ (callMethod host root receiver name args) (callMethod host' root receiver name args) :=
  callMethod_sequenced keeps.sequenced hosts.toCallbacksRelated root receiver name args
    fun _ _ _ => keeps.result _

theorem GlobalFunction.run_related (f : GlobalFunction) (args : List Value) :
    R _ (f.run host root args) (f.run host' root args) := by
  cases f with
  | decodeComponent =>
    unfold GlobalFunction.run
    dsimp only
    split
    · exact keeps.pure _
    · exact keeps.pure _
  | evaluate =>
    unfold GlobalFunction.run
    dsimp only
    split
    · exact hosts.evalText _ _
    · exact keeps.pure _
  | jsonPath => exact hosts.resolvePath _ _
  | _ => exact keeps.pure _

theorem callGlobal_related (name : String) (args : List Value) :
    R _ (callGlobal host root name args) (callGlobal host' root name args) := by
  unfold callGlobal
  split
  · exact keeps.result _
  · exact keeps.bind (keeps.result _) fun _ =>
      GlobalFunction.run_related keeps hosts root _ args

end

end DocExpr.Library
