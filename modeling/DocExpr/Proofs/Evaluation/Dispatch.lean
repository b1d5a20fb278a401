import DocExpr.Proofs.Evaluation.Callbacks
import DocExpr.Proofs.Evaluation.Run
import DocExpr.Proofs.Library.Names

/-! Calls of methods by name. A function is unknown exactly if its name is in no catalog; no method
reports that of itself, and what a method calls reports it only if the host does. A name in the
catalog of a kind is one that its methods know, and the method finds the arguments that it takes. -/
namespace DocExpr

/-- On no evaluator the computation reports that a function is unknown. -/
def EvalM.KnowsFunctions {α : Type} (act : EvalM α) : Prop :=
  ∀ ev, DocExpr.KnowsFunctions (act.runOn ev).1

theorem EvalM.knowsFunctions_sequenced :
    Sequenced fun _ act _ => act.KnowsFunctions where
  known known _ := known
  limit fault _ _ := .limit fault
  bind first next ev := by
    rw [runOn_bind]
    have knownFirst := first ev
    split
    next a _ => exact next a _
    next e failed =>
      rw [failed] at knownFirst
      intro function same
      cases same
      exact knownFirst function rfl

namespace Library

/-- No callback of the host reports that a function is unknown. -/
structure Host.KnowsFunctions (host : Host) : Prop where
  callable : ∀ v params, (host.callable v params).KnowsFunctions
  call : ∀ f args root, (host.call f args root).KnowsFunctions

theorem Host.KnowsFunctions.related {host : Host} (callbacks : host.KnowsFunctions) :
    host.CallbacksRelated (fun _ act _ => act.KnowsFunctions) host where
  callable := callbacks.callable
  call := callbacks.call
  maxStringLength := Nat.le_refl _

section
variable {host : Host} {root receiver : Value} {name : String} {args : List Value}

theorem callMethod_known (callbacks : host.KnowsFunctions)
    (named : name ∈ methodNames ∨ name = "toString") :
    (callMethod host root receiver name args).KnowsFunctions := by
  refine callMethod_sequenced EvalM.knowsFunctions_sequenced callbacks.related root receiver name
    args fun unlisted other => ?_
  obtain listed | toText := named
  · rw [isMethodName_iff.mpr listed] at unlisted
    cases unlisted
  · exact absurd toText other

theorem ownMethod?_unlisted (unlisted : name ∉ methodNames) :
    ownMethod? host root receiver name = none := by
  simp only [methodNames, List.mem_append, not_or, ← Catalog.has_iff, Catalog.has,
    Option.not_isSome_iff_eq_none] at unlisted
  obtain ⟨⟨⟨⟨text, number⟩, array⟩, object⟩, date⟩ := unlisted
  cases receiver with
  | string s => rw [ownMethod?, text, Option.map_none]
  | number x => rw [ownMethod?, number, Option.map_none]
  | array items => rw [ownMethod?, array, Option.map_none]
  | object es => rw [ownMethod?, object, Option.map_none]
  | date d => rw [ownMethod?, date, Option.map_none]
  | _ => rfl

theorem callMethod_unlisted (present : receiver ≠ .null) (unlisted : name ∉ methodNames)
    (other : name ≠ "toString") :
    callMethod host root receiver name args =
      lift (.error (.unknownFunction (receiver.kindName ++ "." ++ name))) := by
  rw [callMethod, if_neg (mt Value.eq_null_of_isNull present), ownMethod?_unlisted unlisted]
  dsimp only
  rw [if_neg other, if_neg (mt isMethodName_iff.mp unlisted)]

end

/-- Why a name alone runs no method. -/
inductive Missed where
  /-- No method of the kind has the name. -/
  | method
  /-- The method takes an argument that is not given. -/
  | argument
  deriving DecidableEq, Repr

/-- How many arguments a method of objects takes as they stand. Any other argument, and those of all
other methods, may be missing. -/
def ObjectMethod.taken : ObjectMethod → Nat
  | .getFirst => 1
  | _ => 0

/-- What a name alone makes of a call: the run of the method of the receiver's kind that the name
tells. No catalog is asked for the method, nor for the number of its arguments. -/
def reach (host : Host) (root receiver : Value) (name : String) (args : List Value) :
    Except Missed (EvalM Value) :=
  match receiver with
  | .string s => told (TextMethod.named? name) fun m => .ok (m.run host root s args)
  | .number x => told (NumberMethod.named? name) fun m => .ok (lift (m.run x args))
  | .array items => told (ArrayMethod.named? name) fun m => .ok (m.run host root items args)
  | .object es =>
    told (ObjectMethod.named? name) fun m =>
      if args.length < m.taken then .error .argument else .ok (m.run host root es args)
  | .date d => told (DateMethod.named? name) fun m => .ok (lift (m.run name d args))
  | _ => .error .method
where
  /-- Goes on with a method, if there is one. -/
  told {α : Type} (method : Option α) (run : α → Except Missed (EvalM Value)) :
      Except Missed (EvalM Value) :=
    match method with
    | some m => run m
    | none => .error .method

section
variable (host : Host) (root : Value) {receiver : Value} {name : String} {args : List Value}
  {arity : Arity}

theorem lookup_signatures :
    (signatures receiver).lookup name = (ownMethod? host root receiver name).map (·.1) := by
  cases receiver with
  | string s => exact Catalog.lookup_signatures (TextMethod.run · host root s)
  | number x => exact Catalog.lookup_signatures (lift ∘ NumberMethod.run · x)
  | array items => exact Catalog.lookup_signatures (ArrayMethod.run · host root items)
  | object es => exact Catalog.lookup_signatures (ObjectMethod.run · host root es)
  | date d => exact Catalog.lookup_signatures (lift ∘ DateMethod.run · name d)
  | _ => rfl

variable {host root}

/-- The arguments that a method takes are at least those that its arity asks for. -/
theorem ObjectMethod.taken_le {m : ObjectMethod} (listed : (name, m, arity) ∈ catalog)
    (fits : arity.admits args.length = true) : m.taken ≤ args.length := by
  have asked : ∀ e ∈ catalog, e.2.1.taken ≤ e.2.2.least := by decide
  have least : arity.least ≤ args.length := of_decide_eq_true (Bool.and_eq_true_iff.mp fits).1
  exact Nat.le_trans (asked _ listed) least

theorem reach_own {run : List Value → EvalM Value}
    (own : ownMethod? host root receiver name = some (arity, run))
    (fits : arity.admits args.length = true) :
    reach host root receiver name args = .ok (run args) := by
  cases receiver with
  | string s =>
    obtain ⟨m, -, told, rfl⟩ :=
      TextMethod.catalog_tells.of_found (TextMethod.run · host root s) own
    rw [reach, told]
    rfl
  | number x =>
    obtain ⟨m, -, told, rfl⟩ :=
      NumberMethod.catalog_tells.of_found (lift ∘ NumberMethod.run · x) own
    rw [reach, told]
    rfl
  | array items =>
    obtain ⟨m, -, told, rfl⟩ :=
      ArrayMethod.catalog_tells.of_found (ArrayMethod.run · host root items) own
    rw [reach, told]
    rfl
  | object es =>
    obtain ⟨m, listed, told, rfl⟩ :=
      ObjectMethod.catalog_tells.of_found (ObjectMethod.run · host root es) own
    have given := ObjectMethod.taken_le listed fits
    rw [reach, told]
    exact if_neg (Nat.not_lt.mpr given)
  | date d =>
    obtain ⟨m, -, told, rfl⟩ :=
      DateMethod.catalog_tells.of_found (lift ∘ DateMethod.run · name d) own
    rw [reach, told]
    rfl
  | _ => cases own

theorem reach.of_told {α : Type} {method : Option α} {run : α → Except Missed (EvalM Value)}
    {act : EvalM Value} (reached : told method run = .ok act) : ∃ m, method = some m := by
  cases method with
  | none => cases reached
  | some m => exact ⟨m, rfl⟩

/-- What a name alone runs is listed for the receiver's kind, but for two getters of dates. -/
theorem listed_of_reach {act : EvalM Value}
    (reached : reach host root receiver name args = .ok act) :
    name ∈ (signatures receiver).map (·.1) ∨
      (∃ d, receiver = .date d) ∧ name ∈ unlistedGetters := by
  cases receiver with
  | string s =>
    obtain ⟨m, told⟩ := reach.of_told reached
    exact .inl (Catalog.mem_signatures.mpr (TextMethod.listed told))
  | number x =>
    obtain ⟨m, told⟩ := reach.of_told reached
    exact .inl (Catalog.mem_signatures.mpr (NumberMethod.listed told))
  | array items =>
    obtain ⟨m, told⟩ := reach.of_told reached
    exact .inl (Catalog.mem_signatures.mpr (ArrayMethod.listed told))
  | object es =>
    obtain ⟨m, told⟩ := reach.of_told reached
    exact .inl (Catalog.mem_signatures.mpr (ObjectMethod.listed told))
  | date d =>
    obtain ⟨m, told⟩ := reach.of_told reached
    exact (DateMethod.listed told).imp Catalog.mem_signatures.mpr
      fun unlisted => ⟨⟨d, rfl⟩, unlisted⟩
  | _ => cases reached

end

/-- The catalogs and the methods agree, if no callback reports an unknown function. A method is
unknown exactly if its name is in no catalog and is not the one that every value answers to; and a
name in the catalog of the receiver's kind tells by itself the method that the call runs, if the
number of arguments fits. -/
theorem catalogs_implemented (host : Host) (root : Value) {receiver : Value}
    (present : receiver ≠ .null) (callbacks : host.KnowsFunctions) (name : String)
    (args : List Value) :
    (∀ ev, (∃ function, ((callMethod host root receiver name args).runOn ev).1 =
        .error (.unknownFunction function)) ↔ name ∉ methodNames ∧ name ≠ "toString") ∧
      ∀ arity, (signatures receiver).lookup name = some arity →
        arity.admits args.length = true →
        reach host root receiver name args = .ok (callMethod host root receiver name args) := by
  refine ⟨fun ev => ⟨?_, ?_⟩, fun arity listed fits => ?_⟩
  · rintro ⟨function, unknown⟩
    exact not_or.mp fun named => callMethod_known callbacks named ev function unknown
  · rintro ⟨unlisted, other⟩
    rw [callMethod_unlisted present unlisted other]
    exact ⟨_, rfl⟩
  · rw [lookup_signatures host root] at listed
    obtain ⟨⟨_, run⟩, own, rfl⟩ := Option.map_eq_some_iff.mp listed
    rw [reach_own own fits, callMethod_own own (if_pos fits)]

/-- A host whose functions return their first argument; texts stand for none. -/
def Host.returning : Host where
  callable v _ :=
    match v with
    | .lambda f => pure f
    | v => lift (typeError (.notCallable v.kindName))
  call _ args _ := pure (arg args 0)
  evalText s _ := pure (.string s)
  resolvePath v _ := pure v
  maxStringLength := 0

theorem Host.returning_knows : Host.returning.KnowsFunctions where
  callable v _ _ := by
    cases v with
    | lambda f => exact .ok f
    | _ => exact .typeError _
  call _ args _ _ := .ok (arg args 0)

/-- The time is the same in every zone, and has one name only; the day has two. -/
theorem getUTCTime_unknown :
    let d : Calendar.Date := ⟨⟨19782, 45296, 789012345⟩, .dateTime⟩
    (∀ ev, ∃ function, ((callMethod .returning .null (.date d) "getUTCTime" []).runOn ev).1 =
        .error (.unknownFunction function)) ∧
      reach .returning .null (.date d) "getUTCDate" [] =
        .ok (callMethod .returning .null (.date d) "getUTCDate" []) ∧
      reach .returning .null (.object []) "getFirst" [.date d] =
        .ok (callMethod .returning .null (.object []) "getFirst" [.date d]) := by
  intro d
  have agree := fun (receiver : Value) (present : receiver ≠ .null) =>
    catalogs_implemented .returning .null present Host.returning_knows
  have unknown := (agree (.date d) nofun "getUTCTime" []).1
  have day := (agree (.date d) nofun "getUTCDate" []).2
  have first := (agree (.object []) nofun "getFirst" [.date d]).2
  exact ⟨fun ev => (unknown ev).mpr ⟨by decide, by decide⟩, day _ rfl rfl, first _ rfl rfl⟩

end Library
end DocExpr
