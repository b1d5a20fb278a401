import DocExpr.Proofs.Evaluation.Callbacks
import DocExpr.Proofs.Library.TextLength
import DocExpr.Proofs.Library.Unchecked
import DocExpr.Proofs.Path.Parts

/-! How long the strings are that the functions of the library return, the unchecked ones apart.
Those that measure what they put together stay within the limit of the host, and those that only
cut out, decode or hand on what they were given stay within what that was. -/
namespace DocExpr
open EvalM (Always Ensures Returns)
open Value (StringsWithin TextWithin)

theorem Value.stringsWithin_inherited (limit : Nat) : Value.Inherited (StringsWithin limit) where
  null := Value.null_within
  length _ := Value.stringsWithin_leaf trivial rfl
  part within isPart := fun s inside => within s (.of_part isPart inside)

namespace Library
variable {limit : Nat}

theorem arg_within {args : List Value} (given : ∀ v ∈ args, v.StringsWithin limit) (i : Nat) :
    (arg args i).StringsWithin limit := by
  rw [arg, List.getD_eq_getElem?_getD]
  cases found : args[i]? with
  | none => exact Value.null_within
  | some v => exact given v (List.mem_of_getElem? found)

theorem matchText_within (text : Array Char) (v : Value) :
    ∀ w, matchText text v = .ok w → w.TextWithin limit := by
  intro w found
  obtain ⟨⟨program, all⟩, -, found⟩ := Expr.ok_of_bind found
  cases all with
  | true =>
    simp only [if_true] at found
    split at found <;> cases found <;> trivial
  | false =>
    simp only [Bool.false_eq_true, if_false] at found
    split at found <;> cases found <;> trivial

theorem searchText_within (text : Array Char) (v : Value) :
    ∀ w, searchText text v = .ok w → w.TextWithin limit := by
  intro w found
  obtain ⟨⟨program, all⟩, -, found⟩ := Expr.ok_of_bind found
  dsimp only at found
  split at found <;> cases found <;> trivial

theorem splitText_within (cs : List Char) (args : List Value) :
    ∀ w, splitText cs args = .ok w → w.TextWithin limit := by
  intro w found
  obtain ⟨pieces, -, found⟩ := Expr.ok_of_bind found
  cases found
  trivial

theorem positionValue_within (position : Option Nat) :
    (positionValue position).TextWithin limit := by
  cases position <;> trivial

theorem TextMethod.run_within {m : TextMethod} {host : Host} {s : String}
    (checked : m.isUnchecked host.maxStringLength = false)
    (own : s.utf8ByteSize ≤ host.maxStringLength) (root : Value) (args : List Value) :
    (m.run host root s args).Always (TextWithin host.maxStringLength) := by
  have cut : ∀ {cs}, List.Sublist cs s.toList → (Value.ofChars cs).TextWithin _ :=
    fun sublist => (size_ofList_le sublist).trans own
  cases m with
  | camelCase | capitalize | kebabCase | lowerFirst | replace | replaceAll | snakeCase | sprintf
  | toLowerCase | toUpperCase | upperFirst => cases checked
  | charAt => exact .pure (cut (charAtText_sublist _ args))
  | concat =>
    exact Always.bind (.lift fun t built => appendAll_size own built) fun t short => .pure short
  | repeated =>
    refine .lift fun v built => ?_
    obtain ⟨t, rfl, short⟩ := repeatText_size (by simpa [isUnchecked] using checked) built
    exact short
  | matchRegex => exact .lift (matchText_within _ _)
  | search => exact .lift (searchText_within _ _)
  | slice => exact .pure (cut (between_sublist _ _ _))
  | split => exact .lift (splitText_within _ args)
  | substr => exact .pure (cut (substrText_sublist _ args))
  | substring => exact .pure (cut (between_sublist _ _ _))
  | trim => exact .pure (cut (Text.trim_sublist _))
  | trimLeft => exact .pure (cut (Text.trimLeft_sublist _))
  | trimRight => exact .pure (cut (Text.trimRight_sublist _))
  | indexOf | lastIndexOf => exact .pure (positionValue_within _)
  | _ => exact .pure trivial

/-- The function, called with what holds short strings, returns such. -/
def Host.CallsWithin (limit : Nat) (on : Evaluator → Prop) (host : Host) (root : Value)
    (f : Lambda Value) : Prop :=
  ∀ xs, (∀ x ∈ xs, x.StringsWithin limit) → (host.call f xs root).Ensures on (StringsWithin limit)

section
variable {on : Evaluator → Prop} {host : Host} {root : Value}

theorem findItem_mem (f : Lambda Value) (array : Value) (i : Nat) (items : List Value) :
    (findItem host root f array i items).Always fun found => ∀ p ∈ found, p.2 ∈ items := by
  induction items generalizing i with
  | nil => exact .pure fun p isIn => by cases isIn
  | cons v vs ih =>
    refine .last fun accepted => ?_
    split
    · refine .pure fun p isIn => ?_
      cases isIn
      exact List.mem_cons_self
    · exact (ih (i + 1)).mono fun found among p isIn => List.mem_cons_of_mem v (among p isIn)

theorem reduceItems_within {f : Lambda Value} (calls : host.CallsWithin limit on root f)
    {array acc : Value} (whole : array.StringsWithin limit) (start : acc.StringsWithin limit)
    {items : List (Value × Nat)} (each : ∀ item ∈ items, item.1.StringsWithin limit) :
    (reduceItems host root f array acc items).Returns on (StringsWithin limit) := by
  induction items generalizing acc with
  | nil => exact .pure start
  | cons item rest ih =>
    obtain ⟨first, others⟩ := List.forall_mem_cons.mp each
    refine .bind (calls _ ?_) fun acc within => ih within others
    simp only [List.forall_mem_cons]
    have index : (Value.ofNat item.2).StringsWithin limit := Value.stringsWithin_leaf trivial rfl
    exact ⟨start, first, index, whole, fun _ isIn => by cases isIn⟩

theorem reduceArray_within {f : Lambda Value} (calls : host.CallsWithin limit on root f)
    {array : Value} (whole : array.StringsWithin limit) {initial : Option Value}
    (start : ∀ v ∈ initial, v.StringsWithin limit) {items : List (Value × Nat)}
    (each : ∀ item ∈ items, item.1.StringsWithin limit) :
    (reduceArray host root f array initial items).Returns on (StringsWithin limit) := by
  unfold reduceArray
  split
  · exact reduceItems_within calls whole (start _ rfl) each
  · obtain ⟨first, others⟩ := List.forall_mem_cons.mp each
    exact reduceItems_within calls whole first others
  · exact .lift fun v failed => by cases failed

theorem ArrayMethod.run_within {m : ArrayMethod} (checked : m.isUnchecked = false)
    {items args : List Value} (own : ∀ v ∈ items, v.StringsWithin limit)
    (given : ∀ v ∈ args, v.StringsWithin limit)
    (callbacks : ∀ i params, m.callback? i = some params →
      (host.callable (arg args i) params).Ensures on (host.CallsWithin limit on root)) :
    (m.run host root items args).Returns on (TextWithin limit) := by
  have start : ∀ v ∈ args[1]?, v.StringsWithin limit := fun v isIn =>
    given v (List.mem_of_getElem? isIn)
  have numbered : ∀ item ∈ items.zipIdx, item.1.StringsWithin limit := fun item isIn =>
    own item.1 (List.fst_mem_of_mem_zipIdx isIn)
  have whole := Value.stringsWithin_array own
  cases m with
  | join | toText => cases checked
  | find =>
    refine .last fun f => Always.bind (findItem_mem f _ 0 items) fun found among => ?_
    split
    · exact .pure (own _ (among _ rfl)).text
    · exact .pure trivial
  | reduce =>
    refine .bind (callbacks 0 reduceParams rfl) fun f calls => ?_
    exact (reduceArray_within calls whole start numbered).mono fun v within => within.text
  | reduceRight =>
    refine .bind (callbacks 0 reduceParams rfl) fun f calls => ?_
    have reversed : ∀ item ∈ items.zipIdx.reverse, item.1.StringsWithin limit :=
      fun item isIn => numbered item (List.mem_reverse.mp isIn)
    exact (reduceArray_within calls whole start reversed).mono fun v within => within.text
  | indexOf | lastIndexOf => exact .pure (positionValue_within _)
  | findIndex => exact .last fun f => .last fun found => .pure (positionValue_within _)
  | filter | map => exact .last fun f => .last fun vs => .pure trivial
  | toObject =>
    refine .last fun key => ?_
    split
    · exact .last fun value => .last fun es => .pure trivial
    · exact .last fun value => .last fun es => .pure trivial
  | sort =>
    unfold ArrayMethod.run
    dsimp only
    split
    · exact .pure trivial
    · exact .pure trivial
    · exact .last fun f => .last fun vs => .pure trivial
  | _ => exact .pure trivial

theorem firstValue_within {es : Entries Value} (own : (Value.object es).StringsWithin limit)
    {args : List Value} (given : ∀ v ∈ args, v.StringsWithin limit) :
    (firstValue es args).StringsWithin limit := by
  have inherited := Value.stringsWithin_inherited limit
  have chosen : ∀ (keys : List Value) (default : Value), default.StringsWithin limit →
      ((keys.findSome? fun k => es.find? k.display).getD default).StringsWithin limit := by
    intro keys default short
    cases found : keys.findSome? fun k => es.find? k.display with
    | none => exact short
    | some v =>
      obtain ⟨k, -, found⟩ := List.exists_of_findSome?_eq_some found
      exact inherited.part own (Path.find?_mem_parts found)
  unfold firstValue
  split
  next keys default same =>
    split at same <;> cases same
    · exact chosen _ _ (arg_within given 1)
    · exact chosen _ _ inherited.null

theorem ObjectMethod.run_within (m : ObjectMethod) {es : Entries Value}
    (own : (Value.object es).StringsWithin limit) {args : List Value}
    (given : ∀ v ∈ args, v.StringsWithin limit) :
    (m.run host root es args).Always (TextWithin limit) := by
  have inherited := Value.stringsWithin_inherited limit
  cases m with
  | get =>
    refine .pure (StringsWithin.text ?_)
    cases found : Path.lookupExact? (.object es) (pathArg (arg args 0)) with
    | none => exact arg_within given 1
    | some v => exact Path.lookupExact?_inherited inherited own found
  | getFirst => exact .pure (firstValue_within own given).text
  | filter | mapKeys | mapValues => exact .last fun f => .last fun es => .pure trivial
  | _ => exact .pure trivial

end

theorem DateMethod.run_within {m : DateMethod} (checked : m.isUnchecked = false) (name : String)
    (d : Calendar.Date) (args : List Value) :
    ∀ v, m.run name d args = .ok v → v.TextWithin limit := by
  intro v ran
  cases m with
  | isoText | localText => cases checked
  | get =>
    cases ran
    trivial
  | plus | minus | set =>
    obtain ⟨n, -, ran⟩ := Expr.ok_of_bind ran
    obtain ⟨d, -, ran⟩ := Expr.ok_of_bind ran
    cases ran
    trivial

theorem textArg_cons (v : Value) (args : List Value) : textArg (v :: args) 0 = v.display := rfl

theorem runParse_within {args : List Value} (given : ∀ v ∈ args, v.StringsWithin limit) :
    ∀ v, JsonFunction.parse.run args = .ok v → v.TextWithin limit := by
  intro v ran
  simp only [JsonFunction.run] at ran
  split at ran
  next w read =>
    cases ran
    cases v with
    | string s =>
      have size := Json.readJson?_size read
      cases args with
      | nil => exact size.trans (Nat.zero_le limit)
      | cons a args =>
        rw [textArg_cons] at read size
        cases a with
        | string t => exact size.trans (given _ List.mem_cons_self).text
        | _ => exact absurd read (Json.display_opensNoString (by simp)).readJson?
    | _ => trivial
  next => cases ran

theorem SpaceFunction.run_within {f : SpaceFunction} (checked : f.isUnchecked = false)
    (ambient : Ambient) {args : List Value} (given : ∀ v ∈ args, v.StringsWithin limit) :
    ∀ v, f.run ambient args = .ok v → v.TextWithin limit := by
  intro v ran
  cases f with
  | math f =>
    cases ran
    cases f with
    | randomIdentifier => cases checked
    | _ => trivial
  | json f =>
    cases f with
    | stringify => cases checked
    | parse => exact runParse_within given v ran
  | date kind f =>
    cases ran
    unfold DateFunction.run
    split
    · trivial
    · split <;> trivial
    · split <;> trivial

theorem GlobalFunction.run_within {on : Evaluator → Prop} {host : Host} {root : Value}
    {f : GlobalFunction} {args : List Value} (checked : f.isUnchecked args = false)
    (given : ∀ v ∈ args, v.StringsWithin limit)
    (texts : f = .evaluate → ∀ s, arg args 0 = .string s →
      (host.evalText s (args.getD 1 root)).Returns on (TextWithin limit))
    (paths : ∀ path, (host.resolvePath (arg args 0) path).Returns on (TextWithin limit)) :
    (f.run host root args).Returns on (TextWithin limit) := by
  have first := (arg_within given 0).text
  cases f with
  | encodeComponent => cases checked
  | decodeComponent =>
    cases args with
    | nil => cases checked
    | cons a args =>
      cases a with
      | string s =>
        unfold GlobalFunction.run
        dsimp only
        split
        next t decoded =>
          exact .pure ((Text.Percent.decode?_size decoded).trans first)
        next => exact .pure trivial
      | _ => cases checked
  | evaluate =>
    unfold GlobalFunction.run
    dsimp only
    split
    next text same => exact texts rfl text same
    next => exact .pure first
  | jsonPath => exact paths _
  | _ => exact .pure trivial

section
variable {on : Evaluator → Prop} {host : Host} {root receiver : Value} {name : String}
  (checked : isUncheckedMethod host.maxStringLength receiver name = false)
  (own : receiver.StringsWithin host.maxStringLength) {args : List Value}
  (given : ∀ v ∈ args, v.StringsWithin host.maxStringLength)
  (callbacks : ∀ i params, callback? receiver name i = some params →
    (host.callable (arg args i) params).Ensures on
      (host.CallsWithin host.maxStringLength on root))
include checked own given callbacks

theorem ownMethod?_within {arity : Arity} {run : List Value → EvalM Value}
    (found : ownMethod? host root receiver name = some (arity, run)) :
    (run args).Returns on (TextWithin host.maxStringLength) := by
  have own' := own.text
  cases receiver with
  | string s =>
    obtain ⟨⟨m, _⟩, named, same⟩ := Option.map_eq_some_iff.mp found
    cases same
    simp only [isUncheckedMethod, named, Option.any_some] at checked
    exact (TextMethod.run_within checked own' root args).returns
  | array items =>
    obtain ⟨⟨m, _⟩, named, same⟩ := Option.map_eq_some_iff.mp found
    cases same
    simp only [isUncheckedMethod, named, Option.any_some, Bool.or_eq_false_iff] at checked
    simp only [callback?, named, Option.bind_some] at callbacks
    have inherited := Value.stringsWithin_inherited host.maxStringLength
    exact ArrayMethod.run_within checked.2 (fun v isIn => inherited.part own isIn) given callbacks
  | object es =>
    obtain ⟨⟨m, _⟩, named, same⟩ := Option.map_eq_some_iff.mp found
    cases same
    exact (m.run_within own given).returns
  | date d =>
    obtain ⟨⟨m, _⟩, named, same⟩ := Option.map_eq_some_iff.mp found
    cases same
    simp only [isUncheckedMethod, named, Option.any_some, Bool.or_eq_false_iff] at checked
    exact .lift (DateMethod.run_within checked.2 name d args)
  | number => cases checked
  | _ => cases found

theorem callMethod_within :
    (callMethod host root receiver name args).Returns on (TextWithin host.maxStringLength) := by
  have failed : ∀ fault, (lift (.error fault)).Returns on (TextWithin host.maxStringLength) :=
    fun fault => .lift fun v failed => by cases failed
  unfold callMethod
  split
  · exact failed _
  · split
    next arity run found =>
      exact .check fun _ _ => ownMethod?_within checked own given callbacks found
    next =>
      split
      next named =>
        refine .check fun _ _ => .pure ?_
        subst named
        cases receiver with
        | string s => exact own.text
        | _ => cases checked
      next =>
        split
        · exact failed _
        · exact failed _

end

theorem callNamespace_within {space name : String}
    (checked : ((spaceCatalog space).find? name).any (·.1.isUnchecked) = false)
    (ambient : Ambient) {args : List Value} (given : ∀ v ∈ args, v.StringsWithin limit) :
    ∀ v, callNamespace ambient space name args = .ok v → v.TextWithin limit := by
  intro v called
  unfold callNamespace at called
  split at called
  · cases called
  next f arity found =>
    obtain ⟨_, -, ran⟩ := Expr.ok_of_bind called
    rw [found, Option.any_some] at checked
    exact SpaceFunction.run_within checked ambient given v ran

theorem callGlobal_within {on : Evaluator → Prop} {host : Host} {root : Value} {name : String}
    {args : List Value}
    (checked : (GlobalFunction.catalog.find? name).any (·.1.isUnchecked args) = false)
    (given : ∀ v ∈ args, v.StringsWithin limit)
    (texts : ∀ arity, GlobalFunction.catalog.find? name = some (.evaluate, arity) →
      ∀ s, arg args 0 = .string s →
        (host.evalText s (args.getD 1 root)).Returns on (TextWithin limit))
    (paths : ∀ path, (host.resolvePath (arg args 0) path).Returns on (TextWithin limit)) :
    (callGlobal host root name args).Returns on (TextWithin limit) := by
  unfold callGlobal
  split
  · exact .lift fun v failed => by cases failed
  next f arity found =>
    rw [found, Option.any_some] at checked
    refine .check fun _ _ => GlobalFunction.run_within checked given (fun same => ?_) paths
    exact texts arity (by rw [found, same])

end Library
end DocExpr
