import DocExpr.Proofs.Calendar.RoundTrip
import DocExpr.Proofs.Calendar.Universal
import DocExpr.Proofs.Evaluation.Literals
import DocExpr.Proofs.Limits.Parsing

/-! Expressions on a date: its parts, and what is made of them again. -/
namespace DocExpr
open DocExpr.Calendar (Date)
open DocExpr.Expr (Node)
open DocExpr.Library (DateMethod DatePart lift)
open EvalM (Yields)

namespace Expr

/-- A method of the document without arguments. -/
def Node.ask (name : String) : Node := .method .root name []

end Expr

theorem Library.callMethod_date {name : String} {m : DateMethod} {arity : Arity}
    {args : List Value} (found : DateMethod.catalog.find? name = some (m, arity))
    (fits : arity.check name args.length = .ok ()) (host : Host) (root : Value) (d : Date) :
    callMethod host root (.date d) name args = lift (m.run name d args) := by
  have own : ownMethod? host root (.date d) name = some (arity, lift ∘ m.run name d) := by
    simp only [ownMethod?, found, Option.map_some]
  exact callMethod_own own fits

theorem Library.callNamespace_found {space name : String} {f : SpaceFunction} {arity : Arity}
    {args : List Value} (found : (spaceCatalog space).find? name = some (f, arity))
    (fits : arity.check name args.length = .ok ()) (ambient : Ambient) :
    callNamespace ambient space name args = f.run ambient args := by
  simp only [callNamespace, found, fits]
  rfl

theorem Library.runParse_text (kind : Calendar.Kind) (ambient : Ambient) (s : String) :
    DateFunction.parse.run kind ambient [.string s] =
      (if kind = .dateTime then Calendar.parseDefault s else Calendar.parseLocal s kind).elim
        .null .date := by
  have read : parseDate kind (arg [.string s] 0) [Value.string s][1]? =
      if kind = .dateTime then Calendar.parseDefault s else Calendar.parseLocal s kind := rfl
  simp only [DateFunction.run, read]
  split
  next d found => rw [found, Option.elim_some]
  next none => rw [none, Option.elim_none]

namespace Eval
variable {d : Date} {name : String}

theorem yields_ask {m : DateMethod} {v : Value}
    (found : DateMethod.catalog.find? name = some (m, .exact 0)) (ran : m.run name d [] = .ok v)
    (n : Nat) : Yields (levels (n + 2) (.ask name) (.date d)) 2 v :=
  yields_method (yields_root n) .nil fun host => by rw [Library.callMethod_date found rfl, ran]

theorem yields_get {part : DatePart}
    (found : DateMethod.catalog.find? name = some (.get part, .exact 0)) (n : Nat) :
    Yields (levels (n + 2) (.ask name) (.date d)) 2 (.number (part.read d)) :=
  yields_ask found rfl n

end Eval

/-- An expression that evaluates within some depth and some steps evaluates within any more. -/
theorem evaluate_of_small {text : String} {depth : Nat} {tree : Node} {document v : Value}
    {steps : Nat} (parsed : Expr.parseWithDepth text depth = .ok tree)
    (yields : ∀ n, Yields (Eval.levels (n + depth) tree document) steps v) {options : Options}
    (deep : depth ≤ options.maxDepth) (enough : steps ≤ options.maxSteps) (label : Nat) :
    evaluate text document options label = .ok v := by
  have deeper := Expr.parseWithDepth_deeper deep parsed
  obtain ⟨n, depth_eq⟩ := Nat.exists_eq_add_of_le' deep
  have here := yields n
  rw [← depth_eq] at here
  exact evaluate_of_yields deeper here enough label

/-- The milliseconds of the parts of the document, which is a date. -/
def utcOfParts : String :=
  "Date.UTC($.getFullYear(), $.getMonth() - 1, $.getDate(), $.getHours(), $.getMinutes(), " ++
    "$.getSeconds(), $.getMilliseconds())"

/-- The tree of that expression. -/
def utcOfPartsTree : Node :=
  .namespaceCall "Date" "UTC" [.ask "getFullYear", .binary .subtract (.ask "getMonth") (.number 1.0),
    .ask "getDate", .ask "getHours", .ask "getMinutes", .ask "getSeconds", .ask "getMilliseconds"]

theorem toList_append_of {s t : String} {cs ds : List Char} (front : s.toList = cs)
    (back : t.toList = ds) : (s ++ t).toList = cs ++ ds := by
  rw [String.toList_append, front, back]

set_option maxRecDepth 2000 in
theorem parse_utcOfParts : Expr.parseWithDepth utcOfParts 8 = .ok utcOfPartsTree := by
  have chars : utcOfParts.toList = _ :=
    toList_append_of String.toList_ofList String.toList_ofList
  exact Expr.parseWithDepth_of_chars chars rfl

set_option maxRecDepth 2000 in
theorem parse_utcOfParts_same : Expr.parseWithDepth (utcOfParts ++ " === $.getTime()") 8 =
    .ok (.binary .strictEqual utcOfPartsTree (.ask "getTime")) := by
  have chars : (utcOfParts ++ " === $.getTime()").toList = _ :=
    toList_append_of (toList_append_of String.toList_ofList String.toList_ofList)
      String.toList_ofList
  exact Expr.parseWithDepth_of_chars chars rfl

/-- The number for milliseconds that may not be represented. -/
def numberOfMillis (ms : Option Int) : Value :=
  .number (ms.elim Number.nan Number.ofInt)

theorem yields_utcOfParts (d : Date) (n : Nat) :
    Yields (Eval.levels (n + 4) utcOfPartsTree (.date d)) 17
      (numberOfMillis (Calendar.utcMillis? d.instant.parts)) := by
  have part (name : String) (part : DatePart)
      (found : DateMethod.catalog.find? name = some (.get part, .exact 0)) (n : Nat) :=
    Eval.yields_get (d := d) found n
  have month : Yields (Eval.levels (n + 3) (.binary .subtract (.ask "getMonth") (.number 1.0))
      (.date d)) 4 (.number (Float.ofNat d.instant.civil.month - 1.0)) :=
    Eval.yields_binary (l := 1) (part "getMonth" .month rfl n) (Eval.yields_level (.pure _)) rfl
      fun _ => rfl
  have operands : Eval.Operands (Eval.levels (n + 3)) (.date d) _ 16 (d.instant.parts.map .number) :=
    .cons (part "getFullYear" .year rfl (n + 1)) (.cons month
      (.cons (part "getDate" .dayOfMonth rfl (n + 1)) (.cons (part "getHours" .hours rfl (n + 1))
        (.cons (part "getMinutes" .minutes rfl (n + 1))
          (.cons (part "getSeconds" .seconds rfl (n + 1))
            (.cons (part "getMilliseconds" .milliseconds rfl (n + 1)) .nil))))))
  refine Eval.yields_namespaceCall operands fun ambient => ?_
  have numbers : (d.instant.parts.map Value.number).map Value.toNumber = d.instant.parts := rfl
  rw [Library.callNamespace_found (f := .date .dateTime .utc) rfl rfl, Library.SpaceFunction.run,
    Library.DateFunction.run, numbers]
  cases Calendar.utcMillis? d.instant.parts <;> rfl

theorem yields_getTime (d : Date) (n : Nat) :
    Yields (Eval.levels (n + 2) (.ask "getTime") (.date d)) 2
      (.number (Number.ofInt d.instant.millis)) :=
  Eval.yields_ask (m := .get .time) rfl rfl n

theorem Calendar.Instant.Represented.numberOfMillis_parts {t : Calendar.Instant}
    (represented : t.Represented) : numberOfMillis (Calendar.utcMillis? t.parts) =
      .number (if t.inBounds then Number.ofInt t.millis else Number.nan) := by
  rw [represented.utcMillis?_parts]
  cases t.inBounds <;> rfl

theorem nan_ne (x : Float) : (Number.nan == x) = false := by
  rw [Bool.eq_false_iff]
  intro equal
  cases (Number.beq_iff.mp equal).1

section
variable {d : Date} {options : Options} (deep : 8 ≤ options.maxDepth)
  (enough : 20 ≤ options.maxSteps) (label : Nat)
include deep enough

theorem evaluate_getTime (d : Date) : evaluate "$.getTime()" (.date d) options label =
    .ok (.number (Number.ofInt d.instant.millis)) := by
  have parsed : Expr.parseWithDepth "$.getTime()" 8 = .ok (.ask "getTime") := rfl
  exact evaluate_of_small parsed (fun n => yields_getTime d (n + 6)) deep (by omega) label

theorem evaluate_utcOfParts (represented : d.instant.Represented) :
    evaluate utcOfParts (.date d) options label =
      .ok (.number (if d.instant.inBounds then Number.ofInt d.instant.millis else Number.nan)) := by
  rw [← represented.numberOfMillis_parts]
  exact evaluate_of_small parse_utcOfParts (fun n => yields_utcOfParts d (n + 4)) deep (by omega)
    label

theorem evaluate_utcOfParts_same (represented : d.instant.Represented) :
    evaluate (utcOfParts ++ " === $.getTime()") (.date d) options label =
      .ok (.bool d.instant.inBounds) := by
  have counts := Number.counts_ofInt represented.millis_small
  have same : (Number.ofInt d.instant.millis == Number.ofInt d.instant.millis) = true :=
    Number.beq_self counts.isFinite
  refine evaluate_of_small parse_utcOfParts_same (fun n => ?_) deep enough label
  refine Eval.yields_binary (yields_utcOfParts d (n + 3)) (yields_getTime d (n + 5)) rfl
    fun limit => ?_
  rw [represented.numberOfMillis_parts]
  cases d.instant.inBounds
  · exact congrArg (Except.ok ∘ Value.bool) (nan_ne _)
  · exact congrArg (Except.ok ∘ Value.bool) same

/-- The parts of a date lead back to its milliseconds, but for a leap second after the last second
of all. -/
theorem utc_inverts_getters (represented : d.instant.Represented) :
    (d.instant.inBounds = true ↔ ¬ (d.instant.day = 95026236 ∧ d.instant.second = 86399 ∧
        1000000000 ≤ d.instant.nano)) ∧
      evaluate "$.getTime()" (.date d) options label =
        .ok (.number (Number.ofInt d.instant.millis)) ∧
      evaluate utcOfParts (.date d) options label =
        .ok (.number (if d.instant.inBounds then Number.ofInt d.instant.millis else Number.nan)) ∧
      evaluate (utcOfParts ++ " === $.getTime()") (.date d) options label =
        .ok (.bool d.instant.inBounds) := by
  refine ⟨represented.inBounds_iff, ?_, ?_, ?_⟩
  · exact evaluate_getTime deep enough label d
  · exact evaluate_utcOfParts deep enough label represented
  · exact evaluate_utcOfParts_same deep enough label represented

end

/-- Half a second after midnight between February and March is a leap second here. -/
theorem leap_second_inverted :
    let d : Date := ⟨⟨19782, 86399, 1500000000⟩, .localDateTime⟩
    d.instant.Represented ∧ d.instant.civil = ⟨2024, 2, 29⟩ ∧
      evaluate (utcOfParts ++ " === $.getTime()") (.date d) {} 0 = .ok (.bool true) := by
  intro d
  have represented : d.instant.Represented := ⟨by decide, by decide, by decide⟩
  have deep : 8 ≤ ({} : Options).maxDepth := by decide
  have inBounds : d.instant.inBounds = true := by decide
  obtain ⟨-, -, -, same⟩ := utc_inverts_getters deep (by decide) 0 represented
  rw [inBounds] at same
  exact ⟨represented, by decide, same⟩

/-- No milliseconds lead to the leap second after the last second of all. -/
theorem last_leap_second_lost :
    let d : Date := ⟨⟨95026236, 86399, 1000000000⟩, .localDateTime⟩
    d.instant.Represented ∧ d.instant.civil = ⟨262142, 12, 31⟩ ∧
      evaluate "$.getTime()" (.date d) {} 0 = .ok (.number (Number.ofInt 8210266876800000)) ∧
      evaluate utcOfParts (.date d) {} 0 = .ok (.number Number.nan) ∧
      evaluate (utcOfParts ++ " === $.getTime()") (.date d) {} 0 = .ok (.bool false) := by
  intro d
  have represented : d.instant.Represented := ⟨by decide, by decide, by decide⟩
  have inBounds : d.instant.inBounds = false := by decide
  have deep : 8 ≤ ({} : Options).maxDepth := by decide
  have enough : 20 ≤ ({} : Options).maxSteps := by decide
  have utc := evaluate_utcOfParts deep enough 0 represented
  have same := evaluate_utcOfParts_same deep enough 0 represented
  have time := evaluate_getTime deep enough 0 d
  have millis : d.instant.millis = 8210266876800000 := by decide
  rw [inBounds] at utc same
  rw [millis] at time
  exact ⟨represented, by decide, time, utc, same⟩

/-- What the text of the document is read as, the document being a date. -/
def reparsed (space : String) : Node := .namespaceCall space "parse" [.ask "toISOString"]

theorem parse_reparsed :
    Expr.parseWithDepth "Date.parse($.toISOString())" 8 = .ok (reparsed "Date") ∧
      Expr.parseWithDepth "Date.parse($.toISOString()) === $" 8 =
        .ok (.binary .strictEqual (reparsed "Date") .root) := by
  constructor <;> rfl

theorem parse_reparsed_local :
    Expr.parseWithDepth "LocalDateTime.parse($.toISOString())" 8 =
        .ok (reparsed "LocalDateTime") ∧
      Expr.parseWithDepth "LocalDateTime.parse($.toISOString()) === $" 8 =
        .ok (.binary .strictEqual (reparsed "LocalDateTime") .root) := by
  constructor <;> rfl

theorem yields_isoText (d : Date) (n : Nat) :
    Yields (Eval.levels (n + 2) (.ask "toISOString") (.date d)) 2 (.string d.isoText) :=
  Eval.yields_ask (m := .isoText) rfl rfl n

section
variable {t : Calendar.Instant} (represented : t.Represented) (whole : t.WholeMillis)
include represented whole

theorem yields_reparsed (n : Nat) :
    Yields (Eval.levels (n + 3) (reparsed "Date") (.date ⟨t, .dateTime⟩)) 3
      (if 0 ≤ t.civil.year ∧ t.civil.year < 10000 then .date ⟨t, .dateTime⟩ else .null) := by
  refine Eval.yields_namespaceCall (.cons (yields_isoText _ n) .nil) fun ambient => ?_
  have ran := Library.runParse_text .dateTime ambient (Date.isoText ⟨t, .dateTime⟩)
  rw [if_pos rfl, Calendar.parseDefault_isoText represented whole] at ran
  rw [Library.callNamespace_found (f := .date .dateTime .parse) rfl rfl, Library.SpaceFunction.run,
    ran]
  split <;> rfl

theorem yields_reparsed_local (n : Nat) :
    Yields (Eval.levels (n + 3) (reparsed "LocalDateTime") (.date ⟨t, .localDateTime⟩)) 3
      (.date ⟨t, .localDateTime⟩) := by
  refine Eval.yields_namespaceCall (.cons (yields_isoText _ n) .nil) fun ambient => ?_
  have ran := Library.runParse_text .localDateTime ambient (Date.isoText ⟨t, .localDateTime⟩)
  rw [if_neg (by decide), Calendar.parseLocal_isoText represented whole, Option.elim_some] at ran
  rw [Library.callNamespace_found (f := .date .localDateTime .parse) rfl rfl,
    Library.SpaceFunction.run, ran]

end

/-- The text of a node is compared with the document. -/
theorem Eval.yields_same {node : Node} {root v : Value} {n steps : Nat}
    (yields : Yields (levels (n + 1) node root) steps v) :
    Yields (levels (n + 2) (.binary .strictEqual node .root) root) (steps + 2)
      (.bool (v.strictEq root)) :=
  yields_binary yields (yields_root n) rfl fun _ => rfl

theorem strictEq_date (d : Date) : (Value.date d).strictEq (.date d) = true := by
  simp [Value.strictEq]

section
variable {t : Calendar.Instant} (represented : t.Represented) (whole : t.WholeMillis)
  {options : Options} (deep : 8 ≤ options.maxDepth) (enough : 20 ≤ options.maxSteps) (label : Nat)
include represented whole deep enough

theorem evaluate_reparsed :
    evaluate "Date.parse($.toISOString())" (.date ⟨t, .dateTime⟩) options label =
        .ok (if 0 ≤ t.civil.year ∧ t.civil.year < 10000 then .date ⟨t, .dateTime⟩ else .null) ∧
      evaluate "Date.parse($.toISOString()) === $" (.date ⟨t, .dateTime⟩) options label =
        .ok (.bool (0 ≤ t.civil.year ∧ t.civil.year < 10000)) := by
  obtain ⟨parsed, parsed'⟩ := parse_reparsed
  have yields := yields_reparsed represented whole
  have same : (if 0 ≤ t.civil.year ∧ t.civil.year < 10000 then Value.date ⟨t, .dateTime⟩
      else .null).strictEq (.date ⟨t, .dateTime⟩) =
        decide (0 ≤ t.civil.year ∧ t.civil.year < 10000) := by
    split
    next inside => rw [strictEq_date, decide_eq_true inside]
    next outside =>
      rw [decide_eq_false outside]
      simp [Value.strictEq]
  constructor
  · exact evaluate_of_small parsed (fun n => yields (n + 5)) deep (by omega) label
  · rw [← same]
    exact evaluate_of_small parsed' (fun n => Eval.yields_same (yields (n + 4))) deep (by omega) label

/-- A date without a zone is read back from its text in every year, and one with a zone in those
years that are written with four digits. -/
theorem iso_text_read_back :
    evaluate "LocalDateTime.parse($.toISOString())" (.date ⟨t, .localDateTime⟩) options label =
        .ok (.date ⟨t, .localDateTime⟩) ∧
      evaluate "LocalDateTime.parse($.toISOString()) === $" (.date ⟨t, .localDateTime⟩) options
        label = .ok (.bool true) ∧
      evaluate "Date.parse($.toISOString())" (.date ⟨t, .dateTime⟩) options label =
        .ok (if 0 ≤ t.civil.year ∧ t.civil.year < 10000 then .date ⟨t, .dateTime⟩ else .null) ∧
      evaluate "Date.parse($.toISOString()) === $" (.date ⟨t, .dateTime⟩) options label =
        .ok (.bool (0 ≤ t.civil.year ∧ t.civil.year < 10000)) := by
  obtain ⟨parsed, parsed'⟩ := parse_reparsed_local
  have yields := yields_reparsed_local represented whole
  refine ⟨?_, ?_, evaluate_reparsed represented whole deep enough label⟩
  · exact evaluate_of_small parsed (fun n => yields (n + 5)) deep (by omega) label
  · rw [← strictEq_date ⟨t, .localDateTime⟩]
    exact evaluate_of_small parsed' (fun n => Eval.yields_same (yields (n + 4))) deep (by omega)
      label

end

/-- The first day of the year -1, and a millisecond in the last year with four digits. -/
theorem early_and_late_read_back :
    let early : Calendar.Instant := ⟨-719893, 0, 0⟩
    let late : Calendar.Instant := ⟨2932896, 86399, 999000000⟩
    early.civil = ⟨-1, 1, 1⟩ ∧ late.civil = ⟨9999, 12, 31⟩ ∧
      evaluate "LocalDateTime.parse($.toISOString()) === $" (.date ⟨early, .localDateTime⟩) {} 0 =
        .ok (.bool true) ∧
      evaluate "Date.parse($.toISOString()) === $" (.date ⟨late, .dateTime⟩) {} 0 =
        .ok (.bool true) := by
  intro early late
  have deep : 8 ≤ ({} : Options).maxDepth := by decide
  have enough : 20 ≤ ({} : Options).maxSteps := by decide
  obtain ⟨-, first, -, -⟩ := iso_text_read_back (t := early) ⟨by decide, by decide, by decide⟩
    ⟨by decide, by decide⟩ deep enough 0
  obtain ⟨-, -, -, last⟩ := iso_text_read_back (t := late) ⟨by decide, by decide, by decide⟩
    ⟨by decide, by decide⟩ deep enough 0
  have inside : 0 ≤ late.civil.year ∧ late.civil.year < 10000 := by decide
  rw [decide_eq_true inside] at last
  exact ⟨by decide, by decide, first, last⟩

/-- A year of five digits is written, but not read back in front of the mark of a zone. -/
theorem five_digit_year_lost :
    let t : Calendar.Instant := ⟨2932897, 0, 0⟩
    t.Represented ∧ t.WholeMillis ∧
      Date.isoText ⟨t, .dateTime⟩ = "+10000-01-01T00:00:00.000Z" ∧
      evaluate "Date.parse($.toISOString())" (.date ⟨t, .dateTime⟩) {} 0 = .ok .null ∧
      evaluate "Date.parse($.toISOString()) === $" (.date ⟨t, .dateTime⟩) {} 0 =
        .ok (.bool false) := by
  intro t
  have represented : t.Represented := ⟨by decide, by decide, by decide⟩
  have whole : t.WholeMillis := ⟨by decide, by decide⟩
  have deep : 8 ≤ ({} : Options).maxDepth := by decide
  have outside : ¬ (0 ≤ t.civil.year ∧ t.civil.year < 10000) := by decide
  obtain ⟨read, same⟩ := evaluate_reparsed represented whole deep (by decide) 0
  rw [if_neg outside] at read
  rw [decide_eq_false outside] at same
  exact ⟨represented, whole, by decide, read, same⟩

end DocExpr
