import DocExpr.Proofs.Evaluation.Literals
import DocExpr.Proofs.Number.RoundTrip
import DocExpr.Proofs.Value.Extension
import DocExpr.Proofs.Value.Writing

/-! The display text of a value of the kinds that documents have is an expression for that value. As
a pattern it stands in a match, which the evaluator answers in three steps: the match itself, the
document, and the body of the arm that is taken. -/
namespace DocExpr.Value

theorem literal_zero : Expr.literal.number ['0'] 0.0 :=
  ⟨.mk false (Number.digits_digitChars 0).numeral, rfl⟩

/-- The display text of a value spells the document of the value. -/
theorem compact_spells {v : Value} {depth : Nat} (isDocument : v.IsDocument)
    (nests : v.NestsWithin depth) : Json.Spells Expr.literal depth v.compact v.document := by
  have noRegex : ∀ pattern flags, ¬ Inside parts v (.regex pattern flags) :=
    fun pattern flags inside => nomatch isDocument _ inside
  refine compact_writer.spells nests noRegex fun x _ finite => ?_
  have numeral := Number.toText_signedNumeral finite
  exact number_plainZero literal_zero (fun _ _ => toText_of_zero) fun other =>
    ⟨numeral, Number.ofNumeral?_toText finite other⟩

/-- The display text of a value of the kinds that documents have evaluates to that value on every
document, where the limits leave room for its nesting and for a step for each of its parts. -/
theorem display_evaluates {v : Value} {depth : Nat} {options : Options}
    (isDocument : v.IsDocument) (distinct : v.DistinctKeys) (nests : v.NestsWithin depth)
    (deep : depth + 2 ≤ options.maxDepth) (enough : v.document.nodes ≤ options.maxSteps) :
    ∃ w, (∀ document label,
        evaluate (String.ofList v.compact) document options label = .ok w) ∧
      v.SameAs w ∧ v.strictEq w = true := by
  have spelled := compact_spells isDocument nests
  have equal := sameAs_document isDocument distinct
  exact ⟨ofJson v.document, evaluate_of_spells (.bare spelled) deep enough, equal,
    equal.strictEq distinct⟩

/-- The limits that hold by default leave room for an array in an object. -/
theorem sample_display_evaluates :
    sample.IsDocument ∧ sample.DistinctKeys ∧ sample.NestsWithin 2 ∧
      2 + 2 ≤ Options.maxDepth {} ∧ sample.document.nodes ≤ Options.maxSteps {} ∧
      ∃ w, (∀ document label,
          evaluate (String.ofList sample.compact) document {} label = .ok w) ∧
        sample.SameAs w ∧ sample.strictEq w = true := by
  have deep : 2 + 2 ≤ Options.maxDepth {} := by decide
  have enough : sample.document.nodes ≤ Options.maxSteps {} := by decide
  exact ⟨sample_isDocument, sample_distinctKeys, sample_nestsWithin 0, deep, enough,
    display_evaluates sample_isDocument sample_distinctKeys (sample_nestsWithin 0) deep enough⟩

end DocExpr.Value

namespace DocExpr.Eval
open EvalM (Yields)
open DocExpr.Expr (Node Pattern)

theorem yields_arms (n : Nat) (root subject : Value) (p : Pattern) :
    Yields ((levels (n + 1)).arms root subject [(p, .bool true), (.wildcard, .bool false)]) 1
      (.bool (subject.fits p)) := by
  have body (b : Bool) : Yields (levels (n + 1) (.bool b) root) 1 (Value.bool b) :=
    yields_level (.pure (Value.bool b))
  rw [arms]
  split
  next fit =>
    rw [fit]
    exact body true
  next noFit =>
    have anything : subject.fits .wildcard = true := rfl
    rw [Bool.eq_false_iff.mpr noFit, arms, if_pos anything]
    exact body false

/-- A match with one pattern tells whether the document matches the pattern. -/
theorem yields_matchOf (n : Nat) (root : Value) (p : Pattern) :
    Yields (levels (n + 2) (.matchOf p) root) 3 (.bool (root.fits p)) := by
  have subject : Yields (levels (n + 1) .root root) 1 root := yields_level (.pure root)
  have run : Yields ((levels (n + 1)).node root (.matchOf p)) (1 + 1) (.bool (root.fits p)) :=
    subject.bind (yields_arms n root root p)
  exact yields_level run

end DocExpr.Eval

namespace DocExpr.Value
open DocExpr.Expr (matchText)

/-- As a pattern, the display text of a value of the kinds that documents have matches the values
that extend the value, itself among them, and no others. The limits leave room for the nesting of
the value, and for three steps. -/
theorem display_matches_extensions {v : Value} {depth : Nat} {options : Options}
    (isDocument : v.IsDocument) (distinct : v.DistinctKeys) (nests : v.NestsWithin depth)
    (deep : depth + 2 ≤ options.maxDepth) (enough : 3 ≤ options.maxSteps) :
    (∃ tree, Expr.parseWithDepth (matchText (String.ofList v.compact)) options.maxDepth =
      .ok tree) ∧
    (∀ w label, ∃ b,
      evaluate (matchText (String.ofList v.compact)) w options label = .ok (.bool b) ∧
        (b = true ↔ w.Extends v)) ∧
    ∀ label, evaluate (matchText (String.ofList v.compact)) v options label = .ok (.bool true) := by
  have spelled := compact_spells isDocument nests
  have parsed := Expr.parse_matchText deep (.bare spelled)
  obtain ⟨n, room⟩ : ∃ n, options.maxDepth = n + 2 := ⟨options.maxDepth - 2, by omega⟩
  have run (w : Value) (label : Nat) :
      evaluate (matchText (String.ofList v.compact)) w options label =
        .ok (.bool (w.fits (.ofJson v.document))) := by
    have yields := Eval.yields_matchOf n w (.ofJson v.document)
    rw [← room] at yields
    exact evaluate_of_yields parsed yields enough label
  refine ⟨⟨_, parsed⟩, fun w label => ⟨_, run w label, fits_document_iff isDocument w⟩, ?_⟩
  intro label
  rw [run, (fits_document_iff isDocument v).mpr (.refl isDocument distinct)]

/-- The pattern of an array in an object matches what extends it under the default limits. -/
theorem sample_matches_extensions :
    sample.IsDocument ∧ sample.DistinctKeys ∧ sample.NestsWithin 2 ∧
      2 + 2 ≤ Options.maxDepth {} ∧ 3 ≤ Options.maxSteps {} ∧
      (∃ tree, Expr.parseWithDepth (matchText (String.ofList sample.compact)) 256 = .ok tree) ∧
      (∀ w label, ∃ b,
        evaluate (matchText (String.ofList sample.compact)) w {} label = .ok (.bool b) ∧
          (b = true ↔ w.Extends sample)) ∧
      ∀ label, evaluate (matchText (String.ofList sample.compact)) sample {} label =
        .ok (.bool true) := by
  have nests : sample.NestsWithin 2 := sample_nestsWithin 0
  have deep : 2 + 2 ≤ Options.maxDepth {} := by decide
  have enough : 3 ≤ Options.maxSteps {} := by decide
  exact ⟨sample_isDocument, sample_distinctKeys, nests, deep, enough,
    display_matches_extensions sample_isDocument sample_distinctKeys nests deep enough⟩

end DocExpr.Value
