import DocExpr.Proofs.Lexer.Layout
import DocExpr.Proofs.Parser.Correspondence

/-! Layout does not matter. However much of it is put between the tokens of a text, the text reads
as the same tokens, and these as the same tree or with the same fault, though in another place. -/
namespace DocExpr

/-- The error without its place. -/
def EvalError.unplaced : EvalError → EvalError
  | .badText fault _ => .badText fault ⟨0, ""⟩
  | .badPath fault _ => .badPath fault ⟨0, ""⟩
  | e => e

end DocExpr

namespace DocExpr.Expr

/-- The same errors, wherever they are. -/
def Correspondence.unplaced (source source' : List Char) : Correspondence source source' where
  place _ _ := True
  error e e' := e.unplaced = e'.unplaced
  ends := trivial
  fault _ _ _ _ := rfl
  pathFault _ _ _ _ := rfl

section
variable {source source' : List Char}

theorem Correspondence.Tokens.of_map {ts ts' : List Spanned}
    (same : ts'.map (·.token) = ts.map (·.token)) :
    (Correspondence.unplaced source source').Tokens ts ts' := by
  induction ts generalizing ts' with
  | nil =>
    cases List.map_eq_nil_iff.mp same
    exact .nil
  | cons t ts ih =>
    obtain ⟨t', rest, rfl, head, tail⟩ := List.map_eq_cons_iff.mp same
    obtain ⟨token, offset⟩ := t
    obtain ⟨token', offset'⟩ := t'
    cases head
    exact .cons token trivial (ih tail)

theorem pattern_unplaced (maxDepth depth : Nat) (whole : List Spanned) :
    (Correspondence.unplaced source source').Agreeing whole (pattern source maxDepth depth)
      (pattern source' maxDepth depth) := by
  induction depth generalizing whole with
  | zero => exact fun _ _ => .failed rfl
  | succ depth ih =>
    intro ts ts' _ tokens
    exact Correspondence.patternWith_agree (ih ts) (pattern_consumes maxDepth depth) tokens

theorem expression_unplaced (maxDepth depth power : Nat) (whole : List Spanned) :
    (Correspondence.unplaced source source').Agreeing whole
      (expression source maxDepth depth power) (expression source' maxDepth depth power) := by
  induction depth generalizing whole power with
  | zero => exact fun _ _ => .failed rfl
  | succ depth ih =>
    have levels (ts : List Spanned) : (Correspondence.unplaced source source').Levels ts
        (levelAt source maxDepth depth) (levelAt source' maxDepth depth) :=
      ⟨fun power => ih power ts, pattern_unplaced maxDepth depth ts⟩
    intro ts ts' _ tokens
    exact Correspondence.expressionWith_agree (levels ts) (levelAt_consumes source maxDepth depth)
      power tokens

/-- The same tokens have the same tree or fault, whatever texts they stand in. -/
theorem parseTokens_unplaced (maxDepth : Nat) {ts ts' : List Spanned}
    (same : ts'.map (·.token) = ts.map (·.token)) :
    (parseTokens source maxDepth ts).mapError EvalError.unplaced =
      (parseTokens source' maxDepth ts').mapError EvalError.unplaced := by
  have read : (Correspondence.unplaced source source').Agree
      (expression source maxDepth maxDepth 0 ts) (expression source' maxDepth maxDepth 0 ts') :=
    expression_unplaced maxDepth maxDepth 0 (⟨.null, 0⟩ :: ts) (.cons _ (List.suffix_refl ts))
      (.of_map same)
  unfold parseTokens
  generalize expression source maxDepth maxDepth 0 ts = r,
    expression source' maxDepth maxDepth 0 ts' = r' at read
  cases read with
  | failed alike => exact congrArg Except.error alike
  | found x left =>
    cases left with
    | nil => rfl
    | cons token here tail => rfl

end

/-- Layout put between the tokens of a text changes neither its tokens nor its tree nor what is
wrong with it. -/
theorem layout_irrelevant {text text' : String} (respaced : Respaced true text.toList text'.toList)
    (maxDepth : Nat) :
    ∃ ts ts', tokensOf text.toList = .ok ts ∧ tokensOf text'.toList = .ok ts' ∧
      ts'.map (·.token) = ts.map (·.token) ∧
      (parseWithDepth text' maxDepth).mapError EvalError.unplaced =
        (parseWithDepth text maxDepth).mapError EvalError.unplaced := by
  obtain ⟨tokens, reads, reads'⟩ := respaced.reads
  obtain ⟨ts, read, same⟩ := reads.tokensOf
  obtain ⟨ts', read', same'⟩ := reads'.tokensOf
  have sameTokens := same'.trans same.symm
  refine ⟨ts, ts', read, read', sameTokens, ?_⟩
  rw [parseWithDepth, parseWithDepth, read, read']
  exact (parseTokens_unplaced maxDepth sameTokens).symm

/-- A slash behind a name divides, whatever comments stand around it. -/
theorem commented_division :
    Respaced true "a/b".toList "a/* / *///**/b ".toList ∧
      ∃ ts ts', tokensOf "a/b".toList = .ok ts ∧ tokensOf "a/* / *///**/b ".toList = .ok ts' ∧
        ts'.map (·.token) = ts.map (·.token) ∧
        (parseWithDepth "a/* / *///**/b " 2).mapError EvalError.unplaced =
          (parseWithDepth "a/b" 2).mapError EvalError.unplaced := by
  have right : Respaced true ['b'] ['b', ' '] :=
    @Respaced.token true 'b' [] [] [' '] (.identifier "b") rfl rfl
      (@Respaced.put _ [' '] [] [] (.blank rfl .nothing) .done)
  have slash : Respaced false ['/', 'b'] ['/', '/', '*', '*', '/', 'b', ' '] :=
    @Respaced.token false '/' [] ['b'] ['/', '*', '*', '/', 'b', ' '] (.symbol .slash) rfl rfl
      (@Respaced.put _ ['/', '*', '*', '/'] ['b'] ['b', ' ']
        (@Layout.comment [] [] (by decide) .nothing) right)
  have respaced : Respaced true "a/b".toList "a/* / *///**/b ".toList :=
    @Respaced.token true 'a' [] ['/', 'b'] ['/', '*', ' ', '/', ' ', '*', '/', '/', '/', '*', '*',
      '/', 'b', ' '] (.identifier "a") rfl rfl
      (@Respaced.put _ ['/', '*', ' ', '/', ' ', '*', '/'] ['/', 'b']
        ['/', '/', '*', '*', '/', 'b', ' ']
        (@Layout.comment [' ', '/', ' '] [] (by decide) .nothing) slash)
  exact ⟨respaced, layout_irrelevant respaced 2⟩

end DocExpr.Expr
