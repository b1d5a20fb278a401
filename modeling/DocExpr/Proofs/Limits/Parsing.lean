import DocExpr.Expr.Parser
import DocExpr.Proofs.Limits.Within

/-! A text read with a deeper limit. Each reader is shown to keep `Within` for the level below it;
the depth itself is looked at in `pattern` and `expression` only. -/
namespace DocExpr.Expr

/-- The readers of a level find what those of a deeper one find, as far as they get. -/
structure Level.Within (level level' : Level) : Prop where
  expression : ∀ power ts, DocExpr.Within (level.expression power ts) (level'.expression power ts)
  pattern : ∀ ts, DocExpr.Within (level.pattern ts) (level'.pattern ts)

section
variable {source : List Char}

theorem itemsUntil_within {α : Type} {item item' : List α → Parse α} (close : Symbol)
    (items : ∀ done ts, Within (item done ts) (item' done ts)) (done : List α) (fuel : Nat)
    (ts : List Spanned) :
    Within (itemsUntil close item done fuel ts) (itemsUntil close item' done fuel ts) := by
  induction fuel generalizing done ts with
  | zero => exact .same _
  | succ fuel ih =>
    rw [itemsUntil, itemsUntil]
    split
    · exact .same _
    · refine (items done ts).bind fun (x, ts) => ?_
      dsimp only
      split
      · exact ih _ _
      · exact .same _

theorem enclosed_within {α : Type} {item item' : List α → Parse α} (close : Symbol)
    (items : ∀ done ts, Within (item done ts) (item' done ts)) (openedAt : Nat)
    (ts : List Spanned) :
    Within (enclosed source close item openedAt ts) (enclosed source close item' openedAt ts) :=
  (itemsUntil_within close items _ _ _).bind fun _ => .same _

section
variable {inner inner' : Parse Pattern} (inners : ∀ ts, Within (inner ts) (inner' ts))
include inners

theorem objectPatternEntry_within (start : Nat) (ts : List Spanned) :
    Within (objectPatternEntry source inner start ts)
      (objectPatternEntry source inner' start ts) := by
  unfold objectPatternEntry
  refine (Within.same _).bind fun (key, ts) => ?_
  refine (Within.same _).bind fun ((), ts) => ?_
  exact (inners ts).bind fun _ => .same _

theorem arrayPatternItem_within (done : List (Option Pattern)) (ts : List Spanned) :
    Within (arrayPatternItem source inner done ts) (arrayPatternItem source inner' done ts) := by
  unfold arrayPatternItem
  split
  · exact .same _
  · exact (inners _).bind fun _ => .same _

theorem patternWith_within (ts : List Spanned) :
    Within (patternWith source inner ts) (patternWith source inner' ts) := by
  unfold patternWith
  dsimp only
  split
  case h_8 =>
    exact (enclosed_within _ (fun _ => objectPatternEntry_within inners _) _ _).bind
      fun _ => .same _
  case h_9 =>
    exact (enclosed_within _ (arrayPatternItem_within inners) _ _).bind fun _ => .same _
  all_goals exact .same _

end

theorem pattern_within {maxDepth maxDepth' depth depth' : Nat} (deeper : depth ≤ depth')
    (ts : List Spanned) :
    Within (pattern source maxDepth depth ts) (pattern source maxDepth' depth' ts) := by
  induction depth generalizing depth' ts with
  | zero => exact .limit _ _
  | succ depth ih =>
    obtain ⟨depth', rfl⟩ : ∃ n, depth' = n + 1 := ⟨depth' - 1, by omega⟩
    exact patternWith_within (fun ts => ih (by omega) ts) ts

variable {level level' : Level} (levels : level.Within level')
include levels

theorem arguments_within (ts : List Spanned) :
    Within (arguments source level ts) (arguments source level' ts) := by
  unfold arguments
  refine (Within.same _).bind fun ((), ts) => ?_
  exact (itemsUntil_within _ (fun _ => levels.expression 0) _ _ _).bind fun _ => .same _

theorem objectEntry_within (start : Nat) (ts : List Spanned) :
    Within (objectEntry source level start ts) (objectEntry source level' start ts) := by
  unfold objectEntry
  refine (Within.same _).bind fun (key, ts) => ?_
  refine (Within.same _).bind fun ((), ts) => ?_
  exact (levels.expression 0 ts).bind fun _ => .same _

theorem lambdaBody_within (params : List String) (ts : List Spanned) :
    Within (lambdaBody level params ts) (lambdaBody level' params ts) :=
  (levels.expression 0 ts).bind fun _ => .same _

theorem matchArm_within (braceAt : Nat) (done : List (Pattern × Node)) (ts : List Spanned) :
    Within (matchArm source level braceAt done ts) (matchArm source level' braceAt done ts) := by
  unfold matchArm
  split
  · exact .same _
  · refine (levels.pattern ts).bind fun (p, ts) => ?_
    dsimp only
    split
    · exact .same _
    · refine (Within.same _).bind fun ((), ts) => ?_
      exact (levels.expression 0 ts).bind fun _ => .same _

theorem matching_within (start : Nat) (ts : List Spanned) :
    Within (matching source level start ts) (matching source level' start ts) := by
  unfold matching
  refine (levels.expression 0 ts).bind fun (subject, ts) => ?_
  refine (Within.same _).bind fun ((), rest) => ?_
  exact (enclosed_within _ (matchArm_within levels _) _ _).bind fun _ => .same _

theorem namespaceMember_within (space : String) (ts : List Spanned) :
    Within (namespaceMember source level space ts) (namespaceMember source level' space ts) := by
  unfold namespaceMember
  split
  · split
    · exact (arguments_within levels _).bind fun _ => .same _
    · exact .same _
  · exact .same _

theorem afterName_within (name : String) (start : Nat) (ts : List Spanned) :
    Within (afterName source level name start ts) (afterName source level' name start ts) := by
  unfold afterName
  split
  · exact lambdaBody_within levels _ _
  · exact (arguments_within levels _).bind fun _ => .same _
  · exact .same _
  · split
    · exact matching_within levels _ _
    · split
      · exact namespaceMember_within levels _ _
      · exact .same _
  · split
    · exact matching_within levels _ _
    · exact .same _

theorem primary_within (ts : List Spanned) :
    Within (primary source level ts) (primary source level' ts) := by
  unfold primary
  split
  case h_8 =>
    split
    · exact lambdaBody_within levels _ _
    · exact (levels.expression 0 _).bind fun _ => .same _
  case h_9 =>
    exact (enclosed_within _ (fun _ => levels.expression 0) _ _).bind fun _ => .same _
  case h_10 =>
    exact (enclosed_within _ (fun _ => objectEntry_within levels _) _ _).bind fun _ => .same _
  case h_11 => exact afterName_within levels _ _ _
  all_goals exact .same _

theorem computed_within (ts : List Spanned) :
    Within (do let (key, ts) ← level.expression 0 ts; return (Segment.dynamic key, ts))
      (do let (key, ts) ← level'.expression 0 ts; return (Segment.dynamic key, ts)) :=
  (levels.expression 0 ts).bind fun _ => .same _

theorem bracketSegment_within (start : Nat) (ts : List Spanned) :
    Within (bracketSegment source level start ts) (bracketSegment source level' start ts) := by
  unfold bracketSegment
  dsimp only
  split
  case h_5 =>
    exact (levels.expression 0 _).bind fun _ => .same _
  case h_4 => exact .same _
  case h_6 => exact .same _
  case h_7 => exact computed_within levels _
  all_goals
    split
    · exact .same _
    · exact computed_within levels _

theorem postfixes_within (fuel : Nat) (node : Node) (ts : List Spanned) :
    Within (postfixes source level fuel node ts) (postfixes source level' fuel node ts) := by
  induction fuel generalizing node ts with
  | zero => exact .same _
  | succ fuel ih =>
    unfold postfixes
    split
    · exact ih _ _
    · split
      · split
        · split
          · exact (arguments_within levels _).bind fun _ => ih _ _
          · exact ih _ _
        · exact .same _
      · exact .same _
    · split
      · exact ih _ _
      · exact .same _
    · refine (bracketSegment_within levels _ _).bind fun (segment, ts) => ?_
      dsimp only
      split
      · exact ih _ _
      · exact .same _
    · exact .same _

theorem plainOperand_within (ts : List Spanned) :
    Within (do let (node, ts) ← primary source level ts
               postfixes source level (ts.length + 1) node ts)
      (do let (node, ts) ← primary source level' ts
          postfixes source level' (ts.length + 1) node ts) :=
  (primary_within levels ts).bind fun _ => postfixes_within levels _ _ _

theorem operand_within (ts : List Spanned) :
    Within (operand source level ts) (operand source level' ts) := by
  unfold operand
  dsimp only
  split
  · split
    · exact (levels.expression unaryPower _).bind fun _ => .same _
    · exact plainOperand_within levels _
  · exact plainOperand_within levels _

theorem conditionalRest_within (condition : Node) (start : Nat) (ts : List Spanned) :
    Within (conditionalRest source level condition start ts)
      (conditionalRest source level' condition start ts) := by
  unfold conditionalRest
  refine (levels.expression 0 ts).bind fun (thenBranch, ts) => ?_
  dsimp only
  split
  · exact (levels.expression conditionalPower _).bind fun _ => .same _
  · exact .same _
  · exact .same _

theorem operators_within (power fuel : Nat) (left : Node) (ts : List Spanned) :
    Within (operators source level power fuel left ts)
      (operators source level' power fuel left ts) := by
  induction fuel generalizing left ts with
  | zero => exact .same _
  | succ fuel ih =>
    unfold operators
    split
    · split
      · exact .same _
      · exact (conditionalRest_within levels _ _ _).bind fun _ => ih _ _
    · split
      · exact .same _
      · split
        · split
          · exact ih _ _
          · exact .same _
        · exact .same _
    · split
      · split
        · exact .same _
        · exact (levels.expression _ _).bind fun _ => ih _ _
      · exact .same _
    · exact .same _

theorem expressionWith_within (power : Nat) (ts : List Spanned) :
    Within (expressionWith source level power ts) (expressionWith source level' power ts) :=
  (operand_within levels ts).bind fun _ => operators_within levels _ _ _ _

omit levels in
theorem expression_within {maxDepth maxDepth' depth depth' : Nat} (deeper : depth ≤ depth')
    (power : Nat) (ts : List Spanned) :
    Within (expression source maxDepth depth power ts)
      (expression source maxDepth' depth' power ts) := by
  induction depth generalizing depth' power ts with
  | zero => exact .limit _ _
  | succ depth ih =>
    obtain ⟨depth', rfl⟩ : ∃ n, depth' = n + 1 := ⟨depth' - 1, by omega⟩
    have shallower : depth ≤ depth' := by omega
    exact expressionWith_within ⟨fun power ts => ih shallower power ts, pattern_within shallower⟩
      power ts

omit levels in
/-- What is read under a limit is read under a wider one. -/
theorem expression_deeper {maxDepth maxDepth' depth depth' power : Nat} (deeper : depth ≤ depth')
    {ts : List Spanned} {found : Node × List Spanned}
    (h : expression source maxDepth depth power ts = .ok found) :
    expression source maxDepth' depth' power ts = .ok found := by
  have reached (fault : LimitFault) :
      expression source maxDepth depth power ts ≠ .error (.limit fault) := by
    rw [h]
    exact nofun
  exact ((expression_within deeper power ts).eq_of_not_limit reached).trans h

end

theorem parseWithDepth_within {maxDepth maxDepth' : Nat} (deeper : maxDepth ≤ maxDepth')
    (text : String) :
    Within (parseWithDepth text maxDepth) (parseWithDepth text maxDepth') := by
  refine (Within.same _).bind fun ts => ?_
  refine (expression_within deeper 0 ts).bind fun (node, rest) => ?_
  exact .same _

/-- A text that parses under a limit parses to the same tree under a wider one. -/
theorem parseWithDepth_deeper {maxDepth maxDepth' : Nat} (deeper : maxDepth ≤ maxDepth')
    {text : String} {tree : Node} (parsed : parseWithDepth text maxDepth = .ok tree) :
    parseWithDepth text maxDepth' = .ok tree := by
  have reached (fault : LimitFault) : parseWithDepth text maxDepth ≠ .error (.limit fault) := by
    rw [parsed]
    exact nofun
  exact ((parseWithDepth_within deeper text).eq_of_not_limit reached).trans parsed

theorem parsePath_within {maxDepth maxDepth' : Nat} (deeper : maxDepth ≤ maxDepth')
    (text : String) : Within (parsePath text maxDepth) (parsePath text maxDepth') := by
  have read := parseWithDepth_within deeper
    (String.ofList (rootedPath (Text.trim text.toList)).1)
  unfold parsePath
  dsimp only
  generalize parseWithDepth _ maxDepth = r at read ⊢
  generalize parseWithDepth _ maxDepth' = r' at read ⊢
  cases read with
  | limit fault => exact .limit fault _
  | same => exact .same _

end DocExpr.Expr
