import DocExpr.Proofs.Lexer.Coverage
import DocExpr.Proofs.Parser.Consumption

/-! Where the faults of an expression are. A parser names the place of a token or a place that it
was given; both lie in the text as long as the tokens do, and what it leaves are tokens again. The
same holds of the part of the text from some place on. -/
namespace DocExpr.Expr
variable {source : List Char} {front : Nat}

/-- A place in the text, from another one on. -/
def Lies (source : List Char) (front offset : Nat) : Prop :=
  front ≤ offset ∧ offset ≤ source.length

/-- The error names a place of the text, from another one on, and shows the text from there on. -/
def PlacedFrom (source : List Char) (front : Nat) (e : EvalError) : Prop :=
  ∀ spot, e.spot? = some spot → Lies source front spot.offset ∧ spot = .at source spot.offset

theorem PlacedFrom.placed {e : EvalError} (placed : PlacedFrom source front e) : Placed source e :=
  fun spot found => ⟨(placed spot found).1.2, (placed spot found).2⟩

/-- All tokens stand in the text, from a place on. -/
structure InText (source : List Char) (front : Nat) (ts : List Spanned) : Prop where
  room : front ≤ source.length
  each : ∀ t ∈ ts, Lies source front t.offset

/-- Tokens of the text are left, or a place in the text is at fault. -/
inductive Places (source : List Char) (front : Nat) {α : Type} :
    Except EvalError (α × List Spanned) → Prop where
  | left (x : α) {rest : List Spanned} :
      InText source front rest → Places source front (.ok (x, rest))
  | fault {e : EvalError} : PlacedFrom source front e → Places source front (.error e)

theorem Places.bind {α β : Type} {r : Except EvalError (α × List Spanned)}
    {f : α × List Spanned → Except EvalError (β × List Spanned)}
    (first : Places source front r)
    (next : ∀ x rest, InText source front rest → Places source front (f (x, rest))) :
    Places source front (r >>= f) := by
  cases first with
  | left x inText => exact next x _ inText
  | fault placed => exact .fault placed

theorem InText.head {t : Spanned} {ts : List Spanned} (inText : InText source front (t :: ts)) :
    Lies source front t.offset :=
  inText.each t List.mem_cons_self

theorem InText.of_suffix {rest ts : List Spanned} (inText : InText source front ts)
    (isEnd : rest <:+ ts) :
    InText source front rest :=
  ⟨inText.room, fun t isIn => inText.each t (isEnd.subset isIn)⟩

theorem InText.tail {t : Spanned} {ts : List Spanned} (inText : InText source front (t :: ts)) :
    InText source front ts :=
  inText.of_suffix (List.suffix_cons t ts)

theorem InText.atEnd {ts : List Spanned} (inText : InText source front ts) :
    Lies source front source.length :=
  ⟨inText.room, Nat.le_refl _⟩

theorem InText.offsetOf {ts : List Spanned} (inText : InText source front ts) :
    Lies source front (offsetOf source ts) := by
  cases ts with
  | nil => exact inText.atEnd
  | cons t ts => exact inText.head

theorem placed_faultAt (fault : TextFault) {offset : Nat} (within : Lies source front offset) :
    PlacedFrom source front (faultAt source fault offset) := by
  intro spot found
  cases found
  exact ⟨within, rfl⟩

theorem placed_pathFaultAt (fault : TextFault) {offset : Nat} (within : Lies source front offset) :
    PlacedFrom source front (pathFaultAt source fault offset) := by
  intro spot found
  cases found
  exact ⟨within, rfl⟩

theorem placed_tooDeep (maxDepth : Nat) : PlacedFrom source front (tooDeep maxDepth) := nofun

theorem placed_unexpected {ts : List Spanned} (inText : InText source front ts) :
    PlacedFrom source front (unexpected source ts) := by
  cases ts with
  | nil => exact placed_faultAt _ inText.atEnd
  | cons t ts => exact placed_faultAt _ inText.head

/-- A parser of which that is so. -/
def Placing (source : List Char) (front : Nat) {α : Type} (p : Parse α) : Prop :=
  ∀ ts, InText source front ts → Places source front (p ts)

/-- All parsers of a level are such. -/
structure Level.Placing (source : List Char) (front : Nat) (level : Level) : Prop where
  expression : ∀ power, Expr.Placing source front (level.expression power)
  pattern : Expr.Placing source front level.pattern

theorem expect_placing (s : Symbol) {openedAt : Option Nat}
    (within : ∀ at_, openedAt = some at_ → Lies source front at_) :
    Placing source front (expect source s openedAt) := by
  intro ts inText
  unfold expect
  split
  · split
    next at_ => exact .fault (placed_faultAt _ (within at_ rfl))
    next => exact .fault (placed_faultAt _ inText.atEnd)
  · split
    · split
      · exact .left _ inText.tail
      · exact .fault (placed_faultAt _ inText.head)
    · exact .fault (placed_faultAt _ inText.head)

theorem expect_placing_plain (s : Symbol) : Placing source front (expect source s none) :=
  expect_placing s nofun

theorem itemsUntil_placing {α : Type} (close : Symbol) {item : List α → Parse α}
    (items : ∀ done, Placing source front (item done)) (done : List α) (fuel : Nat) :
    Placing source front (itemsUntil close item done fuel) := by
  induction fuel generalizing done with
  | zero => exact fun ts inText => .left _ inText
  | succ fuel ih =>
    intro ts inText
    rw [itemsUntil]
    split
    · exact .left _ inText
    · refine (items done ts inText).bind fun x rest inText => ?_
      dsimp only
      split
      · exact ih _ _ inText.tail
      · exact .left _ inText

theorem enclosed_placing {α : Type} (close : Symbol) {item : List α → Parse α}
    (items : ∀ done, Placing source front (item done)) {openedAt : Nat}
    (within : Lies source front openedAt) :
    Placing source front (enclosed source close item openedAt) := by
  intro ts inText
  refine (itemsUntil_placing close items [] _ ts inText).bind fun xs rest inText => ?_
  refine (expect_placing close ?_ rest inText).bind fun _ rest inText => .left _ inText
  rintro _ ⟨⟩
  exact within

theorem patternKey_placing {start : Nat} (within : Lies source front start) :
    Placing source front (patternKey source start) := by
  intro ts inText
  unfold patternKey
  split
  · exact .left _ inText.tail
  · exact .left _ inText.tail
  · exact .fault (placed_faultAt _ within)
  · exact .fault (placed_faultAt _ inText.head)

section
variable {inner : Parse Pattern} (inners : Placing source front inner)
include inners

theorem objectPatternEntry_placing {start : Nat} (within : Lies source front start) :
    Placing source front (objectPatternEntry source inner start) := by
  intro ts inText
  refine (patternKey_placing within ts inText).bind fun key rest inText => ?_
  have behind := inText.of_suffix (spanPresence_suffix rest)
  refine (expect_placing_plain .colon _ behind).bind fun _ rest inText => ?_
  exact (inners rest inText).bind fun value rest inText => .left _ inText

theorem arrayPatternItem_placing (done : List (Option Pattern)) :
    Placing source front (arrayPatternItem source inner done) := by
  intro ts inText
  unfold arrayPatternItem
  split
  · split
    · exact .fault (placed_faultAt _ inText.head)
    · exact .left _ inText.tail
  · exact (inners _ inText).bind fun p rest inText => .left _ inText

theorem patternWith_placing : Placing source front (patternWith source inner) := by
  intro ts inText
  have bad {α : Type} : Places (α := α) source front
      (.error (faultAt source .badPattern (offsetOf source ts))) :=
    .fault (placed_faultAt _ inText.offsetOf)
  unfold patternWith
  dsimp only
  split
  case h_1 =>
    split
    · exact .left _ inText.tail
    · exact bad
  case h_4 => exact .left _ inText.tail.tail
  case h_8 =>
    have entry := objectPatternEntry_placing inners inText.head
    exact (enclosed_placing _ (fun _ => entry) inText.head _ inText.tail).bind
      fun entries rest inText => .left _ inText
  case h_9 =>
    have items := arrayPatternItem_placing inners
    exact (enclosed_placing _ items inText.head _ inText.tail).bind
      fun items rest inText => .left _ inText
  case h_10 => exact bad
  all_goals exact .left _ inText.tail

end

theorem pattern_placing (maxDepth depth : Nat) :
    Placing source front (pattern source maxDepth depth) := by
  induction depth with
  | zero => exact fun ts _ => .fault (placed_tooDeep maxDepth)
  | succ depth ih => exact patternWith_placing ih

theorem objectKey_placing {start : Nat} (within : Lies source front start) :
    Placing source front (objectKey source start) := by
  intro ts inText
  unfold objectKey
  split
  · exact .fault (placed_faultAt _ within)
  · split
    · exact .left _ inText.tail
    · exact .fault (placed_unexpected inText)

section
variable {level : Level} (levels : level.Placing source front)
include levels

theorem arguments_placing : Placing source front (arguments source level) := by
  intro ts inText
  have opened := inText.offsetOf
  refine (expect_placing_plain .leftParen ts inText).bind fun _ rest inText => ?_
  refine (itemsUntil_placing _ (fun _ => levels.expression 0) [] _ _ inText).bind
    fun args rest inText => ?_
  dsimp only
  split
  · exact .left _ inText.tail
  · exact .fault (placed_faultAt _ opened)
  · exact .fault (placed_unexpected inText)

theorem objectEntry_placing {start : Nat} (within : Lies source front start) :
    Placing source front (objectEntry source level start) := by
  intro ts inText
  refine (objectKey_placing within ts inText).bind fun key rest inText => ?_
  refine (expect_placing_plain .colon _ inText).bind fun _ rest inText => ?_
  exact (levels.expression 0 rest inText).bind fun value rest inText => .left _ inText

theorem lambdaBody_placing (params : List String) :
    Placing source front (lambdaBody level params) :=
  fun ts inText => (levels.expression 0 ts inText).bind fun _ _ inText => .left _ inText

theorem matchArm_placing {braceAt : Nat} (within : Lies source front braceAt)
    (done : List (Pattern × Node)) :
    Placing source front (matchArm source level braceAt done) := by
  intro ts inText
  have starts := inText.offsetOf
  unfold matchArm
  split
  · exact .fault (placed_faultAt _ within)
  · refine (levels.pattern ts inText).bind fun p rest inText => ?_
    dsimp only
    split
    · exact .fault (placed_faultAt _ starts)
    · refine (expect_placing_plain .arrow _ inText).bind fun _ rest inText => ?_
      exact (levels.expression 0 rest inText).bind fun body rest inText => .left _ inText

theorem matching_placing {start : Nat} (within : Lies source front start) :
    Placing source front (matching source level start) := by
  intro ts inText
  refine (levels.expression 0 ts inText).bind fun subject rest inText => ?_
  have brace := inText.offsetOf
  refine (expect_placing_plain .leftBrace _ inText).bind fun _ rest inText => ?_
  refine (enclosed_placing _ (matchArm_placing levels brace) brace rest inText).bind
    fun arms rest inText => ?_
  dsimp only
  split
  · exact .fault (placed_faultAt _ within)
  · exact .left _ inText

theorem namespaceMember_placing (space : String) :
    Placing source front (namespaceMember source level space) := by
  intro ts inText
  unfold namespaceMember
  split
  · split
    · exact (arguments_placing levels _ inText.tail).bind fun _ _ inText => .left _ inText
    · exact .left _ inText.tail
  · exact .fault (placed_unexpected inText)

theorem afterName_placing (name : String) {start : Nat} (within : Lies source front start) :
    Placing source front (afterName source level name start) := by
  intro ts inText
  unfold afterName
  split
  · exact lambdaBody_placing levels _ _ inText.tail
  · exact (arguments_placing levels _ inText).bind fun _ _ inText => .left _ inText
  · exact .left _ inText
  · split
    · exact matching_placing levels within _ inText
    · split
      · exact namespaceMember_placing levels _ _ inText.tail
      · exact .left _ inText
  · split
    · exact matching_placing levels within _ inText
    · exact .left _ inText

theorem primary_placing : Placing source front (primary source level) := by
  intro ts inText
  unfold primary
  split
  case h_8 =>
    split
    next params rest found =>
      exact lambdaBody_placing levels _ _ (inText.tail.of_suffix (parameters?_suffix found))
    next =>
      refine (levels.expression 0 _ inText.tail).bind fun node rest inText' => ?_
      refine (expect_placing _ ?_ rest inText').bind fun _ rest inText => .left _ inText
      rintro _ ⟨⟩
      exact inText.head
  case h_9 =>
    exact (enclosed_placing _ (fun _ => levels.expression 0) inText.head _ inText.tail).bind
      fun items rest inText => .left _ inText
  case h_10 =>
    have entry := objectEntry_placing levels inText.head
    exact (enclosed_placing _ (fun _ => entry) inText.head _ inText.tail).bind
      fun entries rest inText => .left _ inText
  case h_11 => exact afterName_placing levels _ inText.head _ inText.tail
  case h_12 => exact .fault (placed_unexpected inText)
  all_goals exact .left _ inText.tail

theorem computed_placing {ts : List Spanned} (inText : InText source front ts) :
    Places source front (do
      let (key, ts) ← level.expression 0 ts
      return (Segment.dynamic key, ts)) :=
  (levels.expression 0 ts inText).bind fun _ _ inText => .left _ inText

theorem bracketSegment_placing {start : Nat} (within : Lies source front start) :
    Placing source front (bracketSegment source level start) := by
  intro ts inText
  have computed := computed_placing levels inText
  unfold bracketSegment
  dsimp only
  split
  case h_4 => exact .fault (placed_pathFaultAt _ within)
  case h_5 =>
    refine (levels.expression 0 _ inText.tail.tail).bind fun predicate rest inText' => ?_
    dsimp only
    split
    · exact .left _ inText'.tail
    · exact .fault (placed_pathFaultAt _ inText.tail.head)
  case h_6 => exact .fault (placed_pathFaultAt _ within)
  case h_7 => exact computed
  all_goals
    split
    · exact .left _ inText.tail
    · exact computed

theorem postfixes_placing (fuel : Nat) (node : Node) :
    Placing source front (postfixes source level fuel node) := by
  induction fuel generalizing node with
  | zero => exact fun ts inText => .left _ inText
  | succ fuel ih =>
    intro ts inText
    unfold postfixes
    split
    · exact ih _ _ inText.tail.tail
    · split
      · split
        · split
          · exact (arguments_placing levels _ inText.tail.tail).bind
              fun args rest inText => ih _ _ inText
          · exact ih _ _ inText.tail.tail
        · exact .fault (placed_pathFaultAt _ inText.head)
      · exact .fault (placed_pathFaultAt _ inText.head)
    · split
      · exact ih _ _ inText.tail.tail
      · exact .fault (placed_pathFaultAt _ inText.head)
    · have opened := inText.head
      refine (bracketSegment_placing levels opened _ inText.tail).bind
        fun segment rest inText => ?_
      dsimp only
      split
      · exact ih _ _ inText.tail
      · exact .fault (placed_pathFaultAt _ opened)
    · exact .left _ inText

theorem plainOperand_placing {ts : List Spanned} (inText : InText source front ts) :
    Places source front (do
      let (node, ts) ← primary source level ts
      postfixes source level (ts.length + 1) node ts) :=
  (primary_placing levels ts inText).bind fun _ _ inText => postfixes_placing levels _ _ _ inText

theorem operand_placing : Placing source front (operand source level) := by
  intro ts inText
  have plain := plainOperand_placing levels inText
  unfold operand
  dsimp only
  split
  · split
    · exact (levels.expression unaryPower _ inText.tail).bind
        fun node rest inText => .left _ inText
    · exact plain
  · exact plain

theorem conditionalRest_placing (condition : Node) {start : Nat}
    (within : Lies source front start) :
    Placing source front (conditionalRest source level condition start) := by
  intro ts inText
  refine (levels.expression 0 ts inText).bind fun thenBranch rest inText => ?_
  dsimp only
  split
  · exact (levels.expression conditionalPower _ inText.tail).bind
      fun elseBranch rest inText => .left _ inText
  · exact .fault (placed_faultAt _ within)
  · exact .fault (placed_unexpected inText)

theorem operators_placing (power fuel : Nat) (left : Node) :
    Placing source front (operators source level power fuel left) := by
  induction fuel generalizing left with
  | zero => exact fun ts inText => .left _ inText
  | succ fuel ih =>
    intro ts inText
    unfold operators
    split
    · split
      · exact .left _ inText
      · exact (conditionalRest_placing levels _ inText.head _ inText.tail).bind
          fun node rest inText => ih _ _ inText
    · split
      · exact .left _ inText
      · split
        · split
          · exact ih _ _ inText.tail.tail
          · exact .fault (placed_unexpected inText.tail)
        · exact .fault (placed_unexpected inText.tail)
    · split
      · split
        · exact .left _ inText
        · exact (levels.expression _ _ inText.tail).bind fun right rest inText => ih _ _ inText
      · exact .left _ inText
    · exact .left _ inText

theorem expressionWith_placing (power : Nat) :
    Placing source front (expressionWith source level power) := fun ts inText =>
  (operand_placing levels ts inText).bind
    fun _ _ inText => operators_placing levels _ _ _ _ inText

end

theorem expression_placing (maxDepth depth power : Nat) :
    Placing source front (expression source maxDepth depth power) := by
  induction depth generalizing power with
  | zero => exact fun ts _ => .fault (placed_tooDeep maxDepth)
  | succ depth ih => exact expressionWith_placing ⟨ih, pattern_placing maxDepth depth⟩ power

theorem parseTokens_placed {maxDepth : Nat} {ts : List Spanned} {e : EvalError}
    (placing : Places source front (expression source maxDepth maxDepth 0 ts))
    (h : parseTokens source maxDepth ts = .error e) : PlacedFrom source front e := by
  unfold parseTokens at h
  generalize expression source maxDepth maxDepth 0 ts = result at placing h
  cases placing with
  | @left node rest inText =>
    cases rest with
    | nil => cases h
    | cons t rest =>
      cases h
      exact placed_unexpected inText
  | fault placed =>
    cases h
    exact placed

theorem tokensOf_inText {ts : List Spanned} (read : tokensOf source = .ok ts) :
    InText source 0 ts :=
  ⟨Nat.zero_le _, fun t isIn => ⟨Nat.zero_le _, Nat.le_of_lt (tokensOf_inside read t isIn)⟩⟩

theorem parseWithDepth_placed {text : String} {maxDepth : Nat} {e : EvalError}
    (h : parseWithDepth text maxDepth = .error e) : Placed text.toList e := by
  unfold parseWithDepth at h
  cases read : tokensOf text.toList with
  | error fault =>
    rw [read] at h
    cases h
    exact tokensOf_placed read
  | ok ts =>
    rw [read] at h
    exact (parseTokens_placed (expression_placing _ _ _ _ (tokensOf_inText read)) h).placed

/-- Every text is read, into tokens that leave out nothing but layout, and with the end of the
text behind them, or else to a fault. The places that faults name, in reading tokens or in reading
them as an expression, lie in the text, and what is shown is the text from there on. -/
theorem text_accounted (text : String) (depth : Nat) :
    ((∃ ts, tokensOf text.toList = .ok ts ∧ Spans text.toList true 0 ts ∧
          (ts.map (·.offset) ++ [offsetOf text.toList []]).Pairwise (· < ·)) ∨
        ∃ fault spot, tokensOf text.toList = .error (.badText fault spot)) ∧
      offsetOf text.toList [] = text.toList.length ∧
      ∀ e fault spot, tokensOf text.toList = .error e ∨ parseWithDepth text depth = .error e →
        e = .badText fault spot ∨ e = .badPath fault spot →
          spot.offset ≤ text.toList.length ∧
            spot.fragment = String.ofList (Text.clip 24 (text.toList.drop spot.offset)) := by
  refine ⟨?_, rfl, fun e fault spot fails located => ?_⟩
  · cases read : tokensOf text.toList with
    | ok ts => exact .inl ⟨ts, rfl, tokensOf_spans read, (tokensOf_spans read).increasing.1⟩
    | error e =>
      unfold tokensOf at read
      split at read
      · cases read
      · cases read
        exact .inr ⟨_, _, rfl⟩
  · have placed : Placed text.toList e := fails.elim tokensOf_placed parseWithDepth_placed
    have found : e.spot? = some spot := by
      rcases located with rfl | rfl
      · rfl
      · rfl
    obtain ⟨within, same⟩ := placed spot found
    exact ⟨within, congrArg Spot.fragment same⟩

/-- A parenthesis in a comment closes nothing. -/
theorem unclosed_parenthesis_placed :
    parseWithDepth "$ + ($ /* ) */" 4 =
        .error (.badText (.unclosedDelimiter ")") ⟨4, "($ /* ) */"⟩) ∧
      4 ≤ "$ + ($ /* ) */".toList.length ∧
      "($ /* ) */" = String.ofList (Text.clip 24 ("$ + ($ /* ) */".toList.drop 4)) := by
  have fails : parseWithDepth "$ + ($ /* ) */" 4 =
      .error (.badText (.unclosedDelimiter ")") ⟨4, "($ /* ) */"⟩) := by rfl
  exact ⟨fails, (text_accounted "$ + ($ /* ) */" 4).2.2 _ _ _ (.inr fails) (.inl rfl)⟩

end DocExpr.Expr
