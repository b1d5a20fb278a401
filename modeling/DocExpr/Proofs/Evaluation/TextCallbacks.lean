import DocExpr.Proofs.Evaluation.Agreement
import DocExpr.Proofs.Limits.Parsing
import DocExpr.Proofs.Parser.Composition

/-! Text in place of a function. A method that is given the text of an expression where it expects a
function does the same as with the arrow function that has this body and the parameters of the
method. The text is parsed when the method begins and the arrow with the expression around it, but
both see the bindings that are visible at the call, and what is left to tell the two functions apart
is when they were made, which no call looks at. -/
namespace DocExpr
open DocExpr.Expr (Node Name parseWithDepth)
open DocExpr.Library (Host lift callback? Handed Begins)
open EvalM (Alike Ended Framed Limited)

/-- The text of an arrow function. -/
def arrowText (params : List String) (body : String) : String :=
  "(" ++ ",".intercalate params ++ ") =>" ++ body

namespace Expr

theorem exists_names {params : List String} (each : ∀ p ∈ params, tokensIn p = [.identifier p]) :
    ∃ names : List Name, names.map (·.text) = params ∧ names.map (·.name) = params := by
  refine ⟨params.pmap (fun p reads => ⟨p, p, reads⟩) each, ?_, ?_⟩
  · rw [List.map_pmap, List.pmap_eq_map, List.map_id']
  · rw [List.map_pmap, List.pmap_eq_map, List.map_id']

theorem parse_arrow {params : List String} (names : ∀ p ∈ params, tokensIn p = [.identifier p])
    {depth : Nat} (part : Expr.Part depth) :
    parseWithDepth (arrowText params part.text) (depth + 1) = .ok (.lambda params part.node) := by
  obtain ⟨names, texts, same⟩ := exists_names names
  have parses := parse_lambda names part
  rw [texts, same] at parses
  exact parses

/-- What parses within some depth reaches a limit within another one, or parses to the same. -/
theorem parse_or_limit {s : String} {depth : Nat} {node : Node}
    (parses : parseWithDepth s depth = .ok node) (maxDepth : Nat) :
    (∃ fault, parseWithDepth s maxDepth = .error (.limit fault)) ∨
      parseWithDepth s maxDepth = .ok node := by
  rcases Nat.le_total depth maxDepth with wider | narrower
  · have within := parseWithDepth_within wider s
    rw [parses] at within
    exact .inr (within.eq_of_not_limit fun _ h => nomatch h)
  · have within := parseWithDepth_within narrower s
    rw [parses] at within
    generalize parseWithDepth s maxDepth = r at within ⊢
    cases within with
    | limit fault => exact .inl ⟨fault, rfl⟩
    | same => exact .inr rfl

end Expr

namespace Library

/-- The parameters of text that stands for a function are names. -/
theorem callback?_names {receiver : Value} {name : String} {i : Nat} {params : List String}
    (expected : callback? receiver name i = some params) :
    ∀ p ∈ params, Expr.tokensIn p = [.identifier p] := by
  have known : params ∈ [itemParams, reduceParams, sortParams, entryParams] := by
    cases receiver with
    | array items =>
      obtain ⟨⟨m, arity⟩, -, expected⟩ := Option.bind_eq_some_iff.mp expected
      change m.callback? i = some params at expected
      unfold ArrayMethod.callback? at expected
      split at expected <;> cases expected <;> decide
    | object es =>
      obtain ⟨⟨m, arity⟩, -, expected⟩ := Option.bind_eq_some_iff.mp expected
      change m.callback? i = some params at expected
      unfold ObjectMethod.callback? at expected
      split at expected <;> cases expected <;> decide
    | _ => cases expected
  intro p isIn
  simp only [List.mem_cons, List.not_mem_nil, or_false] at known
  rcases known with rfl | rfl | rfl | rfl
  · simp only [itemParams, List.mem_cons, List.not_mem_nil, or_false] at isIn
    rcases isIn with rfl | rfl | rfl <;> rfl
  · simp only [reduceParams, List.mem_cons, List.not_mem_nil, or_false] at isIn
    rcases isIn with rfl | rfl | rfl | rfl <;> rfl
  · simp only [sortParams, List.mem_cons, List.not_mem_nil, or_false] at isIn
    rcases isIn with rfl | rfl <;> rfl
  · simp only [entryParams, List.mem_cons, List.not_mem_nil, or_false] at isIn
    rcases isIn with rfl | rfl | rfl <;> rfl

end Library

/-- Values that mean the same in the place of a function: the same value, or a text and what its
arrow evaluates to where `c` is visible. -/
inductive Given (c : Context) (params : List String) : Value → Value → Prop where
  | same (v : Value) : Given c params v v
  | arrow {depth : Nat} (part : Expr.Part depth) (birth : Birth) :
    Given c params (.string part.text) (.lambda ⟨birth, params, part.node, c.snapshot⟩)

theorem EvalM.runOn_callable (v : Value) (params : List String) (ev : Evaluator) :
    ((callable v params).runOn ev).2 = ev := by
  cases v with
  | string s =>
    change ((lift (parseWithDepth s ev.options.maxDepth) >>= makeLambda params).runOn ev).2 = ev
    rw [runOn_bind, runOn_lift]
    cases parseWithDepth s ev.options.maxDepth with
    | error e => rfl
    | ok node => rfl
  | _ => rfl

section
variable {eval eval' : Eval} (evals : eval.Related Alike eval')
include evals

/-- A method that makes functions of the text and of the arrow begins alike. -/
theorem given_begins (limit : Nat) (root : Value) (ev : Evaluator) :
    Begins Alike (fun _ x x' => Ended Eq (x.runOn ev) (x'.runOn ev)) (eval.host limit)
      (eval'.host limit) root (Given ev.context) where
  of_related related := related ev
  checked {_ r} _ x x' rest := by
    rw [EvalM.runOn_bind, EvalM.runOn_bind, EvalM.runOn_lift]
    cases r with
    | error e => exact .error e ev
    | ok _ => exact rest
  callable {params v v'} given α k k' rest := by
    have calls := Eval.call_related EvalM.alike_congruence evals
    cases given with
    | same =>
      have kept := EvalM.runOn_callable v params ev
      change Ended Eq ((EvalM.callable v params >>= k).runOn ev)
        ((EvalM.callable v params >>= k').runOn ev)
      rw [EvalM.runOn_bind, EvalM.runOn_bind, kept]
      cases ((EvalM.callable v params).runOn ev).1 with
      | error e => exact .error e ev
      | ok f => exact rest f f fun args => calls f args root
    | arrow part birth =>
      change Ended Eq (((lift (parseWithDepth part.text ev.options.maxDepth) >>=
        EvalM.makeLambda params) >>= k).runOn ev) ((k' _).runOn ev)
      obtain ⟨fault, limited⟩ | parses := Expr.parse_or_limit part.parses ev.options.maxDepth
      · rw [limited]
        exact .firstLimited ⟨fault, rfl⟩
      · rw [parses]
        exact rest ⟨⟨ev.evaluation, ev.steps⟩, params, part.node, ev.context.snapshot⟩ _
          fun args => calls _ args root
  same params v := .same v
  null given := by
    cases given with
    | same => exact Iff.rfl
    | arrow part birth => exact ⟨nofun, nofun⟩

/-- A call of a method whose arguments are the same, but for arrows in the place of texts. -/
theorem method_ended (framed : ∀ expr root, Framed _ (eval expr root) (eval expr root))
    {B : Type} (pass : Value → B → EvalM Value) {root : Value} {receiver : Node} {name : String}
    {args : List Node} {args' : List B} {ev : Evaluator}
    (each : ∀ v after, (eval receiver root).runOn ev = (.ok v, after) →
      Placewise (fun i arg arg' => ∀ there : Evaluator, there.context = ev.context →
        Ended (Handed (Given ev.context) (callback? v name i))
          ((eval arg root).runOn there) ((pass v arg').runOn there)) 0 args args') :
    Ended Eq ((eval.node root (.method receiver name args)).runOn ev)
      ((do
        let receiver ← eval' receiver root
        let args ← args'.mapM (pass receiver)
        Library.callMethod (eval'.host (← get).options.maxStringLength) root receiver name args :
          EvalM Value).runOn ev) := by
  refine (evals receiver root ev).bind fun v v' after ran same => ?_
  subst same
  have kept := (framed receiver root).context_eq ran
  refine (Ended.mapM (framed · root) (each v after ran) kept).bind
    fun vs vs' called ranArgs handed => ?_
  have keptArgs := (EvalM.framed_congruence.mapM (framed · root) args).context_eq ranArgs
  rw [← kept, ← keptArgs] at handed
  exact Library.callMethod_begun EvalM.alike_congruence.sequenced
    (Eval.host_related EvalM.alike_congruence evals (Nat.le_refl _)).toCallbacksRelated
    (given_begins evals _ root called) v name handed fun _ _ _ => EvalM.alike_congruence.result _

end

/-- Arguments written in one place of a call: the same expression, or a literal text where a
function is expected and the arrow function that it stands for. -/
inductive Spelled : Option (List String) → Node → Node → Prop where
  | same (params? : Option (List String)) (arg : Node) : Spelled params? arg arg
  | arrow (params : List String) {depth : Nat} (part : Expr.Part depth) :
    Spelled (some params) (.string part.text) (.lambda params part.node)

theorem Eval.levels_framed (n : Nat) (expr : Node) (root : Value) :
    Framed _ (levels n expr root) (levels n expr root) :=
  levels_related EvalM.framed_congruence (Nat.le_refl n) expr root

theorem Eval.levels_alike (n : Nat) : (levels n).Related Alike (levels n) :=
  levels_related EvalM.alike_congruence (Nat.le_refl n)

/-- A literal text takes the steps that its arrow takes. -/
theorem Spelled.ended {params? : Option (List String)} {arg arg' : Node}
    (spelled : Spelled params? arg arg') (n : Nat) (root : Value) (ev : Evaluator) :
    Ended (Handed (Given ev.context) params?) ((Eval.levels n arg root).runOn ev)
      ((Eval.levels n arg' root).runOn ev) := by
  cases spelled with
  | same =>
    refine .same (fun v => ?_) _
    cases params? with
    | none => rfl
    | some params => exact .same v
  | arrow params part =>
    cases n with
    | zero => exact .afterTick (.firstLimited ⟨_, rfl⟩)
    | succ n => exact .afterTick (.ok _ (Given.arrow part _))

/-- An evaluator at the first part of the expression that it evaluates. -/
def Evaluator.entered (ev : Evaluator) : Evaluator :=
  { ev with depth := ev.depth + 1, steps := ev.steps + 1 }

theorem Spelled.call_ended {root : Value} {receiver : Node} {name : String}
    {args args' : List Node} {ev : Evaluator}
    (spelled : ∀ v after, (EvalM.evaluate receiver root).runOn ev.entered = (.ok v, after) →
      Placewise (fun i => Spelled (callback? v name i)) 0 args args') :
    Ended Eq ((EvalM.evaluate (.method receiver name args) root).runOn ev)
      ((EvalM.evaluate (.method receiver name args') root).runOn ev) := by
  unfold EvalM.evaluate Evaluator.eval at spelled ⊢
  simp only [EvalM.runOn_get] at spelled ⊢
  generalize levels : ev.options.maxDepth - ev.depth = n
  cases n with
  | zero => exact .afterTick (.firstLimited ⟨_, rfl⟩)
  | succ n =>
    have left : ev.entered.options.maxDepth - ev.entered.depth = n := by
      change ev.options.maxDepth - (ev.depth + 1) = n
      omega
    rw [left] at spelled
    have level : Ended Eq
        (((Eval.levels n).node root (.method receiver name args)).runOn ev.entered)
        (((Eval.levels n).node root (.method receiver name args')).runOn ev.entered) := by
      refine method_ended (Eval.levels_alike n) (Eval.levels_framed n)
        (fun _ arg => Eval.levels n arg root) fun v after ran => ?_
      refine (spelled v after ran).mono fun i arg arg' spelled there here => ?_
      rw [← here]
      exact spelled.ended n root there
    exact .afterTick (level.mapState fun after => { after with depth := after.depth - 1 })

/-- Some of the texts that an evaluation passes for functions, told by the evaluator that passes
them; all of them are expressions. -/
structure Exchange where
  picks : Evaluator → String → Bool
  expressions : ∀ ev text, picks ev text = true →
    ∃ (depth : Nat) (part : Expr.Part depth), part.text = text

namespace Exchange
variable (exchange : Exchange)

/-- Passes the value of an argument, where a function with these parameters may be expected: for a
picked text, the function that the arrow evaluates to in its place. -/
def pass (eval : Eval) (root : Value) (params? : Option (List String)) (v : Value) :
    EvalM Value := do
  match params?, v with
  | some params, .string text =>
    let ev ← get
    if exchange.picks ev text then
      eval.node root (← lift (parseWithDepth (arrowText params text) ev.options.maxDepth))
    else return v
  | _, v => return v

/-- Evaluates one level of an expression. -/
def node (eval : Eval) (root : Value) : Node → EvalM Value
  | .method receiver name args => do
    let receiver ← eval receiver root
    let args ← args.zipIdx.mapM fun (arg, i) => do
      exchange.pass eval root (callback? receiver name i) (← eval arg root)
    Library.callMethod (eval.host (← get).options.maxStringLength) root receiver name args
  | expr => eval.node root expr

/-- Evaluates an expression that nests at most so many levels deep. -/
def levels : Nat → Eval
  | 0 => Eval.levels 0
  | n + 1 => fun expr root => do
    EvalM.tick
    EvalM.deeper (exchange.node (levels n) root expr)

/-- Evaluates an expression on a document. -/
def evaluate (expr : Node) (root : Value) : EvalM Value := do
  let ev ← get
  exchange.levels (ev.options.maxDepth - ev.depth) expr root

/-- What picks no texts passes the arguments as they are, and evaluates as usual. -/
theorem levels_of_none (none : ∀ ev text, exchange.picks ev text = false) (n : Nat) :
    exchange.levels n = Eval.levels n := by
  have passes : ∀ eval root params? v, exchange.pass eval root params? v = Pure.pure v := by
    intro eval root params? v
    unfold pass
    split
    · simp only [none, Bool.false_eq_true, if_false]
      rfl
    · rfl
  induction n with
  | zero => rfl
  | succ n ih =>
    funext expr root
    have level : exchange.node (exchange.levels n) root expr = (Eval.levels n).node root expr := by
      rw [ih]
      cases expr with
      | method receiver name args =>
        have places : (args.zipIdx.map Prod.fst).mapM (Eval.levels n · root) =
            args.zipIdx.mapM fun arg => Eval.levels n arg.1 root := List.mapM_map
        rw [List.zipIdx_map_fst] at places
        simp only [node, passes, bind_pure, Eval.node, places]
      | _ => rfl
    change (do EvalM.tick; EvalM.deeper (exchange.node (exchange.levels n) root expr)) = _
    rw [level]
    rfl

theorem pass_ended (eval : Eval) (root receiver : Value) (name : String) (i : Nat) (v : Value)
    (ev : Evaluator) :
    Ended (Handed (Given ev.context) (callback? receiver name i)) (.ok v, ev)
      ((exchange.pass eval root (callback? receiver name i) v).runOn ev) := by
  generalize expected : callback? receiver name i = params?
  cases params? with
  | none => exact .ok ev rfl
  | some params =>
    cases v with
    | string text =>
      change Ended _ _ (EvalM.runOn (if exchange.picks ev text then
        lift (parseWithDepth (arrowText params text) ev.options.maxDepth) >>= eval.node root
        else Pure.pure (.string text)) ev)
      split
      · next picked =>
        obtain ⟨depth, part, rfl⟩ := exchange.expressions ev text picked
        have parses := Expr.parse_arrow (Library.callback?_names expected) part
        obtain ⟨fault, limited⟩ | parses := Expr.parse_or_limit parses ev.options.maxDepth
        · rw [limited]
          exact .secondLimited ⟨fault, rfl⟩
        · rw [parses]
          exact .ok ev (Given.arrow part _)
      · exact .ok ev (Given.same _)
    | _ => exact .ok ev (Given.same _)

theorem node_alike {n : Nat} (evals : (Eval.levels n).Related Alike (exchange.levels n))
    (root : Value) (expr : Node) :
    Alike _ ((Eval.levels n).node root expr) (exchange.node (exchange.levels n) root expr) := by
  cases expr with
  | method receiver name args =>
    intro ev
    rw [Exchange.node]
    refine method_ended evals (Eval.levels_framed n) _ fun v _ _ => ?_
    refine .zipIdx (fun i arg there here => ?_) 0 args
    rw [← bind_pure (Eval.levels n arg root)]
    refine (evals arg root there).bind fun w w' after ran same => ?_
    rw [← same, ← here, ← (Eval.levels_framed n arg root).context_eq ran]
    exact exchange.pass_ended _ root v name i w after
  | _ =>
    rw [Exchange.node]
    · exact Eval.node_related EvalM.alike_congruence evals root _
    · nofun

theorem levels_alike (n : Nat) : (Eval.levels n).Related Alike (exchange.levels n) := by
  induction n with
  | zero => exact Eval.levels_alike 0
  | succ n ih =>
    intro expr root
    refine EvalM.alike_congruence.bind EvalM.alike_congruence.tick fun _ => ?_
    exact EvalM.alike_congruence.deeper (exchange.node_alike ih root expr)

end Exchange

/-- The text of an expression, given where a method expects a function, means the arrow function
with the parameters of the method and this body: the arrow parses to that function, a call written
with the arrow ends as the one written with the text, and an evaluation of any expression in which
arrows are passed for any of the texts, at calls however deep inside functions, filters and other
texts, ends as the ordinary one. -/
theorem texts_mean_arrows :
    (∀ (receiver : Value) (name : String) (i : Nat) (params : List String),
      callback? receiver name i = some params → ∀ (depth : Nat) (part : Expr.Part depth),
        parseWithDepth (arrowText params part.text) (depth + 1) =
          .ok (.lambda params part.node)) ∧
    (∀ (ev : Evaluator) (root : Value) (receiver : Node) (name : String) (args args' : List Node),
      (∀ v after, (EvalM.evaluate receiver root).runOn ev.entered = (.ok v, after) →
        Placewise (fun i => Spelled (callback? v name i)) 0 args args') →
      let withTexts := (EvalM.evaluate (.method receiver name args) root).runOn ev
      let withArrows := (EvalM.evaluate (.method receiver name args') root).runOn ev
      ¬ Limited withTexts → ¬ Limited withArrows → withArrows = withTexts) ∧
    ∀ (exchange : Exchange) (ev : Evaluator) (expr : Node) (root : Value),
      let withTexts := (EvalM.evaluate expr root).runOn ev
      let withArrows := (exchange.evaluate expr root).runOn ev
      ¬ Limited withTexts → ¬ Limited withArrows → withArrows = withTexts := by
  refine ⟨?_, ?_, ?_⟩
  · intro receiver name i params expected depth part
    exact Expr.parse_arrow (Library.callback?_names expected) part
  · intro ev root receiver name args args' spelled
    exact (Spelled.call_ended spelled).eq
  · intro exchange ev expr root
    exact (exchange.levels_alike _ expr root ev).eq

/-- The text `x`. -/
def Expr.variableText : Expr.Part 1 where
  text := "x"
  node := .name "x"
  parses := by rfl
  plain mention := absurd (Node.mentions_name mention) (by decide)

/-- Passes every text `x` as an arrow. -/
def Exchange.variables : Exchange where
  picks _ text := text == "x"
  expressions _ _ picked := ⟨1, Expr.variableText, (beq_iff_eq.mp picked).symm⟩

/-- The items of a list that are true, filtered by the text `x` and by its arrow. -/
theorem filter_by_variable :
    let items : Node := .array [.bool true, .bool false]
    let byText : Node := .method items "filter" [.string "x"]
    let byArrow : Node := .method items "filter" [.lambda ["x", "index", "array"] (.name "x")]
    let ev := Evaluator.start ⟨9, 99, 9⟩ 0
    parseWithDepth "(x,index,array) =>x" 2 =
        .ok (.lambda ["x", "index", "array"] (.name "x")) ∧
      (EvalM.evaluate byArrow .null).runOn ev = (EvalM.evaluate byText .null).runOn ev ∧
      (Exchange.variables.evaluate byText .null).runOn ev =
        (EvalM.evaluate byText .null).runOn ev ∧
      ((EvalM.evaluate byText .null).runOn ev).1 = .ok (.array [.bool true]) := by
  intro items byText byArrow ev
  have unlimited : ∀ {act : EvalM Value}, (act.runOn ev).1.isOk = true →
      ¬ Limited (act.runOn ev) := by
    rintro act succeeds ⟨fault, limited⟩
    rw [limited] at succeeds
    cases succeeds
  have texts : ¬ Limited ((EvalM.evaluate byText .null).runOn ev) := unlimited (by decide +kernel)
  obtain ⟨parses, written, passed⟩ := texts_mean_arrows
  refine ⟨?_, ?_, ?_, rfl⟩
  · exact parses (.array []) "filter" 0 _ rfl 1 Expr.variableText
  · refine written ev .null items "filter" _ _ (fun v after ran => ?_) texts
      (unlimited (by decide +kernel))
    cases ran
    exact .cons (.arrow _ Expr.variableText) (.nil 1)
  · exact passed Exchange.variables ev byText .null texts (unlimited (by decide +kernel))

end DocExpr
