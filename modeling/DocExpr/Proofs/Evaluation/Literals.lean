import DocExpr.Expression
import DocExpr.Proofs.Evaluation.Run
import DocExpr.Proofs.Json.Grammar
import DocExpr.Proofs.Parser.Document
import DocExpr.Proofs.Value.Structure

/-! Trees whose evaluation is known step by step. The literal of a tree evaluates to the value of the
tree, whatever the document is; it takes one step for each value of the tree and leaves the evaluator
as it was but for these steps. A call takes the steps of its operands and one of its own, if what is
called takes none. -/
namespace DocExpr

namespace EvalM
variable {α β : Type}

/-- A computation that gives a value in so many steps wherever they are left, and does no more than
count them. -/
def Yields (act : EvalM α) (steps : Nat) (x : α) : Prop :=
  ∀ ev : Evaluator, ev.steps + steps ≤ ev.options.maxSteps →
    act.runOn ev = (.ok x, { ev with steps := ev.steps + steps })

theorem Yields.pure (x : α) : Yields (Pure.pure x) 0 x := fun _ _ => rfl

theorem Yields.bind {act : EvalM α} {f : α → EvalM β} {n m : Nat} {x : α} {y : β}
    (first : Yields act n x) (second : Yields (f x) m y) : Yields (act >>= f) (n + m) y := by
  intro ev enough
  have here : ev.steps + n ≤ ev.options.maxSteps := by omega
  rw [runOn_bind, first ev here]
  dsimp only
  rw [second _ (by dsimp only; omega)]
  dsimp only
  rw [Nat.add_assoc]

theorem Yields.then_pure {act : EvalM α} {n : Nat} {x : α} (yields : Yields act n x) (g : α → β) :
    Yields (act >>= fun a => Pure.pure (g a)) n (g x) :=
  Yields.bind (f := fun a => Pure.pure (g a)) yields (.pure (g x))

theorem yields_tick : Yields tick 1 () := by
  intro ev enough
  rw [runOn_tick, if_neg (by omega)]

theorem Yields.deeper {act : EvalM α} {n : Nat} {x : α} (yields : Yields act n x) :
    Yields (deeper act) n x := by
  intro ev enough
  rw [runOn_deeper, yields { ev with depth := ev.depth + 1 } enough]
  rfl

theorem Yields.lift {r : Except EvalError α} {x : α} (ok : r = .ok x) :
    Yields (Library.lift r) 0 x := by
  subst ok
  exact .pure x

theorem Yields.get {f : Evaluator → EvalM α} {n : Nat} {x : α} (each : ∀ ev, Yields (f ev) n x) :
    Yields (MonadState.get >>= f) n x := by
  intro ev enough
  rw [runOn_get]
  exact each ev ev enough

end EvalM

namespace Eval
open EvalM (Yields yields_tick)
open DocExpr.Expr (BinaryOp Node)
open DocExpr.Library (lift)

section
variable {eval : Eval} {root : Value}

theorem yields_items {items : List Json}
    (each : ∀ j ∈ items, Yields (eval (.ofJson j) root) j.nodes (.ofJson j)) :
    Yields ((items.map Node.ofJson).mapM (eval · root)) (Json.nodesOfItems items)
      (items.map Value.ofJson) := by
  induction items with
  | nil => exact .pure []
  | cons j js ih =>
    have first := each j List.mem_cons_self
    have later := ih fun j' isIn => each j' (List.mem_cons_of_mem j isIn)
    rw [List.map_cons, List.mapM_cons]
    exact first.bind (later.then_pure (Value.ofJson j :: ·))

theorem yields_entries {members : List (String × Json)}
    (each : ∀ m ∈ members, Yields (eval (.ofJson m.2) root) m.2.nodes (.ofJson m.2))
    (done : Entries Value) :
    Yields (eval.entries root done (members.map Node.ofJsonMember))
      (Json.nodesOfMembers members) (done.insertAll (members.map Value.ofJsonMember)) := by
  induction members generalizing done with
  | nil => exact .pure done
  | cons m ms ih =>
    have first := each m List.mem_cons_self
    have later := ih (fun m' isIn => each m' (List.mem_cons_of_mem m isIn))
      (done.insert m.1 (.ofJson m.2))
    exact first.bind later

theorem yields_level {n : Nat} {steps : Nat} {expr : Node} {v : Value}
    (yields : Yields ((levels n).node root expr) steps v) :
    Yields (levels (n + 1) expr root) (steps + 1) v := by
  rw [Nat.add_comm steps]
  exact Yields.bind (f := fun _ => EvalM.deeper ((levels n).node root expr)) yields_tick
    yields.deeper

end

theorem yields_leaf (root : Value) {j : Json} (leaf : j.isContainer = false) (n : Nat) :
    Yields (levels (n + 1) (.ofJson j) root) j.nodes (.ofJson j) := by
  cases j with
  | array | object => cases leaf
  | _ => exact yields_level (.pure _)

/-- The literal of a tree evaluates to its value. -/
theorem yields_ofJson (root : Value) {depth n : Nat} (deep : depth < n) {j : Json}
    (nests : j.NestsWithin depth) : Yields (levels n (.ofJson j) root) j.nodes (.ofJson j) := by
  obtain ⟨n, rfl⟩ : ∃ m, n = m + 1 := ⟨n - 1, by omega⟩
  -- on the nesting of the tree; each level of it is evaluated with the next level of `levels`
  induction depth generalizing n j with
  | zero => exact yields_leaf root nests n
  | succ depth ih =>
    obtain ⟨n, rfl⟩ : ∃ m, n = m + 1 := ⟨n - 1, by omega⟩
    have below : ∀ part ∈ j.parts,
        Yields (levels (n + 1) (.ofJson part) root) part.nodes (.ofJson part) :=
      fun part isPart => ih (nests part isPart) n (by omega)
    by_cases leaf : j.isContainer = false
    · exact yields_leaf root leaf _
    · cases j with
      | array items =>
        rw [Node.ofJson, Node.ofJsonItems_eq_map, Value.ofJson, Value.ofJsonItems_eq_map]
        exact yields_level ((yields_items below).then_pure Value.array)
      | object members =>
        rw [Node.ofJson, Node.ofJsonMembers_eq_map, Value.ofJson, Value.ofJsonMembers_eq_map]
        have each : ∀ m ∈ members,
            Yields (levels (n + 1) (.ofJson m.2) root) m.2.nodes (.ofJson m.2) :=
          fun m isIn => below m.2 (List.mem_map.mpr ⟨m, isIn, rfl⟩)
        exact yields_level ((yields_entries each []).then_pure Value.object)
      | _ => exact absurd rfl leaf

/-- The operands give these values, one after the other. -/
inductive Operands (eval : Eval) (root : Value) : List Node → Nat → List Value → Prop where
  | nil : Operands eval root [] 0 []
  | cons {node : Node} {nodes : List Node} {v : Value} {vs : List Value} {steps later : Nat}
      (first : Yields (eval node root) steps v) (rest : Operands eval root nodes later vs) :
      Operands eval root (node :: nodes) (steps + later) (v :: vs)

section
variable {eval : Eval} {root : Value}

theorem Operands.yields {nodes : List Node} {steps : Nat} {vs : List Value}
    (operands : Operands eval root nodes steps vs) :
    Yields (nodes.mapM (eval · root)) steps vs := by
  induction operands with
  | nil => exact .pure []
  | cons first _ ih =>
    rw [List.mapM_cons]
    exact first.bind (ih.then_pure (_ :: ·))

theorem yields_root (n : Nat) : Yields (levels (n + 1) .root root) 1 root :=
  yields_level (.pure root)

variable {n k l : Nat} {a b v : Value} {vs : List Value} {args : List Node}

theorem yields_method {receiver : Node} {name : String}
    (first : Yields (levels n receiver root) k a) (operands : Operands (levels n) root args l vs)
    (called : ∀ host, Library.callMethod host root a name vs = lift (.ok v)) :
    Yields (levels (n + 1) (.method receiver name args) root) (k + l + 1) v := by
  refine yields_level (first.bind (Yields.bind (m := 0) operands.yields (.get fun _ => ?_)))
  rw [called]
  exact .lift rfl

theorem yields_namespaceCall {space name : String} (operands : Operands (levels n) root args l vs)
    (called : ∀ ambient, Library.callNamespace ambient space name vs = .ok v) :
    Yields (levels (n + 1) (.namespaceCall space name args) root) (l + 1) v :=
  yields_level (Yields.bind (m := 0) operands.yields (.get fun _ => .lift (called _)))

theorem yields_binary {op : BinaryOp} {left right : Node} (first : Yields (levels n left root) k a)
    (second : Yields (levels n right root) l b) (continues : op.stopsAt a = false)
    (applied : ∀ limit, op.apply limit a b = .ok v) :
    Yields (levels (n + 1) (.binary op left right) root) (k + l + 1) v := by
  refine yields_level (first.bind ?_)
  rw [continues]
  exact Yields.bind (m := 0) second (.get fun _ => .lift (applied _))

end

end Eval

/-- A text is evaluated as its tree is, from the start on. -/
theorem evaluate_of_yields {text : String} {options : Options} {tree : Expr.Node}
    {document v : Value} {steps : Nat}
    (parsed : Expr.parseWithDepth text options.maxDepth = .ok tree)
    (yields : EvalM.Yields (Eval.levels options.maxDepth tree document) steps v)
    (enough : steps ≤ options.maxSteps) (label : Nat) :
    evaluate text document options label = .ok v := by
  have few : (Evaluator.start options label).steps + steps ≤ options.maxSteps := by
    rwa [Evaluator.start, Nat.zero_add]
  have run : ((EvalM.evaluate tree document).runOn (.start options label)).1 = .ok v :=
    congrArg Prod.fst (yields (.start options label) few)
  rw [evaluate, Expression.compile, parsed]
  exact run

/-- A text that writes a document evaluates to the document, whatever it is evaluated on. -/
theorem evaluate_of_spells {depth : Nat} {text : List Char} {j : Json} {options : Options}
    (spelled : Json.Padded (Json.Spells Expr.literal depth) text j)
    (deep : depth + 2 ≤ options.maxDepth) (enough : j.nodes ≤ options.maxSteps)
    (document : Value) (label : Nat) :
    evaluate (String.ofList text) document options label = .ok (.ofJson j) := by
  have parsed := Expr.parse_of_spells deep spelled
  obtain ⟨-, inner, -⟩ := spelled
  have yields := Eval.yields_ofJson document (n := options.maxDepth) (by omega) inner.nestsWithin
  exact evaluate_of_yields parsed yields enough label

end DocExpr
