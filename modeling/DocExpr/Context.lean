import DocExpr.Value.Basic

/-! The bindings that an expression sees: a stack of scopes, searched from the innermost one
outwards. -/
namespace DocExpr

/-- Scopes, the innermost one first. -/
structure Context where
  scopes : List (Entries Value)

namespace Context

def empty : Context := ⟨[[]]⟩

/-- Binds a name in the innermost scope. -/
def bind (c : Context) (name : String) (value : Value) : Context :=
  match c.scopes with
  | [] => c
  | scope :: scopes => ⟨scope.insert name value :: scopes⟩

def lookup? (c : Context) (name : String) : Option Value :=
  c.scopes.findSome? fun scope => scope.find? name

def push (c : Context) : Context := ⟨[] :: c.scopes⟩

def pop (c : Context) : Context := ⟨c.scopes.tail⟩

/-- All bindings, those of outer scopes first. -/
def snapshot (c : Context) : List (String × Value) := c.scopes.reverse.flatten

/-- One scope with all of these bound one after the other. -/
def ofBindings (bindings : List (String × Value)) : Context :=
  bindings.foldl (fun c (name, value) => c.bind name value) .empty

/-- Binds parameters to arguments; those without an argument are null. -/
def bindParams (c : Context) (params : List String) (args : List Value) : Context :=
  match params, args with
  | [], _ => c
  | p :: params, [] => (c.bind p .null).bindParams params []
  | p :: params, a :: args => (c.bind p a).bindParams params args

/-- The new binding hides older ones of its name, and changes no other name. -/
theorem lookup?_bind {c : Context} (opened : c.scopes ≠ []) (name other : String)
    (value : Value) :
    (c.bind name value).lookup? other = if other = name then some value else c.lookup? other := by
  obtain ⟨scopes⟩ := c
  cases scopes with
  | nil => exact absurd rfl opened
  | cons scope scopes =>
    simp only [bind, lookup?, List.findSome?_cons, Entries.find?_insert]
    by_cases same : other = name <;> simp [same]

theorem lookup?_push (c : Context) (name : String) : c.push.lookup? name = c.lookup? name := by
  simp [push, lookup?, Entries.find?, List.findSome?_cons]

theorem pop_push (c : Context) : c.push.pop = c := rfl

theorem pop_bind_push (c : Context) (name : String) (value : Value) :
    (c.push.bind name value).pop = c := rfl

end Context
end DocExpr
