import DocExpr.Proofs.Evaluation.Literals
import DocExpr.Proofs.Number.Whole
import DocExpr.Proofs.Path.Plain

/-! Positions of a document and their path texts. A position is given by the keys and indexes that
lead to it from the document, and written with each of them in brackets it is a path: an expression
that has the value there, and a text by which the value is found. -/
namespace DocExpr
open DocExpr.Expr (Lexes Node Segment Token)

/-- One step down into a document. -/
inductive Place where
  | key (name : String)
  | item (i : Nat)

namespace Place

/-- A character of a key between single quotes. -/
def escape (c : Char) : List Char := if c = '\\' ∨ c = '\'' then ['\\', c] else [c]

/-- What stands in the brackets. -/
def inner : Place → List Char
  | .key name => '\'' :: (name.toList.flatMap escape ++ ['\''])
  | .item i => Number.digitChars i

/-- A step in its brackets. -/
def text (p : Place) : List Char := '[' :: (p.inner ++ [']'])

/-- The accessor that a step is. -/
def segment : Place → Segment
  | .key name => .field name
  | .item i => .index i

/-- An index that a double holds. -/
def isSmall : Place → Prop
  | .key _ => True
  | .item i => i < 2 ^ 53

end Place

/-- The path text of a position. -/
def pathText (places : List Place) : String :=
  String.ofList ('$' :: places.flatMap Place.text)

namespace Value

/-- The value at a position. -/
inductive At : Value → List Place → Value → Prop where
  | here (v : Value) : At v [] v
  | key {entries : List (String × Value)} {k : String} {part v : Value} {places : List Place}
      (entry : (k, part) ∈ entries) (below : At part places v) :
      At (.object entries) (.key k :: places) v
  | item {items : List Value} {i : Nat} {part v : Value} {places : List Place}
      (found : items[i]? = some part) (below : At part places v) :
      At (.array items) (.item i :: places) v

/-- No array in the value has an item whose index is no exact double. -/
def ShortArrays (v : Value) : Prop :=
  ∀ items, Inside parts v (.array items) → items.length < 2 ^ 53

theorem ShortArrays.part {v part : Value} (short : v.ShortArrays) (isPart : part ∈ v.parts) :
    part.ShortArrays :=
  fun items inside => short items (.of_part isPart inside)

theorem At.isSmall {d v : Value} {places : List Place} (at_ : d.At places v)
    (short : d.ShortArrays) : ∀ p ∈ places, p.isSmall := by
  induction at_ with
  | here => exact fun _ isIn => absurd isIn List.not_mem_nil
  | key entry below ih =>
    exact List.forall_mem_cons.mpr ⟨trivial, ih (short.part (mem_parts_of_entry entry))⟩
  | @item items i part v places found below ih =>
    have within : i < items.length := (List.getElem?_eq_some_iff.mp found).1
    have small : i < 2 ^ 53 := Nat.lt_trans within (short items .whole)
    exact List.forall_mem_cons.mpr ⟨small, ih (short.part (List.mem_of_getElem? found))⟩

/-- The accessors lead to the position, and each of them finds what it is for. -/
theorem At.walk {d v : Value} {places : List Place} (at_ : d.At places v)
    (distinct : d.DistinctKeys) : Path.walk? d (places.map Place.segment) = some v := by
  induction at_ with
  | here => rfl
  | @key entries k part v places entry below ih =>
    have found : (Value.object entries).get? k = some part :=
      Entries.find?_of_mem (distinct entries .whole) entry
    have here : Path.present? (.field k) (.object entries) = some part := by
      have noLength : (if k = "length" then Path.length? (.object entries) else none) = none :=
        ite_self none
      rw [Path.present?, noLength, found, Option.none_or]
    rw [List.map_cons, Path.walk?, Place.segment, here]
    exact ih (distinct.part (mem_parts_of_entry entry))
  | @item items i part v places found below ih =>
    have here : Path.present? (.index i) (.array items) = some part := by
      rw [Path.present?, Path.element?, if_neg (by omega)]
      exact found
    rw [List.map_cons, Path.walk?, Place.segment, here]
    exact ih (distinct.part (List.mem_of_getElem? found))

end Value

namespace Expr

theorem stringRest_escape {quote c : Char} (noUnit : c ≠ 'u') (start done cs : List Char) :
    stringRest quote start done ('\\' :: c :: cs) =
      stringRest quote start (escapedChar c :: done) cs := by
  rw [stringRest]
  · rintro a b c d rest rfl
    exact absurd rfl noUnit
  · exact noUnit

theorem stringRest_key (cs start done rest : List Char) :
    stringRest '\'' start done (cs.flatMap Place.escape ++ '\'' :: rest) =
      .ok (String.ofList (done.reverse ++ cs), rest) := by
  induction cs generalizing done with
  | nil =>
    rw [List.flatMap_nil, List.nil_append, stringRest_plain (by decide), if_pos rfl,
      List.append_nil]
  | cons c cs ih =>
    have later := ih (c :: done)
    rw [List.reverse_cons, List.append_assoc, List.singleton_append] at later
    rw [List.flatMap_cons, List.append_assoc, ← later, Place.escape]
    split
    next escaped =>
      have itself : c ≠ 'u' ∧ escapedChar c = c := by
        rcases escaped with rfl | rfl
        · exact ⟨by decide, rfl⟩
        · exact ⟨by decide, rfl⟩
      simp only [List.cons_append, List.nil_append]
      rw [stringRest_escape itself.1, itself.2]
    next plain =>
      rw [List.singleton_append, stringRest_plain (fun same => plain (.inl same)),
        if_neg (fun same => plain (.inr same))]

theorem lexes_key (name : String) : Lexes (Place.key name).inner [.string name] := by
  intro more others separate back regexAllowed
  rw [Place.inner, List.cons_append, List.append_assoc, List.singleton_append]
  refine .token rfl ?_ (back _)
  rw [readToken, if_pos (.inr rfl), stringRest_key, List.reverse_nil, List.nil_append,
    String.ofList_toList]
  rfl

/-- What stands in the brackets is one token, and the accessor that this token gives. -/
theorem lexes_inner {p : Place} (small : p.isSmall) :
    ∃ token, Lexes p.inner [token] ∧ ∀ source level start offset rest,
      startsWith .rightBracket rest = true →
        bracketSegment source level start (⟨token, offset⟩ :: rest) = .ok (p.segment, rest) := by
  cases p with
  | key name =>
    refine ⟨.string name, lexes_key name, fun source level start offset rest closes => ?_⟩
    rw [bracketSegment]
    exact if_pos closes
  | item i =>
    obtain ⟨x, read, whole, exact_⟩ := Number.ofNumeral?_whole small
    refine ⟨.number x, lexes_numeral (Number.digits_digitChars i).numeral read,
      fun source level start offset rest closes => ?_⟩
    rw [bracketSegment]
    dsimp only
    rw [closes, whole, exact_]
    rfl

/-- These tokens read as accessors that follow an expression to the end of the text. -/
def Follows (tokens : List Token) (segments : List Segment) : Prop :=
  ∀ source level fuel node ts, ts.map Spanned.token = tokens → ts.length < fuel →
    postfixes source level fuel node ts = .ok (segments.foldl Node.withSegment node, [])

theorem Follows.nil : Follows [] [] := by
  intro source level fuel node ts same enough
  cases List.map_eq_nil_iff.mp same
  obtain ⟨fuel, rfl⟩ : ∃ n, fuel = n + 1 := ⟨fuel - 1, by omega⟩
  rfl

/-- An accessor in brackets in front of others. -/
theorem Follows.cons {token : Token} {segment : Segment} {tokens : List Token}
    {segments : List Segment} (later : Follows tokens segments)
    (first : ∀ source level start offset rest, startsWith .rightBracket rest = true →
      bracketSegment source level start (⟨token, offset⟩ :: rest) = .ok (segment, rest)) :
    Follows (.symbol .leftBracket :: token :: .symbol .rightBracket :: tokens)
      (segment :: segments) := by
  intro source level fuel node ts same enough
  obtain ⟨opensAt, ts, rfl, inside⟩ := front_of_tokens same
  obtain ⟨offset, ts, rfl, closed⟩ := front_of_tokens inside
  obtain ⟨closesAt, ts, rfl, behind⟩ := front_of_tokens closed
  simp only [List.length_cons] at enough
  obtain ⟨fuel, rfl⟩ : ∃ n, fuel = n + 1 := ⟨fuel - 1, by omega⟩
  have found := first source level opensAt offset (⟨.symbol .rightBracket, closesAt⟩ :: ts) rfl
  rw [postfixes]
  refine bind_ok found ?_
  exact later source level fuel (node.withSegment segment) ts behind (by omega)

/-- A step in its brackets reads as the accessor that it is, in front of others. -/
theorem lexes_text {p : Place} (small : p.isSmall) :
    ∃ token, Lexes p.text [.symbol .leftBracket, token, .symbol .rightBracket] ∧
      ∀ {tokens segments}, Follows tokens segments →
        Follows (.symbol .leftBracket :: token :: .symbol .rightBracket :: tokens)
          (p.segment :: segments) := by
  obtain ⟨token, inner, accessor⟩ := lexes_inner small
  refine ⟨token, ?_, fun later => later.cons accessor⟩
  exact inner.enclosed (by decide) (by decide) (fun _ => rfl) fun _ => rfl

theorem separate_places {places : List Place} {more : List Char} (separate : Separate more) :
    Separate (places.flatMap Place.text ++ more) := by
  cases places with
  | nil => exact separate
  | cons p places => exact .mark (by decide) _

/-- The steps to a position read as accessors in brackets. -/
theorem lexes_places {places : List Place} (small : ∀ p ∈ places, p.isSmall) :
    ∃ tokens, Lexes (places.flatMap Place.text) tokens ∧
      Follows tokens (places.map Place.segment) := by
  induction places with
  | nil => exact ⟨[], .nil, .nil⟩
  | cons p places ih =>
    obtain ⟨here, beyond⟩ := List.forall_mem_cons.mp small
    obtain ⟨token, bracketed, accessor⟩ := lexes_text here
    obtain ⟨tokens, later, follows⟩ := ih beyond
    refine ⟨_, ?_, accessor follows⟩
    intro more others separate back
    rw [List.flatMap_cons, List.append_assoc]
    exact bracketed (separate_places separate) (later separate back)

/-- A path from the document on. -/
def Node.rooted : List Segment → Node
  | [] => .root
  | segments => .path .root segments

theorem foldl_withSegment_path (segments done : List Segment) :
    segments.foldl Node.withSegment (.path .root done) = .path .root (done ++ segments) := by
  induction segments generalizing done with
  | nil => exact congrArg (Node.path .root) (List.append_nil done).symm
  | cons s ss ih =>
    rw [List.foldl_cons, Node.withSegment, ih, List.append_assoc, List.singleton_append]

theorem foldl_withSegment (segments : List Segment) :
    segments.foldl Node.withSegment .root = .rooted segments := by
  cases segments with
  | nil => rfl
  | cons s ss => exact foldl_withSegment_path ss [s]

theorem parse_pathText {places : List Place} (small : ∀ p ∈ places, p.isSmall) (depth : Nat) :
    parseWithDepth (pathText places) (depth + 1) = .ok (.rooted (places.map Place.segment)) := by
  obtain ⟨tokens, lexes, follows⟩ := lexes_places small
  have reads : Reads true (pathText places).toList (.symbol .dollar :: tokens) := by
    rw [pathText, String.toList_ofList]
    have others := lexes .nil (fun _ => .done rfl) (Token.symbol .dollar).allowsRegex
    rw [List.append_nil, List.append_nil] at others
    exact .token rfl rfl others
  obtain ⟨ts, read, same⟩ := reads.tokensOf
  obtain ⟨offset, ts, rfl, behind⟩ := front_of_tokens same
  have first : operand (pathText places).toList (levelAt (pathText places).toList (depth + 1) depth)
      (⟨.symbol .dollar, offset⟩ :: ts) = .ok (.rooted (places.map Place.segment), []) := by
    rw [operand_plain rfl, ← foldl_withSegment]
    exact bind_ok rfl (follows _ _ _ .root ts behind (Nat.lt_succ_self _))
  exact parse_of_tokens read (bind_ok first rfl)

theorem pathText_ends (places : List Place) :
    ∃ front c, '$' :: places.flatMap Place.text = front ++ [c] ∧ Text.isBlank c = false := by
  rcases List.eq_nil_or_concat places with rfl | ⟨before, p, rfl⟩
  · exact ⟨[], '$', rfl, rfl⟩
  · refine ⟨'$' :: (before.flatMap Place.text ++ '[' :: p.inner), ']', ?_, rfl⟩
    rw [List.concat_eq_append, List.flatMap_append, List.flatMap_singleton, Place.text]
    simp

theorem trim_pathText (places : List Place) :
    Text.trim (pathText places).toList = (pathText places).toList := by
  obtain ⟨front, c, ends, solid⟩ := pathText_ends places
  have left : Text.trimLeft ('$' :: places.flatMap Place.text) =
      '$' :: places.flatMap Place.text := rfl
  rw [pathText, String.toList_ofList, Text.trim, left, ends, Text.trimRight,
    List.reverse_append, List.reverse_singleton, List.singleton_append,
    List.dropWhile_cons_of_neg (by simp [solid])]
  simp

theorem parsePath_pathText {places : List Place} (small : ∀ p ∈ places, p.isSmall) (depth : Nat) :
    parsePath (pathText places) (depth + 1) = .ok (.rooted (places.map Place.segment)) := by
  have isPath : (Node.rooted (places.map Place.segment)).isPath = true := by
    cases places with
    | nil => rfl
    | cons p places => rfl
  have rooted : rootedPath (pathText places).toList = ((pathText places).toList, 0) := by
    rw [pathText, String.toList_ofList]
    rfl
  unfold parsePath
  simp only [trim_pathText, rooted, String.ofList_toList, parse_pathText small, isPath, if_true]

end Expr

section
variable {d v : Value} {places : List Place} (at_ : d.At places v) (distinct : d.DistinctKeys)
include at_ distinct

theorem Eval.runOn_follow (eval : Eval) (root : Value) (ev : Evaluator) :
    (eval.follow root d (places.map Place.segment)).runOn ev = (.ok v, ev) := by
  have plain : ∀ s ∈ places.map Place.segment, Path.isPlain s = true := by
    intro s isIn
    obtain ⟨p, -, rfl⟩ := List.mem_map.mp isIn
    cases p with
    | key name => rfl
    | item i => rfl
  have led : ∀ guide, Path.resolve guide d (places.map Place.segment) = pure v := by
    intro guide
    rw [Path.resolve_eq_moves guide plain, Path.moves_of_walk _ plain (at_.walk distinct)]
    rfl
  rw [Eval.follow, EvalM.runOn_get, led]
  rfl

theorem Eval.yields_rooted (n : Nat) : ∃ steps ≤ 2,
    EvalM.Yields (Eval.levels (n + 2) (.rooted (places.map Place.segment)) d) steps v := by
  cases places with
  | nil =>
    cases at_
    exact ⟨1, by decide, yields_level (.pure d)⟩
  | cons p places =>
    have root : EvalM.Yields (Eval.levels (n + 1) .root d) 1 d := yields_level (.pure d)
    have whole := EvalM.Yields.bind (m := 0) (f := fun v => follow (levels (n + 1)) d v _) root
      fun ev _ => runOn_follow at_ distinct (levels (n + 1)) d ev
    exact ⟨2, Nat.le_refl 2, yields_level whole⟩

theorem Eval.runOn_resolvePath_rooted (eval : Eval) {ev : Evaluator} {depth : Nat} {path : String}
    (limit : ev.options.maxDepth = depth)
    (parsed : Expr.parsePath path depth = .ok (.rooted (places.map Place.segment))) :
    (eval.resolvePath d path).runOn ev = (.ok v, ev) := by
  have followed := runOn_follow at_ distinct eval d ev
  rw [Eval.resolvePath, EvalM.runOn_get, limit, parsed]
  cases places with
  | nil =>
    cases at_
    rfl
  | cons p places => exact followed

end

/-- Every position of a document is reached by its path text, both as an expression and as a
path. -/
theorem positions_reachable {d v : Value} {places : List Place} (at_ : d.At places v)
    (distinct : d.DistinctKeys) (short : d.ShortArrays) {options : Options}
    (deep : 2 ≤ options.maxDepth) (enough : 2 ≤ options.maxSteps) (label : Nat) :
    evaluate (pathText places) d options label = .ok v ∧ jsonPath d (pathText places) = .ok v := by
  have small := at_.isSmall short
  constructor
  · obtain ⟨depth, levels⟩ : ∃ n, options.maxDepth = n + 2 := ⟨options.maxDepth - 2, by omega⟩
    have parsed := Expr.parse_pathText small (depth + 1)
    obtain ⟨steps, few, yields⟩ := Eval.yields_rooted at_ distinct depth
    have room : 0 + steps ≤ options.maxSteps := by omega
    have run := congrArg Prod.fst (yields (.start options label) room)
    rw [← levels] at run parsed
    rw [evaluate, Expression.compile, parsed]
    exact run
  · have parsed := Expr.parsePath_pathText small 255
    have limit : (Evaluator.start {} 0).options.maxDepth = 255 + 1 := rfl
    rw [jsonPath, EvalM.resolvePath, EvalM.runOn_get,
      Eval.runOn_resolvePath_rooted at_ distinct _ limit parsed]

/-- An array under the name of its own length, and in it an object with a quoted key. -/
def Value.awkward : Value :=
  .object [("length", .array [.object [("it's [0]\\", .bool true)]])]

theorem Value.awkward_parts {part : Value} (inside : Inside parts awkward part) :
    part = awkward ∨ part = .array [.object [("it's [0]\\", .bool true)]] ∨
      part = .object [("it's [0]\\", .bool true)] ∨ part = .bool true := by
  rcases inside.cases_part with rfl | ⟨list, isIn, inside⟩
  · exact .inl rfl
  cases List.mem_singleton.mp isIn
  rcases inside.cases_part with rfl | ⟨entries, isIn, inside⟩
  · exact .inr (.inl rfl)
  cases List.mem_singleton.mp isIn
  rcases inside.cases_part with rfl | ⟨leaf, isIn, inside⟩
  · exact .inr (.inr (.inl rfl))
  cases List.mem_singleton.mp isIn
  rcases inside.cases_part with rfl | ⟨_, isIn, -⟩
  · exact .inr (.inr (.inr rfl))
  · cases isIn

/-- The name `length` is a key where there is one, and quotes and brackets in a key are no end of
it. -/
theorem awkward_position_reachable :
    Value.awkward.At [.key "length", .item 0, .key "it's [0]\\"] (.bool true) ∧
      Value.awkward.DistinctKeys ∧ Value.awkward.ShortArrays ∧
      evaluate "$['length'][0]['it\\'s [0]\\\\']" .awkward {} 0 = .ok (.bool true) ∧
      jsonPath .awkward "$['length'][0]['it\\'s [0]\\\\']" = .ok (.bool true) := by
  have at_ : Value.awkward.At [.key "length", .item 0, .key "it's [0]\\"] (.bool true) :=
    .key List.mem_cons_self (.item rfl (.key List.mem_cons_self (.here _)))
  have distinct : Value.awkward.DistinctKeys := by
    intro entries inside
    rcases Value.awkward_parts inside with h | h | h | h
    all_goals
      cases h
      try decide
  have short : Value.awkward.ShortArrays := by
    intro items inside
    rcases Value.awkward_parts inside with h | h | h | h
    all_goals
      cases h
      try decide
  have text : pathText [.key "length", .item 0, .key "it's [0]\\"] =
      "$['length'][0]['it\\'s [0]\\\\']" := by decide
  refine ⟨at_, distinct, short, ?_⟩
  rw [← text]
  exact positions_reachable at_ distinct short (by decide) (by decide) 0

end DocExpr
