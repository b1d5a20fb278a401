import DocExpr.Expr.Lexer
import DocExpr.Proofs.Json.Numeral

/-! How far a token looks ahead. A token reads alike in front of another rest of the text, as long
as that rest starts with nothing that the token could go on with and that did not follow it
before. -/
namespace DocExpr.Expr

/-- What a sequence gives, its two parts give one after the other. -/
theorem ok_of_bind {ε α β : Type} {x : Except ε α} {f : α → Except ε β} {b : β}
    (h : (x >>= f) = .ok b) : ∃ a, x = .ok a ∧ f a = .ok b := by
  cases x with
  | error e => cases h
  | ok a => exact ⟨a, rfl, h⟩

theorem bind_ok {ε α β : Type} {x : Except ε α} {f : α → Except ε β} {a : α} {b : β}
    (first : x = .ok a) (second : f a = .ok b) : (x >>= f) = .ok b := by
  rw [first]
  exact second

theorem ok_of_map {ε α β : Type} {x : Except ε α} {f : α → β} {b : β} (h : x.map f = .ok b) :
    ∃ a, x = .ok a ∧ f a = b := by
  cases x with
  | error e => cases h
  | ok a => exact ⟨a, rfl, Except.ok.inj h⟩

theorem error_of_map {ε α β : Type} {x : Except ε α} {f : α → β} {e : ε}
    (h : x.map f = .error e) : x = .error e := by
  cases x with
  | error e' => exact congrArg _ (Except.error.inj h)
  | ok a => cases h

/-- A character with which a token may go on, or which tells that a comment starts. -/
def goesOn (c : Char) : Bool :=
  Number.isDigit c || c.isAlpha || continuesName c ||
    ['*', '.', '=', '>', '&', '|', '+', '-'].contains c

theorem goesOn_of_isDigit {c : Char} (digit : Number.isDigit c = true) : goesOn c = true := by
  simp [goesOn, digit]

theorem goesOn_of_isAlpha {c : Char} (letter : c.isAlpha = true) : goesOn c = true := by
  simp [goesOn, letter]

theorem goesOn_of_continuesName {c : Char} (name : continuesName c = true) : goesOn c = true := by
  simp [goesOn, name]

theorem goesOn_of_part {c : Char} (part : c ∈ ['*', '.', '=', '>', '&', '|', '+', '-']) :
    goesOn c = true := by
  simp only [goesOn, List.contains_iff_mem.mpr part, Bool.or_true]

/-- Whatever `rest'` starts with and a token could go on with, `rest` starts with it too. -/
def NothingNew (rest rest' : List Char) : Prop :=
  ∀ w, (∀ c ∈ w, goesOn c = true) → w <+: rest' → w <+: rest

namespace NothingNew
variable {rest rest' : List Char}

theorem refl (rest : List Char) : NothingNew rest rest := fun _ _ front => front

theorem append (new : NothingNew rest rest') (before : List Char) :
    NothingNew (before ++ rest) (before ++ rest') := by
  intro w all front
  rcases List.prefix_or_prefix_of_prefix front (List.prefix_append before rest') with inside | past
  · exact inside.trans (List.prefix_append before rest)
  · obtain ⟨w', rfl⟩ := past
    have behind := (List.prefix_append_right_inj before).mp front
    have later := new w' (fun c isIn => all c (List.mem_append_right before isIn)) behind
    exact (List.prefix_append_right_inj before).mpr later

theorem of_head (stops : ∀ c ∈ rest'.head?, goesOn c = false) : NothingNew rest rest' := by
  intro w all front
  cases w with
  | nil => exact List.nil_prefix
  | cons c w =>
    obtain ⟨more, rfl⟩ := front
    have plain := stops c rfl
    rw [all c List.mem_cons_self] at plain
    cases plain

theorem single {c : Char} {more : List Char} (new : NothingNew rest (c :: more))
    (goes : goesOn c = true) : ∃ more', rest = c :: more' := by
  have all : ∀ d ∈ [c], goesOn d = true := by
    intro d isIn
    rw [List.mem_singleton.mp isIn]
    exact goes
  obtain ⟨more', same⟩ := new [c] all ⟨more, rfl⟩
  exact ⟨more', same.symm⟩

/-- A character that does not follow at first does not follow afterwards. -/
theorem absent {c : Char} (new : NothingNew rest rest') (goes : goesOn c = true)
    (none : ∀ more, rest = c :: more → False) (more : List Char) : rest' = c :: more → False := by
  rintro rfl
  obtain ⟨more', same⟩ := new.single goes
  exact none more' same

/-- Characters that do not come first at first do not come first afterwards. -/
theorem stops {p : Char → Bool} (sub : ∀ c, p c = true → goesOn c = true)
    (new : NothingNew rest rest') (stops : ∀ c ∈ rest.head?, p c = false) :
    ∀ c ∈ rest'.head?, p c = false := by
  intro c isFirst
  obtain ⟨more, rfl⟩ := List.head?_eq_some_iff.mp isFirst
  cases holds : p c with
  | false => rfl
  | true =>
    obtain ⟨more', rfl⟩ := new.single (sub c holds)
    exact holds.symm.trans (stops c rfl)

end NothingNew

theorem head?_dropWhile (p : Char → Bool) (cs : List Char) :
    ∀ c ∈ (cs.dropWhile p).head?, p c = false := by
  intro c isFirst
  have stopped := List.head?_dropWhile_not p cs
  rw [isFirst] at stopped
  exact stopped

section
variable {p : Char → Bool} {cs rest' : List Char}
  (sub : ∀ c, p c = true → goesOn c = true) (new : NothingNew (cs.dropWhile p) rest')
include sub new

theorem takeWhile_ahead : (cs.takeWhile p ++ rest').takeWhile p = cs.takeWhile p := by
  have stops := new.stops sub (head?_dropWhile p cs)
  rw [List.takeWhile_append_of_pos (List.all_eq_true.mp List.all_takeWhile)]
  have none : rest'.takeWhile p = [] := by
    cases rest' with
    | nil => rfl
    | cons c rest' => rw [List.takeWhile_cons_of_neg (by simp [stops c rfl])]
  rw [none, List.append_nil]

theorem dropWhile_ahead : (cs.takeWhile p ++ rest').dropWhile p = rest' := by
  have stops := new.stops sub (head?_dropWhile p cs)
  rw [List.dropWhile_append_of_pos (List.all_eq_true.mp List.all_takeWhile)]
  cases rest' with
  | nil => rfl
  | cons c rest' => rw [List.dropWhile_cons_of_neg (by simp [stops c rfl])]

end

section
variable {rest' : List Char}

/-- A closed string reads alike whatever follows it. -/
theorem stringRest_ahead {quote : Char} {start done cs : List Char} {s : String}
    {rest : List Char} (h : stringRest quote start done cs = .ok (s, rest)) :
    ∃ body, cs = body ++ rest ∧ ∀ start' rest',
      stringRest quote start' done (body ++ rest') = .ok (s, rest') := by
  fun_induction stringRest quote start done cs with
  | case1 | case2 | case4 | case5 => cases h
  | case3 done a b c d cs x escaped ih =>
    obtain ⟨body, rfl, reads⟩ := ih h
    refine ⟨'\\' :: 'u' :: a :: b :: c :: d :: body, rfl, fun start' rest' => ?_⟩
    simp only [List.cons_append]
    rw [stringRest, escaped]
    exact reads start' rest'
  | case6 done c cs long short ih =>
    obtain ⟨body, rfl, reads⟩ := ih h
    refine ⟨'\\' :: c :: body, rfl, fun start' rest' => ?_⟩
    rw [List.cons_append, List.cons_append, stringRest]
    · exact reads start' rest'
    · rintro a b c d rest rfl
      exact absurd rfl short
    · exact short
  | case7 done cs last unicode broken escape =>
    have plain : quote ≠ '\\' := by
      rintro rfl
      cases cs with
      | nil => exact last rfl rfl
      | cons c cs => exact escape c cs rfl rfl
    cases h
    refine ⟨[quote], rfl, fun start' rest' => ?_⟩
    rw [List.singleton_append, stringRest, if_pos rfl]
    all_goals
      intros
      exact plain ‹_›
  | case8 done c cs last unicode broken escape other ih =>
    have plain : c ≠ '\\' := by
      rintro rfl
      cases cs with
      | nil => exact last rfl rfl
      | cons c cs => exact escape c cs rfl rfl
    obtain ⟨body, rfl, reads⟩ := ih h
    refine ⟨c :: body, rfl, fun start' rest' => ?_⟩
    rw [List.cons_append, stringRest, if_neg other]
    · exact reads start' rest'
    all_goals
      intros
      exact plain ‹_›

theorem spanDigits_append (cs : List Char) :
    (Number.spanDigits cs).1 ++ (Number.spanDigits cs).2 = cs :=
  List.takeWhile_append_dropWhile

theorem spanDigits_ahead {cs : List Char} (new : NothingNew (Number.spanDigits cs).2 rest') :
    Number.spanDigits ((Number.spanDigits cs).1 ++ rest') = ((Number.spanDigits cs).1, rest') :=
  Prod.ext (takeWhile_ahead (fun _ => goesOn_of_isDigit) new)
    (dropWhile_ahead (fun _ => goesOn_of_isDigit) new)

/-- A digit at the front is among the digits that are read. -/
theorem spanDigits_cons {c : Char} (digit : Number.isDigit c = true) (cs : List Char) :
    Number.spanDigits (c :: cs) = (c :: (Number.spanDigits cs).1, (Number.spanDigits cs).2) := by
  simp only [Number.spanDigits, List.takeWhile_cons_of_pos digit, List.dropWhile_cons_of_pos digit]

theorem spanDigits_of_head {cs : List Char} (none : ∀ c ∈ cs.head?, Number.isDigit c = false) :
    Number.spanDigits cs = ([], cs) := by
  have read := Json.spanDigits_digits (List.forall_mem_nil _) none
  exact read

theorem spanFraction_append (cs : List Char) : (spanFraction cs).1 ++ (spanFraction cs).2 = cs := by
  fun_cases spanFraction cs with
  | case1 | case3 => rfl
  | case2 cs digits rest some found =>
    have whole := spanDigits_append cs
    rw [found] at whole
    exact congrArg ('.' :: ·) whole

theorem spanFraction_point {d : Char} (digit : Number.isDigit d = true) (cs : List Char) :
    spanFraction ('.' :: d :: cs) =
      ('.' :: (Number.spanDigits (d :: cs)).1, (Number.spanDigits (d :: cs)).2) := by
  rw [spanFraction, spanDigits_cons digit]

/-- No fraction is read where none was, if nothing new follows. -/
theorem spanFraction_none {rest : List Char} (none : (spanFraction rest).1 = [])
    (new : NothingNew rest rest') : spanFraction rest' = ([], rest') := by
  unfold spanFraction
  split
  next more =>
    have stops : ∀ c ∈ more.head?, Number.isDigit c = false := by
      intro c isFirst
      obtain ⟨more, rfl⟩ := List.head?_eq_some_iff.mp isFirst
      cases digit : Number.isDigit c with
      | false => rfl
      | true =>
        have all : ∀ d ∈ ['.', c], goesOn d = true :=
          List.forall_mem_cons.mpr ⟨goesOn_of_part (by decide), List.forall_mem_cons.mpr
            ⟨goesOn_of_isDigit digit, List.forall_mem_nil _⟩⟩
        obtain ⟨more', same⟩ := new ['.', c] all ⟨more, rfl⟩
        rw [← same, List.cons_append, List.singleton_append, spanFraction_point digit] at none
        cases none
    rw [spanDigits_of_head stops]
  next => rfl

theorem spanFraction_ahead {cs : List Char} (new : NothingNew (spanFraction cs).2 rest') :
    spanFraction ((spanFraction cs).1 ++ rest') = ((spanFraction cs).1, rest') := by
  revert new
  fun_cases spanFraction cs with
  | case1 cs rest found =>
    have none : (spanFraction ('.' :: cs)).1 = [] := by rw [spanFraction, found]
    exact spanFraction_none none
  | case2 cs digits rest some found =>
    intro new
    have ahead : Number.spanDigits ((Number.spanDigits cs).1 ++ rest') = _ :=
      spanDigits_ahead (by rwa [found])
    rw [found] at ahead
    rw [List.cons_append, spanFraction, ahead]
    cases digits with
    | nil => exact absurd rfl some
    | cons d digits => rfl
  | case3 cs pointless =>
    have none : (spanFraction cs).1 = [] := by rw [spanFraction]; exact pointless
    exact spanFraction_none none

theorem spanExponent?_signed {mark d : Char} {tail more : List Char} {negative : Bool}
    (isMark : mark = 'e' ∨ mark = 'E') (signed : Number.spanSign tail = (negative, d :: more))
    (digit : Number.isDigit d = true) :
    Number.spanExponent? (mark :: tail) =
      some (if negative then -(Number.natOfDigits (Number.spanDigits (d :: more)).1 : Int)
        else Number.natOfDigits (Number.spanDigits (d :: more)).1,
        (Number.spanDigits (d :: more)).2) := by
  rw [Number.spanExponent?, if_pos isMark, signed]
  dsimp only
  rw [spanDigits_cons digit]

/-- An exponent has a mark, perhaps a sign, and a digit. -/
theorem spanExponent?_parts {cs rest : List Char} {n : Int}
    (h : Number.spanExponent? cs = some (n, rest)) :
    ∃ mark tail negative d more, cs = mark :: tail ∧ (mark = 'e' ∨ mark = 'E') ∧
      Number.spanSign tail = (negative, d :: more) ∧ Number.isDigit d = true := by
  unfold Number.spanExponent? at h
  split at h
  next mark tail =>
    split at h
    next isMark =>
      cases signed : Number.spanSign tail with
      | mk negative behind =>
        rw [signed] at h
        cases behind with
        | nil => cases h
        | cons d more =>
          cases digit : Number.isDigit d with
          | true => exact ⟨mark, tail, negative, d, more, rfl, isMark, signed, digit⟩
          | false =>
            have stops : ∀ c ∈ (d :: more).head?, Number.isDigit c = false := by
              rintro _ ⟨⟩
              exact digit
            dsimp only at h
            rw [spanDigits_of_head stops] at h
            cases h
    next => cases h
  next => cases h

theorem spanExponent?_ahead {cs rest : List Char} {n : Int}
    (h : Number.spanExponent? cs = some (n, rest)) : ∃ body, cs = body ++ rest ∧
      ∀ rest', NothingNew rest rest' → Number.spanExponent? (body ++ rest') = some (n, rest') := by
  obtain ⟨mark, tail, negative, d, more, rfl, isMark, signed, digit⟩ := spanExponent?_parts h
  rw [spanExponent?_signed isMark signed digit] at h
  cases h
  obtain ⟨sign, whole, -, reads⟩ := Json.spanSign_reads signed
  refine ⟨mark :: (sign ++ (Number.spanDigits (d :: more)).1), ?_, fun rest' new => ?_⟩
  · rw [List.cons_append, List.append_assoc, spanDigits_append]
    exact congrArg (mark :: ·) whole
  · have ahead := spanDigits_ahead new
    have signed' := @reads d ((Number.spanDigits more).1 ++ rest') digit
    rw [spanDigits_cons digit] at ahead ⊢
    dsimp only at ahead ⊢
    rw [List.cons_append, List.append_assoc, List.cons_append,
      spanExponent?_signed isMark signed' digit, ← List.cons_append, ahead]

/-- No exponent is read where none was, if nothing new follows. -/
theorem spanExponent?_none {rest : List Char} (absent : Number.spanExponent? rest = none)
    (new : NothingNew rest rest') : Number.spanExponent? rest' = none := by
  cases found : Number.spanExponent? rest' with
  | none => rfl
  | some read =>
    obtain ⟨mark, tail, negative, d, more, rfl, isMark, signed, digit⟩ :=
      spanExponent?_parts found
    obtain ⟨sign, whole, isSign, reads⟩ := Json.spanSign_reads signed
    have all : ∀ c ∈ mark :: (sign ++ [d]), goesOn c = true := by
      refine List.forall_mem_cons.mpr ⟨?_, List.forall_mem_append.mpr ⟨?_, ?_⟩⟩
      · rcases isMark with rfl | rfl <;> exact goesOn_of_isAlpha rfl
      · simp only [List.mem_cons, List.not_mem_nil, or_false] at isSign
        rcases isSign with rfl | rfl | rfl
        · exact List.forall_mem_nil _
        · exact List.forall_mem_singleton.mpr (goesOn_of_part (by decide))
        · exact List.forall_mem_singleton.mpr (goesOn_of_part (by decide))
      · exact List.forall_mem_cons.mpr ⟨goesOn_of_isDigit digit, List.forall_mem_nil _⟩
    have front : mark :: (sign ++ [d]) <+: mark :: tail :=
      ⟨more, by rw [whole, List.cons_append, List.append_assoc, List.singleton_append]⟩
    obtain ⟨more', same⟩ := new _ all front
    rw [← same, List.cons_append, List.append_assoc, List.singleton_append,
      spanExponent?_signed isMark (@reads d more' digit) digit] at absent
    cases absent

theorem spanExponent_append (cs : List Char) : (spanExponent cs).1 ++ (spanExponent cs).2 = cs := by
  fun_cases spanExponent cs with
  | case1 n rest found =>
    obtain ⟨body, rfl, -⟩ := spanExponent?_ahead found
    rw [List.length_append, Nat.add_sub_cancel, List.take_left]
  | case2 => rfl

theorem spanExponent_ahead {cs : List Char} (new : NothingNew (spanExponent cs).2 rest') :
    spanExponent ((spanExponent cs).1 ++ rest') = ((spanExponent cs).1, rest') := by
  revert new
  fun_cases spanExponent cs with
  | case1 n rest found =>
    intro new
    obtain ⟨body, rfl, reads⟩ := spanExponent?_ahead found
    rw [List.length_append, Nat.add_sub_cancel, List.take_left, spanExponent, reads rest' new]
    dsimp only
    rw [List.length_append, Nat.add_sub_cancel, List.take_left]
  | case2 none =>
    intro new
    rw [List.nil_append, spanExponent, spanExponent?_none none new]

theorem spanNumeral_append (cs : List Char) : (spanNumeral cs).1 ++ (spanNumeral cs).2 = cs := by
  simp only [spanNumeral, List.append_assoc, spanExponent_append, spanFraction_append,
    spanDigits_append]

theorem spanNumeral_ahead {cs : List Char} (new : NothingNew (spanNumeral cs).2 rest') :
    spanNumeral ((spanNumeral cs).1 ++ rest') = ((spanNumeral cs).1, rest') := by
  have digits := spanDigits_append cs
  have digitsAhead {more : List Char} (new : NothingNew (Number.spanDigits cs).2 more) :=
    spanDigits_ahead new
  unfold spanNumeral at new ⊢
  generalize Number.spanDigits cs = whole at *
  obtain ⟨whole, rest₁⟩ := whole
  have point := spanFraction_append rest₁
  have pointAhead {more : List Char} (new : NothingNew (spanFraction rest₁).2 more) :=
    spanFraction_ahead new
  dsimp only at *
  generalize spanFraction rest₁ = fraction at *
  obtain ⟨fraction, rest₂⟩ := fraction
  have mark := spanExponent_append rest₂
  have markAhead := spanExponent_ahead new
  dsimp only at *
  -- behind each part stand the parts that follow it, in both texts
  have new₂ := mark ▸ new.append (spanExponent rest₂).1
  have new₁ := point ▸ new₂.append fraction
  have same : whole ++ fraction ++ (spanExponent rest₂).1 ++ rest' =
      whole ++ (fraction ++ ((spanExponent rest₂).1 ++ rest')) := by
    simp only [List.append_assoc]
  rw [same, digitsAhead new₁]
  dsimp only
  rw [pointAhead new₂]
  dsimp only
  rw [markAhead]

/-- Whatever follows a regex that is closed. -/
theorem regexBody_ahead {inClass : Bool} {done cs pattern rest : List Char}
    (h : regexBody inClass done cs = some (pattern, rest)) :
    ∃ body, cs = body ++ rest ∧ ∀ rest',
      regexBody inClass done (body ++ rest') = some (pattern, rest') := by
  fun_induction regexBody inClass done cs with
  | case1 | case2 | case4 => cases h
  | case3 inClass done c cs ih =>
    obtain ⟨body, rfl, reads⟩ := ih h
    exact ⟨'\\' :: c :: body, rfl, reads⟩
  | case5 inClass done c cs last escape notBreak closes =>
    have plain : c ≠ '\\' := by
      rintro rfl
      cases closes.1
    cases h
    refine ⟨[c], rfl, fun rest' => ?_⟩
    rw [List.singleton_append, regexBody, if_neg notBreak, if_pos closes]
    all_goals
      intros
      exact plain ‹_›
  | case6 inClass done c cs last escape notBreak goesOn ih =>
    have plain : c ≠ '\\' := by
      rintro rfl
      cases cs with
      | nil => exact last rfl rfl
      | cons c cs => exact escape c cs rfl rfl
    obtain ⟨body, rfl, reads⟩ := ih h
    refine ⟨c :: body, rfl, fun rest' => ?_⟩
    rw [List.cons_append, regexBody, if_neg notBreak, if_neg goesOn]
    · exact reads rest'
    all_goals
      intros
      exact plain ‹_›

theorem regexFlags_ahead {done cs flags rest : List Char}
    (h : regexFlags done cs = .ok (flags, rest)) :
    ∃ body, cs = body ++ rest ∧ ∀ rest', NothingNew rest rest' →
      regexFlags done (body ++ rest') = .ok (flags, rest') := by
  have stopped {done rest rest' : List Char} (none : ∀ c ∈ rest.head?, c.isAlpha = false)
      (new : NothingNew rest rest') : regexFlags done rest' = .ok (done.reverse, rest') := by
    have stops := new.stops (fun _ => goesOn_of_isAlpha) none
    cases rest' with
    | nil => rfl
    | cons c rest' => rw [regexFlags, if_pos (by simp [stops c rfl])]
  fun_induction regexFlags done cs with
  | case1 done =>
    cases h
    refine ⟨[], rfl, fun rest' new => stopped ?_ new⟩
    rintro _ ⟨⟩
  | case2 done c cs other =>
    cases h
    refine ⟨[], rfl, fun rest' new => stopped ?_ new⟩
    rintro _ ⟨⟩
    exact Bool.eq_false_iff.mpr (by simpa using other)
  | case3 done c cs letter flag ih =>
    obtain ⟨body, rfl, reads⟩ := ih h
    refine ⟨c :: body, rfl, fun rest' new => ?_⟩
    rw [List.cons_append, regexFlags, if_neg letter, if_pos flag]
    exact reads rest' new
  | case4 => cases h

theorem regexToken_ahead {start cs rest : List Char} {token : Token}
    (h : regexToken start cs = .ok (token, rest)) : ∃ body, cs = body ++ rest ∧
      ∀ start' rest', NothingNew rest rest' →
        regexToken start' (body ++ rest') = .ok (token, rest') := by
  unfold regexToken at h ⊢
  split at h
  · cases h
  next pattern after found =>
    obtain ⟨⟨flags, after'⟩, read, h⟩ := ok_of_bind h
    dsimp only at h
    split at h
    · cases h
    next some =>
      cases h
      obtain ⟨body, rfl, readsBody⟩ := regexBody_ahead found
      obtain ⟨marks, rfl, readsFlags⟩ := regexFlags_ahead read
      refine ⟨body ++ marks, (List.append_assoc _ _ _).symm, fun start' rest' new => ?_⟩
      rw [List.append_assoc, readsBody]
      dsimp only
      rw [readsFlags rest' new]
      exact if_neg some

/-- A name is no symbol. -/
theorem symbol?_name {c : Char} {cs : List Char} (name : startsName c = true) :
    symbol? (c :: cs) = none := by
  generalize whole : c :: cs = text
  fun_cases symbol? text
  case case32 => rfl
  all_goals
    cases whole
    cases name

theorem symbol?_ahead {c : Char} {cs rest : List Char} {s : Symbol}
    (h : symbol? (c :: cs) = some (s, rest)) : ∃ body, cs = body ++ rest ∧
      ∀ rest', NothingNew rest rest' → symbol? (c :: (body ++ rest')) = some (s, rest') := by
  have notDot {rest rest' : List Char} (new : NothingNew rest rest') :=
    new.absent (goesOn_of_part (c := '.') (by decide))
  have notEqual {rest rest' : List Char} (new : NothingNew rest rest') :=
    new.absent (goesOn_of_part (c := '=') (by decide))
  generalize whole : c :: cs = text at h
  revert h
  fun_cases symbol? text
  case case32 =>
    intro h
    cases h
  all_goals
    intro h
    cases h
    cases whole
    first
      | refine ⟨[], rfl, fun rest' new => ?_⟩
      | refine ⟨[_], rfl, fun rest' new => ?_⟩
      | refine ⟨[_, _], rfl, fun rest' new => ?_⟩
    simp only [List.cons_append, List.nil_append]
    first
      | rfl
      | rw [symbol?]
  -- a longer symbol would have to go on with a point or an equals sign
  all_goals
    intro more
    first
      | exact notDot new ‹_› _
      | exact notEqual new ‹_› _

theorem spanNumeral_cons {c : Char} (digit : Number.isDigit c = true) (cs : List Char) :
    ∃ numeral, (spanNumeral (c :: cs)).1 = c :: numeral := by
  unfold spanNumeral
  rw [spanDigits_cons digit]
  exact ⟨_, rfl⟩

/-- A token reads alike in front of a rest of the text that starts with nothing new. -/
theorem readToken_ahead {regexAllowed : Bool} {c : Char} {cs rest : List Char} {token : Token}
    (h : readToken regexAllowed c cs = .ok (token, rest)) : ∃ body, cs = body ++ rest ∧
      ∀ rest', NothingNew rest rest' →
        readToken regexAllowed c (body ++ rest') = .ok (token, rest') := by
  unfold readToken at h ⊢
  dsimp only at h ⊢
  split at h
  next quote =>
    obtain ⟨⟨s, after⟩, read, same⟩ := ok_of_map h
    cases same
    obtain ⟨body, rfl, reads⟩ := stringRest_ahead read
    refine ⟨body, rfl, fun rest' _ => ?_⟩
    rw [if_pos quote, reads]
    rfl
  next noQuote =>
    simp only [if_neg noQuote]
    split at h
    next digit =>
      simp only [if_pos digit]
      cases h
      obtain ⟨body, starts⟩ := spanNumeral_cons digit cs
      have whole := spanNumeral_append (c :: cs)
      rw [starts] at whole
      refine ⟨body, (List.cons.inj whole).2.symm, fun rest' new => ?_⟩
      have ahead := spanNumeral_ahead new
      rw [starts] at ahead
      rw [← List.cons_append, ahead, starts]
    next noDigit =>
      simp only [if_neg noDigit]
      split at h
      next regex =>
        simp only [if_pos regex]
        obtain ⟨body, rfl, reads⟩ := regexToken_ahead h
        exact ⟨body, rfl, fun rest' new => reads _ rest' new⟩
      next noRegex =>
        simp only [if_neg noRegex]
        split at h
        next s after spelled =>
          cases h
          obtain ⟨body, rfl, reads⟩ := symbol?_ahead spelled
          refine ⟨body, rfl, fun rest' new => ?_⟩
          rw [reads rest' new]
        next unspelled =>
          split at h
          next name =>
            cases h
            simp only [symbol?_name name, name, if_true]
            refine ⟨cs.takeWhile continuesName, (List.takeWhile_append_dropWhile).symm,
              fun rest' new => ?_⟩
            rw [takeWhile_ahead (fun _ => goesOn_of_continuesName) new,
              dropWhile_ahead (fun _ => goesOn_of_continuesName) new]
          next => cases h

end
end DocExpr.Expr
