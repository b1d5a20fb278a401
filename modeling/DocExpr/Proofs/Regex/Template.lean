import DocExpr.Library.Text
import DocExpr.Proofs.Number.Numeral
import Mathlib.Data.List.TakeWhile

/-! Replacement texts, cut into parts. A dollar sign with one digit behind it, or with two where two
stand there, refers to the group with that number, whether or not the regex has it; a name between
angle brackets refers to the group of that name. What a group that is missing or took no part refers
to is empty, and all else is copied. -/
namespace DocExpr.Regex
open Number (Digits isDigit natOfDigits)

/-- A part of a replacement text. -/
inductive Part where
  /-- A character that stands for itself. -/
  | plain (c : Char)
  | group (index : Nat)
  | named (name : List Char)

/-- One digit or two, with a number that counts as the number of a group. -/
structure Numbering (counts : Nat → Prop) (digits : List Char) : Prop where
  isDigits : Digits digits
  short : digits.length ≤ 2
  counted : counts (natOfDigits digits)

/-- A replacement text cut into its parts. Of the digits behind a dollar sign as many as possible
are taken, and a dollar sign stands for itself where nothing else begins. -/
inductive Parts (counts : Nat → Prop) : List Char → List Part → Prop where
  | nil : Parts counts [] []
  | plain {c : Char} {cs : List Char} {ps : List Part} (other : c ≠ '$')
      (rest : Parts counts cs ps) : Parts counts (c :: cs) (.plain c :: ps)
  | dollar {cs : List Char} {ps : List Part} (rest : Parts counts cs ps) :
      Parts counts ('$' :: '$' :: cs) (.plain '$' :: ps)
  | whole {cs : List Char} {ps : List Part} (rest : Parts counts cs ps) :
      Parts counts ('$' :: '&' :: cs) (.group 0 :: ps)
  | number {digits cs : List Char} {ps : List Part} (numbering : Numbering counts digits)
      (longest : ∀ more, Numbering counts more → more <+: digits ++ cs →
        more.length ≤ digits.length)
      (rest : Parts counts cs ps) :
      Parts counts ('$' :: (digits ++ cs)) (.group (natOfDigits digits) :: ps)
  | name {name cs : List Char} {ps : List Part} (closed : '>' ∉ name)
      (rest : Parts counts cs ps) :
      Parts counts ('$' :: '<' :: (name ++ '>' :: cs)) (.named name :: ps)
  | stray {cs : List Char} {ps : List Part} (single : '$' ∉ cs.head?) (noWhole : '&' ∉ cs.head?)
      (noNumber : ∀ digits, Numbering counts digits → ¬ digits <+: cs)
      (noName : ∀ name, '>' ∉ name → ¬ '<' :: (name ++ ['>']) <+: cs)
      (rest : Parts counts cs ps) : Parts counts ('$' :: cs) (.plain '$' :: ps)

/-- What a group has matched, nothing if it is missing or took no part. -/
def groupText (texts : List (Option (List Char))) (i : Nat) : List Char :=
  (texts.getD i none).getD []

/-- What stands for a part. -/
def Part.text (p : Program) (texts : List (Option (List Char))) : Part → List Char
  | .plain c => [c]
  | .group i => groupText texts i
  | .named name => ((p.names.lookup (String.ofList name)).map (groupText texts)).getD []

/-- A name keeps its meaning in braces: none in it closes them, and it is not taken for a number. -/
def Part.Braceable : Part → Prop
  | .named name => '\x7d' ∉ name ∧ groupNumber? name = none
  | _ => True

section
variable {counts : Nat → Prop}

theorem Numbering.head {digits : List Char} (numbering : Numbering counts digits) :
    ∃ d more, digits = d :: more ∧ d ≠ '$' ∧ d ≠ '&' ∧ d ≠ '<' := by
  obtain ⟨d, more, rfl, digit⟩ := numbering.isDigits.cons
  refine ⟨d, more, rfl, ?_, ?_, ?_⟩
  all_goals
    rintro rfl
    cases digit

/-- Where digits number a group the most of them do. -/
theorem exists_longest {digits cs : List Char} (numbering : Numbering counts digits)
    (starts : digits <+: cs) : ∃ digits rest, cs = digits ++ rest ∧ Numbering counts digits ∧
      ∀ more, Numbering counts more → more <+: digits ++ rest → more.length ≤ digits.length := by
  by_cases two : ∃ longer, Numbering counts longer ∧ longer <+: cs ∧ longer.length = 2
  · obtain ⟨longer, numbering, ⟨rest, rfl⟩, length⟩ := two
    exact ⟨longer, rest, rfl, numbering, fun more numbers _ => length ▸ numbers.short⟩
  · obtain ⟨rest, rfl⟩ := starts
    refine ⟨digits, rest, rfl, numbering, fun more numbers starts => ?_⟩
    have one : more.length ≠ 2 := fun length => two ⟨more, numbers, starts, length⟩
    have short := numbers.short
    have some := List.length_pos_iff.mpr numbering.isDigits.some
    omega

theorem exists_parts (counts : Nat → Prop) (cs : List Char) : ∃ ps, Parts counts cs ps := by
  induction length : cs.length using Nat.strongRecOn generalizing cs with
  | _ n ih =>
  cases cs with
  | nil => exact ⟨[], .nil⟩
  | cons c cs =>
    have shorter {more : List Char} (suffix : more <:+ cs) : ∃ ps, Parts counts more ps := by
      refine ih more.length ?_ more rfl
      rw [← length, List.length_cons]
      exact Nat.lt_succ_of_le suffix.length_le
    obtain ⟨ps, parts⟩ := shorter (List.suffix_refl cs)
    by_cases dollar : c = '$'
    · subst dollar
      by_cases twice : '$' ∈ cs.head?
      · obtain ⟨more, rfl⟩ : ∃ more, cs = '$' :: more := List.head?_eq_some_iff.mp twice
        obtain ⟨ps, parts⟩ := shorter (List.suffix_cons '$' more)
        exact ⟨_, .dollar parts⟩
      by_cases whole : '&' ∈ cs.head?
      · obtain ⟨more, rfl⟩ : ∃ more, cs = '&' :: more := List.head?_eq_some_iff.mp whole
        obtain ⟨ps, parts⟩ := shorter (List.suffix_cons '&' more)
        exact ⟨_, .whole parts⟩
      by_cases number : ∃ digits, Numbering counts digits ∧ digits <+: cs
      · obtain ⟨digits, numbering, starts⟩ := number
        obtain ⟨digits, rest, rfl, numbering, longest⟩ := exists_longest numbering starts
        obtain ⟨ps, parts⟩ := shorter (List.suffix_append digits rest)
        exact ⟨_, .number numbering longest parts⟩
      by_cases name : ∃ name, '>' ∉ name ∧ '<' :: (name ++ ['>']) <+: cs
      · obtain ⟨name, closed, rest, rfl⟩ := name
        obtain ⟨ps, parts⟩ := shorter (List.suffix_append ('<' :: (name ++ ['>'])) rest)
        rw [List.cons_append, List.append_assoc]
        exact ⟨_, .name closed parts⟩
      · refine ⟨_, .stray twice whole ?_ ?_ parts⟩
        · exact fun digits numbering starts => number ⟨digits, numbering, starts⟩
        · exact fun text closed starts => name ⟨text, closed, starts⟩
    · exact ⟨_, .plain dollar parts⟩

end

theorem bracedReferences_drop (front rest : List Char) :
    bracedReferences front.length (front ++ rest) = bracedReferences 0 rest := by
  induction front with
  | nil => rfl
  | cons c front ih =>
    rw [List.length_cons, List.cons_append, bracedReferences]
    exact ih

theorem bracedReferences_other {c : Char} (other : c ≠ '$') (cs : List Char) :
    bracedReferences 0 (c :: cs) = c :: bracedReferences 0 cs := by
  rw [bracedReferences.eq_def]
  dsimp only
  rw [if_pos other]

theorem takeWhile_free {c : Char} {cs : List Char} (free : c ∉ cs) :
    cs.takeWhile (· != c) = cs := by
  have other : ∀ d ∈ cs, (d != c) = true := by
    intro d isIn
    exact bne_iff_ne.mpr fun same => free (same ▸ isIn)
  exact List.takeWhile_eq_self_iff.mpr other

theorem takeWhile_closed {c : Char} {front : List Char} (closed : c ∉ front) (rest : List Char) :
    (front ++ c :: rest).takeWhile (· != c) = front := by
  rw [List.takeWhile_append, takeWhile_free closed, if_pos rfl,
    List.takeWhile_cons_of_neg (by simp), List.append_nil]

/-- What is taken up to a character is less than all only if the character is there. -/
theorem closed_of_takeWhile {c : Char} {cs : List Char}
    (less : (cs.takeWhile (· != c)).length < cs.length) :
    ∃ name rest, c ∉ name ∧ cs = name ++ c :: rest := by
  have isIn : c ∈ cs := by
    refine Decidable.byContradiction fun notIn => ?_
    have all := takeWhile_free notIn
    rw [all] at less
    exact Nat.lt_irrefl _ less
  obtain ⟨name, rest, rfl, closed⟩ := List.eq_append_cons_of_mem isIn
  exact ⟨name, rest, closed, rfl⟩

/-- All digits are taken, two of them at most. -/
theorem bracedReferences_number {digits cs : List Char}
    (numbering : Numbering (fun _ => True) digits)
    (longest : ∀ more, Numbering (fun _ => True) more → more <+: digits ++ cs →
      more.length ≤ digits.length) :
    bracedReferences 0 ('$' :: (digits ++ cs)) = braced digits ++ bracedReferences 0 cs := by
  obtain ⟨d, more, rfl, noDollar, noWhole, noName⟩ := numbering.head
  have digit : isDigit d = true := numbering.isDigits.all d List.mem_cons_self
  have rest := bracedReferences_drop (d :: more) cs
  rw [List.cons_append] at rest ⊢
  rw [bracedReferences.eq_def]
  dsimp only
  rw [if_neg (by simp)]
  simp only [if_pos digit]
  cases more with
  | nil =>
    cases cs with
    | nil => rfl
    | cons e cs =>
      have noMore : isDigit e = false := by
        refine Bool.eq_false_iff.mpr fun digit' => ?_
        have all : ∀ c ∈ [d, e], isDigit c = true := by simp [digit, digit']
        have two := longest [d, e] ⟨⟨by simp, all⟩, Nat.le_refl 2, trivial⟩ ⟨cs, rfl⟩
        exact absurd two (by simp)
      rw [List.nil_append]
      dsimp only
      rw [if_neg (by simp [noMore])]
      exact congrArg (braced [d] ++ ·) rest
  | cons e more =>
    have none : more = [] := List.eq_nil_of_length_eq_zero (by
      have := numbering.short
      simp only [List.length_cons] at this
      omega)
    have digit' : isDigit e = true := numbering.isDigits.all e (by simp)
    subst none
    rw [List.cons_append, List.nil_append]
    dsimp only
    rw [if_pos digit']
    exact congrArg (braced [d, e] ++ ·) rest

theorem bracedReferences_name {name : List Char} (closed : '>' ∉ name) (cs : List Char) :
    bracedReferences 0 ('$' :: '<' :: (name ++ '>' :: cs)) =
      braced name ++ bracedReferences 0 cs := by
  have rest := bracedReferences_drop ('<' :: (name ++ ['>'])) cs
  rw [bracedReferences, if_neg (by simp)]
  dsimp only
  rw [takeWhile_closed closed, if_pos (by simp)]
  simpa using rest

/-- A dollar sign with nothing behind it that it begins is written twice. -/
theorem bracedReferences_stray {cs : List Char} (single : '$' ∉ cs.head?) (noWhole : '&' ∉ cs.head?)
    (noNumber : ∀ digits, Numbering (fun _ => True) digits → ¬ digits <+: cs)
    (noName : ∀ name, '>' ∉ name → ¬ '<' :: (name ++ ['>']) <+: cs) :
    bracedReferences 0 ('$' :: cs) = '$' :: '$' :: bracedReferences 0 cs := by
  unfold bracedReferences
  dsimp only
  rw [if_neg (by simp)]
  split
  next => exact absurd rfl single
  next => exact absurd rfl noWhole
  next after =>
    refine if_neg fun less => ?_
    obtain ⟨name, rest, closed, rfl⟩ := closed_of_takeWhile less
    exact noName name closed ⟨rest, by simp⟩
  next d after _ _ _ =>
    refine if_neg fun digit => ?_
    have isDigits : Digits [d] := ⟨by simp, List.forall_mem_singleton.mpr digit⟩
    exact noNumber [d] ⟨isDigits, by simp, trivial⟩ ⟨after, rfl⟩
  next => rfl

section
variable (p : Program) (texts : List (Option (List Char)))

theorem expand_drop (front rest : List Char) :
    expand p texts front.length (front ++ rest) = expand p texts 0 rest := by
  induction front with
  | nil => rfl
  | cons c front ih =>
    rw [List.length_cons, List.cons_append, expand]
    exact ih

theorem expand_braced {name : List Char} (open_ : '\x7d' ∉ name) (cs : List Char) :
    expand p texts 0 (braced name ++ cs) = referenced p texts name ++ expand p texts 0 cs := by
  have rest := expand_drop p texts ('\x7b' :: (name ++ ['\x7d'])) cs
  have written : braced name ++ cs = '$' :: '\x7b' :: (name ++ '\x7d' :: cs) := by simp [braced]
  rw [written, expand, if_neg (by simp)]
  dsimp only
  rw [takeWhile_closed open_, if_pos (by simp)]
  simpa using rest

theorem expand_other {c : Char} (other : c ≠ '$') (cs : List Char) :
    expand p texts 0 (c :: cs) = c :: expand p texts 0 cs := by
  rw [expand.eq_def]
  dsimp only
  rw [if_pos other]

theorem expand_dollar (cs : List Char) :
    expand p texts 0 ('$' :: '$' :: cs) = '$' :: expand p texts 0 cs := by
  rw [expand, if_neg (by simp), expand]

theorem referenced_number {digits : List Char} (numbering : Numbering (fun _ => True) digits) :
    referenced p texts digits = groupText texts (natOfDigits digits) := by
  obtain ⟨d, more, rfl, -⟩ := numbering.head
  have unsigned : d ≠ '+' := by
    rintro rfl
    cases numbering.isDigits.all '+' List.mem_cons_self
  have all : (d :: more).all isDigit = true := List.all_eq_true.mpr numbering.isDigits.all
  have small : natOfDigits (d :: more) < Nat.pow 2 64 :=
    calc natOfDigits (d :: more)
        < 10 ^ (d :: more).length := Number.natOfDigits_lt numbering.isDigits.all
      _ ≤ 10 ^ 2 := Nat.pow_le_pow_right (by decide) numbering.short
      _ < Nat.pow 2 64 := by decide
  have number : groupNumber? (d :: more) = some (natOfDigits (d :: more)) := by
    unfold groupNumber?
    split
    next same => exact absurd (List.cons.inj same).1 unsigned
    next => rw [if_neg (by simp [all]), if_pos small]
  rw [referenced, number]
  rfl

theorem referenced_name {name : List Char} (noNumber : groupNumber? name = none) :
    referenced p texts name = (Part.named name).text p texts := by
  simp only [referenced, noNumber, Option.none_or, Part.text]
  cases p.names.lookup (String.ofList name) with
  | none => rfl
  | some i => rfl

/-- The references in braces stand for what the parts stand for. -/
theorem expand_bracedReferences {template : List Char} {ps : List Part}
    (parts : Parts (fun _ => True) template ps) (braceable : ∀ part ∈ ps, part.Braceable) :
    expand p texts 0 (bracedReferences 0 template) = ps.flatMap (Part.text p texts) := by
  induction parts with
  | nil => rfl
  | plain other rest ih =>
    rw [bracedReferences_other other, expand_other p texts other,
      ih (List.forall_mem_cons.mp braceable).2]
    rfl
  | dollar rest ih =>
    rw [bracedReferences, if_neg (by simp), bracedReferences, expand_dollar,
      ih (List.forall_mem_cons.mp braceable).2]
    rfl
  | whole rest ih =>
    have zero : Numbering (fun _ => True) ['0'] :=
      ⟨⟨by simp, List.forall_mem_singleton.mpr rfl⟩, by decide, trivial⟩
    rw [bracedReferences, if_neg (by simp), bracedReferences, expand_braced p texts (by decide),
      referenced_number p texts zero, ih (List.forall_mem_cons.mp braceable).2]
    rfl
  | number numbering longest rest ih =>
    have open_ : '\x7d' ∉ _ := fun isIn => nomatch numbering.isDigits.all _ isIn
    rw [bracedReferences_number numbering longest, expand_braced p texts open_,
      referenced_number p texts numbering, ih (List.forall_mem_cons.mp braceable).2]
    rfl
  | name closed rest ih =>
    obtain ⟨⟨open_, noNumber⟩, later⟩ := List.forall_mem_cons.mp braceable
    rw [bracedReferences_name closed, expand_braced p texts open_, referenced_name p texts noNumber,
      ih later]
    rfl
  | stray single noWhole noNumber noName rest ih =>
    rw [bracedReferences_stray single noWhole noNumber noName, expand_dollar,
      ih (List.forall_mem_cons.mp braceable).2]
    rfl

end

/-- Every replacement text has parts. It stands for what they stand for at each match, and so it
does where the matches of a regex are replaced: one digit behind a dollar sign, or two, are the
number of a group even if the regex has no such group. -/
theorem replacement_expands (template : List Char) :
    (∃ ps, Parts (fun _ => True) template ps) ∧
    ∀ ps, Parts (fun _ => True) template ps → (∀ part ∈ ps, part.Braceable) →
      (∀ p text m, replacementText p text template m = ps.flatMap (Part.text p (m.texts text))) ∧
      ∀ cs all pattern flags, Library.replaceWithText cs all (.regex pattern flags) template =
        (Library.compileRegex pattern flags).map fun p =>
          .ofChars (replaceFrom cs.toArray
            (fun m => ps.flatMap (Part.text p (m.texts cs.toArray))) 0
            (Library.chosenMatches p cs.toArray (all || flags.toList.contains 'g'))) := by
  refine ⟨exists_parts _ template, fun ps parts braceable => ?_⟩
  have stands (p : Program) (text : Array Char) :
      replacementText p text template = fun m => ps.flatMap (Part.text p (m.texts text)) := by
    funext m
    exact expand_bracedReferences p (m.texts text) parts braceable
  constructor
  · intro p text m
    rw [stands]
  · intro cs all pattern flags
    unfold Library.replaceWithText
    simp only [stands]
    rfl

/-- A digit and a name refer to two groups, with a character between them that is copied. -/
theorem number_and_name_expand :
    let text := "abc".toList.toArray
    let template := "$1-$<tail>".toList
    let ps : List Part := [.group 1, .plain '-', .named "tail".toList]
    Parts (fun _ => True) template ps ∧ (∀ part ∈ ps, part.Braceable) ∧
      ∃ p m, compile? "(a)(?<tail>b)" "" = some p ∧ p.find? text 0 = some m ∧
        replacementText p text template m = "a-b".toList := by
  intro text template ps
  have one : Numbering (fun _ => True) ['1'] :=
    ⟨⟨by simp, List.forall_mem_singleton.mpr rfl⟩, by decide, trivial⟩
  have longest (more : List Char) (numbers : Numbering (fun _ => True) more)
      (starts : more <+: ['1'] ++ "-$<tail>".toList) : more.length ≤ ['1'].length := by
    by_contra longer
    have two : more.length = 2 := Nat.le_antisymm numbers.short (Nat.lt_of_not_le longer)
    have same : more = ['1', '-'] := by
      rw [List.prefix_iff_eq_take.mp starts, two]
      rfl
    cases numbers.isDigits.all '-' (by rw [same]; decide)
  have name : Parts (fun _ => True) "$<tail>".toList [.named "tail".toList] :=
    .name (by decide : '>' ∉ "tail".toList) .nil
  have parts : Parts (fun _ => True) template ps :=
    .number one longest (.plain (by decide) name)
  have braceable : ∀ part ∈ ps, part.Braceable := by
    simp only [ps, List.forall_mem_cons]
    exact ⟨trivial, trivial, ⟨by decide, by decide⟩, fun _ isIn => by cases isIn⟩
  have found : ((compile? "(a)(?<tail>b)" "").bind fun p => (p.find? text 0).map fun m =>
      ps.flatMap (Part.text p (m.texts text))) = some "a-b".toList := by decide +kernel
  obtain ⟨p, compiled, found⟩ := Option.bind_eq_some_iff.mp found
  obtain ⟨m, met, stands⟩ := Option.map_eq_some_iff.mp found
  have expands := ((replacement_expands template).2 ps parts braceable).1 p text m
  exact ⟨parts, braceable, p, m, compiled, met, expands.trans stands⟩

/-- Two digits behind a dollar sign are the number of a group that a regex with one group does not
have; the number of that group and a digit would be longer. -/
theorem two_digits_without_group :
    Parts (fun n => 1 ≤ n ∧ n ≤ 1) "$10".toList [.group 1, .plain '0'] ∧
    (compile? "(b)" "").map (fun p => (p.groups, (p.find? "abc".toList.toArray 0).map fun m =>
        ([.group 1, .plain '0'].flatMap (Part.text p (m.texts "abc".toList.toArray)),
          replacementText p "abc".toList.toArray "$10".toList m))) =
      some (2, some ("b0".toList, [])) := by
  refine ⟨?_, by decide⟩
  have one : Numbering (fun n => 1 ≤ n ∧ n ≤ 1) ['1'] :=
    ⟨⟨by simp, List.forall_mem_singleton.mpr rfl⟩, by decide, by decide⟩
  refine .number one (fun more numbers starts => ?_) (.plain (by decide) .nil)
  by_cases two : more.length = 2
  · obtain rfl : more = ['1', '0'] := starts.eq_of_length two
    exact absurd numbers.counted (by decide)
  · have short := numbers.short
    simp only [List.length_singleton]
    omega

end DocExpr.Regex
