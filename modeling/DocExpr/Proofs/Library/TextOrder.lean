import DocExpr.Library.Dispatch
import DocExpr.Proofs.Value.Order
import Mathlib.Data.List.Pairwise

/-! The two orders of texts. The relational operators and `localeCompare` order texts by their
characters, sorting without a comparator by their code units. A character beyond the first plane is
written with two units from the range of surrogates, which lies below the last characters of the
first plane. So the orders are opposite where two texts first differ in two such characters, and
agree everywhere else. -/
namespace DocExpr
open Std (LawfulEqCmp OrientedCmp ReflCmp TransCmp)

namespace Text

/-- A character of the first plane behind the surrogates. -/
def IsLate (c : Char) : Prop := 0xe000 ≤ c.toNat ∧ c.toNat < 0x10000

/-- A character that is written with two code units. -/
def IsPaired (c : Char) : Prop := 0x10000 ≤ c.toNat

/-- Characters whose code units are in the opposite order. -/
def CrossedAt (c d : Char) : Prop := IsLate c ∧ IsPaired d ∨ IsPaired c ∧ IsLate d

/-- Texts whose first different characters are such. -/
inductive Crossed : List Char → List Char → Prop where
  | here {c d : Char} (apart : CrossedAt c d) (cs ds : List Char) : Crossed (c :: cs) (d :: ds)
  | later (c : Char) {cs ds : List Char} (crossed : Crossed cs ds) : Crossed (c :: cs) (c :: ds)

theorem CrossedAt.symm {c d : Char} (apart : CrossedAt c d) : CrossedAt d c :=
  (Or.symm apart).imp And.symm And.symm

theorem CrossedAt.ne {c d : Char} (apart : CrossedAt c d) : c ≠ d := by
  rintro rfl
  rcases apart with ⟨late, paired⟩ | ⟨paired, late⟩
  · exact absurd late.2 (Nat.not_lt.mpr paired)
  · exact absurd late.2 (Nat.not_lt.mpr paired)

theorem Crossed.symm {cs ds : List Char} (crossed : Crossed cs ds) : Crossed ds cs := by
  induction crossed with
  | here apart cs ds => exact .here apart.symm ds cs
  | later c _ ih => exact .later c ih

theorem Crossed.irrefl (cs : List Char) : ¬ Crossed cs cs := by
  induction cs with
  | nil => exact fun crossed => nomatch crossed
  | cons c cs ih =>
    intro crossed
    cases crossed with
    | here apart => exact apart.ne rfl
    | later _ crossed => exact ih crossed

theorem crossed_cons_self {c : Char} {cs ds : List Char} :
    Crossed (c :: cs) (c :: ds) ↔ Crossed cs ds := by
  constructor
  · intro crossed
    cases crossed with
    | here apart => exact absurd rfl apart.ne
    | later _ crossed => exact crossed
  · exact .later c

theorem crossed_cons_of_ne {c d : Char} {cs ds : List Char} (other : c ≠ d) :
    Crossed (c :: cs) (d :: ds) ↔ CrossedAt c d := by
  constructor
  · intro crossed
    cases crossed with
    | here apart => exact apart
    | later => exact absurd rfl other
  · exact fun apart => .here apart cs ds

/-- A character is no surrogate. -/
theorem toNat_scalar (c : Char) :
    c.toNat < 0xd800 ∨ 0xe000 ≤ c.toNat ∧ c.toNat < 0x110000 := c.valid

/-- Code units by their numbers. -/
abbrev compareNats : List Nat → List Nat → Ordering := compareLists fun m n : Nat => compare m n

theorem compareNats_less {m n : Nat} (less : m < n) (ms ns : List Nat) :
    compareNats (m :: ms) (n :: ns) = .lt := by
  rw [compareNats, compareLists, Nat.compare_eq_lt.mpr less]
  rfl

theorem compareNats_greater {m n : Nat} (greater : n < m) (ms ns : List Nat) :
    compareNats (m :: ms) (n :: ns) = .gt := by
  rw [compareNats, compareLists, Nat.compare_eq_gt.mpr greater]
  rfl

theorem compareNats_append (front ms ns : List Nat) :
    compareNats (front ++ ms) (front ++ ns) = compareNats ms ns := by
  induction front with
  | nil => rfl
  | cons n front ih =>
    rw [List.cons_append, List.cons_append, compareNats, compareLists, Nat.compare_eq_eq.mpr rfl]
    exact ih

theorem compareNats_swap (ms ns : List Nat) : compareNats ms ns = (compareNats ns ms).swap := by
  rw [compareNats, compareLists_eq, compareLists_eq]
  exact OrientedCmp.eq_swap

/-- The units of the lesser one of two characters come first, unless the characters are crossed. -/
theorem compareNats_units_of_lt {c d : Char} (less : c.toNat < d.toNat) (ms ns : List Nat) :
    (CrossedAt c d → compareNats (unitsOf c ++ ms) (unitsOf d ++ ns) = .gt) ∧
      (¬ CrossedAt c d → compareNats (unitsOf c ++ ms) (unitsOf d ++ ns) = .lt) := by
  simp only [unitsOf, CrossedAt, IsLate, IsPaired]
  by_cases plain : d.toNat < 0x10000
  · have plain' : c.toNat < 0x10000 := by omega
    rw [if_pos plain, if_pos plain']
    exact ⟨by omega, fun _ => compareNats_less less ms ns⟩
  · rw [if_neg plain]
    by_cases plain' : c.toNat < 0x10000
    · rw [if_pos plain']
      rcases toNat_scalar c with early | late
      · exact ⟨by omega, fun _ => compareNats_less (by omega) _ _⟩
      · have := toNat_scalar d
        exact ⟨fun _ => compareNats_greater (by omega) _ _, by omega⟩
    · rw [if_neg plain']
      refine ⟨by omega, fun _ => ?_⟩
      by_cases block : (c.toNat - 0x10000) / 0x400 = (d.toNat - 0x10000) / 0x400
      · rw [block]
        exact (compareNats_append [_] _ _).trans (compareNats_less (by omega) _ _)
      · exact compareNats_less (by omega) _ _

/-- What the order by units is, given the one by characters. -/
theorem compareNats_flatMap (cs ds : List Char) :
    (Crossed cs ds → compareNats (cs.flatMap unitsOf) (ds.flatMap unitsOf) =
        (compareLists (fun c d : Char => compare c.toNat d.toNat) cs ds).swap) ∧
      (¬ Crossed cs ds → compareNats (cs.flatMap unitsOf) (ds.flatMap unitsOf) =
        compareLists (fun c d : Char => compare c.toNat d.toNat) cs ds) := by
  induction cs generalizing ds with
  | nil =>
    refine ⟨fun crossed => (nomatch crossed), fun _ => ?_⟩
    cases ds with
    | nil => rfl
    | cons d ds =>
      rw [List.flatMap_cons, unitsOf]
      split <;> rfl
  | cons c cs ih =>
    cases ds with
    | nil =>
      refine ⟨fun crossed => (nomatch crossed), fun _ => ?_⟩
      rw [List.flatMap_cons, unitsOf]
      split <;> rfl
    | cons d ds =>
      rw [List.flatMap_cons, List.flatMap_cons, compareLists]
      rcases Nat.lt_trichotomy c.toNat d.toNat with less | same | greater
      · have other : c ≠ d := fun equal => absurd less (by simp [equal])
        rw [crossed_cons_of_ne other, Nat.compare_eq_lt.mpr less]
        exact compareNats_units_of_lt less _ _
      · cases Char.toNat_inj.mp same
        rw [crossed_cons_self, compareNats_append, Nat.compare_eq_eq.mpr rfl]
        exact ih ds
      · have other : c ≠ d := fun equal => absurd greater (by simp [equal])
        have units := compareNats_units_of_lt greater (ds.flatMap unitsOf) (cs.flatMap unitsOf)
        rw [crossed_cons_of_ne other, Nat.compare_eq_gt.mpr greater, compareNats_swap]
        refine ⟨fun apart => ?_, fun apart => ?_⟩
        · rw [units.1 apart.symm]
          rfl
        · rw [units.2 fun apart' => apart apart'.symm]
          rfl

variable {s t : String}

theorem compareUnits_of_crossed (crossed : Crossed s.toList t.toList) :
    compareUnits s t = (compareChars s t).swap :=
  (compareNats_flatMap s.toList t.toList).1 crossed

theorem compareUnits_of_not_crossed (plain : ¬ Crossed s.toList t.toList) :
    compareUnits s t = compareChars s t :=
  (compareNats_flatMap s.toList t.toList).2 plain

/-- Only a text itself is level with it. -/
theorem eq_of_compareChars (level : compareChars s t = .eq) : s = t := by
  rw [Value.compareChars_eq, LawfulEqCmp.compare_eq_iff_eq] at level
  have injective : Function.Injective fun c : Char => (c.toNat : Int) :=
    fun c d same => Char.toNat_inj.mp (Int.ofNat_inj.mp same)
  exact String.toList_inj.mp (injective.list_map level)

end Text

namespace Library
open DocExpr.Expr (BinaryOp)
open Text (Crossed compareChars compareUnits)
open Value (Alike compareDefault)

variable {a b : String}

theorem less_strings : BinaryOp.less.Holds (.string a) (.string b) ↔ compareChars a b = .lt := by
  rw [Expr.less_holds (.strings a b), Value.compareChars_eq]

theorem lessOrEqual_strings :
    BinaryOp.lessOrEqual.Holds (.string a) (.string b) ↔ compareChars a b ≠ .gt := by
  rw [Expr.lessOrEqual_holds (.strings a b), ← Value.compareChars_eq]
  cases compareChars a b <;> simp

theorem compareChars_swap (a b : String) : compareChars a b = (compareChars b a).swap := by
  rw [Value.compareChars_eq, Value.compareChars_eq]
  exact OrientedCmp.eq_swap

theorem orderNumber_negative (o : Ordering) : orderNumber o < 0.0 ↔ o = .lt := by
  cases o <;> decide

theorem compareDefault_lt_iff :
    compareDefault (.string a) (.string b) = .lt ↔
      BinaryOp.less.Holds (.string a) (.string b) ∧ ¬ Crossed a.toList b.toList ∨
        BinaryOp.less.Holds (.string b) (.string a) ∧ Crossed a.toList b.toList := by
  change compareUnits a b = .lt ↔ _
  rw [less_strings, less_strings, compareChars_swap b a]
  by_cases crossed : Crossed a.toList b.toList
  · simp [crossed, Text.compareUnits_of_crossed crossed]
  · simp [crossed, Text.compareUnits_of_not_crossed crossed]

/-- What sorting strings returns are the same strings. -/
theorem sortDefault_strings (ss : List String) :
    ∃ ts : List String, ts.Perm ss ∧ sortDefault (ss.map .string) = ts.map .string ∧
      ts.Pairwise fun s t => (compareUnits s t).isLE := by
  obtain ⟨calls, follows, sorts⟩ := sorts_mergeSort compareDefault (ss.map .string)
  have perm : (sortDefault (ss.map .string)).Perm (ss.map .string) := sorts.perm
  have ordered : Ordered compareDefault (sortDefault (ss.map .string)) := sorts.ordered follows
  have strings : ((sortDefault (ss.map .string)).map Value.display).map .string =
      sortDefault (ss.map .string) := by
    rw [List.map_map]
    refine (List.map_congr_left fun v isIn => ?_).trans (List.map_id _)
    obtain ⟨s, -, rfl⟩ := List.mem_map.mp (perm.mem_iff.mp isIn)
    rfl
  refine ⟨(sortDefault (ss.map .string)).map Value.display, ?_, strings.symm, ?_⟩
  · have displayed := perm.map Value.display
    rw [List.map_map] at displayed
    exact displayed.trans (.of_eq (List.map_id ss))
  · rw [← strings] at ordered
    exact List.pairwise_map.mp ordered

/-- Sorted strings ascend by their characters exactly if no two of them are crossed. -/
theorem ascending_iff {ts : List String}
    (sorted : ts.Pairwise fun s t => (compareUnits s t).isLE) :
    ts.Pairwise (fun s t => BinaryOp.lessOrEqual.Holds (.string s) (.string t)) ↔
      ∀ s ∈ ts, ∀ t ∈ ts, ¬ Crossed s.toList t.toList := by
  constructor
  · intro ascending
    have symmetric : Std.Symm fun s t : String => ¬ Crossed s.toList t.toList :=
      ⟨fun s t apart crossed => apart crossed.symm⟩
    have plain : ts.Pairwise fun s t => ¬ Crossed s.toList t.toList := by
      refine (sorted.and ascending).imp fun {s t} both crossed => ?_
      obtain ⟨byUnits, byChars⟩ := both
      rw [lessOrEqual_strings] at byChars
      rw [Text.compareUnits_of_crossed crossed] at byUnits
      have level : compareChars s t = .eq := by
        cases order : compareChars s t <;> simp_all
      cases Text.eq_of_compareChars level
      exact Crossed.irrefl _ crossed
    exact fun s inList t inList' =>
      plain.forall_of_forall (fun s _ => Crossed.irrefl s.toList) inList inList'
  · intro plain
    refine sorted.imp_of_mem fun {s t} inList inList' byUnits => ?_
    rw [Text.compareUnits_of_not_crossed (plain s inList t inList')] at byUnits
    rw [lessOrEqual_strings]
    cases order : compareChars s t <;> simp_all

/-- For all strings, the number that `a.localeCompare(b)` returns is negative exactly if `a < b`.
Sorting without a comparator puts `a` strictly before `b` exactly if `a < b`, or `b < a` where the
two are crossed. So it returns the strings of an array in ascending order, with respect to `<=`,
exactly if no two of them are crossed. -/
theorem orders_of_texts (a b : String) (ss : List String) :
    (∃ x, (∀ host root, callMethod host root (.string a) "localeCompare" [.string b] =
        pure (.number x)) ∧ (x < 0.0 ↔ BinaryOp.less.Holds (.string a) (.string b))) ∧
      (compareDefault (.string a) (.string b) = .lt ↔
        BinaryOp.less.Holds (.string a) (.string b) ∧ ¬ Crossed a.toList b.toList ∨
          BinaryOp.less.Holds (.string b) (.string a) ∧ Crossed a.toList b.toList) ∧
      ∃ ts : List String, ts.Perm ss ∧
        (∀ host root, callMethod host root (.array (ss.map .string)) "sort" [] =
          pure (.array (ts.map .string))) ∧
        (ts.Pairwise (fun s t => BinaryOp.lessOrEqual.Holds (.string s) (.string t)) ↔
          ∀ s ∈ ss, ∀ t ∈ ss, ¬ Crossed s.toList t.toList) := by
  refine ⟨⟨orderNumber (compareChars a b), fun host root => rfl, ?_⟩, compareDefault_lt_iff, ?_⟩
  · rw [orderNumber_negative, less_strings]
  · obtain ⟨ts, perm, sorted, ordered⟩ := sortDefault_strings ss
    refine ⟨ts, perm, fun host root => ?_, ?_⟩
    · rw [← sorted]
      rfl
    · rw [ascending_iff ordered]
      simp only [perm.mem_iff]

/-- A ligature of the first plane is less than a character beyond it, but sorted behind it. -/
theorem ligature_sorted_last :
    BinaryOp.less.Holds (.string "ﬀ") (.string "😀") ∧
      sortDefault [.string "ﬀ", .string "😀"] = [.string "😀", .string "ﬀ"] ∧
      ¬ ∀ a b : String, BinaryOp.less.Holds (.string a) (.string b) ↔
        compareDefault (.string a) (.string b) = .lt := by
  have less : BinaryOp.less.Holds (.string "ﬀ") (.string "😀") := less_strings.mpr (by decide)
  refine ⟨less, by rfl, fun agree => ?_⟩
  exact absurd ((agree "ﬀ" "😀").mp less) (by decide)

end Library
end DocExpr
