import DocExpr.Text.Property.Age
import DocExpr.Text.Property.Identifier
import DocExpr.Text.Property.Layout
import DocExpr.Text.Property.Break
import DocExpr.Text.Script

/-! The properties of characters that a name stands for, or the name of a value behind the name of
what it is a value of. All names are written in small letters and without separators, and all
properties are those of Unicode 16. -/
namespace DocExpr.Text

def binaryProperties : Properties :=
  caseProperties ++ emojiProperties ++ graphemeProperties ++ identifierProperties ++
    ideographProperties ++ layoutProperties ++ punctuationProperties

/-- The edges of all tables, and of what rules name by number. A class that is given by a rule
begins and ends at some of them. -/
def ruleEdges : List Nat :=
  let properties := binaryProperties ++ graphemeBreaks ++ wordBreaks ++ sentenceBreaks
  let named := properties.flatMap fun (_, c) => c.edges.getD []
  let unnamed := [decomposedStarts, separateMarks, leadingLetters, unspacedLetters, addedLetters,
    addedClosers, titlecaseFixed, widelyFolded, wordPunctuation]
  let mapped : Runs := (upperShifts ++ lowerShifts ++ foldShifts).map
    fun (first, last, step, _) => (first, last, step)
  let expanded : Runs := upperExpansions.map fun (n, _) => (n, n, 1)
  let tables := scripts.map (·.2) ++ unnamed ++ [mapped, expanded]
  let numbers := [0x5f3, 0x66b, 0x66c, 0x70f, 0xe33, 0xeb3, 0x1fbe, 0x1fd3, 0x1fe3, 0x2007, 0x200b,
    0x200d, 0xff9e, 0xff9f].flatMap fun n => [n, n + 1]
  let planes := (List.range 17).flatMap fun i => [0x10000 * i + 0xfffe, 0x10000 * (i + 1)]
  let all := List.range 129 ++ 0xfdd0 :: 0xfdf0 :: planes ++ numbers ++ named ++ categoryEdges ++
    tables.flatMap Runs.edges
  all.mergeSort.eraseReps

/-- The property, category or script with a name. -/
def property? (name : String) : Option CharClass :=
  ((binaryProperties.named? name).or (category? name)).or (script? name)

/-- The characters for which something with a name has a value with a name. -/
def propertyValue? (name value : String) : Option CharClass :=
  match name with
  | "gc" | "generalcategory" => category? value
  | "sc" | "script" => script? value
  | "scx" | "scriptextensions" => scriptUse? value
  | "age" => age? value
  | "gcb" | "graphemeclusterbreak" => graphemeBreaks.named? value
  | "wb" | "wordbreak" => wordBreaks.named? value
  | "sb" | "sentencebreak" => sentenceBreaks.named? value
  | _ => none

end DocExpr.Text
