import DocExpr.Text.Category.Members
import DocExpr.Text.Letter

/-! The general categories of Unicode 16 under their short and long names, and unions of them. -/
namespace DocExpr.Text

/-- The general categories: short name, long name and members. -/
def categories : List (String × String × Runs) := [
  ("lu", "uppercaseletter", upperLetters), ("ll", "lowercaseletter", lowerLetters),
  ("lt", "titlecaseletter", titleLetters), ("lm", "modifierletter", modifierLetters),
  ("lo", "otherletter", otherLetters), ("mn", "nonspacingmark", nonspacingMarks),
  ("mc", "spacingmark", spacingMarks), ("me", "enclosingmark", enclosingMarks),
  ("nd", "decimalnumber", decimalDigits), ("nl", "letternumber", letterNumerals),
  ("no", "othernumber", otherNumerals), ("pc", "connectorpunctuation", connectors),
  ("pd", "dashpunctuation", dashes), ("ps", "openpunctuation", openers),
  ("pe", "closepunctuation", closers), ("pi", "initialpunctuation", initialQuotes),
  ("pf", "finalpunctuation", finalQuotes), ("po", "otherpunctuation", otherPunctuation),
  ("sm", "mathsymbol", mathSymbols), ("sc", "currencysymbol", currencySymbols),
  ("sk", "modifiersymbol", modifierSymbols), ("so", "othersymbol", otherSymbols),
  ("zs", "spaceseparator", spaceSeparators), ("zl", "lineseparator", lineSeparators),
  ("zp", "paragraphseparator", paragraphSeparators), ("cc", "control", controls),
  ("cf", "format", formatControls), ("co", "privateuse", privateUse)]

/-- The unions of categories: short name, long name and the letter their parts begin with. -/
def categoryGroups : List (String × String × Char) := [
  ("l", "letter", 'l'), ("m", "mark", 'm'), ("n", "number", 'n'), ("p", "punctuation", 'p'),
  ("s", "symbol", 's'), ("z", "separator", 'z')]

/-- In one of the categories. -/
def isAssigned (c : Char) : Bool := categories.any fun (_, _, runs) => runs.has c

/-- In one of the categories whose short name begins with a letter. -/
def inGroup (initial : Char) (c : Char) : Bool :=
  categories.any fun (name, _, runs) => name.startsWith initial && runs.has c

/-- The categories whose short name begins with a letter, as one class. -/
def groupClass (initial : Char) : CharClass :=
  let parts := categories.filter fun (name, _, _) => name.startsWith initial
  ⟨inGroup initial, parts.flatMap fun (_, _, runs) => runs.edges⟩

def categoryEdges : List Nat := categories.flatMap fun (_, _, runs) => runs.edges

def unassigned : CharClass := ⟨fun c => !isAssigned c, categoryEdges⟩

/-- The category or union of categories with a name, which is written in small letters and without
separators. -/
def category? (name : String) : Option CharClass :=
  match categories.find? fun (short, long, _) => name == short || name == long with
  | some (_, _, runs) => some runs.toClass
  | none =>
    match categoryGroups.find? fun (short, long, _) => name == short || name == long with
    | some (_, _, initial) => some (groupClass initial)
    | none =>
      match name with
      | "lc" | "casedletter" =>
        some ⟨fun c => upperLetters.has c || lowerLetters.has c || titleLetters.has c,
          upperLetters.edges ++ lowerLetters.edges ++ titleLetters.edges⟩
      | "punct" => some (groupClass 'p')
      | "combiningmark" => some (groupClass 'm')
      | "digit" => some decimalDigits.toClass
      | "cntrl" => some controls.toClass
      | "c" | "other" => some ⟨fun c => inGroup 'c' c || !isAssigned c, categoryEdges⟩
      | "cn" | "unassigned" => some unassigned
      | "any" => some ⟨fun _ => true, some []⟩
      | "assigned" => some ⟨isAssigned, categoryEdges⟩
      | "ascii" => some ⟨fun c => c.toNat < 128, some [128]⟩
      | _ => none

end DocExpr.Text
