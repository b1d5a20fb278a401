import DocExpr.Regex.Search

/-! Replacement texts. A text with references such as `$1`, `$&` and `$<name>` is first written
with all its references in braces, and each reference is then replaced by what its group
matched. -/
namespace DocExpr.Regex

def braced (name : List Char) : List Char := '$' :: '\x7b' :: name ++ ['\x7d']

/-- Writes the references of a replacement text in braces; one or two digits make a number, and a
dollar sign that starts no reference is written twice. `skip` characters are passed over. -/
def bracedReferences (skip : Nat) (cs : List Char) : List Char :=
  match cs with
  | [] => []
  | c :: rest =>
    match skip with
    | skip + 1 => bracedReferences skip rest
    | 0 =>
      if c ≠ '$' then c :: bracedReferences 0 rest
      else
        match rest with
        | '$' :: _ => '$' :: '$' :: bracedReferences 1 rest
        | '&' :: _ => braced ['0'] ++ bracedReferences 1 rest
        | '<' :: after =>
          let name := after.takeWhile (· != '>')
          if name.length < after.length then
            braced name ++ bracedReferences (name.length + 2) rest
          else '$' :: '$' :: bracedReferences 0 rest
        | d :: after =>
          if Number.isDigit d then
            match after with
            | e :: _ =>
              if Number.isDigit e then braced [d, e] ++ bracedReferences 2 rest
              else braced [d] ++ bracedReferences 1 rest
            | [] => braced [d] ++ bracedReferences 1 rest
          else '$' :: '$' :: bracedReferences 0 rest
        | [] => ['$', '$']

/-- The number of a group, which may have a plus sign. -/
def groupNumber? (cs : List Char) : Option Nat :=
  let digits :=
    match cs with
    | '+' :: rest => rest
    | _ => cs
  if digits.isEmpty || !digits.all Number.isDigit then none
  else
    let n := Number.natOfDigits digits
    if n < Nat.pow 2 64 then some n else none

/-- What a reference stands for: a group by number or by name, or nothing if there is none. -/
def referenced (p : Program) (texts : List (Option (List Char))) (name : List Char) : List Char :=
  let index := (groupNumber? name).or (p.names.lookup (String.ofList name))
  match index with
  | some i => (texts.getD i none).getD []
  | none => []

def inReference (c : Char) : Bool := c.isAlphanum || c == '_'

/-- Replaces the references of a text, with or without braces; two dollar signs are one. `skip`
characters are passed over. -/
def expand (p : Program) (texts : List (Option (List Char))) (skip : Nat) (cs : List Char) :
    List Char :=
  match cs with
  | [] => []
  | c :: rest =>
    match skip with
    | skip + 1 => expand p texts skip rest
    | 0 =>
      if c ≠ '$' then c :: expand p texts 0 rest
      else
        match rest with
        | '$' :: _ => '$' :: expand p texts 1 rest
        | '\x7b' :: after =>
          let name := after.takeWhile (· != '\x7d')
          if name.length < after.length then
            referenced p texts name ++ expand p texts (name.length + 2) rest
          else '$' :: expand p texts 0 rest
        | rest' =>
          let name := rest'.takeWhile inReference
          if name.isEmpty then '$' :: expand p texts 0 rest
          else referenced p texts name ++ expand p texts name.length rest

/-- What a replacement text stands for at a match. -/
def replacementText (p : Program) (text : Array Char) (template : List Char) (m : Match) :
    List Char :=
  expand p (m.texts text) 0 (bracedReferences 0 template)

end DocExpr.Regex
