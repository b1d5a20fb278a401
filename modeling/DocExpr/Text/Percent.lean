import DocExpr.Number.Literal

/-! Percent-coding of the components of a URI: every byte of the UTF-8 text that is not
unreserved becomes a percent sign with two upper-case hexadecimal digits. -/
namespace DocExpr.Text.Percent

/-- Letters, digits and `-_.!~*'()` stand for themselves. -/
def isUnreserved (b : UInt8) : Bool :=
  let c := Char.ofNat b.toNat
  c.isAlphanum || "-_.!~*'()".toList.contains c

def encodeByte (b : UInt8) : List Char :=
  if isUnreserved b then [Char.ofNat b.toNat]
  else ['%', Number.hexDigit 'A' (b.toNat / 16), Number.hexDigit 'A' (b.toNat % 16)]

def encode (s : String) : String := String.ofList (s.toUTF8.toList.flatMap encodeByte)

/-- The bytes a code stands for; none if a percent sign is not followed by two hexadecimal
digits. -/
def decodeBytes : List UInt8 → Option (List UInt8)
  | [] => some []
  | b :: rest =>
    if b = 37 then
      match rest with
      | high :: low :: rest => do
        let high ← Number.hexValue? high.toNat
        let low ← Number.hexValue? low.toNat
        return UInt8.ofNat (16 * high + low) :: (← decodeBytes rest)
      | _ => none
    else return b :: (← decodeBytes rest)

/-- The text that a code stands for, if there is one. -/
def decode? (s : String) : Option String := do
  let bytes ← decodeBytes s.toUTF8.toList
  String.fromUTF8? ⟨bytes.toArray⟩

end DocExpr.Text.Percent
