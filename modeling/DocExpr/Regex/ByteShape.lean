/-! The bytes of the UTF-8 text of the characters between two, and what a program takes that reads
them one by one. -/
namespace DocExpr.Regex

/-- Ranges of bytes, one for each byte of a character. -/
abbrev ByteShape := List (Nat × Nat)

namespace ByteShape

/-- The shapes of the numbers from one to another that are written to the base 64: a digit on top of
the mark of a leading byte, and as many digits on top of `0x80`. -/
def ofNumbers (mark : Nat) : Nat → Nat → Nat → List ByteShape
  | 0, low, high => [[(mark + low, mark + high)]]
  | count + 1, low, high =>
    let block := 64 ^ (count + 1)
    let first := low / block
    let last := high / block
    let behind (digit low high : Nat) : List ByteShape :=
      (ofNumbers 0x80 count low high).map ((mark + digit, mark + digit) :: ·)
    if first = last then behind first (low % block) (high % block)
    else
      -- whole blocks share their shape; what is left of a block on either side has its own
      let isWhole := low % block = 0
      let isWhole' := high % block + 1 = block
      let start := if isWhole then first else first + 1
      let stop := if isWhole' then last + 1 else last
      let whole : ByteShape :=
        (mark + start, mark + stop - 1) :: List.replicate (count + 1) (0x80, 0xbf)
      (if isWhole then [] else behind first (low % block) (block - 1)) ++
        (if start < stop then [whole] else []) ++
        (if isWhole' then [] else behind last 0 (high % block))

/-- The shapes of the characters from one code point to another, by the count of their bytes. -/
def ofStretch (low high : Nat) : List ByteShape :=
  [(0, 0x7f, 0, 0), (1, 0x7ff, 0x80, 0xc0), (2, 0xffff, 0x800, 0xe0),
    (3, 0x10ffff, 0x10000, 0xf0)].flatMap fun (count, most, least, mark) =>
      let low := max least low
      let high := min most high
      if low ≤ high then ofNumbers mark count low high else []

def shared : ByteShape → ByteShape → Nat
  | a :: s, b :: t => if a = b then shared s t + 1 else 0
  | _, _ => 0

/-- The bytes of a program that finds out of shapes in order which one it reads backwards: a split
between all of them, and a state for each range, where what shapes share at the front is there
once. -/
def backwardsSize (shapes : List ByteShape) : Nat :=
  let states := (shapes.zip ([] :: shapes)).map fun (s, before) => s.length - shared s before
  64 + 32 * states.foldl (· + ·) 0 + 4 * shapes.length

/-- The shapes divided by their first range, with what stands behind it. -/
def branches (shapes : List ByteShape) : List (List ByteShape) :=
  (shapes.splitBy fun s t => s.head? == t.head?).map (·.map (·.drop 1))

/-- The states of a program that has these shapes in front of it, each one as the shapes that may
still follow. The fuel is the length of the shapes. -/
def states : Nat → List ByteShape → List (List ByteShape)
  | 0, _ => []
  | fuel + 1, shapes => shapes :: (branches shapes).flatMap (states fuel)

/-- The bytes of a program that reads shapes in order forwards, byte by byte. States with the same
shapes in front of them are one. -/
def forwardsSize (shapes : List ByteShape) : Nat :=
  let waiting := ((states 4 shapes).filter fun left => left.all (!·.isEmpty)).eraseDups
  waiting.foldl (fun size left => size + 32 + 8 * (branches left).length) 32

end ByteShape
end DocExpr.Regex
