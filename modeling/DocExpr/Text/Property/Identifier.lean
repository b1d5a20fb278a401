import DocExpr.Text.Case
import DocExpr.Text.Category
import DocExpr.Text.Fold
import DocExpr.Text.Runs

/-! Properties by Unicode 16 that say where a character may stand in an identifier, a pattern or a
formula, and properties of characters that have a case or change with it. -/
namespace DocExpr.Text

/-- Characters that begin identifiers without being letters. -/
def addedStarts : Runs := [
  (0x1885, 0x1886, 1), (0x2118, 0x2118, 1), (0x212e, 0x212e, 1), (0x309b, 0x309c, 1)]

/-- Characters that continue identifiers without being letters, marks or digits. -/
def addedContinues : Runs := [
  (0xb7, 0xb7, 1), (0x387, 0x387, 1), (0x1369, 0x1371, 1), (0x19da, 0x19da, 1),
  (0x200c, 0x200d, 1), (0x30fb, 0x30fb, 1), (0xff65, 0xff65, 1)]

/-- Characters that no longer begin an identifier once they are decomposed. -/
def decomposedStarts : Runs := [
  (0x37a, 0x37a, 1), (0xe33, 0xe33, 1), (0xeb3, 0xeb3, 1), (0x309b, 0x309c, 1),
  (0xfc5e, 0xfc63, 1), (0xfdfa, 0xfdfb, 1), (0xfe70, 0xfe7e, 2), (0xff9e, 0xff9f, 1)]

def mathStarts : Runs := [
  (0x2202, 0x2202, 1), (0x2207, 0x2207, 1), (0x221e, 0x221e, 1), (0x1d6c1, 0x1d6c1, 1),
  (0x1d6db, 0x1d6db, 1), (0x1d6fb, 0x1d6fb, 1), (0x1d715, 0x1d715, 1), (0x1d735, 0x1d735, 1),
  (0x1d74f, 0x1d74f, 1), (0x1d76f, 0x1d76f, 1), (0x1d789, 0x1d789, 1), (0x1d7a9, 0x1d7a9, 1),
  (0x1d7c3, 0x1d7c3, 1)]

def mathContinues : Runs := [
  (0xb2, 0xb3, 1), (0xb9, 0xb9, 1), (0x2070, 0x2070, 1), (0x2074, 0x207e, 1), (0x2080, 0x208e, 1)]

/-- Characters set aside for the syntax of patterns. -/
def patternSyntax : Runs := [
  (0x21, 0x2f, 1), (0x3a, 0x40, 1), (0x5b, 0x5e, 1), (0x60, 0x60, 1), (0x7b, 0x7e, 1),
  (0xa1, 0xa7, 1), (0xa9, 0xa9, 1), (0xab, 0xac, 1), (0xae, 0xae, 1), (0xb0, 0xb1, 1),
  (0xb6, 0xb6, 1), (0xbb, 0xbb, 1), (0xbf, 0xbf, 1), (0xd7, 0xd7, 1), (0xf7, 0xf7, 1),
  (0x2010, 0x2027, 1), (0x2030, 0x203e, 1), (0x2041, 0x2053, 1), (0x2055, 0x205e, 1),
  (0x2190, 0x245f, 1), (0x2500, 0x2775, 1), (0x2794, 0x2bff, 1), (0x2e00, 0x2e7f, 1),
  (0x3001, 0x3003, 1), (0x3008, 0x3020, 1), (0x3030, 0x3030, 1), (0xfd3e, 0xfd3f, 1),
  (0xfe45, 0xfe46, 1)]

def patternBlanks : Runs := [
  (0x9, 0xd, 1), (0x20, 0x20, 1), (0x85, 0x85, 1), (0x200e, 0x200f, 1), (0x2028, 0x2029, 1)]

/-- Characters of formulas that are no symbols of mathematics. -/
def addedMath : Runs := [
  (0x5e, 0x5e, 1), (0x3d0, 0x3d2, 1), (0x3d5, 0x3d5, 1), (0x3f0, 0x3f1, 1), (0x3f4, 0x3f5, 1),
  (0x2016, 0x2016, 1), (0x2032, 0x2034, 1), (0x2040, 0x2040, 1), (0x2061, 0x2064, 1),
  (0x207d, 0x207e, 1), (0x208d, 0x208e, 1), (0x20d0, 0x20dc, 1), (0x20e1, 0x20e1, 1),
  (0x20e5, 0x20e6, 1), (0x20eb, 0x20ef, 1), (0x2102, 0x2102, 1), (0x2107, 0x2107, 1),
  (0x210a, 0x2113, 1), (0x2115, 0x2115, 1), (0x2119, 0x211d, 1), (0x2124, 0x2124, 1),
  (0x2128, 0x2129, 1), (0x212c, 0x212d, 1), (0x212f, 0x2131, 1), (0x2133, 0x2138, 1),
  (0x213c, 0x213f, 1), (0x2145, 0x2149, 1), (0x2195, 0x2199, 1), (0x219c, 0x219f, 1),
  (0x21a1, 0x21a2, 1), (0x21a4, 0x21a5, 1), (0x21a7, 0x21a7, 1), (0x21a9, 0x21ad, 1),
  (0x21b0, 0x21b1, 1), (0x21b6, 0x21b7, 1), (0x21bc, 0x21cd, 1), (0x21d0, 0x21d1, 1),
  (0x21d3, 0x21d3, 1), (0x21d5, 0x21db, 1), (0x21dd, 0x21dd, 1), (0x21e4, 0x21e5, 1),
  (0x2308, 0x230b, 1), (0x23b4, 0x23b5, 1), (0x23b7, 0x23b7, 1), (0x23d0, 0x23d0, 1),
  (0x23e2, 0x23e2, 1), (0x25a0, 0x25a1, 1), (0x25ae, 0x25b6, 1), (0x25bc, 0x25c0, 1),
  (0x25c6, 0x25c7, 1), (0x25ca, 0x25cb, 1), (0x25cf, 0x25d3, 1), (0x25e2, 0x25e2, 1),
  (0x25e4, 0x25e4, 1), (0x25e7, 0x25ec, 1), (0x2605, 0x2606, 1), (0x2640, 0x2640, 1),
  (0x2642, 0x2642, 1), (0x2660, 0x2663, 1), (0x266d, 0x266e, 1), (0x27c5, 0x27c6, 1),
  (0x27e6, 0x27ef, 1), (0x2983, 0x2998, 1), (0x29d8, 0x29db, 1), (0x29fc, 0x29fd, 1),
  (0xfe61, 0xfe61, 1), (0xfe63, 0xfe63, 1), (0xfe68, 0xfe68, 1), (0xff3c, 0xff3c, 1),
  (0xff3e, 0xff3e, 1), (0x1d400, 0x1d454, 1), (0x1d456, 0x1d49c, 1), (0x1d49e, 0x1d49f, 1),
  (0x1d4a2, 0x1d4a2, 1), (0x1d4a5, 0x1d4a6, 1), (0x1d4a9, 0x1d4ac, 1), (0x1d4ae, 0x1d4b9, 1),
  (0x1d4bb, 0x1d4bb, 1), (0x1d4bd, 0x1d4c3, 1), (0x1d4c5, 0x1d505, 1), (0x1d507, 0x1d50a, 1),
  (0x1d50d, 0x1d514, 1), (0x1d516, 0x1d51c, 1), (0x1d51e, 0x1d539, 1), (0x1d53b, 0x1d53e, 1),
  (0x1d540, 0x1d544, 1), (0x1d546, 0x1d546, 1), (0x1d54a, 0x1d550, 1), (0x1d552, 0x1d6a5, 1),
  (0x1d6a8, 0x1d6c0, 1), (0x1d6c2, 0x1d6da, 1), (0x1d6dc, 0x1d6fa, 1), (0x1d6fc, 0x1d714, 1),
  (0x1d716, 0x1d734, 1), (0x1d736, 0x1d74e, 1), (0x1d750, 0x1d76e, 1), (0x1d770, 0x1d788, 1),
  (0x1d78a, 0x1d7a8, 1), (0x1d7aa, 0x1d7c2, 1), (0x1d7c4, 0x1d7cb, 1), (0x1d7ce, 0x1d7ff, 1),
  (0x1ee00, 0x1ee03, 1), (0x1ee05, 0x1ee1f, 1), (0x1ee21, 0x1ee22, 1), (0x1ee24, 0x1ee24, 1),
  (0x1ee27, 0x1ee27, 1), (0x1ee29, 0x1ee32, 1), (0x1ee34, 0x1ee37, 1), (0x1ee39, 0x1ee39, 1),
  (0x1ee3b, 0x1ee3b, 1), (0x1ee42, 0x1ee42, 1), (0x1ee47, 0x1ee4d, 2), (0x1ee4e, 0x1ee4f, 1),
  (0x1ee51, 0x1ee52, 1), (0x1ee54, 0x1ee54, 1), (0x1ee57, 0x1ee61, 2), (0x1ee62, 0x1ee62, 1),
  (0x1ee64, 0x1ee64, 1), (0x1ee67, 0x1ee6a, 1), (0x1ee6c, 0x1ee72, 1), (0x1ee74, 0x1ee77, 1),
  (0x1ee79, 0x1ee7c, 1), (0x1ee7e, 0x1ee7e, 1), (0x1ee80, 0x1ee89, 1), (0x1ee8b, 0x1ee9b, 1),
  (0x1eea1, 0x1eea3, 1), (0x1eea5, 0x1eea9, 1), (0x1eeab, 0x1eebb, 1)]

def startsIdentifier (c : Char) : Bool :=
  (inGroup 'l' c || letterNumerals.has c || addedStarts.has c) && !patternSyntax.has c &&
    !patternBlanks.has c

def continuesIdentifier (c : Char) : Bool :=
  startsIdentifier c ||
    ((nonspacingMarks.has c || spacingMarks.has c || decimalDigits.has c || connectors.has c ||
      addedContinues.has c) && !patternSyntax.has c)

/-- Characters that begin an identifier and still do when it is decomposed. -/
def startsStable (c : Char) : Bool := startsIdentifier c && !decomposedStarts.has c

/-- Characters that continue an identifier and still do when it is decomposed. Vowels and sound
marks lose only their place at the start. -/
def continuesStable (c : Char) : Bool :=
  continuesIdentifier c &&
    (!decomposedStarts.has c || [0xe33, 0xeb3, 0xff9e, 0xff9f].contains c.toNat)

def identifierProperties : Properties := [
  (["idstart", "ids"], .ofRule startsIdentifier),
  (["idcontinue", "idc"], .ofRule continuesIdentifier),
  (["xidstart", "xids"], .ofRule startsStable), (["xidcontinue", "xidc"], .ofRule continuesStable),
  (["otheridstart", "oids"], addedStarts.toClass),
  (["otheridcontinue", "oidc"], addedContinues.toClass),
  (["idcompatmathstart"], mathStarts.toClass),
  (["idcompatmathcontinue"], .ofRule fun c => mathStarts.has c || mathContinues.has c),
  (["patternsyntax", "patsyn"], patternSyntax.toClass),
  (["patternwhitespace", "patws"], patternBlanks.toClass),
  (["othermath", "omath"], addedMath.toClass),
  (["math"], .ofRule fun c => mathSymbols.has c || addedMath.has c)]

/-- Letters whose dot goes away under an accent. -/
def softDotted : Runs := [
  (0x69, 0x6a, 1), (0x12f, 0x12f, 1), (0x249, 0x249, 1), (0x268, 0x268, 1), (0x29d, 0x29d, 1),
  (0x2b2, 0x2b2, 1), (0x3f3, 0x3f3, 1), (0x456, 0x456, 1), (0x458, 0x458, 1),
  (0x1d62, 0x1d62, 1), (0x1d96, 0x1d96, 1), (0x1da4, 0x1da4, 1), (0x1da8, 0x1da8, 1),
  (0x1e2d, 0x1e2d, 1), (0x1ecb, 0x1ecb, 1), (0x2071, 0x2071, 1), (0x2148, 0x2149, 1),
  (0x2c7c, 0x2c7c, 1), (0x1d422, 0x1d423, 1), (0x1d456, 0x1d457, 1), (0x1d48a, 0x1d48b, 1),
  (0x1d4be, 0x1d4bf, 1), (0x1d4f2, 0x1d4f3, 1), (0x1d526, 0x1d527, 1), (0x1d55a, 0x1d55b, 1),
  (0x1d58e, 0x1d58f, 1), (0x1d5c2, 0x1d5c3, 1), (0x1d5f6, 0x1d5f7, 1), (0x1d62a, 0x1d62b, 1),
  (0x1d65e, 0x1d65f, 1), (0x1d692, 0x1d693, 1), (0x1df1a, 0x1df1a, 1), (0x1e04c, 0x1e04d, 1),
  (0x1e068, 0x1e068, 1)]

/-- Characters whose folded form is several characters. -/
def widelyFolded : Runs := [
  (0xdf, 0xdf, 1), (0x130, 0x130, 1), (0x149, 0x149, 1), (0x587, 0x587, 1), (0x1e9a, 0x1e9a, 1),
  (0x1f80, 0x1f87, 1), (0x1f90, 0x1f97, 1), (0x1fa0, 0x1fa7, 1), (0x1fb2, 0x1fb4, 1),
  (0x1fb7, 0x1fb7, 1), (0x1fc2, 0x1fc4, 1), (0x1fc7, 0x1fc7, 1), (0x1ff2, 0x1ff4, 1),
  (0x1ff7, 0x1ff7, 1), (0xfb00, 0xfb06, 1), (0xfb13, 0xfb17, 1)]

/-- Characters that keep their form at the start of a word although their upper case is another. -/
def titlecaseFixed : Runs := [
  (0x1c5, 0x1c5, 1), (0x1c8, 0x1c8, 1), (0x1cb, 0x1cb, 1), (0x1f2, 0x1f2, 1),
  (0x10d0, 0x10fa, 1), (0x10fd, 0x10ff, 1), (0x1f88, 0x1f8f, 1), (0x1f98, 0x1f9f, 1),
  (0x1fa8, 0x1faf, 1), (0x1fbc, 0x1fbc, 1), (0x1fcc, 0x1fcc, 1), (0x1ffc, 0x1ffc, 1)]

def isSettledCased (c : Char) : Bool :=
  isSettledLowercase c || isSettledUppercase c || titleLetters.has c

/-- Characters that are passed over when the letters around them are looked for. -/
def isSettledIgnorable (c : Char) : Bool :=
  nonspacingMarks.has c || enclosingMarks.has c || formatControls.has c ||
    modifierLetters.has c || modifierSymbols.has c || wordPunctuation.has c

/-- The character is assigned and has a lower case other than itself. -/
def changesInLower (c : Char) : Bool := isAssigned c && lowerChar c != [c]

/-- The character is assigned and has an upper case other than itself, all of it assigned. -/
def changesInUpper (c : Char) : Bool :=
  isAssigned c && upperChar c != [c] && (upperChar c).all isAssigned

/-- The character is written in another way when it begins a word. -/
def changesInTitle (c : Char) : Bool :=
  (changesInUpper c && !titlecaseFixed.has c) ||
    [0x1c4, 0x1c7, 0x1ca, 0x1f1].contains c.toNat

/-- The folded form is not the character. Three characters are already equal to their folded form
once they are decomposed. -/
def changesInFolding (c : Char) : Bool :=
  (fold c != c || widelyFolded.has c) && !([0x1fbe, 0x1fd3, 0x1fe3].contains c.toNat)

def caseProperties : Properties := [
  (["alphabetic", "alpha"], .ofRule isSettledAlphabetic),
  (["lowercase", "lower"], .ofRule isSettledLowercase),
  (["uppercase", "upper"], .ofRule isSettledUppercase),
  (["otheralphabetic", "oalpha"], addedAlphabetic.toClass),
  (["otherlowercase", "olower"], addedLowercase.toClass),
  (["otheruppercase", "oupper"], addedUppercase.toClass), (["cased"], .ofRule isSettledCased),
  (["caseignorable", "ci"], .ofRule isSettledIgnorable),
  (["changeswhenlowercased", "cwl"], .ofRule changesInLower),
  (["changeswhenuppercased", "cwu"], .ofRule changesInUpper),
  (["changeswhentitlecased", "cwt"], .ofRule changesInTitle),
  (["changeswhencasefolded", "cwcf"], .ofRule changesInFolding),
  (["changeswhencasemapped", "cwcm"], .ofRule fun c => changesInLower c || changesInUpper c),
  (["softdotted", "sd"], softDotted.toClass)]

end DocExpr.Text
