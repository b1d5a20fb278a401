import DocExpr.Text.Blank
import DocExpr.Text.Property.Layout
import DocExpr.Text.Script

/-! Properties by Unicode 16 that bear on where a character that a reader sees begins and ends, and
the classes of characters by which a text is divided into words and into sentences. -/
namespace DocExpr.Text

/-- Characters that belong to the one in front without being nonspacing marks. -/
def addedExtending : Runs := [
  (0x9be, 0x9be, 1), (0x9d7, 0x9d7, 1), (0xb3e, 0xb3e, 1), (0xb57, 0xb57, 1), (0xbbe, 0xbbe, 1),
  (0xbd7, 0xbd7, 1), (0xcc0, 0xcc0, 1), (0xcc2, 0xcc2, 1), (0xcc7, 0xcc8, 1), (0xcca, 0xccb, 1),
  (0xcd5, 0xcd6, 1), (0xd3e, 0xd3e, 1), (0xd57, 0xd57, 1), (0xdcf, 0xdcf, 1), (0xddf, 0xddf, 1),
  (0x1715, 0x1715, 1), (0x1734, 0x1734, 1), (0x1b35, 0x1b35, 1), (0x1b3b, 0x1b3b, 1),
  (0x1b3d, 0x1b3d, 1), (0x1b43, 0x1b44, 1), (0x1baa, 0x1baa, 1), (0x1bf2, 0x1bf3, 1),
  (0x200c, 0x200c, 1), (0x302e, 0x302f, 1), (0xa953, 0xa953, 1), (0xa9c0, 0xa9c0, 1),
  (0xff9e, 0xff9f, 1), (0x111c0, 0x111c0, 1), (0x11235, 0x11235, 1), (0x1133e, 0x1133e, 1),
  (0x1134d, 0x1134d, 1), (0x11357, 0x11357, 1), (0x113b8, 0x113b8, 1), (0x113c2, 0x113c2, 1),
  (0x113c5, 0x113c5, 1), (0x113c7, 0x113c9, 1), (0x113cf, 0x113cf, 1), (0x114b0, 0x114b0, 1),
  (0x114bd, 0x114bd, 1), (0x115af, 0x115af, 1), (0x116b6, 0x116b6, 1), (0x11930, 0x11930, 1),
  (0x1193d, 0x1193d, 1), (0x11f41, 0x11f41, 1), (0x16ff0, 0x16ff1, 1), (0x1d165, 0x1d166, 1),
  (0x1d16d, 0x1d172, 1), (0xe0020, 0xe007f, 1)]

/-- Signs that take away the vowel of the letter in front. -/
def graphemeLinks : Runs := [
  (0x94d, 0x94d, 1), (0x9cd, 0x9cd, 1), (0xa4d, 0xa4d, 1), (0xacd, 0xacd, 1), (0xb4d, 0xb4d, 1),
  (0xbcd, 0xbcd, 1), (0xc4d, 0xc4d, 1), (0xccd, 0xccd, 1), (0xd3b, 0xd3c, 1), (0xd4d, 0xd4d, 1),
  (0xdca, 0xdca, 1), (0xe3a, 0xe3a, 1), (0xeba, 0xeba, 1), (0xf84, 0xf84, 1),
  (0x1039, 0x103a, 1), (0x1714, 0x1715, 1), (0x1734, 0x1734, 1), (0x17d2, 0x17d2, 1),
  (0x1a60, 0x1a60, 1), (0x1b44, 0x1b44, 1), (0x1baa, 0x1bab, 1), (0x1bf2, 0x1bf3, 1),
  (0x2d7f, 0x2d7f, 1), (0xa806, 0xa806, 1), (0xa82c, 0xa82c, 1), (0xa8c4, 0xa8c4, 1),
  (0xa953, 0xa953, 1), (0xa9c0, 0xa9c0, 1), (0xaaf6, 0xaaf6, 1), (0xabed, 0xabed, 1),
  (0x10a3f, 0x10a3f, 1), (0x11046, 0x11046, 1), (0x11070, 0x11070, 1), (0x1107f, 0x1107f, 1),
  (0x110b9, 0x110b9, 1), (0x11133, 0x11134, 1), (0x111c0, 0x111c0, 1), (0x11235, 0x11235, 1),
  (0x112ea, 0x112ea, 1), (0x1134d, 0x1134d, 1), (0x113ce, 0x113d0, 1), (0x11442, 0x11442, 1),
  (0x114c2, 0x114c2, 1), (0x115bf, 0x115bf, 1), (0x1163f, 0x1163f, 1), (0x116b6, 0x116b6, 1),
  (0x1172b, 0x1172b, 1), (0x11839, 0x11839, 1), (0x1193d, 0x1193e, 1), (0x119e0, 0x119e0, 1),
  (0x11a34, 0x11a34, 1), (0x11a47, 0x11a47, 1), (0x11a99, 0x11a99, 1), (0x11c3f, 0x11c3f, 1),
  (0x11d44, 0x11d45, 1), (0x11d97, 0x11d97, 1), (0x11f41, 0x11f42, 1), (0x1612f, 0x1612f, 1)]

/-- Letters that belong to the character behind them. -/
def leadingLetters : Runs := [
  (0xd4e, 0xd4e, 1), (0x111c2, 0x111c3, 1), (0x113d1, 0x113d1, 1), (0x1193f, 0x1193f, 1),
  (0x11941, 0x11941, 1), (0x11a3a, 0x11a3a, 1), (0x11a84, 0x11a89, 1), (0x11d46, 0x11d46, 1),
  (0x11f02, 0x11f02, 1)]

/-- Spacing marks that may stand alone. -/
def separateMarks : Runs := [
  (0x102b, 0x102c, 1), (0x1038, 0x1038, 1), (0x1062, 0x1064, 1), (0x1067, 0x106d, 1),
  (0x1083, 0x1083, 1), (0x1087, 0x108c, 1), (0x108f, 0x108f, 1), (0x109a, 0x109c, 1),
  (0x1a61, 0x1a61, 1), (0x1a63, 0x1a64, 1), (0xaa7b, 0xaa7b, 1), (0xaa7d, 0xaa7d, 1),
  (0x11720, 0x11721, 1)]

def leadingJamo : Runs := [(0x1100, 0x115f, 1), (0xa960, 0xa97c, 1)]

/-- Vowels of Hangul syllables and of scripts that are put together like them. -/
def vowelJamo : Runs := [
  (0x1160, 0x11a7, 1), (0xd7b0, 0xd7c6, 1), (0x16d63, 0x16d63, 1), (0x16d67, 0x16d6a, 1)]

def trailingJamo : Runs := [(0x11a8, 0x11ff, 1), (0xd7cb, 0xd7fb, 1)]

/-- Hangul syllables that end in a vowel. -/
def openSyllables : Runs := [(0xac00, 0xd788, 28)]

def syllables : Runs := [(0xac00, 0xd7a3, 1)]

/-- Characters that belong to the one in front. -/
def extendsGrapheme (c : Char) : Bool :=
  nonspacingMarks.has c || enclosingMarks.has c || addedExtending.has c

def isGraphemeBase (c : Char) : Bool :=
  isAssigned c && !extendsGrapheme c && !inGroup 'c' c && !lineSeparators.has c &&
    !paragraphSeparators.has c

/-- Controls and separators other than the ends of lines, and code points set aside for them. -/
def isGraphemeControl (c : Char) : Bool :=
  (controls.has c || formatControls.has c || lineSeparators.has c || paragraphSeparators.has c ||
      (isDefaultIgnorable c && !isAssigned c)) &&
    !(c == '\n' || c == '\r' || joiners.has c || numberMarks.has c || extendsGrapheme c)

/-- Marks with a width that belong to the character in front. -/
def isJoinedMark (c : Char) : Bool :=
  (spacingMarks.has c && !extendsGrapheme c && !separateMarks.has c) ||
    c.toNat == 0xe33 || c.toNat == 0xeb3

def graphemeProperties : Properties := [
  (["graphemeextend", "grext"], .ofRule extendsGrapheme),
  (["graphemebase", "grbase"], .ofRule isGraphemeBase),
  (["graphemelink", "grlink"], graphemeLinks.toClass),
  (["othergraphemeextend", "ogrext"], addedExtending.toClass)]

/-- The parts that a visible character is put together from. -/
def graphemeBreaks : Properties := [
  (["control", "cn"], .ofRule isGraphemeControl), (["cr"], .ofRule fun c => c == '\r'),
  (["lf"], .ofRule fun c => c == '\n'),
  (["extend", "ex"], .ofRule fun c => extendsGrapheme c || emojiModifiers.has c),
  (["prepend", "pp"], .ofRule fun c => leadingLetters.has c || numberMarks.has c),
  (["spacingmark", "sm"], .ofRule isJoinedMark),
  (["regionalindicator", "ri"], regionalIndicators.toClass),
  (["zwj"], .ofRule fun c => c.toNat == 0x200d), (["l"], leadingJamo.toClass),
  (["v"], vowelJamo.toClass), (["t"], trailingJamo.toClass), (["lv"], openSyllables.toClass),
  (["lvt"], .ofRule fun c => syllables.has c && !openSyllables.has c)]

/-- Letters of scripts that are written without spaces between words. -/
def unspacedLetters : Runs := [
  (0xe01, 0xe30, 1), (0xe32, 0xe33, 1), (0xe40, 0xe46, 1), (0xe81, 0xe82, 1), (0xe84, 0xe84, 1),
  (0xe86, 0xe8a, 1), (0xe8c, 0xea3, 1), (0xea5, 0xea5, 1), (0xea7, 0xeb0, 1), (0xeb2, 0xeb3, 1),
  (0xebd, 0xebd, 1), (0xec0, 0xec4, 1), (0xec6, 0xec6, 1), (0xedc, 0xedf, 1),
  (0x1000, 0x102a, 1), (0x103f, 0x103f, 1), (0x1050, 0x1055, 1), (0x105a, 0x105d, 1),
  (0x1061, 0x1061, 1), (0x1065, 0x1066, 1), (0x106e, 0x1070, 1), (0x1075, 0x1081, 1),
  (0x108e, 0x108e, 1), (0x1780, 0x17b3, 1), (0x17d7, 0x17d7, 1), (0x17dc, 0x17dc, 1),
  (0x1950, 0x196d, 1), (0x1970, 0x1974, 1), (0x1980, 0x19ab, 1), (0x19b0, 0x19c9, 1),
  (0x1a20, 0x1a54, 1), (0x1aa7, 0x1aa7, 1), (0xa9e0, 0xa9e4, 1), (0xa9e6, 0xa9ef, 1),
  (0xa9fa, 0xa9fe, 1), (0xaa60, 0xaa76, 1), (0xaa7a, 0xaa7a, 1), (0xaa7e, 0xaaaf, 1),
  (0xaab1, 0xaab1, 1), (0xaab5, 0xaab6, 1), (0xaab9, 0xaabd, 1), (0xaac0, 0xaac0, 1),
  (0xaac2, 0xaac2, 1), (0xaadb, 0xaadd, 1), (0x11700, 0x1171a, 1), (0x11740, 0x11746, 1)]

/-- Characters that count as letters of a word without being alphabetic. -/
def addedLetters : Runs := [
  (0x2c2, 0x2c5, 1), (0x2d2, 0x2d7, 1), (0x2de, 0x2df, 1), (0x2e5, 0x2eb, 1), (0x2ed, 0x2ed, 1),
  (0x2ef, 0x2ff, 1), (0x55a, 0x55c, 1), (0x55e, 0x55e, 1), (0x58a, 0x58a, 1), (0x5f3, 0x5f3, 1),
  (0x70f, 0x70f, 1), (0xa708, 0xa716, 1), (0xa720, 0xa721, 1), (0xa789, 0xa78a, 1),
  (0xab5b, 0xab5b, 1)]

def hebrewLetters : Runs := [
  (0x5d0, 0x5ea, 1), (0x5ef, 0x5f2, 1), (0xfb1d, 0xfb1d, 1), (0xfb1f, 0xfb28, 1),
  (0xfb2a, 0xfb36, 1), (0xfb38, 0xfb3c, 1), (0xfb3e, 0xfb3e, 1), (0xfb40, 0xfb41, 1),
  (0xfb43, 0xfb44, 1), (0xfb46, 0xfb4f, 1)]

/-- Katakana, and signs that are used with it. -/
def katakanaLetters : Runs := [
  (0x3031, 0x3035, 1), (0x309b, 0x309c, 1), (0x30a0, 0x30fa, 1), (0x30fc, 0x30ff, 1),
  (0x31f0, 0x31ff, 1), (0x32d0, 0x32fe, 1), (0x3300, 0x3357, 1), (0xff66, 0xff9d, 1),
  (0x1aff0, 0x1aff3, 1), (0x1aff5, 0x1affb, 1), (0x1affd, 0x1affe, 1), (0x1b000, 0x1b000, 1),
  (0x1b120, 0x1b122, 1), (0x1b155, 0x1b155, 1), (0x1b164, 0x1b167, 1)]

def midLetters : Runs := [
  (0x3a, 0x3a, 1), (0xb7, 0xb7, 1), (0x387, 0x387, 1), (0x55f, 0x55f, 1), (0x5f4, 0x5f4, 1),
  (0x2027, 0x2027, 1), (0xfe13, 0xfe13, 1), (0xfe55, 0xfe55, 1), (0xff1a, 0xff1a, 1)]

def midNumbers : Runs := [
  (0x2c, 0x2c, 1), (0x3b, 0x3b, 1), (0x37e, 0x37e, 1), (0x589, 0x589, 1), (0x60c, 0x60d, 1),
  (0x66c, 0x66c, 1), (0x7f8, 0x7f8, 1), (0x2044, 0x2044, 1), (0xfe10, 0xfe10, 1),
  (0xfe14, 0xfe14, 1), (0xfe50, 0xfe50, 1), (0xfe54, 0xfe54, 1), (0xff0c, 0xff0c, 1),
  (0xff1b, 0xff1b, 1)]

def midBoth : Runs := [
  (0x2e, 0x2e, 1), (0x2018, 0x2019, 1), (0x2024, 0x2024, 1), (0xfe52, 0xfe52, 1),
  (0xff07, 0xff07, 1), (0xff0e, 0xff0e, 1)]

/-- Connectors, and a space that joins. -/
def wordConnectors : Runs := [
  (0x5f, 0x5f, 1), (0x202f, 0x202f, 1), (0x203f, 0x2040, 1), (0x2054, 0x2054, 1),
  (0xfe33, 0xfe34, 1), (0xfe4d, 0xfe4f, 1), (0xff3f, 0xff3f, 1)]

def spansDigits (c : Char) : Bool := numberMarks.has c && c.toNat != 0x70f

def extendsWord (c : Char) : Bool :=
  extendsGrapheme c || spacingMarks.has c || emojiModifiers.has c

/-- Letters of scripts that are written with spaces between words. -/
def isWordLetter (c : Char) : Bool :=
  addedLetters.has c ||
    (isSettledAlphabetic c && !ideographs.has c && !katakanaLetters.has c &&
      !unspacedLetters.has c && !((script? "hiragana").any fun script => script.has c) &&
      !extendsWord c && !hebrewLetters.has c)

/-- Format controls other than joiners and zero-width spaces. -/
def isWordFormat (c : Char) : Bool :=
  formatControls.has c && c.toNat != 0x200b && !joiners.has c && !numberMarks.has c &&
    !extendsGrapheme c

def isWordSpace (c : Char) : Bool :=
  spaceSeparators.has c && !([0xa0, 0x2007, 0x202f].contains c.toNat)

/-- Digits, and signs that are used like them. -/
def isWordNumeric (c : Char) : Bool :=
  decimalDigits.has c || c.toNat == 0x66b || spansDigits c

/-- Ends of lines that are no carriage return and no line feed. -/
def isNewline (c : Char) : Bool := [0xb, 0xc, 0x85, 0x2028, 0x2029].contains c.toNat

def wordBreaks : Properties := [
  (["aletter", "le"], .ofRule isWordLetter), (["hebrewletter", "hl"], hebrewLetters.toClass),
  (["katakana", "ka"], katakanaLetters.toClass), (["numeric", "nu"], .ofRule isWordNumeric),
  (["extend"], .ofRule extendsWord), (["format", "fo"], .ofRule isWordFormat),
  (["extendnumlet", "ex"], wordConnectors.toClass), (["midletter", "ml"], midLetters.toClass),
  (["midnum", "mn"], midNumbers.toClass), (["midnumlet", "mb"], midBoth.toClass),
  (["singlequote", "sq"], .ofRule fun c => c.toNat == 0x27),
  (["doublequote", "dq"], .ofRule fun c => c.toNat == 0x22), (["cr"], .ofRule fun c => c == '\r'),
  (["lf"], .ofRule fun c => c == '\n'), (["newline", "nl"], .ofRule isNewline),
  (["regionalindicator", "ri"], regionalIndicators.toClass), (["wsegspace"], .ofRule isWordSpace),
  (["zwj"], .ofRule fun c => c.toNat == 0x200d)]

/-- Quotation marks that are no opening or closing punctuation. -/
def addedClosers : Runs := [
  (0x22, 0x22, 1), (0x27, 0x27, 1), (0x275b, 0x2760, 1), (0x2e00, 0x2e01, 1),
  (0x2e06, 0x2e08, 1), (0x2e0b, 0x2e0b, 1), (0x1f676, 0x1f678, 1)]

def sentenceContinues : Runs := [
  (0x2c, 0x2d, 1), (0x3a, 0x3b, 1), (0x37e, 0x37e, 1), (0x55d, 0x55d, 1), (0x60c, 0x60d, 1),
  (0x7f8, 0x7f8, 1), (0x1802, 0x1802, 1), (0x1808, 0x1808, 1), (0x2013, 0x2014, 1),
  (0x3001, 0x3001, 1), (0xfe10, 0xfe11, 1), (0xfe13, 0xfe14, 1), (0xfe31, 0xfe32, 1),
  (0xfe50, 0xfe51, 1), (0xfe54, 0xfe55, 1), (0xfe58, 0xfe58, 1), (0xfe63, 0xfe63, 1),
  (0xff0c, 0xff0d, 1), (0xff1a, 0xff1b, 1), (0xff64, 0xff64, 1)]

def fullStops : Runs := [
  (0x2e, 0x2e, 1), (0x2024, 0x2024, 1), (0xfe52, 0xfe52, 1), (0xff0e, 0xff0e, 1)]

/-- The small and the capital letters of Georgian, which do not begin a sentence. -/
def georgianLetters : Runs := [
  (0x10d0, 0x10fa, 1), (0x10fd, 0x10ff, 1), (0x1c90, 0x1cba, 1), (0x1cbd, 0x1cbf, 1)]

def extendsSentence (c : Char) : Bool :=
  extendsGrapheme c || spacingMarks.has c || c.toNat == 0x200d

def isSentenceLower (c : Char) : Bool :=
  isSettledLowercase c && !extendsGrapheme c && !georgianLetters.has c

def isSentenceUpper (c : Char) : Bool :=
  (isSettledUppercase c || titleLetters.has c) && !georgianLetters.has c

/-- Letters without a case. -/
def isSentenceLetter (c : Char) : Bool :=
  (isSettledAlphabetic c || c.toNat == 0x5f3 || c.toNat == 0x70f) && !isSentenceLower c &&
    !isSentenceUpper c && !extendsSentence c

/-- Format controls other than joiners. -/
def isSentenceFormat (c : Char) : Bool :=
  formatControls.has c && !joiners.has c && !numberMarks.has c && !extendsGrapheme c

/-- The end of a paragraph, where it is no carriage return and no line feed. -/
def isParagraphEnd (c : Char) : Bool := [0x85, 0x2028, 0x2029].contains c.toNat

def isSentenceSpace (c : Char) : Bool :=
  isBlank c && !isParagraphEnd c && c != '\r' && c != '\n'

/-- Punctuation that ends a sentence beyond doubt. -/
def isSentenceEnd (c : Char) : Bool := sentenceEnds.has c && !fullStops.has c

def isSentenceClose (c : Char) : Bool :=
  openers.has c || closers.has c || initialQuotes.has c || finalQuotes.has c || addedClosers.has c

def isSentenceNumeric (c : Char) : Bool := isWordNumeric c || c.toNat == 0x66c

def sentenceBreaks : Properties := [
  (["lower", "lo"], .ofRule isSentenceLower), (["upper", "up"], .ofRule isSentenceUpper),
  (["oletter", "le"], .ofRule isSentenceLetter), (["numeric", "nu"], .ofRule isSentenceNumeric),
  (["aterm", "at"], fullStops.toClass), (["sterm", "st"], .ofRule isSentenceEnd),
  (["close", "cl"], .ofRule isSentenceClose), (["scontinue", "sc"], sentenceContinues.toClass),
  (["extend", "ex"], .ofRule extendsSentence), (["format", "fo"], .ofRule isSentenceFormat),
  (["sep", "se"], .ofRule isParagraphEnd), (["sp"], .ofRule isSentenceSpace),
  (["cr"], .ofRule fun c => c == '\r'), (["lf"], .ofRule fun c => c == '\n')]

end DocExpr.Text
