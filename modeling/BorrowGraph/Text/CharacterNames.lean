/-
Names of characters.

A name counts in small or capital letters.  The ideographs and the syllables of Hangul have
names by a rule, which are spelled in capital letters; of the others the tables have those of
Latin, Greek, punctuation and some symbols.  They occur in texts with backslashes, one of the
encodings that reserved settings may name.
-/

namespace BorrowGraph.Text

/-- The Latin letters that are both small and capital. -/
def latinLetters : List String := [
  "A", "A WITH ACUTE", "A WITH CIRCUMFLEX", "A WITH DIAERESIS", "A WITH GRAVE",
  "A WITH RING ABOVE", "A WITH TILDE", "AE", "B", "C", "C WITH CEDILLA", "D", "E", "E WITH ACUTE",
  "E WITH CIRCUMFLEX", "E WITH DIAERESIS", "E WITH GRAVE", "ETH", "F", "G", "H", "I",
  "I WITH ACUTE", "I WITH CIRCUMFLEX", "I WITH DIAERESIS", "I WITH GRAVE", "J", "K", "L", "M",
  "N", "N WITH TILDE", "O", "O WITH ACUTE", "O WITH CIRCUMFLEX", "O WITH DIAERESIS",
  "O WITH GRAVE", "O WITH STROKE", "O WITH TILDE", "P", "Q", "R", "S", "T", "THORN", "U",
  "U WITH ACUTE", "U WITH CIRCUMFLEX", "U WITH DIAERESIS", "U WITH GRAVE", "V", "W", "X", "Y",
  "Y WITH ACUTE", "Z"]

/-- The Greek letters that are both small and capital. -/
def greekLetters : List String := [
  "ALPHA", "BETA", "CHI", "DELTA", "EPSILON", "ETA", "GAMMA", "IOTA", "KAPPA", "LAMDA", "MU",
  "NU", "OMEGA", "OMICRON", "PHI", "PI", "PSI", "RHO", "SIGMA", "TAU", "THETA", "UPSILON", "XI",
  "ZETA"]

/-- Names of other characters, and second names of some of them. -/
def otherCharacters : List String := [
  "ACUTE ACCENT", "ALERT", "AMPERSAND", "APOSTROPHE", "ASTERISK", "AUSTRAL SIGN", "BACKSPACE",
  "BALLOT X", "BEL", "BITCOIN SIGN", "BLACK HEART SUIT", "BLACK STAR", "BLACK SUN WITH RAYS",
  "BOM", "BROKEN BAR", "BULLET", "BYTE ORDER MARK", "CARET", "CARRIAGE RETURN", "CEDI SIGN",
  "CEDILLA", "CENT SIGN", "CHARACTER TABULATION", "CHECK MARK", "CIRCUMFLEX ACCENT", "CLOUD",
  "COLON", "COLON SIGN", "COMET", "COMMA", "COMMERCIAL AT", "COPYRIGHT SIGN", "CR",
  "CRUZEIRO SIGN", "CURRENCY SIGN", "DAGGER", "DEGREE SIGN", "DEL", "DELETE", "DIAERESIS",
  "DIGIT EIGHT", "DIGIT FIVE", "DIGIT FOUR", "DIGIT NINE", "DIGIT ONE", "DIGIT SEVEN",
  "DIGIT SIX", "DIGIT THREE", "DIGIT TWO", "DIGIT ZERO", "DIVISION SIGN", "DOLLAR SIGN",
  "DONG SIGN", "DOUBLE DAGGER", "DOUBLE HIGH-REVERSED-9 QUOTATION MARK", "DOUBLE LOW LINE",
  "DOUBLE LOW-9 QUOTATION MARK", "DOUBLE PRIME", "DOUBLE VERTICAL LINE", "DOWNWARDS ARROW",
  "DRACHMA SIGN", "EM DASH", "EN DASH", "END OF LINE", "EOL", "EQUALS SIGN", "ESC", "ESCAPE",
  "EURO SIGN", "EURO-CURRENCY SIGN", "EXCLAMATION MARK", "FACE WITH TEARS OF JOY",
  "FEMININE ORDINAL INDICATOR", "FF", "FIGURE DASH", "FORM FEED", "FRENCH FRANC SIGN",
  "FULL STOP", "GERMAN PENNY SIGN", "GRAVE ACCENT", "GREATER-THAN SIGN",
  "GREEK CAPITAL LETTER IOTA WITH DIALYTIKA", "GREEK CAPITAL LETTER UPSILON WITH DIALYTIKA",
  "GREEK SMALL LETTER ALPHA WITH TONOS", "GREEK SMALL LETTER EPSILON WITH TONOS",
  "GREEK SMALL LETTER ETA WITH TONOS", "GREEK SMALL LETTER FINAL SIGMA",
  "GREEK SMALL LETTER IOTA WITH TONOS", "GREEK SMALL LETTER UPSILON WITH DIALYTIKA AND TONOS",
  "GRINNING FACE", "GRINNING FACE WITH SMILING EYES", "GUARANI SIGN", "HEAVY BALLOT X",
  "HEAVY BLACK HEART", "HEAVY CHECK MARK", "HEAVY MULTIPLICATION X", "HORIZONTAL BAR",
  "HORIZONTAL ELLIPSIS", "HORIZONTAL TABULATION", "HRYVNIA SIGN", "HT", "HYPHEN", "HYPHEN-MINUS",
  "HYPHENATION POINT", "INDIAN RUPEE SIGN", "INVERTED EXCLAMATION MARK", "INVERTED QUESTION MARK",
  "KIP SIGN", "LARI SIGN", "LATIN SMALL LETTER SHARP S", "LATIN SMALL LETTER Y WITH DIAERESIS",
  "LEFT CURLY BRACKET", "LEFT DOUBLE QUOTATION MARK", "LEFT PARENTHESIS", "LEFT RIGHT ARROW",
  "LEFT SINGLE QUOTATION MARK", "LEFT SQUARE BRACKET",
  "LEFT-POINTING DOUBLE ANGLE QUOTATION MARK", "LEFT-TO-RIGHT EMBEDDING", "LEFT-TO-RIGHT MARK",
  "LEFT-TO-RIGHT OVERRIDE", "LEFTWARDS ARROW", "LESS-THAN SIGN", "LF", "LINE FEED",
  "LINE SEPARATOR", "LINE TABULATION", "LIRA SIGN", "LIVRE TOURNOIS SIGN", "LOW LINE", "MACRON",
  "MANAT SIGN", "MASCULINE ORDINAL INDICATOR", "MICRO SIGN", "MIDDLE DOT", "MILL SIGN",
  "MULTIPLICATION SIGN", "MULTIPLICATION X", "NAIRA SIGN", "NARROW NO-BREAK SPACE", "NBSP", "NEL",
  "NEW LINE", "NEW SHEQEL SIGN", "NEXT LINE", "NL", "NO-BREAK SPACE", "NON-BREAKING HYPHEN",
  "NORDIC MARK SIGN", "NORTH EAST ARROW", "NORTH WEST ARROW", "NOT SIGN", "NUL", "NULL",
  "NUMBER SIGN", "ONE DOT LEADER", "PARAGRAPH SEPARATOR", "PER MILLE SIGN",
  "PER TEN THOUSAND SIGN", "PERCENT SIGN", "PESETA SIGN", "PESO SIGN", "PILCROW SIGN",
  "PILE OF POO", "PLUS SIGN", "PLUS-MINUS SIGN", "POP DIRECTIONAL FORMATTING", "POUND SIGN",
  "PRIME", "QUESTION MARK", "QUOTATION MARK", "REFERENCE MARK", "REGISTERED SIGN",
  "REPLACEMENT CHARACTER", "REVERSE SOLIDUS", "REVERSED DOUBLE PRIME", "REVERSED PRIME",
  "REVERSED TRIPLE PRIME", "RIGHT CURLY BRACKET", "RIGHT DOUBLE QUOTATION MARK",
  "RIGHT PARENTHESIS", "RIGHT SINGLE QUOTATION MARK", "RIGHT SQUARE BRACKET",
  "RIGHT-POINTING DOUBLE ANGLE QUOTATION MARK", "RIGHT-TO-LEFT EMBEDDING", "RIGHT-TO-LEFT MARK",
  "RIGHT-TO-LEFT OVERRIDE", "RIGHTWARDS ARROW", "RUBLE SIGN", "RUPEE SIGN", "SECTION SIGN",
  "SEMICOLON", "SHY", "SINGLE HIGH-REVERSED-9 QUOTATION MARK",
  "SINGLE LEFT-POINTING ANGLE QUOTATION MARK", "SINGLE LOW-9 QUOTATION MARK",
  "SINGLE RIGHT-POINTING ANGLE QUOTATION MARK", "SMILING FACE WITH HALO",
  "SMILING FACE WITH HORNS", "SMILING FACE WITH OPEN MOUTH",
  "SMILING FACE WITH OPEN MOUTH AND COLD SWEAT", "SMILING FACE WITH OPEN MOUTH AND SMILING EYES",
  "SMILING FACE WITH OPEN MOUTH AND TIGHTLY-CLOSED EYES", "SMILING FACE WITH SMILING EYES",
  "SNAKE", "SNOWMAN", "SOFT HYPHEN", "SOLIDUS", "SOUTH EAST ARROW", "SOUTH WEST ARROW", "SP",
  "SPACE", "SPESMILO SIGN", "SUPERSCRIPT ONE", "SUPERSCRIPT THREE", "SUPERSCRIPT TWO", "TAB",
  "TENGE SIGN", "TILDE", "TRIANGULAR BULLET", "TRIPLE PRIME", "TUGRIK SIGN", "TURKISH LIRA SIGN",
  "TWO DOT LEADER", "UMBRELLA", "UP DOWN ARROW", "UPWARDS ARROW", "VERTICAL LINE",
  "VERTICAL TABULATION", "VULGAR FRACTION ONE HALF", "VULGAR FRACTION ONE QUARTER",
  "VULGAR FRACTION THREE QUARTERS", "WHITE STAR", "WINKING FACE", "WON SIGN", "YEN SIGN",
  "ZERO WIDTH JOINER", "ZERO WIDTH NO-BREAK SPACE", "ZERO WIDTH NON-JOINER", "ZERO WIDTH SPACE",
  "ZWJ", "ZWNJ", "ZWSP"]

/-- The code points of ideographs. -/
def ideographRanges : List (Nat × Nat) := [
  (0x3400, 0x4dbf), (0x4e00, 0x9fff), (0x20000, 0x2a6df), (0x2a700, 0x2b738), (0x2b740, 0x2b81d),
  (0x2b820, 0x2cea1), (0x2ceb0, 0x2ebe0), (0x30000, 0x3134a)]

/-- The letters that begin, continue and end a syllable of Hangul. -/
def hangulParts : List (List String) := [
  ["G", "GG", "N", "D", "DD", "R", "M", "B", "BB", "S", "SS", "", "J", "JJ", "C", "K", "T", "P",
    "H"],
  ["A", "AE", "YA", "YAE", "EO", "E", "YEO", "YE", "O", "WA", "WAE", "OE", "YO", "U", "WEO", "WE",
    "WI", "YU", "EU", "YI", "I"],
  ["", "G", "GG", "GS", "N", "NJ", "NH", "D", "L", "LG", "LM", "LB", "LS", "LT", "LP", "LH", "M",
    "B", "BS", "S", "SS", "NG", "J", "C", "K", "T", "P", "H"]]

/-- The rest of a text behind a beginning. -/
def behind? (start s : String) : Option (List Char) :=
  if start.toList.isPrefixOf s.toList then some (s.toList.drop start.length) else none

/-- Whether a text is one of each of several lists, one behind the other. -/
def isChain : List (List String) → List Char → Bool
  | [], cs => cs.isEmpty
  | part :: parts, cs => part.any fun p =>
    p.toList.isPrefixOf cs && isChain parts (cs.drop p.length)

/-- The value of four or five hexadecimal digits with capital letters. -/
def capitalHex? (cs : List Char) : Option Nat :=
  if cs.length = 4 ∨ cs.length = 5 then
    cs.foldlM (fun n c =>
      if '0' ≤ c ∧ c ≤ '9' then some (16 * n + (c.toNat - '0'.toNat))
      else if 'A' ≤ c ∧ c ≤ 'F' then some (16 * n + (c.toNat - 'A'.toNat + 10))
      else none) 0
  else none

/-- Whether a text names a character. -/
def isCharacterName (name : String) : Bool :=
  let capitals := String.ofList (name.toList.map Char.toUpper)
  let isLetter (start : String) (letters : List String) : Bool :=
    match behind? start capitals with
    | some letter => letters.any fun l => l.toList = letter
    | none => false
  match behind? "CJK UNIFIED IDEOGRAPH-" name, behind? "HANGUL SYLLABLE " name with
  | some digits, _ =>
    match capitalHex? digits with
    | some n => ideographRanges.any fun (lo, hi) => lo ≤ n && n ≤ hi
    | none => false
  | _, some syllable => isChain hangulParts syllable
  | none, none =>
    isLetter "LATIN CAPITAL LETTER " latinLetters || isLetter "LATIN SMALL LETTER " latinLetters
      || isLetter "GREEK CAPITAL LETTER " greekLetters
      || isLetter "GREEK SMALL LETTER " greekLetters || capitals ∈ otherCharacters

end BorrowGraph.Text
