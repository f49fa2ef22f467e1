import StructGen.Text.Lines

/-!
# Runs of named characters

The names of consecutive characters mostly start alike. A run writes them one after another with a
semicolon between them; a digit in front of a name says how many words of the name before it are
kept. A character without a name leaves its place empty. Frequent words are written as one small
letter or as two, and a blank stands only between two words that are written out.

* `Run.entries` gives each character of a run with its name.
-/

namespace StructGen.Text.CharacterName

/-- The words that are written as one letter, from `a` to `p`. -/
def letterWords : List String := [
  "ABOVE", "AND", "ARROW", "BELOW", "CAPITAL", "DOUBLE", "FINAL", "FORM", "ISOLATED", "LEFT",
  "LETTER", "RIGHT", "RIGHTWARDS", "SIGN", "SMALL", "WITH"]

/-- The words that are written as two letters, from `qa` to `zz`. -/
def pairWords : List String := [
  "ABBREVIATION", "ACCENT", "ACUTE", "ALEF", "ALPHA", "ALTERNATE", "ALTERNATING", "ANGLE",
  "ANTICLOCKWISE", "ANUSVARA", "ARABIC", "ARABIC-INDIC", "ARCHAIC", "ARCHAION", "ARROWHEAD",
  "ASTERISK", "AVAGRAHA", "BAR", "BARB", "BETWEEN", "BLACK", "BLOCK", "BOTTOM", "BRACKET",
  "BREVE", "C-SIMPLIFIED", "CANDRABINDU", "CARON", "CEDILLA", "CENTRE", "CHA", "CHESS", "CIRCLE",
  "CIRCLED", "CIRCUMFLEX", "CLOCKWISE", "CLOSED", "COLON", "COMBINING", "COMMA", "CONJOINED",
  "CONSONANT", "COPTIC", "CORNER", "CROSS", "CROSSING", "CRYPTOGRAMMIC", "CURLY", "DAGESH",
  "DANDA", "DASH", "DASIA", "DDHA", "DEGREES", "DESCENDER", "DIAERESIS", "DIAGONAL", "DIALYTIKA",
  "DIAMOND", "DIGIT", "DIGRAPH", "DOT", "DOTS", "DOTTED", "DOUBLE-STRUCK", "DOWN",
  "DOWN-POINTING", "DOWNWARDS", "EAST", "EIGHT", "EIGHTH", "EPSILON", "EQUAL", "EQUALS",
  "EQUILATERAL", "EQUIVALENT", "EXCLAMATION", "FACE", "FIFTY", "FINGERS", "FIVE", "FOUR",
  "FRACTION", "FULL", "GLOTTAL", "GRAVE", "GREATER-THAN", "GREEK", "GUNU", "HA", "HAH", "HALF",
  "HAMZA", "HAND-ANGLE", "HAND-CIRCLE", "HAND-FIST", "HAND-HINGE", "HARPOON", "HEART", "HEAVY",
  "HIGH", "HITTING", "HOOK", "HORIZONTAL", "HUNDRED", "IDEOGRAPHIC", "INDEX", "INITIAL",
  "INSULAR", "INTEGRAL", "INTERSECTION", "INVERTED", "IOTIFIED", "JEEM", "KA", "KHA", "KHAH",
  "KNIGHT", "LA", "LARGE", "LATIN", "LEFT-POINTING", "LEFTWARDS", "LESS-THAN", "LIGATURE",
  "LIGHT", "LINE", "LITTLE", "LONG", "LOW", "LOWER", "MA", "MACRON", "MAKSURA", "MARK",
  "MATHEMATICAL", "MEDIAL", "MEDIUM", "MEEM", "MIDDLE", "MODIFIER", "MOVEMENT-FLOORPLANE",
  "MOVEMENT-WALLPLANE", "MULTIPLICATION", "NA", "NEGATIVE", "NEUTRAL", "NGA", "NINE", "NINETY",
  "NOON", "NORTH", "NOT", "NUMBER", "NYA", "OF", "OLD", "OMEGA", "OMICRON", "ONE", "OPEN",
  "OPERATOR", "ORKHON", "ORNAMENT", "OVER", "OVERLAY", "OXIA", "PA", "PALATAL", "PARENTHESIS",
  "PERISPOMENI", "PHA", "PLUS", "POINTED", "POINTING", "PROSGEGRAMMENI", "PSILI", "PUNCTUATION",
  "QUADRANT", "QUARTER", "QUARTERS", "QUESTION", "QUOTATION", "RA", "RAISED", "RETROFLEX",
  "REVERSE", "REVERSED", "RIGHT-POINTING", "RING", "ROTATED", "SA", "SANS-SERIF", "SCRIPT",
  "SECTION", "SEPARATOR", "SEVEN", "SEVENTY", "SHA", "SHORT", "SIGMA", "SINGLE", "SIX", "SLANTED",
  "SOLIDUS", "SOUTH", "SQUARE", "SQUARED", "STAR", "STOP", "STRAIGHT", "STROKE", "SUBSET",
  "SUPERSCRIPT", "SUPERSET", "SYLLABLE", "SYMBOL", "TA", "TAIL", "TEN", "TENU", "THA", "THIRTY",
  "THOUSAND", "THREE", "THUMB", "TILDE", "TIMES", "TO", "TONE", "TORTOISE", "TRIANGLE",
  "TRIANGLE-HEADED", "TRIANGULAR", "TRIPLE", "TTHA", "TURNED", "TWENTY", "TWO", "UNDERBAR", "UP",
  "UP-POINTING", "UPPER", "UPSILON", "UPWARDS", "VARIA", "VARIANT", "VERTICAL", "VIRAMA",
  "VISARGA", "VOCALIC", "VOWEL", "WEST", "WEST-CREE", "WHITE", "YA", "YEH", "YENISEI",
  "YPOGEGRAMMENI", "ZERO"]

/-- The names of consecutive characters. -/
structure Run where
  /-- The code point of the first character. -/
  first : Nat
  /-- The names, with a semicolon between them, cut into lines. -/
  names : List String

/-- The words of a written name, `word` being the one that is open, reversed. -/
def wordsOf (word : List Char) : List Char → List (List Char)
  | [] => if word.isEmpty then [] else [word.reverse]
  | c :: cs =>
    let closed := if word.isEmpty then [] else [word.reverse]
    if c = ' ' then closed ++ wordsOf [] cs
    else if c.isLower then
      if c ≤ 'p' then
        closed ++ (letterWords.getD (c.toNat - 'a'.toNat) "").toList :: wordsOf [] cs
      else match cs with
        | d :: cs =>
          let place := (c.toNat - 'q'.toNat) * 26 + (d.toNat - 'a'.toNat)
          closed ++ (pairWords.getD place "").toList :: wordsOf [] cs
        | [] => closed
    else wordsOf (c :: word) cs

/-- The words of the name that `written` stands for after a name with the words `before`. -/
def nameWords (before : List (List Char)) (written : List Char) : List (List Char) :=
  match written with
  | c :: cs =>
    if c.isDigit then before.take (c.toNat - '0'.toNat) ++ wordsOf [] cs else wordsOf [] written
  | [] => []

/-- The names that `written` stands for, as words, after a name with the words `before`; an empty
name leaves that name as it is. -/
def nameList (before : List (List Char)) : List (List Char) → List (List (List Char))
  | [] => []
  | [] :: rest => [] :: nameList before rest
  | written :: rest =>
    let words := nameWords before written
    words :: nameList words rest

/-- The characters of a run with the words of their names. -/
def Run.entries (run : Run) : List (List (List Char) × Nat) :=
  (nameList [] ((run.names.flatMap String.toList).splitOn ';')).zipIdx run.first

/-- The character of a run that has a name with the given words. -/
def Run.find? (run : Run) (words : List (List Char)) : Option Nat :=
  run.entries.lookup words

end StructGen.Text.CharacterName
