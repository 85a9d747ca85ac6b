/-!
# Character names

A pattern can write a character by its name in the Unicode standard, version 14.  Which names there are
is left open where patterns are read; a program knows the names of common characters, in any mixture
of cases.
-/

namespace BrickFormula

/-- The characters that names stand for. -/
abbrev CharacterNames := String → Option Char

namespace CharacterNames

/-- The names of the characters from `first` on: their common beginning and, separated by commas, how
they go on. -/
structure Run where
  first : Nat
  beginning : String
  rests : String

def runs : List Run :=
  [⟨0x0, "",
     "NULL,START OF HEADING,START OF TEXT,END OF TEXT,END OF TRANSMISSION,ENQUIRY," ++
     "ACKNOWLEDGE,ALERT,BACKSPACE,CHARACTER TABULATION,LINE FEED,LINE TABULATION," ++
     "FORM FEED,CARRIAGE RETURN,SHIFT OUT,SHIFT IN,DATA LINK ESCAPE,DEVICE CONTROL ONE," ++
     "DEVICE CONTROL TWO,DEVICE CONTROL THREE,DEVICE CONTROL FOUR,NEGATIVE ACKNOWLEDGE," ++
     "SYNCHRONOUS IDLE,END OF TRANSMISSION BLOCK,CANCEL,END OF MEDIUM,SUBSTITUTE,ESCAPE," ++
     "INFORMATION SEPARATOR FOUR,INFORMATION SEPARATOR THREE,INFORMATION SEPARATOR TWO," ++
     "INFORMATION SEPARATOR ONE"⟩,
   ⟨0x20, "",
     "SPACE,EXCLAMATION MARK,QUOTATION MARK,NUMBER SIGN,DOLLAR SIGN,PERCENT SIGN,AMPERSAND," ++
     "APOSTROPHE,LEFT PARENTHESIS,RIGHT PARENTHESIS,ASTERISK,PLUS SIGN,COMMA,HYPHEN-MINUS," ++
     "FULL STOP,SOLIDUS"⟩,
   ⟨0x30, "DIGIT ", "ZERO,ONE,TWO,THREE,FOUR,FIVE,SIX,SEVEN,EIGHT,NINE"⟩,
   ⟨0x3A, "",
     "COLON,SEMICOLON,LESS-THAN SIGN,EQUALS SIGN,GREATER-THAN SIGN,QUESTION MARK,COMMERCIAL AT"⟩,
   ⟨0x41, "LATIN CAPITAL LETTER ", "A,B,C,D,E,F,G,H,I,J,K,L,M,N,O,P,Q,R,S,T,U,V,W,X,Y,Z"⟩,
   ⟨0x5B, "",
     "LEFT SQUARE BRACKET,REVERSE SOLIDUS,RIGHT SQUARE BRACKET,CIRCUMFLEX ACCENT,LOW LINE," ++
     "GRAVE ACCENT"⟩,
   ⟨0x61, "LATIN SMALL LETTER ", "A,B,C,D,E,F,G,H,I,J,K,L,M,N,O,P,Q,R,S,T,U,V,W,X,Y,Z"⟩,
   ⟨0x7B, "", "LEFT CURLY BRACKET,VERTICAL LINE,RIGHT CURLY BRACKET,TILDE,DELETE"⟩,
   ⟨0xA0, "",
     "NO-BREAK SPACE,INVERTED EXCLAMATION MARK,CENT SIGN,POUND SIGN,CURRENCY SIGN,YEN SIGN," ++
     "BROKEN BAR,SECTION SIGN,DIAERESIS,COPYRIGHT SIGN,FEMININE ORDINAL INDICATOR," ++
     "LEFT-POINTING DOUBLE ANGLE QUOTATION MARK,NOT SIGN,SOFT HYPHEN,REGISTERED SIGN,MACRON," ++
     "DEGREE SIGN,PLUS-MINUS SIGN,SUPERSCRIPT TWO,SUPERSCRIPT THREE,ACUTE ACCENT,MICRO SIGN," ++
     "PILCROW SIGN,MIDDLE DOT,CEDILLA,SUPERSCRIPT ONE,MASCULINE ORDINAL INDICATOR," ++
     "RIGHT-POINTING DOUBLE ANGLE QUOTATION MARK"⟩,
   ⟨0xBC, "VULGAR FRACTION ", "ONE QUARTER,ONE HALF,THREE QUARTERS"⟩,
   ⟨0xBF, "", "INVERTED QUESTION MARK"⟩,
   ⟨0xC0, "LATIN CAPITAL LETTER ",
     "A WITH GRAVE,A WITH ACUTE,A WITH CIRCUMFLEX,A WITH TILDE,A WITH DIAERESIS," ++
     "A WITH RING ABOVE,AE,C WITH CEDILLA,E WITH GRAVE,E WITH ACUTE,E WITH CIRCUMFLEX," ++
     "E WITH DIAERESIS,I WITH GRAVE,I WITH ACUTE,I WITH CIRCUMFLEX,I WITH DIAERESIS,ETH," ++
     "N WITH TILDE,O WITH GRAVE,O WITH ACUTE,O WITH CIRCUMFLEX,O WITH TILDE,O WITH DIAERESIS"⟩,
   ⟨0xD7, "", "MULTIPLICATION SIGN"⟩,
   ⟨0xD8, "LATIN CAPITAL LETTER ",
     "O WITH STROKE,U WITH GRAVE,U WITH ACUTE,U WITH CIRCUMFLEX,U WITH DIAERESIS,Y WITH ACUTE," ++
     "THORN"⟩,
   ⟨0xDF, "LATIN SMALL LETTER ",
     "SHARP S,A WITH GRAVE,A WITH ACUTE,A WITH CIRCUMFLEX,A WITH TILDE,A WITH DIAERESIS," ++
     "A WITH RING ABOVE,AE,C WITH CEDILLA,E WITH GRAVE,E WITH ACUTE,E WITH CIRCUMFLEX," ++
     "E WITH DIAERESIS,I WITH GRAVE,I WITH ACUTE,I WITH CIRCUMFLEX,I WITH DIAERESIS,ETH," ++
     "N WITH TILDE,O WITH GRAVE,O WITH ACUTE,O WITH CIRCUMFLEX,O WITH TILDE,O WITH DIAERESIS"⟩,
   ⟨0xF7, "", "DIVISION SIGN"⟩,
   ⟨0xF8, "LATIN SMALL LETTER ",
     "O WITH STROKE,U WITH GRAVE,U WITH ACUTE,U WITH CIRCUMFLEX,U WITH DIAERESIS,Y WITH ACUTE," ++
     "THORN,Y WITH DIAERESIS"⟩,
   ⟨0x131, "LATIN SMALL LETTER ", "DOTLESS I"⟩,
   ⟨0x152, "", "LATIN CAPITAL LIGATURE OE,LATIN SMALL LIGATURE OE"⟩,
   ⟨0x160, "LATIN CAPITAL LETTER ", "S WITH CARON"⟩,
   ⟨0x161, "LATIN SMALL LETTER ", "S WITH CARON"⟩,
   ⟨0x178, "LATIN CAPITAL LETTER ", "Y WITH DIAERESIS"⟩,
   ⟨0x17D, "LATIN CAPITAL LETTER ", "Z WITH CARON"⟩,
   ⟨0x17E, "LATIN SMALL LETTER ", "Z WITH CARON"⟩,
   ⟨0x391, "GREEK CAPITAL LETTER ",
     "ALPHA,BETA,GAMMA,DELTA,EPSILON,ZETA,ETA,THETA,IOTA,KAPPA,LAMDA,MU,NU,XI,OMICRON,PI,RHO"⟩,
   ⟨0x3A3, "GREEK CAPITAL LETTER ", "SIGMA,TAU,UPSILON,PHI,CHI,PSI,OMEGA"⟩,
   ⟨0x3B1, "GREEK SMALL LETTER ",
     "ALPHA,BETA,GAMMA,DELTA,EPSILON,ZETA,ETA,THETA,IOTA,KAPPA,LAMDA,MU,NU,XI,OMICRON,PI,RHO," ++
     "FINAL SIGMA,SIGMA,TAU,UPSILON,PHI,CHI,PSI,OMEGA"⟩,
   ⟨0x410, "CYRILLIC CAPITAL LETTER ",
     "A,BE,VE,GHE,DE,IE,ZHE,ZE,I,SHORT I,KA,EL,EM,EN,O,PE,ER,ES,TE,U,EF,HA,TSE,CHE,SHA,SHCHA," ++
     "HARD SIGN,YERU,SOFT SIGN,E,YU,YA"⟩,
   ⟨0x430, "CYRILLIC SMALL LETTER ",
     "A,BE,VE,GHE,DE,IE,ZHE,ZE,I,SHORT I,KA,EL,EM,EN,O,PE,ER,ES,TE,U,EF,HA,TSE,CHE,SHA,SHCHA," ++
     "HARD SIGN,YERU,SOFT SIGN,E,YU,YA"⟩,
   ⟨0x2010, "",
     "HYPHEN,NON-BREAKING HYPHEN,FIGURE DASH,EN DASH,EM DASH,HORIZONTAL BAR," ++
     "DOUBLE VERTICAL LINE,DOUBLE LOW LINE,LEFT SINGLE QUOTATION MARK," ++
     "RIGHT SINGLE QUOTATION MARK,SINGLE LOW-9 QUOTATION MARK," ++
     "SINGLE HIGH-REVERSED-9 QUOTATION MARK,LEFT DOUBLE QUOTATION MARK," ++
     "RIGHT DOUBLE QUOTATION MARK,DOUBLE LOW-9 QUOTATION MARK," ++
     "DOUBLE HIGH-REVERSED-9 QUOTATION MARK,DAGGER,DOUBLE DAGGER,BULLET,TRIANGULAR BULLET," ++
     "ONE DOT LEADER,TWO DOT LEADER,HORIZONTAL ELLIPSIS,HYPHENATION POINT,LINE SEPARATOR," ++
     "PARAGRAPH SEPARATOR,LEFT-TO-RIGHT EMBEDDING,RIGHT-TO-LEFT EMBEDDING," ++
     "POP DIRECTIONAL FORMATTING,LEFT-TO-RIGHT OVERRIDE,RIGHT-TO-LEFT OVERRIDE," ++
     "NARROW NO-BREAK SPACE,PER MILLE SIGN,PER TEN THOUSAND SIGN,PRIME,DOUBLE PRIME," ++
     "TRIPLE PRIME,REVERSED PRIME,REVERSED DOUBLE PRIME,REVERSED TRIPLE PRIME,CARET," ++
     "SINGLE LEFT-POINTING ANGLE QUOTATION MARK,SINGLE RIGHT-POINTING ANGLE QUOTATION MARK"⟩,
   ⟨0x20AC, "", "EURO SIGN"⟩,
   ⟨0x2116, "", "NUMERO SIGN"⟩,
   ⟨0x2122, "", "TRADE MARK SIGN"⟩,
   ⟨0x2126, "", "OHM SIGN"⟩,
   ⟨0x2190, "",
     "LEFTWARDS ARROW,UPWARDS ARROW,RIGHTWARDS ARROW,DOWNWARDS ARROW,LEFT RIGHT ARROW," ++
     "UP DOWN ARROW,NORTH WEST ARROW,NORTH EAST ARROW,SOUTH EAST ARROW,SOUTH WEST ARROW"⟩,
   ⟨0x21D0, "",
     "LEFTWARDS DOUBLE ARROW,UPWARDS DOUBLE ARROW,RIGHTWARDS DOUBLE ARROW," ++
     "DOWNWARDS DOUBLE ARROW,LEFT RIGHT DOUBLE ARROW,UP DOWN DOUBLE ARROW"⟩,
   ⟨0x2200, "",
     "FOR ALL,COMPLEMENT,PARTIAL DIFFERENTIAL,THERE EXISTS,THERE DOES NOT EXIST,EMPTY SET," ++
     "INCREMENT,NABLA,ELEMENT OF,NOT AN ELEMENT OF,SMALL ELEMENT OF,CONTAINS AS MEMBER," ++
     "DOES NOT CONTAIN AS MEMBER,SMALL CONTAINS AS MEMBER,END OF PROOF,N-ARY PRODUCT," ++
     "N-ARY COPRODUCT,N-ARY SUMMATION,MINUS SIGN,MINUS-OR-PLUS SIGN,DOT PLUS,DIVISION SLASH," ++
     "SET MINUS,ASTERISK OPERATOR,RING OPERATOR,BULLET OPERATOR,SQUARE ROOT,CUBE ROOT," ++
     "FOURTH ROOT,PROPORTIONAL TO,INFINITY,RIGHT ANGLE"⟩,
   ⟨0x2227, "", "LOGICAL AND,LOGICAL OR,INTERSECTION,UNION,INTEGRAL"⟩,
   ⟨0x2260, "",
     "NOT EQUAL TO,IDENTICAL TO,NOT IDENTICAL TO,STRICTLY EQUIVALENT TO,LESS-THAN OR EQUAL TO," ++
     "GREATER-THAN OR EQUAL TO"⟩,
   ⟨0x2500, "",
     "BOX DRAWINGS LIGHT HORIZONTAL,BOX DRAWINGS HEAVY HORIZONTAL,BOX DRAWINGS LIGHT VERTICAL"⟩,
   ⟨0x25A0, "", "BLACK SQUARE,WHITE SQUARE"⟩,
   ⟨0x25B2, "", "BLACK UP-POINTING TRIANGLE,WHITE UP-POINTING TRIANGLE"⟩,
   ⟨0x25C6, "",
     "BLACK DIAMOND,WHITE DIAMOND,WHITE DIAMOND CONTAINING BLACK SMALL DIAMOND,FISHEYE," ++
     "LOZENGE,WHITE CIRCLE,DOTTED CIRCLE,CIRCLE WITH VERTICAL FILL,BULLSEYE,BLACK CIRCLE"⟩,
   ⟨0x2600, "", "BLACK SUN WITH RAYS,CLOUD,UMBRELLA,SNOWMAN,COMET,BLACK STAR,WHITE STAR"⟩,
   ⟨0x260E, "",
     "BLACK TELEPHONE,WHITE TELEPHONE,BALLOT BOX,BALLOT BOX WITH CHECK,BALLOT BOX WITH X"⟩,
   ⟨0x2639, "",
     "WHITE FROWNING FACE,WHITE SMILING FACE,BLACK SMILING FACE,WHITE SUN WITH RAYS," ++
     "FIRST QUARTER MOON,LAST QUARTER MOON,MERCURY,FEMALE SIGN"⟩,
   ⟨0x2642, "", "MALE SIGN"⟩,
   ⟨0x2654, "WHITE CHESS ", "KING,QUEEN,ROOK,BISHOP,KNIGHT,PAWN"⟩,
   ⟨0x265A, "BLACK CHESS ", "KING,QUEEN,ROOK,BISHOP,KNIGHT,PAWN"⟩,
   ⟨0x2660, "",
     "BLACK SPADE SUIT,WHITE HEART SUIT,WHITE DIAMOND SUIT,BLACK CLUB SUIT,WHITE SPADE SUIT," ++
     "BLACK HEART SUIT,BLACK DIAMOND SUIT,WHITE CLUB SUIT,HOT SPRINGS,QUARTER NOTE," ++
     "EIGHTH NOTE,BEAMED EIGHTH NOTES,BEAMED SIXTEENTH NOTES"⟩,
   ⟨0x266D, "MUSIC ", "FLAT SIGN,NATURAL SIGN,SHARP SIGN"⟩,
   ⟨0x2708, "", "AIRPLANE,ENVELOPE"⟩,
   ⟨0x2713, "",
     "CHECK MARK,HEAVY CHECK MARK,MULTIPLICATION X,HEAVY MULTIPLICATION X,BALLOT X," ++
     "HEAVY BALLOT X"⟩,
   ⟨0x2728, "", "SPARKLES"⟩,
   ⟨0x2764, "", "HEAVY BLACK HEART"⟩,
   ⟨0x1F600, "",
     "GRINNING FACE,GRINNING FACE WITH SMILING EYES,FACE WITH TEARS OF JOY," ++
     "SMILING FACE WITH OPEN MOUTH,SMILING FACE WITH OPEN MOUTH AND SMILING EYES," ++
     "SMILING FACE WITH OPEN MOUTH AND COLD SWEAT," ++
     "SMILING FACE WITH OPEN MOUTH AND TIGHTLY-CLOSED EYES,SMILING FACE WITH HALO," ++
     "SMILING FACE WITH HORNS,WINKING FACE,SMILING FACE WITH SMILING EYES," ++
     "FACE SAVOURING DELICIOUS FOOD,RELIEVED FACE,SMILING FACE WITH HEART-SHAPED EYES," ++
     "SMILING FACE WITH SUNGLASSES,SMIRKING FACE,NEUTRAL FACE,EXPRESSIONLESS FACE," ++
     "UNAMUSED FACE,FACE WITH COLD SWEAT,PENSIVE FACE,CONFUSED FACE,CONFOUNDED FACE," ++
     "KISSING FACE,FACE THROWING A KISS,KISSING FACE WITH SMILING EYES," ++
     "KISSING FACE WITH CLOSED EYES,FACE WITH STUCK-OUT TONGUE," ++
     "FACE WITH STUCK-OUT TONGUE AND WINKING EYE," ++
     "FACE WITH STUCK-OUT TONGUE AND TIGHTLY-CLOSED EYES,DISAPPOINTED FACE,WORRIED FACE," ++
     "ANGRY FACE,POUTING FACE,CRYING FACE,PERSEVERING FACE,FACE WITH LOOK OF TRIUMPH," ++
     "DISAPPOINTED BUT RELIEVED FACE,FROWNING FACE WITH OPEN MOUTH,ANGUISHED FACE," ++
     "FEARFUL FACE,WEARY FACE,SLEEPY FACE,TIRED FACE,GRIMACING FACE,LOUDLY CRYING FACE," ++
     "FACE WITH OPEN MOUTH,HUSHED FACE,FACE WITH OPEN MOUTH AND COLD SWEAT," ++
     "FACE SCREAMING IN FEAR,ASTONISHED FACE,FLUSHED FACE,SLEEPING FACE,DIZZY FACE," ++
     "FACE WITHOUT MOUTH,FACE WITH MEDICAL MASK,GRINNING CAT FACE WITH SMILING EYES," ++
     "CAT FACE WITH TEARS OF JOY,SMILING CAT FACE WITH OPEN MOUTH," ++
     "SMILING CAT FACE WITH HEART-SHAPED EYES,CAT FACE WITH WRY SMILE," ++
     "KISSING CAT FACE WITH CLOSED EYES,POUTING CAT FACE,CRYING CAT FACE,WEARY CAT FACE," ++
     "SLIGHTLY FROWNING FACE,SLIGHTLY SMILING FACE,UPSIDE-DOWN FACE," ++
     "FACE WITH ROLLING EYES,FACE WITH NO GOOD GESTURE,FACE WITH OK GESTURE," ++
     "PERSON BOWING DEEPLY,SEE-NO-EVIL MONKEY,HEAR-NO-EVIL MONKEY,SPEAK-NO-EVIL MONKEY," ++
     "HAPPY PERSON RAISING ONE HAND,PERSON RAISING BOTH HANDS IN CELEBRATION," ++
     "PERSON FROWNING,PERSON WITH POUTING FACE,PERSON WITH FOLDED HANDS"⟩]

def Run.find? (run : Run) (name : String) : Option Char :=
  ((run.rests.splitOn ",").findIdx? fun rest => run.beginning ++ rest = name).map fun n =>
    Char.ofNat (run.first + n)

/-- The names of common characters. -/
def common : CharacterNames := fun name => runs.findSome? (·.find? name.toUpper)

end CharacterNames

end BrickFormula
