/-!
# Character names: symbols

The names of the code points from U+2000 to U+9FFF, punctuation, symbols, and
the scripts of East Asia. A line with an at sign starts a run at a code point;
the lines after it are the names of that code point and of those that follow it.
-/

namespace RuleDraft
namespace CharacterName

def symbolsA : String := "@2000
EN QUAD
EM QUAD
EN SPACE
EM SPACE
THREE-PER-EM SPACE
FOUR-PER-EM SPACE
SIX-PER-EM SPACE
FIGURE SPACE
PUNCTUATION SPACE
THIN SPACE
HAIR SPACE
ZERO WIDTH SPACE
ZERO WIDTH NON-JOINER
ZERO WIDTH JOINER
LEFT-TO-RIGHT MARK
RIGHT-TO-LEFT MARK
HYPHEN
NON-BREAKING HYPHEN
FIGURE DASH
EN DASH
EM DASH
HORIZONTAL BAR
DOUBLE VERTICAL LINE
DOUBLE LOW LINE
LEFT SINGLE QUOTATION MARK
RIGHT SINGLE QUOTATION MARK
SINGLE LOW-9 QUOTATION MARK
SINGLE HIGH-REVERSED-9 QUOTATION MARK
LEFT DOUBLE QUOTATION MARK
RIGHT DOUBLE QUOTATION MARK
DOUBLE LOW-9 QUOTATION MARK
DOUBLE HIGH-REVERSED-9 QUOTATION MARK
DAGGER
DOUBLE DAGGER
BULLET
TRIANGULAR BULLET
ONE DOT LEADER
TWO DOT LEADER
HORIZONTAL ELLIPSIS
HYPHENATION POINT
LINE SEPARATOR
PARAGRAPH SEPARATOR
LEFT-TO-RIGHT EMBEDDING
RIGHT-TO-LEFT EMBEDDING
POP DIRECTIONAL FORMATTING
LEFT-TO-RIGHT OVERRIDE
RIGHT-TO-LEFT OVERRIDE
NARROW NO-BREAK SPACE
PER MILLE SIGN
PER TEN THOUSAND SIGN
PRIME
DOUBLE PRIME
TRIPLE PRIME
REVERSED PRIME
REVERSED DOUBLE PRIME
REVERSED TRIPLE PRIME
CARET
SINGLE LEFT-POINTING ANGLE QUOTATION MARK
SINGLE RIGHT-POINTING ANGLE QUOTATION MARK
REFERENCE MARK
DOUBLE EXCLAMATION MARK
INTERROBANG
OVERLINE
UNDERTIE
CHARACTER TIE
CARET INSERTION POINT
ASTERISM
HYPHEN BULLET
FRACTION SLASH
LEFT SQUARE BRACKET WITH QUILL
RIGHT SQUARE BRACKET WITH QUILL
DOUBLE QUESTION MARK
QUESTION EXCLAMATION MARK
EXCLAMATION QUESTION MARK
TIRONIAN SIGN ET
REVERSED PILCROW SIGN
BLACK LEFTWARDS BULLET
BLACK RIGHTWARDS BULLET
LOW ASTERISK
REVERSED SEMICOLON
CLOSE UP
TWO ASTERISKS ALIGNED VERTICALLY
COMMERCIAL MINUS SIGN
SWUNG DASH
INVERTED UNDERTIE
FLOWER PUNCTUATION MARK
THREE DOT PUNCTUATION
QUADRUPLE PRIME
FOUR DOT PUNCTUATION
FIVE DOT PUNCTUATION
TWO DOT PUNCTUATION
FOUR DOT MARK
DOTTED CROSS
TRICOLON
VERTICAL FOUR DOTS
MEDIUM MATHEMATICAL SPACE
WORD JOINER
FUNCTION APPLICATION
INVISIBLE TIMES
INVISIBLE SEPARATOR
INVISIBLE PLUS
@2066
LEFT-TO-RIGHT ISOLATE
RIGHT-TO-LEFT ISOLATE
FIRST STRONG ISOLATE
POP DIRECTIONAL ISOLATE
INHIBIT SYMMETRIC SWAPPING
ACTIVATE SYMMETRIC SWAPPING
INHIBIT ARABIC FORM SHAPING
ACTIVATE ARABIC FORM SHAPING
NATIONAL DIGIT SHAPES
NOMINAL DIGIT SHAPES
SUPERSCRIPT ZERO
SUPERSCRIPT LATIN SMALL LETTER I
@2074
SUPERSCRIPT FOUR
SUPERSCRIPT FIVE
SUPERSCRIPT SIX
SUPERSCRIPT SEVEN
SUPERSCRIPT EIGHT
SUPERSCRIPT NINE
SUPERSCRIPT PLUS SIGN
SUPERSCRIPT MINUS
SUPERSCRIPT EQUALS SIGN
SUPERSCRIPT LEFT PARENTHESIS
SUPERSCRIPT RIGHT PARENTHESIS
SUPERSCRIPT LATIN SMALL LETTER N
SUBSCRIPT ZERO
SUBSCRIPT ONE
SUBSCRIPT TWO
SUBSCRIPT THREE
SUBSCRIPT FOUR
SUBSCRIPT FIVE
SUBSCRIPT SIX
SUBSCRIPT SEVEN
SUBSCRIPT EIGHT
SUBSCRIPT NINE
SUBSCRIPT PLUS SIGN
SUBSCRIPT MINUS
SUBSCRIPT EQUALS SIGN
SUBSCRIPT LEFT PARENTHESIS
SUBSCRIPT RIGHT PARENTHESIS
@2090
LATIN SUBSCRIPT SMALL LETTER A
LATIN SUBSCRIPT SMALL LETTER E
LATIN SUBSCRIPT SMALL LETTER O
LATIN SUBSCRIPT SMALL LETTER X
LATIN SUBSCRIPT SMALL LETTER SCHWA
LATIN SUBSCRIPT SMALL LETTER H
LATIN SUBSCRIPT SMALL LETTER K
LATIN SUBSCRIPT SMALL LETTER L
LATIN SUBSCRIPT SMALL LETTER M
LATIN SUBSCRIPT SMALL LETTER N
LATIN SUBSCRIPT SMALL LETTER P
LATIN SUBSCRIPT SMALL LETTER S
LATIN SUBSCRIPT SMALL LETTER T
@20A0
EURO-CURRENCY SIGN
COLON SIGN
CRUZEIRO SIGN
FRENCH FRANC SIGN
LIRA SIGN
MILL SIGN
NAIRA SIGN
PESETA SIGN
RUPEE SIGN
WON SIGN
NEW SHEQEL SIGN
DONG SIGN
EURO SIGN
KIP SIGN
TUGRIK SIGN
DRACHMA SIGN
GERMAN PENNY SIGN
PESO SIGN
GUARANI SIGN
AUSTRAL SIGN
HRYVNIA SIGN
CEDI SIGN
LIVRE TOURNOIS SIGN
SPESMILO SIGN
TENGE SIGN
INDIAN RUPEE SIGN
TURKISH LIRA SIGN
NORDIC MARK SIGN
MANAT SIGN
RUBLE SIGN
LARI SIGN
BITCOIN SIGN
SOM SIGN
@20D0
COMBINING LEFT HARPOON ABOVE
COMBINING RIGHT HARPOON ABOVE
COMBINING LONG VERTICAL LINE OVERLAY
COMBINING SHORT VERTICAL LINE OVERLAY
COMBINING ANTICLOCKWISE ARROW ABOVE
COMBINING CLOCKWISE ARROW ABOVE
COMBINING LEFT ARROW ABOVE
COMBINING RIGHT ARROW ABOVE
COMBINING RING OVERLAY
COMBINING CLOCKWISE RING OVERLAY
COMBINING ANTICLOCKWISE RING OVERLAY
COMBINING THREE DOTS ABOVE
COMBINING FOUR DOTS ABOVE
COMBINING ENCLOSING CIRCLE
COMBINING ENCLOSING SQUARE
COMBINING ENCLOSING DIAMOND
COMBINING ENCLOSING CIRCLE BACKSLASH
COMBINING LEFT RIGHT ARROW ABOVE
COMBINING ENCLOSING SCREEN
COMBINING ENCLOSING KEYCAP
COMBINING ENCLOSING UPWARD POINTING TRIANGLE
COMBINING REVERSE SOLIDUS OVERLAY
COMBINING DOUBLE VERTICAL STROKE OVERLAY
COMBINING ANNUITY SYMBOL
COMBINING TRIPLE UNDERDOT
COMBINING WIDE BRIDGE ABOVE
COMBINING LEFTWARDS ARROW OVERLAY
COMBINING LONG DOUBLE SOLIDUS OVERLAY
COMBINING RIGHTWARDS HARPOON WITH BARB DOWNWARDS
COMBINING LEFTWARDS HARPOON WITH BARB DOWNWARDS
COMBINING LEFT ARROW BELOW
COMBINING RIGHT ARROW BELOW
COMBINING ASTERISK ABOVE
@2100
ACCOUNT OF
ADDRESSED TO THE SUBJECT
DOUBLE-STRUCK CAPITAL C
DEGREE CELSIUS
CENTRE LINE SYMBOL
CARE OF
CADA UNA
EULER CONSTANT
SCRUPLE
DEGREE FAHRENHEIT
SCRIPT SMALL G
SCRIPT CAPITAL H
BLACK-LETTER CAPITAL H
DOUBLE-STRUCK CAPITAL H
PLANCK CONSTANT
PLANCK CONSTANT OVER TWO PI
SCRIPT CAPITAL I
BLACK-LETTER CAPITAL I
SCRIPT CAPITAL L
SCRIPT SMALL L
L B BAR SYMBOL
DOUBLE-STRUCK CAPITAL N
NUMERO SIGN
SOUND RECORDING COPYRIGHT
SCRIPT CAPITAL P
DOUBLE-STRUCK CAPITAL P
DOUBLE-STRUCK CAPITAL Q
SCRIPT CAPITAL R
BLACK-LETTER CAPITAL R
DOUBLE-STRUCK CAPITAL R
PRESCRIPTION TAKE
RESPONSE
SERVICE MARK
TELEPHONE SIGN
TRADE MARK SIGN
VERSICLE
DOUBLE-STRUCK CAPITAL Z
OUNCE SIGN
OHM SIGN
INVERTED OHM SIGN
BLACK-LETTER CAPITAL Z
TURNED GREEK SMALL LETTER IOTA
KELVIN SIGN
ANGSTROM SIGN
SCRIPT CAPITAL B
BLACK-LETTER CAPITAL C
ESTIMATED SYMBOL
SCRIPT SMALL E
SCRIPT CAPITAL E
SCRIPT CAPITAL F
TURNED CAPITAL F
SCRIPT CAPITAL M
SCRIPT SMALL O
ALEF SYMBOL
BET SYMBOL
GIMEL SYMBOL
DALET SYMBOL
INFORMATION SOURCE
ROTATED CAPITAL Q
FACSIMILE SIGN
DOUBLE-STRUCK SMALL PI
DOUBLE-STRUCK SMALL GAMMA
DOUBLE-STRUCK CAPITAL GAMMA
DOUBLE-STRUCK CAPITAL PI
DOUBLE-STRUCK N-ARY SUMMATION
TURNED SANS-SERIF CAPITAL G
TURNED SANS-SERIF CAPITAL L
REVERSED SANS-SERIF CAPITAL L
TURNED SANS-SERIF CAPITAL Y
DOUBLE-STRUCK ITALIC CAPITAL D
DOUBLE-STRUCK ITALIC SMALL D
DOUBLE-STRUCK ITALIC SMALL E
DOUBLE-STRUCK ITALIC SMALL I
DOUBLE-STRUCK ITALIC SMALL J
PROPERTY LINE
TURNED AMPERSAND
PER SIGN
AKTIESELSKAB
TURNED SMALL F
SYMBOL FOR SAMARITAN SOURCE
VULGAR FRACTION ONE SEVENTH
VULGAR FRACTION ONE NINTH
VULGAR FRACTION ONE TENTH
VULGAR FRACTION ONE THIRD
VULGAR FRACTION TWO THIRDS
VULGAR FRACTION ONE FIFTH
VULGAR FRACTION TWO FIFTHS
VULGAR FRACTION THREE FIFTHS
VULGAR FRACTION FOUR FIFTHS
VULGAR FRACTION ONE SIXTH
VULGAR FRACTION FIVE SIXTHS
VULGAR FRACTION ONE EIGHTH
VULGAR FRACTION THREE EIGHTHS
VULGAR FRACTION FIVE EIGHTHS
VULGAR FRACTION SEVEN EIGHTHS
FRACTION NUMERATOR ONE
ROMAN NUMERAL ONE
ROMAN NUMERAL TWO
ROMAN NUMERAL THREE
ROMAN NUMERAL FOUR
ROMAN NUMERAL FIVE
ROMAN NUMERAL SIX
ROMAN NUMERAL SEVEN
ROMAN NUMERAL EIGHT
ROMAN NUMERAL NINE
ROMAN NUMERAL TEN
ROMAN NUMERAL ELEVEN
ROMAN NUMERAL TWELVE
ROMAN NUMERAL FIFTY
ROMAN NUMERAL ONE HUNDRED
ROMAN NUMERAL FIVE HUNDRED
ROMAN NUMERAL ONE THOUSAND
SMALL ROMAN NUMERAL ONE
SMALL ROMAN NUMERAL TWO
SMALL ROMAN NUMERAL THREE
SMALL ROMAN NUMERAL FOUR
SMALL ROMAN NUMERAL FIVE
SMALL ROMAN NUMERAL SIX
SMALL ROMAN NUMERAL SEVEN
SMALL ROMAN NUMERAL EIGHT
SMALL ROMAN NUMERAL NINE
SMALL ROMAN NUMERAL TEN
SMALL ROMAN NUMERAL ELEVEN
SMALL ROMAN NUMERAL TWELVE
SMALL ROMAN NUMERAL FIFTY
SMALL ROMAN NUMERAL ONE HUNDRED
SMALL ROMAN NUMERAL FIVE HUNDRED
SMALL ROMAN NUMERAL ONE THOUSAND
ROMAN NUMERAL ONE THOUSAND C D
ROMAN NUMERAL FIVE THOUSAND
ROMAN NUMERAL TEN THOUSAND
ROMAN NUMERAL REVERSED ONE HUNDRED
LATIN SMALL LETTER REVERSED C
ROMAN NUMERAL SIX LATE FORM
ROMAN NUMERAL FIFTY EARLY FORM
ROMAN NUMERAL FIFTY THOUSAND
ROMAN NUMERAL ONE HUNDRED THOUSAND
VULGAR FRACTION ZERO THIRDS
TURNED DIGIT TWO
TURNED DIGIT THREE
@2190
LEFTWARDS ARROW
UPWARDS ARROW
RIGHTWARDS ARROW
DOWNWARDS ARROW
LEFT RIGHT ARROW
UP DOWN ARROW
NORTH WEST ARROW
NORTH EAST ARROW
SOUTH EAST ARROW
SOUTH WEST ARROW
LEFTWARDS ARROW WITH STROKE
RIGHTWARDS ARROW WITH STROKE
LEFTWARDS WAVE ARROW
RIGHTWARDS WAVE ARROW
LEFTWARDS TWO HEADED ARROW
UPWARDS TWO HEADED ARROW
RIGHTWARDS TWO HEADED ARROW
DOWNWARDS TWO HEADED ARROW
LEFTWARDS ARROW WITH TAIL
RIGHTWARDS ARROW WITH TAIL
LEFTWARDS ARROW FROM BAR
UPWARDS ARROW FROM BAR
RIGHTWARDS ARROW FROM BAR
DOWNWARDS ARROW FROM BAR
UP DOWN ARROW WITH BASE
LEFTWARDS ARROW WITH HOOK
RIGHTWARDS ARROW WITH HOOK
LEFTWARDS ARROW WITH LOOP
RIGHTWARDS ARROW WITH LOOP
LEFT RIGHT WAVE ARROW
LEFT RIGHT ARROW WITH STROKE
DOWNWARDS ZIGZAG ARROW
UPWARDS ARROW WITH TIP LEFTWARDS
UPWARDS ARROW WITH TIP RIGHTWARDS
DOWNWARDS ARROW WITH TIP LEFTWARDS
DOWNWARDS ARROW WITH TIP RIGHTWARDS
RIGHTWARDS ARROW WITH CORNER DOWNWARDS
DOWNWARDS ARROW WITH CORNER LEFTWARDS
ANTICLOCKWISE TOP SEMICIRCLE ARROW
CLOCKWISE TOP SEMICIRCLE ARROW
NORTH WEST ARROW TO LONG BAR
LEFTWARDS ARROW TO BAR OVER RIGHTWARDS ARROW TO BAR
ANTICLOCKWISE OPEN CIRCLE ARROW
CLOCKWISE OPEN CIRCLE ARROW
LEFTWARDS HARPOON WITH BARB UPWARDS
LEFTWARDS HARPOON WITH BARB DOWNWARDS
UPWARDS HARPOON WITH BARB RIGHTWARDS
UPWARDS HARPOON WITH BARB LEFTWARDS
RIGHTWARDS HARPOON WITH BARB UPWARDS
RIGHTWARDS HARPOON WITH BARB DOWNWARDS
DOWNWARDS HARPOON WITH BARB RIGHTWARDS
DOWNWARDS HARPOON WITH BARB LEFTWARDS
RIGHTWARDS ARROW OVER LEFTWARDS ARROW
UPWARDS ARROW LEFTWARDS OF DOWNWARDS ARROW
LEFTWARDS ARROW OVER RIGHTWARDS ARROW
LEFTWARDS PAIRED ARROWS
UPWARDS PAIRED ARROWS
RIGHTWARDS PAIRED ARROWS
DOWNWARDS PAIRED ARROWS
LEFTWARDS HARPOON OVER RIGHTWARDS HARPOON
RIGHTWARDS HARPOON OVER LEFTWARDS HARPOON
LEFTWARDS DOUBLE ARROW WITH STROKE
LEFT RIGHT DOUBLE ARROW WITH STROKE
RIGHTWARDS DOUBLE ARROW WITH STROKE
LEFTWARDS DOUBLE ARROW
UPWARDS DOUBLE ARROW
RIGHTWARDS DOUBLE ARROW
DOWNWARDS DOUBLE ARROW
LEFT RIGHT DOUBLE ARROW
UP DOWN DOUBLE ARROW
NORTH WEST DOUBLE ARROW
NORTH EAST DOUBLE ARROW
SOUTH EAST DOUBLE ARROW
SOUTH WEST DOUBLE ARROW
LEFTWARDS TRIPLE ARROW
RIGHTWARDS TRIPLE ARROW
LEFTWARDS SQUIGGLE ARROW
RIGHTWARDS SQUIGGLE ARROW
UPWARDS ARROW WITH DOUBLE STROKE
DOWNWARDS ARROW WITH DOUBLE STROKE
LEFTWARDS DASHED ARROW
UPWARDS DASHED ARROW
RIGHTWARDS DASHED ARROW
DOWNWARDS DASHED ARROW
LEFTWARDS ARROW TO BAR
RIGHTWARDS ARROW TO BAR
LEFTWARDS WHITE ARROW
UPWARDS WHITE ARROW
RIGHTWARDS WHITE ARROW
DOWNWARDS WHITE ARROW
UPWARDS WHITE ARROW FROM BAR
UPWARDS WHITE ARROW ON PEDESTAL
UPWARDS WHITE ARROW ON PEDESTAL WITH HORIZONTAL BAR
UPWARDS WHITE ARROW ON PEDESTAL WITH VERTICAL BAR
UPWARDS WHITE DOUBLE ARROW
UPWARDS WHITE DOUBLE ARROW ON PEDESTAL
RIGHTWARDS WHITE ARROW FROM WALL
NORTH WEST ARROW TO CORNER
SOUTH EAST ARROW TO CORNER
UP DOWN WHITE ARROW
RIGHT ARROW WITH SMALL CIRCLE
DOWNWARDS ARROW LEFTWARDS OF UPWARDS ARROW
THREE RIGHTWARDS ARROWS
LEFTWARDS ARROW WITH VERTICAL STROKE
RIGHTWARDS ARROW WITH VERTICAL STROKE
LEFT RIGHT ARROW WITH VERTICAL STROKE
LEFTWARDS ARROW WITH DOUBLE VERTICAL STROKE
RIGHTWARDS ARROW WITH DOUBLE VERTICAL STROKE
LEFT RIGHT ARROW WITH DOUBLE VERTICAL STROKE
LEFTWARDS OPEN-HEADED ARROW
RIGHTWARDS OPEN-HEADED ARROW
LEFT RIGHT OPEN-HEADED ARROW
FOR ALL
COMPLEMENT
PARTIAL DIFFERENTIAL
THERE EXISTS
THERE DOES NOT EXIST
EMPTY SET
INCREMENT
NABLA
ELEMENT OF
NOT AN ELEMENT OF
SMALL ELEMENT OF
CONTAINS AS MEMBER
DOES NOT CONTAIN AS MEMBER
SMALL CONTAINS AS MEMBER
END OF PROOF
N-ARY PRODUCT
N-ARY COPRODUCT
N-ARY SUMMATION
MINUS SIGN
MINUS-OR-PLUS SIGN
DOT PLUS
DIVISION SLASH
SET MINUS
ASTERISK OPERATOR
RING OPERATOR
BULLET OPERATOR
SQUARE ROOT
CUBE ROOT
FOURTH ROOT
PROPORTIONAL TO
INFINITY
RIGHT ANGLE
ANGLE
MEASURED ANGLE
SPHERICAL ANGLE
DIVIDES
DOES NOT DIVIDE
PARALLEL TO
NOT PARALLEL TO
LOGICAL AND
LOGICAL OR
INTERSECTION
UNION
INTEGRAL
DOUBLE INTEGRAL
TRIPLE INTEGRAL
CONTOUR INTEGRAL
SURFACE INTEGRAL
VOLUME INTEGRAL
CLOCKWISE INTEGRAL
CLOCKWISE CONTOUR INTEGRAL
ANTICLOCKWISE CONTOUR INTEGRAL
THEREFORE
BECAUSE
RATIO
PROPORTION
DOT MINUS
EXCESS
GEOMETRIC PROPORTION
HOMOTHETIC
TILDE OPERATOR
REVERSED TILDE
INVERTED LAZY S
SINE WAVE
WREATH PRODUCT
NOT TILDE
MINUS TILDE
ASYMPTOTICALLY EQUAL TO
NOT ASYMPTOTICALLY EQUAL TO
APPROXIMATELY EQUAL TO
APPROXIMATELY BUT NOT ACTUALLY EQUAL TO
NEITHER APPROXIMATELY NOR ACTUALLY EQUAL TO
ALMOST EQUAL TO
NOT ALMOST EQUAL TO
ALMOST EQUAL OR EQUAL TO
TRIPLE TILDE
ALL EQUAL TO
EQUIVALENT TO
GEOMETRICALLY EQUIVALENT TO
DIFFERENCE BETWEEN
APPROACHES THE LIMIT
GEOMETRICALLY EQUAL TO
APPROXIMATELY EQUAL TO OR THE IMAGE OF
IMAGE OF OR APPROXIMATELY EQUAL TO
COLON EQUALS
EQUALS COLON
RING IN EQUAL TO
RING EQUAL TO
CORRESPONDS TO
ESTIMATES
EQUIANGULAR TO
STAR EQUALS
DELTA EQUAL TO
EQUAL TO BY DEFINITION
MEASURED BY
QUESTIONED EQUAL TO
NOT EQUAL TO
IDENTICAL TO
NOT IDENTICAL TO
STRICTLY EQUIVALENT TO
LESS-THAN OR EQUAL TO
GREATER-THAN OR EQUAL TO
LESS-THAN OVER EQUAL TO
GREATER-THAN OVER EQUAL TO
LESS-THAN BUT NOT EQUAL TO
GREATER-THAN BUT NOT EQUAL TO
MUCH LESS-THAN
MUCH GREATER-THAN
BETWEEN
NOT EQUIVALENT TO
NOT LESS-THAN
NOT GREATER-THAN
NEITHER LESS-THAN NOR EQUAL TO
NEITHER GREATER-THAN NOR EQUAL TO
LESS-THAN OR EQUIVALENT TO
GREATER-THAN OR EQUIVALENT TO
NEITHER LESS-THAN NOR EQUIVALENT TO
NEITHER GREATER-THAN NOR EQUIVALENT TO
LESS-THAN OR GREATER-THAN
GREATER-THAN OR LESS-THAN
NEITHER LESS-THAN NOR GREATER-THAN
NEITHER GREATER-THAN NOR LESS-THAN
PRECEDES
SUCCEEDS
PRECEDES OR EQUAL TO
SUCCEEDS OR EQUAL TO
PRECEDES OR EQUIVALENT TO
SUCCEEDS OR EQUIVALENT TO
DOES NOT PRECEDE
DOES NOT SUCCEED
SUBSET OF
SUPERSET OF
NOT A SUBSET OF
NOT A SUPERSET OF
SUBSET OF OR EQUAL TO
SUPERSET OF OR EQUAL TO
NEITHER A SUBSET OF NOR EQUAL TO
NEITHER A SUPERSET OF NOR EQUAL TO
SUBSET OF WITH NOT EQUAL TO
SUPERSET OF WITH NOT EQUAL TO
MULTISET
MULTISET MULTIPLICATION
MULTISET UNION
SQUARE IMAGE OF
SQUARE ORIGINAL OF
SQUARE IMAGE OF OR EQUAL TO
SQUARE ORIGINAL OF OR EQUAL TO
SQUARE CAP
SQUARE CUP
CIRCLED PLUS
CIRCLED MINUS
CIRCLED TIMES
CIRCLED DIVISION SLASH
CIRCLED DOT OPERATOR
CIRCLED RING OPERATOR
CIRCLED ASTERISK OPERATOR
CIRCLED EQUALS
CIRCLED DASH
SQUARED PLUS
SQUARED MINUS
SQUARED TIMES
SQUARED DOT OPERATOR
RIGHT TACK
LEFT TACK
DOWN TACK
UP TACK
ASSERTION
MODELS
TRUE
FORCES
TRIPLE VERTICAL BAR RIGHT TURNSTILE
DOUBLE VERTICAL BAR DOUBLE RIGHT TURNSTILE
DOES NOT PROVE
NOT TRUE
DOES NOT FORCE
NEGATED DOUBLE VERTICAL BAR DOUBLE RIGHT TURNSTILE
PRECEDES UNDER RELATION
SUCCEEDS UNDER RELATION
NORMAL SUBGROUP OF
CONTAINS AS NORMAL SUBGROUP
NORMAL SUBGROUP OF OR EQUAL TO
CONTAINS AS NORMAL SUBGROUP OR EQUAL TO
ORIGINAL OF
IMAGE OF
MULTIMAP
HERMITIAN CONJUGATE MATRIX
INTERCALATE
XOR
NAND
NOR
RIGHT ANGLE WITH ARC
RIGHT TRIANGLE
N-ARY LOGICAL AND
N-ARY LOGICAL OR
N-ARY INTERSECTION
N-ARY UNION
DIAMOND OPERATOR
DOT OPERATOR
STAR OPERATOR
DIVISION TIMES
BOWTIE
LEFT NORMAL FACTOR SEMIDIRECT PRODUCT
RIGHT NORMAL FACTOR SEMIDIRECT PRODUCT
LEFT SEMIDIRECT PRODUCT
RIGHT SEMIDIRECT PRODUCT
REVERSED TILDE EQUALS
CURLY LOGICAL OR
CURLY LOGICAL AND
DOUBLE SUBSET
DOUBLE SUPERSET
DOUBLE INTERSECTION
DOUBLE UNION
PITCHFORK
EQUAL AND PARALLEL TO
LESS-THAN WITH DOT
GREATER-THAN WITH DOT
VERY MUCH LESS-THAN
VERY MUCH GREATER-THAN
LESS-THAN EQUAL TO OR GREATER-THAN
GREATER-THAN EQUAL TO OR LESS-THAN
EQUAL TO OR LESS-THAN
EQUAL TO OR GREATER-THAN
EQUAL TO OR PRECEDES
EQUAL TO OR SUCCEEDS
DOES NOT PRECEDE OR EQUAL
DOES NOT SUCCEED OR EQUAL
NOT SQUARE IMAGE OF OR EQUAL TO
NOT SQUARE ORIGINAL OF OR EQUAL TO
SQUARE IMAGE OF OR NOT EQUAL TO
SQUARE ORIGINAL OF OR NOT EQUAL TO
LESS-THAN BUT NOT EQUIVALENT TO
GREATER-THAN BUT NOT EQUIVALENT TO
PRECEDES BUT NOT EQUIVALENT TO
SUCCEEDS BUT NOT EQUIVALENT TO
NOT NORMAL SUBGROUP OF
DOES NOT CONTAIN AS NORMAL SUBGROUP
NOT NORMAL SUBGROUP OF OR EQUAL TO
DOES NOT CONTAIN AS NORMAL SUBGROUP OR EQUAL
VERTICAL ELLIPSIS
MIDLINE HORIZONTAL ELLIPSIS
UP RIGHT DIAGONAL ELLIPSIS
DOWN RIGHT DIAGONAL ELLIPSIS
ELEMENT OF WITH LONG HORIZONTAL STROKE
ELEMENT OF WITH VERTICAL BAR AT END OF HORIZONTAL STROKE
SMALL ELEMENT OF WITH VERTICAL BAR AT END OF HORIZONTAL STROKE
ELEMENT OF WITH DOT ABOVE
ELEMENT OF WITH OVERBAR
SMALL ELEMENT OF WITH OVERBAR
ELEMENT OF WITH UNDERBAR
ELEMENT OF WITH TWO HORIZONTAL STROKES
CONTAINS WITH LONG HORIZONTAL STROKE
CONTAINS WITH VERTICAL BAR AT END OF HORIZONTAL STROKE
SMALL CONTAINS WITH VERTICAL BAR AT END OF HORIZONTAL STROKE
CONTAINS WITH OVERBAR
SMALL CONTAINS WITH OVERBAR
Z NOTATION BAG MEMBERSHIP
DIAMETER SIGN
ELECTRIC ARROW
HOUSE
UP ARROWHEAD
DOWN ARROWHEAD
PROJECTIVE
PERSPECTIVE
WAVY LINE
LEFT CEILING
RIGHT CEILING
LEFT FLOOR
RIGHT FLOOR
BOTTOM RIGHT CROP
BOTTOM LEFT CROP
TOP RIGHT CROP
TOP LEFT CROP
REVERSED NOT SIGN
SQUARE LOZENGE
ARC
SEGMENT
SECTOR
TELEPHONE RECORDER
POSITION INDICATOR
VIEWDATA SQUARE
PLACE OF INTEREST SIGN
TURNED NOT SIGN
WATCH
HOURGLASS
TOP LEFT CORNER
TOP RIGHT CORNER
BOTTOM LEFT CORNER
BOTTOM RIGHT CORNER
TOP HALF INTEGRAL
BOTTOM HALF INTEGRAL
FROWN
SMILE
UP ARROWHEAD BETWEEN TWO HORIZONTAL BARS
OPTION KEY
ERASE TO THE RIGHT
X IN A RECTANGLE BOX
KEYBOARD
LEFT-POINTING ANGLE BRACKET
RIGHT-POINTING ANGLE BRACKET
ERASE TO THE LEFT
BENZENE RING
CYLINDRICITY
ALL AROUND-PROFILE
SYMMETRY
TOTAL RUNOUT
DIMENSION ORIGIN
CONICAL TAPER
SLOPE
COUNTERBORE
COUNTERSINK
APL FUNCTIONAL SYMBOL I-BEAM
APL FUNCTIONAL SYMBOL SQUISH QUAD
APL FUNCTIONAL SYMBOL QUAD EQUAL
APL FUNCTIONAL SYMBOL QUAD DIVIDE
APL FUNCTIONAL SYMBOL QUAD DIAMOND
APL FUNCTIONAL SYMBOL QUAD JOT
APL FUNCTIONAL SYMBOL QUAD CIRCLE
APL FUNCTIONAL SYMBOL CIRCLE STILE
APL FUNCTIONAL SYMBOL CIRCLE JOT
APL FUNCTIONAL SYMBOL SLASH BAR
APL FUNCTIONAL SYMBOL BACKSLASH BAR
APL FUNCTIONAL SYMBOL QUAD SLASH
APL FUNCTIONAL SYMBOL QUAD BACKSLASH
APL FUNCTIONAL SYMBOL QUAD LESS-THAN
APL FUNCTIONAL SYMBOL QUAD GREATER-THAN
APL FUNCTIONAL SYMBOL LEFTWARDS VANE
APL FUNCTIONAL SYMBOL RIGHTWARDS VANE
APL FUNCTIONAL SYMBOL QUAD LEFTWARDS ARROW
APL FUNCTIONAL SYMBOL QUAD RIGHTWARDS ARROW
APL FUNCTIONAL SYMBOL CIRCLE BACKSLASH
APL FUNCTIONAL SYMBOL DOWN TACK UNDERBAR
APL FUNCTIONAL SYMBOL DELTA STILE
APL FUNCTIONAL SYMBOL QUAD DOWN CARET
APL FUNCTIONAL SYMBOL QUAD DELTA
APL FUNCTIONAL SYMBOL DOWN TACK JOT
APL FUNCTIONAL SYMBOL UPWARDS VANE
APL FUNCTIONAL SYMBOL QUAD UPWARDS ARROW
APL FUNCTIONAL SYMBOL UP TACK OVERBAR
APL FUNCTIONAL SYMBOL DEL STILE
APL FUNCTIONAL SYMBOL QUAD UP CARET
APL FUNCTIONAL SYMBOL QUAD DEL
APL FUNCTIONAL SYMBOL UP TACK JOT
APL FUNCTIONAL SYMBOL DOWNWARDS VANE
APL FUNCTIONAL SYMBOL QUAD DOWNWARDS ARROW
APL FUNCTIONAL SYMBOL QUOTE UNDERBAR
APL FUNCTIONAL SYMBOL DELTA UNDERBAR
APL FUNCTIONAL SYMBOL DIAMOND UNDERBAR
APL FUNCTIONAL SYMBOL JOT UNDERBAR
APL FUNCTIONAL SYMBOL CIRCLE UNDERBAR
APL FUNCTIONAL SYMBOL UP SHOE JOT
APL FUNCTIONAL SYMBOL QUOTE QUAD
APL FUNCTIONAL SYMBOL CIRCLE STAR
APL FUNCTIONAL SYMBOL QUAD COLON
APL FUNCTIONAL SYMBOL UP TACK DIAERESIS
APL FUNCTIONAL SYMBOL DEL DIAERESIS
APL FUNCTIONAL SYMBOL STAR DIAERESIS
APL FUNCTIONAL SYMBOL JOT DIAERESIS
APL FUNCTIONAL SYMBOL CIRCLE DIAERESIS
APL FUNCTIONAL SYMBOL DOWN SHOE STILE
APL FUNCTIONAL SYMBOL LEFT SHOE STILE
APL FUNCTIONAL SYMBOL TILDE DIAERESIS
APL FUNCTIONAL SYMBOL GREATER-THAN DIAERESIS
APL FUNCTIONAL SYMBOL COMMA BAR
APL FUNCTIONAL SYMBOL DEL TILDE
APL FUNCTIONAL SYMBOL ZILDE
APL FUNCTIONAL SYMBOL STILE TILDE
APL FUNCTIONAL SYMBOL SEMICOLON UNDERBAR
APL FUNCTIONAL SYMBOL QUAD NOT EQUAL
APL FUNCTIONAL SYMBOL QUAD QUESTION
APL FUNCTIONAL SYMBOL DOWN CARET TILDE
APL FUNCTIONAL SYMBOL UP CARET TILDE
APL FUNCTIONAL SYMBOL IOTA
APL FUNCTIONAL SYMBOL RHO
APL FUNCTIONAL SYMBOL OMEGA
APL FUNCTIONAL SYMBOL ALPHA UNDERBAR
APL FUNCTIONAL SYMBOL EPSILON UNDERBAR
APL FUNCTIONAL SYMBOL IOTA UNDERBAR
APL FUNCTIONAL SYMBOL OMEGA UNDERBAR
APL FUNCTIONAL SYMBOL ALPHA
NOT CHECK MARK
RIGHT ANGLE WITH DOWNWARDS ZIGZAG ARROW
SHOULDERED OPEN BOX
BELL SYMBOL
VERTICAL LINE WITH MIDDLE DOT
INSERTION SYMBOL
CONTINUOUS UNDERLINE SYMBOL
DISCONTINUOUS UNDERLINE SYMBOL
EMPHASIS SYMBOL
COMPOSITION SYMBOL
WHITE SQUARE WITH CENTRE VERTICAL LINE
ENTER SYMBOL
ALTERNATIVE KEY SYMBOL
HELM SYMBOL
CIRCLED HORIZONTAL BAR WITH NOTCH
CIRCLED TRIANGLE DOWN
BROKEN CIRCLE WITH NORTHWEST ARROW
UNDO SYMBOL
MONOSTABLE SYMBOL
HYSTERESIS SYMBOL
OPEN-CIRCUIT-OUTPUT H-TYPE SYMBOL
OPEN-CIRCUIT-OUTPUT L-TYPE SYMBOL
PASSIVE-PULL-DOWN-OUTPUT SYMBOL
PASSIVE-PULL-UP-OUTPUT SYMBOL
DIRECT CURRENT SYMBOL FORM TWO
SOFTWARE-FUNCTION SYMBOL
APL FUNCTIONAL SYMBOL QUAD
DECIMAL SEPARATOR KEY SYMBOL
PREVIOUS PAGE
NEXT PAGE
PRINT SCREEN SYMBOL
CLEAR SCREEN SYMBOL
LEFT PARENTHESIS UPPER HOOK
LEFT PARENTHESIS EXTENSION
LEFT PARENTHESIS LOWER HOOK
RIGHT PARENTHESIS UPPER HOOK
RIGHT PARENTHESIS EXTENSION
RIGHT PARENTHESIS LOWER HOOK
LEFT SQUARE BRACKET UPPER CORNER
LEFT SQUARE BRACKET EXTENSION
LEFT SQUARE BRACKET LOWER CORNER
RIGHT SQUARE BRACKET UPPER CORNER
RIGHT SQUARE BRACKET EXTENSION
RIGHT SQUARE BRACKET LOWER CORNER
LEFT CURLY BRACKET UPPER HOOK
LEFT CURLY BRACKET MIDDLE PIECE
LEFT CURLY BRACKET LOWER HOOK
CURLY BRACKET EXTENSION
RIGHT CURLY BRACKET UPPER HOOK
RIGHT CURLY BRACKET MIDDLE PIECE
RIGHT CURLY BRACKET LOWER HOOK
INTEGRAL EXTENSION
HORIZONTAL LINE EXTENSION
UPPER LEFT OR LOWER RIGHT CURLY BRACKET SECTION
UPPER RIGHT OR LOWER LEFT CURLY BRACKET SECTION
SUMMATION TOP
SUMMATION BOTTOM
TOP SQUARE BRACKET
BOTTOM SQUARE BRACKET
BOTTOM SQUARE BRACKET OVER TOP SQUARE BRACKET
RADICAL SYMBOL BOTTOM
LEFT VERTICAL BOX LINE
RIGHT VERTICAL BOX LINE
HORIZONTAL SCAN LINE-1
HORIZONTAL SCAN LINE-3
HORIZONTAL SCAN LINE-7
HORIZONTAL SCAN LINE-9
DENTISTRY SYMBOL LIGHT VERTICAL AND TOP RIGHT
DENTISTRY SYMBOL LIGHT VERTICAL AND BOTTOM RIGHT
DENTISTRY SYMBOL LIGHT VERTICAL WITH CIRCLE
DENTISTRY SYMBOL LIGHT DOWN AND HORIZONTAL WITH CIRCLE
DENTISTRY SYMBOL LIGHT UP AND HORIZONTAL WITH CIRCLE
DENTISTRY SYMBOL LIGHT VERTICAL WITH TRIANGLE
DENTISTRY SYMBOL LIGHT DOWN AND HORIZONTAL WITH TRIANGLE
DENTISTRY SYMBOL LIGHT UP AND HORIZONTAL WITH TRIANGLE
DENTISTRY SYMBOL LIGHT VERTICAL AND WAVE
DENTISTRY SYMBOL LIGHT DOWN AND HORIZONTAL WITH WAVE
DENTISTRY SYMBOL LIGHT UP AND HORIZONTAL WITH WAVE
DENTISTRY SYMBOL LIGHT DOWN AND HORIZONTAL
DENTISTRY SYMBOL LIGHT UP AND HORIZONTAL
DENTISTRY SYMBOL LIGHT VERTICAL AND TOP LEFT
DENTISTRY SYMBOL LIGHT VERTICAL AND BOTTOM LEFT
SQUARE FOOT
RETURN SYMBOL
EJECT SYMBOL
VERTICAL LINE EXTENSION
METRICAL BREVE
METRICAL LONG OVER SHORT
METRICAL SHORT OVER LONG
METRICAL LONG OVER TWO SHORTS
METRICAL TWO SHORTS OVER LONG
METRICAL TWO SHORTS JOINED
METRICAL TRISEME
METRICAL TETRASEME
METRICAL PENTASEME
EARTH GROUND
FUSE
TOP PARENTHESIS
BOTTOM PARENTHESIS
TOP CURLY BRACKET
BOTTOM CURLY BRACKET
TOP TORTOISE SHELL BRACKET
BOTTOM TORTOISE SHELL BRACKET
WHITE TRAPEZIUM
BENZENE RING WITH CIRCLE
STRAIGHTNESS
FLATNESS
AC CURRENT
ELECTRICAL INTERSECTION
DECIMAL EXPONENT SYMBOL
BLACK RIGHT-POINTING DOUBLE TRIANGLE
BLACK LEFT-POINTING DOUBLE TRIANGLE
BLACK UP-POINTING DOUBLE TRIANGLE
BLACK DOWN-POINTING DOUBLE TRIANGLE
BLACK RIGHT-POINTING DOUBLE TRIANGLE WITH VERTICAL BAR
BLACK LEFT-POINTING DOUBLE TRIANGLE WITH VERTICAL BAR
BLACK RIGHT-POINTING TRIANGLE WITH DOUBLE VERTICAL BAR
ALARM CLOCK
STOPWATCH
TIMER CLOCK
HOURGLASS WITH FLOWING SAND
BLACK MEDIUM LEFT-POINTING TRIANGLE
BLACK MEDIUM RIGHT-POINTING TRIANGLE
BLACK MEDIUM UP-POINTING TRIANGLE
BLACK MEDIUM DOWN-POINTING TRIANGLE
DOUBLE VERTICAL BAR
BLACK SQUARE FOR STOP
BLACK CIRCLE FOR RECORD
POWER SYMBOL
POWER ON-OFF SYMBOL
POWER ON SYMBOL
POWER SLEEP SYMBOL
OBSERVER EYE SYMBOL
SYMBOL FOR NULL
SYMBOL FOR START OF HEADING
SYMBOL FOR START OF TEXT
SYMBOL FOR END OF TEXT
SYMBOL FOR END OF TRANSMISSION
SYMBOL FOR ENQUIRY
SYMBOL FOR ACKNOWLEDGE
SYMBOL FOR BELL
SYMBOL FOR BACKSPACE
SYMBOL FOR HORIZONTAL TABULATION
SYMBOL FOR LINE FEED
SYMBOL FOR VERTICAL TABULATION
SYMBOL FOR FORM FEED
SYMBOL FOR CARRIAGE RETURN
SYMBOL FOR SHIFT OUT
SYMBOL FOR SHIFT IN
SYMBOL FOR DATA LINK ESCAPE
SYMBOL FOR DEVICE CONTROL ONE
SYMBOL FOR DEVICE CONTROL TWO
SYMBOL FOR DEVICE CONTROL THREE
SYMBOL FOR DEVICE CONTROL FOUR
SYMBOL FOR NEGATIVE ACKNOWLEDGE
SYMBOL FOR SYNCHRONOUS IDLE
SYMBOL FOR END OF TRANSMISSION BLOCK
SYMBOL FOR CANCEL
SYMBOL FOR END OF MEDIUM
SYMBOL FOR SUBSTITUTE
SYMBOL FOR ESCAPE
SYMBOL FOR FILE SEPARATOR
SYMBOL FOR GROUP SEPARATOR
SYMBOL FOR RECORD SEPARATOR
SYMBOL FOR UNIT SEPARATOR
SYMBOL FOR SPACE
SYMBOL FOR DELETE
BLANK SYMBOL
OPEN BOX
SYMBOL FOR NEWLINE
SYMBOL FOR DELETE FORM TWO
SYMBOL FOR SUBSTITUTE FORM TWO"

def symbolsB : String := "@2440
OCR HOOK
OCR CHAIR
OCR FORK
OCR INVERTED FORK
OCR BELT BUCKLE
OCR BOW TIE
OCR BRANCH BANK IDENTIFICATION
OCR AMOUNT OF CHECK
OCR DASH
OCR CUSTOMER ACCOUNT NUMBER
OCR DOUBLE BACKSLASH
@2460
CIRCLED DIGIT ONE
CIRCLED DIGIT TWO
CIRCLED DIGIT THREE
CIRCLED DIGIT FOUR
CIRCLED DIGIT FIVE
CIRCLED DIGIT SIX
CIRCLED DIGIT SEVEN
CIRCLED DIGIT EIGHT
CIRCLED DIGIT NINE
CIRCLED NUMBER TEN
CIRCLED NUMBER ELEVEN
CIRCLED NUMBER TWELVE
CIRCLED NUMBER THIRTEEN
CIRCLED NUMBER FOURTEEN
CIRCLED NUMBER FIFTEEN
CIRCLED NUMBER SIXTEEN
CIRCLED NUMBER SEVENTEEN
CIRCLED NUMBER EIGHTEEN
CIRCLED NUMBER NINETEEN
CIRCLED NUMBER TWENTY
PARENTHESIZED DIGIT ONE
PARENTHESIZED DIGIT TWO
PARENTHESIZED DIGIT THREE
PARENTHESIZED DIGIT FOUR
PARENTHESIZED DIGIT FIVE
PARENTHESIZED DIGIT SIX
PARENTHESIZED DIGIT SEVEN
PARENTHESIZED DIGIT EIGHT
PARENTHESIZED DIGIT NINE
PARENTHESIZED NUMBER TEN
PARENTHESIZED NUMBER ELEVEN
PARENTHESIZED NUMBER TWELVE
PARENTHESIZED NUMBER THIRTEEN
PARENTHESIZED NUMBER FOURTEEN
PARENTHESIZED NUMBER FIFTEEN
PARENTHESIZED NUMBER SIXTEEN
PARENTHESIZED NUMBER SEVENTEEN
PARENTHESIZED NUMBER EIGHTEEN
PARENTHESIZED NUMBER NINETEEN
PARENTHESIZED NUMBER TWENTY
DIGIT ONE FULL STOP
DIGIT TWO FULL STOP
DIGIT THREE FULL STOP
DIGIT FOUR FULL STOP
DIGIT FIVE FULL STOP
DIGIT SIX FULL STOP
DIGIT SEVEN FULL STOP
DIGIT EIGHT FULL STOP
DIGIT NINE FULL STOP
NUMBER TEN FULL STOP
NUMBER ELEVEN FULL STOP
NUMBER TWELVE FULL STOP
NUMBER THIRTEEN FULL STOP
NUMBER FOURTEEN FULL STOP
NUMBER FIFTEEN FULL STOP
NUMBER SIXTEEN FULL STOP
NUMBER SEVENTEEN FULL STOP
NUMBER EIGHTEEN FULL STOP
NUMBER NINETEEN FULL STOP
NUMBER TWENTY FULL STOP
PARENTHESIZED LATIN SMALL LETTER A
PARENTHESIZED LATIN SMALL LETTER B
PARENTHESIZED LATIN SMALL LETTER C
PARENTHESIZED LATIN SMALL LETTER D
PARENTHESIZED LATIN SMALL LETTER E
PARENTHESIZED LATIN SMALL LETTER F
PARENTHESIZED LATIN SMALL LETTER G
PARENTHESIZED LATIN SMALL LETTER H
PARENTHESIZED LATIN SMALL LETTER I
PARENTHESIZED LATIN SMALL LETTER J
PARENTHESIZED LATIN SMALL LETTER K
PARENTHESIZED LATIN SMALL LETTER L
PARENTHESIZED LATIN SMALL LETTER M
PARENTHESIZED LATIN SMALL LETTER N
PARENTHESIZED LATIN SMALL LETTER O
PARENTHESIZED LATIN SMALL LETTER P
PARENTHESIZED LATIN SMALL LETTER Q
PARENTHESIZED LATIN SMALL LETTER R
PARENTHESIZED LATIN SMALL LETTER S
PARENTHESIZED LATIN SMALL LETTER T
PARENTHESIZED LATIN SMALL LETTER U
PARENTHESIZED LATIN SMALL LETTER V
PARENTHESIZED LATIN SMALL LETTER W
PARENTHESIZED LATIN SMALL LETTER X
PARENTHESIZED LATIN SMALL LETTER Y
PARENTHESIZED LATIN SMALL LETTER Z
CIRCLED LATIN CAPITAL LETTER A
CIRCLED LATIN CAPITAL LETTER B
CIRCLED LATIN CAPITAL LETTER C
CIRCLED LATIN CAPITAL LETTER D
CIRCLED LATIN CAPITAL LETTER E
CIRCLED LATIN CAPITAL LETTER F
CIRCLED LATIN CAPITAL LETTER G
CIRCLED LATIN CAPITAL LETTER H
CIRCLED LATIN CAPITAL LETTER I
CIRCLED LATIN CAPITAL LETTER J
CIRCLED LATIN CAPITAL LETTER K
CIRCLED LATIN CAPITAL LETTER L
CIRCLED LATIN CAPITAL LETTER M
CIRCLED LATIN CAPITAL LETTER N
CIRCLED LATIN CAPITAL LETTER O
CIRCLED LATIN CAPITAL LETTER P
CIRCLED LATIN CAPITAL LETTER Q
CIRCLED LATIN CAPITAL LETTER R
CIRCLED LATIN CAPITAL LETTER S
CIRCLED LATIN CAPITAL LETTER T
CIRCLED LATIN CAPITAL LETTER U
CIRCLED LATIN CAPITAL LETTER V
CIRCLED LATIN CAPITAL LETTER W
CIRCLED LATIN CAPITAL LETTER X
CIRCLED LATIN CAPITAL LETTER Y
CIRCLED LATIN CAPITAL LETTER Z
CIRCLED LATIN SMALL LETTER A
CIRCLED LATIN SMALL LETTER B
CIRCLED LATIN SMALL LETTER C
CIRCLED LATIN SMALL LETTER D
CIRCLED LATIN SMALL LETTER E
CIRCLED LATIN SMALL LETTER F
CIRCLED LATIN SMALL LETTER G
CIRCLED LATIN SMALL LETTER H
CIRCLED LATIN SMALL LETTER I
CIRCLED LATIN SMALL LETTER J
CIRCLED LATIN SMALL LETTER K
CIRCLED LATIN SMALL LETTER L
CIRCLED LATIN SMALL LETTER M
CIRCLED LATIN SMALL LETTER N
CIRCLED LATIN SMALL LETTER O
CIRCLED LATIN SMALL LETTER P
CIRCLED LATIN SMALL LETTER Q
CIRCLED LATIN SMALL LETTER R
CIRCLED LATIN SMALL LETTER S
CIRCLED LATIN SMALL LETTER T
CIRCLED LATIN SMALL LETTER U
CIRCLED LATIN SMALL LETTER V
CIRCLED LATIN SMALL LETTER W
CIRCLED LATIN SMALL LETTER X
CIRCLED LATIN SMALL LETTER Y
CIRCLED LATIN SMALL LETTER Z
CIRCLED DIGIT ZERO
NEGATIVE CIRCLED NUMBER ELEVEN
NEGATIVE CIRCLED NUMBER TWELVE
NEGATIVE CIRCLED NUMBER THIRTEEN
NEGATIVE CIRCLED NUMBER FOURTEEN
NEGATIVE CIRCLED NUMBER FIFTEEN
NEGATIVE CIRCLED NUMBER SIXTEEN
NEGATIVE CIRCLED NUMBER SEVENTEEN
NEGATIVE CIRCLED NUMBER EIGHTEEN
NEGATIVE CIRCLED NUMBER NINETEEN
NEGATIVE CIRCLED NUMBER TWENTY
DOUBLE CIRCLED DIGIT ONE
DOUBLE CIRCLED DIGIT TWO
DOUBLE CIRCLED DIGIT THREE
DOUBLE CIRCLED DIGIT FOUR
DOUBLE CIRCLED DIGIT FIVE
DOUBLE CIRCLED DIGIT SIX
DOUBLE CIRCLED DIGIT SEVEN
DOUBLE CIRCLED DIGIT EIGHT
DOUBLE CIRCLED DIGIT NINE
DOUBLE CIRCLED NUMBER TEN
NEGATIVE CIRCLED DIGIT ZERO
BOX DRAWINGS LIGHT HORIZONTAL
BOX DRAWINGS HEAVY HORIZONTAL
BOX DRAWINGS LIGHT VERTICAL
BOX DRAWINGS HEAVY VERTICAL
BOX DRAWINGS LIGHT TRIPLE DASH HORIZONTAL
BOX DRAWINGS HEAVY TRIPLE DASH HORIZONTAL
BOX DRAWINGS LIGHT TRIPLE DASH VERTICAL
BOX DRAWINGS HEAVY TRIPLE DASH VERTICAL
BOX DRAWINGS LIGHT QUADRUPLE DASH HORIZONTAL
BOX DRAWINGS HEAVY QUADRUPLE DASH HORIZONTAL
BOX DRAWINGS LIGHT QUADRUPLE DASH VERTICAL
BOX DRAWINGS HEAVY QUADRUPLE DASH VERTICAL
BOX DRAWINGS LIGHT DOWN AND RIGHT
BOX DRAWINGS DOWN LIGHT AND RIGHT HEAVY
BOX DRAWINGS DOWN HEAVY AND RIGHT LIGHT
BOX DRAWINGS HEAVY DOWN AND RIGHT
BOX DRAWINGS LIGHT DOWN AND LEFT
BOX DRAWINGS DOWN LIGHT AND LEFT HEAVY
BOX DRAWINGS DOWN HEAVY AND LEFT LIGHT
BOX DRAWINGS HEAVY DOWN AND LEFT
BOX DRAWINGS LIGHT UP AND RIGHT
BOX DRAWINGS UP LIGHT AND RIGHT HEAVY
BOX DRAWINGS UP HEAVY AND RIGHT LIGHT
BOX DRAWINGS HEAVY UP AND RIGHT
BOX DRAWINGS LIGHT UP AND LEFT
BOX DRAWINGS UP LIGHT AND LEFT HEAVY
BOX DRAWINGS UP HEAVY AND LEFT LIGHT
BOX DRAWINGS HEAVY UP AND LEFT
BOX DRAWINGS LIGHT VERTICAL AND RIGHT
BOX DRAWINGS VERTICAL LIGHT AND RIGHT HEAVY
BOX DRAWINGS UP HEAVY AND RIGHT DOWN LIGHT
BOX DRAWINGS DOWN HEAVY AND RIGHT UP LIGHT
BOX DRAWINGS VERTICAL HEAVY AND RIGHT LIGHT
BOX DRAWINGS DOWN LIGHT AND RIGHT UP HEAVY
BOX DRAWINGS UP LIGHT AND RIGHT DOWN HEAVY
BOX DRAWINGS HEAVY VERTICAL AND RIGHT
BOX DRAWINGS LIGHT VERTICAL AND LEFT
BOX DRAWINGS VERTICAL LIGHT AND LEFT HEAVY
BOX DRAWINGS UP HEAVY AND LEFT DOWN LIGHT
BOX DRAWINGS DOWN HEAVY AND LEFT UP LIGHT
BOX DRAWINGS VERTICAL HEAVY AND LEFT LIGHT
BOX DRAWINGS DOWN LIGHT AND LEFT UP HEAVY
BOX DRAWINGS UP LIGHT AND LEFT DOWN HEAVY
BOX DRAWINGS HEAVY VERTICAL AND LEFT
BOX DRAWINGS LIGHT DOWN AND HORIZONTAL
BOX DRAWINGS LEFT HEAVY AND RIGHT DOWN LIGHT
BOX DRAWINGS RIGHT HEAVY AND LEFT DOWN LIGHT
BOX DRAWINGS DOWN LIGHT AND HORIZONTAL HEAVY
BOX DRAWINGS DOWN HEAVY AND HORIZONTAL LIGHT
BOX DRAWINGS RIGHT LIGHT AND LEFT DOWN HEAVY
BOX DRAWINGS LEFT LIGHT AND RIGHT DOWN HEAVY
BOX DRAWINGS HEAVY DOWN AND HORIZONTAL
BOX DRAWINGS LIGHT UP AND HORIZONTAL
BOX DRAWINGS LEFT HEAVY AND RIGHT UP LIGHT
BOX DRAWINGS RIGHT HEAVY AND LEFT UP LIGHT
BOX DRAWINGS UP LIGHT AND HORIZONTAL HEAVY
BOX DRAWINGS UP HEAVY AND HORIZONTAL LIGHT
BOX DRAWINGS RIGHT LIGHT AND LEFT UP HEAVY
BOX DRAWINGS LEFT LIGHT AND RIGHT UP HEAVY
BOX DRAWINGS HEAVY UP AND HORIZONTAL
BOX DRAWINGS LIGHT VERTICAL AND HORIZONTAL
BOX DRAWINGS LEFT HEAVY AND RIGHT VERTICAL LIGHT
BOX DRAWINGS RIGHT HEAVY AND LEFT VERTICAL LIGHT
BOX DRAWINGS VERTICAL LIGHT AND HORIZONTAL HEAVY
BOX DRAWINGS UP HEAVY AND DOWN HORIZONTAL LIGHT
BOX DRAWINGS DOWN HEAVY AND UP HORIZONTAL LIGHT
BOX DRAWINGS VERTICAL HEAVY AND HORIZONTAL LIGHT
BOX DRAWINGS LEFT UP HEAVY AND RIGHT DOWN LIGHT
BOX DRAWINGS RIGHT UP HEAVY AND LEFT DOWN LIGHT
BOX DRAWINGS LEFT DOWN HEAVY AND RIGHT UP LIGHT
BOX DRAWINGS RIGHT DOWN HEAVY AND LEFT UP LIGHT
BOX DRAWINGS DOWN LIGHT AND UP HORIZONTAL HEAVY
BOX DRAWINGS UP LIGHT AND DOWN HORIZONTAL HEAVY
BOX DRAWINGS RIGHT LIGHT AND LEFT VERTICAL HEAVY
BOX DRAWINGS LEFT LIGHT AND RIGHT VERTICAL HEAVY
BOX DRAWINGS HEAVY VERTICAL AND HORIZONTAL
BOX DRAWINGS LIGHT DOUBLE DASH HORIZONTAL
BOX DRAWINGS HEAVY DOUBLE DASH HORIZONTAL
BOX DRAWINGS LIGHT DOUBLE DASH VERTICAL
BOX DRAWINGS HEAVY DOUBLE DASH VERTICAL
BOX DRAWINGS DOUBLE HORIZONTAL
BOX DRAWINGS DOUBLE VERTICAL
BOX DRAWINGS DOWN SINGLE AND RIGHT DOUBLE
BOX DRAWINGS DOWN DOUBLE AND RIGHT SINGLE
BOX DRAWINGS DOUBLE DOWN AND RIGHT
BOX DRAWINGS DOWN SINGLE AND LEFT DOUBLE
BOX DRAWINGS DOWN DOUBLE AND LEFT SINGLE
BOX DRAWINGS DOUBLE DOWN AND LEFT
BOX DRAWINGS UP SINGLE AND RIGHT DOUBLE
BOX DRAWINGS UP DOUBLE AND RIGHT SINGLE
BOX DRAWINGS DOUBLE UP AND RIGHT
BOX DRAWINGS UP SINGLE AND LEFT DOUBLE
BOX DRAWINGS UP DOUBLE AND LEFT SINGLE
BOX DRAWINGS DOUBLE UP AND LEFT
BOX DRAWINGS VERTICAL SINGLE AND RIGHT DOUBLE
BOX DRAWINGS VERTICAL DOUBLE AND RIGHT SINGLE
BOX DRAWINGS DOUBLE VERTICAL AND RIGHT
BOX DRAWINGS VERTICAL SINGLE AND LEFT DOUBLE
BOX DRAWINGS VERTICAL DOUBLE AND LEFT SINGLE
BOX DRAWINGS DOUBLE VERTICAL AND LEFT
BOX DRAWINGS DOWN SINGLE AND HORIZONTAL DOUBLE
BOX DRAWINGS DOWN DOUBLE AND HORIZONTAL SINGLE
BOX DRAWINGS DOUBLE DOWN AND HORIZONTAL
BOX DRAWINGS UP SINGLE AND HORIZONTAL DOUBLE
BOX DRAWINGS UP DOUBLE AND HORIZONTAL SINGLE
BOX DRAWINGS DOUBLE UP AND HORIZONTAL
BOX DRAWINGS VERTICAL SINGLE AND HORIZONTAL DOUBLE
BOX DRAWINGS VERTICAL DOUBLE AND HORIZONTAL SINGLE
BOX DRAWINGS DOUBLE VERTICAL AND HORIZONTAL
BOX DRAWINGS LIGHT ARC DOWN AND RIGHT
BOX DRAWINGS LIGHT ARC DOWN AND LEFT
BOX DRAWINGS LIGHT ARC UP AND LEFT
BOX DRAWINGS LIGHT ARC UP AND RIGHT
BOX DRAWINGS LIGHT DIAGONAL UPPER RIGHT TO LOWER LEFT
BOX DRAWINGS LIGHT DIAGONAL UPPER LEFT TO LOWER RIGHT
BOX DRAWINGS LIGHT DIAGONAL CROSS
BOX DRAWINGS LIGHT LEFT
BOX DRAWINGS LIGHT UP
BOX DRAWINGS LIGHT RIGHT
BOX DRAWINGS LIGHT DOWN
BOX DRAWINGS HEAVY LEFT
BOX DRAWINGS HEAVY UP
BOX DRAWINGS HEAVY RIGHT
BOX DRAWINGS HEAVY DOWN
BOX DRAWINGS LIGHT LEFT AND HEAVY RIGHT
BOX DRAWINGS LIGHT UP AND HEAVY DOWN
BOX DRAWINGS HEAVY LEFT AND LIGHT RIGHT
BOX DRAWINGS HEAVY UP AND LIGHT DOWN
UPPER HALF BLOCK
LOWER ONE EIGHTH BLOCK
LOWER ONE QUARTER BLOCK
LOWER THREE EIGHTHS BLOCK
LOWER HALF BLOCK
LOWER FIVE EIGHTHS BLOCK
LOWER THREE QUARTERS BLOCK
LOWER SEVEN EIGHTHS BLOCK
FULL BLOCK
LEFT SEVEN EIGHTHS BLOCK
LEFT THREE QUARTERS BLOCK
LEFT FIVE EIGHTHS BLOCK
LEFT HALF BLOCK
LEFT THREE EIGHTHS BLOCK
LEFT ONE QUARTER BLOCK
LEFT ONE EIGHTH BLOCK
RIGHT HALF BLOCK
LIGHT SHADE
MEDIUM SHADE
DARK SHADE
UPPER ONE EIGHTH BLOCK
RIGHT ONE EIGHTH BLOCK
QUADRANT LOWER LEFT
QUADRANT LOWER RIGHT
QUADRANT UPPER LEFT
QUADRANT UPPER LEFT AND LOWER LEFT AND LOWER RIGHT
QUADRANT UPPER LEFT AND LOWER RIGHT
QUADRANT UPPER LEFT AND UPPER RIGHT AND LOWER LEFT
QUADRANT UPPER LEFT AND UPPER RIGHT AND LOWER RIGHT
QUADRANT UPPER RIGHT
QUADRANT UPPER RIGHT AND LOWER LEFT
QUADRANT UPPER RIGHT AND LOWER LEFT AND LOWER RIGHT
BLACK SQUARE
WHITE SQUARE
WHITE SQUARE WITH ROUNDED CORNERS
WHITE SQUARE CONTAINING BLACK SMALL SQUARE
SQUARE WITH HORIZONTAL FILL
SQUARE WITH VERTICAL FILL
SQUARE WITH ORTHOGONAL CROSSHATCH FILL
SQUARE WITH UPPER LEFT TO LOWER RIGHT FILL
SQUARE WITH UPPER RIGHT TO LOWER LEFT FILL
SQUARE WITH DIAGONAL CROSSHATCH FILL
BLACK SMALL SQUARE
WHITE SMALL SQUARE
BLACK RECTANGLE
WHITE RECTANGLE
BLACK VERTICAL RECTANGLE
WHITE VERTICAL RECTANGLE
BLACK PARALLELOGRAM
WHITE PARALLELOGRAM
BLACK UP-POINTING TRIANGLE
WHITE UP-POINTING TRIANGLE
BLACK UP-POINTING SMALL TRIANGLE
WHITE UP-POINTING SMALL TRIANGLE
BLACK RIGHT-POINTING TRIANGLE
WHITE RIGHT-POINTING TRIANGLE
BLACK RIGHT-POINTING SMALL TRIANGLE
WHITE RIGHT-POINTING SMALL TRIANGLE
BLACK RIGHT-POINTING POINTER
WHITE RIGHT-POINTING POINTER
BLACK DOWN-POINTING TRIANGLE
WHITE DOWN-POINTING TRIANGLE
BLACK DOWN-POINTING SMALL TRIANGLE
WHITE DOWN-POINTING SMALL TRIANGLE
BLACK LEFT-POINTING TRIANGLE
WHITE LEFT-POINTING TRIANGLE
BLACK LEFT-POINTING SMALL TRIANGLE
WHITE LEFT-POINTING SMALL TRIANGLE
BLACK LEFT-POINTING POINTER
WHITE LEFT-POINTING POINTER
BLACK DIAMOND
WHITE DIAMOND
WHITE DIAMOND CONTAINING BLACK SMALL DIAMOND
FISHEYE
LOZENGE
WHITE CIRCLE
DOTTED CIRCLE
CIRCLE WITH VERTICAL FILL
BULLSEYE
BLACK CIRCLE
CIRCLE WITH LEFT HALF BLACK
CIRCLE WITH RIGHT HALF BLACK
CIRCLE WITH LOWER HALF BLACK
CIRCLE WITH UPPER HALF BLACK
CIRCLE WITH UPPER RIGHT QUADRANT BLACK
CIRCLE WITH ALL BUT UPPER LEFT QUADRANT BLACK
LEFT HALF BLACK CIRCLE
RIGHT HALF BLACK CIRCLE
INVERSE BULLET
INVERSE WHITE CIRCLE
UPPER HALF INVERSE WHITE CIRCLE
LOWER HALF INVERSE WHITE CIRCLE
UPPER LEFT QUADRANT CIRCULAR ARC
UPPER RIGHT QUADRANT CIRCULAR ARC
LOWER RIGHT QUADRANT CIRCULAR ARC
LOWER LEFT QUADRANT CIRCULAR ARC
UPPER HALF CIRCLE
LOWER HALF CIRCLE
BLACK LOWER RIGHT TRIANGLE
BLACK LOWER LEFT TRIANGLE
BLACK UPPER LEFT TRIANGLE
BLACK UPPER RIGHT TRIANGLE
WHITE BULLET
SQUARE WITH LEFT HALF BLACK
SQUARE WITH RIGHT HALF BLACK
SQUARE WITH UPPER LEFT DIAGONAL HALF BLACK
SQUARE WITH LOWER RIGHT DIAGONAL HALF BLACK
WHITE SQUARE WITH VERTICAL BISECTING LINE
WHITE UP-POINTING TRIANGLE WITH DOT
UP-POINTING TRIANGLE WITH LEFT HALF BLACK
UP-POINTING TRIANGLE WITH RIGHT HALF BLACK
LARGE CIRCLE
WHITE SQUARE WITH UPPER LEFT QUADRANT
WHITE SQUARE WITH LOWER LEFT QUADRANT
WHITE SQUARE WITH LOWER RIGHT QUADRANT
WHITE SQUARE WITH UPPER RIGHT QUADRANT
WHITE CIRCLE WITH UPPER LEFT QUADRANT
WHITE CIRCLE WITH LOWER LEFT QUADRANT
WHITE CIRCLE WITH LOWER RIGHT QUADRANT
WHITE CIRCLE WITH UPPER RIGHT QUADRANT
UPPER LEFT TRIANGLE
UPPER RIGHT TRIANGLE
LOWER LEFT TRIANGLE
WHITE MEDIUM SQUARE
BLACK MEDIUM SQUARE
WHITE MEDIUM SMALL SQUARE
BLACK MEDIUM SMALL SQUARE
LOWER RIGHT TRIANGLE
BLACK SUN WITH RAYS
CLOUD
UMBRELLA
SNOWMAN
COMET
BLACK STAR
WHITE STAR
LIGHTNING
THUNDERSTORM
SUN
ASCENDING NODE
DESCENDING NODE
CONJUNCTION
OPPOSITION
BLACK TELEPHONE
WHITE TELEPHONE
BALLOT BOX
BALLOT BOX WITH CHECK
BALLOT BOX WITH X
SALTIRE
UMBRELLA WITH RAIN DROPS
HOT BEVERAGE
WHITE SHOGI PIECE
BLACK SHOGI PIECE
SHAMROCK
REVERSED ROTATED FLORAL HEART BULLET
BLACK LEFT POINTING INDEX
BLACK RIGHT POINTING INDEX
WHITE LEFT POINTING INDEX
WHITE UP POINTING INDEX
WHITE RIGHT POINTING INDEX
WHITE DOWN POINTING INDEX
SKULL AND CROSSBONES
CAUTION SIGN
RADIOACTIVE SIGN
BIOHAZARD SIGN
CADUCEUS
ANKH
ORTHODOX CROSS
CHI RHO
CROSS OF LORRAINE
CROSS OF JERUSALEM
STAR AND CRESCENT
FARSI SYMBOL
ADI SHAKTI
HAMMER AND SICKLE
PEACE SYMBOL
YIN YANG
TRIGRAM FOR HEAVEN
TRIGRAM FOR LAKE
TRIGRAM FOR FIRE
TRIGRAM FOR THUNDER
TRIGRAM FOR WIND
TRIGRAM FOR WATER
TRIGRAM FOR MOUNTAIN
TRIGRAM FOR EARTH
WHEEL OF DHARMA
WHITE FROWNING FACE
WHITE SMILING FACE
BLACK SMILING FACE
WHITE SUN WITH RAYS
FIRST QUARTER MOON
LAST QUARTER MOON
MERCURY
FEMALE SIGN
EARTH
MALE SIGN
JUPITER
SATURN
URANUS
NEPTUNE
PLUTO
ARIES
TAURUS
GEMINI
CANCER
LEO
VIRGO
LIBRA
SCORPIUS
SAGITTARIUS
CAPRICORN
AQUARIUS
PISCES
WHITE CHESS KING
WHITE CHESS QUEEN
WHITE CHESS ROOK
WHITE CHESS BISHOP
WHITE CHESS KNIGHT
WHITE CHESS PAWN
BLACK CHESS KING
BLACK CHESS QUEEN
BLACK CHESS ROOK
BLACK CHESS BISHOP
BLACK CHESS KNIGHT
BLACK CHESS PAWN
BLACK SPADE SUIT
WHITE HEART SUIT
WHITE DIAMOND SUIT
BLACK CLUB SUIT
WHITE SPADE SUIT
BLACK HEART SUIT
BLACK DIAMOND SUIT
WHITE CLUB SUIT
HOT SPRINGS
QUARTER NOTE
EIGHTH NOTE
BEAMED EIGHTH NOTES
BEAMED SIXTEENTH NOTES
MUSIC FLAT SIGN
MUSIC NATURAL SIGN
MUSIC SHARP SIGN
WEST SYRIAC CROSS
EAST SYRIAC CROSS
UNIVERSAL RECYCLING SYMBOL
RECYCLING SYMBOL FOR TYPE-1 PLASTICS
RECYCLING SYMBOL FOR TYPE-2 PLASTICS
RECYCLING SYMBOL FOR TYPE-3 PLASTICS
RECYCLING SYMBOL FOR TYPE-4 PLASTICS
RECYCLING SYMBOL FOR TYPE-5 PLASTICS
RECYCLING SYMBOL FOR TYPE-6 PLASTICS
RECYCLING SYMBOL FOR TYPE-7 PLASTICS
RECYCLING SYMBOL FOR GENERIC MATERIALS
BLACK UNIVERSAL RECYCLING SYMBOL
RECYCLED PAPER SYMBOL
PARTIALLY-RECYCLED PAPER SYMBOL
PERMANENT PAPER SIGN
WHEELCHAIR SYMBOL
DIE FACE-1
DIE FACE-2
DIE FACE-3
DIE FACE-4
DIE FACE-5
DIE FACE-6
WHITE CIRCLE WITH DOT RIGHT
WHITE CIRCLE WITH TWO DOTS
BLACK CIRCLE WITH WHITE DOT RIGHT
BLACK CIRCLE WITH TWO WHITE DOTS
MONOGRAM FOR YANG
MONOGRAM FOR YIN
DIGRAM FOR GREATER YANG
DIGRAM FOR LESSER YIN
DIGRAM FOR LESSER YANG
DIGRAM FOR GREATER YIN
WHITE FLAG
BLACK FLAG
HAMMER AND PICK
ANCHOR
CROSSED SWORDS
STAFF OF AESCULAPIUS
SCALES
ALEMBIC
FLOWER
GEAR
STAFF OF HERMES
ATOM SYMBOL
FLEUR-DE-LIS
OUTLINED WHITE STAR
THREE LINES CONVERGING RIGHT
THREE LINES CONVERGING LEFT
WARNING SIGN
HIGH VOLTAGE SIGN
DOUBLED FEMALE SIGN
DOUBLED MALE SIGN
INTERLOCKED FEMALE AND MALE SIGN
MALE AND FEMALE SIGN
MALE WITH STROKE SIGN
MALE WITH STROKE AND MALE AND FEMALE SIGN
VERTICAL MALE WITH STROKE SIGN
HORIZONTAL MALE WITH STROKE SIGN
MEDIUM WHITE CIRCLE
MEDIUM BLACK CIRCLE
MEDIUM SMALL WHITE CIRCLE
MARRIAGE SYMBOL
DIVORCE SYMBOL
UNMARRIED PARTNERSHIP SYMBOL
COFFIN
FUNERAL URN
NEUTER
CERES
PALLAS
JUNO
VESTA
CHIRON
BLACK MOON LILITH
SEXTILE
SEMISEXTILE
QUINCUNX
SESQUIQUADRATE
SOCCER BALL
BASEBALL
SQUARED KEY
WHITE DRAUGHTS MAN
WHITE DRAUGHTS KING
BLACK DRAUGHTS MAN
BLACK DRAUGHTS KING
SNOWMAN WITHOUT SNOW
SUN BEHIND CLOUD
RAIN
BLACK SNOWMAN
THUNDER CLOUD AND RAIN
TURNED WHITE SHOGI PIECE
TURNED BLACK SHOGI PIECE
WHITE DIAMOND IN SQUARE
CROSSING LANES
DISABLED CAR
OPHIUCHUS
PICK
CAR SLIDING
HELMET WITH WHITE CROSS
CIRCLED CROSSING LANES
CHAINS
NO ENTRY
ALTERNATE ONE-WAY LEFT WAY TRAFFIC
BLACK TWO-WAY LEFT WAY TRAFFIC
WHITE TWO-WAY LEFT WAY TRAFFIC
BLACK LEFT LANE MERGE
WHITE LEFT LANE MERGE
DRIVE SLOW SIGN
HEAVY WHITE DOWN-POINTING TRIANGLE
LEFT CLOSED ENTRY
SQUARED SALTIRE
FALLING DIAGONAL IN WHITE CIRCLE IN BLACK SQUARE
BLACK TRUCK
RESTRICTED LEFT ENTRY-1
RESTRICTED LEFT ENTRY-2
ASTRONOMICAL SYMBOL FOR URANUS
HEAVY CIRCLE WITH STROKE AND TWO DOTS ABOVE
PENTAGRAM
RIGHT-HANDED INTERLACED PENTAGRAM
LEFT-HANDED INTERLACED PENTAGRAM
INVERTED PENTAGRAM
BLACK CROSS ON SHIELD
SHINTO SHRINE
CHURCH
CASTLE
HISTORIC SITE
GEAR WITHOUT HUB
GEAR WITH HANDLES
MAP SYMBOL FOR LIGHTHOUSE
MOUNTAIN
UMBRELLA ON GROUND
FOUNTAIN
FLAG IN HOLE
FERRY
SAILBOAT
SQUARE FOUR CORNERS
SKIER
ICE SKATE
PERSON WITH BALL
TENT
JAPANESE BANK SYMBOL
HEADSTONE GRAVEYARD SYMBOL
FUEL PUMP
CUP ON BLACK SQUARE
WHITE FLAG WITH HORIZONTAL MIDDLE BLACK STRIPE
BLACK SAFETY SCISSORS
UPPER BLADE SCISSORS
BLACK SCISSORS
LOWER BLADE SCISSORS
WHITE SCISSORS
WHITE HEAVY CHECK MARK
TELEPHONE LOCATION SIGN
TAPE DRIVE
AIRPLANE
ENVELOPE
RAISED FIST
RAISED HAND
VICTORY HAND
WRITING HAND
LOWER RIGHT PENCIL
PENCIL
UPPER RIGHT PENCIL
WHITE NIB
BLACK NIB
CHECK MARK
HEAVY CHECK MARK
MULTIPLICATION X
HEAVY MULTIPLICATION X
BALLOT X
HEAVY BALLOT X
OUTLINED GREEK CROSS
HEAVY GREEK CROSS
OPEN CENTRE CROSS
HEAVY OPEN CENTRE CROSS
LATIN CROSS
SHADOWED WHITE LATIN CROSS
OUTLINED LATIN CROSS
MALTESE CROSS
STAR OF DAVID
FOUR TEARDROP-SPOKED ASTERISK
FOUR BALLOON-SPOKED ASTERISK
HEAVY FOUR BALLOON-SPOKED ASTERISK
FOUR CLUB-SPOKED ASTERISK
BLACK FOUR POINTED STAR
WHITE FOUR POINTED STAR
SPARKLES
STRESS OUTLINED WHITE STAR
CIRCLED WHITE STAR
OPEN CENTRE BLACK STAR
BLACK CENTRE WHITE STAR
OUTLINED BLACK STAR
HEAVY OUTLINED BLACK STAR
PINWHEEL STAR
SHADOWED WHITE STAR
HEAVY ASTERISK
OPEN CENTRE ASTERISK
EIGHT SPOKED ASTERISK
EIGHT POINTED BLACK STAR
EIGHT POINTED PINWHEEL STAR
SIX POINTED BLACK STAR
EIGHT POINTED RECTILINEAR BLACK STAR
HEAVY EIGHT POINTED RECTILINEAR BLACK STAR
TWELVE POINTED BLACK STAR
SIXTEEN POINTED ASTERISK
TEARDROP-SPOKED ASTERISK
OPEN CENTRE TEARDROP-SPOKED ASTERISK
HEAVY TEARDROP-SPOKED ASTERISK
SIX PETALLED BLACK AND WHITE FLORETTE
BLACK FLORETTE
WHITE FLORETTE
EIGHT PETALLED OUTLINED BLACK FLORETTE
CIRCLED OPEN CENTRE EIGHT POINTED STAR
HEAVY TEARDROP-SPOKED PINWHEEL ASTERISK
SNOWFLAKE
TIGHT TRIFOLIATE SNOWFLAKE
HEAVY CHEVRON SNOWFLAKE
SPARKLE
HEAVY SPARKLE
BALLOON-SPOKED ASTERISK
EIGHT TEARDROP-SPOKED PROPELLER ASTERISK
HEAVY EIGHT TEARDROP-SPOKED PROPELLER ASTERISK
CROSS MARK
SHADOWED WHITE CIRCLE
NEGATIVE SQUARED CROSS MARK
LOWER RIGHT DROP-SHADOWED WHITE SQUARE
UPPER RIGHT DROP-SHADOWED WHITE SQUARE
LOWER RIGHT SHADOWED WHITE SQUARE
UPPER RIGHT SHADOWED WHITE SQUARE
BLACK QUESTION MARK ORNAMENT
WHITE QUESTION MARK ORNAMENT
WHITE EXCLAMATION MARK ORNAMENT
BLACK DIAMOND MINUS WHITE X
HEAVY EXCLAMATION MARK SYMBOL
LIGHT VERTICAL BAR
MEDIUM VERTICAL BAR
HEAVY VERTICAL BAR
HEAVY SINGLE TURNED COMMA QUOTATION MARK ORNAMENT
HEAVY SINGLE COMMA QUOTATION MARK ORNAMENT
HEAVY DOUBLE TURNED COMMA QUOTATION MARK ORNAMENT
HEAVY DOUBLE COMMA QUOTATION MARK ORNAMENT
HEAVY LOW SINGLE COMMA QUOTATION MARK ORNAMENT
HEAVY LOW DOUBLE COMMA QUOTATION MARK ORNAMENT
CURVED STEM PARAGRAPH SIGN ORNAMENT
HEAVY EXCLAMATION MARK ORNAMENT
HEAVY HEART EXCLAMATION MARK ORNAMENT
HEAVY BLACK HEART
ROTATED HEAVY BLACK HEART BULLET
FLORAL HEART
ROTATED FLORAL HEART BULLET
MEDIUM LEFT PARENTHESIS ORNAMENT
MEDIUM RIGHT PARENTHESIS ORNAMENT
MEDIUM FLATTENED LEFT PARENTHESIS ORNAMENT
MEDIUM FLATTENED RIGHT PARENTHESIS ORNAMENT
MEDIUM LEFT-POINTING ANGLE BRACKET ORNAMENT
MEDIUM RIGHT-POINTING ANGLE BRACKET ORNAMENT
HEAVY LEFT-POINTING ANGLE QUOTATION MARK ORNAMENT
HEAVY RIGHT-POINTING ANGLE QUOTATION MARK ORNAMENT
HEAVY LEFT-POINTING ANGLE BRACKET ORNAMENT
HEAVY RIGHT-POINTING ANGLE BRACKET ORNAMENT
LIGHT LEFT TORTOISE SHELL BRACKET ORNAMENT
LIGHT RIGHT TORTOISE SHELL BRACKET ORNAMENT
MEDIUM LEFT CURLY BRACKET ORNAMENT
MEDIUM RIGHT CURLY BRACKET ORNAMENT
DINGBAT NEGATIVE CIRCLED DIGIT ONE
DINGBAT NEGATIVE CIRCLED DIGIT TWO
DINGBAT NEGATIVE CIRCLED DIGIT THREE
DINGBAT NEGATIVE CIRCLED DIGIT FOUR
DINGBAT NEGATIVE CIRCLED DIGIT FIVE
DINGBAT NEGATIVE CIRCLED DIGIT SIX
DINGBAT NEGATIVE CIRCLED DIGIT SEVEN
DINGBAT NEGATIVE CIRCLED DIGIT EIGHT
DINGBAT NEGATIVE CIRCLED DIGIT NINE
DINGBAT NEGATIVE CIRCLED NUMBER TEN
DINGBAT CIRCLED SANS-SERIF DIGIT ONE
DINGBAT CIRCLED SANS-SERIF DIGIT TWO
DINGBAT CIRCLED SANS-SERIF DIGIT THREE
DINGBAT CIRCLED SANS-SERIF DIGIT FOUR
DINGBAT CIRCLED SANS-SERIF DIGIT FIVE
DINGBAT CIRCLED SANS-SERIF DIGIT SIX
DINGBAT CIRCLED SANS-SERIF DIGIT SEVEN
DINGBAT CIRCLED SANS-SERIF DIGIT EIGHT
DINGBAT CIRCLED SANS-SERIF DIGIT NINE
DINGBAT CIRCLED SANS-SERIF NUMBER TEN
DINGBAT NEGATIVE CIRCLED SANS-SERIF DIGIT ONE
DINGBAT NEGATIVE CIRCLED SANS-SERIF DIGIT TWO
DINGBAT NEGATIVE CIRCLED SANS-SERIF DIGIT THREE
DINGBAT NEGATIVE CIRCLED SANS-SERIF DIGIT FOUR
DINGBAT NEGATIVE CIRCLED SANS-SERIF DIGIT FIVE
DINGBAT NEGATIVE CIRCLED SANS-SERIF DIGIT SIX
DINGBAT NEGATIVE CIRCLED SANS-SERIF DIGIT SEVEN
DINGBAT NEGATIVE CIRCLED SANS-SERIF DIGIT EIGHT
DINGBAT NEGATIVE CIRCLED SANS-SERIF DIGIT NINE
DINGBAT NEGATIVE CIRCLED SANS-SERIF NUMBER TEN
HEAVY WIDE-HEADED RIGHTWARDS ARROW
HEAVY PLUS SIGN
HEAVY MINUS SIGN
HEAVY DIVISION SIGN
HEAVY SOUTH EAST ARROW
HEAVY RIGHTWARDS ARROW
HEAVY NORTH EAST ARROW
DRAFTING POINT RIGHTWARDS ARROW
HEAVY ROUND-TIPPED RIGHTWARDS ARROW
TRIANGLE-HEADED RIGHTWARDS ARROW
HEAVY TRIANGLE-HEADED RIGHTWARDS ARROW
DASHED TRIANGLE-HEADED RIGHTWARDS ARROW
HEAVY DASHED TRIANGLE-HEADED RIGHTWARDS ARROW
BLACK RIGHTWARDS ARROW
THREE-D TOP-LIGHTED RIGHTWARDS ARROWHEAD
THREE-D BOTTOM-LIGHTED RIGHTWARDS ARROWHEAD
BLACK RIGHTWARDS ARROWHEAD
HEAVY BLACK CURVED DOWNWARDS AND RIGHTWARDS ARROW
HEAVY BLACK CURVED UPWARDS AND RIGHTWARDS ARROW
SQUAT BLACK RIGHTWARDS ARROW
HEAVY CONCAVE-POINTED BLACK RIGHTWARDS ARROW
RIGHT-SHADED WHITE RIGHTWARDS ARROW
LEFT-SHADED WHITE RIGHTWARDS ARROW
BACK-TILTED SHADOWED WHITE RIGHTWARDS ARROW
FRONT-TILTED SHADOWED WHITE RIGHTWARDS ARROW
HEAVY LOWER RIGHT-SHADOWED WHITE RIGHTWARDS ARROW
HEAVY UPPER RIGHT-SHADOWED WHITE RIGHTWARDS ARROW
NOTCHED LOWER RIGHT-SHADOWED WHITE RIGHTWARDS ARROW
CURLY LOOP
NOTCHED UPPER RIGHT-SHADOWED WHITE RIGHTWARDS ARROW
CIRCLED HEAVY WHITE RIGHTWARDS ARROW
WHITE-FEATHERED RIGHTWARDS ARROW
BLACK-FEATHERED SOUTH EAST ARROW
BLACK-FEATHERED RIGHTWARDS ARROW
BLACK-FEATHERED NORTH EAST ARROW
HEAVY BLACK-FEATHERED SOUTH EAST ARROW
HEAVY BLACK-FEATHERED RIGHTWARDS ARROW
HEAVY BLACK-FEATHERED NORTH EAST ARROW
TEARDROP-BARBED RIGHTWARDS ARROW
HEAVY TEARDROP-SHANKED RIGHTWARDS ARROW
WEDGE-TAILED RIGHTWARDS ARROW
HEAVY WEDGE-TAILED RIGHTWARDS ARROW
OPEN-OUTLINED RIGHTWARDS ARROW
DOUBLE CURLY LOOP
THREE DIMENSIONAL ANGLE
WHITE TRIANGLE CONTAINING SMALL WHITE TRIANGLE
PERPENDICULAR
OPEN SUBSET
OPEN SUPERSET
LEFT S-SHAPED BAG DELIMITER
RIGHT S-SHAPED BAG DELIMITER
OR WITH DOT INSIDE
REVERSE SOLIDUS PRECEDING SUBSET
SUPERSET PRECEDING SOLIDUS
VERTICAL BAR WITH HORIZONTAL STROKE
MATHEMATICAL RISING DIAGONAL
LONG DIVISION
MATHEMATICAL FALLING DIAGONAL
SQUARED LOGICAL AND
SQUARED LOGICAL OR
WHITE DIAMOND WITH CENTRED DOT
AND WITH DOT
ELEMENT OF OPENING UPWARDS
LOWER RIGHT CORNER WITH DOT
UPPER LEFT CORNER WITH DOT
LEFT OUTER JOIN
RIGHT OUTER JOIN
FULL OUTER JOIN
LARGE UP TACK
LARGE DOWN TACK
LEFT AND RIGHT DOUBLE TURNSTILE
LEFT AND RIGHT TACK
LEFT MULTIMAP
LONG RIGHT TACK
LONG LEFT TACK
UP TACK WITH CIRCLE ABOVE
LOZENGE DIVIDED BY HORIZONTAL RULE
WHITE CONCAVE-SIDED DIAMOND
WHITE CONCAVE-SIDED DIAMOND WITH LEFTWARDS TICK
WHITE CONCAVE-SIDED DIAMOND WITH RIGHTWARDS TICK
WHITE SQUARE WITH LEFTWARDS TICK
WHITE SQUARE WITH RIGHTWARDS TICK
MATHEMATICAL LEFT WHITE SQUARE BRACKET
MATHEMATICAL RIGHT WHITE SQUARE BRACKET
MATHEMATICAL LEFT ANGLE BRACKET
MATHEMATICAL RIGHT ANGLE BRACKET
MATHEMATICAL LEFT DOUBLE ANGLE BRACKET
MATHEMATICAL RIGHT DOUBLE ANGLE BRACKET
MATHEMATICAL LEFT WHITE TORTOISE SHELL BRACKET
MATHEMATICAL RIGHT WHITE TORTOISE SHELL BRACKET
MATHEMATICAL LEFT FLATTENED PARENTHESIS
MATHEMATICAL RIGHT FLATTENED PARENTHESIS
UPWARDS QUADRUPLE ARROW
DOWNWARDS QUADRUPLE ARROW
ANTICLOCKWISE GAPPED CIRCLE ARROW
CLOCKWISE GAPPED CIRCLE ARROW
RIGHT ARROW WITH CIRCLED PLUS
LONG LEFTWARDS ARROW
LONG RIGHTWARDS ARROW
LONG LEFT RIGHT ARROW
LONG LEFTWARDS DOUBLE ARROW
LONG RIGHTWARDS DOUBLE ARROW
LONG LEFT RIGHT DOUBLE ARROW
LONG LEFTWARDS ARROW FROM BAR
LONG RIGHTWARDS ARROW FROM BAR
LONG LEFTWARDS DOUBLE ARROW FROM BAR
LONG RIGHTWARDS DOUBLE ARROW FROM BAR
LONG RIGHTWARDS SQUIGGLE ARROW
BRAILLE PATTERN BLANK
BRAILLE PATTERN DOTS-1
BRAILLE PATTERN DOTS-2
BRAILLE PATTERN DOTS-12
BRAILLE PATTERN DOTS-3
BRAILLE PATTERN DOTS-13
BRAILLE PATTERN DOTS-23
BRAILLE PATTERN DOTS-123
BRAILLE PATTERN DOTS-4
BRAILLE PATTERN DOTS-14
BRAILLE PATTERN DOTS-24
BRAILLE PATTERN DOTS-124
BRAILLE PATTERN DOTS-34
BRAILLE PATTERN DOTS-134
BRAILLE PATTERN DOTS-234
BRAILLE PATTERN DOTS-1234
BRAILLE PATTERN DOTS-5
BRAILLE PATTERN DOTS-15
BRAILLE PATTERN DOTS-25
BRAILLE PATTERN DOTS-125
BRAILLE PATTERN DOTS-35
BRAILLE PATTERN DOTS-135
BRAILLE PATTERN DOTS-235
BRAILLE PATTERN DOTS-1235
BRAILLE PATTERN DOTS-45
BRAILLE PATTERN DOTS-145
BRAILLE PATTERN DOTS-245
BRAILLE PATTERN DOTS-1245
BRAILLE PATTERN DOTS-345
BRAILLE PATTERN DOTS-1345
BRAILLE PATTERN DOTS-2345
BRAILLE PATTERN DOTS-12345
BRAILLE PATTERN DOTS-6
BRAILLE PATTERN DOTS-16
BRAILLE PATTERN DOTS-26
BRAILLE PATTERN DOTS-126
BRAILLE PATTERN DOTS-36
BRAILLE PATTERN DOTS-136
BRAILLE PATTERN DOTS-236
BRAILLE PATTERN DOTS-1236
BRAILLE PATTERN DOTS-46
BRAILLE PATTERN DOTS-146
BRAILLE PATTERN DOTS-246
BRAILLE PATTERN DOTS-1246
BRAILLE PATTERN DOTS-346
BRAILLE PATTERN DOTS-1346
BRAILLE PATTERN DOTS-2346
BRAILLE PATTERN DOTS-12346
BRAILLE PATTERN DOTS-56
BRAILLE PATTERN DOTS-156
BRAILLE PATTERN DOTS-256
BRAILLE PATTERN DOTS-1256
BRAILLE PATTERN DOTS-356
BRAILLE PATTERN DOTS-1356
BRAILLE PATTERN DOTS-2356
BRAILLE PATTERN DOTS-12356
BRAILLE PATTERN DOTS-456
BRAILLE PATTERN DOTS-1456
BRAILLE PATTERN DOTS-2456
BRAILLE PATTERN DOTS-12456
BRAILLE PATTERN DOTS-3456
BRAILLE PATTERN DOTS-13456
BRAILLE PATTERN DOTS-23456
BRAILLE PATTERN DOTS-123456
BRAILLE PATTERN DOTS-7
BRAILLE PATTERN DOTS-17
BRAILLE PATTERN DOTS-27
BRAILLE PATTERN DOTS-127
BRAILLE PATTERN DOTS-37
BRAILLE PATTERN DOTS-137
BRAILLE PATTERN DOTS-237
BRAILLE PATTERN DOTS-1237
BRAILLE PATTERN DOTS-47
BRAILLE PATTERN DOTS-147
BRAILLE PATTERN DOTS-247
BRAILLE PATTERN DOTS-1247
BRAILLE PATTERN DOTS-347
BRAILLE PATTERN DOTS-1347
BRAILLE PATTERN DOTS-2347
BRAILLE PATTERN DOTS-12347
BRAILLE PATTERN DOTS-57
BRAILLE PATTERN DOTS-157
BRAILLE PATTERN DOTS-257
BRAILLE PATTERN DOTS-1257
BRAILLE PATTERN DOTS-357
BRAILLE PATTERN DOTS-1357
BRAILLE PATTERN DOTS-2357
BRAILLE PATTERN DOTS-12357
BRAILLE PATTERN DOTS-457
BRAILLE PATTERN DOTS-1457
BRAILLE PATTERN DOTS-2457
BRAILLE PATTERN DOTS-12457
BRAILLE PATTERN DOTS-3457
BRAILLE PATTERN DOTS-13457
BRAILLE PATTERN DOTS-23457
BRAILLE PATTERN DOTS-123457
BRAILLE PATTERN DOTS-67
BRAILLE PATTERN DOTS-167
BRAILLE PATTERN DOTS-267
BRAILLE PATTERN DOTS-1267
BRAILLE PATTERN DOTS-367
BRAILLE PATTERN DOTS-1367
BRAILLE PATTERN DOTS-2367
BRAILLE PATTERN DOTS-12367
BRAILLE PATTERN DOTS-467
BRAILLE PATTERN DOTS-1467
BRAILLE PATTERN DOTS-2467
BRAILLE PATTERN DOTS-12467
BRAILLE PATTERN DOTS-3467
BRAILLE PATTERN DOTS-13467
BRAILLE PATTERN DOTS-23467
BRAILLE PATTERN DOTS-123467
BRAILLE PATTERN DOTS-567
BRAILLE PATTERN DOTS-1567
BRAILLE PATTERN DOTS-2567
BRAILLE PATTERN DOTS-12567
BRAILLE PATTERN DOTS-3567
BRAILLE PATTERN DOTS-13567
BRAILLE PATTERN DOTS-23567
BRAILLE PATTERN DOTS-123567
BRAILLE PATTERN DOTS-4567
BRAILLE PATTERN DOTS-14567
BRAILLE PATTERN DOTS-24567
BRAILLE PATTERN DOTS-124567
BRAILLE PATTERN DOTS-34567
BRAILLE PATTERN DOTS-134567
BRAILLE PATTERN DOTS-234567
BRAILLE PATTERN DOTS-1234567
BRAILLE PATTERN DOTS-8
BRAILLE PATTERN DOTS-18
BRAILLE PATTERN DOTS-28
BRAILLE PATTERN DOTS-128
BRAILLE PATTERN DOTS-38
BRAILLE PATTERN DOTS-138
BRAILLE PATTERN DOTS-238
BRAILLE PATTERN DOTS-1238
BRAILLE PATTERN DOTS-48
BRAILLE PATTERN DOTS-148
BRAILLE PATTERN DOTS-248
BRAILLE PATTERN DOTS-1248
BRAILLE PATTERN DOTS-348
BRAILLE PATTERN DOTS-1348
BRAILLE PATTERN DOTS-2348
BRAILLE PATTERN DOTS-12348
BRAILLE PATTERN DOTS-58
BRAILLE PATTERN DOTS-158
BRAILLE PATTERN DOTS-258
BRAILLE PATTERN DOTS-1258
BRAILLE PATTERN DOTS-358
BRAILLE PATTERN DOTS-1358
BRAILLE PATTERN DOTS-2358
BRAILLE PATTERN DOTS-12358
BRAILLE PATTERN DOTS-458
BRAILLE PATTERN DOTS-1458
BRAILLE PATTERN DOTS-2458
BRAILLE PATTERN DOTS-12458
BRAILLE PATTERN DOTS-3458
BRAILLE PATTERN DOTS-13458
BRAILLE PATTERN DOTS-23458
BRAILLE PATTERN DOTS-123458
BRAILLE PATTERN DOTS-68
BRAILLE PATTERN DOTS-168
BRAILLE PATTERN DOTS-268
BRAILLE PATTERN DOTS-1268
BRAILLE PATTERN DOTS-368
BRAILLE PATTERN DOTS-1368
BRAILLE PATTERN DOTS-2368
BRAILLE PATTERN DOTS-12368
BRAILLE PATTERN DOTS-468
BRAILLE PATTERN DOTS-1468
BRAILLE PATTERN DOTS-2468
BRAILLE PATTERN DOTS-12468
BRAILLE PATTERN DOTS-3468
BRAILLE PATTERN DOTS-13468
BRAILLE PATTERN DOTS-23468
BRAILLE PATTERN DOTS-123468
BRAILLE PATTERN DOTS-568
BRAILLE PATTERN DOTS-1568
BRAILLE PATTERN DOTS-2568
BRAILLE PATTERN DOTS-12568
BRAILLE PATTERN DOTS-3568
BRAILLE PATTERN DOTS-13568
BRAILLE PATTERN DOTS-23568
BRAILLE PATTERN DOTS-123568
BRAILLE PATTERN DOTS-4568
BRAILLE PATTERN DOTS-14568
BRAILLE PATTERN DOTS-24568
BRAILLE PATTERN DOTS-124568
BRAILLE PATTERN DOTS-34568
BRAILLE PATTERN DOTS-134568
BRAILLE PATTERN DOTS-234568
BRAILLE PATTERN DOTS-1234568
BRAILLE PATTERN DOTS-78
BRAILLE PATTERN DOTS-178
BRAILLE PATTERN DOTS-278
BRAILLE PATTERN DOTS-1278
BRAILLE PATTERN DOTS-378
BRAILLE PATTERN DOTS-1378
BRAILLE PATTERN DOTS-2378
BRAILLE PATTERN DOTS-12378
BRAILLE PATTERN DOTS-478
BRAILLE PATTERN DOTS-1478
BRAILLE PATTERN DOTS-2478
BRAILLE PATTERN DOTS-12478
BRAILLE PATTERN DOTS-3478
BRAILLE PATTERN DOTS-13478
BRAILLE PATTERN DOTS-23478
BRAILLE PATTERN DOTS-123478
BRAILLE PATTERN DOTS-578
BRAILLE PATTERN DOTS-1578
BRAILLE PATTERN DOTS-2578
BRAILLE PATTERN DOTS-12578
BRAILLE PATTERN DOTS-3578
BRAILLE PATTERN DOTS-13578
BRAILLE PATTERN DOTS-23578
BRAILLE PATTERN DOTS-123578
BRAILLE PATTERN DOTS-4578
BRAILLE PATTERN DOTS-14578
BRAILLE PATTERN DOTS-24578
BRAILLE PATTERN DOTS-124578
BRAILLE PATTERN DOTS-34578
BRAILLE PATTERN DOTS-134578
BRAILLE PATTERN DOTS-234578
BRAILLE PATTERN DOTS-1234578
BRAILLE PATTERN DOTS-678
BRAILLE PATTERN DOTS-1678
BRAILLE PATTERN DOTS-2678
BRAILLE PATTERN DOTS-12678
BRAILLE PATTERN DOTS-3678
BRAILLE PATTERN DOTS-13678
BRAILLE PATTERN DOTS-23678
BRAILLE PATTERN DOTS-123678
BRAILLE PATTERN DOTS-4678
BRAILLE PATTERN DOTS-14678
BRAILLE PATTERN DOTS-24678
BRAILLE PATTERN DOTS-124678
BRAILLE PATTERN DOTS-34678
BRAILLE PATTERN DOTS-134678
BRAILLE PATTERN DOTS-234678
BRAILLE PATTERN DOTS-1234678
BRAILLE PATTERN DOTS-5678
BRAILLE PATTERN DOTS-15678
BRAILLE PATTERN DOTS-25678
BRAILLE PATTERN DOTS-125678
BRAILLE PATTERN DOTS-35678
BRAILLE PATTERN DOTS-135678
BRAILLE PATTERN DOTS-235678
BRAILLE PATTERN DOTS-1235678
BRAILLE PATTERN DOTS-45678
BRAILLE PATTERN DOTS-145678
BRAILLE PATTERN DOTS-245678
BRAILLE PATTERN DOTS-1245678
BRAILLE PATTERN DOTS-345678
BRAILLE PATTERN DOTS-1345678
BRAILLE PATTERN DOTS-2345678
BRAILLE PATTERN DOTS-12345678
RIGHTWARDS TWO-HEADED ARROW WITH VERTICAL STROKE
RIGHTWARDS TWO-HEADED ARROW WITH DOUBLE VERTICAL STROKE
LEFTWARDS DOUBLE ARROW WITH VERTICAL STROKE
RIGHTWARDS DOUBLE ARROW WITH VERTICAL STROKE
LEFT RIGHT DOUBLE ARROW WITH VERTICAL STROKE
RIGHTWARDS TWO-HEADED ARROW FROM BAR
LEFTWARDS DOUBLE ARROW FROM BAR
RIGHTWARDS DOUBLE ARROW FROM BAR
DOWNWARDS ARROW WITH HORIZONTAL STROKE
UPWARDS ARROW WITH HORIZONTAL STROKE
UPWARDS TRIPLE ARROW
DOWNWARDS TRIPLE ARROW
LEFTWARDS DOUBLE DASH ARROW
RIGHTWARDS DOUBLE DASH ARROW
LEFTWARDS TRIPLE DASH ARROW
RIGHTWARDS TRIPLE DASH ARROW
RIGHTWARDS TWO-HEADED TRIPLE DASH ARROW
RIGHTWARDS ARROW WITH DOTTED STEM
UPWARDS ARROW TO BAR
DOWNWARDS ARROW TO BAR
RIGHTWARDS ARROW WITH TAIL WITH VERTICAL STROKE
RIGHTWARDS ARROW WITH TAIL WITH DOUBLE VERTICAL STROKE
RIGHTWARDS TWO-HEADED ARROW WITH TAIL
RIGHTWARDS TWO-HEADED ARROW WITH TAIL WITH VERTICAL STROKE
RIGHTWARDS TWO-HEADED ARROW WITH TAIL WITH DOUBLE VERTICAL STROKE
LEFTWARDS ARROW-TAIL
RIGHTWARDS ARROW-TAIL
LEFTWARDS DOUBLE ARROW-TAIL
RIGHTWARDS DOUBLE ARROW-TAIL
LEFTWARDS ARROW TO BLACK DIAMOND
RIGHTWARDS ARROW TO BLACK DIAMOND
LEFTWARDS ARROW FROM BAR TO BLACK DIAMOND
RIGHTWARDS ARROW FROM BAR TO BLACK DIAMOND
NORTH WEST AND SOUTH EAST ARROW
NORTH EAST AND SOUTH WEST ARROW
NORTH WEST ARROW WITH HOOK
NORTH EAST ARROW WITH HOOK
SOUTH EAST ARROW WITH HOOK
SOUTH WEST ARROW WITH HOOK
NORTH WEST ARROW AND NORTH EAST ARROW
NORTH EAST ARROW AND SOUTH EAST ARROW
SOUTH EAST ARROW AND SOUTH WEST ARROW
SOUTH WEST ARROW AND NORTH WEST ARROW
RISING DIAGONAL CROSSING FALLING DIAGONAL
FALLING DIAGONAL CROSSING RISING DIAGONAL
SOUTH EAST ARROW CROSSING NORTH EAST ARROW
NORTH EAST ARROW CROSSING SOUTH EAST ARROW
FALLING DIAGONAL CROSSING NORTH EAST ARROW
RISING DIAGONAL CROSSING SOUTH EAST ARROW
NORTH EAST ARROW CROSSING NORTH WEST ARROW
NORTH WEST ARROW CROSSING NORTH EAST ARROW
WAVE ARROW POINTING DIRECTLY RIGHT
ARROW POINTING RIGHTWARDS THEN CURVING UPWARDS
ARROW POINTING RIGHTWARDS THEN CURVING DOWNWARDS
ARROW POINTING DOWNWARDS THEN CURVING LEFTWARDS
ARROW POINTING DOWNWARDS THEN CURVING RIGHTWARDS
RIGHT-SIDE ARC CLOCKWISE ARROW
LEFT-SIDE ARC ANTICLOCKWISE ARROW
TOP ARC ANTICLOCKWISE ARROW
BOTTOM ARC ANTICLOCKWISE ARROW
TOP ARC CLOCKWISE ARROW WITH MINUS
TOP ARC ANTICLOCKWISE ARROW WITH PLUS
LOWER RIGHT SEMICIRCULAR CLOCKWISE ARROW
LOWER LEFT SEMICIRCULAR ANTICLOCKWISE ARROW
ANTICLOCKWISE CLOSED CIRCLE ARROW
CLOCKWISE CLOSED CIRCLE ARROW
RIGHTWARDS ARROW ABOVE SHORT LEFTWARDS ARROW
LEFTWARDS ARROW ABOVE SHORT RIGHTWARDS ARROW
SHORT RIGHTWARDS ARROW ABOVE LEFTWARDS ARROW
RIGHTWARDS ARROW WITH PLUS BELOW
LEFTWARDS ARROW WITH PLUS BELOW
RIGHTWARDS ARROW THROUGH X
LEFT RIGHT ARROW THROUGH SMALL CIRCLE
UPWARDS TWO-HEADED ARROW FROM SMALL CIRCLE
LEFT BARB UP RIGHT BARB DOWN HARPOON
LEFT BARB DOWN RIGHT BARB UP HARPOON
UP BARB RIGHT DOWN BARB LEFT HARPOON
UP BARB LEFT DOWN BARB RIGHT HARPOON
LEFT BARB UP RIGHT BARB UP HARPOON
UP BARB RIGHT DOWN BARB RIGHT HARPOON
LEFT BARB DOWN RIGHT BARB DOWN HARPOON
UP BARB LEFT DOWN BARB LEFT HARPOON
LEFTWARDS HARPOON WITH BARB UP TO BAR
RIGHTWARDS HARPOON WITH BARB UP TO BAR
UPWARDS HARPOON WITH BARB RIGHT TO BAR
DOWNWARDS HARPOON WITH BARB RIGHT TO BAR
LEFTWARDS HARPOON WITH BARB DOWN TO BAR
RIGHTWARDS HARPOON WITH BARB DOWN TO BAR
UPWARDS HARPOON WITH BARB LEFT TO BAR
DOWNWARDS HARPOON WITH BARB LEFT TO BAR
LEFTWARDS HARPOON WITH BARB UP FROM BAR
RIGHTWARDS HARPOON WITH BARB UP FROM BAR
UPWARDS HARPOON WITH BARB RIGHT FROM BAR
DOWNWARDS HARPOON WITH BARB RIGHT FROM BAR
LEFTWARDS HARPOON WITH BARB DOWN FROM BAR
RIGHTWARDS HARPOON WITH BARB DOWN FROM BAR
UPWARDS HARPOON WITH BARB LEFT FROM BAR
DOWNWARDS HARPOON WITH BARB LEFT FROM BAR
LEFTWARDS HARPOON WITH BARB UP ABOVE LEFTWARDS HARPOON WITH BARB DOWN
UPWARDS HARPOON WITH BARB LEFT BESIDE UPWARDS HARPOON WITH BARB RIGHT
RIGHTWARDS HARPOON WITH BARB UP ABOVE RIGHTWARDS HARPOON WITH BARB DOWN
DOWNWARDS HARPOON WITH BARB LEFT BESIDE DOWNWARDS HARPOON WITH BARB RIGHT
LEFTWARDS HARPOON WITH BARB UP ABOVE RIGHTWARDS HARPOON WITH BARB UP
LEFTWARDS HARPOON WITH BARB DOWN ABOVE RIGHTWARDS HARPOON WITH BARB DOWN
RIGHTWARDS HARPOON WITH BARB UP ABOVE LEFTWARDS HARPOON WITH BARB UP
RIGHTWARDS HARPOON WITH BARB DOWN ABOVE LEFTWARDS HARPOON WITH BARB DOWN
LEFTWARDS HARPOON WITH BARB UP ABOVE LONG DASH
LEFTWARDS HARPOON WITH BARB DOWN BELOW LONG DASH
RIGHTWARDS HARPOON WITH BARB UP ABOVE LONG DASH
RIGHTWARDS HARPOON WITH BARB DOWN BELOW LONG DASH
UPWARDS HARPOON WITH BARB LEFT BESIDE DOWNWARDS HARPOON WITH BARB RIGHT
DOWNWARDS HARPOON WITH BARB LEFT BESIDE UPWARDS HARPOON WITH BARB RIGHT
RIGHT DOUBLE ARROW WITH ROUNDED HEAD
EQUALS SIGN ABOVE RIGHTWARDS ARROW
TILDE OPERATOR ABOVE RIGHTWARDS ARROW
LEFTWARDS ARROW ABOVE TILDE OPERATOR
RIGHTWARDS ARROW ABOVE TILDE OPERATOR
RIGHTWARDS ARROW ABOVE ALMOST EQUAL TO
LESS-THAN ABOVE LEFTWARDS ARROW
LEFTWARDS ARROW THROUGH LESS-THAN
GREATER-THAN ABOVE RIGHTWARDS ARROW
SUBSET ABOVE RIGHTWARDS ARROW
LEFTWARDS ARROW THROUGH SUBSET
SUPERSET ABOVE LEFTWARDS ARROW
LEFT FISH TAIL
RIGHT FISH TAIL
UP FISH TAIL
DOWN FISH TAIL
TRIPLE VERTICAL BAR DELIMITER
Z NOTATION SPOT
Z NOTATION TYPE COLON
LEFT WHITE CURLY BRACKET
RIGHT WHITE CURLY BRACKET
LEFT WHITE PARENTHESIS
RIGHT WHITE PARENTHESIS
Z NOTATION LEFT IMAGE BRACKET
Z NOTATION RIGHT IMAGE BRACKET
Z NOTATION LEFT BINDING BRACKET
Z NOTATION RIGHT BINDING BRACKET
LEFT SQUARE BRACKET WITH UNDERBAR
RIGHT SQUARE BRACKET WITH UNDERBAR
LEFT SQUARE BRACKET WITH TICK IN TOP CORNER
RIGHT SQUARE BRACKET WITH TICK IN BOTTOM CORNER
LEFT SQUARE BRACKET WITH TICK IN BOTTOM CORNER
RIGHT SQUARE BRACKET WITH TICK IN TOP CORNER
LEFT ANGLE BRACKET WITH DOT
RIGHT ANGLE BRACKET WITH DOT
LEFT ARC LESS-THAN BRACKET
RIGHT ARC GREATER-THAN BRACKET
DOUBLE LEFT ARC GREATER-THAN BRACKET
DOUBLE RIGHT ARC LESS-THAN BRACKET
LEFT BLACK TORTOISE SHELL BRACKET
RIGHT BLACK TORTOISE SHELL BRACKET
DOTTED FENCE
VERTICAL ZIGZAG LINE
MEASURED ANGLE OPENING LEFT
RIGHT ANGLE VARIANT WITH SQUARE
MEASURED RIGHT ANGLE WITH DOT
ANGLE WITH S INSIDE
ACUTE ANGLE
SPHERICAL ANGLE OPENING LEFT
SPHERICAL ANGLE OPENING UP
TURNED ANGLE
REVERSED ANGLE
ANGLE WITH UNDERBAR
REVERSED ANGLE WITH UNDERBAR
OBLIQUE ANGLE OPENING UP
OBLIQUE ANGLE OPENING DOWN
MEASURED ANGLE WITH OPEN ARM ENDING IN ARROW POINTING UP AND RIGHT
MEASURED ANGLE WITH OPEN ARM ENDING IN ARROW POINTING UP AND LEFT
MEASURED ANGLE WITH OPEN ARM ENDING IN ARROW POINTING DOWN AND RIGHT
MEASURED ANGLE WITH OPEN ARM ENDING IN ARROW POINTING DOWN AND LEFT
MEASURED ANGLE WITH OPEN ARM ENDING IN ARROW POINTING RIGHT AND UP
MEASURED ANGLE WITH OPEN ARM ENDING IN ARROW POINTING LEFT AND UP
MEASURED ANGLE WITH OPEN ARM ENDING IN ARROW POINTING RIGHT AND DOWN
MEASURED ANGLE WITH OPEN ARM ENDING IN ARROW POINTING LEFT AND DOWN
REVERSED EMPTY SET
EMPTY SET WITH OVERBAR
EMPTY SET WITH SMALL CIRCLE ABOVE
EMPTY SET WITH RIGHT ARROW ABOVE
EMPTY SET WITH LEFT ARROW ABOVE
CIRCLE WITH HORIZONTAL BAR
CIRCLED VERTICAL BAR
CIRCLED PARALLEL
CIRCLED REVERSE SOLIDUS
CIRCLED PERPENDICULAR
CIRCLE DIVIDED BY HORIZONTAL BAR AND TOP HALF DIVIDED BY VERTICAL BAR
CIRCLE WITH SUPERIMPOSED X
CIRCLED ANTICLOCKWISE-ROTATED DIVISION SIGN
UP ARROW THROUGH CIRCLE
CIRCLED WHITE BULLET
CIRCLED BULLET
CIRCLED LESS-THAN
CIRCLED GREATER-THAN
CIRCLE WITH SMALL CIRCLE TO THE RIGHT
CIRCLE WITH TWO HORIZONTAL STROKES TO THE RIGHT
SQUARED RISING DIAGONAL SLASH
SQUARED FALLING DIAGONAL SLASH
SQUARED ASTERISK
SQUARED SMALL CIRCLE
SQUARED SQUARE
TWO JOINED SQUARES
TRIANGLE WITH DOT ABOVE
TRIANGLE WITH UNDERBAR
S IN TRIANGLE
TRIANGLE WITH SERIFS AT BOTTOM
RIGHT TRIANGLE ABOVE LEFT TRIANGLE
LEFT TRIANGLE BESIDE VERTICAL BAR
VERTICAL BAR BESIDE RIGHT TRIANGLE
BOWTIE WITH LEFT HALF BLACK
BOWTIE WITH RIGHT HALF BLACK
BLACK BOWTIE
TIMES WITH LEFT HALF BLACK
TIMES WITH RIGHT HALF BLACK
WHITE HOURGLASS
BLACK HOURGLASS
LEFT WIGGLY FENCE
RIGHT WIGGLY FENCE
LEFT DOUBLE WIGGLY FENCE
RIGHT DOUBLE WIGGLY FENCE
INCOMPLETE INFINITY
TIE OVER INFINITY
INFINITY NEGATED WITH VERTICAL BAR
DOUBLE-ENDED MULTIMAP
SQUARE WITH CONTOURED OUTLINE
INCREASES AS
SHUFFLE PRODUCT
EQUALS SIGN AND SLANTED PARALLEL
EQUALS SIGN AND SLANTED PARALLEL WITH TILDE ABOVE
IDENTICAL TO AND SLANTED PARALLEL
GLEICH STARK
THERMODYNAMIC
DOWN-POINTING TRIANGLE WITH LEFT HALF BLACK
DOWN-POINTING TRIANGLE WITH RIGHT HALF BLACK
BLACK DIAMOND WITH DOWN ARROW
BLACK LOZENGE
WHITE CIRCLE WITH DOWN ARROW
BLACK CIRCLE WITH DOWN ARROW
ERROR-BARRED WHITE SQUARE
ERROR-BARRED BLACK SQUARE
ERROR-BARRED WHITE DIAMOND
ERROR-BARRED BLACK DIAMOND
ERROR-BARRED WHITE CIRCLE
ERROR-BARRED BLACK CIRCLE
RULE-DELAYED
REVERSE SOLIDUS OPERATOR
SOLIDUS WITH OVERBAR
REVERSE SOLIDUS WITH HORIZONTAL STROKE
BIG SOLIDUS
BIG REVERSE SOLIDUS
DOUBLE PLUS
TRIPLE PLUS
LEFT-POINTING CURVED ANGLE BRACKET
RIGHT-POINTING CURVED ANGLE BRACKET
TINY
MINY
N-ARY CIRCLED DOT OPERATOR
N-ARY CIRCLED PLUS OPERATOR
N-ARY CIRCLED TIMES OPERATOR
N-ARY UNION OPERATOR WITH DOT
N-ARY UNION OPERATOR WITH PLUS
N-ARY SQUARE INTERSECTION OPERATOR
N-ARY SQUARE UNION OPERATOR
TWO LOGICAL AND OPERATOR
TWO LOGICAL OR OPERATOR
N-ARY TIMES OPERATOR
MODULO TWO SUM
SUMMATION WITH INTEGRAL
QUADRUPLE INTEGRAL OPERATOR
FINITE PART INTEGRAL
INTEGRAL WITH DOUBLE STROKE
INTEGRAL AVERAGE WITH SLASH
CIRCULATION FUNCTION
ANTICLOCKWISE INTEGRATION
LINE INTEGRATION WITH RECTANGULAR PATH AROUND POLE
LINE INTEGRATION WITH SEMICIRCULAR PATH AROUND POLE
LINE INTEGRATION NOT INCLUDING THE POLE
INTEGRAL AROUND A POINT OPERATOR
QUATERNION INTEGRAL OPERATOR
INTEGRAL WITH LEFTWARDS ARROW WITH HOOK
INTEGRAL WITH TIMES SIGN
INTEGRAL WITH INTERSECTION
INTEGRAL WITH UNION
INTEGRAL WITH OVERBAR
INTEGRAL WITH UNDERBAR
JOIN
LARGE LEFT TRIANGLE OPERATOR
Z NOTATION SCHEMA COMPOSITION
Z NOTATION SCHEMA PIPING
Z NOTATION SCHEMA PROJECTION
PLUS SIGN WITH SMALL CIRCLE ABOVE
PLUS SIGN WITH CIRCUMFLEX ACCENT ABOVE
PLUS SIGN WITH TILDE ABOVE
PLUS SIGN WITH DOT BELOW
PLUS SIGN WITH TILDE BELOW
PLUS SIGN WITH SUBSCRIPT TWO
PLUS SIGN WITH BLACK TRIANGLE
MINUS SIGN WITH COMMA ABOVE
MINUS SIGN WITH DOT BELOW
MINUS SIGN WITH FALLING DOTS
MINUS SIGN WITH RISING DOTS
PLUS SIGN IN LEFT HALF CIRCLE
PLUS SIGN IN RIGHT HALF CIRCLE
VECTOR OR CROSS PRODUCT
MULTIPLICATION SIGN WITH DOT ABOVE
MULTIPLICATION SIGN WITH UNDERBAR
SEMIDIRECT PRODUCT WITH BOTTOM CLOSED
SMASH PRODUCT
MULTIPLICATION SIGN IN LEFT HALF CIRCLE
MULTIPLICATION SIGN IN RIGHT HALF CIRCLE
CIRCLED MULTIPLICATION SIGN WITH CIRCUMFLEX ACCENT
MULTIPLICATION SIGN IN DOUBLE CIRCLE
CIRCLED DIVISION SIGN
PLUS SIGN IN TRIANGLE
MINUS SIGN IN TRIANGLE
MULTIPLICATION SIGN IN TRIANGLE
INTERIOR PRODUCT
RIGHTHAND INTERIOR PRODUCT
Z NOTATION RELATIONAL COMPOSITION
AMALGAMATION OR COPRODUCT
INTERSECTION WITH DOT
UNION WITH MINUS SIGN
UNION WITH OVERBAR
INTERSECTION WITH OVERBAR
INTERSECTION WITH LOGICAL AND
UNION WITH LOGICAL OR
UNION ABOVE INTERSECTION
INTERSECTION ABOVE UNION
UNION ABOVE BAR ABOVE INTERSECTION
INTERSECTION ABOVE BAR ABOVE UNION
UNION BESIDE AND JOINED WITH UNION
INTERSECTION BESIDE AND JOINED WITH INTERSECTION
CLOSED UNION WITH SERIFS
CLOSED INTERSECTION WITH SERIFS
DOUBLE SQUARE INTERSECTION
DOUBLE SQUARE UNION
CLOSED UNION WITH SERIFS AND SMASH PRODUCT
LOGICAL AND WITH DOT ABOVE
LOGICAL OR WITH DOT ABOVE
DOUBLE LOGICAL AND
DOUBLE LOGICAL OR
TWO INTERSECTING LOGICAL AND
TWO INTERSECTING LOGICAL OR
SLOPING LARGE OR
SLOPING LARGE AND
LOGICAL OR OVERLAPPING LOGICAL AND
LOGICAL AND WITH MIDDLE STEM
LOGICAL OR WITH MIDDLE STEM
LOGICAL AND WITH HORIZONTAL DASH
LOGICAL OR WITH HORIZONTAL DASH
LOGICAL AND WITH DOUBLE OVERBAR
LOGICAL AND WITH UNDERBAR
LOGICAL AND WITH DOUBLE UNDERBAR
SMALL VEE WITH UNDERBAR
LOGICAL OR WITH DOUBLE OVERBAR
LOGICAL OR WITH DOUBLE UNDERBAR
Z NOTATION DOMAIN ANTIRESTRICTION
Z NOTATION RANGE ANTIRESTRICTION
EQUALS SIGN WITH DOT BELOW
IDENTICAL WITH DOT ABOVE
TRIPLE HORIZONTAL BAR WITH DOUBLE VERTICAL STROKE
TRIPLE HORIZONTAL BAR WITH TRIPLE VERTICAL STROKE
TILDE OPERATOR WITH DOT ABOVE
TILDE OPERATOR WITH RISING DOTS
SIMILAR MINUS SIMILAR
CONGRUENT WITH DOT ABOVE
EQUALS WITH ASTERISK
ALMOST EQUAL TO WITH CIRCUMFLEX ACCENT
APPROXIMATELY EQUAL OR EQUAL TO
EQUALS SIGN ABOVE PLUS SIGN
PLUS SIGN ABOVE EQUALS SIGN
EQUALS SIGN ABOVE TILDE OPERATOR
DOUBLE COLON EQUAL
TWO CONSECUTIVE EQUALS SIGNS
THREE CONSECUTIVE EQUALS SIGNS
EQUALS SIGN WITH TWO DOTS ABOVE AND TWO DOTS BELOW
EQUIVALENT WITH FOUR DOTS ABOVE
LESS-THAN WITH CIRCLE INSIDE
GREATER-THAN WITH CIRCLE INSIDE
LESS-THAN WITH QUESTION MARK ABOVE
GREATER-THAN WITH QUESTION MARK ABOVE
LESS-THAN OR SLANTED EQUAL TO
GREATER-THAN OR SLANTED EQUAL TO
LESS-THAN OR SLANTED EQUAL TO WITH DOT INSIDE
GREATER-THAN OR SLANTED EQUAL TO WITH DOT INSIDE
LESS-THAN OR SLANTED EQUAL TO WITH DOT ABOVE
GREATER-THAN OR SLANTED EQUAL TO WITH DOT ABOVE
LESS-THAN OR SLANTED EQUAL TO WITH DOT ABOVE RIGHT
GREATER-THAN OR SLANTED EQUAL TO WITH DOT ABOVE LEFT
LESS-THAN OR APPROXIMATE
GREATER-THAN OR APPROXIMATE
LESS-THAN AND SINGLE-LINE NOT EQUAL TO
GREATER-THAN AND SINGLE-LINE NOT EQUAL TO
LESS-THAN AND NOT APPROXIMATE
GREATER-THAN AND NOT APPROXIMATE
LESS-THAN ABOVE DOUBLE-LINE EQUAL ABOVE GREATER-THAN
GREATER-THAN ABOVE DOUBLE-LINE EQUAL ABOVE LESS-THAN
LESS-THAN ABOVE SIMILAR OR EQUAL
GREATER-THAN ABOVE SIMILAR OR EQUAL
LESS-THAN ABOVE SIMILAR ABOVE GREATER-THAN
GREATER-THAN ABOVE SIMILAR ABOVE LESS-THAN
LESS-THAN ABOVE GREATER-THAN ABOVE DOUBLE-LINE EQUAL
GREATER-THAN ABOVE LESS-THAN ABOVE DOUBLE-LINE EQUAL
LESS-THAN ABOVE SLANTED EQUAL ABOVE GREATER-THAN ABOVE SLANTED EQUAL
GREATER-THAN ABOVE SLANTED EQUAL ABOVE LESS-THAN ABOVE SLANTED EQUAL
SLANTED EQUAL TO OR LESS-THAN
SLANTED EQUAL TO OR GREATER-THAN
SLANTED EQUAL TO OR LESS-THAN WITH DOT INSIDE
SLANTED EQUAL TO OR GREATER-THAN WITH DOT INSIDE
DOUBLE-LINE EQUAL TO OR LESS-THAN
DOUBLE-LINE EQUAL TO OR GREATER-THAN
DOUBLE-LINE SLANTED EQUAL TO OR LESS-THAN
DOUBLE-LINE SLANTED EQUAL TO OR GREATER-THAN
SIMILAR OR LESS-THAN
SIMILAR OR GREATER-THAN
SIMILAR ABOVE LESS-THAN ABOVE EQUALS SIGN
SIMILAR ABOVE GREATER-THAN ABOVE EQUALS SIGN
DOUBLE NESTED LESS-THAN
DOUBLE NESTED GREATER-THAN
DOUBLE NESTED LESS-THAN WITH UNDERBAR
GREATER-THAN OVERLAPPING LESS-THAN
GREATER-THAN BESIDE LESS-THAN
LESS-THAN CLOSED BY CURVE
GREATER-THAN CLOSED BY CURVE
LESS-THAN CLOSED BY CURVE ABOVE SLANTED EQUAL
GREATER-THAN CLOSED BY CURVE ABOVE SLANTED EQUAL
SMALLER THAN
LARGER THAN
SMALLER THAN OR EQUAL TO
LARGER THAN OR EQUAL TO
EQUALS SIGN WITH BUMPY ABOVE
PRECEDES ABOVE SINGLE-LINE EQUALS SIGN
SUCCEEDS ABOVE SINGLE-LINE EQUALS SIGN
PRECEDES ABOVE SINGLE-LINE NOT EQUAL TO
SUCCEEDS ABOVE SINGLE-LINE NOT EQUAL TO
PRECEDES ABOVE EQUALS SIGN
SUCCEEDS ABOVE EQUALS SIGN
PRECEDES ABOVE NOT EQUAL TO
SUCCEEDS ABOVE NOT EQUAL TO
PRECEDES ABOVE ALMOST EQUAL TO
SUCCEEDS ABOVE ALMOST EQUAL TO
PRECEDES ABOVE NOT ALMOST EQUAL TO
SUCCEEDS ABOVE NOT ALMOST EQUAL TO
DOUBLE PRECEDES
DOUBLE SUCCEEDS
SUBSET WITH DOT
SUPERSET WITH DOT
SUBSET WITH PLUS SIGN BELOW
SUPERSET WITH PLUS SIGN BELOW
SUBSET WITH MULTIPLICATION SIGN BELOW
SUPERSET WITH MULTIPLICATION SIGN BELOW
SUBSET OF OR EQUAL TO WITH DOT ABOVE
SUPERSET OF OR EQUAL TO WITH DOT ABOVE
SUBSET OF ABOVE EQUALS SIGN
SUPERSET OF ABOVE EQUALS SIGN
SUBSET OF ABOVE TILDE OPERATOR
SUPERSET OF ABOVE TILDE OPERATOR
SUBSET OF ABOVE ALMOST EQUAL TO
SUPERSET OF ABOVE ALMOST EQUAL TO
SUBSET OF ABOVE NOT EQUAL TO
SUPERSET OF ABOVE NOT EQUAL TO
SQUARE LEFT OPEN BOX OPERATOR
SQUARE RIGHT OPEN BOX OPERATOR
CLOSED SUBSET
CLOSED SUPERSET
CLOSED SUBSET OR EQUAL TO
CLOSED SUPERSET OR EQUAL TO
SUBSET ABOVE SUPERSET
SUPERSET ABOVE SUBSET
SUBSET ABOVE SUBSET
SUPERSET ABOVE SUPERSET
SUPERSET BESIDE SUBSET
SUPERSET BESIDE AND JOINED BY DASH WITH SUBSET
ELEMENT OF OPENING DOWNWARDS
PITCHFORK WITH TEE TOP
TRANSVERSAL INTERSECTION
FORKING
NONFORKING
SHORT LEFT TACK
SHORT DOWN TACK
SHORT UP TACK
PERPENDICULAR WITH S
VERTICAL BAR TRIPLE RIGHT TURNSTILE
DOUBLE VERTICAL BAR LEFT TURNSTILE
VERTICAL BAR DOUBLE LEFT TURNSTILE
DOUBLE VERTICAL BAR DOUBLE LEFT TURNSTILE
LONG DASH FROM LEFT MEMBER OF DOUBLE VERTICAL
SHORT DOWN TACK WITH OVERBAR
SHORT UP TACK WITH UNDERBAR
SHORT UP TACK ABOVE SHORT DOWN TACK
DOUBLE DOWN TACK
DOUBLE UP TACK
DOUBLE STROKE NOT SIGN
REVERSED DOUBLE STROKE NOT SIGN
DOES NOT DIVIDE WITH REVERSED NEGATION SLASH
VERTICAL LINE WITH CIRCLE ABOVE
VERTICAL LINE WITH CIRCLE BELOW
DOWN TACK WITH CIRCLE BELOW
PARALLEL WITH HORIZONTAL STROKE
PARALLEL WITH TILDE OPERATOR
TRIPLE VERTICAL BAR BINARY RELATION
TRIPLE VERTICAL BAR WITH HORIZONTAL STROKE
TRIPLE COLON OPERATOR
TRIPLE NESTED LESS-THAN
TRIPLE NESTED GREATER-THAN
DOUBLE-LINE SLANTED LESS-THAN OR EQUAL TO
DOUBLE-LINE SLANTED GREATER-THAN OR EQUAL TO
TRIPLE SOLIDUS BINARY RELATION
LARGE TRIPLE VERTICAL BAR OPERATOR
DOUBLE SOLIDUS OPERATOR
WHITE VERTICAL BAR
N-ARY WHITE VERTICAL BAR
NORTH EAST WHITE ARROW
NORTH WEST WHITE ARROW
SOUTH EAST WHITE ARROW
SOUTH WEST WHITE ARROW
LEFT RIGHT WHITE ARROW
LEFTWARDS BLACK ARROW
UPWARDS BLACK ARROW
DOWNWARDS BLACK ARROW
NORTH EAST BLACK ARROW
NORTH WEST BLACK ARROW
SOUTH EAST BLACK ARROW
SOUTH WEST BLACK ARROW
LEFT RIGHT BLACK ARROW
UP DOWN BLACK ARROW
RIGHTWARDS ARROW WITH TIP DOWNWARDS
RIGHTWARDS ARROW WITH TIP UPWARDS
LEFTWARDS ARROW WITH TIP DOWNWARDS
LEFTWARDS ARROW WITH TIP UPWARDS
SQUARE WITH TOP HALF BLACK
SQUARE WITH BOTTOM HALF BLACK
SQUARE WITH UPPER RIGHT DIAGONAL HALF BLACK
SQUARE WITH LOWER LEFT DIAGONAL HALF BLACK
DIAMOND WITH LEFT HALF BLACK
DIAMOND WITH RIGHT HALF BLACK
DIAMOND WITH TOP HALF BLACK
DIAMOND WITH BOTTOM HALF BLACK
DOTTED SQUARE
BLACK LARGE SQUARE
WHITE LARGE SQUARE
BLACK VERY SMALL SQUARE
WHITE VERY SMALL SQUARE
BLACK PENTAGON
WHITE PENTAGON
WHITE HEXAGON
BLACK HEXAGON
HORIZONTAL BLACK HEXAGON
BLACK LARGE CIRCLE
BLACK MEDIUM DIAMOND
WHITE MEDIUM DIAMOND
BLACK MEDIUM LOZENGE
WHITE MEDIUM LOZENGE
BLACK SMALL DIAMOND
BLACK SMALL LOZENGE
WHITE SMALL LOZENGE
BLACK HORIZONTAL ELLIPSE
WHITE HORIZONTAL ELLIPSE
BLACK VERTICAL ELLIPSE
WHITE VERTICAL ELLIPSE
LEFT ARROW WITH SMALL CIRCLE
THREE LEFTWARDS ARROWS
LEFT ARROW WITH CIRCLED PLUS
LONG LEFTWARDS SQUIGGLE ARROW
LEFTWARDS TWO-HEADED ARROW WITH VERTICAL STROKE
LEFTWARDS TWO-HEADED ARROW WITH DOUBLE VERTICAL STROKE
LEFTWARDS TWO-HEADED ARROW FROM BAR
LEFTWARDS TWO-HEADED TRIPLE DASH ARROW
LEFTWARDS ARROW WITH DOTTED STEM
LEFTWARDS ARROW WITH TAIL WITH VERTICAL STROKE
LEFTWARDS ARROW WITH TAIL WITH DOUBLE VERTICAL STROKE
LEFTWARDS TWO-HEADED ARROW WITH TAIL
LEFTWARDS TWO-HEADED ARROW WITH TAIL WITH VERTICAL STROKE
LEFTWARDS TWO-HEADED ARROW WITH TAIL WITH DOUBLE VERTICAL STROKE
LEFTWARDS ARROW THROUGH X
WAVE ARROW POINTING DIRECTLY LEFT
EQUALS SIGN ABOVE LEFTWARDS ARROW
REVERSE TILDE OPERATOR ABOVE LEFTWARDS ARROW
LEFTWARDS ARROW ABOVE REVERSE ALMOST EQUAL TO
RIGHTWARDS ARROW THROUGH GREATER-THAN
RIGHTWARDS ARROW THROUGH SUPERSET
LEFTWARDS QUADRUPLE ARROW
RIGHTWARDS QUADRUPLE ARROW
REVERSE TILDE OPERATOR ABOVE RIGHTWARDS ARROW
RIGHTWARDS ARROW ABOVE REVERSE ALMOST EQUAL TO
TILDE OPERATOR ABOVE LEFTWARDS ARROW
LEFTWARDS ARROW ABOVE ALMOST EQUAL TO
LEFTWARDS ARROW ABOVE REVERSE TILDE OPERATOR
RIGHTWARDS ARROW ABOVE REVERSE TILDE OPERATOR
DOWNWARDS TRIANGLE-HEADED ZIGZAG ARROW
SHORT SLANTED NORTH ARROW
SHORT BACKSLANTED SOUTH ARROW
WHITE MEDIUM STAR
BLACK SMALL STAR
WHITE SMALL STAR
BLACK RIGHT-POINTING PENTAGON
WHITE RIGHT-POINTING PENTAGON
HEAVY LARGE CIRCLE
HEAVY OVAL WITH OVAL INSIDE
HEAVY CIRCLE WITH CIRCLE INSIDE
HEAVY CIRCLE
HEAVY CIRCLED SALTIRE
SLANTED NORTH ARROW WITH HOOKED HEAD
BACKSLANTED SOUTH ARROW WITH HOOKED TAIL
SLANTED NORTH ARROW WITH HORIZONTAL TAIL
BACKSLANTED SOUTH ARROW WITH HORIZONTAL TAIL
BENT ARROW POINTING DOWNWARDS THEN NORTH EAST
SHORT BENT ARROW POINTING DOWNWARDS THEN NORTH EAST
LEFTWARDS TRIANGLE-HEADED ARROW
UPWARDS TRIANGLE-HEADED ARROW
RIGHTWARDS TRIANGLE-HEADED ARROW
DOWNWARDS TRIANGLE-HEADED ARROW
LEFT RIGHT TRIANGLE-HEADED ARROW
UP DOWN TRIANGLE-HEADED ARROW
NORTH WEST TRIANGLE-HEADED ARROW
NORTH EAST TRIANGLE-HEADED ARROW
SOUTH EAST TRIANGLE-HEADED ARROW
SOUTH WEST TRIANGLE-HEADED ARROW
LEFTWARDS TRIANGLE-HEADED DASHED ARROW
UPWARDS TRIANGLE-HEADED DASHED ARROW
RIGHTWARDS TRIANGLE-HEADED DASHED ARROW
DOWNWARDS TRIANGLE-HEADED DASHED ARROW
CLOCKWISE TRIANGLE-HEADED OPEN CIRCLE ARROW
ANTICLOCKWISE TRIANGLE-HEADED OPEN CIRCLE ARROW
LEFTWARDS TRIANGLE-HEADED ARROW TO BAR
UPWARDS TRIANGLE-HEADED ARROW TO BAR
RIGHTWARDS TRIANGLE-HEADED ARROW TO BAR
DOWNWARDS TRIANGLE-HEADED ARROW TO BAR"

def symbolsC : String := "@2B76
NORTH WEST TRIANGLE-HEADED ARROW TO BAR
NORTH EAST TRIANGLE-HEADED ARROW TO BAR
SOUTH EAST TRIANGLE-HEADED ARROW TO BAR
SOUTH WEST TRIANGLE-HEADED ARROW TO BAR
LEFTWARDS TRIANGLE-HEADED ARROW WITH DOUBLE HORIZONTAL STROKE
UPWARDS TRIANGLE-HEADED ARROW WITH DOUBLE HORIZONTAL STROKE
RIGHTWARDS TRIANGLE-HEADED ARROW WITH DOUBLE HORIZONTAL STROKE
DOWNWARDS TRIANGLE-HEADED ARROW WITH DOUBLE HORIZONTAL STROKE
HORIZONTAL TAB KEY
VERTICAL TAB KEY
LEFTWARDS TRIANGLE-HEADED ARROW OVER RIGHTWARDS TRIANGLE-HEADED ARROW
UPWARDS TRIANGLE-HEADED ARROW LEFTWARDS OF DOWNWARDS TRIANGLE-HEADED ARROW
RIGHTWARDS TRIANGLE-HEADED ARROW OVER LEFTWARDS TRIANGLE-HEADED ARROW
DOWNWARDS TRIANGLE-HEADED ARROW LEFTWARDS OF UPWARDS TRIANGLE-HEADED ARROW
LEFTWARDS TRIANGLE-HEADED PAIRED ARROWS
UPWARDS TRIANGLE-HEADED PAIRED ARROWS
RIGHTWARDS TRIANGLE-HEADED PAIRED ARROWS
DOWNWARDS TRIANGLE-HEADED PAIRED ARROWS
LEFTWARDS BLACK CIRCLED WHITE ARROW
UPWARDS BLACK CIRCLED WHITE ARROW
RIGHTWARDS BLACK CIRCLED WHITE ARROW
DOWNWARDS BLACK CIRCLED WHITE ARROW
ANTICLOCKWISE TRIANGLE-HEADED RIGHT U-SHAPED ARROW
ANTICLOCKWISE TRIANGLE-HEADED BOTTOM U-SHAPED ARROW
ANTICLOCKWISE TRIANGLE-HEADED LEFT U-SHAPED ARROW
ANTICLOCKWISE TRIANGLE-HEADED TOP U-SHAPED ARROW
RETURN LEFT
RETURN RIGHT
NEWLINE LEFT
NEWLINE RIGHT
FOUR CORNER ARROWS CIRCLING ANTICLOCKWISE
RIGHTWARDS BLACK ARROW
@2B97
SYMBOL FOR TYPE A ELECTRONICS
THREE-D TOP-LIGHTED LEFTWARDS EQUILATERAL ARROWHEAD
THREE-D RIGHT-LIGHTED UPWARDS EQUILATERAL ARROWHEAD
THREE-D TOP-LIGHTED RIGHTWARDS EQUILATERAL ARROWHEAD
THREE-D LEFT-LIGHTED DOWNWARDS EQUILATERAL ARROWHEAD
BLACK LEFTWARDS EQUILATERAL ARROWHEAD
BLACK UPWARDS EQUILATERAL ARROWHEAD
BLACK RIGHTWARDS EQUILATERAL ARROWHEAD
BLACK DOWNWARDS EQUILATERAL ARROWHEAD
DOWNWARDS TRIANGLE-HEADED ARROW WITH LONG TIP LEFTWARDS
DOWNWARDS TRIANGLE-HEADED ARROW WITH LONG TIP RIGHTWARDS
UPWARDS TRIANGLE-HEADED ARROW WITH LONG TIP LEFTWARDS
UPWARDS TRIANGLE-HEADED ARROW WITH LONG TIP RIGHTWARDS
LEFTWARDS TRIANGLE-HEADED ARROW WITH LONG TIP UPWARDS
RIGHTWARDS TRIANGLE-HEADED ARROW WITH LONG TIP UPWARDS
LEFTWARDS TRIANGLE-HEADED ARROW WITH LONG TIP DOWNWARDS
RIGHTWARDS TRIANGLE-HEADED ARROW WITH LONG TIP DOWNWARDS
BLACK CURVED DOWNWARDS AND LEFTWARDS ARROW
BLACK CURVED DOWNWARDS AND RIGHTWARDS ARROW
BLACK CURVED UPWARDS AND LEFTWARDS ARROW
BLACK CURVED UPWARDS AND RIGHTWARDS ARROW
BLACK CURVED LEFTWARDS AND UPWARDS ARROW
BLACK CURVED RIGHTWARDS AND UPWARDS ARROW
BLACK CURVED LEFTWARDS AND DOWNWARDS ARROW
BLACK CURVED RIGHTWARDS AND DOWNWARDS ARROW
RIBBON ARROW DOWN LEFT
RIBBON ARROW DOWN RIGHT
RIBBON ARROW UP LEFT
RIBBON ARROW UP RIGHT
RIBBON ARROW LEFT UP
RIBBON ARROW RIGHT UP
RIBBON ARROW LEFT DOWN
RIBBON ARROW RIGHT DOWN
UPWARDS WHITE ARROW FROM BAR WITH HORIZONTAL BAR
UP ARROWHEAD IN A RECTANGLE BOX
OVERLAPPING WHITE SQUARES
OVERLAPPING WHITE AND BLACK SQUARES
OVERLAPPING BLACK SQUARES
BALLOT BOX WITH LIGHT X
CIRCLED X
CIRCLED BOLD X
BLACK SQUARE CENTRED
BLACK DIAMOND CENTRED
TURNED BLACK PENTAGON
HORIZONTAL BLACK OCTAGON
BLACK OCTAGON
BLACK MEDIUM UP-POINTING TRIANGLE CENTRED
BLACK MEDIUM DOWN-POINTING TRIANGLE CENTRED
BLACK MEDIUM LEFT-POINTING TRIANGLE CENTRED
BLACK MEDIUM RIGHT-POINTING TRIANGLE CENTRED
NEPTUNE FORM TWO
TOP HALF BLACK CIRCLE
BOTTOM HALF BLACK CIRCLE
LIGHT FOUR POINTED BLACK CUSP
ROTATED LIGHT FOUR POINTED BLACK CUSP
WHITE FOUR POINTED CUSP
ROTATED WHITE FOUR POINTED CUSP
SQUARE POSITION INDICATOR
UNCERTAINTY SIGN
GROUP MARK
PLUTO FORM TWO
PLUTO FORM THREE
PLUTO FORM FOUR
PLUTO FORM FIVE
TRANSPLUTO
PROSERPINA
ASTRAEA
HYGIEA
PHOLUS
NESSUS
WHITE MOON SELENA
BLACK DIAMOND ON CROSS
TRUE LIGHT MOON ARTA
CUPIDO
HADES
ZEUS
KRONOS
APOLLON
ADMETOS
VULCANUS
POSEIDON
LEFT HALF BLACK STAR
RIGHT HALF BLACK STAR
STAR WITH LEFT HALF BLACK
STAR WITH RIGHT HALF BLACK
LEFTWARDS TWO-HEADED ARROW WITH TRIANGLE ARROWHEADS
UPWARDS TWO-HEADED ARROW WITH TRIANGLE ARROWHEADS
RIGHTWARDS TWO-HEADED ARROW WITH TRIANGLE ARROWHEADS
DOWNWARDS TWO-HEADED ARROW WITH TRIANGLE ARROWHEADS
ERIS FORM ONE
ERIS FORM TWO
SEDNA
RUSSIAN ASTROLOGICAL SYMBOL VIGINTILE
RUSSIAN ASTROLOGICAL SYMBOL NOVILE
RUSSIAN ASTROLOGICAL SYMBOL QUINTILE
RUSSIAN ASTROLOGICAL SYMBOL BINOVILE
RUSSIAN ASTROLOGICAL SYMBOL SENTAGON
RUSSIAN ASTROLOGICAL SYMBOL TREDECILE
EQUALS SIGN WITH INFINITY BELOW
UNITED SYMBOL
SEPARATED SYMBOL
DOUBLED SYMBOL
PASSED SYMBOL
REVERSED RIGHT ANGLE
HELLSCHREIBER PAUSE SYMBOL
GLAGOLITIC CAPITAL LETTER AZU
GLAGOLITIC CAPITAL LETTER BUKY
GLAGOLITIC CAPITAL LETTER VEDE
GLAGOLITIC CAPITAL LETTER GLAGOLI
GLAGOLITIC CAPITAL LETTER DOBRO
GLAGOLITIC CAPITAL LETTER YESTU
GLAGOLITIC CAPITAL LETTER ZHIVETE
GLAGOLITIC CAPITAL LETTER DZELO
GLAGOLITIC CAPITAL LETTER ZEMLJA
GLAGOLITIC CAPITAL LETTER IZHE
GLAGOLITIC CAPITAL LETTER INITIAL IZHE
GLAGOLITIC CAPITAL LETTER I
GLAGOLITIC CAPITAL LETTER DJERVI
GLAGOLITIC CAPITAL LETTER KAKO
GLAGOLITIC CAPITAL LETTER LJUDIJE
GLAGOLITIC CAPITAL LETTER MYSLITE
GLAGOLITIC CAPITAL LETTER NASHI
GLAGOLITIC CAPITAL LETTER ONU
GLAGOLITIC CAPITAL LETTER POKOJI
GLAGOLITIC CAPITAL LETTER RITSI
GLAGOLITIC CAPITAL LETTER SLOVO
GLAGOLITIC CAPITAL LETTER TVRIDO
GLAGOLITIC CAPITAL LETTER UKU
GLAGOLITIC CAPITAL LETTER FRITU
GLAGOLITIC CAPITAL LETTER HERU
GLAGOLITIC CAPITAL LETTER OTU
GLAGOLITIC CAPITAL LETTER PE
GLAGOLITIC CAPITAL LETTER SHTA
GLAGOLITIC CAPITAL LETTER TSI
GLAGOLITIC CAPITAL LETTER CHRIVI
GLAGOLITIC CAPITAL LETTER SHA
GLAGOLITIC CAPITAL LETTER YERU
GLAGOLITIC CAPITAL LETTER YERI
GLAGOLITIC CAPITAL LETTER YATI
GLAGOLITIC CAPITAL LETTER SPIDERY HA
GLAGOLITIC CAPITAL LETTER YU
GLAGOLITIC CAPITAL LETTER SMALL YUS
GLAGOLITIC CAPITAL LETTER SMALL YUS WITH TAIL
GLAGOLITIC CAPITAL LETTER YO
GLAGOLITIC CAPITAL LETTER IOTATED SMALL YUS
GLAGOLITIC CAPITAL LETTER BIG YUS
GLAGOLITIC CAPITAL LETTER IOTATED BIG YUS
GLAGOLITIC CAPITAL LETTER FITA
GLAGOLITIC CAPITAL LETTER IZHITSA
GLAGOLITIC CAPITAL LETTER SHTAPIC
GLAGOLITIC CAPITAL LETTER TROKUTASTI A
GLAGOLITIC CAPITAL LETTER LATINATE MYSLITE
GLAGOLITIC CAPITAL LETTER CAUDATE CHRIVI
GLAGOLITIC SMALL LETTER AZU
GLAGOLITIC SMALL LETTER BUKY
GLAGOLITIC SMALL LETTER VEDE
GLAGOLITIC SMALL LETTER GLAGOLI
GLAGOLITIC SMALL LETTER DOBRO
GLAGOLITIC SMALL LETTER YESTU
GLAGOLITIC SMALL LETTER ZHIVETE
GLAGOLITIC SMALL LETTER DZELO
GLAGOLITIC SMALL LETTER ZEMLJA
GLAGOLITIC SMALL LETTER IZHE
GLAGOLITIC SMALL LETTER INITIAL IZHE
GLAGOLITIC SMALL LETTER I
GLAGOLITIC SMALL LETTER DJERVI
GLAGOLITIC SMALL LETTER KAKO
GLAGOLITIC SMALL LETTER LJUDIJE
GLAGOLITIC SMALL LETTER MYSLITE
GLAGOLITIC SMALL LETTER NASHI
GLAGOLITIC SMALL LETTER ONU
GLAGOLITIC SMALL LETTER POKOJI
GLAGOLITIC SMALL LETTER RITSI
GLAGOLITIC SMALL LETTER SLOVO
GLAGOLITIC SMALL LETTER TVRIDO
GLAGOLITIC SMALL LETTER UKU
GLAGOLITIC SMALL LETTER FRITU
GLAGOLITIC SMALL LETTER HERU
GLAGOLITIC SMALL LETTER OTU
GLAGOLITIC SMALL LETTER PE
GLAGOLITIC SMALL LETTER SHTA
GLAGOLITIC SMALL LETTER TSI
GLAGOLITIC SMALL LETTER CHRIVI
GLAGOLITIC SMALL LETTER SHA
GLAGOLITIC SMALL LETTER YERU
GLAGOLITIC SMALL LETTER YERI
GLAGOLITIC SMALL LETTER YATI
GLAGOLITIC SMALL LETTER SPIDERY HA
GLAGOLITIC SMALL LETTER YU
GLAGOLITIC SMALL LETTER SMALL YUS
GLAGOLITIC SMALL LETTER SMALL YUS WITH TAIL
GLAGOLITIC SMALL LETTER YO
GLAGOLITIC SMALL LETTER IOTATED SMALL YUS
GLAGOLITIC SMALL LETTER BIG YUS
GLAGOLITIC SMALL LETTER IOTATED BIG YUS
GLAGOLITIC SMALL LETTER FITA
GLAGOLITIC SMALL LETTER IZHITSA
GLAGOLITIC SMALL LETTER SHTAPIC
GLAGOLITIC SMALL LETTER TROKUTASTI A
GLAGOLITIC SMALL LETTER LATINATE MYSLITE
GLAGOLITIC SMALL LETTER CAUDATE CHRIVI
LATIN CAPITAL LETTER L WITH DOUBLE BAR
LATIN SMALL LETTER L WITH DOUBLE BAR
LATIN CAPITAL LETTER L WITH MIDDLE TILDE
LATIN CAPITAL LETTER P WITH STROKE
LATIN CAPITAL LETTER R WITH TAIL
LATIN SMALL LETTER A WITH STROKE
LATIN SMALL LETTER T WITH DIAGONAL STROKE
LATIN CAPITAL LETTER H WITH DESCENDER
LATIN SMALL LETTER H WITH DESCENDER
LATIN CAPITAL LETTER K WITH DESCENDER
LATIN SMALL LETTER K WITH DESCENDER
LATIN CAPITAL LETTER Z WITH DESCENDER
LATIN SMALL LETTER Z WITH DESCENDER
LATIN CAPITAL LETTER ALPHA
LATIN CAPITAL LETTER M WITH HOOK
LATIN CAPITAL LETTER TURNED A
LATIN CAPITAL LETTER TURNED ALPHA
LATIN SMALL LETTER V WITH RIGHT HOOK
LATIN CAPITAL LETTER W WITH HOOK
LATIN SMALL LETTER W WITH HOOK
LATIN SMALL LETTER V WITH CURL
LATIN CAPITAL LETTER HALF H
LATIN SMALL LETTER HALF H
LATIN SMALL LETTER TAILLESS PHI
LATIN SMALL LETTER E WITH NOTCH
LATIN SMALL LETTER TURNED R WITH TAIL
LATIN SMALL LETTER O WITH LOW RING INSIDE
LATIN LETTER SMALL CAPITAL TURNED E
LATIN SUBSCRIPT SMALL LETTER J
MODIFIER LETTER CAPITAL V
LATIN CAPITAL LETTER S WITH SWASH TAIL
LATIN CAPITAL LETTER Z WITH SWASH TAIL
COPTIC CAPITAL LETTER ALFA
COPTIC SMALL LETTER ALFA
COPTIC CAPITAL LETTER VIDA
COPTIC SMALL LETTER VIDA
COPTIC CAPITAL LETTER GAMMA
COPTIC SMALL LETTER GAMMA
COPTIC CAPITAL LETTER DALDA
COPTIC SMALL LETTER DALDA
COPTIC CAPITAL LETTER EIE
COPTIC SMALL LETTER EIE
COPTIC CAPITAL LETTER SOU
COPTIC SMALL LETTER SOU
COPTIC CAPITAL LETTER ZATA
COPTIC SMALL LETTER ZATA
COPTIC CAPITAL LETTER HATE
COPTIC SMALL LETTER HATE
COPTIC CAPITAL LETTER THETHE
COPTIC SMALL LETTER THETHE
COPTIC CAPITAL LETTER IAUDA
COPTIC SMALL LETTER IAUDA
COPTIC CAPITAL LETTER KAPA
COPTIC SMALL LETTER KAPA
COPTIC CAPITAL LETTER LAULA
COPTIC SMALL LETTER LAULA
COPTIC CAPITAL LETTER MI
COPTIC SMALL LETTER MI
COPTIC CAPITAL LETTER NI
COPTIC SMALL LETTER NI
COPTIC CAPITAL LETTER KSI
COPTIC SMALL LETTER KSI
COPTIC CAPITAL LETTER O
COPTIC SMALL LETTER O
COPTIC CAPITAL LETTER PI
COPTIC SMALL LETTER PI
COPTIC CAPITAL LETTER RO
COPTIC SMALL LETTER RO
COPTIC CAPITAL LETTER SIMA
COPTIC SMALL LETTER SIMA
COPTIC CAPITAL LETTER TAU
COPTIC SMALL LETTER TAU
COPTIC CAPITAL LETTER UA
COPTIC SMALL LETTER UA
COPTIC CAPITAL LETTER FI
COPTIC SMALL LETTER FI
COPTIC CAPITAL LETTER KHI
COPTIC SMALL LETTER KHI
COPTIC CAPITAL LETTER PSI
COPTIC SMALL LETTER PSI
COPTIC CAPITAL LETTER OOU
COPTIC SMALL LETTER OOU
COPTIC CAPITAL LETTER DIALECT-P ALEF
COPTIC SMALL LETTER DIALECT-P ALEF
COPTIC CAPITAL LETTER OLD COPTIC AIN
COPTIC SMALL LETTER OLD COPTIC AIN
COPTIC CAPITAL LETTER CRYPTOGRAMMIC EIE
COPTIC SMALL LETTER CRYPTOGRAMMIC EIE
COPTIC CAPITAL LETTER DIALECT-P KAPA
COPTIC SMALL LETTER DIALECT-P KAPA
COPTIC CAPITAL LETTER DIALECT-P NI
COPTIC SMALL LETTER DIALECT-P NI
COPTIC CAPITAL LETTER CRYPTOGRAMMIC NI
COPTIC SMALL LETTER CRYPTOGRAMMIC NI
COPTIC CAPITAL LETTER OLD COPTIC OOU
COPTIC SMALL LETTER OLD COPTIC OOU
COPTIC CAPITAL LETTER SAMPI
COPTIC SMALL LETTER SAMPI
COPTIC CAPITAL LETTER CROSSED SHEI
COPTIC SMALL LETTER CROSSED SHEI
COPTIC CAPITAL LETTER OLD COPTIC SHEI
COPTIC SMALL LETTER OLD COPTIC SHEI
COPTIC CAPITAL LETTER OLD COPTIC ESH
COPTIC SMALL LETTER OLD COPTIC ESH
COPTIC CAPITAL LETTER AKHMIMIC KHEI
COPTIC SMALL LETTER AKHMIMIC KHEI
COPTIC CAPITAL LETTER DIALECT-P HORI
COPTIC SMALL LETTER DIALECT-P HORI
COPTIC CAPITAL LETTER OLD COPTIC HORI
COPTIC SMALL LETTER OLD COPTIC HORI
COPTIC CAPITAL LETTER OLD COPTIC HA
COPTIC SMALL LETTER OLD COPTIC HA
COPTIC CAPITAL LETTER L-SHAPED HA
COPTIC SMALL LETTER L-SHAPED HA
COPTIC CAPITAL LETTER OLD COPTIC HEI
COPTIC SMALL LETTER OLD COPTIC HEI
COPTIC CAPITAL LETTER OLD COPTIC HAT
COPTIC SMALL LETTER OLD COPTIC HAT
COPTIC CAPITAL LETTER OLD COPTIC GANGIA
COPTIC SMALL LETTER OLD COPTIC GANGIA
COPTIC CAPITAL LETTER OLD COPTIC DJA
COPTIC SMALL LETTER OLD COPTIC DJA
COPTIC CAPITAL LETTER OLD COPTIC SHIMA
COPTIC SMALL LETTER OLD COPTIC SHIMA
COPTIC CAPITAL LETTER OLD NUBIAN SHIMA
COPTIC SMALL LETTER OLD NUBIAN SHIMA
COPTIC CAPITAL LETTER OLD NUBIAN NGI
COPTIC SMALL LETTER OLD NUBIAN NGI
COPTIC CAPITAL LETTER OLD NUBIAN NYI
COPTIC SMALL LETTER OLD NUBIAN NYI
COPTIC CAPITAL LETTER OLD NUBIAN WAU
COPTIC SMALL LETTER OLD NUBIAN WAU
COPTIC SYMBOL KAI
COPTIC SYMBOL MI RO
COPTIC SYMBOL PI RO
COPTIC SYMBOL STAUROS
COPTIC SYMBOL TAU RO
COPTIC SYMBOL KHI RO
COPTIC SYMBOL SHIMA SIMA
COPTIC CAPITAL LETTER CRYPTOGRAMMIC SHEI
COPTIC SMALL LETTER CRYPTOGRAMMIC SHEI
COPTIC CAPITAL LETTER CRYPTOGRAMMIC GANGIA
COPTIC SMALL LETTER CRYPTOGRAMMIC GANGIA
COPTIC COMBINING NI ABOVE
COPTIC COMBINING SPIRITUS ASPER
COPTIC COMBINING SPIRITUS LENIS
COPTIC CAPITAL LETTER BOHAIRIC KHEI
COPTIC SMALL LETTER BOHAIRIC KHEI
@2CF9
COPTIC OLD NUBIAN FULL STOP
COPTIC OLD NUBIAN DIRECT QUESTION MARK
COPTIC OLD NUBIAN INDIRECT QUESTION MARK
COPTIC OLD NUBIAN VERSE DIVIDER
COPTIC FRACTION ONE HALF
COPTIC FULL STOP
COPTIC MORPHOLOGICAL DIVIDER
GEORGIAN SMALL LETTER AN
GEORGIAN SMALL LETTER BAN
GEORGIAN SMALL LETTER GAN
GEORGIAN SMALL LETTER DON
GEORGIAN SMALL LETTER EN
GEORGIAN SMALL LETTER VIN
GEORGIAN SMALL LETTER ZEN
GEORGIAN SMALL LETTER TAN
GEORGIAN SMALL LETTER IN
GEORGIAN SMALL LETTER KAN
GEORGIAN SMALL LETTER LAS
GEORGIAN SMALL LETTER MAN
GEORGIAN SMALL LETTER NAR
GEORGIAN SMALL LETTER ON
GEORGIAN SMALL LETTER PAR
GEORGIAN SMALL LETTER ZHAR
GEORGIAN SMALL LETTER RAE
GEORGIAN SMALL LETTER SAN
GEORGIAN SMALL LETTER TAR
GEORGIAN SMALL LETTER UN
GEORGIAN SMALL LETTER PHAR
GEORGIAN SMALL LETTER KHAR
GEORGIAN SMALL LETTER GHAN
GEORGIAN SMALL LETTER QAR
GEORGIAN SMALL LETTER SHIN
GEORGIAN SMALL LETTER CHIN
GEORGIAN SMALL LETTER CAN
GEORGIAN SMALL LETTER JIL
GEORGIAN SMALL LETTER CIL
GEORGIAN SMALL LETTER CHAR
GEORGIAN SMALL LETTER XAN
GEORGIAN SMALL LETTER JHAN
GEORGIAN SMALL LETTER HAE
GEORGIAN SMALL LETTER HE
GEORGIAN SMALL LETTER HIE
GEORGIAN SMALL LETTER WE
GEORGIAN SMALL LETTER HAR
GEORGIAN SMALL LETTER HOE
@2D27
GEORGIAN SMALL LETTER YN
@2D2D
GEORGIAN SMALL LETTER AEN
@2D30
TIFINAGH LETTER YA
TIFINAGH LETTER YAB
TIFINAGH LETTER YABH
TIFINAGH LETTER YAG
TIFINAGH LETTER YAGHH
TIFINAGH LETTER BERBER ACADEMY YAJ
TIFINAGH LETTER YAJ
TIFINAGH LETTER YAD
TIFINAGH LETTER YADH
TIFINAGH LETTER YADD
TIFINAGH LETTER YADDH
TIFINAGH LETTER YEY
TIFINAGH LETTER YAF
TIFINAGH LETTER YAK
TIFINAGH LETTER TUAREG YAK
TIFINAGH LETTER YAKHH
TIFINAGH LETTER YAH
TIFINAGH LETTER BERBER ACADEMY YAH
TIFINAGH LETTER TUAREG YAH
TIFINAGH LETTER YAHH
TIFINAGH LETTER YAA
TIFINAGH LETTER YAKH
TIFINAGH LETTER TUAREG YAKH
TIFINAGH LETTER YAQ
TIFINAGH LETTER TUAREG YAQ
TIFINAGH LETTER YI
TIFINAGH LETTER YAZH
TIFINAGH LETTER AHAGGAR YAZH
TIFINAGH LETTER TUAREG YAZH
TIFINAGH LETTER YAL
TIFINAGH LETTER YAM
TIFINAGH LETTER YAN
TIFINAGH LETTER TUAREG YAGN
TIFINAGH LETTER TUAREG YANG
TIFINAGH LETTER YAP
TIFINAGH LETTER YU
TIFINAGH LETTER YAR
TIFINAGH LETTER YARR
TIFINAGH LETTER YAGH
TIFINAGH LETTER TUAREG YAGH
TIFINAGH LETTER AYER YAGH
TIFINAGH LETTER YAS
TIFINAGH LETTER YASS
TIFINAGH LETTER YASH
TIFINAGH LETTER YAT
TIFINAGH LETTER YATH
TIFINAGH LETTER YACH
TIFINAGH LETTER YATT
TIFINAGH LETTER YAV
TIFINAGH LETTER YAW
TIFINAGH LETTER YAY
TIFINAGH LETTER YAZ
TIFINAGH LETTER TAWELLEMET YAZ
TIFINAGH LETTER YAZZ
TIFINAGH LETTER YE
TIFINAGH LETTER YO
@2D6F
TIFINAGH MODIFIER LETTER LABIALIZATION MARK
TIFINAGH SEPARATOR MARK
@2D7F
TIFINAGH CONSONANT JOINER
ETHIOPIC SYLLABLE LOA
ETHIOPIC SYLLABLE MOA
ETHIOPIC SYLLABLE ROA
ETHIOPIC SYLLABLE SOA
ETHIOPIC SYLLABLE SHOA
ETHIOPIC SYLLABLE BOA
ETHIOPIC SYLLABLE TOA
ETHIOPIC SYLLABLE COA
ETHIOPIC SYLLABLE NOA
ETHIOPIC SYLLABLE NYOA
ETHIOPIC SYLLABLE GLOTTAL OA
ETHIOPIC SYLLABLE ZOA
ETHIOPIC SYLLABLE DOA
ETHIOPIC SYLLABLE DDOA
ETHIOPIC SYLLABLE JOA
ETHIOPIC SYLLABLE THOA
ETHIOPIC SYLLABLE CHOA
ETHIOPIC SYLLABLE PHOA
ETHIOPIC SYLLABLE POA
ETHIOPIC SYLLABLE GGWA
ETHIOPIC SYLLABLE GGWI
ETHIOPIC SYLLABLE GGWEE
ETHIOPIC SYLLABLE GGWE
@2DA0
ETHIOPIC SYLLABLE SSA
ETHIOPIC SYLLABLE SSU
ETHIOPIC SYLLABLE SSI
ETHIOPIC SYLLABLE SSAA
ETHIOPIC SYLLABLE SSEE
ETHIOPIC SYLLABLE SSE
ETHIOPIC SYLLABLE SSO
@2DA8
ETHIOPIC SYLLABLE CCA
ETHIOPIC SYLLABLE CCU
ETHIOPIC SYLLABLE CCI
ETHIOPIC SYLLABLE CCAA
ETHIOPIC SYLLABLE CCEE
ETHIOPIC SYLLABLE CCE
ETHIOPIC SYLLABLE CCO
@2DB0
ETHIOPIC SYLLABLE ZZA
ETHIOPIC SYLLABLE ZZU
ETHIOPIC SYLLABLE ZZI
ETHIOPIC SYLLABLE ZZAA
ETHIOPIC SYLLABLE ZZEE
ETHIOPIC SYLLABLE ZZE
ETHIOPIC SYLLABLE ZZO
@2DB8
ETHIOPIC SYLLABLE CCHA
ETHIOPIC SYLLABLE CCHU
ETHIOPIC SYLLABLE CCHI
ETHIOPIC SYLLABLE CCHAA
ETHIOPIC SYLLABLE CCHEE
ETHIOPIC SYLLABLE CCHE
ETHIOPIC SYLLABLE CCHO
@2DC0
ETHIOPIC SYLLABLE QYA
ETHIOPIC SYLLABLE QYU
ETHIOPIC SYLLABLE QYI
ETHIOPIC SYLLABLE QYAA
ETHIOPIC SYLLABLE QYEE
ETHIOPIC SYLLABLE QYE
ETHIOPIC SYLLABLE QYO
@2DC8
ETHIOPIC SYLLABLE KYA
ETHIOPIC SYLLABLE KYU
ETHIOPIC SYLLABLE KYI
ETHIOPIC SYLLABLE KYAA
ETHIOPIC SYLLABLE KYEE
ETHIOPIC SYLLABLE KYE
ETHIOPIC SYLLABLE KYO
@2DD0
ETHIOPIC SYLLABLE XYA
ETHIOPIC SYLLABLE XYU
ETHIOPIC SYLLABLE XYI
ETHIOPIC SYLLABLE XYAA
ETHIOPIC SYLLABLE XYEE
ETHIOPIC SYLLABLE XYE
ETHIOPIC SYLLABLE XYO
@2DD8
ETHIOPIC SYLLABLE GYA
ETHIOPIC SYLLABLE GYU
ETHIOPIC SYLLABLE GYI
ETHIOPIC SYLLABLE GYAA
ETHIOPIC SYLLABLE GYEE
ETHIOPIC SYLLABLE GYE
ETHIOPIC SYLLABLE GYO
@2DE0
COMBINING CYRILLIC LETTER BE
COMBINING CYRILLIC LETTER VE
COMBINING CYRILLIC LETTER GHE
COMBINING CYRILLIC LETTER DE
COMBINING CYRILLIC LETTER ZHE
COMBINING CYRILLIC LETTER ZE
COMBINING CYRILLIC LETTER KA
COMBINING CYRILLIC LETTER EL
COMBINING CYRILLIC LETTER EM
COMBINING CYRILLIC LETTER EN
COMBINING CYRILLIC LETTER O
COMBINING CYRILLIC LETTER PE
COMBINING CYRILLIC LETTER ER
COMBINING CYRILLIC LETTER ES
COMBINING CYRILLIC LETTER TE
COMBINING CYRILLIC LETTER HA
COMBINING CYRILLIC LETTER TSE
COMBINING CYRILLIC LETTER CHE
COMBINING CYRILLIC LETTER SHA
COMBINING CYRILLIC LETTER SHCHA
COMBINING CYRILLIC LETTER FITA
COMBINING CYRILLIC LETTER ES-TE
COMBINING CYRILLIC LETTER A
COMBINING CYRILLIC LETTER IE
COMBINING CYRILLIC LETTER DJERV
COMBINING CYRILLIC LETTER MONOGRAPH UK
COMBINING CYRILLIC LETTER YAT
COMBINING CYRILLIC LETTER YU
COMBINING CYRILLIC LETTER IOTIFIED A
COMBINING CYRILLIC LETTER LITTLE YUS
COMBINING CYRILLIC LETTER BIG YUS
COMBINING CYRILLIC LETTER IOTIFIED BIG YUS
RIGHT ANGLE SUBSTITUTION MARKER
RIGHT ANGLE DOTTED SUBSTITUTION MARKER
LEFT SUBSTITUTION BRACKET
RIGHT SUBSTITUTION BRACKET
LEFT DOTTED SUBSTITUTION BRACKET
RIGHT DOTTED SUBSTITUTION BRACKET
RAISED INTERPOLATION MARKER
RAISED DOTTED INTERPOLATION MARKER
DOTTED TRANSPOSITION MARKER
LEFT TRANSPOSITION BRACKET
RIGHT TRANSPOSITION BRACKET
RAISED SQUARE
LEFT RAISED OMISSION BRACKET
RIGHT RAISED OMISSION BRACKET
EDITORIAL CORONIS
PARAGRAPHOS
FORKED PARAGRAPHOS
REVERSED FORKED PARAGRAPHOS
HYPODIASTOLE
DOTTED OBELOS
DOWNWARDS ANCORA
UPWARDS ANCORA
DOTTED RIGHT-POINTING ANGLE
DOUBLE OBLIQUE HYPHEN
INVERTED INTERROBANG
PALM BRANCH
HYPHEN WITH DIAERESIS
TILDE WITH RING ABOVE
LEFT LOW PARAPHRASE BRACKET
RIGHT LOW PARAPHRASE BRACKET
TILDE WITH DOT ABOVE
TILDE WITH DOT BELOW
LEFT VERTICAL BAR WITH QUILL
RIGHT VERTICAL BAR WITH QUILL
TOP LEFT HALF BRACKET
TOP RIGHT HALF BRACKET
BOTTOM LEFT HALF BRACKET
BOTTOM RIGHT HALF BRACKET
LEFT SIDEWAYS U BRACKET
RIGHT SIDEWAYS U BRACKET
LEFT DOUBLE PARENTHESIS
RIGHT DOUBLE PARENTHESIS
TWO DOTS OVER ONE DOT PUNCTUATION
ONE DOT OVER TWO DOTS PUNCTUATION
SQUARED FOUR DOT PUNCTUATION
FIVE DOT MARK
REVERSED QUESTION MARK
VERTICAL TILDE
RING POINT
WORD SEPARATOR MIDDLE DOT
TURNED COMMA
RAISED DOT
RAISED COMMA
TURNED SEMICOLON
DAGGER WITH LEFT GUARD
DAGGER WITH RIGHT GUARD
TURNED DAGGER
TOP HALF SECTION SIGN
TWO-EM DASH
THREE-EM DASH
STENOGRAPHIC FULL STOP
VERTICAL SIX DOTS
WIGGLY VERTICAL LINE
CAPITULUM
DOUBLE HYPHEN
REVERSED COMMA
DOUBLE LOW-REVERSED-9 QUOTATION MARK
DASH WITH LEFT UPTURN
DOUBLE SUSPENSION MARK
INVERTED LOW KAVYKA
INVERTED LOW KAVYKA WITH KAVYKA ABOVE
LOW KAVYKA
LOW KAVYKA WITH DOT
DOUBLE STACKED COMMA
DOTTED SOLIDUS
TRIPLE DAGGER
MEDIEVAL COMMA
PARAGRAPHUS MARK
PUNCTUS ELEVATUS MARK
CORNISH VERSE DIVIDER
CROSS PATTY WITH RIGHT CROSSBAR
CROSS PATTY WITH LEFT CROSSBAR
TIRONIAN SIGN CAPITAL ET
MEDIEVAL EXCLAMATION MARK
MEDIEVAL QUESTION MARK
LEFT SQUARE BRACKET WITH STROKE
RIGHT SQUARE BRACKET WITH STROKE
LEFT SQUARE BRACKET WITH DOUBLE STROKE
RIGHT SQUARE BRACKET WITH DOUBLE STROKE
TOP HALF LEFT PARENTHESIS
TOP HALF RIGHT PARENTHESIS
BOTTOM HALF LEFT PARENTHESIS
BOTTOM HALF RIGHT PARENTHESIS
OBLIQUE HYPHEN
@2E80
CJK RADICAL REPEAT
CJK RADICAL CLIFF
CJK RADICAL SECOND ONE
CJK RADICAL SECOND TWO
CJK RADICAL SECOND THREE
CJK RADICAL PERSON
CJK RADICAL BOX
CJK RADICAL TABLE
CJK RADICAL KNIFE ONE
CJK RADICAL KNIFE TWO
CJK RADICAL DIVINATION
CJK RADICAL SEAL
CJK RADICAL SMALL ONE
CJK RADICAL SMALL TWO
CJK RADICAL LAME ONE
CJK RADICAL LAME TWO
CJK RADICAL LAME THREE
CJK RADICAL LAME FOUR
CJK RADICAL SNAKE
CJK RADICAL THREAD
CJK RADICAL SNOUT ONE
CJK RADICAL SNOUT TWO
CJK RADICAL HEART ONE
CJK RADICAL HEART TWO
CJK RADICAL HAND
CJK RADICAL RAP"

def symbolsD : String := "@2E9B
CJK RADICAL CHOKE
CJK RADICAL SUN
CJK RADICAL MOON
CJK RADICAL DEATH
CJK RADICAL MOTHER
CJK RADICAL CIVILIAN
CJK RADICAL WATER ONE
CJK RADICAL WATER TWO
CJK RADICAL FIRE
CJK RADICAL PAW ONE
CJK RADICAL PAW TWO
CJK RADICAL SIMPLIFIED HALF TREE TRUNK
CJK RADICAL COW
CJK RADICAL DOG
CJK RADICAL JADE
CJK RADICAL BOLT OF CLOTH
CJK RADICAL EYE
CJK RADICAL SPIRIT ONE
CJK RADICAL SPIRIT TWO
CJK RADICAL BAMBOO
CJK RADICAL SILK
CJK RADICAL C-SIMPLIFIED SILK
CJK RADICAL NET ONE
CJK RADICAL NET TWO
CJK RADICAL NET THREE
CJK RADICAL NET FOUR
CJK RADICAL MESH
CJK RADICAL SHEEP
CJK RADICAL RAM
CJK RADICAL EWE
CJK RADICAL OLD
CJK RADICAL BRUSH ONE
CJK RADICAL BRUSH TWO
CJK RADICAL MEAT
CJK RADICAL MORTAR
CJK RADICAL GRASS ONE
CJK RADICAL GRASS TWO
CJK RADICAL GRASS THREE
CJK RADICAL TIGER
CJK RADICAL CLOTHES
CJK RADICAL WEST ONE
CJK RADICAL WEST TWO
CJK RADICAL C-SIMPLIFIED SEE
CJK RADICAL SIMPLIFIED HORN
CJK RADICAL HORN
CJK RADICAL C-SIMPLIFIED SPEECH
CJK RADICAL C-SIMPLIFIED SHELL
CJK RADICAL FOOT
CJK RADICAL C-SIMPLIFIED CART
CJK RADICAL SIMPLIFIED WALK
CJK RADICAL WALK ONE
CJK RADICAL WALK TWO
CJK RADICAL CITY
CJK RADICAL C-SIMPLIFIED GOLD
CJK RADICAL LONG ONE
CJK RADICAL LONG TWO
CJK RADICAL C-SIMPLIFIED LONG
CJK RADICAL C-SIMPLIFIED GATE
CJK RADICAL MOUND ONE
CJK RADICAL MOUND TWO
CJK RADICAL RAIN
CJK RADICAL BLUE
CJK RADICAL C-SIMPLIFIED TANNED LEATHER
CJK RADICAL C-SIMPLIFIED LEAF
CJK RADICAL C-SIMPLIFIED WIND
CJK RADICAL C-SIMPLIFIED FLY
CJK RADICAL EAT ONE
CJK RADICAL EAT TWO
CJK RADICAL EAT THREE
CJK RADICAL C-SIMPLIFIED EAT
CJK RADICAL HEAD
CJK RADICAL C-SIMPLIFIED HORSE
CJK RADICAL BONE
CJK RADICAL GHOST
CJK RADICAL C-SIMPLIFIED FISH
CJK RADICAL C-SIMPLIFIED BIRD
CJK RADICAL C-SIMPLIFIED SALT
CJK RADICAL SIMPLIFIED WHEAT
CJK RADICAL SIMPLIFIED YELLOW
CJK RADICAL C-SIMPLIFIED FROG
CJK RADICAL J-SIMPLIFIED EVEN
CJK RADICAL C-SIMPLIFIED EVEN
CJK RADICAL J-SIMPLIFIED TOOTH
CJK RADICAL C-SIMPLIFIED TOOTH
CJK RADICAL J-SIMPLIFIED DRAGON
CJK RADICAL C-SIMPLIFIED DRAGON
CJK RADICAL TURTLE
CJK RADICAL J-SIMPLIFIED TURTLE
CJK RADICAL C-SIMPLIFIED TURTLE
@2F00
KANGXI RADICAL ONE
KANGXI RADICAL LINE
KANGXI RADICAL DOT
KANGXI RADICAL SLASH
KANGXI RADICAL SECOND
KANGXI RADICAL HOOK
KANGXI RADICAL TWO
KANGXI RADICAL LID
KANGXI RADICAL MAN
KANGXI RADICAL LEGS
KANGXI RADICAL ENTER
KANGXI RADICAL EIGHT
KANGXI RADICAL DOWN BOX
KANGXI RADICAL COVER
KANGXI RADICAL ICE
KANGXI RADICAL TABLE
KANGXI RADICAL OPEN BOX
KANGXI RADICAL KNIFE
KANGXI RADICAL POWER
KANGXI RADICAL WRAP
KANGXI RADICAL SPOON
KANGXI RADICAL RIGHT OPEN BOX
KANGXI RADICAL HIDING ENCLOSURE
KANGXI RADICAL TEN
KANGXI RADICAL DIVINATION
KANGXI RADICAL SEAL
KANGXI RADICAL CLIFF
KANGXI RADICAL PRIVATE
KANGXI RADICAL AGAIN
KANGXI RADICAL MOUTH
KANGXI RADICAL ENCLOSURE
KANGXI RADICAL EARTH
KANGXI RADICAL SCHOLAR
KANGXI RADICAL GO
KANGXI RADICAL GO SLOWLY
KANGXI RADICAL EVENING
KANGXI RADICAL BIG
KANGXI RADICAL WOMAN
KANGXI RADICAL CHILD
KANGXI RADICAL ROOF
KANGXI RADICAL INCH
KANGXI RADICAL SMALL
KANGXI RADICAL LAME
KANGXI RADICAL CORPSE
KANGXI RADICAL SPROUT
KANGXI RADICAL MOUNTAIN
KANGXI RADICAL RIVER
KANGXI RADICAL WORK
KANGXI RADICAL ONESELF
KANGXI RADICAL TURBAN
KANGXI RADICAL DRY
KANGXI RADICAL SHORT THREAD
KANGXI RADICAL DOTTED CLIFF
KANGXI RADICAL LONG STRIDE
KANGXI RADICAL TWO HANDS
KANGXI RADICAL SHOOT
KANGXI RADICAL BOW
KANGXI RADICAL SNOUT
KANGXI RADICAL BRISTLE
KANGXI RADICAL STEP
KANGXI RADICAL HEART
KANGXI RADICAL HALBERD
KANGXI RADICAL DOOR
KANGXI RADICAL HAND
KANGXI RADICAL BRANCH
KANGXI RADICAL RAP
KANGXI RADICAL SCRIPT
KANGXI RADICAL DIPPER
KANGXI RADICAL AXE
KANGXI RADICAL SQUARE
KANGXI RADICAL NOT
KANGXI RADICAL SUN
KANGXI RADICAL SAY
KANGXI RADICAL MOON
KANGXI RADICAL TREE
KANGXI RADICAL LACK
KANGXI RADICAL STOP
KANGXI RADICAL DEATH
KANGXI RADICAL WEAPON
KANGXI RADICAL DO NOT
KANGXI RADICAL COMPARE
KANGXI RADICAL FUR
KANGXI RADICAL CLAN
KANGXI RADICAL STEAM
KANGXI RADICAL WATER
KANGXI RADICAL FIRE
KANGXI RADICAL CLAW
KANGXI RADICAL FATHER
KANGXI RADICAL DOUBLE X
KANGXI RADICAL HALF TREE TRUNK
KANGXI RADICAL SLICE
KANGXI RADICAL FANG
KANGXI RADICAL COW
KANGXI RADICAL DOG
KANGXI RADICAL PROFOUND
KANGXI RADICAL JADE
KANGXI RADICAL MELON
KANGXI RADICAL TILE
KANGXI RADICAL SWEET
KANGXI RADICAL LIFE
KANGXI RADICAL USE
KANGXI RADICAL FIELD
KANGXI RADICAL BOLT OF CLOTH
KANGXI RADICAL SICKNESS
KANGXI RADICAL DOTTED TENT
KANGXI RADICAL WHITE
KANGXI RADICAL SKIN
KANGXI RADICAL DISH
KANGXI RADICAL EYE
KANGXI RADICAL SPEAR
KANGXI RADICAL ARROW
KANGXI RADICAL STONE
KANGXI RADICAL SPIRIT
KANGXI RADICAL TRACK
KANGXI RADICAL GRAIN
KANGXI RADICAL CAVE
KANGXI RADICAL STAND
KANGXI RADICAL BAMBOO
KANGXI RADICAL RICE
KANGXI RADICAL SILK
KANGXI RADICAL JAR
KANGXI RADICAL NET
KANGXI RADICAL SHEEP
KANGXI RADICAL FEATHER
KANGXI RADICAL OLD
KANGXI RADICAL AND
KANGXI RADICAL PLOW
KANGXI RADICAL EAR
KANGXI RADICAL BRUSH
KANGXI RADICAL MEAT
KANGXI RADICAL MINISTER
KANGXI RADICAL SELF
KANGXI RADICAL ARRIVE
KANGXI RADICAL MORTAR
KANGXI RADICAL TONGUE
KANGXI RADICAL OPPOSE
KANGXI RADICAL BOAT
KANGXI RADICAL STOPPING
KANGXI RADICAL COLOR
KANGXI RADICAL GRASS
KANGXI RADICAL TIGER
KANGXI RADICAL INSECT
KANGXI RADICAL BLOOD
KANGXI RADICAL WALK ENCLOSURE
KANGXI RADICAL CLOTHES
KANGXI RADICAL WEST
KANGXI RADICAL SEE
KANGXI RADICAL HORN
KANGXI RADICAL SPEECH
KANGXI RADICAL VALLEY
KANGXI RADICAL BEAN
KANGXI RADICAL PIG
KANGXI RADICAL BADGER
KANGXI RADICAL SHELL
KANGXI RADICAL RED
KANGXI RADICAL RUN
KANGXI RADICAL FOOT
KANGXI RADICAL BODY
KANGXI RADICAL CART
KANGXI RADICAL BITTER
KANGXI RADICAL MORNING
KANGXI RADICAL WALK
KANGXI RADICAL CITY
KANGXI RADICAL WINE
KANGXI RADICAL DISTINGUISH
KANGXI RADICAL VILLAGE
KANGXI RADICAL GOLD
KANGXI RADICAL LONG
KANGXI RADICAL GATE
KANGXI RADICAL MOUND
KANGXI RADICAL SLAVE
KANGXI RADICAL SHORT TAILED BIRD
KANGXI RADICAL RAIN
KANGXI RADICAL BLUE
KANGXI RADICAL WRONG
KANGXI RADICAL FACE
KANGXI RADICAL LEATHER
KANGXI RADICAL TANNED LEATHER
KANGXI RADICAL LEEK
KANGXI RADICAL SOUND
KANGXI RADICAL LEAF
KANGXI RADICAL WIND
KANGXI RADICAL FLY
KANGXI RADICAL EAT
KANGXI RADICAL HEAD
KANGXI RADICAL FRAGRANT
KANGXI RADICAL HORSE
KANGXI RADICAL BONE
KANGXI RADICAL TALL
KANGXI RADICAL HAIR
KANGXI RADICAL FIGHT
KANGXI RADICAL SACRIFICIAL WINE
KANGXI RADICAL CAULDRON
KANGXI RADICAL GHOST
KANGXI RADICAL FISH
KANGXI RADICAL BIRD
KANGXI RADICAL SALT
KANGXI RADICAL DEER
KANGXI RADICAL WHEAT
KANGXI RADICAL HEMP
KANGXI RADICAL YELLOW
KANGXI RADICAL MILLET
KANGXI RADICAL BLACK
KANGXI RADICAL EMBROIDERY
KANGXI RADICAL FROG
KANGXI RADICAL TRIPOD
KANGXI RADICAL DRUM
KANGXI RADICAL RAT
KANGXI RADICAL NOSE
KANGXI RADICAL EVEN
KANGXI RADICAL TOOTH
KANGXI RADICAL DRAGON
KANGXI RADICAL TURTLE
KANGXI RADICAL FLUTE
@2FF0
IDEOGRAPHIC DESCRIPTION CHARACTER LEFT TO RIGHT
IDEOGRAPHIC DESCRIPTION CHARACTER ABOVE TO BELOW
IDEOGRAPHIC DESCRIPTION CHARACTER LEFT TO MIDDLE AND RIGHT
IDEOGRAPHIC DESCRIPTION CHARACTER ABOVE TO MIDDLE AND BELOW
IDEOGRAPHIC DESCRIPTION CHARACTER FULL SURROUND
IDEOGRAPHIC DESCRIPTION CHARACTER SURROUND FROM ABOVE
IDEOGRAPHIC DESCRIPTION CHARACTER SURROUND FROM BELOW
IDEOGRAPHIC DESCRIPTION CHARACTER SURROUND FROM LEFT
IDEOGRAPHIC DESCRIPTION CHARACTER SURROUND FROM UPPER LEFT
IDEOGRAPHIC DESCRIPTION CHARACTER SURROUND FROM UPPER RIGHT
IDEOGRAPHIC DESCRIPTION CHARACTER SURROUND FROM LOWER LEFT
IDEOGRAPHIC DESCRIPTION CHARACTER OVERLAID
@3000
IDEOGRAPHIC SPACE
IDEOGRAPHIC COMMA
IDEOGRAPHIC FULL STOP
DITTO MARK
JAPANESE INDUSTRIAL STANDARD SYMBOL
IDEOGRAPHIC ITERATION MARK
IDEOGRAPHIC CLOSING MARK
IDEOGRAPHIC NUMBER ZERO
LEFT ANGLE BRACKET
RIGHT ANGLE BRACKET
LEFT DOUBLE ANGLE BRACKET
RIGHT DOUBLE ANGLE BRACKET
LEFT CORNER BRACKET
RIGHT CORNER BRACKET
LEFT WHITE CORNER BRACKET
RIGHT WHITE CORNER BRACKET
LEFT BLACK LENTICULAR BRACKET
RIGHT BLACK LENTICULAR BRACKET
POSTAL MARK
GETA MARK
LEFT TORTOISE SHELL BRACKET
RIGHT TORTOISE SHELL BRACKET
LEFT WHITE LENTICULAR BRACKET
RIGHT WHITE LENTICULAR BRACKET
LEFT WHITE TORTOISE SHELL BRACKET
RIGHT WHITE TORTOISE SHELL BRACKET
LEFT WHITE SQUARE BRACKET
RIGHT WHITE SQUARE BRACKET
WAVE DASH
REVERSED DOUBLE PRIME QUOTATION MARK
DOUBLE PRIME QUOTATION MARK
LOW DOUBLE PRIME QUOTATION MARK
POSTAL MARK FACE
HANGZHOU NUMERAL ONE
HANGZHOU NUMERAL TWO
HANGZHOU NUMERAL THREE
HANGZHOU NUMERAL FOUR
HANGZHOU NUMERAL FIVE
HANGZHOU NUMERAL SIX
HANGZHOU NUMERAL SEVEN
HANGZHOU NUMERAL EIGHT
HANGZHOU NUMERAL NINE
IDEOGRAPHIC LEVEL TONE MARK
IDEOGRAPHIC RISING TONE MARK
IDEOGRAPHIC DEPARTING TONE MARK
IDEOGRAPHIC ENTERING TONE MARK
HANGUL SINGLE DOT TONE MARK
HANGUL DOUBLE DOT TONE MARK
WAVY DASH
VERTICAL KANA REPEAT MARK
VERTICAL KANA REPEAT WITH VOICED SOUND MARK
VERTICAL KANA REPEAT MARK UPPER HALF
VERTICAL KANA REPEAT WITH VOICED SOUND MARK UPPER HALF
VERTICAL KANA REPEAT MARK LOWER HALF
CIRCLED POSTAL MARK
IDEOGRAPHIC TELEGRAPH LINE FEED SEPARATOR SYMBOL
HANGZHOU NUMERAL TEN
HANGZHOU NUMERAL TWENTY
HANGZHOU NUMERAL THIRTY
VERTICAL IDEOGRAPHIC ITERATION MARK
MASU MARK
PART ALTERNATION MARK
IDEOGRAPHIC VARIATION INDICATOR
IDEOGRAPHIC HALF FILL SPACE
@3041
HIRAGANA LETTER SMALL A
HIRAGANA LETTER A
HIRAGANA LETTER SMALL I
HIRAGANA LETTER I
HIRAGANA LETTER SMALL U
HIRAGANA LETTER U
HIRAGANA LETTER SMALL E
HIRAGANA LETTER E
HIRAGANA LETTER SMALL O
HIRAGANA LETTER O
HIRAGANA LETTER KA
HIRAGANA LETTER GA
HIRAGANA LETTER KI
HIRAGANA LETTER GI
HIRAGANA LETTER KU
HIRAGANA LETTER GU
HIRAGANA LETTER KE
HIRAGANA LETTER GE
HIRAGANA LETTER KO
HIRAGANA LETTER GO
HIRAGANA LETTER SA
HIRAGANA LETTER ZA
HIRAGANA LETTER SI
HIRAGANA LETTER ZI
HIRAGANA LETTER SU
HIRAGANA LETTER ZU
HIRAGANA LETTER SE
HIRAGANA LETTER ZE
HIRAGANA LETTER SO
HIRAGANA LETTER ZO
HIRAGANA LETTER TA
HIRAGANA LETTER DA
HIRAGANA LETTER TI
HIRAGANA LETTER DI
HIRAGANA LETTER SMALL TU
HIRAGANA LETTER TU
HIRAGANA LETTER DU
HIRAGANA LETTER TE
HIRAGANA LETTER DE
HIRAGANA LETTER TO
HIRAGANA LETTER DO
HIRAGANA LETTER NA
HIRAGANA LETTER NI
HIRAGANA LETTER NU
HIRAGANA LETTER NE
HIRAGANA LETTER NO
HIRAGANA LETTER HA
HIRAGANA LETTER BA
HIRAGANA LETTER PA
HIRAGANA LETTER HI
HIRAGANA LETTER BI
HIRAGANA LETTER PI
HIRAGANA LETTER HU
HIRAGANA LETTER BU
HIRAGANA LETTER PU
HIRAGANA LETTER HE
HIRAGANA LETTER BE
HIRAGANA LETTER PE
HIRAGANA LETTER HO
HIRAGANA LETTER BO
HIRAGANA LETTER PO
HIRAGANA LETTER MA
HIRAGANA LETTER MI
HIRAGANA LETTER MU
HIRAGANA LETTER ME
HIRAGANA LETTER MO
HIRAGANA LETTER SMALL YA
HIRAGANA LETTER YA
HIRAGANA LETTER SMALL YU
HIRAGANA LETTER YU
HIRAGANA LETTER SMALL YO
HIRAGANA LETTER YO
HIRAGANA LETTER RA
HIRAGANA LETTER RI
HIRAGANA LETTER RU
HIRAGANA LETTER RE
HIRAGANA LETTER RO
HIRAGANA LETTER SMALL WA
HIRAGANA LETTER WA
HIRAGANA LETTER WI
HIRAGANA LETTER WE
HIRAGANA LETTER WO
HIRAGANA LETTER N
HIRAGANA LETTER VU
HIRAGANA LETTER SMALL KA
HIRAGANA LETTER SMALL KE
@3099
COMBINING KATAKANA-HIRAGANA VOICED SOUND MARK
COMBINING KATAKANA-HIRAGANA SEMI-VOICED SOUND MARK
KATAKANA-HIRAGANA VOICED SOUND MARK
KATAKANA-HIRAGANA SEMI-VOICED SOUND MARK
HIRAGANA ITERATION MARK
HIRAGANA VOICED ITERATION MARK
HIRAGANA DIGRAPH YORI
KATAKANA-HIRAGANA DOUBLE HYPHEN
KATAKANA LETTER SMALL A
KATAKANA LETTER A
KATAKANA LETTER SMALL I
KATAKANA LETTER I
KATAKANA LETTER SMALL U
KATAKANA LETTER U
KATAKANA LETTER SMALL E
KATAKANA LETTER E
KATAKANA LETTER SMALL O
KATAKANA LETTER O
KATAKANA LETTER KA
KATAKANA LETTER GA
KATAKANA LETTER KI
KATAKANA LETTER GI
KATAKANA LETTER KU
KATAKANA LETTER GU
KATAKANA LETTER KE
KATAKANA LETTER GE
KATAKANA LETTER KO
KATAKANA LETTER GO
KATAKANA LETTER SA
KATAKANA LETTER ZA
KATAKANA LETTER SI
KATAKANA LETTER ZI
KATAKANA LETTER SU
KATAKANA LETTER ZU
KATAKANA LETTER SE
KATAKANA LETTER ZE
KATAKANA LETTER SO
KATAKANA LETTER ZO
KATAKANA LETTER TA
KATAKANA LETTER DA
KATAKANA LETTER TI
KATAKANA LETTER DI
KATAKANA LETTER SMALL TU
KATAKANA LETTER TU
KATAKANA LETTER DU
KATAKANA LETTER TE
KATAKANA LETTER DE
KATAKANA LETTER TO
KATAKANA LETTER DO
KATAKANA LETTER NA
KATAKANA LETTER NI
KATAKANA LETTER NU
KATAKANA LETTER NE
KATAKANA LETTER NO
KATAKANA LETTER HA
KATAKANA LETTER BA
KATAKANA LETTER PA
KATAKANA LETTER HI
KATAKANA LETTER BI
KATAKANA LETTER PI
KATAKANA LETTER HU
KATAKANA LETTER BU
KATAKANA LETTER PU
KATAKANA LETTER HE
KATAKANA LETTER BE
KATAKANA LETTER PE
KATAKANA LETTER HO
KATAKANA LETTER BO
KATAKANA LETTER PO
KATAKANA LETTER MA
KATAKANA LETTER MI
KATAKANA LETTER MU
KATAKANA LETTER ME
KATAKANA LETTER MO
KATAKANA LETTER SMALL YA
KATAKANA LETTER YA
KATAKANA LETTER SMALL YU
KATAKANA LETTER YU
KATAKANA LETTER SMALL YO
KATAKANA LETTER YO
KATAKANA LETTER RA
KATAKANA LETTER RI
KATAKANA LETTER RU
KATAKANA LETTER RE
KATAKANA LETTER RO
KATAKANA LETTER SMALL WA
KATAKANA LETTER WA
KATAKANA LETTER WI
KATAKANA LETTER WE
KATAKANA LETTER WO
KATAKANA LETTER N
KATAKANA LETTER VU
KATAKANA LETTER SMALL KA
KATAKANA LETTER SMALL KE
KATAKANA LETTER VA
KATAKANA LETTER VI
KATAKANA LETTER VE
KATAKANA LETTER VO
KATAKANA MIDDLE DOT
KATAKANA-HIRAGANA PROLONGED SOUND MARK
KATAKANA ITERATION MARK
KATAKANA VOICED ITERATION MARK
KATAKANA DIGRAPH KOTO
@3105
BOPOMOFO LETTER B
BOPOMOFO LETTER P
BOPOMOFO LETTER M
BOPOMOFO LETTER F
BOPOMOFO LETTER D
BOPOMOFO LETTER T
BOPOMOFO LETTER N
BOPOMOFO LETTER L
BOPOMOFO LETTER G
BOPOMOFO LETTER K
BOPOMOFO LETTER H
BOPOMOFO LETTER J
BOPOMOFO LETTER Q
BOPOMOFO LETTER X
BOPOMOFO LETTER ZH
BOPOMOFO LETTER CH
BOPOMOFO LETTER SH
BOPOMOFO LETTER R
BOPOMOFO LETTER Z
BOPOMOFO LETTER C
BOPOMOFO LETTER S
BOPOMOFO LETTER A
BOPOMOFO LETTER O
BOPOMOFO LETTER E
BOPOMOFO LETTER EH
BOPOMOFO LETTER AI
BOPOMOFO LETTER EI
BOPOMOFO LETTER AU
BOPOMOFO LETTER OU
BOPOMOFO LETTER AN
BOPOMOFO LETTER EN
BOPOMOFO LETTER ANG
BOPOMOFO LETTER ENG
BOPOMOFO LETTER ER
BOPOMOFO LETTER I
BOPOMOFO LETTER U
BOPOMOFO LETTER IU
BOPOMOFO LETTER V
BOPOMOFO LETTER NG
BOPOMOFO LETTER GN
BOPOMOFO LETTER IH
BOPOMOFO LETTER O WITH DOT ABOVE
BOPOMOFO LETTER NN
@3131
HANGUL LETTER KIYEOK
HANGUL LETTER SSANGKIYEOK
HANGUL LETTER KIYEOK-SIOS
HANGUL LETTER NIEUN
HANGUL LETTER NIEUN-CIEUC
HANGUL LETTER NIEUN-HIEUH
HANGUL LETTER TIKEUT
HANGUL LETTER SSANGTIKEUT
HANGUL LETTER RIEUL
HANGUL LETTER RIEUL-KIYEOK
HANGUL LETTER RIEUL-MIEUM
HANGUL LETTER RIEUL-PIEUP
HANGUL LETTER RIEUL-SIOS
HANGUL LETTER RIEUL-THIEUTH
HANGUL LETTER RIEUL-PHIEUPH
HANGUL LETTER RIEUL-HIEUH
HANGUL LETTER MIEUM
HANGUL LETTER PIEUP
HANGUL LETTER SSANGPIEUP
HANGUL LETTER PIEUP-SIOS
HANGUL LETTER SIOS
HANGUL LETTER SSANGSIOS
HANGUL LETTER IEUNG
HANGUL LETTER CIEUC
HANGUL LETTER SSANGCIEUC
HANGUL LETTER CHIEUCH
HANGUL LETTER KHIEUKH
HANGUL LETTER THIEUTH
HANGUL LETTER PHIEUPH
HANGUL LETTER HIEUH
HANGUL LETTER A
HANGUL LETTER AE
HANGUL LETTER YA
HANGUL LETTER YAE
HANGUL LETTER EO
HANGUL LETTER E
HANGUL LETTER YEO
HANGUL LETTER YE
HANGUL LETTER O
HANGUL LETTER WA
HANGUL LETTER WAE
HANGUL LETTER OE
HANGUL LETTER YO
HANGUL LETTER U
HANGUL LETTER WEO
HANGUL LETTER WE
HANGUL LETTER WI
HANGUL LETTER YU
HANGUL LETTER EU
HANGUL LETTER YI
HANGUL LETTER I
HANGUL FILLER
HANGUL LETTER SSANGNIEUN
HANGUL LETTER NIEUN-TIKEUT
HANGUL LETTER NIEUN-SIOS
HANGUL LETTER NIEUN-PANSIOS
HANGUL LETTER RIEUL-KIYEOK-SIOS
HANGUL LETTER RIEUL-TIKEUT
HANGUL LETTER RIEUL-PIEUP-SIOS
HANGUL LETTER RIEUL-PANSIOS
HANGUL LETTER RIEUL-YEORINHIEUH
HANGUL LETTER MIEUM-PIEUP
HANGUL LETTER MIEUM-SIOS
HANGUL LETTER MIEUM-PANSIOS
HANGUL LETTER KAPYEOUNMIEUM
HANGUL LETTER PIEUP-KIYEOK
HANGUL LETTER PIEUP-TIKEUT
HANGUL LETTER PIEUP-SIOS-KIYEOK
HANGUL LETTER PIEUP-SIOS-TIKEUT
HANGUL LETTER PIEUP-CIEUC
HANGUL LETTER PIEUP-THIEUTH
HANGUL LETTER KAPYEOUNPIEUP
HANGUL LETTER KAPYEOUNSSANGPIEUP
HANGUL LETTER SIOS-KIYEOK
HANGUL LETTER SIOS-NIEUN
HANGUL LETTER SIOS-TIKEUT
HANGUL LETTER SIOS-PIEUP
HANGUL LETTER SIOS-CIEUC
HANGUL LETTER PANSIOS
HANGUL LETTER SSANGIEUNG
HANGUL LETTER YESIEUNG
HANGUL LETTER YESIEUNG-SIOS
HANGUL LETTER YESIEUNG-PANSIOS
HANGUL LETTER KAPYEOUNPHIEUPH
HANGUL LETTER SSANGHIEUH
HANGUL LETTER YEORINHIEUH
HANGUL LETTER YO-YA
HANGUL LETTER YO-YAE
HANGUL LETTER YO-I
HANGUL LETTER YU-YEO
HANGUL LETTER YU-YE
HANGUL LETTER YU-I
HANGUL LETTER ARAEA
HANGUL LETTER ARAEAE
@3190
IDEOGRAPHIC ANNOTATION LINKING MARK
IDEOGRAPHIC ANNOTATION REVERSE MARK
IDEOGRAPHIC ANNOTATION ONE MARK
IDEOGRAPHIC ANNOTATION TWO MARK
IDEOGRAPHIC ANNOTATION THREE MARK
IDEOGRAPHIC ANNOTATION FOUR MARK
IDEOGRAPHIC ANNOTATION TOP MARK
IDEOGRAPHIC ANNOTATION MIDDLE MARK
IDEOGRAPHIC ANNOTATION BOTTOM MARK
IDEOGRAPHIC ANNOTATION FIRST MARK
IDEOGRAPHIC ANNOTATION SECOND MARK
IDEOGRAPHIC ANNOTATION THIRD MARK
IDEOGRAPHIC ANNOTATION FOURTH MARK
IDEOGRAPHIC ANNOTATION HEAVEN MARK
IDEOGRAPHIC ANNOTATION EARTH MARK
IDEOGRAPHIC ANNOTATION MAN MARK
BOPOMOFO LETTER BU
BOPOMOFO LETTER ZI
BOPOMOFO LETTER JI
BOPOMOFO LETTER GU
BOPOMOFO LETTER EE
BOPOMOFO LETTER ENN
BOPOMOFO LETTER OO
BOPOMOFO LETTER ONN
BOPOMOFO LETTER IR
BOPOMOFO LETTER ANN
BOPOMOFO LETTER INN
BOPOMOFO LETTER UNN
BOPOMOFO LETTER IM
BOPOMOFO LETTER NGG
BOPOMOFO LETTER AINN
BOPOMOFO LETTER AUNN
BOPOMOFO LETTER AM
BOPOMOFO LETTER OM
BOPOMOFO LETTER ONG
BOPOMOFO LETTER INNN
BOPOMOFO FINAL LETTER P
BOPOMOFO FINAL LETTER T
BOPOMOFO FINAL LETTER K
BOPOMOFO FINAL LETTER H
BOPOMOFO LETTER GH
BOPOMOFO LETTER LH
BOPOMOFO LETTER ZY
BOPOMOFO FINAL LETTER G
BOPOMOFO LETTER GW
BOPOMOFO LETTER KW
BOPOMOFO LETTER OE
BOPOMOFO LETTER AH
CJK STROKE T
CJK STROKE WG
CJK STROKE XG
CJK STROKE BXG
CJK STROKE SW
CJK STROKE HZZ
CJK STROKE HZG
CJK STROKE HP
CJK STROKE HZWG
CJK STROKE SZWG
CJK STROKE HZT
CJK STROKE HZZP
CJK STROKE HPWG
CJK STROKE HZW
CJK STROKE HZZZ
CJK STROKE N
CJK STROKE H
CJK STROKE S
CJK STROKE P
CJK STROKE SP
CJK STROKE D
CJK STROKE HZ
CJK STROKE HG
CJK STROKE SZ
CJK STROKE SWZ
CJK STROKE ST
CJK STROKE SG
CJK STROKE PD
CJK STROKE PZ
CJK STROKE TN
CJK STROKE SZZ
CJK STROKE SWG
CJK STROKE HXWG
CJK STROKE HZZZG
CJK STROKE PG
CJK STROKE Q
@31F0
KATAKANA LETTER SMALL KU
KATAKANA LETTER SMALL SI
KATAKANA LETTER SMALL SU
KATAKANA LETTER SMALL TO
KATAKANA LETTER SMALL NU
KATAKANA LETTER SMALL HA
KATAKANA LETTER SMALL HI
KATAKANA LETTER SMALL HU
KATAKANA LETTER SMALL HE
KATAKANA LETTER SMALL HO
KATAKANA LETTER SMALL MU
KATAKANA LETTER SMALL RA
KATAKANA LETTER SMALL RI
KATAKANA LETTER SMALL RU
KATAKANA LETTER SMALL RE
KATAKANA LETTER SMALL RO
PARENTHESIZED HANGUL KIYEOK
PARENTHESIZED HANGUL NIEUN
PARENTHESIZED HANGUL TIKEUT
PARENTHESIZED HANGUL RIEUL
PARENTHESIZED HANGUL MIEUM
PARENTHESIZED HANGUL PIEUP
PARENTHESIZED HANGUL SIOS
PARENTHESIZED HANGUL IEUNG
PARENTHESIZED HANGUL CIEUC
PARENTHESIZED HANGUL CHIEUCH
PARENTHESIZED HANGUL KHIEUKH
PARENTHESIZED HANGUL THIEUTH
PARENTHESIZED HANGUL PHIEUPH
PARENTHESIZED HANGUL HIEUH
PARENTHESIZED HANGUL KIYEOK A
PARENTHESIZED HANGUL NIEUN A
PARENTHESIZED HANGUL TIKEUT A
PARENTHESIZED HANGUL RIEUL A
PARENTHESIZED HANGUL MIEUM A
PARENTHESIZED HANGUL PIEUP A
PARENTHESIZED HANGUL SIOS A
PARENTHESIZED HANGUL IEUNG A
PARENTHESIZED HANGUL CIEUC A
PARENTHESIZED HANGUL CHIEUCH A
PARENTHESIZED HANGUL KHIEUKH A
PARENTHESIZED HANGUL THIEUTH A
PARENTHESIZED HANGUL PHIEUPH A
PARENTHESIZED HANGUL HIEUH A
PARENTHESIZED HANGUL CIEUC U
PARENTHESIZED KOREAN CHARACTER OJEON
PARENTHESIZED KOREAN CHARACTER O HU
@3220
PARENTHESIZED IDEOGRAPH ONE
PARENTHESIZED IDEOGRAPH TWO
PARENTHESIZED IDEOGRAPH THREE
PARENTHESIZED IDEOGRAPH FOUR
PARENTHESIZED IDEOGRAPH FIVE
PARENTHESIZED IDEOGRAPH SIX
PARENTHESIZED IDEOGRAPH SEVEN
PARENTHESIZED IDEOGRAPH EIGHT
PARENTHESIZED IDEOGRAPH NINE
PARENTHESIZED IDEOGRAPH TEN
PARENTHESIZED IDEOGRAPH MOON
PARENTHESIZED IDEOGRAPH FIRE
PARENTHESIZED IDEOGRAPH WATER
PARENTHESIZED IDEOGRAPH WOOD
PARENTHESIZED IDEOGRAPH METAL
PARENTHESIZED IDEOGRAPH EARTH
PARENTHESIZED IDEOGRAPH SUN
PARENTHESIZED IDEOGRAPH STOCK
PARENTHESIZED IDEOGRAPH HAVE
PARENTHESIZED IDEOGRAPH SOCIETY
PARENTHESIZED IDEOGRAPH NAME
PARENTHESIZED IDEOGRAPH SPECIAL
PARENTHESIZED IDEOGRAPH FINANCIAL
PARENTHESIZED IDEOGRAPH CONGRATULATION
PARENTHESIZED IDEOGRAPH LABOR
PARENTHESIZED IDEOGRAPH REPRESENT
PARENTHESIZED IDEOGRAPH CALL
PARENTHESIZED IDEOGRAPH STUDY
PARENTHESIZED IDEOGRAPH SUPERVISE
PARENTHESIZED IDEOGRAPH ENTERPRISE
PARENTHESIZED IDEOGRAPH RESOURCE
PARENTHESIZED IDEOGRAPH ALLIANCE
PARENTHESIZED IDEOGRAPH FESTIVAL
PARENTHESIZED IDEOGRAPH REST
PARENTHESIZED IDEOGRAPH SELF
PARENTHESIZED IDEOGRAPH REACH
CIRCLED IDEOGRAPH QUESTION
CIRCLED IDEOGRAPH KINDERGARTEN
CIRCLED IDEOGRAPH SCHOOL
CIRCLED IDEOGRAPH KOTO
CIRCLED NUMBER TEN ON BLACK SQUARE
CIRCLED NUMBER TWENTY ON BLACK SQUARE
CIRCLED NUMBER THIRTY ON BLACK SQUARE
CIRCLED NUMBER FORTY ON BLACK SQUARE
CIRCLED NUMBER FIFTY ON BLACK SQUARE
CIRCLED NUMBER SIXTY ON BLACK SQUARE
CIRCLED NUMBER SEVENTY ON BLACK SQUARE
CIRCLED NUMBER EIGHTY ON BLACK SQUARE
PARTNERSHIP SIGN
CIRCLED NUMBER TWENTY ONE
CIRCLED NUMBER TWENTY TWO
CIRCLED NUMBER TWENTY THREE
CIRCLED NUMBER TWENTY FOUR
CIRCLED NUMBER TWENTY FIVE
CIRCLED NUMBER TWENTY SIX
CIRCLED NUMBER TWENTY SEVEN
CIRCLED NUMBER TWENTY EIGHT
CIRCLED NUMBER TWENTY NINE
CIRCLED NUMBER THIRTY
CIRCLED NUMBER THIRTY ONE
CIRCLED NUMBER THIRTY TWO
CIRCLED NUMBER THIRTY THREE
CIRCLED NUMBER THIRTY FOUR
CIRCLED NUMBER THIRTY FIVE
CIRCLED HANGUL KIYEOK
CIRCLED HANGUL NIEUN
CIRCLED HANGUL TIKEUT
CIRCLED HANGUL RIEUL
CIRCLED HANGUL MIEUM
CIRCLED HANGUL PIEUP
CIRCLED HANGUL SIOS
CIRCLED HANGUL IEUNG
CIRCLED HANGUL CIEUC
CIRCLED HANGUL CHIEUCH
CIRCLED HANGUL KHIEUKH
CIRCLED HANGUL THIEUTH
CIRCLED HANGUL PHIEUPH
CIRCLED HANGUL HIEUH
CIRCLED HANGUL KIYEOK A
CIRCLED HANGUL NIEUN A
CIRCLED HANGUL TIKEUT A
CIRCLED HANGUL RIEUL A
CIRCLED HANGUL MIEUM A
CIRCLED HANGUL PIEUP A
CIRCLED HANGUL SIOS A
CIRCLED HANGUL IEUNG A
CIRCLED HANGUL CIEUC A
CIRCLED HANGUL CHIEUCH A
CIRCLED HANGUL KHIEUKH A
CIRCLED HANGUL THIEUTH A
CIRCLED HANGUL PHIEUPH A
CIRCLED HANGUL HIEUH A
CIRCLED KOREAN CHARACTER CHAMKO
CIRCLED KOREAN CHARACTER JUEUI
CIRCLED HANGUL IEUNG U
KOREAN STANDARD SYMBOL
CIRCLED IDEOGRAPH ONE
CIRCLED IDEOGRAPH TWO
CIRCLED IDEOGRAPH THREE
CIRCLED IDEOGRAPH FOUR
CIRCLED IDEOGRAPH FIVE
CIRCLED IDEOGRAPH SIX
CIRCLED IDEOGRAPH SEVEN
CIRCLED IDEOGRAPH EIGHT
CIRCLED IDEOGRAPH NINE
CIRCLED IDEOGRAPH TEN
CIRCLED IDEOGRAPH MOON
CIRCLED IDEOGRAPH FIRE
CIRCLED IDEOGRAPH WATER
CIRCLED IDEOGRAPH WOOD
CIRCLED IDEOGRAPH METAL
CIRCLED IDEOGRAPH EARTH
CIRCLED IDEOGRAPH SUN
CIRCLED IDEOGRAPH STOCK
CIRCLED IDEOGRAPH HAVE
CIRCLED IDEOGRAPH SOCIETY
CIRCLED IDEOGRAPH NAME
CIRCLED IDEOGRAPH SPECIAL
CIRCLED IDEOGRAPH FINANCIAL
CIRCLED IDEOGRAPH CONGRATULATION
CIRCLED IDEOGRAPH LABOR
CIRCLED IDEOGRAPH SECRET
CIRCLED IDEOGRAPH MALE
CIRCLED IDEOGRAPH FEMALE
CIRCLED IDEOGRAPH SUITABLE
CIRCLED IDEOGRAPH EXCELLENT
CIRCLED IDEOGRAPH PRINT
CIRCLED IDEOGRAPH ATTENTION
CIRCLED IDEOGRAPH ITEM
CIRCLED IDEOGRAPH REST
CIRCLED IDEOGRAPH COPY
CIRCLED IDEOGRAPH CORRECT
CIRCLED IDEOGRAPH HIGH
CIRCLED IDEOGRAPH CENTRE
CIRCLED IDEOGRAPH LOW
CIRCLED IDEOGRAPH LEFT
CIRCLED IDEOGRAPH RIGHT
CIRCLED IDEOGRAPH MEDICINE
CIRCLED IDEOGRAPH RELIGION
CIRCLED IDEOGRAPH STUDY
CIRCLED IDEOGRAPH SUPERVISE
CIRCLED IDEOGRAPH ENTERPRISE
CIRCLED IDEOGRAPH RESOURCE
CIRCLED IDEOGRAPH ALLIANCE
CIRCLED IDEOGRAPH NIGHT
CIRCLED NUMBER THIRTY SIX
CIRCLED NUMBER THIRTY SEVEN
CIRCLED NUMBER THIRTY EIGHT
CIRCLED NUMBER THIRTY NINE
CIRCLED NUMBER FORTY
CIRCLED NUMBER FORTY ONE
CIRCLED NUMBER FORTY TWO
CIRCLED NUMBER FORTY THREE
CIRCLED NUMBER FORTY FOUR
CIRCLED NUMBER FORTY FIVE
CIRCLED NUMBER FORTY SIX
CIRCLED NUMBER FORTY SEVEN
CIRCLED NUMBER FORTY EIGHT
CIRCLED NUMBER FORTY NINE
CIRCLED NUMBER FIFTY
IDEOGRAPHIC TELEGRAPH SYMBOL FOR JANUARY
IDEOGRAPHIC TELEGRAPH SYMBOL FOR FEBRUARY
IDEOGRAPHIC TELEGRAPH SYMBOL FOR MARCH
IDEOGRAPHIC TELEGRAPH SYMBOL FOR APRIL
IDEOGRAPHIC TELEGRAPH SYMBOL FOR MAY
IDEOGRAPHIC TELEGRAPH SYMBOL FOR JUNE
IDEOGRAPHIC TELEGRAPH SYMBOL FOR JULY
IDEOGRAPHIC TELEGRAPH SYMBOL FOR AUGUST
IDEOGRAPHIC TELEGRAPH SYMBOL FOR SEPTEMBER
IDEOGRAPHIC TELEGRAPH SYMBOL FOR OCTOBER
IDEOGRAPHIC TELEGRAPH SYMBOL FOR NOVEMBER
IDEOGRAPHIC TELEGRAPH SYMBOL FOR DECEMBER
SQUARE HG
SQUARE ERG
SQUARE EV
LIMITED LIABILITY SIGN
CIRCLED KATAKANA A
CIRCLED KATAKANA I
CIRCLED KATAKANA U
CIRCLED KATAKANA E
CIRCLED KATAKANA O
CIRCLED KATAKANA KA
CIRCLED KATAKANA KI
CIRCLED KATAKANA KU
CIRCLED KATAKANA KE
CIRCLED KATAKANA KO
CIRCLED KATAKANA SA
CIRCLED KATAKANA SI
CIRCLED KATAKANA SU
CIRCLED KATAKANA SE
CIRCLED KATAKANA SO
CIRCLED KATAKANA TA
CIRCLED KATAKANA TI
CIRCLED KATAKANA TU
CIRCLED KATAKANA TE
CIRCLED KATAKANA TO
CIRCLED KATAKANA NA
CIRCLED KATAKANA NI
CIRCLED KATAKANA NU
CIRCLED KATAKANA NE
CIRCLED KATAKANA NO
CIRCLED KATAKANA HA
CIRCLED KATAKANA HI
CIRCLED KATAKANA HU
CIRCLED KATAKANA HE
CIRCLED KATAKANA HO
CIRCLED KATAKANA MA
CIRCLED KATAKANA MI
CIRCLED KATAKANA MU
CIRCLED KATAKANA ME
CIRCLED KATAKANA MO
CIRCLED KATAKANA YA
CIRCLED KATAKANA YU
CIRCLED KATAKANA YO
CIRCLED KATAKANA RA
CIRCLED KATAKANA RI
CIRCLED KATAKANA RU
CIRCLED KATAKANA RE
CIRCLED KATAKANA RO
CIRCLED KATAKANA WA
CIRCLED KATAKANA WI
CIRCLED KATAKANA WE
CIRCLED KATAKANA WO
SQUARE ERA NAME REIWA
SQUARE APAATO
SQUARE ARUHUA
SQUARE ANPEA
SQUARE AARU
SQUARE ININGU
SQUARE INTI
SQUARE UON
SQUARE ESUKUUDO
SQUARE EEKAA
SQUARE ONSU
SQUARE OOMU
SQUARE KAIRI
SQUARE KARATTO
SQUARE KARORII
SQUARE GARON
SQUARE GANMA
SQUARE GIGA
SQUARE GINII
SQUARE KYURII
SQUARE GIRUDAA
SQUARE KIRO
SQUARE KIROGURAMU
SQUARE KIROMEETORU
SQUARE KIROWATTO
SQUARE GURAMU
SQUARE GURAMUTON
SQUARE KURUZEIRO
SQUARE KUROONE
SQUARE KEESU
SQUARE KORUNA
SQUARE KOOPO
SQUARE SAIKURU
SQUARE SANTIIMU
SQUARE SIRINGU
SQUARE SENTI
SQUARE SENTO
SQUARE DAASU
SQUARE DESI
SQUARE DORU
SQUARE TON
SQUARE NANO
SQUARE NOTTO
SQUARE HAITU
SQUARE PAASENTO
SQUARE PAATU
SQUARE BAARERU
SQUARE PIASUTORU
SQUARE PIKURU
SQUARE PIKO
SQUARE BIRU
SQUARE HUARADDO
SQUARE HUIITO
SQUARE BUSSYERU
SQUARE HURAN
SQUARE HEKUTAARU
SQUARE PESO
SQUARE PENIHI
SQUARE HERUTU
SQUARE PENSU
SQUARE PEEZI
SQUARE BEETA
SQUARE POINTO
SQUARE BORUTO
SQUARE HON
SQUARE PONDO
SQUARE HOORU
SQUARE HOON
SQUARE MAIKURO
SQUARE MAIRU
SQUARE MAHHA
SQUARE MARUKU
SQUARE MANSYON
SQUARE MIKURON
SQUARE MIRI
SQUARE MIRIBAARU
SQUARE MEGA
SQUARE MEGATON
SQUARE MEETORU
SQUARE YAADO
SQUARE YAARU
SQUARE YUAN
SQUARE RITTORU
SQUARE RIRA
SQUARE RUPII
SQUARE RUUBURU
SQUARE REMU
SQUARE RENTOGEN
SQUARE WATTO
IDEOGRAPHIC TELEGRAPH SYMBOL FOR HOUR ZERO
IDEOGRAPHIC TELEGRAPH SYMBOL FOR HOUR ONE
IDEOGRAPHIC TELEGRAPH SYMBOL FOR HOUR TWO
IDEOGRAPHIC TELEGRAPH SYMBOL FOR HOUR THREE
IDEOGRAPHIC TELEGRAPH SYMBOL FOR HOUR FOUR
IDEOGRAPHIC TELEGRAPH SYMBOL FOR HOUR FIVE
IDEOGRAPHIC TELEGRAPH SYMBOL FOR HOUR SIX
IDEOGRAPHIC TELEGRAPH SYMBOL FOR HOUR SEVEN
IDEOGRAPHIC TELEGRAPH SYMBOL FOR HOUR EIGHT
IDEOGRAPHIC TELEGRAPH SYMBOL FOR HOUR NINE
IDEOGRAPHIC TELEGRAPH SYMBOL FOR HOUR TEN
IDEOGRAPHIC TELEGRAPH SYMBOL FOR HOUR ELEVEN
IDEOGRAPHIC TELEGRAPH SYMBOL FOR HOUR TWELVE
IDEOGRAPHIC TELEGRAPH SYMBOL FOR HOUR THIRTEEN
IDEOGRAPHIC TELEGRAPH SYMBOL FOR HOUR FOURTEEN
IDEOGRAPHIC TELEGRAPH SYMBOL FOR HOUR FIFTEEN
IDEOGRAPHIC TELEGRAPH SYMBOL FOR HOUR SIXTEEN
IDEOGRAPHIC TELEGRAPH SYMBOL FOR HOUR SEVENTEEN
IDEOGRAPHIC TELEGRAPH SYMBOL FOR HOUR EIGHTEEN
IDEOGRAPHIC TELEGRAPH SYMBOL FOR HOUR NINETEEN
IDEOGRAPHIC TELEGRAPH SYMBOL FOR HOUR TWENTY
IDEOGRAPHIC TELEGRAPH SYMBOL FOR HOUR TWENTY-ONE
IDEOGRAPHIC TELEGRAPH SYMBOL FOR HOUR TWENTY-TWO
IDEOGRAPHIC TELEGRAPH SYMBOL FOR HOUR TWENTY-THREE
IDEOGRAPHIC TELEGRAPH SYMBOL FOR HOUR TWENTY-FOUR
SQUARE HPA
SQUARE DA
SQUARE AU
SQUARE BAR
SQUARE OV
SQUARE PC
SQUARE DM
SQUARE DM SQUARED
SQUARE DM CUBED
SQUARE IU
SQUARE ERA NAME HEISEI
SQUARE ERA NAME SYOUWA
SQUARE ERA NAME TAISYOU
SQUARE ERA NAME MEIZI
SQUARE CORPORATION
SQUARE PA AMPS
SQUARE NA
SQUARE MU A
SQUARE MA
SQUARE KA
SQUARE KB
SQUARE MB
SQUARE GB
SQUARE CAL
SQUARE KCAL
SQUARE PF
SQUARE NF
SQUARE MU F
SQUARE MU G
SQUARE MG
SQUARE KG
SQUARE HZ
SQUARE KHZ
SQUARE MHZ
SQUARE GHZ
SQUARE THZ
SQUARE MU L
SQUARE ML
SQUARE DL
SQUARE KL
SQUARE FM
SQUARE NM
SQUARE MU M
SQUARE MM
SQUARE CM
SQUARE KM
SQUARE MM SQUARED
SQUARE CM SQUARED
SQUARE M SQUARED
SQUARE KM SQUARED
SQUARE MM CUBED
SQUARE CM CUBED
SQUARE M CUBED
SQUARE KM CUBED
SQUARE M OVER S
SQUARE M OVER S SQUARED
SQUARE PA
SQUARE KPA
SQUARE MPA
SQUARE GPA
SQUARE RAD
SQUARE RAD OVER S
SQUARE RAD OVER S SQUARED
SQUARE PS
SQUARE NS
SQUARE MU S
SQUARE MS
SQUARE PV
SQUARE NV
SQUARE MU V
SQUARE MV
SQUARE KV
SQUARE MV MEGA
SQUARE PW
SQUARE NW
SQUARE MU W
SQUARE MW
SQUARE KW
SQUARE MW MEGA
SQUARE K OHM
SQUARE M OHM
SQUARE AM
SQUARE BQ
SQUARE CC
SQUARE CD
SQUARE C OVER KG
SQUARE CO
SQUARE DB
SQUARE GY
SQUARE HA
SQUARE HP
SQUARE IN
SQUARE KK
SQUARE KM CAPITAL
SQUARE KT
SQUARE LM
SQUARE LN
SQUARE LOG
SQUARE LX
SQUARE MB SMALL
SQUARE MIL
SQUARE MOL
SQUARE PH
SQUARE PM
SQUARE PPM
SQUARE PR
SQUARE SR
SQUARE SV
SQUARE WB
SQUARE V OVER M
SQUARE A OVER M
IDEOGRAPHIC TELEGRAPH SYMBOL FOR DAY ONE
IDEOGRAPHIC TELEGRAPH SYMBOL FOR DAY TWO
IDEOGRAPHIC TELEGRAPH SYMBOL FOR DAY THREE
IDEOGRAPHIC TELEGRAPH SYMBOL FOR DAY FOUR
IDEOGRAPHIC TELEGRAPH SYMBOL FOR DAY FIVE
IDEOGRAPHIC TELEGRAPH SYMBOL FOR DAY SIX
IDEOGRAPHIC TELEGRAPH SYMBOL FOR DAY SEVEN
IDEOGRAPHIC TELEGRAPH SYMBOL FOR DAY EIGHT
IDEOGRAPHIC TELEGRAPH SYMBOL FOR DAY NINE
IDEOGRAPHIC TELEGRAPH SYMBOL FOR DAY TEN
IDEOGRAPHIC TELEGRAPH SYMBOL FOR DAY ELEVEN
IDEOGRAPHIC TELEGRAPH SYMBOL FOR DAY TWELVE
IDEOGRAPHIC TELEGRAPH SYMBOL FOR DAY THIRTEEN
IDEOGRAPHIC TELEGRAPH SYMBOL FOR DAY FOURTEEN
IDEOGRAPHIC TELEGRAPH SYMBOL FOR DAY FIFTEEN
IDEOGRAPHIC TELEGRAPH SYMBOL FOR DAY SIXTEEN
IDEOGRAPHIC TELEGRAPH SYMBOL FOR DAY SEVENTEEN
IDEOGRAPHIC TELEGRAPH SYMBOL FOR DAY EIGHTEEN
IDEOGRAPHIC TELEGRAPH SYMBOL FOR DAY NINETEEN
IDEOGRAPHIC TELEGRAPH SYMBOL FOR DAY TWENTY
IDEOGRAPHIC TELEGRAPH SYMBOL FOR DAY TWENTY-ONE
IDEOGRAPHIC TELEGRAPH SYMBOL FOR DAY TWENTY-TWO
IDEOGRAPHIC TELEGRAPH SYMBOL FOR DAY TWENTY-THREE
IDEOGRAPHIC TELEGRAPH SYMBOL FOR DAY TWENTY-FOUR
IDEOGRAPHIC TELEGRAPH SYMBOL FOR DAY TWENTY-FIVE
IDEOGRAPHIC TELEGRAPH SYMBOL FOR DAY TWENTY-SIX
IDEOGRAPHIC TELEGRAPH SYMBOL FOR DAY TWENTY-SEVEN
IDEOGRAPHIC TELEGRAPH SYMBOL FOR DAY TWENTY-EIGHT
IDEOGRAPHIC TELEGRAPH SYMBOL FOR DAY TWENTY-NINE
IDEOGRAPHIC TELEGRAPH SYMBOL FOR DAY THIRTY
IDEOGRAPHIC TELEGRAPH SYMBOL FOR DAY THIRTY-ONE
SQUARE GAL"

def symbolsE : String := "@4DC0
HEXAGRAM FOR THE CREATIVE HEAVEN
HEXAGRAM FOR THE RECEPTIVE EARTH
HEXAGRAM FOR DIFFICULTY AT THE BEGINNING
HEXAGRAM FOR YOUTHFUL FOLLY
HEXAGRAM FOR WAITING
HEXAGRAM FOR CONFLICT
HEXAGRAM FOR THE ARMY
HEXAGRAM FOR HOLDING TOGETHER
HEXAGRAM FOR SMALL TAMING
HEXAGRAM FOR TREADING
HEXAGRAM FOR PEACE
HEXAGRAM FOR STANDSTILL
HEXAGRAM FOR FELLOWSHIP
HEXAGRAM FOR GREAT POSSESSION
HEXAGRAM FOR MODESTY
HEXAGRAM FOR ENTHUSIASM
HEXAGRAM FOR FOLLOWING
HEXAGRAM FOR WORK ON THE DECAYED
HEXAGRAM FOR APPROACH
HEXAGRAM FOR CONTEMPLATION
HEXAGRAM FOR BITING THROUGH
HEXAGRAM FOR GRACE
HEXAGRAM FOR SPLITTING APART
HEXAGRAM FOR RETURN
HEXAGRAM FOR INNOCENCE
HEXAGRAM FOR GREAT TAMING
HEXAGRAM FOR MOUTH CORNERS
HEXAGRAM FOR GREAT PREPONDERANCE
HEXAGRAM FOR THE ABYSMAL WATER
HEXAGRAM FOR THE CLINGING FIRE
HEXAGRAM FOR INFLUENCE
HEXAGRAM FOR DURATION
HEXAGRAM FOR RETREAT
HEXAGRAM FOR GREAT POWER
HEXAGRAM FOR PROGRESS
HEXAGRAM FOR DARKENING OF THE LIGHT
HEXAGRAM FOR THE FAMILY
HEXAGRAM FOR OPPOSITION
HEXAGRAM FOR OBSTRUCTION
HEXAGRAM FOR DELIVERANCE
HEXAGRAM FOR DECREASE
HEXAGRAM FOR INCREASE
HEXAGRAM FOR BREAKTHROUGH
HEXAGRAM FOR COMING TO MEET
HEXAGRAM FOR GATHERING TOGETHER
HEXAGRAM FOR PUSHING UPWARD
HEXAGRAM FOR OPPRESSION
HEXAGRAM FOR THE WELL
HEXAGRAM FOR REVOLUTION
HEXAGRAM FOR THE CAULDRON
HEXAGRAM FOR THE AROUSING THUNDER
HEXAGRAM FOR THE KEEPING STILL MOUNTAIN
HEXAGRAM FOR DEVELOPMENT
HEXAGRAM FOR THE MARRYING MAIDEN
HEXAGRAM FOR ABUNDANCE
HEXAGRAM FOR THE WANDERER
HEXAGRAM FOR THE GENTLE WIND
HEXAGRAM FOR THE JOYOUS LAKE
HEXAGRAM FOR DISPERSION
HEXAGRAM FOR LIMITATION
HEXAGRAM FOR INNER TRUTH
HEXAGRAM FOR SMALL PREPONDERANCE
HEXAGRAM FOR AFTER COMPLETION
HEXAGRAM FOR BEFORE COMPLETION"

def symbols : List String := [symbolsA, symbolsB, symbolsC, symbolsD, symbolsE]

end CharacterName
end RuleDraft
