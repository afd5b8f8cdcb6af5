import BundleAtlas.Text.CharacterName.Run

/-!
Names of combining marks, punctuation, currency signs, letterlike signs, arrows, operators, shapes
and dingbats.
-/

namespace BundleAtlas.Text

/-- The names of signs. -/
def signNames : List NameRun := [
    ⟨0x300, 1, "COMBINING ", [
      "GRAVE ACCENT,ACUTE ACCENT,CIRCUMFLEX ACCENT,TILDE,MACRON,OVERLINE,BREVE,DOT ABOVE,",
      "DIAERESIS,HOOK ABOVE,RING ABOVE,DOUBLE ACUTE ACCENT,CARON,VERTICAL LINE ABOVE,",
      "DOUBLE VERTICAL LINE ABOVE,DOUBLE GRAVE ACCENT,CANDRABINDU,INVERTED BREVE,",
      "TURNED COMMA ABOVE,COMMA ABOVE,REVERSED COMMA ABOVE,COMMA ABOVE RIGHT,GRAVE ACCENT BELOW,",
      "ACUTE ACCENT BELOW,LEFT TACK BELOW,RIGHT TACK BELOW,LEFT ANGLE ABOVE,HORN,",
      "LEFT HALF RING BELOW,UP TACK BELOW,DOWN TACK BELOW,PLUS SIGN BELOW,MINUS SIGN BELOW,",
      "PALATALIZED HOOK BELOW,RETROFLEX HOOK BELOW,DOT BELOW,DIAERESIS BELOW,RING BELOW,",
      "COMMA BELOW,CEDILLA,OGONEK,VERTICAL LINE BELOW,BRIDGE BELOW,INVERTED DOUBLE ARCH BELOW,",
      "CARON BELOW,CIRCUMFLEX ACCENT BELOW,BREVE BELOW,INVERTED BREVE BELOW,TILDE BELOW,",
      "MACRON BELOW,LOW LINE,DOUBLE LOW LINE,TILDE OVERLAY,SHORT STROKE OVERLAY,",
      "LONG STROKE OVERLAY,SHORT SOLIDUS OVERLAY,LONG SOLIDUS OVERLAY,RIGHT HALF RING BELOW,",
      "INVERTED BRIDGE BELOW,SQUARE BELOW,SEAGULL BELOW,X ABOVE,VERTICAL TILDE,DOUBLE OVERLINE,",
      "GRAVE TONE MARK,ACUTE TONE MARK,GREEK PERISPOMENI,GREEK KORONIS,GREEK DIALYTIKA TONOS,",
      "GREEK YPOGEGRAMMENI,BRIDGE ABOVE,EQUALS SIGN BELOW,DOUBLE VERTICAL LINE BELOW,",
      "LEFT ANGLE BELOW,NOT TILDE ABOVE,HOMOTHETIC ABOVE,ALMOST EQUAL TO ABOVE,",
      "LEFT RIGHT ARROW BELOW,UPWARDS ARROW BELOW,GRAPHEME JOINER,RIGHT ARROWHEAD ABOVE,",
      "LEFT HALF RING ABOVE,FERMATA,X BELOW,LEFT ARROWHEAD BELOW,RIGHT ARROWHEAD BELOW,",
      "RIGHT ARROWHEAD AND UP ARROWHEAD BELOW,RIGHT HALF RING ABOVE,DOT ABOVE RIGHT,",
      "ASTERISK BELOW,DOUBLE RING BELOW,ZIGZAG ABOVE"]⟩,
    ⟨0x35c, 1, "COMBINING DOUBLE ", [
      "BREVE BELOW,BREVE,MACRON,MACRON BELOW,TILDE,INVERTED BREVE,RIGHTWARDS ARROW BELOW"]⟩,
    ⟨0x363, 1, "COMBINING LATIN SMALL LETTER ", ["A,E,I,O,U,C,D,H,M,R,T,V,X"]⟩,
    ⟨0x2000, 1, "", [
      "EN QUAD,EM QUAD,EN SPACE,EM SPACE,THREE-PER-EM SPACE,FOUR-PER-EM SPACE,SIX-PER-EM SPACE,",
      "FIGURE SPACE,PUNCTUATION SPACE,THIN SPACE,HAIR SPACE,ZERO WIDTH SPACE,",
      "ZERO WIDTH NON-JOINER,ZERO WIDTH JOINER,LEFT-TO-RIGHT MARK,RIGHT-TO-LEFT MARK,HYPHEN,",
      "NON-BREAKING HYPHEN,FIGURE DASH,EN DASH,EM DASH,HORIZONTAL BAR,DOUBLE VERTICAL LINE,",
      "DOUBLE LOW LINE,LEFT SINGLE QUOTATION MARK,RIGHT SINGLE QUOTATION MARK,",
      "SINGLE LOW-9 QUOTATION MARK,SINGLE HIGH-REVERSED-9 QUOTATION MARK,",
      "LEFT DOUBLE QUOTATION MARK,RIGHT DOUBLE QUOTATION MARK,DOUBLE LOW-9 QUOTATION MARK,",
      "DOUBLE HIGH-REVERSED-9 QUOTATION MARK,DAGGER,DOUBLE DAGGER,BULLET,TRIANGULAR BULLET,",
      "ONE DOT LEADER,TWO DOT LEADER,HORIZONTAL ELLIPSIS,HYPHENATION POINT,LINE SEPARATOR,",
      "PARAGRAPH SEPARATOR,LEFT-TO-RIGHT EMBEDDING,RIGHT-TO-LEFT EMBEDDING,",
      "POP DIRECTIONAL FORMATTING,LEFT-TO-RIGHT OVERRIDE,RIGHT-TO-LEFT OVERRIDE,",
      "NARROW NO-BREAK SPACE,PER MILLE SIGN,PER TEN THOUSAND SIGN,PRIME,DOUBLE PRIME,",
      "TRIPLE PRIME,REVERSED PRIME,REVERSED DOUBLE PRIME,REVERSED TRIPLE PRIME,CARET,",
      "SINGLE LEFT-POINTING ANGLE QUOTATION MARK,SINGLE RIGHT-POINTING ANGLE QUOTATION MARK,",
      "REFERENCE MARK,DOUBLE EXCLAMATION MARK,INTERROBANG,OVERLINE,UNDERTIE,CHARACTER TIE,",
      "CARET INSERTION POINT,ASTERISM,HYPHEN BULLET,FRACTION SLASH,",
      "LEFT SQUARE BRACKET WITH QUILL,RIGHT SQUARE BRACKET WITH QUILL,DOUBLE QUESTION MARK,",
      "QUESTION EXCLAMATION MARK,EXCLAMATION QUESTION MARK,TIRONIAN SIGN ET,",
      "REVERSED PILCROW SIGN,BLACK LEFTWARDS BULLET,BLACK RIGHTWARDS BULLET,LOW ASTERISK,",
      "REVERSED SEMICOLON,CLOSE UP,TWO ASTERISKS ALIGNED VERTICALLY,COMMERCIAL MINUS SIGN,",
      "SWUNG DASH,INVERTED UNDERTIE,FLOWER PUNCTUATION MARK,THREE DOT PUNCTUATION,",
      "QUADRUPLE PRIME,FOUR DOT PUNCTUATION,FIVE DOT PUNCTUATION,TWO DOT PUNCTUATION,",
      "FOUR DOT MARK,DOTTED CROSS,TRICOLON,VERTICAL FOUR DOTS,MEDIUM MATHEMATICAL SPACE,",
      "WORD JOINER,FUNCTION APPLICATION,INVISIBLE TIMES,INVISIBLE SEPARATOR,INVISIBLE PLUS"]⟩,
    ⟨0x2066, 1, "", [
      "LEFT-TO-RIGHT ISOLATE,RIGHT-TO-LEFT ISOLATE,FIRST STRONG ISOLATE,POP DIRECTIONAL ISOLATE,",
      "INHIBIT SYMMETRIC SWAPPING,ACTIVATE SYMMETRIC SWAPPING,INHIBIT ARABIC FORM SHAPING,",
      "ACTIVATE ARABIC FORM SHAPING,NATIONAL DIGIT SHAPES,NOMINAL DIGIT SHAPES"]⟩,
    ⟨0x20a0, 1, "", [
      "EURO-CURRENCY SIGN,COLON SIGN,CRUZEIRO SIGN,FRENCH FRANC SIGN,LIRA SIGN,MILL SIGN,",
      "NAIRA SIGN,PESETA SIGN,RUPEE SIGN,WON SIGN,NEW SHEQEL SIGN,DONG SIGN,EURO SIGN,KIP SIGN,",
      "TUGRIK SIGN,DRACHMA SIGN,GERMAN PENNY SIGN,PESO SIGN,GUARANI SIGN,AUSTRAL SIGN,",
      "HRYVNIA SIGN,CEDI SIGN,LIVRE TOURNOIS SIGN,SPESMILO SIGN,TENGE SIGN,INDIAN RUPEE SIGN,",
      "TURKISH LIRA SIGN,NORDIC MARK SIGN,MANAT SIGN,RUBLE SIGN,LARI SIGN,BITCOIN SIGN"]⟩,
    ⟨0x2100, 1, "", [
      "ACCOUNT OF,ADDRESSED TO THE SUBJECT,DOUBLE-STRUCK CAPITAL C,DEGREE CELSIUS,",
      "CENTRE LINE SYMBOL,CARE OF,CADA UNA,EULER CONSTANT,SCRUPLE,DEGREE FAHRENHEIT,",
      "SCRIPT SMALL G,SCRIPT CAPITAL H,BLACK-LETTER CAPITAL H,DOUBLE-STRUCK CAPITAL H,",
      "PLANCK CONSTANT,PLANCK CONSTANT OVER TWO PI,SCRIPT CAPITAL I,BLACK-LETTER CAPITAL I,",
      "SCRIPT CAPITAL L,SCRIPT SMALL L,L B BAR SYMBOL,DOUBLE-STRUCK CAPITAL N,NUMERO SIGN,",
      "SOUND RECORDING COPYRIGHT,SCRIPT CAPITAL P,DOUBLE-STRUCK CAPITAL P,",
      "DOUBLE-STRUCK CAPITAL Q,SCRIPT CAPITAL R,BLACK-LETTER CAPITAL R,DOUBLE-STRUCK CAPITAL R,",
      "PRESCRIPTION TAKE,RESPONSE,SERVICE MARK,TELEPHONE SIGN,TRADE MARK SIGN,VERSICLE,",
      "DOUBLE-STRUCK CAPITAL Z,OUNCE SIGN,OHM SIGN,INVERTED OHM SIGN,BLACK-LETTER CAPITAL Z,",
      "TURNED GREEK SMALL LETTER IOTA,KELVIN SIGN,ANGSTROM SIGN,SCRIPT CAPITAL B,",
      "BLACK-LETTER CAPITAL C,ESTIMATED SYMBOL,SCRIPT SMALL E,SCRIPT CAPITAL E,SCRIPT CAPITAL F,",
      "TURNED CAPITAL F,SCRIPT CAPITAL M,SCRIPT SMALL O,ALEF SYMBOL,BET SYMBOL,GIMEL SYMBOL,",
      "DALET SYMBOL,INFORMATION SOURCE,ROTATED CAPITAL Q,FACSIMILE SIGN,DOUBLE-STRUCK SMALL PI,",
      "DOUBLE-STRUCK SMALL GAMMA,DOUBLE-STRUCK CAPITAL GAMMA,DOUBLE-STRUCK CAPITAL PI,",
      "DOUBLE-STRUCK N-ARY SUMMATION,TURNED SANS-SERIF CAPITAL G,TURNED SANS-SERIF CAPITAL L,",
      "REVERSED SANS-SERIF CAPITAL L,TURNED SANS-SERIF CAPITAL Y"]⟩,
    ⟨0x2145, 1, "DOUBLE-STRUCK ITALIC ", ["CAPITAL D,SMALL D,SMALL E,SMALL I,SMALL J"]⟩,
    ⟨0x214a, 1, "", [
      "PROPERTY LINE,TURNED AMPERSAND,PER SIGN,AKTIESELSKAB,TURNED SMALL F,",
      "SYMBOL FOR SAMARITAN SOURCE"]⟩,
    ⟨0x2150, 1, "VULGAR FRACTION ", [
      "ONE SEVENTH,ONE NINTH,ONE TENTH,ONE THIRD,TWO THIRDS,ONE FIFTH,TWO FIFTHS,THREE FIFTHS,",
      "FOUR FIFTHS,ONE SIXTH,FIVE SIXTHS,ONE EIGHTH,THREE EIGHTHS,FIVE EIGHTHS,SEVEN EIGHTHS"]⟩,
    ⟨0x215f, 1, "FRACTION NUMERATOR ", ["ONE"]⟩,
    ⟨0x2160, 1, "ROMAN NUMERAL ", [
      "ONE,TWO,THREE,FOUR,FIVE,SIX,SEVEN,EIGHT,NINE,TEN,ELEVEN,TWELVE,FIFTY,ONE HUNDRED,",
      "FIVE HUNDRED,ONE THOUSAND"]⟩,
    ⟨0x2170, 1, "SMALL ROMAN NUMERAL ", [
      "ONE,TWO,THREE,FOUR,FIVE,SIX,SEVEN,EIGHT,NINE,TEN,ELEVEN,TWELVE,FIFTY,ONE HUNDRED,",
      "FIVE HUNDRED,ONE THOUSAND"]⟩,
    ⟨0x2180, 1, "ROMAN NUMERAL ", [
      "ONE THOUSAND C D,FIVE THOUSAND,TEN THOUSAND,REVERSED ONE HUNDRED"]⟩,
    ⟨0x2184, 1, "", [
      "LATIN SMALL LETTER REVERSED C,ROMAN NUMERAL SIX LATE FORM,ROMAN NUMERAL FIFTY EARLY FORM,",
      "ROMAN NUMERAL FIFTY THOUSAND,ROMAN NUMERAL ONE HUNDRED THOUSAND,",
      "VULGAR FRACTION ZERO THIRDS,TURNED DIGIT TWO,TURNED DIGIT THREE"]⟩,
    ⟨0x2190, 1, "", [
      "LEFTWARDS ARROW,UPWARDS ARROW,RIGHTWARDS ARROW,DOWNWARDS ARROW,LEFT RIGHT ARROW,",
      "UP DOWN ARROW,NORTH WEST ARROW,NORTH EAST ARROW,SOUTH EAST ARROW,SOUTH WEST ARROW,",
      "LEFTWARDS ARROW WITH STROKE,RIGHTWARDS ARROW WITH STROKE,LEFTWARDS WAVE ARROW,",
      "RIGHTWARDS WAVE ARROW,LEFTWARDS TWO HEADED ARROW,UPWARDS TWO HEADED ARROW,",
      "RIGHTWARDS TWO HEADED ARROW,DOWNWARDS TWO HEADED ARROW,LEFTWARDS ARROW WITH TAIL,",
      "RIGHTWARDS ARROW WITH TAIL,LEFTWARDS ARROW FROM BAR,UPWARDS ARROW FROM BAR,",
      "RIGHTWARDS ARROW FROM BAR,DOWNWARDS ARROW FROM BAR,UP DOWN ARROW WITH BASE,",
      "LEFTWARDS ARROW WITH HOOK,RIGHTWARDS ARROW WITH HOOK,LEFTWARDS ARROW WITH LOOP,",
      "RIGHTWARDS ARROW WITH LOOP,LEFT RIGHT WAVE ARROW,LEFT RIGHT ARROW WITH STROKE,",
      "DOWNWARDS ZIGZAG ARROW,UPWARDS ARROW WITH TIP LEFTWARDS,UPWARDS ARROW WITH TIP RIGHTWARDS,",
      "DOWNWARDS ARROW WITH TIP LEFTWARDS,DOWNWARDS ARROW WITH TIP RIGHTWARDS,",
      "RIGHTWARDS ARROW WITH CORNER DOWNWARDS,DOWNWARDS ARROW WITH CORNER LEFTWARDS,",
      "ANTICLOCKWISE TOP SEMICIRCLE ARROW,CLOCKWISE TOP SEMICIRCLE ARROW,",
      "NORTH WEST ARROW TO LONG BAR,LEFTWARDS ARROW TO BAR OVER RIGHTWARDS ARROW TO BAR,",
      "ANTICLOCKWISE OPEN CIRCLE ARROW,CLOCKWISE OPEN CIRCLE ARROW,",
      "LEFTWARDS HARPOON WITH BARB UPWARDS,LEFTWARDS HARPOON WITH BARB DOWNWARDS,",
      "UPWARDS HARPOON WITH BARB RIGHTWARDS,UPWARDS HARPOON WITH BARB LEFTWARDS,",
      "RIGHTWARDS HARPOON WITH BARB UPWARDS,RIGHTWARDS HARPOON WITH BARB DOWNWARDS,",
      "DOWNWARDS HARPOON WITH BARB RIGHTWARDS,DOWNWARDS HARPOON WITH BARB LEFTWARDS,",
      "RIGHTWARDS ARROW OVER LEFTWARDS ARROW,UPWARDS ARROW LEFTWARDS OF DOWNWARDS ARROW,",
      "LEFTWARDS ARROW OVER RIGHTWARDS ARROW,LEFTWARDS PAIRED ARROWS,UPWARDS PAIRED ARROWS,",
      "RIGHTWARDS PAIRED ARROWS,DOWNWARDS PAIRED ARROWS,",
      "LEFTWARDS HARPOON OVER RIGHTWARDS HARPOON,RIGHTWARDS HARPOON OVER LEFTWARDS HARPOON,",
      "LEFTWARDS DOUBLE ARROW WITH STROKE,LEFT RIGHT DOUBLE ARROW WITH STROKE,",
      "RIGHTWARDS DOUBLE ARROW WITH STROKE,LEFTWARDS DOUBLE ARROW,UPWARDS DOUBLE ARROW,",
      "RIGHTWARDS DOUBLE ARROW,DOWNWARDS DOUBLE ARROW,LEFT RIGHT DOUBLE ARROW,",
      "UP DOWN DOUBLE ARROW,NORTH WEST DOUBLE ARROW,NORTH EAST DOUBLE ARROW,",
      "SOUTH EAST DOUBLE ARROW,SOUTH WEST DOUBLE ARROW,LEFTWARDS TRIPLE ARROW,",
      "RIGHTWARDS TRIPLE ARROW,LEFTWARDS SQUIGGLE ARROW,RIGHTWARDS SQUIGGLE ARROW,",
      "UPWARDS ARROW WITH DOUBLE STROKE,DOWNWARDS ARROW WITH DOUBLE STROKE,",
      "LEFTWARDS DASHED ARROW,UPWARDS DASHED ARROW,RIGHTWARDS DASHED ARROW,",
      "DOWNWARDS DASHED ARROW,LEFTWARDS ARROW TO BAR,RIGHTWARDS ARROW TO BAR,",
      "LEFTWARDS WHITE ARROW,UPWARDS WHITE ARROW,RIGHTWARDS WHITE ARROW,DOWNWARDS WHITE ARROW"]⟩,
    ⟨0x21ea, 1, "UPWARDS WHITE ", [
      "ARROW FROM BAR,ARROW ON PEDESTAL,ARROW ON PEDESTAL WITH HORIZONTAL BAR,",
      "ARROW ON PEDESTAL WITH VERTICAL BAR,DOUBLE ARROW,DOUBLE ARROW ON PEDESTAL"]⟩,
    ⟨0x21f0, 1, "", [
      "RIGHTWARDS WHITE ARROW FROM WALL,NORTH WEST ARROW TO CORNER,SOUTH EAST ARROW TO CORNER,",
      "UP DOWN WHITE ARROW,RIGHT ARROW WITH SMALL CIRCLE,",
      "DOWNWARDS ARROW LEFTWARDS OF UPWARDS ARROW,THREE RIGHTWARDS ARROWS,",
      "LEFTWARDS ARROW WITH VERTICAL STROKE,RIGHTWARDS ARROW WITH VERTICAL STROKE,",
      "LEFT RIGHT ARROW WITH VERTICAL STROKE,LEFTWARDS ARROW WITH DOUBLE VERTICAL STROKE,",
      "RIGHTWARDS ARROW WITH DOUBLE VERTICAL STROKE,LEFT RIGHT ARROW WITH DOUBLE VERTICAL STROKE,",
      "LEFTWARDS OPEN-HEADED ARROW,RIGHTWARDS OPEN-HEADED ARROW,LEFT RIGHT OPEN-HEADED ARROW"]⟩,
    ⟨0x2200, 1, "", ["FOR ALL,COMPLEMENT,PARTIAL DIFFERENTIAL"]⟩,
    ⟨0x2203, 1, "", [
      "THERE EXISTS,THERE DOES NOT EXIST,EMPTY SET,INCREMENT,NABLA,ELEMENT OF,NOT AN ELEMENT OF,",
      "SMALL ELEMENT OF,CONTAINS AS MEMBER,DOES NOT CONTAIN AS MEMBER,SMALL CONTAINS AS MEMBER,",
      "END OF PROOF,N-ARY PRODUCT,N-ARY COPRODUCT,N-ARY SUMMATION,MINUS SIGN,MINUS-OR-PLUS SIGN,",
      "DOT PLUS,DIVISION SLASH,SET MINUS,ASTERISK OPERATOR,RING OPERATOR,BULLET OPERATOR,",
      "SQUARE ROOT,CUBE ROOT,FOURTH ROOT,PROPORTIONAL TO,INFINITY,RIGHT ANGLE,ANGLE,",
      "MEASURED ANGLE,SPHERICAL ANGLE,DIVIDES,DOES NOT DIVIDE,PARALLEL TO,NOT PARALLEL TO,",
      "LOGICAL AND,LOGICAL OR,INTERSECTION,UNION,INTEGRAL,DOUBLE INTEGRAL,TRIPLE INTEGRAL,",
      "CONTOUR INTEGRAL,SURFACE INTEGRAL,VOLUME INTEGRAL,CLOCKWISE INTEGRAL,",
      "CLOCKWISE CONTOUR INTEGRAL,ANTICLOCKWISE CONTOUR INTEGRAL,THEREFORE,BECAUSE,RATIO,",
      "PROPORTION,DOT MINUS,EXCESS,GEOMETRIC PROPORTION,HOMOTHETIC,TILDE OPERATOR,REVERSED TILDE,",
      "INVERTED LAZY S,SINE WAVE,WREATH PRODUCT,NOT TILDE,MINUS TILDE,ASYMPTOTICALLY EQUAL TO,",
      "NOT ASYMPTOTICALLY EQUAL TO,APPROXIMATELY EQUAL TO,",
      "APPROXIMATELY BUT NOT ACTUALLY EQUAL TO,NEITHER APPROXIMATELY NOR ACTUALLY EQUAL TO,",
      "ALMOST EQUAL TO,NOT ALMOST EQUAL TO,ALMOST EQUAL OR EQUAL TO,TRIPLE TILDE,ALL EQUAL TO,",
      "EQUIVALENT TO,GEOMETRICALLY EQUIVALENT TO,DIFFERENCE BETWEEN,APPROACHES THE LIMIT,",
      "GEOMETRICALLY EQUAL TO,APPROXIMATELY EQUAL TO OR THE IMAGE OF,",
      "IMAGE OF OR APPROXIMATELY EQUAL TO,COLON EQUALS,EQUALS COLON,RING IN EQUAL TO,",
      "RING EQUAL TO,CORRESPONDS TO,ESTIMATES,EQUIANGULAR TO,STAR EQUALS,DELTA EQUAL TO,",
      "EQUAL TO BY DEFINITION,MEASURED BY,QUESTIONED EQUAL TO,NOT EQUAL TO,IDENTICAL TO,",
      "NOT IDENTICAL TO,STRICTLY EQUIVALENT TO,LESS-THAN OR EQUAL TO,GREATER-THAN OR EQUAL TO,",
      "LESS-THAN OVER EQUAL TO,GREATER-THAN OVER EQUAL TO,LESS-THAN BUT NOT EQUAL TO,",
      "GREATER-THAN BUT NOT EQUAL TO,MUCH LESS-THAN,MUCH GREATER-THAN,BETWEEN,NOT EQUIVALENT TO,",
      "NOT LESS-THAN,NOT GREATER-THAN,NEITHER LESS-THAN NOR EQUAL TO,",
      "NEITHER GREATER-THAN NOR EQUAL TO,LESS-THAN OR EQUIVALENT TO,",
      "GREATER-THAN OR EQUIVALENT TO,NEITHER LESS-THAN NOR EQUIVALENT TO,",
      "NEITHER GREATER-THAN NOR EQUIVALENT TO,LESS-THAN OR GREATER-THAN,",
      "GREATER-THAN OR LESS-THAN,NEITHER LESS-THAN NOR GREATER-THAN,",
      "NEITHER GREATER-THAN NOR LESS-THAN,PRECEDES,SUCCEEDS,PRECEDES OR EQUAL TO,",
      "SUCCEEDS OR EQUAL TO,PRECEDES OR EQUIVALENT TO,SUCCEEDS OR EQUIVALENT TO,DOES NOT PRECEDE,",
      "DOES NOT SUCCEED,SUBSET OF,SUPERSET OF,NOT A SUBSET OF,NOT A SUPERSET OF,",
      "SUBSET OF OR EQUAL TO,SUPERSET OF OR EQUAL TO,NEITHER A SUBSET OF NOR EQUAL TO,",
      "NEITHER A SUPERSET OF NOR EQUAL TO,SUBSET OF WITH NOT EQUAL TO,",
      "SUPERSET OF WITH NOT EQUAL TO,MULTISET,MULTISET MULTIPLICATION,MULTISET UNION"]⟩,
    ⟨0x228f, 1, "SQUARE ", [
      "IMAGE OF,ORIGINAL OF,IMAGE OF OR EQUAL TO,ORIGINAL OF OR EQUAL TO,CAP,CUP"]⟩,
    ⟨0x2295, 1, "CIRCLED ", [
      "PLUS,MINUS,TIMES,DIVISION SLASH,DOT OPERATOR,RING OPERATOR,ASTERISK OPERATOR,EQUALS,DASH"]⟩,
    ⟨0x229e, 1, "", [
      "SQUARED PLUS,SQUARED MINUS,SQUARED TIMES,SQUARED DOT OPERATOR,RIGHT TACK,LEFT TACK,",
      "DOWN TACK,UP TACK,ASSERTION,MODELS,TRUE,FORCES,TRIPLE VERTICAL BAR RIGHT TURNSTILE,",
      "DOUBLE VERTICAL BAR DOUBLE RIGHT TURNSTILE,DOES NOT PROVE,NOT TRUE,DOES NOT FORCE,",
      "NEGATED DOUBLE VERTICAL BAR DOUBLE RIGHT TURNSTILE,PRECEDES UNDER RELATION,",
      "SUCCEEDS UNDER RELATION,NORMAL SUBGROUP OF,CONTAINS AS NORMAL SUBGROUP,",
      "NORMAL SUBGROUP OF OR EQUAL TO,CONTAINS AS NORMAL SUBGROUP OR EQUAL TO,ORIGINAL OF,",
      "IMAGE OF,MULTIMAP,HERMITIAN CONJUGATE MATRIX,INTERCALATE,XOR,NAND,NOR,",
      "RIGHT ANGLE WITH ARC,RIGHT TRIANGLE,N-ARY LOGICAL AND,N-ARY LOGICAL OR,N-ARY INTERSECTION,",
      "N-ARY UNION,DIAMOND OPERATOR,DOT OPERATOR,STAR OPERATOR,DIVISION TIMES,BOWTIE,",
      "LEFT NORMAL FACTOR SEMIDIRECT PRODUCT,RIGHT NORMAL FACTOR SEMIDIRECT PRODUCT,",
      "LEFT SEMIDIRECT PRODUCT,RIGHT SEMIDIRECT PRODUCT,REVERSED TILDE EQUALS,CURLY LOGICAL OR,",
      "CURLY LOGICAL AND,DOUBLE SUBSET,DOUBLE SUPERSET,DOUBLE INTERSECTION,DOUBLE UNION,",
      "PITCHFORK,EQUAL AND PARALLEL TO,LESS-THAN WITH DOT,GREATER-THAN WITH DOT,",
      "VERY MUCH LESS-THAN,VERY MUCH GREATER-THAN,LESS-THAN EQUAL TO OR GREATER-THAN,",
      "GREATER-THAN EQUAL TO OR LESS-THAN,EQUAL TO OR LESS-THAN,EQUAL TO OR GREATER-THAN,",
      "EQUAL TO OR PRECEDES,EQUAL TO OR SUCCEEDS,DOES NOT PRECEDE OR EQUAL,",
      "DOES NOT SUCCEED OR EQUAL,NOT SQUARE IMAGE OF OR EQUAL TO,",
      "NOT SQUARE ORIGINAL OF OR EQUAL TO,SQUARE IMAGE OF OR NOT EQUAL TO,",
      "SQUARE ORIGINAL OF OR NOT EQUAL TO,LESS-THAN BUT NOT EQUIVALENT TO,",
      "GREATER-THAN BUT NOT EQUIVALENT TO,PRECEDES BUT NOT EQUIVALENT TO,",
      "SUCCEEDS BUT NOT EQUIVALENT TO,NOT NORMAL SUBGROUP OF,DOES NOT CONTAIN AS NORMAL SUBGROUP,",
      "NOT NORMAL SUBGROUP OF OR EQUAL TO,DOES NOT CONTAIN AS NORMAL SUBGROUP OR EQUAL,",
      "VERTICAL ELLIPSIS,MIDLINE HORIZONTAL ELLIPSIS,UP RIGHT DIAGONAL ELLIPSIS,",
      "DOWN RIGHT DIAGONAL ELLIPSIS,ELEMENT OF WITH LONG HORIZONTAL STROKE,",
      "ELEMENT OF WITH VERTICAL BAR AT END OF HORIZONTAL STROKE,",
      "SMALL ELEMENT OF WITH VERTICAL BAR AT END OF HORIZONTAL STROKE,ELEMENT OF WITH DOT ABOVE,",
      "ELEMENT OF WITH OVERBAR,SMALL ELEMENT OF WITH OVERBAR,ELEMENT OF WITH UNDERBAR,",
      "ELEMENT OF WITH TWO HORIZONTAL STROKES,CONTAINS WITH LONG HORIZONTAL STROKE,",
      "CONTAINS WITH VERTICAL BAR AT END OF HORIZONTAL STROKE,",
      "SMALL CONTAINS WITH VERTICAL BAR AT END OF HORIZONTAL STROKE,CONTAINS WITH OVERBAR,",
      "SMALL CONTAINS WITH OVERBAR,Z NOTATION BAG MEMBERSHIP"]⟩,
    ⟨0x25a0, 1, "", [
      "BLACK SQUARE,WHITE SQUARE,WHITE SQUARE WITH ROUNDED CORNERS,",
      "WHITE SQUARE CONTAINING BLACK SMALL SQUARE"]⟩,
    ⟨0x25a4, 1, "SQUARE WITH ", [
      "HORIZONTAL FILL,VERTICAL FILL,ORTHOGONAL CROSSHATCH FILL,UPPER LEFT TO LOWER RIGHT FILL,",
      "UPPER RIGHT TO LOWER LEFT FILL,DIAGONAL CROSSHATCH FILL"]⟩,
    ⟨0x25aa, 2, "BLACK ", [
      "SMALL SQUARE,RECTANGLE,VERTICAL RECTANGLE,PARALLELOGRAM,UP-POINTING TRIANGLE,",
      "UP-POINTING SMALL TRIANGLE,RIGHT-POINTING TRIANGLE,RIGHT-POINTING SMALL TRIANGLE,",
      "RIGHT-POINTING POINTER,DOWN-POINTING TRIANGLE,DOWN-POINTING SMALL TRIANGLE,",
      "LEFT-POINTING TRIANGLE,LEFT-POINTING SMALL TRIANGLE,LEFT-POINTING POINTER,DIAMOND"]⟩,
    ⟨0x25ab, 2, "WHITE ", [
      "SMALL SQUARE,RECTANGLE,VERTICAL RECTANGLE,PARALLELOGRAM,UP-POINTING TRIANGLE,",
      "UP-POINTING SMALL TRIANGLE,RIGHT-POINTING TRIANGLE,RIGHT-POINTING SMALL TRIANGLE,",
      "RIGHT-POINTING POINTER,DOWN-POINTING TRIANGLE,DOWN-POINTING SMALL TRIANGLE,",
      "LEFT-POINTING TRIANGLE,LEFT-POINTING SMALL TRIANGLE,LEFT-POINTING POINTER,DIAMOND"]⟩,
    ⟨0x25c8, 1, "", [
      "WHITE DIAMOND CONTAINING BLACK SMALL DIAMOND,FISHEYE,LOZENGE,WHITE CIRCLE,DOTTED CIRCLE,",
      "CIRCLE WITH VERTICAL FILL,BULLSEYE,BLACK CIRCLE,CIRCLE WITH LEFT HALF BLACK,",
      "CIRCLE WITH RIGHT HALF BLACK,CIRCLE WITH LOWER HALF BLACK,CIRCLE WITH UPPER HALF BLACK,",
      "CIRCLE WITH UPPER RIGHT QUADRANT BLACK,CIRCLE WITH ALL BUT UPPER LEFT QUADRANT BLACK,",
      "LEFT HALF BLACK CIRCLE,RIGHT HALF BLACK CIRCLE,INVERSE BULLET,INVERSE WHITE CIRCLE,",
      "UPPER HALF INVERSE WHITE CIRCLE,LOWER HALF INVERSE WHITE CIRCLE,",
      "UPPER LEFT QUADRANT CIRCULAR ARC,UPPER RIGHT QUADRANT CIRCULAR ARC,",
      "LOWER RIGHT QUADRANT CIRCULAR ARC,LOWER LEFT QUADRANT CIRCULAR ARC,UPPER HALF CIRCLE,",
      "LOWER HALF CIRCLE,BLACK LOWER RIGHT TRIANGLE,BLACK LOWER LEFT TRIANGLE,",
      "BLACK UPPER LEFT TRIANGLE,BLACK UPPER RIGHT TRIANGLE,WHITE BULLET,",
      "SQUARE WITH LEFT HALF BLACK,SQUARE WITH RIGHT HALF BLACK,",
      "SQUARE WITH UPPER LEFT DIAGONAL HALF BLACK,SQUARE WITH LOWER RIGHT DIAGONAL HALF BLACK,",
      "WHITE SQUARE WITH VERTICAL BISECTING LINE,WHITE UP-POINTING TRIANGLE WITH DOT,",
      "UP-POINTING TRIANGLE WITH LEFT HALF BLACK,UP-POINTING TRIANGLE WITH RIGHT HALF BLACK,",
      "LARGE CIRCLE"]⟩,
    ⟨0x25f0, 1, "WHITE SQUARE WITH ", [
      "UPPER LEFT QUADRANT,LOWER LEFT QUADRANT,LOWER RIGHT QUADRANT,UPPER RIGHT QUADRANT"]⟩,
    ⟨0x25f4, 1, "WHITE CIRCLE WITH ", [
      "UPPER LEFT QUADRANT,LOWER LEFT QUADRANT,LOWER RIGHT QUADRANT,UPPER RIGHT QUADRANT"]⟩,
    ⟨0x25f8, 1, "", [
      "UPPER LEFT TRIANGLE,UPPER RIGHT TRIANGLE,LOWER LEFT TRIANGLE,WHITE MEDIUM SQUARE,",
      "BLACK MEDIUM SQUARE,WHITE MEDIUM SMALL SQUARE,BLACK MEDIUM SMALL SQUARE,",
      "LOWER RIGHT TRIANGLE"]⟩,
    ⟨0x2600, 1, "", [
      "BLACK SUN WITH RAYS,CLOUD,UMBRELLA,SNOWMAN,COMET,BLACK STAR,WHITE STAR,LIGHTNING,",
      "THUNDERSTORM,SUN,ASCENDING NODE,DESCENDING NODE,CONJUNCTION,OPPOSITION,BLACK TELEPHONE,",
      "WHITE TELEPHONE,BALLOT BOX,BALLOT BOX WITH CHECK,BALLOT BOX WITH X,SALTIRE,",
      "UMBRELLA WITH RAIN DROPS,HOT BEVERAGE,WHITE SHOGI PIECE,BLACK SHOGI PIECE,SHAMROCK,",
      "REVERSED ROTATED FLORAL HEART BULLET,BLACK LEFT POINTING INDEX,BLACK RIGHT POINTING INDEX,",
      "WHITE LEFT POINTING INDEX,WHITE UP POINTING INDEX,WHITE RIGHT POINTING INDEX,",
      "WHITE DOWN POINTING INDEX,SKULL AND CROSSBONES,CAUTION SIGN,RADIOACTIVE SIGN,",
      "BIOHAZARD SIGN,CADUCEUS,ANKH,ORTHODOX CROSS,CHI RHO,CROSS OF LORRAINE,CROSS OF JERUSALEM,",
      "STAR AND CRESCENT,FARSI SYMBOL,ADI SHAKTI,HAMMER AND SICKLE,PEACE SYMBOL,YIN YANG"]⟩,
    ⟨0x2630, 1, "TRIGRAM FOR ", ["HEAVEN,LAKE,FIRE,THUNDER,WIND,WATER,MOUNTAIN,EARTH"]⟩,
    ⟨0x2638, 1, "", [
      "WHEEL OF DHARMA,WHITE FROWNING FACE,WHITE SMILING FACE,BLACK SMILING FACE,",
      "WHITE SUN WITH RAYS,FIRST QUARTER MOON,LAST QUARTER MOON,MERCURY,FEMALE SIGN,EARTH,",
      "MALE SIGN,JUPITER,SATURN,URANUS,NEPTUNE,PLUTO,ARIES,TAURUS,GEMINI,CANCER,LEO,VIRGO,LIBRA,",
      "SCORPIUS,SAGITTARIUS,CAPRICORN,AQUARIUS,PISCES"]⟩,
    ⟨0x2654, 1, "WHITE CHESS ", ["KING,QUEEN,ROOK,BISHOP,KNIGHT,PAWN"]⟩,
    ⟨0x265a, 1, "BLACK CHESS ", ["KING,QUEEN,ROOK,BISHOP,KNIGHT,PAWN"]⟩,
    ⟨0x2660, 1, "", [
      "BLACK SPADE SUIT,WHITE HEART SUIT,WHITE DIAMOND SUIT,BLACK CLUB SUIT,WHITE SPADE SUIT,",
      "BLACK HEART SUIT,BLACK DIAMOND SUIT,WHITE CLUB SUIT,HOT SPRINGS,QUARTER NOTE,EIGHTH NOTE,",
      "BEAMED EIGHTH NOTES,BEAMED SIXTEENTH NOTES,MUSIC FLAT SIGN,MUSIC NATURAL SIGN,",
      "MUSIC SHARP SIGN,WEST SYRIAC CROSS,EAST SYRIAC CROSS,UNIVERSAL RECYCLING SYMBOL"]⟩,
    ⟨0x2673, 1, "RECYCLING SYMBOL FOR ", [
      "TYPE-1 PLASTICS,TYPE-2 PLASTICS,TYPE-3 PLASTICS,TYPE-4 PLASTICS,TYPE-5 PLASTICS,",
      "TYPE-6 PLASTICS,TYPE-7 PLASTICS,GENERIC MATERIALS"]⟩,
    ⟨0x267b, 1, "", [
      "BLACK UNIVERSAL RECYCLING SYMBOL,RECYCLED PAPER SYMBOL,PARTIALLY-RECYCLED PAPER SYMBOL,",
      "PERMANENT PAPER SIGN,WHEELCHAIR SYMBOL,DIE FACE-1,DIE FACE-2,DIE FACE-3,DIE FACE-4,",
      "DIE FACE-5,DIE FACE-6,WHITE CIRCLE WITH DOT RIGHT,WHITE CIRCLE WITH TWO DOTS,",
      "BLACK CIRCLE WITH WHITE DOT RIGHT,BLACK CIRCLE WITH TWO WHITE DOTS,MONOGRAM FOR YANG,",
      "MONOGRAM FOR YIN,DIGRAM FOR GREATER YANG,DIGRAM FOR LESSER YIN,DIGRAM FOR LESSER YANG,",
      "DIGRAM FOR GREATER YIN,WHITE FLAG,BLACK FLAG,HAMMER AND PICK,ANCHOR,CROSSED SWORDS,",
      "STAFF OF AESCULAPIUS,SCALES,ALEMBIC,FLOWER,GEAR,STAFF OF HERMES,ATOM SYMBOL,FLEUR-DE-LIS,",
      "OUTLINED WHITE STAR,THREE LINES CONVERGING RIGHT,THREE LINES CONVERGING LEFT,WARNING SIGN,",
      "HIGH VOLTAGE SIGN,DOUBLED FEMALE SIGN,DOUBLED MALE SIGN,INTERLOCKED FEMALE AND MALE SIGN,",
      "MALE AND FEMALE SIGN,MALE WITH STROKE SIGN,MALE WITH STROKE AND MALE AND FEMALE SIGN,",
      "VERTICAL MALE WITH STROKE SIGN,HORIZONTAL MALE WITH STROKE SIGN,MEDIUM WHITE CIRCLE,",
      "MEDIUM BLACK CIRCLE,MEDIUM SMALL WHITE CIRCLE,MARRIAGE SYMBOL,DIVORCE SYMBOL,",
      "UNMARRIED PARTNERSHIP SYMBOL,COFFIN,FUNERAL URN,NEUTER,CERES,PALLAS,JUNO,VESTA,CHIRON,",
      "BLACK MOON LILITH,SEXTILE,SEMISEXTILE,QUINCUNX,SESQUIQUADRATE,SOCCER BALL,BASEBALL,",
      "SQUARED KEY,WHITE DRAUGHTS MAN,WHITE DRAUGHTS KING,BLACK DRAUGHTS MAN,BLACK DRAUGHTS KING,",
      "SNOWMAN WITHOUT SNOW,SUN BEHIND CLOUD,RAIN,BLACK SNOWMAN,THUNDER CLOUD AND RAIN,",
      "TURNED WHITE SHOGI PIECE,TURNED BLACK SHOGI PIECE,WHITE DIAMOND IN SQUARE,CROSSING LANES,",
      "DISABLED CAR,OPHIUCHUS,PICK,CAR SLIDING,HELMET WITH WHITE CROSS,CIRCLED CROSSING LANES,",
      "CHAINS,NO ENTRY,ALTERNATE ONE-WAY LEFT WAY TRAFFIC,BLACK TWO-WAY LEFT WAY TRAFFIC,",
      "WHITE TWO-WAY LEFT WAY TRAFFIC,BLACK LEFT LANE MERGE,WHITE LEFT LANE MERGE,",
      "DRIVE SLOW SIGN,HEAVY WHITE DOWN-POINTING TRIANGLE,LEFT CLOSED ENTRY,SQUARED SALTIRE,",
      "FALLING DIAGONAL IN WHITE CIRCLE IN BLACK SQUARE,BLACK TRUCK,RESTRICTED LEFT ENTRY-1,",
      "RESTRICTED LEFT ENTRY-2,ASTRONOMICAL SYMBOL FOR URANUS,",
      "HEAVY CIRCLE WITH STROKE AND TWO DOTS ABOVE,PENTAGRAM,RIGHT-HANDED INTERLACED PENTAGRAM,",
      "LEFT-HANDED INTERLACED PENTAGRAM,INVERTED PENTAGRAM,BLACK CROSS ON SHIELD,SHINTO SHRINE,",
      "CHURCH,CASTLE,HISTORIC SITE,GEAR WITHOUT HUB,GEAR WITH HANDLES,MAP SYMBOL FOR LIGHTHOUSE,",
      "MOUNTAIN,UMBRELLA ON GROUND,FOUNTAIN,FLAG IN HOLE,FERRY,SAILBOAT,SQUARE FOUR CORNERS,",
      "SKIER,ICE SKATE,PERSON WITH BALL,TENT,JAPANESE BANK SYMBOL,HEADSTONE GRAVEYARD SYMBOL,",
      "FUEL PUMP,CUP ON BLACK SQUARE,WHITE FLAG WITH HORIZONTAL MIDDLE BLACK STRIPE"]⟩,
    ⟨0x2700, 1, "", [
      "BLACK SAFETY SCISSORS,UPPER BLADE SCISSORS,BLACK SCISSORS,LOWER BLADE SCISSORS,",
      "WHITE SCISSORS,WHITE HEAVY CHECK MARK,TELEPHONE LOCATION SIGN,TAPE DRIVE,AIRPLANE,",
      "ENVELOPE,RAISED FIST,RAISED HAND,VICTORY HAND,WRITING HAND,LOWER RIGHT PENCIL,PENCIL,",
      "UPPER RIGHT PENCIL,WHITE NIB,BLACK NIB,CHECK MARK,HEAVY CHECK MARK,MULTIPLICATION X,",
      "HEAVY MULTIPLICATION X,BALLOT X,HEAVY BALLOT X,OUTLINED GREEK CROSS,HEAVY GREEK CROSS,",
      "OPEN CENTRE CROSS,HEAVY OPEN CENTRE CROSS,LATIN CROSS,SHADOWED WHITE LATIN CROSS,",
      "OUTLINED LATIN CROSS,MALTESE CROSS,STAR OF DAVID,FOUR TEARDROP-SPOKED ASTERISK,",
      "FOUR BALLOON-SPOKED ASTERISK,HEAVY FOUR BALLOON-SPOKED ASTERISK,FOUR CLUB-SPOKED ASTERISK,",
      "BLACK FOUR POINTED STAR,WHITE FOUR POINTED STAR,SPARKLES,STRESS OUTLINED WHITE STAR,",
      "CIRCLED WHITE STAR,OPEN CENTRE BLACK STAR,BLACK CENTRE WHITE STAR,OUTLINED BLACK STAR,",
      "HEAVY OUTLINED BLACK STAR,PINWHEEL STAR,SHADOWED WHITE STAR,HEAVY ASTERISK,",
      "OPEN CENTRE ASTERISK,EIGHT SPOKED ASTERISK,EIGHT POINTED BLACK STAR,",
      "EIGHT POINTED PINWHEEL STAR,SIX POINTED BLACK STAR,EIGHT POINTED RECTILINEAR BLACK STAR,",
      "HEAVY EIGHT POINTED RECTILINEAR BLACK STAR,TWELVE POINTED BLACK STAR,",
      "SIXTEEN POINTED ASTERISK,TEARDROP-SPOKED ASTERISK,OPEN CENTRE TEARDROP-SPOKED ASTERISK,",
      "HEAVY TEARDROP-SPOKED ASTERISK,SIX PETALLED BLACK AND WHITE FLORETTE,BLACK FLORETTE,",
      "WHITE FLORETTE,EIGHT PETALLED OUTLINED BLACK FLORETTE,",
      "CIRCLED OPEN CENTRE EIGHT POINTED STAR,HEAVY TEARDROP-SPOKED PINWHEEL ASTERISK,SNOWFLAKE,",
      "TIGHT TRIFOLIATE SNOWFLAKE,HEAVY CHEVRON SNOWFLAKE,SPARKLE,HEAVY SPARKLE,",
      "BALLOON-SPOKED ASTERISK,EIGHT TEARDROP-SPOKED PROPELLER ASTERISK,",
      "HEAVY EIGHT TEARDROP-SPOKED PROPELLER ASTERISK,CROSS MARK,SHADOWED WHITE CIRCLE,",
      "NEGATIVE SQUARED CROSS MARK,LOWER RIGHT DROP-SHADOWED WHITE SQUARE,",
      "UPPER RIGHT DROP-SHADOWED WHITE SQUARE,LOWER RIGHT SHADOWED WHITE SQUARE,",
      "UPPER RIGHT SHADOWED WHITE SQUARE,BLACK QUESTION MARK ORNAMENT,",
      "WHITE QUESTION MARK ORNAMENT,WHITE EXCLAMATION MARK ORNAMENT,BLACK DIAMOND MINUS WHITE X,",
      "HEAVY EXCLAMATION MARK SYMBOL,LIGHT VERTICAL BAR,MEDIUM VERTICAL BAR,HEAVY VERTICAL BAR,",
      "HEAVY SINGLE TURNED COMMA QUOTATION MARK ORNAMENT,",
      "HEAVY SINGLE COMMA QUOTATION MARK ORNAMENT,",
      "HEAVY DOUBLE TURNED COMMA QUOTATION MARK ORNAMENT,",
      "HEAVY DOUBLE COMMA QUOTATION MARK ORNAMENT,HEAVY LOW SINGLE COMMA QUOTATION MARK ORNAMENT,",
      "HEAVY LOW DOUBLE COMMA QUOTATION MARK ORNAMENT,CURVED STEM PARAGRAPH SIGN ORNAMENT,",
      "HEAVY EXCLAMATION MARK ORNAMENT,HEAVY HEART EXCLAMATION MARK ORNAMENT,HEAVY BLACK HEART,",
      "ROTATED HEAVY BLACK HEART BULLET,FLORAL HEART,ROTATED FLORAL HEART BULLET,",
      "MEDIUM LEFT PARENTHESIS ORNAMENT,MEDIUM RIGHT PARENTHESIS ORNAMENT,",
      "MEDIUM FLATTENED LEFT PARENTHESIS ORNAMENT,MEDIUM FLATTENED RIGHT PARENTHESIS ORNAMENT,",
      "MEDIUM LEFT-POINTING ANGLE BRACKET ORNAMENT,MEDIUM RIGHT-POINTING ANGLE BRACKET ORNAMENT,",
      "HEAVY LEFT-POINTING ANGLE QUOTATION MARK ORNAMENT,",
      "HEAVY RIGHT-POINTING ANGLE QUOTATION MARK ORNAMENT,",
      "HEAVY LEFT-POINTING ANGLE BRACKET ORNAMENT,HEAVY RIGHT-POINTING ANGLE BRACKET ORNAMENT,",
      "LIGHT LEFT TORTOISE SHELL BRACKET ORNAMENT,LIGHT RIGHT TORTOISE SHELL BRACKET ORNAMENT,",
      "MEDIUM LEFT CURLY BRACKET ORNAMENT,MEDIUM RIGHT CURLY BRACKET ORNAMENT"]⟩,
    ⟨0x2776, 1, "DINGBAT NEGATIVE CIRCLED ", [
      "DIGIT ONE,DIGIT TWO,DIGIT THREE,DIGIT FOUR,DIGIT FIVE,DIGIT SIX,DIGIT SEVEN,DIGIT EIGHT,",
      "DIGIT NINE,NUMBER TEN"]⟩,
    ⟨0x2780, 1, "DINGBAT CIRCLED SANS-SERIF ", [
      "DIGIT ONE,DIGIT TWO,DIGIT THREE,DIGIT FOUR,DIGIT FIVE,DIGIT SIX,DIGIT SEVEN,DIGIT EIGHT,",
      "DIGIT NINE,NUMBER TEN"]⟩,
    ⟨0x278a, 1, "DINGBAT NEGATIVE CIRCLED SANS-SERIF DIGIT ", [
      "ONE,TWO,THREE,FOUR,FIVE,SIX,SEVEN,EIGHT,NINE"]⟩,
    ⟨0x2793, 1, "", [
      "DINGBAT NEGATIVE CIRCLED SANS-SERIF NUMBER TEN,HEAVY WIDE-HEADED RIGHTWARDS ARROW,",
      "HEAVY PLUS SIGN,HEAVY MINUS SIGN,HEAVY DIVISION SIGN,HEAVY SOUTH EAST ARROW,",
      "HEAVY RIGHTWARDS ARROW,HEAVY NORTH EAST ARROW,DRAFTING POINT RIGHTWARDS ARROW,",
      "HEAVY ROUND-TIPPED RIGHTWARDS ARROW,TRIANGLE-HEADED RIGHTWARDS ARROW,",
      "HEAVY TRIANGLE-HEADED RIGHTWARDS ARROW,DASHED TRIANGLE-HEADED RIGHTWARDS ARROW,",
      "HEAVY DASHED TRIANGLE-HEADED RIGHTWARDS ARROW,BLACK RIGHTWARDS ARROW,",
      "THREE-D TOP-LIGHTED RIGHTWARDS ARROWHEAD,THREE-D BOTTOM-LIGHTED RIGHTWARDS ARROWHEAD,",
      "BLACK RIGHTWARDS ARROWHEAD,HEAVY BLACK CURVED DOWNWARDS AND RIGHTWARDS ARROW,",
      "HEAVY BLACK CURVED UPWARDS AND RIGHTWARDS ARROW,SQUAT BLACK RIGHTWARDS ARROW,",
      "HEAVY CONCAVE-POINTED BLACK RIGHTWARDS ARROW,RIGHT-SHADED WHITE RIGHTWARDS ARROW,",
      "LEFT-SHADED WHITE RIGHTWARDS ARROW,BACK-TILTED SHADOWED WHITE RIGHTWARDS ARROW,",
      "FRONT-TILTED SHADOWED WHITE RIGHTWARDS ARROW,",
      "HEAVY LOWER RIGHT-SHADOWED WHITE RIGHTWARDS ARROW,",
      "HEAVY UPPER RIGHT-SHADOWED WHITE RIGHTWARDS ARROW,",
      "NOTCHED LOWER RIGHT-SHADOWED WHITE RIGHTWARDS ARROW,CURLY LOOP,",
      "NOTCHED UPPER RIGHT-SHADOWED WHITE RIGHTWARDS ARROW,CIRCLED HEAVY WHITE RIGHTWARDS ARROW,",
      "WHITE-FEATHERED RIGHTWARDS ARROW,BLACK-FEATHERED SOUTH EAST ARROW,",
      "BLACK-FEATHERED RIGHTWARDS ARROW,BLACK-FEATHERED NORTH EAST ARROW,",
      "HEAVY BLACK-FEATHERED SOUTH EAST ARROW,HEAVY BLACK-FEATHERED RIGHTWARDS ARROW,",
      "HEAVY BLACK-FEATHERED NORTH EAST ARROW,TEARDROP-BARBED RIGHTWARDS ARROW,",
      "HEAVY TEARDROP-SHANKED RIGHTWARDS ARROW,WEDGE-TAILED RIGHTWARDS ARROW,",
      "HEAVY WEDGE-TAILED RIGHTWARDS ARROW,OPEN-OUTLINED RIGHTWARDS ARROW,DOUBLE CURLY LOOP"]⟩,
    ⟨0x3000, 1, "", ["IDEOGRAPHIC SPACE,IDEOGRAPHIC COMMA,IDEOGRAPHIC FULL STOP,DITTO MARK"]⟩,
    ⟨0xfe00, 1, "VARIATION ", [
      "SELECTOR-1,SELECTOR-2,SELECTOR-3,SELECTOR-4,SELECTOR-5,SELECTOR-6,SELECTOR-7,SELECTOR-8,",
      "SELECTOR-9,SELECTOR-10,SELECTOR-11,SELECTOR-12,SELECTOR-13,SELECTOR-14,SELECTOR-15,",
      "SELECTOR-16"]⟩,
    ⟨0xfeff, 1, "ZERO WIDTH NO-BREAK ", ["SPACE"]⟩,
    ⟨0xfff9, 1, "INTERLINEAR ANNOTATION ", ["ANCHOR,SEPARATOR,TERMINATOR"]⟩,
    ⟨0xfffc, 1, "", ["OBJECT REPLACEMENT CHARACTER,REPLACEMENT CHARACTER"]⟩]

end BundleAtlas.Text
