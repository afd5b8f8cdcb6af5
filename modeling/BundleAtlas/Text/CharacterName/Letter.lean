import BundleAtlas.Text.CharacterName.Run

/-!
Names of letters and of the other characters of the Latin, Greek, Cyrillic, Hebrew and Japanese
blocks.
-/

namespace BundleAtlas.Text

/-- The names of letters and the characters among them. -/
def letterNames : List NameRun := [
    ⟨0x20, 1, "", [
      "SPACE,EXCLAMATION MARK,QUOTATION MARK,NUMBER SIGN,DOLLAR SIGN,PERCENT SIGN,AMPERSAND,",
      "APOSTROPHE,LEFT PARENTHESIS,RIGHT PARENTHESIS,ASTERISK,PLUS SIGN,COMMA,HYPHEN-MINUS,",
      "FULL STOP,SOLIDUS,DIGIT ZERO,DIGIT ONE,DIGIT TWO,DIGIT THREE,DIGIT FOUR,DIGIT FIVE,",
      "DIGIT SIX,DIGIT SEVEN,DIGIT EIGHT,DIGIT NINE,COLON,SEMICOLON,LESS-THAN SIGN,EQUALS SIGN,",
      "GREATER-THAN SIGN,QUESTION MARK,COMMERCIAL AT"]⟩,
    ⟨0x41, 1, "LATIN CAPITAL LETTER ", ["A,B,C,D,E,F,G,H,I,J,K,L,M,N,O,P,Q,R,S,T,U,V,W,X,Y,Z"]⟩,
    ⟨0x5b, 1, "", [
      "LEFT SQUARE BRACKET,REVERSE SOLIDUS,RIGHT SQUARE BRACKET,CIRCUMFLEX ACCENT,LOW LINE,",
      "GRAVE ACCENT"]⟩,
    ⟨0x61, 1, "LATIN SMALL LETTER ", ["A,B,C,D,E,F,G,H,I,J,K,L,M,N,O,P,Q,R,S,T,U,V,W,X,Y,Z"]⟩,
    ⟨0x7b, 1, "", ["LEFT CURLY BRACKET,VERTICAL LINE,RIGHT CURLY BRACKET,TILDE"]⟩,
    ⟨0xa0, 1, "", [
      "NO-BREAK SPACE,INVERTED EXCLAMATION MARK,CENT SIGN,POUND SIGN,CURRENCY SIGN,YEN SIGN,",
      "BROKEN BAR,SECTION SIGN,DIAERESIS,COPYRIGHT SIGN,FEMININE ORDINAL INDICATOR,",
      "LEFT-POINTING DOUBLE ANGLE QUOTATION MARK,NOT SIGN,SOFT HYPHEN,REGISTERED SIGN,MACRON,",
      "DEGREE SIGN,PLUS-MINUS SIGN,SUPERSCRIPT TWO,SUPERSCRIPT THREE,ACUTE ACCENT,MICRO SIGN,",
      "PILCROW SIGN,MIDDLE DOT,CEDILLA,SUPERSCRIPT ONE,MASCULINE ORDINAL INDICATOR,",
      "RIGHT-POINTING DOUBLE ANGLE QUOTATION MARK,VULGAR FRACTION ONE QUARTER,",
      "VULGAR FRACTION ONE HALF,VULGAR FRACTION THREE QUARTERS,INVERTED QUESTION MARK"]⟩,
    ⟨0xc0, 1, "LATIN CAPITAL LETTER ", [
      "A WITH GRAVE,A WITH ACUTE,A WITH CIRCUMFLEX,A WITH TILDE,A WITH DIAERESIS,",
      "A WITH RING ABOVE,AE,C WITH CEDILLA,E WITH GRAVE,E WITH ACUTE,E WITH CIRCUMFLEX,",
      "E WITH DIAERESIS,I WITH GRAVE,I WITH ACUTE,I WITH CIRCUMFLEX,I WITH DIAERESIS,ETH,",
      "N WITH TILDE,O WITH GRAVE,O WITH ACUTE,O WITH CIRCUMFLEX,O WITH TILDE,O WITH DIAERESIS"]⟩,
    ⟨0xd7, 1, "MULTIPLICATION ", ["SIGN"]⟩,
    ⟨0xd8, 1, "LATIN CAPITAL LETTER ", [
      "O WITH STROKE,U WITH GRAVE,U WITH ACUTE,U WITH CIRCUMFLEX,U WITH DIAERESIS,Y WITH ACUTE,",
      "THORN"]⟩,
    ⟨0xdf, 1, "LATIN SMALL LETTER ", [
      "SHARP S,A WITH GRAVE,A WITH ACUTE,A WITH CIRCUMFLEX,A WITH TILDE,A WITH DIAERESIS,",
      "A WITH RING ABOVE,AE,C WITH CEDILLA,E WITH GRAVE,E WITH ACUTE,E WITH CIRCUMFLEX,",
      "E WITH DIAERESIS,I WITH GRAVE,I WITH ACUTE,I WITH CIRCUMFLEX,I WITH DIAERESIS,ETH,",
      "N WITH TILDE,O WITH GRAVE,O WITH ACUTE,O WITH CIRCUMFLEX,O WITH TILDE,O WITH DIAERESIS"]⟩,
    ⟨0xf7, 1, "DIVISION ", ["SIGN"]⟩,
    ⟨0xf8, 1, "LATIN SMALL LETTER ", [
      "O WITH STROKE,U WITH GRAVE,U WITH ACUTE,U WITH CIRCUMFLEX,U WITH DIAERESIS,Y WITH ACUTE,",
      "THORN,Y WITH DIAERESIS"]⟩,
    ⟨0x100, 2, "LATIN CAPITAL LETTER ", [
      "A WITH MACRON,A WITH BREVE,A WITH OGONEK,C WITH ACUTE,C WITH CIRCUMFLEX,C WITH DOT ABOVE,",
      "C WITH CARON,D WITH CARON,D WITH STROKE,E WITH MACRON,E WITH BREVE,E WITH DOT ABOVE,",
      "E WITH OGONEK,E WITH CARON,G WITH CIRCUMFLEX,G WITH BREVE,G WITH DOT ABOVE,G WITH CEDILLA,",
      "H WITH CIRCUMFLEX,H WITH STROKE,I WITH TILDE,I WITH MACRON,I WITH BREVE,I WITH OGONEK,",
      "I WITH DOT ABOVE"]⟩,
    ⟨0x101, 2, "LATIN SMALL LETTER ", [
      "A WITH MACRON,A WITH BREVE,A WITH OGONEK,C WITH ACUTE,C WITH CIRCUMFLEX,C WITH DOT ABOVE,",
      "C WITH CARON,D WITH CARON,D WITH STROKE,E WITH MACRON,E WITH BREVE,E WITH DOT ABOVE,",
      "E WITH OGONEK,E WITH CARON,G WITH CIRCUMFLEX,G WITH BREVE,G WITH DOT ABOVE,G WITH CEDILLA,",
      "H WITH CIRCUMFLEX,H WITH STROKE,I WITH TILDE,I WITH MACRON,I WITH BREVE,I WITH OGONEK,",
      "DOTLESS I"]⟩,
    ⟨0x132, 1, "LATIN ", [
      "CAPITAL LIGATURE IJ,SMALL LIGATURE IJ,CAPITAL LETTER J WITH CIRCUMFLEX,",
      "SMALL LETTER J WITH CIRCUMFLEX,CAPITAL LETTER K WITH CEDILLA,SMALL LETTER K WITH CEDILLA,",
      "SMALL LETTER KRA"]⟩,
    ⟨0x139, 2, "LATIN CAPITAL LETTER ", [
      "L WITH ACUTE,L WITH CEDILLA,L WITH CARON,L WITH MIDDLE DOT,L WITH STROKE,N WITH ACUTE,",
      "N WITH CEDILLA,N WITH CARON"]⟩,
    ⟨0x13a, 2, "LATIN SMALL LETTER ", [
      "L WITH ACUTE,L WITH CEDILLA,L WITH CARON,L WITH MIDDLE DOT,L WITH STROKE,N WITH ACUTE,",
      "N WITH CEDILLA,N WITH CARON"]⟩,
    ⟨0x149, 2, "LATIN SMALL ", [
      "LETTER N PRECEDED BY APOSTROPHE,LETTER ENG,LETTER O WITH MACRON,LETTER O WITH BREVE,",
      "LETTER O WITH DOUBLE ACUTE,LIGATURE OE"]⟩,
    ⟨0x14a, 2, "LATIN CAPITAL ", [
      "LETTER ENG,LETTER O WITH MACRON,LETTER O WITH BREVE,LETTER O WITH DOUBLE ACUTE,",
      "LIGATURE OE,LETTER R WITH ACUTE"]⟩,
    ⟨0x155, 2, "LATIN SMALL LETTER ", [
      "R WITH ACUTE,R WITH CEDILLA,R WITH CARON,S WITH ACUTE,S WITH CIRCUMFLEX,S WITH CEDILLA,",
      "S WITH CARON,T WITH CEDILLA,T WITH CARON,T WITH STROKE,U WITH TILDE,U WITH MACRON,",
      "U WITH BREVE,U WITH RING ABOVE,U WITH DOUBLE ACUTE,U WITH OGONEK,W WITH CIRCUMFLEX,",
      "Y WITH CIRCUMFLEX"]⟩,
    ⟨0x156, 2, "LATIN CAPITAL LETTER ", [
      "R WITH CEDILLA,R WITH CARON,S WITH ACUTE,S WITH CIRCUMFLEX,S WITH CEDILLA,S WITH CARON,",
      "T WITH CEDILLA,T WITH CARON,T WITH STROKE,U WITH TILDE,U WITH MACRON,U WITH BREVE,",
      "U WITH RING ABOVE,U WITH DOUBLE ACUTE,U WITH OGONEK,W WITH CIRCUMFLEX,Y WITH CIRCUMFLEX,",
      "Y WITH DIAERESIS"]⟩,
    ⟨0x179, 2, "LATIN CAPITAL LETTER Z WITH ", ["ACUTE,DOT ABOVE,CARON"]⟩,
    ⟨0x17a, 2, "LATIN SMALL LETTER Z WITH ", ["ACUTE,DOT ABOVE,CARON"]⟩,
    ⟨0x17f, 1, "LATIN ", [
      "SMALL LETTER LONG S,SMALL LETTER B WITH STROKE,CAPITAL LETTER B WITH HOOK,",
      "CAPITAL LETTER B WITH TOPBAR,SMALL LETTER B WITH TOPBAR,CAPITAL LETTER TONE SIX,",
      "SMALL LETTER TONE SIX,CAPITAL LETTER OPEN O,CAPITAL LETTER C WITH HOOK,",
      "SMALL LETTER C WITH HOOK,CAPITAL LETTER AFRICAN D,CAPITAL LETTER D WITH HOOK,",
      "CAPITAL LETTER D WITH TOPBAR,SMALL LETTER D WITH TOPBAR,SMALL LETTER TURNED DELTA,",
      "CAPITAL LETTER REVERSED E,CAPITAL LETTER SCHWA,CAPITAL LETTER OPEN E,",
      "CAPITAL LETTER F WITH HOOK,SMALL LETTER F WITH HOOK,CAPITAL LETTER G WITH HOOK,",
      "CAPITAL LETTER GAMMA,SMALL LETTER HV,CAPITAL LETTER IOTA,CAPITAL LETTER I WITH STROKE,",
      "CAPITAL LETTER K WITH HOOK,SMALL LETTER K WITH HOOK,SMALL LETTER L WITH BAR,",
      "SMALL LETTER LAMBDA WITH STROKE,CAPITAL LETTER TURNED M,CAPITAL LETTER N WITH LEFT HOOK,",
      "SMALL LETTER N WITH LONG RIGHT LEG,CAPITAL LETTER O WITH MIDDLE TILDE,",
      "CAPITAL LETTER O WITH HORN,SMALL LETTER O WITH HORN,CAPITAL LETTER OI,SMALL LETTER OI,",
      "CAPITAL LETTER P WITH HOOK,SMALL LETTER P WITH HOOK,LETTER YR,CAPITAL LETTER TONE TWO,",
      "SMALL LETTER TONE TWO,CAPITAL LETTER ESH,LETTER REVERSED ESH LOOP,",
      "SMALL LETTER T WITH PALATAL HOOK,CAPITAL LETTER T WITH HOOK,SMALL LETTER T WITH HOOK,",
      "CAPITAL LETTER T WITH RETROFLEX HOOK,CAPITAL LETTER U WITH HORN,SMALL LETTER U WITH HORN,",
      "CAPITAL LETTER UPSILON,CAPITAL LETTER V WITH HOOK,CAPITAL LETTER Y WITH HOOK,",
      "SMALL LETTER Y WITH HOOK,CAPITAL LETTER Z WITH STROKE,SMALL LETTER Z WITH STROKE,",
      "CAPITAL LETTER EZH,CAPITAL LETTER EZH REVERSED,SMALL LETTER EZH REVERSED,",
      "SMALL LETTER EZH WITH TAIL,LETTER TWO WITH STROKE,CAPITAL LETTER TONE FIVE,",
      "SMALL LETTER TONE FIVE,LETTER INVERTED GLOTTAL STOP WITH STROKE,LETTER WYNN,",
      "LETTER DENTAL CLICK,LETTER LATERAL CLICK,LETTER ALVEOLAR CLICK,LETTER RETROFLEX CLICK,",
      "CAPITAL LETTER DZ WITH CARON,CAPITAL LETTER D WITH SMALL LETTER Z WITH CARON,",
      "SMALL LETTER DZ WITH CARON,CAPITAL LETTER LJ,CAPITAL LETTER L WITH SMALL LETTER J,",
      "SMALL LETTER LJ,CAPITAL LETTER NJ"]⟩,
    ⟨0x1cb, 2, "LATIN CAPITAL LETTER ", [
      "N WITH SMALL LETTER J,A WITH CARON,I WITH CARON,O WITH CARON,U WITH CARON"]⟩,
    ⟨0x1cc, 2, "LATIN SMALL LETTER ", ["NJ,A WITH CARON,I WITH CARON,O WITH CARON,U WITH CARON"]⟩,
    ⟨0x1d5, 2, "LATIN CAPITAL LETTER U WITH DIAERESIS AND ", ["MACRON,ACUTE,CARON,GRAVE"]⟩,
    ⟨0x1d6, 2, "LATIN SMALL LETTER U WITH DIAERESIS AND ", ["MACRON,ACUTE,CARON,GRAVE"]⟩,
    ⟨0x1dd, 2, "LATIN SMALL LETTER ", [
      "TURNED E,A WITH DIAERESIS AND MACRON,A WITH DOT ABOVE AND MACRON,AE WITH MACRON,",
      "G WITH STROKE,G WITH CARON,K WITH CARON,O WITH OGONEK,O WITH OGONEK AND MACRON"]⟩,
    ⟨0x1de, 2, "LATIN CAPITAL LETTER ", [
      "A WITH DIAERESIS AND MACRON,A WITH DOT ABOVE AND MACRON,AE WITH MACRON,G WITH STROKE,",
      "G WITH CARON,K WITH CARON,O WITH OGONEK,O WITH OGONEK AND MACRON,EZH WITH CARON"]⟩,
    ⟨0x1ef, 1, "LATIN ", [
      "SMALL LETTER EZH WITH CARON,SMALL LETTER J WITH CARON,CAPITAL LETTER DZ,",
      "CAPITAL LETTER D WITH SMALL LETTER Z,SMALL LETTER DZ,CAPITAL LETTER G WITH ACUTE,",
      "SMALL LETTER G WITH ACUTE,CAPITAL LETTER HWAIR,CAPITAL LETTER WYNN"]⟩,
    ⟨0x1f8, 2, "LATIN CAPITAL LETTER ", [
      "N WITH GRAVE,A WITH RING ABOVE AND ACUTE,AE WITH ACUTE,O WITH STROKE AND ACUTE,",
      "A WITH DOUBLE GRAVE,A WITH INVERTED BREVE,E WITH DOUBLE GRAVE,E WITH INVERTED BREVE,",
      "I WITH DOUBLE GRAVE,I WITH INVERTED BREVE,O WITH DOUBLE GRAVE,O WITH INVERTED BREVE,",
      "R WITH DOUBLE GRAVE,R WITH INVERTED BREVE,U WITH DOUBLE GRAVE,U WITH INVERTED BREVE,",
      "S WITH COMMA BELOW,T WITH COMMA BELOW,YOGH,H WITH CARON,N WITH LONG RIGHT LEG,OU,",
      "Z WITH HOOK,A WITH DOT ABOVE,E WITH CEDILLA,O WITH DIAERESIS AND MACRON,",
      "O WITH TILDE AND MACRON,O WITH DOT ABOVE,O WITH DOT ABOVE AND MACRON,Y WITH MACRON"]⟩,
    ⟨0x1f9, 2, "LATIN SMALL LETTER ", [
      "N WITH GRAVE,A WITH RING ABOVE AND ACUTE,AE WITH ACUTE,O WITH STROKE AND ACUTE,",
      "A WITH DOUBLE GRAVE,A WITH INVERTED BREVE,E WITH DOUBLE GRAVE,E WITH INVERTED BREVE,",
      "I WITH DOUBLE GRAVE,I WITH INVERTED BREVE,O WITH DOUBLE GRAVE,O WITH INVERTED BREVE,",
      "R WITH DOUBLE GRAVE,R WITH INVERTED BREVE,U WITH DOUBLE GRAVE,U WITH INVERTED BREVE,",
      "S WITH COMMA BELOW,T WITH COMMA BELOW,YOGH,H WITH CARON,D WITH CURL,OU,Z WITH HOOK,",
      "A WITH DOT ABOVE,E WITH CEDILLA,O WITH DIAERESIS AND MACRON,O WITH TILDE AND MACRON,",
      "O WITH DOT ABOVE,O WITH DOT ABOVE AND MACRON,Y WITH MACRON"]⟩,
    ⟨0x234, 1, "LATIN SMALL LETTER ", [
      "L WITH CURL,N WITH CURL,T WITH CURL,DOTLESS J,DB DIGRAPH,QP DIGRAPH"]⟩,
    ⟨0x23a, 1, "LATIN ", [
      "CAPITAL LETTER A WITH STROKE,CAPITAL LETTER C WITH STROKE,SMALL LETTER C WITH STROKE,",
      "CAPITAL LETTER L WITH BAR,CAPITAL LETTER T WITH DIAGONAL STROKE,",
      "SMALL LETTER S WITH SWASH TAIL,SMALL LETTER Z WITH SWASH TAIL,CAPITAL LETTER GLOTTAL STOP,",
      "SMALL LETTER GLOTTAL STOP,CAPITAL LETTER B WITH STROKE,CAPITAL LETTER U BAR,",
      "CAPITAL LETTER TURNED V"]⟩,
    ⟨0x246, 2, "LATIN CAPITAL LETTER ", [
      "E WITH STROKE,J WITH STROKE,SMALL Q WITH HOOK TAIL,R WITH STROKE,Y WITH STROKE"]⟩,
    ⟨0x247, 2, "LATIN SMALL LETTER ", [
      "E WITH STROKE,J WITH STROKE,Q WITH HOOK TAIL,R WITH STROKE,Y WITH STROKE"]⟩,
    ⟨0x370, 1, "GREEK ", [
      "CAPITAL LETTER HETA,SMALL LETTER HETA,CAPITAL LETTER ARCHAIC SAMPI,",
      "SMALL LETTER ARCHAIC SAMPI,NUMERAL SIGN,LOWER NUMERAL SIGN,",
      "CAPITAL LETTER PAMPHYLIAN DIGAMMA,SMALL LETTER PAMPHYLIAN DIGAMMA"]⟩,
    ⟨0x37a, 1, "GREEK ", [
      "YPOGEGRAMMENI,SMALL REVERSED LUNATE SIGMA SYMBOL,SMALL DOTTED LUNATE SIGMA SYMBOL,",
      "SMALL REVERSED DOTTED LUNATE SIGMA SYMBOL,QUESTION MARK,CAPITAL LETTER YOT"]⟩,
    ⟨0x384, 1, "GREEK ", [
      "TONOS,DIALYTIKA TONOS,CAPITAL LETTER ALPHA WITH TONOS,ANO TELEIA,",
      "CAPITAL LETTER EPSILON WITH TONOS,CAPITAL LETTER ETA WITH TONOS,",
      "CAPITAL LETTER IOTA WITH TONOS"]⟩,
    ⟨0x38c, 1, "GREEK CAPITAL LETTER OMICRON WITH ", ["TONOS"]⟩,
    ⟨0x38e, 1, "GREEK ", [
      "CAPITAL LETTER UPSILON WITH TONOS,CAPITAL LETTER OMEGA WITH TONOS,",
      "SMALL LETTER IOTA WITH DIALYTIKA AND TONOS"]⟩,
    ⟨0x391, 1, "GREEK CAPITAL LETTER ", [
      "ALPHA,BETA,GAMMA,DELTA,EPSILON,ZETA,ETA,THETA,IOTA,KAPPA,LAMDA,MU,NU,XI,OMICRON,PI,RHO"]⟩,
    ⟨0x3a3, 1, "GREEK CAPITAL LETTER ", [
      "SIGMA,TAU,UPSILON,PHI,CHI,PSI,OMEGA,IOTA WITH DIALYTIKA,UPSILON WITH DIALYTIKA"]⟩,
    ⟨0x3ac, 1, "GREEK SMALL LETTER ", [
      "ALPHA WITH TONOS,EPSILON WITH TONOS,ETA WITH TONOS,IOTA WITH TONOS,",
      "UPSILON WITH DIALYTIKA AND TONOS,ALPHA,BETA,GAMMA,DELTA,EPSILON,ZETA,ETA,THETA,IOTA,KAPPA,",
      "LAMDA,MU,NU,XI,OMICRON,PI,RHO,FINAL SIGMA,SIGMA,TAU,UPSILON,PHI,CHI,PSI,OMEGA,",
      "IOTA WITH DIALYTIKA,UPSILON WITH DIALYTIKA,OMICRON WITH TONOS,UPSILON WITH TONOS,",
      "OMEGA WITH TONOS"]⟩,
    ⟨0x3cf, 1, "GREEK ", [
      "CAPITAL KAI SYMBOL,BETA SYMBOL,THETA SYMBOL,UPSILON WITH HOOK SYMBOL,",
      "UPSILON WITH ACUTE AND HOOK SYMBOL,UPSILON WITH DIAERESIS AND HOOK SYMBOL,PHI SYMBOL,",
      "PI SYMBOL,KAI SYMBOL"]⟩,
    ⟨0x3d8, 2, "GREEK LETTER ", ["ARCHAIC KOPPA,STIGMA,DIGAMMA,KOPPA,SAMPI"]⟩,
    ⟨0x3d9, 2, "GREEK SMALL LETTER ", ["ARCHAIC KOPPA,STIGMA,DIGAMMA,KOPPA,SAMPI"]⟩,
    ⟨0x3e2, 2, "COPTIC CAPITAL LETTER ", ["SHEI,FEI,KHEI,HORI,GANGIA,SHIMA,DEI"]⟩,
    ⟨0x3e3, 2, "COPTIC SMALL LETTER ", ["SHEI,FEI,KHEI,HORI,GANGIA,SHIMA,DEI"]⟩,
    ⟨0x3f0, 1, "GREEK ", [
      "KAPPA SYMBOL,RHO SYMBOL,LUNATE SIGMA SYMBOL,LETTER YOT,CAPITAL THETA SYMBOL,",
      "LUNATE EPSILON SYMBOL,REVERSED LUNATE EPSILON SYMBOL,CAPITAL LETTER SHO,SMALL LETTER SHO,",
      "CAPITAL LUNATE SIGMA SYMBOL,CAPITAL LETTER SAN,SMALL LETTER SAN,RHO WITH STROKE SYMBOL,",
      "CAPITAL REVERSED LUNATE SIGMA SYMBOL,CAPITAL DOTTED LUNATE SIGMA SYMBOL,",
      "CAPITAL REVERSED DOTTED LUNATE SIGMA SYMBOL"]⟩,
    ⟨0x400, 1, "CYRILLIC CAPITAL LETTER ", [
      "IE WITH GRAVE,IO,DJE,GJE,UKRAINIAN IE,DZE,BYELORUSSIAN-UKRAINIAN I,YI,JE,LJE,NJE,TSHE,KJE,",
      "I WITH GRAVE,SHORT U,DZHE,A,BE,VE,GHE,DE,IE,ZHE,ZE,I,SHORT I,KA,EL,EM,EN,O,PE,ER,ES,TE,U,",
      "EF,HA,TSE,CHE,SHA,SHCHA,HARD SIGN,YERU,SOFT SIGN,E,YU,YA"]⟩,
    ⟨0x430, 1, "CYRILLIC SMALL LETTER ", [
      "A,BE,VE,GHE,DE,IE,ZHE,ZE,I,SHORT I,KA,EL,EM,EN,O,PE,ER,ES,TE,U,EF,HA,TSE,CHE,SHA,SHCHA,",
      "HARD SIGN,YERU,SOFT SIGN,E,YU,YA,IE WITH GRAVE,IO,DJE,GJE,UKRAINIAN IE,DZE,",
      "BYELORUSSIAN-UKRAINIAN I,YI,JE,LJE,NJE,TSHE,KJE,I WITH GRAVE,SHORT U,DZHE"]⟩,
    ⟨0x490, 1, "CYRILLIC ", ["CAPITAL LETTER GHE WITH UPTURN,SMALL LETTER GHE WITH UPTURN"]⟩,
    ⟨0x5d0, 1, "HEBREW LETTER ", [
      "ALEF,BET,GIMEL,DALET,HE,VAV,ZAYIN,HET,TET,YOD,FINAL KAF,KAF,LAMED,FINAL MEM,MEM,FINAL NUN,",
      "NUN,SAMEKH,AYIN,FINAL PE,PE,FINAL TSADI,TSADI,QOF,RESH,SHIN,TAV"]⟩,
    ⟨0x1e9e, 1, "LATIN CAPITAL LETTER SHARP ", ["S"]⟩,
    ⟨0x3041, 1, "HIRAGANA LETTER ", [
      "SMALL A,A,SMALL I,I,SMALL U,U,SMALL E,E,SMALL O,O,KA,GA,KI,GI,KU,GU,KE,GE,KO,GO,SA,ZA,SI,",
      "ZI,SU,ZU,SE,ZE,SO,ZO,TA,DA,TI,DI,SMALL TU,TU,DU,TE,DE,TO,DO,NA,NI,NU,NE,NO,HA,BA,PA,HI,BI,",
      "PI,HU,BU,PU,HE,BE,PE,HO,BO,PO,MA,MI,MU,ME,MO,SMALL YA,YA,SMALL YU,YU,SMALL YO,YO,RA,RI,RU,",
      "RE,RO,SMALL WA,WA,WI,WE,WO,N,VU,SMALL KA,SMALL KE"]⟩,
    ⟨0x30a1, 1, "KATAKANA LETTER ", [
      "SMALL A,A,SMALL I,I,SMALL U,U,SMALL E,E,SMALL O,O,KA,GA,KI,GI,KU,GU,KE,GE,KO,GO,SA,ZA,SI,",
      "ZI,SU,ZU,SE,ZE,SO,ZO,TA,DA,TI,DI,SMALL TU,TU,DU,TE,DE,TO,DO,NA,NI,NU,NE,NO,HA,BA,PA,HI,BI,",
      "PI,HU,BU,PU,HE,BE,PE,HO,BO,PO,MA,MI,MU,ME,MO,SMALL YA,YA,SMALL YU,YU,SMALL YO,YO,RA,RI,RU,",
      "RE,RO,SMALL WA,WA,WI,WE,WO,N,VU,SMALL KA,SMALL KE,VA,VI,VE,VO"]⟩,
    ⟨0xfb00, 1, "LATIN SMALL LIGATURE ", ["FF,FI,FL,FFI,FFL,LONG S T,ST"]⟩]

end BundleAtlas.Text
