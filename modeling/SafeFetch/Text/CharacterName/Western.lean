import SafeFetch.Text.CharacterName.Basic

/-!
# The names of the Western scripts

The first characters: the alphabets of Europe and of the Near East.
-/

namespace SafeFetch.Text.CharacterName

/-- The names of the Western scripts. -/
def western : List Run :=
  [
    ⟨0x20, [
      "00SPACE;00EXCLAMATION MARK;01QUOTATION;00NUMBER SIGN;01DOLLAR;01PERCENT;00AMPERSAND",
      "00APOSTROPHE;00LEFT PARENTHESIS;01RIGHT;00ASTERISK;00PLUS SIGN;00COMMA;00HYPHEN-MINUS",
      "00FULL STOP;00SOLIDUS;00DIGIT ZERO;10ONE;10TWO;10THREE;10FOUR;10FIVE;10SIX;10SEVEN",
      "10EIGHT;10NINE;00COLON;00SEMICOLON;00LESS-THAN SIGN;01EQUALS;01GREATER-THAN",
      "00QUESTION MARK;00COMMERCIAL AT;00LATIN CAPITAL LETTER A;30B;30C;30D;30E;30F;30G;30H;30I",
      "30J;30K;30L;30M;30N;30O;30P;30Q;30R;30S;30T;30U;30V;30W;30X;30Y;30Z;00LEFT SQUARE BRACKET",
      "00REVERSE SOLIDUS;00RIGHT SQUARE BRACKET;00CIRCUMFLEX ACCENT;00LOW LINE;00GRAVE ACCENT",
      "00LATIN SMALL LETTER A;30B;30C;30D;30E;30F;30G;30H;30I;30J;30K;30L;30M;30N;30O;30P;30Q",
      "30R;30S;30T;30U;30V;30W;30X;30Y;30Z;00LEFT CURLY BRACKET;00VERTICAL LINE",
      "00RIGHT CURLY BRACKET;00TILDE"]⟩,
    ⟨0xa0, [
      "00NO-BREAK SPACE;00INVERTED EXCLAMATION MARK;00CENT SIGN;01POUND;01CURRENCY;01YEN",
      "00BROKEN BAR;00SECTION SIGN;00DIAERESIS;00COPYRIGHT SIGN;00FEMININE ORDINAL INDICATOR",
      "00LEFT-POINTING DOUBLE ANGLE QUOTATION MARK;00NOT SIGN;00SOFT HYPHEN;00REGISTERED SIGN",
      "00MACRON;00DEGREE SIGN;01PLUS-MINUS;00SUPERSCRIPT TWO;10THREE;00ACUTE ACCENT;00MICRO SIGN",
      "01PILCROW;00MIDDLE DOT;00CEDILLA;00SUPERSCRIPT ONE;00MASCULINE ORDINAL INDICATOR",
      "00RIGHT-POINTING DOUBLE ANGLE QUOTATION MARK;00VULGAR FRACTION ONE QUARTER;30HALF",
      "20THREE QUARTERS;00INVERTED QUESTION MARK;00LATIN CAPITAL LETTER A WITH GRAVE;50ACUTE",
      "50CIRCUMFLEX;50TILDE;50DIAERESIS;50RING ABOVE;30AE;30C WITH CEDILLA;30E WITH GRAVE",
      "50ACUTE;50CIRCUMFLEX;50DIAERESIS;30I WITH GRAVE;50ACUTE;50CIRCUMFLEX;50DIAERESIS;30ETH",
      "30N WITH TILDE;30O WITH GRAVE;50ACUTE;50CIRCUMFLEX;50TILDE;50DIAERESIS",
      "00MULTIPLICATION SIGN;00LATIN CAPITAL LETTER O WITH STROKE;30U WITH GRAVE;50ACUTE",
      "50CIRCUMFLEX;50DIAERESIS;30Y WITH ACUTE;30THORN;10SMALL LETTER SHARP S;30A WITH GRAVE",
      "50ACUTE;50CIRCUMFLEX;50TILDE;50DIAERESIS;50RING ABOVE;30AE;30C WITH CEDILLA",
      "30E WITH GRAVE;50ACUTE;50CIRCUMFLEX;50DIAERESIS;30I WITH GRAVE;50ACUTE;50CIRCUMFLEX",
      "50DIAERESIS;30ETH;30N WITH TILDE;30O WITH GRAVE;50ACUTE;50CIRCUMFLEX;50TILDE;50DIAERESIS",
      "00DIVISION SIGN;00LATIN SMALL LETTER O WITH STROKE;30U WITH GRAVE;50ACUTE;50CIRCUMFLEX",
      "50DIAERESIS;30Y WITH ACUTE;30THORN;30Y WITH DIAERESIS;10CAPITAL LETTER A WITH MACRON",
      "14SMALL;10CAPITAL LETTER A WITH BREVE;14SMALL;10CAPITAL LETTER A WITH OGONEK;14SMALL",
      "10CAPITAL LETTER C WITH ACUTE;14SMALL;10CAPITAL LETTER C WITH CIRCUMFLEX;14SMALL",
      "10CAPITAL LETTER C WITH DOT ABOVE;15SMALL;10CAPITAL LETTER C WITH CARON;14SMALL",
      "12CAPITAL LETTER D;14SMALL;10CAPITAL LETTER D WITH STROKE;14SMALL",
      "10CAPITAL LETTER E WITH MACRON;14SMALL;10CAPITAL LETTER E WITH BREVE;14SMALL",
      "10CAPITAL LETTER E WITH DOT ABOVE;15SMALL;10CAPITAL LETTER E WITH OGONEK;14SMALL",
      "10CAPITAL LETTER E WITH CARON;14SMALL;10CAPITAL LETTER G WITH CIRCUMFLEX;14SMALL",
      "10CAPITAL LETTER G WITH BREVE;14SMALL;10CAPITAL LETTER G WITH DOT ABOVE;15SMALL",
      "10CAPITAL LETTER G WITH CEDILLA;14SMALL;10CAPITAL LETTER H WITH CIRCUMFLEX;14SMALL",
      "10CAPITAL LETTER H WITH STROKE;14SMALL;10CAPITAL LETTER I WITH TILDE;14SMALL",
      "10CAPITAL LETTER I WITH MACRON;14SMALL;10CAPITAL LETTER I WITH BREVE;14SMALL",
      "10CAPITAL LETTER I WITH OGONEK;14SMALL;10CAPITAL LETTER I WITH DOT ABOVE",
      "10SMALL LETTER DOTLESS I;10CAPITAL LIGATURE IJ;12SMALL;10CAPITAL LETTER J WITH CIRCUMFLEX",
      "14SMALL;10CAPITAL LETTER K WITH CEDILLA;14SMALL;30KRA;10CAPITAL LETTER L WITH ACUTE",
      "14SMALL;10CAPITAL LETTER L WITH CEDILLA;14SMALL;10CAPITAL LETTER L WITH CARON;14SMALL",
      "10CAPITAL LETTER L WITH MIDDLE DOT;15SMALL;10CAPITAL LETTER L WITH STROKE;14SMALL",
      "10CAPITAL LETTER N WITH ACUTE;14SMALL;10CAPITAL LETTER N WITH CEDILLA;14SMALL",
      "10CAPITAL LETTER N WITH CARON;14SMALL;40PRECEDED BY APOSTROPHE;10CAPITAL LETTER ENG",
      "12SMALL;10CAPITAL LETTER O WITH MACRON;14SMALL;10CAPITAL LETTER O WITH BREVE;14SMALL",
      "10CAPITAL LETTER O WITH DOUBLE ACUTE;15SMALL;10CAPITAL LIGATURE OE;12SMALL",
      "10CAPITAL LETTER R WITH ACUTE;14SMALL;10CAPITAL LETTER R WITH CEDILLA;14SMALL",
      "10CAPITAL LETTER R WITH CARON;14SMALL;10CAPITAL LETTER S WITH ACUTE;14SMALL",
      "10CAPITAL LETTER S WITH CIRCUMFLEX;14SMALL;10CAPITAL LETTER S WITH CEDILLA;14SMALL",
      "10CAPITAL LETTER S WITH CARON;14SMALL;10CAPITAL LETTER T WITH CEDILLA;14SMALL",
      "10CAPITAL LETTER T WITH CARON;14SMALL;10CAPITAL LETTER T WITH STROKE;14SMALL",
      "10CAPITAL LETTER U WITH TILDE;14SMALL;10CAPITAL LETTER U WITH MACRON;14SMALL",
      "10CAPITAL LETTER U WITH BREVE;14SMALL;10CAPITAL LETTER U WITH RING ABOVE;15SMALL",
      "10CAPITAL LETTER U WITH DOUBLE ACUTE;15SMALL;10CAPITAL LETTER U WITH OGONEK;14SMALL",
      "10CAPITAL LETTER W WITH CIRCUMFLEX;14SMALL;12CAPITAL LETTER Y;14SMALL",
      "10CAPITAL LETTER Y WITH DIAERESIS;30Z WITH ACUTE;14SMALL",
      "10CAPITAL LETTER Z WITH DOT ABOVE;15SMALL;10CAPITAL LETTER Z WITH CARON;14SMALL;30LONG S",
      "30B WITH STROKE;10CAPITAL LETTER B WITH HOOK;50TOPBAR;14SMALL;10CAPITAL LETTER TONE SIX",
      "13SMALL;10CAPITAL LETTER OPEN O;30C WITH HOOK;14SMALL;10CAPITAL LETTER AFRICAN D",
      "30D WITH HOOK;50TOPBAR;14SMALL;30TURNED DELTA;10CAPITAL LETTER REVERSED E;30SCHWA",
      "30OPEN E;30F WITH HOOK;14SMALL;12CAPITAL LETTER G;30GAMMA;10SMALL LETTER HV",
      "10CAPITAL LETTER IOTA;30I WITH STROKE;30K WITH HOOK;14SMALL;30L WITH BAR",
      "30LAMBDA WITH STROKE;10CAPITAL LETTER TURNED M;30N WITH LEFT HOOK",
      "10SMALL LETTER N WITH LONG RIGHT LEG;10CAPITAL LETTER O WITH MIDDLE TILDE;50HORN;14SMALL",
      "10CAPITAL LETTER OI;12SMALL;10CAPITAL LETTER P WITH HOOK;14SMALL;10LETTER YR",
      "10CAPITAL LETTER TONE TWO;13SMALL;10CAPITAL LETTER ESH;10LETTER REVERSED ESH LOOP",
      "10SMALL LETTER T WITH PALATAL HOOK;11CAPITAL LETTER T WITH;14SMALL",
      "11CAPITAL LETTER T WITH RETROFLEX;30U WITH HORN;14SMALL;10CAPITAL LETTER UPSILON",
      "30V WITH HOOK;32Y;14SMALL;10CAPITAL LETTER Z WITH STROKE;14SMALL;10CAPITAL LETTER EZH",
      "40REVERSED;13SMALL;40WITH TAIL;10LETTER TWO WITH STROKE;10CAPITAL LETTER TONE FIVE",
      "13SMALL;10LETTER INVERTED GLOTTAL STOP WITH STROKE;20WYNN;20DENTAL CLICK;21LATERAL",
      "21ALVEOLAR;21RETROFLEX;10CAPITAL LETTER DZ WITH CARON;32D WITH SMALL LETTER Z",
      "12SMALL LETTER DZ;10CAPITAL LETTER LJ;30L WITH SMALL LETTER J;10SMALL LETTER LJ",
      "10CAPITAL LETTER NJ;30N WITH SMALL LETTER J;10SMALL LETTER NJ",
      "10CAPITAL LETTER A WITH CARON;14SMALL;12CAPITAL LETTER I;14SMALL;12CAPITAL LETTER O",
      "14SMALL;12CAPITAL LETTER U;14SMALL;10CAPITAL LETTER U WITH DIAERESIS AND MACRON;16SMALL",
      "10CAPITAL LETTER U WITH DIAERESIS AND ACUTE;16SMALL",
      "10CAPITAL LETTER U WITH DIAERESIS AND CARON;16SMALL",
      "10CAPITAL LETTER U WITH DIAERESIS AND GRAVE;16SMALL;30TURNED E",
      "10CAPITAL LETTER A WITH DIAERESIS AND MACRON;16SMALL;12CAPITAL LETTER A WITH DOT ABOVE",
      "17SMALL;11CAPITAL LETTER AE WITH;14SMALL;10CAPITAL LETTER G WITH STROKE;14SMALL",
      "10CAPITAL LETTER G WITH CARON;14SMALL;12CAPITAL LETTER K;14SMALL",
      "10CAPITAL LETTER O WITH OGONEK;14SMALL;10CAPITAL LETTER O WITH OGONEK AND MACRON;16SMALL",
      "10CAPITAL LETTER EZH WITH CARON;14SMALL;32J;10CAPITAL LETTER DZ;30D WITH SMALL LETTER Z",
      "10SMALL LETTER DZ;10CAPITAL LETTER G WITH ACUTE;14SMALL;10CAPITAL LETTER HWAIR;30WYNN",
      "30N WITH GRAVE;14SMALL;10CAPITAL LETTER A WITH RING ABOVE AND ACUTE;17SMALL",
      "11CAPITAL LETTER AE WITH;14SMALL;11CAPITAL LETTER O WITH STROKE AND;16SMALL",
      "10CAPITAL LETTER A WITH DOUBLE GRAVE;15SMALL;10CAPITAL LETTER A WITH INVERTED BREVE",
      "15SMALL;10CAPITAL LETTER E WITH DOUBLE GRAVE;15SMALL",
      "10CAPITAL LETTER E WITH INVERTED BREVE;15SMALL;10CAPITAL LETTER I WITH DOUBLE GRAVE",
      "15SMALL;10CAPITAL LETTER I WITH INVERTED BREVE;15SMALL",
      "10CAPITAL LETTER O WITH DOUBLE GRAVE;15SMALL;10CAPITAL LETTER O WITH INVERTED BREVE",
      "15SMALL;10CAPITAL LETTER R WITH DOUBLE GRAVE;15SMALL",
      "10CAPITAL LETTER R WITH INVERTED BREVE;15SMALL;10CAPITAL LETTER U WITH DOUBLE GRAVE",
      "15SMALL;10CAPITAL LETTER U WITH INVERTED BREVE;15SMALL",
      "10CAPITAL LETTER S WITH COMMA BELOW;15SMALL;13CAPITAL LETTER T;15SMALL",
      "10CAPITAL LETTER YOGH;12SMALL;10CAPITAL LETTER H WITH CARON;14SMALL",
      "10CAPITAL LETTER N WITH LONG RIGHT LEG;10SMALL LETTER D WITH CURL;10CAPITAL LETTER OU",
      "12SMALL;10CAPITAL LETTER Z WITH HOOK;14SMALL;10CAPITAL LETTER A WITH DOT ABOVE;15SMALL",
      "10CAPITAL LETTER E WITH CEDILLA;14SMALL;10CAPITAL LETTER O WITH DIAERESIS AND MACRON",
      "16SMALL;12CAPITAL LETTER O WITH TILDE;16SMALL;10CAPITAL LETTER O WITH DOT ABOVE;15SMALL",
      "10CAPITAL LETTER O WITH DOT ABOVE AND MACRON;17SMALL;11CAPITAL LETTER Y WITH;14SMALL",
      "30L WITH CURL;32N;32T;30DOTLESS J;30DB DIGRAPH;31QP;10CAPITAL LETTER A WITH STROKE;32C",
      "14SMALL;10CAPITAL LETTER L WITH BAR;30T WITH DIAGONAL STROKE",
      "10SMALL LETTER S WITH SWASH TAIL;33Z;10CAPITAL LETTER GLOTTAL STOP;13SMALL",
      "10CAPITAL LETTER B WITH STROKE;30U BAR;30TURNED V;30E WITH STROKE;14SMALL",
      "12CAPITAL LETTER J;14SMALL;10CAPITAL LETTER SMALL Q WITH HOOK TAIL;14SMALL LETTER",
      "10CAPITAL LETTER R WITH STROKE;14SMALL;12CAPITAL LETTER Y;14SMALL;30TURNED A;30ALPHA",
      "31TURNED;30B WITH HOOK;30OPEN O;30C WITH CURL;30D WITH TAIL;50HOOK;30REVERSED E;30SCHWA",
      "40WITH HOOK;30OPEN E;32REVERSED;60WITH HOOK;30CLOSED REVERSED OPEN E",
      "30DOTLESS J WITH STROKE;30G WITH HOOK;30SCRIPT G;11LETTER SMALL CAPITAL",
      "10SMALL LETTER GAMMA;30RAMS HORN;30TURNED H;30H WITH HOOK;32HENG;30I WITH STROKE;30IOTA",
      "10LETTER SMALL CAPITAL I;10SMALL LETTER L WITH MIDDLE TILDE;50BELT;50RETROFLEX HOOK",
      "30LEZH;30TURNED M;50WITH LONG LEG;30M WITH HOOK;31N WITH LEFT;51RETROFLEX",
      "10LETTER SMALL CAPITAL N;10SMALL LETTER BARRED O;10LETTER SMALL CAPITAL OE",
      "10SMALL LETTER CLOSED OMEGA;30PHI;30TURNED R;50WITH LONG LEG;60HOOK;30R WITH LONG LEG",
      "50TAIL;50FISHHOOK;33REVERSED;10LETTER SMALL CAPITAL R;41INVERTED",
      "10SMALL LETTER S WITH HOOK;30ESH;30DOTLESS J WITH STROKE AND HOOK;30SQUAT REVERSED ESH",
      "30ESH WITH CURL;30TURNED T;30T WITH RETROFLEX HOOK;30U BAR;30UPSILON;30V WITH HOOK",
      "30TURNED V;40W;40Y;11LETTER SMALL CAPITAL;10SMALL LETTER Z WITH RETROFLEX HOOK;50CURL",
      "30EZH;40WITH CURL;10LETTER GLOTTAL STOP;20PHARYNGEAL VOICED FRICATIVE",
      "20INVERTED GLOTTAL STOP;20STRETCHED C;20BILABIAL CLICK;20SMALL CAPITAL B",
      "10SMALL LETTER CLOSED OPEN E;10LETTER SMALL CAPITAL G WITH HOOK;40H",
      "10SMALL LETTER J WITH CROSSED-TAIL;30TURNED K;10LETTER SMALL CAPITAL L",
      "10SMALL LETTER Q WITH HOOK;10LETTER GLOTTAL STOP WITH STROKE;24REVERSED",
      "10SMALL LETTER DZ DIGRAPH;31DEZH;30DZ DIGRAPH WITH CURL;30TS DIGRAPH;31TESH",
      "30TC DIGRAPH WITH CURL;30FENG DIGRAPH;31LS;31LZ;10LETTER BILABIAL PERCUSSIVE;21BIDENTAL",
      "10SMALL LETTER TURNED H WITH FISHHOOK;70AND TAIL;00MODIFIER LETTER SMALL H;40WITH HOOK",
      "30J;30R;31TURNED;50WITH HOOK;30CAPITAL INVERTED R;30W;30Y;20PRIME;21DOUBLE;20TURNED COMMA",
      "20APOSTROPHE;20REVERSED COMMA;20RIGHT HALF RING;22LEFT;20GLOTTAL STOP;22REVERSED",
      "20LEFT ARROWHEAD;21RIGHT;21UP;21DOWN;20CIRCUMFLEX ACCENT;00CARON",
      "00MODIFIER LETTER VERTICAL LINE;20MACRON;20ACUTE ACCENT;21GRAVE;20LOW VERTICAL LINE",
      "30MACRON;30GRAVE ACCENT;31ACUTE;20TRIANGULAR COLON;22HALF;20CENTRED RIGHT HALF RING",
      "32LEFT;20UP TACK;21DOWN;20PLUS SIGN;21MINUS;00BREVE;00DOT ABOVE;01RING;00OGONEK",
      "00SMALL TILDE;00DOUBLE ACUTE ACCENT;00MODIFIER LETTER RHOTIC HOOK;20CROSS ACCENT",
      "20SMALL GAMMA;30L;30S;30X;30REVERSED GLOTTAL STOP;20EXTRA-HIGH TONE BAR;22HIGH;22MID",
      "22LOW;22EXTRA-LOW;20YIN DEPARTING TONE MARK;23YANG;20VOICING;20UNASPIRATED",
      "20DOUBLE APOSTROPHE;20LOW DOWN ARROWHEAD;31UP;31LEFT;31RIGHT;30RING;20MIDDLE GRAVE ACCENT",
      "32DOUBLE;41ACUTE;20LOW TILDE;20RAISED COLON;20BEGIN HIGH TONE;22END;21BEGIN LOW;22END",
      "20SHELF;21OPEN;20LOW LEFT ARROW;00COMBINING GRAVE ACCENT;11ACUTE;11CIRCUMFLEX;10TILDE",
      "10MACRON;10OVERLINE;10BREVE;10DOT ABOVE;10DIAERESIS;10HOOK ABOVE;11RING",
      "10DOUBLE ACUTE ACCENT;10CARON;10VERTICAL LINE ABOVE;13DOUBLE;20GRAVE ACCENT;10CANDRABINDU",
      "10INVERTED BREVE;10TURNED COMMA ABOVE;12;12REVERSED;10COMMA ABOVE RIGHT",
      "10GRAVE ACCENT BELOW;12ACUTE;11LEFT TACK;12RIGHT;10LEFT ANGLE ABOVE;10HORN",
      "10LEFT HALF RING BELOW;11UP TACK;12DOWN;11PLUS SIGN;12MINUS;11PALATALIZED HOOK",
      "12RETROFLEX;11DOT;11DIAERESIS;11RING;11COMMA;10CEDILLA;10OGONEK;10VERTICAL LINE BELOW",
      "11BRIDGE;11INVERTED DOUBLE ARCH;11CARON;11CIRCUMFLEX ACCENT;11BREVE;12INVERTED;11TILDE",
      "11MACRON;10LOW LINE;12DOUBLE;10TILDE OVERLAY;11SHORT STROKE;12LONG;11SHORT SOLIDUS;12LONG",
      "10RIGHT HALF RING BELOW;11INVERTED BRIDGE;11SQUARE;11SEAGULL;10X ABOVE;10VERTICAL TILDE",
      "10DOUBLE OVERLINE;10GRAVE TONE MARK;12ACUTE;10GREEK PERISPOMENI;20KORONIS",
      "20DIALYTIKA TONOS;20YPOGEGRAMMENI;10BRIDGE ABOVE;10EQUALS SIGN BELOW",
      "11DOUBLE VERTICAL LINE;11LEFT ANGLE;10NOT TILDE ABOVE;11HOMOTHETIC;11ALMOST EQUAL TO",
      "10LEFT RIGHT ARROW BELOW;12UPWARDS;10GRAPHEME JOINER;10RIGHT ARROWHEAD ABOVE",
      "11LEFT HALF RING;10FERMATA;10X BELOW;11LEFT ARROWHEAD;12RIGHT;31AND UP ARROWHEAD",
      "20HALF RING ABOVE;10DOT ABOVE RIGHT;10ASTERISK BELOW;11DOUBLE RING;10ZIGZAG ABOVE",
      "10DOUBLE BREVE BELOW;30;20MACRON;30BELOW;20TILDE;20INVERTED BREVE",
      "20RIGHTWARDS ARROW BELOW;10LATIN SMALL LETTER A;40E;40I;40O;40U;40C;40D;40H;40M;40R;40T",
      "40V;40X;00GREEK CAPITAL LETTER HETA;12SMALL;10CAPITAL LETTER ARCHAIC SAMPI;13SMALL",
      "10NUMERAL SIGN;12LOWER;10CAPITAL LETTER PAMPHYLIAN DIGAMMA;13SMALL"]⟩,
    ⟨0x37a, [
      "00GREEK YPOGEGRAMMENI;10SMALL REVERSED LUNATE SIGMA SYMBOL;23DOTTED;24REVERSED",
      "10QUESTION MARK;10CAPITAL LETTER YOT"]⟩,
    ⟨0x384, [
      "00GREEK TONOS;11DIALYTIKA;11CAPITAL LETTER ALPHA WITH;10ANO TELEIA",
      "10CAPITAL LETTER EPSILON WITH TONOS;32ETA;32IOTA"]⟩,
    ⟨0x38c, ["00GREEK CAPITAL LETTER OMICRON WITH TONOS"]⟩,
    ⟨0x38e, [
      "00GREEK CAPITAL LETTER UPSILON WITH TONOS;32OMEGA;11SMALL LETTER IOTA WITH DIALYTIKA AND",
      "10CAPITAL LETTER ALPHA;30BETA;30GAMMA;30DELTA;30EPSILON;30ZETA;30ETA;30THETA;30IOTA",
      "30KAPPA;30LAMDA;30MU;30NU;30XI;30OMICRON;30PI;30RHO"]⟩,
    ⟨0x3a3, [
      "00GREEK CAPITAL LETTER SIGMA;30TAU;30UPSILON;30PHI;30CHI;30PSI;30OMEGA",
      "30IOTA WITH DIALYTIKA;32UPSILON;10SMALL LETTER ALPHA WITH TONOS;32EPSILON;32ETA;32IOTA",
      "31UPSILON WITH DIALYTIKA AND;30ALPHA;30BETA;30GAMMA;30DELTA;30EPSILON;30ZETA;30ETA",
      "30THETA;30IOTA;30KAPPA;30LAMDA;30MU;30NU;30XI;30OMICRON;30PI;30RHO;30FINAL SIGMA;31;30TAU",
      "30UPSILON;30PHI;30CHI;30PSI;30OMEGA;30IOTA WITH DIALYTIKA;32UPSILON;30OMICRON WITH TONOS",
      "32UPSILON;32OMEGA;10CAPITAL KAI SYMBOL;11BETA;11THETA;11UPSILON WITH HOOK;32ACUTE AND",
      "33DIAERESIS;11PHI;11PI;11KAI;10LETTER ARCHAIC KOPPA;13SMALL;10LETTER STIGMA;12SMALL",
      "10LETTER DIGAMMA;12SMALL;10LETTER KOPPA;12SMALL;10LETTER SAMPI;12SMALL",
      "00COPTIC CAPITAL LETTER SHEI;12SMALL;10CAPITAL LETTER FEI;12SMALL;10CAPITAL LETTER KHEI",
      "12SMALL;10CAPITAL LETTER HORI;12SMALL;10CAPITAL LETTER GANGIA;12SMALL",
      "10CAPITAL LETTER SHIMA;12SMALL;10CAPITAL LETTER DEI;12SMALL;00GREEK KAPPA SYMBOL;11RHO",
      "11LUNATE SIGMA;10LETTER YOT;10CAPITAL THETA SYMBOL;11LUNATE EPSILON;13REVERSED",
      "10CAPITAL LETTER SHO;12SMALL;10CAPITAL LUNATE SIGMA SYMBOL;20LETTER SAN;12SMALL",
      "10RHO WITH STROKE SYMBOL;11CAPITAL REVERSED LUNATE SIGMA;23DOTTED;24REVERSED",
      "00CYRILLIC CAPITAL LETTER IE WITH GRAVE;30IO;30DJE;30GJE;30UKRAINIAN IE;30DZE",
      "30BYELORUSSIAN-UKRAINIAN I;30YI;30JE;30LJE;30NJE;30TSHE;30KJE;30I WITH GRAVE;30SHORT U",
      "30DZHE;30A;30BE;30VE;30GHE;30DE;30IE;30ZHE;30ZE;30I;31SHORT;30KA;30EL;30EM;30EN;30O;30PE",
      "30ER;30ES;30TE;30U;30EF;30HA;30TSE;30CHE;30SHA;30SHCHA;30HARD SIGN;30YERU;30SOFT SIGN;30E",
      "30YU;30YA;10SMALL LETTER A;30BE;30VE;30GHE;30DE;30IE;30ZHE;30ZE;30I;31SHORT;30KA;30EL",
      "30EM;30EN;30O;30PE;30ER;30ES;30TE;30U;30EF;30HA;30TSE;30CHE;30SHA;30SHCHA;30HARD SIGN",
      "30YERU;30SOFT SIGN;30E;30YU;30YA;30IE WITH GRAVE;30IO;30DJE;30GJE;30UKRAINIAN IE;30DZE",
      "30BYELORUSSIAN-UKRAINIAN I;30YI;30JE;30LJE;30NJE;30TSHE;30KJE;30I WITH GRAVE;30SHORT U",
      "30DZHE;10CAPITAL LETTER OMEGA;12SMALL;10CAPITAL LETTER YAT;12SMALL",
      "10CAPITAL LETTER IOTIFIED E;13SMALL;10CAPITAL LETTER LITTLE YUS;13SMALL",
      "12CAPITAL LETTER IOTIFIED;14SMALL;11CAPITAL LETTER BIG;13SMALL;12CAPITAL LETTER IOTIFIED",
      "14SMALL;10CAPITAL LETTER KSI;12SMALL;10CAPITAL LETTER PSI;12SMALL;10CAPITAL LETTER FITA",
      "12SMALL;10CAPITAL LETTER IZHITSA;12SMALL",
      "10CAPITAL LETTER IZHITSA WITH DOUBLE GRAVE ACCENT;16SMALL;10CAPITAL LETTER UK;12SMALL",
      "10CAPITAL LETTER ROUND OMEGA;13SMALL;10CAPITAL LETTER OMEGA WITH TITLO;14SMALL",
      "10CAPITAL LETTER OT;12SMALL;10CAPITAL LETTER KOPPA;12SMALL;10THOUSANDS SIGN",
      "00COMBINING CYRILLIC TITLO;20PALATALIZATION;20DASIA PNEUMATA;21PSILI;20POKRYTIE",
      "20HUNDRED THOUSANDS SIGN;21MILLIONS;00CYRILLIC CAPITAL LETTER SHORT I WITH TAIL;15SMALL",
      "10CAPITAL LETTER SEMISOFT SIGN;13SMALL;10CAPITAL LETTER ER WITH TICK;14SMALL",
      "10CAPITAL LETTER GHE WITH UPTURN;14SMALL;10CAPITAL LETTER GHE WITH STROKE;14SMALL",
      "10CAPITAL LETTER GHE WITH MIDDLE HOOK;15SMALL;10CAPITAL LETTER ZHE WITH DESCENDER;14SMALL",
      "12CAPITAL LETTER ZE;14SMALL;12CAPITAL LETTER KA;14SMALL",
      "10CAPITAL LETTER KA WITH VERTICAL STROKE;15SMALL;11CAPITAL LETTER KA WITH;14SMALL",
      "10CAPITAL LETTER BASHKIR KA;13SMALL;10CAPITAL LETTER EN WITH DESCENDER;14SMALL",
      "10CAPITAL LIGATURE EN GHE;13SMALL;10CAPITAL LETTER PE WITH MIDDLE HOOK;15SMALL",
      "10CAPITAL LETTER ABKHASIAN HA;13SMALL;10CAPITAL LETTER ES WITH DESCENDER;14SMALL",
      "12CAPITAL LETTER TE;14SMALL;10CAPITAL LETTER STRAIGHT U;13SMALL",
      "10CAPITAL LETTER STRAIGHT U WITH STROKE;15SMALL;10CAPITAL LETTER HA WITH DESCENDER",
      "14SMALL;10CAPITAL LIGATURE TE TSE;13SMALL;10CAPITAL LETTER CHE WITH DESCENDER;14SMALL",
      "10CAPITAL LETTER CHE WITH VERTICAL STROKE;15SMALL;10CAPITAL LETTER SHHA;12SMALL",
      "10CAPITAL LETTER ABKHASIAN CHE;13SMALL;10CAPITAL LETTER ABKHASIAN CHE WITH DESCENDER",
      "15SMALL;10LETTER PALOCHKA;10CAPITAL LETTER ZHE WITH BREVE;14SMALL",
      "10CAPITAL LETTER KA WITH HOOK;14SMALL;10CAPITAL LETTER EL WITH TAIL;14SMALL",
      "10CAPITAL LETTER EN WITH HOOK;14SMALL;10CAPITAL LETTER EN WITH TAIL;14SMALL",
      "10CAPITAL LETTER KHAKASSIAN CHE;13SMALL;10CAPITAL LETTER EM WITH TAIL;14SMALL;30PALOCHKA",
      "10CAPITAL LETTER A WITH BREVE;14SMALL;10CAPITAL LETTER A WITH DIAERESIS;14SMALL",
      "10CAPITAL LIGATURE A IE;13SMALL;10CAPITAL LETTER IE WITH BREVE;14SMALL",
      "10CAPITAL LETTER SCHWA;12SMALL;10CAPITAL LETTER SCHWA WITH DIAERESIS;14SMALL",
      "12CAPITAL LETTER ZHE;14SMALL;12CAPITAL LETTER ZE;14SMALL;10CAPITAL LETTER ABKHASIAN DZE",
      "13SMALL;10CAPITAL LETTER I WITH MACRON;14SMALL;10CAPITAL LETTER I WITH DIAERESIS;14SMALL",
      "12CAPITAL LETTER O;14SMALL;10CAPITAL LETTER BARRED O;13SMALL",
      "10CAPITAL LETTER BARRED O WITH DIAERESIS;15SMALL;12CAPITAL LETTER E;14SMALL",
      "10CAPITAL LETTER U WITH MACRON;14SMALL;10CAPITAL LETTER U WITH DIAERESIS;14SMALL",
      "10CAPITAL LETTER U WITH DOUBLE ACUTE;15SMALL;10CAPITAL LETTER CHE WITH DIAERESIS;14SMALL",
      "10CAPITAL LETTER GHE WITH DESCENDER;14SMALL;10CAPITAL LETTER YERU WITH DIAERESIS;14SMALL",
      "10CAPITAL LETTER GHE WITH STROKE AND HOOK;16SMALL;11CAPITAL LETTER HA WITH;14SMALL",
      "10CAPITAL LETTER HA WITH STROKE;14SMALL;10CAPITAL LETTER KOMI DE;13SMALL",
      "10CAPITAL LETTER KOMI DJE;13SMALL;10CAPITAL LETTER KOMI ZJE;13SMALL",
      "10CAPITAL LETTER KOMI DZJE;13SMALL;10CAPITAL LETTER KOMI LJE;13SMALL",
      "10CAPITAL LETTER KOMI NJE;13SMALL;10CAPITAL LETTER KOMI SJE;13SMALL",
      "10CAPITAL LETTER KOMI TJE;13SMALL;10CAPITAL LETTER REVERSED ZE;13SMALL",
      "10CAPITAL LETTER EL WITH HOOK;14SMALL;10CAPITAL LETTER LHA;12SMALL;10CAPITAL LETTER RHA",
      "12SMALL;10CAPITAL LETTER YAE;12SMALL;10CAPITAL LETTER QA;12SMALL;10CAPITAL LETTER WE",
      "12SMALL;10CAPITAL LETTER ALEUT KA;13SMALL;10CAPITAL LETTER EL WITH MIDDLE HOOK;15SMALL",
      "13CAPITAL LETTER EN;15SMALL;10CAPITAL LETTER PE WITH DESCENDER;14SMALL",
      "12CAPITAL LETTER SHHA;14SMALL;10CAPITAL LETTER EN WITH LEFT HOOK;15SMALL",
      "10CAPITAL LETTER DZZHE;12SMALL;10CAPITAL LETTER DCHE;12SMALL",
      "10CAPITAL LETTER EL WITH DESCENDER;14SMALL"]⟩,
    ⟨0x531, [
      "00ARMENIAN CAPITAL LETTER AYB;30BEN;30GIM;30DA;30ECH;30ZA;30EH;30ET;30TO;30ZHE;30INI",
      "30LIWN;30XEH;30CA;30KEN;30HO;30JA;30GHAD;30CHEH;30MEN;30YI;30NOW;30SHA;30VO;30CHA;30PEH",
      "30JHEH;30RA;30SEH;30VEW;30TIWN;30REH;30CO;30YIWN;30PIWR;30KEH;30OH;30FEH"]⟩,
    ⟨0x559, [
      "00ARMENIAN MODIFIER LETTER LEFT HALF RING;10APOSTROPHE;10EMPHASIS MARK;11EXCLAMATION",
      "10COMMA;10QUESTION MARK;11ABBREVIATION;10SMALL LETTER TURNED AYB;31;30BEN;30GIM;30DA",
      "30ECH;30ZA;30EH;30ET;30TO;30ZHE;30INI;30LIWN;30XEH;30CA;30KEN;30HO;30JA;30GHAD;30CHEH",
      "30MEN;30YI;30NOW;30SHA;30VO;30CHA;30PEH;30JHEH;30RA;30SEH;30VEW;30TIWN;30REH;30CO;30YIWN",
      "30PIWR;30KEH;30OH;30FEH;20LIGATURE ECH YIWN;20LETTER YI WITH STROKE;10FULL STOP;10HYPHEN"]⟩,
    ⟨0x58d, ["00RIGHT-FACING ARMENIAN ETERNITY SIGN;03LEFT-FACING;01ARMENIAN DRAM"]⟩,
    ⟨0x591, [
      "00HEBREW ACCENT ETNAHTA;20SEGOL;20SHALSHELET;20ZAQEF QATAN;30GADOL;20TIPEHA;20REVIA",
      "20ZARQA;20PASHTA;20YETIV;20TEVIR;20GERESH;30MUQDAM;20GERSHAYIM;20QARNEY PARA",
      "20TELISHA GEDOLA;20PAZER;20ATNAH HAFUKH;20MUNAH;20MAHAPAKH;20MERKHA;30KEFULA;20DARGA",
      "20QADMA;20TELISHA QETANA;20YERAH BEN YOMO;20OLE;20ILUY;20DEHI;20ZINOR",
      "10MARK MASORA CIRCLE;10POINT SHEVA;20HATAF SEGOL;30PATAH;30QAMATS;20HIRIQ;20TSERE;20SEGOL",
      "20PATAH;20QAMATS;20HOLAM;30HASER FOR VAV;20QUBUTS;20DAGESH OR MAPIQ;20METEG",
      "10PUNCTUATION MAQAF;10POINT RAFE;10PUNCTUATION PASEQ;10POINT SHIN DOT;21SIN",
      "10PUNCTUATION SOF PASUQ;10MARK UPPER DOT;21LOWER;10PUNCTUATION NUN HAFUKHA",
      "10POINT QAMATS QATAN"]⟩,
    ⟨0x5d0, [
      "00HEBREW LETTER ALEF;20BET;20GIMEL;20DALET;20HE;20VAV;20ZAYIN;20HET;20TET;20YOD",
      "20FINAL KAF;21;20LAMED;20FINAL MEM;21;20FINAL NUN;21;20SAMEKH;20AYIN;20FINAL PE;21",
      "20FINAL TSADI;21;20QOF;20RESH;20SHIN;20TAV"]⟩,
    ⟨0x5ef, [
      "00HEBREW YOD TRIANGLE;10LIGATURE YIDDISH DOUBLE VAV;30VAV YOD;31DOUBLE",
      "10PUNCTUATION GERESH;20GERSHAYIM"]⟩,
    ⟨0x600, [
      "00ARABIC NUMBER SIGN;10SIGN SANAH;10FOOTNOTE MARKER;10SIGN SAFHA;20SAMVAT",
      "10NUMBER MARK ABOVE;00ARABIC-INDIC CUBE ROOT;11FOURTH;00ARABIC RAY",
      "00ARABIC-INDIC PER MILLE SIGN;21TEN THOUSAND;01AFGHANI;00ARABIC COMMA;10DATE SEPARATOR",
      "10POETIC VERSE SIGN;10SIGN MISRA;20SALLALLAHOU ALAYHE WASSALLAM;20ALAYHE ASSALLAM",
      "20RAHMATULLAH ALAYHE;20RADI ALLAHOU ANHU;20TAKHALLUS;10SMALL HIGH TAH",
      "30LIGATURE ALEF WITH LAM WITH YEH;30ZAIN;20FATHA;20DAMMA;20KASRA;10SEMICOLON",
      "10LETTER MARK;11END OF TEXT;11TRIPLE DOT PUNCTUATION;11QUESTION;10LETTER KASHMIRI YEH",
      "20HAMZA;20ALEF WITH MADDA ABOVE;41HAMZA;23WAW;20ALEF WITH HAMZA BELOW",
      "20YEH WITH HAMZA ABOVE;20ALEF;20BEH;20TEH MARBUTA;30;20THEH;20JEEM;20HAH;20KHAH;20DAL",
      "20THAL;20REH;20ZAIN;20SEEN;20SHEEN;20SAD;20DAD;20TAH;20ZAH;20AIN;20GHAIN",
      "20KEHEH WITH TWO DOTS ABOVE;40THREE DOTS BELOW;20FARSI YEH WITH INVERTED V",
      "50TWO DOTS ABOVE;52THREE;10TATWEEL;10LETTER FEH;20QAF;20KAF;20LAM;20MEEM;20NOON;20HEH",
      "20WAW;20ALEF MAKSURA;20YEH;10FATHATAN;10DAMMATAN;10KASRATAN;10FATHA;10DAMMA;10KASRA",
      "10SHADDA;10SUKUN;10MADDAH ABOVE;11HAMZA;20BELOW;10SUBSCRIPT ALEF;10INVERTED DAMMA",
      "10MARK NOON GHUNNA;10ZWARAKAY;10VOWEL SIGN SMALL V ABOVE;33INVERTED;30DOT BELOW",
      "10REVERSED DAMMA;10FATHA WITH TWO DOTS;10WAVY HAMZA BELOW;00ARABIC-INDIC DIGIT ZERO;20ONE",
      "20TWO;20THREE;20FOUR;20FIVE;20SIX;20SEVEN;20EIGHT;20NINE;00ARABIC PERCENT SIGN",
      "10DECIMAL SEPARATOR;11THOUSANDS;10FIVE POINTED STAR;10LETTER DOTLESS BEH;30QAF",
      "20SUPERSCRIPT ALEF;20ALEF WASLA;30WITH WAVY HAMZA ABOVE;60BELOW;20HIGH HAMZA;40ALEF;40WAW",
      "20U WITH HAMZA ABOVE;20HIGH HAMZA YEH;20TTEH;20TTEHEH;20BEEH;20TEH WITH RING",
      "40THREE DOTS ABOVE DOWNWARDS;20PEH;20TEHEH;20BEHEH;20HAH WITH HAMZA ABOVE",
      "41TWO DOTS VERTICAL;20NYEH;20DYEH;20HAH WITH THREE DOTS ABOVE;20TCHEH;20TCHEHEH;20DDAL",
      "20DAL WITH RING;40DOT BELOW;60AND SMALL TAH;20DAHAL;20DDAHAL;20DUL",
      "20DAL WITH THREE DOTS ABOVE DOWNWARDS;40FOUR DOTS ABOVE;20RREH;20REH WITH SMALL V;40RING",
      "40DOT BELOW;41SMALL V;40DOT BELOW AND DOT ABOVE;41TWO DOTS;20JEH",
      "20REH WITH FOUR DOTS ABOVE;21SEEN WITH DOT BELOW AND DOT;40THREE DOTS BELOW",
      "70AND THREE DOTS ABOVE;20SAD WITH TWO DOTS BELOW;40THREE DOTS ABOVE;24TAH;24AIN",
      "20DOTLESS FEH;20FEH WITH DOT MOVED BELOW;51;20VEH;20FEH WITH THREE DOTS BELOW;20PEHEH",
      "20QAF WITH DOT ABOVE;41THREE DOTS;20KEHEH;20SWASH KAF;20KAF WITH RING;40DOT ABOVE;20NG",
      "20KAF WITH THREE DOTS BELOW;20GAF;30WITH RING;20NGOEH;20GAF WITH TWO DOTS BELOW;20GUEH",
      "20GAF WITH THREE DOTS ABOVE;20LAM WITH SMALL V;40DOT ABOVE;41THREE DOTS;60BELOW",
      "21NOON WITH DOT;30GHUNNA;20RNOON;20NOON WITH RING;40THREE DOTS ABOVE;20HEH DOACHASHMEE",
      "20TCHEH WITH DOT ABOVE;21HEH WITH YEH;30GOAL;40WITH HAMZA ABOVE;20TEH MARBUTA GOAL",
      "20WAW WITH RING;20KIRGHIZ OE;21;20U;20YU;21KIRGHIZ;20WAW WITH TWO DOTS ABOVE;20VE",
      "20FARSI YEH;20YEH WITH TAIL;40SMALL V;20WAW WITH DOT ABOVE;20E",
      "20YEH WITH THREE DOTS BELOW;30BARREE;40WITH HAMZA ABOVE;10FULL STOP;10LETTER AE",
      "10SMALL HIGH LIGATURE SAD WITH LAM WITH ALEF MAKSURA;45QAF;30MEEM INITIAL FORM;30LAM ALEF",
      "30JEEM;30THREE DOTS;30SEEN;10END OF AYAH;10START OF RUB EL HIZB;10SMALL HIGH ROUNDED ZERO",
      "31UPRIGHT RECTANGULAR;30DOTLESS HEAD OF KHAH;30MEEM ISOLATED FORM;20LOW SEEN;20HIGH MADDA",
      "20WAW;20YEH;21HIGH;30NOON;10PLACE OF SAJDAH;10EMPTY CENTRE LOW STOP;31HIGH",
      "10ROUNDED HIGH STOP WITH FILLED CENTRE;10SMALL LOW MEEM;10LETTER DAL WITH INVERTED V",
      "23REH;00EXTENDED ARABIC-INDIC DIGIT ZERO;30ONE;30TWO;30THREE;30FOUR;30FIVE;30SIX;30SEVEN",
      "30EIGHT;30NINE;00ARABIC LETTER SHEEN WITH DOT BELOW;23DAD;23GHAIN;10SIGN SINDHI AMPERSAND",
      "30POSTPOSITION MEN;10LETTER HEH WITH INVERTED V;00SYRIAC END OF PARAGRAPH",
      "10SUPRALINEAR FULL STOP;12SUBLINEAR;10SUPRALINEAR COLON;11SUBLINEAR;11HORIZONTAL",
      "10COLON SKEWED LEFT;30RIGHT;10SUPRALINEAR COLON SKEWED LEFT",
      "10SUBLINEAR COLON SKEWED RIGHT;10CONTRACTION;10HARKLEAN OBELUS;20METOBELUS;20ASTERISCUS"]⟩,
    ⟨0x70f, [
      "00SYRIAC ABBREVIATION MARK;10LETTER ALAPH;21SUPERSCRIPT;20BETH;20GAMAL;30GARSHUNI",
      "20DALATH;20DOTLESS DALATH RISH;20HE;20WAW;20ZAIN;20HETH;20TETH;30GARSHUNI;20YUDH;30HE",
      "20KAPH;20LAMADH;20MIM;20NUN;20SEMKATH;21FINAL;20E;20PE;21REVERSED;20SADHE;20QAPH;20RISH",
      "20SHIN;20TAW;20PERSIAN BHETH;30GHAMAL;30DHALATH;10PTHAHA ABOVE;20BELOW;20DOTTED",
      "10ZQAPHA ABOVE;20BELOW;20DOTTED;10RBASA ABOVE;20BELOW;10DOTTED ZLAMA HORIZONTAL;30ANGULAR",
      "10HBASA ABOVE;20BELOW;10HBASA-ESASA DOTTED;10ESASA ABOVE;20BELOW;10RWAHA;10FEMININE DOT",
      "10QUSHSHAYA;10RUKKAKHA;10TWO VERTICAL DOTS ABOVE;40BELOW;10THREE DOTS ABOVE;30BELOW",
      "10OBLIQUE LINE ABOVE;30BELOW;10MUSIC;10BARREKH"]⟩,
    ⟨0x74d, [
      "00SYRIAC LETTER SOGDIAN ZHAIN;30KHAPH;30FE",
      "00ARABIC LETTER BEH WITH THREE DOTS HORIZONTALLY BELOW;40DOT BELOW AND THREE DOTS ABOVE",
      "40THREE DOTS POINTING UPWARDS BELOW;90AND TWO DOTS ABOVE;41TWO DOTS BELOW AND DOT",
      "40INVERTED SMALL V BELOW;40SMALL V;20HAH WITH TWO DOTS ABOVE",
      "40THREE DOTS POINTING UPWARDS BELOW;20DAL WITH TWO DOTS VERTICALLY BELOW AND SMALL TAH",
      "40INVERTED SMALL V BELOW;20REH WITH STROKE;20SEEN WITH FOUR DOTS ABOVE;22AIN WITH TWO",
      "41THREE DOTS POINTING DOWNWARDS;41TWO DOTS VERTICALLY;20FEH WITH TWO DOTS BELOW",
      "41THREE DOTS POINTING UPWARDS;20KEHEH WITH DOT ABOVE;41THREE DOTS",
      "60POINTING UPWARDS BELOW;20MEEM WITH DOT ABOVE;50BELOW;21NOON WITH TWO DOTS;40SMALL TAH",
      "50V;20LAM WITH BAR;20REH WITH TWO DOTS VERTICALLY ABOVE;41HAMZA",
      "21SEEN WITH TWO DOTS VERTICALLY;20HAH WITH SMALL ARABIC LETTER TAH BELOW;80AND TWO DOTS",
      "28SEEN;28REH;20HAH WITH SMALL ARABIC LETTER TAH ABOVE",
      "21ALEF WITH EXTENDED ARABIC-INDIC DIGIT TWO;71THREE",
      "21FARSI YEH WITH EXTENDED ARABIC-INDIC DIGIT TWO;81THREE;80FOUR BELOW",
      "20WAW WITH EXTENDED ARABIC-INDIC DIGIT TWO ABOVE;71THREE",
      "21YEH BARREE WITH EXTENDED ARABIC-INDIC DIGIT TWO;81THREE",
      "20HAH WITH EXTENDED ARABIC-INDIC DIGIT FOUR BELOW",
      "20SEEN WITH EXTENDED ARABIC-INDIC DIGIT FOUR ABOVE;40INVERTED V;20KAF WITH TWO DOTS ABOVE",
      "00THAANA LETTER HAA;20SHAVIYANI;20NOONU;20RAA;20BAA;20LHAVIYANI;20KAAFU;20ALIFU;20VAAVU",
      "20MEEMU;20FAAFU;20DHAALU;20THAA;20LAAMU;20GAAFU;20GNAVIYANI;20SEENU;20DAVIYANI;20ZAVIYANI",
      "20TAVIYANI;20YAA;20PAVIYANI;20JAVIYANI;20CHAVIYANI;20TTAA;20HHAA;20KHAA;20THAALU;20ZAA",
      "20SHEENU;20SAADHU;20DAADHU;20TO;20ZO;20AINU;20GHAINU;20QAAFU;20WAAVU;10ABAFILI",
      "10AABAAFILI;10IBIFILI;10EEBEEFILI;10UBUFILI;10OOBOOFILI;10EBEFILI;10EYBEYFILI;10OBOFILI",
      "10OABOAFILI;10SUKUN;10LETTER NAA"]⟩,
    ⟨0x7c0, [
      "00NKO DIGIT ZERO;20ONE;20TWO;20THREE;20FOUR;20FIVE;20SIX;20SEVEN;20EIGHT;20NINE",
      "10LETTER A;20EE;20I;20E;20U;20OO;20O;20DAGBASINNA;20N;20BA;20PA;20TA;20JA;20CHA;20DA;20RA",
      "20RRA;20SA;20GBA;20FA;20KA;20LA;20NA WOLOSO;20MA;20NYA;20NA;20HA;20WA;20YA;20NYA WOLOSO",
      "20JONA JA;30CHA;30RA;10COMBINING SHORT HIGH TONE;31LOW;31RISING;21LONG DESCENDING;31HIGH",
      "31LOW;31RISING;20NASALIZATION MARK;20DOUBLE DOT ABOVE;10HIGH TONE APOSTROPHE;12LOW",
      "10SYMBOL OO DENNEN;20GBAKURUNEN;10COMMA;10EXCLAMATION MARK;10LAJANYALAN"]⟩,
    ⟨0x7fd, [
      "00NKO DANTAYALAN;10DOROME SIGN;11TAMAN;00SAMARITAN LETTER ALAF;20BIT;20GAMAN;20DALAT;20IY",
      "20BAA;20ZEN;20IT;20TIT;20YUT;20KAAF;20LABAT;20MIM;20NUN;20SINGAAT;20IN;20FI;20TSAADIY",
      "20QUF;20RISH;20SHAN;20TAAF;10MARK IN;20IN-ALAF;20OCCLUSION;20DAGESH",
      "10MODIFIER LETTER EPENTHETIC YUT;12MARK;10VOWEL SIGN LONG E;31;30OVERLONG AA;31LONG;31",
      "30OVERLONG A;31LONG;31;11MODIFIER LETTER SHORT;12VOWEL SIGN;30LONG U;31",
      "10MODIFIER LETTER I;11VOWEL SIGN LONG;31;30O;30SUKUN;10MARK NEQUDAA"]⟩,
    ⟨0x830, [
      "00SAMARITAN PUNCTUATION NEQUDAA;20AFSAAQ;20ANGED;20BAU;20ATMAAU;20SHIYYAALAA",
      "10ABBREVIATION MARK;10PUNCTUATION MELODIC QITSA;20ZIQAA;20QITSA;20ZAEF;20TURU;20ARKAANU",
      "20SOF MASHFAAT;20ANNAAU"]⟩,
    ⟨0x840, [
      "00MANDAIC LETTER HALQA;20AB;20AG;20AD;20AH;20USHENNA;20AZ;20IT;20ATT;20AKSA;20AK;20AL",
      "20AM;20AN;20AS;20IN;20AP;20ASZ;20AQ;20AR;20ASH;20AT;20DUSHENNA;20KAD;20AIN",
      "10AFFRICATION MARK;11VOCALIZATION;11GEMINATION"]⟩,
    ⟨0x85e, ["00MANDAIC PUNCTUATION"]⟩,
    ⟨0x860, [
      "00SYRIAC LETTER MALAYALAM NGA;30JA;30NYA;30TTA;30NNA;30NNNA;30BHA;30RA;30LLA;30LLLA;30SSA"]⟩,
    ⟨0x870, [
      "00ARABIC LETTER ALEF WITH ATTACHED FATHA;51TOP RIGHT;40RIGHT MIDDLE STROKE;42LEFT",
      "40ATTACHED KASRA;51BOTTOM RIGHT;50ROUND DOT ABOVE;50RIGHT ROUND DOT;52LEFT",
      "50ROUND DOT BELOW;40DOT ABOVE;42ATTACHED TOP RIGHT FATHA AND;43RIGHT MIDDLE STROKE",
      "43ATTACHED BOTTOM RIGHT KASRA;50TOP RIGHT FATHA AND LEFT RING;43RIGHT MIDDLE STROKE",
      "43ATTACHED BOTTOM RIGHT KASRA;50RIGHT HAMZA;51LEFT;11TATWEEL WITH OVERSTRUCK;40WAW",
      "30TWO DOTS BELOW;10LETTER THIN YEH;10BASELINE ROUND DOT;12RAISED",
      "10LETTER NOON WITH INVERTED SMALL V;20HAH WITH INVERTED SMALL V BELOW;21TAH WITH DOT",
      "41THREE DOTS;21KEHEH WITH TWO DOTS VERTICALLY;10VERTICAL TAIL"]⟩,
    ⟨0x890, ["00ARABIC POUND MARK ABOVE;12PIASTRE"]⟩,
    ⟨0x898, [
      "00ARABIC SMALL HIGH WORD AL-JUZ;20LOW WORD ISHMAAM;40IMAALA;40TASHEEL;10MADDA WAAJIB",
      "10SUPERSCRIPT ALEF MOKHASSAS;10DOUBLED MADDA;11HALF MADDA OVER",
      "10LETTER BEH WITH SMALL V BELOW;40HAMZA ABOVE;21JEEM WITH TWO DOTS;24TAH",
      "22FEH WITH DOT BELOW AND THREE;20QAF WITH DOT BELOW;20LAM WITH DOUBLE BAR",
      "20MEEM WITH THREE DOTS ABOVE;21YEH WITH TWO DOTS BELOW AND HAMZA;81DOT;20REH WITH LOOP",
      "20WAW WITH DOT WITHIN;20ROHINGYA YEH;20LOW ALEF;20DAL WITH THREE DOTS BELOW;24SAD",
      "20GAF WITH INVERTED STROKE;20STRAIGHT WAW;20ZAIN WITH INVERTED V ABOVE",
      "20AIN WITH THREE DOTS BELOW;21KAF WITH DOT;20QAF WITH DOT BELOW AND NO DOTS ABOVE",
      "21BEH WITH SMALL MEEM;24PEH;21TEH WITH SMALL TEH;21REH WITH SMALL NOON",
      "23YEH WITH TWO DOTS BELOW AND;20AFRICAN FEH;30QAF;30NOON;20PEH WITH SMALL V;23TEH;23TTEH",
      "23TCHEH;23KEHEH;20GHAIN WITH THREE DOTS ABOVE;24AFRICAN QAF;24JEEM;60BELOW",
      "20LAM WITH SMALL ARABIC LETTER TAH ABOVE;20GRAF;10SMALL FARSI YEH;22HIGH",
      "30YEH BARREE WITH TWO DOTS BELOW;30WORD SAH;30ZAH;10LARGE ROUND DOT ABOVE;40BELOW;11SUKUN",
      "11LARGE CIRCLE;22ROUND DOT INSIDE;10SMALL LOW WAW;20HIGH WORD AR-RUB;30SAD;30AIN;30QAF",
      "30NOON WITH KASRA;23LOW;20HIGH WORD ATH-THALATHA;40AS-SAJDA;40AN-NISF;40SAKTA;40QIF",
      "40WAQFA;30FOOTNOTE MARKER;30SIGN SAFHA;10DISPUTED END OF AYAH;10TURNED DAMMA BELOW",
      "10CURLY FATHA;20DAMMA;20KASRA;20FATHATAN;20DAMMATAN;20KASRATAN;10TONE ONE DOT ABOVE",
      "21TWO DOTS;21LOOP;20ONE DOT BELOW;21TWO DOTS;21LOOP;10OPEN FATHATAN;20DAMMATAN;20KASRATAN",
      "10SMALL HIGH WAW;10FATHA WITH RING;30DOT ABOVE;10KASRA WITH DOT BELOW",
      "10LEFT ARROWHEAD ABOVE;12RIGHT;10LEFT ARROWHEAD BELOW;12RIGHT",
      "10DOUBLE RIGHT ARROWHEAD ABOVE;50WITH DOT;15;12DAMMA;10MARK SIDEWAYS NOON GHUNNA"]⟩]

end SafeFetch.Text.CharacterName
