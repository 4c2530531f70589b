import SafeFetch.Text.CharacterName.Basic

/-!
# The names of signs

The characters from 1C00 on: further letters of the alphabets, punctuation, and the signs of trade
and science.
-/

namespace SafeFetch.Text.CharacterName

/-- The names of signs. -/
def signs : List Run :=
  [
    ⟨0x1c00, [
      "00LEPCHA LETTER KA;20KLA;20KHA;20GA;20GLA;20NGA;20CA;20CHA;20JA;20NYA;20TA;20THA;20DA",
      "20NA;20PA;20PLA;20PHA;20FA;20FLA;20BA;20BLA;20MA;20MLA;20TSA;20TSHA;20DZA;20YA;20RA;20LA",
      "20HA;20HLA;20VA;20SA;20SHA;20WA;20A;10SUBJOINED LETTER YA;30RA;10VOWEL SIGN AA;30I;30O",
      "30OO;30U;30UU;30E;10CONSONANT SIGN K;30M;30L;30N;30P;30R;30T;30NYIN-DO;30KANG;10SIGN RAN",
      "20NUKTA"]⟩,
    ⟨0x1c3b, [
      "00LEPCHA PUNCTUATION TA-ROL;21NYET THYOOM;20CER-WA;21TSHOOK;30;10DIGIT ZERO;20ONE;20TWO",
      "20THREE;20FOUR;20FIVE;20SIX;20SEVEN;20EIGHT;20NINE"]⟩,
    ⟨0x1c4d, [
      "00LEPCHA LETTER TTA;20TTHA;20DDA;00OL CHIKI DIGIT ZERO;30ONE;30TWO;30THREE;30FOUR;30FIVE",
      "30SIX;30SEVEN;30EIGHT;30NINE;20LETTER LA;30AT;30AG;30ANG;30AL;30LAA;30AAK;30AAJ;30AAM",
      "30AAW;30LI;30IS;30IH;30INY;30IR;30LU;30UC;30UD;30UNN;30UY;30LE;30EP;30EDD;30EN;30ERR;30LO",
      "30OTT;30OB;30OV;30OH;20MU TTUDDAG;20GAAHLAA TTUDDAAG;21MU-GAAHLAA;20RELAA;20PHAARKAA",
      "20AHAD;20PUNCTUATION MUCAAD;31DOUBLE;00CYRILLIC SMALL LETTER ROUNDED VE;30LONG-LEGGED DE",
      "30NARROW O;30WIDE ES;30TALL TE;31THREE-LEGGED;30TALL HARD SIGN;40YAT;30UNBLENDED UK"]⟩,
    ⟨0x1c90, [
      "00GEORGIAN MTAVRULI CAPITAL LETTER AN;40BAN;40GAN;40DON;40EN;40VIN;40ZEN;40TAN;40IN;40KAN",
      "40LAS;40MAN;40NAR;40ON;40PAR;40ZHAR;40RAE;40SAN;40TAR;40UN;40PHAR;40KHAR;40GHAN;40QAR",
      "40SHIN;40CHIN;40CAN;40JIL;40CIL;40CHAR;40XAN;40JHAN;40HAE;40HE;40HIE;40WE;40HAR;40HOE",
      "40FI;40YN;40ELIFI;40TURNED GAN;40AIN"]⟩,
    ⟨0x1cbd, [
      "00GEORGIAN MTAVRULI CAPITAL LETTER AEN;40HARD SIGN;41LABIAL",
      "00SUNDANESE PUNCTUATION BINDU SURYA;30PANGLONG;30PURNAMA;30CAKRA;30LEU SATANGA;31KA;31DA",
      "31BA"]⟩,
    ⟨0x1cd0, [
      "00VEDIC TONE KARSHANA;20SHARA;20PRENKHA;10SIGN NIHSHVASA;20YAJURVEDIC MIDLINE SVARITA",
      "11TONE YAJURVEDIC AGGRAVATED INDEPENDENT;32;32KATHAKA;20CANDRA BELOW",
      "20YAJURVEDIC KATHAKA INDEPENDENT SVARITA SCHROEDER;20DOUBLE SVARITA;21TRIPLE",
      "20KATHAKA ANUDATTA;20DOT BELOW;21TWO DOTS;22THREE;20RIGVEDIC KASHMIRI INDEPENDENT SVARITA",
      "22ATHARVAVEDIC;11SIGN VISARGA;30UDATTA;22REVERSED;20VISARGA ANUDATTA;22REVERSED",
      "20VISARGA UDATTA WITH TAIL;32ANUDATTA;20ANUSVARA ANTARGOMUKHA;30BAHIRGOMUKHA",
      "30VAMAGOMUKHA;40WITH TAIL;20TIRYAK;20HEXIFORM LONG ANUSVARA;22;22RTHANG",
      "20ANUSVARA UBHAYATO MUKHA;20ARDHAVISARGA;21ROTATED;10TONE CANDRA ABOVE;10SIGN JIHVAMULIYA",
      "20UPADHMANIYA;20ATIKRAMA;10TONE RING ABOVE;22DOUBLE;10SIGN DOUBLE ANUSVARA ANTARGOMUKHA"]⟩,
    ⟨0x1d00, [
      "00LATIN LETTER SMALL CAPITAL A;40AE;11SMALL LETTER TURNED;10LETTER SMALL CAPITAL BARRED B",
      "40C;40D;40ETH;40E;11SMALL LETTER TURNED OPEN;40I;10LETTER SMALL CAPITAL J;40K",
      "40L WITH STROKE;40M;40REVERSED N;40O;41OPEN;11SMALL LETTER SIDEWAYS;41OPEN",
      "40O WITH STROKE;30TURNED OE;10LETTER SMALL CAPITAL OU;10SMALL LETTER TOP HALF O;32BOTTOM",
      "10LETTER SMALL CAPITAL P;40REVERSED R;41TURNED;40T;40U;11SMALL LETTER SIDEWAYS",
      "41DIAERESIZED;40TURNED M;10LETTER SMALL CAPITAL V;40W;40Z;40EZH",
      "20VOICED LARYNGEAL SPIRANT;20AIN;00GREEK LETTER SMALL CAPITAL GAMMA;40LAMDA;40PI;40RHO",
      "40PSI;00CYRILLIC LETTER SMALL CAPITAL EL;00MODIFIER LETTER CAPITAL A;30AE;30B;31BARRED",
      "30D;30E;31REVERSED;30G;30H;30I;30J;30K;30L;30M;30N;31REVERSED;30O;30OU;30P;30R;30T;30U",
      "30W;20SMALL A;31TURNED;30ALPHA;30TURNED AE;30B;30D;30E;30SCHWA;30OPEN E;32TURNED;30G",
      "30TURNED I;30K;30M;30ENG;30O;31OPEN;31TOP HALF;32BOTTOM;30P;30T;30U;31SIDEWAYS;30TURNED M",
      "30V;30AIN;30BETA;30GREEK GAMMA;30DELTA;30GREEK PHI;30CHI;00LATIN SUBSCRIPT SMALL LETTER I",
      "40R;40U;40V;00GREEK SUBSCRIPT SMALL LETTER BETA;40GAMMA;40RHO;40PHI;40CHI",
      "00LATIN SMALL LETTER UE;30B WITH MIDDLE TILDE;33D;33F;33M;33N;33P;33R;52FISHHOOK AND",
      "32S WITH;33T;33Z;30TURNED G;00MODIFIER LETTER CYRILLIC EN;00LATIN SMALL LETTER INSULAR G",
      "30TH WITH STRIKETHROUGH;20CAPITAL LETTER I WITH STROKE;22LETTER IOTA;32P",
      "22CAPITAL LETTER U;22LETTER UPSILON;30B WITH PALATAL HOOK;33D;33F;33G;33K;33L;33M;33N;33P",
      "33R;33S;33ESH;33V;33X;33Z;31A WITH RETROFLEX;33ALPHA;30D WITH HOOK AND TAIL",
      "30E WITH RETROFLEX HOOK;34OPEN;35REVERSED;33SCHWA;33I;33OPEN O;33ESH;33U;33EZH",
      "00MODIFIER LETTER SMALL TURNED ALPHA;30C;40WITH CURL;30ETH;30REVERSED OPEN E;30F",
      "30DOTLESS J WITH STROKE;30SCRIPT G;30TURNED H;30I WITH STROKE;30IOTA;30CAPITAL I",
      "50WITH STROKE;30J WITH CROSSED-TAIL;30L WITH RETROFLEX HOOK;51PALATAL;30CAPITAL L",
      "30M WITH HOOK;30TURNED M WITH LONG LEG;30N WITH LEFT HOOK;51RETROFLEX;30CAPITAL N",
      "30BARRED O;30PHI;30S WITH HOOK;30ESH;30T WITH PALATAL HOOK;30U BAR;30UPSILON;30CAPITAL U",
      "30V WITH HOOK;30TURNED V;30Z;40WITH RETROFLEX HOOK;50CURL;30EZH;30THETA",
      "00COMBINING DOTTED GRAVE ACCENT;21ACUTE;10SNAKE BELOW;10SUSPENSION MARK;10MACRON-ACUTE",
      "10GRAVE-MACRON;10MACRON-GRAVE;10ACUTE-MACRON;10GRAVE-ACUTE-GRAVE;10ACUTE-GRAVE-ACUTE",
      "10LATIN SMALL LETTER R BELOW;10BREVE-MACRON;10MACRON-BREVE;10DOUBLE CIRCUMFLEX ABOVE",
      "11OGONEK;10ZIGZAG BELOW;11IS;10UR ABOVE;11US;11LATIN SMALL LETTER FLATTENED OPEN A;40AE",
      "40AO;40AV;40C CEDILLA;40INSULAR D;40ETH;40G;21LETTER SMALL CAPITAL;20SMALL LETTER K;40L",
      "21LETTER SMALL CAPITAL;50M;20SMALL LETTER N;21LETTER SMALL CAPITAL;50R",
      "20SMALL LETTER R ROTUNDA;40S;41LONG;40Z;40ALPHA;40B;40BETA;40SCHWA;40F",
      "40L WITH DOUBLE MIDDLE TILDE;40O WITH LIGHT CENTRALIZATION STROKE;40P;40ESH",
      "40U WITH LIGHT CENTRALIZATION STROKE;40W;40A WITH DIAERESIS;42O;42U;10UP TACK ABOVE",
      "10KAVYKA ABOVE RIGHT;30LEFT;12DOT;10WIDE INVERTED BRIDGE BELOW;10DOT BELOW LEFT",
      "10DELETION MARK;10DOUBLE INVERTED BREVE BELOW;11ALMOST EQUAL TO;10LEFT ARROWHEAD ABOVE",
      "10RIGHT ARROWHEAD AND DOWN ARROWHEAD BELOW;01LATIN CAPITAL LETTER A WITH RING;15SMALL",
      "10CAPITAL LETTER B WITH DOT ABOVE;15SMALL;10CAPITAL LETTER B WITH DOT BELOW;15SMALL",
      "11CAPITAL LETTER B WITH LINE;15SMALL;10CAPITAL LETTER C WITH CEDILLA AND ACUTE;16SMALL",
      "10CAPITAL LETTER D WITH DOT ABOVE;15SMALL;10CAPITAL LETTER D WITH DOT BELOW;15SMALL",
      "11CAPITAL LETTER D WITH LINE;15SMALL;10CAPITAL LETTER D WITH CEDILLA;14SMALL",
      "10CAPITAL LETTER D WITH CIRCUMFLEX BELOW;15SMALL;10CAPITAL LETTER E WITH MACRON AND GRAVE",
      "16SMALL;10CAPITAL LETTER E WITH MACRON AND ACUTE;16SMALL",
      "10CAPITAL LETTER E WITH CIRCUMFLEX BELOW;15SMALL;11CAPITAL LETTER E WITH TILDE;15SMALL",
      "10CAPITAL LETTER E WITH CEDILLA AND BREVE;16SMALL;10CAPITAL LETTER F WITH DOT ABOVE",
      "15SMALL;10CAPITAL LETTER G WITH MACRON;14SMALL;10CAPITAL LETTER H WITH DOT ABOVE;15SMALL",
      "10CAPITAL LETTER H WITH DOT BELOW;15SMALL;10CAPITAL LETTER H WITH DIAERESIS;14SMALL",
      "10CAPITAL LETTER H WITH CEDILLA;14SMALL;10CAPITAL LETTER H WITH BREVE BELOW;15SMALL",
      "11CAPITAL LETTER I WITH TILDE;15SMALL;10CAPITAL LETTER I WITH DIAERESIS AND ACUTE;16SMALL",
      "11CAPITAL LETTER K WITH;14SMALL;10CAPITAL LETTER K WITH DOT BELOW;15SMALL",
      "11CAPITAL LETTER K WITH LINE;15SMALL;11CAPITAL LETTER L WITH DOT;15SMALL",
      "10CAPITAL LETTER L WITH DOT BELOW AND MACRON;17SMALL;10CAPITAL LETTER L WITH LINE BELOW",
      "15SMALL;11CAPITAL LETTER L WITH CIRCUMFLEX;15SMALL;10CAPITAL LETTER M WITH ACUTE;14SMALL",
      "10CAPITAL LETTER M WITH DOT ABOVE;15SMALL;10CAPITAL LETTER M WITH DOT BELOW;15SMALL",
      "10CAPITAL LETTER N WITH DOT ABOVE;15SMALL;10CAPITAL LETTER N WITH DOT BELOW;15SMALL",
      "11CAPITAL LETTER N WITH LINE;15SMALL;11CAPITAL LETTER N WITH CIRCUMFLEX;15SMALL",
      "10CAPITAL LETTER O WITH TILDE AND ACUTE;16SMALL",
      "10CAPITAL LETTER O WITH TILDE AND DIAERESIS;16SMALL",
      "10CAPITAL LETTER O WITH MACRON AND GRAVE;16SMALL;10CAPITAL LETTER O WITH MACRON AND ACUTE",
      "16SMALL;11CAPITAL LETTER P WITH;14SMALL;10CAPITAL LETTER P WITH DOT ABOVE;15SMALL",
      "13CAPITAL LETTER R;15SMALL;10CAPITAL LETTER R WITH DOT BELOW;15SMALL",
      "10CAPITAL LETTER R WITH DOT BELOW AND MACRON;17SMALL;10CAPITAL LETTER R WITH LINE BELOW",
      "15SMALL;10CAPITAL LETTER S WITH DOT ABOVE;15SMALL;10CAPITAL LETTER S WITH DOT BELOW",
      "15SMALL;10CAPITAL LETTER S WITH ACUTE AND DOT ABOVE;17SMALL;13CAPITAL LETTER S WITH CARON",
      "17SMALL;13CAPITAL LETTER S WITH DOT BELOW;18SMALL;12CAPITAL LETTER T WITH;15SMALL",
      "10CAPITAL LETTER T WITH DOT BELOW;15SMALL;11CAPITAL LETTER T WITH LINE;15SMALL",
      "11CAPITAL LETTER T WITH CIRCUMFLEX;15SMALL;11CAPITAL LETTER U WITH DIAERESIS;15SMALL",
      "11CAPITAL LETTER U WITH TILDE;15SMALL;11CAPITAL LETTER U WITH CIRCUMFLEX;15SMALL",
      "10CAPITAL LETTER U WITH TILDE AND ACUTE;16SMALL",
      "10CAPITAL LETTER U WITH MACRON AND DIAERESIS;16SMALL;10CAPITAL LETTER V WITH TILDE",
      "14SMALL;10CAPITAL LETTER V WITH DOT BELOW;15SMALL;10CAPITAL LETTER W WITH GRAVE;14SMALL",
      "10CAPITAL LETTER W WITH ACUTE;14SMALL;10CAPITAL LETTER W WITH DIAERESIS;14SMALL",
      "10CAPITAL LETTER W WITH DOT ABOVE;15SMALL;10CAPITAL LETTER W WITH DOT BELOW;15SMALL",
      "10CAPITAL LETTER X WITH DOT ABOVE;15SMALL;10CAPITAL LETTER X WITH DIAERESIS;14SMALL",
      "10CAPITAL LETTER Y WITH DOT ABOVE;15SMALL;10CAPITAL LETTER Z WITH CIRCUMFLEX;14SMALL",
      "10CAPITAL LETTER Z WITH DOT BELOW;15SMALL;11CAPITAL LETTER Z WITH LINE;15SMALL;33H",
      "30T WITH DIAERESIS;30W WITH RING ABOVE;33Y;30A WITH RIGHT HALF RING",
      "30LONG S WITH DOT ABOVE;60DIAGONAL STROKE;61HIGH;10CAPITAL LETTER SHARP S",
      "10SMALL LETTER DELTA;10CAPITAL LETTER A WITH DOT BELOW;15SMALL",
      "10CAPITAL LETTER A WITH HOOK ABOVE;15SMALL;10CAPITAL LETTER A WITH CIRCUMFLEX AND ACUTE",
      "16SMALL;10CAPITAL LETTER A WITH CIRCUMFLEX AND GRAVE;16SMALL",
      "10CAPITAL LETTER A WITH CIRCUMFLEX AND HOOK ABOVE;17SMALL",
      "10CAPITAL LETTER A WITH CIRCUMFLEX AND TILDE;16SMALL",
      "10CAPITAL LETTER A WITH CIRCUMFLEX AND DOT BELOW;17SMALL",
      "10CAPITAL LETTER A WITH BREVE AND ACUTE;16SMALL;10CAPITAL LETTER A WITH BREVE AND GRAVE",
      "16SMALL;10CAPITAL LETTER A WITH BREVE AND HOOK ABOVE;17SMALL",
      "10CAPITAL LETTER A WITH BREVE AND TILDE;16SMALL",
      "10CAPITAL LETTER A WITH BREVE AND DOT BELOW;17SMALL;12CAPITAL LETTER E WITH;15SMALL",
      "10CAPITAL LETTER E WITH HOOK ABOVE;15SMALL;10CAPITAL LETTER E WITH TILDE;14SMALL",
      "10CAPITAL LETTER E WITH CIRCUMFLEX AND ACUTE;16SMALL",
      "10CAPITAL LETTER E WITH CIRCUMFLEX AND GRAVE;16SMALL",
      "10CAPITAL LETTER E WITH CIRCUMFLEX AND HOOK ABOVE;17SMALL",
      "10CAPITAL LETTER E WITH CIRCUMFLEX AND TILDE;16SMALL",
      "10CAPITAL LETTER E WITH CIRCUMFLEX AND DOT BELOW;17SMALL",
      "10CAPITAL LETTER I WITH HOOK ABOVE;15SMALL;10CAPITAL LETTER I WITH DOT BELOW;15SMALL",
      "13CAPITAL LETTER O;15SMALL;10CAPITAL LETTER O WITH HOOK ABOVE;15SMALL",
      "10CAPITAL LETTER O WITH CIRCUMFLEX AND ACUTE;16SMALL",
      "10CAPITAL LETTER O WITH CIRCUMFLEX AND GRAVE;16SMALL",
      "10CAPITAL LETTER O WITH CIRCUMFLEX AND HOOK ABOVE;17SMALL",
      "10CAPITAL LETTER O WITH CIRCUMFLEX AND TILDE;16SMALL",
      "10CAPITAL LETTER O WITH CIRCUMFLEX AND DOT BELOW;17SMALL",
      "10CAPITAL LETTER O WITH HORN AND ACUTE;16SMALL;10CAPITAL LETTER O WITH HORN AND GRAVE",
      "16SMALL;10CAPITAL LETTER O WITH HORN AND HOOK ABOVE;17SMALL",
      "10CAPITAL LETTER O WITH HORN AND TILDE;16SMALL;10CAPITAL LETTER O WITH HORN AND DOT BELOW",
      "17SMALL;12CAPITAL LETTER U WITH;15SMALL;10CAPITAL LETTER U WITH HOOK ABOVE;15SMALL",
      "10CAPITAL LETTER U WITH HORN AND ACUTE;16SMALL;10CAPITAL LETTER U WITH HORN AND GRAVE",
      "16SMALL;10CAPITAL LETTER U WITH HORN AND HOOK ABOVE;17SMALL",
      "10CAPITAL LETTER U WITH HORN AND TILDE;16SMALL;10CAPITAL LETTER U WITH HORN AND DOT BELOW",
      "17SMALL;10CAPITAL LETTER Y WITH GRAVE;14SMALL;10CAPITAL LETTER Y WITH DOT BELOW;15SMALL",
      "10CAPITAL LETTER Y WITH HOOK ABOVE;15SMALL;10CAPITAL LETTER Y WITH TILDE;14SMALL",
      "10CAPITAL LETTER MIDDLE-WELSH LL;13SMALL;10CAPITAL LETTER MIDDLE-WELSH V;13SMALL",
      "10CAPITAL LETTER Y WITH LOOP;14SMALL;00GREEK SMALL LETTER ALPHA WITH PSILI;50DASIA",
      "50PSILI AND VARIA;52DASIA;50PSILI AND OXIA;52DASIA;50PSILI AND PERISPOMENI;52DASIA",
      "10CAPITAL LETTER ALPHA WITH PSILI;50DASIA;50PSILI AND VARIA;52DASIA;50PSILI AND OXIA",
      "52DASIA;50PSILI AND PERISPOMENI;52DASIA;10SMALL LETTER EPSILON WITH PSILI;50DASIA",
      "50PSILI AND VARIA;52DASIA;50PSILI AND OXIA;52DASIA"]⟩,
    ⟨0x1f18, [
      "00GREEK CAPITAL LETTER EPSILON WITH PSILI;50DASIA;50PSILI AND VARIA;52DASIA",
      "50PSILI AND OXIA;52DASIA"]⟩,
    ⟨0x1f20, [
      "00GREEK SMALL LETTER ETA WITH PSILI;50DASIA;50PSILI AND VARIA;52DASIA;50PSILI AND OXIA",
      "52DASIA;50PSILI AND PERISPOMENI;52DASIA;10CAPITAL LETTER ETA WITH PSILI;50DASIA",
      "50PSILI AND VARIA;52DASIA;50PSILI AND OXIA;52DASIA;50PSILI AND PERISPOMENI;52DASIA",
      "10SMALL LETTER IOTA WITH PSILI;50DASIA;50PSILI AND VARIA;52DASIA;50PSILI AND OXIA;52DASIA",
      "50PSILI AND PERISPOMENI;52DASIA;10CAPITAL LETTER IOTA WITH PSILI;50DASIA",
      "50PSILI AND VARIA;52DASIA;50PSILI AND OXIA;52DASIA;50PSILI AND PERISPOMENI;52DASIA",
      "10SMALL LETTER OMICRON WITH PSILI;50DASIA;50PSILI AND VARIA;52DASIA;50PSILI AND OXIA",
      "52DASIA"]⟩,
    ⟨0x1f48, [
      "00GREEK CAPITAL LETTER OMICRON WITH PSILI;50DASIA;50PSILI AND VARIA;52DASIA",
      "50PSILI AND OXIA;52DASIA"]⟩,
    ⟨0x1f50, [
      "00GREEK SMALL LETTER UPSILON WITH PSILI;50DASIA;50PSILI AND VARIA;52DASIA",
      "50PSILI AND OXIA;52DASIA;50PSILI AND PERISPOMENI;52DASIA"]⟩,
    ⟨0x1f59, ["00GREEK CAPITAL LETTER UPSILON WITH DASIA"]⟩,
    ⟨0x1f5b, ["00GREEK CAPITAL LETTER UPSILON WITH DASIA AND VARIA"]⟩,
    ⟨0x1f5d, ["00GREEK CAPITAL LETTER UPSILON WITH DASIA AND OXIA"]⟩,
    ⟨0x1f5f, [
      "00GREEK CAPITAL LETTER UPSILON WITH DASIA AND PERISPOMENI;10SMALL LETTER OMEGA WITH PSILI",
      "50DASIA;50PSILI AND VARIA;52DASIA;50PSILI AND OXIA;52DASIA;50PSILI AND PERISPOMENI",
      "52DASIA;10CAPITAL LETTER OMEGA WITH PSILI;50DASIA;50PSILI AND VARIA;52DASIA",
      "50PSILI AND OXIA;52DASIA;50PSILI AND PERISPOMENI;52DASIA;10SMALL LETTER ALPHA WITH VARIA",
      "50OXIA;30EPSILON WITH VARIA;50OXIA;30ETA WITH VARIA;50OXIA;30IOTA WITH VARIA;50OXIA",
      "30OMICRON WITH VARIA;50OXIA;30UPSILON WITH VARIA;50OXIA;30OMEGA WITH VARIA;50OXIA"]⟩,
    ⟨0x1f80, [
      "00GREEK SMALL LETTER ALPHA WITH PSILI AND YPOGEGRAMMENI;52DASIA;52PSILI AND VARIA;54DASIA",
      "52PSILI AND OXIA;54DASIA;52PSILI AND PERISPOMENI;54DASIA",
      "10CAPITAL LETTER ALPHA WITH PSILI AND PROSGEGRAMMENI;52DASIA;52PSILI AND VARIA;54DASIA",
      "52PSILI AND OXIA;54DASIA;52PSILI AND PERISPOMENI;54DASIA",
      "10SMALL LETTER ETA WITH PSILI AND YPOGEGRAMMENI;52DASIA;52PSILI AND VARIA;54DASIA",
      "52PSILI AND OXIA;54DASIA;52PSILI AND PERISPOMENI;54DASIA",
      "10CAPITAL LETTER ETA WITH PSILI AND PROSGEGRAMMENI;52DASIA;52PSILI AND VARIA;54DASIA",
      "52PSILI AND OXIA;54DASIA;52PSILI AND PERISPOMENI;54DASIA",
      "10SMALL LETTER OMEGA WITH PSILI AND YPOGEGRAMMENI;52DASIA;52PSILI AND VARIA;54DASIA",
      "52PSILI AND OXIA;54DASIA;52PSILI AND PERISPOMENI;54DASIA",
      "10CAPITAL LETTER OMEGA WITH PSILI AND PROSGEGRAMMENI;52DASIA;52PSILI AND VARIA;54DASIA",
      "52PSILI AND OXIA;54DASIA;52PSILI AND PERISPOMENI;54DASIA;10SMALL LETTER ALPHA WITH VRACHY",
      "50MACRON;50VARIA AND YPOGEGRAMMENI;51;51OXIA AND"]⟩,
    ⟨0x1fb6, [
      "00GREEK SMALL LETTER ALPHA WITH PERISPOMENI;60AND YPOGEGRAMMENI",
      "10CAPITAL LETTER ALPHA WITH VRACHY;50MACRON;50VARIA;50OXIA;50PROSGEGRAMMENI;10KORONIS",
      "10PROSGEGRAMMENI;10PSILI;10PERISPOMENI;11DIALYTIKA AND",
      "10SMALL LETTER ETA WITH VARIA AND YPOGEGRAMMENI;51;51OXIA AND"]⟩,
    ⟨0x1fc6, [
      "00GREEK SMALL LETTER ETA WITH PERISPOMENI;60AND YPOGEGRAMMENI",
      "10CAPITAL LETTER EPSILON WITH VARIA;50OXIA;30ETA WITH VARIA;50OXIA;50PROSGEGRAMMENI",
      "10PSILI AND VARIA;30OXIA;30PERISPOMENI;10SMALL LETTER IOTA WITH VRACHY;50MACRON",
      "50DIALYTIKA AND VARIA;70OXIA"]⟩,
    ⟨0x1fd6, [
      "00GREEK SMALL LETTER IOTA WITH PERISPOMENI;51DIALYTIKA AND",
      "10CAPITAL LETTER IOTA WITH VRACHY;50MACRON;50VARIA;50OXIA"]⟩,
    ⟨0x1fdd, [
      "00GREEK DASIA AND VARIA;30OXIA;30PERISPOMENI;10SMALL LETTER UPSILON WITH VRACHY;50MACRON",
      "50DIALYTIKA AND VARIA;70OXIA;30RHO WITH PSILI;50DASIA;30UPSILON WITH PERISPOMENI",
      "51DIALYTIKA AND;10CAPITAL LETTER UPSILON WITH VRACHY;50MACRON;50VARIA;50OXIA",
      "30RHO WITH DASIA;10DIALYTIKA AND VARIA;30OXIA;10VARIA"]⟩,
    ⟨0x1ff2, ["00GREEK SMALL LETTER OMEGA WITH VARIA AND YPOGEGRAMMENI;51;51OXIA AND"]⟩,
    ⟨0x1ff6, [
      "00GREEK SMALL LETTER OMEGA WITH PERISPOMENI;60AND YPOGEGRAMMENI",
      "10CAPITAL LETTER OMICRON WITH VARIA;50OXIA;30OMEGA WITH VARIA;50OXIA;50PROSGEGRAMMENI",
      "10OXIA;10DASIA"]⟩,
    ⟨0x2000, [
      "00EN QUAD;01EM;00EN SPACE;01EM;01THREE-PER-EM;01FOUR-PER-EM;01SIX-PER-EM;01FIGURE",
      "01PUNCTUATION;01THIN;01HAIR;01ZERO WIDTH;20NON-JOINER;20JOINER;00LEFT-TO-RIGHT MARK",
      "01RIGHT-TO-LEFT;00HYPHEN;01NON-BREAKING;00FIGURE DASH;01EN;01EM;00HORIZONTAL BAR",
      "00DOUBLE VERTICAL LINE;11LOW;00LEFT SINGLE QUOTATION MARK;03RIGHT;02SINGLE LOW-9",
      "12HIGH-REVERSED-9;02LEFT DOUBLE;03RIGHT;02DOUBLE LOW-9;12HIGH-REVERSED-9;00DAGGER",
      "01DOUBLE;00BULLET;01TRIANGULAR;00ONE DOT LEADER;02TWO;00HORIZONTAL ELLIPSIS",
      "00HYPHENATION POINT;00LINE SEPARATOR;01PARAGRAPH;00LEFT-TO-RIGHT EMBEDDING",
      "01RIGHT-TO-LEFT;00POP DIRECTIONAL FORMATTING;00LEFT-TO-RIGHT OVERRIDE;01RIGHT-TO-LEFT",
      "00NARROW NO-BREAK SPACE;00PER MILLE SIGN;11TEN THOUSAND;00PRIME;01DOUBLE;01TRIPLE",
      "01REVERSED;11DOUBLE;11TRIPLE;00CARET;00SINGLE LEFT-POINTING ANGLE QUOTATION MARK",
      "13RIGHT-POINTING;01REFERENCE;01DOUBLE EXCLAMATION;00INTERROBANG;00OVERLINE;00UNDERTIE",
      "00CHARACTER TIE;00CARET INSERTION POINT;00ASTERISM;00HYPHEN BULLET;00FRACTION SLASH",
      "00LEFT SQUARE BRACKET WITH QUILL;04RIGHT;00DOUBLE QUESTION MARK;01QUESTION EXCLAMATION",
      "01EXCLAMATION QUESTION;00TIRONIAN SIGN ET;00REVERSED PILCROW SIGN",
      "00BLACK LEFTWARDS BULLET;11RIGHTWARDS;00LOW ASTERISK;00REVERSED SEMICOLON;00CLOSE UP",
      "00TWO ASTERISKS ALIGNED VERTICALLY;00COMMERCIAL MINUS SIGN;00SWUNG DASH",
      "00INVERTED UNDERTIE;00FLOWER PUNCTUATION MARK;00THREE DOT PUNCTUATION;00QUADRUPLE PRIME",
      "00FOUR DOT PUNCTUATION;02FIVE;02TWO;00FOUR DOT MARK;00DOTTED CROSS;00TRICOLON",
      "00VERTICAL FOUR DOTS;00MEDIUM MATHEMATICAL SPACE;00WORD JOINER;00FUNCTION APPLICATION",
      "00INVISIBLE TIMES;10SEPARATOR;10PLUS"]⟩,
    ⟨0x2066, [
      "00LEFT-TO-RIGHT ISOLATE;01RIGHT-TO-LEFT;01FIRST STRONG;01POP DIRECTIONAL",
      "00INHIBIT SYMMETRIC SWAPPING;02ACTIVATE;00INHIBIT ARABIC FORM SHAPING;03ACTIVATE",
      "00NATIONAL DIGIT SHAPES;02NOMINAL;00SUPERSCRIPT ZERO;10LATIN SMALL LETTER I"]⟩,
    ⟨0x2074, [
      "00SUPERSCRIPT FOUR;10FIVE;10SIX;10SEVEN;10EIGHT;10NINE;10PLUS SIGN;10MINUS;10EQUALS SIGN",
      "10LEFT PARENTHESIS;11RIGHT;10LATIN SMALL LETTER N;00SUBSCRIPT ZERO;10ONE;10TWO;10THREE",
      "10FOUR;10FIVE;10SIX;10SEVEN;10EIGHT;10NINE;10PLUS SIGN;10MINUS;10EQUALS SIGN",
      "10LEFT PARENTHESIS;11RIGHT"]⟩,
    ⟨0x2090, [
      "00LATIN SUBSCRIPT SMALL LETTER A;40E;40O;40X;40SCHWA;40H;40K;40L;40M;40N;40P;40S;40T"]⟩,
    ⟨0x20a0, [
      "00EURO-CURRENCY SIGN;01COLON;01CRUZEIRO;01FRENCH FRANC;01LIRA;01MILL;01NAIRA;01PESETA",
      "01RUPEE;01WON;01NEW SHEQEL;01DONG;01EURO;01KIP;01TUGRIK;01DRACHMA;01GERMAN PENNY;01PESO",
      "01GUARANI;01AUSTRAL;01HRYVNIA;01CEDI;01LIVRE TOURNOIS;01SPESMILO;01TENGE;01INDIAN RUPEE",
      "01TURKISH LIRA;01NORDIC MARK;01MANAT;01RUBLE;01LARI;01BITCOIN;01SOM"]⟩,
    ⟨0x20d0, [
      "00COMBINING LEFT HARPOON ABOVE;12RIGHT;10LONG VERTICAL LINE OVERLAY;13SHORT",
      "10ANTICLOCKWISE ARROW ABOVE;12CLOCKWISE;12LEFT;12RIGHT;10RING OVERLAY;12CLOCKWISE",
      "12ANTICLOCKWISE;10THREE DOTS ABOVE;12FOUR;10ENCLOSING CIRCLE;20SQUARE;20DIAMOND",
      "20CIRCLE BACKSLASH;10LEFT RIGHT ARROW ABOVE;10ENCLOSING SCREEN;20KEYCAP",
      "20UPWARD POINTING TRIANGLE;10REVERSE SOLIDUS OVERLAY;11DOUBLE VERTICAL STROKE",
      "10ANNUITY SYMBOL;10TRIPLE UNDERDOT;10WIDE BRIDGE ABOVE;10LEFTWARDS ARROW OVERLAY",
      "11LONG DOUBLE SOLIDUS;10RIGHTWARDS HARPOON WITH BARB DOWNWARDS;14LEFTWARDS",
      "10LEFT ARROW BELOW;12RIGHT;10ASTERISK ABOVE"]⟩,
    ⟨0x2100, [
      "00ACCOUNT OF;00ADDRESSED TO THE SUBJECT;00DOUBLE-STRUCK CAPITAL C;00DEGREE CELSIUS",
      "00CENTRE LINE SYMBOL;00CARE OF;00CADA UNA;00EULER CONSTANT;00SCRUPLE;00DEGREE FAHRENHEIT",
      "00SCRIPT SMALL G;10CAPITAL H;02BLACK-LETTER;02DOUBLE-STRUCK;00PLANCK CONSTANT",
      "20OVER TWO PI;00SCRIPT CAPITAL I;02BLACK-LETTER;00SCRIPT CAPITAL L;11SMALL",
      "00L B BAR SYMBOL;00DOUBLE-STRUCK CAPITAL N;00NUMERO SIGN;00SOUND RECORDING COPYRIGHT",
      "00SCRIPT CAPITAL P;02DOUBLE-STRUCK;20Q;00SCRIPT CAPITAL R;02BLACK-LETTER;02DOUBLE-STRUCK",
      "00PRESCRIPTION TAKE;00RESPONSE;00SERVICE MARK;00TELEPHONE SIGN;01TRADE MARK;00VERSICLE",
      "00DOUBLE-STRUCK CAPITAL Z;00OUNCE SIGN;01OHM;02INVERTED;00BLACK-LETTER CAPITAL Z",
      "00TURNED GREEK SMALL LETTER IOTA;00KELVIN SIGN;01ANGSTROM;00SCRIPT CAPITAL B",
      "00BLACK-LETTER CAPITAL C;00ESTIMATED SYMBOL;00SCRIPT SMALL E;11CAPITAL;20F;02TURNED",
      "00SCRIPT CAPITAL M;10SMALL O;00ALEF SYMBOL;01BET;01GIMEL;01DALET;00INFORMATION SOURCE",
      "00ROTATED CAPITAL Q;00FACSIMILE SIGN;00DOUBLE-STRUCK SMALL PI;20GAMMA;11CAPITAL;20PI",
      "10N-ARY SUMMATION;00TURNED SANS-SERIF CAPITAL G;30L;03REVERSED",
      "00TURNED SANS-SERIF CAPITAL Y;00DOUBLE-STRUCK ITALIC CAPITAL D;21SMALL;30E;30I;30J",
      "00PROPERTY LINE;00TURNED AMPERSAND;00PER SIGN;00AKTIESELSKAB;00TURNED SMALL F",
      "00SYMBOL FOR SAMARITAN SOURCE;00VULGAR FRACTION ONE SEVENTH;30NINTH;30TENTH;30THIRD",
      "20TWO THIRDS;20ONE FIFTH;20TWO FIFTHS;21THREE;21FOUR;20ONE SIXTH;20FIVE SIXTHS",
      "20ONE EIGHTH;20THREE EIGHTHS;21FIVE;21SEVEN;00FRACTION NUMERATOR ONE;01ROMAN NUMERAL",
      "20TWO;20THREE;20FOUR;20FIVE;20SIX;20SEVEN;20EIGHT;20NINE;20TEN;20ELEVEN;20TWELVE;20FIFTY",
      "20ONE HUNDRED;21FIVE;20ONE THOUSAND;00SMALL ROMAN NUMERAL ONE;30TWO;30THREE;30FOUR;30FIVE",
      "30SIX;30SEVEN;30EIGHT;30NINE;30TEN;30ELEVEN;30TWELVE;30FIFTY;30ONE HUNDRED;31FIVE",
      "30ONE THOUSAND;00ROMAN NUMERAL ONE THOUSAND C D;20FIVE THOUSAND;21TEN",
      "20REVERSED ONE HUNDRED;00LATIN SMALL LETTER REVERSED C;00ROMAN NUMERAL SIX LATE FORM",
      "21FIFTY EARLY;30THOUSAND;21ONE HUNDRED;00VULGAR FRACTION ZERO THIRDS;00TURNED DIGIT TWO",
      "20THREE"]⟩,
    ⟨0x2190, [
      "00LEFTWARDS ARROW;01UPWARDS;01RIGHTWARDS;01DOWNWARDS;01LEFT RIGHT;01UP DOWN;01NORTH WEST",
      "11EAST;02SOUTH;11WEST;00LEFTWARDS ARROW WITH STROKE;03RIGHTWARDS;00LEFTWARDS WAVE ARROW",
      "02RIGHTWARDS;01LEFTWARDS TWO HEADED;03UPWARDS;03RIGHTWARDS;03DOWNWARDS",
      "00LEFTWARDS ARROW WITH TAIL;03RIGHTWARDS;00LEFTWARDS ARROW FROM BAR;03UPWARDS",
      "03RIGHTWARDS;03DOWNWARDS;00UP DOWN ARROW WITH BASE;00LEFTWARDS ARROW WITH HOOK",
      "03RIGHTWARDS;00LEFTWARDS ARROW WITH LOOP;03RIGHTWARDS;00LEFT RIGHT WAVE ARROW",
      "20ARROW WITH STROKE;00DOWNWARDS ZIGZAG ARROW;00UPWARDS ARROW WITH TIP LEFTWARDS",
      "40RIGHTWARDS;00DOWNWARDS ARROW WITH TIP LEFTWARDS;40RIGHTWARDS",
      "00RIGHTWARDS ARROW WITH CORNER DOWNWARDS;00DOWNWARDS ARROW WITH CORNER LEFTWARDS",
      "00ANTICLOCKWISE TOP SEMICIRCLE ARROW;03CLOCKWISE;00NORTH WEST ARROW TO LONG BAR",
      "01LEFTWARDS ARROW TO BAR OVER RIGHTWARDS ARROW TO;00ANTICLOCKWISE OPEN CIRCLE ARROW",
      "03CLOCKWISE;00LEFTWARDS HARPOON WITH BARB UPWARDS;40DOWNWARDS",
      "00UPWARDS HARPOON WITH BARB RIGHTWARDS;40LEFTWARDS;00RIGHTWARDS HARPOON WITH BARB UPWARDS",
      "40DOWNWARDS;00DOWNWARDS HARPOON WITH BARB RIGHTWARDS;40LEFTWARDS",
      "00RIGHTWARDS ARROW OVER LEFTWARDS ARROW;01UPWARDS ARROW LEFTWARDS OF DOWNWARDS",
      "01LEFTWARDS ARROW OVER RIGHTWARDS;10PAIRED ARROWS;02UPWARDS;02RIGHTWARDS;02DOWNWARDS",
      "00LEFTWARDS HARPOON OVER RIGHTWARDS HARPOON;01RIGHTWARDS HARPOON OVER LEFTWARDS",
      "00LEFTWARDS DOUBLE ARROW WITH STROKE;04LEFT RIGHT;04RIGHTWARDS;00LEFTWARDS DOUBLE ARROW",
      "02UPWARDS;02RIGHTWARDS;02DOWNWARDS;02LEFT RIGHT;02UP DOWN;02NORTH WEST;12EAST;03SOUTH",
      "12WEST;01LEFTWARDS TRIPLE;02RIGHTWARDS;01LEFTWARDS SQUIGGLE;02RIGHTWARDS",
      "00UPWARDS ARROW WITH DOUBLE STROKE;04DOWNWARDS;00LEFTWARDS DASHED ARROW;02UPWARDS",
      "02RIGHTWARDS;02DOWNWARDS;00LEFTWARDS ARROW TO BAR;03RIGHTWARDS;00LEFTWARDS WHITE ARROW",
      "02UPWARDS;02RIGHTWARDS;02DOWNWARDS;00UPWARDS WHITE ARROW FROM BAR;30ON PEDESTAL",
      "50WITH HORIZONTAL BAR;61VERTICAL;20DOUBLE ARROW;40ON PEDESTAL",
      "00RIGHTWARDS WHITE ARROW FROM WALL;00NORTH WEST ARROW TO CORNER;03SOUTH EAST",
      "00UP DOWN WHITE ARROW;00RIGHT ARROW WITH SMALL CIRCLE",
      "00DOWNWARDS ARROW LEFTWARDS OF UPWARDS ARROW;00THREE RIGHTWARDS ARROWS",
      "00LEFTWARDS ARROW WITH VERTICAL STROKE;04RIGHTWARDS;04LEFT RIGHT",
      "02LEFTWARDS ARROW WITH DOUBLE;05RIGHTWARDS;05LEFT RIGHT;00LEFTWARDS OPEN-HEADED ARROW",
      "02RIGHTWARDS;02LEFT RIGHT;00FOR ALL;00COMPLEMENT;00PARTIAL DIFFERENTIAL;00THERE EXISTS",
      "10DOES NOT EXIST;00EMPTY SET;00INCREMENT;00NABLA;00ELEMENT OF;02NOT AN;02SMALL",
      "00CONTAINS AS MEMBER;02DOES NOT CONTAIN;02SMALL CONTAINS;00END OF PROOF;00N-ARY PRODUCT",
      "10COPRODUCT;10SUMMATION;00MINUS SIGN;01MINUS-OR-PLUS;00DOT PLUS;00DIVISION SLASH",
      "00SET MINUS;00ASTERISK OPERATOR;01RING;01BULLET;00SQUARE ROOT;01CUBE;01FOURTH",
      "00PROPORTIONAL TO;00INFINITY;00RIGHT ANGLE;01;01MEASURED;01SPHERICAL;00DIVIDES",
      "00DOES NOT DIVIDE;00PARALLEL TO;02NOT;00LOGICAL AND;10OR;00INTERSECTION;00UNION",
      "00INTEGRAL;01DOUBLE;01TRIPLE;01CONTOUR;01SURFACE;01VOLUME;01CLOCKWISE;11CONTOUR",
      "02ANTICLOCKWISE;00THEREFORE;00BECAUSE;00RATIO;00PROPORTION;00DOT MINUS;00EXCESS",
      "00GEOMETRIC PROPORTION;00HOMOTHETIC;00TILDE OPERATOR;00REVERSED TILDE;00INVERTED LAZY S",
      "00SINE WAVE;00WREATH PRODUCT;00NOT TILDE;01MINUS;00ASYMPTOTICALLY EQUAL TO;03NOT",
      "02APPROXIMATELY;12BUT NOT ACTUALLY;03NEITHER APPROXIMATELY NOR;02ALMOST;03NOT",
      "02ALMOST EQUAL OR;00TRIPLE TILDE;00ALL EQUAL TO;01EQUIVALENT;02GEOMETRICALLY",
      "00DIFFERENCE BETWEEN;00APPROACHES THE LIMIT;00GEOMETRICALLY EQUAL TO",
      "00APPROXIMATELY EQUAL TO OR THE IMAGE OF;00IMAGE OF OR APPROXIMATELY EQUAL TO",
      "00COLON EQUALS;00EQUALS COLON;00RING IN EQUAL TO;12;01CORRESPONDS;00ESTIMATES",
      "00EQUIANGULAR TO;00STAR EQUALS;00DELTA EQUAL TO;00EQUAL TO BY DEFINITION;00MEASURED BY",
      "00QUESTIONED EQUAL TO;02NOT;01IDENTICAL;02NOT;01STRICTLY EQUIVALENT;01LESS-THAN OR EQUAL",
      "03GREATER-THAN;02LESS-THAN OVER;03GREATER-THAN;02LESS-THAN BUT NOT;04GREATER-THAN",
      "00MUCH LESS-THAN;10GREATER-THAN;00BETWEEN;00NOT EQUIVALENT TO;10LESS-THAN;10GREATER-THAN",
      "00NEITHER LESS-THAN NOR EQUAL TO;13GREATER-THAN;01LESS-THAN OR EQUIVALENT;03GREATER-THAN",
      "02NEITHER LESS-THAN NOR;13GREATER-THAN;00LESS-THAN OR GREATER-THAN",
      "00GREATER-THAN OR LESS-THAN;00NEITHER LESS-THAN NOR GREATER-THAN",
      "10GREATER-THAN NOR LESS-THAN;00PRECEDES;00SUCCEEDS;00PRECEDES OR EQUAL TO;03SUCCEEDS",
      "01PRECEDES OR EQUIVALENT;03SUCCEEDS;00DOES NOT PRECEDE;20SUCCEED;00SUBSET OF;01SUPERSET",
      "01NOT A SUBSET;21SUPERSET;00SUBSET OF OR EQUAL TO;04SUPERSET;02NEITHER A SUBSET OF NOR",
      "24SUPERSET;02SUBSET OF WITH NOT;05SUPERSET;00MULTISET;10MULTIPLICATION;10UNION",
      "00SQUARE IMAGE OF;11ORIGINAL;10IMAGE OF OR EQUAL TO;14ORIGINAL;10CAP;10CUP;00CIRCLED PLUS",
      "10MINUS;10TIMES;10DIVISION SLASH;10DOT OPERATOR;11RING;11ASTERISK;10EQUALS;10DASH",
      "00SQUARED PLUS;10MINUS;10TIMES;10DOT OPERATOR;00RIGHT TACK;01LEFT;01DOWN;01UP;00ASSERTION",
      "00MODELS;00TRUE;00FORCES;00TRIPLE VERTICAL BAR RIGHT TURNSTILE",
      "02DOUBLE VERTICAL BAR DOUBLE;00DOES NOT PROVE;00NOT TRUE;00DOES NOT FORCE",
      "00NEGATED DOUBLE VERTICAL BAR DOUBLE RIGHT TURNSTILE;00PRECEDES UNDER RELATION;02SUCCEEDS",
      "00NORMAL SUBGROUP OF;00CONTAINS AS NORMAL SUBGROUP;00NORMAL SUBGROUP OF OR EQUAL TO",
      "03CONTAINS AS NORMAL SUBGROUP;00ORIGINAL OF;01IMAGE;00MULTIMAP",
      "00HERMITIAN CONJUGATE MATRIX;00INTERCALATE;00XOR;00NAND;00NOR;00RIGHT ANGLE WITH ARC",
      "10TRIANGLE;00N-ARY LOGICAL AND;20OR;10INTERSECTION;10UNION;00DIAMOND OPERATOR;01DOT",
      "01STAR;00DIVISION TIMES;00BOWTIE;00LEFT NORMAL FACTOR SEMIDIRECT PRODUCT;04RIGHT;02LEFT",
      "02RIGHT;00REVERSED TILDE EQUALS;00CURLY LOGICAL OR;20AND;00DOUBLE SUBSET;10SUPERSET",
      "10INTERSECTION;10UNION;00PITCHFORK;00EQUAL AND PARALLEL TO;00LESS-THAN WITH DOT",
      "02GREATER-THAN;00VERY MUCH LESS-THAN;20GREATER-THAN;01LESS-THAN EQUAL TO OR",
      "00GREATER-THAN EQUAL TO OR LESS-THAN;04;30GREATER-THAN;30PRECEDES;30SUCCEEDS",
      "00DOES NOT PRECEDE OR EQUAL;22SUCCEED;00NOT SQUARE IMAGE OF OR EQUAL TO;24ORIGINAL",
      "02SQUARE IMAGE OF OR NOT;15ORIGINAL;01LESS-THAN BUT NOT EQUIVALENT;04GREATER-THAN",
      "04PRECEDES;04SUCCEEDS;00NOT NORMAL SUBGROUP OF;00DOES NOT CONTAIN AS NORMAL SUBGROUP",
      "00NOT NORMAL SUBGROUP OF OR EQUAL TO;00DOES NOT CONTAIN AS NORMAL SUBGROUP OR EQUAL",
      "00VERTICAL ELLIPSIS;01MIDLINE HORIZONTAL;01UP RIGHT DIAGONAL;03DOWN",
      "00ELEMENT OF WITH LONG HORIZONTAL STROKE;32VERTICAL BAR AT END OF;09SMALL ELEMENT",
      "00ELEMENT OF WITH DOT ABOVE;30OVERBAR;04SMALL;00ELEMENT OF WITH UNDERBAR",
      "30TWO HORIZONTAL STROKES;00CONTAINS WITH LONG HORIZONTAL STROKE;22VERTICAL BAR AT END OF",
      "09SMALL;00CONTAINS WITH OVERBAR;03SMALL;00Z NOTATION BAG MEMBERSHIP;00DIAMETER SIGN",
      "00ELECTRIC ARROW;00HOUSE;00UP ARROWHEAD;01DOWN;00PROJECTIVE;00PERSPECTIVE;00WAVY LINE",
      "00LEFT CEILING;01RIGHT;00LEFT FLOOR;01RIGHT;00BOTTOM RIGHT CROP;11LEFT;01TOP RIGHT;11LEFT",
      "00REVERSED NOT SIGN;00SQUARE LOZENGE;00ARC;00SEGMENT;00SECTOR;00TELEPHONE RECORDER",
      "00POSITION INDICATOR;00VIEWDATA SQUARE;00PLACE OF INTEREST SIGN;01TURNED NOT;00WATCH",
      "00HOURGLASS;00TOP LEFT CORNER;11RIGHT;01BOTTOM LEFT;11RIGHT;00TOP HALF INTEGRAL;02BOTTOM",
      "00FROWN;00SMILE;00UP ARROWHEAD BETWEEN TWO HORIZONTAL BARS;00OPTION KEY",
      "00ERASE TO THE RIGHT;00X IN A RECTANGLE BOX;00KEYBOARD;00LEFT-POINTING ANGLE BRACKET",
      "02RIGHT-POINTING;00ERASE TO THE LEFT;00BENZENE RING;00CYLINDRICITY;00ALL AROUND-PROFILE",
      "00SYMMETRY;00TOTAL RUNOUT;00DIMENSION ORIGIN;00CONICAL TAPER;00SLOPE;00COUNTERBORE",
      "00COUNTERSINK;00APL FUNCTIONAL SYMBOL I-BEAM;30SQUISH QUAD;30QUAD EQUAL;40DIVIDE",
      "40DIAMOND;40JOT;40CIRCLE;30CIRCLE STILE;40JOT;30SLASH BAR;31BACKSLASH;30QUAD SLASH",
      "40BACKSLASH;40LESS-THAN;40GREATER-THAN;30LEFTWARDS VANE;31RIGHTWARDS",
      "30QUAD LEFTWARDS ARROW;41RIGHTWARDS;30CIRCLE BACKSLASH;30DOWN TACK UNDERBAR;30DELTA STILE",
      "30QUAD DOWN CARET;40DELTA;30DOWN TACK JOT;30UPWARDS VANE;30QUAD UPWARDS ARROW",
      "30UP TACK OVERBAR;30DEL STILE;30QUAD UP CARET;40DEL;30UP TACK JOT;30DOWNWARDS VANE",
      "30QUAD DOWNWARDS ARROW;30QUOTE UNDERBAR;31DELTA;31DIAMOND;31JOT;31CIRCLE;30UP SHOE JOT",
      "30QUOTE QUAD;30CIRCLE STAR;30QUAD COLON;30UP TACK DIAERESIS;31DEL;31STAR;31JOT;31CIRCLE",
      "30DOWN SHOE STILE;32LEFT;30TILDE DIAERESIS;31GREATER-THAN;30COMMA BAR;30DEL TILDE;30ZILDE",
      "30STILE TILDE;30SEMICOLON UNDERBAR;30QUAD NOT EQUAL;40QUESTION;30DOWN CARET TILDE;32UP",
      "30IOTA;30RHO;30OMEGA;30ALPHA UNDERBAR;31EPSILON;31IOTA;31OMEGA;30ALPHA;00NOT CHECK MARK",
      "00RIGHT ANGLE WITH DOWNWARDS ZIGZAG ARROW;00SHOULDERED OPEN BOX;00BELL SYMBOL",
      "00VERTICAL LINE WITH MIDDLE DOT;00INSERTION SYMBOL;01CONTINUOUS UNDERLINE;02DISCONTINUOUS",
      "01EMPHASIS;01COMPOSITION;00WHITE SQUARE WITH CENTRE VERTICAL LINE;00ENTER SYMBOL",
      "01ALTERNATIVE KEY;01HELM;00CIRCLED HORIZONTAL BAR WITH NOTCH;10TRIANGLE DOWN",
      "00BROKEN CIRCLE WITH NORTHWEST ARROW;00UNDO SYMBOL;01MONOSTABLE;01HYSTERESIS",
      "01OPEN-CIRCUIT-OUTPUT H-TYPE;11L-TYPE;01PASSIVE-PULL-DOWN-OUTPUT;01PASSIVE-PULL-UP-OUTPUT",
      "00DIRECT CURRENT SYMBOL FORM TWO;00SOFTWARE-FUNCTION SYMBOL;00APL FUNCTIONAL SYMBOL QUAD",
      "00DECIMAL SEPARATOR KEY SYMBOL;00PREVIOUS PAGE;01NEXT;00PRINT SCREEN SYMBOL;02CLEAR",
      "00LEFT PARENTHESIS UPPER HOOK;20EXTENSION;20LOWER HOOK;01RIGHT PARENTHESIS UPPER",
      "20EXTENSION;20LOWER HOOK;00LEFT SQUARE BRACKET UPPER CORNER;30EXTENSION;30LOWER CORNER",
      "01RIGHT SQUARE BRACKET UPPER;30EXTENSION;30LOWER CORNER;00LEFT CURLY BRACKET UPPER HOOK",
      "30MIDDLE PIECE;30LOWER HOOK;00CURLY BRACKET EXTENSION;00RIGHT CURLY BRACKET UPPER HOOK",
      "30MIDDLE PIECE;30LOWER HOOK;00INTEGRAL EXTENSION;01HORIZONTAL LINE",
      "00UPPER LEFT OR LOWER RIGHT CURLY BRACKET SECTION;13RIGHT OR LOWER LEFT;00SUMMATION TOP",
      "10BOTTOM;00TOP SQUARE BRACKET;02BOTTOM;30OVER TOP SQUARE BRACKET;00RADICAL SYMBOL BOTTOM",
      "00LEFT VERTICAL BOX LINE;03RIGHT;00HORIZONTAL SCAN LINE-1;20LINE-3;20LINE-7;20LINE-9",
      "00DENTISTRY SYMBOL LIGHT VERTICAL AND TOP RIGHT;51BOTTOM;40WITH CIRCLE",
      "32DOWN AND HORIZONTAL;34UP;30VERTICAL WITH TRIANGLE;32DOWN AND HORIZONTAL;34UP",
      "30VERTICAL AND WAVE;31DOWN AND HORIZONTAL WITH;34UP;30DOWN AND HORIZONTAL;32UP",
      "30VERTICAL AND TOP LEFT;51BOTTOM;00SQUARE FOOT;00RETURN SYMBOL;01EJECT",
      "00VERTICAL LINE EXTENSION;00METRICAL BREVE;10LONG OVER SHORT;10SHORT OVER LONG",
      "10LONG OVER TWO SHORTS;10TWO SHORTS OVER LONG;30JOINED;10TRISEME;10TETRASEME;10PENTASEME",
      "00EARTH GROUND;00FUSE;00TOP PARENTHESIS;01BOTTOM;00TOP CURLY BRACKET;02BOTTOM",
      "01TOP TORTOISE SHELL;03BOTTOM;00WHITE TRAPEZIUM;00BENZENE RING WITH CIRCLE;00STRAIGHTNESS",
      "00FLATNESS;00AC CURRENT;00ELECTRICAL INTERSECTION;00DECIMAL EXPONENT SYMBOL",
      "00BLACK RIGHT-POINTING DOUBLE TRIANGLE;12LEFT-POINTING;12UP-POINTING;12DOWN-POINTING",
      "10RIGHT-POINTING DOUBLE TRIANGLE WITH VERTICAL BAR;15LEFT-POINTING",
      "12RIGHT-POINTING TRIANGLE WITH DOUBLE;00ALARM CLOCK;00STOPWATCH;00TIMER CLOCK",
      "00HOURGLASS WITH FLOWING SAND;00BLACK MEDIUM LEFT-POINTING TRIANGLE;21RIGHT-POINTING",
      "21UP-POINTING;21DOWN-POINTING;00DOUBLE VERTICAL BAR;00BLACK SQUARE FOR STOP",
      "10CIRCLE FOR RECORD;00POWER SYMBOL;11ON-OFF;11ON;11SLEEP;01OBSERVER EYE;00SYMBOL FOR NULL",
      "20START OF HEADING;40TEXT;22END;40TRANSMISSION;20ENQUIRY;20ACKNOWLEDGE;20BELL;20BACKSPACE",
      "20HORIZONTAL TABULATION;20LINE FEED;20VERTICAL TABULATION;20FORM FEED;20CARRIAGE RETURN",
      "20SHIFT OUT;30IN;20DATA LINK ESCAPE;20DEVICE CONTROL ONE;40TWO;40THREE;40FOUR",
      "20NEGATIVE ACKNOWLEDGE;20SYNCHRONOUS IDLE;20END OF TRANSMISSION BLOCK;20CANCEL",
      "20END OF MEDIUM;20SUBSTITUTE;20ESCAPE;20FILE SEPARATOR;21GROUP;21RECORD;21UNIT;20SPACE",
      "20DELETE;00BLANK SYMBOL;00OPEN BOX;00SYMBOL FOR NEWLINE;20DELETE FORM TWO;22SUBSTITUTE"]⟩,
    ⟨0x2440, [
      "00OCR HOOK;10CHAIR;10FORK;11INVERTED;10BELT BUCKLE;10BOW TIE;10BRANCH BANK IDENTIFICATION",
      "10AMOUNT OF CHECK;10DASH;10CUSTOMER ACCOUNT NUMBER;10DOUBLE BACKSLASH"]⟩,
    ⟨0x2460, [
      "00CIRCLED DIGIT ONE;20TWO;20THREE;20FOUR;20FIVE;20SIX;20SEVEN;20EIGHT;20NINE;10NUMBER TEN",
      "20ELEVEN;20TWELVE;20THIRTEEN;20FOURTEEN;20FIFTEEN;20SIXTEEN;20SEVENTEEN;20EIGHTEEN",
      "20NINETEEN;20TWENTY;00PARENTHESIZED DIGIT ONE;20TWO;20THREE;20FOUR;20FIVE;20SIX;20SEVEN",
      "20EIGHT;20NINE;10NUMBER TEN;20ELEVEN;20TWELVE;20THIRTEEN;20FOURTEEN;20FIFTEEN;20SIXTEEN",
      "20SEVENTEEN;20EIGHTEEN;20NINETEEN;20TWENTY;00DIGIT ONE FULL STOP;12TWO;12THREE;12FOUR",
      "12FIVE;12SIX;12SEVEN;12EIGHT;12NINE;02NUMBER TEN;12ELEVEN;12TWELVE;12THIRTEEN;12FOURTEEN",
      "12FIFTEEN;12SIXTEEN;12SEVENTEEN;12EIGHTEEN;12NINETEEN;12TWENTY",
      "00PARENTHESIZED LATIN SMALL LETTER A;40B;40C;40D;40E;40F;40G;40H;40I;40J;40K;40L;40M;40N",
      "40O;40P;40Q;40R;40S;40T;40U;40V;40W;40X;40Y;40Z;00CIRCLED LATIN CAPITAL LETTER A;40B;40C",
      "40D;40E;40F;40G;40H;40I;40J;40K;40L;40M;40N;40O;40P;40Q;40R;40S;40T;40U;40V;40W;40X;40Y",
      "40Z;20SMALL LETTER A;40B;40C;40D;40E;40F;40G;40H;40I;40J;40K;40L;40M;40N;40O;40P;40Q;40R",
      "40S;40T;40U;40V;40W;40X;40Y;40Z;10DIGIT ZERO;00NEGATIVE CIRCLED NUMBER ELEVEN;30TWELVE",
      "30THIRTEEN;30FOURTEEN;30FIFTEEN;30SIXTEEN;30SEVENTEEN;30EIGHTEEN;30NINETEEN;30TWENTY",
      "00DOUBLE CIRCLED DIGIT ONE;30TWO;30THREE;30FOUR;30FIVE;30SIX;30SEVEN;30EIGHT;30NINE",
      "20NUMBER TEN;00NEGATIVE CIRCLED DIGIT ZERO"]⟩]

end SafeFetch.Text.CharacterName
