import SafeFetch.Text.CharacterName.Basic

/-!
# The names of the eastern scripts

The characters from 2C00 on: rare alphabets, and the radicals, letters and syllables of eastern
Asia.
-/

namespace SafeFetch.Text.CharacterName

/-- The names of the eastern scripts. -/
def eastern : List Run :=
  [
    ⟨0x2c00, [
      "00GLAGOLITIC CAPITAL LETTER AZU;30BUKY;30VEDE;30GLAGOLI;30DOBRO;30YESTU;30ZHIVETE;30DZELO",
      "30ZEMLJA;30IZHE;31INITIAL;30I;30DJERVI;30KAKO;30LJUDIJE;30MYSLITE;30NASHI;30ONU;30POKOJI",
      "30RITSI;30SLOVO;30TVRIDO;30UKU;30FRITU;30HERU;30OTU;30PE;30SHTA;30TSI;30CHRIVI;30SHA",
      "30YERU;30YERI;30YATI;30SPIDERY HA;30YU;30SMALL YUS;50WITH TAIL;30YO;30IOTATED SMALL YUS",
      "31BIG;32IOTATED;30FITA;30IZHITSA;30SHTAPIC;30TROKUTASTI A;30LATINATE MYSLITE",
      "30CAUDATE CHRIVI;10SMALL LETTER AZU;30BUKY;30VEDE;30GLAGOLI;30DOBRO;30YESTU;30ZHIVETE",
      "30DZELO;30ZEMLJA;30IZHE;31INITIAL;30I;30DJERVI;30KAKO;30LJUDIJE;30MYSLITE;30NASHI;30ONU",
      "30POKOJI;30RITSI;30SLOVO;30TVRIDO;30UKU;30FRITU;30HERU;30OTU;30PE;30SHTA;30TSI;30CHRIVI",
      "30SHA;30YERU;30YERI;30YATI;30SPIDERY HA;30YU;30SMALL YUS;50WITH TAIL;30YO",
      "30IOTATED SMALL YUS;31BIG;32IOTATED;30FITA;30IZHITSA;30SHTAPIC;30TROKUTASTI A",
      "30LATINATE MYSLITE;30CAUDATE CHRIVI;00LATIN CAPITAL LETTER L WITH DOUBLE BAR;15SMALL",
      "10CAPITAL LETTER L WITH MIDDLE TILDE;30P WITH STROKE;30R WITH TAIL",
      "10SMALL LETTER A WITH STROKE;31T WITH DIAGONAL;10CAPITAL LETTER H WITH DESCENDER;14SMALL",
      "12CAPITAL LETTER K;14SMALL;12CAPITAL LETTER Z;14SMALL;10CAPITAL LETTER ALPHA",
      "30M WITH HOOK;30TURNED A;40ALPHA;10SMALL LETTER V WITH RIGHT HOOK;11CAPITAL LETTER W WITH",
      "14SMALL;30V WITH CURL;10CAPITAL LETTER HALF H;13SMALL;30TAILLESS PHI;30E WITH NOTCH",
      "30TURNED R WITH TAIL;30O WITH LOW RING INSIDE;10LETTER SMALL CAPITAL TURNED E",
      "10SUBSCRIPT SMALL LETTER J;00MODIFIER LETTER CAPITAL V",
      "00LATIN CAPITAL LETTER S WITH SWASH TAIL;33Z;00COPTIC CAPITAL LETTER ALFA;12SMALL",
      "10CAPITAL LETTER VIDA;12SMALL;10CAPITAL LETTER GAMMA;12SMALL;10CAPITAL LETTER DALDA",
      "12SMALL;10CAPITAL LETTER EIE;12SMALL;10CAPITAL LETTER SOU;12SMALL;10CAPITAL LETTER ZATA",
      "12SMALL;10CAPITAL LETTER HATE;12SMALL;10CAPITAL LETTER THETHE;12SMALL",
      "10CAPITAL LETTER IAUDA;12SMALL;10CAPITAL LETTER KAPA;12SMALL;10CAPITAL LETTER LAULA",
      "12SMALL;10CAPITAL LETTER MI;12SMALL;10CAPITAL LETTER NI;12SMALL;10CAPITAL LETTER KSI",
      "12SMALL;10CAPITAL LETTER O;12SMALL;10CAPITAL LETTER PI;12SMALL;10CAPITAL LETTER RO",
      "12SMALL;10CAPITAL LETTER SIMA;12SMALL;10CAPITAL LETTER TAU;12SMALL;10CAPITAL LETTER UA",
      "12SMALL;10CAPITAL LETTER FI;12SMALL;10CAPITAL LETTER KHI;12SMALL;10CAPITAL LETTER PSI",
      "12SMALL;10CAPITAL LETTER OOU;12SMALL;10CAPITAL LETTER DIALECT-P ALEF;13SMALL",
      "10CAPITAL LETTER OLD COPTIC AIN;14SMALL;10CAPITAL LETTER CRYPTOGRAMMIC EIE;13SMALL",
      "10CAPITAL LETTER DIALECT-P KAPA;13SMALL;10CAPITAL LETTER DIALECT-P NI;13SMALL",
      "11CAPITAL LETTER CRYPTOGRAMMIC;13SMALL;10CAPITAL LETTER OLD COPTIC OOU;14SMALL",
      "10CAPITAL LETTER SAMPI;12SMALL;10CAPITAL LETTER CROSSED SHEI;13SMALL",
      "11CAPITAL LETTER OLD COPTIC;14SMALL;10CAPITAL LETTER OLD COPTIC ESH;14SMALL",
      "10CAPITAL LETTER AKHMIMIC KHEI;13SMALL;10CAPITAL LETTER DIALECT-P HORI;13SMALL",
      "11CAPITAL LETTER OLD COPTIC;14SMALL;10CAPITAL LETTER OLD COPTIC HA;14SMALL",
      "11CAPITAL LETTER L-SHAPED;13SMALL;10CAPITAL LETTER OLD COPTIC HEI;14SMALL",
      "10CAPITAL LETTER OLD COPTIC HAT;14SMALL;10CAPITAL LETTER OLD COPTIC GANGIA;14SMALL",
      "10CAPITAL LETTER OLD COPTIC DJA;14SMALL;10CAPITAL LETTER OLD COPTIC SHIMA;14SMALL",
      "11CAPITAL LETTER OLD NUBIAN;14SMALL;10CAPITAL LETTER OLD NUBIAN NGI;14SMALL",
      "10CAPITAL LETTER OLD NUBIAN NYI;14SMALL;10CAPITAL LETTER OLD NUBIAN WAU;14SMALL",
      "10SYMBOL KAI;20MI RO;21PI;20STAUROS;20TAU RO;21KHI;20SHIMA SIMA",
      "10CAPITAL LETTER CRYPTOGRAMMIC SHEI;13SMALL;10CAPITAL LETTER CRYPTOGRAMMIC GANGIA;13SMALL",
      "10COMBINING NI ABOVE;20SPIRITUS ASPER;30LENIS;10CAPITAL LETTER BOHAIRIC KHEI;13SMALL"]⟩,
    ⟨0x2cf9, [
      "00COPTIC OLD NUBIAN FULL STOP;30DIRECT QUESTION MARK;32INDIRECT;30VERSE DIVIDER",
      "10FRACTION ONE HALF;10FULL STOP;10MORPHOLOGICAL DIVIDER;00GEORGIAN SMALL LETTER AN;30BAN",
      "30GAN;30DON;30EN;30VIN;30ZEN;30TAN;30IN;30KAN;30LAS;30MAN;30NAR;30ON;30PAR;30ZHAR;30RAE",
      "30SAN;30TAR;30UN;30PHAR;30KHAR;30GHAN;30QAR;30SHIN;30CHIN;30CAN;30JIL;30CIL;30CHAR;30XAN",
      "30JHAN;30HAE;30HE;30HIE;30WE;30HAR;30HOE"]⟩,
    ⟨0x2d27, ["00GEORGIAN SMALL LETTER YN"]⟩, ⟨0x2d2d, ["00GEORGIAN SMALL LETTER AEN"]⟩,
    ⟨0x2d30, [
      "00TIFINAGH LETTER YA;20YAB;20YABH;20YAG;20YAGHH;20BERBER ACADEMY YAJ;21;20YAD;20YADH",
      "20YADD;20YADDH;20YEY;20YAF;20YAK;21TUAREG;20YAKHH;20YAH;21BERBER ACADEMY;21TUAREG;20YAHH",
      "20YAA;20YAKH;21TUAREG;20YAQ;21TUAREG;20YI;20YAZH;21AHAGGAR;21TUAREG;20YAL;20YAM;20YAN",
      "20TUAREG YAGN;30YANG;20YAP;20YU;20YAR;20YARR;20YAGH;21TUAREG;21AYER;20YAS;20YASS;20YASH",
      "20YAT;20YATH;20YACH;20YATT;20YAV;20YAW;20YAY;20YAZ;21TAWELLEMET;20YAZZ;20YE;20YO"]⟩,
    ⟨0x2d6f, ["00TIFINAGH MODIFIER LETTER LABIALIZATION MARK;11SEPARATOR"]⟩,
    ⟨0x2d7f, [
      "00TIFINAGH CONSONANT JOINER;00ETHIOPIC SYLLABLE LOA;20MOA;20ROA;20SOA;20SHOA;20BOA;20TOA",
      "20COA;20NOA;20NYOA;20GLOTTAL OA;20ZOA;20DOA;20DDOA;20JOA;20THOA;20CHOA;20PHOA;20POA",
      "20GGWA;20GGWI;20GGWEE;20GGWE"]⟩,
    ⟨0x2da0, ["00ETHIOPIC SYLLABLE SSA;20SSU;20SSI;20SSAA;20SSEE;20SSE;20SSO"]⟩,
    ⟨0x2da8, ["00ETHIOPIC SYLLABLE CCA;20CCU;20CCI;20CCAA;20CCEE;20CCE;20CCO"]⟩,
    ⟨0x2db0, ["00ETHIOPIC SYLLABLE ZZA;20ZZU;20ZZI;20ZZAA;20ZZEE;20ZZE;20ZZO"]⟩,
    ⟨0x2db8, ["00ETHIOPIC SYLLABLE CCHA;20CCHU;20CCHI;20CCHAA;20CCHEE;20CCHE;20CCHO"]⟩,
    ⟨0x2dc0, ["00ETHIOPIC SYLLABLE QYA;20QYU;20QYI;20QYAA;20QYEE;20QYE;20QYO"]⟩,
    ⟨0x2dc8, ["00ETHIOPIC SYLLABLE KYA;20KYU;20KYI;20KYAA;20KYEE;20KYE;20KYO"]⟩,
    ⟨0x2dd0, ["00ETHIOPIC SYLLABLE XYA;20XYU;20XYI;20XYAA;20XYEE;20XYE;20XYO"]⟩,
    ⟨0x2dd8, ["00ETHIOPIC SYLLABLE GYA;20GYU;20GYI;20GYAA;20GYEE;20GYE;20GYO"]⟩,
    ⟨0x2de0, [
      "00COMBINING CYRILLIC LETTER BE;30VE;30GHE;30DE;30ZHE;30ZE;30KA;30EL;30EM;30EN;30O;30PE",
      "30ER;30ES;30TE;30HA;30TSE;30CHE;30SHA;30SHCHA;30FITA;30ES-TE;30A;30IE;30DJERV",
      "30MONOGRAPH UK;30YAT;30YU;30IOTIFIED A;30LITTLE YUS;31BIG;32IOTIFIED",
      "00RIGHT ANGLE SUBSTITUTION MARKER;22DOTTED;00LEFT SUBSTITUTION BRACKET;02RIGHT",
      "02LEFT DOTTED;03RIGHT;00RAISED INTERPOLATION MARKER;12DOTTED;01DOTTED TRANSPOSITION",
      "00LEFT TRANSPOSITION BRACKET;02RIGHT;00RAISED SQUARE;00LEFT RAISED OMISSION BRACKET",
      "03RIGHT;00EDITORIAL CORONIS;00PARAGRAPHOS;01FORKED;02REVERSED;00HYPODIASTOLE",
      "00DOTTED OBELOS;00DOWNWARDS ANCORA;01UPWARDS;00DOTTED RIGHT-POINTING ANGLE",
      "00DOUBLE OBLIQUE HYPHEN;00INVERTED INTERROBANG;00PALM BRANCH;00HYPHEN WITH DIAERESIS",
      "00TILDE WITH RING ABOVE;00LEFT LOW PARAPHRASE BRACKET;03RIGHT;00TILDE WITH DOT ABOVE",
      "30BELOW;00LEFT VERTICAL BAR WITH QUILL;04RIGHT;00TOP LEFT HALF BRACKET;12RIGHT",
      "02BOTTOM LEFT;12RIGHT;01LEFT SIDEWAYS U;03RIGHT;00LEFT DOUBLE PARENTHESIS;02RIGHT",
      "00TWO DOTS OVER ONE DOT PUNCTUATION;01ONE DOT OVER TWO DOTS;01SQUARED FOUR DOT",
      "00FIVE DOT MARK;01REVERSED QUESTION;00VERTICAL TILDE;00RING POINT",
      "00WORD SEPARATOR MIDDLE DOT;00TURNED COMMA;00RAISED DOT;10COMMA;00TURNED SEMICOLON",
      "00DAGGER WITH LEFT GUARD;21RIGHT;00TURNED DAGGER;00TOP HALF SECTION SIGN;00TWO-EM DASH",
      "01THREE-EM;00STENOGRAPHIC FULL STOP;00VERTICAL SIX DOTS;00WIGGLY VERTICAL LINE",
      "00CAPITULUM;00DOUBLE HYPHEN;00REVERSED COMMA;00DOUBLE LOW-REVERSED-9 QUOTATION MARK",
      "00DASH WITH LEFT UPTURN;00DOUBLE SUSPENSION MARK;00INVERTED LOW KAVYKA",
      "30WITH KAVYKA ABOVE;00LOW KAVYKA;20WITH DOT;00DOUBLE STACKED COMMA;00DOTTED SOLIDUS",
      "00TRIPLE DAGGER;00MEDIEVAL COMMA;00PARAGRAPHUS MARK;01PUNCTUS ELEVATUS",
      "00CORNISH VERSE DIVIDER;00CROSS PATTY WITH RIGHT CROSSBAR;31LEFT",
      "00TIRONIAN SIGN CAPITAL ET;00MEDIEVAL EXCLAMATION MARK;11QUESTION",
      "00LEFT SQUARE BRACKET WITH STROKE;04RIGHT;01LEFT SQUARE BRACKET WITH DOUBLE;05RIGHT",
      "00TOP HALF LEFT PARENTHESIS;21RIGHT;01BOTTOM HALF LEFT;21RIGHT;00OBLIQUE HYPHEN"]⟩,
    ⟨0x2e80, [
      "00CJK RADICAL REPEAT;20CLIFF;20SECOND ONE;30TWO;30THREE;20PERSON;20BOX;20TABLE",
      "20KNIFE ONE;30TWO;20DIVINATION;20SEAL;20SMALL ONE;30TWO;20LAME ONE;30TWO;30THREE;30FOUR",
      "20SNAKE;20THREAD;20SNOUT ONE;30TWO;20HEART ONE;30TWO;20HAND;20RAP"]⟩,
    ⟨0x2e9b, [
      "00CJK RADICAL CHOKE;20SUN;20MOON;20DEATH;20MOTHER;20CIVILIAN;20WATER ONE;30TWO;20FIRE",
      "20PAW ONE;30TWO;20SIMPLIFIED HALF TREE TRUNK;20COW;20DOG;20JADE;20BOLT OF CLOTH;20EYE",
      "20SPIRIT ONE;30TWO;20BAMBOO;20SILK;21C-SIMPLIFIED;20NET ONE;30TWO;30THREE;30FOUR;20MESH",
      "20SHEEP;20RAM;20EWE;20OLD;20BRUSH ONE;30TWO;20MEAT;20MORTAR;20GRASS ONE;30TWO;30THREE",
      "20TIGER;20CLOTHES;20WEST ONE;30TWO;20C-SIMPLIFIED SEE;20SIMPLIFIED HORN;21",
      "20C-SIMPLIFIED SPEECH;30SHELL;20FOOT;20C-SIMPLIFIED CART;20SIMPLIFIED WALK;20WALK ONE",
      "30TWO;20CITY;20C-SIMPLIFIED GOLD;20LONG ONE;30TWO;20C-SIMPLIFIED LONG;30GATE;20MOUND ONE",
      "30TWO;20RAIN;20BLUE;20C-SIMPLIFIED TANNED LEATHER;30LEAF;30WIND;30FLY;20EAT ONE;30TWO",
      "30THREE;20C-SIMPLIFIED EAT;20HEAD;20C-SIMPLIFIED HORSE;20BONE;20GHOST;20C-SIMPLIFIED FISH",
      "30BIRD;30SALT;20SIMPLIFIED WHEAT;30YELLOW;20C-SIMPLIFIED FROG;20J-SIMPLIFIED EVEN",
      "21C-SIMPLIFIED;20J-SIMPLIFIED TOOTH;21C-SIMPLIFIED;20J-SIMPLIFIED DRAGON;21C-SIMPLIFIED",
      "20TURTLE;21J-SIMPLIFIED;21C-SIMPLIFIED"]⟩,
    ⟨0x2f00, [
      "00KANGXI RADICAL ONE;20LINE;20DOT;20SLASH;20SECOND;20HOOK;20TWO;20LID;20MAN;20LEGS",
      "20ENTER;20EIGHT;20DOWN BOX;20COVER;20ICE;20TABLE;20OPEN BOX;20KNIFE;20POWER;20WRAP",
      "20SPOON;20RIGHT OPEN BOX;20HIDING ENCLOSURE;20TEN;20DIVINATION;20SEAL;20CLIFF;20PRIVATE",
      "20AGAIN;20MOUTH;20ENCLOSURE;20EARTH;20SCHOLAR;20GO;30SLOWLY;20EVENING;20BIG;20WOMAN",
      "20CHILD;20ROOF;20INCH;20SMALL;20LAME;20CORPSE;20SPROUT;20MOUNTAIN;20RIVER;20WORK",
      "20ONESELF;20TURBAN;20DRY;20SHORT THREAD;20DOTTED CLIFF;20LONG STRIDE;20TWO HANDS;20SHOOT",
      "20BOW;20SNOUT;20BRISTLE;20STEP;20HEART;20HALBERD;20DOOR;20HAND;20BRANCH;20RAP;20SCRIPT",
      "20DIPPER;20AXE;20SQUARE;20NOT;20SUN;20SAY;20MOON;20TREE;20LACK;20STOP;20DEATH;20WEAPON",
      "20DO NOT;20COMPARE;20FUR;20CLAN;20STEAM;20WATER;20FIRE;20CLAW;20FATHER;20DOUBLE X",
      "20HALF TREE TRUNK;20SLICE;20FANG;20COW;20DOG;20PROFOUND;20JADE;20MELON;20TILE;20SWEET",
      "20LIFE;20USE;20FIELD;20BOLT OF CLOTH;20SICKNESS;20DOTTED TENT;20WHITE;20SKIN;20DISH;20EYE",
      "20SPEAR;20ARROW;20STONE;20SPIRIT;20TRACK;20GRAIN;20CAVE;20STAND;20BAMBOO;20RICE;20SILK",
      "20JAR;20NET;20SHEEP;20FEATHER;20OLD;20AND;20PLOW;20EAR;20BRUSH;20MEAT;20MINISTER;20SELF",
      "20ARRIVE;20MORTAR;20TONGUE;20OPPOSE;20BOAT;20STOPPING;20COLOR;20GRASS;20TIGER;20INSECT",
      "20BLOOD;20WALK ENCLOSURE;20CLOTHES;20WEST;20SEE;20HORN;20SPEECH;20VALLEY;20BEAN;20PIG",
      "20BADGER;20SHELL;20RED;20RUN;20FOOT;20BODY;20CART;20BITTER;20MORNING;20WALK;20CITY;20WINE",
      "20DISTINGUISH;20VILLAGE;20GOLD;20LONG;20GATE;20MOUND;20SLAVE;20SHORT TAILED BIRD;20RAIN",
      "20BLUE;20WRONG;20FACE;20LEATHER;21TANNED;20LEEK;20SOUND;20LEAF;20WIND;20FLY;20EAT;20HEAD",
      "20FRAGRANT;20HORSE;20BONE;20TALL;20HAIR;20FIGHT;20SACRIFICIAL WINE;20CAULDRON;20GHOST",
      "20FISH;20BIRD;20SALT;20DEER;20WHEAT;20HEMP;20YELLOW;20MILLET;20BLACK;20EMBROIDERY;20FROG",
      "20TRIPOD;20DRUM;20RAT;20NOSE;20EVEN;20TOOTH;20DRAGON;20TURTLE;20FLUTE"]⟩,
    ⟨0x2ff0, [
      "00IDEOGRAPHIC DESCRIPTION CHARACTER LEFT TO RIGHT;30ABOVE TO BELOW",
      "30LEFT TO MIDDLE AND RIGHT;30ABOVE TO MIDDLE AND BELOW;30FULL SURROUND",
      "30SURROUND FROM ABOVE;50BELOW;50LEFT;51UPPER;60RIGHT;50LOWER LEFT;30OVERLAID"]⟩,
    ⟨0x3000, [
      "00IDEOGRAPHIC SPACE;10COMMA;10FULL STOP;00DITTO MARK",
      "00JAPANESE INDUSTRIAL STANDARD SYMBOL;00IDEOGRAPHIC ITERATION MARK;11CLOSING",
      "10NUMBER ZERO;00LEFT ANGLE BRACKET;02RIGHT;02LEFT DOUBLE;03RIGHT;01LEFT CORNER;02RIGHT",
      "02LEFT WHITE;03RIGHT;01LEFT BLACK LENTICULAR;03RIGHT;00POSTAL MARK;01GETA",
      "00LEFT TORTOISE SHELL BRACKET;03RIGHT;01LEFT WHITE LENTICULAR;03RIGHT",
      "01LEFT WHITE TORTOISE SHELL;04RIGHT;01LEFT WHITE SQUARE;03RIGHT;00WAVE DASH",
      "00REVERSED DOUBLE PRIME QUOTATION MARK;04;04LOW;00POSTAL MARK FACE;00HANGZHOU NUMERAL ONE",
      "20TWO;20THREE;20FOUR;20FIVE;20SIX;20SEVEN;20EIGHT;20NINE;00IDEOGRAPHIC LEVEL TONE MARK",
      "12RISING;12DEPARTING;12ENTERING;02HANGUL SINGLE DOT;13DOUBLE;00WAVY DASH",
      "00VERTICAL KANA REPEAT MARK;31WITH VOICED SOUND;30MARK UPPER HALF;33WITH VOICED SOUND",
      "31MARK LOWER;00CIRCLED POSTAL MARK;00IDEOGRAPHIC TELEGRAPH LINE FEED SEPARATOR SYMBOL",
      "00HANGZHOU NUMERAL TEN;20TWENTY;20THIRTY;00VERTICAL IDEOGRAPHIC ITERATION MARK;01MASU",
      "01PART ALTERNATION;00IDEOGRAPHIC VARIATION INDICATOR;10HALF FILL SPACE"]⟩,
    ⟨0x3041, [
      "00HIRAGANA LETTER SMALL A;21;20SMALL I;21;20SMALL U;21;20SMALL E;21;20SMALL O;21;20KA",
      "20GA;20KI;20GI;20KU;20GU;20KE;20GE;20KO;20GO;20SA;20ZA;20SI;20ZI;20SU;20ZU;20SE;20ZE;20SO",
      "20ZO;20TA;20DA;20TI;20DI;20SMALL TU;21;20DU;20TE;20DE;20TO;20DO;20NA;20NI;20NU;20NE;20NO",
      "20HA;20BA;20PA;20HI;20BI;20PI;20HU;20BU;20PU;20HE;20BE;20PE;20HO;20BO;20PO;20MA;20MI;20MU",
      "20ME;20MO;20SMALL YA;21;20SMALL YU;21;20SMALL YO;21;20RA;20RI;20RU;20RE;20RO;20SMALL WA",
      "21;20WI;20WE;20WO;20N;20VU;20SMALL KA;30KE"]⟩,
    ⟨0x3099, [
      "00COMBINING KATAKANA-HIRAGANA VOICED SOUND MARK;22SEMI-VOICED;02KATAKANA-HIRAGANA VOICED",
      "12SEMI-VOICED;01HIRAGANA ITERATION;12VOICED;10DIGRAPH YORI",
      "00KATAKANA-HIRAGANA DOUBLE HYPHEN;00KATAKANA LETTER SMALL A;21;20SMALL I;21;20SMALL U;21",
      "20SMALL E;21;20SMALL O;21;20KA;20GA;20KI;20GI;20KU;20GU;20KE;20GE;20KO;20GO;20SA;20ZA",
      "20SI;20ZI;20SU;20ZU;20SE;20ZE;20SO;20ZO;20TA;20DA;20TI;20DI;20SMALL TU;21;20DU;20TE;20DE",
      "20TO;20DO;20NA;20NI;20NU;20NE;20NO;20HA;20BA;20PA;20HI;20BI;20PI;20HU;20BU;20PU;20HE;20BE",
      "20PE;20HO;20BO;20PO;20MA;20MI;20MU;20ME;20MO;20SMALL YA;21;20SMALL YU;21;20SMALL YO;21",
      "20RA;20RI;20RU;20RE;20RO;20SMALL WA;21;20WI;20WE;20WO;20N;20VU;20SMALL KA;30KE;20VA;20VI",
      "20VE;20VO;10MIDDLE DOT;00KATAKANA-HIRAGANA PROLONGED SOUND MARK;01KATAKANA ITERATION",
      "12VOICED;10DIGRAPH KOTO"]⟩,
    ⟨0x3105, [
      "00BOPOMOFO LETTER B;20P;20M;20F;20D;20T;20N;20L;20G;20K;20H;20J;20Q;20X;20ZH;20CH;20SH",
      "20R;20Z;20C;20S;20A;20O;20E;20EH;20AI;20EI;20AU;20OU;20AN;20EN;20ANG;20ENG;20ER;20I;20U",
      "20IU;20V;20NG;20GN;20IH;20O WITH DOT ABOVE;20NN"]⟩,
    ⟨0x3131, [
      "00HANGUL LETTER KIYEOK;20SSANGKIYEOK;20KIYEOK-SIOS;20NIEUN;20NIEUN-CIEUC;20NIEUN-HIEUH",
      "20TIKEUT;20SSANGTIKEUT;20RIEUL;20RIEUL-KIYEOK;20RIEUL-MIEUM;20RIEUL-PIEUP;20RIEUL-SIOS",
      "20RIEUL-THIEUTH;20RIEUL-PHIEUPH;20RIEUL-HIEUH;20MIEUM;20PIEUP;20SSANGPIEUP;20PIEUP-SIOS",
      "20SIOS;20SSANGSIOS;20IEUNG;20CIEUC;20SSANGCIEUC;20CHIEUCH;20KHIEUKH;20THIEUTH;20PHIEUPH",
      "20HIEUH;20A;20AE;20YA;20YAE;20EO;20E;20YEO;20YE;20O;20WA;20WAE;20OE;20YO;20U;20WEO;20WE",
      "20WI;20YU;20EU;20YI;20I;10FILLER;10LETTER SSANGNIEUN;20NIEUN-TIKEUT;20NIEUN-SIOS",
      "20NIEUN-PANSIOS;20RIEUL-KIYEOK-SIOS;20RIEUL-TIKEUT;20RIEUL-PIEUP-SIOS;20RIEUL-PANSIOS",
      "20RIEUL-YEORINHIEUH;20MIEUM-PIEUP;20MIEUM-SIOS;20MIEUM-PANSIOS;20KAPYEOUNMIEUM",
      "20PIEUP-KIYEOK;20PIEUP-TIKEUT;20PIEUP-SIOS-KIYEOK;20PIEUP-SIOS-TIKEUT;20PIEUP-CIEUC",
      "20PIEUP-THIEUTH;20KAPYEOUNPIEUP;20KAPYEOUNSSANGPIEUP;20SIOS-KIYEOK;20SIOS-NIEUN",
      "20SIOS-TIKEUT;20SIOS-PIEUP;20SIOS-CIEUC;20PANSIOS;20SSANGIEUNG;20YESIEUNG;20YESIEUNG-SIOS",
      "20YESIEUNG-PANSIOS;20KAPYEOUNPHIEUPH;20SSANGHIEUH;20YEORINHIEUH;20YO-YA;20YO-YAE;20YO-I",
      "20YU-YEO;20YU-YE;20YU-I;20ARAEA;20ARAEAE"]⟩,
    ⟨0x3190, [
      "00IDEOGRAPHIC ANNOTATION LINKING MARK;21REVERSE;21ONE;21TWO;21THREE;21FOUR;21TOP;21MIDDLE",
      "21BOTTOM;21FIRST;21SECOND;21THIRD;21FOURTH;21HEAVEN;21EARTH;21MAN;00BOPOMOFO LETTER BU",
      "20ZI;20JI;20GU;20EE;20ENN;20OO;20ONN;20IR;20ANN;20INN;20UNN;20IM;20NGG;20AINN;20AUNN;20AM",
      "20OM;20ONG;20INNN;10FINAL LETTER P;30T;30K;30H;10LETTER GH;20LH;20ZY;10FINAL LETTER G",
      "10LETTER GW;20KW;20OE;20AH;00CJK STROKE T;20WG;20XG;20BXG;20SW;20HZZ;20HZG;20HP;20HZWG",
      "20SZWG;20HZT;20HZZP;20HPWG;20HZW;20HZZZ;20N;20H;20S;20P;20SP;20D;20HZ;20HG;20SZ;20SWZ",
      "20ST;20SG;20PD;20PZ;20TN;20SZZ;20SWG;20HXWG;20HZZZG;20PG;20Q"]⟩,
    ⟨0x31f0, [
      "00KATAKANA LETTER SMALL KU;30SI;30SU;30TO;30NU;30HA;30HI;30HU;30HE;30HO;30MU;30RA;30RI",
      "30RU;30RE;30RO;00PARENTHESIZED HANGUL KIYEOK;20NIEUN;20TIKEUT;20RIEUL;20MIEUM;20PIEUP",
      "20SIOS;20IEUNG;20CIEUC;20CHIEUCH;20KHIEUKH;20THIEUTH;20PHIEUPH;20HIEUH;20KIYEOK A;21NIEUN",
      "21TIKEUT;21RIEUL;21MIEUM;21PIEUP;21SIOS;21IEUNG;21CIEUC;21CHIEUCH;21KHIEUKH;21THIEUTH",
      "21PHIEUPH;21HIEUH;20CIEUC U;10KOREAN CHARACTER OJEON;30O HU"]⟩,
    ⟨0x3220, [
      "00PARENTHESIZED IDEOGRAPH ONE;20TWO;20THREE;20FOUR;20FIVE;20SIX;20SEVEN;20EIGHT;20NINE",
      "20TEN;20MOON;20FIRE;20WATER;20WOOD;20METAL;20EARTH;20SUN;20STOCK;20HAVE;20SOCIETY;20NAME",
      "20SPECIAL;20FINANCIAL;20CONGRATULATION;20LABOR;20REPRESENT;20CALL;20STUDY;20SUPERVISE",
      "20ENTERPRISE;20RESOURCE;20ALLIANCE;20FESTIVAL;20REST;20SELF;20REACH",
      "00CIRCLED IDEOGRAPH QUESTION;20KINDERGARTEN;20SCHOOL;20KOTO;10NUMBER TEN ON BLACK SQUARE",
      "23TWENTY;23THIRTY;23FORTY;23FIFTY;23SIXTY;23SEVENTY;23EIGHTY;00PARTNERSHIP SIGN",
      "00CIRCLED NUMBER TWENTY ONE;30TWO;30THREE;30FOUR;30FIVE;30SIX;30SEVEN;30EIGHT;30NINE",
      "20THIRTY;30ONE;30TWO;30THREE;30FOUR;30FIVE;10HANGUL KIYEOK;20NIEUN;20TIKEUT;20RIEUL",
      "20MIEUM;20PIEUP;20SIOS;20IEUNG;20CIEUC;20CHIEUCH;20KHIEUKH;20THIEUTH;20PHIEUPH;20HIEUH",
      "20KIYEOK A;21NIEUN;21TIKEUT;21RIEUL;21MIEUM;21PIEUP;21SIOS;21IEUNG;21CIEUC;21CHIEUCH",
      "21KHIEUKH;21THIEUTH;21PHIEUPH;21HIEUH;10KOREAN CHARACTER CHAMKO;30JUEUI;10HANGUL IEUNG U",
      "00KOREAN STANDARD SYMBOL;00CIRCLED IDEOGRAPH ONE;20TWO;20THREE;20FOUR;20FIVE;20SIX",
      "20SEVEN;20EIGHT;20NINE;20TEN;20MOON;20FIRE;20WATER;20WOOD;20METAL;20EARTH;20SUN;20STOCK",
      "20HAVE;20SOCIETY;20NAME;20SPECIAL;20FINANCIAL;20CONGRATULATION;20LABOR;20SECRET;20MALE",
      "20FEMALE;20SUITABLE;20EXCELLENT;20PRINT;20ATTENTION;20ITEM;20REST;20COPY;20CORRECT;20HIGH",
      "20CENTRE;20LOW;20LEFT;20RIGHT;20MEDICINE;20RELIGION;20STUDY;20SUPERVISE;20ENTERPRISE",
      "20RESOURCE;20ALLIANCE;20NIGHT;10NUMBER THIRTY SIX;30SEVEN;30EIGHT;30NINE;20FORTY;30ONE",
      "30TWO;30THREE;30FOUR;30FIVE;30SIX;30SEVEN;30EIGHT;30NINE;20FIFTY",
      "00IDEOGRAPHIC TELEGRAPH SYMBOL FOR JANUARY;40FEBRUARY;40MARCH;40APRIL;40MAY;40JUNE;40JULY",
      "40AUGUST;40SEPTEMBER;40OCTOBER;40NOVEMBER;40DECEMBER;00SQUARE HG;10ERG;10EV",
      "00LIMITED LIABILITY SIGN;00CIRCLED KATAKANA A;20I;20U;20E;20O;20KA;20KI;20KU;20KE;20KO",
      "20SA;20SI;20SU;20SE;20SO;20TA;20TI;20TU;20TE;20TO;20NA;20NI;20NU;20NE;20NO;20HA;20HI;20HU",
      "20HE;20HO;20MA;20MI;20MU;20ME;20MO;20YA;20YU;20YO;20RA;20RI;20RU;20RE;20RO;20WA;20WI;20WE",
      "20WO;00SQUARE ERA NAME REIWA;10APAATO;10ARUHUA;10ANPEA;10AARU;10ININGU;10INTI;10UON",
      "10ESUKUUDO;10EEKAA;10ONSU;10OOMU;10KAIRI;10KARATTO;10KARORII;10GARON;10GANMA;10GIGA",
      "10GINII;10KYURII;10GIRUDAA;10KIRO;10KIROGURAMU;10KIROMEETORU;10KIROWATTO;10GURAMU",
      "10GURAMUTON;10KURUZEIRO;10KUROONE;10KEESU;10KORUNA;10KOOPO;10SAIKURU;10SANTIIMU;10SIRINGU",
      "10SENTI;10SENTO;10DAASU;10DESI;10DORU;10TON;10NANO;10NOTTO;10HAITU;10PAASENTO;10PAATU",
      "10BAARERU;10PIASUTORU;10PIKURU;10PIKO;10BIRU;10HUARADDO;10HUIITO;10BUSSYERU;10HURAN",
      "10HEKUTAARU;10PESO;10PENIHI;10HERUTU;10PENSU;10PEEZI;10BEETA;10POINTO;10BORUTO;10HON",
      "10PONDO;10HOORU;10HOON;10MAIKURO;10MAIRU;10MAHHA;10MARUKU;10MANSYON;10MIKURON;10MIRI",
      "10MIRIBAARU;10MEGA;10MEGATON;10MEETORU;10YAADO;10YAARU;10YUAN;10RITTORU;10RIRA;10RUPII",
      "10RUUBURU;10REMU;10RENTOGEN;10WATTO;00IDEOGRAPHIC TELEGRAPH SYMBOL FOR HOUR ZERO;50ONE",
      "50TWO;50THREE;50FOUR;50FIVE;50SIX;50SEVEN;50EIGHT;50NINE;50TEN;50ELEVEN;50TWELVE",
      "50THIRTEEN;50FOURTEEN;50FIFTEEN;50SIXTEEN;50SEVENTEEN;50EIGHTEEN;50NINETEEN;50TWENTY",
      "50TWENTY-ONE;50TWENTY-TWO;50TWENTY-THREE;50TWENTY-FOUR;00SQUARE HPA;10DA;10AU;10BAR;10OV",
      "10PC;10DM;20SQUARED;20CUBED;10IU;10ERA NAME HEISEI;30SYOUWA;30TAISYOU;30MEIZI",
      "10CORPORATION;10PA AMPS;10NA;10MU A;10MA;10KA;10KB;10MB;10GB;10CAL;10KCAL;10PF;10NF",
      "10MU F;20G;10MG;10KG;10HZ;10KHZ;10MHZ;10GHZ;10THZ;10MU L;10ML;10DL;10KL;10FM;10NM;10MU M",
      "10MM;10CM;10KM;10MM SQUARED;11CM;11M;11KM;10MM CUBED;11CM;11M;11KM;10M OVER S;40SQUARED",
      "10PA;10KPA;10MPA;10GPA;10RAD;20OVER S;40SQUARED;10PS;10NS;10MU S;10MS;10PV;10NV;10MU V",
      "10MV;10KV;10MV MEGA;10PW;10NW;10MU W;10MW;10KW;10MW MEGA;10K OHM;11M;10AM;10BQ;10CC;10CD",
      "10C OVER KG;10CO;10DB;10GY;10HA;10HP;10IN;10KK;10KM CAPITAL;10KT;10LM;10LN;10LOG;10LX",
      "10MB SMALL;10MIL;10MOL;10PH;10PM;10PPM;10PR;10SR;10SV;10WB;10V OVER M;12A",
      "00IDEOGRAPHIC TELEGRAPH SYMBOL FOR DAY ONE;50TWO;50THREE;50FOUR;50FIVE;50SIX;50SEVEN",
      "50EIGHT;50NINE;50TEN;50ELEVEN;50TWELVE;50THIRTEEN;50FOURTEEN;50FIFTEEN;50SIXTEEN",
      "50SEVENTEEN;50EIGHTEEN;50NINETEEN;50TWENTY;50TWENTY-ONE;50TWENTY-TWO;50TWENTY-THREE",
      "50TWENTY-FOUR;50TWENTY-FIVE;50TWENTY-SIX;50TWENTY-SEVEN;50TWENTY-EIGHT;50TWENTY-NINE",
      "50THIRTY;50THIRTY-ONE;00SQUARE GAL"]⟩,
    ⟨0x4dc0, [
      "00HEXAGRAM FOR THE CREATIVE HEAVEN;30RECEPTIVE EARTH;20DIFFICULTY AT THE BEGINNING",
      "20YOUTHFUL FOLLY;20WAITING;20CONFLICT;20THE ARMY;20HOLDING TOGETHER;20SMALL TAMING",
      "20TREADING;20PEACE;20STANDSTILL;20FELLOWSHIP;20GREAT POSSESSION;20MODESTY;20ENTHUSIASM",
      "20FOLLOWING;20WORK ON THE DECAYED;20APPROACH;20CONTEMPLATION;20BITING THROUGH;20GRACE",
      "20SPLITTING APART;20RETURN;20INNOCENCE;20GREAT TAMING;20MOUTH CORNERS",
      "20GREAT PREPONDERANCE;20THE ABYSMAL WATER;30CLINGING FIRE;20INFLUENCE;20DURATION",
      "20RETREAT;20GREAT POWER;20PROGRESS;20DARKENING OF THE LIGHT;20THE FAMILY;20OPPOSITION",
      "20OBSTRUCTION;20DELIVERANCE;20DECREASE;20INCREASE;20BREAKTHROUGH;20COMING TO MEET",
      "20GATHERING TOGETHER;20PUSHING UPWARD;20OPPRESSION;20THE WELL;20REVOLUTION;20THE CAULDRON",
      "30AROUSING THUNDER;30KEEPING STILL MOUNTAIN;20DEVELOPMENT;20THE MARRYING MAIDEN",
      "20ABUNDANCE;20THE WANDERER;30GENTLE WIND;30JOYOUS LAKE;20DISPERSION;20LIMITATION",
      "20INNER TRUTH;20SMALL PREPONDERANCE;20AFTER COMPLETION;21BEFORE"]⟩,
    ⟨0xa000, [
      "00YI SYLLABLE IT;20IX;20I;20IP;20IET;20IEX;20IE;20IEP;20AT;20AX;20A;20AP;20UOX;20UO;20UOP",
      "20OT;20OX;20O;20OP;20EX;20E;20WU;20BIT;20BIX;20BI;20BIP;20BIET;20BIEX;20BIE;20BIEP;20BAT",
      "20BAX;20BA;20BAP;20BUOX;20BUO;20BUOP;20BOT;20BOX;20BO;20BOP;20BEX;20BE;20BEP;20BUT;20BUX",
      "20BU;20BUP;20BURX;20BUR;20BYT;20BYX;20BY;20BYP;20BYRX;20BYR;20PIT;20PIX;20PI;20PIP;20PIEX",
      "20PIE;20PIEP;20PAT;20PAX;20PA;20PAP;20PUOX;20PUO;20PUOP;20POT;20POX;20PO;20POP;20PUT",
      "20PUX;20PU;20PUP;20PURX;20PUR;20PYT;20PYX;20PY;20PYP;20PYRX;20PYR;20BBIT;20BBIX;20BBI",
      "20BBIP;20BBIET;20BBIEX;20BBIE;20BBIEP;20BBAT;20BBAX;20BBA;20BBAP;20BBUOX;20BBUO;20BBUOP",
      "20BBOT;20BBOX;20BBO;20BBOP;20BBEX;20BBE;20BBEP;20BBUT;20BBUX;20BBU;20BBUP;20BBURX;20BBUR",
      "20BBYT;20BBYX;20BBY;20BBYP;20NBIT;20NBIX;20NBI;20NBIP;20NBIEX;20NBIE;20NBIEP;20NBAT",
      "20NBAX;20NBA;20NBAP;20NBOT;20NBOX;20NBO;20NBOP;20NBUT;20NBUX;20NBU;20NBUP;20NBURX;20NBUR",
      "20NBYT;20NBYX;20NBY;20NBYP;20NBYRX;20NBYR;20HMIT;20HMIX;20HMI;20HMIP;20HMIEX;20HMIE",
      "20HMIEP;20HMAT;20HMAX;20HMA;20HMAP;20HMUOX;20HMUO;20HMUOP;20HMOT;20HMOX;20HMO;20HMOP",
      "20HMUT;20HMUX;20HMU;20HMUP;20HMURX;20HMUR;20HMYX;20HMY;20HMYP;20HMYRX;20HMYR;20MIT;20MIX",
      "20MI;20MIP;20MIEX;20MIE;20MIEP;20MAT;20MAX;20MA;20MAP;20MUOT;20MUOX;20MUO;20MUOP;20MOT",
      "20MOX;20MO;20MOP;20MEX;20ME;20MUT;20MUX;20MU;20MUP;20MURX;20MUR;20MYT;20MYX;20MY;20MYP",
      "20FIT;20FIX;20FI;20FIP;20FAT;20FAX;20FA;20FAP;20FOX;20FO;20FOP;20FUT;20FUX;20FU;20FUP",
      "20FURX;20FUR;20FYT;20FYX;20FY;20FYP;20VIT;20VIX;20VI;20VIP;20VIET;20VIEX;20VIE;20VIEP",
      "20VAT;20VAX;20VA;20VAP;20VOT;20VOX;20VO;20VOP;20VEX;20VEP;20VUT;20VUX;20VU;20VUP;20VURX",
      "20VUR;20VYT;20VYX;20VY;20VYP;20VYRX;20VYR;20DIT;20DIX;20DI;20DIP;20DIEX;20DIE;20DIEP",
      "20DAT;20DAX;20DA;20DAP;20DUOX;20DUO;20DOT;20DOX;20DO;20DOP;20DEX;20DE;20DEP;20DUT;20DUX",
      "20DU;20DUP;20DURX;20DUR;20TIT;20TIX;20TI;20TIP;20TIEX;20TIE;20TIEP;20TAT;20TAX;20TA;20TAP",
      "20TUOT;20TUOX;20TUO;20TUOP;20TOT;20TOX;20TO;20TOP;20TEX;20TE;20TEP;20TUT;20TUX;20TU;20TUP",
      "20TURX;20TUR;20DDIT;20DDIX;20DDI;20DDIP;20DDIEX;20DDIE;20DDIEP;20DDAT;20DDAX;20DDA;20DDAP",
      "20DDUOX;20DDUO;20DDUOP;20DDOT;20DDOX;20DDO;20DDOP;20DDEX;20DDE;20DDEP;20DDUT;20DDUX;20DDU",
      "20DDUP;20DDURX;20DDUR;20NDIT;20NDIX;20NDI;20NDIP;20NDIEX;20NDIE;20NDAT;20NDAX;20NDA",
      "20NDAP;20NDOT;20NDOX;20NDO;20NDOP;20NDEX;20NDE;20NDEP;20NDUT;20NDUX;20NDU;20NDUP;20NDURX",
      "20NDUR;20HNIT;20HNIX;20HNI;20HNIP;20HNIET;20HNIEX;20HNIE;20HNIEP;20HNAT;20HNAX;20HNA",
      "20HNAP;20HNUOX;20HNUO;20HNOT;20HNOX;20HNOP;20HNEX;20HNE;20HNEP;20HNUT;20NIT;20NIX;20NI",
      "20NIP;20NIEX;20NIE;20NIEP;20NAX;20NA;20NAP;20NUOX;20NUO;20NUOP;20NOT;20NOX;20NO;20NOP",
      "20NEX;20NE;20NEP;20NUT;20NUX;20NU;20NUP;20NURX;20NUR;20HLIT;20HLIX;20HLI;20HLIP;20HLIEX",
      "20HLIE;20HLIEP;20HLAT;20HLAX;20HLA;20HLAP;20HLUOX;20HLUO;20HLUOP;20HLOX;20HLO;20HLOP",
      "20HLEX;20HLE;20HLEP;20HLUT;20HLUX;20HLU;20HLUP;20HLURX;20HLUR;20HLYT;20HLYX;20HLY;20HLYP",
      "20HLYRX;20HLYR;20LIT;20LIX;20LI;20LIP;20LIET;20LIEX;20LIE;20LIEP;20LAT;20LAX;20LA;20LAP",
      "20LUOT;20LUOX;20LUO;20LUOP;20LOT;20LOX;20LO;20LOP;20LEX;20LE;20LEP;20LUT;20LUX;20LU;20LUP",
      "20LURX;20LUR;20LYT;20LYX;20LY;20LYP;20LYRX;20LYR;20GIT;20GIX;20GI;20GIP;20GIET;20GIEX",
      "20GIE;20GIEP;20GAT;20GAX;20GA;20GAP;20GUOT;20GUOX;20GUO;20GUOP;20GOT;20GOX;20GO;20GOP",
      "20GET;20GEX;20GE;20GEP;20GUT;20GUX;20GU;20GUP;20GURX;20GUR;20KIT;20KIX;20KI;20KIP;20KIEX",
      "20KIE;20KIEP;20KAT;20KAX;20KA;20KAP;20KUOX;20KUO;20KUOP;20KOT;20KOX;20KO;20KOP;20KET",
      "20KEX;20KE;20KEP;20KUT;20KUX;20KU;20KUP;20KURX;20KUR;20GGIT;20GGIX;20GGI;20GGIEX;20GGIE",
      "20GGIEP;20GGAT;20GGAX;20GGA;20GGAP;20GGUOT;20GGUOX;20GGUO;20GGUOP;20GGOT;20GGOX;20GGO",
      "20GGOP;20GGET;20GGEX;20GGE;20GGEP;20GGUT;20GGUX;20GGU;20GGUP;20GGURX;20GGUR;20MGIEX",
      "20MGIE;20MGAT;20MGAX;20MGA;20MGAP;20MGUOX;20MGUO;20MGUOP;20MGOT;20MGOX;20MGO;20MGOP",
      "20MGEX;20MGE;20MGEP;20MGUT;20MGUX;20MGU;20MGUP;20MGURX;20MGUR;20HXIT;20HXIX;20HXI;20HXIP",
      "20HXIET;20HXIEX;20HXIE;20HXIEP;20HXAT;20HXAX;20HXA;20HXAP;20HXUOT;20HXUOX;20HXUO;20HXUOP",
      "20HXOT;20HXOX;20HXO;20HXOP;20HXEX;20HXE;20HXEP;20NGIEX;20NGIE;20NGIEP;20NGAT;20NGAX;20NGA",
      "20NGAP;20NGUOT;20NGUOX;20NGUO;20NGOT;20NGOX;20NGO;20NGOP;20NGEX;20NGE;20NGEP;20HIT;20HIEX",
      "20HIE;20HAT;20HAX;20HA;20HAP;20HUOT;20HUOX;20HUO;20HUOP;20HOT;20HOX;20HO;20HOP;20HEX;20HE",
      "20HEP;20WAT;20WAX;20WA;20WAP;20WUOX;20WUO;20WUOP;20WOX;20WO;20WOP;20WEX;20WE;20WEP;20ZIT",
      "20ZIX;20ZI;20ZIP;20ZIEX;20ZIE;20ZIEP;20ZAT;20ZAX;20ZA;20ZAP;20ZUOX;20ZUO;20ZUOP;20ZOT",
      "20ZOX;20ZO;20ZOP;20ZEX;20ZE;20ZEP;20ZUT;20ZUX;20ZU;20ZUP;20ZURX;20ZUR;20ZYT;20ZYX;20ZY",
      "20ZYP;20ZYRX;20ZYR;20CIT;20CIX;20CI;20CIP;20CIET;20CIEX;20CIE;20CIEP;20CAT;20CAX;20CA",
      "20CAP;20CUOX;20CUO;20CUOP;20COT;20COX;20CO;20COP;20CEX;20CE;20CEP;20CUT;20CUX;20CU;20CUP",
      "20CURX;20CUR;20CYT;20CYX;20CY;20CYP;20CYRX;20CYR;20ZZIT;20ZZIX;20ZZI;20ZZIP;20ZZIET",
      "20ZZIEX;20ZZIE;20ZZIEP;20ZZAT;20ZZAX;20ZZA;20ZZAP;20ZZOX;20ZZO;20ZZOP;20ZZEX;20ZZE;20ZZEP",
      "20ZZUX;20ZZU;20ZZUP;20ZZURX;20ZZUR;20ZZYT;20ZZYX;20ZZY;20ZZYP;20ZZYRX;20ZZYR;20NZIT",
      "20NZIX;20NZI;20NZIP;20NZIEX;20NZIE;20NZIEP;20NZAT;20NZAX;20NZA;20NZAP;20NZUOX;20NZUO",
      "20NZOX;20NZOP;20NZEX;20NZE;20NZUX;20NZU;20NZUP;20NZURX;20NZUR;20NZYT;20NZYX;20NZY;20NZYP",
      "20NZYRX;20NZYR;20SIT;20SIX;20SI;20SIP;20SIEX;20SIE;20SIEP;20SAT;20SAX;20SA;20SAP;20SUOX",
      "20SUO;20SUOP;20SOT;20SOX;20SO;20SOP;20SEX;20SE;20SEP;20SUT;20SUX;20SU;20SUP;20SURX;20SUR",
      "20SYT;20SYX;20SY;20SYP;20SYRX;20SYR;20SSIT;20SSIX;20SSI;20SSIP;20SSIEX;20SSIE;20SSIEP",
      "20SSAT;20SSAX;20SSA;20SSAP;20SSOT;20SSOX;20SSO;20SSOP;20SSEX;20SSE;20SSEP;20SSUT;20SSUX",
      "20SSU;20SSUP;20SSYT;20SSYX;20SSY;20SSYP;20SSYRX;20SSYR;20ZHAT;20ZHAX;20ZHA;20ZHAP;20ZHUOX",
      "20ZHUO;20ZHUOP;20ZHOT;20ZHOX;20ZHO;20ZHOP;20ZHET;20ZHEX;20ZHE;20ZHEP;20ZHUT;20ZHUX;20ZHU",
      "20ZHUP;20ZHURX;20ZHUR;20ZHYT;20ZHYX;20ZHY;20ZHYP;20ZHYRX;20ZHYR;20CHAT;20CHAX;20CHA",
      "20CHAP;20CHUOT;20CHUOX;20CHUO;20CHUOP;20CHOT;20CHOX;20CHO;20CHOP;20CHET;20CHEX;20CHE",
      "20CHEP;20CHUX;20CHU;20CHUP;20CHURX;20CHUR;20CHYT;20CHYX;20CHY;20CHYP;20CHYRX;20CHYR",
      "20RRAX;20RRA;20RRUOX;20RRUO;20RROT;20RROX;20RRO;20RROP;20RRET;20RREX;20RRE;20RREP;20RRUT",
      "20RRUX;20RRU;20RRUP;20RRURX;20RRUR;20RRYT;20RRYX;20RRY;20RRYP;20RRYRX;20RRYR;20NRAT",
      "20NRAX;20NRA;20NRAP;20NROX;20NRO;20NROP;20NRET;20NREX;20NRE;20NREP;20NRUT;20NRUX;20NRU",
      "20NRUP;20NRURX;20NRUR;20NRYT;20NRYX;20NRY;20NRYP;20NRYRX;20NRYR;20SHAT;20SHAX;20SHA",
      "20SHAP;20SHUOX;20SHUO;20SHUOP;20SHOT;20SHOX;20SHO;20SHOP;20SHET;20SHEX;20SHE;20SHEP",
      "20SHUT;20SHUX;20SHU;20SHUP;20SHURX;20SHUR;20SHYT;20SHYX;20SHY;20SHYP;20SHYRX;20SHYR;20RAT",
      "20RAX;20RA;20RAP;20RUOX;20RUO;20RUOP;20ROT;20ROX;20RO;20ROP;20REX;20RE;20REP;20RUT;20RUX",
      "20RU;20RUP;20RURX;20RUR;20RYT;20RYX;20RY;20RYP;20RYRX;20RYR;20JIT;20JIX;20JI;20JIP;20JIET",
      "20JIEX;20JIE;20JIEP;20JUOT;20JUOX;20JUO;20JUOP;20JOT;20JOX;20JO;20JOP;20JUT;20JUX;20JU",
      "20JUP;20JURX;20JUR;20JYT;20JYX;20JY;20JYP;20JYRX;20JYR;20QIT;20QIX;20QI;20QIP;20QIET",
      "20QIEX;20QIE;20QIEP;20QUOT;20QUOX;20QUO;20QUOP;20QOT;20QOX;20QO;20QOP;20QUT;20QUX;20QU",
      "20QUP;20QURX;20QUR;20QYT;20QYX;20QY;20QYP;20QYRX;20QYR;20JJIT;20JJIX;20JJI;20JJIP;20JJIET",
      "20JJIEX;20JJIE;20JJIEP;20JJUOX;20JJUO;20JJUOP;20JJOT;20JJOX;20JJO;20JJOP;20JJUT;20JJUX",
      "20JJU;20JJUP;20JJURX;20JJUR;20JJYT;20JJYX;20JJY;20JJYP;20NJIT;20NJIX;20NJI;20NJIP;20NJIET",
      "20NJIEX;20NJIE;20NJIEP;20NJUOX;20NJUO;20NJOT;20NJOX;20NJO;20NJOP;20NJUX;20NJU;20NJUP",
      "20NJURX;20NJUR;20NJYT;20NJYX;20NJY;20NJYP;20NJYRX;20NJYR;20NYIT;20NYIX;20NYI;20NYIP",
      "20NYIET;20NYIEX;20NYIE;20NYIEP;20NYUOX;20NYUO;20NYUOP;20NYOT;20NYOX;20NYO;20NYOP;20NYUT",
      "20NYUX;20NYU;20NYUP;20XIT;20XIX;20XI;20XIP;20XIET;20XIEX;20XIE;20XIEP;20XUOX;20XUO;20XOT",
      "20XOX;20XO;20XOP;20XYT;20XYX;20XY;20XYP;20XYRX;20XYR;20YIT;20YIX;20YI;20YIP;20YIET;20YIEX",
      "20YIE;20YIEP;20YUOT;20YUOX;20YUO;20YUOP;20YOT;20YOX;20YO;20YOP;20YUT;20YUX;20YU;20YUP",
      "20YURX;20YUR;20YYT;20YYX;20YY;20YYP;20YYRX;20YYR"]⟩,
    ⟨0xa490, [
      "00YI RADICAL QOT;20LI;20KIT;20NYIP;20CYP;20SSI;20GGOP;20GEP;20MI;20HXIT;20LYR;20BBUT",
      "20MOP;20YO;20PUT;20HXUO;20TAT;20GA;20ZUP;20CYT;20DDUR;20BUR;20GGUO;20NYOP;20TU;20OP",
      "20JJUT;20ZOT;20PYT;20HMO;20YIT;20VUR;20SHY;20VEP;20ZA;20JO;20NZUP;20JJY;20GOT;20JJIE;20WO",
      "20DU;20SHUR;20LIE;20CY;20CUOP;20CIP;20HXOP;20SHAT;20ZUR;20SHOP;20CHE;20ZZIET;20NBIE;20KE"]⟩,
    ⟨0xa4d0, [
      "00LISU LETTER BA;20PA;20PHA;20DA;20TA;20THA;20GA;20KA;20KHA;20JA;20CA;20CHA;20DZA;20TSA",
      "20TSHA;20MA;20NA;20LA;20SA;20ZHA;20ZA;20NGA;20HA;20XA;20HHA;20FA;20WA;20SHA;20YA;20GHA",
      "20A;20AE;20E;20EU;20I;20O;20U;20UE;20UH;20OE;20TONE MYA TI;30NA PO;30MYA CYA;40BO;40NA",
      "40JEU;10PUNCTUATION COMMA;20FULL STOP"]⟩]

end SafeFetch.Text.CharacterName
