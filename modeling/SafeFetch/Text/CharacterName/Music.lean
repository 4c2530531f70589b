import SafeFetch.Text.CharacterName.Basic

/-!
# The names of music and mathematics

The characters from 1D000 on: notes, letters of formulas, and the signs for signed languages.
-/

namespace SafeFetch.Text.CharacterName

/-- The names of music and mathematics. -/
def music : List Run :=
  [
    ⟨0x1d000, [
      "00BYZANTINE MUSICAL SYMBOL PSILI;30DASEIA;30PERISPOMENI;30OXEIA EKFONITIKON;40DIPLI",
      "30VAREIA EKFONITIKON;40DIPLI;30KATHISTI;30SYRMATIKI;30PARAKLITIKI;30YPOKRISIS;40DIPLI",
      "30KREMASTI;30APESO EKFONITIKON;31EXO;30TELEIA;30KENTIMATA;30APOSTROFOS;40DIPLI;30SYNEVMA",
      "30THITA;30OLIGON ARCHAION;31GORGON;30PSILON;30CHAMILON;30VATHY;30ISON ARCHAION;31KENTIMA",
      "31KENTIMATA;30SAXIMATA;30PARICHON;30STAVROS APODEXIA;30OXEIAI ARCHAION;31VAREIAI",
      "31APODERMA;30APOTHEMA;30KLASMA;30REVMA;30PIASMA ARCHAION;30TINAGMA;30ANATRICHISMA",
      "30SEISMA;30SYNAGMA ARCHAION;40META STAVROU;30OYRANISMA ARCHAION;30THEMA;30LEMOI;30DYO",
      "30TRIA;30TESSERA;30KRATIMATA;30APESO EXO NEO;30FTHORA ARCHAION;30IMIFTHORA",
      "30TROMIKON ARCHAION;30KATAVA TROMIKON;30PELASTON;30PSIFISTON;30KONTEVMA",
      "30CHOREVMA ARCHAION;30RAPISMA;30PARAKALESMA ARCHAION;31PARAKLITIKI;30ICHADIN;30NANA",
      "30PETASMA;30KONTEVMA ALLO;31TROMIKON;30STRAGGISMATA;30GRONTHISMATA;30ISON NEO;31OLIGON",
      "31OXEIA;30PETASTI;30KOUFISMA;30PETASTOKOUFISMA;30KRATIMOKOUFISMA;30PELASTON NEO",
      "30KENTIMATA NEO ANO;32KENTIMA;30YPSILI;30APOSTROFOS NEO;31APOSTROFOI SYNDESMOS;30YPORROI",
      "30KRATIMOYPORROON;30ELAFRON;30CHAMILI;30MIKRON ISON;30VAREIA NEO;31PIASMA;31PSIFISTON",
      "30OMALON;30ANTIKENOMA;30LYGISMA;30PARAKLITIKI NEO;31PARAKALESMA;30ETERON PARAKALESMA",
      "30KYLISMA;30ANTIKENOKYLISMA;30TROMIKON NEO;30EKSTREPTON;30SYNAGMA NEO;30SYRMA",
      "30CHOREVMA NEO;30EPEGERMA;30SEISMA NEO;30XIRON KLASMA;30TROMIKOPSIFISTON",
      "30PSIFISTOLYGISMA;30TROMIKOLYGISMA;30TROMIKOPARAKALESMA;30PSIFISTOPARAKALESMA",
      "30TROMIKOSYNAGMA;30PSIFISTOSYNAGMA;30GORGOSYNTHETON;30ARGOSYNTHETON;31ETERON",
      "30OYRANISMA NEO;30THEMATISMOS ESO;40EXO;30THEMA APLOUN;30THES KAI APOTHES;30KATAVASMA",
      "30ENDOFONON;30YFEN KATO;40ANO;30STAVROS;30KLASMA ANO;30DIPLI ARCHAION;31KRATIMA;40ALLO",
      "40NEO;31APODERMA;30APLI;30DIPLI;30TRIPLI;30TETRAPLI;30KORONIS;30LEIMMA ENOS CHRONOU",
      "40DYO CHRONON;41TRION;41TESSARON;40IMISEOS CHRONOU;30GORGON NEO ANO",
      "40PARESTIGMENON ARISTERA;50DEXIA;30DIGORGON;40PARESTIGMENON ARISTERA KATO;60ANO;50DEXIA",
      "30TRIGORGON;30ARGON;30IMIDIARGON;30DIARGON;30AGOGI POLI ARGI;40ARGOTERI;40ARGI;40METRIA",
      "40MESI;40GORGI;40GORGOTERI;40POLI GORGI;30MARTYRIA PROTOS ICHOS;42ALLI;41DEYTEROS;42ALLI",
      "41TRITOS;40TRIFONIAS;40TETARTOS ICHOS;51LEGETOS;42;41PLAGIOS;30ISAKIA TELOUS ICHIMATOS",
      "32APOSTROFOI;30FANEROSIS TETRAFONIAS;40MONOFONIAS;40DIFONIAS;30MARTYRIA VARYS ICHOS",
      "41PROTOVARYS;41PLAGIOS TETARTOS;30GORTHMIKON N APLOUN;50DIPLOUN;30ENARXIS KAI FTHORA VOU",
      "30IMIFONON;30IMIFTHORON;30FTHORA ARCHAION DEYTEROU ICHOU;40DIATONIKI PA;50NANA",
      "40NAOS ICHOS;40DIATONIKI DI;41SKLIRON DIATONON;40DIATONIKI KE;50ZO;50NI KATO;60ANO",
      "40MALAKON CHROMA DIFONIAS;60MONOFONIAS;30FHTORA SKLIRON CHROMA VASIS",
      "30FTHORA SKLIRON CHROMA SYNAFI;40NENANO;30CHROA ZYGOS;40KLITON;40SPATHI",
      "30FTHORA I YFESIS TETARTIMORION;40ENARMONIOS ANTIFONIA;30YFESIS TRITIMORION;31DIESIS",
      "40TETARTIMORION;40APLI DYO DODEKATA;41MONOGRAMMOS TESSERA;41DIGRAMMOS EX",
      "41TRIGRAMMOS OKTO;31YFESIS APLI DYO;41MONOGRAMMOS TESSERA;41DIGRAMMOS EX",
      "41TRIGRAMMOS OKTO;30GENIKI DIESIS;40YFESIS;30DIASTOLI APLI MIKRI;50MEGALI;40DIPLI",
      "40THESEOS;31SIMANSIS;50DISIMOU;50TRISIMOU;50TETRASIMOU;40ARSEOS;50DISIMOU;50TRISIMOU",
      "50TETRASIMOU;30DIGRAMMA GG;30DIFTOGGOS OU;30STIGMA;30ARKTIKO PA;40VOU;40GA;40DI;40KE;40ZO",
      "40NI;30KENTIMATA NEO MESO;32KENTIMA;30KENTIMATA NEO KATO;32KENTIMA;31KLASMA;31GORGON NEO"]⟩,
    ⟨0x1d100, [
      "00MUSICAL SYMBOL SINGLE BARLINE;21DOUBLE;21FINAL;22REVERSE;21DASHED;21SHORT",
      "20LEFT REPEAT SIGN;22RIGHT;20REPEAT DOTS;20DAL SEGNO;20DA CAPO;20SEGNO;20CODA",
      "20REPEATED FIGURE-1;30FIGURE-2;30FIGURE-3;20FERMATA;30BELOW;20BREATH MARK;20CAESURA",
      "20BRACE;20BRACKET;20ONE-LINE STAFF;21TWO-LINE;21THREE-LINE;21FOUR-LINE;21FIVE-LINE",
      "21SIX-LINE;20SIX-STRING FRETBOARD;21FOUR-STRING;20G CLEF;40OTTAVA ALTA;50BASSA;20C CLEF",
      "21F;40OTTAVA ALTA;50BASSA;20DRUM CLEF-1;30CLEF-2"]⟩,
    ⟨0x1d129, [
      "00MUSICAL SYMBOL MULTIPLE MEASURE REST;20DOUBLE SHARP;30FLAT;20FLAT UP;30DOWN",
      "20NATURAL UP;30DOWN;20SHARP UP;30DOWN;20QUARTER TONE SHARP;40FLAT;20COMMON TIME;21CUT",
      "20OTTAVA ALTA;30BASSA;20QUINDICESIMA ALTA;30BASSA;20MULTI REST;21WHOLE;21HALF;21QUARTER",
      "21EIGHTH;21SIXTEENTH;21THIRTY-SECOND;21SIXTY-FOURTH;21ONE HUNDRED TWENTY-EIGHTH",
      "20X NOTEHEAD;21PLUS;21CIRCLE X;20SQUARE NOTEHEAD WHITE;40BLACK",
      "20TRIANGLE NOTEHEAD UP WHITE;50BLACK;40LEFT WHITE;50BLACK;40RIGHT WHITE;50BLACK",
      "40DOWN WHITE;50BLACK;40UP RIGHT WHITE;60BLACK;20MOON NOTEHEAD WHITE;40BLACK",
      "20TRIANGLE-ROUND NOTEHEAD DOWN WHITE;50BLACK;20PARENTHESIS NOTEHEAD;21VOID",
      "20NOTEHEAD BLACK;20NULL NOTEHEAD;20CLUSTER NOTEHEAD WHITE;40BLACK;20BREVE;20WHOLE NOTE",
      "21HALF;21QUARTER;21EIGHTH;21SIXTEENTH;21THIRTY-SECOND;21SIXTY-FOURTH",
      "21ONE HUNDRED TWENTY-EIGHTH;20COMBINING STEM;31SPRECHGESANG;30TREMOLO-1;30TREMOLO-2",
      "30TREMOLO-3;20FINGERED TREMOLO-1;30TREMOLO-2;30TREMOLO-3;20COMBINING AUGMENTATION DOT",
      "30FLAG-1;30FLAG-2;30FLAG-3;30FLAG-4;30FLAG-5;20BEGIN BEAM;21END;20BEGIN TIE;21END",
      "20BEGIN SLUR;21END;20BEGIN PHRASE;21END;20COMBINING ACCENT;30STACCATO;30TENUTO",
      "30STACCATISSIMO;30MARCATO;30MARCATO-STACCATO;30ACCENT-STACCATO;30LOURE;20ARPEGGIATO UP",
      "30DOWN;20COMBINING DOIT;30RIP;30FLIP;30SMEAR;30BEND;30DOUBLE TONGUE;31TRIPLE",
      "20RINFORZANDO;20SUBITO;20Z;20PIANO;20MEZZO;20FORTE;20CRESCENDO;20DECRESCENDO",
      "20GRACE NOTE SLASH;41NO;20TR;20TURN;21INVERTED;20TURN SLASH;30UP;20ORNAMENT STROKE-1",
      "30STROKE-2;30STROKE-3;30STROKE-4;30STROKE-5;30STROKE-6;30STROKE-7;30STROKE-8;30STROKE-9",
      "30STROKE-10;30STROKE-11;20HAUPTSTIMME;20NEBENSTIMME;20END OF STIMME;20DEGREE SLASH",
      "20COMBINING DOWN BOW;31UP;30HARMONIC;30SNAP PIZZICATO;20PEDAL MARK;31UP;21HALF PEDAL",
      "20GLISSANDO UP;30DOWN;20WITH FINGERNAILS;20DAMP;30ALL;20MAXIMA;20LONGA;20BREVIS",
      "20SEMIBREVIS WHITE;30BLACK;20MINIMA;30BLACK;20SEMIMINIMA WHITE;30BLACK;20FUSA WHITE",
      "30BLACK;20LONGA PERFECTA REST;31IMPERFECTA;21BREVIS;21SEMIBREVIS;21MINIMA;21SEMIMINIMA",
      "20TEMPUS PERFECTUM CUM PROLATIONE PERFECTA;60IMPERFECTA;60PERFECTA DIMINUTION-1",
      "30IMPERFECTUM CUM PROLATIONE PERFECTA;60IMPERFECTA;70DIMINUTION-1;70DIMINUTION-2",
      "70DIMINUTION-3;20CROIX;20GREGORIAN C CLEF;31F;20SQUARE B;20VIRGA;20PODATUS;20CLIVIS",
      "20SCANDICUS;20CLIMACUS;20TORCULUS;20PORRECTUS;30FLEXUS;21SCANDICUS;20TORCULUS RESUPINUS",
      "20PES SUBPUNCTIS;20KIEVAN C CLEF;30END OF PIECE;30FINAL NOTE;30RECITATIVE MARK",
      "30WHOLE NOTE;31HALF;30QUARTER NOTE STEM DOWN;60UP;30EIGHTH NOTE STEM DOWN;60UP",
      "30FLAT SIGN;20SORI;20KORON"]⟩,
    ⟨0x1d200, [
      "00GREEK VOCAL NOTATION SYMBOL-1;30SYMBOL-2;30SYMBOL-3;30SYMBOL-4;30SYMBOL-5;30SYMBOL-6",
      "30SYMBOL-7;30SYMBOL-8;30SYMBOL-9;30SYMBOL-10;30SYMBOL-11;30SYMBOL-12;30SYMBOL-13",
      "30SYMBOL-14;30SYMBOL-15;30SYMBOL-16;30SYMBOL-17;30SYMBOL-18;30SYMBOL-19;30SYMBOL-20",
      "30SYMBOL-21;30SYMBOL-22;30SYMBOL-23;30SYMBOL-24;30SYMBOL-50;30SYMBOL-51;30SYMBOL-52",
      "30SYMBOL-53;30SYMBOL-54;10INSTRUMENTAL NOTATION SYMBOL-1;30SYMBOL-2;30SYMBOL-4;30SYMBOL-5",
      "30SYMBOL-7;30SYMBOL-8;30SYMBOL-11;30SYMBOL-12;30SYMBOL-13;30SYMBOL-14;30SYMBOL-17",
      "30SYMBOL-18;30SYMBOL-19;30SYMBOL-23;30SYMBOL-24;30SYMBOL-25;30SYMBOL-26;30SYMBOL-27",
      "30SYMBOL-29;30SYMBOL-30;30SYMBOL-32;30SYMBOL-36;30SYMBOL-37;30SYMBOL-38;30SYMBOL-39",
      "30SYMBOL-40;30SYMBOL-42;30SYMBOL-43;30SYMBOL-45;30SYMBOL-47;30SYMBOL-48;30SYMBOL-49",
      "30SYMBOL-50;30SYMBOL-51;30SYMBOL-52;30SYMBOL-53;30SYMBOL-54",
      "00COMBINING GREEK MUSICAL TRISEME;30TETRASEME;30PENTASEME;00GREEK MUSICAL LEIMMA"]⟩,
    ⟨0x1d2e0, [
      "00MAYAN NUMERAL ZERO;20ONE;20TWO;20THREE;20FOUR;20FIVE;20SIX;20SEVEN;20EIGHT;20NINE;20TEN",
      "20ELEVEN;20TWELVE;20THIRTEEN;20FOURTEEN;20FIFTEEN;20SIXTEEN;20SEVENTEEN;20EIGHTEEN",
      "20NINETEEN"]⟩,
    ⟨0x1d300, [
      "00MONOGRAM FOR EARTH;01DIGRAM FOR HEAVENLY;21HUMAN;20EARTHLY HEAVEN;30HUMAN;20EARTH",
      "00TETRAGRAM FOR CENTRE;20FULL CIRCLE;20MIRED;20BARRIER;20KEEPING SMALL;20CONTRARIETY",
      "20ASCENT;20OPPOSITION;20BRANCHING OUT;20DEFECTIVENESS OR DISTORTION;20DIVERGENCE",
      "20YOUTHFULNESS;20INCREASE;20PENETRATION;20REACH;20CONTACT;20HOLDING BACK;20WAITING",
      "20FOLLOWING;20ADVANCE;20RELEASE;20RESISTANCE;20EASE;20JOY;20CONTENTION;20ENDEAVOUR",
      "20DUTIES;20CHANGE;20DECISIVENESS;20BOLD RESOLUTION;20PACKING;20LEGION;20CLOSENESS",
      "20KINSHIP;20GATHERING;20STRENGTH;20PURITY;20FULLNESS;20RESIDENCE;20LAW OR MODEL",
      "20RESPONSE;20GOING TO MEET;20ENCOUNTERS;20STOVE;20GREATNESS;20ENLARGEMENT;20PATTERN",
      "20RITUAL;20FLIGHT;20VASTNESS OR WASTING;20CONSTANCY;20MEASURE;20ETERNITY;20UNITY",
      "20DIMINISHMENT;20CLOSED MOUTH;20GUARDEDNESS;20GATHERING IN;20MASSING;20ACCUMULATION",
      "20EMBELLISHMENT;20DOUBT;20WATCH;20SINKING;20INNER;20DEPARTURE;20DARKENING;20DIMMING",
      "20EXHAUSTION;20SEVERANCE;20STOPPAGE;20HARDNESS;20COMPLETION;20CLOSURE;20FAILURE",
      "20AGGRAVATION;20COMPLIANCE;20ON THE VERGE;20DIFFICULTIES;20LABOURING;20FOSTERING"]⟩,
    ⟨0x1d360, [
      "00COUNTING ROD UNIT DIGIT ONE;40TWO;40THREE;40FOUR;40FIVE;40SIX;40SEVEN;40EIGHT;40NINE",
      "20TENS DIGIT ONE;40TWO;40THREE;40FOUR;40FIVE;40SIX;40SEVEN;40EIGHT;40NINE",
      "00IDEOGRAPHIC TALLY MARK ONE;30TWO;30THREE;30FOUR;30FIVE;00TALLY MARK ONE;20FIVE"]⟩,
    ⟨0x1d400, [
      "00MATHEMATICAL BOLD CAPITAL A;30B;30C;30D;30E;30F;30G;30H;30I;30J;30K;30L;30M;30N;30O;30P",
      "30Q;30R;30S;30T;30U;30V;30W;30X;30Y;30Z;20SMALL A;30B;30C;30D;30E;30F;30G;30H;30I;30J;30K",
      "30L;30M;30N;30O;30P;30Q;30R;30S;30T;30U;30V;30W;30X;30Y;30Z;10ITALIC CAPITAL A;30B;30C",
      "30D;30E;30F;30G;30H;30I;30J;30K;30L;30M;30N;30O;30P;30Q;30R;30S;30T;30U;30V;30W;30X;30Y",
      "30Z;20SMALL A;30B;30C;30D;30E;30F;30G"]⟩,
    ⟨0x1d456, [
      "00MATHEMATICAL ITALIC SMALL I;30J;30K;30L;30M;30N;30O;30P;30Q;30R;30S;30T;30U;30V;30W;30X",
      "30Y;30Z;10BOLD ITALIC CAPITAL A;40B;40C;40D;40E;40F;40G;40H;40I;40J;40K;40L;40M;40N;40O",
      "40P;40Q;40R;40S;40T;40U;40V;40W;40X;40Y;40Z;30SMALL A;40B;40C;40D;40E;40F;40G;40H;40I;40J",
      "40K;40L;40M;40N;40O;40P;40Q;40R;40S;40T;40U;40V;40W;40X;40Y;40Z;10SCRIPT CAPITAL A"]⟩,
    ⟨0x1d49e, ["00MATHEMATICAL SCRIPT CAPITAL C;30D"]⟩,
    ⟨0x1d4a2, ["00MATHEMATICAL SCRIPT CAPITAL G"]⟩,
    ⟨0x1d4a5, ["00MATHEMATICAL SCRIPT CAPITAL J;30K"]⟩,
    ⟨0x1d4a9, ["00MATHEMATICAL SCRIPT CAPITAL N;30O;30P;30Q"]⟩,
    ⟨0x1d4ae, [
      "00MATHEMATICAL SCRIPT CAPITAL S;30T;30U;30V;30W;30X;30Y;30Z;20SMALL A;30B;30C;30D"]⟩,
    ⟨0x1d4bb, ["00MATHEMATICAL SCRIPT SMALL F"]⟩,
    ⟨0x1d4bd, ["00MATHEMATICAL SCRIPT SMALL H;30I;30J;30K;30L;30M;30N"]⟩,
    ⟨0x1d4c5, [
      "00MATHEMATICAL SCRIPT SMALL P;30Q;30R;30S;30T;30U;30V;30W;30X;30Y;30Z",
      "10BOLD SCRIPT CAPITAL A;40B;40C;40D;40E;40F;40G;40H;40I;40J;40K;40L;40M;40N;40O;40P;40Q",
      "40R;40S;40T;40U;40V;40W;40X;40Y;40Z;30SMALL A;40B;40C;40D;40E;40F;40G;40H;40I;40J;40K;40L",
      "40M;40N;40O;40P;40Q;40R;40S;40T;40U;40V;40W;40X;40Y;40Z;10FRAKTUR CAPITAL A;30B"]⟩,
    ⟨0x1d507, ["00MATHEMATICAL FRAKTUR CAPITAL D;30E;30F;30G"]⟩,
    ⟨0x1d50d, ["00MATHEMATICAL FRAKTUR CAPITAL J;30K;30L;30M;30N;30O;30P;30Q"]⟩,
    ⟨0x1d516, ["00MATHEMATICAL FRAKTUR CAPITAL S;30T;30U;30V;30W;30X;30Y"]⟩,
    ⟨0x1d51e, [
      "00MATHEMATICAL FRAKTUR SMALL A;30B;30C;30D;30E;30F;30G;30H;30I;30J;30K;30L;30M;30N;30O",
      "30P;30Q;30R;30S;30T;30U;30V;30W;30X;30Y;30Z;10DOUBLE-STRUCK CAPITAL A;30B"]⟩,
    ⟨0x1d53b, ["00MATHEMATICAL DOUBLE-STRUCK CAPITAL D;30E;30F;30G"]⟩,
    ⟨0x1d540, ["00MATHEMATICAL DOUBLE-STRUCK CAPITAL I;30J;30K;30L;30M"]⟩,
    ⟨0x1d546, ["00MATHEMATICAL DOUBLE-STRUCK CAPITAL O"]⟩,
    ⟨0x1d54a, ["00MATHEMATICAL DOUBLE-STRUCK CAPITAL S;30T;30U;30V;30W;30X;30Y"]⟩,
    ⟨0x1d552, [
      "00MATHEMATICAL DOUBLE-STRUCK SMALL A;30B;30C;30D;30E;30F;30G;30H;30I;30J;30K;30L;30M;30N",
      "30O;30P;30Q;30R;30S;30T;30U;30V;30W;30X;30Y;30Z;10BOLD FRAKTUR CAPITAL A;40B;40C;40D;40E",
      "40F;40G;40H;40I;40J;40K;40L;40M;40N;40O;40P;40Q;40R;40S;40T;40U;40V;40W;40X;40Y;40Z",
      "30SMALL A;40B;40C;40D;40E;40F;40G;40H;40I;40J;40K;40L;40M;40N;40O;40P;40Q;40R;40S;40T;40U",
      "40V;40W;40X;40Y;40Z;10SANS-SERIF CAPITAL A;30B;30C;30D;30E;30F;30G;30H;30I;30J;30K;30L",
      "30M;30N;30O;30P;30Q;30R;30S;30T;30U;30V;30W;30X;30Y;30Z;20SMALL A;30B;30C;30D;30E;30F;30G",
      "30H;30I;30J;30K;30L;30M;30N;30O;30P;30Q;30R;30S;30T;30U;30V;30W;30X;30Y;30Z",
      "20BOLD CAPITAL A;40B;40C;40D;40E;40F;40G;40H;40I;40J;40K;40L;40M;40N;40O;40P;40Q;40R;40S",
      "40T;40U;40V;40W;40X;40Y;40Z;30SMALL A;40B;40C;40D;40E;40F;40G;40H;40I;40J;40K;40L;40M;40N",
      "40O;40P;40Q;40R;40S;40T;40U;40V;40W;40X;40Y;40Z;20ITALIC CAPITAL A;40B;40C;40D;40E;40F",
      "40G;40H;40I;40J;40K;40L;40M;40N;40O;40P;40Q;40R;40S;40T;40U;40V;40W;40X;40Y;40Z;30SMALL A",
      "40B;40C;40D;40E;40F;40G;40H;40I;40J;40K;40L;40M;40N;40O;40P;40Q;40R;40S;40T;40U;40V;40W",
      "40X;40Y;40Z;20BOLD ITALIC CAPITAL A;50B;50C;50D;50E;50F;50G;50H;50I;50J;50K;50L;50M;50N",
      "50O;50P;50Q;50R;50S;50T;50U;50V;50W;50X;50Y;50Z;40SMALL A;50B;50C;50D;50E;50F;50G;50H;50I",
      "50J;50K;50L;50M;50N;50O;50P;50Q;50R;50S;50T;50U;50V;50W;50X;50Y;50Z;10MONOSPACE CAPITAL A",
      "30B;30C;30D;30E;30F;30G;30H;30I;30J;30K;30L;30M;30N;30O;30P;30Q;30R;30S;30T;30U;30V;30W",
      "30X;30Y;30Z;20SMALL A;30B;30C;30D;30E;30F;30G;30H;30I;30J;30K;30L;30M;30N;30O;30P;30Q;30R",
      "30S;30T;30U;30V;30W;30X;30Y;30Z;10ITALIC SMALL DOTLESS I;40J"]⟩,
    ⟨0x1d6a8, [
      "00MATHEMATICAL BOLD CAPITAL ALPHA;30BETA;30GAMMA;30DELTA;30EPSILON;30ZETA;30ETA;30THETA",
      "30IOTA;30KAPPA;30LAMDA;30MU;30NU;30XI;30OMICRON;30PI;30RHO;30THETA SYMBOL;30SIGMA;30TAU",
      "30UPSILON;30PHI;30CHI;30PSI;30OMEGA;20NABLA;20SMALL ALPHA;30BETA;30GAMMA;30DELTA",
      "30EPSILON;30ZETA;30ETA;30THETA;30IOTA;30KAPPA;30LAMDA;30MU;30NU;30XI;30OMICRON;30PI;30RHO",
      "30FINAL SIGMA;31;30TAU;30UPSILON;30PHI;30CHI;30PSI;30OMEGA;20PARTIAL DIFFERENTIAL",
      "20EPSILON SYMBOL;21THETA;21KAPPA;21PHI;21RHO;21PI;10ITALIC CAPITAL ALPHA;30BETA;30GAMMA",
      "30DELTA;30EPSILON;30ZETA;30ETA;30THETA;30IOTA;30KAPPA;30LAMDA;30MU;30NU;30XI;30OMICRON",
      "30PI;30RHO;30THETA SYMBOL;30SIGMA;30TAU;30UPSILON;30PHI;30CHI;30PSI;30OMEGA;20NABLA",
      "20SMALL ALPHA;30BETA;30GAMMA;30DELTA;30EPSILON;30ZETA;30ETA;30THETA;30IOTA;30KAPPA",
      "30LAMDA;30MU;30NU;30XI;30OMICRON;30PI;30RHO;30FINAL SIGMA;31;30TAU;30UPSILON;30PHI;30CHI",
      "30PSI;30OMEGA;20PARTIAL DIFFERENTIAL;20EPSILON SYMBOL;21THETA;21KAPPA;21PHI;21RHO;21PI",
      "10BOLD ITALIC CAPITAL ALPHA;40BETA;40GAMMA;40DELTA;40EPSILON;40ZETA;40ETA;40THETA;40IOTA",
      "40KAPPA;40LAMDA;40MU;40NU;40XI;40OMICRON;40PI;40RHO;40THETA SYMBOL;40SIGMA;40TAU",
      "40UPSILON;40PHI;40CHI;40PSI;40OMEGA;30NABLA;30SMALL ALPHA;40BETA;40GAMMA;40DELTA",
      "40EPSILON;40ZETA;40ETA;40THETA;40IOTA;40KAPPA;40LAMDA;40MU;40NU;40XI;40OMICRON;40PI;40RHO",
      "40FINAL SIGMA;41;40TAU;40UPSILON;40PHI;40CHI;40PSI;40OMEGA;30PARTIAL DIFFERENTIAL",
      "30EPSILON SYMBOL;31THETA;31KAPPA;31PHI;31RHO;31PI;10SANS-SERIF BOLD CAPITAL ALPHA;40BETA",
      "40GAMMA;40DELTA;40EPSILON;40ZETA;40ETA;40THETA;40IOTA;40KAPPA;40LAMDA;40MU;40NU;40XI",
      "40OMICRON;40PI;40RHO;40THETA SYMBOL;40SIGMA;40TAU;40UPSILON;40PHI;40CHI;40PSI;40OMEGA",
      "30NABLA;30SMALL ALPHA;40BETA;40GAMMA;40DELTA;40EPSILON;40ZETA;40ETA;40THETA;40IOTA",
      "40KAPPA;40LAMDA;40MU;40NU;40XI;40OMICRON;40PI;40RHO;40FINAL SIGMA;41;40TAU;40UPSILON",
      "40PHI;40CHI;40PSI;40OMEGA;30PARTIAL DIFFERENTIAL;30EPSILON SYMBOL;31THETA;31KAPPA;31PHI",
      "31RHO;31PI;30ITALIC CAPITAL ALPHA;50BETA;50GAMMA;50DELTA;50EPSILON;50ZETA;50ETA;50THETA",
      "50IOTA;50KAPPA;50LAMDA;50MU;50NU;50XI;50OMICRON;50PI;50RHO;50THETA SYMBOL;50SIGMA;50TAU",
      "50UPSILON;50PHI;50CHI;50PSI;50OMEGA;40NABLA;40SMALL ALPHA;50BETA;50GAMMA;50DELTA",
      "50EPSILON;50ZETA;50ETA;50THETA;50IOTA;50KAPPA;50LAMDA;50MU;50NU;50XI;50OMICRON;50PI;50RHO",
      "50FINAL SIGMA;51;50TAU;50UPSILON;50PHI;50CHI;50PSI;50OMEGA;40PARTIAL DIFFERENTIAL",
      "40EPSILON SYMBOL;41THETA;41KAPPA;41PHI;41RHO;41PI;10BOLD CAPITAL DIGAMMA;21SMALL"]⟩,
    ⟨0x1d7ce, [
      "00MATHEMATICAL BOLD DIGIT ZERO;30ONE;30TWO;30THREE;30FOUR;30FIVE;30SIX;30SEVEN;30EIGHT",
      "30NINE;10DOUBLE-STRUCK DIGIT ZERO;30ONE;30TWO;30THREE;30FOUR;30FIVE;30SIX;30SEVEN;30EIGHT",
      "30NINE;10SANS-SERIF DIGIT ZERO;30ONE;30TWO;30THREE;30FOUR;30FIVE;30SIX;30SEVEN;30EIGHT",
      "30NINE;20BOLD DIGIT ZERO;40ONE;40TWO;40THREE;40FOUR;40FIVE;40SIX;40SEVEN;40EIGHT;40NINE",
      "10MONOSPACE DIGIT ZERO;30ONE;30TWO;30THREE;30FOUR;30FIVE;30SIX;30SEVEN;30EIGHT;30NINE",
      "00SIGNWRITING HAND-FIST INDEX;11HAND-CIRCLE;11HAND-CUP;11HAND-OVAL;11HAND-HINGE",
      "11HAND-ANGLE;10HAND-FIST INDEX BENT;12HAND-CIRCLE;12HAND-FIST THUMB UNDER",
      "20INDEX RAISED KNUCKLE;30CUPPED;30HINGED;40LOW;10HAND-CIRCLE INDEX HINGE",
      "10HAND-FIST INDEX MIDDLE;12HAND-CIRCLE;10HAND-FIST INDEX MIDDLE BENT;40RAISED KNUCKLES",
      "40HINGED;32UP;30HINGED MIDDLE UP;30MIDDLE CONJOINED;50INDEX BENT;51MIDDLE;50CUPPED",
      "50HINGED;40CROSSED;13HAND-CIRCLE;10HAND-FIST MIDDLE BENT OVER INDEX",
      "20INDEX BENT OVER MIDDLE;30MIDDLE THUMB;13HAND-CIRCLE",
      "10HAND-FIST INDEX MIDDLE STRAIGHT THUMB BENT;40BENT THUMB STRAIGHT;40THUMB BENT",
      "40HINGED SPREAD THUMB SIDE;32UP MIDDLE HINGED;70CONJOINED;30HINGED MIDDLE UP THUMB SIDE",
      "30MIDDLE UP SPREAD THUMB FORWARD;40THUMB CUPPED;50CIRCLED;50HOOKED;50HINGED",
      "20THUMB BETWEEN INDEX MIDDLE STRAIGHT;20INDEX MIDDLE CONJOINED THUMB SIDE;70CONJOINED",
      "70BENT;20MIDDLE THUMB HOOKED INDEX UP;21INDEX THUMB HOOKED MIDDLE",
      "30MIDDLE CONJOINED HINGED THUMB SIDE;42CROSSED;40CONJOINED THUMB FORWARD;52CUPPED",
      "20MIDDLE THUMB CUPPED INDEX UP;21INDEX THUMB CUPPED MIDDLE;21MIDDLE THUMB CIRCLED INDEX",
      "60HINGED;20INDEX THUMB ANGLED OUT MIDDLE UP;52IN;42CIRCLED",
      "30MIDDLE THUMB CONJOINED HINGED;50ANGLED OUT;60;20MIDDLE THUMB ANGLED OUT INDEX UP",
      "70CROSSED;50INDEX UP;20INDEX THUMB HOOKED MIDDLE HINGED;10HAND-FLAT FOUR FINGERS;40BENT",
      "40HINGED;40CONJOINED;50SPLIT;10HAND-CLAW FOUR FINGERS CONJOINED",
      "10HAND-FIST FOUR FINGERS CONJOINED BENT;10HAND-HINGE FOUR FINGERS CONJOINED",
      "10HAND-FLAT FIVE FINGERS SPREAD;23HEEL;20FIVE FINGERS SPREAD FOUR BENT;25HEEL",
      "21FIVE FINGERS SPREAD;24HEEL;20FIVE FINGERS SPREAD THUMB FORWARD",
      "10HAND-CUP FIVE FINGERS SPREAD;50OPEN;14HAND-HINGE;10HAND-OVAL FIVE FINGERS SPREAD",
      "10HAND-FLAT FIVE FINGERS SPREAD HINGED;60THUMB SIDE;60NO THUMB;20;20BETWEEN PALM FACINGS",
      "20HEEL;20THUMB SIDE;22HEEL;20THUMB BENT;30FORWARD;20SPLIT INDEX THUMB SIDE;30CENTRE",
      "40THUMB SIDE;60BENT;30LITTLE;10HAND-CLAW;20THUMB SIDE;20NO THUMB;20THUMB FORWARD",
      "10HAND-HOOK CURLICUE;20;10HAND-CUP OPEN;20;20OPEN THUMB SIDE;22;20OPEN NO THUMB;22",
      "20OPEN THUMB FORWARD;22;10HAND-CURLICUE OPEN;20;10HAND-CIRCLE;10HAND-OVAL;20THUMB SIDE",
      "20NO THUMB;20THUMB FORWARD;10HAND-HINGE OPEN;30THUMB FORWARD;20;20SMALL;20OPEN THUMB SIDE",
      "22;20OPEN NO THUMB;22;20THUMB SIDE TOUCHING INDEX;30BETWEEN MIDDLE RING;10HAND-ANGLE",
      "10HAND-FIST INDEX MIDDLE RING;13HAND-CIRCLE;13HAND-HINGE;13HAND-ANGLE;10HAND-HINGE LITTLE",
      "10HAND-FIST INDEX MIDDLE RING BENT;50CONJOINED;14HAND-HINGE;10HAND-FIST LITTLE DOWN",
      "40RIPPLE STRAIGHT;50CURVED;40OTHERS CIRCLED;30UP;22THUMB UNDER;12HAND-CIRCLE;12HAND-OVAL",
      "12HAND-ANGLE;10HAND-FIST LITTLE RAISED KNUCKLE;30BENT;30TOUCHES THUMB;31;12HAND-HINGE",
      "11HAND-FIST LITTLE INDEX;13HAND-HINGE;10HAND-ANGLE LITTLE INDEX THUMB INDEX THUMB OUT;70",
      "10HAND-FIST LITTLE INDEX;12HAND-CIRCLE;12HAND-HINGE;12HAND-ANGLE",
      "10HAND-FIST INDEX MIDDLE LITTLE;13HAND-CIRCLE;13HAND-HINGE;20RING",
      "10HAND-ANGLE INDEX MIDDLE LITTLE;11HAND-FIST INDEX MIDDLE CROSS;14HAND-CIRCLE",
      "10HAND-FIST RING DOWN;10HAND-HINGE RING DOWN INDEX THUMB HOOK MIDDLE",
      "10HAND-ANGLE RING DOWN MIDDLE THUMB INDEX CROSS;10HAND-FIST RING UP;30RAISED KNUCKLE",
      "30LITTLE;12HAND-CIRCLE;12HAND-OVAL;12HAND-ANGLE;10HAND-FIST RING MIDDLE;40CONJOINED",
      "40RAISED KNUCKLES;30INDEX;30THUMB;12HAND-HOOK;10HAND-FIST INDEX RING LITTLE;13HAND-CIRCLE",
      "10HAND-CURLICUE INDEX RING LITTLE ON;10HAND-HOOK INDEX RING LITTLE OUT;50IN;50UNDER",
      "10HAND-CUP INDEX RING LITTLE;13HAND-HINGE;10HAND-ANGLE INDEX RING LITTLE OUT;50",
      "10HAND-FIST MIDDLE DOWN;10HAND-HINGE MIDDLE;10HAND-FIST MIDDLE UP;12HAND-CIRCLE",
      "10HAND-FIST MIDDLE RAISED KNUCKLE;30UP THUMB SIDE;10HAND-HOOK MIDDLE THUMB",
      "10HAND-FIST MIDDLE THUMB LITTLE;31;31RING;13HAND-CIRCLE",
      "10HAND-CURLICUE MIDDLE RING LITTLE ON;10HAND-CUP MIDDLE RING LITTLE;13HAND-HINGE",
      "10HAND-ANGLE MIDDLE RING LITTLE OUT;50IN;50;10HAND-CIRCLE MIDDLE RING LITTLE BENT",
      "10HAND-CLAW MIDDLE RING LITTLE CONJOINED;60SIDE",
      "10HAND-HOOK MIDDLE RING LITTLE CONJOINED OUT;60IN;60;10HAND-HINGE INDEX HINGED",
      "10HAND-FIST INDEX THUMB SIDE;13HAND-HINGE;10HAND-FIST INDEX THUMB SIDE THUMB DIAGONAL",
      "60CONJOINED;60BENT;51INDEX;51BOTH;50INDEX HINGE;40FORWARD INDEX STRAIGHT;60BENT;40HOOK",
      "40CURLICUE;40CURVE THUMB INSIDE;15HAND-CLAW;10HAND-FIST INDEX THUMB CURVE THUMB UNDER",
      "40CIRCLE;10HAND-CUP INDEX THUMB;40OPEN;13HAND-HINGE;40LARGE;40;40SMALL",
      "10HAND-ANGLE INDEX THUMB OUT;40IN;40;11HAND-FIST;30HEEL;30SIDE DIAGONAL;40CONJOINED",
      "40BENT;30FORWARD;30BETWEEN INDEX MIDDLE;40MIDDLE RING;40RING LITTLE;30UNDER TWO FINGERS",
      "32OVER;31UNDER THREE;41FOUR;30OVER FOUR RAISED KNUCKLES;20;20HEEL;10TOUCH SINGLE",
      "20MULTIPLE;20BETWEEN;10GRASP SINGLE;20MULTIPLE;20BETWEEN;10STRIKE SINGLE;20MULTIPLE",
      "20BETWEEN;10BRUSH SINGLE;20MULTIPLE;20BETWEEN;10RUB SINGLE;20MULTIPLE;20BETWEEN",
      "10SURFACE SYMBOLS;20BETWEEN;10SQUEEZE LARGE SINGLE;21SMALL;20LARGE MULTIPLE;21SMALL",
      "20SEQUENTIAL;10FLICK LARGE SINGLE;21SMALL;20LARGE MULTIPLE;21SMALL;20SEQUENTIAL",
      "10SQUEEZE FLICK ALTERNATING;10MOVEMENT-HINGE UP DOWN LARGE;40SMALL;30SEQUENTIAL;21DOWN",
      "20UP DOWN ALTERNATING LARGE;50SMALL;20SIDE TO SIDE SCISSORS",
      "10MOVEMENT-WALLPLANE FINGER CONTACT;12MOVEMENT-FLOORPLANE",
      "10MOVEMENT-WALLPLANE SINGLE STRAIGHT SMALL;40MEDIUM;40LARGE;40LARGEST;30WRIST FLEX",
      "20DOUBLE STRAIGHT;30WRIST FLEX;30ALTERNATING;40WRIST FLEX;20CROSS",
      "20TRIPLE STRAIGHT MOVEMENT;30WRIST FLEX;30ALTERNATING;40WRIST FLEX;20BEND SMALL;30MEDIUM",
      "30LARGE;20CORNER SMALL;30MEDIUM;30LARGE;30ROTATION;20CHECK SMALL;30MEDIUM;30LARGE",
      "20BOX SMALL;30MEDIUM;30LARGE;20ZIGZAG SMALL;30MEDIUM;30LARGE;20PEAKS SMALL;30MEDIUM",
      "30LARGE;10TRAVEL-WALLPLANE ROTATION-WALLPLANE SINGLE;30DOUBLE;30ALTERNATING",
      "20ROTATION-FLOORPLANE SINGLE;30DOUBLE;30ALTERNATING;20SHAKING;20ARM SPIRAL SINGLE",
      "40DOUBLE;40TRIPLE;10MOVEMENT-DIAGONAL AWAY SMALL;30MEDIUM;30LARGE;30LARGEST",
      "20TOWARDS SMALL;30MEDIUM;30LARGE;30LARGEST;20BETWEEN AWAY SMALL;40MEDIUM;40LARGE",
      "40LARGEST;30TOWARDS SMALL;40MEDIUM;40LARGE;40LARGEST",
      "10MOVEMENT-FLOORPLANE SINGLE STRAIGHT SMALL;40MEDIUM;40LARGE;40LARGEST;30WRIST FLEX",
      "20DOUBLE STRAIGHT;30WRIST FLEX;30ALTERNATING;40WRIST FLEX;20CROSS",
      "20TRIPLE STRAIGHT MOVEMENT;30WRIST FLEX;30ALTERNATING MOVEMENT;40WRIST FLEX;20BEND",
      "20CORNER SMALL;30MEDIUM;30LARGE;20CHECK;20BOX SMALL;30MEDIUM;30LARGE;20ZIGZAG SMALL",
      "30MEDIUM;30LARGE;20PEAKS SMALL;30MEDIUM;30LARGE",
      "10TRAVEL-FLOORPLANE ROTATION-FLOORPLANE SINGLE;30DOUBLE;30ALTERNATING",
      "20ROTATION-WALLPLANE SINGLE;30DOUBLE;30ALTERNATING;20SHAKING",
      "10MOVEMENT-WALLPLANE CURVE QUARTER SMALL;40MEDIUM;40LARGE;40LARGEST;30HALF-CIRCLE SMALL",
      "40MEDIUM;40LARGE;40LARGEST;30THREE-QUARTER CIRCLE SMALL;50MEDIUM;20HUMP SMALL;30MEDIUM",
      "30LARGE;20LOOP SMALL;30MEDIUM;30LARGE;30SMALL DOUBLE;20WAVE CURVE DOUBLE SMALL;50MEDIUM",
      "50LARGE;40TRIPLE SMALL;50MEDIUM;50LARGE;20CURVE THEN STRAIGHT;20CURVED CROSS SMALL",
      "40MEDIUM;10ROTATION-WALLPLANE SINGLE;20DOUBLE;20ALTERNATE;10MOVEMENT-WALLPLANE SHAKING",
      "20CURVE HITTING FRONT WALL;23HUMP;23LOOP;23WAVE;13ROTATION-WALLPLANE SINGLE;23DOUBLE",
      "23ALTERNATING;10MOVEMENT-WALLPLANE CURVE HITTING CHEST;22HUMP;22LOOP;22WAVE",
      "12ROTATION-WALLPLANE SINGLE;22DOUBLE;22ALTERNATING",
      "10MOVEMENT-WALLPLANE WAVE DIAGONAL PATH SMALL;50MEDIUM;50LARGE",
      "10MOVEMENT-FLOORPLANE CURVE HITTING CEILING SMALL;50LARGE",
      "20HUMP HITTING CEILING SMALL DOUBLE;51LARGE;50SMALL TRIPLE;51LARGE",
      "20LOOP HITTING CEILING SMALL SINGLE;51LARGE;50SMALL DOUBLE;51LARGE",
      "20WAVE HITTING CEILING SMALL;50LARGE;10ROTATION-FLOORPLANE SINGLE HITTING CEILING",
      "22DOUBLE;22ALTERNATING;10MOVEMENT-FLOORPLANE CURVE HITTING FLOOR SMALL;50LARGE",
      "20HUMP HITTING FLOOR SMALL DOUBLE;51LARGE;50TRIPLE SMALL TRIPLE;61LARGE",
      "20LOOP HITTING FLOOR SMALL SINGLE;51LARGE;50SMALL DOUBLE;51LARGE",
      "20WAVE HITTING FLOOR SMALL;50LARGE;10ROTATION-FLOORPLANE SINGLE HITTING FLOOR;22DOUBLE",
      "22ALTERNATING;10MOVEMENT-FLOORPLANE CURVE SMALL;30MEDIUM;30LARGE;30LARGEST;30COMBINED",
      "20HUMP SMALL;21LOOP;20WAVE SNAKE;30SMALL;30LARGE;10ROTATION-FLOORPLANE SINGLE;20DOUBLE",
      "20ALTERNATING;10MOVEMENT-FLOORPLANE SHAKING PARALLEL",
      "10MOVEMENT-WALLPLANE ARM CIRCLE SMALL SINGLE;41MEDIUM;40SMALL DOUBLE;41MEDIUM",
      "10MOVEMENT-FLOORPLANE ARM CIRCLE HITTING WALL SMALL SINGLE;61MEDIUM;61LARGE",
      "60SMALL DOUBLE;61MEDIUM;61LARGE;10MOVEMENT-WALLPLANE WRIST CIRCLE FRONT SINGLE;50DOUBLE",
      "10MOVEMENT-FLOORPLANE WRIST CIRCLE HITTING WALL SINGLE;60DOUBLE",
      "10MOVEMENT-WALLPLANE FINGER CIRCLES SINGLE;40DOUBLE",
      "10MOVEMENT-FLOORPLANE FINGER CIRCLES HITTING WALL SINGLE;60DOUBLE",
      "10DYNAMIC ARROWHEAD SMALL;30LARGE;20FAST;20SLOW;20TENSE;20RELAXED;20SIMULTANEOUS",
      "30ALTERNATING;20EVERY OTHER TIME;20GRADUAL;10HEAD;20RIM;20MOVEMENT-WALLPLANE STRAIGHT",
      "30TILT;20MOVEMENT-FLOORPLANE STRAIGHT;20MOVEMENT-WALLPLANE CURVE;21MOVEMENT-FLOORPLANE",
      "20MOVEMENT CIRCLE;10FACE DIRECTION POSITION NOSE FORWARD TILTING;50UP OR DOWN;80TILTING",
      "10EYEBROWS STRAIGHT UP;30NEUTRAL;30DOWN;11DREAMY EYEBROWS NEUTRAL;30DOWN NEUTRAL;31UP",
      "30NEUTRAL UP;10FOREHEAD NEUTRAL;20CONTACT;20WRINKLED;10EYES OPEN;20SQUEEZED;20CLOSED",
      "10EYE BLINK SINGLE;30MULTIPLE;10EYES HALF OPEN;21WIDE;20HALF CLOSED;20WIDENING MOVEMENT",
      "10EYE WINK;10EYELASHES UP;20DOWN;20FLUTTERING;10EYEGAZE-WALLPLANE STRAIGHT;30DOUBLE",
      "30ALTERNATING;10EYEGAZE-FLOORPLANE STRAIGHT;30DOUBLE;30ALTERNATING",
      "10EYEGAZE-WALLPLANE CURVED;11EYEGAZE-FLOORPLANE;10EYEGAZE-WALLPLANE CIRCLING",
      "10CHEEKS PUFFED;20NEUTRAL;20SUCKED;10TENSE CHEEKS HIGH;30MIDDLE;30LOW;10EARS",
      "10NOSE NEUTRAL;20CONTACT;20WRINKLES;20WIGGLES;10AIR BLOWING OUT;20SUCKING IN",
      "20BLOW SMALL ROTATIONS;22SUCK;10BREATH INHALE;20EXHALE;10MOUTH CLOSED NEUTRAL;30FORWARD",
      "30CONTACT;20SMILE;30WRINKLED;30OPEN;20FROWN;30WRINKLED;30OPEN;20OPEN CIRCLE;30FORWARD",
      "30WRINKLED;30OVAL;40WRINKLED;40YAWN;30RECTANGLE;40WRINKLED;40YAWN;20KISS;30FORWARD",
      "30WRINKLED;20TENSE;30FORWARD;30SUCKED;10LIPS PRESSED TOGETHER;10LIP LOWER OVER UPPER",
      "20UPPER OVER LOWER;10MOUTH CORNERS;20WRINKLES SINGLE;30DOUBLE;10TONGUE STICKING OUT FAR",
      "20LICKING LIPS;21TIP BETWEEN;30TOUCHING INSIDE MOUTH;20INSIDE MOUTH RELAXED",
      "20MOVES AGAINST CHEEK;20CENTRE STICKING OUT;30INSIDE MOUTH;10TEETH;20MOVEMENT;20ON TONGUE",
      "40MOVEMENT;30LIPS;40MOVEMENT;20BITE LIPS;10MOVEMENT-WALLPLANE JAW;11MOVEMENT-FLOORPLANE",
      "10NECK;10HAIR;10EXCITEMENT;10SHOULDER HIP SPINE;30POSITIONS;10WALLPLANE SHOULDER HIP MOVE",
      "13FLOORPLANE;10SHOULDER TILTING FROM WAIST;10TORSO-WALLPLANE STRAIGHT STRETCH",
      "20CURVED BEND;10TORSO-FLOORPLANE TWISTING;10UPPER BODY TILTING FROM HIP JOINTS",
      "10LIMB COMBINATION;20LENGTH-1;20LENGTH-2;20LENGTH-3;20LENGTH-4;20LENGTH-5;20LENGTH-6",
      "20LENGTH-7;10FINGER;10LOCATION-WALLPLANE SPACE;11LOCATION-FLOORPLANE;10LOCATION HEIGHT",
      "20WIDTH;20DEPTH;20HEAD NECK;20TORSO;20LIMBS DIGITS;10COMMA;10FULL STOP;10SEMICOLON",
      "10COLON;10PARENTHESIS"]⟩,
    ⟨0x1da9b, [
      "00SIGNWRITING FILL MODIFIER-2;20MODIFIER-3;20MODIFIER-4;20MODIFIER-5;20MODIFIER-6"]⟩,
    ⟨0x1daa1, [
      "00SIGNWRITING ROTATION MODIFIER-2;20MODIFIER-3;20MODIFIER-4;20MODIFIER-5;20MODIFIER-6",
      "20MODIFIER-7;20MODIFIER-8;20MODIFIER-9;20MODIFIER-10;20MODIFIER-11;20MODIFIER-12",
      "20MODIFIER-13;20MODIFIER-14;20MODIFIER-15;20MODIFIER-16"]⟩,
    ⟨0x1df00, [
      "00LATIN SMALL LETTER FENG DIGRAPH WITH TRILL;30REVERSED SCRIPT G",
      "11LETTER SMALL CAPITAL TURNED;10SMALL LETTER REVERSED K",
      "10LETTER SMALL CAPITAL L WITH BELT;10SMALL LETTER LEZH WITH RETROFLEX HOOK",
      "30TURNED Y WITH BELT;30REVERSED ENG;30TURNED R WITH LONG LEG AND RETROFLEX HOOK",
      "33T WITH HOOK;12LETTER RETROFLEX CLICK WITH;10SMALL LETTER ESH WITH DOUBLE BAR;70AND CURL",
      "31TURNED T WITH;12LETTER INVERTED GLOTTAL STOP;22STRETCHED C;20SMALL CAPITAL TURNED K",
      "10SMALL LETTER L WITH FISHHOOK;30DEZH DIGRAPH WITH PALATAL HOOK;32L WITH BELT AND",
      "32ENG WITH;33TURNED R;32R WITH FISHHOOK AND;32TESH DIGRAPH WITH;33EZH",
      "31DEZH DIGRAPH WITH RETROFLEX;32I WITH STROKE AND;32O WITH;33TESH DIGRAPH;33C",
      "30S WITH CURL"]⟩,
    ⟨0x1e000, [
      "00COMBINING GLAGOLITIC LETTER AZU;30BUKY;30VEDE;30GLAGOLI;30DOBRO;30YESTU;30ZHIVETE"]⟩,
    ⟨0x1e008, [
      "00COMBINING GLAGOLITIC LETTER ZEMLJA;30IZHE;31INITIAL;30I;30DJERVI;30KAKO;30LJUDIJE",
      "30MYSLITE;30NASHI;30ONU;30POKOJI;30RITSI;30SLOVO;30TVRIDO;30UKU;30FRITU;30HERU"]⟩,
    ⟨0x1e01b, ["00COMBINING GLAGOLITIC LETTER SHTA;30TSI;30CHRIVI;30SHA;30YERU;30YERI;30YATI"]⟩,
    ⟨0x1e023, ["00COMBINING GLAGOLITIC LETTER YU;30SMALL YUS"]⟩,
    ⟨0x1e026, ["00COMBINING GLAGOLITIC LETTER YO;30IOTATED SMALL YUS;31BIG;32IOTATED;30FITA"]⟩,
    ⟨0x1e100, [
      "00NYIAKENG PUACHUE HMONG LETTER MA;40TSA;40NTA;40TA;40HA;40NA;40XA;40NKA;40CA;40LA;40SA",
      "40ZA;40NCA;40NTSA;40KA;40DA;40NYA;40NRA;40VA;40NTXA;40TXA;40FA;40RA;40QA;40YA;40NQA;40PA",
      "40XYA;40NPA;40DLA;40NPLA;40HAH;40MLA;40PLA;40GA;40RRA;40A;40AA;40I;40U;40O;40OO;40E;40EE",
      "40W"]⟩,
    ⟨0x1e130, [
      "00NYIAKENG PUACHUE HMONG TONE-B;30TONE-M;30TONE-J;30TONE-V;30TONE-S;30TONE-G;30TONE-D",
      "30SIGN FOR PERSON;50THING;50LOCATION;50ANIMAL;50INVERTEBRATE;40XW XW",
      "30SYLLABLE LENGTHENER"]⟩,
    ⟨0x1e140, [
      "00NYIAKENG PUACHUE HMONG DIGIT ZERO;40ONE;40TWO;40THREE;40FOUR;40FIVE;40SIX;40SEVEN",
      "40EIGHT;40NINE"]⟩,
    ⟨0x1e14e, ["00NYIAKENG PUACHUE HMONG LOGOGRAM NYAJ;30CIRCLED CA"]⟩,
    ⟨0x1e290, [
      "00TOTO LETTER PA;20BA;20TA;20DA;20KA;20GA;20MA;20NA;20NGA;20SA;20CHA;20YA;20WA;20JA;20HA",
      "20RA;20LA;20I;21BREATHY;20IU;21BREATHY;20U;20E;21BREATHY;20EO;21BREATHY;20O;20AE",
      "21BREATHY;20A;10SIGN RISING TONE"]⟩,
    ⟨0x1e2c0, [
      "00WANCHO LETTER AA;20A;20BA;20CA;20DA;20GA;20YA;20PHA;20LA;20NA;20PA;20TA;20THA;20FA;20SA",
      "20SHA;20JA;20ZA;20WA;20VA;20KA;20O;20AU;20RA;20MA;20KHA;20HA;20E;20I;20NGA;20U;20LLHA",
      "20TSA;20TRA;20ONG;20AANG;20ANG;20ING;20ON;20EN;20AAN;20NYA;20UEN;20YIH;10TONE TUP;20TUPNI",
      "20KOI;20KOINI;10DIGIT ZERO;20ONE;20TWO;20THREE;20FOUR;20FIVE;20SIX;20SEVEN;20EIGHT;20NINE"]⟩,
    ⟨0x1e2ff, ["00WANCHO NGUN SIGN"]⟩,
    ⟨0x1e7e0, ["00ETHIOPIC SYLLABLE HHYA;20HHYU;20HHYI;20HHYAA;20HHYEE;20HHYE;20HHYO"]⟩,
    ⟨0x1e7e8, ["00ETHIOPIC SYLLABLE GURAGE HHWA;20HHWI;20HHWEE;20HHWE"]⟩,
    ⟨0x1e7ed, ["00ETHIOPIC SYLLABLE GURAGE MWI;30MWEE"]⟩,
    ⟨0x1e7f0, [
      "00ETHIOPIC SYLLABLE GURAGE QWI;30QWEE;30QWE;30BWI;30BWEE;30KWI;30KWEE;30KWE;30GWI;30GWEE",
      "30GWE;30FWI;30FWEE;30PWI;30PWEE"]⟩,
    ⟨0x1e800, [
      "00MENDE KIKAKUI SYLLABLE M001 KI;30M002 KA;30M003 KU;30M065 KEE;30M095 KE;30M076 KOO",
      "30M048 KO;30M179 KUA;30M004 WI;30M005 WA;30M006 WU;30M126 WEE;30M118 WE;30M114 WOO",
      "30M045 WO;30M194 WUI;30M143 WEI;30M061 WVI;30M049 WVA;30M139 WVE;30M007 MIN;30M008 MAN",
      "30M009 MUN;30M059 MEN;30M094 MON;30M154 MUAN;30M189 MUEN;30M010 BI;30M011 BA;30M012 BU",
      "30M150 BEE;30M097 BE;30M103 BOO;30M138 BO;30M013 I;30M014 A;30M015 U;30M163 EE;30M100 E",
      "30M165 OO;30M147 O;30M137 EI;30M131 IN;31M135;30M195 AN;30M178 EN;30M019 SI;30M020 SA",
      "30M021 SU;30M162 SEE;30M116 SE;30M136 SOO;30M079 SO;30M196 SIA;30M025 LI;30M026 LA",
      "30M027 LU;30M084 LEE;30M073 LE;30M054 LOO;30M153 LO;30M110 LONG LE;30M016 DI;30M017 DA",
      "30M018 DU;30M089 DEE;30M180 DOO;30M181 DO;30M022 TI;30M023 TA;30M024 TU;30M091 TEE",
      "30M055 TE;30M104 TOO;30M069 TO;30M028 JI;30M029 JA;30M030 JU;30M157 JEE;30M113 JE",
      "30M160 JOO;30M063 JO;31M175 LONG;30M031 YI;30M032 YA;30M033 YU;30M109 YEE;30M080 YE",
      "30M141 YOO;30M121 YO;30M034 FI;30M035 FA;30M036 FU;30M078 FEE;30M075 FE;30M133 FOO",
      "30M088 FO;30M197 FUA;30M101 FAN;30M037 NIN;30M038 NAN;30M039 NUN;30M117 NEN;30M169 NON",
      "30M176 HI;30M041 HA;30M186 HU;30M040 HEE;30M096 HE;30M042 HOO;30M140 HO;30M083 HEEI",
      "30M128 HOOU;30M053 HIN;30M130 HAN;30M087 HUN;30M052 HEN;30M193 HON;30M046 HUAN",
      "30M090 NGGI;30M043 NGGA;30M082 NGGU;30M115 NGGEE;30M146 NGGE;30M156 NGGOO;30M120 NGGO",
      "30M159 NGGAA;30M127 NGGUA;30M086 LONG NGGE;30M106 LONG NGGOO;30M183 LONG NGGO;30M155 GI",
      "30M111 GA;30M168 GU;30M190 GEE;30M166 GUEI;30M167 GUAN;30M184 NGEN;30M057 NGON",
      "30M177 NGUAN;30M068 PI;30M099 PA;30M050 PU;30M081 PEE;30M051 PE;30M102 POO;30M066 PO",
      "30M145 MBI;30M062 MBA;30M122 MBU;30M047 MBEE;31M188;30M072 MBE;30M172 MBOO;30M174 MBO",
      "30M187 MBUU;30M161 LONG MBE;30M105 LONG MBOO;30M142 LONG MBO;30M132 KPI;30M092 KPA",
      "30M074 KPU;30M044 KPEE;30M108 KPE;30M112 KPOO;30M158 KPO;30M124 GBI;30M056 GBA;30M148 GBU",
      "30M093 GBEE;30M107 GBE;30M071 GBOO;30M070 GBO;30M171 RA;30M123 NDI;30M129 NDA;30M125 NDU",
      "30M191 NDEE;30M119 NDE;30M067 NDOO;30M064 NDO;30M152 NJA;30M192 NJU;30M149 NJEE",
      "30M134 NJOO;30M182 VI;30M185 VA;30M151 VU;30M173 VEE;30M085 VE;30M144 VOO;30M077 VO",
      "30M164 NYIN;30M058 NYAN;30M170 NYUN;30M098 NYEN;30M060 NYON"]⟩,
    ⟨0x1e8c7, [
      "00MENDE KIKAKUI DIGIT ONE;30TWO;30THREE;30FOUR;30FIVE;30SIX;30SEVEN;30EIGHT;30NINE",
      "20COMBINING NUMBER TEENS;40TENS;40HUNDREDS;40THOUSANDS;41TEN;41HUNDRED;40MILLIONS"]⟩,
    ⟨0x1e900, [
      "00ADLAM CAPITAL LETTER ALIF;30DAALI;30LAAM;30MIIM;30BA;30SINNYIIYHE;30PE;30BHE;30RA;30E",
      "30FA;30I;30O;30DHA;30YHE;30WAW;30NUN;30KAF;30YA;30U;30JIIM;30CHI;30HA;30QAAF;30GA;30NYA",
      "30TU;30NHA;30VA;30KHA;30GBE;30ZAL;30KPO;30SHA;10SMALL LETTER ALIF;30DAALI;30LAAM;30MIIM",
      "30BA;30SINNYIIYHE;30PE;30BHE;30RA;30E;30FA;30I;30O;30DHA;30YHE;30WAW;30NUN;30KAF;30YA;30U",
      "30JIIM;30CHI;30HA;30QAAF;30GA;30NYA;30TU;30NHA;30VA;30KHA;30GBE;30ZAL;30KPO;30SHA",
      "10ALIF LENGTHENER;11VOWEL;10GEMINATION MARK;10HAMZA;10CONSONANT MODIFIER;12GEMINATE",
      "10NUKTA;10NASALIZATION MARK"]⟩,
    ⟨0x1e950, [
      "00ADLAM DIGIT ZERO;20ONE;20TWO;20THREE;20FOUR;20FIVE;20SIX;20SEVEN;20EIGHT;20NINE"]⟩,
    ⟨0x1e95e, ["00ADLAM INITIAL EXCLAMATION MARK;21QUESTION"]⟩,
    ⟨0x1ec71, [
      "00INDIC SIYAQ NUMBER ONE;30TWO;30THREE;30FOUR;30FIVE;30SIX;30SEVEN;30EIGHT;30NINE;30TEN",
      "30TWENTY;30THIRTY;30FORTY;30FIFTY;30SIXTY;30SEVENTY;30EIGHTY;30NINETY;30ONE HUNDRED;31TWO",
      "31THREE;31FOUR;31FIVE;31SIX;31SEVEN;31EIGHT;31NINE;30ONE THOUSAND;31TWO;31THREE;31FOUR",
      "31FIVE;31SIX;31SEVEN;31EIGHT;31NINE;31TEN;31TWENTY;31THIRTY;31FORTY;31FIFTY;31SIXTY",
      "31SEVENTY;31EIGHTY;31NINETY;30LAKH;30LAKHAN;20LAKH MARK;20NUMBER KAROR;30KARORAN",
      "30PREFIXED ONE;40TWO;40THREE;40FOUR;40FIVE;40SIX;40SEVEN;40EIGHT;40NINE;20PLACEHOLDER",
      "20FRACTION ONE QUARTER;40HALF;30THREE QUARTERS;20RUPEE MARK;20NUMBER ALTERNATE ONE;40TWO",
      "40TEN THOUSAND;20ALTERNATE LAKH MARK"]⟩,
    ⟨0x1ed01, [
      "00OTTOMAN SIYAQ NUMBER ONE;30TWO;30THREE;30FOUR;30FIVE;30SIX;30SEVEN;30EIGHT;30NINE;30TEN",
      "30TWENTY;30THIRTY;30FORTY;30FIFTY;30SIXTY;30SEVENTY;30EIGHTY;30NINETY;30ONE HUNDRED;31TWO",
      "31THREE;31FOUR;31FIVE;31SIX;31SEVEN;31EIGHT;31NINE;30ONE THOUSAND;31TWO;31THREE;31FOUR",
      "31FIVE;31SIX;31SEVEN;31EIGHT;31NINE;31TEN;31TWENTY;31THIRTY;31FORTY;31FIFTY;31SIXTY",
      "31SEVENTY;31EIGHTY;31NINETY;20MARRATAN;20ALTERNATE NUMBER TWO;40THREE;40FOUR;40FIVE;40SIX",
      "40SEVEN;40EIGHT;40NINE;40TEN;40FOUR HUNDRED;41SIX;40TWO THOUSAND;41TEN",
      "20FRACTION ONE HALF;40SIXTH"]⟩,
    ⟨0x1ee00, ["00ARABIC MATHEMATICAL ALEF;20BEH;20JEEM;20DAL"]⟩,
    ⟨0x1ee05, [
      "00ARABIC MATHEMATICAL WAW;20ZAIN;20HAH;20TAH;20YEH;20KAF;20LAM;20MEEM;20NOON;20SEEN;20AIN",
      "20FEH;20SAD;20QAF;20REH;20SHEEN;20TEH;20THEH;20KHAH;20THAL;20DAD;20ZAH;20GHAIN",
      "20DOTLESS BEH;30NOON;30FEH;30QAF"]⟩,
    ⟨0x1ee21, ["00ARABIC MATHEMATICAL INITIAL BEH;30JEEM"]⟩,
    ⟨0x1ee24, ["00ARABIC MATHEMATICAL INITIAL HEH"]⟩,
    ⟨0x1ee27, ["00ARABIC MATHEMATICAL INITIAL HAH"]⟩,
    ⟨0x1ee29, [
      "00ARABIC MATHEMATICAL INITIAL YEH;30KAF;30LAM;30MEEM;30NOON;30SEEN;30AIN;30FEH;30SAD",
      "30QAF"]⟩,
    ⟨0x1ee34, ["00ARABIC MATHEMATICAL INITIAL SHEEN;30TEH;30THEH;30KHAH"]⟩,
    ⟨0x1ee39, ["00ARABIC MATHEMATICAL INITIAL DAD"]⟩,
    ⟨0x1ee3b, ["00ARABIC MATHEMATICAL INITIAL GHAIN"]⟩,
    ⟨0x1ee42, ["00ARABIC MATHEMATICAL TAILED JEEM"]⟩,
    ⟨0x1ee47, ["00ARABIC MATHEMATICAL TAILED HAH"]⟩,
    ⟨0x1ee49, ["00ARABIC MATHEMATICAL TAILED YEH"]⟩,
    ⟨0x1ee4b, ["00ARABIC MATHEMATICAL TAILED LAM"]⟩,
    ⟨0x1ee4d, ["00ARABIC MATHEMATICAL TAILED NOON;30SEEN;30AIN"]⟩,
    ⟨0x1ee51, ["00ARABIC MATHEMATICAL TAILED SAD;30QAF"]⟩,
    ⟨0x1ee54, ["00ARABIC MATHEMATICAL TAILED SHEEN"]⟩,
    ⟨0x1ee57, ["00ARABIC MATHEMATICAL TAILED KHAH"]⟩,
    ⟨0x1ee59, ["00ARABIC MATHEMATICAL TAILED DAD"]⟩,
    ⟨0x1ee5b, ["00ARABIC MATHEMATICAL TAILED GHAIN"]⟩,
    ⟨0x1ee5d, ["00ARABIC MATHEMATICAL TAILED DOTLESS NOON"]⟩,
    ⟨0x1ee5f, ["00ARABIC MATHEMATICAL TAILED DOTLESS QAF"]⟩,
    ⟨0x1ee61, ["00ARABIC MATHEMATICAL STRETCHED BEH;30JEEM"]⟩,
    ⟨0x1ee64, ["00ARABIC MATHEMATICAL STRETCHED HEH"]⟩,
    ⟨0x1ee67, ["00ARABIC MATHEMATICAL STRETCHED HAH;30TAH;30YEH;30KAF"]⟩,
    ⟨0x1ee6c, ["00ARABIC MATHEMATICAL STRETCHED MEEM;30NOON;30SEEN;30AIN;30FEH;30SAD;30QAF"]⟩,
    ⟨0x1ee74, ["00ARABIC MATHEMATICAL STRETCHED SHEEN;30TEH;30THEH;30KHAH"]⟩,
    ⟨0x1ee79, ["00ARABIC MATHEMATICAL STRETCHED DAD;30ZAH;30GHAIN;30DOTLESS BEH"]⟩,
    ⟨0x1ee7e, ["00ARABIC MATHEMATICAL STRETCHED DOTLESS FEH"]⟩,
    ⟨0x1ee80, [
      "00ARABIC MATHEMATICAL LOOPED ALEF;30BEH;30JEEM;30DAL;30HEH;30WAW;30ZAIN;30HAH;30TAH;30YEH"]⟩,
    ⟨0x1ee8b, [
      "00ARABIC MATHEMATICAL LOOPED LAM;30MEEM;30NOON;30SEEN;30AIN;30FEH;30SAD;30QAF;30REH",
      "30SHEEN;30TEH;30THEH;30KHAH;30THAL;30DAD;30ZAH;30GHAIN"]⟩,
    ⟨0x1eea1, ["00ARABIC MATHEMATICAL DOUBLE-STRUCK BEH;30JEEM;30DAL"]⟩,
    ⟨0x1eea5, ["00ARABIC MATHEMATICAL DOUBLE-STRUCK WAW;30ZAIN;30HAH;30TAH;30YEH"]⟩,
    ⟨0x1eeab, [
      "00ARABIC MATHEMATICAL DOUBLE-STRUCK LAM;30MEEM;30NOON;30SEEN;30AIN;30FEH;30SAD;30QAF",
      "30REH;30SHEEN;30TEH;30THEH;30KHAH;30THAL;30DAD;30ZAH;30GHAIN"]⟩,
    ⟨0x1eef0, ["00ARABIC MATHEMATICAL OPERATOR MEEM WITH HAH WITH TATWEEL;30HAH WITH DAL"]⟩]

end SafeFetch.Text.CharacterName
