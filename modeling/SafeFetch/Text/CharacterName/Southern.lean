import SafeFetch.Text.CharacterName.Basic

/-!
# The names of the southern scripts

The characters from 0900 on: the scripts of southern Asia, of the islands and of Africa.
-/

namespace SafeFetch.Text.CharacterName

/-- The names of the southern scripts. -/
def southern : List Run :=
  [
    ⟨0x900, [
      "00DEVANAGARI SIGN INVERTED CANDRABINDU;21;20ANUSVARA;20VISARGA;10LETTER SHORT A;21;20AA",
      "20I;20II;20U;20UU;20VOCALIC R;30L;20CANDRA E;21SHORT;21;20AI;20CANDRA O;21SHORT;21;20AU",
      "20KA;20KHA;20GA;20GHA;20NGA;20CA;20CHA;20JA;20JHA;20NYA;20TTA;20TTHA;20DDA;20DDHA;20NNA",
      "20TA;20THA;20DA;20DHA;20NA;20NNNA;20PA;20PHA;20BA;20BHA;20MA;20YA;20RA;20RRA;20LA;20LLA",
      "20LLLA;20VA;20SHA;20SSA;20SA;20HA;10VOWEL SIGN OE;30OOE;10SIGN NUKTA;20AVAGRAHA",
      "10VOWEL SIGN AA;30I;30II;30U;30UU;30VOCALIC R;40RR;30CANDRA E;31SHORT;31;30AI;30CANDRA O",
      "31SHORT;31;30AU;10SIGN VIRAMA;10VOWEL SIGN PRISHTHAMATRA E;30AW;10OM;10STRESS SIGN UDATTA",
      "30ANUDATTA;10GRAVE ACCENT;11ACUTE;10VOWEL SIGN CANDRA LONG E;30UE;30UUE;10LETTER QA",
      "20KHHA;20GHHA;20ZA;20DDDHA;20RHA;20FA;20YYA;20VOCALIC RR;30LL;10VOWEL SIGN VOCALIC L;40LL",
      "10DANDA;11DOUBLE;10DIGIT ZERO;20ONE;20TWO;20THREE;20FOUR;20FIVE;20SIX;20SEVEN;20EIGHT",
      "20NINE;10ABBREVIATION SIGN;10SIGN HIGH SPACING DOT;10LETTER CANDRA A;20OE;20OOE;20AW;20UE",
      "20UUE;20MARWARI DDA;20ZHA;20HEAVY YA;20GGA;20JJA;20GLOTTAL STOP;20DDDA;20BBA",
      "00BENGALI ANJI;10SIGN CANDRABINDU;20ANUSVARA;20VISARGA"]⟩,
    ⟨0x985, ["00BENGALI LETTER A;20AA;20I;20II;20U;20UU;20VOCALIC R;30L"]⟩,
    ⟨0x98f, ["00BENGALI LETTER E;20AI"]⟩,
    ⟨0x993, [
      "00BENGALI LETTER O;20AU;20KA;20KHA;20GA;20GHA;20NGA;20CA;20CHA;20JA;20JHA;20NYA;20TTA",
      "20TTHA;20DDA;20DDHA;20NNA;20TA;20THA;20DA;20DHA;20NA"]⟩,
    ⟨0x9aa, ["00BENGALI LETTER PA;20PHA;20BA;20BHA;20MA;20YA;20RA"]⟩,
    ⟨0x9b2, ["00BENGALI LETTER LA"]⟩, ⟨0x9b6, ["00BENGALI LETTER SHA;20SSA;20SA;20HA"]⟩,
    ⟨0x9bc, ["00BENGALI SIGN NUKTA;20AVAGRAHA;10VOWEL SIGN AA;30I;30II;30U;30UU;30VOCALIC R;40RR"]⟩,
    ⟨0x9c7, ["00BENGALI VOWEL SIGN E;30AI"]⟩,
    ⟨0x9cb, ["00BENGALI VOWEL SIGN O;30AU;10SIGN VIRAMA;10LETTER KHANDA TA"]⟩,
    ⟨0x9d7, ["00BENGALI AU LENGTH MARK"]⟩, ⟨0x9dc, ["00BENGALI LETTER RRA;20RHA"]⟩,
    ⟨0x9df, ["00BENGALI LETTER YYA;20VOCALIC RR;30LL;10VOWEL SIGN VOCALIC L;40LL"]⟩,
    ⟨0x9e6, [
      "00BENGALI DIGIT ZERO;20ONE;20TWO;20THREE;20FOUR;20FIVE;20SIX;20SEVEN;20EIGHT;20NINE",
      "10LETTER RA WITH MIDDLE DIAGONAL;41LOWER;10RUPEE MARK;20SIGN;10CURRENCY NUMERATOR ONE",
      "30TWO;30THREE;30FOUR;30ONE LESS THAN THE DENOMINATOR;20DENOMINATOR SIXTEEN;10ISSHAR",
      "10GANDA MARK;10LETTER VEDIC ANUSVARA;10ABBREVIATION SIGN;10SANDHI MARK"]⟩,
    ⟨0xa01, ["00GURMUKHI SIGN ADAK BINDI;21;20VISARGA"]⟩,
    ⟨0xa05, ["00GURMUKHI LETTER A;20AA;20I;20II;20U;20UU"]⟩, ⟨0xa0f, ["00GURMUKHI LETTER EE;20AI"]⟩,
    ⟨0xa13, [
      "00GURMUKHI LETTER OO;20AU;20KA;20KHA;20GA;20GHA;20NGA;20CA;20CHA;20JA;20JHA;20NYA;20TTA",
      "20TTHA;20DDA;20DDHA;20NNA;20TA;20THA;20DA;20DHA;20NA"]⟩,
    ⟨0xa2a, ["00GURMUKHI LETTER PA;20PHA;20BA;20BHA;20MA;20YA;20RA"]⟩,
    ⟨0xa32, ["00GURMUKHI LETTER LA;20LLA"]⟩, ⟨0xa35, ["00GURMUKHI LETTER VA;20SHA"]⟩,
    ⟨0xa38, ["00GURMUKHI LETTER SA;20HA"]⟩, ⟨0xa3c, ["00GURMUKHI SIGN NUKTA"]⟩,
    ⟨0xa3e, ["00GURMUKHI VOWEL SIGN AA;30I;30II;30U;30UU"]⟩,
    ⟨0xa47, ["00GURMUKHI VOWEL SIGN EE;30AI"]⟩,
    ⟨0xa4b, ["00GURMUKHI VOWEL SIGN OO;30AU;10SIGN VIRAMA"]⟩, ⟨0xa51, ["00GURMUKHI SIGN UDAAT"]⟩,
    ⟨0xa59, ["00GURMUKHI LETTER KHHA;20GHHA;20ZA;20RRA"]⟩, ⟨0xa5e, ["00GURMUKHI LETTER FA"]⟩,
    ⟨0xa66, [
      "00GURMUKHI DIGIT ZERO;20ONE;20TWO;20THREE;20FOUR;20FIVE;20SIX;20SEVEN;20EIGHT;20NINE",
      "10TIPPI;10ADDAK;10IRI;10URA;10EK ONKAR;10SIGN YAKASH;10ABBREVIATION SIGN"]⟩,
    ⟨0xa81, ["00GUJARATI SIGN CANDRABINDU;20ANUSVARA;20VISARGA"]⟩,
    ⟨0xa85, ["00GUJARATI LETTER A;20AA;20I;20II;20U;20UU;20VOCALIC R;30L;10VOWEL CANDRA E"]⟩,
    ⟨0xa8f, ["00GUJARATI LETTER E;20AI;10VOWEL CANDRA O"]⟩,
    ⟨0xa93, [
      "00GUJARATI LETTER O;20AU;20KA;20KHA;20GA;20GHA;20NGA;20CA;20CHA;20JA;20JHA;20NYA;20TTA",
      "20TTHA;20DDA;20DDHA;20NNA;20TA;20THA;20DA;20DHA;20NA"]⟩,
    ⟨0xaaa, ["00GUJARATI LETTER PA;20PHA;20BA;20BHA;20MA;20YA;20RA"]⟩,
    ⟨0xab2, ["00GUJARATI LETTER LA;20LLA"]⟩,
    ⟨0xab5, ["00GUJARATI LETTER VA;20SHA;20SSA;20SA;20HA"]⟩,
    ⟨0xabc, [
      "00GUJARATI SIGN NUKTA;20AVAGRAHA;10VOWEL SIGN AA;30I;30II;30U;30UU;30VOCALIC R;40RR",
      "30CANDRA E"]⟩,
    ⟨0xac7, ["00GUJARATI VOWEL SIGN E;30AI;30CANDRA O"]⟩,
    ⟨0xacb, ["00GUJARATI VOWEL SIGN O;30AU;10SIGN VIRAMA"]⟩, ⟨0xad0, ["00GUJARATI OM"]⟩,
    ⟨0xae0, ["00GUJARATI LETTER VOCALIC RR;30LL;10VOWEL SIGN VOCALIC L;40LL"]⟩,
    ⟨0xae6, [
      "00GUJARATI DIGIT ZERO;20ONE;20TWO;20THREE;20FOUR;20FIVE;20SIX;20SEVEN;20EIGHT;20NINE",
      "10ABBREVIATION SIGN;11RUPEE"]⟩,
    ⟨0xaf9, [
      "00GUJARATI LETTER ZHA;10SIGN SUKUN;20SHADDA;20MADDAH;20THREE-DOT NUKTA ABOVE;22CIRCLE",
      "22TWO-CIRCLE"]⟩,
    ⟨0xb01, ["00ORIYA SIGN CANDRABINDU;20ANUSVARA;20VISARGA"]⟩,
    ⟨0xb05, ["00ORIYA LETTER A;20AA;20I;20II;20U;20UU;20VOCALIC R;30L"]⟩,
    ⟨0xb0f, ["00ORIYA LETTER E;20AI"]⟩,
    ⟨0xb13, [
      "00ORIYA LETTER O;20AU;20KA;20KHA;20GA;20GHA;20NGA;20CA;20CHA;20JA;20JHA;20NYA;20TTA",
      "20TTHA;20DDA;20DDHA;20NNA;20TA;20THA;20DA;20DHA;20NA"]⟩,
    ⟨0xb2a, ["00ORIYA LETTER PA;20PHA;20BA;20BHA;20MA;20YA;20RA"]⟩,
    ⟨0xb32, ["00ORIYA LETTER LA;20LLA"]⟩, ⟨0xb35, ["00ORIYA LETTER VA;20SHA;20SSA;20SA;20HA"]⟩,
    ⟨0xb3c, ["00ORIYA SIGN NUKTA;20AVAGRAHA;10VOWEL SIGN AA;30I;30II;30U;30UU;30VOCALIC R;40RR"]⟩,
    ⟨0xb47, ["00ORIYA VOWEL SIGN E;30AI"]⟩, ⟨0xb4b, ["00ORIYA VOWEL SIGN O;30AU;10SIGN VIRAMA"]⟩,
    ⟨0xb55, ["00ORIYA SIGN OVERLINE;10AI LENGTH MARK;12AU"]⟩, ⟨0xb5c, ["00ORIYA LETTER RRA;20RHA"]⟩,
    ⟨0xb5f, ["00ORIYA LETTER YYA;20VOCALIC RR;30LL;10VOWEL SIGN VOCALIC L;40LL"]⟩,
    ⟨0xb66, [
      "00ORIYA DIGIT ZERO;20ONE;20TWO;20THREE;20FOUR;20FIVE;20SIX;20SEVEN;20EIGHT;20NINE",
      "10ISSHAR;10LETTER WA;10FRACTION ONE QUARTER;30HALF;20THREE QUARTERS;20ONE SIXTEENTH",
      "30EIGHTH;20THREE SIXTEENTHS"]⟩,
    ⟨0xb82, ["00TAMIL SIGN ANUSVARA;20VISARGA"]⟩,
    ⟨0xb85, ["00TAMIL LETTER A;20AA;20I;20II;20U;20UU"]⟩, ⟨0xb8e, ["00TAMIL LETTER E;20EE;20AI"]⟩,
    ⟨0xb92, ["00TAMIL LETTER O;20OO;20AU;20KA"]⟩, ⟨0xb99, ["00TAMIL LETTER NGA;20CA"]⟩,
    ⟨0xb9c, ["00TAMIL LETTER JA"]⟩, ⟨0xb9e, ["00TAMIL LETTER NYA;20TTA"]⟩,
    ⟨0xba3, ["00TAMIL LETTER NNA;20TA"]⟩, ⟨0xba8, ["00TAMIL LETTER NA;20NNNA;20PA"]⟩,
    ⟨0xbae, ["00TAMIL LETTER MA;20YA;20RA;20RRA;20LA;20LLA;20LLLA;20VA;20SHA;20SSA;20SA;20HA"]⟩,
    ⟨0xbbe, ["00TAMIL VOWEL SIGN AA;30I;30II;30U;30UU"]⟩,
    ⟨0xbc6, ["00TAMIL VOWEL SIGN E;30EE;30AI"]⟩,
    ⟨0xbca, ["00TAMIL VOWEL SIGN O;30OO;30AU;10SIGN VIRAMA"]⟩, ⟨0xbd0, ["00TAMIL OM"]⟩,
    ⟨0xbd7, ["00TAMIL AU LENGTH MARK"]⟩,
    ⟨0xbe6, [
      "00TAMIL DIGIT ZERO;20ONE;20TWO;20THREE;20FOUR;20FIVE;20SIX;20SEVEN;20EIGHT;20NINE",
      "10NUMBER TEN;20ONE HUNDRED;30THOUSAND;10DAY SIGN;11MONTH;11YEAR;11DEBIT;11CREDIT",
      "11AS ABOVE;11RUPEE;11NUMBER"]⟩,
    ⟨0xc00, [
      "00TELUGU SIGN COMBINING CANDRABINDU ABOVE;20CANDRABINDU;20ANUSVARA;20VISARGA",
      "20COMBINING ANUSVARA ABOVE;10LETTER A;20AA;20I;20II;20U;20UU;20VOCALIC R;30L"]⟩,
    ⟨0xc0e, ["00TELUGU LETTER E;20EE;20AI"]⟩,
    ⟨0xc12, [
      "00TELUGU LETTER O;20OO;20AU;20KA;20KHA;20GA;20GHA;20NGA;20CA;20CHA;20JA;20JHA;20NYA;20TTA",
      "20TTHA;20DDA;20DDHA;20NNA;20TA;20THA;20DA;20DHA;20NA"]⟩,
    ⟨0xc2a, [
      "00TELUGU LETTER PA;20PHA;20BA;20BHA;20MA;20YA;20RA;20RRA;20LA;20LLA;20LLLA;20VA;20SHA",
      "20SSA;20SA;20HA"]⟩,
    ⟨0xc3c, ["00TELUGU SIGN NUKTA;20AVAGRAHA;10VOWEL SIGN AA;30I;30II;30U;30UU;30VOCALIC R;40RR"]⟩,
    ⟨0xc46, ["00TELUGU VOWEL SIGN E;30EE;30AI"]⟩,
    ⟨0xc4a, ["00TELUGU VOWEL SIGN O;30OO;30AU;10SIGN VIRAMA"]⟩,
    ⟨0xc55, ["00TELUGU LENGTH MARK;12AI"]⟩, ⟨0xc58, ["00TELUGU LETTER TSA;20DZA;20RRRA"]⟩,
    ⟨0xc5d, ["00TELUGU LETTER NAKAARA POLLU"]⟩,
    ⟨0xc60, ["00TELUGU LETTER VOCALIC RR;30LL;10VOWEL SIGN VOCALIC L;40LL"]⟩,
    ⟨0xc66, ["00TELUGU DIGIT ZERO;20ONE;20TWO;20THREE;20FOUR;20FIVE;20SIX;20SEVEN;20EIGHT;20NINE"]⟩,
    ⟨0xc77, [
      "00TELUGU SIGN SIDDHAM;10FRACTION DIGIT ZERO FOR ODD POWERS OF FOUR;35ONE;35TWO;35THREE",
      "33ONE FOR EVEN;35TWO;35THREE;10SIGN TUUMU;00KANNADA SIGN SPACING CANDRABINDU;21",
      "20ANUSVARA;20VISARGA;20SIDDHAM;10LETTER A;20AA;20I;20II;20U;20UU;20VOCALIC R;30L"]⟩,
    ⟨0xc8e, ["00KANNADA LETTER E;20EE;20AI"]⟩,
    ⟨0xc92, [
      "00KANNADA LETTER O;20OO;20AU;20KA;20KHA;20GA;20GHA;20NGA;20CA;20CHA;20JA;20JHA;20NYA",
      "20TTA;20TTHA;20DDA;20DDHA;20NNA;20TA;20THA;20DA;20DHA;20NA"]⟩,
    ⟨0xcaa, ["00KANNADA LETTER PA;20PHA;20BA;20BHA;20MA;20YA;20RA;20RRA;20LA;20LLA"]⟩,
    ⟨0xcb5, ["00KANNADA LETTER VA;20SHA;20SSA;20SA;20HA"]⟩,
    ⟨0xcbc, ["00KANNADA SIGN NUKTA;20AVAGRAHA;10VOWEL SIGN AA;30I;30II;30U;30UU;30VOCALIC R;40RR"]⟩,
    ⟨0xcc6, ["00KANNADA VOWEL SIGN E;30EE;30AI"]⟩,
    ⟨0xcca, ["00KANNADA VOWEL SIGN O;30OO;30AU;10SIGN VIRAMA"]⟩,
    ⟨0xcd5, ["00KANNADA LENGTH MARK;12AI"]⟩, ⟨0xcdd, ["00KANNADA LETTER NAKAARA POLLU;20FA"]⟩,
    ⟨0xce0, ["00KANNADA LETTER VOCALIC RR;30LL;10VOWEL SIGN VOCALIC L;40LL"]⟩,
    ⟨0xce6, [
      "00KANNADA DIGIT ZERO;20ONE;20TWO;20THREE;20FOUR;20FIVE;20SIX;20SEVEN;20EIGHT;20NINE"]⟩,
    ⟨0xcf1, ["00KANNADA SIGN JIHVAMULIYA;20UPADHMANIYA"]⟩,
    ⟨0xd00, [
      "00MALAYALAM SIGN COMBINING ANUSVARA ABOVE;20CANDRABINDU;20ANUSVARA;20VISARGA",
      "10LETTER VEDIC ANUSVARA;20A;20AA;20I;20II;20U;20UU;20VOCALIC R;30L"]⟩,
    ⟨0xd0e, ["00MALAYALAM LETTER E;20EE;20AI"]⟩,
    ⟨0xd12, [
      "00MALAYALAM LETTER O;20OO;20AU;20KA;20KHA;20GA;20GHA;20NGA;20CA;20CHA;20JA;20JHA;20NYA",
      "20TTA;20TTHA;20DDA;20DDHA;20NNA;20TA;20THA;20DA;20DHA;20NA;20NNNA;20PA;20PHA;20BA;20BHA",
      "20MA;20YA;20RA;20RRA;20LA;20LLA;20LLLA;20VA;20SHA;20SSA;20SA;20HA;20TTTA",
      "10SIGN VERTICAL BAR VIRAMA;21CIRCULAR;20AVAGRAHA;10VOWEL SIGN AA;30I;30II;30U;30UU",
      "30VOCALIC R;40RR"]⟩,
    ⟨0xd46, ["00MALAYALAM VOWEL SIGN E;30EE;30AI"]⟩,
    ⟨0xd4a, ["00MALAYALAM VOWEL SIGN O;30OO;30AU;10SIGN VIRAMA;10LETTER DOT REPH;10SIGN PARA"]⟩,
    ⟨0xd54, [
      "00MALAYALAM LETTER CHILLU M;30Y;30LLL;10AU LENGTH MARK",
      "10FRACTION ONE ONE-HUNDRED-AND-SIXTIETH;30FORTIETH;20THREE EIGHTIETHS;20ONE TWENTIETH",
      "30TENTH;20THREE TWENTIETHS;20ONE FIFTH;10LETTER ARCHAIC II;20VOCALIC RR;30LL",
      "10VOWEL SIGN VOCALIC L;40LL"]⟩,
    ⟨0xd66, [
      "00MALAYALAM DIGIT ZERO;20ONE;20TWO;20THREE;20FOUR;20FIVE;20SIX;20SEVEN;20EIGHT;20NINE",
      "10NUMBER TEN;20ONE HUNDRED;30THOUSAND;10FRACTION ONE QUARTER;30HALF;20THREE QUARTERS",
      "20ONE SIXTEENTH;30EIGHTH;20THREE SIXTEENTHS;10DATE MARK;10LETTER CHILLU NN;30N;30RR;30L",
      "30LL;30K"]⟩,
    ⟨0xd81, ["00SINHALA SIGN CANDRABINDU;20ANUSVARAYA;20VISARGAYA"]⟩,
    ⟨0xd85, [
      "00SINHALA LETTER AYANNA;20AAYANNA;20AEYANNA;20AEEYANNA;20IYANNA;20IIYANNA;20UYANNA",
      "20UUYANNA;20IRUYANNA;20IRUUYANNA;20ILUYANNA;20ILUUYANNA;20EYANNA;20EEYANNA;20AIYANNA",
      "20OYANNA;20OOYANNA;20AUYANNA"]⟩,
    ⟨0xd9a, [
      "00SINHALA LETTER ALPAPRAANA KAYANNA;21MAHAAPRAANA;20ALPAPRAANA GAYANNA;21MAHAAPRAANA",
      "20KANTAJA NAASIKYAYA;20SANYAKA GAYANNA;20ALPAPRAANA CAYANNA;21MAHAAPRAANA",
      "20ALPAPRAANA JAYANNA;21MAHAAPRAANA;20TAALUJA NAASIKYAYA;30SANYOOGA NAAKSIKYAYA",
      "20SANYAKA JAYANNA;20ALPAPRAANA TTAYANNA;21MAHAAPRAANA;20ALPAPRAANA DDAYANNA;21MAHAAPRAANA",
      "20MUURDHAJA NAYANNA;20SANYAKA DDAYANNA;20ALPAPRAANA TAYANNA;21MAHAAPRAANA",
      "20ALPAPRAANA DAYANNA;21MAHAAPRAANA;20DANTAJA NAYANNA"]⟩,
    ⟨0xdb3, [
      "00SINHALA LETTER SANYAKA DAYANNA;20ALPAPRAANA PAYANNA;21MAHAAPRAANA;20ALPAPRAANA BAYANNA",
      "21MAHAAPRAANA;20MAYANNA;20AMBA BAYANNA;20YAYANNA;20RAYANNA"]⟩,
    ⟨0xdbd, ["00SINHALA LETTER DANTAJA LAYANNA"]⟩,
    ⟨0xdc0, [
      "00SINHALA LETTER VAYANNA;20TAALUJA SAYANNA;21MUURDHAJA;21DANTAJA;20HAYANNA",
      "20MUURDHAJA LAYANNA;20FAYANNA"]⟩,
    ⟨0xdca, ["00SINHALA SIGN AL-LAKUNA"]⟩,
    ⟨0xdcf, [
      "00SINHALA VOWEL SIGN AELA-PILLA;30KETTI AEDA-PILLA;31DIGA;30KETTI IS-PILLA;31DIGA",
      "30KETTI PAA-PILLA"]⟩,
    ⟨0xdd6, ["00SINHALA VOWEL SIGN DIGA PAA-PILLA"]⟩,
    ⟨0xdd8, [
      "00SINHALA VOWEL SIGN GAETTA-PILLA;30KOMBUVA;31DIGA;30KOMBU DEKA;30KOMBUVA HAA AELA-PILLA",
      "51DIGA;50GAYANUKITTA;31"]⟩,
    ⟨0xde6, [
      "00SINHALA LITH DIGIT ZERO;30ONE;30TWO;30THREE;30FOUR;30FIVE;30SIX;30SEVEN;30EIGHT;30NINE"]⟩,
    ⟨0xdf2, ["00SINHALA VOWEL SIGN DIGA GAETTA-PILLA;40GAYANUKITTA;10PUNCTUATION KUNDDALIYA"]⟩,
    ⟨0xe01, [
      "00THAI CHARACTER KO KAI;20KHO KHAI;30KHUAT;30KHWAI;30KHON;30RAKHANG;20NGO NGU;20CHO CHAN",
      "30CHING;30CHANG;20SO SO;20CHO CHOE;20YO YING;20DO CHADA;20TO PATAK;20THO THAN",
      "30NANGMONTHO;30PHUTHAO;20NO NEN;20DO DEK;20TO TAO;20THO THUNG;30THAHAN;30THONG;20NO NU",
      "20BO BAIMAI;20PO PLA;20PHO PHUNG;20FO FA;20PHO PHAN;20FO FAN;20PHO SAMPHAO;20MO MA",
      "20YO YAK;20RO RUA;20RU;20LO LING;20LU;20WO WAEN;20SO SALA;30RUSI;30SUA;20HO HIP",
      "20LO CHULA;20O ANG;20HO NOKHUK;20PAIYANNOI;20SARA A;20MAI HAN-AKAT;20SARA AA;30AM;30I",
      "30II;30UE;30UEE;30U;30UU;20PHINTHU"]⟩,
    ⟨0xe3f, [
      "00THAI CURRENCY SYMBOL BAHT;10CHARACTER SARA E;30AE;30O;30AI MAIMUAN;40MAIMALAI",
      "20LAKKHANGYAO;20MAIYAMOK;20MAITAIKHU;20MAI EK;30THO;30TRI;30CHATTAWA;20THANTHAKHAT",
      "20NIKHAHIT;20YAMAKKAN;20FONGMAN;10DIGIT ZERO;20ONE;20TWO;20THREE;20FOUR;20FIVE;20SIX",
      "20SEVEN;20EIGHT;20NINE;10CHARACTER ANGKHANKHU;20KHOMUT"]⟩,
    ⟨0xe81, ["00LAO LETTER KO;20KHO SUNG"]⟩, ⟨0xe84, ["00LAO LETTER KHO TAM"]⟩,
    ⟨0xe86, ["00LAO LETTER PALI GHA;20NGO;20CO;20PALI CHA;20SO TAM"]⟩,
    ⟨0xe8c, [
      "00LAO LETTER PALI JHA;20NYO;20PALI NYA;30TTA;30TTHA;30DDA;30DDHA;30NNA;20DO;20TO",
      "20THO SUNG;30TAM;20PALI DHA;20NO;20BO;20PO;20PHO SUNG;20FO TAM;21PHO;20FO SUNG;20PALI BHA",
      "20MO;20YO;20LO LING"]⟩,
    ⟨0xea5, ["00LAO LETTER LO LOOT"]⟩,
    ⟨0xea7, [
      "00LAO LETTER WO;20SANSKRIT SHA;30SSA;20SO SUNG;21HO;20PALI LLA;20O;20HO TAM;10ELLIPSIS",
      "10VOWEL SIGN A;30MAI KAN;30AA;30AM;30I;30II;30Y;30YY;30U;30UU;10SIGN PALI VIRAMA",
      "10VOWEL SIGN MAI KON;10SEMIVOWEL SIGN LO;30NYO"]⟩,
    ⟨0xec0, ["00LAO VOWEL SIGN E;30EI;30O;30AY;30AI"]⟩, ⟨0xec6, ["00LAO KO LA"]⟩,
    ⟨0xec8, ["00LAO TONE MAI EK;30THO;30TI;30CATAWA;10CANCELLATION MARK;10NIGGAHITA"]⟩,
    ⟨0xed0, ["00LAO DIGIT ZERO;20ONE;20TWO;20THREE;20FOUR;20FIVE;20SIX;20SEVEN;20EIGHT;20NINE"]⟩,
    ⟨0xedc, ["00LAO HO NO;20MO;10LETTER KHMU GO;30NYO"]⟩,
    ⟨0xf00, [
      "00TIBETAN SYLLABLE OM;10MARK GTER YIG MGO TRUNCATED A;50-UM RNAM BCAD MA;61GTER TSHEG",
      "21INITIAL YIG MGO MDUN;21CLOSING YIG MGO SGAB;21CARET YIG MGO PHUR SHAD;22YIG MGO TSHEG",
      "20SBRUL SHAD;20BSKUR YIG MGO;22BKA- SHOG;20INTERSYLLABIC TSHEG;20DELIMITER TSHEG BSTAR",
      "20SHAD;21NYIS;21TSHEG;22NYIS;21RIN CHEN SPUNGS;21RGYA GRAM",
      "20CARET -DZUD RTAGS ME LONG CAN;20GTER TSHEG;10LOGOTYPE SIGN CHAD RTAGS;31LHAG",
      "11ASTROLOGICAL SIGN SGRA GCAN -CHAR;30-KHYUD PA;30SDONG TSHUGS;10SIGN RDEL DKAR GCIG",
      "40GNYIS;40GSUM;30NAG GCIG;40GNYIS;30DKAR RDEL NAG;10DIGIT ZERO;20ONE;20TWO;20THREE;20FOUR",
      "20FIVE;20SIX;20SEVEN;20EIGHT;20NINE;20HALF ONE;30TWO;30THREE;30FOUR;30FIVE;30SIX;30SEVEN",
      "30EIGHT;30NINE;30ZERO;10MARK BSDUS RTAGS;20NGAS BZUNG NYI ZLA",
      "20CARET -DZUD RTAGS BZHI MIG CAN;20NGAS BZUNG SGOR RTAGS;20CHE MGO;20TSA -PHRU",
      "20GUG RTAGS GYON;40GYAS;20ANG KHANG GYON;40GYAS;10SIGN YAR TSHES;21MAR;10LETTER KA;20KHA",
      "20GA;20GHA;20NGA;20CA;20CHA;20JA"]⟩,
    ⟨0xf49, [
      "00TIBETAN LETTER NYA;20TTA;20TTHA;20DDA;20DDHA;20NNA;20TA;20THA;20DA;20DHA;20NA;20PA",
      "20PHA;20BA;20BHA;20MA;20TSA;20TSHA;20DZA;20DZHA;20WA;20ZHA;20ZA;20-A;20YA;20RA;20LA;20SHA",
      "20SSA;20SA;20HA;20A;20KSSA;20FIXED-FORM RA;20KKA;20RRA"]⟩,
    ⟨0xf71, [
      "00TIBETAN VOWEL SIGN AA;30I;30II;30U;30UU;30VOCALIC R;40RR;40L;40LL;30E;30EE;30O;30OO",
      "10SIGN RJES SU NGA RO;20RNAM BCAD;10VOWEL SIGN REVERSED I;40II;10SIGN NYI ZLA NAA DA",
      "20SNA LDAN;10MARK HALANTA;20PALUTA;10SIGN LCI RTAGS;21YANG;20LCE TSA CAN;21MCHU",
      "20GRU CAN RGYINGS;31MED;20INVERTED MCHU CAN;11SUBJOINED SIGN LCE TSA;31MCHU;32INVERTED",
      "20LETTER KA;30KHA;30GA;30GHA;30NGA;30CA;30CHA;30JA"]⟩,
    ⟨0xf99, [
      "00TIBETAN SUBJOINED LETTER NYA;30TTA;30TTHA;30DDA;30DDHA;30NNA;30TA;30THA;30DA;30DHA;30NA",
      "30PA;30PHA;30BA;30BHA;30MA;30TSA;30TSHA;30DZA;30DZHA;30WA;30ZHA;30ZA;30-A;30YA;30RA;30LA",
      "30SHA;30SSA;30SA;30HA;30A;30KSSA;30FIXED-FORM WA;40YA;40RA"]⟩,
    ⟨0xfbe, [
      "00TIBETAN KU RU KHA;40BZHI MIG CAN;10CANTILLATION SIGN HEAVY BEAT;31LIGHT;30CANG TE-U",
      "30SBUB -CHAL;10SYMBOL DRIL BU;20RDO RJE;20PADMA GDAN;20RDO RJE RGYA GRAM;20PHUR PA",
      "20NOR BU;40NYIS -KHYIL;41GSUM;41BZHI"]⟩,
    ⟨0xfce, [
      "00TIBETAN SIGN RDEL NAG RDEL DKAR;40GSUM;10MARK BSKA- SHOG GI MGO RGYAN;23MNYAM YIG",
      "20NYIS TSHEG;20INITIAL BRDA RNYING YIG MGO MDUN MA;21CLOSING BRDA RNYING YIG MGO SGAB",
      "00RIGHT-FACING SVASTI SIGN;02LEFT-FACING;00RIGHT-FACING SVASTI SIGN WITH DOTS",
      "04LEFT-FACING;00TIBETAN MARK LEADING MCHAN RTAGS;22TRAILING"]⟩,
    ⟨0x1000, [
      "00MYANMAR LETTER KA;20KHA;20GA;20GHA;20NGA;20CA;20CHA;20JA;20JHA;20NYA;20NNYA;20TTA",
      "20TTHA;20DDA;20DDHA;20NNA;20TA;20THA;20DA;20DHA;20NA;20PA;20PHA;20BA;20BHA;20MA;20YA;20RA",
      "20LA;20WA;20SA;20HA;20LLA;20A;21SHAN;20I;20II;20U;20UU;20E;21MON;20O;20AU",
      "10VOWEL SIGN TALL AA;31;30I;30II;30U;30UU;30E;30AI;30MON II;40O;30E ABOVE;10SIGN ANUSVARA",
      "20DOT BELOW;20VISARGA;20VIRAMA;20ASAT;10CONSONANT SIGN MEDIAL YA;40RA;40WA;40HA",
      "10LETTER GREAT SA;10DIGIT ZERO;20ONE;20TWO;20THREE;20FOUR;20FIVE;20SIX;20SEVEN;20EIGHT",
      "20NINE;10SIGN LITTLE SECTION;21;10SYMBOL LOCATIVE;20COMPLETED;20AFOREMENTIONED;20GENITIVE",
      "10LETTER SHA;20SSA;20VOCALIC R;30RR;30L;30LL;10VOWEL SIGN VOCALIC R;40RR;40L;40LL",
      "10LETTER MON NGA;30JHA;30BBA;30BBE;10CONSONANT SIGN MON MEDIAL NA;50MA;50LA",
      "10LETTER SGAW KAREN SHA;10VOWEL SIGN SGAW KAREN EU;10TONE MARK SGAW KAREN HATHI;50KE PHO",
      "10LETTER WESTERN PWO KAREN THA;50PWA;10VOWEL SIGN WESTERN PWO KAREN EU;60UE",
      "10SIGN WESTERN PWO KAREN TONE-1;50TONE-2;50TONE-3;50TONE-4;50TONE-5",
      "10LETTER EASTERN PWO KAREN NNA;50YWA;50GHWA;10VOWEL SIGN GEBA KAREN I;30KAYAH OE;40U;40EE",
      "10LETTER SHAN KA;30KHA;30GA;30CA;30ZA;30NYA;30DA;30NA;30PHA;30FA;30BA;30THA;30HA",
      "10CONSONANT SIGN SHAN MEDIAL WA;10VOWEL SIGN SHAN AA;40E;50ABOVE;40FINAL Y",
      "10SIGN SHAN TONE-2;30TONE-3;30TONE-5;30TONE-6;30COUNCIL TONE-2;40TONE-3;40EMPHATIC TONE",
      "10LETTER RUMAI PALAUNG FA;10SIGN RUMAI PALAUNG TONE-5;10SHAN DIGIT ZERO;30ONE;30TWO",
      "30THREE;30FOUR;30FIVE;30SIX;30SEVEN;30EIGHT;30NINE;10SIGN KHAMTI TONE-1;30TONE-3",
      "10VOWEL SIGN AITON A;40AI;10SYMBOL SHAN ONE;30EXCLAMATION;00GEORGIAN CAPITAL LETTER AN",
      "30BAN;30GAN;30DON;30EN;30VIN;30ZEN;30TAN;30IN;30KAN;30LAS;30MAN;30NAR;30ON;30PAR;30ZHAR",
      "30RAE;30SAN;30TAR;30UN;30PHAR;30KHAR;30GHAN;30QAR;30SHIN;30CHIN;30CAN;30JIL;30CIL;30CHAR",
      "30XAN;30JHAN;30HAE;30HE;30HIE;30WE;30HAR;30HOE"]⟩,
    ⟨0x10c7, ["00GEORGIAN CAPITAL LETTER YN"]⟩, ⟨0x10cd, ["00GEORGIAN CAPITAL LETTER AEN"]⟩,
    ⟨0x10d0, [
      "00GEORGIAN LETTER AN;20BAN;20GAN;20DON;20EN;20VIN;20ZEN;20TAN;20IN;20KAN;20LAS;20MAN",
      "20NAR;20ON;20PAR;20ZHAR;20RAE;20SAN;20TAR;20UN;20PHAR;20KHAR;20GHAN;20QAR;20SHIN;20CHIN",
      "20CAN;20JIL;20CIL;20CHAR;20XAN;20JHAN;20HAE;20HE;20HIE;20WE;20HAR;20HOE;20FI;20YN;20ELIFI",
      "20TURNED GAN;20AIN;10PARAGRAPH SEPARATOR;00MODIFIER LETTER GEORGIAN NAR",
      "00GEORGIAN LETTER AEN;20HARD SIGN;21LABIAL;00HANGUL CHOSEONG KIYEOK;20SSANGKIYEOK;20NIEUN",
      "20TIKEUT;20SSANGTIKEUT;20RIEUL;20MIEUM;20PIEUP;20SSANGPIEUP;20SIOS;20SSANGSIOS;20IEUNG",
      "20CIEUC;20SSANGCIEUC;20CHIEUCH;20KHIEUKH;20THIEUTH;20PHIEUPH;20HIEUH;20NIEUN-KIYEOK",
      "20SSANGNIEUN;20NIEUN-TIKEUT;20NIEUN-PIEUP;20TIKEUT-KIYEOK;20RIEUL-NIEUN;20SSANGRIEUL",
      "20RIEUL-HIEUH;20KAPYEOUNRIEUL;20MIEUM-PIEUP;20KAPYEOUNMIEUM;20PIEUP-KIYEOK;20PIEUP-NIEUN",
      "20PIEUP-TIKEUT;20PIEUP-SIOS;20PIEUP-SIOS-KIYEOK;20PIEUP-SIOS-TIKEUT;20PIEUP-SIOS-PIEUP",
      "20PIEUP-SSANGSIOS;20PIEUP-SIOS-CIEUC;20PIEUP-CIEUC;20PIEUP-CHIEUCH;20PIEUP-THIEUTH",
      "20PIEUP-PHIEUPH;20KAPYEOUNPIEUP;20KAPYEOUNSSANGPIEUP;20SIOS-KIYEOK;20SIOS-NIEUN",
      "20SIOS-TIKEUT;20SIOS-RIEUL;20SIOS-MIEUM;20SIOS-PIEUP;20SIOS-PIEUP-KIYEOK;20SIOS-SSANGSIOS",
      "20SIOS-IEUNG;20SIOS-CIEUC;20SIOS-CHIEUCH;20SIOS-KHIEUKH;20SIOS-THIEUTH;20SIOS-PHIEUPH",
      "20SIOS-HIEUH;20CHITUEUMSIOS;20CHITUEUMSSANGSIOS;20CEONGCHIEUMSIOS;20CEONGCHIEUMSSANGSIOS",
      "20PANSIOS;20IEUNG-KIYEOK;20IEUNG-TIKEUT;20IEUNG-MIEUM;20IEUNG-PIEUP;20IEUNG-SIOS",
      "20IEUNG-PANSIOS;20SSANGIEUNG;20IEUNG-CIEUC;20IEUNG-CHIEUCH;20IEUNG-THIEUTH",
      "20IEUNG-PHIEUPH;20YESIEUNG;20CIEUC-IEUNG;20CHITUEUMCIEUC;20CHITUEUMSSANGCIEUC",
      "20CEONGCHIEUMCIEUC;20CEONGCHIEUMSSANGCIEUC;20CHIEUCH-KHIEUKH;20CHIEUCH-HIEUH",
      "20CHITUEUMCHIEUCH;20CEONGCHIEUMCHIEUCH;20PHIEUPH-PIEUP;20KAPYEOUNPHIEUPH;20SSANGHIEUH",
      "20YEORINHIEUH;20KIYEOK-TIKEUT;20NIEUN-SIOS;20NIEUN-CIEUC;20NIEUN-HIEUH;20TIKEUT-RIEUL",
      "20FILLER;11JUNGSEONG;20A;20AE;20YA;20YAE;20EO;20E;20YEO;20YE;20O;20WA;20WAE;20OE;20YO;20U",
      "20WEO;20WE;20WI;20YU;20EU;20YI;20I;20A-O;20A-U;20YA-O;20YA-YO;20EO-O;20EO-U;20EO-EU",
      "20YEO-O;20YEO-U;20O-EO;20O-E;20O-YE;20O-O;20O-U;20YO-YA;20YO-YAE;20YO-YEO;20YO-O;20YO-I",
      "20U-A;20U-AE;20U-EO-EU;20U-YE;20U-U;20YU-A;20YU-EO;20YU-E;20YU-YEO;20YU-YE;20YU-U;20YU-I",
      "20EU-U;20EU-EU;20YI-U;20I-A;20I-YA;20I-O;20I-U;20I-EU;20I-ARAEA;20ARAEA;20ARAEA-EO",
      "20ARAEA-U;20ARAEA-I;20SSANGARAEA;20A-EU;20YA-U;20YEO-YA;20O-YA;20O-YAE;10JONGSEONG KIYEOK",
      "20SSANGKIYEOK;20KIYEOK-SIOS;20NIEUN;20NIEUN-CIEUC;20NIEUN-HIEUH;20TIKEUT;20RIEUL",
      "20RIEUL-KIYEOK;20RIEUL-MIEUM;20RIEUL-PIEUP;20RIEUL-SIOS;20RIEUL-THIEUTH;20RIEUL-PHIEUPH",
      "20RIEUL-HIEUH;20MIEUM;20PIEUP;20PIEUP-SIOS;20SIOS;20SSANGSIOS;20IEUNG;20CIEUC;20CHIEUCH",
      "20KHIEUKH;20THIEUTH;20PHIEUPH;20HIEUH;20KIYEOK-RIEUL;20KIYEOK-SIOS-KIYEOK;20NIEUN-KIYEOK",
      "20NIEUN-TIKEUT;20NIEUN-SIOS;20NIEUN-PANSIOS;20NIEUN-THIEUTH;20TIKEUT-KIYEOK",
      "20TIKEUT-RIEUL;20RIEUL-KIYEOK-SIOS;20RIEUL-NIEUN;20RIEUL-TIKEUT;20RIEUL-TIKEUT-HIEUH",
      "20SSANGRIEUL;20RIEUL-MIEUM-KIYEOK;20RIEUL-MIEUM-SIOS;20RIEUL-PIEUP-SIOS",
      "20RIEUL-PIEUP-HIEUH;20RIEUL-KAPYEOUNPIEUP;20RIEUL-SSANGSIOS;20RIEUL-PANSIOS",
      "20RIEUL-KHIEUKH;20RIEUL-YEORINHIEUH;20MIEUM-KIYEOK;20MIEUM-RIEUL;20MIEUM-PIEUP",
      "20MIEUM-SIOS;20MIEUM-SSANGSIOS;20MIEUM-PANSIOS;20MIEUM-CHIEUCH;20MIEUM-HIEUH",
      "20KAPYEOUNMIEUM;20PIEUP-RIEUL;20PIEUP-PHIEUPH;20PIEUP-HIEUH;20KAPYEOUNPIEUP;20SIOS-KIYEOK",
      "20SIOS-TIKEUT;20SIOS-RIEUL;20SIOS-PIEUP;20PANSIOS;20IEUNG-KIYEOK;20IEUNG-SSANGKIYEOK",
      "20SSANGIEUNG;20IEUNG-KHIEUKH;20YESIEUNG;20YESIEUNG-SIOS;20YESIEUNG-PANSIOS",
      "20PHIEUPH-PIEUP;20KAPYEOUNPHIEUPH;20HIEUH-NIEUN;20HIEUH-RIEUL;20HIEUH-MIEUM;20HIEUH-PIEUP",
      "20YEORINHIEUH;20KIYEOK-NIEUN;20KIYEOK-PIEUP;20KIYEOK-CHIEUCH;20KIYEOK-KHIEUKH",
      "20KIYEOK-HIEUH;20SSANGNIEUN;00ETHIOPIC SYLLABLE HA;20HU;20HI;20HAA;20HEE;20HE;20HO;20HOA",
      "20LA;20LU;20LI;20LAA;20LEE;20LE;20LO;20LWA;20HHA;20HHU;20HHI;20HHAA;20HHEE;20HHE;20HHO",
      "20HHWA;20MA;20MU;20MI;20MAA;20MEE;20ME;20MO;20MWA;20SZA;20SZU;20SZI;20SZAA;20SZEE;20SZE",
      "20SZO;20SZWA;20RA;20RU;20RI;20RAA;20REE;20RE;20RO;20RWA;20SA;20SU;20SI;20SAA;20SEE;20SE",
      "20SO;20SWA;20SHA;20SHU;20SHI;20SHAA;20SHEE;20SHE;20SHO;20SHWA;20QA;20QU;20QI;20QAA;20QEE",
      "20QE;20QO;20QOA;20QWA"]⟩,
    ⟨0x124a, ["00ETHIOPIC SYLLABLE QWI;20QWAA;20QWEE;20QWE"]⟩,
    ⟨0x1250, ["00ETHIOPIC SYLLABLE QHA;20QHU;20QHI;20QHAA;20QHEE;20QHE;20QHO"]⟩,
    ⟨0x1258, ["00ETHIOPIC SYLLABLE QHWA"]⟩,
    ⟨0x125a, ["00ETHIOPIC SYLLABLE QHWI;20QHWAA;20QHWEE;20QHWE"]⟩,
    ⟨0x1260, [
      "00ETHIOPIC SYLLABLE BA;20BU;20BI;20BAA;20BEE;20BE;20BO;20BWA;20VA;20VU;20VI;20VAA;20VEE",
      "20VE;20VO;20VWA;20TA;20TU;20TI;20TAA;20TEE;20TE;20TO;20TWA;20CA;20CU;20CI;20CAA;20CEE",
      "20CE;20CO;20CWA;20XA;20XU;20XI;20XAA;20XEE;20XE;20XO;20XOA;20XWA"]⟩,
    ⟨0x128a, ["00ETHIOPIC SYLLABLE XWI;20XWAA;20XWEE;20XWE"]⟩,
    ⟨0x1290, [
      "00ETHIOPIC SYLLABLE NA;20NU;20NI;20NAA;20NEE;20NE;20NO;20NWA;20NYA;20NYU;20NYI;20NYAA",
      "20NYEE;20NYE;20NYO;20NYWA;20GLOTTAL A;30U;30I;30AA;30EE;30E;30O;30WA;20KA;20KU;20KI;20KAA",
      "20KEE;20KE;20KO;20KOA;20KWA"]⟩,
    ⟨0x12b2, ["00ETHIOPIC SYLLABLE KWI;20KWAA;20KWEE;20KWE"]⟩,
    ⟨0x12b8, ["00ETHIOPIC SYLLABLE KXA;20KXU;20KXI;20KXAA;20KXEE;20KXE;20KXO"]⟩,
    ⟨0x12c0, ["00ETHIOPIC SYLLABLE KXWA"]⟩,
    ⟨0x12c2, ["00ETHIOPIC SYLLABLE KXWI;20KXWAA;20KXWEE;20KXWE"]⟩,
    ⟨0x12c8, [
      "00ETHIOPIC SYLLABLE WA;20WU;20WI;20WAA;20WEE;20WE;20WO;20WOA;20PHARYNGEAL A;30U;30I;30AA",
      "30EE;30E;30O"]⟩,
    ⟨0x12d8, [
      "00ETHIOPIC SYLLABLE ZA;20ZU;20ZI;20ZAA;20ZEE;20ZE;20ZO;20ZWA;20ZHA;20ZHU;20ZHI;20ZHAA",
      "20ZHEE;20ZHE;20ZHO;20ZHWA;20YA;20YU;20YI;20YAA;20YEE;20YE;20YO;20YOA;20DA;20DU;20DI;20DAA",
      "20DEE;20DE;20DO;20DWA;20DDA;20DDU;20DDI;20DDAA;20DDEE;20DDE;20DDO;20DDWA;20JA;20JU;20JI",
      "20JAA;20JEE;20JE;20JO;20JWA;20GA;20GU;20GI;20GAA;20GEE;20GE;20GO;20GOA;20GWA"]⟩,
    ⟨0x1312, ["00ETHIOPIC SYLLABLE GWI;20GWAA;20GWEE;20GWE"]⟩,
    ⟨0x1318, [
      "00ETHIOPIC SYLLABLE GGA;20GGU;20GGI;20GGAA;20GGEE;20GGE;20GGO;20GGWAA;20THA;20THU;20THI",
      "20THAA;20THEE;20THE;20THO;20THWA;20CHA;20CHU;20CHI;20CHAA;20CHEE;20CHE;20CHO;20CHWA;20PHA",
      "20PHU;20PHI;20PHAA;20PHEE;20PHE;20PHO;20PHWA;20TSA;20TSU;20TSI;20TSAA;20TSEE;20TSE;20TSO",
      "20TSWA;20TZA;20TZU;20TZI;20TZAA;20TZEE;20TZE;20TZO;20TZOA;20FA;20FU;20FI;20FAA;20FEE;20FE",
      "20FO;20FWA;20PA;20PU;20PI;20PAA;20PEE;20PE;20PO;20PWA;20RYA;20MYA;20FYA"]⟩,
    ⟨0x135d, [
      "00ETHIOPIC COMBINING GEMINATION AND VOWEL LENGTH MARK;23;21GEMINATION;11SECTION",
      "10WORDSPACE;10FULL STOP;10COMMA;10SEMICOLON;10COLON;11PREFACE;10QUESTION MARK",
      "10PARAGRAPH SEPARATOR;10DIGIT ONE;20TWO;20THREE;20FOUR;20FIVE;20SIX;20SEVEN;20EIGHT",
      "20NINE;10NUMBER TEN;20TWENTY;20THIRTY;20FORTY;20FIFTY;20SIXTY;20SEVENTY;20EIGHTY;20NINETY",
      "20HUNDRED;20TEN THOUSAND"]⟩,
    ⟨0x1380, [
      "00ETHIOPIC SYLLABLE SEBATBEIT MWA;20MWI;20MWEE;20MWE;20SEBATBEIT BWA;20BWI;20BWEE;20BWE",
      "20SEBATBEIT FWA;20FWI;20FWEE;20FWE;20SEBATBEIT PWA;20PWI;20PWEE;20PWE;10TONAL MARK YIZET",
      "30DERET;30RIKRIK;31SHORT;30DIFAT;30KENAT;30CHIRET;30HIDET;30DERET-HIDET;30KURT"]⟩,
    ⟨0x13a0, [
      "00CHEROKEE LETTER A;20E;20I;20O;20U;20V;20GA;20KA;20GE;20GI;20GO;20GU;20GV;20HA;20HE;20HI",
      "20HO;20HU;20HV;20LA;20LE;20LI;20LO;20LU;20LV;20MA;20ME;20MI;20MO;20MU;20NA;20HNA;20NAH",
      "20NE;20NI;20NO;20NU;20NV;20QUA;20QUE;20QUI;20QUO;20QUU;20QUV;20SA;20S;20SE;20SI;20SO;20SU",
      "20SV;20DA;20TA;20DE;20TE;20DI;20TI;20DO;20DU;20DV;20DLA;20TLA;20TLE;20TLI;20TLO;20TLU",
      "20TLV;20TSA;20TSE;20TSI;20TSO;20TSU;20TSV;20WA;20WE;20WI;20WO;20WU;20WV;20YA;20YE;20YI",
      "20YO;20YU;20YV;20MV"]⟩,
    ⟨0x13f8, ["00CHEROKEE SMALL LETTER YE;30YI;30YO;30YU;30YV;30MV"]⟩,
    ⟨0x1400, [
      "00CANADIAN SYLLABICS HYPHEN;20E;20AAI;20I;20II;20O;20OO;21Y-CREE;20CARRIER EE;30I;20A",
      "20AA;20WE;21WEST-CREE;20WI;21WEST-CREE;20WII;21WEST-CREE;20WO;21WEST-CREE;20WOO",
      "21WEST-CREE;21NASKAPI;20WA;21WEST-CREE;20WAA;21WEST-CREE;21NASKAPI;20AI;20Y-CREE W",
      "20GLOTTAL STOP;20FINAL ACUTE;30GRAVE;30BOTTOM HALF RING;32TOP;32RIGHT;31;30DOUBLE ACUTE",
      "40SHORT VERTICAL STROKES;30MIDDLE DOT;30SHORT HORIZONTAL STROKE;30PLUS;30DOWN TACK;20EN",
      "20IN;20ON;20AN;20PE;20PAAI;20PI;20PII;20PO;20POO;21Y-CREE;20CARRIER HEE;30HI;20PA;20PAA",
      "20PWE;21WEST-CREE;20PWI;21WEST-CREE;20PWII;21WEST-CREE;20PWO;21WEST-CREE;20PWOO",
      "21WEST-CREE;20PWA;21WEST-CREE;20PWAA;21WEST-CREE;21Y-CREE;20P;21WEST-CREE;20CARRIER H",
      "20TE;20TAAI;20TI;20TII;20TO;20TOO;21Y-CREE;20CARRIER DEE;30DI;20TA;20TAA;20TWE",
      "21WEST-CREE;20TWI;21WEST-CREE;20TWII;21WEST-CREE;20TWO;21WEST-CREE;20TWOO;21WEST-CREE",
      "20TWA;21WEST-CREE;20TWAA;21WEST-CREE;21NASKAPI;20T;20TTE;20TTI;20TTO;20TTA;20KE;20KAAI",
      "20KI;20KII;20KO;20KOO;21Y-CREE;20KA;20KAA;20KWE;21WEST-CREE;20KWI;21WEST-CREE;20KWII",
      "21WEST-CREE;20KWO;21WEST-CREE;20KWOO;21WEST-CREE;20KWA;21WEST-CREE;20KWAA;21WEST-CREE",
      "21NASKAPI;20K;20KW;20SOUTH-SLAVEY KEH;30KIH;30KOH;30KAH;20CE;20CAAI;20CI;20CII;20CO;20COO",
      "21Y-CREE;20CA;20CAA;20CWE;21WEST-CREE;20CWI;21WEST-CREE;20CWII;21WEST-CREE;20CWO",
      "21WEST-CREE;20CWOO;21WEST-CREE;20CWA;21WEST-CREE;20CWAA;21WEST-CREE;21NASKAPI;20C",
      "20SAYISI TH;20ME;20MAAI;20MI;20MII;20MO;20MOO;21Y-CREE;20MA;20MAA;20MWE;21WEST-CREE;20MWI",
      "21WEST-CREE;20MWII;21WEST-CREE;20MWO;21WEST-CREE;20MWOO;21WEST-CREE;20MWA;21WEST-CREE",
      "20MWAA;21WEST-CREE;21NASKAPI;20M;21WEST-CREE;20MH;20ATHAPASCAN M;21SAYISI;20NE;20NAAI",
      "20NI;20NII;20NO;20NOO;21Y-CREE;20NA;20NAA;20NWE;21WEST-CREE;20NWA;21WEST-CREE;20NWAA",
      "21WEST-CREE;21NASKAPI;20N;20CARRIER NG;20NH;20LE;20LAAI;20LI;20LII;20LO;20LOO;21Y-CREE",
      "20LA;20LAA;20LWE;21WEST-CREE;20LWI;21WEST-CREE;20LWII;21WEST-CREE;20LWO;21WEST-CREE",
      "20LWOO;21WEST-CREE;20LWA;21WEST-CREE;20LWAA;21WEST-CREE;20L;21WEST-CREE;21MEDIAL;20SE",
      "20SAAI;20SI;20SII;20SO;20SOO;21Y-CREE;20SA;20SAA;20SWE;21WEST-CREE;20SWI;21WEST-CREE",
      "20SWII;21WEST-CREE;20SWO;21WEST-CREE;20SWOO;21WEST-CREE;20SWA;21WEST-CREE;20SWAA",
      "21WEST-CREE;21NASKAPI;20S;21ATHAPASCAN;20SW;20BLACKFOOT S;20MOOSE-CREE SK;20NASKAPI SKW",
      "30S-W;30SPWA;30STWA;30SKWA;30SCWA;20SHE;20SHI;20SHII;20SHO;20SHOO;20SHA;20SHAA;20SHWE",
      "21WEST-CREE;20SHWI;21WEST-CREE;20SHWII;21WEST-CREE;20SHWO;21WEST-CREE;20SHWOO;21WEST-CREE",
      "20SHWA;21WEST-CREE;20SHWAA;21WEST-CREE;20SH;20YE;20YAAI;20YI;20YII;20YO;20YOO;21Y-CREE",
      "20YA;20YAA;20YWE;21WEST-CREE;20YWI;21WEST-CREE;20YWII;21WEST-CREE;20YWO;21WEST-CREE",
      "20YWOO;21WEST-CREE;20YWA;21WEST-CREE;20YWAA;21WEST-CREE;21NASKAPI;20Y;21BIBLE-CREE",
      "21WEST-CREE;20SAYISI YI;20RE;21R-CREE;20WEST-CREE LE;20RAAI;20RI;20RII;20RO;20ROO",
      "20WEST-CREE LO;20RA;20RAA;20WEST-CREE LA;20RWAA;21WEST-CREE;20R;21WEST-CREE;21MEDIAL;20FE",
      "20FAAI;20FI;20FII;20FO;20FOO;20FA;20FAA;20FWAA;21WEST-CREE;20F;20THE;21N-CREE;20THI",
      "21N-CREE;20THII;21N-CREE;20THO;20THOO;20THA;20THAA;20THWAA;21WEST-CREE;20TH;20TTHE;20TTHI",
      "20TTHO;20TTHA;20TTH;20TYE;20TYI;20TYO;20TYA;20NUNAVIK HE;30HI;30HII;30HO;30HOO;30HA;30HAA",
      "30H;21NUNAVUT;20HK;20QAAI;20QI;20QII;20QO;20QOO;20QA;20QAA;20Q;20TLHE;20TLHI;20TLHO",
      "20TLHA;20WEST-CREE RE;30RI;30RO;30RA;20NGAAI;20NGI;20NGII;20NGO;20NGOO;20NGA;20NGAA;20NG",
      "20NNG;20SAYISI SHE;30SHI;30SHO;30SHA;20WOODS-CREE THE;30THI;30THO;30THA;30TH;20LHI;20LHII",
      "20LHO;20LHOO;20LHA;20LHAA;20LH;20TH-CREE THE;30THI;30THII;30THO;30THOO;30THA;30THAA;30TH",
      "20AIVILIK B;20BLACKFOOT E;30I;30O;30A;30WE;30WI;30WO;30WA;30NE;30NI;30NO;30NA;30KE;30KI",
      "30KO;30KA;20SAYISI HE;30HI;30HO;30HA;20CARRIER GHU;30GHO;30GHE;30GHEE;30GHI;30GHA;30RU",
      "30RO;30RE;30REE;30RI;30RA;30WU;30WO;30WE;30WEE;30WI;30WA;30HWU;30HWO;30HWE;30HWEE;30HWI",
      "30HWA;30THU;30THO;30THE;30THEE;30THI;30THA;30TTU;30TTO;30TTE;30TTEE;30TTI;30TTA;30PU;30PO",
      "30PE;30PEE;30PI;30PA;30P;30GU;30GO;30GE;30GEE;30GI;30GA;30KHU;30KHO;30KHE;30KHEE;30KHI",
      "30KHA;30KKU;30KKO;30KKE;30KKEE;30KKI;30KKA;30KK;30NU;30NO;30NE;30NEE;30NI;30NA;30MU;30MO",
      "30ME;30MEE;30MI;30MA;30YU;30YO;30YE;30YEE;30YI;30YA;30JU;21SAYISI;20CARRIER JO;30JE;30JEE",
      "30JI;21SAYISI;20CARRIER JA;30JJU;30JJO;30JJE;30JJEE;30JJI;30JJA;30LU;30LO;30LE;30LEE;30LI",
      "30LA;30DLU;30DLO;30DLE;30DLEE;30DLI;30DLA;30LHU;30LHO;30LHE;30LHEE;30LHI;30LHA;30TLHU",
      "30TLHO;30TLHE;30TLHEE;30TLHI;30TLHA;30TLU;30TLO;30TLE;30TLEE;30TLI;30TLA;30ZU;30ZO;30ZE",
      "30ZEE;30ZI;30ZA;30Z;31INITIAL;30DZU;30DZO;30DZE;30DZEE;30DZI;30DZA;30SU;30SO;30SE;30SEE",
      "30SI;30SA;30SHU;30SHO;30SHE;30SHEE;30SHI;30SHA;30SH;30TSU;30TSO;30TSE;30TSEE;30TSI;30TSA",
      "30CHU;30CHO;30CHE;30CHEE;30CHI;30CHA;30TTSU;30TTSO;30TTSE;30TTSEE;30TTSI;30TTSA",
      "20CHI SIGN;20FULL STOP;20QAI;20NGAI;20NNGI;20NNGII;20NNGO;20NNGOO;20NNGA;20NNGAA",
      "20WOODS-CREE THWEE;30THWI;30THWII;30THWO;30THWOO;30THWA;30THWAA;30FINAL TH;20BLACKFOOT W",
      "00OGHAM SPACE MARK;10LETTER BEITH;20LUIS;20FEARN;20SAIL;20NION;20UATH;20DAIR;20TINNE",
      "20COLL;20CEIRT;20MUIN;20GORT;20NGEADAL;20STRAIF;20RUIS;20AILM;20ONN;20UR;20EADHADH",
      "20IODHADH;20EABHADH;20OR;20UILLEANN;20IFIN;20EAMHANCHOLL;20PEITH;10FEATHER MARK",
      "12REVERSED"]⟩,
    ⟨0x16a0, [
      "00RUNIC LETTER FEHU FEOH FE F;20V;20URUZ UR U;20YR;20Y;20W;20THURISAZ THURS THORN;20ETH",
      "20ANSUZ A;20OS O;20AC A;20AESC;20LONG-BRANCH-OSS O;21SHORT-TWIG-OSS;21;20OE;20ON",
      "20RAIDO RAD REID R;20KAUNA;20CEN;20KAUN K;20G;20ENG;20GEBO GYFU G;20GAR;20WUNJO WYNN W",
      "20HAGLAZ H;21HAEGL;21LONG-BRANCH-HAGALL;21SHORT-TWIG-HAGALL;20NAUDIZ NYD NAUD N",
      "21SHORT-TWIG-NAUD;20DOTTED-N;20ISAZ IS ISS I;20E;20JERAN J;20GER;20LONG-BRANCH-AR AE",
      "20SHORT-TWIG-AR A;20IWAZ EOH;20PERTHO PEORTH P;20ALGIZ EOLHX;20SOWILO S",
      "21SIGEL LONG-BRANCH-SOL;21SHORT-TWIG-SOL;20C;20Z;20TIWAZ TIR TYR T;21SHORT-TWIG-TYR;20D",
      "20BERKANAN BEORC BJARKAN B;21SHORT-TWIG-BJARKAN;20DOTTED-P;20OPEN-P;20EHWAZ EH E",
      "20MANNAZ MAN M;21LONG-BRANCH-MADR;21SHORT-TWIG-MADR;20LAUKAZ LAGU LOGR L;20DOTTED-L",
      "20INGWAZ;20ING;20DAGAZ DAEG D;20OTHALAN ETHEL O;20EAR;20IOR;20CWEORTH;20CALC;20CEALC",
      "20STAN;20LONG-BRANCH-YR;20SHORT-TWIG-YR;20ICELANDIC-YR;20Q;20X;10SINGLE PUNCTUATION",
      "11MULTIPLE;11CROSS;10ARLAUG SYMBOL;11TVIMADUR;11BELGTHOR;10LETTER K;20SH;20OO",
      "20FRANKS CASKET OS;40IS;40EH;40AC;40AESC"]⟩,
    ⟨0x1700, [
      "00TAGALOG LETTER A;20I;20U;20KA;20GA;20NGA;20TA;20DA;20NA;20PA;20BA;20MA;20YA;20RA;20LA",
      "20WA;20SA;20HA;10VOWEL SIGN I;30U;10SIGN VIRAMA;20PAMUDPOD"]⟩,
    ⟨0x171f, [
      "00TAGALOG LETTER ARCHAIC RA;00HANUNOO LETTER A;20I;20U;20KA;20GA;20NGA;20TA;20DA;20NA",
      "20PA;20BA;20MA;20YA;20RA;20LA;20WA;20SA;20HA;10VOWEL SIGN I;30U;10SIGN PAMUDPOD",
      "00PHILIPPINE SINGLE PUNCTUATION;11DOUBLE"]⟩,
    ⟨0x1740, [
      "00BUHID LETTER A;20I;20U;20KA;20GA;20NGA;20TA;20DA;20NA;20PA;20BA;20MA;20YA;20RA;20LA",
      "20WA;20SA;20HA;10VOWEL SIGN I;30U"]⟩,
    ⟨0x1760, ["00TAGBANWA LETTER A;20I;20U;20KA;20GA;20NGA;20TA;20DA;20NA;20PA;20BA;20MA;20YA"]⟩,
    ⟨0x176e, ["00TAGBANWA LETTER LA;20WA;20SA"]⟩, ⟨0x1772, ["00TAGBANWA VOWEL SIGN I;30U"]⟩,
    ⟨0x1780, [
      "00KHMER LETTER KA;20KHA;20KO;20KHO;20NGO;20CA;20CHA;20CO;20CHO;20NYO;20DA;20TTHA;20DO",
      "20TTHO;20NNO;20TA;20THA;20TO;20THO;20NO;20BA;20PHA;20PO;20PHO;20MO;20YO;20RO;20LO;20VO",
      "20SHA;20SSO;20SA;20HA;20LA;20QA;10INDEPENDENT VOWEL QAQ;30QAA;30QI;30QII;30QU;30QUK;30QUU",
      "30QUUV;30RY;30RYY;30LY;30LYY;30QE;30QAI;30QOO TYPE ONE;50TWO;30QAU;10VOWEL INHERENT AQ",
      "30AA;21SIGN;30I;30II;30Y;30YY;30U;30UU;30UA;30OE;30YA;30IE;30E;30AE;30AI;30OO;30AU",
      "10SIGN NIKAHIT;20REAHMUK;20YUUKALEAPINTU;20MUUSIKATOAN;20TRIISAP;20BANTOC;20ROBAT",
      "20TOANDAKHIAT;20KAKABAT;20AHSDA;20SAMYOK SANNYA;20VIRIAM;20COENG;20BATHAMASAT;20KHAN",
      "20BARIYOOSAN;20CAMNUC PII KUUH;20LEK TOO;20BEYYAL;20PHNAEK MUAN;20KOOMUUT",
      "10CURRENCY SYMBOL RIEL;10SIGN AVAKRAHASANYA;20ATTHACAN"]⟩,
    ⟨0x17e0, ["00KHMER DIGIT ZERO;20ONE;20TWO;20THREE;20FOUR;20FIVE;20SIX;20SEVEN;20EIGHT;20NINE"]⟩,
    ⟨0x17f0, [
      "00KHMER SYMBOL LEK ATTAK SON;40MUOY;40PII;40BEI;40BUON;40PRAM;40PRAM-MUOY;40PRAM-PII",
      "40PRAM-BEI;40PRAM-BUON"]⟩,
    ⟨0x1800, [
      "00MONGOLIAN BIRGA;10ELLIPSIS;10COMMA;10FULL STOP;10COLON;10FOUR DOTS;10TODO SOFT HYPHEN",
      "10SIBE SYLLABLE BOUNDARY MARKER;10MANCHU COMMA;20FULL STOP;10NIRUGU",
      "10FREE VARIATION SELECTOR ONE;40TWO;40THREE;10VOWEL SEPARATOR",
      "10FREE VARIATION SELECTOR FOUR;10DIGIT ZERO;20ONE;20TWO;20THREE;20FOUR;20FIVE;20SIX",
      "20SEVEN;20EIGHT;20NINE"]⟩,
    ⟨0x1820, [
      "00MONGOLIAN LETTER A;20E;20I;20O;20U;20OE;20UE;20EE;20NA;20ANG;20BA;20PA;20QA;20GA;20MA",
      "20LA;20SA;20SHA;20TA;20DA;20CHA;20JA;20YA;20RA;20WA;20FA;20KA;20KHA;20TSA;20ZA;20HAA",
      "20ZRA;20LHA;20ZHI;20CHI;20TODO LONG VOWEL SIGN;30E;30I;30O;30U;30OE;30UE;30ANG;30BA;30PA",
      "30QA;30GA;30MA;30TA;30DA;30CHA;30JA;30TSA;30YA;30WA;30KA;30GAA;30HAA;30JIA;30NIA;30DZA",
      "20SIBE E;30I;30IY;30UE;30U;30ANG;30KA;30GA;30HA;30PA;30SHA;30TA;30DA;30JA;30FA;30GAA",
      "30HAA;30TSA;30ZA;30RAA;30CHA;30ZHA;20MANCHU I;30KA;30RA;30FA;30ZHA;20CHA WITH TWO DOTS"]⟩,
    ⟨0x1880, [
      "00MONGOLIAN LETTER ALI GALI ANUSVARA ONE;41VISARGA;40DAMARU;40UBADAMA;41INVERTED;40BALUDA",
      "41THREE;40A;40I;40KA;40NGA;40CA;40TTA;40TTHA;40DDA;40NNA;40TA;40DA;40PA;40PHA;40SSA;40ZHA",
      "40ZA;40AH;20TODO ALI GALI TA;50ZHA;20MANCHU ALI GALI GHA;50NGA;50CA;50JHA;50TTA;50DDHA",
      "50TA;50DHA;50SSA;50CYA;50ZHA;50ZA;20ALI GALI HALF U;50YA;20MANCHU ALI GALI BHA",
      "20ALI GALI DAGALGA;20MANCHU ALI GALI LHA"]⟩,
    ⟨0x18b0, [
      "00CANADIAN SYLLABICS OY;20AY;20AAY;20WAY;20POY;20PAY;20PWOY;20TAY;20KAY;20KWAY;20MAY",
      "20NOY;20NAY;20LAY;20SOY;20SAY;20SHOY;20SHAY;20SHWOY;20YOY;20YAY;20RAY;20NWI;21OJIBWAY",
      "20NWII;21OJIBWAY;20NWO;21OJIBWAY;20NWOO;21OJIBWAY;20RWEE;20RWI;20RWII;20RWO;20RWOO;20RWA",
      "20OJIBWAY P;30T;30K;30C;30M;30N;30S;30SH;20EASTERN W;21WESTERN;20FINAL SMALL RING",
      "30RAISED DOT;20R-CREE RWE;20WEST-CREE LOO;30LAA;20THWE;20THWA;20TTHWE;20TTHOO;20TTHAA",
      "20TLHWE;20TLHOO;20SAYISI SHWE;30SHOO;30HOO;20CARRIER GWU;30DENE GEE;30GAA;30GWA",
      "20SAYISI JUU;20CARRIER JWA;20BEAVER DENE L;40R;20CARRIER DENTAL S"]⟩,
    ⟨0x1900, [
      "00LIMBU VOWEL-CARRIER LETTER;10LETTER KA;20KHA;20GA;20GHA;20NGA;20CA;20CHA;20JA;20JHA",
      "20YAN;20TA;20THA;20DA;20DHA;20NA;20PA;20PHA;20BA;20BHA;20MA;20YA;20RA;20LA;20WA;20SHA",
      "20SSA;20SA;20HA;20GYAN;20TRA"]⟩,
    ⟨0x1920, [
      "00LIMBU VOWEL SIGN A;30I;30U;30EE;30AI;30OO;30AU;30E;30O;10SUBJOINED LETTER YA;30RA;30WA"]⟩,
    ⟨0x1930, [
      "00LIMBU SMALL LETTER KA;30NGA;30ANUSVARA;30TA;30NA;30PA;30MA;30RA;30LA;10SIGN MUKPHRENG",
      "20KEMPHRENG;20SA-I"]⟩,
    ⟨0x1940, ["00LIMBU SIGN LOO"]⟩,
    ⟨0x1944, [
      "00LIMBU EXCLAMATION MARK;11QUESTION;10DIGIT ZERO;20ONE;20TWO;20THREE;20FOUR;20FIVE;20SIX",
      "20SEVEN;20EIGHT;20NINE;00TAI LE LETTER KA;30XA;30NGA;30TSA;30SA;30YA;30TA;30THA;30LA;30PA",
      "30PHA;30MA;30FA;30VA;30HA;30QA;30KHA;30TSHA;30NA;30A;30I;30EE;30EH;30U;30OO;30O;30UE;30E",
      "30AUE;30AI"]⟩,
    ⟨0x1970, ["00TAI LE LETTER TONE-2;30TONE-3;30TONE-4;30TONE-5;30TONE-6"]⟩,
    ⟨0x1980, [
      "00NEW TAI LUE LETTER HIGH QA;41LOW;40HIGH KA;50XA;50NGA;40LOW KA;50XA;50NGA;40HIGH TSA",
      "50SA;50YA;40LOW TSA;50SA;50YA;40HIGH TA;50THA;50NA;40LOW TA;50THA;50NA;40HIGH PA;50PHA",
      "50MA;40LOW PA;50PHA;50MA;40HIGH FA;50VA;50LA;40LOW FA;50VA;50LA;40HIGH HA;50DA;50BA",
      "40LOW HA;50DA;50BA;40HIGH KVA;50XVA;40LOW KVA;50XVA;40HIGH SUA;41LOW"]⟩,
    ⟨0x19b0, [
      "00NEW TAI LUE VOWEL SIGN VOWEL SHORTENER;50AA;50II;50U;50UU;50E;50AE;50O;50OA;50UE;50AY",
      "50AAY;50UY;50OY;50OAY;50UEY;50IY;30LETTER FINAL V;50NG;50N;50M;50K;50D;50B;30TONE MARK-1",
      "40MARK-2"]⟩,
    ⟨0x19d0, [
      "00NEW TAI LUE DIGIT ZERO;40ONE;40TWO;40THREE;40FOUR;40FIVE;40SIX;40SEVEN;40EIGHT;40NINE",
      "30THAM DIGIT ONE"]⟩,
    ⟨0x19de, [
      "00NEW TAI LUE SIGN LAE;40LAEV;00KHMER SYMBOL PATHAMASAT;20MUOY KOET;21PII;21BEI;21BUON",
      "21PRAM;21PRAM-MUOY;21PRAM-PII;21PRAM-BEI;21PRAM-BUON;21DAP;21DAP-MUOY;21DAP-PII;21DAP-BEI",
      "21DAP-BUON;21DAP-PRAM;20TUTEYASAT;20MUOY ROC;21PII;21BEI;21BUON;21PRAM;21PRAM-MUOY",
      "21PRAM-PII;21PRAM-BEI;21PRAM-BUON;21DAP;21DAP-MUOY;21DAP-PII;21DAP-BEI;21DAP-BUON",
      "21DAP-PRAM;00BUGINESE LETTER KA;20GA;20NGA;20NGKA;20PA;20BA;20MA;20MPA;20TA;20DA;20NA",
      "20NRA;20CA;20JA;20NYA;20NYCA;20YA;20RA;20LA;20VA;20SA;20A;20HA;10VOWEL SIGN I;30U;30E;30O",
      "30AE"]⟩,
    ⟨0x1a1e, [
      "00BUGINESE PALLAWA;10END OF SECTION;00TAI THAM LETTER HIGH KA;40KHA;40KXA;30LOW KA;40KXA",
      "40KHA;30NGA;30HIGH CA;40CHA;30LOW CA;40SA;40CHA;30NYA;30RATA;30HIGH RATHA;30DA",
      "30LOW RATHA;30RANA;30HIGH TA;40THA;30LOW TA;40THA;30NA;30BA;30HIGH PA;40PHA;40FA;30LOW PA",
      "40FA;40PHA;30MA;30LOW YA;31HIGH;30RA;30RUE;30LA;30LUE;30WA;30HIGH SHA;40SSA;40SA;40HA",
      "30LLA;30A;30LOW HA;30I;30II;30U;30UU;30EE;30OO;30LAE;30GREAT SA",
      "20CONSONANT SIGN MEDIAL RA;50LA;40LA TANG LAI;21SIGN MAI KANG;20CONSONANT SIGN FINAL NGA",
      "40LOW PA;42HIGH RATHA OR;40MA;40BA;40SA"]⟩,
    ⟨0x1a60, [
      "00TAI THAM SIGN SAKOT;20VOWEL SIGN A;40MAI SAT;40AA;41TALL;40I;40II;40UE;40UUE;40U;40UU",
      "40O;40OA BELOW;40OY;40E;40AE;40OO;40AI;41THAM;40OA ABOVE;20SIGN MAI KANG;30TONE-1",
      "30TONE-2;30KHUEN TONE-3;40TONE-4;40TONE-5;30RA HAAM;30MAI SAM;30KHUEN-LUE KARAN"]⟩,
    ⟨0x1a7f, [
      "00TAI THAM COMBINING CRYPTOGRAMMIC DOT;20HORA DIGIT ZERO;40ONE;40TWO;40THREE;40FOUR",
      "40FIVE;40SIX;40SEVEN;40EIGHT;40NINE"]⟩,
    ⟨0x1a90, [
      "00TAI THAM THAM DIGIT ZERO;40ONE;40TWO;40THREE;40FOUR;40FIVE;40SIX;40SEVEN;40EIGHT;40NINE"]⟩,
    ⟨0x1aa0, [
      "00TAI THAM SIGN WIANG;30WIANGWAAK;30SAWAN;30KEOW;30HOY;30DOKMAI;30REVERSED ROTATED RANA",
      "30MAI YAMOK;30KAAN;30KAANKUU;30SATKAAN;30SATKAANKUU;30HANG;30CAANG"]⟩,
    ⟨0x1ab0, [
      "00COMBINING DOUBLED CIRCUMFLEX ACCENT;10DIAERESIS-RING;10INFINITY;10DOWNWARDS ARROW",
      "10TRIPLE DOT;10X-X BELOW;11WIGGLY LINE;11OPEN MARK;13DOUBLE;11LIGHT CENTRALIZATION STROKE",
      "13STRONG;10PARENTHESES ABOVE;12DOUBLE;10PARENTHESES BELOW;20OVERLAY",
      "10LATIN SMALL LETTER W BELOW;42TURNED;10LEFT PARENTHESIS ABOVE LEFT",
      "10RIGHT PARENTHESIS ABOVE RIGHT;10LEFT PARENTHESIS BELOW LEFT",
      "10RIGHT PARENTHESIS BELOW RIGHT;10SQUARE BRACKETS ABOVE;11NUMBER SIGN",
      "11INVERTED DOUBLE ARCH;11PLUS SIGN;13DOUBLE;40BELOW;10TRIPLE ACUTE ACCENT",
      "10LATIN SMALL LETTER INSULAR G;50R;50T"]⟩,
    ⟨0x1b00, [
      "00BALINESE SIGN ULU RICEM;30CANDRA;20CECEK;20SURANG;20BISAH;10LETTER AKARA;30TEDUNG",
      "20IKARA;30TEDUNG;20UKARA;30TEDUNG;20RA REPA;40TEDUNG;20LA LENGA;40TEDUNG;20EKARA;20AIKARA",
      "20OKARA;30TEDUNG;20KA;30MAHAPRANA;20GA;30GORA;20NGA;20CA;30LACA;20JA;30JERA;20NYA",
      "20TA LATIK;30MURDA MAHAPRANA;20DA MURDA ALPAPRANA;40MAHAPRANA;20NA RAMBAT;20TA;30TAWA",
      "20DA;30MADU;20NA;20PA;30KAPAL;20BA;30KEMBANG;20MA;20YA;20RA;20LA;20WA;20SA SAGA;30SAPA;30",
      "20HA;10SIGN REREKAN;10VOWEL SIGN TEDUNG;30ULU;40SARI;30SUKU;40ILUT;30RA REPA;50TEDUNG",
      "30LA LENGA;50TEDUNG;30TALING;40REPA;40TEDUNG;41REPA;30PEPET;40TEDUNG;10ADEG ADEG",
      "10LETTER KAF SASAK;21KHOT;21TZIR;21EF;21VE;21ZAL;21ASYURA;20ARCHAIC JNYA"]⟩,
    ⟨0x1b50, [
      "00BALINESE DIGIT ZERO;20ONE;20TWO;20THREE;20FOUR;20FIVE;20SIX;20SEVEN;20EIGHT;20NINE",
      "10PANTI;10PAMADA;10WINDU;10CARIK PAMUNGKAH;20SIKI;20PAREREN;10PAMENENG",
      "10MUSICAL SYMBOL DONG;30DENG;30DUNG;30DANG;40SURANG;30DING;30DAENG;30DEUNG;30DAING",
      "30DANG GEDE;30COMBINING TEGEH;40ENDEP;40KEMPUL;40KEMPLI;40JEGOGAN;41KEMPUL WITH;42KEMPLI",
      "40BENDE;40GONG;30RIGHT-HAND OPEN DUG;50DAG;40CLOSED TUK;50TAK;30LEFT-HAND OPEN PANG",
      "50PUNG;40CLOSED PLAK;50PLUK;40OPEN PING;10PANTI LANTANG;11PAMADA"]⟩,
    ⟨0x1b80, [
      "00SUNDANESE SIGN PANYECEK;20PANGLAYAR;20PANGWISAD;10LETTER A;20I;20U;20AE;20O;20E;20EU",
      "20KA;20QA;20GA;20NGA;20CA;20JA;20ZA;20NYA;20TA;20DA;20NA;20PA;20FA;20VA;20BA;20MA;20YA",
      "20RA;20LA;20WA;20SA;20XA;20HA;10CONSONANT SIGN PAMINGKAL;30PANYAKRA;30PANYIKU",
      "10VOWEL SIGN PANGHULU;30PANYUKU;30PANAELAENG;30PANOLONG;30PAMEPET;30PANEULEUNG",
      "10SIGN PAMAAEH;20VIRAMA;10CONSONANT SIGN PASANGAN MA;40WA;10LETTER KHA;20SYA;10DIGIT ZERO",
      "20ONE;20TWO;20THREE;20FOUR;20FIVE;20SIX;20SEVEN;20EIGHT;20NINE;10AVAGRAHA;10LETTER REU",
      "20LEU;20BHA;20FINAL K;30M;00BATAK LETTER A;21SIMALUNGUN;20HA;21SIMALUNGUN;21MANDAILING",
      "20BA;21KARO;20PA;21SIMALUNGUN;20NA;21MANDAILING;20WA;21SIMALUNGUN;21PAKPAK;20GA",
      "21SIMALUNGUN;20JA;20DA;20RA;21SIMALUNGUN;20MA;21SIMALUNGUN;20SOUTHERN TA;21NORTHERN;20SA",
      "21SIMALUNGUN;21MANDAILING;20YA;21SIMALUNGUN;20NGA;20LA;21SIMALUNGUN;20NYA;20CA;20NDA",
      "20MBA;20I;20U;10SIGN TOMPI;10VOWEL SIGN E;31PAKPAK;30EE;30I;31KARO;30O;31KARO;30U",
      "40FOR SIMALUNGUN SA;10CONSONANT SIGN NG;30H;10PANGOLAT;10PANONGONAN"]⟩,
    ⟨0x1bfc, ["00BATAK SYMBOL BINDU NA METEK;30PINARBORAS;30JUDUL;30PANGOLAT"]⟩]

end SafeFetch.Text.CharacterName
