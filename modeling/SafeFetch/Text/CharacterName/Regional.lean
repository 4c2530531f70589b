import SafeFetch.Text.CharacterName.Basic

/-!
# The names of regional scripts

The characters from 11000 on: scripts of single peoples and faiths of southern Asia.
-/

namespace SafeFetch.Text.CharacterName

/-- The names of regional scripts. -/
def regional : List Run :=
  [
    ⟨0x11000, [
      "00BRAHMI SIGN CANDRABINDU;20ANUSVARA;20VISARGA;20JIHVAMULIYA;20UPADHMANIYA;10LETTER A",
      "20AA;20I;20II;20U;20UU;20VOCALIC R;30RR;30L;30LL;20E;20AI;20O;20AU;20KA;20KHA;20GA;20GHA",
      "20NGA;20CA;20CHA;20JA;20JHA;20NYA;20TTA;20TTHA;20DDA;20DDHA;20NNA;20TA;20THA;20DA;20DHA",
      "20NA;20PA;20PHA;20BA;20BHA;20MA;20YA;20RA;20LA;20VA;20SHA;20SSA;20SA;20HA;20LLA",
      "20OLD TAMIL LLLA;40RRA;40NNNA;10VOWEL SIGN AA;31BHATTIPROLU;30I;30II;30U;30UU;30VOCALIC R",
      "40RR;40L;40LL;30E;30AI;30O;30AU;10VIRAMA;10DANDA;11DOUBLE;10PUNCTUATION DOT;21DOUBLE",
      "20LINE;20CRESCENT BAR;20LOTUS"]⟩,
    ⟨0x11052, [
      "00BRAHMI NUMBER ONE;20TWO;20THREE;20FOUR;20FIVE;20SIX;20SEVEN;20EIGHT;20NINE;20TEN",
      "20TWENTY;20THIRTY;20FORTY;20FIFTY;20SIXTY;20SEVENTY;20EIGHTY;20NINETY;20ONE HUNDRED",
      "30THOUSAND;10DIGIT ZERO;20ONE;20TWO;20THREE;20FOUR;20FIVE;20SIX;20SEVEN;20EIGHT;20NINE",
      "10SIGN OLD TAMIL VIRAMA;10LETTER OLD TAMIL SHORT E;50O;10VOWEL SIGN OLD TAMIL SHORT E;60O",
      "10LETTER OLD TAMIL LLA"]⟩,
    ⟨0x1107f, [
      "00BRAHMI NUMBER JOINER;00KAITHI SIGN CANDRABINDU;20ANUSVARA;20VISARGA;10LETTER A;20AA;20I",
      "20II;20U;20UU;20E;20AI;20O;20AU;20KA;20KHA;20GA;20GHA;20NGA;20CA;20CHA;20JA;20JHA;20NYA",
      "20TTA;20TTHA;20DDA;20DDDHA;20DDHA;20RHA;20NNA;20TA;20THA;20DA;20DHA;20NA;20PA;20PHA;20BA",
      "20BHA;20MA;20YA;20RA;20LA;20VA;20SHA;20SSA;20SA;20HA;10VOWEL SIGN AA;30I;30II;30U;30UU",
      "30E;30AI;30O;30AU;10SIGN VIRAMA;20NUKTA;10ABBREVIATION SIGN;11ENUMERATION;11NUMBER",
      "10SECTION MARK;12DOUBLE;10DANDA;11DOUBLE;10VOWEL SIGN VOCALIC R"]⟩,
    ⟨0x110cd, ["00KAITHI NUMBER SIGN ABOVE"]⟩,
    ⟨0x110d0, [
      "00SORA SOMPENG LETTER SAH;30TAH;30BAH;30CAH;30DAH;30GAH;30MAH;30NGAH;30LAH;30NAH;30VAH",
      "30PAH;30YAH;30RAH;30HAH;30KAH;30JAH;30NYAH;30AH;30EEH;30IH;30UH;30OH;30EH;30MAE"]⟩,
    ⟨0x110f0, [
      "00SORA SOMPENG DIGIT ZERO;30ONE;30TWO;30THREE;30FOUR;30FIVE;30SIX;30SEVEN;30EIGHT;30NINE"]⟩,
    ⟨0x11100, [
      "00CHAKMA SIGN CANDRABINDU;20ANUSVARA;20VISARGA;10LETTER AA;20I;20U;20E;20KAA;20KHAA;20GAA",
      "20GHAA;20NGAA;20CAA;20CHAA;20JAA;20JHAA;20NYAA;20TTAA;20TTHAA;20DDAA;20DDHAA;20NNAA;20TAA",
      "20THAA;20DAA;20DHAA;20NAA;20PAA;20PHAA;20BAA;20BHAA;20MAA;20YYAA;20YAA;20RAA;20LAA;20WAA",
      "20SAA;20HAA;10VOWEL SIGN A;30I;30II;30U;30UU;30E;30AI;30O;30AU;30OI;10O MARK;11AU",
      "10VIRAMA;10MAAYYAA"]⟩,
    ⟨0x11136, [
      "00CHAKMA DIGIT ZERO;20ONE;20TWO;20THREE;20FOUR;20FIVE;20SIX;20SEVEN;20EIGHT;20NINE",
      "10SECTION MARK;10DANDA;11DOUBLE;10QUESTION MARK;10LETTER LHAA;10VOWEL SIGN AA;30EI",
      "10LETTER VAA"]⟩,
    ⟨0x11150, [
      "00MAHAJANI LETTER A;20I;20U;20E;20O;20KA;20KHA;20GA;20GHA;20CA;20CHA;20JA;20JHA;20NYA",
      "20TTA;20TTHA;20DDA;20DDHA;20NNA;20TA;20THA;20DA;20DHA;20NA;20PA;20PHA;20BA;20BHA;20MA",
      "20RA;20LA;20VA;20SA;20HA;20RRA;10SIGN NUKTA;10ABBREVIATION SIGN;10SECTION MARK",
      "10LIGATURE SHRI"]⟩,
    ⟨0x11180, [
      "00SHARADA SIGN CANDRABINDU;20ANUSVARA;20VISARGA;10LETTER A;20AA;20I;20II;20U;20UU",
      "20VOCALIC R;30RR;30L;30LL;20E;20AI;20O;20AU;20KA;20KHA;20GA;20GHA;20NGA;20CA;20CHA;20JA",
      "20JHA;20NYA;20TTA;20TTHA;20DDA;20DDHA;20NNA;20TA;20THA;20DA;20DHA;20NA;20PA;20PHA;20BA",
      "20BHA;20MA;20YA;20RA;20LA;20LLA;20VA;20SHA;20SSA;20SA;20HA;10VOWEL SIGN AA;30I;30II;30U",
      "30UU;30VOCALIC R;40RR;40L;40LL;30E;30AI;30O;30AU;10SIGN VIRAMA;20AVAGRAHA;20JIHVAMULIYA",
      "20UPADHMANIYA;10OM;10DANDA;11DOUBLE;10ABBREVIATION SIGN;10SEPARATOR;10SANDHI MARK",
      "10SIGN NUKTA;10VOWEL MODIFIER MARK;11EXTRA SHORT VOWEL;11SUTRA",
      "10VOWEL SIGN PRISHTHAMATRA E;10SIGN INVERTED CANDRABINDU;10DIGIT ZERO;20ONE;20TWO;20THREE",
      "20FOUR;20FIVE;20SIX;20SEVEN;20EIGHT;20NINE;10EKAM;10SIGN SIDDHAM;10HEADSTROKE",
      "10CONTINUATION SIGN;10SECTION MARK-1;20MARK-2"]⟩,
    ⟨0x111e1, [
      "00SINHALA ARCHAIC DIGIT ONE;30TWO;30THREE;30FOUR;30FIVE;30SIX;30SEVEN;30EIGHT;30NINE",
      "20NUMBER TEN;30TWENTY;30THIRTY;30FORTY;30FIFTY;30SIXTY;30SEVENTY;30EIGHTY;30NINETY",
      "30ONE HUNDRED;40THOUSAND"]⟩,
    ⟨0x11200, [
      "00KHOJKI LETTER A;20AA;20I;20U;20E;20AI;20O;20AU;20KA;20KHA;20GA;20GGA;20GHA;20NGA;20CA",
      "20CHA;20JA;20JJA"]⟩,
    ⟨0x11213, [
      "00KHOJKI LETTER NYA;20TTA;20TTHA;20DDA;20DDHA;20NNA;20TA;20THA;20DA;20DDDA;20DHA;20NA",
      "20PA;20PHA;20BA;20BBA;20BHA;20MA;20YA;20RA;20LA;20VA;20SA;20HA;20LLA;10VOWEL SIGN AA;30I",
      "30II;30U;30E;30AI;30O;30AU;10SIGN ANUSVARA;20VIRAMA;20NUKTA;20SHADDA;10DANDA;11DOUBLE",
      "10WORD SEPARATOR;10SECTION MARK;12DOUBLE;10ABBREVIATION SIGN;10SIGN SUKUN"]⟩,
    ⟨0x11280, ["00MULTANI LETTER A;20I;20U;20E;20KA;20KHA;20GA"]⟩,
    ⟨0x11288, ["00MULTANI LETTER GHA"]⟩, ⟨0x1128a, ["00MULTANI LETTER CA;20CHA;20JA;20JJA"]⟩,
    ⟨0x1128f, [
      "00MULTANI LETTER NYA;20TTA;20TTHA;20DDA;20DDDA;20DDHA;20NNA;20TA;20THA;20DA;20DHA;20NA",
      "20PA;20PHA;20BA"]⟩,
    ⟨0x1129f, [
      "00MULTANI LETTER BHA;20MA;20YA;20RA;20LA;20VA;20SA;20HA;20RRA;20RHA;10SECTION MARK"]⟩,
    ⟨0x112b0, [
      "00KHUDAWADI LETTER A;20AA;20I;20II;20U;20UU;20E;20AI;20O;20AU;20KA;20KHA;20GA;20GGA;20GHA",
      "20NGA;20CA;20CHA;20JA;20JJA;20JHA;20NYA;20TTA;20TTHA;20DDA;20DDDA;20RRA;20DDHA;20NNA;20TA",
      "20THA;20DA;20DHA;20NA;20PA;20PHA;20BA;20BBA;20BHA;20MA;20YA;20RA;20LA;20VA;20SHA;20SA",
      "20HA;10SIGN ANUSVARA;10VOWEL SIGN AA;30I;30II;30U;30UU;30E;30AI;30O;30AU;10SIGN NUKTA",
      "20VIRAMA"]⟩,
    ⟨0x112f0, [
      "00KHUDAWADI DIGIT ZERO;20ONE;20TWO;20THREE;20FOUR;20FIVE;20SIX;20SEVEN;20EIGHT;20NINE"]⟩,
    ⟨0x11300, ["00GRANTHA SIGN COMBINING ANUSVARA ABOVE;20CANDRABINDU;20ANUSVARA;20VISARGA"]⟩,
    ⟨0x11305, ["00GRANTHA LETTER A;20AA;20I;20II;20U;20UU;20VOCALIC R;30L"]⟩,
    ⟨0x1130f, ["00GRANTHA LETTER EE;20AI"]⟩,
    ⟨0x11313, [
      "00GRANTHA LETTER OO;20AU;20KA;20KHA;20GA;20GHA;20NGA;20CA;20CHA;20JA;20JHA;20NYA;20TTA",
      "20TTHA;20DDA;20DDHA;20NNA;20TA;20THA;20DA;20DHA;20NA"]⟩,
    ⟨0x1132a, ["00GRANTHA LETTER PA;20PHA;20BA;20BHA;20MA;20YA;20RA"]⟩,
    ⟨0x11332, ["00GRANTHA LETTER LA;20LLA"]⟩,
    ⟨0x11335, ["00GRANTHA LETTER VA;20SHA;20SSA;20SA;20HA"]⟩,
    ⟨0x1133b, [
      "00COMBINING BINDU BELOW;00GRANTHA SIGN NUKTA;20AVAGRAHA;10VOWEL SIGN AA;30I;30II;30U;30UU",
      "30VOCALIC R;40RR"]⟩,
    ⟨0x11347, ["00GRANTHA VOWEL SIGN EE;30AI"]⟩,
    ⟨0x1134b, ["00GRANTHA VOWEL SIGN OO;30AU;10SIGN VIRAMA"]⟩, ⟨0x11350, ["00GRANTHA OM"]⟩,
    ⟨0x11357, ["00GRANTHA AU LENGTH MARK"]⟩,
    ⟨0x1135d, [
      "00GRANTHA SIGN PLUTA;10LETTER VEDIC ANUSVARA;31DOUBLE;20VOCALIC RR;30LL",
      "10VOWEL SIGN VOCALIC L;40LL"]⟩,
    ⟨0x11366, ["00COMBINING GRANTHA DIGIT ZERO;30ONE;30TWO;30THREE;30FOUR;30FIVE;30SIX"]⟩,
    ⟨0x11370, ["00COMBINING GRANTHA LETTER A;30KA;30NA;30VI;30PA"]⟩,
    ⟨0x11400, [
      "00NEWA LETTER A;20AA;20I;20II;20U;20UU;20VOCALIC R;30RR;30L;30LL;20E;20AI;20O;20AU;20KA",
      "20KHA;20GA;20GHA;20NGA;20NGHA;20CA;20CHA;20JA;20JHA;20NYA;20NYHA;20TTA;20TTHA;20DDA",
      "20DDHA;20NNA;20TA;20THA;20DA;20DHA;20NA;20NHA;20PA;20PHA;20BA;20BHA;20MA;20MHA;20YA;20RA",
      "20RHA;20LA;20LHA;20WA;20SHA;20SSA;20SA;20HA;10VOWEL SIGN AA;30I;30II;30U;30UU;30VOCALIC R",
      "40RR;40L;40LL;30E;30AI;30O;30AU;10SIGN VIRAMA;20CANDRABINDU;20ANUSVARA;20VISARGA;20NUKTA",
      "20AVAGRAHA;20FINAL ANUSVARA;10OM;10SIDDHI;10DANDA;11DOUBLE;10COMMA;10GAP FILLER",
      "10ABBREVIATION SIGN;10DIGIT ZERO;20ONE;20TWO;20THREE;20FOUR;20FIVE;20SIX;20SEVEN;20EIGHT",
      "20NINE;10DOUBLE COMMA;10PLACEHOLDER MARK"]⟩,
    ⟨0x1145d, [
      "00NEWA INSERTION SIGN;10SANDHI MARK;10LETTER VEDIC ANUSVARA;10SIGN JIHVAMULIYA",
      "20UPADHMANIYA"]⟩,
    ⟨0x11480, [
      "00TIRHUTA ANJI;10LETTER A;20AA;20I;20II;20U;20UU;20VOCALIC R;30RR;30L;30LL;20E;20AI;20O",
      "20AU;20KA;20KHA;20GA;20GHA;20NGA;20CA;20CHA;20JA;20JHA;20NYA;20TTA;20TTHA;20DDA;20DDHA",
      "20NNA;20TA;20THA;20DA;20DHA;20NA;20PA;20PHA;20BA;20BHA;20MA;20YA;20RA;20LA;20VA;20SHA",
      "20SSA;20SA;20HA;10VOWEL SIGN AA;30I;30II;30U;30UU;30VOCALIC R;40RR;40L;40LL;30E;31SHORT",
      "30AI;30O;31SHORT;30AU;10SIGN CANDRABINDU;20ANUSVARA;20VISARGA;20VIRAMA;20NUKTA;20AVAGRAHA",
      "10GVANG;10ABBREVIATION SIGN;10OM"]⟩,
    ⟨0x114d0, [
      "00TIRHUTA DIGIT ZERO;20ONE;20TWO;20THREE;20FOUR;20FIVE;20SIX;20SEVEN;20EIGHT;20NINE"]⟩,
    ⟨0x11580, [
      "00SIDDHAM LETTER A;20AA;20I;20II;20U;20UU;20VOCALIC R;30RR;30L;30LL;20E;20AI;20O;20AU",
      "20KA;20KHA;20GA;20GHA;20NGA;20CA;20CHA;20JA;20JHA;20NYA;20TTA;20TTHA;20DDA;20DDHA;20NNA",
      "20TA;20THA;20DA;20DHA;20NA;20PA;20PHA;20BA;20BHA;20MA;20YA;20RA;20LA;20VA;20SHA;20SSA",
      "20SA;20HA;10VOWEL SIGN AA;30I;30II;30U;30UU;30VOCALIC R;40RR"]⟩,
    ⟨0x115b8, [
      "00SIDDHAM VOWEL SIGN E;30AI;30O;30AU;10SIGN CANDRABINDU;20ANUSVARA;20VISARGA;20VIRAMA",
      "20NUKTA;20SIDDHAM;10DANDA;11DOUBLE;10SEPARATOR DOT;20BAR;10REPETITION MARK-1;20MARK-2",
      "20MARK-3;10END OF TEXT MARK;10SECTION MARK WITH TRIDENT AND U-SHAPED ORNAMENTS",
      "60DOTTED CRESCENTS;43RAYS;71DOUBLE;71TRIPLE;30DOUBLE RING;50WITH RAYS",
      "30WITH DOUBLE CRESCENTS;41TRIPLE;41QUADRUPLE;41SEPTUPLE;40CIRCLES AND RAYS",
      "60TWO ENCLOSURES;61FOUR;10LETTER THREE-CIRCLE ALTERNATE I;22TWO-CIRCLE;40II;20ALTERNATE U",
      "12VOWEL SIGN;40UU"]⟩,
    ⟨0x11600, [
      "00MODI LETTER A;20AA;20I;20II;20U;20UU;20VOCALIC R;30RR;30L;30LL;20E;20AI;20O;20AU;20KA",
      "20KHA;20GA;20GHA;20NGA;20CA;20CHA;20JA;20JHA;20NYA;20TTA;20TTHA;20DDA;20DDHA;20NNA;20TA",
      "20THA;20DA;20DHA;20NA;20PA;20PHA;20BA;20BHA;20MA;20YA;20RA;20LA;20VA;20SHA;20SSA;20SA",
      "20HA;20LLA;10VOWEL SIGN AA;30I;30II;30U;30UU;30VOCALIC R;40RR;40L;40LL;30E;30AI;30O;30AU",
      "10SIGN ANUSVARA;20VISARGA;20VIRAMA;20ARDHACANDRA;10DANDA;11DOUBLE;10ABBREVIATION SIGN",
      "10SIGN HUVA"]⟩,
    ⟨0x11650, ["00MODI DIGIT ZERO;20ONE;20TWO;20THREE;20FOUR;20FIVE;20SIX;20SEVEN;20EIGHT;20NINE"]⟩,
    ⟨0x11660, [
      "00MONGOLIAN BIRGA WITH ORNAMENT;10ROTATED BIRGA;10DOUBLE BIRGA WITH ORNAMENT;13TRIPLE",
      "11BIRGA WITH DOUBLE;11ROTATED BIRGA WITH;41DOUBLE;10INVERTED BIRGA;30WITH DOUBLE ORNAMENT",
      "10SWIRL BIRGA;30WITH ORNAMENT;41DOUBLE;15TURNED"]⟩,
    ⟨0x11680, [
      "00TAKRI LETTER A;20AA;20I;20II;20U;20UU;20E;20AI;20O;20AU;20KA;20KHA;20GA;20GHA;20NGA",
      "20CA;20CHA;20JA;20JHA;20NYA;20TTA;20TTHA;20DDA;20DDHA;20NNA;20TA;20THA;20DA;20DHA;20NA",
      "20PA;20PHA;20BA;20BHA;20MA;20YA;20RA;20LA;20VA;20SHA;20SA;20HA;20RRA;10SIGN ANUSVARA",
      "20VISARGA;10VOWEL SIGN AA;30I;30II;30U;30UU;30E;30AI;30O;30AU;10SIGN VIRAMA;20NUKTA",
      "10LETTER ARCHAIC KHA;10ABBREVIATION SIGN"]⟩,
    ⟨0x116c0, [
      "00TAKRI DIGIT ZERO;20ONE;20TWO;20THREE;20FOUR;20FIVE;20SIX;20SEVEN;20EIGHT;20NINE"]⟩,
    ⟨0x11700, [
      "00AHOM LETTER KA;20KHA;20NGA;20NA;20TA;21ALTERNATE;20PA;20PHA;20BA;20MA;20JA;20CHA;20THA",
      "20RA;20LA;20SA;20NYA;20HA;20A;20DA;20DHA;20GA;21ALTERNATE;20GHA;20BHA;20JHA",
      "20ALTERNATE BA"]⟩,
    ⟨0x1171d, [
      "00AHOM CONSONANT SIGN MEDIAL LA;40RA;41LIGATING;10VOWEL SIGN A;30AA;30I;30II;30U;30UU;30E",
      "30AW;30O;30AI;30AM;10SIGN KILLER"]⟩,
    ⟨0x11730, [
      "00AHOM DIGIT ZERO;20ONE;20TWO;20THREE;20FOUR;20FIVE;20SIX;20SEVEN;20EIGHT;20NINE",
      "10NUMBER TEN;20TWENTY;10SIGN SMALL SECTION;21;20RULAI;10SYMBOL VI;10LETTER CA;20TTA",
      "20TTHA;20DDA;20DDHA;20NNA;20LLA"]⟩,
    ⟨0x11800, [
      "00DOGRA LETTER A;20AA;20I;20II;20U;20UU;20E;20AI;20O;20AU;20KA;20KHA;20GA;20GHA;20NGA",
      "20CA;20CHA;20JA;20JHA;20NYA;20TTA;20TTHA;20DDA;20DDHA;20NNA;20TA;20THA;20DA;20DHA;20NA",
      "20PA;20PHA;20BA;20BHA;20MA;20YA;20RA;20LA;20VA;20SHA;20SSA;20SA;20HA;20RRA",
      "10VOWEL SIGN AA;30I;30II;30U;30UU;30VOCALIC R;40RR;30E;30AI;30O;30AU;10SIGN ANUSVARA",
      "20VISARGA;20VIRAMA;20NUKTA;10ABBREVIATION SIGN"]⟩,
    ⟨0x118a0, [
      "00WARANG CITI CAPITAL LETTER NGAA;40A;40WI;40YU;40YA;40YO;40II;40UU;40E;40O;40ANG;40GA",
      "40KO;40ENY;40YUJ;40UC;40ENN;40ODD;40TTE;40NUNG;40DA;40AT;40AM;40BU;40PU;40HIYO;40HOLO",
      "40HORR;40HAR;40SSUU;40SII;40VIYO;20SMALL LETTER NGAA;40A;40WI;40YU;40YA;40YO;40II;40UU",
      "40E;40O;40ANG;40GA;40KO;40ENY;40YUJ;40UC;40ENN;40ODD;40TTE;40NUNG;40DA;40AT;40AM;40BU",
      "40PU;40HIYO;40HOLO;40HORR;40HAR;40SSUU;40SII;40VIYO;20DIGIT ZERO;30ONE;30TWO;30THREE",
      "30FOUR;30FIVE;30SIX;30SEVEN;30EIGHT;30NINE;20NUMBER TEN;30TWENTY;30THIRTY;30FORTY;30FIFTY",
      "30SIXTY;30SEVENTY;30EIGHTY;30NINETY"]⟩,
    ⟨0x118ff, ["00WARANG CITI OM;00DIVES AKURU LETTER A;30AA;30I;30II;30U;30UU;30E"]⟩,
    ⟨0x11909, ["00DIVES AKURU LETTER O"]⟩,
    ⟨0x1190c, ["00DIVES AKURU LETTER KA;30KHA;30GA;30GHA;30NGA;30CA;30CHA;30JA"]⟩,
    ⟨0x11915, ["00DIVES AKURU LETTER NYA;30TTA"]⟩,
    ⟨0x11918, [
      "00DIVES AKURU LETTER DDA;30DDHA;30NNA;30TA;30THA;30DA;30DHA;30NA;30PA;30PHA;30BA;30BHA",
      "30MA;30YA;30YYA;30RA;30LA;30VA;30SHA;30SSA;30SA;30HA;30LLA;30ZA;20VOWEL SIGN AA;40I;40II",
      "40U;40UU;40E"]⟩,
    ⟨0x11937, ["00DIVES AKURU VOWEL SIGN AI;40O"]⟩,
    ⟨0x1193b, [
      "00DIVES AKURU SIGN ANUSVARA;30CANDRABINDU;30HALANTA;20VIRAMA;20PREFIXED NASAL SIGN",
      "20MEDIAL YA;20INITIAL RA;21MEDIAL;20SIGN NUKTA;20DOUBLE DANDA;20GAP FILLER",
      "20END OF TEXT MARK"]⟩,
    ⟨0x11950, [
      "00DIVES AKURU DIGIT ZERO;30ONE;30TWO;30THREE;30FOUR;30FIVE;30SIX;30SEVEN;30EIGHT;30NINE"]⟩,
    ⟨0x119a0, ["00NANDINAGARI LETTER A;20AA;20I;20II;20U;20UU;20VOCALIC R;30RR"]⟩,
    ⟨0x119aa, [
      "00NANDINAGARI LETTER E;20AI;20O;20AU;20KA;20KHA;20GA;20GHA;20NGA;20CA;20CHA;20JA;20JHA",
      "20NYA;20TTA;20TTHA;20DDA;20DDHA;20NNA;20TA;20THA;20DA;20DHA;20NA;20PA;20PHA;20BA;20BHA",
      "20MA;20YA;20RA;20LA;20VA;20SHA;20SSA;20SA;20HA;20LLA;20RRA;10VOWEL SIGN AA;30I;30II;30U",
      "30UU;30VOCALIC R;40RR"]⟩,
    ⟨0x119da, [
      "00NANDINAGARI VOWEL SIGN E;30AI;30O;30AU;10SIGN ANUSVARA;20VISARGA;20VIRAMA;20AVAGRAHA",
      "20SIDDHAM;10HEADSTROKE;10VOWEL SIGN PRISHTHAMATRA E"]⟩,
    ⟨0x11a00, [
      "00ZANABAZAR SQUARE LETTER A;20VOWEL SIGN I;40UE;40U;40E;40OE;40O;40AI;40AU;40REVERSED I",
      "30LENGTH MARK;20LETTER KA;30KHA;30GA;30GHA;30NGA;30CA;30CHA;30JA;30NYA;30TTA;30TTHA;30DDA",
      "30DDHA;30NNA;30TA;30THA;30DA;30DHA;30NA;30PA;30PHA;30BA;30BHA;30MA;30TSA;30TSHA;30DZA",
      "30DZHA;30ZHA;30ZA;30-A;30YA;30RA;30LA;30VA;30SHA;30SSA;30SA;30HA;30KSSA",
      "20FINAL CONSONANT MARK;20SIGN VIRAMA;30CANDRABINDU;40WITH ORNAMENT;32CANDRA;30ANUSVARA",
      "30VISARGA;20CLUSTER-INITIAL LETTER RA;20CLUSTER-FINAL LETTER YA;40RA;40LA;40VA",
      "20INITIAL HEAD MARK;22CLOSING;20MARK TSHEG;30SHAD;31DOUBLE;30LONG TSHEG",
      "20INITIAL DOUBLE-LINED HEAD MARK;23CLOSING;20SUBJOINER"]⟩,
    ⟨0x11a50, [
      "00SOYOMBO LETTER A;10VOWEL SIGN I;30UE;30U;30E;30O;30OE;30AI;30AU;30VOCALIC R;40L",
      "20LENGTH MARK;10LETTER KA;20KHA;20GA;20GHA;20NGA;20CA;20CHA;20JA;20JHA;20NYA;20TTA;20TTHA",
      "20DDA;20DDHA;20NNA;20TA;20THA;20DA;20DHA;20NA;20PA;20PHA;20BA;20BHA;20MA;20TSA;20TSHA",
      "20DZA;20ZHA;20ZA;20-A;20YA;20RA;20LA;20VA;20SHA;20SSA;20SA;20HA;20KSSA;10SIGN JIHVAMULIYA",
      "20UPADHMANIYA;10CLUSTER-INITIAL LETTER RA;30LA;30SHA;30SA;10FINAL CONSONANT SIGN G;40K",
      "40NG;40D;40N;40B;40M;40R;40L;40SH;40S;40-A;10SIGN ANUSVARA;20VISARGA;10GEMINATION MARK",
      "10SUBJOINER;10MARK TSHEG;20SHAD;21DOUBLE;20PLUTA",
      "10HEAD MARK WITH MOON AND SUN AND TRIPLE FLAME;81;70;10TERMINAL MARK-1;20MARK-2"]⟩,
    ⟨0x11ab0, [
      "00CANADIAN SYLLABICS NATTILIK HI;30HII;30HO;30HOO;30HA;30HAA;30SHRI;30SHRII;30SHRO",
      "30SHROO;30SHRA;30SHRAA;20SPE;20SPI;20SPO;20SPA;00PAU CIN HAU LETTER PA;40KA;40LA;40MA",
      "40DA;40ZA;40VA;40NGA;40HA;40GA;40KHA;40SA;40BA;40CA;40TA;40THA;40NA;40PHA;40RA;40FA;40CHA",
      "40A;40E;40I;40O;40U;40UA;40IA;40FINAL P;50K;50T;50M;50N;50L;50W;50NG;50Y",
      "30RISING TONE LONG;50;30SANDHI GLOTTAL STOP;30RISING TONE LONG FINAL;51",
      "31SANDHI GLOTTAL STOP;40TONE LONG;50;50LONG FINAL;51;30MID-LEVEL TONE",
      "30GLOTTAL STOP VARIANT;30MID-LEVEL TONE LONG FINAL;51;30LOW-FALLING TONE LONG;50",
      "30GLOTTAL STOP;30LOW-FALLING TONE LONG FINAL;51;31GLOTTAL STOP"]⟩,
    ⟨0x11c00, ["00BHAIKSUKI LETTER A;20AA;20I;20II;20U;20UU;20VOCALIC R;30RR;30L"]⟩,
    ⟨0x11c0a, [
      "00BHAIKSUKI LETTER E;20AI;20O;20AU;20KA;20KHA;20GA;20GHA;20NGA;20CA;20CHA;20JA;20JHA",
      "20NYA;20TTA;20TTHA;20DDA;20DDHA;20NNA;20TA;20THA;20DA;20DHA;20NA;20PA;20PHA;20BA;20BHA",
      "20MA;20YA;20RA;20LA;20VA;20SHA;20SSA;20SA;20HA;10VOWEL SIGN AA;30I;30II;30U;30UU",
      "30VOCALIC R;40RR;40L"]⟩,
    ⟨0x11c38, [
      "00BHAIKSUKI VOWEL SIGN E;30AI;30O;30AU;10SIGN CANDRABINDU;20ANUSVARA;20VISARGA;20VIRAMA",
      "20AVAGRAHA;10DANDA;11DOUBLE;10WORD SEPARATOR;10GAP FILLER-1;20FILLER-2"]⟩,
    ⟨0x11c50, [
      "00BHAIKSUKI DIGIT ZERO;20ONE;20TWO;20THREE;20FOUR;20FIVE;20SIX;20SEVEN;20EIGHT;20NINE",
      "10NUMBER ONE;20TWO;20THREE;20FOUR;20FIVE;20SIX;20SEVEN;20EIGHT;20NINE;20TEN;20TWENTY",
      "20THIRTY;20FORTY;20FIFTY;20SIXTY;20SEVENTY;20EIGHTY;20NINETY;10HUNDREDS UNIT MARK"]⟩,
    ⟨0x11c70, [
      "00MARCHEN HEAD MARK;10MARK SHAD;10LETTER KA;20KHA;20GA;20NGA;20CA;20CHA;20JA;20NYA;20TA",
      "20THA;20DA;20NA;20PA;20PHA;20BA;20MA;20TSA;20TSHA;20DZA;20WA;20ZHA;20ZA;20-A;20YA;20RA",
      "20LA;20SHA;20SA;20HA;20A"]⟩,
    ⟨0x11c92, [
      "00MARCHEN SUBJOINED LETTER KA;30KHA;30GA;30NGA;30CA;30CHA;30JA;30NYA;30TA;30THA;30DA;30NA",
      "30PA;30PHA;30BA;30MA;30TSA;30TSHA;30DZA;30WA;30ZHA;30ZA"]⟩,
    ⟨0x11ca9, [
      "00MARCHEN SUBJOINED LETTER YA;30RA;30LA;30SHA;30SA;30HA;30A;10VOWEL SIGN AA;30I;30U;30E",
      "30O;10SIGN ANUSVARA;20CANDRABINDU"]⟩,
    ⟨0x11d00, ["00MASARAM GONDI LETTER A;30AA;30I;30II;30U;30UU;30E"]⟩,
    ⟨0x11d08, ["00MASARAM GONDI LETTER AI;30O"]⟩,
    ⟨0x11d0b, [
      "00MASARAM GONDI LETTER AU;30KA;30KHA;30GA;30GHA;30NGA;30CA;30CHA;30JA;30JHA;30NYA;30TTA",
      "30TTHA;30DDA;30DDHA;30NNA;30TA;30THA;30DA;30DHA;30NA;30PA;30PHA;30BA;30BHA;30MA;30YA;30RA",
      "30LA;30VA;30SHA;30SSA;30SA;30HA;30LLA;30KSSA;30JNYA;30TRA;20VOWEL SIGN AA;40I;40II;40U",
      "40UU;40VOCALIC R"]⟩,
    ⟨0x11d3a, ["00MASARAM GONDI VOWEL SIGN E"]⟩, ⟨0x11d3c, ["00MASARAM GONDI VOWEL SIGN AI;40O"]⟩,
    ⟨0x11d3f, [
      "00MASARAM GONDI VOWEL SIGN AU;20SIGN ANUSVARA;30VISARGA;30NUKTA;30CANDRA;30HALANTA",
      "20VIRAMA;20REPHA;20RA-KARA"]⟩,
    ⟨0x11d50, [
      "00MASARAM GONDI DIGIT ZERO;30ONE;30TWO;30THREE;30FOUR;30FIVE;30SIX;30SEVEN;30EIGHT;30NINE"]⟩,
    ⟨0x11d60, ["00GUNJALA GONDI LETTER A;30AA;30I;30II;30U;30UU"]⟩,
    ⟨0x11d67, ["00GUNJALA GONDI LETTER EE;30AI"]⟩,
    ⟨0x11d6a, [
      "00GUNJALA GONDI LETTER OO;30AU;30YA;30VA;30BA;30BHA;30MA;30KA;30KHA;30TA;30THA;30LA;30GA",
      "30GHA;30DA;30DHA;30NA;30CA;30CHA;30TTA;30TTHA;30LLA;30JA;30JHA;30DDA;30DDHA;30NGA;30PA",
      "30PHA;30HA;30RA;30SA;20VOWEL SIGN AA;40I;40II;40U;40UU"]⟩,
    ⟨0x11d90, ["00GUNJALA GONDI VOWEL SIGN EE;40AI"]⟩,
    ⟨0x11d93, ["00GUNJALA GONDI VOWEL SIGN OO;40AU;20SIGN ANUSVARA;30VISARGA;20VIRAMA;20OM"]⟩,
    ⟨0x11da0, [
      "00GUNJALA GONDI DIGIT ZERO;30ONE;30TWO;30THREE;30FOUR;30FIVE;30SIX;30SEVEN;30EIGHT;30NINE"]⟩,
    ⟨0x11ee0, [
      "00MAKASAR LETTER KA;20GA;20NGA;20PA;20BA;20MA;20TA;20DA;20NA;20CA;20JA;20NYA;20YA;20RA",
      "20LA;20VA;20SA;20A;10ANGKA;10VOWEL SIGN I;30U;30E;30O;10PASSIMBANG;10END OF SECTION"]⟩,
    ⟨0x11fb0, ["00LISU LETTER YHA"]⟩,
    ⟨0x11fc0, [
      "00TAMIL FRACTION ONE THREE-HUNDRED-AND-TWENTIETH;30ONE-HUNDRED-AND-SIXTIETH;30EIGHTIETH",
      "30SIXTY-FOURTH;30FORTIETH;30THIRTY-SECOND;20THREE EIGHTIETHS;30SIXTY-FOURTHS",
      "20ONE TWENTIETH;30SIXTEENTH-1;30SIXTEENTH-2;30TENTH;30EIGHTH;20THREE TWENTIETHS",
      "30SIXTEENTHS;20ONE FIFTH;30QUARTER;30HALF-1;30HALF-2;20THREE QUARTERS",
      "20DOWNSCALING FACTOR KIIZH;10SIGN NEL;20CEVITU;20AAZHAAKKU;20UZHAKKU;20MUUVUZHAKKU",
      "20KURUNI;20PATHAKKU;20MUKKURUNI;20KAACU;20PANAM;20PON;20VARAAKAN;20PAARAM;20KUZHI;20VELI",
      "10WET CULTIVATION SIGN;12DRY;11LAND;11SALT PAN;11TRADITIONAL CREDIT;21NUMBER;11CURRENT",
      "11AND ODD;11SPENT;11TOTAL;11IN POSSESSION;11STARTING FROM;10SIGN MUTHALIYA;20VAKAIYARAA"]⟩,
    ⟨0x11fff, ["00TAMIL PUNCTUATION END OF TEXT"]⟩]

end SafeFetch.Text.CharacterName
