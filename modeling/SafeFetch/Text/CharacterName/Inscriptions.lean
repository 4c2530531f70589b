import SafeFetch.Text.CharacterName.Basic

/-!
# The names of inscriptions

The characters from 12000 on: cuneiform signs, hieroglyphs and syllables.
-/

namespace SafeFetch.Text.CharacterName

/-- The names of inscriptions. -/
def inscriptions : List Run :=
  [
    ⟨0x12000, [
      "00CUNEIFORM SIGN A;30TIMES A;40BAD;40GAN2 TENU;40HA;40IGI;40LAGAR GUNU;40MUSH;40SAG;20A2",
      "20AB;30TIMES ASH2;40DUN3 GUNU;40GAL;40GAN2 TENU;40HA;40IGI GUNU;40IMIN;40LAGAB;40SHESH",
      "40U PLUS U PLUS U;30GUNU;20AB2;30TIMES BALAG;40GAN2 TENU;40ME PLUS EN;40SHA3;40TAK4;20AD",
      "20AK;30TIMES ERIN2;40SHITA PLUS GISH;20AL;30TIMES AL;40DIM2;40GISH;40HA;40KAD3;40KI;40SHE",
      "40USH;20ALAN;20ALEPH;20AMAR;30TIMES SHE;20AN;30OVER AN;30THREE TIMES",
      "30PLUS NAGA OPPOSING AN PLUS NAGA;50SQUARED;20ANSHE;20APIN;20ARAD;30TIMES KUR;20ARKAB",
      "20ASAL2;20ASH;30ZIDA TENU;31KABA;30OVER ASH TUG2 OVER TUG2 TUG2 OVER TUG2 PAP;50OVER ASH",
      "70CROSSING ASH OVER ASH OVER ASH;20ASH2;20ASHGAB;20BA;20BAD;20BAG3;20BAHAR2;20BAL",
      "30OVER BAL;20BALAG;20BAR;20BARA2;20BI;30TIMES A;40GAR;40IGI GUNU;20BU;30OVER BU AB;50UN",
      "30CROSSING BU;20BULUG;30OVER BULUG;20BUR;20BUR2;20DA;20DAG;30KISIM5 TIMES A PLUS MASH",
      "50AMAR;50BALAG;50BI;50GA;60PLUS MASH;50GI;50GIR2;50GUD;50HA;50IR;60PLUS LU;50KAK;50LA",
      "50LU;60PLUS MASH2;50LUM;50NE;50PAP PLUS PAP;50SI;50TAK4;50U2 PLUS GIR2;50USH;20DAM;20DAR",
      "20DARA3;20DARA4;20DI;20DIB;20DIM;30TIMES SHE;20DIM2;20DIN;30KASKAL U GUNU DISH;21;20DU",
      "30OVER DU;30GUNU;30SHESHIG;20DUB;30TIMES ESH2;20DUB2;20DUG;20DUGUD;20DUH;20DUN;20DUN3",
      "30GUNU;40GUNU;20DUN4;20DUR2;20E;30TIMES PAP;30OVER E NUN OVER NUN;20E2",
      "30TIMES A PLUS HA PLUS DA;40GAR;40MI;40SAL;40SHE;40U;20EDIN;20EGIR;20EL;20EN;30TIMES GAN2",
      "50TENU;40ME;30CROSSING EN;31OPPOSING;30SQUARED;20EREN;20ERIN2;20ESH2;20EZEN;30TIMES A",
      "50PLUS LAL;70TIMES LAL;40AN;40BAD;40DUN3 GUNU;60GUNU;40HA;50GUNU;41IGI;40KASKAL;50SQUARED",
      "40KU3;40LA;40LAL TIMES LAL;40LI;40LU;40U2;40UD;20GA;30GUNU;20GA2",
      "30TIMES A PLUS DA PLUS HA;61;60IGI;40AB2 TENU PLUS TAB;40AN;40ASH;40ASH2 PLUS GAL;40BAD",
      "40BAR PLUS RA;40BUR;50PLUS RA;40DA;40DI;40DIM TIMES SHE;40DUB;40EL;50PLUS LA;40EN",
      "50TIMES GAN2 TENU;42;40GAR;40GI;40GI4;50PLUS A;40GIR2 PLUS SU;40HA PLUS LU PLUS ESH2",
      "40HAL;50PLUS LA;40HI PLUS LI;40HUB2;40IGI GUNU;40ISH PLUS HU PLUS ASH;40KAK;40KASKAL",
      "40KID;50PLUS LAL;40KU3 PLUS AN;40LA;40ME PLUS EN;40MI;40NUN;50OVER NUN;40PA;40SAL;40SAR",
      "40SHE;50PLUS TUR;40SHID;40SUM;40TAK4;40U;40UD;50PLUS DU;30OVER GA2;20GABA;30CROSSING GABA",
      "20GAD;30OVER GAD GAR OVER GAR;20GAL;30GAD OVER GAD GAR OVER GAR;20GALAM;20GAM;20GAN",
      "20GAN2;30TENU;30OVER GAN2;31CROSSING;20GAR;20GAR3;20GASHAN;20GESHTIN;30TIMES KUR;20GI",
      "30TIMES E;40U;30CROSSING GI;20GI4;30OVER GI4;31CROSSING;20GIDIM;20GIR2;30GUNU;20GIR3",
      "30TIMES A PLUS IGI;40GAN2 TENU;40IGI;41LU PLUS;40PA;20GISAL;20GISH;30CROSSING GISH",
      "30TIMES BAD;40TAK4;30TENU;20GU;30CROSSING GU;20GU2;30TIMES KAK;50TIMES IGI GUNU;40NUN",
      "40SAL PLUS TUG2;30GUNU;20GUD;30TIMES A PLUS KUR;41;30OVER GUD LUGAL;20GUL;20GUM",
      "30TIMES SHE;20GUR;20GUR7;20GURUN;20GURUSH;20HA;30TENU;30GUNU;20HAL;20HI;30TIMES ASH",
      "40ASH2;40BAD;40DISH;40GAD;40KIN;40NUN;40SHE;40U;20HU;20HUB2;30TIMES AN;40HAL;40KASKAL",
      "40LISH;40UD;20HUL2;20I;30A;20IB;20IDIM;30OVER IDIM BUR;50SQUARED;20IG;20IGI;30DIB;30RI",
      "30OVER IGI SHIR OVER SHIR UD OVER UD;30GUNU;20IL;30TIMES GAN2 TENU;20IL2;20IM",
      "30TIMES TAK4;30CROSSING IM;31OPPOSING;30SQUARED;20IMIN;20IN;20IR;20ISH;20KA;30TIMES A",
      "40AD;50PLUS KU3;40ASH2;40BAD;40BALAG;40BAR;40BI;40ERIN2;40ESH2;40GA;40GAL;40GAN2 TENU",
      "40GAR;50PLUS SHA3 PLUS A;40GI;40GIR2;40GISH PLUS SAR;50CROSSING GISH;40GU;40GUR7;40IGI",
      "40IM;40KAK;40KI;40KID;40LI;40LU;40ME;50PLUS DU;60GI;60TE;40MI;50PLUS NUNUZ;40NE;40NUN",
      "40PI;40RU;40SA;40SAR;40SHA;40SHE;40SHID;40SHU;40SIG;40SUHUR;40TAR;40U;40U2;40UD",
      "40UMUM TIMES PA;40USH;40ZI;20KA2;30CROSSING KA2;20KAB;20KAD2;20KAD3;20KAD4;20KAD5",
      "30OVER KAD5;20KAK;30TIMES IGI GUNU;20KAL;30TIMES BAD;30CROSSING KAL;20KAM2;20KAM4",
      "20KASKAL;30LAGAB TIMES U OVER LAGAB TIMES U;37OVER KASKAL;20KESH2;20KI;30TIMES BAD;40U",
      "40UD;20KID;20KIN;20KISAL;20KISH;20KISIM5;30OVER KISIM5;20KU",
      "30OVER HI TIMES ASH2 KU OVER HI TIMES ASH2;20KU3;20KU4;30VARIANT FORM;20KU7;20KUL;30GUNU",
      "20KUN;20KUR;30OPPOSING KUR;20KUSHU2;20KWU318;20LA;20LAGAB;30TIMES A;50PLUS DA PLUS HA",
      "60GAR;60LAL;40AL;40AN;40ASH ZIDA TENU;40BAD;40BI;40DAR;40EN;40GA;40GAR;40GUD;50PLUS GUD",
      "40HA;40HAL;40HI TIMES NUN;40IGI GUNU;40IM;50PLUS HA;60LU;40KI;40KIN;40KU3;40KUL",
      "50PLUS HI PLUS A;40LAGAB;40LISH;40LU;40LUL;40ME;50PLUS EN;40MUSH;40NE;40SHE PLUS SUM",
      "40SHITA PLUS GISH PLUS ERIN2;70TENU;40SHU2;50PLUS SHU2;40SUM;40TAG;40TAK4",
      "40TE PLUS A PLUS SU PLUS NA;40U;50PLUS A;60U PLUS U;40U2 PLUS ASH;40UD;40USH;30SQUARED",
      "20LAGAR;30TIMES SHE;50PLUS SUM;30GUNU;40OVER LAGAR GUNU SHE;20LAHSHU;20LAL;30TIMES LAL",
      "20LAM;30TIMES KUR;50PLUS RU;20LI;20LIL;20LIMMU2;20LISH;20LU;30TIMES BAD;20LU2;30TIMES AL",
      "40BAD;40ESH2;50TENU;41GAN2;40HI TIMES BAD;40IM;40KAD2;40KAD3;50PLUS ASH;40KI",
      "40LA PLUS ASH;40LAGAB;40ME PLUS EN;40NE;40NU;40SI PLUS ASH;40SIK2 PLUS BU;40TUG2;30TENU",
      "30CROSSING LU2;31OPPOSING;30SQUARED;30SHESHIG;20LU3;20LUGAL;30OVER LUGAL;31OPPOSING",
      "30SHESHIG;20LUH;20LUL;20LUM;30OVER LUM;50GAR OVER GAR;20MA;30TIMES TAK4;30GUNU;20MA2",
      "20MAH;20MAR;20MASH;20MASH2;20ME;20MES;20MI;20MIN;20MU;30OVER MU;20MUG;30GUNU;20MUNSUB",
      "20MURGU2;20MUSH;30TIMES A;40KUR;40ZA;30OVER MUSH;50TIMES A PLUS NA;30CROSSING MUSH",
      "20MUSH3;30TIMES A;50PLUS DI;41;30GUNU;20NA;20NA2;20NAGA;30INVERTED;30TIMES SHU TENU",
      "30OPPOSING NAGA;20NAGAR;20NAM NUTILLU;30;20NAM2;20NE;30TIMES A;40UD;30SHESHIG;20NI",
      "30TIMES E;20NI2;20NIM;30TIMES GAN2 TENU;42GAR PLUS;20NINDA2;30TIMES AN;40ASH;50PLUS ASH",
      "40GUD;40ME PLUS GAN2 TENU;40NE;40NUN;40SHE;50PLUS A AN;60ASH;70PLUS ASH;42U2;40USH",
      "20NISAG;20NU;20NU11;20NUN;30LAGAR TIMES GAR;50MASH;50SAL;60OVER NUN LAGAR TIMES SAL;50USH",
      "30TENU;30OVER NUN;31CROSSING;50LAGAR OVER LAGAR;20NUNUZ;30AB2 TIMES ASHGAB;50BI;50DUG",
      "50GUD;50IGI GUNU;50KAD3;50LA;50NE;50SILA3;50U2;30KISIM5 TIMES BI;60U;20PA;20PAD;20PAN",
      "20PAP;20PESH2;20PI;30TIMES A;40AB;40BI;40BU;40E;40I;40IB;40U;40U2;30CROSSING PI;20PIRIG",
      "30TIMES KAL;40UD;40ZA;30OPPOSING PIRIG;20RA;20RAB;20RI;20RU;20SA;20SAG NUTILLU;30",
      "30TIMES A;40DU;40DUB;40HA;40KAK;40KUR;40LUM;40MI;40NUN;40SAL;40SHID;40TAB;40U2;40UB;40UM",
      "40UR;40USH;30OVER SAG;30GUNU;20SAL;30LAGAB TIMES ASH2;20SANGA2;20SAR;20SHA;20SHA3",
      "30TIMES A;40BAD;40GISH;40NE;40SHU2;40TUR;40U;50PLUS A;20SHA6;20SHAB6;20SHAR2;20SHE;30HU",
      "30OVER SHE GAD OVER GAD GAR OVER GAR;53TAB OVER TAB;20SHEG9;20SHEN;20SHESH;20SHESH2",
      "20SHESHLAM;20SHID;30TIMES A;40IM;20SHIM;30TIMES A;40BAL;40BULUG;40DIN;40GAR;40IGI;50GUNU",
      "40KUSHU2;40LUL;40MUG;40SAL;20SHINIG;20SHIR;30TENU;30OVER SHIR BUR OVER BUR;20SHITA;20SHU",
      "30OVER INVERTED SHU;20SHU2;20SHUBUR;20SI;30GUNU;20SIG;20SIG4;30OVER SIG4 SHU2;20SIK2",
      "20SILA3;20SU;30OVER SU;20SUD;20SUD2;20SUHUR;20SUM;20SUMASH;20SUR;20SUR9;20TA;30ASTERISK",
      "30TIMES HI;40MI;30GUNU;20TAB;30OVER TAB NI OVER NI DISH OVER DISH;30SQUARED;20TAG",
      "30TIMES BI;40GUD;40SHE;40SHU;40TUG2;40UD;20TAK4;20TAR;20TE;30GUNU;20TI;30TENU;20TIL;20TIR",
      "30TIMES TAK4;30OVER TIR;50GAD OVER GAD GAR OVER GAR;20TU;20TUG2;20TUK;20TUM;20TUR",
      "30OVER TUR ZA OVER ZA;20U;30GUD;30U U;30OVER U PA OVER PA GAR OVER GAR;50SUR OVER SUR",
      "50U REVERSED OVER U REVERSED;20U2;20UB;20UD;30KUSHU2;30TIMES BAD;40MI;40U PLUS U PLUS U",
      "90GUNU;31;30SHESHIG;40TIMES BAD;20UDUG;20UM;30TIMES LAGAB;40ME PLUS DA;40SHA3;40U;20UMBIN",
      "20UMUM;30TIMES KASKAL;40PA;20UN;30GUNU;20UR;30CROSSING UR;30SHESHIG;20UR2",
      "30TIMES A PLUS HA;60NA;40AL;40HA;40NUN;40U2;50PLUS ASH;60BI;20UR4;20URI;20URI3;20URU",
      "30TIMES A;40ASHGAB;40BAR;40DUN;40GA;40GAL;40GAN2 TENU;40GAR;40GU;40HA;40IGI;40IM;40ISH",
      "40KI;40LUM;40MIN;40PA;40SHE;40SIG4;40TU;40U PLUS GUD;40UD;40URUDA;21;30TIMES U;20USH",
      "30TIMES A;40KU;40KUR;40TAK4;20USHX;20USH2;20USHUMX;20UTUKI;20UZ3;30TIMES KASKAL;20UZU",
      "20ZA;30TENU;30SQUARED TIMES KUR;20ZAG;20ZAMX;20ZE2;20ZI;30OVER ZI;20ZI3;20ZIB;30KABA TENU",
      "20ZIG;20ZIZ2;20ZU;20ZU5;30TIMES A;20ZUBUR;20ZUM;20KAP ELAMITE;20AB TIMES NUN",
      "20AB2 TIMES A;20AMAR TIMES KUG;20DAG KISIM5 TIMES U2 PLUS MASH;20DAG3;20DISH PLUS SHU",
      "20DUB TIMES SHE;20EZEN TIMES GUD;40SHE;20GA2 TIMES AN PLUS KAK PLUS A;40ASH2;20GE22;20GIG",
      "20HUSH;20KA TIMES ANSHE;40ASH3;40GISH;40GUD;40HI TIMES ASH2;40LUM;40PA;40SHUL;40TU;40UR2",
      "20LAGAB TIMES GI;20LU2 SHESHIG TIMES BAD;30TIMES ESH2 PLUS LAL;40SHU;20MESH",
      "20MUSH3 TIMES ZA;20NA4;20NIN;20NIN9;20NINDA2 TIMES BAL;40GI;20NU11 ROTATED NINETY DEGREES",
      "20PESH2 ASTERISK;20PIR2;20SAG TIMES IGI GUNU;20TI2;20UM TIMES ME;20U U"]⟩,
    ⟨0x12400, [
      "00CUNEIFORM NUMERIC SIGN TWO ASH;31THREE;31FOUR;31FIVE;31SIX;31SEVEN;31EIGHT;31NINE",
      "30THREE DISH;31FOUR;31FIVE;31SIX;31SEVEN;31EIGHT;31NINE;30FOUR U;31FIVE;31SIX;31SEVEN",
      "31EIGHT;31NINE;30ONE GESH2;31TWO;31THREE;31FOUR;31FIVE;31SIX;31SEVEN;31EIGHT;31NINE",
      "30ONE GESHU;31TWO;31THREE;31FOUR;31FIVE;30TWO SHAR2;31THREE;50VARIANT FORM;30FOUR SHAR2",
      "31FIVE;31SIX;31SEVEN;31EIGHT;31NINE;30ONE SHARU;31TWO;31THREE;50VARIANT FORM;30FOUR SHARU",
      "31FIVE;30SHAR2 TIMES GAL PLUS DISH;70MIN;30ONE BURU;31TWO;31THREE;50VARIANT FORM",
      "30FOUR BURU;31FIVE;30THREE VARIANT FORM ESH16;60ESH21;30FOUR VARIANT FORM LIMMU;60LIMMU4",
      "60LIMMU A;70B;30SIX VARIANT FORM ASH9;30SEVEN VARIANT FORM IMIN3;60IMIN A;70B",
      "30EIGHT VARIANT FORM USSU;60USSU3;30NINE VARIANT FORM ILIMMU;60ILIMMU3;60ILIMMU4",
      "60ILIMMU A;30TWO ASH TENU;32THREE;32FOUR;32FIVE;32SIX;30ONE BAN2;31TWO;31THREE;31FOUR",
      "50VARIANT FORM;30FIVE BAN2;50VARIANT FORM;30NIGIDAMIN;30NIGIDAESH;30ONE ESHE3;31TWO",
      "30ONE THIRD DISH;31TWO THIRDS;31FIVE SIXTHS;30ONE THIRD VARIANT FORM A;33TWO THIRDS",
      "30ONE EIGHTH ASH;41QUARTER;30OLD ASSYRIAN ONE SIXTH;60QUARTER;30ONE QUARTER GUR;41HALF",
      "30ELAMITE ONE THIRD;40TWO THIRDS;40FORTY;40FIFTY;30FOUR U VARIANT FORM;33FIVE;33SIX",
      "33SEVEN;33EIGHT;33NINE"]⟩,
    ⟨0x12470, [
      "00CUNEIFORM PUNCTUATION SIGN OLD ASSYRIAN WORD DIVIDER;30VERTICAL COLON;31DIAGONAL",
      "40TRICOLON;40QUADCOLON"]⟩,
    ⟨0x12480, [
      "00CUNEIFORM SIGN AB TIMES NUN TENU;40SHU2;20AD TIMES ESH2;20BAD TIMES DISH TENU",
      "20BAHAR2 TIMES AB2;40NI;40ZA;20BU OVER BU TIMES NA2;20DA TIMES TAK4;20DAG TIMES KUR",
      "20DIM TIMES IGI;40U U U;20DIM2 TIMES UD;20DUG TIMES ANSHE;40ASH;50AT LEFT;40DIN;40DUN",
      "40ERIN2;40GA;40GI;40GIR2 GUNU;40GISH;40HA;40HI;40IGI GUNU;40KASKAL;40KUR;40KUSHU2",
      "50PLUS KASKAL;40LAK-020;40LAM;50TIMES KUR;40LUH PLUS GISH;40MASH;40MES;40MI;40NI;40PI",
      "40SHE;40SI GUNU;20E2 TIMES KUR;40PAP;20ERIN2 X;20ESH2 CROSSING ESH2",
      "20EZEN SHESHIG TIMES ASH;50HI;50IGI GUNU;50LA;50LAL;50ME;50MES;50SU;32;20GA2 TIMES BAHAR2",
      "40DIM GUNU;41DUG TIMES IGI;60KASKAL;40EREN;40GA;40GAR PLUS DI;60NE;40HA PLUS A",
      "40KUSHU2 PLUS KASKAL;40LAM;50TIMES KUR;40LUH;40MUSH;40NE;50PLUS E2;60GI;40SHIM;40ZIZ2",
      "20GABA ROTATED NINETY DEGREES;20GESHTIN TIMES U;20GISH TIMES GISH CROSSING GISH",
      "20GU2 TIMES IGI GUNU;20GUD PLUS GISH TIMES TAK4;20HA TENU GUNU",
      "20HI TIMES ASH OVER HI TIMES ASH;20KA TIMES BU;40KA;40U U U;40UR;20LAGAB TIMES ZU OVER ZU",
      "20LAK-003;20LAK-021;20LAK-025;20LAK-030;20LAK-050;20LAK-051;20LAK-062",
      "20LAK-079 OVER LAK-079 GUNU;20LAK-080;20LAK-081 OVER LAK-081;20LAK-092;20LAK-130",
      "20LAK-142;20LAK-210;20LAK-219;20LAK-220;20LAK-225;20LAK-228;20LAK-238;20LAK-265;20LAK-266",
      "20LAK-343;20LAK-347;20LAK-348;20LAK-383;20LAK-384;20LAK-390;20LAK-441;20LAK-449",
      "30TIMES GU;40IGI;40PAP PLUS LU3;61PAP PLUS;40U2 PLUS BA;20LAK-450;20LAK-457;20LAK-470",
      "20LAK-483;20LAK-490;20LAK-492;20LAK-493;20LAK-495;20LAK-550;20LAK-608;20LAK-617",
      "30TIMES ASH;40BAD;40DUN3 GUNU GUNU;40KU3;40LA;40TAR;40TE;40U2;40UD;40URUDA;20LAK-636",
      "20LAK-648;30TIMES DUB;40GA;40IGI;50GUNU;40NI;40PAP PLUS PAP PLUS LU3;40SHESH PLUS KI;40UD",
      "40URUDA;20LAK-724;20LAK-749;20LU2 GUNU TIMES ASH;30TIMES DISH;40HAL;40PAP",
      "50PLUS PAP PLUS LU3;40TAK4;20MI PLUS ZA7;20MUSH OVER MUSH TIMES GA;60KAK",
      "20NINDA2 TIMES DIM GUNU;40GISH;40GUL;40HI;40KESH2;40LAK-050;40MASH;40PAP PLUS PAP;40U",
      "50PLUS U;40URUDA;20SAG GUNU TIMES HA;30TIMES EN;40SHE AT LEFT;40TAK4;20SHA6 TENU",
      "20SHE OVER SHE;30PLUS HUB2;40NAM2;40SAR;20SHU2 PLUS DUG TIMES NI;40E2 TIMES AN",
      "20SI TIMES TAK4;20TAK4 PLUS SAG;20TUM TIMES GAN2 TENU;40THREE DISH;20UR2 INVERTED",
      "30TIMES UD;20URU TIMES DARA3;40LAK-668;40LU3;20ZA7;20ZU OVER ZU PLUS SAR",
      "20ZU5 TIMES THREE DISH TENU"]⟩,
    ⟨0x12f90, [
      "00CYPRO-MINOAN SIGN CM001;20CM002;20CM004;20CM005;20CM006;20CM007;20CM008;20CM009;20CM010",
      "20CM011;20CM012;20CM012B;20CM013;20CM015;20CM017;20CM019;20CM021;20CM023;20CM024;20CM025",
      "20CM026;20CM027;20CM028;20CM029;20CM030;20CM033;20CM034;20CM035;20CM036;20CM037;20CM038",
      "20CM039;20CM040;20CM041;20CM044;20CM046;20CM047;20CM049;20CM050;20CM051;20CM052;20CM053",
      "20CM054;20CM055;20CM056;20CM058;20CM059;20CM060;20CM061;20CM062;20CM063;20CM064;20CM066",
      "20CM067;20CM068;20CM069;20CM070;20CM071;20CM072;20CM073;20CM074;20CM075;20CM075B;20CM076",
      "20CM078;20CM079;20CM080;20CM081;20CM082;20CM083;20CM084;20CM085;20CM086;20CM087;20CM088",
      "20CM089;20CM090;20CM091;20CM092;20CM094;20CM095;20CM096;20CM097;20CM098;20CM099;20CM100",
      "20CM101;20CM102;20CM103;20CM104;20CM105;20CM107;20CM108;20CM109;20CM110;20CM112;20CM114",
      "20CM301;20CM302"]⟩,
    ⟨0x13000, [
      "00EGYPTIAN HIEROGLYPH A001;20A002;20A003;20A004;20A005;20A005A;20A006;20A006A;20A006B",
      "20A007;20A008;20A009;20A010;20A011;20A012;20A013;20A014;20A014A;20A015;20A016;20A017",
      "20A017A;20A018;20A019;20A020;20A021;20A022;20A023;20A024;20A025;20A026;20A027;20A028",
      "20A029;20A030;20A031;20A032;20A032A;20A033;20A034;20A035;20A036;20A037;20A038;20A039",
      "20A040;20A040A;20A041;20A042;20A042A;20A043;20A043A;20A044;20A045;20A045A;20A046;20A047",
      "20A048;20A049;20A050;20A051;20A052;20A053;20A054;20A055;20A056;20A057;20A058;20A059",
      "20A060;20A061;20A062;20A063;20A064;20A065;20A066;20A067;20A068;20A069;20A070;20B001",
      "20B002;20B003;20B004;20B005;20B005A;20B006;20B007;20B008;20B009;20C001;20C002;20C002A",
      "20C002B;20C002C;20C003;20C004;20C005;20C006;20C007;20C008;20C009;20C010;20C010A;20C011",
      "20C012;20C013;20C014;20C015;20C016;20C017;20C018;20C019;20C020;20C021;20C022;20C023",
      "20C024;20D001;20D002;20D003;20D004;20D005;20D006;20D007;20D008;20D008A;20D009;20D010",
      "20D011;20D012;20D013;20D014;20D015;20D016;20D017;20D018;20D019;20D020;20D021;20D022",
      "20D023;20D024;20D025;20D026;20D027;20D027A;20D028;20D029;20D030;20D031;20D031A;20D032",
      "20D033;20D034;20D034A;20D035;20D036;20D037;20D038;20D039;20D040;20D041;20D042;20D043",
      "20D044;20D045;20D046;20D046A;20D047;20D048;20D048A;20D049;20D050;20D050A;20D050B;20D050C",
      "20D050D;20D050E;20D050F;20D050G;20D050H;20D050I;20D051;20D052;20D052A;20D053;20D054",
      "20D054A;20D055;20D056;20D057;20D058;20D059;20D060;20D061;20D062;20D063;20D064;20D065",
      "20D066;20D067;20D067A;20D067B;20D067C;20D067D;20D067E;20D067F;20D067G;20D067H;20E001",
      "20E002;20E003;20E004;20E005;20E006;20E007;20E008;20E008A;20E009;20E009A;20E010;20E011",
      "20E012;20E013;20E014;20E015;20E016;20E016A;20E017;20E017A;20E018;20E019;20E020;20E020A",
      "20E021;20E022;20E023;20E024;20E025;20E026;20E027;20E028;20E028A;20E029;20E030;20E031",
      "20E032;20E033;20E034;20E034A;20E036;20E037;20E038;20F001;20F001A;20F002;20F003;20F004",
      "20F005;20F006;20F007;20F008;20F009;20F010;20F011;20F012;20F013;20F013A;20F014;20F015",
      "20F016;20F017;20F018;20F019;20F020;20F021;20F021A;20F022;20F023;20F024;20F025;20F026",
      "20F027;20F028;20F029;20F030;20F031;20F031A;20F032;20F033;20F034;20F035;20F036;20F037",
      "20F037A;20F038;20F038A;20F039;20F040;20F041;20F042;20F043;20F044;20F045;20F045A;20F046",
      "20F046A;20F047;20F047A;20F048;20F049;20F050;20F051;20F051A;20F051B;20F051C;20F052;20F053",
      "20G001;20G002;20G003;20G004;20G005;20G006;20G006A;20G007;20G007A;20G007B;20G008;20G009",
      "20G010;20G011;20G011A;20G012;20G013;20G014;20G015;20G016;20G017;20G018;20G019;20G020",
      "20G020A;20G021;20G022;20G023;20G024;20G025;20G026;20G026A;20G027;20G028;20G029;20G030",
      "20G031;20G032;20G033;20G034;20G035;20G036;20G036A;20G037;20G037A;20G038;20G039;20G040",
      "20G041;20G042;20G043;20G043A;20G044;20G045;20G045A;20G046;20G047;20G048;20G049;20G050",
      "20G051;20G052;20G053;20G054;20H001;20H002;20H003;20H004;20H005;20H006;20H006A;20H007",
      "20H008;20I001;20I002;20I003;20I004;20I005;20I005A;20I006;20I007;20I008;20I009;20I009A",
      "20I010;20I010A;20I011;20I011A;20I012;20I013;20I014;20I015;20K001;20K002;20K003;20K004",
      "20K005;20K006;20K007;20K008;20L001;20L002;20L002A;20L003;20L004;20L005;20L006;20L006A",
      "20L007;20L008;20M001;20M001A;20M001B;20M002;20M003;20M003A;20M004;20M005;20M006;20M007",
      "20M008;20M009;20M010;20M010A;20M011;20M012;20M012A;20M012B;20M012C;20M012D;20M012E",
      "20M012F;20M012G;20M012H;20M013;20M014;20M015;20M015A;20M016;20M016A;20M017;20M017A;20M018",
      "20M019;20M020;20M021;20M022;20M022A;20M023;20M024;20M024A;20M025;20M026;20M027;20M028",
      "20M028A;20M029;20M030;20M031;20M031A;20M032;20M033;20M033A;20M033B;20M034;20M035;20M036",
      "20M037;20M038;20M039;20M040;20M040A;20M041;20M042;20M043;20M044;20N001;20N002;20N003",
      "20N004;20N005;20N006;20N007;20N008;20N009;20N010;20N011;20N012;20N013;20N014;20N015",
      "20N016;20N017;20N018;20N018A;20N018B;20N019;20N020;20N021;20N022;20N023;20N024;20N025",
      "20N025A;20N026;20N027;20N028;20N029;20N030;20N031;20N032;20N033;20N033A;20N034;20N034A",
      "20N035;20N035A;20N036;20N037;20N037A;20N038;20N039;20N040;20N041;20N042;20NL001;20NL002",
      "20NL003;20NL004;20NL005;20NL005A;20NL006;20NL007;20NL008;20NL009;20NL010;20NL011;20NL012",
      "20NL013;20NL014;20NL015;20NL016;20NL017;20NL017A;20NL018;20NL019;20NL020;20NU001;20NU002",
      "20NU003;20NU004;20NU005;20NU006;20NU007;20NU008;20NU009;20NU010;20NU010A;20NU011;20NU011A",
      "20NU012;20NU013;20NU014;20NU015;20NU016;20NU017;20NU018;20NU018A;20NU019;20NU020;20NU021",
      "20NU022;20NU022A;20O001;20O001A;20O002;20O003;20O004;20O005;20O005A;20O006;20O006A",
      "20O006B;20O006C;20O006D;20O006E;20O006F;20O007;20O008;20O009;20O010;20O010A;20O010B",
      "20O010C;20O011;20O012;20O013;20O014;20O015;20O016;20O017;20O018;20O019;20O019A;20O020",
      "20O020A;20O021;20O022;20O023;20O024;20O024A;20O025;20O025A;20O026;20O027;20O028;20O029",
      "20O029A;20O030;20O030A;20O031;20O032;20O033;20O033A;20O034;20O035;20O036;20O036A;20O036B",
      "20O036C;20O036D;20O037;20O038;20O039;20O040;20O041;20O042;20O043;20O044;20O045;20O046",
      "20O047;20O048;20O049;20O050;20O050A;20O050B;20O051;20P001;20P001A;20P002;20P003;20P003A",
      "20P004;20P005;20P006;20P007;20P008;20P009;20P010;20P011;20Q001;20Q002;20Q003;20Q004",
      "20Q005;20Q006;20Q007;20R001;20R002;20R002A;20R003;20R003A;20R003B;20R004;20R005;20R006",
      "20R007;20R008;20R009;20R010;20R010A;20R011;20R012;20R013;20R014;20R015;20R016;20R016A",
      "20R017;20R018;20R019;20R020;20R021;20R022;20R023;20R024;20R025;20R026;20R027;20R028",
      "20R029;20S001;20S002;20S002A;20S003;20S004;20S005;20S006;20S006A;20S007;20S008;20S009",
      "20S010;20S011;20S012;20S013;20S014;20S014A;20S014B;20S015;20S016;20S017;20S017A;20S018",
      "20S019;20S020;20S021;20S022;20S023;20S024;20S025;20S026;20S026A;20S026B;20S027;20S028",
      "20S029;20S030;20S031;20S032;20S033;20S034;20S035;20S035A;20S036;20S037;20S038;20S039",
      "20S040;20S041;20S042;20S043;20S044;20S045;20S046;20T001;20T002;20T003;20T003A;20T004",
      "20T005;20T006;20T007;20T007A;20T008;20T008A;20T009;20T009A;20T010;20T011;20T011A;20T012",
      "20T013;20T014;20T015;20T016;20T016A;20T017;20T018;20T019;20T020;20T021;20T022;20T023",
      "20T024;20T025;20T026;20T027;20T028;20T029;20T030;20T031;20T032;20T032A;20T033;20T033A",
      "20T034;20T035;20T036;20U001;20U002;20U003;20U004;20U005;20U006;20U006A;20U006B;20U007",
      "20U008;20U009;20U010;20U011;20U012;20U013;20U014;20U015;20U016;20U017;20U018;20U019",
      "20U020;20U021;20U022;20U023;20U023A;20U024;20U025;20U026;20U027;20U028;20U029;20U029A",
      "20U030;20U031;20U032;20U032A;20U033;20U034;20U035;20U036;20U037;20U038;20U039;20U040",
      "20U041;20U042;20V001;20V001A;20V001B;20V001C;20V001D;20V001E;20V001F;20V001G;20V001H",
      "20V001I;20V002;20V002A;20V003;20V004;20V005;20V006;20V007;20V007A;20V007B;20V008;20V009",
      "20V010;20V011;20V011A;20V011B;20V011C;20V012;20V012A;20V012B;20V013;20V014;20V015;20V016",
      "20V017;20V018;20V019;20V020;20V020A;20V020B;20V020C;20V020D;20V020E;20V020F;20V020G",
      "20V020H;20V020I;20V020J;20V020K;20V020L;20V021;20V022;20V023;20V023A;20V024;20V025;20V026",
      "20V027;20V028;20V028A;20V029;20V029A;20V030;20V030A;20V031;20V031A;20V032;20V033;20V033A",
      "20V034;20V035;20V036;20V037;20V037A;20V038;20V039;20V040;20V040A;20W001;20W002;20W003",
      "20W003A;20W004;20W005;20W006;20W007;20W008;20W009;20W009A;20W010;20W010A;20W011;20W012",
      "20W013;20W014;20W014A;20W015;20W016;20W017;20W017A;20W018;20W018A;20W019;20W020;20W021",
      "20W022;20W023;20W024;20W024A;20W025;20X001;20X002;20X003;20X004;20X004A;20X004B;20X005",
      "20X006;20X006A;20X007;20X008;20X008A;20Y001;20Y001A;20Y002;20Y003;20Y004;20Y005;20Y006",
      "20Y007;20Y008;20Z001;20Z002;20Z002A;20Z002B;20Z002C;20Z002D;20Z003;20Z003A;20Z003B;20Z004",
      "20Z004A;20Z005;20Z005A;20Z006;20Z007;20Z008;20Z009;20Z010;20Z011;20Z012;20Z013;20Z014",
      "20Z015;20Z015A;20Z015B;20Z015C;20Z015D;20Z015E;20Z015F;20Z015G;20Z015H;20Z015I;20Z016",
      "20Z016A;20Z016B;20Z016C;20Z016D;20Z016E;20Z016F;20Z016G;20Z016H;20AA001;20AA002;20AA003",
      "20AA004;20AA005;20AA006;20AA007;20AA007A;20AA007B;20AA008;20AA009;20AA010;20AA011;20AA012",
      "20AA013;20AA014;20AA015;20AA016;20AA017;20AA018;20AA019;20AA020;20AA021;20AA022;20AA023",
      "20AA024;20AA025;20AA026;20AA027;20AA028;20AA029;20AA030;20AA031;20AA032"]⟩,
    ⟨0x13430, [
      "00EGYPTIAN HIEROGLYPH VERTICAL JOINER;21HORIZONTAL;20INSERT AT TOP START;41BOTTOM",
      "40TOP END;41BOTTOM;20OVERLAY MIDDLE;20BEGIN SEGMENT;21END"]⟩,
    ⟨0x14400, [
      "00ANATOLIAN HIEROGLYPH A001;20A002;20A003;20A004;20A005;20A006;20A007;20A008;20A009",
      "20A010;20A010A;20A011;20A012;20A013;20A014;20A015;20A016;20A017;20A018;20A019;20A020",
      "20A021;20A022;20A023;20A024;20A025;20A026;20A026A;20A027;20A028;20A029;20A030;20A031",
      "20A032;20A033;20A034;20A035;20A036;20A037;20A038;20A039;20A039A;20A040;20A041;20A041A",
      "20A042;20A043;20A044;20A045;20A045A;20A046;20A046A;20A046B;20A047;20A048;20A049;20A050",
      "20A051;20A052;20A053;20A054;20A055;20A056;20A057;20A058;20A059;20A060;20A061;20A062",
      "20A063;20A064;20A065;20A066;20A066A;20A066B;20A066C;20A067;20A068;20A069;20A070;20A071",
      "20A072;20A073;20A074;20A075;20A076;20A077;20A078;20A079;20A080;20A081;20A082;20A083",
      "20A084;20A085;20A086;20A087;20A088;20A089;20A090;20A091;20A092;20A093;20A094;20A095",
      "20A096;20A097;20A097A;20A098;20A098A;20A099;20A100;20A100A;20A101;20A101A;20A102;20A102A",
      "20A103;20A104;20A104A;20A104B;20A104C;20A105;20A105A;20A105B;20A106;20A107;20A107A",
      "20A107B;20A107C;20A108;20A109;20A110;20A110A;20A110B;20A111;20A112;20A113;20A114;20A115",
      "20A115A;20A116;20A117;20A118;20A119;20A120;20A121;20A122;20A123;20A124;20A125;20A125A",
      "20A126;20A127;20A128;20A129;20A130;20A131;20A132;20A133;20A134;20A135;20A135A;20A136",
      "20A137;20A138;20A139;20A140;20A141;20A142;20A143;20A144;20A145;20A146;20A147;20A148",
      "20A149;20A150;20A151;20A152;20A153;20A154;20A155;20A156;20A157;20A158;20A159;20A160",
      "20A161;20A162;20A163;20A164;20A165;20A166;20A167;20A168;20A169;20A170;20A171;20A172",
      "20A173;20A174;20A175;20A176;20A177;20A178;20A179;20A180;20A181;20A182;20A183;20A184",
      "20A185;20A186;20A187;20A188;20A189;20A190;20A191;20A192;20A193;20A194;20A195;20A196",
      "20A197;20A198;20A199;20A200;20A201;20A202;20A202A;20A202B;20A203;20A204;20A205;20A206",
      "20A207;20A207A;20A208;20A209;20A209A;20A210;20A211;20A212;20A213;20A214;20A215;20A215A",
      "20A216;20A216A;20A217;20A218;20A219;20A220;20A221;20A222;20A223;20A224;20A225;20A226",
      "20A227;20A227A;20A228;20A229;20A230;20A231;20A232;20A233;20A234;20A235;20A236;20A237",
      "20A238;20A239;20A240;20A241;20A242;20A243;20A244;20A245;20A246;20A247;20A248;20A249",
      "20A250;20A251;20A252;20A253;20A254;20A255;20A256;20A257;20A258;20A259;20A260;20A261",
      "20A262;20A263;20A264;20A265;20A266;20A267;20A267A;20A268;20A269;20A270;20A271;20A272",
      "20A273;20A274;20A275;20A276;20A277;20A278;20A279;20A280;20A281;20A282;20A283;20A284",
      "20A285;20A286;20A287;20A288;20A289;20A289A;20A290;20A291;20A292;20A293;20A294;20A294A",
      "20A295;20A296;20A297;20A298;20A299;20A299A;20A300;20A301;20A302;20A303;20A304;20A305",
      "20A306;20A307;20A308;20A309;20A309A;20A310;20A311;20A312;20A313;20A314;20A315;20A316",
      "20A317;20A318;20A319;20A320;20A321;20A322;20A323;20A324;20A325;20A326;20A327;20A328",
      "20A329;20A329A;20A330;20A331;20A332A;20A332B;20A332C;20A333;20A334;20A335;20A336;20A336A",
      "20A336B;20A336C;20A337;20A338;20A339;20A340;20A341;20A342;20A343;20A344;20A345;20A346",
      "20A347;20A348;20A349;20A350;20A351;20A352;20A353;20A354;20A355;20A356;20A357;20A358",
      "20A359;20A359A;20A360;20A361;20A362;20A363;20A364;20A364A;20A365;20A366;20A367;20A368",
      "20A368A;20A369;20A370;20A371;20A371A;20A372;20A373;20A374;20A375;20A376;20A377;20A378",
      "20A379;20A380;20A381;20A381A;20A382;20A383 RA OR RI;20A383A;20A384;20A385;20A386;20A386A",
      "20A387;20A388;20A389;20A390;20A391;20A392;20A393 EIGHT;20A394;20A395;20A396;20A397;20A398",
      "20A399;20A400;20A401;20A402;20A403;20A404;20A405;20A406;20A407;20A408;20A409",
      "20A410 BEGIN LOGOGRAM MARK;22A410A END;20A411;20A412;20A413;20A414;20A415;20A416;20A417",
      "20A418;20A419;20A420;20A421;20A422;20A423;20A424;20A425;20A426;20A427;20A428;20A429",
      "20A430;20A431;20A432;20A433;20A434;20A435;20A436;20A437;20A438;20A439;20A440;20A441",
      "20A442;20A443;20A444;20A445;20A446;20A447;20A448;20A449;20A450;20A450A;20A451;20A452",
      "20A453;20A454;20A455;20A456;20A457;20A457A;20A458;20A459;20A460;20A461;20A462;20A463",
      "20A464;20A465;20A466;20A467;20A468;20A469;20A470;20A471;20A472;20A473;20A474;20A475",
      "20A476;20A477;20A478;20A479;20A480;20A481;20A482;20A483;20A484;20A485;20A486;20A487",
      "20A488;20A489;20A490;20A491;20A492;20A493;20A494;20A495;20A496;20A497;20A501;20A502",
      "20A503;20A504;20A505;20A506;20A507;20A508;20A509;20A510;20A511;20A512;20A513;20A514",
      "20A515;20A516;20A517;20A518;20A519;20A520;20A521;20A522;20A523;20A524;20A525;20A526",
      "20A527;20A528;20A529;20A530"]⟩,
    ⟨0x16800, [
      "00BAMUM LETTER PHASE-A NGKUE MFON;30GBIEE FON;30PON MFON PIPAEMGBIEE;50PIPAEMBA",
      "30NAA MFON;30SHUENSHUET;30TITA MFON;31NZA;30SHINDA PA NJI;30PON PA NJI PIPAEMGBIEE",
      "60PIPAEMBA;30MAEMBGBIEE;30TU MAEMBA;30NGANGU;30MAEMVEUX;30MANSUAE;30MVEUAENGAM;30SEUNYAM",
      "30NTOQPEN;30KEUKEUTNDA;30NKINDI;30SUU;30NGKUENZEUM;30LAPAQ;30LET KUT;30NTAP MFAA",
      "30MAEKEUP;30PASHAE;30GHEUAERAE;30PAMSHAE;30MON NGGEUAET;30NZUN MEUT;30U YUQ NAE",
      "30GHEUAEGHEUAE;30NTAP NTAA;30SISA;30MGBASA;30MEUNJOMNDEUQ;30MOOMPUQ;30KAFA;30PA LEERAEWA",
      "31NDA;30PET;30MAEMKPEN;30NIKA;30PUP;30TUAEP;30LUAEP;30SONJAM;30TEUTEUWEN;30MAENYI;30KET",
      "30NDAANGGEUAET;30KUOQ;30MOOMEUT;30SHUM;30LOMMAE;30FIRI;30ROM;30KPOQ;30SOQ;30MAP PIEET",
      "30SHIRAE;30NTAP;30SHOQ NSHUT YUM;30NYIT MONGKEUAEQ;30PAARAE;30NKAARAE;30UNKNOWN;30NGGEN",
      "30MAESI;30NJAM;30MBANYI;30NYET;30TEUAEN;30SOT;30PAAM;30NSHIEE;30MAEM;30NYI;30KAQ;30NSHA",
      "30VEE;30LU;30NEN;30NAQ;30MBAQ;20PHASE-B NSHUET;30TU MAEMGBIEE;30SIEE;30SET TU;30LOM NTEUM",
      "30MBA MAELEE;30KIEEM;30YEURAE;30MBAARAE;30KAM;30PEESHI;30YAFU LEERAEWA;30LAM NSHUT NYAM",
      "30NTIEE SHEUOQ;30NDU NJAA;30GHEUGHEUAEM;30PIT;30TU NSIEE;30SHET NJAQ;30SHEUAEQTU",
      "30MFON TEUAEQ;30MBIT MBAAKET;30NYI NTEUM;30KEUPUQ;30GHEUGHEN;30KEUYEUX;30LAANAE;30PARUM",
      "30VEUM;30NGKINDI MVOP;30NGGEU MBU;30WUAET;30SAKEUAE;30TAAM;30MEUQ;30NGGUOQ;40LARGE",
      "30MFIYAQ;30SUE;30MBEURI;30MONTIEEN;30NYAEMAE;30PUNGAAM;30MEUT NGGEET;30FEUX;30MBUOQ;30FEE",
      "30KEUAEM;30MA NJEUAENA;40NJUQA;30LET;30NGGAAM;30NSEN;30MA;30KIQ;30NGOM",
      "20PHASE-C NGKUE MAEMBA;30NZA;30YUM;30WANGKUOQ;30NGGEN;30NDEUAEREE;30NGKAQ;30GHARAE",
      "30MBEEKEET;30GBAYI;30NYIR MKPARAQ MEUN;30NTU MBIT;30MBEUM;30PIRIEEN;30NDOMBU",
      "30MBAA CABBAGE-TREE;30KEUSHEUAEP;30GHAP;30KEUKAQ;30YU MUOMAE;30NZEUM;30MBUE;30NSEUAEN",
      "30MBIT;30YEUQ;30KPARAQ;30KAA;30SEUX;30NDIDA;30TAASHAE;30NJUEQ;30TITA YUE;30SUAET",
      "30NGGUAEN NYAM;30VEUX;30NANSANAQ;30MA KEUAERI;30NTAA;30NGGUON;30LAP;30MBIRIEEN;30MGBASAQ",
      "30NTEUNGBA;30TEUTEUX;30NGGUM;30FUE;30NDEUT;30NSA;30NSHAQ;30BUNG;30VEUAEPEN;30MBERAE;30RU",
      "30NJAEM;30LAM;30TITUAEP;30NSUOT NGOM;30NJEEEE;30KET;30NGGU;30MAESI;30MBUAEM;30LU;30KUT",
      "30NJAM;30NGOM;30WUP;30NGGUEET;30NSOM;30NTEN;30KUOP NKAARAE;30NSUN;30NDAM;30MA NSIEE;30YAA",
      "30NDAP;30SHUEQ;30SETFON;30MBI;30MAEMBA;30MBANYI;30KEUSEUX;30MBEUX;30KEUM;30MBAA PICKET",
      "30YUWOQ;30NJEUX;30MIEE;30MUAE;30SHIQ;30KEN LAW;40FATIGUE;30NGAQ;30NAQ;30LIQ;30PIN;30PEN",
      "30TET;20PHASE-D MBUO;30WAP;30NJI;30MFON;30NJIEE;30LIEE;30NJEUT;30NSHEE;30NGGAAMAE;30NYAM",
      "30WUAEN;30NGKUN;30SHEE;30NGKAP;30KEUAETMEUN;30TEUT;30SHEUAE;30NJAP;30SUE;30KET;30YAEMMAE",
      "30KUOM;30SAP;30MFEUT;30NDEUX;30MALEERI;30MEUT;30SEUAEQ;30YEN;30NJEUAEM;30KEUOT MBUAE",
      "30NGKEURI;30TU;30GHAA;30NGKYEE;30FEUFEUAET;30NDEE;30MGBOFUM;30LEUAEP;30NDON;30MONI",
      "30MGBEUN;30PUUT;30MGBIEE;30MFO;30LUM;30NSIEEP;30MBAA;30KWAET;30NYET;30TEUAEN;30SOT",
      "30YUWOQ;30KEUM;30RAEM;30TEEEE;30NGKEUAEQ;30MFEUAE;30NSIEET;30KEUP;30PIP;30PEUTAE;30NYUE",
      "30LET;30NGGAAM;30MFIEE;30NGGWAEN;30YUOM;30PAP;30YUOP;30NDAM;30NTEUM;30SUAE;30KUN;30NGGEUX",
      "30NGKIEE;30TUOT;30MEUN;30KUQ;30NSUM;30TEUN;30MAENJET;30NGGAP;30LEUM;30NGGUOM;30NSHUT",
      "30NJUEQ;30GHEUAE;30KU;30REN OLD;30TAE;30TOQ;30NYI;30RII;30LEEEE;30MEEEE;30M;30SUU;30MU",
      "30SHII;30SHEUX;30KYEE;30NU;30SHU;30NTEE;30PEE;30NI;30SHOQ;30PUQ;30MVOP;30LOQ;30REN MUCH",
      "30TI;30NTUU;30MBAA SEVEN;30SAQ;30FAA;20PHASE-E NDAP;30TOON;30MBEUM;30LAP;30VOM;30LOON",
      "30PAA;30SOM;30RAQ;30NSHUOP;30NDUN;30PUAE;30TAM;30NGKA;30KPEUX;30WUO;30SEE;30NGGEUAET",
      "30PAAM;30TOO;30KUOP;30LOM;30NSHIEE;30NGOP;30MAEM;30NGKEUX;30NGOQ;30NSHUE;30RIMGBA;30NJEUX",
      "30PEEM;30SAA;30NGGURAE;30MGBA;30GHEUX;30NGKEUAEM;30NJAEMLI;30MAP;30LOOT;30NGGEEEE;30NDIQ",
      "30TAEN NTEUM;30SET;30PUM;30NDAA SOFTNESS;30NGGUAESHAE NYAM;30YIEE;30GHEUN;30TUAE;30YEUAE",
      "30PO;30TUMAE;30KEUAE;30SUAEN;30TEUAEQ;30VEUAE;30WEUX;30LAAM;30PU;30TAAQ;30GHAAMAE",
      "30NGEUREUT;30SHEUAEQ;30MGBEN;30MBEE;30NZAQ;30NKOM;30GBET;30TUM;30KUET;30YAP;30NYI CLEAVER",
      "30YIT;30MFEUQ;30NDIAQ;30PIEEQ;30YUEQ;30LEUAEM;30FUE;30GBEUX;30NGKUP;30KET;30MAE;30NGKAAMI",
      "30GHET;30FA;30NTUM;30PEUT;30YEUM;30NGGEUAE;30NYI BETWEEN;30NZUQ;30POON;30MIEE;30FUET",
      "30NAE;30MUAE;30GHEUAE;30FU I;30MVI;30PUAQ;30NGKUM;30KUT;30PIET;30NTAP;30YEUAET;30NGGUP",
      "30PA PEOPLE;30FU CALL;30FOM;30NJEE;30A;30TOQ;30O;30I;30LAQ;30PA PLURAL;30TAA;30TAQ",
      "30NDAA MY HOUSE;30SHIQ;30YEUX;30NGUAE;30YUAEN;30YOQ SWIMMING;40COVER;30YUQ;30YUN;30KEUX",
      "30PEUX;30NJEE EPOCH;30PUE;30WUE;30FEE;30VEE;30LU;30MI;30REUX;30RAE;30NGUAET;30NGA;30SHO",
      "30SHOQ;30FU REMEDY;30NA;30PI;30LOQ;30KO;30MEN;30MA;30MAQ;30TEU;30KI;30MON;30TEN;30FAQ",
      "30GHOM;20PHASE-F KA;30U;30KU;30EE;30REE;30TAE;30NYI;30LA;30RII;30RIEE;30MEEEE;30TAA",
      "30NDAA;30NJAEM;30M;30SUU;30SHII;30SI;30SEUX;30KYEE;30KET;30NUAE;30NU;30NJUAE;30YOQ;30SHU",
      "30YA;30NSHA;30PEUX;30NTEE;30WUE;30PEE;30RU;30NI;30REUX;30KEN;30NGKWAEN;30NGGA;30SHO",
      "30PUAE;30FOM;30WA;30LI;30LOQ;30KO;30MBEN;30REN;30MA;30MO;30MBAA;30TET;30KPA;30SAMBA",
      "30VUEQ"]⟩,
    ⟨0x16a40, [
      "00MRO LETTER TA;20NGI;20YO;20MIM;20BA;20DA;20A;20PHI;20KHAI;20HAO;20DAI;20CHU;20KEAAE",
      "20OL;20MAEM;20NIN;20PA;20OO;20O;20RO;20SHI;20THEA;20EA;20WA;20E;20KO;20LAN;20LA;20HAI",
      "20RI;20TEK"]⟩,
    ⟨0x16a60, ["00MRO DIGIT ZERO;20ONE;20TWO;20THREE;20FOUR;20FIVE;20SIX;20SEVEN;20EIGHT;20NINE"]⟩,
    ⟨0x16a6e, [
      "00MRO DANDA;11DOUBLE;00TANGSA LETTER OZ;20OC;20OQ;20OX;20AZ;20AC;20AQ;20AX;20VZ;20VC;20VQ",
      "20VX;20EZ;20EC;20EQ;20EX;20IZ;20IC;20IQ;20IX;20UZ;20UC;20UQ;20UX;20AWZ;20AWC;20AWQ;20AWX",
      "20UIZ;20UIC;20UIQ;20UIX;20FINAL NG;20LONG UEX;20SHORT UEZ;30AWX;20UEC;20UEZ;20UEQ;20UEX",
      "20UIUZ;20UIUC;20UIUQ;20UIUX;20MZ;20MC;20MQ;20MX;20KA;20KHA;20GA;20NGA;20SA;20YA;20WA;20PA",
      "20NYA;20PHA;20BA;20MA;20NA;20HA;20LA;20HTA;20TA;20DA;20RA;20NHA;20SHA;20CA;20TSA;20GHA",
      "20HTTA;20THA;20XA;20FA;20DHA;20CHA;20ZA"]⟩,
    ⟨0x16ac0, [
      "00TANGSA DIGIT ZERO;20ONE;20TWO;20THREE;20FOUR;20FIVE;20SIX;20SEVEN;20EIGHT;20NINE"]⟩,
    ⟨0x16ad0, [
      "00BASSA VAH LETTER ENNI;30KA;30SE;30FA;30MBE;30YIE;30GAH;30DHII;30KPAH;30JO;30HWAH;30WA",
      "30ZO;30GBU;30DO;30CE;30UWU;30TO;30BA;30VU;30YEIN;30PA;30WADDA;30A;30O;30OO;30U;30EE;30E",
      "30I"]⟩,
    ⟨0x16af0, ["00BASSA VAH COMBINING HIGH TONE;31LOW;31MID;31LOW-MID;31HIGH-LOW;20FULL STOP"]⟩,
    ⟨0x16b00, [
      "00PAHAWH HMONG VOWEL KEEB;30KEEV;30KIB;30KIV;30KAUB;30KAUV;30KUB;30KUV;30KEB;30KEV;30KAIB",
      "30KAIV;30KOOB;30KOOV;30KAWB;30KAWV;30KUAB;30KUAV;30KOB;30KOV;30KIAB;30KIAV;30KAB;30KAV",
      "30KWB;30KWV;30KAAB;30KAAV;20CONSONANT VAU;30NTSAU;30LAU;30HAU;30NLAU;30RAU;30NKAU;30QHAU",
      "30YAU;30HLAU;30MAU;30CHAU;30NCHAU;30HNAU;30PLHAU;30NTHAU;30NAU;30AU;30XAU;30CAU",
      "20MARK CIM TUB;40SO;40KES;40KHAV;40SUAM;40HOM;40TAUM;20SIGN VOS THOM;40TSHAB CEEB",
      "30CIM CHEEM;30VOS THIAB;40FEEM;30XYEEM NTXIV;40RHO;40TOV;40FAIB;30VOS SEEV;30MEEJ SUAB",
      "30VOS NRUA;30IB YAM;30XAUS;30CIM TSOV ROG"]⟩,
    ⟨0x16b50, [
      "00PAHAWH HMONG DIGIT ZERO;30ONE;30TWO;30THREE;30FOUR;30FIVE;30SIX;30SEVEN;30EIGHT;30NINE"]⟩,
    ⟨0x16b5b, [
      "00PAHAWH HMONG NUMBER TENS;30HUNDREDS;30TEN THOUSANDS;30MILLIONS;31HUNDRED;30TEN BILLIONS",
      "30TRILLIONS"]⟩,
    ⟨0x16b63, [
      "00PAHAWH HMONG SIGN VOS LUB;30XYOO;30HLI;31THIRD-STAGE;30ZWJ THAJ;30HNUB;30NQIG;30XIAB",
      "30NTUJ;30AV;30TXHEEJ CEEV;30MEEJ TSEEB;30TAU;30LOS;30MUS;30CIM HAIS LUS NTOG NTOG",
      "40CUAM TSHOOJ;40TXWV;50CHWV;40PUB DAWB;40NRES TOS"]⟩,
    ⟨0x16b7d, [
      "00PAHAWH HMONG CLAN SIGN TSHEEJ;40YEEG;40LIS;40LAUJ;40XYOOJ;40KOO;40HAWJ;40MUAS;40THOJ",
      "40TSAB;40PHAB;40KHAB;40HAM;40VAJ;40FAJ;40YAJ;40TSWB;40KWM;40VWJ"]⟩,
    ⟨0x16e40, [
      "00MEDEFAIDRIN CAPITAL LETTER M;30S;30V;30W;30ATIU;30Z;30KP;30P;30T;30G;30F;30I;30K;30A",
      "30J;30E;30B;30C;30U;30YU;30L;30Q;30HP;30NY;30X;30D;30OE;30N;30R;30O;30AI;30Y",
      "10SMALL LETTER M;30S;30V;30W;30ATIU;30Z;30KP;30P;30T;30G;30F;30I;30K;30A;30J;30E;30B;30C",
      "30U;30YU;30L;30Q;30HP;30NY;30X;30D;30OE;30N;30R;30O;30AI;30Y;10DIGIT ZERO;20ONE;20TWO",
      "20THREE;20FOUR;20FIVE;20SIX;20SEVEN;20EIGHT;20NINE;10NUMBER TEN;20ELEVEN;20TWELVE",
      "20THIRTEEN;20FOURTEEN;20FIFTEEN;20SIXTEEN;20SEVENTEEN;20EIGHTEEN;20NINETEEN",
      "10DIGIT ONE ALTERNATE FORM;22TWO;22THREE;10COMMA;10FULL STOP;10SYMBOL AIVA",
      "10EXCLAMATION OH"]⟩,
    ⟨0x16f00, [
      "00MIAO LETTER PA;20BA;20YI PA;20PLA;20MA;20MHA;20ARCHAIC MA;20FA;20VA;20VFA;20TA;20DA",
      "20YI TTA;30TA;20TTA;20DDA;20NA;20NHA;20YI NNA;20ARCHAIC NA;20NNA;20NNHA;20LA;20LYA;20LHA",
      "20LHYA;20TLHA;20DLHA;20TLHYA;20DLHYA;20KA;20GA;20YI KA;20QA;20QGA;20NGA;20NGHA",
      "20ARCHAIC NGA;20HA;20XA;20GHA;20GHHA;20TSSA;20DZZA;20NYA;20NYHA;20TSHA;20DZHA;20YI TSHA",
      "30DZHA;20REFORMED TSHA;20SHA;20SSA;20ZHA;20ZSHA;20TSA;20DZA;20YI TSA;20SA;20ZA;20ZSA",
      "20ZZA;20ZZSA;20ARCHAIC ZZA;20ZZYA;20ZZSYA;20WA;20AH;20HHA;20BRI;20SYI;20DZYI;20TE;20TSE",
      "20RTE"]⟩,
    ⟨0x16f4f, [
      "00MIAO SIGN CONSONANT MODIFIER BAR;10LETTER NASALIZATION;10SIGN ASPIRATION",
      "20REFORMED VOICING;30ASPIRATION;10VOWEL SIGN A;30AA;30AHH;30AN;30ANG;30O;30OO;30WO;30W",
      "30E;30EN;30ENG;30OEY;30I;30IA;30IAN;30IANG;30IO;30IE;30II;30IU;30ING;30U;30UA;30UAN",
      "30UANG;30UU;30UEI;30UNG;30Y;30YI;30AE;30AEE;30ERR;31ROUNDED;30ER;31ROUNDED;30AI;30EI;30AU",
      "30OU;30N;30NG;30UOG;30YUI;30OG;30OER;30VW;30IG;30EA;30IONG;30UI"]⟩,
    ⟨0x16f8f, [
      "00MIAO TONE RIGHT;21TOP;20ABOVE;20BELOW;10LETTER TONE-2;20TONE-3;20TONE-4;20TONE-5",
      "20TONE-6;20TONE-7;20TONE-8;20REFORMED TONE-1;30TONE-2;30TONE-4;30TONE-5;30TONE-6;30TONE-8"]⟩,
    ⟨0x16fe0, [
      "00TANGUT ITERATION MARK;02NUSHU;01OLD CHINESE HOOK;21ITERATION",
      "00KHITAN SMALL SCRIPT FILLER"]⟩,
    ⟨0x16ff0, ["00VIETNAMESE ALTERNATE READING MARK CA;40NHAY"]⟩,
    ⟨0x1aff0, ["00KATAKANA LETTER MINNAN TONE-2;30TONE-3;30TONE-4;30TONE-5"]⟩,
    ⟨0x1aff5, [
      "00KATAKANA LETTER MINNAN TONE-7;30TONE-8;30NASALIZED TONE-1;40TONE-2;40TONE-3;40TONE-4",
      "40TONE-5"]⟩,
    ⟨0x1affd, ["00KATAKANA LETTER MINNAN NASALIZED TONE-7;40TONE-8"]⟩,
    ⟨0x1b000, [
      "00KATAKANA LETTER ARCHAIC E;00HIRAGANA LETTER ARCHAIC YE;00HENTAIGANA LETTER A-1;20A-2",
      "20A-3;20A-WO;20I-1;20I-2;20I-3;20I-4;20U-1;20U-2;20U-3;20U-4;20U-5;20E-2;20E-3;20E-4",
      "20E-5;20E-6;20O-1;20O-2;20O-3;20KA-1;20KA-2;20KA-3;20KA-4;20KA-5;20KA-6;20KA-7;20KA-8",
      "20KA-9;20KA-10;20KA-11;20KA-KE;20KI-1;20KI-2;20KI-3;20KI-4;20KI-5;20KI-6;20KI-7;20KI-8",
      "20KU-1;20KU-2;20KU-3;20KU-4;20KU-5;20KU-6;20KU-7;20KE-1;20KE-2;20KE-3;20KE-4;20KE-5",
      "20KE-6;20KO-1;20KO-2;20KO-3;20KO-KI;20SA-1;20SA-2;20SA-3;20SA-4;20SA-5;20SA-6;20SA-7",
      "20SA-8;20SI-1;20SI-2;20SI-3;20SI-4;20SI-5;20SI-6;20SU-1;20SU-2;20SU-3;20SU-4;20SU-5",
      "20SU-6;20SU-7;20SU-8;20SE-1;20SE-2;20SE-3;20SE-4;20SE-5;20SO-1;20SO-2;20SO-3;20SO-4",
      "20SO-5;20SO-6;20SO-7;20TA-1;20TA-2;20TA-3;20TA-4;20TI-1;20TI-2;20TI-3;20TI-4;20TI-5",
      "20TI-6;20TI-7;20TU-1;20TU-2;20TU-3;20TU-4;20TU-TO;20TE-1;20TE-2;20TE-3;20TE-4;20TE-5",
      "20TE-6;20TE-7;20TE-8;20TE-9;20TO-1;20TO-2;20TO-3;20TO-4;20TO-5;20TO-6;20TO-RA;20NA-1",
      "20NA-2;20NA-3;20NA-4;20NA-5;20NA-6;20NA-7;20NA-8;20NA-9;20NI-1;20NI-2;20NI-3;20NI-4",
      "20NI-5;20NI-6;20NI-7;20NI-TE;20NU-1;20NU-2;20NU-3;20NE-1;20NE-2;20NE-3;20NE-4;20NE-5",
      "20NE-6;20NE-KO;20NO-1;20NO-2;20NO-3;20NO-4;20NO-5;20HA-1;20HA-2;20HA-3;20HA-4;20HA-5",
      "20HA-6;20HA-7;20HA-8;20HA-9;20HA-10;20HA-11;20HI-1;20HI-2;20HI-3;20HI-4;20HI-5;20HI-6",
      "20HI-7;20HU-1;20HU-2;20HU-3;20HE-1;20HE-2;20HE-3;20HE-4;20HE-5;20HE-6;20HE-7;20HO-1",
      "20HO-2;20HO-3;20HO-4;20HO-5;20HO-6;20HO-7;20HO-8;20MA-1;20MA-2;20MA-3;20MA-4;20MA-5",
      "20MA-6;20MA-7;20MI-1;20MI-2;20MI-3;20MI-4;20MI-5;20MI-6;20MI-7;20MU-1;20MU-2;20MU-3",
      "20MU-4;20ME-1;20ME-2;20ME-MA;20MO-1;20MO-2;20MO-3;20MO-4;20MO-5;20MO-6;20YA-1;20YA-2",
      "20YA-3;20YA-4;20YA-5;20YA-YO;20YU-1;20YU-2;20YU-3;20YU-4;20YO-1;20YO-2;20YO-3;20YO-4",
      "20YO-5;20YO-6;20RA-1;20RA-2;20RA-3;20RA-4;20RI-1;20RI-2;20RI-3;20RI-4;20RI-5;20RI-6",
      "20RI-7;20RU-1;20RU-2;20RU-3;20RU-4;20RU-5;20RU-6;20RE-1;20RE-2;20RE-3;20RE-4;20RO-1",
      "20RO-2;20RO-3;20RO-4;20RO-5;20RO-6;20WA-1;20WA-2;20WA-3;20WA-4;20WA-5;20WI-1;20WI-2",
      "20WI-3;20WI-4;20WI-5;20WE-1;20WE-2;20WE-3;20WE-4;20WO-1;20WO-2;20WO-3;20WO-4;20WO-5",
      "20WO-6;20WO-7;20N-MU-MO-1;20N-MU-MO-2;00HIRAGANA LETTER ARCHAIC WU",
      "00KATAKANA LETTER ARCHAIC YI;30YE;30WU"]⟩,
    ⟨0x1b150, ["00HIRAGANA LETTER SMALL WI;30WE;30WO"]⟩,
    ⟨0x1b164, ["00KATAKANA LETTER SMALL WI;30WE;30WO;30N"]⟩,
    ⟨0x1bc00, [
      "00DUPLOYAN LETTER H;20X;20P;20T;20F;20K;20L;20B;20D;20V;20G;20R;20P N;20D S;20F N;20K M",
      "20R S;20TH;20SLOAN DH;21;20KK;20SLOAN J;20HL;20LH;20RH;20M;20N;20J;20S;20M N;20N M;21J",
      "20S J;20M WITH DOT;22N;22J;40DOTS INSIDE AND ABOVE;20S WITH DOT;50BELOW;20M S;21N;21J;21S",
      "21M N;21N M;22J;21S J;20J S WITH DOT;30N;40S;20S T;40R;30P;40R;20T S;31R;20W;20WH;20W R",
      "20S N;30M;20K R S;22G;20S K;40R;20A;20SLOAN OW;20OA;20O;20AOU;20I;20E;20IE;20SHORT I;20UI",
      "20EE;20SLOAN EH;20ROMANIAN I;20SLOAN EE;20LONG I;20YE;20U;20EU;20XW;20U N;20LONG U",
      "21ROMANIAN;20UH;20SLOAN U;20OOH;20OW;20OU;20WA;20WO;20WI;20WEI;20WOW;20NASAL U;30O;30I",
      "30A;20PERNIN AN;30AM;20SLOAN EN;30AN;30ON;20VOCALIC M"]⟩,
    ⟨0x1bc70, [
      "00DUPLOYAN AFFIX LEFT HORIZONTAL SECANT;22MID;22RIGHT;21LOW VERTICAL;22MID;22HIGH",
      "21ATTACHED;31LEFT-TO-RIGHT;30TANGENT;30TAIL;30E HOOK;31I;31TANGENT"]⟩,
    ⟨0x1bc80, [
      "00DUPLOYAN AFFIX HIGH ACUTE;31TIGHT;30GRAVE;31LONG;30DOT;30CIRCLE;30LINE;30WAVE",
      "30VERTICAL"]⟩,
    ⟨0x1bc90, [
      "00DUPLOYAN AFFIX LOW ACUTE;31TIGHT;30GRAVE;31LONG;30DOT;30CIRCLE;30LINE;30WAVE;30VERTICAL",
      "30ARROW"]⟩,
    ⟨0x1bc9c, [
      "00DUPLOYAN SIGN O WITH CROSS;10THICK LETTER SELECTOR;10DOUBLE MARK",
      "10PUNCTUATION CHINOOK FULL STOP;00SHORTHAND FORMAT LETTER OVERLAP;21CONTINUING",
      "20DOWN STEP;21UP"]⟩,
    ⟨0x1cf00, [
      "00ZNAMENNY COMBINING MARK GORAZDO NIZKO S KRYZHEM ON LEFT;35;32TSATA;32GORAZDO NIZKO;33",
      "32SREDNE;32MALO POVYSHE;33;32VYSOKO;32MALO POVYSHE S KHOKHLOM;35;34VYSOKO",
      "30GORAZDO NIZKO S KRYZHEM ON RIGHT;35;32TSATA;32GORAZDO NIZKO;33;32SREDNE;32MALO POVYSHE",
      "33;32VYSOKO;32MALO POVYSHE S KHOKHLOM;35;34VYSOKO;30TSATA S KRYZHEM;32MALO POVYSHE",
      "30STRANNO MALO POVYSHE;30POVYSHE S KRYZHEM;40STRANNO;30VYSOKO S KRYZHEM",
      "30MALO POVYSHE STRANNO;30GORAZDO VYSOKO;30ZELO;30ON;30RAVNO;30TIKHAYA;30BORZAYA;30UDARKA",
      "30PODVERTKA;30LOMKA;30KUPNAYA;30KACHKA;30ZEVOK;30SKOBA;30RAZSEKA;30KRYZH ON LEFT"]⟩,
    ⟨0x1cf30, [
      "00ZNAMENNY COMBINING TONAL RANGE MARK MRACHNO;50SVETLO;50TRESVETLO;20MARK ZADERZHKA",
      "31DEMESTVENNY;30OTSECHKA;30PODCHASHIE;40WITH VERTICAL STROKE;30CHASHKA;40POLNAYA",
      "30OBLACHKO;30SOROCHYA NOZHKA;30TOCHKA;30DVOETOCHIE;20ATTACHING VERTICAL OMET",
      "21MARK CURVED;30KRYZH;20LOWER TONAL RANGE INDICATOR;10PRIZNAK MODIFIER LEVEL-2;30LEVEL-3",
      "30DIRECTION FLIP;30KRYZH;30ROG"]⟩,
    ⟨0x1cf50, [
      "00ZNAMENNY NEUME KRYUK;30TIKHY;20PARAKLIT;20DVA V CHELNU;20KLYUCH;20ZANOZHEK;20STOPITSA",
      "30S OCHKOM;20PEREVODKA;30NEPOSTOYANNAYA;20STOPITSA WITH SOROCHYA NOZHKA;20CHELYUSTKA",
      "20PALKA;20ZAPYATAYA;20GOLUBCHIK BORZY;30TIKHY;30MRACHNY;30SVETLY;30TRESVETLY",
      "20VRAKHIYA PROSTAYA;30MRACHNAYA;30SVETLAYA;30TRESVETLAYA;30KLYUCHEVAYA PROSTAYA",
      "40MRACHNAYA;40SVETLAYA;40TRESVETLAYA;20DOUBLE ZAPYATAYA;20REVERSED CHELYUSTKA;20DERBITSA",
      "20KHAMILO;20CHASHKA;20PODCHASHIE;20SKAMEYTSA MRACHNAYA;30SVETLAYA;30TRESVETLAYA;30TIKHAYA",
      "20DEMESTVENNY KLYUCH;20SKAMEYTSA KLYUCHEVAYA SVETLAYA;30KLYUCHENEPOSTOYANNAYA",
      "30KLYUCHEVAYA TIKHAYA;30DVOECHELNAYA PROSTAYA;40SVETLAYA;40NEPOSTOYANNAYA;40KLYUCHEVAYA",
      "20SLOZHITIE;30S ZAPYATOY;30ZAKRYTOE;30S KRYZHEM;20KRYZH;20ROG;20FITA;20KOBYLA;20ZMEYTSA",
      "20STATYA;30S ZAPYATOY;40KRYZHEM;41ZAPYATOY I;40KRYZHEM I ZAPYATOY;30ZAKRYTAYA",
      "40S ZAPYATOY;30S ROGOM;40DVUMYA ZAPYATYMI;40ZAPYATOY I PODCHASHIEM;20POLKULIZMY",
      "20STATYA NEPOSTOYANNAYA;20STRELA PROSTAYA;30MRACHNOTIKHAYA;30KRYZHEVAYA;30POLUPOVODNAYA",
      "30POVODNAYA;30NEPOSTOYANNAYA;30KLYUCHEPOVODNAYA;30KLYUCHENEPOSTOYANNAYA;30TIKHAYA PUTNAYA",
      "30DVOECHELNAYA;30DVOECHELNOKRYZHEVAYA;30DVOECHELNOPOVODNAYA;30DVOECHELNAYA KLYUCHEVAYA",
      "31DVOECHELNOPOVODNAYA;30GROMNAYA WITH SINGLE ZAPYATAYA;33GROMOPOVODNAYA;30GROMNAYA",
      "30GROMOPOVODNAYA;40WITH DOUBLE ZAPYATAYA;30GROMOKRYZHEVAYA;40POVODNAYA;20MECHIK;30POVODNY",
      "30KLYUCHEVOY;30KLYUCHEPOVODNY;30KLYUCHENEPOSTOYANNY;20STRELA TRYASOGLASNAYA",
      "30TRYASOPOVODNAYA;30TRYASOSTRELNAYA;20OSOKA;30SVETLAYA;30TRESVETLAYA",
      "30KRYUKOVAYA SVETLAYA;31KLYUCHEVAYA;40NEPOSTOYANNAYA;20STRELA KRYUKOVAYA;40POVODNAYA",
      "40GROMNAYA WITH SINGLE ZAPYATAYA;43GROMOPOVODNAYA;40GROMNAYA;40GROMOPOVODNAYA",
      "50WITH DOUBLE ZAPYATAYA;40GROMOKRYZHEVAYA;50POVODNAYA;40TRYASKA;20KUFISMA;20OBLAKO;20DUDA",
      "20NEMKA;20PAUK"]⟩]

end SafeFetch.Text.CharacterName
