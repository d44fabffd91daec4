/-!
# Names of Southern letters

* `southernNames` — the blocks from Devanagari to the Vedic signs: the scripts of India and of
  South-East Asia, of Georgia, Ethiopia and the Americas, and the parts of Hangul syllables.
-/

namespace FormCheck.Text

/-- The names of the characters from `0x900` to `0x1cfa`, in the notation of tables of names. -/
def southernNames : List String :=
  ["@900;0 DEVANAGARI SIGN INVERTED CANDRABINDU;2 CANDRABINDU;2 ANUSVARA;2 VISARGA;1 LETTER SHORT A",
   "2 A;2 AA;2 I;2 II;2 U;2 UU;2 VOCALIC R;3 L;2 CANDRA E;2 SHORT E;2 E;2 AI;2 CANDRA O;2 SHORT O",
   "2 O;2 AU;2 KA;2 KHA;2 GA;2 GHA;2 NGA;2 CA;2 CHA;2 JA;2 JHA;2 NYA;2 TTA;2 TTHA;2 DDA;2 DDHA",
   "2 NNA;2 TA;2 THA;2 DA;2 DHA;2 NA;2 NNNA;2 PA;2 PHA;2 BA;2 BHA;2 MA;2 YA;2 RA;2 RRA;2 LA;2 LLA",
   "2 LLLA;2 VA;2 SHA;2 SSA;2 SA;2 HA;1 VOWEL SIGN OE;3 OOE;1 SIGN NUKTA;2 AVAGRAHA;1 VOWEL SIGN AA",
   "3 I;3 II;3 U;3 UU;3 VOCALIC R;4 RR;3 CANDRA E;3 SHORT E;3 E;3 AI;3 CANDRA O;3 SHORT O;3 O;3 AU",
   "1 SIGN VIRAMA;1 VOWEL SIGN PRISHTHAMATRA E;3 AW;1 OM;1 STRESS SIGN UDATTA;3 ANUDATTA",
   "1 GRAVE ACCENT;1 ACUTE ACCENT;1 VOWEL SIGN CANDRA LONG E;3 UE;3 UUE;1 LETTER QA;2 KHHA;2 GHHA",
   "2 ZA;2 DDDHA;2 RHA;2 FA;2 YYA;2 VOCALIC RR;3 LL;1 VOWEL SIGN VOCALIC L;4 LL;1 DANDA",
   "1 DOUBLE DANDA;1 DIGIT ZERO;2 ONE;2 TWO;2 THREE;2 FOUR;2 FIVE;2 SIX;2 SEVEN;2 EIGHT;2 NINE",
   "1 ABBREVIATION SIGN;1 SIGN HIGH SPACING DOT;1 LETTER CANDRA A;2 OE;2 OOE;2 AW;2 UE;2 UUE",
   "2 MARWARI DDA;2 ZHA;2 HEAVY YA;2 GGA;2 JJA;2 GLOTTAL STOP;2 DDDA;2 BBA;0 BENGALI ANJI",
   "1 SIGN CANDRABINDU;2 ANUSVARA;2 VISARGA;@985;1 LETTER A;2 AA;2 I;2 II;2 U;2 UU;2 VOCALIC R;3 L",
   "@98f;2 E;2 AI;@993;2 O;2 AU;2 KA;2 KHA;2 GA;2 GHA;2 NGA;2 CA;2 CHA;2 JA;2 JHA;2 NYA;2 TTA",
   "2 TTHA;2 DDA;2 DDHA;2 NNA;2 TA;2 THA;2 DA;2 DHA;2 NA;@9aa;2 PA;2 PHA;2 BA;2 BHA;2 MA;2 YA;2 RA",
   "@9b2;2 LA;@9b6;2 SHA;2 SSA;2 SA;2 HA;@9bc;1 SIGN NUKTA;2 AVAGRAHA;1 VOWEL SIGN AA;3 I;3 II;3 U",
   "3 UU;3 VOCALIC R;4 RR;@9c7;3 E;3 AI;@9cb;3 O;3 AU;1 SIGN VIRAMA;1 LETTER KHANDA TA;@9d7",
   "1 AU LENGTH MARK;@9dc;1 LETTER RRA;2 RHA;@9df;2 YYA;2 VOCALIC RR;3 LL;1 VOWEL SIGN VOCALIC L",
   "4 LL;@9e6;1 DIGIT ZERO;2 ONE;2 TWO;2 THREE;2 FOUR;2 FIVE;2 SIX;2 SEVEN;2 EIGHT;2 NINE",
   "1 LETTER RA WITH MIDDLE DIAGONAL;4 LOWER DIAGONAL;1 RUPEE MARK;2 SIGN;1 CURRENCY NUMERATOR ONE",
   "3 TWO;3 THREE;3 FOUR;3 ONE LESS THAN THE DENOMINATOR;2 DENOMINATOR SIXTEEN;1 ISSHAR",
   "1 GANDA MARK;1 LETTER VEDIC ANUSVARA;1 ABBREVIATION SIGN;1 SANDHI MARK;@a01",
   "0 GURMUKHI SIGN ADAK BINDI;2 BINDI;2 VISARGA;@a05;1 LETTER A;2 AA;2 I;2 II;2 U;2 UU;@a0f;2 EE",
   "2 AI;@a13;2 OO;2 AU;2 KA;2 KHA;2 GA;2 GHA;2 NGA;2 CA;2 CHA;2 JA;2 JHA;2 NYA;2 TTA;2 TTHA;2 DDA",
   "2 DDHA;2 NNA;2 TA;2 THA;2 DA;2 DHA;2 NA;@a2a;2 PA;2 PHA;2 BA;2 BHA;2 MA;2 YA;2 RA;@a32;2 LA",
   "2 LLA;@a35;2 VA;2 SHA;@a38;2 SA;2 HA;@a3c;1 SIGN NUKTA;@a3e;1 VOWEL SIGN AA;3 I;3 II;3 U;3 UU",
   "@a47;3 EE;3 AI;@a4b;3 OO;3 AU;1 SIGN VIRAMA;@a51;2 UDAAT;@a59;1 LETTER KHHA;2 GHHA;2 ZA;2 RRA",
   "@a5e;2 FA;@a66;1 DIGIT ZERO;2 ONE;2 TWO;2 THREE;2 FOUR;2 FIVE;2 SIX;2 SEVEN;2 EIGHT;2 NINE",
   "1 TIPPI;1 ADDAK;1 IRI;1 URA;1 EK ONKAR;1 SIGN YAKASH;1 ABBREVIATION SIGN;@a81",
   "0 GUJARATI SIGN CANDRABINDU;2 ANUSVARA;2 VISARGA;@a85;1 LETTER A;2 AA;2 I;2 II;2 U;2 UU",
   "2 VOCALIC R;3 L;1 VOWEL CANDRA E;@a8f;1 LETTER E;2 AI;1 VOWEL CANDRA O;@a93;1 LETTER O;2 AU",
   "2 KA;2 KHA;2 GA;2 GHA;2 NGA;2 CA;2 CHA;2 JA;2 JHA;2 NYA;2 TTA;2 TTHA;2 DDA;2 DDHA;2 NNA;2 TA",
   "2 THA;2 DA;2 DHA;2 NA;@aaa;2 PA;2 PHA;2 BA;2 BHA;2 MA;2 YA;2 RA;@ab2;2 LA;2 LLA;@ab5;2 VA;2 SHA",
   "2 SSA;2 SA;2 HA;@abc;1 SIGN NUKTA;2 AVAGRAHA;1 VOWEL SIGN AA;3 I;3 II;3 U;3 UU;3 VOCALIC R;4 RR",
   "3 CANDRA E;@ac7;3 E;3 AI;3 CANDRA O;@acb;3 O;3 AU;1 SIGN VIRAMA;@ad0;1 OM;@ae0",
   "1 LETTER VOCALIC RR;3 LL;1 VOWEL SIGN VOCALIC L;4 LL;@ae6;1 DIGIT ZERO;2 ONE;2 TWO;2 THREE",
   "2 FOUR;2 FIVE;2 SIX;2 SEVEN;2 EIGHT;2 NINE;1 ABBREVIATION SIGN;1 RUPEE SIGN;@af9;1 LETTER ZHA",
   "1 SIGN SUKUN;2 SHADDA;2 MADDAH;2 THREE-DOT NUKTA ABOVE;2 CIRCLE NUKTA ABOVE",
   "2 TWO-CIRCLE NUKTA ABOVE;@b01;0 ORIYA SIGN CANDRABINDU;2 ANUSVARA;2 VISARGA;@b05;1 LETTER A",
   "2 AA;2 I;2 II;2 U;2 UU;2 VOCALIC R;3 L;@b0f;2 E;2 AI;@b13;2 O;2 AU;2 KA;2 KHA;2 GA;2 GHA;2 NGA",
   "2 CA;2 CHA;2 JA;2 JHA;2 NYA;2 TTA;2 TTHA;2 DDA;2 DDHA;2 NNA;2 TA;2 THA;2 DA;2 DHA;2 NA;@b2a",
   "2 PA;2 PHA;2 BA;2 BHA;2 MA;2 YA;2 RA;@b32;2 LA;2 LLA;@b35;2 VA;2 SHA;2 SSA;2 SA;2 HA;@b3c",
   "1 SIGN NUKTA;2 AVAGRAHA;1 VOWEL SIGN AA;3 I;3 II;3 U;3 UU;3 VOCALIC R;4 RR;@b47;3 E;3 AI;@b4b",
   "3 O;3 AU;1 SIGN VIRAMA;@b55;2 OVERLINE;1 AI LENGTH MARK;1 AU LENGTH MARK;@b5c;1 LETTER RRA",
   "2 RHA;@b5f;2 YYA;2 VOCALIC RR;3 LL;1 VOWEL SIGN VOCALIC L;4 LL;@b66;1 DIGIT ZERO;2 ONE;2 TWO",
   "2 THREE;2 FOUR;2 FIVE;2 SIX;2 SEVEN;2 EIGHT;2 NINE;1 ISSHAR;1 LETTER WA;1 FRACTION ONE QUARTER",
   "3 HALF;2 THREE QUARTERS;2 ONE SIXTEENTH;3 EIGHTH;2 THREE SIXTEENTHS;@b82;0 TAMIL SIGN ANUSVARA",
   "2 VISARGA;@b85;1 LETTER A;2 AA;2 I;2 II;2 U;2 UU;@b8e;2 E;2 EE;2 AI;@b92;2 O;2 OO;2 AU;2 KA",
   "@b99;2 NGA;2 CA;@b9c;2 JA;@b9e;2 NYA;2 TTA;@ba3;2 NNA;2 TA;@ba8;2 NA;2 NNNA;2 PA;@bae;2 MA;2 YA",
   "2 RA;2 RRA;2 LA;2 LLA;2 LLLA;2 VA;2 SHA;2 SSA;2 SA;2 HA;@bbe;1 VOWEL SIGN AA;3 I;3 II;3 U;3 UU",
   "@bc6;3 E;3 EE;3 AI;@bca;3 O;3 OO;3 AU;1 SIGN VIRAMA;@bd0;1 OM;@bd7;1 AU LENGTH MARK;@be6",
   "1 DIGIT ZERO;2 ONE;2 TWO;2 THREE;2 FOUR;2 FIVE;2 SIX;2 SEVEN;2 EIGHT;2 NINE;1 NUMBER TEN",
   "2 ONE HUNDRED;3 THOUSAND;1 DAY SIGN;1 MONTH SIGN;1 YEAR SIGN;1 DEBIT SIGN;1 CREDIT SIGN",
   "1 AS ABOVE SIGN;1 RUPEE SIGN;1 NUMBER SIGN;@c00;0 TELUGU SIGN COMBINING CANDRABINDU ABOVE",
   "2 CANDRABINDU;2 ANUSVARA;2 VISARGA;2 COMBINING ANUSVARA ABOVE;1 LETTER A;2 AA;2 I;2 II;2 U;2 UU",
   "2 VOCALIC R;3 L;@c0e;2 E;2 EE;2 AI;@c12;2 O;2 OO;2 AU;2 KA;2 KHA;2 GA;2 GHA;2 NGA;2 CA;2 CHA",
   "2 JA;2 JHA;2 NYA;2 TTA;2 TTHA;2 DDA;2 DDHA;2 NNA;2 TA;2 THA;2 DA;2 DHA;2 NA;@c2a;2 PA;2 PHA",
   "2 BA;2 BHA;2 MA;2 YA;2 RA;2 RRA;2 LA;2 LLA;2 LLLA;2 VA;2 SHA;2 SSA;2 SA;2 HA;@c3c;1 SIGN NUKTA",
   "2 AVAGRAHA;1 VOWEL SIGN AA;3 I;3 II;3 U;3 UU;3 VOCALIC R;4 RR;@c46;3 E;3 EE;3 AI;@c4a;3 O;3 OO",
   "3 AU;1 SIGN VIRAMA;@c55;1 LENGTH MARK;1 AI LENGTH MARK;@c58;1 LETTER TSA;2 DZA;2 RRRA;@c5d",
   "2 NAKAARA POLLU;@c60;2 VOCALIC RR;3 LL;1 VOWEL SIGN VOCALIC L;4 LL;@c66;1 DIGIT ZERO;2 ONE",
   "2 TWO;2 THREE;2 FOUR;2 FIVE;2 SIX;2 SEVEN;2 EIGHT;2 NINE;@c77;1 SIGN SIDDHAM",
   "1 FRACTION DIGIT ZERO FOR ODD POWERS OF FOUR;3 ONE FOR ODD POWERS OF FOUR",
   "3 TWO FOR ODD POWERS OF FOUR;3 THREE FOR ODD POWERS OF FOUR;3 ONE FOR EVEN POWERS OF FOUR",
   "3 TWO FOR EVEN POWERS OF FOUR;3 THREE FOR EVEN POWERS OF FOUR;1 SIGN TUUMU",
   "0 KANNADA SIGN SPACING CANDRABINDU;2 CANDRABINDU;2 ANUSVARA;2 VISARGA;2 SIDDHAM;1 LETTER A;2 AA",
   "2 I;2 II;2 U;2 UU;2 VOCALIC R;3 L;@c8e;2 E;2 EE;2 AI;@c92;2 O;2 OO;2 AU;2 KA;2 KHA;2 GA;2 GHA",
   "2 NGA;2 CA;2 CHA;2 JA;2 JHA;2 NYA;2 TTA;2 TTHA;2 DDA;2 DDHA;2 NNA;2 TA;2 THA;2 DA;2 DHA;2 NA",
   "@caa;2 PA;2 PHA;2 BA;2 BHA;2 MA;2 YA;2 RA;2 RRA;2 LA;2 LLA;@cb5;2 VA;2 SHA;2 SSA;2 SA;2 HA;@cbc",
   "1 SIGN NUKTA;2 AVAGRAHA;1 VOWEL SIGN AA;3 I;3 II;3 U;3 UU;3 VOCALIC R;4 RR;@cc6;3 E;3 EE;3 AI",
   "@cca;3 O;3 OO;3 AU;1 SIGN VIRAMA;@cd5;1 LENGTH MARK;1 AI LENGTH MARK;@cdd",
   "1 LETTER NAKAARA POLLU;2 FA;@ce0;2 VOCALIC RR;3 LL;1 VOWEL SIGN VOCALIC L;4 LL;@ce6",
   "1 DIGIT ZERO;2 ONE;2 TWO;2 THREE;2 FOUR;2 FIVE;2 SIX;2 SEVEN;2 EIGHT;2 NINE;@cf1",
   "1 SIGN JIHVAMULIYA;2 UPADHMANIYA;@d00;0 MALAYALAM SIGN COMBINING ANUSVARA ABOVE;2 CANDRABINDU",
   "2 ANUSVARA;2 VISARGA;1 LETTER VEDIC ANUSVARA;2 A;2 AA;2 I;2 II;2 U;2 UU;2 VOCALIC R;3 L;@d0e",
   "2 E;2 EE;2 AI;@d12;2 O;2 OO;2 AU;2 KA;2 KHA;2 GA;2 GHA;2 NGA;2 CA;2 CHA;2 JA;2 JHA;2 NYA;2 TTA",
   "2 TTHA;2 DDA;2 DDHA;2 NNA;2 TA;2 THA;2 DA;2 DHA;2 NA;2 NNNA;2 PA;2 PHA;2 BA;2 BHA;2 MA;2 YA",
   "2 RA;2 RRA;2 LA;2 LLA;2 LLLA;2 VA;2 SHA;2 SSA;2 SA;2 HA;2 TTTA;1 SIGN VERTICAL BAR VIRAMA",
   "2 CIRCULAR VIRAMA;2 AVAGRAHA;1 VOWEL SIGN AA;3 I;3 II;3 U;3 UU;3 VOCALIC R;4 RR;@d46;3 E;3 EE",
   "3 AI;@d4a;3 O;3 OO;3 AU;1 SIGN VIRAMA;1 LETTER DOT REPH;1 SIGN PARA;@d54;1 LETTER CHILLU M;3 Y",
   "3 LLL;1 AU LENGTH MARK;1 FRACTION ONE ONE-HUNDRED-AND-SIXTIETH;3 FORTIETH;2 THREE EIGHTIETHS",
   "2 ONE TWENTIETH;3 TENTH;2 THREE TWENTIETHS;2 ONE FIFTH;1 LETTER ARCHAIC II;2 VOCALIC RR;3 LL",
   "1 VOWEL SIGN VOCALIC L;4 LL;@d66;1 DIGIT ZERO;2 ONE;2 TWO;2 THREE;2 FOUR;2 FIVE;2 SIX;2 SEVEN",
   "2 EIGHT;2 NINE;1 NUMBER TEN;2 ONE HUNDRED;3 THOUSAND;1 FRACTION ONE QUARTER;3 HALF",
   "2 THREE QUARTERS;2 ONE SIXTEENTH;3 EIGHTH;2 THREE SIXTEENTHS;1 DATE MARK;1 LETTER CHILLU NN;3 N",
   "3 RR;3 L;3 LL;3 K;@d81;0 SINHALA SIGN CANDRABINDU;2 ANUSVARAYA;2 VISARGAYA;@d85;1 LETTER AYANNA",
   "2 AAYANNA;2 AEYANNA;2 AEEYANNA;2 IYANNA;2 IIYANNA;2 UYANNA;2 UUYANNA;2 IRUYANNA;2 IRUUYANNA",
   "2 ILUYANNA;2 ILUUYANNA;2 EYANNA;2 EEYANNA;2 AIYANNA;2 OYANNA;2 OOYANNA;2 AUYANNA;@d9a",
   "2 ALPAPRAANA KAYANNA;2 MAHAAPRAANA KAYANNA;2 ALPAPRAANA GAYANNA;2 MAHAAPRAANA GAYANNA",
   "2 KANTAJA NAASIKYAYA;2 SANYAKA GAYANNA;2 ALPAPRAANA CAYANNA;2 MAHAAPRAANA CAYANNA",
   "2 ALPAPRAANA JAYANNA;2 MAHAAPRAANA JAYANNA;2 TAALUJA NAASIKYAYA;3 SANYOOGA NAAKSIKYAYA",
   "2 SANYAKA JAYANNA;2 ALPAPRAANA TTAYANNA;2 MAHAAPRAANA TTAYANNA;2 ALPAPRAANA DDAYANNA",
   "2 MAHAAPRAANA DDAYANNA;2 MUURDHAJA NAYANNA;2 SANYAKA DDAYANNA;2 ALPAPRAANA TAYANNA",
   "2 MAHAAPRAANA TAYANNA;2 ALPAPRAANA DAYANNA;2 MAHAAPRAANA DAYANNA;2 DANTAJA NAYANNA;@db3",
   "2 SANYAKA DAYANNA;2 ALPAPRAANA PAYANNA;2 MAHAAPRAANA PAYANNA;2 ALPAPRAANA BAYANNA",
   "2 MAHAAPRAANA BAYANNA;2 MAYANNA;2 AMBA BAYANNA;2 YAYANNA;2 RAYANNA;@dbd;2 DANTAJA LAYANNA;@dc0",
   "2 VAYANNA;2 TAALUJA SAYANNA;2 MUURDHAJA SAYANNA;2 DANTAJA SAYANNA;2 HAYANNA;2 MUURDHAJA LAYANNA",
   "2 FAYANNA;@dca;1 SIGN AL-LAKUNA;@dcf;1 VOWEL SIGN AELA-PILLA;3 KETTI AEDA-PILLA",
   "3 DIGA AEDA-PILLA;3 KETTI IS-PILLA;3 DIGA IS-PILLA;3 KETTI PAA-PILLA;@dd6;3 DIGA PAA-PILLA;@dd8",
   "3 GAETTA-PILLA;3 KOMBUVA;3 DIGA KOMBUVA;3 KOMBU DEKA;3 KOMBUVA HAA AELA-PILLA;5 DIGA AELA-PILLA",
   "5 GAYANUKITTA;3 GAYANUKITTA;@de6;1 LITH DIGIT ZERO;3 ONE;3 TWO;3 THREE;3 FOUR;3 FIVE;3 SIX",
   "3 SEVEN;3 EIGHT;3 NINE;@df2;1 VOWEL SIGN DIGA GAETTA-PILLA;4 GAYANUKITTA",
   "1 PUNCTUATION KUNDDALIYA;@e01;0 THAI CHARACTER KO KAI;2 KHO KHAI;3 KHUAT;3 KHWAI;3 KHON",
   "3 RAKHANG;2 NGO NGU;2 CHO CHAN;3 CHING;3 CHANG;2 SO SO;2 CHO CHOE;2 YO YING;2 DO CHADA",
   "2 TO PATAK;2 THO THAN;3 NANGMONTHO;3 PHUTHAO;2 NO NEN;2 DO DEK;2 TO TAO;2 THO THUNG;3 THAHAN",
   "3 THONG;2 NO NU;2 BO BAIMAI;2 PO PLA;2 PHO PHUNG;2 FO FA;2 PHO PHAN;2 FO FAN;2 PHO SAMPHAO",
   "2 MO MA;2 YO YAK;2 RO RUA;2 RU;2 LO LING;2 LU;2 WO WAEN;2 SO SALA;3 RUSI;3 SUA;2 HO HIP",
   "2 LO CHULA;2 O ANG;2 HO NOKHUK;2 PAIYANNOI;2 SARA A;2 MAI HAN-AKAT;2 SARA AA;3 AM;3 I;3 II;3 UE",
   "3 UEE;3 U;3 UU;2 PHINTHU;@e3f;1 CURRENCY SYMBOL BAHT;1 CHARACTER SARA E;3 AE;3 O;3 AI MAIMUAN",
   "4 MAIMALAI;2 LAKKHANGYAO;2 MAIYAMOK;2 MAITAIKHU;2 MAI EK;3 THO;3 TRI;3 CHATTAWA;2 THANTHAKHAT",
   "2 NIKHAHIT;2 YAMAKKAN;2 FONGMAN;1 DIGIT ZERO;2 ONE;2 TWO;2 THREE;2 FOUR;2 FIVE;2 SIX;2 SEVEN",
   "2 EIGHT;2 NINE;1 CHARACTER ANGKHANKHU;2 KHOMUT;@e81;0 LAO LETTER KO;2 KHO SUNG;@e84;3 TAM;@e86",
   "2 PALI GHA;2 NGO;2 CO;2 PALI CHA;2 SO TAM;@e8c;2 PALI JHA;2 NYO;2 PALI NYA;3 TTA;3 TTHA;3 DDA",
   "3 DDHA;3 NNA;2 DO;2 TO;2 THO SUNG;3 TAM;2 PALI DHA;2 NO;2 BO;2 PO;2 PHO SUNG;2 FO TAM;2 PHO TAM",
   "2 FO SUNG;2 PALI BHA;2 MO;2 YO;2 LO LING;@ea5;3 LOOT;@ea7;2 WO;2 SANSKRIT SHA;3 SSA;2 SO SUNG",
   "2 HO SUNG;2 PALI LLA;2 O;2 HO TAM;1 ELLIPSIS;1 VOWEL SIGN A;3 MAI KAN;3 AA;3 AM;3 I;3 II;3 Y",
   "3 YY;3 U;3 UU;1 SIGN PALI VIRAMA;1 VOWEL SIGN MAI KON;1 SEMIVOWEL SIGN LO;3 NYO;@ec0",
   "1 VOWEL SIGN E;3 EI;3 O;3 AY;3 AI;@ec6;1 KO LA;@ec8;1 TONE MAI EK;3 THO;3 TI;3 CATAWA",
   "1 CANCELLATION MARK;1 NIGGAHITA;@ed0;1 DIGIT ZERO;2 ONE;2 TWO;2 THREE;2 FOUR;2 FIVE;2 SIX",
   "2 SEVEN;2 EIGHT;2 NINE;@edc;1 HO NO;2 MO;1 LETTER KHMU GO;3 NYO;@f00;0 TIBETAN SYLLABLE OM",
   "1 MARK GTER YIG MGO TRUNCATED A;5 -UM RNAM BCAD MA;6 GTER TSHEG MA;2 INITIAL YIG MGO MDUN MA",
   "2 CLOSING YIG MGO SGAB MA;2 CARET YIG MGO PHUR SHAD MA;2 YIG MGO TSHEG SHAD MA;2 SBRUL SHAD",
   "2 BSKUR YIG MGO;2 BKA- SHOG YIG MGO;2 INTERSYLLABIC TSHEG;2 DELIMITER TSHEG BSTAR;2 SHAD",
   "2 NYIS SHAD;2 TSHEG SHAD;2 NYIS TSHEG SHAD;2 RIN CHEN SPUNGS SHAD;2 RGYA GRAM SHAD",
   "2 CARET -DZUD RTAGS ME LONG CAN;2 GTER TSHEG;1 LOGOTYPE SIGN CHAD RTAGS;3 LHAG RTAGS",
   "1 ASTROLOGICAL SIGN SGRA GCAN -CHAR RTAGS;3 -KHYUD PA;3 SDONG TSHUGS;1 SIGN RDEL DKAR GCIG",
   "4 GNYIS;4 GSUM;3 NAG GCIG;4 GNYIS;3 DKAR RDEL NAG;1 DIGIT ZERO;2 ONE;2 TWO;2 THREE;2 FOUR",
   "2 FIVE;2 SIX;2 SEVEN;2 EIGHT;2 NINE;2 HALF ONE;3 TWO;3 THREE;3 FOUR;3 FIVE;3 SIX;3 SEVEN",
   "3 EIGHT;3 NINE;3 ZERO;1 MARK BSDUS RTAGS;2 NGAS BZUNG NYI ZLA;2 CARET -DZUD RTAGS BZHI MIG CAN",
   "2 NGAS BZUNG SGOR RTAGS;2 CHE MGO;2 TSA -PHRU;2 GUG RTAGS GYON;4 GYAS;2 ANG KHANG GYON;4 GYAS",
   "1 SIGN YAR TSHES;2 MAR TSHES;1 LETTER KA;2 KHA;2 GA;2 GHA;2 NGA;2 CA;2 CHA;2 JA;@f49;2 NYA",
   "2 TTA;2 TTHA;2 DDA;2 DDHA;2 NNA;2 TA;2 THA;2 DA;2 DHA;2 NA;2 PA;2 PHA;2 BA;2 BHA;2 MA;2 TSA",
   "2 TSHA;2 DZA;2 DZHA;2 WA;2 ZHA;2 ZA;2 -A;2 YA;2 RA;2 LA;2 SHA;2 SSA;2 SA;2 HA;2 A;2 KSSA",
   "2 FIXED-FORM RA;2 KKA;2 RRA;@f71;1 VOWEL SIGN AA;3 I;3 II;3 U;3 UU;3 VOCALIC R;4 RR;4 L;4 LL",
   "3 E;3 EE;3 O;3 OO;1 SIGN RJES SU NGA RO;2 RNAM BCAD;1 VOWEL SIGN REVERSED I;4 II",
   "1 SIGN NYI ZLA NAA DA;2 SNA LDAN;1 MARK HALANTA;2 PALUTA;1 SIGN LCI RTAGS;2 YANG RTAGS",
   "2 LCE TSA CAN;2 MCHU CAN;2 GRU CAN RGYINGS;3 MED RGYINGS;2 INVERTED MCHU CAN",
   "1 SUBJOINED SIGN LCE TSA CAN;3 MCHU CAN;3 INVERTED MCHU CAN;2 LETTER KA;3 KHA;3 GA;3 GHA;3 NGA",
   "3 CA;3 CHA;3 JA;@f99;3 NYA;3 TTA;3 TTHA;3 DDA;3 DDHA;3 NNA;3 TA;3 THA;3 DA;3 DHA;3 NA;3 PA",
   "3 PHA;3 BA;3 BHA;3 MA;3 TSA;3 TSHA;3 DZA;3 DZHA;3 WA;3 ZHA;3 ZA;3 -A;3 YA;3 RA;3 LA;3 SHA;3 SSA",
   "3 SA;3 HA;3 A;3 KSSA;3 FIXED-FORM WA;4 YA;4 RA;@fbe;1 KU RU KHA;4 BZHI MIG CAN",
   "1 CANTILLATION SIGN HEAVY BEAT;3 LIGHT BEAT;3 CANG TE-U;3 SBUB -CHAL;1 SYMBOL DRIL BU;2 RDO RJE",
   "2 PADMA GDAN;2 RDO RJE RGYA GRAM;2 PHUR PA;2 NOR BU;4 NYIS -KHYIL;4 GSUM -KHYIL;4 BZHI -KHYIL",
   "@fce;1 SIGN RDEL NAG RDEL DKAR;4 GSUM;1 MARK BSKA- SHOG GI MGO RGYAN;2 MNYAM YIG GI MGO RGYAN",
   "2 NYIS TSHEG;2 INITIAL BRDA RNYING YIG MGO MDUN MA;2 CLOSING BRDA RNYING YIG MGO SGAB MA",
   "0 RIGHT-FACING SVASTI SIGN;0 LEFT-FACING SVASTI SIGN;0 RIGHT-FACING SVASTI SIGN WITH DOTS",
   "0 LEFT-FACING SVASTI SIGN WITH DOTS;0 TIBETAN MARK LEADING MCHAN RTAGS;2 TRAILING MCHAN RTAGS",
   "@1000;0 MYANMAR LETTER KA;2 KHA;2 GA;2 GHA;2 NGA;2 CA;2 CHA;2 JA;2 JHA;2 NYA;2 NNYA;2 TTA",
   "2 TTHA;2 DDA;2 DDHA;2 NNA;2 TA;2 THA;2 DA;2 DHA;2 NA;2 PA;2 PHA;2 BA;2 BHA;2 MA;2 YA;2 RA;2 LA",
   "2 WA;2 SA;2 HA;2 LLA;2 A;2 SHAN A;2 I;2 II;2 U;2 UU;2 E;2 MON E;2 O;2 AU;1 VOWEL SIGN TALL AA",
   "3 AA;3 I;3 II;3 U;3 UU;3 E;3 AI;3 MON II;4 O;3 E ABOVE;1 SIGN ANUSVARA;2 DOT BELOW;2 VISARGA",
   "2 VIRAMA;2 ASAT;1 CONSONANT SIGN MEDIAL YA;4 RA;4 WA;4 HA;1 LETTER GREAT SA;1 DIGIT ZERO;2 ONE",
   "2 TWO;2 THREE;2 FOUR;2 FIVE;2 SIX;2 SEVEN;2 EIGHT;2 NINE;1 SIGN LITTLE SECTION;2 SECTION",
   "1 SYMBOL LOCATIVE;2 COMPLETED;2 AFOREMENTIONED;2 GENITIVE;1 LETTER SHA;2 SSA;2 VOCALIC R;3 RR",
   "3 L;3 LL;1 VOWEL SIGN VOCALIC R;4 RR;4 L;4 LL;1 LETTER MON NGA;3 JHA;3 BBA;3 BBE",
   "1 CONSONANT SIGN MON MEDIAL NA;5 MA;5 LA;1 LETTER SGAW KAREN SHA;1 VOWEL SIGN SGAW KAREN EU",
   "1 TONE MARK SGAW KAREN HATHI;5 KE PHO;1 LETTER WESTERN PWO KAREN THA;5 PWA",
   "1 VOWEL SIGN WESTERN PWO KAREN EU;6 UE;1 SIGN WESTERN PWO KAREN TONE-1;5 TONE-2;5 TONE-3",
   "5 TONE-4;5 TONE-5;1 LETTER EASTERN PWO KAREN NNA;5 YWA;5 GHWA;1 VOWEL SIGN GEBA KAREN I",
   "3 KAYAH OE;4 U;4 EE;1 LETTER SHAN KA;3 KHA;3 GA;3 CA;3 ZA;3 NYA;3 DA;3 NA;3 PHA;3 FA;3 BA;3 THA",
   "3 HA;1 CONSONANT SIGN SHAN MEDIAL WA;1 VOWEL SIGN SHAN AA;4 E;5 ABOVE;4 FINAL Y",
   "1 SIGN SHAN TONE-2;3 TONE-3;3 TONE-5;3 TONE-6;3 COUNCIL TONE-2;4 TONE-3;4 EMPHATIC TONE",
   "1 LETTER RUMAI PALAUNG FA;1 SIGN RUMAI PALAUNG TONE-5;1 SHAN DIGIT ZERO;3 ONE;3 TWO;3 THREE",
   "3 FOUR;3 FIVE;3 SIX;3 SEVEN;3 EIGHT;3 NINE;1 SIGN KHAMTI TONE-1;3 TONE-3;1 VOWEL SIGN AITON A",
   "4 AI;1 SYMBOL SHAN ONE;3 EXCLAMATION;0 GEORGIAN CAPITAL LETTER AN;3 BAN;3 GAN;3 DON;3 EN;3 VIN",
   "3 ZEN;3 TAN;3 IN;3 KAN;3 LAS;3 MAN;3 NAR;3 ON;3 PAR;3 ZHAR;3 RAE;3 SAN;3 TAR;3 UN;3 PHAR;3 KHAR",
   "3 GHAN;3 QAR;3 SHIN;3 CHIN;3 CAN;3 JIL;3 CIL;3 CHAR;3 XAN;3 JHAN;3 HAE;3 HE;3 HIE;3 WE;3 HAR",
   "3 HOE;@10c7;3 YN;@10cd;3 AEN;@10d0;1 LETTER AN;2 BAN;2 GAN;2 DON;2 EN;2 VIN;2 ZEN;2 TAN;2 IN",
   "2 KAN;2 LAS;2 MAN;2 NAR;2 ON;2 PAR;2 ZHAR;2 RAE;2 SAN;2 TAR;2 UN;2 PHAR;2 KHAR;2 GHAN;2 QAR",
   "2 SHIN;2 CHIN;2 CAN;2 JIL;2 CIL;2 CHAR;2 XAN;2 JHAN;2 HAE;2 HE;2 HIE;2 WE;2 HAR;2 HOE;2 FI;2 YN",
   "2 ELIFI;2 TURNED GAN;2 AIN;1 PARAGRAPH SEPARATOR;0 MODIFIER LETTER GEORGIAN NAR",
   "0 GEORGIAN LETTER AEN;2 HARD SIGN;2 LABIAL SIGN;0 HANGUL CHOSEONG KIYEOK;2 SSANGKIYEOK;2 NIEUN",
   "2 TIKEUT;2 SSANGTIKEUT;2 RIEUL;2 MIEUM;2 PIEUP;2 SSANGPIEUP;2 SIOS;2 SSANGSIOS;2 IEUNG;2 CIEUC",
   "2 SSANGCIEUC;2 CHIEUCH;2 KHIEUKH;2 THIEUTH;2 PHIEUPH;2 HIEUH;2 NIEUN-KIYEOK;2 SSANGNIEUN",
   "2 NIEUN-TIKEUT;2 NIEUN-PIEUP;2 TIKEUT-KIYEOK;2 RIEUL-NIEUN;2 SSANGRIEUL;2 RIEUL-HIEUH",
   "2 KAPYEOUNRIEUL;2 MIEUM-PIEUP;2 KAPYEOUNMIEUM;2 PIEUP-KIYEOK;2 PIEUP-NIEUN;2 PIEUP-TIKEUT",
   "2 PIEUP-SIOS;2 PIEUP-SIOS-KIYEOK;2 PIEUP-SIOS-TIKEUT;2 PIEUP-SIOS-PIEUP;2 PIEUP-SSANGSIOS",
   "2 PIEUP-SIOS-CIEUC;2 PIEUP-CIEUC;2 PIEUP-CHIEUCH;2 PIEUP-THIEUTH;2 PIEUP-PHIEUPH",
   "2 KAPYEOUNPIEUP;2 KAPYEOUNSSANGPIEUP;2 SIOS-KIYEOK;2 SIOS-NIEUN;2 SIOS-TIKEUT;2 SIOS-RIEUL",
   "2 SIOS-MIEUM;2 SIOS-PIEUP;2 SIOS-PIEUP-KIYEOK;2 SIOS-SSANGSIOS;2 SIOS-IEUNG;2 SIOS-CIEUC",
   "2 SIOS-CHIEUCH;2 SIOS-KHIEUKH;2 SIOS-THIEUTH;2 SIOS-PHIEUPH;2 SIOS-HIEUH;2 CHITUEUMSIOS",
   "2 CHITUEUMSSANGSIOS;2 CEONGCHIEUMSIOS;2 CEONGCHIEUMSSANGSIOS;2 PANSIOS;2 IEUNG-KIYEOK",
   "2 IEUNG-TIKEUT;2 IEUNG-MIEUM;2 IEUNG-PIEUP;2 IEUNG-SIOS;2 IEUNG-PANSIOS;2 SSANGIEUNG",
   "2 IEUNG-CIEUC;2 IEUNG-CHIEUCH;2 IEUNG-THIEUTH;2 IEUNG-PHIEUPH;2 YESIEUNG;2 CIEUC-IEUNG",
   "2 CHITUEUMCIEUC;2 CHITUEUMSSANGCIEUC;2 CEONGCHIEUMCIEUC;2 CEONGCHIEUMSSANGCIEUC",
   "2 CHIEUCH-KHIEUKH;2 CHIEUCH-HIEUH;2 CHITUEUMCHIEUCH;2 CEONGCHIEUMCHIEUCH;2 PHIEUPH-PIEUP",
   "2 KAPYEOUNPHIEUPH;2 SSANGHIEUH;2 YEORINHIEUH;2 KIYEOK-TIKEUT;2 NIEUN-SIOS;2 NIEUN-CIEUC",
   "2 NIEUN-HIEUH;2 TIKEUT-RIEUL;2 FILLER;1 JUNGSEONG FILLER;2 A;2 AE;2 YA;2 YAE;2 EO;2 E;2 YEO",
   "2 YE;2 O;2 WA;2 WAE;2 OE;2 YO;2 U;2 WEO;2 WE;2 WI;2 YU;2 EU;2 YI;2 I;2 A-O;2 A-U;2 YA-O;2 YA-YO",
   "2 EO-O;2 EO-U;2 EO-EU;2 YEO-O;2 YEO-U;2 O-EO;2 O-E;2 O-YE;2 O-O;2 O-U;2 YO-YA;2 YO-YAE;2 YO-YEO",
   "2 YO-O;2 YO-I;2 U-A;2 U-AE;2 U-EO-EU;2 U-YE;2 U-U;2 YU-A;2 YU-EO;2 YU-E;2 YU-YEO;2 YU-YE;2 YU-U",
   "2 YU-I;2 EU-U;2 EU-EU;2 YI-U;2 I-A;2 I-YA;2 I-O;2 I-U;2 I-EU;2 I-ARAEA;2 ARAEA;2 ARAEA-EO",
   "2 ARAEA-U;2 ARAEA-I;2 SSANGARAEA;2 A-EU;2 YA-U;2 YEO-YA;2 O-YA;2 O-YAE;1 JONGSEONG KIYEOK",
   "2 SSANGKIYEOK;2 KIYEOK-SIOS;2 NIEUN;2 NIEUN-CIEUC;2 NIEUN-HIEUH;2 TIKEUT;2 RIEUL;2 RIEUL-KIYEOK",
   "2 RIEUL-MIEUM;2 RIEUL-PIEUP;2 RIEUL-SIOS;2 RIEUL-THIEUTH;2 RIEUL-PHIEUPH;2 RIEUL-HIEUH;2 MIEUM",
   "2 PIEUP;2 PIEUP-SIOS;2 SIOS;2 SSANGSIOS;2 IEUNG;2 CIEUC;2 CHIEUCH;2 KHIEUKH;2 THIEUTH;2 PHIEUPH",
   "2 HIEUH;2 KIYEOK-RIEUL;2 KIYEOK-SIOS-KIYEOK;2 NIEUN-KIYEOK;2 NIEUN-TIKEUT;2 NIEUN-SIOS",
   "2 NIEUN-PANSIOS;2 NIEUN-THIEUTH;2 TIKEUT-KIYEOK;2 TIKEUT-RIEUL;2 RIEUL-KIYEOK-SIOS",
   "2 RIEUL-NIEUN;2 RIEUL-TIKEUT;2 RIEUL-TIKEUT-HIEUH;2 SSANGRIEUL;2 RIEUL-MIEUM-KIYEOK",
   "2 RIEUL-MIEUM-SIOS;2 RIEUL-PIEUP-SIOS;2 RIEUL-PIEUP-HIEUH;2 RIEUL-KAPYEOUNPIEUP",
   "2 RIEUL-SSANGSIOS;2 RIEUL-PANSIOS;2 RIEUL-KHIEUKH;2 RIEUL-YEORINHIEUH;2 MIEUM-KIYEOK",
   "2 MIEUM-RIEUL;2 MIEUM-PIEUP;2 MIEUM-SIOS;2 MIEUM-SSANGSIOS;2 MIEUM-PANSIOS;2 MIEUM-CHIEUCH",
   "2 MIEUM-HIEUH;2 KAPYEOUNMIEUM;2 PIEUP-RIEUL;2 PIEUP-PHIEUPH;2 PIEUP-HIEUH;2 KAPYEOUNPIEUP",
   "2 SIOS-KIYEOK;2 SIOS-TIKEUT;2 SIOS-RIEUL;2 SIOS-PIEUP;2 PANSIOS;2 IEUNG-KIYEOK",
   "2 IEUNG-SSANGKIYEOK;2 SSANGIEUNG;2 IEUNG-KHIEUKH;2 YESIEUNG;2 YESIEUNG-SIOS;2 YESIEUNG-PANSIOS",
   "2 PHIEUPH-PIEUP;2 KAPYEOUNPHIEUPH;2 HIEUH-NIEUN;2 HIEUH-RIEUL;2 HIEUH-MIEUM;2 HIEUH-PIEUP",
   "2 YEORINHIEUH;2 KIYEOK-NIEUN;2 KIYEOK-PIEUP;2 KIYEOK-CHIEUCH;2 KIYEOK-KHIEUKH;2 KIYEOK-HIEUH",
   "2 SSANGNIEUN;0 ETHIOPIC SYLLABLE HA;2 HU;2 HI;2 HAA;2 HEE;2 HE;2 HO;2 HOA;2 LA;2 LU;2 LI;2 LAA",
   "2 LEE;2 LE;2 LO;2 LWA;2 HHA;2 HHU;2 HHI;2 HHAA;2 HHEE;2 HHE;2 HHO;2 HHWA;2 MA;2 MU;2 MI;2 MAA",
   "2 MEE;2 ME;2 MO;2 MWA;2 SZA;2 SZU;2 SZI;2 SZAA;2 SZEE;2 SZE;2 SZO;2 SZWA;2 RA;2 RU;2 RI;2 RAA",
   "2 REE;2 RE;2 RO;2 RWA;2 SA;2 SU;2 SI;2 SAA;2 SEE;2 SE;2 SO;2 SWA;2 SHA;2 SHU;2 SHI;2 SHAA",
   "2 SHEE;2 SHE;2 SHO;2 SHWA;2 QA;2 QU;2 QI;2 QAA;2 QEE;2 QE;2 QO;2 QOA;2 QWA;@124a;2 QWI;2 QWAA",
   "2 QWEE;2 QWE;@1250;2 QHA;2 QHU;2 QHI;2 QHAA;2 QHEE;2 QHE;2 QHO;@1258;2 QHWA;@125a;2 QHWI",
   "2 QHWAA;2 QHWEE;2 QHWE;@1260;2 BA;2 BU;2 BI;2 BAA;2 BEE;2 BE;2 BO;2 BWA;2 VA;2 VU;2 VI;2 VAA",
   "2 VEE;2 VE;2 VO;2 VWA;2 TA;2 TU;2 TI;2 TAA;2 TEE;2 TE;2 TO;2 TWA;2 CA;2 CU;2 CI;2 CAA;2 CEE",
   "2 CE;2 CO;2 CWA;2 XA;2 XU;2 XI;2 XAA;2 XEE;2 XE;2 XO;2 XOA;2 XWA;@128a;2 XWI;2 XWAA;2 XWEE",
   "2 XWE;@1290;2 NA;2 NU;2 NI;2 NAA;2 NEE;2 NE;2 NO;2 NWA;2 NYA;2 NYU;2 NYI;2 NYAA;2 NYEE;2 NYE",
   "2 NYO;2 NYWA;2 GLOTTAL A;3 U;3 I;3 AA;3 EE;3 E;3 O;3 WA;2 KA;2 KU;2 KI;2 KAA;2 KEE;2 KE;2 KO",
   "2 KOA;2 KWA;@12b2;2 KWI;2 KWAA;2 KWEE;2 KWE;@12b8;2 KXA;2 KXU;2 KXI;2 KXAA;2 KXEE;2 KXE;2 KXO",
   "@12c0;2 KXWA;@12c2;2 KXWI;2 KXWAA;2 KXWEE;2 KXWE;@12c8;2 WA;2 WU;2 WI;2 WAA;2 WEE;2 WE;2 WO",
   "2 WOA;2 PHARYNGEAL A;3 U;3 I;3 AA;3 EE;3 E;3 O;@12d8;2 ZA;2 ZU;2 ZI;2 ZAA;2 ZEE;2 ZE;2 ZO;2 ZWA",
   "2 ZHA;2 ZHU;2 ZHI;2 ZHAA;2 ZHEE;2 ZHE;2 ZHO;2 ZHWA;2 YA;2 YU;2 YI;2 YAA;2 YEE;2 YE;2 YO;2 YOA",
   "2 DA;2 DU;2 DI;2 DAA;2 DEE;2 DE;2 DO;2 DWA;2 DDA;2 DDU;2 DDI;2 DDAA;2 DDEE;2 DDE;2 DDO;2 DDWA",
   "2 JA;2 JU;2 JI;2 JAA;2 JEE;2 JE;2 JO;2 JWA;2 GA;2 GU;2 GI;2 GAA;2 GEE;2 GE;2 GO;2 GOA;2 GWA",
   "@1312;2 GWI;2 GWAA;2 GWEE;2 GWE;@1318;2 GGA;2 GGU;2 GGI;2 GGAA;2 GGEE;2 GGE;2 GGO;2 GGWAA;2 THA",
   "2 THU;2 THI;2 THAA;2 THEE;2 THE;2 THO;2 THWA;2 CHA;2 CHU;2 CHI;2 CHAA;2 CHEE;2 CHE;2 CHO;2 CHWA",
   "2 PHA;2 PHU;2 PHI;2 PHAA;2 PHEE;2 PHE;2 PHO;2 PHWA;2 TSA;2 TSU;2 TSI;2 TSAA;2 TSEE;2 TSE;2 TSO",
   "2 TSWA;2 TZA;2 TZU;2 TZI;2 TZAA;2 TZEE;2 TZE;2 TZO;2 TZOA;2 FA;2 FU;2 FI;2 FAA;2 FEE;2 FE;2 FO",
   "2 FWA;2 PA;2 PU;2 PI;2 PAA;2 PEE;2 PE;2 PO;2 PWA;2 RYA;2 MYA;2 FYA;@135d",
   "1 COMBINING GEMINATION AND VOWEL LENGTH MARK;2 VOWEL LENGTH MARK;2 GEMINATION MARK",
   "1 SECTION MARK;1 WORDSPACE;1 FULL STOP;1 COMMA;1 SEMICOLON;1 COLON;1 PREFACE COLON",
   "1 QUESTION MARK;1 PARAGRAPH SEPARATOR;1 DIGIT ONE;2 TWO;2 THREE;2 FOUR;2 FIVE;2 SIX;2 SEVEN",
   "2 EIGHT;2 NINE;1 NUMBER TEN;2 TWENTY;2 THIRTY;2 FORTY;2 FIFTY;2 SIXTY;2 SEVENTY;2 EIGHTY",
   "2 NINETY;2 HUNDRED;2 TEN THOUSAND;@1380;1 SYLLABLE SEBATBEIT MWA;2 MWI;2 MWEE;2 MWE",
   "2 SEBATBEIT BWA;2 BWI;2 BWEE;2 BWE;2 SEBATBEIT FWA;2 FWI;2 FWEE;2 FWE;2 SEBATBEIT PWA;2 PWI",
   "2 PWEE;2 PWE;1 TONAL MARK YIZET;3 DERET;3 RIKRIK;3 SHORT RIKRIK;3 DIFAT;3 KENAT;3 CHIRET",
   "3 HIDET;3 DERET-HIDET;3 KURT;@13a0;0 CHEROKEE LETTER A;2 E;2 I;2 O;2 U;2 V;2 GA;2 KA;2 GE;2 GI",
   "2 GO;2 GU;2 GV;2 HA;2 HE;2 HI;2 HO;2 HU;2 HV;2 LA;2 LE;2 LI;2 LO;2 LU;2 LV;2 MA;2 ME;2 MI;2 MO",
   "2 MU;2 NA;2 HNA;2 NAH;2 NE;2 NI;2 NO;2 NU;2 NV;2 QUA;2 QUE;2 QUI;2 QUO;2 QUU;2 QUV;2 SA;2 S",
   "2 SE;2 SI;2 SO;2 SU;2 SV;2 DA;2 TA;2 DE;2 TE;2 DI;2 TI;2 DO;2 DU;2 DV;2 DLA;2 TLA;2 TLE;2 TLI",
   "2 TLO;2 TLU;2 TLV;2 TSA;2 TSE;2 TSI;2 TSO;2 TSU;2 TSV;2 WA;2 WE;2 WI;2 WO;2 WU;2 WV;2 YA;2 YE",
   "2 YI;2 YO;2 YU;2 YV;2 MV;@13f8;1 SMALL LETTER YE;3 YI;3 YO;3 YU;3 YV;3 MV;@1400",
   "0 CANADIAN SYLLABICS HYPHEN;2 E;2 AAI;2 I;2 II;2 O;2 OO;2 Y-CREE OO;2 CARRIER EE;3 I;2 A;2 AA",
   "2 WE;2 WEST-CREE WE;2 WI;2 WEST-CREE WI;2 WII;2 WEST-CREE WII;2 WO;2 WEST-CREE WO;2 WOO",
   "2 WEST-CREE WOO;2 NASKAPI WOO;2 WA;2 WEST-CREE WA;2 WAA;2 WEST-CREE WAA;2 NASKAPI WAA;2 AI",
   "2 Y-CREE W;2 GLOTTAL STOP;2 FINAL ACUTE;3 GRAVE;3 BOTTOM HALF RING;3 TOP HALF RING",
   "3 RIGHT HALF RING;3 RING;3 DOUBLE ACUTE;4 SHORT VERTICAL STROKES;3 MIDDLE DOT",
   "3 SHORT HORIZONTAL STROKE;3 PLUS;3 DOWN TACK;2 EN;2 IN;2 ON;2 AN;2 PE;2 PAAI;2 PI;2 PII;2 PO",
   "2 POO;2 Y-CREE POO;2 CARRIER HEE;3 HI;2 PA;2 PAA;2 PWE;2 WEST-CREE PWE;2 PWI;2 WEST-CREE PWI",
   "2 PWII;2 WEST-CREE PWII;2 PWO;2 WEST-CREE PWO;2 PWOO;2 WEST-CREE PWOO;2 PWA;2 WEST-CREE PWA",
   "2 PWAA;2 WEST-CREE PWAA;2 Y-CREE PWAA;2 P;2 WEST-CREE P;2 CARRIER H;2 TE;2 TAAI;2 TI;2 TII;2 TO",
   "2 TOO;2 Y-CREE TOO;2 CARRIER DEE;3 DI;2 TA;2 TAA;2 TWE;2 WEST-CREE TWE;2 TWI;2 WEST-CREE TWI",
   "2 TWII;2 WEST-CREE TWII;2 TWO;2 WEST-CREE TWO;2 TWOO;2 WEST-CREE TWOO;2 TWA;2 WEST-CREE TWA",
   "2 TWAA;2 WEST-CREE TWAA;2 NASKAPI TWAA;2 T;2 TTE;2 TTI;2 TTO;2 TTA;2 KE;2 KAAI;2 KI;2 KII;2 KO",
   "2 KOO;2 Y-CREE KOO;2 KA;2 KAA;2 KWE;2 WEST-CREE KWE;2 KWI;2 WEST-CREE KWI;2 KWII",
   "2 WEST-CREE KWII;2 KWO;2 WEST-CREE KWO;2 KWOO;2 WEST-CREE KWOO;2 KWA;2 WEST-CREE KWA;2 KWAA",
   "2 WEST-CREE KWAA;2 NASKAPI KWAA;2 K;2 KW;2 SOUTH-SLAVEY KEH;3 KIH;3 KOH;3 KAH;2 CE;2 CAAI;2 CI",
   "2 CII;2 CO;2 COO;2 Y-CREE COO;2 CA;2 CAA;2 CWE;2 WEST-CREE CWE;2 CWI;2 WEST-CREE CWI;2 CWII",
   "2 WEST-CREE CWII;2 CWO;2 WEST-CREE CWO;2 CWOO;2 WEST-CREE CWOO;2 CWA;2 WEST-CREE CWA;2 CWAA",
   "2 WEST-CREE CWAA;2 NASKAPI CWAA;2 C;2 SAYISI TH;2 ME;2 MAAI;2 MI;2 MII;2 MO;2 MOO;2 Y-CREE MOO",
   "2 MA;2 MAA;2 MWE;2 WEST-CREE MWE;2 MWI;2 WEST-CREE MWI;2 MWII;2 WEST-CREE MWII;2 MWO",
   "2 WEST-CREE MWO;2 MWOO;2 WEST-CREE MWOO;2 MWA;2 WEST-CREE MWA;2 MWAA;2 WEST-CREE MWAA",
   "2 NASKAPI MWAA;2 M;2 WEST-CREE M;2 MH;2 ATHAPASCAN M;2 SAYISI M;2 NE;2 NAAI;2 NI;2 NII;2 NO",
   "2 NOO;2 Y-CREE NOO;2 NA;2 NAA;2 NWE;2 WEST-CREE NWE;2 NWA;2 WEST-CREE NWA;2 NWAA",
   "2 WEST-CREE NWAA;2 NASKAPI NWAA;2 N;2 CARRIER NG;2 NH;2 LE;2 LAAI;2 LI;2 LII;2 LO;2 LOO",
   "2 Y-CREE LOO;2 LA;2 LAA;2 LWE;2 WEST-CREE LWE;2 LWI;2 WEST-CREE LWI;2 LWII;2 WEST-CREE LWII",
   "2 LWO;2 WEST-CREE LWO;2 LWOO;2 WEST-CREE LWOO;2 LWA;2 WEST-CREE LWA;2 LWAA;2 WEST-CREE LWAA;2 L",
   "2 WEST-CREE L;2 MEDIAL L;2 SE;2 SAAI;2 SI;2 SII;2 SO;2 SOO;2 Y-CREE SOO;2 SA;2 SAA;2 SWE",
   "2 WEST-CREE SWE;2 SWI;2 WEST-CREE SWI;2 SWII;2 WEST-CREE SWII;2 SWO;2 WEST-CREE SWO;2 SWOO",
   "2 WEST-CREE SWOO;2 SWA;2 WEST-CREE SWA;2 SWAA;2 WEST-CREE SWAA;2 NASKAPI SWAA;2 S",
   "2 ATHAPASCAN S;2 SW;2 BLACKFOOT S;2 MOOSE-CREE SK;2 NASKAPI SKW;3 S-W;3 SPWA;3 STWA;3 SKWA",
   "3 SCWA;2 SHE;2 SHI;2 SHII;2 SHO;2 SHOO;2 SHA;2 SHAA;2 SHWE;2 WEST-CREE SHWE;2 SHWI",
   "2 WEST-CREE SHWI;2 SHWII;2 WEST-CREE SHWII;2 SHWO;2 WEST-CREE SHWO;2 SHWOO;2 WEST-CREE SHWOO",
   "2 SHWA;2 WEST-CREE SHWA;2 SHWAA;2 WEST-CREE SHWAA;2 SH;2 YE;2 YAAI;2 YI;2 YII;2 YO;2 YOO",
   "2 Y-CREE YOO;2 YA;2 YAA;2 YWE;2 WEST-CREE YWE;2 YWI;2 WEST-CREE YWI;2 YWII;2 WEST-CREE YWII",
   "2 YWO;2 WEST-CREE YWO;2 YWOO;2 WEST-CREE YWOO;2 YWA;2 WEST-CREE YWA;2 YWAA;2 WEST-CREE YWAA",
   "2 NASKAPI YWAA;2 Y;2 BIBLE-CREE Y;2 WEST-CREE Y;2 SAYISI YI;2 RE;2 R-CREE RE;2 WEST-CREE LE",
   "2 RAAI;2 RI;2 RII;2 RO;2 ROO;2 WEST-CREE LO;2 RA;2 RAA;2 WEST-CREE LA;2 RWAA;2 WEST-CREE RWAA",
   "2 R;2 WEST-CREE R;2 MEDIAL R;2 FE;2 FAAI;2 FI;2 FII;2 FO;2 FOO;2 FA;2 FAA;2 FWAA",
   "2 WEST-CREE FWAA;2 F;2 THE;2 N-CREE THE;2 THI;2 N-CREE THI;2 THII;2 N-CREE THII;2 THO;2 THOO",
   "2 THA;2 THAA;2 THWAA;2 WEST-CREE THWAA;2 TH;2 TTHE;2 TTHI;2 TTHO;2 TTHA;2 TTH;2 TYE;2 TYI;2 TYO",
   "2 TYA;2 NUNAVIK HE;3 HI;3 HII;3 HO;3 HOO;3 HA;3 HAA;3 H;2 NUNAVUT H;2 HK;2 QAAI;2 QI;2 QII;2 QO",
   "2 QOO;2 QA;2 QAA;2 Q;2 TLHE;2 TLHI;2 TLHO;2 TLHA;2 WEST-CREE RE;3 RI;3 RO;3 RA;2 NGAAI;2 NGI",
   "2 NGII;2 NGO;2 NGOO;2 NGA;2 NGAA;2 NG;2 NNG;2 SAYISI SHE;3 SHI;3 SHO;3 SHA;2 WOODS-CREE THE",
   "3 THI;3 THO;3 THA;3 TH;2 LHI;2 LHII;2 LHO;2 LHOO;2 LHA;2 LHAA;2 LH;2 TH-CREE THE;3 THI;3 THII",
   "3 THO;3 THOO;3 THA;3 THAA;3 TH;2 AIVILIK B;2 BLACKFOOT E;3 I;3 O;3 A;3 WE;3 WI;3 WO;3 WA;3 NE",
   "3 NI;3 NO;3 NA;3 KE;3 KI;3 KO;3 KA;2 SAYISI HE;3 HI;3 HO;3 HA;2 CARRIER GHU;3 GHO;3 GHE;3 GHEE",
   "3 GHI;3 GHA;3 RU;3 RO;3 RE;3 REE;3 RI;3 RA;3 WU;3 WO;3 WE;3 WEE;3 WI;3 WA;3 HWU;3 HWO;3 HWE",
   "3 HWEE;3 HWI;3 HWA;3 THU;3 THO;3 THE;3 THEE;3 THI;3 THA;3 TTU;3 TTO;3 TTE;3 TTEE;3 TTI;3 TTA",
   "3 PU;3 PO;3 PE;3 PEE;3 PI;3 PA;3 P;3 GU;3 GO;3 GE;3 GEE;3 GI;3 GA;3 KHU;3 KHO;3 KHE;3 KHEE",
   "3 KHI;3 KHA;3 KKU;3 KKO;3 KKE;3 KKEE;3 KKI;3 KKA;3 KK;3 NU;3 NO;3 NE;3 NEE;3 NI;3 NA;3 MU;3 MO",
   "3 ME;3 MEE;3 MI;3 MA;3 YU;3 YO;3 YE;3 YEE;3 YI;3 YA;3 JU;2 SAYISI JU;2 CARRIER JO;3 JE;3 JEE",
   "3 JI;2 SAYISI JI;2 CARRIER JA;3 JJU;3 JJO;3 JJE;3 JJEE;3 JJI;3 JJA;3 LU;3 LO;3 LE;3 LEE;3 LI",
   "3 LA;3 DLU;3 DLO;3 DLE;3 DLEE;3 DLI;3 DLA;3 LHU;3 LHO;3 LHE;3 LHEE;3 LHI;3 LHA;3 TLHU;3 TLHO",
   "3 TLHE;3 TLHEE;3 TLHI;3 TLHA;3 TLU;3 TLO;3 TLE;3 TLEE;3 TLI;3 TLA;3 ZU;3 ZO;3 ZE;3 ZEE;3 ZI",
   "3 ZA;3 Z;3 INITIAL Z;3 DZU;3 DZO;3 DZE;3 DZEE;3 DZI;3 DZA;3 SU;3 SO;3 SE;3 SEE;3 SI;3 SA;3 SHU",
   "3 SHO;3 SHE;3 SHEE;3 SHI;3 SHA;3 SH;3 TSU;3 TSO;3 TSE;3 TSEE;3 TSI;3 TSA;3 CHU;3 CHO;3 CHE",
   "3 CHEE;3 CHI;3 CHA;3 TTSU;3 TTSO;3 TTSE;3 TTSEE;3 TTSI;3 TTSA;2 CHI SIGN;2 FULL STOP;2 QAI",
   "2 NGAI;2 NNGI;2 NNGII;2 NNGO;2 NNGOO;2 NNGA;2 NNGAA;2 WOODS-CREE THWEE;3 THWI;3 THWII;3 THWO",
   "3 THWOO;3 THWA;3 THWAA;3 FINAL TH;2 BLACKFOOT W;0 OGHAM SPACE MARK;1 LETTER BEITH;2 LUIS",
   "2 FEARN;2 SAIL;2 NION;2 UATH;2 DAIR;2 TINNE;2 COLL;2 CEIRT;2 MUIN;2 GORT;2 NGEADAL;2 STRAIF",
   "2 RUIS;2 AILM;2 ONN;2 UR;2 EADHADH;2 IODHADH;2 EABHADH;2 OR;2 UILLEANN;2 IFIN;2 EAMHANCHOLL",
   "2 PEITH;1 FEATHER MARK;1 REVERSED FEATHER MARK;@16a0;0 RUNIC LETTER FEHU FEOH FE F;2 V",
   "2 URUZ UR U;2 YR;2 Y;2 W;2 THURISAZ THURS THORN;2 ETH;2 ANSUZ A;2 OS O;2 AC A;2 AESC",
   "2 LONG-BRANCH-OSS O;2 SHORT-TWIG-OSS O;2 O;2 OE;2 ON;2 RAIDO RAD REID R;2 KAUNA;2 CEN;2 KAUN K",
   "2 G;2 ENG;2 GEBO GYFU G;2 GAR;2 WUNJO WYNN W;2 HAGLAZ H;2 HAEGL H;2 LONG-BRANCH-HAGALL H",
   "2 SHORT-TWIG-HAGALL H;2 NAUDIZ NYD NAUD N;2 SHORT-TWIG-NAUD N;2 DOTTED-N;2 ISAZ IS ISS I;2 E",
   "2 JERAN J;2 GER;2 LONG-BRANCH-AR AE;2 SHORT-TWIG-AR A;2 IWAZ EOH;2 PERTHO PEORTH P",
   "2 ALGIZ EOLHX;2 SOWILO S;2 SIGEL LONG-BRANCH-SOL S;2 SHORT-TWIG-SOL S;2 C;2 Z;2 TIWAZ TIR TYR T",
   "2 SHORT-TWIG-TYR T;2 D;2 BERKANAN BEORC BJARKAN B;2 SHORT-TWIG-BJARKAN B;2 DOTTED-P;2 OPEN-P",
   "2 EHWAZ EH E;2 MANNAZ MAN M;2 LONG-BRANCH-MADR M;2 SHORT-TWIG-MADR M;2 LAUKAZ LAGU LOGR L",
   "2 DOTTED-L;2 INGWAZ;2 ING;2 DAGAZ DAEG D;2 OTHALAN ETHEL O;2 EAR;2 IOR;2 CWEORTH;2 CALC;2 CEALC",
   "2 STAN;2 LONG-BRANCH-YR;2 SHORT-TWIG-YR;2 ICELANDIC-YR;2 Q;2 X;1 SINGLE PUNCTUATION",
   "1 MULTIPLE PUNCTUATION;1 CROSS PUNCTUATION;1 ARLAUG SYMBOL;1 TVIMADUR SYMBOL;1 BELGTHOR SYMBOL",
   "1 LETTER K;2 SH;2 OO;2 FRANKS CASKET OS;4 IS;4 EH;4 AC;4 AESC;@1700;0 TAGALOG LETTER A;2 I;2 U",
   "2 KA;2 GA;2 NGA;2 TA;2 DA;2 NA;2 PA;2 BA;2 MA;2 YA;2 RA;2 LA;2 WA;2 SA;2 HA;1 VOWEL SIGN I;3 U",
   "1 SIGN VIRAMA;2 PAMUDPOD;@171f;1 LETTER ARCHAIC RA;0 HANUNOO LETTER A;2 I;2 U;2 KA;2 GA;2 NGA",
   "2 TA;2 DA;2 NA;2 PA;2 BA;2 MA;2 YA;2 RA;2 LA;2 WA;2 SA;2 HA;1 VOWEL SIGN I;3 U;1 SIGN PAMUDPOD",
   "0 PHILIPPINE SINGLE PUNCTUATION;1 DOUBLE PUNCTUATION;@1740;0 BUHID LETTER A;2 I;2 U;2 KA;2 GA",
   "2 NGA;2 TA;2 DA;2 NA;2 PA;2 BA;2 MA;2 YA;2 RA;2 LA;2 WA;2 SA;2 HA;1 VOWEL SIGN I;3 U;@1760",
   "0 TAGBANWA LETTER A;2 I;2 U;2 KA;2 GA;2 NGA;2 TA;2 DA;2 NA;2 PA;2 BA;2 MA;2 YA;@176e;2 LA;2 WA",
   "2 SA;@1772;1 VOWEL SIGN I;3 U;@1780;0 KHMER LETTER KA;2 KHA;2 KO;2 KHO;2 NGO;2 CA;2 CHA;2 CO",
   "2 CHO;2 NYO;2 DA;2 TTHA;2 DO;2 TTHO;2 NNO;2 TA;2 THA;2 TO;2 THO;2 NO;2 BA;2 PHA;2 PO;2 PHO;2 MO",
   "2 YO;2 RO;2 LO;2 VO;2 SHA;2 SSO;2 SA;2 HA;2 LA;2 QA;1 INDEPENDENT VOWEL QAQ;3 QAA;3 QI;3 QII",
   "3 QU;3 QUK;3 QUU;3 QUUV;3 RY;3 RYY;3 LY;3 LYY;3 QE;3 QAI;3 QOO TYPE ONE;5 TWO;3 QAU",
   "1 VOWEL INHERENT AQ;3 AA;2 SIGN AA;3 I;3 II;3 Y;3 YY;3 U;3 UU;3 UA;3 OE;3 YA;3 IE;3 E;3 AE;3 AI",
   "3 OO;3 AU;1 SIGN NIKAHIT;2 REAHMUK;2 YUUKALEAPINTU;2 MUUSIKATOAN;2 TRIISAP;2 BANTOC;2 ROBAT",
   "2 TOANDAKHIAT;2 KAKABAT;2 AHSDA;2 SAMYOK SANNYA;2 VIRIAM;2 COENG;2 BATHAMASAT;2 KHAN",
   "2 BARIYOOSAN;2 CAMNUC PII KUUH;2 LEK TOO;2 BEYYAL;2 PHNAEK MUAN;2 KOOMUUT",
   "1 CURRENCY SYMBOL RIEL;1 SIGN AVAKRAHASANYA;2 ATTHACAN;@17e0;1 DIGIT ZERO;2 ONE;2 TWO;2 THREE",
   "2 FOUR;2 FIVE;2 SIX;2 SEVEN;2 EIGHT;2 NINE;@17f0;1 SYMBOL LEK ATTAK SON;4 MUOY;4 PII;4 BEI",
   "4 BUON;4 PRAM;4 PRAM-MUOY;4 PRAM-PII;4 PRAM-BEI;4 PRAM-BUON;@1800;0 MONGOLIAN BIRGA;1 ELLIPSIS",
   "1 COMMA;1 FULL STOP;1 COLON;1 FOUR DOTS;1 TODO SOFT HYPHEN;1 SIBE SYLLABLE BOUNDARY MARKER",
   "1 MANCHU COMMA;2 FULL STOP;1 NIRUGU;1 FREE VARIATION SELECTOR ONE;4 TWO;4 THREE",
   "1 VOWEL SEPARATOR;1 FREE VARIATION SELECTOR FOUR;1 DIGIT ZERO;2 ONE;2 TWO;2 THREE;2 FOUR;2 FIVE",
   "2 SIX;2 SEVEN;2 EIGHT;2 NINE;@1820;1 LETTER A;2 E;2 I;2 O;2 U;2 OE;2 UE;2 EE;2 NA;2 ANG;2 BA",
   "2 PA;2 QA;2 GA;2 MA;2 LA;2 SA;2 SHA;2 TA;2 DA;2 CHA;2 JA;2 YA;2 RA;2 WA;2 FA;2 KA;2 KHA;2 TSA",
   "2 ZA;2 HAA;2 ZRA;2 LHA;2 ZHI;2 CHI;2 TODO LONG VOWEL SIGN;3 E;3 I;3 O;3 U;3 OE;3 UE;3 ANG;3 BA",
   "3 PA;3 QA;3 GA;3 MA;3 TA;3 DA;3 CHA;3 JA;3 TSA;3 YA;3 WA;3 KA;3 GAA;3 HAA;3 JIA;3 NIA;3 DZA",
   "2 SIBE E;3 I;3 IY;3 UE;3 U;3 ANG;3 KA;3 GA;3 HA;3 PA;3 SHA;3 TA;3 DA;3 JA;3 FA;3 GAA;3 HAA",
   "3 TSA;3 ZA;3 RAA;3 CHA;3 ZHA;2 MANCHU I;3 KA;3 RA;3 FA;3 ZHA;2 CHA WITH TWO DOTS;@1880",
   "2 ALI GALI ANUSVARA ONE;4 VISARGA ONE;4 DAMARU;4 UBADAMA;4 INVERTED UBADAMA;4 BALUDA",
   "4 THREE BALUDA;4 A;4 I;4 KA;4 NGA;4 CA;4 TTA;4 TTHA;4 DDA;4 NNA;4 TA;4 DA;4 PA;4 PHA;4 SSA",
   "4 ZHA;4 ZA;4 AH;2 TODO ALI GALI TA;5 ZHA;2 MANCHU ALI GALI GHA;5 NGA;5 CA;5 JHA;5 TTA;5 DDHA",
   "5 TA;5 DHA;5 SSA;5 CYA;5 ZHA;5 ZA;2 ALI GALI HALF U;5 YA;2 MANCHU ALI GALI BHA",
   "2 ALI GALI DAGALGA;2 MANCHU ALI GALI LHA;@18b0;0 CANADIAN SYLLABICS OY;2 AY;2 AAY;2 WAY;2 POY",
   "2 PAY;2 PWOY;2 TAY;2 KAY;2 KWAY;2 MAY;2 NOY;2 NAY;2 LAY;2 SOY;2 SAY;2 SHOY;2 SHAY;2 SHWOY;2 YOY",
   "2 YAY;2 RAY;2 NWI;2 OJIBWAY NWI;2 NWII;2 OJIBWAY NWII;2 NWO;2 OJIBWAY NWO;2 NWOO;2 OJIBWAY NWOO",
   "2 RWEE;2 RWI;2 RWII;2 RWO;2 RWOO;2 RWA;2 OJIBWAY P;3 T;3 K;3 C;3 M;3 N;3 S;3 SH;2 EASTERN W",
   "2 WESTERN W;2 FINAL SMALL RING;3 RAISED DOT;2 R-CREE RWE;2 WEST-CREE LOO;3 LAA;2 THWE;2 THWA",
   "2 TTHWE;2 TTHOO;2 TTHAA;2 TLHWE;2 TLHOO;2 SAYISI SHWE;3 SHOO;3 HOO;2 CARRIER GWU;3 DENE GEE",
   "3 GAA;3 GWA;2 SAYISI JUU;2 CARRIER JWA;2 BEAVER DENE L;4 R;2 CARRIER DENTAL S;@1900",
   "0 LIMBU VOWEL-CARRIER LETTER;1 LETTER KA;2 KHA;2 GA;2 GHA;2 NGA;2 CA;2 CHA;2 JA;2 JHA;2 YAN",
   "2 TA;2 THA;2 DA;2 DHA;2 NA;2 PA;2 PHA;2 BA;2 BHA;2 MA;2 YA;2 RA;2 LA;2 WA;2 SHA;2 SSA;2 SA;2 HA",
   "2 GYAN;2 TRA;@1920;1 VOWEL SIGN A;3 I;3 U;3 EE;3 AI;3 OO;3 AU;3 E;3 O;1 SUBJOINED LETTER YA",
   "3 RA;3 WA;@1930;1 SMALL LETTER KA;3 NGA;3 ANUSVARA;3 TA;3 NA;3 PA;3 MA;3 RA;3 LA",
   "1 SIGN MUKPHRENG;2 KEMPHRENG;2 SA-I;@1940;2 LOO;@1944;1 EXCLAMATION MARK;1 QUESTION MARK",
   "1 DIGIT ZERO;2 ONE;2 TWO;2 THREE;2 FOUR;2 FIVE;2 SIX;2 SEVEN;2 EIGHT;2 NINE;0 TAI LE LETTER KA",
   "3 XA;3 NGA;3 TSA;3 SA;3 YA;3 TA;3 THA;3 LA;3 PA;3 PHA;3 MA;3 FA;3 VA;3 HA;3 QA;3 KHA;3 TSHA",
   "3 NA;3 A;3 I;3 EE;3 EH;3 U;3 OO;3 O;3 UE;3 E;3 AUE;3 AI;@1970;3 TONE-2;3 TONE-3;3 TONE-4",
   "3 TONE-5;3 TONE-6;@1980;0 NEW TAI LUE LETTER HIGH QA;4 LOW QA;4 HIGH KA;5 XA;5 NGA;4 LOW KA",
   "5 XA;5 NGA;4 HIGH TSA;5 SA;5 YA;4 LOW TSA;5 SA;5 YA;4 HIGH TA;5 THA;5 NA;4 LOW TA;5 THA;5 NA",
   "4 HIGH PA;5 PHA;5 MA;4 LOW PA;5 PHA;5 MA;4 HIGH FA;5 VA;5 LA;4 LOW FA;5 VA;5 LA;4 HIGH HA;5 DA",
   "5 BA;4 LOW HA;5 DA;5 BA;4 HIGH KVA;5 XVA;4 LOW KVA;5 XVA;4 HIGH SUA;4 LOW SUA;@19b0",
   "3 VOWEL SIGN VOWEL SHORTENER;5 AA;5 II;5 U;5 UU;5 E;5 AE;5 O;5 OA;5 UE;5 AY;5 AAY;5 UY;5 OY",
   "5 OAY;5 UEY;5 IY;3 LETTER FINAL V;5 NG;5 N;5 M;5 K;5 D;5 B;3 TONE MARK-1;4 MARK-2;@19d0",
   "3 DIGIT ZERO;4 ONE;4 TWO;4 THREE;4 FOUR;4 FIVE;4 SIX;4 SEVEN;4 EIGHT;4 NINE;3 THAM DIGIT ONE",
   "@19de;3 SIGN LAE;4 LAEV;0 KHMER SYMBOL PATHAMASAT;2 MUOY KOET;2 PII KOET;2 BEI KOET;2 BUON KOET",
   "2 PRAM KOET;2 PRAM-MUOY KOET;2 PRAM-PII KOET;2 PRAM-BEI KOET;2 PRAM-BUON KOET;2 DAP KOET",
   "2 DAP-MUOY KOET;2 DAP-PII KOET;2 DAP-BEI KOET;2 DAP-BUON KOET;2 DAP-PRAM KOET;2 TUTEYASAT",
   "2 MUOY ROC;2 PII ROC;2 BEI ROC;2 BUON ROC;2 PRAM ROC;2 PRAM-MUOY ROC;2 PRAM-PII ROC",
   "2 PRAM-BEI ROC;2 PRAM-BUON ROC;2 DAP ROC;2 DAP-MUOY ROC;2 DAP-PII ROC;2 DAP-BEI ROC",
   "2 DAP-BUON ROC;2 DAP-PRAM ROC;0 BUGINESE LETTER KA;2 GA;2 NGA;2 NGKA;2 PA;2 BA;2 MA;2 MPA;2 TA",
   "2 DA;2 NA;2 NRA;2 CA;2 JA;2 NYA;2 NYCA;2 YA;2 RA;2 LA;2 VA;2 SA;2 A;2 HA;1 VOWEL SIGN I;3 U;3 E",
   "3 O;3 AE;@1a1e;1 PALLAWA;1 END OF SECTION;0 TAI THAM LETTER HIGH KA;4 KHA;4 KXA;3 LOW KA;4 KXA",
   "4 KHA;3 NGA;3 HIGH CA;4 CHA;3 LOW CA;4 SA;4 CHA;3 NYA;3 RATA;3 HIGH RATHA;3 DA;3 LOW RATHA",
   "3 RANA;3 HIGH TA;4 THA;3 LOW TA;4 THA;3 NA;3 BA;3 HIGH PA;4 PHA;4 FA;3 LOW PA;4 FA;4 PHA;3 MA",
   "3 LOW YA;3 HIGH YA;3 RA;3 RUE;3 LA;3 LUE;3 WA;3 HIGH SHA;4 SSA;4 SA;4 HA;3 LLA;3 A;3 LOW HA;3 I",
   "3 II;3 U;3 UU;3 EE;3 OO;3 LAE;3 GREAT SA;2 CONSONANT SIGN MEDIAL RA;5 LA;4 LA TANG LAI",
   "2 SIGN MAI KANG LAI;2 CONSONANT SIGN FINAL NGA;4 LOW PA;4 HIGH RATHA OR LOW PA;4 MA;4 BA;4 SA",
   "@1a60;2 SIGN SAKOT;2 VOWEL SIGN A;4 MAI SAT;4 AA;4 TALL AA;4 I;4 II;4 UE;4 UUE;4 U;4 UU;4 O",
   "4 OA BELOW;4 OY;4 E;4 AE;4 OO;4 AI;4 THAM AI;4 OA ABOVE;2 SIGN MAI KANG;3 TONE-1;3 TONE-2",
   "3 KHUEN TONE-3;4 TONE-4;4 TONE-5;3 RA HAAM;3 MAI SAM;3 KHUEN-LUE KARAN;@1a7f",
   "2 COMBINING CRYPTOGRAMMIC DOT;2 HORA DIGIT ZERO;4 ONE;4 TWO;4 THREE;4 FOUR;4 FIVE;4 SIX;4 SEVEN",
   "4 EIGHT;4 NINE;@1a90;2 THAM DIGIT ZERO;4 ONE;4 TWO;4 THREE;4 FOUR;4 FIVE;4 SIX;4 SEVEN;4 EIGHT",
   "4 NINE;@1aa0;2 SIGN WIANG;3 WIANGWAAK;3 SAWAN;3 KEOW;3 HOY;3 DOKMAI;3 REVERSED ROTATED RANA",
   "3 MAI YAMOK;3 KAAN;3 KAANKUU;3 SATKAAN;3 SATKAANKUU;3 HANG;3 CAANG;@1ab0",
   "0 COMBINING DOUBLED CIRCUMFLEX ACCENT;1 DIAERESIS-RING;1 INFINITY;1 DOWNWARDS ARROW",
   "1 TRIPLE DOT;1 X-X BELOW;1 WIGGLY LINE BELOW;1 OPEN MARK BELOW;1 DOUBLE OPEN MARK BELOW",
   "1 LIGHT CENTRALIZATION STROKE BELOW;1 STRONG CENTRALIZATION STROKE BELOW;1 PARENTHESES ABOVE",
   "1 DOUBLE PARENTHESES ABOVE;1 PARENTHESES BELOW;2 OVERLAY;1 LATIN SMALL LETTER W BELOW",
   "4 TURNED W BELOW;1 LEFT PARENTHESIS ABOVE LEFT;1 RIGHT PARENTHESIS ABOVE RIGHT",
   "1 LEFT PARENTHESIS BELOW LEFT;1 RIGHT PARENTHESIS BELOW RIGHT;1 SQUARE BRACKETS ABOVE",
   "1 NUMBER SIGN ABOVE;1 INVERTED DOUBLE ARCH ABOVE;1 PLUS SIGN ABOVE;1 DOUBLE PLUS SIGN ABOVE",
   "4 BELOW;1 TRIPLE ACUTE ACCENT;1 LATIN SMALL LETTER INSULAR G;5 R;5 T;@1b00",
   "0 BALINESE SIGN ULU RICEM;3 CANDRA;2 CECEK;2 SURANG;2 BISAH;1 LETTER AKARA;3 TEDUNG;2 IKARA",
   "3 TEDUNG;2 UKARA;3 TEDUNG;2 RA REPA;4 TEDUNG;2 LA LENGA;4 TEDUNG;2 EKARA;2 AIKARA;2 OKARA",
   "3 TEDUNG;2 KA;3 MAHAPRANA;2 GA;3 GORA;2 NGA;2 CA;3 LACA;2 JA;3 JERA;2 NYA;2 TA LATIK",
   "3 MURDA MAHAPRANA;2 DA MURDA ALPAPRANA;4 MAHAPRANA;2 NA RAMBAT;2 TA;3 TAWA;2 DA;3 MADU;2 NA",
   "2 PA;3 KAPAL;2 BA;3 KEMBANG;2 MA;2 YA;2 RA;2 LA;2 WA;2 SA SAGA;3 SAPA;2 SA;2 HA;1 SIGN REREKAN",
   "1 VOWEL SIGN TEDUNG;3 ULU;4 SARI;3 SUKU;4 ILUT;3 RA REPA;5 TEDUNG;3 LA LENGA;5 TEDUNG;3 TALING",
   "4 REPA;4 TEDUNG;4 REPA TEDUNG;3 PEPET;4 TEDUNG;1 ADEG ADEG;1 LETTER KAF SASAK;2 KHOT SASAK",
   "2 TZIR SASAK;2 EF SASAK;2 VE SASAK;2 ZAL SASAK;2 ASYURA SASAK;2 ARCHAIC JNYA;@1b50;1 DIGIT ZERO",
   "2 ONE;2 TWO;2 THREE;2 FOUR;2 FIVE;2 SIX;2 SEVEN;2 EIGHT;2 NINE;1 PANTI;1 PAMADA;1 WINDU",
   "1 CARIK PAMUNGKAH;2 SIKI;2 PAREREN;1 PAMENENG;1 MUSICAL SYMBOL DONG;3 DENG;3 DUNG;3 DANG",
   "4 SURANG;3 DING;3 DAENG;3 DEUNG;3 DAING;3 DANG GEDE;3 COMBINING TEGEH;4 ENDEP;4 KEMPUL;4 KEMPLI",
   "4 JEGOGAN;4 KEMPUL WITH JEGOGAN;4 KEMPLI WITH JEGOGAN;4 BENDE;4 GONG;3 RIGHT-HAND OPEN DUG",
   "5 DAG;4 CLOSED TUK;5 TAK;3 LEFT-HAND OPEN PANG;5 PUNG;4 CLOSED PLAK;5 PLUK;4 OPEN PING",
   "1 PANTI LANTANG;1 PAMADA LANTANG;@1b80;0 SUNDANESE SIGN PANYECEK;2 PANGLAYAR;2 PANGWISAD",
   "1 LETTER A;2 I;2 U;2 AE;2 O;2 E;2 EU;2 KA;2 QA;2 GA;2 NGA;2 CA;2 JA;2 ZA;2 NYA;2 TA;2 DA;2 NA",
   "2 PA;2 FA;2 VA;2 BA;2 MA;2 YA;2 RA;2 LA;2 WA;2 SA;2 XA;2 HA;1 CONSONANT SIGN PAMINGKAL",
   "3 PANYAKRA;3 PANYIKU;1 VOWEL SIGN PANGHULU;3 PANYUKU;3 PANAELAENG;3 PANOLONG;3 PAMEPET",
   "3 PANEULEUNG;1 SIGN PAMAAEH;2 VIRAMA;1 CONSONANT SIGN PASANGAN MA;4 WA;1 LETTER KHA;2 SYA",
   "1 DIGIT ZERO;2 ONE;2 TWO;2 THREE;2 FOUR;2 FIVE;2 SIX;2 SEVEN;2 EIGHT;2 NINE;1 AVAGRAHA",
   "1 LETTER REU;2 LEU;2 BHA;2 FINAL K;3 M;0 BATAK LETTER A;2 SIMALUNGUN A;2 HA;2 SIMALUNGUN HA",
   "2 MANDAILING HA;2 BA;2 KARO BA;2 PA;2 SIMALUNGUN PA;2 NA;2 MANDAILING NA;2 WA;2 SIMALUNGUN WA",
   "2 PAKPAK WA;2 GA;2 SIMALUNGUN GA;2 JA;2 DA;2 RA;2 SIMALUNGUN RA;2 MA;2 SIMALUNGUN MA",
   "2 SOUTHERN TA;2 NORTHERN TA;2 SA;2 SIMALUNGUN SA;2 MANDAILING SA;2 YA;2 SIMALUNGUN YA;2 NGA",
   "2 LA;2 SIMALUNGUN LA;2 NYA;2 CA;2 NDA;2 MBA;2 I;2 U;1 SIGN TOMPI;1 VOWEL SIGN E;3 PAKPAK E;3 EE",
   "3 I;3 KARO I;3 O;3 KARO O;3 U;4 FOR SIMALUNGUN SA;1 CONSONANT SIGN NG;3 H;1 PANGOLAT",
   "1 PANONGONAN;@1bfc;1 SYMBOL BINDU NA METEK;3 PINARBORAS;3 JUDUL;3 PANGOLAT;0 LEPCHA LETTER KA",
   "2 KLA;2 KHA;2 GA;2 GLA;2 NGA;2 CA;2 CHA;2 JA;2 NYA;2 TA;2 THA;2 DA;2 NA;2 PA;2 PLA;2 PHA;2 FA",
   "2 FLA;2 BA;2 BLA;2 MA;2 MLA;2 TSA;2 TSHA;2 DZA;2 YA;2 RA;2 LA;2 HA;2 HLA;2 VA;2 SA;2 SHA;2 WA",
   "2 A;1 SUBJOINED LETTER YA;3 RA;1 VOWEL SIGN AA;3 I;3 O;3 OO;3 U;3 UU;3 E;1 CONSONANT SIGN K;3 M",
   "3 L;3 N;3 P;3 R;3 T;3 NYIN-DO;3 KANG;1 SIGN RAN;2 NUKTA;@1c3b;1 PUNCTUATION TA-ROL",
   "2 NYET THYOOM TA-ROL;2 CER-WA;2 TSHOOK CER-WA;2 TSHOOK;1 DIGIT ZERO;2 ONE;2 TWO;2 THREE;2 FOUR",
   "2 FIVE;2 SIX;2 SEVEN;2 EIGHT;2 NINE;@1c4d;1 LETTER TTA;2 TTHA;2 DDA;0 OL CHIKI DIGIT ZERO;3 ONE",
   "3 TWO;3 THREE;3 FOUR;3 FIVE;3 SIX;3 SEVEN;3 EIGHT;3 NINE;2 LETTER LA;3 AT;3 AG;3 ANG;3 AL;3 LAA",
   "3 AAK;3 AAJ;3 AAM;3 AAW;3 LI;3 IS;3 IH;3 INY;3 IR;3 LU;3 UC;3 UD;3 UNN;3 UY;3 LE;3 EP;3 EDD",
   "3 EN;3 ERR;3 LO;3 OTT;3 OB;3 OV;3 OH;2 MU TTUDDAG;2 GAAHLAA TTUDDAAG;2 MU-GAAHLAA TTUDDAAG",
   "2 RELAA;2 PHAARKAA;2 AHAD;2 PUNCTUATION MUCAAD;3 DOUBLE MUCAAD",
   "0 CYRILLIC SMALL LETTER ROUNDED VE;3 LONG-LEGGED DE;3 NARROW O;3 WIDE ES;3 TALL TE",
   "3 THREE-LEGGED TE;3 TALL HARD SIGN;4 YAT;3 UNBLENDED UK;@1c90",
   "0 GEORGIAN MTAVRULI CAPITAL LETTER AN;4 BAN;4 GAN;4 DON;4 EN;4 VIN;4 ZEN;4 TAN;4 IN;4 KAN;4 LAS",
   "4 MAN;4 NAR;4 ON;4 PAR;4 ZHAR;4 RAE;4 SAN;4 TAR;4 UN;4 PHAR;4 KHAR;4 GHAN;4 QAR;4 SHIN;4 CHIN",
   "4 CAN;4 JIL;4 CIL;4 CHAR;4 XAN;4 JHAN;4 HAE;4 HE;4 HIE;4 WE;4 HAR;4 HOE;4 FI;4 YN;4 ELIFI",
   "4 TURNED GAN;4 AIN;@1cbd;4 AEN;4 HARD SIGN;4 LABIAL SIGN;0 SUNDANESE PUNCTUATION BINDU SURYA",
   "3 PANGLONG;3 PURNAMA;3 CAKRA;3 LEU SATANGA;3 KA SATANGA;3 DA SATANGA;3 BA SATANGA;@1cd0",
   "0 VEDIC TONE KARSHANA;2 SHARA;2 PRENKHA;1 SIGN NIHSHVASA;2 YAJURVEDIC MIDLINE SVARITA",
   "1 TONE YAJURVEDIC AGGRAVATED INDEPENDENT SVARITA;3 INDEPENDENT SVARITA",
   "3 KATHAKA INDEPENDENT SVARITA;2 CANDRA BELOW;2 YAJURVEDIC KATHAKA INDEPENDENT SVARITA SCHROEDER",
   "2 DOUBLE SVARITA;2 TRIPLE SVARITA;2 KATHAKA ANUDATTA;2 DOT BELOW;2 TWO DOTS BELOW",
   "2 THREE DOTS BELOW;2 RIGVEDIC KASHMIRI INDEPENDENT SVARITA;2 ATHARVAVEDIC INDEPENDENT SVARITA",
   "1 SIGN VISARGA SVARITA;3 UDATTA;2 REVERSED VISARGA UDATTA;2 VISARGA ANUDATTA",
   "2 REVERSED VISARGA ANUDATTA;2 VISARGA UDATTA WITH TAIL;3 ANUDATTA WITH TAIL",
   "2 ANUSVARA ANTARGOMUKHA;3 BAHIRGOMUKHA;3 VAMAGOMUKHA;4 WITH TAIL;2 TIRYAK",
   "2 HEXIFORM LONG ANUSVARA;2 LONG ANUSVARA;2 RTHANG LONG ANUSVARA;2 ANUSVARA UBHAYATO MUKHA",
   "2 ARDHAVISARGA;2 ROTATED ARDHAVISARGA;1 TONE CANDRA ABOVE;1 SIGN JIHVAMULIYA;2 UPADHMANIYA",
   "2 ATIKRAMA;1 TONE RING ABOVE;2 DOUBLE RING ABOVE;1 SIGN DOUBLE ANUSVARA ANTARGOMUKHA"]

end FormCheck.Text
