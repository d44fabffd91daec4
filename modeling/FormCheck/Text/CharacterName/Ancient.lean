/-!
# Names of ancient letters

* `ancientNames` — the blocks from Linear B to the supplement of Tamil.
-/

namespace FormCheck.Text

/-- The names of the characters from `0x10000` to `0x11fff`, in the notation of tables of names. -/
def ancientNames : List String :=
  ["@10000;0 LINEAR B SYLLABLE B008 A;3 B038 E;3 B028 I;3 B061 O;3 B010 U;3 B001 DA;3 B045 DE",
   "3 B007 DI;3 B014 DO;3 B051 DU;3 B057 JA;3 B046 JE;@1000d;3 B036 JO;3 B065 JU;3 B077 KA",
   "3 B044 KE;3 B067 KI;3 B070 KO;3 B081 KU;3 B080 MA;3 B013 ME;3 B073 MI;3 B015 MO;3 B023 MU",
   "3 B006 NA;3 B024 NE;3 B030 NI;3 B052 NO;3 B055 NU;3 B003 PA;3 B072 PE;3 B039 PI;3 B011 PO",
   "3 B050 PU;3 B016 QA;3 B078 QE;3 B021 QI;3 B032 QO;@10028;3 B060 RA;3 B027 RE;3 B053 RI",
   "3 B002 RO;3 B026 RU;3 B031 SA;3 B009 SE;3 B041 SI;3 B012 SO;3 B058 SU;3 B059 TA;3 B004 TE",
   "3 B037 TI;3 B005 TO;3 B069 TU;3 B054 WA;3 B075 WE;3 B040 WI;3 B042 WO;@1003c;3 B017 ZA",
   "3 B074 ZE;@1003f;3 B020 ZO;3 B025 A2;3 B043 A3;3 B085 AU;3 B071 DWE;3 B090 DWO;3 B048 NWA",
   "3 B029 PU2;3 B062 PTE;3 B076 RA2;3 B033 RA3;3 B068 RO2;3 B066 TA2;3 B087 TWE;3 B091 TWO;@10050",
   "2 SYMBOL B018;3 B019;3 B022;3 B034;3 B047;3 B049;3 B056;3 B063;3 B064;3 B079;3 B082;3 B083",
   "3 B086;3 B089;@10080;2 IDEOGRAM B100 MAN;3 B102 WOMAN;3 B104 DEER;3 B105 EQUID;3 B105F MARE",
   "3 B105M STALLION;3 B106F EWE;3 B106M RAM;3 B107F SHE-GOAT;3 B107M HE-GOAT;3 B108F SOW",
   "3 B108M BOAR;3 B109F COW;3 B109M BULL;3 B120 WHEAT;3 B121 BARLEY;3 B122 OLIVE;3 B123 SPICE",
   "3 B125 CYPERUS;2 MONOGRAM B127 KAPO;3 B128 KANAKO;2 IDEOGRAM B130 OIL;3 B131 WINE;3 B132",
   "2 MONOGRAM B133 AREPA;3 B135 MERI;2 IDEOGRAM B140 BRONZE;3 B141 GOLD;3 B142;3 B145 WOOL;3 B146",
   "3 B150;3 B151 HORN;3 B152;3 B153;3 B154;2 MONOGRAM B156 TURO2;2 IDEOGRAM B157;3 B158",
   "3 B159 CLOTH;3 B160;3 B161;3 B162 GARMENT;3 B163 ARMOUR;3 B164;3 B165;3 B166;3 B167;3 B168",
   "3 B169;3 B170;3 B171;3 B172;3 B173 MONTH;3 B174;3 B176 TREE;3 B177;3 B178;3 B179;3 B180;3 B181",
   "3 B182;3 B183;3 B184;3 B185;3 B189;3 B190;3 B191 HELMET;3 B220 FOOTSTOOL;3 B225 BATHTUB",
   "3 B230 SPEAR;3 B231 ARROW;3 B232;3 B233 SWORD;3 B234;3 B236;3 B240 WHEELED CHARIOT",
   "3 B241 CHARIOT;3 B242 CHARIOT FRAME;3 B243 WHEEL;3 B245;3 B246;2 MONOGRAM B247 DIPTE",
   "2 IDEOGRAM B248;3 B249;3 B251;3 B252;3 B253;3 B254 DART;3 B255;3 B256;3 B257;3 B258;3 B259",
   "3 VESSEL B155;4 B200;4 B201;4 B202;4 B203;4 B204;4 B205;4 B206;4 B207;4 B208;4 B209;4 B210",
   "4 B211;4 B212;4 B213;4 B214;4 B215;4 B216;4 B217;4 B218;4 B219;4 B221;4 B222;4 B226;4 B227",
   "4 B228;4 B229;4 B250;4 B305;@10100;0 AEGEAN WORD SEPARATOR LINE;3 DOT;1 CHECK MARK;@10107",
   "1 NUMBER ONE;2 TWO;2 THREE;2 FOUR;2 FIVE;2 SIX;2 SEVEN;2 EIGHT;2 NINE;2 TEN;2 TWENTY;2 THIRTY",
   "2 FORTY;2 FIFTY;2 SIXTY;2 SEVENTY;2 EIGHTY;2 NINETY;2 ONE HUNDRED;2 TWO HUNDRED;2 THREE HUNDRED",
   "2 FOUR HUNDRED;2 FIVE HUNDRED;2 SIX HUNDRED;2 SEVEN HUNDRED;2 EIGHT HUNDRED;2 NINE HUNDRED",
   "2 ONE THOUSAND;2 TWO THOUSAND;2 THREE THOUSAND;2 FOUR THOUSAND;2 FIVE THOUSAND;2 SIX THOUSAND",
   "2 SEVEN THOUSAND;2 EIGHT THOUSAND;2 NINE THOUSAND;2 TEN THOUSAND;2 TWENTY THOUSAND",
   "2 THIRTY THOUSAND;2 FORTY THOUSAND;2 FIFTY THOUSAND;2 SIXTY THOUSAND;2 SEVENTY THOUSAND",
   "2 EIGHTY THOUSAND;2 NINETY THOUSAND;@10137;1 WEIGHT BASE UNIT;2 FIRST SUBUNIT;2 SECOND SUBUNIT",
   "2 THIRD SUBUNIT;2 FOURTH SUBUNIT;1 DRY MEASURE FIRST SUBUNIT;1 LIQUID MEASURE FIRST SUBUNIT",
   "1 MEASURE SECOND SUBUNIT;2 THIRD SUBUNIT;0 GREEK ACROPHONIC ATTIC ONE QUARTER;4 HALF;4 DRACHMA",
   "3 FIVE;3 FIFTY;3 FIVE HUNDRED;4 THOUSAND;3 FIFTY THOUSAND;3 FIVE TALENTS;3 TEN TALENTS",
   "3 FIFTY TALENTS;3 ONE HUNDRED TALENTS;3 FIVE HUNDRED TALENTS;3 ONE THOUSAND TALENTS",
   "3 FIVE THOUSAND TALENTS;4 STATERS;3 TEN STATERS;3 FIFTY STATERS;3 ONE HUNDRED STATERS",
   "3 FIVE HUNDRED STATERS;3 ONE THOUSAND STATERS;3 TEN THOUSAND STATERS;3 FIFTY THOUSAND STATERS",
   "3 TEN MNAS;2 HERAEUM ONE PLETHRON;2 THESPIAN ONE;2 HERMIONIAN ONE;2 EPIDAUREAN TWO",
   "2 THESPIAN TWO;2 CYRENAIC TWO DRACHMAS;2 EPIDAUREAN TWO DRACHMAS;2 TROEZENIAN FIVE;3 TEN",
   "4 ALTERNATE FORM;2 HERMIONIAN TEN;2 MESSENIAN TEN;2 THESPIAN TEN;3 THIRTY;2 TROEZENIAN FIFTY",
   "4 ALTERNATE FORM;2 HERMIONIAN FIFTY;2 THESPIAN FIFTY;3 ONE HUNDRED;3 THREE HUNDRED",
   "2 EPIDAUREAN FIVE HUNDRED;2 TROEZENIAN FIVE HUNDRED;2 THESPIAN FIVE HUNDRED",
   "2 CARYSTIAN FIVE HUNDRED;2 NAXIAN FIVE HUNDRED;2 THESPIAN ONE THOUSAND;3 FIVE THOUSAND",
   "2 DELPHIC FIVE MNAS;2 STRATIAN FIFTY MNAS;1 ONE HALF SIGN;4 ALTERNATE FORM;1 TWO THIRDS SIGN",
   "1 THREE QUARTERS SIGN;1 YEAR SIGN;1 TALENT SIGN;1 DRACHMA SIGN;1 OBOL SIGN;1 TWO OBOLS SIGN",
   "1 THREE OBOLS SIGN;1 FOUR OBOLS SIGN;1 FIVE OBOLS SIGN;1 METRETES SIGN;1 KYATHOS BASE SIGN",
   "1 LITRA SIGN;1 OUNKIA SIGN;1 XESTES SIGN;1 ARTABE SIGN;1 AROURA SIGN;1 GRAMMA SIGN",
   "1 TRYBLION BASE SIGN;1 ZERO SIGN;1 ONE QUARTER SIGN;1 SINUSOID SIGN;1 INDICTION SIGN",
   "0 NOMISMA SIGN;@10190;0 ROMAN SEXTANS SIGN;1 UNCIA SIGN;1 SEMUNCIA SIGN;1 SEXTULA SIGN",
   "1 DIMIDIA SEXTULA SIGN;1 SILIQUA SIGN;1 DENARIUS SIGN;1 QUINARIUS SIGN;1 SESTERTIUS SIGN",
   "1 DUPONDIUS SIGN;1 AS SIGN;1 CENTURIAL SIGN;0 ASCIA SYMBOL;@101a0;0 GREEK SYMBOL TAU RHO;@101d0",
   "0 PHAISTOS DISC SIGN PEDESTRIAN;3 PLUMED HEAD;3 TATTOOED HEAD;3 CAPTIVE;3 CHILD;3 WOMAN",
   "3 HELMET;3 GAUNTLET;3 TIARA;3 ARROW;3 BOW;3 SHIELD;3 CLUB;3 MANACLES;3 MATTOCK;3 SAW;3 LID",
   "3 BOOMERANG;3 CARPENTRY PLANE;3 DOLIUM;3 COMB;3 SLING;3 COLUMN;3 BEEHIVE;3 SHIP;3 HORN;3 HIDE",
   "3 BULLS LEG;3 CAT;3 RAM;3 EAGLE;3 DOVE;3 TUNNY;3 BEE;3 PLANE TREE;3 VINE;3 PAPYRUS;3 ROSETTE",
   "3 LILY;3 OX BACK;3 FLUTE;3 GRATER;3 STRAINER;3 SMALL AXE;3 WAVY BAND;3 COMBINING OBLIQUE STROKE",
   "@10280;0 LYCIAN LETTER A;2 E;2 B;2 BH;2 G;2 D;2 I;2 W;2 Z;2 TH;2 J;2 K;2 Q;2 L;2 M;2 N;2 MM",
   "2 NN;2 U;2 P;2 KK;2 R;2 S;2 T;2 TT;2 AN;2 EN;2 H;2 X;@102a0;0 CARIAN LETTER A;2 P2;2 D;2 L",
   "2 UUU;2 R;2 LD;2 A2;2 Q;2 B;2 M;2 O;2 D2;2 T;2 SH;2 SH2;2 S;2 C-18;2 U;2 NN;2 X;2 N;2 TT2;2 P",
   "2 SS;2 I;2 E;2 UUUU;2 K;2 K2;2 ND;2 UU;2 G;2 G2;2 ST;2 ST2;2 NG;2 II;2 C-39;2 TT;2 UUU2;2 RR",
   "2 MB;2 MB2;2 MB3;2 MB4;2 LD2;2 E2;2 UUU3;@102e0;0 COPTIC EPACT THOUSANDS MARK;2 DIGIT ONE;3 TWO",
   "3 THREE;3 FOUR;3 FIVE;3 SIX;3 SEVEN;3 EIGHT;3 NINE;2 NUMBER TEN;3 TWENTY;3 THIRTY;3 FORTY",
   "3 FIFTY;3 SIXTY;3 SEVENTY;3 EIGHTY;3 NINETY;3 ONE HUNDRED;3 TWO HUNDRED;3 THREE HUNDRED",
   "3 FOUR HUNDRED;3 FIVE HUNDRED;3 SIX HUNDRED;3 SEVEN HUNDRED;3 EIGHT HUNDRED;3 NINE HUNDRED",
   "@10300;0 OLD ITALIC LETTER A;3 BE;3 KE;3 DE;3 E;3 VE;3 ZE;3 HE;3 THE;3 I;3 KA;3 EL;3 EM;3 EN",
   "3 ESH;3 O;3 PE;3 SHE;3 KU;3 ER;3 ES;3 TE;3 U;3 EKS;3 PHE;3 KHE;3 EF;3 ERS;3 CHE;3 II;3 UU;3 ESS",
   "2 NUMERAL ONE;3 FIVE;3 TEN;3 FIFTY;@1032d;2 LETTER YE;3 NORTHERN TSE;3 SOUTHERN TSE",
   "0 GOTHIC LETTER AHSA;2 BAIRKAN;2 GIBA;2 DAGS;2 AIHVUS;2 QAIRTHRA;2 IUJA;2 HAGL;2 THIUTH;2 EIS",
   "2 KUSMA;2 LAGUS;2 MANNA;2 NAUTHS;2 JER;2 URUS;2 PAIRTHRA;2 NINETY;2 RAIDA;2 SAUIL;2 TEIWS",
   "2 WINJA;2 FAIHU;2 IGGWS;2 HWAIR;2 OTHAL;2 NINE HUNDRED;@10350;0 OLD PERMIC LETTER AN;3 BUR",
   "3 GAI;3 DOI;3 E;3 ZHOI;3 DZHOI;3 ZATA;3 DZITA;3 I;3 KOKE;3 LEI;3 MENOE;3 NENOE;3 VOOI;3 PEEI",
   "3 REI;3 SII;3 TAI;3 U;3 CHERY;3 SHOOI;3 SHCHOOI;3 YRY;3 YERU;3 O;3 OO;3 EF;3 HA;3 TSIU;3 VER",
   "3 YER;3 YERI;3 YAT;3 IE;3 YU;3 YA;3 IA;0 COMBINING OLD PERMIC LETTER AN;4 DOI;4 ZATA;4 NENOE",
   "4 SII;@10380;0 UGARITIC LETTER ALPA;2 BETA;2 GAMLA;2 KHA;2 DELTA;2 HO;2 WO;2 ZETA;2 HOTA;2 TET",
   "2 YOD;2 KAF;2 SHIN;2 LAMDA;2 MEM;2 DHAL;2 NUN;2 ZU;2 SAMKA;2 AIN;2 PU;2 SADE;2 QOPA;2 RASHA",
   "2 THANNA;2 GHAIN;2 TO;2 I;2 U;2 SSU;@1039f;1 WORD DIVIDER;0 OLD PERSIAN SIGN A;3 I;3 U;3 KA",
   "3 KU;3 GA;3 GU;3 XA;3 CA;3 JA;3 JI;3 TA;3 TU;3 DA;3 DI;3 DU;3 THA;3 PA;3 BA;3 FA;3 NA;3 NU;3 MA",
   "3 MI;3 MU;3 YA;3 VA;3 VI;3 RA;3 RU;3 LA;3 SA;3 ZA;3 SHA;3 SSA;3 HA;@103c8;3 AURAMAZDAA",
   "3 AURAMAZDAA-2;3 AURAMAZDAAHA;3 XSHAAYATHIYA;3 DAHYAAUSH;3 DAHYAAUSH-2;3 BAGA;3 BUUMISH",
   "2 WORD DIVIDER;2 NUMBER ONE;3 TWO;3 TEN;3 TWENTY;3 HUNDRED;@10400",
   "0 DESERET CAPITAL LETTER LONG I;4 E;4 A;4 AH;4 O;4 OO;3 SHORT I;4 E;4 A;4 AH;4 O;4 OO;3 AY;3 OW",
   "3 WU;3 YEE;3 H;3 PEE;3 BEE;3 TEE;3 DEE;3 CHEE;3 JEE;3 KAY;3 GAY;3 EF;3 VEE;3 ETH;3 THEE;3 ES",
   "3 ZEE;3 ESH;3 ZHEE;3 ER;3 EL;3 EM;3 EN;3 ENG;3 OI;3 EW;1 SMALL LETTER LONG I;4 E;4 A;4 AH;4 O",
   "4 OO;3 SHORT I;4 E;4 A;4 AH;4 O;4 OO;3 AY;3 OW;3 WU;3 YEE;3 H;3 PEE;3 BEE;3 TEE;3 DEE;3 CHEE",
   "3 JEE;3 KAY;3 GAY;3 EF;3 VEE;3 ETH;3 THEE;3 ES;3 ZEE;3 ESH;3 ZHEE;3 ER;3 EL;3 EM;3 EN;3 ENG",
   "3 OI;3 EW;0 SHAVIAN LETTER PEEP;2 TOT;2 KICK;2 FEE;2 THIGH;2 SO;2 SURE;2 CHURCH;2 YEA;2 HUNG",
   "2 BIB;2 DEAD;2 GAG;2 VOW;2 THEY;2 ZOO;2 MEASURE;2 JUDGE;2 WOE;2 HA-HA;2 LOLL;2 MIME;2 IF;2 EGG",
   "2 ASH;2 ADO;2 ON;2 WOOL;2 OUT;2 AH;2 ROAR;2 NUN;2 EAT;2 AGE;2 ICE;2 UP;2 OAK;2 OOZE;2 OIL;2 AWE",
   "2 ARE;2 OR;2 AIR;2 ERR;2 ARRAY;2 EAR;2 IAN;2 YEW;0 OSMANYA LETTER ALEF;2 BA;2 TA;2 JA;2 XA",
   "2 KHA;2 DEEL;2 RA;2 SA;2 SHIIN;2 DHA;2 CAYN;2 GA;2 FA;2 QAAF;2 KAAF;2 LAAN;2 MIIN;2 NUUN;2 WAW",
   "2 HA;2 YA;2 A;2 E;2 I;2 O;2 U;2 AA;2 EE;2 OO;@104a0;1 DIGIT ZERO;2 ONE;2 TWO;2 THREE;2 FOUR",
   "2 FIVE;2 SIX;2 SEVEN;2 EIGHT;2 NINE;@104b0;0 OSAGE CAPITAL LETTER A;3 AI;3 AIN;3 AH;3 BRA;3 CHA",
   "3 EHCHA;3 E;3 EIN;3 HA;3 HYA;3 I;3 KA;3 EHKA;3 KYA;3 LA;3 MA;3 NA;3 O;3 OIN;3 PA;3 EHPA;3 SA",
   "3 SHA;3 TA;3 EHTA;3 TSA;3 EHTSA;3 TSHA;3 DHA;3 U;3 WA;3 KHA;3 GHA;3 ZA;3 ZHA;@104d8",
   "1 SMALL LETTER A;3 AI;3 AIN;3 AH;3 BRA;3 CHA;3 EHCHA;3 E;3 EIN;3 HA;3 HYA;3 I;3 KA;3 EHKA;3 KYA",
   "3 LA;3 MA;3 NA;3 O;3 OIN;3 PA;3 EHPA;3 SA;3 SHA;3 TA;3 EHTA;3 TSA;3 EHTSA;3 TSHA;3 DHA;3 U;3 WA",
   "3 KHA;3 GHA;3 ZA;3 ZHA;@10500;0 ELBASAN LETTER A;2 BE;2 CE;2 CHE;2 DE;2 NDE;2 DHE;2 EI;2 E;2 FE",
   "2 GE;2 GJE;2 HE;2 I;2 JE;2 KE;2 LE;2 LLE;2 ME;2 NE;2 NA;2 NJE;2 O;2 PE;2 QE;2 RE;2 RRE;2 SE",
   "2 SHE;2 TE;2 THE;2 U;2 VE;2 XE;2 Y;2 ZE;2 ZHE;2 GHE;2 GHAMMA;2 KHE;@10530",
   "0 CAUCASIAN ALBANIAN LETTER ALT;3 BET;3 GIM;3 DAT;3 EB;3 ZARL;3 EYN;3 ZHIL;3 TAS;3 CHA;3 YOWD",
   "3 ZHA;3 IRB;3 SHA;3 LAN;3 INYA;3 XEYN;3 DYAN;3 CAR;3 JHOX;3 KAR;3 LYIT;3 HEYT;3 QAY;3 AOR",
   "3 CHOY;3 CHI;3 CYAY;3 MAQ;3 QAR;3 NOWC;3 DZYAY;3 SHAK;3 JAYN;3 ON;3 TYAY;3 FAM;3 DZAY;3 CHAT",
   "3 PEN;3 GHEYS;3 RAT;3 SEYK;3 VEYZ;3 TIWR;3 SHOY;3 IWN;3 CYAW;3 CAYN;3 YAYD;3 PIWR;3 KIW;@1056f",
   "2 CITATION MARK;0 VITHKUQI CAPITAL LETTER A;3 BBE;3 BE;3 CE;3 CHE;3 DE;3 DHE;3 EI;3 E;3 FE;3 GA",
   "@1057c;3 HA;3 HHA;3 I;3 IJE;3 JE;3 KA;3 LA;3 LLA;3 ME;3 NE;3 NJE;3 O;3 PE;3 QA;3 RE;@1058c;3 SE",
   "3 SHE;3 TE;3 THE;3 U;3 VE;3 XE;@10594;3 Y;3 ZE;@10597;1 SMALL LETTER A;3 BBE;3 BE;3 CE;3 CHE",
   "3 DE;3 DHE;3 EI;3 E;3 FE;3 GA;@105a3;3 HA;3 HHA;3 I;3 IJE;3 JE;3 KA;3 LA;3 LLA;3 ME;3 NE;3 NJE",
   "3 O;3 PE;3 QA;3 RE;@105b3;3 SE;3 SHE;3 TE;3 THE;3 U;3 VE;3 XE;@105bb;3 Y;3 ZE;@10600",
   "0 LINEAR A SIGN AB001;3 AB002;3 AB003;3 AB004;3 AB005;3 AB006;3 AB007;3 AB008;3 AB009;3 AB010",
   "3 AB011;3 AB013;3 AB016;3 AB017;3 AB020;3 AB021;3 AB021F;3 AB021M;3 AB022;3 AB022F;3 AB022M",
   "3 AB023;3 AB023M;3 AB024;3 AB026;3 AB027;3 AB028;3 A028B;3 AB029;3 AB030;3 AB031;3 AB034",
   "3 AB037;3 AB038;3 AB039;3 AB040;3 AB041;3 AB044;3 AB045;3 AB046;3 AB047;3 AB048;3 AB049;3 AB050",
   "3 AB051;3 AB053;3 AB054;3 AB055;3 AB056;3 AB057;3 AB058;3 AB059;3 AB060;3 AB061;3 AB065;3 AB066",
   "3 AB067;3 AB069;3 AB070;3 AB073;3 AB074;3 AB076;3 AB077;3 AB078;3 AB079;3 AB080;3 AB081;3 AB082",
   "3 AB085;3 AB086;3 AB087;3 A100-102;3 AB118;3 AB120;3 A120B;3 AB122;3 AB123;3 AB131A;3 AB131B",
   "3 A131C;3 AB164;3 AB171;3 AB180;3 AB188;3 AB191;3 A301;3 A302;3 A303;3 A304;3 A305;3 A306",
   "3 A307;3 A308;3 A309A;3 A309B;3 A309C;3 A310;3 A311;3 A312;3 A313A;3 A313B;3 A313C;3 A314",
   "3 A315;3 A316;3 A317;3 A318;3 A319;3 A320;3 A321;3 A322;3 A323;3 A324;3 A325;3 A326;3 A327",
   "3 A328;3 A329;3 A330;3 A331;3 A332;3 A333;3 A334;3 A335;3 A336;3 A337;3 A338;3 A339;3 A340",
   "3 A341;3 A342;3 A343;3 A344;3 A345;3 A346;3 A347;3 A348;3 A349;3 A350;3 A351;3 A352;3 A353",
   "3 A354;3 A355;3 A356;3 A357;3 A358;3 A359;3 A360;3 A361;3 A362;3 A363;3 A364;3 A365;3 A366",
   "3 A367;3 A368;3 A369;3 A370;3 A371;3 A400-VAS;3 A401-VAS;3 A402-VAS;3 A403-VAS;3 A404-VAS",
   "3 A405-VAS;3 A406-VAS;3 A407-VAS;3 A408-VAS;3 A409-VAS;3 A410-VAS;3 A411-VAS;3 A412-VAS",
   "3 A413-VAS;3 A414-VAS;3 A415-VAS;3 A416-VAS;3 A417-VAS;3 A418-VAS;3 A501;3 A502;3 A503;3 A504",
   "3 A505;3 A506;3 A508;3 A509;3 A510;3 A511;3 A512;3 A513;3 A515;3 A516;3 A520;3 A521;3 A523",
   "3 A524;3 A525;3 A526;3 A527;3 A528;3 A529;3 A530;3 A531;3 A532;3 A534;3 A535;3 A536;3 A537",
   "3 A538;3 A539;3 A540;3 A541;3 A542;3 A545;3 A547;3 A548;3 A549;3 A550;3 A551;3 A552;3 A553",
   "3 A554;3 A555;3 A556;3 A557;3 A559;3 A563;3 A564;3 A565;3 A566;3 A568;3 A569;3 A570;3 A571",
   "3 A572;3 A573;3 A574;3 A575;3 A576;3 A577;3 A578;3 A579;3 A580;3 A581;3 A582;3 A583;3 A584",
   "3 A585;3 A586;3 A587;3 A588;3 A589;3 A591;3 A592;3 A594;3 A595;3 A596;3 A598;3 A600;3 A601",
   "3 A602;3 A603;3 A604;3 A606;3 A608;3 A609;3 A610;3 A611;3 A612;3 A613;3 A614;3 A615;3 A616",
   "3 A617;3 A618;3 A619;3 A620;3 A621;3 A622;3 A623;3 A624;3 A626;3 A627;3 A628;3 A629;3 A634",
   "3 A637;3 A638;3 A640;3 A642;3 A643;3 A644;3 A645;3 A646;3 A648;3 A649;3 A651;3 A652;3 A653",
   "3 A654;3 A655;3 A656;3 A657;3 A658;3 A659;3 A660;3 A661;3 A662;3 A663;3 A664;@10740;3 A701 A",
   "3 A702 B;3 A703 D;3 A704 E;3 A705 F;3 A706 H;3 A707 J;3 A708 K;3 A709 L;3 A709-2 L2;3 A709-3 L3",
   "3 A709-4 L4;3 A709-6 L6;3 A710 W;3 A711 X;3 A712 Y;3 A713 OMEGA;3 A714 ABB;3 A715 BB;3 A717 DD",
   "3 A726 EYYY;3 A732 JE;@10760;3 A800;3 A801;3 A802;3 A803;3 A804;3 A805;3 A806;3 A807;@10780",
   "0 MODIFIER LETTER SMALL CAPITAL AA;2 SUPERSCRIPT TRIANGULAR COLON;3 HALF TRIANGULAR COLON",
   "2 SMALL AE;3 CAPITAL B;3 B WITH HOOK;@10787;3 DZ DIGRAPH;5 WITH RETROFLEX HOOK;6 CURL",
   "3 DEZH DIGRAPH;3 D WITH TAIL;5 HOOK;6 AND TAIL;3 REVERSED E;3 CLOSED REVERSED OPEN E",
   "3 FENG DIGRAPH;3 RAMS HORN;3 CAPITAL G;3 G WITH HOOK;3 CAPITAL G WITH HOOK;3 H WITH STROKE",
   "3 CAPITAL H;3 HENG WITH HOOK;3 DOTLESS J WITH STROKE AND HOOK;3 LS DIGRAPH;3 LZ DIGRAPH",
   "3 L WITH BELT;3 CAPITAL L WITH BELT;3 L WITH RETROFLEX HOOK AND BELT;3 LEZH",
   "4 WITH RETROFLEX HOOK;3 TURNED Y;5 WITH BELT;3 O WITH STROKE;3 CAPITAL OE;3 CLOSED OMEGA;3 Q",
   "3 TURNED R WITH LONG LEG;8 AND RETROFLEX HOOK;3 R WITH TAIL;5 FISHHOOK;3 CAPITAL R",
   "3 TC DIGRAPH WITH CURL;3 TS DIGRAPH;5 WITH RETROFLEX HOOK;3 TESH DIGRAPH",
   "3 T WITH RETROFLEX HOOK;3 V WITH RIGHT HOOK;@107b2;3 CAPITAL Y;2 GLOTTAL STOP WITH STROKE",
   "2 REVERSED GLOTTAL STOP WITH STROKE;2 BILABIAL CLICK;2 DENTAL CLICK;2 LATERAL CLICK",
   "2 ALVEOLAR CLICK;2 RETROFLEX CLICK WITH RETROFLEX HOOK;2 SMALL S WITH CURL;@10800",
   "0 CYPRIOT SYLLABLE A;2 E;2 I;2 O;2 U;2 JA;@10808;2 JO;@1080a;2 KA;2 KE;2 KI;2 KO;2 KU;2 LA;2 LE",
   "2 LI;2 LO;2 LU;2 MA;2 ME;2 MI;2 MO;2 MU;2 NA;2 NE;2 NI;2 NO;2 NU;2 PA;2 PE;2 PI;2 PO;2 PU;2 RA",
   "2 RE;2 RI;2 RO;2 RU;2 SA;2 SE;2 SI;2 SO;2 SU;2 TA;2 TE;2 TI;2 TO;2 TU;2 WA;2 WE;2 WI;2 WO",
   "@10837;2 XA;2 XE;@1083c;2 ZA;@1083f;2 ZO;0 IMPERIAL ARAMAIC LETTER ALEPH;3 BETH;3 GIMEL",
   "3 DALETH;3 HE;3 WAW;3 ZAYIN;3 HETH;3 TETH;3 YODH;3 KAPH;3 LAMEDH;3 MEM;3 NUN;3 SAMEKH;3 AYIN",
   "3 PE;3 SADHE;3 QOPH;3 RESH;3 SHIN;3 TAW;@10857;2 SECTION SIGN;2 NUMBER ONE;3 TWO;3 THREE;3 TEN",
   "3 TWENTY;3 ONE HUNDRED;4 THOUSAND;3 TEN THOUSAND;0 PALMYRENE LETTER ALEPH;2 BETH;2 GIMEL",
   "2 DALETH;2 HE;2 WAW;2 ZAYIN;2 HETH;2 TETH;2 YODH;2 KAPH;2 LAMEDH;2 MEM;2 FINAL NUN;2 NUN",
   "2 SAMEKH;2 AYIN;2 PE;2 SADHE;2 QOPH;2 RESH;2 SHIN;2 TAW;1 LEFT-POINTING FLEURON",
   "1 RIGHT-POINTING FLEURON;1 NUMBER ONE;2 TWO;2 THREE;2 FOUR;2 FIVE;2 TEN;2 TWENTY",
   "0 NABATAEAN LETTER FINAL ALEPH;2 ALEPH;2 FINAL BETH;2 BETH;2 GIMEL;2 DALETH;2 FINAL HE;2 HE",
   "2 WAW;2 ZAYIN;2 HETH;2 TETH;2 FINAL YODH;2 YODH;2 FINAL KAPH;2 KAPH;2 FINAL LAMEDH;2 LAMEDH",
   "2 FINAL MEM;2 MEM;2 FINAL NUN;2 NUN;2 SAMEKH;2 AYIN;2 PE;2 SADHE;2 QOPH;2 RESH;2 FINAL SHIN",
   "2 SHIN;2 TAW;@108a7;1 NUMBER ONE;2 TWO;2 THREE;2 FOUR;1 CRUCIFORM NUMBER FOUR;1 NUMBER FIVE",
   "2 TEN;2 TWENTY;2 ONE HUNDRED;@108e0;0 HATRAN LETTER ALEPH;2 BETH;2 GIMEL;2 DALETH-RESH;2 HE",
   "2 WAW;2 ZAYN;2 HETH;2 TETH;2 YODH;2 KAPH;2 LAMEDH;2 MEM;2 NUN;2 SAMEKH;2 AYN;2 PE;2 SADHE",
   "2 QOPH;@108f4;2 SHIN;2 TAW;@108fb;1 NUMBER ONE;2 FIVE;2 TEN;2 TWENTY;2 ONE HUNDRED",
   "0 PHOENICIAN LETTER ALF;2 BET;2 GAML;2 DELT;2 HE;2 WAU;2 ZAI;2 HET;2 TET;2 YOD;2 KAF;2 LAMD",
   "2 MEM;2 NUN;2 SEMK;2 AIN;2 PE;2 SADE;2 QOF;2 ROSH;2 SHIN;2 TAU;1 NUMBER ONE;2 TEN;2 TWENTY",
   "2 ONE HUNDRED;2 TWO;2 THREE;@1091f;1 WORD SEPARATOR;0 LYDIAN LETTER A;2 B;2 G;2 D;2 E;2 V;2 I",
   "2 Y;2 K;2 L;2 M;2 N;2 O;2 R;2 SS;2 T;2 U;2 F;2 Q;2 S;2 TT;2 AN;2 EN;2 LY;2 NN;2 C;@1093f",
   "1 TRIANGULAR MARK;@10980;0 MEROITIC HIEROGLYPHIC LETTER A;3 E;3 I;3 O;3 YA;3 WA;3 BA;3 BA-2",
   "3 PA;3 MA;3 NA;3 NA-2;3 NE;3 NE-2;3 RA;3 RA-2;3 LA;3 KHA;3 HHA;3 SA;3 SA-2;3 SE;3 KA;3 QA;3 TA",
   "3 TA-2;3 TE;3 TE-2;3 TO;3 DA;2 SYMBOL VIDJ;3 VIDJ-2;1 CURSIVE LETTER A;3 E;3 I;3 O;3 YA;3 WA",
   "3 BA;3 PA;3 MA;3 NA;3 NE;3 RA;3 LA;3 KHA;3 HHA;3 SA;3 ARCHAIC SA;3 SE;3 KA;3 QA;3 TA;3 TE;3 TO",
   "3 DA;@109bc;2 FRACTION ELEVEN TWELFTHS;3 ONE HALF;2 LOGOGRAM RMT;3 IMN;2 NUMBER ONE;3 TWO",
   "3 THREE;3 FOUR;3 FIVE;3 SIX;3 SEVEN;3 EIGHT;3 NINE;3 TEN;3 TWENTY;3 THIRTY;3 FORTY;3 FIFTY",
   "3 SIXTY;3 SEVENTY;@109d2;3 ONE HUNDRED;3 TWO HUNDRED;3 THREE HUNDRED;3 FOUR HUNDRED",
   "3 FIVE HUNDRED;3 SIX HUNDRED;3 SEVEN HUNDRED;3 EIGHT HUNDRED;3 NINE HUNDRED;3 ONE THOUSAND",
   "3 TWO THOUSAND;3 THREE THOUSAND;3 FOUR THOUSAND;3 FIVE THOUSAND;3 SIX THOUSAND;3 SEVEN THOUSAND",
   "3 EIGHT THOUSAND;3 NINE THOUSAND;3 TEN THOUSAND;3 TWENTY THOUSAND;3 THIRTY THOUSAND",
   "3 FORTY THOUSAND;3 FIFTY THOUSAND;3 SIXTY THOUSAND;3 SEVENTY THOUSAND;3 EIGHTY THOUSAND",
   "3 NINETY THOUSAND;3 ONE HUNDRED THOUSAND;3 TWO HUNDRED THOUSAND;3 THREE HUNDRED THOUSAND",
   "3 FOUR HUNDRED THOUSAND;3 FIVE HUNDRED THOUSAND;3 SIX HUNDRED THOUSAND;3 SEVEN HUNDRED THOUSAND",
   "3 EIGHT HUNDRED THOUSAND;3 NINE HUNDRED THOUSAND;2 FRACTION ONE TWELFTH;3 TWO TWELFTHS",
   "3 THREE TWELFTHS;3 FOUR TWELFTHS;3 FIVE TWELFTHS;3 SIX TWELFTHS;3 SEVEN TWELFTHS",
   "3 EIGHT TWELFTHS;3 NINE TWELFTHS;3 TEN TWELFTHS;0 KHAROSHTHI LETTER A;1 VOWEL SIGN I;3 U",
   "3 VOCALIC R;@10a05;3 E;3 O;@10a0c;2 LENGTH MARK;1 SIGN DOUBLE RING BELOW;2 ANUSVARA;2 VISARGA",
   "1 LETTER KA;2 KHA;2 GA;2 GHA;@10a15;2 CA;2 CHA;2 JA;@10a19;2 NYA;2 TTA;2 TTHA;2 DDA;2 DDHA",
   "2 NNA;2 TA;2 THA;2 DA;2 DHA;2 NA;2 PA;2 PHA;2 BA;2 BHA;2 MA;2 YA;2 RA;2 LA;2 VA;2 SHA;2 SSA",
   "2 SA;2 ZA;2 HA;2 KKA;2 TTTHA;2 TTTA;2 VHA;@10a38;1 SIGN BAR ABOVE;2 CAUDA;2 DOT BELOW;@10a3f",
   "1 VIRAMA;1 DIGIT ONE;2 TWO;2 THREE;2 FOUR;1 NUMBER TEN;2 TWENTY;2 ONE HUNDRED;3 THOUSAND",
   "1 FRACTION ONE HALF;@10a50;1 PUNCTUATION DOT;2 SMALL CIRCLE;2 CIRCLE;2 CRESCENT BAR;2 MANGALAM",
   "2 LOTUS;2 DANDA;2 DOUBLE DANDA;2 LINES;@10a60;0 OLD SOUTH ARABIAN LETTER HE;4 LAMEDH;4 HETH",
   "4 MEM;4 QOPH;4 WAW;4 SHIN;4 RESH;4 BETH;4 TAW;4 SAT;4 KAPH;4 NUN;4 KHETH;4 SADHE;4 SAMEKH;4 FE",
   "4 ALEF;4 AYN;4 DHADHE;4 GIMEL;4 DALETH;4 GHAYN;4 TETH;4 ZAYN;4 DHALETH;4 YODH;4 THAW;4 THETH",
   "3 NUMBER ONE;4 FIFTY;3 NUMERIC INDICATOR;1 NORTH ARABIAN LETTER HEH;4 LAM;4 HAH;4 MEEM;4 QAF",
   "4 WAW;4 ES-2;4 REH;4 BEH;4 TEH;4 ES-1;4 KAF;4 NOON;4 KHAH;4 SAD;4 ES-3;4 FEH;4 ALEF;4 AIN;4 DAD",
   "4 GEEM;4 DAL;4 GHAIN;4 TAH;4 ZAIN;4 THAL;4 YEH;4 THEH;4 ZAH;3 NUMBER ONE;4 TEN;4 TWENTY;@10ac0",
   "0 MANICHAEAN LETTER ALEPH;2 BETH;2 BHETH;2 GIMEL;2 GHIMEL;2 DALETH;2 HE;2 WAW;1 SIGN UD",
   "1 LETTER ZAYIN;2 ZHAYIN;2 JAYIN;2 JHAYIN;2 HETH;2 TETH;2 YODH;2 KAPH;2 XAPH;2 KHAPH;2 LAMEDH",
   "2 DHAMEDH;2 THAMEDH;2 MEM;2 NUN;2 SAMEKH;2 AYIN;2 AAYIN;2 PE;2 FE;2 SADHE;2 QOPH;2 XOPH;2 QHOPH",
   "2 RESH;2 SHIN;2 SSHIN;2 TAW;1 ABBREVIATION MARK ABOVE;3 BELOW;@10aeb;1 NUMBER ONE;2 FIVE;2 TEN",
   "2 TWENTY;2 ONE HUNDRED;1 PUNCTUATION STAR;2 FLEURON;2 DOUBLE DOT WITHIN DOT;2 DOT WITHIN DOT",
   "2 DOT;2 TWO DOTS;2 LINE FILLER;@10b00;0 AVESTAN LETTER A;2 AA;2 AO;2 AAO;2 AN;2 AAN;2 AE;2 AEE",
   "2 E;2 EE;2 O;2 OO;2 I;2 II;2 U;2 UU;2 KE;2 XE;2 XYE;2 XVE;2 GE;2 GGE;2 GHE;2 CE;2 JE;2 TE;2 THE",
   "2 DE;2 DHE;2 TTE;2 PE;2 FE;2 BE;2 BHE;2 NGE;2 NGYE;2 NGVE;2 NE;2 NYE;2 NNE;2 ME;2 HME;2 YYE",
   "2 YE;2 VE;2 RE;2 LE;2 SE;2 ZE;2 SHE;2 ZHE;2 SHYE;2 SSHE;2 HE;@10b39;1 ABBREVIATION MARK",
   "0 TINY TWO DOTS OVER ONE DOT PUNCTUATION;0 SMALL TWO DOTS OVER ONE DOT PUNCTUATION",
   "0 LARGE TWO DOTS OVER ONE DOT PUNCTUATION;1 ONE DOT OVER TWO DOTS PUNCTUATION",
   "1 TWO RINGS OVER ONE RING PUNCTUATION;1 ONE RING OVER TWO RINGS PUNCTUATION",
   "0 INSCRIPTIONAL PARTHIAN LETTER ALEPH;3 BETH;3 GIMEL;3 DALETH;3 HE;3 WAW;3 ZAYIN;3 HETH;3 TETH",
   "3 YODH;3 KAPH;3 LAMEDH;3 MEM;3 NUN;3 SAMEKH;3 AYIN;3 PE;3 SADHE;3 QOPH;3 RESH;3 SHIN;3 TAW",
   "@10b58;2 NUMBER ONE;3 TWO;3 THREE;3 FOUR;3 TEN;3 TWENTY;3 ONE HUNDRED;4 THOUSAND",
   "1 PAHLAVI LETTER ALEPH;3 BETH;3 GIMEL;3 DALETH;3 HE;3 WAW-AYIN-RESH;3 ZAYIN;3 HETH;3 TETH",
   "3 YODH;3 KAPH;3 LAMEDH;3 MEM-QOPH;3 NUN;3 SAMEKH;3 PE;3 SADHE;3 SHIN;3 TAW;@10b78;2 NUMBER ONE",
   "3 TWO;3 THREE;3 FOUR;3 TEN;3 TWENTY;3 ONE HUNDRED;4 THOUSAND;0 PSALTER PAHLAVI LETTER ALEPH",
   "3 BETH;3 GIMEL;3 DALETH;3 HE;3 WAW-AYIN-RESH;3 ZAYIN;3 HETH;3 YODH;3 KAPH;3 LAMEDH;3 MEM-QOPH",
   "3 NUN;3 SAMEKH;3 PE;3 SADHE;3 SHIN;3 TAW;@10b99;2 SECTION MARK;2 TURNED SECTION MARK",
   "2 FOUR DOTS WITH CROSS;5 DOT;@10ba9;2 NUMBER ONE;3 TWO;3 THREE;3 FOUR;3 TEN;3 TWENTY",
   "3 ONE HUNDRED;@10c00;0 OLD TURKIC LETTER ORKHON A;3 YENISEI A;4 AE;3 ORKHON I;3 YENISEI I;4 E",
   "3 ORKHON O;4 OE;3 YENISEI OE;3 ORKHON AB;3 YENISEI AB;3 ORKHON AEB;3 YENISEI AEB;3 ORKHON AG",
   "3 YENISEI AG;3 ORKHON AEG;3 YENISEI AEG;3 ORKHON AD;3 YENISEI AD;3 ORKHON AED;4 EZ;3 YENISEI EZ",
   "3 ORKHON AY;3 YENISEI AY;3 ORKHON AEY;3 YENISEI AEY;3 ORKHON AEK;3 YENISEI AEK;3 ORKHON OEK",
   "3 YENISEI OEK;3 ORKHON AL;3 YENISEI AL;3 ORKHON AEL;4 ELT;4 EM;4 AN;4 AEN;3 YENISEI AEN",
   "3 ORKHON ENT;3 YENISEI ENT;3 ORKHON ENC;3 YENISEI ENC;3 ORKHON ENY;3 YENISEI ENY;4 ANG",
   "3 ORKHON ENG;3 YENISEI AENG;3 ORKHON EP;4 OP;4 IC;4 EC;3 YENISEI EC;3 ORKHON AQ;3 YENISEI AQ",
   "3 ORKHON IQ;3 YENISEI IQ;3 ORKHON OQ;3 YENISEI OQ;3 ORKHON AR;3 YENISEI AR;3 ORKHON AER;4 AS",
   "4 AES;4 ASH;3 YENISEI ASH;3 ORKHON ESH;3 YENISEI ESH;3 ORKHON AT;3 YENISEI AT;3 ORKHON AET",
   "3 YENISEI AET;3 ORKHON OT;4 BASH;@10c80;1 HUNGARIAN CAPITAL LETTER A;4 AA;4 EB;4 AMB;4 EC;4 ENC",
   "4 ECS;4 ED;4 AND;4 E;4 CLOSE E;4 EE;4 EF;4 EG;4 EGY;4 EH;4 I;4 II;4 EJ;4 EK;4 AK;4 UNK;4 EL",
   "4 ELY;4 EM;4 EN;4 ENY;4 O;4 OO;4 NIKOLSBURG OE;4 RUDIMENTA OE;4 OEE;4 EP;4 EMP;4 ER;4 SHORT ER",
   "4 ES;4 ESZ;4 ET;4 ENT;4 ETY;4 ECH;4 U;4 UU;4 NIKOLSBURG UE;4 RUDIMENTA UE;4 EV;4 EZ;4 EZS",
   "4 ENT-SHAPED SIGN;4 US;@10cc0;2 SMALL LETTER A;4 AA;4 EB;4 AMB;4 EC;4 ENC;4 ECS;4 ED;4 AND;4 E",
   "4 CLOSE E;4 EE;4 EF;4 EG;4 EGY;4 EH;4 I;4 II;4 EJ;4 EK;4 AK;4 UNK;4 EL;4 ELY;4 EM;4 EN;4 ENY",
   "4 O;4 OO;4 NIKOLSBURG OE;4 RUDIMENTA OE;4 OEE;4 EP;4 EMP;4 ER;4 SHORT ER;4 ES;4 ESZ;4 ET;4 ENT",
   "4 ETY;4 ECH;4 U;4 UU;4 NIKOLSBURG UE;4 RUDIMENTA UE;4 EV;4 EZ;4 EZS;4 ENT-SHAPED SIGN;4 US",
   "@10cfa;2 NUMBER ONE;3 FIVE;3 TEN;3 FIFTY;3 ONE HUNDRED;4 THOUSAND;0 HANIFI ROHINGYA LETTER A",
   "3 BA;3 PA;3 TA;3 TTA;3 JA;3 CA;3 HA;3 KHA;3 FA;3 DA;3 DDA;3 RA;3 RRA;3 ZA;3 SA;3 SHA;3 KA;3 GA",
   "3 LA;3 MA;3 NA;3 WA;3 KINNA WA;3 YA;3 KINNA YA;3 NGA;3 NYA;3 VA;2 VOWEL A;3 I;3 U;3 E;3 O",
   "2 MARK SAKIN;3 NA KHONNA;2 SIGN HARBAHAY;3 TAHALA;3 TANA;3 TASSI;@10d30;2 DIGIT ZERO;3 ONE",
   "3 TWO;3 THREE;3 FOUR;3 FIVE;3 SIX;3 SEVEN;3 EIGHT;3 NINE;@10e60;0 RUMI DIGIT ONE;2 TWO;2 THREE",
   "2 FOUR;2 FIVE;2 SIX;2 SEVEN;2 EIGHT;2 NINE;1 NUMBER TEN;2 TWENTY;2 THIRTY;2 FORTY;2 FIFTY",
   "2 SIXTY;2 SEVENTY;2 EIGHTY;2 NINETY;2 ONE HUNDRED;2 TWO HUNDRED;2 THREE HUNDRED;2 FOUR HUNDRED",
   "2 FIVE HUNDRED;2 SIX HUNDRED;2 SEVEN HUNDRED;2 EIGHT HUNDRED;2 NINE HUNDRED;1 FRACTION ONE HALF",
   "3 QUARTER;3 THIRD;2 TWO THIRDS;@10e80;0 YEZIDI LETTER ELIF;2 BE;2 PE;2 PHE;2 THE;2 SE;2 CIM",
   "2 CHIM;2 CHHIM;2 HHA;2 XA;2 DAL;2 ZAL;2 RA;2 RHA;2 ZA;2 JA;2 SIN;2 SHIN;2 SAD;2 DAD;2 TA;2 ZE",
   "2 EYN;2 XHEYN;2 FA;2 VA;3 ALTERNATE FORM;2 QAF;2 KAF;2 KHAF;2 GAF;2 LAM;2 MIM;2 NUN;2 UM;2 WAW",
   "2 OW;2 EW;2 HAY;2 YOT;2 ET;@10eab;1 COMBINING HAMZA MARK;2 MADDA MARK;1 HYPHENATION MARK;@10eb0",
   "1 LETTER LAM WITH DOT ABOVE;2 YOT WITH CIRCUMFLEX ABOVE;@10f00;0 OLD SOGDIAN LETTER ALEPH",
   "3 FINAL ALEPH;3 BETH;3 FINAL BETH;3 GIMEL;3 HE;3 FINAL HE;3 WAW;3 ZAYIN;3 HETH;3 YODH;3 KAPH",
   "3 LAMEDH;3 MEM;3 NUN;3 FINAL NUN;5 WITH VERTICAL TAIL;3 SAMEKH;3 AYIN;3 ALTERNATE AYIN;3 PE",
   "3 SADHE;3 FINAL SADHE;5 WITH VERTICAL TAIL;3 RESH-AYIN-DALETH;3 SHIN;3 TAW;3 FINAL TAW",
   "5 WITH VERTICAL TAIL;2 NUMBER ONE;3 TWO;3 THREE;3 FOUR;3 FIVE;3 TEN;3 TWENTY;3 THIRTY",
   "3 ONE HUNDRED;2 FRACTION ONE HALF;2 LIGATURE AYIN-DALETH;@10f30;0 SOGDIAN LETTER ALEPH;2 BETH",
   "2 GIMEL;2 HE;2 WAW;2 ZAYIN;2 HETH;2 YODH;2 KAPH;2 LAMEDH;2 MEM;2 NUN;2 SAMEKH;2 AYIN;2 PE",
   "2 SADHE;2 RESH-AYIN;2 SHIN;2 TAW;2 FETH;2 LESH;1 INDEPENDENT SHIN;1 COMBINING DOT BELOW",
   "2 TWO DOTS BELOW;2 DOT ABOVE;2 TWO DOTS ABOVE;2 CURVE ABOVE;3 BELOW;2 HOOK ABOVE;3 BELOW",
   "2 LONG HOOK BELOW;2 RESH BELOW;2 STROKE BELOW;1 NUMBER ONE;2 TEN;2 TWENTY;2 ONE HUNDRED",
   "1 PUNCTUATION TWO VERTICAL BARS;5 WITH DOTS;2 CIRCLE WITH DOT;2 TWO CIRCLES WITH DOTS",
   "2 HALF CIRCLE WITH DOT;@10f70;0 OLD UYGHUR LETTER ALEPH;3 BETH;3 GIMEL-HETH;3 WAW;3 ZAYIN",
   "3 FINAL HETH;3 YODH;3 KAPH;3 LAMEDH;3 MEM;3 NUN;3 SAMEKH;3 PE;3 SADHE;3 RESH;3 SHIN;3 TAW",
   "3 LESH;2 COMBINING DOT ABOVE;4 BELOW;3 TWO DOTS ABOVE;5 BELOW;2 PUNCTUATION BAR;3 TWO BARS",
   "4 DOTS;3 FOUR DOTS;@10fb0;0 CHORASMIAN LETTER ALEPH;2 SMALL ALEPH;2 BETH;2 GIMEL;2 DALETH;2 HE",
   "2 WAW;2 CURLED WAW;2 ZAYIN;2 HETH;2 YODH;2 KAPH;2 LAMEDH;2 MEM;2 NUN;2 SAMEKH;2 AYIN;2 PE",
   "2 RESH;2 SHIN;2 TAW;1 NUMBER ONE;2 TWO;2 THREE;2 FOUR;2 TEN;2 TWENTY;2 ONE HUNDRED;@10fe0",
   "0 ELYMAIC LETTER ALEPH;2 BETH;2 GIMEL;2 DALETH;2 HE;2 WAW;2 ZAYIN;2 HETH;2 TETH;2 YODH;2 KAPH",
   "2 LAMEDH;2 MEM;2 NUN;2 SAMEKH;2 AYIN;2 PE;2 SADHE;2 QOPH;2 RESH;2 SHIN;2 TAW",
   "1 LIGATURE ZAYIN-YODH;@11000;0 BRAHMI SIGN CANDRABINDU;2 ANUSVARA;2 VISARGA;2 JIHVAMULIYA",
   "2 UPADHMANIYA;1 LETTER A;2 AA;2 I;2 II;2 U;2 UU;2 VOCALIC R;3 RR;3 L;3 LL;2 E;2 AI;2 O;2 AU",
   "2 KA;2 KHA;2 GA;2 GHA;2 NGA;2 CA;2 CHA;2 JA;2 JHA;2 NYA;2 TTA;2 TTHA;2 DDA;2 DDHA;2 NNA;2 TA",
   "2 THA;2 DA;2 DHA;2 NA;2 PA;2 PHA;2 BA;2 BHA;2 MA;2 YA;2 RA;2 LA;2 VA;2 SHA;2 SSA;2 SA;2 HA",
   "2 LLA;2 OLD TAMIL LLLA;4 RRA;4 NNNA;1 VOWEL SIGN AA;3 BHATTIPROLU AA;3 I;3 II;3 U;3 UU",
   "3 VOCALIC R;4 RR;4 L;4 LL;3 E;3 AI;3 O;3 AU;1 VIRAMA;1 DANDA;1 DOUBLE DANDA;1 PUNCTUATION DOT",
   "2 DOUBLE DOT;2 LINE;2 CRESCENT BAR;2 LOTUS;@11052;1 NUMBER ONE;2 TWO;2 THREE;2 FOUR;2 FIVE",
   "2 SIX;2 SEVEN;2 EIGHT;2 NINE;2 TEN;2 TWENTY;2 THIRTY;2 FORTY;2 FIFTY;2 SIXTY;2 SEVENTY;2 EIGHTY",
   "2 NINETY;2 ONE HUNDRED;3 THOUSAND;1 DIGIT ZERO;2 ONE;2 TWO;2 THREE;2 FOUR;2 FIVE;2 SIX;2 SEVEN",
   "2 EIGHT;2 NINE;1 SIGN OLD TAMIL VIRAMA;1 LETTER OLD TAMIL SHORT E;5 O",
   "1 VOWEL SIGN OLD TAMIL SHORT E;6 O;1 LETTER OLD TAMIL LLA;@1107f;1 NUMBER JOINER",
   "0 KAITHI SIGN CANDRABINDU;2 ANUSVARA;2 VISARGA;1 LETTER A;2 AA;2 I;2 II;2 U;2 UU;2 E;2 AI;2 O",
   "2 AU;2 KA;2 KHA;2 GA;2 GHA;2 NGA;2 CA;2 CHA;2 JA;2 JHA;2 NYA;2 TTA;2 TTHA;2 DDA;2 DDDHA;2 DDHA",
   "2 RHA;2 NNA;2 TA;2 THA;2 DA;2 DHA;2 NA;2 PA;2 PHA;2 BA;2 BHA;2 MA;2 YA;2 RA;2 LA;2 VA;2 SHA",
   "2 SSA;2 SA;2 HA;1 VOWEL SIGN AA;3 I;3 II;3 U;3 UU;3 E;3 AI;3 O;3 AU;1 SIGN VIRAMA;2 NUKTA",
   "1 ABBREVIATION SIGN;1 ENUMERATION SIGN;1 NUMBER SIGN;1 SECTION MARK;1 DOUBLE SECTION MARK",
   "1 DANDA;1 DOUBLE DANDA;1 VOWEL SIGN VOCALIC R;@110cd;1 NUMBER SIGN ABOVE;@110d0",
   "0 SORA SOMPENG LETTER SAH;3 TAH;3 BAH;3 CAH;3 DAH;3 GAH;3 MAH;3 NGAH;3 LAH;3 NAH;3 VAH;3 PAH",
   "3 YAH;3 RAH;3 HAH;3 KAH;3 JAH;3 NYAH;3 AH;3 EEH;3 IH;3 UH;3 OH;3 EH;3 MAE;@110f0;2 DIGIT ZERO",
   "3 ONE;3 TWO;3 THREE;3 FOUR;3 FIVE;3 SIX;3 SEVEN;3 EIGHT;3 NINE;@11100;0 CHAKMA SIGN CANDRABINDU",
   "2 ANUSVARA;2 VISARGA;1 LETTER AA;2 I;2 U;2 E;2 KAA;2 KHAA;2 GAA;2 GHAA;2 NGAA;2 CAA;2 CHAA",
   "2 JAA;2 JHAA;2 NYAA;2 TTAA;2 TTHAA;2 DDAA;2 DDHAA;2 NNAA;2 TAA;2 THAA;2 DAA;2 DHAA;2 NAA;2 PAA",
   "2 PHAA;2 BAA;2 BHAA;2 MAA;2 YYAA;2 YAA;2 RAA;2 LAA;2 WAA;2 SAA;2 HAA;1 VOWEL SIGN A;3 I;3 II",
   "3 U;3 UU;3 E;3 AI;3 O;3 AU;3 OI;1 O MARK;1 AU MARK;1 VIRAMA;1 MAAYYAA;@11136;1 DIGIT ZERO;2 ONE",
   "2 TWO;2 THREE;2 FOUR;2 FIVE;2 SIX;2 SEVEN;2 EIGHT;2 NINE;1 SECTION MARK;1 DANDA;1 DOUBLE DANDA",
   "1 QUESTION MARK;1 LETTER LHAA;1 VOWEL SIGN AA;3 EI;1 LETTER VAA;@11150;0 MAHAJANI LETTER A;2 I",
   "2 U;2 E;2 O;2 KA;2 KHA;2 GA;2 GHA;2 CA;2 CHA;2 JA;2 JHA;2 NYA;2 TTA;2 TTHA;2 DDA;2 DDHA;2 NNA",
   "2 TA;2 THA;2 DA;2 DHA;2 NA;2 PA;2 PHA;2 BA;2 BHA;2 MA;2 RA;2 LA;2 VA;2 SA;2 HA;2 RRA",
   "1 SIGN NUKTA;1 ABBREVIATION SIGN;1 SECTION MARK;1 LIGATURE SHRI;@11180",
   "0 SHARADA SIGN CANDRABINDU;2 ANUSVARA;2 VISARGA;1 LETTER A;2 AA;2 I;2 II;2 U;2 UU;2 VOCALIC R",
   "3 RR;3 L;3 LL;2 E;2 AI;2 O;2 AU;2 KA;2 KHA;2 GA;2 GHA;2 NGA;2 CA;2 CHA;2 JA;2 JHA;2 NYA;2 TTA",
   "2 TTHA;2 DDA;2 DDHA;2 NNA;2 TA;2 THA;2 DA;2 DHA;2 NA;2 PA;2 PHA;2 BA;2 BHA;2 MA;2 YA;2 RA;2 LA",
   "2 LLA;2 VA;2 SHA;2 SSA;2 SA;2 HA;1 VOWEL SIGN AA;3 I;3 II;3 U;3 UU;3 VOCALIC R;4 RR;4 L;4 LL",
   "3 E;3 AI;3 O;3 AU;1 SIGN VIRAMA;2 AVAGRAHA;2 JIHVAMULIYA;2 UPADHMANIYA;1 OM;1 DANDA",
   "1 DOUBLE DANDA;1 ABBREVIATION SIGN;1 SEPARATOR;1 SANDHI MARK;1 SIGN NUKTA;1 VOWEL MODIFIER MARK",
   "1 EXTRA SHORT VOWEL MARK;1 SUTRA MARK;1 VOWEL SIGN PRISHTHAMATRA E;1 SIGN INVERTED CANDRABINDU",
   "1 DIGIT ZERO;2 ONE;2 TWO;2 THREE;2 FOUR;2 FIVE;2 SIX;2 SEVEN;2 EIGHT;2 NINE;1 EKAM",
   "1 SIGN SIDDHAM;1 HEADSTROKE;1 CONTINUATION SIGN;1 SECTION MARK-1;2 MARK-2;@111e1",
   "0 SINHALA ARCHAIC DIGIT ONE;3 TWO;3 THREE;3 FOUR;3 FIVE;3 SIX;3 SEVEN;3 EIGHT;3 NINE",
   "2 NUMBER TEN;3 TWENTY;3 THIRTY;3 FORTY;3 FIFTY;3 SIXTY;3 SEVENTY;3 EIGHTY;3 NINETY",
   "3 ONE HUNDRED;4 THOUSAND;@11200;0 KHOJKI LETTER A;2 AA;2 I;2 U;2 E;2 AI;2 O;2 AU;2 KA;2 KHA",
   "2 GA;2 GGA;2 GHA;2 NGA;2 CA;2 CHA;2 JA;2 JJA;@11213;2 NYA;2 TTA;2 TTHA;2 DDA;2 DDHA;2 NNA;2 TA",
   "2 THA;2 DA;2 DDDA;2 DHA;2 NA;2 PA;2 PHA;2 BA;2 BBA;2 BHA;2 MA;2 YA;2 RA;2 LA;2 VA;2 SA;2 HA",
   "2 LLA;1 VOWEL SIGN AA;3 I;3 II;3 U;3 E;3 AI;3 O;3 AU;1 SIGN ANUSVARA;2 VIRAMA;2 NUKTA;2 SHADDA",
   "1 DANDA;1 DOUBLE DANDA;1 WORD SEPARATOR;1 SECTION MARK;1 DOUBLE SECTION MARK",
   "1 ABBREVIATION SIGN;1 SIGN SUKUN;@11280;0 MULTANI LETTER A;2 I;2 U;2 E;2 KA;2 KHA;2 GA;@11288",
   "2 GHA;@1128a;2 CA;2 CHA;2 JA;2 JJA;@1128f;2 NYA;2 TTA;2 TTHA;2 DDA;2 DDDA;2 DDHA;2 NNA;2 TA",
   "2 THA;2 DA;2 DHA;2 NA;2 PA;2 PHA;2 BA;@1129f;2 BHA;2 MA;2 YA;2 RA;2 LA;2 VA;2 SA;2 HA;2 RRA",
   "2 RHA;1 SECTION MARK;@112b0;0 KHUDAWADI LETTER A;2 AA;2 I;2 II;2 U;2 UU;2 E;2 AI;2 O;2 AU;2 KA",
   "2 KHA;2 GA;2 GGA;2 GHA;2 NGA;2 CA;2 CHA;2 JA;2 JJA;2 JHA;2 NYA;2 TTA;2 TTHA;2 DDA;2 DDDA;2 RRA",
   "2 DDHA;2 NNA;2 TA;2 THA;2 DA;2 DHA;2 NA;2 PA;2 PHA;2 BA;2 BBA;2 BHA;2 MA;2 YA;2 RA;2 LA;2 VA",
   "2 SHA;2 SA;2 HA;1 SIGN ANUSVARA;1 VOWEL SIGN AA;3 I;3 II;3 U;3 UU;3 E;3 AI;3 O;3 AU",
   "1 SIGN NUKTA;2 VIRAMA;@112f0;1 DIGIT ZERO;2 ONE;2 TWO;2 THREE;2 FOUR;2 FIVE;2 SIX;2 SEVEN",
   "2 EIGHT;2 NINE;@11300;0 GRANTHA SIGN COMBINING ANUSVARA ABOVE;2 CANDRABINDU;2 ANUSVARA",
   "2 VISARGA;@11305;1 LETTER A;2 AA;2 I;2 II;2 U;2 UU;2 VOCALIC R;3 L;@1130f;2 EE;2 AI;@11313;2 OO",
   "2 AU;2 KA;2 KHA;2 GA;2 GHA;2 NGA;2 CA;2 CHA;2 JA;2 JHA;2 NYA;2 TTA;2 TTHA;2 DDA;2 DDHA;2 NNA",
   "2 TA;2 THA;2 DA;2 DHA;2 NA;@1132a;2 PA;2 PHA;2 BA;2 BHA;2 MA;2 YA;2 RA;@11332;2 LA;2 LLA;@11335",
   "2 VA;2 SHA;2 SSA;2 SA;2 HA;@1133b;0 COMBINING BINDU BELOW;0 GRANTHA SIGN NUKTA;2 AVAGRAHA",
   "1 VOWEL SIGN AA;3 I;3 II;3 U;3 UU;3 VOCALIC R;4 RR;@11347;3 EE;3 AI;@1134b;3 OO;3 AU",
   "1 SIGN VIRAMA;@11350;1 OM;@11357;1 AU LENGTH MARK;@1135d;1 SIGN PLUTA;1 LETTER VEDIC ANUSVARA",
   "3 DOUBLE ANUSVARA;2 VOCALIC RR;3 LL;1 VOWEL SIGN VOCALIC L;4 LL;@11366",
   "0 COMBINING GRANTHA DIGIT ZERO;3 ONE;3 TWO;3 THREE;3 FOUR;3 FIVE;3 SIX;@11370;2 LETTER A;3 KA",
   "3 NA;3 VI;3 PA;@11400;0 NEWA LETTER A;2 AA;2 I;2 II;2 U;2 UU;2 VOCALIC R;3 RR;3 L;3 LL;2 E;2 AI",
   "2 O;2 AU;2 KA;2 KHA;2 GA;2 GHA;2 NGA;2 NGHA;2 CA;2 CHA;2 JA;2 JHA;2 NYA;2 NYHA;2 TTA;2 TTHA",
   "2 DDA;2 DDHA;2 NNA;2 TA;2 THA;2 DA;2 DHA;2 NA;2 NHA;2 PA;2 PHA;2 BA;2 BHA;2 MA;2 MHA;2 YA;2 RA",
   "2 RHA;2 LA;2 LHA;2 WA;2 SHA;2 SSA;2 SA;2 HA;1 VOWEL SIGN AA;3 I;3 II;3 U;3 UU;3 VOCALIC R;4 RR",
   "4 L;4 LL;3 E;3 AI;3 O;3 AU;1 SIGN VIRAMA;2 CANDRABINDU;2 ANUSVARA;2 VISARGA;2 NUKTA;2 AVAGRAHA",
   "2 FINAL ANUSVARA;1 OM;1 SIDDHI;1 DANDA;1 DOUBLE DANDA;1 COMMA;1 GAP FILLER;1 ABBREVIATION SIGN",
   "1 DIGIT ZERO;2 ONE;2 TWO;2 THREE;2 FOUR;2 FIVE;2 SIX;2 SEVEN;2 EIGHT;2 NINE;1 DOUBLE COMMA",
   "1 PLACEHOLDER MARK;@1145d;1 INSERTION SIGN;1 SANDHI MARK;1 LETTER VEDIC ANUSVARA",
   "1 SIGN JIHVAMULIYA;2 UPADHMANIYA;@11480;0 TIRHUTA ANJI;1 LETTER A;2 AA;2 I;2 II;2 U;2 UU",
   "2 VOCALIC R;3 RR;3 L;3 LL;2 E;2 AI;2 O;2 AU;2 KA;2 KHA;2 GA;2 GHA;2 NGA;2 CA;2 CHA;2 JA;2 JHA",
   "2 NYA;2 TTA;2 TTHA;2 DDA;2 DDHA;2 NNA;2 TA;2 THA;2 DA;2 DHA;2 NA;2 PA;2 PHA;2 BA;2 BHA;2 MA",
   "2 YA;2 RA;2 LA;2 VA;2 SHA;2 SSA;2 SA;2 HA;1 VOWEL SIGN AA;3 I;3 II;3 U;3 UU;3 VOCALIC R;4 RR",
   "4 L;4 LL;3 E;3 SHORT E;3 AI;3 O;3 SHORT O;3 AU;1 SIGN CANDRABINDU;2 ANUSVARA;2 VISARGA;2 VIRAMA",
   "2 NUKTA;2 AVAGRAHA;1 GVANG;1 ABBREVIATION SIGN;1 OM;@114d0;1 DIGIT ZERO;2 ONE;2 TWO;2 THREE",
   "2 FOUR;2 FIVE;2 SIX;2 SEVEN;2 EIGHT;2 NINE;@11580;0 SIDDHAM LETTER A;2 AA;2 I;2 II;2 U;2 UU",
   "2 VOCALIC R;3 RR;3 L;3 LL;2 E;2 AI;2 O;2 AU;2 KA;2 KHA;2 GA;2 GHA;2 NGA;2 CA;2 CHA;2 JA;2 JHA",
   "2 NYA;2 TTA;2 TTHA;2 DDA;2 DDHA;2 NNA;2 TA;2 THA;2 DA;2 DHA;2 NA;2 PA;2 PHA;2 BA;2 BHA;2 MA",
   "2 YA;2 RA;2 LA;2 VA;2 SHA;2 SSA;2 SA;2 HA;1 VOWEL SIGN AA;3 I;3 II;3 U;3 UU;3 VOCALIC R;4 RR",
   "@115b8;3 E;3 AI;3 O;3 AU;1 SIGN CANDRABINDU;2 ANUSVARA;2 VISARGA;2 VIRAMA;2 NUKTA;2 SIDDHAM",
   "1 DANDA;1 DOUBLE DANDA;1 SEPARATOR DOT;2 BAR;1 REPETITION MARK-1;2 MARK-2;2 MARK-3",
   "1 END OF TEXT MARK;1 SECTION MARK WITH TRIDENT AND U-SHAPED ORNAMENTS;6 DOTTED CRESCENTS",
   "4 RAYS AND DOTTED CRESCENTS;7 DOUBLE CRESCENTS;7 TRIPLE CRESCENTS;3 DOUBLE RING;5 WITH RAYS",
   "3 WITH DOUBLE CRESCENTS;4 TRIPLE CRESCENTS;4 QUADRUPLE CRESCENTS;4 SEPTUPLE CRESCENTS",
   "4 CIRCLES AND RAYS;6 TWO ENCLOSURES;6 FOUR ENCLOSURES;1 LETTER THREE-CIRCLE ALTERNATE I",
   "2 TWO-CIRCLE ALTERNATE I;4 II;2 ALTERNATE U;1 VOWEL SIGN ALTERNATE U;4 UU;@11600",
   "0 MODI LETTER A;2 AA;2 I;2 II;2 U;2 UU;2 VOCALIC R;3 RR;3 L;3 LL;2 E;2 AI;2 O;2 AU;2 KA;2 KHA",
   "2 GA;2 GHA;2 NGA;2 CA;2 CHA;2 JA;2 JHA;2 NYA;2 TTA;2 TTHA;2 DDA;2 DDHA;2 NNA;2 TA;2 THA;2 DA",
   "2 DHA;2 NA;2 PA;2 PHA;2 BA;2 BHA;2 MA;2 YA;2 RA;2 LA;2 VA;2 SHA;2 SSA;2 SA;2 HA;2 LLA",
   "1 VOWEL SIGN AA;3 I;3 II;3 U;3 UU;3 VOCALIC R;4 RR;4 L;4 LL;3 E;3 AI;3 O;3 AU;1 SIGN ANUSVARA",
   "2 VISARGA;2 VIRAMA;2 ARDHACANDRA;1 DANDA;1 DOUBLE DANDA;1 ABBREVIATION SIGN;1 SIGN HUVA;@11650",
   "1 DIGIT ZERO;2 ONE;2 TWO;2 THREE;2 FOUR;2 FIVE;2 SIX;2 SEVEN;2 EIGHT;2 NINE;@11660",
   "0 MONGOLIAN BIRGA WITH ORNAMENT;1 ROTATED BIRGA;1 DOUBLE BIRGA WITH ORNAMENT",
   "1 TRIPLE BIRGA WITH ORNAMENT;1 BIRGA WITH DOUBLE ORNAMENT;1 ROTATED BIRGA WITH ORNAMENT",
   "4 DOUBLE ORNAMENT;1 INVERTED BIRGA;3 WITH DOUBLE ORNAMENT;1 SWIRL BIRGA;3 WITH ORNAMENT",
   "4 DOUBLE ORNAMENT;1 TURNED SWIRL BIRGA WITH DOUBLE ORNAMENT;@11680;0 TAKRI LETTER A;2 AA;2 I",
   "2 II;2 U;2 UU;2 E;2 AI;2 O;2 AU;2 KA;2 KHA;2 GA;2 GHA;2 NGA;2 CA;2 CHA;2 JA;2 JHA;2 NYA;2 TTA",
   "2 TTHA;2 DDA;2 DDHA;2 NNA;2 TA;2 THA;2 DA;2 DHA;2 NA;2 PA;2 PHA;2 BA;2 BHA;2 MA;2 YA;2 RA;2 LA",
   "2 VA;2 SHA;2 SA;2 HA;2 RRA;1 SIGN ANUSVARA;2 VISARGA;1 VOWEL SIGN AA;3 I;3 II;3 U;3 UU;3 E;3 AI",
   "3 O;3 AU;1 SIGN VIRAMA;2 NUKTA;1 LETTER ARCHAIC KHA;1 ABBREVIATION SIGN;@116c0;1 DIGIT ZERO",
   "2 ONE;2 TWO;2 THREE;2 FOUR;2 FIVE;2 SIX;2 SEVEN;2 EIGHT;2 NINE;@11700;0 AHOM LETTER KA;2 KHA",
   "2 NGA;2 NA;2 TA;2 ALTERNATE TA;2 PA;2 PHA;2 BA;2 MA;2 JA;2 CHA;2 THA;2 RA;2 LA;2 SA;2 NYA;2 HA",
   "2 A;2 DA;2 DHA;2 GA;2 ALTERNATE GA;2 GHA;2 BHA;2 JHA;2 ALTERNATE BA;@1171d",
   "1 CONSONANT SIGN MEDIAL LA;4 RA;4 LIGATING RA;1 VOWEL SIGN A;3 AA;3 I;3 II;3 U;3 UU;3 E;3 AW",
   "3 O;3 AI;3 AM;1 SIGN KILLER;@11730;1 DIGIT ZERO;2 ONE;2 TWO;2 THREE;2 FOUR;2 FIVE;2 SIX;2 SEVEN",
   "2 EIGHT;2 NINE;1 NUMBER TEN;2 TWENTY;1 SIGN SMALL SECTION;2 SECTION;2 RULAI;1 SYMBOL VI",
   "1 LETTER CA;2 TTA;2 TTHA;2 DDA;2 DDHA;2 NNA;2 LLA;@11800;0 DOGRA LETTER A;2 AA;2 I;2 II;2 U",
   "2 UU;2 E;2 AI;2 O;2 AU;2 KA;2 KHA;2 GA;2 GHA;2 NGA;2 CA;2 CHA;2 JA;2 JHA;2 NYA;2 TTA;2 TTHA",
   "2 DDA;2 DDHA;2 NNA;2 TA;2 THA;2 DA;2 DHA;2 NA;2 PA;2 PHA;2 BA;2 BHA;2 MA;2 YA;2 RA;2 LA;2 VA",
   "2 SHA;2 SSA;2 SA;2 HA;2 RRA;1 VOWEL SIGN AA;3 I;3 II;3 U;3 UU;3 VOCALIC R;4 RR;3 E;3 AI;3 O",
   "3 AU;1 SIGN ANUSVARA;2 VISARGA;2 VIRAMA;2 NUKTA;1 ABBREVIATION SIGN;@118a0",
   "0 WARANG CITI CAPITAL LETTER NGAA;4 A;4 WI;4 YU;4 YA;4 YO;4 II;4 UU;4 E;4 O;4 ANG;4 GA;4 KO",
   "4 ENY;4 YUJ;4 UC;4 ENN;4 ODD;4 TTE;4 NUNG;4 DA;4 AT;4 AM;4 BU;4 PU;4 HIYO;4 HOLO;4 HORR;4 HAR",
   "4 SSUU;4 SII;4 VIYO;2 SMALL LETTER NGAA;4 A;4 WI;4 YU;4 YA;4 YO;4 II;4 UU;4 E;4 O;4 ANG;4 GA",
   "4 KO;4 ENY;4 YUJ;4 UC;4 ENN;4 ODD;4 TTE;4 NUNG;4 DA;4 AT;4 AM;4 BU;4 PU;4 HIYO;4 HOLO;4 HORR",
   "4 HAR;4 SSUU;4 SII;4 VIYO;2 DIGIT ZERO;3 ONE;3 TWO;3 THREE;3 FOUR;3 FIVE;3 SIX;3 SEVEN;3 EIGHT",
   "3 NINE;2 NUMBER TEN;3 TWENTY;3 THIRTY;3 FORTY;3 FIFTY;3 SIXTY;3 SEVENTY;3 EIGHTY;3 NINETY",
   "@118ff;2 OM;0 DIVES AKURU LETTER A;3 AA;3 I;3 II;3 U;3 UU;3 E;@11909;3 O;@1190c;3 KA;3 KHA;3 GA",
   "3 GHA;3 NGA;3 CA;3 CHA;3 JA;@11915;3 NYA;3 TTA;@11918;3 DDA;3 DDHA;3 NNA;3 TA;3 THA;3 DA;3 DHA",
   "3 NA;3 PA;3 PHA;3 BA;3 BHA;3 MA;3 YA;3 YYA;3 RA;3 LA;3 VA;3 SHA;3 SSA;3 SA;3 HA;3 LLA;3 ZA",
   "2 VOWEL SIGN AA;4 I;4 II;4 U;4 UU;4 E;@11937;4 AI;4 O;@1193b;2 SIGN ANUSVARA;3 CANDRABINDU",
   "3 HALANTA;2 VIRAMA;2 PREFIXED NASAL SIGN;2 MEDIAL YA;2 INITIAL RA;2 MEDIAL RA;2 SIGN NUKTA",
   "2 DOUBLE DANDA;2 GAP FILLER;2 END OF TEXT MARK;@11950;2 DIGIT ZERO;3 ONE;3 TWO;3 THREE;3 FOUR",
   "3 FIVE;3 SIX;3 SEVEN;3 EIGHT;3 NINE;@119a0;0 NANDINAGARI LETTER A;2 AA;2 I;2 II;2 U;2 UU",
   "2 VOCALIC R;3 RR;@119aa;2 E;2 AI;2 O;2 AU;2 KA;2 KHA;2 GA;2 GHA;2 NGA;2 CA;2 CHA;2 JA;2 JHA",
   "2 NYA;2 TTA;2 TTHA;2 DDA;2 DDHA;2 NNA;2 TA;2 THA;2 DA;2 DHA;2 NA;2 PA;2 PHA;2 BA;2 BHA;2 MA",
   "2 YA;2 RA;2 LA;2 VA;2 SHA;2 SSA;2 SA;2 HA;2 LLA;2 RRA;1 VOWEL SIGN AA;3 I;3 II;3 U;3 UU",
   "3 VOCALIC R;4 RR;@119da;3 E;3 AI;3 O;3 AU;1 SIGN ANUSVARA;2 VISARGA;2 VIRAMA;2 AVAGRAHA",
   "2 SIDDHAM;1 HEADSTROKE;1 VOWEL SIGN PRISHTHAMATRA E;@11a00;0 ZANABAZAR SQUARE LETTER A",
   "2 VOWEL SIGN I;4 UE;4 U;4 E;4 OE;4 O;4 AI;4 AU;4 REVERSED I;3 LENGTH MARK;2 LETTER KA;3 KHA",
   "3 GA;3 GHA;3 NGA;3 CA;3 CHA;3 JA;3 NYA;3 TTA;3 TTHA;3 DDA;3 DDHA;3 NNA;3 TA;3 THA;3 DA;3 DHA",
   "3 NA;3 PA;3 PHA;3 BA;3 BHA;3 MA;3 TSA;3 TSHA;3 DZA;3 DZHA;3 ZHA;3 ZA;3 -A;3 YA;3 RA;3 LA;3 VA",
   "3 SHA;3 SSA;3 SA;3 HA;3 KSSA;2 FINAL CONSONANT MARK;2 SIGN VIRAMA;3 CANDRABINDU;4 WITH ORNAMENT",
   "3 CANDRA WITH ORNAMENT;3 ANUSVARA;3 VISARGA;2 CLUSTER-INITIAL LETTER RA",
   "2 CLUSTER-FINAL LETTER YA;4 RA;4 LA;4 VA;2 INITIAL HEAD MARK;2 CLOSING HEAD MARK;2 MARK TSHEG",
   "3 SHAD;3 DOUBLE SHAD;3 LONG TSHEG;2 INITIAL DOUBLE-LINED HEAD MARK",
   "2 CLOSING DOUBLE-LINED HEAD MARK;2 SUBJOINER;@11a50;0 SOYOMBO LETTER A;1 VOWEL SIGN I;3 UE;3 U",
   "3 E;3 O;3 OE;3 AI;3 AU;3 VOCALIC R;4 L;2 LENGTH MARK;1 LETTER KA;2 KHA;2 GA;2 GHA;2 NGA;2 CA",
   "2 CHA;2 JA;2 JHA;2 NYA;2 TTA;2 TTHA;2 DDA;2 DDHA;2 NNA;2 TA;2 THA;2 DA;2 DHA;2 NA;2 PA;2 PHA",
   "2 BA;2 BHA;2 MA;2 TSA;2 TSHA;2 DZA;2 ZHA;2 ZA;2 -A;2 YA;2 RA;2 LA;2 VA;2 SHA;2 SSA;2 SA;2 HA",
   "2 KSSA;1 SIGN JIHVAMULIYA;2 UPADHMANIYA;1 CLUSTER-INITIAL LETTER RA;3 LA;3 SHA;3 SA",
   "1 FINAL CONSONANT SIGN G;4 K;4 NG;4 D;4 N;4 B;4 M;4 R;4 L;4 SH;4 S;4 -A;1 SIGN ANUSVARA",
   "2 VISARGA;1 GEMINATION MARK;1 SUBJOINER;1 MARK TSHEG;2 SHAD;2 DOUBLE SHAD;2 PLUTA",
   "1 HEAD MARK WITH MOON AND SUN AND TRIPLE FLAME;8 FLAME;6 SUN;1 TERMINAL MARK-1;2 MARK-2;@11ab0",
   "0 CANADIAN SYLLABICS NATTILIK HI;3 HII;3 HO;3 HOO;3 HA;3 HAA;3 SHRI;3 SHRII;3 SHRO;3 SHROO",
   "3 SHRA;3 SHRAA;2 SPE;2 SPI;2 SPO;2 SPA;0 PAU CIN HAU LETTER PA;4 KA;4 LA;4 MA;4 DA;4 ZA;4 VA",
   "4 NGA;4 HA;4 GA;4 KHA;4 SA;4 BA;4 CA;4 TA;4 THA;4 NA;4 PHA;4 RA;4 FA;4 CHA;4 A;4 E;4 I;4 O;4 U",
   "4 UA;4 IA;4 FINAL P;5 K;5 T;5 M;5 N;5 L;5 W;5 NG;5 Y;3 RISING TONE LONG;4 TONE",
   "3 SANDHI GLOTTAL STOP;3 RISING TONE LONG FINAL;5 FINAL;3 SANDHI GLOTTAL STOP FINAL;4 TONE LONG",
   "4 TONE;5 LONG FINAL;5 FINAL;3 MID-LEVEL TONE;3 GLOTTAL STOP VARIANT;3 MID-LEVEL TONE LONG FINAL",
   "5 FINAL;3 LOW-FALLING TONE LONG;4 TONE;3 GLOTTAL STOP;3 LOW-FALLING TONE LONG FINAL;5 FINAL",
   "3 GLOTTAL STOP FINAL;@11c00;0 BHAIKSUKI LETTER A;2 AA;2 I;2 II;2 U;2 UU;2 VOCALIC R;3 RR;3 L",
   "@11c0a;2 E;2 AI;2 O;2 AU;2 KA;2 KHA;2 GA;2 GHA;2 NGA;2 CA;2 CHA;2 JA;2 JHA;2 NYA;2 TTA;2 TTHA",
   "2 DDA;2 DDHA;2 NNA;2 TA;2 THA;2 DA;2 DHA;2 NA;2 PA;2 PHA;2 BA;2 BHA;2 MA;2 YA;2 RA;2 LA;2 VA",
   "2 SHA;2 SSA;2 SA;2 HA;1 VOWEL SIGN AA;3 I;3 II;3 U;3 UU;3 VOCALIC R;4 RR;4 L;@11c38;3 E;3 AI",
   "3 O;3 AU;1 SIGN CANDRABINDU;2 ANUSVARA;2 VISARGA;2 VIRAMA;2 AVAGRAHA;1 DANDA;1 DOUBLE DANDA",
   "1 WORD SEPARATOR;1 GAP FILLER-1;2 FILLER-2;@11c50;1 DIGIT ZERO;2 ONE;2 TWO;2 THREE;2 FOUR",
   "2 FIVE;2 SIX;2 SEVEN;2 EIGHT;2 NINE;1 NUMBER ONE;2 TWO;2 THREE;2 FOUR;2 FIVE;2 SIX;2 SEVEN",
   "2 EIGHT;2 NINE;2 TEN;2 TWENTY;2 THIRTY;2 FORTY;2 FIFTY;2 SIXTY;2 SEVENTY;2 EIGHTY;2 NINETY",
   "1 HUNDREDS UNIT MARK;@11c70;0 MARCHEN HEAD MARK;1 MARK SHAD;1 LETTER KA;2 KHA;2 GA;2 NGA;2 CA",
   "2 CHA;2 JA;2 NYA;2 TA;2 THA;2 DA;2 NA;2 PA;2 PHA;2 BA;2 MA;2 TSA;2 TSHA;2 DZA;2 WA;2 ZHA;2 ZA",
   "2 -A;2 YA;2 RA;2 LA;2 SHA;2 SA;2 HA;2 A;@11c92;1 SUBJOINED LETTER KA;3 KHA;3 GA;3 NGA;3 CA",
   "3 CHA;3 JA;3 NYA;3 TA;3 THA;3 DA;3 NA;3 PA;3 PHA;3 BA;3 MA;3 TSA;3 TSHA;3 DZA;3 WA;3 ZHA;3 ZA",
   "@11ca9;3 YA;3 RA;3 LA;3 SHA;3 SA;3 HA;3 A;1 VOWEL SIGN AA;3 I;3 U;3 E;3 O;1 SIGN ANUSVARA",
   "2 CANDRABINDU;@11d00;0 MASARAM GONDI LETTER A;3 AA;3 I;3 II;3 U;3 UU;3 E;@11d08;3 AI;3 O;@11d0b",
   "3 AU;3 KA;3 KHA;3 GA;3 GHA;3 NGA;3 CA;3 CHA;3 JA;3 JHA;3 NYA;3 TTA;3 TTHA;3 DDA;3 DDHA;3 NNA",
   "3 TA;3 THA;3 DA;3 DHA;3 NA;3 PA;3 PHA;3 BA;3 BHA;3 MA;3 YA;3 RA;3 LA;3 VA;3 SHA;3 SSA;3 SA;3 HA",
   "3 LLA;3 KSSA;3 JNYA;3 TRA;2 VOWEL SIGN AA;4 I;4 II;4 U;4 UU;4 VOCALIC R;@11d3a;4 E;@11d3c;4 AI",
   "4 O;@11d3f;4 AU;2 SIGN ANUSVARA;3 VISARGA;3 NUKTA;3 CANDRA;3 HALANTA;2 VIRAMA;2 REPHA;2 RA-KARA",
   "@11d50;2 DIGIT ZERO;3 ONE;3 TWO;3 THREE;3 FOUR;3 FIVE;3 SIX;3 SEVEN;3 EIGHT;3 NINE;@11d60",
   "0 GUNJALA GONDI LETTER A;3 AA;3 I;3 II;3 U;3 UU;@11d67;3 EE;3 AI;@11d6a;3 OO;3 AU;3 YA;3 VA",
   "3 BA;3 BHA;3 MA;3 KA;3 KHA;3 TA;3 THA;3 LA;3 GA;3 GHA;3 DA;3 DHA;3 NA;3 CA;3 CHA;3 TTA;3 TTHA",
   "3 LLA;3 JA;3 JHA;3 DDA;3 DDHA;3 NGA;3 PA;3 PHA;3 HA;3 RA;3 SA;2 VOWEL SIGN AA;4 I;4 II;4 U;4 UU",
   "@11d90;4 EE;4 AI;@11d93;4 OO;4 AU;2 SIGN ANUSVARA;3 VISARGA;2 VIRAMA;2 OM;@11da0;2 DIGIT ZERO",
   "3 ONE;3 TWO;3 THREE;3 FOUR;3 FIVE;3 SIX;3 SEVEN;3 EIGHT;3 NINE;@11ee0;0 MAKASAR LETTER KA;2 GA",
   "2 NGA;2 PA;2 BA;2 MA;2 TA;2 DA;2 NA;2 CA;2 JA;2 NYA;2 YA;2 RA;2 LA;2 VA;2 SA;2 A;1 ANGKA",
   "1 VOWEL SIGN I;3 U;3 E;3 O;1 PASSIMBANG;1 END OF SECTION;@11fb0;0 LISU LETTER YHA;@11fc0",
   "0 TAMIL FRACTION ONE THREE-HUNDRED-AND-TWENTIETH;3 ONE-HUNDRED-AND-SIXTIETH;3 EIGHTIETH",
   "3 SIXTY-FOURTH;3 FORTIETH;3 THIRTY-SECOND;2 THREE EIGHTIETHS;3 SIXTY-FOURTHS;2 ONE TWENTIETH",
   "3 SIXTEENTH-1;3 SIXTEENTH-2;3 TENTH;3 EIGHTH;2 THREE TWENTIETHS;3 SIXTEENTHS;2 ONE FIFTH",
   "3 QUARTER;3 HALF-1;3 HALF-2;2 THREE QUARTERS;2 DOWNSCALING FACTOR KIIZH;1 SIGN NEL;2 CEVITU",
   "2 AAZHAAKKU;2 UZHAKKU;2 MUUVUZHAKKU;2 KURUNI;2 PATHAKKU;2 MUKKURUNI;2 KAACU;2 PANAM;2 PON",
   "2 VARAAKAN;2 PAARAM;2 KUZHI;2 VELI;1 WET CULTIVATION SIGN;1 DRY CULTIVATION SIGN;1 LAND SIGN",
   "1 SALT PAN SIGN;1 TRADITIONAL CREDIT SIGN;2 NUMBER SIGN;1 CURRENT SIGN;1 AND ODD SIGN",
   "1 SPENT SIGN;1 TOTAL SIGN;1 IN POSSESSION SIGN;1 STARTING FROM SIGN;1 SIGN MUTHALIYA",
   "2 VAKAIYARAA;@11fff;1 PUNCTUATION END OF TEXT"]

end FormCheck.Text
