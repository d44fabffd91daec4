/-!
# Names of letters of recent scripts

* `recentNames` — the blocks from the supplement of Bamum to Duployan, the components of Tangut
  among them.
-/

namespace FormCheck.Text

/-- The names of the characters from `0x16800` to `0x1bca3`, in the notation of tables of names. -/
def recentNames : List String :=
  ["@16800;0 BAMUM LETTER PHASE-A NGKUE MFON;3 GBIEE FON;3 PON MFON PIPAEMGBIEE;5 PIPAEMBA",
   "3 NAA MFON;3 SHUENSHUET;3 TITA MFON;3 NZA MFON;3 SHINDA PA NJI;3 PON PA NJI PIPAEMGBIEE",
   "6 PIPAEMBA;3 MAEMBGBIEE;3 TU MAEMBA;3 NGANGU;3 MAEMVEUX;3 MANSUAE;3 MVEUAENGAM;3 SEUNYAM",
   "3 NTOQPEN;3 KEUKEUTNDA;3 NKINDI;3 SUU;3 NGKUENZEUM;3 LAPAQ;3 LET KUT;3 NTAP MFAA;3 MAEKEUP",
   "3 PASHAE;3 GHEUAERAE;3 PAMSHAE;3 MON NGGEUAET;3 NZUN MEUT;3 U YUQ NAE;3 GHEUAEGHEUAE",
   "3 NTAP NTAA;3 SISA;3 MGBASA;3 MEUNJOMNDEUQ;3 MOOMPUQ;3 KAFA;3 PA LEERAEWA;3 NDA LEERAEWA;3 PET",
   "3 MAEMKPEN;3 NIKA;3 PUP;3 TUAEP;3 LUAEP;3 SONJAM;3 TEUTEUWEN;3 MAENYI;3 KET;3 NDAANGGEUAET",
   "3 KUOQ;3 MOOMEUT;3 SHUM;3 LOMMAE;3 FIRI;3 ROM;3 KPOQ;3 SOQ;3 MAP PIEET;3 SHIRAE;3 NTAP",
   "3 SHOQ NSHUT YUM;3 NYIT MONGKEUAEQ;3 PAARAE;3 NKAARAE;3 UNKNOWN;3 NGGEN;3 MAESI;3 NJAM;3 MBANYI",
   "3 NYET;3 TEUAEN;3 SOT;3 PAAM;3 NSHIEE;3 MAEM;3 NYI;3 KAQ;3 NSHA;3 VEE;3 LU;3 NEN;3 NAQ;3 MBAQ",
   "2 PHASE-B NSHUET;3 TU MAEMGBIEE;3 SIEE;3 SET TU;3 LOM NTEUM;3 MBA MAELEE;3 KIEEM;3 YEURAE",
   "3 MBAARAE;3 KAM;3 PEESHI;3 YAFU LEERAEWA;3 LAM NSHUT NYAM;3 NTIEE SHEUOQ;3 NDU NJAA",
   "3 GHEUGHEUAEM;3 PIT;3 TU NSIEE;3 SHET NJAQ;3 SHEUAEQTU;3 MFON TEUAEQ;3 MBIT MBAAKET;3 NYI NTEUM",
   "3 KEUPUQ;3 GHEUGHEN;3 KEUYEUX;3 LAANAE;3 PARUM;3 VEUM;3 NGKINDI MVOP;3 NGGEU MBU;3 WUAET",
   "3 SAKEUAE;3 TAAM;3 MEUQ;3 NGGUOQ;4 LARGE;3 MFIYAQ;3 SUE;3 MBEURI;3 MONTIEEN;3 NYAEMAE;3 PUNGAAM",
   "3 MEUT NGGEET;3 FEUX;3 MBUOQ;3 FEE;3 KEUAEM;3 MA NJEUAENA;4 NJUQA;3 LET;3 NGGAAM;3 NSEN;3 MA",
   "3 KIQ;3 NGOM;2 PHASE-C NGKUE MAEMBA;3 NZA;3 YUM;3 WANGKUOQ;3 NGGEN;3 NDEUAEREE;3 NGKAQ;3 GHARAE",
   "3 MBEEKEET;3 GBAYI;3 NYIR MKPARAQ MEUN;3 NTU MBIT;3 MBEUM;3 PIRIEEN;3 NDOMBU",
   "3 MBAA CABBAGE-TREE;3 KEUSHEUAEP;3 GHAP;3 KEUKAQ;3 YU MUOMAE;3 NZEUM;3 MBUE;3 NSEUAEN;3 MBIT",
   "3 YEUQ;3 KPARAQ;3 KAA;3 SEUX;3 NDIDA;3 TAASHAE;3 NJUEQ;3 TITA YUE;3 SUAET;3 NGGUAEN NYAM;3 VEUX",
   "3 NANSANAQ;3 MA KEUAERI;3 NTAA;3 NGGUON;3 LAP;3 MBIRIEEN;3 MGBASAQ;3 NTEUNGBA;3 TEUTEUX;3 NGGUM",
   "3 FUE;3 NDEUT;3 NSA;3 NSHAQ;3 BUNG;3 VEUAEPEN;3 MBERAE;3 RU;3 NJAEM;3 LAM;3 TITUAEP",
   "3 NSUOT NGOM;3 NJEEEE;3 KET;3 NGGU;3 MAESI;3 MBUAEM;3 LU;3 KUT;3 NJAM;3 NGOM;3 WUP;3 NGGUEET",
   "3 NSOM;3 NTEN;3 KUOP NKAARAE;3 NSUN;3 NDAM;3 MA NSIEE;3 YAA;3 NDAP;3 SHUEQ;3 SETFON;3 MBI",
   "3 MAEMBA;3 MBANYI;3 KEUSEUX;3 MBEUX;3 KEUM;3 MBAA PICKET;3 YUWOQ;3 NJEUX;3 MIEE;3 MUAE;3 SHIQ",
   "3 KEN LAW;4 FATIGUE;3 NGAQ;3 NAQ;3 LIQ;3 PIN;3 PEN;3 TET;2 PHASE-D MBUO;3 WAP;3 NJI;3 MFON",
   "3 NJIEE;3 LIEE;3 NJEUT;3 NSHEE;3 NGGAAMAE;3 NYAM;3 WUAEN;3 NGKUN;3 SHEE;3 NGKAP;3 KEUAETMEUN",
   "3 TEUT;3 SHEUAE;3 NJAP;3 SUE;3 KET;3 YAEMMAE;3 KUOM;3 SAP;3 MFEUT;3 NDEUX;3 MALEERI;3 MEUT",
   "3 SEUAEQ;3 YEN;3 NJEUAEM;3 KEUOT MBUAE;3 NGKEURI;3 TU;3 GHAA;3 NGKYEE;3 FEUFEUAET;3 NDEE",
   "3 MGBOFUM;3 LEUAEP;3 NDON;3 MONI;3 MGBEUN;3 PUUT;3 MGBIEE;3 MFO;3 LUM;3 NSIEEP;3 MBAA;3 KWAET",
   "3 NYET;3 TEUAEN;3 SOT;3 YUWOQ;3 KEUM;3 RAEM;3 TEEEE;3 NGKEUAEQ;3 MFEUAE;3 NSIEET;3 KEUP;3 PIP",
   "3 PEUTAE;3 NYUE;3 LET;3 NGGAAM;3 MFIEE;3 NGGWAEN;3 YUOM;3 PAP;3 YUOP;3 NDAM;3 NTEUM;3 SUAE",
   "3 KUN;3 NGGEUX;3 NGKIEE;3 TUOT;3 MEUN;3 KUQ;3 NSUM;3 TEUN;3 MAENJET;3 NGGAP;3 LEUM;3 NGGUOM",
   "3 NSHUT;3 NJUEQ;3 GHEUAE;3 KU;3 REN OLD;3 TAE;3 TOQ;3 NYI;3 RII;3 LEEEE;3 MEEEE;3 M;3 SUU;3 MU",
   "3 SHII;3 SHEUX;3 KYEE;3 NU;3 SHU;3 NTEE;3 PEE;3 NI;3 SHOQ;3 PUQ;3 MVOP;3 LOQ;3 REN MUCH;3 TI",
   "3 NTUU;3 MBAA SEVEN;3 SAQ;3 FAA;2 PHASE-E NDAP;3 TOON;3 MBEUM;3 LAP;3 VOM;3 LOON;3 PAA;3 SOM",
   "3 RAQ;3 NSHUOP;3 NDUN;3 PUAE;3 TAM;3 NGKA;3 KPEUX;3 WUO;3 SEE;3 NGGEUAET;3 PAAM;3 TOO;3 KUOP",
   "3 LOM;3 NSHIEE;3 NGOP;3 MAEM;3 NGKEUX;3 NGOQ;3 NSHUE;3 RIMGBA;3 NJEUX;3 PEEM;3 SAA;3 NGGURAE",
   "3 MGBA;3 GHEUX;3 NGKEUAEM;3 NJAEMLI;3 MAP;3 LOOT;3 NGGEEEE;3 NDIQ;3 TAEN NTEUM;3 SET;3 PUM",
   "3 NDAA SOFTNESS;3 NGGUAESHAE NYAM;3 YIEE;3 GHEUN;3 TUAE;3 YEUAE;3 PO;3 TUMAE;3 KEUAE;3 SUAEN",
   "3 TEUAEQ;3 VEUAE;3 WEUX;3 LAAM;3 PU;3 TAAQ;3 GHAAMAE;3 NGEUREUT;3 SHEUAEQ;3 MGBEN;3 MBEE;3 NZAQ",
   "3 NKOM;3 GBET;3 TUM;3 KUET;3 YAP;3 NYI CLEAVER;3 YIT;3 MFEUQ;3 NDIAQ;3 PIEEQ;3 YUEQ;3 LEUAEM",
   "3 FUE;3 GBEUX;3 NGKUP;3 KET;3 MAE;3 NGKAAMI;3 GHET;3 FA;3 NTUM;3 PEUT;3 YEUM;3 NGGEUAE",
   "3 NYI BETWEEN;3 NZUQ;3 POON;3 MIEE;3 FUET;3 NAE;3 MUAE;3 GHEUAE;3 FU I;3 MVI;3 PUAQ;3 NGKUM",
   "3 KUT;3 PIET;3 NTAP;3 YEUAET;3 NGGUP;3 PA PEOPLE;3 FU CALL;3 FOM;3 NJEE;3 A;3 TOQ;3 O;3 I;3 LAQ",
   "3 PA PLURAL;3 TAA;3 TAQ;3 NDAA MY HOUSE;3 SHIQ;3 YEUX;3 NGUAE;3 YUAEN;3 YOQ SWIMMING;4 COVER",
   "3 YUQ;3 YUN;3 KEUX;3 PEUX;3 NJEE EPOCH;3 PUE;3 WUE;3 FEE;3 VEE;3 LU;3 MI;3 REUX;3 RAE;3 NGUAET",
   "3 NGA;3 SHO;3 SHOQ;3 FU REMEDY;3 NA;3 PI;3 LOQ;3 KO;3 MEN;3 MA;3 MAQ;3 TEU;3 KI;3 MON;3 TEN",
   "3 FAQ;3 GHOM;2 PHASE-F KA;3 U;3 KU;3 EE;3 REE;3 TAE;3 NYI;3 LA;3 RII;3 RIEE;3 MEEEE;3 TAA",
   "3 NDAA;3 NJAEM;3 M;3 SUU;3 SHII;3 SI;3 SEUX;3 KYEE;3 KET;3 NUAE;3 NU;3 NJUAE;3 YOQ;3 SHU;3 YA",
   "3 NSHA;3 PEUX;3 NTEE;3 WUE;3 PEE;3 RU;3 NI;3 REUX;3 KEN;3 NGKWAEN;3 NGGA;3 SHO;3 PUAE;3 FOM",
   "3 WA;3 LI;3 LOQ;3 KO;3 MBEN;3 REN;3 MA;3 MO;3 MBAA;3 TET;3 KPA;3 SAMBA;3 VUEQ;@16a40",
   "0 MRO LETTER TA;2 NGI;2 YO;2 MIM;2 BA;2 DA;2 A;2 PHI;2 KHAI;2 HAO;2 DAI;2 CHU;2 KEAAE;2 OL",
   "2 MAEM;2 NIN;2 PA;2 OO;2 O;2 RO;2 SHI;2 THEA;2 EA;2 WA;2 E;2 KO;2 LAN;2 LA;2 HAI;2 RI;2 TEK",
   "@16a60;1 DIGIT ZERO;2 ONE;2 TWO;2 THREE;2 FOUR;2 FIVE;2 SIX;2 SEVEN;2 EIGHT;2 NINE;@16a6e",
   "1 DANDA;1 DOUBLE DANDA;0 TANGSA LETTER OZ;2 OC;2 OQ;2 OX;2 AZ;2 AC;2 AQ;2 AX;2 VZ;2 VC;2 VQ",
   "2 VX;2 EZ;2 EC;2 EQ;2 EX;2 IZ;2 IC;2 IQ;2 IX;2 UZ;2 UC;2 UQ;2 UX;2 AWZ;2 AWC;2 AWQ;2 AWX;2 UIZ",
   "2 UIC;2 UIQ;2 UIX;2 FINAL NG;2 LONG UEX;2 SHORT UEZ;3 AWX;2 UEC;2 UEZ;2 UEQ;2 UEX;2 UIUZ;2 UIUC",
   "2 UIUQ;2 UIUX;2 MZ;2 MC;2 MQ;2 MX;2 KA;2 KHA;2 GA;2 NGA;2 SA;2 YA;2 WA;2 PA;2 NYA;2 PHA;2 BA",
   "2 MA;2 NA;2 HA;2 LA;2 HTA;2 TA;2 DA;2 RA;2 NHA;2 SHA;2 CA;2 TSA;2 GHA;2 HTTA;2 THA;2 XA;2 FA",
   "2 DHA;2 CHA;2 ZA;@16ac0;1 DIGIT ZERO;2 ONE;2 TWO;2 THREE;2 FOUR;2 FIVE;2 SIX;2 SEVEN;2 EIGHT",
   "2 NINE;@16ad0;0 BASSA VAH LETTER ENNI;3 KA;3 SE;3 FA;3 MBE;3 YIE;3 GAH;3 DHII;3 KPAH;3 JO",
   "3 HWAH;3 WA;3 ZO;3 GBU;3 DO;3 CE;3 UWU;3 TO;3 BA;3 VU;3 YEIN;3 PA;3 WADDA;3 A;3 O;3 OO;3 U;3 EE",
   "3 E;3 I;@16af0;2 COMBINING HIGH TONE;3 LOW TONE;3 MID TONE;3 LOW-MID TONE;3 HIGH-LOW TONE",
   "2 FULL STOP;@16b00;0 PAHAWH HMONG VOWEL KEEB;3 KEEV;3 KIB;3 KIV;3 KAUB;3 KAUV;3 KUB;3 KUV;3 KEB",
   "3 KEV;3 KAIB;3 KAIV;3 KOOB;3 KOOV;3 KAWB;3 KAWV;3 KUAB;3 KUAV;3 KOB;3 KOV;3 KIAB;3 KIAV;3 KAB",
   "3 KAV;3 KWB;3 KWV;3 KAAB;3 KAAV;2 CONSONANT VAU;3 NTSAU;3 LAU;3 HAU;3 NLAU;3 RAU;3 NKAU;3 QHAU",
   "3 YAU;3 HLAU;3 MAU;3 CHAU;3 NCHAU;3 HNAU;3 PLHAU;3 NTHAU;3 NAU;3 AU;3 XAU;3 CAU;2 MARK CIM TUB",
   "4 SO;4 KES;4 KHAV;4 SUAM;4 HOM;4 TAUM;2 SIGN VOS THOM;4 TSHAB CEEB;3 CIM CHEEM;3 VOS THIAB",
   "4 FEEM;3 XYEEM NTXIV;4 RHO;4 TOV;4 FAIB;3 VOS SEEV;3 MEEJ SUAB;3 VOS NRUA;3 IB YAM;3 XAUS",
   "3 CIM TSOV ROG;@16b50;2 DIGIT ZERO;3 ONE;3 TWO;3 THREE;3 FOUR;3 FIVE;3 SIX;3 SEVEN;3 EIGHT",
   "3 NINE;@16b5b;2 NUMBER TENS;3 HUNDREDS;3 TEN THOUSANDS;3 MILLIONS;3 HUNDRED MILLIONS",
   "3 TEN BILLIONS;3 TRILLIONS;@16b63;2 SIGN VOS LUB;3 XYOO;3 HLI;3 THIRD-STAGE HLI;3 ZWJ THAJ",
   "3 HNUB;3 NQIG;3 XIAB;3 NTUJ;3 AV;3 TXHEEJ CEEV;3 MEEJ TSEEB;3 TAU;3 LOS;3 MUS",
   "3 CIM HAIS LUS NTOG NTOG;4 CUAM TSHOOJ;4 TXWV;5 CHWV;4 PUB DAWB;4 NRES TOS;@16b7d",
   "2 CLAN SIGN TSHEEJ;4 YEEG;4 LIS;4 LAUJ;4 XYOOJ;4 KOO;4 HAWJ;4 MUAS;4 THOJ;4 TSAB;4 PHAB;4 KHAB",
   "4 HAM;4 VAJ;4 FAJ;4 YAJ;4 TSWB;4 KWM;4 VWJ;@16e40;0 MEDEFAIDRIN CAPITAL LETTER M;3 S;3 V;3 W",
   "3 ATIU;3 Z;3 KP;3 P;3 T;3 G;3 F;3 I;3 K;3 A;3 J;3 E;3 B;3 C;3 U;3 YU;3 L;3 Q;3 HP;3 NY;3 X;3 D",
   "3 OE;3 N;3 R;3 O;3 AI;3 Y;1 SMALL LETTER M;3 S;3 V;3 W;3 ATIU;3 Z;3 KP;3 P;3 T;3 G;3 F;3 I;3 K",
   "3 A;3 J;3 E;3 B;3 C;3 U;3 YU;3 L;3 Q;3 HP;3 NY;3 X;3 D;3 OE;3 N;3 R;3 O;3 AI;3 Y;1 DIGIT ZERO",
   "2 ONE;2 TWO;2 THREE;2 FOUR;2 FIVE;2 SIX;2 SEVEN;2 EIGHT;2 NINE;1 NUMBER TEN;2 ELEVEN;2 TWELVE",
   "2 THIRTEEN;2 FOURTEEN;2 FIFTEEN;2 SIXTEEN;2 SEVENTEEN;2 EIGHTEEN;2 NINETEEN",
   "1 DIGIT ONE ALTERNATE FORM;2 TWO ALTERNATE FORM;2 THREE ALTERNATE FORM;1 COMMA;1 FULL STOP",
   "1 SYMBOL AIVA;1 EXCLAMATION OH;@16f00;0 MIAO LETTER PA;2 BA;2 YI PA;2 PLA;2 MA;2 MHA",
   "2 ARCHAIC MA;2 FA;2 VA;2 VFA;2 TA;2 DA;2 YI TTA;3 TA;2 TTA;2 DDA;2 NA;2 NHA;2 YI NNA",
   "2 ARCHAIC NA;2 NNA;2 NNHA;2 LA;2 LYA;2 LHA;2 LHYA;2 TLHA;2 DLHA;2 TLHYA;2 DLHYA;2 KA;2 GA",
   "2 YI KA;2 QA;2 QGA;2 NGA;2 NGHA;2 ARCHAIC NGA;2 HA;2 XA;2 GHA;2 GHHA;2 TSSA;2 DZZA;2 NYA;2 NYHA",
   "2 TSHA;2 DZHA;2 YI TSHA;3 DZHA;2 REFORMED TSHA;2 SHA;2 SSA;2 ZHA;2 ZSHA;2 TSA;2 DZA;2 YI TSA",
   "2 SA;2 ZA;2 ZSA;2 ZZA;2 ZZSA;2 ARCHAIC ZZA;2 ZZYA;2 ZZSYA;2 WA;2 AH;2 HHA;2 BRI;2 SYI;2 DZYI",
   "2 TE;2 TSE;2 RTE;@16f4f;1 SIGN CONSONANT MODIFIER BAR;1 LETTER NASALIZATION;1 SIGN ASPIRATION",
   "2 REFORMED VOICING;3 ASPIRATION;1 VOWEL SIGN A;3 AA;3 AHH;3 AN;3 ANG;3 O;3 OO;3 WO;3 W;3 E;3 EN",
   "3 ENG;3 OEY;3 I;3 IA;3 IAN;3 IANG;3 IO;3 IE;3 II;3 IU;3 ING;3 U;3 UA;3 UAN;3 UANG;3 UU;3 UEI",
   "3 UNG;3 Y;3 YI;3 AE;3 AEE;3 ERR;3 ROUNDED ERR;3 ER;3 ROUNDED ER;3 AI;3 EI;3 AU;3 OU;3 N;3 NG",
   "3 UOG;3 YUI;3 OG;3 OER;3 VW;3 IG;3 EA;3 IONG;3 UI;@16f8f;1 TONE RIGHT;2 TOP RIGHT;2 ABOVE",
   "2 BELOW;1 LETTER TONE-2;2 TONE-3;2 TONE-4;2 TONE-5;2 TONE-6;2 TONE-7;2 TONE-8;2 REFORMED TONE-1",
   "3 TONE-2;3 TONE-4;3 TONE-5;3 TONE-6;3 TONE-8;@16fe0;0 TANGUT ITERATION MARK",
   "0 NUSHU ITERATION MARK;0 OLD CHINESE HOOK MARK;2 ITERATION MARK;0 KHITAN SMALL SCRIPT FILLER",
   "@16ff0;0 VIETNAMESE ALTERNATE READING MARK CA;4 NHAY;@18800;0 TANGUT COMPONENT-001",
   "1 COMPONENT-002;1 COMPONENT-003;1 COMPONENT-004;1 COMPONENT-005;1 COMPONENT-006;1 COMPONENT-007",
   "1 COMPONENT-008;1 COMPONENT-009;1 COMPONENT-010;1 COMPONENT-011;1 COMPONENT-012;1 COMPONENT-013",
   "1 COMPONENT-014;1 COMPONENT-015;1 COMPONENT-016;1 COMPONENT-017;1 COMPONENT-018;1 COMPONENT-019",
   "1 COMPONENT-020;1 COMPONENT-021;1 COMPONENT-022;1 COMPONENT-023;1 COMPONENT-024;1 COMPONENT-025",
   "1 COMPONENT-026;1 COMPONENT-027;1 COMPONENT-028;1 COMPONENT-029;1 COMPONENT-030;1 COMPONENT-031",
   "1 COMPONENT-032;1 COMPONENT-033;1 COMPONENT-034;1 COMPONENT-035;1 COMPONENT-036;1 COMPONENT-037",
   "1 COMPONENT-038;1 COMPONENT-039;1 COMPONENT-040;1 COMPONENT-041;1 COMPONENT-042;1 COMPONENT-043",
   "1 COMPONENT-044;1 COMPONENT-045;1 COMPONENT-046;1 COMPONENT-047;1 COMPONENT-048;1 COMPONENT-049",
   "1 COMPONENT-050;1 COMPONENT-051;1 COMPONENT-052;1 COMPONENT-053;1 COMPONENT-054;1 COMPONENT-055",
   "1 COMPONENT-056;1 COMPONENT-057;1 COMPONENT-058;1 COMPONENT-059;1 COMPONENT-060;1 COMPONENT-061",
   "1 COMPONENT-062;1 COMPONENT-063;1 COMPONENT-064;1 COMPONENT-065;1 COMPONENT-066;1 COMPONENT-067",
   "1 COMPONENT-068;1 COMPONENT-069;1 COMPONENT-070;1 COMPONENT-071;1 COMPONENT-072;1 COMPONENT-073",
   "1 COMPONENT-074;1 COMPONENT-075;1 COMPONENT-076;1 COMPONENT-077;1 COMPONENT-078;1 COMPONENT-079",
   "1 COMPONENT-080;1 COMPONENT-081;1 COMPONENT-082;1 COMPONENT-083;1 COMPONENT-084;1 COMPONENT-085",
   "1 COMPONENT-086;1 COMPONENT-087;1 COMPONENT-088;1 COMPONENT-089;1 COMPONENT-090;1 COMPONENT-091",
   "1 COMPONENT-092;1 COMPONENT-093;1 COMPONENT-094;1 COMPONENT-095;1 COMPONENT-096;1 COMPONENT-097",
   "1 COMPONENT-098;1 COMPONENT-099;1 COMPONENT-100;1 COMPONENT-101;1 COMPONENT-102;1 COMPONENT-103",
   "1 COMPONENT-104;1 COMPONENT-105;1 COMPONENT-106;1 COMPONENT-107;1 COMPONENT-108;1 COMPONENT-109",
   "1 COMPONENT-110;1 COMPONENT-111;1 COMPONENT-112;1 COMPONENT-113;1 COMPONENT-114;1 COMPONENT-115",
   "1 COMPONENT-116;1 COMPONENT-117;1 COMPONENT-118;1 COMPONENT-119;1 COMPONENT-120;1 COMPONENT-121",
   "1 COMPONENT-122;1 COMPONENT-123;1 COMPONENT-124;1 COMPONENT-125;1 COMPONENT-126;1 COMPONENT-127",
   "1 COMPONENT-128;1 COMPONENT-129;1 COMPONENT-130;1 COMPONENT-131;1 COMPONENT-132;1 COMPONENT-133",
   "1 COMPONENT-134;1 COMPONENT-135;1 COMPONENT-136;1 COMPONENT-137;1 COMPONENT-138;1 COMPONENT-139",
   "1 COMPONENT-140;1 COMPONENT-141;1 COMPONENT-142;1 COMPONENT-143;1 COMPONENT-144;1 COMPONENT-145",
   "1 COMPONENT-146;1 COMPONENT-147;1 COMPONENT-148;1 COMPONENT-149;1 COMPONENT-150;1 COMPONENT-151",
   "1 COMPONENT-152;1 COMPONENT-153;1 COMPONENT-154;1 COMPONENT-155;1 COMPONENT-156;1 COMPONENT-157",
   "1 COMPONENT-158;1 COMPONENT-159;1 COMPONENT-160;1 COMPONENT-161;1 COMPONENT-162;1 COMPONENT-163",
   "1 COMPONENT-164;1 COMPONENT-165;1 COMPONENT-166;1 COMPONENT-167;1 COMPONENT-168;1 COMPONENT-169",
   "1 COMPONENT-170;1 COMPONENT-171;1 COMPONENT-172;1 COMPONENT-173;1 COMPONENT-174;1 COMPONENT-175",
   "1 COMPONENT-176;1 COMPONENT-177;1 COMPONENT-178;1 COMPONENT-179;1 COMPONENT-180;1 COMPONENT-181",
   "1 COMPONENT-182;1 COMPONENT-183;1 COMPONENT-184;1 COMPONENT-185;1 COMPONENT-186;1 COMPONENT-187",
   "1 COMPONENT-188;1 COMPONENT-189;1 COMPONENT-190;1 COMPONENT-191;1 COMPONENT-192;1 COMPONENT-193",
   "1 COMPONENT-194;1 COMPONENT-195;1 COMPONENT-196;1 COMPONENT-197;1 COMPONENT-198;1 COMPONENT-199",
   "1 COMPONENT-200;1 COMPONENT-201;1 COMPONENT-202;1 COMPONENT-203;1 COMPONENT-204;1 COMPONENT-205",
   "1 COMPONENT-206;1 COMPONENT-207;1 COMPONENT-208;1 COMPONENT-209;1 COMPONENT-210;1 COMPONENT-211",
   "1 COMPONENT-212;1 COMPONENT-213;1 COMPONENT-214;1 COMPONENT-215;1 COMPONENT-216;1 COMPONENT-217",
   "1 COMPONENT-218;1 COMPONENT-219;1 COMPONENT-220;1 COMPONENT-221;1 COMPONENT-222;1 COMPONENT-223",
   "1 COMPONENT-224;1 COMPONENT-225;1 COMPONENT-226;1 COMPONENT-227;1 COMPONENT-228;1 COMPONENT-229",
   "1 COMPONENT-230;1 COMPONENT-231;1 COMPONENT-232;1 COMPONENT-233;1 COMPONENT-234;1 COMPONENT-235",
   "1 COMPONENT-236;1 COMPONENT-237;1 COMPONENT-238;1 COMPONENT-239;1 COMPONENT-240;1 COMPONENT-241",
   "1 COMPONENT-242;1 COMPONENT-243;1 COMPONENT-244;1 COMPONENT-245;1 COMPONENT-246;1 COMPONENT-247",
   "1 COMPONENT-248;1 COMPONENT-249;1 COMPONENT-250;1 COMPONENT-251;1 COMPONENT-252;1 COMPONENT-253",
   "1 COMPONENT-254;1 COMPONENT-255;1 COMPONENT-256;1 COMPONENT-257;1 COMPONENT-258;1 COMPONENT-259",
   "1 COMPONENT-260;1 COMPONENT-261;1 COMPONENT-262;1 COMPONENT-263;1 COMPONENT-264;1 COMPONENT-265",
   "1 COMPONENT-266;1 COMPONENT-267;1 COMPONENT-268;1 COMPONENT-269;1 COMPONENT-270;1 COMPONENT-271",
   "1 COMPONENT-272;1 COMPONENT-273;1 COMPONENT-274;1 COMPONENT-275;1 COMPONENT-276;1 COMPONENT-277",
   "1 COMPONENT-278;1 COMPONENT-279;1 COMPONENT-280;1 COMPONENT-281;1 COMPONENT-282;1 COMPONENT-283",
   "1 COMPONENT-284;1 COMPONENT-285;1 COMPONENT-286;1 COMPONENT-287;1 COMPONENT-288;1 COMPONENT-289",
   "1 COMPONENT-290;1 COMPONENT-291;1 COMPONENT-292;1 COMPONENT-293;1 COMPONENT-294;1 COMPONENT-295",
   "1 COMPONENT-296;1 COMPONENT-297;1 COMPONENT-298;1 COMPONENT-299;1 COMPONENT-300;1 COMPONENT-301",
   "1 COMPONENT-302;1 COMPONENT-303;1 COMPONENT-304;1 COMPONENT-305;1 COMPONENT-306;1 COMPONENT-307",
   "1 COMPONENT-308;1 COMPONENT-309;1 COMPONENT-310;1 COMPONENT-311;1 COMPONENT-312;1 COMPONENT-313",
   "1 COMPONENT-314;1 COMPONENT-315;1 COMPONENT-316;1 COMPONENT-317;1 COMPONENT-318;1 COMPONENT-319",
   "1 COMPONENT-320;1 COMPONENT-321;1 COMPONENT-322;1 COMPONENT-323;1 COMPONENT-324;1 COMPONENT-325",
   "1 COMPONENT-326;1 COMPONENT-327;1 COMPONENT-328;1 COMPONENT-329;1 COMPONENT-330;1 COMPONENT-331",
   "1 COMPONENT-332;1 COMPONENT-333;1 COMPONENT-334;1 COMPONENT-335;1 COMPONENT-336;1 COMPONENT-337",
   "1 COMPONENT-338;1 COMPONENT-339;1 COMPONENT-340;1 COMPONENT-341;1 COMPONENT-342;1 COMPONENT-343",
   "1 COMPONENT-344;1 COMPONENT-345;1 COMPONENT-346;1 COMPONENT-347;1 COMPONENT-348;1 COMPONENT-349",
   "1 COMPONENT-350;1 COMPONENT-351;1 COMPONENT-352;1 COMPONENT-353;1 COMPONENT-354;1 COMPONENT-355",
   "1 COMPONENT-356;1 COMPONENT-357;1 COMPONENT-358;1 COMPONENT-359;1 COMPONENT-360;1 COMPONENT-361",
   "1 COMPONENT-362;1 COMPONENT-363;1 COMPONENT-364;1 COMPONENT-365;1 COMPONENT-366;1 COMPONENT-367",
   "1 COMPONENT-368;1 COMPONENT-369;1 COMPONENT-370;1 COMPONENT-371;1 COMPONENT-372;1 COMPONENT-373",
   "1 COMPONENT-374;1 COMPONENT-375;1 COMPONENT-376;1 COMPONENT-377;1 COMPONENT-378;1 COMPONENT-379",
   "1 COMPONENT-380;1 COMPONENT-381;1 COMPONENT-382;1 COMPONENT-383;1 COMPONENT-384;1 COMPONENT-385",
   "1 COMPONENT-386;1 COMPONENT-387;1 COMPONENT-388;1 COMPONENT-389;1 COMPONENT-390;1 COMPONENT-391",
   "1 COMPONENT-392;1 COMPONENT-393;1 COMPONENT-394;1 COMPONENT-395;1 COMPONENT-396;1 COMPONENT-397",
   "1 COMPONENT-398;1 COMPONENT-399;1 COMPONENT-400;1 COMPONENT-401;1 COMPONENT-402;1 COMPONENT-403",
   "1 COMPONENT-404;1 COMPONENT-405;1 COMPONENT-406;1 COMPONENT-407;1 COMPONENT-408;1 COMPONENT-409",
   "1 COMPONENT-410;1 COMPONENT-411;1 COMPONENT-412;1 COMPONENT-413;1 COMPONENT-414;1 COMPONENT-415",
   "1 COMPONENT-416;1 COMPONENT-417;1 COMPONENT-418;1 COMPONENT-419;1 COMPONENT-420;1 COMPONENT-421",
   "1 COMPONENT-422;1 COMPONENT-423;1 COMPONENT-424;1 COMPONENT-425;1 COMPONENT-426;1 COMPONENT-427",
   "1 COMPONENT-428;1 COMPONENT-429;1 COMPONENT-430;1 COMPONENT-431;1 COMPONENT-432;1 COMPONENT-433",
   "1 COMPONENT-434;1 COMPONENT-435;1 COMPONENT-436;1 COMPONENT-437;1 COMPONENT-438;1 COMPONENT-439",
   "1 COMPONENT-440;1 COMPONENT-441;1 COMPONENT-442;1 COMPONENT-443;1 COMPONENT-444;1 COMPONENT-445",
   "1 COMPONENT-446;1 COMPONENT-447;1 COMPONENT-448;1 COMPONENT-449;1 COMPONENT-450;1 COMPONENT-451",
   "1 COMPONENT-452;1 COMPONENT-453;1 COMPONENT-454;1 COMPONENT-455;1 COMPONENT-456;1 COMPONENT-457",
   "1 COMPONENT-458;1 COMPONENT-459;1 COMPONENT-460;1 COMPONENT-461;1 COMPONENT-462;1 COMPONENT-463",
   "1 COMPONENT-464;1 COMPONENT-465;1 COMPONENT-466;1 COMPONENT-467;1 COMPONENT-468;1 COMPONENT-469",
   "1 COMPONENT-470;1 COMPONENT-471;1 COMPONENT-472;1 COMPONENT-473;1 COMPONENT-474;1 COMPONENT-475",
   "1 COMPONENT-476;1 COMPONENT-477;1 COMPONENT-478;1 COMPONENT-479;1 COMPONENT-480;1 COMPONENT-481",
   "1 COMPONENT-482;1 COMPONENT-483;1 COMPONENT-484;1 COMPONENT-485;1 COMPONENT-486;1 COMPONENT-487",
   "1 COMPONENT-488;1 COMPONENT-489;1 COMPONENT-490;1 COMPONENT-491;1 COMPONENT-492;1 COMPONENT-493",
   "1 COMPONENT-494;1 COMPONENT-495;1 COMPONENT-496;1 COMPONENT-497;1 COMPONENT-498;1 COMPONENT-499",
   "1 COMPONENT-500;1 COMPONENT-501;1 COMPONENT-502;1 COMPONENT-503;1 COMPONENT-504;1 COMPONENT-505",
   "1 COMPONENT-506;1 COMPONENT-507;1 COMPONENT-508;1 COMPONENT-509;1 COMPONENT-510;1 COMPONENT-511",
   "1 COMPONENT-512;1 COMPONENT-513;1 COMPONENT-514;1 COMPONENT-515;1 COMPONENT-516;1 COMPONENT-517",
   "1 COMPONENT-518;1 COMPONENT-519;1 COMPONENT-520;1 COMPONENT-521;1 COMPONENT-522;1 COMPONENT-523",
   "1 COMPONENT-524;1 COMPONENT-525;1 COMPONENT-526;1 COMPONENT-527;1 COMPONENT-528;1 COMPONENT-529",
   "1 COMPONENT-530;1 COMPONENT-531;1 COMPONENT-532;1 COMPONENT-533;1 COMPONENT-534;1 COMPONENT-535",
   "1 COMPONENT-536;1 COMPONENT-537;1 COMPONENT-538;1 COMPONENT-539;1 COMPONENT-540;1 COMPONENT-541",
   "1 COMPONENT-542;1 COMPONENT-543;1 COMPONENT-544;1 COMPONENT-545;1 COMPONENT-546;1 COMPONENT-547",
   "1 COMPONENT-548;1 COMPONENT-549;1 COMPONENT-550;1 COMPONENT-551;1 COMPONENT-552;1 COMPONENT-553",
   "1 COMPONENT-554;1 COMPONENT-555;1 COMPONENT-556;1 COMPONENT-557;1 COMPONENT-558;1 COMPONENT-559",
   "1 COMPONENT-560;1 COMPONENT-561;1 COMPONENT-562;1 COMPONENT-563;1 COMPONENT-564;1 COMPONENT-565",
   "1 COMPONENT-566;1 COMPONENT-567;1 COMPONENT-568;1 COMPONENT-569;1 COMPONENT-570;1 COMPONENT-571",
   "1 COMPONENT-572;1 COMPONENT-573;1 COMPONENT-574;1 COMPONENT-575;1 COMPONENT-576;1 COMPONENT-577",
   "1 COMPONENT-578;1 COMPONENT-579;1 COMPONENT-580;1 COMPONENT-581;1 COMPONENT-582;1 COMPONENT-583",
   "1 COMPONENT-584;1 COMPONENT-585;1 COMPONENT-586;1 COMPONENT-587;1 COMPONENT-588;1 COMPONENT-589",
   "1 COMPONENT-590;1 COMPONENT-591;1 COMPONENT-592;1 COMPONENT-593;1 COMPONENT-594;1 COMPONENT-595",
   "1 COMPONENT-596;1 COMPONENT-597;1 COMPONENT-598;1 COMPONENT-599;1 COMPONENT-600;1 COMPONENT-601",
   "1 COMPONENT-602;1 COMPONENT-603;1 COMPONENT-604;1 COMPONENT-605;1 COMPONENT-606;1 COMPONENT-607",
   "1 COMPONENT-608;1 COMPONENT-609;1 COMPONENT-610;1 COMPONENT-611;1 COMPONENT-612;1 COMPONENT-613",
   "1 COMPONENT-614;1 COMPONENT-615;1 COMPONENT-616;1 COMPONENT-617;1 COMPONENT-618;1 COMPONENT-619",
   "1 COMPONENT-620;1 COMPONENT-621;1 COMPONENT-622;1 COMPONENT-623;1 COMPONENT-624;1 COMPONENT-625",
   "1 COMPONENT-626;1 COMPONENT-627;1 COMPONENT-628;1 COMPONENT-629;1 COMPONENT-630;1 COMPONENT-631",
   "1 COMPONENT-632;1 COMPONENT-633;1 COMPONENT-634;1 COMPONENT-635;1 COMPONENT-636;1 COMPONENT-637",
   "1 COMPONENT-638;1 COMPONENT-639;1 COMPONENT-640;1 COMPONENT-641;1 COMPONENT-642;1 COMPONENT-643",
   "1 COMPONENT-644;1 COMPONENT-645;1 COMPONENT-646;1 COMPONENT-647;1 COMPONENT-648;1 COMPONENT-649",
   "1 COMPONENT-650;1 COMPONENT-651;1 COMPONENT-652;1 COMPONENT-653;1 COMPONENT-654;1 COMPONENT-655",
   "1 COMPONENT-656;1 COMPONENT-657;1 COMPONENT-658;1 COMPONENT-659;1 COMPONENT-660;1 COMPONENT-661",
   "1 COMPONENT-662;1 COMPONENT-663;1 COMPONENT-664;1 COMPONENT-665;1 COMPONENT-666;1 COMPONENT-667",
   "1 COMPONENT-668;1 COMPONENT-669;1 COMPONENT-670;1 COMPONENT-671;1 COMPONENT-672;1 COMPONENT-673",
   "1 COMPONENT-674;1 COMPONENT-675;1 COMPONENT-676;1 COMPONENT-677;1 COMPONENT-678;1 COMPONENT-679",
   "1 COMPONENT-680;1 COMPONENT-681;1 COMPONENT-682;1 COMPONENT-683;1 COMPONENT-684;1 COMPONENT-685",
   "1 COMPONENT-686;1 COMPONENT-687;1 COMPONENT-688;1 COMPONENT-689;1 COMPONENT-690;1 COMPONENT-691",
   "1 COMPONENT-692;1 COMPONENT-693;1 COMPONENT-694;1 COMPONENT-695;1 COMPONENT-696;1 COMPONENT-697",
   "1 COMPONENT-698;1 COMPONENT-699;1 COMPONENT-700;1 COMPONENT-701;1 COMPONENT-702;1 COMPONENT-703",
   "1 COMPONENT-704;1 COMPONENT-705;1 COMPONENT-706;1 COMPONENT-707;1 COMPONENT-708;1 COMPONENT-709",
   "1 COMPONENT-710;1 COMPONENT-711;1 COMPONENT-712;1 COMPONENT-713;1 COMPONENT-714;1 COMPONENT-715",
   "1 COMPONENT-716;1 COMPONENT-717;1 COMPONENT-718;1 COMPONENT-719;1 COMPONENT-720;1 COMPONENT-721",
   "1 COMPONENT-722;1 COMPONENT-723;1 COMPONENT-724;1 COMPONENT-725;1 COMPONENT-726;1 COMPONENT-727",
   "1 COMPONENT-728;1 COMPONENT-729;1 COMPONENT-730;1 COMPONENT-731;1 COMPONENT-732;1 COMPONENT-733",
   "1 COMPONENT-734;1 COMPONENT-735;1 COMPONENT-736;1 COMPONENT-737;1 COMPONENT-738;1 COMPONENT-739",
   "1 COMPONENT-740;1 COMPONENT-741;1 COMPONENT-742;1 COMPONENT-743;1 COMPONENT-744;1 COMPONENT-745",
   "1 COMPONENT-746;1 COMPONENT-747;1 COMPONENT-748;1 COMPONENT-749;1 COMPONENT-750;1 COMPONENT-751",
   "1 COMPONENT-752;1 COMPONENT-753;1 COMPONENT-754;1 COMPONENT-755;1 COMPONENT-756;1 COMPONENT-757",
   "1 COMPONENT-758;1 COMPONENT-759;1 COMPONENT-760;1 COMPONENT-761;1 COMPONENT-762;1 COMPONENT-763",
   "1 COMPONENT-764;1 COMPONENT-765;1 COMPONENT-766;1 COMPONENT-767;1 COMPONENT-768;@1aff0",
   "0 KATAKANA LETTER MINNAN TONE-2;3 TONE-3;3 TONE-4;3 TONE-5;@1aff5;3 TONE-7;3 TONE-8",
   "3 NASALIZED TONE-1;4 TONE-2;4 TONE-3;4 TONE-4;4 TONE-5;@1affd;4 TONE-7;4 TONE-8;@1b000",
   "2 ARCHAIC E;0 HIRAGANA LETTER ARCHAIC YE;0 HENTAIGANA LETTER A-1;2 A-2;2 A-3;2 A-WO;2 I-1;2 I-2",
   "2 I-3;2 I-4;2 U-1;2 U-2;2 U-3;2 U-4;2 U-5;2 E-2;2 E-3;2 E-4;2 E-5;2 E-6;2 O-1;2 O-2;2 O-3",
   "2 KA-1;2 KA-2;2 KA-3;2 KA-4;2 KA-5;2 KA-6;2 KA-7;2 KA-8;2 KA-9;2 KA-10;2 KA-11;2 KA-KE;2 KI-1",
   "2 KI-2;2 KI-3;2 KI-4;2 KI-5;2 KI-6;2 KI-7;2 KI-8;2 KU-1;2 KU-2;2 KU-3;2 KU-4;2 KU-5;2 KU-6",
   "2 KU-7;2 KE-1;2 KE-2;2 KE-3;2 KE-4;2 KE-5;2 KE-6;2 KO-1;2 KO-2;2 KO-3;2 KO-KI;2 SA-1;2 SA-2",
   "2 SA-3;2 SA-4;2 SA-5;2 SA-6;2 SA-7;2 SA-8;2 SI-1;2 SI-2;2 SI-3;2 SI-4;2 SI-5;2 SI-6;2 SU-1",
   "2 SU-2;2 SU-3;2 SU-4;2 SU-5;2 SU-6;2 SU-7;2 SU-8;2 SE-1;2 SE-2;2 SE-3;2 SE-4;2 SE-5;2 SO-1",
   "2 SO-2;2 SO-3;2 SO-4;2 SO-5;2 SO-6;2 SO-7;2 TA-1;2 TA-2;2 TA-3;2 TA-4;2 TI-1;2 TI-2;2 TI-3",
   "2 TI-4;2 TI-5;2 TI-6;2 TI-7;2 TU-1;2 TU-2;2 TU-3;2 TU-4;2 TU-TO;2 TE-1;2 TE-2;2 TE-3;2 TE-4",
   "2 TE-5;2 TE-6;2 TE-7;2 TE-8;2 TE-9;2 TO-1;2 TO-2;2 TO-3;2 TO-4;2 TO-5;2 TO-6;2 TO-RA;2 NA-1",
   "2 NA-2;2 NA-3;2 NA-4;2 NA-5;2 NA-6;2 NA-7;2 NA-8;2 NA-9;2 NI-1;2 NI-2;2 NI-3;2 NI-4;2 NI-5",
   "2 NI-6;2 NI-7;2 NI-TE;2 NU-1;2 NU-2;2 NU-3;2 NE-1;2 NE-2;2 NE-3;2 NE-4;2 NE-5;2 NE-6;2 NE-KO",
   "2 NO-1;2 NO-2;2 NO-3;2 NO-4;2 NO-5;2 HA-1;2 HA-2;2 HA-3;2 HA-4;2 HA-5;2 HA-6;2 HA-7;2 HA-8",
   "2 HA-9;2 HA-10;2 HA-11;2 HI-1;2 HI-2;2 HI-3;2 HI-4;2 HI-5;2 HI-6;2 HI-7;2 HU-1;2 HU-2;2 HU-3",
   "2 HE-1;2 HE-2;2 HE-3;2 HE-4;2 HE-5;2 HE-6;2 HE-7;2 HO-1;2 HO-2;2 HO-3;2 HO-4;2 HO-5;2 HO-6",
   "2 HO-7;2 HO-8;2 MA-1;2 MA-2;2 MA-3;2 MA-4;2 MA-5;2 MA-6;2 MA-7;2 MI-1;2 MI-2;2 MI-3;2 MI-4",
   "2 MI-5;2 MI-6;2 MI-7;2 MU-1;2 MU-2;2 MU-3;2 MU-4;2 ME-1;2 ME-2;2 ME-MA;2 MO-1;2 MO-2;2 MO-3",
   "2 MO-4;2 MO-5;2 MO-6;2 YA-1;2 YA-2;2 YA-3;2 YA-4;2 YA-5;2 YA-YO;2 YU-1;2 YU-2;2 YU-3;2 YU-4",
   "2 YO-1;2 YO-2;2 YO-3;2 YO-4;2 YO-5;2 YO-6;2 RA-1;2 RA-2;2 RA-3;2 RA-4;2 RI-1;2 RI-2;2 RI-3",
   "2 RI-4;2 RI-5;2 RI-6;2 RI-7;2 RU-1;2 RU-2;2 RU-3;2 RU-4;2 RU-5;2 RU-6;2 RE-1;2 RE-2;2 RE-3",
   "2 RE-4;2 RO-1;2 RO-2;2 RO-3;2 RO-4;2 RO-5;2 RO-6;2 WA-1;2 WA-2;2 WA-3;2 WA-4;2 WA-5;2 WI-1",
   "2 WI-2;2 WI-3;2 WI-4;2 WI-5;2 WE-1;2 WE-2;2 WE-3;2 WE-4;2 WO-1;2 WO-2;2 WO-3;2 WO-4;2 WO-5",
   "2 WO-6;2 WO-7;2 N-MU-MO-1;2 N-MU-MO-2;0 HIRAGANA LETTER ARCHAIC WU;0 KATAKANA LETTER ARCHAIC YI",
   "3 YE;3 WU;@1b150;0 HIRAGANA LETTER SMALL WI;3 WE;3 WO;@1b164;0 KATAKANA LETTER SMALL WI;3 WE",
   "3 WO;3 N;@1bc00;0 DUPLOYAN LETTER H;2 X;2 P;2 T;2 F;2 K;2 L;2 B;2 D;2 V;2 G;2 R;2 P N;2 D S",
   "2 F N;2 K M;2 R S;2 TH;2 SLOAN DH;2 DH;2 KK;2 SLOAN J;2 HL;2 LH;2 RH;2 M;2 N;2 J;2 S;2 M N",
   "2 N M;2 J M;2 S J;2 M WITH DOT;2 N WITH DOT;2 J WITH DOT;4 DOTS INSIDE AND ABOVE;2 S WITH DOT",
   "5 BELOW;2 M S;2 N S;2 J S;2 S S;2 M N S;2 N M S;2 J M S;2 S J S;2 J S WITH DOT;3 N;4 S;2 S T",
   "4 R;3 P;4 R;2 T S;3 R S;2 W;2 WH;2 W R;2 S N;3 M;2 K R S;2 G R S;2 S K;4 R;2 A;2 SLOAN OW;2 OA",
   "2 O;2 AOU;2 I;2 E;2 IE;2 SHORT I;2 UI;2 EE;2 SLOAN EH;2 ROMANIAN I;2 SLOAN EE;2 LONG I;2 YE;2 U",
   "2 EU;2 XW;2 U N;2 LONG U;2 ROMANIAN U;2 UH;2 SLOAN U;2 OOH;2 OW;2 OU;2 WA;2 WO;2 WI;2 WEI;2 WOW",
   "2 NASAL U;3 O;3 I;3 A;2 PERNIN AN;3 AM;2 SLOAN EN;3 AN;3 ON;2 VOCALIC M;@1bc70",
   "1 AFFIX LEFT HORIZONTAL SECANT;2 MID HORIZONTAL SECANT;2 RIGHT HORIZONTAL SECANT",
   "2 LOW VERTICAL SECANT;2 MID VERTICAL SECANT;2 HIGH VERTICAL SECANT;2 ATTACHED SECANT",
   "3 LEFT-TO-RIGHT SECANT;3 TANGENT;3 TAIL;3 E HOOK;3 I HOOK;3 TANGENT HOOK;@1bc80;2 HIGH ACUTE",
   "3 TIGHT ACUTE;3 GRAVE;3 LONG GRAVE;3 DOT;3 CIRCLE;3 LINE;3 WAVE;3 VERTICAL;@1bc90;2 LOW ACUTE",
   "3 TIGHT ACUTE;3 GRAVE;3 LONG GRAVE;3 DOT;3 CIRCLE;3 LINE;3 WAVE;3 VERTICAL;3 ARROW;@1bc9c",
   "1 SIGN O WITH CROSS;1 THICK LETTER SELECTOR;1 DOUBLE MARK;1 PUNCTUATION CHINOOK FULL STOP",
   "0 SHORTHAND FORMAT LETTER OVERLAP;2 CONTINUING OVERLAP;2 DOWN STEP;2 UP STEP"]

end FormCheck.Text
