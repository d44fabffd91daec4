/-!
# Names of signs of notations

* `notationNames` — the blocks of music, of mathematical letters and of signed languages.
-/

namespace FormCheck.Text

/-- The names of the characters from `0x1cf00` to `0x1df1e`, in the notation of tables of names. -/
def notationNames : List String :=
  ["@1cf00;0 ZNAMENNY COMBINING MARK GORAZDO NIZKO S KRYZHEM ON LEFT;3 NIZKO S KRYZHEM ON LEFT",
   "3 TSATA ON LEFT;3 GORAZDO NIZKO ON LEFT;3 NIZKO ON LEFT;3 SREDNE ON LEFT;3 MALO POVYSHE ON LEFT",
   "3 POVYSHE ON LEFT;3 VYSOKO ON LEFT;3 MALO POVYSHE S KHOKHLOM ON LEFT",
   "3 POVYSHE S KHOKHLOM ON LEFT;3 VYSOKO S KHOKHLOM ON LEFT;3 GORAZDO NIZKO S KRYZHEM ON RIGHT",
   "3 NIZKO S KRYZHEM ON RIGHT;3 TSATA ON RIGHT;3 GORAZDO NIZKO ON RIGHT;3 NIZKO ON RIGHT",
   "3 SREDNE ON RIGHT;3 MALO POVYSHE ON RIGHT;3 POVYSHE ON RIGHT;3 VYSOKO ON RIGHT",
   "3 MALO POVYSHE S KHOKHLOM ON RIGHT;3 POVYSHE S KHOKHLOM ON RIGHT;3 VYSOKO S KHOKHLOM ON RIGHT",
   "3 TSATA S KRYZHEM;3 MALO POVYSHE S KRYZHEM;3 STRANNO MALO POVYSHE;3 POVYSHE S KRYZHEM;4 STRANNO",
   "3 VYSOKO S KRYZHEM;3 MALO POVYSHE STRANNO;3 GORAZDO VYSOKO;3 ZELO;3 ON;3 RAVNO;3 TIKHAYA",
   "3 BORZAYA;3 UDARKA;3 PODVERTKA;3 LOMKA;3 KUPNAYA;3 KACHKA;3 ZEVOK;3 SKOBA;3 RAZSEKA",
   "3 KRYZH ON LEFT;@1cf30;2 TONAL RANGE MARK MRACHNO;5 SVETLO;5 TRESVETLO;2 MARK ZADERZHKA",
   "3 DEMESTVENNY ZADERZHKA;3 OTSECHKA;3 PODCHASHIE;4 WITH VERTICAL STROKE;3 CHASHKA;4 POLNAYA",
   "3 OBLACHKO;3 SOROCHYA NOZHKA;3 TOCHKA;3 DVOETOCHIE;2 ATTACHING VERTICAL OMET;2 MARK CURVED OMET",
   "3 KRYZH;2 LOWER TONAL RANGE INDICATOR;1 PRIZNAK MODIFIER LEVEL-2;3 LEVEL-3;3 DIRECTION FLIP",
   "3 KRYZH;3 ROG;@1cf50;1 NEUME KRYUK;3 TIKHY;2 PARAKLIT;2 DVA V CHELNU;2 KLYUCH;2 ZANOZHEK",
   "2 STOPITSA;3 S OCHKOM;2 PEREVODKA;3 NEPOSTOYANNAYA;2 STOPITSA WITH SOROCHYA NOZHKA;2 CHELYUSTKA",
   "2 PALKA;2 ZAPYATAYA;2 GOLUBCHIK BORZY;3 TIKHY;3 MRACHNY;3 SVETLY;3 TRESVETLY",
   "2 VRAKHIYA PROSTAYA;3 MRACHNAYA;3 SVETLAYA;3 TRESVETLAYA;3 KLYUCHEVAYA PROSTAYA;4 MRACHNAYA",
   "4 SVETLAYA;4 TRESVETLAYA;2 DOUBLE ZAPYATAYA;2 REVERSED CHELYUSTKA;2 DERBITSA;2 KHAMILO",
   "2 CHASHKA;2 PODCHASHIE;2 SKAMEYTSA MRACHNAYA;3 SVETLAYA;3 TRESVETLAYA;3 TIKHAYA",
   "2 DEMESTVENNY KLYUCH;2 SKAMEYTSA KLYUCHEVAYA SVETLAYA;3 KLYUCHENEPOSTOYANNAYA",
   "3 KLYUCHEVAYA TIKHAYA;3 DVOECHELNAYA PROSTAYA;4 SVETLAYA;4 NEPOSTOYANNAYA;4 KLYUCHEVAYA",
   "2 SLOZHITIE;3 S ZAPYATOY;3 ZAKRYTOE;3 S KRYZHEM;2 KRYZH;2 ROG;2 FITA;2 KOBYLA;2 ZMEYTSA",
   "2 STATYA;3 S ZAPYATOY;4 KRYZHEM;4 ZAPYATOY I KRYZHEM;4 KRYZHEM I ZAPYATOY;3 ZAKRYTAYA",
   "4 S ZAPYATOY;3 S ROGOM;4 DVUMYA ZAPYATYMI;4 ZAPYATOY I PODCHASHIEM;2 POLKULIZMY",
   "2 STATYA NEPOSTOYANNAYA;2 STRELA PROSTAYA;3 MRACHNOTIKHAYA;3 KRYZHEVAYA;3 POLUPOVODNAYA",
   "3 POVODNAYA;3 NEPOSTOYANNAYA;3 KLYUCHEPOVODNAYA;3 KLYUCHENEPOSTOYANNAYA;3 TIKHAYA PUTNAYA",
   "3 DVOECHELNAYA;3 DVOECHELNOKRYZHEVAYA;3 DVOECHELNOPOVODNAYA;3 DVOECHELNAYA KLYUCHEVAYA",
   "3 DVOECHELNOPOVODNAYA KLYUCHEVAYA;3 GROMNAYA WITH SINGLE ZAPYATAYA",
   "3 GROMOPOVODNAYA WITH SINGLE ZAPYATAYA;3 GROMNAYA;3 GROMOPOVODNAYA;4 WITH DOUBLE ZAPYATAYA",
   "3 GROMOKRYZHEVAYA;4 POVODNAYA;2 MECHIK;3 POVODNY;3 KLYUCHEVOY;3 KLYUCHEPOVODNY",
   "3 KLYUCHENEPOSTOYANNY;2 STRELA TRYASOGLASNAYA;3 TRYASOPOVODNAYA;3 TRYASOSTRELNAYA;2 OSOKA",
   "3 SVETLAYA;3 TRESVETLAYA;3 KRYUKOVAYA SVETLAYA;3 KLYUCHEVAYA SVETLAYA;4 NEPOSTOYANNAYA",
   "2 STRELA KRYUKOVAYA;4 POVODNAYA;4 GROMNAYA WITH SINGLE ZAPYATAYA",
   "4 GROMOPOVODNAYA WITH SINGLE ZAPYATAYA;4 GROMNAYA;4 GROMOPOVODNAYA;5 WITH DOUBLE ZAPYATAYA",
   "4 GROMOKRYZHEVAYA;5 POVODNAYA;4 TRYASKA;2 KUFISMA;2 OBLAKO;2 DUDA;2 NEMKA;2 PAUK;@1d000",
   "0 BYZANTINE MUSICAL SYMBOL PSILI;3 DASEIA;3 PERISPOMENI;3 OXEIA EKFONITIKON;4 DIPLI",
   "3 VAREIA EKFONITIKON;4 DIPLI;3 KATHISTI;3 SYRMATIKI;3 PARAKLITIKI;3 YPOKRISIS;4 DIPLI",
   "3 KREMASTI;3 APESO EKFONITIKON;3 EXO EKFONITIKON;3 TELEIA;3 KENTIMATA;3 APOSTROFOS;4 DIPLI",
   "3 SYNEVMA;3 THITA;3 OLIGON ARCHAION;3 GORGON ARCHAION;3 PSILON;3 CHAMILON;3 VATHY",
   "3 ISON ARCHAION;3 KENTIMA ARCHAION;3 KENTIMATA ARCHAION;3 SAXIMATA;3 PARICHON",
   "3 STAVROS APODEXIA;3 OXEIAI ARCHAION;3 VAREIAI ARCHAION;3 APODERMA ARCHAION;3 APOTHEMA;3 KLASMA",
   "3 REVMA;3 PIASMA ARCHAION;3 TINAGMA;3 ANATRICHISMA;3 SEISMA;3 SYNAGMA ARCHAION;4 META STAVROU",
   "3 OYRANISMA ARCHAION;3 THEMA;3 LEMOI;3 DYO;3 TRIA;3 TESSERA;3 KRATIMATA;3 APESO EXO NEO",
   "3 FTHORA ARCHAION;3 IMIFTHORA;3 TROMIKON ARCHAION;3 KATAVA TROMIKON;3 PELASTON;3 PSIFISTON",
   "3 KONTEVMA;3 CHOREVMA ARCHAION;3 RAPISMA;3 PARAKALESMA ARCHAION;3 PARAKLITIKI ARCHAION",
   "3 ICHADIN;3 NANA;3 PETASMA;3 KONTEVMA ALLO;3 TROMIKON ALLO;3 STRAGGISMATA;3 GRONTHISMATA",
   "3 ISON NEO;3 OLIGON NEO;3 OXEIA NEO;3 PETASTI;3 KOUFISMA;3 PETASTOKOUFISMA;3 KRATIMOKOUFISMA",
   "3 PELASTON NEO;3 KENTIMATA NEO ANO;3 KENTIMA NEO ANO;3 YPSILI;3 APOSTROFOS NEO",
   "3 APOSTROFOI SYNDESMOS NEO;3 YPORROI;3 KRATIMOYPORROON;3 ELAFRON;3 CHAMILI;3 MIKRON ISON",
   "3 VAREIA NEO;3 PIASMA NEO;3 PSIFISTON NEO;3 OMALON;3 ANTIKENOMA;3 LYGISMA;3 PARAKLITIKI NEO",
   "3 PARAKALESMA NEO;3 ETERON PARAKALESMA;3 KYLISMA;3 ANTIKENOKYLISMA;3 TROMIKON NEO;3 EKSTREPTON",
   "3 SYNAGMA NEO;3 SYRMA;3 CHOREVMA NEO;3 EPEGERMA;3 SEISMA NEO;3 XIRON KLASMA;3 TROMIKOPSIFISTON",
   "3 PSIFISTOLYGISMA;3 TROMIKOLYGISMA;3 TROMIKOPARAKALESMA;3 PSIFISTOPARAKALESMA;3 TROMIKOSYNAGMA",
   "3 PSIFISTOSYNAGMA;3 GORGOSYNTHETON;3 ARGOSYNTHETON;3 ETERON ARGOSYNTHETON;3 OYRANISMA NEO",
   "3 THEMATISMOS ESO;4 EXO;3 THEMA APLOUN;3 THES KAI APOTHES;3 KATAVASMA;3 ENDOFONON;3 YFEN KATO",
   "4 ANO;3 STAVROS;3 KLASMA ANO;3 DIPLI ARCHAION;3 KRATIMA ARCHAION;4 ALLO;4 NEO;3 APODERMA NEO",
   "3 APLI;3 DIPLI;3 TRIPLI;3 TETRAPLI;3 KORONIS;3 LEIMMA ENOS CHRONOU;4 DYO CHRONON",
   "4 TRION CHRONON;4 TESSARON CHRONON;4 IMISEOS CHRONOU;3 GORGON NEO ANO;4 PARESTIGMENON ARISTERA",
   "5 DEXIA;3 DIGORGON;4 PARESTIGMENON ARISTERA KATO;6 ANO;5 DEXIA;3 TRIGORGON;3 ARGON;3 IMIDIARGON",
   "3 DIARGON;3 AGOGI POLI ARGI;4 ARGOTERI;4 ARGI;4 METRIA;4 MESI;4 GORGI;4 GORGOTERI;4 POLI GORGI",
   "3 MARTYRIA PROTOS ICHOS;4 ALLI PROTOS ICHOS;4 DEYTEROS ICHOS;4 ALLI DEYTEROS ICHOS",
   "4 TRITOS ICHOS;4 TRIFONIAS;4 TETARTOS ICHOS;5 LEGETOS ICHOS;4 LEGETOS ICHOS;4 PLAGIOS ICHOS",
   "3 ISAKIA TELOUS ICHIMATOS;3 APOSTROFOI TELOUS ICHIMATOS;3 FANEROSIS TETRAFONIAS;4 MONOFONIAS",
   "4 DIFONIAS;3 MARTYRIA VARYS ICHOS;4 PROTOVARYS ICHOS;4 PLAGIOS TETARTOS ICHOS",
   "3 GORTHMIKON N APLOUN;5 DIPLOUN;3 ENARXIS KAI FTHORA VOU;3 IMIFONON;3 IMIFTHORON",
   "3 FTHORA ARCHAION DEYTEROU ICHOU;4 DIATONIKI PA;5 NANA;4 NAOS ICHOS;4 DIATONIKI DI",
   "4 SKLIRON DIATONON DI;4 DIATONIKI KE;5 ZO;5 NI KATO;6 ANO;4 MALAKON CHROMA DIFONIAS",
   "6 MONOFONIAS;3 FHTORA SKLIRON CHROMA VASIS;3 FTHORA SKLIRON CHROMA SYNAFI;4 NENANO",
   "3 CHROA ZYGOS;4 KLITON;4 SPATHI;3 FTHORA I YFESIS TETARTIMORION;4 ENARMONIOS ANTIFONIA",
   "3 YFESIS TRITIMORION;3 DIESIS TRITIMORION;4 TETARTIMORION;4 APLI DYO DODEKATA",
   "4 MONOGRAMMOS TESSERA DODEKATA;4 DIGRAMMOS EX DODEKATA;4 TRIGRAMMOS OKTO DODEKATA",
   "3 YFESIS APLI DYO DODEKATA;4 MONOGRAMMOS TESSERA DODEKATA;4 DIGRAMMOS EX DODEKATA",
   "4 TRIGRAMMOS OKTO DODEKATA;3 GENIKI DIESIS;4 YFESIS;3 DIASTOLI APLI MIKRI;5 MEGALI;4 DIPLI",
   "4 THESEOS;3 SIMANSIS THESEOS;5 DISIMOU;5 TRISIMOU;5 TETRASIMOU;4 ARSEOS;5 DISIMOU;5 TRISIMOU",
   "5 TETRASIMOU;3 DIGRAMMA GG;3 DIFTOGGOS OU;3 STIGMA;3 ARKTIKO PA;4 VOU;4 GA;4 DI;4 KE;4 ZO;4 NI",
   "3 KENTIMATA NEO MESO;3 KENTIMA NEO MESO;3 KENTIMATA NEO KATO;3 KENTIMA NEO KATO;3 KLASMA KATO",
   "3 GORGON NEO KATO;@1d100;0 MUSICAL SYMBOL SINGLE BARLINE;2 DOUBLE BARLINE;2 FINAL BARLINE",
   "2 REVERSE FINAL BARLINE;2 DASHED BARLINE;2 SHORT BARLINE;2 LEFT REPEAT SIGN;2 RIGHT REPEAT SIGN",
   "2 REPEAT DOTS;2 DAL SEGNO;2 DA CAPO;2 SEGNO;2 CODA;2 REPEATED FIGURE-1;3 FIGURE-2;3 FIGURE-3",
   "2 FERMATA;3 BELOW;2 BREATH MARK;2 CAESURA;2 BRACE;2 BRACKET;2 ONE-LINE STAFF;2 TWO-LINE STAFF",
   "2 THREE-LINE STAFF;2 FOUR-LINE STAFF;2 FIVE-LINE STAFF;2 SIX-LINE STAFF;2 SIX-STRING FRETBOARD",
   "2 FOUR-STRING FRETBOARD;2 G CLEF;4 OTTAVA ALTA;5 BASSA;2 C CLEF;2 F CLEF;4 OTTAVA ALTA;5 BASSA",
   "2 DRUM CLEF-1;3 CLEF-2;@1d129;2 MULTIPLE MEASURE REST;2 DOUBLE SHARP;3 FLAT;2 FLAT UP;3 DOWN",
   "2 NATURAL UP;3 DOWN;2 SHARP UP;3 DOWN;2 QUARTER TONE SHARP;4 FLAT;2 COMMON TIME;2 CUT TIME",
   "2 OTTAVA ALTA;3 BASSA;2 QUINDICESIMA ALTA;3 BASSA;2 MULTI REST;2 WHOLE REST;2 HALF REST",
   "2 QUARTER REST;2 EIGHTH REST;2 SIXTEENTH REST;2 THIRTY-SECOND REST;2 SIXTY-FOURTH REST",
   "2 ONE HUNDRED TWENTY-EIGHTH REST;2 X NOTEHEAD;2 PLUS NOTEHEAD;2 CIRCLE X NOTEHEAD",
   "2 SQUARE NOTEHEAD WHITE;4 BLACK;2 TRIANGLE NOTEHEAD UP WHITE;5 BLACK;4 LEFT WHITE;5 BLACK",
   "4 RIGHT WHITE;5 BLACK;4 DOWN WHITE;5 BLACK;4 UP RIGHT WHITE;6 BLACK;2 MOON NOTEHEAD WHITE",
   "4 BLACK;2 TRIANGLE-ROUND NOTEHEAD DOWN WHITE;5 BLACK;2 PARENTHESIS NOTEHEAD;2 VOID NOTEHEAD",
   "2 NOTEHEAD BLACK;2 NULL NOTEHEAD;2 CLUSTER NOTEHEAD WHITE;4 BLACK;2 BREVE;2 WHOLE NOTE",
   "2 HALF NOTE;2 QUARTER NOTE;2 EIGHTH NOTE;2 SIXTEENTH NOTE;2 THIRTY-SECOND NOTE",
   "2 SIXTY-FOURTH NOTE;2 ONE HUNDRED TWENTY-EIGHTH NOTE;2 COMBINING STEM;3 SPRECHGESANG STEM",
   "3 TREMOLO-1;3 TREMOLO-2;3 TREMOLO-3;2 FINGERED TREMOLO-1;3 TREMOLO-2;3 TREMOLO-3",
   "2 COMBINING AUGMENTATION DOT;3 FLAG-1;3 FLAG-2;3 FLAG-3;3 FLAG-4;3 FLAG-5;2 BEGIN BEAM",
   "2 END BEAM;2 BEGIN TIE;2 END TIE;2 BEGIN SLUR;2 END SLUR;2 BEGIN PHRASE;2 END PHRASE",
   "2 COMBINING ACCENT;3 STACCATO;3 TENUTO;3 STACCATISSIMO;3 MARCATO;3 MARCATO-STACCATO",
   "3 ACCENT-STACCATO;3 LOURE;2 ARPEGGIATO UP;3 DOWN;2 COMBINING DOIT;3 RIP;3 FLIP;3 SMEAR;3 BEND",
   "3 DOUBLE TONGUE;3 TRIPLE TONGUE;2 RINFORZANDO;2 SUBITO;2 Z;2 PIANO;2 MEZZO;2 FORTE;2 CRESCENDO",
   "2 DECRESCENDO;2 GRACE NOTE SLASH;4 NO SLASH;2 TR;2 TURN;2 INVERTED TURN;2 TURN SLASH;3 UP",
   "2 ORNAMENT STROKE-1;3 STROKE-2;3 STROKE-3;3 STROKE-4;3 STROKE-5;3 STROKE-6;3 STROKE-7",
   "3 STROKE-8;3 STROKE-9;3 STROKE-10;3 STROKE-11;2 HAUPTSTIMME;2 NEBENSTIMME;2 END OF STIMME",
   "2 DEGREE SLASH;2 COMBINING DOWN BOW;3 UP BOW;3 HARMONIC;3 SNAP PIZZICATO;2 PEDAL MARK;3 UP MARK",
   "2 HALF PEDAL MARK;2 GLISSANDO UP;3 DOWN;2 WITH FINGERNAILS;2 DAMP;3 ALL;2 MAXIMA;2 LONGA",
   "2 BREVIS;2 SEMIBREVIS WHITE;3 BLACK;2 MINIMA;3 BLACK;2 SEMIMINIMA WHITE;3 BLACK;2 FUSA WHITE",
   "3 BLACK;2 LONGA PERFECTA REST;3 IMPERFECTA REST;2 BREVIS REST;2 SEMIBREVIS REST;2 MINIMA REST",
   "2 SEMIMINIMA REST;2 TEMPUS PERFECTUM CUM PROLATIONE PERFECTA;6 IMPERFECTA",
   "6 PERFECTA DIMINUTION-1;3 IMPERFECTUM CUM PROLATIONE PERFECTA;6 IMPERFECTA;7 DIMINUTION-1",
   "7 DIMINUTION-2;7 DIMINUTION-3;2 CROIX;2 GREGORIAN C CLEF;3 F CLEF;2 SQUARE B;2 VIRGA;2 PODATUS",
   "2 CLIVIS;2 SCANDICUS;2 CLIMACUS;2 TORCULUS;2 PORRECTUS;3 FLEXUS;2 SCANDICUS FLEXUS",
   "2 TORCULUS RESUPINUS;2 PES SUBPUNCTIS;2 KIEVAN C CLEF;3 END OF PIECE;3 FINAL NOTE",
   "3 RECITATIVE MARK;3 WHOLE NOTE;3 HALF NOTE;3 QUARTER NOTE STEM DOWN;6 UP",
   "3 EIGHTH NOTE STEM DOWN;6 UP;3 FLAT SIGN;2 SORI;2 KORON;@1d200;0 GREEK VOCAL NOTATION SYMBOL-1",
   "3 SYMBOL-2;3 SYMBOL-3;3 SYMBOL-4;3 SYMBOL-5;3 SYMBOL-6;3 SYMBOL-7;3 SYMBOL-8;3 SYMBOL-9",
   "3 SYMBOL-10;3 SYMBOL-11;3 SYMBOL-12;3 SYMBOL-13;3 SYMBOL-14;3 SYMBOL-15;3 SYMBOL-16;3 SYMBOL-17",
   "3 SYMBOL-18;3 SYMBOL-19;3 SYMBOL-20;3 SYMBOL-21;3 SYMBOL-22;3 SYMBOL-23;3 SYMBOL-24;3 SYMBOL-50",
   "3 SYMBOL-51;3 SYMBOL-52;3 SYMBOL-53;3 SYMBOL-54;1 INSTRUMENTAL NOTATION SYMBOL-1;3 SYMBOL-2",
   "3 SYMBOL-4;3 SYMBOL-5;3 SYMBOL-7;3 SYMBOL-8;3 SYMBOL-11;3 SYMBOL-12;3 SYMBOL-13;3 SYMBOL-14",
   "3 SYMBOL-17;3 SYMBOL-18;3 SYMBOL-19;3 SYMBOL-23;3 SYMBOL-24;3 SYMBOL-25;3 SYMBOL-26;3 SYMBOL-27",
   "3 SYMBOL-29;3 SYMBOL-30;3 SYMBOL-32;3 SYMBOL-36;3 SYMBOL-37;3 SYMBOL-38;3 SYMBOL-39;3 SYMBOL-40",
   "3 SYMBOL-42;3 SYMBOL-43;3 SYMBOL-45;3 SYMBOL-47;3 SYMBOL-48;3 SYMBOL-49;3 SYMBOL-50;3 SYMBOL-51",
   "3 SYMBOL-52;3 SYMBOL-53;3 SYMBOL-54;0 COMBINING GREEK MUSICAL TRISEME;3 TETRASEME;3 PENTASEME",
   "0 GREEK MUSICAL LEIMMA;@1d2e0;0 MAYAN NUMERAL ZERO;2 ONE;2 TWO;2 THREE;2 FOUR;2 FIVE;2 SIX",
   "2 SEVEN;2 EIGHT;2 NINE;2 TEN;2 ELEVEN;2 TWELVE;2 THIRTEEN;2 FOURTEEN;2 FIFTEEN;2 SIXTEEN",
   "2 SEVENTEEN;2 EIGHTEEN;2 NINETEEN;@1d300;0 MONOGRAM FOR EARTH;0 DIGRAM FOR HEAVENLY EARTH",
   "2 HUMAN EARTH;2 EARTHLY HEAVEN;3 HUMAN;2 EARTH;0 TETRAGRAM FOR CENTRE;2 FULL CIRCLE;2 MIRED",
   "2 BARRIER;2 KEEPING SMALL;2 CONTRARIETY;2 ASCENT;2 OPPOSITION;2 BRANCHING OUT",
   "2 DEFECTIVENESS OR DISTORTION;2 DIVERGENCE;2 YOUTHFULNESS;2 INCREASE;2 PENETRATION;2 REACH",
   "2 CONTACT;2 HOLDING BACK;2 WAITING;2 FOLLOWING;2 ADVANCE;2 RELEASE;2 RESISTANCE;2 EASE;2 JOY",
   "2 CONTENTION;2 ENDEAVOUR;2 DUTIES;2 CHANGE;2 DECISIVENESS;2 BOLD RESOLUTION;2 PACKING;2 LEGION",
   "2 CLOSENESS;2 KINSHIP;2 GATHERING;2 STRENGTH;2 PURITY;2 FULLNESS;2 RESIDENCE;2 LAW OR MODEL",
   "2 RESPONSE;2 GOING TO MEET;2 ENCOUNTERS;2 STOVE;2 GREATNESS;2 ENLARGEMENT;2 PATTERN;2 RITUAL",
   "2 FLIGHT;2 VASTNESS OR WASTING;2 CONSTANCY;2 MEASURE;2 ETERNITY;2 UNITY;2 DIMINISHMENT",
   "2 CLOSED MOUTH;2 GUARDEDNESS;2 GATHERING IN;2 MASSING;2 ACCUMULATION;2 EMBELLISHMENT;2 DOUBT",
   "2 WATCH;2 SINKING;2 INNER;2 DEPARTURE;2 DARKENING;2 DIMMING;2 EXHAUSTION;2 SEVERANCE;2 STOPPAGE",
   "2 HARDNESS;2 COMPLETION;2 CLOSURE;2 FAILURE;2 AGGRAVATION;2 COMPLIANCE;2 ON THE VERGE",
   "2 DIFFICULTIES;2 LABOURING;2 FOSTERING;@1d360;0 COUNTING ROD UNIT DIGIT ONE;4 TWO;4 THREE",
   "4 FOUR;4 FIVE;4 SIX;4 SEVEN;4 EIGHT;4 NINE;2 TENS DIGIT ONE;4 TWO;4 THREE;4 FOUR;4 FIVE;4 SIX",
   "4 SEVEN;4 EIGHT;4 NINE;0 IDEOGRAPHIC TALLY MARK ONE;3 TWO;3 THREE;3 FOUR;3 FIVE",
   "0 TALLY MARK ONE;2 FIVE;@1d400;0 MATHEMATICAL BOLD CAPITAL A;3 B;3 C;3 D;3 E;3 F;3 G;3 H;3 I",
   "3 J;3 K;3 L;3 M;3 N;3 O;3 P;3 Q;3 R;3 S;3 T;3 U;3 V;3 W;3 X;3 Y;3 Z;2 SMALL A;3 B;3 C;3 D;3 E",
   "3 F;3 G;3 H;3 I;3 J;3 K;3 L;3 M;3 N;3 O;3 P;3 Q;3 R;3 S;3 T;3 U;3 V;3 W;3 X;3 Y;3 Z",
   "1 ITALIC CAPITAL A;3 B;3 C;3 D;3 E;3 F;3 G;3 H;3 I;3 J;3 K;3 L;3 M;3 N;3 O;3 P;3 Q;3 R;3 S;3 T",
   "3 U;3 V;3 W;3 X;3 Y;3 Z;2 SMALL A;3 B;3 C;3 D;3 E;3 F;3 G;@1d456;3 I;3 J;3 K;3 L;3 M;3 N;3 O",
   "3 P;3 Q;3 R;3 S;3 T;3 U;3 V;3 W;3 X;3 Y;3 Z;1 BOLD ITALIC CAPITAL A;4 B;4 C;4 D;4 E;4 F;4 G;4 H",
   "4 I;4 J;4 K;4 L;4 M;4 N;4 O;4 P;4 Q;4 R;4 S;4 T;4 U;4 V;4 W;4 X;4 Y;4 Z;3 SMALL A;4 B;4 C;4 D",
   "4 E;4 F;4 G;4 H;4 I;4 J;4 K;4 L;4 M;4 N;4 O;4 P;4 Q;4 R;4 S;4 T;4 U;4 V;4 W;4 X;4 Y;4 Z",
   "1 SCRIPT CAPITAL A;@1d49e;3 C;3 D;@1d4a2;3 G;@1d4a5;3 J;3 K;@1d4a9;3 N;3 O;3 P;3 Q;@1d4ae;3 S",
   "3 T;3 U;3 V;3 W;3 X;3 Y;3 Z;2 SMALL A;3 B;3 C;3 D;@1d4bb;3 F;@1d4bd;3 H;3 I;3 J;3 K;3 L;3 M;3 N",
   "@1d4c5;3 P;3 Q;3 R;3 S;3 T;3 U;3 V;3 W;3 X;3 Y;3 Z;1 BOLD SCRIPT CAPITAL A;4 B;4 C;4 D;4 E;4 F",
   "4 G;4 H;4 I;4 J;4 K;4 L;4 M;4 N;4 O;4 P;4 Q;4 R;4 S;4 T;4 U;4 V;4 W;4 X;4 Y;4 Z;3 SMALL A;4 B",
   "4 C;4 D;4 E;4 F;4 G;4 H;4 I;4 J;4 K;4 L;4 M;4 N;4 O;4 P;4 Q;4 R;4 S;4 T;4 U;4 V;4 W;4 X;4 Y;4 Z",
   "1 FRAKTUR CAPITAL A;3 B;@1d507;3 D;3 E;3 F;3 G;@1d50d;3 J;3 K;3 L;3 M;3 N;3 O;3 P;3 Q;@1d516",
   "3 S;3 T;3 U;3 V;3 W;3 X;3 Y;@1d51e;2 SMALL A;3 B;3 C;3 D;3 E;3 F;3 G;3 H;3 I;3 J;3 K;3 L;3 M",
   "3 N;3 O;3 P;3 Q;3 R;3 S;3 T;3 U;3 V;3 W;3 X;3 Y;3 Z;1 DOUBLE-STRUCK CAPITAL A;3 B;@1d53b;3 D",
   "3 E;3 F;3 G;@1d540;3 I;3 J;3 K;3 L;3 M;@1d546;3 O;@1d54a;3 S;3 T;3 U;3 V;3 W;3 X;3 Y;@1d552",
   "2 SMALL A;3 B;3 C;3 D;3 E;3 F;3 G;3 H;3 I;3 J;3 K;3 L;3 M;3 N;3 O;3 P;3 Q;3 R;3 S;3 T;3 U;3 V",
   "3 W;3 X;3 Y;3 Z;1 BOLD FRAKTUR CAPITAL A;4 B;4 C;4 D;4 E;4 F;4 G;4 H;4 I;4 J;4 K;4 L;4 M;4 N",
   "4 O;4 P;4 Q;4 R;4 S;4 T;4 U;4 V;4 W;4 X;4 Y;4 Z;3 SMALL A;4 B;4 C;4 D;4 E;4 F;4 G;4 H;4 I;4 J",
   "4 K;4 L;4 M;4 N;4 O;4 P;4 Q;4 R;4 S;4 T;4 U;4 V;4 W;4 X;4 Y;4 Z;1 SANS-SERIF CAPITAL A;3 B;3 C",
   "3 D;3 E;3 F;3 G;3 H;3 I;3 J;3 K;3 L;3 M;3 N;3 O;3 P;3 Q;3 R;3 S;3 T;3 U;3 V;3 W;3 X;3 Y;3 Z",
   "2 SMALL A;3 B;3 C;3 D;3 E;3 F;3 G;3 H;3 I;3 J;3 K;3 L;3 M;3 N;3 O;3 P;3 Q;3 R;3 S;3 T;3 U;3 V",
   "3 W;3 X;3 Y;3 Z;2 BOLD CAPITAL A;4 B;4 C;4 D;4 E;4 F;4 G;4 H;4 I;4 J;4 K;4 L;4 M;4 N;4 O;4 P",
   "4 Q;4 R;4 S;4 T;4 U;4 V;4 W;4 X;4 Y;4 Z;3 SMALL A;4 B;4 C;4 D;4 E;4 F;4 G;4 H;4 I;4 J;4 K;4 L",
   "4 M;4 N;4 O;4 P;4 Q;4 R;4 S;4 T;4 U;4 V;4 W;4 X;4 Y;4 Z;2 ITALIC CAPITAL A;4 B;4 C;4 D;4 E;4 F",
   "4 G;4 H;4 I;4 J;4 K;4 L;4 M;4 N;4 O;4 P;4 Q;4 R;4 S;4 T;4 U;4 V;4 W;4 X;4 Y;4 Z;3 SMALL A;4 B",
   "4 C;4 D;4 E;4 F;4 G;4 H;4 I;4 J;4 K;4 L;4 M;4 N;4 O;4 P;4 Q;4 R;4 S;4 T;4 U;4 V;4 W;4 X;4 Y;4 Z",
   "2 BOLD ITALIC CAPITAL A;5 B;5 C;5 D;5 E;5 F;5 G;5 H;5 I;5 J;5 K;5 L;5 M;5 N;5 O;5 P;5 Q;5 R;5 S",
   "5 T;5 U;5 V;5 W;5 X;5 Y;5 Z;4 SMALL A;5 B;5 C;5 D;5 E;5 F;5 G;5 H;5 I;5 J;5 K;5 L;5 M;5 N;5 O",
   "5 P;5 Q;5 R;5 S;5 T;5 U;5 V;5 W;5 X;5 Y;5 Z;1 MONOSPACE CAPITAL A;3 B;3 C;3 D;3 E;3 F;3 G;3 H",
   "3 I;3 J;3 K;3 L;3 M;3 N;3 O;3 P;3 Q;3 R;3 S;3 T;3 U;3 V;3 W;3 X;3 Y;3 Z;2 SMALL A;3 B;3 C;3 D",
   "3 E;3 F;3 G;3 H;3 I;3 J;3 K;3 L;3 M;3 N;3 O;3 P;3 Q;3 R;3 S;3 T;3 U;3 V;3 W;3 X;3 Y;3 Z",
   "1 ITALIC SMALL DOTLESS I;4 J;@1d6a8;1 BOLD CAPITAL ALPHA;3 BETA;3 GAMMA;3 DELTA;3 EPSILON",
   "3 ZETA;3 ETA;3 THETA;3 IOTA;3 KAPPA;3 LAMDA;3 MU;3 NU;3 XI;3 OMICRON;3 PI;3 RHO;3 THETA SYMBOL",
   "3 SIGMA;3 TAU;3 UPSILON;3 PHI;3 CHI;3 PSI;3 OMEGA;2 NABLA;2 SMALL ALPHA;3 BETA;3 GAMMA;3 DELTA",
   "3 EPSILON;3 ZETA;3 ETA;3 THETA;3 IOTA;3 KAPPA;3 LAMDA;3 MU;3 NU;3 XI;3 OMICRON;3 PI;3 RHO",
   "3 FINAL SIGMA;3 SIGMA;3 TAU;3 UPSILON;3 PHI;3 CHI;3 PSI;3 OMEGA;2 PARTIAL DIFFERENTIAL",
   "2 EPSILON SYMBOL;2 THETA SYMBOL;2 KAPPA SYMBOL;2 PHI SYMBOL;2 RHO SYMBOL;2 PI SYMBOL",
   "1 ITALIC CAPITAL ALPHA;3 BETA;3 GAMMA;3 DELTA;3 EPSILON;3 ZETA;3 ETA;3 THETA;3 IOTA;3 KAPPA",
   "3 LAMDA;3 MU;3 NU;3 XI;3 OMICRON;3 PI;3 RHO;3 THETA SYMBOL;3 SIGMA;3 TAU;3 UPSILON;3 PHI;3 CHI",
   "3 PSI;3 OMEGA;2 NABLA;2 SMALL ALPHA;3 BETA;3 GAMMA;3 DELTA;3 EPSILON;3 ZETA;3 ETA;3 THETA",
   "3 IOTA;3 KAPPA;3 LAMDA;3 MU;3 NU;3 XI;3 OMICRON;3 PI;3 RHO;3 FINAL SIGMA;3 SIGMA;3 TAU",
   "3 UPSILON;3 PHI;3 CHI;3 PSI;3 OMEGA;2 PARTIAL DIFFERENTIAL;2 EPSILON SYMBOL;2 THETA SYMBOL",
   "2 KAPPA SYMBOL;2 PHI SYMBOL;2 RHO SYMBOL;2 PI SYMBOL;1 BOLD ITALIC CAPITAL ALPHA;4 BETA;4 GAMMA",
   "4 DELTA;4 EPSILON;4 ZETA;4 ETA;4 THETA;4 IOTA;4 KAPPA;4 LAMDA;4 MU;4 NU;4 XI;4 OMICRON;4 PI",
   "4 RHO;4 THETA SYMBOL;4 SIGMA;4 TAU;4 UPSILON;4 PHI;4 CHI;4 PSI;4 OMEGA;3 NABLA;3 SMALL ALPHA",
   "4 BETA;4 GAMMA;4 DELTA;4 EPSILON;4 ZETA;4 ETA;4 THETA;4 IOTA;4 KAPPA;4 LAMDA;4 MU;4 NU;4 XI",
   "4 OMICRON;4 PI;4 RHO;4 FINAL SIGMA;4 SIGMA;4 TAU;4 UPSILON;4 PHI;4 CHI;4 PSI;4 OMEGA",
   "3 PARTIAL DIFFERENTIAL;3 EPSILON SYMBOL;3 THETA SYMBOL;3 KAPPA SYMBOL;3 PHI SYMBOL;3 RHO SYMBOL",
   "3 PI SYMBOL;1 SANS-SERIF BOLD CAPITAL ALPHA;4 BETA;4 GAMMA;4 DELTA;4 EPSILON;4 ZETA;4 ETA",
   "4 THETA;4 IOTA;4 KAPPA;4 LAMDA;4 MU;4 NU;4 XI;4 OMICRON;4 PI;4 RHO;4 THETA SYMBOL;4 SIGMA;4 TAU",
   "4 UPSILON;4 PHI;4 CHI;4 PSI;4 OMEGA;3 NABLA;3 SMALL ALPHA;4 BETA;4 GAMMA;4 DELTA;4 EPSILON",
   "4 ZETA;4 ETA;4 THETA;4 IOTA;4 KAPPA;4 LAMDA;4 MU;4 NU;4 XI;4 OMICRON;4 PI;4 RHO;4 FINAL SIGMA",
   "4 SIGMA;4 TAU;4 UPSILON;4 PHI;4 CHI;4 PSI;4 OMEGA;3 PARTIAL DIFFERENTIAL;3 EPSILON SYMBOL",
   "3 THETA SYMBOL;3 KAPPA SYMBOL;3 PHI SYMBOL;3 RHO SYMBOL;3 PI SYMBOL;3 ITALIC CAPITAL ALPHA",
   "5 BETA;5 GAMMA;5 DELTA;5 EPSILON;5 ZETA;5 ETA;5 THETA;5 IOTA;5 KAPPA;5 LAMDA;5 MU;5 NU;5 XI",
   "5 OMICRON;5 PI;5 RHO;5 THETA SYMBOL;5 SIGMA;5 TAU;5 UPSILON;5 PHI;5 CHI;5 PSI;5 OMEGA;4 NABLA",
   "4 SMALL ALPHA;5 BETA;5 GAMMA;5 DELTA;5 EPSILON;5 ZETA;5 ETA;5 THETA;5 IOTA;5 KAPPA;5 LAMDA;5 MU",
   "5 NU;5 XI;5 OMICRON;5 PI;5 RHO;5 FINAL SIGMA;5 SIGMA;5 TAU;5 UPSILON;5 PHI;5 CHI;5 PSI;5 OMEGA",
   "4 PARTIAL DIFFERENTIAL;4 EPSILON SYMBOL;4 THETA SYMBOL;4 KAPPA SYMBOL;4 PHI SYMBOL;4 RHO SYMBOL",
   "4 PI SYMBOL;1 BOLD CAPITAL DIGAMMA;2 SMALL DIGAMMA;@1d7ce;2 DIGIT ZERO;3 ONE;3 TWO;3 THREE",
   "3 FOUR;3 FIVE;3 SIX;3 SEVEN;3 EIGHT;3 NINE;1 DOUBLE-STRUCK DIGIT ZERO;3 ONE;3 TWO;3 THREE",
   "3 FOUR;3 FIVE;3 SIX;3 SEVEN;3 EIGHT;3 NINE;1 SANS-SERIF DIGIT ZERO;3 ONE;3 TWO;3 THREE;3 FOUR",
   "3 FIVE;3 SIX;3 SEVEN;3 EIGHT;3 NINE;2 BOLD DIGIT ZERO;4 ONE;4 TWO;4 THREE;4 FOUR;4 FIVE;4 SIX",
   "4 SEVEN;4 EIGHT;4 NINE;1 MONOSPACE DIGIT ZERO;3 ONE;3 TWO;3 THREE;3 FOUR;3 FIVE;3 SIX;3 SEVEN",
   "3 EIGHT;3 NINE;0 SIGNWRITING HAND-FIST INDEX;1 HAND-CIRCLE INDEX;1 HAND-CUP INDEX",
   "1 HAND-OVAL INDEX;1 HAND-HINGE INDEX;1 HAND-ANGLE INDEX;1 HAND-FIST INDEX BENT",
   "1 HAND-CIRCLE INDEX BENT;1 HAND-FIST THUMB UNDER INDEX BENT;2 INDEX RAISED KNUCKLE;3 CUPPED",
   "3 HINGED;4 LOW;1 HAND-CIRCLE INDEX HINGE;1 HAND-FIST INDEX MIDDLE;1 HAND-CIRCLE INDEX MIDDLE",
   "1 HAND-FIST INDEX MIDDLE BENT;4 RAISED KNUCKLES;4 HINGED;3 UP MIDDLE HINGED;3 HINGED MIDDLE UP",
   "3 MIDDLE CONJOINED;5 INDEX BENT;5 MIDDLE BENT;5 CUPPED;5 HINGED;4 CROSSED",
   "1 HAND-CIRCLE INDEX MIDDLE CROSSED;1 HAND-FIST MIDDLE BENT OVER INDEX;2 INDEX BENT OVER MIDDLE",
   "3 MIDDLE THUMB;1 HAND-CIRCLE INDEX MIDDLE THUMB;1 HAND-FIST INDEX MIDDLE STRAIGHT THUMB BENT",
   "4 BENT THUMB STRAIGHT;4 THUMB BENT;4 HINGED SPREAD THUMB SIDE;3 UP MIDDLE HINGED THUMB SIDE",
   "7 CONJOINED;3 HINGED MIDDLE UP THUMB SIDE;3 MIDDLE UP SPREAD THUMB FORWARD;4 THUMB CUPPED",
   "5 CIRCLED;5 HOOKED;5 HINGED;2 THUMB BETWEEN INDEX MIDDLE STRAIGHT",
   "2 INDEX MIDDLE CONJOINED THUMB SIDE;7 CONJOINED;7 BENT;2 MIDDLE THUMB HOOKED INDEX UP",
   "2 INDEX THUMB HOOKED MIDDLE UP;3 MIDDLE CONJOINED HINGED THUMB SIDE;4 CROSSED THUMB SIDE",
   "4 CONJOINED THUMB FORWARD;5 CUPPED THUMB FORWARD;2 MIDDLE THUMB CUPPED INDEX UP",
   "2 INDEX THUMB CUPPED MIDDLE UP;2 MIDDLE THUMB CIRCLED INDEX UP;6 HINGED",
   "2 INDEX THUMB ANGLED OUT MIDDLE UP;5 IN MIDDLE UP;4 CIRCLED MIDDLE UP",
   "3 MIDDLE THUMB CONJOINED HINGED;5 ANGLED OUT;5 ANGLED;2 MIDDLE THUMB ANGLED OUT INDEX UP",
   "7 CROSSED;5 INDEX UP;2 INDEX THUMB HOOKED MIDDLE HINGED;1 HAND-FLAT FOUR FINGERS;4 BENT",
   "4 HINGED;4 CONJOINED;5 SPLIT;1 HAND-CLAW FOUR FINGERS CONJOINED",
   "1 HAND-FIST FOUR FINGERS CONJOINED BENT;1 HAND-HINGE FOUR FINGERS CONJOINED",
   "1 HAND-FLAT FIVE FINGERS SPREAD;2 HEEL FIVE FINGERS SPREAD;2 FIVE FINGERS SPREAD FOUR BENT",
   "2 HEEL FIVE FINGERS SPREAD FOUR BENT;2 FIVE FINGERS SPREAD BENT;2 HEEL FIVE FINGERS SPREAD BENT",
   "2 FIVE FINGERS SPREAD THUMB FORWARD;1 HAND-CUP FIVE FINGERS SPREAD;5 OPEN",
   "1 HAND-HINGE FIVE FINGERS SPREAD OPEN;1 HAND-OVAL FIVE FINGERS SPREAD",
   "1 HAND-FLAT FIVE FINGERS SPREAD HINGED;6 THUMB SIDE;6 NO THUMB;1 HAND-FLAT",
   "2 BETWEEN PALM FACINGS;2 HEEL;2 THUMB SIDE;2 HEEL THUMB SIDE;2 THUMB BENT;3 FORWARD",
   "2 SPLIT INDEX THUMB SIDE;3 CENTRE;4 THUMB SIDE;6 BENT;3 LITTLE;1 HAND-CLAW;2 THUMB SIDE",
   "2 NO THUMB;2 THUMB FORWARD;1 HAND-HOOK CURLICUE;1 HAND-HOOK;1 HAND-CUP OPEN;1 HAND-CUP",
   "2 OPEN THUMB SIDE;2 THUMB SIDE;2 OPEN NO THUMB;2 NO THUMB;2 OPEN THUMB FORWARD;2 THUMB FORWARD",
   "1 HAND-CURLICUE OPEN;1 HAND-CURLICUE;1 HAND-CIRCLE;1 HAND-OVAL;2 THUMB SIDE;2 NO THUMB",
   "2 THUMB FORWARD;1 HAND-HINGE OPEN;3 THUMB FORWARD;1 HAND-HINGE;2 SMALL;2 OPEN THUMB SIDE",
   "2 THUMB SIDE;2 OPEN NO THUMB;2 NO THUMB;2 THUMB SIDE TOUCHING INDEX;3 BETWEEN MIDDLE RING",
   "1 HAND-ANGLE;1 HAND-FIST INDEX MIDDLE RING;1 HAND-CIRCLE INDEX MIDDLE RING",
   "1 HAND-HINGE INDEX MIDDLE RING;1 HAND-ANGLE INDEX MIDDLE RING;1 HAND-HINGE LITTLE",
   "1 HAND-FIST INDEX MIDDLE RING BENT;5 CONJOINED;1 HAND-HINGE INDEX MIDDLE RING CONJOINED",
   "1 HAND-FIST LITTLE DOWN;4 RIPPLE STRAIGHT;5 CURVED;4 OTHERS CIRCLED;3 UP",
   "2 THUMB UNDER LITTLE UP;1 HAND-CIRCLE LITTLE UP;1 HAND-OVAL LITTLE UP;1 HAND-ANGLE LITTLE UP",
   "1 HAND-FIST LITTLE RAISED KNUCKLE;3 BENT;3 TOUCHES THUMB;3 THUMB;1 HAND-HINGE LITTLE THUMB",
   "1 HAND-FIST LITTLE INDEX THUMB;1 HAND-HINGE LITTLE INDEX THUMB",
   "1 HAND-ANGLE LITTLE INDEX THUMB INDEX THUMB OUT;6 THUMB;1 HAND-FIST LITTLE INDEX",
   "1 HAND-CIRCLE LITTLE INDEX;1 HAND-HINGE LITTLE INDEX;1 HAND-ANGLE LITTLE INDEX",
   "1 HAND-FIST INDEX MIDDLE LITTLE;1 HAND-CIRCLE INDEX MIDDLE LITTLE",
   "1 HAND-HINGE INDEX MIDDLE LITTLE;2 RING;1 HAND-ANGLE INDEX MIDDLE LITTLE",
   "1 HAND-FIST INDEX MIDDLE CROSS LITTLE;1 HAND-CIRCLE INDEX MIDDLE CROSS LITTLE",
   "1 HAND-FIST RING DOWN;1 HAND-HINGE RING DOWN INDEX THUMB HOOK MIDDLE",
   "1 HAND-ANGLE RING DOWN MIDDLE THUMB INDEX CROSS;1 HAND-FIST RING UP;3 RAISED KNUCKLE;3 LITTLE",
   "1 HAND-CIRCLE RING LITTLE;1 HAND-OVAL RING LITTLE;1 HAND-ANGLE RING LITTLE",
   "1 HAND-FIST RING MIDDLE;4 CONJOINED;4 RAISED KNUCKLES;3 INDEX;3 THUMB;1 HAND-HOOK RING THUMB",
   "1 HAND-FIST INDEX RING LITTLE;1 HAND-CIRCLE INDEX RING LITTLE",
   "1 HAND-CURLICUE INDEX RING LITTLE ON;1 HAND-HOOK INDEX RING LITTLE OUT;5 IN;5 UNDER",
   "1 HAND-CUP INDEX RING LITTLE;1 HAND-HINGE INDEX RING LITTLE;1 HAND-ANGLE INDEX RING LITTLE OUT",
   "4 LITTLE;1 HAND-FIST MIDDLE DOWN;1 HAND-HINGE MIDDLE;1 HAND-FIST MIDDLE UP",
   "1 HAND-CIRCLE MIDDLE UP;1 HAND-FIST MIDDLE RAISED KNUCKLE;3 UP THUMB SIDE",
   "1 HAND-HOOK MIDDLE THUMB;1 HAND-FIST MIDDLE THUMB LITTLE;3 LITTLE;3 RING LITTLE",
   "1 HAND-CIRCLE MIDDLE RING LITTLE;1 HAND-CURLICUE MIDDLE RING LITTLE ON",
   "1 HAND-CUP MIDDLE RING LITTLE;1 HAND-HINGE MIDDLE RING LITTLE",
   "1 HAND-ANGLE MIDDLE RING LITTLE OUT;5 IN;4 LITTLE;1 HAND-CIRCLE MIDDLE RING LITTLE BENT",
   "1 HAND-CLAW MIDDLE RING LITTLE CONJOINED;6 SIDE;1 HAND-HOOK MIDDLE RING LITTLE CONJOINED OUT",
   "6 IN;5 CONJOINED;1 HAND-HINGE INDEX HINGED;1 HAND-FIST INDEX THUMB SIDE",
   "1 HAND-HINGE INDEX THUMB SIDE;1 HAND-FIST INDEX THUMB SIDE THUMB DIAGONAL;6 CONJOINED;6 BENT",
   "5 INDEX BENT;5 BOTH BENT;5 INDEX HINGE;4 FORWARD INDEX STRAIGHT;6 BENT;4 HOOK;4 CURLICUE",
   "4 CURVE THUMB INSIDE;1 HAND-CLAW INDEX THUMB CURVE THUMB INSIDE",
   "1 HAND-FIST INDEX THUMB CURVE THUMB UNDER;4 CIRCLE;1 HAND-CUP INDEX THUMB;4 OPEN",
   "1 HAND-HINGE INDEX THUMB OPEN;4 LARGE;3 THUMB;4 SMALL;1 HAND-ANGLE INDEX THUMB OUT;4 IN;3 THUMB",
   "1 HAND-FIST THUMB;3 HEEL;3 SIDE DIAGONAL;4 CONJOINED;4 BENT;3 FORWARD;3 BETWEEN INDEX MIDDLE",
   "4 MIDDLE RING;4 RING LITTLE;3 UNDER TWO FINGERS;3 OVER TWO FINGERS;3 UNDER THREE FINGERS",
   "4 FOUR FINGERS;3 OVER FOUR RAISED KNUCKLES;1 HAND-FIST;2 HEEL;1 TOUCH SINGLE;2 MULTIPLE",
   "2 BETWEEN;1 GRASP SINGLE;2 MULTIPLE;2 BETWEEN;1 STRIKE SINGLE;2 MULTIPLE;2 BETWEEN",
   "1 BRUSH SINGLE;2 MULTIPLE;2 BETWEEN;1 RUB SINGLE;2 MULTIPLE;2 BETWEEN;1 SURFACE SYMBOLS",
   "2 BETWEEN;1 SQUEEZE LARGE SINGLE;2 SMALL SINGLE;2 LARGE MULTIPLE;2 SMALL MULTIPLE;2 SEQUENTIAL",
   "1 FLICK LARGE SINGLE;2 SMALL SINGLE;2 LARGE MULTIPLE;2 SMALL MULTIPLE;2 SEQUENTIAL",
   "1 SQUEEZE FLICK ALTERNATING;1 MOVEMENT-HINGE UP DOWN LARGE;4 SMALL;3 SEQUENTIAL",
   "2 DOWN SEQUENTIAL;2 UP DOWN ALTERNATING LARGE;5 SMALL;2 SIDE TO SIDE SCISSORS",
   "1 MOVEMENT-WALLPLANE FINGER CONTACT;1 MOVEMENT-FLOORPLANE FINGER CONTACT",
   "1 MOVEMENT-WALLPLANE SINGLE STRAIGHT SMALL;4 MEDIUM;4 LARGE;4 LARGEST;3 WRIST FLEX",
   "2 DOUBLE STRAIGHT;3 WRIST FLEX;3 ALTERNATING;4 WRIST FLEX;2 CROSS;2 TRIPLE STRAIGHT MOVEMENT",
   "3 WRIST FLEX;3 ALTERNATING;4 WRIST FLEX;2 BEND SMALL;3 MEDIUM;3 LARGE;2 CORNER SMALL;3 MEDIUM",
   "3 LARGE;3 ROTATION;2 CHECK SMALL;3 MEDIUM;3 LARGE;2 BOX SMALL;3 MEDIUM;3 LARGE;2 ZIGZAG SMALL",
   "3 MEDIUM;3 LARGE;2 PEAKS SMALL;3 MEDIUM;3 LARGE;1 TRAVEL-WALLPLANE ROTATION-WALLPLANE SINGLE",
   "3 DOUBLE;3 ALTERNATING;2 ROTATION-FLOORPLANE SINGLE;3 DOUBLE;3 ALTERNATING;2 SHAKING",
   "2 ARM SPIRAL SINGLE;4 DOUBLE;4 TRIPLE;1 MOVEMENT-DIAGONAL AWAY SMALL;3 MEDIUM;3 LARGE;3 LARGEST",
   "2 TOWARDS SMALL;3 MEDIUM;3 LARGE;3 LARGEST;2 BETWEEN AWAY SMALL;4 MEDIUM;4 LARGE;4 LARGEST",
   "3 TOWARDS SMALL;4 MEDIUM;4 LARGE;4 LARGEST;1 MOVEMENT-FLOORPLANE SINGLE STRAIGHT SMALL;4 MEDIUM",
   "4 LARGE;4 LARGEST;3 WRIST FLEX;2 DOUBLE STRAIGHT;3 WRIST FLEX;3 ALTERNATING;4 WRIST FLEX",
   "2 CROSS;2 TRIPLE STRAIGHT MOVEMENT;3 WRIST FLEX;3 ALTERNATING MOVEMENT;4 WRIST FLEX;2 BEND",
   "2 CORNER SMALL;3 MEDIUM;3 LARGE;2 CHECK;2 BOX SMALL;3 MEDIUM;3 LARGE;2 ZIGZAG SMALL;3 MEDIUM",
   "3 LARGE;2 PEAKS SMALL;3 MEDIUM;3 LARGE;1 TRAVEL-FLOORPLANE ROTATION-FLOORPLANE SINGLE;3 DOUBLE",
   "3 ALTERNATING;2 ROTATION-WALLPLANE SINGLE;3 DOUBLE;3 ALTERNATING;2 SHAKING",
   "1 MOVEMENT-WALLPLANE CURVE QUARTER SMALL;4 MEDIUM;4 LARGE;4 LARGEST;3 HALF-CIRCLE SMALL",
   "4 MEDIUM;4 LARGE;4 LARGEST;3 THREE-QUARTER CIRCLE SMALL;5 MEDIUM;2 HUMP SMALL;3 MEDIUM;3 LARGE",
   "2 LOOP SMALL;3 MEDIUM;3 LARGE;3 SMALL DOUBLE;2 WAVE CURVE DOUBLE SMALL;5 MEDIUM;5 LARGE",
   "4 TRIPLE SMALL;5 MEDIUM;5 LARGE;2 CURVE THEN STRAIGHT;2 CURVED CROSS SMALL;4 MEDIUM",
   "1 ROTATION-WALLPLANE SINGLE;2 DOUBLE;2 ALTERNATE;1 MOVEMENT-WALLPLANE SHAKING",
   "2 CURVE HITTING FRONT WALL;2 HUMP HITTING FRONT WALL;2 LOOP HITTING FRONT WALL",
   "2 WAVE HITTING FRONT WALL;1 ROTATION-WALLPLANE SINGLE HITTING FRONT WALL",
   "2 DOUBLE HITTING FRONT WALL;2 ALTERNATING HITTING FRONT WALL",
   "1 MOVEMENT-WALLPLANE CURVE HITTING CHEST;2 HUMP HITTING CHEST;2 LOOP HITTING CHEST",
   "2 WAVE HITTING CHEST;1 ROTATION-WALLPLANE SINGLE HITTING CHEST;2 DOUBLE HITTING CHEST",
   "2 ALTERNATING HITTING CHEST;1 MOVEMENT-WALLPLANE WAVE DIAGONAL PATH SMALL;5 MEDIUM;5 LARGE",
   "1 MOVEMENT-FLOORPLANE CURVE HITTING CEILING SMALL;5 LARGE;2 HUMP HITTING CEILING SMALL DOUBLE",
   "5 LARGE DOUBLE;5 SMALL TRIPLE;5 LARGE TRIPLE;2 LOOP HITTING CEILING SMALL SINGLE;5 LARGE SINGLE",
   "5 SMALL DOUBLE;5 LARGE DOUBLE;2 WAVE HITTING CEILING SMALL;5 LARGE",
   "1 ROTATION-FLOORPLANE SINGLE HITTING CEILING;2 DOUBLE HITTING CEILING",
   "2 ALTERNATING HITTING CEILING;1 MOVEMENT-FLOORPLANE CURVE HITTING FLOOR SMALL;5 LARGE",
   "2 HUMP HITTING FLOOR SMALL DOUBLE;5 LARGE DOUBLE;5 TRIPLE SMALL TRIPLE;6 LARGE TRIPLE",
   "2 LOOP HITTING FLOOR SMALL SINGLE;5 LARGE SINGLE;5 SMALL DOUBLE;5 LARGE DOUBLE",
   "2 WAVE HITTING FLOOR SMALL;5 LARGE;1 ROTATION-FLOORPLANE SINGLE HITTING FLOOR",
   "2 DOUBLE HITTING FLOOR;2 ALTERNATING HITTING FLOOR;1 MOVEMENT-FLOORPLANE CURVE SMALL;3 MEDIUM",
   "3 LARGE;3 LARGEST;3 COMBINED;2 HUMP SMALL;2 LOOP SMALL;2 WAVE SNAKE;3 SMALL;3 LARGE",
   "1 ROTATION-FLOORPLANE SINGLE;2 DOUBLE;2 ALTERNATING;1 MOVEMENT-FLOORPLANE SHAKING PARALLEL",
   "1 MOVEMENT-WALLPLANE ARM CIRCLE SMALL SINGLE;4 MEDIUM SINGLE;4 SMALL DOUBLE;4 MEDIUM DOUBLE",
   "1 MOVEMENT-FLOORPLANE ARM CIRCLE HITTING WALL SMALL SINGLE;6 MEDIUM SINGLE;6 LARGE SINGLE",
   "6 SMALL DOUBLE;6 MEDIUM DOUBLE;6 LARGE DOUBLE;1 MOVEMENT-WALLPLANE WRIST CIRCLE FRONT SINGLE",
   "5 DOUBLE;1 MOVEMENT-FLOORPLANE WRIST CIRCLE HITTING WALL SINGLE;6 DOUBLE",
   "1 MOVEMENT-WALLPLANE FINGER CIRCLES SINGLE;4 DOUBLE",
   "1 MOVEMENT-FLOORPLANE FINGER CIRCLES HITTING WALL SINGLE;6 DOUBLE;1 DYNAMIC ARROWHEAD SMALL",
   "3 LARGE;2 FAST;2 SLOW;2 TENSE;2 RELAXED;2 SIMULTANEOUS;3 ALTERNATING;2 EVERY OTHER TIME",
   "2 GRADUAL;1 HEAD;2 RIM;2 MOVEMENT-WALLPLANE STRAIGHT;3 TILT;2 MOVEMENT-FLOORPLANE STRAIGHT",
   "2 MOVEMENT-WALLPLANE CURVE;2 MOVEMENT-FLOORPLANE CURVE;2 MOVEMENT CIRCLE",
   "1 FACE DIRECTION POSITION NOSE FORWARD TILTING;5 UP OR DOWN;8 TILTING;1 EYEBROWS STRAIGHT UP",
   "3 NEUTRAL;3 DOWN;1 DREAMY EYEBROWS NEUTRAL DOWN;3 DOWN NEUTRAL;3 UP NEUTRAL;3 NEUTRAL UP",
   "1 FOREHEAD NEUTRAL;2 CONTACT;2 WRINKLED;1 EYES OPEN;2 SQUEEZED;2 CLOSED;1 EYE BLINK SINGLE",
   "3 MULTIPLE;1 EYES HALF OPEN;2 WIDE OPEN;2 HALF CLOSED;2 WIDENING MOVEMENT;1 EYE WINK",
   "1 EYELASHES UP;2 DOWN;2 FLUTTERING;1 EYEGAZE-WALLPLANE STRAIGHT;3 DOUBLE;3 ALTERNATING",
   "1 EYEGAZE-FLOORPLANE STRAIGHT;3 DOUBLE;3 ALTERNATING;1 EYEGAZE-WALLPLANE CURVED",
   "1 EYEGAZE-FLOORPLANE CURVED;1 EYEGAZE-WALLPLANE CIRCLING;1 CHEEKS PUFFED;2 NEUTRAL;2 SUCKED",
   "1 TENSE CHEEKS HIGH;3 MIDDLE;3 LOW;1 EARS;1 NOSE NEUTRAL;2 CONTACT;2 WRINKLES;2 WIGGLES",
   "1 AIR BLOWING OUT;2 SUCKING IN;2 BLOW SMALL ROTATIONS;2 SUCK SMALL ROTATIONS;1 BREATH INHALE",
   "2 EXHALE;1 MOUTH CLOSED NEUTRAL;3 FORWARD;3 CONTACT;2 SMILE;3 WRINKLED;3 OPEN;2 FROWN",
   "3 WRINKLED;3 OPEN;2 OPEN CIRCLE;3 FORWARD;3 WRINKLED;3 OVAL;4 WRINKLED;4 YAWN;3 RECTANGLE",
   "4 WRINKLED;4 YAWN;2 KISS;3 FORWARD;3 WRINKLED;2 TENSE;3 FORWARD;3 SUCKED",
   "1 LIPS PRESSED TOGETHER;1 LIP LOWER OVER UPPER;2 UPPER OVER LOWER;1 MOUTH CORNERS",
   "2 WRINKLES SINGLE;3 DOUBLE;1 TONGUE STICKING OUT FAR;2 LICKING LIPS;2 TIP BETWEEN LIPS",
   "3 TOUCHING INSIDE MOUTH;2 INSIDE MOUTH RELAXED;2 MOVES AGAINST CHEEK;2 CENTRE STICKING OUT",
   "3 INSIDE MOUTH;1 TEETH;2 MOVEMENT;2 ON TONGUE;4 MOVEMENT;3 LIPS;4 MOVEMENT;2 BITE LIPS",
   "1 MOVEMENT-WALLPLANE JAW;1 MOVEMENT-FLOORPLANE JAW;1 NECK;1 HAIR;1 EXCITEMENT",
   "1 SHOULDER HIP SPINE;3 POSITIONS;1 WALLPLANE SHOULDER HIP MOVE;1 FLOORPLANE SHOULDER HIP MOVE",
   "1 SHOULDER TILTING FROM WAIST;1 TORSO-WALLPLANE STRAIGHT STRETCH;2 CURVED BEND",
   "1 TORSO-FLOORPLANE TWISTING;1 UPPER BODY TILTING FROM HIP JOINTS;1 LIMB COMBINATION;2 LENGTH-1",
   "2 LENGTH-2;2 LENGTH-3;2 LENGTH-4;2 LENGTH-5;2 LENGTH-6;2 LENGTH-7;1 FINGER",
   "1 LOCATION-WALLPLANE SPACE;1 LOCATION-FLOORPLANE SPACE;1 LOCATION HEIGHT;2 WIDTH;2 DEPTH",
   "2 HEAD NECK;2 TORSO;2 LIMBS DIGITS;1 COMMA;1 FULL STOP;1 SEMICOLON;1 COLON;1 PARENTHESIS;@1da9b",
   "1 FILL MODIFIER-2;2 MODIFIER-3;2 MODIFIER-4;2 MODIFIER-5;2 MODIFIER-6;@1daa1",
   "1 ROTATION MODIFIER-2;2 MODIFIER-3;2 MODIFIER-4;2 MODIFIER-5;2 MODIFIER-6;2 MODIFIER-7",
   "2 MODIFIER-8;2 MODIFIER-9;2 MODIFIER-10;2 MODIFIER-11;2 MODIFIER-12;2 MODIFIER-13;2 MODIFIER-14",
   "2 MODIFIER-15;2 MODIFIER-16;@1df00;0 LATIN SMALL LETTER FENG DIGRAPH WITH TRILL",
   "3 REVERSED SCRIPT G;1 LETTER SMALL CAPITAL TURNED G;1 SMALL LETTER REVERSED K",
   "1 LETTER SMALL CAPITAL L WITH BELT;1 SMALL LETTER LEZH WITH RETROFLEX HOOK;3 TURNED Y WITH BELT",
   "3 REVERSED ENG;3 TURNED R WITH LONG LEG AND RETROFLEX HOOK;3 T WITH HOOK AND RETROFLEX HOOK",
   "1 LETTER RETROFLEX CLICK WITH RETROFLEX HOOK;1 SMALL LETTER ESH WITH DOUBLE BAR;7 AND CURL",
   "3 TURNED T WITH CURL;1 LETTER INVERTED GLOTTAL STOP WITH CURL;2 STRETCHED C WITH CURL",
   "2 SMALL CAPITAL TURNED K;1 SMALL LETTER L WITH FISHHOOK;3 DEZH DIGRAPH WITH PALATAL HOOK",
   "3 L WITH BELT AND PALATAL HOOK;3 ENG WITH PALATAL HOOK;3 TURNED R WITH PALATAL HOOK",
   "3 R WITH FISHHOOK AND PALATAL HOOK;3 TESH DIGRAPH WITH PALATAL HOOK;3 EZH WITH PALATAL HOOK",
   "3 DEZH DIGRAPH WITH RETROFLEX HOOK;3 I WITH STROKE AND RETROFLEX HOOK;3 O WITH RETROFLEX HOOK",
   "3 TESH DIGRAPH WITH RETROFLEX HOOK;3 C WITH RETROFLEX HOOK;3 S WITH CURL"]

end FormCheck.Text
