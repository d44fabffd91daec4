/-!
# Names of Eastern letters

* `easternNames` — the blocks from Glagolitic to the later parts of Hangul syllables: radicals,
  kana, bopomofo, squares, the Yi syllables and the scripts that follow them.
-/

namespace FormCheck.Text

/-- The names of the characters from `0x2c00` to `0xd7fb`, in the notation of tables of names. -/
def easternNames : List String :=
  ["@2c00;0 GLAGOLITIC CAPITAL LETTER AZU;3 BUKY;3 VEDE;3 GLAGOLI;3 DOBRO;3 YESTU;3 ZHIVETE;3 DZELO",
   "3 ZEMLJA;3 IZHE;3 INITIAL IZHE;3 I;3 DJERVI;3 KAKO;3 LJUDIJE;3 MYSLITE;3 NASHI;3 ONU;3 POKOJI",
   "3 RITSI;3 SLOVO;3 TVRIDO;3 UKU;3 FRITU;3 HERU;3 OTU;3 PE;3 SHTA;3 TSI;3 CHRIVI;3 SHA;3 YERU",
   "3 YERI;3 YATI;3 SPIDERY HA;3 YU;3 SMALL YUS;5 WITH TAIL;3 YO;3 IOTATED SMALL YUS;3 BIG YUS",
   "3 IOTATED BIG YUS;3 FITA;3 IZHITSA;3 SHTAPIC;3 TROKUTASTI A;3 LATINATE MYSLITE;3 CAUDATE CHRIVI",
   "1 SMALL LETTER AZU;3 BUKY;3 VEDE;3 GLAGOLI;3 DOBRO;3 YESTU;3 ZHIVETE;3 DZELO;3 ZEMLJA;3 IZHE",
   "3 INITIAL IZHE;3 I;3 DJERVI;3 KAKO;3 LJUDIJE;3 MYSLITE;3 NASHI;3 ONU;3 POKOJI;3 RITSI;3 SLOVO",
   "3 TVRIDO;3 UKU;3 FRITU;3 HERU;3 OTU;3 PE;3 SHTA;3 TSI;3 CHRIVI;3 SHA;3 YERU;3 YERI;3 YATI",
   "3 SPIDERY HA;3 YU;3 SMALL YUS;5 WITH TAIL;3 YO;3 IOTATED SMALL YUS;3 BIG YUS;3 IOTATED BIG YUS",
   "3 FITA;3 IZHITSA;3 SHTAPIC;3 TROKUTASTI A;3 LATINATE MYSLITE;3 CAUDATE CHRIVI",
   "0 LATIN CAPITAL LETTER L WITH DOUBLE BAR;1 SMALL LETTER L WITH DOUBLE BAR",
   "1 CAPITAL LETTER L WITH MIDDLE TILDE;3 P WITH STROKE;3 R WITH TAIL;1 SMALL LETTER A WITH STROKE",
   "3 T WITH DIAGONAL STROKE;1 CAPITAL LETTER H WITH DESCENDER;1 SMALL LETTER H WITH DESCENDER",
   "1 CAPITAL LETTER K WITH DESCENDER;1 SMALL LETTER K WITH DESCENDER",
   "1 CAPITAL LETTER Z WITH DESCENDER;1 SMALL LETTER Z WITH DESCENDER;1 CAPITAL LETTER ALPHA",
   "3 M WITH HOOK;3 TURNED A;4 ALPHA;1 SMALL LETTER V WITH RIGHT HOOK;1 CAPITAL LETTER W WITH HOOK",
   "1 SMALL LETTER W WITH HOOK;3 V WITH CURL;1 CAPITAL LETTER HALF H;1 SMALL LETTER HALF H",
   "3 TAILLESS PHI;3 E WITH NOTCH;3 TURNED R WITH TAIL;3 O WITH LOW RING INSIDE",
   "1 LETTER SMALL CAPITAL TURNED E;1 SUBSCRIPT SMALL LETTER J;0 MODIFIER LETTER CAPITAL V",
   "0 LATIN CAPITAL LETTER S WITH SWASH TAIL;3 Z WITH SWASH TAIL;0 COPTIC CAPITAL LETTER ALFA",
   "1 SMALL LETTER ALFA;1 CAPITAL LETTER VIDA;1 SMALL LETTER VIDA;1 CAPITAL LETTER GAMMA",
   "1 SMALL LETTER GAMMA;1 CAPITAL LETTER DALDA;1 SMALL LETTER DALDA;1 CAPITAL LETTER EIE",
   "1 SMALL LETTER EIE;1 CAPITAL LETTER SOU;1 SMALL LETTER SOU;1 CAPITAL LETTER ZATA",
   "1 SMALL LETTER ZATA;1 CAPITAL LETTER HATE;1 SMALL LETTER HATE;1 CAPITAL LETTER THETHE",
   "1 SMALL LETTER THETHE;1 CAPITAL LETTER IAUDA;1 SMALL LETTER IAUDA;1 CAPITAL LETTER KAPA",
   "1 SMALL LETTER KAPA;1 CAPITAL LETTER LAULA;1 SMALL LETTER LAULA;1 CAPITAL LETTER MI",
   "1 SMALL LETTER MI;1 CAPITAL LETTER NI;1 SMALL LETTER NI;1 CAPITAL LETTER KSI;1 SMALL LETTER KSI",
   "1 CAPITAL LETTER O;1 SMALL LETTER O;1 CAPITAL LETTER PI;1 SMALL LETTER PI;1 CAPITAL LETTER RO",
   "1 SMALL LETTER RO;1 CAPITAL LETTER SIMA;1 SMALL LETTER SIMA;1 CAPITAL LETTER TAU",
   "1 SMALL LETTER TAU;1 CAPITAL LETTER UA;1 SMALL LETTER UA;1 CAPITAL LETTER FI;1 SMALL LETTER FI",
   "1 CAPITAL LETTER KHI;1 SMALL LETTER KHI;1 CAPITAL LETTER PSI;1 SMALL LETTER PSI",
   "1 CAPITAL LETTER OOU;1 SMALL LETTER OOU;1 CAPITAL LETTER DIALECT-P ALEF",
   "1 SMALL LETTER DIALECT-P ALEF;1 CAPITAL LETTER OLD COPTIC AIN;1 SMALL LETTER OLD COPTIC AIN",
   "1 CAPITAL LETTER CRYPTOGRAMMIC EIE;1 SMALL LETTER CRYPTOGRAMMIC EIE",
   "1 CAPITAL LETTER DIALECT-P KAPA;1 SMALL LETTER DIALECT-P KAPA;1 CAPITAL LETTER DIALECT-P NI",
   "1 SMALL LETTER DIALECT-P NI;1 CAPITAL LETTER CRYPTOGRAMMIC NI;1 SMALL LETTER CRYPTOGRAMMIC NI",
   "1 CAPITAL LETTER OLD COPTIC OOU;1 SMALL LETTER OLD COPTIC OOU;1 CAPITAL LETTER SAMPI",
   "1 SMALL LETTER SAMPI;1 CAPITAL LETTER CROSSED SHEI;1 SMALL LETTER CROSSED SHEI",
   "1 CAPITAL LETTER OLD COPTIC SHEI;1 SMALL LETTER OLD COPTIC SHEI;1 CAPITAL LETTER OLD COPTIC ESH",
   "1 SMALL LETTER OLD COPTIC ESH;1 CAPITAL LETTER AKHMIMIC KHEI;1 SMALL LETTER AKHMIMIC KHEI",
   "1 CAPITAL LETTER DIALECT-P HORI;1 SMALL LETTER DIALECT-P HORI;1 CAPITAL LETTER OLD COPTIC HORI",
   "1 SMALL LETTER OLD COPTIC HORI;1 CAPITAL LETTER OLD COPTIC HA;1 SMALL LETTER OLD COPTIC HA",
   "1 CAPITAL LETTER L-SHAPED HA;1 SMALL LETTER L-SHAPED HA;1 CAPITAL LETTER OLD COPTIC HEI",
   "1 SMALL LETTER OLD COPTIC HEI;1 CAPITAL LETTER OLD COPTIC HAT;1 SMALL LETTER OLD COPTIC HAT",
   "1 CAPITAL LETTER OLD COPTIC GANGIA;1 SMALL LETTER OLD COPTIC GANGIA",
   "1 CAPITAL LETTER OLD COPTIC DJA;1 SMALL LETTER OLD COPTIC DJA;1 CAPITAL LETTER OLD COPTIC SHIMA",
   "1 SMALL LETTER OLD COPTIC SHIMA;1 CAPITAL LETTER OLD NUBIAN SHIMA",
   "1 SMALL LETTER OLD NUBIAN SHIMA;1 CAPITAL LETTER OLD NUBIAN NGI;1 SMALL LETTER OLD NUBIAN NGI",
   "1 CAPITAL LETTER OLD NUBIAN NYI;1 SMALL LETTER OLD NUBIAN NYI;1 CAPITAL LETTER OLD NUBIAN WAU",
   "1 SMALL LETTER OLD NUBIAN WAU;1 SYMBOL KAI;2 MI RO;2 PI RO;2 STAUROS;2 TAU RO;2 KHI RO",
   "2 SHIMA SIMA;1 CAPITAL LETTER CRYPTOGRAMMIC SHEI;1 SMALL LETTER CRYPTOGRAMMIC SHEI",
   "1 CAPITAL LETTER CRYPTOGRAMMIC GANGIA;1 SMALL LETTER CRYPTOGRAMMIC GANGIA;1 COMBINING NI ABOVE",
   "2 SPIRITUS ASPER;3 LENIS;1 CAPITAL LETTER BOHAIRIC KHEI;1 SMALL LETTER BOHAIRIC KHEI;@2cf9",
   "1 OLD NUBIAN FULL STOP;3 DIRECT QUESTION MARK;3 INDIRECT QUESTION MARK;3 VERSE DIVIDER",
   "1 FRACTION ONE HALF;1 FULL STOP;1 MORPHOLOGICAL DIVIDER;0 GEORGIAN SMALL LETTER AN;3 BAN;3 GAN",
   "3 DON;3 EN;3 VIN;3 ZEN;3 TAN;3 IN;3 KAN;3 LAS;3 MAN;3 NAR;3 ON;3 PAR;3 ZHAR;3 RAE;3 SAN;3 TAR",
   "3 UN;3 PHAR;3 KHAR;3 GHAN;3 QAR;3 SHIN;3 CHIN;3 CAN;3 JIL;3 CIL;3 CHAR;3 XAN;3 JHAN;3 HAE;3 HE",
   "3 HIE;3 WE;3 HAR;3 HOE;@2d27;3 YN;@2d2d;3 AEN;@2d30;0 TIFINAGH LETTER YA;2 YAB;2 YABH;2 YAG",
   "2 YAGHH;2 BERBER ACADEMY YAJ;2 YAJ;2 YAD;2 YADH;2 YADD;2 YADDH;2 YEY;2 YAF;2 YAK;2 TUAREG YAK",
   "2 YAKHH;2 YAH;2 BERBER ACADEMY YAH;2 TUAREG YAH;2 YAHH;2 YAA;2 YAKH;2 TUAREG YAKH;2 YAQ",
   "2 TUAREG YAQ;2 YI;2 YAZH;2 AHAGGAR YAZH;2 TUAREG YAZH;2 YAL;2 YAM;2 YAN;2 TUAREG YAGN;3 YANG",
   "2 YAP;2 YU;2 YAR;2 YARR;2 YAGH;2 TUAREG YAGH;2 AYER YAGH;2 YAS;2 YASS;2 YASH;2 YAT;2 YATH",
   "2 YACH;2 YATT;2 YAV;2 YAW;2 YAY;2 YAZ;2 TAWELLEMET YAZ;2 YAZZ;2 YE;2 YO;@2d6f",
   "1 MODIFIER LETTER LABIALIZATION MARK;1 SEPARATOR MARK;@2d7f;1 CONSONANT JOINER",
   "0 ETHIOPIC SYLLABLE LOA;2 MOA;2 ROA;2 SOA;2 SHOA;2 BOA;2 TOA;2 COA;2 NOA;2 NYOA;2 GLOTTAL OA",
   "2 ZOA;2 DOA;2 DDOA;2 JOA;2 THOA;2 CHOA;2 PHOA;2 POA;2 GGWA;2 GGWI;2 GGWEE;2 GGWE;@2da0;2 SSA",
   "2 SSU;2 SSI;2 SSAA;2 SSEE;2 SSE;2 SSO;@2da8;2 CCA;2 CCU;2 CCI;2 CCAA;2 CCEE;2 CCE;2 CCO;@2db0",
   "2 ZZA;2 ZZU;2 ZZI;2 ZZAA;2 ZZEE;2 ZZE;2 ZZO;@2db8;2 CCHA;2 CCHU;2 CCHI;2 CCHAA;2 CCHEE;2 CCHE",
   "2 CCHO;@2dc0;2 QYA;2 QYU;2 QYI;2 QYAA;2 QYEE;2 QYE;2 QYO;@2dc8;2 KYA;2 KYU;2 KYI;2 KYAA;2 KYEE",
   "2 KYE;2 KYO;@2dd0;2 XYA;2 XYU;2 XYI;2 XYAA;2 XYEE;2 XYE;2 XYO;@2dd8;2 GYA;2 GYU;2 GYI;2 GYAA",
   "2 GYEE;2 GYE;2 GYO;@2de0;0 COMBINING CYRILLIC LETTER BE;3 VE;3 GHE;3 DE;3 ZHE;3 ZE;3 KA;3 EL",
   "3 EM;3 EN;3 O;3 PE;3 ER;3 ES;3 TE;3 HA;3 TSE;3 CHE;3 SHA;3 SHCHA;3 FITA;3 ES-TE;3 A;3 IE",
   "3 DJERV;3 MONOGRAPH UK;3 YAT;3 YU;3 IOTIFIED A;3 LITTLE YUS;3 BIG YUS;3 IOTIFIED BIG YUS",
   "0 RIGHT ANGLE SUBSTITUTION MARKER;2 DOTTED SUBSTITUTION MARKER;0 LEFT SUBSTITUTION BRACKET",
   "0 RIGHT SUBSTITUTION BRACKET;0 LEFT DOTTED SUBSTITUTION BRACKET",
   "0 RIGHT DOTTED SUBSTITUTION BRACKET;0 RAISED INTERPOLATION MARKER;1 DOTTED INTERPOLATION MARKER",
   "0 DOTTED TRANSPOSITION MARKER;0 LEFT TRANSPOSITION BRACKET;0 RIGHT TRANSPOSITION BRACKET",
   "0 RAISED SQUARE;0 LEFT RAISED OMISSION BRACKET;0 RIGHT RAISED OMISSION BRACKET",
   "0 EDITORIAL CORONIS;0 PARAGRAPHOS;0 FORKED PARAGRAPHOS;0 REVERSED FORKED PARAGRAPHOS",
   "0 HYPODIASTOLE;0 DOTTED OBELOS;0 DOWNWARDS ANCORA;0 UPWARDS ANCORA",
   "0 DOTTED RIGHT-POINTING ANGLE;0 DOUBLE OBLIQUE HYPHEN;0 INVERTED INTERROBANG;0 PALM BRANCH",
   "0 HYPHEN WITH DIAERESIS;0 TILDE WITH RING ABOVE;0 LEFT LOW PARAPHRASE BRACKET",
   "0 RIGHT LOW PARAPHRASE BRACKET;0 TILDE WITH DOT ABOVE;3 BELOW;0 LEFT VERTICAL BAR WITH QUILL",
   "0 RIGHT VERTICAL BAR WITH QUILL;0 TOP LEFT HALF BRACKET;1 RIGHT HALF BRACKET",
   "0 BOTTOM LEFT HALF BRACKET;1 RIGHT HALF BRACKET;0 LEFT SIDEWAYS U BRACKET",
   "0 RIGHT SIDEWAYS U BRACKET;0 LEFT DOUBLE PARENTHESIS;0 RIGHT DOUBLE PARENTHESIS",
   "0 TWO DOTS OVER ONE DOT PUNCTUATION;0 ONE DOT OVER TWO DOTS PUNCTUATION",
   "0 SQUARED FOUR DOT PUNCTUATION;0 FIVE DOT MARK;0 REVERSED QUESTION MARK;0 VERTICAL TILDE",
   "0 RING POINT;0 WORD SEPARATOR MIDDLE DOT;0 TURNED COMMA;0 RAISED DOT;1 COMMA;0 TURNED SEMICOLON",
   "0 DAGGER WITH LEFT GUARD;2 RIGHT GUARD;0 TURNED DAGGER;0 TOP HALF SECTION SIGN;0 TWO-EM DASH",
   "0 THREE-EM DASH;0 STENOGRAPHIC FULL STOP;0 VERTICAL SIX DOTS;0 WIGGLY VERTICAL LINE;0 CAPITULUM",
   "0 DOUBLE HYPHEN;0 REVERSED COMMA;0 DOUBLE LOW-REVERSED-9 QUOTATION MARK;0 DASH WITH LEFT UPTURN",
   "0 DOUBLE SUSPENSION MARK;0 INVERTED LOW KAVYKA;3 WITH KAVYKA ABOVE;0 LOW KAVYKA;2 WITH DOT",
   "0 DOUBLE STACKED COMMA;0 DOTTED SOLIDUS;0 TRIPLE DAGGER;0 MEDIEVAL COMMA;0 PARAGRAPHUS MARK",
   "0 PUNCTUS ELEVATUS MARK;0 CORNISH VERSE DIVIDER;0 CROSS PATTY WITH RIGHT CROSSBAR",
   "3 LEFT CROSSBAR;0 TIRONIAN SIGN CAPITAL ET;0 MEDIEVAL EXCLAMATION MARK;1 QUESTION MARK",
   "0 LEFT SQUARE BRACKET WITH STROKE;0 RIGHT SQUARE BRACKET WITH STROKE",
   "0 LEFT SQUARE BRACKET WITH DOUBLE STROKE;0 RIGHT SQUARE BRACKET WITH DOUBLE STROKE",
   "0 TOP HALF LEFT PARENTHESIS;2 RIGHT PARENTHESIS;0 BOTTOM HALF LEFT PARENTHESIS",
   "2 RIGHT PARENTHESIS;0 OBLIQUE HYPHEN;@2e80;0 CJK RADICAL REPEAT;2 CLIFF;2 SECOND ONE;3 TWO",
   "3 THREE;2 PERSON;2 BOX;2 TABLE;2 KNIFE ONE;3 TWO;2 DIVINATION;2 SEAL;2 SMALL ONE;3 TWO",
   "2 LAME ONE;3 TWO;3 THREE;3 FOUR;2 SNAKE;2 THREAD;2 SNOUT ONE;3 TWO;2 HEART ONE;3 TWO;2 HAND",
   "2 RAP;@2e9b;2 CHOKE;2 SUN;2 MOON;2 DEATH;2 MOTHER;2 CIVILIAN;2 WATER ONE;3 TWO;2 FIRE;2 PAW ONE",
   "3 TWO;2 SIMPLIFIED HALF TREE TRUNK;2 COW;2 DOG;2 JADE;2 BOLT OF CLOTH;2 EYE;2 SPIRIT ONE;3 TWO",
   "2 BAMBOO;2 SILK;2 C-SIMPLIFIED SILK;2 NET ONE;3 TWO;3 THREE;3 FOUR;2 MESH;2 SHEEP;2 RAM;2 EWE",
   "2 OLD;2 BRUSH ONE;3 TWO;2 MEAT;2 MORTAR;2 GRASS ONE;3 TWO;3 THREE;2 TIGER;2 CLOTHES;2 WEST ONE",
   "3 TWO;2 C-SIMPLIFIED SEE;2 SIMPLIFIED HORN;2 HORN;2 C-SIMPLIFIED SPEECH;3 SHELL;2 FOOT",
   "2 C-SIMPLIFIED CART;2 SIMPLIFIED WALK;2 WALK ONE;3 TWO;2 CITY;2 C-SIMPLIFIED GOLD;2 LONG ONE",
   "3 TWO;2 C-SIMPLIFIED LONG;3 GATE;2 MOUND ONE;3 TWO;2 RAIN;2 BLUE;2 C-SIMPLIFIED TANNED LEATHER",
   "3 LEAF;3 WIND;3 FLY;2 EAT ONE;3 TWO;3 THREE;2 C-SIMPLIFIED EAT;2 HEAD;2 C-SIMPLIFIED HORSE",
   "2 BONE;2 GHOST;2 C-SIMPLIFIED FISH;3 BIRD;3 SALT;2 SIMPLIFIED WHEAT;3 YELLOW",
   "2 C-SIMPLIFIED FROG;2 J-SIMPLIFIED EVEN;2 C-SIMPLIFIED EVEN;2 J-SIMPLIFIED TOOTH",
   "2 C-SIMPLIFIED TOOTH;2 J-SIMPLIFIED DRAGON;2 C-SIMPLIFIED DRAGON;2 TURTLE;2 J-SIMPLIFIED TURTLE",
   "2 C-SIMPLIFIED TURTLE;@2f00;0 KANGXI RADICAL ONE;2 LINE;2 DOT;2 SLASH;2 SECOND;2 HOOK;2 TWO",
   "2 LID;2 MAN;2 LEGS;2 ENTER;2 EIGHT;2 DOWN BOX;2 COVER;2 ICE;2 TABLE;2 OPEN BOX;2 KNIFE;2 POWER",
   "2 WRAP;2 SPOON;2 RIGHT OPEN BOX;2 HIDING ENCLOSURE;2 TEN;2 DIVINATION;2 SEAL;2 CLIFF;2 PRIVATE",
   "2 AGAIN;2 MOUTH;2 ENCLOSURE;2 EARTH;2 SCHOLAR;2 GO;3 SLOWLY;2 EVENING;2 BIG;2 WOMAN;2 CHILD",
   "2 ROOF;2 INCH;2 SMALL;2 LAME;2 CORPSE;2 SPROUT;2 MOUNTAIN;2 RIVER;2 WORK;2 ONESELF;2 TURBAN",
   "2 DRY;2 SHORT THREAD;2 DOTTED CLIFF;2 LONG STRIDE;2 TWO HANDS;2 SHOOT;2 BOW;2 SNOUT;2 BRISTLE",
   "2 STEP;2 HEART;2 HALBERD;2 DOOR;2 HAND;2 BRANCH;2 RAP;2 SCRIPT;2 DIPPER;2 AXE;2 SQUARE;2 NOT",
   "2 SUN;2 SAY;2 MOON;2 TREE;2 LACK;2 STOP;2 DEATH;2 WEAPON;2 DO NOT;2 COMPARE;2 FUR;2 CLAN",
   "2 STEAM;2 WATER;2 FIRE;2 CLAW;2 FATHER;2 DOUBLE X;2 HALF TREE TRUNK;2 SLICE;2 FANG;2 COW;2 DOG",
   "2 PROFOUND;2 JADE;2 MELON;2 TILE;2 SWEET;2 LIFE;2 USE;2 FIELD;2 BOLT OF CLOTH;2 SICKNESS",
   "2 DOTTED TENT;2 WHITE;2 SKIN;2 DISH;2 EYE;2 SPEAR;2 ARROW;2 STONE;2 SPIRIT;2 TRACK;2 GRAIN",
   "2 CAVE;2 STAND;2 BAMBOO;2 RICE;2 SILK;2 JAR;2 NET;2 SHEEP;2 FEATHER;2 OLD;2 AND;2 PLOW;2 EAR",
   "2 BRUSH;2 MEAT;2 MINISTER;2 SELF;2 ARRIVE;2 MORTAR;2 TONGUE;2 OPPOSE;2 BOAT;2 STOPPING;2 COLOR",
   "2 GRASS;2 TIGER;2 INSECT;2 BLOOD;2 WALK ENCLOSURE;2 CLOTHES;2 WEST;2 SEE;2 HORN;2 SPEECH",
   "2 VALLEY;2 BEAN;2 PIG;2 BADGER;2 SHELL;2 RED;2 RUN;2 FOOT;2 BODY;2 CART;2 BITTER;2 MORNING",
   "2 WALK;2 CITY;2 WINE;2 DISTINGUISH;2 VILLAGE;2 GOLD;2 LONG;2 GATE;2 MOUND;2 SLAVE",
   "2 SHORT TAILED BIRD;2 RAIN;2 BLUE;2 WRONG;2 FACE;2 LEATHER;2 TANNED LEATHER;2 LEEK;2 SOUND",
   "2 LEAF;2 WIND;2 FLY;2 EAT;2 HEAD;2 FRAGRANT;2 HORSE;2 BONE;2 TALL;2 HAIR;2 FIGHT",
   "2 SACRIFICIAL WINE;2 CAULDRON;2 GHOST;2 FISH;2 BIRD;2 SALT;2 DEER;2 WHEAT;2 HEMP;2 YELLOW",
   "2 MILLET;2 BLACK;2 EMBROIDERY;2 FROG;2 TRIPOD;2 DRUM;2 RAT;2 NOSE;2 EVEN;2 TOOTH;2 DRAGON",
   "2 TURTLE;2 FLUTE;@2ff0;0 IDEOGRAPHIC DESCRIPTION CHARACTER LEFT TO RIGHT;3 ABOVE TO BELOW",
   "3 LEFT TO MIDDLE AND RIGHT;3 ABOVE TO MIDDLE AND BELOW;3 FULL SURROUND;3 SURROUND FROM ABOVE",
   "5 BELOW;5 LEFT;5 UPPER LEFT;6 RIGHT;5 LOWER LEFT;3 OVERLAID;@3000;1 SPACE;1 COMMA;1 FULL STOP",
   "0 DITTO MARK;0 JAPANESE INDUSTRIAL STANDARD SYMBOL;0 IDEOGRAPHIC ITERATION MARK;1 CLOSING MARK",
   "1 NUMBER ZERO;0 LEFT ANGLE BRACKET;0 RIGHT ANGLE BRACKET;0 LEFT DOUBLE ANGLE BRACKET",
   "0 RIGHT DOUBLE ANGLE BRACKET;0 LEFT CORNER BRACKET;0 RIGHT CORNER BRACKET",
   "0 LEFT WHITE CORNER BRACKET;0 RIGHT WHITE CORNER BRACKET;0 LEFT BLACK LENTICULAR BRACKET",
   "0 RIGHT BLACK LENTICULAR BRACKET;0 POSTAL MARK;0 GETA MARK;0 LEFT TORTOISE SHELL BRACKET",
   "0 RIGHT TORTOISE SHELL BRACKET;0 LEFT WHITE LENTICULAR BRACKET;0 RIGHT WHITE LENTICULAR BRACKET",
   "0 LEFT WHITE TORTOISE SHELL BRACKET;0 RIGHT WHITE TORTOISE SHELL BRACKET",
   "0 LEFT WHITE SQUARE BRACKET;0 RIGHT WHITE SQUARE BRACKET;0 WAVE DASH",
   "0 REVERSED DOUBLE PRIME QUOTATION MARK;0 DOUBLE PRIME QUOTATION MARK",
   "0 LOW DOUBLE PRIME QUOTATION MARK;0 POSTAL MARK FACE;0 HANGZHOU NUMERAL ONE;2 TWO;2 THREE",
   "2 FOUR;2 FIVE;2 SIX;2 SEVEN;2 EIGHT;2 NINE;0 IDEOGRAPHIC LEVEL TONE MARK;1 RISING TONE MARK",
   "1 DEPARTING TONE MARK;1 ENTERING TONE MARK;0 HANGUL SINGLE DOT TONE MARK;1 DOUBLE DOT TONE MARK",
   "0 WAVY DASH;0 VERTICAL KANA REPEAT MARK;3 WITH VOICED SOUND MARK;3 MARK UPPER HALF",
   "3 WITH VOICED SOUND MARK UPPER HALF;3 MARK LOWER HALF;0 CIRCLED POSTAL MARK",
   "0 IDEOGRAPHIC TELEGRAPH LINE FEED SEPARATOR SYMBOL;0 HANGZHOU NUMERAL TEN;2 TWENTY;2 THIRTY",
   "0 VERTICAL IDEOGRAPHIC ITERATION MARK;0 MASU MARK;0 PART ALTERNATION MARK",
   "0 IDEOGRAPHIC VARIATION INDICATOR;1 HALF FILL SPACE;@3041;0 HIRAGANA LETTER SMALL A;2 A",
   "2 SMALL I;2 I;2 SMALL U;2 U;2 SMALL E;2 E;2 SMALL O;2 O;2 KA;2 GA;2 KI;2 GI;2 KU;2 GU;2 KE;2 GE",
   "2 KO;2 GO;2 SA;2 ZA;2 SI;2 ZI;2 SU;2 ZU;2 SE;2 ZE;2 SO;2 ZO;2 TA;2 DA;2 TI;2 DI;2 SMALL TU;2 TU",
   "2 DU;2 TE;2 DE;2 TO;2 DO;2 NA;2 NI;2 NU;2 NE;2 NO;2 HA;2 BA;2 PA;2 HI;2 BI;2 PI;2 HU;2 BU;2 PU",
   "2 HE;2 BE;2 PE;2 HO;2 BO;2 PO;2 MA;2 MI;2 MU;2 ME;2 MO;2 SMALL YA;2 YA;2 SMALL YU;2 YU",
   "2 SMALL YO;2 YO;2 RA;2 RI;2 RU;2 RE;2 RO;2 SMALL WA;2 WA;2 WI;2 WE;2 WO;2 N;2 VU;2 SMALL KA",
   "3 KE;@3099;0 COMBINING KATAKANA-HIRAGANA VOICED SOUND MARK;2 SEMI-VOICED SOUND MARK",
   "0 KATAKANA-HIRAGANA VOICED SOUND MARK;1 SEMI-VOICED SOUND MARK;0 HIRAGANA ITERATION MARK",
   "1 VOICED ITERATION MARK;1 DIGRAPH YORI;0 KATAKANA-HIRAGANA DOUBLE HYPHEN",
   "0 KATAKANA LETTER SMALL A;2 A;2 SMALL I;2 I;2 SMALL U;2 U;2 SMALL E;2 E;2 SMALL O;2 O;2 KA;2 GA",
   "2 KI;2 GI;2 KU;2 GU;2 KE;2 GE;2 KO;2 GO;2 SA;2 ZA;2 SI;2 ZI;2 SU;2 ZU;2 SE;2 ZE;2 SO;2 ZO;2 TA",
   "2 DA;2 TI;2 DI;2 SMALL TU;2 TU;2 DU;2 TE;2 DE;2 TO;2 DO;2 NA;2 NI;2 NU;2 NE;2 NO;2 HA;2 BA;2 PA",
   "2 HI;2 BI;2 PI;2 HU;2 BU;2 PU;2 HE;2 BE;2 PE;2 HO;2 BO;2 PO;2 MA;2 MI;2 MU;2 ME;2 MO;2 SMALL YA",
   "2 YA;2 SMALL YU;2 YU;2 SMALL YO;2 YO;2 RA;2 RI;2 RU;2 RE;2 RO;2 SMALL WA;2 WA;2 WI;2 WE;2 WO",
   "2 N;2 VU;2 SMALL KA;3 KE;2 VA;2 VI;2 VE;2 VO;1 MIDDLE DOT",
   "0 KATAKANA-HIRAGANA PROLONGED SOUND MARK;0 KATAKANA ITERATION MARK;1 VOICED ITERATION MARK",
   "1 DIGRAPH KOTO;@3105;0 BOPOMOFO LETTER B;2 P;2 M;2 F;2 D;2 T;2 N;2 L;2 G;2 K;2 H;2 J;2 Q;2 X",
   "2 ZH;2 CH;2 SH;2 R;2 Z;2 C;2 S;2 A;2 O;2 E;2 EH;2 AI;2 EI;2 AU;2 OU;2 AN;2 EN;2 ANG;2 ENG;2 ER",
   "2 I;2 U;2 IU;2 V;2 NG;2 GN;2 IH;2 O WITH DOT ABOVE;2 NN;@3131;0 HANGUL LETTER KIYEOK",
   "2 SSANGKIYEOK;2 KIYEOK-SIOS;2 NIEUN;2 NIEUN-CIEUC;2 NIEUN-HIEUH;2 TIKEUT;2 SSANGTIKEUT;2 RIEUL",
   "2 RIEUL-KIYEOK;2 RIEUL-MIEUM;2 RIEUL-PIEUP;2 RIEUL-SIOS;2 RIEUL-THIEUTH;2 RIEUL-PHIEUPH",
   "2 RIEUL-HIEUH;2 MIEUM;2 PIEUP;2 SSANGPIEUP;2 PIEUP-SIOS;2 SIOS;2 SSANGSIOS;2 IEUNG;2 CIEUC",
   "2 SSANGCIEUC;2 CHIEUCH;2 KHIEUKH;2 THIEUTH;2 PHIEUPH;2 HIEUH;2 A;2 AE;2 YA;2 YAE;2 EO;2 E;2 YEO",
   "2 YE;2 O;2 WA;2 WAE;2 OE;2 YO;2 U;2 WEO;2 WE;2 WI;2 YU;2 EU;2 YI;2 I;1 FILLER",
   "1 LETTER SSANGNIEUN;2 NIEUN-TIKEUT;2 NIEUN-SIOS;2 NIEUN-PANSIOS;2 RIEUL-KIYEOK-SIOS",
   "2 RIEUL-TIKEUT;2 RIEUL-PIEUP-SIOS;2 RIEUL-PANSIOS;2 RIEUL-YEORINHIEUH;2 MIEUM-PIEUP",
   "2 MIEUM-SIOS;2 MIEUM-PANSIOS;2 KAPYEOUNMIEUM;2 PIEUP-KIYEOK;2 PIEUP-TIKEUT;2 PIEUP-SIOS-KIYEOK",
   "2 PIEUP-SIOS-TIKEUT;2 PIEUP-CIEUC;2 PIEUP-THIEUTH;2 KAPYEOUNPIEUP;2 KAPYEOUNSSANGPIEUP",
   "2 SIOS-KIYEOK;2 SIOS-NIEUN;2 SIOS-TIKEUT;2 SIOS-PIEUP;2 SIOS-CIEUC;2 PANSIOS;2 SSANGIEUNG",
   "2 YESIEUNG;2 YESIEUNG-SIOS;2 YESIEUNG-PANSIOS;2 KAPYEOUNPHIEUPH;2 SSANGHIEUH;2 YEORINHIEUH",
   "2 YO-YA;2 YO-YAE;2 YO-I;2 YU-YEO;2 YU-YE;2 YU-I;2 ARAEA;2 ARAEAE;@3190",
   "0 IDEOGRAPHIC ANNOTATION LINKING MARK;2 REVERSE MARK;2 ONE MARK;2 TWO MARK;2 THREE MARK",
   "2 FOUR MARK;2 TOP MARK;2 MIDDLE MARK;2 BOTTOM MARK;2 FIRST MARK;2 SECOND MARK;2 THIRD MARK",
   "2 FOURTH MARK;2 HEAVEN MARK;2 EARTH MARK;2 MAN MARK;0 BOPOMOFO LETTER BU;2 ZI;2 JI;2 GU;2 EE",
   "2 ENN;2 OO;2 ONN;2 IR;2 ANN;2 INN;2 UNN;2 IM;2 NGG;2 AINN;2 AUNN;2 AM;2 OM;2 ONG;2 INNN",
   "1 FINAL LETTER P;3 T;3 K;3 H;1 LETTER GH;2 LH;2 ZY;1 FINAL LETTER G;1 LETTER GW;2 KW;2 OE;2 AH",
   "0 CJK STROKE T;2 WG;2 XG;2 BXG;2 SW;2 HZZ;2 HZG;2 HP;2 HZWG;2 SZWG;2 HZT;2 HZZP;2 HPWG;2 HZW",
   "2 HZZZ;2 N;2 H;2 S;2 P;2 SP;2 D;2 HZ;2 HG;2 SZ;2 SWZ;2 ST;2 SG;2 PD;2 PZ;2 TN;2 SZZ;2 SWG",
   "2 HXWG;2 HZZZG;2 PG;2 Q;@31f0;0 KATAKANA LETTER SMALL KU;3 SI;3 SU;3 TO;3 NU;3 HA;3 HI;3 HU",
   "3 HE;3 HO;3 MU;3 RA;3 RI;3 RU;3 RE;3 RO;0 PARENTHESIZED HANGUL KIYEOK;2 NIEUN;2 TIKEUT;2 RIEUL",
   "2 MIEUM;2 PIEUP;2 SIOS;2 IEUNG;2 CIEUC;2 CHIEUCH;2 KHIEUKH;2 THIEUTH;2 PHIEUPH;2 HIEUH",
   "2 KIYEOK A;2 NIEUN A;2 TIKEUT A;2 RIEUL A;2 MIEUM A;2 PIEUP A;2 SIOS A;2 IEUNG A;2 CIEUC A",
   "2 CHIEUCH A;2 KHIEUKH A;2 THIEUTH A;2 PHIEUPH A;2 HIEUH A;2 CIEUC U;1 KOREAN CHARACTER OJEON",
   "3 O HU;@3220;1 IDEOGRAPH ONE;2 TWO;2 THREE;2 FOUR;2 FIVE;2 SIX;2 SEVEN;2 EIGHT;2 NINE;2 TEN",
   "2 MOON;2 FIRE;2 WATER;2 WOOD;2 METAL;2 EARTH;2 SUN;2 STOCK;2 HAVE;2 SOCIETY;2 NAME;2 SPECIAL",
   "2 FINANCIAL;2 CONGRATULATION;2 LABOR;2 REPRESENT;2 CALL;2 STUDY;2 SUPERVISE;2 ENTERPRISE",
   "2 RESOURCE;2 ALLIANCE;2 FESTIVAL;2 REST;2 SELF;2 REACH;0 CIRCLED IDEOGRAPH QUESTION",
   "2 KINDERGARTEN;2 SCHOOL;2 KOTO;1 NUMBER TEN ON BLACK SQUARE;2 TWENTY ON BLACK SQUARE",
   "2 THIRTY ON BLACK SQUARE;2 FORTY ON BLACK SQUARE;2 FIFTY ON BLACK SQUARE",
   "2 SIXTY ON BLACK SQUARE;2 SEVENTY ON BLACK SQUARE;2 EIGHTY ON BLACK SQUARE;0 PARTNERSHIP SIGN",
   "0 CIRCLED NUMBER TWENTY ONE;3 TWO;3 THREE;3 FOUR;3 FIVE;3 SIX;3 SEVEN;3 EIGHT;3 NINE;2 THIRTY",
   "3 ONE;3 TWO;3 THREE;3 FOUR;3 FIVE;1 HANGUL KIYEOK;2 NIEUN;2 TIKEUT;2 RIEUL;2 MIEUM;2 PIEUP",
   "2 SIOS;2 IEUNG;2 CIEUC;2 CHIEUCH;2 KHIEUKH;2 THIEUTH;2 PHIEUPH;2 HIEUH;2 KIYEOK A;2 NIEUN A",
   "2 TIKEUT A;2 RIEUL A;2 MIEUM A;2 PIEUP A;2 SIOS A;2 IEUNG A;2 CIEUC A;2 CHIEUCH A;2 KHIEUKH A",
   "2 THIEUTH A;2 PHIEUPH A;2 HIEUH A;1 KOREAN CHARACTER CHAMKO;3 JUEUI;1 HANGUL IEUNG U",
   "0 KOREAN STANDARD SYMBOL;0 CIRCLED IDEOGRAPH ONE;2 TWO;2 THREE;2 FOUR;2 FIVE;2 SIX;2 SEVEN",
   "2 EIGHT;2 NINE;2 TEN;2 MOON;2 FIRE;2 WATER;2 WOOD;2 METAL;2 EARTH;2 SUN;2 STOCK;2 HAVE",
   "2 SOCIETY;2 NAME;2 SPECIAL;2 FINANCIAL;2 CONGRATULATION;2 LABOR;2 SECRET;2 MALE;2 FEMALE",
   "2 SUITABLE;2 EXCELLENT;2 PRINT;2 ATTENTION;2 ITEM;2 REST;2 COPY;2 CORRECT;2 HIGH;2 CENTRE;2 LOW",
   "2 LEFT;2 RIGHT;2 MEDICINE;2 RELIGION;2 STUDY;2 SUPERVISE;2 ENTERPRISE;2 RESOURCE;2 ALLIANCE",
   "2 NIGHT;1 NUMBER THIRTY SIX;3 SEVEN;3 EIGHT;3 NINE;2 FORTY;3 ONE;3 TWO;3 THREE;3 FOUR;3 FIVE",
   "3 SIX;3 SEVEN;3 EIGHT;3 NINE;2 FIFTY;0 IDEOGRAPHIC TELEGRAPH SYMBOL FOR JANUARY;4 FEBRUARY",
   "4 MARCH;4 APRIL;4 MAY;4 JUNE;4 JULY;4 AUGUST;4 SEPTEMBER;4 OCTOBER;4 NOVEMBER;4 DECEMBER",
   "0 SQUARE HG;1 ERG;1 EV;0 LIMITED LIABILITY SIGN;0 CIRCLED KATAKANA A;2 I;2 U;2 E;2 O;2 KA;2 KI",
   "2 KU;2 KE;2 KO;2 SA;2 SI;2 SU;2 SE;2 SO;2 TA;2 TI;2 TU;2 TE;2 TO;2 NA;2 NI;2 NU;2 NE;2 NO;2 HA",
   "2 HI;2 HU;2 HE;2 HO;2 MA;2 MI;2 MU;2 ME;2 MO;2 YA;2 YU;2 YO;2 RA;2 RI;2 RU;2 RE;2 RO;2 WA;2 WI",
   "2 WE;2 WO;0 SQUARE ERA NAME REIWA;1 APAATO;1 ARUHUA;1 ANPEA;1 AARU;1 ININGU;1 INTI;1 UON",
   "1 ESUKUUDO;1 EEKAA;1 ONSU;1 OOMU;1 KAIRI;1 KARATTO;1 KARORII;1 GARON;1 GANMA;1 GIGA;1 GINII",
   "1 KYURII;1 GIRUDAA;1 KIRO;1 KIROGURAMU;1 KIROMEETORU;1 KIROWATTO;1 GURAMU;1 GURAMUTON",
   "1 KURUZEIRO;1 KUROONE;1 KEESU;1 KORUNA;1 KOOPO;1 SAIKURU;1 SANTIIMU;1 SIRINGU;1 SENTI;1 SENTO",
   "1 DAASU;1 DESI;1 DORU;1 TON;1 NANO;1 NOTTO;1 HAITU;1 PAASENTO;1 PAATU;1 BAARERU;1 PIASUTORU",
   "1 PIKURU;1 PIKO;1 BIRU;1 HUARADDO;1 HUIITO;1 BUSSYERU;1 HURAN;1 HEKUTAARU;1 PESO;1 PENIHI",
   "1 HERUTU;1 PENSU;1 PEEZI;1 BEETA;1 POINTO;1 BORUTO;1 HON;1 PONDO;1 HOORU;1 HOON;1 MAIKURO",
   "1 MAIRU;1 MAHHA;1 MARUKU;1 MANSYON;1 MIKURON;1 MIRI;1 MIRIBAARU;1 MEGA;1 MEGATON;1 MEETORU",
   "1 YAADO;1 YAARU;1 YUAN;1 RITTORU;1 RIRA;1 RUPII;1 RUUBURU;1 REMU;1 RENTOGEN;1 WATTO",
   "0 IDEOGRAPHIC TELEGRAPH SYMBOL FOR HOUR ZERO;5 ONE;5 TWO;5 THREE;5 FOUR;5 FIVE;5 SIX;5 SEVEN",
   "5 EIGHT;5 NINE;5 TEN;5 ELEVEN;5 TWELVE;5 THIRTEEN;5 FOURTEEN;5 FIFTEEN;5 SIXTEEN;5 SEVENTEEN",
   "5 EIGHTEEN;5 NINETEEN;5 TWENTY;5 TWENTY-ONE;5 TWENTY-TWO;5 TWENTY-THREE;5 TWENTY-FOUR",
   "0 SQUARE HPA;1 DA;1 AU;1 BAR;1 OV;1 PC;1 DM;2 SQUARED;2 CUBED;1 IU;1 ERA NAME HEISEI;3 SYOUWA",
   "3 TAISYOU;3 MEIZI;1 CORPORATION;1 PA AMPS;1 NA;1 MU A;1 MA;1 KA;1 KB;1 MB;1 GB;1 CAL;1 KCAL",
   "1 PF;1 NF;1 MU F;2 G;1 MG;1 KG;1 HZ;1 KHZ;1 MHZ;1 GHZ;1 THZ;1 MU L;1 ML;1 DL;1 KL;1 FM;1 NM",
   "1 MU M;1 MM;1 CM;1 KM;1 MM SQUARED;1 CM SQUARED;1 M SQUARED;1 KM SQUARED;1 MM CUBED;1 CM CUBED",
   "1 M CUBED;1 KM CUBED;1 M OVER S;4 SQUARED;1 PA;1 KPA;1 MPA;1 GPA;1 RAD;2 OVER S;4 SQUARED;1 PS",
   "1 NS;1 MU S;1 MS;1 PV;1 NV;1 MU V;1 MV;1 KV;1 MV MEGA;1 PW;1 NW;1 MU W;1 MW;1 KW;1 MW MEGA",
   "1 K OHM;1 M OHM;1 AM;1 BQ;1 CC;1 CD;1 C OVER KG;1 CO;1 DB;1 GY;1 HA;1 HP;1 IN;1 KK;1 KM CAPITAL",
   "1 KT;1 LM;1 LN;1 LOG;1 LX;1 MB SMALL;1 MIL;1 MOL;1 PH;1 PM;1 PPM;1 PR;1 SR;1 SV;1 WB;1 V OVER M",
   "1 A OVER M;0 IDEOGRAPHIC TELEGRAPH SYMBOL FOR DAY ONE;5 TWO;5 THREE;5 FOUR;5 FIVE;5 SIX;5 SEVEN",
   "5 EIGHT;5 NINE;5 TEN;5 ELEVEN;5 TWELVE;5 THIRTEEN;5 FOURTEEN;5 FIFTEEN;5 SIXTEEN;5 SEVENTEEN",
   "5 EIGHTEEN;5 NINETEEN;5 TWENTY;5 TWENTY-ONE;5 TWENTY-TWO;5 TWENTY-THREE;5 TWENTY-FOUR",
   "5 TWENTY-FIVE;5 TWENTY-SIX;5 TWENTY-SEVEN;5 TWENTY-EIGHT;5 TWENTY-NINE;5 THIRTY;5 THIRTY-ONE",
   "0 SQUARE GAL;@4dc0;0 HEXAGRAM FOR THE CREATIVE HEAVEN;3 RECEPTIVE EARTH",
   "2 DIFFICULTY AT THE BEGINNING;2 YOUTHFUL FOLLY;2 WAITING;2 CONFLICT;2 THE ARMY",
   "2 HOLDING TOGETHER;2 SMALL TAMING;2 TREADING;2 PEACE;2 STANDSTILL;2 FELLOWSHIP",
   "2 GREAT POSSESSION;2 MODESTY;2 ENTHUSIASM;2 FOLLOWING;2 WORK ON THE DECAYED;2 APPROACH",
   "2 CONTEMPLATION;2 BITING THROUGH;2 GRACE;2 SPLITTING APART;2 RETURN;2 INNOCENCE;2 GREAT TAMING",
   "2 MOUTH CORNERS;2 GREAT PREPONDERANCE;2 THE ABYSMAL WATER;3 CLINGING FIRE;2 INFLUENCE",
   "2 DURATION;2 RETREAT;2 GREAT POWER;2 PROGRESS;2 DARKENING OF THE LIGHT;2 THE FAMILY",
   "2 OPPOSITION;2 OBSTRUCTION;2 DELIVERANCE;2 DECREASE;2 INCREASE;2 BREAKTHROUGH;2 COMING TO MEET",
   "2 GATHERING TOGETHER;2 PUSHING UPWARD;2 OPPRESSION;2 THE WELL;2 REVOLUTION;2 THE CAULDRON",
   "3 AROUSING THUNDER;3 KEEPING STILL MOUNTAIN;2 DEVELOPMENT;2 THE MARRYING MAIDEN;2 ABUNDANCE",
   "2 THE WANDERER;3 GENTLE WIND;3 JOYOUS LAKE;2 DISPERSION;2 LIMITATION;2 INNER TRUTH",
   "2 SMALL PREPONDERANCE;2 AFTER COMPLETION;2 BEFORE COMPLETION;@a000;0 YI SYLLABLE IT;2 IX;2 I",
   "2 IP;2 IET;2 IEX;2 IE;2 IEP;2 AT;2 AX;2 A;2 AP;2 UOX;2 UO;2 UOP;2 OT;2 OX;2 O;2 OP;2 EX;2 E",
   "2 WU;2 BIT;2 BIX;2 BI;2 BIP;2 BIET;2 BIEX;2 BIE;2 BIEP;2 BAT;2 BAX;2 BA;2 BAP;2 BUOX;2 BUO",
   "2 BUOP;2 BOT;2 BOX;2 BO;2 BOP;2 BEX;2 BE;2 BEP;2 BUT;2 BUX;2 BU;2 BUP;2 BURX;2 BUR;2 BYT;2 BYX",
   "2 BY;2 BYP;2 BYRX;2 BYR;2 PIT;2 PIX;2 PI;2 PIP;2 PIEX;2 PIE;2 PIEP;2 PAT;2 PAX;2 PA;2 PAP",
   "2 PUOX;2 PUO;2 PUOP;2 POT;2 POX;2 PO;2 POP;2 PUT;2 PUX;2 PU;2 PUP;2 PURX;2 PUR;2 PYT;2 PYX;2 PY",
   "2 PYP;2 PYRX;2 PYR;2 BBIT;2 BBIX;2 BBI;2 BBIP;2 BBIET;2 BBIEX;2 BBIE;2 BBIEP;2 BBAT;2 BBAX",
   "2 BBA;2 BBAP;2 BBUOX;2 BBUO;2 BBUOP;2 BBOT;2 BBOX;2 BBO;2 BBOP;2 BBEX;2 BBE;2 BBEP;2 BBUT",
   "2 BBUX;2 BBU;2 BBUP;2 BBURX;2 BBUR;2 BBYT;2 BBYX;2 BBY;2 BBYP;2 NBIT;2 NBIX;2 NBI;2 NBIP",
   "2 NBIEX;2 NBIE;2 NBIEP;2 NBAT;2 NBAX;2 NBA;2 NBAP;2 NBOT;2 NBOX;2 NBO;2 NBOP;2 NBUT;2 NBUX",
   "2 NBU;2 NBUP;2 NBURX;2 NBUR;2 NBYT;2 NBYX;2 NBY;2 NBYP;2 NBYRX;2 NBYR;2 HMIT;2 HMIX;2 HMI",
   "2 HMIP;2 HMIEX;2 HMIE;2 HMIEP;2 HMAT;2 HMAX;2 HMA;2 HMAP;2 HMUOX;2 HMUO;2 HMUOP;2 HMOT;2 HMOX",
   "2 HMO;2 HMOP;2 HMUT;2 HMUX;2 HMU;2 HMUP;2 HMURX;2 HMUR;2 HMYX;2 HMY;2 HMYP;2 HMYRX;2 HMYR;2 MIT",
   "2 MIX;2 MI;2 MIP;2 MIEX;2 MIE;2 MIEP;2 MAT;2 MAX;2 MA;2 MAP;2 MUOT;2 MUOX;2 MUO;2 MUOP;2 MOT",
   "2 MOX;2 MO;2 MOP;2 MEX;2 ME;2 MUT;2 MUX;2 MU;2 MUP;2 MURX;2 MUR;2 MYT;2 MYX;2 MY;2 MYP;2 FIT",
   "2 FIX;2 FI;2 FIP;2 FAT;2 FAX;2 FA;2 FAP;2 FOX;2 FO;2 FOP;2 FUT;2 FUX;2 FU;2 FUP;2 FURX;2 FUR",
   "2 FYT;2 FYX;2 FY;2 FYP;2 VIT;2 VIX;2 VI;2 VIP;2 VIET;2 VIEX;2 VIE;2 VIEP;2 VAT;2 VAX;2 VA;2 VAP",
   "2 VOT;2 VOX;2 VO;2 VOP;2 VEX;2 VEP;2 VUT;2 VUX;2 VU;2 VUP;2 VURX;2 VUR;2 VYT;2 VYX;2 VY;2 VYP",
   "2 VYRX;2 VYR;2 DIT;2 DIX;2 DI;2 DIP;2 DIEX;2 DIE;2 DIEP;2 DAT;2 DAX;2 DA;2 DAP;2 DUOX;2 DUO",
   "2 DOT;2 DOX;2 DO;2 DOP;2 DEX;2 DE;2 DEP;2 DUT;2 DUX;2 DU;2 DUP;2 DURX;2 DUR;2 TIT;2 TIX;2 TI",
   "2 TIP;2 TIEX;2 TIE;2 TIEP;2 TAT;2 TAX;2 TA;2 TAP;2 TUOT;2 TUOX;2 TUO;2 TUOP;2 TOT;2 TOX;2 TO",
   "2 TOP;2 TEX;2 TE;2 TEP;2 TUT;2 TUX;2 TU;2 TUP;2 TURX;2 TUR;2 DDIT;2 DDIX;2 DDI;2 DDIP;2 DDIEX",
   "2 DDIE;2 DDIEP;2 DDAT;2 DDAX;2 DDA;2 DDAP;2 DDUOX;2 DDUO;2 DDUOP;2 DDOT;2 DDOX;2 DDO;2 DDOP",
   "2 DDEX;2 DDE;2 DDEP;2 DDUT;2 DDUX;2 DDU;2 DDUP;2 DDURX;2 DDUR;2 NDIT;2 NDIX;2 NDI;2 NDIP",
   "2 NDIEX;2 NDIE;2 NDAT;2 NDAX;2 NDA;2 NDAP;2 NDOT;2 NDOX;2 NDO;2 NDOP;2 NDEX;2 NDE;2 NDEP;2 NDUT",
   "2 NDUX;2 NDU;2 NDUP;2 NDURX;2 NDUR;2 HNIT;2 HNIX;2 HNI;2 HNIP;2 HNIET;2 HNIEX;2 HNIE;2 HNIEP",
   "2 HNAT;2 HNAX;2 HNA;2 HNAP;2 HNUOX;2 HNUO;2 HNOT;2 HNOX;2 HNOP;2 HNEX;2 HNE;2 HNEP;2 HNUT;2 NIT",
   "2 NIX;2 NI;2 NIP;2 NIEX;2 NIE;2 NIEP;2 NAX;2 NA;2 NAP;2 NUOX;2 NUO;2 NUOP;2 NOT;2 NOX;2 NO",
   "2 NOP;2 NEX;2 NE;2 NEP;2 NUT;2 NUX;2 NU;2 NUP;2 NURX;2 NUR;2 HLIT;2 HLIX;2 HLI;2 HLIP;2 HLIEX",
   "2 HLIE;2 HLIEP;2 HLAT;2 HLAX;2 HLA;2 HLAP;2 HLUOX;2 HLUO;2 HLUOP;2 HLOX;2 HLO;2 HLOP;2 HLEX",
   "2 HLE;2 HLEP;2 HLUT;2 HLUX;2 HLU;2 HLUP;2 HLURX;2 HLUR;2 HLYT;2 HLYX;2 HLY;2 HLYP;2 HLYRX",
   "2 HLYR;2 LIT;2 LIX;2 LI;2 LIP;2 LIET;2 LIEX;2 LIE;2 LIEP;2 LAT;2 LAX;2 LA;2 LAP;2 LUOT;2 LUOX",
   "2 LUO;2 LUOP;2 LOT;2 LOX;2 LO;2 LOP;2 LEX;2 LE;2 LEP;2 LUT;2 LUX;2 LU;2 LUP;2 LURX;2 LUR;2 LYT",
   "2 LYX;2 LY;2 LYP;2 LYRX;2 LYR;2 GIT;2 GIX;2 GI;2 GIP;2 GIET;2 GIEX;2 GIE;2 GIEP;2 GAT;2 GAX",
   "2 GA;2 GAP;2 GUOT;2 GUOX;2 GUO;2 GUOP;2 GOT;2 GOX;2 GO;2 GOP;2 GET;2 GEX;2 GE;2 GEP;2 GUT;2 GUX",
   "2 GU;2 GUP;2 GURX;2 GUR;2 KIT;2 KIX;2 KI;2 KIP;2 KIEX;2 KIE;2 KIEP;2 KAT;2 KAX;2 KA;2 KAP",
   "2 KUOX;2 KUO;2 KUOP;2 KOT;2 KOX;2 KO;2 KOP;2 KET;2 KEX;2 KE;2 KEP;2 KUT;2 KUX;2 KU;2 KUP;2 KURX",
   "2 KUR;2 GGIT;2 GGIX;2 GGI;2 GGIEX;2 GGIE;2 GGIEP;2 GGAT;2 GGAX;2 GGA;2 GGAP;2 GGUOT;2 GGUOX",
   "2 GGUO;2 GGUOP;2 GGOT;2 GGOX;2 GGO;2 GGOP;2 GGET;2 GGEX;2 GGE;2 GGEP;2 GGUT;2 GGUX;2 GGU;2 GGUP",
   "2 GGURX;2 GGUR;2 MGIEX;2 MGIE;2 MGAT;2 MGAX;2 MGA;2 MGAP;2 MGUOX;2 MGUO;2 MGUOP;2 MGOT;2 MGOX",
   "2 MGO;2 MGOP;2 MGEX;2 MGE;2 MGEP;2 MGUT;2 MGUX;2 MGU;2 MGUP;2 MGURX;2 MGUR;2 HXIT;2 HXIX;2 HXI",
   "2 HXIP;2 HXIET;2 HXIEX;2 HXIE;2 HXIEP;2 HXAT;2 HXAX;2 HXA;2 HXAP;2 HXUOT;2 HXUOX;2 HXUO;2 HXUOP",
   "2 HXOT;2 HXOX;2 HXO;2 HXOP;2 HXEX;2 HXE;2 HXEP;2 NGIEX;2 NGIE;2 NGIEP;2 NGAT;2 NGAX;2 NGA",
   "2 NGAP;2 NGUOT;2 NGUOX;2 NGUO;2 NGOT;2 NGOX;2 NGO;2 NGOP;2 NGEX;2 NGE;2 NGEP;2 HIT;2 HIEX;2 HIE",
   "2 HAT;2 HAX;2 HA;2 HAP;2 HUOT;2 HUOX;2 HUO;2 HUOP;2 HOT;2 HOX;2 HO;2 HOP;2 HEX;2 HE;2 HEP;2 WAT",
   "2 WAX;2 WA;2 WAP;2 WUOX;2 WUO;2 WUOP;2 WOX;2 WO;2 WOP;2 WEX;2 WE;2 WEP;2 ZIT;2 ZIX;2 ZI;2 ZIP",
   "2 ZIEX;2 ZIE;2 ZIEP;2 ZAT;2 ZAX;2 ZA;2 ZAP;2 ZUOX;2 ZUO;2 ZUOP;2 ZOT;2 ZOX;2 ZO;2 ZOP;2 ZEX",
   "2 ZE;2 ZEP;2 ZUT;2 ZUX;2 ZU;2 ZUP;2 ZURX;2 ZUR;2 ZYT;2 ZYX;2 ZY;2 ZYP;2 ZYRX;2 ZYR;2 CIT;2 CIX",
   "2 CI;2 CIP;2 CIET;2 CIEX;2 CIE;2 CIEP;2 CAT;2 CAX;2 CA;2 CAP;2 CUOX;2 CUO;2 CUOP;2 COT;2 COX",
   "2 CO;2 COP;2 CEX;2 CE;2 CEP;2 CUT;2 CUX;2 CU;2 CUP;2 CURX;2 CUR;2 CYT;2 CYX;2 CY;2 CYP;2 CYRX",
   "2 CYR;2 ZZIT;2 ZZIX;2 ZZI;2 ZZIP;2 ZZIET;2 ZZIEX;2 ZZIE;2 ZZIEP;2 ZZAT;2 ZZAX;2 ZZA;2 ZZAP",
   "2 ZZOX;2 ZZO;2 ZZOP;2 ZZEX;2 ZZE;2 ZZEP;2 ZZUX;2 ZZU;2 ZZUP;2 ZZURX;2 ZZUR;2 ZZYT;2 ZZYX;2 ZZY",
   "2 ZZYP;2 ZZYRX;2 ZZYR;2 NZIT;2 NZIX;2 NZI;2 NZIP;2 NZIEX;2 NZIE;2 NZIEP;2 NZAT;2 NZAX;2 NZA",
   "2 NZAP;2 NZUOX;2 NZUO;2 NZOX;2 NZOP;2 NZEX;2 NZE;2 NZUX;2 NZU;2 NZUP;2 NZURX;2 NZUR;2 NZYT",
   "2 NZYX;2 NZY;2 NZYP;2 NZYRX;2 NZYR;2 SIT;2 SIX;2 SI;2 SIP;2 SIEX;2 SIE;2 SIEP;2 SAT;2 SAX;2 SA",
   "2 SAP;2 SUOX;2 SUO;2 SUOP;2 SOT;2 SOX;2 SO;2 SOP;2 SEX;2 SE;2 SEP;2 SUT;2 SUX;2 SU;2 SUP;2 SURX",
   "2 SUR;2 SYT;2 SYX;2 SY;2 SYP;2 SYRX;2 SYR;2 SSIT;2 SSIX;2 SSI;2 SSIP;2 SSIEX;2 SSIE;2 SSIEP",
   "2 SSAT;2 SSAX;2 SSA;2 SSAP;2 SSOT;2 SSOX;2 SSO;2 SSOP;2 SSEX;2 SSE;2 SSEP;2 SSUT;2 SSUX;2 SSU",
   "2 SSUP;2 SSYT;2 SSYX;2 SSY;2 SSYP;2 SSYRX;2 SSYR;2 ZHAT;2 ZHAX;2 ZHA;2 ZHAP;2 ZHUOX;2 ZHUO",
   "2 ZHUOP;2 ZHOT;2 ZHOX;2 ZHO;2 ZHOP;2 ZHET;2 ZHEX;2 ZHE;2 ZHEP;2 ZHUT;2 ZHUX;2 ZHU;2 ZHUP",
   "2 ZHURX;2 ZHUR;2 ZHYT;2 ZHYX;2 ZHY;2 ZHYP;2 ZHYRX;2 ZHYR;2 CHAT;2 CHAX;2 CHA;2 CHAP;2 CHUOT",
   "2 CHUOX;2 CHUO;2 CHUOP;2 CHOT;2 CHOX;2 CHO;2 CHOP;2 CHET;2 CHEX;2 CHE;2 CHEP;2 CHUX;2 CHU",
   "2 CHUP;2 CHURX;2 CHUR;2 CHYT;2 CHYX;2 CHY;2 CHYP;2 CHYRX;2 CHYR;2 RRAX;2 RRA;2 RRUOX;2 RRUO",
   "2 RROT;2 RROX;2 RRO;2 RROP;2 RRET;2 RREX;2 RRE;2 RREP;2 RRUT;2 RRUX;2 RRU;2 RRUP;2 RRURX;2 RRUR",
   "2 RRYT;2 RRYX;2 RRY;2 RRYP;2 RRYRX;2 RRYR;2 NRAT;2 NRAX;2 NRA;2 NRAP;2 NROX;2 NRO;2 NROP;2 NRET",
   "2 NREX;2 NRE;2 NREP;2 NRUT;2 NRUX;2 NRU;2 NRUP;2 NRURX;2 NRUR;2 NRYT;2 NRYX;2 NRY;2 NRYP",
   "2 NRYRX;2 NRYR;2 SHAT;2 SHAX;2 SHA;2 SHAP;2 SHUOX;2 SHUO;2 SHUOP;2 SHOT;2 SHOX;2 SHO;2 SHOP",
   "2 SHET;2 SHEX;2 SHE;2 SHEP;2 SHUT;2 SHUX;2 SHU;2 SHUP;2 SHURX;2 SHUR;2 SHYT;2 SHYX;2 SHY;2 SHYP",
   "2 SHYRX;2 SHYR;2 RAT;2 RAX;2 RA;2 RAP;2 RUOX;2 RUO;2 RUOP;2 ROT;2 ROX;2 RO;2 ROP;2 REX;2 RE",
   "2 REP;2 RUT;2 RUX;2 RU;2 RUP;2 RURX;2 RUR;2 RYT;2 RYX;2 RY;2 RYP;2 RYRX;2 RYR;2 JIT;2 JIX;2 JI",
   "2 JIP;2 JIET;2 JIEX;2 JIE;2 JIEP;2 JUOT;2 JUOX;2 JUO;2 JUOP;2 JOT;2 JOX;2 JO;2 JOP;2 JUT;2 JUX",
   "2 JU;2 JUP;2 JURX;2 JUR;2 JYT;2 JYX;2 JY;2 JYP;2 JYRX;2 JYR;2 QIT;2 QIX;2 QI;2 QIP;2 QIET",
   "2 QIEX;2 QIE;2 QIEP;2 QUOT;2 QUOX;2 QUO;2 QUOP;2 QOT;2 QOX;2 QO;2 QOP;2 QUT;2 QUX;2 QU;2 QUP",
   "2 QURX;2 QUR;2 QYT;2 QYX;2 QY;2 QYP;2 QYRX;2 QYR;2 JJIT;2 JJIX;2 JJI;2 JJIP;2 JJIET;2 JJIEX",
   "2 JJIE;2 JJIEP;2 JJUOX;2 JJUO;2 JJUOP;2 JJOT;2 JJOX;2 JJO;2 JJOP;2 JJUT;2 JJUX;2 JJU;2 JJUP",
   "2 JJURX;2 JJUR;2 JJYT;2 JJYX;2 JJY;2 JJYP;2 NJIT;2 NJIX;2 NJI;2 NJIP;2 NJIET;2 NJIEX;2 NJIE",
   "2 NJIEP;2 NJUOX;2 NJUO;2 NJOT;2 NJOX;2 NJO;2 NJOP;2 NJUX;2 NJU;2 NJUP;2 NJURX;2 NJUR;2 NJYT",
   "2 NJYX;2 NJY;2 NJYP;2 NJYRX;2 NJYR;2 NYIT;2 NYIX;2 NYI;2 NYIP;2 NYIET;2 NYIEX;2 NYIE;2 NYIEP",
   "2 NYUOX;2 NYUO;2 NYUOP;2 NYOT;2 NYOX;2 NYO;2 NYOP;2 NYUT;2 NYUX;2 NYU;2 NYUP;2 XIT;2 XIX;2 XI",
   "2 XIP;2 XIET;2 XIEX;2 XIE;2 XIEP;2 XUOX;2 XUO;2 XOT;2 XOX;2 XO;2 XOP;2 XYT;2 XYX;2 XY;2 XYP",
   "2 XYRX;2 XYR;2 YIT;2 YIX;2 YI;2 YIP;2 YIET;2 YIEX;2 YIE;2 YIEP;2 YUOT;2 YUOX;2 YUO;2 YUOP;2 YOT",
   "2 YOX;2 YO;2 YOP;2 YUT;2 YUX;2 YU;2 YUP;2 YURX;2 YUR;2 YYT;2 YYX;2 YY;2 YYP;2 YYRX;2 YYR;@a490",
   "1 RADICAL QOT;2 LI;2 KIT;2 NYIP;2 CYP;2 SSI;2 GGOP;2 GEP;2 MI;2 HXIT;2 LYR;2 BBUT;2 MOP;2 YO",
   "2 PUT;2 HXUO;2 TAT;2 GA;2 ZUP;2 CYT;2 DDUR;2 BUR;2 GGUO;2 NYOP;2 TU;2 OP;2 JJUT;2 ZOT;2 PYT",
   "2 HMO;2 YIT;2 VUR;2 SHY;2 VEP;2 ZA;2 JO;2 NZUP;2 JJY;2 GOT;2 JJIE;2 WO;2 DU;2 SHUR;2 LIE;2 CY",
   "2 CUOP;2 CIP;2 HXOP;2 SHAT;2 ZUR;2 SHOP;2 CHE;2 ZZIET;2 NBIE;2 KE;@a4d0;0 LISU LETTER BA;2 PA",
   "2 PHA;2 DA;2 TA;2 THA;2 GA;2 KA;2 KHA;2 JA;2 CA;2 CHA;2 DZA;2 TSA;2 TSHA;2 MA;2 NA;2 LA;2 SA",
   "2 ZHA;2 ZA;2 NGA;2 HA;2 XA;2 HHA;2 FA;2 WA;2 SHA;2 YA;2 GHA;2 A;2 AE;2 E;2 EU;2 I;2 O;2 U;2 UE",
   "2 UH;2 OE;2 TONE MYA TI;3 NA PO;3 MYA CYA;4 BO;4 NA;4 JEU;1 PUNCTUATION COMMA;2 FULL STOP",
   "0 VAI SYLLABLE EE;2 EEN;2 HEE;2 WEE;2 WEEN;2 PEE;2 BHEE;2 BEE;2 MBEE;2 KPEE;2 MGBEE;2 GBEE",
   "2 FEE;2 VEE;2 TEE;2 THEE;2 DHEE;2 DHHEE;2 LEE;2 REE;2 DEE;2 NDEE;2 SEE;2 SHEE;2 ZEE;2 ZHEE",
   "2 CEE;2 JEE;2 NJEE;2 YEE;2 KEE;2 NGGEE;2 GEE;2 MEE;2 NEE;2 NYEE;2 I;2 IN;2 HI;2 HIN;2 WI;2 WIN",
   "2 PI;2 BHI;2 BI;2 MBI;2 KPI;2 MGBI;2 GBI;2 FI;2 VI;2 TI;2 THI;2 DHI;2 DHHI;2 LI;2 RI;2 DI;2 NDI",
   "2 SI;2 SHI;2 ZI;2 ZHI;2 CI;2 JI;2 NJI;2 YI;2 KI;2 NGGI;2 GI;2 MI;2 NI;2 NYI;2 A;2 AN;2 NGAN",
   "2 HA;2 HAN;2 WA;2 WAN;2 PA;2 BHA;2 BA;2 MBA;2 KPA;2 KPAN;2 MGBA;2 GBA;2 FA;2 VA;2 TA;2 THA",
   "2 DHA;2 DHHA;2 LA;2 RA;2 DA;2 NDA;2 SA;2 SHA;2 ZA;2 ZHA;2 CA;2 JA;2 NJA;2 YA;2 KA;2 KAN;2 NGGA",
   "2 GA;2 MA;2 NA;2 NYA;2 OO;2 OON;2 HOO;2 WOO;2 WOON;2 POO;2 BHOO;2 BOO;2 MBOO;2 KPOO;2 MGBOO",
   "2 GBOO;2 FOO;2 VOO;2 TOO;2 THOO;2 DHOO;2 DHHOO;2 LOO;2 ROO;2 DOO;2 NDOO;2 SOO;2 SHOO;2 ZOO",
   "2 ZHOO;2 COO;2 JOO;2 NJOO;2 YOO;2 KOO;2 NGGOO;2 GOO;2 MOO;2 NOO;2 NYOO;2 U;2 UN;2 HU;2 HUN;2 WU",
   "2 WUN;2 PU;2 BHU;2 BU;2 MBU;2 KPU;2 MGBU;2 GBU;2 FU;2 VU;2 TU;2 THU;2 DHU;2 DHHU;2 LU;2 RU;2 DU",
   "2 NDU;2 SU;2 SHU;2 ZU;2 ZHU;2 CU;2 JU;2 NJU;2 YU;2 KU;2 NGGU;2 GU;2 MU;2 NU;2 NYU;2 O;2 ON",
   "2 NGON;2 HO;2 HON;2 WO;2 WON;2 PO;2 BHO;2 BO;2 MBO;2 KPO;2 MGBO;2 GBO;2 GBON;2 FO;2 VO;2 TO",
   "2 THO;2 DHO;2 DHHO;2 LO;2 RO;2 DO;2 NDO;2 SO;2 SHO;2 ZO;2 ZHO;2 CO;2 JO;2 NJO;2 YO;2 KO;2 NGGO",
   "2 GO;2 MO;2 NO;2 NYO;2 E;2 EN;2 NGEN;2 HE;2 HEN;2 WE;2 WEN;2 PE;2 BHE;2 BE;2 MBE;2 KPE;2 KPEN",
   "2 MGBE;2 GBE;2 GBEN;2 FE;2 VE;2 TE;2 THE;2 DHE;2 DHHE;2 LE;2 RE;2 DE;2 NDE;2 SE;2 SHE;2 ZE",
   "2 ZHE;2 CE;2 JE;2 NJE;2 YE;2 KE;2 NGGE;2 NGGEN;2 GE;2 GEN;2 ME;2 NE;2 NYE;2 NG;2 LENGTHENER",
   "1 COMMA;1 FULL STOP;1 QUESTION MARK;1 SYLLABLE NDOLE FA;3 KA;3 SOO;1 SYMBOL FEENG;2 KEENG",
   "2 TING;2 NII;2 BANG;2 FAA;2 TAA;2 DANG;2 DOONG;2 KUNG;2 TONG;2 DO-O;2 JONG;1 DIGIT ZERO;2 ONE",
   "2 TWO;2 THREE;2 FOUR;2 FIVE;2 SIX;2 SEVEN;2 EIGHT;2 NINE;1 SYLLABLE NDOLE MA;3 DO;@a640",
   "0 CYRILLIC CAPITAL LETTER ZEMLYA;1 SMALL LETTER ZEMLYA;1 CAPITAL LETTER DZELO",
   "1 SMALL LETTER DZELO;1 CAPITAL LETTER REVERSED DZE;1 SMALL LETTER REVERSED DZE",
   "1 CAPITAL LETTER IOTA;1 SMALL LETTER IOTA;1 CAPITAL LETTER DJERV;1 SMALL LETTER DJERV",
   "1 CAPITAL LETTER MONOGRAPH UK;1 SMALL LETTER MONOGRAPH UK;1 CAPITAL LETTER BROAD OMEGA",
   "1 SMALL LETTER BROAD OMEGA;1 CAPITAL LETTER NEUTRAL YER;1 SMALL LETTER NEUTRAL YER",
   "1 CAPITAL LETTER YERU WITH BACK YER;1 SMALL LETTER YERU WITH BACK YER",
   "1 CAPITAL LETTER IOTIFIED YAT;1 SMALL LETTER IOTIFIED YAT;1 CAPITAL LETTER REVERSED YU",
   "1 SMALL LETTER REVERSED YU;1 CAPITAL LETTER IOTIFIED A;1 SMALL LETTER IOTIFIED A",
   "1 CAPITAL LETTER CLOSED LITTLE YUS;1 SMALL LETTER CLOSED LITTLE YUS",
   "1 CAPITAL LETTER BLENDED YUS;1 SMALL LETTER BLENDED YUS",
   "1 CAPITAL LETTER IOTIFIED CLOSED LITTLE YUS;1 SMALL LETTER IOTIFIED CLOSED LITTLE YUS",
   "1 CAPITAL LETTER YN;1 SMALL LETTER YN;1 CAPITAL LETTER REVERSED TSE;1 SMALL LETTER REVERSED TSE",
   "1 CAPITAL LETTER SOFT DE;1 SMALL LETTER SOFT DE;1 CAPITAL LETTER SOFT EL;1 SMALL LETTER SOFT EL",
   "1 CAPITAL LETTER SOFT EM;1 SMALL LETTER SOFT EM;1 CAPITAL LETTER MONOCULAR O",
   "1 SMALL LETTER MONOCULAR O;1 CAPITAL LETTER BINOCULAR O;1 SMALL LETTER BINOCULAR O",
   "1 CAPITAL LETTER DOUBLE MONOCULAR O;1 SMALL LETTER DOUBLE MONOCULAR O;1 LETTER MULTIOCULAR O",
   "0 COMBINING CYRILLIC VZMET;2 TEN MILLIONS SIGN;2 HUNDRED MILLIONS SIGN;2 THOUSAND MILLIONS SIGN",
   "0 SLAVONIC ASTERISK;0 COMBINING CYRILLIC LETTER UKRAINIAN IE;3 I;3 YI;3 U;3 HARD SIGN;3 YERU",
   "3 SOFT SIGN;3 OMEGA;2 KAVYKA;2 PAYEROK;0 CYRILLIC KAVYKA;1 PAYEROK;1 CAPITAL LETTER DWE",
   "1 SMALL LETTER DWE;1 CAPITAL LETTER DZWE;1 SMALL LETTER DZWE;1 CAPITAL LETTER ZHWE",
   "1 SMALL LETTER ZHWE;1 CAPITAL LETTER CCHE;1 SMALL LETTER CCHE;1 CAPITAL LETTER DZZE",
   "1 SMALL LETTER DZZE;1 CAPITAL LETTER TE WITH MIDDLE HOOK;1 SMALL LETTER TE WITH MIDDLE HOOK",
   "1 CAPITAL LETTER TWE;1 SMALL LETTER TWE;1 CAPITAL LETTER TSWE;1 SMALL LETTER TSWE",
   "1 CAPITAL LETTER TSSE;1 SMALL LETTER TSSE;1 CAPITAL LETTER TCHE;1 SMALL LETTER TCHE",
   "1 CAPITAL LETTER HWE;1 SMALL LETTER HWE;1 CAPITAL LETTER SHWE;1 SMALL LETTER SHWE",
   "1 CAPITAL LETTER DOUBLE O;1 SMALL LETTER DOUBLE O;1 CAPITAL LETTER CROSSED O",
   "1 SMALL LETTER CROSSED O;0 MODIFIER LETTER CYRILLIC HARD SIGN;3 SOFT SIGN",
   "0 COMBINING CYRILLIC LETTER EF;3 IOTIFIED E;0 BAMUM LETTER A;2 KA;2 U;2 KU;2 EE;2 REE;2 TAE;2 O",
   "2 NYI;2 I;2 LA;2 PA;2 RII;2 RIEE;2 LEEEE;2 MEEEE;2 TAA;2 NDAA;2 NJAEM;2 M;2 SUU;2 MU;2 SHII",
   "2 SI;2 SHEUX;2 SEUX;2 KYEE;2 KET;2 NUAE;2 NU;2 NJUAE;2 YOQ;2 SHU;2 YUQ;2 YA;2 NSHA;2 KEUX",
   "2 PEUX;2 NJEE;2 NTEE;2 PUE;2 WUE;2 PEE;2 FEE;2 RU;2 LU;2 MI;2 NI;2 REUX;2 RAE;2 KEN;2 NGKWAEN",
   "2 NGGA;2 NGA;2 SHO;2 PUAE;2 FU;2 FOM;2 WA;2 NA;2 LI;2 PI;2 LOQ;2 KO;2 MBEN;2 REN;2 MEN;2 MA",
   "2 TI;2 KI;2 MO;2 MBAA;2 TET;2 KPA;2 TEN;2 NTUU;2 SAMBA;2 FAAMAE;2 KOVUU;2 KOGHOM",
   "1 COMBINING MARK KOQNDON;3 TUKWENTIS;1 NJAEMLI;1 FULL STOP;1 COLON;1 COMMA;1 SEMICOLON",
   "1 QUESTION MARK;@a700;0 MODIFIER LETTER CHINESE TONE YIN PING;4 YANG PING;4 YIN SHANG",
   "4 YANG SHANG;4 YIN QU;4 YANG QU;4 YIN RU;4 YANG RU;2 EXTRA-HIGH DOTTED TONE BAR",
   "2 HIGH DOTTED TONE BAR;2 MID DOTTED TONE BAR;2 LOW DOTTED TONE BAR;2 EXTRA-LOW DOTTED TONE BAR",
   "2 EXTRA-HIGH DOTTED LEFT-STEM TONE BAR;2 HIGH DOTTED LEFT-STEM TONE BAR",
   "2 MID DOTTED LEFT-STEM TONE BAR;2 LOW DOTTED LEFT-STEM TONE BAR",
   "2 EXTRA-LOW DOTTED LEFT-STEM TONE BAR;2 EXTRA-HIGH LEFT-STEM TONE BAR;2 HIGH LEFT-STEM TONE BAR",
   "2 MID LEFT-STEM TONE BAR;2 LOW LEFT-STEM TONE BAR;2 EXTRA-LOW LEFT-STEM TONE BAR",
   "2 DOT VERTICAL BAR;3 SLASH;3 HORIZONTAL BAR;2 LOWER RIGHT CORNER ANGLE;2 RAISED UP ARROW",
   "3 DOWN ARROW;3 EXCLAMATION MARK;3 INVERTED EXCLAMATION MARK;2 LOW INVERTED EXCLAMATION MARK",
   "2 STRESS AND HIGH TONE;4 LOW TONE;0 LATIN CAPITAL LETTER EGYPTOLOGICAL ALEF",
   "1 SMALL LETTER EGYPTOLOGICAL ALEF;1 CAPITAL LETTER EGYPTOLOGICAL AIN",
   "1 SMALL LETTER EGYPTOLOGICAL AIN;1 CAPITAL LETTER HENG;1 SMALL LETTER HENG;1 CAPITAL LETTER TZ",
   "1 SMALL LETTER TZ;1 CAPITAL LETTER TRESILLO;1 SMALL LETTER TRESILLO;1 CAPITAL LETTER CUATRILLO",
   "1 SMALL LETTER CUATRILLO;1 CAPITAL LETTER CUATRILLO WITH COMMA",
   "1 SMALL LETTER CUATRILLO WITH COMMA;1 LETTER SMALL CAPITAL F;4 S;1 CAPITAL LETTER AA",
   "1 SMALL LETTER AA;1 CAPITAL LETTER AO;1 SMALL LETTER AO;1 CAPITAL LETTER AU;1 SMALL LETTER AU",
   "1 CAPITAL LETTER AV;1 SMALL LETTER AV;1 CAPITAL LETTER AV WITH HORIZONTAL BAR",
   "1 SMALL LETTER AV WITH HORIZONTAL BAR;1 CAPITAL LETTER AY;1 SMALL LETTER AY",
   "1 CAPITAL LETTER REVERSED C WITH DOT;1 SMALL LETTER REVERSED C WITH DOT",
   "1 CAPITAL LETTER K WITH STROKE;1 SMALL LETTER K WITH STROKE",
   "1 CAPITAL LETTER K WITH DIAGONAL STROKE;1 SMALL LETTER K WITH DIAGONAL STROKE",
   "1 CAPITAL LETTER K WITH STROKE AND DIAGONAL STROKE",
   "1 SMALL LETTER K WITH STROKE AND DIAGONAL STROKE;1 CAPITAL LETTER BROKEN L",
   "1 SMALL LETTER BROKEN L;1 CAPITAL LETTER L WITH HIGH STROKE;1 SMALL LETTER L WITH HIGH STROKE",
   "1 CAPITAL LETTER O WITH LONG STROKE OVERLAY;1 SMALL LETTER O WITH LONG STROKE OVERLAY",
   "1 CAPITAL LETTER O WITH LOOP;1 SMALL LETTER O WITH LOOP;1 CAPITAL LETTER OO;1 SMALL LETTER OO",
   "1 CAPITAL LETTER P WITH STROKE THROUGH DESCENDER;1 SMALL LETTER P WITH STROKE THROUGH DESCENDER",
   "1 CAPITAL LETTER P WITH FLOURISH;1 SMALL LETTER P WITH FLOURISH",
   "1 CAPITAL LETTER P WITH SQUIRREL TAIL;1 SMALL LETTER P WITH SQUIRREL TAIL",
   "1 CAPITAL LETTER Q WITH STROKE THROUGH DESCENDER;1 SMALL LETTER Q WITH STROKE THROUGH DESCENDER",
   "1 CAPITAL LETTER Q WITH DIAGONAL STROKE;1 SMALL LETTER Q WITH DIAGONAL STROKE",
   "1 CAPITAL LETTER R ROTUNDA;1 SMALL LETTER R ROTUNDA;1 CAPITAL LETTER RUM ROTUNDA",
   "1 SMALL LETTER RUM ROTUNDA;1 CAPITAL LETTER V WITH DIAGONAL STROKE",
   "1 SMALL LETTER V WITH DIAGONAL STROKE;1 CAPITAL LETTER VY;1 SMALL LETTER VY",
   "1 CAPITAL LETTER VISIGOTHIC Z;1 SMALL LETTER VISIGOTHIC Z;1 CAPITAL LETTER THORN WITH STROKE",
   "1 SMALL LETTER THORN WITH STROKE;1 CAPITAL LETTER THORN WITH STROKE THROUGH DESCENDER",
   "1 SMALL LETTER THORN WITH STROKE THROUGH DESCENDER;1 CAPITAL LETTER VEND;1 SMALL LETTER VEND",
   "1 CAPITAL LETTER ET;1 SMALL LETTER ET;1 CAPITAL LETTER IS;1 SMALL LETTER IS",
   "1 CAPITAL LETTER CON;1 SMALL LETTER CON;0 MODIFIER LETTER US;0 LATIN SMALL LETTER DUM;3 LUM",
   "3 MUM;3 NUM;3 RUM;1 LETTER SMALL CAPITAL RUM;1 SMALL LETTER TUM;3 UM;1 CAPITAL LETTER INSULAR D",
   "1 SMALL LETTER INSULAR D;1 CAPITAL LETTER INSULAR F;1 SMALL LETTER INSULAR F",
   "1 CAPITAL LETTER INSULAR G;3 TURNED INSULAR G;1 SMALL LETTER TURNED INSULAR G",
   "1 CAPITAL LETTER TURNED L;1 SMALL LETTER TURNED L;1 CAPITAL LETTER INSULAR R",
   "1 SMALL LETTER INSULAR R;1 CAPITAL LETTER INSULAR S;1 SMALL LETTER INSULAR S",
   "1 CAPITAL LETTER INSULAR T;1 SMALL LETTER INSULAR T;0 MODIFIER LETTER LOW CIRCUMFLEX ACCENT",
   "2 COLON;2 SHORT EQUALS SIGN;0 LATIN CAPITAL LETTER SALTILLO;1 SMALL LETTER SALTILLO",
   "1 CAPITAL LETTER TURNED H;1 SMALL LETTER L WITH RETROFLEX HOOK AND BELT",
   "1 LETTER SINOLOGICAL DOT;1 CAPITAL LETTER N WITH DESCENDER;1 SMALL LETTER N WITH DESCENDER",
   "1 CAPITAL LETTER C WITH BAR;1 SMALL LETTER C WITH BAR;5 PALATAL HOOK;3 H WITH PALATAL HOOK",
   "1 CAPITAL LETTER B WITH FLOURISH;1 SMALL LETTER B WITH FLOURISH;1 CAPITAL LETTER F WITH STROKE",
   "1 SMALL LETTER F WITH STROKE;1 CAPITAL LETTER VOLAPUK AE;1 SMALL LETTER VOLAPUK AE",
   "1 CAPITAL LETTER VOLAPUK OE;1 SMALL LETTER VOLAPUK OE;1 CAPITAL LETTER VOLAPUK UE",
   "1 SMALL LETTER VOLAPUK UE;1 CAPITAL LETTER G WITH OBLIQUE STROKE",
   "1 SMALL LETTER G WITH OBLIQUE STROKE;1 CAPITAL LETTER K WITH OBLIQUE STROKE",
   "1 SMALL LETTER K WITH OBLIQUE STROKE;1 CAPITAL LETTER N WITH OBLIQUE STROKE",
   "1 SMALL LETTER N WITH OBLIQUE STROKE;1 CAPITAL LETTER R WITH OBLIQUE STROKE",
   "1 SMALL LETTER R WITH OBLIQUE STROKE;1 CAPITAL LETTER S WITH OBLIQUE STROKE",
   "1 SMALL LETTER S WITH OBLIQUE STROKE;1 CAPITAL LETTER H WITH HOOK;3 REVERSED OPEN E;3 SCRIPT G",
   "3 L WITH BELT;3 SMALL CAPITAL I;1 LETTER SMALL CAPITAL Q;1 CAPITAL LETTER TURNED K;4 T",
   "3 J WITH CROSSED-TAIL;3 CHI;3 BETA;1 SMALL LETTER BETA;1 CAPITAL LETTER OMEGA",
   "1 SMALL LETTER OMEGA;1 CAPITAL LETTER U WITH STROKE;1 SMALL LETTER U WITH STROKE",
   "1 CAPITAL LETTER GLOTTAL A;1 SMALL LETTER GLOTTAL A;1 CAPITAL LETTER GLOTTAL I",
   "1 SMALL LETTER GLOTTAL I;1 CAPITAL LETTER GLOTTAL U;1 SMALL LETTER GLOTTAL U",
   "1 CAPITAL LETTER OLD POLISH O;1 SMALL LETTER OLD POLISH O;1 CAPITAL LETTER ANGLICANA W",
   "1 SMALL LETTER ANGLICANA W;1 CAPITAL LETTER C WITH PALATAL HOOK;3 S WITH HOOK",
   "3 Z WITH PALATAL HOOK;3 D WITH SHORT STROKE OVERLAY;1 SMALL LETTER D WITH SHORT STROKE OVERLAY",
   "1 CAPITAL LETTER S WITH SHORT STROKE OVERLAY;1 SMALL LETTER S WITH SHORT STROKE OVERLAY;@a7d0",
   "1 CAPITAL LETTER CLOSED INSULAR G;1 SMALL LETTER CLOSED INSULAR G;@a7d3;3 DOUBLE THORN;@a7d5",
   "4 WYNN;1 CAPITAL LETTER MIDDLE SCOTS S;1 SMALL LETTER MIDDLE SCOTS S;1 CAPITAL LETTER SIGMOID S",
   "1 SMALL LETTER SIGMOID S;@a7f2;0 MODIFIER LETTER CAPITAL C;3 F;3 Q",
   "0 LATIN CAPITAL LETTER REVERSED HALF H;1 SMALL LETTER REVERSED HALF H",
   "1 EPIGRAPHIC LETTER SIDEWAYS I;0 MODIFIER LETTER CAPITAL H WITH STROKE;2 SMALL LIGATURE OE",
   "0 LATIN LETTER SMALL CAPITAL TURNED M;1 EPIGRAPHIC LETTER REVERSED F;4 P;3 INVERTED M;3 I LONGA",
   "3 ARCHAIC M;0 SYLOTI NAGRI LETTER A;3 I;2 SIGN DVISVARA;2 LETTER U;3 E;3 O;2 SIGN HASANTA",
   "2 LETTER KO;3 KHO;3 GO;3 GHO;2 SIGN ANUSVARA;2 LETTER CO;3 CHO;3 JO;3 JHO;3 TTO;3 TTHO;3 DDO",
   "3 DDHO;3 TO;3 THO;3 DO;3 DHO;3 NO;3 PO;3 PHO;3 BO;3 BHO;3 MO;3 RO;3 LO;3 RRO;3 SO;3 HO",
   "2 VOWEL SIGN A;4 I;4 U;4 E;4 OO;2 POETRY MARK-1;3 MARK-2;3 MARK-3;3 MARK-4",
   "2 SIGN ALTERNATE HASANTA;@a830;0 NORTH INDIC FRACTION ONE QUARTER;4 HALF;3 THREE QUARTERS",
   "3 ONE SIXTEENTH;4 EIGHTH;3 THREE SIXTEENTHS;2 QUARTER MARK;2 PLACEHOLDER MARK;2 RUPEE MARK",
   "2 QUANTITY MARK;@a840;0 PHAGS-PA LETTER KA;2 KHA;2 GA;2 NGA;2 CA;2 CHA;2 JA;2 NYA;2 TA;2 THA",
   "2 DA;2 NA;2 PA;2 PHA;2 BA;2 MA;2 TSA;2 TSHA;2 DZA;2 WA;2 ZHA;2 ZA;2 SMALL A;2 YA;2 RA;2 LA",
   "2 SHA;2 SA;2 HA;2 A;2 I;2 U;2 E;2 O;2 QA;2 XA;2 FA;2 GGA;2 EE;1 SUBJOINED LETTER WA;3 YA",
   "1 LETTER TTA;2 TTHA;2 DDA;2 NNA;2 ALTERNATE YA;2 VOICELESS SHA;2 VOICED HA;2 ASPIRATED FA",
   "1 SUBJOINED LETTER RA;1 SUPERFIXED LETTER RA;1 LETTER CANDRABINDU;1 SINGLE HEAD MARK",
   "1 DOUBLE HEAD MARK;1 MARK SHAD;2 DOUBLE SHAD;@a880;0 SAURASHTRA SIGN ANUSVARA;2 VISARGA",
   "1 LETTER A;2 AA;2 I;2 II;2 U;2 UU;2 VOCALIC R;3 RR;3 L;3 LL;2 E;2 EE;2 AI;2 O;2 OO;2 AU;2 KA",
   "2 KHA;2 GA;2 GHA;2 NGA;2 CA;2 CHA;2 JA;2 JHA;2 NYA;2 TTA;2 TTHA;2 DDA;2 DDHA;2 NNA;2 TA;2 THA",
   "2 DA;2 DHA;2 NA;2 PA;2 PHA;2 BA;2 BHA;2 MA;2 YA;2 RA;2 LA;2 VA;2 SHA;2 SSA;2 SA;2 HA;2 LLA",
   "1 CONSONANT SIGN HAARU;1 VOWEL SIGN AA;3 I;3 II;3 U;3 UU;3 VOCALIC R;4 RR;4 L;4 LL;3 E;3 EE",
   "3 AI;3 O;3 OO;3 AU;1 SIGN VIRAMA;2 CANDRABINDU;@a8ce;1 DANDA;1 DOUBLE DANDA;1 DIGIT ZERO;2 ONE",
   "2 TWO;2 THREE;2 FOUR;2 FIVE;2 SIX;2 SEVEN;2 EIGHT;2 NINE;@a8e0",
   "0 COMBINING DEVANAGARI DIGIT ZERO;3 ONE;3 TWO;3 THREE;3 FOUR;3 FIVE;3 SIX;3 SEVEN;3 EIGHT",
   "3 NINE;2 LETTER A;3 U;3 KA;3 NA;3 PA;3 RA;3 VI;2 SIGN AVAGRAHA",
   "0 DEVANAGARI SIGN SPACING CANDRABINDU;2 CANDRABINDU VIRAMA;2 DOUBLE CANDRABINDU VIRAMA",
   "2 CANDRABINDU TWO;3 THREE;3 AVAGRAHA;2 PUSHPIKA;1 GAP FILLER;1 CARET;1 HEADSTROKE",
   "1 SIGN SIDDHAM;1 JAIN OM;1 LETTER AY;1 VOWEL SIGN AY;0 KAYAH LI DIGIT ZERO;3 ONE;3 TWO;3 THREE",
   "3 FOUR;3 FIVE;3 SIX;3 SEVEN;3 EIGHT;3 NINE;2 LETTER KA;3 KHA;3 GA;3 NGA;3 SA;3 SHA;3 ZA;3 NYA",
   "3 TA;3 HTA;3 NA;3 PA;3 PHA;3 MA;3 DA;3 BA;3 RA;3 YA;3 LA;3 WA;3 THA;3 HA;3 VA;3 CA;3 A;3 OE;3 I",
   "3 OO;2 VOWEL UE;3 E;3 U;3 EE;3 O;2 TONE PLOPHU;3 CALYA;4 PLOPHU;2 SIGN CWI;3 SHYA",
   "0 REJANG LETTER KA;2 GA;2 NGA;2 TA;2 DA;2 NA;2 PA;2 BA;2 MA;2 CA;2 JA;2 NYA;2 SA;2 RA;2 LA;2 YA",
   "2 WA;2 HA;2 MBA;2 NGGA;2 NDA;2 NYJA;2 A;1 VOWEL SIGN I;3 U;3 E;3 AI;3 O;3 AU;3 EU;3 EA",
   "1 CONSONANT SIGN NG;3 N;3 R;3 H;1 VIRAMA;@a95f;1 SECTION MARK;0 HANGUL CHOSEONG TIKEUT-MIEUM",
   "2 TIKEUT-PIEUP;2 TIKEUT-SIOS;2 TIKEUT-CIEUC;2 RIEUL-KIYEOK;2 RIEUL-SSANGKIYEOK;2 RIEUL-TIKEUT",
   "2 RIEUL-SSANGTIKEUT;2 RIEUL-MIEUM;2 RIEUL-PIEUP;2 RIEUL-SSANGPIEUP;2 RIEUL-KAPYEOUNPIEUP",
   "2 RIEUL-SIOS;2 RIEUL-CIEUC;2 RIEUL-KHIEUKH;2 MIEUM-KIYEOK;2 MIEUM-TIKEUT;2 MIEUM-SIOS",
   "2 PIEUP-SIOS-THIEUTH;2 PIEUP-KHIEUKH;2 PIEUP-HIEUH;2 SSANGSIOS-PIEUP;2 IEUNG-RIEUL",
   "2 IEUNG-HIEUH;2 SSANGCIEUC-HIEUH;2 SSANGTHIEUTH;2 PHIEUPH-HIEUH;2 HIEUH-SIOS;2 SSANGYEORINHIEUH",
   "@a980;0 JAVANESE SIGN PANYANGGA;2 CECAK;2 LAYAR;2 WIGNYAN;1 LETTER A;2 I KAWI;2 I;2 II;2 U",
   "2 PA CEREK;2 NGA LELET;4 RASWADI;2 E;2 AI;2 O;2 KA;3 SASAK;3 MURDA;2 GA;3 MURDA;2 NGA;2 CA",
   "3 MURDA;2 JA;2 NYA MURDA;2 JA MAHAPRANA;2 NYA;2 TTA;3 MAHAPRANA;2 DDA;3 MAHAPRANA;2 NA MURDA",
   "2 TA;3 MURDA;2 DA;3 MAHAPRANA;2 NA;2 PA;3 MURDA;2 BA;3 MURDA;2 MA;2 YA;2 RA;3 AGUNG;2 LA;2 WA",
   "2 SA MURDA;3 MAHAPRANA;2 SA;2 HA;1 SIGN CECAK TELU;1 VOWEL SIGN TARUNG;3 TOLONG;3 WULU;4 MELIK",
   "3 SUKU;4 MENDUT;3 TALING;3 DIRGA MURE;3 PEPET;1 CONSONANT SIGN KERET;3 PENGKAL;3 CAKRA",
   "1 PANGKON;1 LEFT RERENGGAN;1 RIGHT RERENGGAN;1 PADA ANDAP;2 MADYA;2 LUHUR;2 WINDU;2 PANGKAT",
   "2 LINGSA;2 LUNGSI;2 ADEG;3 ADEG;2 PISELEH;1 TURNED PADA PISELEH;@a9cf;1 PANGRANGKEP",
   "1 DIGIT ZERO;2 ONE;2 TWO;2 THREE;2 FOUR;2 FIVE;2 SIX;2 SEVEN;2 EIGHT;2 NINE;@a9de",
   "1 PADA TIRTA TUMETES;2 ISEN-ISEN;0 MYANMAR LETTER SHAN GHA;3 CHA;3 JHA;3 NNA;3 BHA",
   "1 SIGN SHAN SAW;1 MODIFIER LETTER SHAN REDUPLICATION;1 LETTER TAI LAING NYA;4 FA;4 GA;4 GHA",
   "4 JA;4 JHA;4 DDA;4 DDHA;4 NNA;1 TAI LAING DIGIT ZERO;4 ONE;4 TWO;4 THREE;4 FOUR;4 FIVE;4 SIX",
   "4 SEVEN;4 EIGHT;4 NINE;1 LETTER TAI LAING LLA;4 DA;4 DHA;4 BA;4 BHA;@aa00;0 CHAM LETTER A;2 I",
   "2 U;2 E;2 AI;2 O;2 KA;2 KHA;2 GA;2 GHA;2 NGUE;2 NGA;2 CHA;2 CHHA;2 JA;2 JHA;2 NHUE;2 NHA;2 NHJA",
   "2 TA;2 THA;2 DA;2 DHA;2 NUE;2 NA;2 DDA;2 PA;2 PPA;2 PHA;2 BA;2 BHA;2 MUE;2 MA;2 BBA;2 YA;2 RA",
   "2 LA;2 VA;2 SSA;2 SA;2 HA;1 VOWEL SIGN AA;3 I;3 II;3 EI;3 U;3 OE;3 O;3 AI;3 AU;3 UE",
   "1 CONSONANT SIGN YA;3 RA;3 LA;3 WA;@aa40;1 LETTER FINAL K;3 G;3 NG;1 CONSONANT SIGN FINAL NG",
   "1 LETTER FINAL CH;3 T;3 N;3 P;3 Y;3 R;3 L;3 SS;1 CONSONANT SIGN FINAL M;4 H;@aa50;1 DIGIT ZERO",
   "2 ONE;2 TWO;2 THREE;2 FOUR;2 FIVE;2 SIX;2 SEVEN;2 EIGHT;2 NINE;@aa5c;1 PUNCTUATION SPIRAL",
   "2 DANDA;2 DOUBLE DANDA;2 TRIPLE DANDA;0 MYANMAR LETTER KHAMTI GA;3 CA;3 CHA;3 JA;3 JHA;3 NYA",
   "3 TTA;3 TTHA;3 DDA;3 DDHA;3 DHA;3 NA;3 SA;3 HA;3 HHA;3 FA",
   "1 MODIFIER LETTER KHAMTI REDUPLICATION;1 LETTER KHAMTI XA;3 ZA;3 RA;1 LOGOGRAM KHAMTI OAY;3 QN",
   "3 HM;1 SYMBOL AITON EXCLAMATION;3 ONE;3 TWO;1 LETTER AITON RA;1 SIGN PAO KAREN TONE",
   "2 TAI LAING TONE-2;4 TONE-5;1 LETTER SHWE PALAUNG CHA;4 SHA;0 TAI VIET LETTER LOW KO;3 HIGH KO",
   "3 LOW KHO;3 HIGH KHO;3 LOW KHHO;3 HIGH KHHO;3 LOW GO;3 HIGH GO;3 LOW NGO;3 HIGH NGO;3 LOW CO",
   "3 HIGH CO;3 LOW CHO;3 HIGH CHO;3 LOW SO;3 HIGH SO;3 LOW NYO;3 HIGH NYO;3 LOW DO;3 HIGH DO",
   "3 LOW TO;3 HIGH TO;3 LOW THO;3 HIGH THO;3 LOW NO;3 HIGH NO;3 LOW BO;3 HIGH BO;3 LOW PO",
   "3 HIGH PO;3 LOW PHO;3 HIGH PHO;3 LOW FO;3 HIGH FO;3 LOW MO;3 HIGH MO;3 LOW YO;3 HIGH YO",
   "3 LOW RO;3 HIGH RO;3 LOW LO;3 HIGH LO;3 LOW VO;3 HIGH VO;3 LOW HO;3 HIGH HO;3 LOW O;3 HIGH O",
   "2 MAI KANG;2 VOWEL AA;3 I;3 UE;3 U;3 E;3 O;2 MAI KHIT;2 VOWEL IA;3 UEA;3 UA;3 AUE;3 AY;3 AN",
   "3 AM;2 TONE MAI EK;4 NUENG;4 THO;4 SONG;@aadb;2 SYMBOL KON;3 NUENG;3 SAM;3 HO HOI;3 KOI KOI",
   "0 MEETEI MAYEK LETTER E;3 O;3 CHA;3 NYA;3 TTA;3 TTHA;3 DDA;3 DDHA;3 NNA;3 SHA;3 SSA",
   "2 VOWEL SIGN II;4 UU;4 AAI;4 AU;4 AAU;2 CHEIKHAN;2 AHANG KHUDAM;2 ANJI",
   "2 SYLLABLE REPETITION MARK;2 WORD REPETITION MARK;2 VOWEL SIGN VISARGA;2 VIRAMA;@ab01",
   "0 ETHIOPIC SYLLABLE TTHU;2 TTHI;2 TTHAA;2 TTHEE;2 TTHE;2 TTHO;@ab09;2 DDHU;2 DDHI;2 DDHAA",
   "2 DDHEE;2 DDHE;2 DDHO;@ab11;2 DZU;2 DZI;2 DZAA;2 DZEE;2 DZE;2 DZO;@ab20;2 CCHHA;2 CCHHU;2 CCHHI",
   "2 CCHHAA;2 CCHHEE;2 CCHHE;2 CCHHO;@ab28;2 BBA;2 BBU;2 BBI;2 BBAA;2 BBEE;2 BBE;2 BBO;@ab30",
   "0 LATIN SMALL LETTER BARRED ALPHA;3 A REVERSED-SCHWA;3 BLACKLETTER E;3 BARRED E",
   "3 E WITH FLOURISH;3 LENIS F;3 SCRIPT G WITH CROSSED-TAIL;3 L WITH INVERTED LAZY S",
   "5 DOUBLE MIDDLE TILDE;5 MIDDLE RING;3 M WITH CROSSED-TAIL;3 N WITH CROSSED-TAIL",
   "3 ENG WITH CROSSED-TAIL;3 BLACKLETTER O;5 WITH STROKE;3 OPEN O WITH STROKE;3 INVERTED OE",
   "3 TURNED OE WITH STROKE;6 HORIZONTAL STROKE;4 O OPEN-O;6 WITH STROKE;3 STIRRUP R",
   "1 LETTER SMALL CAPITAL R WITH RIGHT LEG;1 SMALL LETTER R WITHOUT HANDLE;3 DOUBLE R",
   "3 R WITH CROSSED-TAIL;3 DOUBLE R WITH CROSSED-TAIL;3 SCRIPT R;5 WITH RING;3 BASELINE ESH",
   "3 U WITH SHORT RIGHT LEG;4 BAR WITH SHORT RIGHT LEG;3 UI;3 TURNED UI;3 U WITH LEFT HOOK;3 CHI",
   "4 WITH LOW RIGHT RING;6 LEFT SERIF;3 X WITH LOW RIGHT RING;5 LONG LEFT LEG;8 AND LOW RIGHT RING",
   "8 WITH SERIF;3 Y WITH SHORT RIGHT LEG;0 MODIFIER BREVE WITH INVERTED BREVE;1 LETTER SMALL HENG",
   "3 L WITH INVERTED LAZY S;5 MIDDLE TILDE;3 U WITH LEFT HOOK;0 LATIN SMALL LETTER SAKHA YAT",
   "3 IOTIFIED E;3 OPEN OE;3 UO;3 INVERTED ALPHA;0 GREEK LETTER SMALL CAPITAL OMEGA",
   "0 LATIN SMALL LETTER DZ DIGRAPH WITH RETROFLEX HOOK;3 TS DIGRAPH WITH RETROFLEX HOOK",
   "3 TURNED R WITH MIDDLE TILDE;0 MODIFIER LETTER SMALL TURNED W;2 LEFT TACK;2 RIGHT TACK;@ab70",
   "0 CHEROKEE SMALL LETTER A;3 E;3 I;3 O;3 U;3 V;3 GA;3 KA;3 GE;3 GI;3 GO;3 GU;3 GV;3 HA;3 HE;3 HI",
   "3 HO;3 HU;3 HV;3 LA;3 LE;3 LI;3 LO;3 LU;3 LV;3 MA;3 ME;3 MI;3 MO;3 MU;3 NA;3 HNA;3 NAH;3 NE",
   "3 NI;3 NO;3 NU;3 NV;3 QUA;3 QUE;3 QUI;3 QUO;3 QUU;3 QUV;3 SA;3 S;3 SE;3 SI;3 SO;3 SU;3 SV;3 DA",
   "3 TA;3 DE;3 TE;3 DI;3 TI;3 DO;3 DU;3 DV;3 DLA;3 TLA;3 TLE;3 TLI;3 TLO;3 TLU;3 TLV;3 TSA;3 TSE",
   "3 TSI;3 TSO;3 TSU;3 TSV;3 WA;3 WE;3 WI;3 WO;3 WU;3 WV;3 YA;0 MEETEI MAYEK LETTER KOK;3 SAM",
   "3 LAI;3 MIT;3 PA;3 NA;3 CHIL;3 TIL;3 KHOU;3 NGOU;3 THOU;3 WAI;3 YANG;3 HUK;3 UN;3 I;3 PHAM",
   "3 ATIYA;3 GOK;3 JHAM;3 RAI;3 BA;3 JIL;3 DIL;3 GHOU;3 DHOU;3 BHAM;3 KOK LONSUM;3 LAI LONSUM",
   "3 MIT LONSUM;3 PA LONSUM;3 NA LONSUM;3 TIL LONSUM;3 NGOU LONSUM;3 I LONSUM;2 VOWEL SIGN ONAP",
   "4 INAP;4 ANAP;4 YENAP;4 SOUNAP;4 UNAP;4 CHEINAP;4 NUNG;2 CHEIKHEI;2 LUM IYEK;2 APUN IYEK;@abf0",
   "2 DIGIT ZERO;3 ONE;3 TWO;3 THREE;3 FOUR;3 FIVE;3 SIX;3 SEVEN;3 EIGHT;3 NINE;@d7b0",
   "0 HANGUL JUNGSEONG O-YEO;2 O-O-I;2 YO-A;2 YO-AE;2 YO-EO;2 U-YEO;2 U-I-I;2 YU-AE;2 YU-O;2 EU-A",
   "2 EU-EO;2 EU-E;2 EU-O;2 I-YA-O;2 I-YAE;2 I-YEO;2 I-YE;2 I-O-I;2 I-YO;2 I-YU;2 I-I;2 ARAEA-A",
   "2 ARAEA-E;@d7cb;1 JONGSEONG NIEUN-RIEUL;2 NIEUN-CHIEUCH;2 SSANGTIKEUT;2 SSANGTIKEUT-PIEUP",
   "2 TIKEUT-PIEUP;2 TIKEUT-SIOS;2 TIKEUT-SIOS-KIYEOK;2 TIKEUT-CIEUC;2 TIKEUT-CHIEUCH",
   "2 TIKEUT-THIEUTH;2 RIEUL-SSANGKIYEOK;2 RIEUL-KIYEOK-HIEUH;2 SSANGRIEUL-KHIEUKH",
   "2 RIEUL-MIEUM-HIEUH;2 RIEUL-PIEUP-TIKEUT;2 RIEUL-PIEUP-PHIEUPH;2 RIEUL-YESIEUNG",
   "2 RIEUL-YEORINHIEUH-HIEUH;2 KAPYEOUNRIEUL;2 MIEUM-NIEUN;2 MIEUM-SSANGNIEUN;2 SSANGMIEUM",
   "2 MIEUM-PIEUP-SIOS;2 MIEUM-CIEUC;2 PIEUP-TIKEUT;2 PIEUP-RIEUL-PHIEUPH;2 PIEUP-MIEUM",
   "2 SSANGPIEUP;2 PIEUP-SIOS-TIKEUT;2 PIEUP-CIEUC;2 PIEUP-CHIEUCH;2 SIOS-MIEUM",
   "2 SIOS-KAPYEOUNPIEUP;2 SSANGSIOS-KIYEOK;2 SSANGSIOS-TIKEUT;2 SIOS-PANSIOS;2 SIOS-CIEUC",
   "2 SIOS-CHIEUCH;2 SIOS-THIEUTH;2 SIOS-HIEUH;2 PANSIOS-PIEUP;2 PANSIOS-KAPYEOUNPIEUP",
   "2 YESIEUNG-MIEUM;2 YESIEUNG-HIEUH;2 CIEUC-PIEUP;2 CIEUC-SSANGPIEUP;2 SSANGCIEUC;2 PHIEUPH-SIOS",
   "2 PHIEUPH-THIEUTH"]

end FormCheck.Text
