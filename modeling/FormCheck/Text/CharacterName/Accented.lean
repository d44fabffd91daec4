/-!
# Names of letters with accents

* `accentedNames` — the blocks of phonetic letters and of Latin and Greek letters with accents.
-/

namespace FormCheck.Text

/-- The names of the characters from `0x1d00` to `0x1ffe`, in the notation of tables of names. -/
def accentedNames : List String :=
  ["@1d00;0 LATIN LETTER SMALL CAPITAL A;4 AE;1 SMALL LETTER TURNED AE",
   "1 LETTER SMALL CAPITAL BARRED B;4 C;4 D;4 ETH;4 E;1 SMALL LETTER TURNED OPEN E;4 I",
   "1 LETTER SMALL CAPITAL J;4 K;4 L WITH STROKE;4 M;4 REVERSED N;4 O;4 OPEN O",
   "1 SMALL LETTER SIDEWAYS O;4 OPEN O;4 O WITH STROKE;3 TURNED OE;1 LETTER SMALL CAPITAL OU",
   "1 SMALL LETTER TOP HALF O;3 BOTTOM HALF O;1 LETTER SMALL CAPITAL P;4 REVERSED R;4 TURNED R;4 T",
   "4 U;1 SMALL LETTER SIDEWAYS U;4 DIAERESIZED U;4 TURNED M;1 LETTER SMALL CAPITAL V;4 W;4 Z;4 EZH",
   "2 VOICED LARYNGEAL SPIRANT;2 AIN;0 GREEK LETTER SMALL CAPITAL GAMMA;4 LAMDA;4 PI;4 RHO;4 PSI",
   "0 CYRILLIC LETTER SMALL CAPITAL EL;0 MODIFIER LETTER CAPITAL A;3 AE;3 B;3 BARRED B;3 D;3 E",
   "3 REVERSED E;3 G;3 H;3 I;3 J;3 K;3 L;3 M;3 N;3 REVERSED N;3 O;3 OU;3 P;3 R;3 T;3 U;3 W",
   "2 SMALL A;3 TURNED A;3 ALPHA;3 TURNED AE;3 B;3 D;3 E;3 SCHWA;3 OPEN E;3 TURNED OPEN E;3 G",
   "3 TURNED I;3 K;3 M;3 ENG;3 O;3 OPEN O;3 TOP HALF O;3 BOTTOM HALF O;3 P;3 T;3 U;3 SIDEWAYS U",
   "3 TURNED M;3 V;3 AIN;3 BETA;3 GREEK GAMMA;3 DELTA;3 GREEK PHI;3 CHI",
   "0 LATIN SUBSCRIPT SMALL LETTER I;4 R;4 U;4 V;0 GREEK SUBSCRIPT SMALL LETTER BETA;4 GAMMA;4 RHO",
   "4 PHI;4 CHI;0 LATIN SMALL LETTER UE;3 B WITH MIDDLE TILDE;3 D WITH MIDDLE TILDE",
   "3 F WITH MIDDLE TILDE;3 M WITH MIDDLE TILDE;3 N WITH MIDDLE TILDE;3 P WITH MIDDLE TILDE",
   "3 R WITH MIDDLE TILDE;5 FISHHOOK AND MIDDLE TILDE;3 S WITH MIDDLE TILDE;3 T WITH MIDDLE TILDE",
   "3 Z WITH MIDDLE TILDE;3 TURNED G;0 MODIFIER LETTER CYRILLIC EN;0 LATIN SMALL LETTER INSULAR G",
   "3 TH WITH STRIKETHROUGH;2 CAPITAL LETTER I WITH STROKE;2 LETTER IOTA WITH STROKE",
   "3 P WITH STROKE;2 CAPITAL LETTER U WITH STROKE;2 LETTER UPSILON WITH STROKE",
   "3 B WITH PALATAL HOOK;3 D WITH PALATAL HOOK;3 F WITH PALATAL HOOK;3 G WITH PALATAL HOOK",
   "3 K WITH PALATAL HOOK;3 L WITH PALATAL HOOK;3 M WITH PALATAL HOOK;3 N WITH PALATAL HOOK",
   "3 P WITH PALATAL HOOK;3 R WITH PALATAL HOOK;3 S WITH PALATAL HOOK;3 ESH WITH PALATAL HOOK",
   "3 V WITH PALATAL HOOK;3 X WITH PALATAL HOOK;3 Z WITH PALATAL HOOK;3 A WITH RETROFLEX HOOK",
   "3 ALPHA WITH RETROFLEX HOOK;3 D WITH HOOK AND TAIL;3 E WITH RETROFLEX HOOK",
   "3 OPEN E WITH RETROFLEX HOOK;3 REVERSED OPEN E WITH RETROFLEX HOOK;3 SCHWA WITH RETROFLEX HOOK",
   "3 I WITH RETROFLEX HOOK;3 OPEN O WITH RETROFLEX HOOK;3 ESH WITH RETROFLEX HOOK",
   "3 U WITH RETROFLEX HOOK;3 EZH WITH RETROFLEX HOOK;0 MODIFIER LETTER SMALL TURNED ALPHA;3 C",
   "4 WITH CURL;3 ETH;3 REVERSED OPEN E;3 F;3 DOTLESS J WITH STROKE;3 SCRIPT G;3 TURNED H",
   "3 I WITH STROKE;3 IOTA;3 CAPITAL I;5 WITH STROKE;3 J WITH CROSSED-TAIL;3 L WITH RETROFLEX HOOK",
   "5 PALATAL HOOK;3 CAPITAL L;3 M WITH HOOK;3 TURNED M WITH LONG LEG;3 N WITH LEFT HOOK",
   "5 RETROFLEX HOOK;3 CAPITAL N;3 BARRED O;3 PHI;3 S WITH HOOK;3 ESH;3 T WITH PALATAL HOOK;3 U BAR",
   "3 UPSILON;3 CAPITAL U;3 V WITH HOOK;3 TURNED V;3 Z;4 WITH RETROFLEX HOOK;5 CURL;3 EZH;3 THETA",
   "0 COMBINING DOTTED GRAVE ACCENT;2 ACUTE ACCENT;1 SNAKE BELOW;1 SUSPENSION MARK;1 MACRON-ACUTE",
   "1 GRAVE-MACRON;1 MACRON-GRAVE;1 ACUTE-MACRON;1 GRAVE-ACUTE-GRAVE;1 ACUTE-GRAVE-ACUTE",
   "1 LATIN SMALL LETTER R BELOW;1 BREVE-MACRON;1 MACRON-BREVE;1 DOUBLE CIRCUMFLEX ABOVE",
   "1 OGONEK ABOVE;1 ZIGZAG BELOW;1 IS BELOW;1 UR ABOVE;1 US ABOVE",
   "1 LATIN SMALL LETTER FLATTENED OPEN A ABOVE;4 AE;4 AO;4 AV;4 C CEDILLA;4 INSULAR D;4 ETH;4 G",
   "2 LETTER SMALL CAPITAL G;2 SMALL LETTER K;4 L;2 LETTER SMALL CAPITAL L;5 M;2 SMALL LETTER N",
   "2 LETTER SMALL CAPITAL N;5 R;2 SMALL LETTER R ROTUNDA;4 S;4 LONG S;4 Z;4 ALPHA;4 B;4 BETA",
   "4 SCHWA;4 F;4 L WITH DOUBLE MIDDLE TILDE;4 O WITH LIGHT CENTRALIZATION STROKE;4 P;4 ESH",
   "4 U WITH LIGHT CENTRALIZATION STROKE;4 W;4 A WITH DIAERESIS;4 O WITH DIAERESIS",
   "4 U WITH DIAERESIS;1 UP TACK ABOVE;1 KAVYKA ABOVE RIGHT;3 LEFT;1 DOT ABOVE LEFT",
   "1 WIDE INVERTED BRIDGE BELOW;1 DOT BELOW LEFT;1 DELETION MARK;1 DOUBLE INVERTED BREVE BELOW",
   "1 ALMOST EQUAL TO BELOW;1 LEFT ARROWHEAD ABOVE;1 RIGHT ARROWHEAD AND DOWN ARROWHEAD BELOW",
   "0 LATIN CAPITAL LETTER A WITH RING BELOW;1 SMALL LETTER A WITH RING BELOW",
   "1 CAPITAL LETTER B WITH DOT ABOVE;1 SMALL LETTER B WITH DOT ABOVE",
   "1 CAPITAL LETTER B WITH DOT BELOW;1 SMALL LETTER B WITH DOT BELOW",
   "1 CAPITAL LETTER B WITH LINE BELOW;1 SMALL LETTER B WITH LINE BELOW",
   "1 CAPITAL LETTER C WITH CEDILLA AND ACUTE;1 SMALL LETTER C WITH CEDILLA AND ACUTE",
   "1 CAPITAL LETTER D WITH DOT ABOVE;1 SMALL LETTER D WITH DOT ABOVE",
   "1 CAPITAL LETTER D WITH DOT BELOW;1 SMALL LETTER D WITH DOT BELOW",
   "1 CAPITAL LETTER D WITH LINE BELOW;1 SMALL LETTER D WITH LINE BELOW",
   "1 CAPITAL LETTER D WITH CEDILLA;1 SMALL LETTER D WITH CEDILLA",
   "1 CAPITAL LETTER D WITH CIRCUMFLEX BELOW;1 SMALL LETTER D WITH CIRCUMFLEX BELOW",
   "1 CAPITAL LETTER E WITH MACRON AND GRAVE;1 SMALL LETTER E WITH MACRON AND GRAVE",
   "1 CAPITAL LETTER E WITH MACRON AND ACUTE;1 SMALL LETTER E WITH MACRON AND ACUTE",
   "1 CAPITAL LETTER E WITH CIRCUMFLEX BELOW;1 SMALL LETTER E WITH CIRCUMFLEX BELOW",
   "1 CAPITAL LETTER E WITH TILDE BELOW;1 SMALL LETTER E WITH TILDE BELOW",
   "1 CAPITAL LETTER E WITH CEDILLA AND BREVE;1 SMALL LETTER E WITH CEDILLA AND BREVE",
   "1 CAPITAL LETTER F WITH DOT ABOVE;1 SMALL LETTER F WITH DOT ABOVE",
   "1 CAPITAL LETTER G WITH MACRON;1 SMALL LETTER G WITH MACRON;1 CAPITAL LETTER H WITH DOT ABOVE",
   "1 SMALL LETTER H WITH DOT ABOVE;1 CAPITAL LETTER H WITH DOT BELOW",
   "1 SMALL LETTER H WITH DOT BELOW;1 CAPITAL LETTER H WITH DIAERESIS",
   "1 SMALL LETTER H WITH DIAERESIS;1 CAPITAL LETTER H WITH CEDILLA;1 SMALL LETTER H WITH CEDILLA",
   "1 CAPITAL LETTER H WITH BREVE BELOW;1 SMALL LETTER H WITH BREVE BELOW",
   "1 CAPITAL LETTER I WITH TILDE BELOW;1 SMALL LETTER I WITH TILDE BELOW",
   "1 CAPITAL LETTER I WITH DIAERESIS AND ACUTE;1 SMALL LETTER I WITH DIAERESIS AND ACUTE",
   "1 CAPITAL LETTER K WITH ACUTE;1 SMALL LETTER K WITH ACUTE;1 CAPITAL LETTER K WITH DOT BELOW",
   "1 SMALL LETTER K WITH DOT BELOW;1 CAPITAL LETTER K WITH LINE BELOW",
   "1 SMALL LETTER K WITH LINE BELOW;1 CAPITAL LETTER L WITH DOT BELOW",
   "1 SMALL LETTER L WITH DOT BELOW;1 CAPITAL LETTER L WITH DOT BELOW AND MACRON",
   "1 SMALL LETTER L WITH DOT BELOW AND MACRON;1 CAPITAL LETTER L WITH LINE BELOW",
   "1 SMALL LETTER L WITH LINE BELOW;1 CAPITAL LETTER L WITH CIRCUMFLEX BELOW",
   "1 SMALL LETTER L WITH CIRCUMFLEX BELOW;1 CAPITAL LETTER M WITH ACUTE",
   "1 SMALL LETTER M WITH ACUTE;1 CAPITAL LETTER M WITH DOT ABOVE;1 SMALL LETTER M WITH DOT ABOVE",
   "1 CAPITAL LETTER M WITH DOT BELOW;1 SMALL LETTER M WITH DOT BELOW",
   "1 CAPITAL LETTER N WITH DOT ABOVE;1 SMALL LETTER N WITH DOT ABOVE",
   "1 CAPITAL LETTER N WITH DOT BELOW;1 SMALL LETTER N WITH DOT BELOW",
   "1 CAPITAL LETTER N WITH LINE BELOW;1 SMALL LETTER N WITH LINE BELOW",
   "1 CAPITAL LETTER N WITH CIRCUMFLEX BELOW;1 SMALL LETTER N WITH CIRCUMFLEX BELOW",
   "1 CAPITAL LETTER O WITH TILDE AND ACUTE;1 SMALL LETTER O WITH TILDE AND ACUTE",
   "1 CAPITAL LETTER O WITH TILDE AND DIAERESIS;1 SMALL LETTER O WITH TILDE AND DIAERESIS",
   "1 CAPITAL LETTER O WITH MACRON AND GRAVE;1 SMALL LETTER O WITH MACRON AND GRAVE",
   "1 CAPITAL LETTER O WITH MACRON AND ACUTE;1 SMALL LETTER O WITH MACRON AND ACUTE",
   "1 CAPITAL LETTER P WITH ACUTE;1 SMALL LETTER P WITH ACUTE;1 CAPITAL LETTER P WITH DOT ABOVE",
   "1 SMALL LETTER P WITH DOT ABOVE;1 CAPITAL LETTER R WITH DOT ABOVE",
   "1 SMALL LETTER R WITH DOT ABOVE;1 CAPITAL LETTER R WITH DOT BELOW",
   "1 SMALL LETTER R WITH DOT BELOW;1 CAPITAL LETTER R WITH DOT BELOW AND MACRON",
   "1 SMALL LETTER R WITH DOT BELOW AND MACRON;1 CAPITAL LETTER R WITH LINE BELOW",
   "1 SMALL LETTER R WITH LINE BELOW;1 CAPITAL LETTER S WITH DOT ABOVE",
   "1 SMALL LETTER S WITH DOT ABOVE;1 CAPITAL LETTER S WITH DOT BELOW",
   "1 SMALL LETTER S WITH DOT BELOW;1 CAPITAL LETTER S WITH ACUTE AND DOT ABOVE",
   "1 SMALL LETTER S WITH ACUTE AND DOT ABOVE;1 CAPITAL LETTER S WITH CARON AND DOT ABOVE",
   "1 SMALL LETTER S WITH CARON AND DOT ABOVE;1 CAPITAL LETTER S WITH DOT BELOW AND DOT ABOVE",
   "1 SMALL LETTER S WITH DOT BELOW AND DOT ABOVE;1 CAPITAL LETTER T WITH DOT ABOVE",
   "1 SMALL LETTER T WITH DOT ABOVE;1 CAPITAL LETTER T WITH DOT BELOW",
   "1 SMALL LETTER T WITH DOT BELOW;1 CAPITAL LETTER T WITH LINE BELOW",
   "1 SMALL LETTER T WITH LINE BELOW;1 CAPITAL LETTER T WITH CIRCUMFLEX BELOW",
   "1 SMALL LETTER T WITH CIRCUMFLEX BELOW;1 CAPITAL LETTER U WITH DIAERESIS BELOW",
   "1 SMALL LETTER U WITH DIAERESIS BELOW;1 CAPITAL LETTER U WITH TILDE BELOW",
   "1 SMALL LETTER U WITH TILDE BELOW;1 CAPITAL LETTER U WITH CIRCUMFLEX BELOW",
   "1 SMALL LETTER U WITH CIRCUMFLEX BELOW;1 CAPITAL LETTER U WITH TILDE AND ACUTE",
   "1 SMALL LETTER U WITH TILDE AND ACUTE;1 CAPITAL LETTER U WITH MACRON AND DIAERESIS",
   "1 SMALL LETTER U WITH MACRON AND DIAERESIS;1 CAPITAL LETTER V WITH TILDE",
   "1 SMALL LETTER V WITH TILDE;1 CAPITAL LETTER V WITH DOT BELOW;1 SMALL LETTER V WITH DOT BELOW",
   "1 CAPITAL LETTER W WITH GRAVE;1 SMALL LETTER W WITH GRAVE;1 CAPITAL LETTER W WITH ACUTE",
   "1 SMALL LETTER W WITH ACUTE;1 CAPITAL LETTER W WITH DIAERESIS;1 SMALL LETTER W WITH DIAERESIS",
   "1 CAPITAL LETTER W WITH DOT ABOVE;1 SMALL LETTER W WITH DOT ABOVE",
   "1 CAPITAL LETTER W WITH DOT BELOW;1 SMALL LETTER W WITH DOT BELOW",
   "1 CAPITAL LETTER X WITH DOT ABOVE;1 SMALL LETTER X WITH DOT ABOVE",
   "1 CAPITAL LETTER X WITH DIAERESIS;1 SMALL LETTER X WITH DIAERESIS",
   "1 CAPITAL LETTER Y WITH DOT ABOVE;1 SMALL LETTER Y WITH DOT ABOVE",
   "1 CAPITAL LETTER Z WITH CIRCUMFLEX;1 SMALL LETTER Z WITH CIRCUMFLEX",
   "1 CAPITAL LETTER Z WITH DOT BELOW;1 SMALL LETTER Z WITH DOT BELOW",
   "1 CAPITAL LETTER Z WITH LINE BELOW;1 SMALL LETTER Z WITH LINE BELOW;3 H WITH LINE BELOW",
   "3 T WITH DIAERESIS;3 W WITH RING ABOVE;3 Y WITH RING ABOVE;3 A WITH RIGHT HALF RING",
   "3 LONG S WITH DOT ABOVE;6 DIAGONAL STROKE;6 HIGH STROKE;1 CAPITAL LETTER SHARP S",
   "1 SMALL LETTER DELTA;1 CAPITAL LETTER A WITH DOT BELOW;1 SMALL LETTER A WITH DOT BELOW",
   "1 CAPITAL LETTER A WITH HOOK ABOVE;1 SMALL LETTER A WITH HOOK ABOVE",
   "1 CAPITAL LETTER A WITH CIRCUMFLEX AND ACUTE;1 SMALL LETTER A WITH CIRCUMFLEX AND ACUTE",
   "1 CAPITAL LETTER A WITH CIRCUMFLEX AND GRAVE;1 SMALL LETTER A WITH CIRCUMFLEX AND GRAVE",
   "1 CAPITAL LETTER A WITH CIRCUMFLEX AND HOOK ABOVE",
   "1 SMALL LETTER A WITH CIRCUMFLEX AND HOOK ABOVE;1 CAPITAL LETTER A WITH CIRCUMFLEX AND TILDE",
   "1 SMALL LETTER A WITH CIRCUMFLEX AND TILDE;1 CAPITAL LETTER A WITH CIRCUMFLEX AND DOT BELOW",
   "1 SMALL LETTER A WITH CIRCUMFLEX AND DOT BELOW;1 CAPITAL LETTER A WITH BREVE AND ACUTE",
   "1 SMALL LETTER A WITH BREVE AND ACUTE;1 CAPITAL LETTER A WITH BREVE AND GRAVE",
   "1 SMALL LETTER A WITH BREVE AND GRAVE;1 CAPITAL LETTER A WITH BREVE AND HOOK ABOVE",
   "1 SMALL LETTER A WITH BREVE AND HOOK ABOVE;1 CAPITAL LETTER A WITH BREVE AND TILDE",
   "1 SMALL LETTER A WITH BREVE AND TILDE;1 CAPITAL LETTER A WITH BREVE AND DOT BELOW",
   "1 SMALL LETTER A WITH BREVE AND DOT BELOW;1 CAPITAL LETTER E WITH DOT BELOW",
   "1 SMALL LETTER E WITH DOT BELOW;1 CAPITAL LETTER E WITH HOOK ABOVE",
   "1 SMALL LETTER E WITH HOOK ABOVE;1 CAPITAL LETTER E WITH TILDE;1 SMALL LETTER E WITH TILDE",
   "1 CAPITAL LETTER E WITH CIRCUMFLEX AND ACUTE;1 SMALL LETTER E WITH CIRCUMFLEX AND ACUTE",
   "1 CAPITAL LETTER E WITH CIRCUMFLEX AND GRAVE;1 SMALL LETTER E WITH CIRCUMFLEX AND GRAVE",
   "1 CAPITAL LETTER E WITH CIRCUMFLEX AND HOOK ABOVE",
   "1 SMALL LETTER E WITH CIRCUMFLEX AND HOOK ABOVE;1 CAPITAL LETTER E WITH CIRCUMFLEX AND TILDE",
   "1 SMALL LETTER E WITH CIRCUMFLEX AND TILDE;1 CAPITAL LETTER E WITH CIRCUMFLEX AND DOT BELOW",
   "1 SMALL LETTER E WITH CIRCUMFLEX AND DOT BELOW;1 CAPITAL LETTER I WITH HOOK ABOVE",
   "1 SMALL LETTER I WITH HOOK ABOVE;1 CAPITAL LETTER I WITH DOT BELOW",
   "1 SMALL LETTER I WITH DOT BELOW;1 CAPITAL LETTER O WITH DOT BELOW",
   "1 SMALL LETTER O WITH DOT BELOW;1 CAPITAL LETTER O WITH HOOK ABOVE",
   "1 SMALL LETTER O WITH HOOK ABOVE;1 CAPITAL LETTER O WITH CIRCUMFLEX AND ACUTE",
   "1 SMALL LETTER O WITH CIRCUMFLEX AND ACUTE;1 CAPITAL LETTER O WITH CIRCUMFLEX AND GRAVE",
   "1 SMALL LETTER O WITH CIRCUMFLEX AND GRAVE;1 CAPITAL LETTER O WITH CIRCUMFLEX AND HOOK ABOVE",
   "1 SMALL LETTER O WITH CIRCUMFLEX AND HOOK ABOVE;1 CAPITAL LETTER O WITH CIRCUMFLEX AND TILDE",
   "1 SMALL LETTER O WITH CIRCUMFLEX AND TILDE;1 CAPITAL LETTER O WITH CIRCUMFLEX AND DOT BELOW",
   "1 SMALL LETTER O WITH CIRCUMFLEX AND DOT BELOW;1 CAPITAL LETTER O WITH HORN AND ACUTE",
   "1 SMALL LETTER O WITH HORN AND ACUTE;1 CAPITAL LETTER O WITH HORN AND GRAVE",
   "1 SMALL LETTER O WITH HORN AND GRAVE;1 CAPITAL LETTER O WITH HORN AND HOOK ABOVE",
   "1 SMALL LETTER O WITH HORN AND HOOK ABOVE;1 CAPITAL LETTER O WITH HORN AND TILDE",
   "1 SMALL LETTER O WITH HORN AND TILDE;1 CAPITAL LETTER O WITH HORN AND DOT BELOW",
   "1 SMALL LETTER O WITH HORN AND DOT BELOW;1 CAPITAL LETTER U WITH DOT BELOW",
   "1 SMALL LETTER U WITH DOT BELOW;1 CAPITAL LETTER U WITH HOOK ABOVE",
   "1 SMALL LETTER U WITH HOOK ABOVE;1 CAPITAL LETTER U WITH HORN AND ACUTE",
   "1 SMALL LETTER U WITH HORN AND ACUTE;1 CAPITAL LETTER U WITH HORN AND GRAVE",
   "1 SMALL LETTER U WITH HORN AND GRAVE;1 CAPITAL LETTER U WITH HORN AND HOOK ABOVE",
   "1 SMALL LETTER U WITH HORN AND HOOK ABOVE;1 CAPITAL LETTER U WITH HORN AND TILDE",
   "1 SMALL LETTER U WITH HORN AND TILDE;1 CAPITAL LETTER U WITH HORN AND DOT BELOW",
   "1 SMALL LETTER U WITH HORN AND DOT BELOW;1 CAPITAL LETTER Y WITH GRAVE",
   "1 SMALL LETTER Y WITH GRAVE;1 CAPITAL LETTER Y WITH DOT BELOW;1 SMALL LETTER Y WITH DOT BELOW",
   "1 CAPITAL LETTER Y WITH HOOK ABOVE;1 SMALL LETTER Y WITH HOOK ABOVE",
   "1 CAPITAL LETTER Y WITH TILDE;1 SMALL LETTER Y WITH TILDE;1 CAPITAL LETTER MIDDLE-WELSH LL",
   "1 SMALL LETTER MIDDLE-WELSH LL;1 CAPITAL LETTER MIDDLE-WELSH V;1 SMALL LETTER MIDDLE-WELSH V",
   "1 CAPITAL LETTER Y WITH LOOP;1 SMALL LETTER Y WITH LOOP;0 GREEK SMALL LETTER ALPHA WITH PSILI",
   "5 DASIA;5 PSILI AND VARIA;5 DASIA AND VARIA;5 PSILI AND OXIA;5 DASIA AND OXIA",
   "5 PSILI AND PERISPOMENI;5 DASIA AND PERISPOMENI;1 CAPITAL LETTER ALPHA WITH PSILI;5 DASIA",
   "5 PSILI AND VARIA;5 DASIA AND VARIA;5 PSILI AND OXIA;5 DASIA AND OXIA;5 PSILI AND PERISPOMENI",
   "5 DASIA AND PERISPOMENI;1 SMALL LETTER EPSILON WITH PSILI;5 DASIA;5 PSILI AND VARIA",
   "5 DASIA AND VARIA;5 PSILI AND OXIA;5 DASIA AND OXIA;@1f18;1 CAPITAL LETTER EPSILON WITH PSILI",
   "5 DASIA;5 PSILI AND VARIA;5 DASIA AND VARIA;5 PSILI AND OXIA;5 DASIA AND OXIA;@1f20",
   "1 SMALL LETTER ETA WITH PSILI;5 DASIA;5 PSILI AND VARIA;5 DASIA AND VARIA;5 PSILI AND OXIA",
   "5 DASIA AND OXIA;5 PSILI AND PERISPOMENI;5 DASIA AND PERISPOMENI",
   "1 CAPITAL LETTER ETA WITH PSILI;5 DASIA;5 PSILI AND VARIA;5 DASIA AND VARIA;5 PSILI AND OXIA",
   "5 DASIA AND OXIA;5 PSILI AND PERISPOMENI;5 DASIA AND PERISPOMENI;1 SMALL LETTER IOTA WITH PSILI",
   "5 DASIA;5 PSILI AND VARIA;5 DASIA AND VARIA;5 PSILI AND OXIA;5 DASIA AND OXIA",
   "5 PSILI AND PERISPOMENI;5 DASIA AND PERISPOMENI;1 CAPITAL LETTER IOTA WITH PSILI;5 DASIA",
   "5 PSILI AND VARIA;5 DASIA AND VARIA;5 PSILI AND OXIA;5 DASIA AND OXIA;5 PSILI AND PERISPOMENI",
   "5 DASIA AND PERISPOMENI;1 SMALL LETTER OMICRON WITH PSILI;5 DASIA;5 PSILI AND VARIA",
   "5 DASIA AND VARIA;5 PSILI AND OXIA;5 DASIA AND OXIA;@1f48;1 CAPITAL LETTER OMICRON WITH PSILI",
   "5 DASIA;5 PSILI AND VARIA;5 DASIA AND VARIA;5 PSILI AND OXIA;5 DASIA AND OXIA;@1f50",
   "1 SMALL LETTER UPSILON WITH PSILI;5 DASIA;5 PSILI AND VARIA;5 DASIA AND VARIA;5 PSILI AND OXIA",
   "5 DASIA AND OXIA;5 PSILI AND PERISPOMENI;5 DASIA AND PERISPOMENI;@1f59",
   "1 CAPITAL LETTER UPSILON WITH DASIA;@1f5b;6 AND VARIA;@1f5d;7 OXIA;@1f5f;7 PERISPOMENI",
   "1 SMALL LETTER OMEGA WITH PSILI;5 DASIA;5 PSILI AND VARIA;5 DASIA AND VARIA;5 PSILI AND OXIA",
   "5 DASIA AND OXIA;5 PSILI AND PERISPOMENI;5 DASIA AND PERISPOMENI",
   "1 CAPITAL LETTER OMEGA WITH PSILI;5 DASIA;5 PSILI AND VARIA;5 DASIA AND VARIA;5 PSILI AND OXIA",
   "5 DASIA AND OXIA;5 PSILI AND PERISPOMENI;5 DASIA AND PERISPOMENI",
   "1 SMALL LETTER ALPHA WITH VARIA;5 OXIA;3 EPSILON WITH VARIA;5 OXIA;3 ETA WITH VARIA;5 OXIA",
   "3 IOTA WITH VARIA;5 OXIA;3 OMICRON WITH VARIA;5 OXIA;3 UPSILON WITH VARIA;5 OXIA",
   "3 OMEGA WITH VARIA;5 OXIA;@1f80;3 ALPHA WITH PSILI AND YPOGEGRAMMENI;5 DASIA AND YPOGEGRAMMENI",
   "5 PSILI AND VARIA AND YPOGEGRAMMENI;5 DASIA AND VARIA AND YPOGEGRAMMENI",
   "5 PSILI AND OXIA AND YPOGEGRAMMENI;5 DASIA AND OXIA AND YPOGEGRAMMENI",
   "5 PSILI AND PERISPOMENI AND YPOGEGRAMMENI;5 DASIA AND PERISPOMENI AND YPOGEGRAMMENI",
   "1 CAPITAL LETTER ALPHA WITH PSILI AND PROSGEGRAMMENI;5 DASIA AND PROSGEGRAMMENI",
   "5 PSILI AND VARIA AND PROSGEGRAMMENI;5 DASIA AND VARIA AND PROSGEGRAMMENI",
   "5 PSILI AND OXIA AND PROSGEGRAMMENI;5 DASIA AND OXIA AND PROSGEGRAMMENI",
   "5 PSILI AND PERISPOMENI AND PROSGEGRAMMENI;5 DASIA AND PERISPOMENI AND PROSGEGRAMMENI",
   "1 SMALL LETTER ETA WITH PSILI AND YPOGEGRAMMENI;5 DASIA AND YPOGEGRAMMENI",
   "5 PSILI AND VARIA AND YPOGEGRAMMENI;5 DASIA AND VARIA AND YPOGEGRAMMENI",
   "5 PSILI AND OXIA AND YPOGEGRAMMENI;5 DASIA AND OXIA AND YPOGEGRAMMENI",
   "5 PSILI AND PERISPOMENI AND YPOGEGRAMMENI;5 DASIA AND PERISPOMENI AND YPOGEGRAMMENI",
   "1 CAPITAL LETTER ETA WITH PSILI AND PROSGEGRAMMENI;5 DASIA AND PROSGEGRAMMENI",
   "5 PSILI AND VARIA AND PROSGEGRAMMENI;5 DASIA AND VARIA AND PROSGEGRAMMENI",
   "5 PSILI AND OXIA AND PROSGEGRAMMENI;5 DASIA AND OXIA AND PROSGEGRAMMENI",
   "5 PSILI AND PERISPOMENI AND PROSGEGRAMMENI;5 DASIA AND PERISPOMENI AND PROSGEGRAMMENI",
   "1 SMALL LETTER OMEGA WITH PSILI AND YPOGEGRAMMENI;5 DASIA AND YPOGEGRAMMENI",
   "5 PSILI AND VARIA AND YPOGEGRAMMENI;5 DASIA AND VARIA AND YPOGEGRAMMENI",
   "5 PSILI AND OXIA AND YPOGEGRAMMENI;5 DASIA AND OXIA AND YPOGEGRAMMENI",
   "5 PSILI AND PERISPOMENI AND YPOGEGRAMMENI;5 DASIA AND PERISPOMENI AND YPOGEGRAMMENI",
   "1 CAPITAL LETTER OMEGA WITH PSILI AND PROSGEGRAMMENI;5 DASIA AND PROSGEGRAMMENI",
   "5 PSILI AND VARIA AND PROSGEGRAMMENI;5 DASIA AND VARIA AND PROSGEGRAMMENI",
   "5 PSILI AND OXIA AND PROSGEGRAMMENI;5 DASIA AND OXIA AND PROSGEGRAMMENI",
   "5 PSILI AND PERISPOMENI AND PROSGEGRAMMENI;5 DASIA AND PERISPOMENI AND PROSGEGRAMMENI",
   "1 SMALL LETTER ALPHA WITH VRACHY;5 MACRON;5 VARIA AND YPOGEGRAMMENI;5 YPOGEGRAMMENI",
   "5 OXIA AND YPOGEGRAMMENI;@1fb6;5 PERISPOMENI;6 AND YPOGEGRAMMENI",
   "1 CAPITAL LETTER ALPHA WITH VRACHY;5 MACRON;5 VARIA;5 OXIA;5 PROSGEGRAMMENI;1 KORONIS",
   "1 PROSGEGRAMMENI;1 PSILI;1 PERISPOMENI;1 DIALYTIKA AND PERISPOMENI",
   "1 SMALL LETTER ETA WITH VARIA AND YPOGEGRAMMENI;5 YPOGEGRAMMENI;5 OXIA AND YPOGEGRAMMENI;@1fc6",
   "5 PERISPOMENI;6 AND YPOGEGRAMMENI;1 CAPITAL LETTER EPSILON WITH VARIA;5 OXIA;3 ETA WITH VARIA",
   "5 OXIA;5 PROSGEGRAMMENI;1 PSILI AND VARIA;3 OXIA;3 PERISPOMENI;1 SMALL LETTER IOTA WITH VRACHY",
   "5 MACRON;5 DIALYTIKA AND VARIA;7 OXIA;@1fd6;5 PERISPOMENI;5 DIALYTIKA AND PERISPOMENI",
   "1 CAPITAL LETTER IOTA WITH VRACHY;5 MACRON;5 VARIA;5 OXIA;@1fdd;1 DASIA AND VARIA;3 OXIA",
   "3 PERISPOMENI;1 SMALL LETTER UPSILON WITH VRACHY;5 MACRON;5 DIALYTIKA AND VARIA;7 OXIA",
   "3 RHO WITH PSILI;5 DASIA;3 UPSILON WITH PERISPOMENI;5 DIALYTIKA AND PERISPOMENI",
   "1 CAPITAL LETTER UPSILON WITH VRACHY;5 MACRON;5 VARIA;5 OXIA;3 RHO WITH DASIA",
   "1 DIALYTIKA AND VARIA;3 OXIA;1 VARIA;@1ff2;1 SMALL LETTER OMEGA WITH VARIA AND YPOGEGRAMMENI",
   "5 YPOGEGRAMMENI;5 OXIA AND YPOGEGRAMMENI;@1ff6;5 PERISPOMENI;6 AND YPOGEGRAMMENI",
   "1 CAPITAL LETTER OMICRON WITH VARIA;5 OXIA;3 OMEGA WITH VARIA;5 OXIA;5 PROSGEGRAMMENI;1 OXIA",
   "1 DASIA"]

end FormCheck.Text
