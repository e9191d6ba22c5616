/-!
# Rune - the table of the names of characters

The names that version 14 of the Unicode character data gives to characters, as
text.  A row begins with the code point of its first character and with what all
names of the row begin with; then come the ends of the names, for one code point
after another.  A row without a code point goes on with the row above.

Main results:

- Definition {lit}`nameRows` is the table of names, {lit}`aliasRows` that of further
  names.
-/

namespace Rune.Unicode

/-- The rows of the names of characters. -/
def nameRows : String := "
0020;;SPACE;EXCLAMATION MARK;QUOTATION MARK;NUMBER SIGN;DOLLAR SIGN;PERCENT SIGN;AMPERSAND
;APOSTROPHE;LEFT PARENTHESIS;RIGHT PARENTHESIS;ASTERISK;PLUS SIGN;COMMA;HYPHEN-MINUS;FULL STOP
;SOLIDUS
0030;DIGIT ;ZERO;ONE;TWO;THREE;FOUR;FIVE;SIX;SEVEN;EIGHT;NINE
003A;;COLON;SEMICOLON;LESS-THAN SIGN;EQUALS SIGN;GREATER-THAN SIGN;QUESTION MARK;COMMERCIAL AT
0041;LATIN CAPITAL LETTER ;A;B;C;D;E;F;G;H;I;J;K;L;M;N;O;P;Q;R;S;T;U;V;W;X;Y;Z
005B;;LEFT SQUARE BRACKET;REVERSE SOLIDUS;RIGHT SQUARE BRACKET;CIRCUMFLEX ACCENT;LOW LINE
;GRAVE ACCENT
0061;LATIN SMALL LETTER ;A;B;C;D;E;F;G;H;I;J;K;L;M;N;O;P;Q;R;S;T;U;V;W;X;Y;Z
007B;;LEFT CURLY BRACKET;VERTICAL LINE;RIGHT CURLY BRACKET;TILDE
00A0;;NO-BREAK SPACE;INVERTED EXCLAMATION MARK;CENT SIGN;POUND SIGN;CURRENCY SIGN;YEN SIGN
;BROKEN BAR;SECTION SIGN;DIAERESIS
00A9;COPY;RIGHT SIGN
00AA;;FEMININE ORDINAL INDICATOR;LEFT-POINTING DOUBLE ANGLE QUOTATION MARK;NOT SIGN;SOFT HYPHEN
;REGISTERED SIGN;MACRON;DEGREE SIGN;PLUS-MINUS SIGN;SUPERSCRIPT TWO;SUPERSCRIPT THREE
;ACUTE ACCENT;MICRO SIGN;PILCROW SIGN;MIDDLE DOT;CEDILLA;SUPERSCRIPT ONE
;MASCULINE ORDINAL INDICATOR;RIGHT-POINTING DOUBLE ANGLE QUOTATION MARK
00BC;VULGAR FRACTION ;ONE QUARTER;ONE HALF;THREE QUARTERS
00BF;INVERTED QUESTION MARK;
00C0;LATIN CAPITAL LETTER A WITH ;GRAVE;ACUTE;CIRCUMFLEX;TILDE;DIAERESIS;RING ABOVE
00C6;LATIN CAPITAL LETTER ;AE;C WITH CEDILLA;E WITH GRAVE;E WITH ACUTE;E WITH CIRCUMFLEX
;E WITH DIAERESIS;I WITH GRAVE;I WITH ACUTE;I WITH CIRCUMFLEX;I WITH DIAERESIS;ETH;N WITH TILDE
;O WITH GRAVE;O WITH ACUTE;O WITH CIRCUMFLEX;O WITH TILDE;O WITH DIAERESIS
00D7;MULTIPLICATION SIGN;
00D8;LATIN CAPITAL LETTER ;O WITH STROKE;U WITH GRAVE;U WITH ACUTE;U WITH CIRCUMFLEX
;U WITH DIAERESIS;Y WITH ACUTE;THORN
00DF;LATIN SMALL LETTER ;SHARP S;A WITH GRAVE;A WITH ACUTE;A WITH CIRCUMFLEX;A WITH TILDE
;A WITH DIAERESIS;A WITH RING ABOVE;AE;C WITH CEDILLA;E WITH GRAVE;E WITH ACUTE
;E WITH CIRCUMFLEX;E WITH DIAERESIS;I WITH GRAVE;I WITH ACUTE;I WITH CIRCUMFLEX;I WITH DIAERESIS
;ETH;N WITH TILDE
00F2;LATIN SMALL LETTER O WITH ;GRAVE;ACUTE;CIRCUMFLEX;TILDE;DIAERESIS
00F7;DIVISION SIGN;
00F8;LATIN SMALL LETTER ;O WITH STROKE;U WITH GRAVE;U WITH ACUTE;U WITH CIRCUMFLEX
;U WITH DIAERESIS;Y WITH ACUTE;THORN;Y WITH DIAERESIS
0100;LATIN ;CAPITAL LETTER A WITH MACRON;SMALL LETTER A WITH MACRON;CAPITAL LETTER A WITH BREVE
;SMALL LETTER A WITH BREVE;CAPITAL LETTER A WITH OGONEK;SMALL LETTER A WITH OGONEK
;CAPITAL LETTER C WITH ACUTE;SMALL LETTER C WITH ACUTE;CAPITAL LETTER C WITH CIRCUMFLEX
;SMALL LETTER C WITH CIRCUMFLEX;CAPITAL LETTER C WITH DOT ABOVE;SMALL LETTER C WITH DOT ABOVE
;CAPITAL LETTER C WITH CARON;SMALL LETTER C WITH CARON;CAPITAL LETTER D WITH CARON
;SMALL LETTER D WITH CARON;CAPITAL LETTER D WITH STROKE;SMALL LETTER D WITH STROKE
;CAPITAL LETTER E WITH MACRON;SMALL LETTER E WITH MACRON;CAPITAL LETTER E WITH BREVE
;SMALL LETTER E WITH BREVE;CAPITAL LETTER E WITH DOT ABOVE;SMALL LETTER E WITH DOT ABOVE
;CAPITAL LETTER E WITH OGONEK;SMALL LETTER E WITH OGONEK;CAPITAL LETTER E WITH CARON
;SMALL LETTER E WITH CARON;CAPITAL LETTER G WITH CIRCUMFLEX;SMALL LETTER G WITH CIRCUMFLEX
;CAPITAL LETTER G WITH BREVE;SMALL LETTER G WITH BREVE;CAPITAL LETTER G WITH DOT ABOVE
;SMALL LETTER G WITH DOT ABOVE;CAPITAL LETTER G WITH CEDILLA;SMALL LETTER G WITH CEDILLA
;CAPITAL LETTER H WITH CIRCUMFLEX;SMALL LETTER H WITH CIRCUMFLEX;CAPITAL LETTER H WITH STROKE
;SMALL LETTER H WITH STROKE;CAPITAL LETTER I WITH TILDE;SMALL LETTER I WITH TILDE
;CAPITAL LETTER I WITH MACRON;SMALL LETTER I WITH MACRON;CAPITAL LETTER I WITH BREVE
;SMALL LETTER I WITH BREVE;CAPITAL LETTER I WITH OGONEK;SMALL LETTER I WITH OGONEK
;CAPITAL LETTER I WITH DOT ABOVE;SMALL LETTER DOTLESS I;CAPITAL LIGATURE IJ;SMALL LIGATURE IJ
;CAPITAL LETTER J WITH CIRCUMFLEX;SMALL LETTER J WITH CIRCUMFLEX;CAPITAL LETTER K WITH CEDILLA
;SMALL LETTER K WITH CEDILLA;SMALL LETTER KRA;CAPITAL LETTER L WITH ACUTE
;SMALL LETTER L WITH ACUTE;CAPITAL LETTER L WITH CEDILLA;SMALL LETTER L WITH CEDILLA
;CAPITAL LETTER L WITH CARON;SMALL LETTER L WITH CARON;CAPITAL LETTER L WITH MIDDLE DOT
;SMALL LETTER L WITH MIDDLE DOT;CAPITAL LETTER L WITH STROKE;SMALL LETTER L WITH STROKE
;CAPITAL LETTER N WITH ACUTE;SMALL LETTER N WITH ACUTE;CAPITAL LETTER N WITH CEDILLA
;SMALL LETTER N WITH CEDILLA;CAPITAL LETTER N WITH CARON;SMALL LETTER N WITH CARON
;SMALL LETTER N PRECEDED BY APOSTROPHE;CAPITAL LETTER ENG;SMALL LETTER ENG
;CAPITAL LETTER O WITH MACRON;SMALL LETTER O WITH MACRON;CAPITAL LETTER O WITH BREVE
;SMALL LETTER O WITH BREVE;CAPITAL LETTER O WITH DOUBLE ACUTE;SMALL LETTER O WITH DOUBLE ACUTE
;CAPITAL LIGATURE OE;SMALL LIGATURE OE;CAPITAL LETTER R WITH ACUTE;SMALL LETTER R WITH ACUTE
;CAPITAL LETTER R WITH CEDILLA;SMALL LETTER R WITH CEDILLA;CAPITAL LETTER R WITH CARON
;SMALL LETTER R WITH CARON;CAPITAL LETTER S WITH ACUTE;SMALL LETTER S WITH ACUTE
;CAPITAL LETTER S WITH CIRCUMFLEX;SMALL LETTER S WITH CIRCUMFLEX;CAPITAL LETTER S WITH CEDILLA
;SMALL LETTER S WITH CEDILLA;CAPITAL LETTER S WITH CARON;SMALL LETTER S WITH CARON
;CAPITAL LETTER T WITH CEDILLA;SMALL LETTER T WITH CEDILLA;CAPITAL LETTER T WITH CARON
;SMALL LETTER T WITH CARON;CAPITAL LETTER T WITH STROKE;SMALL LETTER T WITH STROKE
;CAPITAL LETTER U WITH TILDE;SMALL LETTER U WITH TILDE;CAPITAL LETTER U WITH MACRON
;SMALL LETTER U WITH MACRON;CAPITAL LETTER U WITH BREVE;SMALL LETTER U WITH BREVE
;CAPITAL LETTER U WITH RING ABOVE;SMALL LETTER U WITH RING ABOVE
;CAPITAL LETTER U WITH DOUBLE ACUTE;SMALL LETTER U WITH DOUBLE ACUTE
;CAPITAL LETTER U WITH OGONEK;SMALL LETTER U WITH OGONEK;CAPITAL LETTER W WITH CIRCUMFLEX
;SMALL LETTER W WITH CIRCUMFLEX;CAPITAL LETTER Y WITH CIRCUMFLEX;SMALL LETTER Y WITH CIRCUMFLEX
;CAPITAL LETTER Y WITH DIAERESIS;CAPITAL LETTER Z WITH ACUTE;SMALL LETTER Z WITH ACUTE
;CAPITAL LETTER Z WITH DOT ABOVE;SMALL LETTER Z WITH DOT ABOVE;CAPITAL LETTER Z WITH CARON
017E;LATIN SMALL LETTER ;Z WITH CARON;LONG S;B WITH STROKE
0181;LATIN CAPITAL LETTER B WITH ;HOOK;TOPBAR
0183;LATIN ;SMALL LETTER B WITH TOPBAR;CAPITAL LETTER TONE SIX;SMALL LETTER TONE SIX
;CAPITAL LETTER OPEN O;CAPITAL LETTER C WITH HOOK;SMALL LETTER C WITH HOOK
0189;LATIN CAPITAL LETTER ;AFRICAN D;D WITH HOOK;D WITH TOPBAR
018C;LATIN SMALL LETTER ;D WITH TOPBAR;TURNED DELTA
018E;LATIN CAPITAL LETTER ;REVERSED E;SCHWA;OPEN E;F WITH HOOK
0192;LATIN ;SMALL LETTER F WITH HOOK;CAPITAL LETTER G WITH HOOK;CAPITAL LETTER GAMMA
;SMALL LETTER HV
0196;LATIN CAPITAL LETTER ;IOTA;I WITH STROKE;K WITH HOOK
0199;LATIN SMALL LETTER ;K WITH HOOK;L WITH BAR;LAMBDA WITH STROKE
019C;LATIN CAPITAL LETTER ;TURNED M;N WITH LEFT HOOK
019E;LATIN ;SMALL LETTER N WITH LONG RIGHT LEG;CAPITAL LETTER O WITH MIDDLE TILDE
;CAPITAL LETTER O WITH HORN;SMALL LETTER O WITH HORN;CAPITAL LETTER OI;SMALL LETTER OI
;CAPITAL LETTER P WITH HOOK;SMALL LETTER P WITH HOOK;LETTER YR;CAPITAL LETTER TONE TWO
;SMALL LETTER TONE TWO;CAPITAL LETTER ESH;LETTER REVERSED ESH LOOP
;SMALL LETTER T WITH PALATAL HOOK;CAPITAL LETTER T WITH HOOK;SMALL LETTER T WITH HOOK
;CAPITAL LETTER T WITH RETROFLEX HOOK;CAPITAL LETTER U WITH HORN;SMALL LETTER U WITH HORN
01B1;LATIN CAPITAL LETTER ;UPSILON;V WITH HOOK;Y WITH HOOK
01B4;LATIN ;SMALL LETTER Y WITH HOOK;CAPITAL LETTER Z WITH STROKE;SMALL LETTER Z WITH STROKE
;CAPITAL LETTER EZH;CAPITAL LETTER EZH REVERSED;SMALL LETTER EZH REVERSED
;SMALL LETTER EZH WITH TAIL;LETTER TWO WITH STROKE;CAPITAL LETTER TONE FIVE
;SMALL LETTER TONE FIVE
01BE;LATIN LETTER ;INVERTED GLOTTAL STOP WITH STROKE;WYNN;DENTAL CLICK;LATERAL CLICK
;ALVEOLAR CLICK;RETROFLEX CLICK
01C4;LATIN CAPITAL LETTER D;Z WITH CARON; WITH SMALL LETTER Z WITH CARON
01C6;LATIN ;SMALL LETTER DZ WITH CARON;CAPITAL LETTER LJ;CAPITAL LETTER L WITH SMALL LETTER J
;SMALL LETTER LJ;CAPITAL LETTER NJ;CAPITAL LETTER N WITH SMALL LETTER J;SMALL LETTER NJ
;CAPITAL LETTER A WITH CARON;SMALL LETTER A WITH CARON;CAPITAL LETTER I WITH CARON
;SMALL LETTER I WITH CARON;CAPITAL LETTER O WITH CARON;SMALL LETTER O WITH CARON
;CAPITAL LETTER U WITH CARON;SMALL LETTER U WITH CARON
;CAPITAL LETTER U WITH DIAERESIS AND MACRON;SMALL LETTER U WITH DIAERESIS AND MACRON
;CAPITAL LETTER U WITH DIAERESIS AND ACUTE;SMALL LETTER U WITH DIAERESIS AND ACUTE
;CAPITAL LETTER U WITH DIAERESIS AND CARON;SMALL LETTER U WITH DIAERESIS AND CARON
;CAPITAL LETTER U WITH DIAERESIS AND GRAVE;SMALL LETTER U WITH DIAERESIS AND GRAVE
;SMALL LETTER TURNED E;CAPITAL LETTER A WITH DIAERESIS AND MACRON
;SMALL LETTER A WITH DIAERESIS AND MACRON;CAPITAL LETTER A WITH DOT ABOVE AND MACRON
;SMALL LETTER A WITH DOT ABOVE AND MACRON;CAPITAL LETTER AE WITH MACRON
;SMALL LETTER AE WITH MACRON;CAPITAL LETTER G WITH STROKE;SMALL LETTER G WITH STROKE
;CAPITAL LETTER G WITH CARON;SMALL LETTER G WITH CARON;CAPITAL LETTER K WITH CARON
;SMALL LETTER K WITH CARON;CAPITAL LETTER O WITH OGONEK;SMALL LETTER O WITH OGONEK
;CAPITAL LETTER O WITH OGONEK AND MACRON;SMALL LETTER O WITH OGONEK AND MACRON
;CAPITAL LETTER EZH WITH CARON;SMALL LETTER EZH WITH CARON;SMALL LETTER J WITH CARON
;CAPITAL LETTER DZ;CAPITAL LETTER D WITH SMALL LETTER Z;SMALL LETTER DZ
;CAPITAL LETTER G WITH ACUTE;SMALL LETTER G WITH ACUTE
01F6;LATIN CAPITAL LETTER ;HWAIR;WYNN;N WITH GRAVE
01F9;LATIN ;SMALL LETTER N WITH GRAVE;CAPITAL LETTER A WITH RING ABOVE AND ACUTE
;SMALL LETTER A WITH RING ABOVE AND ACUTE;CAPITAL LETTER AE WITH ACUTE
;SMALL LETTER AE WITH ACUTE;CAPITAL LETTER O WITH STROKE AND ACUTE
;SMALL LETTER O WITH STROKE AND ACUTE;CAPITAL LETTER A WITH DOUBLE GRAVE
;SMALL LETTER A WITH DOUBLE GRAVE;CAPITAL LETTER A WITH INVERTED BREVE
;SMALL LETTER A WITH INVERTED BREVE;CAPITAL LETTER E WITH DOUBLE GRAVE
;SMALL LETTER E WITH DOUBLE GRAVE;CAPITAL LETTER E WITH INVERTED BREVE
;SMALL LETTER E WITH INVERTED BREVE;CAPITAL LETTER I WITH DOUBLE GRAVE
;SMALL LETTER I WITH DOUBLE GRAVE;CAPITAL LETTER I WITH INVERTED BREVE
;SMALL LETTER I WITH INVERTED BREVE;CAPITAL LETTER O WITH DOUBLE GRAVE
;SMALL LETTER O WITH DOUBLE GRAVE;CAPITAL LETTER O WITH INVERTED BREVE
;SMALL LETTER O WITH INVERTED BREVE;CAPITAL LETTER R WITH DOUBLE GRAVE
;SMALL LETTER R WITH DOUBLE GRAVE;CAPITAL LETTER R WITH INVERTED BREVE
;SMALL LETTER R WITH INVERTED BREVE;CAPITAL LETTER U WITH DOUBLE GRAVE
;SMALL LETTER U WITH DOUBLE GRAVE;CAPITAL LETTER U WITH INVERTED BREVE
;SMALL LETTER U WITH INVERTED BREVE;CAPITAL LETTER S WITH COMMA BELOW
;SMALL LETTER S WITH COMMA BELOW;CAPITAL LETTER T WITH COMMA BELOW
;SMALL LETTER T WITH COMMA BELOW;CAPITAL LETTER YOGH;SMALL LETTER YOGH
;CAPITAL LETTER H WITH CARON;SMALL LETTER H WITH CARON;CAPITAL LETTER N WITH LONG RIGHT LEG
;SMALL LETTER D WITH CURL;CAPITAL LETTER OU;SMALL LETTER OU;CAPITAL LETTER Z WITH HOOK
;SMALL LETTER Z WITH HOOK;CAPITAL LETTER A WITH DOT ABOVE;SMALL LETTER A WITH DOT ABOVE
;CAPITAL LETTER E WITH CEDILLA;SMALL LETTER E WITH CEDILLA
;CAPITAL LETTER O WITH DIAERESIS AND MACRON;SMALL LETTER O WITH DIAERESIS AND MACRON
;CAPITAL LETTER O WITH TILDE AND MACRON;SMALL LETTER O WITH TILDE AND MACRON
;CAPITAL LETTER O WITH DOT ABOVE;SMALL LETTER O WITH DOT ABOVE
;CAPITAL LETTER O WITH DOT ABOVE AND MACRON;SMALL LETTER O WITH DOT ABOVE AND MACRON
;CAPITAL LETTER Y WITH MACRON
0233;LATIN SMALL LETTER ;Y WITH MACRON;L WITH CURL;N WITH CURL;T WITH CURL;DOTLESS J;DB DIGRAPH
;QP DIGRAPH
023A;LATIN CAPITAL LETTER ;A WITH STROKE;C WITH STROKE
023C;LATIN ;SMALL LETTER C WITH STROKE;CAPITAL LETTER L WITH BAR
;CAPITAL LETTER T WITH DIAGONAL STROKE;SMALL LETTER S WITH SWASH TAIL
;SMALL LETTER Z WITH SWASH TAIL;CAPITAL LETTER GLOTTAL STOP;SMALL LETTER GLOTTAL STOP
0243;LATIN CAPITAL LETTER ;B WITH STROKE;U BAR;TURNED V;E WITH STROKE
0247;LATIN ;SMALL LETTER E WITH STROKE;CAPITAL LETTER J WITH STROKE;SMALL LETTER J WITH STROKE
;CAPITAL LETTER SMALL Q WITH HOOK TAIL;SMALL LETTER Q WITH HOOK TAIL
;CAPITAL LETTER R WITH STROKE;SMALL LETTER R WITH STROKE;CAPITAL LETTER Y WITH STROKE
024F;LATIN SMALL LETTER ;Y WITH STROKE;TURNED A;ALPHA;TURNED ALPHA;B WITH HOOK;OPEN O
;C WITH CURL;D WITH TAIL;D WITH HOOK;REVERSED E;SCHWA;SCHWA WITH HOOK;OPEN E;REVERSED OPEN E
;REVERSED OPEN E WITH HOOK;CLOSED REVERSED OPEN E;DOTLESS J WITH STROKE;G WITH HOOK;SCRIPT G
0262;LATIN LETTER SMALL CAPITAL G;
0263;LATIN SMALL LETTER ;GAMMA;RAMS HORN;TURNED H;H WITH HOOK;HENG WITH HOOK;I WITH STROKE;IOTA
026A;LATIN LETTER SMALL CAPITAL I;
026B;LATIN SMALL LETTER ;L WITH MIDDLE TILDE;L WITH BELT;L WITH RETROFLEX HOOK;LEZH;TURNED M
;TURNED M WITH LONG LEG;M WITH HOOK;N WITH LEFT HOOK;N WITH RETROFLEX HOOK
0274;LATIN ;LETTER SMALL CAPITAL N;SMALL LETTER BARRED O;LETTER SMALL CAPITAL OE
0277;LATIN SMALL LETTER ;CLOSED OMEGA;PHI;TURNED R;TURNED R WITH LONG LEG;TURNED R WITH HOOK
;R WITH LONG LEG;R WITH TAIL;R WITH FISHHOOK;REVERSED R WITH FISHHOOK
0280;LATIN LETTER SMALL CAPITAL ;R;INVERTED R
0282;LATIN SMALL LETTER ;S WITH HOOK;ESH;DOTLESS J WITH STROKE AND HOOK;SQUAT REVERSED ESH
;ESH WITH CURL;TURNED T;T WITH RETROFLEX HOOK;U BAR;UPSILON;V WITH HOOK;TURNED V;TURNED W
;TURNED Y
028F;LATIN LETTER SMALL CAPITAL Y;
0290;LATIN SMALL LETTER ;Z WITH RETROFLEX HOOK;Z WITH CURL;EZH;EZH WITH CURL
0294;LATIN LETTER ;GLOTTAL STOP;PHARYNGEAL VOICED FRICATIVE;INVERTED GLOTTAL STOP;STRETCHED C
;BILABIAL CLICK;SMALL CAPITAL B
029A;LATIN ;SMALL LETTER CLOSED OPEN E;LETTER SMALL CAPITAL G WITH HOOK;LETTER SMALL CAPITAL H
;SMALL LETTER J WITH CROSSED-TAIL;SMALL LETTER TURNED K;LETTER SMALL CAPITAL L
;SMALL LETTER Q WITH HOOK;LETTER GLOTTAL STOP WITH STROKE
;LETTER REVERSED GLOTTAL STOP WITH STROKE
02A3;LATIN SMALL LETTER ;DZ DIGRAPH;DEZH DIGRAPH;DZ DIGRAPH WITH CURL;TS DIGRAPH;TESH DIGRAPH
;TC DIGRAPH WITH CURL;FENG DIGRAPH;LS DIGRAPH;LZ DIGRAPH
02AC;LATIN LETTER BI;LABIAL PERCUSSIVE;DENTAL PERCUSSIVE
02AE;LATIN SMALL LETTER TURNED H WITH FISHHOOK;; AND TAIL
02B0;MODIFIER LETTER SMALL ;H;H WITH HOOK;J;R;TURNED R;TURNED R WITH HOOK;CAPITAL INVERTED R;W;Y
02B9;MODIFIER LETTER ;PRIME;DOUBLE PRIME;TURNED COMMA;APOSTROPHE;REVERSED COMMA;RIGHT HALF RING
;LEFT HALF RING;GLOTTAL STOP;REVERSED GLOTTAL STOP;LEFT ARROWHEAD;RIGHT ARROWHEAD;UP ARROWHEAD
;DOWN ARROWHEAD;CIRCUMFLEX ACCENT
02C7;CARON;
02C8;MODIFIER LETTER ;VERTICAL LINE;MACRON;ACUTE ACCENT;GRAVE ACCENT;LOW VERTICAL LINE
;LOW MACRON;LOW GRAVE ACCENT;LOW ACUTE ACCENT;TRIANGULAR COLON;HALF TRIANGULAR COLON
;CENTRED RIGHT HALF RING;CENTRED LEFT HALF RING;UP TACK;DOWN TACK;PLUS SIGN;MINUS SIGN
02D8;;BREVE;DOT ABOVE;RING ABOVE;OGONEK;SMALL TILDE;DOUBLE ACUTE ACCENT
02DE;MODIFIER LETTER ;RHOTIC HOOK;CROSS ACCENT;SMALL GAMMA;SMALL L;SMALL S;SMALL X
;SMALL REVERSED GLOTTAL STOP;EXTRA-HIGH TONE BAR;HIGH TONE BAR;MID TONE BAR;LOW TONE BAR
;EXTRA-LOW TONE BAR;YIN DEPARTING TONE MARK;YANG DEPARTING TONE MARK;VOICING;UNASPIRATED
;DOUBLE APOSTROPHE;LOW DOWN ARROWHEAD;LOW UP ARROWHEAD;LOW LEFT ARROWHEAD;LOW RIGHT ARROWHEAD
;LOW RING;MIDDLE GRAVE ACCENT;MIDDLE DOUBLE GRAVE ACCENT;MIDDLE DOUBLE ACUTE ACCENT;LOW TILDE
;RAISED COLON;BEGIN HIGH TONE;END HIGH TONE;BEGIN LOW TONE;END LOW TONE;SHELF;OPEN SHELF
;LOW LEFT ARROW
0300;COMBINING ;GRAVE ACCENT;ACUTE ACCENT;CIRCUMFLEX ACCENT;TILDE;MACRON;OVERLINE;BREVE
;DOT ABOVE;DIAERESIS;HOOK ABOVE;RING ABOVE;DOUBLE ACUTE ACCENT;CARON;VERTICAL LINE ABOVE
;DOUBLE VERTICAL LINE ABOVE;DOUBLE GRAVE ACCENT;CANDRABINDU;INVERTED BREVE;TURNED COMMA ABOVE
;COMMA ABOVE;REVERSED COMMA ABOVE;COMMA ABOVE RIGHT;GRAVE ACCENT BELOW;ACUTE ACCENT BELOW
;LEFT TACK BELOW;RIGHT TACK BELOW;LEFT ANGLE ABOVE;HORN;LEFT HALF RING BELOW;UP TACK BELOW
;DOWN TACK BELOW;PLUS SIGN BELOW;MINUS SIGN BELOW;PALATALIZED HOOK BELOW;RETROFLEX HOOK BELOW
;DOT BELOW;DIAERESIS BELOW;RING BELOW;COMMA BELOW;CEDILLA;OGONEK;VERTICAL LINE BELOW
;BRIDGE BELOW;INVERTED DOUBLE ARCH BELOW;CARON BELOW;CIRCUMFLEX ACCENT BELOW;BREVE BELOW
;INVERTED BREVE BELOW;TILDE BELOW;MACRON BELOW;LOW LINE;DOUBLE LOW LINE;TILDE OVERLAY
;SHORT STROKE OVERLAY;LONG STROKE OVERLAY;SHORT SOLIDUS OVERLAY;LONG SOLIDUS OVERLAY
;RIGHT HALF RING BELOW;INVERTED BRIDGE BELOW;SQUARE BELOW;SEAGULL BELOW;X ABOVE;VERTICAL TILDE
;DOUBLE OVERLINE;GRAVE TONE MARK;ACUTE TONE MARK;GREEK PERISPOMENI;GREEK KORONIS
;GREEK DIALYTIKA TONOS;GREEK YPOGEGRAMMENI;BRIDGE ABOVE;EQUALS SIGN BELOW
;DOUBLE VERTICAL LINE BELOW;LEFT ANGLE BELOW;NOT TILDE ABOVE;HOMOTHETIC ABOVE
;ALMOST EQUAL TO ABOVE;LEFT RIGHT ARROW BELOW;UPWARDS ARROW BELOW;GRAPHEME JOINER
;RIGHT ARROWHEAD ABOVE;LEFT HALF RING ABOVE;FERMATA;X BELOW;LEFT ARROWHEAD BELOW
;RIGHT ARROWHEAD BELOW;RIGHT ARROWHEAD AND UP ARROWHEAD BELOW;RIGHT HALF RING ABOVE
;DOT ABOVE RIGHT;ASTERISK BELOW;DOUBLE RING BELOW;ZIGZAG ABOVE
035C;COMBINING DOUBLE ;BREVE BELOW;BREVE;MACRON;MACRON BELOW;TILDE;INVERTED BREVE
;RIGHTWARDS ARROW BELOW
0363;COMBINING LATIN SMALL LETTER ;A;E;I;O;U;C;D;H;M;R;T;V;X
0370;GREEK ;CAPITAL LETTER HETA;SMALL LETTER HETA;CAPITAL LETTER ARCHAIC SAMPI
;SMALL LETTER ARCHAIC SAMPI;NUMERAL SIGN;LOWER NUMERAL SIGN;CAPITAL LETTER PAMPHYLIAN DIGAMMA
;SMALL LETTER PAMPHYLIAN DIGAMMA
037A;GREEK ;YPOGEGRAMMENI;SMALL REVERSED LUNATE SIGMA SYMBOL;SMALL DOTTED LUNATE SIGMA SYMBOL
;SMALL REVERSED DOTTED LUNATE SIGMA SYMBOL;QUESTION MARK;CAPITAL LETTER YOT
0384;GREEK ;TONOS;DIALYTIKA TONOS;CAPITAL LETTER ALPHA WITH TONOS;ANO TELEIA
0388;GREEK CAPITAL LETTER ;EPSILON WITH TONOS;ETA WITH TONOS;IOTA WITH TONOS
038C;GREEK CAPITAL LETTER OMICRON WITH TONOS;
038E;GREEK CAPITAL LETTER ;UPSILON WITH TONOS;OMEGA WITH TONOS
0390;GREEK SMALL LETTER IOTA WITH DIALYTIKA AND TONOS;
0391;GREEK CAPITAL LETTER ;ALPHA;BETA;GAMMA;DELTA;EPSILON;ZETA;ETA;THETA;IOTA;KAPPA;LAMDA;MU;NU
;XI;OMICRON;PI;RHO
03A3;GREEK CAPITAL LETTER ;SIGMA;TAU;UPSILON;PHI;CHI;PSI;OMEGA;IOTA WITH DIALYTIKA
;UPSILON WITH DIALYTIKA
03AC;GREEK SMALL LETTER ;ALPHA WITH TONOS;EPSILON WITH TONOS;ETA WITH TONOS;IOTA WITH TONOS
;UPSILON WITH DIALYTIKA AND TONOS;ALPHA;BETA;GAMMA;DELTA;EPSILON;ZETA;ETA;THETA;IOTA;KAPPA;LAMDA
;MU;NU;XI;OMICRON;PI;RHO;FINAL SIGMA;SIGMA;TAU;UPSILON;PHI;CHI;PSI;OMEGA;IOTA WITH DIALYTIKA
;UPSILON WITH DIALYTIKA;OMICRON WITH TONOS;UPSILON WITH TONOS;OMEGA WITH TONOS
03CF;GREEK ;CAPITAL KAI SYMBOL;BETA SYMBOL;THETA SYMBOL;UPSILON WITH HOOK SYMBOL
;UPSILON WITH ACUTE AND HOOK SYMBOL;UPSILON WITH DIAERESIS AND HOOK SYMBOL;PHI SYMBOL;PI SYMBOL
;KAI SYMBOL;LETTER ARCHAIC KOPPA;SMALL LETTER ARCHAIC KOPPA;LETTER STIGMA;SMALL LETTER STIGMA
;LETTER DIGAMMA;SMALL LETTER DIGAMMA;LETTER KOPPA;SMALL LETTER KOPPA;LETTER SAMPI
;SMALL LETTER SAMPI
03E2;COPTIC ;CAPITAL LETTER SHEI;SMALL LETTER SHEI;CAPITAL LETTER FEI;SMALL LETTER FEI
;CAPITAL LETTER KHEI;SMALL LETTER KHEI;CAPITAL LETTER HORI;SMALL LETTER HORI
;CAPITAL LETTER GANGIA;SMALL LETTER GANGIA;CAPITAL LETTER SHIMA;SMALL LETTER SHIMA
;CAPITAL LETTER DEI;SMALL LETTER DEI
03F0;GREEK ;KAPPA SYMBOL;RHO SYMBOL;LUNATE SIGMA SYMBOL;LETTER YOT;CAPITAL THETA SYMBOL
;LUNATE EPSILON SYMBOL;REVERSED LUNATE EPSILON SYMBOL;CAPITAL LETTER SHO;SMALL LETTER SHO
;CAPITAL LUNATE SIGMA SYMBOL;CAPITAL LETTER SAN;SMALL LETTER SAN;RHO WITH STROKE SYMBOL
03FD;GREEK CAPITAL ;REVERSED LUNATE SIGMA SYMBOL;DOTTED LUNATE SIGMA SYMBOL
;REVERSED DOTTED LUNATE SIGMA SYMBOL
0400;CYRILLIC CAPITAL LETTER ;IE WITH GRAVE;IO;DJE;GJE;UKRAINIAN IE;DZE;BYELORUSSIAN-UKRAINIAN I
;YI;JE;LJE;NJE;TSHE;KJE;I WITH GRAVE;SHORT U;DZHE;A;BE;VE;GHE;DE;IE;ZHE;ZE;I;SHORT I;KA;EL;EM;EN
;O;PE;ER;ES;TE;U;EF;HA;TSE;CHE;SHA;SHCHA;HARD SIGN;YERU;SOFT SIGN;E;YU;YA
0430;CYRILLIC SMALL LETTER ;A;BE;VE;GHE;DE;IE;ZHE;ZE;I;SHORT I;KA;EL;EM;EN;O;PE;ER;ES;TE;U;EF;HA
;TSE;CHE;SHA;SHCHA;HARD SIGN;YERU;SOFT SIGN;E;YU;YA;IE WITH GRAVE;IO;DJE;GJE;UKRAINIAN IE;DZE
;BYELORUSSIAN-UKRAINIAN I;YI;JE;LJE;NJE;TSHE;KJE;I WITH GRAVE;SHORT U;DZHE
0460;CYRILLIC ;CAPITAL LETTER OMEGA;SMALL LETTER OMEGA;CAPITAL LETTER YAT;SMALL LETTER YAT
;CAPITAL LETTER IOTIFIED E;SMALL LETTER IOTIFIED E;CAPITAL LETTER LITTLE YUS
;SMALL LETTER LITTLE YUS;CAPITAL LETTER IOTIFIED LITTLE YUS;SMALL LETTER IOTIFIED LITTLE YUS
;CAPITAL LETTER BIG YUS;SMALL LETTER BIG YUS;CAPITAL LETTER IOTIFIED BIG YUS
;SMALL LETTER IOTIFIED BIG YUS;CAPITAL LETTER KSI;SMALL LETTER KSI;CAPITAL LETTER PSI
;SMALL LETTER PSI;CAPITAL LETTER FITA;SMALL LETTER FITA;CAPITAL LETTER IZHITSA
;SMALL LETTER IZHITSA;CAPITAL LETTER IZHITSA WITH DOUBLE GRAVE ACCENT
;SMALL LETTER IZHITSA WITH DOUBLE GRAVE ACCENT;CAPITAL LETTER UK;SMALL LETTER UK
;CAPITAL LETTER ROUND OMEGA;SMALL LETTER ROUND OMEGA;CAPITAL LETTER OMEGA WITH TITLO
;SMALL LETTER OMEGA WITH TITLO;CAPITAL LETTER OT;SMALL LETTER OT;CAPITAL LETTER KOPPA
;SMALL LETTER KOPPA;THOUSANDS SIGN
0483;COMBINING CYRILLIC ;TITLO;PALATALIZATION;DASIA PNEUMATA;PSILI PNEUMATA;POKRYTIE
;HUNDRED THOUSANDS SIGN;MILLIONS SIGN
048A;CYRILLIC ;CAPITAL LETTER SHORT I WITH TAIL;SMALL LETTER SHORT I WITH TAIL
;CAPITAL LETTER SEMISOFT SIGN;SMALL LETTER SEMISOFT SIGN;CAPITAL LETTER ER WITH TICK
;SMALL LETTER ER WITH TICK;CAPITAL LETTER GHE WITH UPTURN;SMALL LETTER GHE WITH UPTURN
;CAPITAL LETTER GHE WITH STROKE;SMALL LETTER GHE WITH STROKE;CAPITAL LETTER GHE WITH MIDDLE HOOK
;SMALL LETTER GHE WITH MIDDLE HOOK;CAPITAL LETTER ZHE WITH DESCENDER
;SMALL LETTER ZHE WITH DESCENDER;CAPITAL LETTER ZE WITH DESCENDER;SMALL LETTER ZE WITH DESCENDER
;CAPITAL LETTER KA WITH DESCENDER;SMALL LETTER KA WITH DESCENDER
;CAPITAL LETTER KA WITH VERTICAL STROKE;SMALL LETTER KA WITH VERTICAL STROKE
;CAPITAL LETTER KA WITH STROKE;SMALL LETTER KA WITH STROKE;CAPITAL LETTER BASHKIR KA
;SMALL LETTER BASHKIR KA;CAPITAL LETTER EN WITH DESCENDER;SMALL LETTER EN WITH DESCENDER
;CAPITAL LIGATURE EN GHE;SMALL LIGATURE EN GHE;CAPITAL LETTER PE WITH MIDDLE HOOK
;SMALL LETTER PE WITH MIDDLE HOOK;CAPITAL LETTER ABKHASIAN HA;SMALL LETTER ABKHASIAN HA
;CAPITAL LETTER ES WITH DESCENDER;SMALL LETTER ES WITH DESCENDER
;CAPITAL LETTER TE WITH DESCENDER;SMALL LETTER TE WITH DESCENDER;CAPITAL LETTER STRAIGHT U
;SMALL LETTER STRAIGHT U;CAPITAL LETTER STRAIGHT U WITH STROKE
;SMALL LETTER STRAIGHT U WITH STROKE;CAPITAL LETTER HA WITH DESCENDER
;SMALL LETTER HA WITH DESCENDER;CAPITAL LIGATURE TE TSE;SMALL LIGATURE TE TSE
;CAPITAL LETTER CHE WITH DESCENDER;SMALL LETTER CHE WITH DESCENDER
;CAPITAL LETTER CHE WITH VERTICAL STROKE;SMALL LETTER CHE WITH VERTICAL STROKE
;CAPITAL LETTER SHHA;SMALL LETTER SHHA;CAPITAL LETTER ABKHASIAN CHE;SMALL LETTER ABKHASIAN CHE
;CAPITAL LETTER ABKHASIAN CHE WITH DESCENDER;SMALL LETTER ABKHASIAN CHE WITH DESCENDER
;LETTER PALOCHKA;CAPITAL LETTER ZHE WITH BREVE;SMALL LETTER ZHE WITH BREVE
;CAPITAL LETTER KA WITH HOOK;SMALL LETTER KA WITH HOOK;CAPITAL LETTER EL WITH TAIL
;SMALL LETTER EL WITH TAIL;CAPITAL LETTER EN WITH HOOK;SMALL LETTER EN WITH HOOK
;CAPITAL LETTER EN WITH TAIL;SMALL LETTER EN WITH TAIL;CAPITAL LETTER KHAKASSIAN CHE
;SMALL LETTER KHAKASSIAN CHE;CAPITAL LETTER EM WITH TAIL;SMALL LETTER EM WITH TAIL
;SMALL LETTER PALOCHKA;CAPITAL LETTER A WITH BREVE;SMALL LETTER A WITH BREVE
;CAPITAL LETTER A WITH DIAERESIS;SMALL LETTER A WITH DIAERESIS;CAPITAL LIGATURE A IE
;SMALL LIGATURE A IE;CAPITAL LETTER IE WITH BREVE;SMALL LETTER IE WITH BREVE
;CAPITAL LETTER SCHWA;SMALL LETTER SCHWA;CAPITAL LETTER SCHWA WITH DIAERESIS
;SMALL LETTER SCHWA WITH DIAERESIS;CAPITAL LETTER ZHE WITH DIAERESIS
;SMALL LETTER ZHE WITH DIAERESIS;CAPITAL LETTER ZE WITH DIAERESIS;SMALL LETTER ZE WITH DIAERESIS
;CAPITAL LETTER ABKHASIAN DZE;SMALL LETTER ABKHASIAN DZE;CAPITAL LETTER I WITH MACRON
;SMALL LETTER I WITH MACRON;CAPITAL LETTER I WITH DIAERESIS;SMALL LETTER I WITH DIAERESIS
;CAPITAL LETTER O WITH DIAERESIS;SMALL LETTER O WITH DIAERESIS;CAPITAL LETTER BARRED O
;SMALL LETTER BARRED O;CAPITAL LETTER BARRED O WITH DIAERESIS
;SMALL LETTER BARRED O WITH DIAERESIS;CAPITAL LETTER E WITH DIAERESIS
;SMALL LETTER E WITH DIAERESIS;CAPITAL LETTER U WITH MACRON;SMALL LETTER U WITH MACRON
;CAPITAL LETTER U WITH DIAERESIS;SMALL LETTER U WITH DIAERESIS
;CAPITAL LETTER U WITH DOUBLE ACUTE;SMALL LETTER U WITH DOUBLE ACUTE
;CAPITAL LETTER CHE WITH DIAERESIS;SMALL LETTER CHE WITH DIAERESIS
;CAPITAL LETTER GHE WITH DESCENDER;SMALL LETTER GHE WITH DESCENDER
;CAPITAL LETTER YERU WITH DIAERESIS;SMALL LETTER YERU WITH DIAERESIS
;CAPITAL LETTER GHE WITH STROKE AND HOOK;SMALL LETTER GHE WITH STROKE AND HOOK
;CAPITAL LETTER HA WITH HOOK;SMALL LETTER HA WITH HOOK;CAPITAL LETTER HA WITH STROKE
;SMALL LETTER HA WITH STROKE;CAPITAL LETTER KOMI DE;SMALL LETTER KOMI DE;CAPITAL LETTER KOMI DJE
;SMALL LETTER KOMI DJE;CAPITAL LETTER KOMI ZJE;SMALL LETTER KOMI ZJE;CAPITAL LETTER KOMI DZJE
;SMALL LETTER KOMI DZJE;CAPITAL LETTER KOMI LJE;SMALL LETTER KOMI LJE;CAPITAL LETTER KOMI NJE
;SMALL LETTER KOMI NJE;CAPITAL LETTER KOMI SJE;SMALL LETTER KOMI SJE;CAPITAL LETTER KOMI TJE
;SMALL LETTER KOMI TJE;CAPITAL LETTER REVERSED ZE;SMALL LETTER REVERSED ZE
;CAPITAL LETTER EL WITH HOOK;SMALL LETTER EL WITH HOOK;CAPITAL LETTER LHA;SMALL LETTER LHA
;CAPITAL LETTER RHA;SMALL LETTER RHA;CAPITAL LETTER YAE;SMALL LETTER YAE;CAPITAL LETTER QA
;SMALL LETTER QA;CAPITAL LETTER WE;SMALL LETTER WE;CAPITAL LETTER ALEUT KA;SMALL LETTER ALEUT KA
;CAPITAL LETTER EL WITH MIDDLE HOOK;SMALL LETTER EL WITH MIDDLE HOOK
;CAPITAL LETTER EN WITH MIDDLE HOOK;SMALL LETTER EN WITH MIDDLE HOOK
;CAPITAL LETTER PE WITH DESCENDER;SMALL LETTER PE WITH DESCENDER
;CAPITAL LETTER SHHA WITH DESCENDER;SMALL LETTER SHHA WITH DESCENDER
;CAPITAL LETTER EN WITH LEFT HOOK;SMALL LETTER EN WITH LEFT HOOK;CAPITAL LETTER DZZHE
;SMALL LETTER DZZHE;CAPITAL LETTER DCHE;SMALL LETTER DCHE;CAPITAL LETTER EL WITH DESCENDER
;SMALL LETTER EL WITH DESCENDER
0531;ARMENIAN CAPITAL LETTER ;AYB;BEN;GIM;DA;ECH;ZA;EH;ET;TO;ZHE;INI;LIWN;XEH;CA;KEN;HO;JA;GHAD
;CHEH;MEN;YI;NOW;SHA;VO;CHA;PEH;JHEH;RA;SEH;VEW;TIWN;REH;CO;YIWN;PIWR;KEH;OH;FEH
0559;ARMENIAN ;MODIFIER LETTER LEFT HALF RING;APOSTROPHE;EMPHASIS MARK;EXCLAMATION MARK;COMMA
;QUESTION MARK;ABBREVIATION MARK
0560;ARMENIAN SMALL LETTER ;TURNED AYB;AYB;BEN;GIM;DA;ECH;ZA;EH;ET;TO;ZHE;INI;LIWN;XEH;CA;KEN;HO
;JA;GHAD;CHEH;MEN;YI;NOW;SHA;VO;CHA;PEH;JHEH;RA;SEH;VEW;TIWN;REH;CO;YIWN;PIWR;KEH;OH;FEH
0587;ARMENIAN ;SMALL LIGATURE ECH YIWN;SMALL LETTER YI WITH STROKE;FULL STOP;HYPHEN
058D;;RIGHT-FACING ARMENIAN ETERNITY SIGN;LEFT-FACING ARMENIAN ETERNITY SIGN;ARMENIAN DRAM SIGN
0591;HEBREW ACCENT ;ETNAHTA;SEGOL;SHALSHELET;ZAQEF QATAN;ZAQEF GADOL;TIPEHA;REVIA;ZARQA;PASHTA
;YETIV;TEVIR;GERESH;GERESH MUQDAM;GERSHAYIM;QARNEY PARA;TELISHA GEDOLA;PAZER;ATNAH HAFUKH;MUNAH
;MAHAPAKH;MERKHA;MERKHA KEFULA;DARGA;QADMA;TELISHA QETANA;YERAH BEN YOMO;OLE;ILUY;DEHI;ZINOR
05AF;HEBREW MARK MASORA CIRCLE;
05B0;HEBREW POINT ;SHEVA;HATAF SEGOL;HATAF PATAH;HATAF QAMATS;HIRIQ;TSERE;SEGOL;PATAH;QAMATS
;HOLAM;HOLAM HASER FOR VAV;QUBUTS;DAGESH OR MAPIQ;METEG
05BE;HEBREW ;PUNCTUATION MAQAF;POINT RAFE;PUNCTUATION PASEQ;POINT SHIN DOT;POINT SIN DOT
;PUNCTUATION SOF PASUQ;MARK UPPER DOT;MARK LOWER DOT;PUNCTUATION NUN HAFUKHA;POINT QAMATS QATAN
05D0;HEBREW LETTER ;ALEF;BET;GIMEL;DALET;HE;VAV;ZAYIN;HET;TET;YOD;FINAL KAF;KAF;LAMED;FINAL MEM
;MEM;FINAL NUN;NUN;SAMEKH;AYIN;FINAL PE;PE;FINAL TSADI;TSADI;QOF;RESH;SHIN;TAV
05EF;HEBREW YOD TRIANGLE;
05F0;HEBREW LIGATURE YIDDISH ;DOUBLE VAV;VAV YOD;DOUBLE YOD
05F3;HEBREW PUNCTUATION GER;ESH;SHAYIM
0600;ARABIC; NUMBER SIGN; SIGN SANAH; FOOTNOTE MARKER; SIGN SAFHA; SIGN SAMVAT
; NUMBER MARK ABOVE;-INDIC CUBE ROOT;-INDIC FOURTH ROOT; RAY;-INDIC PER MILLE SIGN
;-INDIC PER TEN THOUSAND SIGN
060B;AFGHANI SIGN;
060C;ARABIC ;COMMA;DATE SEPARATOR;POETIC VERSE SIGN
060F;ARABIC SIGN ;MISRA;SALLALLAHOU ALAYHE WASSALLAM;ALAYHE ASSALLAM;RAHMATULLAH ALAYHE
;RADI ALLAHOU ANHU;TAKHALLUS
0615;ARABIC SMALL ;HIGH TAH;HIGH LIGATURE ALEF WITH LAM WITH YEH;HIGH ZAIN;FATHA;DAMMA;KASRA
061B;ARABIC ;SEMICOLON;LETTER MARK;END OF TEXT MARK;TRIPLE DOT PUNCTUATION MARK;QUESTION MARK
0620;ARABIC LETTER ;KASHMIRI YEH;HAMZA;ALEF WITH MADDA ABOVE;ALEF WITH HAMZA ABOVE
;WAW WITH HAMZA ABOVE;ALEF WITH HAMZA BELOW;YEH WITH HAMZA ABOVE;ALEF;BEH;TEH MARBUTA;TEH;THEH
;JEEM;HAH;KHAH;DAL;THAL;REH;ZAIN;SEEN;SHEEN;SAD;DAD;TAH;ZAH;AIN;GHAIN;KEHEH WITH TWO DOTS ABOVE
;KEHEH WITH THREE DOTS BELOW
063D;ARABIC LETTER FARSI YEH WITH ;INVERTED V;TWO DOTS ABOVE;THREE DOTS ABOVE
0640;ARABIC TATWEEL;
0641;ARABIC LETTER ;FEH;QAF;KAF;LAM;MEEM;NOON;HEH;WAW;ALEF MAKSURA;YEH
064B;ARABIC ;FATHATAN;DAMMATAN;KASRATAN;FATHA;DAMMA;KASRA;SHADDA;SUKUN;MADDAH ABOVE;HAMZA ABOVE
;HAMZA BELOW;SUBSCRIPT ALEF;INVERTED DAMMA;MARK NOON GHUNNA;ZWARAKAY;VOWEL SIGN SMALL V ABOVE
;VOWEL SIGN INVERTED SMALL V ABOVE;VOWEL SIGN DOT BELOW;REVERSED DAMMA;FATHA WITH TWO DOTS
;WAVY HAMZA BELOW
0660;ARABIC-INDIC DIGIT ;ZERO;ONE;TWO;THREE;FOUR;FIVE;SIX;SEVEN;EIGHT;NINE
066A;ARABIC ;PERCENT SIGN;DECIMAL SEPARATOR;THOUSANDS SEPARATOR;FIVE POINTED STAR
066E;ARABIC LETTER ;DOTLESS BEH;DOTLESS QAF;SUPERSCRIPT ALEF;ALEF WASLA
;ALEF WITH WAVY HAMZA ABOVE;ALEF WITH WAVY HAMZA BELOW;HIGH HAMZA;HIGH HAMZA ALEF;HIGH HAMZA WAW
;U WITH HAMZA ABOVE;HIGH HAMZA YEH;TTEH;TTEHEH;BEEH;TEH WITH RING
;TEH WITH THREE DOTS ABOVE DOWNWARDS;PEH;TEHEH;BEHEH;HAH WITH HAMZA ABOVE
;HAH WITH TWO DOTS VERTICAL ABOVE;NYEH;DYEH;HAH WITH THREE DOTS ABOVE;TCHEH;TCHEHEH;DDAL
;DAL WITH RING;DAL WITH DOT BELOW;DAL WITH DOT BELOW AND SMALL TAH;DAHAL;DDAHAL;DUL
;DAL WITH THREE DOTS ABOVE DOWNWARDS;DAL WITH FOUR DOTS ABOVE;RREH
0692;ARABIC LETTER REH WITH ;SMALL V;RING;DOT BELOW;SMALL V BELOW;DOT BELOW AND DOT ABOVE
;TWO DOTS ABOVE
0698;ARABIC LETTER ;JEH;REH WITH FOUR DOTS ABOVE;SEEN WITH DOT BELOW AND DOT ABOVE
;SEEN WITH THREE DOTS BELOW;SEEN WITH THREE DOTS BELOW AND THREE DOTS ABOVE
;SAD WITH TWO DOTS BELOW;SAD WITH THREE DOTS ABOVE;TAH WITH THREE DOTS ABOVE
;AIN WITH THREE DOTS ABOVE;DOTLESS FEH;FEH WITH DOT MOVED BELOW;FEH WITH DOT BELOW;VEH
;FEH WITH THREE DOTS BELOW;PEHEH;QAF WITH DOT ABOVE;QAF WITH THREE DOTS ABOVE;KEHEH;SWASH KAF
;KAF WITH RING;KAF WITH DOT ABOVE;NG;KAF WITH THREE DOTS BELOW;GAF;GAF WITH RING;NGOEH
;GAF WITH TWO DOTS BELOW;GUEH;GAF WITH THREE DOTS ABOVE;LAM WITH SMALL V;LAM WITH DOT ABOVE
;LAM WITH THREE DOTS ABOVE;LAM WITH THREE DOTS BELOW;NOON WITH DOT BELOW;NOON GHUNNA;RNOON
;NOON WITH RING;NOON WITH THREE DOTS ABOVE;HEH DOACHASHMEE;TCHEH WITH DOT ABOVE
;HEH WITH YEH ABOVE;HEH GOAL;HEH GOAL WITH HAMZA ABOVE;TEH MARBUTA GOAL;WAW WITH RING;KIRGHIZ OE
;OE;U;YU;KIRGHIZ YU;WAW WITH TWO DOTS ABOVE;VE;FARSI YEH;YEH WITH TAIL;YEH WITH SMALL V
;WAW WITH DOT ABOVE;E;YEH WITH THREE DOTS BELOW;YEH BARREE;YEH BARREE WITH HAMZA ABOVE
06D4;ARABIC ;FULL STOP;LETTER AE
06D6;ARABIC SMALL HIGH ;LIGATURE SAD WITH LAM WITH ALEF MAKSURA
;LIGATURE QAF WITH LAM WITH ALEF MAKSURA;MEEM INITIAL FORM;LAM ALEF;JEEM;THREE DOTS;SEEN
06DD;ARABIC ;END OF AYAH;START OF RUB EL HIZB
06DF;ARABIC SMALL ;HIGH ROUNDED ZERO;HIGH UPRIGHT RECTANGULAR ZERO;HIGH DOTLESS HEAD OF KHAH
;HIGH MEEM ISOLATED FORM;LOW SEEN;HIGH MADDA;WAW;YEH;HIGH YEH;HIGH NOON
06E9;ARABIC ;PLACE OF SAJDAH;EMPTY CENTRE LOW STOP;EMPTY CENTRE HIGH STOP
;ROUNDED HIGH STOP WITH FILLED CENTRE;SMALL LOW MEEM;LETTER DAL WITH INVERTED V
;LETTER REH WITH INVERTED V
06F0;EXTENDED ARABIC-INDIC DIGIT ;ZERO;ONE;TWO;THREE;FOUR;FIVE;SIX;SEVEN;EIGHT;NINE
06FA;ARABIC ;LETTER SHEEN WITH DOT BELOW;LETTER DAD WITH DOT BELOW;LETTER GHAIN WITH DOT BELOW
;SIGN SINDHI AMPERSAND;SIGN SINDHI POSTPOSITION MEN;LETTER HEH WITH INVERTED V
0700;SYRIAC ;END OF PARAGRAPH;SUPRALINEAR FULL STOP;SUBLINEAR FULL STOP;SUPRALINEAR COLON
;SUBLINEAR COLON;HORIZONTAL COLON;COLON SKEWED LEFT;COLON SKEWED RIGHT
;SUPRALINEAR COLON SKEWED LEFT;SUBLINEAR COLON SKEWED RIGHT;CONTRACTION
070B;SYRIAC HARKLEAN ;OBELUS;METOBELUS;ASTERISCUS
070F;SYRIAC ABBREVIATION MARK;
0710;SYRIAC LETTER ;ALAPH;SUPERSCRIPT ALAPH;BETH;GAMAL;GAMAL GARSHUNI;DALATH;DOTLESS DALATH RISH
;HE;WAW;ZAIN;HETH;TETH;TETH GARSHUNI;YUDH;YUDH HE;KAPH;LAMADH;MIM;NUN;SEMKATH;FINAL SEMKATH;E;PE
;REVERSED PE;SADHE;QAPH;RISH;SHIN;TAW;PERSIAN BHETH;PERSIAN GHAMAL;PERSIAN DHALATH
0730;SYRIAC ;PTHAHA ABOVE;PTHAHA BELOW;PTHAHA DOTTED;ZQAPHA ABOVE;ZQAPHA BELOW;ZQAPHA DOTTED
;RBASA ABOVE;RBASA BELOW;DOTTED ZLAMA HORIZONTAL;DOTTED ZLAMA ANGULAR;HBASA ABOVE;HBASA BELOW
;HBASA-ESASA DOTTED;ESASA ABOVE;ESASA BELOW;RWAHA;FEMININE DOT;QUSHSHAYA;RUKKAKHA
;TWO VERTICAL DOTS ABOVE;TWO VERTICAL DOTS BELOW;THREE DOTS ABOVE;THREE DOTS BELOW
;OBLIQUE LINE ABOVE;OBLIQUE LINE BELOW;MUSIC;BARREKH
074D;SYRIAC LETTER SOGDIAN ;ZHAIN;KHAPH;FE
0750;ARABIC LETTER BEH WITH ;THREE DOTS HORIZONTALLY BELOW;DOT BELOW AND THREE DOTS ABOVE
;THREE DOTS POINTING UPWARDS BELOW;THREE DOTS POINTING UPWARDS BELOW AND TWO DOTS ABOVE
;TWO DOTS BELOW AND DOT ABOVE;INVERTED SMALL V BELOW;SMALL V
0757;ARABIC LETTER ;HAH WITH TWO DOTS ABOVE;HAH WITH THREE DOTS POINTING UPWARDS BELOW
;DAL WITH TWO DOTS VERTICALLY BELOW AND SMALL TAH;DAL WITH INVERTED SMALL V BELOW
;REH WITH STROKE;SEEN WITH FOUR DOTS ABOVE;AIN WITH TWO DOTS ABOVE
;AIN WITH THREE DOTS POINTING DOWNWARDS ABOVE;AIN WITH TWO DOTS VERTICALLY ABOVE
;FEH WITH TWO DOTS BELOW;FEH WITH THREE DOTS POINTING UPWARDS BELOW;KEHEH WITH DOT ABOVE
;KEHEH WITH THREE DOTS ABOVE;KEHEH WITH THREE DOTS POINTING UPWARDS BELOW;MEEM WITH DOT ABOVE
;MEEM WITH DOT BELOW;NOON WITH TWO DOTS BELOW;NOON WITH SMALL TAH;NOON WITH SMALL V;LAM WITH BAR
;REH WITH TWO DOTS VERTICALLY ABOVE;REH WITH HAMZA ABOVE;SEEN WITH TWO DOTS VERTICALLY ABOVE
;HAH WITH SMALL ARABIC LETTER TAH BELOW;HAH WITH SMALL ARABIC LETTER TAH AND TWO DOTS
;SEEN WITH SMALL ARABIC LETTER TAH AND TWO DOTS;REH WITH SMALL ARABIC LETTER TAH AND TWO DOTS
;HAH WITH SMALL ARABIC LETTER TAH ABOVE
0773;ARABIC LETTER ALEF WITH EXTENDED ARABIC-INDIC DIGIT T;WO ABOVE;HREE ABOVE
0775;ARABIC LETTER FARSI YEH WITH EXTENDED ARABIC-INDIC DIGIT ;TWO ABOVE;THREE ABOVE;FOUR BELOW
0778;ARABIC LETTER WAW WITH EXTENDED ARABIC-INDIC DIGIT T;WO ABOVE;HREE ABOVE
077A;ARABIC LETTER YEH BARREE WITH EXTENDED ARABIC-INDIC DIGIT T;WO ABOVE;HREE ABOVE
077C;ARABIC LETTER ;HAH WITH EXTENDED ARABIC-INDIC DIGIT FOUR BELOW
;SEEN WITH EXTENDED ARABIC-INDIC DIGIT FOUR ABOVE;SEEN WITH INVERTED V;KAF WITH TWO DOTS ABOVE
0780;THAANA LETTER ;HAA;SHAVIYANI;NOONU;RAA;BAA;LHAVIYANI;KAAFU;ALIFU;VAAVU;MEEMU;FAAFU;DHAALU
;THAA;LAAMU;GAAFU;GNAVIYANI;SEENU;DAVIYANI;ZAVIYANI;TAVIYANI;YAA;PAVIYANI;JAVIYANI;CHAVIYANI
;TTAA;HHAA;KHAA;THAALU;ZAA;SHEENU;SAADHU;DAADHU;TO;ZO;AINU;GHAINU;QAAFU;WAAVU
07A6;THAANA ;ABAFILI;AABAAFILI;IBIFILI;EEBEEFILI;UBUFILI;OOBOOFILI;EBEFILI;EYBEYFILI;OBOFILI
;OABOAFILI;SUKUN;LETTER NAA
07C0;NKO DIGIT ;ZERO;ONE;TWO;THREE;FOUR;FIVE;SIX;SEVEN;EIGHT;NINE
07CA;NKO LETTER ;A;EE;I;E;U;OO;O;DAGBASINNA;N;BA;PA;TA;JA;CHA;DA;RA;RRA;SA;GBA;FA;KA;LA
;NA WOLOSO;MA;NYA;NA;HA;WA;YA;NYA WOLOSO;JONA JA;JONA CHA;JONA RA
07EB;NKO COMBINING ;SHORT HIGH TONE;SHORT LOW TONE;SHORT RISING TONE;LONG DESCENDING TONE
;LONG HIGH TONE;LONG LOW TONE;LONG RISING TONE;NASALIZATION MARK;DOUBLE DOT ABOVE
07F4;NKO ;HIGH TONE APOSTROPHE;LOW TONE APOSTROPHE;SYMBOL OO DENNEN;SYMBOL GBAKURUNEN;COMMA
;EXCLAMATION MARK;LAJANYALAN
07FD;NKO ;DANTAYALAN;DOROME SIGN;TAMAN SIGN
0800;SAMARITAN LETTER ;ALAF;BIT;GAMAN;DALAT;IY;BAA;ZEN;IT;TIT;YUT;KAAF;LABAT;MIM;NUN;SINGAAT;IN
;FI;TSAADIY;QUF;RISH;SHAN;TAAF
0816;SAMARITAN M;ARK IN;ARK IN-ALAF;ARK OCCLUSION;ARK DAGESH;ODIFIER LETTER EPENTHETIC YUT
;ARK EPENTHETIC YUT
081C;SAMARITAN VOWEL SIGN ;LONG E;E;OVERLONG AA;LONG AA;AA;OVERLONG A;LONG A;A
0824;SAMARITAN ;MODIFIER LETTER SHORT A;VOWEL SIGN SHORT A;VOWEL SIGN LONG U;VOWEL SIGN U
;MODIFIER LETTER I;VOWEL SIGN LONG I;VOWEL SIGN I;VOWEL SIGN O;VOWEL SIGN SUKUN;MARK NEQUDAA
0830;SAMARITAN PUNCTUATION ;NEQUDAA;AFSAAQ;ANGED;BAU;ATMAAU;SHIYYAALAA
0836;SAMARITAN ABBREVIATION MARK;
0837;SAMARITAN PUNCTUATION ;MELODIC QITSA;ZIQAA;QITSA;ZAEF;TURU;ARKAANU;SOF MASHFAAT;ANNAAU
0840;MANDAIC LETTER ;HALQA;AB;AG;AD;AH;USHENNA;AZ;IT;ATT;AKSA;AK;AL;AM;AN;AS;IN;AP;ASZ;AQ;AR;ASH
;AT;DUSHENNA;KAD;AIN
0859;MANDAIC ;AFFRICATION MARK;VOCALIZATION MARK;GEMINATION MARK
085E;MANDAIC PUNCTUATION;
0860;SYRIAC LETTER MALAYALAM ;NGA;JA;NYA;TTA;NNA;NNNA;BHA;RA;LLA;LLLA;SSA
0870;ARABIC LETTER ALEF WITH ;ATTACHED FATHA;ATTACHED TOP RIGHT FATHA;RIGHT MIDDLE STROKE
;LEFT MIDDLE STROKE;ATTACHED KASRA;ATTACHED BOTTOM RIGHT KASRA;ATTACHED ROUND DOT ABOVE
;ATTACHED RIGHT ROUND DOT;ATTACHED LEFT ROUND DOT;ATTACHED ROUND DOT BELOW;DOT ABOVE
;ATTACHED TOP RIGHT FATHA AND DOT ABOVE;RIGHT MIDDLE STROKE AND DOT ABOVE
;ATTACHED BOTTOM RIGHT KASRA AND DOT ABOVE;ATTACHED TOP RIGHT FATHA AND LEFT RING
;RIGHT MIDDLE STROKE AND LEFT RING;ATTACHED BOTTOM RIGHT KASRA AND LEFT RING
;ATTACHED RIGHT HAMZA;ATTACHED LEFT HAMZA
0883;ARABIC TATWEEL WITH ;OVERSTRUCK HAMZA;OVERSTRUCK WAW;TWO DOTS BELOW
0886;ARABIC ;LETTER THIN YEH;BASELINE ROUND DOT;RAISED ROUND DOT
;LETTER NOON WITH INVERTED SMALL V;LETTER HAH WITH INVERTED SMALL V BELOW
;LETTER TAH WITH DOT BELOW;LETTER TAH WITH THREE DOTS BELOW
;LETTER KEHEH WITH TWO DOTS VERTICALLY BELOW;VERTICAL TAIL
0890;ARABIC P;OUND MARK ABOVE;IASTRE MARK ABOVE
0898;ARABIC SMALL ;HIGH WORD AL-JUZ;LOW WORD ISHMAAM;LOW WORD IMAALA;LOW WORD TASHEEL
089C;ARABIC ;MADDA WAAJIB;SUPERSCRIPT ALEF MOKHASSAS;DOUBLED MADDA;HALF MADDA OVER MADDA
08A0;ARABIC LETTER ;BEH WITH SMALL V BELOW;BEH WITH HAMZA ABOVE;JEEM WITH TWO DOTS ABOVE
;TAH WITH TWO DOTS ABOVE;FEH WITH DOT BELOW AND THREE DOTS ABOVE;QAF WITH DOT BELOW
;LAM WITH DOUBLE BAR;MEEM WITH THREE DOTS ABOVE;YEH WITH TWO DOTS BELOW AND HAMZA ABOVE
;YEH WITH TWO DOTS BELOW AND DOT ABOVE;REH WITH LOOP;WAW WITH DOT WITHIN;ROHINGYA YEH;LOW ALEF
;DAL WITH THREE DOTS BELOW;SAD WITH THREE DOTS BELOW;GAF WITH INVERTED STROKE;STRAIGHT WAW
;ZAIN WITH INVERTED V ABOVE;AIN WITH THREE DOTS BELOW;KAF WITH DOT BELOW
;QAF WITH DOT BELOW AND NO DOTS ABOVE;BEH WITH SMALL MEEM ABOVE;PEH WITH SMALL MEEM ABOVE
;TEH WITH SMALL TEH ABOVE;REH WITH SMALL NOON ABOVE;YEH WITH TWO DOTS BELOW AND SMALL NOON ABOVE
;AFRICAN FEH;AFRICAN QAF;AFRICAN NOON;PEH WITH SMALL V;TEH WITH SMALL V;TTEH WITH SMALL V
;TCHEH WITH SMALL V;KEHEH WITH SMALL V;GHAIN WITH THREE DOTS ABOVE
;AFRICAN QAF WITH THREE DOTS ABOVE;JEEM WITH THREE DOTS ABOVE;JEEM WITH THREE DOTS BELOW
;LAM WITH SMALL ARABIC LETTER TAH ABOVE;GRAF
08C9;ARABIC SMALL ;FARSI YEH;HIGH FARSI YEH;HIGH YEH BARREE WITH TWO DOTS BELOW;HIGH WORD SAH
;HIGH ZAH
08CE;ARABIC LARGE ROUND DOT ;ABOVE;BELOW
08D0;ARABIC ;SUKUN BELOW;LARGE CIRCLE BELOW;LARGE ROUND DOT INSIDE CIRCLE BELOW
08D3;ARABIC SMALL ;LOW WAW;HIGH WORD AR-RUB;HIGH SAD;HIGH AIN;HIGH QAF;HIGH NOON WITH KASRA
;LOW NOON WITH KASRA
08DA;ARABIC SMALL HIGH WORD ;ATH-THALATHA;AS-SAJDA;AN-NISF;SAKTA;QIF;WAQFA
08E0;ARABIC ;SMALL HIGH FOOTNOTE MARKER;SMALL HIGH SIGN SAFHA;DISPUTED END OF AYAH
;TURNED DAMMA BELOW
08E4;ARABIC CURLY ;FATHA;DAMMA;KASRA;FATHATAN;DAMMATAN;KASRATAN
08EA;ARABIC TONE ;ONE DOT ABOVE;TWO DOTS ABOVE;LOOP ABOVE;ONE DOT BELOW;TWO DOTS BELOW
;LOOP BELOW
08F0;ARABIC ;OPEN FATHATAN;OPEN DAMMATAN;OPEN KASRATAN;SMALL HIGH WAW;FATHA WITH RING
;FATHA WITH DOT ABOVE;KASRA WITH DOT BELOW;LEFT ARROWHEAD ABOVE;RIGHT ARROWHEAD ABOVE
;LEFT ARROWHEAD BELOW;RIGHT ARROWHEAD BELOW;DOUBLE RIGHT ARROWHEAD ABOVE
;DOUBLE RIGHT ARROWHEAD ABOVE WITH DOT;RIGHT ARROWHEAD ABOVE WITH DOT;DAMMA WITH DOT
;MARK SIDEWAYS NOON GHUNNA
0900;DEVANAGARI SIGN ;INVERTED CANDRABINDU;CANDRABINDU;ANUSVARA;VISARGA
0904;DEVANAGARI LETTER ;SHORT A;A;AA;I;II;U;UU;VOCALIC R;VOCALIC L;CANDRA E;SHORT E;E;AI
;CANDRA O;SHORT O;O;AU;KA;KHA;GA;GHA;NGA;CA;CHA;JA;JHA;NYA;TTA;TTHA;DDA;DDHA;NNA;TA;THA;DA;DHA
;NA;NNNA;PA;PHA;BA;BHA;MA;YA;RA;RRA;LA;LLA;LLLA;VA;SHA;SSA;SA;HA
093A;DEVANAGARI ;VOWEL SIGN OE;VOWEL SIGN OOE;SIGN NUKTA;SIGN AVAGRAHA
093E;DEVANAGARI VOWEL SIGN ;AA;I;II;U;UU;VOCALIC R;VOCALIC RR;CANDRA E;SHORT E;E;AI;CANDRA O
;SHORT O;O;AU
094D;DEVANAGARI ;SIGN VIRAMA;VOWEL SIGN PRISHTHAMATRA E;VOWEL SIGN AW;OM;STRESS SIGN UDATTA
;STRESS SIGN ANUDATTA;GRAVE ACCENT;ACUTE ACCENT
0955;DEVANAGARI VOWEL SIGN ;CANDRA LONG E;UE;UUE
0958;DEVANAGARI LETTER ;QA;KHHA;GHHA;ZA;DDDHA;RHA;FA;YYA;VOCALIC RR;VOCALIC LL
0962;DEVANAGARI VOWEL SIGN VOCALIC L;;L
0964;DEVANAGARI D;ANDA;OUBLE DANDA
0966;DEVANAGARI DIGIT ;ZERO;ONE;TWO;THREE;FOUR;FIVE;SIX;SEVEN;EIGHT;NINE
0970;DEVANAGARI ;ABBREVIATION SIGN;SIGN HIGH SPACING DOT
0972;DEVANAGARI LETTER ;CANDRA A;OE;OOE;AW;UE;UUE;MARWARI DDA;ZHA;HEAVY YA;GGA;JJA;GLOTTAL STOP
;DDDA;BBA
0980;BENGALI ;ANJI;SIGN CANDRABINDU;SIGN ANUSVARA;SIGN VISARGA
0985;BENGALI LETTER ;A;AA;I;II;U;UU;VOCALIC R;VOCALIC L
098F;BENGALI LETTER ;E;AI
0993;BENGALI LETTER ;O;AU;KA;KHA;GA;GHA;NGA;CA;CHA;JA;JHA;NYA;TTA;TTHA;DDA;DDHA;NNA;TA;THA;DA
;DHA;NA
09AA;BENGALI LETTER ;PA;PHA;BA;BHA;MA;YA;RA
09B2;BENGALI LETTER LA;
09B6;BENGALI LETTER ;SHA;SSA;SA;HA
09BC;BENGALI SIGN ;NUKTA;AVAGRAHA
09BE;BENGALI VOWEL SIGN ;AA;I;II;U;UU;VOCALIC R;VOCALIC RR
09C7;BENGALI VOWEL SIGN ;E;AI
09CB;BENGALI ;VOWEL SIGN O;VOWEL SIGN AU;SIGN VIRAMA;LETTER KHANDA TA
09D7;BENGALI AU LENGTH MARK;
09DC;BENGALI LETTER R;RA;HA
09DF;BENGALI LETTER ;YYA;VOCALIC RR;VOCALIC LL
09E2;BENGALI VOWEL SIGN VOCALIC L;;L
09E6;BENGALI DIGIT ;ZERO;ONE;TWO;THREE;FOUR;FIVE;SIX;SEVEN;EIGHT;NINE
09F0;BENGALI LETTER RA WITH ;MIDDLE DIAGONAL;LOWER DIAGONAL
09F2;BENGALI RUPEE ;MARK;SIGN
09F4;BENGALI CURRENCY NUMERATOR ;ONE;TWO;THREE;FOUR;ONE LESS THAN THE DENOMINATOR
09F9;BENGALI ;CURRENCY DENOMINATOR SIXTEEN;ISSHAR;GANDA MARK;LETTER VEDIC ANUSVARA
;ABBREVIATION SIGN;SANDHI MARK
0A01;GURMUKHI SIGN ;ADAK BINDI;BINDI;VISARGA
0A05;GURMUKHI LETTER ;A;AA;I;II;U;UU
0A0F;GURMUKHI LETTER ;EE;AI
0A13;GURMUKHI LETTER ;OO;AU;KA;KHA;GA;GHA;NGA;CA;CHA;JA;JHA;NYA;TTA;TTHA;DDA;DDHA;NNA;TA;THA;DA
;DHA;NA
0A2A;GURMUKHI LETTER ;PA;PHA;BA;BHA;MA;YA;RA
0A32;GURMUKHI LETTER L;A;LA
0A35;GURMUKHI LETTER ;VA;SHA
0A38;GURMUKHI LETTER ;SA;HA
0A3C;GURMUKHI SIGN NUKTA;
0A3E;GURMUKHI VOWEL SIGN ;AA;I;II;U;UU
0A47;GURMUKHI VOWEL SIGN ;EE;AI
0A4B;GURMUKHI ;VOWEL SIGN OO;VOWEL SIGN AU;SIGN VIRAMA
0A51;GURMUKHI SIGN UDAAT;
0A59;GURMUKHI LETTER ;KHHA;GHHA;ZA;RRA
0A5E;GURMUKHI LETTER FA;
0A66;GURMUKHI DIGIT ;ZERO;ONE;TWO;THREE;FOUR;FIVE;SIX;SEVEN;EIGHT;NINE
0A70;GURMUKHI ;TIPPI;ADDAK;IRI;URA;EK ONKAR;SIGN YAKASH;ABBREVIATION SIGN
0A81;GUJARATI SIGN ;CANDRABINDU;ANUSVARA;VISARGA
0A85;GUJARATI LETTER ;A;AA;I;II;U;UU;VOCALIC R;VOCALIC L
0A8D;GUJARATI VOWEL CANDRA E;
0A8F;GUJARATI ;LETTER E;LETTER AI;VOWEL CANDRA O
0A93;GUJARATI LETTER ;O;AU;KA;KHA;GA;GHA;NGA;CA;CHA;JA;JHA;NYA;TTA;TTHA;DDA;DDHA;NNA;TA;THA;DA
;DHA;NA
0AAA;GUJARATI LETTER ;PA;PHA;BA;BHA;MA;YA;RA
0AB2;GUJARATI LETTER L;A;LA
0AB5;GUJARATI LETTER ;VA;SHA;SSA;SA;HA
0ABC;GUJARATI SIGN ;NUKTA;AVAGRAHA
0ABE;GUJARATI VOWEL SIGN ;AA;I;II;U;UU;VOCALIC R;VOCALIC RR;CANDRA E
0AC7;GUJARATI VOWEL SIGN ;E;AI;CANDRA O
0ACB;GUJARATI ;VOWEL SIGN O;VOWEL SIGN AU;SIGN VIRAMA
0AD0;GUJARATI OM;
0AE0;GUJARATI LETTER VOCALIC ;RR;LL
0AE2;GUJARATI VOWEL SIGN VOCALIC L;;L
0AE6;GUJARATI DIGIT ;ZERO;ONE;TWO;THREE;FOUR;FIVE;SIX;SEVEN;EIGHT;NINE
0AF0;GUJARATI ;ABBREVIATION SIGN;RUPEE SIGN
0AF9;GUJARATI LETTER ZHA;
0AFA;GUJARATI SIGN ;SUKUN;SHADDA;MADDAH;THREE-DOT NUKTA ABOVE;CIRCLE NUKTA ABOVE
;TWO-CIRCLE NUKTA ABOVE
0B01;ORIYA SIGN ;CANDRABINDU;ANUSVARA;VISARGA
0B05;ORIYA LETTER ;A;AA;I;II;U;UU;VOCALIC R;VOCALIC L
0B0F;ORIYA LETTER ;E;AI
0B13;ORIYA LETTER ;O;AU;KA;KHA;GA;GHA;NGA;CA;CHA;JA;JHA;NYA;TTA;TTHA;DDA;DDHA;NNA;TA;THA;DA;DHA
;NA
0B2A;ORIYA LETTER ;PA;PHA;BA;BHA;MA;YA;RA
0B32;ORIYA LETTER L;A;LA
0B35;ORIYA LETTER ;VA;SHA;SSA;SA;HA
0B3C;ORIYA SIGN ;NUKTA;AVAGRAHA
0B3E;ORIYA VOWEL SIGN ;AA;I;II;U;UU;VOCALIC R;VOCALIC RR
0B47;ORIYA VOWEL SIGN ;E;AI
0B4B;ORIYA ;VOWEL SIGN O;VOWEL SIGN AU;SIGN VIRAMA
0B55;ORIYA ;SIGN OVERLINE;AI LENGTH MARK;AU LENGTH MARK
0B5C;ORIYA LETTER R;RA;HA
0B5F;ORIYA LETTER ;YYA;VOCALIC RR;VOCALIC LL
0B62;ORIYA VOWEL SIGN VOCALIC L;;L
0B66;ORIYA DIGIT ;ZERO;ONE;TWO;THREE;FOUR;FIVE;SIX;SEVEN;EIGHT;NINE
0B70;ORIYA ;ISSHAR;LETTER WA
0B72;ORIYA FRACTION ;ONE QUARTER;ONE HALF;THREE QUARTERS;ONE SIXTEENTH;ONE EIGHTH
;THREE SIXTEENTHS
0B82;TAMIL SIGN ;ANUSVARA;VISARGA
0B85;TAMIL LETTER ;A;AA;I;II;U;UU
0B8E;TAMIL LETTER ;E;EE;AI
0B92;TAMIL LETTER ;O;OO;AU;KA
0B99;TAMIL LETTER ;NGA;CA
0B9C;TAMIL LETTER JA;
0B9E;TAMIL LETTER ;NYA;TTA
0BA3;TAMIL LETTER ;NNA;TA
0BA8;TAMIL LETTER ;NA;NNNA;PA
0BAE;TAMIL LETTER ;MA;YA;RA;RRA;LA;LLA;LLLA;VA;SHA;SSA;SA;HA
0BBE;TAMIL VOWEL SIGN ;AA;I;II;U;UU
0BC6;TAMIL VOWEL SIGN ;E;EE;AI
0BCA;TAMIL VOWEL SIGN ;O;OO;AU
0BCD;TAMIL SIGN VIRAMA;
0BD0;TAMIL OM;
0BD7;TAMIL AU LENGTH MARK;
0BE6;TAMIL DIGIT ;ZERO;ONE;TWO;THREE;FOUR;FIVE;SIX;SEVEN;EIGHT;NINE
0BF0;TAMIL NUMBER ;TEN;ONE HUNDRED;ONE THOUSAND
0BF3;TAMIL ;DAY SIGN;MONTH SIGN;YEAR SIGN;DEBIT SIGN;CREDIT SIGN;AS ABOVE SIGN;RUPEE SIGN
;NUMBER SIGN
0C00;TELUGU SIGN ;COMBINING CANDRABINDU ABOVE;CANDRABINDU;ANUSVARA;VISARGA
;COMBINING ANUSVARA ABOVE
0C05;TELUGU LETTER ;A;AA;I;II;U;UU;VOCALIC R;VOCALIC L
0C0E;TELUGU LETTER ;E;EE;AI
0C12;TELUGU LETTER ;O;OO;AU;KA;KHA;GA;GHA;NGA;CA;CHA;JA;JHA;NYA;TTA;TTHA;DDA;DDHA;NNA;TA;THA;DA
;DHA;NA
0C2A;TELUGU LETTER ;PA;PHA;BA;BHA;MA;YA;RA;RRA;LA;LLA;LLLA;VA;SHA;SSA;SA;HA
0C3C;TELUGU SIGN ;NUKTA;AVAGRAHA
0C3E;TELUGU VOWEL SIGN ;AA;I;II;U;UU;VOCALIC R;VOCALIC RR
0C46;TELUGU VOWEL SIGN ;E;EE;AI
0C4A;TELUGU VOWEL SIGN ;O;OO;AU
0C4D;TELUGU SIGN VIRAMA;
0C55;TELUGU ;LENGTH MARK;AI LENGTH MARK
0C58;TELUGU LETTER ;TSA;DZA;RRRA
0C5D;TELUGU LETTER NAKAARA POLLU;
0C60;TELUGU LETTER VOCALIC ;RR;LL
0C62;TELUGU VOWEL SIGN VOCALIC L;;L
0C66;TELUGU DIGIT ;ZERO;ONE;TWO;THREE;FOUR;FIVE;SIX;SEVEN;EIGHT;NINE
0C77;TELUGU SIGN SIDDHAM;
0C78;TELUGU FRACTION DIGIT ;ZERO FOR ODD POWERS OF FOUR;ONE FOR ODD POWERS OF FOUR
;TWO FOR ODD POWERS OF FOUR;THREE FOR ODD POWERS OF FOUR;ONE FOR EVEN POWERS OF FOUR
;TWO FOR EVEN POWERS OF FOUR;THREE FOR EVEN POWERS OF FOUR
0C7F;TELUGU SIGN TUUMU;
0C80;KANNADA SIGN ;SPACING CANDRABINDU;CANDRABINDU;ANUSVARA;VISARGA;SIDDHAM
0C85;KANNADA LETTER ;A;AA;I;II;U;UU;VOCALIC R;VOCALIC L
0C8E;KANNADA LETTER ;E;EE;AI
0C92;KANNADA LETTER ;O;OO;AU;KA;KHA;GA;GHA;NGA;CA;CHA;JA;JHA;NYA;TTA;TTHA;DDA;DDHA;NNA;TA;THA;DA
;DHA;NA
0CAA;KANNADA LETTER ;PA;PHA;BA;BHA;MA;YA;RA;RRA;LA;LLA
0CB5;KANNADA LETTER ;VA;SHA;SSA;SA;HA
0CBC;KANNADA SIGN ;NUKTA;AVAGRAHA
0CBE;KANNADA VOWEL SIGN ;AA;I;II;U;UU;VOCALIC R;VOCALIC RR
0CC6;KANNADA VOWEL SIGN ;E;EE;AI
0CCA;KANNADA VOWEL SIGN ;O;OO;AU
0CCD;KANNADA SIGN VIRAMA;
0CD5;KANNADA ;LENGTH MARK;AI LENGTH MARK
0CDD;KANNADA LETTER ;NAKAARA POLLU;FA
0CE0;KANNADA LETTER VOCALIC ;RR;LL
0CE2;KANNADA VOWEL SIGN VOCALIC L;;L
0CE6;KANNADA DIGIT ;ZERO;ONE;TWO;THREE;FOUR;FIVE;SIX;SEVEN;EIGHT;NINE
0CF1;KANNADA SIGN ;JIHVAMULIYA;UPADHMANIYA
0D00;MALAYALAM SIGN ;COMBINING ANUSVARA ABOVE;CANDRABINDU;ANUSVARA;VISARGA
0D04;MALAYALAM LETTER ;VEDIC ANUSVARA;A;AA;I;II;U;UU;VOCALIC R;VOCALIC L
0D0E;MALAYALAM LETTER ;E;EE;AI
0D12;MALAYALAM LETTER ;O;OO;AU;KA;KHA;GA;GHA;NGA;CA;CHA;JA;JHA;NYA;TTA;TTHA;DDA;DDHA;NNA;TA;THA
;DA;DHA;NA;NNNA;PA;PHA;BA;BHA;MA;YA;RA;RRA;LA;LLA;LLLA;VA;SHA;SSA;SA;HA;TTTA
0D3B;MALAYALAM SIGN ;VERTICAL BAR VIRAMA;CIRCULAR VIRAMA;AVAGRAHA
0D3E;MALAYALAM VOWEL SIGN ;AA;I;II;U;UU;VOCALIC R;VOCALIC RR
0D46;MALAYALAM VOWEL SIGN ;E;EE;AI
0D4A;MALAYALAM VOWEL SIGN ;O;OO;AU
0D4D;MALAYALAM ;SIGN VIRAMA;LETTER DOT REPH;SIGN PARA
0D54;MALAYALAM LETTER CHILLU ;M;Y;LLL
0D57;MALAYALAM AU LENGTH MARK;
0D58;MALAYALAM FRACTION ;ONE ONE-HUNDRED-AND-SIXTIETH;ONE FORTIETH;THREE EIGHTIETHS
;ONE TWENTIETH;ONE TENTH;THREE TWENTIETHS;ONE FIFTH
0D5F;MALAYALAM LETTER ;ARCHAIC II;VOCALIC RR;VOCALIC LL
0D62;MALAYALAM VOWEL SIGN VOCALIC L;;L
0D66;MALAYALAM DIGIT ;ZERO;ONE;TWO;THREE;FOUR;FIVE;SIX;SEVEN;EIGHT;NINE
0D70;MALAYALAM NUMBER ;TEN;ONE HUNDRED;ONE THOUSAND
0D73;MALAYALAM FRACTION ;ONE QUARTER;ONE HALF;THREE QUARTERS;ONE SIXTEENTH;ONE EIGHTH
;THREE SIXTEENTHS
0D79;MALAYALAM DATE MARK;
0D7A;MALAYALAM LETTER CHILLU ;NN;N;RR;L;LL;K
0D81;SINHALA SIGN ;CANDRABINDU;ANUSVARAYA;VISARGAYA
0D85;SINHALA LETTER ;AYANNA;AAYANNA;AEYANNA;AEEYANNA;IYANNA;IIYANNA;UYANNA;UUYANNA;IRUYANNA
;IRUUYANNA;ILUYANNA;ILUUYANNA;EYANNA;EEYANNA;AIYANNA;OYANNA;OOYANNA;AUYANNA
0D9A;SINHALA LETTER ;ALPAPRAANA KAYANNA;MAHAAPRAANA KAYANNA;ALPAPRAANA GAYANNA
;MAHAAPRAANA GAYANNA;KANTAJA NAASIKYAYA;SANYAKA GAYANNA;ALPAPRAANA CAYANNA;MAHAAPRAANA CAYANNA
;ALPAPRAANA JAYANNA;MAHAAPRAANA JAYANNA;TAALUJA NAASIKYAYA;TAALUJA SANYOOGA NAAKSIKYAYA
;SANYAKA JAYANNA;ALPAPRAANA TTAYANNA;MAHAAPRAANA TTAYANNA;ALPAPRAANA DDAYANNA
;MAHAAPRAANA DDAYANNA;MUURDHAJA NAYANNA;SANYAKA DDAYANNA;ALPAPRAANA TAYANNA;MAHAAPRAANA TAYANNA
;ALPAPRAANA DAYANNA;MAHAAPRAANA DAYANNA;DANTAJA NAYANNA
0DB3;SINHALA LETTER ;SANYAKA DAYANNA;ALPAPRAANA PAYANNA;MAHAAPRAANA PAYANNA;ALPAPRAANA BAYANNA
;MAHAAPRAANA BAYANNA;MAYANNA;AMBA BAYANNA;YAYANNA;RAYANNA
0DBD;SINHALA LETTER DANTAJA LAYANNA;
0DC0;SINHALA LETTER ;VAYANNA;TAALUJA SAYANNA;MUURDHAJA SAYANNA;DANTAJA SAYANNA;HAYANNA
;MUURDHAJA LAYANNA;FAYANNA
0DCA;SINHALA SIGN AL-LAKUNA;
0DCF;SINHALA VOWEL SIGN ;AELA-PILLA;KETTI AEDA-PILLA;DIGA AEDA-PILLA;KETTI IS-PILLA
;DIGA IS-PILLA;KETTI PAA-PILLA
0DD6;SINHALA VOWEL SIGN DIGA PAA-PILLA;
0DD8;SINHALA VOWEL SIGN ;GAETTA-PILLA;KOMBUVA;DIGA KOMBUVA;KOMBU DEKA;KOMBUVA HAA AELA-PILLA
;KOMBUVA HAA DIGA AELA-PILLA;KOMBUVA HAA GAYANUKITTA;GAYANUKITTA
0DE6;SINHALA LITH DIGIT ;ZERO;ONE;TWO;THREE;FOUR;FIVE;SIX;SEVEN;EIGHT;NINE
0DF2;SINHALA VOWEL SIGN DIGA GA;ETTA-PILLA;YANUKITTA
0DF4;SINHALA PUNCTUATION KUNDDALIYA;
0E01;THAI CHARACTER ;KO KAI;KHO KHAI;KHO KHUAT;KHO KHWAI;KHO KHON;KHO RAKHANG;NGO NGU;CHO CHAN
;CHO CHING;CHO CHANG;SO SO;CHO CHOE;YO YING;DO CHADA;TO PATAK;THO THAN;THO NANGMONTHO
;THO PHUTHAO;NO NEN;DO DEK;TO TAO;THO THUNG;THO THAHAN;THO THONG;NO NU;BO BAIMAI;PO PLA
;PHO PHUNG;FO FA;PHO PHAN;FO FAN;PHO SAMPHAO;MO MA;YO YAK;RO RUA;RU;LO LING;LU;WO WAEN;SO SALA
;SO RUSI;SO SUA;HO HIP;LO CHULA;O ANG;HO NOKHUK;PAIYANNOI;SARA A;MAI HAN-AKAT;SARA AA;SARA AM
;SARA I;SARA II;SARA UE;SARA UEE;SARA U;SARA UU;PHINTHU
0E3F;THAI CURRENCY SYMBOL BAHT;
0E40;THAI CHARACTER ;SARA E;SARA AE;SARA O;SARA AI MAIMUAN;SARA AI MAIMALAI;LAKKHANGYAO;MAIYAMOK
;MAITAIKHU;MAI EK;MAI THO;MAI TRI;MAI CHATTAWA;THANTHAKHAT;NIKHAHIT;YAMAKKAN;FONGMAN
0E50;THAI DIGIT ;ZERO;ONE;TWO;THREE;FOUR;FIVE;SIX;SEVEN;EIGHT;NINE
0E5A;THAI CHARACTER ;ANGKHANKHU;KHOMUT
0E81;LAO LETTER K;O;HO SUNG
0E84;LAO LETTER KHO TAM;
0E86;LAO LETTER ;PALI GHA;NGO;CO;PALI CHA;SO TAM
0E8C;LAO LETTER ;PALI JHA;NYO;PALI NYA;PALI TTA;PALI TTHA;PALI DDA;PALI DDHA;PALI NNA;DO;TO
;THO SUNG;THO TAM;PALI DHA;NO;BO;PO;PHO SUNG;FO TAM;PHO TAM;FO SUNG;PALI BHA;MO;YO;LO LING
0EA5;LAO LETTER LO LOOT;
0EA7;LAO LETTER ;WO;SANSKRIT SHA;SANSKRIT SSA;SO SUNG;HO SUNG;PALI LLA;O;HO TAM
0EAF;LAO ELLIPSIS;
0EB0;LAO VOWEL SIGN ;A;MAI KAN;AA;AM;I;II;Y;YY;U;UU
0EBA;LAO ;SIGN PALI VIRAMA;VOWEL SIGN MAI KON
0EBC;LAO SEMIVOWEL SIGN ;LO;NYO
0EC0;LAO VOWEL SIGN ;E;EI;O;AY;AI
0EC6;LAO KO LA;
0EC8;LAO TONE MAI ;EK;THO;TI;CATAWA
0ECC;LAO ;CANCELLATION MARK;NIGGAHITA
0ED0;LAO DIGIT ;ZERO;ONE;TWO;THREE;FOUR;FIVE;SIX;SEVEN;EIGHT;NINE
0EDC;LAO HO ;NO;MO
0EDE;LAO LETTER KHMU ;GO;NYO
0F00;TIBETAN SYLLABLE OM;
0F01;TIBETAN MARK GTER YIG MGO ;TRUNCATED A;-UM RNAM BCAD MA;-UM GTER TSHEG MA
0F04;TIBETAN MARK ;INITIAL YIG MGO MDUN MA;CLOSING YIG MGO SGAB MA;CARET YIG MGO PHUR SHAD MA
;YIG MGO TSHEG SHAD MA;SBRUL SHAD;BSKUR YIG MGO;BKA- SHOG YIG MGO;INTERSYLLABIC TSHEG
;DELIMITER TSHEG BSTAR;SHAD;NYIS SHAD;TSHEG SHAD;NYIS TSHEG SHAD;RIN CHEN SPUNGS SHAD
;RGYA GRAM SHAD;CARET -DZUD RTAGS ME LONG CAN;GTER TSHEG
0F15;TIBETAN LOGOTYPE SIGN ;CHAD RTAGS;LHAG RTAGS
0F17;TIBETAN ASTROLOGICAL SIGN ;SGRA GCAN -CHAR RTAGS;-KHYUD PA;SDONG TSHUGS
0F1A;TIBETAN SIGN RDEL ;DKAR GCIG;DKAR GNYIS;DKAR GSUM;NAG GCIG;NAG GNYIS;DKAR RDEL NAG
0F20;TIBETAN DIGIT ;ZERO;ONE;TWO;THREE;FOUR;FIVE;SIX;SEVEN;EIGHT;NINE
0F2A;TIBETAN DIGIT HALF ;ONE;TWO;THREE;FOUR;FIVE;SIX;SEVEN;EIGHT;NINE;ZERO
0F34;TIBETAN MARK ;BSDUS RTAGS;NGAS BZUNG NYI ZLA;CARET -DZUD RTAGS BZHI MIG CAN
;NGAS BZUNG SGOR RTAGS;CHE MGO;TSA -PHRU;GUG RTAGS GYON;GUG RTAGS GYAS;ANG KHANG GYON
;ANG KHANG GYAS
0F3E;TIBETAN SIGN ;YAR TSHES;MAR TSHES
0F40;TIBETAN LETTER ;KA;KHA;GA;GHA;NGA;CA;CHA;JA
0F49;TIBETAN LETTER ;NYA;TTA;TTHA;DDA;DDHA;NNA;TA;THA;DA;DHA;NA;PA;PHA;BA;BHA;MA;TSA;TSHA;DZA
;DZHA;WA;ZHA;ZA;-A;YA;RA;LA;SHA;SSA;SA;HA;A;KSSA;FIXED-FORM RA;KKA;RRA
0F71;TIBETAN VOWEL SIGN ;AA;I;II;U;UU;VOCALIC R;VOCALIC RR;VOCALIC L;VOCALIC LL;E;EE;O;OO
0F7E;TIBETAN ;SIGN RJES SU NGA RO;SIGN RNAM BCAD;VOWEL SIGN REVERSED I;VOWEL SIGN REVERSED II
;SIGN NYI ZLA NAA DA;SIGN SNA LDAN;MARK HALANTA;MARK PALUTA
0F86;TIBETAN SIGN ;LCI RTAGS;YANG RTAGS;LCE TSA CAN;MCHU CAN;GRU CAN RGYINGS;GRU MED RGYINGS
;INVERTED MCHU CAN
0F8D;TIBETAN SUBJOINED SIGN ;LCE TSA CAN;MCHU CAN;INVERTED MCHU CAN
0F90;TIBETAN SUBJOINED LETTER ;KA;KHA;GA;GHA;NGA;CA;CHA;JA
0F99;TIBETAN SUBJOINED LETTER ;NYA;TTA;TTHA;DDA;DDHA;NNA;TA;THA;DA;DHA;NA;PA;PHA;BA;BHA;MA;TSA
;TSHA;DZA;DZHA;WA;ZHA;ZA;-A;YA;RA;LA;SHA;SSA;SA;HA;A;KSSA;FIXED-FORM WA;FIXED-FORM YA
;FIXED-FORM RA
0FBE;TIBETAN KU RU KHA;; BZHI MIG CAN
0FC0;TIBETAN CANTILLATION SIGN ;HEAVY BEAT;LIGHT BEAT;CANG TE-U;SBUB -CHAL
0FC4;TIBETAN SYMBOL ;DRIL BU;RDO RJE;PADMA GDAN;RDO RJE RGYA GRAM;PHUR PA;NOR BU
;NOR BU NYIS -KHYIL;NOR BU GSUM -KHYIL;NOR BU BZHI -KHYIL
0FCE;TIBETAN SIGN RDEL NAG ;RDEL DKAR;GSUM
0FD0;TIBETAN MARK ;BSKA- SHOG GI MGO RGYAN;MNYAM YIG GI MGO RGYAN;NYIS TSHEG
;INITIAL BRDA RNYING YIG MGO MDUN MA;CLOSING BRDA RNYING YIG MGO SGAB MA
0FD5;;RIGHT-FACING SVASTI SIGN;LEFT-FACING SVASTI SIGN;RIGHT-FACING SVASTI SIGN WITH DOTS
;LEFT-FACING SVASTI SIGN WITH DOTS
0FD9;TIBETAN MARK ;LEADING MCHAN RTAGS;TRAILING MCHAN RTAGS
1000;MYANMAR LETTER ;KA;KHA;GA;GHA;NGA;CA;CHA;JA;JHA;NYA;NNYA;TTA;TTHA;DDA;DDHA;NNA;TA;THA;DA
;DHA;NA;PA;PHA;BA;BHA;MA;YA;RA;LA;WA;SA;HA;LLA;A;SHAN A;I;II;U;UU;E;MON E;O;AU
102B;MYANMAR VOWEL SIGN ;TALL AA;AA;I;II;U;UU;E;AI;MON II;MON O;E ABOVE
1036;MYANMAR SIGN ;ANUSVARA;DOT BELOW;VISARGA;VIRAMA;ASAT
103B;MYANMAR CONSONANT SIGN MEDIAL ;YA;RA;WA;HA
103F;MYANMAR LETTER GREAT SA;
1040;MYANMAR DIGIT ;ZERO;ONE;TWO;THREE;FOUR;FIVE;SIX;SEVEN;EIGHT;NINE
104A;MYANMAR SIGN ;LITTLE SECTION;SECTION
104C;MYANMAR SYMBOL ;LOCATIVE;COMPLETED;AFOREMENTIONED;GENITIVE
1050;MYANMAR LETTER S;HA;SA
1052;MYANMAR LETTER VOCALIC ;R;RR;L;LL
1056;MYANMAR VOWEL SIGN VOCALIC ;R;RR;L;LL
105A;MYANMAR LETTER MON ;NGA;JHA;BBA;BBE
105E;MYANMAR CONSONANT SIGN MON MEDIAL ;NA;MA;LA
1061;MYANMAR ;LETTER SGAW KAREN SHA;VOWEL SIGN SGAW KAREN EU
1063;MYANMAR TONE MARK SGAW KAREN ;HATHI;KE PHO
1065;MYANMAR LETTER WESTERN PWO KAREN ;THA;PWA
1067;MYANMAR VOWEL SIGN WESTERN PWO KAREN ;EU;UE
1069;MYANMAR SIGN WESTERN PWO KAREN TONE-;1;2;3;4;5
106E;MYANMAR LETTER EASTERN PWO KAREN ;NNA;YWA;GHWA
1071;MYANMAR VOWEL SIGN ;GEBA KAREN I;KAYAH OE;KAYAH U;KAYAH EE
1075;MYANMAR LETTER SHAN ;KA;KHA;GA;CA;ZA;NYA;DA;NA;PHA;FA;BA;THA;HA
1082;MYANMAR CONSONANT SIGN SHAN MEDIAL WA;
1083;MYANMAR VOWEL SIGN SHAN ;AA;E;E ABOVE;FINAL Y
1087;MYANMAR SIGN SHAN TONE-;2;3;5;6
108B;MYANMAR SIGN SHAN COUNCIL ;TONE-2;TONE-3;EMPHATIC TONE
108E;MYANMAR ;LETTER RUMAI PALAUNG FA;SIGN RUMAI PALAUNG TONE-5
1090;MYANMAR SHAN DIGIT ;ZERO;ONE;TWO;THREE;FOUR;FIVE;SIX;SEVEN;EIGHT;NINE
109A;MYANMAR SIGN KHAMTI TONE-;1;3
109C;MYANMAR VOWEL SIGN AITON A;;I
109E;MYANMAR SYMBOL SHAN ;ONE;EXCLAMATION
10A0;GEORGIAN CAPITAL LETTER ;AN;BAN;GAN;DON;EN;VIN;ZEN;TAN;IN;KAN;LAS;MAN;NAR;ON;PAR;ZHAR;RAE
;SAN;TAR;UN;PHAR;KHAR;GHAN;QAR;SHIN;CHIN;CAN;JIL;CIL;CHAR;XAN;JHAN;HAE;HE;HIE;WE;HAR;HOE
10C7;GEORGIAN CAPITAL LETTER YN;
10CD;GEORGIAN CAPITAL LETTER AEN;
10D0;GEORGIAN LETTER ;AN;BAN;GAN;DON;EN;VIN;ZEN;TAN;IN;KAN;LAS;MAN;NAR;ON;PAR;ZHAR;RAE;SAN;TAR
;UN;PHAR;KHAR;GHAN;QAR;SHIN;CHIN;CAN;JIL;CIL;CHAR;XAN;JHAN;HAE;HE;HIE;WE;HAR;HOE;FI;YN;ELIFI
;TURNED GAN;AIN
10FB;;GEORGIAN PARAGRAPH SEPARATOR;MODIFIER LETTER GEORGIAN NAR
10FD;GEORGIAN LETTER ;AEN;HARD SIGN;LABIAL SIGN
1100;HANGUL CHOSEONG ;KIYEOK;SSANGKIYEOK;NIEUN;TIKEUT;SSANGTIKEUT;RIEUL;MIEUM;PIEUP;SSANGPIEUP
;SIOS;SSANGSIOS;IEUNG;CIEUC;SSANGCIEUC;CHIEUCH;KHIEUKH;THIEUTH;PHIEUPH;HIEUH;NIEUN-KIYEOK
;SSANGNIEUN;NIEUN-TIKEUT;NIEUN-PIEUP;TIKEUT-KIYEOK;RIEUL-NIEUN;SSANGRIEUL;RIEUL-HIEUH
;KAPYEOUNRIEUL;MIEUM-PIEUP;KAPYEOUNMIEUM
111E;HANGUL CHOSEONG PIEUP-;KIYEOK;NIEUN;TIKEUT;SIOS;SIOS-KIYEOK;SIOS-TIKEUT;SIOS-PIEUP
;SSANGSIOS;SIOS-CIEUC;CIEUC;CHIEUCH;THIEUTH;PHIEUPH
112B;HANGUL CHOSEONG KAPYEOUN;PIEUP;SSANGPIEUP
112D;HANGUL CHOSEONG SIOS-;KIYEOK;NIEUN;TIKEUT;RIEUL;MIEUM;PIEUP;PIEUP-KIYEOK;SSANGSIOS;IEUNG
;CIEUC;CHIEUCH;KHIEUKH;THIEUTH;PHIEUPH;HIEUH
113C;HANGUL CHOSEONG ;CHITUEUMSIOS;CHITUEUMSSANGSIOS;CEONGCHIEUMSIOS;CEONGCHIEUMSSANGSIOS
;PANSIOS;IEUNG-KIYEOK;IEUNG-TIKEUT;IEUNG-MIEUM;IEUNG-PIEUP;IEUNG-SIOS;IEUNG-PANSIOS;SSANGIEUNG
;IEUNG-CIEUC;IEUNG-CHIEUCH;IEUNG-THIEUTH;IEUNG-PHIEUPH;YESIEUNG;CIEUC-IEUNG;CHITUEUMCIEUC
;CHITUEUMSSANGCIEUC;CEONGCHIEUMCIEUC;CEONGCHIEUMSSANGCIEUC;CHIEUCH-KHIEUKH;CHIEUCH-HIEUH
;CHITUEUMCHIEUCH;CEONGCHIEUMCHIEUCH;PHIEUPH-PIEUP;KAPYEOUNPHIEUPH;SSANGHIEUH;YEORINHIEUH
;KIYEOK-TIKEUT;NIEUN-SIOS;NIEUN-CIEUC;NIEUN-HIEUH;TIKEUT-RIEUL;FILLER
1160;HANGUL JUNGSEONG ;FILLER;A;AE;YA;YAE;EO;E;YEO;YE;O;WA;WAE;OE;YO;U;WEO;WE;WI;YU;EU;YI;I;A-O
;A-U;YA-O;YA-YO;EO-O;EO-U;EO-EU;YEO-O;YEO-U;O-EO;O-E;O-YE;O-O;O-U;YO-YA;YO-YAE;YO-YEO;YO-O;YO-I
;U-A;U-AE;U-EO-EU;U-YE;U-U;YU-A;YU-EO;YU-E;YU-YEO;YU-YE;YU-U;YU-I;EU-U;EU-EU;YI-U;I-A;I-YA;I-O
;I-U;I-EU;I-ARAEA;ARAEA;ARAEA-EO;ARAEA-U;ARAEA-I;SSANGARAEA;A-EU;YA-U;YEO-YA;O-YA;O-YAE
11A8;HANGUL JONGSEONG ;KIYEOK;SSANGKIYEOK;KIYEOK-SIOS;NIEUN;NIEUN-CIEUC;NIEUN-HIEUH;TIKEUT;RIEUL
;RIEUL-KIYEOK;RIEUL-MIEUM;RIEUL-PIEUP;RIEUL-SIOS;RIEUL-THIEUTH;RIEUL-PHIEUPH;RIEUL-HIEUH;MIEUM
;PIEUP;PIEUP-SIOS;SIOS;SSANGSIOS;IEUNG;CIEUC;CHIEUCH;KHIEUKH;THIEUTH;PHIEUPH;HIEUH;KIYEOK-RIEUL
;KIYEOK-SIOS-KIYEOK;NIEUN-KIYEOK;NIEUN-TIKEUT;NIEUN-SIOS;NIEUN-PANSIOS;NIEUN-THIEUTH
;TIKEUT-KIYEOK;TIKEUT-RIEUL;RIEUL-KIYEOK-SIOS;RIEUL-NIEUN;RIEUL-TIKEUT;RIEUL-TIKEUT-HIEUH
;SSANGRIEUL
11D1;HANGUL JONGSEONG RIEUL-;MIEUM-KIYEOK;MIEUM-SIOS;PIEUP-SIOS;PIEUP-HIEUH;KAPYEOUNPIEUP
;SSANGSIOS;PANSIOS;KHIEUKH;YEORINHIEUH
11DA;HANGUL JONGSEONG MIEUM-;KIYEOK;RIEUL;PIEUP;SIOS;SSANGSIOS;PANSIOS;CHIEUCH;HIEUH
11E2;HANGUL JONGSEONG ;KAPYEOUNMIEUM;PIEUP-RIEUL;PIEUP-PHIEUPH;PIEUP-HIEUH;KAPYEOUNPIEUP
;SIOS-KIYEOK;SIOS-TIKEUT;SIOS-RIEUL;SIOS-PIEUP;PANSIOS;IEUNG-KIYEOK;IEUNG-SSANGKIYEOK;SSANGIEUNG
;IEUNG-KHIEUKH;YESIEUNG;YESIEUNG-SIOS;YESIEUNG-PANSIOS;PHIEUPH-PIEUP;KAPYEOUNPHIEUPH;HIEUH-NIEUN
;HIEUH-RIEUL;HIEUH-MIEUM;HIEUH-PIEUP;YEORINHIEUH;KIYEOK-NIEUN;KIYEOK-PIEUP;KIYEOK-CHIEUCH
;KIYEOK-KHIEUKH;KIYEOK-HIEUH;SSANGNIEUN
1200;ETHIOPIC SYLLABLE ;HA;HU;HI;HAA;HEE;HE;HO;HOA;LA;LU;LI;LAA;LEE;LE;LO;LWA;HHA;HHU;HHI;HHAA
;HHEE;HHE;HHO;HHWA;MA;MU;MI;MAA;MEE;ME;MO;MWA;SZA;SZU;SZI;SZAA;SZEE;SZE;SZO;SZWA;RA;RU;RI;RAA
;REE;RE;RO;RWA;SA;SU;SI;SAA;SEE;SE;SO;SWA;SHA;SHU;SHI;SHAA;SHEE;SHE;SHO;SHWA;QA;QU;QI;QAA;QEE;QE
;QO;QOA;QWA
124A;ETHIOPIC SYLLABLE QW;I;AA;EE;E
1250;ETHIOPIC SYLLABLE QH;A;U;I;AA;EE;E;O
1258;ETHIOPIC SYLLABLE QHWA;
125A;ETHIOPIC SYLLABLE QHW;I;AA;EE;E
1260;ETHIOPIC SYLLABLE ;BA;BU;BI;BAA;BEE;BE;BO;BWA;VA;VU;VI;VAA;VEE;VE;VO;VWA;TA;TU;TI;TAA;TEE
;TE;TO;TWA;CA;CU;CI;CAA;CEE;CE;CO;CWA;XA;XU;XI;XAA;XEE;XE;XO;XOA;XWA
128A;ETHIOPIC SYLLABLE XW;I;AA;EE;E
1290;ETHIOPIC SYLLABLE N;A;U;I;AA;EE;E;O;WA;YA;YU;YI;YAA;YEE;YE;YO;YWA
12A0;ETHIOPIC SYLLABLE GLOTTAL ;A;U;I;AA;EE;E;O;WA
12A8;ETHIOPIC SYLLABLE K;A;U;I;AA;EE;E;O;OA;WA
12B2;ETHIOPIC SYLLABLE KW;I;AA;EE;E
12B8;ETHIOPIC SYLLABLE KX;A;U;I;AA;EE;E;O
12C0;ETHIOPIC SYLLABLE KXWA;
12C2;ETHIOPIC SYLLABLE KXW;I;AA;EE;E
12C8;ETHIOPIC SYLLABLE W;A;U;I;AA;EE;E;O;OA
12D0;ETHIOPIC SYLLABLE PHARYNGEAL ;A;U;I;AA;EE;E;O
12D8;ETHIOPIC SYLLABLE ;ZA;ZU;ZI;ZAA;ZEE;ZE;ZO;ZWA;ZHA;ZHU;ZHI;ZHAA;ZHEE;ZHE;ZHO;ZHWA;YA;YU;YI
;YAA;YEE;YE;YO;YOA;DA;DU;DI;DAA;DEE;DE;DO;DWA;DDA;DDU;DDI;DDAA;DDEE;DDE;DDO;DDWA;JA;JU;JI;JAA
;JEE;JE;JO;JWA;GA;GU;GI;GAA;GEE;GE;GO;GOA;GWA
1312;ETHIOPIC SYLLABLE GW;I;AA;EE;E
1318;ETHIOPIC SYLLABLE ;GGA;GGU;GGI;GGAA;GGEE;GGE;GGO;GGWAA;THA;THU;THI;THAA;THEE;THE;THO;THWA
;CHA;CHU;CHI;CHAA;CHEE;CHE;CHO;CHWA;PHA;PHU;PHI;PHAA;PHEE;PHE;PHO;PHWA;TSA;TSU;TSI;TSAA;TSEE;TSE
;TSO;TSWA;TZA;TZU;TZI;TZAA;TZEE;TZE;TZO;TZOA;FA;FU;FI;FAA;FEE;FE;FO;FWA;PA;PU;PI;PAA;PEE;PE;PO
;PWA;RYA;MYA;FYA
135D;ETHIOPIC COMBINING ;GEMINATION AND VOWEL LENGTH MARK;VOWEL LENGTH MARK;GEMINATION MARK
1360;ETHIOPIC ;SECTION MARK;WORDSPACE;FULL STOP;COMMA;SEMICOLON;COLON;PREFACE COLON
;QUESTION MARK;PARAGRAPH SEPARATOR
1369;ETHIOPIC DIGIT ;ONE;TWO;THREE;FOUR;FIVE;SIX;SEVEN;EIGHT;NINE
1372;ETHIOPIC NUMBER ;TEN;TWENTY;THIRTY;FORTY;FIFTY;SIXTY;SEVENTY;EIGHTY;NINETY;HUNDRED
;TEN THOUSAND
1380;ETHIOPIC SYLLABLE ;SEBATBEIT MWA;MWI;MWEE;MWE;SEBATBEIT BWA;BWI;BWEE;BWE;SEBATBEIT FWA;FWI
;FWEE;FWE;SEBATBEIT PWA;PWI;PWEE;PWE
1390;ETHIOPIC TONAL MARK ;YIZET;DERET;RIKRIK;SHORT RIKRIK;DIFAT;KENAT;CHIRET;HIDET;DERET-HIDET
;KURT
13A0;CHEROKEE LETTER ;A;E;I;O;U;V;GA;KA;GE;GI;GO;GU;GV;HA;HE;HI;HO;HU;HV;LA;LE;LI;LO;LU;LV;MA;ME
;MI;MO;MU;NA;HNA;NAH;NE;NI;NO;NU;NV;QUA;QUE;QUI;QUO;QUU;QUV;SA;S;SE;SI;SO;SU;SV;DA;TA;DE;TE;DI
;TI;DO;DU;DV;DLA;TLA;TLE;TLI;TLO;TLU;TLV;TSA;TSE;TSI;TSO;TSU;TSV;WA;WE;WI;WO;WU;WV;YA;YE;YI;YO
;YU;YV;MV
13F8;CHEROKEE SMALL LETTER ;YE;YI;YO;YU;YV;MV
1400;CANADIAN SYLLABICS ;HYPHEN;E;AAI;I;II;O;OO;Y-CREE OO;CARRIER EE;CARRIER I;A;AA;WE
;WEST-CREE WE;WI;WEST-CREE WI;WII;WEST-CREE WII;WO;WEST-CREE WO;WOO;WEST-CREE WOO;NASKAPI WOO;WA
;WEST-CREE WA;WAA;WEST-CREE WAA;NASKAPI WAA;AI;Y-CREE W;GLOTTAL STOP
141F;CANADIAN SYLLABICS FINAL ;ACUTE;GRAVE;BOTTOM HALF RING;TOP HALF RING;RIGHT HALF RING;RING
;DOUBLE ACUTE;DOUBLE SHORT VERTICAL STROKES;MIDDLE DOT;SHORT HORIZONTAL STROKE;PLUS;DOWN TACK
142B;CANADIAN SYLLABICS ;EN;IN;ON;AN;PE;PAAI;PI;PII;PO;POO;Y-CREE POO;CARRIER HEE;CARRIER HI;PA
;PAA;PWE;WEST-CREE PWE;PWI;WEST-CREE PWI;PWII;WEST-CREE PWII;PWO;WEST-CREE PWO;PWOO
;WEST-CREE PWOO;PWA;WEST-CREE PWA;PWAA;WEST-CREE PWAA;Y-CREE PWAA;P;WEST-CREE P;CARRIER H;TE
;TAAI;TI;TII;TO;TOO;Y-CREE TOO;CARRIER DEE;CARRIER DI;TA;TAA;TWE;WEST-CREE TWE;TWI;WEST-CREE TWI
;TWII;WEST-CREE TWII;TWO;WEST-CREE TWO;TWOO;WEST-CREE TWOO;TWA;WEST-CREE TWA;TWAA;WEST-CREE TWAA
;NASKAPI TWAA;T;TTE;TTI;TTO;TTA;KE;KAAI;KI;KII;KO;KOO;Y-CREE KOO;KA;KAA;KWE;WEST-CREE KWE;KWI
;WEST-CREE KWI;KWII;WEST-CREE KWII;KWO;WEST-CREE KWO;KWOO;WEST-CREE KWOO;KWA;WEST-CREE KWA;KWAA
;WEST-CREE KWAA;NASKAPI KWAA;K;KW;SOUTH-SLAVEY KEH;SOUTH-SLAVEY KIH;SOUTH-SLAVEY KOH
;SOUTH-SLAVEY KAH;CE;CAAI;CI;CII;CO;COO;Y-CREE COO;CA;CAA;CWE;WEST-CREE CWE;CWI;WEST-CREE CWI
;CWII;WEST-CREE CWII;CWO;WEST-CREE CWO;CWOO;WEST-CREE CWOO;CWA;WEST-CREE CWA;CWAA;WEST-CREE CWAA
;NASKAPI CWAA;C;SAYISI TH;ME;MAAI;MI;MII;MO;MOO;Y-CREE MOO;MA;MAA;MWE;WEST-CREE MWE;MWI
;WEST-CREE MWI;MWII;WEST-CREE MWII;MWO;WEST-CREE MWO;MWOO;WEST-CREE MWOO;MWA;WEST-CREE MWA;MWAA
;WEST-CREE MWAA;NASKAPI MWAA;M;WEST-CREE M;MH;ATHAPASCAN M;SAYISI M;NE;NAAI;NI;NII;NO;NOO
;Y-CREE NOO;NA;NAA;NWE;WEST-CREE NWE;NWA;WEST-CREE NWA;NWAA;WEST-CREE NWAA;NASKAPI NWAA;N
;CARRIER NG;NH;LE;LAAI;LI;LII;LO;LOO;Y-CREE LOO;LA;LAA;LWE;WEST-CREE LWE;LWI;WEST-CREE LWI;LWII
;WEST-CREE LWII;LWO;WEST-CREE LWO;LWOO;WEST-CREE LWOO;LWA;WEST-CREE LWA;LWAA;WEST-CREE LWAA;L
;WEST-CREE L;MEDIAL L;SE;SAAI;SI;SII;SO;SOO;Y-CREE SOO;SA;SAA;SWE;WEST-CREE SWE;SWI
;WEST-CREE SWI;SWII;WEST-CREE SWII;SWO;WEST-CREE SWO;SWOO;WEST-CREE SWOO;SWA;WEST-CREE SWA;SWAA
;WEST-CREE SWAA;NASKAPI SWAA;S;ATHAPASCAN S;SW;BLACKFOOT S;MOOSE-CREE SK;NASKAPI SKW;NASKAPI S-W
;NASKAPI SPWA;NASKAPI STWA;NASKAPI SKWA;NASKAPI SCWA;SHE;SHI;SHII;SHO;SHOO;SHA;SHAA;SHWE
;WEST-CREE SHWE;SHWI;WEST-CREE SHWI;SHWII;WEST-CREE SHWII;SHWO;WEST-CREE SHWO;SHWOO
;WEST-CREE SHWOO;SHWA;WEST-CREE SHWA;SHWAA;WEST-CREE SHWAA;SH;YE;YAAI;YI;YII;YO;YOO;Y-CREE YOO
;YA;YAA;YWE;WEST-CREE YWE;YWI;WEST-CREE YWI;YWII;WEST-CREE YWII;YWO;WEST-CREE YWO;YWOO
;WEST-CREE YWOO;YWA;WEST-CREE YWA;YWAA;WEST-CREE YWAA;NASKAPI YWAA;Y;BIBLE-CREE Y;WEST-CREE Y
;SAYISI YI;RE;R-CREE RE;WEST-CREE LE;RAAI;RI;RII;RO;ROO;WEST-CREE LO;RA;RAA;WEST-CREE LA;RWAA
;WEST-CREE RWAA;R;WEST-CREE R;MEDIAL R;FE;FAAI;FI;FII;FO;FOO;FA;FAA;FWAA;WEST-CREE FWAA;F;THE
;N-CREE THE;THI;N-CREE THI;THII;N-CREE THII;THO;THOO;THA;THAA;THWAA;WEST-CREE THWAA;TH;TTHE;TTHI
;TTHO;TTHA;TTH;TYE;TYI;TYO;TYA
1574;CANADIAN SYLLABICS NUNAVIK H;E;I;II;O;OO;A;AA;
157C;CANADIAN SYLLABICS ;NUNAVUT H;HK;QAAI;QI;QII;QO;QOO;QA;QAA;Q;TLHE;TLHI;TLHO;TLHA
;WEST-CREE RE;WEST-CREE RI;WEST-CREE RO;WEST-CREE RA;NGAAI;NGI;NGII;NGO;NGOO;NGA;NGAA;NG;NNG
1597;CANADIAN SYLLABICS SAYISI SH;E;I;O;A
159B;CANADIAN SYLLABICS WOODS-CREE TH;E;I;O;A;
15A0;CANADIAN SYLLABICS LH;I;II;O;OO;A;AA;
15A7;CANADIAN SYLLABICS TH-CREE TH;E;I;II;O;OO;A;AA;
15AF;CANADIAN SYLLABICS AIVILIK B;
15B0;CANADIAN SYLLABICS BLACKFOOT ;E;I;O;A;WE;WI;WO;WA;NE;NI;NO;NA;KE;KI;KO;KA
15C0;CANADIAN SYLLABICS SAYISI H;E;I;O;A
15C4;CANADIAN SYLLABICS CARRIER ;GHU;GHO;GHE;GHEE;GHI;GHA;RU;RO;RE;REE;RI;RA;WU;WO;WE;WEE;WI;WA
;HWU;HWO;HWE;HWEE;HWI;HWA;THU;THO;THE;THEE;THI;THA;TTU;TTO;TTE;TTEE;TTI;TTA;PU;PO;PE;PEE;PI;PA;P
;GU;GO;GE;GEE;GI;GA;KHU;KHO;KHE;KHEE;KHI;KHA;KKU;KKO;KKE;KKEE;KKI;KKA;KK;NU;NO;NE;NEE;NI;NA;MU
;MO;ME;MEE;MI;MA;YU;YO;YE;YEE;YI;YA;JU
1615;CANADIAN SYLLABICS ;SAYISI JU;CARRIER JO;CARRIER JE;CARRIER JEE;CARRIER JI;SAYISI JI
161B;CANADIAN SYLLABICS CARRIER ;JA;JJU;JJO;JJE;JJEE;JJI;JJA;LU;LO;LE;LEE;LI;LA;DLU;DLO;DLE;DLEE
;DLI;DLA;LHU;LHO;LHE;LHEE;LHI;LHA;TLHU;TLHO;TLHE;TLHEE;TLHI;TLHA;TLU;TLO;TLE;TLEE;TLI;TLA;ZU;ZO
;ZE;ZEE;ZI;ZA;Z;INITIAL Z;DZU;DZO;DZE;DZEE;DZI;DZA;SU;SO;SE;SEE;SI;SA;SHU;SHO;SHE;SHEE;SHI;SHA
;SH;TSU;TSO;TSE;TSEE;TSI;TSA;CHU;CHO;CHE;CHEE;CHI;CHA;TTSU;TTSO;TTSE;TTSEE;TTSI;TTSA
166D;CANADIAN SYLLABICS ;CHI SIGN;FULL STOP;QAI;NGAI;NNGI;NNGII;NNGO;NNGOO;NNGA;NNGAA
1677;CANADIAN SYLLABICS WOODS-CREE ;THWEE;THWI;THWII;THWO;THWOO;THWA;THWAA;FINAL TH
167F;;CANADIAN SYLLABICS BLACKFOOT W;OGHAM SPACE MARK
1681;OGHAM LETTER ;BEITH;LUIS;FEARN;SAIL;NION;UATH;DAIR;TINNE;COLL;CEIRT;MUIN;GORT;NGEADAL
;STRAIF;RUIS;AILM;ONN;UR;EADHADH;IODHADH;EABHADH;OR;UILLEANN;IFIN;EAMHANCHOLL;PEITH
169B;OGHAM ;FEATHER MARK;REVERSED FEATHER MARK
16A0;RUNIC LETTER ;FEHU FEOH FE F;V;URUZ UR U;YR;Y;W;THURISAZ THURS THORN;ETH;ANSUZ A;OS O;AC A
;AESC;LONG-BRANCH-OSS O;SHORT-TWIG-OSS O;O;OE;ON;RAIDO RAD REID R;KAUNA;CEN;KAUN K;G;ENG
;GEBO GYFU G;GAR;WUNJO WYNN W;HAGLAZ H;HAEGL H;LONG-BRANCH-HAGALL H;SHORT-TWIG-HAGALL H
;NAUDIZ NYD NAUD N;SHORT-TWIG-NAUD N;DOTTED-N;ISAZ IS ISS I;E;JERAN J;GER;LONG-BRANCH-AR AE
;SHORT-TWIG-AR A;IWAZ EOH;PERTHO PEORTH P;ALGIZ EOLHX;SOWILO S;SIGEL LONG-BRANCH-SOL S
;SHORT-TWIG-SOL S;C;Z;TIWAZ TIR TYR T;SHORT-TWIG-TYR T;D;BERKANAN BEORC BJARKAN B
;SHORT-TWIG-BJARKAN B;DOTTED-P;OPEN-P;EHWAZ EH E;MANNAZ MAN M;LONG-BRANCH-MADR M
;SHORT-TWIG-MADR M;LAUKAZ LAGU LOGR L;DOTTED-L;INGWAZ;ING;DAGAZ DAEG D;OTHALAN ETHEL O;EAR;IOR
;CWEORTH;CALC;CEALC;STAN;LONG-BRANCH-YR;SHORT-TWIG-YR;ICELANDIC-YR;Q;X
16EB;RUNIC ;SINGLE PUNCTUATION;MULTIPLE PUNCTUATION;CROSS PUNCTUATION;ARLAUG SYMBOL
;TVIMADUR SYMBOL;BELGTHOR SYMBOL
16F1;RUNIC LETTER ;K;SH;OO
16F4;RUNIC LETTER FRANKS CASKET ;OS;IS;EH;AC;AESC
1700;TAGALOG LETTER ;A;I;U;KA;GA;NGA;TA;DA;NA;PA;BA;MA;YA;RA;LA;WA;SA;HA
1712;TAGALOG VOWEL SIGN ;I;U
1714;TAGALOG SIGN ;VIRAMA;PAMUDPOD
171F;TAGALOG LETTER ARCHAIC RA;
1720;HANUNOO LETTER ;A;I;U;KA;GA;NGA;TA;DA;NA;PA;BA;MA;YA;RA;LA;WA;SA;HA
1732;HANUNOO ;VOWEL SIGN I;VOWEL SIGN U;SIGN PAMUDPOD
1735;PHILIPPINE ;SINGLE PUNCTUATION;DOUBLE PUNCTUATION
1740;BUHID LETTER ;A;I;U;KA;GA;NGA;TA;DA;NA;PA;BA;MA;YA;RA;LA;WA;SA;HA
1752;BUHID VOWEL SIGN ;I;U
1760;TAGBANWA LETTER ;A;I;U;KA;GA;NGA;TA;DA;NA;PA;BA;MA;YA
176E;TAGBANWA LETTER ;LA;WA;SA
1772;TAGBANWA VOWEL SIGN ;I;U
1780;KHMER LETTER ;KA;KHA;KO;KHO;NGO;CA;CHA;CO;CHO;NYO;DA;TTHA;DO;TTHO;NNO;TA;THA;TO;THO;NO;BA
;PHA;PO;PHO;MO;YO;RO;LO;VO;SHA;SSO;SA;HA;LA;QA
17A3;KHMER INDEPENDENT VOWEL ;QAQ;QAA;QI;QII;QU;QUK;QUU;QUUV;RY;RYY;LY;LYY;QE;QAI;QOO TYPE ONE
;QOO TYPE TWO;QAU
17B4;KHMER VOWEL INHERENT A;Q;A
17B6;KHMER VOWEL SIGN ;AA;I;II;Y;YY;U;UU;UA;OE;YA;IE;E;AE;AI;OO;AU
17C6;KHMER SIGN ;NIKAHIT;REAHMUK;YUUKALEAPINTU;MUUSIKATOAN;TRIISAP;BANTOC;ROBAT;TOANDAKHIAT
;KAKABAT;AHSDA;SAMYOK SANNYA;VIRIAM;COENG;BATHAMASAT;KHAN;BARIYOOSAN;CAMNUC PII KUUH;LEK TOO
;BEYYAL;PHNAEK MUAN;KOOMUUT
17DB;KHMER ;CURRENCY SYMBOL RIEL;SIGN AVAKRAHASANYA;SIGN ATTHACAN
17E0;KHMER DIGIT ;ZERO;ONE;TWO;THREE;FOUR;FIVE;SIX;SEVEN;EIGHT;NINE
17F0;KHMER SYMBOL LEK ATTAK ;SON;MUOY;PII;BEI;BUON;PRAM;PRAM-MUOY;PRAM-PII;PRAM-BEI;PRAM-BUON
1800;MONGOLIAN ;BIRGA;ELLIPSIS;COMMA;FULL STOP;COLON;FOUR DOTS;TODO SOFT HYPHEN
;SIBE SYLLABLE BOUNDARY MARKER;MANCHU COMMA;MANCHU FULL STOP;NIRUGU
180B;MONGOLIAN FREE VARIATION SELECTOR ;ONE;TWO;THREE
180E;MONGOLIAN ;VOWEL SEPARATOR;FREE VARIATION SELECTOR FOUR
1810;MONGOLIAN DIGIT ;ZERO;ONE;TWO;THREE;FOUR;FIVE;SIX;SEVEN;EIGHT;NINE
1820;MONGOLIAN LETTER ;A;E;I;O;U;OE;UE;EE;NA;ANG;BA;PA;QA;GA;MA;LA;SA;SHA;TA;DA;CHA;JA;YA;RA;WA
;FA;KA;KHA;TSA;ZA;HAA;ZRA;LHA;ZHI;CHI
1843;MONGOLIAN LETTER TODO ;LONG VOWEL SIGN;E;I;O;U;OE;UE;ANG;BA;PA;QA;GA;MA;TA;DA;CHA;JA;TSA;YA
;WA;KA;GAA;HAA;JIA;NIA;DZA
185D;MONGOLIAN LETTER SIBE ;E;I;IY;UE;U;ANG;KA;GA;HA;PA;SHA;TA;DA;JA;FA;GAA;HAA;TSA;ZA;RAA;CHA
;ZHA
1873;MONGOLIAN LETTER MANCHU ;I;KA;RA;FA;ZHA
1878;MONGOLIAN LETTER CHA WITH TWO DOTS;
1880;MONGOLIAN LETTER ALI GALI ;ANUSVARA ONE;VISARGA ONE;DAMARU;UBADAMA;INVERTED UBADAMA;BALUDA
;THREE BALUDA;A;I;KA;NGA;CA;TTA;TTHA;DDA;NNA;TA;DA;PA;PHA;SSA;ZHA;ZA;AH
1898;MONGOLIAN LETTER TODO ALI GALI ;TA;ZHA
189A;MONGOLIAN LETTER MANCHU ALI GALI ;GHA;NGA;CA;JHA;TTA;DDHA;TA;DHA;SSA;CYA;ZHA;ZA
18A6;MONGOLIAN LETTER ;ALI GALI HALF U;ALI GALI HALF YA;MANCHU ALI GALI BHA;ALI GALI DAGALGA
;MANCHU ALI GALI LHA
18B0;CANADIAN SYLLABICS ;OY;AY;AAY;WAY;POY;PAY;PWOY;TAY;KAY;KWAY;MAY;NOY;NAY;LAY;SOY;SAY;SHOY
;SHAY;SHWOY;YOY;YAY;RAY;NWI;OJIBWAY NWI;NWII;OJIBWAY NWII;NWO;OJIBWAY NWO;NWOO;OJIBWAY NWOO;RWEE
;RWI;RWII;RWO;RWOO;RWA
18D4;CANADIAN SYLLABICS OJIBWAY ;P;T;K;C;M;N;S;SH
18DC;CANADIAN SYLLABICS ;EASTERN W;WESTERN W;FINAL SMALL RING;FINAL RAISED DOT;R-CREE RWE
;WEST-CREE LOO;WEST-CREE LAA;THWE;THWA;TTHWE;TTHOO;TTHAA;TLHWE;TLHOO;SAYISI SHWE;SAYISI SHOO
;SAYISI HOO;CARRIER GWU;CARRIER DENE GEE;CARRIER GAA;CARRIER GWA;SAYISI JUU;CARRIER JWA
;BEAVER DENE L;BEAVER DENE R;CARRIER DENTAL S
1900;LIMBU VOWEL-CARRIER LETTER;
1901;LIMBU LETTER ;KA;KHA;GA;GHA;NGA;CA;CHA;JA;JHA;YAN;TA;THA;DA;DHA;NA;PA;PHA;BA;BHA;MA;YA;RA
;LA;WA;SHA;SSA;SA;HA;GYAN;TRA
1920;LIMBU VOWEL SIGN ;A;I;U;EE;AI;OO;AU;E;O
1929;LIMBU SUBJOINED LETTER ;YA;RA;WA
1930;LIMBU SMALL LETTER ;KA;NGA;ANUSVARA;TA;NA;PA;MA;RA;LA
1939;LIMBU SIGN ;MUKPHRENG;KEMPHRENG;SA-I
1940;LIMBU SIGN LOO;
1944;LIMBU ;EXCLAMATION MARK;QUESTION MARK
1946;LIMBU DIGIT ;ZERO;ONE;TWO;THREE;FOUR;FIVE;SIX;SEVEN;EIGHT;NINE
1950;TAI LE LETTER ;KA;XA;NGA;TSA;SA;YA;TA;THA;LA;PA;PHA;MA;FA;VA;HA;QA;KHA;TSHA;NA;A;I;EE;EH;U
;OO;O;UE;E;AUE;AI
1970;TAI LE LETTER TONE-;2;3;4;5;6
1980;NEW TAI LUE LETTER ;HIGH QA;LOW QA;HIGH KA;HIGH XA;HIGH NGA;LOW KA;LOW XA;LOW NGA;HIGH TSA
;HIGH SA;HIGH YA;LOW TSA;LOW SA;LOW YA;HIGH TA;HIGH THA;HIGH NA;LOW TA;LOW THA;LOW NA;HIGH PA
;HIGH PHA;HIGH MA;LOW PA;LOW PHA;LOW MA;HIGH FA;HIGH VA;HIGH LA;LOW FA;LOW VA;LOW LA;HIGH HA
;HIGH DA;HIGH BA;LOW HA;LOW DA;LOW BA;HIGH KVA;HIGH XVA;LOW KVA;LOW XVA;HIGH SUA;LOW SUA
19B0;NEW TAI LUE VOWEL SIGN ;VOWEL SHORTENER;AA;II;U;UU;E;AE;O;OA;UE;AY;AAY;UY;OY;OAY;UEY;IY
19C1;NEW TAI LUE LETTER FINAL ;V;NG;N;M;K;D;B
19C8;NEW TAI LUE TONE MARK-;1;2
19D0;NEW TAI LUE DIGIT ;ZERO;ONE;TWO;THREE;FOUR;FIVE;SIX;SEVEN;EIGHT;NINE
19DA;NEW TAI LUE THAM DIGIT ONE;
19DE;NEW TAI LUE SIGN LAE;;V
19E0;KHMER SYMBOL ;PATHAMASAT;MUOY KOET;PII KOET;BEI KOET;BUON KOET;PRAM KOET;PRAM-MUOY KOET
;PRAM-PII KOET;PRAM-BEI KOET;PRAM-BUON KOET;DAP KOET;DAP-MUOY KOET;DAP-PII KOET;DAP-BEI KOET
;DAP-BUON KOET;DAP-PRAM KOET;TUTEYASAT;MUOY ROC;PII ROC;BEI ROC;BUON ROC;PRAM ROC;PRAM-MUOY ROC
;PRAM-PII ROC;PRAM-BEI ROC;PRAM-BUON ROC;DAP ROC;DAP-MUOY ROC;DAP-PII ROC;DAP-BEI ROC
;DAP-BUON ROC;DAP-PRAM ROC
1A00;BUGINESE LETTER ;KA;GA;NGA;NGKA;PA;BA;MA;MPA;TA;DA;NA;NRA;CA;JA;NYA;NYCA;YA;RA;LA;VA;SA;A
;HA
1A17;BUGINESE VOWEL SIGN ;I;U;E;O;AE
1A1E;BUGINESE ;PALLAWA;END OF SECTION
1A20;TAI THAM LETTER ;HIGH KA;HIGH KHA;HIGH KXA;LOW KA;LOW KXA;LOW KHA;NGA;HIGH CA;HIGH CHA
;LOW CA;LOW SA;LOW CHA;NYA;RATA;HIGH RATHA;DA;LOW RATHA;RANA;HIGH TA;HIGH THA;LOW TA;LOW THA;NA
;BA;HIGH PA;HIGH PHA;HIGH FA;LOW PA;LOW FA;LOW PHA;MA;LOW YA;HIGH YA;RA;RUE;LA;LUE;WA;HIGH SHA
;HIGH SSA;HIGH SA;HIGH HA;LLA;A;LOW HA;I;II;U;UU;EE;OO;LAE;GREAT SA
1A55;TAI THAM CONSONANT SIGN ;MEDIAL RA;MEDIAL LA;LA TANG LAI
1A58;TAI THAM SIGN MAI KANG LAI;
1A59;TAI THAM CONSONANT SIGN ;FINAL NGA;LOW PA;HIGH RATHA OR LOW PA;MA;BA;SA
1A60;TAI THAM SIGN SAKOT;
1A61;TAI THAM VOWEL SIGN ;A;MAI SAT;AA;TALL AA;I;II;UE;UUE;U;UU;O;OA BELOW;OY;E;AE;OO;AI;THAM AI
;OA ABOVE
1A74;TAI THAM SIGN ;MAI KANG;TONE-1;TONE-2;KHUEN TONE-3;KHUEN TONE-4;KHUEN TONE-5;RA HAAM
;MAI SAM;KHUEN-LUE KARAN
1A7F;TAI THAM COMBINING CRYPTOGRAMMIC DOT;
1A80;TAI THAM HORA DIGIT ;ZERO;ONE;TWO;THREE;FOUR;FIVE;SIX;SEVEN;EIGHT;NINE
1A90;TAI THAM THAM DIGIT ;ZERO;ONE;TWO;THREE;FOUR;FIVE;SIX;SEVEN;EIGHT;NINE
1AA0;TAI THAM SIGN ;WIANG;WIANGWAAK;SAWAN;KEOW;HOY;DOKMAI;REVERSED ROTATED RANA;MAI YAMOK;KAAN
;KAANKUU;SATKAAN;SATKAANKUU;HANG;CAANG
1AB0;COMBINING ;DOUBLED CIRCUMFLEX ACCENT;DIAERESIS-RING;INFINITY;DOWNWARDS ARROW;TRIPLE DOT
;X-X BELOW;WIGGLY LINE BELOW;OPEN MARK BELOW;DOUBLE OPEN MARK BELOW
;LIGHT CENTRALIZATION STROKE BELOW;STRONG CENTRALIZATION STROKE BELOW;PARENTHESES ABOVE
;DOUBLE PARENTHESES ABOVE;PARENTHESES BELOW;PARENTHESES OVERLAY;LATIN SMALL LETTER W BELOW
;LATIN SMALL LETTER TURNED W BELOW;LEFT PARENTHESIS ABOVE LEFT;RIGHT PARENTHESIS ABOVE RIGHT
;LEFT PARENTHESIS BELOW LEFT;RIGHT PARENTHESIS BELOW RIGHT;SQUARE BRACKETS ABOVE
;NUMBER SIGN ABOVE;INVERTED DOUBLE ARCH ABOVE;PLUS SIGN ABOVE;DOUBLE PLUS SIGN ABOVE
;DOUBLE PLUS SIGN BELOW;TRIPLE ACUTE ACCENT
1ACC;COMBINING LATIN SMALL LETTER INSULAR ;G;R;T
1B00;BALINESE SIGN ;ULU RICEM;ULU CANDRA;CECEK;SURANG;BISAH
1B05;BALINESE LETTER ;AKARA;AKARA TEDUNG;IKARA;IKARA TEDUNG;UKARA;UKARA TEDUNG;RA REPA
;RA REPA TEDUNG;LA LENGA;LA LENGA TEDUNG;EKARA;AIKARA;OKARA;OKARA TEDUNG;KA;KA MAHAPRANA;GA
;GA GORA;NGA;CA;CA LACA;JA;JA JERA;NYA;TA LATIK;TA MURDA MAHAPRANA;DA MURDA ALPAPRANA
;DA MURDA MAHAPRANA;NA RAMBAT;TA;TA TAWA;DA;DA MADU;NA;PA;PA KAPAL;BA;BA KEMBANG;MA;YA;RA;LA;WA
;SA SAGA;SA SAPA;SA;HA
1B34;BALINESE SIGN REREKAN;
1B35;BALINESE VOWEL SIGN ;TEDUNG;ULU;ULU SARI;SUKU;SUKU ILUT;RA REPA;RA REPA TEDUNG;LA LENGA
;LA LENGA TEDUNG;TALING;TALING REPA;TALING TEDUNG;TALING REPA TEDUNG;PEPET;PEPET TEDUNG
1B44;BALINESE ADEG ADEG;
1B45;BALINESE LETTER ;KAF SASAK;KHOT SASAK;TZIR SASAK;EF SASAK;VE SASAK;ZAL SASAK;ASYURA SASAK
;ARCHAIC JNYA
1B50;BALINESE DIGIT ;ZERO;ONE;TWO;THREE;FOUR;FIVE;SIX;SEVEN;EIGHT;NINE
1B5A;BALINESE ;PANTI;PAMADA;WINDU;CARIK PAMUNGKAH;CARIK SIKI;CARIK PAREREN;PAMENENG
1B61;BALINESE MUSICAL SYMBOL D;ONG;ENG;UNG;ANG;ANG SURANG;ING;AENG;EUNG;AING;ANG GEDE
1B6B;BALINESE MUSICAL SYMBOL COMBINING ;TEGEH;ENDEP;KEMPUL;KEMPLI;JEGOGAN;KEMPUL WITH JEGOGAN
;KEMPLI WITH JEGOGAN;BENDE;GONG
1B74;BALINESE MUSICAL SYMBOL RIGHT-HAND ;OPEN DUG;OPEN DAG;CLOSED TUK;CLOSED TAK
1B78;BALINESE MUSICAL SYMBOL LEFT-HAND ;OPEN PANG;OPEN PUNG;CLOSED PLAK;CLOSED PLUK;OPEN PING
1B7D;BALINESE PA;NTI LANTANG;MADA LANTANG
1B80;SUNDANESE SIGN PAN;YECEK;GLAYAR;GWISAD
1B83;SUNDANESE LETTER ;A;I;U;AE;O;E;EU;KA;QA;GA;NGA;CA;JA;ZA;NYA;TA;DA;NA;PA;FA;VA;BA;MA;YA;RA
;LA;WA;SA;XA;HA
1BA1;SUNDANESE CONSONANT SIGN PA;MINGKAL;NYAKRA;NYIKU
1BA4;SUNDANESE VOWEL SIGN PA;NGHULU;NYUKU;NAELAENG;NOLONG;MEPET;NEULEUNG
1BAA;SUNDANESE SIGN ;PAMAAEH;VIRAMA
1BAC;SUNDANESE CONSONANT SIGN PASANGAN ;MA;WA
1BAE;SUNDANESE LETTER ;KHA;SYA
1BB0;SUNDANESE DIGIT ;ZERO;ONE;TWO;THREE;FOUR;FIVE;SIX;SEVEN;EIGHT;NINE
1BBA;SUNDANESE AVAGRAHA;
1BBB;SUNDANESE LETTER ;REU;LEU;BHA;FINAL K;FINAL M
1BC0;BATAK LETTER ;A;SIMALUNGUN A;HA;SIMALUNGUN HA;MANDAILING HA;BA;KARO BA;PA;SIMALUNGUN PA;NA
;MANDAILING NA;WA;SIMALUNGUN WA;PAKPAK WA;GA;SIMALUNGUN GA;JA;DA;RA;SIMALUNGUN RA;MA
;SIMALUNGUN MA;SOUTHERN TA;NORTHERN TA;SA;SIMALUNGUN SA;MANDAILING SA;YA;SIMALUNGUN YA;NGA;LA
;SIMALUNGUN LA;NYA;CA;NDA;MBA;I;U
1BE6;BATAK SIGN TOMPI;
1BE7;BATAK VOWEL SIGN ;E;PAKPAK E;EE;I;KARO I;O;KARO O;U;U FOR SIMALUNGUN SA
1BF0;BATAK CONSONANT SIGN ;NG;H
1BF2;BATAK PAN;GOLAT;ONGONAN
1BFC;BATAK SYMBOL BINDU ;NA METEK;PINARBORAS;JUDUL;PANGOLAT
1C00;LEPCHA LETTER ;KA;KLA;KHA;GA;GLA;NGA;CA;CHA;JA;NYA;TA;THA;DA;NA;PA;PLA;PHA;FA;FLA;BA;BLA;MA
;MLA;TSA;TSHA;DZA;YA;RA;LA;HA;HLA;VA;SA;SHA;WA;A
1C24;LEPCHA SUBJOINED LETTER ;YA;RA
1C26;LEPCHA VOWEL SIGN ;AA;I;O;OO;U;UU;E
1C2D;LEPCHA CONSONANT SIGN ;K;M;L;N;P;R;T;NYIN-DO;KANG
1C36;LEPCHA SIGN ;RAN;NUKTA
1C3B;LEPCHA PUNCTUATION ;TA-ROL;NYET THYOOM TA-ROL;CER-WA;TSHOOK CER-WA;TSHOOK
1C40;LEPCHA DIGIT ;ZERO;ONE;TWO;THREE;FOUR;FIVE;SIX;SEVEN;EIGHT;NINE
1C4D;LEPCHA LETTER ;TTA;TTHA;DDA
1C50;OL CHIKI DIGIT ;ZERO;ONE;TWO;THREE;FOUR;FIVE;SIX;SEVEN;EIGHT;NINE
1C5A;OL CHIKI LETTER ;LA;AT;AG;ANG;AL;LAA;AAK;AAJ;AAM;AAW;LI;IS;IH;INY;IR;LU;UC;UD;UNN;UY;LE;EP
;EDD;EN;ERR;LO;OTT;OB;OV;OH
1C78;OL CHIKI ;MU TTUDDAG;GAAHLAA TTUDDAAG;MU-GAAHLAA TTUDDAAG;RELAA;PHAARKAA;AHAD
;PUNCTUATION MUCAAD;PUNCTUATION DOUBLE MUCAAD
1C80;CYRILLIC SMALL LETTER ;ROUNDED VE;LONG-LEGGED DE;NARROW O;WIDE ES;TALL TE;THREE-LEGGED TE
;TALL HARD SIGN;TALL YAT;UNBLENDED UK
1C90;GEORGIAN MTAVRULI CAPITAL LETTER ;AN;BAN;GAN;DON;EN;VIN;ZEN;TAN;IN;KAN;LAS;MAN;NAR;ON;PAR
;ZHAR;RAE;SAN;TAR;UN;PHAR;KHAR;GHAN;QAR;SHIN;CHIN;CAN;JIL;CIL;CHAR;XAN;JHAN;HAE;HE;HIE;WE;HAR
;HOE;FI;YN;ELIFI;TURNED GAN;AIN
1CBD;GEORGIAN MTAVRULI CAPITAL LETTER ;AEN;HARD SIGN;LABIAL SIGN
1CC0;SUNDANESE PUNCTUATION BINDU ;SURYA;PANGLONG;PURNAMA;CAKRA;LEU SATANGA;KA SATANGA;DA SATANGA
;BA SATANGA
1CD0;VEDIC TONE ;KARSHANA;SHARA;PRENKHA
1CD3;VEDIC SIGN ;NIHSHVASA;YAJURVEDIC MIDLINE SVARITA
1CD5;VEDIC TONE YAJURVEDIC ;AGGRAVATED INDEPENDENT SVARITA;INDEPENDENT SVARITA
;KATHAKA INDEPENDENT SVARITA
1CD8;VEDIC TONE ;CANDRA BELOW;YAJURVEDIC KATHAKA INDEPENDENT SVARITA SCHROEDER;DOUBLE SVARITA
;TRIPLE SVARITA;KATHAKA ANUDATTA;DOT BELOW;TWO DOTS BELOW;THREE DOTS BELOW
;RIGVEDIC KASHMIRI INDEPENDENT SVARITA;ATHARVAVEDIC INDEPENDENT SVARITA
1CE2;VEDIC SIGN ;VISARGA SVARITA;VISARGA UDATTA;REVERSED VISARGA UDATTA;VISARGA ANUDATTA
;REVERSED VISARGA ANUDATTA;VISARGA UDATTA WITH TAIL;VISARGA ANUDATTA WITH TAIL
;ANUSVARA ANTARGOMUKHA;ANUSVARA BAHIRGOMUKHA;ANUSVARA VAMAGOMUKHA;ANUSVARA VAMAGOMUKHA WITH TAIL
;TIRYAK;HEXIFORM LONG ANUSVARA;LONG ANUSVARA;RTHANG LONG ANUSVARA;ANUSVARA UBHAYATO MUKHA
;ARDHAVISARGA;ROTATED ARDHAVISARGA
1CF4;VEDIC ;TONE CANDRA ABOVE;SIGN JIHVAMULIYA;SIGN UPADHMANIYA;SIGN ATIKRAMA;TONE RING ABOVE
;TONE DOUBLE RING ABOVE;SIGN DOUBLE ANUSVARA ANTARGOMUKHA
1D00;LATIN LETTER SMALL CAPITAL A;;E
1D02;LATIN SMALL LETTER TURNED AE;
1D03;LATIN LETTER SMALL CAPITAL ;BARRED B;C;D;ETH;E
1D08;LATIN SMALL LETTER TURNED ;OPEN E;I
1D0A;LATIN LETTER SMALL CAPITAL ;J;K;L WITH STROKE;M;REVERSED N;O;OPEN O
1D11;LATIN SMALL LETTER SIDEWAYS O;;PEN O; WITH STROKE
1D14;LATIN ;SMALL LETTER TURNED OE;LETTER SMALL CAPITAL OU;SMALL LETTER TOP HALF O
;SMALL LETTER BOTTOM HALF O
1D18;LATIN LETTER SMALL CAPITAL ;P;REVERSED R;TURNED R;T;U
1D1D;LATIN SMALL LETTER SIDEWAYS ;U;DIAERESIZED U;TURNED M
1D20;LATIN LETTER SMALL CAPITAL ;V;W;Z;EZH
1D24;LATIN LETTER ;VOICED LARYNGEAL SPIRANT;AIN
1D26;GREEK LETTER SMALL CAPITAL ;GAMMA;LAMDA;PI;RHO;PSI
1D2B;CYRILLIC LETTER SMALL CAPITAL EL;
1D2C;MODIFIER LETTER CAPITAL ;A;AE;B;BARRED B;D;E;REVERSED E;G;H;I;J;K;L;M;N;REVERSED N;O;OU;P;R
;T;U;W
1D43;MODIFIER LETTER SMALL ;A;TURNED A;ALPHA;TURNED AE;B;D;E;SCHWA;OPEN E;TURNED OPEN E;G
;TURNED I;K;M;ENG;O;OPEN O;TOP HALF O;BOTTOM HALF O;P;T;U;SIDEWAYS U;TURNED M;V;AIN;BETA
;GREEK GAMMA;DELTA;GREEK PHI;CHI
1D62;LATIN SUBSCRIPT SMALL LETTER ;I;R;U;V
1D66;GREEK SUBSCRIPT SMALL LETTER ;BETA;GAMMA;RHO;PHI;CHI
1D6B;LATIN SMALL LETTER ;UE;B WITH MIDDLE TILDE;D WITH MIDDLE TILDE;F WITH MIDDLE TILDE
;M WITH MIDDLE TILDE;N WITH MIDDLE TILDE;P WITH MIDDLE TILDE;R WITH MIDDLE TILDE
;R WITH FISHHOOK AND MIDDLE TILDE;S WITH MIDDLE TILDE;T WITH MIDDLE TILDE;Z WITH MIDDLE TILDE
;TURNED G
1D78;MODIFIER LETTER CYRILLIC EN;
1D79;LATIN SMALL ;LETTER INSULAR G;LETTER TH WITH STRIKETHROUGH;CAPITAL LETTER I WITH STROKE
;LETTER IOTA WITH STROKE;LETTER P WITH STROKE;CAPITAL LETTER U WITH STROKE
1D7F;LATIN SMALL LETTER ;UPSILON WITH STROKE;B WITH PALATAL HOOK;D WITH PALATAL HOOK
;F WITH PALATAL HOOK;G WITH PALATAL HOOK;K WITH PALATAL HOOK;L WITH PALATAL HOOK
;M WITH PALATAL HOOK;N WITH PALATAL HOOK;P WITH PALATAL HOOK;R WITH PALATAL HOOK
;S WITH PALATAL HOOK;ESH WITH PALATAL HOOK;V WITH PALATAL HOOK;X WITH PALATAL HOOK
;Z WITH PALATAL HOOK;A WITH RETROFLEX HOOK;ALPHA WITH RETROFLEX HOOK;D WITH HOOK AND TAIL
;E WITH RETROFLEX HOOK;OPEN E WITH RETROFLEX HOOK;REVERSED OPEN E WITH RETROFLEX HOOK
;SCHWA WITH RETROFLEX HOOK;I WITH RETROFLEX HOOK;OPEN O WITH RETROFLEX HOOK
;ESH WITH RETROFLEX HOOK;U WITH RETROFLEX HOOK;EZH WITH RETROFLEX HOOK
1D9B;MODIFIER LETTER SMALL ;TURNED ALPHA;C;C WITH CURL;ETH;REVERSED OPEN E;F
;DOTLESS J WITH STROKE;SCRIPT G;TURNED H;I WITH STROKE;IOTA;CAPITAL I;CAPITAL I WITH STROKE
;J WITH CROSSED-TAIL;L WITH RETROFLEX HOOK;L WITH PALATAL HOOK;CAPITAL L;M WITH HOOK
;TURNED M WITH LONG LEG;N WITH LEFT HOOK;N WITH RETROFLEX HOOK;CAPITAL N;BARRED O;PHI
;S WITH HOOK;ESH;T WITH PALATAL HOOK;U BAR;UPSILON;CAPITAL U;V WITH HOOK;TURNED V;Z
;Z WITH RETROFLEX HOOK;Z WITH CURL;EZH;THETA
1DC0;COMBINING ;DOTTED GRAVE ACCENT;DOTTED ACUTE ACCENT;SNAKE BELOW;SUSPENSION MARK;MACRON-ACUTE
;GRAVE-MACRON;MACRON-GRAVE;ACUTE-MACRON;GRAVE-ACUTE-GRAVE;ACUTE-GRAVE-ACUTE
;LATIN SMALL LETTER R BELOW;BREVE-MACRON;MACRON-BREVE;DOUBLE CIRCUMFLEX ABOVE;OGONEK ABOVE
;ZIGZAG BELOW;IS BELOW;UR ABOVE;US ABOVE
1DD3;COMBINING LATIN SMALL LETTER ;FLATTENED OPEN A ABOVE;AE;AO;AV;C CEDILLA;INSULAR D;ETH;G
1DDB;COMBINING LATIN ;LETTER SMALL CAPITAL G;SMALL LETTER K;SMALL LETTER L
;LETTER SMALL CAPITAL L;LETTER SMALL CAPITAL M;SMALL LETTER N;LETTER SMALL CAPITAL N
;LETTER SMALL CAPITAL R
1DE3;COMBINING LATIN SMALL LETTER ;R ROTUNDA;S;LONG S;Z;ALPHA;B;BETA;SCHWA;F
;L WITH DOUBLE MIDDLE TILDE;O WITH LIGHT CENTRALIZATION STROKE;P;ESH
;U WITH LIGHT CENTRALIZATION STROKE;W;A WITH DIAERESIS;O WITH DIAERESIS;U WITH DIAERESIS
1DF5;COMBINING ;UP TACK ABOVE;KAVYKA ABOVE RIGHT;KAVYKA ABOVE LEFT;DOT ABOVE LEFT
;WIDE INVERTED BRIDGE BELOW;DOT BELOW LEFT;DELETION MARK;DOUBLE INVERTED BREVE BELOW
;ALMOST EQUAL TO BELOW;LEFT ARROWHEAD ABOVE;RIGHT ARROWHEAD AND DOWN ARROWHEAD BELOW
1E00;LATIN ;CAPITAL LETTER A WITH RING BELOW;SMALL LETTER A WITH RING BELOW
;CAPITAL LETTER B WITH DOT ABOVE;SMALL LETTER B WITH DOT ABOVE;CAPITAL LETTER B WITH DOT BELOW
;SMALL LETTER B WITH DOT BELOW;CAPITAL LETTER B WITH LINE BELOW;SMALL LETTER B WITH LINE BELOW
;CAPITAL LETTER C WITH CEDILLA AND ACUTE;SMALL LETTER C WITH CEDILLA AND ACUTE
;CAPITAL LETTER D WITH DOT ABOVE;SMALL LETTER D WITH DOT ABOVE;CAPITAL LETTER D WITH DOT BELOW
;SMALL LETTER D WITH DOT BELOW;CAPITAL LETTER D WITH LINE BELOW;SMALL LETTER D WITH LINE BELOW
;CAPITAL LETTER D WITH CEDILLA;SMALL LETTER D WITH CEDILLA
;CAPITAL LETTER D WITH CIRCUMFLEX BELOW;SMALL LETTER D WITH CIRCUMFLEX BELOW
;CAPITAL LETTER E WITH MACRON AND GRAVE;SMALL LETTER E WITH MACRON AND GRAVE
;CAPITAL LETTER E WITH MACRON AND ACUTE;SMALL LETTER E WITH MACRON AND ACUTE
;CAPITAL LETTER E WITH CIRCUMFLEX BELOW;SMALL LETTER E WITH CIRCUMFLEX BELOW
;CAPITAL LETTER E WITH TILDE BELOW;SMALL LETTER E WITH TILDE BELOW
;CAPITAL LETTER E WITH CEDILLA AND BREVE;SMALL LETTER E WITH CEDILLA AND BREVE
;CAPITAL LETTER F WITH DOT ABOVE;SMALL LETTER F WITH DOT ABOVE;CAPITAL LETTER G WITH MACRON
;SMALL LETTER G WITH MACRON;CAPITAL LETTER H WITH DOT ABOVE;SMALL LETTER H WITH DOT ABOVE
;CAPITAL LETTER H WITH DOT BELOW;SMALL LETTER H WITH DOT BELOW;CAPITAL LETTER H WITH DIAERESIS
;SMALL LETTER H WITH DIAERESIS;CAPITAL LETTER H WITH CEDILLA;SMALL LETTER H WITH CEDILLA
;CAPITAL LETTER H WITH BREVE BELOW;SMALL LETTER H WITH BREVE BELOW
;CAPITAL LETTER I WITH TILDE BELOW;SMALL LETTER I WITH TILDE BELOW
;CAPITAL LETTER I WITH DIAERESIS AND ACUTE;SMALL LETTER I WITH DIAERESIS AND ACUTE
;CAPITAL LETTER K WITH ACUTE;SMALL LETTER K WITH ACUTE;CAPITAL LETTER K WITH DOT BELOW
;SMALL LETTER K WITH DOT BELOW;CAPITAL LETTER K WITH LINE BELOW;SMALL LETTER K WITH LINE BELOW
;CAPITAL LETTER L WITH DOT BELOW;SMALL LETTER L WITH DOT BELOW
;CAPITAL LETTER L WITH DOT BELOW AND MACRON;SMALL LETTER L WITH DOT BELOW AND MACRON
;CAPITAL LETTER L WITH LINE BELOW;SMALL LETTER L WITH LINE BELOW
;CAPITAL LETTER L WITH CIRCUMFLEX BELOW;SMALL LETTER L WITH CIRCUMFLEX BELOW
;CAPITAL LETTER M WITH ACUTE;SMALL LETTER M WITH ACUTE;CAPITAL LETTER M WITH DOT ABOVE
;SMALL LETTER M WITH DOT ABOVE;CAPITAL LETTER M WITH DOT BELOW;SMALL LETTER M WITH DOT BELOW
;CAPITAL LETTER N WITH DOT ABOVE;SMALL LETTER N WITH DOT ABOVE;CAPITAL LETTER N WITH DOT BELOW
;SMALL LETTER N WITH DOT BELOW;CAPITAL LETTER N WITH LINE BELOW;SMALL LETTER N WITH LINE BELOW
;CAPITAL LETTER N WITH CIRCUMFLEX BELOW;SMALL LETTER N WITH CIRCUMFLEX BELOW
;CAPITAL LETTER O WITH TILDE AND ACUTE;SMALL LETTER O WITH TILDE AND ACUTE
;CAPITAL LETTER O WITH TILDE AND DIAERESIS;SMALL LETTER O WITH TILDE AND DIAERESIS
;CAPITAL LETTER O WITH MACRON AND GRAVE;SMALL LETTER O WITH MACRON AND GRAVE
;CAPITAL LETTER O WITH MACRON AND ACUTE;SMALL LETTER O WITH MACRON AND ACUTE
;CAPITAL LETTER P WITH ACUTE;SMALL LETTER P WITH ACUTE;CAPITAL LETTER P WITH DOT ABOVE
;SMALL LETTER P WITH DOT ABOVE;CAPITAL LETTER R WITH DOT ABOVE;SMALL LETTER R WITH DOT ABOVE
;CAPITAL LETTER R WITH DOT BELOW;SMALL LETTER R WITH DOT BELOW
;CAPITAL LETTER R WITH DOT BELOW AND MACRON;SMALL LETTER R WITH DOT BELOW AND MACRON
;CAPITAL LETTER R WITH LINE BELOW;SMALL LETTER R WITH LINE BELOW;CAPITAL LETTER S WITH DOT ABOVE
;SMALL LETTER S WITH DOT ABOVE;CAPITAL LETTER S WITH DOT BELOW;SMALL LETTER S WITH DOT BELOW
;CAPITAL LETTER S WITH ACUTE AND DOT ABOVE;SMALL LETTER S WITH ACUTE AND DOT ABOVE
;CAPITAL LETTER S WITH CARON AND DOT ABOVE;SMALL LETTER S WITH CARON AND DOT ABOVE
;CAPITAL LETTER S WITH DOT BELOW AND DOT ABOVE;SMALL LETTER S WITH DOT BELOW AND DOT ABOVE
;CAPITAL LETTER T WITH DOT ABOVE;SMALL LETTER T WITH DOT ABOVE;CAPITAL LETTER T WITH DOT BELOW
;SMALL LETTER T WITH DOT BELOW;CAPITAL LETTER T WITH LINE BELOW;SMALL LETTER T WITH LINE BELOW
;CAPITAL LETTER T WITH CIRCUMFLEX BELOW;SMALL LETTER T WITH CIRCUMFLEX BELOW
;CAPITAL LETTER U WITH DIAERESIS BELOW;SMALL LETTER U WITH DIAERESIS BELOW
;CAPITAL LETTER U WITH TILDE BELOW;SMALL LETTER U WITH TILDE BELOW
;CAPITAL LETTER U WITH CIRCUMFLEX BELOW;SMALL LETTER U WITH CIRCUMFLEX BELOW
;CAPITAL LETTER U WITH TILDE AND ACUTE;SMALL LETTER U WITH TILDE AND ACUTE
;CAPITAL LETTER U WITH MACRON AND DIAERESIS;SMALL LETTER U WITH MACRON AND DIAERESIS
;CAPITAL LETTER V WITH TILDE;SMALL LETTER V WITH TILDE;CAPITAL LETTER V WITH DOT BELOW
;SMALL LETTER V WITH DOT BELOW;CAPITAL LETTER W WITH GRAVE;SMALL LETTER W WITH GRAVE
;CAPITAL LETTER W WITH ACUTE;SMALL LETTER W WITH ACUTE;CAPITAL LETTER W WITH DIAERESIS
;SMALL LETTER W WITH DIAERESIS;CAPITAL LETTER W WITH DOT ABOVE;SMALL LETTER W WITH DOT ABOVE
;CAPITAL LETTER W WITH DOT BELOW;SMALL LETTER W WITH DOT BELOW;CAPITAL LETTER X WITH DOT ABOVE
;SMALL LETTER X WITH DOT ABOVE;CAPITAL LETTER X WITH DIAERESIS;SMALL LETTER X WITH DIAERESIS
;CAPITAL LETTER Y WITH DOT ABOVE;SMALL LETTER Y WITH DOT ABOVE;CAPITAL LETTER Z WITH CIRCUMFLEX
;SMALL LETTER Z WITH CIRCUMFLEX;CAPITAL LETTER Z WITH DOT BELOW;SMALL LETTER Z WITH DOT BELOW
;CAPITAL LETTER Z WITH LINE BELOW
1E95;LATIN SMALL LETTER ;Z WITH LINE BELOW;H WITH LINE BELOW;T WITH DIAERESIS;W WITH RING ABOVE
;Y WITH RING ABOVE;A WITH RIGHT HALF RING;LONG S WITH DOT ABOVE;LONG S WITH DIAGONAL STROKE
;LONG S WITH HIGH STROKE
1E9E;LATIN ;CAPITAL LETTER SHARP S;SMALL LETTER DELTA;CAPITAL LETTER A WITH DOT BELOW
;SMALL LETTER A WITH DOT BELOW;CAPITAL LETTER A WITH HOOK ABOVE;SMALL LETTER A WITH HOOK ABOVE
;CAPITAL LETTER A WITH CIRCUMFLEX AND ACUTE;SMALL LETTER A WITH CIRCUMFLEX AND ACUTE
;CAPITAL LETTER A WITH CIRCUMFLEX AND GRAVE;SMALL LETTER A WITH CIRCUMFLEX AND GRAVE
;CAPITAL LETTER A WITH CIRCUMFLEX AND HOOK ABOVE;SMALL LETTER A WITH CIRCUMFLEX AND HOOK ABOVE
;CAPITAL LETTER A WITH CIRCUMFLEX AND TILDE;SMALL LETTER A WITH CIRCUMFLEX AND TILDE
;CAPITAL LETTER A WITH CIRCUMFLEX AND DOT BELOW;SMALL LETTER A WITH CIRCUMFLEX AND DOT BELOW
;CAPITAL LETTER A WITH BREVE AND ACUTE;SMALL LETTER A WITH BREVE AND ACUTE
;CAPITAL LETTER A WITH BREVE AND GRAVE;SMALL LETTER A WITH BREVE AND GRAVE
;CAPITAL LETTER A WITH BREVE AND HOOK ABOVE;SMALL LETTER A WITH BREVE AND HOOK ABOVE
;CAPITAL LETTER A WITH BREVE AND TILDE;SMALL LETTER A WITH BREVE AND TILDE
;CAPITAL LETTER A WITH BREVE AND DOT BELOW;SMALL LETTER A WITH BREVE AND DOT BELOW
;CAPITAL LETTER E WITH DOT BELOW;SMALL LETTER E WITH DOT BELOW;CAPITAL LETTER E WITH HOOK ABOVE
;SMALL LETTER E WITH HOOK ABOVE;CAPITAL LETTER E WITH TILDE;SMALL LETTER E WITH TILDE
;CAPITAL LETTER E WITH CIRCUMFLEX AND ACUTE;SMALL LETTER E WITH CIRCUMFLEX AND ACUTE
;CAPITAL LETTER E WITH CIRCUMFLEX AND GRAVE;SMALL LETTER E WITH CIRCUMFLEX AND GRAVE
;CAPITAL LETTER E WITH CIRCUMFLEX AND HOOK ABOVE;SMALL LETTER E WITH CIRCUMFLEX AND HOOK ABOVE
;CAPITAL LETTER E WITH CIRCUMFLEX AND TILDE;SMALL LETTER E WITH CIRCUMFLEX AND TILDE
;CAPITAL LETTER E WITH CIRCUMFLEX AND DOT BELOW;SMALL LETTER E WITH CIRCUMFLEX AND DOT BELOW
;CAPITAL LETTER I WITH HOOK ABOVE;SMALL LETTER I WITH HOOK ABOVE;CAPITAL LETTER I WITH DOT BELOW
;SMALL LETTER I WITH DOT BELOW;CAPITAL LETTER O WITH DOT BELOW;SMALL LETTER O WITH DOT BELOW
;CAPITAL LETTER O WITH HOOK ABOVE;SMALL LETTER O WITH HOOK ABOVE
;CAPITAL LETTER O WITH CIRCUMFLEX AND ACUTE;SMALL LETTER O WITH CIRCUMFLEX AND ACUTE
;CAPITAL LETTER O WITH CIRCUMFLEX AND GRAVE;SMALL LETTER O WITH CIRCUMFLEX AND GRAVE
;CAPITAL LETTER O WITH CIRCUMFLEX AND HOOK ABOVE;SMALL LETTER O WITH CIRCUMFLEX AND HOOK ABOVE
;CAPITAL LETTER O WITH CIRCUMFLEX AND TILDE;SMALL LETTER O WITH CIRCUMFLEX AND TILDE
;CAPITAL LETTER O WITH CIRCUMFLEX AND DOT BELOW;SMALL LETTER O WITH CIRCUMFLEX AND DOT BELOW
;CAPITAL LETTER O WITH HORN AND ACUTE;SMALL LETTER O WITH HORN AND ACUTE
;CAPITAL LETTER O WITH HORN AND GRAVE;SMALL LETTER O WITH HORN AND GRAVE
;CAPITAL LETTER O WITH HORN AND HOOK ABOVE;SMALL LETTER O WITH HORN AND HOOK ABOVE
;CAPITAL LETTER O WITH HORN AND TILDE;SMALL LETTER O WITH HORN AND TILDE
;CAPITAL LETTER O WITH HORN AND DOT BELOW;SMALL LETTER O WITH HORN AND DOT BELOW
;CAPITAL LETTER U WITH DOT BELOW;SMALL LETTER U WITH DOT BELOW;CAPITAL LETTER U WITH HOOK ABOVE
;SMALL LETTER U WITH HOOK ABOVE;CAPITAL LETTER U WITH HORN AND ACUTE
;SMALL LETTER U WITH HORN AND ACUTE;CAPITAL LETTER U WITH HORN AND GRAVE
;SMALL LETTER U WITH HORN AND GRAVE;CAPITAL LETTER U WITH HORN AND HOOK ABOVE
;SMALL LETTER U WITH HORN AND HOOK ABOVE;CAPITAL LETTER U WITH HORN AND TILDE
;SMALL LETTER U WITH HORN AND TILDE;CAPITAL LETTER U WITH HORN AND DOT BELOW
;SMALL LETTER U WITH HORN AND DOT BELOW;CAPITAL LETTER Y WITH GRAVE;SMALL LETTER Y WITH GRAVE
;CAPITAL LETTER Y WITH DOT BELOW;SMALL LETTER Y WITH DOT BELOW;CAPITAL LETTER Y WITH HOOK ABOVE
;SMALL LETTER Y WITH HOOK ABOVE;CAPITAL LETTER Y WITH TILDE;SMALL LETTER Y WITH TILDE
;CAPITAL LETTER MIDDLE-WELSH LL;SMALL LETTER MIDDLE-WELSH LL;CAPITAL LETTER MIDDLE-WELSH V
;SMALL LETTER MIDDLE-WELSH V;CAPITAL LETTER Y WITH LOOP;SMALL LETTER Y WITH LOOP
1F00;GREEK SMALL LETTER ALPHA WITH ;PSILI;DASIA;PSILI AND VARIA;DASIA AND VARIA;PSILI AND OXIA
;DASIA AND OXIA;PSILI AND PERISPOMENI;DASIA AND PERISPOMENI
1F08;GREEK CAPITAL LETTER ALPHA WITH ;PSILI;DASIA;PSILI AND VARIA;DASIA AND VARIA;PSILI AND OXIA
;DASIA AND OXIA;PSILI AND PERISPOMENI;DASIA AND PERISPOMENI
1F10;GREEK SMALL LETTER EPSILON WITH ;PSILI;DASIA;PSILI AND VARIA;DASIA AND VARIA;PSILI AND OXIA
;DASIA AND OXIA
1F18;GREEK CAPITAL LETTER EPSILON WITH ;PSILI;DASIA;PSILI AND VARIA;DASIA AND VARIA
;PSILI AND OXIA;DASIA AND OXIA
1F20;GREEK SMALL LETTER ETA WITH ;PSILI;DASIA;PSILI AND VARIA;DASIA AND VARIA;PSILI AND OXIA
;DASIA AND OXIA;PSILI AND PERISPOMENI;DASIA AND PERISPOMENI
1F28;GREEK CAPITAL LETTER ETA WITH ;PSILI;DASIA;PSILI AND VARIA;DASIA AND VARIA;PSILI AND OXIA
;DASIA AND OXIA;PSILI AND PERISPOMENI;DASIA AND PERISPOMENI
1F30;GREEK SMALL LETTER IOTA WITH ;PSILI;DASIA;PSILI AND VARIA;DASIA AND VARIA;PSILI AND OXIA
;DASIA AND OXIA;PSILI AND PERISPOMENI;DASIA AND PERISPOMENI
1F38;GREEK CAPITAL LETTER IOTA WITH ;PSILI;DASIA;PSILI AND VARIA;DASIA AND VARIA;PSILI AND OXIA
;DASIA AND OXIA;PSILI AND PERISPOMENI;DASIA AND PERISPOMENI
1F40;GREEK SMALL LETTER OMICRON WITH ;PSILI;DASIA;PSILI AND VARIA;DASIA AND VARIA;PSILI AND OXIA
;DASIA AND OXIA
1F48;GREEK CAPITAL LETTER OMICRON WITH ;PSILI;DASIA;PSILI AND VARIA;DASIA AND VARIA
;PSILI AND OXIA;DASIA AND OXIA
1F50;GREEK SMALL LETTER UPSILON WITH ;PSILI;DASIA;PSILI AND VARIA;DASIA AND VARIA;PSILI AND OXIA
;DASIA AND OXIA;PSILI AND PERISPOMENI;DASIA AND PERISPOMENI
1F59;GREEK CAPITAL LETTER UPSILON WITH DASIA;
1F5B;GREEK CAPITAL LETTER UPSILON WITH DASIA AND VARIA;
1F5D;GREEK CAPITAL LETTER UPSILON WITH DASIA AND OXIA;
1F5F;GREEK CAPITAL LETTER UPSILON WITH DASIA AND PERISPOMENI;
1F60;GREEK SMALL LETTER OMEGA WITH ;PSILI;DASIA;PSILI AND VARIA;DASIA AND VARIA;PSILI AND OXIA
;DASIA AND OXIA;PSILI AND PERISPOMENI;DASIA AND PERISPOMENI
1F68;GREEK CAPITAL LETTER OMEGA WITH ;PSILI;DASIA;PSILI AND VARIA;DASIA AND VARIA;PSILI AND OXIA
;DASIA AND OXIA;PSILI AND PERISPOMENI;DASIA AND PERISPOMENI
1F70;GREEK SMALL LETTER ;ALPHA WITH VARIA;ALPHA WITH OXIA;EPSILON WITH VARIA;EPSILON WITH OXIA
;ETA WITH VARIA;ETA WITH OXIA;IOTA WITH VARIA;IOTA WITH OXIA;OMICRON WITH VARIA
;OMICRON WITH OXIA;UPSILON WITH VARIA;UPSILON WITH OXIA;OMEGA WITH VARIA;OMEGA WITH OXIA
1F80;GREEK SMALL LETTER ALPHA WITH ;PSILI AND YPOGEGRAMMENI;DASIA AND YPOGEGRAMMENI
;PSILI AND VARIA AND YPOGEGRAMMENI;DASIA AND VARIA AND YPOGEGRAMMENI
;PSILI AND OXIA AND YPOGEGRAMMENI;DASIA AND OXIA AND YPOGEGRAMMENI
;PSILI AND PERISPOMENI AND YPOGEGRAMMENI;DASIA AND PERISPOMENI AND YPOGEGRAMMENI
1F88;GREEK CAPITAL LETTER ALPHA WITH ;PSILI AND PROSGEGRAMMENI;DASIA AND PROSGEGRAMMENI
;PSILI AND VARIA AND PROSGEGRAMMENI;DASIA AND VARIA AND PROSGEGRAMMENI
;PSILI AND OXIA AND PROSGEGRAMMENI;DASIA AND OXIA AND PROSGEGRAMMENI
;PSILI AND PERISPOMENI AND PROSGEGRAMMENI;DASIA AND PERISPOMENI AND PROSGEGRAMMENI
1F90;GREEK SMALL LETTER ETA WITH ;PSILI AND YPOGEGRAMMENI;DASIA AND YPOGEGRAMMENI
;PSILI AND VARIA AND YPOGEGRAMMENI;DASIA AND VARIA AND YPOGEGRAMMENI
;PSILI AND OXIA AND YPOGEGRAMMENI;DASIA AND OXIA AND YPOGEGRAMMENI
;PSILI AND PERISPOMENI AND YPOGEGRAMMENI;DASIA AND PERISPOMENI AND YPOGEGRAMMENI
1F98;GREEK CAPITAL LETTER ETA WITH ;PSILI AND PROSGEGRAMMENI;DASIA AND PROSGEGRAMMENI
;PSILI AND VARIA AND PROSGEGRAMMENI;DASIA AND VARIA AND PROSGEGRAMMENI
;PSILI AND OXIA AND PROSGEGRAMMENI;DASIA AND OXIA AND PROSGEGRAMMENI
;PSILI AND PERISPOMENI AND PROSGEGRAMMENI;DASIA AND PERISPOMENI AND PROSGEGRAMMENI
1FA0;GREEK SMALL LETTER OMEGA WITH ;PSILI AND YPOGEGRAMMENI;DASIA AND YPOGEGRAMMENI
;PSILI AND VARIA AND YPOGEGRAMMENI;DASIA AND VARIA AND YPOGEGRAMMENI
;PSILI AND OXIA AND YPOGEGRAMMENI;DASIA AND OXIA AND YPOGEGRAMMENI
;PSILI AND PERISPOMENI AND YPOGEGRAMMENI;DASIA AND PERISPOMENI AND YPOGEGRAMMENI
1FA8;GREEK CAPITAL LETTER OMEGA WITH ;PSILI AND PROSGEGRAMMENI;DASIA AND PROSGEGRAMMENI
;PSILI AND VARIA AND PROSGEGRAMMENI;DASIA AND VARIA AND PROSGEGRAMMENI
;PSILI AND OXIA AND PROSGEGRAMMENI;DASIA AND OXIA AND PROSGEGRAMMENI
;PSILI AND PERISPOMENI AND PROSGEGRAMMENI;DASIA AND PERISPOMENI AND PROSGEGRAMMENI
1FB0;GREEK SMALL LETTER ALPHA WITH ;VRACHY;MACRON;VARIA AND YPOGEGRAMMENI;YPOGEGRAMMENI
;OXIA AND YPOGEGRAMMENI
1FB6;GREEK SMALL LETTER ALPHA WITH PERISPOMENI;; AND YPOGEGRAMMENI
1FB8;GREEK CAPITAL LETTER ALPHA WITH ;VRACHY;MACRON;VARIA;OXIA;PROSGEGRAMMENI
1FBD;GREEK ;KORONIS;PROSGEGRAMMENI;PSILI;PERISPOMENI;DIALYTIKA AND PERISPOMENI
1FC2;GREEK SMALL LETTER ETA WITH ;VARIA AND YPOGEGRAMMENI;YPOGEGRAMMENI;OXIA AND YPOGEGRAMMENI
1FC6;GREEK SMALL LETTER ETA WITH PERISPOMENI;; AND YPOGEGRAMMENI
1FC8;GREEK CAPITAL LETTER E;PSILON WITH VARIA;PSILON WITH OXIA;TA WITH VARIA;TA WITH OXIA
;TA WITH PROSGEGRAMMENI
1FCD;GREEK PSILI AND ;VARIA;OXIA;PERISPOMENI
1FD0;GREEK SMALL LETTER IOTA WITH ;VRACHY;MACRON;DIALYTIKA AND VARIA;DIALYTIKA AND OXIA
1FD6;GREEK SMALL LETTER IOTA WITH ;PERISPOMENI;DIALYTIKA AND PERISPOMENI
1FD8;GREEK CAPITAL LETTER IOTA WITH ;VRACHY;MACRON;VARIA;OXIA
1FDD;GREEK DASIA AND ;VARIA;OXIA;PERISPOMENI
1FE0;GREEK SMALL LETTER UPSILON WITH ;VRACHY;MACRON;DIALYTIKA AND VARIA;DIALYTIKA AND OXIA
1FE4;GREEK SMALL LETTER ;RHO WITH PSILI;RHO WITH DASIA;UPSILON WITH PERISPOMENI
;UPSILON WITH DIALYTIKA AND PERISPOMENI
1FE8;GREEK CAPITAL LETTER UPSILON WITH ;VRACHY;MACRON;VARIA;OXIA
1FEC;GREEK ;CAPITAL LETTER RHO WITH DASIA;DIALYTIKA AND VARIA;DIALYTIKA AND OXIA;VARIA
1FF2;GREEK SMALL LETTER OMEGA WITH ;VARIA AND YPOGEGRAMMENI;YPOGEGRAMMENI;OXIA AND YPOGEGRAMMENI
1FF6;GREEK SMALL LETTER OMEGA WITH PERISPOMENI;; AND YPOGEGRAMMENI
1FF8;GREEK CAPITAL LETTER OM;ICRON WITH VARIA;ICRON WITH OXIA;EGA WITH VARIA;EGA WITH OXIA
;EGA WITH PROSGEGRAMMENI
1FFD;GREEK ;OXIA;DASIA
2000;;EN QUAD;EM QUAD;EN SPACE;EM SPACE;THREE-PER-EM SPACE;FOUR-PER-EM SPACE;SIX-PER-EM SPACE
;FIGURE SPACE;PUNCTUATION SPACE;THIN SPACE;HAIR SPACE
200B;ZERO WIDTH ;SPACE;NON-JOINER;JOINER
200E;;LEFT-TO-RIGHT MARK;RIGHT-TO-LEFT MARK;HYPHEN;NON-BREAKING HYPHEN;FIGURE DASH;EN DASH
;EM DASH;HORIZONTAL BAR;DOUBLE VERTICAL LINE;DOUBLE LOW LINE;LEFT SINGLE QUOTATION MARK
;RIGHT SINGLE QUOTATION MARK;SINGLE LOW-9 QUOTATION MARK;SINGLE HIGH-REVERSED-9 QUOTATION MARK
;LEFT DOUBLE QUOTATION MARK;RIGHT DOUBLE QUOTATION MARK;DOUBLE LOW-9 QUOTATION MARK
;DOUBLE HIGH-REVERSED-9 QUOTATION MARK;DAGGER;DOUBLE DAGGER;BULLET;TRIANGULAR BULLET
;ONE DOT LEADER;TWO DOT LEADER;HORIZONTAL ELLIPSIS;HYPHENATION POINT;LINE SEPARATOR
;PARAGRAPH SEPARATOR;LEFT-TO-RIGHT EMBEDDING;RIGHT-TO-LEFT EMBEDDING;POP DIRECTIONAL FORMATTING
;LEFT-TO-RIGHT OVERRIDE;RIGHT-TO-LEFT OVERRIDE;NARROW NO-BREAK SPACE;PER MILLE SIGN
;PER TEN THOUSAND SIGN;PRIME;DOUBLE PRIME;TRIPLE PRIME
2035;REVERSED ;PRIME;DOUBLE PRIME;TRIPLE PRIME
2038;;CARET;SINGLE LEFT-POINTING ANGLE QUOTATION MARK;SINGLE RIGHT-POINTING ANGLE QUOTATION MARK
;REFERENCE MARK;DOUBLE EXCLAMATION MARK;INTERROBANG;OVERLINE;UNDERTIE;CHARACTER TIE
;CARET INSERTION POINT;ASTERISM;HYPHEN BULLET;FRACTION SLASH;LEFT SQUARE BRACKET WITH QUILL
;RIGHT SQUARE BRACKET WITH QUILL;DOUBLE QUESTION MARK;QUESTION EXCLAMATION MARK
;EXCLAMATION QUESTION MARK;TIRONIAN SIGN ET;REVERSED PILCROW SIGN;BLACK LEFTWARDS BULLET
;BLACK RIGHTWARDS BULLET;LOW ASTERISK;REVERSED SEMICOLON;CLOSE UP
;TWO ASTERISKS ALIGNED VERTICALLY;COMMERCIAL MINUS SIGN;SWUNG DASH;INVERTED UNDERTIE
;FLOWER PUNCTUATION MARK;THREE DOT PUNCTUATION;QUADRUPLE PRIME;FOUR DOT PUNCTUATION
;FIVE DOT PUNCTUATION;TWO DOT PUNCTUATION;FOUR DOT MARK;DOTTED CROSS;TRICOLON;VERTICAL FOUR DOTS
;MEDIUM MATHEMATICAL SPACE;WORD JOINER;FUNCTION APPLICATION
2062;INVISIBLE ;TIMES;SEPARATOR;PLUS
2066;;LEFT-TO-RIGHT ISOLATE;RIGHT-TO-LEFT ISOLATE;FIRST STRONG ISOLATE;POP DIRECTIONAL ISOLATE
;INHIBIT SYMMETRIC SWAPPING;ACTIVATE SYMMETRIC SWAPPING;INHIBIT ARABIC FORM SHAPING
;ACTIVATE ARABIC FORM SHAPING;NATIONAL DIGIT SHAPES;NOMINAL DIGIT SHAPES
2070;SUPERSCRIPT ;ZERO;LATIN SMALL LETTER I
2074;SUPERSCRIPT ;FOUR;FIVE;SIX;SEVEN;EIGHT;NINE;PLUS SIGN;MINUS;EQUALS SIGN;LEFT PARENTHESIS
;RIGHT PARENTHESIS;LATIN SMALL LETTER N
2080;SUBSCRIPT ;ZERO;ONE;TWO;THREE;FOUR;FIVE;SIX;SEVEN;EIGHT;NINE;PLUS SIGN;MINUS;EQUALS SIGN
;LEFT PARENTHESIS;RIGHT PARENTHESIS
2090;LATIN SUBSCRIPT SMALL LETTER ;A;E;O;X;SCHWA;H;K;L;M;N;P;S;T
20A0;;EURO-CURRENCY SIGN;COLON SIGN;CRUZEIRO SIGN;FRENCH FRANC SIGN;LIRA SIGN;MILL SIGN
;NAIRA SIGN;PESETA SIGN;RUPEE SIGN;WON SIGN;NEW SHEQEL SIGN;DONG SIGN;EURO SIGN;KIP SIGN
;TUGRIK SIGN;DRACHMA SIGN;GERMAN PENNY SIGN;PESO SIGN;GUARANI SIGN;AUSTRAL SIGN;HRYVNIA SIGN
;CEDI SIGN;LIVRE TOURNOIS SIGN;SPESMILO SIGN;TENGE SIGN;INDIAN RUPEE SIGN;TURKISH LIRA SIGN
;NORDIC MARK SIGN;MANAT SIGN;RUBLE SIGN;LARI SIGN;BITCOIN SIGN;SOM SIGN
20D0;COMBINING ;LEFT HARPOON ABOVE;RIGHT HARPOON ABOVE;LONG VERTICAL LINE OVERLAY
;SHORT VERTICAL LINE OVERLAY;ANTICLOCKWISE ARROW ABOVE;CLOCKWISE ARROW ABOVE;LEFT ARROW ABOVE
;RIGHT ARROW ABOVE;RING OVERLAY;CLOCKWISE RING OVERLAY;ANTICLOCKWISE RING OVERLAY
;THREE DOTS ABOVE;FOUR DOTS ABOVE;ENCLOSING CIRCLE;ENCLOSING SQUARE;ENCLOSING DIAMOND
;ENCLOSING CIRCLE BACKSLASH;LEFT RIGHT ARROW ABOVE;ENCLOSING SCREEN;ENCLOSING KEYCAP
;ENCLOSING UPWARD POINTING TRIANGLE;REVERSE SOLIDUS OVERLAY;DOUBLE VERTICAL STROKE OVERLAY
;ANNUITY SYMBOL;TRIPLE UNDERDOT;WIDE BRIDGE ABOVE;LEFTWARDS ARROW OVERLAY
;LONG DOUBLE SOLIDUS OVERLAY;RIGHTWARDS HARPOON WITH BARB DOWNWARDS
;LEFTWARDS HARPOON WITH BARB DOWNWARDS;LEFT ARROW BELOW;RIGHT ARROW BELOW;ASTERISK ABOVE
2100;;ACCOUNT OF;ADDRESSED TO THE SUBJECT;DOUBLE-STRUCK CAPITAL C;DEGREE CELSIUS
;CENTRE LINE SYMBOL;CARE OF;CADA UNA;EULER CONSTANT;SCRUPLE;DEGREE FAHRENHEIT;SCRIPT SMALL G
;SCRIPT CAPITAL H;BLACK-LETTER CAPITAL H;DOUBLE-STRUCK CAPITAL H
210E;PLANCK CONSTANT;; OVER TWO PI
2110;;SCRIPT CAPITAL I;BLACK-LETTER CAPITAL I;SCRIPT CAPITAL L;SCRIPT SMALL L;L B BAR SYMBOL
;DOUBLE-STRUCK CAPITAL N;NUMERO SIGN
2117;SOUND RECORDING COPY;RIGHT
2118;SCRIPT CAPITAL P;
2119;DOUBLE-STRUCK CAPITAL ;P;Q
211B;;SCRIPT CAPITAL R;BLACK-LETTER CAPITAL R;DOUBLE-STRUCK CAPITAL R;PRESCRIPTION TAKE;RESPONSE
;SERVICE MARK;TELEPHONE SIGN;TRADE MARK SIGN;VERSICLE;DOUBLE-STRUCK CAPITAL Z;OUNCE SIGN
;OHM SIGN;INVERTED OHM SIGN;BLACK-LETTER CAPITAL Z;TURNED GREEK SMALL LETTER IOTA;KELVIN SIGN
;ANGSTROM SIGN;SCRIPT CAPITAL B;BLACK-LETTER CAPITAL C;ESTIMATED SYMBOL;SCRIPT SMALL E
2130;SCRIPT CAPITAL ;E;F
2132;;TURNED CAPITAL F;SCRIPT CAPITAL M;SCRIPT SMALL O;ALEF SYMBOL;BET SYMBOL;GIMEL SYMBOL
;DALET SYMBOL;INFORMATION SOURCE;ROTATED CAPITAL Q;FACSIMILE SIGN
213C;DOUBLE-STRUCK ;SMALL PI;SMALL GAMMA;CAPITAL GAMMA;CAPITAL PI;N-ARY SUMMATION
2141;TURNED SANS-SERIF CAPITAL ;G;L
2143;;REVERSED SANS-SERIF CAPITAL L;TURNED SANS-SERIF CAPITAL Y
2145;DOUBLE-STRUCK ITALIC ;CAPITAL D;SMALL D;SMALL E;SMALL I;SMALL J
214A;;PROPERTY LINE;TURNED AMPERSAND;PER SIGN;AKTIESELSKAB;TURNED SMALL F
;SYMBOL FOR SAMARITAN SOURCE
2150;VULGAR FRACTION ;ONE SEVENTH;ONE NINTH;ONE TENTH;ONE THIRD;TWO THIRDS;ONE FIFTH;TWO FIFTHS
;THREE FIFTHS;FOUR FIFTHS;ONE SIXTH;FIVE SIXTHS;ONE EIGHTH;THREE EIGHTHS;FIVE EIGHTHS
;SEVEN EIGHTHS
215F;FRACTION NUMERATOR ONE;
2160;ROMAN NUMERAL ;ONE;TWO;THREE;FOUR;FIVE;SIX;SEVEN;EIGHT;NINE;TEN;ELEVEN;TWELVE;FIFTY
;ONE HUNDRED;FIVE HUNDRED;ONE THOUSAND
2170;SMALL ROMAN NUMERAL ;ONE;TWO;THREE;FOUR;FIVE;SIX;SEVEN;EIGHT;NINE;TEN;ELEVEN;TWELVE;FIFTY
;ONE HUNDRED;FIVE HUNDRED;ONE THOUSAND
2180;ROMAN NUMERAL ;ONE THOUSAND C D;FIVE THOUSAND;TEN THOUSAND;REVERSED ONE HUNDRED
2184;LATIN SMALL LETTER REVERSED C;
2185;ROMAN NUMERAL ;SIX LATE FORM;FIFTY EARLY FORM;FIFTY THOUSAND;ONE HUNDRED THOUSAND
2189;VULGAR FRACTION ZERO THIRDS;
218A;TURNED DIGIT T;WO;HREE
2190;;LEFTWARDS ARROW;UPWARDS ARROW;RIGHTWARDS ARROW;DOWNWARDS ARROW;LEFT RIGHT ARROW
;UP DOWN ARROW;NORTH WEST ARROW;NORTH EAST ARROW;SOUTH EAST ARROW;SOUTH WEST ARROW
;LEFTWARDS ARROW WITH STROKE;RIGHTWARDS ARROW WITH STROKE;LEFTWARDS WAVE ARROW
;RIGHTWARDS WAVE ARROW;LEFTWARDS TWO HEADED ARROW;UPWARDS TWO HEADED ARROW
;RIGHTWARDS TWO HEADED ARROW;DOWNWARDS TWO HEADED ARROW;LEFTWARDS ARROW WITH TAIL
;RIGHTWARDS ARROW WITH TAIL;LEFTWARDS ARROW FROM BAR;UPWARDS ARROW FROM BAR
;RIGHTWARDS ARROW FROM BAR;DOWNWARDS ARROW FROM BAR;UP DOWN ARROW WITH BASE
;LEFTWARDS ARROW WITH HOOK;RIGHTWARDS ARROW WITH HOOK;LEFTWARDS ARROW WITH LOOP
;RIGHTWARDS ARROW WITH LOOP;LEFT RIGHT WAVE ARROW;LEFT RIGHT ARROW WITH STROKE
;DOWNWARDS ZIGZAG ARROW
21B0;UPWARDS ARROW WITH TIP ;LEFTWARDS;RIGHTWARDS
21B2;DOWNWARDS ARROW WITH TIP ;LEFTWARDS;RIGHTWARDS
21B4;;RIGHTWARDS ARROW WITH CORNER DOWNWARDS;DOWNWARDS ARROW WITH CORNER LEFTWARDS
;ANTICLOCKWISE TOP SEMICIRCLE ARROW;CLOCKWISE TOP SEMICIRCLE ARROW;NORTH WEST ARROW TO LONG BAR
;LEFTWARDS ARROW TO BAR OVER RIGHTWARDS ARROW TO BAR;ANTICLOCKWISE OPEN CIRCLE ARROW
;CLOCKWISE OPEN CIRCLE ARROW
21BC;LEFTWARDS HARPOON WITH BARB ;UPWARDS;DOWNWARDS
21BE;UPWARDS HARPOON WITH BARB ;RIGHTWARDS;LEFTWARDS
21C0;RIGHTWARDS HARPOON WITH BARB ;UPWARDS;DOWNWARDS
21C2;DOWNWARDS HARPOON WITH BARB ;RIGHTWARDS;LEFTWARDS
21C4;;RIGHTWARDS ARROW OVER LEFTWARDS ARROW;UPWARDS ARROW LEFTWARDS OF DOWNWARDS ARROW
;LEFTWARDS ARROW OVER RIGHTWARDS ARROW;LEFTWARDS PAIRED ARROWS;UPWARDS PAIRED ARROWS
;RIGHTWARDS PAIRED ARROWS;DOWNWARDS PAIRED ARROWS;LEFTWARDS HARPOON OVER RIGHTWARDS HARPOON
;RIGHTWARDS HARPOON OVER LEFTWARDS HARPOON;LEFTWARDS DOUBLE ARROW WITH STROKE
;LEFT RIGHT DOUBLE ARROW WITH STROKE;RIGHTWARDS DOUBLE ARROW WITH STROKE;LEFTWARDS DOUBLE ARROW
;UPWARDS DOUBLE ARROW;RIGHTWARDS DOUBLE ARROW;DOWNWARDS DOUBLE ARROW;LEFT RIGHT DOUBLE ARROW
;UP DOWN DOUBLE ARROW;NORTH WEST DOUBLE ARROW;NORTH EAST DOUBLE ARROW;SOUTH EAST DOUBLE ARROW
;SOUTH WEST DOUBLE ARROW;LEFTWARDS TRIPLE ARROW;RIGHTWARDS TRIPLE ARROW;LEFTWARDS SQUIGGLE ARROW
;RIGHTWARDS SQUIGGLE ARROW;UPWARDS ARROW WITH DOUBLE STROKE;DOWNWARDS ARROW WITH DOUBLE STROKE
;LEFTWARDS DASHED ARROW;UPWARDS DASHED ARROW;RIGHTWARDS DASHED ARROW;DOWNWARDS DASHED ARROW
;LEFTWARDS ARROW TO BAR;RIGHTWARDS ARROW TO BAR;LEFTWARDS WHITE ARROW;UPWARDS WHITE ARROW
;RIGHTWARDS WHITE ARROW;DOWNWARDS WHITE ARROW;UPWARDS WHITE ARROW FROM BAR
21EB;UPWARDS WHITE ARROW ON PEDESTAL;; WITH HORIZONTAL BAR; WITH VERTICAL BAR
21EE;UPWARDS WHITE DOUBLE ARROW;; ON PEDESTAL
21F0;;RIGHTWARDS WHITE ARROW FROM WALL;NORTH WEST ARROW TO CORNER;SOUTH EAST ARROW TO CORNER
;UP DOWN WHITE ARROW;RIGHT ARROW WITH SMALL CIRCLE;DOWNWARDS ARROW LEFTWARDS OF UPWARDS ARROW
;THREE RIGHTWARDS ARROWS;LEFTWARDS ARROW WITH VERTICAL STROKE
;RIGHTWARDS ARROW WITH VERTICAL STROKE;LEFT RIGHT ARROW WITH VERTICAL STROKE
;LEFTWARDS ARROW WITH DOUBLE VERTICAL STROKE;RIGHTWARDS ARROW WITH DOUBLE VERTICAL STROKE
;LEFT RIGHT ARROW WITH DOUBLE VERTICAL STROKE;LEFTWARDS OPEN-HEADED ARROW
;RIGHTWARDS OPEN-HEADED ARROW;LEFT RIGHT OPEN-HEADED ARROW;FOR ALL;COMPLEMENT
;PARTIAL DIFFERENTIAL;THERE EXISTS;THERE DOES NOT EXIST;EMPTY SET;INCREMENT;NABLA;ELEMENT OF
;NOT AN ELEMENT OF;SMALL ELEMENT OF;CONTAINS AS MEMBER;DOES NOT CONTAIN AS MEMBER
;SMALL CONTAINS AS MEMBER;END OF PROOF;N-ARY PRODUCT;N-ARY COPRODUCT;N-ARY SUMMATION;MINUS SIGN
;MINUS-OR-PLUS SIGN;DOT PLUS;DIVISION SLASH;SET MINUS;ASTERISK OPERATOR;RING OPERATOR
;BULLET OPERATOR;SQUARE ROOT;CUBE ROOT;FOURTH ROOT;PROPORTIONAL TO;INFINITY;RIGHT ANGLE;ANGLE
;MEASURED ANGLE;SPHERICAL ANGLE;DIVIDES;DOES NOT DIVIDE;PARALLEL TO;NOT PARALLEL TO;LOGICAL AND
;LOGICAL OR;INTERSECTION;UNION;INTEGRAL;DOUBLE INTEGRAL;TRIPLE INTEGRAL;CONTOUR INTEGRAL
;SURFACE INTEGRAL;VOLUME INTEGRAL;CLOCKWISE INTEGRAL;CLOCKWISE CONTOUR INTEGRAL
;ANTICLOCKWISE CONTOUR INTEGRAL;THEREFORE;BECAUSE;RATIO;PROPORTION;DOT MINUS;EXCESS
;GEOMETRIC PROPORTION;HOMOTHETIC;TILDE OPERATOR;REVERSED TILDE;INVERTED LAZY S;SINE WAVE
;WREATH PRODUCT;NOT TILDE;MINUS TILDE;ASYMPTOTICALLY EQUAL TO;NOT ASYMPTOTICALLY EQUAL TO
;APPROXIMATELY EQUAL TO;APPROXIMATELY BUT NOT ACTUALLY EQUAL TO
;NEITHER APPROXIMATELY NOR ACTUALLY EQUAL TO;ALMOST EQUAL TO;NOT ALMOST EQUAL TO
;ALMOST EQUAL OR EQUAL TO;TRIPLE TILDE;ALL EQUAL TO;EQUIVALENT TO;GEOMETRICALLY EQUIVALENT TO
;DIFFERENCE BETWEEN;APPROACHES THE LIMIT;GEOMETRICALLY EQUAL TO
;APPROXIMATELY EQUAL TO OR THE IMAGE OF;IMAGE OF OR APPROXIMATELY EQUAL TO;COLON EQUALS
;EQUALS COLON;RING IN EQUAL TO;RING EQUAL TO;CORRESPONDS TO;ESTIMATES;EQUIANGULAR TO;STAR EQUALS
;DELTA EQUAL TO;EQUAL TO BY DEFINITION;MEASURED BY;QUESTIONED EQUAL TO;NOT EQUAL TO;IDENTICAL TO
;NOT IDENTICAL TO;STRICTLY EQUIVALENT TO;LESS-THAN OR EQUAL TO;GREATER-THAN OR EQUAL TO
;LESS-THAN OVER EQUAL TO;GREATER-THAN OVER EQUAL TO;LESS-THAN BUT NOT EQUAL TO
;GREATER-THAN BUT NOT EQUAL TO;MUCH LESS-THAN;MUCH GREATER-THAN;BETWEEN;NOT EQUIVALENT TO
;NOT LESS-THAN;NOT GREATER-THAN;NEITHER LESS-THAN NOR EQUAL TO;NEITHER GREATER-THAN NOR EQUAL TO
;LESS-THAN OR EQUIVALENT TO;GREATER-THAN OR EQUIVALENT TO;NEITHER LESS-THAN NOR EQUIVALENT TO
;NEITHER GREATER-THAN NOR EQUIVALENT TO;LESS-THAN OR GREATER-THAN;GREATER-THAN OR LESS-THAN
;NEITHER LESS-THAN NOR GREATER-THAN;NEITHER GREATER-THAN NOR LESS-THAN;PRECEDES;SUCCEEDS
;PRECEDES OR EQUAL TO;SUCCEEDS OR EQUAL TO;PRECEDES OR EQUIVALENT TO;SUCCEEDS OR EQUIVALENT TO
;DOES NOT PRECEDE;DOES NOT SUCCEED;SUBSET OF;SUPERSET OF;NOT A SUBSET OF;NOT A SUPERSET OF
;SUBSET OF OR EQUAL TO;SUPERSET OF OR EQUAL TO;NEITHER A SUBSET OF NOR EQUAL TO
;NEITHER A SUPERSET OF NOR EQUAL TO;SUBSET OF WITH NOT EQUAL TO;SUPERSET OF WITH NOT EQUAL TO
228C;MULTISET;; MULTIPLICATION; UNION
228F;SQUARE IMAGE OF;
2290;SQUARE ORIG;INAL OF
2291;SQUARE IMAGE OF OR EQUAL TO;
2292;SQUARE ORIG;INAL OF OR EQUAL TO
2293;SQUARE C;AP;UP
2295;CIRCLED ;PLUS;MINUS;TIMES;DIVISION SLASH;DOT OPERATOR;RING OPERATOR;ASTERISK OPERATOR
;EQUALS;DASH
229E;SQUARED ;PLUS;MINUS;TIMES;DOT OPERATOR
22A2;;RIGHT TACK;LEFT TACK;DOWN TACK;UP TACK;ASSERTION;MODELS;TRUE;FORCES
;TRIPLE VERTICAL BAR RIGHT TURNSTILE;DOUBLE VERTICAL BAR DOUBLE RIGHT TURNSTILE;DOES NOT PROVE
;NOT TRUE;DOES NOT FORCE;NEGATED DOUBLE VERTICAL BAR DOUBLE RIGHT TURNSTILE
;PRECEDES UNDER RELATION;SUCCEEDS UNDER RELATION;NORMAL SUBGROUP OF;CONTAINS AS NORMAL SUBGROUP
;NORMAL SUBGROUP OF OR EQUAL TO;CONTAINS AS NORMAL SUBGROUP OR EQUAL TO
22B6;ORIG;INAL OF
22B7;;IMAGE OF;MULTIMAP;HERMITIAN CONJUGATE MATRIX;INTERCALATE;XOR;NAND;NOR;RIGHT ANGLE WITH ARC
;RIGHT TRIANGLE
22C0;N-ARY ;LOGICAL AND;LOGICAL OR;INTERSECTION;UNION
22C4;;DIAMOND OPERATOR;DOT OPERATOR;STAR OPERATOR;DIVISION TIMES;BOWTIE
;LEFT NORMAL FACTOR SEMIDIRECT PRODUCT;RIGHT NORMAL FACTOR SEMIDIRECT PRODUCT
;LEFT SEMIDIRECT PRODUCT;RIGHT SEMIDIRECT PRODUCT;REVERSED TILDE EQUALS
22CE;CURLY LOGICAL ;OR;AND
22D0;DOUBLE ;SUBSET;SUPERSET;INTERSECTION;UNION
22D4;;PITCHFORK;EQUAL AND PARALLEL TO;LESS-THAN WITH DOT;GREATER-THAN WITH DOT
;VERY MUCH LESS-THAN;VERY MUCH GREATER-THAN;LESS-THAN EQUAL TO OR GREATER-THAN
;GREATER-THAN EQUAL TO OR LESS-THAN
22DC;EQUAL TO OR ;LESS-THAN;GREATER-THAN;PRECEDES;SUCCEEDS
22E0;DOES NOT ;PRECEDE OR EQUAL;SUCCEED OR EQUAL
22E2;NOT SQUARE IMAGE OF OR EQUAL TO;
22E3;NOT SQUARE ORIG;INAL OF OR EQUAL TO
22E4;SQUARE IMAGE OF OR NOT EQUAL TO;
22E5;SQUARE ORIG;INAL OF OR NOT EQUAL TO
22E6;;LESS-THAN BUT NOT EQUIVALENT TO;GREATER-THAN BUT NOT EQUIVALENT TO
;PRECEDES BUT NOT EQUIVALENT TO;SUCCEEDS BUT NOT EQUIVALENT TO;NOT NORMAL SUBGROUP OF
;DOES NOT CONTAIN AS NORMAL SUBGROUP;NOT NORMAL SUBGROUP OF OR EQUAL TO
;DOES NOT CONTAIN AS NORMAL SUBGROUP OR EQUAL;VERTICAL ELLIPSIS;MIDLINE HORIZONTAL ELLIPSIS
;UP RIGHT DIAGONAL ELLIPSIS;DOWN RIGHT DIAGONAL ELLIPSIS
22F2;ELEMENT OF WITH ;LONG HORIZONTAL STROKE;VERTICAL BAR AT END OF HORIZONTAL STROKE
22F4;SMALL ELEMENT OF WITH VERTICAL BAR AT END OF HORIZONTAL STROKE;
22F5;ELEMENT OF WITH ;DOT ABOVE;OVERBAR
22F7;SMALL ELEMENT OF WITH OVERBAR;
22F8;ELEMENT OF WITH ;UNDERBAR;TWO HORIZONTAL STROKES
22FA;CONTAINS WITH ;LONG HORIZONTAL STROKE;VERTICAL BAR AT END OF HORIZONTAL STROKE
22FC;;SMALL CONTAINS WITH VERTICAL BAR AT END OF HORIZONTAL STROKE;CONTAINS WITH OVERBAR
;SMALL CONTAINS WITH OVERBAR;Z NOTATION BAG MEMBERSHIP;DIAMETER SIGN;ELECTRIC ARROW;HOUSE
;UP ARROWHEAD;DOWN ARROWHEAD;PROJECTIVE;PERSPECTIVE;WAVY LINE;LEFT CEILING;RIGHT CEILING
;LEFT FLOOR;RIGHT FLOOR;BOTTOM RIGHT CROP;BOTTOM LEFT CROP;TOP RIGHT CROP;TOP LEFT CROP
;REVERSED NOT SIGN;SQUARE LOZENGE;ARC;SEGMENT;SECTOR;TELEPHONE RECORDER;POSITION INDICATOR
;VIEWDATA SQUARE;PLACE OF INTEREST SIGN;TURNED NOT SIGN;WATCH;HOURGLASS;TOP LEFT CORNER
;TOP RIGHT CORNER;BOTTOM LEFT CORNER;BOTTOM RIGHT CORNER;TOP HALF INTEGRAL;BOTTOM HALF INTEGRAL
;FROWN;SMILE;UP ARROWHEAD BETWEEN TWO HORIZONTAL BARS;OPTION KEY;ERASE TO THE RIGHT
;X IN A RECTANGLE BOX;KEYBOARD;LEFT-POINTING ANGLE BRACKET;RIGHT-POINTING ANGLE BRACKET
;ERASE TO THE LEFT;BENZENE RING;CYLINDRICITY;ALL AROUND-PROFILE;SYMMETRY;TOTAL RUNOUT
;DIMENSION ORIGIN;CONICAL TAPER;SLOPE;COUNTERBORE;COUNTERSINK
2336;APL FUNCTIONAL SYMBOL ;I-BEAM;SQUISH QUAD;QUAD EQUAL;QUAD DIVIDE;QUAD DIAMOND;QUAD JOT
;QUAD CIRCLE;CIRCLE STILE;CIRCLE JOT;SLASH BAR;BACKSLASH BAR;QUAD SLASH;QUAD BACKSLASH
;QUAD LESS-THAN;QUAD GREATER-THAN;LEFTWARDS VANE;RIGHTWARDS VANE;QUAD LEFTWARDS ARROW
;QUAD RIGHTWARDS ARROW;CIRCLE BACKSLASH;DOWN TACK UNDERBAR;DELTA STILE;QUAD DOWN CARET
;QUAD DELTA;DOWN TACK JOT;UPWARDS VANE;QUAD UPWARDS ARROW;UP TACK OVERBAR;DEL STILE
;QUAD UP CARET;QUAD DEL;UP TACK JOT;DOWNWARDS VANE;QUAD DOWNWARDS ARROW;QUOTE UNDERBAR
;DELTA UNDERBAR;DIAMOND UNDERBAR;JOT UNDERBAR;CIRCLE UNDERBAR;UP SHOE JOT;QUOTE QUAD;CIRCLE STAR
;QUAD COLON;UP TACK DIAERESIS;DEL DIAERESIS;STAR DIAERESIS;JOT DIAERESIS;CIRCLE DIAERESIS
;DOWN SHOE STILE;LEFT SHOE STILE;TILDE DIAERESIS;GREATER-THAN DIAERESIS;COMMA BAR;DEL TILDE
;ZILDE;STILE TILDE;SEMICOLON UNDERBAR;QUAD NOT EQUAL;QUAD QUESTION;DOWN CARET TILDE
;UP CARET TILDE;IOTA;RHO;OMEGA;ALPHA UNDERBAR;EPSILON UNDERBAR;IOTA UNDERBAR;OMEGA UNDERBAR
;ALPHA
237B;;NOT CHECK MARK;RIGHT ANGLE WITH DOWNWARDS ZIGZAG ARROW;SHOULDERED OPEN BOX;BELL SYMBOL
;VERTICAL LINE WITH MIDDLE DOT;INSERTION SYMBOL;CONTINUOUS UNDERLINE SYMBOL
;DISCONTINUOUS UNDERLINE SYMBOL;EMPHASIS SYMBOL;COMPOSITION SYMBOL
;WHITE SQUARE WITH CENTRE VERTICAL LINE;ENTER SYMBOL;ALTERNATIVE KEY SYMBOL;HELM SYMBOL
;CIRCLED HORIZONTAL BAR WITH NOTCH;CIRCLED TRIANGLE DOWN;BROKEN CIRCLE WITH NORTHWEST ARROW
;UNDO SYMBOL;MONOSTABLE SYMBOL;HYSTERESIS SYMBOL
238F;OPEN-CIRCUIT-OUTPUT ;H-TYPE SYMBOL;L-TYPE SYMBOL
2391;PASSIVE-PULL-;DOWN-OUTPUT SYMBOL;UP-OUTPUT SYMBOL
2393;;DIRECT CURRENT SYMBOL FORM TWO;SOFTWARE-FUNCTION SYMBOL;APL FUNCTIONAL SYMBOL QUAD
;DECIMAL SEPARATOR KEY SYMBOL;PREVIOUS PAGE;NEXT PAGE;PRINT SCREEN SYMBOL;CLEAR SCREEN SYMBOL
239B;LEFT PARENTHESIS ;UPPER HOOK;EXTENSION;LOWER HOOK
239E;RIGHT PARENTHESIS ;UPPER HOOK;EXTENSION;LOWER HOOK
23A1;LEFT SQUARE BRACKET ;UPPER CORNER;EXTENSION;LOWER CORNER
23A4;RIGHT SQUARE BRACKET ;UPPER CORNER;EXTENSION;LOWER CORNER
23A7;LEFT CURLY BRACKET ;UPPER HOOK;MIDDLE PIECE;LOWER HOOK
23AA;CURLY BRACKET EXTENSION;
23AB;RIGHT CURLY BRACKET ;UPPER HOOK;MIDDLE PIECE;LOWER HOOK
23AE;;INTEGRAL EXTENSION;HORIZONTAL LINE EXTENSION
;UPPER LEFT OR LOWER RIGHT CURLY BRACKET SECTION;UPPER RIGHT OR LOWER LEFT CURLY BRACKET SECTION
;SUMMATION TOP;SUMMATION BOTTOM;TOP SQUARE BRACKET
23B5;BOTTOM SQUARE BRACKET;; OVER TOP SQUARE BRACKET
23B7;;RADICAL SYMBOL BOTTOM;LEFT VERTICAL BOX LINE;RIGHT VERTICAL BOX LINE
23BA;HORIZONTAL SCAN LINE-;1;3;7;9
23BE;DENTISTRY SYMBOL LIGHT ;VERTICAL AND TOP RIGHT;VERTICAL AND BOTTOM RIGHT
;VERTICAL WITH CIRCLE;DOWN AND HORIZONTAL WITH CIRCLE;UP AND HORIZONTAL WITH CIRCLE
;VERTICAL WITH TRIANGLE;DOWN AND HORIZONTAL WITH TRIANGLE;UP AND HORIZONTAL WITH TRIANGLE
;VERTICAL AND WAVE;DOWN AND HORIZONTAL WITH WAVE;UP AND HORIZONTAL WITH WAVE;DOWN AND HORIZONTAL
;UP AND HORIZONTAL;VERTICAL AND TOP LEFT;VERTICAL AND BOTTOM LEFT
23CD;;SQUARE FOOT;RETURN SYMBOL;EJECT SYMBOL;VERTICAL LINE EXTENSION
23D1;METRICAL ;BREVE;LONG OVER SHORT;SHORT OVER LONG;LONG OVER TWO SHORTS;TWO SHORTS OVER LONG
;TWO SHORTS JOINED;TRISEME;TETRASEME;PENTASEME
23DA;;EARTH GROUND;FUSE;TOP PARENTHESIS;BOTTOM PARENTHESIS;TOP CURLY BRACKET
;BOTTOM CURLY BRACKET;TOP TORTOISE SHELL BRACKET;BOTTOM TORTOISE SHELL BRACKET;WHITE TRAPEZIUM
;BENZENE RING WITH CIRCLE;STRAIGHTNESS;FLATNESS;AC CURRENT;ELECTRICAL INTERSECTION
;DECIMAL EXPONENT SYMBOL
23E9;BLACK ;RIGHT-POINTING DOUBLE TRIANGLE;LEFT-POINTING DOUBLE TRIANGLE
;UP-POINTING DOUBLE TRIANGLE;DOWN-POINTING DOUBLE TRIANGLE
;RIGHT-POINTING DOUBLE TRIANGLE WITH VERTICAL BAR
;LEFT-POINTING DOUBLE TRIANGLE WITH VERTICAL BAR
;RIGHT-POINTING TRIANGLE WITH DOUBLE VERTICAL BAR
23F0;;ALARM CLOCK;STOPWATCH;TIMER CLOCK;HOURGLASS WITH FLOWING SAND
23F4;BLACK MEDIUM ;LEFT-POINTING TRIANGLE;RIGHT-POINTING TRIANGLE;UP-POINTING TRIANGLE
;DOWN-POINTING TRIANGLE
23F8;;DOUBLE VERTICAL BAR;BLACK SQUARE FOR STOP;BLACK CIRCLE FOR RECORD
23FB;POWER ;SYMBOL;ON-OFF SYMBOL;ON SYMBOL;SLEEP SYMBOL
23FF;OBSERVER EYE SYMBOL;
2400;SYMBOL FOR ;NULL;START OF HEADING;START OF TEXT;END OF TEXT;END OF TRANSMISSION;ENQUIRY
;ACKNOWLEDGE;BELL;BACKSPACE;HORIZONTAL TABULATION;LINE FEED;VERTICAL TABULATION;FORM FEED
;CARRIAGE RETURN;SHIFT OUT;SHIFT IN;DATA LINK ESCAPE
2411;SYMBOL FOR DEVICE CONTROL ;ONE;TWO;THREE;FOUR
2415;SYMBOL FOR ;NEGATIVE ACKNOWLEDGE;SYNCHRONOUS IDLE;END OF TRANSMISSION BLOCK;CANCEL
;END OF MEDIUM;SUBSTITUTE;ESCAPE;FILE SEPARATOR;GROUP SEPARATOR;RECORD SEPARATOR;UNIT SEPARATOR
;SPACE;DELETE
2422;;BLANK SYMBOL;OPEN BOX
2424;SYMBOL FOR ;NEWLINE;DELETE FORM TWO;SUBSTITUTE FORM TWO
2440;OCR ;HOOK;CHAIR;FORK;INVERTED FORK;BELT BUCKLE;BOW TIE;BRANCH BANK IDENTIFICATION
;AMOUNT OF CHECK;DASH;CUSTOMER ACCOUNT NUMBER;DOUBLE BACKSLASH
2460;CIRCLED DIGIT ;ONE;TWO;THREE;FOUR;FIVE;SIX;SEVEN;EIGHT;NINE
2469;CIRCLED NUMBER ;TEN;ELEVEN;TWELVE;THIRTEEN;FOURTEEN;FIFTEEN;SIXTEEN;SEVENTEEN;EIGHTEEN
;NINETEEN;TWENTY
2474;PARENTHESIZED DIGIT ;ONE;TWO;THREE;FOUR;FIVE;SIX;SEVEN;EIGHT;NINE
247D;PARENTHESIZED NUMBER ;TEN;ELEVEN;TWELVE;THIRTEEN;FOURTEEN;FIFTEEN;SIXTEEN;SEVENTEEN
;EIGHTEEN;NINETEEN;TWENTY
2488;DIGIT ;ONE FULL STOP;TWO FULL STOP;THREE FULL STOP;FOUR FULL STOP;FIVE FULL STOP
;SIX FULL STOP;SEVEN FULL STOP;EIGHT FULL STOP;NINE FULL STOP
2491;NUMBER ;TEN FULL STOP;ELEVEN FULL STOP;TWELVE FULL STOP;THIRTEEN FULL STOP
;FOURTEEN FULL STOP;FIFTEEN FULL STOP;SIXTEEN FULL STOP;SEVENTEEN FULL STOP;EIGHTEEN FULL STOP
;NINETEEN FULL STOP;TWENTY FULL STOP
249C;PARENTHESIZED LATIN SMALL LETTER ;A;B;C;D;E;F;G;H;I;J;K;L;M;N;O;P;Q;R;S;T;U;V;W;X;Y;Z
24B6;CIRCLED LATIN CAPITAL LETTER ;A;B;C;D;E;F;G;H;I;J;K;L;M;N;O;P;Q;R;S;T;U;V;W;X;Y;Z
24D0;CIRCLED LATIN SMALL LETTER ;A;B;C;D;E;F;G;H;I;J;K;L;M;N;O;P;Q;R;S;T;U;V;W;X;Y;Z
24EA;CIRCLED DIGIT ZERO;
24EB;NEGATIVE CIRCLED NUMBER ;ELEVEN;TWELVE;THIRTEEN;FOURTEEN;FIFTEEN;SIXTEEN;SEVENTEEN;EIGHTEEN
;NINETEEN;TWENTY
24F5;DOUBLE CIRCLED DIGIT ;ONE;TWO;THREE;FOUR;FIVE;SIX;SEVEN;EIGHT;NINE
24FE;;DOUBLE CIRCLED NUMBER TEN;NEGATIVE CIRCLED DIGIT ZERO
2500;BOX DRAWINGS ;LIGHT HORIZONTAL;HEAVY HORIZONTAL;LIGHT VERTICAL;HEAVY VERTICAL
;LIGHT TRIPLE DASH HORIZONTAL;HEAVY TRIPLE DASH HORIZONTAL;LIGHT TRIPLE DASH VERTICAL
;HEAVY TRIPLE DASH VERTICAL;LIGHT QUADRUPLE DASH HORIZONTAL;HEAVY QUADRUPLE DASH HORIZONTAL
;LIGHT QUADRUPLE DASH VERTICAL;HEAVY QUADRUPLE DASH VERTICAL;LIGHT DOWN AND RIGHT
;DOWN LIGHT AND RIGHT HEAVY;DOWN HEAVY AND RIGHT LIGHT;HEAVY DOWN AND RIGHT;LIGHT DOWN AND LEFT
;DOWN LIGHT AND LEFT HEAVY;DOWN HEAVY AND LEFT LIGHT;HEAVY DOWN AND LEFT;LIGHT UP AND RIGHT
;UP LIGHT AND RIGHT HEAVY;UP HEAVY AND RIGHT LIGHT;HEAVY UP AND RIGHT;LIGHT UP AND LEFT
;UP LIGHT AND LEFT HEAVY;UP HEAVY AND LEFT LIGHT;HEAVY UP AND LEFT;LIGHT VERTICAL AND RIGHT
;VERTICAL LIGHT AND RIGHT HEAVY;UP HEAVY AND RIGHT DOWN LIGHT;DOWN HEAVY AND RIGHT UP LIGHT
;VERTICAL HEAVY AND RIGHT LIGHT;DOWN LIGHT AND RIGHT UP HEAVY;UP LIGHT AND RIGHT DOWN HEAVY
;HEAVY VERTICAL AND RIGHT;LIGHT VERTICAL AND LEFT;VERTICAL LIGHT AND LEFT HEAVY
;UP HEAVY AND LEFT DOWN LIGHT;DOWN HEAVY AND LEFT UP LIGHT;VERTICAL HEAVY AND LEFT LIGHT
;DOWN LIGHT AND LEFT UP HEAVY;UP LIGHT AND LEFT DOWN HEAVY;HEAVY VERTICAL AND LEFT
;LIGHT DOWN AND HORIZONTAL;LEFT HEAVY AND RIGHT DOWN LIGHT;RIGHT HEAVY AND LEFT DOWN LIGHT
;DOWN LIGHT AND HORIZONTAL HEAVY;DOWN HEAVY AND HORIZONTAL LIGHT;RIGHT LIGHT AND LEFT DOWN HEAVY
;LEFT LIGHT AND RIGHT DOWN HEAVY;HEAVY DOWN AND HORIZONTAL;LIGHT UP AND HORIZONTAL
;LEFT HEAVY AND RIGHT UP LIGHT;RIGHT HEAVY AND LEFT UP LIGHT;UP LIGHT AND HORIZONTAL HEAVY
;UP HEAVY AND HORIZONTAL LIGHT;RIGHT LIGHT AND LEFT UP HEAVY;LEFT LIGHT AND RIGHT UP HEAVY
;HEAVY UP AND HORIZONTAL;LIGHT VERTICAL AND HORIZONTAL;LEFT HEAVY AND RIGHT VERTICAL LIGHT
;RIGHT HEAVY AND LEFT VERTICAL LIGHT;VERTICAL LIGHT AND HORIZONTAL HEAVY
;UP HEAVY AND DOWN HORIZONTAL LIGHT;DOWN HEAVY AND UP HORIZONTAL LIGHT
;VERTICAL HEAVY AND HORIZONTAL LIGHT;LEFT UP HEAVY AND RIGHT DOWN LIGHT
;RIGHT UP HEAVY AND LEFT DOWN LIGHT;LEFT DOWN HEAVY AND RIGHT UP LIGHT
;RIGHT DOWN HEAVY AND LEFT UP LIGHT;DOWN LIGHT AND UP HORIZONTAL HEAVY
;UP LIGHT AND DOWN HORIZONTAL HEAVY;RIGHT LIGHT AND LEFT VERTICAL HEAVY
;LEFT LIGHT AND RIGHT VERTICAL HEAVY;HEAVY VERTICAL AND HORIZONTAL;LIGHT DOUBLE DASH HORIZONTAL
;HEAVY DOUBLE DASH HORIZONTAL;LIGHT DOUBLE DASH VERTICAL;HEAVY DOUBLE DASH VERTICAL
;DOUBLE HORIZONTAL;DOUBLE VERTICAL;DOWN SINGLE AND RIGHT DOUBLE;DOWN DOUBLE AND RIGHT SINGLE
;DOUBLE DOWN AND RIGHT;DOWN SINGLE AND LEFT DOUBLE;DOWN DOUBLE AND LEFT SINGLE
;DOUBLE DOWN AND LEFT;UP SINGLE AND RIGHT DOUBLE;UP DOUBLE AND RIGHT SINGLE;DOUBLE UP AND RIGHT
;UP SINGLE AND LEFT DOUBLE;UP DOUBLE AND LEFT SINGLE;DOUBLE UP AND LEFT
;VERTICAL SINGLE AND RIGHT DOUBLE;VERTICAL DOUBLE AND RIGHT SINGLE;DOUBLE VERTICAL AND RIGHT
;VERTICAL SINGLE AND LEFT DOUBLE;VERTICAL DOUBLE AND LEFT SINGLE;DOUBLE VERTICAL AND LEFT
;DOWN SINGLE AND HORIZONTAL DOUBLE;DOWN DOUBLE AND HORIZONTAL SINGLE;DOUBLE DOWN AND HORIZONTAL
;UP SINGLE AND HORIZONTAL DOUBLE;UP DOUBLE AND HORIZONTAL SINGLE;DOUBLE UP AND HORIZONTAL
;VERTICAL SINGLE AND HORIZONTAL DOUBLE;VERTICAL DOUBLE AND HORIZONTAL SINGLE
;DOUBLE VERTICAL AND HORIZONTAL
256D;BOX DRAWINGS LIGHT ;ARC DOWN AND RIGHT;ARC DOWN AND LEFT;ARC UP AND LEFT;ARC UP AND RIGHT
;DIAGONAL UPPER RIGHT TO LOWER LEFT;DIAGONAL UPPER LEFT TO LOWER RIGHT;DIAGONAL CROSS;LEFT;UP
;RIGHT;DOWN
2578;BOX DRAWINGS ;HEAVY LEFT;HEAVY UP;HEAVY RIGHT;HEAVY DOWN;LIGHT LEFT AND HEAVY RIGHT
;LIGHT UP AND HEAVY DOWN;HEAVY LEFT AND LIGHT RIGHT;HEAVY UP AND LIGHT DOWN
2580;UPPER HALF BLOCK;
2581;LOWER ;ONE EIGHTH BLOCK;ONE QUARTER BLOCK;THREE EIGHTHS BLOCK;HALF BLOCK;FIVE EIGHTHS BLOCK
;THREE QUARTERS BLOCK;SEVEN EIGHTHS BLOCK
2588;FULL BLOCK;
2589;LEFT ;SEVEN EIGHTHS BLOCK;THREE QUARTERS BLOCK;FIVE EIGHTHS BLOCK;HALF BLOCK
;THREE EIGHTHS BLOCK;ONE QUARTER BLOCK;ONE EIGHTH BLOCK
2590;;RIGHT HALF BLOCK;LIGHT SHADE;MEDIUM SHADE;DARK SHADE;UPPER ONE EIGHTH BLOCK
;RIGHT ONE EIGHTH BLOCK
2596;QUADRANT LOWER ;LEFT;RIGHT
2598;QUADRANT UPPER LEFT;; AND LOWER LEFT AND LOWER RIGHT; AND LOWER RIGHT
259B;QUADRANT UPPER LEFT AND UPPER RIGHT AND LOWER ;LEFT;RIGHT
259D;QUADRANT UPPER RIGHT;; AND LOWER LEFT; AND LOWER LEFT AND LOWER RIGHT
25A0;BLACK SQUARE;
25A1;WHITE SQUARE;; WITH ROUNDED CORNERS; CONTAINING BLACK SMALL SQUARE
25A4;SQUARE WITH ;HORIZONTAL FILL;VERTICAL FILL;ORTHOGONAL CROSSHATCH FILL
;UPPER LEFT TO LOWER RIGHT FILL;UPPER RIGHT TO LOWER LEFT FILL;DIAGONAL CROSSHATCH FILL
25AA;;BLACK SMALL SQUARE;WHITE SMALL SQUARE;BLACK RECTANGLE;WHITE RECTANGLE
;BLACK VERTICAL RECTANGLE;WHITE VERTICAL RECTANGLE;BLACK PARALLELOGRAM;WHITE PARALLELOGRAM
;BLACK UP-POINTING TRIANGLE;WHITE UP-POINTING TRIANGLE;BLACK UP-POINTING SMALL TRIANGLE
;WHITE UP-POINTING SMALL TRIANGLE;BLACK RIGHT-POINTING TRIANGLE;WHITE RIGHT-POINTING TRIANGLE
;BLACK RIGHT-POINTING SMALL TRIANGLE;WHITE RIGHT-POINTING SMALL TRIANGLE
;BLACK RIGHT-POINTING POINTER;WHITE RIGHT-POINTING POINTER;BLACK DOWN-POINTING TRIANGLE
;WHITE DOWN-POINTING TRIANGLE;BLACK DOWN-POINTING SMALL TRIANGLE
;WHITE DOWN-POINTING SMALL TRIANGLE;BLACK LEFT-POINTING TRIANGLE;WHITE LEFT-POINTING TRIANGLE
;BLACK LEFT-POINTING SMALL TRIANGLE;WHITE LEFT-POINTING SMALL TRIANGLE
;BLACK LEFT-POINTING POINTER;WHITE LEFT-POINTING POINTER;BLACK DIAMOND;WHITE DIAMOND
;WHITE DIAMOND CONTAINING BLACK SMALL DIAMOND;FISHEYE;LOZENGE;WHITE CIRCLE;DOTTED CIRCLE
;CIRCLE WITH VERTICAL FILL;BULLSEYE;BLACK CIRCLE
25D0;CIRCLE WITH ;LEFT HALF BLACK;RIGHT HALF BLACK;LOWER HALF BLACK;UPPER HALF BLACK
;UPPER RIGHT QUADRANT BLACK;ALL BUT UPPER LEFT QUADRANT BLACK
25D6;;LEFT HALF BLACK CIRCLE;RIGHT HALF BLACK CIRCLE;INVERSE BULLET;INVERSE WHITE CIRCLE
;UPPER HALF INVERSE WHITE CIRCLE;LOWER HALF INVERSE WHITE CIRCLE
;UPPER LEFT QUADRANT CIRCULAR ARC;UPPER RIGHT QUADRANT CIRCULAR ARC
;LOWER RIGHT QUADRANT CIRCULAR ARC;LOWER LEFT QUADRANT CIRCULAR ARC;UPPER HALF CIRCLE
;LOWER HALF CIRCLE
25E2;BLACK ;LOWER RIGHT TRIANGLE;LOWER LEFT TRIANGLE;UPPER LEFT TRIANGLE;UPPER RIGHT TRIANGLE
25E6;WHITE BULLET;
25E7;SQUARE WITH ;LEFT HALF BLACK;RIGHT HALF BLACK;UPPER LEFT DIAGONAL HALF BLACK
;LOWER RIGHT DIAGONAL HALF BLACK
25EB;WHITE ;SQUARE WITH VERTICAL BISECTING LINE;UP-POINTING TRIANGLE WITH DOT
25ED;UP-POINTING TRIANGLE WITH ;LEFT HALF BLACK;RIGHT HALF BLACK
25EF;LARGE CIRCLE;
25F0;WHITE SQUARE WITH ;UPPER LEFT QUADRANT;LOWER LEFT QUADRANT;LOWER RIGHT QUADRANT
;UPPER RIGHT QUADRANT
25F4;WHITE CIRCLE WITH ;UPPER LEFT QUADRANT;LOWER LEFT QUADRANT;LOWER RIGHT QUADRANT
;UPPER RIGHT QUADRANT
25F8;;UPPER LEFT TRIANGLE;UPPER RIGHT TRIANGLE;LOWER LEFT TRIANGLE;WHITE MEDIUM SQUARE
;BLACK MEDIUM SQUARE;WHITE MEDIUM SMALL SQUARE;BLACK MEDIUM SMALL SQUARE;LOWER RIGHT TRIANGLE
;BLACK SUN WITH RAYS;CLOUD;UMBRELLA;SNOWMAN;COMET;BLACK STAR;WHITE STAR;LIGHTNING;THUNDERSTORM
;SUN;ASCENDING NODE;DESCENDING NODE;CONJUNCTION;OPPOSITION;BLACK TELEPHONE;WHITE TELEPHONE
2610;BALLOT BOX;; WITH CHECK; WITH X
2613;;SALTIRE;UMBRELLA WITH RAIN DROPS;HOT BEVERAGE;WHITE SHOGI PIECE;BLACK SHOGI PIECE;SHAMROCK
;REVERSED ROTATED FLORAL HEART BULLET;BLACK LEFT POINTING INDEX;BLACK RIGHT POINTING INDEX
261C;WHITE ;LEFT POINTING INDEX;UP POINTING INDEX;RIGHT POINTING INDEX;DOWN POINTING INDEX
2620;;SKULL AND CROSSBONES;CAUTION SIGN;RADIOACTIVE SIGN;BIOHAZARD SIGN;CADUCEUS;ANKH
;ORTHODOX CROSS;CHI RHO;CROSS OF LORRAINE;CROSS OF JERUSALEM;STAR AND CRESCENT;FARSI SYMBOL
;ADI SHAKTI;HAMMER AND SICKLE;PEACE SYMBOL;YIN YANG
2630;TRIGRAM FOR ;HEAVEN;LAKE;FIRE;THUNDER;WIND;WATER;MOUNTAIN;EARTH
2638;;WHEEL OF DHARMA;WHITE FROWNING FACE;WHITE SMILING FACE;BLACK SMILING FACE
;WHITE SUN WITH RAYS;FIRST QUARTER MOON;LAST QUARTER MOON;MERCURY;FEMALE SIGN;EARTH;MALE SIGN
;JUPITER;SATURN;URANUS;NEPTUNE;PLUTO;ARIES;TAURUS;GEMINI;CANCER;LEO;VIRGO;LIBRA;SCORPIUS
;SAGITTARIUS;CAPRICORN;AQUARIUS;PISCES
2654;WHITE CHESS ;KING;QUEEN;ROOK;BISHOP;KNIGHT;PAWN
265A;BLACK CHESS ;KING;QUEEN;ROOK;BISHOP;KNIGHT;PAWN
2660;;BLACK SPADE SUIT;WHITE HEART SUIT;WHITE DIAMOND SUIT;BLACK CLUB SUIT;WHITE SPADE SUIT
;BLACK HEART SUIT;BLACK DIAMOND SUIT;WHITE CLUB SUIT;HOT SPRINGS;QUARTER NOTE;EIGHTH NOTE
;BEAMED EIGHTH NOTES;BEAMED SIXTEENTH NOTES;MUSIC FLAT SIGN;MUSIC NATURAL SIGN;MUSIC SHARP SIGN
;WEST SYRIAC CROSS;EAST SYRIAC CROSS;UNIVERSAL RECYCLING SYMBOL
2673;RECYCLING SYMBOL FOR TYPE-;1 PLASTICS;2 PLASTICS;3 PLASTICS;4 PLASTICS;5 PLASTICS
;6 PLASTICS;7 PLASTICS
267A;;RECYCLING SYMBOL FOR GENERIC MATERIALS;BLACK UNIVERSAL RECYCLING SYMBOL
;RECYCLED PAPER SYMBOL;PARTIALLY-RECYCLED PAPER SYMBOL;PERMANENT PAPER SIGN;WHEELCHAIR SYMBOL
2680;DIE FACE-;1;2;3;4;5;6
2686;WHITE CIRCLE WITH ;DOT RIGHT;TWO DOTS
2688;BLACK CIRCLE WITH ;WHITE DOT RIGHT;TWO WHITE DOTS
268A;MONOGRAM FOR Y;ANG;IN
268C;DIGRAM FOR ;GREATER YANG;LESSER YIN;LESSER YANG;GREATER YIN
2690;;WHITE FLAG;BLACK FLAG;HAMMER AND PICK;ANCHOR;CROSSED SWORDS;STAFF OF AESCULAPIUS;SCALES
;ALEMBIC;FLOWER;GEAR;STAFF OF HERMES;ATOM SYMBOL;FLEUR-DE-LIS;OUTLINED WHITE STAR
269E;THREE LINES CONVERGING ;RIGHT;LEFT
26A0;;WARNING SIGN;HIGH VOLTAGE SIGN;DOUBLED FEMALE SIGN;DOUBLED MALE SIGN
;INTERLOCKED FEMALE AND MALE SIGN;MALE AND FEMALE SIGN
26A6;MALE WITH STROKE ;SIGN;AND MALE AND FEMALE SIGN
26A8;;VERTICAL MALE WITH STROKE SIGN;HORIZONTAL MALE WITH STROKE SIGN;MEDIUM WHITE CIRCLE
;MEDIUM BLACK CIRCLE;MEDIUM SMALL WHITE CIRCLE;MARRIAGE SYMBOL;DIVORCE SYMBOL
;UNMARRIED PARTNERSHIP SYMBOL;COFFIN;FUNERAL URN;NEUTER;CERES;PALLAS;JUNO;VESTA;CHIRON
;BLACK MOON LILITH;SEXTILE;SEMISEXTILE;QUINCUNX;SESQUIQUADRATE;SOCCER BALL;BASEBALL;SQUARED KEY
26C0;WHITE DRAUGHTS ;MAN;KING
26C2;BLACK DRAUGHTS ;MAN;KING
26C4;;SNOWMAN WITHOUT SNOW;SUN BEHIND CLOUD;RAIN;BLACK SNOWMAN;THUNDER CLOUD AND RAIN
;TURNED WHITE SHOGI PIECE;TURNED BLACK SHOGI PIECE;WHITE DIAMOND IN SQUARE;CROSSING LANES
;DISABLED CAR;OPHIUCHUS;PICK;CAR SLIDING;HELMET WITH WHITE CROSS;CIRCLED CROSSING LANES;CHAINS
;NO ENTRY;ALTERNATE ONE-WAY LEFT WAY TRAFFIC;BLACK TWO-WAY LEFT WAY TRAFFIC
;WHITE TWO-WAY LEFT WAY TRAFFIC;BLACK LEFT LANE MERGE;WHITE LEFT LANE MERGE;DRIVE SLOW SIGN
;HEAVY WHITE DOWN-POINTING TRIANGLE;LEFT CLOSED ENTRY;SQUARED SALTIRE
;FALLING DIAGONAL IN WHITE CIRCLE IN BLACK SQUARE;BLACK TRUCK
26E0;RESTRICTED LEFT ENTRY-;1;2
26E2;;ASTRONOMICAL SYMBOL FOR URANUS;HEAVY CIRCLE WITH STROKE AND TWO DOTS ABOVE;PENTAGRAM
;RIGHT-HANDED INTERLACED PENTAGRAM;LEFT-HANDED INTERLACED PENTAGRAM;INVERTED PENTAGRAM
;BLACK CROSS ON SHIELD;SHINTO SHRINE;CHURCH;CASTLE;HISTORIC SITE;GEAR WITHOUT HUB
;GEAR WITH HANDLES;MAP SYMBOL FOR LIGHTHOUSE;MOUNTAIN;UMBRELLA ON GROUND;FOUNTAIN;FLAG IN HOLE
;FERRY;SAILBOAT;SQUARE FOUR CORNERS;SKIER;ICE SKATE;PERSON WITH BALL;TENT;JAPANESE BANK SYMBOL
;HEADSTONE GRAVEYARD SYMBOL;FUEL PUMP;CUP ON BLACK SQUARE
;WHITE FLAG WITH HORIZONTAL MIDDLE BLACK STRIPE;BLACK SAFETY SCISSORS;UPPER BLADE SCISSORS
;BLACK SCISSORS;LOWER BLADE SCISSORS;WHITE SCISSORS;WHITE HEAVY CHECK MARK
;TELEPHONE LOCATION SIGN;TAPE DRIVE;AIRPLANE;ENVELOPE;RAISED FIST;RAISED HAND;VICTORY HAND
;WRITING HAND;LOWER RIGHT PENCIL;PENCIL;UPPER RIGHT PENCIL;WHITE NIB;BLACK NIB;CHECK MARK
;HEAVY CHECK MARK;MULTIPLICATION X;HEAVY MULTIPLICATION X;BALLOT X;HEAVY BALLOT X
;OUTLINED GREEK CROSS;HEAVY GREEK CROSS;OPEN CENTRE CROSS;HEAVY OPEN CENTRE CROSS;LATIN CROSS
;SHADOWED WHITE LATIN CROSS;OUTLINED LATIN CROSS;MALTESE CROSS;STAR OF DAVID
;FOUR TEARDROP-SPOKED ASTERISK;FOUR BALLOON-SPOKED ASTERISK;HEAVY FOUR BALLOON-SPOKED ASTERISK
;FOUR CLUB-SPOKED ASTERISK;BLACK FOUR POINTED STAR;WHITE FOUR POINTED STAR;SPARKLES
;STRESS OUTLINED WHITE STAR;CIRCLED WHITE STAR;OPEN CENTRE BLACK STAR;BLACK CENTRE WHITE STAR
;OUTLINED BLACK STAR;HEAVY OUTLINED BLACK STAR;PINWHEEL STAR;SHADOWED WHITE STAR;HEAVY ASTERISK
;OPEN CENTRE ASTERISK;EIGHT SPOKED ASTERISK;EIGHT POINTED BLACK STAR;EIGHT POINTED PINWHEEL STAR
;SIX POINTED BLACK STAR;EIGHT POINTED RECTILINEAR BLACK STAR
;HEAVY EIGHT POINTED RECTILINEAR BLACK STAR;TWELVE POINTED BLACK STAR;SIXTEEN POINTED ASTERISK
;TEARDROP-SPOKED ASTERISK;OPEN CENTRE TEARDROP-SPOKED ASTERISK;HEAVY TEARDROP-SPOKED ASTERISK
;SIX PETALLED BLACK AND WHITE FLORETTE;BLACK FLORETTE;WHITE FLORETTE
;EIGHT PETALLED OUTLINED BLACK FLORETTE;CIRCLED OPEN CENTRE EIGHT POINTED STAR
;HEAVY TEARDROP-SPOKED PINWHEEL ASTERISK;SNOWFLAKE;TIGHT TRIFOLIATE SNOWFLAKE
;HEAVY CHEVRON SNOWFLAKE;SPARKLE;HEAVY SPARKLE;BALLOON-SPOKED ASTERISK
;EIGHT TEARDROP-SPOKED PROPELLER ASTERISK;HEAVY EIGHT TEARDROP-SPOKED PROPELLER ASTERISK
;CROSS MARK;SHADOWED WHITE CIRCLE;NEGATIVE SQUARED CROSS MARK
;LOWER RIGHT DROP-SHADOWED WHITE SQUARE;UPPER RIGHT DROP-SHADOWED WHITE SQUARE
;LOWER RIGHT SHADOWED WHITE SQUARE;UPPER RIGHT SHADOWED WHITE SQUARE
;BLACK QUESTION MARK ORNAMENT;WHITE QUESTION MARK ORNAMENT;WHITE EXCLAMATION MARK ORNAMENT
;BLACK DIAMOND MINUS WHITE X;HEAVY EXCLAMATION MARK SYMBOL;LIGHT VERTICAL BAR
;MEDIUM VERTICAL BAR
275A;HEAVY ;VERTICAL BAR;SINGLE TURNED COMMA QUOTATION MARK ORNAMENT
;SINGLE COMMA QUOTATION MARK ORNAMENT;DOUBLE TURNED COMMA QUOTATION MARK ORNAMENT
;DOUBLE COMMA QUOTATION MARK ORNAMENT;LOW SINGLE COMMA QUOTATION MARK ORNAMENT
;LOW DOUBLE COMMA QUOTATION MARK ORNAMENT
2761;;CURVED STEM PARAGRAPH SIGN ORNAMENT;HEAVY EXCLAMATION MARK ORNAMENT
;HEAVY HEART EXCLAMATION MARK ORNAMENT;HEAVY BLACK HEART;ROTATED HEAVY BLACK HEART BULLET
;FLORAL HEART;ROTATED FLORAL HEART BULLET
2768;MEDIUM ;LEFT PARENTHESIS ORNAMENT;RIGHT PARENTHESIS ORNAMENT
;FLATTENED LEFT PARENTHESIS ORNAMENT;FLATTENED RIGHT PARENTHESIS ORNAMENT
;LEFT-POINTING ANGLE BRACKET ORNAMENT;RIGHT-POINTING ANGLE BRACKET ORNAMENT
276E;HEAVY ;LEFT-POINTING ANGLE QUOTATION MARK ORNAMENT
;RIGHT-POINTING ANGLE QUOTATION MARK ORNAMENT;LEFT-POINTING ANGLE BRACKET ORNAMENT
;RIGHT-POINTING ANGLE BRACKET ORNAMENT
2772;LIGHT ;LEFT TORTOISE SHELL BRACKET ORNAMENT;RIGHT TORTOISE SHELL BRACKET ORNAMENT
2774;MEDIUM ;LEFT CURLY BRACKET ORNAMENT;RIGHT CURLY BRACKET ORNAMENT
2776;DINGBAT NEGATIVE CIRCLED DIGIT ;ONE;TWO;THREE;FOUR;FIVE;SIX;SEVEN;EIGHT;NINE
277F;DINGBAT NEGATIVE CIRCLED NUMBER TEN;
2780;DINGBAT CIRCLED SANS-SERIF DIGIT ;ONE;TWO;THREE;FOUR;FIVE;SIX;SEVEN;EIGHT;NINE
2789;DINGBAT CIRCLED SANS-SERIF NUMBER TEN;
278A;DINGBAT NEGATIVE CIRCLED SANS-SERIF DIGIT ;ONE;TWO;THREE;FOUR;FIVE;SIX;SEVEN;EIGHT;NINE
2793;DINGBAT NEGATIVE CIRCLED SANS-SERIF NUMBER TEN;
2794;HEAVY ;WIDE-HEADED RIGHTWARDS ARROW;PLUS SIGN;MINUS SIGN;DIVISION SIGN;SOUTH EAST ARROW
;RIGHTWARDS ARROW;NORTH EAST ARROW
279B;;DRAFTING POINT RIGHTWARDS ARROW;HEAVY ROUND-TIPPED RIGHTWARDS ARROW
;TRIANGLE-HEADED RIGHTWARDS ARROW;HEAVY TRIANGLE-HEADED RIGHTWARDS ARROW
;DASHED TRIANGLE-HEADED RIGHTWARDS ARROW;HEAVY DASHED TRIANGLE-HEADED RIGHTWARDS ARROW
;BLACK RIGHTWARDS ARROW;THREE-D TOP-LIGHTED RIGHTWARDS ARROWHEAD
;THREE-D BOTTOM-LIGHTED RIGHTWARDS ARROWHEAD;BLACK RIGHTWARDS ARROWHEAD
27A5;HEAVY BLACK CURVED ;DOWNWARDS AND RIGHTWARDS ARROW;UPWARDS AND RIGHTWARDS ARROW
27A7;;SQUAT BLACK RIGHTWARDS ARROW;HEAVY CONCAVE-POINTED BLACK RIGHTWARDS ARROW
;RIGHT-SHADED WHITE RIGHTWARDS ARROW;LEFT-SHADED WHITE RIGHTWARDS ARROW
;BACK-TILTED SHADOWED WHITE RIGHTWARDS ARROW;FRONT-TILTED SHADOWED WHITE RIGHTWARDS ARROW
;HEAVY LOWER RIGHT-SHADOWED WHITE RIGHTWARDS ARROW
;HEAVY UPPER RIGHT-SHADOWED WHITE RIGHTWARDS ARROW
;NOTCHED LOWER RIGHT-SHADOWED WHITE RIGHTWARDS ARROW;CURLY LOOP
;NOTCHED UPPER RIGHT-SHADOWED WHITE RIGHTWARDS ARROW;CIRCLED HEAVY WHITE RIGHTWARDS ARROW
;WHITE-FEATHERED RIGHTWARDS ARROW
27B4;BLACK-FEATHERED ;SOUTH EAST ARROW;RIGHTWARDS ARROW;NORTH EAST ARROW
27B7;HEAVY BLACK-FEATHERED ;SOUTH EAST ARROW;RIGHTWARDS ARROW;NORTH EAST ARROW
27BA;;TEARDROP-BARBED RIGHTWARDS ARROW;HEAVY TEARDROP-SHANKED RIGHTWARDS ARROW
;WEDGE-TAILED RIGHTWARDS ARROW;HEAVY WEDGE-TAILED RIGHTWARDS ARROW
;OPEN-OUTLINED RIGHTWARDS ARROW;DOUBLE CURLY LOOP;THREE DIMENSIONAL ANGLE
;WHITE TRIANGLE CONTAINING SMALL WHITE TRIANGLE;PERPENDICULAR;OPEN SUBSET;OPEN SUPERSET
;LEFT S-SHAPED BAG DELIMITER;RIGHT S-SHAPED BAG DELIMITER;OR WITH DOT INSIDE
;REVERSE SOLIDUS PRECEDING SUBSET;SUPERSET PRECEDING SOLIDUS;VERTICAL BAR WITH HORIZONTAL STROKE
;MATHEMATICAL RISING DIAGONAL;LONG DIVISION;MATHEMATICAL FALLING DIAGONAL
27CE;SQUARED LOGICAL ;AND;OR
27D0;;WHITE DIAMOND WITH CENTRED DOT;AND WITH DOT;ELEMENT OF OPENING UPWARDS
;LOWER RIGHT CORNER WITH DOT;UPPER LEFT CORNER WITH DOT;LEFT OUTER JOIN;RIGHT OUTER JOIN
;FULL OUTER JOIN;LARGE UP TACK;LARGE DOWN TACK
27DA;LEFT AND RIGHT ;DOUBLE TURNSTILE;TACK
27DC;;LEFT MULTIMAP;LONG RIGHT TACK;LONG LEFT TACK;UP TACK WITH CIRCLE ABOVE
;LOZENGE DIVIDED BY HORIZONTAL RULE
27E1;WHITE CONCAVE-SIDED DIAMOND;; WITH LEFTWARDS TICK; WITH RIGHTWARDS TICK
27E4;WHITE SQUARE WITH ;LEFTWARDS TICK;RIGHTWARDS TICK
27E6;MATHEMATICAL ;LEFT WHITE SQUARE BRACKET;RIGHT WHITE SQUARE BRACKET;LEFT ANGLE BRACKET
;RIGHT ANGLE BRACKET;LEFT DOUBLE ANGLE BRACKET;RIGHT DOUBLE ANGLE BRACKET
;LEFT WHITE TORTOISE SHELL BRACKET;RIGHT WHITE TORTOISE SHELL BRACKET;LEFT FLATTENED PARENTHESIS
;RIGHT FLATTENED PARENTHESIS
27F0;;UPWARDS QUADRUPLE ARROW;DOWNWARDS QUADRUPLE ARROW;ANTICLOCKWISE GAPPED CIRCLE ARROW
;CLOCKWISE GAPPED CIRCLE ARROW;RIGHT ARROW WITH CIRCLED PLUS
27F5;LONG ;LEFTWARDS ARROW;RIGHTWARDS ARROW;LEFT RIGHT ARROW;LEFTWARDS DOUBLE ARROW
;RIGHTWARDS DOUBLE ARROW;LEFT RIGHT DOUBLE ARROW;LEFTWARDS ARROW FROM BAR
;RIGHTWARDS ARROW FROM BAR;LEFTWARDS DOUBLE ARROW FROM BAR;RIGHTWARDS DOUBLE ARROW FROM BAR
;RIGHTWARDS SQUIGGLE ARROW
2800;BRAILLE PATTERN BLANK;
2801;BRAILLE PATTERN DOTS-;1;2;12;3;13;23;123;4;14;24;124;34;134;234;1234;5;15;25;125;35;135;235
;1235;45;145;245;1245;345;1345;2345;12345;6;16;26;126;36;136;236;1236;46;146;246;1246;346;1346
;2346;12346;56;156;256;1256;356;1356;2356;12356;456;1456;2456;12456;3456;13456;23456;123456;7;17
;27;127;37;137;237;1237;47;147;247;1247;347;1347;2347;12347;57;157;257;1257;357;1357;2357;12357
;457;1457;2457;12457;3457;13457;23457;123457;67;167;267;1267;367;1367;2367;12367;467;1467;2467
;12467;3467;13467;23467;123467;567;1567;2567;12567;3567;13567;23567;123567;4567;14567;24567
;124567;34567;134567;234567;1234567;8;18;28;128;38;138;238;1238;48;148;248;1248;348;1348;2348
;12348;58;158;258;1258;358;1358;2358;12358;458;1458;2458;12458;3458;13458;23458;123458;68;168
;268;1268;368;1368;2368;12368;468;1468;2468;12468;3468;13468;23468;123468;568;1568;2568;12568
;3568;13568;23568;123568;4568;14568;24568;124568;34568;134568;234568;1234568;78;178;278;1278;378
;1378;2378;12378;478;1478;2478;12478;3478;13478;23478;123478;578;1578;2578;12578;3578;13578
;23578;123578;4578;14578;24578;124578;34578;134578;234578;1234578;678;1678;2678;12678;3678;13678
;23678;123678;4678;14678;24678;124678;34678;134678;234678;1234678;5678;15678;25678;125678;35678
;135678;235678;1235678;45678;145678;245678;1245678;345678;1345678;2345678;12345678
2900;RIGHTWARDS TWO-HEADED ARROW WITH ;VERTICAL STROKE;DOUBLE VERTICAL STROKE
2902;;LEFTWARDS DOUBLE ARROW WITH VERTICAL STROKE;RIGHTWARDS DOUBLE ARROW WITH VERTICAL STROKE
;LEFT RIGHT DOUBLE ARROW WITH VERTICAL STROKE;RIGHTWARDS TWO-HEADED ARROW FROM BAR
;LEFTWARDS DOUBLE ARROW FROM BAR;RIGHTWARDS DOUBLE ARROW FROM BAR
;DOWNWARDS ARROW WITH HORIZONTAL STROKE;UPWARDS ARROW WITH HORIZONTAL STROKE
;UPWARDS TRIPLE ARROW;DOWNWARDS TRIPLE ARROW;LEFTWARDS DOUBLE DASH ARROW
;RIGHTWARDS DOUBLE DASH ARROW;LEFTWARDS TRIPLE DASH ARROW
290F;RIGHTWARDS ;TRIPLE DASH ARROW;TWO-HEADED TRIPLE DASH ARROW;ARROW WITH DOTTED STEM
2912;;UPWARDS ARROW TO BAR;DOWNWARDS ARROW TO BAR
2914;RIGHTWARDS ARROW WITH TAIL WITH ;VERTICAL STROKE;DOUBLE VERTICAL STROKE
2916;RIGHTWARDS TWO-HEADED ARROW WITH TAIL;; WITH VERTICAL STROKE; WITH DOUBLE VERTICAL STROKE
2919;;LEFTWARDS ARROW-TAIL;RIGHTWARDS ARROW-TAIL;LEFTWARDS DOUBLE ARROW-TAIL
;RIGHTWARDS DOUBLE ARROW-TAIL;LEFTWARDS ARROW TO BLACK DIAMOND;RIGHTWARDS ARROW TO BLACK DIAMOND
;LEFTWARDS ARROW FROM BAR TO BLACK DIAMOND;RIGHTWARDS ARROW FROM BAR TO BLACK DIAMOND
2921;NORTH ;WEST AND SOUTH EAST ARROW;EAST AND SOUTH WEST ARROW;WEST ARROW WITH HOOK
;EAST ARROW WITH HOOK
2925;;SOUTH EAST ARROW WITH HOOK;SOUTH WEST ARROW WITH HOOK
;NORTH WEST ARROW AND NORTH EAST ARROW;NORTH EAST ARROW AND SOUTH EAST ARROW
;SOUTH EAST ARROW AND SOUTH WEST ARROW;SOUTH WEST ARROW AND NORTH WEST ARROW
;RISING DIAGONAL CROSSING FALLING DIAGONAL;FALLING DIAGONAL CROSSING RISING DIAGONAL
;SOUTH EAST ARROW CROSSING NORTH EAST ARROW;NORTH EAST ARROW CROSSING SOUTH EAST ARROW
;FALLING DIAGONAL CROSSING NORTH EAST ARROW;RISING DIAGONAL CROSSING SOUTH EAST ARROW
;NORTH EAST ARROW CROSSING NORTH WEST ARROW;NORTH WEST ARROW CROSSING NORTH EAST ARROW
;WAVE ARROW POINTING DIRECTLY RIGHT
2934;ARROW POINTING RIGHTWARDS THEN CURVING ;UPWARDS;DOWNWARDS
2936;ARROW POINTING DOWNWARDS THEN CURVING ;LEFTWARDS;RIGHTWARDS
2938;;RIGHT-SIDE ARC CLOCKWISE ARROW;LEFT-SIDE ARC ANTICLOCKWISE ARROW
;TOP ARC ANTICLOCKWISE ARROW;BOTTOM ARC ANTICLOCKWISE ARROW;TOP ARC CLOCKWISE ARROW WITH MINUS
;TOP ARC ANTICLOCKWISE ARROW WITH PLUS;LOWER RIGHT SEMICIRCULAR CLOCKWISE ARROW
;LOWER LEFT SEMICIRCULAR ANTICLOCKWISE ARROW;ANTICLOCKWISE CLOSED CIRCLE ARROW
;CLOCKWISE CLOSED CIRCLE ARROW;RIGHTWARDS ARROW ABOVE SHORT LEFTWARDS ARROW
;LEFTWARDS ARROW ABOVE SHORT RIGHTWARDS ARROW;SHORT RIGHTWARDS ARROW ABOVE LEFTWARDS ARROW
;RIGHTWARDS ARROW WITH PLUS BELOW;LEFTWARDS ARROW WITH PLUS BELOW;RIGHTWARDS ARROW THROUGH X
;LEFT RIGHT ARROW THROUGH SMALL CIRCLE;UPWARDS TWO-HEADED ARROW FROM SMALL CIRCLE
;LEFT BARB UP RIGHT BARB DOWN HARPOON;LEFT BARB DOWN RIGHT BARB UP HARPOON
;UP BARB RIGHT DOWN BARB LEFT HARPOON;UP BARB LEFT DOWN BARB RIGHT HARPOON
;LEFT BARB UP RIGHT BARB UP HARPOON;UP BARB RIGHT DOWN BARB RIGHT HARPOON
;LEFT BARB DOWN RIGHT BARB DOWN HARPOON;UP BARB LEFT DOWN BARB LEFT HARPOON
;LEFTWARDS HARPOON WITH BARB UP TO BAR;RIGHTWARDS HARPOON WITH BARB UP TO BAR
;UPWARDS HARPOON WITH BARB RIGHT TO BAR;DOWNWARDS HARPOON WITH BARB RIGHT TO BAR
;LEFTWARDS HARPOON WITH BARB DOWN TO BAR;RIGHTWARDS HARPOON WITH BARB DOWN TO BAR
;UPWARDS HARPOON WITH BARB LEFT TO BAR;DOWNWARDS HARPOON WITH BARB LEFT TO BAR
;LEFTWARDS HARPOON WITH BARB UP FROM BAR;RIGHTWARDS HARPOON WITH BARB UP FROM BAR
;UPWARDS HARPOON WITH BARB RIGHT FROM BAR;DOWNWARDS HARPOON WITH BARB RIGHT FROM BAR
;LEFTWARDS HARPOON WITH BARB DOWN FROM BAR;RIGHTWARDS HARPOON WITH BARB DOWN FROM BAR
;UPWARDS HARPOON WITH BARB LEFT FROM BAR;DOWNWARDS HARPOON WITH BARB LEFT FROM BAR
;LEFTWARDS HARPOON WITH BARB UP ABOVE LEFTWARDS HARPOON WITH BARB DOWN
;UPWARDS HARPOON WITH BARB LEFT BESIDE UPWARDS HARPOON WITH BARB RIGHT
;RIGHTWARDS HARPOON WITH BARB UP ABOVE RIGHTWARDS HARPOON WITH BARB DOWN
;DOWNWARDS HARPOON WITH BARB LEFT BESIDE DOWNWARDS HARPOON WITH BARB RIGHT
2966;LEFTWARDS HARPOON WITH BARB ;UP ABOVE RIGHTWARDS HARPOON WITH BARB UP
;DOWN ABOVE RIGHTWARDS HARPOON WITH BARB DOWN
2968;RIGHTWARDS HARPOON WITH BARB ;UP ABOVE LEFTWARDS HARPOON WITH BARB UP
;DOWN ABOVE LEFTWARDS HARPOON WITH BARB DOWN
296A;LEFTWARDS HARPOON WITH BARB ;UP ABOVE LONG DASH;DOWN BELOW LONG DASH
296C;RIGHTWARDS HARPOON WITH BARB ;UP ABOVE LONG DASH;DOWN BELOW LONG DASH
296E;;UPWARDS HARPOON WITH BARB LEFT BESIDE DOWNWARDS HARPOON WITH BARB RIGHT
;DOWNWARDS HARPOON WITH BARB LEFT BESIDE UPWARDS HARPOON WITH BARB RIGHT
;RIGHT DOUBLE ARROW WITH ROUNDED HEAD;EQUALS SIGN ABOVE RIGHTWARDS ARROW
;TILDE OPERATOR ABOVE RIGHTWARDS ARROW;LEFTWARDS ARROW ABOVE TILDE OPERATOR
2974;RIGHTWARDS ARROW ABOVE ;TILDE OPERATOR;ALMOST EQUAL TO
2976;;LESS-THAN ABOVE LEFTWARDS ARROW;LEFTWARDS ARROW THROUGH LESS-THAN
;GREATER-THAN ABOVE RIGHTWARDS ARROW;SUBSET ABOVE RIGHTWARDS ARROW
;LEFTWARDS ARROW THROUGH SUBSET;SUPERSET ABOVE LEFTWARDS ARROW;LEFT FISH TAIL;RIGHT FISH TAIL
;UP FISH TAIL;DOWN FISH TAIL;TRIPLE VERTICAL BAR DELIMITER;Z NOTATION SPOT;Z NOTATION TYPE COLON
;LEFT WHITE CURLY BRACKET;RIGHT WHITE CURLY BRACKET;LEFT WHITE PARENTHESIS
;RIGHT WHITE PARENTHESIS
2987;Z NOTATION ;LEFT IMAGE BRACKET;RIGHT IMAGE BRACKET;LEFT BINDING BRACKET
;RIGHT BINDING BRACKET
298B;;LEFT SQUARE BRACKET WITH UNDERBAR;RIGHT SQUARE BRACKET WITH UNDERBAR
;LEFT SQUARE BRACKET WITH TICK IN TOP CORNER;RIGHT SQUARE BRACKET WITH TICK IN BOTTOM CORNER
;LEFT SQUARE BRACKET WITH TICK IN BOTTOM CORNER;RIGHT SQUARE BRACKET WITH TICK IN TOP CORNER
;LEFT ANGLE BRACKET WITH DOT;RIGHT ANGLE BRACKET WITH DOT;LEFT ARC LESS-THAN BRACKET
;RIGHT ARC GREATER-THAN BRACKET;DOUBLE LEFT ARC GREATER-THAN BRACKET
;DOUBLE RIGHT ARC LESS-THAN BRACKET;LEFT BLACK TORTOISE SHELL BRACKET
;RIGHT BLACK TORTOISE SHELL BRACKET;DOTTED FENCE;VERTICAL ZIGZAG LINE
;MEASURED ANGLE OPENING LEFT;RIGHT ANGLE VARIANT WITH SQUARE;MEASURED RIGHT ANGLE WITH DOT
;ANGLE WITH S INSIDE;ACUTE ANGLE
29A0;SPHERICAL ANGLE OPENING ;LEFT;UP
29A2;;TURNED ANGLE;REVERSED ANGLE;ANGLE WITH UNDERBAR;REVERSED ANGLE WITH UNDERBAR
29A6;OBLIQUE ANGLE OPENING ;UP;DOWN
29A8;MEASURED ANGLE WITH OPEN ARM ENDING IN ARROW POINTING ;UP AND RIGHT;UP AND LEFT
;DOWN AND RIGHT;DOWN AND LEFT;RIGHT AND UP;LEFT AND UP;RIGHT AND DOWN;LEFT AND DOWN
29B0;REVERSED EMPTY SET;
29B1;EMPTY SET WITH ;OVERBAR;SMALL CIRCLE ABOVE;RIGHT ARROW ABOVE;LEFT ARROW ABOVE
29B5;CIRCLE; WITH HORIZONTAL BAR;D VERTICAL BAR;D PARALLEL;D REVERSE SOLIDUS;D PERPENDICULAR
; DIVIDED BY HORIZONTAL BAR AND TOP HALF DIVIDED BY VERTICAL BAR; WITH SUPERIMPOSED X
;D ANTICLOCKWISE-ROTATED DIVISION SIGN
29BD;UP ARROW THROUGH CIRCLE;
29BE;CIRCLE;D WHITE BULLET;D BULLET;D LESS-THAN;D GREATER-THAN; WITH SMALL CIRCLE TO THE RIGHT
; WITH TWO HORIZONTAL STROKES TO THE RIGHT
29C4;SQUARED ;RISING DIAGONAL SLASH;FALLING DIAGONAL SLASH;ASTERISK;SMALL CIRCLE;SQUARE
29C9;;TWO JOINED SQUARES;TRIANGLE WITH DOT ABOVE;TRIANGLE WITH UNDERBAR;S IN TRIANGLE
;TRIANGLE WITH SERIFS AT BOTTOM;RIGHT TRIANGLE ABOVE LEFT TRIANGLE
;LEFT TRIANGLE BESIDE VERTICAL BAR;VERTICAL BAR BESIDE RIGHT TRIANGLE
;BOWTIE WITH LEFT HALF BLACK;BOWTIE WITH RIGHT HALF BLACK;BLACK BOWTIE
;TIMES WITH LEFT HALF BLACK;TIMES WITH RIGHT HALF BLACK;WHITE HOURGLASS;BLACK HOURGLASS
;LEFT WIGGLY FENCE;RIGHT WIGGLY FENCE;LEFT DOUBLE WIGGLY FENCE;RIGHT DOUBLE WIGGLY FENCE
;INCOMPLETE INFINITY;TIE OVER INFINITY;INFINITY NEGATED WITH VERTICAL BAR;DOUBLE-ENDED MULTIMAP
;SQUARE WITH CONTOURED OUTLINE;INCREASES AS;SHUFFLE PRODUCT
29E3;EQUALS SIGN AND SLANTED PARALLEL;; WITH TILDE ABOVE
29E5;;IDENTICAL TO AND SLANTED PARALLEL;GLEICH STARK;THERMODYNAMIC
29E8;DOWN-POINTING TRIANGLE WITH ;LEFT HALF BLACK;RIGHT HALF BLACK
29EA;;BLACK DIAMOND WITH DOWN ARROW;BLACK LOZENGE;WHITE CIRCLE WITH DOWN ARROW
;BLACK CIRCLE WITH DOWN ARROW
29EE;ERROR-BARRED ;WHITE SQUARE;BLACK SQUARE;WHITE DIAMOND;BLACK DIAMOND;WHITE CIRCLE
;BLACK CIRCLE
29F4;;RULE-DELAYED;REVERSE SOLIDUS OPERATOR;SOLIDUS WITH OVERBAR
;REVERSE SOLIDUS WITH HORIZONTAL STROKE;BIG SOLIDUS;BIG REVERSE SOLIDUS;DOUBLE PLUS;TRIPLE PLUS
;LEFT-POINTING CURVED ANGLE BRACKET;RIGHT-POINTING CURVED ANGLE BRACKET;TINY;MINY
2A00;N-ARY CIRCLED ;DOT OPERATOR;PLUS OPERATOR;TIMES OPERATOR
2A03;N-ARY UNION OPERATOR WITH ;DOT;PLUS
2A05;N-ARY SQUARE ;INTERSECTION OPERATOR;UNION OPERATOR
2A07;TWO LOGICAL ;AND OPERATOR;OR OPERATOR
2A09;;N-ARY TIMES OPERATOR;MODULO TWO SUM;SUMMATION WITH INTEGRAL;QUADRUPLE INTEGRAL OPERATOR
;FINITE PART INTEGRAL;INTEGRAL WITH DOUBLE STROKE;INTEGRAL AVERAGE WITH SLASH
;CIRCULATION FUNCTION;ANTICLOCKWISE INTEGRATION
2A12;LINE INTEGRATION ;WITH RECTANGULAR PATH AROUND POLE;WITH SEMICIRCULAR PATH AROUND POLE
;NOT INCLUDING THE POLE
2A15;;INTEGRAL AROUND A POINT OPERATOR;QUATERNION INTEGRAL OPERATOR
2A17;INTEGRAL WITH ;LEFTWARDS ARROW WITH HOOK;TIMES SIGN;INTERSECTION;UNION;OVERBAR;UNDERBAR
2A1D;;JOIN;LARGE LEFT TRIANGLE OPERATOR
2A1F;Z NOTATION SCHEMA ;COMPOSITION;PIPING;PROJECTION
2A22;PLUS SIGN WITH ;SMALL CIRCLE ABOVE;CIRCUMFLEX ACCENT ABOVE;TILDE ABOVE;DOT BELOW
;TILDE BELOW;SUBSCRIPT TWO;BLACK TRIANGLE
2A29;MINUS SIGN WITH ;COMMA ABOVE;DOT BELOW;FALLING DOTS;RISING DOTS
2A2D;PLUS SIGN IN ;LEFT HALF CIRCLE;RIGHT HALF CIRCLE
2A2F;VECTOR OR CROSS PRODUCT;
2A30;MULTIPLICATION SIGN WITH ;DOT ABOVE;UNDERBAR
2A32;S;EMIDIRECT PRODUCT WITH BOTTOM CLOSED;MASH PRODUCT
2A34;MULTIPLICATION SIGN IN ;LEFT HALF CIRCLE;RIGHT HALF CIRCLE
2A36;;CIRCLED MULTIPLICATION SIGN WITH CIRCUMFLEX ACCENT;MULTIPLICATION SIGN IN DOUBLE CIRCLE
;CIRCLED DIVISION SIGN;PLUS SIGN IN TRIANGLE;MINUS SIGN IN TRIANGLE
;MULTIPLICATION SIGN IN TRIANGLE;INTERIOR PRODUCT;RIGHTHAND INTERIOR PRODUCT
;Z NOTATION RELATIONAL COMPOSITION;AMALGAMATION OR COPRODUCT;INTERSECTION WITH DOT
2A41;UNION WITH ;MINUS SIGN;OVERBAR
2A43;INTERSECTION WITH ;OVERBAR;LOGICAL AND
2A45;;UNION WITH LOGICAL OR;UNION ABOVE INTERSECTION;INTERSECTION ABOVE UNION
;UNION ABOVE BAR ABOVE INTERSECTION;INTERSECTION ABOVE BAR ABOVE UNION
;UNION BESIDE AND JOINED WITH UNION;INTERSECTION BESIDE AND JOINED WITH INTERSECTION
;CLOSED UNION WITH SERIFS;CLOSED INTERSECTION WITH SERIFS;DOUBLE SQUARE INTERSECTION
;DOUBLE SQUARE UNION;CLOSED UNION WITH SERIFS AND SMASH PRODUCT
2A51;LOGICAL ;AND WITH DOT ABOVE;OR WITH DOT ABOVE
2A53;DOUBLE LOGICAL ;AND;OR
2A55;TWO INTERSECTING LOGICAL ;AND;OR
2A57;SLOPING LARGE ;OR;AND
2A59;LOGICAL ;OR OVERLAPPING LOGICAL AND;AND WITH MIDDLE STEM;OR WITH MIDDLE STEM
;AND WITH HORIZONTAL DASH;OR WITH HORIZONTAL DASH
2A5E;LOGICAL AND WITH ;DOUBLE OVERBAR;UNDERBAR;DOUBLE UNDERBAR
2A61;SMALL VEE WITH UNDERBAR;
2A62;LOGICAL OR WITH DOUBLE ;OVERBAR;UNDERBAR
2A64;Z NOTATION ;DOMAIN ANTIRESTRICTION;RANGE ANTIRESTRICTION
2A66;;EQUALS SIGN WITH DOT BELOW;IDENTICAL WITH DOT ABOVE
2A68;TRIPLE HORIZONTAL BAR WITH ;DOUBLE VERTICAL STROKE;TRIPLE VERTICAL STROKE
2A6A;TILDE OPERATOR WITH ;DOT ABOVE;RISING DOTS
2A6C;;SIMILAR MINUS SIMILAR;CONGRUENT WITH DOT ABOVE;EQUALS WITH ASTERISK
;ALMOST EQUAL TO WITH CIRCUMFLEX ACCENT;APPROXIMATELY EQUAL OR EQUAL TO
;EQUALS SIGN ABOVE PLUS SIGN;PLUS SIGN ABOVE EQUALS SIGN;EQUALS SIGN ABOVE TILDE OPERATOR
;DOUBLE COLON EQUAL;TWO CONSECUTIVE EQUALS SIGNS;THREE CONSECUTIVE EQUALS SIGNS
;EQUALS SIGN WITH TWO DOTS ABOVE AND TWO DOTS BELOW;EQUIVALENT WITH FOUR DOTS ABOVE
;LESS-THAN WITH CIRCLE INSIDE;GREATER-THAN WITH CIRCLE INSIDE;LESS-THAN WITH QUESTION MARK ABOVE
;GREATER-THAN WITH QUESTION MARK ABOVE;LESS-THAN OR SLANTED EQUAL TO
;GREATER-THAN OR SLANTED EQUAL TO;LESS-THAN OR SLANTED EQUAL TO WITH DOT INSIDE
;GREATER-THAN OR SLANTED EQUAL TO WITH DOT INSIDE;LESS-THAN OR SLANTED EQUAL TO WITH DOT ABOVE
;GREATER-THAN OR SLANTED EQUAL TO WITH DOT ABOVE
;LESS-THAN OR SLANTED EQUAL TO WITH DOT ABOVE RIGHT
;GREATER-THAN OR SLANTED EQUAL TO WITH DOT ABOVE LEFT;LESS-THAN OR APPROXIMATE
;GREATER-THAN OR APPROXIMATE;LESS-THAN AND SINGLE-LINE NOT EQUAL TO
;GREATER-THAN AND SINGLE-LINE NOT EQUAL TO;LESS-THAN AND NOT APPROXIMATE
;GREATER-THAN AND NOT APPROXIMATE;LESS-THAN ABOVE DOUBLE-LINE EQUAL ABOVE GREATER-THAN
;GREATER-THAN ABOVE DOUBLE-LINE EQUAL ABOVE LESS-THAN;LESS-THAN ABOVE SIMILAR OR EQUAL
;GREATER-THAN ABOVE SIMILAR OR EQUAL;LESS-THAN ABOVE SIMILAR ABOVE GREATER-THAN
;GREATER-THAN ABOVE SIMILAR ABOVE LESS-THAN;LESS-THAN ABOVE GREATER-THAN ABOVE DOUBLE-LINE EQUAL
;GREATER-THAN ABOVE LESS-THAN ABOVE DOUBLE-LINE EQUAL
;LESS-THAN ABOVE SLANTED EQUAL ABOVE GREATER-THAN ABOVE SLANTED EQUAL
;GREATER-THAN ABOVE SLANTED EQUAL ABOVE LESS-THAN ABOVE SLANTED EQUAL
2A95;SLANTED EQUAL TO OR ;LESS-THAN;GREATER-THAN;LESS-THAN WITH DOT INSIDE
;GREATER-THAN WITH DOT INSIDE
2A99;DOUBLE-LINE EQUAL TO OR ;LESS-THAN;GREATER-THAN
2A9B;DOUBLE-LINE SLANTED EQUAL TO OR ;LESS-THAN;GREATER-THAN
2A9D;SIMILAR ;OR LESS-THAN;OR GREATER-THAN;ABOVE LESS-THAN ABOVE EQUALS SIGN
;ABOVE GREATER-THAN ABOVE EQUALS SIGN
2AA1;DOUBLE NESTED ;LESS-THAN;GREATER-THAN;LESS-THAN WITH UNDERBAR
2AA4;GREATER-THAN ;OVERLAPPING LESS-THAN;BESIDE LESS-THAN
2AA6;;LESS-THAN CLOSED BY CURVE;GREATER-THAN CLOSED BY CURVE
;LESS-THAN CLOSED BY CURVE ABOVE SLANTED EQUAL;GREATER-THAN CLOSED BY CURVE ABOVE SLANTED EQUAL
;SMALLER THAN;LARGER THAN;SMALLER THAN OR EQUAL TO;LARGER THAN OR EQUAL TO
;EQUALS SIGN WITH BUMPY ABOVE;PRECEDES ABOVE SINGLE-LINE EQUALS SIGN
;SUCCEEDS ABOVE SINGLE-LINE EQUALS SIGN;PRECEDES ABOVE SINGLE-LINE NOT EQUAL TO
;SUCCEEDS ABOVE SINGLE-LINE NOT EQUAL TO;PRECEDES ABOVE EQUALS SIGN;SUCCEEDS ABOVE EQUALS SIGN
;PRECEDES ABOVE NOT EQUAL TO;SUCCEEDS ABOVE NOT EQUAL TO;PRECEDES ABOVE ALMOST EQUAL TO
;SUCCEEDS ABOVE ALMOST EQUAL TO;PRECEDES ABOVE NOT ALMOST EQUAL TO
;SUCCEEDS ABOVE NOT ALMOST EQUAL TO;DOUBLE PRECEDES;DOUBLE SUCCEEDS
2ABD;SU;BSET WITH DOT;PERSET WITH DOT;BSET WITH PLUS SIGN BELOW;PERSET WITH PLUS SIGN BELOW
;BSET WITH MULTIPLICATION SIGN BELOW;PERSET WITH MULTIPLICATION SIGN BELOW
;BSET OF OR EQUAL TO WITH DOT ABOVE;PERSET OF OR EQUAL TO WITH DOT ABOVE
;BSET OF ABOVE EQUALS SIGN;PERSET OF ABOVE EQUALS SIGN;BSET OF ABOVE TILDE OPERATOR
;PERSET OF ABOVE TILDE OPERATOR;BSET OF ABOVE ALMOST EQUAL TO;PERSET OF ABOVE ALMOST EQUAL TO
;BSET OF ABOVE NOT EQUAL TO;PERSET OF ABOVE NOT EQUAL TO
2ACD;SQUARE ;LEFT OPEN BOX OPERATOR;RIGHT OPEN BOX OPERATOR
2ACF;CLOSED SU;BSET;PERSET;BSET OR EQUAL TO;PERSET OR EQUAL TO
2AD3;SU;BSET ABOVE SUPERSET;PERSET ABOVE SUBSET;BSET ABOVE SUBSET
2AD6;SUPERSET ;ABOVE SUPERSET;BESIDE SUBSET;BESIDE AND JOINED BY DASH WITH SUBSET
2AD9;;ELEMENT OF OPENING DOWNWARDS;PITCHFORK WITH TEE TOP;TRANSVERSAL INTERSECTION;FORKING
;NONFORKING;SHORT LEFT TACK;SHORT DOWN TACK;SHORT UP TACK;PERPENDICULAR WITH S
;VERTICAL BAR TRIPLE RIGHT TURNSTILE;DOUBLE VERTICAL BAR LEFT TURNSTILE
;VERTICAL BAR DOUBLE LEFT TURNSTILE;DOUBLE VERTICAL BAR DOUBLE LEFT TURNSTILE
;LONG DASH FROM LEFT MEMBER OF DOUBLE VERTICAL;SHORT DOWN TACK WITH OVERBAR
2AE8;SHORT UP TACK ;WITH UNDERBAR;ABOVE SHORT DOWN TACK
2AEA;DOUBLE ;DOWN TACK;UP TACK;STROKE NOT SIGN
2AED;;REVERSED DOUBLE STROKE NOT SIGN;DOES NOT DIVIDE WITH REVERSED NEGATION SLASH
2AEF;VERTICAL LINE WITH CIRCLE ;ABOVE;BELOW
2AF1;DOWN TACK WITH CIRCLE BELOW;
2AF2;PARALLEL WITH ;HORIZONTAL STROKE;TILDE OPERATOR
2AF4;TRIPLE ;VERTICAL BAR BINARY RELATION;VERTICAL BAR WITH HORIZONTAL STROKE;COLON OPERATOR
;NESTED LESS-THAN;NESTED GREATER-THAN
2AF9;DOUBLE-LINE SLANTED ;LESS-THAN OR EQUAL TO;GREATER-THAN OR EQUAL TO
2AFB;;TRIPLE SOLIDUS BINARY RELATION;LARGE TRIPLE VERTICAL BAR OPERATOR;DOUBLE SOLIDUS OPERATOR
;WHITE VERTICAL BAR;N-ARY WHITE VERTICAL BAR;NORTH EAST WHITE ARROW;NORTH WEST WHITE ARROW
;SOUTH EAST WHITE ARROW;SOUTH WEST WHITE ARROW;LEFT RIGHT WHITE ARROW;LEFTWARDS BLACK ARROW
;UPWARDS BLACK ARROW;DOWNWARDS BLACK ARROW;NORTH EAST BLACK ARROW;NORTH WEST BLACK ARROW
;SOUTH EAST BLACK ARROW;SOUTH WEST BLACK ARROW;LEFT RIGHT BLACK ARROW;UP DOWN BLACK ARROW
2B0E;RIGHTWARDS ARROW WITH TIP ;DOWNWARDS;UPWARDS
2B10;LEFTWARDS ARROW WITH TIP ;DOWNWARDS;UPWARDS
2B12;SQUARE WITH ;TOP HALF BLACK;BOTTOM HALF BLACK;UPPER RIGHT DIAGONAL HALF BLACK
;LOWER LEFT DIAGONAL HALF BLACK
2B16;DIAMOND WITH ;LEFT HALF BLACK;RIGHT HALF BLACK;TOP HALF BLACK;BOTTOM HALF BLACK
2B1A;;DOTTED SQUARE;BLACK LARGE SQUARE;WHITE LARGE SQUARE;BLACK VERY SMALL SQUARE
;WHITE VERY SMALL SQUARE;BLACK PENTAGON;WHITE PENTAGON;WHITE HEXAGON;BLACK HEXAGON
;HORIZONTAL BLACK HEXAGON;BLACK LARGE CIRCLE;BLACK MEDIUM DIAMOND;WHITE MEDIUM DIAMOND
;BLACK MEDIUM LOZENGE;WHITE MEDIUM LOZENGE;BLACK SMALL DIAMOND;BLACK SMALL LOZENGE
;WHITE SMALL LOZENGE;BLACK HORIZONTAL ELLIPSE;WHITE HORIZONTAL ELLIPSE;BLACK VERTICAL ELLIPSE
;WHITE VERTICAL ELLIPSE;LEFT ARROW WITH SMALL CIRCLE;THREE LEFTWARDS ARROWS
;LEFT ARROW WITH CIRCLED PLUS;LONG LEFTWARDS SQUIGGLE ARROW
2B34;LEFTWARDS TWO-HEADED ;ARROW WITH VERTICAL STROKE;ARROW WITH DOUBLE VERTICAL STROKE
;ARROW FROM BAR;TRIPLE DASH ARROW
2B38;LEFTWARDS ARROW WITH ;DOTTED STEM;TAIL WITH VERTICAL STROKE
;TAIL WITH DOUBLE VERTICAL STROKE
2B3B;LEFTWARDS TWO-HEADED ARROW WITH TAIL;; WITH VERTICAL STROKE; WITH DOUBLE VERTICAL STROKE
2B3E;;LEFTWARDS ARROW THROUGH X;WAVE ARROW POINTING DIRECTLY LEFT
;EQUALS SIGN ABOVE LEFTWARDS ARROW;REVERSE TILDE OPERATOR ABOVE LEFTWARDS ARROW
;LEFTWARDS ARROW ABOVE REVERSE ALMOST EQUAL TO
2B43;RIGHTWARDS ARROW THROUGH ;GREATER-THAN;SUPERSET
2B45;;LEFTWARDS QUADRUPLE ARROW;RIGHTWARDS QUADRUPLE ARROW
;REVERSE TILDE OPERATOR ABOVE RIGHTWARDS ARROW;RIGHTWARDS ARROW ABOVE REVERSE ALMOST EQUAL TO
;TILDE OPERATOR ABOVE LEFTWARDS ARROW
2B4A;LEFTWARDS ARROW ABOVE ;ALMOST EQUAL TO;REVERSE TILDE OPERATOR
2B4C;;RIGHTWARDS ARROW ABOVE REVERSE TILDE OPERATOR;DOWNWARDS TRIANGLE-HEADED ZIGZAG ARROW
;SHORT SLANTED NORTH ARROW;SHORT BACKSLANTED SOUTH ARROW;WHITE MEDIUM STAR;BLACK SMALL STAR
;WHITE SMALL STAR;BLACK RIGHT-POINTING PENTAGON;WHITE RIGHT-POINTING PENTAGON
2B55;HEAVY ;LARGE CIRCLE;OVAL WITH OVAL INSIDE;CIRCLE WITH CIRCLE INSIDE;CIRCLE;CIRCLED SALTIRE
2B5A;;SLANTED NORTH ARROW WITH HOOKED HEAD;BACKSLANTED SOUTH ARROW WITH HOOKED TAIL
;SLANTED NORTH ARROW WITH HORIZONTAL TAIL;BACKSLANTED SOUTH ARROW WITH HORIZONTAL TAIL
;BENT ARROW POINTING DOWNWARDS THEN NORTH EAST
;SHORT BENT ARROW POINTING DOWNWARDS THEN NORTH EAST;LEFTWARDS TRIANGLE-HEADED ARROW
;UPWARDS TRIANGLE-HEADED ARROW;RIGHTWARDS TRIANGLE-HEADED ARROW;DOWNWARDS TRIANGLE-HEADED ARROW
;LEFT RIGHT TRIANGLE-HEADED ARROW;UP DOWN TRIANGLE-HEADED ARROW;NORTH WEST TRIANGLE-HEADED ARROW
;NORTH EAST TRIANGLE-HEADED ARROW;SOUTH EAST TRIANGLE-HEADED ARROW
;SOUTH WEST TRIANGLE-HEADED ARROW;LEFTWARDS TRIANGLE-HEADED DASHED ARROW
;UPWARDS TRIANGLE-HEADED DASHED ARROW;RIGHTWARDS TRIANGLE-HEADED DASHED ARROW
;DOWNWARDS TRIANGLE-HEADED DASHED ARROW;CLOCKWISE TRIANGLE-HEADED OPEN CIRCLE ARROW
;ANTICLOCKWISE TRIANGLE-HEADED OPEN CIRCLE ARROW;LEFTWARDS TRIANGLE-HEADED ARROW TO BAR
;UPWARDS TRIANGLE-HEADED ARROW TO BAR;RIGHTWARDS TRIANGLE-HEADED ARROW TO BAR
;DOWNWARDS TRIANGLE-HEADED ARROW TO BAR
2B76;;NORTH WEST TRIANGLE-HEADED ARROW TO BAR;NORTH EAST TRIANGLE-HEADED ARROW TO BAR
;SOUTH EAST TRIANGLE-HEADED ARROW TO BAR;SOUTH WEST TRIANGLE-HEADED ARROW TO BAR
;LEFTWARDS TRIANGLE-HEADED ARROW WITH DOUBLE HORIZONTAL STROKE
;UPWARDS TRIANGLE-HEADED ARROW WITH DOUBLE HORIZONTAL STROKE
;RIGHTWARDS TRIANGLE-HEADED ARROW WITH DOUBLE HORIZONTAL STROKE
;DOWNWARDS TRIANGLE-HEADED ARROW WITH DOUBLE HORIZONTAL STROKE;HORIZONTAL TAB KEY
;VERTICAL TAB KEY;LEFTWARDS TRIANGLE-HEADED ARROW OVER RIGHTWARDS TRIANGLE-HEADED ARROW
;UPWARDS TRIANGLE-HEADED ARROW LEFTWARDS OF DOWNWARDS TRIANGLE-HEADED ARROW
;RIGHTWARDS TRIANGLE-HEADED ARROW OVER LEFTWARDS TRIANGLE-HEADED ARROW
;DOWNWARDS TRIANGLE-HEADED ARROW LEFTWARDS OF UPWARDS TRIANGLE-HEADED ARROW
;LEFTWARDS TRIANGLE-HEADED PAIRED ARROWS;UPWARDS TRIANGLE-HEADED PAIRED ARROWS
;RIGHTWARDS TRIANGLE-HEADED PAIRED ARROWS;DOWNWARDS TRIANGLE-HEADED PAIRED ARROWS
;LEFTWARDS BLACK CIRCLED WHITE ARROW;UPWARDS BLACK CIRCLED WHITE ARROW
;RIGHTWARDS BLACK CIRCLED WHITE ARROW;DOWNWARDS BLACK CIRCLED WHITE ARROW
2B8C;ANTICLOCKWISE TRIANGLE-HEADED ;RIGHT U-SHAPED ARROW;BOTTOM U-SHAPED ARROW
;LEFT U-SHAPED ARROW;TOP U-SHAPED ARROW
2B90;RETURN ;LEFT;RIGHT
2B92;NEWLINE ;LEFT;RIGHT
2B94;;FOUR CORNER ARROWS CIRCLING ANTICLOCKWISE;RIGHTWARDS BLACK ARROW
2B97;SYMBOL FOR TYPE A ELECTRONICS;
2B98;THREE-D ;TOP-LIGHTED LEFTWARDS EQUILATERAL ARROWHEAD
;RIGHT-LIGHTED UPWARDS EQUILATERAL ARROWHEAD;TOP-LIGHTED RIGHTWARDS EQUILATERAL ARROWHEAD
;LEFT-LIGHTED DOWNWARDS EQUILATERAL ARROWHEAD
2B9C;BLACK ;LEFTWARDS EQUILATERAL ARROWHEAD;UPWARDS EQUILATERAL ARROWHEAD
;RIGHTWARDS EQUILATERAL ARROWHEAD;DOWNWARDS EQUILATERAL ARROWHEAD
2BA0;DOWNWARDS TRIANGLE-HEADED ARROW WITH LONG TIP ;LEFTWARDS;RIGHTWARDS
2BA2;UPWARDS TRIANGLE-HEADED ARROW WITH LONG TIP ;LEFTWARDS;RIGHTWARDS
2BA4;;LEFTWARDS TRIANGLE-HEADED ARROW WITH LONG TIP UPWARDS
;RIGHTWARDS TRIANGLE-HEADED ARROW WITH LONG TIP UPWARDS
;LEFTWARDS TRIANGLE-HEADED ARROW WITH LONG TIP DOWNWARDS
;RIGHTWARDS TRIANGLE-HEADED ARROW WITH LONG TIP DOWNWARDS
2BA8;BLACK CURVED ;DOWNWARDS AND LEFTWARDS ARROW;DOWNWARDS AND RIGHTWARDS ARROW
;UPWARDS AND LEFTWARDS ARROW;UPWARDS AND RIGHTWARDS ARROW;LEFTWARDS AND UPWARDS ARROW
;RIGHTWARDS AND UPWARDS ARROW;LEFTWARDS AND DOWNWARDS ARROW;RIGHTWARDS AND DOWNWARDS ARROW
2BB0;RIBBON ARROW ;DOWN LEFT;DOWN RIGHT;UP LEFT;UP RIGHT;LEFT UP;RIGHT UP;LEFT DOWN;RIGHT DOWN
2BB8;UP;WARDS WHITE ARROW FROM BAR WITH HORIZONTAL BAR; ARROWHEAD IN A RECTANGLE BOX
2BBA;OVERLAPPING ;WHITE SQUARES;WHITE AND BLACK SQUARES;BLACK SQUARES
2BBD;;BALLOT BOX WITH LIGHT X;CIRCLED X;CIRCLED BOLD X;BLACK SQUARE CENTRED
;BLACK DIAMOND CENTRED;TURNED BLACK PENTAGON;HORIZONTAL BLACK OCTAGON;BLACK OCTAGON
2BC5;BLACK MEDIUM ;UP-POINTING TRIANGLE CENTRED;DOWN-POINTING TRIANGLE CENTRED
;LEFT-POINTING TRIANGLE CENTRED;RIGHT-POINTING TRIANGLE CENTRED
2BC9;;NEPTUNE FORM TWO;TOP HALF BLACK CIRCLE;BOTTOM HALF BLACK CIRCLE
;LIGHT FOUR POINTED BLACK CUSP;ROTATED LIGHT FOUR POINTED BLACK CUSP;WHITE FOUR POINTED CUSP
;ROTATED WHITE FOUR POINTED CUSP;SQUARE POSITION INDICATOR;UNCERTAINTY SIGN;GROUP MARK
2BD3;PLUTO FORM ;TWO;THREE;FOUR;FIVE
2BD7;;TRANSPLUTO;PROSERPINA;ASTRAEA;HYGIEA;PHOLUS;NESSUS;WHITE MOON SELENA
;BLACK DIAMOND ON CROSS;TRUE LIGHT MOON ARTA;CUPIDO;HADES;ZEUS;KRONOS;APOLLON;ADMETOS;VULCANUS
;POSEIDON;LEFT HALF BLACK STAR;RIGHT HALF BLACK STAR;STAR WITH LEFT HALF BLACK
;STAR WITH RIGHT HALF BLACK;LEFTWARDS TWO-HEADED ARROW WITH TRIANGLE ARROWHEADS
;UPWARDS TWO-HEADED ARROW WITH TRIANGLE ARROWHEADS
;RIGHTWARDS TWO-HEADED ARROW WITH TRIANGLE ARROWHEADS
;DOWNWARDS TWO-HEADED ARROW WITH TRIANGLE ARROWHEADS;ERIS FORM ONE;ERIS FORM TWO;SEDNA
2BF3;RUSSIAN ASTROLOGICAL SYMBOL ;VIGINTILE;NOVILE;QUINTILE;BINOVILE;SENTAGON;TREDECILE
2BF9;;EQUALS SIGN WITH INFINITY BELOW;UNITED SYMBOL;SEPARATED SYMBOL;DOUBLED SYMBOL
;PASSED SYMBOL;REVERSED RIGHT ANGLE;HELLSCHREIBER PAUSE SYMBOL
2C00;GLAGOLITIC CAPITAL LETTER ;AZU;BUKY;VEDE;GLAGOLI;DOBRO;YESTU;ZHIVETE;DZELO;ZEMLJA;IZHE
;INITIAL IZHE;I;DJERVI;KAKO;LJUDIJE;MYSLITE;NASHI;ONU;POKOJI;RITSI;SLOVO;TVRIDO;UKU;FRITU;HERU
;OTU;PE;SHTA;TSI;CHRIVI;SHA;YERU;YERI;YATI;SPIDERY HA;YU;SMALL YUS;SMALL YUS WITH TAIL;YO
;IOTATED SMALL YUS;BIG YUS;IOTATED BIG YUS;FITA;IZHITSA;SHTAPIC;TROKUTASTI A;LATINATE MYSLITE
;CAUDATE CHRIVI
2C30;GLAGOLITIC SMALL LETTER ;AZU;BUKY;VEDE;GLAGOLI;DOBRO;YESTU;ZHIVETE;DZELO;ZEMLJA;IZHE
;INITIAL IZHE;I;DJERVI;KAKO;LJUDIJE;MYSLITE;NASHI;ONU;POKOJI;RITSI;SLOVO;TVRIDO;UKU;FRITU;HERU
;OTU;PE;SHTA;TSI;CHRIVI;SHA;YERU;YERI;YATI;SPIDERY HA;YU;SMALL YUS;SMALL YUS WITH TAIL;YO
;IOTATED SMALL YUS;BIG YUS;IOTATED BIG YUS;FITA;IZHITSA;SHTAPIC;TROKUTASTI A;LATINATE MYSLITE
;CAUDATE CHRIVI
2C60;LATIN ;CAPITAL LETTER L WITH DOUBLE BAR;SMALL LETTER L WITH DOUBLE BAR
2C62;LATIN CAPITAL LETTER ;L WITH MIDDLE TILDE;P WITH STROKE;R WITH TAIL
2C65;LATIN ;SMALL LETTER A WITH STROKE;SMALL LETTER T WITH DIAGONAL STROKE
;CAPITAL LETTER H WITH DESCENDER;SMALL LETTER H WITH DESCENDER;CAPITAL LETTER K WITH DESCENDER
;SMALL LETTER K WITH DESCENDER;CAPITAL LETTER Z WITH DESCENDER;SMALL LETTER Z WITH DESCENDER
2C6D;LATIN CAPITAL LETTER ;ALPHA;M WITH HOOK;TURNED A;TURNED ALPHA
2C71;LATIN ;SMALL LETTER V WITH RIGHT HOOK;CAPITAL LETTER W WITH HOOK;SMALL LETTER W WITH HOOK
;SMALL LETTER V WITH CURL;CAPITAL LETTER HALF H
2C76;LATIN SMALL LETTER ;HALF H;TAILLESS PHI;E WITH NOTCH;TURNED R WITH TAIL
;O WITH LOW RING INSIDE
2C7B;;LATIN LETTER SMALL CAPITAL TURNED E;LATIN SUBSCRIPT SMALL LETTER J
;MODIFIER LETTER CAPITAL V
2C7E;LATIN CAPITAL LETTER ;S WITH SWASH TAIL;Z WITH SWASH TAIL
2C80;COPTIC ;CAPITAL LETTER ALFA;SMALL LETTER ALFA;CAPITAL LETTER VIDA;SMALL LETTER VIDA
;CAPITAL LETTER GAMMA;SMALL LETTER GAMMA;CAPITAL LETTER DALDA;SMALL LETTER DALDA
;CAPITAL LETTER EIE;SMALL LETTER EIE;CAPITAL LETTER SOU;SMALL LETTER SOU;CAPITAL LETTER ZATA
;SMALL LETTER ZATA;CAPITAL LETTER HATE;SMALL LETTER HATE;CAPITAL LETTER THETHE
;SMALL LETTER THETHE;CAPITAL LETTER IAUDA;SMALL LETTER IAUDA;CAPITAL LETTER KAPA
;SMALL LETTER KAPA;CAPITAL LETTER LAULA;SMALL LETTER LAULA;CAPITAL LETTER MI;SMALL LETTER MI
;CAPITAL LETTER NI;SMALL LETTER NI;CAPITAL LETTER KSI;SMALL LETTER KSI;CAPITAL LETTER O
;SMALL LETTER O;CAPITAL LETTER PI;SMALL LETTER PI;CAPITAL LETTER RO;SMALL LETTER RO
;CAPITAL LETTER SIMA;SMALL LETTER SIMA;CAPITAL LETTER TAU;SMALL LETTER TAU;CAPITAL LETTER UA
;SMALL LETTER UA;CAPITAL LETTER FI;SMALL LETTER FI;CAPITAL LETTER KHI;SMALL LETTER KHI
;CAPITAL LETTER PSI;SMALL LETTER PSI;CAPITAL LETTER OOU;SMALL LETTER OOU
;CAPITAL LETTER DIALECT-P ALEF;SMALL LETTER DIALECT-P ALEF;CAPITAL LETTER OLD COPTIC AIN
;SMALL LETTER OLD COPTIC AIN;CAPITAL LETTER CRYPTOGRAMMIC EIE;SMALL LETTER CRYPTOGRAMMIC EIE
;CAPITAL LETTER DIALECT-P KAPA;SMALL LETTER DIALECT-P KAPA;CAPITAL LETTER DIALECT-P NI
;SMALL LETTER DIALECT-P NI;CAPITAL LETTER CRYPTOGRAMMIC NI;SMALL LETTER CRYPTOGRAMMIC NI
;CAPITAL LETTER OLD COPTIC OOU;SMALL LETTER OLD COPTIC OOU;CAPITAL LETTER SAMPI
;SMALL LETTER SAMPI;CAPITAL LETTER CROSSED SHEI;SMALL LETTER CROSSED SHEI
;CAPITAL LETTER OLD COPTIC SHEI;SMALL LETTER OLD COPTIC SHEI;CAPITAL LETTER OLD COPTIC ESH
;SMALL LETTER OLD COPTIC ESH;CAPITAL LETTER AKHMIMIC KHEI;SMALL LETTER AKHMIMIC KHEI
;CAPITAL LETTER DIALECT-P HORI;SMALL LETTER DIALECT-P HORI;CAPITAL LETTER OLD COPTIC HORI
;SMALL LETTER OLD COPTIC HORI;CAPITAL LETTER OLD COPTIC HA;SMALL LETTER OLD COPTIC HA
;CAPITAL LETTER L-SHAPED HA;SMALL LETTER L-SHAPED HA;CAPITAL LETTER OLD COPTIC HEI
;SMALL LETTER OLD COPTIC HEI;CAPITAL LETTER OLD COPTIC HAT;SMALL LETTER OLD COPTIC HAT
;CAPITAL LETTER OLD COPTIC GANGIA;SMALL LETTER OLD COPTIC GANGIA;CAPITAL LETTER OLD COPTIC DJA
;SMALL LETTER OLD COPTIC DJA;CAPITAL LETTER OLD COPTIC SHIMA;SMALL LETTER OLD COPTIC SHIMA
;CAPITAL LETTER OLD NUBIAN SHIMA;SMALL LETTER OLD NUBIAN SHIMA;CAPITAL LETTER OLD NUBIAN NGI
;SMALL LETTER OLD NUBIAN NGI;CAPITAL LETTER OLD NUBIAN NYI;SMALL LETTER OLD NUBIAN NYI
;CAPITAL LETTER OLD NUBIAN WAU;SMALL LETTER OLD NUBIAN WAU
2CE4;COPTIC SYMBOL ;KAI;MI RO;PI RO;STAUROS;TAU RO;KHI RO;SHIMA SIMA
2CEB;COPTIC ;CAPITAL LETTER CRYPTOGRAMMIC SHEI;SMALL LETTER CRYPTOGRAMMIC SHEI
;CAPITAL LETTER CRYPTOGRAMMIC GANGIA;SMALL LETTER CRYPTOGRAMMIC GANGIA;COMBINING NI ABOVE
;COMBINING SPIRITUS ASPER;COMBINING SPIRITUS LENIS;CAPITAL LETTER BOHAIRIC KHEI
;SMALL LETTER BOHAIRIC KHEI
2CF9;COPTIC OLD NUBIAN ;FULL STOP;DIRECT QUESTION MARK;INDIRECT QUESTION MARK;VERSE DIVIDER
2CFD;COPTIC ;FRACTION ONE HALF;FULL STOP;MORPHOLOGICAL DIVIDER
2D00;GEORGIAN SMALL LETTER ;AN;BAN;GAN;DON;EN;VIN;ZEN;TAN;IN;KAN;LAS;MAN;NAR;ON;PAR;ZHAR;RAE;SAN
;TAR;UN;PHAR;KHAR;GHAN;QAR;SHIN;CHIN;CAN;JIL;CIL;CHAR;XAN;JHAN;HAE;HE;HIE;WE;HAR;HOE
2D27;GEORGIAN SMALL LETTER YN;
2D2D;GEORGIAN SMALL LETTER AEN;
2D30;TIFINAGH LETTER ;YA;YAB;YABH;YAG;YAGHH;BERBER ACADEMY YAJ;YAJ;YAD;YADH;YADD;YADDH;YEY;YAF
;YAK;TUAREG YAK;YAKHH;YAH;BERBER ACADEMY YAH;TUAREG YAH;YAHH;YAA;YAKH;TUAREG YAKH;YAQ;TUAREG YAQ
;YI;YAZH;AHAGGAR YAZH;TUAREG YAZH;YAL;YAM;YAN;TUAREG YAGN;TUAREG YANG;YAP;YU;YAR;YARR;YAGH
;TUAREG YAGH;AYER YAGH;YAS;YASS;YASH;YAT;YATH;YACH;YATT;YAV;YAW;YAY;YAZ;TAWELLEMET YAZ;YAZZ;YE
;YO
2D6F;TIFINAGH ;MODIFIER LETTER LABIALIZATION MARK;SEPARATOR MARK
2D7F;TIFINAGH CONSONANT JOINER;
2D80;ETHIOPIC SYLLABLE ;LOA;MOA;ROA;SOA;SHOA;BOA;TOA;COA;NOA;NYOA;GLOTTAL OA;ZOA;DOA;DDOA;JOA
;THOA;CHOA;PHOA;POA;GGWA;GGWI;GGWEE;GGWE
2DA0;ETHIOPIC SYLLABLE SS;A;U;I;AA;EE;E;O
2DA8;ETHIOPIC SYLLABLE CC;A;U;I;AA;EE;E;O
2DB0;ETHIOPIC SYLLABLE ZZ;A;U;I;AA;EE;E;O
2DB8;ETHIOPIC SYLLABLE CCH;A;U;I;AA;EE;E;O
2DC0;ETHIOPIC SYLLABLE QY;A;U;I;AA;EE;E;O
2DC8;ETHIOPIC SYLLABLE KY;A;U;I;AA;EE;E;O
2DD0;ETHIOPIC SYLLABLE XY;A;U;I;AA;EE;E;O
2DD8;ETHIOPIC SYLLABLE GY;A;U;I;AA;EE;E;O
2DE0;COMBINING CYRILLIC LETTER ;BE;VE;GHE;DE;ZHE;ZE;KA;EL;EM;EN;O;PE;ER;ES;TE;HA;TSE;CHE;SHA
;SHCHA;FITA;ES-TE;A;IE;DJERV;MONOGRAPH UK;YAT;YU;IOTIFIED A;LITTLE YUS;BIG YUS;IOTIFIED BIG YUS
2E00;RIGHT ANGLE ;SUBSTITUTION MARKER;DOTTED SUBSTITUTION MARKER
2E02;;LEFT SUBSTITUTION BRACKET;RIGHT SUBSTITUTION BRACKET;LEFT DOTTED SUBSTITUTION BRACKET
;RIGHT DOTTED SUBSTITUTION BRACKET;RAISED INTERPOLATION MARKER
;RAISED DOTTED INTERPOLATION MARKER;DOTTED TRANSPOSITION MARKER;LEFT TRANSPOSITION BRACKET
;RIGHT TRANSPOSITION BRACKET;RAISED SQUARE;LEFT RAISED OMISSION BRACKET
;RIGHT RAISED OMISSION BRACKET;EDITORIAL CORONIS;PARAGRAPHOS;FORKED PARAGRAPHOS
;REVERSED FORKED PARAGRAPHOS;HYPODIASTOLE;DOTTED OBELOS;DOWNWARDS ANCORA;UPWARDS ANCORA
;DOTTED RIGHT-POINTING ANGLE;DOUBLE OBLIQUE HYPHEN;INVERTED INTERROBANG;PALM BRANCH
;HYPHEN WITH DIAERESIS;TILDE WITH RING ABOVE;LEFT LOW PARAPHRASE BRACKET
;RIGHT LOW PARAPHRASE BRACKET
2E1E;TILDE WITH DOT ;ABOVE;BELOW
2E20;;LEFT VERTICAL BAR WITH QUILL;RIGHT VERTICAL BAR WITH QUILL;TOP LEFT HALF BRACKET
;TOP RIGHT HALF BRACKET;BOTTOM LEFT HALF BRACKET;BOTTOM RIGHT HALF BRACKET
;LEFT SIDEWAYS U BRACKET;RIGHT SIDEWAYS U BRACKET;LEFT DOUBLE PARENTHESIS
;RIGHT DOUBLE PARENTHESIS;TWO DOTS OVER ONE DOT PUNCTUATION;ONE DOT OVER TWO DOTS PUNCTUATION
;SQUARED FOUR DOT PUNCTUATION;FIVE DOT MARK;REVERSED QUESTION MARK;VERTICAL TILDE;RING POINT
;WORD SEPARATOR MIDDLE DOT;TURNED COMMA;RAISED DOT;RAISED COMMA;TURNED SEMICOLON
;DAGGER WITH LEFT GUARD;DAGGER WITH RIGHT GUARD;TURNED DAGGER;TOP HALF SECTION SIGN;TWO-EM DASH
;THREE-EM DASH;STENOGRAPHIC FULL STOP;VERTICAL SIX DOTS;WIGGLY VERTICAL LINE;CAPITULUM
;DOUBLE HYPHEN;REVERSED COMMA;DOUBLE LOW-REVERSED-9 QUOTATION MARK;DASH WITH LEFT UPTURN
;DOUBLE SUSPENSION MARK
2E45;INVERTED LOW KAVYKA;; WITH KAVYKA ABOVE
2E47;LOW KAVYKA;; WITH DOT
2E49;;DOUBLE STACKED COMMA;DOTTED SOLIDUS;TRIPLE DAGGER;MEDIEVAL COMMA;PARAGRAPHUS MARK
;PUNCTUS ELEVATUS MARK;CORNISH VERSE DIVIDER
2E50;CROSS PATTY WITH ;RIGHT CROSSBAR;LEFT CROSSBAR
2E52;;TIRONIAN SIGN CAPITAL ET;MEDIEVAL EXCLAMATION MARK;MEDIEVAL QUESTION MARK
;LEFT SQUARE BRACKET WITH STROKE;RIGHT SQUARE BRACKET WITH STROKE
;LEFT SQUARE BRACKET WITH DOUBLE STROKE;RIGHT SQUARE BRACKET WITH DOUBLE STROKE
;TOP HALF LEFT PARENTHESIS;TOP HALF RIGHT PARENTHESIS;BOTTOM HALF LEFT PARENTHESIS
;BOTTOM HALF RIGHT PARENTHESIS;OBLIQUE HYPHEN
2E80;CJK RADICAL ;REPEAT;CLIFF;SECOND ONE;SECOND TWO;SECOND THREE;PERSON;BOX;TABLE;KNIFE ONE
;KNIFE TWO;DIVINATION;SEAL;SMALL ONE;SMALL TWO;LAME ONE;LAME TWO;LAME THREE;LAME FOUR;SNAKE
;THREAD;SNOUT ONE;SNOUT TWO;HEART ONE;HEART TWO;HAND;RAP
2E9B;CJK RADICAL ;CHOKE;SUN;MOON;DEATH;MOTHER;CIVILIAN;WATER ONE;WATER TWO;FIRE;PAW ONE;PAW TWO
;SIMPLIFIED HALF TREE TRUNK;COW;DOG;JADE;BOLT OF CLOTH;EYE;SPIRIT ONE;SPIRIT TWO;BAMBOO;SILK
;C-SIMPLIFIED SILK;NET ONE;NET TWO;NET THREE;NET FOUR;MESH;SHEEP;RAM;EWE;OLD;BRUSH ONE;BRUSH TWO
;MEAT;MORTAR;GRASS ONE;GRASS TWO;GRASS THREE;TIGER;CLOTHES;WEST ONE;WEST TWO;C-SIMPLIFIED SEE
;SIMPLIFIED HORN;HORN;C-SIMPLIFIED SPEECH;C-SIMPLIFIED SHELL;FOOT;C-SIMPLIFIED CART
;SIMPLIFIED WALK;WALK ONE;WALK TWO;CITY;C-SIMPLIFIED GOLD;LONG ONE;LONG TWO;C-SIMPLIFIED LONG
;C-SIMPLIFIED GATE;MOUND ONE;MOUND TWO;RAIN;BLUE
2ED9;CJK RADICAL C-SIMPLIFIED ;TANNED LEATHER;LEAF;WIND;FLY
2EDD;CJK RADICAL ;EAT ONE;EAT TWO;EAT THREE;C-SIMPLIFIED EAT;HEAD;C-SIMPLIFIED HORSE;BONE;GHOST
;C-SIMPLIFIED FISH;C-SIMPLIFIED BIRD;C-SIMPLIFIED SALT;SIMPLIFIED WHEAT;SIMPLIFIED YELLOW
;C-SIMPLIFIED FROG;J-SIMPLIFIED EVEN;C-SIMPLIFIED EVEN;J-SIMPLIFIED TOOTH;C-SIMPLIFIED TOOTH
;J-SIMPLIFIED DRAGON;C-SIMPLIFIED DRAGON;TURTLE;J-SIMPLIFIED TURTLE;C-SIMPLIFIED TURTLE
2F00;KANGXI RADICAL ;ONE;LINE;DOT;SLASH;SECOND;HOOK;TWO;LID;MAN;LEGS;ENTER;EIGHT;DOWN BOX;COVER
;ICE;TABLE;OPEN BOX;KNIFE;POWER;WRAP;SPOON;RIGHT OPEN BOX;HIDING ENCLOSURE;TEN;DIVINATION;SEAL
;CLIFF;PRIVATE;AGAIN;MOUTH;ENCLOSURE;EARTH;SCHOLAR;GO;GO SLOWLY;EVENING;BIG;WOMAN;CHILD;ROOF
;INCH;SMALL;LAME;CORPSE;SPROUT;MOUNTAIN;RIVER;WORK;ONESELF;TURBAN;DRY;SHORT THREAD;DOTTED CLIFF
;LONG STRIDE;TWO HANDS;SHOOT;BOW;SNOUT;BRISTLE;STEP;HEART;HALBERD;DOOR;HAND;BRANCH;RAP;SCRIPT
;DIPPER;AXE;SQUARE;NOT;SUN;SAY;MOON;TREE;LACK;STOP;DEATH;WEAPON;DO NOT;COMPARE;FUR;CLAN;STEAM
;WATER;FIRE;CLAW;FATHER;DOUBLE X;HALF TREE TRUNK;SLICE;FANG;COW;DOG;PROFOUND;JADE;MELON;TILE
;SWEET;LIFE;USE;FIELD;BOLT OF CLOTH;SICKNESS;DOTTED TENT;WHITE;SKIN;DISH;EYE;SPEAR;ARROW;STONE
;SPIRIT;TRACK;GRAIN;CAVE;STAND;BAMBOO;RICE;SILK;JAR;NET;SHEEP;FEATHER;OLD;AND;PLOW;EAR;BRUSH
;MEAT;MINISTER;SELF;ARRIVE;MORTAR;TONGUE;OPPOSE;BOAT;STOPPING;COLOR;GRASS;TIGER;INSECT;BLOOD
;WALK ENCLOSURE;CLOTHES;WEST;SEE;HORN;SPEECH;VALLEY;BEAN;PIG;BADGER;SHELL;RED;RUN;FOOT;BODY;CART
;BITTER;MORNING;WALK;CITY;WINE;DISTINGUISH;VILLAGE;GOLD;LONG;GATE;MOUND;SLAVE;SHORT TAILED BIRD
;RAIN;BLUE;WRONG;FACE;LEATHER;TANNED LEATHER;LEEK;SOUND;LEAF;WIND;FLY;EAT;HEAD;FRAGRANT;HORSE
;BONE;TALL;HAIR;FIGHT;SACRIFICIAL WINE;CAULDRON;GHOST;FISH;BIRD;SALT;DEER;WHEAT;HEMP;YELLOW
;MILLET;BLACK;EMBROIDERY;FROG;TRIPOD;DRUM;RAT;NOSE;EVEN;TOOTH;DRAGON;TURTLE;FLUTE
2FF0;IDEOGRAPHIC DESCRIPTION CHARACTER ;LEFT TO RIGHT;ABOVE TO BELOW;LEFT TO MIDDLE AND RIGHT
;ABOVE TO MIDDLE AND BELOW;FULL SURROUND;SURROUND FROM ABOVE;SURROUND FROM BELOW
;SURROUND FROM LEFT;SURROUND FROM UPPER LEFT;SURROUND FROM UPPER RIGHT;SURROUND FROM LOWER LEFT
;OVERLAID
3000;IDEOGRAPHIC ;SPACE;COMMA;FULL STOP
3003;;DITTO MARK;JAPANESE INDUSTRIAL STANDARD SYMBOL
3005;IDEOGRAPHIC ;ITERATION MARK;CLOSING MARK;NUMBER ZERO
3008;;LEFT ANGLE BRACKET;RIGHT ANGLE BRACKET;LEFT DOUBLE ANGLE BRACKET
;RIGHT DOUBLE ANGLE BRACKET;LEFT CORNER BRACKET;RIGHT CORNER BRACKET;LEFT WHITE CORNER BRACKET
;RIGHT WHITE CORNER BRACKET;LEFT BLACK LENTICULAR BRACKET;RIGHT BLACK LENTICULAR BRACKET
;POSTAL MARK;GETA MARK;LEFT TORTOISE SHELL BRACKET;RIGHT TORTOISE SHELL BRACKET
;LEFT WHITE LENTICULAR BRACKET;RIGHT WHITE LENTICULAR BRACKET;LEFT WHITE TORTOISE SHELL BRACKET
;RIGHT WHITE TORTOISE SHELL BRACKET;LEFT WHITE SQUARE BRACKET;RIGHT WHITE SQUARE BRACKET
;WAVE DASH;REVERSED DOUBLE PRIME QUOTATION MARK;DOUBLE PRIME QUOTATION MARK
;LOW DOUBLE PRIME QUOTATION MARK;POSTAL MARK FACE
3021;HANGZHOU NUMERAL ;ONE;TWO;THREE;FOUR;FIVE;SIX;SEVEN;EIGHT;NINE
302A;IDEOGRAPHIC ;LEVEL TONE MARK;RISING TONE MARK;DEPARTING TONE MARK;ENTERING TONE MARK
302E;;HANGUL SINGLE DOT TONE MARK;HANGUL DOUBLE DOT TONE MARK;WAVY DASH
3031;VERTICAL KANA REPEAT ;MARK;WITH VOICED SOUND MARK;MARK UPPER HALF
;WITH VOICED SOUND MARK UPPER HALF;MARK LOWER HALF
3036;;CIRCLED POSTAL MARK;IDEOGRAPHIC TELEGRAPH LINE FEED SEPARATOR SYMBOL
3038;HANGZHOU NUMERAL T;EN;WENTY;HIRTY
303B;;VERTICAL IDEOGRAPHIC ITERATION MARK;MASU MARK;PART ALTERNATION MARK
303E;IDEOGRAPHIC ;VARIATION INDICATOR;HALF FILL SPACE
3041;HIRAGANA LETTER ;SMALL A;A;SMALL I;I;SMALL U;U;SMALL E;E;SMALL O;O;KA;GA;KI;GI;KU;GU;KE;GE
;KO;GO;SA;ZA;SI;ZI;SU;ZU;SE;ZE;SO;ZO;TA;DA;TI;DI;SMALL TU;TU;DU;TE;DE;TO;DO;NA;NI;NU;NE;NO;HA;BA
;PA;HI;BI;PI;HU;BU;PU;HE;BE;PE;HO;BO;PO;MA;MI;MU;ME;MO;SMALL YA;YA;SMALL YU;YU;SMALL YO;YO;RA;RI
;RU;RE;RO;SMALL WA;WA;WI;WE;WO;N;VU;SMALL KA;SMALL KE
3099;COMBINING KATAKANA-HIRAGANA ;VOICED SOUND MARK;SEMI-VOICED SOUND MARK
309B;KATAKANA-HIRAGANA ;VOICED SOUND MARK;SEMI-VOICED SOUND MARK
309D;HIRAGANA ;ITERATION MARK;VOICED ITERATION MARK;DIGRAPH YORI
30A0;KATAKANA-HIRAGANA DOUBLE HYPHEN;
30A1;KATAKANA LETTER ;SMALL A;A;SMALL I;I;SMALL U;U;SMALL E;E;SMALL O;O;KA;GA;KI;GI;KU;GU;KE;GE
;KO;GO;SA;ZA;SI;ZI;SU;ZU;SE;ZE;SO;ZO;TA;DA;TI;DI;SMALL TU;TU;DU;TE;DE;TO;DO;NA;NI;NU;NE;NO;HA;BA
;PA;HI;BI;PI;HU;BU;PU;HE;BE;PE;HO;BO;PO;MA;MI;MU;ME;MO;SMALL YA;YA;SMALL YU;YU;SMALL YO;YO;RA;RI
;RU;RE;RO;SMALL WA;WA;WI;WE;WO;N;VU;SMALL KA;SMALL KE;VA;VI;VE;VO
30FB;KATAKANA; MIDDLE DOT;-HIRAGANA PROLONGED SOUND MARK; ITERATION MARK; VOICED ITERATION MARK
; DIGRAPH KOTO
3105;BOPOMOFO LETTER ;B;P;M;F;D;T;N;L;G;K;H;J;Q;X;ZH;CH;SH;R;Z;C;S;A;O;E;EH;AI;EI;AU;OU;AN;EN
;ANG;ENG;ER;I;U;IU;V;NG;GN;IH;O WITH DOT ABOVE;NN
3131;HANGUL LETTER ;KIYEOK;SSANGKIYEOK;KIYEOK-SIOS;NIEUN;NIEUN-CIEUC;NIEUN-HIEUH;TIKEUT
;SSANGTIKEUT;RIEUL;RIEUL-KIYEOK;RIEUL-MIEUM;RIEUL-PIEUP;RIEUL-SIOS;RIEUL-THIEUTH;RIEUL-PHIEUPH
;RIEUL-HIEUH;MIEUM;PIEUP;SSANGPIEUP;PIEUP-SIOS;SIOS;SSANGSIOS;IEUNG;CIEUC;SSANGCIEUC;CHIEUCH
;KHIEUKH;THIEUTH;PHIEUPH;HIEUH;A;AE;YA;YAE;EO;E;YEO;YE;O;WA;WAE;OE;YO;U;WEO;WE;WI;YU;EU;YI;I
3164;HANGUL FILLER;
3165;HANGUL LETTER ;SSANGNIEUN;NIEUN-TIKEUT;NIEUN-SIOS;NIEUN-PANSIOS;RIEUL-KIYEOK-SIOS
;RIEUL-TIKEUT;RIEUL-PIEUP-SIOS;RIEUL-PANSIOS;RIEUL-YEORINHIEUH;MIEUM-PIEUP;MIEUM-SIOS
;MIEUM-PANSIOS;KAPYEOUNMIEUM;PIEUP-KIYEOK;PIEUP-TIKEUT;PIEUP-SIOS-KIYEOK;PIEUP-SIOS-TIKEUT
;PIEUP-CIEUC;PIEUP-THIEUTH;KAPYEOUNPIEUP;KAPYEOUNSSANGPIEUP;SIOS-KIYEOK;SIOS-NIEUN;SIOS-TIKEUT
;SIOS-PIEUP;SIOS-CIEUC;PANSIOS;SSANGIEUNG;YESIEUNG;YESIEUNG-SIOS;YESIEUNG-PANSIOS
;KAPYEOUNPHIEUPH;SSANGHIEUH;YEORINHIEUH;YO-YA;YO-YAE;YO-I;YU-YEO;YU-YE;YU-I;ARAEA;ARAEAE
3190;IDEOGRAPHIC ANNOTATION ;LINKING MARK;REVERSE MARK;ONE MARK;TWO MARK;THREE MARK;FOUR MARK
;TOP MARK;MIDDLE MARK;BOTTOM MARK;FIRST MARK;SECOND MARK;THIRD MARK;FOURTH MARK;HEAVEN MARK
;EARTH MARK;MAN MARK
31A0;BOPOMOFO LETTER ;BU;ZI;JI;GU;EE;ENN;OO;ONN;IR;ANN;INN;UNN;IM;NGG;AINN;AUNN;AM;OM;ONG;INNN
31B4;BOPOMOFO FINAL LETTER ;P;T;K;H
31B8;BOPOMOFO ;LETTER GH;LETTER LH;LETTER ZY;FINAL LETTER G
31BC;BOPOMOFO LETTER ;GW;KW;OE;AH
31C0;CJK STROKE ;T;WG;XG;BXG;SW;HZZ;HZG;HP;HZWG;SZWG;HZT;HZZP;HPWG;HZW;HZZZ;N;H;S;P;SP;D;HZ;HG
;SZ;SWZ;ST;SG;PD;PZ;TN;SZZ;SWG;HXWG;HZZZG;PG;Q
31F0;KATAKANA LETTER SMALL ;KU;SI;SU;TO;NU;HA;HI;HU;HE;HO;MU;RA;RI;RU;RE;RO
3200;PARENTHESIZED HANGUL ;KIYEOK;NIEUN;TIKEUT;RIEUL;MIEUM;PIEUP;SIOS;IEUNG;CIEUC;CHIEUCH
;KHIEUKH;THIEUTH;PHIEUPH;HIEUH;KIYEOK A;NIEUN A;TIKEUT A;RIEUL A;MIEUM A;PIEUP A;SIOS A;IEUNG A
;CIEUC A;CHIEUCH A;KHIEUKH A;THIEUTH A;PHIEUPH A;HIEUH A;CIEUC U
321D;PARENTHESIZED KOREAN CHARACTER O;JEON; HU
3220;PARENTHESIZED IDEOGRAPH ;ONE;TWO;THREE;FOUR;FIVE;SIX;SEVEN;EIGHT;NINE;TEN;MOON;FIRE;WATER
;WOOD;METAL;EARTH;SUN;STOCK;HAVE;SOCIETY;NAME;SPECIAL;FINANCIAL;CONGRATULATION;LABOR;REPRESENT
;CALL;STUDY;SUPERVISE;ENTERPRISE;RESOURCE;ALLIANCE;FESTIVAL;REST;SELF;REACH
3244;CIRCLED IDEOGRAPH ;QUESTION;KINDERGARTEN;SCHOOL;KOTO
3248;CIRCLED NUMBER ;TEN ON BLACK SQUARE;TWENTY ON BLACK SQUARE;THIRTY ON BLACK SQUARE
;FORTY ON BLACK SQUARE;FIFTY ON BLACK SQUARE;SIXTY ON BLACK SQUARE;SEVENTY ON BLACK SQUARE
;EIGHTY ON BLACK SQUARE
3250;PARTNERSHIP SIGN;
3251;CIRCLED NUMBER TWENTY ;ONE;TWO;THREE;FOUR;FIVE;SIX;SEVEN;EIGHT;NINE
325A;CIRCLED NUMBER THIRTY;; ONE; TWO; THREE; FOUR; FIVE
3260;CIRCLED HANGUL ;KIYEOK;NIEUN;TIKEUT;RIEUL;MIEUM;PIEUP;SIOS;IEUNG;CIEUC;CHIEUCH;KHIEUKH
;THIEUTH;PHIEUPH;HIEUH;KIYEOK A;NIEUN A;TIKEUT A;RIEUL A;MIEUM A;PIEUP A;SIOS A;IEUNG A;CIEUC A
;CHIEUCH A;KHIEUKH A;THIEUTH A;PHIEUPH A;HIEUH A
327C;CIRCLED KOREAN CHARACTER ;CHAMKO;JUEUI
327E;;CIRCLED HANGUL IEUNG U;KOREAN STANDARD SYMBOL
3280;CIRCLED IDEOGRAPH ;ONE;TWO;THREE;FOUR;FIVE;SIX;SEVEN;EIGHT;NINE;TEN;MOON;FIRE;WATER;WOOD
;METAL;EARTH;SUN;STOCK;HAVE;SOCIETY;NAME;SPECIAL;FINANCIAL;CONGRATULATION;LABOR;SECRET;MALE
;FEMALE;SUITABLE;EXCELLENT;PRINT;ATTENTION;ITEM;REST;COPY;CORRECT;HIGH;CENTRE;LOW;LEFT;RIGHT
;MEDICINE;RELIGION;STUDY;SUPERVISE;ENTERPRISE;RESOURCE;ALLIANCE;NIGHT
32B1;CIRCLED NUMBER THIRTY ;SIX;SEVEN;EIGHT;NINE
32B5;CIRCLED NUMBER FORTY;; ONE; TWO; THREE; FOUR; FIVE; SIX; SEVEN; EIGHT; NINE
32BF;CIRCLED NUMBER FIFTY;
32C0;IDEOGRAPHIC TELEGRAPH SYMBOL FOR ;JANUARY;FEBRUARY;MARCH;APRIL;MAY;JUNE;JULY;AUGUST
;SEPTEMBER;OCTOBER;NOVEMBER;DECEMBER
32CC;SQUARE ;HG;ERG;EV
32CF;LIMITED LIABILITY SIGN;
32D0;CIRCLED KATAKANA ;A;I;U;E;O;KA;KI;KU;KE;KO;SA;SI;SU;SE;SO;TA;TI;TU;TE;TO;NA;NI;NU;NE;NO;HA
;HI;HU;HE;HO;MA;MI;MU;ME;MO;YA;YU;YO;RA;RI;RU;RE;RO;WA;WI;WE;WO
32FF;SQUARE ;ERA NAME REIWA;APAATO;ARUHUA;ANPEA;AARU;ININGU;INTI;UON;ESUKUUDO;EEKAA;ONSU;OOMU
;KAIRI;KARATTO;KARORII;GARON;GANMA;GIGA;GINII;KYURII;GIRUDAA;KIRO;KIROGURAMU;KIROMEETORU
;KIROWATTO;GURAMU;GURAMUTON;KURUZEIRO;KUROONE;KEESU;KORUNA;KOOPO;SAIKURU;SANTIIMU;SIRINGU;SENTI
;SENTO;DAASU;DESI;DORU;TON;NANO;NOTTO;HAITU;PAASENTO;PAATU;BAARERU;PIASUTORU;PIKURU;PIKO;BIRU
;HUARADDO;HUIITO;BUSSYERU;HURAN;HEKUTAARU;PESO;PENIHI;HERUTU;PENSU;PEEZI;BEETA;POINTO;BORUTO;HON
;PONDO;HOORU;HOON;MAIKURO;MAIRU;MAHHA;MARUKU;MANSYON;MIKURON;MIRI;MIRIBAARU;MEGA;MEGATON;MEETORU
;YAADO;YAARU;YUAN;RITTORU;RIRA;RUPII;RUUBURU;REMU;RENTOGEN;WATTO
3358;IDEOGRAPHIC TELEGRAPH SYMBOL FOR HOUR ;ZERO;ONE;TWO;THREE;FOUR;FIVE;SIX;SEVEN;EIGHT;NINE
;TEN;ELEVEN;TWELVE;THIRTEEN;FOURTEEN;FIFTEEN;SIXTEEN;SEVENTEEN;EIGHTEEN;NINETEEN;TWENTY
;TWENTY-ONE;TWENTY-TWO;TWENTY-THREE;TWENTY-FOUR
3371;SQUARE ;HPA;DA;AU;BAR;OV;PC;DM;DM SQUARED;DM CUBED;IU;ERA NAME HEISEI;ERA NAME SYOUWA
;ERA NAME TAISYOU;ERA NAME MEIZI;CORPORATION;PA AMPS;NA;MU A;MA;KA;KB;MB;GB;CAL;KCAL;PF;NF;MU F
;MU G;MG;KG;HZ;KHZ;MHZ;GHZ;THZ;MU L;ML;DL;KL;FM;NM;MU M;MM;CM;KM;MM SQUARED;CM SQUARED;M SQUARED
;KM SQUARED;MM CUBED;CM CUBED;M CUBED;KM CUBED;M OVER S;M OVER S SQUARED;PA;KPA;MPA;GPA;RAD
;RAD OVER S;RAD OVER S SQUARED;PS;NS;MU S;MS;PV;NV;MU V;MV;KV;MV MEGA;PW;NW;MU W;MW;KW;MW MEGA
;K OHM;M OHM;AM;BQ;CC;CD;C OVER KG;CO;DB;GY;HA;HP;IN;KK;KM CAPITAL;KT;LM;LN;LOG;LX;MB SMALL;MIL
;MOL;PH;PM;PPM;PR;SR;SV;WB;V OVER M;A OVER M
33E0;IDEOGRAPHIC TELEGRAPH SYMBOL FOR DAY ;ONE;TWO;THREE;FOUR;FIVE;SIX;SEVEN;EIGHT;NINE;TEN
;ELEVEN;TWELVE;THIRTEEN;FOURTEEN;FIFTEEN;SIXTEEN;SEVENTEEN;EIGHTEEN;NINETEEN;TWENTY;TWENTY-ONE
;TWENTY-TWO;TWENTY-THREE;TWENTY-FOUR;TWENTY-FIVE;TWENTY-SIX;TWENTY-SEVEN;TWENTY-EIGHT
;TWENTY-NINE;THIRTY;THIRTY-ONE
33FF;SQUARE GAL;
4DC0;HEXAGRAM FOR ;THE CREATIVE HEAVEN;THE RECEPTIVE EARTH;DIFFICULTY AT THE BEGINNING
;YOUTHFUL FOLLY;WAITING;CONFLICT;THE ARMY;HOLDING TOGETHER;SMALL TAMING;TREADING;PEACE
;STANDSTILL;FELLOWSHIP;GREAT POSSESSION;MODESTY;ENTHUSIASM;FOLLOWING;WORK ON THE DECAYED
;APPROACH;CONTEMPLATION;BITING THROUGH;GRACE;SPLITTING APART;RETURN;INNOCENCE;GREAT TAMING
;MOUTH CORNERS;GREAT PREPONDERANCE;THE ABYSMAL WATER;THE CLINGING FIRE;INFLUENCE;DURATION
;RETREAT;GREAT POWER;PROGRESS;DARKENING OF THE LIGHT;THE FAMILY;OPPOSITION;OBSTRUCTION
;DELIVERANCE;DECREASE;INCREASE;BREAKTHROUGH;COMING TO MEET;GATHERING TOGETHER;PUSHING UPWARD
;OPPRESSION;THE WELL;REVOLUTION;THE CAULDRON;THE AROUSING THUNDER;THE KEEPING STILL MOUNTAIN
;DEVELOPMENT;THE MARRYING MAIDEN;ABUNDANCE;THE WANDERER;THE GENTLE WIND;THE JOYOUS LAKE
;DISPERSION;LIMITATION;INNER TRUTH;SMALL PREPONDERANCE;AFTER COMPLETION;BEFORE COMPLETION
A000;YI SYLLABLE ;IT;IX;I;IP;IET;IEX;IE;IEP;AT;AX;A;AP;UOX;UO;UOP;OT;OX;O;OP;EX;E;WU
A016;YI SYLLABLE B;IT;IX;I;IP;IET;IEX;IE;IEP;AT;AX;A;AP;UOX;UO;UOP;OT;OX;O;OP;EX;E;EP;UT;UX;U;UP
;URX;UR;YT;YX;Y;YP;YRX;YR
A038;YI SYLLABLE P;IT;IX;I;IP;IEX;IE;IEP;AT;AX;A;AP;UOX;UO;UOP;OT;OX;O;OP;UT;UX;U;UP;URX;UR;YT
;YX;Y;YP;YRX;YR
A056;YI SYLLABLE BB;IT;IX;I;IP;IET;IEX;IE;IEP;AT;AX;A;AP;UOX;UO;UOP;OT;OX;O;OP;EX;E;EP;UT;UX;U
;UP;URX;UR;YT;YX;Y;YP
A076;YI SYLLABLE NB;IT;IX;I;IP;IEX;IE;IEP;AT;AX;A;AP;OT;OX;O;OP;UT;UX;U;UP;URX;UR;YT;YX;Y;YP;YRX
;YR
A091;YI SYLLABLE HM;IT;IX;I;IP;IEX;IE;IEP;AT;AX;A;AP;UOX;UO;UOP;OT;OX;O;OP;UT;UX;U;UP;URX;UR;YX
;Y;YP;YRX;YR
A0AE;YI SYLLABLE M;IT;IX;I;IP;IEX;IE;IEP;AT;AX;A;AP;UOT;UOX;UO;UOP;OT;OX;O;OP;EX;E;UT;UX;U;UP
;URX;UR;YT;YX;Y;YP
A0CD;YI SYLLABLE F;IT;IX;I;IP;AT;AX;A;AP;OX;O;OP;UT;UX;U;UP;URX;UR;YT;YX;Y;YP
A0E2;YI SYLLABLE V;IT;IX;I;IP;IET;IEX;IE;IEP;AT;AX;A;AP;OT;OX;O;OP;EX;EP;UT;UX;U;UP;URX;UR;YT;YX
;Y;YP;YRX;YR
A100;YI SYLLABLE D;IT;IX;I;IP;IEX;IE;IEP;AT;AX;A;AP;UOX;UO;OT;OX;O;OP;EX;E;EP;UT;UX;U;UP;URX;UR
A11A;YI SYLLABLE T;IT;IX;I;IP;IEX;IE;IEP;AT;AX;A;AP;UOT;UOX;UO;UOP;OT;OX;O;OP;EX;E;EP;UT;UX;U;UP
;URX;UR
A136;YI SYLLABLE DD;IT;IX;I;IP;IEX;IE;IEP;AT;AX;A;AP;UOX;UO;UOP;OT;OX;O;OP;EX;E;EP;UT;UX;U;UP
;URX;UR
A151;YI SYLLABLE ND;IT;IX;I;IP;IEX;IE;AT;AX;A;AP;OT;OX;O;OP;EX;E;EP;UT;UX;U;UP;URX;UR
A168;YI SYLLABLE HN;IT;IX;I;IP;IET;IEX;IE;IEP;AT;AX;A;AP;UOX;UO;OT;OX;OP;EX;E;EP;UT
A17D;YI SYLLABLE N;IT;IX;I;IP;IEX;IE;IEP;AX;A;AP;UOX;UO;UOP;OT;OX;O;OP;EX;E;EP;UT;UX;U;UP;URX;UR
A197;YI SYLLABLE HL;IT;IX;I;IP;IEX;IE;IEP;AT;AX;A;AP;UOX;UO;UOP;OX;O;OP;EX;E;EP;UT;UX;U;UP;URX
;UR;YT;YX;Y;YP;YRX;YR
A1B7;YI SYLLABLE L;IT;IX;I;IP;IET;IEX;IE;IEP;AT;AX;A;AP;UOT;UOX;UO;UOP;OT;OX;O;OP;EX;E;EP;UT;UX
;U;UP;URX;UR;YT;YX;Y;YP;YRX;YR
A1DA;YI SYLLABLE G;IT;IX;I;IP;IET;IEX;IE;IEP;AT;AX;A;AP;UOT;UOX;UO;UOP;OT;OX;O;OP;ET;EX;E;EP;UT
;UX;U;UP;URX;UR
A1F8;YI SYLLABLE K;IT;IX;I;IP;IEX;IE;IEP;AT;AX;A;AP;UOX;UO;UOP;OT;OX;O;OP;ET;EX;E;EP;UT;UX;U;UP
;URX;UR
A214;YI SYLLABLE GG;IT;IX;I;IEX;IE;IEP;AT;AX;A;AP;UOT;UOX;UO;UOP;OT;OX;O;OP;ET;EX;E;EP;UT;UX;U
;UP;URX;UR
A230;YI SYLLABLE MG;IEX;IE;AT;AX;A;AP;UOX;UO;UOP;OT;OX;O;OP;EX;E;EP;UT;UX;U;UP;URX;UR
A246;YI SYLLABLE HX;IT;IX;I;IP;IET;IEX;IE;IEP;AT;AX;A;AP;UOT;UOX;UO;UOP;OT;OX;O;OP;EX;E;EP
A25D;YI SYLLABLE NG;IEX;IE;IEP;AT;AX;A;AP;UOT;UOX;UO;OT;OX;O;OP;EX;E;EP
A26E;YI SYLLABLE H;IT;IEX;IE;AT;AX;A;AP;UOT;UOX;UO;UOP;OT;OX;O;OP;EX;E;EP
A280;YI SYLLABLE W;AT;AX;A;AP;UOX;UO;UOP;OX;O;OP;EX;E;EP
A28D;YI SYLLABLE Z;IT;IX;I;IP;IEX;IE;IEP;AT;AX;A;AP;UOX;UO;UOP;OT;OX;O;OP;EX;E;EP;UT;UX;U;UP;URX
;UR;YT;YX;Y;YP;YRX;YR
A2AE;YI SYLLABLE C;IT;IX;I;IP;IET;IEX;IE;IEP;AT;AX;A;AP;UOX;UO;UOP;OT;OX;O;OP;EX;E;EP;UT;UX;U;UP
;URX;UR;YT;YX;Y;YP;YRX;YR
A2D0;YI SYLLABLE ZZ;IT;IX;I;IP;IET;IEX;IE;IEP;AT;AX;A;AP;OX;O;OP;EX;E;EP;UX;U;UP;URX;UR;YT;YX;Y
;YP;YRX;YR
A2ED;YI SYLLABLE NZ;IT;IX;I;IP;IEX;IE;IEP;AT;AX;A;AP;UOX;UO;OX;OP;EX;E;UX;U;UP;URX;UR;YT;YX;Y;YP
;YRX;YR
A309;YI SYLLABLE S;IT;IX;I;IP;IEX;IE;IEP;AT;AX;A;AP;UOX;UO;UOP;OT;OX;O;OP;EX;E;EP;UT;UX;U;UP;URX
;UR;YT;YX;Y;YP;YRX;YR
A32A;YI SYLLABLE SS;IT;IX;I;IP;IEX;IE;IEP;AT;AX;A;AP;OT;OX;O;OP;EX;E;EP;UT;UX;U;UP;YT;YX;Y;YP
;YRX;YR
A346;YI SYLLABLE ZH;AT;AX;A;AP;UOX;UO;UOP;OT;OX;O;OP;ET;EX;E;EP;UT;UX;U;UP;URX;UR;YT;YX;Y;YP;YRX
;YR
A361;YI SYLLABLE CH;AT;AX;A;AP;UOT;UOX;UO;UOP;OT;OX;O;OP;ET;EX;E;EP;UX;U;UP;URX;UR;YT;YX;Y;YP
;YRX;YR
A37C;YI SYLLABLE RR;AX;A;UOX;UO;OT;OX;O;OP;ET;EX;E;EP;UT;UX;U;UP;URX;UR;YT;YX;Y;YP;YRX;YR
A394;YI SYLLABLE NR;AT;AX;A;AP;OX;O;OP;ET;EX;E;EP;UT;UX;U;UP;URX;UR;YT;YX;Y;YP;YRX;YR
A3AB;YI SYLLABLE SH;AT;AX;A;AP;UOX;UO;UOP;OT;OX;O;OP;ET;EX;E;EP;UT;UX;U;UP;URX;UR;YT;YX;Y;YP;YRX
;YR
A3C6;YI SYLLABLE R;AT;AX;A;AP;UOX;UO;UOP;OT;OX;O;OP;EX;E;EP;UT;UX;U;UP;URX;UR;YT;YX;Y;YP;YRX;YR
A3E0;YI SYLLABLE J;IT;IX;I;IP;IET;IEX;IE;IEP;UOT;UOX;UO;UOP;OT;OX;O;OP;UT;UX;U;UP;URX;UR;YT;YX;Y
;YP;YRX;YR
A3FC;YI SYLLABLE Q;IT;IX;I;IP;IET;IEX;IE;IEP;UOT;UOX;UO;UOP;OT;OX;O;OP;UT;UX;U;UP;URX;UR;YT;YX;Y
;YP;YRX;YR
A418;YI SYLLABLE JJ;IT;IX;I;IP;IET;IEX;IE;IEP;UOX;UO;UOP;OT;OX;O;OP;UT;UX;U;UP;URX;UR;YT;YX;Y;YP
A431;YI SYLLABLE NJ;IT;IX;I;IP;IET;IEX;IE;IEP;UOX;UO;OT;OX;O;OP;UX;U;UP;URX;UR;YT;YX;Y;YP;YRX;YR
A44A;YI SYLLABLE NY;IT;IX;I;IP;IET;IEX;IE;IEP;UOX;UO;UOP;OT;OX;O;OP;UT;UX;U;UP
A45D;YI SYLLABLE X;IT;IX;I;IP;IET;IEX;IE;IEP;UOX;UO;OT;OX;O;OP;YT;YX;Y;YP;YRX;YR
A471;YI SYLLABLE Y;IT;IX;I;IP;IET;IEX;IE;IEP;UOT;UOX;UO;UOP;OT;OX;O;OP;UT;UX;U;UP;URX;UR;YT;YX;Y
;YP;YRX;YR
A490;YI RADICAL ;QOT;LI;KIT;NYIP;CYP;SSI;GGOP;GEP;MI;HXIT;LYR;BBUT;MOP;YO;PUT;HXUO;TAT;GA;ZUP
;CYT;DDUR;BUR;GGUO;NYOP;TU;OP;JJUT;ZOT;PYT;HMO;YIT;VUR;SHY;VEP;ZA;JO;NZUP;JJY;GOT;JJIE;WO;DU
;SHUR;LIE;CY;CUOP;CIP;HXOP;SHAT;ZUR;SHOP;CHE;ZZIET;NBIE;KE
A4D0;LISU LETTER ;BA;PA;PHA;DA;TA;THA;GA;KA;KHA;JA;CA;CHA;DZA;TSA;TSHA;MA;NA;LA;SA;ZHA;ZA;NGA;HA
;XA;HHA;FA;WA;SHA;YA;GHA;A;AE;E;EU;I;O;U;UE;UH;OE;TONE MYA TI;TONE NA PO
A4FA;LISU LETTER TONE MYA ;CYA;BO;NA;JEU
A4FE;LISU PUNCTUATION ;COMMA;FULL STOP
A500;VAI SYLLABLE ;EE;EEN;HEE;WEE;WEEN;PEE;BHEE;BEE;MBEE;KPEE;MGBEE;GBEE;FEE;VEE;TEE;THEE;DHEE
;DHHEE;LEE;REE;DEE;NDEE;SEE;SHEE;ZEE;ZHEE;CEE;JEE;NJEE;YEE;KEE;NGGEE;GEE;MEE;NEE;NYEE;I;IN;HI
;HIN;WI;WIN;PI;BHI;BI;MBI;KPI;MGBI;GBI;FI;VI;TI;THI;DHI;DHHI;LI;RI;DI;NDI;SI;SHI;ZI;ZHI;CI;JI
;NJI;YI;KI;NGGI;GI;MI;NI;NYI;A;AN;NGAN;HA;HAN;WA;WAN;PA;BHA;BA;MBA;KPA;KPAN;MGBA;GBA;FA;VA;TA
;THA;DHA;DHHA;LA;RA;DA;NDA;SA;SHA;ZA;ZHA;CA;JA;NJA;YA;KA;KAN;NGGA;GA;MA;NA;NYA;OO;OON;HOO;WOO
;WOON;POO;BHOO;BOO;MBOO;KPOO;MGBOO;GBOO;FOO;VOO;TOO;THOO;DHOO;DHHOO;LOO;ROO;DOO;NDOO;SOO;SHOO
;ZOO;ZHOO;COO;JOO;NJOO;YOO;KOO;NGGOO;GOO;MOO;NOO;NYOO;U;UN;HU;HUN;WU;WUN;PU;BHU;BU;MBU;KPU;MGBU
;GBU;FU;VU;TU;THU;DHU;DHHU;LU;RU;DU;NDU;SU;SHU;ZU;ZHU;CU;JU;NJU;YU;KU;NGGU;GU;MU;NU;NYU;O;ON
;NGON;HO;HON;WO;WON;PO;BHO;BO;MBO;KPO;MGBO;GBO;GBON;FO;VO;TO;THO;DHO;DHHO;LO;RO;DO;NDO;SO;SHO;ZO
;ZHO;CO;JO;NJO;YO;KO;NGGO;GO;MO;NO;NYO;E;EN;NGEN;HE;HEN;WE;WEN;PE;BHE;BE;MBE;KPE;KPEN;MGBE;GBE
;GBEN;FE;VE;TE;THE;DHE;DHHE;LE;RE;DE;NDE;SE;SHE;ZE;ZHE;CE;JE;NJE;YE;KE;NGGE;NGGEN;GE;GEN;ME;NE
;NYE;NG;LENGTHENER
A60D;VAI ;COMMA;FULL STOP;QUESTION MARK
A610;VAI SYLLABLE NDOLE ;FA;KA;SOO
A613;VAI SYMBOL ;FEENG;KEENG;TING;NII;BANG;FAA;TAA;DANG;DOONG;KUNG;TONG;DO-O;JONG
A620;VAI DIGIT ;ZERO;ONE;TWO;THREE;FOUR;FIVE;SIX;SEVEN;EIGHT;NINE
A62A;VAI SYLLABLE NDOLE ;MA;DO
A640;CYRILLIC ;CAPITAL LETTER ZEMLYA;SMALL LETTER ZEMLYA;CAPITAL LETTER DZELO;SMALL LETTER DZELO
;CAPITAL LETTER REVERSED DZE;SMALL LETTER REVERSED DZE;CAPITAL LETTER IOTA;SMALL LETTER IOTA
;CAPITAL LETTER DJERV;SMALL LETTER DJERV;CAPITAL LETTER MONOGRAPH UK;SMALL LETTER MONOGRAPH UK
;CAPITAL LETTER BROAD OMEGA;SMALL LETTER BROAD OMEGA;CAPITAL LETTER NEUTRAL YER
;SMALL LETTER NEUTRAL YER;CAPITAL LETTER YERU WITH BACK YER;SMALL LETTER YERU WITH BACK YER
;CAPITAL LETTER IOTIFIED YAT;SMALL LETTER IOTIFIED YAT;CAPITAL LETTER REVERSED YU
;SMALL LETTER REVERSED YU;CAPITAL LETTER IOTIFIED A;SMALL LETTER IOTIFIED A
;CAPITAL LETTER CLOSED LITTLE YUS;SMALL LETTER CLOSED LITTLE YUS;CAPITAL LETTER BLENDED YUS
;SMALL LETTER BLENDED YUS;CAPITAL LETTER IOTIFIED CLOSED LITTLE YUS
;SMALL LETTER IOTIFIED CLOSED LITTLE YUS;CAPITAL LETTER YN;SMALL LETTER YN
;CAPITAL LETTER REVERSED TSE;SMALL LETTER REVERSED TSE;CAPITAL LETTER SOFT DE
;SMALL LETTER SOFT DE;CAPITAL LETTER SOFT EL;SMALL LETTER SOFT EL;CAPITAL LETTER SOFT EM
;SMALL LETTER SOFT EM;CAPITAL LETTER MONOCULAR O;SMALL LETTER MONOCULAR O
;CAPITAL LETTER BINOCULAR O;SMALL LETTER BINOCULAR O;CAPITAL LETTER DOUBLE MONOCULAR O
;SMALL LETTER DOUBLE MONOCULAR O;LETTER MULTIOCULAR O
A66F;COMBINING CYRILLIC ;VZMET;TEN MILLIONS SIGN;HUNDRED MILLIONS SIGN;THOUSAND MILLIONS SIGN
A673;SLAVONIC ASTERISK;
A674;COMBINING CYRILLIC LETTER ;UKRAINIAN IE;I;YI;U;HARD SIGN;YERU;SOFT SIGN;OMEGA
A67C;COMBINING CYRILLIC ;KAVYKA;PAYEROK
A67E;CYRILLIC ;KAVYKA;PAYEROK;CAPITAL LETTER DWE;SMALL LETTER DWE;CAPITAL LETTER DZWE
;SMALL LETTER DZWE;CAPITAL LETTER ZHWE;SMALL LETTER ZHWE;CAPITAL LETTER CCHE;SMALL LETTER CCHE
;CAPITAL LETTER DZZE;SMALL LETTER DZZE;CAPITAL LETTER TE WITH MIDDLE HOOK
;SMALL LETTER TE WITH MIDDLE HOOK;CAPITAL LETTER TWE;SMALL LETTER TWE;CAPITAL LETTER TSWE
;SMALL LETTER TSWE;CAPITAL LETTER TSSE;SMALL LETTER TSSE;CAPITAL LETTER TCHE;SMALL LETTER TCHE
;CAPITAL LETTER HWE;SMALL LETTER HWE;CAPITAL LETTER SHWE;SMALL LETTER SHWE
;CAPITAL LETTER DOUBLE O;SMALL LETTER DOUBLE O;CAPITAL LETTER CROSSED O;SMALL LETTER CROSSED O
A69C;MODIFIER LETTER CYRILLIC ;HARD SIGN;SOFT SIGN
A69E;COMBINING CYRILLIC LETTER ;EF;IOTIFIED E
A6A0;BAMUM LETTER ;A;KA;U;KU;EE;REE;TAE;O;NYI;I;LA;PA;RII;RIEE;LEEEE;MEEEE;TAA;NDAA;NJAEM;M;SUU
;MU;SHII;SI;SHEUX;SEUX;KYEE;KET;NUAE;NU;NJUAE;YOQ;SHU;YUQ;YA;NSHA;KEUX;PEUX;NJEE;NTEE;PUE;WUE
;PEE;FEE;RU;LU;MI;NI;REUX;RAE;KEN;NGKWAEN;NGGA;NGA;SHO;PUAE;FU;FOM;WA;NA;LI;PI;LOQ;KO;MBEN;REN
;MEN;MA;TI;KI;MO;MBAA;TET;KPA;TEN;NTUU;SAMBA;FAAMAE;KOVUU;KOGHOM
A6F0;BAMUM COMBINING MARK ;KOQNDON;TUKWENTIS
A6F2;BAMUM ;NJAEMLI;FULL STOP;COLON;COMMA;SEMICOLON;QUESTION MARK
A700;MODIFIER LETTER CHINESE TONE Y;IN PING;ANG PING;IN SHANG;ANG SHANG;IN QU;ANG QU;IN RU
;ANG RU
A708;MODIFIER LETTER ;EXTRA-HIGH DOTTED TONE BAR;HIGH DOTTED TONE BAR;MID DOTTED TONE BAR
;LOW DOTTED TONE BAR;EXTRA-LOW DOTTED TONE BAR;EXTRA-HIGH DOTTED LEFT-STEM TONE BAR
;HIGH DOTTED LEFT-STEM TONE BAR;MID DOTTED LEFT-STEM TONE BAR;LOW DOTTED LEFT-STEM TONE BAR
;EXTRA-LOW DOTTED LEFT-STEM TONE BAR;EXTRA-HIGH LEFT-STEM TONE BAR;HIGH LEFT-STEM TONE BAR
;MID LEFT-STEM TONE BAR;LOW LEFT-STEM TONE BAR;EXTRA-LOW LEFT-STEM TONE BAR;DOT VERTICAL BAR
;DOT SLASH;DOT HORIZONTAL BAR;LOWER RIGHT CORNER ANGLE;RAISED UP ARROW;RAISED DOWN ARROW
;RAISED EXCLAMATION MARK;RAISED INVERTED EXCLAMATION MARK;LOW INVERTED EXCLAMATION MARK
;STRESS AND HIGH TONE;STRESS AND LOW TONE
A722;LATIN ;CAPITAL LETTER EGYPTOLOGICAL ALEF;SMALL LETTER EGYPTOLOGICAL ALEF
;CAPITAL LETTER EGYPTOLOGICAL AIN;SMALL LETTER EGYPTOLOGICAL AIN;CAPITAL LETTER HENG
;SMALL LETTER HENG;CAPITAL LETTER TZ;SMALL LETTER TZ;CAPITAL LETTER TRESILLO
;SMALL LETTER TRESILLO;CAPITAL LETTER CUATRILLO;SMALL LETTER CUATRILLO
;CAPITAL LETTER CUATRILLO WITH COMMA;SMALL LETTER CUATRILLO WITH COMMA;LETTER SMALL CAPITAL F
;LETTER SMALL CAPITAL S;CAPITAL LETTER AA;SMALL LETTER AA;CAPITAL LETTER AO;SMALL LETTER AO
;CAPITAL LETTER AU;SMALL LETTER AU;CAPITAL LETTER AV;SMALL LETTER AV
;CAPITAL LETTER AV WITH HORIZONTAL BAR;SMALL LETTER AV WITH HORIZONTAL BAR;CAPITAL LETTER AY
;SMALL LETTER AY;CAPITAL LETTER REVERSED C WITH DOT;SMALL LETTER REVERSED C WITH DOT
;CAPITAL LETTER K WITH STROKE;SMALL LETTER K WITH STROKE;CAPITAL LETTER K WITH DIAGONAL STROKE
;SMALL LETTER K WITH DIAGONAL STROKE;CAPITAL LETTER K WITH STROKE AND DIAGONAL STROKE
;SMALL LETTER K WITH STROKE AND DIAGONAL STROKE;CAPITAL LETTER BROKEN L;SMALL LETTER BROKEN L
;CAPITAL LETTER L WITH HIGH STROKE;SMALL LETTER L WITH HIGH STROKE
;CAPITAL LETTER O WITH LONG STROKE OVERLAY;SMALL LETTER O WITH LONG STROKE OVERLAY
;CAPITAL LETTER O WITH LOOP;SMALL LETTER O WITH LOOP;CAPITAL LETTER OO;SMALL LETTER OO
;CAPITAL LETTER P WITH STROKE THROUGH DESCENDER;SMALL LETTER P WITH STROKE THROUGH DESCENDER
;CAPITAL LETTER P WITH FLOURISH;SMALL LETTER P WITH FLOURISH;CAPITAL LETTER P WITH SQUIRREL TAIL
;SMALL LETTER P WITH SQUIRREL TAIL;CAPITAL LETTER Q WITH STROKE THROUGH DESCENDER
;SMALL LETTER Q WITH STROKE THROUGH DESCENDER;CAPITAL LETTER Q WITH DIAGONAL STROKE
;SMALL LETTER Q WITH DIAGONAL STROKE;CAPITAL LETTER R ROTUNDA;SMALL LETTER R ROTUNDA
;CAPITAL LETTER RUM ROTUNDA;SMALL LETTER RUM ROTUNDA;CAPITAL LETTER V WITH DIAGONAL STROKE
;SMALL LETTER V WITH DIAGONAL STROKE;CAPITAL LETTER VY;SMALL LETTER VY
;CAPITAL LETTER VISIGOTHIC Z;SMALL LETTER VISIGOTHIC Z;CAPITAL LETTER THORN WITH STROKE
;SMALL LETTER THORN WITH STROKE;CAPITAL LETTER THORN WITH STROKE THROUGH DESCENDER
;SMALL LETTER THORN WITH STROKE THROUGH DESCENDER;CAPITAL LETTER VEND;SMALL LETTER VEND
;CAPITAL LETTER ET;SMALL LETTER ET;CAPITAL LETTER IS;SMALL LETTER IS;CAPITAL LETTER CON
;SMALL LETTER CON
A770;MODIFIER LETTER US;
A771;LATIN SMALL LETTER ;DUM;LUM;MUM;NUM;RUM
A776;LATIN ;LETTER SMALL CAPITAL RUM;SMALL LETTER TUM;SMALL LETTER UM;CAPITAL LETTER INSULAR D
;SMALL LETTER INSULAR D;CAPITAL LETTER INSULAR F;SMALL LETTER INSULAR F;CAPITAL LETTER INSULAR G
;CAPITAL LETTER TURNED INSULAR G;SMALL LETTER TURNED INSULAR G;CAPITAL LETTER TURNED L
;SMALL LETTER TURNED L;CAPITAL LETTER INSULAR R;SMALL LETTER INSULAR R;CAPITAL LETTER INSULAR S
;SMALL LETTER INSULAR S;CAPITAL LETTER INSULAR T;SMALL LETTER INSULAR T
A788;MODIFIER LETTER ;LOW CIRCUMFLEX ACCENT;COLON;SHORT EQUALS SIGN
A78B;LATIN ;CAPITAL LETTER SALTILLO;SMALL LETTER SALTILLO;CAPITAL LETTER TURNED H
;SMALL LETTER L WITH RETROFLEX HOOK AND BELT;LETTER SINOLOGICAL DOT
;CAPITAL LETTER N WITH DESCENDER;SMALL LETTER N WITH DESCENDER;CAPITAL LETTER C WITH BAR
;SMALL LETTER C WITH BAR;SMALL LETTER C WITH PALATAL HOOK;SMALL LETTER H WITH PALATAL HOOK
;CAPITAL LETTER B WITH FLOURISH;SMALL LETTER B WITH FLOURISH;CAPITAL LETTER F WITH STROKE
;SMALL LETTER F WITH STROKE;CAPITAL LETTER VOLAPUK AE;SMALL LETTER VOLAPUK AE
;CAPITAL LETTER VOLAPUK OE;SMALL LETTER VOLAPUK OE;CAPITAL LETTER VOLAPUK UE
;SMALL LETTER VOLAPUK UE;CAPITAL LETTER G WITH OBLIQUE STROKE;SMALL LETTER G WITH OBLIQUE STROKE
;CAPITAL LETTER K WITH OBLIQUE STROKE;SMALL LETTER K WITH OBLIQUE STROKE
;CAPITAL LETTER N WITH OBLIQUE STROKE;SMALL LETTER N WITH OBLIQUE STROKE
;CAPITAL LETTER R WITH OBLIQUE STROKE;SMALL LETTER R WITH OBLIQUE STROKE
;CAPITAL LETTER S WITH OBLIQUE STROKE;SMALL LETTER S WITH OBLIQUE STROKE
A7AA;LATIN CAPITAL LETTER ;H WITH HOOK;REVERSED OPEN E;SCRIPT G;L WITH BELT;SMALL CAPITAL I
A7AF;LATIN LETTER SMALL CAPITAL Q;
A7B0;LATIN CAPITAL LETTER ;TURNED K;TURNED T;J WITH CROSSED-TAIL;CHI;BETA
A7B5;LATIN ;SMALL LETTER BETA;CAPITAL LETTER OMEGA;SMALL LETTER OMEGA
;CAPITAL LETTER U WITH STROKE;SMALL LETTER U WITH STROKE;CAPITAL LETTER GLOTTAL A
;SMALL LETTER GLOTTAL A;CAPITAL LETTER GLOTTAL I;SMALL LETTER GLOTTAL I;CAPITAL LETTER GLOTTAL U
;SMALL LETTER GLOTTAL U;CAPITAL LETTER OLD POLISH O;SMALL LETTER OLD POLISH O
;CAPITAL LETTER ANGLICANA W;SMALL LETTER ANGLICANA W
A7C4;LATIN CAPITAL LETTER ;C WITH PALATAL HOOK;S WITH HOOK;Z WITH PALATAL HOOK
;D WITH SHORT STROKE OVERLAY
A7C8;LATIN ;SMALL LETTER D WITH SHORT STROKE OVERLAY;CAPITAL LETTER S WITH SHORT STROKE OVERLAY
;SMALL LETTER S WITH SHORT STROKE OVERLAY
A7D0;LATIN ;CAPITAL LETTER CLOSED INSULAR G;SMALL LETTER CLOSED INSULAR G
A7D3;LATIN SMALL LETTER DOUBLE THORN;
A7D5;LATIN ;SMALL LETTER DOUBLE WYNN;CAPITAL LETTER MIDDLE SCOTS S;SMALL LETTER MIDDLE SCOTS S
;CAPITAL LETTER SIGMOID S;SMALL LETTER SIGMOID S
A7F2;MODIFIER LETTER CAPITAL ;C;F;Q
A7F5;LATIN ;CAPITAL LETTER REVERSED HALF H;SMALL LETTER REVERSED HALF H
;EPIGRAPHIC LETTER SIDEWAYS I
A7F8;MODIFIER LETTER ;CAPITAL H WITH STROKE;SMALL LIGATURE OE
A7FA;LATIN LETTER SMALL CAPITAL TURNED M;
A7FB;LATIN EPIGRAPHIC LETTER ;REVERSED F;REVERSED P;INVERTED M;I LONGA;ARCHAIC M
A800;SYLOTI NAGRI ;LETTER A;LETTER I;SIGN DVISVARA;LETTER U;LETTER E;LETTER O;SIGN HASANTA
;LETTER KO;LETTER KHO;LETTER GO;LETTER GHO;SIGN ANUSVARA
A80C;SYLOTI NAGRI LETTER ;CO;CHO;JO;JHO;TTO;TTHO;DDO;DDHO;TO;THO;DO;DHO;NO;PO;PHO;BO;BHO;MO;RO
;LO;RRO;SO;HO
A823;SYLOTI NAGRI VOWEL SIGN ;A;I;U;E;OO
A828;SYLOTI NAGRI POETRY MARK-;1;2;3;4
A82C;SYLOTI NAGRI SIGN ALTERNATE HASANTA;
A830;NORTH INDIC FRACTION ;ONE QUARTER;ONE HALF;THREE QUARTERS;ONE SIXTEENTH;ONE EIGHTH
;THREE SIXTEENTHS
A836;NORTH INDIC ;QUARTER MARK;PLACEHOLDER MARK;RUPEE MARK;QUANTITY MARK
A840;PHAGS-PA LETTER ;KA;KHA;GA;NGA;CA;CHA;JA;NYA;TA;THA;DA;NA;PA;PHA;BA;MA;TSA;TSHA;DZA;WA;ZHA
;ZA;SMALL A;YA;RA;LA;SHA;SA;HA;A;I;U;E;O;QA;XA;FA;GGA;EE
A867;PHAGS-PA SUBJOINED LETTER ;WA;YA
A869;PHAGS-PA LETTER ;TTA;TTHA;DDA;NNA;ALTERNATE YA;VOICELESS SHA;VOICED HA;ASPIRATED FA
A871;PHAGS-PA ;SUBJOINED LETTER RA;SUPERFIXED LETTER RA;LETTER CANDRABINDU;SINGLE HEAD MARK
;DOUBLE HEAD MARK;MARK SHAD;MARK DOUBLE SHAD
A880;SAURASHTRA SIGN ;ANUSVARA;VISARGA
A882;SAURASHTRA LETTER ;A;AA;I;II;U;UU;VOCALIC R;VOCALIC RR;VOCALIC L;VOCALIC LL;E;EE;AI;O;OO;AU
;KA;KHA;GA;GHA;NGA;CA;CHA;JA;JHA;NYA;TTA;TTHA;DDA;DDHA;NNA;TA;THA;DA;DHA;NA;PA;PHA;BA;BHA;MA;YA
;RA;LA;VA;SHA;SSA;SA;HA;LLA
A8B4;SAURASHTRA CONSONANT SIGN HAARU;
A8B5;SAURASHTRA VOWEL SIGN ;AA;I;II;U;UU;VOCALIC R;VOCALIC RR;VOCALIC L;VOCALIC LL;E;EE;AI;O;OO
;AU
A8C4;SAURASHTRA SIGN ;VIRAMA;CANDRABINDU
A8CE;SAURASHTRA D;ANDA;OUBLE DANDA
A8D0;SAURASHTRA DIGIT ;ZERO;ONE;TWO;THREE;FOUR;FIVE;SIX;SEVEN;EIGHT;NINE
A8E0;COMBINING DEVANAGARI DIGIT ;ZERO;ONE;TWO;THREE;FOUR;FIVE;SIX;SEVEN;EIGHT;NINE
A8EA;COMBINING DEVANAGARI LETTER ;A;U;KA;NA;PA;RA;VI
A8F1;COMBINING DEVANAGARI SIGN AVAGRAHA;
A8F2;DEVANAGARI SIGN ;SPACING CANDRABINDU;CANDRABINDU VIRAMA;DOUBLE CANDRABINDU VIRAMA
;CANDRABINDU TWO;CANDRABINDU THREE;CANDRABINDU AVAGRAHA;PUSHPIKA
A8F9;DEVANAGARI ;GAP FILLER;CARET;HEADSTROKE;SIGN SIDDHAM;JAIN OM;LETTER AY;VOWEL SIGN AY
A900;KAYAH LI DIGIT ;ZERO;ONE;TWO;THREE;FOUR;FIVE;SIX;SEVEN;EIGHT;NINE
A90A;KAYAH LI LETTER ;KA;KHA;GA;NGA;SA;SHA;ZA;NYA;TA;HTA;NA;PA;PHA;MA;DA;BA;RA;YA;LA;WA;THA;HA
;VA;CA;A;OE;I;OO
A926;KAYAH LI VOWEL ;UE;E;U;EE;O
A92B;KAYAH LI ;TONE PLOPHU;TONE CALYA;TONE CALYA PLOPHU;SIGN CWI;SIGN SHYA
A930;REJANG LETTER ;KA;GA;NGA;TA;DA;NA;PA;BA;MA;CA;JA;NYA;SA;RA;LA;YA;WA;HA;MBA;NGGA;NDA;NYJA;A
A947;REJANG VOWEL SIGN ;I;U;E;AI;O;AU;EU;EA
A94F;REJANG CONSONANT SIGN ;NG;N;R;H
A953;REJANG VIRAMA;
A95F;REJANG SECTION MARK;
A960;HANGUL CHOSEONG TIKEUT-;MIEUM;PIEUP;SIOS;CIEUC
A964;HANGUL CHOSEONG RIEUL-;KIYEOK;SSANGKIYEOK;TIKEUT;SSANGTIKEUT;MIEUM;PIEUP;SSANGPIEUP
;KAPYEOUNPIEUP;SIOS;CIEUC;KHIEUKH
A96F;HANGUL CHOSEONG ;MIEUM-KIYEOK;MIEUM-TIKEUT;MIEUM-SIOS;PIEUP-SIOS-THIEUTH;PIEUP-KHIEUKH
;PIEUP-HIEUH;SSANGSIOS-PIEUP;IEUNG-RIEUL;IEUNG-HIEUH;SSANGCIEUC-HIEUH;SSANGTHIEUTH;PHIEUPH-HIEUH
;HIEUH-SIOS;SSANGYEORINHIEUH
A980;JAVANESE SIGN ;PANYANGGA;CECAK;LAYAR;WIGNYAN
A984;JAVANESE LETTER ;A;I KAWI;I;II;U;PA CEREK;NGA LELET;NGA LELET RASWADI;E;AI;O;KA;KA SASAK
;KA MURDA;GA;GA MURDA;NGA;CA;CA MURDA;JA;NYA MURDA;JA MAHAPRANA;NYA;TTA;TTA MAHAPRANA;DDA
;DDA MAHAPRANA;NA MURDA;TA;TA MURDA;DA;DA MAHAPRANA;NA;PA;PA MURDA;BA;BA MURDA;MA;YA;RA;RA AGUNG
;LA;WA;SA MURDA;SA MAHAPRANA;SA;HA
A9B3;JAVANESE SIGN CECAK TELU;
A9B4;JAVANESE VOWEL SIGN ;TARUNG;TOLONG;WULU;WULU MELIK;SUKU;SUKU MENDUT;TALING;DIRGA MURE;PEPET
A9BD;JAVANESE CONSONANT SIGN ;KERET;PENGKAL;CAKRA
A9C0;JAVANESE ;PANGKON;LEFT RERENGGAN;RIGHT RERENGGAN
A9C3;JAVANESE PADA ;ANDAP;MADYA;LUHUR;WINDU;PANGKAT;LINGSA;LUNGSI;ADEG;ADEG ADEG;PISELEH
A9CD;JAVANESE TURNED PADA PISELEH;
A9CF;JAVANESE PANGRANGKEP;
A9D0;JAVANESE DIGIT ;ZERO;ONE;TWO;THREE;FOUR;FIVE;SIX;SEVEN;EIGHT;NINE
A9DE;JAVANESE PADA ;TIRTA TUMETES;ISEN-ISEN
A9E0;MYANMAR LETTER SHAN ;GHA;CHA;JHA;NNA;BHA
A9E5;MYANMAR ;SIGN SHAN SAW;MODIFIER LETTER SHAN REDUPLICATION
A9E7;MYANMAR LETTER TAI LAING ;NYA;FA;GA;GHA;JA;JHA;DDA;DDHA;NNA
A9F0;MYANMAR TAI LAING DIGIT ;ZERO;ONE;TWO;THREE;FOUR;FIVE;SIX;SEVEN;EIGHT;NINE
A9FA;MYANMAR LETTER TAI LAING ;LLA;DA;DHA;BA;BHA
AA00;CHAM LETTER ;A;I;U;E;AI;O;KA;KHA;GA;GHA;NGUE;NGA;CHA;CHHA;JA;JHA;NHUE;NHA;NHJA;TA;THA;DA
;DHA;NUE;NA;DDA;PA;PPA;PHA;BA;BHA;MUE;MA;BBA;YA;RA;LA;VA;SSA;SA;HA
AA29;CHAM VOWEL SIGN ;AA;I;II;EI;U;OE;O;AI;AU;UE
AA33;CHAM CONSONANT SIGN ;YA;RA;LA;WA
AA40;CHAM LETTER FINAL ;K;G;NG
AA43;CHAM CONSONANT SIGN FINAL NG;
AA44;CHAM LETTER FINAL ;CH;T;N;P;Y;R;L;SS
AA4C;CHAM CONSONANT SIGN FINAL ;M;H
AA50;CHAM DIGIT ;ZERO;ONE;TWO;THREE;FOUR;FIVE;SIX;SEVEN;EIGHT;NINE
AA5C;CHAM PUNCTUATION ;SPIRAL;DANDA;DOUBLE DANDA;TRIPLE DANDA
AA60;MYANMAR LETTER KHAMTI ;GA;CA;CHA;JA;JHA;NYA;TTA;TTHA;DDA;DDHA;DHA;NA;SA;HA;HHA;FA
AA70;MYANMAR MODIFIER LETTER KHAMTI REDUPLICATION;
AA71;MYANMAR LETTER KHAMTI ;XA;ZA;RA
AA74;MYANMAR LOGOGRAM KHAMTI ;OAY;QN;HM
AA77;MYANMAR SYMBOL AITON ;EXCLAMATION;ONE;TWO
AA7A;MYANMAR ;LETTER AITON RA;SIGN PAO KAREN TONE
AA7C;MYANMAR SIGN TAI LAING TONE-;2;5
AA7E;MYANMAR LETTER SHWE PALAUNG ;CHA;SHA
AA80;TAI VIET LETTER ;LOW KO;HIGH KO;LOW KHO;HIGH KHO;LOW KHHO;HIGH KHHO;LOW GO;HIGH GO;LOW NGO
;HIGH NGO;LOW CO;HIGH CO;LOW CHO;HIGH CHO;LOW SO;HIGH SO;LOW NYO;HIGH NYO;LOW DO;HIGH DO;LOW TO
;HIGH TO;LOW THO;HIGH THO;LOW NO;HIGH NO;LOW BO;HIGH BO;LOW PO;HIGH PO;LOW PHO;HIGH PHO;LOW FO
;HIGH FO;LOW MO;HIGH MO;LOW YO;HIGH YO;LOW RO;HIGH RO;LOW LO;HIGH LO;LOW VO;HIGH VO;LOW HO
;HIGH HO;LOW O;HIGH O
AAB0;TAI VIET ;MAI KANG;VOWEL AA;VOWEL I;VOWEL UE;VOWEL U;VOWEL E;VOWEL O;MAI KHIT
AAB8;TAI VIET VOWEL ;IA;UEA;UA;AUE;AY;AN;AM
AABF;TAI VIET TONE MAI ;EK;NUENG;THO;SONG
AADB;TAI VIET SYMBOL ;KON;NUENG;SAM;HO HOI;KOI KOI
AAE0;MEETEI MAYEK LETTER ;E;O;CHA;NYA;TTA;TTHA;DDA;DDHA;NNA;SHA;SSA
AAEB;MEETEI MAYEK VOWEL SIGN ;II;UU;AAI;AU;AAU
AAF0;MEETEI MAYEK ;CHEIKHAN;AHANG KHUDAM;ANJI;SYLLABLE REPETITION MARK;WORD REPETITION MARK
;VOWEL SIGN VISARGA;VIRAMA
AB01;ETHIOPIC SYLLABLE TTH;U;I;AA;EE;E;O
AB09;ETHIOPIC SYLLABLE DDH;U;I;AA;EE;E;O
AB11;ETHIOPIC SYLLABLE DZ;U;I;AA;EE;E;O
AB20;ETHIOPIC SYLLABLE CCHH;A;U;I;AA;EE;E;O
AB28;ETHIOPIC SYLLABLE BB;A;U;I;AA;EE;E;O
AB30;LATIN SMALL LETTER ;BARRED ALPHA;A REVERSED-SCHWA;BLACKLETTER E;BARRED E;E WITH FLOURISH
;LENIS F;SCRIPT G WITH CROSSED-TAIL;L WITH INVERTED LAZY S;L WITH DOUBLE MIDDLE TILDE
;L WITH MIDDLE RING;M WITH CROSSED-TAIL;N WITH CROSSED-TAIL;ENG WITH CROSSED-TAIL;BLACKLETTER O
;BLACKLETTER O WITH STROKE;OPEN O WITH STROKE;INVERTED OE;TURNED OE WITH STROKE
;TURNED OE WITH HORIZONTAL STROKE;TURNED O OPEN-O;TURNED O OPEN-O WITH STROKE;STIRRUP R
AB46;LATIN LETTER SMALL CAPITAL R WITH RIGHT LEG;
AB47;LATIN SMALL LETTER ;R WITHOUT HANDLE;DOUBLE R;R WITH CROSSED-TAIL
;DOUBLE R WITH CROSSED-TAIL;SCRIPT R;SCRIPT R WITH RING;BASELINE ESH;U WITH SHORT RIGHT LEG
;U BAR WITH SHORT RIGHT LEG;UI;TURNED UI;U WITH LEFT HOOK;CHI;CHI WITH LOW RIGHT RING
;CHI WITH LOW LEFT SERIF;X WITH LOW RIGHT RING;X WITH LONG LEFT LEG
;X WITH LONG LEFT LEG AND LOW RIGHT RING;X WITH LONG LEFT LEG WITH SERIF;Y WITH SHORT RIGHT LEG
AB5B;MODIFIER BREVE WITH INVERTED BREVE;
AB5C;MODIFIER LETTER SMALL ;HENG;L WITH INVERTED LAZY S;L WITH MIDDLE TILDE;U WITH LEFT HOOK
AB60;LATIN SMALL LETTER ;SAKHA YAT;IOTIFIED E;OPEN OE;UO;INVERTED ALPHA
AB65;GREEK LETTER SMALL CAPITAL OMEGA;
AB66;LATIN SMALL LETTER ;DZ DIGRAPH WITH RETROFLEX HOOK;TS DIGRAPH WITH RETROFLEX HOOK
;TURNED R WITH MIDDLE TILDE
AB69;MODIFIER LETTER ;SMALL TURNED W;LEFT TACK;RIGHT TACK
AB70;CHEROKEE SMALL LETTER ;A;E;I;O;U;V;GA;KA;GE;GI;GO;GU;GV;HA;HE;HI;HO;HU;HV;LA;LE;LI;LO;LU;LV
;MA;ME;MI;MO;MU;NA;HNA;NAH;NE;NI;NO;NU;NV;QUA;QUE;QUI;QUO;QUU;QUV;SA;S;SE;SI;SO;SU;SV;DA;TA;DE
;TE;DI;TI;DO;DU;DV;DLA;TLA;TLE;TLI;TLO;TLU;TLV;TSA;TSE;TSI;TSO;TSU;TSV;WA;WE;WI;WO;WU;WV;YA
ABC0;MEETEI MAYEK LETTER ;KOK;SAM;LAI;MIT;PA;NA;CHIL;TIL;KHOU;NGOU;THOU;WAI;YANG;HUK;UN;I;PHAM
;ATIYA;GOK;JHAM;RAI;BA;JIL;DIL;GHOU;DHOU;BHAM;KOK LONSUM;LAI LONSUM;MIT LONSUM;PA LONSUM
;NA LONSUM;TIL LONSUM;NGOU LONSUM;I LONSUM
ABE3;MEETEI MAYEK VOWEL SIGN ;ONAP;INAP;ANAP;YENAP;SOUNAP;UNAP;CHEINAP;NUNG
ABEB;MEETEI MAYEK ;CHEIKHEI;LUM IYEK;APUN IYEK
ABF0;MEETEI MAYEK DIGIT ;ZERO;ONE;TWO;THREE;FOUR;FIVE;SIX;SEVEN;EIGHT;NINE
D7B0;HANGUL JUNGSEONG ;O-YEO;O-O-I;YO-A;YO-AE;YO-EO;U-YEO;U-I-I;YU-AE;YU-O;EU-A;EU-EO;EU-E;EU-O
;I-YA-O;I-YAE;I-YEO;I-YE;I-O-I;I-YO;I-YU;I-I;ARAEA-A;ARAEA-E
D7CB;HANGUL JONGSEONG ;NIEUN-RIEUL;NIEUN-CHIEUCH;SSANGTIKEUT;SSANGTIKEUT-PIEUP;TIKEUT-PIEUP
;TIKEUT-SIOS;TIKEUT-SIOS-KIYEOK;TIKEUT-CIEUC;TIKEUT-CHIEUCH;TIKEUT-THIEUTH;RIEUL-SSANGKIYEOK
;RIEUL-KIYEOK-HIEUH;SSANGRIEUL-KHIEUKH;RIEUL-MIEUM-HIEUH;RIEUL-PIEUP-TIKEUT;RIEUL-PIEUP-PHIEUPH
;RIEUL-YESIEUNG;RIEUL-YEORINHIEUH-HIEUH;KAPYEOUNRIEUL;MIEUM-NIEUN;MIEUM-SSANGNIEUN;SSANGMIEUM
;MIEUM-PIEUP-SIOS;MIEUM-CIEUC;PIEUP-TIKEUT;PIEUP-RIEUL-PHIEUPH;PIEUP-MIEUM;SSANGPIEUP
;PIEUP-SIOS-TIKEUT;PIEUP-CIEUC;PIEUP-CHIEUCH;SIOS-MIEUM;SIOS-KAPYEOUNPIEUP;SSANGSIOS-KIYEOK
;SSANGSIOS-TIKEUT;SIOS-PANSIOS;SIOS-CIEUC;SIOS-CHIEUCH;SIOS-THIEUTH;SIOS-HIEUH;PANSIOS-PIEUP
;PANSIOS-KAPYEOUNPIEUP;YESIEUNG-MIEUM;YESIEUNG-HIEUH;CIEUC-PIEUP;CIEUC-SSANGPIEUP;SSANGCIEUC
;PHIEUPH-SIOS;PHIEUPH-THIEUTH
FB00;LATIN SMALL LIGATURE ;FF;FI;FL;FFI;FFL;LONG S T;ST
FB13;ARMENIAN SMALL LIGATURE ;MEN NOW;MEN ECH;MEN INI;VEW NOW;MEN XEH
FB1D;HEBREW ;LETTER YOD WITH HIRIQ;POINT JUDEO-SPANISH VARIKA;LIGATURE YIDDISH YOD YOD PATAH
;LETTER ALTERNATIVE AYIN
FB21;HEBREW LETTER WIDE ;ALEF;DALET;HE;KAF;LAMED;FINAL MEM;RESH;TAV
FB29;HEBREW LETTER ;ALTERNATIVE PLUS SIGN;SHIN WITH SHIN DOT;SHIN WITH SIN DOT
;SHIN WITH DAGESH AND SHIN DOT;SHIN WITH DAGESH AND SIN DOT;ALEF WITH PATAH;ALEF WITH QAMATS
;ALEF WITH MAPIQ;BET WITH DAGESH;GIMEL WITH DAGESH;DALET WITH DAGESH;HE WITH MAPIQ
;VAV WITH DAGESH;ZAYIN WITH DAGESH
FB38;HEBREW LETTER ;TET WITH DAGESH;YOD WITH DAGESH;FINAL KAF WITH DAGESH;KAF WITH DAGESH
;LAMED WITH DAGESH
FB3E;HEBREW LETTER MEM WITH DAGESH;
FB40;HEBREW LETTER ;NUN WITH DAGESH;SAMEKH WITH DAGESH
FB43;HEBREW LETTER ;FINAL PE WITH DAGESH;PE WITH DAGESH
FB46;HEBREW LETTER ;TSADI WITH DAGESH;QOF WITH DAGESH;RESH WITH DAGESH;SHIN WITH DAGESH
;TAV WITH DAGESH;VAV WITH HOLAM;BET WITH RAFE;KAF WITH RAFE;PE WITH RAFE
FB4F;HEBREW LIGATURE ALEF LAMED;
FB50;ARABIC LETTER ;ALEF WASLA ISOLATED FORM;ALEF WASLA FINAL FORM;BEEH ISOLATED FORM
;BEEH FINAL FORM;BEEH INITIAL FORM;BEEH MEDIAL FORM;PEH ISOLATED FORM;PEH FINAL FORM
;PEH INITIAL FORM;PEH MEDIAL FORM;BEHEH ISOLATED FORM;BEHEH FINAL FORM;BEHEH INITIAL FORM
;BEHEH MEDIAL FORM;TTEHEH ISOLATED FORM;TTEHEH FINAL FORM;TTEHEH INITIAL FORM;TTEHEH MEDIAL FORM
;TEHEH ISOLATED FORM;TEHEH FINAL FORM;TEHEH INITIAL FORM;TEHEH MEDIAL FORM;TTEH ISOLATED FORM
;TTEH FINAL FORM;TTEH INITIAL FORM;TTEH MEDIAL FORM;VEH ISOLATED FORM;VEH FINAL FORM
;VEH INITIAL FORM;VEH MEDIAL FORM;PEHEH ISOLATED FORM;PEHEH FINAL FORM;PEHEH INITIAL FORM
;PEHEH MEDIAL FORM;DYEH ISOLATED FORM;DYEH FINAL FORM;DYEH INITIAL FORM;DYEH MEDIAL FORM
;NYEH ISOLATED FORM;NYEH FINAL FORM;NYEH INITIAL FORM;NYEH MEDIAL FORM;TCHEH ISOLATED FORM
;TCHEH FINAL FORM;TCHEH INITIAL FORM;TCHEH MEDIAL FORM;TCHEHEH ISOLATED FORM;TCHEHEH FINAL FORM
;TCHEHEH INITIAL FORM;TCHEHEH MEDIAL FORM;DDAHAL ISOLATED FORM;DDAHAL FINAL FORM
;DAHAL ISOLATED FORM;DAHAL FINAL FORM;DUL ISOLATED FORM;DUL FINAL FORM;DDAL ISOLATED FORM
;DDAL FINAL FORM;JEH ISOLATED FORM;JEH FINAL FORM;RREH ISOLATED FORM;RREH FINAL FORM
;KEHEH ISOLATED FORM;KEHEH FINAL FORM;KEHEH INITIAL FORM;KEHEH MEDIAL FORM;GAF ISOLATED FORM
;GAF FINAL FORM;GAF INITIAL FORM;GAF MEDIAL FORM;GUEH ISOLATED FORM;GUEH FINAL FORM
;GUEH INITIAL FORM;GUEH MEDIAL FORM;NGOEH ISOLATED FORM;NGOEH FINAL FORM;NGOEH INITIAL FORM
;NGOEH MEDIAL FORM;NOON GHUNNA ISOLATED FORM;NOON GHUNNA FINAL FORM;RNOON ISOLATED FORM
;RNOON FINAL FORM;RNOON INITIAL FORM;RNOON MEDIAL FORM;HEH WITH YEH ABOVE ISOLATED FORM
;HEH WITH YEH ABOVE FINAL FORM
FBA6;ARABIC LETTER HEH GOAL ;ISOLATED FORM;FINAL FORM;INITIAL FORM;MEDIAL FORM
FBAA;ARABIC LETTER HEH DOACHASHMEE ;ISOLATED FORM;FINAL FORM;INITIAL FORM;MEDIAL FORM
FBAE;ARABIC LETTER YEH BARREE ;ISOLATED FORM;FINAL FORM;WITH HAMZA ABOVE ISOLATED FORM
;WITH HAMZA ABOVE FINAL FORM
FBB2;ARABIC SYMBOL ;DOT ABOVE;DOT BELOW;TWO DOTS ABOVE;TWO DOTS BELOW;THREE DOTS ABOVE
;THREE DOTS BELOW;THREE DOTS POINTING DOWNWARDS ABOVE;THREE DOTS POINTING DOWNWARDS BELOW
;FOUR DOTS ABOVE;FOUR DOTS BELOW;DOUBLE VERTICAL BAR BELOW;TWO DOTS VERTICALLY ABOVE
;TWO DOTS VERTICALLY BELOW;RING;SMALL TAH ABOVE;SMALL TAH BELOW;WASLA ABOVE
FBD3;ARABIC LETTER ;NG ISOLATED FORM;NG FINAL FORM;NG INITIAL FORM;NG MEDIAL FORM
;U ISOLATED FORM;U FINAL FORM;OE ISOLATED FORM;OE FINAL FORM;YU ISOLATED FORM;YU FINAL FORM
;U WITH HAMZA ABOVE ISOLATED FORM;VE ISOLATED FORM;VE FINAL FORM;KIRGHIZ OE ISOLATED FORM
;KIRGHIZ OE FINAL FORM;KIRGHIZ YU ISOLATED FORM;KIRGHIZ YU FINAL FORM;E ISOLATED FORM
;E FINAL FORM;E INITIAL FORM;E MEDIAL FORM
FBE8;ARABIC LETTER UIGHUR KAZAKH KIRGHIZ ALEF MAKSURA ;INITIAL FORM;MEDIAL FORM
FBEA;ARABIC LIGATURE YEH WITH HAMZA ABOVE WITH ;ALEF ISOLATED FORM;ALEF FINAL FORM
;AE ISOLATED FORM;AE FINAL FORM;WAW ISOLATED FORM;WAW FINAL FORM;U ISOLATED FORM;U FINAL FORM
;OE ISOLATED FORM;OE FINAL FORM;YU ISOLATED FORM;YU FINAL FORM;E ISOLATED FORM;E FINAL FORM
;E INITIAL FORM
FBF9;ARABIC LIGATURE UIGHUR KIRGHIZ YEH WITH HAMZA ABOVE WITH ALEF MAKSURA ;ISOLATED FORM
;FINAL FORM;INITIAL FORM
FBFC;ARABIC LETTER FARSI YEH ;ISOLATED FORM;FINAL FORM;INITIAL FORM;MEDIAL FORM
FC00;ARABIC LIGATURE YEH WITH HAMZA ABOVE WITH ;JEEM ISOLATED FORM;HAH ISOLATED FORM
;MEEM ISOLATED FORM;ALEF MAKSURA ISOLATED FORM;YEH ISOLATED FORM
FC05;ARABIC LIGATURE BEH WITH ;JEEM ISOLATED FORM;HAH ISOLATED FORM;KHAH ISOLATED FORM
;MEEM ISOLATED FORM;ALEF MAKSURA ISOLATED FORM;YEH ISOLATED FORM
FC0B;ARABIC LIGATURE TEH WITH ;JEEM ISOLATED FORM;HAH ISOLATED FORM;KHAH ISOLATED FORM
;MEEM ISOLATED FORM;ALEF MAKSURA ISOLATED FORM;YEH ISOLATED FORM
FC11;ARABIC LIGATURE THEH WITH ;JEEM ISOLATED FORM;MEEM ISOLATED FORM;ALEF MAKSURA ISOLATED FORM
;YEH ISOLATED FORM
FC15;ARABIC LIGATURE ;JEEM WITH HAH ISOLATED FORM;JEEM WITH MEEM ISOLATED FORM
;HAH WITH JEEM ISOLATED FORM;HAH WITH MEEM ISOLATED FORM;KHAH WITH JEEM ISOLATED FORM
;KHAH WITH HAH ISOLATED FORM;KHAH WITH MEEM ISOLATED FORM;SEEN WITH JEEM ISOLATED FORM
;SEEN WITH HAH ISOLATED FORM;SEEN WITH KHAH ISOLATED FORM;SEEN WITH MEEM ISOLATED FORM
;SAD WITH HAH ISOLATED FORM;SAD WITH MEEM ISOLATED FORM;DAD WITH JEEM ISOLATED FORM
;DAD WITH HAH ISOLATED FORM;DAD WITH KHAH ISOLATED FORM;DAD WITH MEEM ISOLATED FORM
;TAH WITH HAH ISOLATED FORM;TAH WITH MEEM ISOLATED FORM;ZAH WITH MEEM ISOLATED FORM
;AIN WITH JEEM ISOLATED FORM;AIN WITH MEEM ISOLATED FORM;GHAIN WITH JEEM ISOLATED FORM
;GHAIN WITH MEEM ISOLATED FORM
FC2D;ARABIC LIGATURE FEH WITH ;JEEM ISOLATED FORM;HAH ISOLATED FORM;KHAH ISOLATED FORM
;MEEM ISOLATED FORM;ALEF MAKSURA ISOLATED FORM;YEH ISOLATED FORM
FC33;ARABIC LIGATURE QAF WITH ;HAH ISOLATED FORM;MEEM ISOLATED FORM;ALEF MAKSURA ISOLATED FORM
;YEH ISOLATED FORM
FC37;ARABIC LIGATURE KAF WITH ;ALEF ISOLATED FORM;JEEM ISOLATED FORM;HAH ISOLATED FORM
;KHAH ISOLATED FORM;LAM ISOLATED FORM;MEEM ISOLATED FORM;ALEF MAKSURA ISOLATED FORM
;YEH ISOLATED FORM
FC3F;ARABIC LIGATURE LAM WITH ;JEEM ISOLATED FORM;HAH ISOLATED FORM;KHAH ISOLATED FORM
;MEEM ISOLATED FORM;ALEF MAKSURA ISOLATED FORM;YEH ISOLATED FORM
FC45;ARABIC LIGATURE MEEM WITH ;JEEM ISOLATED FORM;HAH ISOLATED FORM;KHAH ISOLATED FORM
;MEEM ISOLATED FORM;ALEF MAKSURA ISOLATED FORM;YEH ISOLATED FORM
FC4B;ARABIC LIGATURE NOON WITH ;JEEM ISOLATED FORM;HAH ISOLATED FORM;KHAH ISOLATED FORM
;MEEM ISOLATED FORM;ALEF MAKSURA ISOLATED FORM;YEH ISOLATED FORM
FC51;ARABIC LIGATURE HEH WITH ;JEEM ISOLATED FORM;MEEM ISOLATED FORM;ALEF MAKSURA ISOLATED FORM
;YEH ISOLATED FORM
FC55;ARABIC LIGATURE YEH WITH ;JEEM ISOLATED FORM;HAH ISOLATED FORM;KHAH ISOLATED FORM
;MEEM ISOLATED FORM;ALEF MAKSURA ISOLATED FORM;YEH ISOLATED FORM
FC5B;ARABIC LIGATURE ;THAL WITH SUPERSCRIPT ALEF ISOLATED FORM
;REH WITH SUPERSCRIPT ALEF ISOLATED FORM;ALEF MAKSURA WITH SUPERSCRIPT ALEF ISOLATED FORM
FC5E;ARABIC LIGATURE SHADDA WITH ;DAMMATAN ISOLATED FORM;KASRATAN ISOLATED FORM
;FATHA ISOLATED FORM;DAMMA ISOLATED FORM;KASRA ISOLATED FORM;SUPERSCRIPT ALEF ISOLATED FORM
FC64;ARABIC LIGATURE YEH WITH HAMZA ABOVE WITH ;REH FINAL FORM;ZAIN FINAL FORM;MEEM FINAL FORM
;NOON FINAL FORM;ALEF MAKSURA FINAL FORM;YEH FINAL FORM
FC6A;ARABIC LIGATURE BEH WITH ;REH FINAL FORM;ZAIN FINAL FORM;MEEM FINAL FORM;NOON FINAL FORM
;ALEF MAKSURA FINAL FORM;YEH FINAL FORM
FC70;ARABIC LIGATURE TEH WITH ;REH FINAL FORM;ZAIN FINAL FORM;MEEM FINAL FORM;NOON FINAL FORM
;ALEF MAKSURA FINAL FORM;YEH FINAL FORM
FC76;ARABIC LIGATURE THEH WITH ;REH FINAL FORM;ZAIN FINAL FORM;MEEM FINAL FORM;NOON FINAL FORM
;ALEF MAKSURA FINAL FORM;YEH FINAL FORM
FC7C;ARABIC LIGATURE ;FEH WITH ALEF MAKSURA FINAL FORM;FEH WITH YEH FINAL FORM
;QAF WITH ALEF MAKSURA FINAL FORM;QAF WITH YEH FINAL FORM;KAF WITH ALEF FINAL FORM
;KAF WITH LAM FINAL FORM;KAF WITH MEEM FINAL FORM;KAF WITH ALEF MAKSURA FINAL FORM
;KAF WITH YEH FINAL FORM;LAM WITH MEEM FINAL FORM;LAM WITH ALEF MAKSURA FINAL FORM
;LAM WITH YEH FINAL FORM;MEEM WITH ALEF FINAL FORM;MEEM WITH MEEM FINAL FORM
FC8A;ARABIC LIGATURE NOON WITH ;REH FINAL FORM;ZAIN FINAL FORM;MEEM FINAL FORM;NOON FINAL FORM
;ALEF MAKSURA FINAL FORM;YEH FINAL FORM
FC90;ARABIC LIGATURE ALEF MAKSURA WITH SUPERSCRIPT ALEF FINAL FORM;
FC91;ARABIC LIGATURE YEH WITH ;REH FINAL FORM;ZAIN FINAL FORM;MEEM FINAL FORM;NOON FINAL FORM
;ALEF MAKSURA FINAL FORM;YEH FINAL FORM
FC97;ARABIC LIGATURE YEH WITH HAMZA ABOVE WITH ;JEEM INITIAL FORM;HAH INITIAL FORM
;KHAH INITIAL FORM;MEEM INITIAL FORM;HEH INITIAL FORM
FC9C;ARABIC LIGATURE BEH WITH ;JEEM INITIAL FORM;HAH INITIAL FORM;KHAH INITIAL FORM
;MEEM INITIAL FORM;HEH INITIAL FORM
FCA1;ARABIC LIGATURE TEH WITH ;JEEM INITIAL FORM;HAH INITIAL FORM;KHAH INITIAL FORM
;MEEM INITIAL FORM;HEH INITIAL FORM
FCA6;ARABIC LIGATURE ;THEH WITH MEEM INITIAL FORM;JEEM WITH HAH INITIAL FORM
;JEEM WITH MEEM INITIAL FORM;HAH WITH JEEM INITIAL FORM;HAH WITH MEEM INITIAL FORM
;KHAH WITH JEEM INITIAL FORM;KHAH WITH MEEM INITIAL FORM;SEEN WITH JEEM INITIAL FORM
;SEEN WITH HAH INITIAL FORM;SEEN WITH KHAH INITIAL FORM;SEEN WITH MEEM INITIAL FORM
;SAD WITH HAH INITIAL FORM;SAD WITH KHAH INITIAL FORM;SAD WITH MEEM INITIAL FORM
;DAD WITH JEEM INITIAL FORM;DAD WITH HAH INITIAL FORM;DAD WITH KHAH INITIAL FORM
;DAD WITH MEEM INITIAL FORM;TAH WITH HAH INITIAL FORM;ZAH WITH MEEM INITIAL FORM
;AIN WITH JEEM INITIAL FORM;AIN WITH MEEM INITIAL FORM;GHAIN WITH JEEM INITIAL FORM
;GHAIN WITH MEEM INITIAL FORM;FEH WITH JEEM INITIAL FORM;FEH WITH HAH INITIAL FORM
;FEH WITH KHAH INITIAL FORM;FEH WITH MEEM INITIAL FORM;QAF WITH HAH INITIAL FORM
;QAF WITH MEEM INITIAL FORM
FCC4;ARABIC LIGATURE KAF WITH ;JEEM INITIAL FORM;HAH INITIAL FORM;KHAH INITIAL FORM
;LAM INITIAL FORM;MEEM INITIAL FORM
FCC9;ARABIC LIGATURE LAM WITH ;JEEM INITIAL FORM;HAH INITIAL FORM;KHAH INITIAL FORM
;MEEM INITIAL FORM;HEH INITIAL FORM
FCCE;ARABIC LIGATURE MEEM WITH ;JEEM INITIAL FORM;HAH INITIAL FORM;KHAH INITIAL FORM
;MEEM INITIAL FORM
FCD2;ARABIC LIGATURE NOON WITH ;JEEM INITIAL FORM;HAH INITIAL FORM;KHAH INITIAL FORM
;MEEM INITIAL FORM;HEH INITIAL FORM
FCD7;ARABIC LIGATURE HEH WITH ;JEEM INITIAL FORM;MEEM INITIAL FORM;SUPERSCRIPT ALEF INITIAL FORM
FCDA;ARABIC LIGATURE YEH WITH ;JEEM INITIAL FORM;HAH INITIAL FORM;KHAH INITIAL FORM
;MEEM INITIAL FORM;HEH INITIAL FORM;HAMZA ABOVE WITH MEEM MEDIAL FORM
;HAMZA ABOVE WITH HEH MEDIAL FORM
FCE1;ARABIC LIGATURE ;BEH WITH MEEM MEDIAL FORM;BEH WITH HEH MEDIAL FORM
;TEH WITH MEEM MEDIAL FORM;TEH WITH HEH MEDIAL FORM;THEH WITH MEEM MEDIAL FORM
;THEH WITH HEH MEDIAL FORM;SEEN WITH MEEM MEDIAL FORM;SEEN WITH HEH MEDIAL FORM
;SHEEN WITH MEEM MEDIAL FORM;SHEEN WITH HEH MEDIAL FORM;KAF WITH LAM MEDIAL FORM
;KAF WITH MEEM MEDIAL FORM;LAM WITH MEEM MEDIAL FORM;NOON WITH MEEM MEDIAL FORM
;NOON WITH HEH MEDIAL FORM;YEH WITH MEEM MEDIAL FORM;YEH WITH HEH MEDIAL FORM
;SHADDA WITH FATHA MEDIAL FORM;SHADDA WITH DAMMA MEDIAL FORM;SHADDA WITH KASRA MEDIAL FORM
;TAH WITH ALEF MAKSURA ISOLATED FORM;TAH WITH YEH ISOLATED FORM
;AIN WITH ALEF MAKSURA ISOLATED FORM;AIN WITH YEH ISOLATED FORM
;GHAIN WITH ALEF MAKSURA ISOLATED FORM;GHAIN WITH YEH ISOLATED FORM
;SEEN WITH ALEF MAKSURA ISOLATED FORM;SEEN WITH YEH ISOLATED FORM
;SHEEN WITH ALEF MAKSURA ISOLATED FORM;SHEEN WITH YEH ISOLATED FORM
;HAH WITH ALEF MAKSURA ISOLATED FORM;HAH WITH YEH ISOLATED FORM
;JEEM WITH ALEF MAKSURA ISOLATED FORM;JEEM WITH YEH ISOLATED FORM
;KHAH WITH ALEF MAKSURA ISOLATED FORM;KHAH WITH YEH ISOLATED FORM
;SAD WITH ALEF MAKSURA ISOLATED FORM;SAD WITH YEH ISOLATED FORM
;DAD WITH ALEF MAKSURA ISOLATED FORM;DAD WITH YEH ISOLATED FORM;SHEEN WITH JEEM ISOLATED FORM
;SHEEN WITH HAH ISOLATED FORM;SHEEN WITH KHAH ISOLATED FORM;SHEEN WITH MEEM ISOLATED FORM
;SHEEN WITH REH ISOLATED FORM;SEEN WITH REH ISOLATED FORM;SAD WITH REH ISOLATED FORM
;DAD WITH REH ISOLATED FORM;TAH WITH ALEF MAKSURA FINAL FORM;TAH WITH YEH FINAL FORM
;AIN WITH ALEF MAKSURA FINAL FORM;AIN WITH YEH FINAL FORM;GHAIN WITH ALEF MAKSURA FINAL FORM
;GHAIN WITH YEH FINAL FORM;SEEN WITH ALEF MAKSURA FINAL FORM;SEEN WITH YEH FINAL FORM
;SHEEN WITH ALEF MAKSURA FINAL FORM;SHEEN WITH YEH FINAL FORM;HAH WITH ALEF MAKSURA FINAL FORM
;HAH WITH YEH FINAL FORM;JEEM WITH ALEF MAKSURA FINAL FORM;JEEM WITH YEH FINAL FORM
;KHAH WITH ALEF MAKSURA FINAL FORM;KHAH WITH YEH FINAL FORM;SAD WITH ALEF MAKSURA FINAL FORM
;SAD WITH YEH FINAL FORM;DAD WITH ALEF MAKSURA FINAL FORM;DAD WITH YEH FINAL FORM
;SHEEN WITH JEEM FINAL FORM;SHEEN WITH HAH FINAL FORM;SHEEN WITH KHAH FINAL FORM
;SHEEN WITH MEEM FINAL FORM;SHEEN WITH REH FINAL FORM;SEEN WITH REH FINAL FORM
;SAD WITH REH FINAL FORM;DAD WITH REH FINAL FORM;SHEEN WITH JEEM INITIAL FORM
;SHEEN WITH HAH INITIAL FORM;SHEEN WITH KHAH INITIAL FORM;SHEEN WITH MEEM INITIAL FORM
;SEEN WITH HEH INITIAL FORM;SHEEN WITH HEH INITIAL FORM;TAH WITH MEEM INITIAL FORM
;SEEN WITH JEEM MEDIAL FORM;SEEN WITH HAH MEDIAL FORM;SEEN WITH KHAH MEDIAL FORM
;SHEEN WITH JEEM MEDIAL FORM;SHEEN WITH HAH MEDIAL FORM;SHEEN WITH KHAH MEDIAL FORM
;TAH WITH MEEM MEDIAL FORM;ZAH WITH MEEM MEDIAL FORM;ALEF WITH FATHATAN FINAL FORM
;ALEF WITH FATHATAN ISOLATED FORM
FD3E;;ORNATE LEFT PARENTHESIS;ORNATE RIGHT PARENTHESIS;ARABIC LIGATURE RAHIMAHU ALLAAH
FD41;ARABIC LIGATURE RADI ALLAAHU ANH;;AA;UM;UMAA;UNNA
FD46;ARABIC LIGATURE ;SALLALLAAHU ALAYHI WA-AALIH;ALAYHI AS-SALAAM;ALAYHIM AS-SALAAM
;ALAYHIMAA AS-SALAAM;ALAYHI AS-SALAATU WAS-SALAAM;QUDDISA SIRRAH
;SALLALLAHU ALAYHI WAAALIHEE WA-SALLAM;ALAYHAA AS-SALAAM;TABAARAKA WA-TAAALAA;RAHIMAHUM ALLAAH
FD50;ARABIC LIGATURE TEH WITH ;JEEM WITH MEEM INITIAL FORM;HAH WITH JEEM FINAL FORM
;HAH WITH JEEM INITIAL FORM;HAH WITH MEEM INITIAL FORM;KHAH WITH MEEM INITIAL FORM
;MEEM WITH JEEM INITIAL FORM;MEEM WITH HAH INITIAL FORM;MEEM WITH KHAH INITIAL FORM
FD58;ARABIC LIGATURE JEEM WITH MEEM WITH HAH ;FINAL FORM;INITIAL FORM
FD5A;ARABIC LIGATURE HAH WITH MEEM WITH ;YEH FINAL FORM;ALEF MAKSURA FINAL FORM
FD5C;ARABIC LIGATURE SEEN WITH ;HAH WITH JEEM INITIAL FORM;JEEM WITH HAH INITIAL FORM
;JEEM WITH ALEF MAKSURA FINAL FORM
FD5F;ARABIC LIGATURE SEEN WITH MEEM WITH ;HAH FINAL FORM;HAH INITIAL FORM;JEEM INITIAL FORM
;MEEM FINAL FORM;MEEM INITIAL FORM
FD64;ARABIC LIGATURE SAD WITH ;HAH WITH HAH FINAL FORM;HAH WITH HAH INITIAL FORM
;MEEM WITH MEEM FINAL FORM
FD67;ARABIC LIGATURE SHEEN WITH ;HAH WITH MEEM FINAL FORM;HAH WITH MEEM INITIAL FORM
;JEEM WITH YEH FINAL FORM;MEEM WITH KHAH FINAL FORM;MEEM WITH KHAH INITIAL FORM
;MEEM WITH MEEM FINAL FORM;MEEM WITH MEEM INITIAL FORM
FD6E;ARABIC LIGATURE DAD WITH ;HAH WITH ALEF MAKSURA FINAL FORM;KHAH WITH MEEM FINAL FORM
;KHAH WITH MEEM INITIAL FORM
FD71;ARABIC LIGATURE TAH WITH MEEM WITH ;HAH FINAL FORM;HAH INITIAL FORM;MEEM INITIAL FORM
;YEH FINAL FORM
FD75;ARABIC LIGATURE AIN WITH ;JEEM WITH MEEM FINAL FORM;MEEM WITH MEEM FINAL FORM
;MEEM WITH MEEM INITIAL FORM;MEEM WITH ALEF MAKSURA FINAL FORM
FD79;ARABIC LIGATURE GHAIN WITH MEEM WITH ;MEEM FINAL FORM;YEH FINAL FORM
;ALEF MAKSURA FINAL FORM
FD7C;ARABIC LIGATURE FEH WITH KHAH WITH MEEM ;FINAL FORM;INITIAL FORM
FD7E;ARABIC LIGATURE QAF WITH MEEM WITH ;HAH FINAL FORM;MEEM FINAL FORM
FD80;ARABIC LIGATURE LAM WITH ;HAH WITH MEEM FINAL FORM;HAH WITH YEH FINAL FORM
;HAH WITH ALEF MAKSURA FINAL FORM;JEEM WITH JEEM INITIAL FORM;JEEM WITH JEEM FINAL FORM
;KHAH WITH MEEM FINAL FORM;KHAH WITH MEEM INITIAL FORM;MEEM WITH HAH FINAL FORM
;MEEM WITH HAH INITIAL FORM
FD89;ARABIC LIGATURE MEEM WITH ;HAH WITH JEEM INITIAL FORM;HAH WITH MEEM INITIAL FORM
;HAH WITH YEH FINAL FORM;JEEM WITH HAH INITIAL FORM;JEEM WITH MEEM INITIAL FORM
;KHAH WITH JEEM INITIAL FORM;KHAH WITH MEEM INITIAL FORM
FD92;ARABIC LIGATURE ;MEEM WITH JEEM WITH KHAH INITIAL FORM;HEH WITH MEEM WITH JEEM INITIAL FORM
;HEH WITH MEEM WITH MEEM INITIAL FORM
FD95;ARABIC LIGATURE NOON WITH ;HAH WITH MEEM INITIAL FORM;HAH WITH ALEF MAKSURA FINAL FORM
;JEEM WITH MEEM FINAL FORM;JEEM WITH MEEM INITIAL FORM;JEEM WITH ALEF MAKSURA FINAL FORM
;MEEM WITH YEH FINAL FORM;MEEM WITH ALEF MAKSURA FINAL FORM
FD9C;ARABIC LIGATURE YEH WITH MEEM WITH MEEM ;FINAL FORM;INITIAL FORM
FD9E;ARABIC LIGATURE ;BEH WITH KHAH WITH YEH FINAL FORM;TEH WITH JEEM WITH YEH FINAL FORM
;TEH WITH JEEM WITH ALEF MAKSURA FINAL FORM;TEH WITH KHAH WITH YEH FINAL FORM
;TEH WITH KHAH WITH ALEF MAKSURA FINAL FORM;TEH WITH MEEM WITH YEH FINAL FORM
;TEH WITH MEEM WITH ALEF MAKSURA FINAL FORM;JEEM WITH MEEM WITH YEH FINAL FORM
;JEEM WITH HAH WITH ALEF MAKSURA FINAL FORM;JEEM WITH MEEM WITH ALEF MAKSURA FINAL FORM
;SEEN WITH KHAH WITH ALEF MAKSURA FINAL FORM;SAD WITH HAH WITH YEH FINAL FORM
;SHEEN WITH HAH WITH YEH FINAL FORM;DAD WITH HAH WITH YEH FINAL FORM
;LAM WITH JEEM WITH YEH FINAL FORM;LAM WITH MEEM WITH YEH FINAL FORM
;YEH WITH HAH WITH YEH FINAL FORM;YEH WITH JEEM WITH YEH FINAL FORM
;YEH WITH MEEM WITH YEH FINAL FORM;MEEM WITH MEEM WITH YEH FINAL FORM
;QAF WITH MEEM WITH YEH FINAL FORM;NOON WITH HAH WITH YEH FINAL FORM
;QAF WITH MEEM WITH HAH INITIAL FORM;LAM WITH HAH WITH MEEM INITIAL FORM
;AIN WITH MEEM WITH YEH FINAL FORM;KAF WITH MEEM WITH YEH FINAL FORM
;NOON WITH JEEM WITH HAH INITIAL FORM;MEEM WITH KHAH WITH YEH FINAL FORM
;LAM WITH JEEM WITH MEEM INITIAL FORM;KAF WITH MEEM WITH MEEM FINAL FORM
;LAM WITH JEEM WITH MEEM FINAL FORM;NOON WITH JEEM WITH HAH FINAL FORM
;JEEM WITH HAH WITH YEH FINAL FORM;HAH WITH JEEM WITH YEH FINAL FORM
;MEEM WITH JEEM WITH YEH FINAL FORM;FEH WITH MEEM WITH YEH FINAL FORM
;BEH WITH HAH WITH YEH FINAL FORM;KAF WITH MEEM WITH MEEM INITIAL FORM
;AIN WITH JEEM WITH MEEM INITIAL FORM;SAD WITH MEEM WITH MEEM INITIAL FORM
;SEEN WITH KHAH WITH YEH FINAL FORM;NOON WITH JEEM WITH YEH FINAL FORM
FDCF;ARABIC LIGATURE SALAAMUHU ALAYNAA;
FDF0;ARABIC LIGATURE ;SALLA USED AS KORANIC STOP SIGN ISOLATED FORM
;QALA USED AS KORANIC STOP SIGN ISOLATED FORM;ALLAH ISOLATED FORM;AKBAR ISOLATED FORM
;MOHAMMAD ISOLATED FORM;SALAM ISOLATED FORM;RASOUL ISOLATED FORM;ALAYHE ISOLATED FORM
;WASALLAM ISOLATED FORM;SALLA ISOLATED FORM;SALLALLAHOU ALAYHE WASALLAM;JALLAJALALOUHOU
FDFC;RIAL SIGN;
FDFD;ARABIC LIGATURE ;BISMILLAH AR-RAHMAN AR-RAHEEM;SUBHAANAHU WA TAAALAA;AZZA WA JALL
FE00;VARIATION SELECTOR-;1;2;3;4;5;6;7;8;9;10;11;12;13;14;15;16
FE10;PRESENTATION FORM FOR VERTICAL ;COMMA;IDEOGRAPHIC COMMA;IDEOGRAPHIC FULL STOP;COLON
;SEMICOLON;EXCLAMATION MARK;QUESTION MARK;LEFT WHITE LENTICULAR BRACKET
;RIGHT WHITE LENTICULAR BRAKCET;HORIZONTAL ELLIPSIS
FE20;COMBINING ;LIGATURE LEFT HALF;LIGATURE RIGHT HALF;DOUBLE TILDE LEFT HALF
;DOUBLE TILDE RIGHT HALF;MACRON LEFT HALF;MACRON RIGHT HALF;CONJOINING MACRON
;LIGATURE LEFT HALF BELOW;LIGATURE RIGHT HALF BELOW;TILDE LEFT HALF BELOW;TILDE RIGHT HALF BELOW
;MACRON LEFT HALF BELOW;MACRON RIGHT HALF BELOW;CONJOINING MACRON BELOW;CYRILLIC TITLO LEFT HALF
;CYRILLIC TITLO RIGHT HALF
FE30;PRESENTATION FORM FOR VERTICAL ;TWO DOT LEADER;EM DASH;EN DASH;LOW LINE;WAVY LOW LINE
;LEFT PARENTHESIS;RIGHT PARENTHESIS;LEFT CURLY BRACKET;RIGHT CURLY BRACKET
;LEFT TORTOISE SHELL BRACKET;RIGHT TORTOISE SHELL BRACKET;LEFT BLACK LENTICULAR BRACKET
;RIGHT BLACK LENTICULAR BRACKET;LEFT DOUBLE ANGLE BRACKET;RIGHT DOUBLE ANGLE BRACKET
;LEFT ANGLE BRACKET;RIGHT ANGLE BRACKET;LEFT CORNER BRACKET;RIGHT CORNER BRACKET
;LEFT WHITE CORNER BRACKET;RIGHT WHITE CORNER BRACKET
FE45;;SESAME DOT;WHITE SESAME DOT
FE47;PRESENTATION FORM FOR VERTICAL ;LEFT SQUARE BRACKET;RIGHT SQUARE BRACKET
FE49;;DASHED OVERLINE;CENTRELINE OVERLINE;WAVY OVERLINE;DOUBLE WAVY OVERLINE;DASHED LOW LINE
;CENTRELINE LOW LINE;WAVY LOW LINE
FE50;SMALL ;COMMA;IDEOGRAPHIC COMMA;FULL STOP
FE54;SMALL ;SEMICOLON;COLON;QUESTION MARK;EXCLAMATION MARK;EM DASH;LEFT PARENTHESIS
;RIGHT PARENTHESIS;LEFT CURLY BRACKET;RIGHT CURLY BRACKET;LEFT TORTOISE SHELL BRACKET
;RIGHT TORTOISE SHELL BRACKET;NUMBER SIGN;AMPERSAND;ASTERISK;PLUS SIGN;HYPHEN-MINUS
;LESS-THAN SIGN;GREATER-THAN SIGN;EQUALS SIGN
FE68;SMALL ;REVERSE SOLIDUS;DOLLAR SIGN;PERCENT SIGN;COMMERCIAL AT
FE70;ARABIC ;FATHATAN ISOLATED FORM;TATWEEL WITH FATHATAN ABOVE;DAMMATAN ISOLATED FORM
;TAIL FRAGMENT;KASRATAN ISOLATED FORM
FE76;ARABIC ;FATHA ISOLATED FORM;FATHA MEDIAL FORM;DAMMA ISOLATED FORM;DAMMA MEDIAL FORM
;KASRA ISOLATED FORM;KASRA MEDIAL FORM;SHADDA ISOLATED FORM;SHADDA MEDIAL FORM
;SUKUN ISOLATED FORM;SUKUN MEDIAL FORM;LETTER HAMZA ISOLATED FORM
FE81;ARABIC LETTER ALEF WITH ;MADDA ABOVE ISOLATED FORM;MADDA ABOVE FINAL FORM
;HAMZA ABOVE ISOLATED FORM;HAMZA ABOVE FINAL FORM
FE85;ARABIC LETTER WAW WITH HAMZA ABOVE ;ISOLATED FORM;FINAL FORM
FE87;ARABIC LETTER ALEF WITH HAMZA BELOW ;ISOLATED FORM;FINAL FORM
FE89;ARABIC LETTER YEH WITH HAMZA ABOVE ;ISOLATED FORM;FINAL FORM;INITIAL FORM;MEDIAL FORM
FE8D;ARABIC LETTER ;ALEF ISOLATED FORM;ALEF FINAL FORM;BEH ISOLATED FORM;BEH FINAL FORM
;BEH INITIAL FORM;BEH MEDIAL FORM;TEH MARBUTA ISOLATED FORM;TEH MARBUTA FINAL FORM
;TEH ISOLATED FORM;TEH FINAL FORM;TEH INITIAL FORM;TEH MEDIAL FORM;THEH ISOLATED FORM
;THEH FINAL FORM;THEH INITIAL FORM;THEH MEDIAL FORM;JEEM ISOLATED FORM;JEEM FINAL FORM
;JEEM INITIAL FORM;JEEM MEDIAL FORM;HAH ISOLATED FORM;HAH FINAL FORM;HAH INITIAL FORM
;HAH MEDIAL FORM;KHAH ISOLATED FORM;KHAH FINAL FORM;KHAH INITIAL FORM;KHAH MEDIAL FORM
;DAL ISOLATED FORM;DAL FINAL FORM;THAL ISOLATED FORM;THAL FINAL FORM;REH ISOLATED FORM
;REH FINAL FORM;ZAIN ISOLATED FORM;ZAIN FINAL FORM;SEEN ISOLATED FORM;SEEN FINAL FORM
;SEEN INITIAL FORM;SEEN MEDIAL FORM;SHEEN ISOLATED FORM;SHEEN FINAL FORM;SHEEN INITIAL FORM
;SHEEN MEDIAL FORM;SAD ISOLATED FORM;SAD FINAL FORM;SAD INITIAL FORM;SAD MEDIAL FORM
;DAD ISOLATED FORM;DAD FINAL FORM;DAD INITIAL FORM;DAD MEDIAL FORM;TAH ISOLATED FORM
;TAH FINAL FORM;TAH INITIAL FORM;TAH MEDIAL FORM;ZAH ISOLATED FORM;ZAH FINAL FORM
;ZAH INITIAL FORM;ZAH MEDIAL FORM;AIN ISOLATED FORM;AIN FINAL FORM;AIN INITIAL FORM
;AIN MEDIAL FORM;GHAIN ISOLATED FORM;GHAIN FINAL FORM;GHAIN INITIAL FORM;GHAIN MEDIAL FORM
;FEH ISOLATED FORM;FEH FINAL FORM;FEH INITIAL FORM;FEH MEDIAL FORM;QAF ISOLATED FORM
;QAF FINAL FORM;QAF INITIAL FORM;QAF MEDIAL FORM;KAF ISOLATED FORM;KAF FINAL FORM
;KAF INITIAL FORM;KAF MEDIAL FORM;LAM ISOLATED FORM;LAM FINAL FORM;LAM INITIAL FORM
;LAM MEDIAL FORM;MEEM ISOLATED FORM;MEEM FINAL FORM;MEEM INITIAL FORM;MEEM MEDIAL FORM
;NOON ISOLATED FORM;NOON FINAL FORM;NOON INITIAL FORM;NOON MEDIAL FORM;HEH ISOLATED FORM
;HEH FINAL FORM;HEH INITIAL FORM;HEH MEDIAL FORM;WAW ISOLATED FORM;WAW FINAL FORM
;ALEF MAKSURA ISOLATED FORM;ALEF MAKSURA FINAL FORM;YEH ISOLATED FORM;YEH FINAL FORM
;YEH INITIAL FORM;YEH MEDIAL FORM
FEF5;ARABIC LIGATURE LAM WITH ALEF ;WITH MADDA ABOVE ISOLATED FORM;WITH MADDA ABOVE FINAL FORM
;WITH HAMZA ABOVE ISOLATED FORM;WITH HAMZA ABOVE FINAL FORM;WITH HAMZA BELOW ISOLATED FORM
;WITH HAMZA BELOW FINAL FORM;ISOLATED FORM;FINAL FORM
FEFF;ZERO WIDTH NO-BREAK SPACE;
FF01;FULLWIDTH ;EXCLAMATION MARK;QUOTATION MARK;NUMBER SIGN;DOLLAR SIGN;PERCENT SIGN;AMPERSAND
;APOSTROPHE;LEFT PARENTHESIS;RIGHT PARENTHESIS;ASTERISK;PLUS SIGN;COMMA;HYPHEN-MINUS;FULL STOP
;SOLIDUS
FF10;FULLWIDTH DIGIT ;ZERO;ONE;TWO;THREE;FOUR;FIVE;SIX;SEVEN;EIGHT;NINE
FF1A;FULLWIDTH ;COLON;SEMICOLON;LESS-THAN SIGN;EQUALS SIGN;GREATER-THAN SIGN;QUESTION MARK
;COMMERCIAL AT
FF21;FULLWIDTH LATIN CAPITAL LETTER ;A;B;C;D;E;F;G;H;I;J;K;L;M;N;O;P;Q;R;S;T;U;V;W;X;Y;Z
FF3B;FULLWIDTH ;LEFT SQUARE BRACKET;REVERSE SOLIDUS;RIGHT SQUARE BRACKET;CIRCUMFLEX ACCENT
;LOW LINE;GRAVE ACCENT
FF41;FULLWIDTH LATIN SMALL LETTER ;A;B;C;D;E;F;G;H;I;J;K;L;M;N;O;P;Q;R;S;T;U;V;W;X;Y;Z
FF5B;FULLWIDTH ;LEFT CURLY BRACKET;VERTICAL LINE;RIGHT CURLY BRACKET;TILDE
;LEFT WHITE PARENTHESIS;RIGHT WHITE PARENTHESIS
FF61;HALFWIDTH ;IDEOGRAPHIC FULL STOP;LEFT CORNER BRACKET;RIGHT CORNER BRACKET;IDEOGRAPHIC COMMA
;KATAKANA MIDDLE DOT;KATAKANA LETTER WO
FF67;HALFWIDTH KATAKANA LETTER SMALL ;A;I;U;E;O;YA;YU;YO;TU
FF70;HALFWIDTH KATAKANA-HIRAGANA PROLONGED SOUND MARK;
FF71;HALFWIDTH KATAKANA LETTER ;A;I;U;E;O;KA;KI;KU;KE;KO;SA;SI;SU;SE;SO;TA;TI;TU;TE;TO;NA;NI;NU
;NE;NO;HA;HI;HU;HE;HO;MA;MI;MU;ME;MO;YA;YU;YO;RA;RI;RU;RE;RO;WA;N
FF9E;HALFWIDTH ;KATAKANA VOICED SOUND MARK;KATAKANA SEMI-VOICED SOUND MARK;HANGUL FILLER
FFA1;HALFWIDTH HANGUL LETTER ;KIYEOK;SSANGKIYEOK;KIYEOK-SIOS;NIEUN;NIEUN-CIEUC;NIEUN-HIEUH
;TIKEUT;SSANGTIKEUT;RIEUL;RIEUL-KIYEOK;RIEUL-MIEUM;RIEUL-PIEUP;RIEUL-SIOS;RIEUL-THIEUTH
;RIEUL-PHIEUPH;RIEUL-HIEUH;MIEUM;PIEUP;SSANGPIEUP;PIEUP-SIOS;SIOS;SSANGSIOS;IEUNG;CIEUC
;SSANGCIEUC;CHIEUCH;KHIEUKH;THIEUTH;PHIEUPH;HIEUH
FFC2;HALFWIDTH HANGUL LETTER ;A;AE;YA;YAE;EO;E
FFCA;HALFWIDTH HANGUL LETTER ;YEO;YE;O;WA;WAE;OE
FFD2;HALFWIDTH HANGUL LETTER ;YO;U;WEO;WE;WI;YU
FFDA;HALFWIDTH HANGUL LETTER ;EU;YI;I
FFE0;FULLWIDTH ;CENT SIGN;POUND SIGN;NOT SIGN;MACRON;BROKEN BAR;YEN SIGN;WON SIGN
FFE8;HALFWIDTH ;FORMS LIGHT VERTICAL;LEFTWARDS ARROW;UPWARDS ARROW;RIGHTWARDS ARROW
;DOWNWARDS ARROW;BLACK SQUARE;WHITE CIRCLE
FFF9;INTERLINEAR ANNOTATION ;ANCHOR;SEPARATOR;TERMINATOR
FFFC;;OBJECT REPLACEMENT CHARACTER;REPLACEMENT CHARACTER
10000;LINEAR B SYLLABLE B0;08 A;38 E;28 I;61 O;10 U;01 DA;45 DE;07 DI;14 DO;51 DU;57 JA;46 JE
1000D;LINEAR B SYLLABLE B0;36 JO;65 JU;77 KA;44 KE;67 KI;70 KO;81 KU;80 MA;13 ME;73 MI;15 MO
;23 MU;06 NA;24 NE;30 NI;52 NO;55 NU;03 PA;72 PE;39 PI;11 PO;50 PU;16 QA;78 QE;21 QI;32 QO
10028;LINEAR B SYLLABLE B0;60 RA;27 RE;53 RI;02 RO;26 RU;31 SA;09 SE;41 SI;12 SO;58 SU;59 TA
;04 TE;37 TI;05 TO;69 TU;54 WA;75 WE;40 WI;42 WO
1003C;LINEAR B SYLLABLE B0;17 ZA;74 ZE
1003F;LINEAR B SYLLABLE B0;20 ZO;25 A2;43 A3;85 AU;71 DWE;90 DWO;48 NWA;29 PU2;62 PTE;76 RA2
;33 RA3;68 RO2;66 TA2;87 TWE;91 TWO
10050;LINEAR B SYMBOL B0;18;19;22;34;47;49;56;63;64;79;82;83;86;89
10080;LINEAR B IDEOGRAM B1;00 MAN;02 WOMAN;04 DEER;05 EQUID;05F MARE;05M STALLION;06F EWE
;06M RAM;07F SHE-GOAT;07M HE-GOAT;08F SOW;08M BOAR;09F COW;09M BULL;20 WHEAT;21 BARLEY;22 OLIVE
;23 SPICE;25 CYPERUS
10093;LINEAR B MONOGRAM B12;7 KAPO;8 KANAKO
10095;LINEAR B IDEOGRAM B13;0 OIL;1 WINE;2
10098;LINEAR B MONOGRAM B13;3 AREPA;5 MERI
1009A;LINEAR B IDEOGRAM B1;40 BRONZE;41 GOLD;42;45 WOOL;46;50;51 HORN;52;53;54
100A4;LINEAR B MONOGRAM B156 TURO2;
100A5;LINEAR B IDEOGRAM B1;57;58;59 CLOTH;60;61;62 GARMENT;63 ARMOUR;64;65;66;67;68;69;70;71;72
;73 MONTH;74;76 TREE;77;78;79;80;81;82;83;84;85;89;90;91 HELMET
100C4;LINEAR B IDEOGRAM B2;20 FOOTSTOOL;25 BATHTUB;30 SPEAR;31 ARROW;32;33 SWORD;34;36
;40 WHEELED CHARIOT;41 CHARIOT;42 CHARIOT FRAME;43 WHEEL;45;46
100D2;LINEAR B MONOGRAM B247 DIPTE;
100D3;LINEAR B IDEOGRAM B2;48;49;51;52;53;54 DART;55;56;57;58;59
100DE;LINEAR B IDEOGRAM VESSEL B;155;200;201;202;203;204;205;206;207;208;209;210;211;212;213;214
;215;216;217;218;219;221;222;226;227;228;229;250;305
10100;AEGEAN WORD SEPARATOR ;LINE;DOT
10102;AEGEAN CHECK MARK;
10107;AEGEAN NUMBER ;ONE;TWO;THREE;FOUR;FIVE;SIX;SEVEN;EIGHT;NINE;TEN;TWENTY;THIRTY;FORTY;FIFTY
;SIXTY;SEVENTY;EIGHTY;NINETY;ONE HUNDRED;TWO HUNDRED;THREE HUNDRED;FOUR HUNDRED;FIVE HUNDRED
;SIX HUNDRED;SEVEN HUNDRED;EIGHT HUNDRED;NINE HUNDRED;ONE THOUSAND;TWO THOUSAND;THREE THOUSAND
;FOUR THOUSAND;FIVE THOUSAND;SIX THOUSAND;SEVEN THOUSAND;EIGHT THOUSAND;NINE THOUSAND
;TEN THOUSAND;TWENTY THOUSAND;THIRTY THOUSAND;FORTY THOUSAND;FIFTY THOUSAND;SIXTY THOUSAND
;SEVENTY THOUSAND;EIGHTY THOUSAND;NINETY THOUSAND
10137;AEGEAN WEIGHT ;BASE UNIT;FIRST SUBUNIT;SECOND SUBUNIT;THIRD SUBUNIT;FOURTH SUBUNIT
1013C;AEGEAN ;DRY MEASURE FIRST SUBUNIT;LIQUID MEASURE FIRST SUBUNIT;MEASURE SECOND SUBUNIT
;MEASURE THIRD SUBUNIT
10140;GREEK ACROPHONIC ATTIC ;ONE QUARTER;ONE HALF;ONE DRACHMA;FIVE;FIFTY;FIVE HUNDRED
;FIVE THOUSAND;FIFTY THOUSAND;FIVE TALENTS;TEN TALENTS;FIFTY TALENTS;ONE HUNDRED TALENTS
;FIVE HUNDRED TALENTS;ONE THOUSAND TALENTS;FIVE THOUSAND TALENTS;FIVE STATERS;TEN STATERS
;FIFTY STATERS;ONE HUNDRED STATERS;FIVE HUNDRED STATERS;ONE THOUSAND STATERS
;TEN THOUSAND STATERS;FIFTY THOUSAND STATERS;TEN MNAS
10158;GREEK ACROPHONIC ;HERAEUM ONE PLETHRON;THESPIAN ONE;HERMIONIAN ONE;EPIDAUREAN TWO
;THESPIAN TWO;CYRENAIC TWO DRACHMAS;EPIDAUREAN TWO DRACHMAS;TROEZENIAN FIVE;TROEZENIAN TEN
;TROEZENIAN TEN ALTERNATE FORM;HERMIONIAN TEN;MESSENIAN TEN;THESPIAN TEN;THESPIAN THIRTY
;TROEZENIAN FIFTY;TROEZENIAN FIFTY ALTERNATE FORM;HERMIONIAN FIFTY;THESPIAN FIFTY
;THESPIAN ONE HUNDRED;THESPIAN THREE HUNDRED;EPIDAUREAN FIVE HUNDRED;TROEZENIAN FIVE HUNDRED
;THESPIAN FIVE HUNDRED;CARYSTIAN FIVE HUNDRED;NAXIAN FIVE HUNDRED;THESPIAN ONE THOUSAND
;THESPIAN FIVE THOUSAND;DELPHIC FIVE MNAS;STRATIAN FIFTY MNAS
10175;GREEK ;ONE HALF SIGN;ONE HALF SIGN ALTERNATE FORM;TWO THIRDS SIGN;THREE QUARTERS SIGN
;YEAR SIGN;TALENT SIGN;DRACHMA SIGN;OBOL SIGN;TWO OBOLS SIGN;THREE OBOLS SIGN;FOUR OBOLS SIGN
;FIVE OBOLS SIGN;METRETES SIGN;KYATHOS BASE SIGN;LITRA SIGN;OUNKIA SIGN;XESTES SIGN;ARTABE SIGN
;AROURA SIGN;GRAMMA SIGN;TRYBLION BASE SIGN;ZERO SIGN;ONE QUARTER SIGN;SINUSOID SIGN
;INDICTION SIGN
1018E;NOMISMA SIGN;
10190;ROMAN ;SEXTANS SIGN;UNCIA SIGN;SEMUNCIA SIGN;SEXTULA SIGN;DIMIDIA SEXTULA SIGN
;SILIQUA SIGN;DENARIUS SIGN;QUINARIUS SIGN;SESTERTIUS SIGN;DUPONDIUS SIGN;AS SIGN;CENTURIAL SIGN
1019C;ASCIA SYMBOL;
101A0;GREEK SYMBOL TAU RHO;
101D0;PHAISTOS DISC SIGN ;PEDESTRIAN;PLUMED HEAD;TATTOOED HEAD;CAPTIVE;CHILD;WOMAN;HELMET
;GAUNTLET;TIARA;ARROW;BOW;SHIELD;CLUB;MANACLES;MATTOCK;SAW;LID;BOOMERANG;CARPENTRY PLANE;DOLIUM
;COMB;SLING;COLUMN;BEEHIVE;SHIP;HORN;HIDE;BULLS LEG;CAT;RAM;EAGLE;DOVE;TUNNY;BEE;PLANE TREE;VINE
;PAPYRUS;ROSETTE;LILY;OX BACK;FLUTE;GRATER;STRAINER;SMALL AXE;WAVY BAND;COMBINING OBLIQUE STROKE
10280;LYCIAN LETTER ;A;E;B;BH;G;D;I;W;Z;TH;J;K;Q;L;M;N;MM;NN;U;P;KK;R;S;T;TT;AN;EN;H;X
102A0;CARIAN LETTER ;A;P2;D;L;UUU;R;LD;A2;Q;B;M;O;D2;T;SH;SH2;S;C-18;U;NN;X;N;TT2;P;SS;I;E;UUUU
;K;K2;ND;UU;G;G2;ST;ST2;NG;II;C-39;TT;UUU2;RR;MB;MB2;MB3;MB4;LD2;E2;UUU3
102E0;COPTIC EPACT THOUSANDS MARK;
102E1;COPTIC EPACT DIGIT ;ONE;TWO;THREE;FOUR;FIVE;SIX;SEVEN;EIGHT;NINE
102EA;COPTIC EPACT NUMBER ;TEN;TWENTY;THIRTY;FORTY;FIFTY;SIXTY;SEVENTY;EIGHTY;NINETY;ONE HUNDRED
;TWO HUNDRED;THREE HUNDRED;FOUR HUNDRED;FIVE HUNDRED;SIX HUNDRED;SEVEN HUNDRED;EIGHT HUNDRED
;NINE HUNDRED
10300;OLD ITALIC LETTER ;A;BE;KE;DE;E;VE;ZE;HE;THE;I;KA;EL;EM;EN;ESH;O;PE;SHE;KU;ER;ES;TE;U;EKS
;PHE;KHE;EF;ERS;CHE;II;UU;ESS
10320;OLD ITALIC NUMERAL ;ONE;FIVE;TEN;FIFTY
1032D;OLD ITALIC LETTER ;YE;NORTHERN TSE;SOUTHERN TSE
10330;GOTHIC LETTER ;AHSA;BAIRKAN;GIBA;DAGS;AIHVUS;QAIRTHRA;IUJA;HAGL;THIUTH;EIS;KUSMA;LAGUS
;MANNA;NAUTHS;JER;URUS;PAIRTHRA;NINETY;RAIDA;SAUIL;TEIWS;WINJA;FAIHU;IGGWS;HWAIR;OTHAL
;NINE HUNDRED
10350;OLD PERMIC LETTER ;AN;BUR;GAI;DOI;E;ZHOI;DZHOI;ZATA;DZITA;I;KOKE;LEI;MENOE;NENOE;VOOI;PEEI
;REI;SII;TAI;U;CHERY;SHOOI;SHCHOOI;YRY;YERU;O;OO;EF;HA;TSIU;VER;YER;YERI;YAT;IE;YU;YA;IA
10376;COMBINING OLD PERMIC LETTER ;AN;DOI;ZATA;NENOE;SII
10380;UGARITIC LETTER ;ALPA;BETA;GAMLA;KHA;DELTA;HO;WO;ZETA;HOTA;TET;YOD;KAF;SHIN;LAMDA;MEM;DHAL
;NUN;ZU;SAMKA;AIN;PU;SADE;QOPA;RASHA;THANNA;GHAIN;TO;I;U;SSU
1039F;UGARITIC WORD DIVIDER;
103A0;OLD PERSIAN SIGN ;A;I;U;KA;KU;GA;GU;XA;CA;JA;JI;TA;TU;DA;DI;DU;THA;PA;BA;FA;NA;NU;MA;MI;MU
;YA;VA;VI;RA;RU;LA;SA;ZA;SHA;SSA;HA
103C8;OLD PERSIAN SIGN ;AURAMAZDAA;AURAMAZDAA-2;AURAMAZDAAHA;XSHAAYATHIYA;DAHYAAUSH;DAHYAAUSH-2
;BAGA;BUUMISH
103D0;OLD PERSIAN WORD DIVIDER;
103D1;OLD PERSIAN NUMBER ;ONE;TWO;TEN;TWENTY;HUNDRED
10400;DESERET CAPITAL LETTER ;LONG I;LONG E;LONG A;LONG AH;LONG O;LONG OO;SHORT I;SHORT E
;SHORT A;SHORT AH;SHORT O;SHORT OO;AY;OW;WU;YEE;H;PEE;BEE;TEE;DEE;CHEE;JEE;KAY;GAY;EF;VEE;ETH
;THEE;ES;ZEE;ESH;ZHEE;ER;EL;EM;EN;ENG;OI;EW
10428;DESERET SMALL LETTER ;LONG I;LONG E;LONG A;LONG AH;LONG O;LONG OO;SHORT I;SHORT E;SHORT A
;SHORT AH;SHORT O;SHORT OO;AY;OW;WU;YEE;H;PEE;BEE;TEE;DEE;CHEE;JEE;KAY;GAY;EF;VEE;ETH;THEE;ES
;ZEE;ESH;ZHEE;ER;EL;EM;EN;ENG;OI;EW
10450;SHAVIAN LETTER ;PEEP;TOT;KICK;FEE;THIGH;SO;SURE;CHURCH;YEA;HUNG;BIB;DEAD;GAG;VOW;THEY;ZOO
;MEASURE;JUDGE;WOE;HA-HA;LOLL;MIME;IF;EGG;ASH;ADO;ON;WOOL;OUT;AH;ROAR;NUN;EAT;AGE;ICE;UP;OAK
;OOZE;OIL;AWE;ARE;OR;AIR;ERR;ARRAY;EAR;IAN;YEW
10480;OSMANYA LETTER ;ALEF;BA;TA;JA;XA;KHA;DEEL;RA;SA;SHIIN;DHA;CAYN;GA;FA;QAAF;KAAF;LAAN;MIIN
;NUUN;WAW;HA;YA;A;E;I;O;U;AA;EE;OO
104A0;OSMANYA DIGIT ;ZERO;ONE;TWO;THREE;FOUR;FIVE;SIX;SEVEN;EIGHT;NINE
104B0;OSAGE CAPITAL LETTER ;A;AI;AIN;AH;BRA;CHA;EHCHA;E;EIN;HA;HYA;I;KA;EHKA;KYA;LA;MA;NA;O;OIN
;PA;EHPA;SA;SHA;TA;EHTA;TSA;EHTSA;TSHA;DHA;U;WA;KHA;GHA;ZA;ZHA
104D8;OSAGE SMALL LETTER ;A;AI;AIN;AH;BRA;CHA;EHCHA;E;EIN;HA;HYA;I;KA;EHKA;KYA;LA;MA;NA;O;OIN;PA
;EHPA;SA;SHA;TA;EHTA;TSA;EHTSA;TSHA;DHA;U;WA;KHA;GHA;ZA;ZHA
10500;ELBASAN LETTER ;A;BE;CE;CHE;DE;NDE;DHE;EI;E;FE;GE;GJE;HE;I;JE;KE;LE;LLE;ME;NE;NA;NJE;O;PE
;QE;RE;RRE;SE;SHE;TE;THE;U;VE;XE;Y;ZE;ZHE;GHE;GHAMMA;KHE
10530;CAUCASIAN ALBANIAN LETTER ;ALT;BET;GIM;DAT;EB;ZARL;EYN;ZHIL;TAS;CHA;YOWD;ZHA;IRB;SHA;LAN
;INYA;XEYN;DYAN;CAR;JHOX;KAR;LYIT;HEYT;QAY;AOR;CHOY;CHI;CYAY;MAQ;QAR;NOWC;DZYAY;SHAK;JAYN;ON
;TYAY;FAM;DZAY;CHAT;PEN;GHEYS;RAT;SEYK;VEYZ;TIWR;SHOY;IWN;CYAW;CAYN;YAYD;PIWR;KIW
1056F;CAUCASIAN ALBANIAN CITATION MARK;
10570;VITHKUQI CAPITAL LETTER ;A;BBE;BE;CE;CHE;DE;DHE;EI;E;FE;GA
1057C;VITHKUQI CAPITAL LETTER ;HA;HHA;I;IJE;JE;KA;LA;LLA;ME;NE;NJE;O;PE;QA;RE
1058C;VITHKUQI CAPITAL LETTER ;SE;SHE;TE;THE;U;VE;XE
10594;VITHKUQI CAPITAL LETTER ;Y;ZE
10597;VITHKUQI SMALL LETTER ;A;BBE;BE;CE;CHE;DE;DHE;EI;E;FE;GA
105A3;VITHKUQI SMALL LETTER ;HA;HHA;I;IJE;JE;KA;LA;LLA;ME;NE;NJE;O;PE;QA;RE
105B3;VITHKUQI SMALL LETTER ;SE;SHE;TE;THE;U;VE;XE
105BB;VITHKUQI SMALL LETTER ;Y;ZE
10600;LINEAR A SIGN AB0;01;02;03;04;05;06;07;08;09;10;11;13;16;17;20;21;21F;21M;22;22F;22M;23
;23M;24;26;27;28
1061B;LINEAR A SIGN A028B;
1061C;LINEAR A SIGN AB0;29;30;31;34;37;38;39;40;41;44;45;46;47;48;49;50;51;53;54;55;56;57;58;59
;60;61;65;66;67;69;70;73;74;76;77;78;79;80;81;82;85;86;87
10647;LINEAR A SIGN A;100-102;B118;B120;120B;B122;B123;B131A;B131B;131C;B164;B171;B180;B188;B191
10655;LINEAR A SIGN A3;01;02;03;04;05;06;07;08;09A;09B;09C;10;11;12;13A;13B;13C;14;15;16;17;18
;19;20;21;22;23;24;25;26;27;28;29;30;31;32;33;34;35;36;37;38;39;40;41;42;43;44;45;46;47;48;49;50
;51;52;53;54;55;56;57;58;59;60;61;62;63;64;65;66;67;68;69;70;71
106A0;LINEAR A SIGN A4;00-VAS;01-VAS;02-VAS;03-VAS;04-VAS;05-VAS;06-VAS;07-VAS;08-VAS;09-VAS
;10-VAS;11-VAS;12-VAS;13-VAS;14-VAS;15-VAS;16-VAS;17-VAS;18-VAS
106B3;LINEAR A SIGN A5;01;02;03;04;05;06;08;09;10;11;12;13;15;16;20;21;23;24;25;26;27;28;29;30
;31;32;34;35;36;37;38;39;40;41;42;45;47;48;49;50;51;52;53;54;55;56;57;59;63;64;65;66;68;69;70;71
;72;73;74;75;76;77;78;79;80;81;82;83;84;85;86;87;88;89;91;92;94;95;96;98
10703;LINEAR A SIGN A6;00;01;02;03;04;06;08;09;10;11;12;13;14;15;16;17;18;19;20;21;22;23;24;26
;27;28;29;34;37;38;40;42;43;44;45;46;48;49;51;52;53;54;55;56;57;58;59;60;61;62;63;64
10740;LINEAR A SIGN A7;01 A;02 B;03 D;04 E;05 F;06 H;07 J;08 K;09 L;09-2 L2;09-3 L3;09-4 L4
;09-6 L6;10 W;11 X;12 Y;13 OMEGA;14 ABB;15 BB;17 DD;26 EYYY;32 JE
10760;LINEAR A SIGN A80;0;1;2;3;4;5;6;7
10780;MODIFIER LETTER S;MALL CAPITAL AA;UPERSCRIPT TRIANGULAR COLON
;UPERSCRIPT HALF TRIANGULAR COLON;MALL AE;MALL CAPITAL B;MALL B WITH HOOK
10787;MODIFIER LETTER SMALL ;DZ DIGRAPH;DZ DIGRAPH WITH RETROFLEX HOOK;DZ DIGRAPH WITH CURL
;DEZH DIGRAPH;D WITH TAIL;D WITH HOOK;D WITH HOOK AND TAIL;REVERSED E;CLOSED REVERSED OPEN E
;FENG DIGRAPH;RAMS HORN;CAPITAL G;G WITH HOOK;CAPITAL G WITH HOOK;H WITH STROKE;CAPITAL H
;HENG WITH HOOK;DOTLESS J WITH STROKE AND HOOK;LS DIGRAPH;LZ DIGRAPH;L WITH BELT
;CAPITAL L WITH BELT;L WITH RETROFLEX HOOK AND BELT;LEZH;LEZH WITH RETROFLEX HOOK;TURNED Y
;TURNED Y WITH BELT;O WITH STROKE;CAPITAL OE;CLOSED OMEGA;Q;TURNED R WITH LONG LEG
;TURNED R WITH LONG LEG AND RETROFLEX HOOK;R WITH TAIL;R WITH FISHHOOK;CAPITAL R
;TC DIGRAPH WITH CURL;TS DIGRAPH;TS DIGRAPH WITH RETROFLEX HOOK;TESH DIGRAPH
;T WITH RETROFLEX HOOK;V WITH RIGHT HOOK
107B2;MODIFIER LETTER ;SMALL CAPITAL Y;GLOTTAL STOP WITH STROKE
;REVERSED GLOTTAL STOP WITH STROKE;BILABIAL CLICK;DENTAL CLICK;LATERAL CLICK;ALVEOLAR CLICK
;RETROFLEX CLICK WITH RETROFLEX HOOK;SMALL S WITH CURL
10800;CYPRIOT SYLLABLE ;A;E;I;O;U;JA
10808;CYPRIOT SYLLABLE JO;
1080A;CYPRIOT SYLLABLE ;KA;KE;KI;KO;KU;LA;LE;LI;LO;LU;MA;ME;MI;MO;MU;NA;NE;NI;NO;NU;PA;PE;PI;PO
;PU;RA;RE;RI;RO;RU;SA;SE;SI;SO;SU;TA;TE;TI;TO;TU;WA;WE;WI;WO
10837;CYPRIOT SYLLABLE X;A;E
1083C;CYPRIOT SYLLABLE ZA;
1083F;CYPRIOT SYLLABLE ZO;
10840;IMPERIAL ARAMAIC LETTER ;ALEPH;BETH;GIMEL;DALETH;HE;WAW;ZAYIN;HETH;TETH;YODH;KAPH;LAMEDH
;MEM;NUN;SAMEKH;AYIN;PE;SADHE;QOPH;RESH;SHIN;TAW
10857;IMPERIAL ARAMAIC SECTION SIGN;
10858;IMPERIAL ARAMAIC NUMBER ;ONE;TWO;THREE;TEN;TWENTY;ONE HUNDRED;ONE THOUSAND;TEN THOUSAND
10860;PALMYRENE LETTER ;ALEPH;BETH;GIMEL;DALETH;HE;WAW;ZAYIN;HETH;TETH;YODH;KAPH;LAMEDH;MEM
;FINAL NUN;NUN;SAMEKH;AYIN;PE;SADHE;QOPH;RESH;SHIN;TAW
10877;PALMYRENE ;LEFT-POINTING FLEURON;RIGHT-POINTING FLEURON
10879;PALMYRENE NUMBER ;ONE;TWO;THREE;FOUR;FIVE;TEN;TWENTY
10880;NABATAEAN LETTER ;FINAL ALEPH;ALEPH;FINAL BETH;BETH;GIMEL;DALETH;FINAL HE;HE;WAW;ZAYIN
;HETH;TETH;FINAL YODH;YODH;FINAL KAPH;KAPH;FINAL LAMEDH;LAMEDH;FINAL MEM;MEM;FINAL NUN;NUN
;SAMEKH;AYIN;PE;SADHE;QOPH;RESH;FINAL SHIN;SHIN;TAW
108A7;NABATAEAN NUMBER ;ONE;TWO;THREE;FOUR
108AB;NABATAEAN CRUCIFORM NUMBER FOUR;
108AC;NABATAEAN NUMBER ;FIVE;TEN;TWENTY;ONE HUNDRED
108E0;HATRAN LETTER ;ALEPH;BETH;GIMEL;DALETH-RESH;HE;WAW;ZAYN;HETH;TETH;YODH;KAPH;LAMEDH;MEM;NUN
;SAMEKH;AYN;PE;SADHE;QOPH
108F4;HATRAN LETTER ;SHIN;TAW
108FB;HATRAN NUMBER ;ONE;FIVE;TEN;TWENTY;ONE HUNDRED
10900;PHOENICIAN LETTER ;ALF;BET;GAML;DELT;HE;WAU;ZAI;HET;TET;YOD;KAF;LAMD;MEM;NUN;SEMK;AIN;PE
;SADE;QOF;ROSH;SHIN;TAU
10916;PHOENICIAN NUMBER ;ONE;TEN;TWENTY;ONE HUNDRED;TWO;THREE
1091F;PHOENICIAN WORD SEPARATOR;
10920;LYDIAN LETTER ;A;B;G;D;E;V;I;Y;K;L;M;N;O;R;SS;T;U;F;Q;S;TT;AN;EN;LY;NN;C
1093F;LYDIAN TRIANGULAR MARK;
10980;MEROITIC HIEROGLYPHIC LETTER ;A;E;I;O;YA;WA;BA;BA-2;PA;MA;NA;NA-2;NE;NE-2;RA;RA-2;LA;KHA
;HHA;SA;SA-2;SE;KA;QA;TA;TA-2;TE;TE-2;TO;DA
1099E;MEROITIC HIEROGLYPHIC SYMBOL VIDJ;;-2
109A0;MEROITIC CURSIVE LETTER ;A;E;I;O;YA;WA;BA;PA;MA;NA;NE;RA;LA;KHA;HHA;SA;ARCHAIC SA;SE;KA;QA
;TA;TE;TO;DA
109BC;MEROITIC CURSIVE ;FRACTION ELEVEN TWELFTHS;FRACTION ONE HALF;LOGOGRAM RMT;LOGOGRAM IMN
109C0;MEROITIC CURSIVE NUMBER ;ONE;TWO;THREE;FOUR;FIVE;SIX;SEVEN;EIGHT;NINE;TEN;TWENTY;THIRTY
;FORTY;FIFTY;SIXTY;SEVENTY
109D2;MEROITIC CURSIVE NUMBER ;ONE HUNDRED;TWO HUNDRED;THREE HUNDRED;FOUR HUNDRED;FIVE HUNDRED
;SIX HUNDRED;SEVEN HUNDRED;EIGHT HUNDRED;NINE HUNDRED;ONE THOUSAND;TWO THOUSAND;THREE THOUSAND
;FOUR THOUSAND;FIVE THOUSAND;SIX THOUSAND;SEVEN THOUSAND;EIGHT THOUSAND;NINE THOUSAND
;TEN THOUSAND;TWENTY THOUSAND;THIRTY THOUSAND;FORTY THOUSAND;FIFTY THOUSAND;SIXTY THOUSAND
;SEVENTY THOUSAND;EIGHTY THOUSAND;NINETY THOUSAND;ONE HUNDRED THOUSAND;TWO HUNDRED THOUSAND
;THREE HUNDRED THOUSAND;FOUR HUNDRED THOUSAND;FIVE HUNDRED THOUSAND;SIX HUNDRED THOUSAND
;SEVEN HUNDRED THOUSAND;EIGHT HUNDRED THOUSAND;NINE HUNDRED THOUSAND
109F6;MEROITIC CURSIVE FRACTION ;ONE TWELFTH;TWO TWELFTHS;THREE TWELFTHS;FOUR TWELFTHS
;FIVE TWELFTHS;SIX TWELFTHS;SEVEN TWELFTHS;EIGHT TWELFTHS;NINE TWELFTHS;TEN TWELFTHS
10A00;KHAROSHTHI LETTER A;
10A01;KHAROSHTHI VOWEL SIGN ;I;U;VOCALIC R
10A05;KHAROSHTHI VOWEL SIGN ;E;O
10A0C;KHAROSHTHI ;VOWEL LENGTH MARK;SIGN DOUBLE RING BELOW;SIGN ANUSVARA;SIGN VISARGA
10A10;KHAROSHTHI LETTER ;KA;KHA;GA;GHA
10A15;KHAROSHTHI LETTER ;CA;CHA;JA
10A19;KHAROSHTHI LETTER ;NYA;TTA;TTHA;DDA;DDHA;NNA;TA;THA;DA;DHA;NA;PA;PHA;BA;BHA;MA;YA;RA;LA;VA
;SHA;SSA;SA;ZA;HA;KKA;TTTHA;TTTA;VHA
10A38;KHAROSHTHI SIGN ;BAR ABOVE;CAUDA;DOT BELOW
10A3F;KHAROSHTHI ;VIRAMA;DIGIT ONE;DIGIT TWO;DIGIT THREE;DIGIT FOUR;NUMBER TEN;NUMBER TWENTY
;NUMBER ONE HUNDRED;NUMBER ONE THOUSAND;FRACTION ONE HALF
10A50;KHAROSHTHI PUNCTUATION ;DOT;SMALL CIRCLE;CIRCLE;CRESCENT BAR;MANGALAM;LOTUS;DANDA
;DOUBLE DANDA;LINES
10A60;OLD SOUTH ARABIAN LETTER ;HE;LAMEDH;HETH;MEM;QOPH;WAW;SHIN;RESH;BETH;TAW;SAT;KAPH;NUN
;KHETH;SADHE;SAMEKH;FE;ALEF;AYN;DHADHE;GIMEL;DALETH;GHAYN;TETH;ZAYN;DHALETH;YODH;THAW;THETH
10A7D;OLD SOUTH ARABIAN NUM;BER ONE;BER FIFTY;ERIC INDICATOR
10A80;OLD NORTH ARABIAN LETTER ;HEH;LAM;HAH;MEEM;QAF;WAW;ES-2;REH;BEH;TEH;ES-1;KAF;NOON;KHAH;SAD
;ES-3;FEH;ALEF;AIN;DAD;GEEM;DAL;GHAIN;TAH;ZAIN;THAL;YEH;THEH;ZAH
10A9D;OLD NORTH ARABIAN NUMBER ;ONE;TEN;TWENTY
10AC0;MANICHAEAN LETTER ;ALEPH;BETH;BHETH;GIMEL;GHIMEL;DALETH;HE;WAW
10AC8;MANICHAEAN SIGN UD;
10AC9;MANICHAEAN LETTER ;ZAYIN;ZHAYIN;JAYIN;JHAYIN;HETH;TETH;YODH;KAPH;XAPH;KHAPH;LAMEDH;DHAMEDH
;THAMEDH;MEM;NUN;SAMEKH;AYIN;AAYIN;PE;FE;SADHE;QOPH;XOPH;QHOPH;RESH;SHIN;SSHIN;TAW
10AE5;MANICHAEAN ABBREVIATION MARK ;ABOVE;BELOW
10AEB;MANICHAEAN NUMBER ;ONE;FIVE;TEN;TWENTY;ONE HUNDRED
10AF0;MANICHAEAN PUNCTUATION ;STAR;FLEURON;DOUBLE DOT WITHIN DOT;DOT WITHIN DOT;DOT;TWO DOTS
;LINE FILLER
10B00;AVESTAN LETTER ;A;AA;AO;AAO;AN;AAN;AE;AEE;E;EE;O;OO;I;II;U;UU;KE;XE;XYE;XVE;GE;GGE;GHE;CE
;JE;TE;THE;DE;DHE;TTE;PE;FE;BE;BHE;NGE;NGYE;NGVE;NE;NYE;NNE;ME;HME;YYE;YE;VE;RE;LE;SE;ZE;SHE;ZHE
;SHYE;SSHE;HE
10B39;;AVESTAN ABBREVIATION MARK;TINY TWO DOTS OVER ONE DOT PUNCTUATION
;SMALL TWO DOTS OVER ONE DOT PUNCTUATION
10B3C;LARGE ;TWO DOTS OVER ONE DOT PUNCTUATION;ONE DOT OVER TWO DOTS PUNCTUATION
;TWO RINGS OVER ONE RING PUNCTUATION;ONE RING OVER TWO RINGS PUNCTUATION
10B40;INSCRIPTIONAL PARTHIAN LETTER ;ALEPH;BETH;GIMEL;DALETH;HE;WAW;ZAYIN;HETH;TETH;YODH;KAPH
;LAMEDH;MEM;NUN;SAMEKH;AYIN;PE;SADHE;QOPH;RESH;SHIN;TAW
10B58;INSCRIPTIONAL PARTHIAN NUMBER ;ONE;TWO;THREE;FOUR;TEN;TWENTY;ONE HUNDRED;ONE THOUSAND
10B60;INSCRIPTIONAL PAHLAVI LETTER ;ALEPH;BETH;GIMEL;DALETH;HE;WAW-AYIN-RESH;ZAYIN;HETH;TETH
;YODH;KAPH;LAMEDH;MEM-QOPH;NUN;SAMEKH;PE;SADHE;SHIN;TAW
10B78;INSCRIPTIONAL PAHLAVI NUMBER ;ONE;TWO;THREE;FOUR;TEN;TWENTY;ONE HUNDRED;ONE THOUSAND
10B80;PSALTER PAHLAVI LETTER ;ALEPH;BETH;GIMEL;DALETH;HE;WAW-AYIN-RESH;ZAYIN;HETH;YODH;KAPH
;LAMEDH;MEM-QOPH;NUN;SAMEKH;PE;SADHE;SHIN;TAW
10B99;PSALTER PAHLAVI ;SECTION MARK;TURNED SECTION MARK;FOUR DOTS WITH CROSS;FOUR DOTS WITH DOT
10BA9;PSALTER PAHLAVI NUMBER ;ONE;TWO;THREE;FOUR;TEN;TWENTY;ONE HUNDRED
10C00;OLD TURKIC LETTER ;ORKHON A;YENISEI A;YENISEI AE;ORKHON I;YENISEI I;YENISEI E;ORKHON O
;ORKHON OE;YENISEI OE;ORKHON AB;YENISEI AB;ORKHON AEB;YENISEI AEB;ORKHON AG;YENISEI AG
;ORKHON AEG;YENISEI AEG;ORKHON AD;YENISEI AD;ORKHON AED;ORKHON EZ;YENISEI EZ;ORKHON AY
;YENISEI AY;ORKHON AEY;YENISEI AEY;ORKHON AEK;YENISEI AEK;ORKHON OEK;YENISEI OEK;ORKHON AL
;YENISEI AL;ORKHON AEL;ORKHON ELT;ORKHON EM;ORKHON AN;ORKHON AEN;YENISEI AEN;ORKHON ENT
;YENISEI ENT;ORKHON ENC;YENISEI ENC;ORKHON ENY;YENISEI ENY;YENISEI ANG;ORKHON ENG;YENISEI AENG
;ORKHON EP;ORKHON OP;ORKHON IC;ORKHON EC;YENISEI EC;ORKHON AQ;YENISEI AQ;ORKHON IQ;YENISEI IQ
;ORKHON OQ;YENISEI OQ;ORKHON AR;YENISEI AR;ORKHON AER;ORKHON AS;ORKHON AES;ORKHON ASH
;YENISEI ASH;ORKHON ESH;YENISEI ESH;ORKHON AT;YENISEI AT;ORKHON AET;YENISEI AET;ORKHON OT
;ORKHON BASH
10C80;OLD HUNGARIAN CAPITAL LETTER ;A;AA;EB;AMB;EC;ENC;ECS;ED;AND;E;CLOSE E;EE;EF;EG;EGY;EH;I;II
;EJ;EK;AK;UNK;EL;ELY;EM;EN;ENY;O;OO;NIKOLSBURG OE;RUDIMENTA OE;OEE;EP;EMP;ER;SHORT ER;ES;ESZ;ET
;ENT;ETY;ECH;U;UU;NIKOLSBURG UE;RUDIMENTA UE;EV;EZ;EZS;ENT-SHAPED SIGN;US
10CC0;OLD HUNGARIAN SMALL LETTER ;A;AA;EB;AMB;EC;ENC;ECS;ED;AND;E;CLOSE E;EE;EF;EG;EGY;EH;I;II
;EJ;EK;AK;UNK;EL;ELY;EM;EN;ENY;O;OO;NIKOLSBURG OE;RUDIMENTA OE;OEE;EP;EMP;ER;SHORT ER;ES;ESZ;ET
;ENT;ETY;ECH;U;UU;NIKOLSBURG UE;RUDIMENTA UE;EV;EZ;EZS;ENT-SHAPED SIGN;US
10CFA;OLD HUNGARIAN NUMBER ;ONE;FIVE;TEN;FIFTY;ONE HUNDRED;ONE THOUSAND
10D00;HANIFI ROHINGYA LETTER ;A;BA;PA;TA;TTA;JA;CA;HA;KHA;FA;DA;DDA;RA;RRA;ZA;SA;SHA;KA;GA;LA;MA
;NA;WA;KINNA WA;YA;KINNA YA;NGA;NYA;VA
10D1D;HANIFI ROHINGYA VOWEL ;A;I;U;E;O
10D22;HANIFI ROHINGYA ;MARK SAKIN;MARK NA KHONNA;SIGN HARBAHAY;SIGN TAHALA;SIGN TANA;SIGN TASSI
10D30;HANIFI ROHINGYA DIGIT ;ZERO;ONE;TWO;THREE;FOUR;FIVE;SIX;SEVEN;EIGHT;NINE
10E60;RUMI DIGIT ;ONE;TWO;THREE;FOUR;FIVE;SIX;SEVEN;EIGHT;NINE
10E69;RUMI NUMBER ;TEN;TWENTY;THIRTY;FORTY;FIFTY;SIXTY;SEVENTY;EIGHTY;NINETY;ONE HUNDRED
;TWO HUNDRED;THREE HUNDRED;FOUR HUNDRED;FIVE HUNDRED;SIX HUNDRED;SEVEN HUNDRED;EIGHT HUNDRED
;NINE HUNDRED
10E7B;RUMI FRACTION ;ONE HALF;ONE QUARTER;ONE THIRD;TWO THIRDS
10E80;YEZIDI LETTER ;ELIF;BE;PE;PHE;THE;SE;CIM;CHIM;CHHIM;HHA;XA;DAL;ZAL;RA;RHA;ZA;JA;SIN;SHIN
;SAD;DAD;TA;ZE;EYN;XHEYN;FA;VA;VA ALTERNATE FORM;QAF;KAF;KHAF;GAF;LAM;MIM;NUN;UM;WAW;OW;EW;HAY
;YOT;ET
10EAB;YEZIDI ;COMBINING HAMZA MARK;COMBINING MADDA MARK;HYPHENATION MARK
10EB0;YEZIDI LETTER ;LAM WITH DOT ABOVE;YOT WITH CIRCUMFLEX ABOVE
10F00;OLD SOGDIAN LETTER ;ALEPH;FINAL ALEPH;BETH;FINAL BETH;GIMEL;HE;FINAL HE;WAW;ZAYIN;HETH
;YODH;KAPH;LAMEDH;MEM;NUN;FINAL NUN;FINAL NUN WITH VERTICAL TAIL;SAMEKH;AYIN;ALTERNATE AYIN;PE
;SADHE;FINAL SADHE;FINAL SADHE WITH VERTICAL TAIL;RESH-AYIN-DALETH;SHIN;TAW;FINAL TAW
;FINAL TAW WITH VERTICAL TAIL
10F1D;OLD SOGDIAN NUMBER ;ONE;TWO;THREE;FOUR;FIVE;TEN;TWENTY;THIRTY;ONE HUNDRED
10F26;OLD SOGDIAN ;FRACTION ONE HALF;LIGATURE AYIN-DALETH
10F30;SOGDIAN LETTER ;ALEPH;BETH;GIMEL;HE;WAW;ZAYIN;HETH;YODH;KAPH;LAMEDH;MEM;NUN;SAMEKH;AYIN;PE
;SADHE;RESH-AYIN;SHIN;TAW;FETH;LESH
10F45;SOGDIAN INDEPENDENT SHIN;
10F46;SOGDIAN COMBINING ;DOT BELOW;TWO DOTS BELOW;DOT ABOVE;TWO DOTS ABOVE;CURVE ABOVE
;CURVE BELOW;HOOK ABOVE;HOOK BELOW;LONG HOOK BELOW;RESH BELOW;STROKE BELOW
10F51;SOGDIAN NUMBER ;ONE;TEN;TWENTY;ONE HUNDRED
10F55;SOGDIAN PUNCTUATION ;TWO VERTICAL BARS;TWO VERTICAL BARS WITH DOTS;CIRCLE WITH DOT
;TWO CIRCLES WITH DOTS;HALF CIRCLE WITH DOT
10F70;OLD UYGHUR LETTER ;ALEPH;BETH;GIMEL-HETH;WAW;ZAYIN;FINAL HETH;YODH;KAPH;LAMEDH;MEM;NUN
;SAMEKH;PE;SADHE;RESH;SHIN;TAW;LESH
10F82;OLD UYGHUR COMBINING ;DOT ABOVE;DOT BELOW;TWO DOTS ABOVE;TWO DOTS BELOW
10F86;OLD UYGHUR PUNCTUATION ;BAR;TWO BARS;TWO DOTS;FOUR DOTS
10FB0;CHORASMIAN LETTER ;ALEPH;SMALL ALEPH;BETH;GIMEL;DALETH;HE;WAW;CURLED WAW;ZAYIN;HETH;YODH
;KAPH;LAMEDH;MEM;NUN;SAMEKH;AYIN;PE;RESH;SHIN;TAW
10FC5;CHORASMIAN NUMBER ;ONE;TWO;THREE;FOUR;TEN;TWENTY;ONE HUNDRED
10FE0;ELYMAIC LETTER ;ALEPH;BETH;GIMEL;DALETH;HE;WAW;ZAYIN;HETH;TETH;YODH;KAPH;LAMEDH;MEM;NUN
;SAMEKH;AYIN;PE;SADHE;QOPH;RESH;SHIN;TAW
10FF6;ELYMAIC LIGATURE ZAYIN-YODH;
11000;BRAHMI SIGN ;CANDRABINDU;ANUSVARA;VISARGA;JIHVAMULIYA;UPADHMANIYA
11005;BRAHMI LETTER ;A;AA;I;II;U;UU;VOCALIC R;VOCALIC RR;VOCALIC L;VOCALIC LL;E;AI;O;AU;KA;KHA
;GA;GHA;NGA;CA;CHA;JA;JHA;NYA;TTA;TTHA;DDA;DDHA;NNA;TA;THA;DA;DHA;NA;PA;PHA;BA;BHA;MA;YA;RA;LA
;VA;SHA;SSA;SA;HA;LLA;OLD TAMIL LLLA;OLD TAMIL RRA;OLD TAMIL NNNA
11038;BRAHMI VOWEL SIGN ;AA;BHATTIPROLU AA;I;II;U;UU;VOCALIC R;VOCALIC RR;VOCALIC L;VOCALIC LL;E
;AI;O;AU
11046;BRAHMI ;VIRAMA;DANDA;DOUBLE DANDA
11049;BRAHMI PUNCTUATION ;DOT;DOUBLE DOT;LINE;CRESCENT BAR;LOTUS
11052;BRAHMI NUMBER ;ONE;TWO;THREE;FOUR;FIVE;SIX;SEVEN;EIGHT;NINE;TEN;TWENTY;THIRTY;FORTY;FIFTY
;SIXTY;SEVENTY;EIGHTY;NINETY;ONE HUNDRED;ONE THOUSAND
11066;BRAHMI DIGIT ;ZERO;ONE;TWO;THREE;FOUR;FIVE;SIX;SEVEN;EIGHT;NINE
11070;BRAHMI SIGN OLD TAMIL VIRAMA;
11071;BRAHMI LETTER OLD TAMIL SHORT ;E;O
11073;BRAHMI VOWEL SIGN OLD TAMIL SHORT ;E;O
11075;BRAHMI LETTER OLD TAMIL LLA;
1107F;BRAHMI NUMBER JOINER;
11080;KAITHI SIGN ;CANDRABINDU;ANUSVARA;VISARGA
11083;KAITHI LETTER ;A;AA;I;II;U;UU;E;AI;O;AU;KA;KHA;GA;GHA;NGA;CA;CHA;JA;JHA;NYA;TTA;TTHA;DDA
;DDDHA;DDHA;RHA;NNA;TA;THA;DA;DHA;NA;PA;PHA;BA;BHA;MA;YA;RA;LA;VA;SHA;SSA;SA;HA
110B0;KAITHI VOWEL SIGN ;AA;I;II;U;UU;E;AI;O;AU
110B9;KAITHI ;SIGN VIRAMA;SIGN NUKTA;ABBREVIATION SIGN;ENUMERATION SIGN;NUMBER SIGN;SECTION MARK
;DOUBLE SECTION MARK;DANDA;DOUBLE DANDA;VOWEL SIGN VOCALIC R
110CD;KAITHI NUMBER SIGN ABOVE;
110D0;SORA SOMPENG LETTER ;SAH;TAH;BAH;CAH;DAH;GAH;MAH;NGAH;LAH;NAH;VAH;PAH;YAH;RAH;HAH;KAH;JAH
;NYAH;AH;EEH;IH;UH;OH;EH;MAE
110F0;SORA SOMPENG DIGIT ;ZERO;ONE;TWO;THREE;FOUR;FIVE;SIX;SEVEN;EIGHT;NINE
11100;CHAKMA SIGN ;CANDRABINDU;ANUSVARA;VISARGA
11103;CHAKMA LETTER ;AA;I;U;E;KAA;KHAA;GAA;GHAA;NGAA;CAA;CHAA;JAA;JHAA;NYAA;TTAA;TTHAA;DDAA
;DDHAA;NNAA;TAA;THAA;DAA;DHAA;NAA;PAA;PHAA;BAA;BHAA;MAA;YYAA;YAA;RAA;LAA;WAA;SAA;HAA
11127;CHAKMA VOWEL SIGN ;A;I;II;U;UU;E;AI;O;AU;OI
11131;CHAKMA ;O MARK;AU MARK;VIRAMA;MAAYYAA
11136;CHAKMA DIGIT ;ZERO;ONE;TWO;THREE;FOUR;FIVE;SIX;SEVEN;EIGHT;NINE
11140;CHAKMA ;SECTION MARK;DANDA;DOUBLE DANDA;QUESTION MARK;LETTER LHAA;VOWEL SIGN AA
;VOWEL SIGN EI;LETTER VAA
11150;MAHAJANI LETTER ;A;I;U;E;O;KA;KHA;GA;GHA;CA;CHA;JA;JHA;NYA;TTA;TTHA;DDA;DDHA;NNA;TA;THA;DA
;DHA;NA;PA;PHA;BA;BHA;MA;RA;LA;VA;SA;HA;RRA
11173;MAHAJANI ;SIGN NUKTA;ABBREVIATION SIGN;SECTION MARK;LIGATURE SHRI
11180;SHARADA SIGN ;CANDRABINDU;ANUSVARA;VISARGA
11183;SHARADA LETTER ;A;AA;I;II;U;UU;VOCALIC R;VOCALIC RR;VOCALIC L;VOCALIC LL;E;AI;O;AU;KA;KHA
;GA;GHA;NGA;CA;CHA;JA;JHA;NYA;TTA;TTHA;DDA;DDHA;NNA;TA;THA;DA;DHA;NA;PA;PHA;BA;BHA;MA;YA;RA;LA
;LLA;VA;SHA;SSA;SA;HA
111B3;SHARADA VOWEL SIGN ;AA;I;II;U;UU;VOCALIC R;VOCALIC RR;VOCALIC L;VOCALIC LL;E;AI;O;AU
111C0;SHARADA ;SIGN VIRAMA;SIGN AVAGRAHA;SIGN JIHVAMULIYA;SIGN UPADHMANIYA;OM;DANDA;DOUBLE DANDA
;ABBREVIATION SIGN;SEPARATOR;SANDHI MARK;SIGN NUKTA;VOWEL MODIFIER MARK;EXTRA SHORT VOWEL MARK
;SUTRA MARK;VOWEL SIGN PRISHTHAMATRA E;SIGN INVERTED CANDRABINDU
111D0;SHARADA DIGIT ;ZERO;ONE;TWO;THREE;FOUR;FIVE;SIX;SEVEN;EIGHT;NINE
111DA;SHARADA ;EKAM;SIGN SIDDHAM;HEADSTROKE;CONTINUATION SIGN;SECTION MARK-1;SECTION MARK-2
111E1;SINHALA ARCHAIC DIGIT ;ONE;TWO;THREE;FOUR;FIVE;SIX;SEVEN;EIGHT;NINE
111EA;SINHALA ARCHAIC NUMBER ;TEN;TWENTY;THIRTY;FORTY;FIFTY;SIXTY;SEVENTY;EIGHTY;NINETY
;ONE HUNDRED;ONE THOUSAND
11200;KHOJKI LETTER ;A;AA;I;U;E;AI;O;AU;KA;KHA;GA;GGA;GHA;NGA;CA;CHA;JA;JJA
11213;KHOJKI LETTER ;NYA;TTA;TTHA;DDA;DDHA;NNA;TA;THA;DA;DDDA;DHA;NA;PA;PHA;BA;BBA;BHA;MA;YA;RA
;LA;VA;SA;HA;LLA
1122C;KHOJKI VOWEL SIGN ;AA;I;II;U;E;AI;O;AU
11234;KHOJKI SIGN ;ANUSVARA;VIRAMA;NUKTA;SHADDA
11238;KHOJKI ;DANDA;DOUBLE DANDA;WORD SEPARATOR;SECTION MARK;DOUBLE SECTION MARK
;ABBREVIATION SIGN;SIGN SUKUN
11280;MULTANI LETTER ;A;I;U;E;KA;KHA;GA
11288;MULTANI LETTER GHA;
1128A;MULTANI LETTER ;CA;CHA;JA;JJA
1128F;MULTANI LETTER ;NYA;TTA;TTHA;DDA;DDDA;DDHA;NNA;TA;THA;DA;DHA;NA;PA;PHA;BA
1129F;MULTANI LETTER ;BHA;MA;YA;RA;LA;VA;SA;HA;RRA;RHA
112A9;MULTANI SECTION MARK;
112B0;KHUDAWADI LETTER ;A;AA;I;II;U;UU;E;AI;O;AU;KA;KHA;GA;GGA;GHA;NGA;CA;CHA;JA;JJA;JHA;NYA;TTA
;TTHA;DDA;DDDA;RRA;DDHA;NNA;TA;THA;DA;DHA;NA;PA;PHA;BA;BBA;BHA;MA;YA;RA;LA;VA;SHA;SA;HA
112DF;KHUDAWADI SIGN ANUSVARA;
112E0;KHUDAWADI VOWEL SIGN ;AA;I;II;U;UU;E;AI;O;AU
112E9;KHUDAWADI SIGN ;NUKTA;VIRAMA
112F0;KHUDAWADI DIGIT ;ZERO;ONE;TWO;THREE;FOUR;FIVE;SIX;SEVEN;EIGHT;NINE
11300;GRANTHA SIGN ;COMBINING ANUSVARA ABOVE;CANDRABINDU;ANUSVARA;VISARGA
11305;GRANTHA LETTER ;A;AA;I;II;U;UU;VOCALIC R;VOCALIC L
1130F;GRANTHA LETTER ;EE;AI
11313;GRANTHA LETTER ;OO;AU;KA;KHA;GA;GHA;NGA;CA;CHA;JA;JHA;NYA;TTA;TTHA;DDA;DDHA;NNA;TA;THA;DA
;DHA;NA
1132A;GRANTHA LETTER ;PA;PHA;BA;BHA;MA;YA;RA
11332;GRANTHA LETTER L;A;LA
11335;GRANTHA LETTER ;VA;SHA;SSA;SA;HA
1133B;COMBINING BINDU BELOW;
1133C;GRANTHA SIGN ;NUKTA;AVAGRAHA
1133E;GRANTHA VOWEL SIGN ;AA;I;II;U;UU;VOCALIC R;VOCALIC RR
11347;GRANTHA VOWEL SIGN ;EE;AI
1134B;GRANTHA ;VOWEL SIGN OO;VOWEL SIGN AU;SIGN VIRAMA
11350;GRANTHA OM;
11357;GRANTHA AU LENGTH MARK;
1135D;GRANTHA SIGN PLUTA;
1135E;GRANTHA LETTER V;EDIC ANUSVARA;EDIC DOUBLE ANUSVARA;OCALIC RR;OCALIC LL
11362;GRANTHA VOWEL SIGN VOCALIC L;;L
11366;COMBINING GRANTHA DIGIT ;ZERO;ONE;TWO;THREE;FOUR;FIVE;SIX
11370;COMBINING GRANTHA LETTER ;A;KA;NA;VI;PA
11400;NEWA LETTER ;A;AA;I;II;U;UU;VOCALIC R;VOCALIC RR;VOCALIC L;VOCALIC LL;E;AI;O;AU;KA;KHA;GA
;GHA;NGA;NGHA;CA;CHA;JA;JHA;NYA;NYHA;TTA;TTHA;DDA;DDHA;NNA;TA;THA;DA;DHA;NA;NHA;PA;PHA;BA;BHA;MA
;MHA;YA;RA;RHA;LA;LHA;WA;SHA;SSA;SA;HA
11435;NEWA VOWEL SIGN ;AA;I;II;U;UU;VOCALIC R;VOCALIC RR;VOCALIC L;VOCALIC LL;E;AI;O;AU
11442;NEWA SIGN ;VIRAMA;CANDRABINDU;ANUSVARA;VISARGA;NUKTA;AVAGRAHA;FINAL ANUSVARA
11449;NEWA ;OM;SIDDHI;DANDA;DOUBLE DANDA;COMMA;GAP FILLER;ABBREVIATION SIGN
11450;NEWA DIGIT ;ZERO;ONE;TWO;THREE;FOUR;FIVE;SIX;SEVEN;EIGHT;NINE
1145A;NEWA ;DOUBLE COMMA;PLACEHOLDER MARK
1145D;NEWA ;INSERTION SIGN;SANDHI MARK;LETTER VEDIC ANUSVARA;SIGN JIHVAMULIYA;SIGN UPADHMANIYA
11480;TIRHUTA ANJI;
11481;TIRHUTA LETTER ;A;AA;I;II;U;UU;VOCALIC R;VOCALIC RR;VOCALIC L;VOCALIC LL;E;AI;O;AU;KA;KHA
;GA;GHA;NGA;CA;CHA;JA;JHA;NYA;TTA;TTHA;DDA;DDHA;NNA;TA;THA;DA;DHA;NA;PA;PHA;BA;BHA;MA;YA;RA;LA
;VA;SHA;SSA;SA;HA
114B0;TIRHUTA VOWEL SIGN ;AA;I;II;U;UU;VOCALIC R;VOCALIC RR;VOCALIC L;VOCALIC LL;E;SHORT E;AI;O
;SHORT O;AU
114BF;TIRHUTA SIGN ;CANDRABINDU;ANUSVARA;VISARGA;VIRAMA;NUKTA;AVAGRAHA
114C5;TIRHUTA ;GVANG;ABBREVIATION SIGN;OM
114D0;TIRHUTA DIGIT ;ZERO;ONE;TWO;THREE;FOUR;FIVE;SIX;SEVEN;EIGHT;NINE
11580;SIDDHAM LETTER ;A;AA;I;II;U;UU;VOCALIC R;VOCALIC RR;VOCALIC L;VOCALIC LL;E;AI;O;AU;KA;KHA
;GA;GHA;NGA;CA;CHA;JA;JHA;NYA;TTA;TTHA;DDA;DDHA;NNA;TA;THA;DA;DHA;NA;PA;PHA;BA;BHA;MA;YA;RA;LA
;VA;SHA;SSA;SA;HA
115AF;SIDDHAM VOWEL SIGN ;AA;I;II;U;UU;VOCALIC R;VOCALIC RR
115B8;SIDDHAM VOWEL SIGN ;E;AI;O;AU
115BC;SIDDHAM SIGN ;CANDRABINDU;ANUSVARA;VISARGA;VIRAMA;NUKTA;SIDDHAM
115C2;SIDDHAM ;DANDA;DOUBLE DANDA;SEPARATOR DOT;SEPARATOR BAR
115C6;SIDDHAM REPETITION MARK-;1;2;3
115C9;SIDDHAM END OF TEXT MARK;
115CA;SIDDHAM SECTION MARK WITH TRIDENT AND ;U-SHAPED ORNAMENTS;DOTTED CRESCENTS
115CC;SIDDHAM SECTION MARK WITH RAYS AND DOTTED ;CRESCENTS;DOUBLE CRESCENTS;TRIPLE CRESCENTS
115CF;SIDDHAM SECTION MARK DOUBLE RING;; WITH RAYS
115D1;SIDDHAM SECTION MARK WITH ;DOUBLE CRESCENTS;TRIPLE CRESCENTS;QUADRUPLE CRESCENTS
;SEPTUPLE CRESCENTS;CIRCLES AND RAYS;CIRCLES AND TWO ENCLOSURES;CIRCLES AND FOUR ENCLOSURES
115D8;SIDDHAM LETTER ;THREE-CIRCLE ALTERNATE I;TWO-CIRCLE ALTERNATE I;TWO-CIRCLE ALTERNATE II
;ALTERNATE U
115DC;SIDDHAM VOWEL SIGN ALTERNATE U;;U
11600;MODI LETTER ;A;AA;I;II;U;UU;VOCALIC R;VOCALIC RR;VOCALIC L;VOCALIC LL;E;AI;O;AU;KA;KHA;GA
;GHA;NGA;CA;CHA;JA;JHA;NYA;TTA;TTHA;DDA;DDHA;NNA;TA;THA;DA;DHA;NA;PA;PHA;BA;BHA;MA;YA;RA;LA;VA
;SHA;SSA;SA;HA;LLA
11630;MODI VOWEL SIGN ;AA;I;II;U;UU;VOCALIC R;VOCALIC RR;VOCALIC L;VOCALIC LL;E;AI;O;AU
1163D;MODI SIGN ;ANUSVARA;VISARGA;VIRAMA;ARDHACANDRA
11641;MODI ;DANDA;DOUBLE DANDA;ABBREVIATION SIGN;SIGN HUVA
11650;MODI DIGIT ;ZERO;ONE;TWO;THREE;FOUR;FIVE;SIX;SEVEN;EIGHT;NINE
11660;MONGOLIAN ;BIRGA WITH ORNAMENT;ROTATED BIRGA;DOUBLE BIRGA WITH ORNAMENT
;TRIPLE BIRGA WITH ORNAMENT;BIRGA WITH DOUBLE ORNAMENT;ROTATED BIRGA WITH ORNAMENT
;ROTATED BIRGA WITH DOUBLE ORNAMENT;INVERTED BIRGA;INVERTED BIRGA WITH DOUBLE ORNAMENT
;SWIRL BIRGA;SWIRL BIRGA WITH ORNAMENT;SWIRL BIRGA WITH DOUBLE ORNAMENT
;TURNED SWIRL BIRGA WITH DOUBLE ORNAMENT
11680;TAKRI LETTER ;A;AA;I;II;U;UU;E;AI;O;AU;KA;KHA;GA;GHA;NGA;CA;CHA;JA;JHA;NYA;TTA;TTHA;DDA
;DDHA;NNA;TA;THA;DA;DHA;NA;PA;PHA;BA;BHA;MA;YA;RA;LA;VA;SHA;SA;HA;RRA
116AB;TAKRI SIGN ;ANUSVARA;VISARGA
116AD;TAKRI VOWEL SIGN ;AA;I;II;U;UU;E;AI;O;AU
116B6;TAKRI ;SIGN VIRAMA;SIGN NUKTA;LETTER ARCHAIC KHA;ABBREVIATION SIGN
116C0;TAKRI DIGIT ;ZERO;ONE;TWO;THREE;FOUR;FIVE;SIX;SEVEN;EIGHT;NINE
11700;AHOM LETTER ;KA;KHA;NGA;NA;TA;ALTERNATE TA;PA;PHA;BA;MA;JA;CHA;THA;RA;LA;SA;NYA;HA;A;DA
;DHA;GA;ALTERNATE GA;GHA;BHA;JHA;ALTERNATE BA
1171D;AHOM CONSONANT SIGN MEDIAL ;LA;RA;LIGATING RA
11720;AHOM VOWEL SIGN ;A;AA;I;II;U;UU;E;AW;O;AI;AM
1172B;AHOM SIGN KILLER;
11730;AHOM DIGIT ;ZERO;ONE;TWO;THREE;FOUR;FIVE;SIX;SEVEN;EIGHT;NINE
1173A;AHOM ;NUMBER TEN;NUMBER TWENTY;SIGN SMALL SECTION;SIGN SECTION;SIGN RULAI;SYMBOL VI
11740;AHOM LETTER ;CA;TTA;TTHA;DDA;DDHA;NNA;LLA
11800;DOGRA LETTER ;A;AA;I;II;U;UU;E;AI;O;AU;KA;KHA;GA;GHA;NGA;CA;CHA;JA;JHA;NYA;TTA;TTHA;DDA
;DDHA;NNA;TA;THA;DA;DHA;NA;PA;PHA;BA;BHA;MA;YA;RA;LA;VA;SHA;SSA;SA;HA;RRA
1182C;DOGRA VOWEL SIGN ;AA;I;II;U;UU;VOCALIC R;VOCALIC RR;E;AI;O;AU
11837;DOGRA SIGN ;ANUSVARA;VISARGA;VIRAMA;NUKTA
1183B;DOGRA ABBREVIATION SIGN;
118A0;WARANG CITI CAPITAL LETTER ;NGAA;A;WI;YU;YA;YO;II;UU;E;O;ANG;GA;KO;ENY;YUJ;UC;ENN;ODD;TTE
;NUNG;DA;AT;AM;BU;PU;HIYO;HOLO;HORR;HAR;SSUU;SII;VIYO
118C0;WARANG CITI SMALL LETTER ;NGAA;A;WI;YU;YA;YO;II;UU;E;O;ANG;GA;KO;ENY;YUJ;UC;ENN;ODD;TTE
;NUNG;DA;AT;AM;BU;PU;HIYO;HOLO;HORR;HAR;SSUU;SII;VIYO
118E0;WARANG CITI DIGIT ;ZERO;ONE;TWO;THREE;FOUR;FIVE;SIX;SEVEN;EIGHT;NINE
118EA;WARANG CITI NUMBER ;TEN;TWENTY;THIRTY;FORTY;FIFTY;SIXTY;SEVENTY;EIGHTY;NINETY
118FF;WARANG CITI OM;
11900;DIVES AKURU LETTER ;A;AA;I;II;U;UU;E
11909;DIVES AKURU LETTER O;
1190C;DIVES AKURU LETTER ;KA;KHA;GA;GHA;NGA;CA;CHA;JA
11915;DIVES AKURU LETTER ;NYA;TTA
11918;DIVES AKURU LETTER ;DDA;DDHA;NNA;TA;THA;DA;DHA;NA;PA;PHA;BA;BHA;MA;YA;YYA;RA;LA;VA;SHA;SSA
;SA;HA;LLA;ZA
11930;DIVES AKURU VOWEL SIGN ;AA;I;II;U;UU;E
11937;DIVES AKURU VOWEL SIGN ;AI;O
1193B;DIVES AKURU ;SIGN ANUSVARA;SIGN CANDRABINDU;SIGN HALANTA;VIRAMA;PREFIXED NASAL SIGN
;MEDIAL YA;INITIAL RA;MEDIAL RA;SIGN NUKTA;DOUBLE DANDA;GAP FILLER;END OF TEXT MARK
11950;DIVES AKURU DIGIT ;ZERO;ONE;TWO;THREE;FOUR;FIVE;SIX;SEVEN;EIGHT;NINE
119A0;NANDINAGARI LETTER ;A;AA;I;II;U;UU;VOCALIC R;VOCALIC RR
119AA;NANDINAGARI LETTER ;E;AI;O;AU;KA;KHA;GA;GHA;NGA;CA;CHA;JA;JHA;NYA;TTA;TTHA;DDA;DDHA;NNA;TA
;THA;DA;DHA;NA;PA;PHA;BA;BHA;MA;YA;RA;LA;VA;SHA;SSA;SA;HA;LLA;RRA
119D1;NANDINAGARI VOWEL SIGN ;AA;I;II;U;UU;VOCALIC R;VOCALIC RR
119DA;NANDINAGARI VOWEL SIGN ;E;AI;O;AU
119DE;NANDINAGARI SIGN ;ANUSVARA;VISARGA;VIRAMA;AVAGRAHA;SIDDHAM
119E3;NANDINAGARI ;HEADSTROKE;VOWEL SIGN PRISHTHAMATRA E
11A00;ZANABAZAR SQUARE LETTER A;
11A01;ZANABAZAR SQUARE VOWEL SIGN ;I;UE;U;E;OE;O;AI;AU;REVERSED I
11A0A;ZANABAZAR SQUARE VOWEL LENGTH MARK;
11A0B;ZANABAZAR SQUARE LETTER ;KA;KHA;GA;GHA;NGA;CA;CHA;JA;NYA;TTA;TTHA;DDA;DDHA;NNA;TA;THA;DA
;DHA;NA;PA;PHA;BA;BHA;MA;TSA;TSHA;DZA;DZHA;ZHA;ZA;-A;YA;RA;LA;VA;SHA;SSA;SA;HA;KSSA
11A33;ZANABAZAR SQUARE ;FINAL CONSONANT MARK;SIGN VIRAMA;SIGN CANDRABINDU
;SIGN CANDRABINDU WITH ORNAMENT;SIGN CANDRA WITH ORNAMENT;SIGN ANUSVARA;SIGN VISARGA
;CLUSTER-INITIAL LETTER RA
11A3B;ZANABAZAR SQUARE CLUSTER-FINAL LETTER ;YA;RA;LA;VA
11A3F;ZANABAZAR SQUARE ;INITIAL HEAD MARK;CLOSING HEAD MARK;MARK TSHEG;MARK SHAD
;MARK DOUBLE SHAD;MARK LONG TSHEG;INITIAL DOUBLE-LINED HEAD MARK;CLOSING DOUBLE-LINED HEAD MARK
;SUBJOINER
11A50;SOYOMBO LETTER A;
11A51;SOYOMBO VOWEL SIGN ;I;UE;U;E;O;OE;AI;AU;VOCALIC R;VOCALIC L
11A5B;SOYOMBO VOWEL LENGTH MARK;
11A5C;SOYOMBO LETTER ;KA;KHA;GA;GHA;NGA;CA;CHA;JA;JHA;NYA;TTA;TTHA;DDA;DDHA;NNA;TA;THA;DA;DHA;NA
;PA;PHA;BA;BHA;MA;TSA;TSHA;DZA;ZHA;ZA;-A;YA;RA;LA;VA;SHA;SSA;SA;HA;KSSA
11A84;SOYOMBO SIGN ;JIHVAMULIYA;UPADHMANIYA
11A86;SOYOMBO CLUSTER-INITIAL LETTER ;RA;LA;SHA;SA
11A8A;SOYOMBO FINAL CONSONANT SIGN ;G;K;NG;D;N;B;M;R;L;SH;S;-A
11A96;SOYOMBO ;SIGN ANUSVARA;SIGN VISARGA;GEMINATION MARK;SUBJOINER;MARK TSHEG;MARK SHAD
;MARK DOUBLE SHAD;MARK PLUTA
11A9E;SOYOMBO HEAD MARK WITH MOON AND SUN; AND TRIPLE FLAME; AND FLAME;
11AA1;SOYOMBO TERMINAL MARK-;1;2
11AB0;CANADIAN SYLLABICS NATTILIK ;HI;HII;HO;HOO;HA;HAA;SHRI;SHRII;SHRO;SHROO;SHRA;SHRAA
11ABC;CANADIAN SYLLABICS SP;E;I;O;A
11AC0;PAU CIN HAU LETTER ;PA;KA;LA;MA;DA;ZA;VA;NGA;HA;GA;KHA;SA;BA;CA;TA;THA;NA;PHA;RA;FA;CHA;A
;E;I;O;U;UA;IA
11ADC;PAU CIN HAU LETTER FINAL ;P;K;T;M;N;L;W;NG;Y
11AE5;PAU CIN HAU ;RISING TONE LONG;RISING TONE;SANDHI GLOTTAL STOP;RISING TONE LONG FINAL
;RISING TONE FINAL;SANDHI GLOTTAL STOP FINAL;SANDHI TONE LONG;SANDHI TONE;SANDHI TONE LONG FINAL
;SANDHI TONE FINAL;MID-LEVEL TONE;GLOTTAL STOP VARIANT;MID-LEVEL TONE LONG FINAL
;MID-LEVEL TONE FINAL;LOW-FALLING TONE LONG;LOW-FALLING TONE;GLOTTAL STOP
;LOW-FALLING TONE LONG FINAL;LOW-FALLING TONE FINAL;GLOTTAL STOP FINAL
11C00;BHAIKSUKI LETTER ;A;AA;I;II;U;UU;VOCALIC R;VOCALIC RR;VOCALIC L
11C0A;BHAIKSUKI LETTER ;E;AI;O;AU;KA;KHA;GA;GHA;NGA;CA;CHA;JA;JHA;NYA;TTA;TTHA;DDA;DDHA;NNA;TA
;THA;DA;DHA;NA;PA;PHA;BA;BHA;MA;YA;RA;LA;VA;SHA;SSA;SA;HA
11C2F;BHAIKSUKI VOWEL SIGN ;AA;I;II;U;UU;VOCALIC R;VOCALIC RR;VOCALIC L
11C38;BHAIKSUKI VOWEL SIGN ;E;AI;O;AU
11C3C;BHAIKSUKI SIGN ;CANDRABINDU;ANUSVARA;VISARGA;VIRAMA;AVAGRAHA
11C41;BHAIKSUKI ;DANDA;DOUBLE DANDA;WORD SEPARATOR;GAP FILLER-1;GAP FILLER-2
11C50;BHAIKSUKI DIGIT ;ZERO;ONE;TWO;THREE;FOUR;FIVE;SIX;SEVEN;EIGHT;NINE
11C5A;BHAIKSUKI NUMBER ;ONE;TWO;THREE;FOUR;FIVE;SIX;SEVEN;EIGHT;NINE;TEN;TWENTY;THIRTY;FORTY
;FIFTY;SIXTY;SEVENTY;EIGHTY;NINETY
11C6C;BHAIKSUKI HUNDREDS UNIT MARK;
11C70;MARCHEN ;HEAD MARK;MARK SHAD
11C72;MARCHEN LETTER ;KA;KHA;GA;NGA;CA;CHA;JA;NYA;TA;THA;DA;NA;PA;PHA;BA;MA;TSA;TSHA;DZA;WA;ZHA
;ZA;-A;YA;RA;LA;SHA;SA;HA;A
11C92;MARCHEN SUBJOINED LETTER ;KA;KHA;GA;NGA;CA;CHA;JA;NYA;TA;THA;DA;NA;PA;PHA;BA;MA;TSA;TSHA
;DZA;WA;ZHA;ZA
11CA9;MARCHEN SUBJOINED LETTER ;YA;RA;LA;SHA;SA;HA;A
11CB0;MARCHEN VOWEL SIGN ;AA;I;U;E;O
11CB5;MARCHEN SIGN ;ANUSVARA;CANDRABINDU
11D00;MASARAM GONDI LETTER ;A;AA;I;II;U;UU;E
11D08;MASARAM GONDI LETTER ;AI;O
11D0B;MASARAM GONDI LETTER ;AU;KA;KHA;GA;GHA;NGA;CA;CHA;JA;JHA;NYA;TTA;TTHA;DDA;DDHA;NNA;TA;THA
;DA;DHA;NA;PA;PHA;BA;BHA;MA;YA;RA;LA;VA;SHA;SSA;SA;HA;LLA;KSSA;JNYA;TRA
11D31;MASARAM GONDI VOWEL SIGN ;AA;I;II;U;UU;VOCALIC R
11D3A;MASARAM GONDI VOWEL SIGN E;
11D3C;MASARAM GONDI VOWEL SIGN ;AI;O
11D3F;MASARAM GONDI ;VOWEL SIGN AU;SIGN ANUSVARA;SIGN VISARGA;SIGN NUKTA;SIGN CANDRA
;SIGN HALANTA;VIRAMA;REPHA;RA-KARA
11D50;MASARAM GONDI DIGIT ;ZERO;ONE;TWO;THREE;FOUR;FIVE;SIX;SEVEN;EIGHT;NINE
11D60;GUNJALA GONDI LETTER ;A;AA;I;II;U;UU
11D67;GUNJALA GONDI LETTER ;EE;AI
11D6A;GUNJALA GONDI LETTER ;OO;AU;YA;VA;BA;BHA;MA;KA;KHA;TA;THA;LA;GA;GHA;DA;DHA;NA;CA;CHA;TTA
;TTHA;LLA;JA;JHA;DDA;DDHA;NGA;PA;PHA;HA;RA;SA
11D8A;GUNJALA GONDI VOWEL SIGN ;AA;I;II;U;UU
11D90;GUNJALA GONDI VOWEL SIGN ;EE;AI
11D93;GUNJALA GONDI ;VOWEL SIGN OO;VOWEL SIGN AU;SIGN ANUSVARA;SIGN VISARGA;VIRAMA;OM
11DA0;GUNJALA GONDI DIGIT ;ZERO;ONE;TWO;THREE;FOUR;FIVE;SIX;SEVEN;EIGHT;NINE
11EE0;MAKASAR LETTER ;KA;GA;NGA;PA;BA;MA;TA;DA;NA;CA;JA;NYA;YA;RA;LA;VA;SA;A
11EF2;MAKASAR ANGKA;
11EF3;MAKASAR VOWEL SIGN ;I;U;E;O
11EF7;MAKASAR ;PASSIMBANG;END OF SECTION
11FB0;LISU LETTER YHA;
11FC0;TAMIL FRACTION ;ONE THREE-HUNDRED-AND-TWENTIETH;ONE ONE-HUNDRED-AND-SIXTIETH;ONE EIGHTIETH
;ONE SIXTY-FOURTH;ONE FORTIETH;ONE THIRTY-SECOND;THREE EIGHTIETHS;THREE SIXTY-FOURTHS
;ONE TWENTIETH;ONE SIXTEENTH-1;ONE SIXTEENTH-2;ONE TENTH;ONE EIGHTH;THREE TWENTIETHS
;THREE SIXTEENTHS;ONE FIFTH;ONE QUARTER;ONE HALF-1;ONE HALF-2;THREE QUARTERS
;DOWNSCALING FACTOR KIIZH
11FD5;TAMIL SIGN ;NEL;CEVITU;AAZHAAKKU;UZHAKKU;MUUVUZHAKKU;KURUNI;PATHAKKU;MUKKURUNI;KAACU;PANAM
;PON;VARAAKAN;PAARAM;KUZHI;VELI
11FE4;TAMIL ;WET CULTIVATION SIGN;DRY CULTIVATION SIGN;LAND SIGN;SALT PAN SIGN
;TRADITIONAL CREDIT SIGN;TRADITIONAL NUMBER SIGN;CURRENT SIGN;AND ODD SIGN;SPENT SIGN;TOTAL SIGN
;IN POSSESSION SIGN;STARTING FROM SIGN;SIGN MUTHALIYA;SIGN VAKAIYARAA
11FFF;;TAMIL PUNCTUATION END OF TEXT;CUNEIFORM SIGN A
12001;CUNEIFORM SIGN A TIMES ;A;BAD;GAN2 TENU;HA;IGI;LAGAR GUNU;MUSH;SAG
12009;CUNEIFORM SIGN A;2;B
1200B;CUNEIFORM SIGN AB TIMES ;ASH2;DUN3 GUNU;GAL;GAN2 TENU;HA;IGI GUNU;IMIN;LAGAB;SHESH
;U PLUS U PLUS U
12015;CUNEIFORM SIGN A;B GUNU;B2;B2 TIMES BALAG;B2 TIMES GAN2 TENU;B2 TIMES ME PLUS EN
;B2 TIMES SHA3;B2 TIMES TAK4;D;K;K TIMES ERIN2;K TIMES SHITA PLUS GISH;L
12021;CUNEIFORM SIGN AL TIMES ;AL;DIM2;GISH;HA;KAD3;KI;SHE;USH
12029;CUNEIFORM SIGN ;ALAN;ALEPH;AMAR;AMAR TIMES SHE;AN;AN OVER AN;AN THREE TIMES
;AN PLUS NAGA OPPOSING AN PLUS NAGA;AN PLUS NAGA SQUARED;ANSHE;APIN;ARAD;ARAD TIMES KUR;ARKAB
;ASAL2;ASH;ASH ZIDA TENU;ASH KABA TENU;ASH OVER ASH TUG2 OVER TUG2 TUG2 OVER TUG2 PAP
;ASH OVER ASH OVER ASH;ASH OVER ASH OVER ASH CROSSING ASH OVER ASH OVER ASH;ASH2;ASHGAB;BA;BAD
;BAG3;BAHAR2;BAL;BAL OVER BAL;BALAG;BAR;BARA2;BI;BI TIMES A;BI TIMES GAR;BI TIMES IGI GUNU;BU
;BU OVER BU AB;BU OVER BU UN;BU CROSSING BU;BULUG;BULUG OVER BULUG;BUR;BUR2;DA;DAG
12057;CUNEIFORM SIGN DAG KISIM5 TIMES ;A PLUS MASH;AMAR;BALAG;BI;GA;GA PLUS MASH;GI;GIR2;GUD;HA
;IR;IR PLUS LU;KAK;LA;LU;LU PLUS MASH2;LUM;NE;PAP PLUS PAP;SI;TAK4;U2 PLUS GIR2;USH
1206E;CUNEIFORM SIGN D;AM;AR;ARA3;ARA4;I;IB;IM;IM TIMES SHE;IM2;IN;IN KASKAL U GUNU DISH;ISH;U
;U OVER DU;U GUNU;U SHESHIG;UB;UB TIMES ESH2;UB2;UG;UGUD;UH;UN;UN3;UN3 GUNU;UN3 GUNU GUNU;UN4
;UR2
1208A;CUNEIFORM SIGN E;; TIMES PAP; OVER E NUN OVER NUN;2;2 TIMES A PLUS HA PLUS DA;2 TIMES GAR
;2 TIMES MI;2 TIMES SAL;2 TIMES SHE;2 TIMES U;DIN;GIR;L;N;N TIMES GAN2;N TIMES GAN2 TENU
;N TIMES ME;N CROSSING EN;N OPPOSING EN;N SQUARED;REN;RIN2;SH2;ZEN
120A2;CUNEIFORM SIGN EZEN TIMES ;A;A PLUS LAL;A PLUS LAL TIMES LAL;AN;BAD;DUN3 GUNU
;DUN3 GUNU GUNU;HA;HA GUNU;IGI GUNU;KASKAL;KASKAL SQUARED;KU3;LA;LAL TIMES LAL;LI;LU;U2;UD
120B5;CUNEIFORM SIGN GA;; GUNU;2
120B8;CUNEIFORM SIGN GA2 TIMES ;A PLUS DA PLUS HA;A PLUS HA;A PLUS IGI;AB2 TENU PLUS TAB;AN;ASH
;ASH2 PLUS GAL;BAD;BAR PLUS RA;BUR;BUR PLUS RA;DA;DI;DIM TIMES SHE;DUB;EL;EL PLUS LA;EN
;EN TIMES GAN2 TENU;GAN2 TENU;GAR;GI;GI4;GI4 PLUS A;GIR2 PLUS SU;HA PLUS LU PLUS ESH2;HAL
;HAL PLUS LA;HI PLUS LI;HUB2;IGI GUNU;ISH PLUS HU PLUS ASH;KAK;KASKAL;KID;KID PLUS LAL
;KU3 PLUS AN;LA;ME PLUS EN;MI;NUN;NUN OVER NUN;PA;SAL;SAR;SHE;SHE PLUS TUR;SHID;SUM;TAK4;U;UD
;UD PLUS DU
120ED;CUNEIFORM SIGN G;A2 OVER GA2;ABA;ABA CROSSING GABA;AD;AD OVER GAD GAR OVER GAR;AL
;AL GAD OVER GAD GAR OVER GAR;ALAM;AM;AN;AN2;AN2 TENU;AN2 OVER GAN2;AN2 CROSSING GAN2;AR;AR3
;ASHAN;ESHTIN;ESHTIN TIMES KUR;I;I TIMES E;I TIMES U;I CROSSING GI;I4;I4 OVER GI4
;I4 CROSSING GI4;IDIM;IR2;IR2 GUNU;IR3;IR3 TIMES A PLUS IGI;IR3 TIMES GAN2 TENU;IR3 TIMES IGI
;IR3 TIMES LU PLUS IGI;IR3 TIMES PA;ISAL;ISH;ISH CROSSING GISH;ISH TIMES BAD;ISH TIMES TAK4
;ISH TENU;U;U CROSSING GU;U2;U2 TIMES KAK;U2 TIMES KAK TIMES IGI GUNU;U2 TIMES NUN
;U2 TIMES SAL PLUS TUG2;U2 GUNU;UD;UD TIMES A PLUS KUR;UD TIMES KUR;UD OVER GUD LUGAL;UL;UM
;UM TIMES SHE;UR;UR7;URUN;URUSH
12129;CUNEIFORM SIGN H;A;A TENU;A GUNU;AL;I
1212E;CUNEIFORM SIGN HI TIMES ;ASH;ASH2;BAD;DISH;GAD;KIN;NUN;SHE;U
12137;CUNEIFORM SIGN HU;;B2
12139;CUNEIFORM SIGN HUB2 TIMES ;AN;HAL;KASKAL;LISH;UD
1213E;CUNEIFORM SIGN ;HUL2;I;I A;IB;IDIM;IDIM OVER IDIM BUR;IDIM OVER IDIM SQUARED;IG;IGI
;IGI DIB;IGI RI;IGI OVER IGI SHIR OVER SHIR UD OVER UD;IGI GUNU;IL;IL TIMES GAN2 TENU;IL2;IM
;IM TIMES TAK4;IM CROSSING IM;IM OPPOSING IM;IM SQUARED;IMIN;IN;IR;ISH;KA
12158;CUNEIFORM SIGN KA TIMES ;A;AD;AD PLUS KU3;ASH2;BAD;BALAG;BAR;BI;ERIN2;ESH2;GA;GAL
;GAN2 TENU;GAR;GAR PLUS SHA3 PLUS A;GI;GIR2;GISH PLUS SAR;GISH CROSSING GISH;GU;GUR7;IGI;IM;KAK
;KI;KID;LI;LU;ME;ME PLUS DU;ME PLUS GI;ME PLUS TE;MI;MI PLUS NUNUZ;NE;NUN;PI;RU;SA;SAR;SHA;SHE
;SHID;SHU;SIG;SUHUR;TAR;U;U2;UD;UMUM TIMES PA;USH;ZI
1218D;CUNEIFORM SIGN K;A2;A2 CROSSING KA2;AB;AD2;AD3;AD4;AD5;AD5 OVER KAD5;AK;AK TIMES IGI GUNU
;AL;AL TIMES BAD;AL CROSSING KAL;AM2;AM4;ASKAL;ASKAL LAGAB TIMES U OVER LAGAB TIMES U
;ASKAL OVER KASKAL LAGAB TIMES U OVER LAGAB TIMES U;ESH2;I;I TIMES BAD;I TIMES U;I TIMES UD;ID
;IN;ISAL;ISH;ISIM5;ISIM5 OVER KISIM5;U;U OVER HI TIMES ASH2 KU OVER HI TIMES ASH2;U3;U4
;U4 VARIANT FORM;U7;UL;UL GUNU;UN;UR;UR OPPOSING KUR;USHU2;WU318
121B7;CUNEIFORM SIGN LA;;GAB
121B9;CUNEIFORM SIGN LAGAB TIMES ;A;A PLUS DA PLUS HA;A PLUS GAR;A PLUS LAL;AL;AN;ASH ZIDA TENU
;BAD;BI;DAR;EN;GA;GAR;GUD;GUD PLUS GUD;HA;HAL;HI TIMES NUN;IGI GUNU;IM;IM PLUS HA;IM PLUS LU;KI
;KIN;KU3;KUL;KUL PLUS HI PLUS A;LAGAB;LISH;LU;LUL;ME;ME PLUS EN;MUSH;NE;SHE PLUS SUM
;SHITA PLUS GISH PLUS ERIN2;SHITA PLUS GISH TENU;SHU2;SHU2 PLUS SHU2;SUM;TAG;TAK4
;TE PLUS A PLUS SU PLUS NA;U;U PLUS A;U PLUS U PLUS U;U2 PLUS ASH;UD;USH
121EB;CUNEIFORM SIGN L;AGAB SQUARED;AGAR;AGAR TIMES SHE;AGAR TIMES SHE PLUS SUM;AGAR GUNU
;AGAR GUNU OVER LAGAR GUNU SHE;AHSHU;AL;AL TIMES LAL;AM;AM TIMES KUR;AM TIMES KUR PLUS RU;I;IL
;IMMU2;ISH;U;U TIMES BAD;U2
121FE;CUNEIFORM SIGN LU2 TIMES ;AL;BAD;ESH2;ESH2 TENU;GAN2 TENU;HI TIMES BAD;IM;KAD2;KAD3
;KAD3 PLUS ASH;KI;LA PLUS ASH;LAGAB;ME PLUS EN;NE;NU;SI PLUS ASH;SIK2 PLUS BU;TUG2
12211;CUNEIFORM SIGN LU;2 TENU;2 CROSSING LU2;2 OPPOSING LU2;2 SQUARED;2 SHESHIG;3;GAL
;GAL OVER LUGAL;GAL OPPOSING LUGAL;GAL SHESHIG;H;L;M;M OVER LUM;M OVER LUM GAR OVER GAR
12220;CUNEIFORM SIGN M;A;A TIMES TAK4;A GUNU;A2;AH;AR;ASH;ASH2;E;ES;I;IN;U;U OVER MU;UG;UG GUNU
;UNSUB;URGU2
12232;CUNEIFORM SIGN MUSH;; TIMES A; TIMES KUR; TIMES ZA; OVER MUSH; OVER MUSH TIMES A PLUS NA
; CROSSING MUSH;3;3 TIMES A;3 TIMES A PLUS DI;3 TIMES DI;3 GUNU
1223E;CUNEIFORM SIGN N;A;A2;AGA;AGA INVERTED;AGA TIMES SHU TENU;AGA OPPOSING NAGA;AGAR
;AM NUTILLU;AM;AM2;E;E TIMES A;E TIMES UD;E SHESHIG;I;I TIMES E;I2;IM;IM TIMES GAN2 TENU
;IM TIMES GAR PLUS GAN2 TENU;INDA2
12253;CUNEIFORM SIGN NINDA2 TIMES ;AN;ASH;ASH PLUS ASH;GUD;ME PLUS GAN2 TENU;NE;NUN;SHE
;SHE PLUS A AN;SHE PLUS ASH;SHE PLUS ASH PLUS ASH;U2 PLUS ASH;USH
12260;CUNEIFORM SIGN N;ISAG;U;U11;UN
12264;CUNEIFORM SIGN NUN LAGAR TIMES ;GAR;MASH;SAL;SAL OVER NUN LAGAR TIMES SAL;USH
12269;CUNEIFORM SIGN NUN; TENU; OVER NUN; CROSSING NUN; CROSSING NUN LAGAR OVER LAGAR;UZ
1226E;CUNEIFORM SIGN NUNUZ AB2 TIMES ;ASHGAB;BI;DUG;GUD;IGI GUNU;KAD3;LA;NE;SILA3;U2
12278;CUNEIFORM SIGN NUNUZ KISIM5 TIMES BI;; U
1227A;CUNEIFORM SIGN P;A;AD;AN;AP;ESH2;I
12280;CUNEIFORM SIGN PI TIMES ;A;AB;BI;BU;E;I;IB;U;U2
12289;CUNEIFORM SIGN ;PI CROSSING PI;PIRIG;PIRIG TIMES KAL;PIRIG TIMES UD;PIRIG TIMES ZA
;PIRIG OPPOSING PIRIG;RA;RAB;RI;RU;SA;SAG NUTILLU;SAG
12296;CUNEIFORM SIGN SAG TIMES ;A;DU;DUB;HA;KAK;KUR;LUM;MI;NUN;SAL;SHID;TAB;U2;UB;UM;UR;USH
122A7;CUNEIFORM SIGN S;AG OVER SAG;AG GUNU;AL;AL LAGAB TIMES ASH2;ANGA2;AR;HA;HA3
122AF;CUNEIFORM SIGN SHA3 TIMES ;A;BAD;GISH;NE;SHU2;TUR;U;U PLUS A
122B7;CUNEIFORM SIGN SH;A6;AB6;AR2;E;E HU;E OVER SHE GAD OVER GAD GAR OVER GAR
;E OVER SHE TAB OVER TAB GAR OVER GAR;EG9;EN;ESH;ESH2;ESHLAM;ID;ID TIMES A;ID TIMES IM;IM
122C7;CUNEIFORM SIGN SHIM TIMES ;A;BAL;BULUG;DIN;GAR;IGI;IGI GUNU;KUSHU2;LUL;MUG;SAL
122D2;CUNEIFORM SIGN S;HINIG;HIR;HIR TENU;HIR OVER SHIR BUR OVER BUR;HITA;HU
;HU OVER INVERTED SHU;HU2;HUBUR;I;I GUNU;IG;IG4;IG4 OVER SIG4 SHU2;IK2;ILA3;U;U OVER SU;UD;UD2
;UHUR;UM;UMASH;UR;UR9
122EB;CUNEIFORM SIGN TA;; ASTERISK; TIMES HI; TIMES MI; GUNU;B
;B OVER TAB NI OVER NI DISH OVER DISH;B SQUARED;G
122F4;CUNEIFORM SIGN TAG TIMES ;BI;GUD;SHE;SHU;TUG2;UD
122FA;CUNEIFORM SIGN T;AK4;AR;E;E GUNU;I;I TENU;IL;IR;IR TIMES TAK4;IR OVER TIR
;IR OVER TIR GAD OVER GAD GAR OVER GAR;U;UG2;UK;UM;UR;UR OVER TUR ZA OVER ZA
1230B;CUNEIFORM SIGN U;; GUD; U U; OVER U PA OVER PA GAR OVER GAR; OVER U SUR OVER SUR
; OVER U U REVERSED OVER U REVERSED;2;B;D;D KUSHU2;D TIMES BAD;D TIMES MI
;D TIMES U PLUS U PLUS U;D TIMES U PLUS U PLUS U GUNU;D GUNU;D SHESHIG;D SHESHIG TIMES BAD;DUG;M
;M TIMES LAGAB;M TIMES ME PLUS DA;M TIMES SHA3;M TIMES U;MBIN;MUM;MUM TIMES KASKAL;MUM TIMES PA
;N;N GUNU;R;R CROSSING UR;R SHESHIG;R2
1232C;CUNEIFORM SIGN UR2 TIMES ;A PLUS HA;A PLUS NA;AL;HA;NUN;U2;U2 PLUS ASH;U2 PLUS BI
12334;CUNEIFORM SIGN UR;4;I;I3;U
12338;CUNEIFORM SIGN URU TIMES ;A;ASHGAB;BAR;DUN;GA;GAL;GAN2 TENU;GAR;GU;HA;IGI;IM;ISH;KI;LUM
;MIN;PA;SHE;SIG4;TU;U PLUS GUD;UD;URUDA
1234F;CUNEIFORM SIGN ;URUDA;URUDA TIMES U;USH;USH TIMES A;USH TIMES KU;USH TIMES KUR
;USH TIMES TAK4;USHX;USH2;USHUMX;UTUKI;UZ3;UZ3 TIMES KASKAL;UZU;ZA;ZA TENU;ZA SQUARED TIMES KUR
;ZAG;ZAMX;ZE2;ZI;ZI OVER ZI;ZI3;ZIB;ZIB KABA TENU;ZIG;ZIZ2;ZU;ZU5;ZU5 TIMES A;ZUBUR;ZUM
;KAP ELAMITE;AB TIMES NUN;AB2 TIMES A;AMAR TIMES KUG;DAG KISIM5 TIMES U2 PLUS MASH;DAG3
;DISH PLUS SHU;DUB TIMES SHE;EZEN TIMES GUD;EZEN TIMES SHE;GA2 TIMES AN PLUS KAK PLUS A
;GA2 TIMES ASH2;GE22;GIG;HUSH
1237E;CUNEIFORM SIGN KA TIMES ;ANSHE;ASH3;GISH;GUD;HI TIMES ASH2;LUM;PA;SHUL;TU;UR2
12388;CUNEIFORM SIGN ;LAGAB TIMES GI;LU2 SHESHIG TIMES BAD;LU2 TIMES ESH2 PLUS LAL;LU2 TIMES SHU
;MESH;MUSH3 TIMES ZA;NA4;NIN;NIN9;NINDA2 TIMES BAL;NINDA2 TIMES GI;NU11 ROTATED NINETY DEGREES
;PESH2 ASTERISK;PIR2;SAG TIMES IGI GUNU;TI2;UM TIMES ME;U U
12400;CUNEIFORM NUMERIC SIGN ;TWO ASH;THREE ASH;FOUR ASH;FIVE ASH;SIX ASH;SEVEN ASH;EIGHT ASH
;NINE ASH;THREE DISH;FOUR DISH;FIVE DISH;SIX DISH;SEVEN DISH;EIGHT DISH;NINE DISH;FOUR U;FIVE U
;SIX U;SEVEN U;EIGHT U;NINE U;ONE GESH2;TWO GESH2;THREE GESH2;FOUR GESH2;FIVE GESH2;SIX GESH2
;SEVEN GESH2;EIGHT GESH2;NINE GESH2;ONE GESHU;TWO GESHU;THREE GESHU;FOUR GESHU;FIVE GESHU
;TWO SHAR2;THREE SHAR2;THREE SHAR2 VARIANT FORM;FOUR SHAR2;FIVE SHAR2;SIX SHAR2;SEVEN SHAR2
;EIGHT SHAR2;NINE SHAR2;ONE SHARU;TWO SHARU;THREE SHARU;THREE SHARU VARIANT FORM;FOUR SHARU
;FIVE SHARU;SHAR2 TIMES GAL PLUS DISH;SHAR2 TIMES GAL PLUS MIN;ONE BURU;TWO BURU;THREE BURU
;THREE BURU VARIANT FORM;FOUR BURU;FIVE BURU;THREE VARIANT FORM ESH16;THREE VARIANT FORM ESH21
1243C;CUNEIFORM NUMERIC SIGN FOUR VARIANT FORM LIMMU;;4; A; B
12440;CUNEIFORM NUMERIC SIGN SIX VARIANT FORM ASH9;
12441;CUNEIFORM NUMERIC SIGN SEVEN VARIANT FORM IMIN;3; A; B
12444;CUNEIFORM NUMERIC SIGN EIGHT VARIANT FORM USSU;;3
12446;CUNEIFORM NUMERIC SIGN NINE VARIANT FORM ILIMMU;;3;4; A
1244A;CUNEIFORM NUMERIC SIGN ;TWO ASH TENU;THREE ASH TENU;FOUR ASH TENU;FIVE ASH TENU
;SIX ASH TENU;ONE BAN2;TWO BAN2;THREE BAN2;FOUR BAN2;FOUR BAN2 VARIANT FORM;FIVE BAN2
;FIVE BAN2 VARIANT FORM;NIGIDAMIN;NIGIDAESH;ONE ESHE3;TWO ESHE3;ONE THIRD DISH;TWO THIRDS DISH
;FIVE SIXTHS DISH;ONE THIRD VARIANT FORM A;TWO THIRDS VARIANT FORM A;ONE EIGHTH ASH
;ONE QUARTER ASH;OLD ASSYRIAN ONE SIXTH;OLD ASSYRIAN ONE QUARTER;ONE QUARTER GUR;ONE HALF GUR
;ELAMITE ONE THIRD;ELAMITE TWO THIRDS;ELAMITE FORTY;ELAMITE FIFTY;FOUR U VARIANT FORM
;FIVE U VARIANT FORM;SIX U VARIANT FORM;SEVEN U VARIANT FORM;EIGHT U VARIANT FORM
;NINE U VARIANT FORM
12470;CUNEIFORM PUNCTUATION SIGN ;OLD ASSYRIAN WORD DIVIDER;VERTICAL COLON;DIAGONAL COLON
;DIAGONAL TRICOLON;DIAGONAL QUADCOLON
12480;CUNEIFORM SIGN ;AB TIMES NUN TENU;AB TIMES SHU2;AD TIMES ESH2;BAD TIMES DISH TENU
;BAHAR2 TIMES AB2;BAHAR2 TIMES NI;BAHAR2 TIMES ZA;BU OVER BU TIMES NA2;DA TIMES TAK4
;DAG TIMES KUR;DIM TIMES IGI;DIM TIMES U U U;DIM2 TIMES UD
1248D;CUNEIFORM SIGN DUG TIMES ;ANSHE;ASH;ASH AT LEFT;DIN;DUN;ERIN2;GA;GI;GIR2 GUNU;GISH;HA;HI
;IGI GUNU;KASKAL;KUR;KUSHU2;KUSHU2 PLUS KASKAL;LAK-020;LAM;LAM TIMES KUR;LUH PLUS GISH;MASH;MES
;MI;NI;PI;SHE;SI GUNU
124A9;CUNEIFORM SIGN E;2 TIMES KUR;2 TIMES PAP;RIN2 X;SH2 CROSSING ESH2
124AD;CUNEIFORM SIGN EZEN SHESHIG TIMES ;ASH;HI;IGI GUNU;LA;LAL;ME;MES;SU
124B5;CUNEIFORM SIGN EZEN TIMES SU;
124B6;CUNEIFORM SIGN GA2 TIMES ;BAHAR2;DIM GUNU;DUG TIMES IGI GUNU;DUG TIMES KASKAL;EREN;GA
;GAR PLUS DI;GAR PLUS NE;HA PLUS A;KUSHU2 PLUS KASKAL;LAM;LAM TIMES KUR;LUH;MUSH;NE;NE PLUS E2
;NE PLUS GI;SHIM;ZIZ2
124C9;CUNEIFORM SIGN ;GABA ROTATED NINETY DEGREES;GESHTIN TIMES U;GISH TIMES GISH CROSSING GISH
;GU2 TIMES IGI GUNU;GUD PLUS GISH TIMES TAK4;HA TENU GUNU;HI TIMES ASH OVER HI TIMES ASH
;KA TIMES BU;KA TIMES KA;KA TIMES U U U;KA TIMES UR;LAGAB TIMES ZU OVER ZU
124D5;CUNEIFORM SIGN LAK-;003;021;025;030;050;051;062;079 OVER LAK-079 GUNU;080;081 OVER LAK-081
;092;130;142;210;219;220;225;228;238;265;266;343;347;348;383;384;390;441;449;449 TIMES GU
;449 TIMES IGI;449 TIMES PAP PLUS LU3;449 TIMES PAP PLUS PAP PLUS LU3;449 TIMES U2 PLUS BA;450
;457;470;483;490;492;493;495;550;608;617
12502;CUNEIFORM SIGN LAK-617 TIMES ;ASH;BAD;DUN3 GUNU GUNU;KU3;LA;TAR;TE;U2;UD;URUDA
1250C;CUNEIFORM SIGN LAK-6;36;48
1250E;CUNEIFORM SIGN LAK-648 TIMES ;DUB;GA;IGI;IGI GUNU;NI;PAP PLUS PAP PLUS LU3;SHESH PLUS KI
;UD;URUDA
12517;CUNEIFORM SIGN ;LAK-724;LAK-749;LU2 GUNU TIMES ASH;LU2 TIMES DISH;LU2 TIMES HAL
;LU2 TIMES PAP;LU2 TIMES PAP PLUS PAP PLUS LU3;LU2 TIMES TAK4;MI PLUS ZA7
;MUSH OVER MUSH TIMES GA;MUSH OVER MUSH TIMES KAK
12522;CUNEIFORM SIGN NINDA2 TIMES ;DIM GUNU;GISH;GUL;HI;KESH2;LAK-050;MASH;PAP PLUS PAP;U
;U PLUS U;URUDA
1252D;CUNEIFORM SIGN ;SAG GUNU TIMES HA;SAG TIMES EN;SAG TIMES SHE AT LEFT;SAG TIMES TAK4
;SHA6 TENU;SHE OVER SHE;SHE PLUS HUB2;SHE PLUS NAM2;SHE PLUS SAR;SHU2 PLUS DUG TIMES NI
;SHU2 PLUS E2 TIMES AN;SI TIMES TAK4;TAK4 PLUS SAG;TUM TIMES GAN2 TENU;TUM TIMES THREE DISH
;UR2 INVERTED;UR2 TIMES UD;URU TIMES DARA3;URU TIMES LAK-668;URU TIMES LU3;ZA7
;ZU OVER ZU PLUS SAR;ZU5 TIMES THREE DISH TENU
12F90;CYPRO-MINOAN SIGN CM0;01;02;04;05;06;07;08;09;10;11;12;12B;13;15;17;19;21;23;24;25;26;27
;28;29;30;33;34;35;36;37;38;39;40;41;44;46;47;49;50;51;52;53;54;55;56;58;59;60;61;62;63;64;66;67
;68;69;70;71;72;73;74;75;75B;76;78;79;80;81;82;83;84;85;86;87;88;89;90;91;92;94;95;96;97;98;99
12FE5;CYPRO-MINOAN SIGN CM;100;101;102;103;104;105;107;108;109;110;112;114;301;302
13000;EGYPTIAN HIEROGLYPH A0;01;02;03;04;05;05A;06;06A;06B;07;08;09;10;11;12;13;14;14A;15;16;17
;17A;18;19;20;21;22;23;24;25;26;27;28;29;30;31;32;32A;33;34;35;36;37;38;39;40;40A;41;42;42A;43
;43A;44;45;45A;46;47;48;49;50;51;52;53;54;55;56;57;58;59;60;61;62;63;64;65;66;67;68;69;70
13050;EGYPTIAN HIEROGLYPH B00;1;2;3;4;5;5A;6;7;8;9
1305A;EGYPTIAN HIEROGLYPH C0;01;02;02A;02B;02C;03;04;05;06;07;08;09;10;10A;11;12;13;14;15;16;17
;18;19;20;21;22;23;24
13076;EGYPTIAN HIEROGLYPH D0;01;02;03;04;05;06;07;08;08A;09;10;11;12;13;14;15;16;17;18;19;20;21
;22;23;24;25;26;27;27A;28;29;30;31;31A;32;33;34;34A;35;36;37;38;39;40;41;42;43;44;45;46;46A;47
;48;48A;49;50;50A;50B;50C;50D;50E;50F;50G;50H;50I;51;52;52A;53;54;54A;55;56;57;58;59;60;61;62;63
;64;65;66;67;67A;67B;67C;67D;67E;67F;67G;67H
130D2;EGYPTIAN HIEROGLYPH E0;01;02;03;04;05;06;07;08;08A;09;09A;10;11;12;13;14;15;16;16A;17;17A
;18;19;20;20A;21;22;23;24;25;26;27;28;28A;29;30;31;32;33;34;34A;36;37;38
130FE;EGYPTIAN HIEROGLYPH F0;01;01A;02;03;04;05;06;07;08;09;10;11;12;13;13A;14;15;16;17;18;19;20
;21;21A;22;23;24;25;26;27;28;29;30;31;31A;32;33;34;35;36;37;37A;38;38A;39;40;41;42;43;44;45;45A
;46;46A;47;47A;48;49;50;51;51A;51B;51C;52;53
1313F;EGYPTIAN HIEROGLYPH G0;01;02;03;04;05;06;06A;07;07A;07B;08;09;10;11;11A;12;13;14;15;16;17
;18;19;20;20A;21;22;23;24;25;26;26A;27;28;29;30;31;32;33;34;35;36;36A;37;37A;38;39;40;41;42;43
;43A;44;45;45A;46;47;48;49;50;51;52;53;54
1317F;EGYPTIAN HIEROGLYPH H00;1;2;3;4;5;6;6A;7;8
13188;EGYPTIAN HIEROGLYPH I0;01;02;03;04;05;05A;06;07;08;09;09A;10;10A;11;11A;12;13;14;15
1319B;EGYPTIAN HIEROGLYPH K00;1;2;3;4;5;6;7;8
131A3;EGYPTIAN HIEROGLYPH L00;1;2;2A;3;4;5;6;6A;7;8
131AD;EGYPTIAN HIEROGLYPH M0;01;01A;01B;02;03;03A;04;05;06;07;08;09;10;10A;11;12;12A;12B;12C;12D
;12E;12F;12G;12H;13;14;15;15A;16;16A;17;17A;18;19;20;21;22;22A;23;24;24A;25;26;27;28;28A;29;30
;31;31A;32;33;33A;33B;34;35;36;37;38;39;40;40A;41;42;43;44
131EF;EGYPTIAN HIEROGLYPH N0;01;02;03;04;05;06;07;08;09;10;11;12;13;14;15;16;17;18;18A;18B;19;20
;21;22;23;24;25;25A;26;27;28;29;30;31;32;33;33A;34;34A;35;35A;36;37;37A;38;39;40;41;42
13220;EGYPTIAN HIEROGLYPH NL0;01;02;03;04;05;05A;06;07;08;09;10;11;12;13;14;15;16;17;17A;18;19
;20
13236;EGYPTIAN HIEROGLYPH NU0;01;02;03;04;05;06;07;08;09;10;10A;11;11A;12;13;14;15;16;17;18;18A
;19;20;21;22;22A
13250;EGYPTIAN HIEROGLYPH O0;01;01A;02;03;04;05;05A;06;06A;06B;06C;06D;06E;06F;07;08;09;10;10A
;10B;10C;11;12;13;14;15;16;17;18;19;19A;20;20A;21;22;23;24;24A;25;25A;26;27;28;29;29A;30;30A;31
;32;33;33A;34;35;36;36A;36B;36C;36D;37;38;39;40;41;42;43;44;45;46;47;48;49;50;50A;50B;51
1329B;EGYPTIAN HIEROGLYPH P0;01;01A;02;03;03A;04;05;06;07;08;09;10;11
132A8;EGYPTIAN HIEROGLYPH Q00;1;2;3;4;5;6;7
132AF;EGYPTIAN HIEROGLYPH R0;01;02;02A;03;03A;03B;04;05;06;07;08;09;10;10A;11;12;13;14;15;16;16A
;17;18;19;20;21;22;23;24;25;26;27;28;29
132D1;EGYPTIAN HIEROGLYPH S0;01;02;02A;03;04;05;06;06A;07;08;09;10;11;12;13;14;14A;14B;15;16;17
;17A;18;19;20;21;22;23;24;25;26;26A;26B;27;28;29;30;31;32;33;34;35;35A;36;37;38;39;40;41;42;43
;44;45;46
13307;EGYPTIAN HIEROGLYPH T0;01;02;03;03A;04;05;06;07;07A;08;08A;09;09A;10;11;11A;12;13;14;15;16
;16A;17;18;19;20;21;22;23;24;25;26;27;28;29;30;31;32;32A;33;33A;34;35;36
13333;EGYPTIAN HIEROGLYPH U0;01;02;03;04;05;06;06A;06B;07;08;09;10;11;12;13;14;15;16;17;18;19;20
;21;22;23;23A;24;25;26;27;28;29;29A;30;31;32;32A;33;34;35;36;37;38;39;40;41;42
13362;EGYPTIAN HIEROGLYPH V0;01;01A;01B;01C;01D;01E;01F;01G;01H;01I;02;02A;03;04;05;06;07;07A
;07B;08;09;10;11;11A;11B;11C;12;12A;12B;13;14;15;16;17;18;19;20;20A;20B;20C;20D;20E;20F;20G;20H
;20I;20J;20K;20L;21;22;23;23A;24;25;26;27;28;28A;29;29A;30;30A;31;31A;32;33;33A;34;35;36;37;37A
;38;39;40;40A
133AF;EGYPTIAN HIEROGLYPH W0;01;02;03;03A;04;05;06;07;08;09;09A;10;10A;11;12;13;14;14A;15;16;17
;17A;18;18A;19;20;21;22;23;24;24A;25
133CF;EGYPTIAN HIEROGLYPH X00;1;2;3;4;4A;4B;5;6;6A;7;8;8A
133DB;EGYPTIAN HIEROGLYPH Y00;1;1A;2;3;4;5;6;7;8
133E4;EGYPTIAN HIEROGLYPH Z00;1;2;2A;2B;2C;2D;3;3A;3B;4;4A;5;5A;6;7;8;9
133F5;EGYPTIAN HIEROGLYPH Z01;0;1;2;3;4;5;5A;5B;5C;5D;5E;5F;5G;5H;5I;6;6A;6B;6C;6D;6E;6F;6G;6H
1340D;EGYPTIAN HIEROGLYPH AA0;01;02;03;04;05;06;07;07A;07B;08;09;10;11;12;13;14;15;16;17;18;19
;20;21;22;23;24;25;26;27;28;29;30;31;32
13430;EGYPTIAN HIEROGLYPH ;VERTICAL JOINER;HORIZONTAL JOINER;INSERT AT TOP START
;INSERT AT BOTTOM START;INSERT AT TOP END;INSERT AT BOTTOM END;OVERLAY MIDDLE;BEGIN SEGMENT
;END SEGMENT
14400;ANATOLIAN HIEROGLYPH A0;01;02;03;04;05;06;07;08;09;10;10A;11;12;13;14;15;16;17;18;19;20;21
;22;23;24;25;26;26A;27;28;29;30;31;32;33;34;35;36;37;38;39;39A;40;41;41A;42;43;44;45;45A;46;46A
;46B;47;48;49;50;51;52;53;54;55;56;57;58;59;60;61;62;63;64;65;66;66A;66B;66C;67;68;69;70;71;72
;73;74;75;76;77;78;79;80;81;82;83;84;85;86;87;88;89;90;91;92;93;94;95;96;97;97A;98;98A;99
1446F;ANATOLIAN HIEROGLYPH A1;00;00A;01;01A;02;02A;03;04;04A;04B;04C;05;05A;05B;06;07;07A;07B
;07C;08;09;10;10A;10B;11;12;13;14;15;15A;16;17;18;19;20;21;22;23;24;25;25A;26;27;28;29;30;31;32
;33;34;35;35A;36;37;38;39;40;41;42;43;44;45;46;47;48;49;50;51;52;53;54;55;56;57;58;59;60;61;62
;63;64;65;66;67;68;69;70;71;72;73;74;75;76;77;78;79;80;81;82;83;84;85;86;87;88;89;90;91;92;93;94
;95;96;97;98;99
144E3;ANATOLIAN HIEROGLYPH A2;00;01;02;02A;02B;03;04;05;06;07;07A;08;09;09A;10;11;12;13;14;15
;15A;16;16A;17;18;19;20;21;22;23;24;25;26;27;27A;28;29;30;31;32;33;34;35;36;37;38;39;40;41;42;43
;44;45;46;47;48;49;50;51;52;53;54;55;56;57;58;59;60;61;62;63;64;65;66;67;67A;68;69;70;71;72;73
;74;75;76;77;78;79;80;81;82;83;84;85;86;87;88;89;89A;90;91;92;93;94;94A;95;96;97;98;99;99A
14552;ANATOLIAN HIEROGLYPH A3;00;01;02;03;04;05;06;07;08;09;09A;10;11;12;13;14;15;16;17;18;19;20
;21;22;23;24;25;26;27;28;29;29A;30;31;32A;32B;32C;33;34;35;36;36A;36B;36C;37;38;39;40;41;42;43
;44;45;46;47;48;49;50;51;52;53;54;55;56;57;58;59;59A;60;61;62;63;64;64A;65;66;67;68;68A;69;70;71
;71A;72;73;74;75;76;77;78;79;80;81;81A;82;83 RA OR RI;83A;84;85;86;86A;87;88;89;90;91;92
;93 EIGHT;94;95;96;97;98;99
145C4;ANATOLIAN HIEROGLYPH A4;00;01;02;03;04;05;06;07;08;09;10 BEGIN LOGOGRAM MARK
;10A END LOGOGRAM MARK;11;12;13;14;15;16;17;18;19;20;21;22;23;24;25;26;27;28;29;30;31;32;33;34
;35;36;37;38;39;40;41;42;43;44;45;46;47;48;49;50;50A;51;52;53;54;55;56;57;57A;58;59;60;61;62;63
;64;65;66;67;68;69;70;71;72;73;74;75;76;77;78;79;80;81;82;83;84;85;86;87;88;89;90;91;92;93;94;95
;96;97
14629;ANATOLIAN HIEROGLYPH A5;01;02;03;04;05;06;07;08;09;10;11;12;13;14;15;16;17;18;19;20;21;22
;23;24;25;26;27;28;29;30
16800;BAMUM LETTER PHASE-A ;NGKUE MFON;GBIEE FON;PON MFON PIPAEMGBIEE;PON MFON PIPAEMBA;NAA MFON
;SHUENSHUET;TITA MFON;NZA MFON;SHINDA PA NJI;PON PA NJI PIPAEMGBIEE;PON PA NJI PIPAEMBA
;MAEMBGBIEE;TU MAEMBA;NGANGU;MAEMVEUX;MANSUAE;MVEUAENGAM;SEUNYAM;NTOQPEN;KEUKEUTNDA;NKINDI;SUU
;NGKUENZEUM;LAPAQ;LET KUT;NTAP MFAA;MAEKEUP;PASHAE;GHEUAERAE;PAMSHAE;MON NGGEUAET;NZUN MEUT
;U YUQ NAE;GHEUAEGHEUAE;NTAP NTAA;SISA;MGBASA;MEUNJOMNDEUQ;MOOMPUQ;KAFA;PA LEERAEWA;NDA LEERAEWA
;PET;MAEMKPEN;NIKA;PUP;TUAEP;LUAEP;SONJAM;TEUTEUWEN;MAENYI;KET;NDAANGGEUAET;KUOQ;MOOMEUT;SHUM
;LOMMAE;FIRI;ROM;KPOQ;SOQ;MAP PIEET;SHIRAE;NTAP;SHOQ NSHUT YUM;NYIT MONGKEUAEQ;PAARAE;NKAARAE
;UNKNOWN;NGGEN;MAESI;NJAM;MBANYI;NYET;TEUAEN;SOT;PAAM;NSHIEE;MAEM;NYI;KAQ;NSHA;VEE;LU;NEN;NAQ
;MBAQ
16857;BAMUM LETTER PHASE-B ;NSHUET;TU MAEMGBIEE;SIEE;SET TU;LOM NTEUM;MBA MAELEE;KIEEM;YEURAE
;MBAARAE;KAM;PEESHI;YAFU LEERAEWA;LAM NSHUT NYAM;NTIEE SHEUOQ;NDU NJAA;GHEUGHEUAEM;PIT;TU NSIEE
;SHET NJAQ;SHEUAEQTU;MFON TEUAEQ;MBIT MBAAKET;NYI NTEUM;KEUPUQ;GHEUGHEN;KEUYEUX;LAANAE;PARUM
;VEUM;NGKINDI MVOP;NGGEU MBU;WUAET;SAKEUAE;TAAM;MEUQ;NGGUOQ;NGGUOQ LARGE;MFIYAQ;SUE;MBEURI
;MONTIEEN;NYAEMAE;PUNGAAM;MEUT NGGEET;FEUX;MBUOQ;FEE;KEUAEM;MA NJEUAENA;MA NJUQA;LET;NGGAAM;NSEN
;MA;KIQ;NGOM
1688F;BAMUM LETTER PHASE-C ;NGKUE MAEMBA;NZA;YUM;WANGKUOQ;NGGEN;NDEUAEREE;NGKAQ;GHARAE;MBEEKEET
;GBAYI;NYIR MKPARAQ MEUN;NTU MBIT;MBEUM;PIRIEEN;NDOMBU;MBAA CABBAGE-TREE;KEUSHEUAEP;GHAP;KEUKAQ
;YU MUOMAE;NZEUM;MBUE;NSEUAEN;MBIT;YEUQ;KPARAQ;KAA;SEUX;NDIDA;TAASHAE;NJUEQ;TITA YUE;SUAET
;NGGUAEN NYAM;VEUX;NANSANAQ;MA KEUAERI;NTAA;NGGUON;LAP;MBIRIEEN;MGBASAQ;NTEUNGBA;TEUTEUX;NGGUM
;FUE;NDEUT;NSA;NSHAQ;BUNG;VEUAEPEN;MBERAE;RU;NJAEM;LAM;TITUAEP;NSUOT NGOM;NJEEEE;KET;NGGU;MAESI
;MBUAEM;LU;KUT;NJAM;NGOM;WUP;NGGUEET;NSOM;NTEN;KUOP NKAARAE;NSUN;NDAM;MA NSIEE;YAA;NDAP;SHUEQ
;SETFON;MBI;MAEMBA;MBANYI;KEUSEUX;MBEUX;KEUM;MBAA PICKET;YUWOQ;NJEUX;MIEE;MUAE;SHIQ;KEN LAW
;KEN FATIGUE;NGAQ;NAQ;LIQ;PIN;PEN;TET
168F1;BAMUM LETTER PHASE-D ;MBUO;WAP;NJI;MFON;NJIEE;LIEE;NJEUT;NSHEE;NGGAAMAE;NYAM;WUAEN;NGKUN
;SHEE;NGKAP;KEUAETMEUN;TEUT;SHEUAE;NJAP;SUE;KET;YAEMMAE;KUOM;SAP;MFEUT;NDEUX;MALEERI;MEUT;SEUAEQ
;YEN;NJEUAEM;KEUOT MBUAE;NGKEURI;TU;GHAA;NGKYEE;FEUFEUAET;NDEE;MGBOFUM;LEUAEP;NDON;MONI;MGBEUN
;PUUT;MGBIEE;MFO;LUM;NSIEEP;MBAA;KWAET;NYET;TEUAEN;SOT;YUWOQ;KEUM;RAEM;TEEEE;NGKEUAEQ;MFEUAE
;NSIEET;KEUP;PIP;PEUTAE;NYUE;LET;NGGAAM;MFIEE;NGGWAEN;YUOM;PAP;YUOP;NDAM;NTEUM;SUAE;KUN;NGGEUX
;NGKIEE;TUOT;MEUN;KUQ;NSUM;TEUN;MAENJET;NGGAP;LEUM;NGGUOM;NSHUT;NJUEQ;GHEUAE;KU;REN OLD;TAE;TOQ
;NYI;RII;LEEEE;MEEEE;M;SUU;MU;SHII;SHEUX;KYEE;NU;SHU;NTEE;PEE;NI;SHOQ;PUQ;MVOP;LOQ;REN MUCH;TI
;NTUU;MBAA SEVEN;SAQ;FAA
16966;BAMUM LETTER PHASE-E ;NDAP;TOON;MBEUM;LAP;VOM;LOON;PAA;SOM;RAQ;NSHUOP;NDUN;PUAE;TAM;NGKA
;KPEUX;WUO;SEE;NGGEUAET;PAAM;TOO;KUOP;LOM;NSHIEE;NGOP;MAEM;NGKEUX;NGOQ;NSHUE;RIMGBA;NJEUX;PEEM
;SAA;NGGURAE;MGBA;GHEUX;NGKEUAEM;NJAEMLI;MAP;LOOT;NGGEEEE;NDIQ;TAEN NTEUM;SET;PUM;NDAA SOFTNESS
;NGGUAESHAE NYAM;YIEE;GHEUN;TUAE;YEUAE;PO;TUMAE;KEUAE;SUAEN;TEUAEQ;VEUAE;WEUX;LAAM;PU;TAAQ
;GHAAMAE;NGEUREUT;SHEUAEQ;MGBEN;MBEE;NZAQ;NKOM;GBET;TUM;KUET;YAP;NYI CLEAVER;YIT;MFEUQ;NDIAQ
;PIEEQ;YUEQ;LEUAEM;FUE;GBEUX;NGKUP;KET;MAE;NGKAAMI;GHET;FA;NTUM;PEUT;YEUM;NGGEUAE;NYI BETWEEN
;NZUQ;POON;MIEE;FUET;NAE;MUAE;GHEUAE;FU I;MVI;PUAQ;NGKUM;KUT;PIET;NTAP;YEUAET;NGGUP;PA PEOPLE
;FU CALL;FOM;NJEE;A;TOQ;O;I;LAQ;PA PLURAL;TAA;TAQ;NDAA MY HOUSE;SHIQ;YEUX;NGUAE;YUAEN
;YOQ SWIMMING;YOQ COVER;YUQ;YUN;KEUX;PEUX;NJEE EPOCH;PUE;WUE;FEE;VEE;LU;MI;REUX;RAE;NGUAET;NGA
;SHO;SHOQ;FU REMEDY;NA;PI;LOQ;KO;MEN;MA;MAQ;TEU;KI;MON;TEN;FAQ;GHOM
16A03;BAMUM LETTER PHASE-F ;KA;U;KU;EE;REE;TAE;NYI;LA;RII;RIEE;MEEEE;TAA;NDAA;NJAEM;M;SUU;SHII
;SI;SEUX;KYEE;KET;NUAE;NU;NJUAE;YOQ;SHU;YA;NSHA;PEUX;NTEE;WUE;PEE;RU;NI;REUX;KEN;NGKWAEN;NGGA
;SHO;PUAE;FOM;WA;LI;LOQ;KO;MBEN;REN;MA;MO;MBAA;TET;KPA;SAMBA;VUEQ
16A40;MRO LETTER ;TA;NGI;YO;MIM;BA;DA;A;PHI;KHAI;HAO;DAI;CHU;KEAAE;OL;MAEM;NIN;PA;OO;O;RO;SHI
;THEA;EA;WA;E;KO;LAN;LA;HAI;RI;TEK
16A60;MRO DIGIT ;ZERO;ONE;TWO;THREE;FOUR;FIVE;SIX;SEVEN;EIGHT;NINE
16A6E;MRO D;ANDA;OUBLE DANDA
16A70;TANGSA LETTER ;OZ;OC;OQ;OX;AZ;AC;AQ;AX;VZ;VC;VQ;VX;EZ;EC;EQ;EX;IZ;IC;IQ;IX;UZ;UC;UQ;UX;AWZ
;AWC;AWQ;AWX;UIZ;UIC;UIQ;UIX;FINAL NG;LONG UEX;SHORT UEZ;SHORT AWX;UEC;UEZ;UEQ;UEX;UIUZ;UIUC
;UIUQ;UIUX;MZ;MC;MQ;MX;KA;KHA;GA;NGA;SA;YA;WA;PA;NYA;PHA;BA;MA;NA;HA;LA;HTA;TA;DA;RA;NHA;SHA;CA
;TSA;GHA;HTTA;THA;XA;FA;DHA;CHA;ZA
16AC0;TANGSA DIGIT ;ZERO;ONE;TWO;THREE;FOUR;FIVE;SIX;SEVEN;EIGHT;NINE
16AD0;BASSA VAH LETTER ;ENNI;KA;SE;FA;MBE;YIE;GAH;DHII;KPAH;JO;HWAH;WA;ZO;GBU;DO;CE;UWU;TO;BA;VU
;YEIN;PA;WADDA;A;O;OO;U;EE;E;I
16AF0;BASSA VAH COMBINING ;HIGH TONE;LOW TONE;MID TONE;LOW-MID TONE;HIGH-LOW TONE
16AF5;BASSA VAH FULL STOP;
16B00;PAHAWH HMONG VOWEL K;EEB;EEV;IB;IV;AUB;AUV;UB;UV;EB;EV;AIB;AIV;OOB;OOV;AWB;AWV;UAB;UAV;OB
;OV;IAB;IAV;AB;AV;WB;WV;AAB;AAV
16B1C;PAHAWH HMONG CONSONANT ;VAU;NTSAU;LAU;HAU;NLAU;RAU;NKAU;QHAU;YAU;HLAU;MAU;CHAU;NCHAU;HNAU
;PLHAU;NTHAU;NAU;AU;XAU;CAU
16B30;PAHAWH HMONG MARK CIM ;TUB;SO;KES;KHAV;SUAM;HOM;TAUM
16B37;PAHAWH HMONG SIGN ;VOS THOM;VOS TSHAB CEEB;CIM CHEEM;VOS THIAB;VOS FEEM;XYEEM NTXIV
;XYEEM RHO;XYEEM TOV;XYEEM FAIB;VOS SEEV;MEEJ SUAB;VOS NRUA;IB YAM;XAUS;CIM TSOV ROG
16B50;PAHAWH HMONG DIGIT ;ZERO;ONE;TWO;THREE;FOUR;FIVE;SIX;SEVEN;EIGHT;NINE
16B5B;PAHAWH HMONG NUMBER ;TENS;HUNDREDS;TEN THOUSANDS;MILLIONS;HUNDRED MILLIONS;TEN BILLIONS
;TRILLIONS
16B63;PAHAWH HMONG SIGN ;VOS LUB;XYOO;HLI;THIRD-STAGE HLI;ZWJ THAJ;HNUB;NQIG;XIAB;NTUJ;AV
;TXHEEJ CEEV;MEEJ TSEEB;TAU;LOS;MUS;CIM HAIS LUS NTOG NTOG;CIM CUAM TSHOOJ;CIM TXWV
;CIM TXWV CHWV;CIM PUB DAWB;CIM NRES TOS
16B7D;PAHAWH HMONG CLAN SIGN ;TSHEEJ;YEEG;LIS;LAUJ;XYOOJ;KOO;HAWJ;MUAS;THOJ;TSAB;PHAB;KHAB;HAM
;VAJ;FAJ;YAJ;TSWB;KWM;VWJ
16E40;MEDEFAIDRIN CAPITAL LETTER ;M;S;V;W;ATIU;Z;KP;P;T;G;F;I;K;A;J;E;B;C;U;YU;L;Q;HP;NY;X;D;OE
;N;R;O;AI;Y
16E60;MEDEFAIDRIN SMALL LETTER ;M;S;V;W;ATIU;Z;KP;P;T;G;F;I;K;A;J;E;B;C;U;YU;L;Q;HP;NY;X;D;OE;N
;R;O;AI;Y
16E80;MEDEFAIDRIN DIGIT ;ZERO;ONE;TWO;THREE;FOUR;FIVE;SIX;SEVEN;EIGHT;NINE
16E8A;MEDEFAIDRIN NUMBER ;TEN;ELEVEN;TWELVE;THIRTEEN;FOURTEEN;FIFTEEN;SIXTEEN;SEVENTEEN;EIGHTEEN
;NINETEEN
16E94;MEDEFAIDRIN ;DIGIT ONE ALTERNATE FORM;DIGIT TWO ALTERNATE FORM;DIGIT THREE ALTERNATE FORM
;COMMA;FULL STOP;SYMBOL AIVA;EXCLAMATION OH
16F00;MIAO LETTER ;PA;BA;YI PA;PLA;MA;MHA;ARCHAIC MA;FA;VA;VFA;TA;DA;YI TTA;YI TA;TTA;DDA;NA;NHA
;YI NNA;ARCHAIC NA;NNA;NNHA;LA;LYA;LHA;LHYA;TLHA;DLHA;TLHYA;DLHYA;KA;GA;YI KA;QA;QGA;NGA;NGHA
;ARCHAIC NGA;HA;XA;GHA;GHHA;TSSA;DZZA;NYA;NYHA;TSHA;DZHA;YI TSHA;YI DZHA;REFORMED TSHA;SHA;SSA
;ZHA;ZSHA;TSA;DZA;YI TSA;SA;ZA;ZSA;ZZA;ZZSA;ARCHAIC ZZA;ZZYA;ZZSYA;WA;AH;HHA;BRI;SYI;DZYI;TE;TSE
;RTE
16F4F;MIAO ;SIGN CONSONANT MODIFIER BAR;LETTER NASALIZATION;SIGN ASPIRATION
16F52;MIAO SIGN REFORMED ;VOICING;ASPIRATION
16F54;MIAO VOWEL SIGN ;A;AA;AHH;AN;ANG;O;OO;WO;W;E;EN;ENG;OEY;I;IA;IAN;IANG;IO;IE;II;IU;ING;U;UA
;UAN;UANG;UU;UEI;UNG;Y;YI;AE;AEE;ERR;ROUNDED ERR;ER;ROUNDED ER;AI;EI;AU;OU;N;NG;UOG;YUI;OG;OER
;VW;IG;EA;IONG;UI
16F8F;MIAO TONE ;RIGHT;TOP RIGHT;ABOVE;BELOW
16F93;MIAO LETTER TONE-;2;3;4;5;6;7;8
16F9A;MIAO LETTER REFORMED TONE-;1;2;4;5;6;8
16FE0;;TANGUT ITERATION MARK;NUSHU ITERATION MARK;OLD CHINESE HOOK MARK
;OLD CHINESE ITERATION MARK;KHITAN SMALL SCRIPT FILLER
16FF0;VIETNAMESE ALTERNATE READING MARK ;CA;NHAY
18800;TANGUT COMPONENT-0;01;02;03;04;05;06;07;08;09;10;11;12;13;14;15;16;17;18;19;20;21;22;23;24
;25;26;27;28;29;30;31;32;33;34;35;36;37;38;39;40;41;42;43;44;45;46;47;48;49;50;51;52;53;54;55;56
;57;58;59;60;61;62;63;64;65;66;67;68;69;70;71;72;73;74;75;76;77;78;79;80;81;82;83;84;85;86;87;88
;89;90;91;92;93;94;95;96;97;98;99
18863;TANGUT COMPONENT-1;00;01;02;03;04;05;06;07;08;09;10;11;12;13;14;15;16;17;18;19;20;21;22;23
;24;25;26;27;28;29;30;31;32;33;34;35;36;37;38;39;40;41;42;43;44;45;46;47;48;49;50;51;52;53;54;55
;56;57;58;59;60;61;62;63;64;65;66;67;68;69;70;71;72;73;74;75;76;77;78;79;80;81;82;83;84;85;86;87
;88;89;90;91;92;93;94;95;96;97;98;99
188C7;TANGUT COMPONENT-2;00;01;02;03;04;05;06;07;08;09;10;11;12;13;14;15;16;17;18;19;20;21;22;23
;24;25;26;27;28;29;30;31;32;33;34;35;36;37;38;39;40;41;42;43;44;45;46;47;48;49;50;51;52;53;54;55
;56;57;58;59;60;61;62;63;64;65;66;67;68;69;70;71;72;73;74;75;76;77;78;79;80;81;82;83;84;85;86;87
;88;89;90;91;92;93;94;95;96;97;98;99
1892B;TANGUT COMPONENT-3;00;01;02;03;04;05;06;07;08;09;10;11;12;13;14;15;16;17;18;19;20;21;22;23
;24;25;26;27;28;29;30;31;32;33;34;35;36;37;38;39;40;41;42;43;44;45;46;47;48;49;50;51;52;53;54;55
;56;57;58;59;60;61;62;63;64;65;66;67;68;69;70;71;72;73;74;75;76;77;78;79;80;81;82;83;84;85;86;87
;88;89;90;91;92;93;94;95;96;97;98;99
1898F;TANGUT COMPONENT-4;00;01;02;03;04;05;06;07;08;09;10;11;12;13;14;15;16;17;18;19;20;21;22;23
;24;25;26;27;28;29;30;31;32;33;34;35;36;37;38;39;40;41;42;43;44;45;46;47;48;49;50;51;52;53;54;55
;56;57;58;59;60;61;62;63;64;65;66;67;68;69;70;71;72;73;74;75;76;77;78;79;80;81;82;83;84;85;86;87
;88;89;90;91;92;93;94;95;96;97;98;99
189F3;TANGUT COMPONENT-5;00;01;02;03;04;05;06;07;08;09;10;11;12;13;14;15;16;17;18;19;20;21;22;23
;24;25;26;27;28;29;30;31;32;33;34;35;36;37;38;39;40;41;42;43;44;45;46;47;48;49;50;51;52;53;54;55
;56;57;58;59;60;61;62;63;64;65;66;67;68;69;70;71;72;73;74;75;76;77;78;79;80;81;82;83;84;85;86;87
;88;89;90;91;92;93;94;95;96;97;98;99
18A57;TANGUT COMPONENT-6;00;01;02;03;04;05;06;07;08;09;10;11;12;13;14;15;16;17;18;19;20;21;22;23
;24;25;26;27;28;29;30;31;32;33;34;35;36;37;38;39;40;41;42;43;44;45;46;47;48;49;50;51;52;53;54;55
;56;57;58;59;60;61;62;63;64;65;66;67;68;69;70;71;72;73;74;75;76;77;78;79;80;81;82;83;84;85;86;87
;88;89;90;91;92;93;94;95;96;97;98;99
18ABB;TANGUT COMPONENT-7;00;01;02;03;04;05;06;07;08;09;10;11;12;13;14;15;16;17;18;19;20;21;22;23
;24;25;26;27;28;29;30;31;32;33;34;35;36;37;38;39;40;41;42;43;44;45;46;47;48;49;50;51;52;53;54;55
;56;57;58;59;60;61;62;63;64;65;66;67;68
1AFF0;KATAKANA LETTER MINNAN TONE-;2;3;4;5
1AFF5;KATAKANA LETTER MINNAN TONE-;7;8
1AFF7;KATAKANA LETTER MINNAN NASALIZED TONE-;1;2;3;4;5
1AFFD;KATAKANA LETTER MINNAN NASALIZED TONE-;7;8
1B000;;KATAKANA LETTER ARCHAIC E;HIRAGANA LETTER ARCHAIC YE
1B002;HENTAIGANA LETTER ;A-1;A-2;A-3;A-WO;I-1;I-2;I-3;I-4;U-1;U-2;U-3;U-4;U-5;E-2;E-3;E-4;E-5
;E-6;O-1;O-2;O-3
1B017;HENTAIGANA LETTER K;A-1;A-2;A-3;A-4;A-5;A-6;A-7;A-8;A-9;A-10;A-11;A-KE;I-1;I-2;I-3;I-4;I-5
;I-6;I-7;I-8;U-1;U-2;U-3;U-4;U-5;U-6;U-7;E-1;E-2;E-3;E-4;E-5;E-6;O-1;O-2;O-3;O-KI
1B03C;HENTAIGANA LETTER S;A-1;A-2;A-3;A-4;A-5;A-6;A-7;A-8;I-1;I-2;I-3;I-4;I-5;I-6;U-1;U-2;U-3
;U-4;U-5;U-6;U-7;U-8;E-1;E-2;E-3;E-4;E-5;O-1;O-2;O-3;O-4;O-5;O-6;O-7
1B05E;HENTAIGANA LETTER T;A-1;A-2;A-3;A-4;I-1;I-2;I-3;I-4;I-5;I-6;I-7;U-1;U-2;U-3;U-4;U-TO;E-1
;E-2;E-3;E-4;E-5;E-6;E-7;E-8;E-9;O-1;O-2;O-3;O-4;O-5;O-6;O-RA
1B07E;HENTAIGANA LETTER N;A-1;A-2;A-3;A-4;A-5;A-6;A-7;A-8;A-9;I-1;I-2;I-3;I-4;I-5;I-6;I-7;I-TE
;U-1;U-2;U-3;E-1;E-2;E-3;E-4;E-5;E-6;E-KO;O-1;O-2;O-3;O-4;O-5
1B09E;HENTAIGANA LETTER H;A-1;A-2;A-3;A-4;A-5;A-6;A-7;A-8;A-9;A-10;A-11;I-1;I-2;I-3;I-4;I-5;I-6
;I-7;U-1;U-2;U-3;E-1;E-2;E-3;E-4;E-5;E-6;E-7;O-1;O-2;O-3;O-4;O-5;O-6;O-7;O-8
1B0C2;HENTAIGANA LETTER M;A-1;A-2;A-3;A-4;A-5;A-6;A-7;I-1;I-2;I-3;I-4;I-5;I-6;I-7;U-1;U-2;U-3
;U-4;E-1;E-2;E-MA;O-1;O-2;O-3;O-4;O-5;O-6
1B0DD;HENTAIGANA LETTER ;YA-1;YA-2;YA-3;YA-4;YA-5;YA-YO;YU-1;YU-2;YU-3;YU-4;YO-1;YO-2;YO-3;YO-4
;YO-5;YO-6;RA-1;RA-2;RA-3;RA-4;RI-1;RI-2;RI-3;RI-4;RI-5;RI-6;RI-7;RU-1;RU-2;RU-3;RU-4;RU-5;RU-6
;RE-1;RE-2;RE-3;RE-4;RO-1;RO-2;RO-3;RO-4;RO-5;RO-6;WA-1;WA-2;WA-3;WA-4;WA-5;WI-1;WI-2;WI-3;WI-4
;WI-5;WE-1;WE-2;WE-3;WE-4;WO-1;WO-2;WO-3;WO-4;WO-5;WO-6;WO-7;N-MU-MO-1;N-MU-MO-2
1B11F;HIRAGANA LETTER ARCHAIC WU;
1B120;KATAKANA LETTER ARCHAIC ;YI;YE;WU
1B150;HIRAGANA LETTER SMALL W;I;E;O
1B164;KATAKANA LETTER SMALL ;WI;WE;WO;N
1BC00;DUPLOYAN LETTER ;H;X;P;T;F;K;L;B;D;V;G;R;P N;D S;F N;K M;R S;TH;SLOAN DH;DH;KK;SLOAN J;HL
;LH;RH;M;N;J;S;M N;N M;J M;S J;M WITH DOT;N WITH DOT;J WITH DOT;J WITH DOTS INSIDE AND ABOVE
;S WITH DOT;S WITH DOT BELOW;M S;N S;J S;S S;M N S;N M S;J M S;S J S;J S WITH DOT;J N;J N S;S T
;S T R;S P;S P R;T S;T R S;W;WH;W R;S N;S M;K R S;G R S;S K;S K R;A;SLOAN OW;OA;O;AOU;I;E;IE
;SHORT I;UI;EE;SLOAN EH;ROMANIAN I;SLOAN EE;LONG I;YE;U;EU;XW;U N;LONG U;ROMANIAN U;UH;SLOAN U
;OOH;OW;OU;WA;WO;WI;WEI;WOW;NASAL U;NASAL O;NASAL I;NASAL A;PERNIN AN;PERNIN AM;SLOAN EN
;SLOAN AN;SLOAN ON;VOCALIC M
1BC70;DUPLOYAN AFFIX ;LEFT HORIZONTAL SECANT;MID HORIZONTAL SECANT;RIGHT HORIZONTAL SECANT
;LOW VERTICAL SECANT;MID VERTICAL SECANT;HIGH VERTICAL SECANT
1BC76;DUPLOYAN AFFIX ATTACHED ;SECANT;LEFT-TO-RIGHT SECANT;TANGENT;TAIL;E HOOK;I HOOK
;TANGENT HOOK
1BC80;DUPLOYAN AFFIX HIGH ;ACUTE;TIGHT ACUTE;GRAVE;LONG GRAVE;DOT;CIRCLE;LINE;WAVE;VERTICAL
1BC90;DUPLOYAN AFFIX LOW ;ACUTE;TIGHT ACUTE;GRAVE;LONG GRAVE;DOT;CIRCLE;LINE;WAVE;VERTICAL;ARROW
1BC9C;DUPLOYAN ;SIGN O WITH CROSS;THICK LETTER SELECTOR;DOUBLE MARK
;PUNCTUATION CHINOOK FULL STOP
1BCA0;SHORTHAND FORMAT ;LETTER OVERLAP;CONTINUING OVERLAP;DOWN STEP;UP STEP
1CF00;ZNAMENNY COMBINING MARK ;GORAZDO NIZKO S KRYZHEM ON LEFT;NIZKO S KRYZHEM ON LEFT
;TSATA ON LEFT;GORAZDO NIZKO ON LEFT;NIZKO ON LEFT;SREDNE ON LEFT;MALO POVYSHE ON LEFT
;POVYSHE ON LEFT;VYSOKO ON LEFT;MALO POVYSHE S KHOKHLOM ON LEFT;POVYSHE S KHOKHLOM ON LEFT
;VYSOKO S KHOKHLOM ON LEFT;GORAZDO NIZKO S KRYZHEM ON RIGHT;NIZKO S KRYZHEM ON RIGHT
;TSATA ON RIGHT;GORAZDO NIZKO ON RIGHT;NIZKO ON RIGHT;SREDNE ON RIGHT;MALO POVYSHE ON RIGHT
;POVYSHE ON RIGHT;VYSOKO ON RIGHT;MALO POVYSHE S KHOKHLOM ON RIGHT;POVYSHE S KHOKHLOM ON RIGHT
;VYSOKO S KHOKHLOM ON RIGHT;TSATA S KRYZHEM;MALO POVYSHE S KRYZHEM;STRANNO MALO POVYSHE
;POVYSHE S KRYZHEM;POVYSHE STRANNO;VYSOKO S KRYZHEM;MALO POVYSHE STRANNO;GORAZDO VYSOKO;ZELO;ON
;RAVNO;TIKHAYA;BORZAYA;UDARKA;PODVERTKA;LOMKA;KUPNAYA;KACHKA;ZEVOK;SKOBA;RAZSEKA;KRYZH ON LEFT
1CF30;ZNAMENNY COMBINING TONAL RANGE MARK ;MRACHNO;SVETLO;TRESVETLO
1CF33;ZNAMENNY COMBINING MARK ;ZADERZHKA;DEMESTVENNY ZADERZHKA;OTSECHKA;PODCHASHIE
;PODCHASHIE WITH VERTICAL STROKE;CHASHKA;CHASHKA POLNAYA;OBLACHKO;SOROCHYA NOZHKA;TOCHKA
;DVOETOCHIE
1CF3E;ZNAMENNY COMBINING ;ATTACHING VERTICAL OMET;MARK CURVED OMET;MARK KRYZH
;LOWER TONAL RANGE INDICATOR
1CF42;ZNAMENNY PRIZNAK MODIFIER ;LEVEL-2;LEVEL-3;DIRECTION FLIP;KRYZH;ROG
1CF50;ZNAMENNY NEUME ;KRYUK;KRYUK TIKHY;PARAKLIT;DVA V CHELNU;KLYUCH;ZANOZHEK;STOPITSA
;STOPITSA S OCHKOM;PEREVODKA;PEREVODKA NEPOSTOYANNAYA;STOPITSA WITH SOROCHYA NOZHKA;CHELYUSTKA
;PALKA;ZAPYATAYA
1CF5E;ZNAMENNY NEUME GOLUBCHIK ;BORZY;TIKHY;MRACHNY;SVETLY;TRESVETLY
1CF63;ZNAMENNY NEUME VRAKHIYA ;PROSTAYA;MRACHNAYA;SVETLAYA;TRESVETLAYA
1CF67;ZNAMENNY NEUME VRAKHIYA KLYUCHEVAYA ;PROSTAYA;MRACHNAYA;SVETLAYA;TRESVETLAYA
1CF6B;ZNAMENNY NEUME ;DOUBLE ZAPYATAYA;REVERSED CHELYUSTKA;DERBITSA;KHAMILO;CHASHKA;PODCHASHIE
;SKAMEYTSA MRACHNAYA;SKAMEYTSA SVETLAYA;SKAMEYTSA TRESVETLAYA;SKAMEYTSA TIKHAYA
;DEMESTVENNY KLYUCH
1CF76;ZNAMENNY NEUME SKAMEYTSA KLYUCHE;VAYA SVETLAYA;NEPOSTOYANNAYA;VAYA TIKHAYA
1CF79;ZNAMENNY NEUME SKAMEYTSA DVOECHELNAYA ;PROSTAYA;SVETLAYA;NEPOSTOYANNAYA;KLYUCHEVAYA
1CF7D;ZNAMENNY NEUME SLOZHITIE;; S ZAPYATOY; ZAKRYTOE; S KRYZHEM
1CF81;ZNAMENNY NEUME ;KRYZH;ROG;FITA;KOBYLA;ZMEYTSA;STATYA
1CF87;ZNAMENNY NEUME STATYA ;S ZAPYATOY;S KRYZHEM;S ZAPYATOY I KRYZHEM;S KRYZHEM I ZAPYATOY
;ZAKRYTAYA;ZAKRYTAYA S ZAPYATOY;S ROGOM;S DVUMYA ZAPYATYMI;S ZAPYATOY I PODCHASHIEM
1CF90;ZNAMENNY NEUME ;POLKULIZMY;STATYA NEPOSTOYANNAYA
1CF92;ZNAMENNY NEUME STRELA ;PROSTAYA;MRACHNOTIKHAYA;KRYZHEVAYA;POLUPOVODNAYA;POVODNAYA
;NEPOSTOYANNAYA;KLYUCHEPOVODNAYA;KLYUCHENEPOSTOYANNAYA;TIKHAYA PUTNAYA
1CF9B;ZNAMENNY NEUME STRELA DVOECHELN;AYA;OKRYZHEVAYA;OPOVODNAYA;AYA KLYUCHEVAYA
;OPOVODNAYA KLYUCHEVAYA
1CFA0;ZNAMENNY NEUME STRELA GROM;NAYA WITH SINGLE ZAPYATAYA;OPOVODNAYA WITH SINGLE ZAPYATAYA
;NAYA;OPOVODNAYA;OPOVODNAYA WITH DOUBLE ZAPYATAYA;OKRYZHEVAYA;OKRYZHEVAYA POVODNAYA
1CFA7;ZNAMENNY NEUME MECHIK;; POVODNY; KLYUCHEVOY; KLYUCHEPOVODNY; KLYUCHENEPOSTOYANNY
1CFAC;ZNAMENNY NEUME STRELA TRYASO;GLASNAYA;POVODNAYA;STRELNAYA
1CFAF;ZNAMENNY NEUME OSOKA;; SVETLAYA; TRESVETLAYA; KRYUKOVAYA SVETLAYA; KLYUCHEVAYA SVETLAYA
; KLYUCHEVAYA NEPOSTOYANNAYA
1CFB5;ZNAMENNY NEUME STRELA KRYUKOVAYA;; POVODNAYA; GROMNAYA WITH SINGLE ZAPYATAYA
; GROMOPOVODNAYA WITH SINGLE ZAPYATAYA; GROMNAYA; GROMOPOVODNAYA
; GROMOPOVODNAYA WITH DOUBLE ZAPYATAYA; GROMOKRYZHEVAYA; GROMOKRYZHEVAYA POVODNAYA; TRYASKA
1CFBF;ZNAMENNY NEUME ;KUFISMA;OBLAKO;DUDA;NEMKA;PAUK
1D000;BYZANTINE MUSICAL SYMBOL ;PSILI;DASEIA;PERISPOMENI;OXEIA EKFONITIKON;OXEIA DIPLI
;VAREIA EKFONITIKON;VAREIA DIPLI;KATHISTI;SYRMATIKI;PARAKLITIKI;YPOKRISIS;YPOKRISIS DIPLI
;KREMASTI;APESO EKFONITIKON;EXO EKFONITIKON;TELEIA;KENTIMATA;APOSTROFOS;APOSTROFOS DIPLI;SYNEVMA
;THITA;OLIGON ARCHAION;GORGON ARCHAION;PSILON;CHAMILON;VATHY;ISON ARCHAION;KENTIMA ARCHAION
;KENTIMATA ARCHAION;SAXIMATA;PARICHON;STAVROS APODEXIA;OXEIAI ARCHAION;VAREIAI ARCHAION
;APODERMA ARCHAION;APOTHEMA;KLASMA;REVMA;PIASMA ARCHAION;TINAGMA;ANATRICHISMA;SEISMA
;SYNAGMA ARCHAION;SYNAGMA META STAVROU;OYRANISMA ARCHAION;THEMA;LEMOI;DYO;TRIA;TESSERA;KRATIMATA
;APESO EXO NEO;FTHORA ARCHAION;IMIFTHORA;TROMIKON ARCHAION;KATAVA TROMIKON;PELASTON;PSIFISTON
;KONTEVMA;CHOREVMA ARCHAION;RAPISMA;PARAKALESMA ARCHAION;PARAKLITIKI ARCHAION;ICHADIN;NANA
;PETASMA;KONTEVMA ALLO;TROMIKON ALLO;STRAGGISMATA;GRONTHISMATA;ISON NEO;OLIGON NEO;OXEIA NEO
;PETASTI;KOUFISMA;PETASTOKOUFISMA;KRATIMOKOUFISMA;PELASTON NEO;KENTIMATA NEO ANO;KENTIMA NEO ANO
;YPSILI;APOSTROFOS NEO;APOSTROFOI SYNDESMOS NEO;YPORROI;KRATIMOYPORROON;ELAFRON;CHAMILI
;MIKRON ISON;VAREIA NEO;PIASMA NEO;PSIFISTON NEO;OMALON;ANTIKENOMA;LYGISMA;PARAKLITIKI NEO
;PARAKALESMA NEO;ETERON PARAKALESMA;KYLISMA;ANTIKENOKYLISMA;TROMIKON NEO;EKSTREPTON;SYNAGMA NEO
;SYRMA;CHOREVMA NEO;EPEGERMA;SEISMA NEO;XIRON KLASMA;TROMIKOPSIFISTON;PSIFISTOLYGISMA
;TROMIKOLYGISMA;TROMIKOPARAKALESMA;PSIFISTOPARAKALESMA;TROMIKOSYNAGMA;PSIFISTOSYNAGMA
;GORGOSYNTHETON;ARGOSYNTHETON;ETERON ARGOSYNTHETON;OYRANISMA NEO;THEMATISMOS ESO;THEMATISMOS EXO
;THEMA APLOUN;THES KAI APOTHES;KATAVASMA;ENDOFONON;YFEN KATO;YFEN ANO;STAVROS;KLASMA ANO
;DIPLI ARCHAION;KRATIMA ARCHAION;KRATIMA ALLO;KRATIMA NEO;APODERMA NEO;APLI;DIPLI;TRIPLI
;TETRAPLI;KORONIS;LEIMMA ENOS CHRONOU;LEIMMA DYO CHRONON;LEIMMA TRION CHRONON
;LEIMMA TESSARON CHRONON;LEIMMA IMISEOS CHRONOU;GORGON NEO ANO;GORGON PARESTIGMENON ARISTERA
;GORGON PARESTIGMENON DEXIA;DIGORGON;DIGORGON PARESTIGMENON ARISTERA KATO
;DIGORGON PARESTIGMENON ARISTERA ANO;DIGORGON PARESTIGMENON DEXIA;TRIGORGON;ARGON;IMIDIARGON
;DIARGON
1D09A;BYZANTINE MUSICAL SYMBOL AGOGI ;POLI ARGI;ARGOTERI;ARGI;METRIA;MESI;GORGI;GORGOTERI
;POLI GORGI
1D0A2;BYZANTINE MUSICAL SYMBOL MARTYRIA ;PROTOS ICHOS;ALLI PROTOS ICHOS;DEYTEROS ICHOS
;ALLI DEYTEROS ICHOS;TRITOS ICHOS;TRIFONIAS;TETARTOS ICHOS;TETARTOS LEGETOS ICHOS;LEGETOS ICHOS
;PLAGIOS ICHOS
1D0AC;BYZANTINE MUSICAL SYMBOL ;ISAKIA TELOUS ICHIMATOS;APOSTROFOI TELOUS ICHIMATOS
;FANEROSIS TETRAFONIAS;FANEROSIS MONOFONIAS;FANEROSIS DIFONIAS;MARTYRIA VARYS ICHOS
;MARTYRIA PROTOVARYS ICHOS;MARTYRIA PLAGIOS TETARTOS ICHOS;GORTHMIKON N APLOUN
;GORTHMIKON N DIPLOUN;ENARXIS KAI FTHORA VOU;IMIFONON;IMIFTHORON
1D0B9;BYZANTINE MUSICAL SYMBOL FTHORA ;ARCHAION DEYTEROU ICHOU;DIATONIKI PA;DIATONIKI NANA
;NAOS ICHOS;DIATONIKI DI;SKLIRON DIATONON DI;DIATONIKI KE;DIATONIKI ZO;DIATONIKI NI KATO
;DIATONIKI NI ANO;MALAKON CHROMA DIFONIAS;MALAKON CHROMA MONOFONIAS
1D0C5;BYZANTINE MUSICAL SYMBOL ;FHTORA SKLIRON CHROMA VASIS;FTHORA SKLIRON CHROMA SYNAFI
;FTHORA NENANO;CHROA ZYGOS;CHROA KLITON;CHROA SPATHI;FTHORA I YFESIS TETARTIMORION
;FTHORA ENARMONIOS ANTIFONIA;YFESIS TRITIMORION;DIESIS TRITIMORION;DIESIS TETARTIMORION
;DIESIS APLI DYO DODEKATA;DIESIS MONOGRAMMOS TESSERA DODEKATA;DIESIS DIGRAMMOS EX DODEKATA
;DIESIS TRIGRAMMOS OKTO DODEKATA;YFESIS APLI DYO DODEKATA;YFESIS MONOGRAMMOS TESSERA DODEKATA
;YFESIS DIGRAMMOS EX DODEKATA;YFESIS TRIGRAMMOS OKTO DODEKATA;GENIKI DIESIS;GENIKI YFESIS
;DIASTOLI APLI MIKRI;DIASTOLI APLI MEGALI;DIASTOLI DIPLI;DIASTOLI THESEOS;SIMANSIS THESEOS
;SIMANSIS THESEOS DISIMOU;SIMANSIS THESEOS TRISIMOU;SIMANSIS THESEOS TETRASIMOU;SIMANSIS ARSEOS
;SIMANSIS ARSEOS DISIMOU;SIMANSIS ARSEOS TRISIMOU;SIMANSIS ARSEOS TETRASIMOU;DIGRAMMA GG
;DIFTOGGOS OU;STIGMA;ARKTIKO PA;ARKTIKO VOU;ARKTIKO GA;ARKTIKO DI;ARKTIKO KE;ARKTIKO ZO
;ARKTIKO NI;KENTIMATA NEO MESO;KENTIMA NEO MESO;KENTIMATA NEO KATO;KENTIMA NEO KATO;KLASMA KATO
;GORGON NEO KATO
1D100;MUSICAL SYMBOL ;SINGLE BARLINE;DOUBLE BARLINE;FINAL BARLINE;REVERSE FINAL BARLINE
;DASHED BARLINE;SHORT BARLINE;LEFT REPEAT SIGN;RIGHT REPEAT SIGN;REPEAT DOTS;DAL SEGNO;DA CAPO
;SEGNO;CODA;REPEATED FIGURE-1;REPEATED FIGURE-2;REPEATED FIGURE-3;FERMATA;FERMATA BELOW
;BREATH MARK;CAESURA;BRACE;BRACKET;ONE-LINE STAFF;TWO-LINE STAFF;THREE-LINE STAFF
;FOUR-LINE STAFF;FIVE-LINE STAFF;SIX-LINE STAFF;SIX-STRING FRETBOARD;FOUR-STRING FRETBOARD
;G CLEF;G CLEF OTTAVA ALTA;G CLEF OTTAVA BASSA;C CLEF;F CLEF;F CLEF OTTAVA ALTA
;F CLEF OTTAVA BASSA;DRUM CLEF-1;DRUM CLEF-2
1D129;MUSICAL SYMBOL ;MULTIPLE MEASURE REST;DOUBLE SHARP;DOUBLE FLAT;FLAT UP;FLAT DOWN
;NATURAL UP;NATURAL DOWN;SHARP UP;SHARP DOWN;QUARTER TONE SHARP;QUARTER TONE FLAT;COMMON TIME
;CUT TIME;OTTAVA ALTA;OTTAVA BASSA;QUINDICESIMA ALTA;QUINDICESIMA BASSA;MULTI REST;WHOLE REST
;HALF REST;QUARTER REST;EIGHTH REST;SIXTEENTH REST;THIRTY-SECOND REST;SIXTY-FOURTH REST
;ONE HUNDRED TWENTY-EIGHTH REST;X NOTEHEAD;PLUS NOTEHEAD;CIRCLE X NOTEHEAD;SQUARE NOTEHEAD WHITE
;SQUARE NOTEHEAD BLACK
1D148;MUSICAL SYMBOL TRIANGLE NOTEHEAD ;UP WHITE;UP BLACK;LEFT WHITE;LEFT BLACK;RIGHT WHITE
;RIGHT BLACK;DOWN WHITE;DOWN BLACK;UP RIGHT WHITE;UP RIGHT BLACK
1D152;MUSICAL SYMBOL ;MOON NOTEHEAD WHITE;MOON NOTEHEAD BLACK;TRIANGLE-ROUND NOTEHEAD DOWN WHITE
;TRIANGLE-ROUND NOTEHEAD DOWN BLACK;PARENTHESIS NOTEHEAD;VOID NOTEHEAD;NOTEHEAD BLACK
;NULL NOTEHEAD;CLUSTER NOTEHEAD WHITE;CLUSTER NOTEHEAD BLACK;BREVE;WHOLE NOTE;HALF NOTE
;QUARTER NOTE;EIGHTH NOTE;SIXTEENTH NOTE;THIRTY-SECOND NOTE;SIXTY-FOURTH NOTE
;ONE HUNDRED TWENTY-EIGHTH NOTE
1D165;MUSICAL SYMBOL COMBINING ;STEM;SPRECHGESANG STEM;TREMOLO-1;TREMOLO-2;TREMOLO-3
1D16A;MUSICAL SYMBOL FINGERED TREMOLO-;1;2;3
1D16D;MUSICAL SYMBOL COMBINING ;AUGMENTATION DOT;FLAG-1;FLAG-2;FLAG-3;FLAG-4;FLAG-5
1D173;MUSICAL SYMBOL ;BEGIN BEAM;END BEAM;BEGIN TIE;END TIE;BEGIN SLUR;END SLUR;BEGIN PHRASE
;END PHRASE
1D17B;MUSICAL SYMBOL COMBINING ;ACCENT;STACCATO;TENUTO;STACCATISSIMO;MARCATO;MARCATO-STACCATO
;ACCENT-STACCATO;LOURE
1D183;MUSICAL SYMBOL ARPEGGIATO ;UP;DOWN
1D185;MUSICAL SYMBOL COMBINING ;DOIT;RIP;FLIP;SMEAR;BEND;DOUBLE TONGUE;TRIPLE TONGUE
1D18C;MUSICAL SYMBOL ;RINFORZANDO;SUBITO;Z;PIANO;MEZZO;FORTE;CRESCENDO;DECRESCENDO
;GRACE NOTE SLASH;GRACE NOTE NO SLASH;TR;TURN;INVERTED TURN;TURN SLASH;TURN UP
1D19B;MUSICAL SYMBOL ORNAMENT STROKE-;1;2;3;4;5;6;7;8;9;10;11
1D1A6;MUSICAL SYMBOL ;HAUPTSTIMME;NEBENSTIMME;END OF STIMME;DEGREE SLASH;COMBINING DOWN BOW
;COMBINING UP BOW;COMBINING HARMONIC;COMBINING SNAP PIZZICATO;PEDAL MARK;PEDAL UP MARK
;HALF PEDAL MARK;GLISSANDO UP;GLISSANDO DOWN;WITH FINGERNAILS;DAMP;DAMP ALL;MAXIMA;LONGA;BREVIS
;SEMIBREVIS WHITE;SEMIBREVIS BLACK;MINIMA;MINIMA BLACK;SEMIMINIMA WHITE;SEMIMINIMA BLACK
;FUSA WHITE;FUSA BLACK;LONGA PERFECTA REST;LONGA IMPERFECTA REST;BREVIS REST;SEMIBREVIS REST
;MINIMA REST;SEMIMINIMA REST
1D1C7;MUSICAL SYMBOL TEMPUS PERFECTUM CUM PROLATIONE ;PERFECTA;IMPERFECTA;PERFECTA DIMINUTION-1
1D1CA;MUSICAL SYMBOL TEMPUS IMPERFECTUM CUM PROLATIONE ;PERFECTA;IMPERFECTA
;IMPERFECTA DIMINUTION-1;IMPERFECTA DIMINUTION-2;IMPERFECTA DIMINUTION-3
1D1CF;MUSICAL SYMBOL ;CROIX;GREGORIAN C CLEF;GREGORIAN F CLEF;SQUARE B;VIRGA;PODATUS;CLIVIS
;SCANDICUS;CLIMACUS;TORCULUS;PORRECTUS;PORRECTUS FLEXUS;SCANDICUS FLEXUS;TORCULUS RESUPINUS
;PES SUBPUNCTIS
1D1DE;MUSICAL SYMBOL KIEVAN ;C CLEF;END OF PIECE;FINAL NOTE;RECITATIVE MARK;WHOLE NOTE;HALF NOTE
;QUARTER NOTE STEM DOWN;QUARTER NOTE STEM UP;EIGHTH NOTE STEM DOWN;EIGHTH NOTE STEM UP;FLAT SIGN
1D1E9;MUSICAL SYMBOL ;SORI;KORON
1D200;GREEK VOCAL NOTATION SYMBOL-;1;2;3;4;5;6;7;8;9;10;11;12;13;14;15;16;17;18;19;20;21;22;23
;24;50;51;52;53;54
1D21D;GREEK INSTRUMENTAL NOTATION SYMBOL-;1;2;4;5;7;8;11;12;13;14;17;18;19;23;24;25;26;27;29;30
;32;36;37;38;39;40;42;43;45;47;48;49;50;51;52;53;54
1D242;COMBINING GREEK MUSICAL ;TRISEME;TETRASEME;PENTASEME
1D245;GREEK MUSICAL LEIMMA;
1D2E0;MAYAN NUMERAL ;ZERO;ONE;TWO;THREE;FOUR;FIVE;SIX;SEVEN;EIGHT;NINE;TEN;ELEVEN;TWELVE
;THIRTEEN;FOURTEEN;FIFTEEN;SIXTEEN;SEVENTEEN;EIGHTEEN;NINETEEN
1D300;MONOGRAM FOR EARTH;
1D301;DIGRAM FOR ;HEAVENLY EARTH;HUMAN EARTH;EARTHLY HEAVEN;EARTHLY HUMAN;EARTH
1D306;TETRAGRAM FOR ;CENTRE;FULL CIRCLE;MIRED;BARRIER;KEEPING SMALL;CONTRARIETY;ASCENT
;OPPOSITION;BRANCHING OUT;DEFECTIVENESS OR DISTORTION;DIVERGENCE;YOUTHFULNESS;INCREASE
;PENETRATION;REACH;CONTACT;HOLDING BACK;WAITING;FOLLOWING;ADVANCE;RELEASE;RESISTANCE;EASE;JOY
;CONTENTION;ENDEAVOUR;DUTIES;CHANGE;DECISIVENESS;BOLD RESOLUTION;PACKING;LEGION;CLOSENESS
;KINSHIP;GATHERING;STRENGTH;PURITY;FULLNESS;RESIDENCE;LAW OR MODEL;RESPONSE;GOING TO MEET
;ENCOUNTERS;STOVE;GREATNESS;ENLARGEMENT;PATTERN;RITUAL;FLIGHT;VASTNESS OR WASTING;CONSTANCY
;MEASURE;ETERNITY;UNITY;DIMINISHMENT;CLOSED MOUTH;GUARDEDNESS;GATHERING IN;MASSING;ACCUMULATION
;EMBELLISHMENT;DOUBT;WATCH;SINKING;INNER;DEPARTURE;DARKENING;DIMMING;EXHAUSTION;SEVERANCE
;STOPPAGE;HARDNESS;COMPLETION;CLOSURE;FAILURE;AGGRAVATION;COMPLIANCE;ON THE VERGE;DIFFICULTIES
;LABOURING;FOSTERING
1D360;COUNTING ROD UNIT DIGIT ;ONE;TWO;THREE;FOUR;FIVE;SIX;SEVEN;EIGHT;NINE
1D369;COUNTING ROD TENS DIGIT ;ONE;TWO;THREE;FOUR;FIVE;SIX;SEVEN;EIGHT;NINE
1D372;IDEOGRAPHIC TALLY MARK ;ONE;TWO;THREE;FOUR;FIVE
1D377;TALLY MARK ;ONE;FIVE
1D400;MATHEMATICAL BOLD CAPITAL ;A;B;C;D;E;F;G;H;I;J;K;L;M;N;O;P;Q;R;S;T;U;V;W;X;Y;Z
1D41A;MATHEMATICAL BOLD SMALL ;A;B;C;D;E;F;G;H;I;J;K;L;M;N;O;P;Q;R;S;T;U;V;W;X;Y;Z
1D434;MATHEMATICAL ITALIC CAPITAL ;A;B;C;D;E;F;G;H;I;J;K;L;M;N;O;P;Q;R;S;T;U;V;W;X;Y;Z
1D44E;MATHEMATICAL ITALIC SMALL ;A;B;C;D;E;F;G
1D456;MATHEMATICAL ITALIC SMALL ;I;J;K;L;M;N;O;P;Q;R;S;T;U;V;W;X;Y;Z
1D468;MATHEMATICAL BOLD ITALIC CAPITAL ;A;B;C;D;E;F;G;H;I;J;K;L;M;N;O;P;Q;R;S;T;U;V;W;X;Y;Z
1D482;MATHEMATICAL BOLD ITALIC SMALL ;A;B;C;D;E;F;G;H;I;J;K;L;M;N;O;P;Q;R;S;T;U;V;W;X;Y;Z
1D49C;MATHEMATICAL SCRIPT CAPITAL A;
1D49E;MATHEMATICAL SCRIPT CAPITAL ;C;D
1D4A2;MATHEMATICAL SCRIPT CAPITAL G;
1D4A5;MATHEMATICAL SCRIPT CAPITAL ;J;K
1D4A9;MATHEMATICAL SCRIPT CAPITAL ;N;O;P;Q
1D4AE;MATHEMATICAL SCRIPT CAPITAL ;S;T;U;V;W;X;Y;Z
1D4B6;MATHEMATICAL SCRIPT SMALL ;A;B;C;D
1D4BB;MATHEMATICAL SCRIPT SMALL F;
1D4BD;MATHEMATICAL SCRIPT SMALL ;H;I;J;K;L;M;N
1D4C5;MATHEMATICAL SCRIPT SMALL ;P;Q;R;S;T;U;V;W;X;Y;Z
1D4D0;MATHEMATICAL BOLD SCRIPT CAPITAL ;A;B;C;D;E;F;G;H;I;J;K;L;M;N;O;P;Q;R;S;T;U;V;W;X;Y;Z
1D4EA;MATHEMATICAL BOLD SCRIPT SMALL ;A;B;C;D;E;F;G;H;I;J;K;L;M;N;O;P;Q;R;S;T;U;V;W;X;Y;Z
1D504;MATHEMATICAL FRAKTUR CAPITAL ;A;B
1D507;MATHEMATICAL FRAKTUR CAPITAL ;D;E;F;G
1D50D;MATHEMATICAL FRAKTUR CAPITAL ;J;K;L;M;N;O;P;Q
1D516;MATHEMATICAL FRAKTUR CAPITAL ;S;T;U;V;W;X;Y
1D51E;MATHEMATICAL FRAKTUR SMALL ;A;B;C;D;E;F;G;H;I;J;K;L;M;N;O;P;Q;R;S;T;U;V;W;X;Y;Z
1D538;MATHEMATICAL DOUBLE-STRUCK CAPITAL ;A;B
1D53B;MATHEMATICAL DOUBLE-STRUCK CAPITAL ;D;E;F;G
1D540;MATHEMATICAL DOUBLE-STRUCK CAPITAL ;I;J;K;L;M
1D546;MATHEMATICAL DOUBLE-STRUCK CAPITAL O;
1D54A;MATHEMATICAL DOUBLE-STRUCK CAPITAL ;S;T;U;V;W;X;Y
1D552;MATHEMATICAL DOUBLE-STRUCK SMALL ;A;B;C;D;E;F;G;H;I;J;K;L;M;N;O;P;Q;R;S;T;U;V;W;X;Y;Z
1D56C;MATHEMATICAL BOLD FRAKTUR CAPITAL ;A;B;C;D;E;F;G;H;I;J;K;L;M;N;O;P;Q;R;S;T;U;V;W;X;Y;Z
1D586;MATHEMATICAL BOLD FRAKTUR SMALL ;A;B;C;D;E;F;G;H;I;J;K;L;M;N;O;P;Q;R;S;T;U;V;W;X;Y;Z
1D5A0;MATHEMATICAL SANS-SERIF CAPITAL ;A;B;C;D;E;F;G;H;I;J;K;L;M;N;O;P;Q;R;S;T;U;V;W;X;Y;Z
1D5BA;MATHEMATICAL SANS-SERIF SMALL ;A;B;C;D;E;F;G;H;I;J;K;L;M;N;O;P;Q;R;S;T;U;V;W;X;Y;Z
1D5D4;MATHEMATICAL SANS-SERIF BOLD CAPITAL ;A;B;C;D;E;F;G;H;I;J;K;L;M;N;O;P;Q;R;S;T;U;V;W;X;Y;Z
1D5EE;MATHEMATICAL SANS-SERIF BOLD SMALL ;A;B;C;D;E;F;G;H;I;J;K;L;M;N;O;P;Q;R;S;T;U;V;W;X;Y;Z
1D608;MATHEMATICAL SANS-SERIF ITALIC CAPITAL ;A;B;C;D;E;F;G;H;I;J;K;L;M;N;O;P;Q;R;S;T;U;V;W;X;Y
;Z
1D622;MATHEMATICAL SANS-SERIF ITALIC SMALL ;A;B;C;D;E;F;G;H;I;J;K;L;M;N;O;P;Q;R;S;T;U;V;W;X;Y;Z
1D63C;MATHEMATICAL SANS-SERIF BOLD ITALIC CAPITAL ;A;B;C;D;E;F;G;H;I;J;K;L;M;N;O;P;Q;R;S;T;U;V;W
;X;Y;Z
1D656;MATHEMATICAL SANS-SERIF BOLD ITALIC SMALL ;A;B;C;D;E;F;G;H;I;J;K;L;M;N;O;P;Q;R;S;T;U;V;W;X
;Y;Z
1D670;MATHEMATICAL MONOSPACE CAPITAL ;A;B;C;D;E;F;G;H;I;J;K;L;M;N;O;P;Q;R;S;T;U;V;W;X;Y;Z
1D68A;MATHEMATICAL MONOSPACE SMALL ;A;B;C;D;E;F;G;H;I;J;K;L;M;N;O;P;Q;R;S;T;U;V;W;X;Y;Z
1D6A4;MATHEMATICAL ITALIC SMALL DOTLESS ;I;J
1D6A8;MATHEMATICAL BOLD CAPITAL ;ALPHA;BETA;GAMMA;DELTA;EPSILON;ZETA;ETA;THETA;IOTA;KAPPA;LAMDA
;MU;NU;XI;OMICRON;PI;RHO;THETA SYMBOL;SIGMA;TAU;UPSILON;PHI;CHI;PSI;OMEGA
1D6C1;MATHEMATICAL BOLD NABLA;
1D6C2;MATHEMATICAL BOLD SMALL ;ALPHA;BETA;GAMMA;DELTA;EPSILON;ZETA;ETA;THETA;IOTA;KAPPA;LAMDA;MU
;NU;XI;OMICRON;PI;RHO;FINAL SIGMA;SIGMA;TAU;UPSILON;PHI;CHI;PSI;OMEGA
1D6DB;MATHEMATICAL BOLD ;PARTIAL DIFFERENTIAL;EPSILON SYMBOL;THETA SYMBOL;KAPPA SYMBOL
;PHI SYMBOL;RHO SYMBOL;PI SYMBOL
1D6E2;MATHEMATICAL ITALIC CAPITAL ;ALPHA;BETA;GAMMA;DELTA;EPSILON;ZETA;ETA;THETA;IOTA;KAPPA
;LAMDA;MU;NU;XI;OMICRON;PI;RHO;THETA SYMBOL;SIGMA;TAU;UPSILON;PHI;CHI;PSI;OMEGA
1D6FB;MATHEMATICAL ITALIC NABLA;
1D6FC;MATHEMATICAL ITALIC SMALL ;ALPHA;BETA;GAMMA;DELTA;EPSILON;ZETA;ETA;THETA;IOTA;KAPPA;LAMDA
;MU;NU;XI;OMICRON;PI;RHO;FINAL SIGMA;SIGMA;TAU;UPSILON;PHI;CHI;PSI;OMEGA
1D715;MATHEMATICAL ITALIC ;PARTIAL DIFFERENTIAL;EPSILON SYMBOL;THETA SYMBOL;KAPPA SYMBOL
;PHI SYMBOL;RHO SYMBOL;PI SYMBOL
1D71C;MATHEMATICAL BOLD ITALIC CAPITAL ;ALPHA;BETA;GAMMA;DELTA;EPSILON;ZETA;ETA;THETA;IOTA;KAPPA
;LAMDA;MU;NU;XI;OMICRON;PI;RHO;THETA SYMBOL;SIGMA;TAU;UPSILON;PHI;CHI;PSI;OMEGA
1D735;MATHEMATICAL BOLD ITALIC NABLA;
1D736;MATHEMATICAL BOLD ITALIC SMALL ;ALPHA;BETA;GAMMA;DELTA;EPSILON;ZETA;ETA;THETA;IOTA;KAPPA
;LAMDA;MU;NU;XI;OMICRON;PI;RHO;FINAL SIGMA;SIGMA;TAU;UPSILON;PHI;CHI;PSI;OMEGA
1D74F;MATHEMATICAL BOLD ITALIC ;PARTIAL DIFFERENTIAL;EPSILON SYMBOL;THETA SYMBOL;KAPPA SYMBOL
;PHI SYMBOL;RHO SYMBOL;PI SYMBOL
1D756;MATHEMATICAL SANS-SERIF BOLD CAPITAL ;ALPHA;BETA;GAMMA;DELTA;EPSILON;ZETA;ETA;THETA;IOTA
;KAPPA;LAMDA;MU;NU;XI;OMICRON;PI;RHO;THETA SYMBOL;SIGMA;TAU;UPSILON;PHI;CHI;PSI;OMEGA
1D76F;MATHEMATICAL SANS-SERIF BOLD NABLA;
1D770;MATHEMATICAL SANS-SERIF BOLD SMALL ;ALPHA;BETA;GAMMA;DELTA;EPSILON;ZETA;ETA;THETA;IOTA
;KAPPA;LAMDA;MU;NU;XI;OMICRON;PI;RHO;FINAL SIGMA;SIGMA;TAU;UPSILON;PHI;CHI;PSI;OMEGA
1D789;MATHEMATICAL SANS-SERIF BOLD ;PARTIAL DIFFERENTIAL;EPSILON SYMBOL;THETA SYMBOL
;KAPPA SYMBOL;PHI SYMBOL;RHO SYMBOL;PI SYMBOL
1D790;MATHEMATICAL SANS-SERIF BOLD ITALIC CAPITAL ;ALPHA;BETA;GAMMA;DELTA;EPSILON;ZETA;ETA;THETA
;IOTA;KAPPA;LAMDA;MU;NU;XI;OMICRON;PI;RHO;THETA SYMBOL;SIGMA;TAU;UPSILON;PHI;CHI;PSI;OMEGA
1D7A9;MATHEMATICAL SANS-SERIF BOLD ITALIC NABLA;
1D7AA;MATHEMATICAL SANS-SERIF BOLD ITALIC SMALL ;ALPHA;BETA;GAMMA;DELTA;EPSILON;ZETA;ETA;THETA
;IOTA;KAPPA;LAMDA;MU;NU;XI;OMICRON;PI;RHO;FINAL SIGMA;SIGMA;TAU;UPSILON;PHI;CHI;PSI;OMEGA
1D7C3;MATHEMATICAL SANS-SERIF BOLD ITALIC ;PARTIAL DIFFERENTIAL;EPSILON SYMBOL;THETA SYMBOL
;KAPPA SYMBOL;PHI SYMBOL;RHO SYMBOL;PI SYMBOL
1D7CA;MATHEMATICAL BOLD ;CAPITAL DIGAMMA;SMALL DIGAMMA
1D7CE;MATHEMATICAL BOLD DIGIT ;ZERO;ONE;TWO;THREE;FOUR;FIVE;SIX;SEVEN;EIGHT;NINE
1D7D8;MATHEMATICAL DOUBLE-STRUCK DIGIT ;ZERO;ONE;TWO;THREE;FOUR;FIVE;SIX;SEVEN;EIGHT;NINE
1D7E2;MATHEMATICAL SANS-SERIF DIGIT ;ZERO;ONE;TWO;THREE;FOUR;FIVE;SIX;SEVEN;EIGHT;NINE
1D7EC;MATHEMATICAL SANS-SERIF BOLD DIGIT ;ZERO;ONE;TWO;THREE;FOUR;FIVE;SIX;SEVEN;EIGHT;NINE
1D7F6;MATHEMATICAL MONOSPACE DIGIT ;ZERO;ONE;TWO;THREE;FOUR;FIVE;SIX;SEVEN;EIGHT;NINE
1D800;SIGNWRITING HAND-;FIST INDEX;CIRCLE INDEX;CUP INDEX;OVAL INDEX;HINGE INDEX;ANGLE INDEX
;FIST INDEX BENT;CIRCLE INDEX BENT;FIST THUMB UNDER INDEX BENT;FIST INDEX RAISED KNUCKLE
;FIST INDEX CUPPED;FIST INDEX HINGED;FIST INDEX HINGED LOW;CIRCLE INDEX HINGE;FIST INDEX MIDDLE
;CIRCLE INDEX MIDDLE
1D810;SIGNWRITING HAND-FIST INDEX ;MIDDLE BENT;MIDDLE RAISED KNUCKLES;MIDDLE HINGED
;UP MIDDLE HINGED;HINGED MIDDLE UP
1D815;SIGNWRITING HAND-FIST INDEX MIDDLE CONJOINED;; INDEX BENT; MIDDLE BENT; CUPPED; HINGED
1D81A;SIGNWRITING HAND-;FIST INDEX MIDDLE CROSSED;CIRCLE INDEX MIDDLE CROSSED
;FIST MIDDLE BENT OVER INDEX;FIST INDEX BENT OVER MIDDLE;FIST INDEX MIDDLE THUMB
;CIRCLE INDEX MIDDLE THUMB
1D820;SIGNWRITING HAND-FIST INDEX ;MIDDLE STRAIGHT THUMB BENT;MIDDLE BENT THUMB STRAIGHT
;MIDDLE THUMB BENT;MIDDLE HINGED SPREAD THUMB SIDE;UP MIDDLE HINGED THUMB SIDE
;UP MIDDLE HINGED THUMB CONJOINED;HINGED MIDDLE UP THUMB SIDE;MIDDLE UP SPREAD THUMB FORWARD
1D828;SIGNWRITING HAND-FIST INDEX MIDDLE THUMB ;CUPPED;CIRCLED;HOOKED;HINGED
1D82C;SIGNWRITING HAND-FIST THUMB BETWEEN INDEX MIDDLE STRAIGHT;
1D82D;SIGNWRITING HAND-FIST INDEX MIDDLE CONJOINED THUMB SIDE;; CONJOINED; BENT
1D830;SIGNWRITING HAND-FIST ;MIDDLE THUMB HOOKED INDEX UP;INDEX THUMB HOOKED MIDDLE UP
;INDEX MIDDLE CONJOINED HINGED THUMB SIDE;INDEX MIDDLE CROSSED THUMB SIDE
;INDEX MIDDLE CONJOINED THUMB FORWARD;INDEX MIDDLE CONJOINED CUPPED THUMB FORWARD
;MIDDLE THUMB CUPPED INDEX UP;INDEX THUMB CUPPED MIDDLE UP;MIDDLE THUMB CIRCLED INDEX UP
;MIDDLE THUMB CIRCLED INDEX HINGED;INDEX THUMB ANGLED OUT MIDDLE UP
;INDEX THUMB ANGLED IN MIDDLE UP;INDEX THUMB CIRCLED MIDDLE UP
;INDEX MIDDLE THUMB CONJOINED HINGED;INDEX MIDDLE THUMB ANGLED OUT;INDEX MIDDLE THUMB ANGLED
;MIDDLE THUMB ANGLED OUT INDEX UP;MIDDLE THUMB ANGLED OUT INDEX CROSSED
;MIDDLE THUMB ANGLED INDEX UP;INDEX THUMB HOOKED MIDDLE HINGED
1D844;SIGNWRITING HAND-FLAT FOUR FINGERS;; BENT; HINGED; CONJOINED; CONJOINED SPLIT
1D849;SIGNWRITING HAND-;CLAW FOUR FINGERS CONJOINED;FIST FOUR FINGERS CONJOINED BENT
;HINGE FOUR FINGERS CONJOINED;FLAT FIVE FINGERS SPREAD;FLAT HEEL FIVE FINGERS SPREAD
;FLAT FIVE FINGERS SPREAD FOUR BENT;FLAT HEEL FIVE FINGERS SPREAD FOUR BENT
;FLAT FIVE FINGERS SPREAD BENT;FLAT HEEL FIVE FINGERS SPREAD BENT
;FLAT FIVE FINGERS SPREAD THUMB FORWARD;CUP FIVE FINGERS SPREAD;CUP FIVE FINGERS SPREAD OPEN
;HINGE FIVE FINGERS SPREAD OPEN;OVAL FIVE FINGERS SPREAD
1D857;SIGNWRITING HAND-FLAT FIVE FINGERS SPREAD HINGED;; THUMB SIDE; NO THUMB
1D85A;SIGNWRITING HAND-FLAT;; BETWEEN PALM FACINGS; HEEL; THUMB SIDE; HEEL THUMB SIDE
; THUMB BENT; THUMB FORWARD; SPLIT INDEX THUMB SIDE; SPLIT CENTRE; SPLIT CENTRE THUMB SIDE
; SPLIT CENTRE THUMB SIDE BENT; SPLIT LITTLE
1D866;SIGNWRITING HAND-;CLAW;CLAW THUMB SIDE;CLAW NO THUMB;CLAW THUMB FORWARD;HOOK CURLICUE;HOOK
;CUP OPEN;CUP;CUP OPEN THUMB SIDE;CUP THUMB SIDE;CUP OPEN NO THUMB;CUP NO THUMB
;CUP OPEN THUMB FORWARD;CUP THUMB FORWARD;CURLICUE OPEN;CURLICUE;CIRCLE;OVAL;OVAL THUMB SIDE
;OVAL NO THUMB;OVAL THUMB FORWARD;HINGE OPEN;HINGE OPEN THUMB FORWARD;HINGE;HINGE SMALL
;HINGE OPEN THUMB SIDE;HINGE THUMB SIDE;HINGE OPEN NO THUMB;HINGE NO THUMB
;HINGE THUMB SIDE TOUCHING INDEX;HINGE THUMB BETWEEN MIDDLE RING;ANGLE;FIST INDEX MIDDLE RING
;CIRCLE INDEX MIDDLE RING;HINGE INDEX MIDDLE RING;ANGLE INDEX MIDDLE RING;HINGE LITTLE
;FIST INDEX MIDDLE RING BENT;FIST INDEX MIDDLE RING CONJOINED;HINGE INDEX MIDDLE RING CONJOINED
;FIST LITTLE DOWN;FIST LITTLE DOWN RIPPLE STRAIGHT;FIST LITTLE DOWN RIPPLE CURVED
;FIST LITTLE DOWN OTHERS CIRCLED;FIST LITTLE UP;FIST THUMB UNDER LITTLE UP;CIRCLE LITTLE UP
;OVAL LITTLE UP;ANGLE LITTLE UP;FIST LITTLE RAISED KNUCKLE;FIST LITTLE BENT
;FIST LITTLE TOUCHES THUMB;FIST LITTLE THUMB;HINGE LITTLE THUMB;FIST LITTLE INDEX THUMB
;HINGE LITTLE INDEX THUMB;ANGLE LITTLE INDEX THUMB INDEX THUMB OUT
;ANGLE LITTLE INDEX THUMB INDEX THUMB;FIST LITTLE INDEX;CIRCLE LITTLE INDEX;HINGE LITTLE INDEX
;ANGLE LITTLE INDEX;FIST INDEX MIDDLE LITTLE;CIRCLE INDEX MIDDLE LITTLE
;HINGE INDEX MIDDLE LITTLE;HINGE RING;ANGLE INDEX MIDDLE LITTLE;FIST INDEX MIDDLE CROSS LITTLE
;CIRCLE INDEX MIDDLE CROSS LITTLE;FIST RING DOWN;HINGE RING DOWN INDEX THUMB HOOK MIDDLE
;ANGLE RING DOWN MIDDLE THUMB INDEX CROSS;FIST RING UP;FIST RING RAISED KNUCKLE;FIST RING LITTLE
;CIRCLE RING LITTLE;OVAL RING LITTLE;ANGLE RING LITTLE;FIST RING MIDDLE
;FIST RING MIDDLE CONJOINED;FIST RING MIDDLE RAISED KNUCKLES;FIST RING INDEX;FIST RING THUMB
;HOOK RING THUMB;FIST INDEX RING LITTLE;CIRCLE INDEX RING LITTLE;CURLICUE INDEX RING LITTLE ON
;HOOK INDEX RING LITTLE OUT;HOOK INDEX RING LITTLE IN;HOOK INDEX RING LITTLE UNDER
;CUP INDEX RING LITTLE;HINGE INDEX RING LITTLE;ANGLE INDEX RING LITTLE OUT
;ANGLE INDEX RING LITTLE;FIST MIDDLE DOWN;HINGE MIDDLE;FIST MIDDLE UP;CIRCLE MIDDLE UP
;FIST MIDDLE RAISED KNUCKLE;FIST MIDDLE UP THUMB SIDE;HOOK MIDDLE THUMB;FIST MIDDLE THUMB LITTLE
;FIST MIDDLE LITTLE;FIST MIDDLE RING LITTLE;CIRCLE MIDDLE RING LITTLE
;CURLICUE MIDDLE RING LITTLE ON;CUP MIDDLE RING LITTLE;HINGE MIDDLE RING LITTLE
;ANGLE MIDDLE RING LITTLE OUT;ANGLE MIDDLE RING LITTLE IN;ANGLE MIDDLE RING LITTLE
;CIRCLE MIDDLE RING LITTLE BENT
1D8D6;SIGNWRITING HAND-CLAW MIDDLE RING LITTLE CONJOINED;; SIDE
1D8D8;SIGNWRITING HAND-HOOK MIDDLE RING LITTLE CONJOINED; OUT; IN;
1D8DB;SIGNWRITING HAND-;HINGE INDEX HINGED;FIST INDEX THUMB SIDE;HINGE INDEX THUMB SIDE
1D8DE;SIGNWRITING HAND-FIST INDEX THUMB ;SIDE THUMB DIAGONAL;SIDE THUMB CONJOINED
;SIDE THUMB BENT;SIDE INDEX BENT;SIDE BOTH BENT;SIDE INDEX HINGE;FORWARD INDEX STRAIGHT
;FORWARD INDEX BENT;HOOK;CURLICUE;CURVE THUMB INSIDE
1D8E9;SIGNWRITING HAND-;CLAW INDEX THUMB CURVE THUMB INSIDE;FIST INDEX THUMB CURVE THUMB UNDER
;FIST INDEX THUMB CIRCLE;CUP INDEX THUMB;CUP INDEX THUMB OPEN
1D8EE;SIGNWRITING HAND-HINGE INDEX THUMB; OPEN; LARGE;; SMALL
1D8F2;SIGNWRITING HAND-ANGLE INDEX THUMB; OUT; IN;
1D8F5;SIGNWRITING HAND-FIST THUMB;; HEEL; SIDE DIAGONAL; SIDE CONJOINED; SIDE BENT; FORWARD
; BETWEEN INDEX MIDDLE; BETWEEN MIDDLE RING; BETWEEN RING LITTLE; UNDER TWO FINGERS
; OVER TWO FINGERS; UNDER THREE FINGERS; UNDER FOUR FINGERS; OVER FOUR RAISED KNUCKLES
1D903;SIGNWRITING ;HAND-FIST;HAND-FIST HEEL;TOUCH SINGLE;TOUCH MULTIPLE;TOUCH BETWEEN
;GRASP SINGLE;GRASP MULTIPLE;GRASP BETWEEN;STRIKE SINGLE;STRIKE MULTIPLE;STRIKE BETWEEN
;BRUSH SINGLE;BRUSH MULTIPLE;BRUSH BETWEEN;RUB SINGLE;RUB MULTIPLE;RUB BETWEEN;SURFACE SYMBOLS
;SURFACE BETWEEN;SQUEEZE LARGE SINGLE;SQUEEZE SMALL SINGLE;SQUEEZE LARGE MULTIPLE
;SQUEEZE SMALL MULTIPLE;SQUEEZE SEQUENTIAL;FLICK LARGE SINGLE;FLICK SMALL SINGLE
;FLICK LARGE MULTIPLE;FLICK SMALL MULTIPLE;FLICK SEQUENTIAL;SQUEEZE FLICK ALTERNATING
1D921;SIGNWRITING MOVEMENT-HINGE ;UP DOWN LARGE;UP DOWN SMALL;UP SEQUENTIAL;DOWN SEQUENTIAL
;UP DOWN ALTERNATING LARGE;UP DOWN ALTERNATING SMALL;SIDE TO SIDE SCISSORS
1D928;SIGNWRITING MOVEMENT-;WALLPLANE FINGER CONTACT;FLOORPLANE FINGER CONTACT
1D92A;SIGNWRITING MOVEMENT-WALLPLANE SINGLE STRAIGHT ;SMALL;MEDIUM;LARGE;LARGEST
1D92E;SIGNWRITING MOVEMENT-WALLPLANE ;SINGLE WRIST FLEX;DOUBLE STRAIGHT;DOUBLE WRIST FLEX
;DOUBLE ALTERNATING;DOUBLE ALTERNATING WRIST FLEX;CROSS;TRIPLE STRAIGHT MOVEMENT
;TRIPLE WRIST FLEX;TRIPLE ALTERNATING;TRIPLE ALTERNATING WRIST FLEX;BEND SMALL;BEND MEDIUM
;BEND LARGE;CORNER SMALL;CORNER MEDIUM;CORNER LARGE;CORNER ROTATION;CHECK SMALL;CHECK MEDIUM
;CHECK LARGE;BOX SMALL;BOX MEDIUM;BOX LARGE;ZIGZAG SMALL;ZIGZAG MEDIUM;ZIGZAG LARGE;PEAKS SMALL
;PEAKS MEDIUM;PEAKS LARGE
1D94B;SIGNWRITING TRAVEL-WALLPLANE ROTATION-;WALLPLANE SINGLE;WALLPLANE DOUBLE
;WALLPLANE ALTERNATING;FLOORPLANE SINGLE;FLOORPLANE DOUBLE;FLOORPLANE ALTERNATING
1D951;SIGNWRITING TRAVEL-WALLPLANE ;SHAKING;ARM SPIRAL SINGLE;ARM SPIRAL DOUBLE
;ARM SPIRAL TRIPLE
1D955;SIGNWRITING MOVEMENT-DIAGONAL AWAY ;SMALL;MEDIUM;LARGE;LARGEST
1D959;SIGNWRITING MOVEMENT-DIAGONAL TOWARDS ;SMALL;MEDIUM;LARGE;LARGEST
1D95D;SIGNWRITING MOVEMENT-DIAGONAL BETWEEN ;AWAY SMALL;AWAY MEDIUM;AWAY LARGE;AWAY LARGEST
;TOWARDS SMALL;TOWARDS MEDIUM;TOWARDS LARGE;TOWARDS LARGEST
1D965;SIGNWRITING MOVEMENT-FLOORPLANE SINGLE STRAIGHT ;SMALL;MEDIUM;LARGE;LARGEST
1D969;SIGNWRITING MOVEMENT-FLOORPLANE ;SINGLE WRIST FLEX;DOUBLE STRAIGHT;DOUBLE WRIST FLEX
;DOUBLE ALTERNATING;DOUBLE ALTERNATING WRIST FLEX;CROSS;TRIPLE STRAIGHT MOVEMENT
;TRIPLE WRIST FLEX;TRIPLE ALTERNATING MOVEMENT;TRIPLE ALTERNATING WRIST FLEX;BEND;CORNER SMALL
;CORNER MEDIUM;CORNER LARGE;CHECK;BOX SMALL;BOX MEDIUM;BOX LARGE;ZIGZAG SMALL;ZIGZAG MEDIUM
;ZIGZAG LARGE;PEAKS SMALL;PEAKS MEDIUM;PEAKS LARGE
1D981;SIGNWRITING TRAVEL-FLOORPLANE ROTATION-;FLOORPLANE SINGLE;FLOORPLANE DOUBLE
;FLOORPLANE ALTERNATING;WALLPLANE SINGLE;WALLPLANE DOUBLE;WALLPLANE ALTERNATING
1D987;SIGNWRITING TRAVEL-FLOORPLANE SHAKING;
1D988;SIGNWRITING MOVEMENT-WALLPLANE CURVE QUARTER ;SMALL;MEDIUM;LARGE;LARGEST
1D98C;SIGNWRITING MOVEMENT-WALLPLANE CURVE HALF-CIRCLE ;SMALL;MEDIUM;LARGE;LARGEST
1D990;SIGNWRITING MOVEMENT-WALLPLANE ;CURVE THREE-QUARTER CIRCLE SMALL
;CURVE THREE-QUARTER CIRCLE MEDIUM;HUMP SMALL;HUMP MEDIUM;HUMP LARGE;LOOP SMALL;LOOP MEDIUM
;LOOP LARGE;LOOP SMALL DOUBLE;WAVE CURVE DOUBLE SMALL;WAVE CURVE DOUBLE MEDIUM
;WAVE CURVE DOUBLE LARGE;WAVE CURVE TRIPLE SMALL;WAVE CURVE TRIPLE MEDIUM
;WAVE CURVE TRIPLE LARGE;CURVE THEN STRAIGHT;CURVED CROSS SMALL;CURVED CROSS MEDIUM
1D9A2;SIGNWRITING ROTATION-WALLPLANE ;SINGLE;DOUBLE;ALTERNATE
1D9A5;SIGNWRITING MOVEMENT-WALLPLANE ;SHAKING;CURVE HITTING FRONT WALL;HUMP HITTING FRONT WALL
;LOOP HITTING FRONT WALL;WAVE HITTING FRONT WALL
1D9AA;SIGNWRITING ROTATION-WALLPLANE ;SINGLE HITTING FRONT WALL;DOUBLE HITTING FRONT WALL
;ALTERNATING HITTING FRONT WALL
1D9AD;SIGNWRITING MOVEMENT-WALLPLANE ;CURVE HITTING CHEST;HUMP HITTING CHEST;LOOP HITTING CHEST
;WAVE HITTING CHEST
1D9B1;SIGNWRITING ROTATION-WALLPLANE ;SINGLE HITTING CHEST;DOUBLE HITTING CHEST
;ALTERNATING HITTING CHEST
1D9B4;SIGNWRITING MOVEMENT-WALLPLANE WAVE DIAGONAL PATH ;SMALL;MEDIUM;LARGE
1D9B7;SIGNWRITING MOVEMENT-FLOORPLANE CURVE HITTING CEILING ;SMALL;LARGE
1D9B9;SIGNWRITING MOVEMENT-FLOORPLANE HUMP HITTING CEILING ;SMALL DOUBLE;LARGE DOUBLE
;SMALL TRIPLE;LARGE TRIPLE
1D9BD;SIGNWRITING MOVEMENT-FLOORPLANE LOOP HITTING CEILING ;SMALL SINGLE;LARGE SINGLE
;SMALL DOUBLE;LARGE DOUBLE
1D9C1;SIGNWRITING MOVEMENT-FLOORPLANE WAVE HITTING CEILING ;SMALL;LARGE
1D9C3;SIGNWRITING ROTATION-FLOORPLANE ;SINGLE HITTING CEILING;DOUBLE HITTING CEILING
;ALTERNATING HITTING CEILING
1D9C6;SIGNWRITING MOVEMENT-FLOORPLANE CURVE HITTING FLOOR ;SMALL;LARGE
1D9C8;SIGNWRITING MOVEMENT-FLOORPLANE HUMP HITTING FLOOR ;SMALL DOUBLE;LARGE DOUBLE
;TRIPLE SMALL TRIPLE;TRIPLE LARGE TRIPLE
1D9CC;SIGNWRITING MOVEMENT-FLOORPLANE LOOP HITTING FLOOR ;SMALL SINGLE;LARGE SINGLE;SMALL DOUBLE
;LARGE DOUBLE
1D9D0;SIGNWRITING MOVEMENT-FLOORPLANE WAVE HITTING FLOOR ;SMALL;LARGE
1D9D2;SIGNWRITING ROTATION-FLOORPLANE ;SINGLE HITTING FLOOR;DOUBLE HITTING FLOOR
;ALTERNATING HITTING FLOOR
1D9D5;SIGNWRITING MOVEMENT-FLOORPLANE ;CURVE SMALL;CURVE MEDIUM;CURVE LARGE;CURVE LARGEST
;CURVE COMBINED;HUMP SMALL;LOOP SMALL;WAVE SNAKE;WAVE SMALL;WAVE LARGE
1D9DF;SIGNWRITING ROTATION-FLOORPLANE ;SINGLE;DOUBLE;ALTERNATING
1D9E2;SIGNWRITING MOVEMENT-FLOORPLANE SHAKING PARALLEL;
1D9E3;SIGNWRITING MOVEMENT-WALLPLANE ARM CIRCLE ;SMALL SINGLE;MEDIUM SINGLE;SMALL DOUBLE
;MEDIUM DOUBLE
1D9E7;SIGNWRITING MOVEMENT-FLOORPLANE ARM CIRCLE HITTING WALL ;SMALL SINGLE;MEDIUM SINGLE
;LARGE SINGLE;SMALL DOUBLE;MEDIUM DOUBLE;LARGE DOUBLE
1D9ED;SIGNWRITING MOVEMENT-WALLPLANE WRIST CIRCLE FRONT ;SINGLE;DOUBLE
1D9EF;SIGNWRITING MOVEMENT-FLOORPLANE WRIST CIRCLE HITTING WALL ;SINGLE;DOUBLE
1D9F1;SIGNWRITING MOVEMENT-WALLPLANE FINGER CIRCLES ;SINGLE;DOUBLE
1D9F3;SIGNWRITING MOVEMENT-FLOORPLANE FINGER CIRCLES HITTING WALL ;SINGLE;DOUBLE
1D9F5;SIGNWRITING DYNAMIC ;ARROWHEAD SMALL;ARROWHEAD LARGE;FAST;SLOW;TENSE;RELAXED;SIMULTANEOUS
;SIMULTANEOUS ALTERNATING;EVERY OTHER TIME;GRADUAL
1D9FF;SIGNWRITING HEAD;; RIM
1DA01;SIGNWRITING HEAD MOVEMENT;-WALLPLANE STRAIGHT;-WALLPLANE TILT;-FLOORPLANE STRAIGHT
;-WALLPLANE CURVE;-FLOORPLANE CURVE; CIRCLE
1DA07;SIGNWRITING FACE DIRECTION POSITION NOSE ;FORWARD TILTING;UP OR DOWN;UP OR DOWN TILTING
1DA0A;SIGNWRITING EYEBROWS STRAIGHT ;UP;NEUTRAL;DOWN
1DA0D;SIGNWRITING DREAMY EYEBROWS ;NEUTRAL DOWN;DOWN NEUTRAL;UP NEUTRAL;NEUTRAL UP
1DA11;SIGNWRITING FOREHEAD ;NEUTRAL;CONTACT;WRINKLED
1DA14;SIGNWRITING EYE;S OPEN;S SQUEEZED;S CLOSED; BLINK SINGLE; BLINK MULTIPLE;S HALF OPEN
;S WIDE OPEN;S HALF CLOSED;S WIDENING MOVEMENT; WINK;LASHES UP;LASHES DOWN;LASHES FLUTTERING
1DA21;SIGNWRITING EYEGAZE-WALLPLANE STRAIGHT;; DOUBLE; ALTERNATING
1DA24;SIGNWRITING EYEGAZE-FLOORPLANE STRAIGHT;; DOUBLE; ALTERNATING
1DA27;SIGNWRITING ;EYEGAZE-WALLPLANE CURVED;EYEGAZE-FLOORPLANE CURVED;EYEGAZE-WALLPLANE CIRCLING
;CHEEKS PUFFED;CHEEKS NEUTRAL;CHEEKS SUCKED;TENSE CHEEKS HIGH;TENSE CHEEKS MIDDLE
;TENSE CHEEKS LOW;EARS;NOSE NEUTRAL;NOSE CONTACT;NOSE WRINKLES;NOSE WIGGLES;AIR BLOWING OUT
;AIR SUCKING IN;AIR BLOW SMALL ROTATIONS;AIR SUCK SMALL ROTATIONS;BREATH INHALE;BREATH EXHALE
1DA3B;SIGNWRITING MOUTH ;CLOSED NEUTRAL;CLOSED FORWARD;CLOSED CONTACT;SMILE;SMILE WRINKLED
;SMILE OPEN;FROWN;FROWN WRINKLED;FROWN OPEN;OPEN CIRCLE;OPEN FORWARD;OPEN WRINKLED;OPEN OVAL
;OPEN OVAL WRINKLED;OPEN OVAL YAWN;OPEN RECTANGLE;OPEN RECTANGLE WRINKLED;OPEN RECTANGLE YAWN
;KISS;KISS FORWARD;KISS WRINKLED;TENSE;TENSE FORWARD;TENSE SUCKED
1DA53;SIGNWRITING ;LIPS PRESSED TOGETHER;LIP LOWER OVER UPPER;LIP UPPER OVER LOWER;MOUTH CORNERS
;MOUTH WRINKLES SINGLE;MOUTH WRINKLES DOUBLE
1DA59;SIGNWRITING TONGUE ;STICKING OUT FAR;LICKING LIPS;TIP BETWEEN LIPS
;TIP TOUCHING INSIDE MOUTH;INSIDE MOUTH RELAXED;MOVES AGAINST CHEEK;CENTRE STICKING OUT
;CENTRE INSIDE MOUTH
1DA61;SIGNWRITING TEETH;; MOVEMENT; ON TONGUE; ON TONGUE MOVEMENT; ON LIPS; ON LIPS MOVEMENT
; BITE LIPS
1DA68;SIGNWRITING ;MOVEMENT-WALLPLANE JAW;MOVEMENT-FLOORPLANE JAW;NECK;HAIR;EXCITEMENT
;SHOULDER HIP SPINE;SHOULDER HIP POSITIONS;WALLPLANE SHOULDER HIP MOVE
;FLOORPLANE SHOULDER HIP MOVE;SHOULDER TILTING FROM WAIST;TORSO-WALLPLANE STRAIGHT STRETCH
;TORSO-WALLPLANE CURVED BEND;TORSO-FLOORPLANE TWISTING;UPPER BODY TILTING FROM HIP JOINTS
;LIMB COMBINATION
1DA77;SIGNWRITING LIMB LENGTH-;1;2;3;4;5;6;7
1DA7E;SIGNWRITING FINGER;
1DA7F;SIGNWRITING LOCATION;-WALLPLANE SPACE;-FLOORPLANE SPACE; HEIGHT; WIDTH; DEPTH; HEAD NECK
; TORSO; LIMBS DIGITS
1DA87;SIGNWRITING ;COMMA;FULL STOP;SEMICOLON;COLON;PARENTHESIS
1DA9B;SIGNWRITING FILL MODIFIER-;2;3;4;5;6
1DAA1;SIGNWRITING ROTATION MODIFIER-;2;3;4;5;6;7;8;9;10;11;12;13;14;15;16
1DF00;LATIN ;SMALL LETTER FENG DIGRAPH WITH TRILL;SMALL LETTER REVERSED SCRIPT G
;LETTER SMALL CAPITAL TURNED G;SMALL LETTER REVERSED K;LETTER SMALL CAPITAL L WITH BELT
1DF05;LATIN SMALL LETTER ;LEZH WITH RETROFLEX HOOK;TURNED Y WITH BELT;REVERSED ENG
;TURNED R WITH LONG LEG AND RETROFLEX HOOK;T WITH HOOK AND RETROFLEX HOOK
1DF0A;LATIN LETTER RETROFLEX CLICK WITH RETROFLEX HOOK;
1DF0B;LATIN SMALL LETTER ;ESH WITH DOUBLE BAR;ESH WITH DOUBLE BAR AND CURL;TURNED T WITH CURL
1DF0E;LATIN LETTER ;INVERTED GLOTTAL STOP WITH CURL;STRETCHED C WITH CURL;SMALL CAPITAL TURNED K
1DF11;LATIN SMALL LETTER ;L WITH FISHHOOK;DEZH DIGRAPH WITH PALATAL HOOK
;L WITH BELT AND PALATAL HOOK;ENG WITH PALATAL HOOK;TURNED R WITH PALATAL HOOK
;R WITH FISHHOOK AND PALATAL HOOK;TESH DIGRAPH WITH PALATAL HOOK;EZH WITH PALATAL HOOK
;DEZH DIGRAPH WITH RETROFLEX HOOK;I WITH STROKE AND RETROFLEX HOOK;O WITH RETROFLEX HOOK
;TESH DIGRAPH WITH RETROFLEX HOOK;C WITH RETROFLEX HOOK;S WITH CURL
1E000;COMBINING GLAGOLITIC LETTER ;AZU;BUKY;VEDE;GLAGOLI;DOBRO;YESTU;ZHIVETE
1E008;COMBINING GLAGOLITIC LETTER ;ZEMLJA;IZHE;INITIAL IZHE;I;DJERVI;KAKO;LJUDIJE;MYSLITE;NASHI
;ONU;POKOJI;RITSI;SLOVO;TVRIDO;UKU;FRITU;HERU
1E01B;COMBINING GLAGOLITIC LETTER ;SHTA;TSI;CHRIVI;SHA;YERU;YERI;YATI
1E023;COMBINING GLAGOLITIC LETTER ;YU;SMALL YUS
1E026;COMBINING GLAGOLITIC LETTER ;YO;IOTATED SMALL YUS;BIG YUS;IOTATED BIG YUS;FITA
1E100;NYIAKENG PUACHUE HMONG LETTER ;MA;TSA;NTA;TA;HA;NA;XA;NKA;CA;LA;SA;ZA;NCA;NTSA;KA;DA;NYA
;NRA;VA;NTXA;TXA;FA;RA;QA;YA;NQA;PA;XYA;NPA;DLA;NPLA;HAH;MLA;PLA;GA;RRA;A;AA;I;U;O;OO;E;EE;W
1E130;NYIAKENG PUACHUE HMONG TONE-;B;M;J;V;S;G;D
1E137;NYIAKENG PUACHUE HMONG SIGN FOR ;PERSON;THING;LOCATION;ANIMAL;INVERTEBRATE
1E13C;NYIAKENG PUACHUE HMONG S;IGN XW XW;YLLABLE LENGTHENER
1E140;NYIAKENG PUACHUE HMONG DIGIT ;ZERO;ONE;TWO;THREE;FOUR;FIVE;SIX;SEVEN;EIGHT;NINE
1E14E;NYIAKENG PUACHUE HMONG ;LOGOGRAM NYAJ;CIRCLED CA
1E290;TOTO LETTER ;PA;BA;TA;DA;KA;GA;MA;NA;NGA;SA;CHA;YA;WA;JA;HA;RA;LA;I;BREATHY I;IU
;BREATHY IU;U;E;BREATHY E;EO;BREATHY EO;O;AE;BREATHY AE;A
1E2AE;TOTO SIGN RISING TONE;
1E2C0;WANCHO LETTER ;AA;A;BA;CA;DA;GA;YA;PHA;LA;NA;PA;TA;THA;FA;SA;SHA;JA;ZA;WA;VA;KA;O;AU;RA;MA
;KHA;HA;E;I;NGA;U;LLHA;TSA;TRA;ONG;AANG;ANG;ING;ON;EN;AAN;NYA;UEN;YIH
1E2EC;WANCHO TONE ;TUP;TUPNI;KOI;KOINI
1E2F0;WANCHO DIGIT ;ZERO;ONE;TWO;THREE;FOUR;FIVE;SIX;SEVEN;EIGHT;NINE
1E2FF;WANCHO NGUN SIGN;
1E7E0;ETHIOPIC SYLLABLE HHY;A;U;I;AA;EE;E;O
1E7E8;ETHIOPIC SYLLABLE ;GURAGE HHWA;HHWI;HHWEE;HHWE
1E7ED;ETHIOPIC SYLLABLE GURAGE MW;I;EE
1E7F0;ETHIOPIC SYLLABLE GURAGE ;QWI;QWEE;QWE;BWI;BWEE;KWI;KWEE;KWE;GWI;GWEE;GWE;FWI;FWEE;PWI
;PWEE
1E800;MENDE KIKAKUI SYLLABLE M;001 KI;002 KA;003 KU;065 KEE;095 KE;076 KOO;048 KO;179 KUA;004 WI
;005 WA;006 WU;126 WEE;118 WE;114 WOO;045 WO;194 WUI;143 WEI;061 WVI;049 WVA;139 WVE;007 MIN
;008 MAN;009 MUN;059 MEN;094 MON;154 MUAN;189 MUEN;010 BI;011 BA;012 BU;150 BEE;097 BE;103 BOO
;138 BO;013 I;014 A;015 U;163 EE;100 E;165 OO;147 O;137 EI;131 IN;135 IN;195 AN;178 EN;019 SI
;020 SA;021 SU;162 SEE;116 SE;136 SOO;079 SO;196 SIA;025 LI;026 LA;027 LU;084 LEE;073 LE;054 LOO
;153 LO;110 LONG LE;016 DI;017 DA;018 DU;089 DEE;180 DOO;181 DO;022 TI;023 TA;024 TU;091 TEE
;055 TE;104 TOO;069 TO;028 JI;029 JA;030 JU;157 JEE;113 JE;160 JOO;063 JO;175 LONG JO;031 YI
;032 YA;033 YU;109 YEE;080 YE;141 YOO;121 YO;034 FI;035 FA;036 FU;078 FEE;075 FE;133 FOO;088 FO
;197 FUA;101 FAN;037 NIN;038 NAN;039 NUN;117 NEN;169 NON;176 HI;041 HA;186 HU;040 HEE;096 HE
;042 HOO;140 HO;083 HEEI;128 HOOU;053 HIN;130 HAN;087 HUN;052 HEN;193 HON;046 HUAN;090 NGGI
;043 NGGA;082 NGGU;115 NGGEE;146 NGGE;156 NGGOO;120 NGGO;159 NGGAA;127 NGGUA;086 LONG NGGE
;106 LONG NGGOO;183 LONG NGGO;155 GI;111 GA;168 GU;190 GEE;166 GUEI;167 GUAN;184 NGEN;057 NGON
;177 NGUAN;068 PI;099 PA;050 PU;081 PEE;051 PE;102 POO;066 PO;145 MBI;062 MBA;122 MBU;047 MBEE
;188 MBEE;072 MBE;172 MBOO;174 MBO;187 MBUU;161 LONG MBE;105 LONG MBOO;142 LONG MBO;132 KPI
;092 KPA;074 KPU;044 KPEE;108 KPE;112 KPOO;158 KPO;124 GBI;056 GBA;148 GBU;093 GBEE;107 GBE
;071 GBOO;070 GBO;171 RA;123 NDI;129 NDA;125 NDU;191 NDEE;119 NDE;067 NDOO;064 NDO;152 NJA
;192 NJU;149 NJEE;134 NJOO;182 VI;185 VA;151 VU;173 VEE;085 VE;144 VOO;077 VO;164 NYIN;058 NYAN
;170 NYUN;098 NYEN;060 NYON
1E8C7;MENDE KIKAKUI DIGIT ;ONE;TWO;THREE;FOUR;FIVE;SIX;SEVEN;EIGHT;NINE
1E8D0;MENDE KIKAKUI COMBINING NUMBER ;TEENS;TENS;HUNDREDS;THOUSANDS;TEN THOUSANDS
;HUNDRED THOUSANDS;MILLIONS
1E900;ADLAM CAPITAL LETTER ;ALIF;DAALI;LAAM;MIIM;BA;SINNYIIYHE;PE;BHE;RA;E;FA;I;O;DHA;YHE;WAW
;NUN;KAF;YA;U;JIIM;CHI;HA;QAAF;GA;NYA;TU;NHA;VA;KHA;GBE;ZAL;KPO;SHA
1E922;ADLAM SMALL LETTER ;ALIF;DAALI;LAAM;MIIM;BA;SINNYIIYHE;PE;BHE;RA;E;FA;I;O;DHA;YHE;WAW;NUN
;KAF;YA;U;JIIM;CHI;HA;QAAF;GA;NYA;TU;NHA;VA;KHA;GBE;ZAL;KPO;SHA
1E944;ADLAM ;ALIF LENGTHENER;VOWEL LENGTHENER;GEMINATION MARK;HAMZA;CONSONANT MODIFIER
;GEMINATE CONSONANT MODIFIER;NUKTA;NASALIZATION MARK
1E950;ADLAM DIGIT ;ZERO;ONE;TWO;THREE;FOUR;FIVE;SIX;SEVEN;EIGHT;NINE
1E95E;ADLAM INITIAL ;EXCLAMATION MARK;QUESTION MARK
1EC71;INDIC SIYAQ NUMBER ;ONE;TWO;THREE;FOUR;FIVE;SIX;SEVEN;EIGHT;NINE;TEN;TWENTY;THIRTY;FORTY
;FIFTY;SIXTY;SEVENTY;EIGHTY;NINETY;ONE HUNDRED;TWO HUNDRED;THREE HUNDRED;FOUR HUNDRED
;FIVE HUNDRED;SIX HUNDRED;SEVEN HUNDRED;EIGHT HUNDRED;NINE HUNDRED;ONE THOUSAND;TWO THOUSAND
;THREE THOUSAND;FOUR THOUSAND;FIVE THOUSAND;SIX THOUSAND;SEVEN THOUSAND;EIGHT THOUSAND
;NINE THOUSAND;TEN THOUSAND;TWENTY THOUSAND;THIRTY THOUSAND;FORTY THOUSAND;FIFTY THOUSAND
;SIXTY THOUSAND;SEVENTY THOUSAND;EIGHTY THOUSAND;NINETY THOUSAND;LAKH;LAKHAN
1ECA0;INDIC SIYAQ ;LAKH MARK;NUMBER KAROR;NUMBER KARORAN
1ECA3;INDIC SIYAQ NUMBER PREFIXED ;ONE;TWO;THREE;FOUR;FIVE;SIX;SEVEN;EIGHT;NINE
1ECAC;INDIC SIYAQ ;PLACEHOLDER;FRACTION ONE QUARTER;FRACTION ONE HALF;FRACTION THREE QUARTERS
;RUPEE MARK;NUMBER ALTERNATE ONE;NUMBER ALTERNATE TWO;NUMBER ALTERNATE TEN THOUSAND
;ALTERNATE LAKH MARK
1ED01;OTTOMAN SIYAQ NUMBER ;ONE;TWO;THREE;FOUR;FIVE;SIX;SEVEN;EIGHT;NINE;TEN;TWENTY;THIRTY;FORTY
;FIFTY;SIXTY;SEVENTY;EIGHTY;NINETY;ONE HUNDRED;TWO HUNDRED;THREE HUNDRED;FOUR HUNDRED
;FIVE HUNDRED;SIX HUNDRED;SEVEN HUNDRED;EIGHT HUNDRED;NINE HUNDRED;ONE THOUSAND;TWO THOUSAND
;THREE THOUSAND;FOUR THOUSAND;FIVE THOUSAND;SIX THOUSAND;SEVEN THOUSAND;EIGHT THOUSAND
;NINE THOUSAND;TEN THOUSAND;TWENTY THOUSAND;THIRTY THOUSAND;FORTY THOUSAND;FIFTY THOUSAND
;SIXTY THOUSAND;SEVENTY THOUSAND;EIGHTY THOUSAND;NINETY THOUSAND
1ED2E;OTTOMAN SIYAQ MARRATAN;
1ED2F;OTTOMAN SIYAQ ALTERNATE NUMBER ;TWO;THREE;FOUR;FIVE;SIX;SEVEN;EIGHT;NINE;TEN;FOUR HUNDRED
;SIX HUNDRED;TWO THOUSAND;TEN THOUSAND
1ED3C;OTTOMAN SIYAQ FRACTION ONE ;HALF;SIXTH
1EE00;ARABIC MATHEMATICAL ;ALEF;BEH;JEEM;DAL
1EE05;ARABIC MATHEMATICAL ;WAW;ZAIN;HAH;TAH;YEH;KAF;LAM;MEEM;NOON;SEEN;AIN;FEH;SAD;QAF;REH;SHEEN
;TEH;THEH;KHAH;THAL;DAD;ZAH;GHAIN;DOTLESS BEH;DOTLESS NOON;DOTLESS FEH;DOTLESS QAF
1EE21;ARABIC MATHEMATICAL INITIAL ;BEH;JEEM
1EE24;ARABIC MATHEMATICAL INITIAL HEH;
1EE27;ARABIC MATHEMATICAL INITIAL HAH;
1EE29;ARABIC MATHEMATICAL INITIAL ;YEH;KAF;LAM;MEEM;NOON;SEEN;AIN;FEH;SAD;QAF
1EE34;ARABIC MATHEMATICAL INITIAL ;SHEEN;TEH;THEH;KHAH
1EE39;ARABIC MATHEMATICAL INITIAL DAD;
1EE3B;ARABIC MATHEMATICAL INITIAL GHAIN;
1EE42;ARABIC MATHEMATICAL TAILED JEEM;
1EE47;ARABIC MATHEMATICAL TAILED HAH;
1EE49;ARABIC MATHEMATICAL TAILED YEH;
1EE4B;ARABIC MATHEMATICAL TAILED LAM;
1EE4D;ARABIC MATHEMATICAL TAILED ;NOON;SEEN;AIN
1EE51;ARABIC MATHEMATICAL TAILED ;SAD;QAF
1EE54;ARABIC MATHEMATICAL TAILED SHEEN;
1EE57;ARABIC MATHEMATICAL TAILED KHAH;
1EE59;ARABIC MATHEMATICAL TAILED DAD;
1EE5B;ARABIC MATHEMATICAL TAILED GHAIN;
1EE5D;ARABIC MATHEMATICAL TAILED DOTLESS NOON;
1EE5F;ARABIC MATHEMATICAL TAILED DOTLESS QAF;
1EE61;ARABIC MATHEMATICAL STRETCHED ;BEH;JEEM
1EE64;ARABIC MATHEMATICAL STRETCHED HEH;
1EE67;ARABIC MATHEMATICAL STRETCHED ;HAH;TAH;YEH;KAF
1EE6C;ARABIC MATHEMATICAL STRETCHED ;MEEM;NOON;SEEN;AIN;FEH;SAD;QAF
1EE74;ARABIC MATHEMATICAL STRETCHED ;SHEEN;TEH;THEH;KHAH
1EE79;ARABIC MATHEMATICAL STRETCHED ;DAD;ZAH;GHAIN;DOTLESS BEH
1EE7E;ARABIC MATHEMATICAL STRETCHED DOTLESS FEH;
1EE80;ARABIC MATHEMATICAL LOOPED ;ALEF;BEH;JEEM;DAL;HEH;WAW;ZAIN;HAH;TAH;YEH
1EE8B;ARABIC MATHEMATICAL LOOPED ;LAM;MEEM;NOON;SEEN;AIN;FEH;SAD;QAF;REH;SHEEN;TEH;THEH;KHAH
;THAL;DAD;ZAH;GHAIN
1EEA1;ARABIC MATHEMATICAL DOUBLE-STRUCK ;BEH;JEEM;DAL
1EEA5;ARABIC MATHEMATICAL DOUBLE-STRUCK ;WAW;ZAIN;HAH;TAH;YEH
1EEAB;ARABIC MATHEMATICAL DOUBLE-STRUCK ;LAM;MEEM;NOON;SEEN;AIN;FEH;SAD;QAF;REH;SHEEN;TEH;THEH
;KHAH;THAL;DAD;ZAH;GHAIN
1EEF0;ARABIC MATHEMATICAL OPERATOR ;MEEM WITH HAH WITH TATWEEL;HAH WITH DAL
1F000;MAHJONG TILE ;EAST WIND;SOUTH WIND;WEST WIND;NORTH WIND;RED DRAGON;GREEN DRAGON
;WHITE DRAGON;ONE OF CHARACTERS;TWO OF CHARACTERS;THREE OF CHARACTERS;FOUR OF CHARACTERS
;FIVE OF CHARACTERS;SIX OF CHARACTERS;SEVEN OF CHARACTERS;EIGHT OF CHARACTERS;NINE OF CHARACTERS
;ONE OF BAMBOOS;TWO OF BAMBOOS;THREE OF BAMBOOS;FOUR OF BAMBOOS;FIVE OF BAMBOOS;SIX OF BAMBOOS
;SEVEN OF BAMBOOS;EIGHT OF BAMBOOS;NINE OF BAMBOOS;ONE OF CIRCLES;TWO OF CIRCLES
;THREE OF CIRCLES;FOUR OF CIRCLES;FIVE OF CIRCLES;SIX OF CIRCLES;SEVEN OF CIRCLES
;EIGHT OF CIRCLES;NINE OF CIRCLES;PLUM;ORCHID;BAMBOO;CHRYSANTHEMUM;SPRING;SUMMER;AUTUMN;WINTER
;JOKER;BACK
1F030;DOMINO TILE HORIZONTAL BACK;
1F031;DOMINO TILE HORIZONTAL-0;0-00;0-01;0-02;0-03;0-04;0-05;0-06;1-00;1-01;1-02;1-03;1-04;1-05
;1-06;2-00;2-01;2-02;2-03;2-04;2-05;2-06;3-00;3-01;3-02;3-03;3-04;3-05;3-06;4-00;4-01;4-02;4-03
;4-04;4-05;4-06;5-00;5-01;5-02;5-03;5-04;5-05;5-06;6-00;6-01;6-02;6-03;6-04;6-05;6-06
1F062;DOMINO TILE VERTICAL BACK;
1F063;DOMINO TILE VERTICAL-0;0-00;0-01;0-02;0-03;0-04;0-05;0-06;1-00;1-01;1-02;1-03;1-04;1-05
;1-06;2-00;2-01;2-02;2-03;2-04;2-05;2-06;3-00;3-01;3-02;3-03;3-04;3-05;3-06;4-00;4-01;4-02;4-03
;4-04;4-05;4-06;5-00;5-01;5-02;5-03;5-04;5-05;5-06;6-00;6-01;6-02;6-03;6-04;6-05;6-06
1F0A0;PLAYING CARD ;BACK;ACE OF SPADES;TWO OF SPADES;THREE OF SPADES;FOUR OF SPADES
;FIVE OF SPADES;SIX OF SPADES;SEVEN OF SPADES;EIGHT OF SPADES;NINE OF SPADES;TEN OF SPADES
;JACK OF SPADES;KNIGHT OF SPADES;QUEEN OF SPADES;KING OF SPADES
1F0B1;PLAYING CARD ;ACE OF HEARTS;TWO OF HEARTS;THREE OF HEARTS;FOUR OF HEARTS;FIVE OF HEARTS
;SIX OF HEARTS;SEVEN OF HEARTS;EIGHT OF HEARTS;NINE OF HEARTS;TEN OF HEARTS;JACK OF HEARTS
;KNIGHT OF HEARTS;QUEEN OF HEARTS;KING OF HEARTS;RED JOKER
1F0C1;PLAYING CARD ;ACE OF DIAMONDS;TWO OF DIAMONDS;THREE OF DIAMONDS;FOUR OF DIAMONDS
;FIVE OF DIAMONDS;SIX OF DIAMONDS;SEVEN OF DIAMONDS;EIGHT OF DIAMONDS;NINE OF DIAMONDS
;TEN OF DIAMONDS;JACK OF DIAMONDS;KNIGHT OF DIAMONDS;QUEEN OF DIAMONDS;KING OF DIAMONDS
;BLACK JOKER
1F0D1;PLAYING CARD ;ACE OF CLUBS;TWO OF CLUBS;THREE OF CLUBS;FOUR OF CLUBS;FIVE OF CLUBS
;SIX OF CLUBS;SEVEN OF CLUBS;EIGHT OF CLUBS;NINE OF CLUBS;TEN OF CLUBS;JACK OF CLUBS
;KNIGHT OF CLUBS;QUEEN OF CLUBS;KING OF CLUBS;WHITE JOKER;FOOL
1F0E1;PLAYING CARD TRUMP-;1;2;3;4;5;6;7;8;9;10;11;12;13;14;15;16;17;18;19;20;21
1F100;DIGIT ;ZERO FULL STOP;ZERO COMMA;ONE COMMA;TWO COMMA;THREE COMMA;FOUR COMMA;FIVE COMMA
;SIX COMMA;SEVEN COMMA;EIGHT COMMA;NINE COMMA
1F10B;DINGBAT ;CIRCLED SANS-SERIF DIGIT ZERO;NEGATIVE CIRCLED SANS-SERIF DIGIT ZERO
1F10D;CIRCLED ;ZERO WITH SLASH;ANTICLOCKWISE ARROW;DOLLAR SIGN WITH OVERLAID BACKSLASH
1F110;PARENTHESIZED LATIN CAPITAL LETTER ;A;B;C;D;E;F;G;H;I;J;K;L;M;N;O;P;Q;R;S;T;U;V;W;X;Y;Z
1F12A;TORTOISE SHELL BRACKETED LATIN CAPITAL LETTER S;
1F12B;CIRCLED ITALIC LATIN CAPITAL LETTER ;C;R
1F12D;CIRCLED ;CD;WZ
1F12F;COPY;LEFT SYMBOL
1F130;SQUARED LATIN CAPITAL LETTER ;A;B;C;D;E;F;G;H;I;J;K;L;M;N;O;P;Q;R;S;T;U;V;W;X;Y;Z
1F14A;SQUARED ;HV;MV;SD;SS;PPV;WC
1F150;NEGATIVE CIRCLED LATIN CAPITAL LETTER ;A;B;C;D;E;F;G;H;I;J;K;L;M;N;O;P;Q;R;S;T;U;V;W;X;Y;Z
1F16A;RAISED M;C SIGN;D SIGN;R SIGN
1F16D;CIRCLED ;CC;C WITH OVERLAID BACKSLASH;HUMAN FIGURE
1F170;NEGATIVE SQUARED LATIN CAPITAL LETTER ;A;B;C;D;E;F;G;H;I;J;K;L;M;N;O;P;Q;R;S;T;U;V;W;X;Y;Z
1F18A;CROSSED NEGATIVE SQUARED LATIN CAPITAL LETTER P;
1F18B;NEGATIVE SQUARED ;IC;PA;SA;AB;WC
1F190;SQUARE DJ;
1F191;SQUARED ;CL;COOL;FREE;ID;NEW;NG;OK;SOS;UP WITH EXCLAMATION MARK;VS;THREE D;SECOND SCREEN
;TWO K;FOUR K;EIGHT K;FIVE POINT ONE;SEVEN POINT ONE;TWENTY-TWO POINT TWO;SIXTY P
;ONE HUNDRED TWENTY P;LATIN SMALL LETTER D;HC;HDR;HI-RES;LOSSLESS;SHV;UHD;VOD
1F1AD;MASK WORK SYMBOL;
1F1E6;REGIONAL INDICATOR SYMBOL LETTER ;A;B;C;D;E;F;G;H;I;J;K;L;M;N;O;P;Q;R;S;T;U;V;W;X;Y;Z
1F200;SQUARE; HIRAGANA HOKA;D KATAKANA KOKO;D KATAKANA SA
1F210;SQUARED CJK UNIFIED IDEOGRAPH-;624B;5B57;53CC
1F213;SQUARED KATAKANA DE;
1F214;SQUARED CJK UNIFIED IDEOGRAPH-;4E8C;591A;89E3;5929;4EA4;6620;7121;6599;524D;5F8C;518D;65B0
;521D;7D42;751F;8CA9;58F0;5439;6F14;6295;6355;4E00;4E09;904A;5DE6;4E2D;53F3;6307;8D70;6253;7981
;7A7A;5408;6E80;6709;6708;7533;5272;55B6;914D
1F240;TORTOISE SHELL BRACKETED CJK UNIFIED IDEOGRAPH-;672C;4E09;4E8C;5B89;70B9;6253;76D7;52DD
;6557
1F250;CIRCLED IDEOGRAPH A;DVANTAGE;CCEPT
1F260;ROUNDED SYMBOL FOR ;FU;LU;SHOU;XI;SHUANGXI;CAI
1F300;;CYCLONE;FOGGY;CLOSED UMBRELLA;NIGHT WITH STARS;SUNRISE OVER MOUNTAINS;SUNRISE
;CITYSCAPE AT DUSK;SUNSET OVER BUILDINGS;RAINBOW;BRIDGE AT NIGHT;WATER WAVE;VOLCANO;MILKY WAY
1F30D;EARTH GLOBE ;EUROPE-AFRICA;AMERICAS;ASIA-AUSTRALIA
1F310;;GLOBE WITH MERIDIANS;NEW MOON SYMBOL;WAXING CRESCENT MOON SYMBOL
;FIRST QUARTER MOON SYMBOL;WAXING GIBBOUS MOON SYMBOL;FULL MOON SYMBOL
;WANING GIBBOUS MOON SYMBOL;LAST QUARTER MOON SYMBOL;WANING CRESCENT MOON SYMBOL;CRESCENT MOON
;NEW MOON WITH FACE;FIRST QUARTER MOON WITH FACE;LAST QUARTER MOON WITH FACE;FULL MOON WITH FACE
;SUN WITH FACE;GLOWING STAR;SHOOTING STAR;THERMOMETER;BLACK DROPLET
1F323;WHITE SUN;; WITH SMALL CLOUD; BEHIND CLOUD; BEHIND CLOUD WITH RAIN
1F327;CLOUD WITH ;RAIN;SNOW;LIGHTNING;TORNADO
1F32B;;FOG;WIND BLOWING FACE;HOT DOG;TACO;BURRITO;CHESTNUT;SEEDLING;EVERGREEN TREE
;DECIDUOUS TREE;PALM TREE;CACTUS;HOT PEPPER;TULIP;CHERRY BLOSSOM;ROSE;HIBISCUS;SUNFLOWER;BLOSSOM
;EAR OF MAIZE;EAR OF RICE;HERB;FOUR LEAF CLOVER;MAPLE LEAF;FALLEN LEAF;LEAF FLUTTERING IN WIND
;MUSHROOM;TOMATO;AUBERGINE;GRAPES;MELON;WATERMELON;TANGERINE;LEMON;BANANA;PINEAPPLE;RED APPLE
;GREEN APPLE;PEAR;PEACH;CHERRIES;STRAWBERRY;HAMBURGER;SLICE OF PIZZA;MEAT ON BONE;POULTRY LEG
;RICE CRACKER;RICE BALL;COOKED RICE;CURRY AND RICE;STEAMING BOWL;SPAGHETTI;BREAD;FRENCH FRIES
;ROASTED SWEET POTATO;DANGO;ODEN;SUSHI;FRIED SHRIMP;FISH CAKE WITH SWIRL DESIGN;SOFT ICE CREAM
;SHAVED ICE;ICE CREAM;DOUGHNUT;COOKIE;CHOCOLATE BAR;CANDY;LOLLIPOP;CUSTARD;HONEY POT;SHORTCAKE
;BENTO BOX;POT OF FOOD;COOKING;FORK AND KNIFE;TEACUP WITHOUT HANDLE;SAKE BOTTLE AND CUP
;WINE GLASS;COCKTAIL GLASS;TROPICAL DRINK;BEER MUG;CLINKING BEER MUGS;BABY BOTTLE
;FORK AND KNIFE WITH PLATE;BOTTLE WITH POPPING CORK;POPCORN;RIBBON;WRAPPED PRESENT;BIRTHDAY CAKE
;JACK-O-LANTERN;CHRISTMAS TREE;FATHER CHRISTMAS;FIREWORKS;FIREWORK SPARKLER;BALLOON;PARTY POPPER
;CONFETTI BALL;TANABATA TREE;CROSSED FLAGS;PINE DECORATION;JAPANESE DOLLS;CARP STREAMER
;WIND CHIME;MOON VIEWING CEREMONY;SCHOOL SATCHEL;GRADUATION CAP;HEART WITH TIP ON THE LEFT
;BOUQUET OF FLOWERS;MILITARY MEDAL;REMINDER RIBBON;MUSICAL KEYBOARD WITH JACKS;STUDIO MICROPHONE
;LEVEL SLIDER;CONTROL KNOBS;BEAMED ASCENDING MUSICAL NOTES;BEAMED DESCENDING MUSICAL NOTES
;FILM FRAMES;ADMISSION TICKETS;CAROUSEL HORSE;FERRIS WHEEL;ROLLER COASTER;FISHING POLE AND FISH
;MICROPHONE;MOVIE CAMERA;CINEMA;HEADPHONE;ARTIST PALETTE;TOP HAT;CIRCUS TENT;TICKET
;CLAPPER BOARD;PERFORMING ARTS;VIDEO GAME;DIRECT HIT;SLOT MACHINE;BILLIARDS;GAME DIE;BOWLING
;FLOWER PLAYING CARDS;MUSICAL NOTE;MULTIPLE MUSICAL NOTES;SAXOPHONE;GUITAR;MUSICAL KEYBOARD
;TRUMPET;VIOLIN;MUSICAL SCORE;RUNNING SHIRT WITH SASH;TENNIS RACQUET AND BALL;SKI AND SKI BOOT
;BASKETBALL AND HOOP;CHEQUERED FLAG;SNOWBOARDER;RUNNER;SURFER;SPORTS MEDAL;TROPHY;HORSE RACING
;AMERICAN FOOTBALL;RUGBY FOOTBALL;SWIMMER;WEIGHT LIFTER;GOLFER;RACING MOTORCYCLE;RACING CAR
;CRICKET BAT AND BALL;VOLLEYBALL;FIELD HOCKEY STICK AND BALL;ICE HOCKEY STICK AND PUCK
;TABLE TENNIS PADDLE AND BALL;SNOW CAPPED MOUNTAIN;CAMPING;BEACH WITH UMBRELLA
;BUILDING CONSTRUCTION;HOUSE BUILDINGS;CITYSCAPE;DERELICT HOUSE BUILDING;CLASSICAL BUILDING
;DESERT;DESERT ISLAND;NATIONAL PARK;STADIUM;HOUSE BUILDING;HOUSE WITH GARDEN;OFFICE BUILDING
;JAPANESE POST OFFICE;EUROPEAN POST OFFICE;HOSPITAL;BANK;AUTOMATED TELLER MACHINE;HOTEL
;LOVE HOTEL;CONVENIENCE STORE;SCHOOL;DEPARTMENT STORE;FACTORY;IZAKAYA LANTERN;JAPANESE CASTLE
;EUROPEAN CASTLE;WHITE PENNANT;BLACK PENNANT;WAVING WHITE FLAG;WAVING BLACK FLAG;ROSETTE
;BLACK ROSETTE;LABEL;BADMINTON RACQUET AND SHUTTLECOCK;BOW AND ARROW;AMPHORA
1F3FB;EMOJI MODIFIER FITZPATRICK TYPE-;1-2;3;4;5;6
1F400;;RAT;MOUSE;OX;WATER BUFFALO;COW;TIGER;LEOPARD;RABBIT;CAT;DRAGON;CROCODILE;WHALE;SNAIL
;SNAKE;HORSE;RAM;GOAT;SHEEP;MONKEY;ROOSTER;CHICKEN;DOG;PIG;BOAR;ELEPHANT;OCTOPUS;SPIRAL SHELL
;BUG;ANT;HONEYBEE;LADY BEETLE;FISH;TROPICAL FISH;BLOWFISH;TURTLE;HATCHING CHICK;BABY CHICK
;FRONT-FACING BABY CHICK;BIRD;PENGUIN;KOALA;POODLE;DROMEDARY CAMEL;BACTRIAN CAMEL;DOLPHIN
;MOUSE FACE;COW FACE;TIGER FACE;RABBIT FACE;CAT FACE;DRAGON FACE;SPOUTING WHALE;HORSE FACE
;MONKEY FACE;DOG FACE;PIG FACE;FROG FACE;HAMSTER FACE;WOLF FACE;BEAR FACE;PANDA FACE;PIG NOSE
;PAW PRINTS;CHIPMUNK;EYES;EYE;EAR;NOSE;MOUTH;TONGUE
1F446;WHITE ;UP POINTING BACKHAND INDEX;DOWN POINTING BACKHAND INDEX
;LEFT POINTING BACKHAND INDEX;RIGHT POINTING BACKHAND INDEX
1F44A;;FISTED HAND SIGN;WAVING HAND SIGN;OK HAND SIGN;THUMBS UP SIGN;THUMBS DOWN SIGN
;CLAPPING HANDS SIGN;OPEN HANDS SIGN;CROWN;WOMANS HAT;EYEGLASSES;NECKTIE;T-SHIRT;JEANS;DRESS
;KIMONO;BIKINI;WOMANS CLOTHES;PURSE;HANDBAG;POUCH;MANS SHOE;ATHLETIC SHOE;HIGH-HEELED SHOE
;WOMANS SANDAL;WOMANS BOOTS;FOOTPRINTS;BUST IN SILHOUETTE;BUSTS IN SILHOUETTE;BOY;GIRL;MAN;WOMAN
;FAMILY;MAN AND WOMAN HOLDING HANDS;TWO MEN HOLDING HANDS;TWO WOMEN HOLDING HANDS;POLICE OFFICER
;WOMAN WITH BUNNY EARS;BRIDE WITH VEIL;PERSON WITH BLOND HAIR;MAN WITH GUA PI MAO
;MAN WITH TURBAN;OLDER MAN;OLDER WOMAN;BABY;CONSTRUCTION WORKER;PRINCESS;JAPANESE OGRE
;JAPANESE GOBLIN;GHOST;BABY ANGEL;EXTRATERRESTRIAL ALIEN;ALIEN MONSTER;IMP;SKULL
;INFORMATION DESK PERSON;GUARDSMAN;DANCER;LIPSTICK;NAIL POLISH;FACE MASSAGE;HAIRCUT;BARBER POLE
;SYRINGE;PILL;KISS MARK;LOVE LETTER;RING;GEM STONE;KISS;BOUQUET;COUPLE WITH HEART;WEDDING
;BEATING HEART;BROKEN HEART;TWO HEARTS;SPARKLING HEART;GROWING HEART;HEART WITH ARROW;BLUE HEART
;GREEN HEART;YELLOW HEART;PURPLE HEART;HEART WITH RIBBON;REVOLVING HEARTS;HEART DECORATION
;DIAMOND SHAPE WITH A DOT INSIDE;ELECTRIC LIGHT BULB;ANGER SYMBOL;BOMB;SLEEPING SYMBOL
;COLLISION SYMBOL;SPLASHING SWEAT SYMBOL;DROPLET;DASH SYMBOL;PILE OF POO;FLEXED BICEPS
;DIZZY SYMBOL;SPEECH BALLOON;THOUGHT BALLOON;WHITE FLOWER;HUNDRED POINTS SYMBOL;MONEY BAG
;CURRENCY EXCHANGE;HEAVY DOLLAR SIGN;CREDIT CARD
1F4B4;BANKNOTE WITH ;YEN SIGN;DOLLAR SIGN;EURO SIGN;POUND SIGN
1F4B8;;MONEY WITH WINGS;CHART WITH UPWARDS TREND AND YEN SIGN;SEAT;PERSONAL COMPUTER;BRIEFCASE
;MINIDISC;FLOPPY DISK;OPTICAL DISC;DVD;FILE FOLDER;OPEN FILE FOLDER;PAGE WITH CURL
;PAGE FACING UP;CALENDAR;TEAR-OFF CALENDAR;CARD INDEX;CHART WITH UPWARDS TREND
;CHART WITH DOWNWARDS TREND;BAR CHART;CLIPBOARD;PUSHPIN;ROUND PUSHPIN;PAPERCLIP;STRAIGHT RULER
;TRIANGULAR RULER;BOOKMARK TABS;LEDGER;NOTEBOOK;NOTEBOOK WITH DECORATIVE COVER;CLOSED BOOK
;OPEN BOOK;GREEN BOOK;BLUE BOOK;ORANGE BOOK;BOOKS;NAME BADGE;SCROLL;MEMO;TELEPHONE RECEIVER
;PAGER;FAX MACHINE;SATELLITE ANTENNA;PUBLIC ADDRESS LOUDSPEAKER;CHEERING MEGAPHONE;OUTBOX TRAY
;INBOX TRAY;PACKAGE;E-MAIL SYMBOL;INCOMING ENVELOPE;ENVELOPE WITH DOWNWARDS ARROW ABOVE
1F4EA;CLOSED MAILBOX WITH ;LOWERED FLAG;RAISED FLAG
1F4EC;OPEN MAILBOX WITH ;RAISED FLAG;LOWERED FLAG
1F4EE;;POSTBOX;POSTAL HORN;NEWSPAPER;MOBILE PHONE;MOBILE PHONE WITH RIGHTWARDS ARROW AT LEFT
;VIBRATION MODE;MOBILE PHONE OFF;NO MOBILE PHONES;ANTENNA WITH BARS;CAMERA;CAMERA WITH FLASH
;VIDEO CAMERA;TELEVISION;RADIO;VIDEOCASSETTE;FILM PROJECTOR;PORTABLE STEREO;PRAYER BEADS
;TWISTED RIGHTWARDS ARROWS
1F501;CLOCKWISE RIGHTWARDS AND LEFTWARDS OPEN CIRCLE ARROWS;; WITH CIRCLED ONE OVERLAY
1F503;;CLOCKWISE DOWNWARDS AND UPWARDS OPEN CIRCLE ARROWS
;ANTICLOCKWISE DOWNWARDS AND UPWARDS OPEN CIRCLE ARROWS;LOW BRIGHTNESS SYMBOL
;HIGH BRIGHTNESS SYMBOL
1F507;SPEAKER; WITH CANCELLATION STROKE;; WITH ONE SOUND WAVE; WITH THREE SOUND WAVES
1F50B;;BATTERY;ELECTRIC PLUG;LEFT-POINTING MAGNIFYING GLASS;RIGHT-POINTING MAGNIFYING GLASS
;LOCK WITH INK PEN;CLOSED LOCK WITH KEY;KEY;LOCK;OPEN LOCK;BELL;BELL WITH CANCELLATION STROKE
;BOOKMARK;LINK SYMBOL;RADIO BUTTON;BACK WITH LEFTWARDS ARROW ABOVE
;END WITH LEFTWARDS ARROW ABOVE;ON WITH EXCLAMATION MARK WITH LEFT RIGHT ARROW ABOVE
;SOON WITH RIGHTWARDS ARROW ABOVE;TOP WITH UPWARDS ARROW ABOVE;NO ONE UNDER EIGHTEEN SYMBOL
;KEYCAP TEN
1F520;INPUT SYMBOL FOR ;LATIN CAPITAL LETTERS;LATIN SMALL LETTERS;NUMBERS;SYMBOLS;LATIN LETTERS
1F525;;FIRE;ELECTRIC TORCH;WRENCH;HAMMER;NUT AND BOLT;HOCHO;PISTOL;MICROSCOPE;TELESCOPE
;CRYSTAL BALL;SIX POINTED STAR WITH MIDDLE DOT;JAPANESE SYMBOL FOR BEGINNER;TRIDENT EMBLEM
;BLACK SQUARE BUTTON;WHITE SQUARE BUTTON
1F534;LARGE ;RED CIRCLE;BLUE CIRCLE;ORANGE DIAMOND;BLUE DIAMOND
1F538;;SMALL ORANGE DIAMOND;SMALL BLUE DIAMOND;UP-POINTING RED TRIANGLE
;DOWN-POINTING RED TRIANGLE;UP-POINTING SMALL RED TRIANGLE;DOWN-POINTING SMALL RED TRIANGLE
;LOWER RIGHT SHADOWED WHITE CIRCLE;UPPER RIGHT SHADOWED WHITE CIRCLE;CIRCLED CROSS POMMEE
;CROSS POMMEE WITH HALF-CIRCLE BELOW;CROSS POMMEE;NOTCHED LEFT SEMICIRCLE WITH THREE DOTS
;NOTCHED RIGHT SEMICIRCLE WITH THREE DOTS;SYMBOL FOR MARKS CHAPTER;WHITE LATIN CROSS
;HEAVY LATIN CROSS;CELTIC CROSS;OM SYMBOL;DOVE OF PEACE;KAABA;MOSQUE;SYNAGOGUE
;MENORAH WITH NINE BRANCHES;BOWL OF HYGIEIA
1F550;CLOCK FACE ;ONE OCLOCK;TWO OCLOCK;THREE OCLOCK;FOUR OCLOCK;FIVE OCLOCK;SIX OCLOCK
;SEVEN OCLOCK;EIGHT OCLOCK;NINE OCLOCK;TEN OCLOCK;ELEVEN OCLOCK;TWELVE OCLOCK;ONE-THIRTY
;TWO-THIRTY;THREE-THIRTY;FOUR-THIRTY;FIVE-THIRTY;SIX-THIRTY;SEVEN-THIRTY;EIGHT-THIRTY
;NINE-THIRTY;TEN-THIRTY;ELEVEN-THIRTY;TWELVE-THIRTY
1F568;RIGHT SPEAKER;; WITH ONE SOUND WAVE; WITH THREE SOUND WAVES
1F56B;BULLHORN;; WITH SOUND WAVES
1F56D;;RINGING BELL;BOOK;CANDLE;MANTELPIECE CLOCK;BLACK SKULL AND CROSSBONES;NO PIRACY;HOLE
;MAN IN BUSINESS SUIT LEVITATING;SLEUTH OR SPY;DARK SUNGLASSES;SPIDER;SPIDER WEB;JOYSTICK
;MAN DANCING;LEFT HAND TELEPHONE RECEIVER;TELEPHONE RECEIVER WITH PAGE
;RIGHT HAND TELEPHONE RECEIVER;WHITE TOUCHTONE TELEPHONE;BLACK TOUCHTONE TELEPHONE
;TELEPHONE ON TOP OF MODEM;CLAMSHELL MOBILE PHONE;BACK OF ENVELOPE;STAMPED ENVELOPE
;ENVELOPE WITH LIGHTNING;FLYING ENVELOPE;PEN OVER STAMPED ENVELOPE;LINKED PAPERCLIPS
;BLACK PUSHPIN
1F589;LOWER LEFT ;PENCIL;BALLPOINT PEN;FOUNTAIN PEN;PAINTBRUSH;CRAYON
1F58E;;LEFT WRITING HAND;TURNED OK HAND SIGN;RAISED HAND WITH FINGERS SPLAYED
1F591;REVERSED ;RAISED HAND WITH FINGERS SPLAYED;THUMBS UP SIGN;THUMBS DOWN SIGN;VICTORY HAND
;HAND WITH MIDDLE FINGER EXTENDED
1F596;;RAISED HAND WITH PART BETWEEN MIDDLE AND RING FINGERS;WHITE DOWN POINTING LEFT HAND INDEX
1F598;SIDEWAYS ;WHITE LEFT POINTING INDEX;WHITE RIGHT POINTING INDEX;BLACK LEFT POINTING INDEX
;BLACK RIGHT POINTING INDEX
1F59C;BLACK ;LEFT POINTING BACKHAND INDEX;RIGHT POINTING BACKHAND INDEX
1F59E;SIDEWAYS ;WHITE UP POINTING INDEX;WHITE DOWN POINTING INDEX;BLACK UP POINTING INDEX
;BLACK DOWN POINTING INDEX
1F5A2;BLACK ;UP POINTING BACKHAND INDEX;DOWN POINTING BACKHAND INDEX;HEART
1F5A5;;DESKTOP COMPUTER;KEYBOARD AND MOUSE;THREE NETWORKED COMPUTERS;PRINTER;POCKET CALCULATOR
;BLACK HARD SHELL FLOPPY DISK;WHITE HARD SHELL FLOPPY DISK;SOFT SHELL FLOPPY DISK;TAPE CARTRIDGE
;WIRED KEYBOARD;ONE BUTTON MOUSE;TWO BUTTON MOUSE;THREE BUTTON MOUSE;TRACKBALL
;OLD PERSONAL COMPUTER;HARD DISK;SCREEN;PRINTER ICON;FAX ICON;OPTICAL DISC ICON
1F5B9;DOCUMENT WITH ;TEXT;TEXT AND PICTURE;PICTURE
1F5BC;FRAME WITH ;PICTURE;TILES;AN X
1F5BF;;BLACK FOLDER;FOLDER;OPEN FOLDER;CARD INDEX DIVIDERS;CARD FILE BOX;FILE CABINET
1F5C5;EMPTY NOTE;; PAGE; PAD
1F5C8;NOTE;; PAGE; PAD
1F5CB;EMPTY ;DOCUMENT;PAGE;PAGES
1F5CE;;DOCUMENT;PAGE;PAGES;WASTEBASKET;SPIRAL NOTE PAD;SPIRAL CALENDAR PAD;DESKTOP WINDOW
;MINIMIZE;MAXIMIZE;OVERLAP;CLOCKWISE RIGHT AND LEFT SEMICIRCLE ARROWS;CANCELLATION X
;INCREASE FONT SIZE SYMBOL;DECREASE FONT SIZE SYMBOL;COMPRESSION;OLD KEY;ROLLED-UP NEWSPAPER
;PAGE WITH CIRCLED TEXT;STOCK CHART;DAGGER KNIFE;LIPS;SPEAKING HEAD IN SILHOUETTE
1F5E4;THREE RAYS ;ABOVE;BELOW;LEFT;RIGHT
1F5E8;;LEFT SPEECH BUBBLE;RIGHT SPEECH BUBBLE;TWO SPEECH BUBBLES;THREE SPEECH BUBBLES
;LEFT THOUGHT BUBBLE;RIGHT THOUGHT BUBBLE;LEFT ANGER BUBBLE;RIGHT ANGER BUBBLE;MOOD BUBBLE
1F5F1;LIGHTNING MOOD; BUBBLE;
1F5F3;BALLOT ;BOX WITH BALLOT;SCRIPT X;BOX WITH SCRIPT X;BOLD SCRIPT X;BOX WITH BOLD SCRIPT X
1F5F8;;LIGHT CHECK MARK;BALLOT BOX WITH BOLD CHECK;WORLD MAP;MOUNT FUJI;TOKYO TOWER
;STATUE OF LIBERTY;SILHOUETTE OF JAPAN;MOYAI;GRINNING FACE;GRINNING FACE WITH SMILING EYES
;FACE WITH TEARS OF JOY
1F603;SMILING FACE WITH OPEN MOUTH;; AND SMILING EYES; AND COLD SWEAT; AND TIGHTLY-CLOSED EYES
1F607;SMILING FACE WITH H;ALO;ORNS
1F609;;WINKING FACE;SMILING FACE WITH SMILING EYES;FACE SAVOURING DELICIOUS FOOD;RELIEVED FACE
1F60D;SMILING FACE WITH ;HEART-SHAPED EYES;SUNGLASSES
1F60F;;SMIRKING FACE;NEUTRAL FACE;EXPRESSIONLESS FACE;UNAMUSED FACE;FACE WITH COLD SWEAT
;PENSIVE FACE;CONFUSED FACE;CONFOUNDED FACE;KISSING FACE;FACE THROWING A KISS
1F619;KISSING FACE WITH ;SMILING EYES;CLOSED EYES
1F61B;FACE WITH STUCK-OUT TONGUE;; AND WINKING EYE; AND TIGHTLY-CLOSED EYES
1F61E;;DISAPPOINTED FACE;WORRIED FACE;ANGRY FACE;POUTING FACE;CRYING FACE;PERSEVERING FACE
;FACE WITH LOOK OF TRIUMPH;DISAPPOINTED BUT RELIEVED FACE;FROWNING FACE WITH OPEN MOUTH
;ANGUISHED FACE;FEARFUL FACE;WEARY FACE;SLEEPY FACE;TIRED FACE;GRIMACING FACE;LOUDLY CRYING FACE
;FACE WITH OPEN MOUTH;HUSHED FACE;FACE WITH OPEN MOUTH AND COLD SWEAT;FACE SCREAMING IN FEAR
;ASTONISHED FACE;FLUSHED FACE;SLEEPING FACE;DIZZY FACE;FACE WITHOUT MOUTH;FACE WITH MEDICAL MASK
;GRINNING CAT FACE WITH SMILING EYES;CAT FACE WITH TEARS OF JOY
1F63A;SMILING CAT FACE WITH ;OPEN MOUTH;HEART-SHAPED EYES
1F63C;;CAT FACE WITH WRY SMILE;KISSING CAT FACE WITH CLOSED EYES;POUTING CAT FACE
;CRYING CAT FACE;WEARY CAT FACE;SLIGHTLY FROWNING FACE;SLIGHTLY SMILING FACE;UPSIDE-DOWN FACE
1F644;FACE WITH ;ROLLING EYES;NO GOOD GESTURE;OK GESTURE
1F647;;PERSON BOWING DEEPLY;SEE-NO-EVIL MONKEY;HEAR-NO-EVIL MONKEY;SPEAK-NO-EVIL MONKEY
;HAPPY PERSON RAISING ONE HAND
1F64C;PERSON ;RAISING BOTH HANDS IN CELEBRATION;FROWNING;WITH POUTING FACE;WITH FOLDED HANDS
1F650;;NORTH WEST POINTING LEAF;SOUTH WEST POINTING LEAF;NORTH EAST POINTING LEAF
;SOUTH EAST POINTING LEAF
1F654;TURNED ;NORTH WEST POINTING LEAF;SOUTH WEST POINTING LEAF;NORTH EAST POINTING LEAF
;SOUTH EAST POINTING LEAF
1F658;;NORTH WEST POINTING VINE LEAF;SOUTH WEST POINTING VINE LEAF;NORTH EAST POINTING VINE LEAF
;SOUTH EAST POINTING VINE LEAF
1F65C;HEAVY ;NORTH WEST POINTING VINE LEAF;SOUTH WEST POINTING VINE LEAF
;NORTH EAST POINTING VINE LEAF;SOUTH EAST POINTING VINE LEAF
1F660;;NORTH WEST POINTING BUD;SOUTH WEST POINTING BUD;NORTH EAST POINTING BUD
;SOUTH EAST POINTING BUD
1F664;HEAVY ;NORTH WEST POINTING BUD;SOUTH WEST POINTING BUD;NORTH EAST POINTING BUD
;SOUTH EAST POINTING BUD
1F668;HOLLOW QUILT SQUARE ORNAMENT;; IN BLACK SQUARE
1F66A;SOLID QUILT SQUARE ORNAMENT;; IN BLACK SQUARE
1F66C;;LEFTWARDS ROCKET;UPWARDS ROCKET;RIGHTWARDS ROCKET;DOWNWARDS ROCKET
;SCRIPT LIGATURE ET ORNAMENT;HEAVY SCRIPT LIGATURE ET ORNAMENT;LIGATURE OPEN ET ORNAMENT
;HEAVY LIGATURE OPEN ET ORNAMENT;HEAVY AMPERSAND ORNAMENT;SWASH AMPERSAND ORNAMENT
1F676;SANS-SERIF HEAVY ;DOUBLE TURNED COMMA QUOTATION MARK ORNAMENT
;DOUBLE COMMA QUOTATION MARK ORNAMENT;LOW DOUBLE COMMA QUOTATION MARK ORNAMENT
1F679;;HEAVY INTERROBANG ORNAMENT;SANS-SERIF INTERROBANG ORNAMENT
;HEAVY SANS-SERIF INTERROBANG ORNAMENT;VERY HEAVY SOLIDUS;VERY HEAVY REVERSE SOLIDUS
;CHECKER BOARD;REVERSE CHECKER BOARD;ROCKET;HELICOPTER;STEAM LOCOMOTIVE;RAILWAY CAR
1F684;HIGH-SPEED TRAIN;; WITH BULLET NOSE
1F686;;TRAIN;METRO;LIGHT RAIL;STATION;TRAM;TRAM CAR;BUS;ONCOMING BUS;TROLLEYBUS;BUS STOP;MINIBUS
;AMBULANCE;FIRE ENGINE;POLICE CAR;ONCOMING POLICE CAR;TAXI;ONCOMING TAXI;AUTOMOBILE
;ONCOMING AUTOMOBILE;RECREATIONAL VEHICLE;DELIVERY TRUCK;ARTICULATED LORRY;TRACTOR;MONORAIL
;MOUNTAIN RAILWAY;SUSPENSION RAILWAY;MOUNTAIN CABLEWAY;AERIAL TRAMWAY;SHIP;ROWBOAT;SPEEDBOAT
;HORIZONTAL TRAFFIC LIGHT;VERTICAL TRAFFIC LIGHT;CONSTRUCTION SIGN;POLICE CARS REVOLVING LIGHT
;TRIANGULAR FLAG ON POST;DOOR;NO ENTRY SIGN;SMOKING SYMBOL;NO SMOKING SYMBOL
;PUT LITTER IN ITS PLACE SYMBOL;DO NOT LITTER SYMBOL;POTABLE WATER SYMBOL
;NON-POTABLE WATER SYMBOL;BICYCLE;NO BICYCLES;BICYCLIST;MOUNTAIN BICYCLIST;PEDESTRIAN
;NO PEDESTRIANS;CHILDREN CROSSING;MENS SYMBOL;WOMENS SYMBOL;RESTROOM;BABY SYMBOL;TOILET
;WATER CLOSET;SHOWER;BATH;BATHTUB;PASSPORT CONTROL;CUSTOMS;BAGGAGE CLAIM;LEFT LUGGAGE
;TRIANGLE WITH ROUNDED CORNERS;PROHIBITED SIGN;CIRCLED INFORMATION SOURCE;BOYS SYMBOL
;GIRLS SYMBOL;COUCH AND LAMP;SLEEPING ACCOMMODATION;SHOPPING BAGS;BELLHOP BELL;BED
;PLACE OF WORSHIP;OCTAGONAL SIGN;SHOPPING TROLLEY;STUPA;PAGODA;HINDU TEMPLE;HUT;ELEVATOR
1F6DD;;PLAYGROUND SLIDE;WHEEL;RING BUOY;HAMMER AND WRENCH;SHIELD;OIL DRUM;MOTORWAY;RAILWAY TRACK
;MOTOR BOAT
1F6E6;UP-POINTING ;MILITARY AIRPLANE;AIRPLANE;SMALL AIRPLANE
1F6E9;;SMALL AIRPLANE;NORTHEAST-POINTING AIRPLANE
1F6EB;AIRPLANE ;DEPARTURE;ARRIVING
1F6F0;;SATELLITE;ONCOMING FIRE ENGINE;DIESEL LOCOMOTIVE;PASSENGER SHIP;SCOOTER;MOTOR SCOOTER
;CANOE;SLED;FLYING SAUCER;SKATEBOARD;AUTO RICKSHAW;PICKUP TRUCK;ROLLER SKATE
1F700;ALCHEMICAL SYMBOL FOR ;QUINTESSENCE;AIR;FIRE;EARTH;WATER;AQUAFORTIS;AQUA REGIA
;AQUA REGIA-2;AQUA VITAE;AQUA VITAE-2;VINEGAR;VINEGAR-2;VINEGAR-3;SULFUR;PHILOSOPHERS SULFUR
;BLACK SULFUR;MERCURY SUBLIMATE;MERCURY SUBLIMATE-2;MERCURY SUBLIMATE-3;CINNABAR;SALT;NITRE
;VITRIOL;VITRIOL-2;ROCK SALT;ROCK SALT-2;GOLD;SILVER;IRON ORE;IRON ORE-2;CROCUS OF IRON
;REGULUS OF IRON;COPPER ORE;IRON-COPPER ORE;SUBLIMATE OF COPPER;CROCUS OF COPPER
;CROCUS OF COPPER-2;COPPER ANTIMONIATE;SALT OF COPPER ANTIMONIATE;SUBLIMATE OF SALT OF COPPER
;VERDIGRIS;TIN ORE;LEAD ORE;ANTIMONY ORE;SUBLIMATE OF ANTIMONY;SALT OF ANTIMONY
;SUBLIMATE OF SALT OF ANTIMONY;VINEGAR OF ANTIMONY;REGULUS OF ANTIMONY;REGULUS OF ANTIMONY-2
;REGULUS;REGULUS-2;REGULUS-3;REGULUS-4;ALKALI;ALKALI-2;MARCASITE;SAL-AMMONIAC;ARSENIC;REALGAR
;REALGAR-2;AURIPIGMENT;BISMUTH ORE;TARTAR;TARTAR-2;QUICK LIME;BORAX;BORAX-2;BORAX-3;ALUM;OIL
;SPIRIT;TINCTURE;GUM;WAX;POWDER;CALX;TUTTY;CAPUT MORTUUM;SCEPTER OF JOVE;CADUCEUS;TRIDENT
;STARRED TRIDENT;LODESTONE;SOAP;URINE;HORSE DUNG;ASHES;POT ASHES;BRICK;POWDERED BRICK;AMALGAM
;STRATUM SUPER STRATUM;STRATUM SUPER STRATUM-2;SUBLIMATION;PRECIPITATE;DISTILL;DISSOLVE
;DISSOLVE-2;PURIFY;PUTREFACTION;CRUCIBLE;CRUCIBLE-2;CRUCIBLE-3;CRUCIBLE-4;CRUCIBLE-5;ALEMBIC
;BATH OF MARY;BATH OF VAPOURS;RETORT;HOUR;NIGHT;DAY-NIGHT;MONTH;HALF DRAM;HALF OUNCE
1F780;BLACK ;LEFT-POINTING ISOSCELES RIGHT TRIANGLE;UP-POINTING ISOSCELES RIGHT TRIANGLE
;RIGHT-POINTING ISOSCELES RIGHT TRIANGLE;DOWN-POINTING ISOSCELES RIGHT TRIANGLE
;SLIGHTLY SMALL CIRCLE
1F785;;MEDIUM BOLD WHITE CIRCLE;BOLD WHITE CIRCLE;HEAVY WHITE CIRCLE;VERY HEAVY WHITE CIRCLE
;EXTREMELY HEAVY WHITE CIRCLE;WHITE CIRCLE CONTAINING BLACK SMALL CIRCLE;ROUND TARGET
;BLACK TINY SQUARE;BLACK SLIGHTLY SMALL SQUARE;LIGHT WHITE SQUARE;MEDIUM WHITE SQUARE
;BOLD WHITE SQUARE;HEAVY WHITE SQUARE;VERY HEAVY WHITE SQUARE;EXTREMELY HEAVY WHITE SQUARE
1F794;WHITE SQUARE CONTAINING BLACK ;VERY SMALL SQUARE;MEDIUM SQUARE
1F796;SQUARE TARGET;
1F797;BLACK ;TINY DIAMOND;VERY SMALL DIAMOND;MEDIUM SMALL DIAMOND
1F79A;WHITE DIAMOND CONTAINING BLACK ;VERY SMALL DIAMOND;MEDIUM DIAMOND
1F79C;;DIAMOND TARGET;BLACK TINY LOZENGE;BLACK VERY SMALL LOZENGE;BLACK MEDIUM SMALL LOZENGE
;WHITE LOZENGE CONTAINING BLACK SMALL LOZENGE;THIN GREEK CROSS;LIGHT GREEK CROSS
;MEDIUM GREEK CROSS;BOLD GREEK CROSS;VERY BOLD GREEK CROSS;VERY HEAVY GREEK CROSS
;EXTREMELY HEAVY GREEK CROSS;THIN SALTIRE;LIGHT SALTIRE;MEDIUM SALTIRE;BOLD SALTIRE
;HEAVY SALTIRE;VERY HEAVY SALTIRE;EXTREMELY HEAVY SALTIRE;LIGHT FIVE SPOKED ASTERISK
;MEDIUM FIVE SPOKED ASTERISK;BOLD FIVE SPOKED ASTERISK;HEAVY FIVE SPOKED ASTERISK
;VERY HEAVY FIVE SPOKED ASTERISK;EXTREMELY HEAVY FIVE SPOKED ASTERISK;LIGHT SIX SPOKED ASTERISK
;MEDIUM SIX SPOKED ASTERISK;BOLD SIX SPOKED ASTERISK;HEAVY SIX SPOKED ASTERISK
;VERY HEAVY SIX SPOKED ASTERISK;EXTREMELY HEAVY SIX SPOKED ASTERISK;LIGHT EIGHT SPOKED ASTERISK
;MEDIUM EIGHT SPOKED ASTERISK;BOLD EIGHT SPOKED ASTERISK;HEAVY EIGHT SPOKED ASTERISK
;VERY HEAVY EIGHT SPOKED ASTERISK;LIGHT THREE POINTED BLACK STAR;MEDIUM THREE POINTED BLACK STAR
;THREE POINTED BLACK STAR;MEDIUM THREE POINTED PINWHEEL STAR;LIGHT FOUR POINTED BLACK STAR
;MEDIUM FOUR POINTED BLACK STAR;FOUR POINTED BLACK STAR;MEDIUM FOUR POINTED PINWHEEL STAR
;REVERSE LIGHT FOUR POINTED PINWHEEL STAR;LIGHT FIVE POINTED BLACK STAR
;HEAVY FIVE POINTED BLACK STAR;MEDIUM SIX POINTED BLACK STAR;HEAVY SIX POINTED BLACK STAR
;SIX POINTED PINWHEEL STAR;MEDIUM EIGHT POINTED BLACK STAR;HEAVY EIGHT POINTED BLACK STAR
;VERY HEAVY EIGHT POINTED BLACK STAR;HEAVY EIGHT POINTED PINWHEEL STAR
;LIGHT TWELVE POINTED BLACK STAR
1F7D3;HEAVY TWELVE POINTED ;BLACK STAR;PINWHEEL STAR
1F7D5;;CIRCLED TRIANGLE;NEGATIVE CIRCLED TRIANGLE;CIRCLED SQUARE;NEGATIVE CIRCLED SQUARE
1F7E0;LARGE ;ORANGE CIRCLE;YELLOW CIRCLE;GREEN CIRCLE;PURPLE CIRCLE;BROWN CIRCLE;RED SQUARE
;BLUE SQUARE;ORANGE SQUARE;YELLOW SQUARE;GREEN SQUARE;PURPLE SQUARE;BROWN SQUARE
1F7F0;HEAVY EQUALS SIGN;
1F800;;LEFTWARDS ARROW WITH SMALL TRIANGLE ARROWHEAD;UPWARDS ARROW WITH SMALL TRIANGLE ARROWHEAD
;RIGHTWARDS ARROW WITH SMALL TRIANGLE ARROWHEAD;DOWNWARDS ARROW WITH SMALL TRIANGLE ARROWHEAD
;LEFTWARDS ARROW WITH MEDIUM TRIANGLE ARROWHEAD;UPWARDS ARROW WITH MEDIUM TRIANGLE ARROWHEAD
;RIGHTWARDS ARROW WITH MEDIUM TRIANGLE ARROWHEAD;DOWNWARDS ARROW WITH MEDIUM TRIANGLE ARROWHEAD
;LEFTWARDS ARROW WITH LARGE TRIANGLE ARROWHEAD;UPWARDS ARROW WITH LARGE TRIANGLE ARROWHEAD
;RIGHTWARDS ARROW WITH LARGE TRIANGLE ARROWHEAD;DOWNWARDS ARROW WITH LARGE TRIANGLE ARROWHEAD
1F810;;LEFTWARDS ARROW WITH SMALL EQUILATERAL ARROWHEAD
;UPWARDS ARROW WITH SMALL EQUILATERAL ARROWHEAD
;RIGHTWARDS ARROW WITH SMALL EQUILATERAL ARROWHEAD
;DOWNWARDS ARROW WITH SMALL EQUILATERAL ARROWHEAD;LEFTWARDS ARROW WITH EQUILATERAL ARROWHEAD
;UPWARDS ARROW WITH EQUILATERAL ARROWHEAD;RIGHTWARDS ARROW WITH EQUILATERAL ARROWHEAD
;DOWNWARDS ARROW WITH EQUILATERAL ARROWHEAD
1F818;HEAVY ;LEFTWARDS ARROW WITH EQUILATERAL ARROWHEAD;UPWARDS ARROW WITH EQUILATERAL ARROWHEAD
;RIGHTWARDS ARROW WITH EQUILATERAL ARROWHEAD;DOWNWARDS ARROW WITH EQUILATERAL ARROWHEAD
;LEFTWARDS ARROW WITH LARGE EQUILATERAL ARROWHEAD;UPWARDS ARROW WITH LARGE EQUILATERAL ARROWHEAD
;RIGHTWARDS ARROW WITH LARGE EQUILATERAL ARROWHEAD
;DOWNWARDS ARROW WITH LARGE EQUILATERAL ARROWHEAD
1F820;;LEFTWARDS TRIANGLE-HEADED ARROW WITH NARROW SHAFT
;UPWARDS TRIANGLE-HEADED ARROW WITH NARROW SHAFT
;RIGHTWARDS TRIANGLE-HEADED ARROW WITH NARROW SHAFT
;DOWNWARDS TRIANGLE-HEADED ARROW WITH NARROW SHAFT
;LEFTWARDS TRIANGLE-HEADED ARROW WITH MEDIUM SHAFT
;UPWARDS TRIANGLE-HEADED ARROW WITH MEDIUM SHAFT
;RIGHTWARDS TRIANGLE-HEADED ARROW WITH MEDIUM SHAFT
;DOWNWARDS TRIANGLE-HEADED ARROW WITH MEDIUM SHAFT
;LEFTWARDS TRIANGLE-HEADED ARROW WITH BOLD SHAFT;UPWARDS TRIANGLE-HEADED ARROW WITH BOLD SHAFT
;RIGHTWARDS TRIANGLE-HEADED ARROW WITH BOLD SHAFT
;DOWNWARDS TRIANGLE-HEADED ARROW WITH BOLD SHAFT
;LEFTWARDS TRIANGLE-HEADED ARROW WITH HEAVY SHAFT;UPWARDS TRIANGLE-HEADED ARROW WITH HEAVY SHAFT
;RIGHTWARDS TRIANGLE-HEADED ARROW WITH HEAVY SHAFT
;DOWNWARDS TRIANGLE-HEADED ARROW WITH HEAVY SHAFT
;LEFTWARDS TRIANGLE-HEADED ARROW WITH VERY HEAVY SHAFT
;UPWARDS TRIANGLE-HEADED ARROW WITH VERY HEAVY SHAFT
;RIGHTWARDS TRIANGLE-HEADED ARROW WITH VERY HEAVY SHAFT
;DOWNWARDS TRIANGLE-HEADED ARROW WITH VERY HEAVY SHAFT;LEFTWARDS FINGER-POST ARROW
;UPWARDS FINGER-POST ARROW;RIGHTWARDS FINGER-POST ARROW;DOWNWARDS FINGER-POST ARROW
;LEFTWARDS SQUARED ARROW;UPWARDS SQUARED ARROW;RIGHTWARDS SQUARED ARROW;DOWNWARDS SQUARED ARROW
;LEFTWARDS COMPRESSED ARROW;UPWARDS COMPRESSED ARROW;RIGHTWARDS COMPRESSED ARROW
;DOWNWARDS COMPRESSED ARROW;LEFTWARDS HEAVY COMPRESSED ARROW;UPWARDS HEAVY COMPRESSED ARROW
;RIGHTWARDS HEAVY COMPRESSED ARROW;DOWNWARDS HEAVY COMPRESSED ARROW;LEFTWARDS HEAVY ARROW
;UPWARDS HEAVY ARROW;RIGHTWARDS HEAVY ARROW;DOWNWARDS HEAVY ARROW
1F850;;LEFTWARDS SANS-SERIF ARROW;UPWARDS SANS-SERIF ARROW;RIGHTWARDS SANS-SERIF ARROW
;DOWNWARDS SANS-SERIF ARROW;NORTH WEST SANS-SERIF ARROW;NORTH EAST SANS-SERIF ARROW
;SOUTH EAST SANS-SERIF ARROW;SOUTH WEST SANS-SERIF ARROW;LEFT RIGHT SANS-SERIF ARROW
;UP DOWN SANS-SERIF ARROW
1F860;WIDE-HEADED ;LEFTWARDS LIGHT BARB ARROW;UPWARDS LIGHT BARB ARROW
;RIGHTWARDS LIGHT BARB ARROW;DOWNWARDS LIGHT BARB ARROW;NORTH WEST LIGHT BARB ARROW
;NORTH EAST LIGHT BARB ARROW;SOUTH EAST LIGHT BARB ARROW;SOUTH WEST LIGHT BARB ARROW
;LEFTWARDS BARB ARROW;UPWARDS BARB ARROW;RIGHTWARDS BARB ARROW;DOWNWARDS BARB ARROW
;NORTH WEST BARB ARROW;NORTH EAST BARB ARROW;SOUTH EAST BARB ARROW;SOUTH WEST BARB ARROW
;LEFTWARDS MEDIUM BARB ARROW;UPWARDS MEDIUM BARB ARROW;RIGHTWARDS MEDIUM BARB ARROW
;DOWNWARDS MEDIUM BARB ARROW;NORTH WEST MEDIUM BARB ARROW;NORTH EAST MEDIUM BARB ARROW
;SOUTH EAST MEDIUM BARB ARROW;SOUTH WEST MEDIUM BARB ARROW;LEFTWARDS HEAVY BARB ARROW
;UPWARDS HEAVY BARB ARROW;RIGHTWARDS HEAVY BARB ARROW;DOWNWARDS HEAVY BARB ARROW
;NORTH WEST HEAVY BARB ARROW;NORTH EAST HEAVY BARB ARROW;SOUTH EAST HEAVY BARB ARROW
;SOUTH WEST HEAVY BARB ARROW;LEFTWARDS VERY HEAVY BARB ARROW;UPWARDS VERY HEAVY BARB ARROW
;RIGHTWARDS VERY HEAVY BARB ARROW;DOWNWARDS VERY HEAVY BARB ARROW
;NORTH WEST VERY HEAVY BARB ARROW;NORTH EAST VERY HEAVY BARB ARROW
;SOUTH EAST VERY HEAVY BARB ARROW;SOUTH WEST VERY HEAVY BARB ARROW
1F890;;LEFTWARDS TRIANGLE ARROWHEAD;UPWARDS TRIANGLE ARROWHEAD;RIGHTWARDS TRIANGLE ARROWHEAD
;DOWNWARDS TRIANGLE ARROWHEAD;LEFTWARDS WHITE ARROW WITHIN TRIANGLE ARROWHEAD
;UPWARDS WHITE ARROW WITHIN TRIANGLE ARROWHEAD;RIGHTWARDS WHITE ARROW WITHIN TRIANGLE ARROWHEAD
;DOWNWARDS WHITE ARROW WITHIN TRIANGLE ARROWHEAD;LEFTWARDS ARROW WITH NOTCHED TAIL
;UPWARDS ARROW WITH NOTCHED TAIL;RIGHTWARDS ARROW WITH NOTCHED TAIL
;DOWNWARDS ARROW WITH NOTCHED TAIL
1F89C;HEAVY ARROW SHAFT WIDTH ;ONE;TWO THIRDS;ONE HALF;ONE THIRD
1F8A0;;LEFTWARDS BOTTOM-SHADED WHITE ARROW;RIGHTWARDS BOTTOM SHADED WHITE ARROW
;LEFTWARDS TOP SHADED WHITE ARROW;RIGHTWARDS TOP SHADED WHITE ARROW
;LEFTWARDS LEFT-SHADED WHITE ARROW;RIGHTWARDS RIGHT-SHADED WHITE ARROW
;LEFTWARDS RIGHT-SHADED WHITE ARROW;RIGHTWARDS LEFT-SHADED WHITE ARROW
;LEFTWARDS BACK-TILTED SHADOWED WHITE ARROW;RIGHTWARDS BACK-TILTED SHADOWED WHITE ARROW
;LEFTWARDS FRONT-TILTED SHADOWED WHITE ARROW;RIGHTWARDS FRONT-TILTED SHADOWED WHITE ARROW
1F8AC;WHITE ARROW SHAFT WIDTH ;ONE;TWO THIRDS
1F8B0;ARROW POINTING ;UPWARDS THEN NORTH WEST;RIGHTWARDS THEN CURVING SOUTH WEST
1F900;CIRCLED CROSS FORMEE; WITH FOUR DOTS; WITH TWO DOTS;
1F903;LEFT HALF CIRCLE; WITH FOUR DOTS; WITH THREE DOTS; WITH TWO DOTS; WITH DOT;
1F908;DOWNWARD FACING ;HOOK;NOTCHED HOOK;HOOK WITH DOT;NOTCHED HOOK WITH DOT
1F90C;;PINCHED FINGERS;WHITE HEART;BROWN HEART;PINCHING HAND;ZIPPER-MOUTH FACE;MONEY-MOUTH FACE
;FACE WITH THERMOMETER;NERD FACE;THINKING FACE;FACE WITH HEAD-BANDAGE;ROBOT FACE;HUGGING FACE
;SIGN OF THE HORNS;CALL ME HAND;RAISED BACK OF HAND;LEFT-FACING FIST;RIGHT-FACING FIST;HANDSHAKE
;HAND WITH INDEX AND MIDDLE FINGERS CROSSED;I LOVE YOU HAND SIGN;FACE WITH COWBOY HAT;CLOWN FACE
;NAUSEATED FACE;ROLLING ON THE FLOOR LAUGHING;DROOLING FACE;LYING FACE;FACE PALM;SNEEZING FACE
;FACE WITH ONE EYEBROW RAISED
1F929;GRINNING FACE WITH ;STAR EYES;ONE LARGE AND ONE SMALL EYE
1F92B;;FACE WITH FINGER COVERING CLOSED LIPS;SERIOUS FACE WITH SYMBOLS COVERING MOUTH
;SMILING FACE WITH SMILING EYES AND HAND COVERING MOUTH;FACE WITH OPEN MOUTH VOMITING
;SHOCKED FACE WITH EXPLODING HEAD;PREGNANT WOMAN;BREAST-FEEDING;PALMS UP TOGETHER;SELFIE;PRINCE
;MAN IN TUXEDO;MOTHER CHRISTMAS;SHRUG;PERSON DOING CARTWHEEL;JUGGLING;FENCER;MODERN PENTATHLON
;WRESTLERS;WATER POLO;HANDBALL;DIVING MASK;WILTED FLOWER;DRUM WITH DRUMSTICKS;CLINKING GLASSES
;TUMBLER GLASS;SPOON;GOAL NET;RIFLE;FIRST PLACE MEDAL;SECOND PLACE MEDAL;THIRD PLACE MEDAL
;BOXING GLOVE;MARTIAL ARTS UNIFORM;CURLING STONE;LACROSSE STICK AND BALL;SOFTBALL;FLYING DISC
;CROISSANT;AVOCADO;CUCUMBER;BACON;POTATO;CARROT;BAGUETTE BREAD;GREEN SALAD;SHALLOW PAN OF FOOD
;STUFFED FLATBREAD;EGG;GLASS OF MILK;PEANUTS;KIWIFRUIT;PANCAKES;DUMPLING;FORTUNE COOKIE
;TAKEOUT BOX;CHOPSTICKS;BOWL WITH SPOON;CUP WITH STRAW;COCONUT;BROCCOLI;PIE;PRETZEL;CUT OF MEAT
;SANDWICH;CANNED FOOD;LEAFY GREEN;MANGO;MOON CAKE;BAGEL
;SMILING FACE WITH SMILING EYES AND THREE HEARTS;YAWNING FACE;SMILING FACE WITH TEAR
;FACE WITH PARTY HORN AND PARTY HAT;FACE WITH UNEVEN EYES AND WAVY MOUTH;OVERHEATED FACE
;FREEZING FACE;NINJA;DISGUISED FACE;FACE HOLDING BACK TEARS;FACE WITH PLEADING EYES;SARI
;LAB COAT;GOGGLES;HIKING BOOT;FLAT SHOE;CRAB;LION FACE;SCORPION;TURKEY;UNICORN FACE;EAGLE;DUCK
;BAT;SHARK;OWL;FOX FACE;BUTTERFLY;DEER;GORILLA;LIZARD;RHINOCEROS;SHRIMP;SQUID;GIRAFFE FACE
;ZEBRA FACE;HEDGEHOG;SAUROPOD;T-REX;CRICKET;KANGAROO;LLAMA;PEACOCK;HIPPOPOTAMUS;PARROT;RACCOON
;LOBSTER;MOSQUITO;MICROBE;BADGER;SWAN;MAMMOTH;DODO;SLOTH;OTTER;ORANGUTAN;SKUNK;FLAMINGO;OYSTER
;BEAVER;BISON;SEAL;GUIDE DOG;PROBING CANE
1F9B0;EMOJI COMPONENT ;RED HAIR;CURLY HAIR;BALD;WHITE HAIR
1F9B4;;BONE;LEG;FOOT;TOOTH;SUPERHERO;SUPERVILLAIN;SAFETY VEST;EAR WITH HEARING AID
;MOTORIZED WHEELCHAIR;MANUAL WHEELCHAIR;MECHANICAL ARM;MECHANICAL LEG;CHEESE WEDGE;CUPCAKE
;SALT SHAKER;BEVERAGE BOX;GARLIC;ONION;FALAFEL;WAFFLE;BUTTER;MATE DRINK;ICE CUBE;BUBBLE TEA
;TROLL;STANDING PERSON;KNEELING PERSON;DEAF PERSON;FACE WITH MONOCLE;ADULT;CHILD;OLDER ADULT
;BEARDED PERSON
1F9D5;PERSON ;WITH HEADSCARF;IN STEAMY ROOM;CLIMBING;IN LOTUS POSITION
1F9D9;;MAGE;FAIRY;VAMPIRE;MERPERSON;ELF;GENIE;ZOMBIE;BRAIN;ORANGE HEART;BILLED CAP;SCARF;GLOVES
;COAT;SOCKS;RED GIFT ENVELOPE;FIRECRACKER;JIGSAW PUZZLE PIECE;TEST TUBE;PETRI DISH
;DNA DOUBLE HELIX;COMPASS;ABACUS;FIRE EXTINGUISHER;TOOLBOX;BRICK;MAGNET;LUGGAGE;LOTION BOTTLE
;SPOOL OF THREAD;BALL OF YARN;SAFETY PIN;TEDDY BEAR;BROOM;BASKET;ROLL OF PAPER;BAR OF SOAP
;SPONGE;RECEIPT;NAZAR AMULET
1FA00;NEUTRAL CHESS ;KING;QUEEN;ROOK;BISHOP;KNIGHT;PAWN
1FA06;;WHITE CHESS KNIGHT ROTATED FORTY-FIVE DEGREES
;BLACK CHESS KNIGHT ROTATED FORTY-FIVE DEGREES;NEUTRAL CHESS KNIGHT ROTATED FORTY-FIVE DEGREES
1FA09;WHITE CHESS ;KING ROTATED NINETY DEGREES;QUEEN ROTATED NINETY DEGREES
;ROOK ROTATED NINETY DEGREES;BISHOP ROTATED NINETY DEGREES;KNIGHT ROTATED NINETY DEGREES
;PAWN ROTATED NINETY DEGREES
1FA0F;BLACK CHESS ;KING ROTATED NINETY DEGREES;QUEEN ROTATED NINETY DEGREES
;ROOK ROTATED NINETY DEGREES;BISHOP ROTATED NINETY DEGREES;KNIGHT ROTATED NINETY DEGREES
;PAWN ROTATED NINETY DEGREES
1FA15;NEUTRAL CHESS ;KING ROTATED NINETY DEGREES;QUEEN ROTATED NINETY DEGREES
;ROOK ROTATED NINETY DEGREES;BISHOP ROTATED NINETY DEGREES;KNIGHT ROTATED NINETY DEGREES
;PAWN ROTATED NINETY DEGREES
1FA1B;;WHITE CHESS KNIGHT ROTATED ONE HUNDRED THIRTY-FIVE DEGREES
;BLACK CHESS KNIGHT ROTATED ONE HUNDRED THIRTY-FIVE DEGREES
;NEUTRAL CHESS KNIGHT ROTATED ONE HUNDRED THIRTY-FIVE DEGREES
1FA1E;WHITE CHESS TURNED ;KING;QUEEN;ROOK;BISHOP;KNIGHT;PAWN
1FA24;BLACK CHESS TURNED ;KING;QUEEN;ROOK;BISHOP;KNIGHT;PAWN
1FA2A;NEUTRAL CHESS TURNED ;KING;QUEEN;ROOK;BISHOP;KNIGHT;PAWN
1FA30;;WHITE CHESS KNIGHT ROTATED TWO HUNDRED TWENTY-FIVE DEGREES
;BLACK CHESS KNIGHT ROTATED TWO HUNDRED TWENTY-FIVE DEGREES
;NEUTRAL CHESS KNIGHT ROTATED TWO HUNDRED TWENTY-FIVE DEGREES
1FA33;WHITE CHESS ;KING ROTATED TWO HUNDRED SEVENTY DEGREES
;QUEEN ROTATED TWO HUNDRED SEVENTY DEGREES;ROOK ROTATED TWO HUNDRED SEVENTY DEGREES
;BISHOP ROTATED TWO HUNDRED SEVENTY DEGREES;KNIGHT ROTATED TWO HUNDRED SEVENTY DEGREES
;PAWN ROTATED TWO HUNDRED SEVENTY DEGREES
1FA39;BLACK CHESS ;KING ROTATED TWO HUNDRED SEVENTY DEGREES
;QUEEN ROTATED TWO HUNDRED SEVENTY DEGREES;ROOK ROTATED TWO HUNDRED SEVENTY DEGREES
;BISHOP ROTATED TWO HUNDRED SEVENTY DEGREES;KNIGHT ROTATED TWO HUNDRED SEVENTY DEGREES
;PAWN ROTATED TWO HUNDRED SEVENTY DEGREES
1FA3F;NEUTRAL CHESS ;KING ROTATED TWO HUNDRED SEVENTY DEGREES
;QUEEN ROTATED TWO HUNDRED SEVENTY DEGREES;ROOK ROTATED TWO HUNDRED SEVENTY DEGREES
;BISHOP ROTATED TWO HUNDRED SEVENTY DEGREES;KNIGHT ROTATED TWO HUNDRED SEVENTY DEGREES
;PAWN ROTATED TWO HUNDRED SEVENTY DEGREES
1FA45;;WHITE CHESS KNIGHT ROTATED THREE HUNDRED FIFTEEN DEGREES
;BLACK CHESS KNIGHT ROTATED THREE HUNDRED FIFTEEN DEGREES
;NEUTRAL CHESS KNIGHT ROTATED THREE HUNDRED FIFTEEN DEGREES;WHITE CHESS EQUIHOPPER
;BLACK CHESS EQUIHOPPER;NEUTRAL CHESS EQUIHOPPER;WHITE CHESS EQUIHOPPER ROTATED NINETY DEGREES
;BLACK CHESS EQUIHOPPER ROTATED NINETY DEGREES;NEUTRAL CHESS EQUIHOPPER ROTATED NINETY DEGREES
1FA4E;WHITE CHESS KNIGHT-;QUEEN;ROOK;BISHOP
1FA51;BLACK CHESS KNIGHT-;QUEEN;ROOK;BISHOP
1FA60;XIANGQI RED ;GENERAL;MANDARIN;ELEPHANT;HORSE;CHARIOT;CANNON;SOLDIER
1FA67;XIANGQI BLACK ;GENERAL;MANDARIN;ELEPHANT;HORSE;CHARIOT;CANNON;SOLDIER
1FA70;;BALLET SHOES;ONE-PIECE SWIMSUIT;BRIEFS;SHORTS;THONG SANDAL
1FA78;;DROP OF BLOOD;ADHESIVE BANDAGE;STETHOSCOPE;X-RAY;CRUTCH
1FA80;;YO-YO;KITE;PARACHUTE;BOOMERANG;MAGIC WAND;PINATA;NESTING DOLLS
1FA90;;RINGED PLANET;CHAIR;RAZOR;AXE;DIYA LAMP;BANJO;MILITARY HELMET;ACCORDION;LONG DRUM;COIN
;CARPENTRY SAW;SCREWDRIVER;LADDER;HOOK
1FA9E;MIRR;OR
1FA9F;;WINDOW;PLUNGER;SEWING NEEDLE;KNOT;BUCKET;MOUSE TRAP;TOOTHBRUSH;HEADSTONE;PLACARD;ROCK
1FAA9;MIRR;OR BALL
1FAAA;;IDENTIFICATION CARD;LOW BATTERY;HAMSA
1FAB0;;FLY;WORM;BEETLE;COCKROACH;POTTED PLANT;WOOD;FEATHER;LOTUS;CORAL;EMPTY NEST;NEST WITH EGGS
1FAC0;;ANATOMICAL HEART;LUNGS;PEOPLE HUGGING;PREGNANT MAN;PREGNANT PERSON;PERSON WITH CROWN
1FAD0;;BLUEBERRIES;BELL PEPPER;OLIVE;FLATBREAD;TAMALE;FONDUE;TEAPOT;POURING LIQUID;BEANS;JAR
1FAE0;;MELTING FACE;SALUTING FACE
1FAE2;FACE WITH ;OPEN EYES AND HAND OVER MOUTH;PEEKING EYE;DIAGONAL MOUTH
1FAE5;;DOTTED LINE FACE;BITING LIP;BUBBLES
1FAF0;;HAND WITH INDEX FINGER AND THUMB CROSSED;RIGHTWARDS HAND;LEFTWARDS HAND;PALM DOWN HAND
;PALM UP HAND;INDEX POINTING AT THE VIEWER;HEART HANDS
1FB00;BLOCK SEXTANT-;1;2;12;3;13;23;123;4;14;24;124;34;134;234;1234;5;15;25;125;35;235;1235;45
;145;245;1245;345;1345;2345;12345;6;16;26;126;36;136;236;1236;46;146;1246;346;1346;2346;12346;56
;156;256;1256;356;1356;2356;12356;456;1456;2456;12456;3456;13456;23456
1FB3C;LOWER LEFT BLOCK DIAGONAL LOWER MIDDLE LEFT TO LOWER ;CENTRE;RIGHT
1FB3E;LOWER LEFT BLOCK DIAGONAL UPPER ;MIDDLE LEFT TO LOWER CENTRE;MIDDLE LEFT TO LOWER RIGHT
;LEFT TO LOWER CENTRE
1FB41;LOWER RIGHT BLOCK DIAGONAL UPPER MIDDLE LEFT TO UPPER ;CENTRE;RIGHT
1FB43;LOWER RIGHT BLOCK DIAGONAL LOWER ;MIDDLE LEFT TO UPPER CENTRE;MIDDLE LEFT TO UPPER RIGHT
;LEFT TO UPPER CENTRE;MIDDLE LEFT TO UPPER MIDDLE RIGHT;CENTRE TO LOWER MIDDLE RIGHT
;LEFT TO LOWER MIDDLE RIGHT;CENTRE TO UPPER MIDDLE RIGHT;LEFT TO UPPER MIDDLE RIGHT
;CENTRE TO UPPER RIGHT
1FB4C;LOWER LEFT BLOCK DIAGONAL UPPER ;CENTRE TO UPPER MIDDLE RIGHT;LEFT TO UPPER MIDDLE RIGHT
;CENTRE TO LOWER MIDDLE RIGHT;LEFT TO LOWER MIDDLE RIGHT;CENTRE TO LOWER RIGHT
;MIDDLE LEFT TO LOWER MIDDLE RIGHT
1FB52;UPPER RIGHT BLOCK DIAGONAL LOWER MIDDLE LEFT TO LOWER ;CENTRE;RIGHT
1FB54;UPPER RIGHT BLOCK DIAGONAL UPPER ;MIDDLE LEFT TO LOWER CENTRE;MIDDLE LEFT TO LOWER RIGHT
;LEFT TO LOWER CENTRE
1FB57;UPPER LEFT BLOCK DIAGONAL UPPER MIDDLE LEFT TO UPPER ;CENTRE;RIGHT
1FB59;UPPER LEFT BLOCK DIAGONAL LOWER ;MIDDLE LEFT TO UPPER CENTRE;MIDDLE LEFT TO UPPER RIGHT
;LEFT TO UPPER CENTRE;MIDDLE LEFT TO UPPER MIDDLE RIGHT;CENTRE TO LOWER MIDDLE RIGHT
;LEFT TO LOWER MIDDLE RIGHT;CENTRE TO UPPER MIDDLE RIGHT;LEFT TO UPPER MIDDLE RIGHT
;CENTRE TO UPPER RIGHT
1FB62;UPPER RIGHT BLOCK DIAGONAL UPPER ;CENTRE TO UPPER MIDDLE RIGHT;LEFT TO UPPER MIDDLE RIGHT
;CENTRE TO LOWER MIDDLE RIGHT;LEFT TO LOWER MIDDLE RIGHT;CENTRE TO LOWER RIGHT
;MIDDLE LEFT TO LOWER MIDDLE RIGHT
1FB68;;UPPER AND RIGHT AND LOWER TRIANGULAR THREE QUARTERS BLOCK
;LEFT AND LOWER AND RIGHT TRIANGULAR THREE QUARTERS BLOCK
;UPPER AND LEFT AND LOWER TRIANGULAR THREE QUARTERS BLOCK
;LEFT AND UPPER AND RIGHT TRIANGULAR THREE QUARTERS BLOCK;LEFT TRIANGULAR ONE QUARTER BLOCK
;UPPER TRIANGULAR ONE QUARTER BLOCK;RIGHT TRIANGULAR ONE QUARTER BLOCK
;LOWER TRIANGULAR ONE QUARTER BLOCK
1FB70;VERTICAL ONE EIGHTH BLOCK-;2;3;4;5;6;7
1FB76;HORIZONTAL ONE EIGHTH BLOCK-;2;3;4;5;6;7
1FB7C;LEFT AND ;LOWER ONE EIGHTH BLOCK;UPPER ONE EIGHTH BLOCK
1FB7E;RIGHT AND ;UPPER ONE EIGHTH BLOCK;LOWER ONE EIGHTH BLOCK
1FB80;;UPPER AND LOWER ONE EIGHTH BLOCK;HORIZONTAL ONE EIGHTH BLOCK-1358
1FB82;UPPER ;ONE QUARTER BLOCK;THREE EIGHTHS BLOCK;FIVE EIGHTHS BLOCK;THREE QUARTERS BLOCK
;SEVEN EIGHTHS BLOCK
1FB87;RIGHT ;ONE QUARTER BLOCK;THREE EIGHTHS BLOCK;FIVE EIGHTHS BLOCK;THREE QUARTERS BLOCK
;SEVEN EIGHTHS BLOCK
1FB8C;;LEFT HALF MEDIUM SHADE;RIGHT HALF MEDIUM SHADE;UPPER HALF MEDIUM SHADE
;LOWER HALF MEDIUM SHADE;INVERSE MEDIUM SHADE
1FB91;UPPER HALF ;BLOCK AND LOWER HALF INVERSE MEDIUM SHADE
;INVERSE MEDIUM SHADE AND LOWER HALF BLOCK
1FB94;;LEFT HALF INVERSE MEDIUM SHADE AND RIGHT HALF BLOCK;CHECKER BOARD FILL
;INVERSE CHECKER BOARD FILL;HEAVY HORIZONTAL FILL;UPPER LEFT TO LOWER RIGHT FILL
;UPPER RIGHT TO LOWER LEFT FILL;UPPER AND LOWER TRIANGULAR HALF BLOCK
;LEFT AND RIGHT TRIANGULAR HALF BLOCK;UPPER LEFT TRIANGULAR MEDIUM SHADE
;UPPER RIGHT TRIANGULAR MEDIUM SHADE;LOWER RIGHT TRIANGULAR MEDIUM SHADE
;LOWER LEFT TRIANGULAR MEDIUM SHADE
1FBA0;BOX DRAWINGS LIGHT DIAGONAL ;UPPER CENTRE TO MIDDLE LEFT;UPPER CENTRE TO MIDDLE RIGHT
;MIDDLE LEFT TO LOWER CENTRE;MIDDLE RIGHT TO LOWER CENTRE
;UPPER CENTRE TO MIDDLE LEFT TO LOWER CENTRE;UPPER CENTRE TO MIDDLE RIGHT TO LOWER CENTRE
;MIDDLE LEFT TO LOWER CENTRE TO MIDDLE RIGHT;MIDDLE LEFT TO UPPER CENTRE TO MIDDLE RIGHT
;UPPER CENTRE TO MIDDLE LEFT AND MIDDLE RIGHT TO LOWER CENTRE
;UPPER CENTRE TO MIDDLE RIGHT AND MIDDLE LEFT TO LOWER CENTRE
;UPPER CENTRE TO MIDDLE RIGHT TO LOWER CENTRE TO MIDDLE LEFT
;UPPER CENTRE TO MIDDLE LEFT TO LOWER CENTRE TO MIDDLE RIGHT
;MIDDLE LEFT TO UPPER CENTRE TO MIDDLE RIGHT TO LOWER CENTRE
;MIDDLE RIGHT TO UPPER CENTRE TO MIDDLE LEFT TO LOWER CENTRE;DIAMOND
1FBAF;;BOX DRAWINGS LIGHT HORIZONTAL WITH VERTICAL STROKE;ARROWHEAD-SHAPED POINTER
;INVERSE CHECK MARK;LEFT HALF RUNNING MAN;RIGHT HALF RUNNING MAN
;INVERSE DOWNWARDS ARROW WITH TIP LEFTWARDS;LEFTWARDS ARROW AND UPPER AND LOWER ONE EIGHTH BLOCK
;RIGHTWARDS ARROW AND UPPER AND LOWER ONE EIGHTH BLOCK
;DOWNWARDS ARROW AND RIGHT ONE EIGHTH BLOCK;UPWARDS ARROW AND RIGHT ONE EIGHTH BLOCK
;LEFT HALF FOLDER;RIGHT HALF FOLDER;VOIDED GREEK CROSS;RIGHT OPEN SQUARED DOT
1FBBD;NEGATIVE DIAGONAL ;CROSS;MIDDLE RIGHT TO LOWER CENTRE;DIAMOND
1FBC0;;WHITE HEAVY SALTIRE WITH ROUNDED CORNERS;LEFT THIRD WHITE RIGHT POINTING INDEX
;MIDDLE THIRD WHITE RIGHT POINTING INDEX;RIGHT THIRD WHITE RIGHT POINTING INDEX
;NEGATIVE SQUARED QUESTION MARK
1FBC5;STICK FIGURE;; WITH ARMS RAISED; LEANING LEFT; LEANING RIGHT; WITH DRESS
1FBCA;WHITE UP-POINTING CHEVRON;
1FBF0;SEGMENTED DIGIT ;ZERO;ONE;TWO;THREE;FOUR;FIVE;SIX;SEVEN;EIGHT;NINE
E0001;LANGUAGE TAG;
E0020;TAG ;SPACE;EXCLAMATION MARK;QUOTATION MARK;NUMBER SIGN;DOLLAR SIGN;PERCENT SIGN;AMPERSAND
;APOSTROPHE;LEFT PARENTHESIS;RIGHT PARENTHESIS;ASTERISK;PLUS SIGN;COMMA;HYPHEN-MINUS;FULL STOP
;SOLIDUS
E0030;TAG DIGIT ;ZERO;ONE;TWO;THREE;FOUR;FIVE;SIX;SEVEN;EIGHT;NINE
E003A;TAG ;COLON;SEMICOLON;LESS-THAN SIGN;EQUALS SIGN;GREATER-THAN SIGN;QUESTION MARK
;COMMERCIAL AT
E0041;TAG LATIN CAPITAL LETTER ;A;B;C;D;E;F;G;H;I;J;K;L;M;N;O;P;Q;R;S;T;U;V;W;X;Y;Z
E005B;TAG ;LEFT SQUARE BRACKET;REVERSE SOLIDUS;RIGHT SQUARE BRACKET;CIRCUMFLEX ACCENT;LOW LINE
;GRAVE ACCENT
E0061;TAG LATIN SMALL LETTER ;A;B;C;D;E;F;G;H;I;J;K;L;M;N;O;P;Q;R;S;T;U;V;W;X;Y;Z
E007B;TAG ;LEFT CURLY BRACKET;VERTICAL LINE;RIGHT CURLY BRACKET;TILDE
E007F;CANCEL TAG;
E0100;VARIATION SELECTOR-;17;18;19;20;21;22;23;24;25;26;27;28;29;30;31;32;33;34;35;36;37;38;39
;40;41;42;43;44;45;46;47;48;49;50;51;52;53;54;55;56;57;58;59;60;61;62;63;64;65;66;67;68;69;70;71
;72;73;74;75;76;77;78;79;80;81;82;83;84;85;86;87;88;89;90;91;92;93;94;95;96;97;98;99
E0153;VARIATION SELECTOR-1;00;01;02;03;04;05;06;07;08;09;10;11;12;13;14;15;16;17;18;19;20;21;22
;23;24;25;26;27;28;29;30;31;32;33;34;35;36;37;38;39;40;41;42;43;44;45;46;47;48;49;50;51;52;53;54
;55;56;57;58;59;60;61;62;63;64;65;66;67;68;69;70;71;72;73;74;75;76;77;78;79;80;81;82;83;84;85;86
;87;88;89;90;91;92;93;94;95;96;97;98;99
E01B7;VARIATION SELECTOR-2;00;01;02;03;04;05;06;07;08;09;10;11;12;13;14;15;16;17;18;19;20;21;22
;23;24;25;26;27;28;29;30;31;32;33;34;35;36;37;38;39;40;41;42;43;44;45;46;47;48;49;50;51;52;53;54
;55;56"

/-- The rows of the further names of characters, one name in a row. -/
def aliasRows : String := "
0000;NUL;
0000;NULL;
0001;SOH;
0001;START OF HEADING;
0002;START OF TEXT;
0002;STX;
0003;END OF TEXT;
0003;ETX;
0004;END OF TRANSMISSION;
0004;EOT;
0005;ENQ;
0005;ENQUIRY;
0006;ACK;
0006;ACKNOWLEDGE;
0007;ALERT;
0007;BEL;
0008;BACKSPACE;
0008;BS;
0009;CHARACTER TABULATION;
0009;HORIZONTAL TABULATION;
0009;HT;
0009;TAB;
000A;END OF LINE;
000A;EOL;
000A;LF;
000A;LINE FEED;
000A;NEW LINE;
000A;NL;
000B;LINE TABULATION;
000B;VERTICAL TABULATION;
000B;VT;
000C;FF;
000C;FORM FEED;
000D;CARRIAGE RETURN;
000D;CR;
000E;LOCKING-SHIFT ONE;
000E;SHIFT OUT;
000E;SO;
000F;LOCKING-SHIFT ZERO;
000F;SHIFT IN;
000F;SI;
0010;DATA LINK ESCAPE;
0010;DLE;
0011;DC1;
0011;DEVICE CONTROL ONE;
0012;DC2;
0012;DEVICE CONTROL TWO;
0013;DC3;
0013;DEVICE CONTROL THREE;
0014;DC4;
0014;DEVICE CONTROL FOUR;
0015;NAK;
0015;NEGATIVE ACKNOWLEDGE;
0016;SYN;
0016;SYNCHRONOUS IDLE;
0017;END OF TRANSMISSION BLOCK;
0017;ETB;
0018;CAN;
0018;CANCEL;
0019;END OF MEDIUM;
0019;EOM;
001A;SUB;
001A;SUBSTITUTE;
001B;ESC;
001B;ESCAPE;
001C;FILE SEPARATOR;
001C;FS;
001C;INFORMATION SEPARATOR FOUR;
001D;GROUP SEPARATOR;
001D;GS;
001D;INFORMATION SEPARATOR THREE;
001E;INFORMATION SEPARATOR TWO;
001E;RECORD SEPARATOR;
001E;RS;
001F;INFORMATION SEPARATOR ONE;
001F;UNIT SEPARATOR;
001F;US;
0020;SP;
007F;DEL;
007F;DELETE;
0080;PAD;
0080;PADDING CHARACTER;
0081;HIGH OCTET PRESET;
0081;HOP;
0082;BPH;
0082;BREAK PERMITTED HERE;
0083;NBH;
0083;NO BREAK HERE;
0084;IND;
0084;INDEX;
0085;NEL;
0085;NEXT LINE;
0086;SSA;
0086;START OF SELECTED AREA;
0087;END OF SELECTED AREA;
0087;ESA;
0088;CHARACTER TABULATION SET;
0088;HORIZONTAL TABULATION SET;
0088;HTS;
0089;CHARACTER TABULATION WITH JUSTIFICATION;
0089;HORIZONTAL TABULATION WITH JUSTIFICATION;
0089;HTJ;
008A;LINE TABULATION SET;
008A;VERTICAL TABULATION SET;
008A;VTS;
008B;PARTIAL LINE DOWN;
008B;PARTIAL LINE FORWARD;
008B;PLD;
008C;PARTIAL LINE BACKWARD;
008C;PARTIAL LINE UP;
008C;PLU;
008D;REVERSE INDEX;
008D;REVERSE LINE FEED;
008D;RI;
008E;SINGLE SHIFT TWO;
008E;SINGLE-SHIFT-2;
008E;SS2;
008F;SINGLE SHIFT THREE;
008F;SINGLE-SHIFT-3;
008F;SS3;
0090;DCS;
0090;DEVICE CONTROL STRING;
0091;PRIVATE USE ONE;
0091;PRIVATE USE-1;
0091;PU1;
0092;PRIVATE USE TWO;
0092;PRIVATE USE-2;
0092;PU2;
0093;SET TRANSMIT STATE;
0093;STS;
0094;CANCEL CHARACTER;
0094;CCH;
0095;MESSAGE WAITING;
0095;MW;
0096;SPA;
0096;START OF GUARDED AREA;
0096;START OF PROTECTED AREA;
0097;END OF GUARDED AREA;
0097;END OF PROTECTED AREA;
0097;EPA;
0098;SOS;
0098;START OF STRING;
0099;SGC;
0099;SINGLE GRAPHIC CHARACTER INTRODUCER;
009A;SCI;
009A;SINGLE CHARACTER INTRODUCER;
009B;CONTROL SEQUENCE INTRODUCER;
009B;CSI;
009C;ST;
009C;STRING TERMINATOR;
009D;OPERATING SYSTEM COMMAND;
009D;OSC;
009E;PM;
009E;PRIVACY MESSAGE;
009F;APC;
009F;APPLICATION PROGRAM COMMAND;
00A0;NBSP;
00AD;SHY;
01A2;LATIN CAPITAL LETTER GHA;
01A3;LATIN SMALL LETTER GHA;
034F;CGJ;
061C;ALM;
0709;SYRIAC SUBLINEAR COLON SKEWED LEFT;
0CDE;KANNADA LETTER LLLA;
0E9D;LAO LETTER FO FON;
0E9F;LAO LETTER FO FAY;
0EA3;LAO LETTER RO;
0EA5;LAO LETTER LO;
0FD0;TIBETAN MARK BKA- SHOG GI MGO RGYAN;
11EC;HANGUL JONGSEONG YESIEUNG-KIYEOK;
11ED;HANGUL JONGSEONG YESIEUNG-SSANGKIYEOK;
11EE;HANGUL JONGSEONG SSANGYESIEUNG;
11EF;HANGUL JONGSEONG YESIEUNG-KHIEUKH;
180B;FVS1;
180C;FVS2;
180D;FVS3;
180E;MVS;
180F;FVS4;
200B;ZWSP;
200C;ZWNJ;
200D;ZWJ;
200E;LRM;
200F;RLM;
202A;LRE;
202B;RLE;
202C;PDF;
202D;LRO;
202E;RLO;
202F;NNBSP;
205F;MMSP;
2060;WJ;
2066;LRI;
2067;RLI;
2068;FSI;
2069;PDI;
2118;WEIERSTRASS ELLIPTIC FUNCTION;
2448;MICR ON US SYMBOL;
2449;MICR DASH SYMBOL;
2B7A;LEFTWARDS TRIANGLE-HEADED ARROW WITH DOUBLE VERTICAL STROKE;
2B7C;RIGHTWARDS TRIANGLE-HEADED ARROW WITH DOUBLE VERTICAL STROKE;
A015;YI SYLLABLE ITERATION MARK;
AA6E;MYANMAR LETTER KHAMTI LLA;
FE00;VS1;
FE01;VS2;
FE02;VS3;
FE03;VS4;
FE04;VS5;
FE05;VS6;
FE06;VS7;
FE07;VS8;
FE08;VS9;
FE09;VS10;
FE0A;VS11;
FE0B;VS12;
FE0C;VS13;
FE0D;VS14;
FE0E;VS15;
FE0F;VS16;
FE18;PRESENTATION FORM FOR VERTICAL RIGHT WHITE LENTICULAR BRACKET;
FEFF;BOM;
FEFF;BYTE ORDER MARK;
FEFF;ZWNBSP;
122D4;CUNEIFORM SIGN NU11 TENU;
122D5;CUNEIFORM SIGN NU11 OVER NU11 BUR OVER BUR;
16E56;MEDEFAIDRIN CAPITAL LETTER H;
16E57;MEDEFAIDRIN CAPITAL LETTER NG;
16E76;MEDEFAIDRIN SMALL LETTER H;
16E77;MEDEFAIDRIN SMALL LETTER NG;
1B001;HENTAIGANA LETTER E-1;
1D0C5;BYZANTINE MUSICAL SYMBOL FTHORA SKLIRON CHROMA VASIS;
E0100;VS17;
E0101;VS18;
E0102;VS19;
E0103;VS20;
E0104;VS21;
E0105;VS22;
E0106;VS23;
E0107;VS24;
E0108;VS25;
E0109;VS26;
E010A;VS27;
E010B;VS28;
E010C;VS29;
E010D;VS30;
E010E;VS31;
E010F;VS32;
E0110;VS33;
E0111;VS34;
E0112;VS35;
E0113;VS36;
E0114;VS37;
E0115;VS38;
E0116;VS39;
E0117;VS40;
E0118;VS41;
E0119;VS42;
E011A;VS43;
E011B;VS44;
E011C;VS45;
E011D;VS46;
E011E;VS47;
E011F;VS48;
E0120;VS49;
E0121;VS50;
E0122;VS51;
E0123;VS52;
E0124;VS53;
E0125;VS54;
E0126;VS55;
E0127;VS56;
E0128;VS57;
E0129;VS58;
E012A;VS59;
E012B;VS60;
E012C;VS61;
E012D;VS62;
E012E;VS63;
E012F;VS64;
E0130;VS65;
E0131;VS66;
E0132;VS67;
E0133;VS68;
E0134;VS69;
E0135;VS70;
E0136;VS71;
E0137;VS72;
E0138;VS73;
E0139;VS74;
E013A;VS75;
E013B;VS76;
E013C;VS77;
E013D;VS78;
E013E;VS79;
E013F;VS80;
E0140;VS81;
E0141;VS82;
E0142;VS83;
E0143;VS84;
E0144;VS85;
E0145;VS86;
E0146;VS87;
E0147;VS88;
E0148;VS89;
E0149;VS90;
E014A;VS91;
E014B;VS92;
E014C;VS93;
E014D;VS94;
E014E;VS95;
E014F;VS96;
E0150;VS97;
E0151;VS98;
E0152;VS99;
E0153;VS100;
E0154;VS101;
E0155;VS102;
E0156;VS103;
E0157;VS104;
E0158;VS105;
E0159;VS106;
E015A;VS107;
E015B;VS108;
E015C;VS109;
E015D;VS110;
E015E;VS111;
E015F;VS112;
E0160;VS113;
E0161;VS114;
E0162;VS115;
E0163;VS116;
E0164;VS117;
E0165;VS118;
E0166;VS119;
E0167;VS120;
E0168;VS121;
E0169;VS122;
E016A;VS123;
E016B;VS124;
E016C;VS125;
E016D;VS126;
E016E;VS127;
E016F;VS128;
E0170;VS129;
E0171;VS130;
E0172;VS131;
E0173;VS132;
E0174;VS133;
E0175;VS134;
E0176;VS135;
E0177;VS136;
E0178;VS137;
E0179;VS138;
E017A;VS139;
E017B;VS140;
E017C;VS141;
E017D;VS142;
E017E;VS143;
E017F;VS144;
E0180;VS145;
E0181;VS146;
E0182;VS147;
E0183;VS148;
E0184;VS149;
E0185;VS150;
E0186;VS151;
E0187;VS152;
E0188;VS153;
E0189;VS154;
E018A;VS155;
E018B;VS156;
E018C;VS157;
E018D;VS158;
E018E;VS159;
E018F;VS160;
E0190;VS161;
E0191;VS162;
E0192;VS163;
E0193;VS164;
E0194;VS165;
E0195;VS166;
E0196;VS167;
E0197;VS168;
E0198;VS169;
E0199;VS170;
E019A;VS171;
E019B;VS172;
E019C;VS173;
E019D;VS174;
E019E;VS175;
E019F;VS176;
E01A0;VS177;
E01A1;VS178;
E01A2;VS179;
E01A3;VS180;
E01A4;VS181;
E01A5;VS182;
E01A6;VS183;
E01A7;VS184;
E01A8;VS185;
E01A9;VS186;
E01AA;VS187;
E01AB;VS188;
E01AC;VS189;
E01AD;VS190;
E01AE;VS191;
E01AF;VS192;
E01B0;VS193;
E01B1;VS194;
E01B2;VS195;
E01B3;VS196;
E01B4;VS197;
E01B5;VS198;
E01B6;VS199;
E01B7;VS200;
E01B8;VS201;
E01B9;VS202;
E01BA;VS203;
E01BB;VS204;
E01BC;VS205;
E01BD;VS206;
E01BE;VS207;
E01BF;VS208;
E01C0;VS209;
E01C1;VS210;
E01C2;VS211;
E01C3;VS212;
E01C4;VS213;
E01C5;VS214;
E01C6;VS215;
E01C7;VS216;
E01C8;VS217;
E01C9;VS218;
E01CA;VS219;
E01CB;VS220;
E01CC;VS221;
E01CD;VS222;
E01CE;VS223;
E01CF;VS224;
E01D0;VS225;
E01D1;VS226;
E01D2;VS227;
E01D3;VS228;
E01D4;VS229;
E01D5;VS230;
E01D6;VS231;
E01D7;VS232;
E01D8;VS233;
E01D9;VS234;
E01DA;VS235;
E01DB;VS236;
E01DC;VS237;
E01DD;VS238;
E01DE;VS239;
E01DF;VS240;
E01E0;VS241;
E01E1;VS242;
E01E2;VS243;
E01E3;VS244;
E01E4;VS245;
E01E5;VS246;
E01E6;VS247;
E01E7;VS248;
E01E8;VS249;
E01E9;VS250;
E01EA;VS251;
E01EB;VS252;
E01EC;VS253;
E01ED;VS254;
E01EE;VS255;
E01EF;VS256;"

end Rune.Unicode
