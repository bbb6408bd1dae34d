/-!
# Names of the characters 1E9E to 300E

Records with semicolons between them: the code point of the first character, what the names of consecutive characters
begin with, and the ends of these names, each behind a bar.  A line may end behind a bar or a semicolon.
-/
namespace GameSource.CharNames

/-- Names of the characters 1E9E to 213B. -/
def from1E9E : String := "
1E9E LATIN |CAPITAL LETTER SHARP S|SMALL LETTER DELTA|CAPITAL LETTER A WITH DOT BELOW|
SMALL LETTER A WITH DOT BELOW|CAPITAL LETTER A WITH HOOK ABOVE|SMALL LETTER A WITH HOOK ABOVE|
CAPITAL LETTER A WITH CIRCUMFLEX AND ACUTE|SMALL LETTER A WITH CIRCUMFLEX AND ACUTE|
CAPITAL LETTER A WITH CIRCUMFLEX AND GRAVE|SMALL LETTER A WITH CIRCUMFLEX AND GRAVE|
CAPITAL LETTER A WITH CIRCUMFLEX AND HOOK ABOVE|SMALL LETTER A WITH CIRCUMFLEX AND HOOK ABOVE|
CAPITAL LETTER A WITH CIRCUMFLEX AND TILDE|SMALL LETTER A WITH CIRCUMFLEX AND TILDE|
CAPITAL LETTER A WITH CIRCUMFLEX AND DOT BELOW|SMALL LETTER A WITH CIRCUMFLEX AND DOT BELOW|
CAPITAL LETTER A WITH BREVE AND ACUTE|SMALL LETTER A WITH BREVE AND ACUTE|
CAPITAL LETTER A WITH BREVE AND GRAVE|SMALL LETTER A WITH BREVE AND GRAVE|
CAPITAL LETTER A WITH BREVE AND HOOK ABOVE|SMALL LETTER A WITH BREVE AND HOOK ABOVE|
CAPITAL LETTER A WITH BREVE AND TILDE|SMALL LETTER A WITH BREVE AND TILDE|
CAPITAL LETTER A WITH BREVE AND DOT BELOW|SMALL LETTER A WITH BREVE AND DOT BELOW|
CAPITAL LETTER E WITH DOT BELOW|SMALL LETTER E WITH DOT BELOW|CAPITAL LETTER E WITH HOOK ABOVE|
SMALL LETTER E WITH HOOK ABOVE|CAPITAL LETTER E WITH TILDE|SMALL LETTER E WITH TILDE|
CAPITAL LETTER E WITH CIRCUMFLEX AND ACUTE|SMALL LETTER E WITH CIRCUMFLEX AND ACUTE|
CAPITAL LETTER E WITH CIRCUMFLEX AND GRAVE|SMALL LETTER E WITH CIRCUMFLEX AND GRAVE|
CAPITAL LETTER E WITH CIRCUMFLEX AND HOOK ABOVE|SMALL LETTER E WITH CIRCUMFLEX AND HOOK ABOVE|
CAPITAL LETTER E WITH CIRCUMFLEX AND TILDE|SMALL LETTER E WITH CIRCUMFLEX AND TILDE|
CAPITAL LETTER E WITH CIRCUMFLEX AND DOT BELOW|SMALL LETTER E WITH CIRCUMFLEX AND DOT BELOW|
CAPITAL LETTER I WITH HOOK ABOVE|SMALL LETTER I WITH HOOK ABOVE|CAPITAL LETTER I WITH DOT BELOW|
SMALL LETTER I WITH DOT BELOW|CAPITAL LETTER O WITH DOT BELOW|SMALL LETTER O WITH DOT BELOW|
CAPITAL LETTER O WITH HOOK ABOVE|SMALL LETTER O WITH HOOK ABOVE|CAPITAL LETTER O WITH CIRCUMFLEX AND ACUTE|
SMALL LETTER O WITH CIRCUMFLEX AND ACUTE|CAPITAL LETTER O WITH CIRCUMFLEX AND GRAVE|
SMALL LETTER O WITH CIRCUMFLEX AND GRAVE|CAPITAL LETTER O WITH CIRCUMFLEX AND HOOK ABOVE|
SMALL LETTER O WITH CIRCUMFLEX AND HOOK ABOVE|CAPITAL LETTER O WITH CIRCUMFLEX AND TILDE|
SMALL LETTER O WITH CIRCUMFLEX AND TILDE|CAPITAL LETTER O WITH CIRCUMFLEX AND DOT BELOW|
SMALL LETTER O WITH CIRCUMFLEX AND DOT BELOW|CAPITAL LETTER O WITH HORN AND ACUTE|
SMALL LETTER O WITH HORN AND ACUTE|CAPITAL LETTER O WITH HORN AND GRAVE|SMALL LETTER O WITH HORN AND GRAVE|
CAPITAL LETTER O WITH HORN AND HOOK ABOVE|SMALL LETTER O WITH HORN AND HOOK ABOVE|
CAPITAL LETTER O WITH HORN AND TILDE|SMALL LETTER O WITH HORN AND TILDE|
CAPITAL LETTER O WITH HORN AND DOT BELOW|SMALL LETTER O WITH HORN AND DOT BELOW|
CAPITAL LETTER U WITH DOT BELOW|SMALL LETTER U WITH DOT BELOW|CAPITAL LETTER U WITH HOOK ABOVE|
SMALL LETTER U WITH HOOK ABOVE|CAPITAL LETTER U WITH HORN AND ACUTE|SMALL LETTER U WITH HORN AND ACUTE|
CAPITAL LETTER U WITH HORN AND GRAVE|SMALL LETTER U WITH HORN AND GRAVE|
CAPITAL LETTER U WITH HORN AND HOOK ABOVE|SMALL LETTER U WITH HORN AND HOOK ABOVE|
CAPITAL LETTER U WITH HORN AND TILDE|SMALL LETTER U WITH HORN AND TILDE|
CAPITAL LETTER U WITH HORN AND DOT BELOW|SMALL LETTER U WITH HORN AND DOT BELOW|CAPITAL LETTER Y WITH GRAVE|
SMALL LETTER Y WITH GRAVE|CAPITAL LETTER Y WITH DOT BELOW|SMALL LETTER Y WITH DOT BELOW|
CAPITAL LETTER Y WITH HOOK ABOVE|SMALL LETTER Y WITH HOOK ABOVE|CAPITAL LETTER Y WITH TILDE|
SMALL LETTER Y WITH TILDE|CAPITAL LETTER MIDDLE-WELSH LL|SMALL LETTER MIDDLE-WELSH LL|
CAPITAL LETTER MIDDLE-WELSH V|SMALL LETTER MIDDLE-WELSH V|CAPITAL LETTER Y WITH LOOP|SMALL LETTER Y WITH LOOP;
1F00 GREEK SMALL LETTER ALPHA WITH |PSILI|DASIA|PSILI AND VARIA|DASIA AND VARIA|PSILI AND OXIA|DASIA AND OXIA|
PSILI AND PERISPOMENI|DASIA AND PERISPOMENI;1F08 GREEK CAPITAL LETTER ALPHA WITH |PSILI|DASIA|PSILI AND VARIA|
DASIA AND VARIA|PSILI AND OXIA|DASIA AND OXIA|PSILI AND PERISPOMENI|DASIA AND PERISPOMENI;
1F10 GREEK SMALL LETTER EPSILON WITH |PSILI|DASIA|PSILI AND VARIA|DASIA AND VARIA|PSILI AND OXIA|
DASIA AND OXIA;1F18 GREEK CAPITAL LETTER EPSILON WITH |PSILI|DASIA|PSILI AND VARIA|DASIA AND VARIA|
PSILI AND OXIA|DASIA AND OXIA;1F20 GREEK SMALL LETTER ETA WITH |PSILI|DASIA|PSILI AND VARIA|DASIA AND VARIA|
PSILI AND OXIA|DASIA AND OXIA|PSILI AND PERISPOMENI|DASIA AND PERISPOMENI;
1F28 GREEK CAPITAL LETTER ETA WITH |PSILI|DASIA|PSILI AND VARIA|DASIA AND VARIA|PSILI AND OXIA|DASIA AND OXIA|
PSILI AND PERISPOMENI|DASIA AND PERISPOMENI;1F30 GREEK SMALL LETTER IOTA WITH |PSILI|DASIA|PSILI AND VARIA|
DASIA AND VARIA|PSILI AND OXIA|DASIA AND OXIA|PSILI AND PERISPOMENI|DASIA AND PERISPOMENI;
1F38 GREEK CAPITAL LETTER IOTA WITH |PSILI|DASIA|PSILI AND VARIA|DASIA AND VARIA|PSILI AND OXIA|
DASIA AND OXIA|PSILI AND PERISPOMENI|DASIA AND PERISPOMENI;1F40 GREEK SMALL LETTER OMICRON WITH |PSILI|DASIA|
PSILI AND VARIA|DASIA AND VARIA|PSILI AND OXIA|DASIA AND OXIA;1F48 GREEK CAPITAL LETTER OMICRON WITH |PSILI|
DASIA|PSILI AND VARIA|DASIA AND VARIA|PSILI AND OXIA|DASIA AND OXIA;
1F50 GREEK SMALL LETTER UPSILON WITH |PSILI|DASIA|PSILI AND VARIA|DASIA AND VARIA|PSILI AND OXIA|
DASIA AND OXIA|PSILI AND PERISPOMENI|DASIA AND PERISPOMENI;1F59 GREEK CAPITAL LETTER UPSILON WITH DASIA|;
1F5B GREEK CAPITAL LETTER UPSILON WITH DASIA AND VARIA|;
1F5D GREEK CAPITAL LETTER UPSILON WITH DASIA AND OXIA|;
1F5F GREEK CAPITAL LETTER UPSILON WITH DASIA AND PERISPOMENI|;1F60 GREEK SMALL LETTER OMEGA WITH |PSILI|DASIA|
PSILI AND VARIA|DASIA AND VARIA|PSILI AND OXIA|DASIA AND OXIA|PSILI AND PERISPOMENI|DASIA AND PERISPOMENI;
1F68 GREEK CAPITAL LETTER OMEGA WITH |PSILI|DASIA|PSILI AND VARIA|DASIA AND VARIA|PSILI AND OXIA|
DASIA AND OXIA|PSILI AND PERISPOMENI|DASIA AND PERISPOMENI;1F70 GREEK SMALL LETTER |ALPHA WITH VARIA|
ALPHA WITH OXIA|EPSILON WITH VARIA|EPSILON WITH OXIA|ETA WITH VARIA|ETA WITH OXIA|IOTA WITH VARIA|
IOTA WITH OXIA|OMICRON WITH VARIA|OMICRON WITH OXIA|UPSILON WITH VARIA|UPSILON WITH OXIA|OMEGA WITH VARIA|
OMEGA WITH OXIA;1F80 GREEK SMALL LETTER ALPHA WITH |PSILI AND YPOGEGRAMMENI|DASIA AND YPOGEGRAMMENI|
PSILI AND VARIA AND YPOGEGRAMMENI|DASIA AND VARIA AND YPOGEGRAMMENI|PSILI AND OXIA AND YPOGEGRAMMENI|
DASIA AND OXIA AND YPOGEGRAMMENI|PSILI AND PERISPOMENI AND YPOGEGRAMMENI|
DASIA AND PERISPOMENI AND YPOGEGRAMMENI;1F88 GREEK CAPITAL LETTER ALPHA WITH |PSILI AND PROSGEGRAMMENI|
DASIA AND PROSGEGRAMMENI|PSILI AND VARIA AND PROSGEGRAMMENI|DASIA AND VARIA AND PROSGEGRAMMENI|
PSILI AND OXIA AND PROSGEGRAMMENI|DASIA AND OXIA AND PROSGEGRAMMENI|PSILI AND PERISPOMENI AND PROSGEGRAMMENI|
DASIA AND PERISPOMENI AND PROSGEGRAMMENI;1F90 GREEK SMALL LETTER ETA WITH |PSILI AND YPOGEGRAMMENI|
DASIA AND YPOGEGRAMMENI|PSILI AND VARIA AND YPOGEGRAMMENI|DASIA AND VARIA AND YPOGEGRAMMENI|
PSILI AND OXIA AND YPOGEGRAMMENI|DASIA AND OXIA AND YPOGEGRAMMENI|PSILI AND PERISPOMENI AND YPOGEGRAMMENI|
DASIA AND PERISPOMENI AND YPOGEGRAMMENI;1F98 GREEK CAPITAL LETTER ETA WITH |PSILI AND PROSGEGRAMMENI|
DASIA AND PROSGEGRAMMENI|PSILI AND VARIA AND PROSGEGRAMMENI|DASIA AND VARIA AND PROSGEGRAMMENI|
PSILI AND OXIA AND PROSGEGRAMMENI|DASIA AND OXIA AND PROSGEGRAMMENI|PSILI AND PERISPOMENI AND PROSGEGRAMMENI|
DASIA AND PERISPOMENI AND PROSGEGRAMMENI;1FA0 GREEK SMALL LETTER OMEGA WITH |PSILI AND YPOGEGRAMMENI|
DASIA AND YPOGEGRAMMENI|PSILI AND VARIA AND YPOGEGRAMMENI|DASIA AND VARIA AND YPOGEGRAMMENI|
PSILI AND OXIA AND YPOGEGRAMMENI|DASIA AND OXIA AND YPOGEGRAMMENI|PSILI AND PERISPOMENI AND YPOGEGRAMMENI|
DASIA AND PERISPOMENI AND YPOGEGRAMMENI;1FA8 GREEK CAPITAL LETTER OMEGA WITH |PSILI AND PROSGEGRAMMENI|
DASIA AND PROSGEGRAMMENI|PSILI AND VARIA AND PROSGEGRAMMENI|DASIA AND VARIA AND PROSGEGRAMMENI|
PSILI AND OXIA AND PROSGEGRAMMENI|DASIA AND OXIA AND PROSGEGRAMMENI|PSILI AND PERISPOMENI AND PROSGEGRAMMENI|
DASIA AND PERISPOMENI AND PROSGEGRAMMENI;1FB0 GREEK SMALL LETTER ALPHA WITH |VRACHY|MACRON|
VARIA AND YPOGEGRAMMENI|YPOGEGRAMMENI|OXIA AND YPOGEGRAMMENI;1FB6 GREEK SMALL LETTER ALPHA WITH |PERISPOMENI|
PERISPOMENI AND YPOGEGRAMMENI;1FB8 GREEK CAPITAL LETTER ALPHA WITH |VRACHY|MACRON|VARIA|OXIA|PROSGEGRAMMENI;
1FBD GREEK |KORONIS|PROSGEGRAMMENI|PSILI|PERISPOMENI|DIALYTIKA AND PERISPOMENI;
1FC2 GREEK SMALL LETTER ETA WITH |VARIA AND YPOGEGRAMMENI|YPOGEGRAMMENI|OXIA AND YPOGEGRAMMENI;
1FC6 GREEK SMALL LETTER ETA WITH |PERISPOMENI|PERISPOMENI AND YPOGEGRAMMENI;
1FC8 GREEK CAPITAL LETTER EPSILON WITH |VARIA|OXIA;1FCA GREEK CAPITAL LETTER ETA WITH |VARIA|OXIA|
PROSGEGRAMMENI;1FCD GREEK PSILI AND |VARIA|OXIA|PERISPOMENI;1FD0 GREEK SMALL LETTER IOTA WITH |VRACHY|MACRON|
DIALYTIKA AND VARIA|DIALYTIKA AND OXIA;1FD6 GREEK SMALL LETTER IOTA WITH |PERISPOMENI|
DIALYTIKA AND PERISPOMENI;1FD8 GREEK CAPITAL LETTER IOTA WITH |VRACHY|MACRON|VARIA|OXIA;
1FDD GREEK DASIA AND |VARIA|OXIA|PERISPOMENI;1FE0 GREEK SMALL LETTER UPSILON WITH |VRACHY|MACRON|
DIALYTIKA AND VARIA|DIALYTIKA AND OXIA;1FE4 GREEK SMALL LETTER |RHO WITH PSILI|RHO WITH DASIA|
UPSILON WITH PERISPOMENI|UPSILON WITH DIALYTIKA AND PERISPOMENI;
1FE8 GREEK CAPITAL LETTER UPSILON WITH |VRACHY|MACRON|VARIA|OXIA;1FEC GREEK |CAPITAL LETTER RHO WITH DASIA|
DIALYTIKA AND VARIA|DIALYTIKA AND OXIA|VARIA;1FF2 GREEK SMALL LETTER OMEGA WITH |VARIA AND YPOGEGRAMMENI|
YPOGEGRAMMENI|OXIA AND YPOGEGRAMMENI;1FF6 GREEK SMALL LETTER OMEGA WITH |PERISPOMENI|
PERISPOMENI AND YPOGEGRAMMENI;1FF8 GREEK CAPITAL LETTER OMICRON WITH |VARIA|OXIA;
1FFA GREEK CAPITAL LETTER OMEGA WITH |VARIA|OXIA|PROSGEGRAMMENI;1FFD GREEK |OXIA|DASIA;2000 EN QUAD|;
2001 EM QUAD|;2002 EN SPACE|;2003 EM SPACE|;2004 THREE-PER-EM SPACE|;2005 FOUR-PER-EM SPACE|;
2006 SIX-PER-EM SPACE|;2007 FIGURE SPACE|;2008 PUNCTUATION SPACE|;2009 THIN SPACE|;200A HAIR SPACE|;
200B ZERO WIDTH |SPACE|NON-JOINER|JOINER;200E LEFT-TO-RIGHT MARK|;200F RIGHT-TO-LEFT MARK|;2010 HYPHEN|;
2011 NON-BREAKING HYPHEN|;2012 FIGURE DASH|;2013 EN DASH|;2014 EM DASH|;2015 HORIZONTAL BAR|;
2016 DOUBLE |VERTICAL LINE|LOW LINE;2018 LEFT SINGLE QUOTATION MARK|;2019 RIGHT SINGLE QUOTATION MARK|;
201A SINGLE |LOW-9 QUOTATION MARK|HIGH-REVERSED-9 QUOTATION MARK;201C LEFT DOUBLE QUOTATION MARK|;
201D RIGHT DOUBLE QUOTATION MARK|;201E DOUBLE |LOW-9 QUOTATION MARK|HIGH-REVERSED-9 QUOTATION MARK;
2020 DAGGER|;2021 DOUBLE DAGGER|;2022 BULLET|;2023 TRIANGULAR BULLET|;2024 ONE DOT LEADER|;
2025 TWO DOT LEADER|;2026 HORIZONTAL ELLIPSIS|;2027 HYPHENATION POINT|;2028 LINE SEPARATOR|;
2029 PARAGRAPH SEPARATOR|;202A LEFT-TO-RIGHT EMBEDDING|;202B RIGHT-TO-LEFT EMBEDDING|;
202C POP DIRECTIONAL FORMATTING|;202D LEFT-TO-RIGHT OVERRIDE|;202E RIGHT-TO-LEFT OVERRIDE|;
202F NARROW NO-BREAK SPACE|;2030 PER |MILLE SIGN|TEN THOUSAND SIGN;2032 PRIME|;2033 DOUBLE PRIME|;
2034 TRIPLE PRIME|;2035 REVERSED |PRIME|DOUBLE PRIME|TRIPLE PRIME;2038 CARET|;
2039 SINGLE |LEFT-POINTING ANGLE QUOTATION MARK|RIGHT-POINTING ANGLE QUOTATION MARK;203B REFERENCE MARK|;
203C DOUBLE EXCLAMATION MARK|;203D INTERROBANG|;203E OVERLINE|;203F UNDERTIE|;2040 CHARACTER TIE|;
2041 CARET INSERTION POINT|;2042 ASTERISM|;2043 HYPHEN BULLET|;2044 FRACTION SLASH|;
2045 LEFT SQUARE BRACKET WITH QUILL|;2046 RIGHT SQUARE BRACKET WITH QUILL|;2047 DOUBLE QUESTION MARK|;
2048 QUESTION EXCLAMATION MARK|;2049 EXCLAMATION QUESTION MARK|;204A TIRONIAN SIGN ET|;
204B REVERSED PILCROW SIGN|;204C BLACK |LEFTWARDS BULLET|RIGHTWARDS BULLET;204E LOW ASTERISK|;
204F REVERSED SEMICOLON|;2050 CLOSE UP|;2051 TWO ASTERISKS ALIGNED VERTICALLY|;2052 COMMERCIAL MINUS SIGN|;
2053 SWUNG DASH|;2054 INVERTED UNDERTIE|;2055 FLOWER PUNCTUATION MARK|;2056 THREE DOT PUNCTUATION|;
2057 QUADRUPLE PRIME|;2058 FOUR DOT PUNCTUATION|;2059 FIVE DOT PUNCTUATION|;205A TWO DOT PUNCTUATION|;
205B FOUR DOT MARK|;205C DOTTED CROSS|;205D TRICOLON|;205E VERTICAL FOUR DOTS|;
205F MEDIUM MATHEMATICAL SPACE|;2060 WORD JOINER|;2061 FUNCTION APPLICATION|;2062 INVISIBLE |TIMES|SEPARATOR|
PLUS;2066 LEFT-TO-RIGHT ISOLATE|;2067 RIGHT-TO-LEFT ISOLATE|;2068 FIRST STRONG ISOLATE|;
2069 POP DIRECTIONAL ISOLATE|;206A INHIBIT SYMMETRIC SWAPPING|;206B ACTIVATE SYMMETRIC SWAPPING|;
206C INHIBIT ARABIC FORM SHAPING|;206D ACTIVATE ARABIC FORM SHAPING|;206E NATIONAL DIGIT SHAPES|;
206F NOMINAL DIGIT SHAPES|;2070 SUPERSCRIPT |ZERO|LATIN SMALL LETTER I;2074 SUPERSCRIPT |FOUR|FIVE|SIX|SEVEN|
EIGHT|NINE|PLUS SIGN|MINUS|EQUALS SIGN|LEFT PARENTHESIS|RIGHT PARENTHESIS|LATIN SMALL LETTER N;
2080 SUBSCRIPT |ZERO|ONE|TWO|THREE|FOUR|FIVE|SIX|SEVEN|EIGHT|NINE|PLUS SIGN|MINUS|EQUALS SIGN|
LEFT PARENTHESIS|RIGHT PARENTHESIS;2090 LATIN SUBSCRIPT SMALL LETTER |A|E|O|X|SCHWA|H|K|L|M|N|P|S|T;
20A0 EURO-CURRENCY SIGN|;20A1 COLON SIGN|;20A2 CRUZEIRO SIGN|;20A3 FRENCH FRANC SIGN|;20A4 LIRA SIGN|;
20A5 MILL SIGN|;20A6 NAIRA SIGN|;20A7 PESETA SIGN|;20A8 RUPEE SIGN|;20A9 WON SIGN|;20AA NEW SHEQEL SIGN|;
20AB DONG SIGN|;20AC EURO SIGN|;20AD KIP SIGN|;20AE TUGRIK SIGN|;20AF DRACHMA SIGN|;20B0 GERMAN PENNY SIGN|;
20B1 PESO SIGN|;20B2 GUARANI SIGN|;20B3 AUSTRAL SIGN|;20B4 HRYVNIA SIGN|;20B5 CEDI SIGN|;
20B6 LIVRE TOURNOIS SIGN|;20B7 SPESMILO SIGN|;20B8 TENGE SIGN|;20B9 INDIAN RUPEE SIGN|;
20BA TURKISH LIRA SIGN|;20BB NORDIC MARK SIGN|;20BC MANAT SIGN|;20BD RUBLE SIGN|;20BE LARI SIGN|;
20BF BITCOIN SIGN|;20C0 SOM SIGN|;20D0 COMBINING |LEFT HARPOON ABOVE|RIGHT HARPOON ABOVE|
LONG VERTICAL LINE OVERLAY|SHORT VERTICAL LINE OVERLAY|ANTICLOCKWISE ARROW ABOVE|CLOCKWISE ARROW ABOVE|
LEFT ARROW ABOVE|RIGHT ARROW ABOVE|RING OVERLAY|CLOCKWISE RING OVERLAY|ANTICLOCKWISE RING OVERLAY|
THREE DOTS ABOVE|FOUR DOTS ABOVE|ENCLOSING CIRCLE|ENCLOSING SQUARE|ENCLOSING DIAMOND|
ENCLOSING CIRCLE BACKSLASH|LEFT RIGHT ARROW ABOVE|ENCLOSING SCREEN|ENCLOSING KEYCAP|
ENCLOSING UPWARD POINTING TRIANGLE|REVERSE SOLIDUS OVERLAY|DOUBLE VERTICAL STROKE OVERLAY|ANNUITY SYMBOL|
TRIPLE UNDERDOT|WIDE BRIDGE ABOVE|LEFTWARDS ARROW OVERLAY|LONG DOUBLE SOLIDUS OVERLAY|
RIGHTWARDS HARPOON WITH BARB DOWNWARDS|LEFTWARDS HARPOON WITH BARB DOWNWARDS|LEFT ARROW BELOW|
RIGHT ARROW BELOW|ASTERISK ABOVE;2100 ACCOUNT OF|;2101 ADDRESSED TO THE SUBJECT|;
2102 DOUBLE-STRUCK CAPITAL C|;2103 DEGREE CELSIUS|;2104 CENTRE LINE SYMBOL|;2105 CARE OF|;2106 CADA UNA|;
2107 EULER CONSTANT|;2108 SCRUPLE|;2109 DEGREE FAHRENHEIT|;210A SCRIPT |SMALL G|CAPITAL H;
210C BLACK-LETTER CAPITAL H|;210D DOUBLE-STRUCK CAPITAL H|;210E PLANCK |CONSTANT|CONSTANT OVER TWO PI;
2110 SCRIPT CAPITAL I|;2111 BLACK-LETTER CAPITAL I|;2112 SCRIPT |CAPITAL L|SMALL L;2114 L B BAR SYMBOL|;
2115 DOUBLE-STRUCK CAPITAL N|;2116 NUMERO SIGN|;2117 SOUND RECORDING COPYRIGHT|;2118 SCRIPT CAPITAL P|;
2119 DOUBLE-STRUCK CAPITAL |P|Q;211B SCRIPT CAPITAL R|;211C BLACK-LETTER CAPITAL R|;
211D DOUBLE-STRUCK CAPITAL R|;211E PRESCRIPTION TAKE|;211F RESPONSE|;2120 SERVICE MARK|;2121 TELEPHONE SIGN|;
2122 TRADE MARK SIGN|;2123 VERSICLE|;2124 DOUBLE-STRUCK CAPITAL Z|;2125 OUNCE SIGN|;2126 OHM SIGN|;
2127 INVERTED OHM SIGN|;2128 BLACK-LETTER CAPITAL Z|;2129 TURNED GREEK SMALL LETTER IOTA|;212A KELVIN SIGN|;
212B ANGSTROM SIGN|;212C SCRIPT CAPITAL B|;212D BLACK-LETTER CAPITAL C|;212E ESTIMATED SYMBOL|;
212F SCRIPT |SMALL E|CAPITAL E|CAPITAL F;2132 TURNED CAPITAL F|;2133 SCRIPT |CAPITAL M|SMALL O;
2135 ALEF SYMBOL|;2136 BET SYMBOL|;2137 GIMEL SYMBOL|;2138 DALET SYMBOL|;2139 INFORMATION SOURCE|;
213A ROTATED CAPITAL Q|;213B FACSIMILE SIGN|"

/-- Names of the characters 213C to 23D0. -/
def from213C : String := "
213C DOUBLE-STRUCK |SMALL PI|SMALL GAMMA|CAPITAL GAMMA|CAPITAL PI|N-ARY SUMMATION;
2141 TURNED SANS-SERIF CAPITAL |G|L;2143 REVERSED SANS-SERIF CAPITAL L|;2144 TURNED SANS-SERIF CAPITAL Y|;
2145 DOUBLE-STRUCK ITALIC |CAPITAL D|SMALL D|SMALL E|SMALL I|SMALL J;214A PROPERTY LINE|;
214B TURNED AMPERSAND|;214C PER SIGN|;214D AKTIESELSKAB|;214E TURNED SMALL F|;
214F SYMBOL FOR SAMARITAN SOURCE|;2150 VULGAR FRACTION |ONE SEVENTH|ONE NINTH|ONE TENTH|ONE THIRD|TWO THIRDS|
ONE FIFTH|TWO FIFTHS|THREE FIFTHS|FOUR FIFTHS|ONE SIXTH|FIVE SIXTHS|ONE EIGHTH|THREE EIGHTHS|FIVE EIGHTHS|
SEVEN EIGHTHS;215F FRACTION NUMERATOR ONE|;2160 ROMAN NUMERAL |ONE|TWO|THREE|FOUR|FIVE|SIX|SEVEN|EIGHT|NINE|
TEN|ELEVEN|TWELVE|FIFTY|ONE HUNDRED|FIVE HUNDRED|ONE THOUSAND;2170 SMALL ROMAN NUMERAL |ONE|TWO|THREE|FOUR|
FIVE|SIX|SEVEN|EIGHT|NINE|TEN|ELEVEN|TWELVE|FIFTY|ONE HUNDRED|FIVE HUNDRED|ONE THOUSAND;
2180 ROMAN NUMERAL |ONE THOUSAND C D|FIVE THOUSAND|TEN THOUSAND|REVERSED ONE HUNDRED;
2184 LATIN SMALL LETTER REVERSED C|;2185 ROMAN NUMERAL |SIX LATE FORM|FIFTY EARLY FORM|FIFTY THOUSAND|
ONE HUNDRED THOUSAND;2189 VULGAR FRACTION ZERO THIRDS|;218A TURNED DIGIT |TWO|THREE;2190 LEFTWARDS ARROW|;
2191 UPWARDS ARROW|;2192 RIGHTWARDS ARROW|;2193 DOWNWARDS ARROW|;2194 LEFT RIGHT ARROW|;2195 UP DOWN ARROW|;
2196 NORTH |WEST ARROW|EAST ARROW;2198 SOUTH |EAST ARROW|WEST ARROW;219A LEFTWARDS ARROW WITH STROKE|;
219B RIGHTWARDS ARROW WITH STROKE|;219C LEFTWARDS WAVE ARROW|;219D RIGHTWARDS WAVE ARROW|;
219E LEFTWARDS TWO HEADED ARROW|;219F UPWARDS TWO HEADED ARROW|;21A0 RIGHTWARDS TWO HEADED ARROW|;
21A1 DOWNWARDS TWO HEADED ARROW|;21A2 LEFTWARDS ARROW WITH TAIL|;21A3 RIGHTWARDS ARROW WITH TAIL|;
21A4 LEFTWARDS ARROW FROM BAR|;21A5 UPWARDS ARROW FROM BAR|;21A6 RIGHTWARDS ARROW FROM BAR|;
21A7 DOWNWARDS ARROW FROM BAR|;21A8 UP DOWN ARROW WITH BASE|;21A9 LEFTWARDS ARROW WITH HOOK|;
21AA RIGHTWARDS ARROW WITH HOOK|;21AB LEFTWARDS ARROW WITH LOOP|;21AC RIGHTWARDS ARROW WITH LOOP|;
21AD LEFT RIGHT |WAVE ARROW|ARROW WITH STROKE;21AF DOWNWARDS ZIGZAG ARROW|;
21B0 UPWARDS ARROW WITH TIP |LEFTWARDS|RIGHTWARDS;21B2 DOWNWARDS ARROW WITH TIP |LEFTWARDS|RIGHTWARDS;
21B4 RIGHTWARDS ARROW WITH CORNER DOWNWARDS|;21B5 DOWNWARDS ARROW WITH CORNER LEFTWARDS|;
21B6 ANTICLOCKWISE TOP SEMICIRCLE ARROW|;21B7 CLOCKWISE TOP SEMICIRCLE ARROW|;
21B8 NORTH WEST ARROW TO LONG BAR|;21B9 LEFTWARDS ARROW TO BAR OVER RIGHTWARDS ARROW TO BAR|;
21BA ANTICLOCKWISE OPEN CIRCLE ARROW|;21BB CLOCKWISE OPEN CIRCLE ARROW|;
21BC LEFTWARDS HARPOON WITH BARB |UPWARDS|DOWNWARDS;21BE UPWARDS HARPOON WITH BARB |RIGHTWARDS|LEFTWARDS;
21C0 RIGHTWARDS HARPOON WITH BARB |UPWARDS|DOWNWARDS;21C2 DOWNWARDS HARPOON WITH BARB |RIGHTWARDS|LEFTWARDS;
21C4 RIGHTWARDS ARROW OVER LEFTWARDS ARROW|;21C5 UPWARDS ARROW LEFTWARDS OF DOWNWARDS ARROW|;
21C6 LEFTWARDS |ARROW OVER RIGHTWARDS ARROW|PAIRED ARROWS;21C8 UPWARDS PAIRED ARROWS|;
21C9 RIGHTWARDS PAIRED ARROWS|;21CA DOWNWARDS PAIRED ARROWS|;21CB LEFTWARDS HARPOON OVER RIGHTWARDS HARPOON|;
21CC RIGHTWARDS HARPOON OVER LEFTWARDS HARPOON|;21CD LEFTWARDS DOUBLE ARROW WITH STROKE|;
21CE LEFT RIGHT DOUBLE ARROW WITH STROKE|;21CF RIGHTWARDS DOUBLE ARROW WITH STROKE|;
21D0 LEFTWARDS DOUBLE ARROW|;21D1 UPWARDS DOUBLE ARROW|;21D2 RIGHTWARDS DOUBLE ARROW|;
21D3 DOWNWARDS DOUBLE ARROW|;21D4 LEFT RIGHT DOUBLE ARROW|;21D5 UP DOWN DOUBLE ARROW|;
21D6 NORTH |WEST DOUBLE ARROW|EAST DOUBLE ARROW;21D8 SOUTH |EAST DOUBLE ARROW|WEST DOUBLE ARROW;
21DA LEFTWARDS TRIPLE ARROW|;21DB RIGHTWARDS TRIPLE ARROW|;21DC LEFTWARDS SQUIGGLE ARROW|;
21DD RIGHTWARDS SQUIGGLE ARROW|;21DE UPWARDS ARROW WITH DOUBLE STROKE|;
21DF DOWNWARDS ARROW WITH DOUBLE STROKE|;21E0 LEFTWARDS DASHED ARROW|;21E1 UPWARDS DASHED ARROW|;
21E2 RIGHTWARDS DASHED ARROW|;21E3 DOWNWARDS DASHED ARROW|;21E4 LEFTWARDS ARROW TO BAR|;
21E5 RIGHTWARDS ARROW TO BAR|;21E6 LEFTWARDS WHITE ARROW|;21E7 UPWARDS WHITE ARROW|;
21E8 RIGHTWARDS WHITE ARROW|;21E9 DOWNWARDS WHITE ARROW|;21EA UPWARDS WHITE ARROW |FROM BAR|ON PEDESTAL|
ON PEDESTAL WITH HORIZONTAL BAR|ON PEDESTAL WITH VERTICAL BAR;21EE UPWARDS WHITE DOUBLE |ARROW|
ARROW ON PEDESTAL;21F0 RIGHTWARDS WHITE ARROW FROM WALL|;21F1 NORTH WEST ARROW TO CORNER|;
21F2 SOUTH EAST ARROW TO CORNER|;21F3 UP DOWN WHITE ARROW|;21F4 RIGHT ARROW WITH SMALL CIRCLE|;
21F5 DOWNWARDS ARROW LEFTWARDS OF UPWARDS ARROW|;21F6 THREE RIGHTWARDS ARROWS|;
21F7 LEFTWARDS ARROW WITH VERTICAL STROKE|;21F8 RIGHTWARDS ARROW WITH VERTICAL STROKE|;
21F9 LEFT RIGHT ARROW WITH VERTICAL STROKE|;21FA LEFTWARDS ARROW WITH DOUBLE VERTICAL STROKE|;
21FB RIGHTWARDS ARROW WITH DOUBLE VERTICAL STROKE|;21FC LEFT RIGHT ARROW WITH DOUBLE VERTICAL STROKE|;
21FD LEFTWARDS OPEN-HEADED ARROW|;21FE RIGHTWARDS OPEN-HEADED ARROW|;21FF LEFT RIGHT OPEN-HEADED ARROW|;
2200 FOR ALL|;2201 COMPLEMENT|;2202 PARTIAL DIFFERENTIAL|;2203 THERE |EXISTS|DOES NOT EXIST;2205 EMPTY SET|;
2206 INCREMENT|;2207 NABLA|;2208 ELEMENT OF|;2209 NOT AN ELEMENT OF|;220A SMALL ELEMENT OF|;
220B CONTAINS AS MEMBER|;220C DOES NOT CONTAIN AS MEMBER|;220D SMALL CONTAINS AS MEMBER|;220E END OF PROOF|;
220F N-ARY |PRODUCT|COPRODUCT|SUMMATION;2212 MINUS SIGN|;2213 MINUS-OR-PLUS SIGN|;2214 DOT PLUS|;
2215 DIVISION SLASH|;2216 SET MINUS|;2217 ASTERISK OPERATOR|;2218 RING OPERATOR|;2219 BULLET OPERATOR|;
221A SQUARE ROOT|;221B CUBE ROOT|;221C FOURTH ROOT|;221D PROPORTIONAL TO|;221E INFINITY|;221F RIGHT ANGLE|;
2220 ANGLE|;2221 MEASURED ANGLE|;2222 SPHERICAL ANGLE|;2223 DIVIDES|;2224 DOES NOT DIVIDE|;2225 PARALLEL TO|;
2226 NOT PARALLEL TO|;2227 LOGICAL |AND|OR;2229 INTERSECTION|;222A UNION|;222B INTEGRAL|;
222C DOUBLE INTEGRAL|;222D TRIPLE INTEGRAL|;222E CONTOUR INTEGRAL|;222F SURFACE INTEGRAL|;
2230 VOLUME INTEGRAL|;2231 CLOCKWISE |INTEGRAL|CONTOUR INTEGRAL;2233 ANTICLOCKWISE CONTOUR INTEGRAL|;
2234 THEREFORE|;2235 BECAUSE|;2236 RATIO|;2237 PROPORTION|;2238 DOT MINUS|;2239 EXCESS|;
223A GEOMETRIC PROPORTION|;223B HOMOTHETIC|;223C TILDE OPERATOR|;223D REVERSED TILDE|;223E INVERTED LAZY S|;
223F SINE WAVE|;2240 WREATH PRODUCT|;2241 NOT TILDE|;2242 MINUS TILDE|;2243 ASYMPTOTICALLY EQUAL TO|;
2244 NOT ASYMPTOTICALLY EQUAL TO|;2245 APPROXIMATELY |EQUAL TO|BUT NOT ACTUALLY EQUAL TO;
2247 NEITHER APPROXIMATELY NOR ACTUALLY EQUAL TO|;2248 ALMOST EQUAL TO|;2249 NOT ALMOST EQUAL TO|;
224A ALMOST EQUAL OR EQUAL TO|;224B TRIPLE TILDE|;224C ALL EQUAL TO|;224D EQUIVALENT TO|;
224E GEOMETRICALLY EQUIVALENT TO|;224F DIFFERENCE BETWEEN|;2250 APPROACHES THE LIMIT|;
2251 GEOMETRICALLY EQUAL TO|;2252 APPROXIMATELY EQUAL TO OR THE IMAGE OF|;
2253 IMAGE OF OR APPROXIMATELY EQUAL TO|;2254 COLON EQUALS|;2255 EQUALS COLON|;2256 RING |IN EQUAL TO|
EQUAL TO;2258 CORRESPONDS TO|;2259 ESTIMATES|;225A EQUIANGULAR TO|;225B STAR EQUALS|;225C DELTA EQUAL TO|;
225D EQUAL TO BY DEFINITION|;225E MEASURED BY|;225F QUESTIONED EQUAL TO|;2260 NOT EQUAL TO|;
2261 IDENTICAL TO|;2262 NOT IDENTICAL TO|;2263 STRICTLY EQUIVALENT TO|;2264 LESS-THAN OR EQUAL TO|;
2265 GREATER-THAN OR EQUAL TO|;2266 LESS-THAN OVER EQUAL TO|;2267 GREATER-THAN OVER EQUAL TO|;
2268 LESS-THAN BUT NOT EQUAL TO|;2269 GREATER-THAN BUT NOT EQUAL TO|;226A MUCH |LESS-THAN|GREATER-THAN;
226C BETWEEN|;226D NOT |EQUIVALENT TO|LESS-THAN|GREATER-THAN;2270 NEITHER |LESS-THAN NOR EQUAL TO|
GREATER-THAN NOR EQUAL TO;2272 LESS-THAN OR EQUIVALENT TO|;2273 GREATER-THAN OR EQUIVALENT TO|;
2274 NEITHER |LESS-THAN NOR EQUIVALENT TO|GREATER-THAN NOR EQUIVALENT TO;2276 LESS-THAN OR GREATER-THAN|;
2277 GREATER-THAN OR LESS-THAN|;2278 NEITHER |LESS-THAN NOR GREATER-THAN|GREATER-THAN NOR LESS-THAN;
227A PRECEDES|;227B SUCCEEDS|;227C PRECEDES OR EQUAL TO|;227D SUCCEEDS OR EQUAL TO|;
227E PRECEDES OR EQUIVALENT TO|;227F SUCCEEDS OR EQUIVALENT TO|;2280 DOES NOT |PRECEDE|SUCCEED;
2282 SUBSET OF|;2283 SUPERSET OF|;2284 NOT A |SUBSET OF|SUPERSET OF;2286 SUBSET OF OR EQUAL TO|;
2287 SUPERSET OF OR EQUAL TO|;2288 NEITHER A |SUBSET OF NOR EQUAL TO|SUPERSET OF NOR EQUAL TO;
228A SUBSET OF WITH NOT EQUAL TO|;228B SUPERSET OF WITH NOT EQUAL TO|;228C MULTISET|;
228D MULTISET |MULTIPLICATION|UNION;228F SQUARE |IMAGE OF;2290 SQUARE ORIG|INAL OF;
2291 SQUARE |IMAGE OF OR EQUAL TO;2292 SQUARE ORIG|INAL OF OR EQUAL TO;2293 SQUARE |CAP|CUP;
2295 CIRCLED |PLUS|MINUS|TIMES|DIVISION SLASH|DOT OPERATOR|RING OPERATOR|
ASTERISK OPERATOR|EQUALS|DASH;229E SQUARED |PLUS|MINUS|TIMES|DOT OPERATOR;22A2 RIGHT TACK|;22A3 LEFT TACK|;
22A4 DOWN TACK|;22A5 UP TACK|;22A6 ASSERTION|;22A7 MODELS|;22A8 TRUE|;22A9 FORCES|;
22AA TRIPLE VERTICAL BAR RIGHT TURNSTILE|;22AB DOUBLE VERTICAL BAR DOUBLE RIGHT TURNSTILE|;
22AC DOES NOT PROVE|;22AD NOT TRUE|;22AE DOES NOT FORCE|;
22AF NEGATED DOUBLE VERTICAL BAR DOUBLE RIGHT TURNSTILE|;22B0 PRECEDES UNDER RELATION|;
22B1 SUCCEEDS UNDER RELATION|;22B2 NORMAL SUBGROUP OF|;22B3 CONTAINS AS NORMAL SUBGROUP|;
22B4 NORMAL SUBGROUP OF OR EQUAL TO|;22B5 CONTAINS AS NORMAL SUBGROUP OR EQUAL TO|;22B6 ORIG|INAL OF;
22B7 IMAGE OF|;22B8 MULTIMAP|;22B9 HERMITIAN CONJUGATE MATRIX|;22BA INTERCALATE|;22BB XOR|;22BC NAND|;
22BD NOR|;22BE RIGHT |ANGLE WITH ARC|TRIANGLE;22C0 N-ARY |LOGICAL AND|LOGICAL OR|INTERSECTION|UNION;
22C4 DIAMOND OPERATOR|;22C5 DOT OPERATOR|;22C6 STAR OPERATOR|;22C7 DIVISION TIMES|;22C8 BOWTIE|;
22C9 LEFT NORMAL FACTOR SEMIDIRECT PRODUCT|;22CA RIGHT NORMAL FACTOR SEMIDIRECT PRODUCT|;
22CB LEFT SEMIDIRECT PRODUCT|;22CC RIGHT SEMIDIRECT PRODUCT|;22CD REVERSED TILDE EQUALS|;
22CE CURLY LOGICAL |OR|AND;22D0 DOUBLE |SUBSET|SUPERSET|INTERSECTION|UNION;22D4 PITCHFORK|;
22D5 EQUAL AND PARALLEL TO|;22D6 LESS-THAN WITH DOT|;22D7 GREATER-THAN WITH DOT|;22D8 VERY MUCH |LESS-THAN|
GREATER-THAN;22DA LESS-THAN EQUAL TO OR GREATER-THAN|;22DB GREATER-THAN EQUAL TO OR LESS-THAN|;
22DC EQUAL TO OR |LESS-THAN|GREATER-THAN|PRECEDES|SUCCEEDS;22E0 DOES NOT |PRECEDE OR EQUAL|SUCCEED OR EQUAL;
22E2 NOT SQUARE |IMAGE OF OR EQUAL TO;22E3 NOT SQUARE ORIG|INAL OF OR EQUAL TO;
22E4 SQUARE |IMAGE OF OR NOT EQUAL TO;22E5 SQUARE ORIG|INAL OF OR NOT EQUAL TO;
22E6 LESS-THAN BUT NOT EQUIVALENT TO|;22E7 GREATER-THAN BUT NOT EQUIVALENT TO|;
22E8 PRECEDES BUT NOT EQUIVALENT TO|;22E9 SUCCEEDS BUT NOT EQUIVALENT TO|;22EA NOT NORMAL SUBGROUP OF|;
22EB DOES NOT CONTAIN AS NORMAL SUBGROUP|;22EC NOT NORMAL SUBGROUP OF OR EQUAL TO|;
22ED DOES NOT CONTAIN AS NORMAL SUBGROUP OR EQUAL|;22EE VERTICAL ELLIPSIS|;22EF MIDLINE HORIZONTAL ELLIPSIS|;
22F0 UP RIGHT DIAGONAL ELLIPSIS|;22F1 DOWN RIGHT DIAGONAL ELLIPSIS|;
22F2 ELEMENT OF WITH |LONG HORIZONTAL STROKE|VERTICAL BAR AT END OF HORIZONTAL STROKE;
22F4 SMALL ELEMENT OF WITH VERTICAL BAR AT END OF HORIZONTAL STROKE|;22F5 ELEMENT OF WITH |DOT ABOVE|OVERBAR;
22F7 SMALL ELEMENT OF WITH OVERBAR|;22F8 ELEMENT OF WITH |UNDERBAR|TWO HORIZONTAL STROKES;
22FA CONTAINS WITH |LONG HORIZONTAL STROKE|VERTICAL BAR AT END OF HORIZONTAL STROKE;
22FC SMALL CONTAINS WITH VERTICAL BAR AT END OF HORIZONTAL STROKE|;22FD CONTAINS WITH OVERBAR|;
22FE SMALL CONTAINS WITH OVERBAR|;22FF Z NOTATION BAG MEMBERSHIP|;2300 DIAMETER SIGN|;2301 ELECTRIC ARROW|;
2302 HOUSE|;2303 UP ARROWHEAD|;2304 DOWN ARROWHEAD|;2305 PROJECTIVE|;2306 PERSPECTIVE|;2307 WAVY LINE|;
2308 LEFT CEILING|;2309 RIGHT CEILING|;230A LEFT FLOOR|;230B RIGHT FLOOR|;230C BOTTOM |RIGHT CROP|LEFT CROP;
230E TOP |RIGHT CROP|LEFT CROP;2310 REVERSED NOT SIGN|;2311 SQUARE LOZENGE|;2312 ARC|;2313 SEGMENT|;
2314 SECTOR|;2315 TELEPHONE RECORDER|;2316 POSITION INDICATOR|;2317 VIEWDATA SQUARE|;
2318 PLACE OF INTEREST SIGN|;2319 TURNED NOT SIGN|;231A WATCH|;231B HOURGLASS|;231C TOP |LEFT CORNER|
RIGHT CORNER;231E BOTTOM |LEFT CORNER|RIGHT CORNER;2320 TOP HALF INTEGRAL|;2321 BOTTOM HALF INTEGRAL|;
2322 FROWN|;2323 SMILE|;2324 UP ARROWHEAD BETWEEN TWO HORIZONTAL BARS|;2325 OPTION KEY|;
2326 ERASE TO THE RIGHT|;2327 X IN A RECTANGLE BOX|;2328 KEYBOARD|;2329 LEFT-POINTING ANGLE BRACKET|;
232A RIGHT-POINTING ANGLE BRACKET|;232B ERASE TO THE LEFT|;232C BENZENE RING|;232D CYLINDRICITY|;
232E ALL AROUND-PROFILE|;232F SYMMETRY|;2330 TOTAL RUNOUT|;2331 DIMENSION ORIGIN|;2332 CONICAL TAPER|;
2333 SLOPE|;2334 COUNTERBORE|;2335 COUNTERSINK|;2336 APL FUNCTIONAL SYMBOL |I-BEAM|SQUISH QUAD|QUAD EQUAL|
QUAD DIVIDE|QUAD DIAMOND|QUAD JOT|QUAD CIRCLE|CIRCLE STILE|CIRCLE JOT|SLASH BAR|BACKSLASH BAR|QUAD SLASH|
QUAD BACKSLASH|QUAD LESS-THAN|QUAD GREATER-THAN|LEFTWARDS VANE|RIGHTWARDS VANE|QUAD LEFTWARDS ARROW|
QUAD RIGHTWARDS ARROW|CIRCLE BACKSLASH|DOWN TACK UNDERBAR|DELTA STILE|QUAD DOWN CARET|QUAD DELTA|
DOWN TACK JOT|UPWARDS VANE|QUAD UPWARDS ARROW|UP TACK OVERBAR|DEL STILE|QUAD UP CARET|QUAD DEL|UP TACK JOT|
DOWNWARDS VANE|QUAD DOWNWARDS ARROW|QUOTE UNDERBAR|DELTA UNDERBAR|DIAMOND UNDERBAR|JOT UNDERBAR|
CIRCLE UNDERBAR|UP SHOE JOT|QUOTE QUAD|CIRCLE STAR|QUAD COLON|UP TACK DIAERESIS|DEL DIAERESIS|STAR DIAERESIS|
JOT DIAERESIS|CIRCLE DIAERESIS|DOWN SHOE STILE|LEFT SHOE STILE|TILDE DIAERESIS|GREATER-THAN DIAERESIS|
COMMA BAR|DEL TILDE|ZILDE|STILE TILDE|SEMICOLON UNDERBAR|QUAD NOT EQUAL|QUAD QUESTION|DOWN CARET TILDE|
UP CARET TILDE|IOTA|RHO|OMEGA|ALPHA UNDERBAR|EPSILON UNDERBAR|IOTA UNDERBAR|OMEGA UNDERBAR|ALPHA;
237B NOT CHECK MARK|;237C RIGHT ANGLE WITH DOWNWARDS ZIGZAG ARROW|;237D SHOULDERED OPEN BOX|;
237E BELL SYMBOL|;237F VERTICAL LINE WITH MIDDLE DOT|;2380 INSERTION SYMBOL|;
2381 CONTINUOUS UNDERLINE SYMBOL|;2382 DISCONTINUOUS UNDERLINE SYMBOL|;2383 EMPHASIS SYMBOL|;
2384 COMPOSITION SYMBOL|;2385 WHITE SQUARE WITH CENTRE VERTICAL LINE|;2386 ENTER SYMBOL|;
2387 ALTERNATIVE KEY SYMBOL|;2388 HELM SYMBOL|;2389 CIRCLED |HORIZONTAL BAR WITH NOTCH|TRIANGLE DOWN;
238B BROKEN CIRCLE WITH NORTHWEST ARROW|;238C UNDO SYMBOL|;238D MONOSTABLE SYMBOL|;238E HYSTERESIS SYMBOL|;
238F OPEN-CIRCUIT-OUTPUT |H-TYPE SYMBOL|L-TYPE SYMBOL;2391 PASSIVE-PULL-|DOWN-OUTPUT SYMBOL|UP-OUTPUT SYMBOL;
2393 DIRECT CURRENT SYMBOL FORM TWO|;2394 SOFTWARE-FUNCTION SYMBOL|;2395 APL FUNCTIONAL SYMBOL QUAD|;
2396 DECIMAL SEPARATOR KEY SYMBOL|;2397 PREVIOUS PAGE|;2398 NEXT PAGE|;2399 PRINT SCREEN SYMBOL|;
239A CLEAR SCREEN SYMBOL|;239B LEFT PARENTHESIS |UPPER HOOK|EXTENSION|LOWER HOOK;
239E RIGHT PARENTHESIS |UPPER HOOK|EXTENSION|LOWER HOOK;23A1 LEFT SQUARE BRACKET |UPPER CORNER|EXTENSION|
LOWER CORNER;23A4 RIGHT SQUARE BRACKET |UPPER CORNER|EXTENSION|LOWER CORNER;
23A7 LEFT CURLY BRACKET |UPPER HOOK|MIDDLE PIECE|LOWER HOOK;23AA CURLY BRACKET EXTENSION|;
23AB RIGHT CURLY BRACKET |UPPER HOOK|MIDDLE PIECE|LOWER HOOK;23AE INTEGRAL EXTENSION|;
23AF HORIZONTAL LINE EXTENSION|;23B0 UPPER |LEFT OR LOWER RIGHT CURLY BRACKET SECTION|
RIGHT OR LOWER LEFT CURLY BRACKET SECTION;23B2 SUMMATION |TOP|BOTTOM;23B4 TOP SQUARE BRACKET|;
23B5 BOTTOM SQUARE |BRACKET|BRACKET OVER TOP SQUARE BRACKET;23B7 RADICAL SYMBOL BOTTOM|;
23B8 LEFT VERTICAL BOX LINE|;23B9 RIGHT VERTICAL BOX LINE|;23BA HORIZONTAL SCAN LINE-|1|3|7|9;
23BE DENTISTRY SYMBOL LIGHT |VERTICAL AND TOP RIGHT|VERTICAL AND BOTTOM RIGHT|VERTICAL WITH CIRCLE|
DOWN AND HORIZONTAL WITH CIRCLE|UP AND HORIZONTAL WITH CIRCLE|VERTICAL WITH TRIANGLE|
DOWN AND HORIZONTAL WITH TRIANGLE|UP AND HORIZONTAL WITH TRIANGLE|VERTICAL AND WAVE|
DOWN AND HORIZONTAL WITH WAVE|UP AND HORIZONTAL WITH WAVE|DOWN AND HORIZONTAL|UP AND HORIZONTAL|
VERTICAL AND TOP LEFT|VERTICAL AND BOTTOM LEFT;23CD SQUARE FOOT|;23CE RETURN SYMBOL|;23CF EJECT SYMBOL|;
23D0 VERTICAL LINE EXTENSION|"

/-- Names of the characters 23D1 to 2701. -/
def from23D1 : String := "
23D1 METRICAL |BREVE|LONG OVER SHORT|SHORT OVER LONG|LONG OVER TWO SHORTS|TWO SHORTS OVER LONG|
TWO SHORTS JOINED|TRISEME|TETRASEME|PENTASEME;23DA EARTH GROUND|;23DB FUSE|;23DC TOP PARENTHESIS|;
23DD BOTTOM PARENTHESIS|;23DE TOP CURLY BRACKET|;23DF BOTTOM CURLY BRACKET|;23E0 TOP TORTOISE SHELL BRACKET|;
23E1 BOTTOM TORTOISE SHELL BRACKET|;23E2 WHITE TRAPEZIUM|;23E3 BENZENE RING WITH CIRCLE|;23E4 STRAIGHTNESS|;
23E5 FLATNESS|;23E6 AC CURRENT|;23E7 ELECTRICAL INTERSECTION|;23E8 DECIMAL EXPONENT SYMBOL|;
23E9 BLACK |RIGHT-POINTING DOUBLE TRIANGLE|LEFT-POINTING DOUBLE TRIANGLE|UP-POINTING DOUBLE TRIANGLE|
DOWN-POINTING DOUBLE TRIANGLE|RIGHT-POINTING DOUBLE TRIANGLE WITH VERTICAL BAR|
LEFT-POINTING DOUBLE TRIANGLE WITH VERTICAL BAR|RIGHT-POINTING TRIANGLE WITH DOUBLE VERTICAL BAR;
23F0 ALARM CLOCK|;23F1 STOPWATCH|;23F2 TIMER CLOCK|;23F3 HOURGLASS WITH FLOWING SAND|;
23F4 BLACK MEDIUM |LEFT-POINTING TRIANGLE|RIGHT-POINTING TRIANGLE|UP-POINTING TRIANGLE|DOWN-POINTING TRIANGLE;
23F8 DOUBLE VERTICAL BAR|;23F9 BLACK |SQUARE FOR STOP|CIRCLE FOR RECORD;23FB POWER |SYMBOL|ON-OFF SYMBOL|
ON SYMBOL|SLEEP SYMBOL;23FF OBSERVER EYE SYMBOL|;2400 SYMBOL FOR |NULL|START OF HEADING|START OF TEXT|
END OF TEXT|END OF TRANSMISSION|ENQUIRY|ACKNOWLEDGE|BELL|BACKSPACE|HORIZONTAL TABULATION|LINE FEED|
VERTICAL TABULATION|FORM FEED|CARRIAGE RETURN|SHIFT OUT|SHIFT IN|DATA LINK ESCAPE;
2411 SYMBOL FOR DEVICE CONTROL |ONE|TWO|THREE|FOUR;2415 SYMBOL FOR |NEGATIVE ACKNOWLEDGE|SYNCHRONOUS IDLE|
END OF TRANSMISSION BLOCK|CANCEL|END OF MEDIUM|SUBSTITUTE|ESCAPE|FILE SEPARATOR|GROUP SEPARATOR|
RECORD SEPARATOR|UNIT SEPARATOR|SPACE|DELETE;2422 BLANK SYMBOL|;2423 OPEN BOX|;2424 SYMBOL FOR |NEWLINE|
DELETE FORM TWO|SUBSTITUTE FORM TWO;2440 OCR |HOOK|CHAIR|FORK|INVERTED FORK|BELT BUCKLE|BOW TIE|
BRANCH BANK IDENTIFICATION|AMOUNT OF CHECK|DASH|CUSTOMER ACCOUNT NUMBER|DOUBLE BACKSLASH;
2460 CIRCLED DIGIT |ONE|TWO|THREE|FOUR|FIVE|SIX|SEVEN|EIGHT|NINE;2469 CIRCLED NUMBER |TEN|ELEVEN|TWELVE|
THIRTEEN|FOURTEEN|FIFTEEN|SIXTEEN|SEVENTEEN|EIGHTEEN|NINETEEN|TWENTY;2474 PARENTHESIZED DIGIT |ONE|TWO|THREE|
FOUR|FIVE|SIX|SEVEN|EIGHT|NINE;247D PARENTHESIZED NUMBER |TEN|ELEVEN|TWELVE|THIRTEEN|FOURTEEN|FIFTEEN|SIXTEEN|
SEVENTEEN|EIGHTEEN|NINETEEN|TWENTY;2488 DIGIT |ONE FULL STOP|TWO FULL STOP|THREE FULL STOP|FOUR FULL STOP|
FIVE FULL STOP|SIX FULL STOP|SEVEN FULL STOP|EIGHT FULL STOP|NINE FULL STOP;2491 NUMBER |TEN FULL STOP|
ELEVEN FULL STOP|TWELVE FULL STOP|THIRTEEN FULL STOP|FOURTEEN FULL STOP|FIFTEEN FULL STOP|SIXTEEN FULL STOP|
SEVENTEEN FULL STOP|EIGHTEEN FULL STOP|NINETEEN FULL STOP|TWENTY FULL STOP;
249C PARENTHESIZED LATIN SMALL LETTER |A|B|C|D|E|F|G|H|I|J|K|L|M|N|O|P|Q|R|S|T|U|V|W|X|Y|Z;
24B6 CIRCLED LATIN CAPITAL LETTER |A|B|C|D|E|F|G|H|I|J|K|L|M|N|O|P|Q|R|S|T|U|V|W|X|Y|Z;
24D0 CIRCLED LATIN SMALL LETTER |A|B|C|D|E|F|G|H|I|J|K|L|M|N|O|P|Q|R|S|T|U|V|W|X|Y|Z;24EA CIRCLED DIGIT ZERO|;
24EB NEGATIVE CIRCLED NUMBER |ELEVEN|TWELVE|THIRTEEN|FOURTEEN|FIFTEEN|SIXTEEN|SEVENTEEN|EIGHTEEN|NINETEEN|
TWENTY;24F5 DOUBLE CIRCLED DIGIT |ONE|TWO|THREE|FOUR|FIVE|SIX|SEVEN|EIGHT|NINE;
24FE DOUBLE CIRCLED NUMBER TEN|;24FF NEGATIVE CIRCLED DIGIT ZERO|;2500 BOX DRAWINGS |LIGHT HORIZONTAL|
HEAVY HORIZONTAL|LIGHT VERTICAL|HEAVY VERTICAL|LIGHT TRIPLE DASH HORIZONTAL|HEAVY TRIPLE DASH HORIZONTAL|
LIGHT TRIPLE DASH VERTICAL|HEAVY TRIPLE DASH VERTICAL|LIGHT QUADRUPLE DASH HORIZONTAL|
HEAVY QUADRUPLE DASH HORIZONTAL|LIGHT QUADRUPLE DASH VERTICAL|HEAVY QUADRUPLE DASH VERTICAL|
LIGHT DOWN AND RIGHT|DOWN LIGHT AND RIGHT HEAVY|DOWN HEAVY AND RIGHT LIGHT|HEAVY DOWN AND RIGHT|
LIGHT DOWN AND LEFT|DOWN LIGHT AND LEFT HEAVY|DOWN HEAVY AND LEFT LIGHT|HEAVY DOWN AND LEFT|
LIGHT UP AND RIGHT|UP LIGHT AND RIGHT HEAVY|UP HEAVY AND RIGHT LIGHT|HEAVY UP AND RIGHT|LIGHT UP AND LEFT|
UP LIGHT AND LEFT HEAVY|UP HEAVY AND LEFT LIGHT|HEAVY UP AND LEFT|LIGHT VERTICAL AND RIGHT|
VERTICAL LIGHT AND RIGHT HEAVY|UP HEAVY AND RIGHT DOWN LIGHT|DOWN HEAVY AND RIGHT UP LIGHT|
VERTICAL HEAVY AND RIGHT LIGHT|DOWN LIGHT AND RIGHT UP HEAVY|UP LIGHT AND RIGHT DOWN HEAVY|
HEAVY VERTICAL AND RIGHT|LIGHT VERTICAL AND LEFT|VERTICAL LIGHT AND LEFT HEAVY|UP HEAVY AND LEFT DOWN LIGHT|
DOWN HEAVY AND LEFT UP LIGHT|VERTICAL HEAVY AND LEFT LIGHT|DOWN LIGHT AND LEFT UP HEAVY|
UP LIGHT AND LEFT DOWN HEAVY|HEAVY VERTICAL AND LEFT|LIGHT DOWN AND HORIZONTAL|
LEFT HEAVY AND RIGHT DOWN LIGHT|RIGHT HEAVY AND LEFT DOWN LIGHT|DOWN LIGHT AND HORIZONTAL HEAVY|
DOWN HEAVY AND HORIZONTAL LIGHT|RIGHT LIGHT AND LEFT DOWN HEAVY|LEFT LIGHT AND RIGHT DOWN HEAVY|
HEAVY DOWN AND HORIZONTAL|LIGHT UP AND HORIZONTAL|LEFT HEAVY AND RIGHT UP LIGHT|RIGHT HEAVY AND LEFT UP LIGHT|
UP LIGHT AND HORIZONTAL HEAVY|UP HEAVY AND HORIZONTAL LIGHT|RIGHT LIGHT AND LEFT UP HEAVY|
LEFT LIGHT AND RIGHT UP HEAVY|HEAVY UP AND HORIZONTAL|LIGHT VERTICAL AND HORIZONTAL|
LEFT HEAVY AND RIGHT VERTICAL LIGHT|RIGHT HEAVY AND LEFT VERTICAL LIGHT|VERTICAL LIGHT AND HORIZONTAL HEAVY|
UP HEAVY AND DOWN HORIZONTAL LIGHT|DOWN HEAVY AND UP HORIZONTAL LIGHT|VERTICAL HEAVY AND HORIZONTAL LIGHT|
LEFT UP HEAVY AND RIGHT DOWN LIGHT|RIGHT UP HEAVY AND LEFT DOWN LIGHT|LEFT DOWN HEAVY AND RIGHT UP LIGHT|
RIGHT DOWN HEAVY AND LEFT UP LIGHT|DOWN LIGHT AND UP HORIZONTAL HEAVY|UP LIGHT AND DOWN HORIZONTAL HEAVY|
RIGHT LIGHT AND LEFT VERTICAL HEAVY|LEFT LIGHT AND RIGHT VERTICAL HEAVY|HEAVY VERTICAL AND HORIZONTAL|
LIGHT DOUBLE DASH HORIZONTAL|HEAVY DOUBLE DASH HORIZONTAL|LIGHT DOUBLE DASH VERTICAL|
HEAVY DOUBLE DASH VERTICAL|DOUBLE HORIZONTAL|DOUBLE VERTICAL|DOWN SINGLE AND RIGHT DOUBLE|
DOWN DOUBLE AND RIGHT SINGLE|DOUBLE DOWN AND RIGHT|DOWN SINGLE AND LEFT DOUBLE|DOWN DOUBLE AND LEFT SINGLE|
DOUBLE DOWN AND LEFT|UP SINGLE AND RIGHT DOUBLE|UP DOUBLE AND RIGHT SINGLE|DOUBLE UP AND RIGHT|
UP SINGLE AND LEFT DOUBLE|UP DOUBLE AND LEFT SINGLE|DOUBLE UP AND LEFT|VERTICAL SINGLE AND RIGHT DOUBLE|
VERTICAL DOUBLE AND RIGHT SINGLE|DOUBLE VERTICAL AND RIGHT|VERTICAL SINGLE AND LEFT DOUBLE|
VERTICAL DOUBLE AND LEFT SINGLE|DOUBLE VERTICAL AND LEFT|DOWN SINGLE AND HORIZONTAL DOUBLE|
DOWN DOUBLE AND HORIZONTAL SINGLE|DOUBLE DOWN AND HORIZONTAL|UP SINGLE AND HORIZONTAL DOUBLE|
UP DOUBLE AND HORIZONTAL SINGLE|DOUBLE UP AND HORIZONTAL|VERTICAL SINGLE AND HORIZONTAL DOUBLE|
VERTICAL DOUBLE AND HORIZONTAL SINGLE|DOUBLE VERTICAL AND HORIZONTAL;
256D BOX DRAWINGS LIGHT |ARC DOWN AND RIGHT|ARC DOWN AND LEFT|ARC UP AND LEFT|ARC UP AND RIGHT|
DIAGONAL UPPER RIGHT TO LOWER LEFT|DIAGONAL UPPER LEFT TO LOWER RIGHT|DIAGONAL CROSS|LEFT|UP|RIGHT|DOWN;
2578 BOX DRAWINGS |HEAVY LEFT|HEAVY UP|HEAVY RIGHT|HEAVY DOWN|LIGHT LEFT AND HEAVY RIGHT|
LIGHT UP AND HEAVY DOWN|HEAVY LEFT AND LIGHT RIGHT|HEAVY UP AND LIGHT DOWN;2580 UPPER HALF BLOCK|;
2581 LOWER |ONE EIGHTH BLOCK|ONE QUARTER BLOCK|THREE EIGHTHS BLOCK|HALF BLOCK|FIVE EIGHTHS BLOCK|
THREE QUARTERS BLOCK|SEVEN EIGHTHS BLOCK;2588 FULL BLOCK|;2589 LEFT |SEVEN EIGHTHS BLOCK|THREE QUARTERS BLOCK|
FIVE EIGHTHS BLOCK|HALF BLOCK|THREE EIGHTHS BLOCK|ONE QUARTER BLOCK|ONE EIGHTH BLOCK;2590 RIGHT HALF BLOCK|;
2591 LIGHT SHADE|;2592 MEDIUM SHADE|;2593 DARK SHADE|;2594 UPPER ONE EIGHTH BLOCK|;
2595 RIGHT ONE EIGHTH BLOCK|;2596 QUADRANT LOWER |LEFT|RIGHT;2598 QUADRANT UPPER |LEFT|
LEFT AND LOWER LEFT AND LOWER RIGHT|LEFT AND LOWER RIGHT|LEFT AND UPPER RIGHT AND LOWER LEFT|
LEFT AND UPPER RIGHT AND LOWER RIGHT|RIGHT|RIGHT AND LOWER LEFT|RIGHT AND LOWER LEFT AND LOWER RIGHT;
25A0 BLACK SQUARE|;25A1 WHITE |SQUARE|SQUARE WITH ROUNDED CORNERS|SQUARE CONTAINING BLACK SMALL SQUARE;
25A4 SQUARE WITH |HORIZONTAL FILL|VERTICAL FILL|ORTHOGONAL CROSSHATCH FILL|UPPER LEFT TO LOWER RIGHT FILL|
UPPER RIGHT TO LOWER LEFT FILL|DIAGONAL CROSSHATCH FILL;25AA BLACK SMALL SQUARE|;25AB WHITE SMALL SQUARE|;
25AC BLACK RECTANGLE|;25AD WHITE RECTANGLE|;25AE BLACK VERTICAL RECTANGLE|;25AF WHITE VERTICAL RECTANGLE|;
25B0 BLACK PARALLELOGRAM|;25B1 WHITE PARALLELOGRAM|;25B2 BLACK UP-POINTING TRIANGLE|;
25B3 WHITE UP-POINTING TRIANGLE|;25B4 BLACK UP-POINTING SMALL TRIANGLE|;
25B5 WHITE UP-POINTING SMALL TRIANGLE|;25B6 BLACK RIGHT-POINTING TRIANGLE|;
25B7 WHITE RIGHT-POINTING TRIANGLE|;25B8 BLACK RIGHT-POINTING SMALL TRIANGLE|;
25B9 WHITE RIGHT-POINTING SMALL TRIANGLE|;25BA BLACK RIGHT-POINTING POINTER|;
25BB WHITE RIGHT-POINTING POINTER|;25BC BLACK DOWN-POINTING TRIANGLE|;25BD WHITE DOWN-POINTING TRIANGLE|;
25BE BLACK DOWN-POINTING SMALL TRIANGLE|;25BF WHITE DOWN-POINTING SMALL TRIANGLE|;
25C0 BLACK LEFT-POINTING TRIANGLE|;25C1 WHITE LEFT-POINTING TRIANGLE|;
25C2 BLACK LEFT-POINTING SMALL TRIANGLE|;25C3 WHITE LEFT-POINTING SMALL TRIANGLE|;
25C4 BLACK LEFT-POINTING POINTER|;25C5 WHITE LEFT-POINTING POINTER|;25C6 BLACK DIAMOND|;25C7 WHITE |DIAMOND|
DIAMOND CONTAINING BLACK SMALL DIAMOND;25C9 FISHEYE|;25CA LOZENGE|;25CB WHITE CIRCLE|;25CC DOTTED CIRCLE|;
25CD CIRCLE WITH VERTICAL FILL|;25CE BULLSEYE|;25CF BLACK CIRCLE|;25D0 CIRCLE WITH |LEFT HALF BLACK|
RIGHT HALF BLACK|LOWER HALF BLACK|UPPER HALF BLACK|UPPER RIGHT QUADRANT BLACK|
ALL BUT UPPER LEFT QUADRANT BLACK;25D6 LEFT HALF BLACK CIRCLE|;25D7 RIGHT HALF BLACK CIRCLE|;
25D8 INVERSE |BULLET|WHITE CIRCLE;25DA UPPER HALF INVERSE WHITE CIRCLE|;25DB LOWER HALF INVERSE WHITE CIRCLE|;
25DC UPPER |LEFT QUADRANT CIRCULAR ARC|RIGHT QUADRANT CIRCULAR ARC;25DE LOWER |RIGHT QUADRANT CIRCULAR ARC|
LEFT QUADRANT CIRCULAR ARC;25E0 UPPER HALF CIRCLE|;25E1 LOWER HALF CIRCLE|;25E2 BLACK |LOWER RIGHT TRIANGLE|
LOWER LEFT TRIANGLE|UPPER LEFT TRIANGLE|UPPER RIGHT TRIANGLE;25E6 WHITE BULLET|;
25E7 SQUARE WITH |LEFT HALF BLACK|RIGHT HALF BLACK|UPPER LEFT DIAGONAL HALF BLACK|
LOWER RIGHT DIAGONAL HALF BLACK;25EB WHITE |SQUARE WITH VERTICAL BISECTING LINE|UP-POINTING TRIANGLE WITH DOT;
25ED UP-POINTING TRIANGLE WITH |LEFT HALF BLACK|RIGHT HALF BLACK;25EF LARGE CIRCLE|;
25F0 WHITE SQUARE WITH |UPPER LEFT QUADRANT|LOWER LEFT QUADRANT|LOWER RIGHT QUADRANT|UPPER RIGHT QUADRANT;
25F4 WHITE CIRCLE WITH |UPPER LEFT QUADRANT|LOWER LEFT QUADRANT|LOWER RIGHT QUADRANT|UPPER RIGHT QUADRANT;
25F8 UPPER |LEFT TRIANGLE|RIGHT TRIANGLE;25FA LOWER LEFT TRIANGLE|;25FB WHITE MEDIUM SQUARE|;
25FC BLACK MEDIUM SQUARE|;25FD WHITE MEDIUM SMALL SQUARE|;25FE BLACK MEDIUM SMALL SQUARE|;
25FF LOWER RIGHT TRIANGLE|;2600 BLACK SUN WITH RAYS|;2601 CLOUD|;2602 UMBRELLA|;2603 SNOWMAN|;2604 COMET|;
2605 BLACK STAR|;2606 WHITE STAR|;2607 LIGHTNING|;2608 THUNDERSTORM|;2609 SUN|;260A ASCENDING NODE|;
260B DESCENDING NODE|;260C CONJUNCTION|;260D OPPOSITION|;260E BLACK TELEPHONE|;260F WHITE TELEPHONE|;
2610 BALLOT |BOX|BOX WITH CHECK|BOX WITH X;2613 SALTIRE|;2614 UMBRELLA WITH RAIN DROPS|;2615 HOT BEVERAGE|;
2616 WHITE SHOGI PIECE|;2617 BLACK SHOGI PIECE|;2618 SHAMROCK|;2619 REVERSED ROTATED FLORAL HEART BULLET|;
261A BLACK |LEFT POINTING INDEX|RIGHT POINTING INDEX;261C WHITE |LEFT POINTING INDEX|UP POINTING INDEX|
RIGHT POINTING INDEX|DOWN POINTING INDEX;2620 SKULL AND CROSSBONES|;2621 CAUTION SIGN|;2622 RADIOACTIVE SIGN|;
2623 BIOHAZARD SIGN|;2624 CADUCEUS|;2625 ANKH|;2626 ORTHODOX CROSS|;2627 CHI RHO|;2628 CROSS OF |LORRAINE|
JERUSALEM;262A STAR AND CRESCENT|;262B FARSI SYMBOL|;262C ADI SHAKTI|;262D HAMMER AND SICKLE|;
262E PEACE SYMBOL|;262F YIN YANG|;2630 TRIGRAM FOR |HEAVEN|LAKE|FIRE|THUNDER|WIND|WATER|MOUNTAIN|EARTH;
2638 WHEEL OF DHARMA|;2639 WHITE |FROWNING FACE|SMILING FACE;263B BLACK SMILING FACE|;
263C WHITE SUN WITH RAYS|;263D FIRST QUARTER MOON|;263E LAST QUARTER MOON|;263F MERCURY|;2640 FEMALE SIGN|;
2641 EARTH|;2642 MALE SIGN|;2643 JUPITER|;2644 SATURN|;2645 URANUS|;2646 NEPTUNE|;2647 PLUTO|;2648 ARIES|;
2649 TAURUS|;264A GEMINI|;264B CANCER|;264C LEO|;264D VIRGO|;264E LIBRA|;264F SCORPIUS|;2650 SAGITTARIUS|;
2651 CAPRICORN|;2652 AQUARIUS|;2653 PISCES|;2654 WHITE CHESS |KING|QUEEN|ROOK|BISHOP|KNIGHT|PAWN;
265A BLACK CHESS |KING|QUEEN|ROOK|BISHOP|KNIGHT|PAWN;2660 BLACK SPADE SUIT|;2661 WHITE |HEART SUIT|
DIAMOND SUIT;2663 BLACK CLUB SUIT|;2664 WHITE SPADE SUIT|;2665 BLACK |HEART SUIT|DIAMOND SUIT;
2667 WHITE CLUB SUIT|;2668 HOT SPRINGS|;2669 QUARTER NOTE|;266A EIGHTH NOTE|;266B BEAMED |EIGHTH NOTES|
SIXTEENTH NOTES;266D MUSIC |FLAT SIGN|NATURAL SIGN|SHARP SIGN;2670 WEST SYRIAC CROSS|;2671 EAST SYRIAC CROSS|;
2672 UNIVERSAL RECYCLING SYMBOL|;2673 RECYCLING SYMBOL FOR TYPE-|1 PLASTICS|2 PLASTICS|3 PLASTICS|4 PLASTICS|
5 PLASTICS|6 PLASTICS|7 PLASTICS;267A RECYCLING SYMBOL FOR GENERIC MATERIALS|;
267B BLACK UNIVERSAL RECYCLING SYMBOL|;267C RECYCLED PAPER SYMBOL|;267D PARTIALLY-RECYCLED PAPER SYMBOL|;
267E PERMANENT PAPER SIGN|;267F WHEELCHAIR SYMBOL|;2680 DIE FACE-|1|2|3|4|5|6;
2686 WHITE CIRCLE WITH |DOT RIGHT|TWO DOTS;2688 BLACK CIRCLE WITH |WHITE DOT RIGHT|TWO WHITE DOTS;
268A MONOGRAM FOR |YANG|YIN;268C DIGRAM FOR |GREATER YANG|LESSER YIN|LESSER YANG|GREATER YIN;2690 WHITE FLAG|;
2691 BLACK FLAG|;2692 HAMMER AND PICK|;2693 ANCHOR|;2694 CROSSED SWORDS|;2695 STAFF OF AESCULAPIUS|;
2696 SCALES|;2697 ALEMBIC|;2698 FLOWER|;2699 GEAR|;269A STAFF OF HERMES|;269B ATOM SYMBOL|;269C FLEUR-DE-LIS|;
269D OUTLINED WHITE STAR|;269E THREE LINES CONVERGING |RIGHT|LEFT;26A0 WARNING SIGN|;26A1 HIGH VOLTAGE SIGN|;
26A2 DOUBLED |FEMALE SIGN|MALE SIGN;26A4 INTERLOCKED FEMALE AND MALE SIGN|;26A5 MALE |AND FEMALE SIGN|
WITH STROKE SIGN|WITH STROKE AND MALE AND FEMALE SIGN;26A8 VERTICAL MALE WITH STROKE SIGN|;
26A9 HORIZONTAL MALE WITH STROKE SIGN|;26AA MEDIUM |WHITE CIRCLE|BLACK CIRCLE|SMALL WHITE CIRCLE;
26AD MARRIAGE SYMBOL|;26AE DIVORCE SYMBOL|;26AF UNMARRIED PARTNERSHIP SYMBOL|;26B0 COFFIN|;26B1 FUNERAL URN|;
26B2 NEUTER|;26B3 CERES|;26B4 PALLAS|;26B5 JUNO|;26B6 VESTA|;26B7 CHIRON|;26B8 BLACK MOON LILITH|;
26B9 SEXTILE|;26BA SEMISEXTILE|;26BB QUINCUNX|;26BC SESQUIQUADRATE|;26BD SOCCER BALL|;26BE BASEBALL|;
26BF SQUARED KEY|;26C0 WHITE DRAUGHTS |MAN|KING;26C2 BLACK DRAUGHTS |MAN|KING;26C4 SNOWMAN WITHOUT SNOW|;
26C5 SUN BEHIND CLOUD|;26C6 RAIN|;26C7 BLACK SNOWMAN|;26C8 THUNDER CLOUD AND RAIN|;
26C9 TURNED |WHITE SHOGI PIECE|BLACK SHOGI PIECE;26CB WHITE DIAMOND IN SQUARE|;26CC CROSSING LANES|;
26CD DISABLED CAR|;26CE OPHIUCHUS|;26CF PICK|;26D0 CAR SLIDING|;26D1 HELMET WITH WHITE CROSS|;
26D2 CIRCLED CROSSING LANES|;26D3 CHAINS|;26D4 NO ENTRY|;26D5 ALTERNATE ONE-WAY LEFT WAY TRAFFIC|;
26D6 BLACK TWO-WAY LEFT WAY TRAFFIC|;26D7 WHITE TWO-WAY LEFT WAY TRAFFIC|;26D8 BLACK LEFT LANE MERGE|;
26D9 WHITE LEFT LANE MERGE|;26DA DRIVE SLOW SIGN|;26DB HEAVY WHITE DOWN-POINTING TRIANGLE|;
26DC LEFT CLOSED ENTRY|;26DD SQUARED SALTIRE|;26DE FALLING DIAGONAL IN WHITE CIRCLE IN BLACK SQUARE|;
26DF BLACK TRUCK|;26E0 RESTRICTED LEFT ENTRY-|1|2;26E2 ASTRONOMICAL SYMBOL FOR URANUS|;
26E3 HEAVY CIRCLE WITH STROKE AND TWO DOTS ABOVE|;26E4 PENTAGRAM|;26E5 RIGHT-HANDED INTERLACED PENTAGRAM|;
26E6 LEFT-HANDED INTERLACED PENTAGRAM|;26E7 INVERTED PENTAGRAM|;26E8 BLACK CROSS ON SHIELD|;
26E9 SHINTO SHRINE|;26EA CHURCH|;26EB CASTLE|;26EC HISTORIC SITE|;26ED GEAR |WITHOUT HUB|WITH HANDLES;
26EF MAP SYMBOL FOR LIGHTHOUSE|;26F0 MOUNTAIN|;26F1 UMBRELLA ON GROUND|;26F2 FOUNTAIN|;26F3 FLAG IN HOLE|;
26F4 FERRY|;26F5 SAILBOAT|;26F6 SQUARE FOUR CORNERS|;26F7 SKIER|;26F8 ICE SKATE|;26F9 PERSON WITH BALL|;
26FA TENT|;26FB JAPANESE BANK SYMBOL|;26FC HEADSTONE GRAVEYARD SYMBOL|;26FD FUEL PUMP|;
26FE CUP ON BLACK SQUARE|;26FF WHITE FLAG WITH HORIZONTAL MIDDLE BLACK STRIPE|;2700 BLACK SAFETY SCISSORS|;
2701 UPPER BLADE SCISSORS|"

/-- Names of the characters 2702 to 29A4. -/
def from2702 : String := "
2702 BLACK SCISSORS|;2703 LOWER BLADE SCISSORS|;2704 WHITE |SCISSORS|HEAVY CHECK MARK;
2706 TELEPHONE LOCATION SIGN|;2707 TAPE DRIVE|;2708 AIRPLANE|;2709 ENVELOPE|;270A RAISED |FIST|HAND;
270C VICTORY HAND|;270D WRITING HAND|;270E LOWER RIGHT PENCIL|;270F PENCIL|;2710 UPPER RIGHT PENCIL|;
2711 WHITE NIB|;2712 BLACK NIB|;2713 CHECK MARK|;2714 HEAVY CHECK MARK|;2715 MULTIPLICATION X|;
2716 HEAVY MULTIPLICATION X|;2717 BALLOT X|;2718 HEAVY BALLOT X|;2719 OUTLINED GREEK CROSS|;
271A HEAVY GREEK CROSS|;271B OPEN CENTRE CROSS|;271C HEAVY OPEN CENTRE CROSS|;271D LATIN CROSS|;
271E SHADOWED WHITE LATIN CROSS|;271F OUTLINED LATIN CROSS|;2720 MALTESE CROSS|;2721 STAR OF DAVID|;
2722 FOUR |TEARDROP-SPOKED ASTERISK|BALLOON-SPOKED ASTERISK;2724 HEAVY FOUR BALLOON-SPOKED ASTERISK|;
2725 FOUR CLUB-SPOKED ASTERISK|;2726 BLACK FOUR POINTED STAR|;2727 WHITE FOUR POINTED STAR|;2728 SPARKLES|;
2729 STRESS OUTLINED WHITE STAR|;272A CIRCLED WHITE STAR|;272B OPEN CENTRE BLACK STAR|;
272C BLACK CENTRE WHITE STAR|;272D OUTLINED BLACK STAR|;272E HEAVY OUTLINED BLACK STAR|;272F PINWHEEL STAR|;
2730 SHADOWED WHITE STAR|;2731 HEAVY ASTERISK|;2732 OPEN CENTRE ASTERISK|;2733 EIGHT |SPOKED ASTERISK|
POINTED BLACK STAR|POINTED PINWHEEL STAR;2736 SIX POINTED BLACK STAR|;
2737 EIGHT POINTED RECTILINEAR BLACK STAR|;2738 HEAVY EIGHT POINTED RECTILINEAR BLACK STAR|;
2739 TWELVE POINTED BLACK STAR|;273A SIXTEEN POINTED ASTERISK|;273B TEARDROP-SPOKED ASTERISK|;
273C OPEN CENTRE TEARDROP-SPOKED ASTERISK|;273D HEAVY TEARDROP-SPOKED ASTERISK|;
273E SIX PETALLED BLACK AND WHITE FLORETTE|;273F BLACK FLORETTE|;2740 WHITE FLORETTE|;
2741 EIGHT PETALLED OUTLINED BLACK FLORETTE|;2742 CIRCLED OPEN CENTRE EIGHT POINTED STAR|;
2743 HEAVY TEARDROP-SPOKED PINWHEEL ASTERISK|;2744 SNOWFLAKE|;2745 TIGHT TRIFOLIATE SNOWFLAKE|;
2746 HEAVY CHEVRON SNOWFLAKE|;2747 SPARKLE|;2748 HEAVY SPARKLE|;2749 BALLOON-SPOKED ASTERISK|;
274A EIGHT TEARDROP-SPOKED PROPELLER ASTERISK|;274B HEAVY EIGHT TEARDROP-SPOKED PROPELLER ASTERISK|;
274C CROSS MARK|;274D SHADOWED WHITE CIRCLE|;274E NEGATIVE SQUARED CROSS MARK|;
274F LOWER RIGHT DROP-SHADOWED WHITE SQUARE|;2750 UPPER RIGHT DROP-SHADOWED WHITE SQUARE|;
2751 LOWER RIGHT SHADOWED WHITE SQUARE|;2752 UPPER RIGHT SHADOWED WHITE SQUARE|;
2753 BLACK QUESTION MARK ORNAMENT|;2754 WHITE |QUESTION MARK ORNAMENT|EXCLAMATION MARK ORNAMENT;
2756 BLACK DIAMOND MINUS WHITE X|;2757 HEAVY EXCLAMATION MARK SYMBOL|;2758 LIGHT VERTICAL BAR|;
2759 MEDIUM VERTICAL BAR|;275A HEAVY |VERTICAL BAR|SINGLE TURNED COMMA QUOTATION MARK ORNAMENT|
SINGLE COMMA QUOTATION MARK ORNAMENT|DOUBLE TURNED COMMA QUOTATION MARK ORNAMENT|
DOUBLE COMMA QUOTATION MARK ORNAMENT|LOW SINGLE COMMA QUOTATION MARK ORNAMENT|
LOW DOUBLE COMMA QUOTATION MARK ORNAMENT;2761 CURVED STEM PARAGRAPH SIGN ORNAMENT|;
2762 HEAVY |EXCLAMATION MARK ORNAMENT|HEART EXCLAMATION MARK ORNAMENT|BLACK HEART;
2765 ROTATED HEAVY BLACK HEART BULLET|;2766 FLORAL HEART|;2767 ROTATED FLORAL HEART BULLET|;
2768 MEDIUM |LEFT PARENTHESIS ORNAMENT|RIGHT PARENTHESIS ORNAMENT|FLATTENED LEFT PARENTHESIS ORNAMENT|
FLATTENED RIGHT PARENTHESIS ORNAMENT|LEFT-POINTING ANGLE BRACKET ORNAMENT|
RIGHT-POINTING ANGLE BRACKET ORNAMENT;276E HEAVY |LEFT-POINTING ANGLE QUOTATION MARK ORNAMENT|
RIGHT-POINTING ANGLE QUOTATION MARK ORNAMENT|LEFT-POINTING ANGLE BRACKET ORNAMENT|
RIGHT-POINTING ANGLE BRACKET ORNAMENT;2772 LIGHT |LEFT TORTOISE SHELL BRACKET ORNAMENT|
RIGHT TORTOISE SHELL BRACKET ORNAMENT;2774 MEDIUM |LEFT CURLY BRACKET ORNAMENT|RIGHT CURLY BRACKET ORNAMENT;
2776 DINGBAT NEGATIVE CIRCLED DIGIT |ONE|TWO|THREE|FOUR|FIVE|SIX|SEVEN|EIGHT|NINE;
277F DINGBAT NEGATIVE CIRCLED NUMBER TEN|;2780 DINGBAT CIRCLED SANS-SERIF DIGIT |ONE|TWO|THREE|FOUR|FIVE|SIX|
SEVEN|EIGHT|NINE;2789 DINGBAT CIRCLED SANS-SERIF NUMBER TEN|;
278A DINGBAT NEGATIVE CIRCLED SANS-SERIF DIGIT |ONE|TWO|THREE|FOUR|FIVE|SIX|SEVEN|EIGHT|NINE;
2793 DINGBAT NEGATIVE CIRCLED SANS-SERIF NUMBER TEN|;2794 HEAVY |WIDE-HEADED RIGHTWARDS ARROW|PLUS SIGN|
MINUS SIGN|DIVISION SIGN|SOUTH EAST ARROW|RIGHTWARDS ARROW|NORTH EAST ARROW;
279B DRAFTING POINT RIGHTWARDS ARROW|;279C HEAVY ROUND-TIPPED RIGHTWARDS ARROW|;
279D TRIANGLE-HEADED RIGHTWARDS ARROW|;279E HEAVY TRIANGLE-HEADED RIGHTWARDS ARROW|;
279F DASHED TRIANGLE-HEADED RIGHTWARDS ARROW|;27A0 HEAVY DASHED TRIANGLE-HEADED RIGHTWARDS ARROW|;
27A1 BLACK RIGHTWARDS ARROW|;27A2 THREE-D |TOP-LIGHTED RIGHTWARDS ARROWHEAD|
BOTTOM-LIGHTED RIGHTWARDS ARROWHEAD;27A4 BLACK RIGHTWARDS ARROWHEAD|;
27A5 HEAVY BLACK CURVED |DOWNWARDS AND RIGHTWARDS ARROW|UPWARDS AND RIGHTWARDS ARROW;
27A7 SQUAT BLACK RIGHTWARDS ARROW|;27A8 HEAVY CONCAVE-POINTED BLACK RIGHTWARDS ARROW|;
27A9 RIGHT-SHADED WHITE RIGHTWARDS ARROW|;27AA LEFT-SHADED WHITE RIGHTWARDS ARROW|;
27AB BACK-TILTED SHADOWED WHITE RIGHTWARDS ARROW|;27AC FRONT-TILTED SHADOWED WHITE RIGHTWARDS ARROW|;
27AD HEAVY |LOWER RIGHT-SHADOWED WHITE RIGHTWARDS ARROW|UPPER RIGHT-SHADOWED WHITE RIGHTWARDS ARROW;
27AF NOTCHED LOWER RIGHT-SHADOWED WHITE RIGHTWARDS ARROW|;27B0 CURLY LOOP|;
27B1 NOTCHED UPPER RIGHT-SHADOWED WHITE RIGHTWARDS ARROW|;27B2 CIRCLED HEAVY WHITE RIGHTWARDS ARROW|;
27B3 WHITE-FEATHERED RIGHTWARDS ARROW|;27B4 BLACK-FEATHERED |SOUTH EAST ARROW|RIGHTWARDS ARROW|
NORTH EAST ARROW;27B7 HEAVY BLACK-FEATHERED |SOUTH EAST ARROW|RIGHTWARDS ARROW|NORTH EAST ARROW;
27BA TEARDROP-BARBED RIGHTWARDS ARROW|;27BB HEAVY TEARDROP-SHANKED RIGHTWARDS ARROW|;
27BC WEDGE-TAILED RIGHTWARDS ARROW|;27BD HEAVY WEDGE-TAILED RIGHTWARDS ARROW|;
27BE OPEN-OUTLINED RIGHTWARDS ARROW|;27BF DOUBLE CURLY LOOP|;27C0 THREE DIMENSIONAL ANGLE|;
27C1 WHITE TRIANGLE CONTAINING SMALL WHITE TRIANGLE|;27C2 PERPENDICULAR|;27C3 OPEN |SUBSET|SUPERSET;
27C5 LEFT S-SHAPED BAG DELIMITER|;27C6 RIGHT S-SHAPED BAG DELIMITER|;27C7 OR WITH DOT INSIDE|;
27C8 REVERSE SOLIDUS PRECEDING SUBSET|;27C9 SUPERSET PRECEDING SOLIDUS|;
27CA VERTICAL BAR WITH HORIZONTAL STROKE|;27CB MATHEMATICAL RISING DIAGONAL|;27CC LONG DIVISION|;
27CD MATHEMATICAL FALLING DIAGONAL|;27CE SQUARED LOGICAL |AND|OR;27D0 WHITE DIAMOND WITH CENTRED DOT|;
27D1 AND WITH DOT|;27D2 ELEMENT OF OPENING UPWARDS|;27D3 LOWER RIGHT CORNER WITH DOT|;
27D4 UPPER LEFT CORNER WITH DOT|;27D5 LEFT OUTER JOIN|;27D6 RIGHT OUTER JOIN|;27D7 FULL OUTER JOIN|;
27D8 LARGE |UP TACK|DOWN TACK;27DA LEFT |AND RIGHT DOUBLE TURNSTILE|AND RIGHT TACK|MULTIMAP;
27DD LONG |RIGHT TACK|LEFT TACK;27DF UP TACK WITH CIRCLE ABOVE|;27E0 LOZENGE DIVIDED BY HORIZONTAL RULE|;
27E1 WHITE CONCAVE-SIDED |DIAMOND|DIAMOND WITH LEFTWARDS TICK|DIAMOND WITH RIGHTWARDS TICK;
27E4 WHITE SQUARE WITH |LEFTWARDS TICK|RIGHTWARDS TICK;27E6 MATHEMATICAL |LEFT WHITE SQUARE BRACKET|
RIGHT WHITE SQUARE BRACKET|LEFT ANGLE BRACKET|RIGHT ANGLE BRACKET|LEFT DOUBLE ANGLE BRACKET|
RIGHT DOUBLE ANGLE BRACKET|LEFT WHITE TORTOISE SHELL BRACKET|RIGHT WHITE TORTOISE SHELL BRACKET|
LEFT FLATTENED PARENTHESIS|RIGHT FLATTENED PARENTHESIS;27F0 UPWARDS QUADRUPLE ARROW|;
27F1 DOWNWARDS QUADRUPLE ARROW|;27F2 ANTICLOCKWISE GAPPED CIRCLE ARROW|;27F3 CLOCKWISE GAPPED CIRCLE ARROW|;
27F4 RIGHT ARROW WITH CIRCLED PLUS|;27F5 LONG |LEFTWARDS ARROW|RIGHTWARDS ARROW|LEFT RIGHT ARROW|
LEFTWARDS DOUBLE ARROW|RIGHTWARDS DOUBLE ARROW|LEFT RIGHT DOUBLE ARROW|LEFTWARDS ARROW FROM BAR|
RIGHTWARDS ARROW FROM BAR|LEFTWARDS DOUBLE ARROW FROM BAR|RIGHTWARDS DOUBLE ARROW FROM BAR|
RIGHTWARDS SQUIGGLE ARROW;2800 BRAILLE PATTERN BLANK|;2801 BRAILLE PATTERN DOTS-|1|2|12|3|13|23|123|4|14|24|
124|34|134|234|1234|5|15|25|125|35|135|235|1235|45|145|245|1245|345|1345|2345|12345|6|16|26|126|36|136|236|
1236|46|146|246|1246|346|1346|2346|12346|56|156|256|1256|356|1356|2356|12356|456|1456|2456|12456|3456|13456|
23456|123456|7|17|27|127|37|137|237|1237|47|147|247|1247|347|1347|2347|12347|57|157|257|1257|357|1357|2357|
12357|457|1457|2457|12457|3457|13457|23457|123457|67|167|267|1267|367|1367|2367|12367|467|1467|2467|12467|
3467|13467|23467|123467|567|1567|2567|12567|3567|13567|23567|123567|4567|14567|24567|124567|34567|134567|
234567|1234567|8|18|28|128|38|138|238|1238|48|148|248|1248|348|1348|2348|12348|58|158|258|1258|358|1358|2358|
12358|458|1458|2458|12458|3458|13458|23458|123458|68|168|268|1268|368|1368|2368|12368|468|1468|2468|12468|
3468|13468|23468|123468|568|1568|2568|12568|3568|13568|23568|123568|4568|14568|24568|124568|34568|134568|
234568|1234568|78|178|278|1278|378|1378|2378|12378|478|1478|2478|12478|3478|13478|23478|123478|578|1578|2578|
12578|3578|13578|23578|123578|4578|14578|24578|124578|34578|134578|234578|1234578|678|1678|2678|12678|3678|
13678|23678|123678|4678|14678|24678|124678|34678|134678|234678|1234678|5678|15678|25678|125678|35678|135678|
235678|1235678|45678|145678|245678|1245678|345678|1345678|2345678|12345678;
2900 RIGHTWARDS TWO-HEADED ARROW WITH |VERTICAL STROKE|DOUBLE VERTICAL STROKE;
2902 LEFTWARDS DOUBLE ARROW WITH VERTICAL STROKE|;2903 RIGHTWARDS DOUBLE ARROW WITH VERTICAL STROKE|;
2904 LEFT RIGHT DOUBLE ARROW WITH VERTICAL STROKE|;2905 RIGHTWARDS TWO-HEADED ARROW FROM BAR|;
2906 LEFTWARDS DOUBLE ARROW FROM BAR|;2907 RIGHTWARDS DOUBLE ARROW FROM BAR|;
2908 DOWNWARDS ARROW WITH HORIZONTAL STROKE|;2909 UPWARDS |ARROW WITH HORIZONTAL STROKE|TRIPLE ARROW;
290B DOWNWARDS TRIPLE ARROW|;290C LEFTWARDS DOUBLE DASH ARROW|;290D RIGHTWARDS DOUBLE DASH ARROW|;
290E LEFTWARDS TRIPLE DASH ARROW|;290F RIGHTWARDS |TRIPLE DASH ARROW|TWO-HEADED TRIPLE DASH ARROW|
ARROW WITH DOTTED STEM;2912 UPWARDS ARROW TO BAR|;2913 DOWNWARDS ARROW TO BAR|;
2914 RIGHTWARDS ARROW WITH TAIL WITH |VERTICAL STROKE|DOUBLE VERTICAL STROKE;
2916 RIGHTWARDS TWO-HEADED ARROW WITH |TAIL|TAIL WITH VERTICAL STROKE|TAIL WITH DOUBLE VERTICAL STROKE;
2919 LEFTWARDS ARROW-TAIL|;291A RIGHTWARDS ARROW-TAIL|;291B LEFTWARDS DOUBLE ARROW-TAIL|;
291C RIGHTWARDS DOUBLE ARROW-TAIL|;291D LEFTWARDS ARROW TO BLACK DIAMOND|;
291E RIGHTWARDS ARROW TO BLACK DIAMOND|;291F LEFTWARDS ARROW FROM BAR TO BLACK DIAMOND|;
2920 RIGHTWARDS ARROW FROM BAR TO BLACK DIAMOND|;2921 NORTH |WEST AND SOUTH EAST ARROW|
EAST AND SOUTH WEST ARROW|WEST ARROW WITH HOOK|EAST ARROW WITH HOOK;2925 SOUTH |EAST ARROW WITH HOOK|
WEST ARROW WITH HOOK;2927 NORTH |WEST ARROW AND NORTH EAST ARROW|EAST ARROW AND SOUTH EAST ARROW;
2929 SOUTH |EAST ARROW AND SOUTH WEST ARROW|WEST ARROW AND NORTH WEST ARROW;
292B RISING DIAGONAL CROSSING FALLING DIAGONAL|;292C FALLING DIAGONAL CROSSING RISING DIAGONAL|;
292D SOUTH EAST ARROW CROSSING NORTH EAST ARROW|;292E NORTH EAST ARROW CROSSING SOUTH EAST ARROW|;
292F FALLING DIAGONAL CROSSING NORTH EAST ARROW|;2930 RISING DIAGONAL CROSSING SOUTH EAST ARROW|;
2931 NORTH |EAST ARROW CROSSING NORTH WEST ARROW|WEST ARROW CROSSING NORTH EAST ARROW;
2933 WAVE ARROW POINTING DIRECTLY RIGHT|;2934 ARROW POINTING RIGHTWARDS THEN CURVING |UPWARDS|DOWNWARDS;
2936 ARROW POINTING DOWNWARDS THEN CURVING |LEFTWARDS|RIGHTWARDS;2938 RIGHT-SIDE ARC CLOCKWISE ARROW|;
2939 LEFT-SIDE ARC ANTICLOCKWISE ARROW|;293A TOP ARC ANTICLOCKWISE ARROW|;
293B BOTTOM ARC ANTICLOCKWISE ARROW|;293C TOP ARC |CLOCKWISE ARROW WITH MINUS|ANTICLOCKWISE ARROW WITH PLUS;
293E LOWER |RIGHT SEMICIRCULAR CLOCKWISE ARROW|LEFT SEMICIRCULAR ANTICLOCKWISE ARROW;
2940 ANTICLOCKWISE CLOSED CIRCLE ARROW|;2941 CLOCKWISE CLOSED CIRCLE ARROW|;
2942 RIGHTWARDS ARROW ABOVE SHORT LEFTWARDS ARROW|;2943 LEFTWARDS ARROW ABOVE SHORT RIGHTWARDS ARROW|;
2944 SHORT RIGHTWARDS ARROW ABOVE LEFTWARDS ARROW|;2945 RIGHTWARDS ARROW WITH PLUS BELOW|;
2946 LEFTWARDS ARROW WITH PLUS BELOW|;2947 RIGHTWARDS ARROW THROUGH X|;
2948 LEFT RIGHT ARROW THROUGH SMALL CIRCLE|;2949 UPWARDS TWO-HEADED ARROW FROM SMALL CIRCLE|;
294A LEFT BARB |UP RIGHT BARB DOWN HARPOON|DOWN RIGHT BARB UP HARPOON;
294C UP BARB |RIGHT DOWN BARB LEFT HARPOON|LEFT DOWN BARB RIGHT HARPOON;
294E LEFT BARB UP RIGHT BARB UP HARPOON|;294F UP BARB RIGHT DOWN BARB RIGHT HARPOON|;
2950 LEFT BARB DOWN RIGHT BARB DOWN HARPOON|;2951 UP BARB LEFT DOWN BARB LEFT HARPOON|;
2952 LEFTWARDS HARPOON WITH BARB UP TO BAR|;2953 RIGHTWARDS HARPOON WITH BARB UP TO BAR|;
2954 UPWARDS HARPOON WITH BARB RIGHT TO BAR|;2955 DOWNWARDS HARPOON WITH BARB RIGHT TO BAR|;
2956 LEFTWARDS HARPOON WITH BARB DOWN TO BAR|;2957 RIGHTWARDS HARPOON WITH BARB DOWN TO BAR|;
2958 UPWARDS HARPOON WITH BARB LEFT TO BAR|;2959 DOWNWARDS HARPOON WITH BARB LEFT TO BAR|;
295A LEFTWARDS HARPOON WITH BARB UP FROM BAR|;295B RIGHTWARDS HARPOON WITH BARB UP FROM BAR|;
295C UPWARDS HARPOON WITH BARB RIGHT FROM BAR|;295D DOWNWARDS HARPOON WITH BARB RIGHT FROM BAR|;
295E LEFTWARDS HARPOON WITH BARB DOWN FROM BAR|;295F RIGHTWARDS HARPOON WITH BARB DOWN FROM BAR|;
2960 UPWARDS HARPOON WITH BARB LEFT FROM BAR|;2961 DOWNWARDS HARPOON WITH BARB LEFT FROM BAR|;
2962 LEFTWARDS HARPOON WITH BARB UP ABOVE LEFTWARDS HARPOON WITH BARB DOWN|;
2963 UPWARDS HARPOON WITH BARB LEFT BESIDE UPWARDS HARPOON WITH BARB RIGHT|;
2964 RIGHTWARDS HARPOON WITH BARB UP ABOVE RIGHTWARDS HARPOON WITH BARB DOWN|;
2965 DOWNWARDS HARPOON WITH BARB LEFT BESIDE DOWNWARDS HARPOON WITH BARB RIGHT|;
2966 LEFTWARDS HARPOON WITH BARB |UP ABOVE RIGHTWARDS HARPOON WITH BARB UP|
DOWN ABOVE RIGHTWARDS HARPOON WITH BARB DOWN;
2968 RIGHTWARDS HARPOON WITH BARB |UP ABOVE LEFTWARDS HARPOON WITH BARB UP|
DOWN ABOVE LEFTWARDS HARPOON WITH BARB DOWN;296A LEFTWARDS HARPOON WITH BARB |UP ABOVE LONG DASH|
DOWN BELOW LONG DASH;296C RIGHTWARDS HARPOON WITH BARB |UP ABOVE LONG DASH|DOWN BELOW LONG DASH;
296E UPWARDS HARPOON WITH BARB LEFT BESIDE DOWNWARDS HARPOON WITH BARB RIGHT|;
296F DOWNWARDS HARPOON WITH BARB LEFT BESIDE UPWARDS HARPOON WITH BARB RIGHT|;
2970 RIGHT DOUBLE ARROW WITH ROUNDED HEAD|;2971 EQUALS SIGN ABOVE RIGHTWARDS ARROW|;
2972 TILDE OPERATOR ABOVE RIGHTWARDS ARROW|;2973 LEFTWARDS ARROW ABOVE TILDE OPERATOR|;
2974 RIGHTWARDS ARROW ABOVE |TILDE OPERATOR|ALMOST EQUAL TO;2976 LESS-THAN ABOVE LEFTWARDS ARROW|;
2977 LEFTWARDS ARROW THROUGH LESS-THAN|;2978 GREATER-THAN ABOVE RIGHTWARDS ARROW|;
2979 SUBSET ABOVE RIGHTWARDS ARROW|;297A LEFTWARDS ARROW THROUGH SUBSET|;297B SUPERSET ABOVE LEFTWARDS ARROW|;
297C LEFT FISH TAIL|;297D RIGHT FISH TAIL|;297E UP FISH TAIL|;297F DOWN FISH TAIL|;
2980 TRIPLE VERTICAL BAR DELIMITER|;2981 Z NOTATION |SPOT|TYPE COLON;2983 LEFT WHITE CURLY BRACKET|;
2984 RIGHT WHITE CURLY BRACKET|;2985 LEFT WHITE PARENTHESIS|;2986 RIGHT WHITE PARENTHESIS|;
2987 Z NOTATION |LEFT IMAGE BRACKET|RIGHT IMAGE BRACKET|LEFT BINDING BRACKET|RIGHT BINDING BRACKET;
298B LEFT SQUARE BRACKET WITH UNDERBAR|;298C RIGHT SQUARE BRACKET WITH UNDERBAR|;
298D LEFT SQUARE BRACKET WITH TICK IN TOP CORNER|;298E RIGHT SQUARE BRACKET WITH TICK IN BOTTOM CORNER|;
298F LEFT SQUARE BRACKET WITH TICK IN BOTTOM CORNER|;2990 RIGHT SQUARE BRACKET WITH TICK IN TOP CORNER|;
2991 LEFT ANGLE BRACKET WITH DOT|;2992 RIGHT ANGLE BRACKET WITH DOT|;2993 LEFT ARC LESS-THAN BRACKET|;
2994 RIGHT ARC GREATER-THAN BRACKET|;2995 DOUBLE |LEFT ARC GREATER-THAN BRACKET|RIGHT ARC LESS-THAN BRACKET;
2997 LEFT BLACK TORTOISE SHELL BRACKET|;2998 RIGHT BLACK TORTOISE SHELL BRACKET|;2999 DOTTED FENCE|;
299A VERTICAL ZIGZAG LINE|;299B MEASURED ANGLE OPENING LEFT|;299C RIGHT ANGLE VARIANT WITH SQUARE|;
299D MEASURED RIGHT ANGLE WITH DOT|;299E ANGLE WITH S INSIDE|;299F ACUTE ANGLE|;
29A0 SPHERICAL ANGLE OPENING |LEFT|UP;29A2 TURNED ANGLE|;29A3 REVERSED ANGLE|;29A4 ANGLE WITH UNDERBAR|"

/-- Names of the characters 29A5 to 2B89. -/
def from29A5 : String := "
29A5 REVERSED ANGLE WITH UNDERBAR|;29A6 OBLIQUE ANGLE OPENING |UP|DOWN;
29A8 MEASURED ANGLE WITH OPEN ARM ENDING IN ARROW POINTING |UP AND RIGHT|UP AND LEFT|DOWN AND RIGHT|
DOWN AND LEFT|RIGHT AND UP|LEFT AND UP|RIGHT AND DOWN|LEFT AND DOWN;29B0 REVERSED EMPTY SET|;
29B1 EMPTY SET WITH |OVERBAR|SMALL CIRCLE ABOVE|RIGHT ARROW ABOVE|LEFT ARROW ABOVE;
29B5 CIRCLE WITH HORIZONTAL BAR|;29B6 CIRCLED |VERTICAL BAR|PARALLEL|REVERSE SOLIDUS|PERPENDICULAR;
29BA CIRCLE |DIVIDED BY HORIZONTAL BAR AND TOP HALF DIVIDED BY VERTICAL BAR|WITH SUPERIMPOSED X;
29BC CIRCLED ANTICLOCKWISE-ROTATED DIVISION SIGN|;29BD UP ARROW THROUGH CIRCLE|;29BE CIRCLED |WHITE BULLET|
BULLET|LESS-THAN|GREATER-THAN;29C2 CIRCLE WITH |SMALL CIRCLE TO THE RIGHT|TWO HORIZONTAL STROKES TO THE RIGHT;
29C4 SQUARED |RISING DIAGONAL SLASH|FALLING DIAGONAL SLASH|ASTERISK|SMALL CIRCLE|SQUARE;
29C9 TWO JOINED SQUARES|;29CA TRIANGLE WITH |DOT ABOVE|UNDERBAR;29CC S IN TRIANGLE|;
29CD TRIANGLE WITH SERIFS AT BOTTOM|;29CE RIGHT TRIANGLE ABOVE LEFT TRIANGLE|;
29CF LEFT TRIANGLE BESIDE VERTICAL BAR|;29D0 VERTICAL BAR BESIDE RIGHT TRIANGLE|;
29D1 BOWTIE WITH |LEFT HALF BLACK|RIGHT HALF BLACK;29D3 BLACK BOWTIE|;29D4 TIMES WITH |LEFT HALF BLACK|
RIGHT HALF BLACK;29D6 WHITE HOURGLASS|;29D7 BLACK HOURGLASS|;29D8 LEFT WIGGLY FENCE|;29D9 RIGHT WIGGLY FENCE|;
29DA LEFT DOUBLE WIGGLY FENCE|;29DB RIGHT DOUBLE WIGGLY FENCE|;29DC INCOMPLETE INFINITY|;
29DD TIE OVER INFINITY|;29DE INFINITY NEGATED WITH VERTICAL BAR|;29DF DOUBLE-ENDED MULTIMAP|;
29E0 SQUARE WITH CONTOURED OUTLINE|;29E1 INCREASES AS|;29E2 SHUFFLE PRODUCT|;
29E3 EQUALS SIGN AND SLANTED |PARALLEL|PARALLEL WITH TILDE ABOVE;29E5 IDENTICAL TO AND SLANTED PARALLEL|;
29E6 GLEICH STARK|;29E7 THERMODYNAMIC|;29E8 DOWN-POINTING TRIANGLE WITH |LEFT HALF BLACK|RIGHT HALF BLACK;
29EA BLACK |DIAMOND WITH DOWN ARROW|LOZENGE;29EC WHITE CIRCLE WITH DOWN ARROW|;
29ED BLACK CIRCLE WITH DOWN ARROW|;29EE ERROR-BARRED |WHITE SQUARE|BLACK SQUARE|WHITE DIAMOND|BLACK DIAMOND|
WHITE CIRCLE|BLACK CIRCLE;29F4 RULE-DELAYED|;29F5 REVERSE SOLIDUS OPERATOR|;29F6 SOLIDUS WITH OVERBAR|;
29F7 REVERSE SOLIDUS WITH HORIZONTAL STROKE|;29F8 BIG |SOLIDUS|REVERSE SOLIDUS;29FA DOUBLE PLUS|;
29FB TRIPLE PLUS|;29FC LEFT-POINTING CURVED ANGLE BRACKET|;29FD RIGHT-POINTING CURVED ANGLE BRACKET|;
29FE TINY|;29FF MINY|;2A00 N-ARY CIRCLED |DOT OPERATOR|PLUS OPERATOR|TIMES OPERATOR;
2A03 N-ARY UNION OPERATOR WITH |DOT|PLUS;2A05 N-ARY SQUARE |INTERSECTION OPERATOR|UNION OPERATOR;
2A07 TWO LOGICAL |AND OPERATOR|OR OPERATOR;2A09 N-ARY TIMES OPERATOR|;2A0A MODULO TWO SUM|;
2A0B SUMMATION WITH INTEGRAL|;2A0C QUADRUPLE INTEGRAL OPERATOR|;2A0D FINITE PART INTEGRAL|;
2A0E INTEGRAL |WITH DOUBLE STROKE|AVERAGE WITH SLASH;2A10 CIRCULATION FUNCTION|;
2A11 ANTICLOCKWISE INTEGRATION|;2A12 LINE INTEGRATION |WITH RECTANGULAR PATH AROUND POLE|
WITH SEMICIRCULAR PATH AROUND POLE|NOT INCLUDING THE POLE;2A15 INTEGRAL AROUND A POINT OPERATOR|;
2A16 QUATERNION INTEGRAL OPERATOR|;2A17 INTEGRAL WITH |LEFTWARDS ARROW WITH HOOK|TIMES SIGN|INTERSECTION|
UNION|OVERBAR|UNDERBAR;2A1D JOIN|;2A1E LARGE LEFT TRIANGLE OPERATOR|;2A1F Z NOTATION SCHEMA |COMPOSITION|
PIPING|PROJECTION;2A22 PLUS SIGN WITH |SMALL CIRCLE ABOVE|CIRCUMFLEX ACCENT ABOVE|TILDE ABOVE|DOT BELOW|
TILDE BELOW|SUBSCRIPT TWO|BLACK TRIANGLE;2A29 MINUS SIGN WITH |COMMA ABOVE|DOT BELOW|FALLING DOTS|RISING DOTS;
2A2D PLUS SIGN IN |LEFT HALF CIRCLE|RIGHT HALF CIRCLE;2A2F VECTOR OR CROSS PRODUCT|;
2A30 MULTIPLICATION SIGN WITH |DOT ABOVE|UNDERBAR;2A32 SEMIDIRECT PRODUCT WITH BOTTOM CLOSED|;
2A33 SMASH PRODUCT|;2A34 MULTIPLICATION SIGN IN |LEFT HALF CIRCLE|RIGHT HALF CIRCLE;
2A36 CIRCLED MULTIPLICATION SIGN WITH CIRCUMFLEX ACCENT|;2A37 MULTIPLICATION SIGN IN DOUBLE CIRCLE|;
2A38 CIRCLED DIVISION SIGN|;2A39 PLUS SIGN IN TRIANGLE|;2A3A MINUS SIGN IN TRIANGLE|;
2A3B MULTIPLICATION SIGN IN TRIANGLE|;2A3C INTERIOR PRODUCT|;2A3D RIGHTHAND INTERIOR PRODUCT|;
2A3E Z NOTATION RELATIONAL COMPOSITION|;2A3F AMALGAMATION OR COPRODUCT|;2A40 INTERSECTION WITH DOT|;
2A41 UNION WITH |MINUS SIGN|OVERBAR;2A43 INTERSECTION WITH |OVERBAR|LOGICAL AND;2A45 UNION |WITH LOGICAL OR|
ABOVE INTERSECTION;2A47 INTERSECTION ABOVE UNION|;2A48 UNION ABOVE BAR ABOVE INTERSECTION|;
2A49 INTERSECTION ABOVE BAR ABOVE UNION|;2A4A UNION BESIDE AND JOINED WITH UNION|;
2A4B INTERSECTION BESIDE AND JOINED WITH INTERSECTION|;2A4C CLOSED |UNION WITH SERIFS|
INTERSECTION WITH SERIFS;2A4E DOUBLE SQUARE |INTERSECTION|UNION;
2A50 CLOSED UNION WITH SERIFS AND SMASH PRODUCT|;2A51 LOGICAL |AND WITH DOT ABOVE|OR WITH DOT ABOVE;
2A53 DOUBLE LOGICAL |AND|OR;2A55 TWO INTERSECTING LOGICAL |AND|OR;2A57 SLOPING LARGE |OR|AND;
2A59 LOGICAL |OR OVERLAPPING LOGICAL AND|AND WITH MIDDLE STEM|OR WITH MIDDLE STEM|AND WITH HORIZONTAL DASH|
OR WITH HORIZONTAL DASH;2A5E LOGICAL AND WITH |DOUBLE OVERBAR|UNDERBAR|DOUBLE UNDERBAR;
2A61 SMALL VEE WITH UNDERBAR|;2A62 LOGICAL OR WITH DOUBLE |OVERBAR|UNDERBAR;
2A64 Z NOTATION |DOMAIN ANTIRESTRICTION|RANGE ANTIRESTRICTION;2A66 EQUALS SIGN WITH DOT BELOW|;
2A67 IDENTICAL WITH DOT ABOVE|;2A68 TRIPLE HORIZONTAL BAR WITH |DOUBLE VERTICAL STROKE|TRIPLE VERTICAL STROKE;
2A6A TILDE OPERATOR WITH |DOT ABOVE|RISING DOTS;2A6C SIMILAR MINUS SIMILAR|;2A6D CONGRUENT WITH DOT ABOVE|;
2A6E EQUALS WITH ASTERISK|;2A6F ALMOST EQUAL TO WITH CIRCUMFLEX ACCENT|;2A70 APPROXIMATELY EQUAL OR EQUAL TO|;
2A71 EQUALS SIGN ABOVE PLUS SIGN|;2A72 PLUS SIGN ABOVE EQUALS SIGN|;2A73 EQUALS SIGN ABOVE TILDE OPERATOR|;
2A74 DOUBLE COLON EQUAL|;2A75 TWO CONSECUTIVE EQUALS SIGNS|;2A76 THREE CONSECUTIVE EQUALS SIGNS|;
2A77 EQUALS SIGN WITH TWO DOTS ABOVE AND TWO DOTS BELOW|;2A78 EQUIVALENT WITH FOUR DOTS ABOVE|;
2A79 LESS-THAN WITH CIRCLE INSIDE|;2A7A GREATER-THAN WITH CIRCLE INSIDE|;
2A7B LESS-THAN WITH QUESTION MARK ABOVE|;2A7C GREATER-THAN WITH QUESTION MARK ABOVE|;
2A7D LESS-THAN OR SLANTED EQUAL TO|;2A7E GREATER-THAN OR SLANTED EQUAL TO|;
2A7F LESS-THAN OR SLANTED EQUAL TO WITH DOT INSIDE|;2A80 GREATER-THAN OR SLANTED EQUAL TO WITH DOT INSIDE|;
2A81 LESS-THAN OR SLANTED EQUAL TO WITH DOT ABOVE|;2A82 GREATER-THAN OR SLANTED EQUAL TO WITH DOT ABOVE|;
2A83 LESS-THAN OR SLANTED EQUAL TO WITH DOT ABOVE RIGHT|;
2A84 GREATER-THAN OR SLANTED EQUAL TO WITH DOT ABOVE LEFT|;2A85 LESS-THAN OR APPROXIMATE|;
2A86 GREATER-THAN OR APPROXIMATE|;2A87 LESS-THAN AND SINGLE-LINE NOT EQUAL TO|;
2A88 GREATER-THAN AND SINGLE-LINE NOT EQUAL TO|;2A89 LESS-THAN AND NOT APPROXIMATE|;
2A8A GREATER-THAN AND NOT APPROXIMATE|;2A8B LESS-THAN ABOVE DOUBLE-LINE EQUAL ABOVE GREATER-THAN|;
2A8C GREATER-THAN ABOVE DOUBLE-LINE EQUAL ABOVE LESS-THAN|;2A8D LESS-THAN ABOVE SIMILAR OR EQUAL|;
2A8E GREATER-THAN ABOVE SIMILAR OR EQUAL|;2A8F LESS-THAN ABOVE SIMILAR ABOVE GREATER-THAN|;
2A90 GREATER-THAN ABOVE SIMILAR ABOVE LESS-THAN|;2A91 LESS-THAN ABOVE GREATER-THAN ABOVE DOUBLE-LINE EQUAL|;
2A92 GREATER-THAN ABOVE LESS-THAN ABOVE DOUBLE-LINE EQUAL|;
2A93 LESS-THAN ABOVE SLANTED EQUAL ABOVE GREATER-THAN ABOVE SLANTED EQUAL|;
2A94 GREATER-THAN ABOVE SLANTED EQUAL ABOVE LESS-THAN ABOVE SLANTED EQUAL|;
2A95 SLANTED EQUAL TO OR |LESS-THAN|GREATER-THAN|LESS-THAN WITH DOT INSIDE|GREATER-THAN WITH DOT INSIDE;
2A99 DOUBLE-LINE EQUAL TO OR |LESS-THAN|GREATER-THAN;2A9B DOUBLE-LINE SLANTED EQUAL TO OR |LESS-THAN|
GREATER-THAN;2A9D SIMILAR |OR LESS-THAN|OR GREATER-THAN|ABOVE LESS-THAN ABOVE EQUALS SIGN|
ABOVE GREATER-THAN ABOVE EQUALS SIGN;2AA1 DOUBLE NESTED |LESS-THAN|GREATER-THAN|LESS-THAN WITH UNDERBAR;
2AA4 GREATER-THAN |OVERLAPPING LESS-THAN|BESIDE LESS-THAN;2AA6 LESS-THAN CLOSED BY CURVE|;
2AA7 GREATER-THAN CLOSED BY CURVE|;2AA8 LESS-THAN CLOSED BY CURVE ABOVE SLANTED EQUAL|;
2AA9 GREATER-THAN CLOSED BY CURVE ABOVE SLANTED EQUAL|;2AAA SMALLER THAN|;2AAB LARGER THAN|;
2AAC SMALLER THAN OR EQUAL TO|;2AAD LARGER THAN OR EQUAL TO|;2AAE EQUALS SIGN WITH BUMPY ABOVE|;
2AAF PRECEDES ABOVE SINGLE-LINE EQUALS SIGN|;2AB0 SUCCEEDS ABOVE SINGLE-LINE EQUALS SIGN|;
2AB1 PRECEDES ABOVE SINGLE-LINE NOT EQUAL TO|;2AB2 SUCCEEDS ABOVE SINGLE-LINE NOT EQUAL TO|;
2AB3 PRECEDES ABOVE EQUALS SIGN|;2AB4 SUCCEEDS ABOVE EQUALS SIGN|;2AB5 PRECEDES ABOVE NOT EQUAL TO|;
2AB6 SUCCEEDS ABOVE NOT EQUAL TO|;2AB7 PRECEDES ABOVE ALMOST EQUAL TO|;2AB8 SUCCEEDS ABOVE ALMOST EQUAL TO|;
2AB9 PRECEDES ABOVE NOT ALMOST EQUAL TO|;2ABA SUCCEEDS ABOVE NOT ALMOST EQUAL TO|;2ABB DOUBLE |PRECEDES|
SUCCEEDS;2ABD SUBSET WITH DOT|;2ABE SUPERSET WITH DOT|;2ABF SUBSET WITH PLUS SIGN BELOW|;
2AC0 SUPERSET WITH PLUS SIGN BELOW|;2AC1 SUBSET WITH MULTIPLICATION SIGN BELOW|;
2AC2 SUPERSET WITH MULTIPLICATION SIGN BELOW|;2AC3 SUBSET OF OR EQUAL TO WITH DOT ABOVE|;
2AC4 SUPERSET OF OR EQUAL TO WITH DOT ABOVE|;2AC5 SUBSET OF ABOVE EQUALS SIGN|;
2AC6 SUPERSET OF ABOVE EQUALS SIGN|;2AC7 SUBSET OF ABOVE TILDE OPERATOR|;
2AC8 SUPERSET OF ABOVE TILDE OPERATOR|;2AC9 SUBSET OF ABOVE ALMOST EQUAL TO|;
2ACA SUPERSET OF ABOVE ALMOST EQUAL TO|;2ACB SUBSET OF ABOVE NOT EQUAL TO|;
2ACC SUPERSET OF ABOVE NOT EQUAL TO|;2ACD SQUARE |LEFT OPEN BOX OPERATOR|RIGHT OPEN BOX OPERATOR;
2ACF CLOSED |SUBSET|SUPERSET|SUBSET OR EQUAL TO|SUPERSET OR EQUAL TO;2AD3 SUBSET ABOVE SUPERSET|;
2AD4 SUPERSET ABOVE SUBSET|;2AD5 SUBSET ABOVE SUBSET|;2AD6 SUPERSET |ABOVE SUPERSET|BESIDE SUBSET|
BESIDE AND JOINED BY DASH WITH SUBSET;2AD9 ELEMENT OF OPENING DOWNWARDS|;2ADA PITCHFORK WITH TEE TOP|;
2ADB TRANSVERSAL INTERSECTION|;2ADC FORKING|;2ADD NONFORKING|;2ADE SHORT |LEFT TACK|DOWN TACK|UP TACK;
2AE1 PERPENDICULAR WITH S|;2AE2 VERTICAL BAR TRIPLE RIGHT TURNSTILE|;2AE3 DOUBLE VERTICAL BAR LEFT TURNSTILE|;
2AE4 VERTICAL BAR DOUBLE LEFT TURNSTILE|;2AE5 DOUBLE VERTICAL BAR DOUBLE LEFT TURNSTILE|;
2AE6 LONG DASH FROM LEFT MEMBER OF DOUBLE VERTICAL|;2AE7 SHORT |DOWN TACK WITH OVERBAR|UP TACK WITH UNDERBAR|
UP TACK ABOVE SHORT DOWN TACK;2AEA DOUBLE |DOWN TACK|UP TACK|STROKE NOT SIGN;
2AED REVERSED DOUBLE STROKE NOT SIGN|;2AEE DOES NOT DIVIDE WITH REVERSED NEGATION SLASH|;
2AEF VERTICAL LINE WITH CIRCLE |ABOVE|BELOW;2AF1 DOWN TACK WITH CIRCLE BELOW|;
2AF2 PARALLEL WITH |HORIZONTAL STROKE|TILDE OPERATOR;2AF4 TRIPLE |VERTICAL BAR BINARY RELATION|
VERTICAL BAR WITH HORIZONTAL STROKE|COLON OPERATOR|NESTED LESS-THAN|NESTED GREATER-THAN;
2AF9 DOUBLE-LINE SLANTED |LESS-THAN OR EQUAL TO|GREATER-THAN OR EQUAL TO;2AFB TRIPLE SOLIDUS BINARY RELATION|;
2AFC LARGE TRIPLE VERTICAL BAR OPERATOR|;2AFD DOUBLE SOLIDUS OPERATOR|;2AFE WHITE VERTICAL BAR|;
2AFF N-ARY WHITE VERTICAL BAR|;2B00 NORTH |EAST WHITE ARROW|WEST WHITE ARROW;2B02 SOUTH |EAST WHITE ARROW|
WEST WHITE ARROW;2B04 LEFT RIGHT WHITE ARROW|;2B05 LEFTWARDS BLACK ARROW|;2B06 UPWARDS BLACK ARROW|;
2B07 DOWNWARDS BLACK ARROW|;2B08 NORTH |EAST BLACK ARROW|WEST BLACK ARROW;2B0A SOUTH |EAST BLACK ARROW|
WEST BLACK ARROW;2B0C LEFT RIGHT BLACK ARROW|;2B0D UP DOWN BLACK ARROW|;
2B0E RIGHTWARDS ARROW WITH TIP |DOWNWARDS|UPWARDS;2B10 LEFTWARDS ARROW WITH TIP |DOWNWARDS|UPWARDS;
2B12 SQUARE WITH |TOP HALF BLACK|BOTTOM HALF BLACK|UPPER RIGHT DIAGONAL HALF BLACK|
LOWER LEFT DIAGONAL HALF BLACK;2B16 DIAMOND WITH |LEFT HALF BLACK|RIGHT HALF BLACK|TOP HALF BLACK|
BOTTOM HALF BLACK;2B1A DOTTED SQUARE|;2B1B BLACK LARGE SQUARE|;2B1C WHITE LARGE SQUARE|;
2B1D BLACK VERY SMALL SQUARE|;2B1E WHITE VERY SMALL SQUARE|;2B1F BLACK PENTAGON|;2B20 WHITE |PENTAGON|HEXAGON;
2B22 BLACK HEXAGON|;2B23 HORIZONTAL BLACK HEXAGON|;2B24 BLACK |LARGE CIRCLE|MEDIUM DIAMOND;
2B26 WHITE MEDIUM DIAMOND|;2B27 BLACK MEDIUM LOZENGE|;2B28 WHITE MEDIUM LOZENGE|;2B29 BLACK SMALL |DIAMOND|
LOZENGE;2B2B WHITE SMALL LOZENGE|;2B2C BLACK HORIZONTAL ELLIPSE|;2B2D WHITE HORIZONTAL ELLIPSE|;
2B2E BLACK VERTICAL ELLIPSE|;2B2F WHITE VERTICAL ELLIPSE|;2B30 LEFT ARROW WITH SMALL CIRCLE|;
2B31 THREE LEFTWARDS ARROWS|;2B32 LEFT ARROW WITH CIRCLED PLUS|;2B33 LONG LEFTWARDS SQUIGGLE ARROW|;
2B34 LEFTWARDS TWO-HEADED |ARROW WITH VERTICAL STROKE|ARROW WITH DOUBLE VERTICAL STROKE|ARROW FROM BAR|
TRIPLE DASH ARROW;2B38 LEFTWARDS ARROW WITH |DOTTED STEM|TAIL WITH VERTICAL STROKE|
TAIL WITH DOUBLE VERTICAL STROKE;2B3B LEFTWARDS TWO-HEADED ARROW WITH |TAIL|TAIL WITH VERTICAL STROKE|
TAIL WITH DOUBLE VERTICAL STROKE;2B3E LEFTWARDS ARROW THROUGH X|;2B3F WAVE ARROW POINTING DIRECTLY LEFT|;
2B40 EQUALS SIGN ABOVE LEFTWARDS ARROW|;2B41 REVERSE TILDE OPERATOR ABOVE LEFTWARDS ARROW|;
2B42 LEFTWARDS ARROW ABOVE REVERSE ALMOST EQUAL TO|;2B43 RIGHTWARDS ARROW THROUGH |GREATER-THAN|SUPERSET;
2B45 LEFTWARDS QUADRUPLE ARROW|;2B46 RIGHTWARDS QUADRUPLE ARROW|;
2B47 REVERSE TILDE OPERATOR ABOVE RIGHTWARDS ARROW|;2B48 RIGHTWARDS ARROW ABOVE REVERSE ALMOST EQUAL TO|;
2B49 TILDE OPERATOR ABOVE LEFTWARDS ARROW|;2B4A LEFTWARDS ARROW ABOVE |ALMOST EQUAL TO|REVERSE TILDE OPERATOR;
2B4C RIGHTWARDS ARROW ABOVE REVERSE TILDE OPERATOR|;2B4D DOWNWARDS TRIANGLE-HEADED ZIGZAG ARROW|;
2B4E SHORT |SLANTED NORTH ARROW|BACKSLANTED SOUTH ARROW;2B50 WHITE MEDIUM STAR|;2B51 BLACK SMALL STAR|;
2B52 WHITE SMALL STAR|;2B53 BLACK RIGHT-POINTING PENTAGON|;2B54 WHITE RIGHT-POINTING PENTAGON|;
2B55 HEAVY |LARGE CIRCLE|OVAL WITH OVAL INSIDE|CIRCLE WITH CIRCLE INSIDE|CIRCLE|CIRCLED SALTIRE;
2B5A SLANTED NORTH ARROW WITH HOOKED HEAD|;2B5B BACKSLANTED SOUTH ARROW WITH HOOKED TAIL|;
2B5C SLANTED NORTH ARROW WITH HORIZONTAL TAIL|;2B5D BACKSLANTED SOUTH ARROW WITH HORIZONTAL TAIL|;
2B5E BENT ARROW POINTING DOWNWARDS THEN NORTH EAST|;2B5F SHORT BENT ARROW POINTING DOWNWARDS THEN NORTH EAST|;
2B60 LEFTWARDS TRIANGLE-HEADED ARROW|;2B61 UPWARDS TRIANGLE-HEADED ARROW|;
2B62 RIGHTWARDS TRIANGLE-HEADED ARROW|;2B63 DOWNWARDS TRIANGLE-HEADED ARROW|;
2B64 LEFT RIGHT TRIANGLE-HEADED ARROW|;2B65 UP DOWN TRIANGLE-HEADED ARROW|;
2B66 NORTH |WEST TRIANGLE-HEADED ARROW|EAST TRIANGLE-HEADED ARROW;2B68 SOUTH |EAST TRIANGLE-HEADED ARROW|
WEST TRIANGLE-HEADED ARROW;2B6A LEFTWARDS TRIANGLE-HEADED DASHED ARROW|;
2B6B UPWARDS TRIANGLE-HEADED DASHED ARROW|;2B6C RIGHTWARDS TRIANGLE-HEADED DASHED ARROW|;
2B6D DOWNWARDS TRIANGLE-HEADED DASHED ARROW|;2B6E CLOCKWISE TRIANGLE-HEADED OPEN CIRCLE ARROW|;
2B6F ANTICLOCKWISE TRIANGLE-HEADED OPEN CIRCLE ARROW|;2B70 LEFTWARDS TRIANGLE-HEADED ARROW TO BAR|;
2B71 UPWARDS TRIANGLE-HEADED ARROW TO BAR|;2B72 RIGHTWARDS TRIANGLE-HEADED ARROW TO BAR|;
2B73 DOWNWARDS TRIANGLE-HEADED ARROW TO BAR|;2B76 NORTH |WEST TRIANGLE-HEADED ARROW TO BAR|
EAST TRIANGLE-HEADED ARROW TO BAR;2B78 SOUTH |EAST TRIANGLE-HEADED ARROW TO BAR|
WEST TRIANGLE-HEADED ARROW TO BAR;2B7A LEFTWARDS TRIANGLE-HEADED ARROW WITH DOUBLE HORIZONTAL STROKE|;
2B7B UPWARDS TRIANGLE-HEADED ARROW WITH DOUBLE HORIZONTAL STROKE|;
2B7C RIGHTWARDS TRIANGLE-HEADED ARROW WITH DOUBLE HORIZONTAL STROKE|;
2B7D DOWNWARDS TRIANGLE-HEADED ARROW WITH DOUBLE HORIZONTAL STROKE|;2B7E HORIZONTAL TAB KEY|;
2B7F VERTICAL TAB KEY|;2B80 LEFTWARDS TRIANGLE-HEADED ARROW OVER RIGHTWARDS TRIANGLE-HEADED ARROW|;
2B81 UPWARDS TRIANGLE-HEADED ARROW LEFTWARDS OF DOWNWARDS TRIANGLE-HEADED ARROW|;
2B82 RIGHTWARDS TRIANGLE-HEADED ARROW OVER LEFTWARDS TRIANGLE-HEADED ARROW|;
2B83 DOWNWARDS TRIANGLE-HEADED ARROW LEFTWARDS OF UPWARDS TRIANGLE-HEADED ARROW|;
2B84 LEFTWARDS TRIANGLE-HEADED PAIRED ARROWS|;2B85 UPWARDS TRIANGLE-HEADED PAIRED ARROWS|;
2B86 RIGHTWARDS TRIANGLE-HEADED PAIRED ARROWS|;2B87 DOWNWARDS TRIANGLE-HEADED PAIRED ARROWS|;
2B88 LEFTWARDS BLACK CIRCLED WHITE ARROW|;2B89 UPWARDS BLACK CIRCLED WHITE ARROW|"

/-- Names of the characters 2B8A to 300E. -/
def from2B8A : String := "
2B8A RIGHTWARDS BLACK CIRCLED WHITE ARROW|;2B8B DOWNWARDS BLACK CIRCLED WHITE ARROW|;
2B8C ANTICLOCKWISE TRIANGLE-HEADED |RIGHT U-SHAPED ARROW|BOTTOM U-SHAPED ARROW|LEFT U-SHAPED ARROW|
TOP U-SHAPED ARROW;2B90 RETURN |LEFT|RIGHT;2B92 NEWLINE |LEFT|RIGHT;
2B94 FOUR CORNER ARROWS CIRCLING ANTICLOCKWISE|;2B95 RIGHTWARDS BLACK ARROW|;
2B97 SYMBOL FOR TYPE A ELECTRONICS|;2B98 THREE-D |TOP-LIGHTED LEFTWARDS EQUILATERAL ARROWHEAD|
RIGHT-LIGHTED UPWARDS EQUILATERAL ARROWHEAD|TOP-LIGHTED RIGHTWARDS EQUILATERAL ARROWHEAD|
LEFT-LIGHTED DOWNWARDS EQUILATERAL ARROWHEAD;2B9C BLACK |LEFTWARDS EQUILATERAL ARROWHEAD|
UPWARDS EQUILATERAL ARROWHEAD|RIGHTWARDS EQUILATERAL ARROWHEAD|DOWNWARDS EQUILATERAL ARROWHEAD;
2BA0 DOWNWARDS TRIANGLE-HEADED ARROW WITH LONG TIP |LEFTWARDS|RIGHTWARDS;
2BA2 UPWARDS TRIANGLE-HEADED ARROW WITH LONG TIP |LEFTWARDS|RIGHTWARDS;
2BA4 LEFTWARDS TRIANGLE-HEADED ARROW WITH LONG TIP UPWARDS|;
2BA5 RIGHTWARDS TRIANGLE-HEADED ARROW WITH LONG TIP UPWARDS|;
2BA6 LEFTWARDS TRIANGLE-HEADED ARROW WITH LONG TIP DOWNWARDS|;
2BA7 RIGHTWARDS TRIANGLE-HEADED ARROW WITH LONG TIP DOWNWARDS|;
2BA8 BLACK CURVED |DOWNWARDS AND LEFTWARDS ARROW|DOWNWARDS AND RIGHTWARDS ARROW|UPWARDS AND LEFTWARDS ARROW|
UPWARDS AND RIGHTWARDS ARROW|LEFTWARDS AND UPWARDS ARROW|RIGHTWARDS AND UPWARDS ARROW|
LEFTWARDS AND DOWNWARDS ARROW|RIGHTWARDS AND DOWNWARDS ARROW;2BB0 RIBBON ARROW |DOWN LEFT|DOWN RIGHT|UP LEFT|
UP RIGHT|LEFT UP|RIGHT UP|LEFT DOWN|RIGHT DOWN;2BB8 UPWARDS WHITE ARROW FROM BAR WITH HORIZONTAL BAR|;
2BB9 UP ARROWHEAD IN A RECTANGLE BOX|;2BBA OVERLAPPING |WHITE SQUARES|WHITE AND BLACK SQUARES|BLACK SQUARES;
2BBD BALLOT BOX WITH LIGHT X|;2BBE CIRCLED |X|BOLD X;2BC0 BLACK |SQUARE CENTRED|DIAMOND CENTRED;
2BC2 TURNED BLACK PENTAGON|;2BC3 HORIZONTAL BLACK OCTAGON|;2BC4 BLACK OCTAGON|;
2BC5 BLACK MEDIUM |UP-POINTING TRIANGLE CENTRED|DOWN-POINTING TRIANGLE CENTRED|LEFT-POINTING TRIANGLE CENTRED|
RIGHT-POINTING TRIANGLE CENTRED;2BC9 NEPTUNE FORM TWO|;2BCA TOP HALF BLACK CIRCLE|;
2BCB BOTTOM HALF BLACK CIRCLE|;2BCC LIGHT FOUR POINTED BLACK CUSP|;
2BCD ROTATED LIGHT FOUR POINTED BLACK CUSP|;2BCE WHITE FOUR POINTED CUSP|;
2BCF ROTATED WHITE FOUR POINTED CUSP|;2BD0 SQUARE POSITION INDICATOR|;2BD1 UNCERTAINTY SIGN|;2BD2 GROUP MARK|;
2BD3 PLUTO FORM |TWO|THREE|FOUR|FIVE;2BD7 TRANSPLUTO|;2BD8 PROSERPINA|;2BD9 ASTRAEA|;2BDA HYGIEA|;
2BDB PHOLUS|;2BDC NESSUS|;2BDD WHITE MOON SELENA|;2BDE BLACK DIAMOND ON CROSS|;2BDF TRUE LIGHT MOON ARTA|;
2BE0 CUPIDO|;2BE1 HADES|;2BE2 ZEUS|;2BE3 KRONOS|;2BE4 APOLLON|;2BE5 ADMETOS|;2BE6 VULCANUS|;2BE7 POSEIDON|;
2BE8 LEFT HALF BLACK STAR|;2BE9 RIGHT HALF BLACK STAR|;2BEA STAR WITH |LEFT HALF BLACK|RIGHT HALF BLACK;
2BEC LEFTWARDS TWO-HEADED ARROW WITH TRIANGLE ARROWHEADS|;
2BED UPWARDS TWO-HEADED ARROW WITH TRIANGLE ARROWHEADS|;
2BEE RIGHTWARDS TWO-HEADED ARROW WITH TRIANGLE ARROWHEADS|;
2BEF DOWNWARDS TWO-HEADED ARROW WITH TRIANGLE ARROWHEADS|;2BF0 ERIS FORM |ONE|TWO;2BF2 SEDNA|;
2BF3 RUSSIAN ASTROLOGICAL SYMBOL |VIGINTILE|NOVILE|QUINTILE|BINOVILE|SENTAGON|TREDECILE;
2BF9 EQUALS SIGN WITH INFINITY BELOW|;2BFA UNITED SYMBOL|;2BFB SEPARATED SYMBOL|;2BFC DOUBLED SYMBOL|;
2BFD PASSED SYMBOL|;2BFE REVERSED RIGHT ANGLE|;2BFF HELLSCHREIBER PAUSE SYMBOL|;
2C00 GLAGOLITIC CAPITAL LETTER |AZU|BUKY|VEDE|GLAGOLI|DOBRO|YESTU|ZHIVETE|DZELO|ZEMLJA|IZHE|INITIAL IZHE|I|
DJERVI|KAKO|LJUDIJE|MYSLITE|NASHI|ONU|POKOJI|RITSI|SLOVO|TVRIDO|UKU|FRITU|HERU|OTU|PE|SHTA|TSI|CHRIVI|SHA|
YERU|YERI|YATI|SPIDERY HA|YU|SMALL YUS|SMALL YUS WITH TAIL|YO|IOTATED SMALL YUS|BIG YUS|IOTATED BIG YUS|FITA|
IZHITSA|SHTAPIC|TROKUTASTI A|LATINATE MYSLITE|CAUDATE CHRIVI;2C30 GLAGOLITIC SMALL LETTER |AZU|BUKY|VEDE|
GLAGOLI|DOBRO|YESTU|ZHIVETE|DZELO|ZEMLJA|IZHE|INITIAL IZHE|I|DJERVI|KAKO|LJUDIJE|MYSLITE|NASHI|ONU|POKOJI|
RITSI|SLOVO|TVRIDO|UKU|FRITU|HERU|OTU|PE|SHTA|TSI|CHRIVI|SHA|YERU|YERI|YATI|SPIDERY HA|YU|SMALL YUS|
SMALL YUS WITH TAIL|YO|IOTATED SMALL YUS|BIG YUS|IOTATED BIG YUS|FITA|IZHITSA|SHTAPIC|TROKUTASTI A|
LATINATE MYSLITE|CAUDATE CHRIVI;2C60 LATIN |CAPITAL LETTER L WITH DOUBLE BAR|SMALL LETTER L WITH DOUBLE BAR;
2C62 LATIN CAPITAL LETTER |L WITH MIDDLE TILDE|P WITH STROKE|R WITH TAIL;
2C65 LATIN |SMALL LETTER A WITH STROKE|SMALL LETTER T WITH DIAGONAL STROKE|CAPITAL LETTER H WITH DESCENDER|
SMALL LETTER H WITH DESCENDER|CAPITAL LETTER K WITH DESCENDER|SMALL LETTER K WITH DESCENDER|
CAPITAL LETTER Z WITH DESCENDER|SMALL LETTER Z WITH DESCENDER;2C6D LATIN CAPITAL LETTER |ALPHA|M WITH HOOK|
TURNED A|TURNED ALPHA;2C71 LATIN |SMALL LETTER V WITH RIGHT HOOK|CAPITAL LETTER W WITH HOOK|
SMALL LETTER W WITH HOOK|SMALL LETTER V WITH CURL|CAPITAL LETTER HALF H;2C76 LATIN SMALL LETTER |HALF H|
TAILLESS PHI|E WITH NOTCH|TURNED R WITH TAIL|O WITH LOW RING INSIDE;2C7B LATIN |LETTER SMALL CAPITAL TURNED E|
SUBSCRIPT SMALL LETTER J;2C7D MODIFIER LETTER CAPITAL V|;2C7E LATIN CAPITAL LETTER |S WITH SWASH TAIL|
Z WITH SWASH TAIL;2C80 COPTIC |CAPITAL LETTER ALFA|SMALL LETTER ALFA|CAPITAL LETTER VIDA|SMALL LETTER VIDA|
CAPITAL LETTER GAMMA|SMALL LETTER GAMMA|CAPITAL LETTER DALDA|SMALL LETTER DALDA|CAPITAL LETTER EIE|
SMALL LETTER EIE|CAPITAL LETTER SOU|SMALL LETTER SOU|CAPITAL LETTER ZATA|SMALL LETTER ZATA|
CAPITAL LETTER HATE|SMALL LETTER HATE|CAPITAL LETTER THETHE|SMALL LETTER THETHE|CAPITAL LETTER IAUDA|
SMALL LETTER IAUDA|CAPITAL LETTER KAPA|SMALL LETTER KAPA|CAPITAL LETTER LAULA|SMALL LETTER LAULA|
CAPITAL LETTER MI|SMALL LETTER MI|CAPITAL LETTER NI|SMALL LETTER NI|CAPITAL LETTER KSI|SMALL LETTER KSI|
CAPITAL LETTER O|SMALL LETTER O|CAPITAL LETTER PI|SMALL LETTER PI|CAPITAL LETTER RO|SMALL LETTER RO|
CAPITAL LETTER SIMA|SMALL LETTER SIMA|CAPITAL LETTER TAU|SMALL LETTER TAU|CAPITAL LETTER UA|SMALL LETTER UA|
CAPITAL LETTER FI|SMALL LETTER FI|CAPITAL LETTER KHI|SMALL LETTER KHI|CAPITAL LETTER PSI|SMALL LETTER PSI|
CAPITAL LETTER OOU|SMALL LETTER OOU|CAPITAL LETTER DIALECT-P ALEF|SMALL LETTER DIALECT-P ALEF|
CAPITAL LETTER OLD COPTIC AIN|SMALL LETTER OLD COPTIC AIN|CAPITAL LETTER CRYPTOGRAMMIC EIE|
SMALL LETTER CRYPTOGRAMMIC EIE|CAPITAL LETTER DIALECT-P KAPA|SMALL LETTER DIALECT-P KAPA|
CAPITAL LETTER DIALECT-P NI|SMALL LETTER DIALECT-P NI|CAPITAL LETTER CRYPTOGRAMMIC NI|
SMALL LETTER CRYPTOGRAMMIC NI|CAPITAL LETTER OLD COPTIC OOU|SMALL LETTER OLD COPTIC OOU|CAPITAL LETTER SAMPI|
SMALL LETTER SAMPI|CAPITAL LETTER CROSSED SHEI|SMALL LETTER CROSSED SHEI|CAPITAL LETTER OLD COPTIC SHEI|
SMALL LETTER OLD COPTIC SHEI|CAPITAL LETTER OLD COPTIC ESH|SMALL LETTER OLD COPTIC ESH|
CAPITAL LETTER AKHMIMIC KHEI|SMALL LETTER AKHMIMIC KHEI|CAPITAL LETTER DIALECT-P HORI|
SMALL LETTER DIALECT-P HORI|CAPITAL LETTER OLD COPTIC HORI|SMALL LETTER OLD COPTIC HORI|
CAPITAL LETTER OLD COPTIC HA|SMALL LETTER OLD COPTIC HA|CAPITAL LETTER L-SHAPED HA|SMALL LETTER L-SHAPED HA|
CAPITAL LETTER OLD COPTIC HEI|SMALL LETTER OLD COPTIC HEI|CAPITAL LETTER OLD COPTIC HAT|
SMALL LETTER OLD COPTIC HAT|CAPITAL LETTER OLD COPTIC GANGIA|SMALL LETTER OLD COPTIC GANGIA|
CAPITAL LETTER OLD COPTIC DJA|SMALL LETTER OLD COPTIC DJA|CAPITAL LETTER OLD COPTIC SHIMA|
SMALL LETTER OLD COPTIC SHIMA|CAPITAL LETTER OLD NUBIAN SHIMA|SMALL LETTER OLD NUBIAN SHIMA|
CAPITAL LETTER OLD NUBIAN NGI|SMALL LETTER OLD NUBIAN NGI|CAPITAL LETTER OLD NUBIAN NYI|
SMALL LETTER OLD NUBIAN NYI|CAPITAL LETTER OLD NUBIAN WAU|SMALL LETTER OLD NUBIAN WAU;2CE4 COPTIC SYMBOL |KAI|
MI RO|PI RO|STAUROS|TAU RO|KHI RO|SHIMA SIMA;2CEB COPTIC |CAPITAL LETTER CRYPTOGRAMMIC SHEI|
SMALL LETTER CRYPTOGRAMMIC SHEI|CAPITAL LETTER CRYPTOGRAMMIC GANGIA|SMALL LETTER CRYPTOGRAMMIC GANGIA|
COMBINING NI ABOVE|COMBINING SPIRITUS ASPER|COMBINING SPIRITUS LENIS|CAPITAL LETTER BOHAIRIC KHEI|
SMALL LETTER BOHAIRIC KHEI;2CF9 COPTIC OLD NUBIAN |FULL STOP|DIRECT QUESTION MARK|INDIRECT QUESTION MARK|
VERSE DIVIDER;2CFD COPTIC |FRACTION ONE HALF|FULL STOP|MORPHOLOGICAL DIVIDER;2D00 GEORGIAN SMALL LETTER |AN|
BAN|GAN|DON|EN|VIN|ZEN|TAN|IN|KAN|LAS|MAN|NAR|ON|PAR|ZHAR|RAE|SAN|TAR|UN|PHAR|KHAR|GHAN|QAR|SHIN|CHIN|CAN|JIL|
CIL|CHAR|XAN|JHAN|HAE|HE|HIE|WE|HAR|HOE;2D27 GEORGIAN SMALL LETTER YN|;2D2D GEORGIAN SMALL LETTER AEN|;
2D30 TIFINAGH LETTER |YA|YAB|YABH|YAG|YAGHH|BERBER ACADEMY YAJ|YAJ|YAD|YADH|YADD|YADDH|YEY|YAF|YAK|TUAREG YAK|
YAKHH|YAH|BERBER ACADEMY YAH|TUAREG YAH|YAHH|YAA|YAKH|TUAREG YAKH|YAQ|TUAREG YAQ|YI|YAZH|AHAGGAR YAZH|
TUAREG YAZH|YAL|YAM|YAN|TUAREG YAGN|TUAREG YANG|YAP|YU|YAR|YARR|YAGH|TUAREG YAGH|AYER YAGH|YAS|YASS|YASH|YAT|
YATH|YACH|YATT|YAV|YAW|YAY|YAZ|TAWELLEMET YAZ|YAZZ|YE|YO;2D6F TIFINAGH |MODIFIER LETTER LABIALIZATION MARK|
SEPARATOR MARK;2D7F TIFINAGH CONSONANT JOINER|;2D80 ETHIOPIC SYLLABLE |LOA|MOA|ROA|SOA|SHOA|BOA|TOA|COA|NOA|
NYOA|GLOTTAL OA|ZOA|DOA|DDOA|JOA|THOA|CHOA|PHOA|POA|GGWA|GGWI|GGWEE|GGWE;2DA0 ETHIOPIC SYLLABLE |SSA|SSU|SSI|
SSAA|SSEE|SSE|SSO;2DA8 ETHIOPIC SYLLABLE |CCA|CCU|CCI|CCAA|CCEE|CCE|CCO;2DB0 ETHIOPIC SYLLABLE |ZZA|ZZU|ZZI|
ZZAA|ZZEE|ZZE|ZZO;2DB8 ETHIOPIC SYLLABLE |CCHA|CCHU|CCHI|CCHAA|CCHEE|CCHE|CCHO;2DC0 ETHIOPIC SYLLABLE |QYA|
QYU|QYI|QYAA|QYEE|QYE|QYO;2DC8 ETHIOPIC SYLLABLE |KYA|KYU|KYI|KYAA|KYEE|KYE|KYO;2DD0 ETHIOPIC SYLLABLE |XYA|
XYU|XYI|XYAA|XYEE|XYE|XYO;2DD8 ETHIOPIC SYLLABLE |GYA|GYU|GYI|GYAA|GYEE|GYE|GYO;
2DE0 COMBINING CYRILLIC LETTER |BE|VE|GHE|DE|ZHE|ZE|KA|EL|EM|EN|O|PE|ER|ES|TE|HA|TSE|CHE|SHA|SHCHA|FITA|ES-TE|
A|IE|DJERV|MONOGRAPH UK|YAT|YU|IOTIFIED A|LITTLE YUS|BIG YUS|IOTIFIED BIG YUS;
2E00 RIGHT ANGLE |SUBSTITUTION MARKER|DOTTED SUBSTITUTION MARKER;2E02 LEFT SUBSTITUTION BRACKET|;
2E03 RIGHT SUBSTITUTION BRACKET|;2E04 LEFT DOTTED SUBSTITUTION BRACKET|;
2E05 RIGHT DOTTED SUBSTITUTION BRACKET|;2E06 RAISED |INTERPOLATION MARKER|DOTTED INTERPOLATION MARKER;
2E08 DOTTED TRANSPOSITION MARKER|;2E09 LEFT TRANSPOSITION BRACKET|;2E0A RIGHT TRANSPOSITION BRACKET|;
2E0B RAISED SQUARE|;2E0C LEFT RAISED OMISSION BRACKET|;2E0D RIGHT RAISED OMISSION BRACKET|;
2E0E EDITORIAL CORONIS|;2E0F PARAGRAPHOS|;2E10 FORKED PARAGRAPHOS|;2E11 REVERSED FORKED PARAGRAPHOS|;
2E12 HYPODIASTOLE|;2E13 DOTTED OBELOS|;2E14 DOWNWARDS ANCORA|;2E15 UPWARDS ANCORA|;
2E16 DOTTED RIGHT-POINTING ANGLE|;2E17 DOUBLE OBLIQUE HYPHEN|;2E18 INVERTED INTERROBANG|;2E19 PALM BRANCH|;
2E1A HYPHEN WITH DIAERESIS|;2E1B TILDE WITH RING ABOVE|;2E1C LEFT LOW PARAPHRASE BRACKET|;
2E1D RIGHT LOW PARAPHRASE BRACKET|;2E1E TILDE WITH DOT |ABOVE|BELOW;2E20 LEFT VERTICAL BAR WITH QUILL|;
2E21 RIGHT VERTICAL BAR WITH QUILL|;2E22 TOP |LEFT HALF BRACKET|RIGHT HALF BRACKET;
2E24 BOTTOM |LEFT HALF BRACKET|RIGHT HALF BRACKET;2E26 LEFT SIDEWAYS U BRACKET|;
2E27 RIGHT SIDEWAYS U BRACKET|;2E28 LEFT DOUBLE PARENTHESIS|;2E29 RIGHT DOUBLE PARENTHESIS|;
2E2A TWO DOTS OVER ONE DOT PUNCTUATION|;2E2B ONE DOT OVER TWO DOTS PUNCTUATION|;
2E2C SQUARED FOUR DOT PUNCTUATION|;2E2D FIVE DOT MARK|;2E2E REVERSED QUESTION MARK|;2E2F VERTICAL TILDE|;
2E30 RING POINT|;2E31 WORD SEPARATOR MIDDLE DOT|;2E32 TURNED COMMA|;2E33 RAISED |DOT|COMMA;
2E35 TURNED SEMICOLON|;2E36 DAGGER WITH |LEFT GUARD|RIGHT GUARD;2E38 TURNED DAGGER|;
2E39 TOP HALF SECTION SIGN|;2E3A TWO-EM DASH|;2E3B THREE-EM DASH|;2E3C STENOGRAPHIC FULL STOP|;
2E3D VERTICAL SIX DOTS|;2E3E WIGGLY VERTICAL LINE|;2E3F CAPITULUM|;2E40 DOUBLE HYPHEN|;2E41 REVERSED COMMA|;
2E42 DOUBLE LOW-REVERSED-9 QUOTATION MARK|;2E43 DASH WITH LEFT UPTURN|;2E44 DOUBLE SUSPENSION MARK|;
2E45 INVERTED LOW |KAVYKA|KAVYKA WITH KAVYKA ABOVE;2E47 LOW |KAVYKA|KAVYKA WITH DOT;
2E49 DOUBLE STACKED COMMA|;2E4A DOTTED SOLIDUS|;2E4B TRIPLE DAGGER|;2E4C MEDIEVAL COMMA|;
2E4D PARAGRAPHUS MARK|;2E4E PUNCTUS ELEVATUS MARK|;2E4F CORNISH VERSE DIVIDER|;
2E50 CROSS PATTY WITH |RIGHT CROSSBAR|LEFT CROSSBAR;2E52 TIRONIAN SIGN CAPITAL ET|;
2E53 MEDIEVAL |EXCLAMATION MARK|QUESTION MARK;2E55 LEFT SQUARE BRACKET WITH STROKE|;
2E56 RIGHT SQUARE BRACKET WITH STROKE|;2E57 LEFT SQUARE BRACKET WITH DOUBLE STROKE|;
2E58 RIGHT SQUARE BRACKET WITH DOUBLE STROKE|;2E59 TOP HALF |LEFT PARENTHESIS|RIGHT PARENTHESIS;
2E5B BOTTOM HALF |LEFT PARENTHESIS|RIGHT PARENTHESIS;2E5D OBLIQUE HYPHEN|;2E80 CJK RADICAL |REPEAT|CLIFF|
SECOND ONE|SECOND TWO|SECOND THREE|PERSON|BOX|TABLE|KNIFE ONE|KNIFE TWO|DIVINATION|SEAL|SMALL ONE|SMALL TWO|
LAME ONE|LAME TWO|LAME THREE|LAME FOUR|SNAKE|THREAD|SNOUT ONE|SNOUT TWO|HEART ONE|HEART TWO|HAND|RAP;
2E9B CJK RADICAL |CHOKE|SUN|MOON|DEATH|MOTHER|CIVILIAN|WATER ONE|WATER TWO|FIRE|PAW ONE|PAW TWO|
SIMPLIFIED HALF TREE TRUNK|COW|DOG|JADE|BOLT OF CLOTH|EYE|SPIRIT ONE|SPIRIT TWO|BAMBOO|SILK|C-SIMPLIFIED SILK|
NET ONE|NET TWO|NET THREE|NET FOUR|MESH|SHEEP|RAM|EWE|OLD|BRUSH ONE|BRUSH TWO|MEAT|MORTAR|GRASS ONE|GRASS TWO|
GRASS THREE|TIGER|CLOTHES|WEST ONE|WEST TWO|C-SIMPLIFIED SEE|SIMPLIFIED HORN|HORN|C-SIMPLIFIED SPEECH|
C-SIMPLIFIED SHELL|FOOT|C-SIMPLIFIED CART|SIMPLIFIED WALK|WALK ONE|WALK TWO|CITY|C-SIMPLIFIED GOLD|LONG ONE|
LONG TWO|C-SIMPLIFIED LONG|C-SIMPLIFIED GATE|MOUND ONE|MOUND TWO|RAIN|BLUE;
2ED9 CJK RADICAL C-SIMPLIFIED |TANNED LEATHER|LEAF|WIND|FLY;2EDD CJK RADICAL |EAT ONE|EAT TWO|EAT THREE|
C-SIMPLIFIED EAT|HEAD|C-SIMPLIFIED HORSE|BONE|GHOST|C-SIMPLIFIED FISH|C-SIMPLIFIED BIRD|C-SIMPLIFIED SALT|
SIMPLIFIED WHEAT|SIMPLIFIED YELLOW|C-SIMPLIFIED FROG|J-SIMPLIFIED EVEN|C-SIMPLIFIED EVEN|J-SIMPLIFIED TOOTH|
C-SIMPLIFIED TOOTH|J-SIMPLIFIED DRAGON|C-SIMPLIFIED DRAGON|TURTLE|J-SIMPLIFIED TURTLE|C-SIMPLIFIED TURTLE;
2F00 KANGXI RADICAL |ONE|LINE|DOT|SLASH|SECOND|HOOK|TWO|LID|MAN|LEGS|ENTER|EIGHT|DOWN BOX|COVER|ICE|TABLE|
OPEN BOX|KNIFE|POWER|WRAP|SPOON|RIGHT OPEN BOX|HIDING ENCLOSURE|TEN|DIVINATION|SEAL|CLIFF|PRIVATE|AGAIN|MOUTH|
ENCLOSURE|EARTH|SCHOLAR|GO|GO SLOWLY|EVENING|BIG|WOMAN|CHILD|ROOF|INCH|SMALL|LAME|CORPSE|SPROUT|MOUNTAIN|
RIVER|WORK|ONESELF|TURBAN|DRY|SHORT THREAD|DOTTED CLIFF|LONG STRIDE|TWO HANDS|SHOOT|BOW|SNOUT|BRISTLE|STEP|
HEART|HALBERD|DOOR|HAND|BRANCH|RAP|SCRIPT|DIPPER|AXE|SQUARE|NOT|SUN|SAY|MOON|TREE|LACK|STOP|DEATH|WEAPON|
DO NOT|COMPARE|FUR|CLAN|STEAM|WATER|FIRE|CLAW|FATHER|DOUBLE X|HALF TREE TRUNK|SLICE|FANG|COW|DOG|PROFOUND|
JADE|MELON|TILE|SWEET|LIFE|USE|FIELD|BOLT OF CLOTH|SICKNESS|DOTTED TENT|WHITE|SKIN|DISH|EYE|SPEAR|ARROW|STONE|
SPIRIT|TRACK|GRAIN|CAVE|STAND|BAMBOO|RICE|SILK|JAR|NET|SHEEP|FEATHER|OLD|AND|PLOW|EAR|BRUSH|MEAT|MINISTER|
SELF|ARRIVE|MORTAR|TONGUE|OPPOSE|BOAT|STOPPING|COLOR|GRASS|TIGER|INSECT|BLOOD|WALK ENCLOSURE|CLOTHES|WEST|SEE|
HORN|SPEECH|VALLEY|BEAN|PIG|BADGER|SHELL|RED|RUN|FOOT|BODY|CART|BITTER|MORNING|WALK|CITY|WINE|DISTINGUISH|
VILLAGE|GOLD|LONG|GATE|MOUND|SLAVE|SHORT TAILED BIRD|RAIN|BLUE|WRONG|FACE|LEATHER|TANNED LEATHER|LEEK|SOUND|
LEAF|WIND|FLY|EAT|HEAD|FRAGRANT|HORSE|BONE|TALL|HAIR|FIGHT|SACRIFICIAL WINE|CAULDRON|GHOST|FISH|BIRD|SALT|
DEER|WHEAT|HEMP|YELLOW|MILLET|BLACK|EMBROIDERY|FROG|TRIPOD|DRUM|RAT|NOSE|EVEN|TOOTH|DRAGON|TURTLE|FLUTE;
2FF0 IDEOGRAPHIC DESCRIPTION CHARACTER |LEFT TO RIGHT|ABOVE TO BELOW|LEFT TO MIDDLE AND RIGHT|
ABOVE TO MIDDLE AND BELOW|FULL SURROUND|SURROUND FROM ABOVE|SURROUND FROM BELOW|SURROUND FROM LEFT|
SURROUND FROM UPPER LEFT|SURROUND FROM UPPER RIGHT|SURROUND FROM LOWER LEFT|OVERLAID;3000 IDEOGRAPHIC |SPACE|
COMMA|FULL STOP;3003 DITTO MARK|;3004 JAPANESE INDUSTRIAL STANDARD SYMBOL|;3005 IDEOGRAPHIC |ITERATION MARK|
CLOSING MARK|NUMBER ZERO;3008 LEFT ANGLE BRACKET|;3009 RIGHT ANGLE BRACKET|;300A LEFT DOUBLE ANGLE BRACKET|;
300B RIGHT DOUBLE ANGLE BRACKET|;300C LEFT CORNER BRACKET|;300D RIGHT CORNER BRACKET|;
300E LEFT WHITE CORNER BRACKET|"

end GameSource.CharNames
