/-!
# Further names of characters

Control characters, which have no other names, abbreviations, and corrected names; the records are those of the other
tables.
-/
namespace GameSource.CharNames

/-- Names that characters have beside their first one. -/
def further : String := "
0000 NULL|;0000 NUL|;0001 START OF HEADING|;0001 SOH|;0002 START OF TEXT|;0002 STX|;0003 END OF TEXT|;
0003 ETX|;0004 END OF TRANSMISSION|;0004 EOT|;0005 ENQUIRY|;0005 ENQ|;0006 ACKNOWLEDGE|;0006 ACK|;0007 ALERT|;
0007 BEL|;0008 BACKSPACE|;0008 BS|;0009 CHARACTER TABULATION|;0009 HORIZONTAL TABULATION|;0009 HT|;0009 TAB|;
000A LINE FEED|;000A NEW LINE|;000A END OF LINE|;000A EOL|;000A LF|;000A NL|;000B LINE TABULATION|;
000B VERTICAL TABULATION|;000B VT|;000C FORM FEED|;000C FF|;000D CARRIAGE RETURN|;000D CR|;000E SHIFT OUT|;
000E LOCKING-SHIFT ONE|;000E SO|;000F SHIFT IN|;000F LOCKING-SHIFT ZERO|;000F SI|;0010 DATA LINK ESCAPE|;
0010 DLE|;0011 DEVICE CONTROL ONE|;0011 DC1|;0012 DEVICE CONTROL TWO|;0012 DC2|;0013 DEVICE CONTROL THREE|;
0013 DC3|;0014 DEVICE CONTROL FOUR|;0014 DC4|;0015 NEGATIVE ACKNOWLEDGE|;0015 NAK|;0016 SYNCHRONOUS IDLE|;
0016 SYN|;0017 END OF TRANSMISSION BLOCK|;0017 ETB|;0018 CANCEL|;0018 CAN|;0019 END OF MEDIUM|;0019 EOM|;
001A SUBSTITUTE|;001A SUB|;001B ESCAPE|;001B ESC|;001C INFORMATION SEPARATOR FOUR|;001C FILE SEPARATOR|;
001C FS|;001D INFORMATION SEPARATOR THREE|;001D GROUP SEPARATOR|;001D GS|;001E INFORMATION SEPARATOR TWO|;
001E RECORD SEPARATOR|;001E RS|;001F INFORMATION SEPARATOR ONE|;001F UNIT SEPARATOR|;001F US|;0020 SP|;
007F DELETE|;007F DEL|;0080 PADDING CHARACTER|;0080 PAD|;0081 HIGH OCTET PRESET|;0081 HOP|;
0082 BREAK PERMITTED HERE|;0082 BPH|;0083 NO BREAK HERE|;0083 NBH|;0084 INDEX|;0084 IND|;0085 NEXT LINE|;
0085 NEL|;0086 START OF SELECTED AREA|;0086 SSA|;0087 END OF SELECTED AREA|;0087 ESA|;
0088 CHARACTER TABULATION SET|;0088 HORIZONTAL TABULATION SET|;0088 HTS|;
0089 CHARACTER TABULATION WITH JUSTIFICATION|;0089 HORIZONTAL TABULATION WITH JUSTIFICATION|;0089 HTJ|;
008A LINE TABULATION SET|;008A VERTICAL TABULATION SET|;008A VTS|;008B PARTIAL LINE FORWARD|;
008B PARTIAL LINE DOWN|;008B PLD|;008C PARTIAL LINE BACKWARD|;008C PARTIAL LINE UP|;008C PLU|;
008D REVERSE LINE FEED|;008D REVERSE INDEX|;008D RI|;008E SINGLE SHIFT TWO|;008E SINGLE-SHIFT-2|;008E SS2|;
008F SINGLE SHIFT THREE|;008F SINGLE-SHIFT-3|;008F SS3|;0090 DEVICE CONTROL STRING|;0090 DCS|;
0091 PRIVATE USE ONE|;0091 PRIVATE USE-1|;0091 PU1|;0092 PRIVATE USE TWO|;0092 PRIVATE USE-2|;0092 PU2|;
0093 SET TRANSMIT STATE|;0093 STS|;0094 CANCEL CHARACTER|;0094 CCH|;0095 MESSAGE WAITING|;0095 MW|;
0096 START OF GUARDED AREA|;0096 START OF PROTECTED AREA|;0096 SPA|;0097 END OF GUARDED AREA|;
0097 END OF PROTECTED AREA|;0097 EPA|;0098 START OF STRING|;0098 SOS|;
0099 SINGLE GRAPHIC CHARACTER INTRODUCER|;0099 SGC|;009A SINGLE CHARACTER INTRODUCER|;009A SCI|;
009B CONTROL SEQUENCE INTRODUCER|;009B CSI|;009C STRING TERMINATOR|;009C ST|;009D OPERATING SYSTEM COMMAND|;
009D OSC|;009E PRIVACY MESSAGE|;009E PM|;009F APPLICATION PROGRAM COMMAND|;009F APC|;00A0 NBSP|;00AD SHY|;
01A2 LATIN CAPITAL LETTER GHA|;01A3 LATIN SMALL LETTER GHA|;034F CGJ|;061C ALM|;
0709 SYRIAC SUBLINEAR COLON SKEWED LEFT|;0CDE KANNADA LETTER LLLA|;0E9D LAO LETTER FO FON|;
0E9F LAO LETTER FO FAY|;0EA3 LAO LETTER RO|;0EA5 LAO LETTER LO|;0FD0 TIBETAN MARK BKA- SHOG GI MGO RGYAN|;
11EC HANGUL JONGSEONG YESIEUNG-KIYEOK|;11ED HANGUL JONGSEONG YESIEUNG-SSANGKIYEOK|;
11EE HANGUL JONGSEONG SSANGYESIEUNG|;11EF HANGUL JONGSEONG YESIEUNG-KHIEUKH|;180B FVS1|;180C FVS2|;180D FVS3|;
180E MVS|;180F FVS4|;200B ZWSP|;200C ZWNJ|;200D ZWJ|;200E LRM|;200F RLM|;202A LRE|;202B RLE|;202C PDF|;
202D LRO|;202E RLO|;202F NNBSP|;205F MMSP|;2060 WJ|;2066 LRI|;2067 RLI|;2068 FSI|;2069 PDI|;
2118 WEIERSTRASS ELLIPTIC FUNCTION|;2448 MICR ON US SYMBOL|;2449 MICR DASH SYMBOL|;
2B7A LEFTWARDS TRIANGLE-HEADED ARROW WITH DOUBLE VERTICAL STROKE|;
2B7C RIGHTWARDS TRIANGLE-HEADED ARROW WITH DOUBLE VERTICAL STROKE|;A015 YI SYLLABLE ITERATION MARK|;
AA6E MYANMAR LETTER KHAMTI LLA|;FE18 PRESENTATION FORM FOR VERTICAL RIGHT WHITE LENTICULAR BRACKET|;
FEFF BYTE ORDER MARK|;FEFF BOM|;FEFF ZWNBSP|;122D4 CUNEIFORM SIGN NU11 TENU|;
122D5 CUNEIFORM SIGN NU11 OVER NU11 BUR OVER BUR|;16E56 MEDEFAIDRIN CAPITAL LETTER H|;
16E57 MEDEFAIDRIN CAPITAL LETTER NG|;16E76 MEDEFAIDRIN SMALL LETTER H|;16E77 MEDEFAIDRIN SMALL LETTER NG|;
1B001 HENTAIGANA LETTER E-1|;1D0C5 BYZANTINE MUSICAL SYMBOL FTHORA SKLIRON CHROMA VASIS|;FE00 VS|1|2|3|4|5|6|
7|8|9|10|11|12|13|14|15|16;E0100 VS|17|18|19|20|21|22|23|24|25|26|27|28|29|30|31|32|33|34|35|36|37|38|39|40|
41|42|43|44|45|46|47|48|49|50|51|52|53|54|55|56|57|58|59|60|61|62|63|64|65|66|67|68|69|70|71|72|73|74|75|76|
77|78|79|80|81|82|83|84|85|86|87|88|89|90|91|92|93|94|95|96|97|98|99|100|101|102|103|104|105|106|107|108|109|
110|111|112|113|114|115|116|117|118|119|120|121|122|123|124|125|126|127|128|129|130|131|132|133|134|135|136|
137|138|139|140|141|142|143|144|145|146|147|148|149|150|151|152|153|154|155|156|157|158|159|160|161|162|163|
164|165|166|167|168|169|170|171|172|173|174|175|176|177|178|179|180|181|182|183|184|185|186|187|188|189|190|
191|192|193|194|195|196|197|198|199|200|201|202|203|204|205|206|207|208|209|210|211|212|213|214|215|216|217|
218|219|220|221|222|223|224|225|226|227|228|229|230|231|232|233|234|235|236|237|238|239|240|241|242|243|244|
245|246|247|248|249|250|251|252|253|254|255|256"

end GameSource.CharNames
