/-!
# Names of the characters 1EE8B to E01EF

Records with semicolons between them: the code point of the first character, what the names of consecutive characters
begin with, and the ends of these names, each behind a bar.  A line may end behind a bar or a semicolon.
-/
namespace GameSource.CharNames

/-- Names of the characters 1EE8B to 1F502. -/
def from1EE8B : String := "
1EE8B ARABIC MATHEMATICAL LOOPED |LAM|MEEM|NOON|SEEN|AIN|FEH|SAD|QAF|REH|SHEEN|TEH|THEH|KHAH|THAL|DAD|ZAH|
GHAIN;1EEA1 ARABIC MATHEMATICAL DOUBLE-STRUCK |BEH|JEEM|DAL;1EEA5 ARABIC MATHEMATICAL DOUBLE-STRUCK |WAW|ZAIN|
HAH|TAH|YEH;1EEAB ARABIC MATHEMATICAL DOUBLE-STRUCK |LAM|MEEM|NOON|SEEN|AIN|FEH|SAD|QAF|REH|SHEEN|TEH|THEH|
KHAH|THAL|DAD|ZAH|GHAIN;1EEF0 ARABIC MATHEMATICAL OPERATOR |MEEM WITH HAH WITH TATWEEL|HAH WITH DAL;
1F000 MAHJONG TILE |EAST WIND|SOUTH WIND|WEST WIND|NORTH WIND|RED DRAGON|GREEN DRAGON|WHITE DRAGON|
ONE OF CHARACTERS|TWO OF CHARACTERS|THREE OF CHARACTERS|FOUR OF CHARACTERS|FIVE OF CHARACTERS|
SIX OF CHARACTERS|SEVEN OF CHARACTERS|EIGHT OF CHARACTERS|NINE OF CHARACTERS|ONE OF BAMBOOS|TWO OF BAMBOOS|
THREE OF BAMBOOS|FOUR OF BAMBOOS|FIVE OF BAMBOOS|SIX OF BAMBOOS|SEVEN OF BAMBOOS|EIGHT OF BAMBOOS|
NINE OF BAMBOOS|ONE OF CIRCLES|TWO OF CIRCLES|THREE OF CIRCLES|FOUR OF CIRCLES|FIVE OF CIRCLES|SIX OF CIRCLES|
SEVEN OF CIRCLES|EIGHT OF CIRCLES|NINE OF CIRCLES|PLUM|ORCHID|BAMBOO|CHRYSANTHEMUM|SPRING|SUMMER|AUTUMN|
WINTER|JOKER|BACK;1F030 DOMINO TILE HORIZONTAL BACK|;1F031 DOMINO TILE HORIZONTAL-|00-00|00-01|00-02|00-03|
00-04|00-05|00-06|01-00|01-01|01-02|01-03|01-04|01-05|01-06|02-00|02-01|02-02|02-03|02-04|02-05|02-06|03-00|
03-01|03-02|03-03|03-04|03-05|03-06|04-00|04-01|04-02|04-03|04-04|04-05|04-06|05-00|05-01|05-02|05-03|05-04|
05-05|05-06|06-00|06-01|06-02|06-03|06-04|06-05|06-06;1F062 DOMINO TILE VERTICAL BACK|;
1F063 DOMINO TILE VERTICAL-|00-00|00-01|00-02|00-03|00-04|00-05|00-06|01-00|01-01|01-02|01-03|01-04|01-05|
01-06|02-00|02-01|02-02|02-03|02-04|02-05|02-06|03-00|03-01|03-02|03-03|03-04|03-05|03-06|04-00|04-01|04-02|
04-03|04-04|04-05|04-06|05-00|05-01|05-02|05-03|05-04|05-05|05-06|06-00|06-01|06-02|06-03|06-04|06-05|06-06;
1F0A0 PLAYING CARD |BACK|ACE OF SPADES|TWO OF SPADES|THREE OF SPADES|FOUR OF SPADES|FIVE OF SPADES|
SIX OF SPADES|SEVEN OF SPADES|EIGHT OF SPADES|NINE OF SPADES|TEN OF SPADES|JACK OF SPADES|KNIGHT OF SPADES|
QUEEN OF SPADES|KING OF SPADES;1F0B1 PLAYING CARD |ACE OF HEARTS|TWO OF HEARTS|THREE OF HEARTS|FOUR OF HEARTS|
FIVE OF HEARTS|SIX OF HEARTS|SEVEN OF HEARTS|EIGHT OF HEARTS|NINE OF HEARTS|TEN OF HEARTS|JACK OF HEARTS|
KNIGHT OF HEARTS|QUEEN OF HEARTS|KING OF HEARTS|RED JOKER;1F0C1 PLAYING CARD |ACE OF DIAMONDS|TWO OF DIAMONDS|
THREE OF DIAMONDS|FOUR OF DIAMONDS|FIVE OF DIAMONDS|SIX OF DIAMONDS|SEVEN OF DIAMONDS|EIGHT OF DIAMONDS|
NINE OF DIAMONDS|TEN OF DIAMONDS|JACK OF DIAMONDS|KNIGHT OF DIAMONDS|QUEEN OF DIAMONDS|KING OF DIAMONDS|
BLACK JOKER;1F0D1 PLAYING CARD |ACE OF CLUBS|TWO OF CLUBS|THREE OF CLUBS|FOUR OF CLUBS|FIVE OF CLUBS|
SIX OF CLUBS|SEVEN OF CLUBS|EIGHT OF CLUBS|NINE OF CLUBS|TEN OF CLUBS|JACK OF CLUBS|KNIGHT OF CLUBS|
QUEEN OF CLUBS|KING OF CLUBS|WHITE JOKER|FOOL;1F0E1 PLAYING CARD TRUMP-|1|2|3|4|5|6|7|8|9|10|11|12|13|14|15|
16|17|18|19|20|21;1F100 DIGIT |ZERO FULL STOP|ZERO COMMA|ONE COMMA|TWO COMMA|THREE COMMA|FOUR COMMA|
FIVE COMMA|SIX COMMA|SEVEN COMMA|EIGHT COMMA|NINE COMMA;1F10B DINGBAT |CIRCLED SANS-SERIF DIGIT ZERO|
NEGATIVE CIRCLED SANS-SERIF DIGIT ZERO;1F10D CIRCLED |ZERO WITH SLASH|ANTICLOCKWISE ARROW|
DOLLAR SIGN WITH OVERLAID BACKSLASH;1F110 PARENTHESIZED LATIN CAPITAL LETTER |A|B|C|D|E|F|G|H|I|J|K|L|M|N|O|P|
Q|R|S|T|U|V|W|X|Y|Z;1F12A TORTOISE SHELL BRACKETED LATIN CAPITAL LETTER S|;
1F12B CIRCLED ITALIC LATIN CAPITAL LETTER |C|R;1F12D CIRCLED |CD|WZ;1F12F COPYLEFT SYMBOL|;
1F130 SQUARED LATIN CAPITAL LETTER |A|B|C|D|E|F|G|H|I|J|K|L|M|N|O|P|Q|R|S|T|U|V|W|X|Y|Z;1F14A SQUARED |HV|MV|
SD|SS|PPV|WC;1F150 NEGATIVE CIRCLED LATIN CAPITAL LETTER |A|B|C|D|E|F|G|H|I|J|K|L|M|N|O|P|Q|R|S|T|U|V|W|X|Y|Z;
1F16A RAISED |MC SIGN|MD SIGN|MR SIGN;1F16D CIRCLED |CC|C WITH OVERLAID BACKSLASH|HUMAN FIGURE;
1F170 NEGATIVE SQUARED LATIN CAPITAL LETTER |A|B|C|D|E|F|G|H|I|J|K|L|M|N|O|P|Q|R|S|T|U|V|W|X|Y|Z;
1F18A CROSSED NEGATIVE SQUARED LATIN CAPITAL LETTER P|;1F18B NEGATIVE SQUARED |IC|PA|SA|AB|WC;
1F190 SQUARE DJ|;1F191 SQUARED |CL|COOL|FREE|ID|NEW|NG|OK|SOS|UP WITH EXCLAMATION MARK|VS|THREE D|
SECOND SCREEN|TWO K|FOUR K|EIGHT K|FIVE POINT ONE|SEVEN POINT ONE|TWENTY-TWO POINT TWO|SIXTY P|
ONE HUNDRED TWENTY P|LATIN SMALL LETTER D|HC|HDR|HI-RES|LOSSLESS|SHV|UHD|VOD;1F1AD MASK WORK SYMBOL|;
1F1E6 REGIONAL INDICATOR SYMBOL LETTER |A|B|C|D|E|F|G|H|I|J|K|L|M|N|O|P|Q|R|S|T|U|V|W|X|Y|Z;
1F200 SQUARE HIRAGANA HOKA|;1F201 SQUARED KATAKANA |KOKO|SA;1F210 SQUARED CJK UNIFIED IDEOGRAPH-|624B|5B57|
53CC;1F213 SQUARED KATAKANA DE|;1F214 SQUARED CJK UNIFIED IDEOGRAPH-|4E8C|591A|89E3|5929|4EA4|6620|7121|6599|
524D|5F8C|518D|65B0|521D|7D42|751F|8CA9|58F0|5439|6F14|6295|6355|4E00|4E09|904A|5DE6|4E2D|53F3|6307|8D70|6253|
7981|7A7A|5408|6E80|6709|6708|7533|5272|55B6|914D;1F240 TORTOISE SHELL BRACKETED CJK UNIFIED IDEOGRAPH-|672C|
4E09|4E8C|5B89|70B9|6253|76D7|52DD|6557;1F250 CIRCLED IDEOGRAPH |ADVANTAGE|ACCEPT;
1F260 ROUNDED SYMBOL FOR |FU|LU|SHOU|XI|SHUANGXI|CAI;1F300 CYCLONE|;1F301 FOGGY|;1F302 CLOSED UMBRELLA|;
1F303 NIGHT WITH STARS|;1F304 SUNRISE OVER MOUNTAINS|;1F305 SUNRISE|;1F306 CITYSCAPE AT DUSK|;
1F307 SUNSET OVER BUILDINGS|;1F308 RAINBOW|;1F309 BRIDGE AT NIGHT|;1F30A WATER WAVE|;1F30B VOLCANO|;
1F30C MILKY WAY|;1F30D EARTH GLOBE |EUROPE-AFRICA|AMERICAS|ASIA-AUSTRALIA;1F310 GLOBE WITH MERIDIANS|;
1F311 NEW MOON SYMBOL|;1F312 WAXING CRESCENT MOON SYMBOL|;1F313 FIRST QUARTER MOON SYMBOL|;
1F314 WAXING GIBBOUS MOON SYMBOL|;1F315 FULL MOON SYMBOL|;1F316 WANING GIBBOUS MOON SYMBOL|;
1F317 LAST QUARTER MOON SYMBOL|;1F318 WANING CRESCENT MOON SYMBOL|;1F319 CRESCENT MOON|;
1F31A NEW MOON WITH FACE|;1F31B FIRST QUARTER MOON WITH FACE|;1F31C LAST QUARTER MOON WITH FACE|;
1F31D FULL MOON WITH FACE|;1F31E SUN WITH FACE|;1F31F GLOWING STAR|;1F320 SHOOTING STAR|;1F321 THERMOMETER|;
1F322 BLACK DROPLET|;1F323 WHITE |SUN|SUN WITH SMALL CLOUD|SUN BEHIND CLOUD|SUN BEHIND CLOUD WITH RAIN;
1F327 CLOUD WITH |RAIN|SNOW|LIGHTNING|TORNADO;1F32B FOG|;1F32C WIND BLOWING FACE|;1F32D HOT DOG|;1F32E TACO|;
1F32F BURRITO|;1F330 CHESTNUT|;1F331 SEEDLING|;1F332 EVERGREEN TREE|;1F333 DECIDUOUS TREE|;1F334 PALM TREE|;
1F335 CACTUS|;1F336 HOT PEPPER|;1F337 TULIP|;1F338 CHERRY BLOSSOM|;1F339 ROSE|;1F33A HIBISCUS|;
1F33B SUNFLOWER|;1F33C BLOSSOM|;1F33D EAR OF |MAIZE|RICE;1F33F HERB|;1F340 FOUR LEAF CLOVER|;
1F341 MAPLE LEAF|;1F342 FALLEN LEAF|;1F343 LEAF FLUTTERING IN WIND|;1F344 MUSHROOM|;1F345 TOMATO|;
1F346 AUBERGINE|;1F347 GRAPES|;1F348 MELON|;1F349 WATERMELON|;1F34A TANGERINE|;1F34B LEMON|;1F34C BANANA|;
1F34D PINEAPPLE|;1F34E RED APPLE|;1F34F GREEN APPLE|;1F350 PEAR|;1F351 PEACH|;1F352 CHERRIES|;
1F353 STRAWBERRY|;1F354 HAMBURGER|;1F355 SLICE OF PIZZA|;1F356 MEAT ON BONE|;1F357 POULTRY LEG|;
1F358 RICE |CRACKER|BALL;1F35A COOKED RICE|;1F35B CURRY AND RICE|;1F35C STEAMING BOWL|;1F35D SPAGHETTI|;
1F35E BREAD|;1F35F FRENCH FRIES|;1F360 ROASTED SWEET POTATO|;1F361 DANGO|;1F362 ODEN|;1F363 SUSHI|;
1F364 FRIED SHRIMP|;1F365 FISH CAKE WITH SWIRL DESIGN|;1F366 SOFT ICE CREAM|;1F367 SHAVED ICE|;
1F368 ICE CREAM|;1F369 DOUGHNUT|;1F36A COOKIE|;1F36B CHOCOLATE BAR|;1F36C CANDY|;1F36D LOLLIPOP|;
1F36E CUSTARD|;1F36F HONEY POT|;1F370 SHORTCAKE|;1F371 BENTO BOX|;1F372 POT OF FOOD|;1F373 COOKING|;
1F374 FORK AND KNIFE|;1F375 TEACUP WITHOUT HANDLE|;1F376 SAKE BOTTLE AND CUP|;1F377 WINE GLASS|;
1F378 COCKTAIL GLASS|;1F379 TROPICAL DRINK|;1F37A BEER MUG|;1F37B CLINKING BEER MUGS|;1F37C BABY BOTTLE|;
1F37D FORK AND KNIFE WITH PLATE|;1F37E BOTTLE WITH POPPING CORK|;1F37F POPCORN|;1F380 RIBBON|;
1F381 WRAPPED PRESENT|;1F382 BIRTHDAY CAKE|;1F383 JACK-O-LANTERN|;1F384 CHRISTMAS TREE|;
1F385 FATHER CHRISTMAS|;1F386 FIREWORKS|;1F387 FIREWORK SPARKLER|;1F388 BALLOON|;1F389 PARTY POPPER|;
1F38A CONFETTI BALL|;1F38B TANABATA TREE|;1F38C CROSSED FLAGS|;1F38D PINE DECORATION|;1F38E JAPANESE DOLLS|;
1F38F CARP STREAMER|;1F390 WIND CHIME|;1F391 MOON VIEWING CEREMONY|;1F392 SCHOOL SATCHEL|;
1F393 GRADUATION CAP|;1F394 HEART WITH TIP ON THE LEFT|;1F395 BOUQUET OF FLOWERS|;1F396 MILITARY MEDAL|;
1F397 REMINDER RIBBON|;1F398 MUSICAL KEYBOARD WITH JACKS|;1F399 STUDIO MICROPHONE|;1F39A LEVEL SLIDER|;
1F39B CONTROL KNOBS|;1F39C BEAMED |ASCENDING MUSICAL NOTES|DESCENDING MUSICAL NOTES;1F39E FILM FRAMES|;
1F39F ADMISSION TICKETS|;1F3A0 CAROUSEL HORSE|;1F3A1 FERRIS WHEEL|;1F3A2 ROLLER COASTER|;
1F3A3 FISHING POLE AND FISH|;1F3A4 MICROPHONE|;1F3A5 MOVIE CAMERA|;1F3A6 CINEMA|;1F3A7 HEADPHONE|;
1F3A8 ARTIST PALETTE|;1F3A9 TOP HAT|;1F3AA CIRCUS TENT|;1F3AB TICKET|;1F3AC CLAPPER BOARD|;
1F3AD PERFORMING ARTS|;1F3AE VIDEO GAME|;1F3AF DIRECT HIT|;1F3B0 SLOT MACHINE|;1F3B1 BILLIARDS|;
1F3B2 GAME DIE|;1F3B3 BOWLING|;1F3B4 FLOWER PLAYING CARDS|;1F3B5 MUSICAL NOTE|;1F3B6 MULTIPLE MUSICAL NOTES|;
1F3B7 SAXOPHONE|;1F3B8 GUITAR|;1F3B9 MUSICAL KEYBOARD|;1F3BA TRUMPET|;1F3BB VIOLIN|;1F3BC MUSICAL SCORE|;
1F3BD RUNNING SHIRT WITH SASH|;1F3BE TENNIS RACQUET AND BALL|;1F3BF SKI AND SKI BOOT|;
1F3C0 BASKETBALL AND HOOP|;1F3C1 CHEQUERED FLAG|;1F3C2 SNOWBOARDER|;1F3C3 RUNNER|;1F3C4 SURFER|;
1F3C5 SPORTS MEDAL|;1F3C6 TROPHY|;1F3C7 HORSE RACING|;1F3C8 AMERICAN FOOTBALL|;1F3C9 RUGBY FOOTBALL|;
1F3CA SWIMMER|;1F3CB WEIGHT LIFTER|;1F3CC GOLFER|;1F3CD RACING |MOTORCYCLE|CAR;1F3CF CRICKET BAT AND BALL|;
1F3D0 VOLLEYBALL|;1F3D1 FIELD HOCKEY STICK AND BALL|;1F3D2 ICE HOCKEY STICK AND PUCK|;
1F3D3 TABLE TENNIS PADDLE AND BALL|;1F3D4 SNOW CAPPED MOUNTAIN|;1F3D5 CAMPING|;1F3D6 BEACH WITH UMBRELLA|;
1F3D7 BUILDING CONSTRUCTION|;1F3D8 HOUSE BUILDINGS|;1F3D9 CITYSCAPE|;1F3DA DERELICT HOUSE BUILDING|;
1F3DB CLASSICAL BUILDING|;1F3DC DESERT|;1F3DD DESERT ISLAND|;1F3DE NATIONAL PARK|;1F3DF STADIUM|;
1F3E0 HOUSE |BUILDING|WITH GARDEN;1F3E2 OFFICE BUILDING|;1F3E3 JAPANESE POST OFFICE|;
1F3E4 EUROPEAN POST OFFICE|;1F3E5 HOSPITAL|;1F3E6 BANK|;1F3E7 AUTOMATED TELLER MACHINE|;1F3E8 HOTEL|;
1F3E9 LOVE HOTEL|;1F3EA CONVENIENCE STORE|;1F3EB SCHOOL|;1F3EC DEPARTMENT STORE|;1F3ED FACTORY|;
1F3EE IZAKAYA LANTERN|;1F3EF JAPANESE CASTLE|;1F3F0 EUROPEAN CASTLE|;1F3F1 WHITE PENNANT|;
1F3F2 BLACK PENNANT|;1F3F3 WAVING |WHITE FLAG|BLACK FLAG;1F3F5 ROSETTE|;1F3F6 BLACK ROSETTE|;1F3F7 LABEL|;
1F3F8 BADMINTON RACQUET AND SHUTTLECOCK|;1F3F9 BOW AND ARROW|;1F3FA AMPHORA|;
1F3FB EMOJI MODIFIER FITZPATRICK TYPE-|1-2|3|4|5|6;1F400 RAT|;1F401 MOUSE|;1F402 OX|;1F403 WATER BUFFALO|;
1F404 COW|;1F405 TIGER|;1F406 LEOPARD|;1F407 RABBIT|;1F408 CAT|;1F409 DRAGON|;1F40A CROCODILE|;1F40B WHALE|;
1F40C SNAIL|;1F40D SNAKE|;1F40E HORSE|;1F40F RAM|;1F410 GOAT|;1F411 SHEEP|;1F412 MONKEY|;1F413 ROOSTER|;
1F414 CHICKEN|;1F415 DOG|;1F416 PIG|;1F417 BOAR|;1F418 ELEPHANT|;1F419 OCTOPUS|;1F41A SPIRAL SHELL|;
1F41B BUG|;1F41C ANT|;1F41D HONEYBEE|;1F41E LADY BEETLE|;1F41F FISH|;1F420 TROPICAL FISH|;1F421 BLOWFISH|;
1F422 TURTLE|;1F423 HATCHING CHICK|;1F424 BABY CHICK|;1F425 FRONT-FACING BABY CHICK|;1F426 BIRD|;
1F427 PENGUIN|;1F428 KOALA|;1F429 POODLE|;1F42A DROMEDARY CAMEL|;1F42B BACTRIAN CAMEL|;1F42C DOLPHIN|;
1F42D MOUSE FACE|;1F42E COW FACE|;1F42F TIGER FACE|;1F430 RABBIT FACE|;1F431 CAT FACE|;1F432 DRAGON FACE|;
1F433 SPOUTING WHALE|;1F434 HORSE FACE|;1F435 MONKEY FACE|;1F436 DOG FACE|;1F437 PIG FACE|;1F438 FROG FACE|;
1F439 HAMSTER FACE|;1F43A WOLF FACE|;1F43B BEAR FACE|;1F43C PANDA FACE|;1F43D PIG NOSE|;1F43E PAW PRINTS|;
1F43F CHIPMUNK|;1F440 EYES|;1F441 EYE|;1F442 EAR|;1F443 NOSE|;1F444 MOUTH|;1F445 TONGUE|;
1F446 WHITE |UP POINTING BACKHAND INDEX|DOWN POINTING BACKHAND INDEX|LEFT POINTING BACKHAND INDEX|
RIGHT POINTING BACKHAND INDEX;1F44A FISTED HAND SIGN|;1F44B WAVING HAND SIGN|;1F44C OK HAND SIGN|;
1F44D THUMBS |UP SIGN|DOWN SIGN;1F44F CLAPPING HANDS SIGN|;1F450 OPEN HANDS SIGN|;1F451 CROWN|;
1F452 WOMANS HAT|;1F453 EYEGLASSES|;1F454 NECKTIE|;1F455 T-SHIRT|;1F456 JEANS|;1F457 DRESS|;1F458 KIMONO|;
1F459 BIKINI|;1F45A WOMANS CLOTHES|;1F45B PURSE|;1F45C HANDBAG|;1F45D POUCH|;1F45E MANS SHOE|;
1F45F ATHLETIC SHOE|;1F460 HIGH-HEELED SHOE|;1F461 WOMANS |SANDAL|BOOTS;1F463 FOOTPRINTS|;
1F464 BUST IN SILHOUETTE|;1F465 BUSTS IN SILHOUETTE|;1F466 BOY|;1F467 GIRL|;1F468 MAN|;1F469 WOMAN|;
1F46A FAMILY|;1F46B MAN AND WOMAN HOLDING HANDS|;1F46C TWO |MEN HOLDING HANDS|WOMEN HOLDING HANDS;
1F46E POLICE OFFICER|;1F46F WOMAN WITH BUNNY EARS|;1F470 BRIDE WITH VEIL|;1F471 PERSON WITH BLOND HAIR|;
1F472 MAN WITH |GUA PI MAO|TURBAN;1F474 OLDER |MAN|WOMAN;1F476 BABY|;1F477 CONSTRUCTION WORKER|;
1F478 PRINCESS|;1F479 JAPANESE |OGRE|GOBLIN;1F47B GHOST|;1F47C BABY ANGEL|;1F47D EXTRATERRESTRIAL ALIEN|;
1F47E ALIEN MONSTER|;1F47F IMP|;1F480 SKULL|;1F481 INFORMATION DESK PERSON|;1F482 GUARDSMAN|;1F483 DANCER|;
1F484 LIPSTICK|;1F485 NAIL POLISH|;1F486 FACE MASSAGE|;1F487 HAIRCUT|;1F488 BARBER POLE|;1F489 SYRINGE|;
1F48A PILL|;1F48B KISS MARK|;1F48C LOVE LETTER|;1F48D RING|;1F48E GEM STONE|;1F48F KISS|;1F490 BOUQUET|;
1F491 COUPLE WITH HEART|;1F492 WEDDING|;1F493 BEATING HEART|;1F494 BROKEN HEART|;1F495 TWO HEARTS|;
1F496 SPARKLING HEART|;1F497 GROWING HEART|;1F498 HEART WITH ARROW|;1F499 BLUE HEART|;1F49A GREEN HEART|;
1F49B YELLOW HEART|;1F49C PURPLE HEART|;1F49D HEART WITH RIBBON|;1F49E REVOLVING HEARTS|;
1F49F HEART DECORATION|;1F4A0 DIAMOND SHAPE WITH A DOT INSIDE|;1F4A1 ELECTRIC LIGHT BULB|;1F4A2 ANGER SYMBOL|;
1F4A3 BOMB|;1F4A4 SLEEPING SYMBOL|;1F4A5 COLLISION SYMBOL|;1F4A6 SPLASHING SWEAT SYMBOL|;1F4A7 DROPLET|;
1F4A8 DASH SYMBOL|;1F4A9 PILE OF POO|;1F4AA FLEXED BICEPS|;1F4AB DIZZY SYMBOL|;1F4AC SPEECH BALLOON|;
1F4AD THOUGHT BALLOON|;1F4AE WHITE FLOWER|;1F4AF HUNDRED POINTS SYMBOL|;1F4B0 MONEY BAG|;
1F4B1 CURRENCY EXCHANGE|;1F4B2 HEAVY DOLLAR SIGN|;1F4B3 CREDIT CARD|;1F4B4 BANKNOTE WITH |YEN SIGN|
DOLLAR SIGN|EURO SIGN|POUND SIGN;1F4B8 MONEY WITH WINGS|;1F4B9 CHART WITH UPWARDS TREND AND YEN SIGN|;
1F4BA SEAT|;1F4BB PERSONAL COMPUTER|;1F4BC BRIEFCASE|;1F4BD MINIDISC|;1F4BE FLOPPY DISK|;1F4BF OPTICAL DISC|;
1F4C0 DVD|;1F4C1 FILE FOLDER|;1F4C2 OPEN FILE FOLDER|;1F4C3 PAGE |WITH CURL|FACING UP;1F4C5 CALENDAR|;
1F4C6 TEAR-OFF CALENDAR|;1F4C7 CARD INDEX|;1F4C8 CHART WITH |UPWARDS TREND|DOWNWARDS TREND;1F4CA BAR CHART|;
1F4CB CLIPBOARD|;1F4CC PUSHPIN|;1F4CD ROUND PUSHPIN|;1F4CE PAPERCLIP|;1F4CF STRAIGHT RULER|;
1F4D0 TRIANGULAR RULER|;1F4D1 BOOKMARK TABS|;1F4D2 LEDGER|;1F4D3 NOTEBOOK|;
1F4D4 NOTEBOOK WITH DECORATIVE COVER|;1F4D5 CLOSED BOOK|;1F4D6 OPEN BOOK|;1F4D7 GREEN BOOK|;1F4D8 BLUE BOOK|;
1F4D9 ORANGE BOOK|;1F4DA BOOKS|;1F4DB NAME BADGE|;1F4DC SCROLL|;1F4DD MEMO|;1F4DE TELEPHONE RECEIVER|;
1F4DF PAGER|;1F4E0 FAX MACHINE|;1F4E1 SATELLITE ANTENNA|;1F4E2 PUBLIC ADDRESS LOUDSPEAKER|;
1F4E3 CHEERING MEGAPHONE|;1F4E4 OUTBOX TRAY|;1F4E5 INBOX TRAY|;1F4E6 PACKAGE|;1F4E7 E-MAIL SYMBOL|;
1F4E8 INCOMING ENVELOPE|;1F4E9 ENVELOPE WITH DOWNWARDS ARROW ABOVE|;1F4EA CLOSED MAILBOX WITH |LOWERED FLAG|
RAISED FLAG;1F4EC OPEN MAILBOX WITH |RAISED FLAG|LOWERED FLAG;1F4EE POSTBOX|;1F4EF POSTAL HORN|;
1F4F0 NEWSPAPER|;1F4F1 MOBILE |PHONE|PHONE WITH RIGHTWARDS ARROW AT LEFT;1F4F3 VIBRATION MODE|;
1F4F4 MOBILE PHONE OFF|;1F4F5 NO MOBILE PHONES|;1F4F6 ANTENNA WITH BARS|;1F4F7 CAMERA|;
1F4F8 CAMERA WITH FLASH|;1F4F9 VIDEO CAMERA|;1F4FA TELEVISION|;1F4FB RADIO|;1F4FC VIDEOCASSETTE|;
1F4FD FILM PROJECTOR|;1F4FE PORTABLE STEREO|;1F4FF PRAYER BEADS|;1F500 TWISTED RIGHTWARDS ARROWS|;
1F501 CLOCKWISE RIGHTWARDS AND LEFTWARDS OPEN CIRCLE |ARROWS|ARROWS WITH CIRCLED ONE OVERLAY"

/-- Names of the characters 1F503 to 1F7C0. -/
def from1F503 : String := "
1F503 CLOCKWISE DOWNWARDS AND UPWARDS OPEN CIRCLE ARROWS|;
1F504 ANTICLOCKWISE DOWNWARDS AND UPWARDS OPEN CIRCLE ARROWS|;1F505 LOW BRIGHTNESS SYMBOL|;
1F506 HIGH BRIGHTNESS SYMBOL|;1F507 SPEAKER WITH CANCELLATION STROKE|;1F508 SPEAKER|;
1F509 SPEAKER WITH |ONE SOUND WAVE|THREE SOUND WAVES;1F50B BATTERY|;1F50C ELECTRIC PLUG|;
1F50D LEFT-POINTING MAGNIFYING GLASS|;1F50E RIGHT-POINTING MAGNIFYING GLASS|;1F50F LOCK WITH INK PEN|;
1F510 CLOSED LOCK WITH KEY|;1F511 KEY|;1F512 LOCK|;1F513 OPEN LOCK|;1F514 BELL|;
1F515 BELL WITH CANCELLATION STROKE|;1F516 BOOKMARK|;1F517 LINK SYMBOL|;1F518 RADIO BUTTON|;
1F519 BACK WITH LEFTWARDS ARROW ABOVE|;1F51A END WITH LEFTWARDS ARROW ABOVE|;
1F51B ON WITH EXCLAMATION MARK WITH LEFT RIGHT ARROW ABOVE|;1F51C SOON WITH RIGHTWARDS ARROW ABOVE|;
1F51D TOP WITH UPWARDS ARROW ABOVE|;1F51E NO ONE UNDER EIGHTEEN SYMBOL|;1F51F KEYCAP TEN|;
1F520 INPUT SYMBOL FOR |LATIN CAPITAL LETTERS|LATIN SMALL LETTERS|NUMBERS|SYMBOLS|LATIN LETTERS;1F525 FIRE|;
1F526 ELECTRIC TORCH|;1F527 WRENCH|;1F528 HAMMER|;1F529 NUT AND BOLT|;1F52A HOCHO|;1F52B PISTOL|;
1F52C MICROSCOPE|;1F52D TELESCOPE|;1F52E CRYSTAL BALL|;1F52F SIX POINTED STAR WITH MIDDLE DOT|;
1F530 JAPANESE SYMBOL FOR BEGINNER|;1F531 TRIDENT EMBLEM|;1F532 BLACK SQUARE BUTTON|;
1F533 WHITE SQUARE BUTTON|;1F534 LARGE |RED CIRCLE|BLUE CIRCLE|ORANGE DIAMOND|BLUE DIAMOND;
1F538 SMALL |ORANGE DIAMOND|BLUE DIAMOND;1F53A UP-POINTING RED TRIANGLE|;1F53B DOWN-POINTING RED TRIANGLE|;
1F53C UP-POINTING SMALL RED TRIANGLE|;1F53D DOWN-POINTING SMALL RED TRIANGLE|;
1F53E LOWER RIGHT SHADOWED WHITE CIRCLE|;1F53F UPPER RIGHT SHADOWED WHITE CIRCLE|;1F540 CIRCLED CROSS POMMEE|;
1F541 CROSS |POMMEE WITH HALF-CIRCLE BELOW|POMMEE;1F543 NOTCHED |LEFT SEMICIRCLE WITH THREE DOTS|
RIGHT SEMICIRCLE WITH THREE DOTS;1F545 SYMBOL FOR MARKS CHAPTER|;1F546 WHITE LATIN CROSS|;
1F547 HEAVY LATIN CROSS|;1F548 CELTIC CROSS|;1F549 OM SYMBOL|;1F54A DOVE OF PEACE|;1F54B KAABA|;1F54C MOSQUE|;
1F54D SYNAGOGUE|;1F54E MENORAH WITH NINE BRANCHES|;1F54F BOWL OF HYGIEIA|;1F550 CLOCK FACE |ONE OCLOCK|
TWO OCLOCK|THREE OCLOCK|FOUR OCLOCK|FIVE OCLOCK|SIX OCLOCK|SEVEN OCLOCK|EIGHT OCLOCK|NINE OCLOCK|TEN OCLOCK|
ELEVEN OCLOCK|TWELVE OCLOCK|ONE-THIRTY|TWO-THIRTY|THREE-THIRTY|FOUR-THIRTY|FIVE-THIRTY|SIX-THIRTY|
SEVEN-THIRTY|EIGHT-THIRTY|NINE-THIRTY|TEN-THIRTY|ELEVEN-THIRTY|TWELVE-THIRTY;1F568 RIGHT |SPEAKER|
SPEAKER WITH ONE SOUND WAVE|SPEAKER WITH THREE SOUND WAVES;1F56B BULLHORN|;1F56C BULLHORN WITH SOUND WAVES|;
1F56D RINGING BELL|;1F56E BOOK|;1F56F CANDLE|;1F570 MANTELPIECE CLOCK|;1F571 BLACK SKULL AND CROSSBONES|;
1F572 NO PIRACY|;1F573 HOLE|;1F574 MAN IN BUSINESS SUIT LEVITATING|;1F575 SLEUTH OR SPY|;
1F576 DARK SUNGLASSES|;1F577 SPIDER|;1F578 SPIDER WEB|;1F579 JOYSTICK|;1F57A MAN DANCING|;
1F57B LEFT HAND TELEPHONE RECEIVER|;1F57C TELEPHONE RECEIVER WITH PAGE|;1F57D RIGHT HAND TELEPHONE RECEIVER|;
1F57E WHITE TOUCHTONE TELEPHONE|;1F57F BLACK TOUCHTONE TELEPHONE|;1F580 TELEPHONE ON TOP OF MODEM|;
1F581 CLAMSHELL MOBILE PHONE|;1F582 BACK OF ENVELOPE|;1F583 STAMPED ENVELOPE|;1F584 ENVELOPE WITH LIGHTNING|;
1F585 FLYING ENVELOPE|;1F586 PEN OVER STAMPED ENVELOPE|;1F587 LINKED PAPERCLIPS|;1F588 BLACK PUSHPIN|;
1F589 LOWER LEFT |PENCIL|BALLPOINT PEN|FOUNTAIN PEN|PAINTBRUSH|CRAYON;1F58E LEFT WRITING HAND|;
1F58F TURNED OK HAND SIGN|;1F590 RAISED HAND WITH FINGERS SPLAYED|;
1F591 REVERSED |RAISED HAND WITH FINGERS SPLAYED|THUMBS UP SIGN|THUMBS DOWN SIGN|VICTORY HAND|
HAND WITH MIDDLE FINGER EXTENDED;1F596 RAISED HAND WITH PART BETWEEN MIDDLE AND RING FINGERS|;
1F597 WHITE DOWN POINTING LEFT HAND INDEX|;1F598 SIDEWAYS |WHITE LEFT POINTING INDEX|
WHITE RIGHT POINTING INDEX|BLACK LEFT POINTING INDEX|BLACK RIGHT POINTING INDEX;
1F59C BLACK |LEFT POINTING BACKHAND INDEX|RIGHT POINTING BACKHAND INDEX;
1F59E SIDEWAYS |WHITE UP POINTING INDEX|WHITE DOWN POINTING INDEX|BLACK UP POINTING INDEX|
BLACK DOWN POINTING INDEX;1F5A2 BLACK |UP POINTING BACKHAND INDEX|DOWN POINTING BACKHAND INDEX|HEART;
1F5A5 DESKTOP COMPUTER|;1F5A6 KEYBOARD AND MOUSE|;1F5A7 THREE NETWORKED COMPUTERS|;1F5A8 PRINTER|;
1F5A9 POCKET CALCULATOR|;1F5AA BLACK HARD SHELL FLOPPY DISK|;1F5AB WHITE HARD SHELL FLOPPY DISK|;
1F5AC SOFT SHELL FLOPPY DISK|;1F5AD TAPE CARTRIDGE|;1F5AE WIRED KEYBOARD|;1F5AF ONE BUTTON MOUSE|;
1F5B0 TWO BUTTON MOUSE|;1F5B1 THREE BUTTON MOUSE|;1F5B2 TRACKBALL|;1F5B3 OLD PERSONAL COMPUTER|;
1F5B4 HARD DISK|;1F5B5 SCREEN|;1F5B6 PRINTER ICON|;1F5B7 FAX ICON|;1F5B8 OPTICAL DISC ICON|;
1F5B9 DOCUMENT WITH |TEXT|TEXT AND PICTURE|PICTURE;1F5BC FRAME WITH |PICTURE|TILES|AN X;1F5BF BLACK FOLDER|;
1F5C0 FOLDER|;1F5C1 OPEN FOLDER|;1F5C2 CARD |INDEX DIVIDERS|FILE BOX;1F5C4 FILE CABINET|;1F5C5 EMPTY |NOTE|
NOTE PAGE|NOTE PAD;1F5C8 NOTE|;1F5C9 NOTE |PAGE|PAD;1F5CB EMPTY |DOCUMENT|PAGE|PAGES;1F5CE DOCUMENT|;
1F5CF PAGE|;1F5D0 PAGES|;1F5D1 WASTEBASKET|;1F5D2 SPIRAL |NOTE PAD|CALENDAR PAD;1F5D4 DESKTOP WINDOW|;
1F5D5 MINIMIZE|;1F5D6 MAXIMIZE|;1F5D7 OVERLAP|;1F5D8 CLOCKWISE RIGHT AND LEFT SEMICIRCLE ARROWS|;
1F5D9 CANCELLATION X|;1F5DA INCREASE FONT SIZE SYMBOL|;1F5DB DECREASE FONT SIZE SYMBOL|;1F5DC COMPRESSION|;
1F5DD OLD KEY|;1F5DE ROLLED-UP NEWSPAPER|;1F5DF PAGE WITH CIRCLED TEXT|;1F5E0 STOCK CHART|;
1F5E1 DAGGER KNIFE|;1F5E2 LIPS|;1F5E3 SPEAKING HEAD IN SILHOUETTE|;1F5E4 THREE RAYS |ABOVE|BELOW|LEFT|RIGHT;
1F5E8 LEFT SPEECH BUBBLE|;1F5E9 RIGHT SPEECH BUBBLE|;1F5EA TWO SPEECH BUBBLES|;1F5EB THREE SPEECH BUBBLES|;
1F5EC LEFT THOUGHT BUBBLE|;1F5ED RIGHT THOUGHT BUBBLE|;1F5EE LEFT ANGER BUBBLE|;1F5EF RIGHT ANGER BUBBLE|;
1F5F0 MOOD BUBBLE|;1F5F1 LIGHTNING |MOOD BUBBLE|MOOD;1F5F3 BALLOT |BOX WITH BALLOT|SCRIPT X|BOX WITH SCRIPT X|
BOLD SCRIPT X|BOX WITH BOLD SCRIPT X;1F5F8 LIGHT CHECK MARK|;1F5F9 BALLOT BOX WITH BOLD CHECK|;
1F5FA WORLD MAP|;1F5FB MOUNT FUJI|;1F5FC TOKYO TOWER|;1F5FD STATUE OF LIBERTY|;1F5FE SILHOUETTE OF JAPAN|;
1F5FF MOYAI|;1F600 GRINNING |FACE|FACE WITH SMILING EYES;1F602 FACE WITH TEARS OF JOY|;
1F603 SMILING FACE WITH |OPEN MOUTH|OPEN MOUTH AND SMILING EYES|OPEN MOUTH AND COLD SWEAT|
OPEN MOUTH AND TIGHTLY-CLOSED EYES|HALO|HORNS;1F609 WINKING FACE|;1F60A SMILING FACE WITH SMILING EYES|;
1F60B FACE SAVOURING DELICIOUS FOOD|;1F60C RELIEVED FACE|;1F60D SMILING FACE WITH |HEART-SHAPED EYES|
SUNGLASSES;1F60F SMIRKING FACE|;1F610 NEUTRAL FACE|;1F611 EXPRESSIONLESS FACE|;1F612 UNAMUSED FACE|;
1F613 FACE WITH COLD SWEAT|;1F614 PENSIVE FACE|;1F615 CONFUSED FACE|;1F616 CONFOUNDED FACE|;
1F617 KISSING FACE|;1F618 FACE THROWING A KISS|;1F619 KISSING FACE WITH |SMILING EYES|CLOSED EYES;
1F61B FACE WITH STUCK-OUT |TONGUE|TONGUE AND WINKING EYE|TONGUE AND TIGHTLY-CLOSED EYES;
1F61E DISAPPOINTED FACE|;1F61F WORRIED FACE|;1F620 ANGRY FACE|;1F621 POUTING FACE|;1F622 CRYING FACE|;
1F623 PERSEVERING FACE|;1F624 FACE WITH LOOK OF TRIUMPH|;1F625 DISAPPOINTED BUT RELIEVED FACE|;
1F626 FROWNING FACE WITH OPEN MOUTH|;1F627 ANGUISHED FACE|;1F628 FEARFUL FACE|;1F629 WEARY FACE|;
1F62A SLEEPY FACE|;1F62B TIRED FACE|;1F62C GRIMACING FACE|;1F62D LOUDLY CRYING FACE|;
1F62E FACE WITH OPEN MOUTH|;1F62F HUSHED FACE|;1F630 FACE |WITH OPEN MOUTH AND COLD SWEAT|SCREAMING IN FEAR;
1F632 ASTONISHED FACE|;1F633 FLUSHED FACE|;1F634 SLEEPING FACE|;1F635 DIZZY FACE|;1F636 FACE |WITHOUT MOUTH|
WITH MEDICAL MASK;1F638 GRINNING CAT FACE WITH SMILING EYES|;1F639 CAT FACE WITH TEARS OF JOY|;
1F63A SMILING CAT FACE WITH |OPEN MOUTH|HEART-SHAPED EYES;1F63C CAT FACE WITH WRY SMILE|;
1F63D KISSING CAT FACE WITH CLOSED EYES|;1F63E POUTING CAT FACE|;1F63F CRYING CAT FACE|;1F640 WEARY CAT FACE|;
1F641 SLIGHTLY |FROWNING FACE|SMILING FACE;1F643 UPSIDE-DOWN FACE|;1F644 FACE WITH |ROLLING EYES|
NO GOOD GESTURE|OK GESTURE;1F647 PERSON BOWING DEEPLY|;1F648 SEE-NO-EVIL MONKEY|;1F649 HEAR-NO-EVIL MONKEY|;
1F64A SPEAK-NO-EVIL MONKEY|;1F64B HAPPY PERSON RAISING ONE HAND|;
1F64C PERSON |RAISING BOTH HANDS IN CELEBRATION|FROWNING|WITH POUTING FACE|WITH FOLDED HANDS;
1F650 NORTH WEST POINTING LEAF|;1F651 SOUTH WEST POINTING LEAF|;1F652 NORTH EAST POINTING LEAF|;
1F653 SOUTH EAST POINTING LEAF|;1F654 TURNED |NORTH WEST POINTING LEAF|SOUTH WEST POINTING LEAF|
NORTH EAST POINTING LEAF|SOUTH EAST POINTING LEAF;1F658 NORTH WEST POINTING VINE LEAF|;
1F659 SOUTH WEST POINTING VINE LEAF|;1F65A NORTH EAST POINTING VINE LEAF|;
1F65B SOUTH EAST POINTING VINE LEAF|;1F65C HEAVY |NORTH WEST POINTING VINE LEAF|SOUTH WEST POINTING VINE LEAF|
NORTH EAST POINTING VINE LEAF|SOUTH EAST POINTING VINE LEAF;1F660 NORTH WEST POINTING BUD|;
1F661 SOUTH WEST POINTING BUD|;1F662 NORTH EAST POINTING BUD|;1F663 SOUTH EAST POINTING BUD|;
1F664 HEAVY |NORTH WEST POINTING BUD|SOUTH WEST POINTING BUD|NORTH EAST POINTING BUD|SOUTH EAST POINTING BUD;
1F668 HOLLOW QUILT SQUARE |ORNAMENT|ORNAMENT IN BLACK SQUARE;1F66A SOLID QUILT SQUARE |ORNAMENT|
ORNAMENT IN BLACK SQUARE;1F66C LEFTWARDS ROCKET|;1F66D UPWARDS ROCKET|;1F66E RIGHTWARDS ROCKET|;
1F66F DOWNWARDS ROCKET|;1F670 SCRIPT LIGATURE ET ORNAMENT|;1F671 HEAVY SCRIPT LIGATURE ET ORNAMENT|;
1F672 LIGATURE OPEN ET ORNAMENT|;1F673 HEAVY |LIGATURE OPEN ET ORNAMENT|AMPERSAND ORNAMENT;
1F675 SWASH AMPERSAND ORNAMENT|;1F676 SANS-SERIF HEAVY |DOUBLE TURNED COMMA QUOTATION MARK ORNAMENT|
DOUBLE COMMA QUOTATION MARK ORNAMENT|LOW DOUBLE COMMA QUOTATION MARK ORNAMENT;
1F679 HEAVY INTERROBANG ORNAMENT|;1F67A SANS-SERIF INTERROBANG ORNAMENT|;
1F67B HEAVY SANS-SERIF INTERROBANG ORNAMENT|;1F67C VERY HEAVY |SOLIDUS|REVERSE SOLIDUS;1F67E CHECKER BOARD|;
1F67F REVERSE CHECKER BOARD|;1F680 ROCKET|;1F681 HELICOPTER|;1F682 STEAM LOCOMOTIVE|;1F683 RAILWAY CAR|;
1F684 HIGH-SPEED |TRAIN|TRAIN WITH BULLET NOSE;1F686 TRAIN|;1F687 METRO|;1F688 LIGHT RAIL|;1F689 STATION|;
1F68A TRAM|;1F68B TRAM CAR|;1F68C BUS|;1F68D ONCOMING BUS|;1F68E TROLLEYBUS|;1F68F BUS STOP|;1F690 MINIBUS|;
1F691 AMBULANCE|;1F692 FIRE ENGINE|;1F693 POLICE CAR|;1F694 ONCOMING POLICE CAR|;1F695 TAXI|;
1F696 ONCOMING TAXI|;1F697 AUTOMOBILE|;1F698 ONCOMING AUTOMOBILE|;1F699 RECREATIONAL VEHICLE|;
1F69A DELIVERY TRUCK|;1F69B ARTICULATED LORRY|;1F69C TRACTOR|;1F69D MONORAIL|;1F69E MOUNTAIN RAILWAY|;
1F69F SUSPENSION RAILWAY|;1F6A0 MOUNTAIN CABLEWAY|;1F6A1 AERIAL TRAMWAY|;1F6A2 SHIP|;1F6A3 ROWBOAT|;
1F6A4 SPEEDBOAT|;1F6A5 HORIZONTAL TRAFFIC LIGHT|;1F6A6 VERTICAL TRAFFIC LIGHT|;1F6A7 CONSTRUCTION SIGN|;
1F6A8 POLICE CARS REVOLVING LIGHT|;1F6A9 TRIANGULAR FLAG ON POST|;1F6AA DOOR|;1F6AB NO ENTRY SIGN|;
1F6AC SMOKING SYMBOL|;1F6AD NO SMOKING SYMBOL|;1F6AE PUT LITTER IN ITS PLACE SYMBOL|;
1F6AF DO NOT LITTER SYMBOL|;1F6B0 POTABLE WATER SYMBOL|;1F6B1 NON-POTABLE WATER SYMBOL|;1F6B2 BICYCLE|;
1F6B3 NO BICYCLES|;1F6B4 BICYCLIST|;1F6B5 MOUNTAIN BICYCLIST|;1F6B6 PEDESTRIAN|;1F6B7 NO PEDESTRIANS|;
1F6B8 CHILDREN CROSSING|;1F6B9 MENS SYMBOL|;1F6BA WOMENS SYMBOL|;1F6BB RESTROOM|;1F6BC BABY SYMBOL|;
1F6BD TOILET|;1F6BE WATER CLOSET|;1F6BF SHOWER|;1F6C0 BATH|;1F6C1 BATHTUB|;1F6C2 PASSPORT CONTROL|;
1F6C3 CUSTOMS|;1F6C4 BAGGAGE CLAIM|;1F6C5 LEFT LUGGAGE|;1F6C6 TRIANGLE WITH ROUNDED CORNERS|;
1F6C7 PROHIBITED SIGN|;1F6C8 CIRCLED INFORMATION SOURCE|;1F6C9 BOYS SYMBOL|;1F6CA GIRLS SYMBOL|;
1F6CB COUCH AND LAMP|;1F6CC SLEEPING ACCOMMODATION|;1F6CD SHOPPING BAGS|;1F6CE BELLHOP BELL|;1F6CF BED|;
1F6D0 PLACE OF WORSHIP|;1F6D1 OCTAGONAL SIGN|;1F6D2 SHOPPING TROLLEY|;1F6D3 STUPA|;1F6D4 PAGODA|;
1F6D5 HINDU TEMPLE|;1F6D6 HUT|;1F6D7 ELEVATOR|;1F6DD PLAYGROUND SLIDE|;1F6DE WHEEL|;1F6DF RING BUOY|;
1F6E0 HAMMER AND WRENCH|;1F6E1 SHIELD|;1F6E2 OIL DRUM|;1F6E3 MOTORWAY|;1F6E4 RAILWAY TRACK|;1F6E5 MOTOR BOAT|;
1F6E6 UP-POINTING |MILITARY AIRPLANE|AIRPLANE|SMALL AIRPLANE;1F6E9 SMALL AIRPLANE|;
1F6EA NORTHEAST-POINTING AIRPLANE|;1F6EB AIRPLANE |DEPARTURE|ARRIVING;1F6F0 SATELLITE|;
1F6F1 ONCOMING FIRE ENGINE|;1F6F2 DIESEL LOCOMOTIVE|;1F6F3 PASSENGER SHIP|;1F6F4 SCOOTER|;
1F6F5 MOTOR SCOOTER|;1F6F6 CANOE|;1F6F7 SLED|;1F6F8 FLYING SAUCER|;1F6F9 SKATEBOARD|;1F6FA AUTO RICKSHAW|;
1F6FB PICKUP TRUCK|;1F6FC ROLLER SKATE|;1F700 ALCHEMICAL SYMBOL FOR |QUINTESSENCE|AIR|FIRE|EARTH|WATER|
AQUAFORTIS|AQUA REGIA|AQUA REGIA-2|AQUA VITAE|AQUA VITAE-2|VINEGAR|VINEGAR-2|VINEGAR-3|SULFUR|
PHILOSOPHERS SULFUR|BLACK SULFUR|MERCURY SUBLIMATE|MERCURY SUBLIMATE-2|MERCURY SUBLIMATE-3|CINNABAR|SALT|
NITRE|VITRIOL|VITRIOL-2|ROCK SALT|ROCK SALT-2|GOLD|SILVER|IRON ORE|IRON ORE-2|CROCUS OF IRON|REGULUS OF IRON|
COPPER ORE|IRON-COPPER ORE|SUBLIMATE OF COPPER|CROCUS OF COPPER|CROCUS OF COPPER-2|COPPER ANTIMONIATE|
SALT OF COPPER ANTIMONIATE|SUBLIMATE OF SALT OF COPPER|VERDIGRIS|TIN ORE|LEAD ORE|ANTIMONY ORE|
SUBLIMATE OF ANTIMONY|SALT OF ANTIMONY|SUBLIMATE OF SALT OF ANTIMONY|VINEGAR OF ANTIMONY|REGULUS OF ANTIMONY|
REGULUS OF ANTIMONY-2|REGULUS|REGULUS-2|REGULUS-3|REGULUS-4|ALKALI|ALKALI-2|MARCASITE|SAL-AMMONIAC|ARSENIC|
REALGAR|REALGAR-2|AURIPIGMENT|BISMUTH ORE|TARTAR|TARTAR-2|QUICK LIME|BORAX|BORAX-2|BORAX-3|ALUM|OIL|SPIRIT|
TINCTURE|GUM|WAX|POWDER|CALX|TUTTY|CAPUT MORTUUM|SCEPTER OF JOVE|CADUCEUS|TRIDENT|STARRED TRIDENT|LODESTONE|
SOAP|URINE|HORSE DUNG|ASHES|POT ASHES|BRICK|POWDERED BRICK|AMALGAM|STRATUM SUPER STRATUM|
STRATUM SUPER STRATUM-2|SUBLIMATION|PRECIPITATE|DISTILL|DISSOLVE|DISSOLVE-2|PURIFY|PUTREFACTION|CRUCIBLE|
CRUCIBLE-2|CRUCIBLE-3|CRUCIBLE-4|CRUCIBLE-5|ALEMBIC|BATH OF MARY|BATH OF VAPOURS|RETORT|HOUR|NIGHT|DAY-NIGHT|
MONTH|HALF DRAM|HALF OUNCE;1F780 BLACK |LEFT-POINTING ISOSCELES RIGHT TRIANGLE|
UP-POINTING ISOSCELES RIGHT TRIANGLE|RIGHT-POINTING ISOSCELES RIGHT TRIANGLE|
DOWN-POINTING ISOSCELES RIGHT TRIANGLE|SLIGHTLY SMALL CIRCLE;1F785 MEDIUM BOLD WHITE CIRCLE|;
1F786 BOLD WHITE CIRCLE|;1F787 HEAVY WHITE CIRCLE|;1F788 VERY HEAVY WHITE CIRCLE|;
1F789 EXTREMELY HEAVY WHITE CIRCLE|;1F78A WHITE CIRCLE CONTAINING BLACK SMALL CIRCLE|;1F78B ROUND TARGET|;
1F78C BLACK |TINY SQUARE|SLIGHTLY SMALL SQUARE;1F78E LIGHT WHITE SQUARE|;1F78F MEDIUM WHITE SQUARE|;
1F790 BOLD WHITE SQUARE|;1F791 HEAVY WHITE SQUARE|;1F792 VERY HEAVY WHITE SQUARE|;
1F793 EXTREMELY HEAVY WHITE SQUARE|;1F794 WHITE SQUARE CONTAINING BLACK |VERY SMALL SQUARE|MEDIUM SQUARE;
1F796 SQUARE TARGET|;1F797 BLACK |TINY DIAMOND|VERY SMALL DIAMOND|MEDIUM SMALL DIAMOND;
1F79A WHITE DIAMOND CONTAINING BLACK |VERY SMALL DIAMOND|MEDIUM DIAMOND;1F79C DIAMOND TARGET|;
1F79D BLACK |TINY LOZENGE|VERY SMALL LOZENGE|MEDIUM SMALL LOZENGE;
1F7A0 WHITE LOZENGE CONTAINING BLACK SMALL LOZENGE|;1F7A1 THIN GREEK CROSS|;1F7A2 LIGHT GREEK CROSS|;
1F7A3 MEDIUM GREEK CROSS|;1F7A4 BOLD GREEK CROSS|;1F7A5 VERY |BOLD GREEK CROSS|HEAVY GREEK CROSS;
1F7A7 EXTREMELY HEAVY GREEK CROSS|;1F7A8 THIN SALTIRE|;1F7A9 LIGHT SALTIRE|;1F7AA MEDIUM SALTIRE|;
1F7AB BOLD SALTIRE|;1F7AC HEAVY SALTIRE|;1F7AD VERY HEAVY SALTIRE|;1F7AE EXTREMELY HEAVY SALTIRE|;
1F7AF LIGHT FIVE SPOKED ASTERISK|;1F7B0 MEDIUM FIVE SPOKED ASTERISK|;1F7B1 BOLD FIVE SPOKED ASTERISK|;
1F7B2 HEAVY FIVE SPOKED ASTERISK|;1F7B3 VERY HEAVY FIVE SPOKED ASTERISK|;
1F7B4 EXTREMELY HEAVY FIVE SPOKED ASTERISK|;1F7B5 LIGHT SIX SPOKED ASTERISK|;
1F7B6 MEDIUM SIX SPOKED ASTERISK|;1F7B7 BOLD SIX SPOKED ASTERISK|;1F7B8 HEAVY SIX SPOKED ASTERISK|;
1F7B9 VERY HEAVY SIX SPOKED ASTERISK|;1F7BA EXTREMELY HEAVY SIX SPOKED ASTERISK|;
1F7BB LIGHT EIGHT SPOKED ASTERISK|;1F7BC MEDIUM EIGHT SPOKED ASTERISK|;1F7BD BOLD EIGHT SPOKED ASTERISK|;
1F7BE HEAVY EIGHT SPOKED ASTERISK|;1F7BF VERY HEAVY EIGHT SPOKED ASTERISK|;
1F7C0 LIGHT THREE POINTED BLACK STAR|"

/-- Names of the characters 1F7C1 to 1FA82. -/
def from1F7C1 : String := "
1F7C1 MEDIUM THREE POINTED BLACK STAR|;1F7C2 THREE POINTED BLACK STAR|;
1F7C3 MEDIUM THREE POINTED PINWHEEL STAR|;1F7C4 LIGHT FOUR POINTED BLACK STAR|;
1F7C5 MEDIUM FOUR POINTED BLACK STAR|;1F7C6 FOUR POINTED BLACK STAR|;1F7C7 MEDIUM FOUR POINTED PINWHEEL STAR|;
1F7C8 REVERSE LIGHT FOUR POINTED PINWHEEL STAR|;1F7C9 LIGHT FIVE POINTED BLACK STAR|;
1F7CA HEAVY FIVE POINTED BLACK STAR|;1F7CB MEDIUM SIX POINTED BLACK STAR|;1F7CC HEAVY SIX POINTED BLACK STAR|;
1F7CD SIX POINTED PINWHEEL STAR|;1F7CE MEDIUM EIGHT POINTED BLACK STAR|;1F7CF HEAVY EIGHT POINTED BLACK STAR|;
1F7D0 VERY HEAVY EIGHT POINTED BLACK STAR|;1F7D1 HEAVY EIGHT POINTED PINWHEEL STAR|;
1F7D2 LIGHT TWELVE POINTED BLACK STAR|;1F7D3 HEAVY TWELVE POINTED |BLACK STAR|PINWHEEL STAR;
1F7D5 CIRCLED TRIANGLE|;1F7D6 NEGATIVE CIRCLED TRIANGLE|;1F7D7 CIRCLED SQUARE|;1F7D8 NEGATIVE CIRCLED SQUARE|;
1F7E0 LARGE |ORANGE CIRCLE|YELLOW CIRCLE|GREEN CIRCLE|PURPLE CIRCLE|BROWN CIRCLE|RED SQUARE|BLUE SQUARE|
ORANGE SQUARE|YELLOW SQUARE|GREEN SQUARE|PURPLE SQUARE|BROWN SQUARE;1F7F0 HEAVY EQUALS SIGN|;
1F800 LEFTWARDS ARROW WITH SMALL TRIANGLE ARROWHEAD|;1F801 UPWARDS ARROW WITH SMALL TRIANGLE ARROWHEAD|;
1F802 RIGHTWARDS ARROW WITH SMALL TRIANGLE ARROWHEAD|;1F803 DOWNWARDS ARROW WITH SMALL TRIANGLE ARROWHEAD|;
1F804 LEFTWARDS ARROW WITH MEDIUM TRIANGLE ARROWHEAD|;1F805 UPWARDS ARROW WITH MEDIUM TRIANGLE ARROWHEAD|;
1F806 RIGHTWARDS ARROW WITH MEDIUM TRIANGLE ARROWHEAD|;1F807 DOWNWARDS ARROW WITH MEDIUM TRIANGLE ARROWHEAD|;
1F808 LEFTWARDS ARROW WITH LARGE TRIANGLE ARROWHEAD|;1F809 UPWARDS ARROW WITH LARGE TRIANGLE ARROWHEAD|;
1F80A RIGHTWARDS ARROW WITH LARGE TRIANGLE ARROWHEAD|;1F80B DOWNWARDS ARROW WITH LARGE TRIANGLE ARROWHEAD|;
1F810 LEFTWARDS ARROW WITH SMALL EQUILATERAL ARROWHEAD|;1F811 UPWARDS ARROW WITH SMALL EQUILATERAL ARROWHEAD|;
1F812 RIGHTWARDS ARROW WITH SMALL EQUILATERAL ARROWHEAD|;
1F813 DOWNWARDS ARROW WITH SMALL EQUILATERAL ARROWHEAD|;1F814 LEFTWARDS ARROW WITH EQUILATERAL ARROWHEAD|;
1F815 UPWARDS ARROW WITH EQUILATERAL ARROWHEAD|;1F816 RIGHTWARDS ARROW WITH EQUILATERAL ARROWHEAD|;
1F817 DOWNWARDS ARROW WITH EQUILATERAL ARROWHEAD|;1F818 HEAVY |LEFTWARDS ARROW WITH EQUILATERAL ARROWHEAD|
UPWARDS ARROW WITH EQUILATERAL ARROWHEAD|RIGHTWARDS ARROW WITH EQUILATERAL ARROWHEAD|
DOWNWARDS ARROW WITH EQUILATERAL ARROWHEAD|LEFTWARDS ARROW WITH LARGE EQUILATERAL ARROWHEAD|
UPWARDS ARROW WITH LARGE EQUILATERAL ARROWHEAD|RIGHTWARDS ARROW WITH LARGE EQUILATERAL ARROWHEAD|
DOWNWARDS ARROW WITH LARGE EQUILATERAL ARROWHEAD;1F820 LEFTWARDS TRIANGLE-HEADED ARROW WITH NARROW SHAFT|;
1F821 UPWARDS TRIANGLE-HEADED ARROW WITH NARROW SHAFT|;
1F822 RIGHTWARDS TRIANGLE-HEADED ARROW WITH NARROW SHAFT|;
1F823 DOWNWARDS TRIANGLE-HEADED ARROW WITH NARROW SHAFT|;
1F824 LEFTWARDS TRIANGLE-HEADED ARROW WITH MEDIUM SHAFT|;
1F825 UPWARDS TRIANGLE-HEADED ARROW WITH MEDIUM SHAFT|;
1F826 RIGHTWARDS TRIANGLE-HEADED ARROW WITH MEDIUM SHAFT|;
1F827 DOWNWARDS TRIANGLE-HEADED ARROW WITH MEDIUM SHAFT|;
1F828 LEFTWARDS TRIANGLE-HEADED ARROW WITH BOLD SHAFT|;1F829 UPWARDS TRIANGLE-HEADED ARROW WITH BOLD SHAFT|;
1F82A RIGHTWARDS TRIANGLE-HEADED ARROW WITH BOLD SHAFT|;
1F82B DOWNWARDS TRIANGLE-HEADED ARROW WITH BOLD SHAFT|;
1F82C LEFTWARDS TRIANGLE-HEADED ARROW WITH HEAVY SHAFT|;1F82D UPWARDS TRIANGLE-HEADED ARROW WITH HEAVY SHAFT|;
1F82E RIGHTWARDS TRIANGLE-HEADED ARROW WITH HEAVY SHAFT|;
1F82F DOWNWARDS TRIANGLE-HEADED ARROW WITH HEAVY SHAFT|;
1F830 LEFTWARDS TRIANGLE-HEADED ARROW WITH VERY HEAVY SHAFT|;
1F831 UPWARDS TRIANGLE-HEADED ARROW WITH VERY HEAVY SHAFT|;
1F832 RIGHTWARDS TRIANGLE-HEADED ARROW WITH VERY HEAVY SHAFT|;
1F833 DOWNWARDS TRIANGLE-HEADED ARROW WITH VERY HEAVY SHAFT|;1F834 LEFTWARDS FINGER-POST ARROW|;
1F835 UPWARDS FINGER-POST ARROW|;1F836 RIGHTWARDS FINGER-POST ARROW|;1F837 DOWNWARDS FINGER-POST ARROW|;
1F838 LEFTWARDS SQUARED ARROW|;1F839 UPWARDS SQUARED ARROW|;1F83A RIGHTWARDS SQUARED ARROW|;
1F83B DOWNWARDS SQUARED ARROW|;1F83C LEFTWARDS COMPRESSED ARROW|;1F83D UPWARDS COMPRESSED ARROW|;
1F83E RIGHTWARDS COMPRESSED ARROW|;1F83F DOWNWARDS COMPRESSED ARROW|;1F840 LEFTWARDS HEAVY COMPRESSED ARROW|;
1F841 UPWARDS HEAVY COMPRESSED ARROW|;1F842 RIGHTWARDS HEAVY COMPRESSED ARROW|;
1F843 DOWNWARDS HEAVY COMPRESSED ARROW|;1F844 LEFTWARDS HEAVY ARROW|;1F845 UPWARDS HEAVY ARROW|;
1F846 RIGHTWARDS HEAVY ARROW|;1F847 DOWNWARDS HEAVY ARROW|;1F850 LEFTWARDS SANS-SERIF ARROW|;
1F851 UPWARDS SANS-SERIF ARROW|;1F852 RIGHTWARDS SANS-SERIF ARROW|;1F853 DOWNWARDS SANS-SERIF ARROW|;
1F854 NORTH |WEST SANS-SERIF ARROW|EAST SANS-SERIF ARROW;1F856 SOUTH |EAST SANS-SERIF ARROW|
WEST SANS-SERIF ARROW;1F858 LEFT RIGHT SANS-SERIF ARROW|;1F859 UP DOWN SANS-SERIF ARROW|;
1F860 WIDE-HEADED |LEFTWARDS LIGHT BARB ARROW|UPWARDS LIGHT BARB ARROW|RIGHTWARDS LIGHT BARB ARROW|
DOWNWARDS LIGHT BARB ARROW|NORTH WEST LIGHT BARB ARROW|NORTH EAST LIGHT BARB ARROW|
SOUTH EAST LIGHT BARB ARROW|SOUTH WEST LIGHT BARB ARROW|LEFTWARDS BARB ARROW|UPWARDS BARB ARROW|
RIGHTWARDS BARB ARROW|DOWNWARDS BARB ARROW|NORTH WEST BARB ARROW|NORTH EAST BARB ARROW|SOUTH EAST BARB ARROW|
SOUTH WEST BARB ARROW|LEFTWARDS MEDIUM BARB ARROW|UPWARDS MEDIUM BARB ARROW|RIGHTWARDS MEDIUM BARB ARROW|
DOWNWARDS MEDIUM BARB ARROW|NORTH WEST MEDIUM BARB ARROW|NORTH EAST MEDIUM BARB ARROW|
SOUTH EAST MEDIUM BARB ARROW|SOUTH WEST MEDIUM BARB ARROW|LEFTWARDS HEAVY BARB ARROW|UPWARDS HEAVY BARB ARROW|
RIGHTWARDS HEAVY BARB ARROW|DOWNWARDS HEAVY BARB ARROW|NORTH WEST HEAVY BARB ARROW|
NORTH EAST HEAVY BARB ARROW|SOUTH EAST HEAVY BARB ARROW|SOUTH WEST HEAVY BARB ARROW|
LEFTWARDS VERY HEAVY BARB ARROW|UPWARDS VERY HEAVY BARB ARROW|RIGHTWARDS VERY HEAVY BARB ARROW|
DOWNWARDS VERY HEAVY BARB ARROW|NORTH WEST VERY HEAVY BARB ARROW|NORTH EAST VERY HEAVY BARB ARROW|
SOUTH EAST VERY HEAVY BARB ARROW|SOUTH WEST VERY HEAVY BARB ARROW;1F890 LEFTWARDS TRIANGLE ARROWHEAD|;
1F891 UPWARDS TRIANGLE ARROWHEAD|;1F892 RIGHTWARDS TRIANGLE ARROWHEAD|;1F893 DOWNWARDS TRIANGLE ARROWHEAD|;
1F894 LEFTWARDS WHITE ARROW WITHIN TRIANGLE ARROWHEAD|;1F895 UPWARDS WHITE ARROW WITHIN TRIANGLE ARROWHEAD|;
1F896 RIGHTWARDS WHITE ARROW WITHIN TRIANGLE ARROWHEAD|;
1F897 DOWNWARDS WHITE ARROW WITHIN TRIANGLE ARROWHEAD|;1F898 LEFTWARDS ARROW WITH NOTCHED TAIL|;
1F899 UPWARDS ARROW WITH NOTCHED TAIL|;1F89A RIGHTWARDS ARROW WITH NOTCHED TAIL|;
1F89B DOWNWARDS ARROW WITH NOTCHED TAIL|;1F89C HEAVY ARROW SHAFT WIDTH |ONE|TWO THIRDS|ONE HALF|ONE THIRD;
1F8A0 LEFTWARDS BOTTOM-SHADED WHITE ARROW|;1F8A1 RIGHTWARDS BOTTOM SHADED WHITE ARROW|;
1F8A2 LEFTWARDS TOP SHADED WHITE ARROW|;1F8A3 RIGHTWARDS TOP SHADED WHITE ARROW|;
1F8A4 LEFTWARDS LEFT-SHADED WHITE ARROW|;1F8A5 RIGHTWARDS RIGHT-SHADED WHITE ARROW|;
1F8A6 LEFTWARDS RIGHT-SHADED WHITE ARROW|;1F8A7 RIGHTWARDS LEFT-SHADED WHITE ARROW|;
1F8A8 LEFTWARDS BACK-TILTED SHADOWED WHITE ARROW|;1F8A9 RIGHTWARDS BACK-TILTED SHADOWED WHITE ARROW|;
1F8AA LEFTWARDS FRONT-TILTED SHADOWED WHITE ARROW|;1F8AB RIGHTWARDS FRONT-TILTED SHADOWED WHITE ARROW|;
1F8AC WHITE ARROW SHAFT WIDTH |ONE|TWO THIRDS;1F8B0 ARROW POINTING |UPWARDS THEN NORTH WEST|
RIGHTWARDS THEN CURVING SOUTH WEST;1F900 CIRCLED CROSS |FORMEE WITH FOUR DOTS|FORMEE WITH TWO DOTS|FORMEE;
1F903 LEFT HALF CIRCLE WITH |FOUR DOTS|THREE DOTS|TWO DOTS|DOT;1F907 LEFT HALF CIRCLE|;
1F908 DOWNWARD FACING |HOOK|NOTCHED HOOK|HOOK WITH DOT|NOTCHED HOOK WITH DOT;1F90C PINCHED FINGERS|;
1F90D WHITE HEART|;1F90E BROWN HEART|;1F90F PINCHING HAND|;1F910 ZIPPER-MOUTH FACE|;1F911 MONEY-MOUTH FACE|;
1F912 FACE WITH THERMOMETER|;1F913 NERD FACE|;1F914 THINKING FACE|;1F915 FACE WITH HEAD-BANDAGE|;
1F916 ROBOT FACE|;1F917 HUGGING FACE|;1F918 SIGN OF THE HORNS|;1F919 CALL ME HAND|;1F91A RAISED BACK OF HAND|;
1F91B LEFT-FACING FIST|;1F91C RIGHT-FACING FIST|;1F91D HANDSHAKE|;
1F91E HAND WITH INDEX AND MIDDLE FINGERS CROSSED|;1F91F I LOVE YOU HAND SIGN|;1F920 FACE WITH COWBOY HAT|;
1F921 CLOWN FACE|;1F922 NAUSEATED FACE|;1F923 ROLLING ON THE FLOOR LAUGHING|;1F924 DROOLING FACE|;
1F925 LYING FACE|;1F926 FACE PALM|;1F927 SNEEZING FACE|;1F928 FACE WITH ONE EYEBROW RAISED|;
1F929 GRINNING FACE WITH |STAR EYES|ONE LARGE AND ONE SMALL EYE;1F92B FACE WITH FINGER COVERING CLOSED LIPS|;
1F92C SERIOUS FACE WITH SYMBOLS COVERING MOUTH|;1F92D SMILING FACE WITH SMILING EYES AND HAND COVERING MOUTH|;
1F92E FACE WITH OPEN MOUTH VOMITING|;1F92F SHOCKED FACE WITH EXPLODING HEAD|;1F930 PREGNANT WOMAN|;
1F931 BREAST-FEEDING|;1F932 PALMS UP TOGETHER|;1F933 SELFIE|;1F934 PRINCE|;1F935 MAN IN TUXEDO|;
1F936 MOTHER CHRISTMAS|;1F937 SHRUG|;1F938 PERSON DOING CARTWHEEL|;1F939 JUGGLING|;1F93A FENCER|;
1F93B MODERN PENTATHLON|;1F93C WRESTLERS|;1F93D WATER POLO|;1F93E HANDBALL|;1F93F DIVING MASK|;
1F940 WILTED FLOWER|;1F941 DRUM WITH DRUMSTICKS|;1F942 CLINKING GLASSES|;1F943 TUMBLER GLASS|;1F944 SPOON|;
1F945 GOAL NET|;1F946 RIFLE|;1F947 FIRST PLACE MEDAL|;1F948 SECOND PLACE MEDAL|;1F949 THIRD PLACE MEDAL|;
1F94A BOXING GLOVE|;1F94B MARTIAL ARTS UNIFORM|;1F94C CURLING STONE|;1F94D LACROSSE STICK AND BALL|;
1F94E SOFTBALL|;1F94F FLYING DISC|;1F950 CROISSANT|;1F951 AVOCADO|;1F952 CUCUMBER|;1F953 BACON|;1F954 POTATO|;
1F955 CARROT|;1F956 BAGUETTE BREAD|;1F957 GREEN SALAD|;1F958 SHALLOW PAN OF FOOD|;1F959 STUFFED FLATBREAD|;
1F95A EGG|;1F95B GLASS OF MILK|;1F95C PEANUTS|;1F95D KIWIFRUIT|;1F95E PANCAKES|;1F95F DUMPLING|;
1F960 FORTUNE COOKIE|;1F961 TAKEOUT BOX|;1F962 CHOPSTICKS|;1F963 BOWL WITH SPOON|;1F964 CUP WITH STRAW|;
1F965 COCONUT|;1F966 BROCCOLI|;1F967 PIE|;1F968 PRETZEL|;1F969 CUT OF MEAT|;1F96A SANDWICH|;
1F96B CANNED FOOD|;1F96C LEAFY GREEN|;1F96D MANGO|;1F96E MOON CAKE|;1F96F BAGEL|;
1F970 SMILING FACE WITH SMILING EYES AND THREE HEARTS|;1F971 YAWNING FACE|;1F972 SMILING FACE WITH TEAR|;
1F973 FACE WITH |PARTY HORN AND PARTY HAT|UNEVEN EYES AND WAVY MOUTH;1F975 OVERHEATED FACE|;
1F976 FREEZING FACE|;1F977 NINJA|;1F978 DISGUISED FACE|;1F979 FACE |HOLDING BACK TEARS|WITH PLEADING EYES;
1F97B SARI|;1F97C LAB COAT|;1F97D GOGGLES|;1F97E HIKING BOOT|;1F97F FLAT SHOE|;1F980 CRAB|;1F981 LION FACE|;
1F982 SCORPION|;1F983 TURKEY|;1F984 UNICORN FACE|;1F985 EAGLE|;1F986 DUCK|;1F987 BAT|;1F988 SHARK|;1F989 OWL|;
1F98A FOX FACE|;1F98B BUTTERFLY|;1F98C DEER|;1F98D GORILLA|;1F98E LIZARD|;1F98F RHINOCEROS|;1F990 SHRIMP|;
1F991 SQUID|;1F992 GIRAFFE FACE|;1F993 ZEBRA FACE|;1F994 HEDGEHOG|;1F995 SAUROPOD|;1F996 T-REX|;
1F997 CRICKET|;1F998 KANGAROO|;1F999 LLAMA|;1F99A PEACOCK|;1F99B HIPPOPOTAMUS|;1F99C PARROT|;1F99D RACCOON|;
1F99E LOBSTER|;1F99F MOSQUITO|;1F9A0 MICROBE|;1F9A1 BADGER|;1F9A2 SWAN|;1F9A3 MAMMOTH|;1F9A4 DODO|;
1F9A5 SLOTH|;1F9A6 OTTER|;1F9A7 ORANGUTAN|;1F9A8 SKUNK|;1F9A9 FLAMINGO|;1F9AA OYSTER|;1F9AB BEAVER|;
1F9AC BISON|;1F9AD SEAL|;1F9AE GUIDE DOG|;1F9AF PROBING CANE|;1F9B0 EMOJI COMPONENT |RED HAIR|CURLY HAIR|BALD|
WHITE HAIR;1F9B4 BONE|;1F9B5 LEG|;1F9B6 FOOT|;1F9B7 TOOTH|;1F9B8 SUPERHERO|;1F9B9 SUPERVILLAIN|;
1F9BA SAFETY VEST|;1F9BB EAR WITH HEARING AID|;1F9BC MOTORIZED WHEELCHAIR|;1F9BD MANUAL WHEELCHAIR|;
1F9BE MECHANICAL |ARM|LEG;1F9C0 CHEESE WEDGE|;1F9C1 CUPCAKE|;1F9C2 SALT SHAKER|;1F9C3 BEVERAGE BOX|;
1F9C4 GARLIC|;1F9C5 ONION|;1F9C6 FALAFEL|;1F9C7 WAFFLE|;1F9C8 BUTTER|;1F9C9 MATE DRINK|;1F9CA ICE CUBE|;
1F9CB BUBBLE TEA|;1F9CC TROLL|;1F9CD STANDING PERSON|;1F9CE KNEELING PERSON|;1F9CF DEAF PERSON|;
1F9D0 FACE WITH MONOCLE|;1F9D1 ADULT|;1F9D2 CHILD|;1F9D3 OLDER ADULT|;1F9D4 BEARDED PERSON|;
1F9D5 PERSON |WITH HEADSCARF|IN STEAMY ROOM|CLIMBING|IN LOTUS POSITION;1F9D9 MAGE|;1F9DA FAIRY|;
1F9DB VAMPIRE|;1F9DC MERPERSON|;1F9DD ELF|;1F9DE GENIE|;1F9DF ZOMBIE|;1F9E0 BRAIN|;1F9E1 ORANGE HEART|;
1F9E2 BILLED CAP|;1F9E3 SCARF|;1F9E4 GLOVES|;1F9E5 COAT|;1F9E6 SOCKS|;1F9E7 RED GIFT ENVELOPE|;
1F9E8 FIRECRACKER|;1F9E9 JIGSAW PUZZLE PIECE|;1F9EA TEST TUBE|;1F9EB PETRI DISH|;1F9EC DNA DOUBLE HELIX|;
1F9ED COMPASS|;1F9EE ABACUS|;1F9EF FIRE EXTINGUISHER|;1F9F0 TOOLBOX|;1F9F1 BRICK|;1F9F2 MAGNET|;
1F9F3 LUGGAGE|;1F9F4 LOTION BOTTLE|;1F9F5 SPOOL OF THREAD|;1F9F6 BALL OF YARN|;1F9F7 SAFETY PIN|;
1F9F8 TEDDY BEAR|;1F9F9 BROOM|;1F9FA BASKET|;1F9FB ROLL OF PAPER|;1F9FC BAR OF SOAP|;1F9FD SPONGE|;
1F9FE RECEIPT|;1F9FF NAZAR AMULET|;1FA00 NEUTRAL CHESS |KING|QUEEN|ROOK|BISHOP|KNIGHT|PAWN;
1FA06 WHITE CHESS KNIGHT ROTATED FORTY-FIVE DEGREES|;1FA07 BLACK CHESS KNIGHT ROTATED FORTY-FIVE DEGREES|;
1FA08 NEUTRAL CHESS KNIGHT ROTATED FORTY-FIVE DEGREES|;1FA09 WHITE CHESS |KING ROTATED NINETY DEGREES|
QUEEN ROTATED NINETY DEGREES|ROOK ROTATED NINETY DEGREES|BISHOP ROTATED NINETY DEGREES|
KNIGHT ROTATED NINETY DEGREES|PAWN ROTATED NINETY DEGREES;1FA0F BLACK CHESS |KING ROTATED NINETY DEGREES|
QUEEN ROTATED NINETY DEGREES|ROOK ROTATED NINETY DEGREES|BISHOP ROTATED NINETY DEGREES|
KNIGHT ROTATED NINETY DEGREES|PAWN ROTATED NINETY DEGREES;1FA15 NEUTRAL CHESS |KING ROTATED NINETY DEGREES|
QUEEN ROTATED NINETY DEGREES|ROOK ROTATED NINETY DEGREES|BISHOP ROTATED NINETY DEGREES|
KNIGHT ROTATED NINETY DEGREES|PAWN ROTATED NINETY DEGREES;
1FA1B WHITE CHESS KNIGHT ROTATED ONE HUNDRED THIRTY-FIVE DEGREES|;
1FA1C BLACK CHESS KNIGHT ROTATED ONE HUNDRED THIRTY-FIVE DEGREES|;
1FA1D NEUTRAL CHESS KNIGHT ROTATED ONE HUNDRED THIRTY-FIVE DEGREES|;1FA1E WHITE CHESS TURNED |KING|QUEEN|ROOK|
BISHOP|KNIGHT|PAWN;1FA24 BLACK CHESS TURNED |KING|QUEEN|ROOK|BISHOP|KNIGHT|PAWN;
1FA2A NEUTRAL CHESS TURNED |KING|QUEEN|ROOK|BISHOP|KNIGHT|PAWN;
1FA30 WHITE CHESS KNIGHT ROTATED TWO HUNDRED TWENTY-FIVE DEGREES|;
1FA31 BLACK CHESS KNIGHT ROTATED TWO HUNDRED TWENTY-FIVE DEGREES|;
1FA32 NEUTRAL CHESS KNIGHT ROTATED TWO HUNDRED TWENTY-FIVE DEGREES|;
1FA33 WHITE CHESS |KING ROTATED TWO HUNDRED SEVENTY DEGREES|QUEEN ROTATED TWO HUNDRED SEVENTY DEGREES|
ROOK ROTATED TWO HUNDRED SEVENTY DEGREES|BISHOP ROTATED TWO HUNDRED SEVENTY DEGREES|
KNIGHT ROTATED TWO HUNDRED SEVENTY DEGREES|PAWN ROTATED TWO HUNDRED SEVENTY DEGREES;
1FA39 BLACK CHESS |KING ROTATED TWO HUNDRED SEVENTY DEGREES|QUEEN ROTATED TWO HUNDRED SEVENTY DEGREES|
ROOK ROTATED TWO HUNDRED SEVENTY DEGREES|BISHOP ROTATED TWO HUNDRED SEVENTY DEGREES|
KNIGHT ROTATED TWO HUNDRED SEVENTY DEGREES|PAWN ROTATED TWO HUNDRED SEVENTY DEGREES;
1FA3F NEUTRAL CHESS |KING ROTATED TWO HUNDRED SEVENTY DEGREES|QUEEN ROTATED TWO HUNDRED SEVENTY DEGREES|
ROOK ROTATED TWO HUNDRED SEVENTY DEGREES|BISHOP ROTATED TWO HUNDRED SEVENTY DEGREES|
KNIGHT ROTATED TWO HUNDRED SEVENTY DEGREES|PAWN ROTATED TWO HUNDRED SEVENTY DEGREES;
1FA45 WHITE CHESS KNIGHT ROTATED THREE HUNDRED FIFTEEN DEGREES|;
1FA46 BLACK CHESS KNIGHT ROTATED THREE HUNDRED FIFTEEN DEGREES|;
1FA47 NEUTRAL CHESS KNIGHT ROTATED THREE HUNDRED FIFTEEN DEGREES|;1FA48 WHITE CHESS EQUIHOPPER|;
1FA49 BLACK CHESS EQUIHOPPER|;1FA4A NEUTRAL CHESS EQUIHOPPER|;
1FA4B WHITE CHESS EQUIHOPPER ROTATED NINETY DEGREES|;1FA4C BLACK CHESS EQUIHOPPER ROTATED NINETY DEGREES|;
1FA4D NEUTRAL CHESS EQUIHOPPER ROTATED NINETY DEGREES|;1FA4E WHITE CHESS KNIGHT-|QUEEN|ROOK|BISHOP;
1FA51 BLACK CHESS KNIGHT-|QUEEN|ROOK|BISHOP;1FA60 XIANGQI RED |GENERAL|MANDARIN|ELEPHANT|HORSE|CHARIOT|CANNON|
SOLDIER;1FA67 XIANGQI BLACK |GENERAL|MANDARIN|ELEPHANT|HORSE|CHARIOT|CANNON|SOLDIER;1FA70 BALLET SHOES|;
1FA71 ONE-PIECE SWIMSUIT|;1FA72 BRIEFS|;1FA73 SHORTS|;1FA74 THONG SANDAL|;1FA78 DROP OF BLOOD|;
1FA79 ADHESIVE BANDAGE|;1FA7A STETHOSCOPE|;1FA7B X-RAY|;1FA7C CRUTCH|;1FA80 YO-YO|;1FA81 KITE|;
1FA82 PARACHUTE|"

/-- Names of the characters 1FA83 to E01EF. -/
def from1FA83 : String := "
1FA83 BOOMERANG|;1FA84 MAGIC WAND|;1FA85 PINATA|;1FA86 NESTING DOLLS|;1FA90 RINGED PLANET|;1FA91 CHAIR|;
1FA92 RAZOR|;1FA93 AXE|;1FA94 DIYA LAMP|;1FA95 BANJO|;1FA96 MILITARY HELMET|;1FA97 ACCORDION|;
1FA98 LONG DRUM|;1FA99 COIN|;1FA9A CARPENTRY SAW|;1FA9B SCREWDRIVER|;1FA9C LADDER|;1FA9D HOOK|;1FA9E MIRROR|;
1FA9F WINDOW|;1FAA0 PLUNGER|;1FAA1 SEWING NEEDLE|;1FAA2 KNOT|;1FAA3 BUCKET|;1FAA4 MOUSE TRAP|;
1FAA5 TOOTHBRUSH|;1FAA6 HEADSTONE|;1FAA7 PLACARD|;1FAA8 ROCK|;1FAA9 MIRROR BALL|;1FAAA IDENTIFICATION CARD|;
1FAAB LOW BATTERY|;1FAAC HAMSA|;1FAB0 FLY|;1FAB1 WORM|;1FAB2 BEETLE|;1FAB3 COCKROACH|;1FAB4 POTTED PLANT|;
1FAB5 WOOD|;1FAB6 FEATHER|;1FAB7 LOTUS|;1FAB8 CORAL|;1FAB9 EMPTY NEST|;1FABA NEST WITH EGGS|;
1FAC0 ANATOMICAL HEART|;1FAC1 LUNGS|;1FAC2 PEOPLE HUGGING|;1FAC3 PREGNANT |MAN|PERSON;
1FAC5 PERSON WITH CROWN|;1FAD0 BLUEBERRIES|;1FAD1 BELL PEPPER|;1FAD2 OLIVE|;1FAD3 FLATBREAD|;1FAD4 TAMALE|;
1FAD5 FONDUE|;1FAD6 TEAPOT|;1FAD7 POURING LIQUID|;1FAD8 BEANS|;1FAD9 JAR|;1FAE0 MELTING FACE|;
1FAE1 SALUTING FACE|;1FAE2 FACE WITH |OPEN EYES AND HAND OVER MOUTH|PEEKING EYE|DIAGONAL MOUTH;
1FAE5 DOTTED LINE FACE|;1FAE6 BITING LIP|;1FAE7 BUBBLES|;1FAF0 HAND WITH INDEX FINGER AND THUMB CROSSED|;
1FAF1 RIGHTWARDS HAND|;1FAF2 LEFTWARDS HAND|;1FAF3 PALM |DOWN HAND|UP HAND;
1FAF5 INDEX POINTING AT THE VIEWER|;1FAF6 HEART HANDS|;1FB00 BLOCK SEXTANT-|1|2|12|3|13|23|123|4|14|24|124|34|
134|234|1234|5|15|25|125|35|235|1235|45|145|245|1245|345|1345|2345|12345|6|16|26|126|36|136|236|1236|46|146|
1246|346|1346|2346|12346|56|156|256|1256|356|1356|2356|12356|456|1456|2456|12456|3456|13456|23456;
1FB3C LOWER LEFT BLOCK DIAGONAL LOWER MIDDLE LEFT TO LOWER |CENTRE|RIGHT;
1FB3E LOWER LEFT BLOCK DIAGONAL UPPER |MIDDLE LEFT TO LOWER CENTRE|MIDDLE LEFT TO LOWER RIGHT|
LEFT TO LOWER CENTRE;1FB41 LOWER RIGHT BLOCK DIAGONAL UPPER MIDDLE LEFT TO UPPER |CENTRE|RIGHT;
1FB43 LOWER RIGHT BLOCK DIAGONAL LOWER |MIDDLE LEFT TO UPPER CENTRE|MIDDLE LEFT TO UPPER RIGHT|
LEFT TO UPPER CENTRE|MIDDLE LEFT TO UPPER MIDDLE RIGHT|CENTRE TO LOWER MIDDLE RIGHT|
LEFT TO LOWER MIDDLE RIGHT|CENTRE TO UPPER MIDDLE RIGHT|LEFT TO UPPER MIDDLE RIGHT|CENTRE TO UPPER RIGHT;
1FB4C LOWER LEFT BLOCK DIAGONAL UPPER |CENTRE TO UPPER MIDDLE RIGHT|LEFT TO UPPER MIDDLE RIGHT|
CENTRE TO LOWER MIDDLE RIGHT|LEFT TO LOWER MIDDLE RIGHT|CENTRE TO LOWER RIGHT|
MIDDLE LEFT TO LOWER MIDDLE RIGHT;1FB52 UPPER RIGHT BLOCK DIAGONAL LOWER MIDDLE LEFT TO LOWER |CENTRE|RIGHT;
1FB54 UPPER RIGHT BLOCK DIAGONAL UPPER |MIDDLE LEFT TO LOWER CENTRE|MIDDLE LEFT TO LOWER RIGHT|
LEFT TO LOWER CENTRE;1FB57 UPPER LEFT BLOCK DIAGONAL UPPER MIDDLE LEFT TO UPPER |CENTRE|RIGHT;
1FB59 UPPER LEFT BLOCK DIAGONAL LOWER |MIDDLE LEFT TO UPPER CENTRE|MIDDLE LEFT TO UPPER RIGHT|
LEFT TO UPPER CENTRE|MIDDLE LEFT TO UPPER MIDDLE RIGHT|CENTRE TO LOWER MIDDLE RIGHT|
LEFT TO LOWER MIDDLE RIGHT|CENTRE TO UPPER MIDDLE RIGHT|LEFT TO UPPER MIDDLE RIGHT|CENTRE TO UPPER RIGHT;
1FB62 UPPER RIGHT BLOCK DIAGONAL UPPER |CENTRE TO UPPER MIDDLE RIGHT|LEFT TO UPPER MIDDLE RIGHT|
CENTRE TO LOWER MIDDLE RIGHT|LEFT TO LOWER MIDDLE RIGHT|CENTRE TO LOWER RIGHT|
MIDDLE LEFT TO LOWER MIDDLE RIGHT;1FB68 UPPER AND RIGHT AND LOWER TRIANGULAR THREE QUARTERS BLOCK|;
1FB69 LEFT AND LOWER AND RIGHT TRIANGULAR THREE QUARTERS BLOCK|;
1FB6A UPPER AND LEFT AND LOWER TRIANGULAR THREE QUARTERS BLOCK|;
1FB6B LEFT |AND UPPER AND RIGHT TRIANGULAR THREE QUARTERS BLOCK|TRIANGULAR ONE QUARTER BLOCK;
1FB6D UPPER TRIANGULAR ONE QUARTER BLOCK|;1FB6E RIGHT TRIANGULAR ONE QUARTER BLOCK|;
1FB6F LOWER TRIANGULAR ONE QUARTER BLOCK|;1FB70 VERTICAL ONE EIGHTH BLOCK-|2|3|4|5|6|7;
1FB76 HORIZONTAL ONE EIGHTH BLOCK-|2|3|4|5|6|7;1FB7C LEFT AND |LOWER ONE EIGHTH BLOCK|UPPER ONE EIGHTH BLOCK;
1FB7E RIGHT AND |UPPER ONE EIGHTH BLOCK|LOWER ONE EIGHTH BLOCK;1FB80 UPPER AND LOWER ONE EIGHTH BLOCK|;
1FB81 HORIZONTAL ONE EIGHTH BLOCK-1358|;1FB82 UPPER |ONE QUARTER BLOCK|THREE EIGHTHS BLOCK|FIVE EIGHTHS BLOCK|
THREE QUARTERS BLOCK|SEVEN EIGHTHS BLOCK;1FB87 RIGHT |ONE QUARTER BLOCK|THREE EIGHTHS BLOCK|
FIVE EIGHTHS BLOCK|THREE QUARTERS BLOCK|SEVEN EIGHTHS BLOCK;1FB8C LEFT HALF MEDIUM SHADE|;
1FB8D RIGHT HALF MEDIUM SHADE|;1FB8E UPPER HALF MEDIUM SHADE|;1FB8F LOWER HALF MEDIUM SHADE|;
1FB90 INVERSE MEDIUM SHADE|;1FB91 UPPER HALF |BLOCK AND LOWER HALF INVERSE MEDIUM SHADE|
INVERSE MEDIUM SHADE AND LOWER HALF BLOCK;1FB94 LEFT HALF INVERSE MEDIUM SHADE AND RIGHT HALF BLOCK|;
1FB95 CHECKER BOARD FILL|;1FB96 INVERSE CHECKER BOARD FILL|;1FB97 HEAVY HORIZONTAL FILL|;
1FB98 UPPER |LEFT TO LOWER RIGHT FILL|RIGHT TO LOWER LEFT FILL|AND LOWER TRIANGULAR HALF BLOCK;
1FB9B LEFT AND RIGHT TRIANGULAR HALF BLOCK|;1FB9C UPPER |LEFT TRIANGULAR MEDIUM SHADE|
RIGHT TRIANGULAR MEDIUM SHADE;1FB9E LOWER |RIGHT TRIANGULAR MEDIUM SHADE|LEFT TRIANGULAR MEDIUM SHADE;
1FBA0 BOX DRAWINGS LIGHT DIAGONAL |UPPER CENTRE TO MIDDLE LEFT|UPPER CENTRE TO MIDDLE RIGHT|
MIDDLE LEFT TO LOWER CENTRE|MIDDLE RIGHT TO LOWER CENTRE|UPPER CENTRE TO MIDDLE LEFT TO LOWER CENTRE|
UPPER CENTRE TO MIDDLE RIGHT TO LOWER CENTRE|MIDDLE LEFT TO LOWER CENTRE TO MIDDLE RIGHT|
MIDDLE LEFT TO UPPER CENTRE TO MIDDLE RIGHT;
1FBA8 BOX DRAWINGS LIGHT DIAGONAL UPPER CENTRE TO MIDDLE |LEFT AND MIDDLE RIGHT TO LOWER CENTRE|
RIGHT AND MIDDLE LEFT TO LOWER CENTRE|RIGHT TO LOWER CENTRE TO MIDDLE LEFT|
LEFT TO LOWER CENTRE TO MIDDLE RIGHT;
1FBAC BOX DRAWINGS LIGHT |DIAGONAL MIDDLE LEFT TO UPPER CENTRE TO MIDDLE RIGHT TO LOWER CENTRE|
DIAGONAL MIDDLE RIGHT TO UPPER CENTRE TO MIDDLE LEFT TO LOWER CENTRE|DIAGONAL DIAMOND|
HORIZONTAL WITH VERTICAL STROKE;1FBB0 ARROWHEAD-SHAPED POINTER|;1FBB1 INVERSE CHECK MARK|;
1FBB2 LEFT HALF RUNNING MAN|;1FBB3 RIGHT HALF RUNNING MAN|;1FBB4 INVERSE DOWNWARDS ARROW WITH TIP LEFTWARDS|;
1FBB5 LEFTWARDS ARROW AND UPPER AND LOWER ONE EIGHTH BLOCK|;
1FBB6 RIGHTWARDS ARROW AND UPPER AND LOWER ONE EIGHTH BLOCK|;
1FBB7 DOWNWARDS ARROW AND RIGHT ONE EIGHTH BLOCK|;1FBB8 UPWARDS ARROW AND RIGHT ONE EIGHTH BLOCK|;
1FBB9 LEFT HALF FOLDER|;1FBBA RIGHT HALF FOLDER|;1FBBB VOIDED GREEK CROSS|;1FBBC RIGHT OPEN SQUARED DOT|;
1FBBD NEGATIVE DIAGONAL |CROSS|MIDDLE RIGHT TO LOWER CENTRE|DIAMOND;
1FBC0 WHITE HEAVY SALTIRE WITH ROUNDED CORNERS|;1FBC1 LEFT THIRD WHITE RIGHT POINTING INDEX|;
1FBC2 MIDDLE THIRD WHITE RIGHT POINTING INDEX|;1FBC3 RIGHT THIRD WHITE RIGHT POINTING INDEX|;
1FBC4 NEGATIVE SQUARED QUESTION MARK|;1FBC5 STICK FIGURE|;1FBC6 STICK FIGURE |WITH ARMS RAISED|LEANING LEFT|
LEANING RIGHT|WITH DRESS;1FBCA WHITE UP-POINTING CHEVRON|;1FBF0 SEGMENTED DIGIT |ZERO|ONE|TWO|THREE|FOUR|FIVE|
SIX|SEVEN|EIGHT|NINE;E0001 LANGUAGE TAG|;E0020 TAG |SPACE|EXCLAMATION MARK|QUOTATION MARK|NUMBER SIGN|
DOLLAR SIGN|PERCENT SIGN|AMPERSAND|APOSTROPHE|LEFT PARENTHESIS|RIGHT PARENTHESIS|ASTERISK|PLUS SIGN|COMMA|
HYPHEN-MINUS|FULL STOP|SOLIDUS;E0030 TAG DIGIT |ZERO|ONE|TWO|THREE|FOUR|FIVE|SIX|SEVEN|EIGHT|NINE;
E003A TAG |COLON|SEMICOLON|LESS-THAN SIGN|EQUALS SIGN|GREATER-THAN SIGN|QUESTION MARK|COMMERCIAL AT;
E0041 TAG LATIN CAPITAL LETTER |A|B|C|D|E|F|G|H|I|J|K|L|M|N|O|P|Q|R|S|T|U|V|W|X|Y|Z;
E005B TAG |LEFT SQUARE BRACKET|REVERSE SOLIDUS|RIGHT SQUARE BRACKET|CIRCUMFLEX ACCENT|LOW LINE|GRAVE ACCENT;
E0061 TAG LATIN SMALL LETTER |A|B|C|D|E|F|G|H|I|J|K|L|M|N|O|P|Q|R|S|T|U|V|W|X|Y|Z;
E007B TAG |LEFT CURLY BRACKET|VERTICAL LINE|RIGHT CURLY BRACKET|TILDE;E007F CANCEL TAG|;
E0100 VARIATION SELECTOR-|17|18|19|20|21|22|23|24|25|26|27|28|29|30|31|32|33|34|35|36|37|38|39|40|41|42|43|44|
45|46|47|48|49|50|51|52|53|54|55|56|57|58|59|60|61|62|63|64|65|66|67|68|69|70|71|72|73|74|75|76|77|78|79|80|
81|82|83|84|85|86|87|88|89|90|91|92|93|94|95|96|97|98|99|100|101|102|103|104|105|106|107|108|109|110|111|112|
113|114|115|116|117|118|119|120|121|122|123|124|125|126|127|128|129|130|131|132|133|134|135|136|137|138|139|
140|141|142|143|144|145|146|147|148|149|150|151|152|153|154|155|156|157|158|159|160|161|162|163|164|165|166|
167|168|169|170|171|172|173|174|175|176|177|178|179|180|181|182|183|184|185|186|187|188|189|190|191|192|193|
194|195|196|197|198|199|200|201|202|203|204|205|206|207|208|209|210|211|212|213|214|215|216|217|218|219|220|
221|222|223|224|225|226|227|228|229|230|231|232|233|234|235|236|237|238|239|240|241|242|243|244|245|246|247|
248|249|250|251|252|253|254|255|256"

end GameSource.CharNames
