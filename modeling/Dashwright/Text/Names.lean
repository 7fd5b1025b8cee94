import Dashwright.Text.Packed
import Dashwright.Text.Blank

/-!
Names of characters, as `\N` escapes of quoted texts name them.

The names kept are those of the printable ASCII characters, the Latin, Greek and Cyrillic
letters and their marks, punctuation, currency, letter-like and number forms, arrows,
mathematical and technical symbols, box drawing, shapes, dingbats, the CJK symbols and kana,
the half-width and full-width forms, and the symbols and pictographs past the basic plane;
besides them, the aliases of control and formatting characters. A unified ideograph is named
by its code in upper-case hexadecimal after `CJK UNIFIED IDEOGRAPH-`.

Names are stored as words: a vocabulary, the most frequent words first, and packed numbers
(see `Dashwright.Text.Packed`), for each named character in order of code point its distance
from the one before times sixteen plus its number of words, then the index of each word.
Letters of a name may be given in either case.
-/

namespace Dashwright.Text

/-- The words of character names, separated by blanks, the most frequent first. -/
def nameVocabulary : String := String.join [
    "LETTER WITH LATIN SMALL CAPITAL ARROW AND SYMBOL GREEK CYRILLIC LEFT BLACK RIGHT WHITE BRAILLE P",
    "ATTERN ABOVE HEAVY SIGN FOR CIRCLED DOUBLE OF RIGHTWARDS DOT FACE VERTICAL BELOW LEFTWARDS TO SQ",
    "UARED KATAKANA COMBINING BOX TILE SQUARE DRAWINGS LIGHT UP HALFWIDTH DOWN CIRCLE ALCHEMICAL HOOK",
    " STROKE EQUAL BRACKET BAR BARB O MARK FULLWIDTH DIGIT TRIANGLE A DOMINO DOWNWARDS UPWARDS CHESS ",
    "TWO U NEGATIVE HORIZONTAL E HIRAGANA CARD ACUTE OR DASIA PLAYING TILDE MODIFIER PSILI TRIANGLE-H",
    "EADED CIRCUMFLEX I DIAERESIS PARENTHESIZED APL FUNCTIONAL HALF POINTING MEDIUM ARROWHEAD HARPOON",
    " ONE EAST NORTH NOT TURNED GRAVE MACRON OXIA THREE VARIA LOWER ANGLE GREATER-THAN LESS-THAN LINE",
    " STAR ROTATED OPEN SOUTH OMEGA ALPHA HANGUL NUMERAL BREVE CJK FOUR NUMBER UNIFIED WEST DEGREES U",
    "PPER R LONG Z S ETA PERISPOMENI REVERSED CARON DIAMOND L N OPERATOR MAHJONG FIVE ASTERISK EIGHT ",
    "IN ORNAMENT D H SANS-SERIF WIDE-HEADED Y IOTA ROMAN X T TAIL COMMA CROSS DASH FORM SIX STOP YPOG",
    "EGRAMMENI C HUNDRED LARGE POINTED RING UPSILON G PLUS EQUALS DINGBAT INDICATOR LOW NEUTRAL TACK ",
    "TOP TRIPLE VERY FULL PARENTHESIS SHELL CORNER HAND K LOGICAL SUBSCRIPT ACCENT CEDILLA CURLY HORN",
    " INDEX INVERTED KNIGHT MIDDLE PROSGEGRAMMENI QUOTATION SINGLE SLANTED B CLOCK FROM HEART SEVEN W",
    " CLOSED DESCENDER REGIONAL SHAFT SUBSET SUPERSET TORTOISE INTEGRAL J M QUAD TONE UNDERBAR BOTTOM",
    " DIAGONAL EQUILATERAL NINE P QUADRANT SHORT SMILING EPSILON PRESENTATION V RIGHT-POINTING ANTICL",
    "OCKWISE FRACTION MINUS NINETY SOLIDUS ARC BLOCK LEAF MOON OMICRON OVER PERSON SCRIPT UNION DOTS ",
    "EYES F KA LEFT-POINTING TONOS TWO-HEADED VULGAR EN INTERSECTION KING RED REVERSE SEVENTY SPOKED ",
    "TEN ARROWS BOLD DIALYTIKA DOUBLE-STRUCK HEARTS IDEOGRAPHIC N-ARY Q SPACE SUPERSCRIPT TIP VARIATI",
    "ON CLOCKWISE KOMI MOUTH QUEEN SOUND UP-POINTING ZERO ALMOST DENTISTRY EQUIVALENT ON OVERLAY BULL",
    "ET CHE CLUBS COPTIC DIAMONDS GHE LIGATURE OGONEK SPADES XIANGQI BALLOT COLON CURVED DIGRAPH DOWN",
    "-POINTING ELEMENT EMPTY EXCLAMATION HA LOZENGE MATHEMATICAL MULTIPLICATION NOTATION OVERBAR PREC",
    "EDES PRODUCT QUESTION RAISED SHADOWED SUCCEEDS WAVE AT BALL BISHOP DASHED DOES END FLAG HANGZHOU",
    " MEASURED NO OCLOCK PAWN PRIME ROOK TELEPHONE THE BESIDE BY CAT CROSSING CURL DOTTED INSIDE MAN ",
    "OCR RIBBON SIGMA TWELVE BRACKETED CLOUD DOUBLE-LINE EL GLOTTAL IE LUNATE NOR NORMAL NOTCHED NOTE",
    " PAGE QUADRUPLE QUARTER RECYCLING SALTIRE SIMILAR SLASH TICK ZE ARM BAMBOOS BUBBLE BUT CENTRE CE",
    "NTRED CHARACTERS CIRCLES CONTAINING CONTAINS EIGHTHS EM EMOJI ENVELOPE IMAGE KEY MALE METRICAL N",
    "EITHER PARALLEL PI PINWHEEL RHO ROUNDED SEPARATOR SUIT SUN TE TIMES WIDTH YA YU ABKHASIAN AIRPLA",
    "NE AS BACK BACKHAND BUD CHECK COMPRESSED DELTA DIVISION ENDING EXTENSION EZH FILL FISH GREEN HAN",
    "DS JAPANESE LEG PAIRED PE RISING SCHWA SIDEWAYS SUBGROUP THEN THOUSAND THROUGH TRIGRAM TURNSTILE",
    " VINE VOICED WATER WIND YUS ZHE AE BACKSLASH BELL CAR DE DIE EARTH EIGHTH ELEVEN ENCLOSING FALLI",
    "NG FIFTEEN GAMMA HORSE ITALIC JOT KATAKANA-HIRAGANA LOOP MOUSE MUSICAL OPENING ORE OUTLINED OVER",
    "LINE PIECE PLASTICS POINT RETROFLEX SALT SET SHOE SPEAKER TEARDROP-SPOKED WAVY YO AMPERSAND ANTI",
    "MONY APPROXIMATELY ASTROLOGICAL BABY BIG BLACK-FEATHERED BLUE BOOK BUTTON CARET CONTROL COPPER D",
    "OLLAR DZ EQUIHOPPER ERROR-BARRED EXTREMELY FIRE GLASS HIGH ICE IOTIFIED ITERATION KOPPA LENTICUL",
    "AR MOUNTAIN ORANGE PLACE PUNCTUATION RAYS RECTANGLE RUSSIAN SINGLE-LINE STILE THREE-D TU TWENTY ",
    "VRACHY WA APOSTROPHE BARRED BLACK-LETTER BRIDGE BUILDING CHART CLICK CROSSED CURVING DISK DOCUME",
    "NT DRAGON EIGHTEEN ELLIPSIS ESH ET EYE FACING FEMALE FENCE FILE FINGERS FIRST FITZPATRICK FLOWER",
    " FOLDER GRINNING HAIR HARD HOUSE HYPHEN INFINITY INPUT JOINED KANA KE KEYBOARD LIGHTNING MEDAL M",
    "OBILE MONKEY MU NARROW NESTED NOTES NU ONCOMING ORIGINAL OVERLAPPING PENTAGON PLUTO POLE RAIN RE",
    "PEAT RICE ROCKET SA SCISSORS SCREEN SEMICIRCLE SEMICOLON SEMIDIRECT SIXTEEN SOFT SPEECH STEM STR",
    "AIGHT SUBLIMATE SUMMATION TEXT TRAFFIC TREE TRIANGULAR UMBRELLA WE WOMAN YANG YIN ZIGZAG ACE ALL",
    " APPROXIMATE AQUA ARCHAIC ARROW-TAIL ARROWHEADS BAG BANKNOTE BE BEAMED BETWEEN BOTTLE BOWTIE BRO",
    "KEN CAMERA CIRCULAR COMMERCIAL COMPONENT CRESCENT CROP CUP CURVE CUSP DEL DEVICE DIGAMMA DIGRAM ",
    "DJE DOG DOTLESS DOWNWARD DRAUGHTS DZE EAR ELECTRIC ELLIPSE ER ES FIFTY FINGER-POST FISHHOOK FLAT",
    "TENED FLOPPY FLORETTE FOOD FORK FOURTEEN FROWNING GLOBE HAMMER HAT HEAD HEADED HOLDING HOT HOURG",
    "LASS IDENTICAL INTEGRATION INTERROBANG INVERSE IRON ISOLATE ISOSCELES IZHITSA JACK JOIN JOKER KI",
    "SSING LEFT-TO-RIGHT LITTLE LJE LOCK MAILBOX ME MEMBER MERCURY MIDDLE-WELSH MUCH NEW NINETEEN NJE",
    " OE OK PAD PALM PAPER PEDESTAL PEN PENCIL PENTAGRAM PHI PHONE POINTER POLICE POSTAL POWER PSI QU",
    "ILT RAILWAY RECEIVER REGULUS RELATION RETURN RIGHT-SHADOWED RIGHT-TO-LEFT ROUND SAMPI SCAN SERIF",
    "S SEVENTEEN SHHA SHOGI SHORTS SILHOUETTE SLIGHTLY SQUARES SQUIGGLE SWEAT THAN THETA THIRDS THIRT",
    "EEN THUMBS TINY TONGUE TOPBAR TSE U-SHAPED VANE WAY WIGGLY WITHIN WITHOUT WOMANS YEN YERU ANGER ",
    "AROUND BACK-TILTED BACKSLANTED BALLOON BALLOON-SPOKED BANK BATH BEHIND BETA BOARD BOWL BRICK BRO",
    "WN BUBBLES BUS CAKE CALENDAR CANCELLATION CAP CASTLE CHI CHICK CHRISTMAS COLD COMPOSITION COMPUT",
    "ER CONCAVE-SIDED CONSTANT CONSTRUCTION CONTAIN CONTOUR CORNERS COVERING CROCUS CRYING DAGGER DEG",
    "REE DELIMITER DEPARTING DISC DIVIDE DIVIDED DO DOUBLED DRUM ELEPHANT ENTRY FEED FIFTHS FIGURE FI",
    "NGER FIST FLOOR FLORAL FLYING FORMEE FORTY-FIVE FRAME FRONT-TILTED GEAR HE HEXAGON HI HO HU HYPH",
    "EN-MINUS ICON INFORMATION INVISIBLE JOINER KAPPA KI KISS KNIFE KO KU LAST LEADER LEFT-SHADED LET",
    "TERS LOVE MA MACHINE MASK MI MILITARY MO MOOD MULTIMAP MULTISET MUSIC NA NE NEWLINE NI NIGHT NOS",
    "E OFFICE OLDER OPEN-HEADED OUTER PA PART PARTY PER PERCENT PERPENDICULAR PICTURE PIG POMMEE POSI",
    "TION POST POT POUND POUTING PREGNANT PURPLE PUSHPIN QUARTERS RA RACING RE RI RIGHT-SHADED RO ROC",
    "K ROOT RU SAFETY SCHEMA SE SECTION SEMI-VOICED SEMICIRCULAR SHADE SHADED SHARP SI SKULL SLEEPING",
    " SNOW SNOWFLAKE SNOWMAN SO SOURCE SPHERICAL SPIRAL STICK STRATUM STUCK-OUT SU SULFUR SWASH TA TA",
    "RGET TEARS THIN THIRD THIRTY-FIVE THOUGHT TI TIE TITLO TOP-LIGHTED TRAIN TREND TRIDENT TRUCK TRU",
    "E TWENTY-FIVE UNDER VE WAVES WAVING WHEEL WHEELCHAIR WI WO XI YAE YELLOW YI ACCOUNT ACKNOWLEDGE ",
    "ACTIVATE ACTUALLY ADULT ALEMBIC ALEUT ALIEN AN ANTENNA ANTIMONIATE ANTIRESTRICTION APPLE ARABIC ",
    "ARTS ASCENDING ASHES ASYMPTOTICALLY AUTOMOBILE BA BARS BASHKIR BAT BATTERY BEAR BEER BEETLE BEGI",
    "N BELT BENT BENZENE BEVERAGE BI BICYCLIST BILABIAL BINARY BINDING BLADE BLANK BLOSSOM BO BONE BO",
    "OKMARK BOOT BOUQUET BOW BREAD BRIGHTNESS BU BUILDINGS BULLHORN BYELORUSSIAN-UKRAINIAN CADUCEUS C",
    "AMEL CANNON CEILING CENT CENTRELINE CHAIR CHARIOT CHECKER CITYSCAPE CLINKING CLUB COAT CONSECUTI",
    "VE CONVERGING COOKIE COPRODUCT COPYRIGHT COW CREAM CRICKET CROSSBONES CROSSHATCH CROWN CUBE CURR",
    "ENCY CURRENT DA DARK DCHE DECIMAL DECORATION DEI DELETE DESCENDING DESERT DESKTOP DI DIRECT DIRE",
    "CTIONAL DIRECTLY DISAPPOINTED DIZZY DOLLS DRINK DRIVE DROP-SHADOWED DROPLET DU DZHE DZJE DZZHE E",
    "F EMBEDDING ENG ENGINE ERASE ERIS ESCAPE ETH EURO EUROPEAN FACTOR FAX FEI FILM FITA FLAT FLATBRE",
    "AD FONT FOOT FOOTBALL FOUNTAIN FRENCH FUNCTION GA GAME GANGIA GAPPED GE GENERAL GEOMETRICALLY GE",
    "STURE GI GIBBOUS GJE GO GREATER GROUND GROUP GU HEADSTONE HEART-SHAPED HELMET HETA HIGH-REVERSED",
    "-9 HIGH-SPEED HOCKEY HOLE HOLLOW HOMOTHETIC HOOKED HORI HORNS HOTEL HUGGING HV IDENTIFICATION ID",
    "EOGRAPH IDEOGRAPH-4E09 IDEOGRAPH-4E8C IDEOGRAPH-6253 IJ INHIBIT INSERTION INTERIOR INTERLACED IN",
    "TERSECTING IO JE JOY KAI KEYCAP KHAKASSIAN KHEI KJE KNIGHT-BISHOP KNIGHT-QUEEN KNIGHT-ROOK KORON",
    "IS KSI LAMDA LAMP LANE LANES LARGER LESSER LEVEL LHA LINES LINK LIPS LIRA LITTER LJ LL LOCOMOTIV",
    "E LOTUS LOW-9 LOWERED LUGGAGE MAGNIFYING MANDARIN MAP MEAT MECHANICAL MERGE MICROPHONE MIRROR MO",
    "NEY MONOGRAM MOTOR NATIONAL NEGATED NEPTUNE NEST NEWSPAPER NIB NJ NO-BREAK NODE NOTEBOOK OBLIQUE",
    " OCTAGON OHM OI OIL OLD OPEN-CIRCUIT-OUTPUT OPTICAL ORDINAL OT OU OUNCE OVAL OVERLAID OVERRIDE P",
    "AGES PALOCHKA PAMPHYLIAN PARAGRAPH PARALLELOGRAM PATH PEACE PENNANT PEPPER PERCUSSIVE PERSONAL P",
    "ETALLED PICK PILCROW PITCHFORK PLANCK PNEUMATA PO POP POTATO PRECEDE PRECEDING PRINTER PROLONGED",
    " PROPELLER PROPORTION PU QA QUILL QUOTE RABBIT RACQUET RADIO RAISING RECORD RECTILINEAR RELIEVED",
    " RESTRICTED REVOLVING RHA ROLLER ROLLING ROSETTE RULER RUPEE S-SHAPED SAN SANDAL SATELLITE SCHOO",
    "L SCOOTER SECOND SEMISOFT SESAME SHA SHAPES SHAPING SHCHA SHEI SHELF SHIELD SHIFT SHIMA SHIP SHO",
    " SHOPPING SHRIMP SIGNS SIZE SJE SKATE SKI SLOPING SMALLER SMASH SMILE SMOKING SOAP SOLDIER SOLID",
    " SPADE SPARKLE SPIDER SPLAYED SPOON SQUAT STAFF STAMPED START STIGMA STONE STORE STROKES SUBSTIT",
    "UTE SUCCEED SUNGLASSES SUNRISE SUPER SWAPPING SYMBOLS SYMMETRIC SYRIAC TAB TABULATION TAPE TAU T",
    "AXI TENNIS TENT THERE THERMOMETER THORN THOUSANDS THUNDER TIGER TIGHTLY-CLOSED TJE TOUCHTONE TRA",
    "M TRANSMISSION TRAY TROPICAL TSHE TWO-WAY TYPE TYPE-3 TYPE-4 TYPE-5 TYPE-6 UK UKRAINIAN UNDERLIN",
    "E UNDERTIE UNIVERSAL UPTURN URANUS VICTORY VIDEO VINEGAR VU WANING WAXING WC WEARY WEDGE-TAILED ",
    "WHALE WINDOW WINKING WON WRENCH WRITING WYNN YAT YOGH YOT ZA ZETA ZI ZJE ZO ZU AB ABACUS AC ACCE",
    "PT ACCOMMODATION ACCORDION ADDRESS ADDRESSED ADHESIVE ADI ADMETOS ADMISSION ADVANTAGE AERIAL AES",
    "CULAPIUS AFRICAN AID AIR AKTIESELSKAB ALARM ALEF ALIGNED ALKALI ALKALI-2 ALTERNATE ALTERNATION A",
    "LTERNATIVE ALUM ALVEOLAR AMALGAM AMALGAMATION AMBULANCE AMERICAN AMERICAS AMOUNT AMPHORA AMULET ",
    "ANATOMICAL ANCHOR ANGEL ANGRY ANGSTROM ANGUISHED ANKH ANNUITY ANO ANT ANTICLOCKWISE-ROTATED ANTI",
    "MONY-2 APOLLON APPLICATION APPROACHES AQUAFORTIS AQUARIUS ARCH ARIES AROUND-PROFILE ARRIVING ARS",
    "ENIC ARTA ARTICULATED ARTIST ASIA-AUSTRALIA ASSERTION ASTERISKS ASTERISM ASTONISHED ASTRAEA ASTR",
    "ONOMICAL ATHLETIC ATOM AUBERGINE AURIPIGMENT AUSTRAL AUTO AUTOMATED AUTUMN AVERAGE AVOCADO AXE B",
    "ACKSPACE BACON BACTRIAN BADGE BADGER BADMINTON BAGEL BAGGAGE BAGS BAGUETTE BALD BALLET BALLPOINT",
    " BAMBOO BANANA BANDAGE BANJO BARBER BASE BASEBALL BASKET BASKETBALL BATHTUB BEACH BEADS BEANS BE",
    "ARDED BEATING BEAVER BECAUSE BED BEGINNER BELLHOP BENTO BET BICEPS BICYCLE BICYCLES BIDENTAL BIK",
    "INI BILLED BILLIARDS BINOVILE BIOHAZARD BIRD BIRTHDAY BISECTING BISMUTH BISON BITCOIN BITING BLO",
    "ND BLOOD BLOWFISH BLOWING BLUEBERRIES BOAR BOAT BOLT BOMB BOOKS BOOMERANG BOOTS BORAX BORAX-2 BO",
    "RAX-3 BOTH BOTTOM-LIGHTED BOTTOM-SHADED BOWING BOWLING BOXING BOY BOYS BRAIN BRANCH BRANCHES BRE",
    "AST-FEEDING BRIDE BRIEFCASE BRIEFS BROCCOLI BROOM BUCKET BUCKLE BUFFALO BUG BULB BULLSEYE BUMPY ",
    "BUNNY BUOY BURRITO BUSINESS BUST BUSTS BUTTER BUTTERFLY CABINET CABLEWAY CACTUS CADA CAI CALCULA",
    "TOR CALL CALX CAMPING CANCEL CANCER CANDLE CANDRABINDU CANDY CANE CANNED CANOE CAPPED CAPRICORN ",
    "CAPUT CARDS CARE CAROUSEL CARP CARPENTRY CARRIAGE CARROT CARS CARTRIDGE CARTWHEEL CAUTION CC CD ",
    "CEDI CELEBRATION CELSIUS CELTIC CEREMONY CERES CHAINS CHAPTER CHARACTER CHEERING CHEESE CHEQUERE",
    "D CHERRIES CHERRY CHESTNUT CHEVRON CHICKEN CHIEUCH CHILD CHILDREN CHIME CHIPMUNK CHIRON CHOCOLAT",
    "E CHOPSTICKS CHRYSANTHEMUM CHURCH CIEUC CINEMA CINNABAR CIRCLING CIRCULATION CIRCUS CL CLAIM CLA",
    "MSHELL CLAPPER CLAPPING CLASSICAL CLEAR CLIMBING CLIPBOARD CLOSE CLOSET CLOSING CLOTHES CLOVER C",
    "LOWN CLUB-SPOKED COASTER COCKROACH COCKTAIL COCONUT COFFIN COIN COLLISION COMET COMPASS COMPLEME",
    "NT COMPRESSION COMPUTERS CONCAVE-POINTED CONFETTI CONFOUNDED CONFUSED CONGRUENT CONICAL CONJUGAT",
    "E CONJUNCTION CONTINUOUS CONTOURED CONVENIENCE COOKED COOKING COOL COPPER-2 COPYLEFT CORAL CORK ",
    "CORRESPONDS COUCH COUNTERBORE COUNTERSINK COUPLE COVER COWBOY CRAB CRACKER CRAYON CREDIT CROCODI",
    "LE CROISSANT CROSSED-TAIL CRUCIBLE CRUCIBLE-2 CRUCIBLE-3 CRUCIBLE-4 CRUCIBLE-5 CRUTCH CRUZEIRO C",
    "RYSTAL CUCUMBER CUPCAKE CUPIDO CURLING CURRY CUSTARD CUSTOMER CUSTOMS CUT CYCLONE CYLINDRICITY D",
    "ALET DANCER DANCING DANGO DATA DAVID DAY-NIGHT DB DEAF DECIDUOUS DECORATIVE DECREASE DEEPLY DEER",
    " DEFINITION DELICIOUS DELIVERY DENTAL DEPARTMENT DEPARTURE DERELICT DESIGN DESK DEZH DHARMA DIAM",
    "ETER DIESEL DIFFERENCE DIFFERENTIAL DIMENSION DIMENSIONAL DISABLED DISCONTINUOUS DISGUISED DISH ",
    "DISSOLVE DISSOLVE-2 DISTILL DITTO DIVIDERS DIVIDES DIVING DIVORCE DIYA DJ DNA DODO DOING DOLPHIN",
    " DOMAIN DONG DOOR DOTS-1 DOTS-12 DOTS-123 DOTS-1234 DOTS-12345 DOTS-123456 DOTS-1234567 DOTS-123",
    "45678 DOTS-1234568 DOTS-123457 DOTS-1234578 DOTS-123458 DOTS-12346 DOTS-123467 DOTS-1234678 DOTS",
    "-123468 DOTS-12347 DOTS-123478 DOTS-12348 DOTS-1235 DOTS-12356 DOTS-123567 DOTS-1235678 DOTS-123",
    "568 DOTS-12357 DOTS-123578 DOTS-12358 DOTS-1236 DOTS-12367 DOTS-123678 DOTS-12368 DOTS-1237 DOTS",
    "-12378 DOTS-1238 DOTS-124 DOTS-1245 DOTS-12456 DOTS-124567 DOTS-1245678 DOTS-124568 DOTS-12457 D",
    "OTS-124578 DOTS-12458 DOTS-1246 DOTS-12467 DOTS-124678 DOTS-12468 DOTS-1247 DOTS-12478 DOTS-1248",
    " DOTS-125 DOTS-1256 DOTS-12567 DOTS-125678 DOTS-12568 DOTS-1257 DOTS-12578 DOTS-1258 DOTS-126 DO",
    "TS-1267 DOTS-12678 DOTS-1268 DOTS-127 DOTS-1278 DOTS-128 DOTS-13 DOTS-134 DOTS-1345 DOTS-13456 D",
    "OTS-134567 DOTS-1345678 DOTS-134568 DOTS-13457 DOTS-134578 DOTS-13458 DOTS-1346 DOTS-13467 DOTS-",
    "134678 DOTS-13468 DOTS-1347 DOTS-13478 DOTS-1348 DOTS-135 DOTS-1356 DOTS-13567 DOTS-135678 DOTS-",
    "13568 DOTS-1357 DOTS-13578 DOTS-1358 DOTS-136 DOTS-1367 DOTS-13678 DOTS-1368 DOTS-137 DOTS-1378 ",
    "DOTS-138 DOTS-14 DOTS-145 DOTS-1456 DOTS-14567 DOTS-145678 DOTS-14568 DOTS-1457 DOTS-14578 DOTS-",
    "1458 DOTS-146 DOTS-1467 DOTS-14678 DOTS-1468 DOTS-147 DOTS-1478 DOTS-148 DOTS-15 DOTS-156 DOTS-1",
    "567 DOTS-15678 DOTS-1568 DOTS-157 DOTS-1578 DOTS-158 DOTS-16 DOTS-167 DOTS-1678 DOTS-168 DOTS-17",
    " DOTS-178 DOTS-18 DOTS-2 DOTS-23 DOTS-234 DOTS-2345 DOTS-23456 DOTS-234567 DOTS-2345678 DOTS-234",
    "568 DOTS-23457 DOTS-234578 DOTS-23458 DOTS-2346 DOTS-23467 DOTS-234678 DOTS-23468 DOTS-2347 DOTS",
    "-23478 DOTS-2348 DOTS-235 DOTS-2356 DOTS-23567 DOTS-235678 DOTS-23568 DOTS-2357 DOTS-23578 DOTS-",
    "2358 DOTS-236 DOTS-2367 DOTS-23678 DOTS-2368 DOTS-237 DOTS-2378 DOTS-238 DOTS-24 DOTS-245 DOTS-2",
    "456 DOTS-24567 DOTS-245678 DOTS-24568 DOTS-2457 DOTS-24578 DOTS-2458 DOTS-246 DOTS-2467 DOTS-246",
    "78 DOTS-2468 DOTS-247 DOTS-2478 DOTS-248 DOTS-25 DOTS-256 DOTS-2567 DOTS-25678 DOTS-2568 DOTS-25",
    "7 DOTS-2578 DOTS-258 DOTS-26 DOTS-267 DOTS-2678 DOTS-268 DOTS-27 DOTS-278 DOTS-28 DOTS-3 DOTS-34",
    " DOTS-345 DOTS-3456 DOTS-34567 DOTS-345678 DOTS-34568 DOTS-3457 DOTS-34578 DOTS-3458 DOTS-346 DO",
    "TS-3467 DOTS-34678 DOTS-3468 DOTS-347 DOTS-3478 DOTS-348 DOTS-35 DOTS-356 DOTS-3567 DOTS-35678 D",
    "OTS-3568 DOTS-357 DOTS-3578 DOTS-358 DOTS-36 DOTS-367 DOTS-3678 DOTS-368 DOTS-37 DOTS-378 DOTS-3",
    "8 DOTS-4 DOTS-45 DOTS-456 DOTS-4567 DOTS-45678 DOTS-4568 DOTS-457 DOTS-4578 DOTS-458 DOTS-46 DOT",
    "S-467 DOTS-4678 DOTS-468 DOTS-47 DOTS-478 DOTS-48 DOTS-5 DOTS-56 DOTS-567 DOTS-5678 DOTS-568 DOT",
    "S-57 DOTS-578 DOTS-58 DOTS-6 DOTS-67 DOTS-678 DOTS-68 DOTS-7 DOTS-78 DOTS-8 DOUBLE-ENDED DOUGHNU",
    "T DOVE DRACHMA DRAFTING DRAM DRESS DROMEDARY DROOLING DROP DROPS DRUMSTICKS DUCK DUMPLING DUNG D",
    "USK DVD E-MAIL EAGLE EARLY EARS EGG EGGS EIGHT-THIRTY EJECT ELECTRICAL ELECTRONICS ELEVATOR ELEV",
    "EN-THIRTY ELF EMBLEM EMPHASIS ENQUIRY ENTER ENTERING ENTRY-1 ENTRY-2 EO EQUIANGULAR ESTIMATED ES",
    "TIMATES EU EULER EURO-CURRENCY EUROPE-AFRICA EVERGREEN EXCESS EXCHANGE EXIST EXISTS EXPLODING EX",
    "PONENT EXPRESSIONLESS EXTENDED EXTINGUISHER EXTRA-HIGH EXTRA-LOW EXTRATERRESTRIAL EYEBROW EYEGLA",
    "SSES FACE-1 FACE-2 FACE-3 FACE-4 FACE-5 FACE-6 FACSIMILE FACTORY FAHRENHEIT FAIRY FALAFEL FALLEN",
    " FAMILY FARSI FATHER FEAR FEARFUL FEATHER FEMININE FENCER FENG FERMATA FERRIS FERRY FIELD FIFTH ",
    "FILLER FINAL FINITE FIRECRACKER FIREWORK FIREWORKS FISHEYE FISHING FISTED FIVE-THIRTY FLAGS FLAM",
    "INGO FLASH FLATNESS FLEUR-DE-LIS FLEXED FLOWERS FLOWING FLUSHED FLUTTERING FLY FOG FOGGY FOLDED ",
    "FONDUE FOOL FOOTPRINTS FORCE FORCES FORKING FORMATTING FORMS FORTUNE FOUR-PER-EM FOUR-THIRTY FOU",
    "RTH FOX FRAMES FRANC FREE FREEZING FRICATIVE FRIED FRIES FROG FRONT-FACING FROWN FU FUEL FUJI FU",
    "NERAL FUSE GARDEN GARLIC GEM GEMINI GENERIC GENIE GEOMETRIC GERMAN GETA GHOST GIFT GIMEL GIRAFFE",
    " GIRL GIRLS GLASSES GLEICH GLOVE GLOVES GLOWING GOAL GOAT GOBLIN GOGGLES GOLD GOLFER GOOD GORILL",
    "A GRADUATION GRAPES GRAPHEME GRAVEYARD GRIMACING GROWING GUA GUARANI GUARDSMAN GUIDE GUITAR GUM ",
    "H-TYPE HADES HAIRCUT HALF-CIRCLE HALO HAMBURGER HAMSA HAMSTER HANDBAG HANDBALL HANDLE HANDLES HA",
    "NDSHAKE HAPPY HATCHING HC HDR HEAD-BANDAGE HEADING HEADPHONE HEADSCARF HEAR-NO-EVIL HEARING HEAV",
    "EN HEDGEHOG HELICOPTER HELIX HELLSCHREIBER HELM HENG HERB HERMES HERMITIAN HI-RES HIBISCUS HIEUH",
    " HIGH-HEELED HIKING HINDU HIPPOPOTAMUS HISTORIC HIT HOCHO HOKA HONEY HONEYBEE HOOP HORIZONTAL-00",
    "-00 HORIZONTAL-00-01 HORIZONTAL-00-02 HORIZONTAL-00-03 HORIZONTAL-00-04 HORIZONTAL-00-05 HORIZON",
    "TAL-00-06 HORIZONTAL-01-00 HORIZONTAL-01-01 HORIZONTAL-01-02 HORIZONTAL-01-03 HORIZONTAL-01-04 H",
    "ORIZONTAL-01-05 HORIZONTAL-01-06 HORIZONTAL-02-00 HORIZONTAL-02-01 HORIZONTAL-02-02 HORIZONTAL-0",
    "2-03 HORIZONTAL-02-04 HORIZONTAL-02-05 HORIZONTAL-02-06 HORIZONTAL-03-00 HORIZONTAL-03-01 HORIZO",
    "NTAL-03-02 HORIZONTAL-03-03 HORIZONTAL-03-04 HORIZONTAL-03-05 HORIZONTAL-03-06 HORIZONTAL-04-00 ",
    "HORIZONTAL-04-01 HORIZONTAL-04-02 HORIZONTAL-04-03 HORIZONTAL-04-04 HORIZONTAL-04-05 HORIZONTAL-",
    "04-06 HORIZONTAL-05-00 HORIZONTAL-05-01 HORIZONTAL-05-02 HORIZONTAL-05-03 HORIZONTAL-05-04 HORIZ",
    "ONTAL-05-05 HORIZONTAL-05-06 HORIZONTAL-06-00 HORIZONTAL-06-01 HORIZONTAL-06-02 HORIZONTAL-06-03",
    " HORIZONTAL-06-04 HORIZONTAL-06-05 HORIZONTAL-06-06 HOSPITAL HOUR HRYVNIA HUB HUMAN HUSHED HUT H",
    "WAIR HYGIEA HYGIEIA HYPHENATION HYSTERESIS I-BEAM IC ID IDEOGRAPH-4E00 IDEOGRAPH-4E2D IDEOGRAPH-",
    "4EA4 IDEOGRAPH-518D IDEOGRAPH-521D IDEOGRAPH-524D IDEOGRAPH-5272 IDEOGRAPH-52DD IDEOGRAPH-53CC I",
    "DEOGRAPH-53F3 IDEOGRAPH-5408 IDEOGRAPH-5439 IDEOGRAPH-55B6 IDEOGRAPH-58F0 IDEOGRAPH-591A IDEOGRA",
    "PH-5929 IDEOGRAPH-5B57 IDEOGRAPH-5B89 IDEOGRAPH-5DE6 IDEOGRAPH-5F8C IDEOGRAPH-624B IDEOGRAPH-629",
    "5 IDEOGRAPH-6307 IDEOGRAPH-6355 IDEOGRAPH-6557 IDEOGRAPH-6599 IDEOGRAPH-65B0 IDEOGRAPH-6620 IDEO",
    "GRAPH-6708 IDEOGRAPH-6709 IDEOGRAPH-672C IDEOGRAPH-6E80 IDEOGRAPH-6F14 IDEOGRAPH-70B9 IDEOGRAPH-",
    "7121 IDEOGRAPH-751F IDEOGRAPH-7533 IDEOGRAPH-76D7 IDEOGRAPH-7981 IDEOGRAPH-7A7A IDEOGRAPH-7D42 I",
    "DEOGRAPH-89E3 IDEOGRAPH-8CA9 IDEOGRAPH-8D70 IDEOGRAPH-904A IDEOGRAPH-914D IDLE IEUNG IMP INBOX I",
    "NCLUDING INCOMING INCOMPLETE INCREASE INCREASES INCREMENT INDIAN INDUSTRIAL INK INTERCALATE INTE",
    "REST INTERLOCKED IRON-COPPER ISLAND ITS IZAKAYA JACK-O-LANTERN JACKS JAPAN JAR JEANS JERUSALEM J",
    "IGSAW JOVE JOYSTICK JUGGLING JUNO JUPITER KAABA KANGAROO KELVIN KHIEUKH KIMONO KIP KITE KIWIFRUI",
    "T KIYEOK KIYEOK-SIOS KNEELING KNOBS KNOT KOALA KOKO KOTO KRA KRONOS L-TYPE LAB LABEL LACROSSE LA",
    "DDER LADY LAKE LAMBDA LANTERN LARI LATE LATERAL LAUGHING LAZY LEAD LEAFY LEDGER LEFT-FACING LEFT",
    "-HANDED LEFT-LIGHTED LEFT-SIDE LEMON LEO LEOPARD LEVITATING LEZH LIBERTY LIBRA LIFTER LIGHTHOUSE",
    " LILITH LIME LIMIT LINE-1 LINE-3 LINE-7 LINE-9 LINKED LION LIP LIPSTICK LIQUID LIVRE LIZARD LLAM",
    "A LOBSTER LOCATION LODESTONE LOLLIPOP LOOK LORRAINE LORRY LOSSLESS LOTION LOUDLY LOUDSPEAKER LS ",
    "LU LUNGS LYING LZ MAGE MAGIC MAGNET MAIZE MALTESE MAMMOTH MANAT MANGO MANS MANTELPIECE MANUAL MA",
    "O MAPLE MARCASITE MARKS MARRIAGE MARTIAL MARY MASCULINE MASSAGE MASU MATE MATERIALS MATRIX MAXIM",
    "IZE MC MD MEDICAL MEGAPHONE MELON MELTING MEMBERSHIP MEMO MEN MENORAH MENS MERIDIANS MERPERSON M",
    "ETRO MICRO MICROBE MICROSCOPE MID MIDLINE MIEUM MILK MILKY MILL MILLE MILLIONS MINIBUS MINIDISC ",
    "MINIMIZE MINUS-OR-PLUS MINY MODE MODELS MODEM MODERN MODULO MONEY-MOUTH MONOCLE MONORAIL MONOSTA",
    "BLE MONSTER MONTH MORTUUM MOSQUE MOSQUITO MOTHER MOTORCYCLE MOTORIZED MOTORWAY MOUNT MOUNTAINS M",
    "OVIE MOYAI MR MUG MUGS MULTIPLE MUSHROOM MV NABLA NAIL NAIRA NAME NAND NATURAL NAUSEATED NAZAR N",
    "ECKTIE NEEDLE NEGATION NERD NESSUS NESTING NET NETWORKED NEUTER NEXT NG NIEUN NIEUN-CIEUC NIEUN-",
    "HIEUH NINE-THIRTY NINJA NINTH NITRE NOMINAL NON-BREAKING NON-JOINER NON-POTABLE NONFORKING NORDI",
    "C NORTHEAST-POINTING NORTHWEST NOTCH NOVILE NULL NUMBERS NUMERATOR NUMERO NUT OBSERVER OCTAGONAL",
    " OCTOPUS ODEN OFF OFFICER OGRE OLIVE OM ON-OFF ONE-PIECE ONE-THIRTY ONE-WAY ONION OPEN-OUTLINED ",
    "OPHIUCHUS OPPOSITION OPTION ORANGUTAN ORCHID ORE-2 ORIGIN ORTHODOX ORTHOGONAL OTTER OUT OUTBOX O",
    "UTLINE OVERHEATED OVERLAP OWL OX OYSTER PACKAGE PADDLE PAGER PAGODA PAINTBRUSH PALATAL PALATALIZ",
    "ATION PALATALIZED PALETTE PALLAS PALMS PAN PANCAKES PANDA PAPERCLIP PAPERCLIPS PARACHUTE PARK PA",
    "RROT PARTIAL PARTIALLY-RECYCLED PARTNERSHIP PASSED PASSENGER PASSIVE-PULL-DOWN-OUTPUT PASSIVE-PU",
    "LL-UP-OUTPUT PASSPORT PAUSE PAW PEACH PEACOCK PEANUTS PEAR PEDESTRIAN PEDESTRIANS PEEKING PENGUI",
    "N PENNY PENSIVE PENTASEME PENTATHLON PEOPLE PERFORMING PERMANENT PERSEVERING PERSPECTIVE PESETA ",
    "PESO PETRI PHARYNGEAL PHIEUPH PHILOSOPHERS PHOLUS PHONES PICKUP PIE PIEUP PIEUP-SIOS PILE PILL P",
    "IN PINATA PINCHED PINCHING PINE PINEAPPLE PIPING PIRACY PISCES PISTOL PIZZA PLACARD PLANET PLANT",
    " PLATE PLAYGROUND PLEADING PLUG PLUM PLUNGER PLUS-MINUS POCKET POINTS POKRYTIE POLISH POLO POO P",
    "OODLE POPCORN POPPER POPPING PORTABLE POSEIDON POSTBOX POTABLE POTTED POUCH POULTRY POURING POWD",
    "ER POWDERED PPV PRAYER PRECEDED PRECIPITATE PRESCRIPTION PRESENT PRETZEL PREVIOUS PRINCE PRINCES",
    "S PRINT PRINTS PROBING PROHIBITED PROJECTION PROJECTIVE PROJECTOR PROOF PROPERTY PROPORTIONAL PR",
    "OSERPINA PROVE PUBLIC PUCK PUMP PURIFY PURSE PUT PUTREFACTION PUZZLE QP QUATERNION QUESTIONED QU",
    "ICK QUINCUNX QUINTESSENCE QUINTILE RACCOON RADICAL RADIOACTIVE RAIL RAINBOW RAM RAMS RANGE RAT R",
    "ATIO RAZOR REALGAR REALGAR-2 RECEIPT RECORDER RECORDING RECREATIONAL RECTANGULAR RECYCLED REFERE",
    "NCE REGIA REGIA-2 REGISTERED REGULUS-2 REGULUS-3 REGULUS-4 RELATIONAL REMINDER RESPONSE RESTROOM",
    " RETORT RHINOCEROS RHOTIC RICKSHAW RIEUL RIEUL-HIEUH RIEUL-KIYEOK RIEUL-MIEUM RIEUL-PHIEUPH RIEU",
    "L-PIEUP RIEUL-SIOS RIEUL-THIEUTH RIFLE RIGHT-FACING RIGHT-HANDED RIGHT-LIGHTED RIGHT-SIDE RIGHTH",
    "AND RINGED RINGING ROASTED ROBOT ROLL ROLLED-UP ROOM ROOSTER ROSE ROUND-TIPPED ROWBOAT RUBLE RUG",
    "BY RULE RULE-DELAYED RUNNER RUNNING RUNOUT SAGITTARIUS SAILBOAT SAKE SAL-AMMONIAC SALAD SALT-2 S",
    "ALUTING SAMARITAN SAND SANDWICH SARI SASH SATCHEL SATURN SAUCER SAUROPOD SAVOURING SAW SAXOPHONE",
    " SCALES SCARF SCEPTER SCORE SCORPION SCORPIUS SCREAMING SCREWDRIVER SCROLL SCRUPLE SD SEAGULL SE",
    "AL SEAT SECTOR SEDNA SEE-NO-EVIL SEEDLING SEGMENT SELECTOR-1 SELECTOR-10 SELECTOR-11 SELECTOR-12",
    " SELECTOR-13 SELECTOR-14 SELECTOR-15 SELECTOR-16 SELECTOR-2 SELECTOR-3 SELECTOR-4 SELECTOR-5 SEL",
    "ECTOR-6 SELECTOR-7 SELECTOR-8 SELECTOR-9 SELENA SELFIE SEMISEXTILE SENTAGON SEPARATED SERIOUS SE",
    "RVICE SESQUIQUADRATE SEVEN-THIRTY SEVENTH SEWING SEXTILE SHAKER SHAKTI SHALLOW SHAMROCK SHAPE SH",
    "ARK SHAVED SHEEP SHEQEL SHINTO SHIRT SHOCKED SHOES SHOOTING SHORTCAKE SHOU SHOULDERED SHOWER SHR",
    "INE SHRUG SHUANGXI SHUFFLE SHUTTLECOCK SHV SICKLE SILVER SINE SIOS SITE SIX-PER-EM SIX-THIRTY SI",
    "XTEENTH SIXTH SIXTHS SIXTY SKATEBOARD SKIER SKUNK SLED SLEEP SLEEPY SLEUTH SLICE SLIDE SLIDER SL",
    "IDING SLOPE SLOT SLOTH SLOW SMIRKING SNAIL SNAKE SNEEZING SNOWBOARDER SOCCER SOCKS SOFTBALL SOFT",
    "WARE-FUNCTION SOM SOON SOS SPAGHETTI SPARKLER SPARKLES SPARKLING SPEAK-NO-EVIL SPEAKING SPEEDBOA",
    "T SPESMILO SPIRIT SPLASHING SPONGE SPOOL SPORTS SPOT SPOUTING SPRING SPRINGS SPY SQUID SQUISH SS",
    " SSANGCIEUC SSANGKIYEOK SSANGPIEUP SSANGSIOS SSANGTIKEUT STADIUM STANDARD STANDING STARK STARRED",
    " STARS STATION STATUE STEAM STEAMING STEAMY STEREO STETHOSCOPE STOCK STOPWATCH STRAIGHTNESS STRA",
    "TUM-2 STRAW STRAWBERRY STREAMER STRESS STRETCHED STRICTLY STRIPE STRONG STUDIO STUFFED STUPA SUB",
    "JECT SUBLIMATE-2 SUBLIMATE-3 SUBLIMATION SUM SUMMER SUNFLOWER SUNSET SUPERHERO SUPERIMPOSED SUPE",
    "RVILLAIN SURFACE SURFER SUSHI SUSPENSION SWAN SWEET SWIMMER SWIMSUIT SWIRL SWORDS SWUNG SYMMETRY",
    " SYNAGOGUE SYNCHRONOUS SYRINGE T-REX T-SHIRT TABLE TABS TACO TAKE TAKEOUT TAMALE TANABATA TANGER",
    "INE TAPER TARTAR TARTAR-2 TAURUS TC TEA TEACUP TEAPOT TEAR TEAR-OFF TEARDROP-BARBED TEARDROP-SHA",
    "NKED TEDDY TEE TELEGRAPH TELEIA TELESCOPE TELEVISION TELLER TEMPLE TEN-THIRTY TENGE TENTH TESH T",
    "EST TETRASEME THEREFORE THERMODYNAMIC THIEUTH THINKING THIRTY THONG THREAD THREE-PER-EM THREE-TH",
    "IRTY THROWING THUMB THUNDERSTORM TICKET TICKETS TIGHT TIKEUT TILES TIMER TIN TINCTURE TIRED TIRO",
    "NIAN TOGETHER TOILET TOKYO TOMATO TOOLBOX TOOTH TOOTHBRUSH TORCH TORNADO TOTAL TOURNOIS TOWER TR",
    "ACK TRACKBALL TRACTOR TRADE TRAMWAY TRANSPLUTO TRANSVERSAL TRAP TRAPEZIUM TREDECILE TRICOLON TRI",
    "FOLIATE TRISEME TRIUMPH TROLL TROLLEY TROLLEYBUS TROPHY TRUMP-1 TRUMP-10 TRUMP-11 TRUMP-12 TRUMP",
    "-13 TRUMP-14 TRUMP-15 TRUMP-16 TRUMP-17 TRUMP-18 TRUMP-19 TRUMP-2 TRUMP-20 TRUMP-21 TRUMP-3 TRUM",
    "P-4 TRUMP-5 TRUMP-6 TRUMP-7 TRUMP-8 TRUMP-9 TRUMPET TS TUBE TUGRIK TULIP TUMBLER TURBAN TURKEY T",
    "URKISH TURTLE TUTTY TUXEDO TWELVE-THIRTY TWENTY-TWO TWISTED TWO-THIRTY TYPE-1 TYPE-1-2 TYPE-2 TY",
    "PE-7 UHD UNA UNAMUSED UNASPIRATED UNCERTAINTY UNDERDOT UNDO UNEVEN UNICORN UNIFORM UNIT UNITED U",
    "NMARRIED UPSIDE-DOWN UPWARD URINE URN VA VAMPIRE VAPOURS VARIANT VECTOR VEE VEHICLE VEIL VERDIGR",
    "IS VERSICLE VERTICAL-00-00 VERTICAL-00-01 VERTICAL-00-02 VERTICAL-00-03 VERTICAL-00-04 VERTICAL-",
    "00-05 VERTICAL-00-06 VERTICAL-01-00 VERTICAL-01-01 VERTICAL-01-02 VERTICAL-01-03 VERTICAL-01-04 ",
    "VERTICAL-01-05 VERTICAL-01-06 VERTICAL-02-00 VERTICAL-02-01 VERTICAL-02-02 VERTICAL-02-03 VERTIC",
    "AL-02-04 VERTICAL-02-05 VERTICAL-02-06 VERTICAL-03-00 VERTICAL-03-01 VERTICAL-03-02 VERTICAL-03-",
    "03 VERTICAL-03-04 VERTICAL-03-05 VERTICAL-03-06 VERTICAL-04-00 VERTICAL-04-01 VERTICAL-04-02 VER",
    "TICAL-04-03 VERTICAL-04-04 VERTICAL-04-05 VERTICAL-04-06 VERTICAL-05-00 VERTICAL-05-01 VERTICAL-",
    "05-02 VERTICAL-05-03 VERTICAL-05-04 VERTICAL-05-05 VERTICAL-05-06 VERTICAL-06-00 VERTICAL-06-01 ",
    "VERTICAL-06-02 VERTICAL-06-03 VERTICAL-06-04 VERTICAL-06-05 VERTICAL-06-06 VERTICALLY VEST VESTA",
    " VI VIBRATION VIDEOCASSETTE VIEWDATA VIEWER VIEWING VIGINTILE VINEGAR-2 VINEGAR-3 VIOLIN VIRGO V",
    "ITAE VITAE-2 VITRIOL VITRIOL-2 VO VOD VOICING VOLCANO VOLLEYBALL VOLTAGE VOLUME VOMITING VS VULC",
    "ANUS WAE WAFFLE WALL WAND WARNING WASTEBASKET WATCH WATERMELON WAX WEB WEDDING WEDGE WEIGHT WEO ",
    "WHITE-FEATHERED WIDE WILTED WINE WINGS WINTER WIRED WOLF WOMEN WOMENS WOOD WORD WORK WORKER WORL",
    "D WORM WORRIED WORSHIP WRAPPED WREATH WRESTLERS WRY WZ X-RAY XOR YARN YAWNING YE YEO YO-YO YORI ",
    "YOU YR ZEBRA ZEUS ZILDE ZIPPER-MOUTH ZOMBIE"]

/-- The named characters, as packed numbers. -/
def nameRecords : String := String.join [
    ".P'ub(j#Ub&X#Ub$gbb,lbb4iba,_a-ZbY%ub[%ua$zb%jba%[a3mb%t%aa'Rb#W(Rb#W#yb#W#_b#W$Tb#W$fb#W$yb#W%`",
    "b#W&`b#W$|b#W&ra(da.kb$Ybb%kbb$Xbb(s#Ub/c(xdQSO#YdQSO&[dQSO%cdQSO%QdQSO#cdQSO'_dQSO%idQSO%RdQSO#",
    "odQSO&jdQSO%ydQSO$udQSO&kdQSO$vdQSO#TdQSO&sdQSO'tdQSO$ldQSO$odQSO%YdQSO#`dQSO&ydQSO&adQSO%XdQSO%",
    "UdQSO$ncYs#Qb'i'Rc[s#Qb#n&Ob%n$Zb$Q&OdQRO#YdQRO&[dQRO%cdQRO%QdQRO#cdQRO'_dQRO%idQRO%RdQRO#odQRO&",
    "jdQRO%ydQRO$udQRO&kdQRO$vdQRO#TdQRO&sdQRO'tdQRO$ldQRO$odQRO%YdQRO#`dQRO&ydQRO&adQRO%XdQRO%UdQRO$",
    "ncY&Q#Qbj$Zc[&Q#Qa#j.b;_'uc&T(j#Ub7jbb4qbb8Rbb2Tbb/`#Rb5Vba#pb7wbc##f;j%me'ae$W&X#Ub$Obb.n-yb#3R",
    "ba$Rb3Obb#1Zbb'v#_b'v$Tb#f&Ob#,qbb<Qbb&Vha&Pb'v#yc#,[;j%me&ze$W&X#Ud'd'O#y)ud'd'O#y#td'd'O$T4vc&",
    "T(s#UfQSO#YP$QfQSO#YP#ffQSO#YP#nfQSO#YP#jfQSO#YP#pgQSO#YP%g`dQSO+hfQSO%cP&PfQSO#cP$QfQSO#cP#ffQS",
    "O#cP#nfQSO#cP#pfQSO#oP$QfQSO#oP#ffQSO#oP#nfQSO#oP#pdQSO8ufQSO$vP#jfQSO#TP$QfQSO#TP#ffQSO#TP#nfQS",
    "O#TP#jfQSO#TP#pb(nbfQSO#TP#OfQSO#`P$QfQSO#`P#ffQSO#`P#nfQSO#`P#pfQSO%UP#fdQSO>[eQRO5[$ofQRO#YP$Q",
    "fQRO#YP#ffQRO#YP#nfQRO#YP#jfQRO#YP#pgQRO#YP%g`dQRO+hfQRO%cP&PfQRO#cP$QfQRO#cP#ffQRO#cP#nfQRO#cP#",
    "pfQRO#oP$QfQRO#oP#ffQRO#oP#nfQRO#oP#pdQRO8ufQRO$vP#jfQRO#TP$QfQRO#TP#ffQRO#TP#nfQRO#TP#jfQRO#TP#",
    "pb*ybfQRO#TP#OfQRO#`P$QfQRO#`P#ffQRO#`P#nfQRO#`P#pfQRO%UP#fdQRO>[fQRO%UP#pfQSO#YP$RfQRO#YP$RfQSO",
    "#YP$dfQRO#YP$dfQSO#YP(`fQRO#YP(`fQSO%cP#ffQRO%cP#ffQSO%cP#nfQRO%cP#ngQSO%cPh`gQRO%cPh`fQSO%cP$sf",
    "QRO%cP$sfQSO%QP$sfQRO%QP$sfQSO%QP#OfQRO%QP#OfQSO#cP$RfQRO#cP$RfQSO#cP$dfQRO#cP$dgQSO#cPh`gQRO#cP",
    "h`fQSO#cP(`fQRO#cP(`fQSO#cP$sfQRO#cP$sfQSO%iP#nfQRO%iP#nfQSO%iP$dfQRO%iP$dgQSO%iPh`gQRO%iPh`fQSO",
    "%iP&PfQRO%iP&PfQSO%RP#nfQRO%RP#nfQSO%RP#OfQRO%RP#OfQSO#oP#jfQRO#oP#jfQSO#oP$RfQRO#oP$RfQSO#oP$df",
    "QRO#oP$dfQSO#oP(`fQRO#oP(`gQSO#oPh`eQRO/p#odQS(_:QdQR(_:QfQSO&jP#nfQRO&jP#nfQSO%yP&PfQRO%yP&PdQR",
    "O#*cfQSO$uP#ffQRO$uP#ffQSO$uP&PfQRO$uP&PfQSO$uP$sfQRO$uP$sgQSO$uP&VhgQRO$uP&VhfQSO$uP#OfQRO$uP#O",
    "fQSO$vP#ffQRO$vP#ffQSO$vP&PfQRO$vP&PfQSO$vP$sfQRO$vP$sgQRO$v#1r)]-ZdQSO8pdQRO8pfQSO#TP$RfQRO#TP$",
    "RfQSO#TP$dfQRO#TP$dgQSO#TPe#fgQRO#TPe#fdQS(_0xdQR(_0xfQSO$lP#ffQRO$lP#ffQSO$lP&PfQRO$lP&PfQSO$lP",
    "$sfQRO$lP$sfQSO$oP#ffQRO$oP#ffQSO$oP#nfQRO$oP#nfQSO$oP&PfQRO$oP&PfQSO$oP$sfQRO$oP$sfQSO%YP&PfQRO",
    "%YP&PfQSO%YP$sfQRO%YP$sfQSO%YP#OfQRO%YP#OfQSO#`P#jfQRO#`P#jfQSO#`P$RfQRO#`P$RfQSO#`P$dfQRO#`P$dg",
    "QSO#`P%g`gQRO#`P%g`gQSO#`Pe#fgQRO#`Pe#ffQSO#`P(`fQRO#`P(`fQSO&aP#nfQRO&aP#nfQSO%UP#nfQRO%UP#nfQS",
    "O%UP#pfQSO$nP#ffQRO$nP#fgQSO$nPh`gQRO$nPh`fQSO$nP$sfQRO$nP$seQRO$m$ofQRO&[P#OfQSO&[P|fQSO&[P1xfQ",
    "RO&[P1xeQSO&m%`eQRO&m%`eQSO$^#TfQSO%cP|fQRO%cP|eQSO?q%QfQSO%QP|fQSO%QP1xfQRO%QP1xeQRO$P*xeQSO$r#",
    "cdQSO+YeQSO$^#cfQSO'_P|fQRO'_P|fQSO%iP|dQSO+tdQRO9xdQSO%VfQSO#oP#OfQSO%yP|fQRO%yP|fQRO$uP#RfQRO#",
    "*lP#OeQSO$P&kgQSO$vPY|hQRO$vP$m[+UgQSO#TP&V#jfQSO#TP&RfQRO#TP&RdQSO;edQRO;efQSO&sP|fQRO&sP|cQO#?",
    "UeQSO&m#_eQRO&m#_dQSO-ieQO$r-i+ygQRO%YP#/h|fQSO%YP|fQRO%YP|gQSO%YP,V|fQSO#`P&RfQRO#`P&RdQSO%hfQS",
    "O&yP|fQSO%UP|fQRO%UP|fQSO$nP#OfQRO$nP#OdQSO+OeQSO+O$reQRO+O$rfQRO+OP%ZeQO#_P#OeQSO&m$yeQRO&m$ygQ",
    "O&T)l%aP#OcQO?WdQOHU-adQO#*p-adQOAQ-adQO,V-afQSO,mP$sjQSO%QPRO$nP$sfQRO,mP$sdQSO:rhQSO$uPRO&jdQR",
    "O:rdQSO;^hQSO$vPRO&jdQRO;^fQSO#YP$sfQRO#YP$sfQSO#oP$sfQRO#oP$sfQSO#TP$sfQRO#TP$sfQSO#`P$sfQRO#`P",
    "$shQSO#`P#pU$RhQRO#`P#pU$RhQSO#`P#pU#fhQRO#`P#pU#fhQSO#`P#pU$shQRO#`P#pU$shQSO#`P#pU$QhQRO#`P#pU",
    "$QeQRO$P#chQSO#YP#pU$RhQRO#YP#pU$RiQSO#YPh`U$RiQRO#YPh`U$RfQSO+hP$RfQRO+hP$RfQSO%iP#OfQRO%iP#OfQ",
    "SO%iP$sfQRO%iP$sfQSO%yP$sfQRO%yP$sfQSO#TP(`fQRO#TP(`hQSO#TP(`U$RhQRO#TP(`U$RfQSO+OP$sfQRO+OP$sfQ",
    "RO&jP$sdQSO,mhQSO%QPRO$ndQRO,mfQSO%iP#ffQRO%iP#fdQSO#(TdQSO?WfQSO$vP$QfQRO$vP$QiQSO#YP%g`U#fiQRO",
    "#YP%g`U#ffQSO+hP#ffQRO+hP#fhQSO#TP#OU#fhQRO#TP#OU#fgQSO#YPe$QgQRO#YPe$QgQSO#YP&T$dgQRO#YP&T$dgQS",
    "O#cPe$QgQRO#cPe$QgQSO#cP&T$dgQRO#cP&T$dgQSO#oPe$QgQRO#oPe$QgQSO#oP&T$dgQRO#oP&T$dgQSO#TPe$QgQRO#",
    "TPe$QgQSO#TP&T$dgQRO#TP&T$dgQSO$lPe$QgQRO$lPe$QgQSO$lP&T$dgQRO$lP&T$dgQSO#`Pe$QgQRO#`Pe$QgQSO#`P",
    "&T$dgQRO#`P&T$dgQSO$oP%[kgQRO$oP%[kgQSO%YP%[kgQRO%YP%[kdQSO?YdQRO?YfQSO%RP$sfQRO%RP$shQSO$vP$m[+",
    "UfQRO%QP)`dQSO;ldQRO;lfQSO$nP|fQRO$nP|gQSO#YPh`gQRO#YPh`fQSO#cP&PfQRO#cP&PhQSO#TP#pU$RhQRO#TP#pU",
    "$RhQSO#TP#jU$RhQRO#TP#jU$RgQSO#TPh`gQRO#TPh`iQSO#TPh`U$RiQRO#TPh`U$RfQSO%UP$RfQRO%UP$RfQRO$uP)`f",
    "QRO$vP)`fQRO%YP)`eQRO/p&jeQROGx(feQRO#2b(ffQSO#YP#OfQSO%cP#OfQRO%cP#OfQSO$uP#RgQSO%YP&p#OgQRO$oP",
    "5l%ZgQRO$nP5l%ZeQSO)l%aeQRO)l%afQSO&[P#OeQSO#`#ReQSO$P&yfQSO#cP#OfQRO#cP#OfQSO&jP#OfQRO&jP#OhQSO",
    "R'tP|%ZgQRO'tP|%ZfQSO$lP#OfQRO$lP#OfQSO%UP#OfQRO%UP#OeQRO$P#YdQRO$aeQRO$P$afQRO&[P|eQRO$^#TfQRO%",
    "cP)`fQRO%QP%ZfQRO%QP|eQRO$r#cdQRO+YfQRO+YP|eQRO$^#cfQRO$r$^#chQRO$r$^#cP|gQRO&b$r$^#cgQRO/p&jP#O",
    "fQRO%iP|eQRO'Z%ieQORS%idQRO+teQRO#2o&ReQRO$P%RfQRO%RP|fQRO#&cP|fQRO#oP#OdQRO%VeQORS#ogQRO$uP&V#j",
    "fQRO$uP6zgQRO$uP,V|dQRO#+QeQRO$P&khQRO$P&kP$m+UfQRO&kP|gQRO$vPY|gQRO$vP,V|eQORS$veQRO-[#TeQORS0x",
    "eQRO&b$`dQRO1TeQRO$P$lhQRO$P$lP$m+UgQRO$P$lP|gQRO$lP$m+UfQRO$lP%ZfQRO$lP/|gQRO$r$lP/|eQORS$lfQOR",
    "S&T$lfQRO$oP|dQRO-iiQRO/p&jP#OU|fQRO=n$r-ifQRO-iP)`eQRO$P%YgQRO%YP,V|eQRO#`#RdQRO%hfQRO&yP|eQRO$",
    "P&yeQRO$P&aeQRO$P%UeQORS%UgQRO$nP,V|fQRO$nP)`dQRO+OfQRO+OP)`dQO)l%aeQO#0h+c#$keQO&T)l%adQO#8Q%cd",
    "QO7S-aeQORS&[fQRO&b$^#cgQORS%iP|eQORS%RfQRO&jPG]eQRO$P%yeQORS$ufQRO'tP|fQO)l%aP#OgQO$r)l%aP#OeQR",
    "O,m(feQROH[(fgQRO,m(fP)`eQRO#;](feQRO#9h(fgQRO#9T(fP)`eQRO##h(feQRO#+q(feQRO#+u(fdQO7S;zdQOCS;zg",
    "QRO$P%RP/|iQRO$P%RP/|U%Zd#kOR%Rf#kOR%RP|d#kOR&jd#kOR$le#kOR$P$lg#kOR$P$lP|f#kORS&T$ld#kOR&ad#kOR",
    "%Uc#kO)Wd#kOe)Wd#kO$P%[c#kO-Zd#kO$r%[e#kO[#t%ge#kOY#t%gd#kO)l%ae#kO$r)l%ad#kOY#wd#kO[#wd#kOv#wd#",
    "kOx#wd#kO#n&Oa$sd#kOj$Zc#kO$Rd#kO#f&Od#kO$Q&Oe#kO%nj$Zd#kO%n$Re#kO%n$Q&Oe#kO%n#f&Od#kO.w(de#kO#t",
    ".w(df#kO*T[#t%gf#kO*TY#t%gd#kOv%pd#kOx%pd#kO%jbd#kO'Pba$dbh`b%g`a(`bR#jce#f&Od#kO#3]|d#kO%]&Od#k",
    "OR+td#kOR$ud#kOR$od#kOR%Xf#kOR$r)l%ae#kO#!|&m#Re#kO,s&m#Re#kO#,t&m#Re#kO%n&m#Re#kO##O&m#Rf#kO/O3",
    "Q&m#Uf#kO.|3Q&m#Uc#kO#=xc#kO#;sd#kOe-Ze#kO%nx#we#kO%nv#we#kO%nY#we#kO%n[#wd#kO%n%ge#kO&V$Q&Of#kO",
    "&Ve$Q&Of#kO&Ve#f&Od#kO%n#jd#kO(t(de#kO6y,s&me#kO)P,s&me#kO6y%n&me#kO)P%n&mc#kO=Sd#kO$^=Se#kO%nYT",
    "cp$Q&Ocp#f&Ocp#n&Obp#jbp$Rbp,Rbp$dcph`bp#pcp|`cp%g`dpe#f&Obp$sdpj$Z`epej$Z`dpe$Q&ObpDpcp&T$ddp$P",
    "%[`cp%[`dp$r%[`dp%[`[dp$Q&Okdp#f&OkdpY%pkdp[%pkdpY$W`bp&RepY#t%gkdpv%pkdpx%pkdp%jbkdp'Pbkdp#/j|k",
    "dp,V|kcphkcp#pkcp%gkcp%[kbp&Pbp(`dpj$Zkcp-^kep&TeAlkcp$skdp#n&Okcp$dkdp&T$dkcp#jkcp$Rkcp%n$Zdpe%",
    "n$Zcp#j(Wdp&u#O(Wdp$m#O(Wdp&u'R(Wdp$m'R(Wep[#t%gkdp&T-^kcpskcp#4qkcp%X`cpj#jcpe,Rdp$Q&m#Udp#f&m#",
    "UcpW$qcpW:cdpW'o'bcpW%bcp-^`dp%kbkepej$ZkdpY$Wkdp$O#j`cp9r`ep(S#Pm`epY[Tkdp#]Tkcp#%h3qdp[#w`epY#",
    "t%g`bp##icp%XkdpY#wkdp[#wkgp[#wUv#wkep[#t%g`dph`[cp$zkdpe%gkcp/P`dpe$dkcpe$dcpe$Rdpe$Rkcpe#jdpe&",
    "T$depegTkepQRO#YepQRO#cepQRO#oepQRO#TepQRO#`epQRO%cepQRO%QepQRO%RepQRO&kepQRO$lepQRO%YepQRO&yepQ",
    "RO%XdWSO9ldWRO9leWSO/U1eeWRO/U1ecW$cbdW$V$cbeWSO;s/leWRO;s/l#UW%bfWR$r)n)fVfWR)a)n)fVgWR$r)a)n)f",
    "VcW(s#UdWSO?Z#vW'bcW'o'bfWSO$aP'bcWAc#9`fWSO&wP'bfWSO$pP'bfWSO%VP'bvWSO'WP'bvWSO%hP'bfWSO$`P'bhW",
    "RO%VP'oU'bdWSO$adWSO2`dWSO+tdWSO*xdWSO&wdWSO?]dWSO$pdWSO1rdWSO%VdWSO3rdWSO:edWSO.WdWSO.[dWSO6YdW",
    "SO'WdWSO*ddWSO*ftWSO)fdWSO>UdWSO%hdWSO1TdWSO2ldWSO1ZdWSO$`fWSO%VP'ofWSO%hP'ofWRO$aP'bfWRO&wP'bfW",
    "RO$pP'bfWRO%VP'bhWRO%hP'oU'bdWRO$adWRO2`dWRO+tdWRO*xdWRO&wdWRO?]dWRO$pdWRO1rdWRO%VdWRO3rdWRO:edW",
    "RO.WdWRO.[dWRO6YdWRO'WdWRO*ddWRO*feWRO##o)fdWRO)fdWRO>UdWRO%hdWRO1TdWRO2ldWRO1ZdWRO$`fWRO%VP'ofW",
    "RO%hP'ofWRO'WP'bfWRO%hP'bfWRO$`P'bdWS:ZVcW2`VcW1rVeW%hP|VgW%hP#fU|VgW%hP#pU|VcW1TVcW*dVcW:ZVdWO/",
    "U,weWRO/U,wcWO=rdWRO=rcWO/ldWRO/lcWO,wdWRO,wcWO1edWRO1ed([SO=Rd([RO=Rd([SO8zd([RO8zd([SO:^d([RO:",
    "^d([SO9td([RO9td([SO9Zd([RO9Zd([SO=Vd([RO=Vd([SO8Yd([RO8YcW3rVcW*fVdW)n)fVcWO?ZdWS1rVdW)n&wVeW$r",
    ")n&wVdWSO=XdWRO=XeWS)n)fVdWSO<sdWRO<seW*fP#OVfWS$r)n)fVfWS)a)n)fVgWS$r)a)n)fVfXSO)mP$QdXSO:WdXSO",
    "/ndXSO9ceXSO>o)mdXSO/seXSO7e#odXSO6]dXSO:XdXSO0mdXSO0wdXSO>gdXSO:_fXSO#oP$QeXSO&u#`dXSO8kdXSO#Yd",
    "XSO/ZdXSO6RdXSO(^dXSO+ldXSO)mdXSO+gdXSO)|dXSO#oeXSO&u#odXSO'`dXSO)kdXSO*ZdXSO'edXSO#TdXSO+WdXSO/",
    "wdXSO/xdXSO*kdXSO#`dXSO8ndXSO(kdXSO1ydXSO(YdXSO<|dXSO=QeXSO-wbdXSO2UeXSO.nbdXSO#cdXSO*odXSO*ndXR",
    "O#YdXRO/ZdXRO6RdXRO(^dXRO+ldXRO)mdXRO+gdXRO)|dXRO#oeXRO&u#odXRO'`dXRO)kdXRO*ZdXRO'edXRO#TdXRO+Wd",
    "XRO/wdXRO/xdXRO*kdXRO#`dXRO8ndXRO(kdXRO1ydXRO(YdXRO<|dXRO=QeXRO-wbdXRO2UeXRO.nbdXRO#cdXRO*odXRO*",
    "nfXRO)mP$QdXRO:WdXRO/ndXRO9ceXRO>o)mdXRO/seXRO7e#odXRO6]dXRO:XdXRO0mdXRO0wdXRO>gdXRO:_fXRO#oP$Qe",
    "XRO&u#`dXRO8kdXSO$`dXRO$`dXSO?XdXRO?XeXSO,u#ceXRO,u#ceXSO0l+feXRO0l+ffXSO,u0l+ffXRO,u0l+feXSO,d+",
    "feXRO,d+ffXSO,u,d+ffXRO,u,d+fdXSO:ddXRO:ddXSO1ZdXRO1ZdXSO9OdXRO9OdXSO0fdXRO0fhXSO0fPe$Q&OhXRO0fP",
    "e$Q&OdXSO>ndXRO>neXSO1d$`eXRO1d$`fXSO$`P5vfXRO$`P5vdXSO;kdXRO;kdXSO,wdXRO,wcX>]bcpX5vcpX#/idpX#h",
    "<TdpX#l<TcpX#1^epX%d>]bdpX#,|bgXSO&u#oP%ZgXRO&u#oP%ZeXSO<ybeXRO<ybfXSO/wP)zfXRO/wP)zfXSO(^P>sfXR",
    "O(^P>sfXSO(^P#OfXRO(^P#OgXSO(^P&V|gXRO(^P&V|fXSO+gP&cfXRO+gP&cfXSO)|P&cfXRO)|P&cfXSO'`P&cfXRO'`P",
    "&cgXSO'`Pj#OgXRO'`Pj#OfXSO'`P#OfXRO'`P#OeXSO6s'`eXRO6s'`fXSO'eP&cfXRO'eP&ceXS(_'e(^eXR(_'e(^gXSO",
    "+WP&V|gXRO+WP&V|eXSO*p(keXRO*p(kfXSO/xP&cfXRO/xP&cfXSO*kP&cfXRO*kP&ceXSO.q#`eXRO.q#`gXSO.q#`P#Og",
    "XRO.q#`P#OfXSO(kP&cfXRO(kP&ceXS(_*k1yeXR(_*k1yfXSO(YP&cfXRO(YP&cgXSO(YPj#OgXRO(YPj#OdXSO1idXRO1i",
    "eXSO*p(YeXRO*p(YgXSO*p(YP&cgXRO*p(YP&ccXO;rfXSO+gP$dfXRO+gP$dfXSO'`P|fXRO'`P|fXSO)kP%ZfXRO)kP%Zf",
    "XSO'eP|fXRO'eP|fXSO'eP%ZfXRO'eP%ZeXSO:](YeXRO:](YfXSO*ZP%ZfXRO*ZP%ZdXRO;rfXSO#YP$dfXRO#YP$dfXSO#",
    "YP#pfXRO#YP#peXS(_#Y)meXR(_#Y)mfXSO)mP$dfXRO)mP$ddXSO+YdXRO+YfXSO+YP#pfXRO+YP#pfXSO+gP#pfXRO+gP#",
    "pfXSO)|P#pfXRO)|P#peXSO*p/seXRO*p/sfXSO#oP$RfXRO#oP$RfXSO#oP#pfXRO#oP#pfXSO#TP#pfXRO#TP#peXSO-[#",
    "TeXRO-[#TgXSO-[#TP#pgXRO-[#TP#pfXSO#cP#pfXRO#cP#pfXSO#`P$RfXRO#`P$RfXSO#`P#pfXRO#`P#pgXSO#`Pe#fg",
    "XRO#`Pe#ffXSO(YP#pfXRO(YP#pfXSO(^P&cfXRO(^P&cfXSO2UP#pfXRO2UP#phXSO(^P#OU|hXRO(^P#OU|fXSO(kP|fXR",
    "O(kP|fXSO(kP#OfXRO(kP#OeXSO'z+leXRO'z+leXSO'z/neXRO'z/neXSO'z?_eXRO'z?_eXSO'z8leXRO'z8leXSO'z0me",
    "XRO'z0meXSO'z0weXRO'z0weXSO'z=^eXRO'z=^eXSO'z>aeXRO'z>aeXSO$r)|eXRO$r)|fXSO)kP|fXRO)kP|dXSO:ldXR",
    "O:ldXSO<ldXRO<ldXSO6ZdXRO6ZdXSO<`dXRO<`dXSO.ydXRO.yeXSO6d'`eXRO6d'`gXSO)kP&V|gXRO)kP&V|gXSO'eP&V",
    "|gXRO'eP&V|fXSO+WP&cfXRO+WP&cfXSO1iP&cfXRO1iP&cgXSO'ePY|gXRO'ePY|dXSO8mdXRO8mdXSO8VdXRO8VfXSO)kP",
    "&cfXRO)kP&c#*8_QSO#YP%gkgQRO#YP%gkgQSO&[Ph`gQRO&[Ph`gQSO&[PhkgQRO&[PhkgQSO&[P$ZkgQRO&[P$ZkhQSO%c",
    "P&PU#fhQRO%cP&PU#fgQSO%QPh`gQRO%QPh`gQSO%QPhkgQRO%QPhkgQSO%QP$ZkgQRO%QP$ZkfQSO%QP&PfQRO%QP&PgQSO",
    "%QP#nkgQRO%QP#nkhQSO#cP$RU$QhQRO#cP$RU$QhQSO#cP$RU#fhQRO#cP$RU#fgQSO#cP#nkgQRO#cP#nkgQSO#cP#jkgQ",
    "RO#cP#jkhQSO#cP&PU$dhQRO#cP&PU$dgQSO'_Ph`gQRO'_Ph`fQSO%iP$RfQRO%iP$RgQSO%RPh`gQRO%RPh`gQSO%RPhkg",
    "QRO%RPhkfQSO%RP#pfQRO%RP#pfQSO%RP&PfQRO%RP&PgQSO%RP$dkgQRO%RP$dkgQSO#oP#jkgQRO#oP#jkhQSO#oP#pU#f",
    "hQRO#oP#pU#ffQSO%yP#ffQRO%yP#fgQSO%yPhkgQRO%yPhkgQSO%yP$ZkgQRO%yP$ZkgQSO$uPhkgQRO$uPhkiQSO$uPhkU",
    "$RiQRO$uPhkU$RgQSO$uP$ZkgQRO$uP$ZkgQSO$uP#nkgQRO$uP#nkfQSO&kP#ffQRO&kP#fgQSO&kPh`gQRO&kPh`gQSO&k",
    "PhkgQRO&kPhkgQSO$vPh`gQRO$vPh`gQSO$vPhkgQRO$vPhkgQSO$vP$ZkgQRO$vP$ZkgQSO$vP#nkgQRO$vP#nkhQSO#TP#",
    "jU#fhQRO#TP#jU#fhQSO#TP#jU#phQRO#TP#jU#phQSO#TP$RU$QhQRO#TP$RU$QhQSO#TP$RU#fhQRO#TP$RU#ffQSO&sP#",
    "ffQRO&sP#fgQSO&sPh`gQRO&sPh`gQSO$lPh`gQRO$lPh`gQSO$lPhkgQRO$lPhkiQSO$lPhkU$RiQRO$lPhkU$RgQSO$lP$",
    "ZkgQRO$lP$ZkgQSO$oPh`gQRO$oPh`gQSO$oPhkgQRO$oPhkiQSO$oP#fUh`iQRO$oP#fUh`iQSO$oP$sUh`iQRO$oP$sUh`",
    "jQSO$oPhkUh`jQRO$oPhkUh`gQSO%YPh`gQRO%YPh`gQSO%YPhkgQRO%YPhkgQSO%YP$ZkgQRO%YP$ZkgQSO%YP#nkgQRO%Y",
    "P#nkgQSO#`P#pkgQRO#`P#pkgQSO#`P#jkgQRO#`P#jkgQSO#`P#nkgQRO#`P#nkhQSO#`P#jU#fhQRO#`P#jU#fhQSO#`P$",
    "RU#phQRO#`P$RU#pfQSO&yP#jfQRO&yP#jgQSO&yPhkgQRO&yPhkfQSO&aP$QfQRO&aP$QfQSO&aP#ffQRO&aP#ffQSO&aP#",
    "pfQRO&aP#pgQSO&aPh`gQRO&aPh`gQSO&aPhkgQRO&aPhkgQSO%XPh`gQRO%XPh`fQSO%XP#pfQRO%XP#pgQSO%UPh`gQRO%",
    "UPh`fQSO$nP#nfQRO$nP#ngQSO$nPhkgQRO$nPhkgQSO$nP$ZkgQRO$nP$ZkgQRO%RP$ZkfQRO%YP#pgQRO&aP%g`gQRO%UP",
    "%g`hQRO#YP[#t%ghQRO$m$oPh`hQRO$m$oP&p#OhQRO$m$oP,s#OeQSO5[$odQRO*xgQSO#YPhkgQRO#YPhkgQSO#YP|`gQR",
    "O#YP|`hQSO#YP#nU#fhQRO#YP#nU#fhQSO#YP#nU$QhQRO#YP#nU$QiQSO#YP#nU|`iQRO#YP#nU|`hQSO#YP#nU#jhQRO#Y",
    "P#nU#jiQSO#YP#nUhkiQRO#YP#nUhkhQSO#YP$dU#fhQRO#YP$dU#fhQSO#YP$dU$QhQRO#YP$dU$QiQSO#YP$dU|`iQRO#Y",
    "P$dU|`hQSO#YP$dU#jhQRO#YP$dU#jiQSO#YP$dUhkiQRO#YP$dUhkgQSO#cPhkgQRO#cPhkgQSO#cP|`gQRO#cP|`fQSO#c",
    "P#jfQRO#cP#jhQSO#cP#nU#fhQRO#cP#nU#fhQSO#cP#nU$QhQRO#cP#nU$QiQSO#cP#nU|`iQRO#cP#nU|`hQSO#cP#nU#j",
    "hQRO#cP#nU#jiQSO#cP#nUhkiQRO#cP#nUhkgQSO#oP|`gQRO#oP|`gQSO#oPhkgQRO#oPhkgQSO#TPhkgQRO#TPhkgQSO#T",
    "P|`gQRO#TP|`hQSO#TP#nU#fhQRO#TP#nU#fhQSO#TP#nU$QhQRO#TP#nU$QiQSO#TP#nU|`iQRO#TP#nU|`hQSO#TP#nU#j",
    "hQRO#TP#nU#jiQSO#TP#nUhkiQRO#TP#nUhkhQSO#TP&RU#fhQRO#TP&RU#fhQSO#TP&RU$QhQRO#TP&RU$QiQSO#TP&RU|`",
    "iQRO#TP&RU|`hQSO#TP&RU#jhQRO#TP&RU#jiQSO#TP&RUhkiQRO#TP&RUhkgQSO#`PhkgQRO#`PhkgQSO#`P|`gQRO#`P|`",
    "hQSO#`P&RU#fhQRO#`P&RU#fhQSO#`P&RU$QhQRO#`P&RU$QiQSO#`P&RU|`iQRO#`P&RU|`hQSO#`P&RU#jhQRO#`P&RU#j",
    "iQSO#`P&RUhkiQRO#`P&RUhkfQSO%UP$QfQRO%UP$QgQSO%UPhkgQRO%UPhkgQSO%UP|`gQRO%UP|`fQSO%UP#jfQRO%UP#j",
    "eQSO0s:seQRO0s:seQSO0s&yeQRO0s&yfQSO%UP+yfQRO%UP+yfWRO$aP#lfWRO$aP#hhWRO$aP#lU$UhWRO$aP#hU$UhWRO",
    "$aP#lU$ShWRO$aP#hU$ShWRO$aP#lU$qhWRO$aP#hU$qfWSO$aP#lfWSO$aP#hhWSO$aP#lU$UhWSO$aP#hU$UhWSO$aP#lU",
    "$ShWSO$aP#hU$ShWSO$aP#lU$qhWSO$aP#hU$qfWRO&wP#lfWRO&wP#hhWRO&wP#lU$UhWRO&wP#hU$UhWRO&wP#lU$ShWRO",
    "&wP#hU$S#YWSO&wP#lfWSO&wP#hhWSO&wP#lU$UhWSO&wP#hU$UhWSO&wP#lU$ShWSO&wP#hU$S#YWRO$pP#lfWRO$pP#hhW",
    "RO$pP#lU$UhWRO$pP#hU$UhWRO$pP#lU$ShWRO$pP#hU$ShWRO$pP#lU$qhWRO$pP#hU$qfWSO$pP#lfWSO$pP#hhWSO$pP#",
    "lU$UhWSO$pP#hU$UhWSO$pP#lU$ShWSO$pP#hU$ShWSO$pP#lU$qhWSO$pP#hU$qfWRO%VP#lfWRO%VP#hhWRO%VP#lU$UhW",
    "RO%VP#hU$UhWRO%VP#lU$ShWRO%VP#hU$ShWRO%VP#lU$qhWRO%VP#hU$qfWSO%VP#lfWSO%VP#hhWSO%VP#lU$UhWSO%VP#",
    "hU$UhWSO%VP#lU$ShWSO%VP#hU$ShWSO%VP#lU$qhWSO%VP#hU$qfWRO'WP#lfWRO'WP#hhWRO'WP#lU$UhWRO'WP#hU$UhW",
    "RO'WP#lU$ShWRO'WP#hU$S#YWSO'WP#lfWSO'WP#hhWSO'WP#lU$UhWSO'WP#hU$UhWSO'WP#lU$ShWSO'WP#hU$S#YWRO%h",
    "P#lfWRO%hP#hhWRO%hP#lU$UhWRO%hP#hU$UhWRO%hP#lU$ShWRO%hP#hU$ShWRO%hP#lU$qhWRO%hP#hU$qvWSO%hP#hxWS",
    "O%hP#hU$UxWSO%hP#hU$SxWSO%hP#hU$qfWRO$`P#lfWRO$`P#hhWRO$`P#lU$UhWRO$`P#hU$UhWRO$`P#lU$ShWRO$`P#h",
    "U$ShWRO$`P#lU$qhWRO$`P#hU$qfWSO$`P#lfWSO$`P#hhWSO$`P#lU$UhWSO$`P#hU$UhWSO$`P#lU$ShWSO$`P#hU$ShWS",
    "O$`P#lU$qhWSO$`P#hU$qfWRO$aP$UfWRO$aP$SfWRO&wP$UfWRO&wP$SfWRO$pP$UfWRO$pP$SfWRO%VP$UfWRO%VP$SfWR",
    "O'WP$UfWRO'WP$SfWRO%hP$UfWRO%hP$SfWRO$`P$UfWRO$`P$S#[WRO$aP#lU%bhWRO$aP#hU%bjWRO$aP#lU$UU%bjWRO$",
    "aP#hU$UU%bjWRO$aP#lU$SU%bjWRO$aP#hU$SU%bjWRO$aP#lU$qU%bjWRO$aP#hU$qU%bhWSO$aP#lU&WhWSO$aP#hU&WjW",
    "SO$aP#lU$UU&WjWSO$aP#hU$UU&WjWSO$aP#lU$SU&WjWSO$aP#hU$SU&WjWSO$aP#lU$qU&WjWSO$aP#hU$qU&WhWRO$pP#",
    "lU%bhWRO$pP#hU%bjWRO$pP#lU$UU%bjWRO$pP#hU$UU%bjWRO$pP#lU$SU%bjWRO$pP#hU$SU%bjWRO$pP#lU$qU%bjWRO$",
    "pP#hU$qU%bhWSO$pP#lU&WhWSO$pP#hU&WjWSO$pP#lU$UU&WjWSO$pP#hU$UU&WjWSO$pP#lU$SU&WjWSO$pP#hU$SU&WjW",
    "SO$pP#lU$qU&WjWSO$pP#hU$qU&WhWRO$`P#lU%bhWRO$`P#hU%bjWRO$`P#lU$UU%bjWRO$`P#hU$UU%bjWRO$`P#lU$SU%",
    "bjWRO$`P#hU$SU%bjWRO$`P#lU$qU%bjWRO$`P#hU$qU%bhWSO$`P#lU&WhWSO$`P#hU&WjWSO$`P#lU$UU&WjWSO$`P#hU$",
    "UU&WjWSO$`P#lU$SU&WjWSO$`P#hU$SU&WjWSO$`P#lU$qU&WjWSO$`P#hU$qU&WfWRO$aP-XfWRO$aP$RhWRO$aP$UU%bfW",
    "RO$aP%bhWRO$aP$SU%bvWRO$aP$qhWRO$aP$qU%bfWSO$aP-XfWSO$aP$RfWSO$aP$UfWSO$aP$SfWSO$aP&WbW:cbW&WbW#",
    "lbW$qdW'oU$qhWRO$pP$UU%bfWRO$pP%bhWRO$pP$SU%bvWRO$pP$qhWRO$pP$qU%bfWSO&wP$UfWSO&wP$SfWSO$pP$UfWS",
    "O$pP$SfWSO$pP&WdW#lU$UdW#lU$SdW#lU$qfWRO%VP-XfWRO%VP$RhWRO%VP'oU$UhWRO%VP'oU$S#YWRO%VP$qhWRO%VP'",
    "oU$qfWSO%VP-XfWSO%VP$RfWSO%VP$UfWSO%VP$StW#hU$UdW#hU$SdW#hU$qfWRO%hP-XfWRO%hP$RhWRO%hP'oU$UhWRO%",
    "hP'oU$SfWRO*fP#lfWRO*fP#hfWRO%hP$qhWRO%hP'oU$qfWSO%hP-XfWSO%hP$RfWSO%hP$UfWSO%hP$SfWSO*fP#hdW'oU",
    "$UdW'oU$SbW$U#[WRO$`P$UU%bfWRO$`P%bhWRO$`P$SU%bvWRO$`P$qhWRO$`P$qU%bfWSO'WP$UfWSO'WP$SfWSO$`P$Uf",
    "WSO$`P$SfWSO$`P&WbW$SbW#hr'e&lb*Z&lb'e'ub*Z'ub#9r'ub#$c'ub#6Y'ub3]'ub-O'ub5p'ub-v'uc(R*m'uc(R*m#",
    ".ac(R*m3qb0k#Ub1c#Ua-yb#.`-yb3]%^b'e%^b*Z%^b#b#Rcej$Zce%n$ZdY&Y&X#Ud[&Y&X#Ud&Y:v&X#Ud&Y9m&X#UdYe",
    "&X#Ud[e&X#Ude:v&X#Ude9m&X#Ua2|be2|a(Xb.w(Xc#yh3yc#_h3yb#b-hb#(W,Ub$Z*hb;t*hb0k8ob1c8oc<V8a#$`b0k",
    ";pb1c;pc.X;_'uc4h#,zbd4h'l+^ba)Wbe)Wb%r)Wb$r)Wc$re)Wc$r%r)Wa,ie&Y'a$W&X#Ue&Y&z$W&X#Ub#3O#Uce(j#U",
    "a0aa,Ra>qbEa5uc,i:S,UaAwb-y(Xb'O)yeYs#QP<ae[s#QP<ace(s#Uc(s(j#Uc(j(s#Uc#:Sb-jc$r<QbcZl(XcZg(Xb%n",
    "$zb$r.kbFVvd#_Av?w#=dc/c'Pbb#8n%^b&T>qc-s-O#Uc$Th-Ob)t)Wc$fh-Oc$yh-Oc#_h-Oc$fh#Ub)a%]a#:kcj$f']c",
    "#v(m'ub#>m3qb9WAhb3p*lb3p*hb3p%jr0k0db1c0dc-q#8T0dc<V8a0dc:R>P=|c6`>P=|d:R6k%_=Pd6`6k%_=Pc;W#W=O",
    "c#._#W=Ob'v(Re'vQRO#o#U'v$fb'v$yb'v%`b'v&`b'v$|b'v&rc'v%jbb'v'Pc'v%kbc'vY%uc'v[%ue'vQRO$vb%|(Rb%",
    "|#yb%|#_b%|$Tb%|$fb%|$yb%|%`b%|&`b%|$|b%|&rc%|%jbb%|'Pc%|%kbc%|Y%uc%|[%uuQ%|RO#YeQ%|RO#ceQ%|RO#T",
    "eQ%|RO%XeQ%|RO+YeQ%|RO%ReQ%|RO%yeQ%|RO$ueQ%|RO&keQ%|RO$veQ%|RO&seQ%|RO$oeQ%|RO%Y#f#!obb(dbbGdbc9",
    "V#$hbb:pbb#,ybb#-sbb#0ebb<qbb?Tbc0u#5qbbHwbb8vbb#*Wbb#;_bbNsbc#%P#0[bb#0fbb#%mbbBRbb#(ObbEXbc#+c",
    "#:_bb#7Ubb#9fbc#)i<qbc#;d:pbc#.d#Ubb#,Obb#3xbb#*nbbC_bb#6xb'xpY#x`dp[#x`ep$mj$Z(Wep&uj$Z(Wdp&|T`",
    "dp'yT`dpYT`dp[T`cp%g(Wdp'y%g(Wdp&|%g(Wdp$T']`dp$f']`cp+qycp+qscp+q$tdp+qy+iepY[T`cp+q.icp+q:[ep+",
    "q#<Q#u#Xdp'i'R(Wepej#O(WcpAbVcp%r#;udp#>c-^`dplT(Wep$me'R(Wfpg#xP#S#[fpl#xP#S#[dpYTkdp[Tkcp$z`'v",
    "6^fd?im)Z#8Xc'pS%cb3OEZc*S$ZVbDyfbDg#;qb#!n2sa#4ob3O##[c'ZR%ic'ZS%Rc-]S%Rc'pS%Rb<S2se<S2s'X#_*dc",
    "'ZS#oc-]S#oc'ZS$uc'ZR$ud$u&[#RVc'pS$vb#.lbc(P#2x7wc'ZS&sc'pS&sc'pS'tc'ZS$lc-]S$lc'pS$lb#1t#8xa#3",
    "Xb#5c#Ub)Ybc#:d#Uba#<^c'pS$nb;mbb;dbc&T;dbc-]S$ne$PWRO%Vb#*TbbA_bc'ZS&[c-]S%cb#!kVc'ZR#cc'ZS#cc'",
    "ZS'_c$PS'_c'ZS&kc'ZR#Tb?vVbCOVb#%TVbGqVb3o5dc$]S'tb##Ybc'pR*dc'pR+tc'pS+tc'pS*dc'p's.sd$P%SS%id$",
    "P%SS$ud$r%SS$ud$P%SS%Ud'p+vS%Qd'p+vR%Qd'p+vR#cd'p+vR#od'p+vR&jb#2U$Zb$P,_b4hba?tc$PR'_dVc#4Y5dd'",
    "d'O#y#5fd'd'O#y#.]d'd'O#y#9gd'd'O#y5qd'd'O#_1sd'd'O#y##md'd'O#_3[d'd'O$T3[d'd'O$f3[d'd'O#y#6]d'd",
    "'O$y#6^d'd'O#y+od'd'O$T*Yd'd'O$y*Yd'd'O&`*Yc'O#.k#yc%W$c#yc%W$c#_c%W$c$Tc%W$c$fc%W$c$yc%W$c%`c%W",
    "$c&`c%W$c$|c%W$c&rc%W$c'lc%W$c+pc%W$c)gc%W$c/yd%W$c#y%dd%W$c$y%dd%W$c#y+^dR%W$c#ydR%W$c#_dR%W$c$",
    "TdR%W$c$fdR%W$c$ydR%W$c%`dR%W$c&`dR%W$c$|dR%W$c&rdR%W$c'ldR%W$c+pdR%W$c)gdR%W$c/yeR%W$c#y%deR%W$",
    "c$y%deR%W$c#y+^f%W$c#y+^%c%Qd%W$c$y+^d%W$c'l+^e%W$c$r#y%deQRO$r%ce%W$c%`#*o%_e%W$c/y#!V%_d%W$c/y",
    "+^e%W$c#y%d+^d'd'O(R1sc$P#W#_c$P#W$T#vlTb#]TbgTb#[TcY[TcvxTc#|$iTc#|#zTc$_#zTc$_$iTdlTP#OdgTP#Oc",
    "l(wTcg(wTdl#_0ZTd#]#_0ZTdg#_0ZTd#[#_0ZTdlTP%ZdgTP%ZdlT&^#Rd#]T&^#RdgT&^#Rd#[T&^#RevxTPBldlTP|dgT",
    "P|dlTP+ydgTP+ydY[(wTeY[TP#Oc#[/PTe#]TP'wle#]TP'wge#[TP'wle#[TP'wgegTP%w#[e#[TP%wld&|%q.jTd'y%q.j",
    "Tf#|$iTm$m#RilTm#R'XgTm#Rd&|$^yTd'y$^yTel#xP#S#]el#xP#S#[e#]#xP#Sge#]#xP#Sleg#xP#S#]eg#xP#S#[e#[",
    "#xP#Sge#[#xP#SlegT'XlTf#]Tlf#[TelT'XgTcl+V'mc#]+V'mcg+V'mc#[+V'mel#x'Xg#xeg#x'Xl#xeleTP#OfY[eTP#",
    "OegeTP#OcleTc#]eTcgeTc#[eTdY[eTdvxeTd#|$ieTd#|#zeTd$_#zeTd$_$ieTcl%rTcg%rTcl1oTcg1oTe#]TPe#Oe#[T",
    "Pe#Ocl(|Tc#](|Tcg(|Tc#[(|TdlTm#RdgTm#Rcl]Tc#]]Tcg]Tc#[]Te#]]T&^#Re#]]T(V1Ph#]]T(V1PP#b#Rh#]]T(V1",
    "PPj#Rd#]]eTf#]]eT(V1Peg]T&^#>Ue#|$iTm%we$_#zTm%wdvx]Te[TPRyf#[Tlf#]Tc$Tg'melTPj#OegTPj#OfY[TPj#O",
    "flTPej#OfgTPej#OgY[TPej#Ocl4cTcg4cTdY[4cTbc/RaFgb#/vHab>Y#!ud>Y)O$O#!tb(i,Xa#)ha#-qb(hfd$O6f(hfc",
    "R(hfc*X*r0qe)O$O2u*r0qdR*X*r0qc)Pf#2Tb's(rb's7vb's.sb'Pbb#-Rbbh%jb*y)yb,X'Pb$z$wb%g$wb(X$wbs5Qb8",
    "Q5Qb#$e5Qb#2Vma-zb[$Wa$Wb)S$Wb5e$WaHmc)O$O3Sb*cmc$O*cmb%zUb%z#ga'fa'[a&ibe&ib%r&ib2v&ib#8d&ib#>O",
    "&ib'y&ic'y2v&ic&|2v&ia#9kaBwa#2ra<^bh'Pa#!rb#%O<^a9rb#j$wb$r#jc&T#*r$ob#6V(wb#>u(rb$O#jb'P#jc6o#",
    "Pmd$O6o#Pmc,a#Pmf,a*R$O6a#Pmf*b,a)o6a#Pmc(S#Pmd$O(S#Pme(S#P#g#Pmb%r#jc/R#Pmb(Umc9_(UmbH`/]cAi)Z#",
    "+Xc9_#Pmg,a#Pm#g)Z*^ff*^f#g,a#Pmb(d%kb%k(dd%g%O#Pmc%g#PmbGOma#!lb#!jmb$[%kc*x#Pmd#Pm)]HRb)S)]c#2",
    "d#Pmc$O#Pmb0_mc$O0_mc#8R(Umd$Y#g#Pmd$X#g#Pmd$Y'X#Pmd$X'X#Pme$Y*R$O#Pme$X*R$O#Pmb0t$Yb0t$Xa/]c$O(",
    "Umb$O$Yb$O$Xe*b$Y)o#Pme*b$X)o#Pmd$Y#g(Umd$X#g(Ume*b$Y)o(Ume*b$X)o(Umc$Y#g$Xc$X#g$Yd*b$Y)o$Xd*b$X",
    ")o$Ya(qa(vd(q#g#Pmd(v#g#Pmd(q#g(Umd(v#g(Umc)O$O<Xc)O$O=wb&ffb&gfd$O#Y&ffd$O#Y&gfe&ff#g#Pme&gf#g#",
    "Pmg*b#Y&ff)o#Pmg*b#Y&gf)o#Pmf&ffP$O#Pmf&gfP$O#Pma4Xb4X(nb4X'[cs*^fcs.^ffs*^f#g#Pmfs.^f#g#Pmbs2jb",
    "s/gbd%jbd'Pbd*lcd*y)ycdh$wcd%g$wcd$z$wbd%kbd%^bn%jbn'Pbn*lcnh$wb[%pbY%pbx%pbv%paAua#-Ua6Oa#$^e%r",
    "j#R[+afej#Re[+ac)O$O#2Xb$O6Oc)O$O#$]g;Xej#Re[+ac(q6Q1`c(v6Q1`c)p+[fd*X*r)p+[f)p+[f#g#Pmg*X*r)p+[",
    "#g#Pmb.^fb*^fa4Wc#&fFp#,aa#)la#>za#-ua)od[$WP'Sb[#Xc's%zUc's%z#gb's'fb's'[b$t$wbh$wb$[$wb*y*la/_",
    "eY)p8x.l(re[)p8x.l(rcY.l(rc[.l(rc$r#j%kc&Q%z#gc&Q%zUbe&fbe&gbe'fbe'[a<Rd#PU*cmc$YPhc$XPhc%s0t$Yc",
    "%s0t$Xe$Y#Pm#g$Xe$X#Pm#g$Yd#Pm#g$Yd#Pm#g$Xd#Pm#g(qd#Pm#g(ve)O$O<X#g#Pe)O$O=w#g#Pg$Os*^f#g#Pmg$Os",
    ".^f#g#Pmgs*^f#g$O#Pmgs.^f#g$O#Pme$Y*R$O(Ume$X*R$O(Ume(q*R$O(Ume(v*R$O(Umd$O)p+[ff)O$O2u*r)p+[g$O",
    ")p+[f#g#Pmh)O$O2u*r)p+[#g#Pbj-hc#,u#b-hdv[&p-hdx[&p-hf(hfP$m#b#Oj(hfPj#R(x)Pf#b#OkR(hfPj#R(x)Pf#",
    "b#Oe(hfPh`d(hfP(peR(hfP(pd(hfP&nf(hfP#_#b=ue*XP$m#b#Oi*XPj#R(x)Pf#b#OjR*XPj#R(x)Pf#b#Oc*XP(pdR*X",
    "P(pd$n(o/X#,ibH^bb/uTa-xbv#wbx#wa#2Ra#0db,]$ZbY7ib[7ibY3`b[3`c&o[/fc&oY/fc%q[/fc%qY/fc$r$Obbs(la",
    "'Sa#4xa#4tb)Y#2wb4n%mb#=jsd,|f#)mbc$P$Oba#>Ya0^c%qY%wc%q[%wc&oY%wc&o[%wc%q#t&ic&o#t&ia#$pa=dfv#w",
    "/]#_#b6rb#/R*_d8rm)Z[e%X%O#Y-Qqa.Rc'a$W#Qc&z$W#Qd8rm)ZYb7O%gaGpb/RAna#8ob#:^#4QbHb#/VbFo#9Pa#6ka",
    "GQaGRd#r#sV#(Ye#r#sV#7b&le#r#sV&l#Pe#r#sV&l3Se#r#sV&l$te#r#sV&l+we#r#sV&lye#r#sVy-Te#r#sVy+we#r#",
    "sV)y#Re#r#sV+i#Re#r#sV&l)ye#r#sV&l+ie#r#sV&l$Ye#r#sV&l$Xe#r#sVl1|e#r#sVg1|f#r#sV&llTf#r#sV&lgTe#",
    "r#sVy+if#r#sVx%p&ne#r#sV*x-Tf#r#sV&lx,ie#r#sV&l*xf#r#sVx%p+we#r#sV#]1|f#r#sV&l#]Tf#r#sVv%p(pe#r#",
    "sV/j-Tf#r#sV&lv,ie#r#sV&l/jf#r#sVv%p+we#r#sV#[1|f#r#sV&l#[Te#r#sV<b&ne#r#sV*x&ne#r#sV$t&ne#r#sV+",
    "w&ne#r#sVy&nf#r#sVv,Y+we#r#sV<b&le#r#sVy$[e#r#sV&l(df#r#sVv%p#pe#r#sV/j#pe#r#sV$[#pe#r#sV+w#pe#r",
    "#sVy#pf#r#sVx,Y-Tf#r#sVY,Y-Te#r#sV#j#pe#r#sV$X#pe#r#sV%[#Re#r#sV/j#jd#r#sV#?Xe#r#sV-T#je#r#sV.k&",
    "nf#r#sV&l$O#Pe#r#sV&l(sf#r#sVx,i#jf#r#sVv,i#jd#r#sV%Vd#r#sV*fd#r#sV$`e#r#sV$a&ne#r#sV&w&ne#r#sV%",
    "V&ne#r#sV$`&nd#r#sV$ac$O*v#Uf[$WP#[/PTc#5y$^qb+jVej$ZP&Vhb:SVcFr>pVcHe>pVb#!cVb2pVf]sP*Sj$Zb#!eV",
    "cAO*_Vb#&bVed#b#RP#.gcd#Xxe/`yP#.fTb#;vVb#-]Vb#(XVc;h#%rVc;h#*eVb#/|Vb#0OVe8`8SV%_#_b#6wVd#r#sV&",
    "ld8W*h*_Vb#1w)sb#.U)sc#1z.iVcFS.iVdY%u$k|cY%u*|dY%u$V|d[%u$k|c[%u*|d[%u$V|eYs#Q$k%wdYs#Q*|eYs#Q$",
    "V%we[s#Q$k%wd[s#Q*|e[s#Q$V%weY&Q#Q$k|eY&Q#Q&V,SeY&Q#Q$V|c&Q#Q*|e[&Q#Q$k|e[&Q#Q&V,Se[&Q#Q$V|b&i*|",
    "c#b$Z*|h$kY#g$V[&Q#Q5Vh$k[#g$VY&Q#Q5Vb.s%qb.s&oc%qs#Qc&os#Qg&os#Q'X%qs#Qc#2jV&odYjq$Zd[jq$Zc#b1f",
    "#+Yc#b1f#+Zc#b1f#+[c#b1f#+]g(TVujU%q[g(TVujU&o[f(TVujPyh(TVuxU#bPyh(TVuvU#bPyf(TVujP#Xh(TVuxU#bP",
    "#Xh(TVuvU#bP#Xf(TVujU(wh(TVuxU#bP(wh(TVuvU#bP(wf(TVuxU#bf(TVuvU#bg(TVujU%qYg(TVujU&oYbs9Sb1aVb#!",
    "[Vcj$Z*|b*a$dd*a$m'X&ud*a&u'X$me*a$m'X#_1ke*a#_1k'X$md*a#_1k.Ob*a#:mb*a#9jb*a#0^b+n9fa#$ub%q%ub&",
    "o%uc%q&Q#Qc&o&Q#Qd%q&h%v#Qd&o&h%v#Qb]#:id7O%gPya#7xa##|b?d8Sb#!]'fc8W#!wVdZ&ze#XdZ'ae#XdZ(Qe#XdZ",
    "(ge#XgZ&ze#XPj#RgZ'ae#XPj#RgZ&z#XPej#Rb?u&]a#7wb#:O&]d0^P#$R#4ZdZ#v'a#XdZ#v&z#XdZ#v(Q#XdZ#v(g#Xc",
    "ej#RdZsc%adZyc<gb1YVc1Y#.wVc1Y(VVc1Y#6dVc#.n-kVcVc#.ieVc=qf#&WeVc=qf.teVc)Pf.teVc)Pf>dcVc#!dcVc6",
    "_cVc+jcVcBYdVc#b>SdVc$Z3ZdVcj>SdVc%_3ZdVcEP1adVc=U#/ZdVc=U%OeVcGu:n8teVc/k,j#yeVc/k,j#_eVc/k,j$T",
    "eVc/k,j$fdVc#a6_dVc#8q#)_fVc)Pf>d'TcVcDmeVc)Pf#vcVc=vcVc8tdVc-o*hdVc9g*hdVc<g*hdVc#;z*hcVc'ucVc8",
    "Zb7WVb$^qcVc4]eVc8Z%_#_eVc=v%_#_+f)d|b)d7lb)d0Sc)d&T0Sc)d6zDUc)d7_5ud)dCy2]9yd)dAWf*vb)d%^d)dGl6",
    "^$gc)de+i*Rd#W#ycd#W#_cd#W$Tcd#W$fcd#W$ycd#W%`cd#W&`cd#W$|cd#W&rcd$g'lcd$g+pcd$g)gcd$g1tcd$g0Tcd",
    "$g+scd$g.mcd$g1hcd$g-gcd$g0vcd$g-Wc#q#W#yc#q#W#_c#q#W$Tc#q#W$fc#q#W$yc#q#W%`c#q#W&`c#q#W$|c#q#W&",
    "rc#q$g'lc#q$g+pc#q$g)gc#q$g1tc#q$g0Tc#q$g+sc#q$g.mc#q$g1hc#q$g-gc#q$g0vc#q$g-Wd#W#y%t%ad#W#_%t%a",
    "d#W$T%t%ad#W$f%t%ad#W$y%t%ad#W%`%t%ad#W&`%t%ad#W$|%t%ad#W&r%t%ad$g'l%t%ad$g+p%t%ad$g)g%t%ad$g1t%",
    "t%ad$g0T%t%ad$g+s%t%ad$g.m%t%ad$g1h%t%ad$g-g%t%ad$g0v%t%ad$g-W%t%ae#qQRO#Ye#qQRO&[e#qQRO%ce#qQRO",
    "%Qe#qQRO#ce#qQRO'_e#qQRO%ie#qQRO%Re#qQRO#oe#qQRO&je#qQRO%ye#qQRO$ue#qQRO&ke#qQRO$ve#qQRO#Te#qQRO",
    "&se#qQRO'te#qQRO$le#qQRO$oe#qQRO%Ye#qQRO#`e#qQRO&ye#qQRO&ae#qQRO%Xe#qQRO%Ue#qQRO$nedQSO#YedQSO&[",
    "edQSO%cedQSO%QedQSO#cedQSO'_edQSO%iedQSO%RedQSO#oedQSO&jedQSO%yedQSO$uedQSO&kedQSO$vedQSO#TedQSO",
    "&sedQSO'tedQSO$ledQSO$oedQSO%YedQSO#`edQSO&yedQSO&aedQSO%XedQSO%UedQSO$nedQRO#YedQRO&[edQRO%cedQ",
    "RO%QedQRO#cedQRO'_edQRO%iedQRO%RedQRO#oedQRO&jedQRO%yedQRO$uedQRO&kedQRO$vedQRO#TedQRO&sedQRO'te",
    "dQRO$ledQRO$oedQRO%YedQRO#`edQRO&yedQRO&aedQRO%XedQRO%UedQRO$ncd#W(Rd#ad$g+pd#ad$g)gd#ad$g1td#ad",
    "$g0Td#ad$g+sd#ad$g.md#ad$g1hd#ad$g-gd#ad$g0vd#ad$g-Wded#W#yded#W#_ded#W$Tded#W$fded#W$yded#W%`de",
    "d#W&`ded#W$|ded#W&rded$g'ld#ad#W(Rdqtu#bdqta#bdqtujdqtajfqtu%r%^#bfqta%r%^#bfqtu%r%^jfqta%r%^jfq",
    "tu)t%^#bfqta)t%^#bfqtu)t%^jfqta)t%^jfqtuxU[gqtxuU[agqtxaU[ufqtaxU[fqtuxUYgqtxuUYagqtxaUYufqtaxUY",
    "fqtuvU[gqtvuU[agqtvaU[ufqtavU[fqtuvUYgqtvuUYagqtvaUYufqtavUYfqtujU[gqtjuU[ahqtvaU[xuhqtxaU[vugqt",
    "jaU[uhqtxuU[vahqtvuU[xafqtajU[fqtujUYgqtjuUYahqtvaUYxuhqtxaUYvugqtjaUYuhqtxuUYvahqtvuUYxafqtajUY",
    "fqtuxU#bhqtYaU[xuhqt[aUYxugqtxuU#bagqtxaU#buhqt[uUYxahqtYuU[xafqtaxU#bfqtuvU#bhqtYaU[vuhqt[aUYvu",
    "gqtvuU#bagqtvaU#buhqt[uUYvahqtYuU[vafqtavU#bfqtujU#bhqtYaU[juhqt[aUYjugqtjuU#bahqtvaUx#buhqtxaUv",
    "#bugqtjaU#buiqtYvaU[xuiqt[vaUYxuiqtYxaU[vuiqt[xaUYvuhqtxuUv#bahqtvuUx#bahqt[uUYjahqtYuU[jafqtajU",
    "#bfqtue%^#bfqtae%^#bfqtue%^jfqtae%^jdqte#bdqtejgqtx&YU[egqtxeU[&YfqtexU[gqtx&YUYegqtxeUY&YfqtexU",
    "Ygqtv&YU[egqtveU[&YfqtevU[gqtv&YUYegqtveUY&YfqtevUYgqtj&YU[egqtjeU[&YfqtejU[gqtj&YUYegqtjeUY&Yfq",
    "tejUYgqtx&YU#begqtxeU#b&YfqtexU#bgqtv&YU#begqtveU#b&YfqtevU#bgqtj&YU#begqtjeU#b&YfqtejU#bgqtu'Sx",
    "U[gqtu'SxUYgqtu'SvUYgqtu'SvU[iqtu&p$k[m$VYiqtu&p$kYm$V[eqtu&p%]dqtuYdqtuvdqtu[dqtuxdqtaYdqtavdqt",
    "a[dqtaxgqtuYUa[gqtuvUaxgqtaYUu[gqtavUuxc$k#t'Td$V#y+o'Td$V#y)u'Td$V$T*Y'Tc$V#t'Td$V$y*Y'Td$V$T4v",
    "'Td$V&`*Y'Tb%t'TdY&`*Y'TdY$T4v'TdY$y*Y'TcY#t'TdY$T*Y'TdY#y)u'TdY#y+o'Tc[#t'Tbu5Yb#v5Yb8U5Yd$k#y+",
    "o'Td[#y+o'Tc&t$VYc&t$V[c&t$kYi&t$kYU$VYU$V[f&t$kYU$V[i&t$kYU$k[U$VYi&t$kYU$k[U$V[c&t$k[f&t$k[U$V",
    "Yi&t$k[U$VYU$V[bZsb]se]sP*g2wf]s*WZRsdsP#b+PdsPj+PesP#/X8O+PhsP$kYm$V[+PhsP$k[m$VY+PesP&p8O+PcZR",
    "sc]RsbZ-Qb]-QcZj-Qc]j-QbZ;ub];ucZ(Q#Xc](Q#XdZ(QR#Xd](QR#XcZ&z#Xc]&z#XdZ&zR#Xd]&zR#XcZ&z1Vc]&z1Vc",
    "Z(g#Xc](g#XdZ(gR#Xd](gR#XcZ'a#Xc]'a#XdZ'aR#Xd]'aR#XcZ'a1Vc]'a1VbZ$tb]$tf]$t*WZR$ta##ta(lb]yb)ayd",
    "yPj+PaDYbZyeyPY#tZeyP[#tZeyP$V#tZeyP$k#tZfyP$k[&tZhyP/R*R$kY&tZdY#tZyd[#tZyb0b(Xc0b]ye$k#t0b]ye$",
    "V#t0b]ye$kY&t/b'Se$k[&t/b'Se$V[&t/b'Se$VY&t/b'Sc$k#tyc$V#tydZ$V[#XdZ$VY#XdZ$kY#XdZ$k[#Xb](XesPY#",
    "tZesP[#tZgsP$kY&p#tZgsP$V[&p#tZf]sPjC[$Ze](Q#XPhf(Q#XPY#tZf(Q#XP[#tZb%eyf]sP$kY&tf]sP$VY&tf]sP$V",
    "[&tf]sP$k[&tf]yP$kY&tf]yP$VY&tf]yP$V[&tf]yP$k[&tc$kY#Xc$k[#Xc$VY#Xc]#vscZ#vsd]#vRsdZ#vRsc$V[#XdZ",
    "*jP-Pa)ia.xa5baFebZ$[b]$[a.Sa#9va*jb6m;`b8[;`aFqa#/QbZ)Yb])Yb(cqd(cqP*vd(cqP%Xa)wd.xP.cNzb0]7Pc]",
    "1j,ScZ1j,Sa#5le$r$]3a&_(XdZY#u&SdZ[#u&Sd]Y#u&Sd]v#u&Sd][#u&Sd]x#u&Sc5^U7|bEUbb#2kbbCXba7faAab#/W",
    "%]b2l*fc%]f#+kc%]f#)xc$[U/eb##aVb?k#5jc0WU#6Tb;wVb/O.|c+`c#&]c+`c#*kc+`c,qc+`c>^c+`c+ec+`c+dc+`c",
    ",yc+`c+nc6UfH]c]0Uic]&vicZ&vid]*jP-Pc-q)u'Vc3x)u'Va0rb-mba+nb*`ba#*Qa#4`a>ta;Ya.aaAma#9Sa#$yaDna",
    "#*|a#=qa#+Sa#4ka#4RaDvaAka#0|c]#^'gc]#^(Oc]#^)Xc]#^(zc]#^&Uc]#^)VcZ#^'gcZ#^(OcZ#^)XcZ#^(zcZ#^&Uc",
    "Z#^)VcZ=i*ic]&_*ic]$t*icZ7q*ic]=i*icZ&_*icZ$t*ic]7q*ib0]#7_b)u)rb+o)rc/[+o.Zc/[#6[.Zc4Y9Pbc4Y#-v",
    "bc4Y5[bc$i>Q%]c#z>Q%]c>r)vVe)vVc#;l,Te)vVc#;n,Te)vVc>j,Te)vVc>k,Te)vVc>l,Te)vVc>m,Te)vVc#;o,Te)v",
    "Vc#$z#,`dZ>r)vVc#2|1OVc#/w1OVc#0b1Obb6VVb+m##Sb+m##Tb+m##Ub+m##Vb+m##Wb+m##Xe]yPh[e]yP#_']fZyP]h",
    "[fZyP#_]']c;Uc.|c;Uc/Od/mc9e.|d/mc:j/Od/mc:j.|d/mc9e/Ob])QbZ)Qc0WU<PaA[b-b#8mc=of?pa#4fa6ca-sa3g",
    "c=of#&ebBOVa#$Oc,Q]$[d$T:m7t[d$T:m7tYb#>Wbc,s#=|bc3V-mbc3V*`be#)n-mU*`bd*`U-mbd*`P#Obh*`P#OU*`U-",
    "mbej*`P#Obe#b*`P#Obc#v]yc#vZyd#vR]yb#,XVbHoVc#<O#/xVaFbb#$t#<Sa#.TaE^a#/la#*Pa#=faEocZ'V#+Va#5ha",
    "#5_a#2fa#5db#6t(yaBmbn*_c]/r)cc]/r'gcZ/r)ccZ/r'gc5b2R5`c*j2_)ia.cbZ5bd>^)iU.cd$P]1j,Sd$PZ1j,Sd]$",
    "t%Osb)_:hbHd+ka#/Pa<Pb+k#6jd9kP]%]cd)_:haE_b)T3Ye?z#.zY2O.ueZ>hY2O.ue]>hY2O.udZY:g;Qd]Y:g;Qc8g#6",
    "nbda](g#XcY&b3Ybn)wh+r&p%O]y%OZsbZ5|c<jY#!gc<jY#!hdAzVc>thayP#OU#_']`a1Sc#3i:U1Sc#*w:U1Sb&T1SdZ%",
    "](V=Tb#5r#5|aEsa2kb#&n#6Xc3g2R#(Pc3gP#&Pd:|Vc#+Ua,yc.x(V9fa9Uc)Q%O9pa##ka#4Scs$f2wa#6ab,t=_c'YP(",
    "ya>Xc+T2]Vc9i#%iVb#$r#2[d/g(VZsg])QP#b&VZ#8ScZ5S.hc$k7V.hbZ.hc$V7V.hb].hd]a*v#Uc)Y#+gbb>T8ga*qa*",
    "]b(t3_b(t%xb>u%xb?V%xc$V[1Ra1Rc$k[1Rb];]bZ;]b*v#Uca*v#Ub(n%Xca(n%Xb(c%Xca(c%Xc,QW%]caW%]c$^*S%]d",
    "a$^*S%]bQ%]d(u]Q%]c,QQ%]b#+z%]c$[fGvc$f,[$zc$f2[$zda$f2[$zc$fF]$zdZ$f%f$[d]$f%f$[a#7Pd#8P,Q]$[cd",
    "]$[d$^*SZ$[dZ*S]$[c,QZ$[da,QZ$[b*e$[c(u]$[ba$zc$^*S$zc$|'k$zd$|%fZ$[d$|%f*e$[d%`%fZ$[e$|%f<hZ$[f",
    "a$|%f<hZ$[d)g%fZ$[c.m%f$zb,[$zd$^*S,[$zca,[$zf%`<OZU]0QbZ0Qb]0Qe$|<O,QZ0Qfd$^*S$|%f$[da,[*e$za5a",
    "c#9y#:l5acaEh5aa=jba=jb2[$zd$|,[<]$zea$|,[<]$zb%]#Uc(u]yd#an%]#Ue$V[8h]se$k[8h]se$V[(u]se$k[(u]s",
    "dZ(s#U%Pd](s#U%Pd](j#U%PeZ$t'P]%Xda(j#UVcuj#Rc#vj#Rcaj#Rga&Y$P%[&X#U%Pfa&Y%[&X#U%Pgae$P%[&X#U%Pf",
    "ae%[&X#U%Pga%n&Y%[&X#U%Pga%ne%[&X#U%Pe(e.p;tb%Pda(j#U%Pea&_(j#U%PcaZ&_e$]aZ&_(Xb3a&_d$]3a&_(Xd#v",
    "Y%u%Pd#v[%u%Pe#v0OY%u%Pe#v0O[%u%Pe#v'a$W#Q%Pe#v&z$W#Q%Pfa'a$W&X#U%Pfa&z$W&X#U%Pea'a$W#Q%Pea&z$W#",
    "Q%PfuY&h%v#Q%Pfu[&h%v#Q%Pe#vY&Q#Q%Pe#v[&Q#Q%Pe%l#ad#W#ye%l#ad#W#_e%l#ad#W$Te%l#ad#W$fe%l#ad#W$ye",
    "%l#ad#W%`e%l#ad#W&`e%l#ad#W$|e%l#ad#W&re%l#ad$g'le%ld%S#W#ye%ld%S#W#_e%ld%S#W$Te%ld%S#W$fe%ld%S#",
    "W$ye%ld%S#W%`e%ld%S#W&`e%ld%S#W$|e%ld%S#W&re%ld%S$g'lf%l#ad%S#W#yf%l#ad%S#W#_f%l#ad%S#W$Tf%l#ad%",
    "S#W$ff%l#ad%S#W$yf%l#ad%S#W%`f%l#ad%S#W&`f%l#ad%S#W$|f%l#ad%S#W&rf%l#ad%S$g'lda%TgTca%jbca'Pbca*",
    "ybda$_#zTcagTda#|#zTdNt,UgTda#3vgTc#mgTda#mgTd(|#mgTea(|#mgTcZgTd-U5wg#wd-UCqg#wcZg#wgaZ(e#[UgTg",
    "aZ(e#]UgTd=nZgTeaFjZgTd4|]gTd3z]gTe2X(u]gTe3f(u]gTfa$V1b]gTfa$k1b]gTf)q$V1b]gTb&Q+yf)q$k1b]gTeda",
    "]gTc#>bgTd,e$_#zTc,egTd,e#|#zTea,e$_#zTda,egTea,e#|#zTc#9ZgTda#9[gTc?PgTda?PgTc#/OgTce&Q+yc$THc$",
    "Wf]#X*WR]#Xa4jb$^&fb$^&gdY<r/X3Pd[<r/X3Pd#gPh)bd'i'R<Y&fc&g<Y'Rej#RP#b#Oc(m+X&pb$m*yc(m+r&pcn%zU",
    "cn%z#ge]$tP*ThcUPhd(hf,O#]e$V[%wPhe$kY%wPhcY4d0hc[4d0hc%t4d0hc%ev%pc%ex%peYU[e+adYU[%pbY4Wc$m[%p",
    "c$mY%pev%pPy`e(l3T)]#b#3zc]2r$tf]2r$tPl)zf]2r$tPg)ze]sPl)ze]sPg)ze(mY]s#Qe(m[]s#Qd(mY$W#Qd(m[$W#",
    "Qe(mYe$W#Qe(m[e$W#Qf(mY]&h%v#Qf(m[]&h%v#Qd(mY0O%ud(m[0O%uc#])tTc#[)tTd&|9[yTd'y9[yTe[TPd%jc$mlTc",
    "$mgTd$mY[Td$mleTd$mgeTe$mY[eTe$mlT&^#Re$mgT&^#Rf$mleT&^#Rf$mgeT&^#Rd$mg1oTc^_7Wc^_Hyc^_Kuc^_Hzc^",
    "_M]c^_Jbc^_Kvc^_H|c^_NPc^_KUc^_Ljc^_Ioc^_M^c^_Jcc^_Kwc^_IOc^_Nac^_Kfc^_Lzc^_JRc^_Mnc^_Jsc^_LZc^_",
    "I`c^_NQc^_KVc^_Lkc^_Ipc^_M_c^_Jdc^_Kxc^_IPc^_Nic^_Knc^_MUc^_JZc^_Mvc^_J|c^_Lcc^_Ihc^_NYc^_K_c^_L",
    "sc^_Ixc^_Mgc^_Jlc^_LSc^_IXc^_Nbc^_Kgc^_L|c^_JSc^_Moc^_Jtc^_L[c^_Iac^_NRc^_KWc^_Llc^_Iqc^_M`c^_Je",
    "c^_Kyc^_IQc^_Nmc^_Krc^_MYc^_J_c^_Mzc^_KRc^_Lgc^_Ilc^_N^c^_Kcc^_Lwc^_JOc^_Mkc^_Jpc^_LWc^_I]c^_Nfc",
    "^_Kkc^_MRc^_JWc^_Msc^_Jxc^_L`c^_Iec^_NVc^_K[c^_Lpc^_Iuc^_Mdc^_Jic^_LPc^_IUc^_Njc^_Koc^_MVc^_J[c^",
    "_Mwc^_KOc^_Ldc^_Iic^_NZc^_K`c^_Ltc^_Iyc^_Mhc^_Jmc^_LTc^_IYc^_Ncc^_Khc^_MOc^_JTc^_Mpc^_Juc^_L]c^_",
    "Ibc^_NSc^_KXc^_Lmc^_Irc^_Mac^_Jfc^_Kzc^_IRc^_Noc^_Ktc^_M[c^_Jac^_NOc^_KTc^_Lic^_Inc^_N`c^_Kec^_L",
    "yc^_JQc^_Mmc^_Jrc^_LYc^_I_c^_Nhc^_Kmc^_MTc^_JYc^_Muc^_Jzc^_Lbc^_Igc^_NXc^_K^c^_Lrc^_Iwc^_Mfc^_Jk",
    "c^_LRc^_IWc^_Nlc^_Kqc^_MXc^_J^c^_Myc^_KQc^_Lfc^_Ikc^_N]c^_Kbc^_Lvc^_I|c^_Mjc^_Joc^_LVc^_I[c^_Nec",
    "^_Kjc^_MQc^_JVc^_Mrc^_Jwc^_L_c^_Idc^_NUc^_KZc^_Loc^_Itc^_Mcc^_Jhc^_LOc^_ITc^_Nnc^_Ksc^_MZc^_J`c^",
    "_M|c^_KSc^_Lhc^_Imc^_N_c^_Kdc^_Lxc^_JPc^_Mlc^_Jqc^_LXc^_I^c^_Ngc^_Klc^_MSc^_JXc^_Mtc^_Jyc^_Lac^_",
    "Ifc^_NWc^_K]c^_Lqc^_Ivc^_Mec^_Jjc^_LQc^_IVc^_Nkc^_Kpc^_MWc^_J]c^_Mxc^_KPc^_Lec^_Ijc^_N[c^_Kac^_L",
    "uc^_Izc^_Mic^_Jnc^_LUc^_IZc^_Ndc^_Kic^_MPc^_JUc^_Mqc^_Jvc^_L^c^_Icc^_NTc^_KYc^_Lnc^_Isc^_Mbc^_Jg",
    "c^_K|c^_ISfg'cTPj#Ogg'cTPej#OfleTPj#OfgeTPj#OgY[eTPj#Oeg'cT&^#ReleT&^#RegeT&^#Re#[TP#b#Oe#]TP#b#",
    "Oc#]%rTc#[%rTdle%^Tdge%^Tdl%r%^Tdg%r%^Teg'c%r%^TegTP)a.pd#]Tm#Rd#[Tm#RggTP%ZPj#OhgTP%ZPej#Oeg'cT",
    "P%Zhg'cTP%ZPj#Oig'cTP%ZPej#Obl/Vbg/Vcle/Vcge/VelTmZ$tegTmZ$tglT&^#RmZ$tggT&^#RmZ$tf#|$iU$_#zTf#|",
    "#zU$_$iTe#|$iTP|e#|#zTP|e$_#zTP|e$_$iTP|g#|$iTU#|#zTg#|#zTU$_#zTg$_#zTU$_$iTg$_$iTU#|$iTe+X&p)_+",
    "r&pe+r&p)_+X&pg$_#zT)_#|#zTg#|#zT)_$_#zTf+r&p)_#|#zTf+X&p)_$_#zTg#|#zT)_#|$iTg#|$iT)_#|#zTe(wT#u",
    "8b[fT#ug+]-c#]fT#ug+]-c#[fT#u#[+]-clfT#u#[+]-cgd#3k'S'yTd#*y'S&|Td%q'S&|Td&o'S&|Tf%q'S'yTP'Pf%q'",
    "S&|TP%je$V[5X'yTe$VY5X&|Td&|&byTd'y&byTfgT`&ulTflT`&ugTf&ugT`lTegTP%jkelTP%jkdgT+_%XfY[T+_Ryf#]'",
    "cT&^RygY#Sv[#Sx#xgY#Sx[#Sv#xgv#S[x#SY#xgv#SYx#S[#xgY#Sv[#Sv#xgv#S[x#S[#xgY#Sx[#Sx#xgv#SYx#SY#xgl",
    "#xP#Svm#Rgg#xP#Svm#Rg#]#xP#S[m#Rg#[#xP#S[m#Rgl#xP#Sxm#Rgg#xP#Sxm#Rg#]#xP#SYm#Rg#[#xP#SYm#Rgl#xP#",
    "Sv&^#Rgg#xP#Sv&^#Rg#]#xP#S[&^#Rg#[#xP#S[&^#Rgl#xP#Sx&^#Rgg#xP#Sx&^#Rg#]#xP#SY&^#Rg#[#xP#SY&^#Rkl",
    "#xP#Sv`l#xP#Sxk#]#xP#SY)[#]#xP#S[kg#xP#Sv`g#xP#Sxk#[#xP#SY)[#[#xP#S[kl#xP#Sv`g#xP#Svkl#xP#Sx`g#x",
    "P#Sxkg#xP#Sv`l#xP#Svkg#xP#Sx`l#xP#Sxhl#xP#Sv`$m%^hl#xP#Sxk$m%^hg#xP#Sv`$m%^hg#xP#Sxk$m%^k#]#xP#S",
    "Y)[#[#xP#S[k#[#xP#SY)[#]#xP#S[f[eTP*g0Ye%kb`gTe#j$w`gTelT`#j$wegT`#j$wfgT`(S#Pmd$Y`lTdlT+_$Yd$X`",
    "gTd&f`gTdlT+_&fd&g`lTcY+Q%Zc[+Q%Zcv+Q%Zcx+Q%Zd%rj#R3Pc$n(o#7[d$n(o>i(ddY]&Q#Qd[]&Q#QcY]%uc[]%ue$",
    "n(oY*^#Qe$n(o[*^#Qe$n(oY7U#Qe$n(o[7U#QeYs#QP&ne[s#QP&nhYs#QP)z%O%q%wh[s#QP)z%O&o%whYs#QP)z%O&o%w",
    "h[s#QP)z%O%q%weY$W#QPhe[$W#QPhdY'S$Y#Qd['S$X#QeeY'S$X#Qee['S$Y#QeYZ&h%v#Qe[Z&h%v#Qb)a-ncj/P$Zd)S",
    "$W,OYe[$W#<WPse)S[$WPhd$WP$o)bb#f$Wd5e$W,OYd5e$W,Ovb$P$Wb$r$Wc$WP&nd$r$WP&nd;b$W,Ovd;b$W,Oxl)S$W",
    "P$^*O*z%OT#uvU[l)S$WP$^*O*z%OT#uvUYl)S$WP$^*O*z%OT#uxU[l)S$WP$^*O*z%OT#uxUYl)S$WP$^*O*z%OT#u[Uvl",
    ")S$WP$^*O*z%OT#uYUvl)S$WP$^*O*z%OT#u[Uxl)S$WP$^*O*z%OT#uYUxc$r(i,Xd(i,XP(pf(i,XPRy`f(i,XP[T`f(i,",
    "XPYT`dyP#b#Rcdj#Rbd*ccd'i'Rbd4jly3T)]#b#RU%q#t3T)]j#RdyP#8b%XddAe*ybdvT+_ycd](Xbd(Xbd$Ybd$XgyPRy",
    "m)Z[hyP#_#b=um)Z[dn+X&p)ydn+r&p)ybn$zcnRybnsc#_.O1nd#XPh`c#XP&nc$o%O#Xe#XP1g(x&oe[#X`Y#XeY#X)[j#",
    "Rej#R)[[#Xe/_PY#tZe/_P[#tZbZ/_e*lPY#tZe*lP[#tZb]0^bZ0^cY2P-nc[2P-ndYe2P-nd[e2P-nb#)e-zc5u'X-ze-z",
    ";XPj#RbNp4WdsPFs#/]b#)g*rb#6Q(re%kbU&Z*ch%kbU&Z*cP#j`e0_mU&Z*cb#%Y#7la#9lf(g#XPY#tZf(g#XP[#tZeZ$",
    "tPxTbZ(le]yPxTeZyPxTc,o]sc,oZsc,o]$tc,oZ$tc,o]yc,oZya#3|c'i'R$wc'RP(pe'i'RP#b#Ob,d'Rc,d'i'Rbe%jb",
    "%r%jd'a(e$W#Qd&z(e$W#Qa1va#-Sd'sdh$wd'sd%j$wd'sd*l$we's'[$wPhe's'[$wP%jd'ss'f$wd'ss'[$wd#_%zU$wd",
    "#_%z#g$wc's*l$wc#-X#_#8]c.sP&ic)t&i$wc##p4f&id&iPe#Od&iBVP)ybEx9Wb&|0`g$Z0`P#2z;v2W.bg$Z0`P5X;v2",
    "W.bf$Z0`$O#)c)Z.be&i2W#Y,U$wc#2c&i$wf&iPlTP|d&iP*lbc&iP'fc&iP'[c&iP(pc&iP&na0hd%eY#X$wd$n(o5T2pd",
    "$n(o5T#0yd$n(o5T#2Qf%jbPRy`f%jbP#n&O`e%jbP#j`e%jbPhke%jbP#jke%jbP%|#_e%jbPZ#Xe'PbP%[`e'PbPhke'Pb",
    "P+r']e'PbP+X']f%jb%OY#tyf%jb%O[#tyd#<X#g%](re(nbPh`d(nbP&ne.l(rP&o&bb=c(rf(nb%OY#tyf(nb%O[#tyfd(",
    "nbP#n&Oe(nb%Oeycd*ybd%jb%O#Xd'Pb%O#Xd(nb%O#Xb:T(rc#3l:T(rd$n(o#3V2pcAS#g7vc'fPhd'[P'Pbc'[P(pc'fP",
    "(pd'fP%zUd'[P%z#gc'[`'fc'f`'[e'[`#R`'fe'f`#R`'[f'[)[U.OP'[f'f)[U.OP'fd&b'[P1gd&b'fP1gces'fces'[g",
    "&b'[P1gU=c(re%zUPh`e%z#gPh`ce%zUce%z#gd#_:V%zUd#_:V%z#gc=a%e#gc=a%eUe%z#g._%zUe%zUP&V.pe%z#gP&V.",
    "pe%zUP#b%^e%z#gP#b%^e%zUPe(pd%zUP&ne%zUPe&ndR#<YP&ne%z#gPe(pe%z#gPe&nd$n(oHv6id$n(o#2p6ie%kbPhkd",
    "0_Ph`g%r#b#RPej#Og%r#b#RP%rj#Oe#j$wPh`e#j$wP+X']c)x'P)xdFnPh`c%kP$zf(S#PmP#n&Oe,a#P#g#Pme%kb`%jb",
    "e%jb`%kbe%kb`#j$wce(d#Pd#_7s%k=[d$T7s%k=[j%kbP#_']`U#_']ke(UP$f']`d$YPy)bd$XPy)be$YP(s#U`e$XP(s#",
    "U`e$Y#g&Z#Pme$X#g&Z#Pmh$Y#g&Z#PmPh)bh$X#g&Z#PmPh)bh$Y#g&Z#PmPh`h$X#g&Z#PmPh`i$Y#g&Z#PmPh`[i$X#g&",
    "Z#PmPh`Yc$Y#g/Sc$X#g/Sf$YU-S$O#Pmf$XU-S$O#Pmd$YU$O/Sd$XU$O/Sf$Y`)j#P`$Xf$X`)j#P`$Ye$Y`)x#g#Pe$X`",
    ")x#g#Pe$Y`)x`$Xe$X`)x`$Yf$Y`$X`)j#Pf$X`$Y`)j#Pi$Y`&Z#P`$X`&Z#Pi$X`&Z#P`$Y`&Z#Pe&Z#Pm#g$Ye&Z#Pm#g",
    "$Xh&Z#Pm#g$YPh)bh&Z#Pm#g$XPh)be)j#Pm#g$Ye)j#Pm#g$Xf)j&Z#Pm#g$Yf)j&Z#Pm#g$Xc)x#g$Yc)x#g$Xf)x`$Y`%",
    "kbf)x`$X`%kbce.Y$Yce.Y$Xee.Y$YP&nc$X._$Yc$X)[$Yd$Y&b)]/hd$X&b)]/hg$Y&b)]/h`&Z#Pg$X&b)]/h`&Z#Pb=b",
    "1qb:i1qe=b1q#g#Pme:i1q#g#Pme%kbPDZ`e(q`-S%kbe(v`-S%kbf(q`-S$O#Pmf(v`-S$O#Pmd(q`%kbd(v`%kbe(q`$O#",
    "Pme(v`$O#Pme(q`(S#Pme(v`(S#Pmf(q`$O(S#Pmf(v`$O(S#Pmbe(qbe(vc&fPhc&gPhe&fP%jbke&gP%jbke&fP(nbke&g",
    "P(nbkh&ff#g#PmPh`h&gf#g#PmPh`e&ff`%kbe&gf`%kbe&ff`#j$we&gf`#j$wf&ff`(S#Pmf&gf`(S#Pmf&ff`$O#Pmf&g",
    "f`$O#PmesY$^q$wes[$^q$wb&b&fb&b&ge&b&f#g#Pme&b&g#g#Pmc&f`&gc&g`&fc&f`&fc&g`&gc&g)[&fh&g)[U.O)]%^",
    "P&fd(hf,O#[d<RP#9^%qb#:g'fa#$_a#.cc&uY%pc&ux%pc&uv%pc4jP$oej#R%r[+aeej#RY+aej#ReY+afej#ReY+ah$m%",
    "^&^Y0qfeje&ux%pP(pe&uv%pP&ng&uv%p`&ux%pcex%pcev%pde#O$Obe$re#O$Obg)O$O3SP$r#-|)yej$ZPy`ej$ZPykex",
    "%pPykd*cP#b#Od*cP#j$we%rj#R7T1`f%rj#RP#b#Oc%r(d$wc%r.Y$Yc%r.Y$Xf)j&Z$Y#g#Pmf)j&Z$X#g#Pmd%r'R7T1`",
    "e%e%rj#R$wce'R$wc]j#Rd's]j#Rd#|#z]Td#|$i]Td$_#z]Td$_$i]TdY[]TclZTc#]ZTc#[ZTd#|#zZTd#|$iZTd$_#zZT",
    "d$_$iZTdY[ZTdvxZTegTP'w#[egTP'w#]elTP'w#[elTP'w#]esP%q#tZesP&o#tZgsP$k[&p#tZgsP$VY&p#tZe$tPY#tZe",
    "$tP[#tZe$tP%q#tZe$tP&o#tZb)ascZ%esc]%esdZ%sRsd]%sRsbZ.`b].`b]3ibZ3ic#bZ3icZ%eycZ#v$tc]#v$tcZ#v(l",
    "c]#v(lcZR$tcZR(lc]R(lcZ#b/vc]#b/vcZj/vc]j/veYTPRyc$Tl'meYTPd%jd$ml1oTfl'cTPj#Ogl'cTPej#Oel'cT&^#",
    "Rel'c%r%^TelTP)a.pglTP%ZPj#OhlTP%ZPej#Oel'cTP%Zhl'cTP%ZPj#Oil'cTP%ZPej#OdlT+_%Xe(wT#u8bYe%kb`lTf",
    "'i#j$w`lTglT`'i(S#PmdgT+_$XdgT+_&gcl)tTcg)tTf'i#j$w`gTggT`'i(S#Pme#j$w`lTflT`(S#PmflT`'i#j$wfgT`",
    "'i#j$wd#[#m/PTd&u&Z#|Td&u2Y$_Tc]#v$[cZR$[c]R$[cZ&z.`c]&z.`ca%eyea;nP;n)beayPy)bbaycad)wf&Z#|TP9s",
    "0Yf2Y$_TP9s%Zf&Z#|TP#b%Zf2Y$_TP#b%Zg6|T#u#[+]#|#zh&u6|T#u#[+]#|#zcl#mTc#]#mTcg#mTc#[#mTdY[#mTdvx",
    "#mTd#|$i#mTd#|#z#mTd$_#z#mTd$_$i#mTdl#m(|Td#]#m(|Tdg#m(|Td#[#m(|Te'y#m$^yTe&|#m$^yTel#mTm#Re#]#m",
    "Tm#Reg#mTm#Re#[#mTm#R#Y#|$i#mTm#Rf#|#z#mTm#Rf$_#z#mTm#Rf$_$i#mTm#Rgl#mTPe#b#Og#]#mTPe#b#Ogg#mTPe",
    "#b#Og#[#mTPe#b#Oc#b>R*_cj>R*_gl#mT'Xg#mTh#]#mTlf#[#mTgg#mT'Xl#mTh#[#mTlf#]#mTdl#m+V'md#]#m+V'mdg",
    "#m+V'md#[#m+V'melZd]Te#]Zd]TegZd]Te#[Zd]Te&|#m[1zTe&|#m&o1zTe&|#mY1zTe&|#m%q1zTb1aYb1a[b4]Yb4][e",
    "$f%w'mEw&|cgZTuVc>i#Y#!^e-U5wl&q#we-U#3j#]&q#we-U5wg&q#we-U#*x#[&q#wdZl&q#wdZ#]&q#wdZg&q#wdZ#[&q",
    "#wg#[#mTP$m'wlg#[#mTP$m'wgg#]#mTP$m'wlg#]#mTP$m'wggl#mTP$m'w#]gg#mTP$m'w#]gl#mTP$m'w#[gg#mTP$m'w",
    "#[fZ(e#[UlTfZ(e#[UgTfZ(e#]UlTfZ(e#]UgTfZ(elU#]TfZ(egU#]TfZ(elU#[TfZ(egU#[Td)eTxYd)eTx[d)eTvYd)eT",
    "v[d)eTYvd)eT[vd)eTYxd)eT[xh#]]T&^#RP#b#Rfv#w%O#Y-Qqc._]1ne._]UZ1nc._Z1ne(cqPu%Xbd%Xcd'n%XcZs*TcZ",
    "$t*Tc$PZ.`c#bZ;cbZ;ceZ#v(Q#X*TeZ#v(g#X*TeZ#v'a#X*TeZ#v&z#X*Tc;Y%_#_d%q#tZyd&o#tZyeu$f%fZ/if$]u$f",
    "%fZ/id]$f%f/ie$]]$f%f/ics4n%mb#;tbb9g#Uc.a%_#_c.a%_$Tc.a%_$fc.a%_$ya#:fa#2WaAya#(Ua#0ka#.Pc]'V#5",
    "]dZ$t(V%]d6Ou'VAqaGha#%sa#?Wa#*daAga?la#>Ra#1gdY#tZ$[d[#tZ$[e$[PY#tZe$[P[#tZfl'cTP#X/Wf#]'cTP#X/",
    "Wfg'cTP#X/Wf#['cTP#X/Wc8s%_#yc8s%_#_a#4ud-R,bV#=md-R,bV#.hd-R,bV#2hd-R,bVCWd-R,bV#5`d-R,bV#:je%k",
    "bP-zkb#;|Vb#5aVb3VVb#/yVc$r[$Wc#&a#0QV*6r'r'ub'r%[c'r%t%abHk#Ud+T#)j#7jVc'r,v#Uc'rFX#Uc'r$g(RcY$",
    "W#Qc[$W#QdYe$W#Qd[e$W#QcY%w#Qc[%w#QdY]%w#Qd[]%w#QdYZ,x#Qd[Z,x#Qb1X#Ub#%Q#UdY&h%v#Qd[&h%v#QdY],x#",
    "Qd[],x#QeY]&h%v#Qe[]&h%v#QdY]s#Qd[]s#Qb(w%^e$re)W&X#Ude)W&X#Ue%ne)W&X#Uc1X#Uic)R$c#yc)R$c#_c)R$c",
    "$Tc)R$c$fc)R$c$yc)R$c%`c)R$c&`c)R$c$|c)R$c&rd'r:k&m#Ud'r+X&m#Ud'r3Q&m#Ud'r#!f&m#Ue$b&Yh&m#Ue$beh",
    "&m#Ub,]%^dj.P.d#Ugj.P.dP+c(P#Ufj.P.d#U$k#tij.P.dP+c(P#U$k#tfj.P.d#U$V#tcd1X#Uf'r#9_$Z3Z*hVc)R$c'",
    "lc)R$c-Wc)R$c#9odj'r,v#Ub#,^#Uc4f?|#Uc'r'x%md'r#t+P'ut#dOR#Yc#dO#Yd#dOR#oc#dO#od#dOR#`c#dO#`d#dO",
    "R#cc#dO#cd#dOR#Tc#dO#Tc#dO'`c#dO9Xc#dO3sc#dO9ac#dO3wc#dO9hc#dO.Qc#dO9]c#dO3vc#dO9dc#dO.gc#dO?[c#",
    "dO5]c#dO?^c#dO5jc#dO?ac#dO5Uc#dO)|c#dO5cc#dO?`c#dO5mc#dO8Tc#dO5tc#dO8_d#dOR-Vc#dO-Vc#dO8jc#dO*kc",
    "#dO+lc#dOmc#dO3Uc#dO4Zc#dO4^c#dO.[c#dO4[c#dO)Tc#dO(kc#dO6qc#dO4ec#dO3jc#dO7Qc#dO*dc#dO3lc#dO7bc#",
    "dO<_c#dO3hc#dO/Zc#dO+Wc#dO3kc#dO7Yc#dO<Uc#dO4Pc#dO4Sc#dO.Wc#dO0pc#dO4Ud#dOR*nc#dO*nd#dOR*oc#dO*o",
    "d#dOR,^c#dO,^c#dO4wc#dO4zc#dO5Rc#dO4yc#dO5Od#dOR-Yc#dO-Yc#dO6Wc#dO.yc#dO6Xc#dO$vc#dO>xd#dOR'`d#d",
    "OR.Q#Xp+x+c(P#Uep+x5W(P#Ud+x+c(P#Ud+x5W(P#Uc#d,v#Ud#d+c,v#Uc#d(f#?Sc+xe-ydoOR#YcoO#YdoOR#ocoO#od",
    "oOR#`coO#`doOR#ccoO#cdoOR#TcoO#TcoO'`coO9XcoO3scoO9acoO3wcoO9hcoO.QcoO9]coO3vcoO9dcoO.gcoO?[coO5",
    "]coO?^coO5jcoO?acoO5UcoO)|coO5ccoO?`coO5mcoO8TcoO5tcoO8_doOR-VcoO-VcoO8jcoO*kcoO+lcoOmcoO3UcoO4Z",
    "coO4^coO.[coO4[coO)TcoO(kcoO6qcoO4ecoO3jcoO7QcoO*dcoO3lcoO7bcoO<_coO3hcoO/ZcoO+WcoO3kcoO7YcoO<Uc",
    "oO4PcoO4ScoO.WcoO0pcoO4UdoOR*ncoO*ndoOR*ocoO*odoOR,^coO,^coO4wcoO4zcoO5RcoO4ycoO5OdoOR-YcoO-YcoO",
    "6WcoO.ycoO6XcoO$vcoO>xdoOR'`doOR.QcoO#<TcoO#=gcoO6RcoO#=vco&Vhd+x<[(P#Uco,v#Udo+c,v#Uco(f#*b+HCQ",
    "'x#4yb'x#5Tb'x#5Ub'x#5Vb'x#5Wb'x#5Xb'x#5Yb'x#5Zb'x#5[b'x#4zb'x#4|b'x#5Ob'x#5Pb'x#5Qb'x#5Rb'x#5S.",
    "V&x%_cj#_h3yf&x%_cj*Z%^f&x%_cj'e%^f&x%_cj%n$Zg&x%_cj,]%n$Zf&x%_cjY%uf&x%_cj[%ug&x%_cjY&Q#Qg&x%_c",
    "j[&Q#Qh&x%_cjY&h%v#Qh&x%_cj[&h%v#Qh&x%_cjYZ,x#Qh&x%_cj[Z,x#Qh&x%_cjYe$W#Qh&x%_cj[e$W#Qg&x%_cjY$W",
    "#Qg&x%_cj[$W#Qg&x%_cjY%w#Qg&x%_cj[%w#Qh&x%_cjY]%w#Qh&x%_cj[]%w#Qb<zhc]<zhg&x%_cjYs#Qg&x%_cj[s#Qb",
    "(|,Rb7k,Rb,],Rce,],Rc(|%n$Zc7k%n$Zc,]%n$ZbR%[cR'r%[cR%t%arR.kbR(dcR(s#UcR(j#UcR*Z%^cRY%ucR[%udRY",
    "&Q#QdR[&Q#QeRY&h%v#QeR[&h%v#QcR$gbbR,_bR$zcR%jbbR3mcR$YbcR$XbcR%kbsR'i'RcR,lbcR4ibcR/c(x#,k#V(j#",
    "Uc#V&X#Uc#V$gbc#V,lbc#V4ibb#V,_b#V-Zc#VY%uc#V[%ub#V$zc#V%jbb#V%[b#V3mc#V%t%ab#V'Rc#V#W(Rc#V#W#yc",
    "#V#W#_c#V#W$Tc#V#W$fc#V#W$yc#V#W%`c#V#W&`c#V#W$|c#V#W&rb#V(db#V.kc#V$Ybc#V%kbc#V$Xbc#V(s#Uc#V/c(",
    "xe#VQSO#Ye#VQSO&[e#VQSO%ce#VQSO%Qe#VQSO#ce#VQSO'_e#VQSO%ie#VQSO%Re#VQSO#oe#VQSO&je#VQSO%ye#VQSO$",
    "ue#VQSO&ke#VQSO$ve#VQSO#Te#VQSO&se#VQSO'te#VQSO$le#VQSO$oe#VQSO%Ye#VQSO#`e#VQSO&ye#VQSO&ae#VQSO%",
    "Xe#VQSO%Ue#VQSO$nd#VYs#Qc#V'i'Rd#V[s#Qc#V#n&Oc#V%n$Zc#V$Q&Oe#VQRO#Ye#VQRO&[e#VQRO%ce#VQRO%Qe#VQR",
    "O#ce#VQRO'_e#VQRO%ie#VQRO%Re#VQRO#oe#VQRO&je#VQRO%ye#VQRO$ue#VQRO&ke#VQRO$ve#VQRO#Te#VQRO&se#VQR",
    "O'te#VQRO$le#VQRO$oe#VQRO%Ye#VQRO#`e#VQRO&ye#VQRO&ae#VQRO%Xe#VQRO%Ue#VQRO$nd#VY&Q#Qc#Vj$Zd#V[&Q#",
    "Qb#V#jd#VY]%ud#V[]%udw'r%t%adwY%w#Qdw[%w#Qcw'r%[dwo&VhdwoO6XewoOR#YewoOR#oewoOR#`ewoOR#cewoOR#Te",
    "woOR*newoOR*oewoOR,^ewoOR-Vew+x<[(P#UdwoO#YdwoO#odwoO#`dwoO#cdwoO#TdwoO'`dwoO3sdwoO3wdwoO.QdwoO3",
    "vdwoO.gdwoO5]dwoO5jdwoO5UdwoO5cdwoO5mdwoO5tdwoO-VdwoO*kdwoOmdwoO4ZdwoO4^dwoO.[dwoO4[dwoO)TdwoO(k",
    "dwoO3jdwoO3ldwoO3hdwoO3kdwoO4PdwoO4SdwoO.WdwoO0pdwoO4UdwoO*ndwoO*odwoO,^dwoO4wdwoO4zdwoO5RdwoO4y",
    "dwoO5OdwoO-YdwoO$vewo+c(P#Uewo5W(P#Ucw$b##ndw$bO#*Zdw$bO#7edw$bO#*[dw$bO#.Wdw$bO#.Xdw$bO#.Ydw$bO",
    "#9zdw$bO#7hdw$bO#3_dw$bO#3adw$bO#3bdw$bO#3ddw$bO#3edw$bO#3fdw$bO#3cdw$bO#3`dw$bO#,vdw$bO#0odw$bO",
    "#7fdw$bO#0pdw$bO#6Wdw$bO#7gdw$bO#)`dw$bOEtdw$bO#7ddw$bOEjdw$bO#*Udw$bO#9mdw$bO#0idw$bO#&i#hw$bO#",
    "Ydw$bO+hdw$bO*ndw$bO6Zdw$bO#!idw$bO#c#Ww$bO#?Qdw$bO#?Pdw$bO#Tdw$bO-Ydw$bO#>Sdw$bO0x#Ww$bO,^dw$bO",
    "#`dw$bO#>adw$bO.ydw$bO6Wdw$bO*o#Ww$bO#!mdw$bO6]dw$bO#o#g#V7jbc#V4qbc#V$Obb#V$Rc#V/`#Rc#V2Tbc#V?T",
    "btw#$aujcwlTcw#]TcwgTcw#[TcwZscw]y-9Kd$xr#z+ed$xr$_+ed$xr$i+ed$xr#|+ed$xr'h-fd$xr+R-fd$xr]-fe$xr",
    "#yf*Ue$xr#_f*Ue$xr$Tf*Ue$xr$ff*Ue$xr$yf*Ue$xr%`f*Ue$xr&`f*Ue$xr$|f*Ue$xr&rf*Ue$xr#yf*Pe$xr#_f*Pe",
    "$xr$Tf*Pe$xr$ff*Pe$xr$yf*Pe$xr%`f*Pe$xr&`f*Pe$xr$|f*Pe$xr&rf*Pe$xr#yf*Ve$xr#_f*Ve$xr$Tf*Ve$xr$ff",
    "*Ve$xr$yf*Ve$xr%`f*Ve$xr&`f*Ve$xr$|f*Ve$xr&rf*Vc$xr#1Xc$xr#/Tc$xrBgc$xrErc$xr#7^c$xr#8^c$xrBUc$x",
    "r#>gc$xr0ic$xr*s#x#Zr#b*sc#Zr#&uc#Zr#&vc#Zr#&wc#Zr#&xc#Zr#&yc#Zr#&zc#Zr#&|c#Zr#'Oc#Zr#'Pc#Zr#'Qc",
    "#Zr#'Rc#Zr#'Sc#Zr#'Tc#Zr#'Uc#Zr#'Vc#Zr#'Wc#Zr#'Xc#Zr#'Yc#Zr#'Zc#Zr#'[c#Zr#']c#Zr#'^c#Zr#'_c#Zr#'",
    "`c#Zr#'ac#Zr#'bc#Zr#'cc#Zr#'dc#Zr#'ec#Zr#'fc#Zr#'gc#Zr#'hc#Zr#'ic#Zr#'jc#Zr#'kc#Zr#'lc#Zr#'mc#Zr",
    "#'nc#Zr#'oc#Zr#'pc#Zr#'qc#Zr#'rc#Zr#'sc#Zr#'tc#Zr#'uc#Zr#'vc#Zr#'wc#Zr#'xc#Zr#'yd#Zrj*sc#Zr#<_c#",
    "Zr#<`c#Zr#<ac#Zr#<bc#Zr#<cc#Zr#<dc#Zr#<ec#Zr#<fc#Zr#<gc#Zr#<hc#Zr#<ic#Zr#<jc#Zr#<kc#Zr#<lc#Zr#<m",
    "c#Zr#<nc#Zr#<oc#Zr#<pc#Zr#<qc#Zr#<rc#Zr#<sc#Zr#<tc#Zr#<uc#Zr#<vc#Zr#<wc#Zr#<xc#Zr#<yc#Zr#<zc#Zr#",
    "<|c#Zr#=Oc#Zr#=Pc#Zr#=Qc#Zr#=Rc#Zr#=Sc#Zr#=Tc#Zr#=Uc#Zr#=Vc#Zr#=Wc#Zr#=Xc#Zr#=Yc#Zr#=Zc#Zr#=[c#Z",
    "r#=]c#Zr#=^c#Zr#=_c#Zr#=`c#Zr#=ac#Zr#=bc#Zr#=c&s#i#e*se#i#e/Qf(ae#i#e#_f(ae#i#e$Tf(ae#i#e$ff(ae#",
    "i#e$yf(ae#i#e%`f(ae#i#e&`f(ae#i#e$|f(ae#i#e&rf(ae#i#e'lf(ae#i#e0gf(ae#i#e&Uf(ae#i#e(Of(ae#i#e'gf",
    "(a#X#i#e/Qf'qe#i#e#_f'qe#i#e$Tf'qe#i#e$ff'qe#i#e$yf'qe#i#e%`f'qe#i#e&`f'qe#i#e$|f'qe#i#e&rf'qe#i",
    "#e'lf'qe#i#e0gf'qe#i#e&Uf'qe#i#e(Of'qe#i#e'gf'qd#i#e'h0iu#i#e/Qf(]e#i#e#_f(]e#i#e$Tf(]e#i#e$ff(]",
    "e#i#e$yf(]e#i#e%`f(]e#i#e&`f(]e#i#e$|f(]e#i#e&rf(]e#i#e'lf(]e#i#e0gf(]e#i#e&Uf(]e#i#e(Of(]e#i#e'",
    "gf(]d#i#eZ0iu#i#e/Qf(Ze#i#e#_f(Ze#i#e$Tf(Ze#i#e$ff(Ze#i#e$yf(Ze#i#e%`f(Ze#i#e&`f(Ze#i#e$|f(Ze#i#",
    "e&rf(Ze#i#e'lf(Ze#i#e0gf(Ze#i#e&Uf(Ze#i#e(Of(Ze#i#e'gf(Zd#i#e]0ic#i#e#$Zc#i#e#:sc#i#e#;Qc#i#e#;T",
    "c#i#e#;Uc#i#e#;Vc#i#e#;Wc#i#e#;Xc#i#e#;Yc#i#e#;Zc#i#e#:tc#i#e#:uc#i#e#:vc#i#e#:wc#i#e#:xc#i#e#:y",
    "c#i#e#:zc#i#e#:|c#i#e#;Oc#i#e#;Pc#i#e#;Rc#i#e#;S&S#W(R%t%ac#W(R%[c#W#y%[c#W#_%[c#W$T%[c#W$f%[c#W",
    "$y%[c#W%`%[c#W&`%[c#W$|%[c#W&r%[e%ld%S#W(Rf%l#ad%S#W(Rdd(RP)ycd&|Tfd,lbP;o+ie#qQSO#Ye#qQSO&[e#qQ",
    "SO%ce#qQSO%Qe#qQSO#ce#qQSO'_e#qQSO%ie#qQSO%Re#qQSO#oe#qQSO&je#qQSO%ye#qQSO$ue#qQSO&ke#qQSO$ve#qQ",
    "SO#Te#qQSO&se#qQSO'te#qQSO$le#qQSO$oe#qQSO%Ye#qQSO#`e#qQSO&ye#qQSO&ae#qQSO%Xe#qQSO%Ue#qQSO$ng&h%",
    "v)hQSO$ofd+vQSO%cfd+vQSO$lbdEWbd#>xbFyVenQSO#YenQSO&[enQSO%cenQSO%QenQSO#cenQSO'_enQSO%ienQSO%Re",
    "nQSO#oenQSO&jenQSO%yenQSO$uenQSO&kenQSO$venQSO#TenQSO&senQSO'tenQSO$lenQSO$oenQSO%YenQSO#`enQSO&",
    "yenQSO&aenQSO%XenQSO%UenQSO$nbn9xbn#-pbn#4pbn#7cbn#1pbn>|f#adQSO#Yf#adQSO&[f#adQSO%cf#adQSO%Qf#a",
    "dQSO#cf#adQSO'_f#adQSO%if#adQSO%Rf#adQSO#of#adQSO&jf#adQSO%yf#adQSO$uf#adQSO&kf#adQSO$vf#adQSO#T",
    "f#adQSO&sf#adQSO'tf#adQSO$lf#adQSO$of#adQSO%Yf#adQSO#`f#adQSO&yf#adQSO&af#adQSO%Xf#adQSO%Uf#adQS",
    "O$nc(t#,cbc(t#,dbc(t#-kbbdEVed%cP;o+icd#(Q3]f#anQSO#Yf#anQSO&[f#anQSO%cf#anQSO%Qf#anQSO#cf#anQSO",
    "'_f#anQSO%if#anQSO%Rf#anQSO#of#anQSO&jf#anQSO%yf#anQSO$uf#anQSO&kf#anQSO$vf#anQSO#Tf#anQSO&sf#an",
    "QSO'tf#anQSO$lf#anQSO$of#anQSO%Yf#anQSO#`f#anQSO&yf#anQSO&af#anQSO%Xf#anQSO%Uf#anQSO$ng-b#anQSO&",
    "sc#an#(Zc#an4ec#an.gc#an?bc#an>|bsHqbnEzbnFwbn#$ibn#([bn0ubn#.Vbn0ybn#6zenvP(j#Ubn#>Qcn$T%Qcn<x.",
    "icn#_%ycn$f%ycn$|%ydn$y,U#ydn&`,U#ydn#;i,U#_cn#6_&sen#y%d-W&senQRO%Qbn#&Tbn#&Ubn#&gbn#+mbn#6Sbn#",
    ";pbn#=wc4R#>nV6u&d%mVO#Ye&d%mVO&[e&d%mVO%ce&d%mVO%Qe&d%mVO#ce&d%mVO'_e&d%mVO%ie&d%mVO%Re&d%mVO#o",
    "e&d%mVO&je&d%mVO%ye&d%mVO$ue&d%mVO&ke&d%mVO$ve&d%mVO#Te&d%mVO&se&d%mVO'te&d%mVO$le&d%mVO$oe&d%mV",
    "O%Ye&d%mVO#`e&d%mVO&ye&d%mVO&ae&d%mVO%Xe&d%mVO%Ue&d%mVO$ncs#d#&qcno#*acno.g'Wn$e$h#(qdn$e$h#(mdn",
    "$e$h#(ecno+ldn$e$h:Odn$e$h#(kdn$e$h#)Ydn$e$h#(ldn$e$h#(_dn$e$h#(xdn$e$h#)Rdn$e$h#(vdn$e$h#(bdn$e",
    "$h#(pdn$e$h#(`dn$e$h#(wdn$e$h#(adn$e$h#)Xdn$e$h#)Sdn$e$h#)Zdn$e$h#(jdn$e$h#(hdn$e$h#)Pdn$e$h#(rd",
    "n$e$h#(tdn$e$h#(]dn$e$h9|dn$e$h#)]dn$e$h#(odn$e$h#(^dn$e$h#(fdn$e$h#(sdn$e$h#)[dn$e$h:Pdn$e$h#)V",
    "dn$e$h#)Wdn$e$h#(gdn$e$h#)Odn$e$h#(zdn$e$h#(ydn$e$h#)Tdn$e$h#(cdn$e$h#(idn$e$h#)^#z&h%v)h$e$h#(|",
    "f&h%v)h$e$h9|f&h%v)h$e$h:Of&h%v)h$e$h#(nf&h%v)h$e$h#)Qf&h%v)h$e$h:Pf&h%v)h$e$h#)Uf&h%v)h$e$h#(df",
    "&h%v)h$e$h#(u$|d9z?ncd9z?e'h*gVc#$qd*gVc#+rd*gVc#5xd*gVc6Yd*gVc#6Pd*gVcDh#.aGoa#$Wb&b.xc4_P#7nc=",
    "y'X#-ha=yc7o(x#!Rc#8`'X7ca#2mc-^(x4_b+d(wa#=yb#,x2Oc+n0V#!pc+n0VAVc+n0VAtc0VP#,nc0u'VVd>z/e'VVd-",
    "q)u'VVd>z9b'VVc%t'VVd>y9b'VVd3x)u'VVd>y/e'VVb/e'Vd0u'VPie-q)u'VPie3x)u'VPid%t'VPic*jPib#%]$[b#5v",
    "$[a>ZbZ8ib]*je]*jPR)id]*j2_)if]*j2_)iP.cc)iP.cc)iP5`c)iP.Sc)iP#:]a#$Vc+eCdib0]/oa#8waD^aEga#4wb#",
    "!q.vbGz.vb0|.vaDfb0];ya#;`bEf7Xa#3ua#&ha#8_a7Xc/tf#+yc/tf.ea#&dc$f'UFZb#,U'Ub##_'Ud'U#$T%O+ea#-o",
    "a#:WaBPa#%ga#,ga#>Za#9Oa#*zaBha#0xb'h6jb+R6ja#0Va#0SaEea#7|a#%wc#6gf#1Pc;O(V7Zb#1l+Ub.eGWb.e(ybF",
    "u.ecGjU.eb#7r2ba#6|a7`b9V#$mc#3o#8i<WaGta#.qa#8fb#$l=Ze+Q2gP#8lHYc.n,t7yb#5o,tb,t7yaNqa7ubEp#RaD",
    "qa#+iaGkb#&r4pa#5wbB|qc4pf0RaFvc0SU3uc#9V2R#&Od#4T/^U/gb#>e,rbF`,rb>f8fb6w#-lc7p6w#-mb,c/^e0SU3u",
    "P#1Td/^P#1eF|a#1ca)eb#>t#1ubCZ2ga#)sb2n.vb##b2na##sb##r#7Oa2Zb4g#1dbFk(yb#8|.vb-b##xb#0w8Xb+T8eb",
    "D|#8Ob+eEmc'V#=lE]b<v#4_b#%f2jf&_P'w(V)ZYc7^f#$Qb4T.Tb#3W)ed+|.RP#)tb#8U;Rb:k#6ib,j#*^d/[6m+|.Zd",
    "/[8[+|.Zb8|#$gb?m#9xbDz+ub##j6Ub<mF^d##u.bU+Qa;Rb#-i/aaEua#&XbAs#/kb%q0XbEy>Xa#9wbFP2ab#0a6lb>v9",
    "Yb8`#&ob#6l4QaCVb9Y+maCtc-s#iDxb+|)rc#-n+|.Za#4ea#%pb+|.Ra#;[a#=pb+|#4id#4P#5sP#4^d>W<dU(yd=`U=`",
    "7]cBoU#&tbEd)Qa#6sa#4Oa#8eb#7Z.Ta#:rb+u4xbAU9Tb#3y9Ta#8jb#>`#+Ta#%cb4x#-db4x+kd7z6tU(ya#=ze##l9o",
    "5gU(ye,t9o5gU#2Ze#8u>W#/dU(yc5`Du,yaDlcBqP.xb-_2tb-x7ca7ocHX-x-_bFR-_a8]b8]#)pb;W#/ta#7ib-x-_c-x",
    "P#$vb4a-_c+T4o4ac8w4o4aa#'za2]cBT#9c4Qa9vb4O9vbFt=ta<vbHV=ta##Zb#)r#*mb+T2kb8w2kb];xbZ;xc6T])Qc6",
    "TZ)Qa<obZ<oa#*gdB_<dU#6Rc7_UTaAXd*[#k-r#;md*[#k-r>jd*[#k-r>kd*[#k-r>ld*[#k-r>ma#2qa+za#/ab+dDVa7",
    "xa>_a#+Oa<ca)^a-faGZa?Qa#6pa#6qa+ua#2na#%_a#5pa.Va#3taEia/oa4laCfa3Xa#.pb5f%vaDWaAda#&sb#*j6xa+Q",
    "b>f+QaCca#;eb#&S2mb,c2mc#$o,c2maCYa#0Za#*`a#1bbNw7gbB[7gaHub+zib7xib>_ib<cib)^ib-fib#7]?Qb+uib.V",
    "ib/oib4lib#$nib#%yib#>iib6vib#/pib4l4`b#0R#1|aEna'^a-ka/ta4`a'|a1we]v#u*t&Se]x#u*t&Se]Y#u*t&Se][",
    "#u*t&Sc##v%xbc6T%xbc0y%xbc1uvbc1uxbcFQ+Sbc$^+Sba8Pb2S0Xa##Ra#-ya#8ta#)waNva#*VaCTb2SFYa#2^a#%za#",
    "1kb#,Q,YbA|,Yb#&j,Yb2S<tb2SCla#$[cD`%O1lcDa%O1laCva#%Va)ca.za##`e)cU.z0[+Sd#_#,k0[+Sd#_#>j0[+Sb1",
    "W#.sd.zPD[#!WcDOP#<[d'YPCa-ve)cP#%l*d#,Tc)cP#;bb4b)cb4b.za,cb2t#>oa#1yb+T#.tb+T#%`a#%Rb,cA]b##P6",
    "eb6e#-^a#)aa5^c3oHZ'Ya#%naGra#+ab#-r#1_bi#,]a#%tbBk.ba#8ra#0rb3t#Ub4OOa%gb#$x=sa3ta7^cGSP&_a#>^b",
    "Bu&_b/`&_b#_'qb#7Q&_b#%k&_c&_PTb,f&_b+R&_b6[&_b4t&_c&_P)eb<k'qb&_8Xf$t#5mP#Yh)bc/uuDXb2VVaCib5_V",
    "bFdVc#7W1pVa8ib%^Vc#0qf#1ab#$PCPb8dVb.o2Zb5s2Zb]-sc%d#1]Vb;T/Xb8R#!sca,lbbGY#ed/YP2Tbd/YP,lbd/YP",
    "8vbd/YP4qbc;TP#>fg-`P#]5yU2Tba#4sb;|2qaDPa#-Pb0P-db;i3Ra#!Sb-o-tc$^-o-tc)sP)`c)s-lva2hb#9Y2hb#e&",
    "Sd-`P#]5yd-`P#[5yb#R-`aFUa4ub1d4ua#/qb.q<pb.w<pb7[#8va#*ua;ad;aPG|GTb&b,gb$^,gb+R,gb,f,gb,z,gaCj",
    "b#-tB]a#4na#,jb)Y1^a#/eb8y4Qb<u6gc#2Y?h#+pbEb#,fb#/[>eb#)b>ea#/cb#!TVb#)d*]e*]P#[T`e&b0oP:w)Qe&b",
    "0oP(t)Qe$^0oP(t)Qe$^0oP:w)Qa#1hb1X&Ra;[b.U1Ug.U1UPgT(xYb#=h#-Tc.U1U#.rc)T.U#0lc6gP6ra/ac/aP##zb>",
    "v/aa#9ba<ea#=ib8|#2Sb#1f#7tb#1qBrc#;jg'mg'ygUl$^y'mk'ygUl$^y'mPd#y(Wg'y#[U#]$^y'mg&|#[U#]$^y'mc%",
    "n7aVc,s7aVd,ZP2i#Oa,Ze,ZP#y(P(we,ZP$T(P6Sa6ub/u#1Wc'a:y,rc&z:y,rd0nP#)k1Qd&b0nP*_a*_a0nb$^0na+jd",
    "+jP2i#Oa7[b:nVb<e,he*sPlT`e)PPlT`i(VP(j#UPY[T`e#6yPgT`e%qP#]T`e)T#y6Q-gVb:['lf-|VcQS3|f-|VcQR3|d",
    "-|Vc#.jd-|Vc>Oe-|VcQ3|a,qb/u#:[a?Ua0Wc#.mUCha#&pa#1Oa#,sa#9abGe(yf%`%f$[P&Vhd+TVcByb5z#!bcZs,hc]",
    "s,hc%e'hyc%e,fyc%e,z$tc%e,f$tcR,z$tcR,f$tc(Q'h#Xc(g'h#Xd(QR'h#Xd(gR'h#Xe$V[(u]ye$k[(u]ycd%]4me%]",
    "4mP#%ukb%]4mf)qY.jP$T']f)q[.jP$T']dVc#,WE`c]Q%]caQ%]bE[%]b#.vVcNrf;wa#*Ra#-aa#8pd#,lP&rCzc2bf#(V",
    "d&]i#y)Ud&]i#_)Ud&]i$T)Ud&]i$f)Ud&]i$y)Ud&]i%`)Ud&]i&`)Ud&]i$|)Ud&]i&r)Ud&]i'l)Ud&]i+p)Ud&]i)g)U",
    "c&]i#.yc&]i#;kc&]i#9sc&]i#$dc&]i##wc&]i#6Zc&]i#5ec&]i#!Zc&]i#.Zc&]i#9ec&]i#!`c&]i#;hb[,Zf[,ZP#y(",
    "P(wf[,ZP$T(P6Sa7dd7dP(P6Sb#3n+ja,gaDob#,R&]dZ5^U7|b)T#0za9pe)c%OD_*i#+Pc#6f#g#7`b8U=xa=kb=k#>]a#",
    ")|b)cGsdY%x)Y1^d)Y1^P)sd[%x)Y1^c]>b)YcZ>b)Ye)Y(V%qf#-VcFO.U1Uc*sf*]b=p*]c*]P.Sb3b*]d1Q'X=p*]b#+^",
    "#/rbZ4uc$VY1Rd$VYBf1Qd$VY9U1Qc$VY#/gc$VYGXcY?V%xd$P0y%xbe(t%xP-p=lf$r(t%xP-p=ld$r1uvbd$r1uxbc$r>",
    "u%xf$r%xP&V3^#!yi(t%xP4f/]&VU%g-pf]x#uY%x&Se+Z]Y#u&Se+Z][#u&Se+ZZY#u&Se+ZZ[#u&SeZY#u*t&SeZ[#u*t&",
    "Se+Z]v#u&Se+Z]x#u&Se+ZZv#u&Se+ZZx#u&SeZv#u*t&SeZx#u*t&SbZ&_b8^2qc.RU+zc$T#.SFia<Zb#1[DieZ-w%v0P-",
    "de]-w%v0P-dd.n%v0P-db>TESb#>h.Rc#y,h+zc#_,h+zc$T,h+za#:bc;g;|2qb-w-da.ib<Z3nb8y3nc;i3R3nc-eP.te-",
    "eP.tU4kc-eP4kc3eP4kc3eP#9|d3eP6f%XbZ-ta-tb$^-tc#e&SHlc#e-oqb-oDdb(i)rc(i)r)sc(i)r0za)rb)r)sb)r0z",
    "b(i-eb(i)sb(i;qa-ea)sa;qa#>Xc5f)r0zc5f2h0zb8^?Ra#-Qa#,ba#/_f'y[UY.j'mb2i%Xd#)f9R=]VdHO9R=]VaFhb;",
    "g*_b#3r;[d)sPd.tb#7v-`b2|3ua:od#7S0Y%O1lc$T-P`c$T-Pkc$T-PYc$T-P[cY.o*Qc[.o*Qc#_.o2ec$T.o2ecY5s*Q",
    "c[5s*QcY2V*Qc[2V*Qb4V*Qc.S4V*Qb.S4Vd(cqP(cc(c'Z%Xe(cqP'Z%Xd(c'n'Z%Xf(cqP'n'Z%Xcu*v#Ue(cqP'n*vb#>",
    "p:|b#-g#$sb#:V#:`c#7pf#+Rc1lf#)ua#-jb-uie-uiP&v'^eiP5of:Ye&viP$^'|h&viP$^'|U&v'^h&viP$^'|U2o1ph&",
    "viP$^'|U>`'^d&viP#%vd&viP9ub?Sie&viP&v'^di#4cHS0Rb<iie&viP9j'^d&viP=xb#6oib%oib#!xib#;ridiP2o1pb",
    "#0]ibFmibFlib0jidi#9t#Y3te0jiP&v'^e0jiP&b'^diP5i1wgiP5i1wU?S-kgiP5i1wU>`'^b8cib#>ribA^ib4rib2zib",
    "#0cieiP#+jf#:nd8c*R<iie0UiP$^'|bA`ib##dib?Oib#6eib#:Rib#%jic#+o2zidiP$^'|b#(RigiP$^'|U2o1pdi#4l%",
    "O##cbAxib#$Sib5_ib8dici2R'|diP#,e4Rf-u)^iP&v'^f)^iP5of:Yf&v)^iP$^'|f&v)^iP9j'^e)^iP#>w=df0j)^iP&",
    "b'^c4r)^ic2z)^ic?O)^ic1m0Uic1m&vib#<PidiP<n'^eiP)T#%d9`diP0y9`c'YCsHPb#4v.Vb#&Z.Vb#7R.Ve#&R'Y<f#",
    "y%xf'Y<fCp+S%OEYb'Y0Ud'YP4rid'YP#$X+Sd#|$i#u'Ud$_$i#u'Ud#|#z#u'Ud$_#z#u'Ue$P#|$i#u'Ue$P$_$i#u'Ue",
    "$P#|#z#u'Ue$P$_#z#u'Ue#|$i#u+b'Ue$_$i#u+b'Ue#|#z#u+b'Ue$_#z#u+b'Ufa#|$i#u+b'Ufa$_$i#u+b'Ufa#|#z#",
    "u+b'Ufa$_#z#u+b'Ud#|$i#u*ud$_$i#u*ud#|#z#u*ud$_#z#u*uea#|$i#u*uea$_$i#u*uea#|#z#u*uea$_#z#u*ud9q",
    "1[s%Pg9q1[s%P%OZsd=h1[s%Pg=h1[s%P%OZsbl.fb#].fbg.fb#[.fd'Z(_-j%Pea'Z(_-j%Pd(_$^-j%Pea(_$^-j%Pca,",
    "_%Pc5l,_%Ph%Sae$P%[&X#U%Pg%Sae%[&X#U%Ph%Sa%ne%[&X#U%Pca0a%Pc%S0a%Pda%S0a%Pc%sa'Rd%sa'i'Rb7n2ac'i",
    "7n2aa.fa#&_b#7q:tb1]+kb9n5xe9n5xP(X4`a5xa#,pbu#2la#7oa>cb>c+ka2fb.]2fa#:qb2f%aa#-OaATb,q8qb1W+kc",
    ".]1W+ka>Vb.]>Va6pb.]6pb#2y#<ZbHT5|bAr#+la#:ca#-[b,y1]b#8g1]b,yDeb?o#:ea=Wa#3wa#7Tc#b.uucj.uub2tb",
    "d1WER<kud.w)Q(V4oaHxc)T3Ybb=eVc)T=eVf#2_:q%O#)q,|Vd3U$O:qVc#1i+dVc#.b+dVaCQb)TCRa7Rb,y7Ra#0Wb)T#",
    "0XbEl)_b#,mVb#>kVa#3Yb,cVa#:Ub+dFWa#5za2^aBpb#0P,jaGmbBaE|bY:xd#XP*g2wb#2Pbcd3o5dbCwVb#%WVcGPU:f",
    "b5_?fb=YBbbBz+jaBxc,|f#>sb#.obb=Y#:pa#8Wa#/fb#&l#9da#(Sa#!_$Y#1U#6ha6Ub%gD]c0WU?Ua=Tb;f3Wa#-fb1]",
    "#:ab;VCgc(Q4T*qb(Q*qc(QR*qbR*qb#.e*qb*qHWb*qAo#e<uc.],q8qbH_:tb#/z=Wa<wb;V<waDta#6cb3b#4aa#6`bBS",
    "#3^b#0m5|b<m=_#hzVc#2gdzVc?sdzVc,qdzVc+ndzVc+ddzVcAjezVc/T#3PezVc/T#3QezVc/T#=rezVc/T#=sdzVc>wdz",
    "Vc#=ndzVc#=odzVc5kezVc#0j5kezVcZ5kezVc0r.rezVc0r#8YezVc0r#8ZdzVcEvdzVc,WdzVc#.^dzVc#=tdzVc#=uezV",
    "c5P,WezVc5P#4WdzVc#%bdzVc#6UezVc0c,PezVc0c#/UfzVc2yf0cfzVc1_f0cezVc,k,PezVc#)o,PfzVc.rf,kfzVc2yf",
    ",kfzVc2yfFxezVc,k6hgzVc,Wf,k6hhzVc.rf,Wf,kdzVc#<]ezVc#:P,PezVc#*s,PezVc,`,PfzVc.rf,`fzVc,Wf,`hzV",
    "c.rf,Wf,`fzVc>wf,`fzVc1_f,`fzVc1_fAfdzVc1_dzVc#3SdzVc#3TdzVc#3UdzVc?xdzVc?ydzVc#,VdzVc#4UdzVcApd",
    "zVc#2tdzVc#2udzVcBQezVcC],PdzVc#9QdzVc#9RezVc#2e#+WdzVcCmdzVcCndzVcCodzVcAPdzVc;fdzVc#7VdzVc#:Qd",
    "zVc#%qdzVc#>[dzVc#1ndzVcDkdzVc#;fezVcDw#-`fzVc#4hf#)zdzVc7fdzVc5zezVc#7m5zdzVc#+hdzVc=fdzVc#<Rez",
    "Vc+u#!QdzVc6nezVc4p6ndzVc2cezVc#1o2cdzVcARfzVc5h=z5hfzVc5h=z#7ydzVc#8[dzVc#1sdzVcHjdzVcHhdzVcHid",
    "zVc#2]dzVc#2`dzVcG^dzVcG_dzVcG`dzVcGadzVcGbdzVc6cfzVc2^f#,ZfzVc2^f#<VdzVc#3ZdzVc#'|dzVc4_dzVcGwd",
    "zVc#-_ezVc#tNuezVc#t;m&uZ'a0e[#XeZ(Q0e[#XeZ&z0e[#XeZ(g0e[#XdZ1mRyd#v'n]yc'n]yca]yd%sa]yd,pa]yf]y",
    "*WZRyb1d5ncZ1vsdZ1mRscu]sc#v]sc'n]sca]sd%sa]sd,pa]sg]s*WZ%sRsf]s*WZ#vsbs5ncZ1v$tdZ%sR$tdZ#vR$tg]",
    "$t*WZ%sR$tf]$t*WZ#v$tb$t5ncZ1v(ldZ%sR(ldZ#vR(lf](l*WZR(lc5pW%]cuW%]c#vW%]c'nW%]d%s'nW%]d%saW%]d,",
    "paW%]b5p)wbu)wb#v)wb'n)wba)wc%sa)wc,pa)wdu$y'k$zd#v$y'k$zd'n$y'k$zda$y'k$ze%sa$y'k$ze,pa$y'k$zdu",
    "%`'k$zd#v%`'k$zd'n%`'k$zda%`'k$ze%sa%`'k$ze,pa%`'k$zdu$|'k$zd#v$|'k$zd'n$|'k$zda$|'k$ze%sa$|'k$z",
    "eu$T%fZ$[e#v$T%fZ$[d$T%fZ$[e#v$T%f*e$[eu$f%fZ$[e#v$f%fZ$[d$f%fZ$[e#v$f%f*e$[f'iu$f%f*e$[eu$y%fZ$",
    "[ea$y%fZ$[e#v%`%fZ$[ea%`%fZ$[d%`%f*e$[e#v$|%fZ$[ea$|%fZ$[f%sa$|%fZ$[ea$|%f*e$[eu)g%fZ$[ea)g%fZ$[",
    "ea)g%f*e$[bd#Xc#ad#Xbdsc#ads$|%e,zyc%e6[yc%e+Ryc%e4tyc%e2dyc%e'hsc%e,fsc%e,zsc%e6[sc%e+Rsc%e4tsc",
    "%e2ds#wa%kb'zlTPR#X#wf#]TPR#X#wfgTPR#X#wf#[TPR#X#wflTP#v#X#wf#]TP#v#X#wfgTP#v#X#wf#[TP#v#X#wflTP",
    "%e#X#wf#]TP%e#X#wfgTP%e#X#wf#[TP%e#X#w#zlTPR&q#wf#]TPR&q#wfgTPR&q#wf#[TPR&q#welTP&q#we#]TP&q#weg",
    "TP&q#we#[TP&q#wfalTP&q#wfa#]TP&q#wfagTP&q#wfa#[TP&q#wgalTP%e&q#wga#]TP%e&q#wgagTP%e&q#wga#[TP%e&",
    "q#wfl#mTP.X&ef#]#mTP.X&efg#mTP.X&ef#[#mTP.X&efl#mTP#v&ef#]#mTP#v&efg#mTP#v&ef#[#mTP#v&efl#mTP'n&",
    "ef#]#mTP'n&efg#mTP'n&ef#[#mTP'n&efl#mTPa&ef#]#mTPa&efg#mTPa&ef#[#mTPa&egl#mTP%sa&eg#]#mTP%sa&egg",
    "#mTP%sa&eg#[#mTP%sa&ecl/zTc#]/zTcg/zTc#[/zTclnTc#]nTcgnTc#[nTcl*wTc#]*wTcg*wTc#[*wTdla*wTd#]a*wT",
    "dga*wTd#[a*wTclaTc#]aTcgaTc#[aT%_l%STc#]%STcg%STc#[%STd#|$i%STd#|#z%STd$_#z%STd$_$i%STdY[%STdvx%",
    "ST$m%Tlu#STe%T#]u#STe%Tgu#STe%T#[u#STf%T#|$iu#STf%T#|#zu#STf%T$_#zu#STf%T$_$iu#STd%Tl#STd%T#]#ST",
    "d%Tg#STd%T#[#STe%T#|$i#STe%T#|#z#STe%T$_#z#STe%T$_$i#STe%Tl#v#STe%T#]#v#STe%Tg#v#STe%T#[#v#STf%T",
    "#|$i#v#STf%T#|#z#v#STf%T$_#z#v#STf%T$_$i#v#STe%Tla#STe%T#]a#STe%Tga#STe%T#[a#STf%T#|$ia#STf%T#|#",
    "za#STf%T$_#za#STf%T$_$ia#STf%Tl%sa#STf%T#]%sa#STf%Tg%sa#STf%T#[%sa#STg%T#|$i%sa#STg%T#|#z%sa#STg",
    "%T$_#z%sa#STg%T$_$i%sa#ST%_l#X#wc#]#X#wcg#X#wc#[#X#wfl]T2Q#X#wf#]]T2Q#X#wfg]T2Q#X#wf#[]T2Q#X#wel",
    "TP)q%Ze#]TP)q%ZegTP)q%Ze#[TP)q%ZeaT&e*m#yfaT&e*m#_1sfaT&e*m#y#tfaT&e*m#y5qdlCr]Teg&o5Z]Tel%q5Z]T",
    "eg%q5Z]Tdl3z]Tdg4|]Tdl4|]Tdg3z]Tel2X(u]Teg2X(u]Tel3f(u]Teg3f(u]Te]T&e*m#yf]T&e*m#_1s#YT#u#]+]#|$",
    "igT#ug+]-c$_$i>vd%]3cP$f']fd%]3cP#_']cd%]3cfY#tyP$f']fY#tyP$T']fY#tyP#_']eY#tyPhcY#tyc/q-l|d/q-l",
    ")q|e/q-l|Phf/q-l)q|Phb#0u-pb]&_b2d&_b#0v%xb#?Yib#-YiciP>Zb#.Oib#9niciP#&Vb#3pib9widbf)Z9ucDj0p%x",
    "d(t*sf%xb#*v3_b#3h3_a#&Qg%xP&SU&V-p-be#o4O#?T%xbdiPGU0XbF[ib#-wie<n(V)Z3`#*qbNxib#+tibi0|b#6riei",
    "P#y##Q(te-uiP$['^i-uiP#y%eU#yR-kfiP3^2x&b:of#5biP>O2x'|i&viP&v'^U%x2x'|eiP$^'|#>Pe#5tiP#!v0Yb4s.",
    "zaC|c#/mv#:Ta#5^a#1xc)c%O#;gb#-c2na#6Oc'YHtETa#*Oa##gb#-W#0_a#>vb+d#1`a#%|bHn4Rb#>d-sc3WPN|b7p#%",
    "Xb#;a,ra=mb#%^#.Ra#3gc-q,|.Tc<x,|.Tc5q,|.TbCu#%Zc#,Y6l#;ybGi=sd#*h5gU(ya#6vb3b3RaG[aBWaGfaBZa<Wa",
    "EQbBc7`b+R#4Vd#5k#/nf0Rb#8V9Qa#!Xc,rf#,wa#0Ua#*Ya#/oa#!Pb#$b7ub#8yqaEqc2bP=mc/gP#7zaFaaDRa#0na#1",
    "vcGnf;Oa#4[bDs0Rb#*t+Ra#,Pb'V2gaB`h&viP&v'^U$T'qb#?Oid&viP#9XgiP4g&RU4g0XgiP#;w'^U,]'|b#/^ib#$ji",
    "a#.[bHfidi0[*s5odiP#1V'^a#4]b#*f7ra#%ab#&k7]b9P,YaGVb#+_ia#4ja#;cb#;xia#!Ua#!Oa6ta#5na#/`b#$fiaD",
    "caHQa#%ea#+da#3[a=Za#7ab#%Uib#?Via#&^a#4ba#8sa7za#*Sa#+ea#0Ta#&ma#/ua#2ia#+fa#-ba#,raB^a#8ha#+|a",
    "Hsa#6ma#/Ya#/Sa#6ba##ya#/baBvaC^a#4rb#%o/ob#2ODrd*[/d'h-vd*[/d&Q-vc*[/dBdd*[/d]-va7Za+Ua9Sa#:Ya#",
    "8aa#8cb5S#=ed/tP#&[?rb#-e6Vb#,S6Vb;P*Ob;P+UbEc#>_aGgb,W#5ib7Pqa#$wa#.|a##^a#>TaDbb#,_8fb,t8Qb*Q#",
    "9Ua#:ob#7k'Yb#*]'YbGy'YciP#-Za6baEkb4b6bbBt'Yc'YP#&Yd'Y%O#7s#3sb'YFTd'Y%O:u4na#+va##]a#<Ua#,oa#!",
    "aa#$|a#?ZaCxb,z&_bCU2ja#4ga#%[a7ra#6uc'h#%S*]a##qc#)y#2a,Sb#9i#;^b#0gHgcHre#&`aFfa?cb,q#!za#:Xa2",
    "ca#+xa:xb#+n/^c#7Yf#9qc(yf#>|b5S#0sb#9]6vaDSaBnc#3qf1Oc#Rf=fa#7Xa#2vb#-xAYc%o#^'gc%o#^(Oc%o#^)Xc",
    "%o#^(zc%o#^&Uc%o#^)Vf]#^&U$]3d$jfZ#^&U$]3d$jf%o#^&U$]3d$jf]#^'g$]'Q$jf]#^(O$]'Q$jf]#^)X$]'Q$jf]#",
    "^(z$]'Q$jf]#^&U$]'Q$jf]#^)V$]'Q$jfZ#^'g$]'Q$jfZ#^(O$]'Q$jfZ#^)X$]'Q$jfZ#^(z$]'Q$jfZ#^&U$]'Q$jfZ#",
    "^)V$]'Q$jf%o#^'g$]'Q$jf%o#^(O$]'Q$jf%o#^)X$]'Q$jf%o#^(z$]'Q$jf%o#^&U$]'Q$jf%o#^)V$]'Q$jh]#^&U$]#",
    "y%d5r$jhZ#^&U$]#y%d5r$jh%o#^&U$]#y%d5r$jd]#^$P'gd]#^$P(Od]#^$P)Xd]#^$P(zd]#^$P&Ud]#^$P)VdZ#^$P'g",
    "dZ#^$P(OdZ#^$P)XdZ#^$P(zdZ#^$P&UdZ#^$P)Vd%o#^$P'gd%o#^$P(Od%o#^$P)Xd%o#^$P(zd%o#^$P&Ud%o#^$P)Vh]",
    "#^&U$]#_%d6P$jhZ#^&U$]#_%d6P$jh%o#^&U$]#_%d6P$jh]#^'g$]#_%d'j$jh]#^(O$]#_%d'j$jh]#^)X$]#_%d'j$jh",
    "]#^(z$]#_%d'j$jh]#^&U$]#_%d'j$jh]#^)V$]#_%d'j$jhZ#^'g$]#_%d'j$jhZ#^(O$]#_%d'j$jhZ#^)X$]#_%d'j$jh",
    "Z#^(z$]#_%d'j$jhZ#^&U$]#_%d'j$jhZ#^)V$]#_%d'j$jh%o#^'g$]#_%d'j$jh%o#^(O$]#_%d'j$jh%o#^)X$]#_%d'j",
    "$jh%o#^(z$]#_%d'j$jh%o#^&U$]#_%d'j$jh%o#^)V$]#_%d'j$jh]#^&U$]$T%d+s$jhZ#^&U$]$T%d+s$jh%o#^&U$]$T",
    "%d+s$jc]#^,ncZ#^,nc%o#^,nf]#^,n$]'Q$jfZ#^,n$]'Q$jf%o#^,n$]'Q$jc]#^:ac]#^:bc]#^:`cZ#^:acZ#^:bcZ#^",
    ":`&s(b'h9^c(b'h:zc(b'h3Xc(b'h+uc(b'h7mc(b'h7hc(b'h=gc(bZ9^c(bZ:zc(bZ3Xc(bZ+uc(bZ7mc(bZ7hc(bZ=g#U",
    "Be#5ub#.x#8kaDQa1kb#9p<t#gNyfCbb?jBia#7ua#>yaGc#e#?Ra#*Xa#/saCkb#+w#>Va#0tb#.Q8e%n#3m#1Ra7la#2sa",
    "BXbHp:faBjb4T9ka?gb$m3WaFcbEO#4da#4ma#*ia|a;Sa?Ra#1Yb#5g#-za#*_aDTb+z#:ha#:Za9ia#1Qa5Pb;S(yb9y#e",
    "b%n6ua#%x#e#$Ua#>qa6xaF_b#1j#1Sa#>la##ea:uaFzb(i;Zc;ZP#!Y$YAZ&_a#+sb#0`9wb4s)cb4s'Yc'YP8P&PCeb+j",
    ";ya#.ua9Qa#8za#$Ya#9Wb#1m#+baBsa#)v$j#,hib#4XihiP$^'^U%x'X'|diP#0Y-kdiP&p'|c)a$ZibC`#+`a2e%c%xP&",
    "S3^U#9u-bbg%xbl%xc0|x%xc0|v%xe&S#u(x)Z#=kb&_+S"]

/-- Other names of characters, mostly of control and formatting characters. -/
def nameAliases : List (String × Nat) := [
    ("NULL", 0),
    ("NUL", 0),
    ("START OF HEADING", 1),
    ("SOH", 1),
    ("START OF TEXT", 2),
    ("STX", 2),
    ("END OF TEXT", 3),
    ("ETX", 3),
    ("END OF TRANSMISSION", 4),
    ("EOT", 4),
    ("ENQUIRY", 5),
    ("ENQ", 5),
    ("ACKNOWLEDGE", 6),
    ("ACK", 6),
    ("ALERT", 7),
    ("BEL", 7),
    ("BACKSPACE", 8),
    ("BS", 8),
    ("CHARACTER TABULATION", 9),
    ("HORIZONTAL TABULATION", 9),
    ("HT", 9),
    ("TAB", 9),
    ("LINE FEED", 10),
    ("NEW LINE", 10),
    ("END OF LINE", 10),
    ("LF", 10),
    ("NL", 10),
    ("EOL", 10),
    ("LINE TABULATION", 11),
    ("VERTICAL TABULATION", 11),
    ("VT", 11),
    ("FORM FEED", 12),
    ("FF", 12),
    ("CARRIAGE RETURN", 13),
    ("CR", 13),
    ("SHIFT OUT", 14),
    ("LOCKING-SHIFT ONE", 14),
    ("SO", 14),
    ("SHIFT IN", 15),
    ("LOCKING-SHIFT ZERO", 15),
    ("SI", 15),
    ("DATA LINK ESCAPE", 16),
    ("DLE", 16),
    ("DEVICE CONTROL ONE", 17),
    ("DC1", 17),
    ("DEVICE CONTROL TWO", 18),
    ("DC2", 18),
    ("DEVICE CONTROL THREE", 19),
    ("DC3", 19),
    ("DEVICE CONTROL FOUR", 20),
    ("DC4", 20),
    ("NEGATIVE ACKNOWLEDGE", 21),
    ("NAK", 21),
    ("SYNCHRONOUS IDLE", 22),
    ("SYN", 22),
    ("END OF TRANSMISSION BLOCK", 23),
    ("ETB", 23),
    ("CANCEL", 24),
    ("CAN", 24),
    ("END OF MEDIUM", 25),
    ("EOM", 25),
    ("SUBSTITUTE", 26),
    ("SUB", 26),
    ("ESCAPE", 27),
    ("ESC", 27),
    ("INFORMATION SEPARATOR FOUR", 28),
    ("FILE SEPARATOR", 28),
    ("FS", 28),
    ("INFORMATION SEPARATOR THREE", 29),
    ("GROUP SEPARATOR", 29),
    ("GS", 29),
    ("INFORMATION SEPARATOR TWO", 30),
    ("RECORD SEPARATOR", 30),
    ("RS", 30),
    ("INFORMATION SEPARATOR ONE", 31),
    ("UNIT SEPARATOR", 31),
    ("US", 31),
    ("SP", 32),
    ("DELETE", 127),
    ("DEL", 127),
    ("PADDING CHARACTER", 128),
    ("PAD", 128),
    ("HIGH OCTET PRESET", 129),
    ("HOP", 129),
    ("BREAK PERMITTED HERE", 130),
    ("BPH", 130),
    ("NO BREAK HERE", 131),
    ("NBH", 131),
    ("INDEX", 132),
    ("IND", 132),
    ("NEXT LINE", 133),
    ("NEL", 133),
    ("START OF SELECTED AREA", 134),
    ("SSA", 134),
    ("END OF SELECTED AREA", 135),
    ("ESA", 135),
    ("CHARACTER TABULATION SET", 136),
    ("HTS", 136),
    ("CHARACTER TABULATION WITH JUSTIFICATION", 137),
    ("HTJ", 137),
    ("LINE TABULATION SET", 138),
    ("VTS", 138),
    ("PARTIAL LINE FORWARD", 139),
    ("PARTIAL LINE DOWN", 139),
    ("PLD", 139),
    ("PARTIAL LINE BACKWARD", 140),
    ("PARTIAL LINE UP", 140),
    ("PLU", 140),
    ("REVERSE LINE FEED", 141),
    ("REVERSE INDEX", 141),
    ("RI", 141),
    ("SINGLE SHIFT TWO", 142),
    ("SINGLE-SHIFT-2", 142),
    ("SS2", 142),
    ("SINGLE SHIFT THREE", 143),
    ("SINGLE-SHIFT-3", 143),
    ("SS3", 143),
    ("DEVICE CONTROL STRING", 144),
    ("DCS", 144),
    ("PRIVATE USE ONE", 145),
    ("PRIVATE USE-1", 145),
    ("PU1", 145),
    ("PRIVATE USE TWO", 146),
    ("PRIVATE USE-2", 146),
    ("PU2", 146),
    ("SET TRANSMIT STATE", 147),
    ("STS", 147),
    ("CANCEL CHARACTER", 148),
    ("CCH", 148),
    ("MESSAGE WAITING", 149),
    ("MW", 149),
    ("START OF GUARDED AREA", 150),
    ("START OF PROTECTED AREA", 150),
    ("SPA", 150),
    ("END OF GUARDED AREA", 151),
    ("END OF PROTECTED AREA", 151),
    ("EPA", 151),
    ("START OF STRING", 152),
    ("SOS", 152),
    ("SINGLE GRAPHIC CHARACTER INTRODUCER", 153),
    ("SGC", 153),
    ("SINGLE CHARACTER INTRODUCER", 154),
    ("SCI", 154),
    ("CONTROL SEQUENCE INTRODUCER", 155),
    ("CSI", 155),
    ("STRING TERMINATOR", 156),
    ("ST", 156),
    ("OPERATING SYSTEM COMMAND", 157),
    ("OSC", 157),
    ("PRIVACY MESSAGE", 158),
    ("PM", 158),
    ("APPLICATION PROGRAM COMMAND", 159),
    ("APC", 159),
    ("NBSP", 160),
    ("SHY", 173),
    ("CGJ", 847),
    ("ALM", 1564),
    ("ZWSP", 8203),
    ("ZWNJ", 8204),
    ("ZWJ", 8205),
    ("LRM", 8206),
    ("RLM", 8207),
    ("LRE", 8234),
    ("RLE", 8235),
    ("PDF", 8236),
    ("LRO", 8237),
    ("RLO", 8238),
    ("NNBSP", 8239),
    ("MMSP", 8287),
    ("WJ", 8288),
    ("LRI", 8294),
    ("RLI", 8295),
    ("FSI", 8296),
    ("PDI", 8297),
    ("BYTE ORDER MARK", 65279),
    ("BOM", 65279),
    ("ZWNBSP", 65279),
    ("VS1", 65024),
    ("VS2", 65025),
    ("VS3", 65026),
    ("VS4", 65027),
    ("VS5", 65028),
    ("VS6", 65029),
    ("VS7", 65030),
    ("VS8", 65031),
    ("VS9", 65032),
    ("VS10", 65033),
    ("VS11", 65034),
    ("VS12", 65035),
    ("VS13", 65036),
    ("VS14", 65037),
    ("VS15", 65038),
    ("VS16", 65039),
    ("WEIERSTRASS ELLIPTIC FUNCTION", 8472),
    ("LATIN CAPITAL LETTER GHA", 418),
    ("LATIN SMALL LETTER GHA", 419),
    ("PRESENTATION FORM FOR VERTICAL RIGHT WHITE LENTICULAR BRACKET", 65048),
    ("FVS1", 6155),
    ("FVS2", 6156),
    ("FVS3", 6157),
    ("FVS4", 6159),
    ("MVS", 6158)]

/-- Whether a code point is a unified ideograph, whose name is made from its code. -/
def isUnifiedIdeograph (n : Nat) : Bool :=
  (0x3400 ≤ n && n ≤ 0x4DBF) || (0x4E00 ≤ n && n ≤ 0x9FFF) || (0x20000 ≤ n && n ≤ 0x2A6DF) ||
  (0x2A700 ≤ n && n ≤ 0x2B738) || (0x2B740 ≤ n && n ≤ 0x2B81D) || (0x2B820 ≤ n && n ≤ 0x2CEA1) ||
  (0x2CEB0 ≤ n && n ≤ 0x2EBE0) || (0x30000 ≤ n && n ≤ 0x3134A)

/-- The code of an ideograph's name after its prefix: four or five upper-case hexadecimal
digits of a unified ideograph. -/
def ideographCode? (digits : List Char) : Option Nat :=
  if digits.length != 4 && digits.length != 5 then none
  else
    let value? : Option Nat := digits.foldlM (fun acc c =>
      if '0' ≤ c && c ≤ '9' then some (acc * 16 + (c.toNat - 48))
      else if 'A' ≤ c && c ≤ 'F' then some (acc * 16 + (c.toNat - 55))
      else none) 0
    value?.filter isUnifiedIdeograph

/-- The code point of the named character whose words have the given indices. -/
def findNamed (query : List Nat) (nums : Array Nat) : Option Nat := Id.run do
  let mut i := 0
  let mut code := 0
  for _ in [0:nums.size] do
    if i ≥ nums.size then break
    let head := nums[i]!
    let count := head % 16
    code := code + head / 16
    if count == query.length && (query.zipIdx.all fun (w, j) => nums[i + 1 + j]! == w) then
      return some (code - 1)
    i := i + 1 + count
  return none

/-- The code point a character name stands for, if it names one. The ideograph prefix must be
written in capitals; other names may be written in either case. -/
def codeOfName? (name : String) : Option Nat :=
  let lead := "CJK UNIFIED IDEOGRAPH-"
  if name.startsWith lead then ideographCode? (name.toList.drop lead.length)
  else
    let upper := name.toUpper
    match nameAliases.find? (·.1 == upper) with
    | some (_, c) => some c
    | none =>
      let vocabulary := Text.splitOn nameVocabulary " "
      let query := (Text.splitOn upper " ").mapM fun w => vocabulary.idxOf? w
      query.bind fun q => findNamed q (readPackedNumbers nameRecords)

end Dashwright.Text
