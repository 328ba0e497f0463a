/-! # Character names from C to G

Names that begin with a letter from C to G, written as described in `Text/CharacterName`.
-/

namespace MacroStubs.Text.CharacterNames

def initialCToG : List String := [
  "CACTUS CADUCEUS CALENDAR CAMPING CAN CANCER CANDLE CANDY CANOE CAPITULUM CAPRICORN CARON",
  "CARROT CASTLE CCH CEDILLA CERES CGJ CHAINS CHAIR CHERRIES CHESTNUT CHICKEN CHILD CHIPMUNK",
  "CHIRON CHOPSTICKS CHURCH CINEMA CLIPBOARD COAT COCKROACH COCONUT COFFIN COIN COMET COMMA",
  "COMPASS COMPLEMENT COMPRESSION CONJUNCTION COOKIE COOKING CORAL COUNTERBORE COUNTERSINK CR",
  "CRAB CROCODILE CROISSANT CROWN CRUTCH CSI CUCUMBER CUPCAKE CUPIDO CUSTARD CUSTOMS CYCLONE",
  "CYLINDRICITY DANCER DANGO DCS DEER DEL DELETE DIAERESIS DIVIDES DLE DODO DOLPHIN DOOR DOUGHNUT",
  "DRESS DROPLET DUCK DUMPLING DVD EAGLE EGG ELEPHANT ELEVATOR ELF ENQ ENQUIRY EOL EOM EOT EPA",
  "ESA ESC ESCAPE ESTIMATES ETB ETX EXCESS EYE EYEGLASSES EYES FACTORY FAIRY FALAFEL FAMILY",
  "FEATHER FENCER FERRY FF FIRECRACKER FIREWORKS FISHEYE FLAMINGO FLATBREAD FLATNESS FLEUR-DE-LIS",
  "FLY FOG FOGGY FOLDER FONDUE FOOT FOOTPRINTS FORCES FORKING FOUNTAIN FROWN FS FSI FUSE GARLIC",
  "GEMINI GENIE GHOST GIRL GLOVES GOAT GOGGLES GOLFER GORILLA GRAPES GS GUARDSMAN GUITAR DC1~4",
  "FVS1~4 CADA_UNA CALL_ME_HAND CANCELLATION_X CANNED_FOOD CAR_SLIDING CARE_OF CAROUSEL_HORSE",
  "CARP_STREAMER CARPENTRY_SAW CARRIAGE_RETURN CAUTION_SIGN CEDI_SIGN CELTIC_CROSS CENT_SIGN",
  "CENTRE_LINE_SYMBOL CHECK_MARK CHEERING_MEGAPHONE CHEESE_WEDGE CHEQUERED_FLAG CHERRY_BLOSSOM",
  "CHI_RHO CHILDREN_CROSSING CHOCOLATE_BAR CHRISTMAS_TREE CIRCULATION_FUNCTION CIRCUMFLEX_ACCENT",
  "CIRCUS_TENT CLAMSHELL_MOBILE_PHONE CLAPPER_BOARD CLAPPING_HANDS_SIGN CLASSICAL_BUILDING",
  "CLEAR_SCREEN_SYMBOL CLOSE_UP CLOWN_FACE COCKTAIL_GLASS COLLISION_SYMBOL COMPOSITION_SYMBOL",
  "CONFETTI_BALL CONFOUNDED_FACE CONFUSED_FACE CONGRUENT_WITH_DOT_ABOVE CONICAL_TAPER",
  "CONTINUOUS_UNDERLINE_SYMBOL CONTOUR_INTEGRAL CONVENIENCE_STORE COOKED_RICE COPYLEFT_SYMBOL",
  "COPYRIGHT_SIGN CORNISH_VERSE_DIVIDER CORRESPONDS_TO COUCH_AND_LAMP COUPLE_WITH_HEART",
  "CREDIT_CARD CRESCENT_MOON CROSSING_LANES CRUZEIRO_SIGN CRYSTAL_BALL CUBE_ROOT CURLING_STONE",
  "CURRY_AND_RICE CURVED_STEM_PARAGRAPH_SIGN_ORNAMENT CUT_OF_MEAT DALET_SYMBOL DATA_LINK_ESCAPE",
  "DEAF_PERSON DECIDUOUS_TREE DECREASE_FONT_SIZE_SYMBOL DELIVERY_TRUCK DELTA_EQUAL_TO",
  "DEPARTMENT_STORE DERELICT_HOUSE_BUILDING DESCENDING_NODE DIAMETER_SIGN DIESEL_LOCOMOTIVE",
  "DIFFERENCE_BETWEEN DIMENSION_ORIGIN DISABLED_CAR DISCONTINUOUS_UNDERLINE_SYMBOL DISGUISED_FACE",
  "DITTO_MARK DIVING_MASK DIVORCE_SYMBOL DIYA_LAMP DNA_DOUBLE_HELIX DO_NOT_LITTER_SYMBOL",
  "DOLLAR_SIGN DONG_SIGN DOUBLE-ENDED_MULTIMAP DOVE_OF_PEACE DRACHMA_SIGN",
  "DRAFTING_POINT_RIGHTWARDS_ARROW DRIVE_SLOW_SIGN DROMEDARY_CAMEL DROOLING_FACE DROP_OF_BLOOD",
  "DRUM_WITH_DRUMSTICKS E-MAIL_SYMBOL EAST_SYRIAC_CROSS EDITORIAL_CORONIS EIGHTH_NOTE",
  "EJECT_SYMBOL ELECTRICAL_INTERSECTION EMPHASIS_SYMBOL ENTER_SYMBOL EQUIANGULAR_TO",
  "ESTIMATED_SYMBOL EULER_CONSTANT EURO_SIGN EURO-CURRENCY_SIGN EVERGREEN_TREE",
  "EXPRESSIONLESS_FACE EXTRATERRESTRIAL_ALIEN FACSIMILE_SIGN FALLEN_LEAF FARSI_SYMBOL",
  "FATHER_CHRISTMAS FEARFUL_FACE FEMALE_SIGN FEMININE_ORDINAL_INDICATOR FERRIS_WHEEL",
  "FIELD_HOCKEY_STICK_AND_BALL FINITE_PART_INTEGRAL FIREWORK_SPARKLER FISHING_POLE_AND_FISH",
  "FISTED_HAND_SIGN FLAG_IN_HOLE FLAT_SHOE FLEXED_BICEPS FLOPPY_DISK FLORAL_HEART FLUSHED_FACE",
  "FOR_ALL FORKED_PARAGRAPHOS FORM_FEED FORTUNE_COOKIE FOUR-PER-EM_SPACE FOURTH_ROOT FOX_FACE",
  "FREEZING_FACE FRIED_SHRIMP FROG_FACE FRONT-FACING_BABY_CHICK",
  "FRONT-TILTED_SHADOWED_WHITE_RIGHTWARDS_ARROW FROWNING_FACE_WITH_OPEN_MOUTH FUEL_PUMP",
  "FUNCTION_APPLICATION FUNERAL_URN GAME_DIE GEM_STONE GEOMETRIC_PROPORTION GERMAN_PENNY_SIGN",
  "GETA_MARK GIMEL_SYMBOL GIRAFFE_FACE GIRLS_SYMBOL GLASS_OF_MILK GLEICH_STARK",
  "GLOBE_WITH_MERIDIANS GLOWING_STAR GOAL_NET GRADUATION_CAP GRAVE_ACCENT GRIMACING_FACE",
  "GROWING_HEART GUARANI_SIGN GUIDE_DOG CAMERA(. WITH_FLASH) CANADIAN_SYLLABICS(A AA AAI AAY AI",
  "AN AY C CA CAA CAAI CE CI CII CO COO CWA CWAA CWE CWI CWII CWO CWOO E EN F FA FAA FAAI FE FI",
  "FII FO FOO FWAA HK HYPHEN I II IN K KA KAA KAAI KAY KE KI KII KO KOO KW KWA KWAA KWAY KWE KWI",
  "KWII KWO KWOO L LA LAA LAAI LAY LE LH LHA LHAA LHI LHII LHO LHOO LI LII LO LOO LWA LWAA LWE",
  "LWI LWII LWO LWOO M MA MAA MAAI MAY ME MH MI MII MO MOO MWA MWAA MWE MWI MWII MWO MWOO N NA",
  "NAA NAAI NAY NE NG NGA NGAA NGAAI NGAI NGI NGII NGO NGOO NH NI NII NNG NNGA NNGAA NNGI NNGII",
  "NNGO NNGOO NO NOO NOY NWA NWAA NWE NWI NWII NWO NWOO O ON OO OY P PA PAA PAAI PAY PE PI PII PO",
  "POO POY PWA PWAA PWE PWI PWII PWO PWOO PWOY Q QA QAA QAAI QAI QI QII QO QOO R RA RAA RAAI RAY",
  "RE RI RII RO ROO RWA RWAA RWEE RWI RWII RWO RWOO S SA SAA SAAI SAY SE SH SHA SHAA SHAY SHE SHI",
  "SHII SHO SHOO SHOY SHWA SHWAA SHWE SHWI SHWII SHWO SHWOO SHWOY SI SII SO SOO SOY SPA SPE SPI",
  "SPO SW SWA SWAA SWE SWI SWII SWO SWOO T TA TAA TAAI TAY TE TH THA THAA THE THI THII THO THOO",
  "THWA THWAA THWE TI TII TLHA TLHE TLHI TLHO TLHOO TLHWE TO TOO TTA TTE TTH TTHA TTHAA TTHE TTHI",
  "TTHO TTHOO TTHWE TTI TTO TWA TWAA TWE TWI TWII TWO TWOO TYA TYE TYI TYO WA WAA WAY WE WI WII",
  "WO WOO Y YA YAA YAAI YAY YE YI YII YO YOO YOY YWA YWAA YWE YWI YWII YWO YWOO AIVILIK_B",
  "ATHAPASCAN(M S) BEAVER_DENE(L R) BIBLE-CREE_Y BLACKFOOT(A E I KA KE KI KO NA NE NI NO O S W WA",
  "WE WI WO) CARRIER(CHA CHE CHEE CHI CHO CHU DEE DI DLA DLE DLEE DLI DLO DLU DZA DZE DZEE DZI",
  "DZO DZU EE GA GAA GE GEE GHA GHE GHEE GHI GHO GHU GI GO GU GWA GWU H HEE HI HWA HWE HWEE HWI",
  "HWO HWU I JA JE JEE JI JJA JJE JJEE JJI JJO JJU JO JU JWA KHA KHE KHEE KHI KHO KHU KK KKA KKE",
  "KKEE KKI KKO KKU LA LE LEE LHA LHE LHEE LHI LHO LHU LI LO LU MA ME MEE MI MO MU NA NE NEE NG",
  "NI NO NU P PA PE PEE PI PO PU RA RE REE RI RO RU SA SE SEE SH SHA SHE SHEE SHI SHO SHU SI SO",
  "SU THA THE THEE THI THO THU TLA TLE TLEE TLHA TLHE TLHEE TLHI TLHO TLHU TLI TLO TLU TSA TSE",
  "TSEE TSI TSO TSU TTA TTE TTEE TTI TTO TTSA TTSE TTSEE TTSI TTSO TTSU TTU WA WE WEE WI WO WU YA",
  "YE YEE YI YO YU Z ZA ZE ZEE ZI ZO ZU DENE_GEE DENTAL_S INITIAL_Z) CHI_SIGN EASTERN_W",
  "FINAL(ACUTE GRAVE PLUS RING BOTTOM_HALF_RING DOUBLE(ACUTE SHORT_VERTICAL_STROKES) DOWN_TACK",
  "MIDDLE_DOT RAISED_DOT RIGHT_HALF_RING SHORT_HORIZONTAL_STROKE SMALL_RING TOP_HALF_RING)",
  "FULL_STOP GLOTTAL_STOP MEDIAL(L R) MOOSE-CREE_SK N-CREE(THE THI THII) NASKAPI(CWAA KWAA MWAA",
  "NWAA S-W SCWA SKW SKWA SPWA STWA SWAA TWAA WAA WOO YWAA) NATTILIK(HA HAA HI HII HO HOO SHRA",
  "SHRAA SHRI SHRII SHRO SHROO) NUNAVIK(H HA HAA HE HI HII HO HOO) NUNAVUT_H OJIBWAY(C K M N NWI",
  "NWII NWO NWOO P S SH T) R-CREE(RE RWE) SAYISI(HA HE HI HO HOO JI JU JUU M SHA SHE SHI SHO SHOO",
  "SHWE TH YI) SOUTH-SLAVEY(KAH KEH KIH KOH) TH-CREE(TH THA THAA THE THI THII THO THOO)",
  "WEST-CREE(CWA CWAA CWE CWI CWII CWO CWOO FWAA KWA KWAA KWE KWI KWII KWO KWOO L LA LAA LE LO",
  "LOO LWA LWAA LWE LWI LWII LWO LWOO M MWA MWAA MWE MWI MWII MWO MWOO NWA NWAA NWE P PWA PWAA",
  "PWE PWI PWII PWO PWOO R RA RE RI RO RWAA SHWA SHWAA SHWE SHWI SHWII SHWO SHWOO SWA SWAA SWE",
  "SWI SWII SWO SWOO THWAA TWA TWAA TWE TWI TWII TWO TWOO WA WAA WE WI WII WO WOO Y YWA YWAA YWE",
  "YWI YWII YWO YWOO) WESTERN_W WOODS-CREE(TH THA THE THI THO THWA THWAA THWEE THWI THWII THWO",
  "THWOO FINAL_TH) Y-CREE(COO KOO LOO MOO NOO OO POO PWAA SOO TOO W YOO)) CANCEL(. CHARACTER TAG)",
  "CARD(FILE_BOX INDEX(. DIVIDERS)) CARET(. INSERTION_POINT) CARIAN_LETTER(A B D E G I II K L LD",
  "M MB N ND NG NN O P Q R RR S SH SS ST T TT U UU UUU UUUU X A2 C-18 C-39 D2 E2 G2 K2 LD2 MB2~4",
  "P2 SH2 ST2 TT2 UUU2 UUU3) CAT(. FACE(. WITH(TEARS_OF_JOY WRY_SMILE)))",
  "CAUCASIAN_ALBANIAN(CITATION_MARK LETTER(ALT AOR BET CAR CAYN CHA CHAT CHI CHOY CYAW CYAY DAT",
  "DYAN DZAY DZYAY EB EYN FAM GHEYS GIM HEYT INYA IRB IWN JAYN JHOX KAR KIW LAN LYIT MAQ NOWC ON",
  "PEN PIWR QAR QAY RAT SEYK SHA SHAK SHOY TAS TIWR TYAY VEYZ XEYN YAYD YOWD ZARL ZHA ZHIL))",
  "CENTRELINE(OVERLINE LOW_LINE) CHAKMA(DANDA MAAYYAA VIRAMA AU_MARK DIGIT(EIGHT FIVE FOUR NINE",
  "ONE SEVEN SIX THREE TWO ZERO) DOUBLE_DANDA LETTER(AA BAA BHAA CAA CHAA DAA DDAA DDHAA DHAA E",
  "GAA GHAA HAA I JAA JHAA KAA KHAA LAA LHAA MAA NAA NGAA NNAA NYAA PAA PHAA RAA SAA TAA THAA",
  "TTAA TTHAA U VAA WAA YAA YYAA) O_MARK QUESTION_MARK SECTION_MARK SIGN(ANUSVARA CANDRABINDU",
  "VISARGA) VOWEL_SIGN(A AA AI AU E EI I II O OI U UU)) CHAM(CONSONANT_SIGN(LA RA WA YA FINAL(H M",
  "NG)) DIGIT(EIGHT FIVE FOUR NINE ONE SEVEN SIX THREE TWO ZERO) LETTER(A AI BA BBA BHA CHA CHHA",
  "DA DDA DHA E GA GHA HA I JA JHA KA KHA LA MA MUE NA NGA NGUE NHA NHJA NHUE NUE O PA PHA PPA RA",
  "SA SSA TA THA U VA YA FINAL(CH G K L N NG P R SS T Y)) PUNCTUATION(DANDA SPIRAL DOUBLE_DANDA",
  "TRIPLE_DANDA) VOWEL_SIGN(AA AI AU EI I II O OE U UE)) CHARACTER(TIE TABULATION(. SET",
  "WITH_JUSTIFICATION)) CHART_WITH(DOWNWARDS_TREND UPWARDS_TREND(. AND_YEN_SIGN)) CHECKER_BOARD(.",
  "FILL) CHEROKEE(LETTER(A DA DE DI DLA DO DU DV E GA GE GI GO GU GV HA HE HI HNA HO HU HV I KA",
  "LA LE LI LO LU LV MA ME MI MO MU MV NA NAH NE NI NO NU NV O QUA QUE QUI QUO QUU QUV S SA SE SI",
  "SO SU SV TA TE TI TLA TLE TLI TLO TLU TLV TSA TSE TSI TSO TSU TSV U V WA WE WI WO WU WV YA YE",
  "YI YO YU YV) SMALL_LETTER(A DA DE DI DLA DO DU DV E GA GE GI GO GU GV HA HE HI HNA HO HU HV I",
  "KA LA LE LI LO LU LV MA ME MI MO MU MV NA NAH NE NI NO NU NV O QUA QUE QUI QUO QUU QUV S SA SE",
  "SI SO SU SV TA TE TI TLA TLE TLI TLO TLU TLV TSA TSE TSI TSO TSU TSV U V WA WE WI WO WU WV YA",
  "YE YI YO YU YV)) CHORASMIAN(LETTER(ALEPH AYIN BETH DALETH GIMEL HE HETH KAPH LAMEDH MEM NUN PE",
  "RESH SAMEKH SHIN TAW WAW YODH ZAYIN CURLED_WAW SMALL_ALEPH) NUMBER(FOUR TEN THREE TWENTY TWO",
  "ONE(. HUNDRED))) CIRCLE(DIVIDED_BY_HORIZONTAL_BAR_AND_TOP_HALF_DIVIDED_BY_VERTICAL_BAR",
  "WITH(ALL_BUT_UPPER_LEFT_QUADRANT_BLACK HORIZONTAL_BAR LEFT_HALF_BLACK LOWER_HALF_BLACK",
  "RIGHT_HALF_BLACK SMALL_CIRCLE_TO_THE_RIGHT SUPERIMPOSED_X TWO_HORIZONTAL_STROKES_TO_THE_RIGHT",
  "UPPER(HALF_BLACK RIGHT_QUADRANT_BLACK) VERTICAL_FILL)) CIRCLED(BULLET CC CD DASH EQUALS",
  "GREATER-THAN LESS-THAN MINUS PARALLEL PERPENDICULAR PLUS SQUARE TIMES WZ X ANTICLOCKWISE_ARROW",
  "ANTICLOCKWISE-ROTATED_DIVISION_SIGN ASTERISK_OPERATOR BOLD_X C_WITH_OVERLAID_BACKSLASH",
  "CROSS(POMMEE FORMEE(. WITH(FOUR_DOTS TWO_DOTS))) CROSSING_LANES DIGIT(EIGHT FIVE FOUR NINE ONE",
  "SEVEN SIX THREE TWO ZERO) DIVISION(SIGN SLASH) DOLLAR_SIGN_WITH_OVERLAID_BACKSLASH",
  "DOT_OPERATOR HANGUL(CHIEUCH(. A) CIEUC(. A) HIEUH(. A) IEUNG(. A U) KHIEUKH(. A) KIYEOK(. A)",
  "MIEUM(. A) NIEUN(. A) PHIEUPH(. A) PIEUP(. A) RIEUL(. A) SIOS(. A) THIEUTH(. A) TIKEUT(. A))",
  "HEAVY_WHITE_RIGHTWARDS_ARROW HORIZONTAL_BAR_WITH_NOTCH HUMAN_FIGURE IDEOGRAPH(ACCEPT ADVANTAGE",
  "ALLIANCE ATTENTION CENTRE CONGRATULATION COPY CORRECT EARTH EIGHT ENTERPRISE EXCELLENT FEMALE",
  "FINANCIAL FIRE FIVE FOUR HAVE HIGH ITEM KINDERGARTEN KOTO LABOR LEFT LOW MALE MEDICINE METAL",
  "MOON NAME NIGHT NINE ONE PRINT QUESTION RELIGION RESOURCE REST RIGHT SCHOOL SECRET SEVEN SIX",
  "SOCIETY SPECIAL STOCK STUDY SUITABLE SUN SUPERVISE TEN THREE TWO WATER WOOD)",
  "INFORMATION_SOURCE ITALIC_LATIN_CAPITAL_LETTER(C R) KATAKANA(A E HA HE HI HO HU I KA KE KI KO",
  "KU MA ME MI MO MU NA NE NI NO NU O RA RE RI RO RU SA SE SI SO SU TA TE TI TO TU U WA WE WI WO",
  "YA YO YU) KOREAN_CHARACTER(CHAMKO JUEUI) LATIN(CAPITAL_LETTER(A B C D E F G H I J K L M N O P",
  "Q R S T U V W X Y Z) SMALL_LETTER(A B C D E F G H I J K L M N O P Q R S T U V W X Y Z))",
  "MULTIPLICATION_SIGN_WITH_CIRCUMFLEX_ACCENT NUMBER(EIGHTEEN ELEVEN FIFTEEN FOURTEEN NINETEEN",
  "SEVENTEEN SIXTEEN THIRTEEN TWELVE EIGHTY_ON_BLACK_SQUARE FIFTY(. ON_BLACK_SQUARE) FORTY(.",
  "EIGHT FIVE FOUR NINE ONE SEVEN SIX THREE TWO ON_BLACK_SQUARE) SEVENTY_ON_BLACK_SQUARE",
  "SIXTY_ON_BLACK_SQUARE TEN(. ON_BLACK_SQUARE) THIRTY(. EIGHT FIVE FOUR NINE ONE SEVEN SIX THREE",
  "TWO ON_BLACK_SQUARE) TWENTY(. EIGHT FIVE FOUR NINE ONE SEVEN SIX THREE TWO ON_BLACK_SQUARE))",
  "OPEN_CENTRE_EIGHT_POINTED_STAR POSTAL_MARK REVERSE_SOLIDUS RING_OPERATOR TRIANGLE(. DOWN)",
  "VERTICAL_BAR WHITE(BULLET STAR) ZERO_WITH_SLASH) CITYSCAPE(. AT_DUSK)",
  "CJK(COMPATIBILITY(IDEOGRAPH-2F800^2FA1D IDEOGRAPH-F900^FA6D IDEOGRAPH-FA70^FAD9)",
  "RADICAL(BAMBOO BLUE BONE BOX CHOKE CITY CIVILIAN CLIFF CLOTHES COW DEATH DIVINATION DOG EWE",
  "EYE FIRE FOOT GHOST HAND HEAD HORN JADE MEAT MESH MOON MORTAR MOTHER OLD PERSON RAIN RAM RAP",
  "REPEAT SEAL SHEEP SILK SNAKE SUN TABLE THREAD TIGER TURTLE BOLT_OF_CLOTH BRUSH(ONE TWO)",
  "C-SIMPLIFIED(BIRD CART DRAGON EAT EVEN FISH FLY FROG GATE GOLD HORSE LEAF LONG SALT SEE SHELL",
  "SILK SPEECH TOOTH TURTLE WIND TANNED_LEATHER) EAT(ONE THREE TWO) GRASS(ONE THREE TWO)",
  "HEART(ONE TWO) J-SIMPLIFIED(DRAGON EVEN TOOTH TURTLE) KNIFE(ONE TWO) LAME(FOUR ONE THREE TWO)",
  "LONG(ONE TWO) MOUND(ONE TWO) NET(FOUR ONE THREE TWO) PAW(ONE TWO) SECOND(ONE THREE TWO)",
  "SIMPLIFIED(HORN WALK WHEAT YELLOW HALF_TREE_TRUNK) SMALL(ONE TWO) SNOUT(ONE TWO) SPIRIT(ONE",
  "TWO) WALK(ONE TWO) WATER(ONE TWO) WEST(ONE TWO)) STROKE(BXG D H HG HP HPWG HXWG HZ HZG HZT HZW",
  "HZWG HZZ HZZP HZZZ HZZZG N P PD PG PZ Q S SG SP ST SW SWG SWZ SZ SZWG SZZ T TN WG XG))",
  "CLINKING(GLASSES BEER_MUGS) CLOCK_FACE(EIGHT-THIRTY ELEVEN-THIRTY FIVE-THIRTY FOUR-THIRTY",
  "NINE-THIRTY ONE-THIRTY SEVEN-THIRTY SIX-THIRTY TEN-THIRTY THREE-THIRTY TWELVE-THIRTY",
  "TWO-THIRTY EIGHT_OCLOCK ELEVEN_OCLOCK FIVE_OCLOCK FOUR_OCLOCK NINE_OCLOCK ONE_OCLOCK",
  "SEVEN_OCLOCK SIX_OCLOCK TEN_OCLOCK THREE_OCLOCK TWELVE_OCLOCK TWO_OCLOCK) CLOCKWISE(INTEGRAL",
  "CLOSED_CIRCLE_ARROW CONTOUR_INTEGRAL DOWNWARDS_AND_UPWARDS_OPEN_CIRCLE_ARROWS",
  "GAPPED_CIRCLE_ARROW OPEN_CIRCLE_ARROW RIGHT_AND_LEFT_SEMICIRCLE_ARROWS",
  "RIGHTWARDS_AND_LEFTWARDS_OPEN_CIRCLE_ARROWS(. WITH_CIRCLED_ONE_OVERLAY) TOP_SEMICIRCLE_ARROW",
  "TRIANGLE-HEADED_OPEN_CIRCLE_ARROW) CLOSED(BOOK UMBRELLA INTERSECTION_WITH_SERIFS LOCK_WITH_KEY",
  "MAILBOX_WITH(LOWERED_FLAG RAISED_FLAG) SUBSET(. OR_EQUAL_TO) SUPERSET(. OR_EQUAL_TO)",
  "UNION_WITH_SERIFS(. AND_SMASH_PRODUCT)) CLOUD(. WITH(LIGHTNING RAIN SNOW TORNADO)) COLON(.",
  "EQUALS SIGN) COMBINING(ACUTE-GRAVE-ACUTE ACUTE-MACRON BREVE-MACRON CANDRABINDU CEDILLA",
  "DIAERESIS-RING FERMATA GRAVE-ACUTE-GRAVE GRAVE-MACRON HORN INFINITY MACRON-ACUTE MACRON-BREVE",
  "MACRON-GRAVE OVERLINE ACUTE(ACCENT(. BELOW) TONE_MARK) ALMOST_EQUAL_TO(ABOVE BELOW)",
  "ANNUITY_SYMBOL ANTICLOCKWISE(ARROW_ABOVE RING_OVERLAY) ASTERISK(ABOVE BELOW) BINDU_BELOW",
  "BREVE(. BELOW) BRIDGE(ABOVE BELOW) CARON(. BELOW) CIRCUMFLEX_ACCENT(. BELOW)",
  "CLOCKWISE(ARROW_ABOVE RING_OVERLAY) COMMA(BELOW ABOVE(. RIGHT)) CONJOINING_MACRON(. BELOW)",
  "CYRILLIC(KAVYKA PALATALIZATION PAYEROK POKRYTIE VZMET DASIA_PNEUMATA HUNDRED(MILLIONS_SIGN",
  "THOUSANDS_SIGN) LETTER(A BE CHE DE DJERV EF EL EM EN ER ES ES-TE FITA GHE HA I IE KA O OMEGA",
  "PE SHA SHCHA TE TSE U VE YAT YERU YI YU ZE ZHE BIG_YUS HARD_SIGN IOTIFIED(A E BIG_YUS)",
  "LITTLE_YUS MONOGRAPH_UK SOFT_SIGN UKRAINIAN_IE) MILLIONS_SIGN PSILI_PNEUMATA TEN_MILLIONS_SIGN",
  "THOUSAND_MILLIONS_SIGN TITLO(. LEFT_HALF RIGHT_HALF)) DELETION_MARK DEVANAGARI(DIGIT(EIGHT",
  "FIVE FOUR NINE ONE SEVEN SIX THREE TWO ZERO) LETTER(A KA NA PA RA U VI) SIGN_AVAGRAHA)",
  "DIAERESIS(. BELOW) DOT(ABOVE(. LEFT RIGHT) BELOW(. LEFT)) DOTTED(ACUTE_ACCENT GRAVE_ACCENT)",
  "DOUBLE(OVERLINE ACUTE_ACCENT BREVE(. BELOW) CIRCUMFLEX_ABOVE GRAVE_ACCENT INVERTED_BREVE(.",
  "BELOW) LOW_LINE MACRON(. BELOW) OPEN_MARK_BELOW PARENTHESES_ABOVE PLUS_SIGN(ABOVE BELOW)",
  "RIGHTWARDS_ARROW_BELOW RING_BELOW TILDE(. LEFT_HALF RIGHT_HALF) VERTICAL(LINE(ABOVE BELOW)",
  "STROKE_OVERLAY)) DOUBLED_CIRCUMFLEX_ACCENT DOWN_TACK_BELOW DOWNWARDS_ARROW ENCLOSING(DIAMOND",
  "KEYCAP SCREEN SQUARE CIRCLE(. BACKSLASH) UPWARD_POINTING_TRIANGLE) EQUALS_SIGN_BELOW",
  "FOUR_DOTS_ABOVE GLAGOLITIC_LETTER(AZU BUKY CHRIVI DJERVI DOBRO FITA FRITU GLAGOLI HERU I IZHE",
  "KAKO LJUDIJE MYSLITE NASHI ONU POKOJI RITSI SHA SHTA SLOVO TSI TVRIDO UKU VEDE YATI YERI YERU",
  "YESTU YO YU ZEMLJA ZHIVETE BIG_YUS INITIAL_IZHE IOTATED(BIG_YUS SMALL_YUS) SMALL_YUS)",
  "GRANTHA(DIGIT(FIVE FOUR ONE SIX THREE TWO ZERO) LETTER(A KA NA PA VI)) GRAPHEME_JOINER",
  "GRAVE(ACCENT(. BELOW) TONE_MARK) GREEK(KORONIS PERISPOMENI YPOGEGRAMMENI DIALYTIKA_TONOS",
  "MUSICAL(PENTASEME TETRASEME TRISEME)) HOMOTHETIC_ABOVE HOOK_ABOVE INVERTED(BREVE(. BELOW)",
  "BRIDGE_BELOW DOUBLE_ARCH(ABOVE BELOW)) IS_BELOW KATAKANA-HIRAGANA(SEMI-VOICED_SOUND_MARK",
  "VOICED_SOUND_MARK) KAVYKA_ABOVE(LEFT RIGHT) LATIN(LETTER_SMALL_CAPITAL(G L M N R)",
  "SMALL_LETTER(AE ALPHA AO AV B BETA D E ESH ETH F G H I K M N P S SCHWA T V X Z A(.",
  "WITH_DIAERESIS) C(. CEDILLA) FLATTENED_OPEN_A_ABOVE INSULAR(D G R T) L(.",
  "WITH_DOUBLE_MIDDLE_TILDE) LONG_S O(. WITH(DIAERESIS LIGHT_CENTRALIZATION_STROKE)) R(. BELOW",
  "ROTUNDA) TURNED_W_BELOW U(. WITH(DIAERESIS LIGHT_CENTRALIZATION_STROKE)) W(. BELOW)))",
  "LEFT(ANGLE(ABOVE BELOW) ARROW(ABOVE BELOW) ARROWHEAD(ABOVE BELOW) HALF_RING(ABOVE BELOW)",
  "HARPOON_ABOVE PARENTHESIS(ABOVE_LEFT BELOW_LEFT) RIGHT_ARROW(ABOVE BELOW) TACK_BELOW)",
  "LEFTWARDS(ARROW_OVERLAY HARPOON_WITH_BARB_DOWNWARDS) LIGATURE(LEFT_HALF(. BELOW) RIGHT_HALF(.",
  "BELOW)) LIGHT_CENTRALIZATION_STROKE_BELOW LONG(DOUBLE_SOLIDUS_OVERLAY SOLIDUS_OVERLAY",
  "STROKE_OVERLAY VERTICAL_LINE_OVERLAY) LOW_LINE MACRON(. BELOW LEFT_HALF(. BELOW) RIGHT_HALF(.",
  "BELOW)) MINUS_SIGN_BELOW NOT_TILDE_ABOVE NUMBER_SIGN_ABOVE OGONEK(. ABOVE)",
  "OLD_PERMIC_LETTER(AN DOI NENOE SII ZATA) OPEN_MARK_BELOW PALATALIZED_HOOK_BELOW",
  "PARENTHESES(ABOVE BELOW OVERLAY) PLUS_SIGN(ABOVE BELOW) RETROFLEX_HOOK_BELOW",
  "REVERSE_SOLIDUS_OVERLAY REVERSED_COMMA_ABOVE RIGHT(ARROW(ABOVE BELOW) ARROWHEAD(ABOVE BELOW",
  "AND(DOWN_ARROWHEAD_BELOW UP_ARROWHEAD_BELOW)) HALF_RING(ABOVE BELOW) HARPOON_ABOVE",
  "PARENTHESIS(ABOVE_RIGHT BELOW_RIGHT) TACK_BELOW) RIGHTWARDS_HARPOON_WITH_BARB_DOWNWARDS",
  "RING(ABOVE BELOW OVERLAY) SEAGULL_BELOW SHORT(SOLIDUS_OVERLAY STROKE_OVERLAY",
  "VERTICAL_LINE_OVERLAY) SNAKE_BELOW SQUARE(BELOW BRACKETS_ABOVE)",
  "STRONG_CENTRALIZATION_STROKE_BELOW SUSPENSION_MARK THREE_DOTS_ABOVE TILDE(. BELOW OVERLAY",
  "LEFT_HALF_BELOW RIGHT_HALF_BELOW) TRIPLE(DOT UNDERDOT ACUTE_ACCENT) TURNED_COMMA_ABOVE",
  "UP_TACK(ABOVE BELOW) UPWARDS_ARROW_BELOW UR_ABOVE US_ABOVE VERTICAL(TILDE LINE(ABOVE BELOW))",
  "WIDE(BRIDGE_ABOVE INVERTED_BRIDGE_BELOW) WIGGLY_LINE_BELOW X(ABOVE BELOW) X-X_BELOW",
  "ZIGZAG(ABOVE BELOW)) COMMERCIAL(AT MINUS_SIGN) CONSTRUCTION(SIGN WORKER) CONTAINS(AS(MEMBER",
  "NORMAL_SUBGROUP(. OR_EQUAL_TO)) WITH(OVERBAR LONG_HORIZONTAL_STROKE",
  "VERTICAL_BAR_AT_END_OF_HORIZONTAL_STROKE)) CONTROL(KNOBS SEQUENCE_INTRODUCER)",
  "COPTIC(CAPITAL_LETTER(ALFA DALDA DEI EIE FEI FI GAMMA GANGIA HATE HORI IAUDA KAPA KHEI KHI KSI",
  "LAULA MI NI O OOU PI PSI RO SAMPI SHEI SHIMA SIMA SOU TAU THETHE UA VIDA ZATA AKHMIMIC_KHEI",
  "BOHAIRIC_KHEI CROSSED_SHEI CRYPTOGRAMMIC(EIE GANGIA NI SHEI) DIALECT-P(ALEF HORI KAPA NI)",
  "L-SHAPED_HA OLD(COPTIC(AIN DJA ESH GANGIA HA HAT HEI HORI OOU SHEI SHIMA) NUBIAN(NGI NYI SHIMA",
  "WAU))) COMBINING(NI_ABOVE SPIRITUS(ASPER LENIS)) EPACT(DIGIT(EIGHT FIVE FOUR NINE ONE SEVEN",
  "SIX THREE TWO) NUMBER(EIGHTY FIFTY FORTY NINETY SEVENTY SIXTY TEN THIRTY TWENTY EIGHT_HUNDRED",
  "FIVE_HUNDRED FOUR_HUNDRED NINE_HUNDRED ONE_HUNDRED SEVEN_HUNDRED SIX_HUNDRED THREE_HUNDRED",
  "TWO_HUNDRED) THOUSANDS_MARK) FRACTION_ONE_HALF FULL_STOP MORPHOLOGICAL_DIVIDER",
  "OLD_NUBIAN(DIRECT_QUESTION_MARK FULL_STOP INDIRECT_QUESTION_MARK VERSE_DIVIDER)",
  "SMALL_LETTER(ALFA DALDA DEI EIE FEI FI GAMMA GANGIA HATE HORI IAUDA KAPA KHEI KHI KSI LAULA MI",
  "NI O OOU PI PSI RO SAMPI SHEI SHIMA SIMA SOU TAU THETHE UA VIDA ZATA AKHMIMIC_KHEI",
  "BOHAIRIC_KHEI CROSSED_SHEI CRYPTOGRAMMIC(EIE GANGIA NI SHEI) DIALECT-P(ALEF HORI KAPA NI)",
  "L-SHAPED_HA OLD(COPTIC(AIN DJA ESH GANGIA HA HAT HEI HORI OOU SHEI SHIMA) NUBIAN(NGI NYI SHIMA",
  "WAU))) SYMBOL(KAI STAUROS KHI_RO MI_RO PI_RO SHIMA_SIMA TAU_RO)) COUNTING_ROD(TENS_DIGIT(EIGHT",
  "FIVE FOUR NINE ONE SEVEN SIX THREE TWO) UNIT_DIGIT(EIGHT FIVE FOUR NINE ONE SEVEN SIX THREE",
  "TWO)) COW(. FACE) CRICKET(. BAT_AND_BALL) CROSS(MARK OF(JERUSALEM LORRAINE)",
  "PATTY_WITH(LEFT_CROSSBAR RIGHT_CROSSBAR) POMMEE(. WITH_HALF-CIRCLE_BELOW)) CROSSED(FLAGS",
  "SWORDS NEGATIVE_SQUARED_LATIN_CAPITAL_LETTER_P) CRYING(FACE CAT_FACE)",
  "CUNEIFORM(NUMERIC_SIGN(NIGIDAESH NIGIDAMIN EIGHT(ASH DISH GESH2 SHAR2 U(. VARIANT_FORM)",
  "VARIANT_FORM(USSU USSU3)) ELAMITE(FIFTY FORTY ONE_THIRD TWO_THIRDS) FIVE(BURU DISH GESHU SHARU",
  "GESH2 SHAR2 ASH(. TENU) BAN2(. VARIANT_FORM) SIXTHS_DISH U(. VARIANT_FORM)) FOUR(BURU DISH",
  "GESHU SHARU GESH2 SHAR2 ASH(. TENU) BAN2(. VARIANT_FORM) U(. VARIANT_FORM) VARIANT_FORM(LIMMU4",
  "LIMMU(. A B))) NINE(ASH DISH GESH2 SHAR2 U(. VARIANT_FORM) VARIANT_FORM(ILIMMU3 ILIMMU4",
  "ILIMMU(. A))) OLD_ASSYRIAN_ONE(QUARTER SIXTH) ONE(BURU GESHU SHARU BAN2 ESHE3 GESH2 EIGHTH_ASH",
  "HALF_GUR QUARTER(ASH GUR) THIRD(DISH VARIANT_FORM_A)) SEVEN(ASH DISH GESH2 SHAR2 U(.",
  "VARIANT_FORM) VARIANT_FORM(IMIN3 IMIN(A B))) SHAR2_TIMES_GAL_PLUS(DISH MIN) SIX(DISH GESH2",
  "SHAR2 ASH(. TENU) U(. VARIANT_FORM) VARIANT_FORM_ASH9) THREE(DISH GESHU BAN2 GESH2 ASH(. TENU)",
  "BURU(. VARIANT_FORM) SHAR2(. VARIANT_FORM) SHARU(. VARIANT_FORM) VARIANT_FORM(ESH16 ESH21))",
  "TWO(BURU GESHU SHARU BAN2 ESHE3 GESH2 SHAR2 ASH(. TENU) THIRDS(DISH VARIANT_FORM_A)))",
  "PUNCTUATION_SIGN(DIAGONAL(COLON QUADCOLON TRICOLON) OLD_ASSYRIAN_WORD_DIVIDER VERTICAL_COLON)",
  "SIGN(ALAN ALEPH ANSHE APIN ARKAB ASHGAB BA BALAG BAR BUR DAM DAR DI DIB DUGUD DUH DUN EDIN",
  "EGIR EL EREN GALAM GAM GAN GAR GASHAN GIDIM GIG GISAL GUL GUR GURUN GURUSH HAL HU HUSH IB IG",
  "IMIN IN IR ISH KAB KID KIN KISAL KISH KUN LA LAHSHU LI LIL LISH LUH LUL MAH MAR MASH ME MES",
  "MESH MIN MUNSUB NA NAGAR NIN NISAG NU PA PAD PAN PAP RA RAB RI RU SA SAR SHA SHEN SHESH",
  "SHESHLAM SHINIG SHITA SHUBUR SIG SUD SUHUR SUM SUMASH SUR TAR TIL TU TUK UB UDUG UMBIN URI",
  "USHUMX USHX UTUKI UZU ZAG ZAMX ZIG ZUBUR ZUM A2 ASAL2 ASH2 BAG3 BARA2 BUR2 DAG3 DARA3 DARA4",
  "DUB2 DUN4 DUR2 GAR3 GE22 GUR7 HUL2 IL2 KAD2~4 KAM2 KAM4 KESH2 KU3 KU7 KUSHU2 KWU318 LAK-003",
  "LAK-021 LAK-025 LAK-030 LAK-050 LAK-051 LAK-062 LAK-080 LAK-092 LAK-130 LAK-142 LAK-210",
  "LAK-219 LAK-220 LAK-225 LAK-228 LAK-238 LAK-265 LAK-266 LAK-343 LAK-347 LAK-348 LAK-383",
  "LAK-384 LAK-390 LAK-441 LAK-450 LAK-457 LAK-470 LAK-483 LAK-490 LAK-492 LAK-493 LAK-495",
  "LAK-550 LAK-608 LAK-636 LAK-724 LAK-749 LIMMU2 LU3 MA2 MASH2 MURGU2 NA2 NA4 NAM2 NI2 NIN9 PIR2",
  "SANGA2 SHAB6 SHAR2 SHEG9 SHESH2 SIK2 SILA3 SUD2 SUR9 TI2 TUG2 U2 UR4 URI3 USH2 ZA7 ZE2 ZI3",
  "ZIZ2 A(. TIMES(A BAD HA IGI MUSH SAG GAN2_TENU LAGAR_GUNU)) AB(. GUNU TIMES(GAL HA IMIN LAGAB",
  "SHESH ASH2 SHU2 DUN3_GUNU GAN2_TENU IGI_GUNU NUN(. TENU) U_PLUS_U_PLUS_U)) AB2(. TIMES(A BALAG",
  "SHA3 TAK4 GAN2_TENU ME_PLUS_EN)) AD(. TIMES_ESH2) AK(. TIMES(ERIN2 SHITA_PLUS_GISH)) AL(.",
  "TIMES(AL GISH HA KI SHE USH DIM2 KAD3)) AMAR(. TIMES(KUG SHE)) AN(. OVER_AN PLUS_NAGA(SQUARED",
  "OPPOSING_AN_PLUS_NAGA) THREE_TIMES) ARAD(. TIMES_KUR) ASH(. KABA_TENU OVER_ASH(OVER_ASH(.",
  "CROSSING_ASH_OVER_ASH_OVER_ASH) TUG2_OVER_TUG2_TUG2_OVER_TUG2_PAP) ZIDA_TENU) BAD(.",
  "TIMES_DISH_TENU) BAHAR2(. TIMES(NI ZA AB2)) BAL(. OVER_BAL) BI(. TIMES(A GAR IGI_GUNU)) BU(.",
  "CROSSING_BU OVER_BU(AB UN TIMES_NA2)) BULUG(. OVER_BULUG) DA(. TIMES_TAK4) DAG(.",
  "KISIM5_TIMES(AMAR BALAG BI GI GUD HA KAK LA LUM NE SI USH GIR2 TAK4 A_PLUS_MASH GA(.",
  "PLUS_MASH) IR(. PLUS_LU) LU(. PLUS_MASH2) PAP_PLUS_PAP U2_PLUS(MASH GIR2)) TIMES_KUR) DIM(.",
  "TIMES(IGI SHE U_U_U)) DIM2(. TIMES_UD) DIN(. KASKAL_U_GUNU_DISH) DISH(. PLUS_SHU) DU(. GUNU",
  "SHESHIG OVER_DU) DUB(. TIMES(SHE ESH2)) DUG(. TIMES(ANSHE DIN DUN GA GI GISH HA HI KASKAL KUR",
  "MASH MES MI NI PI SHE ERIN2 LAK-020 ASH(. AT_LEFT) GIR2_GUNU IGI_GUNU KUSHU2(. PLUS_KASKAL)",
  "LAM(. TIMES_KUR) LUH_PLUS_GISH SI_GUNU)) DUN3(. GUNU(. GUNU)) E(. OVER_E_NUN_OVER_NUN",
  "TIMES_PAP) E2(. TIMES(GAR KUR MI PAP SAL SHE U A_PLUS_HA_PLUS_DA)) EN(. SQUARED CROSSING_EN",
  "OPPOSING_EN TIMES(ME GAN2(. TENU))) ERIN2(. X) ESH2(. CROSSING_ESH2) EZEN(. SHESHIG_TIMES(ASH",
  "HI LA LAL ME MES SU IGI_GUNU) TIMES(AN BAD GUD LA LI LU SHE SU UD KU3 U2 A(. PLUS_LAL(.",
  "TIMES_LAL)) DUN3_GUNU(. GUNU) HA(. GUNU) IGI_GUNU KASKAL(. SQUARED) LAL_TIMES_LAL)) GA(. GUNU)",
  "GA2(. OVER_GA2 TIMES(ASH BAD DA DI DUB EREN GA GI KAK KASKAL LA LUH MI MUSH PA SAL SAR SHID",
  "SHIM SUM U BAHAR2 HUB2 TAK4 ZIZ2 A_PLUS(HA IGI DA_PLUS_HA) AB2_TENU_PLUS_TAB AN(.",
  "PLUS_KAK_PLUS_A) ASH2(. PLUS_GAL) BAR_PLUS_RA BUR(. PLUS_RA) DIM(GUNU TIMES_SHE)",
  "DUG_TIMES(KASKAL IGI_GUNU) EL(. PLUS_LA) EN(. TIMES_GAN2_TENU) GAN2_TENU GAR(. PLUS(DI NE))",
  "GI4(. PLUS_A) GIR2_PLUS_SU HA_PLUS(A LU_PLUS_ESH2) HAL(. PLUS_LA) HI_PLUS_LI IGI_GUNU",
  "ISH_PLUS_HU_PLUS_ASH KID(. PLUS_LAL) KU3_PLUS_AN KUSHU2_PLUS_KASKAL LAM(. TIMES_KUR)",
  "ME_PLUS_EN NE(. PLUS(GI E2)) NUN(. OVER_NUN) SHE(. PLUS_TUR) UD(. PLUS_DU))) GABA(.",
  "CROSSING_GABA ROTATED_NINETY_DEGREES) GAD(. OVER_GAD_GAR_OVER_GAR) GAL(.",
  "GAD_OVER_GAD_GAR_OVER_GAR) GAN2(. TENU CROSSING_GAN2 OVER_GAN2) GESHTIN(. TIMES(KUR U)) GI(.",
  "CROSSING_GI TIMES(E U)) GI4(. CROSSING_GI4 OVER_GI4) GIR2(. GUNU) GIR3(. TIMES(IGI PA",
  "A_PLUS_IGI GAN2_TENU LU_PLUS_IGI)) GISH(. TENU CROSSING_GISH TIMES(BAD TAK4",
  "GISH_CROSSING_GISH)) GU(. CROSSING_GU) GU2(. GUNU TIMES(NUN IGI_GUNU KAK(. TIMES_IGI_GUNU)",
  "SAL_PLUS_TUG2)) GUD(. OVER_GUD_LUGAL PLUS_GISH_TIMES_TAK4 TIMES(KUR A_PLUS_KUR)) GUM(.",
  "TIMES_SHE) HA(. GUNU TENU(. GUNU)) HI(. TIMES(BAD DISH GAD KIN NUN SHE U ASH2 ASH(.",
  "OVER_HI_TIMES_ASH))) HUB2(. TIMES(AN HAL KASKAL LISH UD)) I(. A) IDIM(. OVER_IDIM(BUR",
  "SQUARED)) IGI(. DIB GUNU RI OVER_IGI_SHIR_OVER_SHIR_UD_OVER_UD) IL(. TIMES_GAN2_TENU) IM(.",
  "SQUARED CROSSING_IM OPPOSING_IM TIMES_TAK4) KA(. TIMES(A ANSHE BAD BALAG BAR BI BU GA GAL GI",
  "GU GUD IGI IM KA KAK KI KID LI LU LUM NE NUN PA PI RU SA SAR SHA SHE SHID SHU SHUL SIG SUHUR",
  "TAR TU UD UR USH ZI ASH2 ASH3 ERIN2 ESH2 GIR2 GUR7 U2 UR2 AD(. PLUS_KU3) GAN2_TENU GAR(.",
  "PLUS_SHA3_PLUS_A) GISH(. CROSSING_GISH PLUS_SAR) HI_TIMES_ASH2 ME(. PLUS(DU GI TE)) MI(.",
  "PLUS_NUNUZ) U(. U_U) UMUM_TIMES_PA)) KA2(. CROSSING_KA2) KAD5(. OVER_KAD5) KAK(.",
  "TIMES_IGI_GUNU) KAL(. CROSSING_KAL TIMES_BAD) KAP_ELAMITE KASKAL(.",
  "LAGAB_TIMES_U_OVER_LAGAB_TIMES_U OVER_KASKAL_LAGAB_TIMES_U_OVER_LAGAB_TIMES_U) KI(. TIMES(BAD",
  "U UD)) KISIM5(. OVER_KISIM5) KU(. OVER_HI_TIMES_ASH2_KU_OVER_HI_TIMES_ASH2) KU4(.",
  "VARIANT_FORM) KUL(. GUNU) KUR(. OPPOSING_KUR) LAGAB(. SQUARED TIMES(AL AN BAD BI DAR EN GA GAR",
  "GI HA HAL KI KIN LAGAB LISH LU LUL MUSH NE SUM TAG UD USH KU3 TAK4 A(. PLUS(GAR LAL",
  "DA_PLUS_HA)) ASH_ZIDA_TENU GUD(. PLUS_GUD) HI_TIMES_NUN IGI_GUNU IM(. PLUS(HA LU)) KUL(.",
  "PLUS_HI_PLUS_A) ME(. PLUS_EN) SHE_PLUS_SUM SHITA_PLUS_GISH(TENU PLUS_ERIN2) SHU2(. PLUS_SHU2)",
  "TE_PLUS_A_PLUS_SU_PLUS_NA U(. PLUS(A U_PLUS_U)) U2_PLUS_ASH ZU_OVER_ZU)) LAGAR(. GUNU(.",
  "OVER_LAGAR_GUNU_SHE) TIMES_SHE(. PLUS_SUM)) LAK-079_OVER_LAK-079_GUNU LAK-081_OVER_LAK-081",
  "LAK-449(. TIMES(GU IGI PAP_PLUS(LU3 PAP_PLUS_LU3) U2_PLUS_BA)) LAK-617(. TIMES(ASH BAD LA TAR",
  "TE UD URUDA KU3 U2 DUN3_GUNU_GUNU)) LAK-648(. TIMES(DUB GA NI UD URUDA IGI(. GUNU)",
  "PAP_PLUS_PAP_PLUS_LU3 SHESH_PLUS_KI)) LAL(. TIMES_LAL) LAM(. TIMES_KUR(. PLUS_RU)) LU(.",
  "TIMES_BAD) LU2(. SQUARED TENU CROSSING_LU2 GUNU_TIMES_ASH OPPOSING_LU2 SHESHIG(. TIMES_BAD)",
  "TIMES(AL BAD DISH HAL IM KI LAGAB NE NU SHU KAD2 TAK4 TUG2 ESH2(. TENU PLUS_LAL) GAN2_TENU",
  "HI_TIMES_BAD KAD3(. PLUS_ASH) LA_PLUS_ASH ME_PLUS_EN PAP(. PLUS_PAP_PLUS_LU3) SI_PLUS_ASH",
  "SIK2_PLUS_BU)) LUGAL(. SHESHIG OPPOSING_LUGAL OVER_LUGAL) LUM(. OVER_LUM(. GAR_OVER_GAR)) MA(.",
  "GUNU TIMES_TAK4) MI(. PLUS_ZA7) MU(. OVER_MU) MUG(. GUNU) MUSH(. CROSSING_MUSH OVER_MUSH(.",
  "TIMES(GA KAK A_PLUS_NA)) TIMES(A KUR ZA)) MUSH3(. GUNU TIMES(DI ZA A(. PLUS_DI))) NAGA(.",
  "INVERTED OPPOSING_NAGA TIMES_SHU_TENU) NAM(. NUTILLU) NE(. SHESHIG TIMES(A UD)) NI(. TIMES_E)",
  "NIM(. TIMES(GAN2_TENU GAR_PLUS_GAN2_TENU)) NINDA2(. TIMES(AN BAL GI GISH GUD GUL HI MASH NE",
  "NUN URUDA USH KESH2 LAK-050 ASH(. PLUS_ASH) DIM_GUNU ME_PLUS_GAN2_TENU PAP_PLUS_PAP SHE(.",
  "PLUS(A_AN ASH(. PLUS_ASH))) U(. PLUS_U) U2_PLUS_ASH)) NU11(. TENU OVER_NU11_BUR_OVER_BUR",
  "ROTATED_NINETY_DEGREES) NUN(. TENU CROSSING_NUN(. LAGAR_OVER_LAGAR) LAGAR_TIMES(GAR MASH USH",
  "SAL(. OVER_NUN_LAGAR_TIMES_SAL)) OVER_NUN) NUNUZ(. AB2_TIMES(ASHGAB BI DUG GUD LA NE KAD3",
  "SILA3 U2 IGI_GUNU) KISIM5_TIMES_BI(. U)) PESH2(. ASTERISK) PI(. CROSSING_PI TIMES(A AB BI BU E",
  "I IB U U2)) PIRIG(. OPPOSING_PIRIG TIMES(KAL UD ZA)) SAG(. NUTILLU GUNU(. TIMES_HA) OVER_SAG",
  "TIMES(A DU DUB EN HA KAK KUR LUM MI NUN SAL SHID TAB UB UM UR USH TAK4 U2 IGI_GUNU",
  "SHE_AT_LEFT)) SAL(. LAGAB_TIMES_ASH2) SHA3(. TIMES(A BAD GISH NE TUR SHU2 U(. PLUS_A))) SHA6(.",
  "TENU) SHE(. HU OVER_SHE(. GAD_OVER_GAD_GAR_OVER_GAR TAB_OVER_TAB_GAR_OVER_GAR) PLUS(SAR HUB2",
  "NAM2)) SHID(. TIMES(A IM)) SHIM(. TIMES(A BAL BULUG DIN GAR LUL MUG SAL KUSHU2 IGI(. GUNU)))",
  "SHIR(. TENU OVER_SHIR_BUR_OVER_BUR) SHU(. OVER_INVERTED_SHU) SHU2(. PLUS(DUG_TIMES_NI",
  "E2_TIMES_AN)) SI(. GUNU TIMES_TAK4) SIG4(. OVER_SIG4_SHU2) SU(. OVER_SU) TA(. ASTERISK GUNU",
  "TIMES(HI MI)) TAB(. SQUARED OVER_TAB_NI_OVER_NI_DISH_OVER_DISH) TAG(. TIMES(BI GUD SHE SHU UD",
  "TUG2)) TAK4(. PLUS_SAG) TE(. GUNU) TI(. TENU) TIR(. OVER_TIR(. GAD_OVER_GAD_GAR_OVER_GAR)",
  "TIMES_TAK4) TUM(. TIMES(GAN2_TENU THREE_DISH)) TUR(. OVER_TUR_ZA_OVER_ZA) U(. GUD",
  "OVER_U(PA_OVER_PA_GAR_OVER_GAR SUR_OVER_SUR U_REVERSED_OVER_U_REVERSED) U(. U)) UD(. GUNU",
  "KUSHU2 SHESHIG(. TIMES_BAD) TIMES(BAD MI U_PLUS_U_PLUS_U(. GUNU))) UM(. TIMES(LAGAB U SHA3",
  "ME(. PLUS_DA))) UMUM(. TIMES(KASKAL PA)) UN(. GUNU) UR(. SHESHIG CROSSING_UR) UR2(. INVERTED",
  "TIMES(AL HA NUN UD A_PLUS(HA NA) U2(. PLUS(ASH BI)))) URU(. TIMES(A ASHGAB BAR DUN GA GAL GAR",
  "GU HA IGI IM ISH KI LUM MIN PA SHE TU UD URUDA DARA3 LAK-668 LU3 SIG4 GAN2_TENU U_PLUS_GUD))",
  "URUDA(. TIMES_U) USH(. TIMES(A KU KUR TAK4)) UZ3(. TIMES_KASKAL) ZA(. TENU SQUARED_TIMES_KUR)",
  "ZI(. OVER_ZI) ZIB(. KABA_TENU) ZU(. OVER_ZU_PLUS_SAR) ZU5(. TIMES(A THREE_DISH_TENU))))",
  "CUP(ON_BLACK_SQUARE WITH_STRAW) CURLY(LOOP BRACKET_EXTENSION LOGICAL(AND OR))",
  "CURRENCY(EXCHANGE SIGN) CYPRIOT_SYLLABLE(A E I JA JO KA KE KI KO KU LA LE LI LO LU MA ME MI MO",
  "MU NA NE NI NO NU O PA PE PI PO PU RA RE RI RO RU SA SE SI SO SU TA TE TI TO TU U WA WE WI WO",
  "XA XE ZA ZO) CYPRO-MINOAN_SIGN(CM012B CM075B CM001 CM002 CM004~013 CM015 CM017 CM019 CM021",
  "CM023~030 CM033~041 CM044 CM046 CM047 CM049~056 CM058~064 CM066~076 CM078~092 CM094~105",
  "CM107~110 CM112 CM114 CM301 CM302) CYRILLIC(KAVYKA PAYEROK CAPITAL(LETTER(BE CCHE DCHE DE DJE",
  "DJERV DWE DZE DZELO DZHE DZWE DZZE DZZHE EF FITA GJE HWE IO IOTA JE KJE KOPPA KSI LHA LJE NJE",
  "OT PSI QA RHA SHA SHCHA SHWE TCHE TSE TSHE TSSE TSWE TWE UK VE WE YA YAE YAT YI YN YU ZEMLYA",
  "ZHWE A(. WITH(BREVE DIAERESIS)) ABKHASIAN(DZE HA CHE(. WITH_DESCENDER)) ALEUT_KA BARRED_O(.",
  "WITH_DIAERESIS) BASHKIR_KA BIG_YUS BINOCULAR_O BLENDED_YUS BROAD_OMEGA",
  "BYELORUSSIAN-UKRAINIAN_I CHE(. WITH(DESCENDER DIAERESIS VERTICAL_STROKE)) CLOSED_LITTLE_YUS",
  "CROSSED_O DOUBLE(O MONOCULAR_O) E(. WITH_DIAERESIS) EL(. WITH(DESCENDER HOOK TAIL",
  "MIDDLE_HOOK)) EM(. WITH_TAIL) EN(. WITH(DESCENDER HOOK TAIL LEFT_HOOK MIDDLE_HOOK)) ER(.",
  "WITH_TICK) ES(. WITH_DESCENDER) GHE(. WITH(DESCENDER UPTURN MIDDLE_HOOK STROKE(. AND_HOOK)))",
  "HA(. WITH(DESCENDER HOOK STROKE)) HARD_SIGN I(. WITH(DIAERESIS GRAVE MACRON)) IE(. WITH(BREVE",
  "GRAVE)) IOTIFIED(A E YAT BIG_YUS CLOSED_LITTLE_YUS LITTLE_YUS) IZHITSA(.",
  "WITH_DOUBLE_GRAVE_ACCENT) KA(. WITH(DESCENDER HOOK STROKE VERTICAL_STROKE)) KHAKASSIAN_CHE",
  "KOMI(DE DJE DZJE LJE NJE SJE TJE ZJE) LITTLE_YUS MONOCULAR_O MONOGRAPH_UK NEUTRAL_YER O(.",
  "WITH_DIAERESIS) OMEGA(. WITH_TITLO) PE(. WITH(DESCENDER MIDDLE_HOOK)) REVERSED(DZE TSE YU ZE)",
  "ROUND_OMEGA SCHWA(. WITH_DIAERESIS) SEMISOFT_SIGN SHHA(. WITH_DESCENDER) SHORT(U I(.",
  "WITH_TAIL)) SOFT(DE EL EM SIGN) STRAIGHT_U(. WITH_STROKE) TE(. WITH(DESCENDER MIDDLE_HOOK))",
  "U(. WITH(DIAERESIS MACRON DOUBLE_ACUTE)) UKRAINIAN_IE YERU(. WITH(DIAERESIS BACK_YER)) ZE(.",
  "WITH(DESCENDER DIAERESIS)) ZHE(. WITH(BREVE DESCENDER DIAERESIS))) LIGATURE(A_IE EN_GHE",
  "TE_TSE)) LETTER(PALOCHKA MULTIOCULAR_O SMALL_CAPITAL_EL) SMALL(LETTER(BE CCHE DCHE DE DJE",
  "DJERV DWE DZE DZELO DZHE DZWE DZZE DZZHE EF FITA GJE HWE IO IOTA JE KJE KOPPA KSI LHA LJE NJE",
  "OT PALOCHKA PSI QA RHA SHA SHCHA SHWE TCHE TSE TSHE TSSE TSWE TWE UK VE WE YA YAE YAT YI YN YU",
  "ZEMLYA ZHWE A(. WITH(BREVE DIAERESIS)) ABKHASIAN(DZE HA CHE(. WITH_DESCENDER)) ALEUT_KA",
  "BARRED_O(. WITH_DIAERESIS) BASHKIR_KA BIG_YUS BINOCULAR_O BLENDED_YUS BROAD_OMEGA",
  "BYELORUSSIAN-UKRAINIAN_I CHE(. WITH(DESCENDER DIAERESIS VERTICAL_STROKE)) CLOSED_LITTLE_YUS",
  "CROSSED_O DOUBLE(O MONOCULAR_O) E(. WITH_DIAERESIS) EL(. WITH(DESCENDER HOOK TAIL",
  "MIDDLE_HOOK)) EM(. WITH_TAIL) EN(. WITH(DESCENDER HOOK TAIL LEFT_HOOK MIDDLE_HOOK)) ER(.",
  "WITH_TICK) ES(. WITH_DESCENDER) GHE(. WITH(DESCENDER UPTURN MIDDLE_HOOK STROKE(. AND_HOOK)))",
  "HA(. WITH(DESCENDER HOOK STROKE)) HARD_SIGN I(. WITH(DIAERESIS GRAVE MACRON)) IE(. WITH(BREVE",
  "GRAVE)) IOTIFIED(A E YAT BIG_YUS CLOSED_LITTLE_YUS LITTLE_YUS) IZHITSA(.",
  "WITH_DOUBLE_GRAVE_ACCENT) KA(. WITH(DESCENDER HOOK STROKE VERTICAL_STROKE)) KHAKASSIAN_CHE",
  "KOMI(DE DJE DZJE LJE NJE SJE TJE ZJE) LITTLE_YUS LONG-LEGGED_DE MONOCULAR_O MONOGRAPH_UK",
  "NARROW_O NEUTRAL_YER O(. WITH_DIAERESIS) OMEGA(. WITH_TITLO) PE(. WITH(DESCENDER MIDDLE_HOOK))",
  "REVERSED(DZE TSE YU ZE) ROUND_OMEGA ROUNDED_VE SCHWA(. WITH_DIAERESIS) SEMISOFT_SIGN SHHA(.",
  "WITH_DESCENDER) SHORT(U I(. WITH_TAIL)) SOFT(DE EL EM SIGN) STRAIGHT_U(. WITH_STROKE) TALL(TE",
  "YAT HARD_SIGN) TE(. WITH(DESCENDER MIDDLE_HOOK)) THREE-LEGGED_TE U(. WITH(DIAERESIS MACRON",
  "DOUBLE_ACUTE)) UKRAINIAN_IE UNBLENDED_UK WIDE_ES YERU(. WITH(DIAERESIS BACK_YER)) ZE(.",
  "WITH(DESCENDER DIAERESIS)) ZHE(. WITH(BREVE DESCENDER DIAERESIS))) LIGATURE(A_IE EN_GHE",
  "TE_TSE)) THOUSANDS_SIGN) DAGGER(. KNIFE WITH(LEFT_GUARD RIGHT_GUARD)) DARK(SHADE SUNGLASSES)",
  "DASH(SYMBOL WITH_LEFT_UPTURN) DASHED(OVERLINE LOW_LINE TRIANGLE-HEADED_RIGHTWARDS_ARROW)",
  "DECIMAL(EXPONENT_SYMBOL SEPARATOR_KEY_SYMBOL) DEGREE(CELSIUS FAHRENHEIT SIGN)",
  "DENTISTRY_SYMBOL_LIGHT(DOWN_AND_HORIZONTAL(. WITH(CIRCLE TRIANGLE WAVE)) UP_AND_HORIZONTAL(.",
  "WITH(CIRCLE TRIANGLE WAVE)) VERTICAL(AND(WAVE BOTTOM(LEFT RIGHT) TOP(LEFT RIGHT)) WITH(CIRCLE",
  "TRIANGLE))) DESERET(CAPITAL_LETTER(AY BEE CHEE DEE EF EL EM EN ENG ER ES ESH ETH EW GAY H JEE",
  "KAY OI OW PEE TEE THEE VEE WU YEE ZEE ZHEE LONG(A AH E I O OO) SHORT(A AH E I O OO))",
  "SMALL_LETTER(AY BEE CHEE DEE EF EL EM EN ENG ER ES ESH ETH EW GAY H JEE KAY OI OW PEE TEE THEE",
  "VEE WU YEE ZEE ZHEE LONG(A AH E I O OO) SHORT(A AH E I O OO))) DESERT(. ISLAND)",
  "DESKTOP(COMPUTER WINDOW) DEVANAGARI(CARET DANDA HEADSTROKE OM ABBREVIATION_SIGN ACUTE_ACCENT",
  "DIGIT(EIGHT FIVE FOUR NINE ONE SEVEN SIX THREE TWO ZERO) DOUBLE_DANDA GAP_FILLER GRAVE_ACCENT",
  "JAIN_OM LETTER(A AA AI AU AW AY BA BBA BHA CA CHA DA DDA DDDA DDDHA DDHA DHA E FA GA GGA GHA",
  "GHHA HA I II JA JHA JJA KA KHA KHHA LA LLA LLLA MA NA NGA NNA NNNA NYA O OE OOE PA PHA QA RA",
  "RHA RRA SA SHA SSA TA THA TTA TTHA U UE UU UUE VA YA YYA ZA ZHA CANDRA(A E O) GLOTTAL_STOP",
  "HEAVY_YA MARWARI_DDA SHORT(A E O) VOCALIC(L LL R RR)) SIGN(ANUSVARA AVAGRAHA NUKTA PUSHPIKA",
  "SIDDHAM VIRAMA VISARGA CANDRABINDU(. AVAGRAHA THREE TWO VIRAMA) DOUBLE_CANDRABINDU_VIRAMA",
  "HIGH_SPACING_DOT INVERTED_CANDRABINDU SPACING_CANDRABINDU) STRESS_SIGN(ANUDATTA UDATTA)",
  "VOWEL_SIGN(AA AI AU AW AY E I II O OE OOE U UE UU UUE CANDRA(E O LONG_E) PRISHTHAMATRA_E",
  "SHORT(E O) VOCALIC(L LL R RR))) DEVICE_CONTROL(FOUR ONE STRING THREE TWO) DIAMOND(OPERATOR",
  "TARGET SHAPE_WITH_A_DOT_INSIDE WITH(BOTTOM_HALF_BLACK LEFT_HALF_BLACK RIGHT_HALF_BLACK",
  "TOP_HALF_BLACK)) DIE(FACE-1~6) DIGIT(EIGHT(. COMMA FULL_STOP) FIVE(. COMMA FULL_STOP) FOUR(.",
  "COMMA FULL_STOP) NINE(. COMMA FULL_STOP) ONE(. COMMA FULL_STOP) SEVEN(. COMMA FULL_STOP) SIX(.",
  "COMMA FULL_STOP) THREE(. COMMA FULL_STOP) TWO(. COMMA FULL_STOP) ZERO(. COMMA FULL_STOP))",
  "DIGRAM_FOR(EARTH EARTHLY(HEAVEN HUMAN) GREATER(YANG YIN) HEAVENLY_EARTH HUMAN_EARTH",
  "LESSER(YANG YIN)) DINGBAT(CIRCLED_SANS-SERIF(DIGIT(EIGHT FIVE FOUR NINE ONE SEVEN SIX THREE",
  "TWO ZERO) NUMBER_TEN) NEGATIVE_CIRCLED(DIGIT(EIGHT FIVE FOUR NINE ONE SEVEN SIX THREE TWO)",
  "NUMBER_TEN SANS-SERIF(DIGIT(EIGHT FIVE FOUR NINE ONE SEVEN SIX THREE TWO ZERO) NUMBER_TEN)))",
  "DIRECT(HIT CURRENT_SYMBOL_FORM_TWO) DISAPPOINTED(FACE BUT_RELIEVED_FACE) DIVES_AKURU(VIRAMA",
  "DIGIT(EIGHT FIVE FOUR NINE ONE SEVEN SIX THREE TWO ZERO) DOUBLE_DANDA END_OF_TEXT_MARK",
  "GAP_FILLER INITIAL_RA LETTER(A AA BA BHA CA CHA DA DDA DDHA DHA E GA GHA HA I II JA KA KHA LA",
  "LLA MA NA NGA NNA NYA O PA PHA RA SA SHA SSA TA THA TTA U UU VA YA YYA ZA) MEDIAL(RA YA)",
  "PREFIXED_NASAL_SIGN SIGN(ANUSVARA CANDRABINDU HALANTA NUKTA) VOWEL_SIGN(AA AI E I II O U UU))",
  "DIVISION(SIGN SLASH TIMES) DIZZY(FACE SYMBOL) DOCUMENT(. WITH(PICTURE TEXT(. AND_PICTURE)))",
  "DOES_NOT(FORCE PROVE CONTAIN_AS(MEMBER NORMAL_SUBGROUP(. OR_EQUAL)) DIVIDE(.",
  "WITH_REVERSED_NEGATION_SLASH) PRECEDE(. OR_EQUAL) SUCCEED(. OR_EQUAL)) DOG(. FACE)",
  "DOGRA(ABBREVIATION_SIGN LETTER(A AA AI AU BA BHA CA CHA DA DDA DDHA DHA E GA GHA HA I II JA",
  "JHA KA KHA LA MA NA NGA NNA NYA O PA PHA RA RRA SA SHA SSA TA THA TTA TTHA U UU VA YA)",
  "SIGN(ANUSVARA NUKTA VIRAMA VISARGA) VOWEL_SIGN(AA AI AU E I II O U UU VOCALIC(R RR)))",
  "DOMINO_TILE(HORIZONTAL-00-00~06 HORIZONTAL-01-00~06 HORIZONTAL-02-00~06 HORIZONTAL-03-00~06",
  "HORIZONTAL-04-00~06 HORIZONTAL-05-00~06 HORIZONTAL-06-00~06 VERTICAL-00-00~06",
  "VERTICAL-01-00~06 VERTICAL-02-00~06 VERTICAL-03-00~06 VERTICAL-04-00~06 VERTICAL-05-00~06",
  "VERTICAL-06-00~06 HORIZONTAL_BACK VERTICAL_BACK) DOT(ABOVE MINUS OPERATOR PLUS) DOTTED(CIRCLE",
  "CROSS FENCE OBELOS SOLIDUS SQUARE LINE_FACE RIGHT-POINTING_ANGLE TRANSPOSITION_MARKER)",
  "DOUBLE(DAGGER HYPHEN INTEGRAL INTERSECTION PLUS PRECEDES SUBSET SUCCEEDS SUPERSET UNION",
  "ACUTE_ACCENT CIRCLED(DIGIT(EIGHT FIVE FOUR NINE ONE SEVEN SIX THREE TWO) NUMBER_TEN)",
  "COLON_EQUAL CURLY_LOOP DOWN_TACK EXCLAMATION_MARK HIGH-REVERSED-9_QUOTATION_MARK",
  "LEFT_ARC_GREATER-THAN_BRACKET LOGICAL(AND OR) LOW_LINE LOW-9_QUOTATION_MARK",
  "LOW-REVERSED-9_QUOTATION_MARK NESTED(GREATER-THAN LESS-THAN(. WITH_UNDERBAR)) OBLIQUE_HYPHEN",
  "PRIME(. QUOTATION_MARK) QUESTION_MARK RIGHT_ARC_LESS-THAN_BRACKET SOLIDUS_OPERATOR",
  "SQUARE(INTERSECTION UNION) STACKED_COMMA STROKE_NOT_SIGN SUSPENSION_MARK UP_TACK VERTICAL(LINE",
  "BAR(. DOUBLE(LEFT_TURNSTILE RIGHT_TURNSTILE) LEFT_TURNSTILE)) WAVY_OVERLINE)",
  "DOUBLE-LINE(EQUAL_TO_OR(GREATER-THAN LESS-THAN) SLANTED(EQUAL_TO_OR(GREATER-THAN LESS-THAN)",
  "GREATER-THAN_OR_EQUAL_TO LESS-THAN_OR_EQUAL_TO)) DOUBLE-STRUCK(CAPITAL(C GAMMA H N P PI Q R Z)",
  "ITALIC(CAPITAL_D SMALL(D E I J)) N-ARY_SUMMATION SMALL(GAMMA PI)) DOUBLED(SYMBOL FEMALE_SIGN",
  "MALE_SIGN) DOWN(ARROWHEAD FISH_TAIL RIGHT_DIAGONAL_ELLIPSIS TACK(. WITH_CIRCLE_BELOW))",
  "DOWN-POINTING(RED_TRIANGLE SMALL_RED_TRIANGLE TRIANGLE_WITH(LEFT_HALF_BLACK RIGHT_HALF_BLACK))",
  "DOWNWARD_FACING(HOOK(. WITH_DOT) NOTCHED_HOOK(. WITH_DOT)) DOWNWARDS(ANCORA ROCKET ARROW(.",
  "AND_RIGHT_ONE_EIGHTH_BLOCK FROM_BAR LEFTWARDS_OF_UPWARDS_ARROW TO_BAR WITH(CORNER_LEFTWARDS",
  "DOUBLE_STROKE EQUILATERAL_ARROWHEAD HORIZONTAL_STROKE LARGE_TRIANGLE_ARROWHEAD",
  "MEDIUM_TRIANGLE_ARROWHEAD NOTCHED_TAIL SMALL(EQUILATERAL_ARROWHEAD TRIANGLE_ARROWHEAD)",
  "TIP(LEFTWARDS RIGHTWARDS))) BLACK(ARROW CIRCLED_WHITE_ARROW) COMPRESSED_ARROW DASHED_ARROW",
  "DOUBLE_ARROW FINGER-POST_ARROW HARPOON_WITH_BARB(LEFTWARDS RIGHTWARDS",
  "LEFT(BESIDE(DOWNWARDS_HARPOON_WITH_BARB_RIGHT UPWARDS_HARPOON_WITH_BARB_RIGHT) FROM_BAR",
  "TO_BAR) RIGHT(FROM_BAR TO_BAR)) HEAVY(ARROW COMPRESSED_ARROW) PAIRED_ARROWS QUADRUPLE_ARROW",
  "SANS-SERIF_ARROW SQUARED_ARROW TRIANGLE_ARROWHEAD TRIANGLE-HEADED(ARROW(.",
  "LEFTWARDS_OF_UPWARDS_TRIANGLE-HEADED_ARROW TO_BAR WITH(BOLD_SHAFT DOUBLE_HORIZONTAL_STROKE",
  "HEAVY_SHAFT LONG_TIP(LEFTWARDS RIGHTWARDS) MEDIUM_SHAFT NARROW_SHAFT VERY_HEAVY_SHAFT))",
  "DASHED_ARROW PAIRED_ARROWS ZIGZAG_ARROW) TRIPLE_ARROW TWO_HEADED_ARROW",
  "TWO-HEADED_ARROW_WITH_TRIANGLE_ARROWHEADS WHITE_ARROW(. WITHIN_TRIANGLE_ARROWHEAD)",
  "ZIGZAG_ARROW) DRAGON(. FACE) DUPLOYAN(AFFIX(ATTACHED(SECANT TAIL E_HOOK I_HOOK",
  "LEFT-TO-RIGHT_SECANT TANGENT(. HOOK)) HIGH(ACUTE CIRCLE DOT GRAVE LINE WAVE LONG_GRAVE",
  "TIGHT_ACUTE VERTICAL(. SECANT)) LEFT_HORIZONTAL_SECANT LOW(ACUTE ARROW CIRCLE DOT GRAVE LINE",
  "WAVE LONG_GRAVE TIGHT_ACUTE VERTICAL(. SECANT)) MID(HORIZONTAL_SECANT VERTICAL_SECANT)",
  "RIGHT_HORIZONTAL_SECANT) DOUBLE_MARK LETTER(A AOU B DH E EE EU H HL I IE KK L LH O OA OOH OU",
  "OW RH TH UH UI V WA WEI WH WI WO WOW X XW YE D(. S) F(. N) G(. R_S) J(. M(. S) N(. S) S(.",
  "WITH_DOT) WITH(DOT DOTS_INSIDE_AND_ABOVE)) K(. M R_S) LONG(I U) M(. S N(. S) WITH_DOT) N(. S",
  "M(. S) WITH_DOT) NASAL(A I O U) P(. N) PERNIN(AM AN) R(. S) ROMANIAN(I U) S(. M N S J(. S) K(.",
  "R) P(. R) T(. R) WITH_DOT(. BELOW)) SHORT_I SLOAN(AN DH EE EH EN J ON OW U) T(. S R_S) U(. N)",
  "VOCALIC_M W(. R)) PUNCTUATION_CHINOOK_FULL_STOP SIGN_O_WITH_CROSS THICK_LETTER_SELECTOR) EAR(.",
  "OF(MAIZE RICE) WITH_HEARING_AID) EARTH(. GROUND GLOBE(AMERICAS ASIA-AUSTRALIA EUROPE-AFRICA))",
  "EGYPTIAN_HIEROGLYPH(A005A A006A A006B A014A A017A A032A A040A A042A A043A A045A AA007A AA007B",
  "B005A C002A C002B C002C C010A D008A D027A D031A D034A D046A D048A D050A D050B D050C D050D",
  "D050E D050F D050G D050H D050I D052A D054A D067A D067B D067C D067D D067E D067F D067G D067H",
  "E008A E009A E016A E017A E020A E028A E034A F001A F013A F021A F031A F037A F038A F045A F046A",
  "F047A F051A F051B F051C G006A G007A G007B G011A G020A G026A G036A G037A G043A G045A H006A",
  "I005A I009A I010A I011A L002A L006A M001A M001B M003A M010A M012A M012B M012C M012D M012E",
  "M012F M012G M012H M015A M016A M017A M022A M024A M028A M031A M033A M033B M040A N018A N018B",
  "N025A N033A N034A N035A N037A NL005A NL017A NU010A NU011A NU018A NU022A O001A O005A O006A",
  "O006B O006C O006D O006E O006F O010A O010B O010C O019A O020A O024A O025A O029A O030A O033A",
  "O036A O036B O036C O036D O050A O050B P001A P003A R002A R003A R003B R010A R016A S002A S006A",
  "S014A S014B S017A S026A S026B S035A T003A T007A T008A T009A T011A T016A T032A T033A U006A",
  "U006B U023A U029A U032A V001A V001B V001C V001D V001E V001F V001G V001H V001I V002A V007A",
  "V007B V011A V011B V011C V012A V012B V020A V020B V020C V020D V020E V020F V020G V020H V020I",
  "V020J V020K V020L V023A V028A V029A V030A V031A V033A V037A V040A W003A W009A W010A W014A",
  "W017A W018A W024A X004A X004B X006A X008A Y001A Z002A Z002B Z002C Z002D Z003A Z003B Z004A",
  "Z005A Z015A Z015B Z015C Z015D Z015E Z015F Z015G Z015H Z015I Z016A Z016B Z016C Z016D Z016E",
  "Z016F Z016G Z016H A001~070 AA001~032 B001~009 C001~024 D001~067 E001~034 E036~038 F001~053",
  "G001~054 H001~008 I001~015 K001~008 L001~008 M001~044 N001~042 NL001~020 NU001~022 O001~051",
  "P001~011 Q001~007 R001~029 S001~046 T001~036 U001~042 V001~040 W001~025 X001~008 Y001~008",
  "Z001~016 BEGIN_SEGMENT END_SEGMENT HORIZONTAL_JOINER INSERT_AT(BOTTOM(END START) TOP(END",
  "START)) OVERLAY_MIDDLE VERTICAL_JOINER) EIGHT(PETALLED_OUTLINED_BLACK_FLORETTE",
  "POINTED(BLACK_STAR PINWHEEL_STAR RECTILINEAR_BLACK_STAR) SPOKED_ASTERISK",
  "TEARDROP-SPOKED_PROPELLER_ASTERISK) ELBASAN_LETTER(A BE CE CHE DE DHE E EI FE GE GHAMMA GHE",
  "GJE HE I JE KE KHE LE LLE ME NA NDE NE NJE O PE QE RE RRE SE SHE TE THE U VE XE Y ZE ZHE)",
  "ELECTRIC(ARROW PLUG TORCH LIGHT_BULB) ELEMENT_OF(. OPENING(DOWNWARDS UPWARDS) WITH(OVERBAR",
  "UNDERBAR DOT_ABOVE LONG_HORIZONTAL_STROKE TWO_HORIZONTAL_STROKES",
  "VERTICAL_BAR_AT_END_OF_HORIZONTAL_STROKE)) ELYMAIC(LETTER(ALEPH AYIN BETH DALETH GIMEL HE HETH",
  "KAPH LAMEDH MEM NUN PE QOPH RESH SADHE SAMEKH SHIN TAW TETH WAW YODH ZAYIN)",
  "LIGATURE_ZAYIN-YODH) EM(DASH QUAD SPACE) EMOJI(COMPONENT(BALD CURLY_HAIR RED_HAIR WHITE_HAIR)",
  "MODIFIER_FITZPATRICK(TYPE-1-2 TYPE-3~6)) EMPTY(DOCUMENT NEST PAGE PAGES NOTE(. PAD PAGE) SET(.",
  "WITH(OVERBAR LEFT_ARROW_ABOVE RIGHT_ARROW_ABOVE SMALL_CIRCLE_ABOVE))) EN(DASH QUAD SPACE)",
  "END(OF(LINE MEDIUM PROOF TEXT GUARDED_AREA PROTECTED_AREA SELECTED_AREA TRANSMISSION(. BLOCK))",
  "WITH_LEFTWARDS_ARROW_ABOVE) ENVELOPE(. WITH(LIGHTNING DOWNWARDS_ARROW_ABOVE))",
  "EQUAL(AND_PARALLEL_TO TO(BY_DEFINITION OR(GREATER-THAN LESS-THAN PRECEDES SUCCEEDS)))",
  "EQUALS(COLON SIGN(. ABOVE(LEFTWARDS_ARROW PLUS_SIGN RIGHTWARDS_ARROW TILDE_OPERATOR)",
  "AND_SLANTED_PARALLEL(. WITH_TILDE_ABOVE) WITH(BUMPY_ABOVE DOT_BELOW INFINITY_BELOW",
  "TWO_DOTS_ABOVE_AND_TWO_DOTS_BELOW)) WITH_ASTERISK) EQUIVALENT(TO WITH_FOUR_DOTS_ABOVE)",
  "ERASE_TO_THE(LEFT RIGHT) ERIS_FORM(ONE TWO) ERROR-BARRED(BLACK(CIRCLE DIAMOND SQUARE)",
  "WHITE(CIRCLE DIAMOND SQUARE)) ETHIOPIC(COLON COMMA SEMICOLON WORDSPACE",
  "COMBINING(GEMINATION(MARK AND_VOWEL_LENGTH_MARK) VOWEL_LENGTH_MARK) DIGIT(EIGHT FIVE FOUR NINE",
  "ONE SEVEN SIX THREE TWO) FULL_STOP NUMBER(EIGHTY FIFTY FORTY HUNDRED NINETY SEVENTY SIXTY",
  "THIRTY TWENTY TEN(. THOUSAND)) PARAGRAPH_SEPARATOR PREFACE_COLON QUESTION_MARK SECTION_MARK",
  "SYLLABLE(BA BAA BBA BBAA BBE BBEE BBI BBO BBU BE BEE BI BO BOA BU BWA BWE BWEE BWI CA CAA CCA",
  "CCAA CCE CCEE CCHA CCHAA CCHE CCHEE CCHHA CCHHAA CCHHE CCHHEE CCHHI CCHHO CCHHU CCHI CCHO CCHU",
  "CCI CCO CCU CE CEE CHA CHAA CHE CHEE CHI CHO CHOA CHU CHWA CI CO COA CU CWA DA DAA DDA DDAA",
  "DDE DDEE DDHAA DDHE DDHEE DDHI DDHO DDHU DDI DDO DDOA DDU DDWA DE DEE DI DO DOA DU DWA DZAA",
  "DZE DZEE DZI DZO DZU FA FAA FE FEE FI FO FU FWA FWE FWEE FWI FYA GA GAA GE GEE GGA GGAA GGE",
  "GGEE GGI GGO GGU GGWA GGWAA GGWE GGWEE GGWI GI GO GOA GU GWA GWAA GWE GWEE GWI GYA GYAA GYE",
  "GYEE GYI GYO GYU HA HAA HE HEE HHA HHAA HHE HHEE HHI HHO HHU HHWA HHWE HHWEE HHWI HHYA HHYAA",
  "HHYE HHYEE HHYI HHYO HHYU HI HO HOA HU JA JAA JE JEE JI JO JOA JU JWA KA KAA KE KEE KI KO KOA",
  "KU KWA KWAA KWE KWEE KWI KXA KXAA KXE KXEE KXI KXO KXU KXWA KXWAA KXWE KXWEE KXWI KYA KYAA KYE",
  "KYEE KYI KYO KYU LA LAA LE LEE LI LO LOA LU LWA MA MAA ME MEE MI MO MOA MU MWA MWE MWEE MWI",
  "MYA NA NAA NE NEE NI NO NOA NU NWA NYA NYAA NYE NYEE NYI NYO NYOA NYU NYWA PA PAA PE PEE PHA",
  "PHAA PHE PHEE PHI PHO PHOA PHU PHWA PI PO POA PU PWA PWE PWEE PWI QA QAA QE QEE QHA QHAA QHE",
  "QHEE QHI QHO QHU QHWA QHWAA QHWE QHWEE QHWI QI QO QOA QU QWA QWAA QWE QWEE QWI QYA QYAA QYE",
  "QYEE QYI QYO QYU RA RAA RE REE RI RO ROA RU RWA RYA SA SAA SE SEE SHA SHAA SHE SHEE SHI SHO",
  "SHOA SHU SHWA SI SO SOA SSA SSAA SSE SSEE SSI SSO SSU SU SWA SZA SZAA SZE SZEE SZI SZO SZU",
  "SZWA TA TAA TE TEE THA THAA THE THEE THI THO THOA THU THWA TI TO TOA TSA TSAA TSE TSEE TSI TSO",
  "TSU TSWA TTHAA TTHE TTHEE TTHI TTHO TTHU TU TWA TZA TZAA TZE TZEE TZI TZO TZOA TZU VA VAA VE",
  "VEE VI VO VU VWA WA WAA WE WEE WI WO WOA WU XA XAA XE XEE XI XO XOA XU XWA XWAA XWE XWEE XWI",
  "XYA XYAA XYE XYEE XYI XYO XYU YA YAA YE YEE YI YO YOA YU ZA ZAA ZE ZEE ZHA ZHAA ZHE ZHEE ZHI",
  "ZHO ZHU ZHWA ZI ZO ZOA ZU ZWA ZZA ZZAA ZZE ZZEE ZZI ZZO ZZU GLOTTAL(A AA E EE I O OA U WA)",
  "GURAGE(BWEE BWI FWEE FWI GWE GWEE GWI HHWA KWE KWEE KWI MWEE MWI PWEE PWI QWE QWEE QWI)",
  "PHARYNGEAL(A AA E EE I O U) SEBATBEIT(BWA FWA MWA PWA)) TONAL_MARK(CHIRET DERET DERET-HIDET",
  "DIFAT HIDET KENAT KURT RIKRIK YIZET SHORT_RIKRIK)) EUROPEAN(CASTLE POST_OFFICE)",
  "EXCLAMATION(MARK QUESTION_MARK) EXTENDED_ARABIC-INDIC_DIGIT(EIGHT FIVE FOUR NINE ONE SEVEN SIX",
  "THREE TWO ZERO) EXTREMELY_HEAVY(SALTIRE FIVE_SPOKED_ASTERISK GREEK_CROSS SIX_SPOKED_ASTERISK",
  "WHITE(CIRCLE SQUARE)) FACE(MASSAGE PALM HOLDING_BACK_TEARS SAVOURING_DELICIOUS_FOOD",
  "SCREAMING_IN_FEAR THROWING_A_KISS WITH(HEAD-BANDAGE MONOCLE THERMOMETER COLD_SWEAT COWBOY_HAT",
  "DIAGONAL_MOUTH FINGER_COVERING_CLOSED_LIPS LOOK_OF_TRIUMPH MEDICAL_MASK NO_GOOD_GESTURE",
  "OK_GESTURE ONE_EYEBROW_RAISED OPEN(EYES_AND_HAND_OVER_MOUTH MOUTH(. VOMITING AND_COLD_SWEAT))",
  "PARTY_HORN_AND_PARTY_HAT PEEKING_EYE PLEADING_EYES ROLLING_EYES STUCK-OUT_TONGUE(.",
  "AND(TIGHTLY-CLOSED_EYES WINKING_EYE)) TEARS_OF_JOY UNEVEN_EYES_AND_WAVY_MOUTH) WITHOUT_MOUTH)",
  "FALLING_DIAGONAL(CROSSING(NORTH_EAST_ARROW RISING_DIAGONAL) IN_WHITE_CIRCLE_IN_BLACK_SQUARE)",
  "FAX(ICON MACHINE) FIGURE(DASH SPACE) FILE(CABINET FOLDER SEPARATOR) FILM(FRAMES PROJECTOR)",
  "FIRE(. ENGINE EXTINGUISHER) FIRST(PLACE_MEDAL QUARTER_MOON(. SYMBOL WITH_FACE) STRONG_ISOLATE)",
  "FISH(. CAKE_WITH_SWIRL_DESIGN) FIVE_DOT(MARK PUNCTUATION) FLOWER(. PLAYING_CARDS",
  "PUNCTUATION_MARK) FLYING(DISC ENVELOPE SAUCER) FORK_AND_KNIFE(. WITH_PLATE)",
  "FOUR(BALLOON-SPOKED_ASTERISK CLUB-SPOKED_ASTERISK CORNER_ARROWS_CIRCLING_ANTICLOCKWISE",
  "DOT(MARK PUNCTUATION) LEAF_CLOVER POINTED_BLACK_STAR TEARDROP-SPOKED_ASTERISK) FRACTION(SLASH",
  "NUMERATOR_ONE) FRAME_WITH(PICTURE TILES AN_X) FRENCH(FRIES FRANC_SIGN) FULL(BLOCK STOP",
  "MOON(SYMBOL WITH_FACE) OUTER_JOIN) FULLWIDTH(AMPERSAND APOSTROPHE ASTERISK COLON COMMA",
  "HYPHEN-MINUS MACRON SEMICOLON SOLIDUS TILDE BROKEN_BAR CENT_SIGN CIRCUMFLEX_ACCENT",
  "COMMERCIAL_AT DIGIT(EIGHT FIVE FOUR NINE ONE SEVEN SIX THREE TWO ZERO) DOLLAR_SIGN EQUALS_SIGN",
  "EXCLAMATION_MARK FULL_STOP GRAVE_ACCENT GREATER-THAN_SIGN LATIN(CAPITAL_LETTER(A B C D E F G H",
  "I J K L M N O P Q R S T U V W X Y Z) SMALL_LETTER(A B C D E F G H I J K L M N O P Q R S T U V",
  "W X Y Z)) LEFT(PARENTHESIS CURLY_BRACKET SQUARE_BRACKET WHITE_PARENTHESIS) LESS-THAN_SIGN",
  "LOW_LINE NOT_SIGN NUMBER_SIGN PERCENT_SIGN PLUS_SIGN POUND_SIGN QUESTION_MARK QUOTATION_MARK",
  "REVERSE_SOLIDUS RIGHT(PARENTHESIS CURLY_BRACKET SQUARE_BRACKET WHITE_PARENTHESIS)",
  "VERTICAL_LINE WON_SIGN YEN_SIGN) GEAR(. WITH_HANDLES WITHOUT_HUB) GEOMETRICALLY(EQUAL_TO",
  "EQUIVALENT_TO) GEORGIAN(CAPITAL_LETTER(AEN AN BAN CAN CHAR CHIN CIL DON EN GAN GHAN HAE HAR HE",
  "HIE HOE IN JHAN JIL KAN KHAR LAS MAN NAR ON PAR PHAR QAR RAE SAN SHIN TAN TAR UN VIN WE XAN YN",
  "ZEN ZHAR) LETTER(AEN AIN AN BAN CAN CHAR CHIN CIL DON ELIFI EN FI GAN GHAN HAE HAR HE HIE HOE",
  "IN JHAN JIL KAN KHAR LAS MAN NAR ON PAR PHAR QAR RAE SAN SHIN TAN TAR UN VIN WE XAN YN ZEN",
  "ZHAR HARD_SIGN LABIAL_SIGN TURNED_GAN) MTAVRULI_CAPITAL_LETTER(AEN AIN AN BAN CAN CHAR CHIN",
  "CIL DON ELIFI EN FI GAN GHAN HAE HAR HE HIE HOE IN JHAN JIL KAN KHAR LAS MAN NAR ON PAR PHAR",
  "QAR RAE SAN SHIN TAN TAR UN VIN WE XAN YN ZEN ZHAR HARD_SIGN LABIAL_SIGN TURNED_GAN)",
  "PARAGRAPH_SEPARATOR SMALL_LETTER(AEN AN BAN CAN CHAR CHIN CIL DON EN GAN GHAN HAE HAR HE HIE",
  "HOE IN JHAN JIL KAN KHAR LAS MAN NAR ON PAR PHAR QAR RAE SAN SHIN TAN TAR UN VIN WE XAN YN ZEN",
  "ZHAR)) GLAGOLITIC(CAPITAL_LETTER(AZU BUKY CHRIVI DJERVI DOBRO DZELO FITA FRITU GLAGOLI HERU I",
  "IZHE IZHITSA KAKO LJUDIJE MYSLITE NASHI ONU OTU PE POKOJI RITSI SHA SHTA SHTAPIC SLOVO TSI",
  "TVRIDO UKU VEDE YATI YERI YERU YESTU YO YU ZEMLJA ZHIVETE BIG_YUS CAUDATE_CHRIVI INITIAL_IZHE",
  "IOTATED(BIG_YUS SMALL_YUS) LATINATE_MYSLITE SMALL_YUS(. WITH_TAIL) SPIDERY_HA TROKUTASTI_A)",
  "SMALL_LETTER(AZU BUKY CHRIVI DJERVI DOBRO DZELO FITA FRITU GLAGOLI HERU I IZHE IZHITSA KAKO",
  "LJUDIJE MYSLITE NASHI ONU OTU PE POKOJI RITSI SHA SHTA SHTAPIC SLOVO TSI TVRIDO UKU VEDE YATI",
  "YERI YERU YESTU YO YU ZEMLJA ZHIVETE BIG_YUS CAUDATE_CHRIVI INITIAL_IZHE IOTATED(BIG_YUS",
  "SMALL_YUS) LATINATE_MYSLITE SMALL_YUS(. WITH_TAIL) SPIDERY_HA TROKUTASTI_A))",
  "GOTHIC_LETTER(AHSA AIHVUS BAIRKAN DAGS EIS FAIHU GIBA HAGL HWAIR IGGWS IUJA JER KUSMA LAGUS",
  "MANNA NAUTHS NINETY OTHAL PAIRTHRA QAIRTHRA RAIDA SAUIL TEIWS THIUTH URUS WINJA NINE_HUNDRED)",
  "GRANTHA(OM AU_LENGTH_MARK LETTER(A AA AI AU BA BHA CA CHA DA DDA DDHA DHA EE GA GHA HA I II JA",
  "JHA KA KHA LA LLA MA NA NGA NNA NYA OO PA PHA RA SA SHA SSA TA THA TTA TTHA U UU VA YA",
  "VEDIC(ANUSVARA DOUBLE_ANUSVARA) VOCALIC(L LL R RR)) SIGN(ANUSVARA AVAGRAHA CANDRABINDU NUKTA",
  "PLUTA VIRAMA VISARGA COMBINING_ANUSVARA_ABOVE) VOWEL_SIGN(AA AI AU EE I II OO U UU VOCALIC(L",
  "LL R RR))) GREATER-THAN(SIGN ABOVE(DOUBLE-LINE_EQUAL_ABOVE_LESS-THAN",
  "LESS-THAN_ABOVE_DOUBLE-LINE_EQUAL RIGHTWARDS_ARROW SIMILAR(ABOVE_LESS-THAN OR_EQUAL)",
  "SLANTED_EQUAL_ABOVE_LESS-THAN_ABOVE_SLANTED_EQUAL) AND(NOT_APPROXIMATE",
  "SINGLE-LINE_NOT_EQUAL_TO) BESIDE_LESS-THAN BUT_NOT(EQUAL_TO EQUIVALENT_TO) CLOSED_BY_CURVE(.",
  "ABOVE_SLANTED_EQUAL) EQUAL_TO_OR_LESS-THAN OR(APPROXIMATE LESS-THAN EQUAL_TO EQUIVALENT_TO",
  "SLANTED_EQUAL_TO(. WITH_DOT(INSIDE ABOVE(. LEFT)))) OVER_EQUAL_TO OVERLAPPING_LESS-THAN",
  "WITH(DOT CIRCLE_INSIDE QUESTION_MARK_ABOVE)) GREEK(KORONIS OXIA PERISPOMENI PROSGEGRAMMENI",
  "TONOS VARIA YPOGEGRAMMENI ACROPHONIC(ATTIC(FIFTY(. STATERS TALENTS THOUSAND(. STATERS)) FIVE(.",
  "STATERS TALENTS HUNDRED(. STATERS TALENTS) THOUSAND(. TALENTS)) ONE(DRACHMA HALF QUARTER",
  "HUNDRED(STATERS TALENTS) THOUSAND(STATERS TALENTS)) TEN(MNAS STATERS TALENTS",
  "THOUSAND_STATERS)) CARYSTIAN_FIVE_HUNDRED CYRENAIC_TWO_DRACHMAS DELPHIC_FIVE_MNAS",
  "EPIDAUREAN(FIVE_HUNDRED TWO(. DRACHMAS)) HERAEUM_ONE_PLETHRON HERMIONIAN(FIFTY ONE TEN)",
  "MESSENIAN_TEN NAXIAN_FIVE_HUNDRED STRATIAN_FIFTY_MNAS THESPIAN(FIFTY TEN THIRTY TWO",
  "FIVE(HUNDRED THOUSAND) ONE(. HUNDRED THOUSAND) THREE_HUNDRED) TROEZENIAN(FIFTY(.",
  "ALTERNATE_FORM) FIVE(. HUNDRED) TEN(. ALTERNATE_FORM))) ANO_TELEIA AROURA_SIGN ARTABE_SIGN",
  "BETA_SYMBOL CAPITAL(DOTTED_LUNATE_SIGMA_SYMBOL KAI_SYMBOL LETTER(BETA CHI DELTA GAMMA HETA",
  "KAPPA LAMDA MU NU PHI PI PSI SAN SHO SIGMA TAU THETA XI YOT ZETA ALPHA(. WITH(MACRON OXIA",
  "PROSGEGRAMMENI TONOS VARIA VRACHY DASIA(. AND(PROSGEGRAMMENI OXIA(. AND_PROSGEGRAMMENI)",
  "PERISPOMENI(. AND_PROSGEGRAMMENI) VARIA(. AND_PROSGEGRAMMENI))) PSILI(. AND(PROSGEGRAMMENI",
  "OXIA(. AND_PROSGEGRAMMENI) PERISPOMENI(. AND_PROSGEGRAMMENI) VARIA(. AND_PROSGEGRAMMENI)))))",
  "ARCHAIC_SAMPI EPSILON(. WITH(OXIA TONOS VARIA DASIA(. AND(OXIA VARIA)) PSILI(. AND(OXIA",
  "VARIA)))) ETA(. WITH(OXIA PROSGEGRAMMENI TONOS VARIA DASIA(. AND(PROSGEGRAMMENI OXIA(.",
  "AND_PROSGEGRAMMENI) PERISPOMENI(. AND_PROSGEGRAMMENI) VARIA(. AND_PROSGEGRAMMENI))) PSILI(.",
  "AND(PROSGEGRAMMENI OXIA(. AND_PROSGEGRAMMENI) PERISPOMENI(. AND_PROSGEGRAMMENI) VARIA(.",
  "AND_PROSGEGRAMMENI))))) IOTA(. WITH(DIALYTIKA MACRON OXIA TONOS VARIA VRACHY DASIA(. AND(OXIA",
  "PERISPOMENI VARIA)) PSILI(. AND(OXIA PERISPOMENI VARIA)))) OMEGA(. WITH(OXIA PROSGEGRAMMENI",
  "TONOS VARIA DASIA(. AND(PROSGEGRAMMENI OXIA(. AND_PROSGEGRAMMENI) PERISPOMENI(.",
  "AND_PROSGEGRAMMENI) VARIA(. AND_PROSGEGRAMMENI))) PSILI(. AND(PROSGEGRAMMENI OXIA(.",
  "AND_PROSGEGRAMMENI) PERISPOMENI(. AND_PROSGEGRAMMENI) VARIA(. AND_PROSGEGRAMMENI)))))",
  "OMICRON(. WITH(OXIA TONOS VARIA DASIA(. AND(OXIA VARIA)) PSILI(. AND(OXIA VARIA))))",
  "PAMPHYLIAN_DIGAMMA RHO(. WITH_DASIA) UPSILON(. WITH(DIALYTIKA MACRON OXIA TONOS VARIA VRACHY",
  "DASIA(. AND(OXIA PERISPOMENI VARIA))))) LUNATE_SIGMA_SYMBOL",
  "REVERSED(DOTTED_LUNATE_SIGMA_SYMBOL LUNATE_SIGMA_SYMBOL) THETA_SYMBOL) DASIA(. AND(OXIA",
  "PERISPOMENI VARIA)) DIALYTIKA(TONOS AND(OXIA PERISPOMENI VARIA)) DRACHMA_SIGN FIVE_OBOLS_SIGN",
  "FOUR_OBOLS_SIGN GRAMMA_SIGN INDICTION_SIGN INSTRUMENTAL_NOTATION(SYMBOL-1 SYMBOL-2 SYMBOL-4",
  "SYMBOL-5 SYMBOL-7 SYMBOL-8 SYMBOL-11~14 SYMBOL-17~19 SYMBOL-23~27 SYMBOL-29 SYMBOL-30",
  "SYMBOL-32 SYMBOL-36~40 SYMBOL-42 SYMBOL-43 SYMBOL-45 SYMBOL-47~54) KAI_SYMBOL KAPPA_SYMBOL",
  "KYATHOS_BASE_SIGN LETTER(DIGAMMA KOPPA SAMPI STIGMA YOT ARCHAIC_KOPPA SMALL_CAPITAL(GAMMA",
  "LAMDA OMEGA PI PSI RHO)) LITRA_SIGN LOWER_NUMERAL_SIGN LUNATE(EPSILON_SYMBOL SIGMA_SYMBOL)",
  "METRETES_SIGN MUSICAL_LEIMMA NUMERAL_SIGN OBOL_SIGN ONE(HALF_SIGN(. ALTERNATE_FORM)",
  "QUARTER_SIGN) OUNKIA_SIGN PHI_SYMBOL PI_SYMBOL PSILI(. AND(OXIA PERISPOMENI VARIA))",
  "QUESTION_MARK REVERSED_LUNATE_EPSILON_SYMBOL RHO(SYMBOL WITH_STROKE_SYMBOL) SINUSOID_SIGN",
  "SMALL(DOTTED_LUNATE_SIGMA_SYMBOL LETTER(BETA CHI DELTA DIGAMMA GAMMA HETA KAPPA KOPPA LAMDA MU",
  "NU PHI PI PSI SAMPI SAN SHO SIGMA STIGMA TAU THETA XI ZETA ALPHA(. WITH(MACRON TONOS VRACHY",
  "YPOGEGRAMMENI DASIA(. AND(YPOGEGRAMMENI OXIA(. AND_YPOGEGRAMMENI) PERISPOMENI(.",
  "AND_YPOGEGRAMMENI) VARIA(. AND_YPOGEGRAMMENI))) OXIA(. AND_YPOGEGRAMMENI) PERISPOMENI(.",
  "AND_YPOGEGRAMMENI) PSILI(. AND(YPOGEGRAMMENI OXIA(. AND_YPOGEGRAMMENI) PERISPOMENI(.",
  "AND_YPOGEGRAMMENI) VARIA(. AND_YPOGEGRAMMENI))) VARIA(. AND_YPOGEGRAMMENI))) ARCHAIC(KOPPA",
  "SAMPI) EPSILON(. WITH(OXIA TONOS VARIA DASIA(. AND(OXIA VARIA)) PSILI(. AND(OXIA VARIA))))",
  "ETA(. WITH(TONOS YPOGEGRAMMENI DASIA(. AND(YPOGEGRAMMENI OXIA(. AND_YPOGEGRAMMENI)",
  "PERISPOMENI(. AND_YPOGEGRAMMENI) VARIA(. AND_YPOGEGRAMMENI))) OXIA(. AND_YPOGEGRAMMENI)",
  "PERISPOMENI(. AND_YPOGEGRAMMENI) PSILI(. AND(YPOGEGRAMMENI OXIA(. AND_YPOGEGRAMMENI)",
  "PERISPOMENI(. AND_YPOGEGRAMMENI) VARIA(. AND_YPOGEGRAMMENI))) VARIA(. AND_YPOGEGRAMMENI)))",
  "FINAL_SIGMA IOTA(. WITH(MACRON OXIA PERISPOMENI TONOS VARIA VRACHY DASIA(. AND(OXIA",
  "PERISPOMENI VARIA)) DIALYTIKA(. AND(OXIA PERISPOMENI TONOS VARIA)) PSILI(. AND(OXIA",
  "PERISPOMENI VARIA)))) OMEGA(. WITH(TONOS YPOGEGRAMMENI DASIA(. AND(YPOGEGRAMMENI OXIA(.",
  "AND_YPOGEGRAMMENI) PERISPOMENI(. AND_YPOGEGRAMMENI) VARIA(. AND_YPOGEGRAMMENI))) OXIA(.",
  "AND_YPOGEGRAMMENI) PERISPOMENI(. AND_YPOGEGRAMMENI) PSILI(. AND(YPOGEGRAMMENI OXIA(.",
  "AND_YPOGEGRAMMENI) PERISPOMENI(. AND_YPOGEGRAMMENI) VARIA(. AND_YPOGEGRAMMENI))) VARIA(.",
  "AND_YPOGEGRAMMENI))) OMICRON(. WITH(OXIA TONOS VARIA DASIA(. AND(OXIA VARIA)) PSILI(. AND(OXIA",
  "VARIA)))) PAMPHYLIAN_DIGAMMA RHO(. WITH(DASIA PSILI)) UPSILON(. WITH(MACRON OXIA PERISPOMENI",
  "TONOS VARIA VRACHY DASIA(. AND(OXIA PERISPOMENI VARIA)) DIALYTIKA(. AND(OXIA PERISPOMENI TONOS",
  "VARIA)) PSILI(. AND(OXIA PERISPOMENI VARIA))))) REVERSED(DOTTED_LUNATE_SIGMA_SYMBOL",
  "LUNATE_SIGMA_SYMBOL)) SUBSCRIPT_SMALL_LETTER(BETA CHI GAMMA PHI RHO) SYMBOL_TAU_RHO",
  "TALENT_SIGN THETA_SYMBOL THREE(OBOLS_SIGN QUARTERS_SIGN) TRYBLION_BASE_SIGN TWO(OBOLS_SIGN",
  "THIRDS_SIGN) UPSILON_WITH(ACUTE_AND_HOOK_SYMBOL DIAERESIS_AND_HOOK_SYMBOL HOOK_SYMBOL)",
  "VOCAL_NOTATION(SYMBOL-1~9 SYMBOL-10~24 SYMBOL-50~54) XESTES_SIGN YEAR_SIGN ZERO_SIGN)",
  "GREEN(APPLE BOOK HEART SALAD) GRINNING(CAT_FACE_WITH_SMILING_EYES FACE(.",
  "WITH(ONE_LARGE_AND_ONE_SMALL_EYE SMILING_EYES STAR_EYES))) GROUP(MARK SEPARATOR) GUJARATI(OM",
  "ABBREVIATION_SIGN DIGIT(EIGHT FIVE FOUR NINE ONE SEVEN SIX THREE TWO ZERO) LETTER(A AA AI AU",
  "BA BHA CA CHA DA DDA DDHA DHA E GA GHA HA I II JA JHA KA KHA LA LLA MA NA NGA NNA NYA O PA PHA",
  "RA SA SHA SSA TA THA TTA TTHA U UU VA YA ZHA VOCALIC(L LL R RR)) RUPEE_SIGN SIGN(ANUSVARA",
  "AVAGRAHA CANDRABINDU MADDAH NUKTA SHADDA SUKUN VIRAMA VISARGA CIRCLE_NUKTA_ABOVE",
  "THREE-DOT_NUKTA_ABOVE TWO-CIRCLE_NUKTA_ABOVE) VOWEL(CANDRA(E O) SIGN(AA AI AU E I II O U UU",
  "CANDRA(E O) VOCALIC(L LL R RR)))) GUNJALA_GONDI(OM VIRAMA DIGIT(EIGHT FIVE FOUR NINE ONE SEVEN",
  "SIX THREE TWO ZERO) LETTER(A AA AI AU BA BHA CA CHA DA DDA DDHA DHA EE GA GHA HA I II JA JHA",
  "KA KHA LA LLA MA NA NGA OO PA PHA RA SA TA THA TTA TTHA U UU VA YA) SIGN(ANUSVARA VISARGA)",
  "VOWEL_SIGN(AA AI AU EE I II OO U UU)) GURMUKHI(ADDAK IRI TIPPI URA ABBREVIATION_SIGN",
  "DIGIT(EIGHT FIVE FOUR NINE ONE SEVEN SIX THREE TWO ZERO) EK_ONKAR LETTER(A AA AI AU BA BHA CA",
  "CHA DA DDA DDHA DHA EE FA GA GHA GHHA HA I II JA JHA KA KHA KHHA LA LLA MA NA NGA NNA NYA OO",
  "PA PHA RA RRA SA SHA TA THA TTA TTHA U UU VA YA ZA) SIGN(BINDI NUKTA UDAAT VIRAMA VISARGA",
  "YAKASH ADAK_BINDI) VOWEL_SIGN(AA AI AU EE I II OO U UU))"]

end MacroStubs.Text.CharacterNames
