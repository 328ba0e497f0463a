/-! # Character names from H to L

Names that begin with a letter from H to L, written as described in `Text/CharacterName`.
-/

namespace MacroStubs.Text.CharacterNames

def initialHToL : List String := [
  "HADES HAIRCUT HAMBURGER HAMSA HANDBAG HANDBALL HANDSHAKE HEADPHONE HEDGEHOG HELICOPTER HERB",
  "HIBISCUS HIPPOPOTAMUS HOCHO HOLE HOMOTHETIC HONEYBEE HOOK HOP HOSPITAL HOTEL HT HTJ HTS HUT",
  "HYGIEA HYPHEN-MINUS HYPODIASTOLE IMP INCREMENT IND INTERCALATE INTERROBANG JACK-O-LANTERN JAR",
  "JEANS JOIN JOYSTICK JUGGLING JUNO JUPITER KAABA KANGAROO KEY KIMONO KITE KIWIFRUIT KNOT KOALA",
  "KRONOS LABEL LADDER LEDGER LEG LEMON LEO LEOPARD LF LIBRA LIPS LIPSTICK LIZARD LLAMA LOBSTER",
  "LOLLIPOP LOTUS LRE LRI LRM LRO LUGGAGE LUNGS HAIR_SPACE HAMSTER_FACE",
  "HAPPY_PERSON_RAISING_ONE_HAND HARD_DISK HATCHING_CHICK HEAR-NO-EVIL_MONKEY",
  "HELLSCHREIBER_PAUSE_SYMBOL HELM_SYMBOL HELMET_WITH_WHITE_CROSS HERMITIAN_CONJUGATE_MATRIX",
  "HIGH-HEELED_SHOE HIKING_BOOT HINDU_TEMPLE HISTORIC_SITE HONEY_POT HRYVNIA_SIGN HUGGING_FACE",
  "HUNDRED_POINTS_SYMBOL HUSHED_FACE HYPHENATION_POINT HYSTERESIS_SYMBOL I_LOVE_YOU_HAND_SIGN",
  "IDENTIFICATION_CARD INBOX_TRAY INCOMING_ENVELOPE INCOMPLETE_INFINITY INCREASE_FONT_SIZE_SYMBOL",
  "INCREASES_AS INDIAN_RUPEE_SIGN INSERTION_SYMBOL INTERIOR_PRODUCT",
  "INTERLOCKED_FEMALE_AND_MALE_SIGN IZAKAYA_LANTERN JIGSAW_PUZZLE_PIECE KELVIN_SIGN KEYCAP_TEN",
  "KIP_SIGN KNEELING_PERSON KOREAN_STANDARD_SYMBOL L_B_BAR_SYMBOL LAB_COAT",
  "LACROSSE_STICK_AND_BALL LADY_BEETLE LANGUAGE_TAG LARI_SIGN LEAF_FLUTTERING_IN_WIND LEAFY_GREEN",
  "LEFT-HANDED_INTERLACED_PENTAGRAM LEFT-SHADED_WHITE_RIGHTWARDS_ARROW",
  "LEFT-SIDE_ARC_ANTICLOCKWISE_ARROW LEVEL_SLIDER LIGATURE_OPEN_ET_ORNAMENT",
  "LIMITED_LIABILITY_SIGN LINK_SYMBOL LINKED_PAPERCLIPS LION_FACE LIRA_SIGN LIVRE_TOURNOIS_SIGN",
  "LOTION_BOTTLE LOUDLY_CRYING_FACE LYING_FACE HALFWIDTH(BLACK_SQUARE DOWNWARDS_ARROW",
  "FORMS_LIGHT_VERTICAL HANGUL(FILLER LETTER(A AE CHIEUCH CIEUC E EO EU HIEUH I IEUNG KHIEUKH",
  "KIYEOK KIYEOK-SIOS MIEUM NIEUN NIEUN-CIEUC NIEUN-HIEUH O OE PHIEUPH PIEUP PIEUP-SIOS RIEUL",
  "RIEUL-HIEUH RIEUL-KIYEOK RIEUL-MIEUM RIEUL-PHIEUPH RIEUL-PIEUP RIEUL-SIOS RIEUL-THIEUTH SIOS",
  "SSANGCIEUC SSANGKIYEOK SSANGPIEUP SSANGSIOS SSANGTIKEUT THIEUTH TIKEUT U WA WAE WE WEO WI YA",
  "YAE YE YEO YI YO YU)) IDEOGRAPHIC(COMMA FULL_STOP) KATAKANA(LETTER(A E HA HE HI HO HU I KA KE",
  "KI KO KU MA ME MI MO MU N NA NE NI NO NU O RA RE RI RO RU SA SE SI SO SU TA TE TI TO TU U WA",
  "WO YA YO YU SMALL(A E I O TU U YA YO YU)) MIDDLE_DOT SEMI-VOICED_SOUND_MARK VOICED_SOUND_MARK)",
  "KATAKANA-HIRAGANA_PROLONGED_SOUND_MARK LEFT_CORNER_BRACKET LEFTWARDS_ARROW",
  "RIGHT_CORNER_BRACKET RIGHTWARDS_ARROW UPWARDS_ARROW WHITE_CIRCLE) HAMMER(. AND(PICK SICKLE",
  "WRENCH)) HAND_WITH_INDEX(AND_MIDDLE_FINGERS_CROSSED FINGER_AND_THUMB_CROSSED) HANGUL(FILLER",
  "CHOSEONG(CEONGCHIEUMCHIEUCH CEONGCHIEUMCIEUC CEONGCHIEUMSIOS CEONGCHIEUMSSANGCIEUC",
  "CEONGCHIEUMSSANGSIOS CHIEUCH CHIEUCH-HIEUH CHIEUCH-KHIEUKH CHITUEUMCHIEUCH CHITUEUMCIEUC",
  "CHITUEUMSIOS CHITUEUMSSANGCIEUC CHITUEUMSSANGSIOS CIEUC CIEUC-IEUNG FILLER HIEUH HIEUH-SIOS",
  "IEUNG IEUNG-CHIEUCH IEUNG-CIEUC IEUNG-HIEUH IEUNG-KIYEOK IEUNG-MIEUM IEUNG-PANSIOS",
  "IEUNG-PHIEUPH IEUNG-PIEUP IEUNG-RIEUL IEUNG-SIOS IEUNG-THIEUTH IEUNG-TIKEUT KAPYEOUNMIEUM",
  "KAPYEOUNPHIEUPH KAPYEOUNPIEUP KAPYEOUNRIEUL KAPYEOUNSSANGPIEUP KHIEUKH KIYEOK KIYEOK-TIKEUT",
  "MIEUM MIEUM-KIYEOK MIEUM-PIEUP MIEUM-SIOS MIEUM-TIKEUT NIEUN NIEUN-CIEUC NIEUN-HIEUH",
  "NIEUN-KIYEOK NIEUN-PIEUP NIEUN-SIOS NIEUN-TIKEUT PANSIOS PHIEUPH PHIEUPH-HIEUH PHIEUPH-PIEUP",
  "PIEUP PIEUP-CHIEUCH PIEUP-CIEUC PIEUP-HIEUH PIEUP-KHIEUKH PIEUP-KIYEOK PIEUP-NIEUN",
  "PIEUP-PHIEUPH PIEUP-SIOS PIEUP-SIOS-CIEUC PIEUP-SIOS-KIYEOK PIEUP-SIOS-PIEUP",
  "PIEUP-SIOS-THIEUTH PIEUP-SIOS-TIKEUT PIEUP-SSANGSIOS PIEUP-THIEUTH PIEUP-TIKEUT RIEUL",
  "RIEUL-CIEUC RIEUL-HIEUH RIEUL-KAPYEOUNPIEUP RIEUL-KHIEUKH RIEUL-KIYEOK RIEUL-MIEUM RIEUL-NIEUN",
  "RIEUL-PIEUP RIEUL-SIOS RIEUL-SSANGKIYEOK RIEUL-SSANGPIEUP RIEUL-SSANGTIKEUT RIEUL-TIKEUT SIOS",
  "SIOS-CHIEUCH SIOS-CIEUC SIOS-HIEUH SIOS-IEUNG SIOS-KHIEUKH SIOS-KIYEOK SIOS-MIEUM SIOS-NIEUN",
  "SIOS-PHIEUPH SIOS-PIEUP SIOS-PIEUP-KIYEOK SIOS-RIEUL SIOS-SSANGSIOS SIOS-THIEUTH SIOS-TIKEUT",
  "SSANGCIEUC SSANGCIEUC-HIEUH SSANGHIEUH SSANGIEUNG SSANGKIYEOK SSANGNIEUN SSANGPIEUP SSANGRIEUL",
  "SSANGSIOS SSANGSIOS-PIEUP SSANGTHIEUTH SSANGTIKEUT SSANGYEORINHIEUH THIEUTH TIKEUT",
  "TIKEUT-CIEUC TIKEUT-KIYEOK TIKEUT-MIEUM TIKEUT-PIEUP TIKEUT-RIEUL TIKEUT-SIOS YEORINHIEUH",
  "YESIEUNG) DOUBLE_DOT_TONE_MARK JONGSEONG(CHIEUCH CIEUC CIEUC-PIEUP CIEUC-SSANGPIEUP HIEUH",
  "HIEUH-MIEUM HIEUH-NIEUN HIEUH-PIEUP HIEUH-RIEUL IEUNG IEUNG-KHIEUKH IEUNG-KIYEOK",
  "IEUNG-SSANGKIYEOK KAPYEOUNMIEUM KAPYEOUNPHIEUPH KAPYEOUNPIEUP KAPYEOUNRIEUL KHIEUKH KIYEOK",
  "KIYEOK-CHIEUCH KIYEOK-HIEUH KIYEOK-KHIEUKH KIYEOK-NIEUN KIYEOK-PIEUP KIYEOK-RIEUL KIYEOK-SIOS",
  "KIYEOK-SIOS-KIYEOK MIEUM MIEUM-CHIEUCH MIEUM-CIEUC MIEUM-HIEUH MIEUM-KIYEOK MIEUM-NIEUN",
  "MIEUM-PANSIOS MIEUM-PIEUP MIEUM-PIEUP-SIOS MIEUM-RIEUL MIEUM-SIOS MIEUM-SSANGNIEUN",
  "MIEUM-SSANGSIOS NIEUN NIEUN-CHIEUCH NIEUN-CIEUC NIEUN-HIEUH NIEUN-KIYEOK NIEUN-PANSIOS",
  "NIEUN-RIEUL NIEUN-SIOS NIEUN-THIEUTH NIEUN-TIKEUT PANSIOS PANSIOS-KAPYEOUNPIEUP PANSIOS-PIEUP",
  "PHIEUPH PHIEUPH-PIEUP PHIEUPH-SIOS PHIEUPH-THIEUTH PIEUP PIEUP-CHIEUCH PIEUP-CIEUC PIEUP-HIEUH",
  "PIEUP-MIEUM PIEUP-PHIEUPH PIEUP-RIEUL PIEUP-RIEUL-PHIEUPH PIEUP-SIOS PIEUP-SIOS-TIKEUT",
  "PIEUP-TIKEUT RIEUL RIEUL-HIEUH RIEUL-KAPYEOUNPIEUP RIEUL-KHIEUKH RIEUL-KIYEOK",
  "RIEUL-KIYEOK-HIEUH RIEUL-KIYEOK-SIOS RIEUL-MIEUM RIEUL-MIEUM-HIEUH RIEUL-MIEUM-KIYEOK",
  "RIEUL-MIEUM-SIOS RIEUL-NIEUN RIEUL-PANSIOS RIEUL-PHIEUPH RIEUL-PIEUP RIEUL-PIEUP-HIEUH",
  "RIEUL-PIEUP-PHIEUPH RIEUL-PIEUP-SIOS RIEUL-PIEUP-TIKEUT RIEUL-SIOS RIEUL-SSANGKIYEOK",
  "RIEUL-SSANGSIOS RIEUL-THIEUTH RIEUL-TIKEUT RIEUL-TIKEUT-HIEUH RIEUL-YEORINHIEUH",
  "RIEUL-YEORINHIEUH-HIEUH RIEUL-YESIEUNG SIOS SIOS-CHIEUCH SIOS-CIEUC SIOS-HIEUH",
  "SIOS-KAPYEOUNPIEUP SIOS-KIYEOK SIOS-MIEUM SIOS-PANSIOS SIOS-PIEUP SIOS-RIEUL SIOS-THIEUTH",
  "SIOS-TIKEUT SSANGCIEUC SSANGIEUNG SSANGKIYEOK SSANGMIEUM SSANGNIEUN SSANGPIEUP SSANGRIEUL",
  "SSANGRIEUL-KHIEUKH SSANGSIOS SSANGSIOS-KIYEOK SSANGSIOS-TIKEUT SSANGTIKEUT SSANGTIKEUT-PIEUP",
  "SSANGYESIEUNG THIEUTH TIKEUT TIKEUT-CHIEUCH TIKEUT-CIEUC TIKEUT-KIYEOK TIKEUT-PIEUP",
  "TIKEUT-RIEUL TIKEUT-SIOS TIKEUT-SIOS-KIYEOK TIKEUT-THIEUTH YEORINHIEUH YESIEUNG YESIEUNG-HIEUH",
  "YESIEUNG-KHIEUKH YESIEUNG-KIYEOK YESIEUNG-MIEUM YESIEUNG-PANSIOS YESIEUNG-SIOS",
  "YESIEUNG-SSANGKIYEOK) JUNGSEONG(A A-EU A-O A-U AE ARAEA ARAEA-A ARAEA-E ARAEA-EO ARAEA-I",
  "ARAEA-U E EO EO-EU EO-O EO-U EU EU-A EU-E EU-EO EU-EU EU-O EU-U FILLER I I-A I-ARAEA I-EU I-I",
  "I-O I-O-I I-U I-YA I-YA-O I-YAE I-YE I-YEO I-YO I-YU O O-E O-EO O-O O-O-I O-U O-YA O-YAE O-YE",
  "O-YEO OE SSANGARAEA U U-A U-AE U-EO-EU U-I-I U-U U-YE U-YEO WA WAE WE WEO WI YA YA-O YA-U",
  "YA-YO YAE YE YEO YEO-O YEO-U YEO-YA YI YI-U YO YO-A YO-AE YO-EO YO-I YO-O YO-YA YO-YAE YO-YEO",
  "YU YU-A YU-AE YU-E YU-EO YU-I YU-O YU-U YU-YE YU-YEO) LETTER(A AE ARAEA ARAEAE CHIEUCH CIEUC E",
  "EO EU HIEUH I IEUNG KAPYEOUNMIEUM KAPYEOUNPHIEUPH KAPYEOUNPIEUP KAPYEOUNSSANGPIEUP KHIEUKH",
  "KIYEOK KIYEOK-SIOS MIEUM MIEUM-PANSIOS MIEUM-PIEUP MIEUM-SIOS NIEUN NIEUN-CIEUC NIEUN-HIEUH",
  "NIEUN-PANSIOS NIEUN-SIOS NIEUN-TIKEUT O OE PANSIOS PHIEUPH PIEUP PIEUP-CIEUC PIEUP-KIYEOK",
  "PIEUP-SIOS PIEUP-SIOS-KIYEOK PIEUP-SIOS-TIKEUT PIEUP-THIEUTH PIEUP-TIKEUT RIEUL RIEUL-HIEUH",
  "RIEUL-KIYEOK RIEUL-KIYEOK-SIOS RIEUL-MIEUM RIEUL-PANSIOS RIEUL-PHIEUPH RIEUL-PIEUP",
  "RIEUL-PIEUP-SIOS RIEUL-SIOS RIEUL-THIEUTH RIEUL-TIKEUT RIEUL-YEORINHIEUH SIOS SIOS-CIEUC",
  "SIOS-KIYEOK SIOS-NIEUN SIOS-PIEUP SIOS-TIKEUT SSANGCIEUC SSANGHIEUH SSANGIEUNG SSANGKIYEOK",
  "SSANGNIEUN SSANGPIEUP SSANGSIOS SSANGTIKEUT THIEUTH TIKEUT U WA WAE WE WEO WI YA YAE YE YEO",
  "YEORINHIEUH YESIEUNG YESIEUNG-PANSIOS YESIEUNG-SIOS YI YO YO-I YO-YA YO-YAE YU YU-I YU-YE",
  "YU-YEO) SINGLE_DOT_TONE_MARK) HANGZHOU_NUMERAL(EIGHT FIVE FOUR NINE ONE SEVEN SIX TEN THIRTY",
  "THREE TWENTY TWO) HANIFI_ROHINGYA(DIGIT(EIGHT FIVE FOUR NINE ONE SEVEN SIX THREE TWO ZERO)",
  "LETTER(A BA CA DA DDA FA GA HA JA KA KHA LA MA NA NGA NYA PA RA RRA SA SHA TA TTA VA WA YA ZA",
  "KINNA(WA YA)) MARK(SAKIN NA_KHONNA) SIGN(HARBAHAY TAHALA TANA TASSI) VOWEL(A E I O U))",
  "HANUNOO(LETTER(A BA DA GA HA I KA LA MA NA NGA PA RA SA TA U WA YA) SIGN_PAMUDPOD VOWEL_SIGN(I",
  "U)) HATRAN(LETTER(ALEPH AYN BETH DALETH-RESH GIMEL HE HETH KAPH LAMEDH MEM NUN PE QOPH SADHE",
  "SAMEKH SHIN TAW TETH WAW YODH ZAYN) NUMBER(FIVE TEN TWENTY ONE(. HUNDRED))) HEADSTONE(.",
  "GRAVEYARD_SYMBOL) HEART(DECORATION HANDS WITH(ARROW RIBBON TIP_ON_THE_LEFT)) HEAVY(ASTERISK",
  "SALTIRE SPARKLE AMPERSAND_ORNAMENT ARROW_SHAFT_WIDTH(ONE(. HALF THIRD) TWO_THIRDS) BALLOT_X",
  "BLACK(HEART CURVED(DOWNWARDS_AND_RIGHTWARDS_ARROW UPWARDS_AND_RIGHTWARDS_ARROW))",
  "BLACK-FEATHERED(NORTH_EAST_ARROW RIGHTWARDS_ARROW SOUTH_EAST_ARROW) CHECK_MARK",
  "CHEVRON_SNOWFLAKE CIRCLE(. WITH(CIRCLE_INSIDE STROKE_AND_TWO_DOTS_ABOVE)) CIRCLED_SALTIRE",
  "CONCAVE-POINTED_BLACK_RIGHTWARDS_ARROW DASHED_TRIANGLE-HEADED_RIGHTWARDS_ARROW DIVISION_SIGN",
  "DOLLAR_SIGN DOUBLE(COMMA_QUOTATION_MARK_ORNAMENT TURNED_COMMA_QUOTATION_MARK_ORNAMENT)",
  "DOWNWARDS_ARROW_WITH(EQUILATERAL_ARROWHEAD LARGE_EQUILATERAL_ARROWHEAD)",
  "EIGHT(POINTED(BLACK_STAR PINWHEEL_STAR RECTILINEAR_BLACK_STAR) SPOKED_ASTERISK",
  "TEARDROP-SPOKED_PROPELLER_ASTERISK) EQUALS_SIGN EXCLAMATION_MARK(ORNAMENT SYMBOL)",
  "FIVE(POINTED_BLACK_STAR SPOKED_ASTERISK) FOUR_BALLOON-SPOKED_ASTERISK GREEK_CROSS",
  "HEART_EXCLAMATION_MARK_ORNAMENT HORIZONTAL_FILL INTERROBANG_ORNAMENT LARGE_CIRCLE LATIN_CROSS",
  "LEFT-POINTING_ANGLE(BRACKET_ORNAMENT QUOTATION_MARK_ORNAMENT)",
  "LEFTWARDS_ARROW_WITH(EQUILATERAL_ARROWHEAD LARGE_EQUILATERAL_ARROWHEAD)",
  "LIGATURE_OPEN_ET_ORNAMENT LOW(DOUBLE_COMMA_QUOTATION_MARK_ORNAMENT",
  "SINGLE_COMMA_QUOTATION_MARK_ORNAMENT) LOWER_RIGHT-SHADOWED_WHITE_RIGHTWARDS_ARROW MINUS_SIGN",
  "MULTIPLICATION_X NORTH(EAST(ARROW POINTING(BUD VINE_LEAF)) WEST_POINTING(BUD VINE_LEAF))",
  "OPEN_CENTRE_CROSS OUTLINED_BLACK_STAR OVAL_WITH_OVAL_INSIDE PLUS_SIGN",
  "RIGHT-POINTING_ANGLE(BRACKET_ORNAMENT QUOTATION_MARK_ORNAMENT) RIGHTWARDS_ARROW(.",
  "WITH(EQUILATERAL_ARROWHEAD LARGE_EQUILATERAL_ARROWHEAD)) ROUND-TIPPED_RIGHTWARDS_ARROW",
  "SANS-SERIF_INTERROBANG_ORNAMENT SCRIPT_LIGATURE_ET_ORNAMENT",
  "SINGLE(COMMA_QUOTATION_MARK_ORNAMENT TURNED_COMMA_QUOTATION_MARK_ORNAMENT)",
  "SIX(POINTED_BLACK_STAR SPOKED_ASTERISK) SOUTH(EAST(ARROW POINTING(BUD VINE_LEAF))",
  "WEST_POINTING(BUD VINE_LEAF)) TEARDROP-SHANKED_RIGHTWARDS_ARROW TEARDROP-SPOKED(ASTERISK",
  "PINWHEEL_ASTERISK) TRIANGLE-HEADED_RIGHTWARDS_ARROW TWELVE_POINTED(BLACK_STAR PINWHEEL_STAR)",
  "UPPER_RIGHT-SHADOWED_WHITE_RIGHTWARDS_ARROW UPWARDS_ARROW_WITH(EQUILATERAL_ARROWHEAD",
  "LARGE_EQUILATERAL_ARROWHEAD) VERTICAL_BAR WEDGE-TAILED_RIGHTWARDS_ARROW WHITE(CIRCLE SQUARE",
  "DOWN-POINTING_TRIANGLE) WIDE-HEADED_RIGHTWARDS_ARROW) HEBREW(ACCENT(DARGA DEHI ETNAHTA",
  "GERSHAYIM ILUY MAHAPAKH MUNAH OLE PASHTA PAZER QADMA REVIA SEGOL SHALSHELET TEVIR TIPEHA YETIV",
  "ZARQA ZINOR ATNAH_HAFUKH GERESH(. MUQDAM) MERKHA(. KEFULA) QARNEY_PARA TELISHA(GEDOLA QETANA)",
  "YERAH_BEN_YOMO ZAQEF(GADOL QATAN)) LETTER(AYIN HET ALEF(. WITH(MAPIQ PATAH QAMATS))",
  "ALTERNATIVE(AYIN PLUS_SIGN) BET(. WITH(DAGESH RAFE)) DALET(. WITH_DAGESH) FINAL(MEM NUN TSADI",
  "KAF(. WITH_DAGESH) PE(. WITH_DAGESH)) GIMEL(. WITH_DAGESH) HE(. WITH_MAPIQ) KAF(. WITH(DAGESH",
  "RAFE)) LAMED(. WITH_DAGESH) MEM(. WITH_DAGESH) NUN(. WITH_DAGESH) PE(. WITH(DAGESH RAFE))",
  "QOF(. WITH_DAGESH) RESH(. WITH_DAGESH) SAMEKH(. WITH_DAGESH) SHIN(. WITH(DAGESH(. AND(SHIN_DOT",
  "SIN_DOT)) SHIN_DOT SIN_DOT)) TAV(. WITH_DAGESH) TET(. WITH_DAGESH) TSADI(. WITH_DAGESH) VAV(.",
  "WITH(DAGESH HOLAM)) WIDE(ALEF DALET HE KAF LAMED RESH TAV FINAL_MEM) YOD(. WITH(DAGESH HIRIQ))",
  "ZAYIN(. WITH_DAGESH)) LIGATURE(ALEF_LAMED YIDDISH(DOUBLE(VAV YOD) VAV_YOD YOD_YOD_PATAH))",
  "MARK(LOWER_DOT MASORA_CIRCLE UPPER_DOT) POINT(HIRIQ METEG PATAH QUBUTS RAFE SEGOL SHEVA TSERE",
  "DAGESH_OR_MAPIQ HATAF(PATAH QAMATS SEGOL) HOLAM(. HASER_FOR_VAV) JUDEO-SPANISH_VARIKA QAMATS(.",
  "QATAN) SHIN_DOT SIN_DOT) PUNCTUATION(GERESH GERSHAYIM MAQAF PASEQ NUN_HAFUKHA SOF_PASUQ)",
  "YOD_TRIANGLE) HENTAIGANA_LETTER(A-WO KA-KE KO-KI ME-MA NE-KO NI-TE TO-RA TU-TO YA-YO A-1~3",
  "E-1~6 HA-1~9 HA-10 HA-11 HE-1~7 HI-1~7 HO-1~8 HU-1~3 I-1~4 KA-1~9 KA-10 KA-11 KE-1~6 KI-1~8",
  "KO-1~3 KU-1~7 MA-1~7 ME-1 ME-2 MI-1~7 MO-1~6 MU-1~4 N-MU-MO-1 N-MU-MO-2 NA-1~9 NE-1~6 NI-1~7",
  "NO-1~5 NU-1~3 O-1~3 RA-1~4 RE-1~4 RI-1~7 RO-1~6 RU-1~6 SA-1~8 SE-1~5 SI-1~6 SO-1~7 SU-1~8",
  "TA-1~4 TE-1~9 TI-1~7 TO-1~6 TU-1~4 U-1~5 WA-1~5 WE-1~4 WI-1~5 WO-1~7 YA-1~5 YO-1~6 YU-1~4)",
  "HEXAGRAM_FOR(ABUNDANCE APPROACH BREAKTHROUGH CONFLICT CONTEMPLATION DECREASE DELIVERANCE",
  "DEVELOPMENT DISPERSION DURATION ENTHUSIASM FELLOWSHIP FOLLOWING GRACE INCREASE INFLUENCE",
  "INNOCENCE LIMITATION MODESTY OBSTRUCTION OPPOSITION OPPRESSION PEACE PROGRESS RETREAT RETURN",
  "REVOLUTION STANDSTILL TREADING WAITING AFTER_COMPLETION BEFORE_COMPLETION BITING_THROUGH",
  "COMING_TO_MEET DARKENING_OF_THE_LIGHT DIFFICULTY_AT_THE_BEGINNING GATHERING_TOGETHER",
  "GREAT(POSSESSION POWER PREPONDERANCE TAMING) HOLDING_TOGETHER INNER_TRUTH MOUTH_CORNERS",
  "PUSHING_UPWARD SMALL(PREPONDERANCE TAMING) SPLITTING_APART THE(ARMY CAULDRON FAMILY WANDERER",
  "WELL ABYSMAL_WATER AROUSING_THUNDER CLINGING_FIRE CREATIVE_HEAVEN GENTLE_WIND JOYOUS_LAKE",
  "KEEPING_STILL_MOUNTAIN MARRYING_MAIDEN RECEPTIVE_EARTH) WORK_ON_THE_DECAYED YOUTHFUL_FOLLY)",
  "HIGH(BRIGHTNESS_SYMBOL OCTET_PRESET VOLTAGE_SIGN) HIGH-SPEED_TRAIN(. WITH_BULLET_NOSE)",
  "HIRAGANA(DIGRAPH_YORI ITERATION_MARK LETTER(A BA BE BI BO BU DA DE DI DO DU E GA GE GI GO GU",
  "HA HE HI HO HU I KA KE KI KO KU MA ME MI MO MU N NA NE NI NO NU O PA PE PI PO PU RA RE RI RO",
  "RU SA SE SI SO SU TA TE TI TO TU U VU WA WE WI WO YA YO YU ZA ZE ZI ZO ZU ARCHAIC(WU YE)",
  "SMALL(A E I KA KE O TU U WA WE WI WO YA YO YU)) VOICED_ITERATION_MARK)",
  "HOLLOW_QUILT_SQUARE_ORNAMENT(. IN_BLACK_SQUARE) HORIZONTAL(BAR ELLIPSIS BLACK(HEXAGON OCTAGON)",
  "LINE_EXTENSION MALE_WITH_STROKE_SIGN ONE_EIGHTH(BLOCK-2~7 BLOCK-1358) SCAN(LINE-1 LINE-3",
  "LINE-7 LINE-9) TAB_KEY TABULATION(. SET WITH_JUSTIFICATION) TRAFFIC_LIGHT) HORSE(. FACE",
  "RACING) HOT(BEVERAGE DOG PEPPER SPRINGS) HOURGLASS(. WITH_FLOWING_SAND) HOUSE(. BUILDING",
  "BUILDINGS WITH_GARDEN) HYPHEN(. BULLET WITH_DIAERESIS) ICE(CREAM CUBE SKATE",
  "HOCKEY_STICK_AND_PUCK) IDENTICAL(TO(. AND_SLANTED_PARALLEL) WITH_DOT_ABOVE) IDEOGRAPHIC(COMMA",
  "SPACE ANNOTATION(BOTTOM_MARK EARTH_MARK FIRST_MARK FOUR_MARK FOURTH_MARK HEAVEN_MARK",
  "LINKING_MARK MAN_MARK MIDDLE_MARK ONE_MARK REVERSE_MARK SECOND_MARK THIRD_MARK THREE_MARK",
  "TOP_MARK TWO_MARK) CLOSING_MARK DEPARTING_TONE_MARK DESCRIPTION_CHARACTER(OVERLAID",
  "ABOVE_TO(BELOW MIDDLE_AND_BELOW) FULL_SURROUND LEFT_TO(RIGHT MIDDLE_AND_RIGHT)",
  "SURROUND_FROM(ABOVE BELOW LEFT LOWER_LEFT UPPER(LEFT RIGHT))) ENTERING_TONE_MARK FULL_STOP",
  "HALF_FILL_SPACE ITERATION_MARK LEVEL_TONE_MARK NUMBER_ZERO RISING_TONE_MARK TALLY_MARK(FIVE",
  "FOUR ONE THREE TWO) TELEGRAPH(LINE_FEED_SEPARATOR_SYMBOL SYMBOL_FOR(APRIL AUGUST DECEMBER",
  "FEBRUARY JANUARY JULY JUNE MARCH MAY NOVEMBER OCTOBER SEPTEMBER DAY(EIGHT EIGHTEEN ELEVEN",
  "FIFTEEN FIVE FOUR FOURTEEN NINE NINETEEN ONE SEVEN SEVENTEEN SIX SIXTEEN TEN THIRTEEN THIRTY",
  "THIRTY-ONE THREE TWELVE TWENTY TWENTY-EIGHT TWENTY-FIVE TWENTY-FOUR TWENTY-NINE TWENTY-ONE",
  "TWENTY-SEVEN TWENTY-SIX TWENTY-THREE TWENTY-TWO TWO) HOUR(EIGHT EIGHTEEN ELEVEN FIFTEEN FIVE",
  "FOUR FOURTEEN NINE NINETEEN ONE SEVEN SEVENTEEN SIX SIXTEEN TEN THIRTEEN THREE TWELVE TWENTY",
  "TWENTY-FOUR TWENTY-ONE TWENTY-THREE TWENTY-TWO TWO ZERO))) VARIATION_INDICATOR) IMAGE_OF(.",
  "OR_APPROXIMATELY_EQUAL_TO) IMPERIAL_ARAMAIC(LETTER(ALEPH AYIN BETH DALETH GIMEL HE HETH KAPH",
  "LAMEDH MEM NUN PE QOPH RESH SADHE SAMEKH SHIN TAW TETH WAW YODH ZAYIN) NUMBER(THREE TWENTY TWO",
  "ONE(. HUNDRED THOUSAND) TEN(. THOUSAND)) SECTION_SIGN) INDEX(. POINTING_AT_THE_VIEWER)",
  "INDIC_SIYAQ(PLACEHOLDER ALTERNATE_LAKH_MARK FRACTION(ONE(HALF QUARTER) THREE_QUARTERS)",
  "LAKH_MARK NUMBER(KAROR KARORAN LAKH LAKHAN ALTERNATE(ONE TWO TEN_THOUSAND) EIGHT(. HUNDRED",
  "THOUSAND) EIGHTY(. THOUSAND) FIFTY(. THOUSAND) FIVE(. HUNDRED THOUSAND) FORTY(. THOUSAND)",
  "FOUR(. HUNDRED THOUSAND) NINE(. HUNDRED THOUSAND) NINETY(. THOUSAND) ONE(. HUNDRED THOUSAND)",
  "PREFIXED(EIGHT FIVE FOUR NINE ONE SEVEN SIX THREE TWO) SEVEN(. HUNDRED THOUSAND) SEVENTY(.",
  "THOUSAND) SIX(. HUNDRED THOUSAND) SIXTY(. THOUSAND) TEN(. THOUSAND) THIRTY(. THOUSAND) THREE(.",
  "HUNDRED THOUSAND) TWENTY(. THOUSAND) TWO(. HUNDRED THOUSAND)) RUPEE_MARK) INFINITY(.",
  "NEGATED_WITH_VERTICAL_BAR) INFORMATION(SOURCE DESK_PERSON SEPARATOR(FOUR ONE THREE TWO))",
  "INHIBIT(ARABIC_FORM_SHAPING SYMMETRIC_SWAPPING) INPUT_SYMBOL_FOR(NUMBERS SYMBOLS LATIN(LETTERS",
  "CAPITAL_LETTERS SMALL_LETTERS)) INSCRIPTIONAL(PAHLAVI(LETTER(ALEPH BETH DALETH GIMEL HE HETH",
  "KAPH LAMEDH MEM-QOPH NUN PE SADHE SAMEKH SHIN TAW TETH WAW-AYIN-RESH YODH ZAYIN) NUMBER(FOUR",
  "TEN THREE TWENTY TWO ONE(. HUNDRED THOUSAND))) PARTHIAN(LETTER(ALEPH AYIN BETH DALETH GIMEL HE",
  "HETH KAPH LAMEDH MEM NUN PE QOPH RESH SADHE SAMEKH SHIN TAW TETH WAW YODH ZAYIN) NUMBER(FOUR",
  "TEN THREE TWENTY TWO ONE(. HUNDRED THOUSAND)))) INTEGRAL(. EXTENSION AROUND_A_POINT_OPERATOR",
  "AVERAGE_WITH_SLASH WITH(INTERSECTION OVERBAR UNDERBAR UNION DOUBLE_STROKE",
  "LEFTWARDS_ARROW_WITH_HOOK TIMES_SIGN)) INTERLINEAR_ANNOTATION(ANCHOR SEPARATOR TERMINATOR)",
  "INTERSECTION(. ABOVE(UNION BAR_ABOVE_UNION) BESIDE_AND_JOINED_WITH_INTERSECTION WITH(DOT",
  "OVERBAR LOGICAL_AND)) INVERSE(BULLET CHECK_MARK CHECKER_BOARD_FILL",
  "DOWNWARDS_ARROW_WITH_TIP_LEFTWARDS MEDIUM_SHADE WHITE_CIRCLE) INVERTED(INTERROBANG PENTAGRAM",
  "UNDERTIE EXCLAMATION_MARK LAZY_S LOW_KAVYKA(. WITH_KAVYKA_ABOVE) OHM_SIGN QUESTION_MARK)",
  "INVISIBLE(PLUS SEPARATOR TIMES) JAPANESE(CASTLE DOLLS GOBLIN OGRE BANK_SYMBOL",
  "INDUSTRIAL_STANDARD_SYMBOL POST_OFFICE SYMBOL_FOR_BEGINNER) JAVANESE(PANGKON PANGRANGKEP",
  "CONSONANT_SIGN(CAKRA KERET PENGKAL) DIGIT(EIGHT FIVE FOUR NINE ONE SEVEN SIX THREE TWO ZERO)",
  "LEFT_RERENGGAN LETTER(A AI E HA II LA MA O U WA YA BA(. MURDA) CA(. MURDA) DA(. MAHAPRANA)",
  "DDA(. MAHAPRANA) GA(. MURDA) I(. KAWI) JA(. MAHAPRANA) KA(. MURDA SASAK) NA(. MURDA) NGA(.",
  "LELET(. RASWADI)) NYA(. MURDA) PA(. CEREK MURDA) RA(. AGUNG) SA(. MAHAPRANA MURDA) TA(. MURDA)",
  "TTA(. MAHAPRANA)) PADA(ANDAP ISEN-ISEN LINGSA LUHUR LUNGSI MADYA PANGKAT PISELEH WINDU ADEG(.",
  "ADEG) TIRTA_TUMETES) RIGHT_RERENGGAN SIGN(LAYAR PANYANGGA WIGNYAN CECAK(. TELU))",
  "TURNED_PADA_PISELEH VOWEL_SIGN(PEPET TALING TARUNG TOLONG DIRGA_MURE SUKU(. MENDUT) WULU(.",
  "MELIK))) KAITHI(DANDA ABBREVIATION_SIGN DOUBLE(DANDA SECTION_MARK) ENUMERATION_SIGN LETTER(A",
  "AA AI AU BA BHA CA CHA DA DDA DDDHA DDHA DHA E GA GHA HA I II JA JHA KA KHA LA MA NA NGA NNA",
  "NYA O PA PHA RA RHA SA SHA SSA TA THA TTA TTHA U UU VA YA) NUMBER_SIGN(. ABOVE) SECTION_MARK",
  "SIGN(ANUSVARA CANDRABINDU NUKTA VIRAMA VISARGA) VOWEL_SIGN(AA AI AU E I II O U UU VOCALIC_R))",
  "KANGXI_RADICAL(AGAIN AND ARRIVE ARROW AXE BADGER BAMBOO BEAN BIG BIRD BITTER BLACK BLOOD BLUE",
  "BOAT BODY BONE BOW BRANCH BRISTLE BRUSH CART CAULDRON CAVE CHILD CITY CLAN CLAW CLIFF CLOTHES",
  "COLOR COMPARE CORPSE COVER COW DEATH DEER DIPPER DISH DISTINGUISH DIVINATION DOG DOOR DOT",
  "DRAGON DRUM DRY EAR EARTH EAT EIGHT EMBROIDERY ENCLOSURE ENTER EVEN EVENING EYE FACE FANG",
  "FATHER FEATHER FIELD FIGHT FIRE FISH FLUTE FLY FOOT FRAGRANT FROG FUR GATE GHOST GOLD GRAIN",
  "GRASS HAIR HALBERD HAND HEAD HEART HEMP HOOK HORN HORSE ICE INCH INSECT JADE JAR KNIFE LACK",
  "LAME LEAF LEATHER LEEK LEGS LID LIFE LINE MAN MEAT MELON MILLET MINISTER MOON MORNING MORTAR",
  "MOUND MOUNTAIN MOUTH NET NOSE NOT OLD ONE ONESELF OPPOSE PIG PLOW POWER PRIVATE PROFOUND RAIN",
  "RAP RAT RED RICE RIVER ROOF RUN SALT SAY SCHOLAR SCRIPT SEAL SECOND SEE SELF SHEEP SHELL SHOOT",
  "SICKNESS SILK SKIN SLASH SLAVE SLICE SMALL SNOUT SOUND SPEAR SPEECH SPIRIT SPOON SPROUT SQUARE",
  "STAND STEAM STEP STONE STOP STOPPING SUN SWEET TABLE TALL TEN TIGER TILE TONGUE TOOTH TRACK",
  "TREE TRIPOD TURBAN TURTLE USE VALLEY VILLAGE WATER WEAPON WEST WHEAT WHITE WIND WINE WOMAN",
  "WORK WRAP WRONG YELLOW BOLT_OF_CLOTH DO_NOT DOTTED(CLIFF TENT) DOUBLE_X DOWN_BOX GO(. SLOWLY)",
  "HALF_TREE_TRUNK HIDING_ENCLOSURE LONG(. STRIDE) OPEN_BOX RIGHT_OPEN_BOX SACRIFICIAL_WINE",
  "SHORT(THREAD TAILED_BIRD) TANNED_LEATHER TWO(. HANDS) WALK(. ENCLOSURE))",
  "KANNADA(AI_LENGTH_MARK DIGIT(EIGHT FIVE FOUR NINE ONE SEVEN SIX THREE TWO ZERO) LENGTH_MARK",
  "LETTER(A AA AI AU BA BHA CA CHA DA DDA DDHA DHA E EE FA GA GHA HA I II JA JHA KA KHA LA LLA",
  "LLLA MA NA NGA NNA NYA O OO PA PHA RA RRA SA SHA SSA TA THA TTA TTHA U UU VA YA NAKAARA_POLLU",
  "VOCALIC(L LL R RR)) SIGN(ANUSVARA AVAGRAHA CANDRABINDU JIHVAMULIYA NUKTA SIDDHAM UPADHMANIYA",
  "VIRAMA VISARGA SPACING_CANDRABINDU) VOWEL_SIGN(AA AI AU E EE I II O OO U UU VOCALIC(L LL R",
  "RR))) KATAKANA(DIGRAPH_KOTO ITERATION_MARK LETTER(A BA BE BI BO BU DA DE DI DO DU E GA GE GI",
  "GO GU HA HE HI HO HU I KA KE KI KO KU MA ME MI MO MU N NA NE NI NO NU O PA PE PI PO PU RA RE",
  "RI RO RU SA SE SI SO SU TA TE TI TO TU U VA VE VI VO VU WA WE WI WO YA YO YU ZA ZE ZI ZO ZU",
  "ARCHAIC(E WU YE YI) MINNAN(TONE-2~5 TONE-7 TONE-8 NASALIZED(TONE-1~5 TONE-7 TONE-8)) SMALL(A E",
  "HA HE HI HO HU I KA KE KU MU N NU O RA RE RI RO RU SI SU TO TU U WA WE WI WO YA YO YU))",
  "MIDDLE_DOT VOICED_ITERATION_MARK) KATAKANA-HIRAGANA(DOUBLE_HYPHEN PROLONGED_SOUND_MARK",
  "SEMI-VOICED_SOUND_MARK VOICED_SOUND_MARK) KAYAH_LI(DIGIT(EIGHT FIVE FOUR NINE ONE SEVEN SIX",
  "THREE TWO ZERO) LETTER(A BA CA DA GA HA HTA I KA KHA LA MA NA NGA NYA OE OO PA PHA RA SA SHA",
  "TA THA VA WA YA ZA) SIGN(CWI SHYA) TONE(PLOPHU CALYA(. PLOPHU)) VOWEL(E EE O U UE)) KEYBOARD(.",
  "AND_MOUSE) KHAROSHTHI(VIRAMA DIGIT(FOUR ONE THREE TWO) FRACTION_ONE_HALF LETTER(A BA BHA CA",
  "CHA DA DDA DDHA DHA GA GHA HA JA KA KHA KKA LA MA NA NNA NYA PA PHA RA SA SHA SSA TA THA TTA",
  "TTHA TTTA TTTHA VA VHA YA ZA) NUMBER(TEN TWENTY ONE(HUNDRED THOUSAND)) PUNCTUATION(CIRCLE",
  "DANDA DOT LINES LOTUS MANGALAM CRESCENT_BAR DOUBLE_DANDA SMALL_CIRCLE) SIGN(ANUSVARA CAUDA",
  "VISARGA BAR_ABOVE DOT_BELOW DOUBLE_RING_BELOW) VOWEL(LENGTH_MARK SIGN(E I O U VOCALIC_R)))",
  "KHITAN_SMALL_SCRIPT(FILLER CHARACTER-18B00^18CD5) KHMER(CURRENCY_SYMBOL_RIEL DIGIT(EIGHT FIVE",
  "FOUR NINE ONE SEVEN SIX THREE TWO ZERO) INDEPENDENT_VOWEL(LY LYY QAA QAI QAQ QAU QE QI QII QU",
  "QUK QUU QUUV RY RYY QOO_TYPE(ONE TWO)) LETTER(BA CA CHA CHO CO DA DO HA KA KHA KHO KO LA LO MO",
  "NGO NNO NO NYO PHA PHO PO QA RO SA SHA SSO TA THA THO TO TTHA TTHO VO YO) SIGN(AHSDA ATTHACAN",
  "AVAKRAHASANYA BANTOC BARIYOOSAN BATHAMASAT BEYYAL COENG KAKABAT KHAN KOOMUUT MUUSIKATOAN",
  "NIKAHIT REAHMUK ROBAT TOANDAKHIAT TRIISAP VIRIAM YUUKALEAPINTU CAMNUC_PII_KUUH LEK_TOO",
  "PHNAEK_MUAN SAMYOK_SANNYA) SYMBOL(PATHAMASAT TUTEYASAT BEI(KOET ROC) BUON(KOET ROC) DAP(KOET",
  "ROC) DAP-BEI(KOET ROC) DAP-BUON(KOET ROC) DAP-MUOY(KOET ROC) DAP-PII(KOET ROC) DAP-PRAM(KOET",
  "ROC) LEK_ATTAK(BEI BUON MUOY PII PRAM PRAM-BEI PRAM-BUON PRAM-MUOY PRAM-PII SON) MUOY(KOET",
  "ROC) PII(KOET ROC) PRAM(KOET ROC) PRAM-BEI(KOET ROC) PRAM-BUON(KOET ROC) PRAM-MUOY(KOET ROC)",
  "PRAM-PII(KOET ROC)) VOWEL(INHERENT(AA AQ) SIGN(AA AE AI AU E I IE II OE OO U UA UU Y YA YY)))",
  "KHOJKI(DANDA ABBREVIATION_SIGN DOUBLE(DANDA SECTION_MARK) LETTER(A AA AI AU BA BBA BHA CA CHA",
  "DA DDA DDDA DDHA DHA E GA GGA GHA HA I JA JJA KA KHA LA LLA MA NA NGA NNA NYA O PA PHA RA SA",
  "TA THA TTA TTHA U VA YA) SECTION_MARK SIGN(ANUSVARA NUKTA SHADDA SUKUN VIRAMA) VOWEL_SIGN(AA",
  "AI AU E I II O U) WORD_SEPARATOR) KHUDAWADI(DIGIT(EIGHT FIVE FOUR NINE ONE SEVEN SIX THREE TWO",
  "ZERO) LETTER(A AA AI AU BA BBA BHA CA CHA DA DDA DDDA DDHA DHA E GA GGA GHA HA I II JA JHA JJA",
  "KA KHA LA MA NA NGA NNA NYA O PA PHA RA RRA SA SHA TA THA TTA TTHA U UU VA YA) SIGN(ANUSVARA",
  "NUKTA VIRAMA) VOWEL_SIGN(AA AI AU E I II O U UU)) KISS(. MARK)",
  "KISSING(CAT_FACE_WITH_CLOSED_EYES FACE(. WITH(CLOSED_EYES SMILING_EYES))) LAO(ELLIPSIS",
  "NIGGAHITA CANCELLATION_MARK DIGIT(EIGHT FIVE FOUR NINE ONE SEVEN SIX THREE TWO ZERO) HO(MO NO)",
  "KO_LA LETTER(BO CO DO KO MO NGO NO NYO O PO RO TO WO YO FO(FAY FON SUNG TAM) HO(SUNG TAM)",
  "KHMU(GO NYO) KHO(SUNG TAM) LO(. LING LOOT) PALI(BHA CHA DDA DDHA DHA GHA JHA LLA NNA NYA TTA",
  "TTHA) PHO(SUNG TAM) SANSKRIT(SHA SSA) SO(SUNG TAM) THO(SUNG TAM)) SEMIVOWEL_SIGN(LO NYO)",
  "SIGN_PALI_VIRAMA TONE_MAI(CATAWA EK THO TI) VOWEL_SIGN(A AA AI AM AY E EI I II O U UU Y YY",
  "MAI(KAN KON))) LARGE(CIRCLE BLUE(CIRCLE DIAMOND SQUARE) BROWN(CIRCLE SQUARE) DOWN_TACK",
  "GREEN(CIRCLE SQUARE) LEFT_TRIANGLE_OPERATOR ONE(DOT_OVER_TWO_DOTS_PUNCTUATION",
  "RING_OVER_TWO_RINGS_PUNCTUATION) ORANGE(CIRCLE DIAMOND SQUARE) PURPLE(CIRCLE SQUARE)",
  "RED(CIRCLE SQUARE) TRIPLE_VERTICAL_BAR_OPERATOR TWO(DOTS_OVER_ONE_DOT_PUNCTUATION",
  "RINGS_OVER_ONE_RING_PUNCTUATION) UP_TACK YELLOW(CIRCLE SQUARE)) LARGER_THAN(. OR_EQUAL_TO)",
  "LAST_QUARTER_MOON(. SYMBOL WITH_FACE) LATIN(CROSS CAPITAL(LETTER(AA ALPHA AO AU AY BETA CHI",
  "CON ENG ESH ET ETH GAMMA GHA HENG HWAIR IOTA IS LJ NJ OI OMEGA OO OU SALTILLO SCHWA TRESILLO",
  "TZ UPSILON VEND VY WYNN YOGH A(. WITH(ACUTE CARON GRAVE MACRON OGONEK STROKE TILDE BREVE(.",
  "AND(ACUTE GRAVE TILDE DOT_BELOW HOOK_ABOVE)) CIRCUMFLEX(. AND(ACUTE GRAVE TILDE DOT_BELOW",
  "HOOK_ABOVE)) DIAERESIS(. AND_MACRON) DOT(BELOW ABOVE(. AND_MACRON)) DOUBLE_GRAVE HOOK_ABOVE",
  "INVERTED_BREVE RING(BELOW ABOVE(. AND_ACUTE)))) AE(. WITH(ACUTE MACRON)) AFRICAN_D ANGLICANA_W",
  "AV(. WITH_HORIZONTAL_BAR) B(. WITH(FLOURISH HOOK STROKE TOPBAR DOT(ABOVE BELOW) LINE_BELOW))",
  "BROKEN_L C(. WITH(ACUTE BAR CARON CIRCUMFLEX HOOK STROKE CEDILLA(. AND_ACUTE) DOT_ABOVE",
  "PALATAL_HOOK)) CLOSED_INSULAR_G CUATRILLO(. WITH_COMMA) D(. WITH(CARON CEDILLA HOOK STROKE",
  "TOPBAR CIRCUMFLEX_BELOW DOT(ABOVE BELOW) LINE_BELOW SHORT_STROKE_OVERLAY SMALL_LETTER_Z(.",
  "WITH_CARON))) DZ(. WITH_CARON) E(. WITH(ACUTE BREVE CARON DIAERESIS GRAVE OGONEK STROKE",
  "CEDILLA(. AND_BREVE) CIRCUMFLEX(. BELOW AND(ACUTE GRAVE TILDE DOT_BELOW HOOK_ABOVE)) DOT(ABOVE",
  "BELOW) DOUBLE_GRAVE HOOK_ABOVE INVERTED_BREVE MACRON(. AND(ACUTE GRAVE)) TILDE(. BELOW)))",
  "EGYPTOLOGICAL(AIN ALEF) EZH(. REVERSED WITH_CARON) F(. WITH(HOOK STROKE DOT_ABOVE)) G(.",
  "WITH(ACUTE BREVE CARON CEDILLA CIRCUMFLEX HOOK MACRON STROKE DOT_ABOVE OBLIQUE_STROKE))",
  "GLOTTAL(A I STOP U) H(. WITH(CARON CEDILLA CIRCUMFLEX DESCENDER DIAERESIS HOOK STROKE",
  "BREVE_BELOW DOT(ABOVE BELOW))) HALF_H I(. WITH(ACUTE BREVE CARON CIRCUMFLEX GRAVE MACRON",
  "OGONEK STROKE DIAERESIS(. AND_ACUTE) DOT(ABOVE BELOW) DOUBLE_GRAVE HOOK_ABOVE INVERTED_BREVE",
  "TILDE(. BELOW))) INSULAR(D F G R S T) J(. WITH(CIRCUMFLEX CROSSED-TAIL STROKE)) K(. WITH(ACUTE",
  "CARON CEDILLA DESCENDER HOOK DIAGONAL_STROKE DOT_BELOW LINE_BELOW OBLIQUE_STROKE STROKE(.",
  "AND_DIAGONAL_STROKE))) L(. WITH(ACUTE BAR BELT CARON CEDILLA STROKE CIRCUMFLEX_BELOW",
  "DOT_BELOW(. AND_MACRON) DOUBLE_BAR HIGH_STROKE LINE_BELOW MIDDLE(DOT TILDE) SMALL_LETTER_J))",
  "M(. WITH(ACUTE HOOK DOT(ABOVE BELOW))) MIDDLE_SCOTS_S MIDDLE-WELSH(LL V) N(. WITH(ACUTE CARON",
  "CEDILLA DESCENDER GRAVE TILDE CIRCUMFLEX_BELOW DOT(ABOVE BELOW) LEFT_HOOK LINE_BELOW",
  "LONG_RIGHT_LEG OBLIQUE_STROKE SMALL_LETTER_J)) O(. WITH(ACUTE BREVE CARON GRAVE LOOP",
  "CIRCUMFLEX(. AND(ACUTE GRAVE TILDE DOT_BELOW HOOK_ABOVE)) DIAERESIS(. AND_MACRON) DOT(BELOW",
  "ABOVE(. AND_MACRON)) DOUBLE(ACUTE GRAVE) HOOK_ABOVE HORN(. AND(ACUTE GRAVE TILDE DOT_BELOW",
  "HOOK_ABOVE)) INVERTED_BREVE LONG_STROKE_OVERLAY MACRON(. AND(ACUTE GRAVE)) MIDDLE_TILDE",
  "OGONEK(. AND_MACRON) STROKE(. AND_ACUTE) TILDE(. AND(ACUTE DIAERESIS MACRON)))) OLD_POLISH_O",
  "OPEN(E O) P(. WITH(ACUTE FLOURISH HOOK DOT_ABOVE SQUIRREL_TAIL STROKE(. THROUGH_DESCENDER)))",
  "Q(. WITH(DIAGONAL_STROKE STROKE_THROUGH_DESCENDER)) R(. ROTUNDA WITH(ACUTE CARON CEDILLA",
  "STROKE TAIL DOT(ABOVE BELOW(. AND_MACRON)) DOUBLE_GRAVE INVERTED_BREVE LINE_BELOW",
  "OBLIQUE_STROKE)) REVERSED(E C_WITH_DOT HALF_H OPEN_E) RUM_ROTUNDA S(. WITH(CEDILLA CIRCUMFLEX",
  "HOOK ACUTE(. AND_DOT_ABOVE) CARON(. AND_DOT_ABOVE) COMMA_BELOW DOT(ABOVE BELOW(.",
  "AND_DOT_ABOVE)) OBLIQUE_STROKE SHORT_STROKE_OVERLAY SWASH_TAIL)) SCRIPT_G SHARP_S SIGMOID_S",
  "SMALL(CAPITAL_I Q_WITH_HOOK_TAIL) T(. WITH(CARON CEDILLA HOOK STROKE CIRCUMFLEX_BELOW",
  "COMMA_BELOW DIAGONAL_STROKE DOT(ABOVE BELOW) LINE_BELOW RETROFLEX_HOOK)) THORN(. WITH_STROKE(.",
  "THROUGH_DESCENDER)) TONE(FIVE SIX TWO) TURNED(A ALPHA H K L M T V INSULAR_G) U(. BAR",
  "WITH(ACUTE BREVE CARON GRAVE OGONEK STROKE CIRCUMFLEX(. BELOW) DIAERESIS(. BELOW AND(ACUTE",
  "CARON GRAVE MACRON)) DOT_BELOW DOUBLE(ACUTE GRAVE) HOOK_ABOVE HORN(. AND(ACUTE GRAVE TILDE",
  "DOT_BELOW HOOK_ABOVE)) INVERTED_BREVE MACRON(. AND_DIAERESIS) RING_ABOVE TILDE(. BELOW",
  "AND_ACUTE))) V(. WITH(HOOK TILDE DIAGONAL_STROKE DOT_BELOW)) VISIGOTHIC_Z VOLAPUK(AE OE UE)",
  "W(. WITH(ACUTE CIRCUMFLEX DIAERESIS GRAVE HOOK DOT(ABOVE BELOW))) X(. WITH(DIAERESIS",
  "DOT_ABOVE)) Y(. WITH(ACUTE CIRCUMFLEX DIAERESIS GRAVE LOOP MACRON STROKE TILDE DOT(ABOVE",
  "BELOW) HOOK(. ABOVE))) Z(. WITH(ACUTE CARON CIRCUMFLEX DESCENDER HOOK STROKE DOT(ABOVE BELOW)",
  "LINE_BELOW PALATAL_HOOK SWASH_TAIL))) LIGATURE(IJ OE)) EPIGRAPHIC_LETTER(ARCHAIC_M I_LONGA",
  "INVERTED_M REVERSED(F P) SIDEWAYS_I) LETTER(AIN WYNN YR ALVEOLAR_CLICK BIDENTAL_PERCUSSIVE",
  "BILABIAL(CLICK PERCUSSIVE) DENTAL_CLICK GLOTTAL_STOP(. WITH_STROKE) INVERTED_GLOTTAL_STOP(.",
  "WITH(CURL STROKE)) LATERAL_CLICK PHARYNGEAL_VOICED_FRICATIVE RETROFLEX_CLICK(.",
  "WITH_RETROFLEX_HOOK) REVERSED(ESH_LOOP GLOTTAL_STOP_WITH_STROKE) SINOLOGICAL_DOT",
  "SMALL_CAPITAL(A AE B C D E ETH EZH F H I J K M N O OE OU P Q RUM S T U V W Y Z BARRED_B G(.",
  "WITH_HOOK) INVERTED_R L(. WITH(BELT STROKE)) OPEN_O R(. WITH_RIGHT_LEG) REVERSED(N R) TURNED(E",
  "G K M R)) STRETCHED_C(. WITH_CURL) TWO_WITH_STROKE VOICED_LARYNGEAL_SPIRANT)",
  "SMALL(CAPITAL_LETTER(I_WITH_STROKE U_WITH_STROKE) LETTER(AA AO AU AY BETA CON DELTA DUM ET ETH",
  "GAMMA GHA HV IS KRA LJ LUM MUM NJ NUM OI OMEGA OO OU PHI SALTILLO TRESILLO TUM TZ UE UI UM UO",
  "VEND VY YOGH A(. REVERSED-SCHWA WITH(ACUTE CARON GRAVE MACRON OGONEK STROKE TILDE BREVE(.",
  "AND(ACUTE GRAVE TILDE DOT_BELOW HOOK_ABOVE)) CIRCUMFLEX(. AND(ACUTE GRAVE TILDE DOT_BELOW",
  "HOOK_ABOVE)) DIAERESIS(. AND_MACRON) DOT(BELOW ABOVE(. AND_MACRON)) DOUBLE_GRAVE HOOK_ABOVE",
  "INVERTED_BREVE RETROFLEX_HOOK RIGHT_HALF_RING RING(BELOW ABOVE(. AND_ACUTE)))) AE(. WITH(ACUTE",
  "MACRON)) ALPHA(. WITH_RETROFLEX_HOOK) ANGLICANA_W AV(. WITH_HORIZONTAL_BAR) B(. WITH(FLOURISH",
  "HOOK STROKE TOPBAR DOT(ABOVE BELOW) LINE_BELOW MIDDLE_TILDE PALATAL_HOOK)) BARRED(ALPHA E O)",
  "BASELINE_ESH BLACKLETTER(E O(. WITH_STROKE)) BOTTOM_HALF_O BROKEN_L C(. WITH(ACUTE BAR CARON",
  "CIRCUMFLEX CURL HOOK STROKE CEDILLA(. AND_ACUTE) DOT_ABOVE PALATAL_HOOK RETROFLEX_HOOK)) CHI(.",
  "WITH_LOW(LEFT_SERIF RIGHT_RING)) CLOSED(OMEGA INSULAR_G OPEN_E REVERSED_OPEN_E) CUATRILLO(.",
  "WITH_COMMA) D(. WITH(CARON CEDILLA CURL STROKE TAIL TOPBAR CIRCUMFLEX_BELOW DOT(ABOVE BELOW)",
  "HOOK(. AND_TAIL) LINE_BELOW MIDDLE_TILDE PALATAL_HOOK SHORT_STROKE_OVERLAY)) DB_DIGRAPH",
  "DEZH_DIGRAPH(. WITH(PALATAL_HOOK RETROFLEX_HOOK)) DOTLESS(I J(. WITH_STROKE(. AND_HOOK)))",
  "DOUBLE(THORN WYNN R(. WITH_CROSSED-TAIL)) DZ(. DIGRAPH(. WITH(CURL RETROFLEX_HOOK))",
  "WITH_CARON) E(. WITH(ACUTE BREVE CARON DIAERESIS FLOURISH GRAVE NOTCH OGONEK STROKE CEDILLA(.",
  "AND_BREVE) CIRCUMFLEX(. BELOW AND(ACUTE GRAVE TILDE DOT_BELOW HOOK_ABOVE)) DOT(ABOVE BELOW)",
  "DOUBLE_GRAVE HOOK_ABOVE INVERTED_BREVE MACRON(. AND(ACUTE GRAVE)) RETROFLEX_HOOK TILDE(.",
  "BELOW))) EGYPTOLOGICAL(AIN ALEF) ENG(. WITH(CROSSED-TAIL PALATAL_HOOK)) ESH(. WITH(CURL",
  "DOUBLE_BAR(. AND_CURL) PALATAL_HOOK RETROFLEX_HOOK)) EZH(. REVERSED WITH(CARON CURL TAIL",
  "PALATAL_HOOK RETROFLEX_HOOK)) F(. WITH(HOOK STROKE DOT_ABOVE MIDDLE_TILDE PALATAL_HOOK))",
  "FENG_DIGRAPH(. WITH_TRILL) G(. WITH(ACUTE BREVE CARON CEDILLA CIRCUMFLEX HOOK MACRON STROKE",
  "DOT_ABOVE OBLIQUE_STROKE PALATAL_HOOK)) GLOTTAL(A I STOP U) H(. WITH(CARON CEDILLA CIRCUMFLEX",
  "DESCENDER DIAERESIS HOOK STROKE BREVE_BELOW DOT(ABOVE BELOW) LINE_BELOW PALATAL_HOOK)) HALF_H",
  "HENG(. WITH_HOOK) I(. WITH(ACUTE BREVE CARON CIRCUMFLEX GRAVE MACRON OGONEK DIAERESIS(.",
  "AND_ACUTE) DOT_BELOW DOUBLE_GRAVE HOOK_ABOVE INVERTED_BREVE RETROFLEX_HOOK STROKE(.",
  "AND_RETROFLEX_HOOK) TILDE(. BELOW))) INSULAR(D F G R S T) INVERTED(ALPHA OE) IOTA(.",
  "WITH_STROKE) IOTIFIED_E J(. WITH(CARON CIRCUMFLEX CROSSED-TAIL STROKE)) K(. WITH(ACUTE CARON",
  "CEDILLA DESCENDER HOOK DIAGONAL_STROKE DOT_BELOW LINE_BELOW OBLIQUE_STROKE PALATAL_HOOK",
  "STROKE(. AND_DIAGONAL_STROKE))) L(. WITH(ACUTE BAR CARON CEDILLA CURL FISHHOOK STROKE BELT(.",
  "AND_PALATAL_HOOK) CIRCUMFLEX_BELOW DOT_BELOW(. AND_MACRON) DOUBLE(BAR MIDDLE_TILDE)",
  "HIGH_STROKE INVERTED_LAZY_S LINE_BELOW MIDDLE(DOT RING TILDE) PALATAL_HOOK RETROFLEX_HOOK(.",
  "AND_BELT))) LAMBDA_WITH_STROKE LENIS_F LEZH(. WITH_RETROFLEX_HOOK) LONG_S(.",
  "WITH(DIAGONAL_STROKE DOT_ABOVE HIGH_STROKE)) LS_DIGRAPH LZ_DIGRAPH M(. WITH(ACUTE CROSSED-TAIL",
  "HOOK DOT(ABOVE BELOW) MIDDLE_TILDE PALATAL_HOOK)) MIDDLE_SCOTS_S MIDDLE-WELSH(LL V) N(.",
  "PRECEDED_BY_APOSTROPHE WITH(ACUTE CARON CEDILLA CROSSED-TAIL CURL DESCENDER GRAVE TILDE",
  "CIRCUMFLEX_BELOW DOT(ABOVE BELOW) LEFT_HOOK LINE_BELOW LONG_RIGHT_LEG MIDDLE_TILDE",
  "OBLIQUE_STROKE PALATAL_HOOK RETROFLEX_HOOK)) O(. WITH(ACUTE BREVE CARON GRAVE LOOP",
  "CIRCUMFLEX(. AND(ACUTE GRAVE TILDE DOT_BELOW HOOK_ABOVE)) DIAERESIS(. AND_MACRON) DOT(BELOW",
  "ABOVE(. AND_MACRON)) DOUBLE(ACUTE GRAVE) HOOK_ABOVE HORN(. AND(ACUTE GRAVE TILDE DOT_BELOW",
  "HOOK_ABOVE)) INVERTED_BREVE LONG_STROKE_OVERLAY LOW_RING_INSIDE MACRON(. AND(ACUTE GRAVE))",
  "OGONEK(. AND_MACRON) RETROFLEX_HOOK STROKE(. AND_ACUTE) TILDE(. AND(ACUTE DIAERESIS MACRON))))",
  "OLD_POLISH_O OPEN(OE E(. WITH_RETROFLEX_HOOK) O(. WITH(STROKE RETROFLEX_HOOK))) P(. WITH(ACUTE",
  "FLOURISH HOOK DOT_ABOVE MIDDLE_TILDE PALATAL_HOOK SQUIRREL_TAIL STROKE(. THROUGH_DESCENDER)))",
  "Q(. WITH(DIAGONAL_STROKE HOOK(. TAIL) STROKE_THROUGH_DESCENDER)) QP_DIGRAPH R(. ROTUNDA",
  "WITH(ACUTE CARON CEDILLA CROSSED-TAIL STROKE TAIL DOT(ABOVE BELOW(. AND_MACRON)) DOUBLE_GRAVE",
  "FISHHOOK(. AND(MIDDLE_TILDE PALATAL_HOOK)) INVERTED_BREVE LINE_BELOW LONG_LEG MIDDLE_TILDE",
  "OBLIQUE_STROKE PALATAL_HOOK) WITHOUT_HANDLE) RAMS_HORN REVERSED(E ENG K C(. WITH_DOT) HALF_H",
  "OPEN_E(. WITH(HOOK RETROFLEX_HOOK)) R_WITH_FISHHOOK SCRIPT_G) RUM(. ROTUNDA) S(. WITH(CEDILLA",
  "CIRCUMFLEX CURL HOOK ACUTE(. AND_DOT_ABOVE) CARON(. AND_DOT_ABOVE) COMMA_BELOW DOT(ABOVE",
  "BELOW(. AND_DOT_ABOVE)) MIDDLE_TILDE OBLIQUE_STROKE PALATAL_HOOK SHORT_STROKE_OVERLAY",
  "SWASH_TAIL)) SAKHA_YAT SCHWA(. WITH(HOOK RETROFLEX_HOOK)) SCRIPT(G(. WITH_CROSSED-TAIL) R(.",
  "WITH_RING)) SHARP_S SIDEWAYS(U DIAERESIZED_U O(. WITH_STROKE) OPEN_O TURNED_M) SIGMOID_S",
  "SQUAT_REVERSED_ESH STIRRUP_R T(. WITH(CARON CEDILLA CURL DIAERESIS STROKE CIRCUMFLEX_BELOW",
  "COMMA_BELOW DIAGONAL_STROKE DOT(ABOVE BELOW) HOOK(. AND_RETROFLEX_HOOK) LINE_BELOW",
  "MIDDLE_TILDE PALATAL_HOOK RETROFLEX_HOOK)) TAILLESS_PHI TC_DIGRAPH_WITH_CURL TESH_DIGRAPH(.",
  "WITH(PALATAL_HOOK RETROFLEX_HOOK)) TH_WITH_STRIKETHROUGH THORN(. WITH_STROKE(.",
  "THROUGH_DESCENDER)) TONE(FIVE SIX TWO) TOP_HALF_O TS_DIGRAPH(. WITH_RETROFLEX_HOOK) TURNED(A",
  "AE ALPHA DELTA E G I K L UI V W H(. WITH_FISHHOOK(. AND_TAIL)) INSULAR_G M(. WITH_LONG_LEG)",
  "O_OPEN-O(. WITH_STROKE) OE(. WITH(STROKE HORIZONTAL_STROKE)) OPEN_E R(. WITH(HOOK TAIL",
  "LONG_LEG(. AND_RETROFLEX_HOOK) MIDDLE_TILDE PALATAL_HOOK)) T(. WITH_CURL) Y(. WITH_BELT)) U(.",
  "BAR(. WITH_SHORT_RIGHT_LEG) WITH(ACUTE BREVE CARON GRAVE OGONEK STROKE CIRCUMFLEX(. BELOW)",
  "DIAERESIS(. BELOW AND(ACUTE CARON GRAVE MACRON)) DOT_BELOW DOUBLE(ACUTE GRAVE) HOOK_ABOVE",
  "HORN(. AND(ACUTE GRAVE TILDE DOT_BELOW HOOK_ABOVE)) INVERTED_BREVE LEFT_HOOK MACRON(.",
  "AND_DIAERESIS) RETROFLEX_HOOK RING_ABOVE SHORT_RIGHT_LEG TILDE(. BELOW AND_ACUTE))) UPSILON(.",
  "WITH_STROKE) V(. WITH(CURL HOOK TILDE DIAGONAL_STROKE DOT_BELOW PALATAL_HOOK RIGHT_HOOK))",
  "VISIGOTHIC_Z VOLAPUK(AE OE UE) W(. WITH(ACUTE CIRCUMFLEX DIAERESIS GRAVE HOOK DOT(ABOVE BELOW)",
  "RING_ABOVE)) X(. WITH(DIAERESIS DOT_ABOVE LONG_LEFT_LEG(. AND_LOW_RIGHT_RING WITH_SERIF)",
  "LOW_RIGHT_RING PALATAL_HOOK)) Y(. WITH(ACUTE CIRCUMFLEX DIAERESIS GRAVE LOOP MACRON STROKE",
  "TILDE DOT(ABOVE BELOW) HOOK(. ABOVE) RING_ABOVE SHORT_RIGHT_LEG)) Z(. WITH(ACUTE CARON",
  "CIRCUMFLEX CURL DESCENDER HOOK STROKE DOT(ABOVE BELOW) LINE_BELOW MIDDLE_TILDE PALATAL_HOOK",
  "RETROFLEX_HOOK SWASH_TAIL))) LIGATURE(FF FFI FFL FI FL IJ OE ST LONG_S_T))",
  "SUBSCRIPT_SMALL_LETTER(A E H I J K L M N O P R S SCHWA T U V X)) LEFT(CEILING FLOOR LUGGAGE",
  "MULTIMAP TACK AND(LOWER(AND_RIGHT_TRIANGULAR_THREE_QUARTERS_BLOCK ONE_EIGHTH_BLOCK) RIGHT(TACK",
  "DOUBLE_TURNSTILE TRIANGULAR_HALF_BLOCK) UPPER(AND_RIGHT_TRIANGULAR_THREE_QUARTERS_BLOCK",
  "ONE_EIGHTH_BLOCK)) ANGER_BUBBLE ANGLE_BRACKET(. WITH_DOT) ARC_LESS-THAN_BRACKET",
  "ARROW_WITH(CIRCLED_PLUS SMALL_CIRCLE) BARB(DOWN_RIGHT_BARB(DOWN_HARPOON UP_HARPOON)",
  "UP_RIGHT_BARB(DOWN_HARPOON UP_HARPOON)) BLACK(LENTICULAR_BRACKET TORTOISE_SHELL_BRACKET)",
  "CLOSED_ENTRY CORNER_BRACKET CURLY_BRACKET(. LOWER_HOOK MIDDLE_PIECE UPPER_HOOK)",
  "DOTTED_SUBSTITUTION_BRACKET DOUBLE(PARENTHESIS ANGLE_BRACKET QUOTATION_MARK WIGGLY_FENCE)",
  "FISH_TAIL FIVE_EIGHTHS_BLOCK HALF(BLOCK FOLDER BLACK(CIRCLE STAR) CIRCLE(. WITH(DOT FOUR_DOTS",
  "THREE_DOTS TWO_DOTS)) INVERSE_MEDIUM_SHADE_AND_RIGHT_HALF_BLOCK MEDIUM_SHADE RUNNING_MAN)",
  "HAND_TELEPHONE_RECEIVER LOW_PARAPHRASE_BRACKET NORMAL_FACTOR_SEMIDIRECT_PRODUCT",
  "ONE(EIGHTH_BLOCK QUARTER_BLOCK) OUTER_JOIN PARENTHESIS(. EXTENSION LOWER_HOOK UPPER_HOOK)",
  "RAISED_OMISSION_BRACKET RIGHT(ARROW(. THROUGH_SMALL_CIRCLE WITH(STROKE DOUBLE_VERTICAL_STROKE",
  "VERTICAL_STROKE)) BLACK_ARROW DOUBLE_ARROW(. WITH(STROKE VERTICAL_STROKE)) OPEN-HEADED_ARROW",
  "SANS-SERIF_ARROW TRIANGLE-HEADED_ARROW WAVE_ARROW WHITE_ARROW) S-SHAPED_BAG_DELIMITER",
  "SEMIDIRECT_PRODUCT SEVEN_EIGHTHS_BLOCK SIDEWAYS_U_BRACKET SINGLE_QUOTATION_MARK SPEECH_BUBBLE",
  "SQUARE_BRACKET(. EXTENSION LOWER_CORNER UPPER_CORNER WITH(QUILL STROKE UNDERBAR DOUBLE_STROKE",
  "TICK_IN(BOTTOM_CORNER TOP_CORNER))) SUBSTITUTION_BRACKET THIRD_WHITE_RIGHT_POINTING_INDEX",
  "THOUGHT_BUBBLE THREE(EIGHTHS_BLOCK QUARTERS_BLOCK) TORTOISE_SHELL_BRACKET",
  "TRANSPOSITION_BRACKET TRIANGLE_BESIDE_VERTICAL_BAR TRIANGULAR_ONE_QUARTER_BLOCK",
  "VERTICAL(BAR_WITH_QUILL BOX_LINE) WHITE(PARENTHESIS CORNER_BRACKET CURLY_BRACKET",
  "LENTICULAR_BRACKET SQUARE_BRACKET TORTOISE_SHELL_BRACKET) WIGGLY_FENCE WRITING_HAND)",
  "LEFT-FACING(FIST ARMENIAN_ETERNITY_SIGN SVASTI_SIGN(. WITH_DOTS)) LEFT-POINTING(ANGLE_BRACKET",
  "CURVED_ANGLE_BRACKET DOUBLE_ANGLE_QUOTATION_MARK MAGNIFYING_GLASS) LEFT-TO-RIGHT(EMBEDDING",
  "ISOLATE MARK OVERRIDE) LEFTWARDS(ARROW-TAIL HAND ROCKET ARROW(. ABOVE(ALMOST_EQUAL_TO",
  "REVERSE(ALMOST_EQUAL_TO TILDE_OPERATOR) SHORT_RIGHTWARDS_ARROW TILDE_OPERATOR)",
  "AND_UPPER_AND_LOWER_ONE_EIGHTH_BLOCK FROM_BAR(. TO_BLACK_DIAMOND) OVER_RIGHTWARDS_ARROW",
  "THROUGH(LESS-THAN SUBSET X) TO(BAR(. OVER_RIGHTWARDS_ARROW_TO_BAR) BLACK_DIAMOND) WITH(HOOK",
  "LOOP STROKE DOTTED_STEM DOUBLE_VERTICAL_STROKE EQUILATERAL_ARROWHEAD LARGE_TRIANGLE_ARROWHEAD",
  "MEDIUM_TRIANGLE_ARROWHEAD NOTCHED_TAIL PLUS_BELOW SMALL(EQUILATERAL_ARROWHEAD",
  "TRIANGLE_ARROWHEAD) TAIL(. WITH(DOUBLE_VERTICAL_STROKE VERTICAL_STROKE)) TIP(DOWNWARDS",
  "UPWARDS) VERTICAL_STROKE)) BACK-TILTED_SHADOWED_WHITE_ARROW BLACK(ARROW CIRCLED_WHITE_ARROW)",
  "BOTTOM-SHADED_WHITE_ARROW COMPRESSED_ARROW DASHED_ARROW DOUBLE(ARROW-TAIL ARROW(. FROM_BAR",
  "WITH(STROKE VERTICAL_STROKE)) DASH_ARROW) FINGER-POST_ARROW FRONT-TILTED_SHADOWED_WHITE_ARROW",
  "HARPOON(OVER_RIGHTWARDS_HARPOON WITH_BARB(DOWNWARDS UPWARDS",
  "DOWN(ABOVE_RIGHTWARDS_HARPOON_WITH_BARB_DOWN BELOW_LONG_DASH FROM_BAR TO_BAR)",
  "UP(ABOVE(LEFTWARDS_HARPOON_WITH_BARB_DOWN LONG_DASH RIGHTWARDS_HARPOON_WITH_BARB_UP) FROM_BAR",
  "TO_BAR))) HEAVY(ARROW COMPRESSED_ARROW) LEFT-SHADED_WHITE_ARROW OPEN-HEADED_ARROW",
  "PAIRED_ARROWS QUADRUPLE_ARROW RIGHT-SHADED_WHITE_ARROW SANS-SERIF_ARROW SQUARED_ARROW",
  "SQUIGGLE_ARROW TOP_SHADED_WHITE_ARROW TRIANGLE_ARROWHEAD TRIANGLE-HEADED(ARROW(.",
  "OVER_RIGHTWARDS_TRIANGLE-HEADED_ARROW TO_BAR WITH(BOLD_SHAFT DOUBLE(HORIZONTAL_STROKE",
  "VERTICAL_STROKE) HEAVY_SHAFT LONG_TIP(DOWNWARDS UPWARDS) MEDIUM_SHAFT NARROW_SHAFT",
  "VERY_HEAVY_SHAFT)) DASHED_ARROW PAIRED_ARROWS) TRIPLE(ARROW DASH_ARROW) TWO_HEADED_ARROW",
  "TWO-HEADED(ARROW(FROM_BAR WITH(DOUBLE_VERTICAL_STROKE TAIL(. WITH(DOUBLE_VERTICAL_STROKE",
  "VERTICAL_STROKE)) TRIANGLE_ARROWHEADS VERTICAL_STROKE)) TRIPLE_DASH_ARROW) WAVE_ARROW",
  "WHITE_ARROW(. WITHIN_TRIANGLE_ARROWHEAD)) LEPCHA(CONSONANT_SIGN(K KANG L M N NYIN-DO P R T)",
  "DIGIT(EIGHT FIVE FOUR NINE ONE SEVEN SIX THREE TWO ZERO) LETTER(A BA BLA CA CHA DA DDA DZA FA",
  "FLA GA GLA HA HLA JA KA KHA KLA LA MA MLA NA NGA NYA PA PHA PLA RA SA SHA TA THA TSA TSHA TTA",
  "TTHA VA WA YA) PUNCTUATION(CER-WA TA-ROL NYET_THYOOM_TA-ROL TSHOOK(. CER-WA)) SIGN(NUKTA RAN)",
  "SUBJOINED_LETTER(RA YA) VOWEL_SIGN(AA E I O OO U UU)) LESS-THAN(SIGN",
  "ABOVE(DOUBLE-LINE_EQUAL_ABOVE_GREATER-THAN GREATER-THAN_ABOVE_DOUBLE-LINE_EQUAL",
  "LEFTWARDS_ARROW SIMILAR(ABOVE_GREATER-THAN OR_EQUAL)",
  "SLANTED_EQUAL_ABOVE_GREATER-THAN_ABOVE_SLANTED_EQUAL) AND(NOT_APPROXIMATE",
  "SINGLE-LINE_NOT_EQUAL_TO) BUT_NOT(EQUAL_TO EQUIVALENT_TO) CLOSED_BY_CURVE(.",
  "ABOVE_SLANTED_EQUAL) EQUAL_TO_OR_GREATER-THAN OR(APPROXIMATE GREATER-THAN EQUAL_TO",
  "EQUIVALENT_TO SLANTED_EQUAL_TO(. WITH_DOT(INSIDE ABOVE(. RIGHT)))) OVER_EQUAL_TO WITH(DOT",
  "CIRCLE_INSIDE QUESTION_MARK_ABOVE)) LIGHT(RAIL SALTIRE SHADE CHECK_MARK EIGHT_SPOKED_ASTERISK",
  "FIVE(POINTED_BLACK_STAR SPOKED_ASTERISK) FOUR_POINTED_BLACK(CUSP STAR) GREEK_CROSS",
  "LEFT_TORTOISE_SHELL_BRACKET_ORNAMENT RIGHT_TORTOISE_SHELL_BRACKET_ORNAMENT SIX_SPOKED_ASTERISK",
  "THREE_POINTED_BLACK_STAR TWELVE_POINTED_BLACK_STAR VERTICAL_BAR WHITE_SQUARE) LIGHTNING(.",
  "MOOD(. BUBBLE)) LIMBU(DIGIT(EIGHT FIVE FOUR NINE ONE SEVEN SIX THREE TWO ZERO)",
  "EXCLAMATION_MARK LETTER(BA BHA CA CHA DA DHA GA GHA GYAN HA JA JHA KA KHA LA MA NA NGA PA PHA",
  "RA SA SHA SSA TA THA TRA WA YA YAN) QUESTION_MARK SIGN(KEMPHRENG LOO MUKPHRENG SA-I)",
  "SMALL_LETTER(ANUSVARA KA LA MA NA NGA PA RA TA) SUBJOINED_LETTER(RA WA YA) VOWEL_SIGN(A AI AU",
  "E EE I O OO U) VOWEL-CARRIER_LETTER) LINE(FEED SEPARATOR INTEGRATION(NOT_INCLUDING_THE_POLE",
  "WITH(RECTANGULAR_PATH_AROUND_POLE SEMICIRCULAR_PATH_AROUND_POLE)) TABULATION(. SET))",
  "LINEAR(A_SIGN(A028B A120B A131C A309A A309B A309C A313A A313B A313C A400-VAS A401-VAS A402-VAS",
  "A403-VAS A404-VAS A405-VAS A406-VAS A407-VAS A408-VAS A409-VAS A410-VAS A411-VAS A412-VAS",
  "A413-VAS A414-VAS A415-VAS A416-VAS A417-VAS A418-VAS AB021F AB021M AB022F AB022M AB023M",
  "AB131A AB131B A100-102 A301~308 A310~312 A314~371 A501~506 A508~513 A515 A516 A520 A521",
  "A523~532 A534~542 A545 A547~557 A559 A563~566 A568~589 A591 A592 A594~596 A598 A600~604 A606",
  "A608~624 A626~629 A634 A637 A638 A640 A642~646 A648 A649 A651~664 A800~807 AB001~011 AB013",
  "AB016 AB017 AB020~024 AB026~031 AB034 AB037~041 AB044~051 AB053~061 AB065~067 AB069 AB070",
  "AB073 AB074 AB076~082 AB085~087 AB118 AB120 AB122 AB123 AB164 AB171 AB180 AB188 AB191 A701_A",
  "A702_B A703_D A704_E A705_F A706_H A707_J A708_K A709_L A709-2_L2 A709-3_L3 A709-4_L4",
  "A709-6_L6 A710_W A711_X A712_Y A713_OMEGA A714_ABB A715_BB A717_DD A726_EYYY A732_JE)",
  "B(IDEOGRAM(B132 B142 B146 B150 B152~154 B157 B158 B160 B161 B164~172 B174 B177~185 B189 B190",
  "B232 B234 B236 B245 B246 B248 B249 B251~253 B255~259 B100_MAN B102_WOMAN B104_DEER B105_EQUID",
  "B105F_MARE B105M_STALLION B106F_EWE B106M_RAM B107F_SHE-GOAT B107M_HE-GOAT B108F_SOW",
  "B108M_BOAR B109F_COW B109M_BULL B120_WHEAT B121_BARLEY B122_OLIVE B123_SPICE B125_CYPERUS",
  "B130_OIL B131_WINE B140_BRONZE B141_GOLD B145_WOOL B151_HORN B159_CLOTH B162_GARMENT",
  "B163_ARMOUR B173_MONTH B176_TREE B191_HELMET B220_FOOTSTOOL B225_BATHTUB B230_SPEAR B231_ARROW",
  "B233_SWORD B240_WHEELED_CHARIOT B241_CHARIOT B242_CHARIOT_FRAME B243_WHEEL B254_DART",
  "VESSEL(B155 B200~219 B221 B222 B226~229 B250 B305)) MONOGRAM(B127_KAPO B128_KANAKO B133_AREPA",
  "B135_MERI B156_TURO2 B247_DIPTE) SYLLABLE(B001_DA B002_RO B003_PA B004_TE B005_TO B006_NA",
  "B007_DI B008_A B009_SE B010_U B011_PO B012_SO B013_ME B014_DO B015_MO B016_QA B017_ZA B020_ZO",
  "B021_QI B023_MU B024_NE B025_A2 B026_RU B027_RE B028_I B029_PU2 B030_NI B031_SA B032_QO",
  "B033_RA3 B036_JO B037_TI B038_E B039_PI B040_WI B041_SI B042_WO B043_A3 B044_KE B045_DE",
  "B046_JE B048_NWA B050_PU B051_DU B052_NO B053_RI B054_WA B055_NU B057_JA B058_SU B059_TA",
  "B060_RA B061_O B062_PTE B065_JU B066_TA2 B067_KI B068_RO2 B069_TU B070_KO B071_DWE B072_PE",
  "B073_MI B074_ZE B075_WE B076_RA2 B077_KA B078_QE B080_MA B081_KU B085_AU B087_TWE B090_DWO",
  "B091_TWO) SYMBOL(B018 B019 B022 B034 B047 B049 B056 B063 B064 B079 B082 B083 B086 B089)))",
  "LISU(LETTER(A AE BA CA CHA DA DZA E EU FA GA GHA HA HHA I JA KA KHA LA MA NA NGA O OE PA PHA",
  "SA SHA TA THA TSA TSHA U UE UH WA XA YA YHA ZA ZHA TONE(MYA(BO CYA JEU NA TI) NA_PO))",
  "PUNCTUATION(COMMA FULL_STOP)) LOCK(. WITH_INK_PEN) LOCKING-SHIFT(ONE ZERO) LOGICAL(AND(.",
  "WITH(UNDERBAR DOT_ABOVE DOUBLE(OVERBAR UNDERBAR) HORIZONTAL_DASH MIDDLE_STEM)) OR(.",
  "OVERLAPPING_LOGICAL_AND WITH(DOT_ABOVE DOUBLE(OVERBAR UNDERBAR) HORIZONTAL_DASH MIDDLE_STEM)))",
  "LONG(DIVISION DRUM DASH_FROM_LEFT_MEMBER_OF_DOUBLE_VERTICAL LEFT(TACK RIGHT(ARROW",
  "DOUBLE_ARROW)) LEFTWARDS(ARROW(. FROM_BAR) DOUBLE_ARROW(. FROM_BAR) SQUIGGLE_ARROW) RIGHT_TACK",
  "RIGHTWARDS(ARROW(. FROM_BAR) DOUBLE_ARROW(. FROM_BAR) SQUIGGLE_ARROW)) LOVE(HOTEL LETTER)",
  "LOW(ASTERISK BATTERY LINE BRIGHTNESS_SYMBOL DOUBLE_PRIME_QUOTATION_MARK KAVYKA(. WITH_DOT))",
  "LOWER(BLADE_SCISSORS FIVE_EIGHTHS_BLOCK HALF(BLOCK CIRCLE INVERSE_WHITE_CIRCLE MEDIUM_SHADE)",
  "LEFT(CRAYON PAINTBRUSH PENCIL TRIANGLE BALLPOINT_PEN",
  "BLOCK_DIAGONAL(LOWER_MIDDLE_LEFT_TO_LOWER(CENTRE RIGHT) UPPER(CENTRE_TO(LOWER(RIGHT",
  "MIDDLE_RIGHT) UPPER_MIDDLE_RIGHT) LEFT_TO(LOWER(CENTRE MIDDLE_RIGHT) UPPER_MIDDLE_RIGHT)",
  "MIDDLE_LEFT_TO_LOWER(CENTRE RIGHT MIDDLE_RIGHT))) FOUNTAIN_PEN QUADRANT_CIRCULAR_ARC",
  "SEMICIRCULAR_ANTICLOCKWISE_ARROW TRIANGULAR_MEDIUM_SHADE) ONE(EIGHTH_BLOCK QUARTER_BLOCK)",
  "RIGHT(PENCIL TRIANGLE BLOCK_DIAGONAL(LOWER(CENTRE_TO(LOWER_MIDDLE_RIGHT UPPER(RIGHT",
  "MIDDLE_RIGHT)) LEFT_TO(LOWER_MIDDLE_RIGHT UPPER(CENTRE MIDDLE_RIGHT))",
  "MIDDLE_LEFT_TO_UPPER(CENTRE RIGHT MIDDLE_RIGHT)) UPPER_MIDDLE_LEFT_TO_UPPER(CENTRE RIGHT))",
  "CORNER_WITH_DOT DROP-SHADOWED_WHITE_SQUARE QUADRANT_CIRCULAR_ARC SEMICIRCULAR_CLOCKWISE_ARROW",
  "SHADOWED_WHITE(CIRCLE SQUARE) TRIANGULAR_MEDIUM_SHADE) SEVEN_EIGHTHS_BLOCK THREE(EIGHTHS_BLOCK",
  "QUARTERS_BLOCK) TRIANGULAR_ONE_QUARTER_BLOCK) LOZENGE(. DIVIDED_BY_HORIZONTAL_RULE)",
  "LYCIAN_LETTER(A AN B BH D E EN G H I J K KK L M MM N NN P Q R S T TH TT U W X Z)",
  "LYDIAN(LETTER(A AN B C D E EN F G I K L LY M N NN O Q R S SS T TT U V Y) TRIANGULAR_MARK)"]

end MacroStubs.Text.CharacterNames
