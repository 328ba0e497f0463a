/-! # Character names from S to Z

Names that begin with a letter from S to Z, written as described in `Text/CharacterName`.
-/

namespace MacroStubs.Text.CharacterNames

def initialSToZ : List String := [
  "SAGITTARIUS SAILBOAT SALTIRE SANDWICH SARI SATURN SAUROPOD SAXOPHONE SCALES SCARF SCI SCOOTER",
  "SCORPION SCORPIUS SCREEN SCREWDRIVER SCROLL SCRUPLE SEAL SEAT SECTOR SEDNA SEEDLING SEGMENT",
  "SELFIE SEMICOLON SEMISEXTILE SESQUIQUADRATE SEXTILE SGC SHAMROCK SHARK SHEEP SHIELD SHIP",
  "SHORTCAKE SHORTS SHOWER SHRIMP SHRUG SHY SI SKATEBOARD SKIER SKUNK SLED SLOPE SLOTH SMILE",
  "SNAIL SNAKE SNOWBOARDER SNOWFLAKE SO SOCKS SOFTBALL SOH SOS SP SPA SPACE SPAGHETTI SPARKLE",
  "SPARKLES SPEEDBOAT SPONGE SPOON SQUID SSA ST STADIUM STATION STETHOSCOPE STOPWATCH",
  "STRAIGHTNESS STRAWBERRY STS STUPA STX SUB SUBSTITUTE SUNFLOWER SUPERHERO SUPERVILLAIN SURFER",
  "SUSHI SWAN SWIMMER SYMMETRY SYN SYNAGOGUE SYRINGE T-REX T-SHIRT TAB TACO TAMALE TANGERINE",
  "TAURUS TAXI TEAPOT TELESCOPE TELEVISION TENT THEREFORE THERMODYNAMIC THERMOMETER THUNDERSTORM",
  "TICKET TOILET TOMATO TONGUE TOOLBOX TOOTH TOOTHBRUSH TRACKBALL TRACTOR TRAIN TRANSPLUTO",
  "TRICOLON TROLL TROLLEYBUS TROPHY TRUMPET TULIP TURKEY TURTLE UNDERTIE URANUS US VAMPIRE",
  "VERSICLE VESTA VIDEOCASSETTE VIOLIN VIRGO VOLCANO VOLLEYBALL VT VTS VULCANUS WAFFLE",
  "WASTEBASKET WATCH WATERMELON WEDDING WHALE WINDOW WJ WOOD WORM WRENCH WRESTLERS X-RAY XOR",
  "YO-YO ZEUS ZOMBIE ZWJ ZWNBSP ZWNJ ZWSP SINGLE-SHIFT-2 SINGLE-SHIFT-3 SS2 SS3 VS1~9 VS10~99",
  "VS100~256 S_IN_TRIANGLE SAKE_BOTTLE_AND_CUP SALT_SHAKER SALUTING_FACE SECOND_PLACE_MEDAL",
  "SECTION_SIGN SEE-NO-EVIL_MONKEY SEMIDIRECT_PRODUCT_WITH_BOTTOM_CLOSED SEPARATED_SYMBOL",
  "SERIOUS_FACE_WITH_SYMBOLS_COVERING_MOUTH SERVICE_MARK SESAME_DOT SEWING_NEEDLE",
  "SHALLOW_PAN_OF_FOOD SHAVED_ICE SHINTO_SHRINE SHOCKED_FACE_WITH_EXPLODING_HEAD SHOOTING_STAR",
  "SHOULDERED_OPEN_BOX SHUFFLE_PRODUCT SIGN_OF_THE_HORNS SILHOUETTE_OF_JAPAN SINE_WAVE",
  "SIX-PER-EM_SPACE SIXTEEN_POINTED_ASTERISK SKI_AND_SKI_BOOT SLAVONIC_ASTERISK SLEEPY_FACE",
  "SLEUTH_OR_SPY SLICE_OF_PIZZA SLOT_MACHINE SMASH_PRODUCT SMIRKING_FACE SMOKING_SYMBOL",
  "SNEEZING_FACE SNOW_CAPPED_MOUNTAIN SOCCER_BALL SOFTWARE-FUNCTION_SYMBOL SOM_SIGN",
  "SOON_WITH_RIGHTWARDS_ARROW_ABOVE SOUND_RECORDING_COPYRIGHT SPARKLING_HEART",
  "SPEAK-NO-EVIL_MONKEY SPEAKING_HEAD_IN_SILHOUETTE SPEECH_BALLOON SPESMILO_SIGN",
  "SPLASHING_SWEAT_SYMBOL SPOOL_OF_THREAD SPORTS_MEDAL SPOUTING_WHALE",
  "SQUAT_BLACK_RIGHTWARDS_ARROW STAMPED_ENVELOPE STANDING_PERSON STATUE_OF_LIBERTY",
  "STEAM_LOCOMOTIVE STEAMING_BOWL STENOGRAPHIC_FULL_STOP STOCK_CHART STRAIGHT_RULER",
  "STRESS_OUTLINED_WHITE_STAR STRICTLY_EQUIVALENT_TO STRING_TERMINATOR STUDIO_MICROPHONE",
  "STUFFED_FLATBREAD SUNSET_OVER_BUILDINGS SURFACE_INTEGRAL SUSPENSION_RAILWAY",
  "SWASH_AMPERSAND_ORNAMENT SWUNG_DASH SYNCHRONOUS_IDLE TABLE_TENNIS_PADDLE_AND_BALL TAKEOUT_BOX",
  "TANABATA_TREE TEACUP_WITHOUT_HANDLE TEAR-OFF_CALENDAR TEARDROP-BARBED_RIGHTWARDS_ARROW",
  "TEARDROP-SPOKED_ASTERISK TEDDY_BEAR TENGE_SIGN TENNIS_RACQUET_AND_BALL TEST_TUBE THINKING_FACE",
  "THIRD_PLACE_MEDAL THONG_SANDAL THOUGHT_BALLOON THREE-EM_DASH THREE-PER-EM_SPACE",
  "THUNDER_CLOUD_AND_RAIN TIE_OVER_INFINITY TIGHT_TRIFOLIATE_SNOWFLAKE TIMER_CLOCK TIRED_FACE",
  "TOKYO_TOWER TOTAL_RUNOUT TRADE_MARK_SIGN TRANSVERSAL_INTERSECTION",
  "TRIANGLE-HEADED_RIGHTWARDS_ARROW TRIDENT_EMBLEM TUGRIK_SIGN TUMBLER_GLASS TURKISH_LIRA_SIGN",
  "TWELVE_POINTED_BLACK_STAR TWISTED_RIGHTWARDS_ARROWS TWO-EM_DASH UNAMUSED_FACE UNCERTAINTY_SIGN",
  "UNDO_SYMBOL UNICORN_FACE UNIT_SEPARATOR UNITED_SYMBOL UNIVERSAL_RECYCLING_SYMBOL",
  "UNMARRIED_PARTNERSHIP_SYMBOL UPSIDE-DOWN_FACE VECTOR_OR_CROSS_PRODUCT VIBRATION_MODE",
  "VICTORY_HAND VIEWDATA_SQUARE VOIDED_GREEK_CROSS VOLUME_INTEGRAL WARNING_SIGN",
  "WEDGE-TAILED_RIGHTWARDS_ARROW WEIERSTRASS_ELLIPTIC_FUNCTION WEIGHT_LIFTER WEST_SYRIAC_CROSS",
  "WHEELCHAIR_SYMBOL WHITE-FEATHERED_RIGHTWARDS_ARROW WIGGLY_VERTICAL_LINE WILTED_FLOWER",
  "WINE_GLASS WINKING_FACE WIRED_KEYBOARD WOLF_FACE WOMENS_SYMBOL WON_SIGN WORLD_MAP WORRIED_FACE",
  "WRAPPED_PRESENT WREATH_PRODUCT WRITING_HAND X_IN_A_RECTANGLE_BOX YAWNING_FACE YELLOW_HEART",
  "YEN_SIGN YIN_YANG ZEBRA_FACE ZIPPER-MOUTH_FACE SAFETY(PIN VEST) SAMARITAN(ABBREVIATION_MARK",
  "LETTER(ALAF BAA BIT DALAT FI GAMAN IN IT IY KAAF LABAT MIM NUN QUF RISH SHAN SINGAAT TAAF TIT",
  "TSAADIY YUT ZEN) MARK(DAGESH IN IN-ALAF NEQUDAA OCCLUSION EPENTHETIC_YUT) MODIFIER_LETTER(I",
  "EPENTHETIC_YUT SHORT_A) PUNCTUATION(AFSAAQ ANGED ANNAAU ARKAANU ATMAAU BAU NEQUDAA QITSA",
  "SHIYYAALAA TURU ZAEF ZIQAA MELODIC_QITSA SOF_MASHFAAT) VOWEL_SIGN(A AA E I O SUKUN U LONG(A AA",
  "E I U) OVERLONG(A AA) SHORT_A)) SANS-SERIF(HEAVY(DOUBLE(COMMA_QUOTATION_MARK_ORNAMENT",
  "TURNED_COMMA_QUOTATION_MARK_ORNAMENT) LOW_DOUBLE_COMMA_QUOTATION_MARK_ORNAMENT)",
  "INTERROBANG_ORNAMENT) SATELLITE(. ANTENNA) SAURASHTRA(DANDA CONSONANT_SIGN_HAARU DIGIT(EIGHT",
  "FIVE FOUR NINE ONE SEVEN SIX THREE TWO ZERO) DOUBLE_DANDA LETTER(A AA AI AU BA BHA CA CHA DA",
  "DDA DDHA DHA E EE GA GHA HA I II JA JHA KA KHA LA LLA MA NA NGA NNA NYA O OO PA PHA RA SA SHA",
  "SSA TA THA TTA TTHA U UU VA YA VOCALIC(L LL R RR)) SIGN(ANUSVARA CANDRABINDU VIRAMA VISARGA)",
  "VOWEL_SIGN(AA AI AU E EE I II O OO U UU VOCALIC(L LL R RR))) SCHOOL(. SATCHEL)",
  "SCRIPT(CAPITAL(B E F H I L M P R) LIGATURE_ET_ORNAMENT SMALL(E G L O)) SEGMENTED_DIGIT(EIGHT",
  "FIVE FOUR NINE ONE SEVEN SIX THREE TWO ZERO) SET(MINUS TRANSMIT_STATE) SHADOWED_WHITE(CIRCLE",
  "STAR LATIN_CROSS) SHARADA(DANDA EKAM HEADSTROKE OM SEPARATOR ABBREVIATION_SIGN",
  "CONTINUATION_SIGN DIGIT(EIGHT FIVE FOUR NINE ONE SEVEN SIX THREE TWO ZERO) DOUBLE_DANDA",
  "EXTRA_SHORT_VOWEL_MARK LETTER(A AA AI AU BA BHA CA CHA DA DDA DDHA DHA E GA GHA HA I II JA JHA",
  "KA KHA LA LLA MA NA NGA NNA NYA O PA PHA RA SA SHA SSA TA THA TTA TTHA U UU VA YA VOCALIC(L LL",
  "R RR)) SANDHI_MARK SECTION(MARK-1 MARK-2) SIGN(ANUSVARA AVAGRAHA CANDRABINDU JIHVAMULIYA NUKTA",
  "SIDDHAM UPADHMANIYA VIRAMA VISARGA INVERTED_CANDRABINDU) SUTRA_MARK VOWEL(MODIFIER_MARK",
  "SIGN(AA AI AU E I II O U UU PRISHTHAMATRA_E VOCALIC(L LL R RR)))) SHAVIAN_LETTER(ADO AGE AH",
  "AIR ARE ARRAY ASH AWE BIB CHURCH DEAD EAR EAT EGG ERR FEE GAG HA-HA HUNG IAN ICE IF JUDGE KICK",
  "LOLL MEASURE MIME NUN OAK OIL ON OOZE OR OUT PEEP ROAR SO SURE THEY THIGH TOT UP VOW WOE WOOL",
  "YEA YEW ZOO) SHIFT(IN OUT) SHOPPING(BAGS TROLLEY) SHORT(BACKSLANTED_SOUTH_ARROW",
  "BENT_ARROW_POINTING_DOWNWARDS_THEN_NORTH_EAST DOWN_TACK(. WITH_OVERBAR) LEFT_TACK",
  "RIGHTWARDS_ARROW_ABOVE_LEFTWARDS_ARROW SLANTED_NORTH_ARROW UP_TACK(. ABOVE_SHORT_DOWN_TACK",
  "WITH_UNDERBAR)) SHORTHAND_FORMAT(CONTINUING_OVERLAP DOWN_STEP LETTER_OVERLAP UP_STEP)",
  "SIDDHAM(DANDA DOUBLE_DANDA END_OF_TEXT_MARK LETTER(A AA AI AU BA BHA CA CHA DA DDA DDHA DHA E",
  "GA GHA HA I II JA JHA KA KHA LA MA NA NGA NNA NYA O PA PHA RA SA SHA SSA TA THA TTA TTHA U UU",
  "VA YA ALTERNATE_U THREE-CIRCLE_ALTERNATE_I TWO-CIRCLE_ALTERNATE(I II) VOCALIC(L LL R RR))",
  "REPETITION(MARK-1~3) SECTION_MARK(DOUBLE_RING(. WITH_RAYS) WITH(CIRCLES_AND(RAYS",
  "FOUR_ENCLOSURES TWO_ENCLOSURES) DOUBLE_CRESCENTS QUADRUPLE_CRESCENTS RAYS_AND_DOTTED(CRESCENTS",
  "DOUBLE_CRESCENTS TRIPLE_CRESCENTS) SEPTUPLE_CRESCENTS TRIDENT_AND(DOTTED_CRESCENTS",
  "U-SHAPED_ORNAMENTS) TRIPLE_CRESCENTS)) SEPARATOR(BAR DOT) SIGN(ANUSVARA CANDRABINDU NUKTA",
  "SIDDHAM VIRAMA VISARGA) VOWEL_SIGN(AA AI AU E I II O U UU ALTERNATE(U UU) VOCALIC(R RR)))",
  "SIDEWAYS(BLACK(DOWN_POINTING_INDEX LEFT_POINTING_INDEX RIGHT_POINTING_INDEX UP_POINTING_INDEX)",
  "WHITE(DOWN_POINTING_INDEX LEFT_POINTING_INDEX RIGHT_POINTING_INDEX UP_POINTING_INDEX))",
  "SIGNWRITING(COLON COMMA EARS EXCITEMENT FINGER HAIR NECK PARENTHESIS SEMICOLON",
  "AIR(BLOW_SMALL_ROTATIONS BLOWING_OUT SUCK_SMALL_ROTATIONS SUCKING_IN) BREATH(EXHALE INHALE)",
  "BRUSH(BETWEEN MULTIPLE SINGLE) CHEEKS(NEUTRAL PUFFED SUCKED) DREAMY_EYEBROWS(DOWN_NEUTRAL",
  "NEUTRAL(DOWN UP) UP_NEUTRAL) DYNAMIC(FAST GRADUAL RELAXED SLOW TENSE ARROWHEAD(LARGE SMALL)",
  "EVERY_OTHER_TIME SIMULTANEOUS(. ALTERNATING)) EYE(WINK BLINK(MULTIPLE SINGLE))",
  "EYEBROWS_STRAIGHT(DOWN NEUTRAL UP) EYEGAZE-FLOORPLANE(CURVED STRAIGHT(. ALTERNATING DOUBLE))",
  "EYEGAZE-WALLPLANE(CIRCLING CURVED STRAIGHT(. ALTERNATING DOUBLE)) EYELASHES(DOWN FLUTTERING",
  "UP) EYES(CLOSED OPEN SQUEEZED HALF(CLOSED OPEN) WIDE_OPEN WIDENING_MOVEMENT)",
  "FACE_DIRECTION_POSITION_NOSE(FORWARD_TILTING UP_OR_DOWN(. TILTING)) FILL(MODIFIER-2~6)",
  "FLICK(SEQUENTIAL LARGE(MULTIPLE SINGLE) SMALL(MULTIPLE SINGLE)) FLOORPLANE_SHOULDER_HIP_MOVE",
  "FOREHEAD(CONTACT NEUTRAL WRINKLED) FULL_STOP GRASP(BETWEEN MULTIPLE SINGLE) HAND-ANGLE(.",
  "INDEX(. MIDDLE(LITTLE RING) RING_LITTLE(. OUT) THUMB(. IN OUT)) LITTLE(UP INDEX(.",
  "THUMB_INDEX_THUMB(. OUT))) MIDDLE_RING_LITTLE(. IN OUT) RING(LITTLE",
  "DOWN_MIDDLE_THUMB_INDEX_CROSS)) HAND-CIRCLE(. INDEX(. BENT HINGE MIDDLE(. CROSSED LITTLE RING",
  "THUMB CROSS_LITTLE) RING_LITTLE) LITTLE(INDEX UP) MIDDLE(UP RING_LITTLE(. BENT)) RING_LITTLE)",
  "HAND-CLAW(. FOUR_FINGERS_CONJOINED INDEX_THUMB_CURVE_THUMB_INSIDE",
  "MIDDLE_RING_LITTLE_CONJOINED(. SIDE) NO_THUMB THUMB(FORWARD SIDE)) HAND-CUP(.",
  "FIVE_FINGERS_SPREAD(. OPEN) INDEX(. RING_LITTLE THUMB(. OPEN)) MIDDLE_RING_LITTLE NO_THUMB",
  "OPEN(. NO_THUMB THUMB(FORWARD SIDE)) THUMB(FORWARD SIDE)) HAND-CURLICUE(. OPEN",
  "INDEX_RING_LITTLE_ON MIDDLE_RING_LITTLE_ON) HAND-FIST(. HEEL FOUR_FINGERS_CONJOINED_BENT",
  "INDEX(. CUPPED BENT(. OVER_MIDDLE) HINGED(. LOW MIDDLE_UP(. THUMB_SIDE)) MIDDLE(. LITTLE",
  "BENT(. THUMB_STRAIGHT) CONJOINED(. CUPPED(. THUMB_FORWARD) HINGED(. THUMB_SIDE) INDEX_BENT",
  "MIDDLE_BENT THUMB(FORWARD SIDE(. BENT CONJOINED))) CROSS_LITTLE CROSSED(. THUMB_SIDE) HINGED(.",
  "SPREAD_THUMB_SIDE) RAISED_KNUCKLES RING(. BENT CONJOINED) STRAIGHT_THUMB_BENT THUMB(. BENT",
  "CIRCLED CUPPED HINGED HOOKED ANGLED(. OUT) CONJOINED_HINGED) UP_SPREAD_THUMB_FORWARD)",
  "RAISED_KNUCKLE RING_LITTLE THUMB(CIRCLE CURLICUE HOOK ANGLED(IN_MIDDLE_UP OUT_MIDDLE_UP)",
  "CIRCLED_MIDDLE_UP CUPPED_MIDDLE_UP CURVE_THUMB(INSIDE UNDER) FORWARD_INDEX(BENT STRAIGHT)",
  "HOOKED_MIDDLE(HINGED UP) SIDE(. BOTH_BENT INDEX(BENT HINGE) THUMB(BENT CONJOINED DIAGONAL)))",
  "UP_MIDDLE_HINGED(. THUMB(CONJOINED SIDE))) LITTLE(BENT THUMB UP DOWN(. OTHERS_CIRCLED",
  "RIPPLE(CURVED STRAIGHT)) INDEX(. THUMB) RAISED_KNUCKLE TOUCHES_THUMB) MIDDLE(DOWN LITTLE",
  "BENT_OVER_INDEX RAISED_KNUCKLE RING_LITTLE THUMB(LITTLE ANGLED(INDEX_UP OUT_INDEX(CROSSED UP))",
  "CIRCLED_INDEX(HINGED UP) CUPPED_INDEX_UP HOOKED_INDEX_UP) UP(. THUMB_SIDE)) RING(DOWN INDEX",
  "LITTLE THUMB UP MIDDLE(. CONJOINED RAISED_KNUCKLES) RAISED_KNUCKLE) THUMB(. FORWARD HEEL",
  "BETWEEN(INDEX_MIDDLE(. STRAIGHT) MIDDLE_RING RING_LITTLE) OVER(FOUR_RAISED_KNUCKLES",
  "TWO_FINGERS) SIDE(BENT CONJOINED DIAGONAL) UNDER(FOUR_FINGERS INDEX_BENT LITTLE_UP",
  "THREE_FINGERS TWO_FINGERS))) HAND-FLAT(. BETWEEN_PALM_FACINGS FIVE_FINGERS_SPREAD(. BENT",
  "FOUR_BENT HINGED(. NO_THUMB THUMB_SIDE) THUMB_FORWARD) FOUR_FINGERS(. BENT HINGED CONJOINED(.",
  "SPLIT)) HEEL(. FIVE_FINGERS_SPREAD(. BENT FOUR_BENT) THUMB_SIDE) SPLIT(LITTLE CENTRE(.",
  "THUMB_SIDE(. BENT)) INDEX_THUMB_SIDE) THUMB(BENT FORWARD SIDE)) HAND-HINGE(. SMALL",
  "FIVE_FINGERS_SPREAD_OPEN FOUR_FINGERS_CONJOINED INDEX(. HINGED MIDDLE(LITTLE RING(.",
  "CONJOINED)) RING_LITTLE THUMB(. LARGE OPEN SIDE SMALL)) LITTLE(. THUMB INDEX(. THUMB))",
  "MIDDLE(. RING_LITTLE) NO_THUMB OPEN(. NO_THUMB THUMB(FORWARD SIDE)) RING(.",
  "DOWN_INDEX_THUMB_HOOK_MIDDLE) THUMB(BETWEEN_MIDDLE_RING SIDE(. TOUCHING_INDEX))) HAND-HOOK(.",
  "CURLICUE INDEX_RING_LITTLE(IN OUT UNDER) MIDDLE(THUMB RING_LITTLE_CONJOINED(. IN OUT))",
  "RING_THUMB) HAND-OVAL(. INDEX FIVE_FINGERS_SPREAD LITTLE_UP NO_THUMB RING_LITTLE THUMB(FORWARD",
  "SIDE)) HEAD(. RIM MOVEMENT_CIRCLE MOVEMENT-FLOORPLANE(CURVE STRAIGHT) MOVEMENT-WALLPLANE(CURVE",
  "STRAIGHT TILT)) LIMB(COMBINATION LENGTH-1~7) LIP(LOWER_OVER_UPPER UPPER_OVER_LOWER)",
  "LIPS_PRESSED_TOGETHER LOCATION(DEPTH HEIGHT TORSO WIDTH HEAD_NECK LIMBS_DIGITS)",
  "LOCATION-FLOORPLANE_SPACE LOCATION-WALLPLANE_SPACE MOUTH(CORNERS CLOSED(CONTACT FORWARD",
  "NEUTRAL) FROWN(. OPEN WRINKLED) KISS(. FORWARD WRINKLED) OPEN(CIRCLE FORWARD WRINKLED OVAL(.",
  "WRINKLED YAWN) RECTANGLE(. WRINKLED YAWN)) SMILE(. OPEN WRINKLED) TENSE(. FORWARD SUCKED)",
  "WRINKLES(DOUBLE SINGLE)) MOVEMENT-DIAGONAL(AWAY(LARGE LARGEST MEDIUM SMALL) BETWEEN(AWAY(LARGE",
  "LARGEST MEDIUM SMALL) TOWARDS(LARGE LARGEST MEDIUM SMALL)) TOWARDS(LARGE LARGEST MEDIUM",
  "SMALL)) MOVEMENT-FLOORPLANE(BEND CHECK CROSS JAW ARM_CIRCLE_HITTING_WALL(LARGE(DOUBLE SINGLE)",
  "MEDIUM(DOUBLE SINGLE) SMALL(DOUBLE SINGLE)) BOX(LARGE MEDIUM SMALL) CORNER(LARGE MEDIUM SMALL)",
  "CURVE(COMBINED LARGE LARGEST MEDIUM SMALL HITTING(CEILING(LARGE SMALL) FLOOR(LARGE SMALL)))",
  "DOUBLE(STRAIGHT ALTERNATING(. WRIST_FLEX) WRIST_FLEX) FINGER(CONTACT",
  "CIRCLES_HITTING_WALL(DOUBLE SINGLE)) HUMP(SMALL HITTING(CEILING(LARGE(DOUBLE TRIPLE)",
  "SMALL(DOUBLE TRIPLE)) FLOOR(LARGE_DOUBLE SMALL_DOUBLE TRIPLE(LARGE_TRIPLE SMALL_TRIPLE))))",
  "LOOP(SMALL HITTING(CEILING(LARGE(DOUBLE SINGLE) SMALL(DOUBLE SINGLE)) FLOOR(LARGE(DOUBLE",
  "SINGLE) SMALL(DOUBLE SINGLE)))) PEAKS(LARGE MEDIUM SMALL) SHAKING_PARALLEL",
  "SINGLE(STRAIGHT(LARGE LARGEST MEDIUM SMALL) WRIST_FLEX) TRIPLE(ALTERNATING(MOVEMENT",
  "WRIST_FLEX) STRAIGHT_MOVEMENT WRIST_FLEX) WAVE(LARGE SMALL SNAKE HITTING(CEILING(LARGE SMALL)",
  "FLOOR(LARGE SMALL))) WRIST_CIRCLE_HITTING_WALL(DOUBLE SINGLE) ZIGZAG(LARGE MEDIUM SMALL))",
  "MOVEMENT-HINGE(DOWN_SEQUENTIAL SIDE_TO_SIDE_SCISSORS UP(SEQUENTIAL DOWN(LARGE SMALL",
  "ALTERNATING(LARGE SMALL)))) MOVEMENT-WALLPLANE(CROSS JAW SHAKING ARM_CIRCLE(MEDIUM(DOUBLE",
  "SINGLE) SMALL(DOUBLE SINGLE)) BEND(LARGE MEDIUM SMALL) BOX(LARGE MEDIUM SMALL) CHECK(LARGE",
  "MEDIUM SMALL) CORNER(LARGE MEDIUM ROTATION SMALL) CURVE(HALF-CIRCLE(LARGE LARGEST MEDIUM",
  "SMALL) HITTING(CHEST FRONT_WALL) QUARTER(LARGE LARGEST MEDIUM SMALL) THEN_STRAIGHT",
  "THREE-QUARTER_CIRCLE(MEDIUM SMALL)) CURVED_CROSS(MEDIUM SMALL) DOUBLE(STRAIGHT ALTERNATING(.",
  "WRIST_FLEX) WRIST_FLEX) FINGER(CONTACT CIRCLES(DOUBLE SINGLE)) HUMP(LARGE MEDIUM SMALL",
  "HITTING(CHEST FRONT_WALL)) LOOP(LARGE MEDIUM HITTING(CHEST FRONT_WALL) SMALL(. DOUBLE))",
  "PEAKS(LARGE MEDIUM SMALL) SINGLE(STRAIGHT(LARGE LARGEST MEDIUM SMALL) WRIST_FLEX)",
  "TRIPLE(ALTERNATING(. WRIST_FLEX) STRAIGHT_MOVEMENT WRIST_FLEX) WAVE(CURVE(DOUBLE(LARGE MEDIUM",
  "SMALL) TRIPLE(LARGE MEDIUM SMALL)) DIAGONAL_PATH(LARGE MEDIUM SMALL) HITTING(CHEST",
  "FRONT_WALL)) WRIST_CIRCLE_FRONT(DOUBLE SINGLE) ZIGZAG(LARGE MEDIUM SMALL)) NOSE(CONTACT",
  "NEUTRAL WIGGLES WRINKLES) ROTATION(MODIFIER-10~16 MODIFIER-2~9)",
  "ROTATION-FLOORPLANE(ALTERNATING(. HITTING(CEILING FLOOR)) DOUBLE(. HITTING(CEILING FLOOR))",
  "SINGLE(. HITTING(CEILING FLOOR))) ROTATION-WALLPLANE(ALTERNATE ALTERNATING_HITTING(CHEST",
  "FRONT_WALL) DOUBLE(. HITTING(CHEST FRONT_WALL)) SINGLE(. HITTING(CHEST FRONT_WALL)))",
  "RUB(BETWEEN MULTIPLE SINGLE) SHOULDER(HIP(POSITIONS SPINE) TILTING_FROM_WAIST)",
  "SQUEEZE(SEQUENTIAL FLICK_ALTERNATING LARGE(MULTIPLE SINGLE) SMALL(MULTIPLE SINGLE))",
  "STRIKE(BETWEEN MULTIPLE SINGLE) SURFACE(BETWEEN SYMBOLS) TEETH(. MOVEMENT BITE_LIPS ON(LIPS(.",
  "MOVEMENT) TONGUE(. MOVEMENT))) TENSE_CHEEKS(HIGH LOW MIDDLE) TONGUE(CENTRE(INSIDE_MOUTH",
  "STICKING_OUT) INSIDE_MOUTH_RELAXED LICKING_LIPS MOVES_AGAINST_CHEEK STICKING_OUT_FAR",
  "TIP(BETWEEN_LIPS TOUCHING_INSIDE_MOUTH)) TORSO-FLOORPLANE_TWISTING TORSO-WALLPLANE(CURVED_BEND",
  "STRAIGHT_STRETCH) TOUCH(BETWEEN MULTIPLE SINGLE) TRAVEL-FLOORPLANE(SHAKING",
  "ROTATION-FLOORPLANE(ALTERNATING DOUBLE SINGLE) ROTATION-WALLPLANE(ALTERNATING DOUBLE SINGLE))",
  "TRAVEL-WALLPLANE(SHAKING ARM_SPIRAL(DOUBLE SINGLE TRIPLE) ROTATION-FLOORPLANE(ALTERNATING",
  "DOUBLE SINGLE) ROTATION-WALLPLANE(ALTERNATING DOUBLE SINGLE))",
  "UPPER_BODY_TILTING_FROM_HIP_JOINTS WALLPLANE_SHOULDER_HIP_MOVE)",
  "SIMILAR(ABOVE(GREATER-THAN_ABOVE_EQUALS_SIGN LESS-THAN_ABOVE_EQUALS_SIGN) MINUS_SIMILAR",
  "OR(GREATER-THAN LESS-THAN)) SINGLE(CHARACTER_INTRODUCER GRAPHIC_CHARACTER_INTRODUCER",
  "HIGH-REVERSED-9_QUOTATION_MARK LEFT-POINTING_ANGLE_QUOTATION_MARK LOW-9_QUOTATION_MARK",
  "RIGHT-POINTING_ANGLE_QUOTATION_MARK SHIFT(THREE TWO)) SINHALA(ARCHAIC(DIGIT(EIGHT FIVE FOUR",
  "NINE ONE SEVEN SIX THREE TWO) NUMBER(EIGHTY FIFTY FORTY NINETY SEVENTY SIXTY TEN THIRTY TWENTY",
  "ONE(HUNDRED THOUSAND))) LETTER(AAYANNA AEEYANNA AEYANNA AIYANNA AUYANNA AYANNA EEYANNA EYANNA",
  "FAYANNA HAYANNA IIYANNA ILUUYANNA ILUYANNA IRUUYANNA IRUYANNA IYANNA MAYANNA OOYANNA OYANNA",
  "RAYANNA UUYANNA UYANNA VAYANNA YAYANNA ALPAPRAANA(BAYANNA CAYANNA DAYANNA DDAYANNA GAYANNA",
  "JAYANNA KAYANNA PAYANNA TAYANNA TTAYANNA) AMBA_BAYANNA DANTAJA(LAYANNA NAYANNA SAYANNA)",
  "KANTAJA_NAASIKYAYA MAHAAPRAANA(BAYANNA CAYANNA DAYANNA DDAYANNA GAYANNA JAYANNA KAYANNA",
  "PAYANNA TAYANNA TTAYANNA) MUURDHAJA(LAYANNA NAYANNA SAYANNA) SANYAKA(DAYANNA DDAYANNA GAYANNA",
  "JAYANNA) TAALUJA(NAASIKYAYA SAYANNA SANYOOGA_NAAKSIKYAYA)) LITH_DIGIT(EIGHT FIVE FOUR NINE ONE",
  "SEVEN SIX THREE TWO ZERO) PUNCTUATION_KUNDDALIYA SIGN(AL-LAKUNA ANUSVARAYA CANDRABINDU",
  "VISARGAYA) VOWEL_SIGN(AELA-PILLA GAETTA-PILLA GAYANUKITTA DIGA(AEDA-PILLA GAETTA-PILLA",
  "GAYANUKITTA IS-PILLA KOMBUVA PAA-PILLA) KETTI(AEDA-PILLA IS-PILLA PAA-PILLA) KOMBU_DEKA",
  "KOMBUVA(. HAA(AELA-PILLA GAYANUKITTA DIGA_AELA-PILLA)))) SIX(PETALLED_BLACK_AND_WHITE_FLORETTE",
  "POINTED(BLACK_STAR PINWHEEL_STAR STAR_WITH_MIDDLE_DOT)) SKULL(. AND_CROSSBONES)",
  "SLANTED(EQUAL_TO_OR(GREATER-THAN(. WITH_DOT_INSIDE) LESS-THAN(. WITH_DOT_INSIDE))",
  "NORTH_ARROW_WITH(HOOKED_HEAD HORIZONTAL_TAIL)) SLEEPING(ACCOMMODATION FACE SYMBOL)",
  "SLIGHTLY(FROWNING_FACE SMILING_FACE) SLOPING_LARGE(AND OR) SMALL(AIRPLANE AMPERSAND ASTERISK",
  "COLON COMMA HYPHEN-MINUS SEMICOLON TILDE BLUE_DIAMOND COMMERCIAL_AT CONTAINS(AS_MEMBER",
  "WITH(OVERBAR VERTICAL_BAR_AT_END_OF_HORIZONTAL_STROKE)) DOLLAR_SIGN ELEMENT_OF(. WITH(OVERBAR",
  "VERTICAL_BAR_AT_END_OF_HORIZONTAL_STROKE)) EM_DASH EQUALS_SIGN EXCLAMATION_MARK FULL_STOP",
  "GREATER-THAN_SIGN IDEOGRAPHIC_COMMA LEFT(PARENTHESIS CURLY_BRACKET TORTOISE_SHELL_BRACKET)",
  "LESS-THAN_SIGN NUMBER_SIGN ORANGE_DIAMOND PERCENT_SIGN PLUS_SIGN QUESTION_MARK REVERSE_SOLIDUS",
  "RIGHT(PARENTHESIS CURLY_BRACKET TORTOISE_SHELL_BRACKET) ROMAN_NUMERAL(EIGHT ELEVEN FIFTY FOUR",
  "NINE SEVEN SIX TEN THREE TWELVE TWO FIVE(. HUNDRED) ONE(. HUNDRED THOUSAND))",
  "TWO_DOTS_OVER_ONE_DOT_PUNCTUATION VEE_WITH_UNDERBAR) SMALLER_THAN(. OR_EQUAL_TO)",
  "SMILING(CAT_FACE_WITH(HEART-SHAPED_EYES OPEN_MOUTH) FACE_WITH(HALO HORNS SUNGLASSES TEAR",
  "HEART-SHAPED_EYES OPEN_MOUTH(. AND(COLD_SWEAT SMILING_EYES TIGHTLY-CLOSED_EYES))",
  "SMILING_EYES(. AND(HAND_COVERING_MOUTH THREE_HEARTS)))) SNOWMAN(. WITHOUT_SNOW) SOFT(HYPHEN",
  "ICE_CREAM SHELL_FLOPPY_DISK) SOGDIAN(COMBINING(CURVE(ABOVE BELOW) DOT(ABOVE BELOW) HOOK(ABOVE",
  "BELOW) LONG_HOOK_BELOW RESH_BELOW STROKE_BELOW TWO_DOTS(ABOVE BELOW)) INDEPENDENT_SHIN",
  "LETTER(ALEPH AYIN BETH FETH GIMEL HE HETH KAPH LAMEDH LESH MEM NUN PE RESH-AYIN SADHE SAMEKH",
  "SHIN TAW WAW YODH ZAYIN) NUMBER(TEN TWENTY ONE(. HUNDRED)) PUNCTUATION(CIRCLE_WITH_DOT",
  "HALF_CIRCLE_WITH_DOT TWO(CIRCLES_WITH_DOTS VERTICAL_BARS(. WITH_DOTS))))",
  "SOLID_QUILT_SQUARE_ORNAMENT(. IN_BLACK_SQUARE) SOLIDUS(. WITH_OVERBAR)",
  "SORA_SOMPENG(DIGIT(EIGHT FIVE FOUR NINE ONE SEVEN SIX THREE TWO ZERO) LETTER(AH BAH CAH DAH",
  "EEH EH GAH HAH IH JAH KAH LAH MAE MAH NAH NGAH NYAH OH PAH RAH SAH TAH UH VAH YAH))",
  "SOUTH(EAST(ARROW(. AND_SOUTH_WEST_ARROW CROSSING_NORTH_EAST_ARROW TO_CORNER WITH_HOOK)",
  "BLACK_ARROW DOUBLE_ARROW POINTING(BUD LEAF VINE_LEAF) SANS-SERIF_ARROW TRIANGLE-HEADED_ARROW(.",
  "TO_BAR) WHITE_ARROW) WEST(ARROW(. AND_NORTH_WEST_ARROW WITH_HOOK) BLACK_ARROW DOUBLE_ARROW",
  "POINTING(BUD LEAF VINE_LEAF) SANS-SERIF_ARROW TRIANGLE-HEADED_ARROW(. TO_BAR) WHITE_ARROW))",
  "SOYOMBO(SUBJOINER CLUSTER-INITIAL_LETTER(LA RA SA SHA) FINAL_CONSONANT_SIGN(-A B D G K L M N",
  "NG R S SH) GEMINATION_MARK HEAD_MARK_WITH_MOON_AND_SUN(. AND(FLAME TRIPLE_FLAME)) LETTER(-A A",
  "BA BHA CA CHA DA DDA DDHA DHA DZA GA GHA HA JA JHA KA KHA KSSA LA MA NA NGA NNA NYA PA PHA RA",
  "SA SHA SSA TA THA TSA TSHA TTA TTHA VA YA ZA ZHA) MARK(PLUTA SHAD TSHEG DOUBLE_SHAD)",
  "SIGN(ANUSVARA JIHVAMULIYA UPADHMANIYA VISARGA) TERMINAL(MARK-1 MARK-2) VOWEL(LENGTH_MARK",
  "SIGN(AI AU E I O OE U UE VOCALIC(L R)))) SPEAKER(. WITH(CANCELLATION_STROKE ONE_SOUND_WAVE",
  "THREE_SOUND_WAVES)) SPHERICAL_ANGLE(. OPENING(LEFT UP)) SPIDER(. WEB) SPIRAL(SHELL",
  "CALENDAR_PAD NOTE_PAD) SQUARE(AARU AM ANPEA APAATO ARUHUA AU BAARERU BAR BEETA BIRU BORUTO BQ",
  "BUSSYERU CAL CAP CC CD CO CORPORATION CUP DA DAASU DB DESI DJ DL DORU EEKAA ERG ESUKUUDO EV FM",
  "FOOT GAL GANMA GARON GB GHZ GIGA GINII GIRUDAA GPA GURAMU GURAMUTON GY HA HAITU HEKUTAARU",
  "HERUTU HG HON HOON HOORU HP HPA HUARADDO HUIITO HURAN HZ IN ININGU INTI IU KA KAIRI KARATTO",
  "KARORII KB KCAL KEESU KG KHZ KIRO KIROGURAMU KIROMEETORU KIROWATTO KK KL KOOPO KORUNA KPA KT",
  "KUROONE KURUZEIRO KV KW KYURII LM LN LOG LOZENGE LX MA MAHHA MAIKURO MAIRU MANSYON MARUKU",
  "MEETORU MEGA MEGATON MG MHZ MIKURON MIL MIRI MIRIBAARU ML MOL MPA MS NA NANO NF NM NOTTO NS NV",
  "NW ONSU OOMU OV PAASENTO PAATU PC PEEZI PENIHI PENSU PESO PF PH PIASUTORU PIKO PIKURU PM",
  "POINTO PONDO PPM PR PS PV PW REMU RENTOGEN RIRA RITTORU ROOT RUPII RUUBURU SAIKURU SANTIIMU",
  "SENTI SENTO SIRINGU SR SV TARGET THZ TON UON WATTO WB YAADO YAARU YUAN A_OVER_M C_OVER_KG CM(.",
  "CUBED SQUARED) DM(. CUBED SQUARED) ERA_NAME(HEISEI MEIZI REIWA SYOUWA TAISYOU) FOUR_CORNERS",
  "HIRAGANA_HOKA IMAGE_OF(. OR(EQUAL_TO NOT_EQUAL_TO)) K_OHM KM(. CAPITAL CUBED SQUARED)",
  "LEFT_OPEN_BOX_OPERATOR M(CUBED OHM SQUARED OVER_S(. SQUARED)) MB(. SMALL) MM(. CUBED SQUARED)",
  "MU(A F G L M S V W) MV(. MEGA) MW(. MEGA) ORIGINAL_OF(. OR(EQUAL_TO NOT_EQUAL_TO)) PA(. AMPS)",
  "POSITION_INDICATOR RAD(. OVER_S(. SQUARED)) RIGHT_OPEN_BOX_OPERATOR V_OVER_M",
  "WITH(BOTTOM_HALF_BLACK CONTOURED_OUTLINE DIAGONAL_CROSSHATCH_FILL HORIZONTAL_FILL",
  "LEFT_HALF_BLACK LOWER(LEFT_DIAGONAL_HALF_BLACK RIGHT_DIAGONAL_HALF_BLACK)",
  "ORTHOGONAL_CROSSHATCH_FILL RIGHT_HALF_BLACK TOP_HALF_BLACK UPPER(LEFT(DIAGONAL_HALF_BLACK",
  "TO_LOWER_RIGHT_FILL) RIGHT(DIAGONAL_HALF_BLACK TO_LOWER_LEFT_FILL)) VERTICAL_FILL))",
  "SQUARED(ASTERISK CL COOL FREE HC HDR HI-RES HV ID KEY LOSSLESS MINUS MV NEW NG OK PLUS PPV",
  "SALTIRE SD SHV SOS SQUARE SS TIMES UHD VOD VS WC CJK_UNIFIED(IDEOGRAPH-4E00 IDEOGRAPH-4E09",
  "IDEOGRAPH-4E2D IDEOGRAPH-4E8C IDEOGRAPH-4EA4 IDEOGRAPH-518D IDEOGRAPH-521D IDEOGRAPH-524D",
  "IDEOGRAPH-5272 IDEOGRAPH-53CC IDEOGRAPH-53F3 IDEOGRAPH-5408 IDEOGRAPH-5439 IDEOGRAPH-55B6",
  "IDEOGRAPH-58F0 IDEOGRAPH-591A IDEOGRAPH-5929 IDEOGRAPH-5B57 IDEOGRAPH-5DE6 IDEOGRAPH-5F8C",
  "IDEOGRAPH-624B IDEOGRAPH-6253 IDEOGRAPH-6295 IDEOGRAPH-6307 IDEOGRAPH-6355 IDEOGRAPH-6599",
  "IDEOGRAPH-65B0 IDEOGRAPH-6620 IDEOGRAPH-6708 IDEOGRAPH-6709 IDEOGRAPH-6E80 IDEOGRAPH-6F14",
  "IDEOGRAPH-7121 IDEOGRAPH-751F IDEOGRAPH-7533 IDEOGRAPH-7981 IDEOGRAPH-7A7A IDEOGRAPH-7D42",
  "IDEOGRAPH-89E3 IDEOGRAPH-8CA9 IDEOGRAPH-8D70 IDEOGRAPH-904A IDEOGRAPH-914D) DOT_OPERATOR",
  "EIGHT_K FALLING_DIAGONAL_SLASH FIVE_POINT_ONE FOUR(K DOT_PUNCTUATION) KATAKANA(DE KOKO SA)",
  "LATIN(CAPITAL_LETTER(A B C D E F G H I J K L M N O P Q R S T U V W X Y Z) SMALL_LETTER_D)",
  "LOGICAL(AND OR) ONE_HUNDRED_TWENTY_P RISING_DIAGONAL_SLASH SECOND_SCREEN SEVEN_POINT_ONE",
  "SIXTY_P SMALL_CIRCLE THREE_D TWENTY-TWO_POINT_TWO TWO_K UP_WITH_EXCLAMATION_MARK)",
  "STAFF_OF(AESCULAPIUS HERMES) STAR(EQUALS OPERATOR AND_CRESCENT OF_DAVID WITH(LEFT_HALF_BLACK",
  "RIGHT_HALF_BLACK)) START_OF(HEADING STRING TEXT GUARDED_AREA PROTECTED_AREA SELECTED_AREA)",
  "STICK_FIGURE(. LEANING(LEFT RIGHT) WITH(DRESS ARMS_RAISED)) SUBSCRIPT(EIGHT FIVE FOUR MINUS",
  "NINE ONE SEVEN SIX THREE TWO ZERO EQUALS_SIGN LEFT_PARENTHESIS PLUS_SIGN RIGHT_PARENTHESIS)",
  "SUBSET(ABOVE(SUBSET SUPERSET RIGHTWARDS_ARROW) OF(. ABOVE(ALMOST_EQUAL_TO EQUALS_SIGN",
  "NOT_EQUAL_TO TILDE_OPERATOR) OR_EQUAL_TO(. WITH_DOT_ABOVE) WITH_NOT_EQUAL_TO) WITH(DOT",
  "MULTIPLICATION_SIGN_BELOW PLUS_SIGN_BELOW)) SUCCEEDS(. ABOVE(ALMOST_EQUAL_TO EQUALS_SIGN",
  "NOT(ALMOST_EQUAL_TO EQUAL_TO) SINGLE-LINE(EQUALS_SIGN NOT_EQUAL_TO)) BUT_NOT_EQUIVALENT_TO",
  "OR(EQUAL_TO EQUIVALENT_TO) UNDER_RELATION) SUMMATION(BOTTOM TOP WITH_INTEGRAL) SUN(.",
  "BEHIND_CLOUD WITH_FACE) SUNDANESE(AVAGRAHA CONSONANT_SIGN(PAMINGKAL PANYAKRA PANYIKU",
  "PASANGAN(MA WA)) DIGIT(EIGHT FIVE FOUR NINE ONE SEVEN SIX THREE TWO ZERO) LETTER(A AE BA BHA",
  "CA DA E EU FA GA HA I JA KA KHA LA LEU MA NA NGA NYA O PA QA RA REU SA SYA TA U VA WA XA YA ZA",
  "FINAL(K M)) PUNCTUATION_BINDU(CAKRA PANGLONG PURNAMA SURYA BA_SATANGA DA_SATANGA KA_SATANGA",
  "LEU_SATANGA) SIGN(PAMAAEH PANGLAYAR PANGWISAD PANYECEK VIRAMA) VOWEL_SIGN(PAMEPET PANAELAENG",
  "PANEULEUNG PANGHULU PANOLONG PANYUKU)) SUNRISE(. OVER_MOUNTAINS) SUPERSCRIPT(EIGHT FIVE FOUR",
  "MINUS NINE ONE SEVEN SIX THREE TWO ZERO EQUALS_SIGN LATIN_SMALL_LETTER(I N) LEFT_PARENTHESIS",
  "PLUS_SIGN RIGHT_PARENTHESIS) SUPERSET(ABOVE(SUBSET SUPERSET LEFTWARDS_ARROW) BESIDE(SUBSET",
  "AND_JOINED_BY_DASH_WITH_SUBSET) OF(. ABOVE(ALMOST_EQUAL_TO EQUALS_SIGN NOT_EQUAL_TO",
  "TILDE_OPERATOR) OR_EQUAL_TO(. WITH_DOT_ABOVE) WITH_NOT_EQUAL_TO) PRECEDING_SOLIDUS WITH(DOT",
  "MULTIPLICATION_SIGN_BELOW PLUS_SIGN_BELOW)) SYLOTI_NAGRI(LETTER(A BHO BO CHO CO DDHO DDO DHO",
  "DO E GHO GO HO I JHO JO KHO KO LO MO NO O PHO PO RO RRO SO THO TO TTHO TTO U) POETRY(MARK-1~4)",
  "SIGN(ANUSVARA DVISVARA HASANTA ALTERNATE_HASANTA) VOWEL_SIGN(A E I OO U))",
  "SYMBOL_FOR(ACKNOWLEDGE BACKSPACE BELL CANCEL ENQUIRY ESCAPE NEWLINE NULL SPACE CARRIAGE_RETURN",
  "DATA_LINK_ESCAPE DELETE(. FORM_TWO) DEVICE_CONTROL(FOUR ONE THREE TWO) END_OF(MEDIUM TEXT",
  "TRANSMISSION(. BLOCK)) FILE_SEPARATOR FORM_FEED GROUP_SEPARATOR HORIZONTAL_TABULATION",
  "LINE_FEED MARKS_CHAPTER NEGATIVE_ACKNOWLEDGE RECORD_SEPARATOR SAMARITAN_SOURCE SHIFT(IN OUT)",
  "START_OF(HEADING TEXT) SUBSTITUTE(. FORM_TWO) SYNCHRONOUS_IDLE TYPE_A_ELECTRONICS",
  "UNIT_SEPARATOR VERTICAL_TABULATION) SYRIAC(BARREKH CONTRACTION MUSIC QUSHSHAYA RUKKAKHA RWAHA",
  "ABBREVIATION_MARK COLON_SKEWED(LEFT RIGHT) DOTTED_ZLAMA(ANGULAR HORIZONTAL) END_OF_PARAGRAPH",
  "ESASA(ABOVE BELOW) FEMININE_DOT HARKLEAN(ASTERISCUS METOBELUS OBELUS) HBASA(ABOVE BELOW)",
  "HBASA-ESASA_DOTTED HORIZONTAL_COLON LETTER(ALAPH BETH DALATH E HE HETH KAPH LAMADH MIM NUN PE",
  "QAPH RISH SADHE SEMKATH SHIN TAW WAW ZAIN DOTLESS_DALATH_RISH FINAL_SEMKATH GAMAL(. GARSHUNI)",
  "MALAYALAM(BHA JA LLA LLLA NGA NNA NNNA NYA RA SSA TTA) PERSIAN(BHETH DHALATH GHAMAL)",
  "REVERSED_PE SOGDIAN(FE KHAPH ZHAIN) SUPERSCRIPT_ALAPH TETH(. GARSHUNI) YUDH(. HE))",
  "OBLIQUE_LINE(ABOVE BELOW) PTHAHA(ABOVE BELOW DOTTED) RBASA(ABOVE BELOW) SUBLINEAR(COLON(.",
  "SKEWED(LEFT RIGHT)) FULL_STOP) SUPRALINEAR(COLON(. SKEWED_LEFT) FULL_STOP) THREE_DOTS(ABOVE",
  "BELOW) TWO_VERTICAL_DOTS(ABOVE BELOW) ZQAPHA(ABOVE BELOW DOTTED)) TAG(AMPERSAND APOSTROPHE",
  "ASTERISK COLON COMMA HYPHEN-MINUS SEMICOLON SOLIDUS SPACE TILDE CIRCUMFLEX_ACCENT",
  "COMMERCIAL_AT DIGIT(EIGHT FIVE FOUR NINE ONE SEVEN SIX THREE TWO ZERO) DOLLAR_SIGN EQUALS_SIGN",
  "EXCLAMATION_MARK FULL_STOP GRAVE_ACCENT GREATER-THAN_SIGN LATIN(CAPITAL_LETTER(A B C D E F G H",
  "I J K L M N O P Q R S T U V W X Y Z) SMALL_LETTER(A B C D E F G H I J K L M N O P Q R S T U V",
  "W X Y Z)) LEFT(PARENTHESIS CURLY_BRACKET SQUARE_BRACKET) LESS-THAN_SIGN LOW_LINE NUMBER_SIGN",
  "PERCENT_SIGN PLUS_SIGN QUESTION_MARK QUOTATION_MARK REVERSE_SOLIDUS RIGHT(PARENTHESIS",
  "CURLY_BRACKET SQUARE_BRACKET) VERTICAL_LINE) TAGALOG(LETTER(A BA DA GA HA I KA LA MA NA NGA PA",
  "RA SA TA U WA YA ARCHAIC_RA) SIGN(PAMUDPOD VIRAMA) VOWEL_SIGN(I U)) TAGBANWA(LETTER(A BA DA GA",
  "I KA LA MA NA NGA PA SA TA U WA YA) VOWEL_SIGN(I U)) TAI(LE_LETTER(A AI AUE E EE EH FA HA I KA",
  "KHA LA MA NA NGA O OO PA PHA QA SA TA THA TSA TSHA U UE VA XA YA TONE-2~6)",
  "THAM(COMBINING_CRYPTOGRAMMIC_DOT CONSONANT_SIGN(BA MA SA FINAL_NGA HIGH_RATHA_OR_LOW_PA",
  "LA_TANG_LAI LOW_PA MEDIAL(LA RA)) HORA_DIGIT(EIGHT FIVE FOUR NINE ONE SEVEN SIX THREE TWO",
  "ZERO) LETTER(A BA DA EE I II LA LAE LLA LUE MA NA NGA NYA OO RA RANA RATA RUE U UU WA GREAT_SA",
  "HIGH(CA CHA FA HA KA KHA KXA PA PHA RATHA SA SHA SSA TA THA YA) LOW(CA CHA FA HA KA KHA KXA PA",
  "PHA RATHA SA TA THA YA)) SIGN(CAANG DOKMAI HANG HOY KAAN KAANKUU KEOW SAKOT SATKAAN SATKAANKUU",
  "SAWAN WIANG WIANGWAAK TONE-1 TONE-2 KHUEN(TONE-3~5) KHUEN-LUE_KARAN MAI(SAM YAMOK KANG(. LAI))",
  "RA_HAAM REVERSED_ROTATED_RANA) THAM_DIGIT(EIGHT FIVE FOUR NINE ONE SEVEN SIX THREE TWO ZERO)",
  "VOWEL_SIGN(A AA AE AI E I II O OO OY U UE UU UUE MAI_SAT OA(ABOVE BELOW) TALL_AA THAM_AI))",
  "VIET(LETTER(HIGH(BO CHO CO DO FO GO HO KHHO KHO KO LO MO NGO NO NYO O PHO PO RO SO THO TO VO",
  "YO) LOW(BO CHO CO DO FO GO HO KHHO KHO KO LO MO NGO NO NYO O PHO PO RO SO THO TO VO YO))",
  "MAI(KANG KHIT) SYMBOL(KON NUENG SAM HO_HOI KOI_KOI) TONE_MAI(EK NUENG SONG THO) VOWEL(AA AM AN",
  "AUE AY E I IA O U UA UE UEA))) TAKRI(ABBREVIATION_SIGN DIGIT(EIGHT FIVE FOUR NINE ONE SEVEN",
  "SIX THREE TWO ZERO) LETTER(A AA AI AU BA BHA CA CHA DA DDA DDHA DHA E GA GHA HA I II JA JHA KA",
  "KHA LA MA NA NGA NNA NYA O PA PHA RA RRA SA SHA TA THA TTA TTHA U UU VA YA ARCHAIC_KHA)",
  "SIGN(ANUSVARA NUKTA VIRAMA VISARGA) VOWEL_SIGN(AA AI AU E I II O U UU)) TALLY_MARK(FIVE ONE)",
  "TAMIL(OM AND_ODD_SIGN AS_ABOVE_SIGN AU_LENGTH_MARK CREDIT_SIGN CURRENT_SIGN DAY_SIGN",
  "DEBIT_SIGN DIGIT(EIGHT FIVE FOUR NINE ONE SEVEN SIX THREE TWO ZERO) DRY_CULTIVATION_SIGN",
  "FRACTION(DOWNSCALING_FACTOR_KIIZH ONE(EIGHTH EIGHTIETH FIFTH FORTIETH ONE-HUNDRED-AND-SIXTIETH",
  "QUARTER SIXTY-FOURTH TENTH THIRTY-SECOND THREE-HUNDRED-AND-TWENTIETH TWENTIETH HALF-1 HALF-2",
  "SIXTEENTH-1 SIXTEENTH-2) THREE(EIGHTIETHS QUARTERS SIXTEENTHS SIXTY-FOURTHS TWENTIETHS))",
  "IN_POSSESSION_SIGN LAND_SIGN LETTER(A AA AI AU CA E EE HA I II JA KA LA LLA LLLA MA NA NGA NNA",
  "NNNA NYA O OO PA RA RRA SA SHA SSA TA TTA U UU VA YA) MONTH_SIGN NUMBER(SIGN TEN ONE(HUNDRED",
  "THOUSAND)) PUNCTUATION_END_OF_TEXT RUPEE_SIGN SALT_PAN_SIGN SIGN(AAZHAAKKU ANUSVARA CEVITU",
  "KAACU KURUNI KUZHI MUKKURUNI MUTHALIYA MUUVUZHAKKU NEL PAARAM PANAM PATHAKKU PON UZHAKKU",
  "VAKAIYARAA VARAAKAN VELI VIRAMA VISARGA) SPENT_SIGN STARTING_FROM_SIGN TOTAL_SIGN",
  "TRADITIONAL(CREDIT_SIGN NUMBER_SIGN) VOWEL_SIGN(AA AI AU E EE I II O OO U UU)",
  "WET_CULTIVATION_SIGN YEAR_SIGN) TANGSA(DIGIT(EIGHT FIVE FOUR NINE ONE SEVEN SIX THREE TWO",
  "ZERO) LETTER(AC AQ AWC AWQ AWX AWZ AX AZ BA CA CHA DA DHA EC EQ EX EZ FA GA GHA HA HTA HTTA IC",
  "IQ IX IZ KA KHA LA MA MC MQ MX MZ NA NGA NHA NYA OC OQ OX OZ PA PHA RA SA SHA TA THA TSA UC",
  "UEC UEQ UEX UEZ UIC UIQ UIUC UIUQ UIUX UIUZ UIX UIZ UQ UX UZ VC VQ VX VZ WA XA YA ZA FINAL_NG",
  "LONG_UEX SHORT(AWX UEZ))) TANGUT(COMPONENT-001~768 ITERATION_MARK) TAPE(CARTRIDGE DRIVE)",
  "TELEPHONE(RECORDER SIGN LOCATION_SIGN ON_TOP_OF_MODEM RECEIVER(. WITH_PAGE))",
  "TELUGU(AI_LENGTH_MARK DIGIT(EIGHT FIVE FOUR NINE ONE SEVEN SIX THREE TWO ZERO)",
  "FRACTION_DIGIT(ONE_FOR(EVEN_POWERS_OF_FOUR ODD_POWERS_OF_FOUR) THREE_FOR(EVEN_POWERS_OF_FOUR",
  "ODD_POWERS_OF_FOUR) TWO_FOR(EVEN_POWERS_OF_FOUR ODD_POWERS_OF_FOUR)",
  "ZERO_FOR_ODD_POWERS_OF_FOUR) LENGTH_MARK LETTER(A AA AI AU BA BHA CA CHA DA DDA DDHA DHA DZA E",
  "EE GA GHA HA I II JA JHA KA KHA LA LLA LLLA MA NA NGA NNA NYA O OO PA PHA RA RRA RRRA SA SHA",
  "SSA TA THA TSA TTA TTHA U UU VA YA NAKAARA_POLLU VOCALIC(L LL R RR)) SIGN(ANUSVARA AVAGRAHA",
  "CANDRABINDU NUKTA SIDDHAM TUUMU VIRAMA VISARGA COMBINING(ANUSVARA_ABOVE CANDRABINDU_ABOVE))",
  "VOWEL_SIGN(AA AI AU E EE I II O OO U UU VOCALIC(L LL R RR))) TETRAGRAM_FOR(ACCUMULATION",
  "ADVANCE AGGRAVATION ASCENT BARRIER CENTRE CHANGE CLOSENESS CLOSURE COMPLETION COMPLIANCE",
  "CONSTANCY CONTACT CONTENTION CONTRARIETY DARKENING DECISIVENESS DEPARTURE DIFFICULTIES",
  "DIMINISHMENT DIMMING DIVERGENCE DOUBT DUTIES EASE EMBELLISHMENT ENCOUNTERS ENDEAVOUR",
  "ENLARGEMENT ETERNITY EXHAUSTION FAILURE FLIGHT FOLLOWING FOSTERING FULLNESS GREATNESS",
  "GUARDEDNESS HARDNESS INCREASE INNER JOY KINSHIP LABOURING LEGION MASSING MEASURE MIRED",
  "OPPOSITION PACKING PATTERN PENETRATION PURITY REACH RELEASE RESIDENCE RESISTANCE RESPONSE",
  "RITUAL SEVERANCE SINKING STOPPAGE STOVE STRENGTH UNITY WAITING WATCH YOUTHFULNESS",
  "BOLD_RESOLUTION BRANCHING_OUT CLOSED_MOUTH DEFECTIVENESS_OR_DISTORTION FULL_CIRCLE GATHERING(.",
  "IN) GOING_TO_MEET HOLDING_BACK KEEPING_SMALL LAW_OR_MODEL ON_THE_VERGE VASTNESS_OR_WASTING)",
  "THAANA(AABAAFILI ABAFILI EBEFILI EEBEEFILI EYBEYFILI IBIFILI OABOAFILI OBOFILI OOBOOFILI SUKUN",
  "UBUFILI LETTER(AINU ALIFU BAA CHAVIYANI DAADHU DAVIYANI DHAALU FAAFU GAAFU GHAINU GNAVIYANI",
  "HAA HHAA JAVIYANI KAAFU KHAA LAAMU LHAVIYANI MEEMU NAA NOONU PAVIYANI QAAFU RAA SAADHU SEENU",
  "SHAVIYANI SHEENU TAVIYANI THAA THAALU TO TTAA VAAVU WAAVU YAA ZAA ZAVIYANI ZO))",
  "THAI(CHARACTER(ANGKHANKHU FONGMAN KHOMUT LAKKHANGYAO LU MAITAIKHU MAIYAMOK NIKHAHIT PAIYANNOI",
  "PHINTHU RU THANTHAKHAT YAMAKKAN BO_BAIMAI CHO(CHAN CHANG CHING CHOE) DO(CHADA DEK) FO(FA FAN)",
  "HO(HIP NOKHUK) KHO(KHAI KHON KHUAT KHWAI RAKHANG) KO_KAI LO(CHULA LING) MAI(CHATTAWA EK",
  "HAN-AKAT THO TRI) MO_MA NGO_NGU NO(NEN NU) O_ANG PHO(PHAN PHUNG SAMPHAO) PO_PLA RO_RUA SARA(A",
  "AA AE AM E I II O U UE UEE UU AI(MAIMALAI MAIMUAN)) SO(RUSI SALA SO SUA) THO(NANGMONTHO",
  "PHUTHAO THAHAN THAN THONG THUNG) TO(PATAK TAO) WO_WAEN YO(YAK YING)) CURRENCY_SYMBOL_BAHT",
  "DIGIT(EIGHT FIVE FOUR NINE ONE SEVEN SIX THREE TWO ZERO)) THERE(EXISTS DOES_NOT_EXIST)",
  "THIN(SALTIRE SPACE GREEK_CROSS) THREE(BUTTON_MOUSE CONSECUTIVE_EQUALS_SIGNS DIMENSIONAL_ANGLE",
  "DOT_PUNCTUATION LEFTWARDS_ARROWS LINES_CONVERGING(LEFT RIGHT) NETWORKED_COMPUTERS",
  "POINTED_BLACK_STAR RAYS(ABOVE BELOW LEFT RIGHT) RIGHTWARDS_ARROWS SPEECH_BUBBLES)",
  "THREE-D(BOTTOM-LIGHTED_RIGHTWARDS_ARROWHEAD LEFT-LIGHTED_DOWNWARDS_EQUILATERAL_ARROWHEAD",
  "RIGHT-LIGHTED_UPWARDS_EQUILATERAL_ARROWHEAD TOP-LIGHTED(LEFTWARDS_EQUILATERAL_ARROWHEAD",
  "RIGHTWARDS(ARROWHEAD EQUILATERAL_ARROWHEAD))) THUMBS(DOWN_SIGN UP_SIGN)",
  "TIBETAN(ASTROLOGICAL_SIGN(-KHYUD_PA SDONG_TSHUGS SGRA_GCAN_-CHAR_RTAGS)",
  "CANTILLATION_SIGN(CANG_TE-U HEAVY_BEAT LIGHT_BEAT SBUB_-CHAL) DIGIT(EIGHT FIVE FOUR NINE ONE",
  "SEVEN SIX THREE TWO ZERO HALF(EIGHT FIVE FOUR NINE ONE SEVEN SIX THREE TWO ZERO)) KU_RU_KHA(.",
  "BZHI_MIG_CAN) LETTER(-A A BA BHA CA CHA DA DDA DDHA DHA DZA DZHA GA GHA HA JA KA KHA KKA KSSA",
  "LA MA NA NGA NNA NYA PA PHA RA RRA SA SHA SSA TA THA TSA TSHA TTA TTHA WA YA ZA ZHA",
  "FIXED-FORM_RA) LOGOTYPE_SIGN(CHAD_RTAGS LHAG_RTAGS) MARK(HALANTA PALUTA SHAD ANG_KHANG(GYAS",
  "GYON) BKA-_SHOG(GI_MGO_RGYAN YIG_MGO) BSDUS_RTAGS BSKA-_SHOG_GI_MGO_RGYAN BSKUR_YIG_MGO",
  "CARET(-DZUD_RTAGS(BZHI_MIG_CAN ME_LONG_CAN) YIG_MGO_PHUR_SHAD_MA) CHE_MGO",
  "CLOSING(BRDA_RNYING_YIG_MGO_SGAB_MA YIG_MGO_SGAB_MA) DELIMITER_TSHEG_BSTAR GTER(TSHEG",
  "YIG_MGO(-UM(GTER_TSHEG_MA RNAM_BCAD_MA) TRUNCATED_A)) GUG_RTAGS(GYAS GYON)",
  "INITIAL(BRDA_RNYING_YIG_MGO_MDUN_MA YIG_MGO_MDUN_MA) INTERSYLLABIC_TSHEG LEADING_MCHAN_RTAGS",
  "MNYAM_YIG_GI_MGO_RGYAN NGAS_BZUNG(NYI_ZLA SGOR_RTAGS) NYIS(SHAD TSHEG(. SHAD)) RGYA_GRAM_SHAD",
  "RIN_CHEN_SPUNGS_SHAD SBRUL_SHAD TRAILING_MCHAN_RTAGS TSA_-PHRU TSHEG_SHAD",
  "YIG_MGO_TSHEG_SHAD_MA) SIGN(GRU(CAN_RGYINGS MED_RGYINGS) INVERTED_MCHU_CAN LCE_TSA_CAN",
  "LCI_RTAGS MAR_TSHES MCHU_CAN NYI_ZLA_NAA_DA RDEL(DKAR(GCIG GNYIS GSUM RDEL_NAG) NAG(GCIG GNYIS",
  "GSUM RDEL_DKAR)) RJES_SU_NGA_RO RNAM_BCAD SNA_LDAN YANG_RTAGS YAR_TSHES) SUBJOINED(LETTER(-A A",
  "BA BHA CA CHA DA DDA DDHA DHA DZA DZHA GA GHA HA JA KA KHA KSSA LA MA NA NGA NNA NYA PA PHA RA",
  "SA SHA SSA TA THA TSA TSHA TTA TTHA WA YA ZA ZHA FIXED-FORM(RA WA YA)) SIGN(INVERTED_MCHU_CAN",
  "LCE_TSA_CAN MCHU_CAN)) SYLLABLE_OM SYMBOL(DRIL_BU NOR_BU(. BZHI_-KHYIL GSUM_-KHYIL",
  "NYIS_-KHYIL) PADMA_GDAN PHUR_PA RDO_RJE(. RGYA_GRAM)) VOWEL_SIGN(AA E EE I II O OO U UU",
  "REVERSED(I II) VOCALIC(L LL R RR))) TIFINAGH(CONSONANT_JOINER LETTER(YA YAA YAB YABH YACH YAD",
  "YADD YADDH YADH YAF YAG YAGH YAGHH YAH YAHH YAJ YAK YAKH YAKHH YAL YAM YAN YAP YAQ YAR YARR",
  "YAS YASH YASS YAT YATH YATT YAV YAW YAY YAZ YAZH YAZZ YE YEY YI YO YU AHAGGAR_YAZH AYER_YAGH",
  "BERBER_ACADEMY(YAH YAJ) TAWELLEMET_YAZ TUAREG(YAGH YAGN YAH YAK YAKH YANG YAQ YAZH))",
  "MODIFIER_LETTER_LABIALIZATION_MARK SEPARATOR_MARK) TIGER(. FACE) TILDE(. OPERATOR(.",
  "ABOVE(LEFTWARDS_ARROW RIGHTWARDS_ARROW) WITH(DOT_ABOVE RISING_DOTS)) WITH(DOT(ABOVE BELOW)",
  "RING_ABOVE)) TIMES_WITH(LEFT_HALF_BLACK RIGHT_HALF_BLACK) TINY(.",
  "TWO_DOTS_OVER_ONE_DOT_PUNCTUATION) TIRHUTA(ANJI GVANG OM ABBREVIATION_SIGN DIGIT(EIGHT FIVE",
  "FOUR NINE ONE SEVEN SIX THREE TWO ZERO) LETTER(A AA AI AU BA BHA CA CHA DA DDA DDHA DHA E GA",
  "GHA HA I II JA JHA KA KHA LA MA NA NGA NNA NYA O PA PHA RA SA SHA SSA TA THA TTA TTHA U UU VA",
  "YA VOCALIC(L LL R RR)) SIGN(ANUSVARA AVAGRAHA CANDRABINDU NUKTA VIRAMA VISARGA) VOWEL_SIGN(AA",
  "AI AU E I II O U UU SHORT(E O) VOCALIC(L LL R RR))) TIRONIAN_SIGN(ET CAPITAL_ET) TOP(HAT",
  "PARENTHESIS ARC(ANTICLOCKWISE_ARROW(. WITH_PLUS) CLOCKWISE_ARROW_WITH_MINUS) CURLY_BRACKET",
  "HALF(INTEGRAL BLACK_CIRCLE LEFT_PARENTHESIS RIGHT_PARENTHESIS SECTION_SIGN) LEFT(CORNER CROP",
  "HALF_BRACKET) RIGHT(CORNER CROP HALF_BRACKET) SQUARE_BRACKET TORTOISE_SHELL_BRACKET",
  "WITH_UPWARDS_ARROW_ABOVE) TORTOISE_SHELL_BRACKETED(CJK_UNIFIED(IDEOGRAPH-4E09 IDEOGRAPH-4E8C",
  "IDEOGRAPH-52DD IDEOGRAPH-5B89 IDEOGRAPH-6253 IDEOGRAPH-6557 IDEOGRAPH-672C IDEOGRAPH-70B9",
  "IDEOGRAPH-76D7) LATIN_CAPITAL_LETTER_S) TOTO(LETTER(A AE BA CHA DA E EO GA HA I IU JA KA LA MA",
  "NA NGA O PA RA SA TA U WA YA BREATHY(AE E EO I IU)) SIGN_RISING_TONE) TRAM(. CAR)",
  "TRIANGLE_WITH(UNDERBAR DOT_ABOVE ROUNDED_CORNERS SERIFS_AT_BOTTOM) TRIANGULAR(BULLET RULER",
  "FLAG_ON_POST) TRIGRAM_FOR(EARTH FIRE HEAVEN LAKE MOUNTAIN THUNDER WATER WIND) TRIPLE(DAGGER",
  "INTEGRAL PLUS PRIME TILDE COLON_OPERATOR HORIZONTAL_BAR_WITH(DOUBLE_VERTICAL_STROKE",
  "TRIPLE_VERTICAL_STROKE) NESTED(GREATER-THAN LESS-THAN) SOLIDUS_BINARY_RELATION",
  "VERTICAL_BAR(DELIMITER BINARY_RELATION RIGHT_TURNSTILE WITH_HORIZONTAL_STROKE)) TROPICAL(DRINK",
  "FISH) TRUE(. LIGHT_MOON_ARTA) TURNED(AMPERSAND ANGLE COMMA DAGGER SEMICOLON BLACK(PENTAGON",
  "SHOGI_PIECE) CAPITAL_F DIGIT(THREE TWO) GREEK_SMALL_LETTER_IOTA NORTH(EAST_POINTING_LEAF",
  "WEST_POINTING_LEAF) NOT_SIGN OK_HAND_SIGN SANS-SERIF_CAPITAL(G L Y) SMALL_F",
  "SOUTH(EAST_POINTING_LEAF WEST_POINTING_LEAF) WHITE_SHOGI_PIECE) TWO(HEARTS",
  "ASTERISKS_ALIGNED_VERTICALLY BUTTON_MOUSE CONSECUTIVE_EQUALS_SIGNS DOT(LEADER PUNCTUATION)",
  "DOTS_OVER_ONE_DOT_PUNCTUATION INTERSECTING_LOGICAL(AND OR) JOINED_SQUARES LOGICAL(AND_OPERATOR",
  "OR_OPERATOR) MEN_HOLDING_HANDS SPEECH_BUBBLES WOMEN_HOLDING_HANDS) UGARITIC(LETTER(AIN ALPA",
  "BETA DELTA DHAL GAMLA GHAIN HO HOTA I KAF KHA LAMDA MEM NUN PU QOPA RASHA SADE SAMKA SHIN SSU",
  "TET THANNA TO U WO YOD ZETA ZU) WORD_DIVIDER) UMBRELLA(. ON_GROUND WITH_RAIN_DROPS) UNION(.",
  "ABOVE(INTERSECTION BAR_ABOVE_INTERSECTION) BESIDE_AND_JOINED_WITH_UNION WITH(OVERBAR",
  "LOGICAL_OR MINUS_SIGN)) UP(ARROW_THROUGH_CIRCLE ARROWHEAD(. BETWEEN_TWO_HORIZONTAL_BARS",
  "IN_A_RECTANGLE_BOX) BARB(LEFT_DOWN_BARB(LEFT_HARPOON RIGHT_HARPOON)",
  "RIGHT_DOWN_BARB(LEFT_HARPOON RIGHT_HARPOON)) DOWN(ARROW(. WITH_BASE) BLACK_ARROW DOUBLE_ARROW",
  "SANS-SERIF_ARROW TRIANGLE-HEADED_ARROW WHITE_ARROW) FISH_TAIL RIGHT_DIAGONAL_ELLIPSIS TACK(.",
  "WITH_CIRCLE_ABOVE)) UP-POINTING(AIRPLANE MILITARY_AIRPLANE RED_TRIANGLE SMALL(AIRPLANE",
  "RED_TRIANGLE) TRIANGLE_WITH(LEFT_HALF_BLACK RIGHT_HALF_BLACK))",
  "UPPER(AND(LEFT_AND_LOWER_TRIANGULAR_THREE_QUARTERS_BLOCK LOWER(ONE_EIGHTH_BLOCK",
  "TRIANGULAR_HALF_BLOCK) RIGHT_AND_LOWER_TRIANGULAR_THREE_QUARTERS_BLOCK) BLADE_SCISSORS",
  "FIVE_EIGHTHS_BLOCK HALF(CIRCLE BLOCK(. AND_LOWER_HALF_INVERSE_MEDIUM_SHADE)",
  "INVERSE(MEDIUM_SHADE_AND_LOWER_HALF_BLOCK WHITE_CIRCLE) MEDIUM_SHADE) LEFT(TRIANGLE",
  "BLOCK_DIAGONAL(LOWER(CENTRE_TO(LOWER_MIDDLE_RIGHT UPPER(RIGHT MIDDLE_RIGHT))",
  "LEFT_TO(LOWER_MIDDLE_RIGHT UPPER(CENTRE MIDDLE_RIGHT)) MIDDLE_LEFT_TO_UPPER(CENTRE RIGHT",
  "MIDDLE_RIGHT)) UPPER_MIDDLE_LEFT_TO_UPPER(CENTRE RIGHT)) CORNER_WITH_DOT",
  "OR_LOWER_RIGHT_CURLY_BRACKET_SECTION QUADRANT_CIRCULAR_ARC TO_LOWER_RIGHT_FILL",
  "TRIANGULAR_MEDIUM_SHADE) ONE(EIGHTH_BLOCK QUARTER_BLOCK) RIGHT(PENCIL TRIANGLE",
  "BLOCK_DIAGONAL(LOWER_MIDDLE_LEFT_TO_LOWER(CENTRE RIGHT) UPPER(CENTRE_TO(LOWER(RIGHT",
  "MIDDLE_RIGHT) UPPER_MIDDLE_RIGHT) LEFT_TO(LOWER(CENTRE MIDDLE_RIGHT) UPPER_MIDDLE_RIGHT)",
  "MIDDLE_LEFT_TO_LOWER(CENTRE RIGHT MIDDLE_RIGHT))) DROP-SHADOWED_WHITE_SQUARE",
  "OR_LOWER_LEFT_CURLY_BRACKET_SECTION QUADRANT_CIRCULAR_ARC SHADOWED_WHITE(CIRCLE SQUARE)",
  "TO_LOWER_LEFT_FILL TRIANGULAR_MEDIUM_SHADE) SEVEN_EIGHTHS_BLOCK THREE(EIGHTHS_BLOCK",
  "QUARTERS_BLOCK) TRIANGULAR_ONE_QUARTER_BLOCK) UPWARDS(ANCORA ROCKET ARROW(.",
  "AND_RIGHT_ONE_EIGHTH_BLOCK FROM_BAR LEFTWARDS_OF_DOWNWARDS_ARROW TO_BAR WITH(DOUBLE_STROKE",
  "EQUILATERAL_ARROWHEAD HORIZONTAL_STROKE LARGE_TRIANGLE_ARROWHEAD MEDIUM_TRIANGLE_ARROWHEAD",
  "NOTCHED_TAIL SMALL(EQUILATERAL_ARROWHEAD TRIANGLE_ARROWHEAD) TIP(LEFTWARDS RIGHTWARDS)))",
  "BLACK(ARROW CIRCLED_WHITE_ARROW) COMPRESSED_ARROW DASHED_ARROW DOUBLE_ARROW FINGER-POST_ARROW",
  "HARPOON_WITH_BARB(LEFTWARDS RIGHTWARDS LEFT(BESIDE(DOWNWARDS_HARPOON_WITH_BARB_RIGHT",
  "UPWARDS_HARPOON_WITH_BARB_RIGHT) FROM_BAR TO_BAR) RIGHT(FROM_BAR TO_BAR)) HEAVY(ARROW",
  "COMPRESSED_ARROW) PAIRED_ARROWS QUADRUPLE_ARROW SANS-SERIF_ARROW SQUARED_ARROW",
  "TRIANGLE_ARROWHEAD TRIANGLE-HEADED(ARROW(. LEFTWARDS_OF_DOWNWARDS_TRIANGLE-HEADED_ARROW TO_BAR",
  "WITH(BOLD_SHAFT DOUBLE_HORIZONTAL_STROKE HEAVY_SHAFT LONG_TIP(LEFTWARDS RIGHTWARDS)",
  "MEDIUM_SHAFT NARROW_SHAFT VERY_HEAVY_SHAFT)) DASHED_ARROW PAIRED_ARROWS) TRIPLE_ARROW",
  "TWO_HEADED_ARROW TWO-HEADED_ARROW(FROM_SMALL_CIRCLE WITH_TRIANGLE_ARROWHEADS) WHITE(ARROW(.",
  "FROM_BAR(. WITH_HORIZONTAL_BAR) ON_PEDESTAL(. WITH(HORIZONTAL_BAR VERTICAL_BAR))",
  "WITHIN_TRIANGLE_ARROWHEAD) DOUBLE_ARROW(. ON_PEDESTAL))) VAI(COMMA DIGIT(EIGHT FIVE FOUR NINE",
  "ONE SEVEN SIX THREE TWO ZERO) FULL_STOP QUESTION_MARK SYLLABLE(A AN BA BE BEE BHA BHE BHEE BHI",
  "BHO BHOO BHU BI BO BOO BU CA CE CEE CI CO COO CU DA DE DEE DHA DHE DHEE DHHA DHHE DHHEE DHHI",
  "DHHO DHHOO DHHU DHI DHO DHOO DHU DI DO DOO DU E EE EEN EN FA FE FEE FI FO FOO FU GA GBA GBE",
  "GBEE GBEN GBI GBO GBON GBOO GBU GE GEE GEN GI GO GOO GU HA HAN HE HEE HEN HI HIN HO HON HOO HU",
  "HUN I IN JA JE JEE JI JO JOO JU KA KAN KE KEE KI KO KOO KPA KPAN KPE KPEE KPEN KPI KPO KPOO",
  "KPU KU LA LE LEE LENGTHENER LI LO LOO LU MA MBA MBE MBEE MBI MBO MBOO MBU ME MEE MGBA MGBE",
  "MGBEE MGBI MGBO MGBOO MGBU MI MO MOO MU NA NDA NDE NDEE NDI NDO NDOO NDU NE NEE NG NGAN NGEN",
  "NGGA NGGE NGGEE NGGEN NGGI NGGO NGGOO NGGU NGON NI NJA NJE NJEE NJI NJO NJOO NJU NO NOO NU NYA",
  "NYE NYEE NYI NYO NYOO NYU O ON OO OON PA PE PEE PI PO POO PU RA RE REE RI RO ROO RU SA SE SEE",
  "SHA SHE SHEE SHI SHO SHOO SHU SI SO SOO SU TA TE TEE THA THE THEE THI THO THOO THU TI TO TOO",
  "TU U UN VA VE VEE VI VO VOO VU WA WAN WE WEE WEEN WEN WI WIN WO WON WOO WOON WU WUN YA YE YEE",
  "YI YO YOO YU ZA ZE ZEE ZHA ZHE ZHEE ZHI ZHO ZHOO ZHU ZI ZO ZOO ZU NDOLE(DO FA KA MA SOO))",
  "SYMBOL(BANG DANG DO-O DOONG FAA FEENG JONG KEENG KUNG NII TAA TING TONG))",
  "VARIATION(SELECTOR-1~9 SELECTOR-10~99 SELECTOR-100~256) VEDIC(SIGN(ARDHAVISARGA ATIKRAMA",
  "JIHVAMULIYA NIHSHVASA TIRYAK UPADHMANIYA ANUSVARA(ANTARGOMUKHA BAHIRGOMUKHA UBHAYATO_MUKHA",
  "VAMAGOMUKHA(. WITH_TAIL)) DOUBLE_ANUSVARA_ANTARGOMUKHA HEXIFORM_LONG_ANUSVARA LONG_ANUSVARA",
  "REVERSED_VISARGA(ANUDATTA UDATTA) ROTATED_ARDHAVISARGA RTHANG_LONG_ANUSVARA VISARGA(SVARITA",
  "ANUDATTA(. WITH_TAIL) UDATTA(. WITH_TAIL)) YAJURVEDIC_MIDLINE_SVARITA) TONE(KARSHANA PRENKHA",
  "SHARA ATHARVAVEDIC_INDEPENDENT_SVARITA CANDRA(ABOVE BELOW) DOT_BELOW DOUBLE(SVARITA",
  "RING_ABOVE) KATHAKA_ANUDATTA RIGVEDIC_KASHMIRI_INDEPENDENT_SVARITA RING_ABOVE THREE_DOTS_BELOW",
  "TRIPLE_SVARITA TWO_DOTS_BELOW YAJURVEDIC(AGGRAVATED_INDEPENDENT_SVARITA INDEPENDENT_SVARITA",
  "KATHAKA_INDEPENDENT_SVARITA(. SCHROEDER)))) VERTICAL(ELLIPSIS TILDE BAR(BESIDE_RIGHT_TRIANGLE",
  "DOUBLE_LEFT_TURNSTILE TRIPLE_RIGHT_TURNSTILE WITH_HORIZONTAL_STROKE) FOUR_DOTS",
  "IDEOGRAPHIC_ITERATION_MARK KANA_REPEAT(MARK(. LOWER_HALF UPPER_HALF) WITH_VOICED_SOUND_MARK(.",
  "UPPER_HALF)) LINE(. EXTENSION WITH(CIRCLE(ABOVE BELOW) MIDDLE_DOT)) MALE_WITH_STROKE_SIGN",
  "ONE_EIGHTH(BLOCK-2~7) SIX_DOTS TAB_KEY TABULATION(. SET) TRAFFIC_LIGHT ZIGZAG_LINE)",
  "VERY(BOLD_GREEK_CROSS HEAVY(SALTIRE SOLIDUS EIGHT(POINTED_BLACK_STAR SPOKED_ASTERISK)",
  "FIVE_SPOKED_ASTERISK GREEK_CROSS REVERSE_SOLIDUS SIX_SPOKED_ASTERISK WHITE(CIRCLE SQUARE))",
  "MUCH(GREATER-THAN LESS-THAN)) VIDEO(CAMERA GAME) VIETNAMESE_ALTERNATE_READING_MARK(CA NHAY)",
  "VITHKUQI(CAPITAL_LETTER(A BBE BE CE CHE DE DHE E EI FE GA HA HHA I IJE JE KA LA LLA ME NE NJE",
  "O PE QA RE SE SHE TE THE U VE XE Y ZE) SMALL_LETTER(A BBE BE CE CHE DE DHE E EI FE GA HA HHA I",
  "IJE JE KA LA LLA ME NE NJE O PE QA RE SE SHE TE THE U VE XE Y ZE))",
  "VULGAR_FRACTION(FIVE(EIGHTHS SIXTHS) FOUR_FIFTHS ONE(EIGHTH FIFTH HALF NINTH QUARTER SEVENTH",
  "SIXTH TENTH THIRD) SEVEN_EIGHTHS THREE(EIGHTHS FIFTHS QUARTERS) TWO(FIFTHS THIRDS)",
  "ZERO_THIRDS) WANCHO(DIGIT(EIGHT FIVE FOUR NINE ONE SEVEN SIX THREE TWO ZERO) LETTER(A AA AAN",
  "AANG ANG AU BA CA DA E EN FA GA HA I ING JA KA KHA LA LLHA MA NA NGA NYA O ON ONG PA PHA RA SA",
  "SHA TA THA TRA TSA U UEN VA WA YA YIH ZA) NGUN_SIGN TONE(KOI KOINI TUP TUPNI))",
  "WANING(CRESCENT_MOON_SYMBOL GIBBOUS_MOON_SYMBOL) WARANG_CITI(OM CAPITAL_LETTER(A AM ANG AT BU",
  "DA E ENN ENY GA HAR HIYO HOLO HORR II KO NGAA NUNG O ODD PU SII SSUU TTE UC UU VIYO WI YA YO",
  "YU YUJ) DIGIT(EIGHT FIVE FOUR NINE ONE SEVEN SIX THREE TWO ZERO) NUMBER(EIGHTY FIFTY FORTY",
  "NINETY SEVENTY SIXTY TEN THIRTY TWENTY) SMALL_LETTER(A AM ANG AT BU DA E ENN ENY GA HAR HIYO",
  "HOLO HORR II KO NGAA NUNG O ODD PU SII SSUU TTE UC UU VIYO WI YA YO YU YUJ)) WATER(BUFFALO",
  "CLOSET POLO WAVE) WAVE(DASH ARROW_POINTING_DIRECTLY(LEFT RIGHT)) WAVING(BLACK_FLAG HAND_SIGN",
  "WHITE_FLAG) WAVY(DASH LINE OVERLINE LOW_LINE) WAXING(CRESCENT_MOON_SYMBOL GIBBOUS_MOON_SYMBOL)",
  "WEARY(FACE CAT_FACE) WHEEL(. OF_DHARMA) WHITE(BULLET FLORETTE FLOWER HEXAGON HOURGLASS NIB",
  "PARALLELOGRAM PENNANT PENTAGON RECTANGLE SCISSORS STAR TELEPHONE TRAPEZIUM",
  "ARROW_SHAFT_WIDTH(ONE TWO_THIRDS) CHESS(KNIGHT-BISHOP KNIGHT-QUEEN KNIGHT-ROOK BISHOP(.",
  "ROTATED(NINETY_DEGREES TWO_HUNDRED_SEVENTY_DEGREES)) EQUIHOPPER(. ROTATED_NINETY_DEGREES)",
  "KING(. ROTATED(NINETY_DEGREES TWO_HUNDRED_SEVENTY_DEGREES)) KNIGHT(.",
  "ROTATED(FORTY-FIVE_DEGREES NINETY_DEGREES ONE_HUNDRED_THIRTY-FIVE_DEGREES",
  "THREE_HUNDRED_FIFTEEN_DEGREES TWO_HUNDRED(SEVENTY_DEGREES TWENTY-FIVE_DEGREES))) PAWN(.",
  "ROTATED(NINETY_DEGREES TWO_HUNDRED_SEVENTY_DEGREES)) QUEEN(. ROTATED(NINETY_DEGREES",
  "TWO_HUNDRED_SEVENTY_DEGREES)) ROOK(. ROTATED(NINETY_DEGREES TWO_HUNDRED_SEVENTY_DEGREES))",
  "TURNED(BISHOP KING KNIGHT PAWN QUEEN ROOK)) CIRCLE(. CONTAINING_BLACK_SMALL_CIRCLE",
  "WITH(DOT_RIGHT DOWN_ARROW LOWER(LEFT_QUADRANT RIGHT_QUADRANT) TWO_DOTS UPPER(LEFT_QUADRANT",
  "RIGHT_QUADRANT))) CLUB_SUIT CONCAVE-SIDED_DIAMOND(. WITH(LEFTWARDS_TICK RIGHTWARDS_TICK))",
  "DIAMOND(. SUIT CONTAINING_BLACK(MEDIUM_DIAMOND SMALL_DIAMOND VERY_SMALL_DIAMOND) IN_SQUARE",
  "WITH_CENTRED_DOT) DOWN_POINTING(INDEX BACKHAND_INDEX LEFT_HAND_INDEX) DOWN-POINTING(TRIANGLE",
  "SMALL_TRIANGLE) DRAUGHTS(KING MAN) EXCLAMATION_MARK_ORNAMENT FLAG(.",
  "WITH_HORIZONTAL_MIDDLE_BLACK_STRIPE) FOUR_POINTED(CUSP STAR) FROWNING_FACE",
  "HARD_SHELL_FLOPPY_DISK HEART(. SUIT) HEAVY(CHECK_MARK SALTIRE_WITH_ROUNDED_CORNERS)",
  "HORIZONTAL_ELLIPSE LARGE_SQUARE LATIN_CROSS LEFT(LANE_MERGE POINTING(INDEX BACKHAND_INDEX))",
  "LEFT-POINTING(POINTER TRIANGLE SMALL_TRIANGLE) LOZENGE_CONTAINING_BLACK_SMALL_LOZENGE",
  "MEDIUM(DIAMOND LOZENGE SQUARE STAR SMALL_SQUARE) MOON_SELENA QUESTION_MARK_ORNAMENT",
  "RIGHT_POINTING(INDEX BACKHAND_INDEX) RIGHT-POINTING(PENTAGON POINTER TRIANGLE SMALL_TRIANGLE)",
  "SESAME_DOT SHOGI_PIECE SMALL(LOZENGE SQUARE STAR) SMILING_FACE SPADE_SUIT SQUARE(. BUTTON",
  "CONTAINING_BLACK(MEDIUM_SQUARE SMALL_SQUARE VERY_SMALL_SQUARE) WITH(CENTRE_VERTICAL_LINE",
  "LEFTWARDS_TICK LOWER(LEFT_QUADRANT RIGHT_QUADRANT) RIGHTWARDS_TICK ROUNDED_CORNERS",
  "UPPER(LEFT_QUADRANT RIGHT_QUADRANT) VERTICAL_BISECTING_LINE)) SUN(. BEHIND_CLOUD(. WITH_RAIN)",
  "WITH(RAYS SMALL_CLOUD)) TOUCHTONE_TELEPHONE TRIANGLE_CONTAINING_SMALL_WHITE_TRIANGLE",
  "TWO-WAY_LEFT_WAY_TRAFFIC UP_POINTING(INDEX BACKHAND_INDEX) UP-POINTING(CHEVRON SMALL_TRIANGLE",
  "TRIANGLE(. WITH_DOT)) VERTICAL(BAR ELLIPSE RECTANGLE) VERY_SMALL_SQUARE)",
  "WIDE-HEADED(DOWNWARDS(BARB_ARROW HEAVY_BARB_ARROW LIGHT_BARB_ARROW MEDIUM_BARB_ARROW",
  "VERY_HEAVY_BARB_ARROW) LEFTWARDS(BARB_ARROW HEAVY_BARB_ARROW LIGHT_BARB_ARROW",
  "MEDIUM_BARB_ARROW VERY_HEAVY_BARB_ARROW) NORTH(EAST(BARB_ARROW HEAVY_BARB_ARROW",
  "LIGHT_BARB_ARROW MEDIUM_BARB_ARROW VERY_HEAVY_BARB_ARROW) WEST(BARB_ARROW HEAVY_BARB_ARROW",
  "LIGHT_BARB_ARROW MEDIUM_BARB_ARROW VERY_HEAVY_BARB_ARROW)) RIGHTWARDS(BARB_ARROW",
  "HEAVY_BARB_ARROW LIGHT_BARB_ARROW MEDIUM_BARB_ARROW VERY_HEAVY_BARB_ARROW)",
  "SOUTH(EAST(BARB_ARROW HEAVY_BARB_ARROW LIGHT_BARB_ARROW MEDIUM_BARB_ARROW",
  "VERY_HEAVY_BARB_ARROW) WEST(BARB_ARROW HEAVY_BARB_ARROW LIGHT_BARB_ARROW MEDIUM_BARB_ARROW",
  "VERY_HEAVY_BARB_ARROW)) UPWARDS(BARB_ARROW HEAVY_BARB_ARROW LIGHT_BARB_ARROW MEDIUM_BARB_ARROW",
  "VERY_HEAVY_BARB_ARROW)) WIND(CHIME BLOWING_FACE) WOMAN(. WITH_BUNNY_EARS) WOMANS(BOOTS CLOTHES",
  "HAT SANDAL) WORD(JOINER SEPARATOR_MIDDLE_DOT) XIANGQI(BLACK(CANNON CHARIOT ELEPHANT GENERAL",
  "HORSE MANDARIN SOLDIER) RED(CANNON CHARIOT ELEPHANT GENERAL HORSE MANDARIN SOLDIER))",
  "YEZIDI(COMBINING(HAMZA_MARK MADDA_MARK) HYPHENATION_MARK LETTER(BE CHHIM CHIM CIM DAD DAL ELIF",
  "ET EW EYN FA GAF HAY HHA JA KAF KHAF MIM NUN OW PE PHE QAF RA RHA SAD SE SHIN SIN TA THE UM",
  "WAW XA XHEYN ZA ZAL ZE LAM(. WITH_DOT_ABOVE) VA(. ALTERNATE_FORM) YOT(.",
  "WITH_CIRCUMFLEX_ABOVE))) YI(RADICAL(BBUT BUR CHE CIP CUOP CY CYP CYT DDUR DU GA GEP GGOP GGUO",
  "GOT HMO HXIT HXOP HXUO JJIE JJUT JJY JO KE KIT LI LIE LYR MI MOP NBIE NYIP NYOP NZUP OP PUT",
  "PYT QOT SHAT SHOP SHUR SHY SSI TAT TU VEP VUR WO YIT YO ZA ZOT ZUP ZUR ZZIET) SYLLABLE(A AP AT",
  "AX BA BAP BAT BAX BBA BBAP BBAT BBAX BBE BBEP BBEX BBI BBIE BBIEP BBIET BBIEX BBIP BBIT BBIX",
  "BBO BBOP BBOT BBOX BBU BBUO BBUOP BBUOX BBUP BBUR BBURX BBUT BBUX BBY BBYP BBYT BBYX BE BEP",
  "BEX BI BIE BIEP BIET BIEX BIP BIT BIX BO BOP BOT BOX BU BUO BUOP BUOX BUP BUR BURX BUT BUX BY",
  "BYP BYR BYRX BYT BYX CA CAP CAT CAX CE CEP CEX CHA CHAP CHAT CHAX CHE CHEP CHET CHEX CHO CHOP",
  "CHOT CHOX CHU CHUO CHUOP CHUOT CHUOX CHUP CHUR CHURX CHUX CHY CHYP CHYR CHYRX CHYT CHYX CI CIE",
  "CIEP CIET CIEX CIP CIT CIX CO COP COT COX CU CUO CUOP CUOX CUP CUR CURX CUT CUX CY CYP CYR",
  "CYRX CYT CYX DA DAP DAT DAX DDA DDAP DDAT DDAX DDE DDEP DDEX DDI DDIE DDIEP DDIEX DDIP DDIT",
  "DDIX DDO DDOP DDOT DDOX DDU DDUO DDUOP DDUOX DDUP DDUR DDURX DDUT DDUX DE DEP DEX DI DIE DIEP",
  "DIEX DIP DIT DIX DO DOP DOT DOX DU DUO DUOX DUP DUR DURX DUT DUX E EX FA FAP FAT FAX FI FIP",
  "FIT FIX FO FOP FOX FU FUP FUR FURX FUT FUX FY FYP FYT FYX GA GAP GAT GAX GE GEP GET GEX GGA",
  "GGAP GGAT GGAX GGE GGEP GGET GGEX GGI GGIE GGIEP GGIEX GGIT GGIX GGO GGOP GGOT GGOX GGU GGUO",
  "GGUOP GGUOT GGUOX GGUP GGUR GGURX GGUT GGUX GI GIE GIEP GIET GIEX GIP GIT GIX GO GOP GOT GOX",
  "GU GUO GUOP GUOT GUOX GUP GUR GURX GUT GUX HA HAP HAT HAX HE HEP HEX HIE HIEX HIT HLA HLAP",
  "HLAT HLAX HLE HLEP HLEX HLI HLIE HLIEP HLIEX HLIP HLIT HLIX HLO HLOP HLOX HLU HLUO HLUOP HLUOX",
  "HLUP HLUR HLURX HLUT HLUX HLY HLYP HLYR HLYRX HLYT HLYX HMA HMAP HMAT HMAX HMI HMIE HMIEP",
  "HMIEX HMIP HMIT HMIX HMO HMOP HMOT HMOX HMU HMUO HMUOP HMUOX HMUP HMUR HMURX HMUT HMUX HMY",
  "HMYP HMYR HMYRX HMYX HNA HNAP HNAT HNAX HNE HNEP HNEX HNI HNIE HNIEP HNIET HNIEX HNIP HNIT",
  "HNIX HNOP HNOT HNOX HNUO HNUOX HNUT HO HOP HOT HOX HUO HUOP HUOT HUOX HXA HXAP HXAT HXAX HXE",
  "HXEP HXEX HXI HXIE HXIEP HXIET HXIEX HXIP HXIT HXIX HXO HXOP HXOT HXOX HXUO HXUOP HXUOT HXUOX",
  "I IE IEP IET IEX IP IT IX JI JIE JIEP JIET JIEX JIP JIT JIX JJI JJIE JJIEP JJIET JJIEX JJIP",
  "JJIT JJIX JJO JJOP JJOT JJOX JJU JJUO JJUOP JJUOX JJUP JJUR JJURX JJUT JJUX JJY JJYP JJYT JJYX",
  "JO JOP JOT JOX JU JUO JUOP JUOT JUOX JUP JUR JURX JUT JUX JY JYP JYR JYRX JYT JYX KA KAP KAT",
  "KAX KE KEP KET KEX KI KIE KIEP KIEX KIP KIT KIX KO KOP KOT KOX KU KUO KUOP KUOX KUP KUR KURX",
  "KUT KUX LA LAP LAT LAX LE LEP LEX LI LIE LIEP LIET LIEX LIP LIT LIX LO LOP LOT LOX LU LUO LUOP",
  "LUOT LUOX LUP LUR LURX LUT LUX LY LYP LYR LYRX LYT LYX MA MAP MAT MAX ME MEX MGA MGAP MGAT",
  "MGAX MGE MGEP MGEX MGIE MGIEX MGO MGOP MGOT MGOX MGU MGUO MGUOP MGUOX MGUP MGUR MGURX MGUT",
  "MGUX MI MIE MIEP MIEX MIP MIT MIX MO MOP MOT MOX MU MUO MUOP MUOT MUOX MUP MUR MURX MUT MUX MY",
  "MYP MYT MYX NA NAP NAX NBA NBAP NBAT NBAX NBI NBIE NBIEP NBIEX NBIP NBIT NBIX NBO NBOP NBOT",
  "NBOX NBU NBUP NBUR NBURX NBUT NBUX NBY NBYP NBYR NBYRX NBYT NBYX NDA NDAP NDAT NDAX NDE NDEP",
  "NDEX NDI NDIE NDIEX NDIP NDIT NDIX NDO NDOP NDOT NDOX NDU NDUP NDUR NDURX NDUT NDUX NE NEP NEX",
  "NGA NGAP NGAT NGAX NGE NGEP NGEX NGIE NGIEP NGIEX NGO NGOP NGOT NGOX NGUO NGUOT NGUOX NI NIE",
  "NIEP NIEX NIP NIT NIX NJI NJIE NJIEP NJIET NJIEX NJIP NJIT NJIX NJO NJOP NJOT NJOX NJU NJUO",
  "NJUOX NJUP NJUR NJURX NJUX NJY NJYP NJYR NJYRX NJYT NJYX NO NOP NOT NOX NRA NRAP NRAT NRAX NRE",
  "NREP NRET NREX NRO NROP NROX NRU NRUP NRUR NRURX NRUT NRUX NRY NRYP NRYR NRYRX NRYT NRYX NU",
  "NUO NUOP NUOX NUP NUR NURX NUT NUX NYI NYIE NYIEP NYIET NYIEX NYIP NYIT NYIX NYO NYOP NYOT",
  "NYOX NYU NYUO NYUOP NYUOX NYUP NYUT NYUX NZA NZAP NZAT NZAX NZE NZEX NZI NZIE NZIEP NZIEX NZIP",
  "NZIT NZIX NZOP NZOX NZU NZUO NZUOX NZUP NZUR NZURX NZUX NZY NZYP NZYR NZYRX NZYT NZYX O OP OT",
  "OX PA PAP PAT PAX PI PIE PIEP PIEX PIP PIT PIX PO POP POT POX PU PUO PUOP PUOX PUP PUR PURX",
  "PUT PUX PY PYP PYR PYRX PYT PYX QI QIE QIEP QIET QIEX QIP QIT QIX QO QOP QOT QOX QU QUO QUOP",
  "QUOT QUOX QUP QUR QURX QUT QUX QY QYP QYR QYRX QYT QYX RA RAP RAT RAX RE REP REX RO ROP ROT",
  "ROX RRA RRAX RRE RREP RRET RREX RRO RROP RROT RROX RRU RRUO RRUOX RRUP RRUR RRURX RRUT RRUX",
  "RRY RRYP RRYR RRYRX RRYT RRYX RU RUO RUOP RUOX RUP RUR RURX RUT RUX RY RYP RYR RYRX RYT RYX SA",
  "SAP SAT SAX SE SEP SEX SHA SHAP SHAT SHAX SHE SHEP SHET SHEX SHO SHOP SHOT SHOX SHU SHUO SHUOP",
  "SHUOX SHUP SHUR SHURX SHUT SHUX SHY SHYP SHYR SHYRX SHYT SHYX SI SIE SIEP SIEX SIP SIT SIX SO",
  "SOP SOT SOX SSA SSAP SSAT SSAX SSE SSEP SSEX SSI SSIE SSIEP SSIEX SSIP SSIT SSIX SSO SSOP SSOT",
  "SSOX SSU SSUP SSUT SSUX SSY SSYP SSYR SSYRX SSYT SSYX SU SUO SUOP SUOX SUP SUR SURX SUT SUX SY",
  "SYP SYR SYRX SYT SYX TA TAP TAT TAX TE TEP TEX TI TIE TIEP TIEX TIP TIT TIX TO TOP TOT TOX TU",
  "TUO TUOP TUOT TUOX TUP TUR TURX TUT TUX UO UOP UOX VA VAP VAT VAX VEP VEX VI VIE VIEP VIET",
  "VIEX VIP VIT VIX VO VOP VOT VOX VU VUP VUR VURX VUT VUX VY VYP VYR VYRX VYT VYX WA WAP WAT WAX",
  "WE WEP WEX WO WOP WOX WU WUO WUOP WUOX XI XIE XIEP XIET XIEX XIP XIT XIX XO XOP XOT XOX XUO",
  "XUOX XY XYP XYR XYRX XYT XYX YI YIE YIEP YIET YIEX YIP YIT YIX YO YOP YOT YOX YU YUO YUOP YUOT",
  "YUOX YUP YUR YURX YUT YUX YY YYP YYR YYRX YYT YYX ZA ZAP ZAT ZAX ZE ZEP ZEX ZHA ZHAP ZHAT ZHAX",
  "ZHE ZHEP ZHET ZHEX ZHO ZHOP ZHOT ZHOX ZHU ZHUO ZHUOP ZHUOX ZHUP ZHUR ZHURX ZHUT ZHUX ZHY ZHYP",
  "ZHYR ZHYRX ZHYT ZHYX ZI ZIE ZIEP ZIEX ZIP ZIT ZIX ZO ZOP ZOT ZOX ZU ZUO ZUOP ZUOX ZUP ZUR ZURX",
  "ZUT ZUX ZY ZYP ZYR ZYRX ZYT ZYX ZZA ZZAP ZZAT ZZAX ZZE ZZEP ZZEX ZZI ZZIE ZZIEP ZZIET ZZIEX",
  "ZZIP ZZIT ZZIX ZZO ZZOP ZZOX ZZU ZZUP ZZUR ZZURX ZZUX ZZY ZZYP ZZYR ZZYRX ZZYT ZZYX",
  "ITERATION_MARK)) Z_NOTATION(SPOT BAG_MEMBERSHIP DOMAIN_ANTIRESTRICTION LEFT(BINDING_BRACKET",
  "IMAGE_BRACKET) RANGE_ANTIRESTRICTION RELATIONAL_COMPOSITION RIGHT(BINDING_BRACKET",
  "IMAGE_BRACKET) SCHEMA(COMPOSITION PIPING PROJECTION) TYPE_COLON) ZANABAZAR_SQUARE(SUBJOINER",
  "CLOSING(DOUBLE-LINED_HEAD_MARK HEAD_MARK) CLUSTER-FINAL_LETTER(LA RA VA YA)",
  "CLUSTER-INITIAL_LETTER_RA FINAL_CONSONANT_MARK INITIAL(DOUBLE-LINED_HEAD_MARK HEAD_MARK)",
  "LETTER(-A A BA BHA CA CHA DA DDA DDHA DHA DZA DZHA GA GHA HA JA KA KHA KSSA LA MA NA NGA NNA",
  "NYA PA PHA RA SA SHA SSA TA THA TSA TSHA TTA TTHA VA YA ZA ZHA) MARK(SHAD TSHEG DOUBLE_SHAD",
  "LONG_TSHEG) SIGN(ANUSVARA VIRAMA VISARGA CANDRA_WITH_ORNAMENT CANDRABINDU(. WITH_ORNAMENT))",
  "VOWEL(LENGTH_MARK SIGN(AI AU E I O OE U UE REVERSED_I))) ZERO_WIDTH(JOINER NON-JOINER SPACE",
  "NO-BREAK_SPACE) ZNAMENNY(COMBINING(ATTACHING_VERTICAL_OMET LOWER_TONAL_RANGE_INDICATOR",
  "MARK(BORZAYA DVOETOCHIE KACHKA KUPNAYA LOMKA OBLACHKO ON OTSECHKA PODVERTKA RAVNO RAZSEKA",
  "SKOBA TIKHAYA TOCHKA UDARKA ZADERZHKA ZELO ZEVOK CHASHKA(. POLNAYA) CURVED_OMET",
  "DEMESTVENNY_ZADERZHKA GORAZDO(VYSOKO NIZKO(ON(LEFT RIGHT) S_KRYZHEM_ON(LEFT RIGHT))) KRYZH(.",
  "ON_LEFT) MALO_POVYSHE(STRANNO ON(LEFT RIGHT) S(KRYZHEM KHOKHLOM_ON(LEFT RIGHT))) NIZKO(ON(LEFT",
  "RIGHT) S_KRYZHEM_ON(LEFT RIGHT)) PODCHASHIE(. WITH_VERTICAL_STROKE) POVYSHE(STRANNO ON(LEFT",
  "RIGHT) S(KRYZHEM KHOKHLOM_ON(LEFT RIGHT))) SOROCHYA_NOZHKA SREDNE_ON(LEFT RIGHT)",
  "STRANNO_MALO_POVYSHE TSATA(ON(LEFT RIGHT) S_KRYZHEM) VYSOKO(ON(LEFT RIGHT) S(KRYZHEM",
  "KHOKHLOM_ON(LEFT RIGHT)))) TONAL_RANGE_MARK(MRACHNO SVETLO TRESVETLO)) NEUME(CHASHKA",
  "CHELYUSTKA DERBITSA DUDA FITA KHAMILO KLYUCH KOBYLA KRYZH KUFISMA NEMKA OBLAKO PALKA PARAKLIT",
  "PAUK PODCHASHIE POLKULIZMY ROG ZANOZHEK ZAPYATAYA ZMEYTSA DEMESTVENNY_KLYUCH DOUBLE_ZAPYATAYA",
  "DVA_V_CHELNU GOLUBCHIK(BORZY MRACHNY SVETLY TIKHY TRESVETLY) KRYUK(. TIKHY) MECHIK(.",
  "KLYUCHENEPOSTOYANNY KLYUCHEPOVODNY KLYUCHEVOY POVODNY) OSOKA(. SVETLAYA TRESVETLAYA",
  "KLYUCHEVAYA(NEPOSTOYANNAYA SVETLAYA) KRYUKOVAYA_SVETLAYA) PEREVODKA(. NEPOSTOYANNAYA)",
  "REVERSED_CHELYUSTKA SKAMEYTSA(KLYUCHENEPOSTOYANNAYA MRACHNAYA SVETLAYA TIKHAYA TRESVETLAYA",
  "DVOECHELNAYA(KLYUCHEVAYA NEPOSTOYANNAYA PROSTAYA SVETLAYA) KLYUCHEVAYA(SVETLAYA TIKHAYA))",
  "SLOZHITIE(. ZAKRYTOE S(KRYZHEM ZAPYATOY)) STATYA(. NEPOSTOYANNAYA S(ROGOM DVUMYA_ZAPYATYMI",
  "KRYZHEM(. I_ZAPYATOY) ZAPYATOY(. I(KRYZHEM PODCHASHIEM))) ZAKRYTAYA(. S_ZAPYATOY)) STOPITSA(.",
  "S_OCHKOM WITH_SOROCHYA_NOZHKA) STRELA(DVOECHELNOKRYZHEVAYA KLYUCHENEPOSTOYANNAYA",
  "KLYUCHEPOVODNAYA KRYZHEVAYA MRACHNOTIKHAYA NEPOSTOYANNAYA POLUPOVODNAYA POVODNAYA PROSTAYA",
  "TRYASOGLASNAYA TRYASOPOVODNAYA TRYASOSTRELNAYA DVOECHELNAYA(. KLYUCHEVAYA)",
  "DVOECHELNOPOVODNAYA(. KLYUCHEVAYA) GROMNAYA(. WITH_SINGLE_ZAPYATAYA) GROMOKRYZHEVAYA(.",
  "POVODNAYA) GROMOPOVODNAYA(. WITH(DOUBLE_ZAPYATAYA SINGLE_ZAPYATAYA)) KRYUKOVAYA(. POVODNAYA",
  "TRYASKA GROMNAYA(. WITH_SINGLE_ZAPYATAYA) GROMOKRYZHEVAYA(. POVODNAYA) GROMOPOVODNAYA(.",
  "WITH(DOUBLE_ZAPYATAYA SINGLE_ZAPYATAYA))) TIKHAYA_PUTNAYA) VRAKHIYA(MRACHNAYA PROSTAYA",
  "SVETLAYA TRESVETLAYA KLYUCHEVAYA(MRACHNAYA PROSTAYA SVETLAYA TRESVETLAYA)))",
  "PRIZNAK_MODIFIER(KRYZH ROG LEVEL-2 LEVEL-3 DIRECTION_FLIP))"]

end MacroStubs.Text.CharacterNames
