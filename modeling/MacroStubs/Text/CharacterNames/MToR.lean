/-! # Character names from M to R

Names that begin with a letter from M to R, written as described in `Text/CharacterName`.
-/

namespace MacroStubs.Text.CharacterNames

def initialMToR : List String := [
  "MACRON MAGE MAGNET MAMMOTH MANGO MAXIMIZE MELON MEMO MERCURY MERPERSON METRO MICROBE",
  "MICROPHONE MICROSCOPE MINIBUS MINIDISC MINIMIZE MINY MMSP MODELS MONORAIL MOSQUE MOSQUITO",
  "MOTORWAY MOUTH MOYAI MULTIMAP MUSHROOM MVS MW NABLA NAK NAND NBH NBSP NECKTIE NEL NESSUS",
  "NEUTER NEWSPAPER NINJA NL NNBSP NONFORKING NOR NOSE NUL NULL OCTOPUS ODEN OGONEK OLIVE ONION",
  "OPHIUCHUS OPPOSITION ORANGUTAN OSC OTTER OVERLAP OVERLINE OWL OX OYSTER PACKAGE PAD PAGER",
  "PAGES PAGODA PALLAS PANCAKES PAPERCLIP PARACHUTE PARAGRAPHOS PARROT PDF PDI PEACH PEACOCK",
  "PEANUTS PEAR PEDESTRIAN PENCIL PENGUIN PENTAGRAM PERSPECTIVE PHOLUS PICK PIE PILL PINATA",
  "PINEAPPLE PISCES PISTOL PLACARD PLD PLU PLUNGER PM POODLE POPCORN POSEIDON POSTBOX POTATO",
  "POUCH PRETZEL PRIME PRINCE PRINCESS PROJECTIVE PROPORTION PROSERPINA PURSE PUSHPIN QUINCUNX",
  "RACCOON RAIN RAINBOW RAM RAT RATIO RAZOR RECEIPT RESPONSE RESTROOM RHINOCEROS RI RIFLE RLE RLI",
  "RLM RLO ROCK ROCKET ROOSTER ROSE ROSETTE ROWBOAT RS RULE-DELAYED RUNNER PU1 PU2 MAGIC_WAND",
  "MALTESE_CROSS MANAT_SIGN MANS_SHOE MANTELPIECE_CLOCK MANUAL_WHEELCHAIR",
  "MAP_SYMBOL_FOR_LIGHTHOUSE MAPLE_LEAF MARRIAGE_SYMBOL MARTIAL_ARTS_UNIFORM",
  "MASCULINE_ORDINAL_INDICATOR MASK_WORK_SYMBOL MASU_MARK MATE_DRINK MEAT_ON_BONE MELTING_FACE",
  "MENORAH_WITH_NINE_BRANCHES MENS_SYMBOL MESSAGE_WAITING MICRO_SIGN MIDLINE_HORIZONTAL_ELLIPSIS",
  "MILKY_WAY MILL_SIGN MINUS-OR-PLUS_SIGN MODERN_PENTATHLON MODULO_TWO_SUM MONEY-MOUTH_FACE",
  "MONOSTABLE_SYMBOL MOOD_BUBBLE MOTHER_CHRISTMAS MOTORIZED_WHEELCHAIR MOUNT_FUJI MOVIE_CAMERA",
  "MULTIPLE_MUSICAL_NOTES NAIL_POLISH NAIRA_SIGN NAME_BADGE NARROW_NO-BREAK_SPACE NAUSEATED_FACE",
  "NAZAR_AMULET NEGATED_DOUBLE_VERTICAL_BAR_DOUBLE_RIGHT_TURNSTILE NERD_FACE NEST_WITH_EGGS",
  "NESTING_DOLLS NIGHT_WITH_STARS NO-BREAK_SPACE NOMINAL_DIGIT_SHAPES NOMISMA_SIGN",
  "NON-BREAKING_HYPHEN NON-POTABLE_WATER_SYMBOL NORDIC_MARK_SIGN NORTHEAST-POINTING_AIRPLANE",
  "NUMERO_SIGN NUT_AND_BOLT OBJECT_REPLACEMENT_CHARACTER OBSERVER_EYE_SYMBOL OCTAGONAL_SIGN",
  "OFFICE_BUILDING OHM_SIGN OIL_DRUM OK_HAND_SIGN OM_SYMBOL",
  "ON_WITH_EXCLAMATION_MARK_WITH_LEFT_RIGHT_ARROW_ABOVE ONE-PIECE_SWIMSUIT",
  "OPEN-OUTLINED_RIGHTWARDS_ARROW OPERATING_SYSTEM_COMMAND OPTION_KEY OR_WITH_DOT_INSIDE",
  "ORIGINAL_OF ORTHODOX_CROSS OUNCE_SIGN OUTBOX_TRAY OVERHEATED_FACE PADDING_CHARACTER",
  "PALMS_UP_TOGETHER PANDA_FACE PARAGRAPH_SEPARATOR PARAGRAPHUS_MARK PART_ALTERNATION_MARK",
  "PARTIALLY-RECYCLED_PAPER_SYMBOL PARTNERSHIP_SIGN PARTY_POPPER PASSED_SYMBOL PASSENGER_SHIP",
  "PASSIVE-PULL-DOWN-OUTPUT_SYMBOL PASSIVE-PULL-UP-OUTPUT_SYMBOL PASSPORT_CONTROL PAW_PRINTS",
  "PEACE_SYMBOL PEN_OVER_STAMPED_ENVELOPE PENSIVE_FACE PEOPLE_HUGGING PERCENT_SIGN",
  "PERFORMING_ARTS PERMANENT_PAPER_SIGN PERSEVERING_FACE PERSONAL_COMPUTER PESETA_SIGN PESO_SIGN",
  "PETRI_DISH PICKUP_TRUCK PILCROW_SIGN PILE_OF_POO PINCHED_FINGERS PINCHING_HAND PINE_DECORATION",
  "PINWHEEL_STAR PLAYGROUND_SLIDE PLUS-MINUS_SIGN POCKET_CALCULATOR PORTABLE_STEREO",
  "POSITION_INDICATOR POT_OF_FOOD POTABLE_WATER_SYMBOL POTTED_PLANT POULTRY_LEG POUND_SIGN",
  "POURING_LIQUID PRAYER_BEADS PRESCRIPTION_TAKE PREVIOUS_PAGE PRINT_SCREEN_SYMBOL",
  "PRIVACY_MESSAGE PROBING_CANE PROHIBITED_SIGN PROPERTY_LINE PROPORTIONAL_TO",
  "PUBLIC_ADDRESS_LOUDSPEAKER PUNCTUATION_SPACE PUNCTUS_ELEVATUS_MARK PURPLE_HEART",
  "PUT_LITTER_IN_ITS_PLACE_SYMBOL QUARTER_NOTE QUATERNION_INTEGRAL_OPERATOR QUESTIONED_EQUAL_TO",
  "QUOTATION_MARK RADICAL_SYMBOL_BOTTOM RADIOACTIVE_SIGN RECORD_SEPARATOR RECREATIONAL_VEHICLE",
  "RECYCLED_PAPER_SYMBOL REFERENCE_MARK REGISTERED_SIGN RELIEVED_FACE REMINDER_RIBBON",
  "REPLACEMENT_CHARACTER REVOLVING_HEARTS RIAL_SIGN RIGHT-HANDED_INTERLACED_PENTAGRAM",
  "RIGHT-SHADED_WHITE_RIGHTWARDS_ARROW RIGHT-SIDE_ARC_CLOCKWISE_ARROW RIGHTHAND_INTERIOR_PRODUCT",
  "RINGED_PLANET RINGING_BELL ROASTED_SWEET_POTATO ROBOT_FACE ROLL_OF_PAPER ROLLED-UP_NEWSPAPER",
  "ROLLING_ON_THE_FLOOR_LAUGHING RUBLE_SIGN RUGBY_FOOTBALL RUNNING_SHIRT_WITH_SASH RUPEE_SIGN",
  "MAHAJANI(ABBREVIATION_SIGN LETTER(A BA BHA CA CHA DA DDA DDHA DHA E GA GHA HA I JA JHA KA KHA",
  "LA MA NA NNA NYA O PA PHA RA RRA SA TA THA TTA TTHA U VA) LIGATURE_SHRI SECTION_MARK",
  "SIGN_NUKTA) MAHJONG_TILE(AUTUMN BACK BAMBOO CHRYSANTHEMUM JOKER ORCHID PLUM SPRING SUMMER",
  "WINTER EAST_WIND EIGHT_OF(BAMBOOS CHARACTERS CIRCLES) FIVE_OF(BAMBOOS CHARACTERS CIRCLES)",
  "FOUR_OF(BAMBOOS CHARACTERS CIRCLES) GREEN_DRAGON NINE_OF(BAMBOOS CHARACTERS CIRCLES)",
  "NORTH_WIND ONE_OF(BAMBOOS CHARACTERS CIRCLES) RED_DRAGON SEVEN_OF(BAMBOOS CHARACTERS CIRCLES)",
  "SIX_OF(BAMBOOS CHARACTERS CIRCLES) SOUTH_WIND THREE_OF(BAMBOOS CHARACTERS CIRCLES)",
  "TWO_OF(BAMBOOS CHARACTERS CIRCLES) WEST_WIND WHITE_DRAGON) MAKASAR(ANGKA PASSIMBANG",
  "END_OF_SECTION LETTER(A BA CA DA GA JA KA LA MA NA NGA NYA PA RA SA TA VA YA) VOWEL_SIGN(E I O",
  "U)) MALAYALAM(AU_LENGTH_MARK DATE_MARK DIGIT(EIGHT FIVE FOUR NINE ONE SEVEN SIX THREE TWO",
  "ZERO) FRACTION(ONE(EIGHTH FIFTH FORTIETH HALF ONE-HUNDRED-AND-SIXTIETH QUARTER SIXTEENTH TENTH",
  "TWENTIETH) THREE(EIGHTIETHS QUARTERS SIXTEENTHS TWENTIETHS)) LETTER(A AA AI AU BA BHA CA CHA",
  "DA DDA DDHA DHA E EE GA GHA HA I II JA JHA KA KHA LA LLA LLLA MA NA NGA NNA NNNA NYA O OO PA",
  "PHA RA RRA SA SHA SSA TA THA TTA TTHA TTTA U UU VA YA ARCHAIC_II CHILLU(K L LL LLL M N NN RR",
  "Y) DOT_REPH VEDIC_ANUSVARA VOCALIC(L LL R RR)) NUMBER(TEN ONE(HUNDRED THOUSAND)) SIGN(ANUSVARA",
  "AVAGRAHA CANDRABINDU PARA VIRAMA VISARGA CIRCULAR_VIRAMA COMBINING_ANUSVARA_ABOVE",
  "VERTICAL_BAR_VIRAMA) VOWEL_SIGN(AA AI AU E EE I II O OO U UU VOCALIC(L LL R RR))) MALE(SIGN",
  "AND_FEMALE_SIGN WITH_STROKE(SIGN AND_MALE_AND_FEMALE_SIGN)) MAN(. DANCING",
  "AND_WOMAN_HOLDING_HANDS IN(TUXEDO BUSINESS_SUIT_LEVITATING) WITH(TURBAN GUA_PI_MAO))",
  "MANDAIC(PUNCTUATION AFFRICATION_MARK GEMINATION_MARK LETTER(AB AD AG AH AIN AK AKSA AL AM AN",
  "AP AQ AR AS ASH ASZ AT ATT AZ DUSHENNA HALQA IN IT KAD USHENNA) VOCALIZATION_MARK)",
  "MANICHAEAN(ABBREVIATION_MARK(ABOVE BELOW) LETTER(AAYIN ALEPH AYIN BETH BHETH DALETH DHAMEDH FE",
  "GHIMEL GIMEL HE HETH JAYIN JHAYIN KAPH KHAPH LAMEDH MEM NUN PE QHOPH QOPH RESH SADHE SAMEKH",
  "SHIN SSHIN TAW TETH THAMEDH WAW XAPH XOPH YODH ZAYIN ZHAYIN) NUMBER(FIVE TEN TWENTY ONE(.",
  "HUNDRED)) PUNCTUATION(FLEURON STAR DOT(. WITHIN_DOT) DOUBLE_DOT_WITHIN_DOT LINE_FILLER",
  "TWO_DOTS) SIGN_UD) MARCHEN(HEAD_MARK LETTER(-A A BA CA CHA DA DZA GA HA JA KA KHA LA MA NA NGA",
  "NYA PA PHA RA SA SHA TA THA TSA TSHA WA YA ZA ZHA) MARK_SHAD SIGN(ANUSVARA CANDRABINDU)",
  "SUBJOINED_LETTER(A BA CA CHA DA DZA GA HA JA KA KHA LA MA NA NGA NYA PA PHA RA SA SHA TA THA",
  "TSA TSHA WA YA ZA ZHA) VOWEL_SIGN(AA E I O U)) MASARAM_GONDI(RA-KARA REPHA VIRAMA DIGIT(EIGHT",
  "FIVE FOUR NINE ONE SEVEN SIX THREE TWO ZERO) LETTER(A AA AI AU BA BHA CA CHA DA DDA DDHA DHA E",
  "GA GHA HA I II JA JHA JNYA KA KHA KSSA LA LLA MA NA NGA NNA NYA O PA PHA RA SA SHA SSA TA THA",
  "TRA TTA TTHA U UU VA YA) SIGN(ANUSVARA CANDRA HALANTA NUKTA VISARGA) VOWEL_SIGN(AA AI AU E I",
  "II O U UU VOCALIC_R)) MATHEMATICAL(BOLD(NABLA CAPITAL(A ALPHA B BETA C CHI D DELTA DIGAMMA E",
  "EPSILON ETA F G GAMMA H I IOTA J K KAPPA L LAMDA M MU N NU O OMEGA OMICRON P PHI PI PSI Q R",
  "RHO S SIGMA T TAU U UPSILON V W X XI Y Z ZETA THETA(. SYMBOL)) DIGIT(EIGHT FIVE FOUR NINE ONE",
  "SEVEN SIX THREE TWO ZERO) EPSILON_SYMBOL FRAKTUR(CAPITAL(A B C D E F G H I J K L M N O P Q R S",
  "T U V W X Y Z) SMALL(A B C D E F G H I J K L M N O P Q R S T U V W X Y Z)) ITALIC(NABLA",
  "CAPITAL(A ALPHA B BETA C CHI D DELTA E EPSILON ETA F G GAMMA H I IOTA J K KAPPA L LAMDA M MU N",
  "NU O OMEGA OMICRON P PHI PI PSI Q R RHO S SIGMA T TAU U UPSILON V W X XI Y Z ZETA THETA(.",
  "SYMBOL)) EPSILON_SYMBOL KAPPA_SYMBOL PARTIAL_DIFFERENTIAL PHI_SYMBOL PI_SYMBOL RHO_SYMBOL",
  "SMALL(A ALPHA B BETA C CHI D DELTA E EPSILON ETA F G GAMMA H I IOTA J K KAPPA L LAMDA M MU N",
  "NU O OMEGA OMICRON P PHI PI PSI Q R RHO S SIGMA T TAU THETA U UPSILON V W X XI Y Z ZETA",
  "FINAL_SIGMA) THETA_SYMBOL) KAPPA_SYMBOL PARTIAL_DIFFERENTIAL PHI_SYMBOL PI_SYMBOL RHO_SYMBOL",
  "SCRIPT(CAPITAL(A B C D E F G H I J K L M N O P Q R S T U V W X Y Z) SMALL(A B C D E F G H I J",
  "K L M N O P Q R S T U V W X Y Z)) SMALL(A ALPHA B BETA C CHI D DELTA DIGAMMA E EPSILON ETA F G",
  "GAMMA H I IOTA J K KAPPA L LAMDA M MU N NU O OMEGA OMICRON P PHI PI PSI Q R RHO S SIGMA T TAU",
  "THETA U UPSILON V W X XI Y Z ZETA FINAL_SIGMA) THETA_SYMBOL) DOUBLE-STRUCK(CAPITAL(A B D E F G",
  "I J K L M O S T U V W X Y) DIGIT(EIGHT FIVE FOUR NINE ONE SEVEN SIX THREE TWO ZERO) SMALL(A B",
  "C D E F G H I J K L M N O P Q R S T U V W X Y Z)) FALLING_DIAGONAL FRAKTUR(CAPITAL(A B D E F G",
  "J K L M N O P Q S T U V W X Y) SMALL(A B C D E F G H I J K L M N O P Q R S T U V W X Y Z))",
  "ITALIC(NABLA CAPITAL(A ALPHA B BETA C CHI D DELTA E EPSILON ETA F G GAMMA H I IOTA J K KAPPA L",
  "LAMDA M MU N NU O OMEGA OMICRON P PHI PI PSI Q R RHO S SIGMA T TAU U UPSILON V W X XI Y Z ZETA",
  "THETA(. SYMBOL)) EPSILON_SYMBOL KAPPA_SYMBOL PARTIAL_DIFFERENTIAL PHI_SYMBOL PI_SYMBOL",
  "RHO_SYMBOL SMALL(A ALPHA B BETA C CHI D DELTA E EPSILON ETA F G GAMMA I IOTA J K KAPPA L LAMDA",
  "M MU N NU O OMEGA OMICRON P PHI PI PSI Q R RHO S SIGMA T TAU THETA U UPSILON V W X XI Y Z ZETA",
  "DOTLESS(I J) FINAL_SIGMA) THETA_SYMBOL) LEFT(ANGLE_BRACKET DOUBLE_ANGLE_BRACKET",
  "FLATTENED_PARENTHESIS WHITE(SQUARE_BRACKET TORTOISE_SHELL_BRACKET)) MONOSPACE(CAPITAL(A B C D",
  "E F G H I J K L M N O P Q R S T U V W X Y Z) DIGIT(EIGHT FIVE FOUR NINE ONE SEVEN SIX THREE",
  "TWO ZERO) SMALL(A B C D E F G H I J K L M N O P Q R S T U V W X Y Z)) RIGHT(ANGLE_BRACKET",
  "DOUBLE_ANGLE_BRACKET FLATTENED_PARENTHESIS WHITE(SQUARE_BRACKET TORTOISE_SHELL_BRACKET))",
  "RISING_DIAGONAL SANS-SERIF(BOLD(NABLA CAPITAL(A ALPHA B BETA C CHI D DELTA E EPSILON ETA F G",
  "GAMMA H I IOTA J K KAPPA L LAMDA M MU N NU O OMEGA OMICRON P PHI PI PSI Q R RHO S SIGMA T TAU",
  "U UPSILON V W X XI Y Z ZETA THETA(. SYMBOL)) DIGIT(EIGHT FIVE FOUR NINE ONE SEVEN SIX THREE",
  "TWO ZERO) EPSILON_SYMBOL ITALIC(NABLA CAPITAL(A ALPHA B BETA C CHI D DELTA E EPSILON ETA F G",
  "GAMMA H I IOTA J K KAPPA L LAMDA M MU N NU O OMEGA OMICRON P PHI PI PSI Q R RHO S SIGMA T TAU",
  "U UPSILON V W X XI Y Z ZETA THETA(. SYMBOL)) EPSILON_SYMBOL KAPPA_SYMBOL PARTIAL_DIFFERENTIAL",
  "PHI_SYMBOL PI_SYMBOL RHO_SYMBOL SMALL(A ALPHA B BETA C CHI D DELTA E EPSILON ETA F G GAMMA H I",
  "IOTA J K KAPPA L LAMDA M MU N NU O OMEGA OMICRON P PHI PI PSI Q R RHO S SIGMA T TAU THETA U",
  "UPSILON V W X XI Y Z ZETA FINAL_SIGMA) THETA_SYMBOL) KAPPA_SYMBOL PARTIAL_DIFFERENTIAL",
  "PHI_SYMBOL PI_SYMBOL RHO_SYMBOL SMALL(A ALPHA B BETA C CHI D DELTA E EPSILON ETA F G GAMMA H I",
  "IOTA J K KAPPA L LAMDA M MU N NU O OMEGA OMICRON P PHI PI PSI Q R RHO S SIGMA T TAU THETA U",
  "UPSILON V W X XI Y Z ZETA FINAL_SIGMA) THETA_SYMBOL) CAPITAL(A B C D E F G H I J K L M N O P Q",
  "R S T U V W X Y Z) DIGIT(EIGHT FIVE FOUR NINE ONE SEVEN SIX THREE TWO ZERO) ITALIC(CAPITAL(A B",
  "C D E F G H I J K L M N O P Q R S T U V W X Y Z) SMALL(A B C D E F G H I J K L M N O P Q R S T",
  "U V W X Y Z)) SMALL(A B C D E F G H I J K L M N O P Q R S T U V W X Y Z)) SCRIPT(CAPITAL(A C D",
  "G J K N O P Q S T U V W X Y Z) SMALL(A B C D F H I J K L M N P Q R S T U V W X Y Z)))",
  "MAYAN_NUMERAL(EIGHT EIGHTEEN ELEVEN FIFTEEN FIVE FOUR FOURTEEN NINE NINETEEN ONE SEVEN",
  "SEVENTEEN SIX SIXTEEN TEN THIRTEEN THREE TWELVE TWO ZERO) MEASURED(BY ANGLE(. OPENING_LEFT",
  "WITH_OPEN_ARM_ENDING_IN_ARROW_POINTING(DOWN_AND(LEFT RIGHT) LEFT_AND(DOWN UP) RIGHT_AND(DOWN",
  "UP) UP_AND(LEFT RIGHT))) RIGHT_ANGLE_WITH_DOT) MECHANICAL(ARM LEG) MEDEFAIDRIN(COMMA",
  "CAPITAL_LETTER(A AI ATIU B C D E F G H HP I J K KP L M N NG NY O OE P Q R S T U V W X Y YU Z)",
  "DIGIT(EIGHT FIVE FOUR NINE SEVEN SIX ZERO ONE(. ALTERNATE_FORM) THREE(. ALTERNATE_FORM) TWO(.",
  "ALTERNATE_FORM)) EXCLAMATION_OH FULL_STOP NUMBER(EIGHTEEN ELEVEN FIFTEEN FOURTEEN NINETEEN",
  "SEVENTEEN SIXTEEN TEN THIRTEEN TWELVE) SMALL_LETTER(A AI ATIU B C D E F G H HP I J K KP L M N",
  "NG NY O OE P Q R S T U V W X Y YU Z) SYMBOL_AIVA) MEDIEVAL(COMMA EXCLAMATION_MARK",
  "QUESTION_MARK) MEDIUM(SALTIRE SHADE BLACK_CIRCLE BOLD_WHITE_CIRCLE EIGHT(POINTED_BLACK_STAR",
  "SPOKED_ASTERISK) FIVE_SPOKED_ASTERISK FLATTENED(LEFT_PARENTHESIS_ORNAMENT",
  "RIGHT_PARENTHESIS_ORNAMENT) FOUR_POINTED(BLACK_STAR PINWHEEL_STAR) GREEK_CROSS",
  "LEFT(CURLY_BRACKET_ORNAMENT PARENTHESIS_ORNAMENT) LEFT-POINTING_ANGLE_BRACKET_ORNAMENT",
  "MATHEMATICAL_SPACE RIGHT(CURLY_BRACKET_ORNAMENT PARENTHESIS_ORNAMENT)",
  "RIGHT-POINTING_ANGLE_BRACKET_ORNAMENT SIX(POINTED_BLACK_STAR SPOKED_ASTERISK)",
  "SMALL_WHITE_CIRCLE THREE_POINTED(BLACK_STAR PINWHEEL_STAR) VERTICAL_BAR WHITE(CIRCLE SQUARE))",
  "MEETEI_MAYEK(ANJI CHEIKHAN CHEIKHEI VIRAMA AHANG_KHUDAM APUN_IYEK DIGIT(EIGHT FIVE FOUR NINE",
  "ONE SEVEN SIX THREE TWO ZERO) LETTER(ATIYA BA BHAM CHA CHIL DDA DDHA DHOU DIL E GHOU GOK HUK",
  "JHAM JIL KHOU NNA NYA O PHAM RAI SAM SHA SSA THOU TTA TTHA UN WAI YANG I(. LONSUM) KOK(.",
  "LONSUM) LAI(. LONSUM) MIT(. LONSUM) NA(. LONSUM) NGOU(. LONSUM) PA(. LONSUM) TIL(. LONSUM))",
  "LUM_IYEK SYLLABLE_REPETITION_MARK VOWEL_SIGN(AAI AAU ANAP AU CHEINAP II INAP NUNG ONAP SOUNAP",
  "UNAP UU VISARGA YENAP) WORD_REPETITION_MARK) MENDE_KIKAKUI(COMBINING_NUMBER(HUNDREDS MILLIONS",
  "TEENS TENS THOUSANDS HUNDRED_THOUSANDS TEN_THOUSANDS) DIGIT(EIGHT FIVE FOUR NINE ONE SEVEN SIX",
  "THREE TWO) SYLLABLE(M001_KI M002_KA M003_KU M004_WI M005_WA M006_WU M007_MIN M008_MAN M009_MUN",
  "M010_BI M011_BA M012_BU M013_I M014_A M015_U M016_DI M017_DA M018_DU M019_SI M020_SA M021_SU",
  "M022_TI M023_TA M024_TU M025_LI M026_LA M027_LU M028_JI M029_JA M030_JU M031_YI M032_YA",
  "M033_YU M034_FI M035_FA M036_FU M037_NIN M038_NAN M039_NUN M040_HEE M041_HA M042_HOO M043_NGGA",
  "M044_KPEE M045_WO M046_HUAN M047_MBEE M048_KO M049_WVA M050_PU M051_PE M052_HEN M053_HIN",
  "M054_LOO M055_TE M056_GBA M057_NGON M058_NYAN M059_MEN M060_NYON M061_WVI M062_MBA M063_JO",
  "M064_NDO M065_KEE M066_PO M067_NDOO M068_PI M069_TO M070_GBO M071_GBOO M072_MBE M073_LE",
  "M074_KPU M075_FE M076_KOO M077_VO M078_FEE M079_SO M080_YE M081_PEE M082_NGGU M083_HEEI",
  "M084_LEE M085_VE M086_LONG_NGGE M087_HUN M088_FO M089_DEE M090_NGGI M091_TEE M092_KPA",
  "M093_GBEE M094_MON M095_KE M096_HE M097_BE M098_NYEN M099_PA M100_E M101_FAN M102_POO M103_BOO",
  "M104_TOO M105_LONG_MBOO M106_LONG_NGGOO M107_GBE M108_KPE M109_YEE M110_LONG_LE M111_GA",
  "M112_KPOO M113_JE M114_WOO M115_NGGEE M116_SE M117_NEN M118_WE M119_NDE M120_NGGO M121_YO",
  "M122_MBU M123_NDI M124_GBI M125_NDU M126_WEE M127_NGGUA M128_HOOU M129_NDA M130_HAN M131_IN",
  "M132_KPI M133_FOO M134_NJOO M135_IN M136_SOO M137_EI M138_BO M139_WVE M140_HO M141_YOO",
  "M142_LONG_MBO M143_WEI M144_VOO M145_MBI M146_NGGE M147_O M148_GBU M149_NJEE M150_BEE M151_VU",
  "M152_NJA M153_LO M154_MUAN M155_GI M156_NGGOO M157_JEE M158_KPO M159_NGGAA M160_JOO",
  "M161_LONG_MBE M162_SEE M163_EE M164_NYIN M165_OO M166_GUEI M167_GUAN M168_GU M169_NON",
  "M170_NYUN M171_RA M172_MBOO M173_VEE M174_MBO M175_LONG_JO M176_HI M177_NGUAN M178_EN M179_KUA",
  "M180_DOO M181_DO M182_VI M183_LONG_NGGO M184_NGEN M185_VA M186_HU M187_MBUU M188_MBEE",
  "M189_MUEN M190_GEE M191_NDEE M192_NJU M193_HON M194_WUI M195_AN M196_SIA M197_FUA))",
  "MEROITIC(CURSIVE(FRACTION(EIGHT_TWELFTHS ELEVEN_TWELFTHS FIVE_TWELFTHS FOUR_TWELFTHS",
  "NINE_TWELFTHS ONE(HALF TWELFTH) SEVEN_TWELFTHS SIX_TWELFTHS TEN_TWELFTHS THREE_TWELFTHS",
  "TWO_TWELFTHS) LETTER(A BA DA E HHA I KA KHA LA MA NA NE O PA QA RA SA SE TA TE TO WA YA",
  "ARCHAIC_SA) LOGOGRAM(IMN RMT) NUMBER(EIGHT(. THOUSAND HUNDRED(. THOUSAND)) EIGHTY_THOUSAND",
  "FIFTY(. THOUSAND) FIVE(. THOUSAND HUNDRED(. THOUSAND)) FORTY(. THOUSAND) FOUR(. THOUSAND",
  "HUNDRED(. THOUSAND)) NINE(. THOUSAND HUNDRED(. THOUSAND)) NINETY_THOUSAND ONE(. THOUSAND",
  "HUNDRED(. THOUSAND)) SEVEN(. THOUSAND HUNDRED(. THOUSAND)) SEVENTY(. THOUSAND) SIX(. THOUSAND",
  "HUNDRED(. THOUSAND)) SIXTY(. THOUSAND) TEN(. THOUSAND) THIRTY(. THOUSAND) THREE(. THOUSAND",
  "HUNDRED(. THOUSAND)) TWENTY(. THOUSAND) TWO(. THOUSAND HUNDRED(. THOUSAND))))",
  "HIEROGLYPHIC(LETTER(A BA DA E HHA I KA KHA LA MA NA NE O PA QA RA SA SE TA TE TO WA YA BA-2",
  "NA-2 NE-2 RA-2 SA-2 TA-2 TE-2) SYMBOL(VIDJ VIDJ-2))) METRICAL(BREVE PENTASEME TETRASEME",
  "TRISEME LONG_OVER(SHORT TWO_SHORTS) SHORT_OVER_LONG TWO_SHORTS(JOINED OVER_LONG))",
  "MIAO(LETTER(AH BA BRI DA DDA DLHA DLHYA DZA DZHA DZYI DZZA FA GA GHA GHHA HA HHA KA LA LHA",
  "LHYA LYA MA MHA NA NASALIZATION NGA NGHA NHA NNA NNHA NYA NYHA PA PLA QA QGA RTE SA SHA SSA",
  "SYI TA TE TLHA TLHYA TSA TSE TSHA TSSA TTA VA VFA WA XA ZA ZHA ZSA ZSHA ZZA ZZSA ZZSYA ZZYA",
  "TONE-2~8 ARCHAIC(MA NA NGA ZZA) REFORMED(TSHA TONE-1 TONE-2 TONE-4~6 TONE-8) YI(DZHA KA NNA PA",
  "TA TSA TSHA TTA)) SIGN(ASPIRATION CONSONANT_MODIFIER_BAR REFORMED(ASPIRATION VOICING))",
  "TONE(ABOVE BELOW RIGHT TOP_RIGHT) VOWEL_SIGN(A AA AE AEE AHH AI AN ANG AU E EA EI EN ENG ER",
  "ERR I IA IAN IANG IE IG II ING IO IONG IU N NG O OER OEY OG OO OU U UA UAN UANG UEI UI UNG UOG",
  "UU VW W WO Y YI YUI ROUNDED(ER ERR))) MICR(DASH_SYMBOL ON_US_SYMBOL) MIDDLE(DOT",
  "THIRD_WHITE_RIGHT_POINTING_INDEX) MILITARY(HELMET MEDAL) MINUS(TILDE SIGN(. IN_TRIANGLE",
  "WITH(COMMA_ABOVE DOT_BELOW FALLING_DOTS RISING_DOTS))) MIRROR(. BALL) MOBILE_PHONE(. OFF",
  "WITH_RIGHTWARDS_ARROW_AT_LEFT) MODI(DANDA ABBREVIATION_SIGN DIGIT(EIGHT FIVE FOUR NINE ONE",
  "SEVEN SIX THREE TWO ZERO) DOUBLE_DANDA LETTER(A AA AI AU BA BHA CA CHA DA DDA DDHA DHA E GA",
  "GHA HA I II JA JHA KA KHA LA LLA MA NA NGA NNA NYA O PA PHA RA SA SHA SSA TA THA TTA TTHA U UU",
  "VA YA VOCALIC(L LL R RR)) SIGN(ANUSVARA ARDHACANDRA HUVA VIRAMA VISARGA) VOWEL_SIGN(AA AI AU E",
  "I II O U UU VOCALIC(L LL R RR))) MODIFIER(BREVE_WITH_INVERTED_BREVE LETTER(APOSTROPHE COLON",
  "MACRON PRIME SHELF UNASPIRATED US VOICING ACUTE_ACCENT ALVEOLAR_CLICK BEGIN(HIGH_TONE",
  "LOW_TONE) BILABIAL_CLICK CAPITAL(A AE B C D E F G I J K L M N O OU P Q R T U V W BARRED_B H(.",
  "WITH_STROKE) REVERSED(E N)) CENTRED(LEFT_HALF_RING RIGHT_HALF_RING) CHINESE_TONE(YANG(PING QU",
  "RU SHANG) YIN(PING QU RU SHANG)) CIRCUMFLEX_ACCENT CROSS_ACCENT CYRILLIC(EN HARD_SIGN",
  "SOFT_SIGN) DENTAL_CLICK DOT(SLASH HORIZONTAL_BAR VERTICAL_BAR) DOUBLE(APOSTROPHE PRIME)",
  "DOWN(ARROWHEAD TACK) END(HIGH_TONE LOW_TONE) EXTRA-HIGH(DOTTED(LEFT-STEM_TONE_BAR TONE_BAR)",
  "LEFT-STEM_TONE_BAR TONE_BAR) EXTRA-LOW(DOTTED(LEFT-STEM_TONE_BAR TONE_BAR) LEFT-STEM_TONE_BAR",
  "TONE_BAR) GEORGIAN_NAR GLOTTAL_STOP(. WITH_STROKE) GRAVE_ACCENT HALF_TRIANGULAR_COLON",
  "HIGH(DOTTED(LEFT-STEM_TONE_BAR TONE_BAR) LEFT-STEM_TONE_BAR TONE_BAR) LATERAL_CLICK",
  "LEFT(ARROWHEAD TACK HALF_RING) LOW(MACRON RING TILDE ACUTE_ACCENT CIRCUMFLEX_ACCENT",
  "DOTTED(LEFT-STEM_TONE_BAR TONE_BAR) DOWN_ARROWHEAD GRAVE_ACCENT INVERTED_EXCLAMATION_MARK",
  "LEFT(ARROW ARROWHEAD) LEFT-STEM_TONE_BAR RIGHT_ARROWHEAD TONE_BAR UP_ARROWHEAD VERTICAL_LINE)",
  "LOWER_RIGHT_CORNER_ANGLE MID(DOTTED(LEFT-STEM_TONE_BAR TONE_BAR) LEFT-STEM_TONE_BAR TONE_BAR)",
  "MIDDLE(DOUBLE(ACUTE_ACCENT GRAVE_ACCENT) GRAVE_ACCENT) MINUS_SIGN OPEN_SHELF PLUS_SIGN",
  "RAISED(COLON DOWN_ARROW EXCLAMATION_MARK INVERTED_EXCLAMATION_MARK UP_ARROW)",
  "RETROFLEX_CLICK_WITH_RETROFLEX_HOOK REVERSED(COMMA GLOTTAL_STOP(. WITH_STROKE)) RHOTIC_HOOK",
  "RIGHT(ARROWHEAD TACK HALF_RING) SHORT_EQUALS_SIGN SMALL(A AE AIN ALPHA BETA CHI DELTA E ENG",
  "ESH ETH EZH F GAMMA IOTA K P PHI Q SCHWA THETA UPSILON W X Y B(. WITH_HOOK) BARRED_O",
  "BOTTOM_HALF_O C(. WITH_CURL) CAPITAL(AA B H N OE R U Y G(. WITH_HOOK) I(. WITH_STROKE)",
  "INVERTED_R L(. WITH_BELT)) CLOSED(OMEGA REVERSED_OPEN_E) D(. WITH(TAIL HOOK(. AND_TAIL)))",
  "DEZH_DIGRAPH DOTLESS_J_WITH_STROKE(. AND_HOOK) DZ_DIGRAPH(. WITH(CURL RETROFLEX_HOOK))",
  "FENG_DIGRAPH G(. WITH_HOOK) GREEK(GAMMA PHI) H(. WITH(HOOK STROKE)) HENG(. WITH_HOOK)",
  "I_WITH_STROKE J(. WITH_CROSSED-TAIL) L(. WITH(BELT INVERTED_LAZY_S MIDDLE_TILDE PALATAL_HOOK",
  "RETROFLEX_HOOK(. AND_BELT))) LEZH(. WITH_RETROFLEX_HOOK) LIGATURE_OE LS_DIGRAPH LZ_DIGRAPH M(.",
  "WITH_HOOK) N_WITH(LEFT_HOOK RETROFLEX_HOOK) O(. WITH_STROKE) OPEN(E O) R(. WITH(FISHHOOK",
  "TAIL)) RAMS_HORN REVERSED(E GLOTTAL_STOP OPEN_E) S(. WITH(CURL HOOK)) SCRIPT_G SIDEWAYS_U T(.",
  "WITH(PALATAL_HOOK RETROFLEX_HOOK)) TC_DIGRAPH_WITH_CURL TESH_DIGRAPH TOP_HALF_O TS_DIGRAPH(.",
  "WITH_RETROFLEX_HOOK) TURNED(A AE ALPHA H I V W M(. WITH_LONG_LEG) OPEN_E R(. WITH(HOOK",
  "LONG_LEG(. AND_RETROFLEX_HOOK))) Y(. WITH_BELT)) U(. BAR WITH_LEFT_HOOK) V(. WITH(HOOK",
  "RIGHT_HOOK)) Z(. WITH(CURL RETROFLEX_HOOK))) STRESS_AND(HIGH_TONE LOW_TONE)",
  "SUPERSCRIPT(HALF_TRIANGULAR_COLON TRIANGULAR_COLON) TRIANGULAR_COLON TURNED_COMMA UP(ARROWHEAD",
  "TACK) VERTICAL_LINE YANG_DEPARTING_TONE_MARK YIN_DEPARTING_TONE_MARK)) MONEY(BAG WITH_WINGS)",
  "MONGOLIAN(COLON COMMA ELLIPSIS NIRUGU BIRGA(. WITH(ORNAMENT DOUBLE_ORNAMENT)) DIGIT(EIGHT FIVE",
  "FOUR NINE ONE SEVEN SIX THREE TWO ZERO) DOUBLE_BIRGA_WITH_ORNAMENT FOUR_DOTS",
  "FREE_VARIATION_SELECTOR(FOUR ONE THREE TWO) FULL_STOP INVERTED_BIRGA(. WITH_DOUBLE_ORNAMENT)",
  "LETTER(A ANG BA CHI DA E EE FA GA HAA I JA KA KHA LA LHA MA NA O OE PA QA RA SA SHA TA TSA U",
  "UE WA YA ZA ZHI ZRA ALI_GALI(A AH BALUDA CA DA DAGALGA DAMARU DDA I KA NGA NNA PA PHA SSA TA",
  "TTA TTHA UBADAMA ZA ZHA ANUSVARA_ONE HALF(U YA) INVERTED_UBADAMA THREE_BALUDA VISARGA_ONE)",
  "CHA(. WITH_TWO_DOTS) MANCHU(FA I KA RA ZHA ALI_GALI(BHA CA CYA DDHA DHA GHA JHA LHA NGA SSA TA",
  "TTA ZA ZHA)) SIBE(ANG CHA DA E FA GA GAA HA HAA I IY JA KA PA RAA SHA TA TSA U UE ZA ZHA)",
  "TODO(ANG BA CHA DA DZA E GA GAA HAA I JA JIA KA MA NIA O OE PA QA TA TSA U UE WA YA",
  "ALI_GALI(TA ZHA) LONG_VOWEL_SIGN)) MANCHU(COMMA FULL_STOP) ROTATED_BIRGA(. WITH(ORNAMENT",
  "DOUBLE_ORNAMENT)) SIBE_SYLLABLE_BOUNDARY_MARKER SWIRL_BIRGA(. WITH(ORNAMENT DOUBLE_ORNAMENT))",
  "TODO_SOFT_HYPHEN TRIPLE_BIRGA_WITH_ORNAMENT TURNED_SWIRL_BIRGA_WITH_DOUBLE_ORNAMENT",
  "VOWEL_SEPARATOR) MONKEY(. FACE) MONOGRAM_FOR(EARTH YANG YIN) MOON(CAKE VIEWING_CEREMONY)",
  "MOTOR(BOAT SCOOTER) MOUNTAIN(. BICYCLIST CABLEWAY RAILWAY) MOUSE(. FACE TRAP) MRO(DANDA",
  "DIGIT(EIGHT FIVE FOUR NINE ONE SEVEN SIX THREE TWO ZERO) DOUBLE_DANDA LETTER(A BA CHU DA DAI E",
  "EA HAI HAO KEAAE KHAI KO LA LAN MAEM MIM NGI NIN O OL OO PA PHI RI RO SHI TA TEK THEA WA YO))",
  "MUCH(GREATER-THAN LESS-THAN) MULTANI(LETTER(A BA BHA CA CHA DA DDA DDDA DDHA DHA E GA GHA HA I",
  "JA JJA KA KHA LA MA NA NNA NYA PA PHA RA RHA RRA SA TA THA TTA TTHA U VA YA) SECTION_MARK)",
  "MULTIPLICATION(X SIGN(. IN(TRIANGLE DOUBLE_CIRCLE LEFT_HALF_CIRCLE RIGHT_HALF_CIRCLE)",
  "WITH(UNDERBAR DOT_ABOVE))) MULTISET(. MULTIPLICATION UNION) MUSIC(FLAT_SIGN NATURAL_SIGN",
  "SHARP_SIGN) MUSICAL(NOTE SCORE KEYBOARD(. WITH_JACKS) SYMBOL(BRACE BRACKET BREVE CAESURA",
  "CLIMACUS CLIVIS CODA CRESCENDO CROIX DECRESCENDO FORTE HAUPTSTIMME KORON MAXIMA MEZZO",
  "NEBENSTIMME PIANO PODATUS RINFORZANDO SEGNO SORI SUBITO TR VIRGA Z ARPEGGIATO(DOWN UP)",
  "BEGIN(BEAM PHRASE SLUR TIE) BREATH_MARK BREVIS(. REST) C_CLEF CIRCLE_X_NOTEHEAD",
  "CLUSTER_NOTEHEAD(BLACK WHITE) COMBINING(ACCENT ACCENT-STACCATO BEND DOIT FLIP HARMONIC LOURE",
  "MARCATO MARCATO-STACCATO RIP SMEAR STACCATISSIMO STACCATO STEM TENUTO FLAG-1~5 TREMOLO-1~3",
  "AUGMENTATION_DOT DOUBLE_TONGUE DOWN_BOW SNAP_PIZZICATO SPRECHGESANG_STEM TRIPLE_TONGUE UP_BOW)",
  "COMMON_TIME CUT_TIME DA_CAPO DAL_SEGNO DAMP(. ALL) DASHED_BARLINE DEGREE_SLASH DOUBLE(BARLINE",
  "FLAT SHARP) DRUM(CLEF-1 CLEF-2) EIGHTH(NOTE REST) END(BEAM PHRASE SLUR TIE OF_STIMME) F_CLEF(.",
  "OTTAVA(ALTA BASSA)) FERMATA(. BELOW) FINAL_BARLINE FINGERED(TREMOLO-1~3) FIVE-LINE_STAFF",
  "FLAT(DOWN UP) FOUR-LINE_STAFF FOUR-STRING_FRETBOARD FUSA(BLACK WHITE) G_CLEF(. OTTAVA(ALTA",
  "BASSA)) GLISSANDO(DOWN UP) GRACE_NOTE(SLASH NO_SLASH) GREGORIAN(C_CLEF F_CLEF) HALF(NOTE REST",
  "PEDAL_MARK) INVERTED_TURN KIEVAN(C_CLEF EIGHTH_NOTE_STEM(DOWN UP) END_OF_PIECE FINAL_NOTE",
  "FLAT_SIGN HALF_NOTE QUARTER_NOTE_STEM(DOWN UP) RECITATIVE_MARK WHOLE_NOTE) LEFT_REPEAT_SIGN",
  "LONGA(. IMPERFECTA_REST PERFECTA_REST) MINIMA(. BLACK REST) MOON_NOTEHEAD(BLACK WHITE)",
  "MULTI_REST MULTIPLE_MEASURE_REST NATURAL(DOWN UP) NOTEHEAD_BLACK NULL_NOTEHEAD",
  "ONE_HUNDRED_TWENTY-EIGHTH(NOTE REST) ONE-LINE_STAFF ORNAMENT(STROKE-1~9 STROKE-10 STROKE-11)",
  "OTTAVA(ALTA BASSA) PARENTHESIS_NOTEHEAD PEDAL(MARK UP_MARK) PES_SUBPUNCTIS PLUS_NOTEHEAD",
  "PORRECTUS(. FLEXUS) QUARTER(NOTE REST TONE(FLAT SHARP)) QUINDICESIMA(ALTA BASSA) REPEAT_DOTS",
  "REPEATED(FIGURE-1~3) REVERSE_FINAL_BARLINE RIGHT_REPEAT_SIGN SCANDICUS(. FLEXUS)",
  "SEMIBREVIS(BLACK REST WHITE) SEMIMINIMA(BLACK REST WHITE) SHARP(DOWN UP) SHORT_BARLINE",
  "SINGLE_BARLINE SIX-LINE_STAFF SIX-STRING_FRETBOARD SIXTEENTH(NOTE REST) SIXTY-FOURTH(NOTE",
  "REST) SQUARE(B NOTEHEAD(BLACK WHITE)) TEMPUS(IMPERFECTUM_CUM_PROLATIONE(PERFECTA IMPERFECTA(.",
  "DIMINUTION-1~3)) PERFECTUM_CUM_PROLATIONE(IMPERFECTA PERFECTA(. DIMINUTION-1)))",
  "THIRTY-SECOND(NOTE REST) THREE-LINE_STAFF TORCULUS(. RESUPINUS) TRIANGLE_NOTEHEAD(DOWN(BLACK",
  "WHITE) LEFT(BLACK WHITE) RIGHT(BLACK WHITE) UP(BLACK WHITE RIGHT(BLACK WHITE)))",
  "TRIANGLE-ROUND_NOTEHEAD_DOWN(BLACK WHITE) TURN(. SLASH UP) TWO-LINE_STAFF VOID_NOTEHEAD",
  "WHOLE(NOTE REST) WITH_FINGERNAILS X_NOTEHEAD)) MYANMAR(CONSONANT_SIGN(MEDIAL(HA RA WA YA)",
  "MON_MEDIAL(LA MA NA) SHAN_MEDIAL_WA) DIGIT(EIGHT FIVE FOUR NINE ONE SEVEN SIX THREE TWO ZERO)",
  "LETTER(A AU BA BHA CA CHA DA DDA DDHA DHA E GA GHA HA I II JA JHA KA KHA LA LLA MA NA NGA NNA",
  "NNYA NYA O PA PHA RA SA SHA SSA TA THA TTA TTHA U UU WA YA AITON_RA EASTERN_PWO_KAREN(GHWA NNA",
  "YWA) GREAT_SA KHAMTI(CA CHA DDA DDHA DHA FA GA HA HHA JA JHA LLA NA NYA RA SA TTA TTHA XA ZA)",
  "MON(BBA BBE E JHA NGA) RUMAI_PALAUNG_FA SGAW_KAREN_SHA SHAN(A BA BHA CA CHA DA FA GA GHA HA",
  "JHA KA KHA NA NNA NYA PHA THA ZA) SHWE_PALAUNG(CHA SHA) TAI_LAING(BA BHA DA DDA DDHA DHA FA GA",
  "GHA JA JHA LLA NNA NYA) VOCALIC(L LL R RR) WESTERN_PWO_KAREN(PWA THA)) LOGOGRAM_KHAMTI(HM OAY",
  "QN) MODIFIER_LETTER(KHAMTI_REDUPLICATION SHAN_REDUPLICATION) SHAN_DIGIT(EIGHT FIVE FOUR NINE",
  "ONE SEVEN SIX THREE TWO ZERO) SIGN(ANUSVARA ASAT SECTION VIRAMA VISARGA DOT_BELOW",
  "KHAMTI(TONE-1 TONE-3) LITTLE_SECTION PAO_KAREN_TONE RUMAI_PALAUNG_TONE-5 SHAN(SAW TONE-2",
  "TONE-3 TONE-5 TONE-6 COUNCIL(TONE-2 TONE-3 EMPHATIC_TONE)) TAI_LAING(TONE-2 TONE-5)",
  "WESTERN_PWO_KAREN(TONE-1~5)) SYMBOL(AFOREMENTIONED COMPLETED GENITIVE LOCATIVE",
  "AITON(EXCLAMATION ONE TWO) SHAN(EXCLAMATION ONE)) TAI_LAING_DIGIT(EIGHT FIVE FOUR NINE ONE",
  "SEVEN SIX THREE TWO ZERO) TONE_MARK_SGAW_KAREN(HATHI KE_PHO) VOWEL_SIGN(AA AI I II U UU",
  "AITON(A AI) E(. ABOVE) GEBA_KAREN_I KAYAH(EE OE U) MON(II O) SGAW_KAREN_EU SHAN(AA E(. ABOVE)",
  "FINAL_Y) TALL_AA VOCALIC(L LL R RR) WESTERN_PWO_KAREN(EU UE))) N-ARY(COPRODUCT INTERSECTION",
  "PRODUCT SUMMATION CIRCLED(DOT_OPERATOR PLUS_OPERATOR TIMES_OPERATOR) LOGICAL(AND OR)",
  "SQUARE(INTERSECTION_OPERATOR UNION_OPERATOR) TIMES_OPERATOR UNION(. OPERATOR_WITH(DOT PLUS))",
  "WHITE_VERTICAL_BAR) NABATAEAN(CRUCIFORM_NUMBER_FOUR LETTER(ALEPH AYIN BETH DALETH GIMEL HE",
  "HETH KAPH LAMEDH MEM NUN PE QOPH RESH SADHE SAMEKH SHIN TAW TETH WAW YODH ZAYIN FINAL(ALEPH",
  "BETH HE KAPH LAMEDH MEM NUN SHIN YODH)) NUMBER(FIVE FOUR TEN THREE TWENTY TWO ONE(. HUNDRED)))",
  "NANDINAGARI(HEADSTROKE LETTER(A AA AI AU BA BHA CA CHA DA DDA DDHA DHA E GA GHA HA I II JA JHA",
  "KA KHA LA LLA MA NA NGA NNA NYA O PA PHA RA RRA SA SHA SSA TA THA TTA TTHA U UU VA YA",
  "VOCALIC(R RR)) SIGN(ANUSVARA AVAGRAHA SIDDHAM VIRAMA VISARGA) VOWEL_SIGN(AA AI AU E I II O U",
  "UU PRISHTHAMATRA_E VOCALIC(R RR))) NATIONAL(PARK DIGIT_SHAPES) NEGATIVE(ACKNOWLEDGE",
  "CIRCLED(SQUARE TRIANGLE DIGIT_ZERO LATIN_CAPITAL_LETTER(A B C D E F G H I J K L M N O P Q R S",
  "T U V W X Y Z) NUMBER(EIGHTEEN ELEVEN FIFTEEN FOURTEEN NINETEEN SEVENTEEN SIXTEEN THIRTEEN",
  "TWELVE TWENTY)) DIAGONAL(CROSS DIAMOND MIDDLE_RIGHT_TO_LOWER_CENTRE) SQUARED(AB IC PA SA WC",
  "CROSS_MARK LATIN_CAPITAL_LETTER(A B C D E F G H I J K L M N O P Q R S T U V W X Y Z)",
  "QUESTION_MARK)) NEITHER(A(SUBSET_OF_NOR_EQUAL_TO SUPERSET_OF_NOR_EQUAL_TO)",
  "APPROXIMATELY_NOR_ACTUALLY_EQUAL_TO GREATER-THAN_NOR(LESS-THAN EQUAL_TO EQUIVALENT_TO)",
  "LESS-THAN_NOR(GREATER-THAN EQUAL_TO EQUIVALENT_TO)) NEPTUNE(. FORM_TWO) NEUTRAL(FACE",
  "CHESS(BISHOP(. ROTATED(NINETY_DEGREES TWO_HUNDRED_SEVENTY_DEGREES)) EQUIHOPPER(.",
  "ROTATED_NINETY_DEGREES) KING(. ROTATED(NINETY_DEGREES TWO_HUNDRED_SEVENTY_DEGREES)) KNIGHT(.",
  "ROTATED(FORTY-FIVE_DEGREES NINETY_DEGREES ONE_HUNDRED_THIRTY-FIVE_DEGREES",
  "THREE_HUNDRED_FIFTEEN_DEGREES TWO_HUNDRED(SEVENTY_DEGREES TWENTY-FIVE_DEGREES))) PAWN(.",
  "ROTATED(NINETY_DEGREES TWO_HUNDRED_SEVENTY_DEGREES)) QUEEN(. ROTATED(NINETY_DEGREES",
  "TWO_HUNDRED_SEVENTY_DEGREES)) ROOK(. ROTATED(NINETY_DEGREES TWO_HUNDRED_SEVENTY_DEGREES))",
  "TURNED(BISHOP KING KNIGHT PAWN QUEEN ROOK))) NEW(LINE MOON(SYMBOL WITH_FACE) SHEQEL_SIGN",
  "TAI_LUE(DIGIT(EIGHT FIVE FOUR NINE ONE SEVEN SIX THREE TWO ZERO) LETTER(FINAL(B D K M N NG V)",
  "HIGH(BA DA FA HA KA KVA LA MA NA NGA PA PHA QA SA SUA TA THA TSA VA XA XVA YA) LOW(BA DA FA HA",
  "KA KVA LA MA NA NGA PA PHA QA SA SUA TA THA TSA VA XA XVA YA)) SIGN(LAE LAEV) THAM_DIGIT_ONE",
  "TONE(MARK-1 MARK-2) VOWEL_SIGN(AA AAY AE AY E II IY O OA OAY OY U UE UEY UU UY",
  "VOWEL_SHORTENER))) NEWA(COMMA DANDA OM SIDDHI ABBREVIATION_SIGN DIGIT(EIGHT FIVE FOUR NINE ONE",
  "SEVEN SIX THREE TWO ZERO) DOUBLE(COMMA DANDA) GAP_FILLER INSERTION_SIGN LETTER(A AA AI AU BA",
  "BHA CA CHA DA DDA DDHA DHA E GA GHA HA I II JA JHA KA KHA LA LHA MA MHA NA NGA NGHA NHA NNA",
  "NYA NYHA O PA PHA RA RHA SA SHA SSA TA THA TTA TTHA U UU WA YA VEDIC_ANUSVARA VOCALIC(L LL R",
  "RR)) PLACEHOLDER_MARK SANDHI_MARK SIGN(ANUSVARA AVAGRAHA CANDRABINDU JIHVAMULIYA NUKTA",
  "UPADHMANIYA VIRAMA VISARGA FINAL_ANUSVARA) VOWEL_SIGN(AA AI AU E I II O U UU VOCALIC(L LL R",
  "RR))) NEWLINE(LEFT RIGHT) NEXT(LINE PAGE) NKO(COMMA DANTAYALAN LAJANYALAN",
  "COMBINING(DOUBLE_DOT_ABOVE LONG(DESCENDING_TONE HIGH_TONE LOW_TONE RISING_TONE)",
  "NASALIZATION_MARK SHORT(HIGH_TONE LOW_TONE RISING_TONE)) DIGIT(EIGHT FIVE FOUR NINE ONE SEVEN",
  "SIX THREE TWO ZERO) DOROME_SIGN EXCLAMATION_MARK HIGH_TONE_APOSTROPHE LETTER(A BA CHA DA",
  "DAGBASINNA E EE FA GBA HA I JA KA LA MA N O OO PA RA RRA SA TA U WA YA JONA(CHA JA RA) NA(.",
  "WOLOSO) NYA(. WOLOSO)) LOW_TONE_APOSTROPHE SYMBOL(GBAKURUNEN OO_DENNEN) TAMAN_SIGN)",
  "NO(BICYCLES PEDESTRIANS PIRACY BREAK_HERE ENTRY(. SIGN) MOBILE_PHONES",
  "ONE_UNDER_EIGHTEEN_SYMBOL SMOKING_SYMBOL) NORMAL_SUBGROUP_OF(. OR_EQUAL_TO)",
  "NORTH(EAST(AND_SOUTH_WEST_ARROW ARROW(. AND_SOUTH_EAST_ARROW CROSSING(NORTH_WEST_ARROW",
  "SOUTH_EAST_ARROW) WITH_HOOK) BLACK_ARROW DOUBLE_ARROW POINTING(BUD LEAF VINE_LEAF)",
  "SANS-SERIF_ARROW TRIANGLE-HEADED_ARROW(. TO_BAR) WHITE_ARROW) INDIC(FRACTION(ONE(EIGHTH HALF",
  "QUARTER SIXTEENTH) THREE(QUARTERS SIXTEENTHS)) PLACEHOLDER_MARK QUANTITY_MARK QUARTER_MARK",
  "RUPEE_MARK) WEST(AND_SOUTH_EAST_ARROW ARROW(. AND_NORTH_EAST_ARROW CROSSING_NORTH_EAST_ARROW",
  "TO(CORNER LONG_BAR) WITH_HOOK) BLACK_ARROW DOUBLE_ARROW POINTING(BUD LEAF VINE_LEAF)",
  "SANS-SERIF_ARROW TRIANGLE-HEADED_ARROW(. TO_BAR) WHITE_ARROW)) NOT(GREATER-THAN LESS-THAN SIGN",
  "TILDE TRUE A(SUBSET_OF SUPERSET_OF) ALMOST_EQUAL_TO AN_ELEMENT_OF ASYMPTOTICALLY_EQUAL_TO",
  "CHECK_MARK EQUAL_TO EQUIVALENT_TO IDENTICAL_TO NORMAL_SUBGROUP_OF(. OR_EQUAL_TO) PARALLEL_TO",
  "SQUARE(IMAGE_OF_OR_EQUAL_TO ORIGINAL_OF_OR_EQUAL_TO)) NOTCHED(LEFT_SEMICIRCLE_WITH_THREE_DOTS",
  "LOWER_RIGHT-SHADOWED_WHITE_RIGHTWARDS_ARROW RIGHT_SEMICIRCLE_WITH_THREE_DOTS",
  "UPPER_RIGHT-SHADOWED_WHITE_RIGHTWARDS_ARROW) NOTE(. PAD PAGE) NOTEBOOK(.",
  "WITH_DECORATIVE_COVER) NUMBER(SIGN EIGHTEEN_FULL_STOP ELEVEN_FULL_STOP FIFTEEN_FULL_STOP",
  "FOURTEEN_FULL_STOP NINETEEN_FULL_STOP SEVENTEEN_FULL_STOP SIXTEEN_FULL_STOP TEN_FULL_STOP",
  "THIRTEEN_FULL_STOP TWELVE_FULL_STOP TWENTY_FULL_STOP) NUSHU(CHARACTER-1B170^1B2FB",
  "ITERATION_MARK) NYIAKENG_PUACHUE_HMONG(TONE-B TONE-D TONE-G TONE-J TONE-M TONE-S TONE-V",
  "CIRCLED_CA DIGIT(EIGHT FIVE FOUR NINE ONE SEVEN SIX THREE TWO ZERO) LETTER(A AA CA DA DLA E EE",
  "FA GA HA HAH I KA LA MA MLA NA NCA NKA NPA NPLA NQA NRA NTA NTSA NTXA NYA O OO PA PLA QA RA",
  "RRA SA TA TSA TXA U VA W XA XYA YA ZA) LOGOGRAM_NYAJ SIGN(FOR(ANIMAL INVERTEBRATE LOCATION",
  "PERSON THING) XW_XW) SYLLABLE_LENGTHENER) OBLIQUE(HYPHEN ANGLE_OPENING(DOWN UP)) OCR(CHAIR",
  "DASH FORK HOOK AMOUNT_OF_CHECK BELT_BUCKLE BOW_TIE BRANCH_BANK_IDENTIFICATION",
  "CUSTOMER_ACCOUNT_NUMBER DOUBLE_BACKSLASH INVERTED_FORK) OGHAM(FEATHER_MARK LETTER(AILM BEITH",
  "CEIRT COLL DAIR EABHADH EADHADH EAMHANCHOLL FEARN GORT IFIN IODHADH LUIS MUIN NGEADAL NION ONN",
  "OR PEITH RUIS SAIL STRAIF TINNE UATH UILLEANN UR) REVERSED_FEATHER_MARK SPACE_MARK)",
  "OL_CHIKI(AHAD PHAARKAA RELAA DIGIT(EIGHT FIVE FOUR NINE ONE SEVEN SIX THREE TWO ZERO)",
  "GAAHLAA_TTUDDAAG LETTER(AAJ AAK AAM AAW AG AL ANG AT EDD EN EP ERR IH INY IR IS LA LAA LE LI",
  "LO LU OB OH OTT OV UC UD UNN UY) MU_TTUDDAG MU-GAAHLAA_TTUDDAAG PUNCTUATION(MUCAAD",
  "DOUBLE_MUCAAD)) OLD(KEY CHINESE(HOOK_MARK ITERATION_MARK) HUNGARIAN(CAPITAL_LETTER(A AA AK AMB",
  "AND E EB EC ECH ECS ED EE EF EG EGY EH EJ EK EL ELY EM EMP EN ENC ENT ENY EP ER ES ESZ ET ETY",
  "EV EZ EZS I II O OEE OO U UNK US UU CLOSE_E ENT-SHAPED_SIGN NIKOLSBURG(OE UE) RUDIMENTA(OE UE)",
  "SHORT_ER) NUMBER(FIFTY FIVE TEN ONE(. HUNDRED THOUSAND)) SMALL_LETTER(A AA AK AMB AND E EB EC",
  "ECH ECS ED EE EF EG EGY EH EJ EK EL ELY EM EMP EN ENC ENT ENY EP ER ES ESZ ET ETY EV EZ EZS I",
  "II O OEE OO U UNK US UU CLOSE_E ENT-SHAPED_SIGN NIKOLSBURG(OE UE) RUDIMENTA(OE UE) SHORT_ER))",
  "ITALIC(LETTER(A BE CHE DE E EF EKS EL EM EN ER ERS ES ESH ESS HE I II KA KE KHE KU O PE PHE",
  "SHE TE THE U UU VE YE ZE NORTHERN_TSE SOUTHERN_TSE) NUMERAL(FIFTY FIVE ONE TEN))",
  "NORTH_ARABIAN(LETTER(AIN ALEF BEH DAD DAL FEH GEEM GHAIN HAH HEH KAF KHAH LAM MEEM NOON QAF",
  "REH SAD TAH TEH THAL THEH WAW YEH ZAH ZAIN ES-1~3) NUMBER(ONE TEN TWENTY)) PERMIC_LETTER(AN",
  "BUR CHERY DOI DZHOI DZITA E EF GAI HA I IA IE KOKE LEI MENOE NENOE O OO PEEI REI SHCHOOI SHOOI",
  "SII TAI TSIU U VER VOOI YA YAT YER YERI YERU YRY YU ZATA ZHOI) PERSIAN(NUMBER(HUNDRED ONE TEN",
  "TWENTY TWO) SIGN(A AURAMAZDAA AURAMAZDAAHA BA BAGA BUUMISH CA DA DAHYAAUSH DI DU FA GA GU HA I",
  "JA JI KA KU LA MA MI MU NA NU PA RA RU SA SHA SSA TA THA TU U VA VI XA XSHAAYATHIYA YA ZA",
  "AURAMAZDAA-2 DAHYAAUSH-2) WORD_DIVIDER) PERSONAL_COMPUTER SOGDIAN(FRACTION_ONE_HALF",
  "LETTER(ALEPH AYIN BETH GIMEL HE HETH KAPH LAMEDH MEM NUN PE RESH-AYIN-DALETH SADHE SAMEKH SHIN",
  "TAW WAW YODH ZAYIN ALTERNATE_AYIN FINAL(ALEPH BETH HE NUN(. WITH_VERTICAL_TAIL) SADHE(.",
  "WITH_VERTICAL_TAIL) TAW(. WITH_VERTICAL_TAIL))) LIGATURE_AYIN-DALETH NUMBER(FIVE FOUR TEN",
  "THIRTY THREE TWENTY TWO ONE(. HUNDRED))) SOUTH_ARABIAN(LETTER(ALEF AYN BETH DALETH DHADHE",
  "DHALETH FE GHAYN GIMEL HE HETH KAPH KHETH LAMEDH MEM NUN QOPH RESH SADHE SAMEKH SAT SHIN TAW",
  "TETH THAW THETH WAW YODH ZAYN) NUMBER(FIFTY ONE) NUMERIC_INDICATOR) TURKIC_LETTER(ORKHON(A AB",
  "AD AEB AED AEG AEK AEL AEN AER AES AET AEY AG AL AN AQ AR AS ASH AT AY BASH EC ELT EM ENC ENG",
  "ENT ENY EP ESH EZ I IC IQ O OE OEK OP OQ OT) YENISEI(A AB AD AE AEB AEG AEK AEN AENG AET AEY",
  "AG AL ANG AQ AR ASH AT AY E EC ENC ENT ENY ESH EZ I IQ OE OEK OQ)) UYGHUR(COMBINING(DOT(ABOVE",
  "BELOW) TWO_DOTS(ABOVE BELOW)) LETTER(ALEPH BETH GIMEL-HETH KAPH LAMEDH LESH MEM NUN PE RESH",
  "SADHE SAMEKH SHIN TAW WAW YODH ZAYIN FINAL_HETH) PUNCTUATION(BAR FOUR_DOTS TWO(BARS DOTS))))",
  "OLDER(ADULT MAN WOMAN) ONCOMING(AUTOMOBILE BUS TAXI FIRE_ENGINE POLICE_CAR) ONE(BUTTON_MOUSE",
  "DOT(LEADER OVER_TWO_DOTS_PUNCTUATION)) OPEN(BOOK BOX FOLDER LOCK SUBSET SUPERSET",
  "CENTRE(ASTERISK CROSS BLACK_STAR TEARDROP-SPOKED_ASTERISK) FILE_FOLDER HANDS_SIGN",
  "MAILBOX_WITH(LOWERED_FLAG RAISED_FLAG)) OPEN-CIRCUIT-OUTPUT(H-TYPE_SYMBOL L-TYPE_SYMBOL)",
  "OPTICAL_DISC(. ICON) ORANGE(BOOK HEART) ORIYA(ISSHAR AI_LENGTH_MARK AU_LENGTH_MARK DIGIT(EIGHT",
  "FIVE FOUR NINE ONE SEVEN SIX THREE TWO ZERO) FRACTION(ONE(EIGHTH HALF QUARTER SIXTEENTH)",
  "THREE(QUARTERS SIXTEENTHS)) LETTER(A AA AI AU BA BHA CA CHA DA DDA DDHA DHA E GA GHA HA I II",
  "JA JHA KA KHA LA LLA MA NA NGA NNA NYA O PA PHA RA RHA RRA SA SHA SSA TA THA TTA TTHA U UU VA",
  "WA YA YYA VOCALIC(L LL R RR)) SIGN(ANUSVARA AVAGRAHA CANDRABINDU NUKTA OVERLINE VIRAMA",
  "VISARGA) VOWEL_SIGN(AA AI AU E I II O U UU VOCALIC(L LL R RR))) ORNATE(LEFT_PARENTHESIS",
  "RIGHT_PARENTHESIS) OSAGE(CAPITAL_LETTER(A AH AI AIN BRA CHA DHA E EHCHA EHKA EHPA EHTA EHTSA",
  "EIN GHA HA HYA I KA KHA KYA LA MA NA O OIN PA SA SHA TA TSA TSHA U WA ZA ZHA) SMALL_LETTER(A",
  "AH AI AIN BRA CHA DHA E EHCHA EHKA EHPA EHTA EHTSA EIN GHA HA HYA I KA KHA KYA LA MA NA O OIN",
  "PA SA SHA TA TSA TSHA U WA ZA ZHA)) OSMANYA(DIGIT(EIGHT FIVE FOUR NINE ONE SEVEN SIX THREE TWO",
  "ZERO) LETTER(A AA ALEF BA CAYN DEEL DHA E EE FA GA HA I JA KAAF KHA LAAN MIIN NUUN O OO QAAF",
  "RA SA SHIIN TA U WAW XA YA)) OTTOMAN_SIYAQ(MARRATAN ALTERNATE_NUMBER(EIGHT FIVE NINE SEVEN",
  "THREE FOUR(. HUNDRED) SIX(. HUNDRED) TEN(. THOUSAND) TWO(. THOUSAND)) FRACTION_ONE(HALF SIXTH)",
  "NUMBER(EIGHT(. HUNDRED THOUSAND) EIGHTY(. THOUSAND) FIFTY(. THOUSAND) FIVE(. HUNDRED THOUSAND)",
  "FORTY(. THOUSAND) FOUR(. HUNDRED THOUSAND) NINE(. HUNDRED THOUSAND) NINETY(. THOUSAND) ONE(.",
  "HUNDRED THOUSAND) SEVEN(. HUNDRED THOUSAND) SEVENTY(. THOUSAND) SIX(. HUNDRED THOUSAND)",
  "SIXTY(. THOUSAND) TEN(. THOUSAND) THIRTY(. THOUSAND) THREE(. HUNDRED THOUSAND) TWENTY(.",
  "THOUSAND) TWO(. HUNDRED THOUSAND))) OUTLINED(BLACK_STAR GREEK_CROSS LATIN_CROSS WHITE_STAR)",
  "OVERLAPPING(BLACK_SQUARES WHITE(SQUARES AND_BLACK_SQUARES)) PAGE(. FACING_UP WITH(CURL",
  "CIRCLED_TEXT)) PAHAWH_HMONG(CLAN_SIGN(FAJ HAM HAWJ KHAB KOO KWM LAUJ LIS MUAS PHAB THOJ TSAB",
  "TSHEEJ TSWB VAJ VWJ XYOOJ YAJ YEEG) CONSONANT(AU CAU CHAU HAU HLAU HNAU LAU MAU NAU NCHAU NKAU",
  "NLAU NTHAU NTSAU PLHAU QHAU RAU VAU XAU YAU) DIGIT(EIGHT FIVE FOUR NINE ONE SEVEN SIX THREE",
  "TWO ZERO) MARK_CIM(HOM KES KHAV SO SUAM TAUM TUB) NUMBER(HUNDREDS MILLIONS TENS TRILLIONS",
  "HUNDRED_MILLIONS TEN(BILLIONS THOUSANDS)) SIGN(AV HLI HNUB LOS MUS NQIG NTUJ TAU XAUS XIAB",
  "XYOO CIM(CHEEM CUAM_TSHOOJ HAIS_LUS_NTOG_NTOG NRES_TOS PUB_DAWB TSOV_ROG TXWV(. CHWV)) IB_YAM",
  "MEEJ(SUAB TSEEB) THIRD-STAGE_HLI TXHEEJ_CEEV VOS(FEEM LUB NRUA SEEV THIAB THOM TSHAB_CEEB)",
  "XYEEM(FAIB NTXIV RHO TOV) ZWJ_THAJ) VOWEL(KAAB KAAV KAB KAIB KAIV KAUB KAUV KAV KAWB KAWV KEB",
  "KEEB KEEV KEV KIAB KIAV KIB KIV KOB KOOB KOOV KOV KUAB KUAV KUB KUV KWB KWV)) PALM(BRANCH TREE",
  "DOWN_HAND UP_HAND) PALMYRENE(LEFT-POINTING_FLEURON LETTER(ALEPH AYIN BETH DALETH GIMEL HE HETH",
  "KAPH LAMEDH MEM NUN PE QOPH RESH SADHE SAMEKH SHIN TAW TETH WAW YODH ZAYIN FINAL_NUN)",
  "NUMBER(FIVE FOUR ONE TEN THREE TWENTY TWO) RIGHT-POINTING_FLEURON) PARALLEL(TO",
  "WITH(HORIZONTAL_STROKE TILDE_OPERATOR)) PARENTHESIZED(DIGIT(EIGHT FIVE FOUR NINE ONE SEVEN SIX",
  "THREE TWO) HANGUL(CHIEUCH(. A) CIEUC(. A U) HIEUH(. A) IEUNG(. A) KHIEUKH(. A) KIYEOK(. A)",
  "MIEUM(. A) NIEUN(. A) PHIEUPH(. A) PIEUP(. A) RIEUL(. A) SIOS(. A) THIEUTH(. A) TIKEUT(. A))",
  "IDEOGRAPH(ALLIANCE CALL CONGRATULATION EARTH EIGHT ENTERPRISE FESTIVAL FINANCIAL FIRE FIVE",
  "FOUR HAVE LABOR METAL MOON NAME NINE ONE REACH REPRESENT RESOURCE REST SELF SEVEN SIX SOCIETY",
  "SPECIAL STOCK STUDY SUN SUPERVISE TEN THREE TWO WATER WOOD) KOREAN_CHARACTER(OJEON O_HU)",
  "LATIN(CAPITAL_LETTER(A B C D E F G H I J K L M N O P Q R S T U V W X Y Z) SMALL_LETTER(A B C D",
  "E F G H I J K L M N O P Q R S T U V W X Y Z)) NUMBER(EIGHTEEN ELEVEN FIFTEEN FOURTEEN NINETEEN",
  "SEVENTEEN SIXTEEN TEN THIRTEEN TWELVE TWENTY)) PARTIAL(DIFFERENTIAL LINE(BACKWARD DOWN FORWARD",
  "UP)) PAU_CIN_HAU(GLOTTAL_STOP(. FINAL VARIANT) LETTER(A BA CA CHA DA E FA GA HA I IA KA KHA LA",
  "MA NA NGA O PA PHA RA SA TA THA U UA VA ZA FINAL(K L M N NG P T W Y)) LOW-FALLING_TONE(. FINAL",
  "LONG(. FINAL)) MID-LEVEL_TONE(. FINAL LONG_FINAL) RISING_TONE(. FINAL LONG(. FINAL))",
  "SANDHI(GLOTTAL_STOP(. FINAL) TONE(. FINAL LONG(. FINAL)))) PER(SIGN MILLE_SIGN",
  "TEN_THOUSAND_SIGN) PERPENDICULAR(. WITH_S) PERSON(CLIMBING FROWNING BOWING_DEEPLY",
  "DOING_CARTWHEEL IN(LOTUS_POSITION STEAMY_ROOM) RAISING_BOTH_HANDS_IN_CELEBRATION WITH(BALL",
  "CROWN HEADSCARF BLOND_HAIR FOLDED_HANDS POUTING_FACE)) PHAGS-PA(DOUBLE_HEAD_MARK LETTER(A BA",
  "CA CANDRABINDU CHA DA DDA DZA E EE FA GA GGA HA I JA KA KHA LA MA NA NGA NNA NYA O PA PHA QA",
  "RA SA SHA TA THA TSA TSHA TTA TTHA U WA XA YA ZA ZHA ALTERNATE_YA ASPIRATED_FA SMALL_A",
  "VOICED_HA VOICELESS_SHA) MARK(SHAD DOUBLE_SHAD) SINGLE_HEAD_MARK SUBJOINED_LETTER(RA WA YA)",
  "SUPERFIXED_LETTER_RA) PHAISTOS_DISC_SIGN(ARROW BEE BEEHIVE BOOMERANG BOW CAPTIVE CAT CHILD",
  "CLUB COLUMN COMB DOLIUM DOVE EAGLE FLUTE GAUNTLET GRATER HELMET HIDE HORN LID LILY MANACLES",
  "MATTOCK PAPYRUS PEDESTRIAN RAM ROSETTE SAW SHIELD SHIP SLING STRAINER TIARA TUNNY VINE WOMAN",
  "BULLS_LEG CARPENTRY_PLANE COMBINING_OBLIQUE_STROKE OX_BACK PLANE_TREE PLUMED_HEAD SMALL_AXE",
  "TATTOOED_HEAD WAVY_BAND) PHILIPPINE(DOUBLE_PUNCTUATION SINGLE_PUNCTUATION)",
  "PHOENICIAN(LETTER(AIN ALF BET DELT GAML HE HET KAF LAMD MEM NUN PE QOF ROSH SADE SEMK SHIN TAU",
  "TET WAU YOD ZAI) NUMBER(TEN THREE TWENTY TWO ONE(. HUNDRED)) WORD_SEPARATOR) PIG(. FACE NOSE)",
  "PITCHFORK(. WITH_TEE_TOP) PLACE_OF(WORSHIP INTEREST_SIGN) PLANCK_CONSTANT(. OVER_TWO_PI)",
  "PLAYING_CARD(BACK FOOL TRUMP-1~9 TRUMP-10~21 ACE_OF(CLUBS DIAMONDS HEARTS SPADES) BLACK_JOKER",
  "EIGHT_OF(CLUBS DIAMONDS HEARTS SPADES) FIVE_OF(CLUBS DIAMONDS HEARTS SPADES) FOUR_OF(CLUBS",
  "DIAMONDS HEARTS SPADES) JACK_OF(CLUBS DIAMONDS HEARTS SPADES) KING_OF(CLUBS DIAMONDS HEARTS",
  "SPADES) KNIGHT_OF(CLUBS DIAMONDS HEARTS SPADES) NINE_OF(CLUBS DIAMONDS HEARTS SPADES)",
  "QUEEN_OF(CLUBS DIAMONDS HEARTS SPADES) RED_JOKER SEVEN_OF(CLUBS DIAMONDS HEARTS SPADES)",
  "SIX_OF(CLUBS DIAMONDS HEARTS SPADES) TEN_OF(CLUBS DIAMONDS HEARTS SPADES) THREE_OF(CLUBS",
  "DIAMONDS HEARTS SPADES) TWO_OF(CLUBS DIAMONDS HEARTS SPADES) WHITE_JOKER) PLUS_SIGN(.",
  "ABOVE_EQUALS_SIGN IN(TRIANGLE LEFT_HALF_CIRCLE RIGHT_HALF_CIRCLE) WITH(BLACK_TRIANGLE",
  "CIRCUMFLEX_ACCENT_ABOVE DOT_BELOW SMALL_CIRCLE_ABOVE SUBSCRIPT_TWO TILDE(ABOVE BELOW)))",
  "PLUTO(. FORM(FIVE FOUR THREE TWO)) POLICE(CAR OFFICER CARS_REVOLVING_LIGHT)",
  "POP_DIRECTIONAL(FORMATTING ISOLATE) POSTAL(HORN MARK(. FACE)) POUTING(FACE CAT_FACE)",
  "POWER(SYMBOL ON_SYMBOL ON-OFF_SYMBOL SLEEP_SYMBOL) PRECEDES(. ABOVE(ALMOST_EQUAL_TO",
  "EQUALS_SIGN NOT(ALMOST_EQUAL_TO EQUAL_TO) SINGLE-LINE(EQUALS_SIGN NOT_EQUAL_TO))",
  "BUT_NOT_EQUIVALENT_TO OR(EQUAL_TO EQUIVALENT_TO) UNDER_RELATION) PREGNANT(MAN PERSON WOMAN)",
  "PRESENTATION_FORM_FOR_VERTICAL(COLON COMMA SEMICOLON EM_DASH EN_DASH EXCLAMATION_MARK",
  "HORIZONTAL_ELLIPSIS IDEOGRAPHIC(COMMA FULL_STOP) LEFT(PARENTHESIS ANGLE_BRACKET",
  "BLACK_LENTICULAR_BRACKET CORNER_BRACKET CURLY_BRACKET DOUBLE_ANGLE_BRACKET SQUARE_BRACKET",
  "TORTOISE_SHELL_BRACKET WHITE(CORNER_BRACKET LENTICULAR_BRACKET)) LOW_LINE QUESTION_MARK",
  "RIGHT(PARENTHESIS ANGLE_BRACKET BLACK_LENTICULAR_BRACKET CORNER_BRACKET CURLY_BRACKET",
  "DOUBLE_ANGLE_BRACKET SQUARE_BRACKET TORTOISE_SHELL_BRACKET WHITE(CORNER_BRACKET",
  "LENTICULAR(BRACKET BRAKCET))) TWO_DOT_LEADER WAVY_LOW_LINE) PRINTER(. ICON) PRIVATE(USE-1",
  "USE-2 USE(ONE TWO)) PSALTER_PAHLAVI(FOUR_DOTS_WITH(CROSS DOT) LETTER(ALEPH BETH DALETH GIMEL",
  "HE HETH KAPH LAMEDH MEM-QOPH NUN PE SADHE SAMEKH SHIN TAW WAW-AYIN-RESH YODH ZAYIN)",
  "NUMBER(FOUR TEN THREE TWENTY TWO ONE(. HUNDRED)) SECTION_MARK TURNED_SECTION_MARK)",
  "QUADRANT(LOWER(LEFT RIGHT) UPPER(LEFT(. AND(LOWER(RIGHT LEFT_AND_LOWER_RIGHT)",
  "UPPER_RIGHT_AND_LOWER(LEFT RIGHT))) RIGHT(. AND_LOWER_LEFT(. AND_LOWER_RIGHT))))",
  "QUADRUPLE(PRIME INTEGRAL_OPERATOR) QUESTION(MARK EXCLAMATION_MARK) RABBIT(. FACE) RACING(CAR",
  "MOTORCYCLE) RADIO(. BUTTON) RAILWAY(CAR TRACK) RAISED(COMMA DOT FIST SQUARE BACK_OF_HAND",
  "DOTTED_INTERPOLATION_MARKER HAND(. WITH(FINGERS_SPLAYED PART_BETWEEN_MIDDLE_AND_RING_FINGERS))",
  "INTERPOLATION_MARKER MC_SIGN MD_SIGN MR_SIGN) RECYCLING_SYMBOL_FOR(GENERIC_MATERIALS",
  "TYPE-1_PLASTICS TYPE-2_PLASTICS TYPE-3_PLASTICS TYPE-4_PLASTICS TYPE-5_PLASTICS",
  "TYPE-6_PLASTICS TYPE-7_PLASTICS) RED(APPLE GIFT_ENVELOPE) REGIONAL_INDICATOR_SYMBOL_LETTER(A B",
  "C D E F G H I J K L M N O P Q R S T U V W X Y Z) REJANG(VIRAMA CONSONANT_SIGN(H N NG R)",
  "LETTER(A BA CA DA GA HA JA KA LA MA MBA NA NDA NGA NGGA NYA NYJA PA RA SA TA WA YA)",
  "SECTION_MARK VOWEL_SIGN(AI AU E EA EU I O U)) RESTRICTED_LEFT(ENTRY-1 ENTRY-2) RETURN(LEFT",
  "RIGHT SYMBOL) REVERSE(INDEX CHECKER_BOARD LIGHT_FOUR_POINTED_PINWHEEL_STAR LINE_FEED SOLIDUS(.",
  "OPERATOR PRECEDING_SUBSET WITH_HORIZONTAL_STROKE) TILDE_OPERATOR_ABOVE(LEFTWARDS_ARROW",
  "RIGHTWARDS_ARROW)) REVERSED(COMMA PRIME SEMICOLON ANGLE(. WITH_UNDERBAR) DOUBLE(PRIME(.",
  "QUOTATION_MARK) STROKE_NOT_SIGN) EMPTY_SET FORKED_PARAGRAPHOS HAND_WITH_MIDDLE_FINGER_EXTENDED",
  "NOT_SIGN PILCROW_SIGN QUESTION_MARK RAISED_HAND_WITH_FINGERS_SPLAYED RIGHT_ANGLE",
  "ROTATED_FLORAL_HEART_BULLET SANS-SERIF_CAPITAL_L THUMBS(DOWN_SIGN UP_SIGN) TILDE(. EQUALS)",
  "TRIPLE_PRIME VICTORY_HAND) RIBBON(. ARROW(DOWN(LEFT RIGHT) LEFT(DOWN UP) RIGHT(DOWN UP)",
  "UP(LEFT RIGHT))) RICE(BALL CRACKER) RIGHT(CEILING FLOOR TACK AND(LOWER_ONE_EIGHTH_BLOCK",
  "UPPER_ONE_EIGHTH_BLOCK) ANGER_BUBBLE ANGLE(. BRACKET(. WITH_DOT) DOTTED_SUBSTITUTION_MARKER",
  "SUBSTITUTION_MARKER VARIANT_WITH_SQUARE WITH(ARC DOWNWARDS_ZIGZAG_ARROW))",
  "ARC_GREATER-THAN_BRACKET ARROW_WITH(CIRCLED_PLUS SMALL_CIRCLE) BLACK(LENTICULAR_BRACKET",
  "TORTOISE_SHELL_BRACKET) CORNER_BRACKET CURLY_BRACKET(. LOWER_HOOK MIDDLE_PIECE UPPER_HOOK)",
  "DOTTED_SUBSTITUTION_BRACKET DOUBLE(PARENTHESIS ANGLE_BRACKET ARROW_WITH_ROUNDED_HEAD",
  "QUOTATION_MARK WIGGLY_FENCE) FISH_TAIL FIVE_EIGHTHS_BLOCK HALF(BLOCK FOLDER BLACK(CIRCLE STAR)",
  "MEDIUM_SHADE RUNNING_MAN) HAND_TELEPHONE_RECEIVER LOW_PARAPHRASE_BRACKET",
  "NORMAL_FACTOR_SEMIDIRECT_PRODUCT ONE(EIGHTH_BLOCK QUARTER_BLOCK) OPEN_SQUARED_DOT OUTER_JOIN",
  "PARENTHESIS(. EXTENSION LOWER_HOOK UPPER_HOOK) RAISED_OMISSION_BRACKET S-SHAPED_BAG_DELIMITER",
  "SEMIDIRECT_PRODUCT SEVEN_EIGHTHS_BLOCK SIDEWAYS_U_BRACKET SINGLE_QUOTATION_MARK SPEAKER(.",
  "WITH(ONE_SOUND_WAVE THREE_SOUND_WAVES)) SPEECH_BUBBLE SQUARE_BRACKET(. EXTENSION LOWER_CORNER",
  "UPPER_CORNER WITH(QUILL STROKE UNDERBAR DOUBLE_STROKE TICK_IN(BOTTOM_CORNER TOP_CORNER)))",
  "SUBSTITUTION_BRACKET THIRD_WHITE_RIGHT_POINTING_INDEX THOUGHT_BUBBLE THREE(EIGHTHS_BLOCK",
  "QUARTERS_BLOCK) TORTOISE_SHELL_BRACKET TRANSPOSITION_BRACKET TRIANGLE(. ABOVE_LEFT_TRIANGLE)",
  "TRIANGULAR_ONE_QUARTER_BLOCK VERTICAL(BAR_WITH_QUILL BOX_LINE) WHITE(PARENTHESIS",
  "CORNER_BRACKET CURLY_BRACKET LENTICULAR_BRACKET SQUARE_BRACKET TORTOISE_SHELL_BRACKET)",
  "WIGGLY_FENCE) RIGHT-FACING(FIST ARMENIAN_ETERNITY_SIGN SVASTI_SIGN(. WITH_DOTS))",
  "RIGHT-POINTING(ANGLE_BRACKET CURVED_ANGLE_BRACKET DOUBLE_ANGLE_QUOTATION_MARK",
  "MAGNIFYING_GLASS) RIGHT-TO-LEFT(EMBEDDING ISOLATE MARK OVERRIDE) RIGHTWARDS(ARROW-TAIL HAND",
  "ROCKET ARROW(. ABOVE(ALMOST_EQUAL_TO REVERSE(ALMOST_EQUAL_TO TILDE_OPERATOR)",
  "SHORT_LEFTWARDS_ARROW TILDE_OPERATOR) AND_UPPER_AND_LOWER_ONE_EIGHTH_BLOCK FROM_BAR(.",
  "TO_BLACK_DIAMOND) OVER_LEFTWARDS_ARROW THROUGH(GREATER-THAN SUPERSET X) TO(BAR BLACK_DIAMOND)",
  "WITH(HOOK LOOP STROKE CORNER_DOWNWARDS DOTTED_STEM DOUBLE_VERTICAL_STROKE",
  "EQUILATERAL_ARROWHEAD LARGE_TRIANGLE_ARROWHEAD MEDIUM_TRIANGLE_ARROWHEAD NOTCHED_TAIL",
  "PLUS_BELOW SMALL(EQUILATERAL_ARROWHEAD TRIANGLE_ARROWHEAD) TAIL(. WITH(DOUBLE_VERTICAL_STROKE",
  "VERTICAL_STROKE)) TIP(DOWNWARDS UPWARDS) VERTICAL_STROKE)) BACK-TILTED_SHADOWED_WHITE_ARROW",
  "BLACK(ARROW CIRCLED_WHITE_ARROW) BOTTOM_SHADED_WHITE_ARROW COMPRESSED_ARROW DASHED_ARROW",
  "DOUBLE(ARROW-TAIL ARROW(. FROM_BAR WITH(STROKE VERTICAL_STROKE)) DASH_ARROW) FINGER-POST_ARROW",
  "FRONT-TILTED_SHADOWED_WHITE_ARROW HARPOON(OVER_LEFTWARDS_HARPOON WITH_BARB(DOWNWARDS UPWARDS",
  "DOWN(ABOVE_LEFTWARDS_HARPOON_WITH_BARB_DOWN BELOW_LONG_DASH FROM_BAR TO_BAR)",
  "UP(ABOVE(LEFTWARDS_HARPOON_WITH_BARB_UP LONG_DASH RIGHTWARDS_HARPOON_WITH_BARB_DOWN) FROM_BAR",
  "TO_BAR))) HEAVY(ARROW COMPRESSED_ARROW) LEFT-SHADED_WHITE_ARROW OPEN-HEADED_ARROW",
  "PAIRED_ARROWS QUADRUPLE_ARROW RIGHT-SHADED_WHITE_ARROW SANS-SERIF_ARROW SQUARED_ARROW",
  "SQUIGGLE_ARROW TOP_SHADED_WHITE_ARROW TRIANGLE_ARROWHEAD TRIANGLE-HEADED(ARROW(.",
  "OVER_LEFTWARDS_TRIANGLE-HEADED_ARROW TO_BAR WITH(BOLD_SHAFT DOUBLE(HORIZONTAL_STROKE",
  "VERTICAL_STROKE) HEAVY_SHAFT LONG_TIP(DOWNWARDS UPWARDS) MEDIUM_SHAFT NARROW_SHAFT",
  "VERY_HEAVY_SHAFT)) DASHED_ARROW PAIRED_ARROWS) TRIPLE(ARROW DASH_ARROW) TWO_HEADED_ARROW",
  "TWO-HEADED(ARROW(FROM_BAR WITH(DOUBLE_VERTICAL_STROKE TAIL(. WITH(DOUBLE_VERTICAL_STROKE",
  "VERTICAL_STROKE)) TRIANGLE_ARROWHEADS VERTICAL_STROKE)) TRIPLE_DASH_ARROW) WAVE_ARROW",
  "WHITE_ARROW(. FROM_WALL WITHIN_TRIANGLE_ARROWHEAD)) RING(. ABOVE BUOY OPERATOR POINT EQUAL_TO",
  "IN_EQUAL_TO) RISING_DIAGONAL_CROSSING(FALLING_DIAGONAL SOUTH_EAST_ARROW) ROLLER(COASTER SKATE)",
  "ROMAN(AS_SIGN CENTURIAL_SIGN DENARIUS_SIGN DIMIDIA_SEXTULA_SIGN DUPONDIUS_SIGN NUMERAL(EIGHT",
  "ELEVEN FOUR NINE SEVEN THREE TWELVE TWO FIFTY(. THOUSAND EARLY_FORM) FIVE(. HUNDRED THOUSAND)",
  "ONE(. HUNDRED(. THOUSAND) THOUSAND(. C_D)) REVERSED_ONE_HUNDRED SIX(. LATE_FORM) TEN(.",
  "THOUSAND)) QUINARIUS_SIGN SEMUNCIA_SIGN SESTERTIUS_SIGN SEXTANS_SIGN SEXTULA_SIGN SILIQUA_SIGN",
  "UNCIA_SIGN) ROTATED(CAPITAL_Q FLORAL_HEART_BULLET HEAVY_BLACK_HEART_BULLET",
  "LIGHT_FOUR_POINTED_BLACK_CUSP WHITE_FOUR_POINTED_CUSP) ROUND(PUSHPIN TARGET)",
  "ROUNDED_SYMBOL_FOR(CAI FU LU SHOU SHUANGXI XI) RUMI(DIGIT(EIGHT FIVE FOUR NINE ONE SEVEN SIX",
  "THREE TWO) FRACTION(ONE(HALF QUARTER THIRD) TWO_THIRDS) NUMBER(EIGHTY FIFTY FORTY NINETY",
  "SEVENTY SIXTY TEN THIRTY TWENTY EIGHT_HUNDRED FIVE_HUNDRED FOUR_HUNDRED NINE_HUNDRED",
  "ONE_HUNDRED SEVEN_HUNDRED SIX_HUNDRED THREE_HUNDRED TWO_HUNDRED)) RUNIC(ARLAUG_SYMBOL",
  "BELGTHOR_SYMBOL CROSS_PUNCTUATION LETTER(AESC C CALC CEALC CEN CWEORTH D DOTTED-L DOTTED-N",
  "DOTTED-P E EAR ENG ETH G GAR GER ICELANDIC-YR ING INGWAZ IOR K KAUNA LONG-BRANCH-YR O OE ON OO",
  "OPEN-P Q SH SHORT-TWIG-YR STAN V W X Y YR Z AC_A ALGIZ_EOLHX ANSUZ_A BERKANAN_BEORC_BJARKAN_B",
  "DAGAZ_DAEG_D EHWAZ_EH_E FEHU_FEOH_FE_F FRANKS_CASKET(AC AESC EH IS OS) GEBO_GYFU_G HAEGL_H",
  "HAGLAZ_H ISAZ_IS_ISS_I IWAZ_EOH JERAN_J KAUN_K LAUKAZ_LAGU_LOGR_L LONG-BRANCH-AR_AE",
  "LONG-BRANCH-HAGALL_H LONG-BRANCH-MADR_M LONG-BRANCH-OSS_O MANNAZ_MAN_M NAUDIZ_NYD_NAUD_N OS_O",
  "OTHALAN_ETHEL_O PERTHO_PEORTH_P RAIDO_RAD_REID_R SHORT-TWIG-AR_A SHORT-TWIG-BJARKAN_B",
  "SHORT-TWIG-HAGALL_H SHORT-TWIG-MADR_M SHORT-TWIG-NAUD_N SHORT-TWIG-OSS_O SHORT-TWIG-SOL_S",
  "SHORT-TWIG-TYR_T SIGEL_LONG-BRANCH-SOL_S SOWILO_S THURISAZ_THURS_THORN TIWAZ_TIR_TYR_T",
  "URUZ_UR_U WUNJO_WYNN_W) MULTIPLE_PUNCTUATION SINGLE_PUNCTUATION TVIMADUR_SYMBOL)",
  "RUSSIAN_ASTROLOGICAL_SYMBOL(BINOVILE NOVILE QUINTILE SENTAGON TREDECILE VIGINTILE)"]

end MacroStubs.Text.CharacterNames
