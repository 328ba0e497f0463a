/-! # Character names from A to B

Names that begin with a letter from A to B, written as described in `Text/CharacterName`.
-/

namespace MacroStubs.Text.CharacterNames

def initialAToB : List String := [
  "ABACUS ACCORDION ACK ACKNOWLEDGE ADMETOS ADULT AKTIESELSKAB ALEMBIC ALERT ALM AMBULANCE",
  "AMPERSAND AMPHORA ANCHOR ANKH ANT APC APOLLON APOSTROPHE AQUARIUS ARC ARIES ASSERTION ASTERISM",
  "ASTRAEA AUBERGINE AUTOMOBILE AVOCADO AXE BACKSPACE BACON BADGER BAGEL BALLOON BANANA BANJO",
  "BANK BASEBALL BASKET BAT BATH BATHTUB BATTERY BEANS BEAVER BECAUSE BED BEETLE BEL BETWEEN",
  "BICYCLE BICYCLIST BIKINI BILLIARDS BIRD BISON BLOSSOM BLOWFISH BLUEBERRIES BOAR BOM BOMB BONE",
  "BOOK BOOKS BOOMERANG BOWLING BOY BPH BRAIN BREAD BREAST-FEEDING BREVE BRICK BRIEFCASE BRIEFS",
  "BROCCOLI BROOM BS BUBBLES BUCKET BUG BULLSEYE BURRITO BUTTER BUTTERFLY AC_CURRENT ACCOUNT_OF",
  "ADDRESSED_TO_THE_SUBJECT ADHESIVE_BANDAGE ADI_SHAKTI ADMISSION_TICKETS AERIAL_TRAMWAY",
  "AFGHANI_SIGN ALARM_CLOCK ALEF_SYMBOL ALIEN_MONSTER ALTERNATE_ONE-WAY_LEFT_WAY_TRAFFIC",
  "ALTERNATIVE_KEY_SYMBOL AMALGAMATION_OR_COPRODUCT AMERICAN_FOOTBALL ANATOMICAL_HEART",
  "AND_WITH_DOT ANGER_SYMBOL ANGRY_FACE ANGSTROM_SIGN ANGUISHED_FACE ANTENNA_WITH_BARS",
  "APPLICATION_PROGRAM_COMMAND APPROACHES_THE_LIMIT ARROWHEAD-SHAPED_POINTER ARTICULATED_LORRY",
  "ARTIST_PALETTE ASCENDING_NODE ASCIA_SYMBOL ASTONISHED_FACE ASTRONOMICAL_SYMBOL_FOR_URANUS",
  "ASYMPTOTICALLY_EQUAL_TO ATHLETIC_SHOE ATOM_SYMBOL AUSTRAL_SIGN AUTO_RICKSHAW",
  "AUTOMATED_TELLER_MACHINE BACK-TILTED_SHADOWED_WHITE_RIGHTWARDS_ARROW BACTRIAN_CAMEL",
  "BADMINTON_RACQUET_AND_SHUTTLECOCK BAGGAGE_CLAIM BAGUETTE_BREAD BALL_OF_YARN BALLET_SHOES",
  "BALLOON-SPOKED_ASTERISK BARBER_POLE BASKETBALL_AND_HOOP BEACH_WITH_UMBRELLA BEAR_FACE",
  "BEARDED_PERSON BEATING_HEART BEER_MUG BELLHOP_BELL",
  "BENT_ARROW_POINTING_DOWNWARDS_THEN_NORTH_EAST BENTO_BOX BET_SYMBOL BEVERAGE_BOX BILLED_CAP",
  "BIOHAZARD_SIGN BIRTHDAY_CAKE BITCOIN_SIGN BITING_LIP BLANK_SYMBOL BOTTLE_WITH_POPPING_CORK",
  "BOW_AND_ARROW BOXING_GLOVE BOYS_SYMBOL BREAK_PERMITTED_HERE BRIDE_WITH_VEIL BRIDGE_AT_NIGHT",
  "BROWN_HEART BUBBLE_TEA BUILDING_CONSTRUCTION BUST_IN_SILHOUETTE BUSTS_IN_SILHOUETTE",
  "BYTE_ORDER_MARK ACTIVATE(ARABIC_FORM_SHAPING SYMMETRIC_SWAPPING) ACUTE(ACCENT ANGLE)",
  "ADLAM(HAMZA NUKTA ALIF_LENGTHENER CAPITAL_LETTER(ALIF BA BHE CHI DAALI DHA E FA GA GBE HA I",
  "JIIM KAF KHA KPO LAAM MIIM NHA NUN NYA O PE QAAF RA SHA SINNYIIYHE TU U VA WAW YA YHE ZAL)",
  "CONSONANT_MODIFIER DIGIT(EIGHT FIVE FOUR NINE ONE SEVEN SIX THREE TWO ZERO)",
  "GEMINATE_CONSONANT_MODIFIER GEMINATION_MARK INITIAL(EXCLAMATION_MARK QUESTION_MARK)",
  "NASALIZATION_MARK SMALL_LETTER(ALIF BA BHE CHI DAALI DHA E FA GA GBE HA I JIIM KAF KHA KPO",
  "LAAM MIIM NHA NUN NYA O PE QAAF RA SHA SINNYIIYHE TU U VA WAW YA YHE ZAL) VOWEL_LENGTHENER)",
  "AEGEAN(CHECK_MARK DRY_MEASURE_FIRST_SUBUNIT LIQUID_MEASURE_FIRST_SUBUNIT",
  "MEASURE(SECOND_SUBUNIT THIRD_SUBUNIT) NUMBER(EIGHT(. HUNDRED THOUSAND) EIGHTY(. THOUSAND)",
  "FIFTY(. THOUSAND) FIVE(. HUNDRED THOUSAND) FORTY(. THOUSAND) FOUR(. HUNDRED THOUSAND) NINE(.",
  "HUNDRED THOUSAND) NINETY(. THOUSAND) ONE(. HUNDRED THOUSAND) SEVEN(. HUNDRED THOUSAND)",
  "SEVENTY(. THOUSAND) SIX(. HUNDRED THOUSAND) SIXTY(. THOUSAND) TEN(. THOUSAND) THIRTY(.",
  "THOUSAND) THREE(. HUNDRED THOUSAND) TWENTY(. THOUSAND) TWO(. HUNDRED THOUSAND))",
  "WEIGHT(BASE_UNIT FIRST_SUBUNIT FOURTH_SUBUNIT SECOND_SUBUNIT THIRD_SUBUNIT) WORD_SEPARATOR(DOT",
  "LINE)) AHOM(CONSONANT_SIGN_MEDIAL(LA RA LIGATING_RA) DIGIT(EIGHT FIVE FOUR NINE ONE SEVEN SIX",
  "THREE TWO ZERO) LETTER(A BA BHA CA CHA DA DDA DDHA DHA GA GHA HA JA JHA KA KHA LA LLA MA NA",
  "NGA NNA NYA PA PHA RA SA TA THA TTA TTHA ALTERNATE(BA GA TA)) NUMBER(TEN TWENTY) SIGN(KILLER",
  "RULAI SECTION SMALL_SECTION) SYMBOL_VI VOWEL_SIGN(A AA AI AM AW E I II O U UU)) AIRPLANE(.",
  "ARRIVING DEPARTURE) ALCHEMICAL_SYMBOL_FOR(AIR ALEMBIC ALKALI ALUM AMALGAM AQUAFORTIS ARSENIC",
  "ASHES AURIPIGMENT BORAX BRICK CADUCEUS CALX CINNABAR CRUCIBLE DAY-NIGHT DISSOLVE DISTILL EARTH",
  "FIRE GOLD GUM HOUR LODESTONE MARCASITE MONTH NIGHT NITRE OIL POWDER PRECIPITATE PURIFY",
  "PUTREFACTION QUINTESSENCE REALGAR RETORT SAL-AMMONIAC SILVER SOAP SPIRIT SUBLIMATION SULFUR",
  "TARTAR TINCTURE TRIDENT TUTTY URINE VERDIGRIS VITRIOL WATER WAX ALKALI-2 BORAX-2 BORAX-3",
  "CRUCIBLE-2~5 DISSOLVE-2 REALGAR-2 REGULUS-2~4 TARTAR-2 VINEGAR-2 VINEGAR-3 VITRIOL-2",
  "ANTIMONY_ORE AQUA(REGIA VITAE REGIA-2 VITAE-2) BATH_OF(MARY VAPOURS) BISMUTH_ORE BLACK_SULFUR",
  "CAPUT_MORTUUM COPPER(ANTIMONIATE ORE) CROCUS_OF(COPPER IRON COPPER-2) HALF(DRAM OUNCE)",
  "HORSE_DUNG IRON(ORE ORE-2) IRON-COPPER_ORE LEAD_ORE MERCURY(SUBLIMATE SUBLIMATE-2 SUBLIMATE-3)",
  "PHILOSOPHERS_SULFUR POT_ASHES POWDERED_BRICK QUICK_LIME REGULUS(. OF(ANTIMONY IRON",
  "ANTIMONY-2)) ROCK(SALT SALT-2) SALT(. OF(ANTIMONY COPPER_ANTIMONIATE)) SCEPTER_OF_JOVE",
  "STARRED_TRIDENT STRATUM_SUPER(STRATUM STRATUM-2) SUBLIMATE_OF(ANTIMONY COPPER SALT_OF(ANTIMONY",
  "COPPER)) TIN_ORE VINEGAR(. OF_ANTIMONY)) ALL(AROUND-PROFILE EQUAL_TO) ALMOST_EQUAL(OR_EQUAL_TO",
  "TO(. WITH_CIRCUMFLEX_ACCENT)) ANATOLIAN_HIEROGLYPH(A010A A026A A039A A041A A045A A046A A046B",
  "A066A A066B A066C A097A A098A A100A A101A A102A A104A A104B A104C A105A A105B A107A A107B",
  "A107C A110A A110B A115A A125A A135A A202A A202B A207A A209A A215A A216A A227A A267A A289A",
  "A294A A299A A309A A329A A332A A332B A332C A336A A336B A336C A359A A364A A368A A371A A381A",
  "A383A A386A A450A A457A A001~331 A333~382 A384~392 A394~409 A411~497 A501~530 A383_RA_OR_RI",
  "A393_EIGHT A410_BEGIN_LOGOGRAM_MARK A410A_END_LOGOGRAM_MARK) ANGLE(. WITH(UNDERBAR S_INSIDE))",
  "ANTICLOCKWISE(INTEGRATION CLOSED_CIRCLE_ARROW CONTOUR_INTEGRAL",
  "DOWNWARDS_AND_UPWARDS_OPEN_CIRCLE_ARROWS GAPPED_CIRCLE_ARROW OPEN_CIRCLE_ARROW",
  "TOP_SEMICIRCLE_ARROW TRIANGLE-HEADED(BOTTOM_U-SHAPED_ARROW LEFT_U-SHAPED_ARROW",
  "OPEN_CIRCLE_ARROW RIGHT_U-SHAPED_ARROW TOP_U-SHAPED_ARROW)) APL_FUNCTIONAL_SYMBOL(I-BEAM RHO",
  "ZILDE ALPHA(. UNDERBAR) BACKSLASH_BAR CIRCLE(BACKSLASH DIAERESIS JOT STAR STILE UNDERBAR)",
  "COMMA_BAR DEL(DIAERESIS STILE TILDE) DELTA(STILE UNDERBAR) DIAMOND_UNDERBAR DOWN(CARET_TILDE",
  "SHOE_STILE TACK(JOT UNDERBAR)) DOWNWARDS_VANE EPSILON_UNDERBAR GREATER-THAN_DIAERESIS IOTA(.",
  "UNDERBAR) JOT(DIAERESIS UNDERBAR) LEFT_SHOE_STILE LEFTWARDS_VANE OMEGA(. UNDERBAR) QUAD(.",
  "BACKSLASH CIRCLE COLON DEL DELTA DIAMOND DIVIDE EQUAL GREATER-THAN JOT LESS-THAN QUESTION",
  "SLASH DOWN_CARET DOWNWARDS_ARROW LEFTWARDS_ARROW NOT_EQUAL RIGHTWARDS_ARROW UP_CARET",
  "UPWARDS_ARROW) QUOTE(QUAD UNDERBAR) RIGHTWARDS_VANE SEMICOLON_UNDERBAR SLASH_BAR SQUISH_QUAD",
  "STAR_DIAERESIS STILE_TILDE TILDE_DIAERESIS UP(CARET_TILDE SHOE_JOT TACK(DIAERESIS JOT",
  "OVERBAR)) UPWARDS_VANE) APPROXIMATELY(BUT_NOT_ACTUALLY_EQUAL_TO EQUAL(OR_EQUAL_TO TO(.",
  "OR_THE_IMAGE_OF))) ARABIC(COMMA RAY SEMICOLON ZWARAKAY BASELINE_ROUND_DOT CURLY(DAMMA DAMMATAN",
  "FATHA FATHATAN KASRA KASRATAN) DAMMA(. ISOLATED_FORM MEDIAL_FORM WITH_DOT) DAMMATAN(.",
  "ISOLATED_FORM) DATE_SEPARATOR DECIMAL_SEPARATOR DISPUTED_END_OF_AYAH",
  "DOUBLE_RIGHT_ARROWHEAD_ABOVE(. WITH_DOT) DOUBLED_MADDA EMPTY_CENTRE(HIGH_STOP LOW_STOP)",
  "END_OF(AYAH TEXT_MARK) FATHA(. ISOLATED_FORM MEDIAL_FORM WITH(RING DOT_ABOVE TWO_DOTS))",
  "FATHATAN(. ISOLATED_FORM) FIVE_POINTED_STAR FOOTNOTE_MARKER FULL_STOP HALF_MADDA_OVER_MADDA",
  "HAMZA(ABOVE BELOW) INVERTED_DAMMA KASRA(. ISOLATED_FORM MEDIAL_FORM WITH_DOT_BELOW) KASRATAN(.",
  "ISOLATED_FORM) LARGE(CIRCLE_BELOW ROUND_DOT(ABOVE BELOW INSIDE_CIRCLE_BELOW))",
  "LEFT_ARROWHEAD(ABOVE BELOW) LETTER(AE GRAF MARK AFRICAN(FEH NOON QAF(. WITH_THREE_DOTS_ABOVE))",
  "AIN(. FINAL_FORM INITIAL_FORM ISOLATED_FORM MEDIAL_FORM WITH(THREE_DOTS(ABOVE BELOW",
  "POINTING_DOWNWARDS_ABOVE) TWO_DOTS(ABOVE VERTICALLY_ABOVE))) ALEF(. FINAL_FORM ISOLATED_FORM",
  "MAKSURA(. FINAL_FORM ISOLATED_FORM) WASLA(. FINAL_FORM ISOLATED_FORM) WITH(ATTACHED(FATHA",
  "KASRA BOTTOM_RIGHT_KASRA(. AND(DOT_ABOVE LEFT_RING)) LEFT(HAMZA ROUND_DOT) RIGHT(HAMZA",
  "ROUND_DOT) ROUND_DOT(ABOVE BELOW) TOP_RIGHT_FATHA(. AND(DOT_ABOVE LEFT_RING))) DOT_ABOVE",
  "EXTENDED_ARABIC-INDIC_DIGIT(THREE_ABOVE TWO_ABOVE) HAMZA(ABOVE(. FINAL_FORM ISOLATED_FORM)",
  "BELOW(. FINAL_FORM ISOLATED_FORM)) LEFT_MIDDLE_STROKE MADDA_ABOVE(. FINAL_FORM ISOLATED_FORM)",
  "RIGHT_MIDDLE_STROKE(. AND(DOT_ABOVE LEFT_RING)) WAVY_HAMZA(ABOVE BELOW))) BEEH(. FINAL_FORM",
  "INITIAL_FORM ISOLATED_FORM MEDIAL_FORM) BEH(. FINAL_FORM INITIAL_FORM ISOLATED_FORM",
  "MEDIAL_FORM WITH(DOT_BELOW_AND_THREE_DOTS_ABOVE HAMZA_ABOVE INVERTED_SMALL_V_BELOW",
  "SMALL(MEEM_ABOVE V(. BELOW)) THREE_DOTS(HORIZONTALLY_BELOW POINTING_UPWARDS_BELOW(.",
  "AND_TWO_DOTS_ABOVE)) TWO_DOTS_BELOW_AND_DOT_ABOVE)) BEHEH(. FINAL_FORM INITIAL_FORM",
  "ISOLATED_FORM MEDIAL_FORM) DAD(. FINAL_FORM INITIAL_FORM ISOLATED_FORM MEDIAL_FORM",
  "WITH_DOT_BELOW) DAHAL(. FINAL_FORM ISOLATED_FORM) DAL(. FINAL_FORM ISOLATED_FORM WITH(RING",
  "DOT_BELOW(. AND_SMALL_TAH) FOUR_DOTS_ABOVE INVERTED(V SMALL_V_BELOW) THREE_DOTS(BELOW",
  "ABOVE_DOWNWARDS) TWO_DOTS_VERTICALLY_BELOW_AND_SMALL_TAH)) DDAHAL(. FINAL_FORM ISOLATED_FORM)",
  "DDAL(. FINAL_FORM ISOLATED_FORM) DOTLESS(BEH FEH QAF) DUL(. FINAL_FORM ISOLATED_FORM) DYEH(.",
  "FINAL_FORM INITIAL_FORM ISOLATED_FORM MEDIAL_FORM) E(. FINAL_FORM INITIAL_FORM ISOLATED_FORM",
  "MEDIAL_FORM) FARSI_YEH(. FINAL_FORM INITIAL_FORM ISOLATED_FORM MEDIAL_FORM",
  "WITH(EXTENDED_ARABIC-INDIC_DIGIT(FOUR_BELOW THREE_ABOVE TWO_ABOVE) INVERTED_V THREE_DOTS_ABOVE",
  "TWO_DOTS_ABOVE)) FEH(. FINAL_FORM INITIAL_FORM ISOLATED_FORM MEDIAL_FORM WITH(DOT(BELOW(.",
  "AND_THREE_DOTS_ABOVE) MOVED_BELOW) THREE_DOTS(BELOW POINTING_UPWARDS_BELOW) TWO_DOTS_BELOW))",
  "GAF(. FINAL_FORM INITIAL_FORM ISOLATED_FORM MEDIAL_FORM WITH(RING INVERTED_STROKE",
  "THREE_DOTS_ABOVE TWO_DOTS_BELOW)) GHAIN(. FINAL_FORM INITIAL_FORM ISOLATED_FORM MEDIAL_FORM",
  "WITH(DOT_BELOW THREE_DOTS_ABOVE)) GUEH(. FINAL_FORM INITIAL_FORM ISOLATED_FORM MEDIAL_FORM)",
  "HAH(. FINAL_FORM INITIAL_FORM ISOLATED_FORM MEDIAL_FORM",
  "WITH(EXTENDED_ARABIC-INDIC_DIGIT_FOUR_BELOW HAMZA_ABOVE INVERTED_SMALL_V_BELOW",
  "SMALL_ARABIC_LETTER_TAH(ABOVE BELOW AND_TWO_DOTS) THREE_DOTS(ABOVE POINTING_UPWARDS_BELOW)",
  "TWO_DOTS(ABOVE VERTICAL_ABOVE))) HAMZA(. ISOLATED_FORM) HEH(. DOACHASHMEE(. FINAL_FORM",
  "INITIAL_FORM ISOLATED_FORM MEDIAL_FORM) FINAL_FORM GOAL(. FINAL_FORM INITIAL_FORM",
  "ISOLATED_FORM MEDIAL_FORM WITH_HAMZA_ABOVE) INITIAL_FORM ISOLATED_FORM MEDIAL_FORM",
  "WITH(INVERTED_V YEH_ABOVE(. FINAL_FORM ISOLATED_FORM))) HIGH_HAMZA(. ALEF WAW YEH) JEEM(.",
  "FINAL_FORM INITIAL_FORM ISOLATED_FORM MEDIAL_FORM WITH(THREE_DOTS(ABOVE BELOW)",
  "TWO_DOTS_ABOVE)) JEH(. FINAL_FORM ISOLATED_FORM) KAF(. FINAL_FORM INITIAL_FORM ISOLATED_FORM",
  "MEDIAL_FORM WITH(RING DOT(ABOVE BELOW) THREE_DOTS_BELOW TWO_DOTS_ABOVE)) KASHMIRI_YEH KEHEH(.",
  "FINAL_FORM INITIAL_FORM ISOLATED_FORM MEDIAL_FORM WITH(DOT_ABOVE SMALL_V THREE_DOTS(ABOVE",
  "BELOW POINTING_UPWARDS_BELOW) TWO_DOTS(ABOVE VERTICALLY_BELOW))) KHAH(. FINAL_FORM",
  "INITIAL_FORM ISOLATED_FORM MEDIAL_FORM) KIRGHIZ(OE(. FINAL_FORM ISOLATED_FORM) YU(. FINAL_FORM",
  "ISOLATED_FORM)) LAM(. FINAL_FORM INITIAL_FORM ISOLATED_FORM MEDIAL_FORM WITH(BAR DOT_ABOVE",
  "DOUBLE_BAR SMALL(V ARABIC_LETTER_TAH_ABOVE) THREE_DOTS(ABOVE BELOW))) LOW_ALEF MEEM(.",
  "FINAL_FORM INITIAL_FORM ISOLATED_FORM MEDIAL_FORM WITH(DOT(ABOVE BELOW) THREE_DOTS_ABOVE))",
  "NG(. FINAL_FORM INITIAL_FORM ISOLATED_FORM MEDIAL_FORM) NGOEH(. FINAL_FORM INITIAL_FORM",
  "ISOLATED_FORM MEDIAL_FORM) NOON(. FINAL_FORM GHUNNA(. FINAL_FORM ISOLATED_FORM) INITIAL_FORM",
  "ISOLATED_FORM MEDIAL_FORM WITH(RING DOT_BELOW INVERTED_SMALL_V SMALL(TAH V) THREE_DOTS_ABOVE",
  "TWO_DOTS_BELOW)) NYEH(. FINAL_FORM INITIAL_FORM ISOLATED_FORM MEDIAL_FORM) OE(. FINAL_FORM",
  "ISOLATED_FORM) PEH(. FINAL_FORM INITIAL_FORM ISOLATED_FORM MEDIAL_FORM WITH_SMALL(V",
  "MEEM_ABOVE)) PEHEH(. FINAL_FORM INITIAL_FORM ISOLATED_FORM MEDIAL_FORM) QAF(. FINAL_FORM",
  "INITIAL_FORM ISOLATED_FORM MEDIAL_FORM WITH(DOT(ABOVE BELOW(. AND_NO_DOTS_ABOVE))",
  "THREE_DOTS_ABOVE)) REH(. FINAL_FORM ISOLATED_FORM WITH(LOOP RING STROKE DOT_BELOW(.",
  "AND_DOT_ABOVE) FOUR_DOTS_ABOVE HAMZA_ABOVE INVERTED_V SMALL(ARABIC_LETTER_TAH_AND_TWO_DOTS",
  "NOON_ABOVE V(. BELOW)) TWO_DOTS(ABOVE VERTICALLY_ABOVE))) RNOON(. FINAL_FORM INITIAL_FORM",
  "ISOLATED_FORM MEDIAL_FORM) ROHINGYA_YEH RREH(. FINAL_FORM ISOLATED_FORM) SAD(. FINAL_FORM",
  "INITIAL_FORM ISOLATED_FORM MEDIAL_FORM WITH(THREE_DOTS(ABOVE BELOW) TWO_DOTS_BELOW)) SEEN(.",
  "FINAL_FORM INITIAL_FORM ISOLATED_FORM MEDIAL_FORM WITH(DOT_BELOW_AND_DOT_ABOVE",
  "EXTENDED_ARABIC-INDIC_DIGIT_FOUR_ABOVE FOUR_DOTS_ABOVE INVERTED_V",
  "SMALL_ARABIC_LETTER_TAH_AND_TWO_DOTS THREE_DOTS_BELOW(. AND_THREE_DOTS_ABOVE)",
  "TWO_DOTS_VERTICALLY_ABOVE)) SHEEN(. FINAL_FORM INITIAL_FORM ISOLATED_FORM MEDIAL_FORM",
  "WITH_DOT_BELOW) STRAIGHT_WAW SUPERSCRIPT_ALEF SWASH_KAF TAH(. FINAL_FORM INITIAL_FORM",
  "ISOLATED_FORM MEDIAL_FORM WITH(DOT_BELOW THREE_DOTS(ABOVE BELOW) TWO_DOTS_ABOVE)) TCHEH(.",
  "FINAL_FORM INITIAL_FORM ISOLATED_FORM MEDIAL_FORM WITH(DOT_ABOVE SMALL_V)) TCHEHEH(.",
  "FINAL_FORM INITIAL_FORM ISOLATED_FORM MEDIAL_FORM) TEH(. FINAL_FORM INITIAL_FORM ISOLATED_FORM",
  "MARBUTA(. GOAL FINAL_FORM ISOLATED_FORM) MEDIAL_FORM WITH(RING SMALL(V TEH_ABOVE)",
  "THREE_DOTS_ABOVE_DOWNWARDS)) TEHEH(. FINAL_FORM INITIAL_FORM ISOLATED_FORM MEDIAL_FORM) THAL(.",
  "FINAL_FORM ISOLATED_FORM) THEH(. FINAL_FORM INITIAL_FORM ISOLATED_FORM MEDIAL_FORM) THIN_YEH",
  "TTEH(. FINAL_FORM INITIAL_FORM ISOLATED_FORM MEDIAL_FORM WITH_SMALL_V) TTEHEH(. FINAL_FORM",
  "INITIAL_FORM ISOLATED_FORM MEDIAL_FORM) U(. FINAL_FORM ISOLATED_FORM WITH_HAMZA_ABOVE(.",
  "ISOLATED_FORM)) UIGHUR_KAZAKH_KIRGHIZ_ALEF_MAKSURA(INITIAL_FORM MEDIAL_FORM) VE(. FINAL_FORM",
  "ISOLATED_FORM) VEH(. FINAL_FORM INITIAL_FORM ISOLATED_FORM MEDIAL_FORM) WAW(. FINAL_FORM",
  "ISOLATED_FORM WITH(RING DOT(ABOVE WITHIN) EXTENDED_ARABIC-INDIC_DIGIT(THREE_ABOVE TWO_ABOVE)",
  "HAMZA_ABOVE(. FINAL_FORM ISOLATED_FORM) TWO_DOTS_ABOVE)) YEH(. BARREE(. FINAL_FORM",
  "ISOLATED_FORM WITH(EXTENDED_ARABIC-INDIC_DIGIT(THREE_ABOVE TWO_ABOVE) HAMZA_ABOVE(. FINAL_FORM",
  "ISOLATED_FORM))) FINAL_FORM INITIAL_FORM ISOLATED_FORM MEDIAL_FORM WITH(TAIL HAMZA_ABOVE(.",
  "FINAL_FORM INITIAL_FORM ISOLATED_FORM MEDIAL_FORM) SMALL_V THREE_DOTS_BELOW",
  "TWO_DOTS_BELOW_AND(DOT_ABOVE HAMZA_ABOVE SMALL_NOON_ABOVE))) YU(. FINAL_FORM ISOLATED_FORM)",
  "ZAH(. FINAL_FORM INITIAL_FORM ISOLATED_FORM MEDIAL_FORM) ZAIN(. FINAL_FORM ISOLATED_FORM",
  "WITH_INVERTED_V_ABOVE)) LIGATURE(JALLAJALALOUHOU AIN_WITH(ALEF_MAKSURA(FINAL_FORM",
  "ISOLATED_FORM) JEEM(INITIAL_FORM ISOLATED_FORM WITH_MEEM(FINAL_FORM INITIAL_FORM))",
  "MEEM(INITIAL_FORM ISOLATED_FORM WITH(ALEF_MAKSURA_FINAL_FORM MEEM(FINAL_FORM INITIAL_FORM)",
  "YEH_FINAL_FORM)) YEH(FINAL_FORM ISOLATED_FORM)) AKBAR_ISOLATED_FORM ALAYHAA_AS-SALAAM",
  "ALAYHE_ISOLATED_FORM ALAYHI(AS-SALAAM AS-SALAATU_WAS-SALAAM) ALAYHIM_AS-SALAAM",
  "ALAYHIMAA_AS-SALAAM ALEF(MAKSURA_WITH_SUPERSCRIPT_ALEF(FINAL_FORM ISOLATED_FORM)",
  "WITH_FATHATAN(FINAL_FORM ISOLATED_FORM)) ALLAH_ISOLATED_FORM AZZA_WA_JALL",
  "BEH_WITH(ALEF_MAKSURA(FINAL_FORM ISOLATED_FORM) HAH(INITIAL_FORM ISOLATED_FORM",
  "WITH_YEH_FINAL_FORM) HEH(INITIAL_FORM MEDIAL_FORM) JEEM(INITIAL_FORM ISOLATED_FORM)",
  "KHAH(INITIAL_FORM ISOLATED_FORM WITH_YEH_FINAL_FORM) MEEM(FINAL_FORM INITIAL_FORM",
  "ISOLATED_FORM MEDIAL_FORM) NOON_FINAL_FORM REH_FINAL_FORM YEH(FINAL_FORM ISOLATED_FORM)",
  "ZAIN_FINAL_FORM) BISMILLAH_AR-RAHMAN_AR-RAHEEM DAD_WITH(ALEF_MAKSURA(FINAL_FORM ISOLATED_FORM)",
  "HAH(INITIAL_FORM ISOLATED_FORM WITH(ALEF_MAKSURA_FINAL_FORM YEH_FINAL_FORM)) JEEM(INITIAL_FORM",
  "ISOLATED_FORM) KHAH(INITIAL_FORM ISOLATED_FORM WITH_MEEM(FINAL_FORM INITIAL_FORM))",
  "MEEM(INITIAL_FORM ISOLATED_FORM) REH(FINAL_FORM ISOLATED_FORM) YEH(FINAL_FORM ISOLATED_FORM))",
  "FEH_WITH(ALEF_MAKSURA(FINAL_FORM ISOLATED_FORM) HAH(INITIAL_FORM ISOLATED_FORM)",
  "JEEM(INITIAL_FORM ISOLATED_FORM) KHAH(INITIAL_FORM ISOLATED_FORM WITH_MEEM(FINAL_FORM",
  "INITIAL_FORM)) MEEM(INITIAL_FORM ISOLATED_FORM WITH_YEH_FINAL_FORM) YEH(FINAL_FORM",
  "ISOLATED_FORM)) GHAIN_WITH(ALEF_MAKSURA(FINAL_FORM ISOLATED_FORM) JEEM(INITIAL_FORM",
  "ISOLATED_FORM) MEEM(INITIAL_FORM ISOLATED_FORM WITH(ALEF_MAKSURA_FINAL_FORM MEEM_FINAL_FORM",
  "YEH_FINAL_FORM)) YEH(FINAL_FORM ISOLATED_FORM)) HAH_WITH(ALEF_MAKSURA(FINAL_FORM",
  "ISOLATED_FORM) JEEM(INITIAL_FORM ISOLATED_FORM WITH_YEH_FINAL_FORM) MEEM(INITIAL_FORM",
  "ISOLATED_FORM WITH(ALEF_MAKSURA_FINAL_FORM YEH_FINAL_FORM)) YEH(FINAL_FORM ISOLATED_FORM))",
  "HEH_WITH(ALEF_MAKSURA_ISOLATED_FORM JEEM(INITIAL_FORM ISOLATED_FORM) MEEM(INITIAL_FORM",
  "ISOLATED_FORM WITH(JEEM_INITIAL_FORM MEEM_INITIAL_FORM)) SUPERSCRIPT_ALEF_INITIAL_FORM",
  "YEH_ISOLATED_FORM) JEEM_WITH(ALEF_MAKSURA(FINAL_FORM ISOLATED_FORM) HAH(INITIAL_FORM",
  "ISOLATED_FORM WITH(ALEF_MAKSURA_FINAL_FORM YEH_FINAL_FORM)) MEEM(INITIAL_FORM ISOLATED_FORM",
  "WITH(ALEF_MAKSURA_FINAL_FORM HAH(FINAL_FORM INITIAL_FORM) YEH_FINAL_FORM)) YEH(FINAL_FORM",
  "ISOLATED_FORM)) KAF_WITH(ALEF(FINAL_FORM ISOLATED_FORM MAKSURA(FINAL_FORM ISOLATED_FORM))",
  "HAH(INITIAL_FORM ISOLATED_FORM) JEEM(INITIAL_FORM ISOLATED_FORM) KHAH(INITIAL_FORM",
  "ISOLATED_FORM) LAM(FINAL_FORM INITIAL_FORM ISOLATED_FORM MEDIAL_FORM) MEEM(FINAL_FORM",
  "INITIAL_FORM ISOLATED_FORM MEDIAL_FORM WITH(MEEM(FINAL_FORM INITIAL_FORM) YEH_FINAL_FORM))",
  "YEH(FINAL_FORM ISOLATED_FORM)) KHAH_WITH(ALEF_MAKSURA(FINAL_FORM ISOLATED_FORM)",
  "HAH_ISOLATED_FORM JEEM(INITIAL_FORM ISOLATED_FORM) MEEM(INITIAL_FORM ISOLATED_FORM)",
  "YEH(FINAL_FORM ISOLATED_FORM)) LAM_WITH(ALEF(FINAL_FORM ISOLATED_FORM MAKSURA(FINAL_FORM",
  "ISOLATED_FORM) WITH(HAMZA(ABOVE(FINAL_FORM ISOLATED_FORM) BELOW(FINAL_FORM ISOLATED_FORM))",
  "MADDA_ABOVE(FINAL_FORM ISOLATED_FORM))) HAH(INITIAL_FORM ISOLATED_FORM",
  "WITH(ALEF_MAKSURA_FINAL_FORM MEEM(FINAL_FORM INITIAL_FORM) YEH_FINAL_FORM)) HEH_INITIAL_FORM",
  "JEEM(INITIAL_FORM ISOLATED_FORM WITH(JEEM(FINAL_FORM INITIAL_FORM) MEEM(FINAL_FORM",
  "INITIAL_FORM) YEH_FINAL_FORM)) KHAH(INITIAL_FORM ISOLATED_FORM WITH_MEEM(FINAL_FORM",
  "INITIAL_FORM)) MEEM(FINAL_FORM INITIAL_FORM ISOLATED_FORM MEDIAL_FORM WITH(HAH(FINAL_FORM",
  "INITIAL_FORM) YEH_FINAL_FORM)) YEH(FINAL_FORM ISOLATED_FORM)) MEEM_WITH(ALEF(FINAL_FORM",
  "MAKSURA_ISOLATED_FORM) HAH(INITIAL_FORM ISOLATED_FORM WITH(JEEM_INITIAL_FORM MEEM_INITIAL_FORM",
  "YEH_FINAL_FORM)) JEEM(INITIAL_FORM ISOLATED_FORM WITH(HAH_INITIAL_FORM KHAH_INITIAL_FORM",
  "MEEM_INITIAL_FORM YEH_FINAL_FORM)) KHAH(INITIAL_FORM ISOLATED_FORM WITH(JEEM_INITIAL_FORM",
  "MEEM_INITIAL_FORM YEH_FINAL_FORM)) MEEM(FINAL_FORM INITIAL_FORM ISOLATED_FORM",
  "WITH_YEH_FINAL_FORM) YEH_ISOLATED_FORM) MOHAMMAD_ISOLATED_FORM",
  "NOON_WITH(ALEF_MAKSURA(FINAL_FORM ISOLATED_FORM) HAH(INITIAL_FORM ISOLATED_FORM",
  "WITH(ALEF_MAKSURA_FINAL_FORM MEEM_INITIAL_FORM YEH_FINAL_FORM)) HEH(INITIAL_FORM MEDIAL_FORM)",
  "JEEM(INITIAL_FORM ISOLATED_FORM WITH(ALEF_MAKSURA_FINAL_FORM HAH(FINAL_FORM INITIAL_FORM)",
  "MEEM(FINAL_FORM INITIAL_FORM) YEH_FINAL_FORM)) KHAH(INITIAL_FORM ISOLATED_FORM)",
  "MEEM(FINAL_FORM INITIAL_FORM ISOLATED_FORM MEDIAL_FORM WITH(ALEF_MAKSURA_FINAL_FORM",
  "YEH_FINAL_FORM)) NOON_FINAL_FORM REH_FINAL_FORM YEH(FINAL_FORM ISOLATED_FORM) ZAIN_FINAL_FORM)",
  "QAF_WITH(ALEF_MAKSURA(FINAL_FORM ISOLATED_FORM) HAH(INITIAL_FORM ISOLATED_FORM)",
  "MEEM(INITIAL_FORM ISOLATED_FORM WITH(HAH(FINAL_FORM INITIAL_FORM) MEEM_FINAL_FORM",
  "YEH_FINAL_FORM)) YEH(FINAL_FORM ISOLATED_FORM)) QALA_USED_AS_KORANIC_STOP_SIGN_ISOLATED_FORM",
  "QUDDISA_SIRRAH RADI_ALLAAHU(ANH ANHAA ANHUM ANHUMAA ANHUNNA) RAHIMAHU_ALLAAH RAHIMAHUM_ALLAAH",
  "RASOUL_ISOLATED_FORM REH_WITH_SUPERSCRIPT_ALEF_ISOLATED_FORM SAD_WITH(ALEF_MAKSURA(FINAL_FORM",
  "ISOLATED_FORM) HAH(INITIAL_FORM ISOLATED_FORM WITH(HAH(FINAL_FORM INITIAL_FORM)",
  "YEH_FINAL_FORM)) KHAH_INITIAL_FORM MEEM(INITIAL_FORM ISOLATED_FORM WITH_MEEM(FINAL_FORM",
  "INITIAL_FORM)) REH(FINAL_FORM ISOLATED_FORM) YEH(FINAL_FORM ISOLATED_FORM)) SALAAMUHU_ALAYNAA",
  "SALAM_ISOLATED_FORM SALLA(ISOLATED_FORM USED_AS_KORANIC_STOP_SIGN_ISOLATED_FORM)",
  "SALLALLAAHU_ALAYHI_WA-AALIH SALLALLAHOU_ALAYHE_WASALLAM SALLALLAHU_ALAYHI_WAAALIHEE_WA-SALLAM",
  "SEEN_WITH(ALEF_MAKSURA(FINAL_FORM ISOLATED_FORM) HAH(INITIAL_FORM ISOLATED_FORM MEDIAL_FORM",
  "WITH_JEEM_INITIAL_FORM) HEH(INITIAL_FORM MEDIAL_FORM) JEEM(INITIAL_FORM ISOLATED_FORM",
  "MEDIAL_FORM WITH(ALEF_MAKSURA_FINAL_FORM HAH_INITIAL_FORM)) KHAH(INITIAL_FORM ISOLATED_FORM",
  "MEDIAL_FORM WITH(ALEF_MAKSURA_FINAL_FORM YEH_FINAL_FORM)) MEEM(INITIAL_FORM ISOLATED_FORM",
  "MEDIAL_FORM WITH(HAH(FINAL_FORM INITIAL_FORM) JEEM_INITIAL_FORM MEEM(FINAL_FORM",
  "INITIAL_FORM))) REH(FINAL_FORM ISOLATED_FORM) YEH(FINAL_FORM ISOLATED_FORM))",
  "SHADDA_WITH(DAMMA(ISOLATED_FORM MEDIAL_FORM) DAMMATAN_ISOLATED_FORM FATHA(ISOLATED_FORM",
  "MEDIAL_FORM) KASRA(ISOLATED_FORM MEDIAL_FORM) KASRATAN_ISOLATED_FORM",
  "SUPERSCRIPT_ALEF_ISOLATED_FORM) SHEEN_WITH(ALEF_MAKSURA(FINAL_FORM ISOLATED_FORM)",
  "HAH(FINAL_FORM INITIAL_FORM ISOLATED_FORM MEDIAL_FORM WITH(MEEM(FINAL_FORM INITIAL_FORM)",
  "YEH_FINAL_FORM)) HEH(INITIAL_FORM MEDIAL_FORM) JEEM(FINAL_FORM INITIAL_FORM ISOLATED_FORM",
  "MEDIAL_FORM WITH_YEH_FINAL_FORM) KHAH(FINAL_FORM INITIAL_FORM ISOLATED_FORM MEDIAL_FORM)",
  "MEEM(FINAL_FORM INITIAL_FORM ISOLATED_FORM MEDIAL_FORM WITH(KHAH(FINAL_FORM INITIAL_FORM)",
  "MEEM(FINAL_FORM INITIAL_FORM))) REH(FINAL_FORM ISOLATED_FORM) YEH(FINAL_FORM ISOLATED_FORM))",
  "SUBHAANAHU_WA_TAAALAA TABAARAKA_WA-TAAALAA TAH_WITH(ALEF_MAKSURA(FINAL_FORM ISOLATED_FORM)",
  "HAH(INITIAL_FORM ISOLATED_FORM) MEEM(INITIAL_FORM ISOLATED_FORM MEDIAL_FORM",
  "WITH(HAH(FINAL_FORM INITIAL_FORM) MEEM_INITIAL_FORM YEH_FINAL_FORM)) YEH(FINAL_FORM",
  "ISOLATED_FORM)) TEH_WITH(ALEF_MAKSURA(FINAL_FORM ISOLATED_FORM) HAH(INITIAL_FORM ISOLATED_FORM",
  "WITH(JEEM(FINAL_FORM INITIAL_FORM) MEEM_INITIAL_FORM)) HEH(INITIAL_FORM MEDIAL_FORM)",
  "JEEM(INITIAL_FORM ISOLATED_FORM WITH(ALEF_MAKSURA_FINAL_FORM MEEM_INITIAL_FORM",
  "YEH_FINAL_FORM)) KHAH(INITIAL_FORM ISOLATED_FORM WITH(ALEF_MAKSURA_FINAL_FORM",
  "MEEM_INITIAL_FORM YEH_FINAL_FORM)) MEEM(FINAL_FORM INITIAL_FORM ISOLATED_FORM MEDIAL_FORM",
  "WITH(ALEF_MAKSURA_FINAL_FORM HAH_INITIAL_FORM JEEM_INITIAL_FORM KHAH_INITIAL_FORM",
  "YEH_FINAL_FORM)) NOON_FINAL_FORM REH_FINAL_FORM YEH(FINAL_FORM ISOLATED_FORM) ZAIN_FINAL_FORM)",
  "THAL_WITH_SUPERSCRIPT_ALEF_ISOLATED_FORM THEH_WITH(ALEF_MAKSURA(FINAL_FORM ISOLATED_FORM)",
  "HEH_MEDIAL_FORM JEEM_ISOLATED_FORM MEEM(FINAL_FORM INITIAL_FORM ISOLATED_FORM MEDIAL_FORM)",
  "NOON_FINAL_FORM REH_FINAL_FORM YEH(FINAL_FORM ISOLATED_FORM) ZAIN_FINAL_FORM)",
  "UIGHUR_KIRGHIZ_YEH_WITH_HAMZA_ABOVE_WITH_ALEF_MAKSURA(FINAL_FORM INITIAL_FORM ISOLATED_FORM)",
  "WASALLAM_ISOLATED_FORM YEH_WITH(ALEF_MAKSURA(FINAL_FORM ISOLATED_FORM) HAH(INITIAL_FORM",
  "ISOLATED_FORM WITH_YEH_FINAL_FORM) HAMZA_ABOVE_WITH(AE(FINAL_FORM ISOLATED_FORM)",
  "ALEF(FINAL_FORM ISOLATED_FORM MAKSURA(FINAL_FORM ISOLATED_FORM)) E(FINAL_FORM INITIAL_FORM",
  "ISOLATED_FORM) HAH(INITIAL_FORM ISOLATED_FORM) HEH(INITIAL_FORM MEDIAL_FORM) JEEM(INITIAL_FORM",
  "ISOLATED_FORM) KHAH_INITIAL_FORM MEEM(FINAL_FORM INITIAL_FORM ISOLATED_FORM MEDIAL_FORM)",
  "NOON_FINAL_FORM OE(FINAL_FORM ISOLATED_FORM) REH_FINAL_FORM U(FINAL_FORM ISOLATED_FORM)",
  "WAW(FINAL_FORM ISOLATED_FORM) YEH(FINAL_FORM ISOLATED_FORM) YU(FINAL_FORM ISOLATED_FORM)",
  "ZAIN_FINAL_FORM) HEH(INITIAL_FORM MEDIAL_FORM) JEEM(INITIAL_FORM ISOLATED_FORM",
  "WITH_YEH_FINAL_FORM) KHAH(INITIAL_FORM ISOLATED_FORM) MEEM(FINAL_FORM INITIAL_FORM",
  "ISOLATED_FORM MEDIAL_FORM WITH(MEEM(FINAL_FORM INITIAL_FORM) YEH_FINAL_FORM)) NOON_FINAL_FORM",
  "REH_FINAL_FORM YEH(FINAL_FORM ISOLATED_FORM) ZAIN_FINAL_FORM) ZAH_WITH_MEEM(INITIAL_FORM",
  "ISOLATED_FORM MEDIAL_FORM)) MADDA_WAAJIB MADDAH_ABOVE MARK(NOON_GHUNNA SIDEWAYS_NOON_GHUNNA)",
  "MATHEMATICAL(AIN ALEF BEH DAD DAL FEH GHAIN HAH JEEM KAF KHAH LAM MEEM NOON QAF REH SAD SEEN",
  "SHEEN TAH TEH THAL THEH WAW YEH ZAH ZAIN DOTLESS(BEH FEH NOON QAF) DOUBLE-STRUCK(AIN BEH DAD",
  "DAL FEH GHAIN HAH JEEM KHAH LAM MEEM NOON QAF REH SAD SEEN SHEEN TAH TEH THAL THEH WAW YEH ZAH",
  "ZAIN) INITIAL(AIN BEH DAD FEH GHAIN HAH HEH JEEM KAF KHAH LAM MEEM NOON QAF SAD SEEN SHEEN TEH",
  "THEH YEH) LOOPED(AIN ALEF BEH DAD DAL FEH GHAIN HAH HEH JEEM KHAH LAM MEEM NOON QAF REH SAD",
  "SEEN SHEEN TAH TEH THAL THEH WAW YEH ZAH ZAIN) OPERATOR(HAH_WITH_DAL",
  "MEEM_WITH_HAH_WITH_TATWEEL) STRETCHED(AIN BEH DAD FEH GHAIN HAH HEH JEEM KAF KHAH MEEM NOON",
  "QAF SAD SEEN SHEEN TAH TEH THEH YEH ZAH DOTLESS(BEH FEH)) TAILED(AIN DAD GHAIN HAH JEEM KHAH",
  "LAM NOON QAF SAD SEEN SHEEN YEH DOTLESS(NOON QAF))) NUMBER(SIGN MARK_ABOVE) OPEN(DAMMATAN",
  "FATHATAN KASRATAN) PERCENT_SIGN PIASTRE_MARK_ABOVE PLACE_OF_SAJDAH POETIC_VERSE_SIGN",
  "POUND_MARK_ABOVE QUESTION_MARK RAISED_ROUND_DOT REVERSED_DAMMA RIGHT_ARROWHEAD(BELOW ABOVE(.",
  "WITH_DOT)) ROUNDED_HIGH_STOP_WITH_FILLED_CENTRE SHADDA(. ISOLATED_FORM MEDIAL_FORM) SIGN(MISRA",
  "SAFHA SAMVAT SANAH TAKHALLUS ALAYHE_ASSALLAM RADI_ALLAHOU_ANHU RAHMATULLAH_ALAYHE",
  "SALLALLAHOU_ALAYHE_WASSALLAM SINDHI(AMPERSAND POSTPOSITION_MEN)) SMALL(DAMMA FATHA KASRA WAW",
  "YEH FARSI_YEH HIGH(AIN JEEM MADDA QAF SAD SEEN TAH WAW ZAH ZAIN DOTLESS_HEAD_OF_KHAH FARSI_YEH",
  "FOOTNOTE_MARKER LAM_ALEF LIGATURE(ALEF_WITH_LAM_WITH_YEH QAF_WITH_LAM_WITH_ALEF_MAKSURA",
  "SAD_WITH_LAM_WITH_ALEF_MAKSURA) MEEM(INITIAL_FORM ISOLATED_FORM) NOON(. WITH_KASRA)",
  "ROUNDED_ZERO SIGN_SAFHA THREE_DOTS UPRIGHT_RECTANGULAR_ZERO WORD(AL-JUZ AN-NISF AR-RUB",
  "AS-SAJDA ATH-THALATHA QIF SAH SAKTA WAQFA) YEH(. BARREE_WITH_TWO_DOTS_BELOW)) LOW(MEEM SEEN",
  "WAW NOON_WITH_KASRA WORD(IMAALA ISHMAAM TASHEEL))) START_OF_RUB_EL_HIZB SUBSCRIPT_ALEF SUKUN(.",
  "BELOW ISOLATED_FORM MEDIAL_FORM) SUPERSCRIPT_ALEF_MOKHASSAS SYMBOL(RING DOT(ABOVE BELOW)",
  "DOUBLE_VERTICAL_BAR_BELOW FOUR_DOTS(ABOVE BELOW) SMALL_TAH(ABOVE BELOW) THREE_DOTS(ABOVE BELOW",
  "POINTING_DOWNWARDS(ABOVE BELOW)) TWO_DOTS(ABOVE BELOW VERTICALLY(ABOVE BELOW)) WASLA_ABOVE)",
  "TAIL_FRAGMENT TATWEEL(. WITH(FATHATAN_ABOVE OVERSTRUCK(HAMZA WAW) TWO_DOTS_BELOW))",
  "THOUSANDS_SEPARATOR TONE(LOOP(ABOVE BELOW) ONE_DOT(ABOVE BELOW) TWO_DOTS(ABOVE BELOW))",
  "TRIPLE_DOT_PUNCTUATION_MARK TURNED_DAMMA_BELOW VERTICAL_TAIL VOWEL_SIGN(DOT_BELOW",
  "INVERTED_SMALL_V_ABOVE SMALL_V_ABOVE) WAVY_HAMZA_BELOW) ARABIC-INDIC(CUBE_ROOT DIGIT(EIGHT",
  "FIVE FOUR NINE ONE SEVEN SIX THREE TWO ZERO) FOURTH_ROOT PER(MILLE_SIGN TEN_THOUSAND_SIGN))",
  "ARMENIAN(APOSTROPHE COMMA HYPHEN ABBREVIATION_MARK CAPITAL_LETTER(AYB BEN CA CHA CHEH CO DA",
  "ECH EH ET FEH GHAD GIM HO INI JA JHEH KEH KEN LIWN MEN NOW OH PEH PIWR RA REH SEH SHA TIWN TO",
  "VEW VO XEH YI YIWN ZA ZHE) DRAM_SIGN EMPHASIS_MARK EXCLAMATION_MARK FULL_STOP",
  "MODIFIER_LETTER_LEFT_HALF_RING QUESTION_MARK SMALL(LETTER(AYB BEN CA CHA CHEH CO DA ECH EH ET",
  "FEH GHAD GIM HO INI JA JHEH KEH KEN LIWN MEN NOW OH PEH PIWR RA REH SEH SHA TIWN TO VEW VO XEH",
  "YIWN ZA ZHE TURNED_AYB YI(. WITH_STROKE)) LIGATURE(ECH_YIWN MEN(ECH INI NOW XEH) VEW_NOW)))",
  "ARROW_POINTING(DOWNWARDS_THEN_CURVING(LEFTWARDS RIGHTWARDS) RIGHTWARDS_THEN_CURVING(DOWNWARDS",
  "UPWARDS SOUTH_WEST) UPWARDS_THEN_NORTH_WEST) ASTERISK(. OPERATOR) AVESTAN(ABBREVIATION_MARK",
  "LETTER(A AA AAN AAO AE AEE AN AO BE BHE CE DE DHE E EE FE GE GGE GHE HE HME I II JE KE LE ME",
  "NE NGE NGVE NGYE NNE NYE O OO PE RE SE SHE SHYE SSHE TE THE TTE U UU VE XE XVE XYE YE YYE ZE",
  "ZHE)) BABY(. ANGEL BOTTLE CHICK SYMBOL) BACK(OF_ENVELOPE WITH_LEFTWARDS_ARROW_ABOVE)",
  "BACKSLANTED_SOUTH_ARROW_WITH(HOOKED_TAIL HORIZONTAL_TAIL) BALINESE(PAMENENG WINDU ADEG_ADEG",
  "CARIK(PAMUNGKAH PAREREN SIKI) DIGIT(EIGHT FIVE FOUR NINE ONE SEVEN SIX THREE TWO ZERO)",
  "LETTER(AIKARA EKARA HA MA NGA NYA WA YA AKARA(. TEDUNG) ARCHAIC_JNYA ASYURA_SASAK BA(.",
  "KEMBANG) CA(. LACA) DA(. MADU MURDA(ALPAPRANA MAHAPRANA)) EF_SASAK GA(. GORA) IKARA(. TEDUNG)",
  "JA(. JERA) KA(. MAHAPRANA) KAF_SASAK KHOT_SASAK LA(. LENGA(. TEDUNG)) NA(. RAMBAT) OKARA(.",
  "TEDUNG) PA(. KAPAL) RA(. REPA(. TEDUNG)) SA(. SAGA SAPA) TA(. LATIK TAWA MURDA_MAHAPRANA)",
  "TZIR_SASAK UKARA(. TEDUNG) VE_SASAK ZAL_SASAK) MUSICAL_SYMBOL(DAENG DAING DENG DEUNG DING DONG",
  "DUNG COMBINING(BENDE ENDEP GONG JEGOGAN TEGEH KEMPLI(. WITH_JEGOGAN) KEMPUL(. WITH_JEGOGAN))",
  "DANG(. GEDE SURANG) LEFT-HAND(CLOSED(PLAK PLUK) OPEN(PANG PING PUNG)) RIGHT-HAND(CLOSED(TAK",
  "TUK) OPEN(DAG DUG))) PAMADA(. LANTANG) PANTI(. LANTANG) SIGN(BISAH CECEK REREKAN SURANG",
  "ULU(CANDRA RICEM)) VOWEL_SIGN(TEDUNG LA_LENGA(. TEDUNG) PEPET(. TEDUNG) RA_REPA(. TEDUNG)",
  "SUKU(. ILUT) TALING(. TEDUNG REPA(. TEDUNG)) ULU(. SARI))) BALLOT(X BOLD_SCRIPT_X BOX(.",
  "WITH(BALLOT CHECK X BOLD(CHECK SCRIPT_X) LIGHT_X SCRIPT_X)) SCRIPT_X) BAMUM(COLON COMMA",
  "NJAEMLI SEMICOLON COMBINING_MARK(KOQNDON TUKWENTIS) FULL_STOP LETTER(A EE FAAMAE FEE FOM FU I",
  "KA KEN KET KEUX KI KO KOGHOM KOVUU KPA KU KYEE LA LEEEE LI LOQ LU M MA MBAA MBEN MEEEE MEN MI",
  "MO MU NA NDAA NGA NGGA NGKWAEN NI NJAEM NJEE NJUAE NSHA NTEE NTUU NU NUAE NYI O PA PEE PEUX PI",
  "PUAE PUE RAE REE REN REUX RIEE RII RU SAMBA SEUX SHEUX SHII SHO SHU SI SUU TAA TAE TEN TET TI",
  "U WA WUE YA YOQ YUQ PHASE-A(FIRI GHEUAEGHEUAE GHEUAERAE KAFA KAQ KET KEUKEUTNDA KPOQ KUOQ",
  "LAPAQ LOMMAE LU LUAEP MAEKEUP MAEM MAEMBGBIEE MAEMKPEN MAEMVEUX MAENYI MAESI MANSUAE MBANYI",
  "MBAQ MEUNJOMNDEUQ MGBASA MOOMEUT MOOMPUQ MVEUAENGAM NAQ NDAANGGEUAET NEN NGANGU NGGEN",
  "NGKUENZEUM NIKA NJAM NKAARAE NKINDI NSHA NSHIEE NTOQPEN NYET NYI PAAM PAARAE PAMSHAE PASHAE",
  "PET PUP ROM SEUNYAM SHIRAE SHUENSHUET SHUM SISA SONJAM SOQ SOT SUU TEUAEN TEUTEUWEN TUAEP",
  "UNKNOWN VEE GBIEE_FON LET_KUT MAP_PIEET MON_NGGEUAET NAA_MFON NDA_LEERAEWA NGKUE_MFON NTAP(.",
  "MFAA NTAA) NYIT_MONGKEUAEQ NZA_MFON NZUN_MEUT PA_LEERAEWA PON(MFON(PIPAEMBA PIPAEMGBIEE)",
  "PA_NJI(PIPAEMBA PIPAEMGBIEE)) SHINDA_PA_NJI SHOQ_NSHUT_YUM TITA_MFON TU_MAEMBA U_YUQ_NAE)",
  "PHASE-B(FEE FEUX GHEUGHEN GHEUGHEUAEM KAM KEUAEM KEUPUQ KEUYEUX KIEEM KIQ LAANAE LET MBAARAE",
  "MBEURI MBUOQ MEUQ MFIYAQ MONTIEEN NGGAAM NGOM NSEN NSHUET NYAEMAE PARUM PEESHI PIT PUNGAAM",
  "SAKEUAE SHEUAEQTU SIEE SUE TAAM VEUM WUAET YEURAE LAM_NSHUT_NYAM LOM_NTEUM MA(. NJEUAENA",
  "NJUQA) MBA_MAELEE MBIT_MBAAKET MEUT_NGGEET MFON_TEUAEQ NDU_NJAA NGGEU_MBU NGGUOQ(. LARGE)",
  "NGKINDI_MVOP NTIEE_SHEUOQ NYI_NTEUM SET_TU SHET_NJAQ TU(MAEMGBIEE NSIEE) YAFU_LEERAEWA)",
  "PHASE-C(BUNG FUE GBAYI GHAP GHARAE KAA KET KEUKAQ KEUM KEUSEUX KEUSHEUAEP KPARAQ KUT LAM LAP",
  "LIQ LU MAEMBA MAESI MBANYI MBEEKEET MBERAE MBEUM MBEUX MBI MBIRIEEN MBIT MBUAEM MBUE MGBASAQ",
  "MIEE MUAE NANSANAQ NAQ NDAM NDAP NDEUAEREE NDEUT NDIDA NDOMBU NGAQ NGGEN NGGU NGGUEET NGGUM",
  "NGGUON NGKAQ NGOM NJAEM NJAM NJEEEE NJEUX NJUEQ NSA NSEUAEN NSHAQ NSOM NSUN NTAA NTEN NTEUNGBA",
  "NZA NZEUM PEN PIN PIRIEEN RU SETFON SEUX SHIQ SHUEQ SUAET TAASHAE TET TEUTEUX TITUAEP VEUAEPEN",
  "VEUX WANGKUOQ WUP YAA YEUQ YUM YUWOQ KEN(FATIGUE LAW) KUOP_NKAARAE MA(KEUAERI NSIEE)",
  "MBAA(CABBAGE-TREE PICKET) NGGUAEN_NYAM NGKUE_MAEMBA NSUOT_NGOM NTU_MBIT NYIR_MKPARAQ_MEUN",
  "TITA_YUE YU_MUOMAE) PHASE-D(FAA FEUFEUAET GHAA GHEUAE KET KEUAETMEUN KEUM KEUP KU KUN KUOM KUQ",
  "KWAET KYEE LEEEE LET LEUAEP LEUM LIEE LOQ LUM M MAENJET MALEERI MBUO MEEEE MEUN MEUT MFEUAE",
  "MFEUT MFIEE MFO MFON MGBEUN MGBIEE MGBOFUM MONI MU MVOP NDAM NDEE NDEUX NDON NGGAAM NGGAAMAE",
  "NGGAP NGGEUX NGGUOM NGGWAEN NGKAP NGKEUAEQ NGKEURI NGKIEE NGKUN NGKYEE NI NJAP NJEUAEM NJEUT",
  "NJI NJIEE NJUEQ NSHEE NSHUT NSIEEP NSIEET NSUM NTEE NTEUM NTUU NU NYAM NYET NYI NYUE PAP PEE",
  "PEUTAE PIP PUQ PUUT RAEM RII SAP SAQ SEUAEQ SHEE SHEUAE SHEUX SHII SHOQ SHU SOT SUAE SUE SUU",
  "TAE TEEEE TEUAEN TEUN TEUT TI TOQ TU TUOT WAP WUAEN YAEMMAE YEN YUOM YUOP YUWOQ KEUOT_MBUAE",
  "MBAA(. SEVEN) REN(MUCH OLD)) PHASE-E(A FA FAQ FEE FOM FUE FUET GBET GBEUX GHAAMAE GHET GHEUAE",
  "GHEUN GHEUX GHOM I KET KEUAE KEUX KI KO KPEUX KUET KUOP KUT LAAM LAP LAQ LEUAEM LOM LOON LOOT",
  "LOQ LU MA MAE MAEM MAP MAQ MBEE MBEUM MEN MFEUQ MGBA MGBEN MI MIEE MON MUAE MVI NA NAE NDAP",
  "NDIAQ NDIQ NDUN NGA NGEUREUT NGGEEEE NGGEUAE NGGEUAET NGGUP NGGURAE NGKA NGKAAMI NGKEUAEM",
  "NGKEUX NGKUM NGKUP NGOP NGOQ NGUAE NGUAET NJAEMLI NJEUX NKOM NSHIEE NSHUE NSHUOP NTAP NTUM",
  "NZAQ NZUQ O PAA PAAM PEEM PEUT PEUX PI PIEEQ PIET PO POON PU PUAE PUAQ PUE PUM RAE RAQ REUX",
  "RIMGBA SAA SEE SET SHEUAEQ SHIQ SHO SHOQ SOM SUAEN TAA TAAQ TAM TAQ TEN TEU TEUAEQ TOO TOON",
  "TOQ TUAE TUM TUMAE VEE VEUAE VOM WEUX WUE WUO YAP YEUAE YEUAET YEUM YEUX YIEE YIT YUAEN YUEQ",
  "YUN YUQ FU(CALL I REMEDY) NDAA(SOFTNESS MY_HOUSE) NGGUAESHAE_NYAM NJEE(. EPOCH) NYI(BETWEEN",
  "CLEAVER) PA(PEOPLE PLURAL) TAEN_NTEUM YOQ(COVER SWIMMING)) PHASE-F(EE FOM KA KEN KET KO KPA KU",
  "KYEE LA LI LOQ M MA MBAA MBEN MEEEE MO NDAA NGGA NGKWAEN NI NJAEM NJUAE NSHA NTEE NU NUAE NYI",
  "PEE PEUX PUAE REE REN REUX RIEE RII RU SAMBA SEUX SHII SHO SHU SI SUU TAA TAE TET U VUEQ WA",
  "WUE YA YOQ)) QUESTION_MARK) BANKNOTE_WITH(DOLLAR_SIGN EURO_SIGN POUND_SIGN YEN_SIGN) BAR(CHART",
  "OF_SOAP) BASSA_VAH(COMBINING(HIGH_TONE HIGH-LOW_TONE LOW_TONE LOW-MID_TONE MID_TONE) FULL_STOP",
  "LETTER(A BA CE DHII DO E EE ENNI FA GAH GBU HWAH I JO KA KPAH MBE O OO PA SE TO U UWU VU WA",
  "WADDA YEIN YIE ZO)) BATAK(PANGOLAT PANONGONAN CONSONANT_SIGN(H NG) LETTER(A BA CA DA GA HA I",
  "JA LA MA MBA NA NDA NGA NYA PA RA SA U WA YA KARO_BA MANDAILING(HA NA SA) NORTHERN_TA",
  "PAKPAK_WA SIMALUNGUN(A GA HA LA MA PA RA SA WA YA) SOUTHERN_TA) SIGN_TOMPI SYMBOL_BINDU(JUDUL",
  "PANGOLAT PINARBORAS NA_METEK) VOWEL_SIGN(E EE I O KARO(I O) PAKPAK_E U(. FOR_SIMALUNGUN_SA)))",
  "BEAMED(ASCENDING_MUSICAL_NOTES DESCENDING_MUSICAL_NOTES EIGHTH_NOTES SIXTEENTH_NOTES) BELL(.",
  "PEPPER SYMBOL WITH_CANCELLATION_STROKE) BENGALI(ANJI ISSHAR ABBREVIATION_SIGN AU_LENGTH_MARK",
  "CURRENCY(DENOMINATOR_SIXTEEN NUMERATOR(FOUR THREE TWO ONE(. LESS_THAN_THE_DENOMINATOR)))",
  "DIGIT(EIGHT FIVE FOUR NINE ONE SEVEN SIX THREE TWO ZERO) GANDA_MARK LETTER(A AA AI AU BA BHA",
  "CA CHA DA DDA DDHA DHA E GA GHA HA I II JA JHA KA KHA LA MA NA NGA NNA NYA O PA PHA RHA RRA SA",
  "SHA SSA TA THA TTA TTHA U UU YA YYA KHANDA_TA RA(. WITH(LOWER_DIAGONAL MIDDLE_DIAGONAL))",
  "VEDIC_ANUSVARA VOCALIC(L LL R RR)) RUPEE(MARK SIGN) SANDHI_MARK SIGN(ANUSVARA AVAGRAHA",
  "CANDRABINDU NUKTA VIRAMA VISARGA) VOWEL_SIGN(AA AI AU E I II O U UU VOCALIC(L LL R RR)))",
  "BENZENE_RING(. WITH_CIRCLE) BHAIKSUKI(DANDA DIGIT(EIGHT FIVE FOUR NINE ONE SEVEN SIX THREE TWO",
  "ZERO) DOUBLE_DANDA GAP(FILLER-1 FILLER-2) HUNDREDS_UNIT_MARK LETTER(A AA AI AU BA BHA CA CHA",
  "DA DDA DDHA DHA E GA GHA HA I II JA JHA KA KHA LA MA NA NGA NNA NYA O PA PHA RA SA SHA SSA TA",
  "THA TTA TTHA U UU VA YA VOCALIC(L R RR)) NUMBER(EIGHT EIGHTY FIFTY FIVE FORTY FOUR NINE NINETY",
  "ONE SEVEN SEVENTY SIX SIXTY TEN THIRTY THREE TWENTY TWO) SIGN(ANUSVARA AVAGRAHA CANDRABINDU",
  "VIRAMA VISARGA) VOWEL_SIGN(AA AI AU E I II O U UU VOCALIC(L R RR)) WORD_SEPARATOR) BIG(SOLIDUS",
  "REVERSE_SOLIDUS) BLACK(BOWTIE DROPLET FLAG FLORETTE FOLDER HEXAGON HOURGLASS LOZENGE NIB",
  "OCTAGON PARALLELOGRAM PENNANT PENTAGON PUSHPIN RECTANGLE ROSETTE SCISSORS SNOWMAN STAR",
  "TELEPHONE TRUCK CENTRE_WHITE_STAR CHESS(KNIGHT-BISHOP KNIGHT-QUEEN KNIGHT-ROOK BISHOP(.",
  "ROTATED(NINETY_DEGREES TWO_HUNDRED_SEVENTY_DEGREES)) EQUIHOPPER(. ROTATED_NINETY_DEGREES)",
  "KING(. ROTATED(NINETY_DEGREES TWO_HUNDRED_SEVENTY_DEGREES)) KNIGHT(.",
  "ROTATED(FORTY-FIVE_DEGREES NINETY_DEGREES ONE_HUNDRED_THIRTY-FIVE_DEGREES",
  "THREE_HUNDRED_FIFTEEN_DEGREES TWO_HUNDRED(SEVENTY_DEGREES TWENTY-FIVE_DEGREES))) PAWN(.",
  "ROTATED(NINETY_DEGREES TWO_HUNDRED_SEVENTY_DEGREES)) QUEEN(. ROTATED(NINETY_DEGREES",
  "TWO_HUNDRED_SEVENTY_DEGREES)) ROOK(. ROTATED(NINETY_DEGREES TWO_HUNDRED_SEVENTY_DEGREES))",
  "TURNED(BISHOP KING KNIGHT PAWN QUEEN ROOK)) CIRCLE(. FOR_RECORD WITH(DOWN_ARROW TWO_WHITE_DOTS",
  "WHITE_DOT_RIGHT)) CLUB_SUIT CROSS_ON_SHIELD CURVED(DOWNWARDS_AND(LEFTWARDS_ARROW",
  "RIGHTWARDS_ARROW) LEFTWARDS_AND(DOWNWARDS_ARROW UPWARDS_ARROW) RIGHTWARDS_AND(DOWNWARDS_ARROW",
  "UPWARDS_ARROW) UPWARDS_AND(LEFTWARDS_ARROW RIGHTWARDS_ARROW)) DIAMOND(. CENTRED SUIT",
  "MINUS_WHITE_X ON_CROSS WITH_DOWN_ARROW) DOWN_POINTING_BACKHAND_INDEX DOWN-POINTING(TRIANGLE",
  "DOUBLE_TRIANGLE ISOSCELES_RIGHT_TRIANGLE SMALL_TRIANGLE) DOWNWARDS_EQUILATERAL_ARROWHEAD",
  "DRAUGHTS(KING MAN) FOUR_POINTED_STAR HARD_SHELL_FLOPPY_DISK HEART(. SUIT) HORIZONTAL_ELLIPSE",
  "LARGE(CIRCLE SQUARE) LEFT(LANE_MERGE POINTING(INDEX BACKHAND_INDEX)) LEFT-POINTING(POINTER",
  "TRIANGLE DOUBLE_TRIANGLE(. WITH_VERTICAL_BAR) ISOSCELES_RIGHT_TRIANGLE SMALL_TRIANGLE)",
  "LEFTWARDS(BULLET EQUILATERAL_ARROWHEAD) LOWER(LEFT_TRIANGLE RIGHT_TRIANGLE) MEDIUM(DIAMOND",
  "LOZENGE SQUARE DOWN-POINTING_TRIANGLE(. CENTRED) LEFT-POINTING_TRIANGLE(. CENTRED)",
  "RIGHT-POINTING_TRIANGLE(. CENTRED) SMALL(DIAMOND LOZENGE SQUARE) UP-POINTING_TRIANGLE(.",
  "CENTRED)) MOON_LILITH QUESTION_MARK_ORNAMENT RIGHT_POINTING(INDEX BACKHAND_INDEX)",
  "RIGHT-POINTING(PENTAGON POINTER DOUBLE_TRIANGLE(. WITH_VERTICAL_BAR) ISOSCELES_RIGHT_TRIANGLE",
  "SMALL_TRIANGLE TRIANGLE(. WITH_DOUBLE_VERTICAL_BAR)) RIGHTWARDS(ARROW ARROWHEAD BULLET",
  "EQUILATERAL_ARROWHEAD) SAFETY_SCISSORS SHOGI_PIECE SKULL_AND_CROSSBONES SLIGHTLY_SMALL(CIRCLE",
  "SQUARE) SMALL(DIAMOND LOZENGE SQUARE STAR) SMILING_FACE SPADE_SUIT SQUARE(. BUTTON CENTRED",
  "FOR_STOP) SUN_WITH_RAYS TINY(DIAMOND LOZENGE SQUARE) TOUCHTONE_TELEPHONE",
  "TWO-WAY_LEFT_WAY_TRAFFIC UNIVERSAL_RECYCLING_SYMBOL UP_POINTING_BACKHAND_INDEX",
  "UP-POINTING(TRIANGLE DOUBLE_TRIANGLE ISOSCELES_RIGHT_TRIANGLE SMALL_TRIANGLE)",
  "UPPER(LEFT_TRIANGLE RIGHT_TRIANGLE) UPWARDS_EQUILATERAL_ARROWHEAD VERTICAL(ELLIPSE RECTANGLE)",
  "VERY_SMALL(DIAMOND LOZENGE SQUARE)) BLACK-FEATHERED(NORTH_EAST_ARROW RIGHTWARDS_ARROW",
  "SOUTH_EAST_ARROW) BLACK-LETTER_CAPITAL(C H I R Z) BLOCK(SEXTANT-1~6 SEXTANT-12~16",
  "SEXTANT-23~26 SEXTANT-34~36 SEXTANT-45 SEXTANT-46 SEXTANT-56 SEXTANT-123~126 SEXTANT-134",
  "SEXTANT-136 SEXTANT-145 SEXTANT-146 SEXTANT-156 SEXTANT-234~236 SEXTANT-245 SEXTANT-256",
  "SEXTANT-345 SEXTANT-346 SEXTANT-356 SEXTANT-456 SEXTANT-1234^1236 SEXTANT-1245 SEXTANT-1246",
  "SEXTANT-1256 SEXTANT-1345 SEXTANT-1346 SEXTANT-1356 SEXTANT-1456 SEXTANT-2345 SEXTANT-2346",
  "SEXTANT-2356 SEXTANT-2456 SEXTANT-3456 SEXTANT-12345 SEXTANT-12346 SEXTANT-12356 SEXTANT-12456",
  "SEXTANT-13456 SEXTANT-23456) BLUE(BOOK HEART) BOLD(SALTIRE EIGHT_SPOKED_ASTERISK",
  "FIVE_SPOKED_ASTERISK GREEK_CROSS SIX_SPOKED_ASTERISK WHITE(CIRCLE SQUARE)) BOOKMARK(. TABS)",
  "BOPOMOFO(FINAL_LETTER(G H K P T) LETTER(A AH AI AINN AM AN ANG ANN AU AUNN B BU C CH D E EE EH",
  "EI EN ENG ENN ER F G GH GN GU GW H I IH IM INN INNN IR IU J JI K KW L LH M N NG NGG NN OE OM",
  "ONG ONN OO OU P Q R S SH T U UNN V X Z ZH ZI ZY O(. WITH_DOT_ABOVE))) BOTTOM(PARENTHESIS",
  "ARC_ANTICLOCKWISE_ARROW CURLY_BRACKET HALF(INTEGRAL BLACK_CIRCLE LEFT_PARENTHESIS",
  "RIGHT_PARENTHESIS) LEFT(CORNER CROP HALF_BRACKET) RIGHT(CORNER CROP HALF_BRACKET)",
  "SQUARE_BRACKET(. OVER_TOP_SQUARE_BRACKET) TORTOISE_SHELL_BRACKET) BOUQUET(. OF_FLOWERS)",
  "BOWL(OF_HYGIEIA WITH_SPOON) BOWTIE(. WITH(LEFT_HALF_BLACK RIGHT_HALF_BLACK))",
  "BOX_DRAWINGS(DOUBLE(HORIZONTAL DOWN_AND(HORIZONTAL LEFT RIGHT) UP_AND(HORIZONTAL LEFT RIGHT)",
  "VERTICAL(. AND(HORIZONTAL LEFT RIGHT))) DOWN(DOUBLE_AND(HORIZONTAL_SINGLE LEFT_SINGLE",
  "RIGHT_SINGLE) HEAVY_AND(HORIZONTAL_LIGHT LEFT(LIGHT UP_LIGHT) RIGHT(LIGHT UP_LIGHT)",
  "UP_HORIZONTAL_LIGHT) LIGHT_AND(HORIZONTAL_HEAVY LEFT(HEAVY UP_HEAVY) RIGHT(HEAVY UP_HEAVY)",
  "UP_HORIZONTAL_HEAVY) SINGLE_AND(HORIZONTAL_DOUBLE LEFT_DOUBLE RIGHT_DOUBLE)) HEAVY(HORIZONTAL",
  "RIGHT DOUBLE_DASH(HORIZONTAL VERTICAL) DOWN(. AND(HORIZONTAL LEFT RIGHT)) LEFT(.",
  "AND_LIGHT_RIGHT) QUADRUPLE_DASH(HORIZONTAL VERTICAL) TRIPLE_DASH(HORIZONTAL VERTICAL) UP(.",
  "AND(HORIZONTAL LEFT RIGHT LIGHT_DOWN)) VERTICAL(. AND(HORIZONTAL LEFT RIGHT)))",
  "LEFT(DOWN_HEAVY_AND_RIGHT_UP_LIGHT HEAVY_AND_RIGHT(DOWN_LIGHT UP_LIGHT VERTICAL_LIGHT)",
  "LIGHT_AND_RIGHT(DOWN_HEAVY UP_HEAVY VERTICAL_HEAVY) UP_HEAVY_AND_RIGHT_DOWN_LIGHT) LIGHT(RIGHT",
  "ARC(DOWN_AND(LEFT RIGHT) UP_AND(LEFT RIGHT)) DIAGONAL(CROSS DIAMOND",
  "MIDDLE(LEFT_TO(LOWER_CENTRE(. TO_MIDDLE_RIGHT) UPPER_CENTRE_TO_MIDDLE_RIGHT(.",
  "TO_LOWER_CENTRE)) RIGHT_TO(LOWER_CENTRE UPPER_CENTRE_TO_MIDDLE_LEFT_TO_LOWER_CENTRE))",
  "UPPER(CENTRE_TO_MIDDLE(LEFT(. AND_MIDDLE_RIGHT_TO_LOWER_CENTRE TO_LOWER_CENTRE(.",
  "TO_MIDDLE_RIGHT)) RIGHT(. AND_MIDDLE_LEFT_TO_LOWER_CENTRE TO_LOWER_CENTRE(. TO_MIDDLE_LEFT)))",
  "LEFT_TO_LOWER_RIGHT RIGHT_TO_LOWER_LEFT)) DOUBLE_DASH(HORIZONTAL VERTICAL) DOWN(.",
  "AND(HORIZONTAL LEFT RIGHT)) HORIZONTAL(. WITH_VERTICAL_STROKE) LEFT(. AND_HEAVY_RIGHT)",
  "QUADRUPLE_DASH(HORIZONTAL VERTICAL) TRIPLE_DASH(HORIZONTAL VERTICAL) UP(. AND(HORIZONTAL LEFT",
  "RIGHT HEAVY_DOWN)) VERTICAL(. AND(HORIZONTAL LEFT RIGHT))) RIGHT(DOWN_HEAVY_AND_LEFT_UP_LIGHT",
  "HEAVY_AND_LEFT(DOWN_LIGHT UP_LIGHT VERTICAL_LIGHT) LIGHT_AND_LEFT(DOWN_HEAVY UP_HEAVY",
  "VERTICAL_HEAVY) UP_HEAVY_AND_LEFT_DOWN_LIGHT) UP(DOUBLE_AND(HORIZONTAL_SINGLE LEFT_SINGLE",
  "RIGHT_SINGLE) HEAVY_AND(DOWN_HORIZONTAL_LIGHT HORIZONTAL_LIGHT LEFT(LIGHT DOWN_LIGHT)",
  "RIGHT(LIGHT DOWN_LIGHT)) LIGHT_AND(DOWN_HORIZONTAL_HEAVY HORIZONTAL_HEAVY LEFT(HEAVY",
  "DOWN_HEAVY) RIGHT(HEAVY DOWN_HEAVY)) SINGLE_AND(HORIZONTAL_DOUBLE LEFT_DOUBLE RIGHT_DOUBLE))",
  "VERTICAL(DOUBLE_AND(HORIZONTAL_SINGLE LEFT_SINGLE RIGHT_SINGLE) HEAVY_AND(HORIZONTAL_LIGHT",
  "LEFT_LIGHT RIGHT_LIGHT) LIGHT_AND(HORIZONTAL_HEAVY LEFT_HEAVY RIGHT_HEAVY)",
  "SINGLE_AND(HORIZONTAL_DOUBLE LEFT_DOUBLE RIGHT_DOUBLE))) BRAHMI(DANDA VIRAMA DIGIT(EIGHT FIVE",
  "FOUR NINE ONE SEVEN SIX THREE TWO ZERO) DOUBLE_DANDA LETTER(A AA AI AU BA BHA CA CHA DA DDA",
  "DDHA DHA E GA GHA HA I II JA JHA KA KHA LA LLA MA NA NGA NNA NYA O PA PHA RA SA SHA SSA TA THA",
  "TTA TTHA U UU VA YA OLD_TAMIL(LLA LLLA NNNA RRA SHORT(E O)) VOCALIC(L LL R RR)) NUMBER(EIGHT",
  "EIGHTY FIFTY FIVE FORTY FOUR JOINER NINE NINETY SEVEN SEVENTY SIX SIXTY TEN THIRTY THREE",
  "TWENTY TWO ONE(. HUNDRED THOUSAND)) PUNCTUATION(DOT LINE LOTUS CRESCENT_BAR DOUBLE_DOT)",
  "SIGN(ANUSVARA CANDRABINDU JIHVAMULIYA UPADHMANIYA VISARGA OLD_TAMIL_VIRAMA) VOWEL_SIGN(AA AI",
  "AU E I II O U UU BHATTIPROLU_AA OLD_TAMIL_SHORT(E O) VOCALIC(L LL R RR)))",
  "BRAILLE_PATTERN(BLANK DOTS-1~8 DOTS-12~18 DOTS-23~28 DOTS-34~38 DOTS-45~48 DOTS-56~58 DOTS-67",
  "DOTS-68 DOTS-78 DOTS-123~128 DOTS-134~138 DOTS-145~148 DOTS-156~158 DOTS-167 DOTS-168 DOTS-178",
  "DOTS-234~238 DOTS-245~248 DOTS-256~258 DOTS-267 DOTS-268 DOTS-278 DOTS-345~348 DOTS-356~358",
  "DOTS-367 DOTS-368 DOTS-378 DOTS-456~458 DOTS-467 DOTS-468 DOTS-478 DOTS-567 DOTS-568 DOTS-578",
  "DOTS-678 DOTS-123456~123458 DOTS-123467 DOTS-123468 DOTS-123478 DOTS-123567 DOTS-123568",
  "DOTS-123578 DOTS-123678 DOTS-124567 DOTS-124568 DOTS-124578 DOTS-124678 DOTS-125678",
  "DOTS-134567 DOTS-134568 DOTS-134578 DOTS-134678 DOTS-135678 DOTS-145678 DOTS-234567",
  "DOTS-234568 DOTS-234578 DOTS-234678 DOTS-235678 DOTS-245678 DOTS-345678 DOTS-1234567",
  "DOTS-1234568 DOTS-1234578 DOTS-1234678 DOTS-1235678 DOTS-1245678 DOTS-1345678 DOTS-2345678",
  "DOTS-12345678 DOTS-1234^1238 DOTS-1245^1248 DOTS-1256^1258 DOTS-1267 DOTS-1268 DOTS-1278",
  "DOTS-1345^1348 DOTS-1356^1358 DOTS-1367 DOTS-1368 DOTS-1378 DOTS-1456^1458 DOTS-1467 DOTS-1468",
  "DOTS-1478 DOTS-1567 DOTS-1568 DOTS-1578 DOTS-1678 DOTS-2345^2348 DOTS-2356^2358 DOTS-2367",
  "DOTS-2368 DOTS-2378 DOTS-2456^2458 DOTS-2467 DOTS-2468 DOTS-2478 DOTS-2567 DOTS-2568 DOTS-2578",
  "DOTS-2678 DOTS-3456^3458 DOTS-3467 DOTS-3468 DOTS-3478 DOTS-3567 DOTS-3568 DOTS-3578 DOTS-3678",
  "DOTS-4567 DOTS-4568 DOTS-4578 DOTS-4678 DOTS-5678 DOTS-12345^12348 DOTS-12356^12358 DOTS-12367",
  "DOTS-12368 DOTS-12378 DOTS-12456^12458 DOTS-12467 DOTS-12468 DOTS-12478 DOTS-12567 DOTS-12568",
  "DOTS-12578 DOTS-12678 DOTS-13456^13458 DOTS-13467 DOTS-13468 DOTS-13478 DOTS-13567 DOTS-13568",
  "DOTS-13578 DOTS-13678 DOTS-14567 DOTS-14568 DOTS-14578 DOTS-14678 DOTS-15678 DOTS-23456^23458",
  "DOTS-23467 DOTS-23468 DOTS-23478 DOTS-23567 DOTS-23568 DOTS-23578 DOTS-23678 DOTS-24567",
  "DOTS-24568 DOTS-24578 DOTS-24678 DOTS-25678 DOTS-34567 DOTS-34568 DOTS-34578 DOTS-34678",
  "DOTS-35678 DOTS-45678) BROKEN(BAR HEART CIRCLE_WITH_NORTHWEST_ARROW) BUGINESE(PALLAWA",
  "END_OF_SECTION LETTER(A BA CA DA GA HA JA KA LA MA MPA NA NGA NGKA NRA NYA NYCA PA RA SA TA VA",
  "YA) VOWEL_SIGN(AE E I O U)) BUHID(LETTER(A BA DA GA HA I KA LA MA NA NGA PA RA SA TA U WA YA)",
  "VOWEL_SIGN(I U)) BULLET(. OPERATOR) BULLHORN(. WITH_SOUND_WAVES) BUS(. STOP)",
  "BYZANTINE_MUSICAL_SYMBOL(ANATRICHISMA ANTIKENOKYLISMA ANTIKENOMA APLI APOTHEMA ARGON",
  "ARGOSYNTHETON CHAMILI CHAMILON DASEIA DIARGON DYO EKSTREPTON ELAFRON ENDOFONON EPEGERMA",
  "GORGOSYNTHETON GRONTHISMATA ICHADIN IMIDIARGON IMIFONON IMIFTHORA IMIFTHORON KATAVASMA",
  "KATHISTI KORONIS KOUFISMA KRATIMATA KRATIMOKOUFISMA KRATIMOYPORROON KREMASTI KYLISMA LEMOI",
  "LYGISMA NANA OMALON PARICHON PERISPOMENI PETASMA PETASTI PETASTOKOUFISMA PSIFISTOLYGISMA",
  "PSIFISTOPARAKALESMA PSIFISTOSYNAGMA PSILI PSILON RAPISMA REVMA SAXIMATA STIGMA STRAGGISMATA",
  "SYNEVMA SYRMA SYRMATIKI TELEIA TESSERA TETRAPLI THITA TINAGMA TRIA TRIGORGON TRIPLI",
  "TROMIKOLYGISMA TROMIKOPARAKALESMA TROMIKOPSIFISTON TROMIKOSYNAGMA VATHY YPORROI YPSILI",
  "AGOGI(ARGI ARGOTERI GORGI GORGOTERI MESI METRIA POLI(ARGI GORGI)) APESO(EKFONITIKON EXO_NEO)",
  "APODERMA(ARCHAION NEO) APOSTROFOI(SYNDESMOS_NEO TELOUS_ICHIMATOS) APOSTROFOS(. DIPLI NEO)",
  "ARKTIKO(DI GA KE NI PA VOU ZO) CHOREVMA(ARCHAION NEO) CHROA(KLITON SPATHI ZYGOS)",
  "DIASTOLI(DIPLI THESEOS APLI(MEGALI MIKRI)) DIESIS(TETARTIMORION TRITIMORION APLI_DYO_DODEKATA",
  "DIGRAMMOS_EX_DODEKATA MONOGRAMMOS_TESSERA_DODEKATA TRIGRAMMOS_OKTO_DODEKATA) DIFTOGGOS_OU",
  "DIGORGON(. PARESTIGMENON(DEXIA ARISTERA(ANO KATO))) DIGRAMMA_GG DIPLI(. ARCHAION)",
  "ENARXIS_KAI_FTHORA_VOU ETERON(ARGOSYNTHETON PARAKALESMA) EXO_EKFONITIKON FANEROSIS(DIFONIAS",
  "MONOFONIAS TETRAFONIAS) FHTORA_SKLIRON_CHROMA_VASIS FTHORA(NENANO ARCHAION(. DEYTEROU_ICHOU)",
  "DIATONIKI(DI KE NANA PA ZO NI(ANO KATO)) ENARMONIOS_ANTIFONIA I_YFESIS_TETARTIMORION",
  "MALAKON_CHROMA(DIFONIAS MONOFONIAS) NAOS_ICHOS SKLIRON(CHROMA(SYNAFI VASIS) DIATONON_DI))",
  "GENIKI(DIESIS YFESIS) GORGON(ARCHAION NEO(ANO KATO) PARESTIGMENON(ARISTERA DEXIA))",
  "GORTHMIKON_N(APLOUN DIPLOUN) ISAKIA_TELOUS_ICHIMATOS ISON(ARCHAION NEO) KATAVA_TROMIKON",
  "KENTIMA(ARCHAION NEO(ANO KATO MESO)) KENTIMATA(. ARCHAION NEO(ANO KATO MESO)) KLASMA(. ANO",
  "KATO) KONTEVMA(. ALLO) KRATIMA(ALLO ARCHAION NEO) LEIMMA(DYO_CHRONON ENOS_CHRONOU",
  "IMISEOS_CHRONOU TESSARON_CHRONON TRION_CHRONON) MARTYRIA(TRIFONIAS ALLI(DEYTEROS_ICHOS",
  "PROTOS_ICHOS) DEYTEROS_ICHOS LEGETOS_ICHOS PLAGIOS(ICHOS TETARTOS_ICHOS) PROTOS_ICHOS",
  "PROTOVARYS_ICHOS TETARTOS(ICHOS LEGETOS_ICHOS) TRITOS_ICHOS VARYS_ICHOS) MIKRON_ISON",
  "OLIGON(ARCHAION NEO) OXEIA(DIPLI EKFONITIKON NEO) OXEIAI_ARCHAION OYRANISMA(ARCHAION NEO)",
  "PARAKALESMA(ARCHAION NEO) PARAKLITIKI(. ARCHAION NEO) PELASTON(. NEO) PIASMA(ARCHAION NEO)",
  "PSIFISTON(. NEO) SEISMA(. NEO) SIMANSIS(ARSEOS(. DISIMOU TETRASIMOU TRISIMOU) THESEOS(.",
  "DISIMOU TETRASIMOU TRISIMOU)) STAVROS(. APODEXIA) SYNAGMA(ARCHAION NEO META_STAVROU) THEMA(.",
  "APLOUN) THEMATISMOS(ESO EXO) THES_KAI_APOTHES TROMIKON(ALLO ARCHAION NEO) VAREIA(DIPLI",
  "EKFONITIKON NEO) VAREIAI_ARCHAION XIRON_KLASMA YFEN(ANO KATO) YFESIS(TRITIMORION",
  "APLI_DYO_DODEKATA DIGRAMMOS_EX_DODEKATA MONOGRAMMOS_TESSERA_DODEKATA TRIGRAMMOS_OKTO_DODEKATA)",
  "YPOKRISIS(. DIPLI))"]

end MacroStubs.Text.CharacterNames
