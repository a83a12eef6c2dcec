/-!
Names of properties and of their values. Each entry is the full name and the other names in loose
form, divided by blanks.
-/

namespace ScriptTypes.Unicode

/-- Every property that has a name, with its other names. Few of them can be asked for. -/
def propertyNames : List (String × String) := [
  ("cjkAccountingNumeric", "kaccountingnumeric"), ("cjkOtherNumeric", "kothernumeric"),
  ("cjkPrimaryNumeric", "kprimarynumeric"), ("Numeric_Value", "nv"),
  ("Bidi_Mirroring_Glyph", "bmg"), ("Bidi_Paired_Bracket", "bpb"), ("Case_Folding", "cf"),
  ("cjkCompatibilityVariant", "kcompatibilityvariant"), ("Decomposition_Mapping", "dm"),
  ("Equivalent_Unified_Ideograph", "equideo"), ("FC_NFKC_Closure", "fcnfkc"),
  ("Lowercase_Mapping", "lc"), ("NFKC_Casefold", "nfkccf"), ("NFKC_Simple_Casefold", "nfkcscf"),
  ("Simple_Case_Folding", "scf sfc"), ("Simple_Lowercase_Mapping", "slc"),
  ("Simple_Titlecase_Mapping", "stc"), ("Simple_Uppercase_Mapping", "suc"),
  ("Titlecase_Mapping", "tc"), ("Uppercase_Mapping", "uc"), ("cjkIICore", "kiicore"),
  ("cjkIRG_GSource", "kirggsource"), ("cjkIRG_HSource", "kirghsource"),
  ("cjkIRG_JSource", "kirgjsource"), ("cjkIRG_KPSource", "kirgkpsource"),
  ("cjkIRG_KSource", "kirgksource"), ("cjkIRG_MSource", "kirgmsource"),
  ("cjkIRG_SSource", "kirgssource"), ("cjkIRG_TSource", "kirgtsource"),
  ("cjkIRG_UKSource", "kirguksource"), ("cjkIRG_USource", "kirgusource"),
  ("cjkIRG_VSource", "kirgvsource"), ("cjkRSUnicode", "krsunicode unicoderadicalstroke urs"),
  ("ISO_Comment", "isc"), ("Jamo_Short_Name", "jsn"), ("kEH_Cat", ""), ("kEH_Desc", ""),
  ("kEH_HG", ""), ("kEH_IFAO", ""), ("kEH_JSesh", ""), ("kEH_NoMirror", ""),
  ("kEH_NoRotate", ""), ("Name", "na"), ("Unicode_1_Name", "na1"), ("Name_Alias", ""),
  ("Script_Extensions", "scx"), ("Age", ""), ("Block", "blk"), ("Script", "sc"),
  ("Bidi_Class", "bc"), ("Bidi_Paired_Bracket_Type", "bpt"),
  ("Canonical_Combining_Class", "ccc"), ("Decomposition_Type", "dt"), ("East_Asian_Width", "ea"),
  ("General_Category", "gc"), ("Grapheme_Cluster_Break", "gcb"), ("Hangul_Syllable_Type", "hst"),
  ("Indic_Conjunct_Break", "incb"), ("Indic_Positional_Category", "inpc"),
  ("Indic_Syllabic_Category", "insc"), ("Joining_Group", "jg"), ("Joining_Type", "jt"),
  ("Line_Break", "lb"), ("NFC_Quick_Check", "nfcqc"), ("NFD_Quick_Check", "nfdqc"),
  ("NFKC_Quick_Check", "nfkcqc"), ("NFKD_Quick_Check", "nfkdqc"), ("Numeric_Type", "nt"),
  ("Sentence_Break", "sb"), ("Vertical_Orientation", "vo"), ("Word_Break", "wb"),
  ("ASCII_Hex_Digit", "ahex"), ("Alphabetic", "alpha"), ("Bidi_Control", "bidic"),
  ("Bidi_Mirrored", "bidim"), ("Cased", ""), ("Composition_Exclusion", "ce"),
  ("Case_Ignorable", "ci"), ("Full_Composition_Exclusion", "compex"),
  ("Changes_When_Casefolded", "cwcf"), ("Changes_When_Casemapped", "cwcm"),
  ("Changes_When_NFKC_Casefolded", "cwkcf"), ("Changes_When_Lowercased", "cwl"),
  ("Changes_When_Titlecased", "cwt"), ("Changes_When_Uppercased", "cwu"), ("Dash", ""),
  ("Deprecated", "dep"), ("Default_Ignorable_Code_Point", "di"), ("Diacritic", "dia"),
  ("Emoji_Modifier_Base", "ebase"), ("Emoji_Component", "ecomp"), ("Emoji_Modifier", "emod"),
  ("Emoji", ""), ("Emoji_Presentation", "epres"), ("Extender", "ext"),
  ("Extended_Pictographic", "extpict"), ("Grapheme_Base", "grbase"),
  ("Grapheme_Extend", "grext"), ("Grapheme_Link", "grlink"), ("Hex_Digit", "hex"),
  ("Hyphen", ""), ("ID_Compat_Math_Continue", ""), ("ID_Compat_Math_Start", ""),
  ("ID_Continue", "idc"), ("Ideographic", "ideo"), ("ID_Start", "ids"),
  ("IDS_Binary_Operator", "idsb"), ("IDS_Trinary_Operator", "idst"),
  ("IDS_Unary_Operator", "idsu"), ("Join_Control", "joinc"), ("Logical_Order_Exception", "loe"),
  ("Lowercase", "lower"), ("Math", ""), ("Modifier_Combining_Mark", "mcm"),
  ("Noncharacter_Code_Point", "nchar"), ("Other_Alphabetic", "oalpha"),
  ("Other_Default_Ignorable_Code_Point", "odi"), ("Other_Grapheme_Extend", "ogrext"),
  ("Other_ID_Continue", "oidc"), ("Other_ID_Start", "oids"), ("Other_Lowercase", "olower"),
  ("Other_Math", "omath"), ("Other_Uppercase", "oupper"), ("Pattern_Syntax", "patsyn"),
  ("Pattern_White_Space", "patws"), ("Prepended_Concatenation_Mark", "pcm"),
  ("Quotation_Mark", "qmark"), ("Radical", ""), ("Regional_Indicator", "ri"),
  ("Soft_Dotted", "sd"), ("Sentence_Terminal", "sterm"), ("Terminal_Punctuation", "term"),
  ("Unified_Ideograph", "uideo"), ("Uppercase", "upper"), ("Variation_Selector", "vs"),
  ("White_Space", "wspace space"), ("XID_Continue", "xidc"), ("XID_Start", "xids"),
  ("Expands_On_NFC", "xonfc"), ("Expands_On_NFD", "xonfd"), ("Expands_On_NFKC", "xonfkc"),
  ("Expands_On_NFKD", "xonfkd")
]

def categoryNames : List (String × String) := [
  ("Control", "cc cntrl"), ("Format", "cf"), ("Unassigned", "cn"), ("Private_Use", "co"),
  ("Surrogate", "cs"), ("Other", "c"), ("Cased_Letter", "lc"), ("Lowercase_Letter", "ll"),
  ("Modifier_Letter", "lm"), ("Other_Letter", "lo"), ("Titlecase_Letter", "lt"),
  ("Uppercase_Letter", "lu"), ("Letter", "l"), ("Spacing_Mark", "mc"), ("Enclosing_Mark", "me"),
  ("Nonspacing_Mark", "mn"), ("Mark", "m combiningmark"), ("Decimal_Number", "nd digit"),
  ("Letter_Number", "nl"), ("Other_Number", "no"), ("Number", "n"),
  ("Connector_Punctuation", "pc"), ("Dash_Punctuation", "pd"), ("Close_Punctuation", "pe"),
  ("Final_Punctuation", "pf"), ("Initial_Punctuation", "pi"), ("Other_Punctuation", "po"),
  ("Open_Punctuation", "ps"), ("Punctuation", "p punct"), ("Currency_Symbol", "sc"),
  ("Modifier_Symbol", "sk"), ("Math_Symbol", "sm"), ("Other_Symbol", "so"), ("Symbol", "s"),
  ("Line_Separator", "zl"), ("Paragraph_Separator", "zp"), ("Space_Separator", "zs"),
  ("Separator", "z")
]

def scriptNames : List (String × String) := [
  ("Adlam", "adlm"), ("Ahom", ""), ("Anatolian_Hieroglyphs", "hluw"), ("Arabic", "arab"),
  ("Armenian", "armn"), ("Avestan", "avst"), ("Balinese", "bali"), ("Bamum", "bamu"),
  ("Bassa_Vah", "bass"), ("Batak", "batk"), ("Bengali", "beng"), ("Bhaiksuki", "bhks"),
  ("Bopomofo", "bopo"), ("Brahmi", "brah"), ("Braille", "brai"), ("Buginese", "bugi"),
  ("Buhid", "buhd"), ("Canadian_Aboriginal", "cans"), ("Carian", "cari"),
  ("Caucasian_Albanian", "aghb"), ("Chakma", "cakm"), ("Cham", ""), ("Cherokee", "cher"),
  ("Chorasmian", "chrs"), ("Common", "zyyy"), ("Coptic", "copt qaac"), ("Cuneiform", "xsux"),
  ("Cypriot", "cprt"), ("Cypro_Minoan", "cpmn"), ("Cyrillic", "cyrl"), ("Deseret", "dsrt"),
  ("Devanagari", "deva"), ("Dives_Akuru", "diak"), ("Dogra", "dogr"), ("Duployan", "dupl"),
  ("Egyptian_Hieroglyphs", "egyp"), ("Elbasan", "elba"), ("Elymaic", "elym"),
  ("Ethiopic", "ethi"), ("Garay", "gara"), ("Georgian", "geor"), ("Glagolitic", "glag"),
  ("Gothic", "goth"), ("Grantha", "gran"), ("Greek", "grek"), ("Gujarati", "gujr"),
  ("Gunjala_Gondi", "gong"), ("Gurmukhi", "guru"), ("Gurung_Khema", "gukh"), ("Han", "hani"),
  ("Hangul", "hang"), ("Hanifi_Rohingya", "rohg"), ("Hanunoo", "hano"), ("Hatran", "hatr"),
  ("Hebrew", "hebr"), ("Hiragana", "hira"), ("Imperial_Aramaic", "armi"),
  ("Inherited", "zinh qaai"), ("Inscriptional_Pahlavi", "phli"),
  ("Inscriptional_Parthian", "prti"), ("Javanese", "java"), ("Kaithi", "kthi"),
  ("Kannada", "knda"), ("Katakana", "kana"), ("Katakana_Or_Hiragana", "hrkt"), ("Kawi", ""),
  ("Kayah_Li", "kali"), ("Kharoshthi", "khar"), ("Khitan_Small_Script", "kits"),
  ("Khmer", "khmr"), ("Khojki", "khoj"), ("Khudawadi", "sind"), ("Kirat_Rai", "krai"),
  ("Lao", "laoo"), ("Latin", "latn"), ("Lepcha", "lepc"), ("Limbu", "limb"),
  ("Linear_A", "lina"), ("Linear_B", "linb"), ("Lisu", ""), ("Lycian", "lyci"),
  ("Lydian", "lydi"), ("Mahajani", "mahj"), ("Makasar", "maka"), ("Malayalam", "mlym"),
  ("Mandaic", "mand"), ("Manichaean", "mani"), ("Marchen", "marc"), ("Masaram_Gondi", "gonm"),
  ("Medefaidrin", "medf"), ("Meetei_Mayek", "mtei"), ("Mende_Kikakui", "mend"),
  ("Meroitic_Cursive", "merc"), ("Meroitic_Hieroglyphs", "mero"), ("Miao", "plrd"), ("Modi", ""),
  ("Mongolian", "mong"), ("Mro", "mroo"), ("Multani", "mult"), ("Myanmar", "mymr"),
  ("Nabataean", "nbat"), ("Nag_Mundari", "nagm"), ("Nandinagari", "nand"),
  ("New_Tai_Lue", "talu"), ("Newa", ""), ("Nko", "nkoo"), ("Nushu", "nshu"),
  ("Nyiakeng_Puachue_Hmong", "hmnp"), ("Ogham", "ogam"), ("Ol_Chiki", "olck"),
  ("Ol_Onal", "onao"), ("Old_Hungarian", "hung"), ("Old_Italic", "ital"),
  ("Old_North_Arabian", "narb"), ("Old_Permic", "perm"), ("Old_Persian", "xpeo"),
  ("Old_Sogdian", "sogo"), ("Old_South_Arabian", "sarb"), ("Old_Turkic", "orkh"),
  ("Old_Uyghur", "ougr"), ("Oriya", "orya"), ("Osage", "osge"), ("Osmanya", "osma"),
  ("Pahawh_Hmong", "hmng"), ("Palmyrene", "palm"), ("Pau_Cin_Hau", "pauc"), ("Phags_Pa", "phag"),
  ("Phoenician", "phnx"), ("Psalter_Pahlavi", "phlp"), ("Rejang", "rjng"), ("Runic", "runr"),
  ("Samaritan", "samr"), ("Saurashtra", "saur"), ("Sharada", "shrd"), ("Shavian", "shaw"),
  ("Siddham", "sidd"), ("SignWriting", "sgnw"), ("Sinhala", "sinh"), ("Sogdian", "sogd"),
  ("Sora_Sompeng", "sora"), ("Soyombo", "soyo"), ("Sundanese", "sund"), ("Sunuwar", "sunu"),
  ("Syloti_Nagri", "sylo"), ("Syriac", "syrc"), ("Tagalog", "tglg"), ("Tagbanwa", "tagb"),
  ("Tai_Le", "tale"), ("Tai_Tham", "lana"), ("Tai_Viet", "tavt"), ("Takri", "takr"),
  ("Tamil", "taml"), ("Tangsa", "tnsa"), ("Tangut", "tang"), ("Telugu", "telu"),
  ("Thaana", "thaa"), ("Thai", ""), ("Tibetan", "tibt"), ("Tifinagh", "tfng"),
  ("Tirhuta", "tirh"), ("Todhri", "todr"), ("Toto", ""), ("Tulu_Tigalari", "tutg"),
  ("Ugaritic", "ugar"), ("Unknown", "zzzz"), ("Vai", "vaii"), ("Vithkuqi", "vith"),
  ("Wancho", "wcho"), ("Warang_Citi", "wara"), ("Yezidi", "yezi"), ("Yi", "yiii"),
  ("Zanabazar_Square", "zanb")
]

def ageNames : List (String × String) := [
  ("V1_1", "1.1"), ("V2_0", "2.0"), ("V2_1", "2.1"), ("V3_0", "3.0"), ("V3_1", "3.1"),
  ("V3_2", "3.2"), ("V4_0", "4.0"), ("V4_1", "4.1"), ("V5_0", "5.0"), ("V5_1", "5.1"),
  ("V5_2", "5.2"), ("V6_0", "6.0"), ("V6_1", "6.1"), ("V6_2", "6.2"), ("V6_3", "6.3"),
  ("V7_0", "7.0"), ("V8_0", "8.0"), ("V9_0", "9.0"), ("V10_0", "10.0"), ("V11_0", "11.0"),
  ("V12_0", "12.0"), ("V12_1", "12.1"), ("V13_0", "13.0"), ("V14_0", "14.0"), ("V15_0", "15.0"),
  ("V15_1", "15.1"), ("V16_0", "16.0")
]

def clusterNames : List (String × String) := [
  ("Control", "cn"), ("CR", ""), ("E_Base_GAZ", "ebg"), ("E_Base", "eb"), ("E_Modifier", "em"),
  ("Extend", "ex"), ("Glue_After_Zwj", "gaz"), ("LF", ""), ("LVT", ""), ("LV", ""), ("L", ""),
  ("Prepend", "pp"), ("Regional_Indicator", "ri"), ("SpacingMark", "sm"), ("T", ""), ("V", ""),
  ("Other", "xx"), ("ZWJ", "")
]

def wordRoleNames : List (String × String) := [
  ("CR", ""), ("Double_Quote", "dq"), ("E_Base_GAZ", "ebg"), ("E_Base", "eb"),
  ("E_Modifier", "em"), ("ExtendNumLet", "ex"), ("Extend", ""), ("Format", "fo"),
  ("Glue_After_Zwj", "gaz"), ("Hebrew_Letter", "hl"), ("Katakana", "ka"), ("ALetter", "le"),
  ("LF", ""), ("MidNumLet", "mb"), ("MidLetter", "ml"), ("MidNum", "mn"), ("Newline", "nl"),
  ("Numeric", "nu"), ("Regional_Indicator", "ri"), ("Single_Quote", "sq"), ("WSegSpace", ""),
  ("Other", "xx"), ("ZWJ", "")
]

def sentenceNames : List (String × String) := [
  ("ATerm", "at"), ("Close", "cl"), ("CR", ""), ("Extend", "ex"), ("Format", "fo"),
  ("OLetter", "le"), ("LF", ""), ("Lower", "lo"), ("Numeric", "nu"), ("SContinue", "sc"),
  ("Sep", "se"), ("Sp", ""), ("STerm", "st"), ("Upper", "up"), ("Other", "xx")
]

end ScriptTypes.Unicode
