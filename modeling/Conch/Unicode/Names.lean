import Conch.Unicode.Ranges

/-!
# Names of properties, categories and scripts

Every name has other spellings.  They are written in one row, with equality signs between
them and the name that the tables use first.  Case, blanks, hyphens and underscores do not
count in a spelling, nor does a leading `is`.
-/

namespace Conch.Unicode

/-- The spellings of the general categories and of the groups of them. -/
def categoryNames : String :=
  "C=Other Cc=Control=Cntrl Cf=Format Cn=Unassigned Co=Private_Use Cs=Surrogate L=Letter
   LC=Cased_Letter Ll=Lowercase_Letter Lm=Modifier_Letter Lo=Other_Letter
   Lt=Titlecase_Letter Lu=Uppercase_Letter M=Mark=Combining_Mark Mc=Spacing_Mark
   Me=Enclosing_Mark Mn=Nonspacing_Mark N=Number Nd=Decimal_Number=Digit Nl=Letter_Number
   No=Other_Number P=Punctuation=Punct Pc=Connector_Punctuation Pd=Dash_Punctuation
   Pe=Close_Punctuation Pf=Final_Punctuation Pi=Initial_Punctuation Po=Other_Punctuation
   Ps=Open_Punctuation S=Symbol Sc=Currency_Symbol Sk=Modifier_Symbol Sm=Math_Symbol
   So=Other_Symbol Z=Separator Zl=Line_Separator Zp=Paragraph_Separator Zs=Space_Separator"

/-- The spellings of the scripts. -/
def scriptNames : String :=
  "Adlam=Adlm Caucasian_Albanian=Aghb Ahom Arabic=Arab Imperial_Aramaic=Armi Armenian=Armn
   Avestan=Avst Balinese=Bali Bamum=Bamu Bassa_Vah=Bass Batak=Batk Bengali=Beng
   Bhaiksuki=Bhks Bopomofo=Bopo Brahmi=Brah Braille=Brai Buginese=Bugi Buhid=Buhd
   Chakma=Cakm Canadian_Aboriginal=Cans Carian=Cari Cham Cherokee=Cher Chorasmian=Chrs
   Coptic=Copt=Qaac Cypro_Minoan=Cpmn Cypriot=Cprt Cyrillic=Cyrl Devanagari=Deva
   Dives_Akuru=Diak Dogra=Dogr Deseret=Dsrt Duployan=Dupl Egyptian_Hieroglyphs=Egyp
   Elbasan=Elba Elymaic=Elym Ethiopic=Ethi Garay=Gara Georgian=Geor Glagolitic=Glag
   Gunjala_Gondi=Gong Masaram_Gondi=Gonm Gothic=Goth Grantha=Gran Greek=Grek Gujarati=Gujr
   Gurung_Khema=Gukh Gurmukhi=Guru Hangul=Hang Han=Hani Hanunoo=Hano Hatran=Hatr
   Hebrew=Hebr Hiragana=Hira Anatolian_Hieroglyphs=Hluw Pahawh_Hmong=Hmng
   Nyiakeng_Puachue_Hmong=Hmnp Katakana_Or_Hiragana=Hrkt Old_Hungarian=Hung Old_Italic=Ital
   Javanese=Java Kayah_Li=Kali Katakana=Kana Kawi Kharoshthi=Khar Khmer=Khmr Khojki=Khoj
   Khitan_Small_Script=Kits Kannada=Knda Kirat_Rai=Krai Kaithi=Kthi Tai_Tham=Lana Lao=Laoo
   Latin=Latn Lepcha=Lepc Limbu=Limb Linear_A=Lina Linear_B=Linb Lisu Lycian=Lyci
   Lydian=Lydi Mahajani=Mahj Makasar=Maka Mandaic=Mand Manichaean=Mani Marchen=Marc
   Medefaidrin=Medf Mende_Kikakui=Mend Meroitic_Cursive=Merc Meroitic_Hieroglyphs=Mero
   Malayalam=Mlym Modi Mongolian=Mong Mro=Mroo Meetei_Mayek=Mtei Multani=Mult Myanmar=Mymr
   Nag_Mundari=Nagm Nandinagari=Nand Old_North_Arabian=Narb Nabataean=Nbat Newa Nko=Nkoo
   Nushu=Nshu Ogham=Ogam Ol_Chiki=Olck Ol_Onal=Onao Old_Turkic=Orkh Oriya=Orya Osage=Osge
   Osmanya=Osma Old_Uyghur=Ougr Palmyrene=Palm Pau_Cin_Hau=Pauc Old_Permic=Perm
   Phags_Pa=Phag Inscriptional_Pahlavi=Phli Psalter_Pahlavi=Phlp Phoenician=Phnx Miao=Plrd
   Inscriptional_Parthian=Prti Rejang=Rjng Hanifi_Rohingya=Rohg Runic=Runr Samaritan=Samr
   Old_South_Arabian=Sarb Saurashtra=Saur SignWriting=Sgnw Shavian=Shaw Sharada=Shrd
   Siddham=Sidd Khudawadi=Sind Sinhala=Sinh Sogdian=Sogd Old_Sogdian=Sogo Sora_Sompeng=Sora
   Soyombo=Soyo Sundanese=Sund Sunuwar=Sunu Syloti_Nagri=Sylo Syriac=Syrc Tagbanwa=Tagb
   Takri=Takr Tai_Le=Tale New_Tai_Lue=Talu Tamil=Taml Tangut=Tang Tai_Viet=Tavt Telugu=Telu
   Tifinagh=Tfng Tagalog=Tglg Thaana=Thaa Thai Tibetan=Tibt Tirhuta=Tirh Tangsa=Tnsa
   Todhri=Todr Toto Tulu_Tigalari=Tutg Ugaritic=Ugar Vai=Vaii Vithkuqi=Vith
   Warang_Citi=Wara Wancho=Wcho Old_Persian=Xpeo Cuneiform=Xsux Yezidi=Yezi Yi=Yiii
   Zanabazar_Square=Zanb Inherited=Zinh=Qaai Common=Zyyy Unknown=Zzzz"

/-- The spellings of the properties, binary or not. -/
def propertyNames : String :=
  "ASCII_Hex_Digit=AHex Age=age Alphabetic=Alpha Bidi_Class=bc Bidi_Control=Bidi_C
   Bidi_Mirrored=Bidi_M Bidi_Mirroring_Glyph=bmg Bidi_Paired_Bracket=bpb
   Bidi_Paired_Bracket_Type=bpt Block=blk Canonical_Combining_Class=ccc Case_Folding=cf
   Case_Ignorable=CI Cased Changes_When_Casefolded=CWCF Changes_When_Casemapped=CWCM
   Changes_When_Lowercased=CWL Changes_When_NFKC_Casefolded=CWKCF
   Changes_When_Titlecased=CWT Changes_When_Uppercased=CWU Composition_Exclusion=CE Dash
   Decomposition_Mapping=dm Decomposition_Type=dt Default_Ignorable_Code_Point=DI
   Deprecated=Dep Diacritic=Dia East_Asian_Width=ea Emoji Emoji_Component=EComp
   Emoji_Modifier=EMod Emoji_Modifier_Base=EBase Emoji_Presentation=EPres
   Equivalent_Unified_Ideograph=EqUIdeo Expands_On_NFC=XO_NFC Expands_On_NFD=XO_NFD
   Expands_On_NFKC=XO_NFKC Expands_On_NFKD=XO_NFKD Extended_Pictographic=ExtPict
   Extender=Ext FC_NFKC_Closure=FC_NFKC Full_Composition_Exclusion=Comp_Ex
   General_Category=gc Grapheme_Base=Gr_Base Grapheme_Cluster_Break=GCB
   Grapheme_Extend=Gr_Ext Grapheme_Link=Gr_Link Hangul_Syllable_Type=hst Hex_Digit=Hex
   Hyphen IDS_Binary_Operator=IDSB IDS_Trinary_Operator=IDST IDS_Unary_Operator=IDSU
   ID_Compat_Math_Continue ID_Compat_Math_Start ID_Continue=IDC ID_Start=IDS
   ISO_Comment=isc Ideographic=Ideo Indic_Conjunct_Break=InCB
   Indic_Positional_Category=InPC Indic_Syllabic_Category=InSC Jamo_Short_Name=JSN
   Join_Control=Join_C Joining_Group=jg Joining_Type=jt Line_Break=lb
   Logical_Order_Exception=LOE Lowercase=Lower Lowercase_Mapping=lc Math
   Modifier_Combining_Mark=MCM NFC_Quick_Check=NFC_QC NFD_Quick_Check=NFD_QC
   NFKC_Casefold=NFKC_CF NFKC_Quick_Check=NFKC_QC NFKC_Simple_Casefold=NFKC_SCF
   NFKD_Quick_Check=NFKD_QC Name=na Name_Alias Noncharacter_Code_Point=NChar
   Numeric_Type=nt Numeric_Value=nv Other_Alphabetic=OAlpha
   Other_Default_Ignorable_Code_Point=ODI Other_Grapheme_Extend=OGr_Ext
   Other_ID_Continue=OIDC Other_ID_Start=OIDS Other_Lowercase=OLower Other_Math=OMath
   Other_Uppercase=OUpper Pattern_Syntax=Pat_Syn Pattern_White_Space=Pat_WS
   Prepended_Concatenation_Mark=PCM Quotation_Mark=QMark Radical Regional_Indicator=RI
   Script=sc Script_Extensions=scx Sentence_Break=SB Sentence_Terminal=STerm
   Simple_Case_Folding=scf=Sfc Simple_Lowercase_Mapping=slc Simple_Titlecase_Mapping=stc
   Simple_Uppercase_Mapping=suc Soft_Dotted=SD Terminal_Punctuation=Term
   Titlecase_Mapping=tc Unicode_1_Name=na1 Unified_Ideograph=UIdeo Uppercase=Upper
   Uppercase_Mapping=uc Variation_Selector=VS Vertical_Orientation=vo
   White_Space=WSpace=Space Word_Break=WB XID_Continue=XIDC XID_Start=XIDS
   cjkAccountingNumeric=kAccountingNumeric cjkCompatibilityVariant=kCompatibilityVariant
   cjkIICore=kIICore cjkIRG_GSource=kIRG_GSource cjkIRG_HSource=kIRG_HSource
   cjkIRG_JSource=kIRG_JSource cjkIRG_KPSource=kIRG_KPSource cjkIRG_KSource=kIRG_KSource
   cjkIRG_MSource=kIRG_MSource cjkIRG_SSource=kIRG_SSource cjkIRG_TSource=kIRG_TSource
   cjkIRG_UKSource=kIRG_UKSource cjkIRG_USource=kIRG_USource cjkIRG_VSource=kIRG_VSource
   cjkMandarin=kMandarin cjkOtherNumeric=kOtherNumeric cjkPrimaryNumeric=kPrimaryNumeric
   cjkRSUnicode=kRSUnicode=Unicode_Radical_Stroke=URS cjkTotalStrokes=kTotalStrokes
   cjkUnihanCore2020=kUnihanCore2020 kEH_Cat kEH_Core kEH_Desc kEH_HG kEH_IFAO kEH_JSesh
   kEH_NoMirror kEH_NoRotate"

/-- The spellings of the ages: the editions in which a character may have come. -/
def ageNames : String :=
  "V1_1=1.1 V2_0=2.0 V2_1=2.1 V3_0=3.0 V3_1=3.1 V3_2=3.2 V4_0=4.0 V4_1=4.1 V5_0=5.0
   V5_1=5.1 V5_2=5.2 V6_0=6.0 V6_1=6.1 V6_2=6.2 V6_3=6.3 V7_0=7.0 V8_0=8.0 V9_0=9.0
   V10_0=10.0 V11_0=11.0 V12_0=12.0 V12_1=12.1 V13_0=13.0 V14_0=14.0 V15_0=15.0 V15_1=15.1
   V16_0=16.0"

/-- The spellings of the classes at the boundaries of graphemes. -/
def graphemeBreakNames : String :=
  "CR Control=CN Extend=EX L LF LV LVT Prepend=PP Regional_Indicator=RI SpacingMark=SM T V
   ZWJ"

/-- The spellings of the classes at the boundaries of words. -/
def wordBreakNames : String :=
  "ALetter=LE CR Double_Quote=DQ Extend ExtendNumLet=EX Format=FO Hebrew_Letter=HL
   Katakana=KA LF MidLetter=ML MidNum=MN MidNumLet=MB Newline=NL Numeric=NU
   Regional_Indicator=RI Single_Quote=SQ WSegSpace ZWJ"

/-- The spellings of the classes at the boundaries of sentences. -/
def sentenceBreakNames : String :=
  "ATerm=AT CR Close=CL Extend=EX Format=FO LF Lower=LO Numeric=NU OLetter=LE SContinue=SC
   STerm=ST Sep=SE Sp=SP Upper=UP"

/-- The general categories of each group. -/
def categoryGroups : String :=
  "C=Cc=Cf=Cn=Co=Cs L=Ll=Lm=Lo=Lt=Lu LC=Ll=Lt=Lu M=Mc=Me=Mn N=Nd=Nl=No
   P=Pc=Pd=Pe=Pf=Pi=Po=Ps S=Sc=Sk=Sm=So Z=Zl=Zp=Zs"

/-- The rows of a table of spellings. -/
def readRows (table : String) : List (List (List Char)) :=
  (tableWords table).map (Text.splitBy (· = '='))

/-- The characters of a spelling that count, in lower case. -/
def significant (spelling : List Char) : List Char :=
  (spelling.filter fun c => c.toNat < 128 && c != ' ' && c != '_' && c != '-').map
    Text.asciiLowerChar

/-- The normal form of a spelling.  The leading `is` counts only in `isc`, which would
otherwise be a category. -/
def normalSpelling (spelling : List Char) : List Char :=
  match spelling with
  | a :: b :: rest =>
      if Text.asciiLowerChar a = 'i' && Text.asciiLowerChar b = 's' then
        let rest := significant rest
        if rest = ['c'] then ['i', 's', 'c'] else rest
      else significant spelling
  | _ => significant spelling

/-- The name with each of its spellings in normal form, for every row of a table. -/
def spellings (table : String) : List (List Char × String) :=
  (readRows table).flatMap fun row =>
    match row with
    | [] => []
    | name :: _ => row.map fun spelling => (normalSpelling spelling, String.ofList name)

/-- The categories under their spellings. -/
def categorySpellings : List (List Char × String) :=
  spellings categoryNames

/-- The properties under their spellings. -/
def propertySpellings : List (List Char × String) :=
  spellings propertyNames

end Conch.Unicode
