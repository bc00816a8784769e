/-
The names of encodings.

An encoding has a name and other names for it.  In a name only ASCII letters, digits and points
count: letters may be small or capital, and whatever stands between two runs of them is the
same.  Points are part of the name, except that the other names are also found with points in
place of what separates runs.
-/
import BorrowGraph.Assoc
import BorrowGraph.Encoding

namespace BorrowGraph.Encoding

/-- The encodings of text: the name, the other names, and the encoding. -/
def textNames : List (String × List String × Encoding) := [
  ("ascii", ["646", "ansi_x3.4_1968", "ansi_x3.4_1986", "ansi_x3_4_1968", "cp367", "csascii",
      "ibm367", "iso646_us", "iso_646.irv_1991", "iso_ir_6", "us", "us_ascii"], .ascii),
  ("big5", ["big5_tw", "csbig5", "x_mac_trad_chinese"], .multiByte .big5),
  ("big5hkscs", ["big5_hkscs", "hkscs"], .multiByte .big5HongKong),
  ("charmap", [], .single []),
  ("cp037", ["037", "csibm037", "ebcdic_cp_ca", "ebcdic_cp_nl", "ebcdic_cp_us", "ebcdic_cp_wt",
      "ibm037", "ibm039"], .single []),
  ("cp1006", [], .single []),
  ("cp1026", ["1026", "csibm1026", "ibm1026"], .single []),
  ("cp1125", ["1125", "cp866u", "ibm1125", "ruscii"], .single []),
  ("cp1140", ["1140", "ibm1140"], .single []),
  ("cp1250", ["1250", "windows_1250"], .single [0x81, 0x83, 0x88, 0x90, 0x98]),
  ("cp1251", ["1251", "windows_1251"], .single [0x98]),
  ("cp1252", ["1252", "windows_1252"], .single [0x81, 0x8d, 0x8f, 0x90, 0x9d]),
  ("cp1253", ["1253", "windows_1253"], .single [0x81, 0x88, 0x8a, 0x8c, 0x8d, 0x8e, 0x8f, 0x90,
      0x98, 0x9a, 0x9c, 0x9d, 0x9e, 0x9f, 0xaa, 0xd2, 0xff]),
  ("cp1254", ["1254", "windows_1254"], .single [0x81, 0x8d, 0x8e, 0x8f, 0x90, 0x9d, 0x9e]),
  ("cp1255", ["1255", "windows_1255"], .single [0x81, 0x8a, 0x8c, 0x8d, 0x8e, 0x8f, 0x90, 0x9a,
      0x9c, 0x9d, 0x9e, 0x9f, 0xca, 0xd9, 0xda, 0xdb, 0xdc, 0xdd, 0xde, 0xdf, 0xfb, 0xfc, 0xff]),
  ("cp1256", ["1256", "windows_1256"], .single []),
  ("cp1257", ["1257", "windows_1257"], .single [0x81, 0x83, 0x88, 0x8a, 0x8c, 0x90, 0x98, 0x9a,
      0x9c, 0x9f, 0xa1, 0xa5]),
  ("cp1258", ["1258", "windows_1258"], .single [0x81, 0x8a, 0x8d, 0x8e, 0x8f, 0x90, 0x9a, 0x9d,
      0x9e]),
  ("cp273", ["273", "csibm273", "ibm273"], .single []),
  ("cp424", ["424", "csibm424", "ebcdic_cp_he", "ibm424"], .single [0x70, 0x72, 0x73, 0x75, 0x76,
      0x77, 0x80, 0x8c, 0x8d, 0x8e, 0x9a, 0x9b, 0x9c, 0x9e, 0xaa, 0xab, 0xac, 0xad, 0xae, 0xcb,
      0xcc, 0xcd, 0xce, 0xcf, 0xdb, 0xdc, 0xdd, 0xde, 0xdf, 0xeb, 0xec, 0xed, 0xee, 0xef, 0xfb,
      0xfc, 0xfd, 0xfe]),
  ("cp437", ["437", "cspc8codepage437", "ibm437"], .single []),
  ("cp500", ["500", "csibm500", "ebcdic_cp_be", "ebcdic_cp_ch", "ibm500"], .single []),
  ("cp720", [], .single []),
  ("cp737", [], .single []),
  ("cp775", ["775", "cspc775baltic", "ibm775"], .single []),
  ("cp850", ["850", "cspc850multilingual", "ibm850"], .single []),
  ("cp852", ["852", "cspcp852", "ibm852"], .single []),
  ("cp855", ["855", "csibm855", "ibm855"], .single []),
  ("cp856", [], .single [0x9b, 0x9d, 0x9f, 0xa0, 0xa1, 0xa2, 0xa3, 0xa4, 0xa5, 0xa6, 0xa7, 0xa8,
      0xad, 0xb5, 0xb6, 0xb7, 0xc6, 0xc7, 0xd0, 0xd1, 0xd2, 0xd3, 0xd4, 0xd5, 0xd6, 0xd7, 0xd8,
      0xde, 0xe0, 0xe1, 0xe2, 0xe3, 0xe4, 0xe5, 0xe7, 0xe8, 0xe9, 0xea, 0xeb, 0xec, 0xed]),
  ("cp857", ["857", "csibm857", "ibm857"], .single [0xd5, 0xe7, 0xf2]),
  ("cp858", ["858", "csibm858", "ibm858"], .single []),
  ("cp860", ["860", "csibm860", "ibm860"], .single []),
  ("cp861", ["861", "cp_is", "csibm861", "ibm861"], .single []),
  ("cp862", ["862", "cspc862latinhebrew", "ibm862"], .single []),
  ("cp863", ["863", "csibm863", "ibm863"], .single []),
  ("cp864", ["864", "csibm864", "ibm864"], .single [0x9b, 0x9c, 0x9f, 0xa6, 0xa7, 0xff]),
  ("cp865", ["865", "csibm865", "ibm865"], .single []),
  ("cp866", ["866", "csibm866", "ibm866"], .single []),
  ("cp869", ["869", "cp_gr", "csibm869", "ibm869"], .single [0x80, 0x81, 0x82, 0x83, 0x84, 0x85,
      0x87, 0x93, 0x94]),
  ("cp874", [], .single [0x81, 0x82, 0x83, 0x84, 0x86, 0x87, 0x88, 0x89, 0x8a, 0x8b, 0x8c, 0x8d,
      0x8e, 0x8f, 0x90, 0x98, 0x99, 0x9a, 0x9b, 0x9c, 0x9d, 0x9e, 0x9f, 0xdb, 0xdc, 0xdd, 0xde,
      0xfc, 0xfd, 0xfe, 0xff]),
  ("cp875", [], .single []),
  ("cp932", ["932", "ms932", "ms_kanji", "mskanji"], .multiByte .codePage932),
  ("cp949", ["949", "ms949", "uhc"], .multiByte .codePage949),
  ("cp950", ["950", "ms950"], .multiByte .codePage950),
  ("euc_jis_2004", ["euc_jis2004", "eucjis2004", "jisx0213"], .multiByte (.eucJisX0213 true)),
  ("euc_jisx0213", ["eucjisx0213"], .multiByte (.eucJisX0213 false)),
  ("euc_jp", ["eucjp", "u_jis", "ujis"], .multiByte .eucJapanese),
  ("euc_kr", ["euckr", "korean", "ks_c_5601", "ks_c_5601_1987", "ks_x_1001", "ksc5601", "ksx1001",
      "x_mac_korean"], .multiByte .eucKorean),
  ("gb18030", ["gb18030_2000"], .multiByte .gb18030),
  ("gb2312", ["chinese", "csiso58gb231280", "euc_cn", "euccn", "eucgb2312_cn", "gb2312_1980",
      "gb2312_80", "iso_ir_58", "x_mac_simp_chinese"], .multiByte .gb2312),
  ("gbk", ["936", "cp936", "ms936"], .multiByte .gbk),
  ("hp_roman8", ["cp1051", "csHPRoman8", "ibm1051", "r8", "roman8"], .single [0xff]),
  ("hz", ["hz_gb", "hz_gb_2312", "hzgb"], .tilde),
  ("idna", [], .labels),
  ("iso2022_jp", ["csiso2022jp", "iso2022jp", "iso_2022_jp"], .designated .japanese),
  ("iso2022_jp_1", ["iso2022jp_1", "iso_2022_jp_1"], .designated .japanese1),
  ("iso2022_jp_2", ["iso2022jp_2", "iso_2022_jp_2"], .designated .japanese2),
  ("iso2022_jp_2004", ["iso2022jp_2004", "iso_2022_jp_2004"], .designated .japanese2004),
  ("iso2022_jp_3", ["iso2022jp_3", "iso_2022_jp_3"], .designated .japanese3),
  ("iso2022_jp_ext", ["iso2022jp_ext", "iso_2022_jp_ext"], .designated .japaneseExtended),
  ("iso2022_kr", ["csiso2022kr", "iso2022kr", "iso_2022_kr"], .designated .korean),
  ("iso8859_1", [], .single []),
  ("iso8859_10", ["csisolatin6", "iso_8859_10", "iso_8859_10_1992", "iso_ir_157", "l6", "latin6"],
      .single []),
  ("iso8859_11", ["iso_8859_11", "iso_8859_11_2001", "thai"], .single [0xdb, 0xdc, 0xdd, 0xde,
      0xfc, 0xfd, 0xfe, 0xff]),
  ("iso8859_13", ["iso_8859_13", "l7", "latin7"], .single []),
  ("iso8859_14", ["iso_8859_14", "iso_8859_14_1998", "iso_celtic", "iso_ir_199", "l8", "latin8"],
      .single []),
  ("iso8859_15", ["iso_8859_15", "l9", "latin9"], .single []),
  ("iso8859_16", ["iso_8859_16", "iso_8859_16_2001", "iso_ir_226", "l10", "latin10"], .single []),
  ("iso8859_2", ["csisolatin2", "iso_8859_2", "iso_8859_2_1987", "iso_ir_101", "l2", "latin2"],
      .single []),
  ("iso8859_3", ["csisolatin3", "iso_8859_3", "iso_8859_3_1988", "iso_ir_109", "l3", "latin3"],
      .single [0xa5, 0xae, 0xbe, 0xc3, 0xd0, 0xe3, 0xf0]),
  ("iso8859_4", ["csisolatin4", "iso_8859_4", "iso_8859_4_1988", "iso_ir_110", "l4", "latin4"],
      .single []),
  ("iso8859_5", ["csisolatincyrillic", "cyrillic", "iso_8859_5", "iso_8859_5_1988", "iso_ir_144"],
      .single []),
  ("iso8859_6", ["arabic", "asmo_708", "csisolatinarabic", "ecma_114", "iso_8859_6",
      "iso_8859_6_1987", "iso_ir_127"], .single [0xa1, 0xa2, 0xa3, 0xa5, 0xa6, 0xa7, 0xa8, 0xa9,
      0xaa, 0xab, 0xae, 0xaf, 0xb0, 0xb1, 0xb2, 0xb3, 0xb4, 0xb5, 0xb6, 0xb7, 0xb8, 0xb9, 0xba,
      0xbc, 0xbd, 0xbe, 0xc0, 0xdb, 0xdc, 0xdd, 0xde, 0xdf, 0xf3, 0xf4, 0xf5, 0xf6, 0xf7, 0xf8,
      0xf9, 0xfa, 0xfb, 0xfc, 0xfd, 0xfe, 0xff]),
  ("iso8859_7", ["csisolatingreek", "ecma_118", "elot_928", "greek", "greek8", "iso_8859_7",
      "iso_8859_7_1987", "iso_ir_126"], .single [0xae, 0xd2, 0xff]),
  ("iso8859_8", ["csisolatinhebrew", "hebrew", "iso_8859_8", "iso_8859_8_1988", "iso_ir_138"],
      .single [0xa1, 0xbf, 0xc0, 0xc1, 0xc2, 0xc3, 0xc4, 0xc5, 0xc6, 0xc7, 0xc8, 0xc9, 0xca, 0xcb,
      0xcc, 0xcd, 0xce, 0xcf, 0xd0, 0xd1, 0xd2, 0xd3, 0xd4, 0xd5, 0xd6, 0xd7, 0xd8, 0xd9, 0xda,
      0xdb, 0xdc, 0xdd, 0xde, 0xfb, 0xfc, 0xff]),
  ("iso8859_9", ["csisolatin5", "iso_8859_9", "iso_8859_9_1989", "iso_ir_148", "l5", "latin5"],
      .single []),
  ("johab", ["cp1361", "ms1361"], .multiByte .johab),
  ("koi8_r", ["cskoi8r"], .single []),
  ("koi8_t", [], .single [0x88, 0x8f, 0x98, 0x9a, 0x9c, 0x9d, 0x9e, 0x9f, 0xa0, 0xa8, 0xa9, 0xaa,
      0xaf, 0xb4, 0xb8, 0xba, 0xbc, 0xbd, 0xbe]),
  ("koi8_u", [], .single []),
  ("kz1048", ["kz_1048", "rk1048", "strk1048_2002"], .single [0x98]),
  ("latin_1", ["8859", "cp819", "csisolatin1", "ibm819", "iso8859", "iso8859_1", "iso_8859_1",
      "iso_8859_1_1987", "iso_ir_100", "l1", "latin", "latin1"], .single []),
  ("mac_arabic", [], .single []),
  ("mac_croatian", [], .single []),
  ("mac_cyrillic", ["maccyrillic"], .single []),
  ("mac_farsi", [], .single []),
  ("mac_greek", ["macgreek"], .single []),
  ("mac_iceland", ["maciceland"], .single []),
  ("mac_latin2", ["mac_centeuro", "maccentraleurope", "maclatin2"], .single []),
  ("mac_roman", ["macintosh", "macroman"], .single []),
  ("mac_romanian", [], .single []),
  ("mac_turkish", ["macturkish"], .single []),
  ("palmos", [], .single []),
  ("ptcp154", ["cp154", "csptcp154", "cyrillic_asian", "pt154"], .single []),
  ("punycode", [], .punycode),
  ("raw_unicode_escape", [], .backslash .plain),
  ("shift_jis", ["csshiftjis", "s_jis", "shiftjis", "sjis", "x_mac_japanese"],
    .multiByte .shiftJis),
  ("shift_jis_2004", ["s_jis_2004", "shiftjis2004", "sjis_2004"], .multiByte (.shiftJisX0213 true)),
  ("shift_jisx0213", ["s_jisx0213", "shiftjisx0213", "sjisx0213"],
    .multiByte (.shiftJisX0213 false)),
  ("tis_620", ["iso_ir_166", "tis620", "tis_620_0", "tis_620_2529_0", "tis_620_2529_1"], .single [
      0xa0, 0xdb, 0xdc, 0xdd, 0xde, 0xfc, 0xfd, 0xfe, 0xff]),
  ("undefined", [], .never),
  ("unicode_escape", [], .backslash .full),
  ("utf_16", ["u16", "utf16"], .utf16 none),
  ("utf_16_be", ["unicodebigunmarked", "utf_16be"], .utf16 (some .big)),
  ("utf_16_le", ["unicodelittleunmarked", "utf_16le"], .utf16 (some .little)),
  ("utf_32", ["u32", "utf32"], .utf32 none),
  ("utf_32_be", ["utf_32be"], .utf32 (some .big)),
  ("utf_32_le", ["utf_32le"], .utf32 (some .little)),
  ("utf_7", ["u7", "unicode_1_1_utf_7", "utf7"], .utf7),
  ("utf_8", ["cp65001", "u8", "utf", "utf8", "utf8_ucs2", "utf8_ucs4"], .utf8),
  ("utf_8_sig", [], .markedUtf8)]

/-- The encodings that lead from bytes to bytes or from text to text: the name and the other
names. -/
def otherNames : List (String × List String) := [
  ("base64_codec", ["base64", "base_64"]), ("bz2_codec", ["bz2"]), ("hex_codec", ["hex"]),
  ("quopri_codec", ["quopri", "quoted_printable", "quotedprintable"]), ("rot_13", ["rot13"]),
  ("uu_codec", ["uu"]), ("zlib_codec", ["zip", "zlib"])]

/-- The runs of letters, digits and points, in small letters. -/
def nameRuns : List Char → List (List Char)
  | [] => [[]]
  | c :: cs =>
    if c.isAlphanum || c = '.' then
      match nameRuns cs with
      | run :: runs => (c.toLower :: run) :: runs
      | [] => [[c.toLower]]
    else [] :: nameRuns cs

/-- The normal form of a name. -/
def normalName (name : String) : String :=
  "_".intercalate ((nameRuns name.toList).filter (!·.isEmpty) |>.map String.ofList)

/-- Whether a normal name, or the same name without points, is among other names. -/
def isOtherName (name : String) (others : List String) : Bool :=
  name ∈ others || String.ofList (name.toList.map fun c => if c = '.' then '_' else c) ∈ others

/-- What a name stands for. -/
inductive Named where
  | text (encoding : Encoding)
  | notText
  | unknown
  deriving DecidableEq, Repr

/-- The name for the encoding of the surroundings, which is UTF-8. -/
def localName : String := "locale"

/-- Find an encoding by its name. -/
def ofName (name : String) : Named :=
  let normal := normalName name
  let isNamed (own : String) (others : List String) : Bool :=
    isOtherName normal others || normal = own
  if name = localName then .text .utf8
  else
    match textNames.find? fun (own, others, _) => isNamed own others with
    | some (_, _, e) => .text e
    | none =>
      if otherNames.any fun (own, others) => isNamed own others then .notText else .unknown

end BorrowGraph.Encoding
