import ThriftSchema.Source.Encoding
import ThriftSchema.Source.Encoding.CodePage.Console
import ThriftSchema.Source.Encoding.CodePage.Ebcdic
import ThriftSchema.Source.Encoding.CodePage.Iso
import ThriftSchema.Source.Encoding.CodePage.Koi8
import ThriftSchema.Source.Encoding.CodePage.Macintosh
import ThriftSchema.Source.Encoding.CodePage.Windows

set_option autoImplicit false

/-! # Names of encodings

An encoding has a name of its own and some others. Names are compared in lower case and with one
underscore for each run of characters that are neither letters nor digits nor points; in the
other names a point may stand for an underscore too.

* `Encoding.named`: the encoding of a name.
-/

namespace ThriftSchema

/-! ## Comparing names -/

/-- Whether a character counts in a name. -/
def isNamePart (c : Char) : Bool := c.isAlphanum || c == '.'

/-- The rest of a name in lower case, with one underscore for each run of other characters that
is followed by a part of the name. -/
def joinParts : List Char → List Char
  | [] => []
  | c :: cs =>
    if isNamePart c then c.toLower :: joinParts cs
    else
      match joinParts cs with
      | [] => []
      | '_' :: rest => '_' :: rest
      | rest => '_' :: rest

/-- A name in lower case, with one underscore for each run of other characters between its
parts. -/
def normalizeName (name : List Char) : List Char :=
  joinParts (name.dropWhile fun c => !isNamePart c)

/-! ## Tables -/

/-- An encoding with its own name and its other names. -/
structure NamedEncoding where
  name : String
  others : List String
  encoding : Encoding

/-- The encodings. -/
def namedEncodings : List NamedEncoding := [
  ⟨"ascii", ["646", "ansi_x3.4_1968", "ansi_x3.4_1986", "ansi_x3_4_1968", "cp367", "csascii",
    "ibm367", "iso646_us", "iso_646.irv_1991", "iso_ir_6", "us", "us_ascii"], .ascii⟩,
  ⟨"big5", ["big5_tw", "csbig5", "x_mac_trad_chinese"], .pairs .big5⟩,
  ⟨"big5hkscs", ["big5_hkscs", "hkscs"], .pairs .hongKong⟩,
  ⟨"charmap", [], .latin1⟩,
  ⟨"cp037", ["037", "csibm037", "ebcdic_cp_ca", "ebcdic_cp_nl", "ebcdic_cp_us", "ebcdic_cp_wt",
    "ibm037", "ibm039"], .codePage .cp037⟩,
  ⟨"cp1006", [], .codePage .cp1006⟩,
  ⟨"cp1026", ["1026", "csibm1026", "ibm1026"], .codePage .cp1026⟩,
  ⟨"cp1125", ["1125", "cp866u", "ibm1125", "ruscii"], .codePage .cp1125⟩,
  ⟨"cp1140", ["1140", "ibm1140"], .codePage .cp1140⟩,
  ⟨"cp1250", ["1250", "windows_1250"], .codePage .cp1250⟩,
  ⟨"cp1251", ["1251", "windows_1251"], .codePage .cp1251⟩,
  ⟨"cp1252", ["1252", "windows_1252"], .codePage .cp1252⟩,
  ⟨"cp1253", ["1253", "windows_1253"], .codePage .cp1253⟩,
  ⟨"cp1254", ["1254", "windows_1254"], .codePage .cp1254⟩,
  ⟨"cp1255", ["1255", "windows_1255"], .codePage .cp1255⟩,
  ⟨"cp1256", ["1256", "windows_1256"], .codePage .cp1256⟩,
  ⟨"cp1257", ["1257", "windows_1257"], .codePage .cp1257⟩,
  ⟨"cp1258", ["1258", "windows_1258"], .codePage .cp1258⟩,
  ⟨"cp273", ["273", "csibm273", "ibm273"], .codePage .cp273⟩,
  ⟨"cp424", ["424", "csibm424", "ebcdic_cp_he", "ibm424"], .codePage .cp424⟩,
  ⟨"cp437", ["437", "cspc8codepage437", "ibm437"], .codePage .cp437⟩,
  ⟨"cp500", ["500", "csibm500", "ebcdic_cp_be", "ebcdic_cp_ch", "ibm500"], .codePage .cp500⟩,
  ⟨"cp720", [], .codePage .cp720⟩,
  ⟨"cp737", [], .codePage .cp737⟩,
  ⟨"cp775", ["775", "cspc775baltic", "ibm775"], .codePage .cp775⟩,
  ⟨"cp850", ["850", "cspc850multilingual", "ibm850"], .codePage .cp850⟩,
  ⟨"cp852", ["852", "cspcp852", "ibm852"], .codePage .cp852⟩,
  ⟨"cp855", ["855", "csibm855", "ibm855"], .codePage .cp855⟩,
  ⟨"cp856", [], .codePage .cp856⟩,
  ⟨"cp857", ["857", "csibm857", "ibm857"], .codePage .cp857⟩,
  ⟨"cp858", ["858", "csibm858", "ibm858"], .codePage .cp858⟩,
  ⟨"cp860", ["860", "csibm860", "ibm860"], .codePage .cp860⟩,
  ⟨"cp861", ["861", "cp_is", "csibm861", "ibm861"], .codePage .cp861⟩,
  ⟨"cp862", ["862", "cspc862latinhebrew", "ibm862"], .codePage .cp862⟩,
  ⟨"cp863", ["863", "csibm863", "ibm863"], .codePage .cp863⟩,
  ⟨"cp864", ["864", "csibm864", "ibm864"], .codePage .cp864⟩,
  ⟨"cp865", ["865", "csibm865", "ibm865"], .codePage .cp865⟩,
  ⟨"cp866", ["866", "csibm866", "ibm866"], .codePage .cp866⟩,
  ⟨"cp869", ["869", "cp_gr", "csibm869", "ibm869"], .codePage .cp869⟩,
  ⟨"cp874", [], .codePage .cp874⟩,
  ⟨"cp875", [], .codePage .cp875⟩,
  ⟨"cp932", ["932", "ms932", "ms_kanji", "mskanji"], .cp932⟩,
  ⟨"cp949", ["949", "ms949", "uhc"], .pairs .cp949⟩,
  ⟨"cp950", ["950", "ms950"], .pairs .cp950⟩,
  ⟨"euc_jis_2004", ["euc_jis2004", "eucjis2004", "jisx0213"], .eucJis0213 .second⟩,
  ⟨"euc_jisx0213", ["eucjisx0213"], .eucJis0213 .first⟩,
  ⟨"euc_jp", ["eucjp", "u_jis", "ujis"], .eucJp⟩,
  ⟨"euc_kr", ["euckr", "korean", "ks_c_5601", "ks_c_5601_1987", "ks_x_1001", "ksc5601", "ksx1001",
    "x_mac_korean"], .eucKr⟩,
  ⟨"gb18030", ["gb18030_2000"], .gb18030⟩,
  ⟨"gb2312", ["chinese", "csiso58gb231280", "euc_cn", "euccn", "eucgb2312_cn", "gb2312_1980",
    "gb2312_80", "iso_ir_58", "x_mac_simp_chinese"], .pairs .gb2312⟩,
  ⟨"gbk", ["936", "cp936", "ms936"], .pairs .gbk⟩,
  ⟨"hp_roman8", ["cp1051", "csHPRoman8", "ibm1051", "r8", "roman8"], .codePage .hpRoman8⟩,
  ⟨"hz", ["hz_gb", "hz_gb_2312", "hzgb"], .hz⟩,
  ⟨"idna", [], .host⟩,
  ⟨"iso2022_jp", ["csiso2022jp", "iso2022jp", "iso_2022_jp"], .iso2022 .jp⟩,
  ⟨"iso2022_jp_1", ["iso2022jp_1", "iso_2022_jp_1"], .iso2022 .jp1⟩,
  ⟨"iso2022_jp_2", ["iso2022jp_2", "iso_2022_jp_2"], .iso2022 .jp2⟩,
  ⟨"iso2022_jp_2004", ["iso2022jp_2004", "iso_2022_jp_2004"], .iso2022 .jp2004⟩,
  ⟨"iso2022_jp_3", ["iso2022jp_3", "iso_2022_jp_3"], .iso2022 .jp3⟩,
  ⟨"iso2022_jp_ext", ["iso2022jp_ext", "iso_2022_jp_ext"], .iso2022 .jpExt⟩,
  ⟨"iso2022_kr", ["csiso2022kr", "iso2022kr", "iso_2022_kr"], .iso2022 .kr⟩,
  ⟨"iso8859_10", ["csisolatin6", "iso_8859_10", "iso_8859_10_1992", "iso_ir_157", "l6", "latin6"],
    .codePage .iso8859Part10⟩,
  ⟨"iso8859_11", ["iso_8859_11", "iso_8859_11_2001", "thai"], .codePage .iso8859Part11⟩,
  ⟨"iso8859_13", ["iso_8859_13", "l7", "latin7"], .codePage .iso8859Part13⟩,
  ⟨"iso8859_14", ["iso_8859_14", "iso_8859_14_1998", "iso_celtic", "iso_ir_199", "l8", "latin8"],
    .codePage .iso8859Part14⟩,
  ⟨"iso8859_15", ["iso_8859_15", "l9", "latin9"], .codePage .iso8859Part15⟩,
  ⟨"iso8859_16", ["iso_8859_16", "iso_8859_16_2001", "iso_ir_226", "l10", "latin10"],
    .codePage .iso8859Part16⟩,
  ⟨"iso8859_2", ["csisolatin2", "iso_8859_2", "iso_8859_2_1987", "iso_ir_101", "l2", "latin2"],
    .codePage .iso8859Part2⟩,
  ⟨"iso8859_3", ["csisolatin3", "iso_8859_3", "iso_8859_3_1988", "iso_ir_109", "l3", "latin3"],
    .codePage .iso8859Part3⟩,
  ⟨"iso8859_4", ["csisolatin4", "iso_8859_4", "iso_8859_4_1988", "iso_ir_110", "l4", "latin4"],
    .codePage .iso8859Part4⟩,
  ⟨"iso8859_5", ["csisolatincyrillic", "cyrillic", "iso_8859_5", "iso_8859_5_1988", "iso_ir_144"],
    .codePage .iso8859Part5⟩,
  ⟨"iso8859_6", ["arabic", "asmo_708", "csisolatinarabic", "ecma_114", "iso_8859_6",
    "iso_8859_6_1987", "iso_ir_127"], .codePage .iso8859Part6⟩,
  ⟨"iso8859_7", ["csisolatingreek", "ecma_118", "elot_928", "greek", "greek8", "iso_8859_7",
    "iso_8859_7_1987", "iso_ir_126"], .codePage .iso8859Part7⟩,
  ⟨"iso8859_8", ["csisolatinhebrew", "hebrew", "iso_8859_8", "iso_8859_8_1988", "iso_ir_138"],
    .codePage .iso8859Part8⟩,
  ⟨"iso8859_9", ["csisolatin5", "iso_8859_9", "iso_8859_9_1989", "iso_ir_148", "l5", "latin5"],
    .codePage .iso8859Part9⟩,
  ⟨"johab", ["cp1361", "ms1361"], .pairs .johab⟩,
  ⟨"koi8_r", ["cskoi8r"], .codePage .koi8R⟩,
  ⟨"koi8_t", [], .codePage .koi8T⟩,
  ⟨"koi8_u", [], .codePage .koi8U⟩,
  ⟨"kz1048", ["kz_1048", "rk1048", "strk1048_2002"], .codePage .kz1048⟩,
  ⟨"latin_1", ["8859", "cp819", "csisolatin1", "ibm819", "iso8859", "iso8859_1", "iso_8859_1",
    "iso_8859_1_1987", "iso_ir_100", "l1", "latin", "latin1"], .latin1⟩,
  ⟨"mac_arabic", [], .codePage .macArabic⟩,
  ⟨"mac_croatian", [], .codePage .macCroatian⟩,
  ⟨"mac_cyrillic", ["maccyrillic"], .codePage .macCyrillic⟩,
  ⟨"mac_farsi", [], .codePage .macFarsi⟩,
  ⟨"mac_greek", ["macgreek"], .codePage .macGreek⟩,
  ⟨"mac_iceland", ["maciceland"], .codePage .macIceland⟩,
  ⟨"mac_latin2", ["mac_centeuro", "maccentraleurope", "maclatin2"], .codePage .macLatin2⟩,
  ⟨"mac_roman", ["macintosh", "macroman"], .codePage .macRoman⟩,
  ⟨"mac_romanian", [], .codePage .macRomanian⟩,
  ⟨"mac_turkish", ["macturkish"], .codePage .macTurkish⟩,
  ⟨"palmos", [], .codePage .palmos⟩,
  ⟨"ptcp154", ["cp154", "csptcp154", "cyrillic_asian", "pt154"], .codePage .ptcp154⟩,
  ⟨"punycode", [], .punycode⟩,
  ⟨"raw_unicode_escape", [], .rawEscaped⟩,
  ⟨"shift_jis", ["csshiftjis", "s_jis", "shiftjis", "sjis", "x_mac_japanese"], .shiftJis⟩,
  ⟨"shift_jis_2004", ["s_jis_2004", "shiftjis2004", "sjis_2004"], .shiftJis0213 .second⟩,
  ⟨"shift_jisx0213", ["s_jisx0213", "shiftjisx0213", "sjisx0213"], .shiftJis0213 .first⟩,
  ⟨"tis_620", ["iso_ir_166", "tis620", "tis_620_0", "tis_620_2529_0", "tis_620_2529_1"],
    .codePage .tis620⟩,
  ⟨"undefined", [], .never⟩,
  ⟨"unicode_escape", [], .escaped⟩,
  ⟨"utf_16", ["u16", "utf16"], .utf16 none⟩,
  ⟨"utf_16_be", ["unicodebigunmarked", "utf_16be"], .utf16 (some .big)⟩,
  ⟨"utf_16_le", ["unicodelittleunmarked", "utf_16le"], .utf16 (some .little)⟩,
  ⟨"utf_32", ["u32", "utf32"], .utf32 none⟩,
  ⟨"utf_32_be", ["utf_32be"], .utf32 (some .big)⟩,
  ⟨"utf_32_le", ["utf_32le"], .utf32 (some .little)⟩,
  ⟨"utf_7", ["u7", "unicode_1_1_utf_7", "utf7"], .utf7⟩,
  ⟨"utf_8", ["cp65001", "u8", "utf", "utf8", "utf8_ucs2", "utf8_ucs4"], .utf8⟩,
  ⟨"utf_8_sig", [], .utf8Marked⟩]

/-- The codes whose bytes are not text, with their other names. -/
def otherCodes : List (String × List String) := [
  ("base64_codec", ["base64", "base_64"]), ("bz2_codec", ["bz2"]), ("hex_codec", ["hex"]),
  ("quopri_codec", ["quopri", "quoted_printable", "quotedprintable"]), ("rot_13", ["rot13"]),
  ("uu_codec", ["uu"]), ("zlib_codec", ["zip", "zlib"])]

/-- Whether a name in normal form is one of a thing with its own name and other names. -/
def isNameOf (name own : String) (others : List String) : Bool :=
  name = own || others.contains name
    || others.contains (name.map fun c => if c = '.' then '_' else c)

/-- The encoding of a name. The place where the program runs has UTF-8. -/
def Encoding.named (name : String) : Except EncodingError Encoding :=
  let plain := String.ofList (normalizeName name.toList)
  if name.toList.contains '\x00' then .error .nullInName
  else if name = "locale" then .ok .utf8
  else if otherCodes.any fun (own, others) => isNameOf plain own others then
    .error (.notText name)
  else match namedEncodings.find? fun e => isNameOf plain e.name e.others with
    | some found => .ok found.encoding
    | none => .error (.unknown name)

end ThriftSchema
