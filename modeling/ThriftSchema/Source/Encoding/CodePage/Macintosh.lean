import ThriftSchema.Source.Encoding.CodePage

set_option autoImplicit false

/-! # Macintosh code pages

Code pages whose lower half is ASCII and whose upper half starts with accented letters.
-/

namespace ThriftSchema.CodePage

/-- Latin letters of western Europe. -/
def macRoman : CodePage := asciiPage [
  "ÄÅÇÉÑÖÜáàâäãåçéèêëíìîïñóòôöõúùûü",
  "†°¢£§•¶ß®©™´¨≠ÆØ∞±≤≥¥µ∂∑∏π∫ªºΩæø",
  "¿¡¬√ƒ≈∆«»…\xa0ÀÃÕŒœ–—“”‘’÷◊ÿŸ⁄€‹›ﬁﬂ",
  "‡·‚„‰ÂÊÁËÈÍÎÏÌÓÔ\uf8ffÒÚÛÙıˆ˜¯˘˙˚¸˝˛ˇ"]

/-- Latin letters of Croatian. -/
def macCroatian : CodePage := asciiPage [
  "ÄÅÇÉÑÖÜáàâäãåçéèêëíìîïñóòôöõúùûü",
  "†°¢£§•¶ß®Š™´¨≠ŽØ∞±≤≥∆µ∂∑∏š∫ªºΩžø",
  "¿¡¬√ƒ≈Ć«Č…\xa0ÀÃÕŒœĐ—“”‘’÷◊\uf8ff©⁄€‹›Æ»",
  "–·‚„‰ÂćÁčÈÍÎÏÌÓÔđÒÚÛÙıˆ˜¯πË˚¸Êæˇ"]

/-- Latin letters of Icelandic. -/
def macIceland : CodePage := macRoman.change
  [(0xa0, 'Ý'), (0xdc, 'Ð'), (0xdd, 'ð'), (0xde, 'Þ'), (0xdf, 'þ'), (0xe0, 'ý')]

/-- Latin letters of Romanian. -/
def macRomanian : CodePage := macRoman.change
  [(0xae, 'Ă'), (0xaf, 'Ș'), (0xbe, 'ă'), (0xbf, 'ș'), (0xde, 'Ț'), (0xdf, 'ț')]

/-- Latin letters of Turkish. -/
def macTurkish : CodePage := macRoman.change
  [(0xda, 'Ğ'), (0xdb, 'ğ'), (0xdc, 'İ'), (0xdd, 'ı'), (0xde, 'Ş'), (0xdf, 'ş'), (0xf5, '\uf8a0')]

/-- Latin letters of central Europe. -/
def macLatin2 : CodePage := asciiPage [
  "ÄĀāÉĄÖÜáąČäčĆćéŹźĎíďĒēĖóėôöõúĚěü",
  "†°Ę£§•¶ß®©™ę¨≠ģĮįĪ≤≥īĶ∂∑łĻļĽľĹĺŅ",
  "ņŃ¬√ńŇ∆«»…\xa0ňŐÕőŌ–—“”‘’÷◊ōŔŕŘ‹›řŖ",
  "ŗŠ‚„šŚśÁŤťÍŽžŪÓÔūŮÚůŰűŲųÝýķŻŁżĢˇ"]

/-- Cyrillic letters. -/
def macCyrillic : CodePage := asciiPage [
  "АБВГДЕЖЗИЙКЛМНОПРСТУФХЦЧШЩЪЫЬЭЮЯ",
  "†°Ґ£§•¶І®©™Ђђ≠Ѓѓ∞±≤≥іµґЈЄєЇїЉљЊњ",
  "јЅ¬√ƒ≈∆«»…\xa0ЋћЌќѕ–—“”‘’÷„ЎўЏџ№Ёёя",
  "абвгдежзийклмнопрстуфхцчшщъыьэю€"]

/-- Greek letters. -/
def macGreek : CodePage := asciiPage [
  "Ä¹²É³ÖÜ΅àâä΄¨çéèêë£™îï•½‰ôö¦€ùûü",
  "†ΓΔΘΛΞΠß®©ΣΪ§≠°·Α±≤≥¥ΒΕΖΗΙΚΜΦΫΨΩ",
  "άΝ¬ΟΡ≈Τ«»…\xa0ΥΧΆΈœ–―“”‘’÷ΉΊΌΎέήίόΏ",
  "ύαβψδεφγηιξκλμνοπώρστθωςχυζϊϋΐΰ\xad"]

/-- Arabic letters. -/
def macArabic : CodePage := asciiPage [
  "Ä\xa0ÇÉÑÖÜáàâäں«çéèêëí…îïñó»ôö÷úùûü",
  " !\x22#$٪&\x27()*+،-./٠١٢٣٤٥٦٧٨٩:؛<=>؟",
  "❊ءآأؤإئابةتثجحخدذرزسشصضطظعغ[\\]^_",
  "ـفقكلمنهوىي\u064b\u064c\u064d\u064e\u064f\u0650\u0651\u0652پٹچەڤگڈڑ\x7b|\x7dژے"]

/-- Persian letters. -/
def macFarsi : CodePage := macArabic.change
  [(0xb0, '۰'), (0xb1, '۱'), (0xb2, '۲'), (0xb3, '۳'), (0xb4, '۴'), (0xb5, '۵'), (0xb6, '۶'),
   (0xb7, '۷'), (0xb8, '۸'), (0xb9, '۹')]

end ThriftSchema.CodePage
