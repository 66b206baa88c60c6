import ThriftSchema.Source.Encoding.CodePage

set_option autoImplicit false

/-! # Code pages of windows

Code pages whose lower half is ASCII and whose upper half starts with punctuation.
-/

namespace ThriftSchema.CodePage

/-- Thai letters. -/
def cp874 : CodePage := asciiPage [
  "€����…�����������‘’“”•–—��������",
  "\xa0กขฃคฅฆงจฉชซฌญฎฏฐฑฒณดตถทธนบปผฝพฟ",
  "ภมยรฤลฦวศษสหฬอฮฯะ\u0e31าำ\u0e34\u0e35\u0e36\u0e37\u0e38\u0e39\u0e3a����฿",
  "เแโใไๅๆ\u0e47\u0e48\u0e49\u0e4a\u0e4b\u0e4c\u0e4d\u0e4e๏๐๑๒๓๔๕๖๗๘๙๚๛����"]

/-- Latin letters of central Europe. -/
def cp1250 : CodePage := asciiPage [
  "€�‚�„…†‡�‰Š‹ŚŤŽŹ�‘’“”•–—�™š›śťžź",
  "\xa0ˇ˘Ł¤Ą¦§¨©Ş«¬\xad®Ż°±˛ł´µ¶·¸ąş»Ľ˝ľż",
  "ŔÁÂĂÄĹĆÇČÉĘËĚÍÎĎĐŃŇÓÔŐÖ×ŘŮÚŰÜÝŢß",
  "ŕáâăäĺćçčéęëěíîďđńňóôőö÷řůúűüýţ˙"]

/-- Cyrillic letters. -/
def cp1251 : CodePage := asciiPage [
  "ЂЃ‚ѓ„…†‡€‰Љ‹ЊЌЋЏђ‘’“”•–—�™љ›њќћџ",
  "\xa0ЎўЈ¤Ґ¦§Ё©Є«¬\xad®Ї°±Ііґµ¶·ё№є»јЅѕї",
  "АБВГДЕЖЗИЙКЛМНОПРСТУФХЦЧШЩЪЫЬЭЮЯ",
  "абвгдежзийклмнопрстуфхцчшщъыьэюя"]

/-- Latin letters of western Europe. -/
def cp1252 : CodePage := asciiPage [
  "€�‚ƒ„…†‡ˆ‰Š‹Œ�Ž��‘’“”•–—˜™š›œ�žŸ",
  "\xa0¡¢£¤¥¦§¨©ª«¬\xad®¯°±²³´µ¶·¸¹º»¼½¾¿",
  "ÀÁÂÃÄÅÆÇÈÉÊËÌÍÎÏÐÑÒÓÔÕÖ×ØÙÚÛÜÝÞß",
  "àáâãäåæçèéêëìíîïðñòóôõö÷øùúûüýþÿ"]

/-- Greek letters. -/
def cp1253 : CodePage := asciiPage [
  "€�‚ƒ„…†‡�‰�‹�����‘’“”•–—�™�›����",
  "\xa0΅Ά£¤¥¦§¨©�«¬\xad®―°±²³΄µ¶·ΈΉΊ»Ό½ΎΏ",
  "ΐΑΒΓΔΕΖΗΘΙΚΛΜΝΞΟΠΡ�ΣΤΥΦΧΨΩΪΫάέήί",
  "ΰαβγδεζηθικλμνξοπρςστυφχψωϊϋόύώ�"]

/-- Latin letters of Turkish. -/
def cp1254 : CodePage := cp1252.change
  [(0x8e, '�'), (0x9e, '�'), (0xd0, 'Ğ'), (0xdd, 'İ'), (0xde, 'Ş'), (0xf0, 'ğ'), (0xfd, 'ı'),
   (0xfe, 'ş')]

/-- Hebrew letters and points. -/
def cp1255 : CodePage := asciiPage [
  "€�‚ƒ„…†‡ˆ‰�‹�����‘’“”•–—˜™�›����",
  "\xa0¡¢£₪¥¦§¨©×«¬\xad®¯°±²³´µ¶·¸¹÷»¼½¾¿",
  "\u05b0\u05b1\u05b2\u05b3\u05b4\u05b5\u05b6\u05b7\u05b8\u05b9�\u05bb\u05bc\u05bd־\u05bf׀"
    ++ "\u05c1\u05c2׃װױײ׳״�������",
  "אבגדהוזחטיךכלםמןנסעףפץצקרשת��\u200e\u200f�"]

/-- Arabic letters and Latin ones of French. -/
def cp1256 : CodePage := asciiPage [
  "€پ‚ƒ„…†‡ˆ‰ٹ‹Œچژڈگ‘’“”•–—ک™ڑ›œ\u200c\u200dں",
  "\xa0،¢£¤¥¦§¨©ھ«¬\xad®¯°±²³´µ¶·¸¹؛»¼½¾؟",
  "ہءآأؤإئابةتثجحخدذرزسشصض×طظعغـفقك",
  "àلâمنهوçèéêëىيîï\u064b\u064c\u064d\u064eô\u064f\u0650÷\u0651ù\u0652ûü\u200e\u200fے"]

/-- Latin letters of the Baltic languages. -/
def cp1257 : CodePage := asciiPage [
  "€�‚�„…†‡�‰�‹�¨ˇ¸�‘’“”•–—�™�›�¯˛�",
  "\xa0�¢£¤�¦§Ø©Ŗ«¬\xad®Æ°±²³´µ¶·ø¹ŗ»¼½¾æ",
  "ĄĮĀĆÄÅĘĒČÉŹĖĢĶĪĻŠŃŅÓŌÕÖ×ŲŁŚŪÜŻŽß",
  "ąįāćäåęēčéźėģķīļšńņóōõö÷ųłśūüżž˙"]

/-- Latin letters of Vietnamese with combining marks. -/
def cp1258 : CodePage := asciiPage [
  "€�‚ƒ„…†‡ˆ‰�‹Œ����‘’“”•–—˜™�›œ��Ÿ",
  "\xa0¡¢£¤¥¦§¨©ª«¬\xad®¯°±²³´µ¶·¸¹º»¼½¾¿",
  "ÀÁÂĂÄÅÆÇÈÉÊË\u0300ÍÎÏĐÑ\u0309ÓÔƠÖ×ØÙÚÛÜƯ\u0303ß",
  "àáâăäåæçèéêë\u0301íîïđñ\u0323óôơö÷øùúûüư₫ÿ"]

/-- Cyrillic letters of Kazakh. -/
def kz1048 : CodePage := asciiPage [
  "ЂЃ‚ѓ„…†‡€‰Љ‹ЊҚҺЏђ‘’“”•–—�™љ›њқһџ",
  "\xa0ҰұӘ¤Ө¦§Ё©Ғ«¬\xad®Ү°±Ііөµ¶·ё№ғ»әҢңү",
  "АБВГДЕЖЗИЙКЛМНОПРСТУФХЦЧШЩЪЫЬЭЮЯ",
  "абвгдежзийклмнопрстуфхцчшщъыьэюя"]

/-- Cyrillic letters of the languages of Asia. -/
def ptcp154 : CodePage := asciiPage [
  "ҖҒӮғ„…ҶҮҲүҠӢҢҚҺҸҗ‘’“”•–—ҳҷҡӣңқһҹ",
  "\xa0ЎўЈӨҘҰ§Ё©Ә«¬ӯ®Ҝ°ұІіҙө¶·ё№ә»јҪҫҝ",
  "АБВГДЕЖЗИЙКЛМНОПРСТУФХЦЧШЩЪЫЬЭЮЯ",
  "абвгдежзийклмнопрстуфхцчшщъыьэюя"]

/-- Latin letters of handheld computers. -/
def palmos : CodePage := cp1252.change
  [(0x81, '\x81'), (0x8d, '♦'), (0x8e, '♣'), (0x8f, '♥'), (0x90, '♠'), (0x9b, '\x9b'),
   (0x9d, '\x9d'), (0x9e, '\x9e')]

end ThriftSchema.CodePage
