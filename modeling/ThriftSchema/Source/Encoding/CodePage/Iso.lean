import ThriftSchema.Source.Encoding.CodePage

set_option autoImplicit false

/-! # The parts of ISO 8859

Code pages whose lower half is ASCII and whose upper half starts with the controls `80` to `9F`.
-/

namespace ThriftSchema.CodePage

/-- Part 2: Latin letters of central Europe. -/
def iso8859Part2 : CodePage := isoPage [
  "\xa0Ą˘Ł¤ĽŚ§¨ŠŞŤŹ\xadŽŻ°ą˛ł´ľśˇ¸šşťź˝žż",
  "ŔÁÂĂÄĹĆÇČÉĘËĚÍÎĎĐŃŇÓÔŐÖ×ŘŮÚŰÜÝŢß",
  "ŕáâăäĺćçčéęëěíîďđńňóôőö÷řůúűüýţ˙"]

/-- Part 3: Latin letters of southern Europe. -/
def iso8859Part3 : CodePage := isoPage [
  "\xa0Ħ˘£¤�Ĥ§¨İŞĞĴ\xad�Ż°ħ²³´µĥ·¸ışğĵ½�ż",
  "ÀÁÂ�ÄĊĈÇÈÉÊËÌÍÎÏ�ÑÒÓÔĠÖ×ĜÙÚÛÜŬŜß",
  "àáâ�äċĉçèéêëìíîï�ñòóôġö÷ĝùúûüŭŝ˙"]

/-- Part 4: Latin letters of northern Europe. -/
def iso8859Part4 : CodePage := isoPage [
  "\xa0ĄĸŖ¤ĨĻ§¨ŠĒĢŦ\xadŽ¯°ą˛ŗ´ĩļˇ¸šēģŧŊžŋ",
  "ĀÁÂÃÄÅÆĮČÉĘËĖÍÎĪĐŅŌĶÔÕÖ×ØŲÚÛÜŨŪß",
  "āáâãäåæįčéęëėíîīđņōķôõö÷øųúûüũū˙"]

/-- Part 5: Cyrillic letters. -/
def iso8859Part5 : CodePage := isoPage [
  "\xa0ЁЂЃЄЅІЇЈЉЊЋЌ\xadЎЏАБВГДЕЖЗИЙКЛМНОП",
  "РСТУФХЦЧШЩЪЫЬЭЮЯабвгдежзийклмноп",
  "рстуфхцчшщъыьэюя№ёђѓєѕіїјљњћќ§ўџ"]

/-- Part 6: Arabic letters. -/
def iso8859Part6 : CodePage := isoPage [
  "\xa0���¤�������،\xad�������������؛���؟",
  "�ءآأؤإئابةتثجحخدذرزسشصضطظعغ�����",
  "ـفقكلمنهوىي\u064b\u064c\u064d\u064e\u064f\u0650\u0651\u0652�������������"]

/-- Part 7: Greek letters. -/
def iso8859Part7 : CodePage := isoPage [
  "\xa0‘’£€₯¦§¨©ͺ«¬\xad�―°±²³΄΅Ά·ΈΉΊ»Ό½ΎΏ",
  "ΐΑΒΓΔΕΖΗΘΙΚΛΜΝΞΟΠΡ�ΣΤΥΦΧΨΩΪΫάέήί",
  "ΰαβγδεζηθικλμνξοπρςστυφχψωϊϋόύώ�"]

/-- Part 8: Hebrew letters. -/
def iso8859Part8 : CodePage := isoPage [
  "\xa0�¢£¤¥¦§¨©×«¬\xad®¯°±²³´µ¶·¸¹÷»¼½¾�",
  "�������������������������������‗",
  "אבגדהוזחטיךכלםמןנסעףפץצקרשת��\u200e\u200f�"]

/-- Part 9: Latin letters of Turkish. -/
def iso8859Part9 : CodePage := latin1.change
  [(0xd0, 'Ğ'), (0xdd, 'İ'), (0xde, 'Ş'), (0xf0, 'ğ'), (0xfd, 'ı'), (0xfe, 'ş')]

/-- Part 10: Latin letters of the Nordic languages. -/
def iso8859Part10 : CodePage := isoPage [
  "\xa0ĄĒĢĪĨĶ§ĻĐŠŦŽ\xadŪŊ°ąēģīĩķ·ļđšŧž―ūŋ",
  "ĀÁÂÃÄÅÆĮČÉĘËĖÍÎÏÐŅŌÓÔÕÖŨØŲÚÛÜÝÞß",
  "āáâãäåæįčéęëėíîïðņōóôõöũøųúûüýþĸ"]

/-- Part 11: Thai letters. -/
def iso8859Part11 : CodePage := isoPage [
  "\xa0กขฃคฅฆงจฉชซฌญฎฏฐฑฒณดตถทธนบปผฝพฟ",
  "ภมยรฤลฦวศษสหฬอฮฯะ\u0e31าำ\u0e34\u0e35\u0e36\u0e37\u0e38\u0e39\u0e3a����฿",
  "เแโใไๅๆ\u0e47\u0e48\u0e49\u0e4a\u0e4b\u0e4c\u0e4d\u0e4e๏๐๑๒๓๔๕๖๗๘๙๚๛����"]

/-- Part 13: Latin letters of the Baltic languages. -/
def iso8859Part13 : CodePage := isoPage [
  "\xa0”¢£¤„¦§Ø©Ŗ«¬\xad®Æ°±²³“µ¶·ø¹ŗ»¼½¾æ",
  "ĄĮĀĆÄÅĘĒČÉŹĖĢĶĪĻŠŃŅÓŌÕÖ×ŲŁŚŪÜŻŽß",
  "ąįāćäåęēčéźėģķīļšńņóōõö÷ųłśūüżž’"]

/-- Part 14: Latin letters of the Celtic languages. -/
def iso8859Part14 : CodePage := isoPage [
  "\xa0Ḃḃ£ĊċḊ§Ẁ©ẂḋỲ\xad®ŸḞḟĠġṀṁ¶ṖẁṗẃṠỳẄẅṡ",
  "ÀÁÂÃÄÅÆÇÈÉÊËÌÍÎÏŴÑÒÓÔÕÖṪØÙÚÛÜÝŶß",
  "àáâãäåæçèéêëìíîïŵñòóôõöṫøùúûüýŷÿ"]

/-- Part 15: Latin letters of western Europe with the euro sign. -/
def iso8859Part15 : CodePage := latin1.change
  [(0xa4, '€'), (0xa6, 'Š'), (0xa8, 'š'), (0xb4, 'Ž'), (0xb8, 'ž'), (0xbc, 'Œ'), (0xbd, 'œ'),
   (0xbe, 'Ÿ')]

/-- Part 16: Latin letters of south-eastern Europe. -/
def iso8859Part16 : CodePage := isoPage [
  "\xa0ĄąŁ€„Š§š©Ș«Ź\xadźŻ°±ČłŽ”¶·žčș»ŒœŸż",
  "ÀÁÂĂÄĆÆÇÈÉÊËÌÍÎÏĐŃÒÓÔŐÖŚŰÙÚÛÜĘȚß",
  "àáâăäćæçèéêëìíîïđńòóôőöśűùúûüęțÿ"]

/-- Thai letters without the no-break space. -/
def tis620 : CodePage := iso8859Part11.change
  [(0xa0, '�')]

end ThriftSchema.CodePage
