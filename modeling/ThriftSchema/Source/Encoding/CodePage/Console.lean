import ThriftSchema.Source.Encoding.CodePage

set_option autoImplicit false

/-! # Code pages of text consoles

Code pages whose lower half is ASCII and whose upper half holds letters and box characters.
-/

namespace ThriftSchema.CodePage

/-- Latin letters of western Europe, some Greek ones, and box characters. -/
def cp437 : CodePage := asciiPage [
  "ÇüéâäàåçêëèïîìÄÅÉæÆôöòûùÿÖÜ¢£¥₧ƒ",
  "áíóúñÑªº¿⌐¬½¼¡«»░▒▓│┤╡╢╖╕╣║╗╝╜╛┐",
  "└┴┬├─┼╞╟╚╔╩╦╠═╬╧╨╤╥╙╘╒╓╫╪┘┌█▄▌▐▀",
  "αßΓπΣσµτΦΘΩδ∞φε∩≡±≥≤⌠⌡÷≈°∙·√ⁿ²■\xa0"]

/-- Arabic letters. -/
def cp720 : CodePage := asciiPage [
  "\x80\x81éâ\x84à\x86çêëèïî\x8d\x8e\x8f\x90\u0651\u0652ô¤ـûùءآأؤ£إئا",
  "بةتثجحخدذرزسشص«»░▒▓│┤╡╢╖╕╣║╗╝╜╛┐",
  "└┴┬├─┼╞╟╚╔╩╦╠═╬╧╨╤╥╙╘╒╓╫╪┘┌█▄▌▐▀",
  "ضطظعغفµقكلمنهوىي≡\u064b\u064c\u064d\u064e\u064f\u0650≈°∙·√ⁿ²■\xa0"]

/-- Greek letters. -/
def cp737 : CodePage := asciiPage [
  "ΑΒΓΔΕΖΗΘΙΚΛΜΝΞΟΠΡΣΤΥΦΧΨΩαβγδεζηθ",
  "ικλμνξοπρσςτυφχψ░▒▓│┤╡╢╖╕╣║╗╝╜╛┐",
  "└┴┬├─┼╞╟╚╔╩╦╠═╬╧╨╤╥╙╘╒╓╫╪┘┌█▄▌▐▀",
  "ωάέήϊίόύϋώΆΈΉΊΌΎΏ±≥≤ΪΫ÷≈°∙·√ⁿ²■\xa0"]

/-- Latin letters of the Baltic languages. -/
def cp775 : CodePage := asciiPage [
  "ĆüéāäģåćłēŖŗīŹÄÅÉæÆōöĢ¢ŚśÖÜø£Ø×¤",
  "ĀĪóŻżź”¦©®¬½¼Ł«»░▒▓│┤ĄČĘĖ╣║╗╝ĮŠ┐",
  "└┴┬├─┼ŲŪ╚╔╩╦╠═╬Žąčęėįšųūž┘┌█▄▌▐▀",
  "ÓßŌŃõÕµńĶķĻļņĒŅ’\xad±“¾¶§÷„°∙·¹³²■\xa0"]

/-- Latin letters of western Europe. -/
def cp850 : CodePage := asciiPage [
  "ÇüéâäàåçêëèïîìÄÅÉæÆôöòûùÿÖÜø£Ø×ƒ",
  "áíóúñÑªº¿®¬½¼¡«»░▒▓│┤ÁÂÀ©╣║╗╝¢¥┐",
  "└┴┬├─┼ãÃ╚╔╩╦╠═╬¤ðÐÊËÈıÍÎÏ┘┌█▄¦Ì▀",
  "ÓßÔÒõÕµþÞÚÛÙýÝ¯´\xad±‗¾¶§÷¸°¨·¹³²■\xa0"]

/-- Latin letters of central Europe. -/
def cp852 : CodePage := asciiPage [
  "ÇüéâäůćçłëŐőîŹÄĆÉĹĺôöĽľŚśÖÜŤťŁ×č",
  "áíóúĄąŽžĘę¬źČş«»░▒▓│┤ÁÂĚŞ╣║╗╝Żż┐",
  "└┴┬├─┼Ăă╚╔╩╦╠═╬¤đĐĎËďŇÍÎě┘┌█▄ŢŮ▀",
  "ÓßÔŃńňŠšŔÚŕŰýÝţ´\xad˝˛ˇ˘§÷¸°¨˙űŘř■\xa0"]

/-- Cyrillic letters. -/
def cp855 : CodePage := asciiPage [
  "ђЂѓЃёЁєЄѕЅіІїЇјЈљЉњЊћЋќЌўЎџЏюЮъЪ",
  "аАбБцЦдДеЕфФгГ«»░▒▓│┤хХиИ╣║╗╝йЙ┐",
  "└┴┬├─┼кК╚╔╩╦╠═╬¤лЛмМнНоОп┘┌█▄Пя▀",
  "ЯрРсСтТуУжЖвВьЬ№\xadыЫзЗшШэЭщЩчЧ§■\xa0"]

/-- Hebrew letters. -/
def cp856 : CodePage := asciiPage [
  "אבגדהוזחטיךכלםמןנסעףפץצקרשת�£�×�",
  "���������®¬½¼�«»░▒▓│┤���©╣║╗╝¢¥┐",
  "└┴┬├─┼��╚╔╩╦╠═╬¤���������┘┌█▄¦�▀",
  "������µ�������¯´\xad±‗¾¶§÷¸°¨·¹³²■\xa0"]

/-- Latin letters of Turkish. -/
def cp857 : CodePage := cp850.change
  [(0x8d, 'ı'), (0x98, 'İ'), (0x9e, 'Ş'), (0x9f, 'ş'), (0xa6, 'Ğ'), (0xa7, 'ğ'), (0xd0, 'º'),
   (0xd1, 'ª'), (0xd5, '�'), (0xe7, '�'), (0xe8, '×'), (0xec, 'ì'), (0xed, 'ÿ'), (0xf2, '�')]

/-- Latin letters of western Europe with the euro sign. -/
def cp858 : CodePage := cp850.change
  [(0xd5, '€')]

/-- Latin letters of Portuguese. -/
def cp860 : CodePage := asciiPage [
  "ÇüéâãàÁçêÊèÍÔìÃÂÉÀÈôõòÚùÌÕÜ¢£Ù₧Ó",
  "áíóúñÑªº¿Ò¬½¼¡«»░▒▓│┤╡╢╖╕╣║╗╝╜╛┐",
  "└┴┬├─┼╞╟╚╔╩╦╠═╬╧╨╤╥╙╘╒╓╫╪┘┌█▄▌▐▀",
  "αßΓπΣσµτΦΘΩδ∞φε∩≡±≥≤⌠⌡÷≈°∙·√ⁿ²■\xa0"]

/-- Latin letters of Icelandic. -/
def cp861 : CodePage := cp437.change
  [(0x8b, 'Ð'), (0x8c, 'ð'), (0x8d, 'Þ'), (0x95, 'þ'), (0x97, 'Ý'), (0x98, 'ý'), (0x9b, 'ø'),
   (0x9d, 'Ø'), (0xa4, 'Á'), (0xa5, 'Í'), (0xa6, 'Ó'), (0xa7, 'Ú')]

/-- Hebrew letters. -/
def cp862 : CodePage := asciiPage [
  "אבגדהוזחטיךכלםמןנסעףפץצקרשת¢£¥₧ƒ",
  "áíóúñÑªº¿⌐¬½¼¡«»░▒▓│┤╡╢╖╕╣║╗╝╜╛┐",
  "└┴┬├─┼╞╟╚╔╩╦╠═╬╧╨╤╥╙╘╒╓╫╪┘┌█▄▌▐▀",
  "αßΓπΣσµτΦΘΩδ∞φε∩≡±≥≤⌠⌡÷≈°∙·√ⁿ²■\xa0"]

/-- Latin letters of Canadian French. -/
def cp863 : CodePage := asciiPage [
  "ÇüéâÂà¶çêëèïî‗À§ÉÈÊôËÏûù¤ÔÜ¢£ÙÛƒ",
  "¦´óú¨¸³¯Î⌐¬½¼¾«»░▒▓│┤╡╢╖╕╣║╗╝╜╛┐",
  "└┴┬├─┼╞╟╚╔╩╦╠═╬╧╨╤╥╙╘╒╓╫╪┘┌█▄▌▐▀",
  "αßΓπΣσµτΦΘΩδ∞φε∩≡±≥≤⌠⌡÷≈°∙·√ⁿ²■\xa0"]

/-- Arabic letters in their shapes. -/
def cp864 : CodePage := (asciiPage [
  "°·∙√▒─│┼┤┬├┴┐┌└┘β∞φ±½¼≈«»ﻷﻸ��ﻻﻼ�",
  "\xa0\xadﺂ£¤ﺄ��ﺎﺏﺕﺙ،ﺝﺡﺥ٠١٢٣٤٥٦٧٨٩ﻑ؛ﺱﺵﺹ؟",
  "¢ﺀﺁﺃﺅﻊﺋﺍﺑﺓﺗﺛﺟﺣﺧﺩﺫﺭﺯﺳﺷﺻﺿﻁﻅﻋﻏ¦¬÷×ﻉ",
  "ـﻓﻗﻛﻟﻣﻧﻫﻭﻯﻳﺽﻌﻎﻍﻡﹽ\u0651ﻥﻩﻬﻰﻲﻐﻕﻵﻶﻝﻙﻱ■�"]).change [(0x25, '٪')]

/-- Latin letters of Danish and Norwegian. -/
def cp865 : CodePage := cp437.change
  [(0x9b, 'ø'), (0x9d, 'Ø'), (0xaf, '¤')]

/-- Cyrillic letters of Russian. -/
def cp866 : CodePage := asciiPage [
  "АБВГДЕЖЗИЙКЛМНОПРСТУФХЦЧШЩЪЫЬЭЮЯ",
  "абвгдежзийклмноп░▒▓│┤╡╢╖╕╣║╗╝╜╛┐",
  "└┴┬├─┼╞╟╚╔╩╦╠═╬╧╨╤╥╙╘╒╓╫╪┘┌█▄▌▐▀",
  "рстуфхцчшщъыьэюяЁёЄєЇїЎў°∙·√№¤■\xa0"]

/-- Greek letters with accents. -/
def cp869 : CodePage := asciiPage [
  "������Ά�·¬¦‘’Έ―ΉΊΪΌ��ΎΫ©Ώ²³ά£έήί",
  "ϊΐόύΑΒΓΔΕΖΗ½ΘΙ«»░▒▓│┤ΚΛΜΝ╣║╗╝ΞΟ┐",
  "└┴┬├─┼ΠΡ╚╔╩╦╠═╬ΣΤΥΦΧΨΩαβγ┘┌█▄δε▀",
  "ζηθικλμνξοπρσςτ΄\xad±υφχ§ψ΅°¨ωϋΰώ■\xa0"]

/-- Urdu letters in their shapes. -/
def cp1006 : CodePage := isoPage [
  "\xa0۰۱۲۳۴۵۶۷۸۹،؛\xad؟ﺁﺍﺎﺎﺏﺑﭖﭘﺓﺕﺗﭦﭨﺙﺛﺝﺟ",
  "ﭺﭼﺡﺣﺥﺧﺩﮄﺫﺭﮌﺯﮊﺱﺳﺵﺷﺹﺻﺽﺿﻁﻅﻉﻊﻋﻌﻍﻎﻏﻐﻑ",
  "ﻓﻕﻗﻙﻛﮒﮔﻝﻟﻠﻡﻣﮞﻥﻧﺅﻭﮦﮨﮩﮪﺀﺉﺊﺋﻱﻲﻳﮰﮮﹼﹽ"]

/-- Cyrillic letters of Ukrainian. -/
def cp1125 : CodePage := cp866.change
  [(0xf2, 'Ґ'), (0xf3, 'ґ'), (0xf4, 'Є'), (0xf5, 'є'), (0xf6, 'І'), (0xf7, 'і'), (0xf8, 'Ї'),
   (0xf9, 'ї')]

end ThriftSchema.CodePage
