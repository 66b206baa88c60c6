import ThriftSchema.Source.Encoding.CodePage

set_option autoImplicit false

/-! # KOI8 and Roman8

Code pages in which Cyrillic letters stand in the order of the Latin ones, and one of accented
Latin letters.
-/

namespace ThriftSchema.CodePage

/-- Cyrillic letters of Russian. -/
def koi8R : CodePage := asciiPage [
  "─│┌┐└┘├┤┬┴┼▀▄█▌▐░▒▓⌠■∙√≈≤≥\xa0⌡°²·÷",
  "═║╒ё╓╔╕╖╗╘╙╚╛╜╝╞╟╠╡Ё╢╣╤╥╦╧╨╩╪╫╬©",
  "юабцдефгхийклмнопярстужвьызшэщчъ",
  "ЮАБЦДЕФГХИЙКЛМНОПЯРСТУЖВЬЫЗШЭЩЧЪ"]

/-- Cyrillic letters of Tajik. -/
def koi8T : CodePage := asciiPage [
  "қғ‚Ғ„…†‡�‰ҳ‹ҲҷҶ�Қ‘’“”•–—�™�›����",
  "�ӯӮё¤ӣ¦§���«¬\xad®�°±²Ё�Ӣ¶·�№�»���©",
  "юабцдефгхийклмнопярстужвьызшэщчъ",
  "ЮАБЦДЕФГХИЙКЛМНОПЯРСТУЖВЬЫЗШЭЩЧЪ"]

/-- Cyrillic letters of Ukrainian. -/
def koi8U : CodePage := koi8R.change
  [(0xa4, 'є'), (0xa6, 'і'), (0xa7, 'ї'), (0xad, 'ґ'), (0xb4, 'Є'), (0xb6, 'І'), (0xb7, 'Ї'),
   (0xbd, 'Ґ')]

/-- Accented Latin letters. -/
def hpRoman8 : CodePage := isoPage [
  "\xa0ÀÂÈÊËÎÏ´ˋˆ¨˜ÙÛ₤¯Ýý°ÇçÑñ¡¿¤£¥§ƒ¢",
  "âêôûáéóúàèòùäëöüÅîØÆåíøæÄìÖÜÉïßÔ",
  "ÁÃãÐðÍÌÓÒÕõŠšÚŸÿÞþ·µ¶¾—¼½ªº«■»±�"]

end ThriftSchema.CodePage
