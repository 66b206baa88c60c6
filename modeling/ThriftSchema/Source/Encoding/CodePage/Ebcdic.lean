import ThriftSchema.Source.Encoding.CodePage

set_option autoImplicit false

/-! # EBCDIC code pages

Code pages of mainframes. Letters stand in three separate runs, and the controls are spread.
-/

namespace ThriftSchema.CodePage

/-- Latin letters of the United States and Canada. -/
def cp037 : CodePage := ofRows [
  "\x00\x01\x02\x03\x9c\x09\x86\x7f\x97\x8d\x8e\x0b\x0c\x0d\x0e\x0f",
  "\x10\x11\x12\x13\x9d\x85\x08\x87\x18\x19\x92\x8f\x1c\x1d\x1e\x1f",
  "\x80\x81\x82\x83\x84\x0a\x17\x1b\x88\x89\x8a\x8b\x8c\x05\x06\x07",
  "\x90\x91\x16\x93\x94\x95\x96\x04\x98\x99\x9a\x9b\x14\x15\x9e\x1a",
  " \xa0âäàáãåçñ¢.<(+|",
  "&éêëèíîïìß!$*);¬",
  "-\x2fÂÄÀÁÃÅÇÑ¦,%_>?",
  "øÉÊËÈÍÎÏÌ\x60:#@\x27=\x22",
  "Øabcdefghi«»ðýþ±",
  "°jklmnopqrªºæ¸Æ¤",
  "µ~stuvwxyz¡¿ÐÝÞ®",
  "^£¥·©§¶¼½¾[]¯¨´×",
  "\x7bABCDEFGHI\xadôöòóõ",
  "\x7dJKLMNOPQR¹ûüùúÿ",
  "\\÷STUVWXYZ²ÔÖÒÓÕ",
  "0123456789³ÛÜÙÚ\x9f"]

/-- Latin letters of German. -/
def cp273 : CodePage := ofRows [
  "\x00\x01\x02\x03\x9c\x09\x86\x7f\x97\x8d\x8e\x0b\x0c\x0d\x0e\x0f",
  "\x10\x11\x12\x13\x9d\x85\x08\x87\x18\x19\x92\x8f\x1c\x1d\x1e\x1f",
  "\x80\x81\x82\x83\x84\x0a\x17\x1b\x88\x89\x8a\x8b\x8c\x05\x06\x07",
  "\x90\x91\x16\x93\x94\x95\x96\x04\x98\x99\x9a\x9b\x14\x15\x9e\x1a",
  " \xa0â\x7bàáãåçñÄ.<(+!",
  "&éêëèíîïì~Ü$*);^",
  "-\x2fÂ[ÀÁÃÅÇÑö,%_>?",
  "øÉÊËÈÍÎÏÌ\x60:#§\x27=\x22",
  "Øabcdefghi«»ðýþ±",
  "°jklmnopqrªºæ¸Æ¤",
  "µßstuvwxyz¡¿ÐÝÞ®",
  "¢£¥·©@¶¼½¾¬|‾¨´×",
  "äABCDEFGHI\xadô¦òóõ",
  "üJKLMNOPQR¹û\x7dùúÿ",
  "Ö÷STUVWXYZ²Ô\\ÒÓÕ",
  "0123456789³Û]ÙÚ\x9f"]

/-- Hebrew letters. -/
def cp424 : CodePage := ofRows [
  "\x00\x01\x02\x03\x9c\x09\x86\x7f\x97\x8d\x8e\x0b\x0c\x0d\x0e\x0f",
  "\x10\x11\x12\x13\x9d\x85\x08\x87\x18\x19\x92\x8f\x1c\x1d\x1e\x1f",
  "\x80\x81\x82\x83\x84\x0a\x17\x1b\x88\x89\x8a\x8b\x8c\x05\x06\x07",
  "\x90\x91\x16\x93\x94\x95\x96\x04\x98\x99\x9a\x9b\x14\x15\x9e\x1a",
  " אבגדהוזחט¢.<(+|",
  "&יךכלםמןנס!$*);¬",
  "-\x2fעףפץצקרש¦,%_>?",
  "�ת��\xa0���‗\x60:#@\x27=\x22",
  "�abcdefghi«»���±",
  "°jklmnopqr���¸�¤",
  "µ~stuvwxyz�����®",
  "^£¥·©§¶¼½¾[]¯¨´×",
  "\x7bABCDEFGHI\xad�����",
  "\x7dJKLMNOPQR¹�����",
  "\\÷STUVWXYZ²�����",
  "0123456789³����\x9f"]

/-- Latin letters of western Europe. -/
def cp500 : CodePage := cp037.change
  [(0x4a, '['), (0x4f, '!'), (0x5a, ']'), (0x5f, '^'), (0xb0, '¢'), (0xba, '¬'), (0xbb, '|')]

/-- Greek letters. -/
def cp875 : CodePage := ofRows [
  "\x00\x01\x02\x03\x9c\x09\x86\x7f\x97\x8d\x8e\x0b\x0c\x0d\x0e\x0f",
  "\x10\x11\x12\x13\x9d\x85\x08\x87\x18\x19\x92\x8f\x1c\x1d\x1e\x1f",
  "\x80\x81\x82\x83\x84\x0a\x17\x1b\x88\x89\x8a\x8b\x8c\x05\x06\x07",
  "\x90\x91\x16\x93\x94\x95\x96\x04\x98\x99\x9a\x9b\x14\x15\x9e\x1a",
  " ΑΒΓΔΕΖΗΘΙ[.<(+!",
  "&ΚΛΜΝΞΟΠΡΣ]$*);^",
  "-\x2fΤΥΦΧΨΩΪΫ|,%_>?",
  "¨ΆΈΉ\xa0ΊΌΎΏ\x60:#@\x27=\x22",
  "΅abcdefghiαβγδεζ",
  "°jklmnopqrηθικλμ",
  "´~stuvwxyzνξοπρσ",
  "£άέήϊίόύϋώςτυφχψ",
  "\x7bABCDEFGHI\xadωΐΰ‘―",
  "\x7dJKLMNOPQR±½\x1a·’¦",
  "\\\x1aSTUVWXYZ²§\x1a\x1a«¬",
  "0123456789³©\x1a\x1a»\x9f"]

/-- Latin letters of Turkish. -/
def cp1026 : CodePage := ofRows [
  "\x00\x01\x02\x03\x9c\x09\x86\x7f\x97\x8d\x8e\x0b\x0c\x0d\x0e\x0f",
  "\x10\x11\x12\x13\x9d\x85\x08\x87\x18\x19\x92\x8f\x1c\x1d\x1e\x1f",
  "\x80\x81\x82\x83\x84\x0a\x17\x1b\x88\x89\x8a\x8b\x8c\x05\x06\x07",
  "\x90\x91\x16\x93\x94\x95\x96\x04\x98\x99\x9a\x9b\x14\x15\x9e\x1a",
  " \xa0âäàáãå\x7bñÇ.<(+!",
  "&éêëèíîïìßĞİ*);^",
  "-\x2fÂÄÀÁÃÅ[Ñş,%_>?",
  "øÉÊËÈÍÎÏÌı:ÖŞ\x27=Ü",
  "Øabcdefghi«»\x7d\x60¦±",
  "°jklmnopqrªºæ¸Æ¤",
  "µöstuvwxyz¡¿]$@®",
  "¢£¥·©§¶¼½¾¬|¯¨´×",
  "çABCDEFGHI\xadô~òóõ",
  "ğJKLMNOPQR¹û\\ùúÿ",
  "ü÷STUVWXYZ²Ô#ÒÓÕ",
  "0123456789³Û\x22ÙÚ\x9f"]

/-- Latin letters with the euro sign. -/
def cp1140 : CodePage := cp037.change
  [(0x9f, '€')]

end ThriftSchema.CodePage
