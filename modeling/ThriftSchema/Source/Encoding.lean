import ThriftSchema.Source.Encoding.Escaped
import ThriftSchema.Source.Encoding.Iso2022
import ThriftSchema.Source.Encoding.Punycode
import ThriftSchema.Source.Encoding.Utf7
import ThriftSchema.Source.Encoding.Utf8
import ThriftSchema.Source.Encoding.Utf16

set_option autoImplicit false

/-! # Encodings

* `Encoding`: the encodings.
* `Encoding.decode`: the text of bytes.
-/

namespace ThriftSchema

/-- The encodings in which bytes from `80` up come in pairs. -/
inductive PairEncoding where
  | gb2312
  | gbk
  | big5
  | cp950
  | hongKong
  | cp949
  | johab
deriving DecidableEq, Repr

/-- How bytes stand for characters. -/
inductive Encoding where
  | ascii
  | latin1
  | codePage (page : CodePage)
  | utf7
  | utf8
  /-- UTF-8 behind a mark that may be missing. -/
  | utf8Marked
  /-- UTF-16 in an order of bytes, or behind a mark that tells it. -/
  | utf16 (order : Option ByteOrder)
  /-- UTF-32 in an order of bytes, or behind a mark that tells it. -/
  | utf32 (order : Option ByteOrder)
  | escaped
  | rawEscaped
  | punycode
  | host
  | pairs (encoding : PairEncoding)
  | gb18030
  | hz
  | eucKr
  | shiftJis
  | cp932
  | shiftJis0213 (edition : Edition)
  | eucJp
  | eucJis0213 (edition : Edition)
  | iso2022 (profile : Profile)
  /-- The encoding in which nothing is text. -/
  | never
deriving DecidableEq, Repr

/-- The name of an encoding of pairs, and the text of two bytes. -/
def PairEncoding.text? : PairEncoding → String × (UInt8 → UInt8 → Option (List Char))
  | gb2312 => ("gb2312", gb2312Pair?)
  | gbk => ("gbk", gbkPair?)
  | big5 => ("big5", big5Pair?)
  | cp950 => ("cp950", cp950Pair?)
  | hongKong => ("big5hkscs", hongKongPair?)
  | cp949 => ("cp949", cp949Pair?)
  | johab => ("johab", johabPair?)

/-- The text of bytes in an encoding of pairs. -/
def PairEncoding.decode (encoding : PairEncoding) (bytes : Bytes) :
    Except DecodeError (List Char) :=
  let (codec, text?) := encoding.text?
  decodeSteps codec (pairStep text?) () bytes

/-- The ending of the name of an encoding with JIS X 0213. -/
def Edition.ending : Edition → String
  | first => "x0213"
  | second => "_2004"

/-- The characters of bytes in an encoding. -/
def Encoding.decode (encoding : Encoding) (bytes : Bytes) : Except EncodingError (List Char) :=
  let read (result : Except DecodeError (List Char)) := result.mapError EncodingError.undecodable
  match encoding with
  | ascii => read (decodeAscii bytes)
  | latin1 => .ok (bytes.map byteChar)
  | codePage page => read (page.decode bytes)
  | utf7 => read (decodeUtf7 bytes)
  | utf8 => read (decodeUtf8 bytes)
  | utf8Marked => read (decodeUtf8Marked bytes)
  | utf16 none => decodeUtf16Marked bytes
  | utf16 (some order) => read (decodeUtf16 order bytes 0)
  | utf32 none => decodeUtf32Marked bytes
  | utf32 (some order) => read (decodeUtf32 order bytes 0)
  | escaped => read (decodeEscaped bytes)
  | rawEscaped => read (decodeRawEscaped bytes)
  | punycode => Punycode.decode bytes
  | host => decodeHost bytes
  | pairs encoding => read (encoding.decode bytes)
  | gb18030 => read (decodeSteps "gb18030" gb18030Step () bytes)
  | hz => read (decodeSteps "hz" hzStep false bytes)
  | eucKr => read (decodeSteps "euc_kr" eucKrStep () bytes)
  | shiftJis => read (decodeSteps "shift_jis" shiftJisStep () bytes)
  | cp932 => read (decodeSteps "cp932" cp932Step () bytes)
  | shiftJis0213 edition =>
    read (decodeSteps ("shift_jis" ++ edition.ending) (shiftJis0213Step edition) () bytes)
  | eucJp => read (decodeSteps "euc_jp" eucJpStep () bytes)
  | eucJis0213 edition =>
    read (decodeSteps ("euc_jis" ++ edition.ending) (eucJis0213Step edition) () bytes)
  | iso2022 profile => read (decodeSteps profile.codec (iso2022Step profile) .start bytes)
  | never => .error .never

end ThriftSchema
