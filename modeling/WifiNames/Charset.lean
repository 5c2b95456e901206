import WifiNames.Charset.Gb18030
import WifiNames.Charset.Utf16
import WifiNames.Charset.Windows1252
import WifiNames.Text.Blank
import WifiNames.Text.Utf8

namespace WifiNames

/-!
# Charsets — the encodings a name can be read in

* `Charset` — the encodings that are known.
* `Charset.name` — the canonical name, as diagnostics show it.
* `Charset.ofLabel?` — finds a charset by any of its labels.
* `Charset.decode?` — strict reading of a whole input.
* `Decoder`, `Charset.decoder?` — what there is to know of an encoding in order to read names in it,
  and what a label stands for.

These are some of the encodings that a library knows: the two that names of this kind come in, and
those of plain text.  What is said of every label takes the library as a parameter
(`Converter.toUtf8With`), with `Charset.decoder?` as one of its values.
-/

/-- An encoding that names can be read in. -/
inductive Charset where
  | gbk
  | gb18030
  | utf8
  | utf16le
  | utf16be
  | windows1252
  /-- Stands in for encodings that are unsafe to read: any input but the empty one is malformed. -/
  | replacement

namespace Charset

/-- All charsets. -/
def all : List Charset :=
  [gbk, gb18030, utf8, utf16le, utf16be, windows1252, replacement]

/-- The canonical name. -/
def name : Charset → String
  | gbk => "GBK"
  | gb18030 => "gb18030"
  | utf8 => "UTF-8"
  | utf16le => "UTF-16LE"
  | utf16be => "UTF-16BE"
  | windows1252 => "windows-1252"
  | replacement => "replacement"

/-- The labels of a charset, in lowercase. -/
def labels : Charset → List String
  | gbk =>
    ["chinese", "csgb2312", "csiso58gb231280", "gb2312", "gb_2312", "gb_2312-80", "gbk",
      "iso-ir-58", "x-gbk"]
  | gb18030 => ["gb18030"]
  | utf8 =>
    ["unicode-1-1-utf-8", "unicode11utf8", "unicode20utf8", "utf-8", "utf8", "x-unicode20utf8"]
  | utf16le =>
    ["csunicode", "iso-10646-ucs-2", "ucs-2", "unicode", "unicodefeff", "utf-16", "utf-16le"]
  | utf16be => ["unicodefffe", "utf-16be"]
  | windows1252 =>
    ["ansi_x3.4-1968", "ascii", "cp1252", "cp819", "csisolatin1", "ibm819", "iso-8859-1",
      "iso-ir-100", "iso8859-1", "iso88591", "iso_8859-1", "iso_8859-1:1987", "l1", "latin1",
      "us-ascii", "windows-1252", "x-cp1252"]
  | replacement =>
    ["csiso2022kr", "hz-gb-2312", "iso-2022-cn", "iso-2022-cn-ext", "iso-2022-kr", "replacement"]

/-- Whether a character may surround a label: tab, line feed, form feed, carriage return, space. -/
def isLabelBlank (c : Char) : Bool :=
  c == '\t' || c == '\n' || c == '\x0C' || c == '\r' || c == ' '

/-- A label without blanks around it and with its ASCII letters in lowercase. -/
def normalLabel (label : String) : Text :=
  (Text.trimWhere isLabelBlank label.toList).map Char.toLower

/-- The charset that a label names, if it is one of those known here. -/
def ofLabel? (label : String) : Option Charset :=
  all.find? fun charset => charset.labels.any (·.toList == normalLabel label)

/-- Reads a whole input; `none` if any part of it is malformed. -/
def decode? : Charset → Bytes → Option Text
  | gbk, b | gb18030, b => Gb18030.decode? b
  | utf8, b => Utf8.decode? b
  | utf16le, b => Utf16.decode? .littleEndian b
  | utf16be, b => Utf16.decode? .bigEndian b
  | windows1252, b => some (Windows1252.decode b)
  | replacement, b => if b.isEmpty then some [] else none

end Charset

/-- An encoding, as far as its name and its reading go. -/
structure Decoder where
  /-- The canonical name. -/
  name : String
  /-- Reads a whole input; `none` if any part of it is malformed. -/
  decode? : Bytes → Option Text

namespace Charset

/-- The decoder of a charset. -/
def decoder (charset : Charset) : Decoder :=
  ⟨charset.name, charset.decode?⟩

/-- The decoder that a label stands for. -/
def decoder? (label : String) : Option Decoder :=
  (ofLabel? label).map decoder

end Charset

end WifiNames
