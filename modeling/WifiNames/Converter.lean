import WifiNames.Charset
import WifiNames.Error
import WifiNames.Note
import WifiNames.Text.Hex

namespace WifiNames

/-!
# Converters — from a raw name to UTF-8

* `Transcoder` — anything that turns raw names into UTF-8.
* `Converter` — the transcoder for a charset label, with a bound on its output.
* `Converter.shown` — the text that is kept of a decoded name.
* `Converter.toUtf8With`, `Converter.transcoderWith` — one name converted with the decoders of any
  library, and the converter as a transcoder.
* `Converter.toUtf8`, `Converter.transcoder` — the same with the decoders that are known here.
* `Transcoder.ofTable` — a transcoder that answers from a fixed list.

The converted name is remembered as the display form of the raw one, so malformed input is
rejected rather than patched.
-/

/-- Turns raw names into UTF-8. -/
structure Transcoder where
  /-- The label of the charset that names are read in. -/
  charset : String
  /-- Converts one name. -/
  toUtf8 : Bytes → Noted (Except ConversionError Bytes)

/-- Reads names in the charset with the given label and keeps at most `capacity` bytes. -/
structure Converter where
  charset : String
  capacity : Nat

namespace Converter

/-- The part of a decoded name before its first NUL. -/
def beforeNul (t : Text) : Text :=
  t.takeWhile (· != '\x00')

/-- The part of a decoded name that is kept: up to a NUL and within the capacity. -/
def shown (c : Converter) (t : Text) : Text :=
  Utf8.truncate c.capacity (beforeNul t)

/-- Converts one name with the decoder that `decoder?` has for the label.  A library of encodings knows
    more labels than `Charset` does, so what holds for every label is said of any `decoder?`. -/
def toUtf8With (decoder? : String → Option Decoder) (c : Converter) (raw : Bytes) :
    Noted (Except ConversionError Bytes) :=
  match decoder? c.charset with
  | none => pure (.error (.unavailable c.charset))
  | some decoder =>
    let dump := String.ofList (Hex.spaced raw)
    match decoder.decode? raw with
    | none => do
      Noted.debug (decoder.name ++ " rejected bytes:" ++ dump)
      return .error (.invalidInput c.charset raw.length)
    | some decoded => do
      let full := Utf8.length (beforeNul decoded)
      let text := c.shown decoded
      if Utf8.length text < full then
        Noted.warn ("Converted SSID truncated from " ++ toString full ++ " to "
          ++ toString (Utf8.length text) ++ " bytes")
      Noted.debug (decoder.name ++ " decoded '" ++ String.ofList text ++ "' from bytes:" ++ dump)
      return .ok (Utf8.encode text)

/-- The converter as a transcoder, with the decoders of any library. -/
def transcoderWith (decoder? : String → Option Decoder) (c : Converter) : Transcoder :=
  ⟨c.charset, c.toUtf8With decoder?⟩

/-- Converts one name with the decoders that are known here. -/
def toUtf8 (c : Converter) (raw : Bytes) : Noted (Except ConversionError Bytes) :=
  c.toUtf8With Charset.decoder? raw

/-- The converter as a transcoder, with the decoders that are known here. -/
def transcoder (c : Converter) : Transcoder :=
  c.transcoderWith Charset.decoder?

/-- The converter in use unless something else is asked for. -/
def default : Converter :=
  ⟨"gbk", 512⟩

end Converter

/-- A transcoder that knows the answers for some names and fails on all others.  The first pair
    with a name as its first part counts. -/
def Transcoder.ofTable (charset : String) (table : List (Bytes × Bytes)) (available : Bool) :
    Transcoder where
  charset := charset
  toUtf8 raw :=
    match table.find? (·.1 == raw) with
    | some (_, converted) => pure (.ok converted)
    | none =>
      if available then pure (.error (.invalidInput charset raw.length))
      else pure (.error (.unavailable charset))

end WifiNames
