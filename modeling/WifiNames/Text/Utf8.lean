import WifiNames.Basic

namespace WifiNames.Utf8

/-!
# UTF-8 — text and its bytes

* `encode` — the bytes of a text.
* `scan` — reads bytes as a list of characters and ill-formed parts.
* `decode?` — strict reading: `none` as soon as one part is ill-formed.
* `lossy` — reading for display: U+FFFD for each ill-formed part.
* `length`, `takeBytes`, `dropBytes` — measuring and cutting a text by its bytes.
* `lastBoundary?`, `truncate` — looking for the place to cut, and cutting there.

An ill-formed part is as long as possible while it is still the beginning of some character, and
one byte long otherwise.
-/

/-- The UTF-8 form of a text. -/
def encode (t : Text) : Bytes :=
  t.flatMap String.utf8EncodeChar

/-- Whether a byte can follow a lead byte: `80` to `BF`. -/
def isTail (b : UInt8) : Bool :=
  0x80 ≤ b && b ≤ 0xBF

/-- Whether `b` can be the second byte of a three-byte character led by `a`.  After `E0` the
    overlong forms are left out, and after `ED` the surrogates. -/
def isSecondOfThree (a b : UInt8) : Bool :=
  if a == 0xE0 then 0xA0 ≤ b && b ≤ 0xBF
  else if a == 0xED then 0x80 ≤ b && b ≤ 0x9F
  else isTail b

/-- Whether `b` can be the second byte of a four-byte character led by `a`.  After `F0` the
    overlong forms are left out, and after `F4` what lies above U+10FFFF. -/
def isSecondOfFour (a b : UInt8) : Bool :=
  if a == 0xF0 then 0x90 ≤ b && b ≤ 0xBF
  else if a == 0xF4 then 0x80 ≤ b && b ≤ 0x8F
  else isTail b

/-- The six payload bits of a tail byte. -/
def payload (b : UInt8) : Nat :=
  b.toNat % 64

/-- The character of a two-byte form. -/
def join2 (a b : UInt8) : Char :=
  Char.ofNat (a.toNat % 32 * 64 + payload b)

/-- The character of a three-byte form. -/
def join3 (a b c : UInt8) : Char :=
  Char.ofNat (a.toNat % 16 * 4096 + payload b * 64 + payload c)

/-- The character of a four-byte form. -/
def join4 (a b c d : UInt8) : Char :=
  Char.ofNat (a.toNat % 8 * 262144 + payload b * 4096 + payload c * 64 + payload d)

/-- The characters of a run of bytes, with `none` for each ill-formed part. -/
def scan : Bytes → List (Option Char)
  | [] => []
  | a :: rest =>
    if a < 0x80 then
      some (Char.ofNat a.toNat) :: scan rest
    else if 0xC2 ≤ a && a ≤ 0xDF then
      match rest with
      | [] => [none]
      | b :: rest =>
        if isTail b then some (join2 a b) :: scan rest else none :: scan (b :: rest)
    else if 0xE0 ≤ a && a ≤ 0xEF then
      match rest with
      | [] => [none]
      | b :: rest =>
        if isSecondOfThree a b then
          match rest with
          | [] => [none]
          | c :: rest =>
            if isTail c then some (join3 a b c) :: scan rest else none :: scan (c :: rest)
        else
          none :: scan (b :: rest)
    else if 0xF0 ≤ a && a ≤ 0xF4 then
      match rest with
      | [] => [none]
      | b :: rest =>
        if isSecondOfFour a b then
          match rest with
          | [] => [none]
          | c :: rest =>
            if isTail c then
              match rest with
              | [] => [none]
              | d :: rest =>
                if isTail d then some (join4 a b c d) :: scan rest else none :: scan (d :: rest)
            else
              none :: scan (c :: rest)
        else
          none :: scan (b :: rest)
    else
      none :: scan rest

/-- The text of well-formed UTF-8, `none` for any other bytes. -/
def decode? (b : Bytes) : Option Text :=
  (scan b).mapM id

/-- The text to show for any bytes: each ill-formed part becomes U+FFFD. -/
def lossy (b : Bytes) : Text :=
  (scan b).map (·.getD '\uFFFD')

/-- How many bytes the UTF-8 form of a text has. -/
def length : Text → Nat
  | [] => 0
  | c :: rest => c.utf8Size + length rest

/-- The longest beginning of a text that fits into `n` bytes. -/
def takeBytes : Nat → Text → Text
  | _, [] => []
  | n, c :: rest => if c.utf8Size ≤ n then c :: takeBytes (n - c.utf8Size) rest else []

/-- The text from byte `n` on. -/
def dropBytes : Nat → Text → Text
  | _, [] => []
  | n, c :: rest => if n = 0 then c :: rest else dropBytes (n - c.utf8Size) rest

/-- The text between the bytes `start` and `stop`. -/
def slice (start stop : Nat) (t : Text) : Text :=
  takeBytes (stop - start) (dropBytes start t)

/-- Whether a character of a text begins at byte `n`, or the text ends there. -/
def isBoundary : Text → Nat → Bool
  | _, 0 => true
  | [], _ + 1 => false
  | c :: rest, n + 1 => c.utf8Size ≤ n + 1 && isBoundary rest (n + 1 - c.utf8Size)

/-- The last boundary at or before byte `n`, looked for byte by byte; `none` if the search runs past
    the first byte. -/
def lastBoundary? (t : Text) : Nat → Option Nat
  | 0 => if isBoundary t 0 then some 0 else none
  | n + 1 => if isBoundary t (n + 1) then some (n + 1) else lastBoundary? t n

/-- A text cut to at most `n` bytes, between two characters. -/
def truncate (n : Nat) (t : Text) : Text :=
  if length t ≤ n then t
  else
    match lastBoundary? t n with
    | some stop => takeBytes stop t
    | none => []

end WifiNames.Utf8
