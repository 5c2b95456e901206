import WifiNames.Basic

namespace WifiNames.Text

/-!
# Blanks — white space in text

Two sets of blanks are in use: the characters with the Unicode property `White_Space`, which
separate words, and the five ASCII blanks that may be written between hex digits.

* `isBlank`, `isAsciiBlank` — the two sets.
* `trim`, `dropTrailing` — text without blanks at its ends.
* `words` — the runs of characters between blanks.
-/

/-- The characters with the Unicode property `White_Space`. -/
def isBlank (c : Char) : Bool :=
  let n := c.toNat
  (0x09 ≤ n && n ≤ 0x0D) || n == 0x20 || n == 0x85 || n == 0xA0 || n == 0x1680
    || (0x2000 ≤ n && n ≤ 0x200A) || n == 0x2028 || n == 0x2029 || n == 0x202F
    || n == 0x205F || n == 0x3000

/-- Space, tab, line feed, form feed and carriage return. -/
def isAsciiBlank (b : UInt8) : Bool :=
  b == 0x20 || b == 0x09 || b == 0x0A || b == 0x0C || b == 0x0D

/-- `t` without the longest run of characters satisfying `p` at its end. -/
def dropTrailing (p : Char → Bool) : Text → Text
  | [] => []
  | c :: rest =>
    match dropTrailing p rest with
    | [] => if p c then [] else [c]
    | kept => c :: kept

/-- `t` without the characters satisfying `p` at either end. -/
def trimWhere (p : Char → Bool) (t : Text) : Text :=
  dropTrailing p (t.dropWhile p)

/-- `t` without blanks at either end. -/
def trim (t : Text) : Text :=
  trimWhere isBlank t

/-- The maximal runs of characters that are not blank, in order. -/
def words : Text → List Text
  | [] => []
  | c :: rest =>
    if isBlank c then
      words rest
    else
      match rest, words rest with
      | d :: _, w :: ws => if isBlank d then [c] :: w :: ws else (c :: w) :: ws
      | _, ws => [c] :: ws

end WifiNames.Text
