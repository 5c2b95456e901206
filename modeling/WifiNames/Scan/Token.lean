import WifiNames.Text.Blank
import WifiNames.Text.Hex

namespace WifiNames.Scan

/-!
# Tokens — where a line of scan output holds a name

A name with bytes that cannot be printed shows up as a run of escapes, so a token is recognised
by a *byte escape*: a backslash, `x` and two hex digits.

* `Token` — a stretch of a line.
* `Piece`, `run` — the longest run of characters and escapes without blanks.
* `tokens` — the runs with a byte escape, from left to right.
* `field?` — the last field of a tab-separated line, blanks included.
* `byteEscapes` — where byte escapes begin.
-/

/-- A stretch of a line: where it starts, in bytes, and what it says. -/
structure Token where
  start : Nat
  text : Text
  deriving DecidableEq

/-- Where a token ends, in bytes. -/
def Token.stop (t : Token) : Nat :=
  t.start + Utf8.length t.text

/-- Whether a text begins with a byte escape. -/
def startsByteEscape : Text → Bool
  | '\\' :: 'x' :: h :: l :: _ => Hex.isDigit h && Hex.isDigit l
  | _ => false

/-- Whether a byte escape occurs anywhere in a text. -/
def hasByteEscape : Text → Bool
  | [] => false
  | c :: rest => startsByteEscape (c :: rest) || hasByteEscape rest

/-- Where the byte escapes of a text begin, if the text itself begins at `start`. -/
def byteEscapesFrom (start : Nat) : Text → List Nat
  | [] => []
  | c :: rest =>
    if startsByteEscape (c :: rest) then
      start :: byteEscapesFrom (start + c.utf8Size) rest
    else
      byteEscapesFrom (start + c.utf8Size) rest

/-- Where the byte escapes of a line begin. -/
def byteEscapes (line : Text) : List Nat :=
  byteEscapesFrom 0 line

/-! ### Runs -/

/-- What a run is made of. -/
inductive Piece where
  /-- A character that is neither blank nor a backslash. -/
  | plain (c : Char)
  /-- A backslash and the character after it, which is not a line feed. -/
  | escaped (c : Char)

/-- A piece as it is written. -/
def Piece.text : Piece → Text
  | plain c => [c]
  | escaped c => ['\\', c]

/-- The longest run of pieces that a text begins with, and the rest of the text. -/
def run : Text → List Piece × Text
  | [] => ([], [])
  | c :: rest =>
    if c = '\\' then
      match rest with
      | [] => ([], [c])
      | d :: rest =>
        if d = '\n' then ([], c :: d :: rest)
        else (.escaped d :: (run rest).1, (run rest).2)
    else if Text.isBlank c then
      ([], c :: rest)
    else
      (.plain c :: (run rest).1, (run rest).2)

/-- Whether pieces begin with those of a byte escape. -/
def startsWithByte : List Piece → Bool
  | .escaped 'x' :: .plain h :: .plain l :: _ => Hex.isDigit h && Hex.isDigit l
  | _ => false

/-- Whether the pieces of a byte escape occur among pieces. -/
def hasByte : List Piece → Bool
  | [] => false
  | p :: rest => startsWithByte (p :: rest) || hasByte rest

/-- Pieces as they are written. -/
def textOf (pieces : List Piece) : Text :=
  pieces.flatMap Piece.text

/-- A run and the rest after it make up the text. -/
theorem textOf_run (t : Text) : textOf (run t).1 ++ (run t).2 = t := by
  fun_induction run t <;> simp_all [textOf, Piece.text]

/-- A run with a byte escape is not empty. -/
theorem textOf_ne_nil_of_hasByte {pieces : List Piece} (h : hasByte pieces = true) :
    textOf pieces ≠ [] := by
  cases pieces with
  | nil => simp [hasByte] at h
  | cons p rest => cases p <;> simp [textOf, Piece.text]

/-- The rest after a run with a byte escape is shorter than the text. -/
theorem length_rest_lt {t : Text} (h : hasByte (run t).1 = true) :
    (run t).2.length < t.length := by
  have hpos := List.length_pos_iff.2 (textOf_ne_nil_of_hasByte h)
  have hlen := congrArg List.length (textOf_run t)
  rw [List.length_append] at hlen
  omega

/-! ### Tokens -/

/-- The tokens of a text that begins at `start`.  A token begins at the first place from which
    the longest run has a byte escape, and covers that run; the next one is looked for after it. -/
def tokensFrom (start : Nat) (t : Text) : List Token :=
  match t with
  | [] => []
  | c :: rest =>
    if _h : hasByte (run (c :: rest)).1 = true then
      let token : Token := ⟨start, textOf (run (c :: rest)).1⟩
      token :: tokensFrom token.stop (run (c :: rest)).2
    else
      tokensFrom (start + c.utf8Size) rest
termination_by t.length
decreasing_by
  · exact length_rest_lt _h
  · simp

/-- A run with a byte escape spells one. -/
theorem hasByteEscape_of_hasByte {pieces : List Piece} (rest : Text)
    (h : hasByte pieces = true) : hasByteEscape (textOf pieces ++ rest) = true := by
  induction pieces with
  | nil => simp [hasByte] at h
  | cons p more ih =>
    rw [hasByte, Bool.or_eq_true] at h
    rcases h with h | h
    · unfold startsWithByte at h
      split at h
      · simp_all [textOf, Piece.text, hasByteEscape, startsByteEscape]
      · simp at h
    · cases p <;> simp_all [textOf, Piece.text, hasByteEscape]

/-- A text without a byte escape has no tokens. -/
theorem tokensFrom_eq_nil {start : Nat} {t : Text} (h : hasByteEscape t = false) :
    tokensFrom start t = [] := by
  fun_induction tokensFrom start t with
  | case1 => rfl
  | case2 start c rest hbyte =>
    have := hasByteEscape_of_hasByte (run (c :: rest)).2 hbyte
    rw [textOf_run, h] at this
    simp at this
  | case3 start c rest _ ih =>
    rw [hasByteEscape, Bool.or_eq_false_iff] at h
    exact ih h.2

/-- The tokens of a line.  To look for a byte escape first makes no difference but in time. -/
def tokens (line : Text) : List Token :=
  if hasByteEscape line then tokensFrom 0 line else []

/-- A line is read from its start. -/
theorem tokens_eq (line : Text) : tokens line = tokensFrom 0 line := by
  unfold tokens
  split
  · rfl
  · rename_i h
    rw [Bool.not_eq_true] at h
    rw [tokensFrom_eq_nil h]

/-! ### Fields -/

/-- Splits a text after its last tab. -/
def splitLastTab? : Text → Option (Text × Text)
  | [] => none
  | c :: rest =>
    match splitLastTab? rest with
    | some (before, field) => some (c :: before, field)
    | none => if c = '\t' then some ([c], rest) else none

/-- Whether a character ends a line. -/
def isLineEnd (c : Char) : Bool :=
  c == '\r' || c == '\n'

/-- The name in a line of scan results: the whole last field, if it has a byte escape. -/
def field? (line : Text) : Option Token :=
  match splitLastTab? line with
  | none => none
  | some (before, rest) =>
    let field := Text.dropTrailing isLineEnd rest
    if hasByteEscape field then some ⟨Utf8.length before, field⟩ else none

end WifiNames.Scan
