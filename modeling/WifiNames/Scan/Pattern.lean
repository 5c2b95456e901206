import WifiNames.Scan.Token

namespace WifiNames.Scan

/-!
# Patterns — regular expressions and what they find

A regular expression can match at one place in several ways, and one of them is preferred: the left
side of a choice goes before the right one, and a repetition goes on as long as it can and gives
back only what the rest of the expression needs.

* `Pattern` — regular expressions.
* `Pattern.rests` — what each way to match leaves of a text, the preferred way first.
* `findAll` — the matches in a line, from left to right.
* `byteEscapePattern`, `tokenPattern` — the expressions for a byte escape and for a token.
-/

/-- Regular expressions. -/
inductive Pattern where
  /-- A character of some class. -/
  | one (holds : Char → Bool)
  /-- One expression and then another. -/
  | seq (first second : Pattern)
  /-- One expression, or another where the first one leads to no match. -/
  | alt (preferred other : Pattern)
  /-- An expression as often as possible. -/
  | star (body : Pattern)

namespace Pattern

/-- What is left of a text after some rounds, if `body` says what one round leaves.  More rounds go
    before fewer, and a round takes at least one character. -/
def restsOfStar (body : Text → List Text) (t : Text) : List Text :=
  ((body t).flatMap fun rest =>
    if _h : rest.length < t.length then restsOfStar body rest else []) ++ [t]
termination_by t.length

/-- What is left of a text after a match at its start, for each way to match. -/
def rests : Pattern → Text → List Text
  | one _, [] => []
  | one holds, c :: rest => if holds c then [rest] else []
  | seq first second, t => (first.rests t).flatMap second.rests
  | alt preferred other, t => preferred.rests t ++ other.rests t
  | star body, t => restsOfStar body.rests t

/-- What the preferred match at the start of a text leaves of it. -/
def rest? (p : Pattern) (t : Text) : Option Text :=
  (p.rests t).head?

end Pattern

/-! ### Finding -/

/-- The matches in a text that begins at `start`, of a pattern that matches no empty text: the
    preferred one at the first place where there is any, and then on behind it. -/
def findAllFrom (p : Pattern) (start : Nat) (t : Text) : List Token :=
  match t with
  | [] => []
  | c :: rest =>
    match p.rest? (c :: rest) with
    | none => findAllFrom p (start + c.utf8Size) rest
    | some after =>
      if _h : after.length < (c :: rest).length then
        let token : Token := ⟨start, (c :: rest).take ((c :: rest).length - after.length)⟩
        token :: findAllFrom p token.stop after
      else
        findAllFrom p (start + c.utf8Size) rest
termination_by t.length
decreasing_by
  · simp
  · exact _h
  · simp

/-- The matches in a line. -/
def findAll (p : Pattern) (line : Text) : List Token :=
  findAllFrom p 0 line

/-! ### The two patterns of the scan -/

open Pattern

/-- A backslash, `\\`. -/
def backslash : Pattern :=
  one (· == '\\')

/-- A hex digit of either case, `[0-9a-fA-F]`. -/
def hexDigit : Pattern :=
  one fun c => ('0' ≤ c && c ≤ '9') || ('a' ≤ c && c ≤ 'f') || ('A' ≤ c && c ≤ 'F')

/-- A byte escape, `\\x[0-9a-fA-F]{2}`. -/
def byteEscapePattern : Pattern :=
  seq backslash (seq (one (· == 'x')) (seq hexDigit hexDigit))

/-- A piece of a run, `[^\s\\]|\\.`. -/
def unitPattern : Pattern :=
  alt (one fun c => !Text.isBlank c && c != '\\') (seq backslash (one (· != '\n')))

/-- A token, `(?:[^\s\\]|\\.)*\\x[0-9a-fA-F]{2}(?:[^\s\\]|\\.)*`. -/
def tokenPattern : Pattern :=
  seq (star unitPattern) (seq byteEscapePattern (star unitPattern))

end WifiNames.Scan
