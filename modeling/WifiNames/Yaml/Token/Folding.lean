import WifiNames.Yaml.Character

namespace WifiNames.Yaml

/-!
# Folding — scalars over several lines

In plain and quoted scalars a single line break reads as a space, and of several breaks all but
the first one are kept.

* `Folding` — the text read so far, and the blanks and breaks after it.
* `Folding.space`, `Folding.push` — one more blank or break, one more character.
-/

/-- The text read so far, and what follows it until the next character that counts. -/
structure Folding where
  /-- The text, last character first. -/
  reversed : Text
  /-- Blanks after the text, within its line. -/
  blanks : Text
  /-- The first line break after the text. -/
  break? : Option Char
  /-- The line breaks after that one. -/
  more : Text
  /-- Whether the line of the text has ended. -/
  ended : Bool

namespace Folding

/-- Nothing read so far. -/
def empty : Folding :=
  ⟨[], [], none, [], false⟩

/-- The text with what follows it, folded. -/
def join (f : Folding) : Folding :=
  let gap :=
    if f.ended then
      match f.break? with
      | some '\n' => if f.more.isEmpty then [' '] else f.more
      | some c => c :: f.more
      | none => f.more
    else
      f.blanks
  ⟨gap.reverse ++ f.reversed, [], none, [], false⟩

/-- One more character that counts. -/
def push (f : Folding) (c : Char) : Folding :=
  { f.join with reversed := c :: f.join.reversed }

/-- One more blank or break.  Blanks at the beginning of a line do not count. -/
def space (f : Folding) (c : Char) : Folding :=
  if isBreak c then
    if f.ended then { f with more := f.more ++ [c] }
    else { f with blanks := [], break? := some c, ended := true }
  else if f.ended then
    f
  else
    { f with blanks := f.blanks ++ [c] }

/-- The line ends here, and its break does not count. -/
def escapeBreak (f : Folding) : Folding :=
  { f with ended := true }

/-- The text without what follows it. -/
def text (f : Folding) : Text :=
  f.reversed.reverse

end Folding

end WifiNames.Yaml
