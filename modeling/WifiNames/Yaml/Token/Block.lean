import WifiNames.Yaml.Fault
import WifiNames.Yaml.Token
import WifiNames.Yaml.Character

namespace WifiNames.Yaml

/-!
# Block scalars

A header line is followed by lines that are indented further than what surrounds the scalar.

* `Chomping` — what happens to the line breaks at the end.
* `blockHeader` — reads the header.
* `skipIndentation` — passes empty lines and the indentation of the next one.
* `scanBlock` — reads a whole block scalar after its first indicator.
-/

/-- What happens to the line breaks at the end of a block scalar. -/
inductive Chomping where
  /-- None is kept. -/
  | strip
  /-- The first one is kept. -/
  | clip
  /-- All are kept. -/
  | keep
  deriving DecidableEq

/-- The chomping that an indicator asks for. -/
def chomping? (c : Char) : Option Chomping :=
  if c == '+' then some .keep else if c == '-' then some .strip else none

/-- The indentation that a digit asks for; `0` is refused. -/
def increment (c : Char) : Except Fault Nat :=
  if c == '0' then .error .badBlockHeader else .ok (c.toNat - 0x30)

/-- Reads the chomping indicator and the indentation of a header, in either order, and what
    follows them.  An indentation of zero says that none was given. -/
def indicators (t : Text) : Except Fault (Chomping × Nat × Text) :=
  match t with
  | [] => .ok (.clip, 0, [])
  | c :: rest =>
    match chomping? c with
    | some chomping =>
      match rest with
      | d :: after => do
        if d.isDigit then return (chomping, ← increment d, after)
        else return (chomping, 0, rest)
      | [] => .ok (chomping, 0, [])
    | none => do
      if c.isDigit then
        let n ← increment c
        match rest with
        | d :: after =>
          match chomping? d with
          | some chomping => return (chomping, n, after)
          | none => return (.clip, n, rest)
        | [] => return (.clip, n, [])
      else
        return (.clip, 0, t)

/-- Text without blanks at its beginning. -/
def dropBlanks (t : Text) : Text :=
  t.dropWhile isBlank

/-- Text without a comment at its beginning. -/
def dropComment (t : Text) : Text :=
  match t with
  | '#' :: rest => rest.dropWhile (!isBreak ·)
  | t => t

/-- Reads a header line up to its end. -/
def blockHeader (t : Text) : Except Fault (Chomping × Nat × Text) := do
  let (chomping, increment, rest) ← indicators t
  let rest := dropComment (dropBlanks rest)
  if startsBreak rest then return (chomping, increment, rest) else throw .badBlockHeader

/-- Passes empty lines and the indentation of the next line.  An `indent` of zero stands for an
    indentation that is not known yet; `widest` is the widest one so far. -/
def skipIndentation (indent widest : Nat) (breaks : Text) :
    Text → Mark → Except Fault (Nat × Text × Text × Mark)
  | [], m => .ok (max widest m.column, breaks, [], m)
  | c :: rest, m =>
    let open? := indent == 0 || m.column < indent
    if open? && c == ' ' then
      skipIndentation indent widest breaks rest (m.skip 1)
    else if open? && c == '\t' then
      .error .tabInIndentation
    else if isBreak c then
      skipIndentation indent (max widest m.column) (breaks ++ [c]) rest m.newLine
    else
      .ok (max widest m.column, breaks, c :: rest, m)

/-- What has been read of a block scalar. -/
structure BlockText where
  /-- The text, last character first. -/
  reversed : Text
  /-- The break after the last line. -/
  lineEnd : Text
  /-- The breaks of the empty lines after that. -/
  breaks : Text
  /-- Whether the last line began with a blank. -/
  indented : Bool

/-- The text with one more line.  Unless `literal`, the break between two lines that do not begin
    with a blank is folded. -/
def BlockText.addLine (b : BlockText) (literal : Bool) (line lineEnd breaks : Text) : BlockText :=
  let indented := match line with
    | c :: _ => isBlank c
    | [] => false
  let gap :=
    if !literal && b.lineEnd.head? == some '\n' && !b.indented && !indented then
      if b.breaks.isEmpty then [' '] else b.breaks
    else
      b.lineEnd ++ b.breaks
  ⟨line.reverse ++ gap.reverse ++ b.reversed, lineEnd, breaks, indented⟩

/-- Reads the lines of a block scalar.  There are fewer of them than `fuel`. -/
def scanLines (literal : Bool) (indent : Nat) (b : BlockText) (fuel : Nat) (t : Text) (m : Mark) :
    Except Fault (BlockText × Text × Mark) :=
  match fuel with
  | 0 => .ok (b, t, m)
  | fuel + 1 =>
    if m.column == indent && !t.isEmpty then
      let line := t.takeWhile (!isBreak ·)
      match t.dropWhile (!isBreak ·) with
      | [] => .ok (b.addLine literal line [] [], [], m.passAll line)
      | c :: rest => do
        let (_, breaks, rest, m) ←
          skipIndentation indent 0 [] rest (m.passAll line).newLine
        scanLines literal indent (b.addLine literal line [c] breaks) fuel rest m
    else
      .ok (b, t, m)

/-- Reads a block scalar after its first indicator.  `outer` is the indentation of what surrounds
    it, and negative at the top. -/
def scanBlock (literal : Bool) (outer : Int) (t : Text) (m : Mark) :
    Except Fault (Text × Text × Mark) := do
  let (chomping, increment, rest) ← blockHeader t
  let m := m.passAll (t.take (t.length - rest.length))
  let (rest, m) := match rest with
    | [] => ([], m)
    | _ :: rest => (rest, m.newLine)
  let given := if increment = 0 then 0 else (max outer 0).toNat + increment
  let (widest, breaks, rest, m) ← skipIndentation given 0 [] rest m
  let indent := if given = 0 then max (max widest (outer + 1).toNat) 1 else given
  let (b, rest, m) ← scanLines literal indent ⟨[], [], breaks, false⟩ (rest.length + 1) rest m
  let tail := match chomping with
    | .strip => []
    | .clip => b.lineEnd
    | .keep => b.lineEnd ++ b.breaks
  return (b.reversed.reverse ++ tail, rest, m)

end WifiNames.Yaml
