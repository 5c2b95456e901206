import WifiNames.Yaml.Fault
import WifiNames.Yaml.Token
import WifiNames.Yaml.Token.Folding

namespace WifiNames.Yaml

/-!
# Plain scalars

A plain scalar goes on until something ends it: a colon before a blank, a number sign after a
blank, an indicator of the surrounding flow collection, or a line that is not indented enough.
-/

/-- Whether a text goes on with an indicator that must not follow a colon in a flow collection. -/
def startsAfterColon : Text → Bool
  | [] => false
  | c :: _ => isFlowIndicator c || c == '?'

/-- Reads on in a plain scalar.  `spaced` tells that a blank or a break came last, and `indent`
    is how far its lines must be indented outside of flow collections. -/
def scanPlain (inFlow : Bool) (indent : Nat) (f : Folding) (spaced : Bool) :
    Text → Mark → Except Fault (Folding × Text × Mark)
  | [], m => .ok (f, [], m)
  | c :: rest, m =>
    if isBreak c then
      scanPlain inFlow indent (f.space c) true rest m.newLine
    else if isBlank c then
      if c == '\t' && f.ended && m.column < indent then .error .tabInIndentation
      else scanPlain inFlow indent (f.space c) true rest (m.pass c)
    else if spaced && ((!inFlow && m.column < indent) || c == '#'
        || (m.column == 0 && startsDocument (c :: rest))) then
      .ok (f, c :: rest, m)
    else if inFlow && c == ':' && startsAfterColon rest then
      .error .strayColon
    else if (c == ':' && startsBlank rest) || (inFlow && isFlowIndicator c) then
      .ok (f, c :: rest, m)
    else
      scanPlain inFlow indent (f.push c) false rest (m.pass c)

end WifiNames.Yaml
