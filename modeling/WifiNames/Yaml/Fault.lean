namespace WifiNames.Yaml

/-!
# Faults — what is wrong with a YAML text

* `Fault` — the ways in which a text, its tokens or its values can be wrong.
* `Fault.message` — the wording.
-/

/-- What is wrong with a YAML text. -/
inductive Fault where
  | controlCharacter
  | strayCharacter
  | strayColon
  | missingColon
  | misplacedEntry
  | misplacedKey
  | misplacedValue
  | tabInIndentation
  | badDirective
  | badVersion
  | repeatedDirective
  | badAnchor
  | badTag
  | unknownHandle
  | unknownAnchor
  | badEscape
  | badBlockHeader
  | documentInQuotes
  | unclosedQuotes
  | unexpectedToken
  | severalDocuments
  | wrongType (expected : String)
  | repeatedField (name : String)

/-- The wording of a fault. -/
def Fault.message : Fault → String
  | controlCharacter => "control characters are not allowed"
  | strayCharacter => "found character that cannot start any token"
  | strayColon => "found unexpected ':' in a plain scalar"
  | missingColon => "could not find expected ':' after a simple key"
  | misplacedEntry => "block sequence entries are not allowed in this context"
  | misplacedKey => "mapping keys are not allowed in this context"
  | misplacedValue => "mapping values are not allowed in this context"
  | tabInIndentation => "found a tab character where an indentation space is expected"
  | badDirective => "found a malformed or unknown directive"
  | badVersion => "found incompatible YAML document"
  | repeatedDirective => "found duplicate directive"
  | badAnchor => "did not find expected alphabetic or numeric character in an anchor"
  | badTag => "found a malformed tag"
  | unknownHandle => "found undefined tag handle"
  | unknownAnchor => "found undefined anchor"
  | badEscape => "found unknown escape character"
  | badBlockHeader => "found a malformed block scalar header"
  | documentInQuotes => "found unexpected document indicator in a quoted scalar"
  | unclosedQuotes => "found unexpected end of stream in a quoted scalar"
  | unexpectedToken => "did not find expected node content"
  | severalDocuments => "found more than one document"
  | wrongType expected => "invalid type, expected " ++ expected
  | repeatedField name => "duplicate field " ++ name

end WifiNames.Yaml
