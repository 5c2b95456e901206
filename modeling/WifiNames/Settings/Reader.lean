import WifiNames.Settings
import WifiNames.Yaml.Node
import WifiNames.Yaml.Scalar
import WifiNames.Yaml.Token.Lexer

namespace WifiNames

/-!
# Settings — reading them from YAML

A settings file is a mapping with the sections `converter`, `output` and `global`, which are
mappings themselves.  Sections and fields may be left out, and unknown fields are passed over.

* `Yaml.Document.text`, `.flag`, `.word`, `.fields` — nodes as values of the types in use.
* `Settings.ofDocument` — settings from a document.
* `Settings.parse` — settings from a text.
-/

namespace Yaml.Document

/-! ### Nodes as values -/

/-- A node, or the one that it refers to. -/
def resolve (d : Document) : Node → Node
  | .alias number =>
    match d.anchored.find? (·.1.number == number) with
    | some (_, node) => node
    | none => .missing []
  | node => node

/-- The text of a scalar of any style. -/
def text (d : Document) (node : Node) : Except Fault Text :=
  match d.resolve node with
  | .scalar _ _ text => .ok text
  | _ => .error (.wrongType "text")

/-- The text of a scalar that need not stand for text.  It is plain, or a literal block with the
    tag of its type. -/
def typed? (d : Document) (tag : String) (node : Node) : Option Text :=
  match d.resolve node with
  | .scalar .plain _ text => some text
  | .scalar .literal given text =>
    if given == Utf8.encode ("tag:yaml.org,2002:" ++ tag).toList then some text else none
  | _ => none

/-- A scalar as a boolean. -/
def flag (d : Document) (node : Node) : Except Fault Bool :=
  match (d.typed? "bool" node).bind bool? with
  | some value => .ok value
  | none => .error (.wrongType "a boolean")

/-- A scalar as a 64-bit number. -/
def word (d : Document) (node : Node) : Except Fault UInt64 :=
  match ((d.typed? "int" node).bind natural?).bind Decimal.fit? with
  | some value => .ok value
  | none => .error (.wrongType "a 64-bit number")

/-- The fields of a mapping.  A missing node has none. -/
def fields (d : Document) (node : Node) : Except Fault (List (Text × Node)) :=
  match d.resolve node with
  | .mapping fields => fields.mapM fun (key, value) => do return (← d.text key, value)
  | .scalar .plain _ [] => .ok []
  | _ => .error (.wrongType "a mapping")

/-- What `read` makes of the field `name`, or `absent` if there is no such field. -/
def field {α : Type} (read : Node → Except Fault α) (name : String) (absent : α)
    (fields : List (Text × Node)) : Except Fault α :=
  match fields.filter (·.1 == name.toList) with
  | [] => .ok absent
  | [(_, node)] => read node
  | _ => .error (.repeatedField name)

end Yaml.Document

/-! ### Settings -/

namespace Settings

/-- Settings from a document, with the values of `absent` for what it leaves out. -/
def ofDocument (absent : Settings) (d : Yaml.Document) : Except Yaml.Fault Settings := do
  let top ← match d.root with
    | some node => d.fields node
    | none => pure []
  let converter ← Yaml.Document.field d.fields "converter" [] top
  let output ← Yaml.Document.field d.fields "output" [] top
  let general ← Yaml.Document.field d.fields "global" [] top
  let charset ← Yaml.Document.field d.text "charset" absent.charset.toList converter
  let capacity ← Yaml.Document.field d.word "max_output_len" absent.capacity converter
  let colours ← Yaml.Document.field d.flag "enable_colors" absent.colours output
  let json ← Yaml.Document.field d.flag "json" absent.json output
  let verbose ← Yaml.Document.field d.flag "verbose" absent.verbose general
  let dumpsHistory ← Yaml.Document.field d.flag "debug_history" absent.dumpsHistory general
  return { absent with
    charset := String.ofList charset
    capacity := capacity
    colours := colours
    json := json
    verbose := verbose
    dumpsHistory := dumpsHistory }

/-- Settings from a text, with the values of `absent` for what it leaves out. -/
def parse (absent : Settings) (t : Text) : Except Error Settings :=
  let outcome := do
    let document ← Yaml.Document.ofTokens? (← Yaml.scanTokens t)
    ofDocument absent document
  match outcome with
  | .ok settings => .ok settings
  | .error fault => .error (.yaml ("Failed to parse config file: " ++ fault.message))

end Settings

end WifiNames
