import WifiNames.Text.Utf8
import WifiNames.Yaml.Fault
import WifiNames.Yaml.Token

namespace WifiNames.Yaml

/-!
# Nodes — what the tokens of a document describe

* `Node` — scalars, sequences and mappings, and references to named nodes.
* `Document` — a node with the nodes that have names.
* `Document.ofTokens?` — reads the tokens of a text with one document at most.
-/

/-- A value of a document. -/
inductive Node where
  | scalar (style : ScalarStyle) (tag : Bytes) (text : Text)
  | sequence (items : List Node)
  | mapping (fields : List (Node × Node))
  /-- The node whose anchor has the given number. -/
  | alias (number : Nat)

/-- The scalar that stands for a missing node. -/
def Node.missing (tag : Bytes) : Node :=
  .scalar .plain tag []

/-- What a node with an anchor is known by. -/
structure Label where
  /-- The number of its anchor.  Nodes whose anchors were named anew may share one. -/
  number : Nat
  /-- How many nodes with an anchor began before it. -/
  place : Nat

/-- A document: its node, if there is any, and the nodes with an anchor.  Of those that share a
    number, the one that begins last stands first. -/
structure Document where
  root : Option Node
  anchored : List (Label × Node)

/-! ### Reading tokens -/

/-- What is declared in a document so far. -/
structure Scope where
  /-- Tag handles with their expansions. -/
  handles : List (Text × Bytes)
  /-- The anchors, each with the number that it has by now. -/
  names : List (Text × Nat)
  /-- How many nodes with an anchor have begun. -/
  begun : Nat
  /-- The nodes with an anchor that are complete. -/
  anchored : List (Label × Node)

namespace Scope

/-- The handles that every document knows. -/
def standardHandles : List (Text × Bytes) :=
  [("!".toList, Utf8.encode "!".toList), ("!!".toList, Utf8.encode "tag:yaml.org,2002:".toList)]

/-- Gives an anchor to the next node.  Its number is the number of anchors so far, and an anchor
    that is given again does not count twice: the next new one gets the same number then. -/
def name (s : Scope) (anchor : Option Text) : Option Label × Scope :=
  match anchor with
  | none => (none, s)
  | some anchor =>
    let number := s.names.length
    (some ⟨number, s.begun⟩,
      { s with
        names := (anchor, number) :: s.names.filter (·.1 != anchor)
        begun := s.begun + 1 })

/-- Keeps a complete node, unless one that began later has its number. -/
def keep (s : Scope) (label : Option Label) (node : Node) : Scope :=
  match label with
  | none => s
  | some label =>
    if s.anchored.any fun (other, _) => other.number == label.number && label.place < other.place
    then s
    else { s with anchored := (label, node) :: s.anchored }

/-- The full form of a tag. -/
def tag? (s : Scope) (handle : Text) (suffix : Bytes) : Except Fault Bytes :=
  if handle.isEmpty then .ok suffix
  else
    match s.handles.find? (·.1 == handle) with
    | some (_, expansion) => .ok (expansion ++ suffix)
    | none => .error .unknownHandle

end Scope

/-- What stands before a node: an anchor and a tag, in either order. -/
structure Properties where
  anchor : Option Text
  tag : Option Bytes

/-- Whether there is any property. -/
def Properties.any (p : Properties) : Bool :=
  p.anchor.isSome || p.tag.isSome

/-- The tag, or an empty one. -/
def Properties.tagBytes (p : Properties) : Bytes :=
  p.tag.getD []

/-- Reads the properties of a node. -/
def readProperties (s : Scope) : List Token → Except Fault (Properties × List Token)
  | .anchor name :: .tag handle suffix :: rest => do
    return (⟨some name, some (← s.tag? handle suffix)⟩, rest)
  | .tag handle suffix :: .anchor name :: rest => do
    return (⟨some name, some (← s.tag? handle suffix)⟩, rest)
  | .anchor name :: rest => .ok (⟨some name, none⟩, rest)
  | .tag handle suffix :: rest => do return (⟨none, some (← s.tag? handle suffix)⟩, rest)
  | tokens => .ok (⟨none, none⟩, tokens)

/-- Whether no node stands here but the next part of a block. -/
def endsBlockNode : List Token → Bool
  | .key :: _ | .value :: _ | .blockEnd :: _ => true
  | _ => false

/-- Whether no node stands here but the next part of a block sequence. -/
def endsBlockEntry : List Token → Bool
  | .blockEntry :: _ | .blockEnd :: _ => true
  | _ => false

/-- Whether no node stands here but the next part of a sequence without an indentation. -/
def endsPlainEntry : List Token → Bool
  | .blockEntry :: _ => true
  | tokens => endsBlockNode tokens

/-- Whether no node stands here but the next part of a flow mapping. -/
def endsFlowNode : List Token → Bool
  | .value :: _ | .flowEntry :: _ | .flowMappingEnd :: _ => true
  | _ => false

/-- Whether no node stands here but the next part of a flow sequence. -/
def endsFlowItem : List Token → Bool
  | .value :: _ | .flowEntry :: _ | .flowSequenceEnd :: _ => true
  | _ => false

mutual

/-- Reads a node.  `block` allows block collections, and `unindented` a sequence whose entries
    stand at the indentation of the mapping around it.  Each level of `fuel` is a step deeper or
    further; the number of tokens is enough. -/
def readNode (fuel : Nat) (block unindented : Bool) (s : Scope) (tokens : List Token) :
    Except Fault (Node × Scope × List Token) :=
  match fuel with
  | 0 => .error .unexpectedToken
  | fuel + 1 =>
    match tokens with
    | .alias name :: rest =>
      match s.names.find? (·.1 == name) with
      | some (_, number) => .ok (.alias number, s, rest)
      | none => .error .unknownAnchor
    | _ => do
      let (p, tokens) ← readProperties s tokens
      let (label, s) := s.name p.anchor
      let (node, s, rest) ← readContent fuel block unindented p s tokens
      return (node, s.keep label node, rest)

/-- Reads a node after its properties. -/
def readContent (fuel : Nat) (block unindented : Bool) (p : Properties) (s : Scope)
    (tokens : List Token) :
    Except Fault (Node × Scope × List Token) :=
  match fuel with
  | 0 => .error .unexpectedToken
  | fuel + 1 =>
    match tokens with
    | .blockEntry :: _ =>
      if unindented then do
        let (items, s, rest) ← readPlainEntries fuel s tokens
        return (.sequence items, s, rest)
      else if p.any then
        .ok (.missing p.tagBytes, s, tokens)
      else
        .error .unexpectedToken
    | .scalar style text :: rest => .ok (.scalar style p.tagBytes text, s, rest)
    | .flowSequenceStart :: rest => do
      let (items, s, rest) ← readFlowItems fuel true s rest
      return (.sequence items, s, rest)
    | .flowMappingStart :: rest => do
      let (fields, s, rest) ← readFlowFields fuel true s rest
      return (.mapping fields, s, rest)
    | .blockSequenceStart :: rest =>
      if block then do
        let (items, s, rest) ← readBlockEntries fuel s rest
        return (.sequence items, s, rest)
      else if p.any then
        .ok (.missing p.tagBytes, s, tokens)
      else
        .error .unexpectedToken
    | .blockMappingStart :: rest =>
      if block then do
        let (fields, s, rest) ← readBlockFields fuel s rest
        return (.mapping fields, s, rest)
      else if p.any then
        .ok (.missing p.tagBytes, s, tokens)
      else
        .error .unexpectedToken
    | _ => if p.any then .ok (.missing p.tagBytes, s, tokens) else .error .unexpectedToken

/-- Reads the entries of a block sequence, and its end. -/
def readBlockEntries (fuel : Nat) (s : Scope) (tokens : List Token) :
    Except Fault (List Node × Scope × List Token) :=
  match fuel with
  | 0 => .error .unexpectedToken
  | fuel + 1 =>
    match tokens with
    | .blockEnd :: rest => .ok ([], s, rest)
    | .blockEntry :: rest => do
      let (item, s, rest) ←
        if endsBlockEntry rest then pure (.missing [], s, rest)
        else readNode fuel true false s rest
      let (items, s, rest) ← readBlockEntries fuel s rest
      return (item :: items, s, rest)
    | _ => .error .unexpectedToken

/-- Reads the entries of a sequence without an indentation of its own. -/
def readPlainEntries (fuel : Nat) (s : Scope) (tokens : List Token) :
    Except Fault (List Node × Scope × List Token) :=
  match fuel with
  | 0 => .error .unexpectedToken
  | fuel + 1 =>
    match tokens with
    | .blockEntry :: rest => do
      let (item, s, rest) ←
        if endsPlainEntry rest then pure (.missing [], s, rest)
        else readNode fuel true false s rest
      let (items, s, rest) ← readPlainEntries fuel s rest
      return (item :: items, s, rest)
    | _ => .ok ([], s, tokens)

/-- Reads the fields of a block mapping, and its end. -/
def readBlockFields (fuel : Nat) (s : Scope) (tokens : List Token) :
    Except Fault (List (Node × Node) × Scope × List Token) :=
  match fuel with
  | 0 => .error .unexpectedToken
  | fuel + 1 =>
    match tokens with
    | .blockEnd :: rest => .ok ([], s, rest)
    | .key :: rest => do
      let (key, s, rest) ←
        if endsBlockNode rest then pure (.missing [], s, rest)
        else readNode fuel true true s rest
      let (value, s, rest) ← readBlockValue fuel s rest
      let (fields, s, rest) ← readBlockFields fuel s rest
      return ((key, value) :: fields, s, rest)
    | _ => .error .unexpectedToken

/-- Reads the value of a field in a block mapping; it may be missing. -/
def readBlockValue (fuel : Nat) (s : Scope) (tokens : List Token) :
    Except Fault (Node × Scope × List Token) :=
  match fuel with
  | 0 => .error .unexpectedToken
  | fuel + 1 =>
    match tokens with
    | .value :: rest =>
      if endsBlockNode rest then .ok (.missing [], s, rest)
      else readNode fuel true true s rest
    | _ => .ok (.missing [], s, tokens)

/-- Reads the items of a flow sequence, and its end. -/
def readFlowItems (fuel : Nat) (first : Bool) (s : Scope) (tokens : List Token) :
    Except Fault (List Node × Scope × List Token) :=
  match fuel with
  | 0 => .error .unexpectedToken
  | fuel + 1 => do
    match tokens with
    | .flowSequenceEnd :: rest => return ([], s, rest)
    | _ =>
      let tokens ← if first then pure tokens else readComma tokens
      match tokens with
      | .flowSequenceEnd :: rest => return ([], s, rest)
      | .key :: rest =>
        let (key, s, rest) ←
          if endsFlowItem rest then pure (.missing [], s, rest.drop 1)
          else readNode fuel false false s rest
        let (value, s, rest) ← readPairValue fuel s rest
        let (items, s, rest) ← readFlowItems fuel false s rest
        return (.mapping [(key, value)] :: items, s, rest)
      | _ =>
        let (item, s, rest) ← readNode fuel false false s tokens
        let (items, s, rest) ← readFlowItems fuel false s rest
        return (item :: items, s, rest)

/-- Reads the value of a single field that is an item of a flow sequence; it may be missing. -/
def readPairValue (fuel : Nat) (s : Scope) (tokens : List Token) :
    Except Fault (Node × Scope × List Token) :=
  match fuel with
  | 0 => .error .unexpectedToken
  | fuel + 1 =>
    match tokens with
    | .value :: rest =>
      match rest with
      | .flowEntry :: _ | .flowSequenceEnd :: _ => .ok (.missing [], s, rest)
      | _ => readNode fuel false false s rest
    | _ => .ok (.missing [], s, tokens)

/-- Reads the fields of a flow mapping, and its end. -/
def readFlowFields (fuel : Nat) (first : Bool) (s : Scope) (tokens : List Token) :
    Except Fault (List (Node × Node) × Scope × List Token) :=
  match fuel with
  | 0 => .error .unexpectedToken
  | fuel + 1 => do
    match tokens with
    | .flowMappingEnd :: rest => return ([], s, rest)
    | _ =>
      let tokens ← if first then pure tokens else readComma tokens
      match tokens with
      | .flowMappingEnd :: rest => return ([], s, rest)
      | .key :: rest =>
        let (key, s, rest) ←
          if endsFlowNode rest then pure (.missing [], s, rest)
          else readNode fuel false false s rest
        let (value, s, rest) ← readFlowValue fuel s rest
        let (fields, s, rest) ← readFlowFields fuel false s rest
        return ((key, value) :: fields, s, rest)
      | _ =>
        let (key, s, rest) ← readNode fuel false false s tokens
        let (fields, s, rest) ← readFlowFields fuel false s rest
        return ((key, .missing []) :: fields, s, rest)

/-- Reads the value of a field in a flow mapping; it may be missing. -/
def readFlowValue (fuel : Nat) (s : Scope) (tokens : List Token) :
    Except Fault (Node × Scope × List Token) :=
  match fuel with
  | 0 => .error .unexpectedToken
  | fuel + 1 =>
    match tokens with
    | .value :: rest =>
      match rest with
      | .flowEntry :: _ | .flowMappingEnd :: _ => .ok (.missing [], s, rest)
      | _ => readNode fuel false false s rest
    | _ => .ok (.missing [], s, tokens)

/-- Reads the comma between the items of a flow collection. -/
def readComma : List Token → Except Fault (List Token)
  | .flowEntry :: rest => .ok rest
  | _ => .error .unexpectedToken

end

/-! ### Documents -/

/-- Reads the directives before a document; answers the tag handles and what follows. -/
def readDirectives (versioned : Bool) (handles : List (Text × Bytes)) :
    List Token → Except Fault (List (Text × Bytes) × List Token)
  | .version major minor :: rest =>
    if versioned then .error .repeatedDirective
    else if major = 1 ∧ (minor = 1 ∨ minor = 2) then readDirectives true handles rest
    else .error .badVersion
  | .handle name expansion :: rest =>
    if handles.any (·.1 == name) then .error .repeatedDirective
    else readDirectives versioned (handles ++ [(name, expansion)]) rest
  | tokens => .ok (handles, tokens)

/-- Whether a document that has begun holds no node. -/
def endsDocument : List Token → Bool
  | [] | .documentEnd :: _ | .documentStart :: _ | .version .. :: _ | .handle .. :: _ => true
  | _ => false

/-- What may follow a document: markers of its end. -/
def endsText (tokens : List Token) : Bool :=
  tokens.all (· == .documentEnd)

/-- Reads the node of a document and checks that nothing follows it. -/
def readRoot (handles : List (Text × Bytes)) (empty : Bool) (tokens : List Token) :
    Except Fault Document := do
  let s : Scope := ⟨handles ++ Scope.standardHandles, [], 0, []⟩
  if empty then
    if endsText tokens then return ⟨some (.missing []), []⟩ else throw .severalDocuments
  else
    let (root, s, rest) ← readNode (4 * tokens.length + 4) true false s tokens
    if endsText rest then return ⟨some root, s.anchored⟩ else throw .severalDocuments

/-- Reads the tokens of a text with one document at most. -/
def Document.ofTokens? (tokens : List Token) : Except Fault Document := do
  match tokens with
  | [] => return ⟨none, []⟩
  | .version .. :: _ | .handle .. :: _ | .documentStart :: _ =>
    let (handles, rest) ← readDirectives false [] tokens
    match rest with
    | .documentStart :: rest => readRoot handles (endsDocument rest) rest
    | _ => throw .unexpectedToken
  | _ => readRoot [] false tokens

end WifiNames.Yaml
