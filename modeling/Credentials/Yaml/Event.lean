import Credentials.Yaml.Token.Stream

/-!
# The events of a stream of tokens

The grammar of documents as a machine with a stack. An `Expectation` says which part of the grammar
comes next, the stack what comes after that. Every step yields one event; it looks at the tokens it
needs and no further, so a fault behind them does not count yet. An empty place in the grammar
yields an empty plain scalar.

`Trace.ofStream` runs the machine. The number of steps is bounded by eight to a token and eight
more: a step that takes no token is followed by one that does within four steps.
-/

namespace Credentials.Yaml

/-! ## Events -/

/-- How the tag of a scalar is found: by the rules for plain scalars, as a text, or as written. -/
inductive Tagging where
  | plain
  | text
  | written (uri : String)
  deriving DecidableEq, Repr

/-- The sort and content of an event. A collection has a tag only if one is written. -/
inductive EventKind where
  | documentStart
  | documentEnd
  | streamEnd
  | alias (name : String)
  | scalar (anchor : Option String) (tagging : Tagging) (text : String)
  | sequenceStart (anchor tag : Option String)
  | sequenceEnd
  | mappingStart (anchor tag : Option String)
  | mappingEnd
  deriving DecidableEq, Repr

/-- An event and the line, counted from zero, on which it starts. -/
structure Event where
  kind : EventKind
  line : Nat
  deriving DecidableEq, Repr

/-- Events in order, and the fault behind them if there is one. -/
structure Trace where
  events : List Event
  fault : Option DocumentFault

/-! ## The machine -/

/-- What the grammar allows next. -/
inductive Expectation where
  | firstDocument
  | document
  | documentContent
  | documentEnd
  | blockNode
  | blockSequenceFirst
  | blockSequenceEntry
  | indentlessEntry
  | blockMappingFirst
  | blockMappingKey
  | blockMappingValue
  | flowSequenceFirst
  | flowSequenceEntry
  | flowPairKey
  | flowPairValue
  | flowPairEnd
  | flowMappingFirst
  | flowMappingKey
  | flowMappingValue
  | flowMappingEmptyValue
  deriving DecidableEq, Repr

/-- The state of the machine: the tokens to come with the fault behind them, what comes after the
present part, and the prefixes of the tag handles. -/
structure Machine where
  tokens : List Token
  fault : Option DocumentFault
  stack : List Expectation
  handles : List (String × String)

/-- What a step yields: an event, what comes next, and the state. -/
abbrev Step := Scan (Event × Option Expectation × Machine)

namespace Machine

/-- The handles that need no directive. -/
def defaultHandles : List (String × String) := [("!", "!"), ("!!", "tag:yaml.org,2002:")]

/-- The next token, or the fault in its place. -/
def peek (m : Machine) : Scan Token :=
  match m.tokens with
  | t :: _ => .ok t
  | [] => .error (m.fault.getD (.malformed 1))

/-- Past one token. -/
def skip (m : Machine) : Machine := { m with tokens := m.tokens.tail }

/-- With one more part to come. -/
def later (m : Machine) (e : Expectation) : Machine := { m with stack := e :: m.stack }

/-- An event after which the stack says what comes. -/
def pop (m : Machine) (kind : EventKind) (line : Nat) : Step :=
  .ok (⟨kind, line⟩, m.stack.head?, { m with stack := m.stack.tail })

/-- An event after which a given part comes. -/
def next (m : Machine) (kind : EventKind) (line : Nat) (e : Expectation) : Step :=
  .ok (⟨kind, line⟩, some e, m)

/-- An empty place, after which a given part comes. -/
def emptyThen (m : Machine) (line : Nat) (e : Expectation) : Step :=
  m.next (.scalar none .plain "") line e

/-- The grammar does not allow the token. -/
def unexpected {α : Type} (t : Token) : Scan α := .error (.malformed (t.line + 1))

/-! ## Nodes -/

/-- The anchor and tag in front of a node, and the line on which they start. -/
structure Properties where
  anchor : Option String
  tag : Option (Option String × String)
  line : Option Nat

/-- Reads the anchor and tag in front of a node, in either order. -/
def properties (m : Machine) : Scan (Properties × Machine) := do
  let t ← m.peek
  match t.kind with
  | .anchor name =>
    let m := m.skip
    let u ← m.peek
    match u.kind with
    | .tag handle suffix => return (⟨some name, some (handle, suffix), some t.line⟩, m.skip)
    | _ => return (⟨some name, none, some t.line⟩, m)
  | .tag handle suffix =>
    let m := m.skip
    let u ← m.peek
    match u.kind with
    | .anchor name => return (⟨some name, some (handle, suffix), some t.line⟩, m.skip)
    | _ => return (⟨none, some (handle, suffix), some t.line⟩, m)
  | _ => return (⟨none, none, none⟩, m)

/-- The tag with its handle replaced; the tag stands on the line that `properties` reports, and an
exclamation mark by itself is no tag. The line of an unknown handle is that of the tag. -/
def resolveTag (m : Machine) (tagLine : Nat) :
    Option (Option String × String) → Scan (Option String × Bool)
  | none => .ok (none, false)
  | some (none, suffix) => .ok (if suffix = "!" then (none, true) else (some suffix, false))
  | some (some handle, suffix) =>
    match m.handles.lookup handle with
    | some pre =>
      let uri := pre ++ suffix
      .ok (if uri = "!" then (none, true) else (some uri, false))
    | none => .error (.malformed (tagLine + 1))

/-- The line of the tag in front of a node. -/
def tagLine (m : Machine) : Nat :=
  match m.tokens with
  | ⟨.tag _ _, line⟩ :: _ => line
  | _ :: ⟨.tag _ _, line⟩ :: _ => line
  | _ => 0

/-- A node. Blocks are allowed if `block`, a sequence without indentation if `indentless`. -/
def node (block indentless : Bool) (m : Machine) : Step := do
  let first ← m.peek
  match first.kind with
  | .alias name => m.skip.pop (.alias name) first.line
  | _ =>
    let (p, m') ← m.properties
    let (tag, plainTag) ← m.resolveTag m.tagLine p.tag
    let m := m'
    let t ← m.peek
    let line := p.line.getD t.line
    match t.kind with
    | .blockEntry =>
      if indentless then m.next (.sequenceStart p.anchor tag) line .indentlessEntry
      else emptyNode p tag plainTag t line m
    | .scalar text plain =>
      let tagging := match tag with
        | some uri => .written uri
        | none => if plain || plainTag then .plain else .text
      m.skip.pop (.scalar p.anchor tagging text) line
    | .flowSequenceStart => m.next (.sequenceStart p.anchor tag) line .flowSequenceFirst
    | .flowMappingStart => m.next (.mappingStart p.anchor tag) line .flowMappingFirst
    | .blockSequenceStart =>
      if block then m.next (.sequenceStart p.anchor tag) line .blockSequenceFirst
      else emptyNode p tag plainTag t line m
    | .blockMappingStart =>
      if block then m.next (.mappingStart p.anchor tag) line .blockMappingFirst
      else emptyNode p tag plainTag t line m
    | _ => emptyNode p tag plainTag t line m
where
  /-- A node without content: allowed behind an anchor or a tag. -/
  emptyNode (p : Properties) (tag : Option String) (plainTag : Bool) (t : Token) (line : Nat)
      (m : Machine) : Step :=
    if p.anchor.isSome || tag.isSome || plainTag then
      m.pop (.scalar p.anchor (match tag with
        | some uri => .written uri
        | none => .plain) "") line
    else unexpected t

/-! ## Documents -/

/-- The directives in front of a document; `versioned` says that one with a version was read. -/
def directives (versioned : Bool) (given : List (String × String)) :
    List Token → Scan (List (String × String) × List Token)
  | ⟨.directive d, line⟩ :: r =>
    match d with
    | .version major _ =>
      if versioned || major != 1 then .error (.malformed (line + 1)) else directives true given r
    | .handle name pre =>
      if (given.lookup name).isSome then .error (.malformed (line + 1))
      else directives versioned ((name, pre) :: given) r
    | .other => directives versioned given r
  | ts => .ok (given, ts)

/-- Past the marks of documents' ends. -/
def skipEnds : List Token → List Token
  | ⟨.documentEnd, _⟩ :: r => skipEnds r
  | ts => ts

/-- A document with its mark, or the end of the stream. -/
def document (m : Machine) : Step := do
  let m := { m with tokens := skipEnds m.tokens }
  let t ← m.peek
  match t.kind with
  | .streamEnd => return (⟨.streamEnd, t.line⟩, none, m.skip)
  | _ =>
    -- the handles of one document do not reach the next
    let (given, rest) ← directives false [] m.tokens
    let m := { m with tokens := rest, handles := given ++ defaultHandles }
    let start ← m.peek
    match start.kind with
    | .documentStart => (m.skip.later .documentEnd).next .documentStart t.line .documentContent
    | _ => unexpected start

/-- The first document, whose mark may be missing. -/
def firstDocument (m : Machine) : Step := do
  let t ← m.peek
  match t.kind with
  | .directive _ | .documentStart | .streamEnd => m.document
  | _ =>
    Machine.next { m with handles := defaultHandles, stack := .documentEnd :: m.stack }
      .documentStart t.line .blockNode

/-- The content of a document with a mark; it may be empty. -/
def documentContent (m : Machine) : Step := do
  let t ← m.peek
  match t.kind with
  | .directive _ | .documentStart | .documentEnd | .streamEnd =>
    m.pop (.scalar none .plain "") t.line
  | _ => m.node true false

/-- The end of a document. -/
def documentEnd (m : Machine) : Step := do
  let t ← m.peek
  let m := match t.kind with
    | .documentEnd => m.skip
    | _ => m
  m.next .documentEnd t.line .document

/-! ## Block collections -/

/-- An entry of a block sequence, or its end. -/
def blockSequenceEntry (m : Machine) : Step := do
  let t ← m.peek
  match t.kind with
  | .blockEntry =>
    let m := m.skip
    match (← m.peek).kind with
    | .blockEntry | .blockEnd => m.emptyThen t.line .blockSequenceEntry
    | _ => (m.later .blockSequenceEntry).node true false
  | .blockEnd => m.skip.pop .sequenceEnd t.line
  | _ => unexpected t

/-- An entry of a sequence without indentation, or its end. -/
def indentlessEntry (m : Machine) : Step := do
  let t ← m.peek
  match t.kind with
  | .blockEntry =>
    let m := m.skip
    match (← m.peek).kind with
    | .blockEntry | .key | .value | .blockEnd => m.emptyThen t.line .indentlessEntry
    | _ => (m.later .indentlessEntry).node true false
  | _ => m.pop .sequenceEnd t.line

/-- What follows the mark of a key or of a value in a block mapping. -/
def blockMappingPart (line : Nat) (after : Expectation) (m : Machine) : Step := do
  match (← m.peek).kind with
  | .key | .value | .blockEnd => m.emptyThen line after
  | _ => (m.later after).node true true

/-- A key of a block mapping, or the mapping's end. -/
def blockMappingKey (m : Machine) : Step := do
  let t ← m.peek
  match t.kind with
  | .key => m.skip.blockMappingPart t.line .blockMappingValue
  | .blockEnd => m.skip.pop .mappingEnd t.line
  | _ => unexpected t

/-- A value of a block mapping; it may be missing. -/
def blockMappingValue (m : Machine) : Step := do
  let t ← m.peek
  match t.kind with
  | .value => m.skip.blockMappingPart t.line .blockMappingKey
  | _ => m.emptyThen t.line .blockMappingKey

/-! ## Flow collections -/

/-- An entry of a flow sequence, or its end; a comma stands in front of every entry but the first.
-/
def flowSequenceEntry (first : Bool) (m : Machine) : Step := do
  let t ← m.peek
  match t.kind with
  | .flowSequenceEnd => m.skip.pop .sequenceEnd t.line
  | _ =>
    let m ←
      if first then pure m
      else if t.kind = .flowEntry then pure m.skip
      else unexpected t
    let u ← m.peek
    match u.kind with
    | .key => m.next (.mappingStart none none) u.line .flowPairKey
    | .flowSequenceEnd => m.skip.pop .sequenceEnd u.line
    | _ => (m.later .flowSequenceEntry).node false false

/-- The key of a single pair in a flow sequence. -/
def flowPairKey (m : Machine) : Step := do
  let t ← m.peek
  let m := m.skip
  match (← m.peek).kind with
  | .value | .flowEntry | .flowSequenceEnd => m.emptyThen t.line .flowPairValue
  | _ => (m.later .flowPairValue).node false false

/-- The value of a single pair in a flow sequence; it may be missing. -/
def flowPairValue (m : Machine) : Step := do
  let t ← m.peek
  match t.kind with
  | .value =>
    let m := m.skip
    match (← m.peek).kind with
    | .flowEntry | .flowSequenceEnd => m.emptyThen t.line .flowPairEnd
    | _ => (m.later .flowPairEnd).node false false
  | _ => m.emptyThen t.line .flowPairEnd

/-- The end of a single pair in a flow sequence. -/
def flowPairEnd (m : Machine) : Step := do
  let t ← m.peek
  m.next .mappingEnd t.line .flowSequenceEntry

/-- A key of a flow mapping, or the mapping's end; a comma stands in front of every key but the
first. -/
def flowMappingKey (first : Bool) (m : Machine) : Step := do
  let t ← m.peek
  match t.kind with
  | .flowMappingEnd => m.skip.pop .mappingEnd t.line
  | _ =>
    let m ←
      if first then pure m
      else if t.kind = .flowEntry then pure m.skip
      else unexpected t
    let u ← m.peek
    match u.kind with
    | .key =>
      let m := m.skip
      match (← m.peek).kind with
      | .value | .flowEntry | .flowMappingEnd => m.emptyThen u.line .flowMappingValue
      | _ => (m.later .flowMappingValue).node false false
    | .flowMappingEnd => m.skip.pop .mappingEnd u.line
    | _ => (m.later .flowMappingEmptyValue).node false false

/-- A value of a flow mapping; it may be missing. -/
def flowMappingValue (m : Machine) : Step := do
  let t ← m.peek
  match t.kind with
  | .value =>
    let m := m.skip
    match (← m.peek).kind with
    | .flowEntry | .flowMappingEnd => m.emptyThen t.line .flowMappingKey
    | _ => (m.later .flowMappingKey).node false false
  | _ => m.emptyThen t.line .flowMappingKey

/-- The missing value of a key without a mark. -/
def flowMappingEmptyValue (m : Machine) : Step := do
  let t ← m.peek
  m.emptyThen t.line .flowMappingKey

/-! ## Running -/

/-- One step. -/
def step (m : Machine) : Expectation → Step
  | .firstDocument => m.firstDocument
  | .document => m.document
  | .documentContent => m.documentContent
  | .documentEnd => m.documentEnd
  | .blockNode => m.node true false
  | .blockSequenceFirst => m.skip.blockSequenceEntry
  | .blockSequenceEntry => m.blockSequenceEntry
  | .indentlessEntry => m.indentlessEntry
  | .blockMappingFirst => m.skip.blockMappingKey
  | .blockMappingKey => m.blockMappingKey
  | .blockMappingValue => m.blockMappingValue
  | .flowSequenceFirst => m.skip.flowSequenceEntry true
  | .flowSequenceEntry => m.flowSequenceEntry false
  | .flowPairKey => m.flowPairKey
  | .flowPairValue => m.flowPairValue
  | .flowPairEnd => m.flowPairEnd
  | .flowMappingFirst => m.skip.flowMappingKey true
  | .flowMappingKey => m.flowMappingKey false
  | .flowMappingValue => m.flowMappingValue
  | .flowMappingEmptyValue => m.flowMappingEmptyValue

/-- The events of at most a number of steps. -/
def run : Nat → Expectation → Machine → Trace
  | 0, _, _ => ⟨[], some (.malformed 1)⟩
  | steps + 1, e, m =>
    match m.step e with
    | .error fault => ⟨[], some fault⟩
    | .ok (event, none, _) => ⟨[event], none⟩
    | .ok (event, some e', m') =>
      let rest := run steps e' m'
      ⟨event :: rest.events, rest.fault⟩

end Machine

/-- The events of a stream of tokens. -/
def Trace.ofStream (s : Stream) : Trace :=
  Machine.run (8 * s.tokens.length + 8) .firstDocument ⟨s.tokens, s.fault, [], []⟩

end Credentials.Yaml
