import Credentials.Yaml.Event
import Credentials.Yaml.Tag

/-!
# The nodes of a document

A document is a graph of tagged nodes that refer to one another by number. An alias is one more way
to the node that its anchor names, and may stand inside that node itself. Nodes are numbered as they
start; `Document.ended` lists them as they end, so that a node comes after everything that it holds,
save the nodes that it stands in. A stream holds at most one document.

The graph is built event by event with a stack of open collections (`compose`), so the recursion is
on the events. The stack has no limit: how many collections may stand in one another before a reader
runs out of room is not said here.

Main statements: `contentOf_setContent_self` and `contentOf_setContent_of_ne`, a node is changed and
no other.
-/

namespace Credentials.Yaml

/-! ## Nodes -/

/-- What a node holds: a text, or the numbers of other nodes. -/
inductive Content where
  | scalar (text : String)
  | sequence (items : List Nat)
  | mapping (pairs : List (Nat × Nat))
  deriving DecidableEq, Repr

/-- A node and the line, counted from zero, on which it starts. -/
structure Node where
  tag : Tag
  content : Content
  line : Nat
  deriving DecidableEq, Repr

/-- Nodes by their numbers. -/
abbrev Nodes := Array Node

namespace Nodes

/-- The tag of a node; a number of no node is of no known sort. -/
def tagOf (ns : Nodes) (id : Nat) : Tag := (ns[id]?.map Node.tag).getD (.other "")

/-- What a node holds. -/
def contentOf (ns : Nodes) (id : Nat) : Content := (ns[id]?.map Node.content).getD (.sequence [])

/-- The line on which a node starts. -/
def lineOf (ns : Nodes) (id : Nat) : Nat := (ns[id]?.map Node.line).getD 0

/-- The pairs of a node; what is no mapping has none. -/
def pairsOf (ns : Nodes) (id : Nat) : List (Nat × Nat) :=
  match ns.contentOf id with
  | .mapping pairs => pairs
  | _ => []

/-- The nodes with the content of one of them replaced. -/
def setContent (ns : Nodes) (id : Nat) (c : Content) : Nodes :=
  ns.modify id fun n => { n with content := c }

/-- The nodes with the tag of one of them replaced. -/
def setTag (ns : Nodes) (id : Nat) (t : Tag) : Nodes := ns.modify id fun n => { n with tag := t }

/-- How many nodes and pairs there are. -/
def weight (ns : Nodes) : Nat :=
  ns.foldl (fun n node => n + 1 + match node.content with
    | .mapping pairs => pairs.length
    | _ => 0) 0

theorem contentOf_setContent_self {ns : Nodes} {id : Nat} (h : id < ns.size) (c : Content) :
    (ns.setContent id c).contentOf id = c := by
  simp [setContent, contentOf, Array.getElem_modify, h]

theorem contentOf_setContent_of_ne (ns : Nodes) {id other : Nat} (h : id ≠ other) (c : Content) :
    (ns.setContent id c).contentOf other = ns.contentOf other := by
  simp [setContent, contentOf, Array.getElem?_modify, h]

end Nodes

/-- The nodes of a document, their numbers in the order in which they end, and the number of the
topmost one. -/
structure Document where
  nodes : Nodes
  ended : List Nat
  top : Nat

namespace Document

/-- The keys and values of a mapping, taken in turns. -/
def pairUp {α : Type} : List α → List (α × α)
  | k :: v :: r => (k, v) :: pairUp r
  | _ => []

/-! ## Building the graph -/

/-- An open collection: its number, what it is, and the numbers of the nodes in it, last one first.
-/
structure Frame where
  id : Nat
  isMapping : Bool
  inside : List Nat

/-- What the collection of a frame holds. -/
def Frame.content (f : Frame) : Content :=
  if f.isMapping then .mapping (pairUp f.inside.reverse) else .sequence f.inside.reverse

/-- A document in the making: its nodes, the numbers of those that have ended, last one first, and
the nodes of the anchors. -/
structure Draft where
  nodes : Nodes
  ended : List Nat
  anchors : List (String × Nat)

/-- With a new node, which an anchor may name; the anchor must be new too. -/
def Draft.start (d : Draft) (anchor : Option String) (n : Node) : Scan Draft :=
  match anchor with
  | none => .ok { d with nodes := d.nodes.push n }
  | some name =>
    if (d.anchors.lookup name).isSome then .error (.malformed (n.line + 1))
    else .ok { d with nodes := d.nodes.push n, anchors := (name, d.nodes.size) :: d.anchors }

/-- With the end of a node. -/
def Draft.finish (d : Draft) (id : Nat) : Draft := { d with ended := id :: d.ended }

/-- With what the collection of a frame holds, at its end. -/
def Draft.close (d : Draft) (f : Frame) : Draft :=
  { d with nodes := d.nodes.setContent f.id f.content }.finish f.id

/-- The tag of a scalar. -/
def scalarTag (text : String) : Tagging → Tag
  | .plain => .ofPlain text
  | .text => .str
  | .written uri => .ofUri uri

/-- The tag of a collection. -/
def collectionTag (default : Tag) (written : Option String) : Tag :=
  (written.map Tag.ofUri).getD default

/-- Builds the node that starts here, with the events behind it. -/
def compose (fault : DocumentFault) : List Event → List Frame → Draft →
    Scan (Document × List Event)
  | [], _, _ => .error fault
  | e :: r, frames, draft =>
    let place (id : Nat) (frames : List Frame) (draft : Draft) : Scan (Document × List Event) :=
      match frames with
      | [] => .ok (⟨draft.nodes, draft.ended.reverse, id⟩, r)
      | f :: fs => compose fault r ({ f with inside := id :: f.inside } :: fs) draft
    let opened (isMapping : Bool) (anchor : Option String) (n : Node) :
        Scan (Document × List Event) :=
      match draft.start anchor n with
      | .error fault' => .error fault'
      | .ok draft' => compose fault r (⟨draft.nodes.size, isMapping, []⟩ :: frames) draft'
    match e.kind with
    | .alias name =>
      match draft.anchors.lookup name with
      | some id => place id frames draft
      | none => .error (.malformed (e.line + 1))
    | .scalar anchor tagging text =>
      match draft.start anchor ⟨scalarTag text tagging, .scalar text, e.line⟩ with
      | .error fault' => .error fault'
      | .ok draft' => place draft.nodes.size frames (draft'.finish draft.nodes.size)
    | .sequenceStart anchor tag =>
      opened false anchor ⟨collectionTag .seq tag, .sequence [], e.line⟩
    | .mappingStart anchor tag =>
      opened true anchor ⟨collectionTag .map tag, .mapping [], e.line⟩
    | .sequenceEnd | .mappingEnd =>
      match frames with
      | [] => .error fault
      | f :: fs => place f.id fs (draft.close f)
    | .documentStart | .documentEnd | .streamEnd => .error fault

/-- The one document of a trace, if there is a document. -/
def ofTrace (t : Trace) : Scan (Option Document) :=
  let fault := t.fault.getD (.malformed 1)
  match t.events with
  | [] => .error fault
  | ⟨.streamEnd, _⟩ :: _ => .ok none
  | _ :: r => do
    let (d, behind) ← compose fault r [] ⟨#[], [], []⟩
    match behind with
    | _ :: ⟨.streamEnd, _⟩ :: _ => return some d
    | _ :: e :: _ => .error (.malformed (e.line + 1))
    | _ => .error fault

end Document

end Credentials.Yaml
