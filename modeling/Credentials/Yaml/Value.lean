import Credentials.Raw.Equality
import Credentials.Source.Basic
import Credentials.Yaml.MergeKey
import Credentials.Yaml.Scalar
import Credentials.Yaml.Supply

/-!
# The value of a document

Every node of a document has one value, whatever the number of ways to it. The value of a scalar is
made when its node is first met; a collection is only noted then, and filled after all collections
that were noted before it (`Assembly.fillAll`), so of two faults the one nearer to the top is
reported. A key must be no collection. A node is judged by its tag at that moment: merge keys are
replaced as the mappings that hold them are filled.

When every collection is filled, the values are read off in the order in which the nodes ended
(`Assembly.readOff`). A collection that holds itself is unfolded once more and then left open.

The top of a document must be a mapping; an empty or null document, and any other top that counts as
nothing, is the empty mapping (`entriesOf`). Documents of every depth have a value here, as in
`Document.compose`.
-/

namespace Credentials.Yaml

/-! ## Scalars -/

/-- The text of a node that stands for a scalar: a scalar, or a mapping with a default value; the
first number bounds the way along default values. -/
def scalarText (ns : Nodes) : Nat → Nat → Scan String
  | 0, _ => .error (.unconvertible .endlessDefault)
  | n + 1, id =>
    match ns.contentOf id with
    | .scalar text => .ok text
    | .sequence _ => .error (.malformed (ns.lineOf id + 1))
    | .mapping pairs =>
      match pairs.find? fun p => ns.tagOf p.1 == .value with
      | some (_, v) => scalarText ns n v
      | none => .error (.malformed (ns.lineOf id + 1))

/-- Whether a node is a scalar of its own. -/
def isScalar : Content → Bool
  | .scalar _ => true
  | _ => false

/-- The value of a scalar, or its fault as one of the document. -/
def converted (v : Except ScalarFault Raw) : Scan Raw :=
  match v with
  | .ok x => .ok x
  | .error e => .error (.unconvertible e)

/-- The value of a node under a tag of scalars. The node's number is the mark of a number of its
own. -/
def scalarValue (ns : Nodes) (id : Nat) : Scan Raw := do
  let s ← scalarText ns (ns.size + 1) id
  match ns.tagOf id with
  | .null => return .null
  | .bool => converted ((boolOf s).map .bool)
  | .int => converted ((intOf s).map .int)
  | .float => converted (floatOf (id + 1) s)
  | .binary =>
    match binaryOf? s with
    | some bs => return .bytes bs
    | none => throw (.malformed (ns.lineOf id + 1))
  | .timestamp =>
    if isScalar (ns.contentOf id) then converted (timestampOf s)
    else throw (.unconvertible .notOneScalar)
  | _ => return .text s

/-! ## Collections -/

/-- What becomes of a node; what a collection holds is told by the numbers of nodes. -/
inductive Shape where
  | value (v : Raw)
  | list (items : List Nat)
  | pairs (items : List (Nat × Nat))
  | map (entries : List (Raw × Nat))
  | set (keys : List Raw)

/-- A document in the course of its evaluation: its nodes, what became of those that were met, the
collections in the order in which they were met, and a bound for merges. -/
structure Assembly where
  nodes : Nodes
  shapes : Array (Option Shape)
  noted : Array Nat
  merges : Nat

namespace Assembly

/-- A step of an evaluation. -/
abbrev Step := StateT Assembly Scan

/-- What became of a node, if it was met. -/
def shapeOf (a : Assembly) (id : Nat) : Option Shape := a.shapes[id]?.join

/-- Decides what becomes of a node. -/
def settle (id : Nat) (shape : Shape) : Step Unit :=
  modify fun a => { a with shapes := a.shapes.setIfInBounds id (some shape) }

/-- The fault of a node that is not what its place asks for. -/
def misplaced {α : Type} (id : Nat) : Step α := do
  throw (.malformed ((← get).nodes.lineOf id + 1))

/-- Meets a node: a scalar is evaluated, a collection is noted. -/
def meet (id : Nat) : Step Unit := do
  let a ← get
  if (a.shapeOf id).isSome then return
  match a.nodes.tagOf id with
  -- a collection's tag is taken at its word here; whether it is one shows when it is filled
  | .seq | .map | .set | .omap | .pairs =>
    settle id (.list [])
    modify fun a => { a with noted := a.noted.push id }
  | .merge | .value | .other _ => misplaced id
  | _ => settle id (.value (← scalarValue a.nodes id))

/-- Meets a node that is a key. -/
def meetKey (id : Nat) : Step Raw := do
  meet id
  match (← get).shapeOf id with
  | some (.value v) => return v
  | _ => misplaced id

/-- Puts a pair of a mapping into its entries. -/
def putPair (entries : List (Raw × Nat)) (p : Nat × Nat) : Step (List (Raw × Nat)) := do
  let k ← meetKey p.1
  meet p.2
  return putEntry Raw.same k p.2 entries

/-- The entries of a mapping. -/
def entries (id : Nat) : Step (List (Raw × Nat)) := do
  let a ← get
  let (_, nodes) ← (Nodes.flatten a.merges id).run a.nodes
  set { a with nodes }
  (nodes.pairsOf id).foldlM putPair []

/-- The pair of a mapping with one entry. -/
def onePair (id : Nat) : Step (Nat × Nat) := do
  match (← get).nodes.contentOf id with
  | .mapping [(k, v)] =>
    meet k
    meet v
    return (k, v)
  | _ => misplaced id

/-- Fills a collection. -/
def fill (id : Nat) : Step Unit := do
  let ns := (← get).nodes
  match ns.tagOf id, ns.contentOf id with
  | .seq, .sequence items =>
    items.forM meet
    settle id (.list items)
  | .omap, .sequence items | .pairs, .sequence items =>
    settle id (.pairs (← items.mapM onePair))
  | .map, .mapping _ => settle id (.map (← entries id))
  | .set, .mapping _ => settle id (.set ((← entries id).map (·.1)))
  | _, _ => misplaced id

/-- Fills the collections from a place on, at most a number of them. -/
def fillAll : Nat → Nat → Step Unit
  | 0, _ => pure ()
  | n + 1, place => do
    match (← get).noted[place]? with
    | some id =>
      fill id
      fillAll n (place + 1)
    | none => pure ()

/-! ## Reading off -/

/-- The value of a shape, given those of nodes. -/
def valueOf (known : Nat → Raw) : Shape → Raw
  | .value v => v
  | .list items => .list (items.map known)
  | .pairs items => .list (items.map fun p => .tuple [known p.1, known p.2])
  | .map entries => .map (entries.map fun e => (e.1, known e.2))
  | .set keys => .set keys

/-- What a node shows inside itself. -/
def openEnd : Option Shape → Raw
  | some (.map _) => .endless true
  | _ => .endless false

/-- The values of all nodes, where what has no value yet has the one that it had before. -/
def readOnce (a : Assembly) (order : List Nat) (before : Array Raw) : Array Raw :=
  order.foldl
    (fun known id =>
      match a.shapeOf id with
      | some shape => known.setIfInBounds id (valueOf (fun i => known[i]?.getD .null) shape)
      | none => known)
    before

/-- The values of all nodes. -/
def readOff (a : Assembly) (order : List Nat) : Array Raw :=
  a.readOnce order (a.readOnce order (a.shapes.map openEnd))

end Assembly

/-- The value of a document. -/
def Document.toRaw (d : Document) : Scan Raw := do
  let start : Assembly := ⟨d.nodes, Array.replicate d.nodes.size none, #[], d.nodes.weight + 1⟩
  let (_, a) ← (Assembly.meet d.top).run start
  let (_, a) ← (Assembly.fillAll d.nodes.size 0).run a
  return (a.readOff d.ended)[d.top]?.getD .null

/-- The value of a text, which may have a limit; a text without a document is nothing. -/
def valueOf (limit : Option Limit) (cs : List Char) : Scan Raw := do
  match ← Document.ofTrace (Trace.ofStream (Stream.ofChars limit cs)) with
  | some d => d.toRaw
  | none => return .null

/-- The entries of a document's value. -/
def entriesOf (v : Raw) : Scan (List (Raw × Raw)) :=
  match v with
  | .map entries => .ok entries
  | v => if v.truthy then .error .notMapping else .ok []

/-- The entries of the mapping that the bytes of a document hold. A fault in the supply of the text
is met when the scanner looks that far, so a fault in front of it is reported first. -/
def entriesOfBytes (bytes : ByteArray) : Scan (List (Raw × Raw)) :=
  let (cs, limit) := textOf bytes
  (valueOf ((forbiddenLimit cs).or limit) cs).bind entriesOf

end Credentials.Yaml
