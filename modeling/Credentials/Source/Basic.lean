import Credentials.Error

/-!
# Sources

A source is a name, the pairs of path and raw value that it yields, and the error that ends them if
there is one. A source judges nothing: unknown paths and values of a wrong type are found when
sources are merged, so that every sort of source fails alike.

A nested mapping is flattened depth first; the path of a leaf joins the keys on the way to it by
dots (`flatten`). A key with dots in it stands as it is, and an empty path so far adds no dot, so
nested and dotted keys may be mixed. A key that cannot be written ends the pairs, and so does a
mapping that leads into itself (`stuckIn`); any other nesting is followed, however deep. A list of
sources may hold plain mappings too (`Layer`), which are named by their places in it.
-/

namespace Credentials

/-- A pair that a source yields. -/
abbrev Pair := String × Raw

/-- A named source: its pairs, and the error behind them if there is one. -/
structure Source where
  name : String
  pairs : List Pair
  fault : Option Error

/-! ## Flattening -/

/-- The path of a key below a path. -/
def childPath (parent : String) (key : Raw) : String :=
  if parent.isEmpty then key.display else parent ++ "." ++ key.display

mutual

/-- The pairs of a value at a path. -/
def flattenValue (path : String) : Raw → List Pair
  | .map entries => flatten path entries
  | v => [(path, v)]

/-- The pairs of a mapping below a path, in order. -/
def flatten (parent : String) : List (Raw × Raw) → List Pair
  | [] => []
  | (k, v) :: r => flattenValue (childPath parent k) v ++ flatten parent r

end

mutual

/-- How many pairs of a value come before an obstacle on the way, and which, if there is one. -/
def stuckInValue : Raw → Option (Nat × Obstacle)
  | .map entries => stuckIn entries
  | .endless true => some (0, .endless)
  | _ => none

/-- How many pairs of a mapping come before an obstacle on the way, and which, if there is one. -/
def stuckIn : List (Raw × Raw) → Option (Nat × Obstacle)
  | [] => none
  | (k, v) :: r =>
    match k.obstacle? with
    | some o => some (0, o)
    | none =>
      match stuckInValue v with
      | some p => some p
      | none => (stuckIn r).map fun p => (p.1 + (flattenValue "" v).length, p.2)

end

@[simp] theorem flatten_nil (parent : String) : flatten parent [] = [] := by simp [flatten]

@[simp] theorem flatten_cons (parent : String) (k v : Raw) (r : List (Raw × Raw)) :
    flatten parent ((k, v) :: r) = flattenValue (childPath parent k) v ++ flatten parent r := by
  simp [flatten]

theorem flattenValue_text (path s : String) : flattenValue path (.text s) = [(path, .text s)] := by
  simp [flattenValue]

theorem flattenValue_null (path : String) : flattenValue path .null = [(path, .null)] := by
  simp [flattenValue]

theorem flattenValue_map (path : String) (es : List (Raw × Raw)) :
    flattenValue path (.map es) = flatten path es := by
  simp [flattenValue]

/-! ## Mappings -/

/-- A mapping with one more entry: a key that is there keeps its place and takes the new value. -/
def putEntry {α : Type} (sameKey : Raw → Raw → Bool) (k : Raw) (v : α) :
    List (Raw × α) → List (Raw × α)
  | [] => [(k, v)]
  | (k', v') :: r => if sameKey k' k then (k', v) :: r else (k', v') :: putEntry sameKey k v r

namespace Source

/-- The name of a source that is a plain mapping, by its place in the list of sources. -/
def placeName (index : Nat) : String := "source[" ++ toString index ++ "]"

/-- A source that yields exactly the given pairs. -/
def ofPairs (name : String) (pairs : List Pair) : Source := ⟨name, pairs, none⟩

/-- A source that yields nothing but an error. -/
def ofFault (name : String) (e : Error) : Source := ⟨name, [], some e⟩

/-- A source over a nested mapping. -/
def ofMapping (name : String) (entries : List (Raw × Raw)) : Source :=
  match stuckIn entries with
  | none => ofPairs name (flatten "" entries)
  | some (n, obstacle) => ⟨name, (flatten "" entries).take n, some (.unwritable obstacle)⟩

end Source

/-! ## Layers -/

/-- What a list of sources may hold: a source, or a plain mapping, which has no name of its own. -/
inductive Layer where
  | source (s : Source)
  | mapping (entries : List (Raw × Raw))

/-- A layer as a source; its place names a plain mapping. -/
def Layer.toSource (index : Nat) : Layer → Source
  | source s => s
  | mapping entries => .ofMapping (Source.placeName index) entries

/-- The sources of a list of layers. -/
def Source.ofLayers (layers : List Layer) : List Source := layers.mapIdx Layer.toSource

end Credentials
