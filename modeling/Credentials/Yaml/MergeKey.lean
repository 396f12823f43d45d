import Credentials.Yaml.Node

/-!
# Merge keys

A key with the sign of a merge names mappings, one or a list of them, whose pairs come in front of a
mapping's own, so that the own ones win; of a list the pairs of its last mapping come first. The
sign of a default value, as a key, stands for its own text. `Nodes.flatten` replaces such keys for
good, in the mapping and in those that it names, so whoever comes to these nodes later finds plain
mappings.

A mapping may name itself, so the way through the names is bounded by a number of merges; each uses
up one pair.

Main statement: `flattenFrom_plain`, a mapping without such keys stays as it is.
-/

namespace Credentials.Yaml

namespace Nodes

/-- The outcome of a change of nodes. -/
abbrev Change := StateT Nodes Scan

/-- Puts pairs in front of those of a mapping. -/
def putInFront (id : Nat) (merged : List (Nat × Nat)) : Change Unit :=
  if merged.isEmpty then pure ()
  else modify fun ns => ns.setContent id (.mapping (merged ++ ns.pairsOf id))

/-- The pairs of a mapping that a list of mappings names, after a visit to it. -/
def pairsNamed (visit : Nat → Change Unit) (id : Nat) : Change (List (Nat × Nat)) := do
  match (← get).contentOf id with
  | .mapping _ =>
    visit id
    return (← get).pairsOf id
  | _ => throw (.malformed ((← get).lineOf id + 1))

/-- The pairs that the value of a merge key names, after a visit to every mapping. -/
def pairsMerged (visit : Nat → Change Unit) (id : Nat) : Change (List (Nat × Nat)) := do
  match (← get).contentOf id with
  | .sequence items => return (← items.mapM (pairsNamed visit)).reverse.flatten
  | _ => pairsNamed visit id

/-- Goes on through the pairs of a mapping from a place, for a number of pairs, with what was merged
so far. The pairs are looked up anew every time, because a visit may come back to this mapping. -/
def flattenFrom (visit : Nat → Change Unit) (id : Nat) :
    Nat → Nat → List (Nat × Nat) → Change Unit
  | 0, _, merged => putInFront id merged
  | n + 1, place, merged => do
    let ns ← get
    match (ns.pairsOf id)[place]? with
    | none => putInFront id merged
    | some (k, v) =>
      match ns.tagOf k with
      | .merge => do
        set (ns.setContent id (.mapping ((ns.pairsOf id).eraseIdx place)))
        let more ← pairsMerged visit v
        flattenFrom visit id n place (merged ++ more)
      | .value => do
        set (ns.setTag k .str)
        flattenFrom visit id n (place + 1) merged
      | _ => flattenFrom visit id n (place + 1) merged

/-- Whether a key of a mapping has one of the two signs. -/
def hasSigns (ns : Nodes) (id : Nat) : Bool :=
  (ns.pairsOf id).any fun p => ns.tagOf p.1 == .merge || ns.tagOf p.1 == .value

/-- Replaces the signs among the keys of a mapping; the first number bounds the merges. -/
def flatten : Nat → Nat → Change Unit
  | 0, _ => pure ()
  | merges + 1, id => do
    let ns ← get
    if ns.hasSigns id then flattenFrom (flatten merges) id (ns.pairsOf id).length 0 []
    else pure ()

theorem flattenFrom_plain {ns : Nodes} {id : Nat} (h : ns.hasSigns id = false)
    (visit : Nat → Change Unit) (n place : Nat) :
    (flattenFrom visit id n place []).run ns = .ok ((), ns) := by
  induction n generalizing place with
  | zero => rfl
  | succ n ih =>
    simp only [flattenFrom, StateT.run_bind, StateT.run_get, pure_bind]
    split
    · rfl
    · next k v hk =>
      have hmem : (k, v) ∈ ns.pairsOf id := List.mem_of_getElem? hk
      have hplain := List.any_eq_false.1 h _ hmem
      split
      · next ht => simp [ht] at hplain
      · next ht => simp [ht] at hplain
      · exact ih (place + 1)

end Nodes

end Credentials.Yaml
