import Credentials.Source.Basic
import Credentials.Text.Pieces
import Credentials.View

/-!
# Redacted dumps

A dump shows for every path of a bundle, or every path that a view's role exposes, whether something
is there: the redaction marker or nothing. The flat list of paths is nested at the dots (`nest`),
which fails only where a path leads through a place that already holds a value.
-/

namespace Credentials

/-! ## Nesting -/

/-- The segments of a path: what stands between its dots. -/
def segmentsOf (path : String) : List String := (Text.pieces '.' path.toList).map String.ofList

/-- Whether an entry has a text for its key, and which. -/
def keyIs (name : String) : Raw → Bool
  | .text s => s == name
  | _ => false

/-- Puts a value below nested mappings along the segments of a path. A mapping on the way is entered
or, if it is missing, made; a value on the way that is no mapping is an obstacle. -/
def insertAt (value : Raw) : List String → List (Raw × Raw) → Option (List (Raw × Raw))
  | [], entries => some entries
  | [s], entries => some (putEntry (fun k _ => keyIs s k) (.text s) value entries)
  | s :: r, entries =>
    match entries.find? fun p => keyIs s p.1 with
    | none => (insertAt value r []).map fun inner => entries ++ [(.text s, .map inner)]
    | some (_, .map inner) =>
      (insertAt value r inner).map fun inner' =>
        putEntry (fun k _ => keyIs s k) (.text s) (.map inner') entries
    | some _ => none

/-- Nests a flat list of paths and values. -/
def nest (flat : List Pair) : Option (List (Raw × Raw)) :=
  flat.foldlM (fun entries p => insertAt p.2 (segmentsOf p.1) entries) []

/-! ## Dumps -/

/-- The marker for a credential that is there, nothing for one that is not. -/
def redactedAt (l : Option Leaf) : Raw := if l.isSome then .text redacted else .null

/-- The flat dump of a bundle. -/
def Bundle.flatDump (b : Bundle) : List Pair :=
  Field.all.map fun f => (f.path, redactedAt (b.get f))

/-- The flat dump of a view. -/
def View.flatDump (v : View) : List Pair :=
  v.role.exposedFields.map fun f => (f.path, redactedAt (v.store.get f))

/-- The nested dump of a bundle. -/
def Bundle.dump (b : Bundle) : Raw := .map ((nest b.flatDump).getD [])

/-- The nested dump of a view. -/
def View.dump (v : View) : Raw := .map ((nest v.flatDump).getD [])

/-- A record with every wrapper redacted. -/
def redactSlots (slots : Slots) : Raw :=
  .map (slots.map fun p =>
    (.text p.1, match p.2 with
      | .secret _ _ => .text redacted
      | v => v))

/-- A group of a bundle with every wrapper redacted, or nothing for a missing one. -/
def Bundle.groupDumpOf (b : Bundle) (g : Group) : Raw :=
  match b.group? g with
  | some (.record _ slots) => redactSlots slots
  | _ => .null

/-- A bundle group by group, with every wrapper redacted and nothing for a missing group. -/
def Bundle.groupDump (b : Bundle) : Raw :=
  .map (Group.all.map fun g => (.text g.name, b.groupDumpOf g))

end Credentials
