import Credentials.Bundle
import Credentials.Error
import Credentials.Raw.Equality

/-!
# Records

A record is an object with named slots: a group, a resolved backend, or a bundle. It is built from
named values (`Built.ofNamed`), and what is wrong with them is reported slot by slot in the order of
declaration, names that are no slots last and in the order of the input.

A slot for a credential takes any value: a wrapper that fits the declared kind is kept, another
wrapper gives way to one of the declared kind, and every other value is wrapped. Nothing stays
nothing only where the slot is optional. A backend's record has the backend's tag as its first slot.

`Bundle.group?` and `Bundle.toRaw` show a bundle as records, `Bundle.build` reads one back.
-/

namespace Credentials

/-- What a record holds, slot by slot. -/
abbrev Slots := List (String × Raw)

/-- The faults of a record, each with the names on the way to it. -/
abbrev Faults := List (RecordFault × List String)

/-- The value of a name; of several the last counts. -/
def Slots.get? (s : Slots) (name : String) : Option Raw := (s.reverse.find? (·.1 == name)).map (·.2)

/-- The names that were given, each at its first place and with its last value. -/
def Slots.dedup : Slots → Slots
  | [] => []
  | (n, v) :: r =>
    let v' := (Slots.get? r n).getD v
    (n, v') :: (dedup r).filter (·.1 != n)

/-! ## Slots of credentials -/

/-- The value of a credential's slot. -/
def wrap (declared : SecretKind) : Raw → Raw
  | .secret k v => if k.fits declared then .secret k v else .secret declared v
  | v => .secret declared v

/-- A credential's slot that may be empty: nothing, or a wrapper. -/
def optionalSlot (declared : SecretKind) (given : Option Raw) : Raw :=
  match given with
  | none | some .null => .null
  | some v => wrap declared v

/-- The names that are no slots, as faults. -/
def extras (known : List String) (given : Slots) : Faults :=
  (given.filter fun p => !known.contains p.1).map fun p => (.extraForbidden, [p.1])

/-- The slots of a group, by name. -/
def groupSlots (g : Group) : List Field := Field.ofGroup g

/-- Builds a group from named values. -/
def buildGroup (g : Group) (given : Slots) : Except Faults Slots :=
  match extras ((groupSlots g).map Field.slot) given with
  | [] => .ok ((groupSlots g).map fun f => (f.slot, optionalSlot f.kind (given.get? f.slot)))
  | faults => .error faults

/-- The name of the slot that holds a backend's tag. -/
def tagSlot : String := "backend"

/-- The fault of a given tag, if it is not the backend's. -/
def tagFaults (b : Backend) (given : Slots) : Faults :=
  match given.get? tagSlot with
  | none => []
  | some v => if v.same (.text b.name) then [] else [(.literalError, [tagSlot])]

/-- Builds a backend's record from named values. -/
def buildBackend (b : Backend) (given : Slots) : Except Faults Slots :=
  let fields := Field.ofBackend b
  let missing := fields.filterMap fun f =>
    if (given.get? f.localName).isNone then some (RecordFault.missing, [f.localName]) else none
  match tagFaults b given ++ missing ++ extras (tagSlot :: fields.map Field.localName) given with
  | [] =>
    .ok ((tagSlot, .text b.name)
      :: fields.map fun f => (f.localName, wrap f.kind ((given.get? f.localName).getD .null)))
  | faults => .error faults

/-! ## Bundles as records -/

/-- The record of a group, if the group is there. -/
def Bundle.group? (b : Bundle) (g : Group) : Option Raw :=
  if b.holds g then
    some (.record (.group g) ((groupSlots g).map fun f => (f.slot, Leaf.orNull (b.get f))))
  else none

/-- The bundle as a record. -/
def Bundle.toRaw (b : Bundle) : Raw :=
  .record .bundle (Group.all.map fun g => (g.name, (b.group? g).getD .null))

/-- The wrapper in a slot. -/
def Leaf.ofRaw? : Raw → Option Leaf
  | .secret k v => some ⟨k, v⟩
  | _ => none

/-- The bundle with a group taken from the slots of a record, or without the group. -/
def Bundle.setGroup (b : Bundle) (g : Group) (slots : Option Slots) : Bundle where
  leaf f :=
    if f.group = g then (slots.bind (·.get? f.slot)).bind Leaf.ofRaw? else b.leaf f
  holds h := if h = g then slots.isSome else b.holds h
  holds_of_leaf f hf := by
    split
    · next h =>
      rw [if_pos h] at hf
      cases slots <;> simp_all
    · next h =>
      rw [if_neg h] at hf
      exact b.holds_of_leaf f hf

/-- The slots of a group given as a value: a mapping with texts for keys, or that group's record. -/
def buildGroupValue (g : Group) (v : Raw) : Except Faults (Option Slots) :=
  match v with
  | .null => .ok none
  | .map entries => (buildGroup g (entries.map fun p => (p.1.display, p.2))).map some
  | .record cls slots => if cls = .group g then .ok (some slots) else .error [(.modelType, [])]
  | _ => .error [(.modelType, [])]

/-- Builds a bundle from named groups. -/
def Bundle.build (given : Slots) : Except Faults Bundle :=
  let groups := Group.all.map fun g => (g, buildGroupValue g ((given.get? g.name).getD .null))
  let faults := groups.flatMap fun p =>
    match p.2 with
    | .ok _ => []
    | .error fs => fs.map fun x => (x.1, p.1.name :: x.2)
  match faults ++ extras (Group.all.map Group.name) given with
  | [] =>
    .ok <| groups.foldl
      (fun b p => match p.2 with
        | .ok slots => b.setGroup p.1 slots
        | .error _ => b)
      .empty
  | all => .error all

/-! ## The union of backends -/

/-- The name of the union of backends. -/
def unionName : String :=
  "tagged-union[" ++ ",".intercalate (Backend.all.map fun b => (RecordClass.backend b).name) ++ "]"

/-- Builds the record of whichever backend the tag names; its faults come after the tag. -/
def buildUnion (given : Slots) : Except Faults (Backend × Slots) :=
  match given.get? tagSlot with
  | none => .error [(.unionTagNotFound, [])]
  | some tag =>
    match tag.asText?.bind Backend.ofName? with
    | none => .error [(.unionTagInvalid, [])]
    | some b =>
      match buildBackend b given with
      | .ok slots => .ok (b, slots)
      | .error fs => .error (fs.map fun x => (x.1, b.name :: x.2))

/-! ## Building by name -/

/-- What is built from named values. -/
inductive Built where
  | bundle (b : Bundle)
  | record (cls : RecordClass) (slots : Slots)

/-- The classes of records that can be built by their names. -/
def RecordClass.built : List RecordClass :=
  .bundle :: Group.all.map .group ++ Backend.all.map .backend

/-- The class of a name. -/
def RecordClass.ofName? (name : String) : Option RecordClass := built.find? (·.name == name)

/-- An outcome with its faults told under a title. -/
def titled {α β : Type} (title : String) (f : α → β) : Except Faults α → Except Error β
  | .ok x => .ok (f x)
  | .error faults => .error (.record title faults)

/-- Builds what a name stands for: a record by the name of its class, and the record of the backend
that is named by the tag for any other name. Of two values for one name the last counts. -/
def Built.ofNamed (name : String) (given : Slots) : Except Error Built :=
  let given := given.dedup
  match RecordClass.ofName? name with
  | some .bundle => titled name .bundle (Bundle.build given)
  | some (.group g) => titled name (.record (.group g)) (buildGroup g given)
  | some (.backend b) => titled name (.record (.backend b)) (buildBackend b given)
  | _ => titled unionName (fun p => .record (.backend p.1) p.2) (buildUnion given)

end Credentials
