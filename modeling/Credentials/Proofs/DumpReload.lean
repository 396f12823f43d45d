import Credentials.Proofs.DumpShape
import Credentials.Proofs.KeyChains
import Credentials.Proofs.MergeAlgebra

/-!
# Dumps that are loaded again

A redacted dump is a nested mapping with texts for keys, so it can be loaded like any other. The
bundle that comes back has lost every value and nothing else: the same paths are present, and at
each of them stands the marker.

1. **The shape.** The dump of a view is the object of its role (`View.dump_eq_shownObject`), and
   that of a bundle the object of a role that sees every group (`Bundle.dump_eq_shownObject`).
2. **The load.** The object of a role nests by texts (`nestedByText_shownObject`), and a load of it
   holds the marker at the marked paths (`load_shownObject`).

Main statement: `dump_reloads`.
-/

namespace Credentials

/-! ## The shape of a bundle's dump -/

/-- **The dump of a bundle is the object of a role that exposes every group**, with marks at the
bundle's present paths. -/
theorem Bundle.dump_eq_shownObject (b : Bundle) :
    b.dump = .map (shownObject .mainNode (markIn b.presentPaths)) := by
  have hflat : b.flatDump
      = Role.mainNode.exposedFields.map fun f => (f.path, markIn b.presentPaths f) := by
    refine List.map_congr_left fun f _ => ?_
    show (f.path, if b.isSet f = true then Raw.text redacted else .null)
      = (f.path, if f.path ∈ b.presentPaths then Raw.text redacted else .null)
    simp only [path_mem_presentPaths]
  rw [dump, hflat, nest_exposedFields]
  rfl

/-! ## Loading the object of a role -/

theorem isMapping_markIn (paths : List String) (f : Field) : (markIn paths f).isMapping = false := by
  unfold markIn
  split <;> rfl

/-- Values that are no mappings, under texts. -/
theorem NestedByText.map_leaf {α : Type} {key : α → String} {value : α → Raw}
    (h : ∀ x, (value x).isMapping = false) (xs : List α) :
    NestedByText (xs.map fun x => (.text (key x), value x)) := by
  induction xs with
  | nil => exact .nil
  | cons x xs ih => exact .leaf (key x) (h x) ih

/-- Mappings that nest by texts, under texts. -/
theorem NestedByText.map_node {α : Type} {key : α → String} {inner : α → List (Raw × Raw)}
    (h : ∀ x, NestedByText (inner x)) (xs : List α) :
    NestedByText (xs.map fun x => (.text (key x), .map (inner x))) := by
  induction xs with
  | nil => exact .nil
  | cons x xs ih => exact .node (key x) (h x) ih

theorem nestedByText_shownObject (r : Role) (paths : List String) :
    NestedByText (shownObject r (markIn paths)) := by
  have hmarks : ∀ fs : List Field,
      NestedByText (fs.map fun f => (.text f.localName, markIn paths f)) :=
    .map_leaf (isMapping_markIn paths)
  refine .map_node (fun g => ?_) _
  unfold Group.shown
  split
  · exact .map_node (fun x => hmarks (Field.ofBackend x)) _
  · exact hmarks _

/-- A mark supplies the marker, and its absence nothing. -/
theorem heldText_markIn (paths : List String) (f : Field) :
    heldText (markIn paths f) = if f.path ∈ paths then some redacted else none := by
  unfold markIn
  split <;> rfl

/-- **The object of a role is loaded, to the marker at every marked path that the role exposes.** -/
theorem load_shownObject (r : Role) (paths : List String) :
    ∃ c, (load (Source.ofLayers [.mapping (shownObject r (markIn paths))])).result = .ok c
      ∧ ∀ f : Field, c.get f = if r.exposes f.group = true ∧ f.path ∈ paths
        then some ⟨f.kind, .text redacted⟩ else none := by
  have hsource : ∀ name, Source.ofMapping name (shownObject r (markIn paths))
      = .ofPairs name (r.exposedFields.map fun f => (f.path, markIn paths f)) := fun name => by
    rw [Source.ofMapping, (nestedByText_shownObject r paths).stuckIn_eq_none, flatten_shownObject]
  have hpairs : (Layer.mapping (shownObject r (markIn paths))).pairs
      = r.exposedFields.map fun f => (f.path, markIn paths f) := congrArg Source.pairs (hsource _)
  have hgood : (Layer.mapping (shownObject r (markIn paths))).Good := by
    refine ⟨congrArg Source.fault (hsource _), ?_⟩
    rw [hpairs]
    refine List.forall_mem_map.mpr fun f _ => not_badPair_iff.mpr ⟨⟨f, rfl⟩, ?_⟩
    show (markIn paths f).Writable
    unfold markIn
    split
    · exact .inr ⟨_, rfl⟩
    · exact .inl rfl
  obtain ⟨c, hc, hget⟩ := load_ofLayers_of_good (List.forall_mem_singleton.mpr hgood)
  refine ⟨c, hc, fun f => ?_⟩
  have hlast : lastValue? (r.exposedFields.map fun g => (g.path, markIn paths g)) f.path
      = if r.exposes f.group = true then some (markIn paths f) else none := by
    have h := lastValue?_filterMap (fun g => some (markIn paths g)) r.exposedFields f
    rw [← List.filterMap_eq_map]
    simp only [Role.mem_exposedFields] at h
    exact h
  rw [hget, List.flatMap_singleton, hpairs, hlast]
  by_cases he : r.exposes f.group = true
  · rw [if_pos he, Option.bind_some, heldText_markIn]
    by_cases hp : f.path ∈ paths
    · rw [if_pos hp, if_pos ⟨he, hp⟩]
      rfl
    · rw [if_neg hp, if_neg fun h => hp h.2]
      rfl
  · rw [if_neg he, if_neg fun h => he h.1]
    rfl

/-! ## The law of dumps -/

/-- A dump that tells of some credentials, in their order, which of them are held, and that is
loaded to a bundle with the marker at the paths of those. -/
structure Reloads (entries : List (Raw × Raw)) (fields : List Field) (held : Field → Bool)
    (paths : List String) (c : Bundle) : Prop where
  pairs : flatten "" entries
    = fields.map fun f => (f.path, if held f then .text "***" else .null)
  once : ((flatten "" entries).map Prod.fst).Nodup
  loaded : (load (Source.ofLayers [.mapping entries])).result = .ok c
  present : c.presentPaths = paths
  leaves : ∀ f l, c.get f = some l → l = ⟨f.kind, .text "***"⟩

/-- The object of a role reloads if the marked paths are those of held credentials that the role
exposes. -/
theorem exists_reloads (r : Role) (held : Field → Bool) (paths : List String)
    (hheld : ∀ f, r.exposes f.group = true → (f.path ∈ paths ↔ held f = true))
    (hpaths : paths = (r.exposedFields.filter held).map Field.path) :
    ∃ c, Reloads (shownObject r (markIn paths)) r.exposedFields held paths c := by
  obtain ⟨c, hc, hget⟩ := load_shownObject r paths
  refine ⟨c, ?_, ?_, hc, ?_, fun f l hl => ?_⟩
  · rw [flatten_shownObject]
    refine List.map_congr_left fun f hf => ?_
    show (f.path, if f.path ∈ paths then Raw.text redacted else .null)
      = (f.path, if held f = true then Raw.text redacted else .null)
    simp only [hheld f (Role.mem_exposedFields.mp hf)]
  · rw [flatten_shownObject, List.map_map]
    exact Field.nodup_map_path (Field.nodup_all.filter _)
  · rw [hpaths, Bundle.presentPaths, Bundle.present, Role.exposedFields, List.filter_filter]
    refine congrArg (List.map Field.path) (List.filter_congr fun f _ => ?_)
    rw [Bundle.isSet, hget]
    by_cases he : r.exposes f.group = true
    · have hf := hheld f he
      by_cases hh : held f = true
      · rw [if_pos ⟨he, hf.mpr hh⟩, he, hh]
        rfl
      · rw [if_neg fun h => hh (hf.mp h.2), Bool.eq_false_iff.mpr hh]
        rfl
    · rw [if_neg fun h => he h.1, Bool.eq_false_iff.mpr he, Bool.and_false]
      rfl
  · rw [hget] at hl
    split at hl
    · exact (Option.some.inj hl).symm
    · cases hl

/-- **A redacted dump is exact, and reloads to the same presence.**

The dump of a bundle, flattened, gives every credential once and in the order of the schema, with
the marker where the bundle holds something and nothing elsewhere. It can be loaded; the loaded
bundle has the same present paths, holds the marker at each of them, and has the same dump again.
The dump of a view is the same for the credentials that its role exposes. -/
theorem dump_reloads :
    (∀ b : Bundle, ∃ entries c, b.dump = .map entries
        ∧ Reloads entries Field.all b.isSet b.presentPaths c ∧ c.dump = b.dump)
      ∧ ∀ v : View, ∃ entries c, v.dump = .map entries
        ∧ Reloads entries v.role.exposedFields (fun f => (v.reveal f.path).isOk) v.presentPaths c := by
  constructor
  · intro b
    obtain ⟨c, hc⟩ := exists_reloads .mainNode b.isSet b.presentPaths
      (fun f _ => Bundle.path_mem_presentPaths) rfl
    refine ⟨_, c, b.dump_eq_shownObject, hc, ?_⟩
    rw [c.dump_eq_shownObject, hc.present, b.dump_eq_shownObject]
  · intro v
    have hheld : ∀ f, v.role.exposes f.group = true →
        (v.reveal f.path).isOk = v.store.isSet f := fun f he => by
      rw [View.isOk_reveal, he, Bool.true_and]
    obtain ⟨c, hc⟩ := exists_reloads v.role (fun f => (v.reveal f.path).isOk) v.presentPaths
      (fun f he => by rw [hheld f he, View.mem_presentPaths_of_exposed he])
      (congrArg (List.map Field.path) (List.filter_congr fun f hf =>
        (hheld f (Role.mem_exposedFields.mp hf)).symm))
    exact ⟨_, c, v.dump_eq_shownObject, hc⟩

end Credentials
