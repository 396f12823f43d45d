import Credentials.Dump
import Credentials.Proofs.Schema
import Credentials.Proofs.Wording

/-!
# The shape of a dump

A dump is made by putting marks at paths one after the other. What comes out has a shape that
depends on the role alone: an object of the exposed groups, in it the credentials of each group, and
the credentials of the backends one level deeper. Only the marks depend on the bundle.

* `nest_exposedFields` — the marks of the exposed paths nest into that object
* `View.dump_eq_shownObject` — the dump of a view marks its present paths
* `flatten_shownObject` — the paths of the object are exactly those that the role exposes
* `within_shownObject` — the object in print holds no carriage return
-/

namespace Credentials

open Text

/-! ## The object of a role -/

/-- The entries of a group, each credential with its mark. -/
def Group.shown (mark : Field → Raw) (g : Group) : List (Raw × Raw) :=
  if g = .dataAvailability then
    Backend.all.map fun x =>
      (.text x.name, .map ((Field.ofBackend x).map fun f => (.text f.localName, mark f)))
  else (Field.ofGroup g).map fun f => (.text f.localName, mark f)

/-- The object of the groups that a role exposes, each credential with its mark. -/
def shownObject (r : Role) (mark : Field → Raw) : List (Raw × Raw) :=
  (Group.all.filter r.exposes).map fun g => (.text g.name, .map (g.shown mark))

/-- The mark of a credential, given the paths that are present. -/
def markIn (paths : List String) (f : Field) : Raw :=
  if f.path ∈ paths then .text redacted else .null

theorem segmentsOf_path (f : Field) : segmentsOf f.path = f.segments := by
  cases f <;> decide +kernel

/-- **The marks of the paths that a role exposes nest into the object of its groups.** -/
theorem nest_exposedFields (r : Role) (mark : Field → Raw) :
    nest (r.exposedFields.map fun f => (f.path, mark f)) = some (shownObject r mark) := by
  have hpaths : nest (r.exposedFields.map fun f => (f.path, mark f))
      = r.exposedFields.foldlM (fun entries f => insertAt (mark f) f.segments entries) [] := by
    rw [nest, List.foldlM_map]
    simp only [segmentsOf_path]
  rw [hpaths]
  -- the credentials of a role are a closed list: nothing but the marks is unknown
  cases r <;> rfl

theorem View.mem_presentPaths_of_exposed {v : View} {f : Field}
    (h : v.role.exposes f.group = true) : f.path ∈ v.presentPaths ↔ v.store.isSet f = true := by
  rw [presentPaths, List.mem_map]
  constructor
  · rintro ⟨g, hg, hp⟩
    obtain rfl := Field.path_injective hp
    exact (List.mem_filter.mp hg).2
  · intro hs
    exact ⟨f, List.mem_filter.mpr ⟨List.mem_filter.mpr ⟨Field.mem_all f, h⟩, hs⟩, rfl⟩

/-- **The dump of a view is the object of its role, with marks at the view's present paths.** -/
theorem View.dump_eq_shownObject (v : View) :
    v.dump = .map (shownObject v.role (markIn v.presentPaths)) := by
  have hflat : v.flatDump
      = v.role.exposedFields.map fun f => (f.path, markIn v.presentPaths f) := by
    refine List.map_congr_left fun f hf => ?_
    have he : v.role.exposes f.group = true := (List.mem_filter.mp hf).2
    have hp := mem_presentPaths_of_exposed he
    show (f.path, if v.store.isSet f = true then Raw.text redacted else .null)
      = (f.path, if f.path ∈ v.presentPaths then Raw.text redacted else .null)
    simp only [hp]
  rw [dump, hflat, nest_exposedFields]
  rfl

/-! ## The paths of the object -/

theorem Field.childPath_localName {f : Field} (h : f.backend? = none) :
    childPath f.group.name (.text f.localName) = f.path := by
  cases f <;> first | decide +kernel | cases h

theorem Field.childPath_backend {f : Field} {x : Backend} (h : f.backend? = some x) :
    childPath (childPath Group.dataAvailability.name (.text x.name)) (.text f.localName)
      = f.path := by
  cases f <;> cases h <;> decide +kernel

theorem flattenValue_markIn (path : String) (paths : List String) (f : Field) :
    flattenValue path (markIn paths f) = [(path, markIn paths f)] := by
  unfold markIn
  split
  · exact flattenValue_text _ _
  · exact flattenValue_null _

/-- Credentials under their local names are flattened to their paths. -/
theorem flatten_marks {parent : String} (paths : List String) {fs : List Field}
    (h : ∀ f ∈ fs, childPath parent (.text f.localName) = f.path) :
    flatten parent (fs.map fun f => (.text f.localName, markIn paths f))
      = fs.map fun f => (f.path, markIn paths f) := by
  induction fs with
  | nil => exact flatten_nil parent
  | cons f fs ih =>
    obtain ⟨hf, hfs⟩ := List.forall_mem_cons.mp h
    rw [List.map_cons, flatten_cons, hf, flattenValue_markIn, ih hfs, List.map_cons]
    rfl

theorem flatten_shown (paths : List String) (g : Group) :
    flatten g.name (g.shown (markIn paths))
      = (Field.ofGroup g).map fun f => (f.path, markIn paths f) := by
  unfold Group.shown
  split
  · next hg =>
    subst hg
    have hbackend : ∀ x : Backend,
        flattenValue (childPath Group.dataAvailability.name (.text x.name))
            (.map ((Field.ofBackend x).map fun f => (.text f.localName, markIn paths f)))
          = (Field.ofBackend x).map fun f => (f.path, markIn paths f) := fun x => by
      rw [flattenValue_map]
      exact flatten_marks paths fun f hf => Field.childPath_backend (Field.mem_ofBackend.mp hf)
    rw [← Field.flatMap_ofBackend, List.map_flatMap]
    simp only [Backend.all, List.map_cons, List.map_nil, flatten_cons, hbackend, flatten_nil,
      List.flatMap_cons, List.flatMap_nil]
  · next hg =>
    refine flatten_marks paths fun f hf => ?_
    obtain rfl := Field.mem_ofGroup.mp hf
    exact Field.childPath_localName (Field.backend?_eq_none_of_group_ne hg)

/-- **The object of a role has exactly the paths that the role exposes**, in the order of the schema
and each with its mark. -/
theorem flatten_shownObject (r : Role) (paths : List String) :
    flatten "" (shownObject r (markIn paths))
      = r.exposedFields.map fun f => (f.path, markIn paths f) := by
  have hgroups : ∀ gs : List Group,
      flatten "" (gs.map fun g => (.text g.name, .map (g.shown (markIn paths))))
        = (gs.flatMap Field.ofGroup).map fun f => (f.path, markIn paths f) := by
    intro gs
    induction gs with
    | nil => exact flatten_nil ""
    | cons g gs ih =>
      have hname : childPath "" (.text g.name) = g.name := Raw.display_text _
      rw [List.map_cons, flatten_cons, hname, flattenValue_map, flatten_shown, ih,
        List.flatMap_cons, List.map_append]
  have hfields : (Group.all.filter r.exposes).flatMap Field.ofGroup = r.exposedFields := by
    cases r <;> rfl
  rw [shownObject, hgroups, hfields]

/-! ## The object in print -/

namespace Raw

theorem ne_return_of_mem_hexDigits {c : Char} {n : Nat} :
    ∀ {width : Nat}, c ∈ hexDigits width n → c ≠ '\r'
  | 0, h => absurd h List.not_mem_nil
  | width + 1, h => by
    have hdigit : ∀ m < 16, Nat.digitChar m ≠ '\r' := by decide
    rcases List.mem_append.mp h with h | h
    · exact ne_return_of_mem_hexDigits h
    · rw [List.mem_singleton.mp h]
      exact hdigit _ (Nat.mod_lt _ (by decide))

theorem ne_return_of_mem_jsonChar {c d : Char} (h : d ∈ jsonChar c) : d ≠ '\r' := by
  have hunit : ∀ {n : Nat}, d ∈ '\\' :: 'u' :: hexDigits 4 n → d ≠ '\r' := by
    intro n hd
    rcases List.mem_cons.mp hd with rfl | hd
    · decide
    · rcases List.mem_cons.mp hd with rfl | hd
      · decide
      · exact ne_return_of_mem_hexDigits hd
  rintro rfl
  simp only [jsonChar] at h
  split at h
  · next hc =>
    rcases hc with rfl | rfl <;> simp at h
  split at h
  · simp at h
  split at h
  · simp at h
  split at h
  · simp at h
  split at h
  · simp at h
  split at h
  · simp at h
  split at h
  · next hc =>
    obtain rfl := List.mem_singleton.mp h
    exact absurd hc.1 (by decide)
  split at h
  · exact hunit h rfl
  · obtain ⟨n, -, hn⟩ := List.mem_flatMap.mp h
    exact hunit hn rfl

/-- No carriage return is left in a JSON text. -/
theorem within_jsonText (s : String) : Within (· ≠ '\r') (jsonText s) := by
  refine (Within.append (by decide) fun d hd => ?_).append (by decide)
  rw [String.toList_ofList] at hd
  obtain ⟨c, -, hc⟩ := List.mem_flatMap.mp hd
  exact ne_return_of_mem_jsonChar hc

theorem indentedJson_text (level : Nat) (s : String) :
    (text s).indentedJson level = jsonText s := by
  simp [indentedJson, compactJson]

theorem indentedJson_null (level : Nat) : null.indentedJson level = "null" := by
  simp [indentedJson, compactJson]

theorem indentedEntries_eq_map (level : Nat) (entries : List (Raw × Raw)) :
    indentedEntries level entries
      = entries.map fun p => (p.1.display, p.2.indentedJson level) := by
  induction entries with
  | nil => simp [indentedEntries]
  | cons p r ih =>
    obtain ⟨k, v⟩ := p
    rw [indentedEntries, ih, List.map_cons]

theorem within_newLine (level : Nat) : Within (· ≠ '\r') (newLine level) := by
  refine Within.append (by decide) fun c hc => ?_
  rw [String.toList_ofList] at hc
  rw [List.eq_of_mem_replicate hc]
  decide

/-- Lines without carriage returns between brackets without them. -/
theorem within_block {opening closing : String} (ho : Within (· ≠ '\r') opening)
    (hc : Within (· ≠ '\r') closing) (level : Nat) {items : List String}
    (h : ∀ s ∈ items, Within (· ≠ '\r') s) :
    Within (· ≠ '\r') (block opening closing level items) := by
  unfold block
  split
  · exact ho.append hc
  · have hitems := ((Within.append (by decide) (within_newLine (level + 1))).intercalate h :
      Within (· ≠ '\r') (("," ++ newLine (level + 1)).intercalate items))
    exact (((ho.append (within_newLine _)).append hitems).append (within_newLine _)).append hc

/-- A mapping in print holds no carriage return if the values in it do not. -/
theorem within_indentedJson_map {level : Nat} {entries : List (Raw × Raw)}
    (h : ∀ p ∈ entries, Within (· ≠ '\r') (p.2.indentedJson (level + 1))) :
    Within (· ≠ '\r') ((Raw.map entries).indentedJson level) := by
  rw [indentedJson, indentedEntries_eq_map]
  refine within_block (by decide) (by decide) level fun s hs => ?_
  obtain ⟨⟨k, v⟩, hm, rfl⟩ := List.mem_map.mp hs
  obtain ⟨p, hp, hkv⟩ := List.mem_map.mp (List.mem_mergeSort.mp hm)
  obtain ⟨rfl, rfl⟩ := Prod.mk.inj hkv
  exact ((within_jsonText _).append (by decide)).append (h p hp)

end Raw

/-- The object of a role in print holds no carriage return. -/
theorem within_shownObject (r : Role) (paths : List String) :
    Within (· ≠ '\r') ((Raw.map (shownObject r (markIn paths))).indentedJson 0) := by
  have hmark : ∀ (level : Nat) (f : Field),
      Within (· ≠ '\r') ((markIn paths f).indentedJson level) := by
    intro level f
    unfold markIn
    split
    · rw [Raw.indentedJson_text]
      exact Raw.within_jsonText _
    · rw [Raw.indentedJson_null]
      decide
  have hmarks : ∀ (level : Nat) (fs : List Field), Within (· ≠ '\r')
      ((Raw.map (fs.map fun f => (.text f.localName, markIn paths f))).indentedJson level) := by
    intro level fs
    refine Raw.within_indentedJson_map fun p hp => ?_
    obtain ⟨f, -, rfl⟩ := List.mem_map.mp hp
    exact hmark _ f
  refine Raw.within_indentedJson_map fun p hp => ?_
  obtain ⟨g, -, rfl⟩ := List.mem_map.mp hp
  show Within (· ≠ '\r') ((Raw.map (g.shown (markIn paths))).indentedJson 1)
  unfold Group.shown
  split
  · refine Raw.within_indentedJson_map fun q hq => ?_
    obtain ⟨x, -, rfl⟩ := List.mem_map.mp hq
    exact hmarks _ _
  · exact hmarks _ _

end Credentials
