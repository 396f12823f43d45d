import Credentials.View

/-!
# Facts about the schema

How paths, groups, backends and requirements of the thirteen credentials fit together. The theorems
about bundles and views cite these instead of going through the credentials again.
-/

namespace Credentials

namespace Field

theorem ofPath?_eq_none_iff {p : String} : ofPath? p = none ↔ ∀ f : Field, f.path ≠ p := by
  constructor
  · intro h f hf
    rw [← hf, ofPath?_path] at h
    cases h
  · intro h
    cases hp : ofPath? p with
    | none => rfl
    | some f => exact absurd (path_of_ofPath? hp) (h f)

theorem mem_ofBackend {f : Field} {x : Backend} : f ∈ ofBackend x ↔ f.backend? = some x := by
  rw [ofBackend, List.mem_filter, beq_iff_eq]
  exact ⟨fun h => h.2, fun h => ⟨mem_all f, h⟩⟩

theorem mem_ofGroup {f : Field} {g : Group} : f ∈ ofGroup g ↔ f.group = g := by
  rw [ofGroup, List.mem_filter, beq_iff_eq]
  exact ⟨fun h => h.2, fun h => ⟨mem_all f, h⟩⟩

/-- Exactly the data-availability credentials belong to a backend. -/
theorem exists_backend?_iff {f : Field} :
    (∃ x, f.backend? = some x) ↔ f.group = .dataAvailability := by
  cases f <;> simp [backend?, group]

theorem backend?_eq_none_of_group_ne {f : Field} (h : f.group ≠ .dataAvailability) :
    f.backend? = none := by
  cases hx : f.backend? with
  | none => rfl
  | some x => exact absurd (exists_backend?_iff.mp ⟨x, hx⟩) h

/-- The backends' credentials, backend after backend, are the group's in the order of the schema. -/
theorem flatMap_ofBackend : Backend.all.flatMap ofBackend = ofGroup .dataAvailability := rfl

theorem nodup_all : all.Nodup := by decide

/-- Different credentials have different paths. -/
theorem nodup_map_path {fs : List Field} (h : fs.Nodup) : (fs.map path).Nodup := by
  rw [List.Nodup, List.pairwise_map]
  exact h.imp fun hne hp => hne (path_injective hp)

/-- No group's name is the path of a credential. -/
theorem path_ne_groupName (f : Field) (g : Group) : f.path ≠ g.name := by
  cases f <;> cases g <;> decide +kernel

end Field

theorem Backend.nodup_all : Backend.all.Nodup := by decide

namespace Role

theorem mem_requiredPaths {r : Role} {p : String} :
    p ∈ r.requiredPaths ↔ ∃ f ∈ r.required, f.path = p := by
  rw [requiredPaths, sorted, List.mem_mergeSort, List.mem_map]

theorem mem_exposedFields {r : Role} {f : Field} :
    f ∈ r.exposedFields ↔ r.exposes f.group = true := by
  rw [exposedFields, List.mem_filter]
  exact and_iff_right (Field.mem_all f)

theorem mem_required {r : Role} {f : Field} :
    f ∈ r.required ↔ (r.needsL1Rpc = true ∧ f = .l1RpcUrl) ∨ f ∈ r.consensusKeys := by
  unfold required
  split
  · next h => rw [List.singleton_append, List.mem_cons, and_iff_right h]
  · next h => simp [h]

/-- A role sees every credential that it requires. -/
theorem exposes_of_mem_required {r : Role} {f : Field} (h : f ∈ r.required) :
    r.exposes f.group = true := by
  revert h
  cases r <;> cases f <;> decide

/-- A role that requires a backend sees the backends. -/
theorem exposes_of_needsBackend {r : Role} (h : r.needsBackend = true) :
    r.exposes .dataAvailability = true := by
  obtain rfl : r = .dataAvailabilityClient := beq_iff_eq.mp h
  rfl

/-- No credential that is required by itself belongs to a backend. -/
theorem backend?_of_mem_required {r : Role} {f : Field} (h : f ∈ r.required) :
    f.backend? = none := by
  revert h
  cases r <;> cases f <;> decide

end Role

namespace Bundle

variable (b : Bundle)

theorem isSet_eq_false_iff {b : Bundle} {f : Field} : b.isSet f = false ↔ b.get f = none := by
  rw [isSet, Option.isSome_eq_false_iff, Option.isNone_iff_eq_none]

theorem path_mem_presentPaths {b : Bundle} {f : Field} :
    f.path ∈ b.presentPaths ↔ b.isSet f = true := by
  rw [presentPaths, present, List.mem_map]
  constructor
  · rintro ⟨g, hg, hp⟩
    rw [← Field.path_injective hp]
    exact (List.mem_filter.mp hg).2
  · intro h
    exact ⟨f, List.mem_filter.mpr ⟨Field.mem_all f, h⟩, rfl⟩

/-- If a condition on paths tells which credentials are set, it picks the present paths out of the
schema's. -/
theorem presentPaths_eq_filter {p : String → Bool} (h : ∀ f : Field, b.isSet f = p f.path) :
    b.presentPaths = (Field.all.map Field.path).filter p := by
  rw [List.filter_map, presentPaths, present]
  congr 1
  exact List.filter_congr fun f _ => h f

/-- In bundles without empty groups, a group is there if one of its credentials is set. -/
theorem Canonical.holds_congr {a b : Bundle} (ha : a.Canonical) (hb : b.Canonical) {g : Group}
    (h : ∀ f : Field, f.group = g → a.isSet f = b.isSet f) : a.holds g = b.holds g := by
  rw [ha g, hb g, Bool.eq_iff_iff, List.any_eq_true, List.any_eq_true]
  refine exists_congr fun f => and_congr_right fun hf => ?_
  rw [h f (Field.mem_ofGroup.mp hf)]

/-- Bundles without empty groups are equal if they hold the same. -/
theorem Canonical.ext {a b : Bundle} (ha : a.Canonical) (hb : b.Canonical)
    (h : ∀ f, a.get f = b.get f) : a = b :=
  eq_of_get_of_holds h fun _ => ha.holds_congr hb fun f _ => congrArg Option.isSome (h f)

theorem nodup_presentPaths : b.presentPaths.Nodup := Field.nodup_map_path (Field.nodup_all.filter _)

end Bundle

end Credentials
