import Credentials.Proofs.KeyTree
import Mathlib.Data.List.Pairwise

/-!
# Nesting and flattening

A flat list of paths and values is nested by one insertion after the other, each at the segments of
its path, and flattening joins the keys on the way to a value. Two things can go wrong:

1. **A path on the way of another one.** Its value stands where the longer path needs a mapping, so
   nesting fails if it comes first; if it comes last, what was nested there is lost. Paths that are
   not below one another have segments that part (`Apart.of_paths`), and then every insertion only
   adds its leaf (`nestOnto_of_apart`). A run that kept a leaf for each pair has met no other paths
   (`apart_of_nestOnto`).
2. **A path that starts with a dot.** Its first segments are empty, and flattening puts nothing for
   empty keys in front (`chainPath_segmentsOf_iff`).

Main statement: `flatten_nest_perm_iff`, without these two the pairs come back, and only without
them.
-/

namespace Credentials

/-! ## Paths and their segments -/

/-- A path that starts with a dot. -/
def StartsWithDot (path : String) : Prop := ∃ more, path = "." ++ more

/-- A path that goes on behind another one with a dot. The dot may be its end. -/
def IsBelow (path upper : String) : Prop := ∃ more, path = upper ++ "." ++ more

theorem segmentsOf_ne_nil (path : String) : segmentsOf path ≠ [] := by
  rw [segmentsOf, ne_eq, List.map_eq_nil_iff]
  exact Text.pieces_ne_nil '.' path.toList

theorem segmentsOf_dotted (path more : String) :
    segmentsOf (path ++ "." ++ more) = segmentsOf path ++ segmentsOf more := by
  have hchars : (path ++ "." ++ more).toList = path.toList ++ '.' :: more.toList := by simp
  rw [segmentsOf, hchars, Text.pieces_append_sep, List.map_append]
  rfl

theorem joinedKeys_map_ofList (ps : List (List Char)) :
    joinedKeys (ps.map String.ofList) = String.ofList (Text.join '.' ps) := by
  induction ps with
  | nil => rfl
  | cons p ps ih =>
    cases ps with
    | nil => exact String.intercalate_singleton
    | cons q qs =>
      rw [Text.join_cons_of_ne_nil '.' p (List.cons_ne_nil q qs), String.ofList_append,
        String.ofList_cons, ← ih]
      simp [joinedKeys, String.append_assoc]

/-- The segments of a path join to it. -/
theorem joinedKeys_segmentsOf (path : String) : joinedKeys (segmentsOf path) = path := by
  rw [segmentsOf, joinedKeys_map_ofList, Text.join_pieces, String.ofList_toList]

theorem segmentsOf_injective {p q : String} (h : segmentsOf p = segmentsOf q) : p = q := by
  rw [← joinedKeys_segmentsOf p, h, joinedKeys_segmentsOf]

/-- **The segments of one path start those of another exactly if it is that path or above it.** -/
theorem segmentsOf_prefix_iff {p q : String} :
    segmentsOf p <+: segmentsOf q ↔ p = q ∨ IsBelow q p := by
  constructor
  · rintro ⟨rest, hrest⟩
    by_cases hr : rest = []
    · rw [hr, List.append_nil] at hrest
      exact Or.inl (segmentsOf_injective hrest)
    · refine Or.inr ⟨joinedKeys rest, ?_⟩
      calc q = joinedKeys (segmentsOf p ++ rest) := by rw [hrest, joinedKeys_segmentsOf]
        _ = joinedKeys (segmentsOf p) ++ "." ++ joinedKeys rest :=
          String.intercalate_append_of_ne_nil (segmentsOf_ne_nil p) hr
        _ = p ++ "." ++ joinedKeys rest := by rw [joinedKeys_segmentsOf]
  · rintro (rfl | ⟨more, rfl⟩)
    · exact List.prefix_rfl
    · rw [segmentsOf_dotted]
      exact List.prefix_append _ _

theorem IsBelow.ne {p q : String} (h : IsBelow q p) : p ≠ q := by
  rintro rfl
  obtain ⟨more, hmore⟩ := h
  have hlen := congrArg String.length hmore
  have hdot : ".".length = 1 := rfl
  rw [String.length_append, String.length_append, hdot] at hlen
  omega

theorem isBelow_iff {path upper : String} :
    IsBelow path upper ↔ upper ≠ path ∧ segmentsOf upper <+: segmentsOf path := by
  rw [segmentsOf_prefix_iff]
  constructor
  · intro h
    exact ⟨h.ne, Or.inr h⟩
  · rintro ⟨hne, h⟩
    exact h.resolve_left hne

instance (path upper : String) : Decidable (IsBelow path upper) :=
  decidable_of_iff' _ isBelow_iff

/-- What starts with a dot is below the empty path. -/
theorem startsWithDot_iff {path : String} : StartsWithDot path ↔ IsBelow path "" := by
  simp only [StartsWithDot, IsBelow, String.empty_append]

instance (path : String) : Decidable (StartsWithDot path) := decidable_of_iff' _ startsWithDot_iff

/-- Different paths of which neither is below the other have segments that part. -/
theorem Apart.of_paths {p q : String} (hne : p ≠ q) (hq : ¬ IsBelow q p) (hp : ¬ IsBelow p q) :
    Apart (segmentsOf p) (segmentsOf q) := by
  constructor
  · rw [segmentsOf_prefix_iff]
    exact not_or_intro hne hq
  · rw [segmentsOf_prefix_iff]
    exact not_or_intro hne.symm hp

/-- Pairs whose paths have segments that part. -/
def PathsApart (flat : List Pair) : Prop :=
  flat.Pairwise fun p q => Apart (segmentsOf p.1) (segmentsOf q.1)

/-! ### The path of the segments -/

theorem exists_joinedKeys_cons (key : String) (rest : List String) :
    ∃ more, joinedKeys (key :: rest) = key ++ more := by
  by_cases hr : rest = []
  · refine ⟨"", ?_⟩
    rw [hr, joinedKeys, String.intercalate_singleton, String.append_empty]
  · refine ⟨"." ++ joinedKeys rest, ?_⟩
    rw [joinedKeys, String.intercalate_cons_of_ne_nil hr, String.append_assoc]
    rfl

/-- The path of a chain of keys without dots does not start with one. -/
theorem not_startsWithDot_chainPath {chain : List String}
    (h : ∀ key ∈ chain, '.' ∉ key.toList) : ¬ StartsWithDot (chainPath chain) := by
  rintro ⟨more, he⟩
  rw [chainPath] at he
  cases hd : chain.dropWhile String.isEmpty with
  | nil =>
    rw [hd] at he
    simpa [joinedKeys] using congrArg String.toList he
  | cons key rest =>
    have hkey : '.' ∉ key.toList :=
      h key ((List.dropWhile_sublist _).mem (hd ▸ List.mem_cons_self))
    have hne : key.isEmpty = false := by
      have hhead := List.head?_dropWhile_not String.isEmpty chain
      rw [hd] at hhead
      exact hhead
    obtain ⟨behind, hb⟩ := exists_joinedKeys_cons key rest
    rw [hd, hb] at he
    -- the path starts with the first character of the first key that is not empty
    have hchars := congrArg String.toList he
    rw [String.toList_append, String.toList_append] at hchars
    cases hc : key.toList with
    | nil => simp [String.toList_eq_nil_iff.mp hc] at hne
    | cons c r =>
      rw [hc] at hchars hkey
      have hdot : c = '.' := (List.cons.inj hchars).1
      exact hkey (hdot ▸ List.mem_cons_self)

theorem not_startsWithDot_chainPath_segmentsOf (path : String) :
    ¬ StartsWithDot (chainPath (segmentsOf path)) := by
  refine not_startsWithDot_chainPath fun key hkey => ?_
  obtain ⟨p, hp, rfl⟩ := List.mem_map.mp hkey
  rw [String.toList_ofList]
  exact Text.not_mem_of_mem_pieces hp

/-- **A path comes back from its segments exactly if it does not start with a dot.** -/
theorem chainPath_segmentsOf_iff {path : String} :
    chainPath (segmentsOf path) = path ↔ ¬ StartsWithDot path := by
  constructor
  · intro h
    rw [← h]
    exact not_startsWithDot_chainPath_segmentsOf path
  · intro h
    obtain ⟨key, rest, hs⟩ := List.exists_cons_of_ne_nil (segmentsOf_ne_nil path)
    have hpath : joinedKeys (key :: rest) = path := hs ▸ joinedKeys_segmentsOf path
    rw [hs, chainPath_cons, hpath]
    by_cases hr : rest = []
    · exact Or.inl hr
    · refine Or.inr (Bool.eq_false_iff.mpr fun hk => h ⟨joinedKeys rest, ?_⟩)
      rw [← hpath, joinedKeys, String.intercalate_cons_of_ne_nil hr, String.isEmpty_iff.mp hk]
      rfl

/-! ## Runs of insertions -/

/-- A pair as a leaf. -/
def leafOf (p : Pair) : KeyedLeaf := (segmentsOf p.1, p.2)

/-- Puts the values of pairs at their paths, one after the other. -/
def nestOnto (entries : List (Raw × Raw)) (flat : List Pair) : Option (List (Raw × Raw)) :=
  flat.foldlM (fun entries p => insertAt p.2 (segmentsOf p.1) entries) entries

/-- Nesting starts from nothing. -/
theorem nestOnto_nil (flat : List Pair) : nestOnto [] flat = nest flat := rfl

theorem nestOnto_cons (entries : List (Raw × Raw)) (p : Pair) (flat : List Pair) :
    nestOnto entries (p :: flat)
      = (insertAt p.2 (segmentsOf p.1) entries).bind fun mid => nestOnto mid flat :=
  List.foldlM_cons

section Runs

variable {entries entries' : List (Raw × Raw)} {flat : List Pair}

/-- A run makes a tree with at most one new leaf for each pair. -/
theorem nestOnto_keeps (hvalues : ∀ p ∈ flat, p.2.isMapping = false) (ht : KeyTree entries)
    (h : nestOnto entries flat = some entries') :
    KeyTree entries'
      ∧ (leavesOf entries').length ≤ (leavesOf entries).length + flat.length := by
  induction flat generalizing entries with
  | nil =>
    obtain rfl := Option.some.inj h
    exact ⟨ht, Nat.le_refl _⟩
  | cons p flat ih =>
    obtain ⟨hvalue, hvalues⟩ := List.forall_mem_cons.mp hvalues
    rw [nestOnto_cons] at h
    obtain ⟨mid, hmid, hrun⟩ := Option.bind_eq_some_iff.mp h
    have hstep := placed_of_insertAt hvalue (segmentsOf_ne_nil p.1) ht hmid
    obtain ⟨htree, hlen⟩ := ih hvalues hstep.tree hrun
    refine ⟨htree, ?_⟩
    have hone := hstep.length_le
    rw [List.length_cons]
    omega

/-- **A run over paths that part, from each other and from the leaves, adds each pair as a leaf.** -/
theorem nestOnto_of_apart (hvalues : ∀ p ∈ flat, p.2.isMapping = false) (ht : KeyTree entries)
    (hold : ∀ p ∈ flat, ∀ l ∈ leavesOf entries, Apart (segmentsOf p.1) l.1)
    (hnew : PathsApart flat) :
    ∃ entries', nestOnto entries flat = some entries'
      ∧ (leavesOf entries').Perm (flat.map leafOf ++ leavesOf entries) := by
  induction flat generalizing entries with
  | nil => exact ⟨entries, rfl, .rfl⟩
  | cons p flat ih =>
    obtain ⟨hvalue, hvalues⟩ := List.forall_mem_cons.mp hvalues
    obtain ⟨hpold, hold⟩ := List.forall_mem_cons.mp hold
    obtain ⟨hpnew, hnew⟩ := List.pairwise_cons.mp hnew
    obtain ⟨mid, hmid, hstep⟩ :=
      exists_insertAt_of_apart hvalue (segmentsOf_ne_nil p.1) ht hpold
    have hleaves : (leavesOf mid).Perm (leafOf p :: leavesOf entries) :=
      hstep.leaves_of_apart hpold
    have holdmid : ∀ q ∈ flat, ∀ l ∈ leavesOf mid, Apart (segmentsOf q.1) l.1 := by
      intro q hq l hl
      rcases List.mem_cons.mp (hleaves.mem_iff.mp hl) with rfl | hl
      · exact (hpnew q hq).symm
      · exact hold q hq l hl
    obtain ⟨entries', hrun, hall⟩ := ih hvalues hstep.tree holdmid hnew
    refine ⟨entries', ?_, (hall.trans (hleaves.append_left _)).trans List.perm_middle⟩
    rw [nestOnto_cons, hmid]
    exact hrun

/-- **A run that adds a leaf for each pair and loses none was over paths that part.** -/
theorem apart_of_nestOnto (hvalues : ∀ p ∈ flat, p.2.isMapping = false) (ht : KeyTree entries)
    (h : nestOnto entries flat = some entries')
    (hlen : (leavesOf entries).length + flat.length ≤ (leavesOf entries').length) :
    (∀ p ∈ flat, ∀ l ∈ leavesOf entries, Apart (segmentsOf p.1) l.1)
      ∧ PathsApart flat := by
  induction flat generalizing entries with
  | nil => exact ⟨fun _ hp => absurd hp List.not_mem_nil, List.Pairwise.nil⟩
  | cons p flat ih =>
    obtain ⟨hvalue, hvalues⟩ := List.forall_mem_cons.mp hvalues
    rw [nestOnto_cons] at h
    obtain ⟨mid, hmid, hrun⟩ := Option.bind_eq_some_iff.mp h
    have hstep := placed_of_insertAt hvalue (segmentsOf_ne_nil p.1) ht hmid
    have hone := hstep.length_le
    have hrest := (nestOnto_keeps hvalues hstep.tree hrun).2
    rw [List.length_cons] at hlen
    -- a leaf lost by this insertion could not be made up for by the rest of the run
    have hpold : ∀ l ∈ leavesOf entries, Apart (segmentsOf p.1) l.1 :=
      hstep.apart_of_length (by omega)
    have hleaves : (leavesOf mid).Perm (leafOf p :: leavesOf entries) :=
      hstep.leaves_of_apart hpold
    obtain ⟨hold, hnew⟩ := ih hvalues hstep.tree hrun (by omega)
    have hpnew : ∀ q ∈ flat, Apart (segmentsOf p.1) (segmentsOf q.1) := by
      intro q hq
      exact (hold q hq (leafOf p) (hleaves.mem_iff.mpr List.mem_cons_self)).symm
    refine ⟨List.forall_mem_cons.mpr ⟨hpold, ?_⟩, List.pairwise_cons.mpr ⟨hpnew, hnew⟩⟩
    intro q hq l hl
    exact hold q hq l (hleaves.mem_iff.mpr (List.mem_cons_of_mem _ hl))

/-! ## The nested form and back -/

theorem keyTree_of_nest (hvalues : ∀ p ∈ flat, p.2.isMapping = false)
    (hnest : nest flat = some entries) : KeyTree entries := by
  rw [← nestOnto_nil] at hnest
  exact (nestOnto_keeps hvalues .nil hnest).1

/-- Paths that part are all kept: every pair is a leaf of what is nested. -/
theorem nest_of_apart (hvalues : ∀ p ∈ flat, p.2.isMapping = false) (hpair : PathsApart flat) :
    ∃ entries, nest flat = some entries ∧ (leavesOf entries).Perm (flat.map leafOf) := by
  have hnone : ∀ p ∈ flat, ∀ l ∈ leavesOf [], Apart (segmentsOf p.1) l.1 :=
    fun _ _ _ hl => absurd hl List.not_mem_nil
  obtain ⟨entries, hnest, hleaves⟩ := nestOnto_of_apart hvalues .nil hnone hpair
  rw [nestOnto_nil] at hnest
  exact ⟨entries, hnest, hleaves.trans (.of_eq (List.append_nil _))⟩

/-- Only paths that part are all kept. -/
theorem apart_of_nest (hvalues : ∀ p ∈ flat, p.2.isMapping = false)
    (hnest : nest flat = some entries) (hlen : flat.length ≤ (leavesOf entries).length) :
    PathsApart flat := by
  rw [← nestOnto_nil] at hnest
  refine (apart_of_nestOnto hvalues .nil hnest ?_).2
  rwa [show leavesOf [] = [] from rfl, List.length_nil, Nat.zero_add]

/-- The pairs of a tree are its leaves, each with the path of its chain. -/
theorem KeyTree.flatten_eq (ht : KeyTree entries) :
    flatten "" entries = (leavesOf entries).map fun l => (chainPath l.1, l.2) :=
  flatten_eq_map_leaves ht.nestedByText []

/-- Where every pair is a leaf, flattening yields each with what is left of its path. -/
theorem KeyTree.flatten_perm (ht : KeyTree entries)
    (hleaves : (leavesOf entries).Perm (flat.map leafOf)) :
    (flatten "" entries).Perm (flat.map fun p => (chainPath (segmentsOf p.1), p.2)) := by
  have hmap := hleaves.map fun l => (chainPath l.1, l.2)
  rwa [← ht.flatten_eq, List.map_map] at hmap

/-- Pairs that can be nested and flattened again. -/
structure Nestable (flat : List Pair) : Prop where
  noneDotted : ∀ p ∈ flat, ¬ StartsWithDot p.1
  noneBelow : ∀ p ∈ flat, ∀ q ∈ flat, ¬ IsBelow q.1 p.1

theorem Nestable.pathsApart (h : Nestable flat) (hkeys : (flat.map Prod.fst).Nodup) :
    PathsApart flat :=
  (List.pairwise_map.mp hkeys).imp_of_mem fun {p q} hp hq hne =>
    Apart.of_paths hne (h.noneBelow p hp q hq) (h.noneBelow q hq p hp)

/-- Without a dot in front, what is left of each path is the path. -/
theorem Nestable.map_chainPath (h : Nestable flat) :
    (flat.map fun p => (chainPath (segmentsOf p.1), p.2)) = flat := by
  refine (List.map_congr_left fun p hp => ?_).trans (List.map_id flat)
  rw [chainPath_segmentsOf_iff.mpr (h.noneDotted p hp)]
  rfl

theorem not_isBelow_of_apart (hpair : PathsApart flat) {p q : Pair} (hp : p ∈ flat)
    (hq : q ∈ flat) : ¬ IsBelow q.1 p.1 := by
  intro hbelow
  have hne : p ≠ q := fun he => hbelow.ne (congrArg Prod.fst he)
  have hsymm : Std.Symm fun p q : Pair => Apart (segmentsOf p.1) (segmentsOf q.1) :=
    ⟨fun _ _ h => h.symm⟩
  exact (List.Pairwise.forall hpair hp hq hne).not_above
    (segmentsOf_prefix_iff.mpr (Or.inr hbelow))

/-- **Nesting and flattening are inverse for exactly the paths that do not start with a dot and are
not below one another.**

For different paths with values that are no mappings: nesting succeeds, nothing stops the flattening
of what comes out, and the pairs that it yields are the given ones up to their order, if no path
starts with a dot and none goes on behind another one with a dot; and only then. -/
theorem flatten_nest_perm_iff (hkeys : (flat.map Prod.fst).Nodup)
    (hvalues : ∀ p ∈ flat, p.2.isMapping = false) :
    (∃ entries, nest flat = some entries ∧ stuckIn entries = none
        ∧ (flatten "" entries).Perm flat)
      ↔ Nestable flat := by
  constructor
  · rintro ⟨entries, hnest, -, hperm⟩
    have ht : KeyTree entries := keyTree_of_nest hvalues hnest
    have hlen : flat.length ≤ (leavesOf entries).length := by
      have hsame := hperm.length_eq
      rw [ht.flatten_eq, List.length_map] at hsame
      exact Nat.le_of_eq hsame.symm
    have hpair := apart_of_nest hvalues hnest hlen
    obtain ⟨entries', hnest', hleaves⟩ := nest_of_apart hvalues hpair
    obtain rfl := Option.some.inj (hnest.symm.trans hnest')
    constructor
    · intro p hp
      have hmem := (hperm.symm.trans (ht.flatten_perm hleaves)).mem_iff.mp hp
      obtain ⟨q, -, rfl⟩ := List.mem_map.mp hmem
      exact not_startsWithDot_chainPath_segmentsOf q.1
    · intro p hp q hq
      exact not_isBelow_of_apart hpair hp hq
  · intro h
    obtain ⟨entries, hnest, hleaves⟩ := nest_of_apart hvalues (h.pathsApart hkeys)
    have ht : KeyTree entries := keyTree_of_nest hvalues hnest
    have hperm := ht.flatten_perm hleaves
    rw [h.map_chainPath] at hperm
    exact ⟨entries, hnest, ht.nestedByText.stuckIn_eq_none, hperm⟩

end Runs

/-- A path on the way of another one, which nothing but a dot follows, is an obstacle. -/
example : nest [("a", .null), ("a.", .null)] = none := by rfl

/-- The other way around, it takes the place of what was nested there. -/
example : (nest [("a.", .null), ("a", .null)]).map (flatten "") = some [("a", .null)] := by rfl

/-- Paths with common parents in no order, with empty segments inside and at the end, and the empty
path. -/
def sharedParents : List Pair :=
  [("da.avail.seed_phrase", .text "seed"), ("l1.l1_rpc_url", .null), ("da..seed", .int 7),
    ("da.avail.", .list [.bool true]), ("", .bytes []), ("da.avail.tag", .text "tag")]

theorem flatten_nest_perm_sharedParents :
    (sharedParents.map Prod.fst).Nodup ∧ (∀ p ∈ sharedParents, p.2.isMapping = false)
      ∧ Nestable sharedParents
      ∧ ∃ entries, nest sharedParents = some entries ∧ stuckIn entries = none
        ∧ (flatten "" entries).Perm sharedParents := by
  have hkeys : (sharedParents.map Prod.fst).Nodup := by decide
  have hvalues : ∀ p ∈ sharedParents, p.2.isMapping = false := by decide
  have hnestable : Nestable sharedParents := ⟨by decide +kernel, by decide +kernel⟩
  exact ⟨hkeys, hvalues, hnestable, (flatten_nest_perm_iff hkeys hvalues).mpr hnestable⟩

end Credentials
