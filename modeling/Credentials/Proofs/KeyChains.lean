import Credentials.Proofs.FirstFault

/-!
# Chains of keys

Every leaf of a nested mapping stands at the end of a chain of keys. Its path joins the keys by
dots, except that nothing is put for the empty keys that a chain starts with: a path that is empty
so far adds no dot to what follows. So a mapping below the empty key yields the paths that it would
yield by itself.

* `flatten_eq_map_leaves` — the pairs of a nested mapping, from its leaves
* `load_of_unknownLeaf` — the first leaf without a credential's path decides about a load
* `unknown_path_refused` — the same by the joined keys, unless a mapping stands below the empty key
* `unknown_path_emptyKey` — such a mapping is loaded although no joined keys are a path
-/

namespace Credentials

/-! ## Nested mappings and their leaves -/

/-- Whether a value is a mapping. -/
def Raw.isMapping : Raw → Bool
  | .map _ | .endless true => true
  | _ => false

/-- The entries of a mapping with texts for keys, at every depth. -/
inductive NestedByText : List (Raw × Raw) → Prop
  | nil : NestedByText []
  | leaf (key : String) {v : Raw} {r : List (Raw × Raw)} (hv : v.isMapping = false)
      (hr : NestedByText r) : NestedByText ((.text key, v) :: r)
  | node (key : String) {inner r : List (Raw × Raw)} (hi : NestedByText inner)
      (hr : NestedByText r) : NestedByText ((.text key, .map inner) :: r)

/-- A value that is no mapping, with the keys on the way to it. -/
abbrev KeyedLeaf := List String × Raw

mutual

/-- The leaves of a value at the end of a chain of keys. -/
def leavesOfValue (chain : List String) : Raw → List KeyedLeaf
  | .map entries => leavesBelow chain entries
  | v => [(chain, v)]

/-- The leaves of a mapping at the end of a chain of keys, depth first. -/
def leavesBelow (chain : List String) : List (Raw × Raw) → List KeyedLeaf
  | [] => []
  | (k, v) :: r => leavesOfValue (chain ++ [k.display]) v ++ leavesBelow chain r

end

/-- The leaves of a mapping. -/
def leavesOf (entries : List (Raw × Raw)) : List KeyedLeaf := leavesBelow [] entries

/-- The keys of a chain, joined by dots. -/
def joinedKeys (chain : List String) : String := ".".intercalate chain

/-- The path of a leaf: the keys of its chain without the empty ones in front, joined by dots. -/
def chainPath (chain : List String) : String := joinedKeys (chain.dropWhile String.isEmpty)

theorem leavesOfValue_of_not_isMapping (chain : List String) {v : Raw} (h : v.isMapping = false) :
    leavesOfValue chain v = [(chain, v)] := by
  cases v with
  | map entries => cases h
  | _ => rfl

theorem flattenValue_of_not_isMapping (path : String) {v : Raw} (h : v.isMapping = false) :
    flattenValue path v = [(path, v)] := by
  cases v with
  | map entries => cases h
  | _ => rfl

theorem stuckInValue_of_not_isMapping {v : Raw} (h : v.isMapping = false) :
    stuckInValue v = none := by
  cases v with
  | map entries => cases h
  | endless mapping =>
    cases mapping with
    | true => cases h
    | false => rfl
  | _ => rfl

/-! ## The path of a leaf -/

theorem isEmpty_joinedKeys_cons {key : String} (h : key.isEmpty = false) (chain : List String) :
    (joinedKeys (key :: chain)).isEmpty = false := by
  have hkey : key ≠ "" := by simpa using h
  cases chain with
  | nil => simpa [joinedKeys] using h
  | cons k r => simp [joinedKeys, hkey]

/-- A key below a chain has the path of the longer chain. -/
theorem childPath_chainPath (chain : List String) (key : String) :
    childPath (chainPath chain) (.text key) = chainPath (chain ++ [key]) := by
  unfold chainPath childPath
  rw [List.dropWhile_append, Raw.display_text]
  cases hd : chain.dropWhile String.isEmpty with
  | nil =>
    -- no key so far, or empty ones alone: the path starts here
    cases hk : key.isEmpty with
    | true => simp [joinedKeys, String.isEmpty_iff.mp hk]
    | false => simp [joinedKeys, hk]
  | cons k r =>
    have hk : k.isEmpty = false := by
      have hhead := List.head?_dropWhile_not String.isEmpty chain
      rw [hd] at hhead
      simpa using hhead
    rw [isEmpty_joinedKeys_cons hk]
    simp only [List.isEmpty_cons, Bool.false_eq_true, if_false, joinedKeys]
    rw [String.intercalate_append_of_ne_nil (List.cons_ne_nil k r) (List.cons_ne_nil key []),
      String.intercalate_singleton]

/-- **The pairs of a nested mapping are its leaves, each with the path of its chain.** -/
theorem flatten_eq_map_leaves {entries : List (Raw × Raw)} (h : NestedByText entries)
    (chain : List String) :
    flatten (chainPath chain) entries
      = (leavesBelow chain entries).map fun l => (chainPath l.1, l.2) := by
  induction h generalizing chain with
  | nil => rfl
  | @leaf key v r hv _ ih =>
    rw [flatten_cons, leavesBelow, List.map_append, ih, childPath_chainPath, Raw.display_text,
      flattenValue_of_not_isMapping _ hv, leavesOfValue_of_not_isMapping _ hv]
    rfl
  | @node key inner r _ _ ihi ihr =>
    rw [flatten_cons, leavesBelow, List.map_append, ihr, childPath_chainPath, Raw.display_text,
      flattenValue_map, leavesOfValue, ihi]

theorem NestedByText.stuckIn_eq_none {entries : List (Raw × Raw)} (h : NestedByText entries) :
    stuckIn entries = none := by
  induction h with
  | nil => simp [stuckIn]
  | leaf key hv _ ih => simp [stuckIn, stuckInValue_of_not_isMapping hv, ih]
  | node key _ _ ihi ihr => simp [stuckIn, stuckInValue, ihi, ihr]

/-- A source over a nested mapping yields its leaves and no error. -/
theorem ofMapping_eq_ofPairs {entries : List (Raw × Raw)} (h : NestedByText entries)
    (name : String) :
    Source.ofMapping name entries
      = .ofPairs name ((leavesOf entries).map fun l => (chainPath l.1, l.2)) := by
  rw [Source.ofMapping, h.stuckIn_eq_none]
  exact congrArg (Source.ofPairs name) (flatten_eq_map_leaves h [])

/-! ## Loading a nested mapping -/

/-- A path that is no credential's. -/
def UnknownPath (path : String) : Prop := ∀ f : Field, f.path ≠ path

theorem not_unknownPath_iff {path : String} : ¬ UnknownPath path ↔ ∃ f : Field, f.path = path := by
  rw [UnknownPath, Classical.not_forall]
  exact exists_congr fun f => Classical.not_not

/-- Where the first leaf of a mapping is whose path is no credential's, by some way to name paths. -/
structure FirstUnknown (pathOf : List String → String) (entries : List (Raw × Raw))
    (chain : List String) : Prop where
  place : ∃ ahead v behind, leavesOf entries = ahead ++ (chain, v) :: behind
    ∧ ∀ l ∈ ahead, ∃ f : Field, f.path = pathOf l.1
  unknown : UnknownPath (pathOf chain)

theorem exists_firstUnknown {pathOf : List String → String} {entries : List (Raw × Raw)}
    (h : ∃ l ∈ leavesOf entries, UnknownPath (pathOf l.1)) :
    ∃ chain, FirstUnknown pathOf entries chain := by
  obtain ⟨ahead, ⟨chain, v⟩, behind, hplace, hahead, hunknown⟩ :=
    exists_first (P := fun l : KeyedLeaf => UnknownPath (pathOf l.1)) h
  exact ⟨chain, ⟨ahead, v, behind, hplace, fun l hl => not_unknownPath_iff.mp (hahead l hl)⟩,
    hunknown⟩

/-- **A nested mapping with a leaf whose path is no credential's is not loaded**, and the first such
leaf is told, whatever value it has. -/
theorem load_of_unknownLeaf {entries : List (Raw × Raw)} (hn : NestedByText entries)
    (hvalues : ∀ l ∈ leavesOf entries, (∃ f : Field, f.path = chainPath l.1) → l.2.Writable)
    {chain : List String} (h : FirstUnknown chainPath entries chain) :
    load (Source.ofLayers [.mapping entries])
      = ⟨[], .error (.unknownPath (chainPath chain) (some "source[0]"))⟩ := by
  obtain ⟨⟨ahead, v, behind, hplace, hahead⟩, hunknown⟩ := h
  have hs : Source.ofLayers [.mapping entries]
      = [.ofPairs "source[0]" ((leavesOf entries).map fun l => (chainPath l.1, l.2))] := by
    rw [← ofMapping_eq_ofPairs hn]
    rfl
  have hread : ∀ s ∈ Source.ofLayers [.mapping entries], s.fault = none := by
    rw [hs]
    exact List.forall_mem_singleton.mpr rfl
  have hgood : ∀ p ∈ ahead.map fun l : KeyedLeaf => (chainPath l.1, l.2), ¬ BadPair p := by
    intro p hp
    obtain ⟨l, hl, rfl⟩ := List.mem_map.mp hp
    have hm : l ∈ leavesOf entries := hplace ▸ List.mem_append_left _ hl
    exact not_badPair_iff.mpr ⟨hahead l hl, hvalues l hm (hahead l hl)⟩
  have hfirst : FirstBad (Source.ofLayers [.mapping entries]) []
      (.ofPairs "source[0]" ((leavesOf entries).map fun l => (chainPath l.1, l.2))) []
      (chainPath chain, v) := by
    refine ⟨hs, fun _ hp => absurd hp List.not_mem_nil,
      ⟨_, behind.map fun l => (chainPath l.1, l.2), ?_, hgood⟩, Or.inl hunknown⟩
    show (leavesOf entries).map _ = _
    rw [hplace, List.map_append, List.map_cons]
  obtain ⟨e, he, hload⟩ := load_of_firstBad hread hfirst
  obtain rfl := Except.error.inj (he.accept.symm.trans (Refused.path hunknown).accept)
  rw [hs]
  exact hload []

/-! ## Joined keys -/

/-- A chain that goes on from another one. -/
theorem prefix_of_mem_leavesBelow {entries : List (Raw × Raw)} (h : NestedByText entries)
    {chain : List String} {l : KeyedLeaf} (hl : l ∈ leavesBelow chain entries) :
    chain <+: l.1 := by
  induction h generalizing chain with
  | nil => exact absurd hl List.not_mem_nil
  | @leaf key v r hv _ ih =>
    rw [leavesBelow, leavesOfValue_of_not_isMapping _ hv] at hl
    rcases List.mem_append.mp hl with hl | hl
    · rw [List.mem_singleton.mp hl]
      exact List.prefix_append _ _
    · exact ih hl
  | @node key inner r _ _ ihi ihr =>
    rw [leavesBelow, leavesOfValue] at hl
    rcases List.mem_append.mp hl with hl | hl
    · exact (List.prefix_append _ _).trans (ihi hl)
    · exact ihr hl

/-- A chain of one key, or one that does not start with the empty key, has its joined keys for a
path. -/
theorem chainPath_cons {key : String} {chain : List String}
    (h : chain = [] ∨ key.isEmpty = false) : chainPath (key :: chain) = joinedKeys (key :: chain) := by
  unfold chainPath
  cases hk : key.isEmpty with
  | false => rw [List.dropWhile_cons, hk]; rfl
  | true =>
    obtain rfl : chain = [] := h.resolve_right (by simp [hk])
    rw [String.isEmpty_iff.mp hk]
    rfl

/-- No mapping stands below the empty key at the top. -/
def NoEmptyTop (entries : List (Raw × Raw)) : Prop :=
  ∀ p ∈ entries, p.2.isMapping = true → p.1 ≠ .text ""

/-- Then the path of every leaf is its joined keys. -/
theorem chainPath_eq_joinedKeys {entries : List (Raw × Raw)} (h : NestedByText entries)
    (ht : NoEmptyTop entries) {l : KeyedLeaf} (hl : l ∈ leavesOf entries) :
    chainPath l.1 = joinedKeys l.1 := by
  unfold leavesOf at hl
  induction h with
  | nil => exact absurd hl List.not_mem_nil
  | @leaf key v r hv _ ih =>
    rw [leavesBelow, leavesOfValue_of_not_isMapping _ hv] at hl
    rcases List.mem_append.mp hl with hl | hl
    · rw [List.mem_singleton.mp hl]
      exact chainPath_cons (Or.inl rfl)
    · exact ih (fun p hp => ht p (List.mem_cons_of_mem _ hp)) hl
  | @node key inner r hi _ _ ihr =>
    rw [leavesBelow, leavesOfValue, Raw.display_text] at hl
    rcases List.mem_append.mp hl with hl | hl
    · have hkey : key.isEmpty = false := by
        have hne := ht _ List.mem_cons_self rfl
        simpa using hne
      obtain ⟨rest, hrest⟩ := prefix_of_mem_leavesBelow hi hl
      rw [← hrest]
      exact chainPath_cons (Or.inr hkey)
    · exact ihr (fun p hp => ht p (List.mem_cons_of_mem _ hp)) hl

/-- **Unknown paths never get in, unless the empty key hides them.**

Of a nested mapping with texts for keys, of any depth, let no mapping stand below the empty key at
the top, let some leaf have keys that do not join to the path of a credential, and let the values at
paths of credentials be such as may be written. Then the load of the mapping fails, and the error
tells the joined keys of the first such leaf, depth first. -/
theorem unknown_path_refused {entries : List (Raw × Raw)} (hn : NestedByText entries)
    (ht : NoEmptyTop entries)
    (hvalues : ∀ l ∈ leavesOf entries, (∃ f : Field, f.path = joinedKeys l.1) → l.2.Writable)
    (hbad : ∃ l ∈ leavesOf entries, UnknownPath (joinedKeys l.1)) :
    ∃ chain, FirstUnknown joinedKeys entries chain
      ∧ load (Source.ofLayers [.mapping entries])
        = ⟨[], .error (.unknownPath (joinedKeys chain) (some "source[0]"))⟩ := by
  have hpath : ∀ l ∈ leavesOf entries, chainPath l.1 = joinedKeys l.1 := fun l hl =>
    chainPath_eq_joinedKeys hn ht hl
  obtain ⟨chain, hfirst⟩ := exists_firstUnknown hbad
  obtain ⟨⟨ahead, v, behind, hplace, hahead⟩, hunknown⟩ := hfirst
  have hchain : chainPath chain = joinedKeys chain :=
    hpath (chain, v) (hplace ▸ List.mem_append_right _ List.mem_cons_self)
  have hfirst' : FirstUnknown chainPath entries chain := by
    refine ⟨⟨ahead, v, behind, hplace, fun l hl => ?_⟩, hchain ▸ hunknown⟩
    rw [hpath l (hplace ▸ List.mem_append_left _ hl)]
    exact hahead l hl
  refine ⟨chain, ⟨⟨ahead, v, behind, hplace, hahead⟩, hunknown⟩, ?_⟩
  rw [← hchain]
  refine load_of_unknownLeaf hn (fun l hl hf => hvalues l hl ?_) hfirst'
  rwa [← hpath l hl]

/-- A mapping with a key that leads nowhere in the middle of keys that are paths, one of them with
dots in it. -/
def strayKeyInside : List (Raw × Raw) :=
  [(.text "l1", .map [(.text "l1_rpc_url", .text "http://l1")]),
    (.text "da.avail", .map [(.text "seed_phrase", .null),
      (.text "", .map [(.text "seed", .int 7)])]),
    (.text "", .text "stray")]

theorem unknown_path_refused_strayKeyInside :
    load (Source.ofLayers [.mapping strayKeyInside])
      = ⟨[], .error (.unknownPath "da.avail..seed" (some "source[0]"))⟩ := by
  have hn : NestedByText strayKeyInside :=
    .node "l1" (.leaf "l1_rpc_url" rfl .nil)
      (.node "da.avail" (.leaf "seed_phrase" rfl (.node "" (.leaf "seed" rfl .nil) .nil))
        (.leaf "" rfl .nil))
  have ht : NoEmptyTop strayKeyInside := by
    intro p hp hm
    simp only [strayKeyInside, List.mem_cons, List.not_mem_nil, or_false] at hp
    rcases hp with rfl | rfl | rfl
    · simp
    · simp
    · cases hm
  have hleaves : leavesOf strayKeyInside
      = [(["l1", "l1_rpc_url"], .text "http://l1"), (["da.avail", "seed_phrase"], .null),
          (["da.avail", "", "seed"], .int 7), ([""], .text "stray")] := rfl
  have hseed : UnknownPath "da.avail..seed" := Field.ofPath?_eq_none_iff.mp (by decide +kernel)
  have hvalues : ∀ l ∈ leavesOf strayKeyInside,
      (∃ f : Field, f.path = joinedKeys l.1) → l.2.Writable := by
    rw [hleaves]
    simp only [List.forall_mem_cons, List.not_mem_nil, false_imp_iff, implies_true, and_true]
    exact ⟨fun _ => Or.inr ⟨_, rfl⟩, fun _ => Or.inl rfl, fun ⟨f, hf⟩ => absurd hf (hseed f),
      fun _ => Or.inr ⟨_, rfl⟩⟩
  obtain ⟨chain, ⟨⟨ahead, v, behind, hplace, hahead⟩, hunknown⟩, hload⟩ :=
    unknown_path_refused hn ht hvalues ⟨(["da.avail", "", "seed"], .int 7), by simp [hleaves], hseed⟩
  rw [hleaves] at hplace
  -- the first two leaves have the paths of credentials, the third one has not
  rcases ahead with _ | ⟨l₁, _ | ⟨l₂, _ | ⟨l₃, ahead⟩⟩⟩
  · cases hplace
    exact absurd rfl (hunknown .l1RpcUrl)
  · cases hplace
    exact absurd rfl (hunknown .availSeedPhrase)
  · cases hplace
    exact hload
  · obtain rfl : l₃ = (["da.avail", "", "seed"], .int 7) := by
      simp only [List.cons_append, List.cons.injEq] at hplace
      exact hplace.2.2.1.symm
    obtain ⟨f, hf⟩ := hahead (["da.avail", "", "seed"], .int 7) (by simp)
    exact absurd hf (hseed f)

/-- A mapping of a credential below the empty key. -/
def belowEmptyKey : List (Raw × Raw) :=
  [(.text "", .map [(.text "l1", .map [(.text "l1_rpc_url", .text "http://l1")])])]

/-- Below the empty key a credential is found although the joined keys of its leaf are no path. -/
theorem unknown_path_emptyKey :
    NestedByText belowEmptyKey
      ∧ leavesOf belowEmptyKey = [(["", "l1", "l1_rpc_url"], .text "http://l1")]
      ∧ UnknownPath (joinedKeys ["", "l1", "l1_rpc_url"])
      ∧ ∃ b, (load (Source.ofLayers [.mapping belowEmptyKey])).result = .ok b
        ∧ b.get .l1RpcUrl = some ⟨.plain, .text "http://l1"⟩ := by
  refine ⟨.node "" (.node "l1" (.leaf "l1_rpc_url" rfl .nil) .nil) .nil, rfl,
    Field.ofPath?_eq_none_iff.mp (by decide +kernel), _, rfl, rfl⟩

end Credentials
