import Credentials.Dump
import Credentials.Proofs.KeyChains

/-!
# Trees of keys

Nested mappings with texts for keys, no key twice in one mapping, are a tree, and its leaves are the
values that are no mappings. One insertion puts a value at a chain of keys and makes the mappings on
the way that are missing.

It fails exactly if a leaf stands on the way, for a value cannot be entered. It takes away exactly
the leaves below the chain, or the one at its end, for what stood there is written over. So it adds
to the leaves and takes none away if the chain parts from theirs (`Apart`).

* `inserted_insertAt` — what one insertion does to a tree, in every case
* `placed_of_insertAt` — the tree after an insertion that succeeds
* `exists_insertAt_of_apart` — an insertion apart from all leaves succeeds and only adds one
* `Placed.apart_of_length` — an insertion that takes no leaf away was apart from all of them
-/

namespace Credentials

/-! ## Trees -/

/-- The entries of a mapping with texts for keys, at every depth no key twice. -/
inductive KeyTree : List (Raw × Raw) → Prop
  | nil : KeyTree []
  | leaf (key : String) {v : Raw} {r : List (Raw × Raw)} (hv : v.isMapping = false)
      (hkey : .text key ∉ r.map Prod.fst) (hr : KeyTree r) : KeyTree ((.text key, v) :: r)
  | node (key : String) {inner r : List (Raw × Raw)} (hi : KeyTree inner)
      (hkey : .text key ∉ r.map Prod.fst) (hr : KeyTree r) : KeyTree ((.text key, .map inner) :: r)

namespace KeyTree

variable {entries es es' : List (Raw × Raw)} {key : String} {v : Raw}

theorem nestedByText (h : KeyTree entries) : NestedByText entries := by
  induction h with
  | nil => exact .nil
  | leaf key hv _ _ ih => exact .leaf key hv ih
  | node key _ _ _ ihi ihr => exact .node key ihi ihr

theorem tail (h : KeyTree ((.text key, v) :: es)) : KeyTree es := by
  cases h with
  | leaf _ _ _ hr => exact hr
  | node _ _ _ hr => exact hr

theorem key_not_mem (h : KeyTree ((.text key, v) :: es)) : .text key ∉ es.map Prod.fst := by
  cases h with
  | leaf _ _ hkey _ => exact hkey
  | node _ _ hkey _ => exact hkey

theorem inner {inner : List (Raw × Raw)} (h : KeyTree ((.text key, .map inner) :: es)) :
    KeyTree inner := by
  cases h with
  | leaf _ hv _ _ => cases hv
  | node _ hi _ _ => exact hi

/-- An entry may stand in front of any tree without its key. -/
theorem move (h : KeyTree ((.text key, v) :: es)) (ht : KeyTree es')
    (hkey : .text key ∉ es'.map Prod.fst) : KeyTree ((.text key, v) :: es') := by
  cases h with
  | leaf _ hv _ _ => exact .leaf key hv hkey ht
  | node _ hi _ _ => exact .node key hi hkey ht

/-- A tree is empty or has an entry in front, whatever the entry holds. -/
theorem cons_induction {motive : (entries : List (Raw × Raw)) → KeyTree entries → Prop}
    (nil : motive [] .nil)
    (cons : ∀ key v es (h : KeyTree ((.text key, v) :: es)), motive es h.tail → motive _ h)
    {entries : List (Raw × Raw)} (h : KeyTree entries) : motive entries h := by
  induction h with
  | nil => exact nil
  | leaf key hv hkey hr ih => exact cons key _ _ (.leaf key hv hkey hr) ih
  | node key hi hkey hr _ ih => exact cons key _ _ (.node key hi hkey hr) ih

end KeyTree

/-! ## Leaves -/

/-- The leaves below a chain are those of the mapping, each with the chain in front. -/
theorem NestedByText.leavesBelow_eq {entries : List (Raw × Raw)} (h : NestedByText entries)
    (chain : List String) :
    leavesBelow chain entries = (leavesOf entries).map fun l => (chain ++ l.1, l.2) := by
  induction h generalizing chain with
  | nil => rfl
  | @leaf key v r hv _ ih =>
    rw [leavesOf, leavesBelow, leavesBelow, leavesOfValue_of_not_isMapping _ hv,
      leavesOfValue_of_not_isMapping _ hv, List.map_append, ih chain, ih []]
    simp [leavesOf]
  | @node key inner r _ _ ihi ihr =>
    rw [leavesOf, leavesBelow, leavesBelow, leavesOfValue, leavesOfValue, List.map_append,
      ihi (chain ++ _), ihi ([] ++ _), ihr chain, ihr []]
    simp [leavesOf]

theorem leavesOf_cons (key : String) (v : Raw) (es : List (Raw × Raw)) :
    leavesOf ((.text key, v) :: es) = leavesOfValue [key] v ++ leavesOf es := by
  rw [leavesOf, leavesBelow, Raw.display_text]
  rfl

theorem mem_leavesOf_cons {key : String} {v : Raw} {es : List (Raw × Raw)} {l : KeyedLeaf} :
    l ∈ leavesOf ((.text key, v) :: es) ↔ l ∈ leavesOfValue [key] v ∨ l ∈ leavesOf es := by
  rw [leavesOf_cons, List.mem_append]

theorem leavesOf_leaf (key : String) {v : Raw} (hv : v.isMapping = false)
    (es : List (Raw × Raw)) : leavesOf ((.text key, v) :: es) = ([key], v) :: leavesOf es := by
  rw [leavesOf_cons, leavesOfValue_of_not_isMapping _ hv]
  rfl

theorem leavesOf_node (key : String) {inner : List (Raw × Raw)} (hi : NestedByText inner)
    (es : List (Raw × Raw)) :
    leavesOf ((.text key, .map inner) :: es)
      = ((leavesOf inner).map fun l => (key :: l.1, l.2)) ++ leavesOf es := by
  rw [leavesOf_cons, leavesOfValue, hi.leavesBelow_eq]
  rfl

/-- The leaves of an entry stand below its key. -/
theorem KeyTree.prefix_of_mem_head {key : String} {v : Raw} {es : List (Raw × Raw)}
    (h : KeyTree ((.text key, v) :: es)) {l : KeyedLeaf} (hl : l ∈ leavesOfValue [key] v) :
    [key] <+: l.1 := by
  cases h with
  | leaf _ hv _ _ =>
    rw [leavesOfValue_of_not_isMapping _ hv] at hl
    obtain rfl := List.mem_singleton.mp hl
    exact List.prefix_rfl
  | node _ hi _ _ =>
    rw [leavesOfValue] at hl
    exact prefix_of_mem_leavesBelow hi.nestedByText hl

/-- Every leaf stands below one of the keys. -/
theorem KeyTree.exists_key {entries : List (Raw × Raw)} (h : KeyTree entries) {l : KeyedLeaf}
    (hl : l ∈ leavesOf entries) : ∃ key, .text key ∈ entries.map Prod.fst ∧ [key] <+: l.1 := by
  induction h using KeyTree.cons_induction with
  | nil => exact absurd hl List.not_mem_nil
  | cons key v es h ih =>
    rcases mem_leavesOf_cons.mp hl with hl | hl
    · exact ⟨key, List.mem_cons_self, h.prefix_of_mem_head hl⟩
    · obtain ⟨k, hk, hpre⟩ := ih hl
      exact ⟨k, List.mem_cons_of_mem _ hk, hpre⟩

/-! ## Chains that part -/

/-- Two chains of which neither leads to the end of the other or through it. -/
structure Apart (c d : List String) : Prop where
  not_above : ¬ c <+: d
  not_below : ¬ d <+: c

theorem Apart.symm {c d : List String} (h : Apart c d) : Apart d c :=
  ⟨h.not_below, h.not_above⟩

/-- Chains part at their first keys. -/
theorem apart_of_first_ne {s key : String} (h : key ≠ s) (r : List String) {c : List String}
    (hc : [key] <+: c) : Apart (s :: r) c := by
  obtain ⟨more, rfl⟩ := hc
  constructor
  · intro hpre
    exact h (List.cons_prefix_cons.mp hpre).1.symm
  · intro hpre
    exact h (List.cons_prefix_cons.mp hpre).1

/-- The leaves of the other entries part from every chain that leads to one entry. -/
theorem KeyTree.apart_tail {s : String} {v : Raw} {es : List (Raw × Raw)}
    (h : KeyTree ((.text s, v) :: es)) (r : List String) {l : KeyedLeaf}
    (hl : l ∈ leavesOf es) : Apart (s :: r) l.1 := by
  obtain ⟨key, hkey, hpre⟩ := h.tail.exists_key hl
  refine apart_of_first_ne (fun he => ?_) r hpre
  rw [he] at hkey
  exact h.key_not_mem hkey

/-- Whether a leaf stands at the end of a chain or below it. -/
def isUnder (chain : List String) (l : KeyedLeaf) : Bool := chain.isPrefixOf l.1

theorem isUnder_iff {chain : List String} {l : KeyedLeaf} :
    isUnder chain l = true ↔ chain <+: l.1 := List.isPrefixOf_iff_prefix

theorem isUnder_eq_false_iff {chain : List String} {l : KeyedLeaf} :
    isUnder chain l = false ↔ ¬ chain <+: l.1 := by
  rw [← isUnder_iff, Bool.not_eq_true]

/-- The leaves that an insertion at a chain leaves alone. -/
def untouched (chain : List String) (ls : List KeyedLeaf) : List KeyedLeaf :=
  ls.filter fun l => !isUnder chain l

theorem untouched_append (chain : List String) (ls ms : List KeyedLeaf) :
    untouched chain (ls ++ ms) = untouched chain ls ++ untouched chain ms := List.filter_append _ _

theorem length_untouched_le (chain : List String) (ls : List KeyedLeaf) :
    (untouched chain ls).length ≤ ls.length := List.length_filter_le _ _

theorem untouched_of_apart {chain : List String} {ls : List KeyedLeaf}
    (h : ∀ l ∈ ls, Apart chain l.1) : untouched chain ls = ls := by
  rw [untouched, List.filter_eq_self]
  intro l hl
  rw [Bool.not_eq_true', isUnder_eq_false_iff]
  exact (h l hl).not_above

theorem untouched_of_prefix {chain : List String} {ls : List KeyedLeaf}
    (h : ∀ l ∈ ls, chain <+: l.1) : untouched chain ls = [] := by
  rw [untouched, List.filter_eq_nil_iff]
  intro l hl hstay
  rw [isUnder_iff.mpr (h l hl)] at hstay
  cases hstay

theorem untouched_map_cons (s : String) (r : List String) (ls : List KeyedLeaf) :
    untouched (s :: r) (ls.map fun l => (s :: l.1, l.2))
      = (untouched r ls).map fun l => (s :: l.1, l.2) := by
  rw [untouched, untouched, List.filter_map]
  refine congrArg _ (List.filter_congr fun l _ => ?_)
  simp [isUnder]

/-- Where no leaf is taken away, none stood at the end of the chain or below it. -/
theorem not_prefix_of_length_untouched {chain : List String} {ls : List KeyedLeaf}
    (h : ls.length ≤ (untouched chain ls).length) {l : KeyedLeaf} (hl : l ∈ ls) :
    ¬ chain <+: l.1 := by
  have hsame : (untouched chain ls).length = ls.length :=
    Nat.le_antisymm (length_untouched_le chain ls) h
  have hstay := List.length_filter_eq_length_iff.mp hsame l hl
  rwa [Bool.not_eq_true', isUnder_eq_false_iff] at hstay

/-! ## The entries after an insertion -/

section Entries

variable {value : Raw} {s : String} {r : List String} {entries : List (Raw × Raw)}

theorem mem_keys_putEntry {same : Raw → Raw → Bool} {k v key : Raw}
    (h : key ∈ (putEntry same k v entries).map Prod.fst) :
    key = k ∨ key ∈ entries.map Prod.fst := by
  induction entries with
  | nil => exact Or.inl (List.mem_singleton.mp h)
  | cons e es ih =>
    obtain ⟨k', v'⟩ := e
    rw [putEntry] at h
    split at h
    · exact Or.inr h
    · rcases List.mem_cons.mp h with h | h
      · exact Or.inr (List.mem_cons.mpr (Or.inl h))
      · rcases ih h with h | h
        · exact Or.inl h
        · exact Or.inr (List.mem_cons_of_mem _ h)

/-- The first key of the chain is the only one that can be new. -/
theorem mem_keys_insertAt {entries' : List (Raw × Raw)}
    (h : insertAt value (s :: r) entries = some entries') {key : Raw}
    (hkey : key ∈ entries'.map Prod.fst) : key = .text s ∨ key ∈ entries.map Prod.fst := by
  cases r with
  | nil =>
    obtain rfl := Option.some.inj h
    exact mem_keys_putEntry hkey
  | cons t u =>
    rw [insertAt] at h
    · split at h
      · obtain ⟨inner, -, rfl⟩ := Option.map_eq_some_iff.mp h
        rw [List.map_append, List.mem_append] at hkey
        rcases hkey with hkey | hkey
        · exact Or.inr hkey
        · exact Or.inl (List.mem_singleton.mp hkey)
      · obtain ⟨inner, -, rfl⟩ := Option.map_eq_some_iff.mp h
        exact mem_keys_putEntry hkey
      · cases h
    · exact fun hnil => nomatch hnil

/-- A missing mapping is made as an empty one. -/
theorem insertAt_nil (value : Raw) (s : String) (r : List String) :
    insertAt value (s :: r) [] = insertAt value (s :: r) [(.text s, .map [])] := by
  cases r with
  | nil => simp [insertAt, putEntry, keyIs]
  | cons t u => simp [insertAt, putEntry, keyIs]

/-- The last key of a chain takes the value, whatever it held. -/
theorem insertAt_last (value : Raw) (s : String) (v : Raw) (es : List (Raw × Raw)) :
    insertAt value [s] ((.text s, v) :: es) = some ((.text s, value) :: es) := by
  simp [insertAt, putEntry, keyIs]

/-- A mapping on the way is entered. -/
theorem insertAt_node (value : Raw) (s : String) (hr : r ≠ []) (inner es : List (Raw × Raw)) :
    insertAt value (s :: r) ((.text s, .map inner) :: es)
      = (insertAt value r inner).map fun inner' => (.text s, .map inner') :: es := by
  cases r with
  | nil => exact absurd rfl hr
  | cons t u => simp [insertAt, putEntry, keyIs]

/-- Any other value on the way is an obstacle. -/
theorem insertAt_leaf (value : Raw) (s : String) (hr : r ≠ []) {v : Raw}
    (hv : v.isMapping = false) (es : List (Raw × Raw)) :
    insertAt value (s :: r) ((.text s, v) :: es) = none := by
  cases r with
  | nil => exact absurd rfl hr
  | cons t u =>
    cases v with
    | map inner => cases hv
    | _ => simp [insertAt, keyIs]

/-- An entry under another key stays as it is. -/
theorem insertAt_other (value : Raw) {key : String} (h : key ≠ s) (r : List String) (v : Raw)
    (es : List (Raw × Raw)) :
    insertAt value (s :: r) ((.text key, v) :: es)
      = (insertAt value (s :: r) es).map fun es' => (.text key, v) :: es' := by
  have hkey : keyIs s (.text key) = false := beq_false_of_ne h
  cases r with
  | nil => simp [insertAt, putEntry, hkey]
  | cons t u =>
    cases hf : es.find? fun p => keyIs s p.1 with
    | none => simp [insertAt, hkey, hf, Function.comp_def]
    | some e =>
      obtain ⟨k, w⟩ := e
      cases w with
      | map inner => simp [insertAt, putEntry, hkey, hf, Function.comp_def]
      | _ => simp [insertAt, hkey, hf]

end Entries

/-! ## The leaves after an insertion -/

/-- A value has been put at a chain of keys. -/
structure Placed (value : Raw) (chain : List String) (before after : List (Raw × Raw)) : Prop where
  tree : KeyTree after
  /-- No leaf stood on the way. -/
  free : ∀ l ∈ leavesOf before, l.1 <+: chain → l.1 = chain
  /-- The leaves at the end of the chain and below it gave way to the new one. -/
  leaves : (leavesOf after).Perm ((chain, value) :: untouched chain (leavesOf before))

/-- What can become of a tree when a value is put at a chain of keys. -/
inductive Inserted (value : Raw) (chain : List String) (before : List (Raw × Raw)) :
    Option (List (Raw × Raw)) → Prop
  /-- A leaf stands on the way. -/
  | blocked {l : KeyedLeaf} (hl : l ∈ leavesOf before) (hway : l.1 <+: chain)
      (hne : l.1 ≠ chain) : Inserted value chain before none
  | placed {after : List (Raw × Raw)} (h : Placed value chain before after) :
      Inserted value chain before (some after)

section Leaves

variable {value : Raw} {s : String} {r : List String} {entries es : List (Raw × Raw)}
variable {o : Option (List (Raw × Raw))}

/-- What becomes of a tree depends on its leaves alone. -/
theorem Inserted.of_leaves {chain : List String} (h : Inserted value chain es o)
    (hl : leavesOf es = leavesOf entries) : Inserted value chain entries o := by
  cases h with
  | blocked hm hway hne => exact .blocked (hl ▸ hm) hway hne
  | placed h => exact .placed ⟨h.tree, hl ▸ h.free, hl ▸ h.leaves⟩

/-- Below the first key of its chain, an insertion is one into the mapping there. -/
theorem Inserted.node {inner : List (Raw × Raw)} (ht : KeyTree ((.text s, .map inner) :: es))
    (h : Inserted value r inner o) :
    Inserted value (s :: r) ((.text s, .map inner) :: es)
      (o.map fun inner' => (.text s, .map inner') :: es) := by
  have hleaves := leavesOf_node s ht.inner.nestedByText es
  cases h with
  | @blocked l hl hway hne =>
    refine .blocked (l := (s :: l.1, l.2)) ?_ (List.cons_prefix_cons.mpr ⟨rfl, hway⟩) ?_
    · rw [hleaves]
      exact List.mem_append_left _ (List.mem_map.mpr ⟨l, hl, rfl⟩)
    · exact fun he => hne (List.cons.inj he).2
  | placed h =>
    refine .placed ⟨.node s h.tree ht.key_not_mem ht.tail, fun l hl hway => ?_, ?_⟩
    · rw [hleaves] at hl
      rcases List.mem_append.mp hl with hl | hl
      · obtain ⟨l', hl', rfl⟩ := List.mem_map.mp hl
        rw [h.free l' hl' (List.cons_prefix_cons.mp hway).2]
      · exact absurd hway (ht.apart_tail r hl).not_below
    · rw [leavesOf_node s h.tree.nestedByText, hleaves, untouched_append, untouched_map_cons,
        untouched_of_apart fun l hl => ht.apart_tail r hl]
      exact (h.leaves.map fun l => (s :: l.1, l.2)).append_right (leavesOf es)

/-- At the end of its chain, an insertion takes the place of all that was there. -/
theorem Placed.last {v : Raw} (hvalue : value.isMapping = false)
    (ht : KeyTree ((.text s, v) :: es)) :
    Placed value [s] ((.text s, v) :: es) ((.text s, value) :: es) where
  tree := .leaf s hvalue ht.key_not_mem ht.tail
  free := by
    intro l hl hway
    rcases mem_leavesOf_cons.mp hl with hl | hl
    · exact hway.eq_of_length_le (ht.prefix_of_mem_head hl).length_le
    · exact absurd hway (ht.apart_tail [] hl).not_below
  leaves := by
    rw [leavesOf_leaf s hvalue, leavesOf_cons, untouched_append,
      untouched_of_prefix fun l hl => ht.prefix_of_mem_head hl,
      untouched_of_apart fun l hl => ht.apart_tail [] hl]
    exact .rfl

/-- An entry under another key stays, and so do its leaves. -/
theorem Inserted.other {key : String} {v : Raw} (ht : KeyTree ((.text key, v) :: es))
    (hkey : key ≠ s) (hnew : ∀ es', o = some es' → .text key ∉ es'.map Prod.fst)
    (h : Inserted value (s :: r) es o) :
    Inserted value (s :: r) ((.text key, v) :: es) (o.map fun es' => (.text key, v) :: es') := by
  have hhead : ∀ l ∈ leavesOfValue [key] v, Apart (s :: r) l.1 := fun l hl =>
    apart_of_first_ne hkey r (ht.prefix_of_mem_head hl)
  cases h with
  | blocked hl hway hne => exact .blocked (mem_leavesOf_cons.mpr (Or.inr hl)) hway hne
  | placed h =>
    refine .placed ⟨ht.move h.tree (hnew _ rfl), fun l hl hway => ?_, ?_⟩
    · rcases mem_leavesOf_cons.mp hl with hl | hl
      · exact absurd hway (hhead l hl).not_below
      · exact h.free l hl hway
    · rw [leavesOf_cons, leavesOf_cons, untouched_append, untouched_of_apart hhead]
      exact (h.leaves.append_left _).trans List.perm_middle

/-- An insertion whose first key is in front, given what the rest of its chain does. -/
theorem inserted_first {v : Raw} (hvalue : value.isMapping = false)
    (hrest : r ≠ [] → ∀ inner, KeyTree inner → Inserted value r inner (insertAt value r inner))
    (ht : KeyTree ((.text s, v) :: es)) :
    Inserted value (s :: r) ((.text s, v) :: es)
      (insertAt value (s :: r) ((.text s, v) :: es)) := by
  by_cases hr : r = []
  · subst hr
    rw [insertAt_last]
    exact .placed (.last hvalue ht)
  · cases ht with
    | leaf _ hv hkey htail =>
      rw [insertAt_leaf value s hr hv]
      refine .blocked (l := ([s], v)) ?_ ?_ ?_
      · rw [leavesOf_leaf s hv]
        exact List.mem_cons_self
      · exact List.cons_prefix_cons.mpr ⟨rfl, List.nil_prefix⟩
      · exact fun he => hr (List.cons.inj he).2.symm
    | node _ hi hkey htail =>
      rw [insertAt_node value s hr]
      exact .node (.node s hi hkey htail) (hrest hr _ hi)

/-- **What one insertion does to a tree**: it fails if a leaf stands on the way, and otherwise takes
the place of the leaves at the end of its chain and below it. -/
theorem inserted_insertAt (hvalue : value.isMapping = false) {chain : List String}
    (hc : chain ≠ []) (ht : KeyTree entries) :
    Inserted value chain entries (insertAt value chain entries) := by
  -- along the chain, and at each of its keys along the entries
  induction chain generalizing entries with
  | nil => exact absurd rfl hc
  | cons s r ihr =>
    have hrest : r ≠ [] → ∀ inner, KeyTree inner →
        Inserted value r inner (insertAt value r inner) := fun hr _ hi => ihr hr hi
    induction ht using KeyTree.cons_induction with
    | nil =>
      rw [insertAt_nil]
      have hempty : KeyTree [(.text s, .map [])] := .node s .nil List.not_mem_nil .nil
      exact (inserted_first hvalue hrest hempty).of_leaves rfl
    | cons key v es ht ih =>
      by_cases hkey : key = s
      · subst hkey
        exact inserted_first hvalue hrest ht
      · rw [insertAt_other value hkey]
        refine .other ht hkey (fun es' hes hmem => ?_) ih
        rcases mem_keys_insertAt hes hmem with he | hmem
        · exact hkey (Raw.text.inj he)
        · exact ht.key_not_mem hmem

end Leaves

/-! ## Insertions that lose nothing -/

section Kept

variable {value : Raw} {chain : List String} {before after : List (Raw × Raw)}

/-- The tree after an insertion that succeeds. -/
theorem placed_of_insertAt (hvalue : value.isMapping = false) (hc : chain ≠ [])
    (ht : KeyTree before) (h : insertAt value chain before = some after) :
    Placed value chain before after := by
  have hstep := inserted_insertAt hvalue hc ht
  rw [h] at hstep
  cases hstep with
  | placed h => exact h

theorem Placed.length_le (h : Placed value chain before after) :
    (leavesOf after).length ≤ (leavesOf before).length + 1 := by
  rw [h.leaves.length_eq, List.length_cons]
  exact Nat.succ_le_succ (length_untouched_le _ _)

/-- Apart from all leaves, an insertion adds one and loses none. -/
theorem Placed.leaves_of_apart (h : Placed value chain before after)
    (hapart : ∀ l ∈ leavesOf before, Apart chain l.1) :
    (leavesOf after).Perm ((chain, value) :: leavesOf before) := by
  have hleaves := h.leaves
  rwa [untouched_of_apart hapart] at hleaves

/-- **An insertion that loses no leaf was apart from all of them.** -/
theorem Placed.apart_of_length (h : Placed value chain before after)
    (hlen : (leavesOf before).length + 1 ≤ (leavesOf after).length) :
    ∀ l ∈ leavesOf before, Apart chain l.1 := by
  intro l hl
  rw [h.leaves.length_eq, List.length_cons] at hlen
  have hnot : ¬ chain <+: l.1 := not_prefix_of_length_untouched (Nat.le_of_succ_le_succ hlen) hl
  exact ⟨hnot, fun hway => hnot (h.free l hl hway ▸ List.prefix_rfl)⟩

/-- **An insertion apart from all leaves succeeds.** -/
theorem exists_insertAt_of_apart (hvalue : value.isMapping = false) (hc : chain ≠ [])
    (ht : KeyTree before) (hapart : ∀ l ∈ leavesOf before, Apart chain l.1) :
    ∃ after, insertAt value chain before = some after ∧ Placed value chain before after := by
  have hstep := inserted_insertAt hvalue hc ht
  generalize insertAt value chain before = o at hstep
  cases hstep with
  | blocked hl hway _ => exact absurd hway (hapart _ hl).not_below
  | placed h => exact ⟨_, rfl, h⟩

end Kept

end Credentials
