import Credentials.Proofs.Documents.Ends
import Credentials.Yaml.Value

/-!
# Faults of the values

Which documents have a value, or are malformed and nothing worse. A scalar may not fit its tag, and
a mapping may stand for a scalar by a default value; where neither happens (`Nodes.Convertible`), no
conversion fails. The nodes change as merge keys are replaced, and `Nodes.Sound` says what stays
true of them: only mappings take new pairs, and the one tag that changes is that of a default value,
which becomes a text.

Main statements: `malformed_toRaw`, and `Assembly.Kept.fillAll`, what the parts of a filling keep is
kept by the whole.
-/

namespace Credentials.Yaml

/-- A malformed document. -/
def IsMalformed (f : DocumentFault) : Prop := ∃ line, f = .malformed line

/-! ## Scalars and their tags -/

/-- Whether the value of a node under a tag is made from a text. The sign of a default value becomes
a text where it is a key. -/
def Tag.isScalar : Tag → Bool
  | .null | .bool | .int | .float | .binary | .timestamp | .str | .value => true
  | _ => false

/-- Whether a text can be converted to what its tag says, or else makes the document malformed. -/
def converts (t : Tag) (text : String) : Bool :=
  match t with
  | .bool => (boolOf text).isOk
  | .int => (intOf text).isOk
  | .float => (floatOf 0 text).isOk
  | .timestamp => (timestampOf text).isOk
  | _ => true

/-- The mark of a number does not decide whether there is one. -/
theorem isOk_floatOf (mark mark' : Nat) (s : String) :
    (floatOf mark s).isOk = (floatOf mark' s).isOk := by
  unfold floatOf
  dsimp only
  split
  · rfl
  split
  · rfl
  split
  · rfl
  split
  · generalize List.mapM floating _ = parts
    cases parts with
    | error e => rfl
    | ok parts =>
      simp only [bind, Except.bind]
      cases sumOfSixties 0 0.0 parts.reverse <;> rfl
  · cases floating _ <;> rfl

/-- Whether the text of a node, if it holds one, fits its tag. -/
def Node.fits (n : Node) : Bool :=
  match n.content with
  | .scalar text => converts n.tag text
  | _ => true

/-- Whether a node is a mapping under the tag of a scalar. -/
def Node.standsForScalar (n : Node) : Bool :=
  match n.content with
  | .mapping _ => n.tag.isScalar
  | _ => false

namespace Nodes

/-- Nodes whose scalars fit their tags, and among which no mapping stands for a scalar: either there
is no default value, or no mapping has the tag of a scalar. -/
structure Convertible (ns : Nodes) : Prop where
  scalars : ∀ n ∈ ns.toList, n.fits = true
  defaults : (∀ n ∈ ns.toList, n.tag ≠ .value) ∨ ∀ n ∈ ns.toList, n.standsForScalar = false

instance (ns : Nodes) : Decidable ns.Convertible :=
  decidable_of_iff ((∀ n ∈ ns.toList, n.fits = true)
      ∧ ((∀ n ∈ ns.toList, n.tag ≠ .value) ∨ ∀ n ∈ ns.toList, n.standsForScalar = false))
    ⟨fun h => ⟨h.1, h.2⟩, fun h => ⟨h.1, h.2⟩⟩

/-- What stays true of convertible nodes as merge keys are replaced; `mapping` says which of them
are mappings. -/
structure Sound (mapping : Nat → Prop) (ns : Nodes) : Prop where
  scalars : ∀ id text, ns.contentOf id = .scalar text → converts (ns.tagOf id) text = true
  mappings : ∀ id pairs, ns.contentOf id = .mapping pairs → mapping id
  defaults : (∀ id, ns.tagOf id ≠ .value) ∨ ∀ id, mapping id → (ns.tagOf id).isScalar = false

variable {mapping : Nat → Prop} {ns : Nodes}

/-- A node that holds anything is among the nodes. -/
theorem exists_of_contentOf {id : Nat} {c : Content} (h : ns.contentOf id = c)
    (hc : c ≠ .sequence []) : ∃ n ∈ ns.toList, n.content = c ∧ n.tag = ns.tagOf id := by
  unfold contentOf at h
  unfold tagOf
  cases hn : ns[id]? with
  | none =>
    rw [hn] at h
    exact absurd h.symm hc
  | some n =>
    rw [hn] at h
    exact ⟨n, Array.mem_toList_iff.mpr (Array.mem_of_getElem? hn), h, rfl⟩

theorem Convertible.sound (h : ns.Convertible) :
    ns.Sound fun id => ∃ pairs, ns.contentOf id = .mapping pairs where
  scalars id text ht := by
    obtain ⟨n, hn, hc, htag⟩ := exists_of_contentOf ht (by simp)
    have hfits := h.scalars n hn
    rwa [Node.fits, hc, htag] at hfits
  mappings id pairs hp := ⟨pairs, hp⟩
  defaults := by
    refine h.defaults.imp (fun hv id hid => ?_) fun hm id ⟨pairs, hp⟩ => ?_
    · unfold tagOf at hid
      cases hn : ns[id]? with
      | none => simp [hn] at hid
      | some n =>
        rw [hn] at hid
        exact hv n (Array.mem_toList_iff.mpr (Array.mem_of_getElem? hn)) hid
    · obtain ⟨n, hn, hc, htag⟩ := exists_of_contentOf hp (by simp)
      have hstands := hm n hn
      rwa [Node.standsForScalar, hc, htag] at hstands

theorem tagOf_setContent (id other : Nat) (c : Content) :
    (ns.setContent id c).tagOf other = ns.tagOf other := by
  simp only [setContent, tagOf, Array.getElem?_modify]
  split
  · cases ns[other]? <;> rfl
  · rfl

theorem contentOf_setTag (id other : Nat) (t : Tag) :
    (ns.setTag id t).contentOf other = ns.contentOf other := by
  simp only [setTag, contentOf, Array.getElem?_modify]
  split
  · cases ns[other]? <;> rfl
  · rfl

theorem tagOf_setTag (id other : Nat) (t : Tag) :
    id = other ∧ (ns.setTag id t).tagOf other = t ∨
      (ns.setTag id t).tagOf other = ns.tagOf other := by
  simp only [setTag, tagOf, Array.getElem?_modify]
  split
  · next h =>
    cases ns[other]? with
    | none => exact .inr rfl
    | some n => exact .inl ⟨h, rfl⟩
  · exact .inr rfl

theorem contentOf_setContent_mapping (id : Nat) (pairs : List (Nat × Nat)) (text : String) :
    (ns.setContent id (.mapping pairs)).contentOf id ≠ .scalar text := by
  by_cases h : id < ns.size
  · simp [contentOf_setContent_self h]
  · simp [setContent, contentOf, h]

/-- A mapping may take other pairs. -/
theorem Sound.setContent (h : ns.Sound mapping) {id : Nat} (hid : mapping id)
    (pairs : List (Nat × Nat)) : (ns.setContent id (.mapping pairs)).Sound mapping where
  scalars other text ht := by
    rw [tagOf_setContent]
    by_cases ho : id = other
    · exact absurd ht (ho ▸ contentOf_setContent_mapping id pairs text)
    · rw [contentOf_setContent_of_ne ns ho] at ht
      exact h.scalars other text ht
  mappings other pairs' hp := by
    by_cases ho : id = other
    · exact ho ▸ hid
    · rw [contentOf_setContent_of_ne ns ho] at hp
      exact h.mappings other pairs' hp
  defaults := by simpa only [tagOf_setContent] using h.defaults

theorem Sound.mapping_of_pairsOf (h : ns.Sound mapping) {id place : Nat} {p : Nat × Nat}
    (hp : (ns.pairsOf id)[place]? = some p) : mapping id := by
  unfold pairsOf at hp
  split at hp
  · next pairs hc => exact h.mappings id pairs hc
  · simp at hp

/-- A default value that is a key becomes a text. -/
theorem Sound.setTag (h : ns.Sound mapping) {id : Nat} (hid : ns.tagOf id = .value) :
    (ns.setTag id .str).Sound mapping where
  scalars other text ht := by
    rw [contentOf_setTag] at ht
    obtain ⟨-, ho⟩ | ho := ns.tagOf_setTag id other .str <;> rw [ho]
    · rfl
    · exact h.scalars other text ht
  mappings other pairs hp := h.mappings other pairs (contentOf_setTag id other .str ▸ hp)
  defaults := by
    refine .inr fun other ho => ?_
    have hs := h.defaults.resolve_left fun hv => hv id hid
    obtain ⟨rfl, -⟩ | htag := ns.tagOf_setTag id other .str
    · exact absurd (hs id ho) (by simp [hid, Tag.isScalar])
    · exact htag ▸ hs other ho

/-! ## Merge keys -/

theorem keeps_putInFront {id : Nat} {merged : List (Nat × Nat)} (h : merged = [] ∨ mapping id) :
    Keeps (Sound mapping) IsMalformed (putInFront id merged) := by
  unfold putInFront
  split
  · exact .pure ()
  · next hm =>
    exact .modify fun ns hns => hns.setContent (h.resolve_left (by simpa using hm)) _

variable {visit : Nat → Change Unit} (hv : ∀ id, Keeps (Sound mapping) IsMalformed (visit id))
include hv

theorem keeps_pairsNamed (id : Nat) :
    Keeps (Sound mapping) IsMalformed (pairsNamed visit id) := by
  refine .get_bind fun ns _ => ?_
  split
  · exact .bind (hv id) fun _ => .get_bind fun _ _ => .pure _
  · exact .get_bind fun _ _ => .throw ⟨_, rfl⟩

theorem keeps_pairsMerged (id : Nat) :
    Keeps (Sound mapping) IsMalformed (pairsMerged visit id) := by
  refine .get_bind fun ns _ => ?_
  split
  · exact .bind (.mapM fun i _ => keeps_pairsNamed hv i) fun _ => .pure _
  · exact keeps_pairsNamed hv id

/-- Where pairs were merged there is a mapping, which may take them in the end. -/
theorem keeps_flattenFrom {id n place : Nat} {merged : List (Nat × Nat)}
    (h : merged = [] ∨ mapping id) :
    Keeps (Sound mapping) IsMalformed (flattenFrom visit id n place merged) := by
  induction n generalizing place merged with
  | zero => exact keeps_putInFront h
  | succ n ih =>
    refine .get_bind fun ns hns => ?_
    split
    · exact keeps_putInFront h
    · next k v hk =>
      split
      · have hid : mapping id := hns.mapping_of_pairsOf hk
        exact .bind (.set (hns.setContent hid _)) fun _ =>
          .bind (keeps_pairsMerged hv v) fun _ => ih (.inr hid)
      · next ht => exact .bind (.set (hns.setTag ht)) fun _ => ih h
      · exact ih h

omit hv

theorem keeps_flatten (merges id : Nat) :
    Keeps (Sound mapping) IsMalformed (flatten merges id) := by
  induction merges generalizing id with
  | zero => exact .pure ()
  | succ merges ih =>
    refine .get_bind fun ns _ => ?_
    split
    · exact keeps_flattenFrom ih (.inl rfl)
    · exact .pure ()

end Nodes

/-! ## Values of scalars -/

theorem malformed_converted {v : Except ScalarFault Raw} (h : v.isOk = true) :
    FailsOnly IsMalformed (converted v) := by
  cases v with
  | error e => cases h
  | ok x => exact .ok trivial

theorem malformed_converted_map {α : Type} {x : Except ScalarFault α} {f : α → Raw}
    (h : x.isOk = true) : FailsOnly IsMalformed (converted (x.map f)) := by
  cases x with
  | error e => cases h
  | ok a => exact .ok trivial

/-- No conversion fails among sound nodes. -/
theorem malformed_scalarValue {mapping : Nat → Prop} {ns : Nodes} (h : ns.Sound mapping) {id : Nat}
    (ht : (ns.tagOf id).isScalar = true) : FailsOnly IsMalformed (scalarValue ns id) := by
  cases hc : ns.contentOf id with
  | scalar text =>
    have hs : scalarText ns (ns.size + 1) id = .ok text := by simp only [scalarText, hc]
    have hfits := h.scalars id text hc
    simp only [scalarValue, hs, bind, Except.bind]
    split
    · exact .ok trivial
    · next htag =>
      simp only [htag, converts] at hfits
      exact malformed_converted_map hfits
    · next htag =>
      simp only [htag, converts] at hfits
      exact malformed_converted_map hfits
    · next htag =>
      simp only [htag, converts] at hfits
      apply malformed_converted
      rw [isOk_floatOf (id + 1) 0 text, hfits]
    · split
      · exact .ok trivial
      · exact .error ⟨_, rfl⟩
    · next htag =>
      simp only [htag, converts] at hfits
      simp only [hc, isScalar, if_true]
      apply malformed_converted
      rw [hfits]
    · exact .ok trivial
  | sequence items =>
    have hs : scalarText ns (ns.size + 1) id = .error (.malformed (ns.lineOf id + 1)) := by
      simp only [scalarText, hc]
    simp only [scalarValue, hs, bind, Except.bind]
    exact .error ⟨_, rfl⟩
  | mapping pairs =>
    have hv : ∀ id, ns.tagOf id ≠ .value := h.defaults.resolve_right fun hm => by
      have := hm id (h.mappings id pairs hc)
      simp [ht] at this
    have hfind : (pairs.find? fun p => ns.tagOf p.1 == .value) = none := by
      simp [hv]
    have hs : scalarText ns (ns.size + 1) id = .error (.malformed (ns.lineOf id + 1)) := by
      simp only [scalarText, hc, hfind]
    simp only [scalarValue, hs, bind, Except.bind]
    exact .error ⟨_, rfl⟩

/-! ## Assembly -/

namespace Assembly

/-- A property of assemblies that every part of a filling keeps, where the faults are of one sort. -/
structure Kept (I : Assembly → Prop) (P : DocumentFault → Prop) : Prop where
  malformed : ∀ line, P (.malformed line)
  meet : ∀ id, Keeps I P (meet id)
  /-- Collections are settled at the end of their filling. -/
  settle : ∀ id shape, (∀ v, shape ≠ .value v) → Keeps I P (settle id shape)
  /-- Merge keys are replaced before a mapping is filled. -/
  flatten : ∀ a id, I a → Ends P (fun r => I { a with nodes := r.2 })
    ((Nodes.flatten a.merges id).run a.nodes)

namespace Kept

variable {I : Assembly → Prop} {P : DocumentFault → Prop} (h : Kept I P)
include h

theorem misplaced {α : Type} (id : Nat) : Keeps I P (misplaced id : Step α) :=
  .get_bind fun _ _ => .throw (h.malformed _)

theorem meetKey (id : Nat) : Keeps I P (meetKey id) := by
  refine .bind (h.meet id) fun _ => .get_bind fun a _ => ?_
  split
  · exact .pure _
  · exact h.misplaced id

theorem putPair (entries : List (Raw × Nat)) (p : Nat × Nat) : Keeps I P (putPair entries p) :=
  .bind (h.meetKey _) fun _ => .bind (h.meet _) fun _ => .pure _

theorem entries (id : Nat) : Keeps I P (entries id) :=
  .get_bind fun a ha => .lift_bind (h.flatten a id ha) fun _ hr =>
    .bind (.set hr) fun _ => .foldlM fun _ _ _ => h.putPair _ _

theorem onePair (id : Nat) : Keeps I P (onePair id) := by
  refine .get_bind fun a _ => ?_
  split
  · exact .bind (h.meet _) fun _ => .bind (h.meet _) fun _ => .pure _
  · exact h.misplaced id

theorem fill (id : Nat) : Keeps I P (fill id) := by
  refine .get_bind fun a _ => ?_
  dsimp only
  split
  · exact .bind (.forM fun i _ => h.meet i) fun _ => h.settle _ _ nofun
  · exact .bind (.mapM fun i _ => h.onePair i) fun _ => h.settle _ _ nofun
  · exact .bind (.mapM fun i _ => h.onePair i) fun _ => h.settle _ _ nofun
  · exact .bind (h.entries id) fun _ => h.settle _ _ nofun
  · exact .bind (h.entries id) fun _ => h.settle _ _ nofun
  · exact h.misplaced id

/-- **What the parts keep, the filling of all collections keeps.** -/
theorem fillAll (n place : Nat) : Keeps I P (fillAll n place) := by
  induction n generalizing place with
  | zero => exact .pure ()
  | succ n ih =>
    refine .get_bind fun a _ => ?_
    split
    · exact .bind (h.fill _) fun _ => ih _
    · exact .pure ()

end Kept

variable {mapping : Nat → Prop}

/-- To meet a node keeps the nodes sound and fails only where the document is malformed. -/
theorem sound_meet (id : Nat) :
    Keeps (fun a => a.nodes.Sound mapping) IsMalformed (meet id) := by
  refine .get_bind fun a ha => ?_
  split
  · exact .pure ()
  · split
    iterate 5
      · exact .bind (.modify fun _ h => h) fun _ => .modify fun _ h => h
    iterate 3
      · exact .get_bind fun _ _ => .throw ⟨_, rfl⟩
    · next hseq hmap hset homap hpairs hmerge hvalue hother =>
      have ht : (a.nodes.tagOf id).isScalar = true := by
        cases h : a.nodes.tagOf id <;> simp_all [Tag.isScalar]
      exact .bind (.lift (malformed_scalarValue ha ht)) fun _ => .modify fun _ h => h

theorem kept_sound : Kept (fun a => a.nodes.Sound mapping) IsMalformed where
  malformed line := ⟨line, rfl⟩
  meet := sound_meet
  settle _ _ _ := .modify fun _ h => h
  flatten a id ha := Nodes.keeps_flatten a.merges id a.nodes ha

end Assembly

/-- A document of convertible nodes has a value, or it is malformed. -/
theorem malformed_toRaw {d : Document} (h : d.nodes.Convertible) :
    FailsOnly IsMalformed d.toRaw :=
  Ends.bind (Assembly.sound_meet d.top _ h.sound) fun r hr =>
    Ends.bind (Assembly.kept_sound.fillAll d.nodes.size 0 r.2 hr) fun _ _ => .ok trivial

end Credentials.Yaml
