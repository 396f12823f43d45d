import Credentials.Proofs.Extensionality
import Credentials.Proofs.FirstFault
import Mathlib.Data.List.Basic

/-!
# Merging in parts

A merge that succeeds is a fold over the stream of its pairs, so the names and the borders of the
sources do not matter to it. Two merges may therefore be made apart and put together afterwards,
the later one over the earlier one, like dictionaries that keep the order of insertion. A merge
keeps what clears a credential, and so nothing is lost on the way.

1. **The fold.** `mergeFrom_eq_ok_iff` and, for layers, `merge_ofLayers_eq_ok_iff`.
2. **The update.** `Writes.update` writes one merge over another; `foldl_record_update` carries a
   fold over from one to the other, and `paths_merge` tells the order of the paths.
3. **Merges as layers.** `Writes.toEntries` makes a merge a plain mapping, which is merged to the
   same again (`merge_toEntries`).

The main statement is `merge_composes`.
-/

namespace Credentials

/-! ## A merge as a fold -/

namespace Writes

/-- The writes after a pair; a path that is no credential's leaves them as they were. -/
def record (w : Writes) (pair : Pair) : Writes :=
  match Field.ofPath? pair.1 with
  | some f => w.put f (heldText pair.2)
  | none => w

theorem record_path (w : Writes) (f : Field) (v : Raw) :
    w.record (f.path, v) = w.put f (heldText v) := by
  rw [record, Field.ofPath?_path]

theorem record_of_accept {source : String} {pair : Pair} {f : Field} {u : Option String}
    (h : accept source pair = .ok (f, u)) (w : Writes) : w.record pair = w.put f u := by
  obtain ⟨p, v⟩ := pair
  obtain ⟨rfl, ht⟩ := accept_eq_ok_iff.mp h
  rw [record_path, (textOf_eq_ok_iff.mp ht).2]

end Writes

theorem not_badPair_of_accept {source : String} {pair : Pair} {f : Field} {u : Option String}
    (h : accept source pair = .ok (f, u)) : ¬ BadPair pair := by
  obtain ⟨hp, ht⟩ := accept_eq_ok_iff.mp h
  exact not_badPair_iff.mpr ⟨⟨f, hp⟩, (textOf_eq_ok_iff.mp ht).1⟩

theorem writePairs_eq_ok_iff {source : String} {pairs : List Pair} {w w' : Writes} :
    writePairs source w pairs = .ok w'
      ↔ (∀ p ∈ pairs, ¬ BadPair p) ∧ w' = pairs.foldl Writes.record w := by
  induction pairs generalizing w with
  | nil =>
    rw [writePairs, Except.ok.injEq, eq_comm]
    exact (and_iff_right fun _ h => absurd h List.not_mem_nil).symm
  | cons pair pairs ih =>
    rw [List.forall_mem_cons, List.foldl_cons]
    constructor
    · intro h
      obtain ⟨f, u, ha, hr⟩ := writePairs_cons_ok h
      rw [Writes.record_of_accept ha]
      obtain ⟨hgood, hw⟩ := ih.mp hr
      exact ⟨⟨not_badPair_of_accept ha, hgood⟩, hw⟩
    · rintro ⟨⟨hp, hgood⟩, hw⟩
      obtain ⟨f, u, ha⟩ := accept_of_not_badPair source hp
      rw [Writes.record_of_accept ha] at hw
      rw [writePairs, ha]
      exact ih.mpr ⟨hgood, hw⟩

/-- **A merge succeeds if every source can be read and no pair is bad, and then it is a fold over
the stream.** -/
theorem mergeFrom_eq_ok_iff {sources : List Source} {w w' : Writes} :
    (mergeFrom w sources).result = .ok w'
      ↔ (∀ s ∈ sources, s.fault = none ∧ ∀ p ∈ s.pairs, ¬ BadPair p)
        ∧ w' = (stream sources).foldl Writes.record w := by
  induction sources generalizing w with
  | nil =>
    rw [mergeFrom, Except.ok.injEq, eq_comm]
    exact (and_iff_right fun _ h => absurd h List.not_mem_nil).symm
  | cons s sources ih =>
    rw [List.forall_mem_cons, stream_cons, List.foldl_append]
    constructor
    · intro h
      obtain ⟨w₁, h₁, hfault, hr⟩ := mergeFrom_cons_ok h
      obtain ⟨hgood, rfl⟩ := writePairs_eq_ok_iff.mp h₁
      obtain ⟨hrest, hw⟩ := ih.mp hr
      exact ⟨⟨⟨hfault, hgood⟩, hrest⟩, hw⟩
    · rintro ⟨⟨⟨hfault, hgood⟩, hrest⟩, hw⟩
      rw [mergeFrom, writePairs_eq_ok_iff.mpr ⟨hgood, rfl⟩, hfault]
      exact ih.mpr ⟨hrest, hw⟩

/-! ## Layers -/

namespace Layer

/-- The pairs of a layer, which do not depend on its place. -/
def pairs (l : Layer) : List Pair := (l.toSource 0).pairs

/-- The error behind the pairs of a layer, if there is one. -/
def fault (l : Layer) : Option Error := (l.toSource 0).fault

theorem pairs_toSource (l : Layer) (i : Nat) : (l.toSource i).pairs = l.pairs := by
  cases l with
  | source s => rfl
  | mapping entries =>
    show (Source.ofMapping _ entries).pairs = (Source.ofMapping _ entries).pairs
    unfold Source.ofMapping
    cases stuckIn entries <;> rfl

theorem fault_toSource (l : Layer) (i : Nat) : (l.toSource i).fault = l.fault := by
  cases l with
  | source s => rfl
  | mapping entries =>
    show (Source.ofMapping _ entries).fault = (Source.ofMapping _ entries).fault
    unfold Source.ofMapping
    cases stuckIn entries <;> rfl

/-- A layer that can be read and whose pairs are all accepted. -/
def Good (l : Layer) : Prop := l.fault = none ∧ ∀ p ∈ l.pairs, ¬ BadPair p

end Layer

/-- What is read off the sources of a list of layers, whatever their places are. -/
theorem map_ofLayers {α : Type} (g : Source → α) (h : Layer → α)
    (hg : ∀ l i, g (Layer.toSource i l) = h l) (layers : List Layer) :
    (Source.ofLayers layers).map g = layers.map h := by
  refine List.ext_getElem? fun i => ?_
  rw [Source.ofLayers, List.getElem?_map, List.getElem?_mapIdx, List.getElem?_map, Option.map_map]
  exact congrArg (Option.map · layers[i]?) (funext fun l => hg l i)

theorem stream_ofLayers (layers : List Layer) :
    stream (Source.ofLayers layers) = layers.flatMap Layer.pairs := by
  rw [stream, List.flatMap_def, List.flatMap_def, map_ofLayers _ _ Layer.pairs_toSource]

theorem merge_ofLayers_eq_ok_iff {layers : List Layer} {w : Writes} :
    (merge (Source.ofLayers layers)).result = .ok w
      ↔ (∀ l ∈ layers, l.Good) ∧ w = (layers.flatMap Layer.pairs).foldl Writes.record [] := by
  have hgood : (∀ s ∈ Source.ofLayers layers, s.fault = none ∧ ∀ p ∈ s.pairs, ¬ BadPair p)
      ↔ ∀ l ∈ layers, l.Good := by
    have hl := map_ofLayers (fun s => (s.fault, s.pairs)) (fun l => (l.fault, l.pairs))
      (fun l i => by rw [l.fault_toSource, l.pairs_toSource]) layers
    have hall := List.forall_mem_map (f := fun s : Source => (s.fault, s.pairs))
      (l := Source.ofLayers layers) (P := fun x => x.1 = none ∧ ∀ p ∈ x.2, ¬ BadPair p)
    rw [hl, List.forall_mem_map] at hall
    exact hall.symm
  rw [merge, mergeFrom_eq_ok_iff, stream_ofLayers, hgood]

/-- A load that succeeds has accepted all of its layers. -/
theorem good_of_load {layers : List Layer} {b : Bundle}
    (h : (load (Source.ofLayers layers)).result = .ok b) : ∀ l ∈ layers, l.Good := by
  obtain ⟨w, hw, -⟩ := merge_of_load h
  exact (merge_ofLayers_eq_ok_iff.mp hw).1

/-- Good layers are loaded, and a credential holds the text of the last pair of its path. -/
theorem load_ofLayers_of_good {layers : List Layer} (h : ∀ l ∈ layers, l.Good) :
    ∃ b, (load (Source.ofLayers layers)).result = .ok b ∧ ∀ f : Field,
      b.get f = ((lastValue? (layers.flatMap Layer.pairs) f.path).bind heldText).map fun s =>
        ⟨f.kind, .text s⟩ := by
  have hload := congrArg Logged.result (load_of_merge_ok (merge_ofLayers_eq_ok_iff.mpr ⟨h, rfl⟩))
  refine ⟨_, hload, fun f => ?_⟩
  rw [get_load hload, stream_ofLayers]

/-! ## Writes over writes -/

namespace Writes

variable {u v w : Writes} {f g : Field} {x y : Option String}

/-- The credentials that are written, in the order of their first appearance. -/
def fields (w : Writes) : List Field := w.map Prod.fst

/-- The writes with others over them: a credential that is there keeps its place. -/
def update (u v : Writes) : Writes := v.foldl (fun w p => w.put p.1 p.2) u

theorem put_put_self (w : Writes) (f : Field) (x y : Option String) :
    (w.put f x).put f y = w.put f y := by
  induction w with
  | nil => simp [put]
  | cons p r ih =>
    obtain ⟨k, z⟩ := p
    by_cases hk : k = f <;> simp [put, hk, ih]

/-- A credential that is there already may be written before or after another one. -/
theorem put_comm (hne : g ≠ f) (hf : f ∈ w.fields) (x y : Option String) :
    (w.put f x).put g y = (w.put g y).put f x := by
  induction w with
  | nil => cases hf
  | cons p r ih =>
    obtain ⟨k, z⟩ := p
    by_cases hkf : k = f
    · subst hkf
      simp [put, hne.symm]
    · have hr : f ∈ fields r := (List.mem_cons.mp hf).resolve_left fun e => hkf e.symm
      by_cases hkg : k = g
      · subst hkg
        simp [put, hne]
      · simp [put, hkf, hkg, ih hr]

theorem put_of_not_mem (h : f ∉ w.fields) (x : Option String) : w.put f x = w ++ [(f, x)] := by
  induction w with
  | nil => rfl
  | cons p r ih =>
    obtain ⟨hk, hr⟩ := List.ne_and_not_mem_of_not_mem_cons h
    rw [put, if_neg fun e => hk e.symm, ih hr]
    rfl

theorem fields_put_of_mem (h : f ∈ w.fields) (x : Option String) :
    (w.put f x).fields = w.fields := by
  induction w with
  | nil => cases h
  | cons p r ih =>
    obtain ⟨k, z⟩ := p
    by_cases hk : k = f
    · simp [put, fields, hk]
    · have hr := ih ((List.mem_cons.mp h).resolve_left fun e => hk e.symm)
      rw [put, if_neg hk]
      exact congrArg (k :: ·) hr

theorem fields_put_of_not_mem (h : f ∉ w.fields) (x : Option String) :
    (w.put f x).fields = w.fields ++ [f] := by
  rw [put_of_not_mem h, fields, List.map_append]
  rfl

theorem mem_fields_put : g ∈ (w.put f x).fields ↔ g = f ∨ g ∈ w.fields := by
  by_cases hf : f ∈ w.fields
  · rw [fields_put_of_mem hf, or_iff_right_of_imp fun e => e ▸ hf]
  · rw [fields_put_of_not_mem hf, List.mem_append, List.mem_singleton, or_comm]

theorem last?_eq_none_iff : w.last? f = none ↔ f ∉ w.fields := by
  rw [last?, List.lookup_eq_none_iff, fields, List.mem_map, not_exists]
  refine forall_congr' fun p => ?_
  rw [bne_iff_ne, not_and]
  exact imp_congr_right fun _ => ne_comm

theorem update_cons (u v : Writes) (f : Field) (x : Option String) :
    u.update ((f, x) :: v) = (u.put f x).update v := rfl

/-- A credential that is there and not written over may be written afterwards. -/
theorem update_put_of_not_mem (hf : f ∈ u.fields) (hv : f ∉ v.fields) (x : Option String) :
    (u.put f x).update v = (u.update v).put f x := by
  induction v generalizing u with
  | nil => rfl
  | cons p r ih =>
    obtain ⟨k, z⟩ := p
    obtain ⟨hk, hr⟩ := List.ne_and_not_mem_of_not_mem_cons hv
    rw [update_cons, update_cons, put_comm (fun e => hk e.symm) hf]
    exact ih (mem_fields_put.mpr (Or.inr hf)) hr

/-- **One more write goes over the writes as it goes over those above them.** -/
theorem update_put (hv : v.Single) (u : Writes) (f : Field) (x : Option String) :
    u.update (v.put f x) = (u.update v).put f x := by
  induction v generalizing u with
  | nil => rfl
  | cons p r ih =>
    obtain ⟨k, z⟩ := p
    obtain ⟨hk, hr⟩ := List.nodup_cons.mp hv
    rw [put]
    split
    · next h =>
      subst h
      rw [update_cons, update_cons, ← update_put_of_not_mem (mem_fields_put.mpr (Or.inl rfl)) hk,
        put_put_self]
    · rw [update_cons, update_cons, ih hr]

theorem last?_update (hv : v.Single) (u : Writes) (f : Field) :
    (u.update v).last? f = (v.last? f).or (u.last? f) := by
  induction v generalizing u with
  | nil => rfl
  | cons p r ih =>
    obtain ⟨k, z⟩ := p
    obtain ⟨hk, hr⟩ := List.nodup_cons.mp hv
    rw [update_cons, ih hr]
    by_cases hf : f = k
    · subst hf
      rw [last?_eq_none_iff.mpr hk, last?_put_self, last?, List.lookup_cons_self]
      rfl
    · have hl : last? ((k, z) :: r) f = last? r f := by
        rw [last?, List.lookup_cons, beq_false_of_ne hf]
        rfl
      rw [last?_put_of_ne _ _ hf, hl]

/-- **The credentials of writes over others: first the ones below, then the new ones.** -/
theorem fields_update (hv : v.Single) (u : Writes) :
    (u.update v).fields = u.fields ++ v.fields.filter (· ∉ u.fields) := by
  induction v generalizing u with
  | nil => exact (List.append_nil _).symm
  | cons p r ih =>
    obtain ⟨k, z⟩ := p
    obtain ⟨hk, hr⟩ := List.nodup_cons.mp hv
    show ((u.put k z).update r).fields = u.fields ++ (k :: fields r).filter (· ∉ u.fields)
    rw [ih hr]
    by_cases hu : k ∈ u.fields
    · rw [fields_put_of_mem hu, List.filter_cons_of_neg (by simpa using hu)]
    · rw [fields_put_of_not_mem hu, List.filter_cons_of_pos (by simpa using hu), List.append_assoc]
      refine congrArg (u.fields ++ k :: ·) (List.filter_congr fun g hg => ?_)
      -- the new credential is not written again
      have hne : g ≠ k := fun e => hk (e ▸ hg)
      simp [hne]

theorem update_of_disjoint (hv : v.Single) (h : u.fields.Disjoint v.fields) :
    u.update v = u ++ v := by
  induction v generalizing u with
  | nil => exact (List.append_nil u).symm
  | cons p r ih =>
    obtain ⟨k, z⟩ := p
    obtain ⟨hk, hr⟩ := List.nodup_cons.mp hv
    obtain ⟨hku, hur⟩ := List.disjoint_cons_right.mp h
    rw [update_cons, ih hr, put_of_not_mem hku, List.append_assoc]
    · rfl
    · rw [fields_put_of_not_mem hku]
      exact List.disjoint_append_left.mpr ⟨hur, List.singleton_disjoint.mpr hk⟩

theorem empty_update (hv : v.Single) : update [] v = v :=
  update_of_disjoint hv (List.disjoint_nil_left _)

/-! ## Folds over the pairs -/

theorem Single.record (hw : w.Single) (pair : Pair) : (w.record pair).Single := by
  unfold Writes.record
  split
  · exact hw.put _ _
  · exact hw

theorem update_record (hv : v.Single) (u : Writes) (pair : Pair) :
    u.update (v.record pair) = (u.update v).record pair := by
  unfold record
  split
  · exact update_put hv u _ _
  · rfl

/-- **A fold over the pairs may be made apart and written over what was there.** -/
theorem foldl_record_update (hv : v.Single) (u : Writes) (pairs : List Pair) :
    u.update (pairs.foldl record v) = pairs.foldl record (u.update v) := by
  induction pairs generalizing v with
  | nil => rfl
  | cons pair pairs ih =>
    rw [List.foldl_cons, List.foldl_cons, ih (hv.record pair), update_record hv]

/-- Every value of a fold was held by a pair. -/
theorem exists_heldText (pairs : List Pair) :
    ∀ p ∈ pairs.foldl record [], ∃ z : Raw, p.2 = heldText z := by
  refine List.foldlRecOn (motive := fun w : Writes => ∀ p ∈ w, ∃ z : Raw, p.2 = heldText z) pairs _
    (fun _ h => absurd h List.not_mem_nil) fun w hw pair _ p hp => ?_
  unfold record at hp
  split at hp
  · rcases mem_put hp with ⟨-, hz⟩ | hp
    · exact ⟨pair.2, hz⟩
    · exact hw p hp
  · exact hw p hp

/-- The paths that are written, in the order of their first appearance. -/
def paths (w : Writes) : List String := w.fields.map Field.path

theorem path_mem_paths : f.path ∈ w.paths ↔ f ∈ w.fields := by
  rw [paths, List.mem_map]
  exact ⟨fun ⟨_, hg, hp⟩ => Field.path_injective hp ▸ hg, fun h => ⟨f, h, rfl⟩⟩

theorem paths_foldl_record {pairs : List Pair} (h : ∀ p ∈ pairs, ¬ BadPair p) (w : Writes) :
    (pairs.foldl record w).paths
      = w.paths ++ ((pairs.map Prod.fst).removeAll w.paths).eraseDups := by
  induction pairs generalizing w with
  | nil => exact (List.append_nil _).symm
  | cons pair pairs ih =>
    obtain ⟨p, z⟩ := pair
    obtain ⟨hp, hgood⟩ := List.forall_mem_cons.mp h
    obtain ⟨⟨f, rfl⟩, -⟩ := not_badPair_iff.mp hp
    rw [List.foldl_cons, ih hgood, record_path, List.map_cons, List.cons_removeAll]
    by_cases hf : f ∈ w.fields
    · have hc : w.paths.contains f.path = true := List.contains_iff_mem.mpr (path_mem_paths.mpr hf)
      rw [if_neg (by rw [hc]; exact Bool.noConfusion), paths, fields_put_of_mem hf]
      rfl
    · have hc : w.paths.contains f.path = false := by
        rw [← Bool.not_eq_true, List.contains_iff_mem, path_mem_paths]
        exact hf
      have hw : (w.put f (heldText z)).paths = w.paths ++ [f.path] := by
        rw [paths, fields_put_of_not_mem hf, List.map_append]
        rfl
      rw [if_pos hc, hw, List.eraseDups_cons, List.append_assoc]
      simp only [List.removeAll, List.filter_filter, List.singleton_append]
      refine congrArg (w.paths ++ f.path :: List.eraseDups ·) (List.filter_congr fun a _ => ?_)
      by_cases ha : a = f.path <;> simp [ha]

theorem paths_merge {sources : List Source} (h : (merge sources).result = .ok w) :
    w.paths = ((stream sources).map Prod.fst).eraseDups := by
  obtain ⟨hgood, rfl⟩ := mergeFrom_eq_ok_iff.mp h
  have hp : ∀ p ∈ stream sources, ¬ BadPair p :=
    List.forall_mem_flatMap.mpr fun s hs => (hgood s hs).2
  exact (paths_foldl_record hp []).trans (congrArg List.eraseDups (List.removeAll_nil))

/-! ## Merges as layers -/

/-- Writes as pairs of path and value. -/
def toPairs (w : Writes) : List Pair := w.map fun p => (p.1.path, writtenRaw p.2)

/-- Writes as the entries of a plain mapping. -/
def toEntries (w : Writes) : List (Raw × Raw) := w.map fun p => (.text p.1.path, writtenRaw p.2)

theorem not_badPair_of_mem_toPairs (w : Writes) : ∀ p ∈ w.toPairs, ¬ BadPair p :=
  List.forall_mem_map.mpr fun p _ => not_badPair_iff.mpr ⟨⟨p.1, rfl⟩, writable_writtenRaw p.2⟩

theorem toPairs_cons (f : Field) (x : Option String) (w : Writes) :
    toPairs ((f, x) :: w) = (f.path, writtenRaw x) :: w.toPairs := rfl

theorem toEntries_cons (f : Field) (x : Option String) (w : Writes) :
    toEntries ((f, x) :: w) = (.text f.path, writtenRaw x) :: w.toEntries := rfl

theorem stuckIn_toEntries (w : Writes) : stuckIn w.toEntries = none := by
  induction w with
  | nil => rw [toEntries, List.map_nil, stuckIn]
  | cons p r ih =>
    obtain ⟨f, x⟩ := p
    have hv : stuckInValue (writtenRaw x) = none := by
      cases x <;> simp [writtenRaw, stuckInValue]
    rw [toEntries_cons, stuckIn, hv, ih]
    rfl

theorem flatten_toEntries (w : Writes) : flatten "" w.toEntries = w.toPairs := by
  induction w with
  | nil => exact flatten_nil ""
  | cons p r ih =>
    obtain ⟨f, x⟩ := p
    have hv : flattenValue (childPath "" (.text f.path)) (writtenRaw x)
        = [(f.path, writtenRaw x)] := by
      cases x with
      | none => exact flattenValue_null _
      | some s => exact flattenValue_text _ s
    rw [toEntries_cons, flatten_cons, hv, ih]
    rfl

theorem ofMapping_toEntries (name : String) (w : Writes) :
    Source.ofMapping name w.toEntries = .ofPairs name w.toPairs := by
  rw [Source.ofMapping, stuckIn_toEntries, flatten_toEntries]

theorem pairs_toEntries (w : Writes) : (Layer.mapping w.toEntries).pairs = w.toPairs :=
  congrArg Source.pairs (ofMapping_toEntries _ w)

theorem good_toEntries (w : Writes) : (Layer.mapping w.toEntries).Good := by
  refine ⟨congrArg Source.fault (ofMapping_toEntries _ w), ?_⟩
  rw [pairs_toEntries]
  exact w.not_badPair_of_mem_toPairs

/-- A text that a value supplies supplies itself. -/
theorem heldText_writtenRaw_heldText (z : Raw) :
    heldText (writtenRaw (heldText z)) = heldText z := by
  cases h : heldText z with
  | none => rfl
  | some s => exact heldText_eq_some_iff.mpr ⟨rfl, (heldText_eq_some_iff.mp h).2⟩

/-- Texts that values supplied are written again as they are. -/
theorem foldl_record_toPairs (h : ∀ p ∈ w, ∃ z : Raw, p.2 = heldText z) (u : Writes) :
    w.toPairs.foldl record u = u.update w := by
  rw [toPairs, List.foldl_map, update]
  refine List.foldl_ext _ _ _ fun a p hp => ?_
  obtain ⟨z, hz⟩ := h p hp
  rw [record_path, hz, heldText_writtenRaw_heldText]

end Writes

open Writes

variable {A B : List Layer} {u v : Writes}

/-- **A merge is merged to itself.** -/
theorem merge_toEntries (ha : (merge (Source.ofLayers A)).result = .ok u) :
    (merge (Source.ofLayers [.mapping u.toEntries])).result = .ok u := by
  obtain ⟨-, hu⟩ := merge_ofLayers_eq_ok_iff.mp ha
  refine merge_ofLayers_eq_ok_iff.mpr ⟨List.forall_mem_singleton.mpr u.good_toEntries, ?_⟩
  rw [List.flatMap_singleton, pairs_toEntries, foldl_record_toPairs (hu ▸ exists_heldText _),
    empty_update (single_of_merge ha)]

/-- **A merge of layers and more layers is the merge of these over the merge of those.** -/
theorem merge_append (ha : (merge (Source.ofLayers A)).result = .ok u)
    (hb : (merge (Source.ofLayers B)).result = .ok v) :
    (merge (Source.ofLayers (A ++ B))).result = .ok (u.update v) := by
  obtain ⟨hgoodA, hu⟩ := merge_ofLayers_eq_ok_iff.mp ha
  obtain ⟨hgoodB, hv⟩ := merge_ofLayers_eq_ok_iff.mp hb
  refine merge_ofLayers_eq_ok_iff.mpr ⟨List.forall_mem_append.mpr ⟨hgoodA, hgoodB⟩, ?_⟩
  have hempty : Single [] := List.nodup_nil
  rw [List.flatMap_append, List.foldl_append, ← hu, hv, foldl_record_update hempty]
  rfl

/-! ## Loads -/

namespace Bundle

theorem sound_ofWrites (w : Writes) : (ofWrites w).Sound :=
  foldl_write_induction (fun _ f _ hv hb => hb.write f hv) w sound_empty

/-- The order of the writes does not matter to a bundle. -/
theorem ofWrites_congr (hu : u.Single) (hv : v.Single) (h : ∀ f, u.last? f = v.last? f) :
    ofWrites u = ofWrites v := by
  refine (sound_ofWrites u).canonical.ext (sound_ofWrites v).canonical fun f => ?_
  rw [ofWrites, ofWrites, get_foldl_write hu, get_foldl_write hv, h]

/-- A bundle of texts compares as equal to itself. -/
theorem Sound.equal_self {b : Bundle} (h : b.Sound) : b.toRaw.equal b.toRaw = true :=
  (equal_iff_get h h).mpr h.sameSecret_self

end Bundle

/-- Two lists of layers that are both loaded, to bundles that compare as equal. -/
def EqualLoads (xs ys : List Layer) : Prop :=
  ∃ a b, (load (Source.ofLayers xs)).result = .ok a ∧ (load (Source.ofLayers ys)).result = .ok b
    ∧ a.toRaw.equal b.toRaw = true

/-- Loads are equal if their merges hold the same, in whatever order. -/
theorem equalLoads_of_merge {xs ys : List Layer}
    (hx : (merge (Source.ofLayers xs)).result = .ok u)
    (hy : (merge (Source.ofLayers ys)).result = .ok v) (h : ∀ f, u.last? f = v.last? f) :
    EqualLoads xs ys := by
  have heq : Bundle.ofWrites u = Bundle.ofWrites v :=
    Bundle.ofWrites_congr (single_of_merge hx) (single_of_merge hy) h
  refine ⟨Bundle.ofWrites u, Bundle.ofWrites v, ?_, ?_, ?_⟩
  · rw [load_of_merge_ok hx]
  · rw [load_of_merge_ok hy]
  · rw [← heq]
    exact (Bundle.sound_ofWrites u).equal_self

/-- **Merging composes.**

Let two lists of layers be merged apart. The two lists one after the other are merged too, to the
second merge written over the first: a credential that both write keeps its place, those that only
the second writes come behind, and so every path stands where it first appeared; what clears a
credential is kept as well, and clears what is below it. A merge taken as a plain mapping is merged
to itself, its order included. So the layers may be merged in parts before a load, and if the two
merges write no credential in common, the lists may be loaded in either order. -/
theorem merge_composes (ha : (merge (Source.ofLayers A)).result = .ok u)
    (hb : (merge (Source.ofLayers B)).result = .ok v) :
    (merge (Source.ofLayers (A ++ B))).result = .ok (u.update v)
      ∧ (u.update v).fields = u.fields ++ v.fields.filter (· ∉ u.fields)
      ∧ (∀ f, (u.update v).last? f = (v.last? f).or (u.last? f))
      ∧ (u.update v).paths = ((stream (Source.ofLayers (A ++ B))).map Prod.fst).eraseDups
      ∧ (merge (Source.ofLayers [.mapping u.toEntries])).result = .ok u
      ∧ EqualLoads (A ++ B) [.mapping u.toEntries, .mapping v.toEntries]
      ∧ (u.fields.Disjoint v.fields → EqualLoads (A ++ B) (B ++ A)) := by
  have hu : u.Single := single_of_merge ha
  have hv : v.Single := single_of_merge hb
  have hab := merge_append ha hb
  have hparts := merge_append (merge_toEntries ha) (merge_toEntries hb)
  refine ⟨hab, fields_update hv u, last?_update hv u, paths_merge hab, merge_toEntries ha,
    equalLoads_of_merge hab hparts fun _ => rfl, fun hdisjoint => ?_⟩
  refine equalLoads_of_merge hab (merge_append hb ha) fun f => ?_
  rw [last?_update hv, last?_update hu]
  by_cases hf : f ∈ u.fields
  · rw [last?_eq_none_iff.mpr fun hfv => hdisjoint hf hfv, Option.none_or, Option.or_none]
  · rw [last?_eq_none_iff.mpr hf, Option.none_or, Option.or_none]

/-- A nested mapping and a source over it that overwrites an endpoint. -/
def draftLayers : List Layer :=
  [.mapping [(.text "da", .map [(.text "avail", .map [(.text "seed_phrase", .text "words")])]),
      (.text "l1.l1_rpc_url", .text "http://old")],
    .source (.ofPairs "env" [("l1.l1_rpc_url", .secret .plain (.text "http://new"))])]

/-- A change of backend: one credential is cleared and another one given. -/
def changeOfBackend : List Layer :=
  [.mapping [(.text "da.celestia.private_key", .text "0x1"),
      (.text "da", .map [(.text "avail.seed_phrase", .text " ")])]]

/-- Layers without a credential in common with those of `draftLayers`. -/
def databaseLayers : List Layer := [.mapping [(.text "database.server_url", .text "postgres://db")]]

theorem merge_composes_changeOfBackend :
    (merge (Source.ofLayers (draftLayers ++ changeOfBackend))).result
        = .ok [(.availSeedPhrase, none), (.l1RpcUrl, some "http://new"),
          (.celestiaPrivateKey, some "0x1")]
      ∧ EqualLoads (draftLayers ++ databaseLayers) (databaseLayers ++ draftLayers) := by
  have hdraft : (merge (Source.ofLayers draftLayers)).result
      = .ok [(.availSeedPhrase, some "words"), (.l1RpcUrl, some "http://new")] := rfl
  have hchange : (merge (Source.ofLayers changeOfBackend)).result
      = .ok [(.celestiaPrivateKey, some "0x1"), (.availSeedPhrase, none)] := rfl
  have hdatabase : (merge (Source.ofLayers databaseLayers)).result
      = .ok [(.serverUrl, some "postgres://db")] := rfl
  obtain ⟨hmerge, -⟩ := merge_composes hdraft hchange
  obtain ⟨-, -, -, -, -, -, hswap⟩ := merge_composes hdraft hdatabase
  exact ⟨hmerge, hswap (by simp [Writes.fields])⟩

end Credentials
