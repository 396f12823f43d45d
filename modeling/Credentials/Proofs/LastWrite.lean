import Credentials.Proofs.Schema
import Credentials.Proofs.Stream

/-!
# The last write wins

A load goes through a list of writes that has lost the order of the stream: a credential stands at
the place of its first appearance, with its last value. This file shows that nothing else is lost.

1. **The writes.** `last?_mergeFrom` (in `Credentials.Proofs.Stream`) reads them off the stream.
2. **The bundle.** Every credential is written once, so the order of the writes does not matter
   (`get_foldl_write`), and the bundle holds what the stream supplies last (`get_load`).

The main statement is `load_last_write`.
-/

namespace Credentials

open Text

/-! ## From writes to a bundle -/

theorem heldText_eq_some_iff {v : Raw} {s : String} :
    heldText v = some s ↔ v.unwrap.asText? = some s ∧ isBlank s = false := by
  rw [heldText, Option.filter_eq_some_iff, Bool.not_eq_true']

theorem isEmpty_eq_false_of_not_isBlank {s : String} (h : isBlank s = false) :
    s.isEmpty = false := by
  rw [← Bool.not_eq_true, String.isEmpty_iff]
  rintro rfl
  cases h

/-- A text that is not blank is written as it stands. -/
theorem leafFor_of_not_isBlank (f : Field) {s : String} (h : isBlank s = false) :
    Bundle.leafFor f (writtenRaw (some s)) = some ⟨f.kind, .text s⟩ := by
  rw [Bundle.leafFor, writtenRaw, Raw.unwrap_text, Raw.truthy_text,
    isEmpty_eq_false_of_not_isBlank h]
  rfl

theorem leafFor_heldText (f : Field) (v : Raw) :
    Bundle.leafFor f (writtenRaw (heldText v)) = (heldText v).map fun s => ⟨f.kind, .text s⟩ := by
  cases h : heldText v with
  | none => rfl
  | some s => exact leafFor_of_not_isBlank f (heldText_eq_some_iff.mp h).2

/-- Writes that write every credential at most once may come in any order: each decides for its own
credential. -/
theorem get_foldl_write {w : Writes} (h : w.Single) (b : Bundle) (f : Field) :
    (w.foldl (fun b p => b.write p.1 (writtenRaw p.2)) b).get f
      = match w.last? f with
        | some u => Bundle.leafFor f (writtenRaw u)
        | none => b.get f := by
  induction w generalizing b with
  | nil => rfl
  | cons p r ih =>
    obtain ⟨g, u⟩ := p
    obtain ⟨hg, hr⟩ := List.nodup_cons.mp h
    rw [List.foldl_cons, ih hr]
    by_cases hf : f = g
    · subst hf
      -- written once: the rest of the list leaves this credential alone
      have hn : Writes.last? r f = none := by
        rw [Writes.last?, List.lookup_eq_none_iff]
        intro q hq
        rw [bne_iff_ne]
        rintro rfl
        exact hg (List.mem_map.mpr ⟨q, hq, rfl⟩)
      rw [hn, Writes.last?, List.lookup_cons_self]
      exact Bundle.get_set_self _ _ _
    · have hl : Writes.last? ((g, u) :: r) f = Writes.last? r f := by
        have hne : (f == g) = false := by simpa using hf
        rw [Writes.last?, List.lookup_cons, hne]
        rfl
      have hb : (b.write g (writtenRaw u)).get f = b.get f := Bundle.get_set_of_ne b _ hf
      rw [hl, hb]

/-! ## Loading -/

theorem load_of_merge_ok {sources : List Source} {w : Writes}
    (h : (merge sources).result = .ok w) :
    load sources
      = ⟨(merge sources).logs ++ [.loaded sources.length (Bundle.ofWrites w).present.length],
          .ok (Bundle.ofWrites w)⟩ := by
  simp only [load, h]

theorem load_of_merge_error {sources : List Source} {e : Error}
    (h : (merge sources).result = .error e) : load sources = ⟨(merge sources).logs, .error e⟩ := by
  simp only [load, h]

/-- A load that succeeds is a merge that succeeds, and leaves one more record. -/
theorem merge_of_load {sources : List Source} {b : Bundle} (h : (load sources).result = .ok b) :
    ∃ w, (merge sources).result = .ok w ∧ b = Bundle.ofWrites w
      ∧ (load sources).logs
          = (merge sources).logs ++ [.loaded sources.length b.present.length] := by
  cases hm : (merge sources).result with
  | error e =>
    rw [load_of_merge_error hm] at h
    cases h
  | ok w =>
    rw [load_of_merge_ok hm] at h ⊢
    obtain rfl := Except.ok.inj h
    exact ⟨w, rfl, rfl, rfl⟩

/-- **A loaded bundle holds for each credential the last value of its path, if that is a text with
more than blanks.** -/
theorem get_load {sources : List Source} {b : Bundle} (h : (load sources).result = .ok b)
    (f : Field) :
    b.get f = ((lastValue? (stream sources) f.path).bind heldText).map fun s =>
      ⟨f.kind, .text s⟩ := by
  obtain ⟨w, hw, rfl, -⟩ := merge_of_load h
  have hl : w.last? f = (lastValue? (stream sources) f.path).map heldText := by
    rw [last?_mergeFrom hw f]
    exact Option.or_none
  rw [Bundle.ofWrites, get_foldl_write (Writes.single_of_merge hw), hl]
  cases lastValue? (stream sources) f.path with
  | none => rfl
  | some v => exact leafFor_heldText f v

theorem isSet_load {sources : List Source} {b : Bundle} (h : (load sources).result = .ok b)
    (f : Field) :
    b.isSet f = ((lastValue? (stream sources) f.path).bind heldText).isSome := by
  rw [Bundle.isSet, get_load h, Option.isSome_map]

/-- **The last write wins, credential by credential.**

The last value of a path decides: nothing and a blank text leave the credential out, any other text
is held unmodified in the declared wrapper. The paths that are present come in the order of the
schema and without repetition, and the last record tells their number. -/
theorem load_last_write {sources : List Source} {b : Bundle} (h : (load sources).result = .ok b) :
    (∀ f, b.get f = ((lastValue? (stream sources) f.path).bind heldText).map fun s =>
        ⟨f.kind, .text s⟩)
      ∧ (∀ (f : Field) (v : Raw), lastValue? (stream sources) f.path = some v →
          v = .null ∨ ∃ s, v.unwrap.asText? = some s)
      ∧ b.presentPaths = (Field.all.map Field.path).filter (fun p =>
          ((lastValue? (stream sources) p).bind heldText).isSome)
      ∧ b.presentPaths.Nodup
      ∧ (load sources).logs.getLast? = some (.loaded sources.length b.presentPaths.length) := by
  obtain ⟨w, hw, -, hlogs⟩ := merge_of_load h
  refine ⟨get_load h, ?_, b.presentPaths_eq_filter (isSet_load h), b.nodup_presentPaths, ?_⟩
  · intro f v hv
    obtain ⟨-, -, u, hu⟩ := accepted_of_mergeFrom hw _ (mem_of_lastValue? hv)
    exact (textOf_eq_ok_iff.mp hu).1
  · rw [hlogs, List.getLast?_concat, Bundle.presentPaths, List.length_map]

/-- A layer over another one: it overwrites one credential from inside a wrapper and clears one. -/
def siteOverBase : List Source :=
  [.ofPairs "base"
      [("l1.l1_rpc_url", .text "http://old"), ("database.server_url", .text "postgres://db")],
    .ofPairs "site"
      [("database.server_url", .text " "), ("l1.l1_rpc_url", .secret .plain (.text "http://new"))]]

theorem load_last_write_siteOverBase :
    ∃ b, (load siteOverBase).result = .ok b
      ∧ b.get .l1RpcUrl = some ⟨.plain, .text "http://new"⟩
      ∧ b.get .serverUrl = none
      ∧ b.presentPaths = ["l1.l1_rpc_url"] := by
  obtain ⟨b, hb⟩ : ∃ b, (load siteOverBase).result = .ok b := ⟨_, rfl⟩
  obtain ⟨hget, -, hpaths, -⟩ := load_last_write hb
  have hnew : (lastValue? (stream siteOverBase) Field.l1RpcUrl.path).bind heldText
      = some "http://new" := by decide +kernel
  have hblank : (lastValue? (stream siteOverBase) Field.serverUrl.path).bind heldText = none := by
    decide +kernel
  refine ⟨b, hb, ?_, ?_, hpaths.trans (by decide +kernel)⟩
  · rw [hget, hnew]
    rfl
  · rw [hget, hblank]
    rfl

end Credentials
