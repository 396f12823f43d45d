import Credentials.Proofs.MergeAlgebra

/-!
# Loads beside calls

A list of writes can be made in two ways: loaded, each from a plain mapping of its own, or made by
calls on an empty bundle, one after the other. Both are told by the last write of each credential,
a load by the text that it supplies (`heldText`) and the calls by the text that they keep
(`keptText`). The two part at one sort of value: a text of nothing but blanks, which a load takes
for nothing and a call keeps.

* `load_toLayers` — the load succeeds, and what it holds
* `foldlM_writeAt` — the calls succeed, and what they leave
* `heldText_eq_keptText_iff` — where the two rules part
* `load_agrees_with_calls` — the two ways side by side
-/

namespace Credentials

open Text

/-! ## The two rules -/

/-- A text of blanks, with at least one of them. -/
def OnlyBlanks (s : String) : Prop := s ≠ "" ∧ isBlank s = true

theorem keptText_text (s : String) : keptText (.text s) = if s.isEmpty then none else some s :=
  keptText_of_unwrap_eq_text rfl

theorem heldText_text (s : String) : heldText (.text s) = if isBlank s then none else some s :=
  heldText_of_asText? rfl

/-- A load supplies nothing for a text of blanks, which a call keeps. -/
theorem heldText_of_onlyBlanks {s : String} (h : OnlyBlanks s) :
    heldText (.text s) = none ∧ keptText (.text s) = some s := by
  obtain ⟨hne, hb⟩ := h
  rw [heldText_text, keptText_text, if_pos hb, if_neg fun he => hne (String.isEmpty_iff.mp he)]
  exact ⟨rfl, rfl⟩

/-- **The two rules part at texts of blanks, and nowhere else.** -/
theorem heldText_eq_keptText_iff {x : Option String} :
    heldText (writtenRaw x) = keptText (writtenRaw x)
      ↔ ∀ s, writtenRaw x = .text s → ¬ OnlyBlanks s := by
  cases x with
  | none => exact iff_of_true rfl fun _ h => nomatch h
  | some s =>
    constructor
    · rintro h t ht hblanks
      obtain rfl := Raw.text.inj ht
      obtain ⟨hheld, hkept⟩ := heldText_of_onlyBlanks hblanks
      rw [writtenRaw, hheld, hkept] at h
      cases h
    · intro h
      rw [writtenRaw, heldText_text, keptText_text]
      by_cases he : s = ""
      · subst he
        rfl
      · have hb : isBlank s = false := by
          rw [← Bool.not_eq_true]
          exact fun hb => h s rfl ⟨he, hb⟩
        rw [hb, isEmpty_eq_false_of_not_isBlank hb]

/-! ## A list of writes -/

namespace Writes

/-- Writes as layers, a plain mapping with one entry for each. -/
def toLayers (w : Writes) : List Layer := w.map fun p => .mapping [(.text p.1.path, writtenRaw p.2)]

theorem settable_of_mem_toPairs (w : Writes) : ∀ c ∈ w.toPairs, c.2.Settable := by
  refine List.forall_mem_map.mpr fun p _ => ?_
  cases p.2 with
  | none => exact .null
  | some s => exact .text s

theorem flatMap_pairs_toLayers (w : Writes) : w.toLayers.flatMap Layer.pairs = w.toPairs := by
  rw [toLayers, List.flatMap_map, toPairs, List.map_eq_flatMap]
  exact congrArg (List.flatMap · w) (funext fun p => pairs_toEntries [p])

/-- What the last write of a path gave. -/
theorem lastValue?_toPairs {w : Writes} {path : String} {v : Raw}
    (h : lastValue? w.toPairs path = some v) : ∃ x, v = writtenRaw x := by
  obtain ⟨p, -, hp⟩ := List.mem_map.mp (mem_of_lastValue? h)
  exact ⟨p.2, (Prod.mk.inj hp).2.symm⟩

end Writes

variable (w : Writes)

/-- The last write of a path gives the same text either way, unless it is a text of blanks. -/
theorem lastText_eq_iff {path : String} :
    (lastValue? w.toPairs path).bind heldText = (lastValue? w.toPairs path).bind keptText
      ↔ ∀ s, lastValue? w.toPairs path = some (.text s) → ¬ OnlyBlanks s := by
  cases h : lastValue? w.toPairs path with
  | none => exact iff_of_true rfl fun _ h => nomatch h
  | some v =>
    obtain ⟨x, rfl⟩ := Writes.lastValue?_toPairs h
    simp only [Option.bind_some, Option.some.injEq]
    exact heldText_eq_keptText_iff

/-- **A load of writes holds for each credential the text that its last write supplies.** -/
theorem load_toLayers :
    ∃ a, (load (Source.ofLayers w.toLayers)).result = .ok a ∧ ∀ f : Field,
      a.get f = ((lastValue? w.toPairs f.path).bind heldText).map fun s => ⟨f.kind, .text s⟩ := by
  rw [← w.flatMap_pairs_toLayers]
  exact load_ofLayers_of_good (List.forall_mem_map.mpr fun p _ => Writes.good_toEntries [p])

/-- Calls with known paths are all accepted. -/
theorem foldlM_writeAt (b : Bundle) :
    w.toPairs.foldlM (fun b c => b.writeAt c.1 c.2) b = .ok (b.afterCalls w.toPairs) := by
  induction w generalizing b with
  | nil => rfl
  | cons p r ih =>
    obtain ⟨f, x⟩ := p
    have hafter : b.after (f.path, writtenRaw x) = b.write f (writtenRaw x) := by
      rw [Bundle.after, Bundle.writeAt_path]
    rw [Writes.toPairs_cons, List.foldlM_cons, Bundle.writeAt_path]
    show (Writes.toPairs r).foldlM _ (b.write f (writtenRaw x)) = _
    rw [ih, ← hafter]
    rfl

/-- **Loading and calling agree, but for texts of blanks.**

Any list of writes of nothing and of texts can be loaded, from a plain mapping for each write, and
can be made by calls on the empty bundle. Where the last write of a credential is a text of blanks,
the loaded bundle holds nothing and the called one this text; every other credential is the same in
both. So the two bundles are equal exactly if no credential is last written with a text of blanks.
-/
theorem load_agrees_with_calls :
    ∃ a b, (load (Source.ofLayers w.toLayers)).result = .ok a
      ∧ w.toPairs.foldlM (fun b c => b.writeAt c.1 c.2) Bundle.empty = .ok b
      ∧ (∀ (f : Field) (s : String), lastValue? w.toPairs f.path = some (.text s) → OnlyBlanks s →
          a.getAt f.path = .ok none ∧ b.getAt f.path = .ok (some ⟨f.kind, .text s⟩))
      ∧ (∀ f : Field, (∀ s, lastValue? w.toPairs f.path = some (.text s) → ¬ OnlyBlanks s) →
          a.getAt f.path = b.getAt f.path)
      ∧ (a.toRaw.equal b.toRaw = true ↔ ∀ (f : Field) (s : String),
          lastValue? w.toPairs f.path = some (.text s) → ¬ OnlyBlanks s) := by
  obtain ⟨a, ha, hload⟩ := load_toLayers w
  have hsettable := w.settable_of_mem_toPairs
  have hcalls := Bundle.get_afterCalls_empty hsettable
  refine ⟨a, _, ha, foldlM_writeAt w .empty, fun f s hs hblanks => ?_, fun f h => ?_, ?_⟩
  · obtain ⟨hheld, hkept⟩ := heldText_of_onlyBlanks hblanks
    rw [Bundle.getAt_path, Bundle.getAt_path, hload, hcalls, hs, Option.bind_some, Option.bind_some,
      hheld, hkept]
    exact ⟨rfl, rfl⟩
  · rw [Bundle.getAt_path, Bundle.getAt_path, hload, hcalls, (lastText_eq_iff w).mpr h]
  · rw [Bundle.equal_iff_get (Reachable.load ha).sound (Reachable.empty.afterCalls hsettable).sound]
    refine forall_congr' fun f => ?_
    rw [hload, hcalls, sameSecret_texts_iff, lastText_eq_iff]

/-- A single blank is nothing to a load, and a text to a call. -/
theorem load_differs_from_calls_blank :
    ∃ a b, (load (Source.ofLayers [.mapping [(.text "l1.l1_rpc_url", .text " ")]])).result = .ok a
      ∧ Bundle.empty.writeAt "l1.l1_rpc_url" (.text " ") = .ok b
      ∧ a.getAt "l1.l1_rpc_url" = .ok none
      ∧ b.getAt "l1.l1_rpc_url" = .ok (some ⟨.plain, .text " "⟩)
      ∧ a.toRaw.equal b.toRaw = false :=
  ⟨_, _, rfl, rfl, rfl, rfl, by decide +kernel⟩

end Credentials
