import Credentials.Naming
import Credentials.Proofs.Reachable

/-!
# A bundle under a history of calls

A caller writes to a bundle by paths, one call after the other. A call with a path that is no
credential's is refused and leaves no trace; every other call decides for its own credential and for
no other, whatever it does to the group around it. So a bundle is a store: it holds for each
credential what the last call for its path gave.

* `Bundle.get_after` — one call
* `Bundle.get_afterCalls` — a history of calls
* `faithful_store` — the two in the words of a caller
-/

namespace Credentials

/-! ## Calls -/

/-- What a caller may write: nothing, a text, or a text in a wrapper of any kind. -/
inductive Raw.Settable : Raw → Prop
  | null : Settable .null
  | text (s : String) : Settable (.text s)
  | secret (kind : SecretKind) (s : String) : Settable (.secret kind (.text s))

/-- The text that a call leaves in a bundle: its own or its wrapper's, unless it is empty. Blanks
are kept. -/
def keptText (v : Raw) : Option String := v.unwrap.asText?.filter fun s => !s.isEmpty

theorem keptText_of_unwrap_eq_text {v : Raw} {s : String} (h : v.unwrap = .text s) :
    keptText v = if s.isEmpty then none else some s := by
  rw [keptText, h]
  cases hs : s.isEmpty <;> simp [Raw.asText?, Option.filter, hs]

/-- What may be written either clears, or leaves its text in the declared wrapper. -/
theorem Raw.Settable.leafFor_eq {v : Raw} (h : v.Settable) (f : Field) :
    Bundle.leafFor f v = (keptText v).map fun s => ⟨f.kind, .text s⟩ := by
  have htext : ∀ s, v.unwrap = .text s →
      Bundle.leafFor f v = (keptText v).map fun s => ⟨f.kind, .text s⟩ := by
    intro s hs
    rw [Bundle.leafFor, keptText_of_unwrap_eq_text hs, hs, Raw.truthy_text]
    cases s.isEmpty <;> rfl
  cases h with
  | null => rfl
  | text s => exact htext s rfl
  | secret k s => exact htext s rfl

/-- A call clears exactly if it gives nothing or the empty text, wrapped or not. -/
theorem Raw.Settable.keptText_eq_none_iff {v : Raw} (h : v.Settable) :
    keptText v = none ↔ v = .null ∨ v.unwrap = .text "" := by
  cases h with
  | null => exact ⟨fun _ => Or.inl rfl, fun _ => rfl⟩
  | text s =>
    rw [keptText_of_unwrap_eq_text (Raw.unwrap_text s)]
    simp
  | secret k s =>
    rw [keptText_of_unwrap_eq_text (Raw.unwrap_secret k _)]
    simp

/-! ## One call -/

namespace Bundle

/-- The bundle after a call of a path and a value; one that is refused leaves it as it was. -/
def after (b : Bundle) (call : Pair) : Bundle :=
  match b.writeAt call.1 call.2 with
  | .ok b' => b'
  | .error _ => b

theorem writeAt_path (b : Bundle) (f : Field) (v : Raw) :
    b.writeAt f.path v = .ok (b.write f v) := by
  rw [writeAt, Field.atPath_path]
  rfl

theorem getAt_path (b : Bundle) (f : Field) : b.getAt f.path = .ok (b.get f) := by
  rw [getAt, Field.atPath_path]
  rfl

theorem writeAt_of_unknown {path : String} (b : Bundle) (v : Raw)
    (h : ∀ f : Field, f.path ≠ path) : b.writeAt path v = .error (.unknownPath path none) := by
  rw [writeAt, Field.atPath, Field.ofPath?_eq_none_iff.mpr h]
  rfl

theorem after_of_unknown {path : String} (b : Bundle) (v : Raw)
    (h : ∀ f : Field, f.path ≠ path) : b.after (path, v) = b := by
  rw [after, writeAt_of_unknown b v h]

/-- **One call decides for the credential of its path, and for no other.** -/
theorem get_after (b : Bundle) (call : Pair) (f : Field) :
    (b.after call).get f = if call.1 = f.path then leafFor f call.2 else b.get f := by
  obtain ⟨path, v⟩ := call
  cases hp : Field.ofPath? path with
  | none =>
    have hunknown := Field.ofPath?_eq_none_iff.mp hp
    rw [after_of_unknown b v hunknown, if_neg fun e => hunknown f e.symm]
  | some g =>
    obtain rfl := Field.path_of_ofPath? hp
    have hw : b.after (g.path, v) = b.write g v := by rw [after, writeAt_path]
    rw [hw]
    by_cases hf : f = g
    · subst hf
      rw [if_pos rfl]
      exact get_set_self b f _
    · rw [if_neg fun e => hf (Field.path_injective e).symm]
      exact get_set_of_ne b _ hf

/-! ## Histories -/

/-- The bundle after a history of calls. -/
def afterCalls (b : Bundle) (calls : List Pair) : Bundle := calls.foldl after b

theorem afterCalls_append (b : Bundle) (xs ys : List Pair) :
    b.afterCalls (xs ++ ys) = (b.afterCalls xs).afterCalls ys :=
  List.foldl_append

/-- A refused call might as well not have been made. -/
theorem afterCalls_of_unknown {path : String} (b : Bundle) (before behind : List Pair) (v : Raw)
    (h : ∀ f : Field, f.path ≠ path) :
    b.afterCalls (before ++ (path, v) :: behind) = b.afterCalls (before ++ behind) := by
  rw [afterCalls_append, afterCalls_append]
  show ((b.afterCalls before).after (path, v)).afterCalls behind = _
  rw [after_of_unknown _ v h]

/-- **After a history of calls, a bundle holds for each credential what the last call for its path
gave**, and what it held before if there was none. -/
theorem get_afterCalls (b : Bundle) (calls : List Pair) (f : Field) :
    (b.afterCalls calls).get f
      = match lastValue? calls f.path with
        | some v => leafFor f v
        | none => b.get f := by
  induction calls generalizing b with
  | nil => rfl
  | cons call calls ih =>
    show ((b.after call).afterCalls calls).get f = _
    rw [ih, lastValue?_cons, get_after]
    cases lastValue? calls f.path with
    | some v => rfl
    | none => by_cases h : call.1 = f.path <;> simp [h]

/-- From the empty bundle, with what a caller may write. -/
theorem get_afterCalls_empty {calls : List Pair} (h : ∀ c ∈ calls, c.2.Settable) (f : Field) :
    (empty.afterCalls calls).get f
      = ((lastValue? calls f.path).bind keptText).map fun s => ⟨f.kind, .text s⟩ := by
  rw [get_afterCalls]
  cases hv : lastValue? calls f.path with
  | none => rfl
  | some v => exact (h _ (mem_of_lastValue? hv)).leafFor_eq f

end Bundle

theorem lastValue?_eq_none_iff {pairs : List Pair} {path : String} :
    lastValue? pairs path = none ↔ ∀ p ∈ pairs, p.1 ≠ path := by
  rw [lastValue?, Option.map_eq_none_iff, List.find?_eq_none]
  simp

/-- **A bundle is a faithful store of credentials.**

On an empty bundle, let any history of calls write nothing, texts and wrapped texts at any paths. A
call with a path that is no credential's is an error that tells the path, and without it everything
would be the same. A credential holds nothing exactly if its path was never written, or last with
nothing or the empty text; otherwise it holds the text that was written last, unmodified and in the
declared wrapper. Calls for other paths do not matter, in whichever group they are. -/
theorem faithful_store {calls : List Pair} (h : ∀ c ∈ calls, c.2.Settable) :
    (∀ before path v behind, calls = before ++ (path, v) :: behind →
        (∀ f : Field, f.path ≠ path) →
        (Bundle.empty.afterCalls before).writeAt path v = .error (.unknownPath path none)
          ∧ Bundle.empty.afterCalls calls = Bundle.empty.afterCalls (before ++ behind))
      ∧ (∀ f : Field, (Bundle.empty.afterCalls calls).getAt f.path = .ok none ↔
          (∀ c ∈ calls, c.1 ≠ f.path)
            ∨ ∃ v, lastValue? calls f.path = some v ∧ (v = .null ∨ v.unwrap = .text ""))
      ∧ (∀ (f : Field) (v : Raw) (s : String), lastValue? calls f.path = some v →
          v.unwrap = .text s → s ≠ "" →
          (Bundle.empty.afterCalls calls).getAt f.path = .ok (some ⟨f.kind, .text s⟩))
      ∧ (Bundle.empty.afterCalls calls).presentPaths = (Field.all.map Field.path).filter
          (fun p => ((lastValue? calls p).bind keptText).isSome)
      ∧ ∀ (b : Bundle) (f g : Field) (v : Raw), g ≠ f →
          ∃ b', b.writeAt g.path v = .ok b' ∧ b'.getAt f.path = b.getAt f.path := by
  have hget := Bundle.get_afterCalls_empty h
  refine ⟨?_, fun f => ?_, fun f v s hv hs hne => ?_, ?_, fun b f g v hg => ?_⟩
  · rintro before path v behind rfl hunknown
    exact ⟨Bundle.writeAt_of_unknown _ v hunknown,
      Bundle.afterCalls_of_unknown _ before behind v hunknown⟩
  · rw [Bundle.getAt_path, hget, Except.ok.injEq, Option.map_eq_none_iff]
    cases hv : lastValue? calls f.path with
    | none => simpa using lastValue?_eq_none_iff.mp hv
    | some v =>
      have hm : (f.path, v) ∈ calls := mem_of_lastValue? hv
      rw [Option.bind_some, (h _ hm).keptText_eq_none_iff]
      constructor
      · exact fun hc => Or.inr ⟨v, rfl, hc⟩
      · rintro (hall | ⟨w, hw, hc⟩)
        · exact absurd rfl (hall _ hm)
        · obtain rfl := Option.some.inj hw
          exact hc
  · rw [Bundle.getAt_path, hget, hv, Option.bind_some, keptText_of_unwrap_eq_text hs]
    simp [hne]
  · refine Bundle.presentPaths_eq_filter _ fun f => ?_
    rw [Bundle.isSet, hget, Option.isSome_map]
  · refine ⟨b.write g v, Bundle.writeAt_path b g v, ?_⟩
    rw [Bundle.getAt_path, Bundle.getAt_path]
    exact congrArg _ (Bundle.get_set_of_ne b _ hg.symm)

/-- Calls that empty a group and fill it again, with a misspelled path in between. -/
def clearedAndFilled : List Pair :=
  [("consensus.node_key", .secret .validatorKey (.text "first")),
    ("consensus.node_key", .text ""),
    ("consensus.node_kee", .text "lost"),
    ("l1.l1_rpc_url", .text "http://l1"),
    ("consensus.attester_key", .secret .plain (.text " ")),
    ("consensus.node_key", .null)]

theorem faithful_store_clearedAndFilled :
    (Bundle.empty.afterCalls clearedAndFilled).getAt "consensus.attester_key"
        = .ok (some ⟨.attesterKey, .text " "⟩)
      ∧ (Bundle.empty.afterCalls clearedAndFilled).getAt "consensus.node_key" = .ok none
      ∧ (Bundle.empty.afterCalls clearedAndFilled).presentPaths
          = ["l1.l1_rpc_url", "consensus.attester_key"] := by
  have h : ∀ c ∈ clearedAndFilled, c.2.Settable := by
    simp only [clearedAndFilled, List.forall_mem_cons, List.not_mem_nil, false_imp_iff, implies_true,
      and_true]
    exact ⟨.secret _ _, .text _, .text _, .text _, .secret _ _, .null⟩
  obtain ⟨-, habsent, hheld, hpaths, -⟩ := faithful_store h
  have hattester : lastValue? clearedAndFilled Field.attesterKey.path
      = some (.secret .plain (.text " ")) := rfl
  have hnode : lastValue? clearedAndFilled Field.nodeKey.path = some .null := rfl
  exact ⟨hheld .attesterKey _ " " hattester rfl (by decide),
    (habsent .nodeKey).mpr (Or.inr ⟨.null, hnode, Or.inl rfl⟩), hpaths.trans (by decide +kernel)⟩

end Credentials
