import Credentials.Merge

/-!
# The stream of pairs behind a merge

A merge goes through the pairs of all sources as one stream. What is kept of it is the last value of
each path; what is required of it is that every pair is accepted by itself.

* `mergeFrom_induction` — what every accepted pair keeps, a merge that succeeds keeps
* `accepted_of_mergeFrom` — a merge that succeeds has accepted every pair of the stream
* `last?_mergeFrom` — the last write of a credential is the last value of its path
-/

namespace Credentials

open Text

/-! ## Last values -/

/-- The pairs of all sources, source after source. -/
def stream (sources : List Source) : List Pair := sources.flatMap Source.pairs

/-- The value of the last pair of a path. -/
def lastValue? (pairs : List Pair) (path : String) : Option Raw :=
  (pairs.reverse.find? (·.1 == path)).map (·.2)

/-- The text that a value supplies: its own or its wrapper's, unless it is blank. -/
def heldText (v : Raw) : Option String := v.unwrap.asText?.filter fun s => !isBlank s

theorem lastValue?_append (xs ys : List Pair) (path : String) :
    lastValue? (xs ++ ys) path = (lastValue? ys path).or (lastValue? xs path) := by
  rw [lastValue?, List.reverse_append, List.find?_append, Option.map_or]
  rfl

theorem lastValue?_cons (pair : Pair) (pairs : List Pair) (path : String) :
    lastValue? (pair :: pairs) path
      = (lastValue? pairs path).or (if pair.1 = path then some pair.2 else none) := by
  rw [← List.singleton_append, lastValue?_append]
  congr 1
  by_cases h : pair.1 = path
  · rw [if_pos h, lastValue?, List.reverse_singleton, List.find?_cons_of_pos (by simp [h])]
    rfl
  · rw [if_neg h, lastValue?, List.reverse_singleton, List.find?_cons_of_neg (by simp [h])]
    rfl

/-- A last value belongs to a pair of the stream. -/
theorem mem_of_lastValue? {pairs : List Pair} {path : String} {v : Raw}
    (h : lastValue? pairs path = some v) : (path, v) ∈ pairs := by
  obtain ⟨⟨p, u⟩, hf, hv⟩ := Option.map_eq_some_iff.mp h
  have hp : p = path := by simpa using List.find?_some hf
  have hm : (p, u) ∈ pairs := List.mem_reverse.mp (List.mem_of_find?_eq_some hf)
  rw [← hp, ← hv]
  exact hm

/-- Of pairs that are made credential by credential, the last one of a path is the credential's. -/
theorem lastValue?_filterMap (v : Field → Option Raw) (fs : List Field) (f : Field) :
    lastValue? (fs.filterMap fun g => (v g).map fun x => (g.path, x)) f.path
      = if f ∈ fs then v f else none := by
  induction fs with
  | nil => rfl
  | cons g fs ih =>
    by_cases hf : f = g
    · subst hf
      rw [List.filterMap_cons, if_pos List.mem_cons_self]
      cases hv : v f with
      | none =>
        rw [Option.map_none, ih, hv, ite_self]
      | some x =>
        rw [Option.map_some, lastValue?_cons, ih, hv, if_pos rfl]
        split <;> rfl
    · have hne : g.path ≠ f.path := fun h => hf (Field.path_injective h).symm
      have hm : (f ∈ g :: fs) = (f ∈ fs) := by simp [hf]
      rw [List.filterMap_cons]
      simp only [hm]
      rw [← ih]
      cases v g with
      | none => rfl
      | some x => rw [Option.map_some, lastValue?_cons, if_neg hne, Option.or_none]

theorem stream_cons (source : Source) (sources : List Source) :
    stream (source :: sources) = source.pairs ++ stream sources := rfl

/-! ## Judging a pair -/

/-- A value that may be written: nothing, a text, or a wrapped text. -/
def Raw.Writable (v : Raw) : Prop := v = .null ∨ ∃ s, v.unwrap.asText? = some s

theorem textOf_of_asText? {path : String} {v : Raw} {s : String}
    (h : v.unwrap.asText? = some s) :
    textOf path v = .ok (if isBlank s then none else some s) := by
  unfold textOf
  split
  · cases h
  · rw [h]

theorem textOf_of_other {path : String} {v : Raw} (hn : v ≠ .null)
    (h : v.unwrap.asText? = none) :
    textOf path v = .error (.wrongType path v.unwrap.typeName) := by
  unfold textOf
  split
  · exact absurd rfl hn
  · rw [h]

theorem heldText_of_asText? {v : Raw} {s : String} (h : v.unwrap.asText? = some s) :
    heldText v = if isBlank s then none else some s := by
  rw [heldText, h]
  cases hb : isBlank s <;> simp [Option.filter, hb]

/-- A value that may be written is judged to be the text that it supplies, and no other is accepted.
-/
theorem textOf_eq_ok_iff {path : String} {v : Raw} {u : Option String} :
    textOf path v = .ok u ↔ v.Writable ∧ u = heldText v := by
  by_cases hn : v = .null
  · subst hn
    refine ⟨fun h => ⟨Or.inl rfl, (Except.ok.inj h).symm⟩, ?_⟩
    rintro ⟨-, rfl⟩
    rfl
  · cases ht : v.unwrap.asText? with
    | none =>
      rw [textOf_of_other hn ht]
      constructor
      · intro h
        cases h
      · rintro ⟨h | ⟨s, h⟩, -⟩
        · exact absurd h hn
        · rw [ht] at h
          cases h
    | some s =>
      rw [textOf_of_asText? ht, heldText_of_asText? ht, Except.ok.injEq]
      exact ⟨fun h => ⟨Or.inr ⟨s, ht⟩, h.symm⟩, fun h => h.2.symm⟩

theorem accept_eq_ok_iff {source : String} {pair : Pair} {f : Field} {u : Option String} :
    accept source pair = .ok (f, u) ↔ f.path = pair.1 ∧ textOf pair.1 pair.2 = .ok u := by
  unfold accept
  cases hp : Field.ofPath? pair.1 with
  | none =>
    constructor
    · intro h
      cases h
    · rintro ⟨hf, -⟩
      rw [Field.ofPath?_eq_some_iff.mpr hf] at hp
      cases hp
  | some g =>
    have hg := Field.path_of_ofPath? hp
    cases ht : textOf pair.1 pair.2 with
    | error e => simp [Except.map]
    | ok u' =>
      simp only [Except.map, Except.ok.injEq, Prod.mk.injEq]
      refine and_congr_left fun _ => ⟨fun h => h ▸ hg, fun h => ?_⟩
      exact Field.path_injective (hg.trans h.symm)

/-! ## What a merge keeps -/

/-- Pairs are written one after the other, and each of them was accepted. -/
theorem writePairs_cons_ok {source : String} {w w' : Writes} {pair : Pair} {r : List Pair}
    (h : writePairs source w (pair :: r) = .ok w') :
    ∃ f u, accept source pair = .ok (f, u) ∧ writePairs source (w.put f u) r = .ok w' := by
  rw [writePairs] at h
  split at h
  · next f u ha => exact ⟨f, u, ha, h⟩
  · cases h

theorem writePairs_induction {P : Writes → Prop} {source : String}
    (step : ∀ w f u, P w → P (w.put f u)) :
    ∀ (pairs : List Pair) {w w' : Writes}, writePairs source w pairs = .ok w' → P w → P w'
  | [], w, w', h, hw => by
    rw [← Except.ok.inj h]
    exact hw
  | pair :: r, w, w', h, hw => by
    obtain ⟨f, u, -, hr⟩ := writePairs_cons_ok h
    exact writePairs_induction step r hr (step w f u hw)

/-- A merge that goes on after a source has read the source to its end. -/
theorem mergeFrom_cons_ok {w w' : Writes} {source : Source} {r : List Source}
    (h : (mergeFrom w (source :: r)).result = .ok w') :
    ∃ w₁, writePairs source.name w source.pairs = .ok w₁ ∧ source.fault = none
      ∧ (mergeFrom w₁ r).result = .ok w' := by
  rw [mergeFrom] at h
  split at h
  · cases h
  · cases h
  · next w₁ hw hf => exact ⟨w₁, hw, hf, h⟩

/-- A merge of sources and more sources goes on with these from what those have written. -/
theorem mergeFrom_append (w : Writes) (xs ys : List Source) :
    mergeFrom w (xs ++ ys) = (mergeFrom w xs).andThen fun w' => mergeFrom w' ys := by
  induction xs generalizing w with
  | nil => rfl
  | cons source r ih =>
    rw [List.cons_append, mergeFrom, mergeFrom]
    split
    · rfl
    · rfl
    · next w₁ _ _ =>
      simp only [ih w₁, Logged.andThen]
      cases (mergeFrom w₁ r).result <;> rfl

/-- **What every write keeps, a merge that succeeds keeps.** -/
theorem mergeFrom_induction {P : Writes → Prop} (step : ∀ w f u, P w → P (w.put f u)) :
    ∀ (sources : List Source) {w w' : Writes},
      (mergeFrom w sources).result = .ok w' → P w → P w'
  | [], w, w', h, hw => by
    rw [← Except.ok.inj h]
    exact hw
  | source :: r, w, w', h, hw => by
    obtain ⟨w₁, h₁, -, hr⟩ := mergeFrom_cons_ok h
    exact mergeFrom_induction step r hr (writePairs_induction step source.pairs h₁ hw)

theorem accepted_of_writePairs {source : String} :
    ∀ {pairs : List Pair} {w w' : Writes}, writePairs source w pairs = .ok w' →
      ∀ pair ∈ pairs, ∃ f u, accept source pair = .ok (f, u)
  | [], _, _, _, pair, hm => absurd hm List.not_mem_nil
  | pair :: r, w, w', h, q, hm => by
    obtain ⟨f, u, ha, hr⟩ := writePairs_cons_ok h
    rcases List.mem_cons.mp hm with rfl | hm
    · exact ⟨f, u, ha⟩
    · exact accepted_of_writePairs hr q hm

/-- **A merge that succeeds has accepted every pair of the stream.** -/
theorem accepted_of_mergeFrom :
    ∀ {sources : List Source} {w w' : Writes}, (mergeFrom w sources).result = .ok w' →
      ∀ pair ∈ stream sources,
        ∃ f : Field, f.path = pair.1 ∧ ∃ u, textOf pair.1 pair.2 = .ok u
  | [], _, _, _, pair, hm => absurd hm List.not_mem_nil
  | source :: r, w, w', h, pair, hm => by
    obtain ⟨w₁, h₁, -, hr⟩ := mergeFrom_cons_ok h
    rcases List.mem_append.mp hm with hm | hm
    · obtain ⟨f, u, ha⟩ := accepted_of_writePairs h₁ pair hm
      obtain ⟨hp, ht⟩ := accept_eq_ok_iff.mp ha
      exact ⟨f, hp, u, ht⟩
    · exact accepted_of_mergeFrom hr pair hm

/-! ## The last write is the last value -/

/-- One accepted pair: it decides for its own credential and leaves every other as it was. -/
theorem last?_put_accepted {w : Writes} {source : String} {pair : Pair} {f : Field}
    {u : Option String} (h : accept source pair = .ok (f, u)) (g : Field) :
    (w.put f u).last? g = (((if pair.1 = g.path then some pair.2 else none).map heldText).or
      (w.last? g)) := by
  obtain ⟨hp, ht⟩ := accept_eq_ok_iff.mp h
  by_cases hg : g = f
  · subst hg
    rw [if_pos hp.symm, Writes.last?_put_self, (textOf_eq_ok_iff.mp ht).2]
    rfl
  · have hne : pair.1 ≠ g.path := fun e => hg (Field.path_injective (hp.trans e)).symm
    rw [if_neg hne, Writes.last?_put_of_ne w u hg]
    rfl

theorem last?_writePairs {source : String} :
    ∀ {pairs : List Pair} {w w' : Writes}, writePairs source w pairs = .ok w' → ∀ f : Field,
      w'.last? f = ((lastValue? pairs f.path).map heldText).or (w.last? f)
  | [], w, w', h, f => by
    rw [← Except.ok.inj h]
    rfl
  | pair :: r, w, w', h, f => by
    obtain ⟨g, u, ha, hr⟩ := writePairs_cons_ok h
    rw [last?_writePairs hr f, last?_put_accepted ha f, lastValue?_cons, Option.map_or,
      Option.or_assoc]

/-- **The last write of a credential is the last value of its path in the stream**, read as the text
that it supplies; without one the write from before stays. -/
theorem last?_mergeFrom :
    ∀ {sources : List Source} {w w' : Writes}, (mergeFrom w sources).result = .ok w' →
      ∀ f : Field, w'.last? f = ((lastValue? (stream sources) f.path).map heldText).or (w.last? f)
  | [], w, w', h, f => by
    rw [← Except.ok.inj h]
    rfl
  | source :: r, w, w', h, f => by
    obtain ⟨w₁, h₁, -, hr⟩ := mergeFrom_cons_ok h
    rw [last?_mergeFrom hr f, last?_writePairs h₁ f, stream_cons, lastValue?_append,
      Option.map_or, Option.or_assoc]

/-! ## The writes of a merge -/

namespace Writes

/-- Every credential is written at most once. -/
def Single (w : Writes) : Prop := (w.map Prod.fst).Nodup

/-- A write is the one that was put last, or it was there before. -/
theorem mem_put {w : Writes} {f g : Field} {u v : Option String} (h : (g, v) ∈ w.put f u) :
    g = f ∧ v = u ∨ (g, v) ∈ w := by
  induction w with
  | nil => exact Or.inl (Prod.mk.inj (List.mem_singleton.mp h))
  | cons p r ih =>
    obtain ⟨k, x⟩ := p
    rw [put] at h
    split at h
    · next hk =>
      rcases List.mem_cons.mp h with h | h
      · obtain ⟨hg, hv⟩ := Prod.mk.inj h
        exact Or.inl ⟨hg.trans hk, hv⟩
      · exact Or.inr (List.mem_cons_of_mem _ h)
    · rcases List.mem_cons.mp h with h | h
      · exact Or.inr (h ▸ List.mem_cons_self)
      · exact (ih h).imp_right (List.mem_cons_of_mem _)

theorem Single.put {w : Writes} (h : w.Single) (f : Field) (u : Option String) :
    (w.put f u).Single := by
  induction w with
  | nil => exact List.nodup_cons.mpr ⟨List.not_mem_nil, List.nodup_nil⟩
  | cons p r ih =>
    obtain ⟨g, v⟩ := p
    obtain ⟨hg, hr⟩ := List.nodup_cons.mp h
    rw [Writes.put]
    split
    · exact List.nodup_cons.mpr ⟨hg, hr⟩
    · next hne =>
      refine List.nodup_cons.mpr ⟨fun hm => ?_, ih hr⟩
      obtain ⟨⟨k, x⟩, hk, rfl⟩ := List.mem_map.mp hm
      rcases mem_put hk with ⟨rfl, -⟩ | hk
      · exact hne rfl
      · exact hg (List.mem_map.mpr ⟨_, hk, rfl⟩)

theorem single_of_merge {sources : List Source} {w : Writes} (h : (merge sources).result = .ok w) :
    w.Single :=
  mergeFrom_induction (P := Single) (fun _ f u hw => hw.put f u) sources h List.nodup_nil

end Writes

end Credentials
