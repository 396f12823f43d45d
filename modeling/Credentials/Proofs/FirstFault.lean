import Credentials.Proofs.LastWrite

/-!
# The first pair that is not accepted

A load fails as a whole, and exactly if some pair of the stream is bad: its path is no
credential's, or its value is neither nothing nor a text, wrapped or not. What the load says is
decided by the first such pair. The sources before it have left their records; of what comes after
it nothing is looked at.

* `accept_eq_error_iff` — a single pair is refused for its path or else for its value
* `load_of_firstBad` — a load up to its first bad pair
* `load_of_good` — a load without one
* `load_first_fault` — the two put together
-/

namespace Credentials

/-! ## Bad pairs -/

/-- A pair that no merge accepts. -/
def BadPair (pair : Pair) : Prop :=
  (∀ f : Field, f.path ≠ pair.1) ∨ (pair.2 ≠ .null ∧ pair.2.unwrap.asText? = none)

/-- What is said about a bad pair of a source: its path comes first. -/
inductive Refused (source : String) : Pair → Error → Prop
  | path {p : String} {v : Raw} (h : ∀ f : Field, f.path ≠ p) :
      Refused source (p, v) (.unknownPath p (some source))
  | value {f : Field} {v : Raw} (hn : v ≠ .null) (ht : v.unwrap.asText? = none) :
      Refused source (f.path, v) (.wrongType f.path v.unwrap.typeName)

theorem badPair_iff_refused (source : String) {pair : Pair} :
    BadPair pair ↔ ∃ e, Refused source pair e := by
  obtain ⟨p, v⟩ := pair
  constructor
  · rintro (hp | ⟨hn, ht⟩)
    · exact ⟨_, .path hp⟩
    · cases hp : Field.ofPath? p with
      | none => exact ⟨_, .path (Field.ofPath?_eq_none_iff.mp hp)⟩
      | some f =>
        obtain rfl := Field.path_of_ofPath? hp
        exact ⟨_, .value hn ht⟩
  · rintro ⟨e, h⟩
    cases h with
    | path hp => exact Or.inl hp
    | value hn ht => exact Or.inr ⟨hn, ht⟩

theorem Refused.accept {source : String} {pair : Pair} {e : Error} (h : Refused source pair e) :
    Credentials.accept source pair = .error e := by
  cases h with
  | path hp => rw [Credentials.accept, Field.ofPath?_eq_none_iff.mpr hp]
  | @value f v hn ht =>
    rw [Credentials.accept, Field.ofPath?_path]
    show (textOf f.path v).map _ = _
    rw [textOf_of_other hn ht]
    rfl

/-- A pair that is not bad has the path of a credential and a value that may be written. -/
theorem not_badPair_iff {pair : Pair} :
    ¬ BadPair pair ↔ (∃ f : Field, f.path = pair.1) ∧ pair.2.Writable := by
  rw [BadPair, not_or, Raw.Writable, Classical.or_iff_not_imp_left]
  refine and_congr ?_ ?_
  · rw [Classical.not_forall]
    exact exists_congr fun f => Classical.not_not
  · rw [not_and, ← Option.ne_none_iff_exists']

theorem accept_of_not_badPair (source : String) {pair : Pair} (h : ¬ BadPair pair) :
    ∃ f u, accept source pair = .ok (f, u) := by
  obtain ⟨⟨f, hf⟩, hv⟩ := not_badPair_iff.mp h
  exact ⟨f, heldText pair.2, accept_eq_ok_iff.mpr ⟨hf, textOf_eq_ok_iff.mpr ⟨hv, rfl⟩⟩⟩

/-- **A pair is refused for its path or else for its value, and for nothing else.** -/
theorem accept_eq_error_iff {source : String} {pair : Pair} {e : Error} :
    accept source pair = .error e ↔ Refused source pair e := by
  refine ⟨fun h => ?_, Refused.accept⟩
  have hbad : BadPair pair := Classical.byContradiction fun hn => by
    obtain ⟨f, u, ha⟩ := accept_of_not_badPair source hn
    rw [ha] at h
    cases h
  obtain ⟨e', he'⟩ := (badPair_iff_refused source).mp hbad
  obtain rfl := Except.error.inj (he'.accept.symm.trans h)
  exact he'

/-! ## The way to a bad pair -/

/-- Good pairs are written, whatever follows them. -/
theorem writePairs_append_of_good {source : String} :
    ∀ {pairs : List Pair} (w : Writes) (rest : List Pair), (∀ p ∈ pairs, ¬ BadPair p) →
      ∃ w', writePairs source w (pairs ++ rest) = writePairs source w' rest
  | [], w, rest, _ => ⟨w, rfl⟩
  | pair :: pairs, w, rest, h => by
    obtain ⟨hp, hr⟩ := List.forall_mem_cons.mp h
    obtain ⟨f, u, ha⟩ := accept_of_not_badPair source hp
    obtain ⟨w', hw'⟩ := writePairs_append_of_good (w.put f u) rest hr
    refine ⟨w', ?_⟩
    rw [List.cons_append, writePairs, ha]
    exact hw'

theorem writePairs_of_good {source : String} {pairs : List Pair} (w : Writes)
    (h : ∀ p ∈ pairs, ¬ BadPair p) : ∃ w', writePairs source w pairs = .ok w' := by
  obtain ⟨w', hw'⟩ := writePairs_append_of_good w [] h
  rw [List.append_nil] at hw'
  exact ⟨w', hw'⟩

/-- The first bad pair ends the pairs of its source. -/
theorem writePairs_of_bad {source : String} {ahead behind : List Pair} {pair : Pair} {e : Error}
    (w : Writes) (h : ∀ p ∈ ahead, ¬ BadPair p) (hbad : Refused source pair e) :
    writePairs source w (ahead ++ pair :: behind) = .error e := by
  obtain ⟨w', hw'⟩ := writePairs_append_of_good w (pair :: behind) h
  rw [hw', writePairs, hbad.accept]

/-- The record that a source leaves when it was read to its end. -/
def Source.readRecord (s : Source) : LogRecord := .read s.pairs.length s.name

/-- Sources of good pairs are read to their ends, whatever follows them. -/
theorem mergeFrom_append_of_good :
    ∀ {before : List Source} (w : Writes) (rest : List Source),
      (∀ s ∈ before, s.fault = none) → (∀ p ∈ stream before, ¬ BadPair p) →
      ∃ w', mergeFrom w (before ++ rest)
        = ⟨before.map Source.readRecord ++ (mergeFrom w' rest).logs, (mergeFrom w' rest).result⟩
  | [], w, rest, _, _ => ⟨w, rfl⟩
  | s :: before, w, rest, hread, hgood => by
    obtain ⟨hs, hread'⟩ := List.forall_mem_cons.mp hread
    obtain ⟨hpairs, hgood'⟩ := List.forall_mem_append.mp hgood
    obtain ⟨w₁, hw₁⟩ := writePairs_of_good w hpairs
    obtain ⟨w', hw'⟩ := mergeFrom_append_of_good w₁ rest hread' hgood'
    refine ⟨w', ?_⟩
    rw [List.cons_append, mergeFrom, hw₁, hs]
    show (⟨s.readRecord :: (mergeFrom w₁ (before ++ rest)).logs, _⟩ : Logged Writes) = _
    rw [hw']
    rfl

/-- **A bundle is loaded from sources of good pairs.** Each source leaves its record, and one more
comes at the end. -/
theorem load_of_good {sources : List Source} (hread : ∀ s ∈ sources, s.fault = none)
    (hgood : ∀ p ∈ stream sources, ¬ BadPair p) :
    ∃ b, load sources
      = ⟨sources.map Source.readRecord ++ [.loaded sources.length b.present.length], .ok b⟩ := by
  obtain ⟨w, hw⟩ := mergeFrom_append_of_good [] [] hread hgood
  rw [List.append_nil] at hw
  have hm : merge sources = ⟨sources.map Source.readRecord, .ok w⟩ := by
    rw [merge, hw, mergeFrom, List.append_nil]
  refine ⟨Bundle.ofWrites w, ?_⟩
  rw [load_of_merge_ok (congrArg Logged.result hm), hm]

/-- Where the first bad pair of some sources is. -/
structure FirstBad (sources before : List Source) (s : Source) (after : List Source)
    (pair : Pair) : Prop where
  place : sources = before ++ s :: after
  good : ∀ p ∈ stream before, ¬ BadPair p
  within : ∃ ahead behind, s.pairs = ahead ++ pair :: behind ∧ ∀ p ∈ ahead, ¬ BadPair p
  bad : BadPair pair

/-- **The first bad pair decides about a load.** The sources before it have left their records, and
those after its source could be any others. -/
theorem load_of_firstBad {sources before after : List Source} {s : Source} {pair : Pair}
    (hread : ∀ s ∈ sources, s.fault = none) (h : FirstBad sources before s after pair) :
    ∃ e, Refused s.name pair e ∧ ∀ others,
      load (before ++ s :: others) = ⟨before.map Source.readRecord, .error e⟩ := by
  obtain ⟨e, he⟩ := (badPair_iff_refused s.name).mp h.bad
  obtain ⟨ahead, behind, hpairs, hahead⟩ := h.within
  refine ⟨e, he, fun others => ?_⟩
  have hbefore : ∀ t ∈ before, t.fault = none := fun t ht =>
    hread t (h.place ▸ List.mem_append_left _ ht)
  obtain ⟨w, hw⟩ := mergeFrom_append_of_good [] (s :: others) hbefore h.good
  have hs : mergeFrom w (s :: others) = ⟨[], .error e⟩ := by
    rw [mergeFrom, hpairs, writePairs_of_bad w hahead he]
  have hm : merge (before ++ s :: others) = ⟨before.map Source.readRecord, .error e⟩ := by
    rw [merge, hw, hs, List.append_nil]
  rw [load_of_merge_error (congrArg Logged.result hm), hm]

/-- Of some elements with a property there is a first. -/
theorem exists_first {α : Type} {P : α → Prop} {xs : List α} (h : ∃ x ∈ xs, P x) :
    ∃ ahead x behind, xs = ahead ++ x :: behind ∧ (∀ y ∈ ahead, ¬ P y) ∧ P x := by
  classical
  obtain ⟨y, hy, hp⟩ := h
  have hsome : (xs.find? fun x => decide (P x)).isSome = true :=
    List.find?_isSome.mpr ⟨y, hy, decide_eq_true hp⟩
  obtain ⟨x, hx⟩ := Option.isSome_iff_exists.mp hsome
  obtain ⟨hpx, ahead, behind, hxs, hahead⟩ := List.find?_eq_some_iff_append.mp hx
  refine ⟨ahead, x, behind, hxs, fun z hz hpz => ?_, of_decide_eq_true hpx⟩
  have hz' : (!decide (P z)) = true := hahead z hz
  rw [decide_eq_true hpz] at hz'
  cases hz'

/-- Where there is a bad pair there is a first one. -/
theorem exists_firstBad {sources : List Source} (h : ∃ p ∈ stream sources, BadPair p) :
    ∃ before s after pair, FirstBad sources before s after pair := by
  obtain ⟨p, hp, hbad⟩ := h
  obtain ⟨t, ht, hpt⟩ := List.mem_flatMap.mp hp
  obtain ⟨before, s, after, hplace, hbefore, hs⟩ :=
    exists_first (P := fun s : Source => ∃ p ∈ s.pairs, BadPair p) ⟨t, ht, p, hpt, hbad⟩
  obtain ⟨ahead, pair, behind, hpairs, hahead, hbad⟩ := exists_first hs
  refine ⟨before, s, after, pair, hplace, fun q hq hqb => ?_, ⟨ahead, behind, hpairs, hahead⟩,
    hbad⟩
  obtain ⟨u, hu, hqu⟩ := List.mem_flatMap.mp hq
  exact hbefore u hu ⟨q, hqu, hqb⟩

/-! ## Loads of layers -/

/-- A source over a mapping has the name that it is given, whatever is in the mapping. -/
theorem name_ofMapping (name : String) (entries : List (Raw × Raw)) :
    (Source.ofMapping name entries).name = name := by
  unfold Source.ofMapping
  split <;> rfl

/-- A plain mapping is named by its place. -/
theorem name_eq_placeName {layers : List Layer} {before after : List Source} {s : Source}
    {entries : List (Raw × Raw)} (h : Source.ofLayers layers = before ++ s :: after)
    (hl : layers[before.length]? = some (.mapping entries)) :
    s.name = Source.placeName before.length := by
  have hs : (Source.ofLayers layers)[before.length]? = some s := by
    rw [h, List.getElem?_append_right (Nat.le_refl _), Nat.sub_self, List.getElem?_cons_zero]
  rw [Source.ofLayers, List.getElem?_mapIdx, hl] at hs
  rw [← Option.some.inj hs]
  exact name_ofMapping _ entries

/-- **A load fails exactly on its first bad pair, and as a whole.**

Of layers that can be read, some pair is bad if and only if the load fails, and then one of them is
the first. The first one tells the error, by its path or else by its value and with the name of its
source, that of a plain mapping being its place. One record of level `DEBUG` is left by each source
before it, and the sources after its own could be any others. Without a bad pair, each source leaves
its record and the load one of level `INFO`. -/
theorem load_first_fault {layers : List Layer}
    (hread : ∀ s ∈ Source.ofLayers layers, s.fault = none) :
    ((∃ e, (load (Source.ofLayers layers)).result = .error e)
        ↔ ∃ p ∈ stream (Source.ofLayers layers), BadPair p)
      ∧ ((∃ p ∈ stream (Source.ofLayers layers), BadPair p) →
          ∃ before s after pair, FirstBad (Source.ofLayers layers) before s after pair)
      ∧ (∀ before s after pair, FirstBad (Source.ofLayers layers) before s after pair →
          (∃ e, Refused s.name pair e
            ∧ load (Source.ofLayers layers) = ⟨before.map Source.readRecord, .error e⟩)
          ∧ (∀ others, load (before ++ s :: others) = load (Source.ofLayers layers))
          ∧ ∀ entries, layers[before.length]? = some (.mapping entries) →
            s.name = "source[" ++ toString before.length ++ "]")
      ∧ ((∀ p ∈ stream (Source.ofLayers layers), ¬ BadPair p) →
          ∃ b, load (Source.ofLayers layers)
            = ⟨(Source.ofLayers layers).map Source.readRecord
                ++ [.loaded layers.length b.present.length], .ok b⟩)
      ∧ (∀ s : Source, s.readRecord.level = "DEBUG")
      ∧ ∀ sources fields, (LogRecord.loaded sources fields).level = "INFO" := by
  have hfirst : ∀ before s after pair, FirstBad (Source.ofLayers layers) before s after pair →
      ∃ e, Refused s.name pair e ∧ ∀ others,
        load (before ++ s :: others) = ⟨before.map Source.readRecord, .error e⟩ :=
    fun _ _ _ _ h => load_of_firstBad hread h
  refine ⟨⟨fun ⟨e, he⟩ => ?_, fun hbad => ?_⟩, exists_firstBad, fun before s after pair h => ?_,
    fun hgood => ?_, fun _ => rfl, fun _ _ => rfl⟩
  · refine Classical.byContradiction fun hn => ?_
    obtain ⟨b, hb⟩ := load_of_good hread fun p hp hpb => hn ⟨p, hp, hpb⟩
    rw [hb] at he
    cases he
  · obtain ⟨before, s, after, pair, h⟩ := exists_firstBad hbad
    obtain ⟨e, -, he⟩ := hfirst before s after pair h
    exact ⟨e, by rw [h.place, he after]⟩
  · obtain ⟨e, hrefused, he⟩ := hfirst before s after pair h
    have hload : load (Source.ofLayers layers) = ⟨before.map Source.readRecord, .error e⟩ := by
      rw [h.place, he after]
    exact ⟨⟨e, hrefused, hload⟩, fun others => (he others).trans hload.symm,
      fun entries hl => name_eq_placeName h.place hl⟩
  · obtain ⟨b, hb⟩ := load_of_good hread hgood
    refine ⟨b, ?_⟩
    rw [hb, Source.ofLayers, List.length_mapIdx]

/-- Between two sources in order, a plain mapping with a path that is no credential's. -/
def misspelledInBetween : List Layer :=
  [.source (.ofPairs "base"
      [("l1.l1_rpc_url", .text "http://old"), ("l1.l1_rpc_url", .text "http://new")]),
    .mapping [(.text "database",
      .map [(.text "server_uri", .int 1), (.text "server_url", .secret .plain .null)])],
    .source (.ofPairs "site" [("database.server_url", .text "postgres://db")])]

theorem load_first_fault_misspelledInBetween :
    (∀ s ∈ Source.ofLayers misspelledInBetween, s.fault = none)
      ∧ load (Source.ofLayers misspelledInBetween)
        = ⟨[.read 2 "base"], .error (.unknownPath "database.server_uri" (some "source[1]"))⟩ := by
  have hread : ∀ s ∈ Source.ofLayers misspelledInBetween, s.fault = none :=
    List.forall_mem_cons.mpr ⟨rfl, List.forall_mem_cons.mpr ⟨rfl,
      List.forall_mem_singleton.mpr rfl⟩⟩
  refine ⟨hread, ?_⟩
  obtain ⟨-, -, houtcome, -⟩ := load_first_fault hread
  have hplace : Source.ofLayers misspelledInBetween
      = [.ofPairs "base"
          [("l1.l1_rpc_url", .text "http://old"), ("l1.l1_rpc_url", .text "http://new")]]
        ++ .ofPairs "source[1]"
          [("database.server_uri", .int 1), ("database.server_url", .secret .plain .null)]
        :: [.ofPairs "site" [("database.server_url", .text "postgres://db")]] := rfl
  have hunknown : ∀ f : Field, f.path ≠ "database.server_uri" :=
    Field.ofPath?_eq_none_iff.mp (by decide +kernel)
  have hendpoint : ∀ s, ¬ BadPair ("l1.l1_rpc_url", .text s) := fun s =>
    not_badPair_iff.mpr ⟨⟨.l1RpcUrl, rfl⟩, Or.inr ⟨s, rfl⟩⟩
  obtain ⟨⟨e, hrefused, hload⟩, -⟩ := houtcome _ _ _ _
    ⟨hplace, List.forall_mem_cons.mpr ⟨hendpoint _, List.forall_mem_singleton.mpr (hendpoint _)⟩,
      ⟨[], _, rfl, fun _ h => absurd h List.not_mem_nil⟩, Or.inl hunknown⟩
  obtain rfl := Except.error.inj ((Refused.path hunknown).accept.symm.trans hrefused.accept)
  exact hload

end Credentials
