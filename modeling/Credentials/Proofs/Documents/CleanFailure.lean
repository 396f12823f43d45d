import Credentials.Proofs.CheckRun
import Credentials.Proofs.Documents.Construction
import Credentials.Proofs.Documents.Grammar
import Credentials.Proofs.Documents.Scanning

/-!
# Documents that cannot be read

A document that cannot be read fails with a text of its own, made of the document's name and at most
the number of a line; a load passes the failure on, and a check reports it and ends with one. That
holds where all that is written in the document can be converted and no part of it is nested beyond
`Yaml.nestingLimit` (`Yaml.Convertible`). Otherwise an error of another sort may end the work: one
whose text may quote a scalar, or one that says that the calls of the reading went too deep.

1. **The nesting.** `Yaml.Shallow` bounds each of the three ways down into a document: its open
   collections, its merges and the mappings of its value. Reading as it is defined here never runs
   out of room, so no proof asks for the bound; it keeps the statement to the documents for which
   there is room in any case.
2. **The document.** `Yaml.Convertible.told` follows its bytes through the scanner, the grammar and
   the values.
3. **The load and the check.** `reports_load` and `reports_checkFor` follow its failure.

Main statement: `unreadable_document_reported`.
-/

namespace Credentials

open Text CommandLine

namespace Yaml

/-! ## The parts of a document -/

/-- The tokens of a document. -/
def tokensOf (content : ByteArray) : Stream :=
  let (cs, limit) := textOf content
  .ofChars ((forbiddenLimit cs).or limit) cs

/-- The graph of a document, if there is one. -/
def documentOf (content : ByteArray) : Scan (Option Document) :=
  Document.ofTrace (Trace.ofStream (tokensOf content))

/-- The value of a document; a text without a document is nothing. -/
def valueOfBytes (content : ByteArray) : Scan Raw := do
  match ← documentOf content with
  | some d => d.toRaw
  | none => return .null

theorem entriesOfBytes_eq (content : ByteArray) :
    entriesOfBytes content = valueOfBytes content >>= entriesOf :=
  rfl

/-! ## Nesting -/

/-- A nesting for which there is room wherever a document is read. About a thousand calls may stand
in one another and a level takes at most two of them, so more than half are left to whoever asks for
the document. -/
def nestingLimit : Nat := 200

/-- The most collections that are open at once along events, where some are open already. -/
def mostOpen (opened : Nat) : List Event → Nat
  | [] => opened
  | e :: r =>
    max opened <| match e.kind with
      | .sequenceStart _ _ | .mappingStart _ _ => mostOpen (opened + 1) r
      | .sequenceEnd | .mappingEnd => mostOpen (opened - 1) r
      | _ => mostOpen opened r

/-- Brackets count from where they are opened, also where the text breaks off behind them. -/
example : mostOpen 0 (Trace.ofStream (tokensOf "[a, [b, [".toUTF8)).events = 3 := by
  decide +kernel

namespace Nodes

/-- What the merge keys of a mapping name, one by one or in lists. -/
def merged (ns : Nodes) (id : Nat) : List Nat :=
  (ns.pairsOf id).flatMap fun p =>
    match ns.tagOf p.1, ns.contentOf p.2 with
    | .merge, .sequence items => items
    | .merge, _ => [p.2]
    | _, _ => []

/-- Whether every way from a node along merge keys has fewer steps than a number. A mapping that is
merged into itself has a way without an end. -/
def mergesWithin (ns : Nodes) : Nat → Nat → Bool
  | 0, _ => false
  | n + 1, id => (ns.merged id).all (ns.mergesWithin n)

end Nodes

mutual

/-- How many mappings stand in one another in a value that is a mapping. -/
def levelsOfValue : Raw → Nat
  | .map entries => levelsOf entries + 1
  | _ => 0

/-- How many mappings stand in one another among the values of entries. -/
def levelsOf : List (Raw × Raw) → Nat
  | [] => 0
  | (_, v) :: r => max (levelsOfValue v) (levelsOf r)

end

/-- A document that is nowhere nested beyond the limit. -/
structure Shallow (content : ByteArray) : Prop where
  /-- The collections that are open at once in the text, as far as it can be read. -/
  opened : mostOpen 0 (Trace.ofStream (tokensOf content)).events ≤ nestingLimit
  /-- The mappings that are merged into one another. -/
  merges : ∀ d, documentOf content = .ok (some d) → ∀ id < d.nodes.size,
    d.nodes.mergesWithin nestingLimit id = true
  /-- The mappings that stand in one another in the value; an alias stands for all that it names. -/
  levels : ∀ entries, entriesOfBytes content = .ok entries → levelsOf entries ≤ nestingLimit

instance (content : ByteArray) : Decidable (Shallow content) :=
  decidable_of_iff (mostOpen 0 (Trace.ofStream (tokensOf content)).events ≤ nestingLimit
      ∧ (∀ o, documentOf content = .ok o → ∀ d ∈ o, ∀ id < d.nodes.size,
          d.nodes.mergesWithin nestingLimit id = true)
      ∧ ∀ entries, entriesOfBytes content = .ok entries → levelsOf entries ≤ nestingLimit)
    ⟨fun ⟨ho, hm, hl⟩ => ⟨ho, fun d hd => hm (some d) hd d rfl, hl⟩,
      fun h => ⟨h.opened, fun _ ho d hd => h.merges d (hd ▸ ho), h.levels⟩⟩

/-! ## Documents that can be converted -/

/-- Whether a fault is that something cannot be converted. -/
def isConversion : DocumentFault → Bool
  | .unconvertible _ => true
  | _ => false

/-- A document in which nothing is written that cannot be converted, and that is not nested beyond
the limit. -/
structure Convertible (content : ByteArray) : Prop where
  /-- The bytes are a text. -/
  text : (String.fromUTF8? content).isSome = true
  /-- There is room for its nesting. -/
  nesting : Shallow content
  /-- The numbers in versions, and of characters, are in range. -/
  numbers : ∀ f ∈ (tokensOf content).fault, isConversion f = false
  /-- The scalars fit their tags. -/
  scalars : ∀ d, documentOf content = .ok (some d) → d.nodes.Convertible
  /-- The keys can be written. -/
  keys : ∀ entries, entriesOfBytes content = .ok entries → stuckIn entries = none

instance (content : ByteArray) : Decidable (Convertible content) :=
  decidable_of_iff ((String.fromUTF8? content).isSome = true ∧ Shallow content
      ∧ (∀ f ∈ (tokensOf content).fault, isConversion f = false)
      ∧ (∀ o, documentOf content = .ok o → ∀ d ∈ o, d.nodes.Convertible)
      ∧ ∀ entries, entriesOfBytes content = .ok entries → stuckIn entries = none)
    ⟨fun ⟨ht, hl, hn, hs, hk⟩ => ⟨ht, hl, hn, fun d hd => hs (some d) hd d rfl, hk⟩,
      fun h => ⟨h.text, h.nesting, h.numbers, fun _ ho d hd => h.scalars d (hd ▸ ho), h.keys⟩⟩

/-- The faults that are told by a text of the document's own. -/
inductive Told : DocumentFault → Prop
  | malformed (line : Nat) : Told (.malformed line)
  | forbiddenCharacter : Told .forbiddenCharacter
  | notMapping : Told .notMapping

theorem fault_of_forbiddenLimit {cs : List Char} {l : Limit} (h : forbiddenLimit cs = some l) :
    l.fault = .forbiddenCharacter := by
  obtain ⟨place, -, rfl⟩ := Option.map_eq_some_iff.mp h
  rfl

namespace Convertible

variable {content : ByteArray} (h : Convertible content)
include h

theorem told_tokens {f : DocumentFault} (hf : (tokensOf content).fault = some f) : Told f := by
  obtain ⟨s, hs⟩ := Option.isSome_iff_exists.mp h.text
  have htext : textOf content = (unifyBreaks s.toList, none) := by simp only [textOf, hs]
  have hrange := h.numbers f hf
  rw [tokensOf, htext] at hf
  rcases fault_ofChars hf with hf | ⟨l, hl, rfl⟩
  · cases hf with
    | malformed line => exact .malformed line
    | outOfRange => cases hrange
  · rw [Option.or_none] at hl
    exact fault_of_forbiddenLimit hl ▸ .forbiddenCharacter

theorem told_document {f : DocumentFault} (hf : documentOf content = .error f) : Told f := by
  cases fault_ofTrace hf with
  | malformed line => exact .malformed line
  | behind hb => exact h.told_tokens hb

/-- **What is wrong with a document that can be converted is told by a text of its own.** -/
theorem told : FailsOnly Told (entriesOfBytes content) := by
  have hvalue : FailsOnly Told (valueOfBytes content) := by
    unfold valueOfBytes
    cases hd : documentOf content with
    | error f => exact .error (h.told_document hd)
    | ok o =>
      cases o with
      | none => exact .ok trivial
      | some d =>
        exact (malformed_toRaw (h.scalars d hd)).imp fun _ ⟨line, hf⟩ => hf ▸ .malformed line
  rw [entriesOfBytes_eq]
  refine hvalue.bind fun v => ?_
  unfold entriesOf
  split
  · exact .ok trivial
  · exact .ite (.error .notMapping) (.ok trivial)

end Convertible

end Yaml

/-! ## Sources -/

/-- The texts of a failure: the name of a document and at most the number of a line. -/
inductive FixedText (name : String) : String → Prop
  | malformed (line : Nat) : FixedText name (name ++ ": invalid YAML at line " ++ toString line)
  | forbiddenCharacter : FixedText name (name ++ ": invalid YAML")
  | notMapping : FixedText name (name ++ ": top-level YAML node must be a mapping")

/-- A source over a document that yields what the document holds, or else nothing but an error that
is reported, with one of these texts. -/
inductive ReadsCleanly (content : ByteArray) (name : String) : Source → Prop
  | pairs {entries : List (Raw × Raw)} (h : Yaml.entriesOfBytes content = .ok entries) :
      ReadsCleanly content name (.ofPairs name (flatten "" entries))
  | fault {f : DocumentFault} {text : String} (h : Yaml.entriesOfBytes content = .error f)
      (reported : (Error.document name f).isReported = true)
      (message : (Error.document name f).message = some text) (fixed : FixedText name text) :
      ReadsCleanly content name (.ofFault name (.document name f))

/-- **A document that can be converted is read, or it fails with a text of its own.** -/
theorem readsCleanly_ofFile {host : Host} {path : String} {content : ByteArray}
    (hf : host.find (FilePath.normalize path) = .file content) (hc : Yaml.Convertible content) :
    ReadsCleanly content (FilePath.normalize path) (Source.ofFile host path) := by
  cases he : Yaml.entriesOfBytes content with
  | ok entries =>
    rw [ofFile_eq_ofMapping hf he, Source.ofMapping, hc.keys entries he]
    exact .pairs he
  | error f =>
    have hs : Source.ofFile host path
        = .ofFault (FilePath.normalize path) (.document (FilePath.normalize path) f) := by
      simp only [Source.ofFile, documentEntries, Host.read, hf, he, bind, Except.bind, throw,
        throwThe, MonadExceptOf.throw]
    rw [hs]
    cases hc.told.fault he with
    | malformed line => exact .fault he rfl rfl (.malformed line)
    | forbiddenCharacter => exact .fault he rfl rfl .forbiddenCharacter
    | notMapping => exact .fault he rfl rfl .notMapping

/-- A source whose error, if it has one, is reported. -/
def Source.IsReported (s : Source) : Prop := ∀ e ∈ s.fault, e.isReported = true

theorem ReadsCleanly.isReported {content : ByteArray} {name : String} {s : Source}
    (h : ReadsCleanly content name s) : s.IsReported := by
  intro e he
  cases h with
  | pairs => cases he
  | fault h reported message fixed => exact Option.some.inj he ▸ reported

/-! ## Loads -/

/-- A computation that fails with errors that are reported. -/
abbrev Reports {α : Type} (x : Except Error α) : Prop := FailsOnly (fun e => e.isReported = true) x

theorem reports_accept (source : String) (pair : Pair) : Reports (accept source pair) := by
  cases h : accept source pair with
  | ok write => exact .ok trivial
  | error e =>
    cases accept_eq_error_iff.mp h with
    | path => exact .error rfl
    | value => exact .error rfl

theorem reports_writePairs (source : String) (w : Writes) (pairs : List Pair) :
    Reports (writePairs source w pairs) := by
  induction pairs generalizing w with
  | nil => exact .ok trivial
  | cons pair r ih =>
    unfold writePairs
    split
    · exact ih _
    · next he => exact .error ((reports_accept source pair).fault he)

theorem reports_mergeFrom {sources : List Source} (h : ∀ s ∈ sources, s.IsReported) (w : Writes) :
    Reports (mergeFrom w sources).result := by
  induction sources generalizing w with
  | nil => exact .ok trivial
  | cons s r ih =>
    obtain ⟨hs, hr⟩ := List.forall_mem_cons.mp h
    unfold mergeFrom
    split
    · next he => exact .error ((reports_writePairs _ _ _).fault he)
    · next he => exact .error (hs _ he)
    · exact ih hr _

/-- A load of sources whose errors are reported ends in a bundle or in an error that is reported. -/
theorem reports_load {sources : List Source} (h : ∀ s ∈ sources, s.IsReported) :
    Reports (load sources).result := by
  rw [load_result]
  exact (reports_mergeFrom h []).map _

/-! ## Checks -/

namespace CommandLine

theorem reports_validate (b : Bundle) (r : Role) : Reports (validate b r).result := by
  cases h : (validate b r).result with
  | ok v => exact .ok trivial
  | error e =>
    obtain ⟨-, rfl⟩ := validate_eq_error_iff.mp h
    exact .error rfl

theorem reports_checkFor {host : Host} {q : CheckRequest} (h : ∀ s ∈ q.sources host, s.IsReported)
    (r : Role) : Reports (checkFor host q r).result := by
  unfold checkFor Logged.andThen
  split
  · next he => exact .error ((reports_load h).fault he)
  · exact reports_validate _ r

/-- A path at which there is a document that can be converted. -/
def HoldsDocument (host : Host) (path : String) : Prop :=
  ∃ content, host.find (FilePath.normalize path) = .file content ∧ Yaml.Convertible content

/-- The sources of a request are reported if its documents can be converted. -/
theorem isReported_of_mem_sources {host : Host} {q : CheckRequest}
    (h : ∀ path ∈ q.files, HoldsDocument host path) : ∀ s ∈ q.sources host, s.IsReported := by
  intro s hs
  rcases List.mem_append.mp hs with hs | hs
  · obtain ⟨path, hp, rfl⟩ := List.mem_map.mp hs
    obtain ⟨content, hf, hc⟩ := h path hp
    exact (readsCleanly_ofFile hf hc).isReported
  · split at hs
    · obtain rfl := List.mem_singleton.mp hs
      exact fun _ he => nomatch he
    · cases hs

theorem errorOutcome_of_isReported {e : Error} (h : e.isReported = true) :
    (errorOutcome e).exitCode = 1 ∧ (errorOutcome e).escaped = none := by
  unfold errorOutcome
  split
  · exact ⟨rfl, rfl⟩
  · rw [if_pos h]
    exact ⟨rfl, rfl⟩

end CommandLine

/-- **A document that cannot be read fails cleanly.**

Let the document in a file be one that can be converted, nested within the limit. Then the source
over it yields what it holds, or else an error that is reported, in a text made of the path and at
most the number of a line. A load with it among the sources ends in a bundle or in an error that is
reported, if no other source does otherwise. And a check of such files for a role ends in a view and
with zero, or in an error that is reported and with one. -/
theorem unreadable_document_reported {host : Host} {path : String} {content : ByteArray}
    (hf : host.find (FilePath.normalize path) = .file content) (hc : Yaml.Convertible content) :
    ReadsCleanly content (FilePath.normalize path) (Source.ofFile host path)
      ∧ (∀ sources, (∀ s ∈ sources, s = Source.ofFile host path ∨ s.IsReported) →
          (∃ b, (load sources).result = .ok b)
            ∨ ∃ e, (load sources).result = .error e ∧ e.isReported = true)
      ∧ ∀ words r q, Invocation host words r q →
          (∀ other ∈ q.files, other = path ∨ HoldsDocument host other) →
          (run host words).escaped = none
            ∧ (((run host words).exitCode = 0 ∧ ∃ v, (checkFor host q r).result = .ok v)
              ∨ (run host words).exitCode = 1
                ∧ ∃ e, (checkFor host q r).result = .error e ∧ e.isReported = true) := by
  have hclean := readsCleanly_ofFile hf hc
  refine ⟨hclean, fun sources hs => ?_, fun words r q hask hfiles => ?_⟩
  · have hload : Reports (load sources).result := reports_load fun s hm => by
      rcases hs s hm with rfl | hr
      · exact hclean.isReported
      · exact hr
    cases hl : (load sources).result with
    | ok b => exact .inl ⟨b, rfl⟩
    | error e => exact .inr ⟨e, rfl, hload.fault hl⟩
  · have hdocuments : ∀ other ∈ q.files, HoldsDocument host other := fun other hm =>
      (hfiles other hm).elim (fun he => he ▸ ⟨content, hf, hc⟩) id
    have hchecked := reports_checkFor (isReported_of_mem_sources hdocuments) r
    rw [hask.run_eq]
    cases hr : (checkFor host q r).result with
    | ok v => exact ⟨rfl, .inl ⟨rfl, v, rfl⟩⟩
    | error e =>
      have hreported := hchecked.fault hr
      obtain ⟨hcode, hescaped⟩ := errorOutcome_of_isReported hreported
      exact ⟨hescaped, .inr ⟨hcode, e, rfl, hreported⟩⟩

/-- Two documents, of which the second one lacks a bracket. -/
def brokenHost : Host :=
  .ofFiles
    [("site.yaml", some "l1: \x7bl1_rpc_url: a\x7d\n".toUTF8),
      ("broken.yaml", some "l1: \x7bl1_rpc_url: b\n".toUTF8)]
    []

/-- The words of a check over both. -/
def brokenWords : List String := checkWords "Prover" ["site.yaml", "broken.yaml"] false ""

/-- What these words ask for. -/
def brokenRequest : CheckRequest := ⟨["site.yaml", "broken.yaml"], some "Prover", false, "", []⟩

theorem unreadable_document_reported_brokenHost :
    (∃ f text, Source.ofFile brokenHost "broken.yaml"
          = .ofFault "broken.yaml" (.document "broken.yaml" f)
        ∧ (Error.document "broken.yaml" f).message = some text ∧ FixedText "broken.yaml" text)
      ∧ (run brokenHost brokenWords).escaped = none
      ∧ (run brokenHost brokenWords).exitCode = 1 := by
  have hfound : ∀ path ∈ brokenRequest.files, ∃ content, brokenHost.find path = .file content :=
    List.forall_mem_cons.mpr ⟨⟨_, rfl⟩, List.forall_mem_singleton.mpr ⟨_, rfl⟩⟩
  have hask : Invocation brokenHost brokenWords .prover brokenRequest :=
    ⟨asks_spelled _ _ _ _, ⟨_, rfl, by decide +kernel⟩, rfl, hfound⟩
  have hsite : HoldsDocument brokenHost "site.yaml" := ⟨_, rfl, by decide +kernel⟩
  have hfiles : ∀ other ∈ brokenRequest.files,
      other = "broken.yaml" ∨ HoldsDocument brokenHost other :=
    List.forall_mem_cons.mpr ⟨.inr hsite, List.forall_mem_singleton.mpr (.inl rfl)⟩
  obtain ⟨hread, -, hrun⟩ :=
    @unreadable_document_reported brokenHost "broken.yaml" _ rfl (by decide +kernel)
  have hfails : (Source.ofFile brokenHost "broken.yaml").fault.isSome = true := by decide +kernel
  have hrefused : (checkFor brokenHost brokenRequest .prover).result.isOk = false := by
    decide +kernel
  have hname : FilePath.normalize "broken.yaml" = "broken.yaml" := by decide +kernel
  obtain ⟨hescaped, ⟨-, v, hv⟩ | ⟨hcode, -⟩⟩ := hrun _ _ _ hask hfiles
  · rw [hv] at hrefused
    cases hrefused
  · rw [hname] at hread
    refine ⟨?_, hescaped, hcode⟩
    generalize Source.ofFile brokenHost "broken.yaml" = s at hread hfails
    cases hread with
    | pairs => cases hfails
    | fault h reported message fixed => exact ⟨_, _, rfl, message, fixed⟩

/-- A document with a date in a month that does not exist. -/
def misdatedHost : Host :=
  .ofFiles [("a.yaml", some "l1:\n  l1_rpc_url: 2020-13-45\n".toUTF8)] []

/-- A scalar that cannot be converted ends a check with an error that is not reported. -/
theorem unconvertible_scalar_escapes :
    ∃ e, (Source.ofFile misdatedHost "a.yaml").fault = some e ∧ e.isReported = false
      ∧ (run misdatedHost (checkWords "prover" ["a.yaml"] false "")).escaped = some e :=
  ⟨.document "a.yaml" (.unconvertible (.calendar .month)), by decide +kernel⟩

end Credentials
