import Credentials.Proofs.Documents.CleanFailure
import Credentials.Proofs.Documents.Values

/-!
# Documents that are accepted

A document is accepted if its value is a mapping, and then it is as good a source as that mapping in
memory, at every place of a load. A document that is empty or null is accepted too and yields
nothing. Every other document is refused by one error, unless its value is hollow: false, zero, or
an empty text or collection that is no mapping. A hollow document passes for an empty one.

* `truthy_eq_false_iff` — the values that count as nothing
* `documentEntries_of_readsAs` — the entries of a file are those of its document's value
* `ofFile_of_hollow` — what hollow documents yield

Main statement: `document_accepted_iff`.
-/

namespace Credentials

namespace Yaml

/-! ## Values -/

/-- A value that is neither nothing nor a mapping, but counts as nothing. -/
inductive Hollow : Raw → Prop
  | no : Hollow (.bool false)
  | zero : Hollow (.int 0)
  | zeroFloat {x : Float} (h : (x != 0.0) = false) : Hollow (.float x)
  | text : Hollow (.text "")
  | bytes : Hollow (.bytes [])
  | list : Hollow (.list [])
  | set : Hollow (.set [])

/-- **The values of documents that count as nothing**: nothing itself, the empty mapping, and the
hollow values. -/
theorem truthy_eq_false_iff {d : Raw} (h : DocumentValue d) :
    d.truthy = false ↔ d = .null ∨ d = .map [] ∨ Hollow d := by
  constructor
  · intro hd
    cases h with
    | null => exact .inl rfl
    | bool b =>
      obtain rfl : b = false := hd
      exact .inr (.inr .no)
    | int n =>
      obtain rfl : n = 0 := by simpa [Raw.truthy] using hd
      exact .inr (.inr .zero)
    | float x => exact .inr (.inr (.zeroFloat hd))
    | text s =>
      obtain rfl : s = "" := by simpa [Raw.truthy] using hd
      exact .inr (.inr .text)
    | bytes bs =>
      obtain rfl : bs = [] := by simpa [Raw.truthy] using hd
      exact .inr (.inr .bytes)
    | list xs =>
      obtain rfl : xs = [] := by simpa [Raw.truthy] using hd
      exact .inr (.inr .list)
    | set xs =>
      obtain rfl : xs = [] := by simpa [Raw.truthy] using hd
      exact .inr (.inr .set)
    | map entries =>
      obtain rfl : entries = [] := by simpa [Raw.truthy] using hd
      exact .inr (.inl rfl)
    | nan | date | moment => cases hd
  · rintro (rfl | rfl | hd)
    · rfl
    · rfl
    · cases hd with
      | zeroFloat hx => exact hx
      | _ => rfl

/-- A value that is no mapping has no entries if it counts as nothing, and is refused otherwise. -/
theorem entriesOf_of_ne_map {d : Raw} (h : ∀ entries, d ≠ .map entries) :
    entriesOf d = if d.truthy then .error .notMapping else .ok [] := by
  unfold entriesOf
  split
  · next entries => exact absurd rfl (h entries)
  · rfl

/-- **The values whose entries can be had** are the mappings, nothing, and the hollow values. -/
theorem exists_entriesOf_iff {d : Raw} (hd : DocumentValue d) :
    (∃ entries, entriesOf d = .ok entries)
      ↔ (∃ entries, d = .map entries) ∨ d = .null ∨ Hollow d := by
  by_cases h : ∃ entries, d = .map entries
  · obtain ⟨entries, rfl⟩ := h
    exact ⟨fun _ => .inl ⟨entries, rfl⟩, fun _ => ⟨entries, rfl⟩⟩
  · have hne : ∀ entries, d ≠ .map entries := fun entries he => h ⟨entries, he⟩
    have hfalse : d.truthy = false ↔ d = .null ∨ Hollow d :=
      (truthy_eq_false_iff hd).trans (or_congr_right (or_iff_right (hne [])))
    rw [entriesOf_of_ne_map hne, or_iff_right h, ← hfalse]
    cases d.truthy with
    | true => exact ⟨fun ⟨_, he⟩ => (nomatch he), fun he => (nomatch he)⟩
    | false => exact ⟨fun _ => rfl, fun _ => ⟨[], rfl⟩⟩

theorem documentValue_of_valueOfBytes {content : ByteArray} {d : Raw}
    (h : valueOfBytes content = .ok d) : DocumentValue d := documentValue_of_valueOf h

end Yaml

open Yaml

/-! ## Files -/

/-- The document in the file at a path has a value. -/
def Host.ReadsAs (host : Host) (path : String) (d : Raw) : Prop :=
  ∃ content, host.find (FilePath.normalize path) = .file content ∧ valueOfBytes content = .ok d

section Files

variable {host : Host} {path : String} {d : Raw} (h : host.ReadsAs path d)
include h

theorem Host.ReadsAs.documentValue : DocumentValue d :=
  let ⟨_, _, hv⟩ := h
  documentValue_of_valueOfBytes hv

/-- The entries of a file are those of its document's value. -/
theorem documentEntries_of_readsAs :
    documentEntries host (FilePath.normalize path)
      = (entriesOf d).mapError (.document (FilePath.normalize path)) := by
  obtain ⟨content, hf, hv⟩ := h
  have he : entriesOfBytes content = entriesOf d := by
    rw [entriesOfBytes_eq, hv]
    rfl
  simp only [documentEntries, Host.read, hf, he, bind, Except.bind]
  cases entriesOf d <;> rfl

/-- What is refused is refused for being no mapping. -/
theorem ofFile_of_refused (hd : entriesOf d = .error .notMapping) :
    Source.ofFile host path = .ofFault (FilePath.normalize path)
      (.document (FilePath.normalize path) .notMapping) := by
  rw [Source.ofFile, documentEntries_of_readsAs h, hd]
  rfl

theorem ofFile_of_accepted {entries : List (Raw × Raw)} (hd : entriesOf d = .ok entries) :
    Source.ofFile host path = .ofMapping (FilePath.normalize path) entries := by
  rw [Source.ofFile, documentEntries_of_readsAs h, hd]
  rfl

/-- **A hollow document passes for an empty one.** -/
theorem ofFile_of_hollow (hd : Hollow d) :
    Source.ofFile host path = .ofPairs (FilePath.normalize path) [] := by
  have hfalse : d.truthy = false :=
    (truthy_eq_false_iff h.documentValue).mpr (.inr (.inr hd))
  have hentries : entriesOf d = .ok [] := by
    rw [entriesOf_of_ne_map (fun entries he => by subst he; cases hd), hfalse]
    rfl
  exact ofFile_of_accepted h hentries

end Files

/-- The layers with one more at a place. -/
def layersWith (before after : List Layer) (s : Source) : List Layer :=
  before ++ .source s :: after

/-- **Only mappings are accepted as documents, and they are as good as in memory.**

Let the document in a file have a value that is not hollow. Then it is accepted if and only if the
value is a mapping or nothing; every other document is refused by an error that is reported and says
that its top must be a mapping. An empty or null document yields nothing. And a document with a
mapping is the source over that mapping under the same name, so at every place of every list of
layers a load ends the same way with either, in the same bundle or with the same error, and leaves
the same records. -/
theorem document_accepted_iff {host : Host} {path : String} {d : Raw} (h : host.ReadsAs path d)
    (hd : ¬ Hollow d) :
    ((∃ entries, documentEntries host (FilePath.normalize path) = .ok entries)
        ↔ (∃ entries, d = .map entries) ∨ d = .null)
      ∧ ((∀ entries, d ≠ .map entries) → d ≠ .null →
          Source.ofFile host path = .ofFault (FilePath.normalize path)
              (.document (FilePath.normalize path) .notMapping)
            ∧ (Error.document (FilePath.normalize path) .notMapping).message
              = some (FilePath.normalize path ++ ": top-level YAML node must be a mapping")
            ∧ (Error.document (FilePath.normalize path) .notMapping).isReported = true)
      ∧ (d = .null → Source.ofFile host path = .ofPairs (FilePath.normalize path) [])
      ∧ ∀ entries, d = .map entries →
          Source.ofFile host path = .ofMapping (FilePath.normalize path) entries
            ∧ ∀ before after : List Layer,
              load (Source.ofLayers (layersWith before after (Source.ofFile host path)))
                = load (Source.ofLayers (layersWith before after
                  (.ofMapping (FilePath.normalize path) entries))) := by
  refine ⟨?_, fun hm hn => ⟨ofFile_of_refused h ?_, rfl, rfl⟩, ?_, ?_⟩
  · have hexists := exists_entriesOf_iff h.documentValue
    rw [or_iff_left hd] at hexists
    rw [documentEntries_of_readsAs h, ← hexists]
    cases entriesOf d with
    | ok entries => exact ⟨fun _ => ⟨_, rfl⟩, fun _ => ⟨_, rfl⟩⟩
    | error fault => exact ⟨fun ⟨_, he⟩ => (nomatch he), fun ⟨_, he⟩ => (nomatch he)⟩
  · have htrue : d.truthy = true := Bool.not_eq_false _ ▸ fun hfalse => by
      rcases (truthy_eq_false_iff h.documentValue).mp hfalse with he | he | he
      · exact hn he
      · exact hm [] he
      · exact hd he
    rw [entriesOf_of_ne_map hm, htrue]
    rfl
  · rintro rfl
    exact ofFile_of_accepted h rfl
  · rintro entries rfl
    have hsource := ofFile_of_accepted h rfl
    exact ⟨hsource, fun before after => by rw [hsource]⟩

/-- A mapping, and two lists of which one is empty. -/
def mixedHost : Host :=
  .ofFiles
    [("site.yaml", some "l1:\n  l1_rpc_url: http://l1\n".toUTF8),
      ("list.yaml", some "- a\n".toUTF8),
      ("empty.yaml", some "[]\n".toUTF8)]
    []

/-- A document that is evaluated has a value of which holds what is decided of it. -/
theorem exists_readsAs {host : Host} {path : String} {content : ByteArray} {P : Raw → Prop}
    (hf : host.find (FilePath.normalize path) = .file content)
    (hok : (valueOfBytes content).isOk = true) (hp : ∀ d, valueOfBytes content = .ok d → P d) :
    ∃ d, host.ReadsAs path d ∧ DocumentValue d ∧ P d := by
  cases hv : valueOfBytes content with
  | error f =>
    rw [hv] at hok
    cases hok
  | ok d => exact ⟨d, ⟨content, hf, hv⟩, documentValue_of_valueOfBytes hv, hp d hv⟩

theorem document_accepted_iff_mixedHost :
    (∃ entries, documentEntries mixedHost "site.yaml" = .ok entries)
      ∧ (∃ entries, Source.ofFile mixedHost "site.yaml" = .ofMapping "site.yaml" entries)
      ∧ Source.ofFile mixedHost "list.yaml"
        = .ofFault "list.yaml" (.document "list.yaml" .notMapping) := by
  have hsiteName : FilePath.normalize "site.yaml" = "site.yaml" := by decide +kernel
  have hlistName : FilePath.normalize "list.yaml" = "list.yaml" := by decide +kernel
  obtain ⟨d, hsite, hd, ht⟩ :=
    @exists_readsAs mixedHost "site.yaml" _ (fun d => d.typeName = "dict") rfl
      (by decide +kernel) (by decide +kernel)
  obtain ⟨entries, rfl⟩ := hd.exists_map ht
  obtain ⟨haccepted, -, -, hmapping⟩ := document_accepted_iff hsite nofun
  obtain ⟨d, hlist, hd, ht, htrue⟩ :=
    @exists_readsAs mixedHost "list.yaml" _ (fun d => d.typeName = "list" ∧ d.truthy = true) rfl
      (by decide +kernel) (by decide +kernel)
  obtain ⟨xs, rfl⟩ := hd.exists_list ht
  have hfull : ¬ Hollow (.list xs) := by
    rintro ⟨⟩
    cases htrue
  obtain ⟨-, hrefused, -⟩ := document_accepted_iff hlist hfull
  rw [hsiteName] at haccepted hmapping
  rw [hlistName] at hrefused
  exact ⟨haccepted.mpr (.inl ⟨entries, rfl⟩), ⟨entries, (hmapping entries rfl).1⟩,
    (hrefused nofun nofun).1⟩

/-- An empty list is accepted, though it is no mapping. -/
theorem emptyList_accepted :
    mixedHost.ReadsAs "empty.yaml" (.list [])
      ∧ documentEntries mixedHost "empty.yaml" = .ok []
      ∧ Source.ofFile mixedHost "empty.yaml" = .ofPairs "empty.yaml" [] := by
  have hname : FilePath.normalize "empty.yaml" = "empty.yaml" := by decide +kernel
  obtain ⟨d, hreads, hd, ht, hfalse⟩ :=
    @exists_readsAs mixedHost "empty.yaml" _ (fun d => d.typeName = "list" ∧ d.truthy = false) rfl
      (by decide +kernel) (by decide +kernel)
  obtain ⟨xs, rfl⟩ := hd.exists_list ht
  obtain rfl : xs = [] := by simpa [Raw.truthy] using hfalse
  exact ⟨hreads, hname ▸ documentEntries_of_readsAs hreads, hname ▸ ofFile_of_hollow hreads .list⟩

end Credentials
