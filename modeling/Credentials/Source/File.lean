import Credentials.Host
import Credentials.Yaml.Value

/-!
# Documents as a source

A source over a document in a file is named by the path as it is shown, and every fault of the
document is told under this name. The pairs are those of the document's mapping, flattened.

Main statement: `ofFile_eq_ofMapping`, a readable document is as good as its mapping in memory.
-/

namespace Credentials

/-- The content of a file, or why it cannot be had. -/
def Host.read (host : Host) (path : String) : Except Error ByteArray :=
  match host.find path with
  | .file content => .ok content
  | .directory => .error (.isDirectory path)
  | .missing => .error (.missingFile path)
  | .notADirectory => .error (.notADirectory path)
  | .tooLong => .error (.nameTooLong path)
  | .malformed => .error .malformedPath

/-- The entries of the document in a file. -/
def documentEntries (host : Host) (name : String) : Except Error (List (Raw × Raw)) := do
  let content ← host.read name
  match Yaml.entriesOfBytes content with
  | .ok entries => return entries
  | .error fault => throw (.document name fault)

/-- The source over the document at a path. -/
def Source.ofFile (host : Host) (path : String) : Source :=
  let name := FilePath.normalize path
  match documentEntries host name with
  | .ok entries => .ofMapping name entries
  | .error e => .ofFault name e

theorem ofFile_eq_ofMapping {host : Host} {path : String} {content : ByteArray}
    {entries : List (Raw × Raw)}
    (hf : host.find (FilePath.normalize path) = .file content)
    (hd : Yaml.entriesOfBytes content = .ok entries) :
    Source.ofFile host path = .ofMapping (FilePath.normalize path) entries := by
  simp [Source.ofFile, documentEntries, Host.read, hf, hd, bind, Except.bind, pure, Except.pure]

end Credentials
