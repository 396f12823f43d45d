import Credentials.Bundle
import Credentials.Source.Basic

/-!
# Merging and loading sources

The pairs of all sources form one stream, source after source. Each pair is judged by itself
(`accept`): its path must be a credential's, and its value nothing or a text, where one wrapper is
taken off a value first. A blank text counts as nothing. The last accepted pair of a path decides; a
credential keeps the place of its first appearance. The first pair that is not accepted ends the
merge, and so does the error behind the pairs of a source.

Every source that was read to its end leaves a record. Loading writes every last write of the merge
to the empty bundle, and a load that succeeds leaves one more record, with the number of sources and
of credentials that hold something.

Main statements: `Writes.last?_put_self` and `Writes.last?_put_of_ne`, a written value is found and
no other changes; `load_result`, the outcome of a load is the outcome of the merge, made a bundle.
-/

namespace Credentials

open Text

/-! ## Records of what happened -/

/-- A record of the work on a deployment's credentials. -/
inductive LogRecord where
  | read (pairs : Nat) (source : String)
  | loaded (sources fields : Nat)
  | refused (report : Report)
  | validated (role : Role) (fields : Nat)
  deriving DecidableEq, Repr

namespace LogRecord

/-- How important a record is. -/
def level : LogRecord → String
  | read _ _ => "DEBUG"
  | loaded _ _ => "INFO"
  | refused _ => "WARNING"
  | validated _ _ => "INFO"

/-- The channel that a record goes to. -/
def channel : LogRecord → String
  | read _ _ | loaded _ _ => "node_secrets.secrets._loader"
  | refused _ | validated _ _ => "node_secrets.secrets._validator"

/-- The wording of a record. -/
def text : LogRecord → String
  | read pairs source =>
    "Read " ++ toString pairs ++ " secrets field(s) from source " ++ quoted source
  | loaded sources fields =>
    "Loaded secrets from " ++ toString sources ++ " source(s); " ++ toString fields
      ++ " field(s) set"
  | refused report =>
    "Secrets validation failed for role " ++ report.role.name ++ ": "
      ++ Raw.commas (report.issues.map Issue.digest)
  | validated role fields =>
    "Secrets validated for role " ++ role.name ++ " (" ++ toString fields ++ " field(s) present)"

end LogRecord

/-- A result together with the records that were left on the way to it. -/
structure Logged (α : Type) where
  logs : List LogRecord
  result : Except Error α

/-- Goes on with the result of a work that succeeded, its records first. -/
def Logged.andThen {α β : Type} (a : Logged α) (f : α → Logged β) : Logged β :=
  match a.result with
  | .error e => ⟨a.logs, .error e⟩
  | .ok x => ⟨a.logs ++ (f x).logs, (f x).result⟩

/-! ## Last writes -/

/-- What was last written to each credential, in the order of first appearance; `none` clears. -/
abbrev Writes := List (Field × Option String)

namespace Writes

/-- Writes to a credential. -/
def put (w : Writes) (f : Field) (v : Option String) : Writes :=
  match w with
  | [] => [(f, v)]
  | (g, u) :: r => if g = f then (g, v) :: r else (g, u) :: put r f v

/-- What was last written to a credential, if anything was. -/
def last? (w : Writes) (f : Field) : Option (Option String) := w.lookup f

theorem last?_put_self (w : Writes) (f : Field) (v : Option String) :
    (w.put f v).last? f = some v := by
  induction w with
  | nil => simp [put, last?]
  | cons x r ih =>
    obtain ⟨g, u⟩ := x
    unfold put
    split
    · next h => simp [last?, h]
    · next h =>
      have : (f == g) = false := by simpa using fun e : f = g => h e.symm
      simpa [last?, List.lookup_cons, this] using ih

theorem last?_put_of_ne (w : Writes) {f g : Field} (v : Option String) (h : g ≠ f) :
    (w.put f v).last? g = w.last? g := by
  induction w with
  | nil =>
    have : (g == f) = false := by simpa using h
    simp [put, last?, List.lookup_cons, this]
  | cons x r ih =>
    obtain ⟨k, u⟩ := x
    unfold put
    split
    · next hk =>
      subst hk
      have : (g == k) = false := by simpa using h
      simp [last?, List.lookup_cons, this]
    · simp only [last?, List.lookup_cons] at ih ⊢
      split
      · rfl
      · exact ih

end Writes

/-! ## Judging a pair -/

/-- The text of a value for a path: nothing and a blank text are nothing, a wrapper gives way once.
-/
def textOf (path : String) : Raw → Except Error (Option String)
  | .null => .ok none
  | v =>
    match v.unwrap.asText? with
    | some s => .ok (if isBlank s then none else some s)
    | none => .error (.wrongType path v.unwrap.typeName)

/-- What a pair of a source writes. -/
def accept (source : String) (pair : Pair) : Except Error (Field × Option String) :=
  match Field.ofPath? pair.1 with
  | none => .error (.unknownPath pair.1 (some source))
  | some f => (textOf pair.1 pair.2).map fun v => (f, v)

/-! ## The merge -/

/-- Writes the pairs of one source, up to the first that is not accepted. -/
def writePairs (source : String) : Writes → List Pair → Except Error Writes
  | w, [] => .ok w
  | w, pair :: r =>
    match accept source pair with
    | .ok (f, v) => writePairs source (w.put f v) r
    | .error e => .error e

/-- Writes the pairs of all sources, with a record of every source read to its end. -/
def mergeFrom : Writes → List Source → Logged Writes
  | w, [] => ⟨[], .ok w⟩
  | w, source :: r =>
    match writePairs source.name w source.pairs, source.fault with
    | .error e, _ => ⟨[], .error e⟩
    | .ok _, some e => ⟨[], .error e⟩
    | .ok w', none =>
      let rest := mergeFrom w' r
      ⟨.read source.pairs.length source.name :: rest.logs, rest.result⟩

/-- The last writes of all sources. -/
def merge (sources : List Source) : Logged Writes := mergeFrom [] sources

/-! ## The load -/

/-- A last write as a raw value. -/
def writtenRaw : Option String → Raw
  | some s => .text s
  | none => .null

/-- The bundle of a list of writes, in their order. -/
def Bundle.ofWrites (w : Writes) : Bundle :=
  w.foldl (fun b p => b.write p.1 (writtenRaw p.2)) .empty

/-- Loads a bundle from sources; later sources go over earlier ones. -/
def load (sources : List Source) : Logged Bundle :=
  let merged := merge sources
  match merged.result with
  | .error e => ⟨merged.logs, .error e⟩
  | .ok w =>
    let b := Bundle.ofWrites w
    ⟨merged.logs ++ [.loaded sources.length b.present.length], .ok b⟩

theorem load_result (sources : List Source) :
    (load sources).result = (merge sources).result.map Bundle.ofWrites := by
  simp only [load]
  cases (merge sources).result <;> rfl

end Credentials
