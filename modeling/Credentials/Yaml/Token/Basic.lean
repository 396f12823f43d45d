import Credentials.Error
import Credentials.Yaml.Cursor

/-!
# Tokens of a document

A token and the line, counted from zero, on which it starts. `Scan` is the outcome of reading a part
of a document: a result or the document's fault. Reading characters (`Reading`) yields the cursor
behind the result, and a fault comes with the furthest place that was looked at: the text may be
there only up to a `Limit`, and who looks further meets another fault instead.
-/

namespace Credentials.Yaml

/-- A directive in front of a document. -/
inductive Directive where
  | version (major minor : Nat)
  | handle (name pre : String)
  | other
  deriving DecidableEq, Repr

/-- The sort and content of a token. -/
inductive TokenKind where
  | directive (d : Directive)
  | documentStart
  | documentEnd
  | streamEnd
  | blockSequenceStart
  | blockMappingStart
  | blockEnd
  | flowSequenceStart
  | flowSequenceEnd
  | flowMappingStart
  | flowMappingEnd
  | blockEntry
  | flowEntry
  | key
  | value
  | alias (name : String)
  | anchor (name : String)
  | tag (handle : Option String) (suffix : String)
  | scalar (text : String) (plain : Bool)
  deriving DecidableEq, Repr

/-- A token. -/
structure Token where
  kind : TokenKind
  line : Nat
  deriving DecidableEq, Repr

/-- The outcome of reading a part of a document. -/
abbrev Scan := Except DocumentFault

/-- A fault and the furthest place that was looked at before it was found. -/
structure Halt where
  fault : DocumentFault
  seen : Nat
  deriving DecidableEq, Repr

/-- The outcome of reading characters of a document. -/
abbrev Reading := Except Halt

/-- A fault at a cursor. -/
def haltAt {α : Type} (c : Cursor) (fault : DocumentFault) : Reading α := .error ⟨fault, c.seen⟩

/-- The document is malformed here. -/
def malformedAt {α : Type} (c : Cursor) : Reading α := haltAt c (.malformed (c.line + 1))

/-- Goes on from a cursor if a condition holds there. -/
def require (c : Cursor) (condition : Bool) : Reading Unit :=
  if condition then .ok () else malformedAt c

/-- The place from which on there is no text, and what is met there. -/
structure Limit where
  place : Nat
  fault : DocumentFault
  deriving DecidableEq, Repr

/-- The fault in place of one that was found after a look at a place. -/
def Halt.within (h : Halt) (limit : Option Limit) : DocumentFault :=
  match limit with
  | some l => if l.place ≤ h.seen then l.fault else h.fault
  | none => h.fault

/-- The fault of a look at a place, if there is no text. -/
def Limit.faultAt (limit : Option Limit) (seen : Nat) : Option DocumentFault :=
  limit.bind fun l => if l.place ≤ seen then some l.fault else none

end Credentials.Yaml
