import Credentials.Decimal.Reading
import Credentials.Yaml.Token.Basic

/-!
# Scanning anchors, tags and directives

The small tokens in front of a value or of a document. A name is a run of letters, digits, hyphens
and underscores; a tag is a handle and a suffix, where a percent sign stands in front of the two
digits of a byte of UTF-8.
-/

namespace Credentials.Yaml

open Cursor Text

/-! ## Anchors and aliases -/

/-- Whether a character may follow the name of an anchor. -/
def endsAnchor (next : Option Char) : Bool :=
  isGap next || next.any "?:,]\x7d%@\x60".toList.contains

/-- The name of an anchor or alias, from its mark. -/
def anchorName (c : Cursor) : Reading (String × Cursor) := do
  let (name, c) := c.step.takeWhile isNameChar
  require c (!name.isEmpty && endsAnchor c.peek)
  return (String.ofList name, c)

/-! ## Tags -/

/-- The bytes written with percent signs from here on. -/
def escapedBytes (c : Cursor) : Reading (List UInt8 × Cursor) :=
  match _h : c.rest with
  | '%' :: a :: b :: _ =>
    match hexValue? a, hexValue? b with
    | some x, some y =>
      (escapedBytes (advance 3 c)).map fun p => (UInt8.ofNat (16 * x + y) :: p.1, p.2)
    | none, _ => malformedAt (c.look 1)
    | _, none => malformedAt (c.look 2)
  | '%' :: a :: _ => malformedAt (c.look (if (hexValue? a).isSome then 2 else 1))
  | '%' :: _ => malformedAt (c.look 1)
  | _ => .ok ([], c)
termination_by c.rest.length
decreasing_by
  have h₁ := length_rest_step c
  have h₂ := length_rest_advance_le 2 c.step
  have h₃ : 0 < c.rest.length := by simp [_h]
  change (advance 2 c.step).rest.length < c.rest.length
  omega

/-- Bytes as characters, if they are UTF-8. -/
def decoded? (bs : List UInt8) : Option String := String.fromUTF8? ⟨bs.toArray⟩

/-- The suffix of a tag, or the prefix that a directive gives to a handle. -/
def uri (before : List Char) (c : Cursor) : Reading (String × Cursor) :=
  let (run, c₁) := c.takeWhile fun x => isUriChar x && x != '%'
  let read := run.reverse ++ before
  if c₁.at? '%' then
    match escapedBytes c₁ with
    | .error e => .error e
    | .ok (bs, c₂) =>
      match decoded? bs with
      | none => malformedAt { c₁ with seen := c₂.seen }
      | some s =>
        if _h : c₂.rest.length < c.rest.length then uri (s.toList.reverse ++ read) c₂
        else malformedAt c₂
  else if read.isEmpty then malformedAt c₁
  else .ok (String.ofList read.reverse, c₁)
termination_by c.rest.length

/-- A handle: an exclamation mark by itself, or a name between two of them. -/
def tagHandle (c : Cursor) : Reading (String × Cursor) := do
  require c (c.at? '!')
  if c.peekAt 1 == some ' ' then return ("!", c.step)
  let (name, c) := c.step.takeWhile isNameChar
  require c (c.at? '!')
  return (String.ofList ('!' :: name ++ ['!']), c.step)

/-- Whether a second exclamation mark follows before the end of the word, with the looks that it
takes to find out. -/
def handleAhead (c : Cursor) : Bool × Cursor :=
  let between := c.step.rest.takeWhile fun x => !endsWord (some x) && x != '!'
  let next := between.length + 1
  (c.peekAt next == some '!', c.look next)

/-- A tag, from its exclamation mark. -/
def tagToken (c : Cursor) : Reading (Token × Cursor) := do
  let ((handle, suffix), c') ←
    if c.peekAt 1 == some '<' then do
      let (suffix, c) ← uri [] (advance 2 c)
      require c (c.at? '>')
      pure (((none : Option String), suffix), c.step)
    else if isGap (c.peekAt 1) then pure ((none, "!"), c.step)
    else do
      let (named, c) := handleAhead c
      let (handle, c) ← if named then tagHandle c else pure ("!", c.step)
      let (suffix, c) ← uri [] c
      pure ((some handle, suffix), c)
  require c' (endsWord c'.peek)
  return (⟨.tag handle suffix, c.line⟩, c')

/-! ## Directives -/

/-- A run of digits, which may be as long as the digits of an integer. -/
def digitsHere (c : Cursor) : Reading (Nat × Cursor) := do
  let (ds, c') := c.takeWhile Char.isDigit
  require c (!ds.isEmpty)
  if Decimal.digitLimit < ds.length then haltAt c' (.unconvertible (.longInt ds.length))
  return (ds.foldl (fun n d => n * 10 + (d.toNat - '0'.toNat)) 0, c')

/-- The version in a directive. -/
def versionDirective (c : Cursor) : Reading (Directive × Cursor) := do
  let (major, c) ← digitsHere (c.skipWhile (· == ' '))
  require c (c.at? '.')
  let (minor, c) ← digitsHere c.step
  require c (endsWord c.peek)
  return (.version major minor, c)

/-- The handle and prefix in a directive. -/
def handleDirective (c : Cursor) : Reading (Directive × Cursor) := do
  let (name, c) ← tagHandle (c.skipWhile (· == ' '))
  require c (c.at? ' ')
  let (pre, c) ← uri [] (c.skipWhile (· == ' '))
  require c (endsWord c.peek)
  return (.handle name pre, c)

/-- A directive with the rest of its line, from its percent sign. -/
def directiveToken (c : Cursor) : Reading (Token × Cursor) := do
  let (name, c₁) := c.step.takeWhile isNameChar
  require c₁ (!name.isEmpty && endsWord c₁.peek)
  let (d, c₂) ←
    if name = "YAML".toList then versionDirective c₁
    else if name = "TAG".toList then handleDirective c₁
    else pure (.other, c₁.skipWhile (!isBreak ·))
  let c₃ := (c₂.skipWhile (· == ' ')).skipComment
  require c₃ (endsLine c₃.peek)
  return (⟨.directive d, c.line⟩, c₃.skipBreak)

end Credentials.Yaml
