import Credentials.Text.Character
import Credentials.Yaml.Token.Basic

/-!
# Scanning scalars

Quoted, plain and block scalars. Line ends inside a quoted or plain scalar are folded: one counts as
a space, of several the first is dropped. A block scalar keeps them or folds them by its own rules.
Texts are made of scalar values, so half a surrogate pair cannot be written by an escape
(`characterOf`).

Each loop ends because the rest of the text gets shorter; where that hangs on another scanner, the
loop stops at a step without progress.
-/

namespace Credentials.Yaml

open Cursor Text

/-! ## Quoted scalars -/

/-- The line ends from here on, past the blanks around them; a mark between documents is a fault. -/
def quotedBreaks (c : Cursor) : Reading (List Char × Cursor) :=
  if c.documentMark? then malformedAt c.lookForMark
  else
    match _h : (c.lookForMark.skipWhile isSpace).lineBreak? with
    | some (x, c') => (quotedBreaks c').map fun p => (x :: p.1, p.2)
    | none => .ok ([], c.lookForMark.skipWhile isSpace)
termination_by c.rest.length
decreasing_by
  exact Nat.lt_of_lt_of_le (length_rest_lineBreak?_lt _h) (length_rest_skipWhile_le _ _)

/-- A first line end and the ones after it, folded. -/
def fold (first : Char) (more : List Char) : List Char :=
  if first ≠ '\n' then first :: more else if more.isEmpty then [' '] else more

/-- Blanks inside quotes, with the line ends among them folded. -/
def quotedBlanks (c : Cursor) : Reading (List Char × Cursor) := do
  let (blanks, c) := c.takeWhile isSpace
  match c.lineBreak? with
  | some (x, c) =>
    let (more, c) ← quotedBreaks c
    return (fold x more, c)
  | none => if c.rest.isEmpty then malformedAt c else return (blanks, c)

/-- The characters that a backslash and one letter stand for. -/
def simpleEscape? (c : Char) : Option Char :=
  match c with
  | '0' => some (Char.ofNat 0)
  | 'a' => some (Char.ofNat 7)
  | 'b' => some (Char.ofNat 8)
  | 't' | '\t' => some '\t'
  | 'n' => some '\n'
  | 'v' => some (Char.ofNat 11)
  | 'f' => some (Char.ofNat 12)
  | 'r' => some '\r'
  | 'e' => some (Char.ofNat 27)
  | ' ' => some ' '
  | '"' => some '"'
  | '\\' => some '\\'
  | '/' => some '/'
  | 'N' => some (Char.ofNat 0x85)
  | '_' => some (Char.ofNat 0xA0)
  | 'L' => some (Char.ofNat 0x2028)
  | 'P' => some (Char.ofNat 0x2029)
  | _ => none

/-- How many hexadecimal digits follow the letter of a code point. -/
def escapeWidth? (c : Char) : Option Nat :=
  match c with
  | 'x' => some 2
  | 'u' => some 4
  | 'U' => some 8
  | _ => none

/-- The number that hexadecimal digits spell. -/
def hexNumber (cs : List Char) : Option Nat :=
  cs.foldlM (fun n c => (hexValue? c).map fun d => n * 16 + d) 0

/-- The character of a code point, if there is one. Texts hold scalar values only: what stands here
for a code point from D800 to DFFF, which is none, is the character of the code point zero, and
nothing is said about such escapes beyond that. -/
def characterOf (n : Nat) : Except ScalarFault Char :=
  if Nat.pow 2 31 ≤ n then .error .characterOverflow
  else if 0x10FFFF < n then .error .characterRange
  else .ok (Char.ofNat n)

/-- What stands after a backslash. -/
def escape (c : Cursor) : Reading (List Char × Cursor) :=
  match c.rest with
  | [] => malformedAt c
  | x :: r =>
    match simpleEscape? x with
    | some y => .ok ([y], c.step)
    | none =>
      match escapeWidth? x with
      | some width =>
        let digits := (r.take width).takeWhile fun d => (hexValue? d).isSome
        match if digits.length = width then hexNumber digits else none with
        | some n =>
          match characterOf n with
          | .ok y => .ok ([y], advance width c.step)
          | .error fault => haltAt (c.look width) (.unconvertible fault)
        | none => malformedAt (c.look (digits.length + 1))
      | none =>
        match c.lineBreak? with
        | some (_, c') => quotedBreaks c'
        | none => malformedAt c

/-- The content of a quoted scalar, from behind the opening quote; `before` is what was read, last
character first. -/
def quotedContent (double : Bool) (before : List Char) (c : Cursor) : Reading (String × Cursor) :=
  match _hc : c.rest with
  | [] => malformedAt c
  | x :: r =>
    if x = (if double then '"' else '\'') then
      -- two single quotes in a row stand for one
      if !double && r.head? == some '\'' then
        if _h : (advance 2 c).rest.length < c.rest.length then
          quotedContent double ('\'' :: before) (advance 2 c)
        else malformedAt c
      else .ok (String.ofList before.reverse, c.step)
    else if double && x == '\\' then
      match escape c.step with
      | .error e => .error e
      | .ok (cs, c') =>
        if _h : c'.rest.length < c.rest.length then quotedContent double (cs.reverse ++ before) c'
        else malformedAt c
    else if isSpace x || isBreak x then
      match quotedBlanks c with
      | .error e => .error e
      | .ok (cs, c') =>
        if _h : c'.rest.length < c.rest.length then quotedContent double (cs.reverse ++ before) c'
        else malformedAt c
    else quotedContent double (x :: before) c.step
termination_by c.rest.length
decreasing_by
  all_goals first
    | assumption
    | exact length_rest_step_lt (by simp [_hc])

/-- A quoted scalar, from its opening quote. -/
def quotedScalar (double : Bool) (c : Cursor) : Reading (Token × Cursor) := do
  let (text, c') ← quotedContent double [] c.step
  return (⟨.scalar text false, c.line⟩, c')

/-! ## Plain scalars -/

/-- Whether a colon ends a plain scalar: before a gap and, inside brackets, before a bracket or
comma. -/
def endsPlain (flow : Bool) (next : Option Char) : Bool :=
  isGap next || flow && next.any ",[]\x7b\x7d".toList.contains

/-- The characters of a plain scalar up to a blank or an end. -/
def plainRun (flow : Bool) : List Char → List Char
  | [] => []
  | x :: r =>
    if isSpace x || isBreak x then []
    else if x == ':' && endsPlain flow r.head? then []
    -- inside brackets a question mark ends the scalar too
    else if flow && ",?[]\x7b\x7d".toList.contains x then []
    else x :: plainRun flow r

/-- The line ends from here on with the spaces around them; nothing at a mark between documents. -/
def plainBreaks (c : Cursor) : Option (List Char) × Cursor :=
  if c.documentMark? then (none, c.lookForMark)
  else
    match _h : (c.lookForMark.skipWhile (· == ' ')).lineBreak? with
    | some (x, c') =>
      let p := plainBreaks c'
      (p.1.map (x :: ·), p.2)
    | none => (some [], c.lookForMark.skipWhile (· == ' '))
termination_by c.rest.length
decreasing_by
  exact Nat.lt_of_lt_of_le (length_rest_lineBreak?_lt _h) (length_rest_skipWhile_le _ _)

/-- The blanks after a run of a plain scalar, folded, and whether they cross a line end. -/
def plainBlanks (c : Cursor) : List Char × Bool × Cursor :=
  let (blanks, c) := c.takeWhile (· == ' ')
  match c.lineBreak? with
  | some (x, c) =>
    let (more, c) := plainBreaks c
    ((more.map (fold x)).getD [], true, c)
  | none => (blanks, false, c)

/-- The content of a plain scalar and whether the cursor has crossed a line end since its last run;
`blanks` stand between what was read and the next run. -/
def plainContent (flow : Bool) (indent : Int) (before blanks : List Char) (crossed : Bool)
    (c : Cursor) :
    String × Bool × Cursor :=
  let run := plainRun flow c.rest
  let there := advance run.length c
  -- whether a colon ends the run shows behind it
  let next := if there.at? ':' then there.look 1 else there
  if c.at? '#' then (String.ofList before.reverse, crossed, c)
  else if run.isEmpty then (String.ofList before.reverse, crossed, next)
  else
    let read := run.reverse ++ (blanks.reverse ++ before)
    let (blanks', crossed', c') := plainBlanks next
    if blanks'.isEmpty || c'.at? '#' || (!flow && c'.column < indent) then
      (String.ofList read.reverse, crossed', c')
    else if _h : c'.rest.length < c.rest.length then
      plainContent flow indent read blanks' crossed' c'
    else (String.ofList read.reverse, crossed', c')
termination_by c.rest.length

/-- A plain scalar, and whether a line end follows it. -/
def plainScalar (flow : Bool) (indent : Int) (c : Cursor) : Token × Bool × Cursor :=
  let (text, crossed, c') := plainContent flow indent [] [] false c
  (⟨.scalar text true, c.line⟩, crossed, c')

/-! ## Block scalars -/

/-- How the line ends after a block scalar are treated. -/
inductive Chomping where
  | clip
  | strip
  | keep
  deriving DecidableEq, Repr

/-- The sign of a chomping, if the cursor is at one. -/
def chomping? (c : Cursor) : Option (Chomping × Cursor) :=
  if c.at? '+' then some (.keep, c.step) else if c.at? '-' then some (.strip, c.step) else none

/-- The digit of an indentation, if the cursor is at one; zero is a fault. -/
def increment? (c : Cursor) : Reading (Option (Nat × Cursor)) :=
  match c.peek with
  | some x =>
    if x.isDigit then
      if x == '0' then malformedAt c else .ok (some (x.toNat - '0'.toNat, c.step))
    else .ok none
  | none => .ok none

/-- The signs after the mark of a block scalar, in either order. -/
def blockHeader (c : Cursor) : Reading ((Chomping × Option Nat) × Cursor) := do
  let (header, c) ←
    match chomping? c with
    | some (ch, c) =>
      match ← increment? c with
      | some (n, c) => pure ((ch, some n), c)
      | none => pure ((ch, none), c)
    | none =>
      match ← increment? c with
      | some (n, c) =>
        match chomping? c with
        | some (ch, c) => pure ((ch, some n), c)
        | none => pure ((.clip, some n), c)
      | none => pure ((.clip, none), c)
  require c (endsWord c.peek)
  return (header, c)

/-- The rest of a line on which only a comment may stand. -/
def emptyLine (c : Cursor) : Reading Cursor := do
  let c := (c.skipWhile (· == ' ')).skipComment
  require c (endsLine c.peek)
  return c.skipBreak

/-- The blank lines at the start of a block scalar, and the widest indentation among them and the
first line with content. -/
def leadingBreaks (widest : Nat) (c : Cursor) : List Char × Nat × Cursor :=
  let c₁ := c.skipWhile (· == ' ')
  let widest := if c.at? ' ' then max widest c₁.column else widest
  match _h : (c.skipWhile (· == ' ')).lineBreak? with
  | some (x, c') =>
    let (more, widest, c) := leadingBreaks widest c'
    (x :: more, widest, c)
  | none => ([], widest, c₁)
termination_by c.rest.length
decreasing_by
  exact Nat.lt_of_lt_of_le (length_rest_lineBreak?_lt _h) (length_rest_skipWhile_le _ _)

/-- Past spaces up to a column. -/
def indentTo (column : Nat) (c : Cursor) : Cursor :=
  advance ((c.rest.takeWhile (· == ' ')).take (column - c.column)).length c

/-- The blank lines from here on, each past its indentation. -/
def blockBreaks (indent : Nat) (c : Cursor) : List Char × Cursor :=
  match _h : (indentTo indent c).lineBreak? with
  | some (x, c') =>
    let (more, c) := blockBreaks indent c'
    (x :: more, c)
  | none => ([], indentTo indent c)
termination_by c.rest.length
decreasing_by
  exact Nat.lt_of_lt_of_le (length_rest_lineBreak?_lt _h) (length_rest_advance_le _ _)

/-- What a line end stands for between two lines of a block scalar. -/
def blockJoin (folded : Bool) (lineBreak : Char) (spacedBefore spacedAfter : Bool)
    (blankLines : List Char) : List Char :=
  if folded && lineBreak == '\n' && !spacedBefore && !spacedAfter then
    if blankLines.isEmpty then [' '] else []
  else [lineBreak]

/-- The lines of a block scalar, last character first, then the line end and the blank lines after
the last of them; `breaks` are the blank lines before the next one. -/
def blockLines (folded : Bool) (indent : Nat) (before breaks : List Char) (c : Cursor) :
    List Char × Option Char × List Char × Cursor :=
  let spaced := c.sees isSpace
  let (line, c₁) := c.takeWhile (!isBreak ·)
  let read := line.reverse ++ (breaks.reverse ++ before)
  match c₁.lineBreak? with
  | none => (read, none, [], c₁)
  | some (x, c₂) =>
    let (breaks', c') := blockBreaks indent c₂
    if c'.column == indent && !c'.rest.isEmpty then
      if _h : c'.rest.length < c.rest.length then
        blockLines folded indent
          ((blockJoin folded x spaced (c'.sees isSpace) breaks').reverse ++ read) breaks' c'
      else (read, some x, breaks', c')
    else (read, some x, breaks', c')
termination_by c.rest.length

/-- A block scalar, from its mark; `parent` is the column of the block around it. -/
def blockScalar (folded : Bool) (parent : Int) (c : Cursor) : Reading (Token × Cursor) := do
  let ((chomping, increment), c₁) ← blockHeader c.step
  let c₂ ← emptyLine c₁
  let least := max 1 (parent + 1).toNat
  -- a written indentation counts from the block around it; otherwise the first line decides
  let (breaks, indent, c₃) :=
    match increment with
    | some n =>
      let indent := least + n - 1
      let (breaks, c₃) := blockBreaks indent c₂
      (breaks, indent, c₃)
    | none =>
      let (breaks, widest, c₃) := leadingBreaks 0 c₂
      (breaks, max least widest, c₃)
  let (read, last, breaks, c₄) :=
    if c₃.column == indent && !c₃.rest.isEmpty then blockLines folded indent [] breaks c₃
    else ([], none, breaks, c₃)
  let tail := match chomping with
    | .strip => []
    | .clip => last.toList
    | .keep => last.toList ++ breaks
  return (⟨.scalar (String.ofList (read.reverse ++ tail)) false, c.line⟩, c₄)

end Credentials.Yaml
