import Credentials.Yaml.Token.Property
import Credentials.Yaml.Token.Scalar

/-!
# The tokens of a text

The scanner reads one token after the other. Indentation is turned into tokens that open and close
blocks, and the start of a possible key is kept in mind until a colon shows that it was one: then
the tokens of the key are put in front of it. A key must be on one line and its colon within 1024
characters.

A reader takes tokens as soon as no key in mind may still change them, so a fault that the scanner
meets counts only behind the tokens that were ready before it. A `Stream` says which tokens those
are and what follows them. Where the text has a limit, a round that looks beyond it ends in the
fault that is met there.

The main loop ends because every round shortens the rest of the text.
-/

namespace Credentials.Yaml

open Cursor

/-! ## State -/

/-- The start of a token that a colon may turn into a key. -/
structure KeyStart where
  /-- The number of the token. -/
  position : Nat
  /-- Whether nothing but a key may stand there. -/
  required : Bool
  index : Nat
  line : Nat
  column : Nat

/-- The state of the scanner between two tokens. -/
structure Scanner where
  cursor : Cursor
  /-- The tokens so far, the last one first. -/
  tokens : List Token
  /-- How many tokens there are. -/
  count : Nat
  /-- How many brackets are open. -/
  flow : Int
  /-- The column of the innermost block, and of the blocks around it. -/
  indent : Int
  indents : List Int
  /-- Whether a key may start at the cursor. -/
  keyAllowed : Bool
  /-- The key starts in mind, by the number of open brackets. -/
  keys : List (Int × KeyStart)
  /-- How many tokens are ready. -/
  ready : Nat

/-- Tokens in order, and the fault behind them if there is one. -/
structure Stream where
  tokens : List Token
  fault : Option DocumentFault

namespace Scanner

/-- At the start of a text. -/
def ofChars (cs : List Char) : Scanner := ⟨.ofChars cs, [], 0, 0, -1, [], true, [], 0⟩

/-- Whether brackets are open. -/
def inFlow (s : Scanner) : Bool := s.flow != 0

/-- With one more token. -/
def add (s : Scanner) (t : Token) : Scanner :=
  { s with tokens := t :: s.tokens, count := s.count + 1 }

/-- With one more token at a cursor's line. -/
def push (s : Scanner) (kind : TokenKind) (c : Cursor) : Scanner := s.add ⟨kind, c.line⟩

/-- With one more token in front of the token of a number. -/
def insert (s : Scanner) (position : Nat) (t : Token) : Scanner :=
  let (behind, before) := s.tokens.splitAt (s.count - position)
  { s with tokens := behind ++ t :: before, count := s.count + 1 }

/-! ## Keys in mind -/

/-- Whether the colon of a key may no longer come. -/
def isStale (c : Cursor) (k : KeyStart) : Bool := k.line != c.line || k.index + 1024 < c.index

/-- Forgets the keys whose colon may no longer come; a required one is a fault. -/
def dropStale (s : Scanner) : Reading Scanner :=
  if s.keys.any fun p => isStale s.cursor p.2 && p.2.required then malformedAt s.cursor
  else .ok { s with keys := s.keys.filter fun p => !isStale s.cursor p.2 }

/-- The key start in mind at the present depth. -/
def keyHere (s : Scanner) : Option KeyStart := s.keys.lookup s.flow

/-- Without a key start at the present depth. -/
def withoutKey (s : Scanner) : Scanner := { s with keys := s.keys.filter (·.1 != s.flow) }

/-- Forgets the key start at the present depth; a required one is a fault. -/
def dropKey (s : Scanner) : Reading Scanner :=
  if s.keyHere.any (·.required) then malformedAt s.cursor else .ok s.withoutKey

/-- Keeps the next token in mind as a possible key. -/
def saveKey (s : Scanner) : Reading Scanner :=
  if s.keyAllowed then do
    let s ← s.dropKey
    let c := s.cursor
    let k : KeyStart :=
      ⟨s.count, !s.inFlow && s.indent == c.column, c.index, c.line, c.column⟩
    return { s with keys := (s.flow, k) :: s.keys }
  else .ok s

/-! ## Blocks -/

/-- Closes the blocks that are indented further than a column; brackets keep them open. -/
def unwind (column : Int) (s : Scanner) : Scanner :=
  if s.inFlow then s else go s.indents s
where
  /-- Closes blocks along the columns of the blocks around them. -/
  go : List Int → Scanner → Scanner
    | [], s => s
    | outer :: r, s =>
      if column < s.indent then
        go r { s.push .blockEnd s.cursor with indent := outer, indents := r }
      else s

/-- Opens a block at a column if it is indented further than the present one. -/
def openBlock (column : Nat) (s : Scanner) : Bool × Scanner :=
  if s.indent < column then
    (true, { s with indents := s.indent :: s.indents, indent := column })
  else (false, s)

/-- Opens a block here, with its token. -/
def openBlockHere (kind : TokenKind) (s : Scanner) : Scanner :=
  match s.openBlock s.cursor.column with
  | (true, s) => s.push kind s.cursor
  | (false, s) => s

/-! ## One token -/

/-- Past blanks, comments and line ends. Outside brackets, a key may start on a new line. -/
def toNextToken (s : Scanner) : Scanner :=
  let c := s.cursor
  let start := if c.index = 0 && c.at? (Char.ofNat 0xFEFF) then c.step else c
  let (crossed, c) := skip start
  { s with cursor := c, keyAllowed := s.keyAllowed || (crossed && !s.inFlow) }
where
  /-- Past blanks, comments and line ends, and whether there was a line end. -/
  skip (c : Cursor) : Bool × Cursor :=
    match _h : (c.skipWhile (· == ' ')).skipComment.lineBreak? with
    | some (_, c') => (true, (skip c').2)
    | none => (false, (c.skipWhile (· == ' ')).skipComment)
  termination_by c.rest.length
  decreasing_by
    have h₁ := length_rest_lineBreak?_lt _h
    have h₂ := length_rest_skipComment_le (c.skipWhile (· == ' '))
    have h₃ := length_rest_skipWhile_le (· == ' ') c
    omega

/-- A token of a given number of characters. -/
def mark (kind : TokenKind) (width : Nat) (s : Scanner) : Scanner :=
  { s.push kind s.cursor with cursor := advance width s.cursor }

/-- A mark between documents, or the end of the text: all blocks are closed. -/
def betweenDocuments (s : Scanner) : Reading Scanner := do
  let s ← (s.unwind (-1)).dropKey
  return { s with keyAllowed := false }

/-- An opening bracket. -/
def openBracket (kind : TokenKind) (s : Scanner) : Reading Scanner := do
  let s ← s.saveKey
  return mark kind 1 { s with flow := s.flow + 1, keyAllowed := true }

/-- A closing bracket. -/
def closeBracket (kind : TokenKind) (s : Scanner) : Reading Scanner := do
  let s ← s.dropKey
  return mark kind 1 { s with flow := s.flow - 1, keyAllowed := false }

/-- A comma between brackets. -/
def flowEntry (s : Scanner) : Reading Scanner := do
  let s ← dropKey { s with keyAllowed := true }
  return mark .flowEntry 1 s

/-- The dash of a sequence's entry. -/
def blockEntry (s : Scanner) : Reading Scanner := do
  let s ←
    if s.inFlow then pure s
    else if s.keyAllowed then pure (s.openBlockHere .blockSequenceStart)
    else malformedAt s.cursor
  let s ← dropKey { s with keyAllowed := true }
  return mark .blockEntry 1 s

/-- The question mark of a key. -/
def explicitKey (s : Scanner) : Reading Scanner := do
  let s ←
    if s.inFlow then pure s
    else if s.keyAllowed then pure (s.openBlockHere .blockMappingStart)
    else malformedAt s.cursor
  let s ← dropKey { s with keyAllowed := !s.inFlow }
  return mark .key 1 s

/-- The colon of a value. A key start in mind becomes a key: its token, and the token of the block
that it opens, go in front of it. -/
def valueMark (s : Scanner) : Reading Scanner :=
  match s.keyHere with
  | some k =>
    let s := s.withoutKey
    let s := s.insert k.position ⟨.key, k.line⟩
    -- the block opens in front of its first key, so its token goes to the same place afterwards
    let s :=
      if s.inFlow then s
      else match s.openBlock k.column with
        | (true, s) => s.insert k.position ⟨.blockMappingStart, k.line⟩
        | (false, s) => s
    .ok (mark .value 1 { s with keyAllowed := false })
  | none => do
    let s ←
      if s.inFlow then pure s
      else if s.keyAllowed then pure (s.openBlockHere .blockMappingStart)
      else malformedAt s.cursor
    let s ← dropKey { s with keyAllowed := !s.inFlow }
    return mark .value 1 s

/-- A token that may start a key, read by a scanner of its own. -/
def keyable (read : Cursor → Reading (Token × Cursor)) (s : Scanner) : Reading Scanner := do
  let s ← s.saveKey
  let (t, c) ← read s.cursor
  return { s.add t with cursor := c, keyAllowed := false }

/-- A scanner of a name as the scanner of a token. -/
def named (kind : String → TokenKind) (c : Cursor) : Reading (Token × Cursor) :=
  (anchorName c).map fun p => (⟨kind p.1, c.line⟩, p.2)

/-- A block scalar: it starts no key, but one may follow it. -/
def blockText (folded : Bool) (s : Scanner) : Reading Scanner := do
  let s ← dropKey { s with keyAllowed := true }
  let (t, c) ← blockScalar folded s.indent s.cursor
  return { s.add t with cursor := c }

/-- A plain scalar; a key may follow it on a new line. -/
def plainText (s : Scanner) : Reading Scanner := do
  let s ← s.saveKey
  let (t, crossed, c) := plainScalar s.inFlow (s.indent + 1) s.cursor
  return { s.add t with cursor := c, keyAllowed := crossed }

/-- Whether a plain scalar may start here. -/
def startsPlain (s : Scanner) : Bool :=
  match s.cursor.peek with
  | none => false
  | some x =>
    !(isBreak x || isSpace x || "-?:,[]\x7b\x7d#&*!|>'\"%@\x60".toList.contains x)
      || (!isGap (s.cursor.peekAt 1) && (x == '-' || (!s.inFlow && (x == '?' || x == ':'))))

/-- With the looks that it takes to tell what a character starts: three marks at the start of a line
may part documents, and of some marks the next character decides. -/
def lookAround (s : Scanner) (x : Char) : Scanner :=
  let c := s.cursor
  let c := if c.column = 0 ∧ (x = '-' ∨ x = '.') then c.lookForMark else c
  let c := if x = '-' ∨ (!s.inFlow ∧ (x = '?' ∨ x = ':')) then c.look 1 else c
  { s with cursor := c }

/-- The token at the cursor, which is not at the end of the text. -/
def nextToken (s : Scanner) (x : Char) : Reading Scanner :=
  let s := s.lookAround x
  let c := s.cursor
  let startsLine := c.column = 0
  let gapFollows := isGap (c.peekAt 1)
  if x = '%' ∧ startsLine then do
    let s ← s.betweenDocuments
    let (t, c) ← directiveToken s.cursor
    return { s.add t with cursor := c }
  else if startsLine ∧ c.separator? '-' then return mark .documentStart 3 (← s.betweenDocuments)
  else if startsLine ∧ c.separator? '.' then return mark .documentEnd 3 (← s.betweenDocuments)
  else if x = '[' then s.openBracket .flowSequenceStart
  else if x = '\x7b' then s.openBracket .flowMappingStart
  else if x = ']' then s.closeBracket .flowSequenceEnd
  else if x = '\x7d' then s.closeBracket .flowMappingEnd
  else if x = ',' then s.flowEntry
  -- a mark that nothing parts from what follows is the start of a plain scalar
  else if x = '-' ∧ gapFollows then s.blockEntry
  else if x = '?' ∧ (s.inFlow ∨ gapFollows) then s.explicitKey
  else if x = ':' ∧ (s.inFlow ∨ gapFollows) then s.valueMark
  else if x = '*' then s.keyable (named .alias)
  else if x = '&' then s.keyable (named .anchor)
  else if x = '!' then s.keyable tagToken
  else if x = '|' ∧ !s.inFlow then s.blockText false
  else if x = '>' ∧ !s.inFlow then s.blockText true
  else if x = '\'' then s.keyable (quotedScalar false)
  else if x = '"' then s.keyable (quotedScalar true)
  else if s.startsPlain then s.plainText
  else malformedAt (c.look 1)

/-! ## The stream -/

/-- Counts the tokens that no key in mind may still change; before that, forgets stale keys if a
token is waiting. -/
def settle (s : Scanner) : Reading Scanner :=
  if s.ready < s.count then do
    let s ← s.dropStale
    -- a key in mind may still put tokens in front of its own place
    let limit := s.keys.foldl (fun n p => min n p.2.position) s.count
    return { s with ready := max s.ready limit }
  else .ok s

/-- The stream that ends in a fault behind the tokens that are ready. -/
def stop (s : Scanner) (e : DocumentFault) : Stream := ⟨s.tokens.reverse.take s.ready, some e⟩

/-- One round: settles, moves to the next token and closes the blocks that end before it. The state
is given back also where a fault ends the round. -/
def approach (s : Scanner) : Scanner × Reading Scanner :=
  match s.settle with
  | .error e => (s, .error e)
  | .ok s =>
    (s, do
      let s ← s.toNextToken.dropStale
      return s.unwind s.cursor.column)

/-- The tokens from here on, of a text that may have a limit. -/
def run (limit : Option Limit) (s : Scanner) : Stream :=
  match s.approach with
  | (settled, .error h) => settled.stop (h.within limit)
  | (settled, .ok there) =>
    match there.cursor.peek with
    | none =>
      match there.betweenDocuments with
      | .error h => settled.stop (h.within limit)
      | .ok done =>
        match Limit.faultAt limit done.cursor.seen with
        | some e => settled.stop e
        | none => ⟨(done.push .streamEnd done.cursor).tokens.reverse, none⟩
    | some x =>
      match there.nextToken x with
      | .error h => settled.stop (h.within limit)
      | .ok next =>
        match Limit.faultAt limit next.cursor.seen with
        | some e => settled.stop e
        | none =>
          -- every token takes a character, so the second branch is never taken
          if _h : next.cursor.rest.length < s.cursor.rest.length then run limit next
          else settled.stop (.malformed (next.cursor.line + 1))
termination_by s.cursor.rest.length

end Scanner

/-- The tokens of a text, which may have a limit. -/
def Stream.ofChars (limit : Option Limit) (cs : List Char) : Stream :=
  (Scanner.ofChars cs).run limit

end Credentials.Yaml
