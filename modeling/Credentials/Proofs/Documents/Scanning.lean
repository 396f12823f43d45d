import Credentials.Proofs.Documents.Ends
import Credentials.Yaml.Token.Stream

/-!
# Faults of the scanner

What the scanner finds wrong by itself is that a document is malformed, that a version is too long a
number, or that a code point is out of range; anything else behind its tokens is what the supply of
the text ends in. The lemmas follow the scanner function by function.

Main statement: `fault_ofChars`.
-/

namespace Credentials.Yaml

open Cursor

/-! ## Faults -/

/-- A number that the scanner has no use for: of a version, or of a code point. -/
inductive OutOfRange : ScalarFault → Prop
  | version (digits : Nat) : OutOfRange (.longInt digits)
  | codePoint : OutOfRange .characterRange
  | codeWord : OutOfRange .characterOverflow

/-- A fault that the scanner finds by itself. -/
inductive OfScanner : DocumentFault → Prop
  | malformed (line : Nat) : OfScanner (.malformed line)
  | outOfRange {f : ScalarFault} (h : OutOfRange f) : OfScanner (.unconvertible f)

/-- Reading that fails with faults of the scanner alone. -/
abbrev Scans {α : Type} (x : Reading α) : Prop := FailsOnly (fun h : Halt => OfScanner h.fault) x

/-- A fault behind the tokens of a text: one that the scanner finds, or the one at the limit of the
text. -/
def Behind (limit : Option Limit) (f : DocumentFault) : Prop :=
  OfScanner f ∨ ∃ l, limit = some l ∧ f = l.fault

theorem behind_within {limit : Option Limit} {h : Halt} (hs : OfScanner h.fault) :
    Behind limit (h.within limit) := by
  unfold Halt.within
  split
  · next l =>
    split
    · exact .inr ⟨l, rfl, rfl⟩
    · exact .inl hs
  · exact .inl hs

theorem behind_faultAt {limit : Option Limit} {seen : Nat} {f : DocumentFault}
    (h : Limit.faultAt limit seen = some f) : Behind limit f := by
  obtain ⟨l, hl, hf⟩ := Option.bind_eq_some_iff.mp h
  split at hf
  · exact .inr ⟨l, hl, (Option.some.inj hf).symm⟩
  · cases hf

variable {α : Type}

theorem scans_malformedAt (c : Cursor) : Scans (malformedAt c : Reading α) :=
  .error (.malformed _)

theorem scans_require (c : Cursor) (condition : Bool) : Scans (require c condition) := by
  unfold require
  split
  · exact .ok trivial
  · exact scans_malformedAt c

/-- What is required first does not change what comes behind it. -/
theorem scans_require_bind (c : Cursor) (condition : Bool) {f : Unit → Reading α}
    (hf : Scans (f ())) : Scans (require c condition >>= f) :=
  .bind (scans_require c condition) fun _ => hf

theorem scans_require_pure (c : Cursor) (condition : Bool) (a : α) :
    Scans (do require c condition; return a) :=
  scans_require_bind c condition (.ok trivial)

/-! ## Anchors, tags and directives -/

theorem scans_anchorName (c : Cursor) : Scans (anchorName c) := scans_require_pure _ _ _

theorem scans_escapedBytes (c : Cursor) : Scans (escapedBytes c) := by
  fun_induction escapedBytes c with
  | case1 c a b r h x hx y hy ih => exact ih.map _
  | _ => first | exact scans_malformedAt _ | exact .ok trivial

theorem scans_uri (before : List Char) (c : Cursor) : Scans (uri before c) := by
  rw [uri]
  dsimp only
  split
  · split
    · next e he => exact .error ((scans_escapedBytes _).fault he)
    · split
      · exact scans_malformedAt _
      · split
        -- what is left behind the bytes is shorter
        · exact scans_uri _ _
        · exact scans_malformedAt _
  · split
    · exact scans_malformedAt _
    · exact .ok trivial
termination_by c.rest.length

theorem scans_tagHandle (c : Cursor) : Scans (tagHandle c) := by
  refine scans_require_bind _ _ ?_
  split
  · exact .ok trivial
  · exact scans_require_pure _ _ _

theorem scans_tagToken (c : Cursor) : Scans (tagToken c) := by
  have hend : ∀ p : (Option String × String) × Cursor, Scans (do
      require p.2 (endsWord p.2.peek)
      return ((⟨.tag p.1.1 p.1.2, c.line⟩ : Token), p.2)) :=
    fun _ => scans_require_pure _ _ _
  unfold tagToken
  split
  · refine .bind (scans_uri _ _) fun p => scans_require_bind _ _ ?_
    exact hend ((none, p.1), p.2.step)
  · split
    · exact hend ((none, "!"), c.step)
    · dsimp only
      have hsuffix (handle : String) (c' : Cursor) : Scans (do
          let q ← uri [] c'
          require q.2 (endsWord q.2.peek)
          return ((⟨.tag (some handle) q.1, c.line⟩ : Token), q.2)) :=
        .bind (scans_uri _ _) fun q => hend ((some handle, q.1), q.2)
      split
      · exact .bind (scans_tagHandle _) fun p => hsuffix p.1 p.2
      · exact hsuffix "!" _

theorem scans_digitsHere (c : Cursor) : Scans (digitsHere c) := by
  refine scans_require_bind _ _ ?_
  split
  · exact .error (.outOfRange (.version _))
  · exact .ok trivial

theorem scans_versionDirective (c : Cursor) : Scans (versionDirective c) :=
  .bind (scans_digitsHere _) fun _ => scans_require_bind _ _ <|
    .bind (scans_digitsHere _) fun _ => scans_require_pure _ _ _

theorem scans_handleDirective (c : Cursor) : Scans (handleDirective c) :=
  .bind (scans_tagHandle _) fun _ => scans_require_bind _ _ <|
    .bind (scans_uri _ _) fun _ => scans_require_pure _ _ _

theorem scans_directiveToken (c : Cursor) : Scans (directiveToken c) := by
  have hend (p : Directive × Cursor) : Scans (do
      let c' := (p.2.skipWhile (· == ' ')).skipComment
      require c' (endsLine c'.peek)
      return ((⟨.directive p.1, c.line⟩ : Token), c'.skipBreak)) :=
    scans_require_pure _ _ _
  refine scans_require_bind _ _ ?_
  split
  · exact .bind (scans_versionDirective _) hend
  · split
    · exact .bind (scans_handleDirective _) hend
    · exact hend (.other, _)

/-! ## Scalars -/

theorem scans_quotedBreaks (c : Cursor) : Scans (quotedBreaks c) := by
  fun_induction quotedBreaks c with
  | case1 => exact scans_malformedAt _
  | case2 c _ x c' h ih => exact ih.map _
  | case3 => exact .ok trivial

theorem scans_quotedBlanks (c : Cursor) : Scans (quotedBlanks c) := by
  unfold quotedBlanks
  dsimp only
  split
  · exact .bind (scans_quotedBreaks _) fun _ => .ok trivial
  · split
    · exact scans_malformedAt _
    · exact .ok trivial

theorem outOfRange_characterOf {n : Nat} {f : ScalarFault} (h : characterOf n = .error f) :
    OutOfRange f := by
  unfold characterOf at h
  split at h
  · cases h
    exact .codeWord
  · split at h
    · cases h
      exact .codePoint
    · cases h

theorem scans_escape (c : Cursor) : Scans (escape c) := by
  unfold escape
  split
  · exact scans_malformedAt _
  · split
    · exact .ok trivial
    · split
      · dsimp only
        split
        · split
          · exact .ok trivial
          · next he => exact .error (.outOfRange (outOfRange_characterOf he))
        · exact scans_malformedAt _
      · split
        · exact scans_quotedBreaks _
        · exact scans_malformedAt _

theorem scans_quotedContent (double : Bool) (before : List Char) (c : Cursor) :
    Scans (quotedContent double before c) := by
  fun_induction quotedContent double before c with
  | case5 before c x r hc hq hb e he => exact .error ((scans_escape _).fault he)
  | case8 before c x r hc hq hb hs e he => exact .error ((scans_quotedBlanks _).fault he)
  | _ => first | exact scans_malformedAt _ | assumption | exact .ok trivial

theorem scans_quotedScalar (double : Bool) (c : Cursor) : Scans (quotedScalar double c) :=
  .bind (scans_quotedContent _ _ _) fun _ => .ok trivial

theorem scans_increment? (c : Cursor) : Scans (increment? c) := by
  unfold increment?
  split
  · split
    · split
      · exact scans_malformedAt _
      · exact .ok trivial
    · exact .ok trivial
  · exact .ok trivial

theorem scans_blockHeader (c : Cursor) : Scans (blockHeader c) := by
  have hend (p : (Chomping × Option Nat) × Cursor) : Scans (do
      require p.2 (endsWord p.2.peek)
      return (p.1, p.2)) :=
    scans_require_pure _ _ _
  unfold blockHeader
  split
  · next ch c' _ =>
    refine .bind (scans_increment? _) fun increment => ?_
    split
    · exact hend ((ch, some _), _)
    · exact hend ((ch, none), _)
  · refine .bind (scans_increment? _) fun increment => ?_
    split
    · split
      · exact hend ((_, some _), _)
      · exact hend ((.clip, some _), _)
    · exact hend ((.clip, none), _)

theorem scans_emptyLine (c : Cursor) : Scans (emptyLine c) := scans_require_pure _ _ _

theorem scans_blockScalar (folded : Bool) (parent : Int) (c : Cursor) :
    Scans (blockScalar folded parent c) :=
  .bind (scans_blockHeader _) fun _ => .bind (scans_emptyLine _) fun _ => .ok trivial

/-! ## Tokens -/

namespace Scanner

variable (s : Scanner)

theorem scans_dropStale : Scans s.dropStale := by
  unfold dropStale
  split
  · exact scans_malformedAt _
  · exact .ok trivial

theorem scans_dropKey : Scans s.dropKey := by
  unfold dropKey
  split
  · exact scans_malformedAt _
  · exact .ok trivial

theorem scans_saveKey : Scans s.saveKey := by
  unfold saveKey
  split
  · exact .bind s.scans_dropKey fun _ => .ok trivial
  · exact .ok trivial

theorem scans_betweenDocuments : Scans s.betweenDocuments :=
  .bind (scans_dropKey _) fun _ => .ok trivial

theorem scans_openBracket (kind : TokenKind) : Scans (s.openBracket kind) :=
  .bind (scans_saveKey _) fun _ => .ok trivial

theorem scans_closeBracket (kind : TokenKind) : Scans (s.closeBracket kind) :=
  .bind (scans_dropKey _) fun _ => .ok trivial

theorem scans_flowEntry : Scans s.flowEntry :=
  .bind (scans_dropKey _) fun _ => .ok trivial

/-- A mark of a block: where no key may start it is a fault, and what comes behind it depends on
whether a required key is in mind. -/
theorem scans_blockMark (kind : TokenKind) {f : Scanner → Reading Scanner}
    (hf : ∀ s, Scans (f s)) : Scans (do
      let s ←
        if s.inFlow then pure s
        else if s.keyAllowed then pure (s.openBlockHere kind)
        else malformedAt s.cursor
      f s) := by
  split
  · exact hf _
  · split
    · exact hf _
    · exact scans_malformedAt _

theorem scans_blockEntry : Scans s.blockEntry :=
  s.scans_blockMark .blockSequenceStart fun _ => .bind (scans_dropKey _) fun _ => .ok trivial

theorem scans_explicitKey : Scans s.explicitKey :=
  s.scans_blockMark .blockMappingStart fun _ => .bind (scans_dropKey _) fun _ => .ok trivial

theorem scans_valueMark : Scans s.valueMark := by
  unfold valueMark
  split
  · exact .ok trivial
  · exact s.scans_blockMark .blockMappingStart fun _ => .bind (scans_dropKey _) fun _ => .ok trivial

theorem scans_keyable {read : Cursor → Reading (Token × Cursor)} (h : ∀ c, Scans (read c)) :
    Scans (s.keyable read) :=
  .bind s.scans_saveKey fun _ => .bind (h _) fun _ => .ok trivial

theorem scans_named (kind : String → TokenKind) (c : Cursor) : Scans (named kind c) :=
  (scans_anchorName c).map _

theorem scans_blockText (folded : Bool) : Scans (s.blockText folded) :=
  .bind (scans_dropKey _) fun _ => .bind (scans_blockScalar _ _ _) fun _ => .ok trivial

theorem scans_plainText : Scans s.plainText :=
  .bind s.scans_saveKey fun _ => .ok trivial

theorem scans_nextToken (x : Char) : Scans (s.nextToken x) := by
  unfold nextToken
  dsimp only
  generalize s.lookAround x = s
  -- one line for each sort of token, in the order in which the scanner looks for them
  refine .ite
    (.bind s.scans_betweenDocuments fun _ => .bind (scans_directiveToken _) fun _ => .ok trivial) ?_
  refine .ite (.bind s.scans_betweenDocuments fun _ => .ok trivial) ?_
  refine .ite (.bind s.scans_betweenDocuments fun _ => .ok trivial) ?_
  refine .ite (s.scans_openBracket _) (.ite (s.scans_openBracket _) ?_)
  refine .ite (s.scans_closeBracket _) (.ite (s.scans_closeBracket _) ?_)
  refine .ite s.scans_flowEntry (.ite s.scans_blockEntry ?_)
  refine .ite s.scans_explicitKey (.ite s.scans_valueMark ?_)
  refine .ite (s.scans_keyable (scans_named _)) (.ite (s.scans_keyable (scans_named _)) ?_)
  refine .ite (s.scans_keyable scans_tagToken) ?_
  refine .ite (s.scans_blockText _) (.ite (s.scans_blockText _) ?_)
  refine .ite (s.scans_keyable (scans_quotedScalar _)) ?_
  refine .ite (s.scans_keyable (scans_quotedScalar _)) ?_
  exact .ite s.scans_plainText (scans_malformedAt _)

/-! ## Streams -/

theorem scans_settle : Scans s.settle := by
  unfold settle
  exact .ite (.bind s.scans_dropStale fun _ => .ok trivial) (.ok trivial)

theorem scans_approach : Scans s.approach.2 := by
  unfold approach
  split
  · next e he => exact .error (s.scans_settle.fault he)
  · exact .bind (scans_dropStale _) fun _ => .ok trivial

theorem behind_run (limit : Option Limit) {f : DocumentFault}
    (h : (s.run limit).fault = some f) : Behind limit f := by
  fun_induction run limit s with
  | case1 s settled e he =>
    obtain rfl := Option.some.inj h
    exact behind_within (s.scans_approach.fault (congrArg Prod.snd he))
  | case2 s settled there _ _ e he =>
    obtain rfl := Option.some.inj h
    exact behind_within (there.scans_betweenDocuments.fault he)
  | case3 s settled there _ _ done _ e he =>
    obtain rfl := Option.some.inj h
    exact behind_faultAt he
  | case4 => cases h
  | case5 s settled there _ x _ e he =>
    obtain rfl := Option.some.inj h
    exact behind_within ((there.scans_nextToken x).fault he)
  | case6 s settled there _ x _ next _ e he =>
    obtain rfl := Option.some.inj h
    exact behind_faultAt he
  | case7 s settled there _ x _ next _ _ _ ih => exact ih h
  | case8 =>
    obtain rfl := Option.some.inj h
    exact .inl (.malformed _)

end Scanner

/-- The tokens of a text end in a fault of the scanner or at the limit of the text. -/
theorem fault_ofChars {limit : Option Limit} {cs : List Char} {f : DocumentFault}
    (h : (Stream.ofChars limit cs).fault = some f) :
    Behind limit f :=
  Scanner.behind_run _ limit h

end Credentials.Yaml
