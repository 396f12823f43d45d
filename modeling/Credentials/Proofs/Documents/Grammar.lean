import Credentials.Proofs.Documents.Ends
import Credentials.Yaml.Node

/-!
# Faults of the grammar

The machine that turns tokens into events, and the graph that is built from the events, find nothing
wrong but that a document is malformed, or they meet the fault behind the tokens. A step leaves that
fault as it is (`parses_step`), so a run meets no other (`fault_run`).

Main statement: `fault_ofTrace`.
-/

namespace Credentials.Yaml

/-- A fault of the grammar over tokens: what stands there is malformed, or the fault behind the
tokens is met. -/
inductive OfGrammar (behind : Option DocumentFault) : DocumentFault → Prop
  | malformed (line : Nat) : OfGrammar behind (.malformed line)
  | behind {f : DocumentFault} (h : behind = some f) : OfGrammar behind f

/-! ## Steps -/

namespace Machine

variable {b : Option DocumentFault} {m : Machine}

/-- A step that fails with faults of the grammar alone and leaves the fault behind the tokens. -/
abbrev Parses (b : Option DocumentFault) (x : Step) : Prop :=
  Ends (OfGrammar b) (fun r => r.2.2.fault = b) x

theorem parses_unexpected (t : Token) : Parses b (unexpected t) :=
  .error (.malformed _)

theorem ofGrammar_peek (h : m.fault = b) : FailsOnly (OfGrammar b) m.peek := by
  subst h
  unfold peek
  split
  · exact .ok trivial
  · cases h : m.fault with
    | none => exact .error (.malformed 1)
    | some f => exact .error (.behind rfl)

theorem ofGrammar_properties (h : m.fault = b) :
    Ends (OfGrammar b) (fun r => r.2.fault = b) m.properties := by
  refine .bind (ofGrammar_peek h) fun t _ => ?_
  split
  · refine .bind (ofGrammar_peek h) fun u _ => ?_
    split <;> exact .ok h
  · refine .bind (ofGrammar_peek h) fun u _ => ?_
    split <;> exact .ok h
  · exact .ok h

theorem ofGrammar_resolveTag (line : Nat) (tag : Option (Option String × String)) :
    FailsOnly (OfGrammar b) (m.resolveTag line tag) := by
  unfold resolveTag
  split
  · exact .ok trivial
  · exact .ok trivial
  · split
    · exact .ok trivial
    · exact .error (.malformed _)

theorem parses_emptyNode (h : m.fault = b) (p : Properties) (tag : Option String)
    (plainTag : Bool) (t : Token) (line : Nat) :
    Parses b (node.emptyNode p tag plainTag t line m) := by
  unfold node.emptyNode
  exact .ite (.ok h) (parses_unexpected t)

theorem parses_node {block indentless : Bool} (h : m.fault = b) :
    Parses b (m.node block indentless) := by
  refine .bind (ofGrammar_peek h) fun first _ => ?_
  split
  · exact .ok h
  · refine .bind (ofGrammar_properties h) fun r hr => ?_
    refine .bind (ofGrammar_resolveTag _ _) fun r' _ => ?_
    refine .bind (ofGrammar_peek hr) fun t _ => ?_
    have hempty := parses_emptyNode hr r.1 r'.1 r'.2 t (r.1.line.getD t.line)
    dsimp only
    split
    · exact .ite (.ok hr) hempty
    · exact .ok hr
    · exact .ok hr
    · exact .ok hr
    · exact .ite (.ok hr) hempty
    · exact .ite (.ok hr) hempty
    · exact hempty

theorem ofGrammar_directives (versioned : Bool) (given : List (String × String))
    (ts : List Token) : FailsOnly (OfGrammar b) (directives versioned given ts) := by
  fun_induction directives versioned given ts with
  | case1 => exact .error (.malformed _)
  | case3 => exact .error (.malformed _)
  | case6 => exact .ok trivial
  | _ => assumption

theorem parses_document (h : m.fault = b) : Parses b m.document := by
  refine .bind (ofGrammar_peek h) fun t _ => ?_
  split
  · exact .ok h
  · refine .bind (ofGrammar_directives _ _ _) fun r _ => ?_
    refine .bind (ofGrammar_peek h) fun start _ => ?_
    split
    · exact .ok h
    · exact parses_unexpected start

theorem parses_firstDocument (h : m.fault = b) : Parses b m.firstDocument := by
  refine .bind (ofGrammar_peek h) fun t _ => ?_
  split <;> first | exact parses_document h | exact .ok h

theorem parses_documentContent (h : m.fault = b) : Parses b m.documentContent := by
  refine .bind (ofGrammar_peek h) fun t _ => ?_
  split <;> first | exact parses_node h | exact .ok h

theorem parses_documentEnd (h : m.fault = b) : Parses b m.documentEnd := by
  refine .bind (ofGrammar_peek h) fun t _ => ?_
  dsimp only
  split <;> exact .ok h

/-- A node behind a mark, unless one of a few tokens follows, which leave the place empty. -/
theorem parses_blockMappingPart {line : Nat} {after : Expectation} (h : m.fault = b) :
    Parses b (m.blockMappingPart line after) := by
  refine .bind (ofGrammar_peek h) fun t _ => ?_
  split <;> first | exact parses_node h | exact .ok h

theorem parses_blockSequenceEntry (h : m.fault = b) : Parses b m.blockSequenceEntry := by
  refine .bind (ofGrammar_peek h) fun t _ => ?_
  split
  · refine .bind (ofGrammar_peek h) fun u _ => ?_
    split <;> first | exact parses_node h | exact .ok h
  · exact .ok h
  · exact parses_unexpected t

theorem parses_indentlessEntry (h : m.fault = b) : Parses b m.indentlessEntry := by
  refine .bind (ofGrammar_peek h) fun t _ => ?_
  split
  · refine .bind (ofGrammar_peek h) fun u _ => ?_
    split <;> first | exact parses_node h | exact .ok h
  · exact .ok h

theorem parses_blockMappingKey (h : m.fault = b) : Parses b m.blockMappingKey := by
  refine .bind (ofGrammar_peek h) fun t _ => ?_
  split
  · exact parses_blockMappingPart h
  · exact .ok h
  · exact parses_unexpected t

theorem parses_blockMappingValue (h : m.fault = b) : Parses b m.blockMappingValue := by
  refine .bind (ofGrammar_peek h) fun t _ => ?_
  split
  · exact parses_blockMappingPart h
  · exact .ok h

/-- What follows a comma, or stands first between brackets. -/
theorem parses_afterComma (h : m.fault = b) (first : Bool) (t : Token) {f : Machine → Step}
    (hf : ∀ {m' : Machine}, m'.fault = b → Parses b (f m')) : Parses b (do
      let m ←
        if first then pure m
        else if t.kind = .flowEntry then pure m.skip
        else unexpected t
      f m) := by
  split
  · exact hf h
  · split
    · exact hf h
    · exact parses_unexpected t

theorem parses_flowSequenceEntry {first : Bool} (h : m.fault = b) :
    Parses b (m.flowSequenceEntry first) := by
  refine .bind (ofGrammar_peek h) fun t _ => ?_
  split
  · exact .ok h
  · refine parses_afterComma h first t fun h' => .bind (ofGrammar_peek h') fun u _ => ?_
    split <;> first | exact parses_node h' | exact .ok h'

theorem parses_flowPairKey (h : m.fault = b) : Parses b m.flowPairKey := by
  refine .bind (ofGrammar_peek h) fun t _ => .bind (ofGrammar_peek h) fun u _ => ?_
  split <;> first | exact parses_node h | exact .ok h

theorem parses_flowPairValue (h : m.fault = b) : Parses b m.flowPairValue := by
  refine .bind (ofGrammar_peek h) fun t _ => ?_
  split
  · refine .bind (ofGrammar_peek h) fun u _ => ?_
    split <;> first | exact parses_node h | exact .ok h
  · exact .ok h

theorem parses_flowPairEnd (h : m.fault = b) : Parses b m.flowPairEnd :=
  .bind (ofGrammar_peek h) fun _ _ => .ok h

theorem parses_flowMappingKey {first : Bool} (h : m.fault = b) :
    Parses b (m.flowMappingKey first) := by
  refine .bind (ofGrammar_peek h) fun t _ => ?_
  split
  · exact .ok h
  · refine parses_afterComma h first t fun h' => .bind (ofGrammar_peek h') fun u _ => ?_
    split
    · refine .bind (ofGrammar_peek h') fun v _ => ?_
      split <;> first | exact parses_node h' | exact .ok h'
    · exact .ok h'
    · exact parses_node h'

theorem parses_flowMappingValue (h : m.fault = b) : Parses b m.flowMappingValue := by
  refine .bind (ofGrammar_peek h) fun t _ => ?_
  split
  · refine .bind (ofGrammar_peek h) fun u _ => ?_
    split <;> first | exact parses_node h | exact .ok h
  · exact .ok h

theorem parses_flowMappingEmptyValue (h : m.fault = b) : Parses b m.flowMappingEmptyValue :=
  .bind (ofGrammar_peek h) fun _ _ => .ok h

/-- A step fails with faults of the grammar alone and leaves the fault behind the tokens. -/
theorem parses_step (h : m.fault = b) (e : Expectation) : Parses b (m.step e) := by
  cases e with
  | firstDocument => exact parses_firstDocument h
  | document => exact parses_document h
  | documentContent => exact parses_documentContent h
  | documentEnd => exact parses_documentEnd h
  | blockNode => exact parses_node h
  | blockSequenceFirst => exact parses_blockSequenceEntry h
  | blockSequenceEntry => exact parses_blockSequenceEntry h
  | indentlessEntry => exact parses_indentlessEntry h
  | blockMappingFirst => exact parses_blockMappingKey h
  | blockMappingKey => exact parses_blockMappingKey h
  | blockMappingValue => exact parses_blockMappingValue h
  | flowSequenceFirst => exact parses_flowSequenceEntry h
  | flowSequenceEntry => exact parses_flowSequenceEntry h
  | flowPairKey => exact parses_flowPairKey h
  | flowPairValue => exact parses_flowPairValue h
  | flowPairEnd => exact parses_flowPairEnd h
  | flowMappingFirst => exact parses_flowMappingKey h
  | flowMappingKey => exact parses_flowMappingKey h
  | flowMappingValue => exact parses_flowMappingValue h
  | flowMappingEmptyValue => exact parses_flowMappingEmptyValue h

/-! ## Runs -/

theorem fault_run {n : Nat} {e : Expectation} (h : m.fault = b) {f : DocumentFault}
    (hf : (run n e m).fault = some f) : OfGrammar b f := by
  fun_induction run n e m with
  | case1 =>
    obtain rfl := Option.some.inj hf
    exact .malformed 1
  | case2 n e m fault hs =>
    obtain rfl := Option.some.inj hf
    exact (parses_step h e).fault hs
  | case3 => cases hf
  | case4 n e m event e' m' hs rest ih => exact ih ((parses_step h e).result hs) hf

end Machine

theorem fault_ofStream {s : Stream} {f : DocumentFault}
    (h : (Trace.ofStream s).fault = some f) : OfGrammar s.fault f :=
  Machine.fault_run rfl h

/-! ## Graphs -/

namespace Document

variable {b : Option DocumentFault}

theorem ofGrammar_start (d : Draft) (anchor : Option String) (n : Node) :
    FailsOnly (OfGrammar b) (d.start anchor n) := by
  unfold Draft.start
  split
  · exact .ok trivial
  · exact .ite (.error (.malformed _)) (.ok trivial)

theorem ofGrammar_compose {fault : DocumentFault} (hb : OfGrammar b fault) (events : List Event)
    (frames : List Frame) (draft : Draft) :
    FailsOnly (OfGrammar b) (compose fault events frames draft) := by
  induction events generalizing frames draft with
  | nil => exact .error hb
  | cons e r ih =>
    unfold compose
    dsimp only
    split
    · split
      · split
        · exact .ok trivial
        · exact ih _ _
      · exact .error (.malformed _)
    · split
      · next he => exact .error ((ofGrammar_start _ _ _).fault he)
      · split
        · exact .ok trivial
        · exact ih _ _
    · split
      · next he => exact .error ((ofGrammar_start _ _ _).fault he)
      · exact ih _ _
    · split
      · next he => exact .error ((ofGrammar_start _ _ _).fault he)
      · exact ih _ _
    -- the two ends close the innermost collection alike
    iterate 2
      · split
        · exact .error hb
        · split
          · exact .ok trivial
          · exact ih _ _
    all_goals exact .error hb

/-- The document of a trace is malformed, or the fault behind its tokens is met. -/
theorem ofGrammar_ofTrace {t : Trace} (ht : ∀ f, t.fault = some f → OfGrammar b f) :
    FailsOnly (OfGrammar b) (ofTrace t) := by
  have hfault : OfGrammar b (t.fault.getD (.malformed 1)) := by
    cases h : t.fault with
    | none => exact .malformed 1
    | some f => exact ht f h
  unfold ofTrace
  dsimp only
  split
  · exact .error hfault
  · exact .ok trivial
  · refine .bind (ofGrammar_compose hfault _ _ _) fun r => ?_
    split
    · exact .ok trivial
    · exact .error (.malformed _)
    · exact .error hfault

end Document

/-- What is wrong with the document of a stream of tokens is that it is malformed, or what is wrong
behind the tokens. -/
theorem fault_ofTrace {s : Stream} {f : DocumentFault}
    (h : Document.ofTrace (Trace.ofStream s) = .error f) : OfGrammar s.fault f :=
  (Document.ofGrammar_ofTrace fun _ hf => fault_ofStream hf).fault h

end Credentials.Yaml
