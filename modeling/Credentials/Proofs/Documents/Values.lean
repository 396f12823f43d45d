import Credentials.Proofs.Documents.Construction

/-!
# What the value of a document can be

The value of a document is nothing, a scalar, a list, a set or a mapping: never a tuple, never an
object of the library, and never an open end, which stands for a collection inside itself alone.

1. **The graph.** The top of a document is among the nodes that have ended (`top_mem_ended`).
2. **The assembly.** What was met stays settled, and what is settled as a value is that of a scalar
   (`Assembly.Shaped`).
3. **Reading off.** A settled node among those that have ended is read off as its shape says
   (`documentValue_readOnce`).

Main statement: `documentValue_of_valueOf`.
-/

namespace Credentials.Yaml

/-- A value that a document can have. -/
inductive DocumentValue : Raw → Prop
  | null : DocumentValue .null
  | bool (b : Bool) : DocumentValue (.bool b)
  | int (n : Int) : DocumentValue (.int n)
  | float (x : Float) : DocumentValue (.float x)
  | nan (number holder : Nat) : DocumentValue (.nan number holder)
  | text (s : String) : DocumentValue (.text s)
  | bytes (bs : List UInt8) : DocumentValue (.bytes bs)
  | list (xs : List Raw) : DocumentValue (.list xs)
  | set (xs : List Raw) : DocumentValue (.set xs)
  | map (entries : List (Raw × Raw)) : DocumentValue (.map entries)
  | date (d : Date) : DocumentValue (.date d)
  | moment (m : Moment) : DocumentValue (.moment m)

theorem DocumentValue.exists_list {d : Raw} (h : DocumentValue d) (ht : d.typeName = "list") :
    ∃ xs, d = .list xs := by
  cases h with
  | list xs => exact ⟨xs, rfl⟩
  | _ => simp [Raw.typeName] at ht

theorem DocumentValue.exists_map {d : Raw} (h : DocumentValue d) (ht : d.typeName = "dict") :
    ∃ entries, d = .map entries := by
  cases h with
  | map entries => exact ⟨entries, rfl⟩
  | _ => simp [Raw.typeName] at ht

/-- A computation whose result is of one sort. -/
abbrev Yields {ε α : Type} (Q : α → Prop) (x : Except ε α) : Prop := Ends (fun _ => True) Q x

/-! ## The graph -/

namespace Document

/-- The top is among the nodes that have ended: an alias names a node within, and every other node
is noted as it ends. -/
theorem top_mem_ended_of_compose (fault : DocumentFault) (events : List Event)
    (frames : List Frame) (draft : Draft) (h : frames = [] → draft.anchors = []) :
    Yields (fun r => r.1.top ∈ r.1.ended) (compose fault events frames draft) := by
  induction events generalizing frames draft with
  | nil => exact .error trivial
  | cons e r ih =>
    unfold compose
    dsimp only
    split
    · split
      · next hname =>
        split
        · rw [h rfl] at hname
          cases hname
        · exact ih _ _ nofun
      · exact .error trivial
    · split
      · exact .error trivial
      · split
        · exact .ok (List.mem_reverse.mpr List.mem_cons_self)
        · exact ih _ _ nofun
    -- both sorts of collections are opened alike, and closed alike
    iterate 2
      · split
        · exact .error trivial
        · exact ih _ _ nofun
    iterate 2
      · split
        · exact .error trivial
        · split
          · exact .ok (List.mem_reverse.mpr List.mem_cons_self)
          · exact ih _ _ nofun
    all_goals exact .error trivial

theorem top_mem_ended {t : Trace} {d : Document} (h : ofTrace t = .ok (some d)) :
    d.top ∈ d.ended := by
  have hyields : Yields (fun o => ∀ d ∈ o, d.top ∈ d.ended) (ofTrace t) := by
    unfold ofTrace
    dsimp only
    split
    · exact .error trivial
    · exact .ok nofun
    · refine .bind (top_mem_ended_of_compose _ _ _ _ fun _ => rfl) fun r hr => ?_
      split
      · exact .ok fun d hd => Option.some.inj hd ▸ hr
      · exact .error trivial
      · exact .error trivial
  exact hyields.result h d rfl

end Document

/-! ## Scalars -/

theorem yields_floatOf (mark : Nat) (s : String) : Yields DocumentValue (floatOf mark s) := by
  have hfloat (x : Float) : DocumentValue (.ofFloat mark x) := by
    unfold Raw.ofFloat
    split <;> constructor
  unfold floatOf
  dsimp only
  refine .ite (.error trivial) (.ite (.ok (hfloat _)) (.ite (.ok (.nan 0 0)) (.ite ?_ ?_)))
  · exact .bind (.any _) fun _ _ => .bind (.any _) fun _ _ => .ok (hfloat _)
  · exact .map (.any _) fun _ _ => hfloat _

theorem yields_timestampOf (s : String) : Yields DocumentValue (timestampOf s) := by
  unfold timestampOf
  split
  · exact .error trivial
  · split
    · exact .error trivial
    · exact .ok (.date _)
  · dsimp only
    split
    · exact .error trivial
    · exact .ok (.moment _)

theorem yields_converted {v : Except ScalarFault Raw} (h : Yields DocumentValue v) :
    Yields DocumentValue (converted v) := by
  cases h with
  | error => exact .error trivial
  | ok h => exact .ok h

theorem yields_converted_map {α : Type} {x : Except ScalarFault α} {f : α → Raw}
    (h : ∀ a, DocumentValue (f a)) : Yields DocumentValue (converted (x.map f)) :=
  yields_converted (.map (.any x) fun a _ => h a)

theorem yields_scalarValue (ns : Nodes) (id : Nat) : Yields DocumentValue (scalarValue ns id) := by
  refine .bind (.any _) fun s _ => ?_
  split
  · exact .ok .null
  · exact yields_converted_map .bool
  · exact yields_converted_map .int
  · exact yields_converted (yields_floatOf _ _)
  · split
    · exact .ok (.bytes _)
    · exact .error trivial
  · exact .ite (yields_converted (yields_timestampOf _)) (.error trivial)
  · exact .ok (.text s)

/-! ## Assembly -/

namespace Assembly

/-- What is known of the shapes when some nodes were met: they are settled, and what is settled as a
value is that of a scalar. -/
structure Shaped (met : Nat → Prop) (a : Assembly) : Prop where
  scalars : ∀ id v, a.shapeOf id = some (.value v) → DocumentValue v
  settled : ∀ id, met id → id < a.shapes.size → (a.shapeOf id).isSome = true

/-- To settle a node settles it and no other. -/
theorem shapeOf_setIfInBounds (a : Assembly) (id other : Nat) (shape : Shape) :
    shapeOf { a with shapes := a.shapes.setIfInBounds id (some shape) } other
      = if id = other ∧ id < a.shapes.size then some shape else a.shapeOf other := by
  simp only [shapeOf, Array.getElem?_setIfInBounds]
  by_cases hid : id = other
  · subst hid
    by_cases hsize : id < a.shapes.size
    · simp [hsize]
    · simp [hsize]
  · simp [hid]

variable {met : Nat → Prop} {a : Assembly}

theorem Shaped.settle (h : Shaped met a) (id : Nat) (shape : Shape)
    (hs : ∀ v, shape = .value v → DocumentValue v) :
    Shaped (fun i => met i ∨ i = id)
      { a with shapes := a.shapes.setIfInBounds id (some shape) } where
  scalars other v hv := by
    rw [shapeOf_setIfInBounds] at hv
    split at hv
    · exact hs v (Option.some.inj hv)
    · exact h.scalars other v hv
  settled other ho hsize := by
    rw [Array.size_setIfInBounds] at hsize
    rw [shapeOf_setIfInBounds]
    split
    · rfl
    · next hno =>
      rcases ho with ho | rfl
      · exact h.settled other ho hsize
      · exact absurd ⟨rfl, hsize⟩ hno

theorem Shaped.mono {met' : Nat → Prop} (h : Shaped met a) (hm : ∀ id, met' id → met id) :
    Shaped met' a := ⟨h.scalars, fun id hid => h.settled id (hm id hid)⟩

/-- What becomes of an assembly when a node is met: nothing if it was met before; else it is noted
or settled as a value. -/
inductive Meets (id : Nat) (a : Assembly) : Scan (Unit × Assembly) → Prop
  | before (h : (a.shapeOf id).isSome = true) : Meets id a (.ok ((), a))
  | noted : Meets id a (.ok ((), { a with
      shapes := a.shapes.setIfInBounds id (some (.list [])), noted := a.noted.push id }))
  | value {v : Raw} (h : scalarValue a.nodes id = .ok v) : Meets id a (.ok ((), { a with
      shapes := a.shapes.setIfInBounds id (some (.value v)) }))
  | fault (f : DocumentFault) : Meets id a (.error f)

theorem meets_meet (id : Nat) (a : Assembly) : Meets id a ((meet id).run a) := by
  simp only [meet, StateT.run_bind, StateT.run_get, pure_bind]
  split
  · next h => exact .before h
  · split
    iterate 5
      · exact .noted
    iterate 3
      · exact .fault _
    · cases h : scalarValue a.nodes id with
      | error f => exact .fault f
      | ok v => exact .value h

/-- **A node that is met stays settled, and so do the others.** -/
theorem Shaped.meet (h : Shaped met a) (id : Nat) :
    Yields (fun r => Shaped (fun i => met i ∨ i = id) r.2) ((meet id).run a) := by
  have hmeets := meets_meet id a
  generalize (Assembly.meet id).run a = outcome at hmeets
  cases hmeets with
  | before hs =>
    refine .ok ⟨h.scalars, fun i hi hsize => ?_⟩
    rcases hi with hi | rfl
    · exact h.settled i hi hsize
    · exact hs
  | noted =>
    have hlist := h.settle id (.list []) nofun
    exact .ok ⟨hlist.scalars, hlist.settled⟩
  | value hv =>
    refine .ok (h.settle id (.value _) ?_)
    rintro _ ⟨⟩
    exact (yields_scalarValue _ _).result hv
  | fault => exact .error trivial

theorem kept_shaped (met : Nat → Prop) : Kept (Shaped met) fun _ => True where
  malformed _ := trivial
  meet id _ h := (h.meet id).weaken fun _ hr => hr.mono fun _ => .inl
  settle id shape hs _ h := .ok ((h.settle id shape fun v hv => absurd hv (hs v)).mono fun _ => .inl)
  flatten _ _ h := (Ends.any _).weaken fun _ _ => ⟨h.scalars, h.settled⟩

/-! ## Reading off -/

theorem documentValue_valueOf {shape : Shape} (hs : ∀ v, shape = .value v → DocumentValue v)
    (known : Nat → Raw) : DocumentValue (valueOf known shape) := by
  cases shape with
  | value v => exact hs v rfl
  | list items => exact .list _
  | pairs items => exact .list _
  | map entries => exact .map _
  | set keys => exact .set _

/-- The value of a node in a table of values. -/
def valueIn (known : Array Raw) (id : Nat) : Raw := known[id]?.getD .null

theorem valueIn_setIfInBounds (known : Array Raw) (id other : Nat) (v : Raw) :
    valueIn (known.setIfInBounds id v) other
      = if id = other ∧ id < known.size then v else valueIn known other := by
  simp only [valueIn, Array.getElem?_setIfInBounds]
  by_cases hid : id = other
  · subst hid
    by_cases hsize : id < known.size <;> simp [hsize]
  · simp [hid]

/-- What is no node has no value. -/
theorem documentValue_of_size_le {known : Array Raw} {id : Nat} (h : known.size ≤ id) :
    DocumentValue (valueIn known id) := by
  rw [valueIn, Array.getElem?_eq_none h]
  exact .null

theorem readOnce_cons (a : Assembly) (id : Nat) (order : List Nat) (known : Array Raw) :
    a.readOnce (id :: order) known = a.readOnce order (match a.shapeOf id with
      | some shape => known.setIfInBounds id (valueOf (valueIn known) shape)
      | none => known) := rfl

/-- What is read off at a settled node is a value of a document, if the node is read off at all. -/
theorem documentValue_readOnce {top : Nat} (h : Shaped (· = top) a) (order : List Nat)
    {known : Array Raw} (hsize : known.size = a.shapes.size)
    (hknown : top ∈ order ∨ DocumentValue (valueIn known top)) :
    (a.readOnce order known).size = a.shapes.size
      ∧ DocumentValue (valueIn (a.readOnce order known) top) := by
  induction order generalizing known with
  | nil => exact ⟨hsize, hknown.resolve_left List.not_mem_nil⟩
  | cons id order ih =>
    rw [readOnce_cons]
    cases hshape : a.shapeOf id with
    | none =>
      refine ih hsize ?_
      rcases hknown with hm | hv
      · rcases List.mem_cons.mp hm with rfl | hm
        · refine .inr (documentValue_of_size_le (Nat.not_lt.mp fun hlt => ?_))
          have hsettled := h.settled top rfl (hsize ▸ hlt)
          rw [hshape] at hsettled
          cases hsettled
        · exact .inl hm
      · exact .inr hv
    | some shape =>
      refine ih (Array.size_setIfInBounds.trans hsize) ?_
      rw [valueIn_setIfInBounds]
      by_cases hid : id = top
      · subst hid
        right
        split
        · exact documentValue_valueOf (fun v hv => h.scalars id v (hv ▸ hshape)) _
        · next hout =>
          exact documentValue_of_size_le (Nat.not_lt.mp fun hlt => hout ⟨rfl, hlt⟩)
      · rw [if_neg fun hin => hid hin.1]
        exact hknown.imp_left fun hm => (List.mem_cons.mp hm).resolve_left (Ne.symm hid)

/-- **The value of a settled node that ends is one that a document can have.** -/
theorem documentValue_readOff {top : Nat} (h : Shaped (· = top) a) {order : List Nat}
    (ht : top ∈ order) : DocumentValue (valueIn (a.readOff order) top) := by
  obtain ⟨hsize, -⟩ := documentValue_readOnce h order (Array.size_map) (.inl ht)
  exact (documentValue_readOnce h order hsize (.inl ht)).2

end Assembly

/-! ## Documents -/

theorem yields_toRaw {d : Document} (h : d.top ∈ d.ended) : Yields DocumentValue d.toRaw := by
  have hstart : Assembly.Shaped (fun _ => False)
      ⟨d.nodes, Array.replicate d.nodes.size none, #[], d.nodes.weight + 1⟩ := by
    refine ⟨fun id v hv => ?_, fun _ hid => hid.elim⟩
    rw [Assembly.shapeOf, Array.getElem?_replicate] at hv
    split at hv <;> cases hv
  exact .bind (hstart.meet d.top) fun r hr =>
    .bind ((Assembly.kept_shaped _).fillAll d.nodes.size 0 r.2 (hr.mono fun _ => .inr))
      fun _ hfilled => .ok (Assembly.documentValue_readOff hfilled h)

/-- **The value of a text is one that a document can have.** -/
theorem documentValue_of_valueOf {limit : Option Limit} {cs : List Char} {v : Raw}
    (h : valueOf limit cs = .ok v) : DocumentValue v := by
  unfold valueOf at h
  cases hd : Document.ofTrace (Trace.ofStream (Stream.ofChars limit cs)) with
  | error f =>
    rw [hd] at h
    cases h
  | ok o =>
    rw [hd] at h
    cases o with
    | none =>
      obtain rfl := Except.ok.inj h
      exact .null
    | some d => exact (yields_toRaw (Document.top_mem_ended hd)).result h

end Credentials.Yaml
