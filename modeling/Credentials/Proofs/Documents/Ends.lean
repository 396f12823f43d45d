/-!
# How a computation ends

A computation ends in a fault or in a result. `Ends` says of what sort each of them is, and `Keeps`
says of a computation with a state that its faults are of one sort and that a property of the state
is kept. Both go through a computation part by part, so what is proved of the parts is proved of the
whole: there is one lemma for each way to put computations together.
-/

namespace Credentials

section

variable {ε α β : Type} {P : ε → Prop} {Q : α → Prop} {R : β → Prop}

/-- A computation ends in a fault of one sort or in a result of another. -/
inductive Ends (P : ε → Prop) (Q : α → Prop) : Except ε α → Prop
  | error {e : ε} (h : P e) : Ends P Q (.error e)
  | ok {a : α} (h : Q a) : Ends P Q (.ok a)

namespace Ends

theorem fault {x : Except ε α} (h : Ends P Q x) {e : ε} (he : x = .error e) : P e := by
  subst he
  cases h with
  | error h => exact h

theorem result {x : Except ε α} (h : Ends P Q x) {a : α} (ha : x = .ok a) : Q a := by
  subst ha
  cases h with
  | ok h => exact h

/-- Of any computation at least that is known. -/
theorem any (x : Except ε α) : Ends (fun _ => True) (fun _ => True) x := by
  cases x with
  | error => exact .error trivial
  | ok => exact .ok trivial

theorem weaken {Q' : α → Prop} {x : Except ε α} (hx : Ends P Q x) (hq : ∀ a, Q a → Q' a) :
    Ends P Q' x := by
  cases hx with
  | error h => exact .error h
  | ok h => exact .ok (hq _ h)

theorem bind {x : Except ε α} {f : α → Except ε β} (hx : Ends P Q x)
    (hf : ∀ a, Q a → Ends P R (f a)) : Ends P R (x >>= f) := by
  cases hx with
  | error h => exact .error h
  | ok h => exact hf _ h

theorem map {x : Except ε α} {f : α → β} (hx : Ends P Q x) (hf : ∀ a, Q a → R (f a)) :
    Ends P R (x.map f) := by
  cases hx with
  | error h => exact .error h
  | ok h => exact .ok (hf _ h)

theorem ite {c : Prop} [Decidable c] {x y : Except ε α} (hx : Ends P Q x) (hy : Ends P Q y) :
    Ends P Q (if c then x else y) := by
  split
  · exact hx
  · exact hy

end Ends

/-- Whether a result, if there is one, has a property can be decided where the property can. -/
instance decidableForallResult (x : Except ε α) (p : α → Prop) [DecidablePred p] :
    Decidable (∀ a, x = .ok a → p a) :=
  match x with
  | .error _ => isTrue fun _ h => nomatch h
  | .ok a => decidable_of_iff (p a) ⟨fun h _ e => Except.ok.inj e ▸ h, fun h => h a rfl⟩

/-- A computation whose faults are all of one sort. -/
abbrev FailsOnly (P : ε → Prop) (x : Except ε α) : Prop := Ends P (fun _ => True) x

namespace FailsOnly

theorem imp {P' : ε → Prop} {x : Except ε α} (hx : FailsOnly P x) (hp : ∀ e, P e → P' e) :
    FailsOnly P' x := by
  cases hx with
  | error h => exact .error (hp _ h)
  | ok h => exact .ok h

theorem bind {x : Except ε α} {f : α → Except ε β} (hx : FailsOnly P x)
    (hf : ∀ a, FailsOnly P (f a)) : FailsOnly P (x >>= f) :=
  Ends.bind hx fun a _ => hf a

theorem map {x : Except ε α} (hx : FailsOnly P x) (f : α → β) : FailsOnly P (x.map f) :=
  Ends.map hx fun _ _ => trivial

theorem ite {c : Prop} [Decidable c] {x y : Except ε α} (hx : FailsOnly P x)
    (hy : FailsOnly P y) : FailsOnly P (if c then x else y) :=
  Ends.ite hx hy

end FailsOnly

end

section

variable {σ ε α β : Type} {I : σ → Prop} {P : ε → Prop}

/-- A computation with a state whose faults are all of one sort and that keeps a property of the
state. -/
def Keeps (I : σ → Prop) (P : ε → Prop) (m : StateT σ (Except ε) α) : Prop :=
  ∀ s, I s → Ends P (fun r => I r.2) (m.run s)

namespace Keeps

theorem pure (a : α) : Keeps I P (pure a : StateT σ (Except ε) α) := fun _ hs => .ok hs

theorem throw {e : ε} (h : P e) : Keeps I P (throw e : StateT σ (Except ε) α) :=
  fun _ _ => .error h

theorem set {s : σ} (h : I s) : Keeps I P (set s : StateT σ (Except ε) PUnit) :=
  fun _ _ => .ok h

theorem modify {f : σ → σ} (h : ∀ s, I s → I (f s)) :
    Keeps I P (modify f : StateT σ (Except ε) PUnit) := fun s hs => .ok (h s hs)

theorem bind {m : StateT σ (Except ε) α} {f : α → StateT σ (Except ε) β} (hm : Keeps I P m)
    (hf : ∀ a, Keeps I P (f a)) : Keeps I P (m >>= f) :=
  fun s hs => Ends.bind (hm s hs) fun r hr => hf r.1 r.2 hr

/-- What is done with the state may count on the property. -/
theorem get_bind {f : σ → StateT σ (Except ε) β} (hf : ∀ s, I s → Keeps I P (f s)) :
    Keeps I P (get >>= f) := fun s hs => hf s hs s hs

theorem lift {x : Except ε α} (h : FailsOnly P x) :
    Keeps I P (liftM x : StateT σ (Except ε) α) := by
  intro s hs
  cases h with
  | error h => exact .error h
  | ok => exact .ok hs

/-- What is done with a result may count on its sort. -/
theorem lift_bind {Q : α → Prop} {x : Except ε α} (h : Ends P Q x)
    {f : α → StateT σ (Except ε) β} (hf : ∀ a, Q a → Keeps I P (f a)) :
    Keeps I P (liftM x >>= f) := by
  intro s hs
  cases h with
  | error h => exact .error h
  | ok h => exact hf _ h s hs

theorem forM {f : α → StateT σ (Except ε) PUnit} :
    ∀ {as : List α}, (∀ a ∈ as, Keeps I P (f a)) → Keeps I P (as.forM f)
  | [], _ => pure _
  | a :: as, h => by
    obtain ⟨ha, has⟩ := List.forall_mem_cons.mp h
    exact bind ha fun _ => forM has

theorem mapM {f : α → StateT σ (Except ε) β} {as : List α} (h : ∀ a ∈ as, Keeps I P (f a)) :
    Keeps I P (as.mapM f) := by
  induction as with
  | nil => exact pure _
  | cons a as ih =>
    obtain ⟨ha, has⟩ := List.forall_mem_cons.mp h
    rw [List.mapM_cons]
    exact bind ha fun _ => bind (ih has) fun _ => pure _

theorem foldlM {f : β → α → StateT σ (Except ε) β} :
    ∀ {as : List α} {b : β}, (∀ b, ∀ a ∈ as, Keeps I P (f b a)) → Keeps I P (as.foldlM f b)
  | [], b, _ => pure b
  | a :: _, b, h =>
    bind (h b a List.mem_cons_self) fun _ =>
      foldlM fun b' a' ha' => h b' a' (List.mem_cons_of_mem a ha')

end Keeps

end

end Credentials
