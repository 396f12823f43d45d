import Credentials.Dump
import Credentials.Proofs.Alike
import Credentials.Proofs.Reveal

/-!
# Values never show

Whatever is shown of a bundle or a view shows the kinds of its wrappers and nothing of what they
hold: their texts, their dumps, the reports on them and the records of a validation. Together with
`load_alike` (in `Credentials.Proofs.Alike`) this is a statement about two runs from the sources to
the end: runs on alike sources cannot be told apart, except by revealing a value.

Main statement: `load_noninterference`.
-/

namespace Credentials

/-! ## Texts of slots -/

/-- A slot of a credential shows the kind of its wrapper. -/
theorem quote_orNull (l : Option Leaf) :
    (Leaf.orNull l).quote = ((l.map Leaf.kind).map SecretKind.quote).getD "None" := by
  cases l with
  | none => simp [Leaf.orNull, Raw.quote]
  | some l => simp [Leaf.orNull, Leaf.toRaw]

theorem quoteFields_eq_map (slots : Slots) :
    Raw.quoteFields slots = slots.map fun p => p.1 ++ "=" ++ p.2.quote := by
  induction slots with
  | nil => simp [Raw.quoteFields]
  | cons p r ih =>
    obtain ⟨n, v⟩ := p
    rw [Raw.quoteFields, ih, List.map_cons]

theorem quoteFields_map_congr {α : Type} {xs : List α} {name : α → String} {x y : α → Raw}
    (h : ∀ a ∈ xs, (x a).quote = (y a).quote) :
    Raw.quoteFields (xs.map fun a => (name a, x a))
      = Raw.quoteFields (xs.map fun a => (name a, y a)) := by
  rw [quoteFields_eq_map, quoteFields_eq_map, List.map_map, List.map_map]
  refine List.map_congr_left fun a ha => ?_
  show name a ++ "=" ++ (x a).quote = name a ++ "=" ++ (y a).quote
  rw [h a ha]

/-- Records of one class with the same texts in their slots have the same text. -/
theorem quote_record_congr {c : RecordClass} {xs ys : Slots}
    (h : Raw.quoteFields xs = Raw.quoteFields ys) :
    (Raw.record c xs).quote = (Raw.record c ys).quote := by
  rw [Raw.quote, Raw.quote, h]

theorem display_record_congr {c : RecordClass} {xs ys : Slots}
    (h : Raw.quoteFields xs = Raw.quoteFields ys) :
    (Raw.record c xs).display = (Raw.record c ys).display := by
  cases c with
  | view r =>
    rw [Raw.display, Raw.display]
    exact quote_record_congr h
  | _ => simp only [Raw.display, h]

/-! ## What a bundle shows -/

namespace Bundle

variable {a b : Bundle}

theorem Alike.quote_orNull (h : a.Alike b) (f : Field) :
    (Leaf.orNull (a.get f)).quote = (Leaf.orNull (b.get f)).quote := by
  rw [Credentials.quote_orNull, Credentials.quote_orNull, h.kind f]

theorem Alike.quote_group? (h : a.Alike b) (g : Group) :
    ((a.group? g).getD .null).quote = ((b.group? g).getD .null).quote := by
  unfold group?
  rw [h.holds g]
  split
  · exact quote_record_congr (quoteFields_map_congr fun f _ => h.quote_orNull f)
  · rfl

theorem Alike.quoteFields_groups (h : a.Alike b) :
    Raw.quoteFields (Group.all.map fun g => (g.name, (a.group? g).getD .null))
      = Raw.quoteFields (Group.all.map fun g => (g.name, (b.group? g).getD .null)) :=
  quoteFields_map_congr fun g _ => h.quote_group? g

theorem Alike.quote_eq (h : a.Alike b) : a.toRaw.quote = b.toRaw.quote :=
  quote_record_congr h.quoteFields_groups

theorem Alike.display_eq (h : a.Alike b) : a.toRaw.display = b.toRaw.display :=
  display_record_congr h.quoteFields_groups

theorem Alike.redactedAt_eq (h : a.Alike b) (f : Field) :
    redactedAt (a.get f) = redactedAt (b.get f) :=
  congrArg (fun s => if s then Raw.text redacted else Raw.null) (h.isSet f)

theorem Alike.dump_eq (h : a.Alike b) : a.dump = b.dump := by
  have hf : a.flatDump = b.flatDump := List.map_congr_left fun f _ => by rw [h.redactedAt_eq f]
  rw [dump, dump, hf]

theorem Alike.check_eq (h : a.Alike b) (r : Role) : a.check r = b.check r :=
  congrArg (Report.mk r) (issues_eq_of_isSet h.isSet r)

end Bundle

/-! ## What a view shows -/

namespace View

variable {v w : View}

/-- Views of one role with one backend over alike bundles, and nothing foreign in their groups. -/
structure Alike (v w : View) : Prop where
  role : v.role = w.role
  backend : v.backend = w.backend
  store : v.store.Alike w.store
  strangers : ∀ g, v.stranger g = none ∧ w.stranger g = none

/-- Bundles that are alike in what a role exposes give the role alike views. -/
theorem alike_of_exposed {a b : Bundle} {r : Role}
    (hk : ∀ f : Field, r.exposes f.group = true →
      (a.get f).map Leaf.kind = (b.get f).map Leaf.kind)
    (hg : ∀ g, r.exposes g = true → a.holds g = b.holds g) : (View.of a r).Alike (View.of b r) := by
  have hs : ∀ f : Field, r.exposes f.group = true → a.isSet f = b.isSet f := fun f hf => by
    have h := congrArg Option.isSome (hk f hf)
    rwa [Option.isSome_map, Option.isSome_map] at h
  have hback : (View.of a r).backend = (View.of b r).backend := by
    show (if r.exposes .dataAvailability then a.resolved else none)
      = if r.exposes .dataAvailability then b.resolved else none
    by_cases he : r.exposes .dataAvailability = true
    · rw [if_pos he, if_pos he, Bundle.resolved_congr fun f hf => hs f (hf ▸ he)]
    · rw [if_neg he, if_neg he]
  refine ⟨rfl, hback, ⟨fun f => ?_, fun g => ?_⟩, fun _ => ⟨rfl, rfl⟩⟩
  · show (if visible r (View.of a r).backend f then a.get f else none).map Leaf.kind
      = (if visible r (View.of b r).backend f then b.get f else none).map Leaf.kind
    rw [hback]
    split
    · next hv => exact hk f (visible_iff.mp hv).1
    · rfl
  · show (r.exposes g && if g = .dataAvailability then (View.of a r).backend.isSome else a.holds g)
      = (r.exposes g && if g = .dataAvailability then (View.of b r).backend.isSome else b.holds g)
    rw [hback]
    cases he : r.exposes g with
    | false => rfl
    | true => rw [hg g he]

theorem of_alike {a b : Bundle} (h : a.Alike b) (r : Role) :
    (View.of a r).Alike (View.of b r) :=
  alike_of_exposed (fun f _ => h.kind f) fun g _ => h.holds g

theorem Alike.quote_group? (h : v.Alike w) (g : Group) :
    ((v.group? g).getD .null).quote = ((w.group? g).getD .null).quote := by
  unfold group?
  rw [(h.strangers g).1, (h.strangers g).2, h.backend]
  by_cases hg : g = .dataAvailability
  · rw [if_pos hg, if_pos hg]
    cases w.backend with
    | none => rfl
    | some x =>
      refine quote_record_congr ?_
      -- the tag is the same, the slots behind it show alike wrappers
      rw [quoteFields_eq_map, quoteFields_eq_map, List.map_cons, List.map_cons]
      congr 1
      rw [← quoteFields_eq_map, ← quoteFields_eq_map]
      exact quoteFields_map_congr fun f _ => h.store.quote_orNull f
  · rw [if_neg hg, if_neg hg]
    exact h.store.quote_group? g

theorem Alike.quoteFields_groups (h : v.Alike w) :
    Raw.quoteFields (v.role.exposedGroups.map fun g => (g.name, (v.group? g).getD .null))
      = Raw.quoteFields (w.role.exposedGroups.map fun g => (g.name, (w.group? g).getD .null)) := by
  rw [h.role]
  exact quoteFields_map_congr fun g _ => h.quote_group? g

theorem Alike.quote_eq (h : v.Alike w) : v.toRaw.quote = w.toRaw.quote := by
  rw [toRaw, toRaw, ← h.role]
  exact quote_record_congr (h.role ▸ h.quoteFields_groups)

theorem Alike.display_eq (h : v.Alike w) : v.toRaw.display = w.toRaw.display := by
  rw [toRaw, toRaw, ← h.role]
  exact display_record_congr (h.role ▸ h.quoteFields_groups)

theorem Alike.dump_eq (h : v.Alike w) : v.dump = w.dump := by
  have hf : v.flatDump = w.flatDump := by
    unfold flatDump
    rw [h.role]
    exact List.map_congr_left fun f _ => by rw [h.store.redactedAt_eq f]
  rw [dump, dump, hf]

/-- Alike views refuse the same paths with the same errors. -/
theorem Alike.reveal (h : v.Alike w) (p : String) :
    SameOutcome (fun _ _ => True) (v.reveal p) (w.reveal p) := by
  cases hp : Field.ofPath? p with
  | none =>
    rw [reveal_of_unknown hp, reveal_of_unknown hp]
    exact .error _
  | some f =>
    obtain rfl := Field.path_of_ofPath? hp
    cases he : v.role.exposes f.group with
    | false =>
      rw [reveal_of_hidden he, reveal_of_hidden (h.role ▸ he), h.role]
      exact .error _
    | true =>
      have hk := h.store.kind f
      rw [reveal_of_exposed he, reveal_of_exposed (h.role ▸ he)]
      cases hv : v.store.get f with
      | none =>
        rw [hv, Option.map_none] at hk
        rw [Option.map_eq_none_iff.mp hk.symm]
        exact .error _
      | some l =>
        rw [hv, Option.map_some] at hk
        obtain ⟨m, hm, -⟩ := Option.map_eq_some_iff.mp hk.symm
        rw [hm]
        exact .ok trivial

end View

/-! ## Two runs -/

/-- What may be seen of two views without revealing the same value: their texts, their dumps, and
which paths they refuse and how. -/
structure View.LooksLike (v w : View) : Prop where
  repr : v.toRaw.quote = w.toRaw.quote
  str : v.toRaw.display = w.toRaw.display
  dump : v.dump = w.dump
  reveal : ∀ p, SameOutcome (fun _ _ => True) (v.reveal p) (w.reveal p)

/-- What may be seen of two bundles: their texts, their dumps, the reports on them, the records that
a validation leaves and its outcome. -/
structure Bundle.LooksLike (a b : Bundle) : Prop where
  repr : a.toRaw.quote = b.toRaw.quote
  str : a.toRaw.display = b.toRaw.display
  dump : a.dump = b.dump
  check : ∀ r, a.check r = b.check r
  logs : ∀ r, (validate a r).logs = (validate b r).logs
  validate : ∀ r, SameOutcome View.LooksLike (validate a r).result (validate b r).result

theorem View.Alike.looksLike {v w : View} (h : v.Alike w) : v.LooksLike w :=
  ⟨h.quote_eq, h.display_eq, h.dump_eq, h.reveal⟩

theorem Bundle.Alike.looksLike {a b : Bundle} (h : a.Alike b) : a.LooksLike b where
  repr := h.quote_eq
  str := h.display_eq
  dump := h.dump_eq
  check := h.check_eq
  logs r := by
    simp only [Credentials.validate, h.check_eq r, h.present_eq]
    split <;> rfl
  validate r := by
    rw [validate_result, validate_result, h.check_eq r]
    split
    · exact .ok (View.of_alike h r).looksLike
    · exact .error _

/-- **Values never show.**

Loads of sources that yield the same paths with alike values leave the same records and end with the
same error, message and all, or with bundles that look alike: in their texts and dumps, in every
report, in every validation with its records and error, and in every view that a validation hands
out, down to the paths that it refuses to reveal. -/
theorem load_noninterference {ss ts : List Source} (h : List.Forall₂ Source.Alike ss ts) :
    (load ss).logs = (load ts).logs
      ∧ SameOutcome Bundle.LooksLike (load ss).result (load ts).result := by
  obtain ⟨hlogs, hres⟩ := load_alike h
  refine ⟨hlogs, ?_⟩
  generalize (load ss).result = x at hres
  generalize (load ts).result = y at hres
  cases hres with
  | error e => exact .error e
  | ok hab => exact .ok hab.looksLike

/-- A deployment's layers, by its endpoint and what stands in the place of its database. -/
def endpointLayers (endpoint database : String) : List Source :=
  [.ofPairs "base" [("l1.l1_rpc_url", .text endpoint)],
    .ofPairs "site" [("database.server_url", .secret .plain (.text database))]]

theorem load_noninterference_endpointLayers :
    List.Forall₂ Source.Alike (endpointLayers "http://a" "") (endpointLayers "ws://long.b" " ")
      ∧ ∃ a b, (load (endpointLayers "http://a" "")).result = .ok a
        ∧ (load (endpointLayers "ws://long.b" " ")).result = .ok b ∧ a.LooksLike b := by
  have h : List.Forall₂ Source.Alike (endpointLayers "http://a" "")
      (endpointLayers "ws://long.b" " ") := by
    refine .cons ⟨rfl, .cons ⟨rfl, .filled rfl rfl ?_ ?_⟩ .nil, rfl⟩
      (.cons ⟨rfl, .cons ⟨rfl, .blank rfl rfl ?_ ?_⟩ .nil, rfl⟩ .nil) <;> decide +kernel
  obtain ⟨-, hres⟩ := load_noninterference h
  obtain ⟨a, ha⟩ : ∃ a, (load (endpointLayers "http://a" "")).result = .ok a := ⟨_, rfl⟩
  obtain ⟨b, hb⟩ : ∃ b, (load (endpointLayers "ws://long.b" " ")).result = .ok b := ⟨_, rfl⟩
  rw [ha, hb] at hres
  cases hres with
  | ok hab => exact ⟨h, a, b, ha, hb, hab⟩

end Credentials
