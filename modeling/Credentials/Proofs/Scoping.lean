import Credentials.Proofs.Observation
import Credentials.Proofs.Passing

/-!
# A role sees and is judged by its own groups only

Two bundles that hold the same secrets in the groups of a role, whatever else they hold, get the
same report for the role and, if that is empty, views that cannot be told apart. The one exception
is kept away by a hypothesis: several backends are a violation for every role, also for those that
see none of them.

* `Bundle.check_eq_of_exposed` — the report, from what is set in the role's groups
* `View.same_of_exposed` — the view, from the secrets in the role's groups
* `role_scoping` — both together, for bundles that loads and writes can make
-/

namespace Credentials

variable {a b : Bundle} {r : Role}

/-! ## The report -/

namespace Bundle

theorem l1Issues_eq_of_exposed
    (h : ∀ f : Field, r.exposes f.group = true → a.isSet f = b.isSet f) :
    a.l1Issues r = b.l1Issues r := by
  unfold l1Issues
  cases hn : r.needsL1Rpc with
  | false => rfl
  | true =>
    have hm : Field.l1RpcUrl ∈ r.required := Role.mem_required.mpr (Or.inl ⟨hn, rfl⟩)
    rw [h _ (Role.exposes_of_mem_required hm)]

theorem consensusIssues_eq_of_exposed
    (h : ∀ f : Field, r.exposes f.group = true → a.isSet f = b.isSet f) :
    a.consensusIssues r = b.consensusIssues r := by
  unfold consensusIssues
  congr 1
  refine List.filter_congr fun f hf => ?_
  rw [h f (Role.exposes_of_mem_required (Role.mem_required.mpr (Or.inr hf)))]

/-- A role that sees no backends does not need one, so it has nothing to say about one that was
begun, whether it is complete or not. -/
theorem backendIssues_eq_of_exposed
    (h : ∀ f : Field, r.exposes f.group = true → a.isSet f = b.isSet f)
    (ha : a.OneBackend) (hb : b.OneBackend) : a.backendIssues r = b.backendIssues r := by
  by_cases he : r.exposes .dataAvailability = true
  · exact backendIssues_congr (fun f hf => h f (hf ▸ he)) r
  · have hn : ¬ r.needsBackend = true := fun hn => he (Role.exposes_of_needsBackend hn)
    rw [backendIssues_eq_nil_iff.mpr ⟨ha, fun hr => absurd hr hn⟩,
      backendIssues_eq_nil_iff.mpr ⟨hb, fun hr => absurd hr hn⟩]

/-- **A report depends on what is set in the role's groups, unless there are several backends.** -/
theorem check_eq_of_exposed
    (h : ∀ f : Field, r.exposes f.group = true → a.isSet f = b.isSet f)
    (ha : a.OneBackend) (hb : b.OneBackend) : a.check r = b.check r := by
  rw [check, check, issues, issues, l1Issues_eq_of_exposed h, consensusIssues_eq_of_exposed h,
    backendIssues_eq_of_exposed h ha hb]

end Bundle

/-! ## The view -/

/-- **A view depends on the secrets in the role's groups.** -/
theorem View.same_of_exposed (ha : a.Canonical) (hb : b.Canonical)
    (h : ∀ f : Field, r.exposes f.group = true → SameSecret (a.get f) (b.get f)) :
    (View.of a r).Same (View.of b r) := by
  have hs : ∀ f : Field, r.exposes f.group = true → a.isSet f = b.isSet f :=
    fun f hf => (h f hf).isSome_eq
  have hal : (View.of a r).Alike (View.of b r) :=
    View.alike_of_exposed (fun f hf => (h f hf).map_kind)
      fun g hg => ha.holds_congr hb fun f hf => hs f (hf ▸ hg)
  refine ⟨hal, fun f => ?_⟩
  show SameSecret (if visible r (View.of a r).backend f then a.get f else none)
    (if visible r (View.of b r).backend f then b.get f else none)
  rw [hal.backend]
  split
  · next hv => exact h f (View.visible_iff.mp hv).1
  · exact .none

/-! ## Both -/

/-- **Nothing outside a role's groups influences what the role sees or whether it passes.**

Of two bundles made by loads and writes, each with credentials of one backend at most, let every
credential in the groups of a role compare as equal. Then the reports for the role are the same, and
a validation either fails with that report on both or hands out views that cannot be told apart. -/
theorem role_scoping (ha : Reachable a) (hb : Reachable b) (ha' : a.OneBackend)
    (hb' : b.OneBackend)
    (h : ∀ f : Field, r.exposes f.group = true →
      (Leaf.orNull (a.get f)).equal (Leaf.orNull (b.get f)) = true) :
    a.check r = b.check r
      ∧ SameOutcome View.Indistinguishable (validate a r).result (validate b r).result := by
  have hsec : ∀ f : Field, r.exposes f.group = true → SameSecret (a.get f) (b.get f) := by
    intro f hf
    exact sameSecret_of_equal (fun l hl => ha.sound.asText? hl) (h f hf)
  have hcheck : a.check r = b.check r :=
    Bundle.check_eq_of_exposed (fun f hf => (hsec f hf).isSome_eq) ha' hb'
  refine ⟨hcheck, ?_⟩
  rw [validate_result, validate_result, hcheck]
  split
  · exact .ok (View.same_of_exposed ha.sound.canonical hb.sound.canonical hsec).indistinguishable
  · exact .error _

/-- A deployment with an endpoint and nothing else. -/
def endpointAlone : Bundle := Bundle.empty.write .l1RpcUrl (.secret .nodeKey (.text "http://l1"))

/-- The same endpoint beside a key and a backend that was begun. -/
def endpointAmongOthers : Bundle :=
  Bundle.empty.write .nodeKey (.text "node key")
    |>.write .availSeedPhrase (.text "words")
    |>.write .l1RpcUrl (.text "http://l1")

theorem role_scoping_endpointAmongOthers :
    ∃ v w, (validate endpointAlone .prover).result = .ok v
      ∧ (validate endpointAmongOthers .prover).result = .ok w
      ∧ endpointAmongOthers.isSet .nodeKey = true ∧ v.Indistinguishable w := by
  have ha : Reachable endpointAlone := Reachable.empty.write .l1RpcUrl (Or.inr ⟨_, rfl⟩)
  have hb : Reachable endpointAmongOthers :=
    ((Reachable.empty.write .nodeKey (Or.inr ⟨_, rfl⟩)).write .availSeedPhrase
      (Or.inr ⟨_, rfl⟩)).write .l1RpcUrl (Or.inr ⟨_, rfl⟩)
  have hone : endpointAlone.OneBackend := Bundle.oneBackend_iff.mpr (Or.inl (by decide +kernel))
  have hone' : endpointAmongOthers.OneBackend :=
    Bundle.oneBackend_iff.mpr (Or.inr ⟨.avail, by decide +kernel⟩)
  have hsecret : ∀ f : Field, Role.prover.exposes f.group = true →
      (Leaf.orNull (endpointAlone.get f)).equal (Leaf.orNull (endpointAmongOthers.get f))
        = true := by
    intro f hf
    refine SameSecret.equal ?_
    cases f with
    | l1RpcUrl => exact .some rfl rfl rfl
    | serverUrl | serverReplicaUrl | proverUrl | gatewayRpcUrl => exact .none
    | _ => cases hf
  obtain ⟨-, hres⟩ := role_scoping ha hb hone hone' hsecret
  have hv := validate_eq_ok_iff.mpr ⟨show endpointAlone.issues .prover = [] by decide +kernel, rfl⟩
  have hw := validate_eq_ok_iff.mpr
    ⟨show endpointAmongOthers.issues .prover = [] by decide +kernel, rfl⟩
  rw [hv, hw] at hres
  cases hres with
  | ok h => exact ⟨_, _, hv, hw, rfl, h⟩

end Credentials
