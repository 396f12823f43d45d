import Credentials.Proofs.Alike
import Credentials.Proofs.Growth
import Credentials.Proofs.LetterCase
import Credentials.Source.Environment
import Mathlib.Data.List.Nodup

/-!
# Variables and credentials

Every credential has a variable of its own. A prefix does not change that, whatever text it is:
upper case goes character by character, so a prefix lengthens all names by the same text. An
environment therefore tells of each credential by one variable and of nothing else, and a load that
it ends depends on it in the same way.

* `variableName_injective` — different credentials have different variables
* `mem_ofEnvironment`, `paths_ofEnvironment` — the pairs of an environment, and their order
* `get_eq_of_variable` — a credential of a load depends on its own variable
* `load_of_fault_before` — what fails before the environment does not depend on it

Main statement: `variables_one_to_one`.
-/

namespace Credentials

open Text

/-! ## Names of variables -/

/-- The path of a credential with underscores for dots. -/
def Field.underscored (f : Field) : List Char := f.path.toList.map fun c => if c = '.' then '_' else c

theorem Field.isAscii_underscored (f : Field) : ∀ c ∈ f.underscored, IsAscii c := by
  have hall : f.underscored.all (fun c => decide (IsAscii c)) = true := by
    cases f <;> decide +kernel
  exact fun c hc => of_decide_eq_true (List.all_eq_true.mp hall c hc)

theorem variableBase_path (f : Field) :
    variableBase f.path = String.ofList (f.underscored.map Char.toUpper) :=
  upper_of_ascii f.isAscii_underscored

/-- The variables without a prefix are in capitals, so they are their own upper case. -/
theorem upper_variableBase (f : Field) : upper (variableBase f.path) = variableBase f.path := by
  have hcapital : ∀ c, IsAscii c → c.toUpper.toUpper = c.toUpper :=
    forall_isAscii (by decide +kernel)
  rw [variableBase_path, upper_of_ascii (List.forall_mem_map.mpr fun c hc =>
    isAscii_toUpper c (f.isAscii_underscored c hc)), List.map_map]
  exact congrArg String.ofList (List.map_congr_left fun c hc =>
    hcapital c (f.isAscii_underscored c hc))

theorem variableBase_injective {f g : Field} (h : variableBase f.path = variableBase g.path) :
    f = g := by
  have hnodup : (Field.all.map fun f => f.underscored.map Char.toUpper).Nodup := by decide +kernel
  rw [variableBase_path, variableBase_path] at h
  exact List.inj_on_of_nodup_map hnodup (Field.mem_all f) (Field.mem_all g) (String.ofList_inj.mp h)

/-- **The variable of a credential under a prefix**: the prefix in capitals, an underscore, and the
variable without a prefix. -/
theorem variableName_of_prefixed {pre : String} (h : pre.isEmpty = false) (f : Field) :
    variableName pre f.path = upper pre ++ "_" ++ variableBase f.path := by
  rw [variableName_eq_append h, upper_variableBase]
  rfl

/-- **Different credentials have different variables, whatever the prefix.** -/
theorem variableName_injective {pre : String} {f g : Field}
    (h : variableName pre f.path = variableName pre g.path) : f = g := by
  refine variableBase_injective ?_
  cases hp : pre.isEmpty with
  | true => simpa only [variableName, hp, if_true] using h
  | false =>
    rw [variableName_of_prefixed hp, variableName_of_prefixed hp] at h
    exact (String.append_right_inj _).mp h

/-! ## The pairs of an environment -/

/-- One more assignment leaves the other variables as they were. -/
theorem Environment.get?_concat_of_ne (env : Environment) {x y : String} (value : String)
    (h : y ≠ x) : Environment.get? (env ++ [(x, value)]) y = env.get? y := by
  rw [get?, List.reverse_append, List.reverse_singleton, List.singleton_append,
    List.find?_cons_of_neg (by simpa using h.symm), get?]

section Pairs

variable (name pre : String) (env : Environment)

/-- The credentials whose variables are set, in the order of the schema. -/
def Environment.fields (env : Environment) (pre : String) : List Field :=
  Field.all.filter fun f => (env.get? (variableName pre f.path)).isSome

/-- The paths of the pairs are those of the credentials whose variables are set. -/
theorem paths_ofEnvironment :
    (Source.ofEnvironment name pre env).pairs.map Prod.fst = (env.fields pre).map Field.path := by
  have hall : ∀ fs : List Field,
      (fs.filterMap fun f => (env.get? (variableName pre f.path)).map fun v =>
          (f.path, Raw.text v)).map Prod.fst
        = (fs.filter fun f => (env.get? (variableName pre f.path)).isSome).map Field.path := by
    intro fs
    induction fs with
    | nil => rfl
    | cons f fs ih =>
      rw [List.filterMap_cons, List.filter_cons]
      cases env.get? (variableName pre f.path) with
      | none => exact ih
      | some v => exact congrArg (f.path :: ·) ih
  exact hall Field.all

variable {name pre env}

/-- **A pair of an environment is a credential's path with the value of its variable.** -/
theorem mem_ofEnvironment {p : String} {v : Raw} :
    (p, v) ∈ (Source.ofEnvironment name pre env).pairs
      ↔ ∃ (f : Field) (s : String), f.path = p ∧ env.get? (variableName pre f.path) = some s
        ∧ v = .text s := by
  refine List.mem_filterMap.trans ⟨?_, ?_⟩
  · rintro ⟨f, -, hf⟩
    obtain ⟨s, hs, hp⟩ := Option.map_eq_some_iff.mp hf
    obtain ⟨rfl, rfl⟩ := Prod.mk.inj hp
    exact ⟨f, s, rfl, hs, rfl⟩
  · rintro ⟨f, s, rfl, hs, rfl⟩
    exact ⟨f, Field.mem_all f, Option.map_eq_some_iff.mpr ⟨s, hs, rfl⟩⟩

theorem not_badPair_of_mem_ofEnvironment {p : Pair}
    (h : p ∈ (Source.ofEnvironment name pre env).pairs) : ¬ BadPair p := by
  obtain ⟨f, s, hf, -, hv⟩ := mem_ofEnvironment.mp h
  exact not_badPair_iff.mpr ⟨⟨f, hf⟩, Or.inr ⟨s, by rw [hv]; rfl⟩⟩

/-- A credential is found among the pairs of an environment by its variable alone. -/
theorem lastValue?_ofEnvironment (name pre : String) (env : Environment) (f : Field) :
    lastValue? (Source.ofEnvironment name pre env).pairs f.path
      = (env.get? (variableName pre f.path)).map Raw.text := by
  have hpairs : (Source.ofEnvironment name pre env).pairs = Field.all.filterMap fun g =>
      ((env.get? (variableName pre g.path)).map Raw.text).map fun x => (g.path, x) := by
    refine List.filterMap_congr fun g _ => ?_
    rw [Option.map_map]
    rfl
  rw [hpairs, lastValue?_filterMap, if_pos (Field.mem_all f)]

/-- Environments that agree on the variables of credentials are the same source. -/
theorem ofEnvironment_congr {env' : Environment}
    (h : ∀ f : Field, env.get? (variableName pre f.path) = env'.get? (variableName pre f.path)) :
    Source.ofEnvironment name pre env = Source.ofEnvironment name pre env' := by
  refine congrArg (Source.ofPairs name) (List.filterMap_congr fun f _ => ?_)
  rw [h f]

end Pairs

/-! ## Loads that an environment ends -/

/-- Layers with an environment over them. -/
def withEnvironment (layers : List Layer) (name pre : String) (env : Environment) : List Layer :=
  layers ++ [.source (.ofEnvironment name pre env)]

section Loads

variable {layers : List Layer} {name pre : String} {env env' : Environment}

theorem good_ofEnvironment (name pre : String) (env : Environment) :
    (Layer.source (.ofEnvironment name pre env)).Good :=
  ⟨rfl, fun _ => not_badPair_of_mem_ofEnvironment⟩

/-- What ends a load before the environment ends it with the environment too. -/
theorem load_of_fault_before {e : Error} (h : (load (Source.ofLayers layers)).result = .error e)
    (l : Layer) : (load (Source.ofLayers (layers ++ [l]))).result = .error e := by
  have hm : (merge (Source.ofLayers layers)).result = .error e := by
    cases hm : (merge (Source.ofLayers layers)).result with
    | ok w =>
      rw [load_of_merge_ok hm] at h
      cases h
    | error e' =>
      rw [load_of_merge_error hm] at h
      exact congrArg Except.error (Except.error.inj h)
  have happend : (merge (Source.ofLayers (layers ++ [l]))).result = .error e := by
    rw [Source.ofLayers, List.mapIdx_concat, merge, mergeFrom_append]
    simp only [Logged.andThen]
    rw [show (mergeFrom [] (layers.mapIdx Layer.toSource)).result = .error e from hm]
  rw [load_of_merge_error happend]

/-- **A credential of a load depends on its own variable.** -/
theorem get_eq_of_variable {b c c' : Bundle} {f : Field}
    (hc : b.Overlay (Layer.source (.ofEnvironment name pre env)).pairs c)
    (hc' : b.Overlay (Layer.source (.ofEnvironment name pre env')).pairs c')
    (h : env.get? (variableName pre f.path) = env'.get? (variableName pre f.path)) :
    c.get f = c'.get f := by
  have hlast := lastValue?_ofEnvironment name pre env f
  have hlast' := lastValue?_ofEnvironment name pre env' f
  rw [← h] at hlast'
  cases hv : env.get? (variableName pre f.path) with
  | none =>
    rw [hv] at hlast hlast'
    rw [hc.kept f hlast, hc'.kept f hlast']
  | some s =>
    rw [hv] at hlast hlast'
    rw [hc.given f _ hlast, hc'.given f _ hlast']

/-- Two bundles that differ at one path at most, which is that of a variable. -/
structure DifferByVariable (pre x : String) (a b : Bundle) : Prop where
  own : ∀ f, a.get f ≠ b.get f → variableName pre f.path = x
  once : ∀ f g, a.get f ≠ b.get f → a.get g ≠ b.get g → f = g

/-- **One variable decides about one path of a load at most.** -/
theorem sameOutcome_of_variable {x : String} (h : ∀ y, y ≠ x → env.get? y = env'.get? y) :
    SameOutcome (DifferByVariable pre x)
      (load (Source.ofLayers (withEnvironment layers name pre env))).result
      (load (Source.ofLayers (withEnvironment layers name pre env'))).result := by
  unfold withEnvironment
  cases hb : (load (Source.ofLayers layers)).result with
  | error e =>
    rw [load_of_fault_before hb, load_of_fault_before hb]
    exact .error e
  | ok b =>
    obtain ⟨c, hc, hover⟩ := load_append_singleton hb (good_ofEnvironment name pre env)
    obtain ⟨c', hc', hover'⟩ := load_append_singleton hb (good_ofEnvironment name pre env')
    rw [hc, hc']
    have hvariable : ∀ f, c.get f ≠ c'.get f → variableName pre f.path = x := by
      intro f hne
      refine Classical.byContradiction fun hx => hne ?_
      exact get_eq_of_variable hover hover' (h _ hx)
    refine .ok ⟨hvariable, fun f g hf hg => ?_⟩
    exact variableName_injective ((hvariable f hf).trans (hvariable g hg).symm)

end Loads

/-- **Variables and credentials correspond one to one.**

Whatever the prefix, different credentials have different variables. The pairs of an environment
come in the order of the schema, each path at most once, and are exactly the paths of the
credentials whose variables are set, with the values of these, empty ones included. So two
environments that differ in one variable end the same layers alike: with the same error, or in
bundles that differ at one path at most, the one of that variable. And two environments that agree
on the variables of credentials give the same records and the same outcome, whatever layers stand
before them and after them. -/
theorem variables_one_to_one (name pre : String) :
    (∀ f g : Field, variableName pre f.path = variableName pre g.path → f = g)
      ∧ (∀ env : Environment,
          ((Source.ofEnvironment name pre env).pairs.map Prod.fst).Sublist
              (Field.all.map Field.path)
            ∧ ((Source.ofEnvironment name pre env).pairs.map Prod.fst).Nodup
            ∧ (∀ p v, (p, v) ∈ (Source.ofEnvironment name pre env).pairs
              ↔ ∃ (f : Field) (s : String), f.path = p
                ∧ env.get? (variableName pre f.path) = some s ∧ v = .text s)
            ∧ (Source.ofEnvironment name pre env).fault = none)
      ∧ (∀ (layers : List Layer) (env env' : Environment) (x : String),
          (∀ y, y ≠ x → env.get? y = env'.get? y) →
          SameOutcome (DifferByVariable pre x)
            (load (Source.ofLayers (withEnvironment layers name pre env))).result
            (load (Source.ofLayers (withEnvironment layers name pre env'))).result)
      ∧ ∀ (layers after : List Layer) (env env' : Environment),
          (∀ f : Field,
            env.get? (variableName pre f.path) = env'.get? (variableName pre f.path)) →
          load (Source.ofLayers (withEnvironment layers name pre env ++ after))
            = load (Source.ofLayers (withEnvironment layers name pre env' ++ after)) := by
  refine ⟨fun f g => variableName_injective, fun env => ⟨?_, ?_, fun p v => mem_ofEnvironment, rfl⟩,
    fun layers env env' x h => sameOutcome_of_variable h, fun layers after env env' h => ?_⟩
  · rw [paths_ofEnvironment]
    exact List.filter_sublist.map _
  · rw [paths_ofEnvironment]
    exact Field.nodup_map_path (Field.nodup_all.filter _)
  · unfold withEnvironment
    rw [ofEnvironment_congr h]

/-- Variables under the prefix `straße`, which upper case lengthens, and another one. -/
def siteVariables : Environment :=
  [("STRASSE_L1_L1_RPC_URL", "http://l1"), ("STRASSE_DATABASE_SERVER_URL", ""), ("HOME", "/root")]

/-- A layer below the variables. -/
def siteDefaults : List Layer := [.mapping [(.text "l1.gateway_rpc_url", .text "http://gateway")]]

theorem variables_one_to_one_sharpS :
    ("l1.l1_rpc_url", .text "http://l1") ∈ (Source.ofEnvironment "env" "straße" siteVariables).pairs
      ∧ ("database.server_url", .text "")
        ∈ (Source.ofEnvironment "env" "straße" siteVariables).pairs
      ∧ SameOutcome (DifferByVariable "straße" "STRASSE_L1_L1_RPC_URL")
        (load (Source.ofLayers (withEnvironment siteDefaults "env" "straße" siteVariables))).result
        (load (Source.ofLayers (withEnvironment siteDefaults "env" "straße"
          (siteVariables ++ [("STRASSE_L1_L1_RPC_URL", "http://l2")])))).result
      ∧ load (Source.ofLayers (withEnvironment siteDefaults "env" "straße" siteVariables ++ []))
        = load (Source.ofLayers (withEnvironment siteDefaults "env" "straße"
          (siteVariables ++ [("HOME", "/tmp")]) ++ [])) := by
  obtain ⟨-, hpairs, hone, hagree⟩ := variables_one_to_one "env" "straße"
  obtain ⟨-, -, hmem, -⟩ := hpairs siteVariables
  have hprefix : upper "straße" = "STRASSE" := by decide +kernel
  have hname : ∀ f : Field, variableName "straße" f.path = "STRASSE_" ++ variableBase f.path :=
    fun f => by
      rw [variableName_of_prefixed (by decide +kernel), hprefix]
      rfl
  refine ⟨(hmem _ _).mpr ⟨.l1RpcUrl, _, rfl, ?_, rfl⟩, (hmem _ _).mpr ⟨.serverUrl, _, rfl, ?_, rfl⟩,
    hone _ _ _ _ fun y hy => (siteVariables.get?_concat_of_ne _ hy).symm,
    hagree _ _ _ _ fun f => (siteVariables.get?_concat_of_ne _ fun he => ?_).symm⟩
  · rw [hname, variableBase_path]
    decide +kernel
  · rw [hname, variableBase_path]
    decide +kernel
  · -- the names under the prefix are longer than that of the home directory
    have hlength := congrArg String.length (hname f ▸ he)
    rw [String.length_append] at hlength
    have hlong : 8 ≤ "STRASSE_".length := by decide
    have hshort : "HOME".length = 4 := by decide
    omega

end Credentials
