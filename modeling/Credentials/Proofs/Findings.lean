import Credentials.Proofs.Validation

/-!
# What a check finds

The report on a bundle is determined by which credentials are set. Here the findings are written
down rule by rule in terms of the schema alone (`Findings`), without the library's tables of
requirements and without a choice of backend, and the report is shown to be exactly that list.

* `findings_check` — the issues of a check, as a reader sees them, are the three rules' findings
* `missing_paths_iff` — the single credentials that a report misses are the required ones that the
  bundle does not hold
* `validation_exact` — both together, and a view comes out exactly if nothing was found
-/

namespace Credentials

/-! ## Issues as a reader sees them -/

/-- What a reader sees of an issue. -/
structure Finding where
  path : String
  kind : IssueKind
  rule : String
  reason : String
  paths : List String
  deriving DecidableEq, Repr

/-- An issue as a reader sees it in the report for a role. -/
def Issue.finding (r : Role) (i : Issue) : Finding :=
  ⟨i.path, i.kind, i.rule, i.reason r, i.fields.map Field.path⟩

/-! ## The findings of each rule -/

namespace Findings

/-- A credential that the role needs by itself is not there. -/
def missing (r : Role) (rule path : String) : Finding :=
  ⟨path, .missingRequiredField, rule, "required for role '" ++ r.name ++ "'", [path]⟩

/-- The layer-one endpoint: only the contract verifier does without it. -/
def l1 (b : Bundle) (r : Role) : List Finding :=
  if b.get .l1RpcUrl = none ∧ r ≠ .contractVerifier then [missing r "l1-rpc" "l1.l1_rpc_url"]
  else []

/-- The consensus keys, the node's key before the role's own. -/
def consensus (b : Bundle) (r : Role) : List Finding :=
  (if b.get .nodeKey = none ∧ (r = .validator ∨ r = .consensusParticipant ∨ r = .attester) then
    [missing r "consensus-keys" "consensus.node_key"] else [])
  ++ (if b.get .validatorKey = none ∧ r = .validator then
    [missing r "consensus-keys" "consensus.validator_key"] else [])
  ++ (if b.get .attesterKey = none ∧ r = .attester then
    [missing r "consensus-keys" "consensus.attester_key"] else [])

/-- The backends with at least one credential. -/
def begun (b : Bundle) : List Backend :=
  Backend.all.filter fun x => Field.all.any fun f => f.backend? == some x && b.isSet f

/-- No backend has a credential. -/
def noBackend (r : Role) : Finding :=
  ⟨"da", .missingRequiredField, "da-choice",
    "one data availability backend (avail, celestia, eigen) is required for role '"
      ++ r.name ++ "'", []⟩

/-- The set data-availability credentials, in the order of the schema. -/
def backendPaths (b : Bundle) : List String :=
  (Field.all.filter fun f => f.group == .dataAvailability && b.isSet f).map Field.path

/-- Several backends have credentials. -/
def conflict (b : Bundle) : Finding :=
  ⟨"da", .conflictingVariant, "da-choice",
    "only one data availability backend may be set, found "
      ++ ", ".intercalate ((begun b).map Backend.name) ++ ": " ++ ", ".intercalate (backendPaths b),
    backendPaths b⟩

/-- A credential of a backend is not there. -/
def incomplete (x : Backend) (f : Field) : Finding :=
  ⟨f.path, .partialVariant, "da-choice",
    "'" ++ x.name ++ "' backend is incomplete without this field", [f.path]⟩

/-- The missing credentials of a backend, in the order of the schema. -/
def gaps (b : Bundle) (x : Backend) : List Finding :=
  (Field.all.filter fun f => f.backend? == some x && !b.isSet f).map (incomplete x)

/-- The choice of a backend, by the number of those that were begun. -/
def backend (b : Bundle) (r : Role) : List Finding :=
  if (begun b).length = 0 then if r = .dataAvailabilityClient then [noBackend r] else []
  else if (begun b).length = 1 then
    if r = .dataAvailabilityClient then (begun b).flatMap (gaps b) else []
  else [conflict b]

end Findings

/-! ## The layer-one endpoint and the consensus keys -/

theorem finding_noL1Rpc (r : Role) :
    Issue.noL1Rpc.finding r = Findings.missing r "l1-rpc" "l1.l1_rpc_url" := by
  have hp : Field.l1RpcUrl.path = "l1.l1_rpc_url" := by decide +kernel
  rw [Issue.finding, Issue.path, Issue.fields, List.map_singleton, hp]
  rfl

theorem finding_noConsensusKey (r : Role) {f : Field} {p : String} (hp : f.path = p) :
    (Issue.noConsensusKey f).finding r = Findings.missing r "consensus-keys" p := by
  rw [Issue.finding, Issue.path, Issue.fields, List.map_singleton, hp]
  rfl

theorem findings_l1Issues (b : Bundle) (r : Role) :
    (b.l1Issues r).map (Issue.finding r) = Findings.l1 b r := by
  have hc : (r.needsL1Rpc && !b.isSet .l1RpcUrl) = true
      ↔ b.get .l1RpcUrl = none ∧ r ≠ .contractVerifier := by
    rw [Bool.and_eq_true, Bool.not_eq_true', Bundle.isSet_eq_false_iff, Role.needsL1Rpc, bne_iff_ne]
    exact And.comm
  unfold Bundle.l1Issues Findings.l1
  by_cases h : b.get .l1RpcUrl = none ∧ r ≠ .contractVerifier
  · rw [if_pos (hc.mpr h), if_pos h, List.map_singleton, finding_noL1Rpc]
  · rw [if_neg fun hb => h (hc.mp hb), if_neg h, List.map_nil]

/-- The roles with consensus keys, key by key. -/
theorem Role.consensusKeys_eq (r : Role) :
    r.consensusKeys
      = (if r = .validator ∨ r = .consensusParticipant ∨ r = .attester then [.nodeKey] else [])
        ++ (if r = .validator then [.validatorKey] else [])
        ++ (if r = .attester then [.attesterKey] else []) := by
  cases r <;> rfl

/-- What becomes of a key that is required under a condition. -/
theorem findings_key (b : Bundle) (r : Role) {f : Field} {p : String} (hp : f.path = p)
    (c : Prop) [Decidable c] :
    (((if c then [f] else []).filter (!b.isSet ·)).map Issue.noConsensusKey).map (Issue.finding r)
      = if b.get f = none ∧ c then [Findings.missing r "consensus-keys" p] else [] := by
  by_cases hc : c
  · by_cases hf : b.get f = none
    · have hs : (!b.isSet f) = true := by rw [Bundle.isSet_eq_false_iff.mpr hf]; rfl
      rw [if_pos hc, if_pos ⟨hf, hc⟩, List.filter_cons_of_pos (p := (!b.isSet ·)) hs,
        List.filter_nil, List.map_singleton, List.map_singleton, finding_noConsensusKey r hp]
    · have hs : ¬(!b.isSet f) = true := by
        rw [Bool.not_eq_true', Bundle.isSet_eq_false_iff]
        exact hf
      rw [if_pos hc, if_neg fun h => hf h.1, List.filter_cons_of_neg (p := (!b.isSet ·)) hs]
      rfl
  · rw [if_neg hc, if_neg fun h => hc h.2]
    rfl

theorem findings_consensusIssues (b : Bundle) (r : Role) :
    (b.consensusIssues r).map (Issue.finding r) = Findings.consensus b r := by
  have hn : Field.nodeKey.path = "consensus.node_key" := by decide +kernel
  have hv : Field.validatorKey.path = "consensus.validator_key" := by decide +kernel
  have ha : Field.attesterKey.path = "consensus.attester_key" := by decide +kernel
  rw [Bundle.consensusIssues, Role.consensusKeys_eq]
  simp only [List.filter_append, List.map_append, findings_key b r hn, findings_key b r hv,
    findings_key b r ha, Findings.consensus]

/-! ## The choice of a backend -/

/-- The populated backends are those that were begun. -/
theorem populated_eq_begun (b : Bundle) : b.populated = Findings.begun b := by
  refine List.filter_congr fun x _ => ?_
  rw [Bool.eq_iff_iff, Bool.not_eq_true', List.isEmpty_eq_false_iff, Bundle.presentOf_ne_nil_iff,
    List.any_eq_true]
  constructor
  · rintro ⟨f, hx, hs⟩
    refine ⟨f, Field.mem_all f, ?_⟩
    rw [Bool.and_eq_true, beq_iff_eq]
    exact ⟨hx, hs⟩
  · rintro ⟨f, -, hf⟩
    rw [Bool.and_eq_true, beq_iff_eq] at hf
    exact ⟨f, hf⟩

/-- A backend that is not populated has no credential to add. -/
theorem flatMap_populated (b : Bundle) :
    b.populated.flatMap b.presentOf = Backend.all.flatMap b.presentOf := by
  unfold Bundle.populated
  induction Backend.all with
  | nil => rfl
  | cons x r ih =>
    rw [List.filter_cons]
    split
    · rw [List.flatMap_cons, List.flatMap_cons, ih]
    · next hx =>
      have he : b.presentOf x = [] := by simpa using hx
      rw [ih, List.flatMap_cons, he, List.nil_append]

/-- The credentials of all backends that the bundle holds, in the order of the schema. -/
theorem flatMap_presentOf (b : Bundle) :
    Backend.all.flatMap b.presentOf
      = Field.all.filter fun f => f.group == .dataAvailability && b.isSet f := by
  have h : Backend.all.flatMap b.presentOf = (Backend.all.flatMap Field.ofBackend).filter b.isSet :=
    (List.filter_flatMap).symm
  rw [h, Field.flatMap_ofBackend, Field.ofGroup, List.filter_filter]
  exact List.filter_congr fun f _ => Bool.and_comm _ _

theorem finding_backendConflict (b : Bundle) (r : Role) :
    (Issue.backendConflict b.populated (b.populated.flatMap b.presentOf)).finding r
      = Findings.conflict b := by
  rw [flatMap_populated, flatMap_presentOf, populated_eq_begun]
  rfl

theorem findings_missingOf (b : Bundle) (r : Role) (x : Backend) :
    ((b.missingOf x).map (.backendIncomplete x)).map (Issue.finding r) = Findings.gaps b x := by
  rw [List.map_map, Bundle.missingOf, Field.ofBackend, List.filter_filter]
  unfold Findings.gaps
  congr 1
  exact List.filter_congr fun f _ => Bool.and_comm _ _

theorem reason_noBackend (r : Role) :
    Issue.noBackend.reason r
      = "one data availability backend (avail, celestia, eigen) is required for role '" ++ r.name
        ++ "'" := by
  have h : "one data availability backend (" ++ Issue.listing (Backend.all.map Backend.name)
      ++ ") is required for role '"
      = "one data availability backend (avail, celestia, eigen) is required for role '" := by
    decide +kernel
  unfold Issue.reason
  rw [h]

theorem finding_noBackend (r : Role) : Issue.noBackend.finding r = Findings.noBackend r := by
  rw [Issue.finding, reason_noBackend]
  rfl

theorem findings_backendIssues (b : Bundle) (r : Role) :
    (b.backendIssues r).map (Issue.finding r) = Findings.backend b r := by
  have hr : r.needsBackend = true ↔ r = .dataAvailabilityClient := beq_iff_eq
  unfold Bundle.backendIssues Findings.backend
  rw [← populated_eq_begun]
  -- none, one or several, as the rule itself divides them
  cases hp : b.populated with
  | nil =>
    show (if r.needsBackend = true then [Issue.noBackend] else []).map (Issue.finding r)
      = if r = .dataAvailabilityClient then [Findings.noBackend r] else []
    by_cases h : r = .dataAvailabilityClient
    · rw [if_pos (hr.mpr h), if_pos h, List.map_singleton, finding_noBackend]
    · rw [if_neg fun hb => h (hr.mp hb), if_neg h, List.map_nil]
  | cons x xs =>
    cases xs with
    | nil =>
      show (if r.needsBackend = true then (b.missingOf x).map (.backendIncomplete x) else []).map
          (Issue.finding r)
        = if r = .dataAvailabilityClient then [x].flatMap (Findings.gaps b) else []
      by_cases h : r = .dataAvailabilityClient
      · rw [if_pos (hr.mpr h), if_pos h, findings_missingOf, List.flatMap_singleton]
      · rw [if_neg fun hb => h (hr.mp hb), if_neg h, List.map_nil]
    | cons y ys =>
      show [(Issue.backendConflict (x :: y :: ys) ((x :: y :: ys).flatMap b.presentOf)).finding r]
        = [Findings.conflict b]
      rw [← hp, finding_backendConflict]

/-! ## Missing credentials -/

/-- Of the issues about backends only one is about something missing, and it names no credential. -/
theorem eq_noBackend_of_mem {b : Bundle} {r : Role} {i : Issue} (hi : i ∈ b.backendIssues r)
    (hk : i.kind = .missingRequiredField) : i = .noBackend := by
  unfold Bundle.backendIssues at hi
  split at hi
  · split at hi
    · exact List.mem_singleton.mp hi
    · cases hi
  · split at hi
    · obtain ⟨f, -, rfl⟩ := List.mem_map.mp hi
      cases hk
    · cases hi
  · rw [List.mem_singleton.mp hi] at hk
    cases hk

theorem mem_consensusIssues {b : Bundle} {r : Role} {i : Issue} :
    i ∈ b.consensusIssues r ↔ ∃ f ∈ r.consensusKeys, b.isSet f = false ∧ i = .noConsensusKey f := by
  rw [Bundle.consensusIssues, List.mem_map]
  constructor
  · rintro ⟨f, hf, rfl⟩
    obtain ⟨hm, hs⟩ := List.mem_filter.mp hf
    exact ⟨f, hm, by simpa using hs, rfl⟩
  · rintro ⟨f, hm, hs, rfl⟩
    exact ⟨f, List.mem_filter.mpr ⟨hm, by simpa using hs⟩, rfl⟩

theorem mem_l1Issues {b : Bundle} {r : Role} {i : Issue} :
    i ∈ b.l1Issues r ↔ r.needsL1Rpc = true ∧ b.isSet .l1RpcUrl = false ∧ i = .noL1Rpc := by
  unfold Bundle.l1Issues
  split
  · next h =>
    rw [Bool.and_eq_true, Bool.not_eq_true'] at h
    rw [List.mem_singleton]
    exact ⟨fun hi => ⟨h.1, h.2, hi⟩, fun hi => hi.2.2⟩
  · next h =>
    rw [Bool.and_eq_true, Bool.not_eq_true'] at h
    exact ⟨fun hi => (List.not_mem_nil hi).elim, fun hi => absurd ⟨hi.1, hi.2.1⟩ h⟩

/-- **The credentials that a report misses one by one are those that the role requires and the
bundle does not hold.** -/
theorem missing_paths_iff (b : Bundle) (r : Role) (p : String) :
    (p ≠ "da" ∧ ∃ i ∈ (b.check r).issues, i.kind = .missingRequiredField ∧ i.path = p)
      ↔ p ∈ r.requiredPaths ∧ p ∉ b.presentPaths := by
  rw [Role.mem_requiredPaths]
  constructor
  · rintro ⟨hda, i, hi, hk, rfl⟩
    rcases List.mem_append.mp hi with hi | hi
    · rcases List.mem_append.mp hi with hi | hi
      · obtain ⟨hn, hs, rfl⟩ := mem_l1Issues.mp hi
        refine ⟨⟨.l1RpcUrl, Role.mem_required.mpr (Or.inl ⟨hn, rfl⟩), rfl⟩, fun hp => ?_⟩
        exact Bool.false_ne_true (hs.symm.trans (Bundle.path_mem_presentPaths.mp hp))
      · obtain ⟨f, hf, hs, rfl⟩ := mem_consensusIssues.mp hi
        refine ⟨⟨f, Role.mem_required.mpr (Or.inr hf), rfl⟩, fun hp => ?_⟩
        exact Bool.false_ne_true (hs.symm.trans (Bundle.path_mem_presentPaths.mp hp))
    · rw [eq_noBackend_of_mem hi hk] at hda
      exact absurd rfl hda
  · rintro ⟨⟨f, hf, rfl⟩, hp⟩
    have hs : b.isSet f = false := by
      rw [← Bool.not_eq_true]
      exact fun h => hp (Bundle.path_mem_presentPaths.mpr h)
    refine ⟨Field.path_ne_groupName f .dataAvailability, ?_⟩
    rcases Role.mem_required.mp hf with ⟨hn, rfl⟩ | hk
    · exact ⟨.noL1Rpc, List.mem_append_left _ (List.mem_append_left _
        (mem_l1Issues.mpr ⟨hn, hs, rfl⟩)), rfl, rfl⟩
    · exact ⟨.noConsensusKey f, List.mem_append_left _ (List.mem_append_right _
        (mem_consensusIssues.mpr ⟨f, hk, hs, rfl⟩)), rfl, rfl⟩

/-! ## The whole report -/

/-- The issues of a check, as a reader sees them. -/
theorem findings_check (b : Bundle) (r : Role) :
    (b.check r).issues.map (Issue.finding r)
      = Findings.l1 b r ++ Findings.consensus b r ++ Findings.backend b r := by
  show (b.issues r).map (Issue.finding r) = _
  rw [Bundle.issues, List.map_append, List.map_append, findings_l1Issues,
    findings_consensusIssues, findings_backendIssues]

/-- **What a check finds, and what a validation makes of it.**

The findings are the three rules' lists in their order, whatever the wrappers hold. A validation
fails with the same report exactly if there is a finding, and hands out the role's view otherwise.
-/
theorem validation_exact (b : Bundle) (r : Role) :
    (b.check r).role = r
      ∧ (b.check r).issues.map (Issue.finding r)
          = Findings.l1 b r ++ Findings.consensus b r ++ Findings.backend b r
      ∧ (∀ p, (p ≠ "da" ∧ ∃ i ∈ (b.check r).issues, i.kind = .missingRequiredField ∧ i.path = p)
          ↔ p ∈ r.requiredPaths ∧ p ∉ b.presentPaths)
      ∧ ((validate b r).result = .error (.invalid (b.check r)) ↔ (b.check r).issues ≠ [])
      ∧ ((validate b r).result = .ok (View.of b r) ↔ (b.check r).issues = []) := by
  refine ⟨rfl, findings_check b r, missing_paths_iff b r, ?_, ?_⟩
  · rw [validate_eq_error_iff]
    exact and_iff_left rfl
  · rw [validate_eq_ok_iff]
    exact and_iff_left rfl

end Credentials
