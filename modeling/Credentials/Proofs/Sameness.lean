import Credentials.Record

/-!
# Twins

Two values are twins if they compare as the same and their digests agree, so that neither a
comparison nor a hash tells them apart. Texts of one content are twins, a role and its name among
them, and what is put together alike from twins is a twin again: wrappers, slots, records.

* `Raw.Twin.of_asText?`, `Raw.Twin.secret`, `Raw.Twin.record`, `Raw.Twin.view` — how twins arise
* `Raw.Twin.sameHash` — twins have equal hashes
-/

namespace Credentials

/-- Two values that compare as the same and have digests that agree. -/
structure Raw.Twin (v w : Raw) : Prop where
  same : v.same w = true
  digest : ∃ d e, v.digest = .ok d ∧ w.digest = .ok e ∧ d.agree e = true

/-- Two lists of slots that hold twins under the same names. -/
structure Slots.Twin (xs ys : Slots) : Prop where
  same : Raw.sameFields xs ys = true
  digest : ∃ ds es, Raw.digestFields xs = .ok ds ∧ Raw.digestFields ys = .ok es
    ∧ Digest.agreeAll ds es = true

/-! ## Texts -/

theorem unitsDigest_agree_self (bs : List UInt8) :
    (Raw.unitsDigest bs).agree (Raw.unitsDigest bs) = true := by
  unfold Raw.unitsDigest
  split
  · rw [Digest.agree, beq_self_eq_true]
  · rw [Digest.agree, beq_self_eq_true]

/-- A text is the same as any text of its content, and as nothing else. -/
theorem same_iff_of_asText? {v w : Raw} {s : String} (h : v.asText? = some s) :
    v.same w = true ↔ w.asText? = some s := by
  cases v with
  | text t =>
    obtain rfl := Option.some.inj h
    rw [Raw.same, beq_iff_eq]
  | role r =>
    obtain rfl := Option.some.inj h
    rw [Raw.same, beq_iff_eq]
  | _ => cases h

theorem digest_of_asText? {v : Raw} {s : String} (h : v.asText? = some s) :
    v.digest = .ok (Raw.unitsDigest (Raw.storedUnits s)) := by
  cases v with
  | text t =>
    obtain rfl := Option.some.inj h
    rw [Raw.digest]
  | role r =>
    obtain rfl := Option.some.inj h
    rw [Raw.digest]
  | _ => cases h

namespace Raw.Twin

variable {v w : Raw}

theorem null : Twin .null .null where
  same := by rw [Raw.same]
  digest := ⟨.none, .none, by rw [Raw.digest], by rw [Raw.digest], by rw [Digest.agree]⟩

/-- Texts of one content are twins. -/
theorem of_asText? {s : String} (hv : v.asText? = some s) (hw : w.asText? = some s) :
    v.Twin w where
  same := (same_iff_of_asText? hv).mpr hw
  digest := ⟨_, _, digest_of_asText? hv, digest_of_asText? hw, unitsDigest_agree_self _⟩

theorem secret (k : SecretKind) (h : v.Twin w) : (Raw.secret k v).Twin (.secret k w) where
  same := by rw [Raw.same, beq_self_eq_true, h.same, Bool.and_true]
  digest := by rw [Raw.digest, Raw.digest]; exact h.digest

/-- Twins have equal hashes. -/
theorem sameHash (h : v.Twin w) : Credentials.sameHash v w = .ok true := by
  obtain ⟨d, e, hd, he, ha⟩ := h.digest
  simp only [Credentials.sameHash, digestOf, hd, he, ha]

/-- Twins compare as equal, unless they are not-a-number. -/
theorem equal (h : v.Twin w) (hn : v.isBareNan = false) : v.equal w = true := by
  rw [Raw.equal, hn, h.same, Bool.not_false, Bool.and_true]

end Raw.Twin

/-! ## Slots -/

namespace Slots.Twin

theorem nil : Slots.Twin [] [] where
  same := by rw [Raw.sameFields]
  digest := ⟨[], [], by rw [Raw.digestFields], by rw [Raw.digestFields], by rw [Digest.agreeAll]⟩

theorem cons {xs ys : Slots} (n : String) {v w : Raw} (h : v.Twin w) (hr : Slots.Twin xs ys) :
    Slots.Twin ((n, v) :: xs) ((n, w) :: ys) where
  same := by rw [Raw.sameFields, beq_self_eq_true, h.same, hr.same, Bool.and_true, Bool.and_true]
  digest := by
    obtain ⟨d, e, hd, he, ha⟩ := h.digest
    obtain ⟨ds, es, hds, hes, has⟩ := hr.digest
    refine ⟨d :: ds, e :: es, ?_, ?_, ?_⟩
    · rw [Raw.digestFields, hd, hds]
      rfl
    · rw [Raw.digestFields, he, hes]
      rfl
    · rw [Digest.agreeAll, ha, has, Bool.and_true]

theorem map {α : Type} {xs : List α} {name : α → String} {x y : α → Raw}
    (h : ∀ a ∈ xs, (x a).Twin (y a)) :
    Slots.Twin (xs.map fun a => (name a, x a)) (xs.map fun a => (name a, y a)) := by
  induction xs with
  | nil => exact nil
  | cons a r ih =>
    exact cons _ (h a List.mem_cons_self) (ih fun b hb => h b (List.mem_cons_of_mem a hb))

end Slots.Twin

/-! ## Records -/

/-- The digest of a record's slots: of one slot alone, the digest of its content. -/
def Digest.ofSlots : List Digest → Digest
  | [d] => d
  | ds => .items ds

theorem Digest.agree_ofSlots {ds es : List Digest} (h : Digest.agreeAll ds es = true) :
    (Digest.ofSlots ds).agree (Digest.ofSlots es) = true := by
  match ds, es, h with
  | [], [], h => exact h
  | [d], [e], h => exact (Bool.and_eq_true_iff.mp h).1
  | d :: d' :: ds, e :: e' :: es, h => exact h
  | [d], e :: e' :: es, h => simp [agreeAll] at h
  | d :: d' :: ds, [e], h => simp [agreeAll] at h

/-- Slots are digested one after the other. -/
theorem digestFields_cons_ok {n : String} {x : Raw} {xs : List (String × Raw)} {ds : List Digest}
    (h : Raw.digestFields ((n, x) :: xs) = .ok ds) :
    ∃ d ds', x.digest = .ok d ∧ Raw.digestFields xs = .ok ds' ∧ ds = d :: ds' := by
  rw [Raw.digestFields] at h
  cases hd : x.digest with
  | error e =>
    rw [hd] at h
    cases h
  | ok d =>
    cases hds : Raw.digestFields xs with
    | error e =>
      rw [hd, hds] at h
      cases h
    | ok ds' =>
      rw [hd, hds] at h
      exact ⟨d, ds', rfl, rfl, (Except.ok.inj h).symm⟩

/-- The record of a group or of a backend is digested by its slots. -/
theorem digest_record {c : RecordClass} (hb : c ≠ .bundle) (hv : ∀ r, c ≠ .view r) {xs : Slots}
    {ds : List Digest} (h : Raw.digestFields xs = .ok ds) :
    (Raw.record c xs).digest = .ok (.ofSlots ds) := by
  match xs, h with
  | [], h =>
    obtain rfl := Except.ok.inj h
    cases c with
    | bundle => exact absurd rfl hb
    | view r => exact absurd rfl (hv r)
    | _ => rfl
  | [(n, x)], h =>
    obtain ⟨d, ds', hd, hds, rfl⟩ := digestFields_cons_ok h
    obtain rfl := Except.ok.inj hds
    cases c with
    | bundle => exact absurd rfl hb
    | view r => exact absurd rfl (hv r)
    | _ => exact hd
  | (n, x) :: (m, y) :: xs, h =>
    have hr : (Raw.record c ((n, x) :: (m, y) :: xs)).digest
        = (Raw.digestFields ((n, x) :: (m, y) :: xs)).map .items := by
      cases c with
      | bundle => exact absurd rfl hb
      | view r => exact absurd rfl (hv r)
      | _ => rfl
    obtain ⟨d, ds', -, hds, rfl⟩ := digestFields_cons_ok h
    obtain ⟨d', ds'', -, -, rfl⟩ := digestFields_cons_ok hds
    rw [hr, h]
    rfl

namespace Raw.Twin

theorem same_record (c : RecordClass) {xs ys : Slots} (h : Slots.Twin xs ys) :
    (Raw.record c xs).same (.record c ys) = true := by
  rw [Raw.same, beq_self_eq_true, h.same, Bool.and_true]

/-- Groups and backends' records of twins are twins. -/
theorem record {c : RecordClass} (hb : c ≠ .bundle) (hv : ∀ r, c ≠ .view r) {xs ys : Slots}
    (h : Slots.Twin xs ys) : (Raw.record c xs).Twin (.record c ys) where
  same := same_record c h
  digest := by
    obtain ⟨ds, es, hds, hes, ha⟩ := h.digest
    exact ⟨_, _, digest_record hb hv hds, digest_record hb hv hes, Digest.agree_ofSlots ha⟩

/-- Views of one role whose groups are twins are twins. -/
theorem view (r : Role) {xs ys : Slots} (h : Slots.Twin xs ys) :
    (Raw.record (.view r) xs).Twin (.record (.view r) ys) where
  same := same_record _ h
  digest := by
    obtain ⟨ds, es, hds, hes, ha⟩ := h.digest
    have hd : ∀ zs fs, Raw.digestFields zs = .ok fs → (Raw.record (.view r) zs).digest
        = .ok (.items [Raw.unitsDigest (Raw.storedUnits r.name), .items fs]) := by
      intro zs fs hz
      rw [Raw.digest, hz]
      rfl
    refine ⟨_, _, hd xs ds hds, hd ys es hes, ?_⟩
    simp only [Digest.agree, Digest.agreeAll, unitsDigest_agree_self, ha, Bool.and_true]

end Raw.Twin

end Credentials
