import Credentials.CommandLine.Run

/-!
# What a refusal is worded with

The words of a report come from the schema alone: names of roles, paths, backends and rules. None of
them has a control character, so a report is shown as it stands, one line to an issue.

* `Text.withoutSequences_of_plain`, `Text.withoutReturns_of_within` — such texts are shown unchanged
* `Issue.plain_reason` — the reason of an issue is such a text
* `lines_refusedLines` — a refusal is shown line by line, each line as it is worded
-/

namespace Credentials

namespace Text

/-! ## Texts by their characters -/

variable {p q : Char → Prop} {s t : String}

/-- A text all of whose characters have a property. -/
def Within (p : Char → Prop) (s : String) : Prop := ∀ c ∈ s.toList, p c

instance [DecidablePred p] : Decidable (Within p s) := List.decidableBAll p s.toList

theorem Within.imp (h : Within p s) (hpq : ∀ c, p c → q c) : Within q s :=
  fun c hc => hpq c (h c hc)

theorem Within.append (hs : Within p s) (ht : Within p t) : Within p (s ++ t) := by
  intro c hc
  rw [String.toList_append, List.mem_append] at hc
  exact hc.elim (hs c) (ht c)

theorem Within.join {ss : List String} (h : ∀ s ∈ ss, Within p s) : Within p (String.join ss) := by
  induction ss with
  | nil => exact fun c hc => absurd hc List.not_mem_nil
  | cons s ss ih =>
    rw [String.join_cons]
    exact (h s List.mem_cons_self).append (ih fun t ht => h t (List.mem_cons_of_mem s ht))

theorem Within.intercalate (ht : Within p t) {ss : List String} (h : ∀ s ∈ ss, Within p s) :
    Within p (t.intercalate ss) := by
  induction ss with
  | nil => exact fun c hc => absurd hc List.not_mem_nil
  | cons s ss ih =>
    have hs : Within p s := h s List.mem_cons_self
    cases ss with
    | nil => rwa [String.intercalate_singleton]
    | cons s' ss =>
      rw [String.intercalate_cons_cons]
      exact (hs.append ht).append (ih fun u hu => h u (List.mem_cons_of_mem s hu))

/-- A text that holds no control character below the blank: it has one line and moves no cursor. -/
abbrev Plain (s : String) : Prop := Within (fun c => 0x20 ≤ c.toNat) s

theorem Plain.newline_not_mem (h : Plain s) : '\n' ∉ s.toList := fun hm =>
  absurd (h _ hm) (by decide)

theorem withoutSequences_of_plain (h : Plain s) : withoutSequences s = s := by
  have hm : escapeMark ∉ s.toList := fun hm => absurd (h _ hm) (by decide)
  rw [withoutSequences, dropSequences_of_not_mem hm, String.ofList_toList]

theorem withoutReturns_of_within (h : Within (· ≠ '\r') s) : withoutReturns s = s := by
  have hm : '\r' ∉ s.toList := fun hm => h _ hm rfl
  rw [withoutReturns, unifyReturns_of_not_mem hm, String.ofList_toList]

/-! ## Lines -/

/-- Lines, each ended by a line feed. -/
def endedLines (ls : List String) : String := String.join (ls.map (· ++ "\n"))

/-- Plain lines hold no carriage return. -/
theorem within_endedLines {ls : List String} (h : ∀ s ∈ ls, Plain s) :
    Within (· ≠ '\r') (endedLines ls) := by
  refine Within.join fun s hs => ?_
  obtain ⟨l, hl, rfl⟩ := List.mem_map.mp hs
  refine ((h l hl).imp ?_).append (by decide)
  rintro _ hc rfl
  exact absurd hc (by decide)

/-- Plain lines are shown as they stand. -/
theorem lines_of_plain {ls : List String} (h : ∀ s ∈ ls, Plain s) :
    CommandLine.Command.lines ls = endedLines ls := by
  refine congrArg String.join (List.map_congr_left fun s hs => ?_)
  exact congrArg (· ++ "\n") (withoutSequences_of_plain (h s hs))

end Text

open Text

/-! ## Names -/

theorem Role.plain_name (r : Role) : Plain r.name := by
  cases r <;> decide

theorem Backend.plain_name (x : Backend) : Plain x.name := by
  cases x <;> decide

theorem Field.plain_path (f : Field) : Plain f.path := by
  cases f <;> decide +kernel

theorem IssueKind.plain_name (k : IssueKind) : Plain k.name := by
  cases k <;> decide

/-! ## Issues -/

namespace Issue

theorem plain_path (i : Issue) : Plain i.path := by
  cases i with
  | noL1Rpc => exact Field.plain_path _
  | noConsensusKey key => exact Field.plain_path _
  | backendIncomplete x f => exact Field.plain_path _
  | _ => exact (by decide : Plain Group.dataAvailability.name)

theorem plain_rule (i : Issue) : Plain i.rule := by
  cases i with
  | noL1Rpc => exact (by decide : Plain "l1-rpc")
  | noConsensusKey key => exact (by decide : Plain "consensus-keys")
  | _ => exact (by decide : Plain "da-choice")

/-- Plain names with commas between them are a plain text. -/
theorem plain_listing {α : Type} {name : α → String} (h : ∀ a, Plain (name a)) (as : List α) :
    Plain (listing (as.map name)) := by
  refine Within.intercalate (by decide) fun s hs => ?_
  obtain ⟨a, -, rfl⟩ := List.mem_map.mp hs
  exact h a

theorem plain_reason (r : Role) (i : Issue) : Plain (i.reason r) := by
  have hrequired : Plain ("required for role '" ++ r.name ++ "'") :=
    (Within.append (by decide) r.plain_name).append (by decide)
  cases i with
  | noL1Rpc => exact hrequired
  | noConsensusKey key => exact hrequired
  | noBackend =>
    exact ((((Within.append (by decide) (plain_listing Backend.plain_name _)).append
      (by decide)).append r.plain_name).append (by decide))
  | backendConflict xs fs =>
    exact ((Within.append (by decide) (plain_listing Backend.plain_name xs)).append
      (by decide)).append (plain_listing Field.plain_path fs)
  | backendIncomplete x f =>
    exact (Within.append (by decide) x.plain_name).append (by decide)

theorem plain_digest (i : Issue) : Plain i.digest :=
  (((i.plain_rule.append (by decide)).append i.kind.plain_name).append (by decide)).append
    i.plain_path

end Issue

/-! ## Refusals -/

namespace CommandLine

/-- The line that comes before the issues. -/
def headerLine (r : Role) : String := "Secrets are invalid for role '" ++ r.name ++ "':"

/-- The line of an issue. -/
def issueLine (r : Role) (i : Issue) : String :=
  "  [" ++ i.kind.name ++ "] " ++ i.path ++ ": " ++ i.reason r

theorem plain_headerLine (r : Role) : Plain (headerLine r) :=
  (Within.append (by decide) r.plain_name).append (by decide)

theorem plain_issueLine (r : Role) (i : Issue) : Plain (issueLine r i) :=
  ((((Within.append (by decide) i.kind.plain_name).append (by decide)).append
    i.plain_path).append (by decide)).append (i.plain_reason r)

/-- The lines about the issues of a role, behind their header. -/
def issueLines (r : Role) (issues : List Issue) : List String :=
  headerLine r :: issues.map (issueLine r)

theorem plain_of_mem_issueLines {r : Role} {issues : List Issue} {l : String}
    (h : l ∈ issueLines r issues) : Plain l := by
  rcases List.mem_cons.mp h with rfl | h
  · exact plain_headerLine r
  · obtain ⟨i, -, rfl⟩ := List.mem_map.mp h
    exact plain_issueLine r i

/-- **A refusal is shown line by line, each line as it is worded.** -/
theorem lines_refusedLines (report : Report) :
    Command.lines (refusedLines report) = endedLines (issueLines report.role report.issues) :=
  lines_of_plain fun _ h => plain_of_mem_issueLines h

/-- The record of a refusal is one plain line. -/
theorem plain_text_refused (report : Report) : Plain (LogRecord.refused report).text := by
  refine ((Within.append (by decide) report.role.plain_name).append (by decide)).append ?_
  exact Issue.plain_listing Issue.plain_digest report.issues

end CommandLine

end Credentials
