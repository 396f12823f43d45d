import Credentials.Proofs.DumpShape
import Credentials.Proofs.FirstFault
import Credentials.Proofs.Validation

/-!
# Runs of a check

What the words of a check ask for is a request, and a check that asks for no records is a function
of the request, the host and the role: it loads, checks and tells one of the two outcomes. Here the
outcome is followed from the words to the outputs, for a load that gives a bundle.

* `asks_spelled` — words in the usual order ask for what they spell
* `run_of_asks` — such words run the check
* `run_of_passed`, `run_of_refused` — what is seen of a run on a bundle that passes, or does not
-/

namespace Credentials

open Text

namespace CommandLine

/-! ## Words that ask for a check -/

/-- Words that ask for a check as a request tells it, without records and without help. -/
def Asks (words : List String) (q : CheckRequest) : Prop :=
  ∃ rest w, Command.program.options.read words = .ok ⟨[], "check" :: rest⟩
    ∧ Command.check.options.read rest = .ok w ∧ w.uses? Command.helpOption = false
    ∧ q = .ofWords w

/-- Such words run the check. -/
theorem run_of_asks {words : List String} {q : CheckRequest} (h : Asks words q) (host : Host) :
    run host words = (runCheck host false q).written := by
  obtain ⟨rest, w, hprogram, hcheck, hhelp, rfl⟩ := h
  have hne : words.isEmpty = false := by
    cases words with
    | nil => cases hprogram
    | cons word r => rfl
  have hname : Command.ofName? "check" = some .check := rfl
  simp only [run, outcomeOf, hne, Bool.false_eq_true, if_false, hprogram, hname]
  show (runCommand host false .check rest).written = _
  simp only [runCommand, hcheck, hhelp, Bool.false_eq_true, if_false]

/-- The words that name files. -/
def fileWords (files : List String) : List String :=
  files.flatMap fun path => [Command.fileOption, path]

/-- The words of a check in their usual order. -/
def checkWords (spelling : String) (files : List String) (environment : Bool)
    (variableStart : String) : List String :=
  "check" :: Command.roleOption :: spelling :: (fileWords files
    ++ ((if environment then [Command.envOption] else [])
      ++ [Command.envNameOption, variableStart]))

namespace OptionTable

/-- An option that takes the next word for its value. -/
theorem readFrom_valued {t : OptionTable} {o : String} (hd : o ≠ doubleHyphen)
    (ho : isOption o = true) (hr : t.readOption o = .ok (.awaiting o))
    (value : String) {r : List String} {w : Words} (h : t.readFrom none r = .ok w) :
    t.readFrom none (o :: value :: r) = .ok (w.after [⟨o, value⟩]) := by
  rw [readFrom, if_neg hd, if_pos ho, hr]
  show (t.readFrom none r).map _ = _
  rw [h]
  rfl

/-- An option that stands for itself. -/
theorem readFrom_flag {t : OptionTable} {o : String} (hd : o ≠ doubleHyphen)
    (ho : isOption o = true) (hr : t.readOption o = .ok (.uses [⟨o, ""⟩]))
    {r : List String} {w : Words} (h : t.readFrom none r = .ok w) :
    t.readFrom none (o :: r) = .ok (w.after [⟨o, ""⟩]) := by
  rw [readFrom, if_neg hd, if_pos ho, hr]
  show (t.readFrom none r).map _ = _
  rw [h]
  rfl

end OptionTable

theorem readFrom_fileWords {r : List String} {w : Words}
    (h : Command.check.options.readFrom none r = .ok w) (files : List String) :
    Command.check.options.readFrom none (fileWords files ++ r)
      = .ok (w.after (files.map (Use.mk Command.fileOption))) := by
  induction files with
  | nil => exact h
  | cons path files ih =>
    exact OptionTable.readFrom_valued (by decide) (by decide) rfl path ih

/-- The uses that such words are. -/
def checkUses (spelling : String) (files : List String) (environment : Bool)
    (variableStart : String) : List Use :=
  ⟨Command.roleOption, spelling⟩ :: (files.map (Use.mk Command.fileOption)
    ++ ((if environment then [⟨Command.envOption, ""⟩] else [])
      ++ [⟨Command.envNameOption, variableStart⟩]))

theorem read_checkWords (spelling : String) (files : List String) (environment : Bool)
    (variableStart : String) :
    Command.program.options.read (checkWords spelling files environment variableStart)
        = .ok ⟨[], checkWords spelling files environment variableStart⟩
      ∧ Command.check.options.read (checkWords spelling files environment variableStart).tail
        = .ok ⟨checkUses spelling files environment variableStart, []⟩ := by
  have hstart : Command.check.options.readFrom none [Command.envNameOption, variableStart]
      = .ok ⟨[⟨Command.envNameOption, variableStart⟩], []⟩ :=
    OptionTable.readFrom_valued (o := Command.envNameOption) (w := ⟨[], []⟩) (by decide)
      (by decide) rfl variableStart rfl
  have henv : Command.check.options.readFrom none
      ((if environment then [Command.envOption] else [])
        ++ [Command.envNameOption, variableStart])
      = .ok ⟨(if environment then [⟨Command.envOption, ""⟩] else [])
          ++ [⟨Command.envNameOption, variableStart⟩], []⟩ := by
    cases environment with
    | false => exact hstart
    | true => exact OptionTable.readFrom_flag (by decide) (by decide) rfl hstart
  exact ⟨rfl, OptionTable.readFrom_valued (o := Command.roleOption) (by decide) (by decide)
    rfl spelling (readFrom_fileWords henv files)⟩

/-- Of the uses of one option, either all are meant or none. -/
theorem filter_uses (o o' : String) (values : List String) :
    ((values.map (Use.mk o)).filter fun u => u.option == o')
      = if o = o' then values.map (Use.mk o) else [] := by
  split
  · next h => simp [h]
  · next h => simp [h]

theorem ofWords_checkUses (spelling : String) (files : List String) (environment : Bool)
    (variableStart : String) :
    CheckRequest.ofWords ⟨checkUses spelling files environment variableStart, []⟩
      = ⟨files, some spelling, environment, variableStart, []⟩ := by
  have hfiles : ((files.map (Use.mk Command.fileOption)).map Use.option).filter isEnvironmentOption
      = [] := by
    simp [isEnvironmentOption, Command.fileOption, Command.envOption, Command.noEnvOption]
  have henv : ((checkUses spelling files environment variableStart).map Use.option).filter
      isEnvironmentOption = if environment then [Command.envOption] else [] := by
    rw [checkUses, List.map_cons, List.map_append,
      List.filter_cons_of_neg (show ¬ isEnvironmentOption Command.roleOption = true by decide),
      List.filter_append, hfiles]
    cases environment <;> rfl
  have hvalues : ∀ o ∈ [Command.roleOption, Command.fileOption, Command.envNameOption],
      Words.values ⟨checkUses spelling files environment variableStart, []⟩ o
        = if o = Command.fileOption then files
          else if o = Command.roleOption then [spelling] else [variableStart] := by
    cases environment <;>
      simp [Words.values, checkUses, filter_uses, Function.comp_def, Command.roleOption,
        Command.fileOption, Command.envNameOption, Command.envOption]
  have hrole := hvalues Command.roleOption (by decide)
  have hfile := hvalues Command.fileOption (by decide)
  have hstart := hvalues Command.envNameOption (by decide)
  simp only [CheckRequest.ofWords, Words.value?, hrole, hfile, hstart, henv]
  cases environment <;> rfl

/-- **The words of a check in their usual order ask for what they spell.** -/
theorem asks_spelled (spelling : String) (files : List String) (environment : Bool)
    (variableStart : String) :
    Asks (checkWords spelling files environment variableStart)
      ⟨files, some spelling, environment, variableStart, []⟩ := by
  obtain ⟨hprogram, hcheck⟩ := read_checkWords spelling files environment variableStart
  refine ⟨_, _, hprogram, hcheck, ?_, (ofWords_checkUses _ _ _ _).symm⟩
  cases environment <;>
    simp [checkUses, Words.uses?, Command.helpOption, Command.roleOption, Command.fileOption,
      Command.envNameOption, Command.envOption]

/-! ## From a request to its outputs -/

/-- Words that ask for a check of files that are there, for a role. -/
structure Invocation (host : Host) (words : List String) (r : Role) (q : CheckRequest) : Prop where
  asks : Asks words q
  role : ∃ spelling, q.role = some spelling ∧ Role.ofSpelling? spelling = some r
  extra : q.extra = []
  found : ∀ path ∈ q.files, ∃ content, host.find path = .file content

theorem firstUnusable_eq_none {host : Host} {files : List String}
    (h : ∀ path ∈ files, ∃ content, host.find path = .file content) :
    firstUnusable host files = none := by
  induction files with
  | nil => rfl
  | cons path files ih =>
    obtain ⟨content, hc⟩ := h path List.mem_cons_self
    simp only [firstUnusable, hc]
    exact ih fun p hp => h p (List.mem_cons_of_mem path hp)

/-- **An invocation shows what becomes of its load and its check.** -/
theorem Invocation.run_eq {host : Host} {words : List String} {r : Role} {q : CheckRequest}
    (h : Invocation host words r q) :
    run host words = ((viewOutcome (checkFor host q r).result).after
      (recordLines false (checkFor host q r).logs)).written := by
  obtain ⟨spelling, hq, hs⟩ := h.role
  rw [run_of_asks h.asks]
  simp only [runCheck, firstUnusable_eq_none h.found, hq, h.extra, List.isEmpty_nil, if_true, roleOf,
    Role.read_text hs]

/-! ## Records that are not shown -/

theorem recordLines_append (verbose : Bool) (xs ys : List LogRecord) :
    recordLines verbose (xs ++ ys) = recordLines verbose xs ++ recordLines verbose ys := by
  rw [recordLines, List.map_append, String.join_append]
  rfl

/-- The records of a load are shown on demand alone. -/
theorem recordLines_load (sources : List Source) (n m : Nat) :
    recordLines false (sources.map Source.readRecord ++ [.loaded n m]) = "" := by
  rw [recordLines_append]
  induction sources with
  | nil => rfl
  | cons s sources ih =>
    rw [List.map_cons, recordLines, List.map_cons, String.join_cons]
    exact (String.append_assoc ..).trans ((String.empty_append).trans ih)

/-! ## The two outcomes of a bundle -/

section

variable {host : Host} {words : List String} {r : Role} {q : CheckRequest} {b : Bundle} {n m : Nat}

theorem checkFor_of_load (hload : load (q.sources host)
    = ⟨(q.sources host).map Source.readRecord ++ [.loaded n m], .ok b⟩) :
    (checkFor host q r).result = (validate b r).result
      ∧ recordLines false (checkFor host q r).logs = recordLines false (validate b r).logs := by
  have hrun : checkFor host q r = ⟨(q.sources host).map Source.readRecord ++ [.loaded n m]
      ++ (validate b r).logs, (validate b r).result⟩ := by
    rw [checkFor, hload]
    rfl
  rw [hrun]
  refine ⟨rfl, ?_⟩
  rw [recordLines_append, recordLines_load, String.empty_append]

/-- **A bundle that passes is shown as the object of the role**, with marks at the present paths of
its view. -/
theorem Invocation.run_of_passed (h : Invocation host words r q) (hload : load (q.sources host)
    = ⟨(q.sources host).map Source.readRecord ++ [.loaded n m], .ok b⟩)
    (hi : (b.check r).issues = []) :
    run host words = ⟨0, (Raw.map (shownObject r (markIn (View.of b r).presentPaths))).indentedJson 0
      ++ "\n", "", none⟩ := by
  obtain ⟨hresult, hlogs⟩ := checkFor_of_load (r := r) hload
  have hv : validate b r = ⟨[.validated r b.present.length], .ok (View.of b r)⟩ := by
    have hok : (b.check r).ok = true := List.isEmpty_iff.mpr hi
    rw [validate, if_pos hok]
  rw [h.run_eq, hresult, hlogs, hv]
  have hdump : withoutReturns ((View.of b r).dump.indentedJson 0 ++ "\n")
      = (Raw.map (shownObject r (markIn (View.of b r).presentPaths))).indentedJson 0 ++ "\n" := by
    rw [View.dump_eq_shownObject]
    exact withoutReturns_of_within ((within_shownObject _ _).append (by decide))
  show Outcome.mk 0 (withoutReturns ((View.of b r).dump.indentedJson 0 ++ "\n"))
    (withoutReturns "") none = _
  rw [hdump]
  rfl

/-- **A bundle that is refused is shown line by line**: the record of the refusal, the header, and
the issues. -/
theorem Invocation.run_of_refused (h : Invocation host words r q) (hload : load (q.sources host)
    = ⟨(q.sources host).map Source.readRecord ++ [.loaded n m], .ok b⟩)
    (hi : (b.check r).issues ≠ []) :
    run host words = ⟨1, "", endedLines [(LogRecord.refused (b.check r)).text]
      ++ endedLines (issueLines r (b.check r).issues), none⟩ := by
  obtain ⟨hresult, hlogs⟩ := checkFor_of_load (r := r) hload
  have hv : validate b r = ⟨[.refused (b.check r)], .error (.invalid (b.check r))⟩ := by
    have hok : ¬ (b.check r).ok = true := fun ho => hi (List.isEmpty_iff.mp ho)
    rw [validate, if_neg hok]
  rw [h.run_eq, hresult, hlogs, hv]
  have hrecord : recordLines false [.refused (b.check r)]
      = endedLines [(LogRecord.refused (b.check r)).text] := rfl
  have hwithin := (within_endedLines (List.forall_mem_singleton.mpr
    (plain_text_refused (b.check r)))).append (within_endedLines fun _ =>
      @plain_of_mem_issueLines r (b.check r).issues _)
  show Outcome.mk 1 (withoutReturns "") (withoutReturns (recordLines false _
    ++ Command.lines (refusedLines (b.check r)))) none = _
  rw [hrecord, lines_refusedLines]
  show Outcome.mk 1 (withoutReturns "") (withoutReturns (endedLines [_]
    ++ endedLines (issueLines r (b.check r).issues))) none = _
  rw [withoutReturns_of_within hwithin]
  rfl

end

end CommandLine

end Credentials
