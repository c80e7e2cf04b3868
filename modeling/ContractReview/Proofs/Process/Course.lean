import ContractReview.Process.Host
import ContractReview.Proofs.Platform.Toolchain

/-!
What a caller learns of the course of its call. The output of a program that ended is an answer. A
program that is missing, one that the host refuses to start and one that overruns its time are three
kinds of failure, and only the last is worth another try. A call that cannot be said to the host is
no failure of the platform at all.

On the host itself a call without settings of its own is started just if the command counts as
available, and a command that counts as available is never told to be missing.
-/

namespace ContractReview

open Text

namespace Course

/-- The kind of failure that a course is, if it is one of the platform. -/
def failureCode? : Course → Option FailureCode
  | .hindered .missing => some .toolMissing
  | .hindered (.refused ..) => some .toolFailed
  | .overran => some .toolTimeout
  | _ => none

theorem failureCode?_eq_toolTimeout_iff {course : Course} :
    course.failureCode? = some .toolTimeout ↔ course = .overran := by
  cases course with
  | overran => exact iff_of_true rfl rfl
  | ended => exact iff_of_false nofun nofun
  | hindered why => cases why <;> exact iff_of_false nofun nofun

/-- The program ended and left the output. -/
inductive Yields : Course → ToolOutput → Prop
  | ended (output errors : List Nat) (ending : Ending) :
      Yields (.ended output errors ending)
        { stdout := decode output, stderr := decode errors, exitCode := ending.code }

/-- The host was not even asked: the call holds what cannot be said to it. -/
inductive Unsayable : Course → Prop
  | nullByte : Unsayable (.hindered .nullByte)
  | badVariable : Unsayable (.hindered .badVariable)

end Course

/-- A negative exit code tells of a signal. -/
theorem Ending.code_neg_iff (ending : Ending) :
    ending.code < 0 ↔ ∃ signal, 0 < signal ∧ ending = .killed signal := by
  cases ending with
  | exited code => simp [Ending.code]
  | killed signal => simp [Ending.code]

namespace ToolCall

variable (call : ToolCall) {course : Course}

/-- A failure that names the tool and the platform of a call, and is not marked as transient. -/
structure Blames (failure : Failure) : Prop where
  platform : failure.platform = call.platform
  tool : Json.lookup "tool" failure.context = some (.str call.command)
  final : failure.transient = false

theorem Blames.retryable_iff {call : ToolCall} {failure : Failure} (h : call.Blames failure) :
    failure.retryable = true ↔ failure.code = .toolTimeout := by
  unfold Failure.retryable
  cases failure.code <;> simp [h.final]

/-- Everything that a course can come to. -/
theorem settle_cases (course : Course) :
    (∃ output, course.Yields output ∧ call.settle course = .ok output) ∨
    (∃ failure, call.settle course = .error (.platform failure) ∧
      course.failureCode? = some failure.code ∧ call.Blames failure) ∨
    (course.Unsayable ∧ ∃ fault, call.settle course = .error fault ∧
      ∀ failure, fault ≠ .platform failure) := by
  cases course with
  | ended output errors ending => exact .inl ⟨_, .ended output errors ending, rfl⟩
  | overran => exact .inr (.inl ⟨_, rfl, rfl, rfl, rfl, rfl⟩)
  | hindered why =>
      cases why with
      | missing => exact .inr (.inl ⟨_, rfl, rfl, rfl, rfl, rfl⟩)
      | refused number reason place => exact .inr (.inl ⟨_, rfl, rfl, rfl, rfl, rfl⟩)
      | nullByte => exact .inr (.inr ⟨.nullByte, _, rfl, nofun⟩)
      | badVariable => exact .inr (.inr ⟨.badVariable, _, rfl, nofun⟩)

variable {call}

theorem settle_eq_ok_iff {output : ToolOutput} :
    call.settle course = .ok output ↔ course.Yields output := by
  constructor
  · intro hsettle
    rcases call.settle_cases course with
      ⟨output', hyields, heq⟩ | ⟨failure, heq, -⟩ | ⟨-, fault, heq, -⟩ <;> rw [hsettle] at heq
    · cases heq
      exact hyields
    · cases heq
    · cases heq
  · rintro ⟨⟩
    rfl

/-- The kind of a failure tells the course. -/
theorem settle_fails_iff {code : FailureCode} :
    (∃ failure, call.settle course = .error (.platform failure) ∧ failure.code = code) ↔
      course.failureCode? = some code := by
  rcases call.settle_cases course with
    ⟨output, hyields, heq⟩ | ⟨failure, heq, hcode, -⟩ | ⟨hunsayable, fault, heq, hfault⟩
  · cases hyields
    simp [heq, Course.failureCode?]
  · simp [heq, hcode]
  · cases hunsayable <;> simp [heq, hfault, Course.failureCode?]

theorem blames_of_settle {failure : Failure}
    (h : call.settle course = .error (.platform failure)) : call.Blames failure := by
  rcases call.settle_cases course with
    ⟨output, -, heq⟩ | ⟨failure', heq, -, hblames⟩ | ⟨-, fault, heq, hfault⟩ <;> rw [h] at heq
  · cases heq
  · cases heq
    exact hblames
  · cases heq
    exact absurd rfl (hfault failure)

/-- Of all that can happen to a call, only an overrun is worth another try. -/
theorem settle_retryable_iff :
    (∃ failure, call.settle course = .error (.platform failure) ∧ failure.retryable = true) ↔
      course = .overran := by
  constructor
  · rintro ⟨failure, hsettle, hretryable⟩
    have hcode := settle_fails_iff.mp ⟨failure, hsettle, rfl⟩
    rw [(blames_of_settle hsettle).retryable_iff.mp hretryable] at hcode
    exact Course.failureCode?_eq_toolTimeout_iff.mp hcode
  · rintro rfl
    exact ⟨_, rfl, rfl⟩

/-- A call has a reply of its tool or a failure of the platform, unless it cannot be said. -/
theorem isReply_settle_iff : Tool.IsReply (call.settle course) ↔ ¬ course.Unsayable := by
  constructor
  · rintro hreply (_ | _) <;> cases hreply
  · intro hsayable
    rcases call.settle_cases course with
      ⟨output, -, heq⟩ | ⟨failure, heq, -⟩ | ⟨hunsayable, -⟩
    · rw [heq]
      exact .output output
    · rw [heq]
      exact .failure failure
    · exact absurd hunsayable hsayable

/-- A tool that is asked for its version counts as installed just if its program ends well and names
a version, whatever else its call comes to. -/
theorem run_probe_of_settle {σ : Type} {tools : Tools σ} {command platform : String}
    {timeout : Number} {s : σ} (hsayable : ¬ course.Unsayable)
    (h : ((tools.run (Tool.versionCall timeout platform command)).run s).1 =
      (Tool.versionCall timeout platform command).settle course) :
    ∃ found : Installation,
      ((Tool.probe tools command timeout platform).run s).1 = .ok found ∧
      (found.installed = true ↔ ∃ output, course.Yields output ∧ output.Recognisable) := by
  have hreply : Tool.IsReply ((Tool.versionCall timeout platform command).settle course) :=
    isReply_settle_iff.mpr hsayable
  rw [← h] at hreply
  obtain ⟨found, hprobe, hinstalled, -⟩ := Tool.run_probe tools command hreply
  refine ⟨found, by rw [hprobe], ?_⟩
  rw [hinstalled, h]
  constructor
  · rintro ⟨output, hok, hrecognisable⟩
    exact ⟨output, settle_eq_ok_iff.mp hok, hrecognisable⟩
  · rintro ⟨output, hyields, hrecognisable⟩
    exact ⟨output, settle_eq_ok_iff.mpr hyields, hrecognisable⟩

end ToolCall

/-! ## Programs of the host -/

namespace Volume

/-- A command means the program that one of its paths leads to, or there is none at any of them. -/
theorem program?_cases (start search : List String) (command : String) :
    (∃ path ∈ candidates search command, ∃ name, (find start path).2 = .program name ∧
      program? start search command = .ok name) ∨
    (∀ path ∈ candidates search command, ∀ name, (find start path).2 ≠ .program name) ∧
      ∃ entry, program? start search command = .error entry ∧ ∀ name, entry ≠ .program name := by
  unfold program?
  dsimp only
  split
  next name hfirst =>
    obtain ⟨entry, hentry, heq⟩ := List.exists_of_findSome?_eq_some hfirst
    obtain ⟨path, hpath, rfl⟩ := List.mem_map.mp hentry
    refine .inl ⟨path, hpath, name, ?_, rfl⟩
    split at heq
    next name' hprogram =>
      cases heq
      exact hprogram
    next => cases heq
  next hnone =>
    have hfound : ∀ entry ∈ (candidates search command).map fun path => (find start path).2,
        ∀ name, entry ≠ .program name := by
      rintro entry hentry name rfl
      cases List.findSome?_eq_none_iff.mp hnone _ hentry
    refine .inr ⟨fun path hpath => hfound _ (List.mem_map_of_mem hpath), _, rfl, ?_⟩
    cases hworse : List.find? _ _ with
    | some entry => exact hfound entry (List.mem_of_find?_eq_some hworse)
    | none =>
        cases hlast : List.getLast? _ with
        | some entry => exact hfound entry (List.mem_of_getLast? hlast)
        | none => exact nofun

/-- A command is available if one of its paths leads to a program. -/
theorem has_iff (command : String) :
    has command = true ↔
      ∃ path ∈ candidates searchPath command, ∃ name, (find home path).2 = .program name := by
  unfold has
  rcases program?_cases home searchPath command with
    ⟨path, hpath, name, hprogram, heq⟩ | ⟨hnone, entry, heq, -⟩
  · rw [heq]
    exact iff_of_true rfl ⟨path, hpath, name, hprogram⟩
  · rw [heq]
    refine iff_of_false nofun ?_
    rintro ⟨path, hpath, name, hprogram⟩
    exact hnone path hpath name hprogram

end Volume

namespace Host

/-- A start that is hindered is not made. One that is made ends in time, or it overruns. -/
theorem start_cases (s : Start) :
    (∃ why, prepare s = .error why ∧ start s = .hindered why) ∨
    (∃ prepared, prepare s = .ok prepared) ∧
      (start s = .overran ∨
        ∃ nanoseconds output errors ending, inTime s.call.timeout nanoseconds = true ∧
          start s = .ended output errors ending) := by
  unfold start
  cases prepare s with
  | error why => exact .inl ⟨why, rfl, rfl⟩
  | ok prepared =>
      refine .inr ⟨⟨prepared, rfl⟩, ?_⟩
      dsimp only
      split
      · exact .inl rfl
      · rw [if_neg Bool.false_ne_true]
        split
        next => exact .inl rfl
        next hlate => exact .inr ⟨_, _, _, _, by simpa using hlate, rfl⟩

theorem start_eq_hindered_iff {s : Start} {why : Hindrance} :
    start s = .hindered why ↔ prepare s = .error why := by
  rcases start_cases s with
    ⟨why', hprepare, hstart⟩ | ⟨⟨prepared, hprepare⟩, hstart | ⟨_, _, _, _, -, hstart⟩⟩
  · simp [hprepare, hstart]
  · simp [hprepare, hstart]
  · simp [hprepare, hstart]

theorem unsayable_of_unsayable? {s : Start} {why : Hindrance} (h : unsayable? s = some why) :
    Course.Unsayable (.hindered why) := by
  unfold unsayable? at h
  dsimp only at h
  split at h
  next =>
    cases h
    exact .badVariable
  next =>
    split at h <;> cases h
    exact .nullByte

theorem not_unsayable_of_folder {s : Start} {why : Hindrance} (h : folder s = .error why) :
    ¬ Course.Unsayable (.hindered why) := by
  unfold folder at h
  split at h
  next => cases h
  next => split at h <;> cases h <;> exact nofun

theorem not_unsayable_hindranceAt (place : String) (entry : Volume.Entry) :
    ¬ Course.Unsayable (.hindered (hindranceAt place entry)) := by
  cases entry <;> exact nofun

/-- What keeps a call from being started, in the order in which it is noticed. -/
inductive Hinders (s : Start) : Hindrance → Prop
  | unsaid {why : Hindrance} : unsayable? s = some why → Hinders s why
  | place {why : Hindrance} : unsayable? s = none → folder s = .error why → Hinders s why
  | program {place : List String} {entry : Volume.Entry} :
      unsayable? s = none → folder s = .ok place →
      Volume.program? place (searchPath s) s.call.command = .error entry →
      (∀ name, entry ≠ .program name) → Hinders s (hindranceAt s.call.command entry)
  | arguments : unsayable? s = none →
      (∃ text ∈ s.call.args, longestArgument ≤ (octetsOf text).length) →
      Hinders s (.refused 7 "Argument list too long" s.call.command)

/-- Everything that a start needs is there. -/
structure Ready (s : Start) : Prop where
  said : unsayable? s = none
  program : ∃ place, folder s = .ok place ∧
    (Volume.program? place (searchPath s) s.call.command).isOk = true
  arguments : ∀ text ∈ s.call.args, (octetsOf text).length < longestArgument

theorem prepare_cases (s : Start) :
    (∃ why, prepare s = .error why ∧ Hinders s why) ∨
      ∃ prepared, prepare s = .ok prepared ∧ Ready s := by
  unfold prepare
  cases hsay : unsayable? s with
  | some why => exact .inl ⟨why, rfl, .unsaid hsay⟩
  | none =>
      cases hfolder : folder s with
      | error why => exact .inl ⟨why, rfl, .place hsay hfolder⟩
      | ok place =>
          dsimp only
          rcases Volume.program?_cases place (searchPath s) s.call.command with
            ⟨-, -, name, -, hfound⟩ | ⟨-, entry, hfound, hentry⟩
          · rw [hfound]
            dsimp only
            split
            next hlong =>
              obtain ⟨text, htext, hlength⟩ := List.any_eq_true.mp hlong
              exact .inl ⟨_, rfl, .arguments hsay ⟨text, htext, of_decide_eq_true hlength⟩⟩
            next hshort =>
              refine .inr ⟨_, rfl, hsay, ⟨place, hfolder, by rw [hfound]; rfl⟩, ?_⟩
              intro text htext
              by_contra hlong
              exact hshort (List.any_eq_true.mpr ⟨text, htext, by simpa using hlong⟩)
          · rw [hfound]
            exact .inl ⟨_, rfl, .program hsay hfolder hfound hentry⟩

theorem hinders_of_start {s : Start} {why : Hindrance} (h : start s = .hindered why) :
    Hinders s why := by
  have hprepare := start_eq_hindered_iff.mp h
  rcases prepare_cases s with ⟨why', heq, hhinders⟩ | ⟨prepared, heq, -⟩
  · cases hprepare.symm.trans heq
    exact hhinders
  · cases hprepare.symm.trans heq

theorem Hinders.not_unsayable {s : Start} {why : Hindrance} (h : Hinders s why)
    (hsay : unsayable? s = none) : ¬ Course.Unsayable (.hindered why) := by
  cases h with
  | unsaid hwhy => cases hsay.symm.trans hwhy
  | place _ hfolder => exact not_unsayable_of_folder hfolder
  | program _ _ _ _ => exact not_unsayable_hindranceAt _ _
  | arguments _ _ => exact nofun

/-- The call has a reply or a failure of the platform, unless it holds what cannot be said. -/
theorem isReply_run_iff (s : Start) : Tool.IsReply (run s) ↔ unsayable? s = none := by
  unfold run
  rw [ToolCall.isReply_settle_iff]
  constructor
  · intro hsayable
    cases hsay : unsayable? s with
    | none => rfl
    | some why =>
        have hstart : start s = .hindered why :=
          start_eq_hindered_iff.mpr (by rw [prepare, hsay])
        exact absurd (hstart ▸ unsayable_of_unsayable? hsay) hsayable
  · intro hsay hunsayable
    generalize hstart : start s = course at hunsayable
    cases hunsayable with
    | nullByte => exact (hinders_of_start hstart).not_unsayable hsay .nullByte
    | badVariable => exact (hinders_of_start hstart).not_unsayable hsay .badVariable

/-- A program is told to be missing just if there is no folder to start it in, or nothing at the
paths that its command may mean. -/
theorem start_eq_missing_iff {s : Start} :
    start s = .hindered .missing ↔
      unsayable? s = none ∧ (folder s = .error .missing ∨
        ∃ place, folder s = .ok place ∧
          Volume.program? place (searchPath s) s.call.command = .error .missing) := by
  constructor
  · intro hstart
    have hhinders := hinders_of_start hstart
    generalize hwhy : Hindrance.missing = why at hhinders
    cases hhinders with
    | unsaid hsay =>
        cases hwhy
        cases unsayable_of_unsayable? hsay
    | place hsay hfolder =>
        cases hwhy
        exact ⟨hsay, .inl hfolder⟩
    | @program place entry hsay hfolder hfound hentry =>
        cases entry with
        | missing => exact ⟨hsay, .inr ⟨place, hfolder, hfound⟩⟩
        | program name => exact absurd rfl (hentry name)
        | _ => cases hwhy
    | arguments _ _ => cases hwhy
  · rw [start_eq_hindered_iff]
    rintro ⟨hsay, hfolder | ⟨place, hfolder, hfound⟩⟩
    · rw [prepare, hsay, hfolder]
    · rw [prepare, hsay, hfolder]
      dsimp only
      rw [hfound]
      rfl

theorem isOk_prepare_iff (s : Start) : (prepare s).isOk = true ↔ Ready s := by
  constructor
  · intro hok
    rcases prepare_cases s with ⟨why, heq, -⟩ | ⟨prepared, -, hready⟩
    · rw [heq] at hok
      cases hok
    · exact hready
  · intro hready
    obtain ⟨place, hfolder, hfound⟩ := hready.program
    have hshort :
        ¬ (s.call.args.any fun text => (octetsOf text).length ≥ longestArgument) = true := by
      simpa using hready.arguments
    unfold prepare
    rw [hready.said, hfolder]
    dsimp only
    cases hprogram : Volume.program? place (searchPath s) s.call.command with
    | error entry =>
        rw [hprogram] at hfound
        cases hfound
    | ok program =>
        dsimp only
        rw [if_neg hshort]
        rfl

/-- Without a folder and variables of its own a call is started just if it can be said, its command
counts as available, and no argument is too long. -/
theorem starts_iff (call : ToolCall) :
    (∀ why, start { call } ≠ .hindered why) ↔
      unsayable? { call } = none ∧ Volume.has call.command = true ∧
        ∀ text ∈ call.args, (octetsOf text).length < longestArgument := by
  have hstarts : (∀ why, start { call } ≠ .hindered why) ↔ (prepare { call }).isOk = true := by
    simp only [ne_eq, start_eq_hindered_iff]
    cases prepare { call } <;> simp [Except.isOk, Except.toBool]
  have hfolder : folder { call } = .ok Volume.home := rfl
  rw [hstarts, isOk_prepare_iff]
  constructor
  · intro hready
    obtain ⟨place, hplace, hfound⟩ := hready.program
    cases hfolder.symm.trans hplace
    exact ⟨hready.said, hfound, hready.arguments⟩
  · rintro ⟨hsay, havailable, hshort⟩
    exact ⟨hsay, ⟨_, hfolder, havailable⟩, hshort⟩

/-- A command that counts as available is not told to be missing when it is called. -/
theorem start_ne_missing_of_has {call : ToolCall} (h : Volume.has call.command = true) :
    start { call } ≠ .hindered .missing := by
  intro hmissing
  have hfolder : folder { call } = .ok Volume.home := rfl
  obtain ⟨-, hplace | ⟨place, hplace, hfound⟩⟩ := start_eq_missing_iff.mp hmissing <;>
    cases hfolder.symm.trans hplace
  have hnot : (Volume.program? Volume.home (searchPath { call }) call.command).isOk = false := by
    rw [hfound]
    rfl
  exact absurd (h.symm.trans hnot) nofun

end Host

end ContractReview
