import Palette.LogFile
import Palette.Proofs.FileTree.Directory

/-!
# A log is set up once

A host takes steps: it attempts to set up the log, or tells a record (`Log.Step`).  `Log.onlyFirst`
leaves of these steps the records and the first attempt that succeeds.  After the remaining steps
the log has the same handlers and passes on records in the same way (`Log.run_onlyFirst`).

Until an attempt succeeds, the log has no handler, and attempts that failed have added nothing
but directories (`Log.Attempted`).  Whether an attempt succeeds does not depend on these, so the
first one that does succeeds alone as well (`Log.exists_configure_of_attempted`).  Afterwards
nothing changes any more but what is written (`Log.run_of_handlers`).

The level is an exception, as it is set before anything can fail: an attempt that fails leaves its
level, until another attempt is made (`Log.level_run_failedAttempt`).
-/

namespace Palette.Log

/-! ## Steps of a host -/

/-- What a host does with a log. -/
inductive Step where
  | configure (directory : Path) (level : Int)
  | record (stamp name : String) (level : Int) (message : String)

namespace Step

/-- The level that an attempt to set up the log asks for. -/
def level? : Step → Option Int
  | configure _ level => some level
  | record .. => none

/-- Whether the step tells a record. -/
def isRecord (step : Step) : Bool :=
  step.level?.isNone

end Step

/-- The log after a step. -/
def apply (log : Log) : Step → Log
  | .configure directory level => (log.configure directory level).1
  | .record stamp name level message => log.record stamp name level message

/-- The log after some steps. -/
def run (log : Log) (steps : List Step) : Log :=
  steps.foldl apply log

/-- Of the steps that a log takes, the records and the first attempt that succeeds. -/
def onlyFirst (log : Log) : List Step → List Step
  | [] => []
  | .record stamp name level message :: rest =>
    .record stamp name level message ::
      onlyFirst (log.record stamp name level message) rest
  | .configure directory level :: rest =>
    match log.configure directory level with
    | (_, none) => .configure directory level :: rest.filter Step.isRecord
    | (after, some _) => onlyFirst after rest

theorem run_cons (log : Log) (step : Step) (rest : List Step) :
    log.run (step :: rest) = (log.apply step).run rest := rfl

section

variable {log after : Log} {directory : Path} {level : Int}

theorem onlyFirst_of_success (hconfigure : log.configure directory level = (after, none))
    (rest : List Step) :
    log.onlyFirst (.configure directory level :: rest) =
      .configure directory level :: rest.filter Step.isRecord := by
  rw [onlyFirst, hconfigure]

theorem onlyFirst_of_fault {fault : LogFault}
    (hconfigure : log.configure directory level = (after, some fault)) (rest : List Step) :
    log.onlyFirst (.configure directory level :: rest) = after.onlyFirst rest := by
  rw [onlyFirst, hconfigure]

theorem apply_of_configure {fault : Option LogFault}
    (hconfigure : log.configure directory level = (after, fault)) :
    log.apply (.configure directory level) = after :=
  congrArg Prod.fst hconfigure

end

/-- The level that the last of the attempts leaves. -/
def lastLevel (log : Log) (steps : List Step) : Int :=
  (steps.filterMap Step.level?).getLast?.getD log.level

/-- The two logs have the same settings: they keep the same records, and to the same files. -/
structure SameSettings (first second : Log) : Prop where
  level : first.level = second.level
  handlers : first.handlers = second.handlers
  propagates : first.propagates = second.propagates

theorem SameSettings.trans {first second third : Log} (hfirst : SameSettings first second)
    (hsecond : SameSettings second third) : SameSettings first third :=
  ⟨hfirst.level.trans hsecond.level, hfirst.handlers.trans hsecond.handlers,
    hfirst.propagates.trans hsecond.propagates⟩

theorem SameSettings.symm {first second : Log} (hsame : SameSettings first second) :
    SameSettings second first :=
  ⟨hsame.level.symm, hsame.handlers.symm, hsame.propagates.symm⟩

/-! ## A log that is set up -/

section

variable {log : Log} {directory : Path} {level : Int}

theorem configure_of_handlers (hhandlers : log.handlers ≠ []) :
    log.configure directory level = (log, none) :=
  if_pos hhandlers

/-- A step leaves the settings of a log that is set up. -/
theorem apply_of_handlers (hhandlers : log.handlers ≠ []) (step : Step) :
    SameSettings (log.apply step) log := by
  cases step with
  | configure directory level =>
      rw [apply, configure_of_handlers hhandlers]
      exact ⟨rfl, rfl, rfl⟩
  | record stamp name level message =>
      exact ⟨level_record .., handlers_record .., propagates_record ..⟩

theorem run_of_handlers (hhandlers : log.handlers ≠ []) (steps : List Step) :
    SameSettings (log.run steps) log := by
  induction steps generalizing log with
  | nil => exact ⟨rfl, rfl, rfl⟩
  | cons step rest ih =>
      have hstep := apply_of_handlers hhandlers step
      have hrest : SameSettings (run (log.apply step) rest) (log.apply step) :=
        ih (by rwa [hstep.handlers])
      exact hrest.trans hstep

end

/-! ## One attempt -/

/-- The file of a log in a directory. -/
def pathIn (log : Log) (directory : Path) : Path :=
  Path.resolve log.files.current (directory.join (.ofText fileName))

/-- The directory can be made, and the log file in it be opened. -/
structure Opens (files : FileSystem) (directory : Path) (opened : FileSystem) : Prop where
  plain : directory.hasNull = false
  written : ∃ made, files.makeDirectories directory = (made, none) ∧
    made.append (Path.resolve made.current (directory.join (.ofText fileName))) [] = .ok opened

/-- The log is set up in a directory. -/
structure IsSetUp (log : Log) (directory : Path) (level : Int) (after : Log) : Prop where
  level : after.level = level
  handlers : after.handlers = [log.pathIn directory]
  propagates : after.propagates = false

/-- What attempts that fail make of a log: they leave it without a handler, and add directories. -/
structure Attempted (log after : Log) : Prop where
  handlers : after.handlers = []
  propagates : after.propagates = log.propagates
  files : log.files.GrowsTo after.files

theorem Attempted.trans {first second third : Log} (hfirst : Attempted first second)
    (hsecond : Attempted second third) : Attempted first third :=
  ⟨hsecond.handlers, hsecond.propagates.trans hfirst.propagates,
    hfirst.files.trans hsecond.files⟩

section

variable {start log : Log} {directory : Path} {opened : FileSystem}

/-- An attempt sets the level.  Then either the log file can be opened, and the log is set up, or
the attempt fails. -/
theorem configure_cases (hfree : log.handlers = []) (directory : Path) (level : Int) :
    (∃ opened after, Opens log.files directory opened ∧
      log.configure directory level = (after, none) ∧ IsSetUp log directory level after) ∨
    ∃ after fault, log.configure directory level = (after, some fault) ∧
      Attempted log after ∧ after.level = level ∧ ∀ opened, ¬ Opens log.files directory opened := by
  have hgrows := log.files.growsTo_makeDirectories directory
  rw [configure, if_neg (not_not.2 hfree)]
  by_cases hnull : directory.hasNull = true
  · refine Or.inr ⟨_, _, if_pos hnull, ⟨hfree, rfl, .refl _⟩, rfl, fun opened hopens => ?_⟩
    rw [hopens.plain] at hnull
    cases hnull
  rw [if_neg hnull]
  rcases hmake : log.files.makeDirectories directory with ⟨made, _ | ⟨fault, path⟩⟩
  · rw [hmake] at hgrows
    cases happend : made.append (Path.resolve made.current (directory.join (.ofText fileName)))
      [] with
    | ok opened =>
        refine Or.inl ⟨opened, _, ⟨Bool.not_eq_true _ ▸ hnull, made, hmake, happend⟩,
          by simp only [happend]; rfl, rfl, ?_, rfl⟩
        rw [attach, hfree, pathIn, hgrows.current]
        rfl
    | error fault =>
        refine Or.inr ⟨⟨made, level, log.handlers, log.propagates⟩, .system fault _,
          by simp only [happend]; rfl, ⟨hfree, rfl, hgrows⟩, rfl, ?_⟩
        rintro opened ⟨-, other, hother, hopened⟩
        rw [hmake] at hother
        cases hother
        rw [happend] at hopened
        cases hopened
  · rw [hmake] at hgrows
    refine Or.inr ⟨_, _, rfl, ⟨hfree, rfl, hgrows⟩, rfl, ?_⟩
    rintro opened ⟨-, other, hother, -⟩
    rw [hmake] at hother
    cases hother

theorem configure_of_opens (hfree : log.handlers = []) (hopens : Opens log.files directory opened)
    (level : Int) :
    ∃ after, log.configure directory level = (after, none) ∧
      IsSetUp log directory level after := by
  rcases log.configure_cases hfree directory level with
    ⟨_, after, -, hconfigure, hsetUp⟩ | ⟨_, _, -, -, -, hnone⟩
  · exact ⟨after, hconfigure, hsetUp⟩
  · exact absurd hopens (hnone opened)

/-- An attempt that fails leaves its level and perhaps directories, and nothing else. -/
theorem attempted_of_fault {level : Int} {fault : LogFault}
    (hfault : (log.configure directory level).2 = some fault) :
    log.handlers = [] ∧ Attempted log (log.configure directory level).1 ∧
      (log.configure directory level).1.level = level := by
  by_cases hfree : log.handlers = []
  · rcases log.configure_cases hfree directory level with
      ⟨_, _, -, hconfigure, -⟩ | ⟨after, _, hconfigure, hattempted, hlevel, -⟩
    · rw [hconfigure] at hfault
      cases hfault
    · rw [hconfigure]
      exact ⟨hfree, hattempted, hlevel⟩
  · rw [configure_of_handlers hfree] at hfault
    cases hfault

/-! ## Attempts that failed -/

/-- A log file that can be opened after attempts that failed can be opened without them. -/
theorem Attempted.exists_opens (hattempted : Attempted start log)
    (hcurrent : start.files.HasCurrent) (hopens : Opens log.files directory opened) :
    ∃ less, Opens start.files directory less := by
  obtain ⟨hplain, made, hmade, happend⟩ := hopens
  obtain ⟨less, hless, hgrows⟩ := hattempted.files.exists_makeDirectories hcurrent hmade
  have hmore := start.files.growsTo_makeDirectories directory
  rw [hless] at hmore
  have hname : fileName ≠ ".." := by decide
  have hpath : Path.ofText fileName = ⟨.relative, [fileName]⟩ := by decide
  rw [hpath] at happend
  obtain ⟨written, hwritten⟩ := hgrows.exists_append (hcurrent.mono hmore) hname
    (FileSystem.isDirectory_of_makeDirectories hless) happend
  exact ⟨written, hplain, less, hless, by rwa [hpath]⟩

/-- A record changes nothing while there is no handler. -/
theorem record_of_no_handlers (hfree : log.handlers = []) (stamp name : String) (level : Int)
    (message : String) : log.record stamp name level message = log := by
  obtain ⟨files, least, handlers, propagates⟩ := log
  obtain rfl : handlers = [] := hfree
  exact ite_self _

theorem lastLevel_configure (directory : Path) (level : Int) (rest : List Step) :
    log.lastLevel (.configure directory level :: rest) =
      (rest.filterMap Step.level?).getLast?.getD level := by
  have hlevels : List.filterMap Step.level? (.configure directory level :: rest) =
      level :: rest.filterMap Step.level? :=
    List.filterMap_cons_some rfl
  rw [lastLevel, hlevels, List.getLast?_cons]
  rfl

/-- After some steps of a log that has had failing attempts only, either it still has, or it has
the settings of a log that took the first attempt that succeeds alone. -/
theorem run_of_attempted (hstart : start.handlers = []) (hcurrent : start.files.HasCurrent)
    (hattempted : Attempted start log) (steps : List Step) :
    (Attempted start (log.run steps) ∧ (log.run steps).level = log.lastLevel steps ∧
      start.run (log.onlyFirst steps) = start) ∨
    ∃ path, (log.run steps).handlers = [path] ∧
      SameSettings (log.run steps) (start.run (log.onlyFirst steps)) := by
  induction steps generalizing log with
  | nil => exact Or.inl ⟨hattempted, rfl, rfl⟩
  | cons step rest ih =>
      cases step with
      | record stamp name level message =>
          have hlog := record_of_no_handlers hattempted.handlers stamp name level message
          have hsingle := record_of_no_handlers hstart stamp name level message
          rw [onlyFirst, run_cons, run_cons, apply, apply, hlog, hsingle]
          exact ih hattempted
      | configure directory level =>
          rcases log.configure_cases hattempted.handlers directory level with
            ⟨opened, after, hopens, hconfigure, hsetUp⟩ |
              ⟨after, fault, hconfigure, hafter, hlevel, -⟩
          · -- the attempt succeeds, also on its own, and what follows changes no settings
            obtain ⟨less, hless⟩ := hattempted.exists_opens hcurrent hopens
            obtain ⟨single, hsingle, hsingleSetUp⟩ := configure_of_opens hstart hless level
            have hsame : SameSettings after single := by
              refine ⟨hsetUp.level.trans hsingleSetUp.level.symm, ?_,
                hsetUp.propagates.trans hsingleSetUp.propagates.symm⟩
              rw [hsetUp.handlers, hsingleSetUp.handlers, pathIn, pathIn,
                hattempted.files.current]
            have hfull : SameSettings (after.run rest) after :=
              run_of_handlers (by simp [hsetUp.handlers]) rest
            have hkept : SameSettings (single.run (rest.filter Step.isRecord)) single :=
              run_of_handlers (by simp [hsingleSetUp.handlers]) _
            rw [onlyFirst_of_success hconfigure, run_cons, run_cons, apply_of_configure hconfigure,
              apply_of_configure hsingle]
            exact Or.inr ⟨_, hfull.handlers.trans hsetUp.handlers,
              hfull.trans (hsame.trans hkept.symm)⟩
          · have hrest := ih (hattempted.trans hafter)
            rw [onlyFirst_of_fault hconfigure, run_cons, apply_of_configure hconfigure,
              lastLevel_configure, ← hlevel]
            exact hrest

/-- Only the first attempt that succeeds counts: where records are kept, how many handlers there
are and whether records are passed on is as if no other attempt had been made, and once the log
is set up an attempt changes nothing at all, nor any file.  The level is so as well once the log
is set up; until then an attempt that fails leaves its level, besides directories that it made. -/
theorem run_onlyFirst (hstart : start.handlers = []) (hcurrent : start.files.HasCurrent)
    (steps : List Step) :
    let full := start.run steps
    let single := start.run (start.onlyFirst steps)
    full.handlers = single.handlers ∧ full.propagates = single.propagates ∧
    full.handlers.length ≤ 1 ∧
    (full.level = single.level ↔
      full.handlers ≠ [] ∨ start.lastLevel steps = start.level) ∧
    ∀ directory level,
      (full.handlers ≠ [] → full.configure directory level = (full, none)) ∧
      ∀ fault, (full.configure directory level).2 = some fault →
        full.handlers = [] ∧ Attempted full (full.configure directory level).1 ∧
          (full.configure directory level).1.level = level := by
  have hbegin : Attempted start start := ⟨hstart, rfl, .refl _⟩
  intro full single
  have hlater : ∀ directory level,
      (full.handlers ≠ [] → full.configure directory level = (full, none)) ∧
      ∀ fault, (full.configure directory level).2 = some fault →
        full.handlers = [] ∧ Attempted full (full.configure directory level).1 ∧
          (full.configure directory level).1.level = level :=
    fun _ _ => ⟨configure_of_handlers, fun _ => attempted_of_fault⟩
  rcases run_of_attempted hstart hcurrent hbegin steps with
    ⟨hattempted, hlevel, hsingle⟩ | ⟨path, hpath, hsame⟩
  · have hhandlers : full.handlers = single.handlers := by
      rw [hattempted.handlers, ← hstart]
      exact congrArg handlers hsingle.symm
    have hpropagates : full.propagates = single.propagates := by
      rw [hattempted.propagates]
      exact congrArg propagates hsingle.symm
    have hsingleLevel : single.level = start.level := congrArg level hsingle
    refine ⟨hhandlers, hpropagates, by simp [full, hattempted.handlers], ?_, hlater⟩
    rw [hsingleLevel, hlevel]
    simp [full, hattempted.handlers]
  · refine ⟨hsame.handlers, hsame.propagates, by simp [full, hpath], ?_, hlater⟩
    exact iff_of_true hsame.level (Or.inl (by simp [full, hpath]))

end

/-- No log is set up, and there are no files. -/
def emptyLog : Log where
  files := ⟨.directory [], .ofText "/"⟩

theorem hasCurrent_emptyLog : emptyLog.files.HasCurrent :=
  ⟨by decide, by decide⟩

/-- A directory whose name is too long cannot be made. -/
theorem configure_of_long {name : String} (hlong : FileNode.nameLimit < name.utf8ByteSize)
    (hshort : name.utf8ByteSize ≤ FileSystem.pathLimit)
    (hplain : name.toList.any (· == '\x00') = false) (level : Int) :
    emptyLog.configure ⟨.relative, [name]⟩ level =
      ({ emptyLog with level }, some (.system .nameTooLong ⟨.relative, [name]⟩)) := by
  have htext : Path.text ⟨.relative, [name]⟩ = name := by
    simp [Path.text, PathRoot.text]
  have hname : name ≠ ".." := by
    rintro rfl
    revert hlong
    decide
  have hfind : emptyLog.files.find ⟨.relative, [name]⟩ = .error .nameTooLong := by
    rw [FileSystem.find, htext, if_neg (Nat.not_lt.2 hshort)]
    show FileNode.follow [] (.directory []) [name] = _
    rw [FileNode.follow, if_neg hname, if_pos hlong]
  have hmake : emptyLog.files.makeDirectories ⟨.relative, [name]⟩ =
      (emptyLog.files, some (.nameTooLong, ⟨.relative, [name]⟩)) := by
    simp [FileSystem.makeDirectories, FileSystem.makeUpTo, FileSystem.makeDirectory,
      FileSystem.isDirectory, hfind]
  have hnull : Path.hasNull ⟨.relative, [name]⟩ = false := by
    rw [Path.hasNull, htext, hplain]
  have hfree : emptyLog.handlers = [] := rfl
  rw [configure, if_neg (not_not.2 hfree)]
  simp only [hnull, hmake]
  rfl

theorem utf8ByteSize_replicate (count : Nat) :
    (String.ofList (List.replicate count 'n')).utf8ByteSize = count := by
  induction count with
  | zero => rfl
  | succ count ih =>
      rw [List.replicate_succ, String.ofList_cons, String.utf8ByteSize_append, ih,
        String.utf8ByteSize_singleton]
      exact Nat.add_comm 1 count

/-- A directory whose name has one byte too many. -/
def longDirectory : Path :=
  ⟨.relative, [String.ofList (List.replicate 256 'n')]⟩

theorem configure_longDirectory (level : Int) :
    emptyLog.configure longDirectory level =
      ({ emptyLog with level }, some (.system .nameTooLong longDirectory)) := by
  refine configure_of_long ?_ ?_ ?_ level
  · rw [utf8ByteSize_replicate]
    decide
  · rw [utf8ByteSize_replicate]
    decide
  · rw [String.toList_ofList, List.any_replicate]
    rfl

/-- Attempts of which the second is the first to succeed, and records behind them. -/
def threeAttempts : List Step :=
  [.configure longDirectory 10, .record "" "themetokens" 40 "lost",
    .configure (.ofText "a/../b") 25, .record "" "themetokens.x" 40 "kept",
    .configure (.ofText "c") 50]

theorem run_onlyFirst_threeAttempts :
    emptyLog.handlers = [] ∧ emptyLog.files.HasCurrent ∧
    (emptyLog.run threeAttempts).handlers = [.ofText "/b/themetokens.log"] ∧
    (emptyLog.run (emptyLog.onlyFirst threeAttempts)).handlers =
      [.ofText "/b/themetokens.log"] ∧
    (emptyLog.run threeAttempts).level =
      (emptyLog.run (emptyLog.onlyFirst threeAttempts)).level := by
  have hset : (emptyLog.run threeAttempts).handlers = [.ofText "/b/themetokens.log"] := by
    rw [threeAttempts, run_cons, apply_of_configure (configure_longDirectory 10)]
    decide +kernel
  obtain ⟨hhandlers, -, -, hlevel, -⟩ :=
    run_onlyFirst (rfl : emptyLog.handlers = []) hasCurrent_emptyLog threeAttempts
  exact ⟨rfl, hasCurrent_emptyLog, hset, hhandlers ▸ hset, hlevel.2 (Or.inl (by simp [hset]))⟩

/-- An attempt that fails leaves its level, so it counts although it does not succeed. -/
theorem level_run_failedAttempt :
    emptyLog.handlers = [] ∧ emptyLog.files.HasCurrent ∧
    (emptyLog.run [.configure longDirectory 10]).handlers = [] ∧
    (emptyLog.run [.configure longDirectory 10]).level ≠
      (emptyLog.run (emptyLog.onlyFirst [.configure longDirectory 10])).level := by
  rw [onlyFirst_of_fault (configure_longDirectory 10), run_cons,
    apply_of_configure (configure_longDirectory 10)]
  exact ⟨rfl, hasCurrent_emptyLog, rfl, by decide⟩

end Palette.Log
