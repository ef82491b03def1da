import Stencil.Proofs.CommandLine.Conversion
import Stencil.Proofs.Log.Journal
import Stencil.Proofs.Settings.Precedence

/-!
Where a conversion leaves its source. It stands complete in the one place that was asked for, or
the command fails, shows nothing, and leaves all files as they were. Only the log of the command
may change besides, and with it the places of its old files.
-/

namespace Stencil.CommandLine

open Settings (Surroundings bind_eq_ok)

/-! ## The journal of a session -/

namespace Session

variable {session : Session} {files : FileTree}

/-- A place that the journal of the session changes. -/
def OwnsPlace (session : Session) (place : List String) : Prop :=
  ∃ journal ∈ session.journal, journal.Owns place

/-- The journal of the session, if it keeps one, has its file. -/
def IsReady (session : Session) (files : FileTree) : Prop :=
  ∀ journal ∈ session.journal, journal.IsOpen files.root

/-- The files differ in nothing but the log. -/
def Keeps (session : Session) (before after : FileTree) : Prop :=
  ∀ place, ¬ session.OwnsPlace place →
    after.root.contentAt? place = before.root.contentAt? place

theorem recordAll_keeps (ready : session.IsReady files) (events : List Event) :
    session.IsReady (session.recordAll files events) ∧
      session.Keeps files (session.recordAll files events) := by
  rw [recordAll]
  cases kept : session.journal with
  | none => exact ⟨ready, fun _ _ => rfl⟩
  | some journal =>
      have isOpen := ready journal kept
      rcases Log.Journal.keeps_recordEvents isOpen events with ⟨keeps, opened⟩
      constructor
      · intro other isOther
        cases kept.symm.trans isOther
        exact opened
      · intro place foreign
        exact keeps.contentAt? isOpen opened fun owns => foreign ⟨journal, kept, owns⟩

theorem recordFailure_keeps (ready : session.IsReady files) (path : Path)
    (error : ConversionError) : session.Keeps files (session.recordFailure files path error) := by
  rw [recordFailure]
  cases kept : session.journal with
  | none => exact fun _ _ => rfl
  | some journal =>
      have isOpen := ready journal kept
      rcases Log.Journal.keeps_record isOpen .error "conversion_failed"
        [("path", .text path.toString), ("error", .text error.message)] with ⟨keeps, opened⟩
      intro place foreign
      exact keeps.contentAt? isOpen opened fun owns => foreign ⟨journal, kept, owns⟩

end Session

/-! ## All or nothing -/

/-- How a conversion ends: its source is shown, or it is written to the file at the place of the
output, or the command fails, which it does for a source only if there is a file to write. Files
that are not the log's are those from before, and a conversion that failed has made no directory
since the command `started`. -/
inductive IsAllOrNothing (before started : FileTree) (isLog : List String → Prop)
    (result : Except ConversionError String) (output : Option Path) (outcome : Outcome) :
    Prop where
  | shown {source : String} (converted : result = .ok source) (noOutput : output = none)
      (code : outcome.code = successCode) (out : outcome.out = source)
      (kept : ∀ place, ¬ isLog place →
        outcome.files.root.fileAt? place = before.root.fileAt? place)
  | written {source : String} {path : Path} {place : List String}
      (converted : result = .ok source) (toOutput : output = some path)
      (code : outcome.code = successCode) (out : outcome.out = "")
      (leads : outcome.files.locate path = .ok place)
      (holds : outcome.files.root.fileAt? place = some (Utf8.encode source))
      (kept : ∀ other, other ≠ place → ¬ isLog other →
        outcome.files.root.fileAt? other = before.root.fileAt? other)
  | failed (onlyWriting : ∀ source, result = .ok source → output.isSome = true)
      (code : outcome.code ≠ successCode) (out : outcome.out = "")
      (kept : ∀ place, ¬ isLog place →
        outcome.files.root.fileAt? place = before.root.fileAt? place)
      (noDirectory : (∃ error, result = .error error) → ∀ place, ¬ isLog place →
        outcome.files.root.contentAt? place = some .directory →
          started.root.contentAt? place = some .directory)

namespace IsAllOrNothing

variable {before started : FileTree} {isLog : List String → Prop}
  {result : Except ConversionError String} {output : Option Path} {outcome : Outcome}

/-- What a command tells does not matter. -/
theorem telling (told : String)
    (ends : IsAllOrNothing before started isLog result output outcome) :
    IsAllOrNothing before started isLog result output (outcome.telling told) := by
  cases ends with
  | shown converted noOutput code out kept => exact .shown converted noOutput code out kept
  | written converted toOutput code out leads holds kept =>
      exact .written converted toOutput code out leads holds kept
  | failed onlyWriting code out kept noDirectory =>
      exact .failed onlyWriting code out kept noDirectory

/-- The files may be compared to what was there before the log was opened. -/
theorem since (opened : ∀ place, ¬ isLog place →
      started.root.fileAt? place = before.root.fileAt? place)
    (ends : IsAllOrNothing started started isLog result output outcome) :
    IsAllOrNothing before started isLog result output outcome := by
  cases ends with
  | shown converted noOutput code out kept =>
      refine .shown converted noOutput code out fun place foreign => ?_
      rw [kept place foreign, opened place foreign]
  | written converted toOutput code out leads holds kept =>
      refine .written converted toOutput code out leads holds fun other different foreign => ?_
      rw [kept other different foreign, opened other foreign]
  | failed onlyWriting code out kept noDirectory =>
      refine .failed onlyWriting code out (fun place foreign => ?_) noDirectory
      rw [kept place foreign, opened place foreign]

end IsAllOrNothing

/-! ## Single conversions -/

section Conversions

variable {session : Session} {files : FileTree} {outcome : Outcome}

theorem exitCode_ne_successCode (kind : FailureKind) : kind.exitCode ≠ successCode := by
  cases kind <;> decide

/-- A source that is written to a file: the directory of its path was made, and the source was put
in the place of the path. -/
structure IsWriting (before middle after : FileTree) (path : Path) (place : List String)
    (source : String) : Prop where
  makes : FileTree.MakesDirectory before middle path.parent
  isPlace : FileTree.IsPlaceFor middle path place
  located : after.locate path = .ok place
  written : after = { middle with
    root := FileTree.setAt middle.root place (.file (Utf8.encode source)) }

theorem exists_writing {path : Path} {source : String} {after : FileTree}
    (written : writeSource files path source = .ok after) :
    ∃ middle place, IsWriting files middle after path place source := by
  rcases bind_eq_ok.mp written with ⟨middle, made, write⟩
  have makes := FileTree.makesDirectory_of_makeDirectories made
  rcases FileTree.writeBytes_eq_ok write makes.isDirectory_of_empty with
    ⟨place, isPlace, located, same⟩
  exact ⟨middle, place, makes, isPlace, located, same⟩

/-- A source that is written stands where its path leads, and no other file changes. -/
theorem writeSource_eq_ok {path : Path} {source : String} {after : FileTree}
    (written : writeSource files path source = .ok after) :
    ∃ place, after.locate path = .ok place ∧
      after.root.fileAt? place = some (Utf8.encode source) ∧
      ∀ other, other ≠ place → after.root.fileAt? other = files.root.fileAt? other := by
  rcases exists_writing written with ⟨middle, place, makes, isPlace, located, rfl⟩
  refine ⟨place, located, ?_, ?_⟩
  · rw [Entry.fileAt?, FileTree.contentAt?_setAt_self]
    rfl
  · intro other different
    rw [FileTree.fileAt?_setAt isPlace _ different]
    exact makes.adds.fileAt?

theorem isSome_of_deliver_error {output : Option Path} {source : String} {escape : Escape}
    (failed : session.deliver files output source = .error escape) : output.isSome = true := by
  cases output with
  | none => cases failed
  | some path => rfl

/-- Delivery ends in one of three ways. -/
theorem deliver_isAllOrNothing {started : FileTree} {output : Option Path} {source : String}
    {result : Except ConversionError String} (converted : result = .ok source)
    (kept : session.Keeps started files)
    (delivered : session.deliver files output source = .ok outcome) :
    IsAllOrNothing started started session.OwnsPlace result output outcome := by
  have keptFiles (place : List String) (foreign : ¬ session.OwnsPlace place) :
      files.root.fileAt? place = started.root.fileAt? place :=
    Entry.fileAt?_eq_of_contentAt? (kept place foreign)
  rcases Session.deliver_eq_ok delivered with
    ⟨rfl, rfl⟩ | ⟨path, rfl, ⟨kind, message, rfl⟩ | ⟨after, told, written, rfl⟩⟩
  · exact .shown converted rfl rfl rfl keptFiles
  · refine .failed (fun _ _ => rfl) (exitCode_ne_successCode kind) rfl keptFiles ?_
    rintro ⟨error, failed⟩
    rw [converted] at failed
    cases failed
  · rcases writeSource_eq_ok written with ⟨place, located, holds, others⟩
    refine .written converted rfl rfl rfl located holds ?_
    intro other different foreign
    rw [others other different, keptFiles other foreign]

theorem convert_isAllOrNothing {conversion : Conversion} (ready : session.IsReady files)
    (performed : session.convert files conversion.path conversion.output conversion.convert =
      .ok outcome) :
    IsAllOrNothing files files session.OwnsPlace (session.converted files conversion).result
      conversion.output outcome := by
  rcases Session.recordAll_keeps ready (session.converted files conversion).events with
    ⟨readyAfter, kept⟩
  cases result : (session.converted files conversion).result with
  | ok source =>
      rw [Session.convert_of_ok result] at performed
      exact deliver_isAllOrNothing rfl kept performed
  | error error =>
      cases told : error.isTold with
      | false =>
          rcases Session.convert_of_untold result told with ⟨escape, escaped⟩
          rw [escaped] at performed
          cases performed
      | true =>
          rw [Session.convert_of_told result told] at performed
          cases performed
          have keptAll (place : List String) (foreign : ¬ session.OwnsPlace place) :=
            (Session.recordFailure_keeps readyAfter conversion.path error place foreign).trans
              (kept place foreign)
          refine .failed nofun (exitCode_ne_successCode _) rfl ?_ ?_
          · intro place foreign
            exact Entry.fileAt?_eq_of_contentAt? (keptAll place foreign)
          · intro _ place foreign directory
            rw [← keptAll place foreign]
            exact directory

end Conversions

/-! ## The program -/

section Program

variable {surroundings : Surroundings} {time : String} {options : GlobalOptions}
  {line : List String} {session : Session} {files : FileTree}

/-- The session that a command line starts, with the files once its log is opened. None if the
configuration or the log ends the program. -/
def startedSession? (surroundings : Surroundings) (time : String) (options : GlobalOptions)
    (line : List String) : Option (Session × FileTree) :=
  match (Settings.loadForCommand surroundings options.config options.projectRoot
    options.overrides).result with
  | .error _ => none
  | .ok (config, _) =>
      match (commandLog config.typed.logging (line.head?.getD "")).open surroundings.files
        surroundings.environment time with
      | .error _ => none
      | .ok (files, journal) => some ({ config, isQuiet := options.isQuiet, journal }, files)

theorem failOrWarn_exit {strict : Bool} {message warning : String} {code : Nat}
    (ended : (Settings.failOrWarn strict message warning).result = .error (.exit code)) :
    code = 1 := by
  rw [Settings.failOrWarn] at ended
  split at ended
  · cases ended
    rfl
  · cases ended

theorem handle_exit {strict : Bool} {error : Settings.ConfigError} {code : Nat}
    (ended : (Settings.handle strict error).result = .error (.exit code)) : code = 1 := by
  unfold Settings.handle at ended
  dsimp only at ended
  split at ended
  · exact failOrWarn_exit ended
  · exact failOrWarn_exit ended
  · exact failOrWarn_exit ended
  · cases ended

/-- Settings that end the program do so with the code one. -/
theorem load_exit {file projectRoot : Option Path} {overrides : Option Table} {code : Nat}
    (ended : (Settings.loadForCommand surroundings file projectRoot overrides).result =
      .error (.exit code)) : code = 1 := by
  have ofAttempt {attempt : Except Settings.ConfigError Settings.Config}
      (ended : (Settings.told (Settings.isStrict surroundings.environment) attempt).result =
        .error (.exit code)) : code = 1 := by
    cases attempt with
    | ok config => cases ended
    | error error => exact handle_exit ended
  cases file with
  | none => exact ofAttempt ended
  | some path =>
      unfold Settings.loadForCommand at ended
      dsimp only at ended
      split at ended
      · exact handle_exit ended
      · exact ofAttempt ended
      · cases ended
        rfl

/-- A line without a session ends the program and leaves the files alone. -/
theorem ending_of_notStarted (notStarted : startedSession? surroundings time options line = none) :
    (ending surroundings.files (runConfigured surroundings time options line)).code ≠
        successCode ∧
      (ending surroundings.files (runConfigured surroundings time options line)).out = "" ∧
      (ending surroundings.files (runConfigured surroundings time options line)).files =
        surroundings.files := by
  unfold startedSession? at notStarted
  unfold runConfigured
  split at notStarted
  · rename_i failure failed
    simp only [failed]
    cases failure with
    | exit code =>
        refine ⟨?_, rfl, rfl⟩
        rw [load_exit failed]
        exact Nat.one_ne_zero
    | escaped error => exact ⟨Nat.one_ne_zero, rfl, rfl⟩
  · rename_i config message loaded
    simp only [loaded]
    split at notStarted
    · rename_i error unopened
      rw [unopened]
      exact ⟨Nat.one_ne_zero, rfl, rfl⟩
    · cases notStarted

theorem runConfigured_of_started
    (started : startedSession? surroundings time options line = some (session, files)) :
    session.IsReady files ∧ FileTree.KeepsDirectories surroundings.files files ∧
      (∀ place, ¬ session.OwnsPlace place →
        files.root.fileAt? place = surroundings.files.root.fileAt? place) ∧
      ∃ told, runConfigured surroundings time options line =
        (session.run files line).map (·.telling told) := by
  unfold startedSession? at started
  unfold runConfigured
  split at started
  · cases started
  · rename_i config message loaded
    simp only [loaded]
    split at started
    · cases started
    · rename_i after journal opened
      cases started
      rcases Log.CommandLog.open_eq_ok opened with ⟨ready, keeps, others⟩
      refine ⟨ready, keeps, ?_, (Settings.loadForCommand surroundings options.config
        options.projectRoot options.overrides).told, ?_⟩
      · intro place foreign
        apply others
        intro kept isKept same
        exact foreign ⟨kept, isKept, .inl same⟩
      · rw [opened]
        show Except.bind (Session.run _ files line) _ = Except.map _ (Session.run _ files line)
        cases Session.run _ files line <;> rfl

/-- A conversion in a session is all or nothing, also if it ends without an exit code. -/
theorem ending_isAllOrNothing {command : Command} {conversion : Conversion}
    (started : startedSession? surroundings time options line = some (session, files))
    (understood : readCommand line = .ok command)
    (asked : session.conversion? command = some conversion) :
    IsAllOrNothing surroundings.files files session.OwnsPlace
      (session.converted files conversion).result conversion.output
      (ending surroundings.files (runConfigured surroundings time options line)) := by
  rcases runConfigured_of_started started with ⟨ready, keeps, opened, told, runs⟩
  have performs : session.run files line =
      session.convert files conversion.path conversion.output conversion.convert := by
    rw [Session.run, understood, ← Session.perform_of_conversion asked]
  rw [runs, performs]
  cases performed : session.convert files conversion.path conversion.output conversion.convert with
  | ok outcome => exact ((convert_isAllOrNothing ready performed).since opened).telling told
  | error escape =>
      refine .failed ?_ Nat.one_ne_zero rfl (fun _ _ => rfl) ?_
      · intro source converted
        rw [Session.convert_of_ok converted] at performed
        exact isSome_of_deliver_error performed
      · intro _ place _ directory
        exact keeps.kept place directory

end Program

/-- A command line that asks for a conversion. -/
structure AsksForConversion (line : List String) (options : GlobalOptions) (rest : List String)
    (command : Command) : Prop where
  noHelp : asksForHelp line = false
  accepted : readGlobal line = .ok (options, rest)
  understood : readCommand rest = .ok command
  converts : ∀ session : Session, (session.conversion? command).isSome = true

/-- A command line that asks for a conversion either starts no session, and then fails and changes
nothing, or is all or nothing in what it converts. -/
theorem run_isAllOrNothing (surroundings : Surroundings) (time : String)
    (line rest : List String) (options : GlobalOptions) (command : Command)
    (asks : AsksForConversion line options rest command) :
    (startedSession? surroundings time options rest = none →
        (ending surroundings.files (run surroundings time line)).code ≠ successCode ∧
          (ending surroundings.files (run surroundings time line)).out = "" ∧
          (ending surroundings.files (run surroundings time line)).files = surroundings.files) ∧
      ∀ session files, startedSession? surroundings time options rest = some (session, files) →
        ∃ conversion, session.conversion? command = some conversion ∧
          IsAllOrNothing surroundings.files files session.OwnsPlace
            (session.converted files conversion).result conversion.output
            (ending surroundings.files (run surroundings time line)) := by
  have runs : run surroundings time line = runConfigured surroundings time options rest := by
    rw [run, asks.noHelp, if_neg Bool.false_ne_true, asks.accepted]
  rw [runs]
  refine ⟨ending_of_notStarted, fun session files started => ?_⟩
  rcases Option.isSome_iff_exists.mp (asks.converts session) with ⟨conversion, asked⟩
  exact ⟨conversion, asked, ending_isAllOrNothing started asks.understood asked⟩

/-- One template, beside a settings file. -/
def templateBeside (template settings : String) (others : List (String × Entry)) : Surroundings :=
  ⟨⟨.directory (("a.html", .file (Utf8.encode template)) ::
    ("typedhtml.toml", .file (Utf8.encode settings)) :: others), []⟩, []⟩

/-- The command line that converts the template to a file in a directory. -/
def conversionInto (directory : String) : List String :=
  ["file", "a.html", "--output", directory ++ "/out.py"]

theorem asksForConversion_conversionInto :
    ∀ directory ∈ ["new", "l.1"], AsksForConversion (conversionInto directory) {}
      (conversionInto directory) (.convertFile (.ofString "a.html")
        { output := some (.ofString (directory ++ "/out.py")) }) := by
  have read : ∀ directory ∈ ["new", "l.1"],
      asksForHelp (conversionInto directory) = false ∧
      readGlobal (conversionInto directory) = .ok ({}, conversionInto directory) ∧
      readCommand (conversionInto directory) = .ok (.convertFile (.ofString "a.html")
        { output := some (.ofString (directory ++ "/out.py")) }) := by
    decide +kernel
  intro directory member
  rcases read directory member with ⟨noHelp, accepted, understood⟩
  exact ⟨noHelp, accepted, understood, fun _ => rfl⟩

/-- Settings for a log that is full after every line. -/
def fullLog : String := "[logging]\nfile = \"l\"\nmax_bytes = 1\nbackup_count = 2\n"

theorem run_isAllOrNothing_newDirectory :
    AsksForConversion (conversionInto "new") {} (conversionInto "new")
        (.convertFile (.ofString "a.html") { output := some (.ofString "new/out.py") }) ∧
      ∃ session files conversion,
        startedSession? (templateBeside "x" fullLog []) "" {} (conversionInto "new") =
          some (session, files) ∧
        IsAllOrNothing (templateBeside "x" fullLog []).files files session.OwnsPlace
          (session.converted files conversion).result conversion.output
          (ending (templateBeside "x" fullLog []).files
            (run (templateBeside "x" fullLog []) "" (conversionInto "new"))) ∧
        (ending (templateBeside "x" fullLog []).files
            (run (templateBeside "x" fullLog []) "" (conversionInto "new"))).code =
          successCode := by
  have asks := asksForConversion_conversionInto "new" (by decide)
  have isSome : (startedSession? (templateBeside "x" fullLog []) "" {}
      (conversionInto "new")).isSome = true := by
    decide +kernel
  rcases Option.isSome_iff_exists.mp isSome with ⟨⟨session, files⟩, started⟩
  rcases (run_isAllOrNothing _ _ _ _ _ _ asks).2 session files started with ⟨conversion, _, ends⟩
  exact ⟨asks, session, files, conversion, started, ends, by decide +kernel⟩

/-- The log is neither at the place of the output nor beside it, and yet a conversion that fails
takes the output away: the directory that it stands in has the name of an old log. -/
theorem run_outputBelowBackup :
    let surroundings := templateBeside "\x7b: x\x7d\n" fullLog
      [("l", .file (Utf8.encode "x\n")),
        ("l.1", .directory [("out.py", .file (Utf8.encode "old"))])]
    let outcome := ending surroundings.files (run surroundings "" (conversionInto "l.1"))
    ((startedSession? surroundings "" {} (conversionInto "l.1")).bind fun started =>
        started.1.journal.map Log.Journal.place) = some ["l"] ∧
      outcome.code = 2 ∧
      surroundings.files.root.fileAt? ["l.1", "out.py"] = some (Utf8.encode "old") ∧
      outcome.files.root.fileAt? ["l.1", "out.py"] = none ∧
      outcome.files.root.fileAt? ["l.2", "out.py"] = some (Utf8.encode "old") := by
  decide +kernel

end Stencil.CommandLine
