import Stencil.Proofs.Assembly.Reachable
import Stencil.Proofs.CommandLine.Unread
import Stencil.Proofs.Settings.Files

/-!
A conversion of a directory that is run again. It comes to the same source, and writes it to the
same file, as long as the first run leaves alone what a run reads: the settings files, the ignore
file, and the entries that the traversal comes to. An output or a log among those entries is a
template of the next run.
-/

namespace Stencil.CommandLine

open Assembly (ReadsAlike ReadsPlace)
open FileTree (IsAlike KeepsDirectories)
open Settings (Surroundings bind_eq_ok)

/-! ## Writing -/

namespace IsWriting

variable {before middle after : FileTree} {path : Path} {place other : List String}
  {source : String} {bytes : Utf8.Bytes}

theorem holds (writing : IsWriting before middle after path place source) :
    after.root.contentAt? place = some (.file (Utf8.encode source)) := by
  rw [writing.written, FileTree.contentAt?_setAt_self]
  rfl

theorem keepsMiddle (writing : IsWriting before middle after path place source) :
    KeepsDirectories middle after := by
  have keeps := FileTree.keepsDirectories_setAt writing.isPlace (Utf8.encode source)
  rwa [← writing.written] at keeps

theorem keepsDirectories (writing : IsWriting before middle after path place source) :
    KeepsDirectories before after :=
  writing.makes.keepsDirectories.trans writing.keepsMiddle

/-- No file is taken away. -/
theorem exists_file (writing : IsWriting before middle after path place source)
    (isFile : before.root.contentAt? other = some (.file bytes)) :
    ∃ bytes, after.root.contentAt? other = some (.file bytes) := by
  by_cases same : other = place
  · exact ⟨_, same ▸ writing.holds⟩
  refine ⟨bytes, ?_⟩
  rw [writing.written, FileTree.contentAt?_setAt_place writing.isPlace _ same]
  exact writing.makes.adds.keeps isFile

/-- Over what was written a source can be written again. -/
theorem again {later : FileTree} (writing : IsWriting before middle after path place source)
    (keeps : KeepsDirectories after later)
    (noDirectory : later.root.contentAt? place ≠ some .directory) :
    ∃ written, writeSource later path source = .ok written := by
  have parent := writing.keepsMiddle.isDirectory writing.makes.made
  have made := FileTree.makeDirectories_of_isDirectory (keeps.isDirectory parent)
  rcases FileTree.exists_writeBytes writing.located writing.holds parent keeps noDirectory with
    ⟨written, ok⟩
  exact ⟨written, bind_eq_ok.mpr ⟨later, made, ok⟩⟩

end IsWriting

theorem isTree_writeSource {files after : FileTree} {path : Path} {source : String}
    (isTree : files.root.IsTree) (written : writeSource files path source = .ok after) :
    after.root.IsTree := by
  rcases bind_eq_ok.mp written with ⟨middle, made, write⟩
  exact FileTree.isTree_writeBytes (FileTree.isTree_makeDirectories isTree made) write

namespace IsWriting

variable {session : Session} {files middle after : FileTree} {events : List Event} {path : Path}
  {place : List String} {source : String}

/-- A session that writes a source keeps all directories and its log. -/
theorem keepsLog (ready : session.IsReady files) (flat : session.IsFlat files)
    (writing : IsWriting (session.recordAll files events) middle after path place source) :
    KeepsDirectories files after ∧ ∀ journal ∈ session.journal,
      ∃ bytes, after.root.contentAt? journal.place = some (.file bytes) := by
  have recorded := (Session.recordAll_directories ready flat events).1
  refine ⟨recorded.trans writing.keepsDirectories, fun journal kept => ?_⟩
  rcases ((Session.recordAll_keeps ready events).1 journal kept).file with ⟨bytes, isFile⟩
  exact writing.exists_file isFile

/-- A session that finds what was written can write it again, whatever it records before. -/
theorem againRecorded {before again : FileTree}
    (writing : IsWriting before middle after path place source) (alike : IsAlike after again)
    (ready : session.IsReady again) (flat : session.IsFlat again) (events : List Event) :
    ∃ written, writeSource (session.recordAll again events) path source = .ok written := by
  have noDirectory : again.root.contentAt? place ≠ some .directory := by
    rw [alike.contents, writing.holds]
    exact nofun
  have recorded := (Session.recordAll_directories ready flat events).1
  exact writing.again (alike.keepsDirectories.trans recorded)
    (Session.recordAll_noDirectory ready flat events noDirectory)

end IsWriting

/-! ## Sessions -/

namespace Session

variable {session : Session} {place : List String}

/-- The session with other options for its journal. -/
def withOptions (session : Session) (options : Log.Options) : Session :=
  { session with journal := session.journal.map fun kept => { kept with options } }

/-- How the session converts a directory. -/
def directoryConversion (session : Session) (path : Path) (options : ConversionOptions) :
    Conversion :=
  let settings := session.config.typed
  ⟨path, options.output, (convertDirectory · path (settings.compile.minify && options.minify)
    settings.emit.checkSyntax settings.compile.exclude)⟩

theorem conversion?_directory (session : Session) (path : Path) (options : ConversionOptions) :
    session.conversion? (.convertDirectory path options) =
      some (session.directoryConversion path options) := rfl

theorem ownsPlace_withOptions {options : Log.Options} :
    (session.withOptions options).OwnsPlace place ↔ session.OwnsPlace place := by
  rw [OwnsPlace, OwnsPlace, withOptions]
  cases session.journal with
  | none => exact Iff.rfl
  | some journal =>
      simp [Log.Journal.Owns, Log.Journal.place, Log.Journal.backupPlace, Log.Journal.backupName]

theorem isFlat_withOptions {options : Log.Options} {files : FileTree} :
    (session.withOptions options).IsFlat files ↔ session.IsFlat files := by
  rw [IsFlat, IsFlat, withOptions]
  cases session.journal with
  | none => exact Iff.rfl
  | some journal =>
      simp [Log.Journal.IsFlat, Log.Journal.IsSlot, Log.Journal.place, Log.Journal.backupPlace,
        Log.Journal.backupName]

end Session

theorem AsksForConversion.run_eq {line rest : List String} {options : GlobalOptions}
    {command : Command} (asks : AsksForConversion line options rest command)
    (surroundings : Surroundings) (time : String) :
    run surroundings time line = runConfigured surroundings time options rest := by
  rw [run, asks.noHelp, if_neg Bool.false_ne_true, asks.accepted]

section Sessions

variable {surroundings : Surroundings} {time : String} {options : GlobalOptions}
  {line : List String} {session : Session} {files : FileTree}

theorem isTree_started (isTree : surroundings.files.root.IsTree)
    (started : startedSession? surroundings time options line = some (session, files)) :
    files.root.IsTree := by
  unfold startedSession? at started
  split at started
  · cases started
  · split at started
    · cases started
    · rename_i opened
      cases started
      exact Log.CommandLog.isTree_open isTree opened

/-- A session starts again on later files, with the same settings and at the same place for its
log. -/
theorem startedSession?_again
    (started : startedSession? surroundings time options line = some (session, files))
    {after : FileTree}
    (settled : Settings.IsSettled surroundings options.config options.projectRoot after)
    (keeps : KeepsDirectories files after)
    (file : ∀ kept ∈ session.journal, ∃ bytes,
      after.root.contentAt? kept.place = some (.file bytes)) (later : String) :
    ∃ again journalOptions,
      startedSession? ⟨after, surroundings.environment⟩ later options line =
        some (session.withOptions journalOptions, again) ∧ IsAlike after again := by
  have loading := settled.loadForCommand options.overrides
  unfold startedSession? at started ⊢
  rw [loading]
  split at started
  · cases started
  · rename_i config message loaded
    split at started
    · cases started
    · rename_i opened journal opens
      cases started
      rcases Log.CommandLog.open_again opens keeps file later with
        ⟨again, journalOptions, reopens, alike⟩
      refine ⟨again, journalOptions, ?_, alike⟩
      simp only [reopens]
      rfl

variable {command : Command} {conversion : Conversion} {out : Path}

theorem run_of_converted {source : String} (understood : readCommand line = .ok command)
    (asked : session.conversion? command = some conversion)
    (output : conversion.output = some out)
    (converted : (session.converted files conversion).result = .ok source) :
    session.run files line =
      session.deliver (session.recorded files conversion) (some out) source := by
  rw [Session.run, understood, ← output, ← Session.convert_of_ok converted]
  exact Session.perform_of_conversion asked

/-- A conversion to a file succeeds only if its source is written. -/
theorem exists_written_of_success
    (started : startedSession? surroundings time options line = some (session, files))
    (understood : readCommand line = .ok command)
    (asked : session.conversion? command = some conversion)
    (output : conversion.output = some out)
    (ended : (ending surroundings.files (runConfigured surroundings time options line)).code =
      successCode) :
    ∃ source, (session.converted files conversion).result = .ok source ∧
      writeSource (session.recorded files conversion) out source =
        .ok (ending surroundings.files (runConfigured surroundings time options line)).files := by
  have isWritten := ending_isAllOrNothing started understood asked
  rw [output] at isWritten
  cases isWritten with
  | shown _ noOutput => cases noOutput
  | failed _ code => exact absurd ended code
  | @written source _ _ converted =>
      refine ⟨source, converted, ?_⟩
      rcases runConfigured_of_started started with ⟨_, _, _, told, runs⟩
      rw [runs, run_of_converted understood asked output converted] at ended ⊢
      cases delivered : session.deliver (session.recorded files conversion) (some out) source with
      | error escape =>
          rw [delivered] at ended
          cases ended
      | ok outcome =>
          rw [delivered] at ended
          rcases Session.deliver_eq_ok delivered with
            ⟨noOutput, _⟩ | ⟨path, same, ⟨kind, message, rfl⟩ | ⟨after, told, written, rfl⟩⟩
          · cases noOutput
          · exact absurd ended (exitCode_ne_successCode kind)
          · cases same
            exact written

/-- A conversion to a file succeeds if its source is written. -/
theorem ending_of_written {source : String} {after : FileTree}
    (started : startedSession? surroundings time options line = some (session, files))
    (understood : readCommand line = .ok command)
    (asked : session.conversion? command = some conversion)
    (output : conversion.output = some out)
    (converted : (session.converted files conversion).result = .ok source)
    (written : writeSource (session.recorded files conversion) out source = .ok after) :
    (ending surroundings.files (runConfigured surroundings time options line)).code =
        successCode ∧
      (ending surroundings.files (runConfigured surroundings time options line)).files =
        after := by
  rcases runConfigured_of_started started with ⟨_, _, _, told, runs⟩
  rw [runs, run_of_converted understood asked output converted, Session.deliver]
  simp only [written]
  exact ⟨rfl, rfl⟩

end Sessions

/-! ## Runs without a log -/

section Unlogged

variable {surroundings : Surroundings} {time : String} {options : GlobalOptions}
  {line rest : List String} {session : Session} {files after : FileTree} {path out : Path}
  {convertOptions : ConversionOptions} {source : String}

theorem files_of_unlogged
    (started : startedSession? surroundings time options line = some (session, files))
    (unlogged : session.journal = none) : files = surroundings.files := by
  unfold startedSession? at started
  split at started
  · cases started
  · split at started
    · cases started
    · rename_i opened
      cases started
      rw [Log.CommandLog.open] at opened
      split at opened
      · cases opened
        rfl
      · rcases bind_eq_ok.mp opened with ⟨⟨written, plain⟩, _, same⟩
        cases same
        cases unlogged

/-- Without a log, a run converts the files that it finds. -/
theorem ending_of_unlogged
    (asks : AsksForConversion line options rest (.convertDirectory path convertOptions))
    (output : convertOptions.output = some out)
    (started : startedSession? surroundings time options rest = some (session, files))
    (unlogged : session.journal = none)
    (converted : (convertDirectory surroundings.files path
      (session.config.typed.compile.minify && convertOptions.minify)
      session.config.typed.emit.checkSyntax session.config.typed.compile.exclude).result =
        .ok source)
    (written : writeSource surroundings.files out source = .ok after) :
    (ending surroundings.files (run surroundings time line)).code = successCode ∧
      (ending surroundings.files (run surroundings time line)).files = after := by
  have sameFiles := files_of_unlogged started unlogged
  subst sameFiles
  rw [asks.run_eq]
  apply ending_of_written started asks.understood (session.conversion?_directory _ _) output
  · rw [Session.converted, Session.filesFor, unlogged]
    exact converted
  · rw [Session.recorded, Session.recordAll, unlogged]
    exact written

end Unlogged

/-! ## A second run -/

/-- A run leaves alone what a run reads, among which are neither its log nor the old files of this,
and no directory stands in their places. `files` are those with the log opened, and `after` those
that the run leaves. -/
structure IsUndisturbed (surroundings : Surroundings) (options : GlobalOptions)
    (session : Session) (path : Path) (files after : FileTree) : Prop where
  settings : Settings.IsSettled surroundings options.config options.projectRoot after
  reads : ReadsAlike path session.config.typed.compile.exclude files after
  unread : ∀ place, ReadsPlace files path session.config.typed.compile.exclude place →
    ¬ session.OwnsPlace place
  flatBefore : session.IsFlat files
  flatAfter : session.IsFlat after

/-- A directory that is converted to a file and converted again is converted to the same source in
the same file. -/
theorem run_again (surroundings : Surroundings) (time later : String) (line rest : List String)
    (options : GlobalOptions) (path out : Path) (convertOptions : ConversionOptions)
    (session : Session) (files : FileTree) (isTree : surroundings.files.root.IsTree)
    (asks : AsksForConversion line options rest (.convertDirectory path convertOptions))
    (output : convertOptions.output = some out)
    (started : startedSession? surroundings time options rest = some (session, files))
    (ended : (ending surroundings.files (run surroundings time line)).code = successCode)
    (undisturbed : IsUndisturbed surroundings options session path files
      (ending surroundings.files (run surroundings time line)).files) :
    let first := ending surroundings.files (run surroundings time line)
    let second := ending first.files (run ⟨first.files, surroundings.environment⟩ later line)
    second.code = successCode ∧ ∃ bytes, first.files.readBytes out = .ok bytes ∧
      second.files.readBytes out = .ok bytes := by
  simp only [asks.run_eq] at ended undisturbed ⊢
  let conversion := session.directoryConversion path convertOptions
  have asked := session.conversion?_directory path convertOptions
  rcases exists_written_of_success started asks.understood asked output ended with
    ⟨source, converted, written⟩
  generalize ending surroundings.files (runConfigured surroundings time options rest) = first at *
  rcases exists_writing written with ⟨middle, place, writing⟩
  rcases runConfigured_of_started started with ⟨ready, _⟩
  have flat := undisturbed.flatBefore
  rcases writing.keepsLog ready flat with ⟨keeps, logFile⟩
  -- The log opens again, and all else is as the first run left it.
  rcases startedSession?_again started undisturbed.settings keeps logFile later with
    ⟨again, journalOptions, startedAgain, alike⟩
  rcases runConfigured_of_started startedAgain with ⟨readyAgain, _⟩
  have filesTree := isTree_started isTree started
  have firstTree := isTree_writeSource (Session.isTree_recordAll filesTree _) written
  have reads := undisturbed.reads.trans (Assembly.readsAlike_of_isAlike alike) fun _ found =>
    Assembly.exists_found_of_keeps keeps found
  have convertedAgain :
      ((session.withOptions journalOptions).converted again conversion).result = .ok source :=
    convertDirectory_again filesTree ready flat undisturbed.unread
      (isTree_started firstTree startedAgain) readyAgain
      (fun _ => Session.ownsPlace_withOptions.mp) (keeps.trans alike.keepsDirectories) reads
      converted
  have flatAgain : (session.withOptions journalOptions).IsFlat again := by
    refine Session.isFlat_withOptions.mpr fun journal kept slot isSlot => ?_
    rw [alike.contents]
    exact undisturbed.flatAfter journal kept slot isSlot
  rcases writing.againRecorded alike readyAgain flatAgain _ with ⟨last, writtenAgain⟩
  rcases ending_of_written startedAgain asks.understood asked output convertedAgain writtenAgain with
    ⟨code, filesAgain⟩
  rcases exists_writing writtenAgain with ⟨_, _, writingAgain⟩
  refine ⟨code, Utf8.encode source, ?_, ?_⟩
  · exact FileTree.readBytes_of_file writing.located writing.holds
  · rw [filesAgain]
    exact FileTree.readBytes_of_file writingAgain.located writingAgain.holds

/-! ## An output in the directory itself -/

/-- A directory of templates, with nothing beside it. -/
def templatesIn (entries : List (String × Entry)) : Surroundings :=
  ⟨⟨.directory [("t", .directory entries)], []⟩, []⟩

/-- The command line that converts the directory to a file in it. -/
def conversionWithin : List String := ["dir", "t", "--output", "t/out.py"]

theorem asks_conversionWithin : AsksForConversion conversionWithin {} conversionWithin
    (.convertDirectory (.ofString "t") { output := some (.ofString "t/out.py") }) := by
  have read : asksForHelp conversionWithin = false ∧
      readGlobal conversionWithin = .ok ({}, conversionWithin) ∧
      readCommand conversionWithin = .ok (.convertDirectory (.ofString "t")
        { output := some (.ofString "t/out.py") }) := by
    decide +kernel
  exact ⟨read.1, read.2.1, read.2.2, fun _ => rfl⟩

/-- A session that keeps no log and has the settings that hold where none are given. -/
structure IsPlain (surroundings : Surroundings) (session : Session) : Prop where
  started : startedSession? surroundings "" {} conversionWithin = some (session, surroundings.files)
  unlogged : session.journal = none
  excludes : session.config.typed.compile.exclude = []
  minifies : session.config.typed.compile.minify = true
  checks : session.config.typed.emit.checkSyntax = true

theorem exists_plain {surroundings : Surroundings}
    (starts : (startedSession? surroundings "" {} conversionWithin).any (fun started =>
      let settings := started.1.config.typed
      started.1.journal.isNone && settings.compile.exclude.isEmpty && settings.compile.minify &&
        settings.emit.checkSyntax) = true) : ∃ session, IsPlain surroundings session := by
  rcases (Option.any_eq_true _ _).mp starts with ⟨⟨session, files⟩, started, holds⟩
  simp only [Bool.and_eq_true, Option.isNone_iff_eq_none, List.isEmpty_iff] at holds
  rcases holds with ⟨⟨⟨unlogged, excludes⟩, minifies⟩, checks⟩
  have same := files_of_unlogged started unlogged
  exact ⟨session, same ▸ started, unlogged, excludes, minifies, checks⟩

theorem IsPlain.ending {surroundings : Surroundings} {session : Session} {scope : Scope}
    {after : FileTree} (plain : IsPlain surroundings session)
    (assembled : (assemble surroundings.files (.ofString "t") true []).result = .ok scope)
    (accepted : sourceError? scope = none)
    (written : writeSource surroundings.files (.ofString "t/out.py") (moduleSource scope) =
      .ok after) :
    (ending surroundings.files (run surroundings "" conversionWithin)).code = successCode ∧
      (ending surroundings.files (run surroundings "" conversionWithin)).files = after := by
  apply ending_of_unlogged asks_conversionWithin rfl plain.started plain.unlogged _ written
  rw [plain.excludes, plain.minifies, plain.checks]
  exact convertDirectory_of_accepted assembled accepted

theorem assembled_files {entries : List (String × Entry)} {scope : Scope}
    {patterns : Option (List Ignore.Pattern)}
    (files : entries.all fun pair => !pair.2.isDirectory)
    (increasing : entries.Pairwise fun left right => left.1 ≤ right.1)
    (read : Ignore.patternsFor (templatesIn entries).files (.ofString "t") {} = .ok patterns)
    (added : (Assembly.addEntries ⟨.ofString "t", patterns, true⟩ [] {} entries).result =
      .ok scope) :
    (assemble (templatesIn entries).files (.ofString "t") true []).result = .ok scope := by
  have found : (templatesIn entries).files.find (.ofString "t") = .ok (.directory entries) := rfl
  rw [Assembly.assemble_result found read, Entry.sorted_files files increasing]
  exact added

/-- A template beside an ignore file that leaves out sources. -/
def ignoringSources : List (String × Entry) :=
  [(".typedhtmlignore", .file (Utf8.encode "*.py\n")), ("a.html", .file (Utf8.encode "x"))]

/-- The same with an output. -/
def withOutput (bytes : Utf8.Bytes) : List (String × Entry) :=
  ignoringSources ++ [("out.py", .file bytes)]

theorem exists_patterns_ignoringSources :
    ∃ patterns, Ignore.patternsFor (templatesIn ignoringSources).files (.ofString "t") {} =
        .ok patterns ∧
      ∀ bytes, Assembly.Plan.admits ⟨.ofString "t", patterns, true⟩ ["a.html"] (.file bytes) =
          true ∧
        Assembly.Plan.admits ⟨.ofString "t", patterns, true⟩ ["out.py"] (.file bytes) = false := by
  have computed : (Ignore.patternsFor (templatesIn ignoringSources).files (.ofString "t")
      {}).toOption.any (fun patterns =>
        Assembly.Plan.admits ⟨.ofString "t", patterns, true⟩ ["a.html"] (.file []) &&
          !Assembly.Plan.admits ⟨.ofString "t", patterns, true⟩ ["out.py"] (.file [])) = true := by
    decide +kernel
  cases read : Ignore.patternsFor (templatesIn ignoringSources).files (.ofString "t") {} with
  | error error =>
      rw [read] at computed
      cases computed
  | ok patterns =>
      rw [read, Except.toOption, Option.any_some, Bool.and_eq_true, Bool.not_eq_true'] at computed
      exact ⟨patterns, rfl, fun _ => computed⟩

theorem assembled_ignoringSources :
    (assemble (templatesIn ignoringSources).files (.ofString "t") true []).result =
      .ok { types := [⟨"A", [], "x"⟩] } := by
  rcases exists_patterns_ignoringSources with ⟨patterns, read, admits⟩
  let plan : Assembly.Plan := ⟨.ofString "t", patterns, true⟩
  have compiled : (compileFile "a.html" (FileTree.decodeText (Utf8.encode "x")) true).result =
      .ok ⟨"A", [], "x"⟩ := by
    decide +kernel
  have added := @Assembly.addEntry_file plan [] "a.html" _ _ {} compiled
  have leftOut : ¬ plan.admits ([] ++ [".typedhtmlignore"]) (.file (Utf8.encode "*.py\n")) = true :=
    Bool.false_ne_true
  apply assembled_files rfl (by decide) read
  rw [ignoringSources, Assembly.addEntries_skipped leftOut,
    Assembly.addEntries_admitted (admits _).1 added]
  rfl

theorem writeBytes_ignoringSources (bytes : Utf8.Bytes) :
    (templatesIn ignoringSources).files.writeBytes (.ofString "t/out.py") bytes =
      .ok (templatesIn (withOutput bytes)).files := rfl

/-- An output that the ignore file leaves out is not read. -/
theorem readsAlike_withOutput (bytes : Utf8.Bytes) :
    ReadsAlike (.ofString "t") [] (templatesIn ignoringSources).files
      (templatesIn (withOutput bytes)).files := by
  let before := (templatesIn ignoringSources).files
  let after := (templatesIn (withOutput bytes)).files
  have found : before.find (.ofString "t") = .ok (.directory ignoringSources) := rfl
  have foundAfter : after.find (.ofString "t") = .ok (.directory (withOutput bytes)) := rfl
  have base : before.locate (.ofString "t") = .ok ["t"] := rfl
  have baseAfter : after.locate (.ofString "t") = .ok ["t"] := rfl
  have leads : after.locate (.ofString "t/out.py") = .ok ["t", "out.py"] := rfl
  rcases FileTree.writeBytes_eq_ok (writeBytes_ignoringSources bytes) nofun with
    ⟨place, isPlace, located, same⟩
  cases leads.symm.trans located
  have keeps := FileTree.keepsDirectories_setAt isPlace bytes
  rw [← same] at keeps
  have contents (place : List String) (different : ¬ place = ["t", "out.py"]) :
      after.root.contentAt? place = before.root.contentAt? place :=
    (congrArg (·.root.contentAt? place) same).trans
      (FileTree.contentAt?_setAt_place isPlace bytes different)
  apply Assembly.readsAlike_of_unread keeps contents _ _ found
  · intro place isRead equal
    cases isRead with
    | ignoreFile located =>
        cases base.symm.trans located
        exact absurd equal (by decide)
    | entry located _ found seen =>
        cases base.symm.trans located
        cases List.append_cancel_left equal
        have missing := Assembly.contentAt?_of_find located found ["out.py"]
        rw [seen.2.1] at missing
        cases missing
  · intro place isRead equal
    cases isRead with
    | ignoreFile located =>
        cases baseAfter.symm.trans located
        exact absurd equal (by decide)
    | entry located read found seen =>
        cases baseAfter.symm.trans located
        cases List.append_cancel_left equal
        cases foundAfter.symm.trans found
        rcases exists_patterns_ignoringSources with ⟨patterns, readBefore, admits⟩
        have sameFile : after.contentOf (Path.ofString "t" / Ignore.fileName) =
          before.contentOf (Path.ofString "t" / Ignore.fileName) := rfl
        have samePatterns := (Assembly.patternsFor_of_contentOf sameFile {}).trans readBefore
        have admitted := seen.2.2 ["out.py"] (.file bytes) nofun (List.prefix_refl _) rfl
        have leftOut := (admits bytes).2
        rw [Except.ok.inj (samePatterns.symm.trans read)] at leftOut
        exact Bool.false_ne_true (leftOut.symm.trans admitted)

theorem isTree_ignoringSources : (templatesIn ignoringSources).files.root.IsTree := by
  apply Entry.isTree_directory (by decide)
  intro name entry member
  simp only [List.mem_singleton, Prod.mk.injEq] at member
  rw [member.2]
  refine Entry.isTree_directory (by decide) fun name entry member => ?_
  simp only [ignoringSources, List.mem_cons, List.not_mem_nil, or_false, Prod.mk.injEq] at member
  rcases member with ⟨_, rfl⟩ | ⟨_, rfl⟩
  · exact Entry.isTree_file _
  · exact Entry.isTree_file _

theorem IsPlain.isUndisturbed {session : Session} {bytes : Utf8.Bytes}
    (plain : IsPlain (templatesIn ignoringSources) session)
    (settled : Settings.IsSettled (templatesIn ignoringSources) none none
      (templatesIn (withOutput bytes)).files) :
    IsUndisturbed (templatesIn ignoringSources) {} session (.ofString "t")
      (templatesIn ignoringSources).files (templatesIn (withOutput bytes)).files := by
  have noLog : ∀ journal ∈ session.journal, False := by
    rw [plain.unlogged]
    exact nofun
  refine ⟨settled, ?_, ?_, ?_, ?_⟩
  · rw [plain.excludes]
    exact readsAlike_withOutput bytes
  · rintro place _ ⟨journal, kept, _⟩
    exact noLog journal kept
  · exact fun journal kept => (noLog journal kept).elim
  · exact fun journal kept => (noLog journal kept).elim

theorem run_again_outputIgnored :
    let surroundings := templatesIn ignoringSources
    let first := ending surroundings.files (run surroundings "" conversionWithin)
    let second := ending first.files
      (run ⟨first.files, surroundings.environment⟩ "" conversionWithin)
    surroundings.files.root.IsTree ∧
      AsksForConversion conversionWithin {} conversionWithin
        (.convertDirectory (.ofString "t") { output := some (.ofString "t/out.py") }) ∧
      (∃ session,
        startedSession? surroundings "" {} conversionWithin = some (session, surroundings.files) ∧
        IsUndisturbed surroundings {} session (.ofString "t") surroundings.files first.files) ∧
      first.code = successCode ∧ second.code = successCode ∧
      ∃ bytes, first.files.readBytes (.ofString "t/out.py") = .ok bytes ∧
        second.files.readBytes (.ofString "t/out.py") = .ok bytes := by
  intro surroundings first second
  rcases @exists_plain surroundings (by decide +kernel) with ⟨session, plain⟩
  rcases plain.ending assembled_ignoringSources (by decide +kernel) rfl with ⟨code, files⟩
  have undisturbed : IsUndisturbed surroundings {} session (.ofString "t") surroundings.files
      first.files :=
    files ▸ plain.isUndisturbed ⟨rfl, by decide +kernel⟩
  have again := run_again surroundings "" "" conversionWithin conversionWithin {} (.ofString "t")
    (.ofString "t/out.py") _ session surroundings.files isTree_ignoringSources
    asks_conversionWithin rfl plain.started code undisturbed
  exact ⟨isTree_ignoringSources, asks_conversionWithin, ⟨session, plain.started, undisturbed⟩, code,
    again⟩

/-- A directory with nothing but an output in it. -/
def outputOnly (bytes : Utf8.Bytes) : Surroundings := templatesIn [("out.py", .file bytes)]

/-- The source of an empty directory as a template. -/
def outTemplate : TemplateClass :=
  ⟨"Out", [], "\"\"\"Generated by typedhtml. Do not edit.\"\"\" from __future__ import annotations"⟩

theorem assembled_outputOnly {bytes : Utf8.Bytes} {template : TemplateClass}
    (compiled : (compileFile "out.py" (FileTree.decodeText bytes) true).result = .ok template) :
    (assemble (outputOnly bytes).files (.ofString "t") true []).result =
      .ok { types := [template] } := by
  let plan : Assembly.Plan := ⟨.ofString "t", none, true⟩
  have added := @Assembly.addEntry_file plan [] "out.py" bytes template {} compiled
  have admitted : plan.admits ([] ++ ["out.py"]) (.file bytes) := rfl
  apply assembled_files rfl (List.pairwise_singleton _ _) rfl
  exact Assembly.addEntries_admitted admitted added []

theorem writeSource_outputOnly (bytes : Utf8.Bytes) (source : String) :
    writeSource (outputOnly bytes).files (.ofString "t/out.py") source =
      .ok (outputOnly (Utf8.encode source)).files := rfl

theorem readBytes_outputOnly (bytes : Utf8.Bytes) :
    (outputOnly bytes).files.readBytes (.ofString "t/out.py") = .ok bytes := rfl

/-- An output in the directory is a template of the next run, which writes a class for it. -/
theorem run_again_outputRead :
    let surroundings := templatesIn []
    let first := ending surroundings.files (run surroundings "" conversionWithin)
    let second := ending first.files
      (run ⟨first.files, surroundings.environment⟩ "" conversionWithin)
    first.code = successCode ∧ second.code = successCode ∧
      first.files.readBytes (.ofString "t/out.py") ≠
        second.files.readBytes (.ofString "t/out.py") := by
  intro surroundings first second
  let written := outputOnly (Utf8.encode (moduleSource {}))
  have compiled : (compileFile "out.py"
      (FileTree.decodeText (Utf8.encode (moduleSource {}))) true).result = .ok outTemplate := by
    decide +kernel
  rcases @exists_plain surroundings (by decide +kernel) with ⟨session, plain⟩
  rcases plain.ending (assembled_files rfl List.Pairwise.nil rfl rfl) (by decide +kernel) rfl with
    ⟨code, files⟩
  rcases @exists_plain written (by decide +kernel) with ⟨other, otherPlain⟩
  rcases otherPlain.ending (assembled_outputOnly compiled) (by decide +kernel)
    (writeSource_outputOnly _ _) with ⟨otherCode, otherFiles⟩
  have firstFiles : first.files = written.files := files
  have again : second = ending written.files (run written "" conversionWithin) :=
    congrArg (fun files => ending files (run ⟨files, []⟩ "" conversionWithin)) firstFiles
  rw [again, firstFiles, otherFiles, readBytes_outputOnly, readBytes_outputOnly]
  exact ⟨code, otherCode, by decide +kernel⟩

end Stencil.CommandLine
