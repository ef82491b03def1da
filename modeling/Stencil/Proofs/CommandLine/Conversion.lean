import Stencil.CommandLine.Run
import Stencil.Proofs.Conversion
import Stencil.Proofs.Files.Following
import Stencil.Proofs.Ignore.Repetition
import Stencil.Proofs.Settings.Layers

/-!
Conversions on the command line. Almost every error of a conversion is told and has an exit code.
The others are a pattern that cannot be read and a path that no operation takes.
-/

namespace Stencil

/-! ## Runs that fail -/

namespace Run

variable {ε δ α β : Type} {allowed : ε → Prop}

/-- A run that fails does so with an error that is allowed. -/
def FailsWithin (allowed : ε → Prop) (run : Run ε α) : Prop :=
  ∀ error, run.result = .error error → allowed error

namespace FailsWithin

theorem pure (value : α) : FailsWithin allowed (pure value : Run ε α) := nofun

theorem report (event : Event) : FailsWithin allowed (Run.report event) := nofun

theorem ofExcept {result : Except ε α} (errors : ∀ error, result = .error error → allowed error) :
    FailsWithin allowed (Run.ofExcept result) := errors

theorem bind {first : Run ε α} {next : α → Run ε β} (firstFails : FailsWithin allowed first)
    (nextFails : ∀ value, FailsWithin allowed (next value)) :
    FailsWithin allowed (first >>= next) := by
  intro error failed
  cases ended : first.result with
  | error other =>
      rw [bind_of_error ended] at failed
      cases failed
      exact firstFails error ended
  | ok value =>
      rw [bind_result_of_ok ended] at failed
      exact nextFails value error failed

theorem mapError {widen : δ → ε} {run : Run δ α} (errors : ∀ error, allowed (widen error)) :
    FailsWithin allowed (run.mapError widen) := by
  intro error failed
  cases ended : run.result with
  | ok value =>
      rw [Run.mapError, ended] at failed
      cases failed
  | error other =>
      rw [Run.mapError, ended] at failed
      cases failed
      exact errors other

end FailsWithin

end Run

/-! ## Errors that are told -/

/-- Whether an error of a conversion is told and has an exit code. -/
def ConversionError.isTold : ConversionError → Bool
  | .pattern _ => false
  | .reading (.file ⟨.nullCharacter, _⟩) => false
  | _ => true

open ConversionError (isTold)

theorem isTold_file {error : FileError} (fault : error.fault ≠ .nullCharacter) :
    isTold (.reading (.file error)) = true := by
  rcases error with ⟨kind, path⟩
  cases kind with
  | nullCharacter => exact absurd rfl fault
  | _ => rfl

theorem isTold_readText {tree : FileTree} {path : Path} (noNull : path.hasNull = false)
    {error : ReadError} (failed : tree.readText path = .error error) :
    isTold (.reading error) = true := by
  cases error with
  | decoding error => rfl
  | file error => exact isTold_file (FileTree.readText_fault noNull failed)

theorem ofExcept_fails {ε α : Type} {result : Except ε α} {widen : ε → ConversionError}
    (errors : ∀ error, result = .error error → isTold (widen error) = true) :
    (Run.ofExcept (result.mapError widen)).FailsWithin (isTold · = true) := by
  apply Run.FailsWithin.ofExcept
  intro error failed
  rcases Settings.mapError_eq_error.mp failed with ⟨other, ended, rfl⟩
  exact errors other ended

theorem emitScope_fails (scope : Scope) (validate : Bool) :
    (emitScope scope validate).FailsWithin (isTold · = true) :=
  .bind (ofExcept_fails fun _ _ => rfl) fun _ => .bind (.report _) fun _ => .pure _

theorem compileFile_fails {name : String} {text : Except ReadError String} {minified : Bool}
    (reading : ∀ error, text = .error error → isTold (.reading error) = true) :
    (compileFile name text minified).FailsWithin (isTold · = true) :=
  .bind (ofExcept_fails fun _ _ => rfl) fun _ =>
    .bind (ofExcept_fails reading) fun _ => .mapError fun _ => rfl

theorem decodeText_fails {bytes : Utf8.Bytes} {error : ReadError}
    (failed : FileTree.decodeText bytes = .error error) : isTold (.reading error) = true := by
  rw [FileTree.decodeText] at failed
  split at failed
  · cases failed
    rfl
  · cases failed

namespace Assembly

variable {plan : Plan}

/-- The entries of a directory fail with what their own entries fail with, and with what files
fail with. -/
theorem addEntries_fails_of_below {entries : List (String × Entry)}
    (below : ∀ name entry, (name, entry) ∈ entries → ∀ place scope,
      (addEntries plan place scope entry.entries).FailsWithin (isTold · = true))
    (place : List String) (scope : Scope) :
    (addEntries plan place scope entries).FailsWithin (isTold · = true) := by
  induction entries generalizing scope with
  | nil =>
      rw [addEntries]
      exact .pure scope
  | cons head tail induction =>
      rcases head with ⟨name, entry⟩
      have later := induction fun other inner member =>
        below other inner (List.mem_cons_of_mem _ member)
      rw [addEntries]
      split
      · exact later scope
      · split
        · exact .bind (.report _) fun _ => later scope
        · refine .bind ?_ later
          cases entry with
          | file bytes =>
              rw [addEntry]
              exact .bind (compileFile_fails fun _ => decodeText_fails) fun _ => .pure _
          | directory inner =>
              rw [addEntry]
              exact .bind (.report _) fun _ =>
                .bind (below name _ List.mem_cons_self _ _) fun _ => .pure _

theorem addEntries_fails (entry : Entry) (plan : Plan) (place : List String) (scope : Scope) :
    (addEntries plan place scope entry.entries).FailsWithin (isTold · = true) := by
  induction entry using Entry.induction generalizing place scope with
  | file bytes =>
      apply addEntries_fails_of_below
      intro name entry member
      cases member
  | directory entries induction =>
      exact addEntries_fails_of_below (fun name inner member place scope =>
        induction name inner member place scope) place scope

end Assembly

/-! ## Patterns that cannot be read -/

namespace Ignore

variable {tree : FileTree} {root : Path} {exclude : List String}

/-- A line of the ignore file or of the configuration that is no pattern. -/
def HasBadPattern (tree : FileTree) (root : Path) (exclude : List String) : Prop :=
  ∃ fromFile, readPatterns tree (root / fileName) = .ok fromFile ∧
    ∃ line ∈ fromFile ++ exclude, ∀ pattern, Pattern.read line ≠ .ok pattern

theorem patternsFor_of_unread {error : ReadError}
    (failed : readPatterns tree (root / fileName) = .error error) :
    patternsFor tree root { extra := exclude } = .error (.reading error) := by
  have collected : collectPatterns tree root { extra := exclude } = .error error := by
    simp [collectPatterns, failed, bind, Except.bind]
  rw [patternsFor, collected]

theorem patternsFor_eq_pattern_iff :
    (∃ error, patternsFor tree root { extra := exclude } = .error (.pattern error)) ↔
      HasBadPattern tree root exclude := by
  cases read : readPatterns tree (root / fileName) with
  | error error => simp [HasBadPattern, patternsFor_of_unread read, read]
  | ok fromFile =>
      have readable := exists_readAll_iff (distinct (fromFile ++ exclude))
      simp only [mem_distinct] at readable
      simp only [HasBadPattern, read, Except.ok.injEq, exists_eq_left',
        patternsFor_of_readPatterns read]
      cases all : readAll (distinct (fromFile ++ exclude)) with
      | ok patterns =>
          have good := readable.mp ⟨patterns, all⟩
          constructor
          · rintro ⟨error, failed⟩
            split at failed <;> cases failed
          · rintro ⟨line, member, bad⟩
            rcases good line member with ⟨pattern, pattern_read⟩
            exact absurd pattern_read (bad pattern)
      | error error =>
          have nonempty : distinct (fromFile ++ exclude) ≠ [] := by
            intro empty
            rw [empty] at all
            cases all
          have bad : ¬ ∀ line ∈ fromFile ++ exclude,
              ∃ pattern, Pattern.read line = .ok pattern := by
            rw [← readable, all]
            simp
          rw [if_neg nonempty]
          refine iff_of_true ⟨error, rfl⟩ ?_
          simpa using bad

end Ignore

open Ignore (HasBadPattern)

section Conversions

variable {tree : FileTree} {root path : Path} {minified validate : Bool} {exclude : List String}

theorem hasNull_of_find {entry : Entry} (found : tree.find path = .ok entry) :
    path.hasNull = false := by
  rcases FileTree.find_eq_ok_iff.mp found with ⟨place, located, _⟩
  exact (FileTree.locate_eq_ok_iff.mp located).1

theorem hasNull_ignoreFile (noNull : root.hasNull = false) :
    (root / Ignore.fileName).hasNull = false := by
  have names : (root / Ignore.fileName).names = root.names ++ [Ignore.fileName] := rfl
  rw [Path.hasNull] at noNull ⊢
  rw [names, List.any_append, noNull]
  decide

theorem readPatterns_fails (noNull : path.hasNull = false) {error : ReadError}
    (failed : Ignore.readPatterns tree path = .error error) : isTold (.reading error) = true := by
  rw [Ignore.readPatterns] at failed
  split at failed
  · rename_i other leads
    cases failed
    rw [FileTree.leadsTo] at leads
    split at leads
    · cases leads
    · cases leads
      rfl
    · cases leads
  · cases failed
  · cases read : tree.readText path with
    | ok text =>
        rw [read] at failed
        cases failed
    | error other =>
        rw [read] at failed
        cases failed
        exact isTold_readText noNull read

/-- Of a directory, only a bad pattern is not told. -/
theorem assemble_untold_iff (minified : Bool) :
    (∃ error, (assemble tree root minified exclude).result = .error error ∧
        isTold error = false) ↔
      (∃ entries, tree.find root = .ok (.directory entries)) ∧
        HasBadPattern tree root exclude := by
  rw [← Ignore.patternsFor_eq_pattern_iff, assemble]
  split
  · simp [*, Run.fail, isTold]
  · rename_i entries found
    rw [found]
    split
    · rename_i error failed
      have told : isTold (.reading error) = true := by
        cases read : Ignore.readPatterns tree (root / Ignore.fileName) with
        | ok fromFile =>
            rw [Ignore.patternsFor_of_readPatterns read] at failed
            split at failed
            · cases failed
            · cases patterns : Ignore.readAll (Ignore.distinct (fromFile ++ exclude)) with
              | ok all =>
                  rw [patterns] at failed
                  cases failed
              | error other =>
                  rw [patterns] at failed
                  cases failed
        | error other =>
            rw [Ignore.patternsFor_of_unread read] at failed
            cases failed
            exact readPatterns_fails (hasNull_ignoreFile (hasNull_of_find found)) read
      simp [failed, Run.fail, told]
    · rename_i error failed
      simp [failed, Run.fail, isTold]
    · rename_i patterns read
      rw [read]
      simp only [reduceCtorEq, exists_false, and_false, iff_false, not_exists, not_and,
        Bool.not_eq_false]
      exact Run.FailsWithin.bind (.report _) fun _ =>
        .bind (Assembly.addEntries_fails _ _ _ _) fun _ => .bind (.report _) fun _ => .pure _
  · rename_i noDirectory
    constructor
    · rintro ⟨error, failed, untold⟩
      cases failed
      cases untold
    · rintro ⟨⟨entries, found⟩, _⟩
      exact absurd found (noDirectory entries)

theorem convertFile_fails (noNull : path.hasNull = false) :
    (convertFile tree path minified validate).FailsWithin (isTold · = true) :=
  .bind (compileFile_fails fun _ => isTold_readText noNull) fun _ => emitScope_fails _ _

theorem convertDirectory_untold_iff :
    (∃ error, (convertDirectory tree root minified validate exclude).result = .error error ∧
        isTold error = false) ↔
      (∃ entries, tree.find root = .ok (.directory entries)) ∧
        HasBadPattern tree root exclude := by
  rw [← assemble_untold_iff minified, convertDirectory]
  cases assembled : (assemble tree root minified exclude).result with
  | error error => simp [Run.bind_of_error assembled]
  | ok scope =>
      rw [Run.bind_result_of_ok assembled]
      simp only [reduceCtorEq, false_and, exists_false, iff_false, not_exists, not_and,
        Bool.not_eq_false]
      exact emitScope_fails scope validate

end Conversions

/-! ## Conversion commands -/

namespace CommandLine

/-- What a command converts, where the source goes, and how it is converted. -/
structure Conversion where
  path : Path
  output : Option Path
  convert : FileTree → Run ConversionError String

namespace Session

variable {session : Session} {files : FileTree} {command : Command} {conversion : Conversion}

/-- The conversion that a command asks for. -/
def conversion? (session : Session) : Command → Option Conversion
  | .convertFile path options =>
      let settings := session.config.typed
      some ⟨path, options.output, fun files =>
        convertFile files path (settings.compile.minify && options.minify)
          settings.emit.checkSyntax⟩
  | .convertDirectory path options =>
      let settings := session.config.typed
      some ⟨path, options.output, fun files =>
        convertDirectory files path (settings.compile.minify && options.minify)
          settings.emit.checkSyntax settings.compile.exclude⟩
  | _ => none

theorem perform_of_conversion (asked : session.conversion? command = some conversion) :
    session.perform files command =
      session.convert files conversion.path conversion.output conversion.convert := by
  cases command <;> cases asked <;> rfl

/-- What a conversion gives on the files as the session has them. -/
def converted (session : Session) (files : FileTree) (conversion : Conversion) :
    Run ConversionError String :=
  conversion.convert (session.filesFor files conversion.convert)

/-- The files once the events of a conversion are recorded. -/
def recorded (session : Session) (files : FileTree) (conversion : Conversion) : FileTree :=
  session.recordAll files (session.converted files conversion).events

theorem convert_of_ok {source : String}
    (ok : (session.converted files conversion).result = .ok source) :
    session.convert files conversion.path conversion.output conversion.convert =
      session.deliver (session.recorded files conversion) conversion.output source := by
  rw [convert]
  simp only [converted] at ok
  simp only [ok, recorded, converted]

theorem convert_of_told {error : ConversionError}
    (failed : (session.converted files conversion).result = .error error)
    (told : error.isTold = true) :
    session.convert files conversion.path conversion.output conversion.convert =
      .ok (fail (session.recordFailure (session.recorded files conversion) conversion.path error)
        (.ofConversionError error)
        s!"Failed to convert {conversion.path}: {error.message}") := by
  rw [convert]
  simp only [converted] at failed
  simp only [failed, recorded, converted]
  split
  · cases ‹_ = _›
  · cases ‹_ = _›
    cases told
  · cases ‹_ = _›
    cases told
  · cases ‹_ = _›
    rfl

theorem convert_of_untold {error : ConversionError}
    (failed : (session.converted files conversion).result = .error error)
    (untold : error.isTold = false) :
    ∃ escape, session.convert files conversion.path conversion.output conversion.convert =
      .error escape := by
  rw [convert]
  simp only [converted] at failed
  simp only [failed]
  split
  · cases ‹_ = _›
  · exact ⟨_, rfl⟩
  · exact ⟨_, rfl⟩
  · rename_i other notPattern notNull same
    cases same
    unfold ConversionError.isTold at untold
    split at untold
    · exact absurd rfl (notPattern _)
    · exact absurd rfl (notNull _)
    · cases untold

/-- A source is shown, or it is not written, or it is. -/
theorem deliver_eq_ok {output : Option Path} {source : String} {outcome : Outcome}
    (delivered : session.deliver files output source = .ok outcome) :
    (output = none ∧ outcome = { code := successCode, out := source, files }) ∨
      ∃ path, output = some path ∧
        ((∃ kind message, outcome = fail files kind message) ∨
          ∃ after told, writeSource files path source = .ok after ∧
            outcome = { code := successCode, err := told, files := after }) := by
  unfold deliver at delivered
  split at delivered
  · cases delivered
    exact .inl ⟨rfl, rfl⟩
  · rename_i path
    refine .inr ⟨path, rfl, ?_⟩
    split at delivered
    · cases delivered
    · cases delivered
      exact .inl ⟨_, _, rfl⟩
    · rename_i after written
      cases delivered
      exact .inr ⟨after, _, written, rfl⟩

end Session

end CommandLine

end Stencil
