import Stencil.Proofs.Log.Rotation

/-!
What a journal that rotates keeps of its records: the last of them, one after the other and each as
a whole. A journal of one file that is called in the same way holds all, provided that the two have
the same level in force. They do not if the log has no level: the journal of one file then records
all, and the one that rotates from warnings on.
-/

namespace Stencil.Log

open Settings (bind_eq_ok mapError_eq_ok)
open FileTree (contentAt?_setAt_self)

namespace Journal

variable {journal : Journal} {tree : FileTree}

/-! ## Calls -/

/-- A call of a journal, at its time and with the values that are bound by then. -/
structure Call where
  time : String
  bound : Table := []
  level : Level
  event : String
  values : Table := []

/-- The journal as a call has it. -/
def Call.through (call : Call) (journal : Journal) : Journal :=
  { journal.bind call.bound with options := { journal.options with time := call.time } }

def perform (journal : Journal) (tree : FileTree) (call : Call) : FileTree :=
  (call.through journal).record tree call.level call.event call.values

/-- The line of a call that reaches the threshold. -/
def lineOf? (journal : Journal) (call : Call) : Option String :=
  if call.level.number < journal.threshold then none
  else
    let record : Record := ⟨call.level, call.event,
      overlay (overlay journal.bound call.bound) call.values⟩
    some (record.line journal.options.format call.time ++ "\n")

def linesOf (journal : Journal) (calls : List Call) : List String := calls.filterMap journal.lineOf?

theorem linesOf_cons (journal : Journal) (call : Call) (later : List Call) :
    journal.linesOf (call :: later) = (journal.lineOf? call).toList ++ journal.linesOf later := by
  rw [linesOf, List.filterMap_cons]
  cases journal.lineOf? call <;> rfl

/-- What is bound for a call and its time have no part in where the files of the journal are. -/
theorem holds_through {root : Entry} {segments : List (List String)} {call : Call} :
    (call.through journal).Holds root segments ↔ journal.Holds root segments := by
  have places (number : Nat) : (call.through journal).slot number = journal.slot number := by
    cases number <;> rfl
  constructor
  · intro holds
    exact ⟨fun number => places number ▸ holds.slots number, holds.unnumbered⟩
  · intro holds
    exact ⟨fun number => (places number).symm ▸ holds.slots number, holds.unnumbered⟩

theorem perform_eq (journal : Journal) (tree : FileTree) (call : Call) :
    journal.perform tree call =
      (journal.lineOf? call).elim tree ((call.through journal).writeLine tree) := by
  rw [perform, record, lineOf?, show (call.through journal).threshold = journal.threshold from rfl]
  split <;> rfl

/-- The files of a journal hold the last of the lines, in no more files than they may. -/
def HoldsEnd (journal : Journal) (backupCount : Nat) (root : Entry) (lines : List String) : Prop :=
  ∃ segments, journal.Holds root segments ∧ segments ≠ [] ∧ segments.length ≤ backupCount + 1 ∧
    IsEnd segments.reverse.flatten lines

section Runs

variable {rotation : Rotation} {lines : List String}

theorem HoldsEnd.perform (rotates : journal.options.rotation = some rotation)
    (fits : journal.Fits rotation)
    (holdsEnd : journal.HoldsEnd rotation.backupCount.toNat tree.root lines) (call : Call) :
    journal.HoldsEnd rotation.backupCount.toNat (journal.perform tree call).root
      (lines ++ (journal.lineOf? call).toList) := by
  rw [perform_eq]
  cases journal.lineOf? call with
  | none => simpa using holdsEnd
  | some line =>
      rcases holdsEnd with ⟨segments, holds, nonempty, bounded, isEnd⟩
      have stillRotates : (call.through journal).options.rotation = some rotation := rotates
      have stillFits : (call.through journal).Fits rotation := fits
      rcases (holds_through.mpr holds).writeLine stillRotates stillFits nonempty bounded line with
        ⟨grown, grows, written⟩
      exact ⟨grown, holds_through.mp written, grows.ne_nil, grows.length_le bounded,
        grows.isEnd isEnd⟩

/-- Whatever calls follow, the files hold the end of what was to be recorded. -/
theorem HoldsEnd.performAll (rotates : journal.options.rotation = some rotation)
    (fits : journal.Fits rotation)
    (holdsEnd : journal.HoldsEnd rotation.backupCount.toNat tree.root lines) (calls : List Call) :
    journal.HoldsEnd rotation.backupCount.toNat (calls.foldl journal.perform tree).root
      (lines ++ journal.linesOf calls) := by
  induction calls generalizing tree lines with
  | nil => simpa [linesOf] using holdsEnd
  | cons call later induction =>
      rw [linesOf_cons, ← List.append_assoc]
      exact induction (holdsEnd.perform rotates fits call)

end Runs

/-! ## Reading a run back -/

/-- The contents of the files of a journal, from the oldest backup to the file. -/
def collected (journal : Journal) (backupCount : Nat) (root : Entry) : Utf8.Bytes :=
  (List.range (backupCount + 1)).reverse.flatMap fun number =>
    (root.fileAt? (journal.slot number)).getD []

theorem flatMap_range_reverse {α β : Type} (read : α → List β) {segments : List α} {count : Nat}
    (bounded : segments.length ≤ count) :
    ((List.range count).reverse.flatMap fun number => (segments[number]?.map read).getD []) =
      segments.reverse.flatMap read := by
  induction segments generalizing count with
  | nil => simp
  | cons first later induction =>
      cases count with
      | zero => cases bounded
      | succ count =>
          have rest := induction (Nat.le_of_succ_le_succ bounded)
          rw [List.range_succ_eq_map, List.reverse_cons, List.flatMap_append, ← List.map_reverse,
            List.flatMap_map]
          simp only [List.getElem?_cons_succ, rest]
          simp

theorem Holds.collected {root : Entry} {segments : List (List String)} {backupCount : Nat}
    (holds : journal.Holds root segments) (bounded : segments.length ≤ backupCount + 1) :
    journal.collected backupCount root = bytesOf segments.reverse.flatten := by
  have files (number : Nat) :
      root.fileAt? (journal.slot number) = segments[number]?.map bytesOf := by
    rw [Entry.fileAt?, holds.slots]
    cases segments[number]? <;> rfl
  simp only [Journal.collected, files]
  rw [flatMap_range_reverse bytesOf bounded, bytesOf_flatten]

theorem Holds.backup_le {root : Entry} {segments : List (List String)} {backupCount number : Nat}
    (holds : journal.Holds root segments) (bounded : segments.length ≤ backupCount + 1)
    (there : root.contentAt? (journal.backupPlace number) ≠ none) :
    1 ≤ number ∧ number ≤ backupCount := by
  cases number with
  | zero => exact absurd holds.unnumbered there
  | succ number =>
      refine ⟨by omega, ?_⟩
      by_contra beyond
      apply there
      refine (holds.slots (number + 1)).trans ?_
      rw [List.getElem?_eq_none (by omega), Option.map_none]

/-! ## Journals that do not rotate -/

theorem contentAt?_perform (stays : journal.options.rotation = none) {lines : List String}
    (file : tree.root.contentAt? journal.place = some (.file (bytesOf lines))) (call : Call) :
    (journal.perform tree call).root.contentAt? journal.place =
      some (.file (bytesOf (lines ++ (journal.lineOf? call).toList))) := by
  rw [perform_eq]
  cases journal.lineOf? call with
  | none => simpa using file
  | some line =>
      have appended : (call.through journal).writeLine tree line =
          (call.through journal).append tree line := by
        rw [writeLine, show (call.through journal).options.rotation = none from stays]
      have contents := contentsAt_of_file file
      rw [Option.elim_some, appended, Journal.append,
        show (call.through journal).place = journal.place from rfl, contentAt?_setAt_self, contents]
      simp [Entry.content, bytesOf]

/-- A journal that does not rotate holds all that was to be recorded. -/
theorem contentAt?_performAll (stays : journal.options.rotation = none) {lines : List String}
    (file : tree.root.contentAt? journal.place = some (.file (bytesOf lines)))
    (calls : List Call) :
    (calls.foldl journal.perform tree).root.contentAt? journal.place =
      some (.file (bytesOf (lines ++ journal.linesOf calls))) := by
  induction calls generalizing tree lines with
  | nil => simpa [linesOf] using file
  | cons call later induction =>
      rw [linesOf_cons, ← List.append_assoc]
      exact induction (contentAt?_perform stays file call)

/-! ## Opening -/

/-- Nothing is read through a path to a place where nothing stands. -/
theorem readBytes_ne_ok {path : Path} {place : List String}
    (isPlace : FileTree.IsPlaceFor tree path place)
    (vacant : tree.root.contentAt? place = none) (bytes : Utf8.Bytes) :
    tree.readBytes path ≠ .ok bytes := by
  intro read
  rw [FileTree.readBytes] at read
  split at read
  · cases read
  · cases read
  · rename_i old found
    rcases FileTree.find_eq_ok_iff.mp found with ⟨reached, located, standing⟩
    have file : tree.root.contentAt? reached = some (.file old) :=
      Entry.contentAt?_eq_file_iff.mpr standing
    have different : reached ≠ place := by
      rintro rfl
      rw [file] at vacant
      cases vacant
    -- A file that is made at the place would be where the path leads to, and so is the one read.
    have keeps := FileTree.keepsDirectories_setAt isPlace []
    have still := FileTree.contentAt?_setAt_place isPlace [] different
    have leads := isPlace.leads _ keeps (by rw [contentAt?_setAt_self]; rfl)
    rw [keeps.locate located (by rw [still, file]; rfl)] at leads
    exact different (Except.ok.inj leads)

/-- Where there was no file, a journal begins an empty one. -/
theorem openAt_empty {path : Path} {options : Options} {after : FileTree}
    (opened : openAt tree path options = .ok (after, journal))
    (missing : tree.root.contentAt? journal.place = none) :
    after.root.contentAt? journal.place = some (.file []) := by
  rcases exists_opening opened with ⟨middle, bytes, opening⟩
  have empty : bytes = [] := by
    rcases opening.contents with none | read
    · exact none
    · have noFile : middle.root.fileAt? journal.place = tree.root.fileAt? journal.place :=
        opening.makes.adds.fileAt?
      have vacant : middle.root.contentAt? journal.place = none := by
        rcases opening.isPlace.vacant with none | ⟨old, _, file⟩
        · exact none
        · rw [Entry.fileAt?, file, Entry.fileAt?, missing] at noFile
          cases noFile
      exact absurd read (readBytes_ne_ok opening.isPlace vacant bytes)
  rw [opening.written, contentAt?_setAt_self, empty]
  rfl

end Journal

namespace CommandLog

variable {log : CommandLog} {tree after : FileTree} {environment : Settings.Environment}
  {time : String} {journal : Journal}

/-- The values that a log binds to all its records. -/
def values (log : CommandLog) : Table :=
  if log.command == "" then [] else [("command", .text log.command)]

theorem open_eq_some (opens : log.open tree environment time = .ok (after, some journal)) :
    ∃ plain, Journal.openAt tree (Path.ofString log.file)
        ⟨thresholdFor environment log.level, log.format, log.rotation, time⟩ = .ok (after, plain) ∧
      journal = { plain with bound := overlay [] log.values } := by
  rw [CommandLog.open] at opens
  split at opens
  · cases opens
  · rcases bind_eq_ok.mp opens with ⟨⟨written, plain⟩, started, same⟩
    cases same
    rcases Journal.exists_opening started with ⟨_, _, opening⟩
    refine ⟨plain, started, ?_⟩
    have unbound : plain.bound = [] := congrArg Journal.bound opening.plain
    rw [values]
    split
    · rw [show overlay [] [] = plain.bound from unbound.symm]
    · rw [Journal.bind, unbound]

/-- A journal has the options and the values that its log asks for. -/
theorem options_of_open (opens : log.open tree environment time = .ok (after, some journal)) :
    journal.options =
        ⟨thresholdFor environment log.level, log.format, log.rotation, time⟩ ∧
      journal.bound = overlay [] log.values := by
  rcases open_eq_some opens with ⟨plain, started, rfl⟩
  rcases Journal.exists_opening started with ⟨_, _, opening⟩
  exact ⟨congrArg Journal.options opening.plain, rfl⟩

theorem file_of_open (opens : log.open tree environment time = .ok (after, some journal))
    (missing : tree.root.contentAt? journal.place = none) :
    after.root.contentAt? journal.place = some (.file []) := by
  rcases open_eq_some opens with ⟨plain, started, rfl⟩
  have empty : after.root.contentAt? plain.place = some (.file []) :=
    Journal.openAt_empty started missing
  exact empty

/-- A log that opens where nothing was begins with an empty file and nothing else. -/
theorem holds_of_open (opens : log.open tree environment time = .ok (after, some journal))
    (missing : ∀ place, journal.IsSlot place → tree.root.contentAt? place = none)
    (flat : journal.IsFlat after.root) : journal.Holds after.root [[]] := by
  have others (number : Nat) : after.root.contentAt? (journal.backupPlace number) = none := by
    have isSlot := Journal.isSlot_backupPlace journal number
    have noDirectory := flat _ isSlot
    have noFile := (open_eq_ok opens).2.2 (journal.backupPlace number) (by
      intro kept isKept
      cases isKept
      exact (Journal.place_ne_backupPlace journal number).symm)
    rw [Entry.fileAt?, Entry.fileAt?, missing _ isSlot] at noFile
    cases found : after.root.contentAt? (journal.backupPlace number) with
    | none => rfl
    | some content =>
        rw [found] at noFile noDirectory
        cases content with
        | directory => exact absurd rfl noDirectory
        | file bytes => cases noFile
  refine ⟨fun number => ?_, others 0⟩
  cases number with
  | zero => exact file_of_open opens (missing _ (.inl rfl))
  | succ number => exact others (number + 1)

/-- The log with old files kept. -/
def rotatingBy (log : CommandLog) (rotation : Rotation) : CommandLog :=
  { log with maxBytes := some rotation.maxBytes, backupCount := some rotation.backupCount }

/-- The log in one file. -/
def inOneFile (log : CommandLog) : CommandLog := { log with maxBytes := none, backupCount := none }

/-- The level of a log that rotates, which is that of warnings if it has none. -/
def levelInForce (environment : Settings.Environment) (level : String) : String :=
  if thresholdFor environment level = 0 then Level.warning.name else level

def withLevelInForce (log : CommandLog) (environment : Settings.Environment) : CommandLog :=
  { log with level := levelInForce environment log.level }

theorem thresholdFor_levelInForce (environment : Settings.Environment) (level : String) :
    thresholdFor environment (levelInForce environment level) =
      if thresholdFor environment level = 0 then Level.warning.number
      else thresholdFor environment level := by
  rw [levelInForce]
  split
  · rename_i none
    rw [thresholdFor] at none ⊢
    split at none
    · cases none
    · rename_i silent
      rw [if_neg silent]
      rfl
  · rfl

variable {rotation : Rotation} {rotating plain : Journal} {rotated appended : FileTree}

/-- With the level in force, the journal of one file records what the one that rotates does. -/
theorem linesOf_inOneFile
    (opens : (log.rotatingBy rotation).open tree environment time = .ok (rotated, some rotating))
    (opensPlain : ((log.withLevelInForce environment).inOneFile).open tree environment time =
      .ok (appended, some plain)) (calls : List Journal.Call) :
    rotating.linesOf calls = plain.linesOf calls := by
  rcases options_of_open opens with ⟨options, bound⟩
  rcases options_of_open opensPlain with ⟨plainOptions, plainBound⟩
  have sameBound : rotating.bound = plain.bound := bound.trans plainBound.symm
  have sameFormat : rotating.options.format = plain.options.format := by
    rw [options, plainOptions]
    rfl
  have inForce : rotating.threshold =
      thresholdFor environment (levelInForce environment log.level) := by
    rw [thresholdFor_levelInForce, Journal.threshold, options]
    by_cases none : thresholdFor environment log.level = 0
    · simp [rotatingBy, CommandLog.rotation, none]
    · simp [rotatingBy, none]
  have plainThreshold : plain.threshold =
      thresholdFor environment (levelInForce environment log.level) := by
    rw [Journal.threshold, plainOptions]
    rfl
  rw [Journal.linesOf, Journal.linesOf]
  congr 1
  funext call
  rw [Journal.lineOf?, Journal.lineOf?, inForce, plainThreshold, sameBound, sameFormat]

/-- A journal that rotates keeps the end of what the one in a single file would hold, and always the
newest record, as long as its old files can bear their numbers and none of its files was there
before. The level is that in force: without a level the journal in a single file records all, and
the one that rotates from warnings on. -/
theorem rotation_keepsEnd
    (opens : (log.rotatingBy rotation).open tree environment time = .ok (rotated, some rotating))
    (opensPlain : ((log.withLevelInForce environment).inOneFile).open tree environment time =
      .ok (appended, some plain))
    (fits : rotating.Fits rotation)
    (missing : ∀ place, rotating.IsSlot place → tree.root.contentAt? place = none)
    (missingPlain : tree.root.contentAt? plain.place = none)
    (flat : rotating.IsFlat rotated.root) (calls : List Journal.Call) :
    (thresholdFor environment log.level ≠ 0 → log.withLevelInForce environment = log) ∧
      (calls.foldl plain.perform appended).root.fileAt? plain.place =
        some (Journal.bytesOf (plain.linesOf calls)) ∧
      (∃ kept, Journal.IsEnd kept (plain.linesOf calls) ∧
        rotating.collected rotation.backupCount.toNat (calls.foldl rotating.perform rotated).root =
          Journal.bytesOf kept) ∧
      ∀ number, (calls.foldl rotating.perform rotated).root.contentAt?
          (rotating.backupPlace number) ≠ none →
        1 ≤ number ∧ number ≤ rotation.backupCount.toNat := by
  have rotates : rotating.options.rotation = some rotation := by
    rw [(options_of_open opens).1]
    rfl
  have stays : plain.options.rotation = none := by
    rw [(options_of_open opensPlain).1]
    rfl
  have plainFile : appended.root.contentAt? plain.place = some (.file (Journal.bytesOf [])) :=
    file_of_open opensPlain missingPlain
  have fresh : rotating.HoldsEnd rotation.backupCount.toNat rotated.root [] :=
    ⟨[[]], holds_of_open opens missing flat, List.cons_ne_nil _ _, by simp,
      List.suffix_refl _, fun _ => rfl⟩
  rcases fresh.performAll rotates fits calls with ⟨segments, holds, _, bounded, isEnd⟩
  refine ⟨?_, ?_, ⟨segments.reverse.flatten, ?_, holds.collected bounded⟩, ?_⟩
  · intro some
    rw [withLevelInForce, levelInForce, if_neg some]
  · have whole := Journal.contentAt?_performAll stays plainFile calls
    rw [Entry.fileAt?, whole]
    rfl
  · rwa [← linesOf_inOneFile opens opensPlain]
  · intro number there
    exact holds.backup_le bounded there

/-! ## Two logs -/

def emptyTree : FileTree := ⟨.directory [], []⟩

/-- The tree with the journal opened in it. -/
def openedTree : FileTree := ⟨.directory [("l", .file [])], []⟩

/-- A log in the file `l`. -/
def shortLog (level : String) : CommandLog := { level, file := "l" }

/-- Two of the lines below are longer than a file may be, and one backup is kept. -/
def narrow : Rotation := ⟨100, 1⟩

def shortJournal (threshold : Nat) (rotation : Option Rotation) : Journal :=
  ⟨[], "l", ⟨threshold, .json, rotation, "T"⟩, []⟩

def callsOf (events : List (Level × String)) : List Journal.Call :=
  events.map fun (level, event) => { time := "T", level, event }

theorem missing_emptyTree {journal : Journal} (place : List String)
    (isSlot : journal.IsSlot place) : emptyTree.root.contentAt? place = none := by
  rcases isSlot.exists_name with ⟨name, rfl⟩
  cases journal.directory <;> rfl

theorem isFlat_openedTree (threshold : Nat) (rotation : Option Rotation) :
    (shortJournal threshold rotation).IsFlat openedTree.root := by
  intro place isSlot
  rcases isSlot.exists_name with ⟨name, rfl⟩
  intro directory
  rcases Entry.contentAt?_eq_directory_iff.mp directory with ⟨entries, found⟩
  simp [shortJournal, openedTree, Entry.descend?, Entry.child?, Entry.entries] at found

def mixedCalls : List Journal.Call :=
  callsOf [(.info, "one"), (.debug, "two"), (.error, "three"), (.info, "four")]

/-- A record below the level is left out, and each of the others begins a file, so that the third
drops the first. -/
theorem rotation_keepsEnd_narrow :
    ((shortLog "info").rotatingBy narrow).open emptyTree [] "T" =
        .ok (openedTree, some (shortJournal 20 (some narrow))) ∧
      (((shortLog "info").withLevelInForce []).inOneFile).open emptyTree [] "T" =
        .ok (openedTree, some (shortJournal 20 none)) ∧
      (shortJournal 20 (some narrow)).Fits narrow ∧
      (∃ kept, Journal.IsEnd kept ((shortJournal 20 none).linesOf mixedCalls) ∧
        (shortJournal 20 (some narrow)).collected 1
            (mixedCalls.foldl (shortJournal 20 (some narrow)).perform openedTree).root =
          Journal.bytesOf kept) ∧
      (shortJournal 20 (some narrow)).collected 1
          (mixedCalls.foldl (shortJournal 20 (some narrow)).perform openedTree).root =
        Journal.bytesOf (((shortJournal 20 none).linesOf mixedCalls).drop 1) := by
  have opens : ((shortLog "info").rotatingBy narrow).open emptyTree [] "T" =
      .ok (openedTree, some (shortJournal 20 (some narrow))) := by
    rfl
  have opensPlain : (((shortLog "info").withLevelInForce []).inOneFile).open emptyTree [] "T" =
      .ok (openedTree, some (shortJournal 20 none)) := by
    rfl
  have fits : (shortJournal 20 (some narrow)).Fits narrow := by
    intro number bounded
    match number, bounded with
    | 0, _ => decide
    | 1, _ => decide
  rcases rotation_keepsEnd opens opensPlain fits missing_emptyTree
    (missing_emptyTree _ (.inl rfl)) (isFlat_openedTree 20 (some narrow)) mixedCalls with
    ⟨_, _, keeps, _⟩
  exact ⟨opens, opensPlain, fits, keeps, by decide +kernel⟩

def twoCalls : List Journal.Call := callsOf [(.warning, "full"), (.info, "done")]

/-- Room for many records. -/
def wide : Rotation := ⟨1000, 1⟩

/-- Without a level a journal in one file holds the last record, and one that rotates does not. -/
theorem rotation_withoutLevel :
    ((shortLog "notset").rotatingBy wide).open emptyTree [] "T" =
        .ok (openedTree, some (shortJournal 0 (some wide))) ∧
      (shortLog "notset").inOneFile.open emptyTree [] "T" =
        .ok (openedTree, some (shortJournal 0 none)) ∧
      (∀ place, (shortJournal 0 (some wide)).IsSlot place →
        emptyTree.root.contentAt? place = none) ∧
      ¬ (shortJournal 0 (some wide)).collected 1
          (twoCalls.foldl (shortJournal 0 (some wide)).perform openedTree).root <:+
        ((twoCalls.foldl (shortJournal 0 none).perform openedTree).root.fileAt?
          (shortJournal 0 none).place).getD [] := by
  refine ⟨?_, ?_, missing_emptyTree, by decide +kernel⟩
  · rfl
  · rfl

end CommandLog

end Stencil.Log
