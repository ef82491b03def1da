import Stencil.Proofs.Ignore.Repetition
import Stencil.Proofs.Text.Blank

/-!
Ignore files read as they are written, and read with the blanks around their lines taken off first.
The two readings come to the same but for lines that are altered: those that begin with a blank that
counts, or end in an escaped space. An altered line spoils the file where it cannot be read in one
reading only, or has the last word in one reading while the other decides the opposite.
-/

namespace Stencil.Ignore

/-! ## Decisions -/

/-- What the patterns of these lines decide on a path, if all of them can be read. -/
def decision? (lines : List String) (path : String) : Option Bool :=
  (readAll lines).toOption.map (ignored · path)

def IsReadable (line : String) : Prop := ∃ pattern, Pattern.read line = .ok pattern

/-- Two lines stand for the same pattern, or neither can be read. -/
def ReadsAs (line other : String) : Prop :=
  (Pattern.read line).toOption = (Pattern.read other).toOption

section Lines

variable {lines : List String} {line other path : String}

theorem isReadable_iff : IsReadable line ↔ (Pattern.read line).toOption.isSome = true := by
  rw [IsReadable]
  cases Pattern.read line <;> simp [Except.toOption]

theorem lineVerdict?_eq : lineVerdict? path line =
    (Pattern.read line).toOption.bind (·.verdict? (relativePath path.toList)) := by
  rw [lineVerdict?]
  cases Pattern.read line <;> rfl

theorem ReadsAs.isReadable_iff (same : ReadsAs line other) : IsReadable line ↔ IsReadable other := by
  rw [Ignore.isReadable_iff, Ignore.isReadable_iff, same]

theorem ReadsAs.lineVerdict? (same : ReadsAs line other) (path : String) :
    Ignore.lineVerdict? path line = Ignore.lineVerdict? path other := by
  rw [lineVerdict?_eq, lineVerdict?_eq, same]

theorem decision?_of_readable (readable : ∀ line ∈ lines, IsReadable line) (path : String) :
    decision? lines path = some ((lastVerdict? (lineVerdict? path) lines).getD false) := by
  rcases (exists_readAll_iff lines).mpr readable with ⟨patterns, read⟩
  rw [decision?, read, ← ignored_of_readAll read]
  rfl

theorem decision?_of_not_readable (unreadable : ¬∀ line ∈ lines, IsReadable line) (path : String) :
    decision? lines path = none := by
  rw [decision?]
  cases read : readAll lines with
  | error error => rfl
  | ok patterns => exact absurd ((exists_readAll_iff lines).mp ⟨patterns, read⟩) unreadable

end Lines

/-! ## Last words -/

section LastVerdict

variable {verdict? first second : String → Option Bool} {lines : List String}

theorem lastVerdict?_map (verdict? : String → Option Bool) (change : String → String)
    (lines : List String) :
    lastVerdict? verdict? (lines.map change) = lastVerdict? (verdict? ∘ change) lines := by
  rw [lastVerdict?, lastVerdict?, ← List.map_reverse, List.findSome?_map]

/-- The line that decides is the last one to say something. -/
theorem lastVerdict?_eq_some_iff {verdict : Bool} :
    lastVerdict? verdict? lines = some verdict ↔
      ∃ earlier line later, lines = earlier ++ line :: later ∧ verdict? line = some verdict ∧
        ∀ other ∈ later, verdict? other = none := by
  rw [lastVerdict?, List.findSome?_eq_some_iff]
  constructor
  · intro found
    rcases found with ⟨later, line, earlier, reversed, speaks, silent⟩
    refine ⟨earlier.reverse, line, later.reverse, ?_, speaks, by simpa using silent⟩
    rw [← List.reverse_reverse lines, reversed]
    simp
  · intro found
    rcases found with ⟨earlier, line, later, rfl, speaks, silent⟩
    exact ⟨later.reverse, line, earlier.reverse, by simp, speaks, by simpa using silent⟩

/-- One of two readings decides, and the other decides the opposite. Then a line that the readings
take in different ways has the last word in one of them. -/
theorem exists_last_word {altered : String → Prop} {verdict : Bool}
    (same : ∀ line ∈ lines, ¬altered line → first line = second line)
    (decides : lastVerdict? first lines = some verdict)
    (opposite : (lastVerdict? second lines).getD false = !verdict) :
    ∃ earlier line later, lines = earlier ++ line :: later ∧ altered line ∧
      ((first line = some verdict ∧ ∀ other ∈ later, first other = none) ∨
        (second line = some !verdict ∧ ∀ other ∈ later, second other = none)) := by
  rcases lastVerdict?_eq_some_iff.mp decides with ⟨earlier, line, later, rfl, speaks, silent⟩
  by_cases isAltered : altered line
  · exact ⟨earlier, line, later, rfl, isAltered, .inl ⟨speaks, silent⟩⟩
  · -- The second reading takes this line in the same way, so a later one overrules it there.
    have speaksToo : second line = some verdict := (same line (by simp) isAltered).symm.trans speaks
    have overruled : lastVerdict? second later = some !verdict := by
      rw [List.append_cons, lastVerdict?_append, lastVerdict?_append, lastVerdict?_singleton,
        speaksToo] at opposite
      cases found : lastVerdict? second later with
      | none => simp [found] at opposite
      | some other => simpa [found] using opposite
    rcases lastVerdict?_eq_some_iff.mp overruled with
      ⟨between, overruling, rest, rfl, speaksAgainst, silentBehind⟩
    refine ⟨earlier ++ line :: between, overruling, rest, by simp, ?_,
      .inr ⟨speaksAgainst, silentBehind⟩⟩
    by_contra unaltered
    have quiet := silent overruling (by simp)
    rw [same overruling (by simp) unaltered, speaksAgainst] at quiet
    cases quiet

end LastVerdict

/-! ## Two readings -/

/-- Lines that are changed in two ways before they are read, and an altered one among them. With the
first change the altered line cannot be read, though with the second all can; or it has the last
word on the path with the first change, while with the second the opposite is decided. -/
inductive IsSpoiled (altered : String → Prop) (first second : String → String) (path : String)
    (lines : List String) : Prop
  | unreadable {line : String} (member : line ∈ lines) (isAltered : altered line)
      (unreadable : ¬IsReadable (first line)) (readable : ∀ other ∈ lines, IsReadable (second other))
  | opposite {earlier later : List String} {line : String} {verdict : Bool}
      (split : lines = earlier ++ line :: later) (isAltered : altered line)
      (speaks : lineVerdict? path (first line) = some verdict)
      (silent : ∀ other ∈ later, lineVerdict? path (first other) = none)
      (decides : decision? (lines.map second) path = some !verdict)
      (readable : ∀ other ∈ lines, IsReadable (first other))

section Readings

variable {altered : String → Prop} {first second : String → String} {lines : List String}
  {path : String}

theorem decision?_map (readable : ∀ line ∈ lines, IsReadable (first line)) (path : String) :
    decision? (lines.map first) path =
      some ((lastVerdict? (lineVerdict? path ∘ first) lines).getD false) := by
  rw [decision?_of_readable (List.forall_mem_map.mpr readable), lastVerdict?_map]

theorem decision?_map_ne_of_isSpoiled (spoiled : IsSpoiled altered first second path lines) :
    decision? (lines.map first) path ≠ decision? (lines.map second) path := by
  cases spoiled with
  | unreadable member _ unreadable readable =>
      have refused : ¬∀ line ∈ lines.map first, IsReadable line :=
        fun all => unreadable (all _ (List.mem_map_of_mem member))
      rw [decision?_of_not_readable refused, decision?_map readable]
      exact nofun
  | @opposite earlier later line verdict split _ speaks silent decides readable =>
      have decided : lastVerdict? (lineVerdict? path ∘ first) lines = some verdict :=
        lastVerdict?_eq_some_iff.mpr ⟨earlier, line, later, split, speaks, silent⟩
      rw [decides, decision?_map readable, decided]
      cases verdict <;> simp

/-- Of two readings that decide the opposite, one is spoiled by a line that is altered. -/
theorem isSpoiled_of_decides (same : ∀ line ∈ lines, ¬altered line → ReadsAs (first line) (second line))
    (firstReadable : ∀ line ∈ lines, IsReadable (first line))
    (secondReadable : ∀ line ∈ lines, IsReadable (second line)) {verdict : Bool}
    (decides : lastVerdict? (lineVerdict? path ∘ first) lines = some verdict)
    (opposite : (lastVerdict? (lineVerdict? path ∘ second) lines).getD false = !verdict) :
    IsSpoiled altered first second path lines ∨ IsSpoiled altered second first path lines := by
  have sameVerdict : ∀ line ∈ lines, ¬altered line →
      (lineVerdict? path ∘ first) line = (lineVerdict? path ∘ second) line :=
    fun line member unaltered => (same line member unaltered).lineVerdict? path
  rcases exists_last_word sameVerdict decides opposite with
    ⟨earlier, line, later, split, isAltered, ⟨speaks, silent⟩ | ⟨speaks, silent⟩⟩
  · left
    refine .opposite split isAltered speaks silent ?_ firstReadable
    rw [decision?_map secondReadable, opposite]
  · right
    refine .opposite split isAltered speaks silent ?_ secondReadable
    rw [decision?_map firstReadable, decides, Option.getD_some, Bool.not_not]

/-- A line that makes only one of two readings impossible is altered. -/
theorem isSpoiled_of_not_readable
    (same : ∀ line ∈ lines, ¬altered line → ReadsAs (first line) (second line))
    (unreadable : ¬∀ line ∈ lines, IsReadable (first line))
    (readable : ∀ line ∈ lines, IsReadable (second line)) :
    IsSpoiled altered first second path lines := by
  simp only [not_forall] at unreadable
  rcases unreadable with ⟨line, member, unreadable⟩
  refine .unreadable member ?_ unreadable readable
  by_contra unaltered
  exact unreadable ((same line member unaltered).isReadable_iff.mpr (readable line member))

/-- Two readings of lines decide the same just if no line that they take in different ways spoils
it. -/
theorem decision?_map_eq_iff
    (same : ∀ line ∈ lines, ¬altered line → ReadsAs (first line) (second line)) :
    decision? (lines.map first) path = decision? (lines.map second) path ↔
      ¬(IsSpoiled altered first second path lines ∨ IsSpoiled altered second first path lines) := by
  have sameBack : ∀ line ∈ lines, ¬altered line → ReadsAs (second line) (first line) :=
    fun line member unaltered => (same line member unaltered).symm
  constructor
  · intro equal spoiled
    cases spoiled with
    | inl spoiled => exact decision?_map_ne_of_isSpoiled spoiled equal
    | inr spoiled => exact decision?_map_ne_of_isSpoiled spoiled equal.symm
  · intro unspoiled
    by_cases firstReadable : ∀ line ∈ lines, IsReadable (first line)
    · by_cases secondReadable : ∀ line ∈ lines, IsReadable (second line)
      · rw [decision?_map firstReadable, decision?_map secondReadable]
        by_contra different
        apply unspoiled
        cases decided : lastVerdict? (lineVerdict? path ∘ first) lines with
        | some verdict =>
            apply isSpoiled_of_decides same firstReadable secondReadable decided
            rw [decided, Option.getD_some] at different
            exact Bool.eq_not.mpr fun equal => different (congrArg some equal.symm)
        | none =>
            cases decidedToo : lastVerdict? (lineVerdict? path ∘ second) lines with
            | none => simp [decided, decidedToo] at different
            | some verdict =>
                apply Or.symm
                apply isSpoiled_of_decides sameBack secondReadable firstReadable decidedToo
                simpa [decided, decidedToo] using different
      · exact absurd (.inr (isSpoiled_of_not_readable sameBack secondReadable firstReadable))
          unspoiled
    · by_cases secondReadable : ∀ line ∈ lines, IsReadable (second line)
      · exact absurd (.inl (isSpoiled_of_not_readable same firstReadable secondReadable)) unspoiled
      · rw [decision?_of_not_readable (mt List.forall_mem_map.mp firstReadable),
          decision?_of_not_readable (mt List.forall_mem_map.mp secondReadable)]

end Readings

/-! ## Lines and their blanks -/

/-- A line without the blanks around it. -/
def trimLine (line : String) : String := .ofList (trim line.toList)

/-- A matcher may take blanks off the front of a line, all or some of them, or leave them there. -/
def TrimsFront (opening : String → String) : Prop :=
  ∀ line, ∃ blanks : List Char, (∀ c ∈ blanks, Character.isBlank c = true) ∧
    line.toList = blanks ++ (opening line).toList

/-- The text ends in a space behind a backslash, which counts. -/
def EndsEscaped (text : List Char) : Prop := text.reverse.take 2 = [' ', '\\']

/-- A line whose blanks count for the matcher: one that is neither blank nor a comment, and begins
with a blank that the matcher leaves there or ends in an escaped space. -/
structure IsAltered (opening : String → String) (line : String) : Prop where
  notBlank : trim line.toList ≠ []
  noComment : (opening line).toList.head? ≠ some '#'
  blanks : (opening line).toList.head?.any Character.isBlank = true ∨
    EndsEscaped (opening line).toList

section Blanks

variable {text : List Char} {line other : String}

theorem read_of_noPattern (noPattern : stripEnd line.toList = [] ∨
    (stripEnd line.toList).head? = some '#') : Pattern.read line = .ok ⟨true, .nothing⟩ := by
  rw [Pattern.read]
  cases noPattern with
  | inl empty => simp [empty]
  | inr comment => simp [comment]

/-- Apart from the words of an error, only what is left after the end is stripped counts. -/
theorem readsAs_of_stripEnd (same : stripEnd line.toList = stripEnd other.toList) :
    ReadsAs line other := by
  simp only [ReadsAs, Pattern.read, same]
  generalize splitAt '/' _ = segments
  split
  · rfl
  · by_cases empty : (anchor segments).isEmpty = true
    · rw [if_pos empty, if_pos empty]
      rfl
    · rw [if_neg empty, if_neg empty]
      split <;> rfl

theorem stripEnd_trim (text : List Char) : stripEnd (trim text) = trim text := by
  rw [stripEnd]
  split
  · rfl
  · exact trimEnd_of_last (getLast?_trimEnd (trimStart text))

/-- Only blanks at the end are trimmed, so what stands in front stays there. -/
theorem head?_trimEnd (start : text.head?.any Character.isBlank = false) :
    (trimEnd text).head? = text.head? := by
  rcases exists_trimEnd_append_blanks text with ⟨blanks, allBlank, whole⟩
  cases kept : trimEnd text with
  | cons c rest =>
      rw [kept] at whole
      rw [whole]
      rfl
  | nil =>
      rw [kept, List.nil_append] at whole
      cases blanks with
      | nil => rw [whole]
      | cons c blanks => simp [whole, allBlank c List.mem_cons_self] at start

theorem head?_stripEnd (start : text.head?.any Character.isBlank = false) :
    (stripEnd text).head? = text.head? := by
  rw [stripEnd]
  split
  · rfl
  · exact head?_trimEnd start

/-- Nothing is left of a text of blanks, for an escaped space has a backslash before it. -/
theorem stripEnd_of_blank (blank : trim text = []) : stripEnd text = [] := by
  have allBlank : ∀ c ∈ text, Character.isBlank c = true := by
    have kept := filter_trim text
    rw [blank, List.filter_nil, eq_comm, List.filter_eq_nil_iff] at kept
    intro c member
    simpa using kept c member
  have stripped : trimEnd text = [] := by
    have taken := trimEnd_append allBlank []
    rwa [List.nil_append] at taken
  rw [stripEnd, stripped]
  split
  · rename_i escaped
    have backslash : '\\' ∈ text.reverse.take 2 := by simp [eq_of_beq escaped]
    have member : '\\' ∈ text := List.mem_reverse.mp (List.mem_of_mem_take backslash)
    exact absurd (allBlank _ member) (by decide)
  · rfl

theorem head?_trim (text : List Char) : (trim text).head?.any Character.isBlank = false := by
  rw [trim, head?_trimEnd (head?_trimStart text)]
  exact head?_trimStart text

section Front

variable {opening : String → String} (front : TrimsFront opening)

include front

/-- A text that does not begin with a blank is left as it is. -/
theorem opening_of_start (start : line.toList.head?.any Character.isBlank = false) :
    opening line = line := by
  rcases front line with ⟨blanks, allBlank, whole⟩
  cases blanks with
  | nil => exact String.toList_injective whole.symm
  | cons c blanks => simp [whole, allBlank c List.mem_cons_self] at start

theorem trimStart_opening (line : String) :
    trimStart (opening line).toList = trimStart line.toList := by
  rcases front line with ⟨blanks, allBlank, whole⟩
  rw [whole, trimStart_append allBlank]

theorem opening_map_linePatterns (text : String) :
    (linePatterns text).map opening = linePatterns text := by
  rw [List.map_congr_left, List.map_id']
  intro line member
  rcases List.mem_map.mp (List.mem_of_mem_filter member) with ⟨whole, _, rfl⟩
  apply opening_of_start front
  rw [String.toList_ofList]
  exact head?_trim whole.toList

/-- A line that is not altered stands for the same pattern with and without its blanks. -/
theorem readsAs_of_not_isAltered (unaltered : ¬IsAltered opening line) :
    ReadsAs (trimLine line) (opening line) := by
  have same : trim (opening line).toList = trim line.toList := by
    rw [trim, trimStart_opening front, trim]
  by_cases blank : trim line.toList = []
  · apply readsAs_of_stripEnd
    rw [trimLine, blank, stripEnd_of_blank (same.trans blank)]
    rfl
  by_cases first : (opening line).toList.head?.any Character.isBlank = true
  · -- Such a blank makes a line altered, unless it is blank as a whole.
    refine absurd ⟨blank, fun comment => ?_, .inl first⟩ unaltered
    rw [comment] at first
    cases first
  have start : (opening line).toList.head?.any Character.isBlank = false :=
    eq_false_of_ne_true first
  have trimmed : trim line.toList = trimEnd (opening line).toList := by
    rw [← same, trim, trimStart_of_head start]
  by_cases comment : (opening line).toList.head? = some '#'
  · have comments : (stripEnd (trimLine line).toList).head? = some '#' := by
      rw [trimLine, String.toList_ofList, stripEnd_trim, trimmed, head?_trimEnd start, comment]
    rw [ReadsAs, read_of_noPattern (.inr comments), read_of_noPattern]
    rw [head?_stripEnd start]
    exact .inr comment
  · have noEscape : ¬EndsEscaped (opening line).toList :=
      fun escaped => unaltered ⟨blank, comment, .inr escaped⟩
    apply readsAs_of_stripEnd
    rw [trimLine, String.toList_ofList, stripEnd_trim, trimmed, stripEnd, if_neg]
    simpa [EndsEscaped] using noEscape

end Front

end Blanks

/-! ## Ignore files -/

/-- Lines that stand for no pattern may be dropped. -/
theorem decision?_filter {isPattern : String → Bool} {lines : List String}
    (others : ∀ line ∈ lines, isPattern line = false → Pattern.read line = .ok ⟨true, .nothing⟩)
    (path : String) : decision? (lines.filter isPattern) path = decision? lines path := by
  have verdicts : lastVerdict? (lineVerdict? path) (lines.filter isPattern) =
      lastVerdict? (lineVerdict? path) lines := by
    induction lines with
    | nil => rfl
    | cons line lines induction =>
        have later := induction fun other member => others other (List.mem_cons_of_mem line member)
        rw [← List.singleton_append, List.filter_append, lastVerdict?_append, lastVerdict?_append,
          later, lastVerdict?_singleton]
        cases kept : isPattern line with
        | true => simp [kept, lastVerdict?_singleton]
        | false =>
            have silent : lineVerdict? path line = none := by
              rw [lineVerdict?, others line List.mem_cons_self kept]
              rfl
            simp [kept, silent, lastVerdict?]
  have readable : (∀ line ∈ lines.filter isPattern, IsReadable line) ↔
      ∀ line ∈ lines, IsReadable line := by
    constructor
    · intro keptReadable line member
      cases kept : isPattern line with
      | true => exact keptReadable line (List.mem_filter.mpr ⟨member, kept⟩)
      | false => exact ⟨_, others line member kept⟩
    · intro allReadable line member
      exact allReadable line (List.mem_of_mem_filter member)
  by_cases allReadable : ∀ line ∈ lines, IsReadable line
  · rw [decision?_of_readable allReadable, decision?_of_readable (readable.mpr allReadable),
      verdicts]
  · rw [decision?_of_not_readable allReadable, decision?_of_not_readable (mt readable.mp allReadable)]

theorem decision?_linePatterns (text path : String) :
    decision? (linePatterns text) path = decision? ((lines text).map trimLine) path := by
  apply decision?_filter
  intro line member dropped
  rcases List.mem_map.mp member with ⟨whole, _, rfl⟩
  apply read_of_noPattern
  rw [String.toList_ofList, stripEnd_trim]
  simpa [Decidable.or_iff_not_imp_left] using dropped

theorem readPatterns_of_readText {tree : FileTree} {file : Path} {text : String}
    (read : tree.readText file = .ok text) :
    readPatterns tree file = .ok (linePatterns text) := by
  have leads : tree.leadsTo (!·.isDirectory) file = .ok true := by
    rw [FileTree.readText, FileTree.readBytes] at read
    rw [FileTree.leadsTo]
    cases found : tree.find file with
    | error fault => simp [found] at read
    | ok entry =>
        cases entry with
        | file bytes => rfl
        | directory entries => simp [found] at read
  rw [readPatterns, leads]
  simp only [read, Except.map]

/-- An ignore file is read as its lines without blanks around them and without comments. For every
way in which the matcher treats blanks in front, this decides on a path as the lines themselves do,
or is refused where they are, just if no altered line spoils one of the two readings. -/
theorem readPatterns_decides {opening : String → String} (front : TrimsFront opening)
    (text path : String) :
    (∀ (tree : FileTree) (file : Path), tree.readText file = .ok text →
      readPatterns tree file = .ok (linePatterns text)) ∧
    (decision? ((linePatterns text).map opening) path = decision? ((lines text).map opening) path ↔
      ¬(IsSpoiled (IsAltered opening) trimLine opening path (lines text) ∨
        IsSpoiled (IsAltered opening) opening trimLine path (lines text))) := by
  refine ⟨fun tree file read => readPatterns_of_readText read, ?_⟩
  rw [opening_map_linePatterns front, decision?_linePatterns]
  apply decision?_map_eq_iff
  intro line _ unaltered
  exact readsAs_of_not_isAltered front unaltered

/-! ## Blanks in front that do not count -/

/-- A line without the blanks in front of it. -/
def dropFront (line : String) : String := .ofList (trimStart line.toList)

theorem trimsFront_dropFront : TrimsFront dropFront := by
  intro line
  rw [dropFront, String.toList_ofList]
  exact exists_blanks_append_trimStart line.toList

/-- For a matcher that takes off all blanks in front, only an escaped space alters a line. -/
theorem isAltered_dropFront_iff {line : String} :
    IsAltered dropFront line ↔ EndsEscaped (trimStart line.toList) ∧
      (trimStart line.toList).head? ≠ some '#' := by
  have start := head?_trimStart line.toList
  constructor
  · intro altered
    have noComment := altered.noComment
    have blanks := altered.blanks
    rw [dropFront, String.toList_ofList] at noComment blanks
    exact ⟨blanks.resolve_left (by rw [start]; exact Bool.false_ne_true), noComment⟩
  · intro escaped
    constructor
    · intro blank
      have same : trim (trimStart line.toList) = trim line.toList := by
        rw [trim, trimStart_of_head start, trim]
      have stripped := stripEnd_of_blank (same.trans blank)
      rw [stripEnd, if_pos (by simpa [EndsEscaped] using escaped.1)] at stripped
      have ends := escaped.1
      rw [stripped] at ends
      cases ends
    · rw [dropFront, String.toList_ofList]
      exact escaped.2
    · rw [dropFront, String.toList_ofList]
      exact .inr escaped.1

/-- Blanks around lines, and a comment behind blanks. -/
def spacedFile : String := "  *.html \n!keep.html\t\n  # all but one\n"

theorem readPatterns_spacedFile :
    TrimsFront dropFront ∧
      decision? ((linePatterns spacedFile).map dropFront) "a.html" = some true ∧
      decision? ((lines spacedFile).map dropFront) "a.html" = some true ∧
      ¬(IsSpoiled (IsAltered dropFront) trimLine dropFront "a.html" (lines spacedFile) ∨
        IsSpoiled (IsAltered dropFront) dropFront trimLine "a.html" (lines spacedFile)) := by
  have decides := (readPatterns_decides trimsFront_dropFront spacedFile "a.html").2
  have kept : decision? ((linePatterns spacedFile).map dropFront) "a.html" = some true := by
    decide +kernel
  have whole : decision? ((lines spacedFile).map dropFront) "a.html" = some true := by
    decide +kernel
  exact ⟨trimsFront_dropFront, kept, whole, decides.mp (kept.trans whole.symm)⟩

/-- An escaped space at the end of a line is taken off, and what is left cannot be read, though the
line itself can: it leaves out an entry whose name ends in a space. -/
theorem readPatterns_escapedSpace :
    lines "foo\\ \n" = ["foo\\ "] ∧ linePatterns "foo\\ \n" = ["foo\\"] ∧
      decision? (lines "foo\\ \n") "foo " = some true ∧
      decision? ((lines "foo\\ \n").map dropFront) "foo " = some true ∧
      decision? (linePatterns "foo\\ \n") "foo " = none ∧
      readAll (linePatterns "foo\\ \n") = .error (.invalid "foo\\") := by
  decide +kernel

end Stencil.Ignore
