import Mathlib.Data.List.Induction
import Stencil.Ignore.Patterns

/-!
Patterns that are given more than once. Of equal lines only the first is kept, and the patterns of
a tree decide as all the lines would as long as no line is overruled: the last one that matches and
stands for the first time must not be followed by a repetition that matches and says the opposite.
-/

namespace Stencil.Ignore

/-! ## The last verdict -/

/-- What a pattern says of a text, if it matches. -/
def Pattern.verdict? (pattern : Pattern) (text : List Char) : Option Bool :=
  if pattern.shape.accepts text then some pattern.ignores else none

/-- What a line says of a path, if it can be read and matches. -/
def lineVerdict? (path line : String) : Option Bool :=
  match Pattern.read line with
  | .ok pattern => pattern.verdict? (relativePath path.toList)
  | .error _ => none

/-- The verdict of the last line that has one. -/
def lastVerdict? (verdict? : String → Option Bool) (lines : List String) : Option Bool :=
  lines.reverse.findSome? verdict?

section LastVerdict

variable {verdict? : String → Option Bool} {lines : List String}

theorem lastVerdict?_append (verdict? : String → Option Bool) (lines later : List String) :
    lastVerdict? verdict? (lines ++ later) =
      (lastVerdict? verdict? later).or (lastVerdict? verdict? lines) := by
  rw [lastVerdict?, List.reverse_append, List.findSome?_append]
  rfl

theorem lastVerdict?_singleton (verdict? : String → Option Bool) (line : String) :
    lastVerdict? verdict? [line] = verdict? line := by
  rw [lastVerdict?, List.reverse_singleton, List.findSome?_singleton]

theorem lastVerdict?_eq_none_iff :
    lastVerdict? verdict? lines = none ↔ ∀ line ∈ lines, verdict? line = none := by
  simp [lastVerdict?]

end LastVerdict

theorem find?_elim_eq_findSome? (patterns : List Pattern) (text : List Char) :
    ((patterns.find? (·.shape.accepts text)).elim false Pattern.ignores) =
      (patterns.findSome? (·.verdict? text)).getD false := by
  induction patterns with
  | nil => rfl
  | cons pattern patterns induction =>
      cases accepted : pattern.shape.accepts text with
      | true => simp [Pattern.verdict?, accepted]
      | false => simpa [Pattern.verdict?, accepted] using induction

theorem ignored_eq (patterns : List Pattern) (path : String) :
    ignored patterns path =
      (patterns.reverse.findSome? (·.verdict? (relativePath path.toList))).getD false := by
  rw [← find?_elim_eq_findSome?, ignored]
  cases patterns.reverse.find? (·.shape.accepts (relativePath path.toList)) <;> rfl

/-! ## Reading of lines -/

theorem readAll_nil : readAll [] = .ok [] := rfl

theorem readAll_cons (line : String) (lines : List String) :
    readAll (line :: lines) = (do return (← Pattern.read line) :: (← readAll lines)) := by
  simp [readAll]

theorem readAll_append (lines later : List String) :
    readAll (lines ++ later) = (do return (← readAll lines) ++ (← readAll later)) := by
  simp [readAll]

/-- Lines that have been read decide by their verdicts. -/
theorem ignored_of_readAll {lines : List String} {patterns : List Pattern}
    (read : readAll lines = .ok patterns) (path : String) :
    ignored patterns path = (lastVerdict? (lineVerdict? path) lines).getD false := by
  have verdicts : patterns.map (·.verdict? (relativePath path.toList)) =
      lines.map (lineVerdict? path) := by
    induction lines generalizing patterns with
    | nil =>
        cases read
        rfl
    | cons line lines induction =>
        rw [readAll_cons] at read
        cases first : Pattern.read line with
        | error error => simp [first, bind, Except.bind] at read
        | ok pattern =>
            cases others : readAll lines with
            | error error => simp [first, others, bind, Except.bind] at read
            | ok later =>
                simp only [first, others, bind, Except.bind, pure, Except.pure,
                  Except.ok.injEq] at read
                rw [← read, List.map_cons, List.map_cons, induction others, lineVerdict?, first]
  have reversed := congrArg (fun verdicts => verdicts.reverse.findSome? id) verdicts
  simp only [← List.map_reverse, List.findSome?_map, Function.id_comp] at reversed
  rw [ignored_eq, lastVerdict?, reversed]

theorem exists_readAll_iff (lines : List String) :
    (∃ patterns, readAll lines = .ok patterns) ↔
      ∀ line ∈ lines, ∃ pattern, Pattern.read line = .ok pattern := by
  induction lines with
  | nil => simp [readAll_nil]
  | cons line lines induction =>
      rw [List.forall_mem_cons, ← induction, readAll_cons]
      cases Pattern.read line <;> cases readAll lines <;>
        simp [bind, Except.bind, pure, Except.pure]

/-! ## Distinct lines -/

private theorem distinct_concat (lines : List String) (line : String) :
    distinct (lines ++ [line]) =
      if line ∈ distinct lines then distinct lines else distinct lines ++ [line] := by
  simp [distinct, List.foldl_append]

theorem mem_distinct {lines : List String} {line : String} :
    line ∈ distinct lines ↔ line ∈ lines := by
  induction lines using List.reverseRecOn with
  | nil => rfl
  | append_singleton lines last induction =>
      rw [distinct_concat, List.mem_append, List.mem_singleton, ← induction]
      split
      · rename_i present
        constructor
        · exact .inl
        · intro either
          rcases either with earlier | equal
          · exact earlier
          · exact equal ▸ present
      · rw [List.mem_append, List.mem_singleton]

theorem distinct_append_of_mem {lines : List String} {line : String} (repeated : line ∈ lines) :
    distinct (lines ++ [line]) = distinct lines := by
  rw [distinct_concat, if_pos (mem_distinct.mpr repeated)]

theorem distinct_append_of_notMem {lines : List String} {line : String} (new : line ∉ lines) :
    distinct (lines ++ [line]) = distinct lines ++ [line] := by
  rw [distinct_concat, if_neg fun present => new (mem_distinct.mp present)]

theorem exists_readAll_distinct {lines : List String} :
    (∃ kept, readAll (distinct lines) = .ok kept) ↔ ∃ all, readAll lines = .ok all := by
  simp only [exists_readAll_iff, mem_distinct]

/-- The first line that cannot be read stands for the first time. -/
theorem readAll_distinct_of_error {lines : List String} {error : PatternError}
    (failed : readAll lines = .error error) : readAll (distinct lines) = .error error := by
  induction lines using List.reverseRecOn with
  | nil => cases failed
  | append_singleton lines line induction =>
      rw [readAll_append] at failed
      cases before : readAll lines with
      | error first =>
          have same : first = error := by simpa [before, bind, Except.bind] using failed
          have kept := induction (same ▸ before)
          by_cases repeated : line ∈ lines
          · rw [distinct_append_of_mem repeated, kept]
          · rw [distinct_append_of_notMem repeated, readAll_append, kept]
            rfl
      | ok all =>
          have last : readAll [line] = .error error := by
            cases read : readAll [line] with
            | error other => simpa [before, read, bind, Except.bind] using failed
            | ok patterns => simp [before, read, bind, Except.bind, pure, Except.pure] at failed
          have new : line ∉ lines := by
            intro member
            rcases (exists_readAll_iff lines).mp ⟨all, before⟩ line member with ⟨pattern, read⟩
            simp [readAll_cons, readAll_nil, read, bind, Except.bind, pure, Except.pure] at last
          rcases exists_readAll_distinct.mpr ⟨all, before⟩ with ⟨kept, keptRead⟩
          rw [distinct_append_of_notMem new, readAll_append, keptRead, last]
          rfl

/-! ## Repetitions that overrule -/

/-- Of the lines that say something, `line` is the last one to stand for the first time. -/
structure IsLastNew (verdict? : String → Option Bool) (earlier : List String) (line : String)
    (later : List String) (verdict : Bool) : Prop where
  new : line ∉ earlier
  decides : verdict? line = some verdict
  repeated : ∀ other ∈ later, verdict? other = none ∨ other ∈ earlier ++ [line]

/-- The last line to stand for the first time is followed by a repetition that says the
opposite. -/
def IsOverruled (verdict? : String → Option Bool) (lines : List String) : Prop :=
  ∃ earlier line later verdict, lines = earlier ++ line :: later ∧
    IsLastNew verdict? earlier line later verdict ∧
    lastVerdict? verdict? later = some !verdict

section Overruled

variable {verdict? : String → Option Bool} {lines : List String}

theorem exists_isLastNew (decided : lastVerdict? verdict? lines ≠ none) :
    ∃ earlier line later verdict, lines = earlier ++ line :: later ∧
      IsLastNew verdict? earlier line later verdict := by
  induction lines using List.reverseRecOn with
  | nil => exact absurd rfl decided
  | append_singleton lines last induction =>
      by_cases repeated : verdict? last = none ∨ last ∈ lines
      · have decidedBefore : lastVerdict? verdict? lines ≠ none := by
          intro silent
          apply decided
          rw [lastVerdict?_eq_none_iff] at silent ⊢
          intro line member
          rcases List.mem_append.mp member with before | equal
          · exact silent line before
          · cases List.mem_singleton.mp equal
            exact repeated.elim id (silent last)
        rcases induction decidedBefore with
          ⟨earlier, line, later, verdict, rfl, new, lineDecides, old⟩
        refine ⟨earlier, line, later ++ [last], verdict, by simp, new, lineDecides, ?_⟩
        intro other member
        rcases List.mem_append.mp member with inLater | equal
        · exact old other inLater
        · cases List.mem_singleton.mp equal
          rcases repeated with silent | present
          · exact .inl silent
          · rw [List.append_cons, List.mem_append] at present
            rcases present with first | inLater
            · exact .inr first
            · exact old last inLater
      · rcases not_or.mp repeated with ⟨lastDecides, new⟩
        rcases Option.ne_none_iff_exists'.mp lastDecides with ⟨verdict, equal⟩
        exact ⟨lines, last, [], verdict, rfl, new, equal, by simp⟩

theorem IsLastNew.lastVerdict?_distinct {earlier later : List String} {line : String}
    {verdict : Bool} (lastNew : IsLastNew verdict? earlier line later verdict) :
    lastVerdict? verdict? (distinct (earlier ++ line :: later)) = some verdict := by
  rw [List.append_cons]
  have repeated := lastNew.repeated
  induction later using List.reverseRecOn with
  | nil =>
      rw [List.append_nil, distinct_append_of_notMem lastNew.new, lastVerdict?_append,
        lastVerdict?_singleton, lastNew.decides]
      rfl
  | append_singleton later last induction =>
      have before : ∀ other ∈ later, verdict? other = none ∨ other ∈ earlier ++ [line] :=
        fun other member => repeated other (List.mem_append_left _ member)
      have kept := induction ⟨lastNew.new, lastNew.decides, before⟩ before
      rw [← List.append_assoc]
      by_cases present : last ∈ earlier ++ [line] ++ later
      · rw [distinct_append_of_mem present, kept]
      · have silent : verdict? last = none :=
          (repeated last (by simp)).resolve_right fun old =>
            present (List.mem_append_left _ old)
        rw [distinct_append_of_notMem present, lastVerdict?_append, lastVerdict?_singleton, silent,
          kept]
        rfl

theorem IsLastNew.lastVerdict? {earlier later : List String} {line : String} {verdict : Bool}
    (lastNew : IsLastNew verdict? earlier line later verdict) :
    lastVerdict? verdict? (earlier ++ line :: later) =
      some ((lastVerdict? verdict? later).getD verdict) := by
  rw [List.append_cons, lastVerdict?_append, lastVerdict?_append, lastVerdict?_singleton,
    lastNew.decides]
  cases Ignore.lastVerdict? verdict? later <;> rfl

/-- Dropping repetitions keeps the decision just if no repetition overrules. -/
theorem decision_distinct_iff :
    (lastVerdict? verdict? (distinct lines)).getD false =
        (lastVerdict? verdict? lines).getD false ↔
      ¬ IsOverruled verdict? lines := by
  constructor
  · intro same overruled
    rcases overruled with ⟨earlier, line, later, verdict, rfl, lastNew, opposite⟩
    rw [lastNew.lastVerdict?_distinct, lastNew.lastVerdict?, opposite] at same
    simp at same
  · intro notOverruled
    by_cases undecided : lastVerdict? verdict? lines = none
    · have silent : lastVerdict? verdict? (distinct lines) = none := by
        simpa only [lastVerdict?_eq_none_iff, mem_distinct] using undecided
      rw [undecided, silent]
    · rcases exists_isLastNew undecided with ⟨earlier, line, later, verdict, rfl, lastNew⟩
      rw [lastNew.lastVerdict?_distinct, lastNew.lastVerdict?]
      cases repetition : Ignore.lastVerdict? verdict? later with
      | none => rfl
      | some other =>
          by_contra different
          apply notOverruled
          refine ⟨earlier, line, later, verdict, rfl, lastNew, ?_⟩
          rw [repetition]
          cases verdict <;> cases other <;> simp_all

end Overruled

/-! ## The patterns of a tree -/

theorem patternsFor_of_readPatterns {tree : FileTree} {root : Path} {fromFile : List String}
    (read : readPatterns tree (root / fileName) = .ok fromFile) (extra : List String) :
    patternsFor tree root { extra } =
      if distinct (fromFile ++ extra) = [] then .ok none
      else ((readAll (distinct (fromFile ++ extra))).mapError .pattern).map some := by
  have collected : collectPatterns tree root { extra } = .ok (distinct (fromFile ++ extra)) := by
    simp [collectPatterns, read, bind, Except.bind, pure, Except.pure]
  rw [patternsFor, collected]
  cases distinct (fromFile ++ extra) with
  | nil => rfl
  | cons line lines =>
      simp only [List.cons_ne_nil, if_false]
      cases readAll (line :: lines) <;> rfl

/-- The patterns of a tree are those of its ignore file and the extra ones, each once. Where one of
them cannot be read, nor can all; else they decide on a path as all of them do, with the last
one that matches, just if no repetition overrules. -/
theorem patternsFor_decides {tree : FileTree} {root : Path} {fromFile : List String}
    (read : readPatterns tree (root / fileName) = .ok fromFile) (extra : List String) :
    (∀ error, readAll (fromFile ++ extra) = .error error →
      patternsFor tree root { extra } = .error (.pattern error)) ∧
    ∀ all, readAll (fromFile ++ extra) = .ok all →
      ∃ kept, patternsFor tree root { extra } = .ok kept ∧
        ∀ path, kept.elim false (ignored · path) = ignored all path ↔
          ¬ IsOverruled (lineVerdict? path) (fromFile ++ extra) := by
  rw [patternsFor_of_readPatterns read]
  generalize fromFile ++ extra = lines
  constructor
  · intro error failed
    have kept := readAll_distinct_of_error failed
    have nonempty : distinct lines ≠ [] := by
      intro empty
      rw [empty] at kept
      cases kept
    rw [if_neg nonempty, kept]
    rfl
  · intro all allRead
    rcases exists_readAll_distinct.mpr ⟨all, allRead⟩ with ⟨kept, keptRead⟩
    have decides (path : String) : ignored kept path = ignored all path ↔
        ¬ IsOverruled (lineVerdict? path) lines := by
      rw [ignored_of_readAll keptRead, ignored_of_readAll allRead]
      exact decision_distinct_iff
    by_cases empty : distinct lines = []
    · rw [empty] at keptRead
      cases keptRead
      exact ⟨none, if_pos empty, decides⟩
    · refine ⟨some kept, ?_, decides⟩
      rw [if_neg empty, keptRead]
      rfl

/-- An ignore file that leaves out all pages but one. -/
def keptPageTree : FileTree :=
  ⟨.directory [("t", .directory [(fileName, .file (Utf8.encode "*.html\n!keep.html\n"))])], []⟩

/-- What `*.html`, `!keep.html` and `*.html` again stand for. -/
def keptPagePatterns : List Pattern :=
  [⟨true, .tokens ([.directories, .many] ++ ".html".toList.map .literal ++ [.nameEnd])⟩,
    ⟨false, .tokens (.directories :: "keep.html".toList.map .literal ++ [.nameEnd])⟩,
    ⟨true, .tokens ([.directories, .many] ++ ".html".toList.map .literal ++ [.nameEnd])⟩]

theorem patternsFor_keptPage :
    readPatterns keptPageTree (Path.ofString "t" / fileName) = .ok ["*.html", "!keep.html"] ∧
      readAll (["*.html", "!keep.html"] ++ ["*.html"]) = .ok keptPagePatterns ∧
      ∃ kept, patternsFor keptPageTree (.ofString "t") { extra := ["*.html"] } = .ok kept ∧
        ∀ path, kept.elim false (ignored · path) = ignored keptPagePatterns path ↔
          ¬ IsOverruled (lineVerdict? path) (["*.html", "!keep.html"] ++ ["*.html"]) := by
  have read : readPatterns keptPageTree (Path.ofString "t" / fileName) =
      .ok ["*.html", "!keep.html"] := rfl
  have allRead : readAll (["*.html", "!keep.html"] ++ ["*.html"]) = .ok keptPagePatterns := rfl
  exact ⟨read, allRead, (patternsFor_decides read ["*.html"]).2 _ allRead⟩

/-- A pattern that is repeated to leave a page out again has no say: the one that takes it back
stays the last. -/
theorem patternsFor_repeatedPattern :
    readAll ["*.html", "!keep.html", "*.html"] = .ok keptPagePatterns ∧
      ignored keptPagePatterns "keep.html" = true ∧
      patternsFor keptPageTree (.ofString "t") { extra := ["*.html"] } =
        .ok (some (keptPagePatterns.take 2)) ∧
      ignored (keptPagePatterns.take 2) "keep.html" = false :=
  ⟨rfl, rfl, rfl, rfl⟩

end Stencil.Ignore
