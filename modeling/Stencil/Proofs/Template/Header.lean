import Stencil.Proofs.ClassSource.Statement
import Stencil.Proofs.Text.Blank
import Stencil.Template.Header

/-!
What candidates are made of: two words of which one may be missing. The text of each of them has the
stricter form that a header asks for, so a header takes all of them. What a header that reads gives
is fields with words for their types.
-/

namespace Stencil

namespace Candidate

/-! ## Shape of candidates -/

/-- Two words, not both of them empty. -/
structure IsFormed (candidate : Candidate) : Prop where
  name : ∀ c ∈ candidate.name, Character.isWord c = true
  type : ∀ c ∈ candidate.type, Character.isWord c = true
  sides : candidate.name = [] → candidate.type ≠ []

/-- The run before the scan's place holds word characters only. -/
def Before.IsRun : Before → Prop
  | free reversed => ∀ c ∈ reversed, Character.isWord c = true
  | spent => True

theorem isFormed_of_around? {before : Before} {rest : List Char} {candidate : Candidate}
    (run : before.IsRun) (found : around? before rest = some candidate) : candidate.IsFormed := by
  have typeWords : ∀ c ∈ rest.takeWhile Character.isWord, Character.isWord c = true :=
    fun c inType => List.all_eq_true.mp List.all_takeWhile c inType
  simp only [around?] at found
  split at found
  · cases found
  · rcases Option.ite_none_left_eq_some.mp found with ⟨nonempty, equal⟩
    cases equal
    exact ⟨nofun, typeWords, fun _ => by simpa using nonempty⟩
  · rename_i reversed nonempty
    rcases Option.ite_none_left_eq_some.mp found with ⟨_, equal⟩
    cases equal
    refine ⟨fun c inName => run c (List.mem_reverse.mp inName), typeWords, fun empty => ?_⟩
    exact absurd (List.reverse_eq_nil_iff.mp empty) nonempty

theorem isRun_beforeRest (found : Option Candidate) : (beforeRest found).IsRun := by
  rw [beforeRest.eq_def]
  split
  · trivial
  · exact nofun

theorem isFormed_of_mem_scan {before : Before} {text : List Char} {candidate : Candidate}
    (run : before.IsRun) (member : candidate ∈ scan before text) : candidate.IsFormed := by
  fun_induction scan before text with
  | case1 => cases member
  | case2 before rest found induction =>
      rcases List.mem_append.mp member with here | later
      · exact isFormed_of_around? run (Option.mem_toList.mp here)
      · exact induction (isRun_beforeRest found) later
  | case3 before c rest _ induction =>
      refine induction ?_ member
      split
      · rename_i word
        cases before with
        | free reversed => exact List.forall_mem_cons.mpr ⟨word, run⟩
        | spent => trivial
      · exact nofun

/-! ## The stricter form -/

theorem capture?_text {candidate : Candidate} (formed : candidate.IsFormed) :
    capture? candidate.text = some candidate := by
  have nameTaken : candidate.text.takeWhile Character.isWord = candidate.name :=
    takeWhile_run formed.name (show Character.isWord ':' = false by decide)
  have nameDropped : candidate.text.drop candidate.name.length = ':' :: ' ' :: candidate.type :=
    List.drop_left
  have typeTaken : candidate.type.takeWhile Character.isWord = candidate.type := by
    have run := @takeWhile_run Character.isWord candidate.type [] formed.type rfl
    rwa [List.append_nil] at run
  simp [capture?, nameTaken, nameDropped, typeTaken]

theorem captured_texts {list : List Candidate} (formed : ∀ candidate ∈ list, candidate.IsFormed) :
    captured (list.map text) = list := by
  induction list with
  | nil => rfl
  | cons candidate list induction =>
      rcases List.forall_mem_cons.mp formed with ⟨first, others⟩
      rw [List.map_cons, captured, capture?_text first, induction others]

/-! ## Declarations -/

theorem isWord_of_declare {ordinal : Nat} {candidate : Candidate} {field : Field}
    (words : ∀ c ∈ candidate.type, Character.isWord c = true)
    (declared : declare ordinal candidate = .ok field) : Source.IsWord field.type.toList := by
  rw [declare] at declared
  split at declared
  · cases declared
  · split at declared
    · cases declared
    · rename_i nonempty
      cases declared
      simp only [toField, String.toList_ofList]
      exact ⟨by simpa using nonempty, words⟩

theorem isWord_of_declareAll {ordinal : Nat} {list : List Candidate} {fields : List Field}
    (words : ∀ candidate ∈ list, ∀ c ∈ candidate.type, Character.isWord c = true)
    (declared : declareAll ordinal list = .ok fields) :
    ∀ field ∈ fields, Source.IsWord field.type.toList := by
  induction list generalizing ordinal fields with
  | nil =>
      cases declared
      exact fun _ member => nomatch member
  | cons candidate list induction =>
      rw [declareAll] at declared
      split at declared
      · cases declared
      · rename_i first firstDeclared
        cases rest : declareAll (ordinal + 1) list with
        | error error =>
            rw [rest] at declared
            cases declared
        | ok later =>
            rw [rest] at declared
            cases declared
            have firstWord := isWord_of_declare (words candidate List.mem_cons_self) firstDeclared
            have others := induction
              (fun other member => words other (List.mem_cons_of_mem _ member)) rest
            exact List.forall_mem_cons.mpr ⟨firstWord, others⟩

end Candidate

theorem isFormed_of_mem_candidates {document : String} :
    ∀ candidate ∈ candidates document, candidate.IsFormed := by
  intro candidate member
  have start : (Candidate.Before.free []).IsRun := fun _ inRun => nomatch inRun
  exact Candidate.isFormed_of_mem_scan start member

/-- No candidate ends the header. -/
theorem headerFields_eq (document : String) :
    headerFields document = Candidate.declareAll 1 (candidates document) := by
  rw [headerFields, Candidate.captured_texts isFormed_of_mem_candidates]

/-- The types of a header are words. -/
theorem isWord_of_headerFields {document : String} {fields : List Field}
    (header : headerFields document = .ok fields) :
    ∀ field ∈ fields, Source.IsWord field.type.toList := by
  rw [headerFields_eq] at header
  exact Candidate.isWord_of_declareAll
    (fun candidate member => (isFormed_of_mem_candidates candidate member).type) header

end Stencil
