import Stencil.Proofs.Template.Declaring

/-!
What becomes of a header. Either every candidate of the document is a field, cut where its colon and
its space stand, or the first candidate that lacks its name or its type is the error.
-/

namespace Stencil

namespace Candidate

/-- The error is that of a candidate under the number `ordinal`, by what the candidate lacks. -/
inductive IsFault (candidate : Candidate) (ordinal : Nat) : HeaderError → Prop where
  | missingName (empty : candidate.name = []) : IsFault candidate ordinal (.missingName ordinal)
  | missingType (named : candidate.name ≠ []) (empty : candidate.type = []) :
      IsFault candidate ordinal (.missingType ordinal)

/-- The error is that of the first incomplete candidate, whose ordinal it bears; the first of the
candidates counts as `ordinal`. -/
def IsFirstFault (ordinal : Nat) (list : List Candidate) (error : HeaderError) : Prop :=
  ∃ earlier candidate later, list = earlier ++ candidate :: later ∧
    (∀ other ∈ earlier, other.IsComplete) ∧ candidate.IsFault (ordinal + earlier.length) error

section Declare

variable {candidate : Candidate} {list : List Candidate} {ordinal : Nat} {error : HeaderError}
  {field : Field} {fields : List Field}

theorem exists_isFault_iff :
    (∃ error, candidate.IsFault ordinal error) ↔ candidate.name = [] ∨ candidate.type = [] := by
  constructor
  · rintro ⟨error, ⟨empty⟩ | ⟨_, empty⟩⟩
    · exact .inl empty
    · exact .inr empty
  · intro lacks
    by_cases named : candidate.name = []
    · exact ⟨_, .missingName named⟩
    · exact ⟨_, .missingType named (lacks.resolve_left named)⟩

theorem IsComplete.not_isFault (complete : candidate.IsComplete) :
    ¬ candidate.IsFault ordinal error := by
  rintro (⟨empty⟩ | ⟨_, empty⟩)
  · exact complete.name empty
  · exact complete.type empty

theorem declare_eq_error_iff :
    declare ordinal candidate = .error error ↔ candidate.IsFault ordinal error := by
  rw [declare]
  split
  · rename_i empty
    have unnamed := List.isEmpty_iff.mp empty
    constructor
    · intro same
      cases same
      exact .missingName unnamed
    · rintro (⟨_⟩ | ⟨named, _⟩)
      · rfl
      · exact absurd unnamed named
  · rename_i nonempty
    have named : candidate.name ≠ [] := by simpa using nonempty
    split
    · rename_i empty
      constructor
      · intro same
        cases same
        exact .missingType named (List.isEmpty_iff.mp empty)
      · rintro (⟨unnamed⟩ | ⟨_, _⟩)
        · exact absurd unnamed named
        · rfl
    · rename_i typed
      have complete : candidate.IsComplete := ⟨named, by simpa using typed⟩
      refine iff_of_false ?_ complete.not_isFault
      intro same
      cases same

/-- All candidates are taken in their order, or the first incomplete one is the error. -/
theorem declareAll_of_isComplete (complete : ∀ candidate ∈ list, candidate.IsComplete) :
    declareAll ordinal list = .ok (list.map toField) := by
  have whole := @declareAll_append list ordinal complete []
  rw [List.append_nil, declareAll, Except.map, List.append_nil] at whole
  exact whole

/-- Candidates are complete up to the first that is not. -/
theorem isComplete_or_exists (list : List Candidate) :
    (∀ candidate ∈ list, candidate.IsComplete) ∨
      ∃ earlier candidate later, list = earlier ++ candidate :: later ∧
        (∀ other ∈ earlier, other.IsComplete) ∧ (candidate.name = [] ∨ candidate.type = []) := by
  induction list with
  | nil => exact .inl nofun
  | cons candidate list induction =>
      by_cases lacks : candidate.name = [] ∨ candidate.type = []
      · exact .inr ⟨[], candidate, list, rfl, nofun, lacks⟩
      · rcases not_or.mp lacks with ⟨named, typed⟩
        have first : candidate.IsComplete := ⟨named, typed⟩
        rcases induction with complete | ⟨earlier, other, later, rfl, before, here⟩
        · exact .inl (List.forall_mem_cons.mpr ⟨first, complete⟩)
        · exact .inr ⟨candidate :: earlier, other, later, rfl,
            List.forall_mem_cons.mpr ⟨first, before⟩, here⟩

theorem declareAll_of_isFirstFault (fault : IsFirstFault ordinal list error) :
    declareAll ordinal list = .error error := by
  rcases fault with ⟨earlier, candidate, later, rfl, complete, lacks⟩
  rw [declareAll_append complete, declareAll, declare_eq_error_iff.mpr lacks]
  rfl

theorem declareAll_eq_error_iff :
    declareAll ordinal list = .error error ↔ IsFirstFault ordinal list error := by
  constructor
  · intro failed
    rcases isComplete_or_exists list with complete | ⟨earlier, candidate, later, same, before, lacks⟩
    · rw [declareAll_of_isComplete complete] at failed
      cases failed
    · rcases exists_isFault_iff.mpr lacks with ⟨other, fault⟩
      have first : IsFirstFault ordinal list other :=
        ⟨earlier, candidate, later, same, before, fault⟩
      rw [declareAll_of_isFirstFault first] at failed
      exact Except.error.inj failed ▸ first
  · exact declareAll_of_isFirstFault

theorem declareAll_eq_ok_iff :
    declareAll ordinal list = .ok fields ↔
      (∀ candidate ∈ list, candidate.IsComplete) ∧ fields = list.map toField := by
  rcases isComplete_or_exists list with complete | ⟨earlier, candidate, later, rfl, before, lacks⟩
  · rw [declareAll_of_isComplete complete, Except.ok.injEq, eq_comm]
    exact (and_iff_right complete).symm
  · rcases exists_isFault_iff.mpr lacks with ⟨error, fault⟩
    rw [declareAll_of_isFirstFault ⟨earlier, candidate, later, rfl, before, fault⟩]
    refine iff_of_false nofun ?_
    rintro ⟨complete, _⟩
    exact (complete candidate (by simp)).not_isFault fault

theorem exists_isFirstFault_iff :
    (∃ error, IsFirstFault ordinal list error) ↔
      ∃ candidate ∈ list, candidate.name = [] ∨ candidate.type = [] := by
  constructor
  · rintro ⟨error, earlier, candidate, later, rfl, _, fault⟩
    exact ⟨candidate, by simp, exists_isFault_iff.mp ⟨error, fault⟩⟩
  · rintro ⟨candidate, member, lacks⟩
    rcases isComplete_or_exists list with complete | ⟨earlier, first, later, same, before, missing⟩
    · rcases lacks with unnamed | untyped
      · exact absurd unnamed (complete candidate member).name
      · exact absurd untyped (complete candidate member).type
    · rcases exists_isFault_iff.mpr missing with ⟨error, firstFault⟩
      exact ⟨error, earlier, first, later, same, before, firstFault⟩

end Declare

/-! ## Texts cut at the colon -/

theorem isFormed_ofField {field : Field} (writable : field.IsWritable) :
    (ofField field).IsFormed :=
  ⟨writable.name.words, writable.type.words, fun _ => writable.type.nonempty⟩

theorem text_ofField (field : Field) : (ofField field).text = field.declaration.toList := by
  simp [ofField, text, Field.declaration]

theorem IsComplete.isWritable {candidate : Candidate} (complete : candidate.IsComplete)
    (formed : candidate.IsFormed) : candidate.toField.IsWritable := by
  constructor
  · rw [toField, String.toList_ofList]
    exact ⟨complete.name, formed.name⟩
  · rw [toField, String.toList_ofList]
    exact ⟨complete.type, formed.type⟩

theorem ofField_toField (candidate : Candidate) : ofField candidate.toField = candidate := by
  simp [ofField, toField]

/-- A text is that of one candidate only, for no word holds a colon. -/
theorem eq_of_text_eq {candidate other : Candidate} (formed : candidate.IsFormed)
    (otherFormed : other.IsFormed) (same : candidate.text = other.text) : candidate = other := by
  have captured := capture?_text formed
  rw [same, capture?_text otherFormed] at captured
  exact (Option.some.inj captured).symm

/-- Candidates are complete, and the fields are what they come to, if and only if the fields are
words and are spelled as the candidates are. -/
theorem spells_iff {list : List Candidate} (formed : ∀ candidate ∈ list, candidate.IsFormed)
    {fields : List Field} :
    ((∀ candidate ∈ list, candidate.IsComplete) ∧ fields = list.map toField) ↔
      (∀ field ∈ fields, field.IsWritable) ∧
        fields.map (·.declaration.toList) = list.map text := by
  constructor
  · rintro ⟨complete, rfl⟩
    constructor
    · rintro field member
      rcases List.mem_map.mp member with ⟨candidate, listed, rfl⟩
      exact (complete candidate listed).isWritable (formed candidate listed)
    · rw [List.map_map]
      apply List.map_congr_left
      intro candidate _
      rw [Function.comp, ← text_ofField, ofField_toField]
  · rintro ⟨writable, spelled⟩
    have same : fields.map ofField = list := by
      induction list generalizing fields with
      | nil => simpa using spelled
      | cons candidate list induction =>
          cases fields with
          | nil => cases spelled
          | cons field fields =>
              rcases List.forall_mem_cons.mp formed with ⟨firstFormed, othersFormed⟩
              rcases List.forall_mem_cons.mp writable with ⟨first, others⟩
              rcases List.cons.inj spelled with ⟨text, texts⟩
              have head : ofField field = candidate :=
                eq_of_text_eq (isFormed_ofField first) firstFormed ((text_ofField field).trans text)
              rw [List.map_cons, induction othersFormed others texts, head]
    rw [← same]
    constructor
    · intro candidate member
      rcases List.mem_map.mp member with ⟨field, listed, rfl⟩
      exact ⟨(writable field listed).name.nonempty, (writable field listed).type.nonempty⟩
    · rw [List.map_map]
      refine (List.map_id'' (fun field => ?_) fields).symm
      simp [ofField, toField]

end Candidate

/-! ## The document -/

/-- A header takes every candidate. None of them ends it before its end; it is malformed if and only
if one lacks its name or its type, and then the first of these is the error, by its ordinal; else
its fields are the candidates, cut where a colon and a space part their words. -/
theorem headerFields_takesAll (document : String) :
    ((∀ candidate ∈ candidates document,
        Candidate.capture? candidate.text = some candidate ∧
          ¬ (candidate.name = [] ∧ candidate.type = [])) ∧
      Candidate.captured ((candidates document).map Candidate.text) = candidates document) ∧
    ((∃ error, headerFields document = .error error) ↔
      ∃ candidate ∈ candidates document, candidate.name = [] ∨ candidate.type = []) ∧
    (∀ error, headerFields document = .error error ↔
      Candidate.IsFirstFault 1 (candidates document) error) ∧
    (∀ fields, headerFields document = .ok fields ↔
      (∀ field ∈ fields, field.IsWritable) ∧
        fields.map (·.declaration.toList) = (candidates document).map Candidate.text) := by
  have formed := @isFormed_of_mem_candidates document
  refine ⟨⟨?_, Candidate.captured_texts formed⟩, ?_, ?_, ?_⟩
  · intro candidate member
    refine ⟨Candidate.capture?_text (formed candidate member), ?_⟩
    rintro ⟨noName, noType⟩
    exact (formed candidate member).sides noName noType
  · rw [headerFields_eq, ← @Candidate.exists_isFirstFault_iff (candidates document) 1]
    exact exists_congr fun error => Candidate.declareAll_eq_error_iff
  · intro error
    rw [headerFields_eq, Candidate.declareAll_eq_error_iff]
  · intro fields
    rw [headerFields_eq, Candidate.declareAll_eq_ok_iff, Candidate.spells_iff formed]

end Stencil
