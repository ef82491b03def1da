import Stencil.Proofs.Template.Header
import Stencil.Proofs.Text.Blank
import Stencil.Template.Strip

/-!
Headers that are written and read again. A header in front of a text adds its fields to those of the
text, whatever the text holds, and as long as no brace closes at the end of a line of the text, the
header alone is removed.
-/

namespace Stencil

/-- A declaration as it is written. -/
def Field.declaration (field : Field) : String := field.name ++ ": " ++ field.type

/-- A document with a header in front of a body, one field on each line. -/
def declaringDocument (fields : List Field) (body : String) : String :=
  "\x7b" ++ joinTexts "\n" (fields.map Field.declaration) ++ "\x7d\n" ++ body

/-- The same error of a document with `count` more fields in front. -/
def HeaderError.after (count : Nat) : HeaderError → HeaderError
  | .missingName ordinal => .missingName (ordinal + count)
  | .missingType ordinal => .missingType (ordinal + count)

/-- A field of words, as headers can declare it. -/
structure Field.IsWritable (field : Field) : Prop where
  name : Source.IsWord field.name.toList
  type : Source.IsWord field.type.toList

/-! ## Candidates -/

namespace Candidate

def ofField (field : Field) : Candidate := ⟨field.name.toList, field.type.toList⟩

theorem scan_cons_word {c : Char} (word : Character.isWord c = true)
    (reversed rest : List Char) :
    scan (.free reversed) (c :: rest) = scan (.free (c :: reversed)) rest := by
  have noColon : c ≠ ':' := by
    rintro rfl
    cases word
  rw [scan]
  · simp [word]
  · intro behind equal
    exact absurd equal noColon

theorem scan_words {word : List Char} (words : ∀ c ∈ word, Character.isWord c = true)
    (reversed rest : List Char) :
    scan (.free reversed) (word ++ rest) = scan (.free (word.reverse ++ reversed)) rest := by
  induction word generalizing reversed with
  | nil => rfl
  | cons c word induction =>
      rcases List.forall_mem_cons.mp words with ⟨first, others⟩
      rw [List.cons_append, scan_cons_word first, induction others, List.reverse_cons,
        List.append_assoc, List.singleton_append]

theorem scan_spent_words {word : List Char} (words : ∀ c ∈ word, Character.isWord c = true)
    (rest : List Char) : scan .spent (word ++ rest) = scan .spent rest := by
  induction word with
  | nil => rfl
  | cons c word induction =>
      rcases List.forall_mem_cons.mp words with ⟨first, others⟩
      rw [List.cons_append, scan]
      · simp [first, induction others]
      · intro behind equal
        rw [equal] at first
        cases first

/-- A declaration is a candidate, and its type does not count as a name for what follows. -/
theorem scan_declared {name type rest : List Char} (named : Source.IsWord name)
    (typed : Source.IsWord type) (ends : rest.head?.any Character.isWord = false) :
    scan (.free []) (name ++ ':' :: ' ' :: (type ++ rest)) =
      ⟨name, type⟩ :: scan .spent rest := by
  have found : around? (.free name.reverse) (type ++ rest) = some ⟨name, type⟩ := by
    have run := takeWhile_run typed.words ends
    have nonempty : name.reverse ≠ [] := by simpa using named.nonempty
    rcases List.exists_cons_of_ne_nil nonempty with ⟨c, reversed, equal⟩
    have back : (c :: reversed).reverse = name := by rw [← equal, List.reverse_reverse]
    rw [equal, around?, run, back]
    · simp [typed.nonempty]
    · exact List.cons_ne_nil c reversed
  have spent : beforeRest (some ⟨name, type⟩) = .spent := by
    rcases List.exists_cons_of_ne_nil typed.nonempty with ⟨c, later, rfl⟩
    rfl
  rw [scan_words named.words, List.append_nil, scan]
  simp only [found, Option.toList_some, spent, scan_spent_words typed.words, List.singleton_append]

theorem scan_cons_other {c : Char} (noWord : Character.isWord c = false) (noColon : c ≠ ':')
    (before : Before) (rest : List Char) : scan before (c :: rest) = scan (.free []) rest := by
  cases before with
  | free reversed => rw [scan] <;> simp [noWord, noColon]
  | spent => rw [scan] <;> simp [noWord, noColon]

/-- A declaration leaves nothing behind that could count for the next one. -/
theorem scan_declaration_cons {field : Field} (writable : field.IsWritable) {c : Char}
    (noWord : Character.isWord c = false) (noColon : c ≠ ':') (rest : List Char) :
    scan (.free []) (field.declaration.toList ++ c :: rest) =
      ofField field :: scan (.free []) rest := by
  have ends : (c :: rest).head?.any Character.isWord = false := noWord
  have written : field.declaration.toList ++ c :: rest =
      field.name.toList ++ ':' :: ' ' :: (field.type.toList ++ c :: rest) := by
    simp [Field.declaration]
  rw [written, scan_declared writable.name writable.type ends, scan_cons_other noWord noColon,
    ofField]

theorem scan_declarations {fields : List Field} (writable : ∀ field ∈ fields, field.IsWritable)
    (rest : List Char) :
    scan (.free []) ((joinTexts "\n" (fields.map Field.declaration)).toList ++ '\x7d' :: rest) =
      fields.map ofField ++ scan (.free []) rest := by
  induction fields with
  | nil => exact scan_cons_other (by decide) (by decide) _ rest
  | cons first fields induction =>
      rcases List.forall_mem_cons.mp writable with ⟨firstWritable, othersWritable⟩
      cases fields with
      | nil =>
          have alone := scan_declaration_cons firstWritable (c := '\x7d') (by decide) (by decide) rest
          simpa [joinTexts, String.intercalate_singleton] using alone
      | cons second fields =>
          have joined : (joinTexts "\n" ((first :: second :: fields).map Field.declaration)).toList =
              first.declaration.toList ++
                '\n' :: (joinTexts "\n" ((second :: fields).map Field.declaration)).toList := by
            simp [toList_joinTexts]
          rw [joined, List.append_assoc, List.cons_append,
            scan_declaration_cons firstWritable (by decide) (by decide), induction othersWritable,
            List.map_cons (l := second :: fields), List.cons_append]

theorem declare_add (ordinal count : Nat) (candidate : Candidate) :
    declare (ordinal + count) candidate =
      (declare ordinal candidate).mapError (HeaderError.after count) := by
  simp only [declare]
  split
  · rfl
  · split <;> rfl

/-- Ordinals that begin later are those of the same errors with more candidates in front. -/
theorem declareAll_add (ordinal count : Nat) (list : List Candidate) :
    declareAll (ordinal + count) list =
      (declareAll ordinal list).mapError (HeaderError.after count) := by
  induction list generalizing ordinal with
  | nil => rfl
  | cons candidate list induction =>
      have later := induction (ordinal + 1)
      rw [Nat.add_right_comm] at later
      rw [declareAll, declareAll, declare_add, later]
      cases declare ordinal candidate with
      | error error => rfl
      | ok field => cases declareAll (ordinal + 1) list <;> rfl

/-- A candidate that lacks neither its name nor its type. -/
structure IsComplete (candidate : Candidate) : Prop where
  name : candidate.name ≠ []
  type : candidate.type ≠ []

section Complete

variable {candidate : Candidate} {list : List Candidate} {ordinal : Nat}

theorem declare_of_isComplete (complete : candidate.IsComplete) :
    declare ordinal candidate = .ok candidate.toField := by
  simp [declare, complete.name, complete.type]

/-- Complete candidates in front are fields in front. -/
theorem declareAll_append (complete : ∀ candidate ∈ list, candidate.IsComplete)
    (later : List Candidate) :
    declareAll ordinal (list ++ later) =
      (declareAll (ordinal + list.length) later).map (list.map toField ++ ·) := by
  induction list generalizing ordinal with
  | nil => cases declared : declareAll ordinal later <;> simp [declared, Except.map]
  | cons candidate list induction =>
      rcases List.forall_mem_cons.mp complete with ⟨first, others⟩
      have rest := @induction (ordinal + 1) others
      rw [Nat.add_assoc, Nat.add_comm 1] at rest
      rw [List.cons_append, declareAll, declare_of_isComplete first, List.length_cons, rest]
      cases declareAll (ordinal + (list.length + 1)) later <;> rfl

end Complete

theorem declareAll_ofField {fields : List Field} (writable : ∀ field ∈ fields, field.IsWritable)
    (ordinal : Nat) (later : List Candidate) :
    declareAll ordinal (fields.map ofField ++ later) =
      (declareAll (ordinal + fields.length) later).map (fields ++ ·) := by
  have complete : ∀ candidate ∈ fields.map ofField, candidate.IsComplete := by
    intro candidate member
    rcases List.mem_map.mp member with ⟨field, isField, rfl⟩
    exact ⟨(writable field isField).name.nonempty, (writable field isField).type.nonempty⟩
  have back : (fields.map ofField).map toField = fields := by
    simp [ofField, toField, Function.comp_def]
  rw [declareAll_append complete, List.length_map, back]

end Candidate

theorem toList_declaringDocument (fields : List Field) (body : String) :
    (declaringDocument fields body).toList =
      '\x7b' :: ((joinTexts "\n" (fields.map Field.declaration)).toList ++
        '\x7d' :: '\n' :: body.toList) := by
  simp [declaringDocument]

theorem candidates_declaringDocument {fields : List Field}
    (writable : ∀ field ∈ fields, field.IsWritable) (body : String) :
    candidates (declaringDocument fields body) =
      fields.map Candidate.ofField ++ candidates body := by
  rw [candidates, candidates, toList_declaringDocument,
    Candidate.scan_cons_other (by decide) (by decide), Candidate.scan_declarations writable,
    Candidate.scan_cons_other (by decide) (by decide)]

/-! ## The end of the header -/

theorem afterLastClose?_cons {text body : List Char} (found : afterLastClose? text = some body)
    (c : Char) : afterLastClose? (c :: text) = some body := by
  rw [afterLastClose?.eq_def]
  simp only [found]

theorem afterLastClose?_of_unclosed {text : List Char} (unclosed : ¬['\x7d', '\n'] <:+: text) :
    afterLastClose? text = none := by
  induction text with
  | nil => rfl
  | cons c text induction =>
      have later := induction fun inside => unclosed (List.infix_cons inside)
      rw [afterLastClose?.eq_def]
      simp only [later]
      split
      · rename_i found
        cases found
      · rename_i rest
        exact absurd (List.IsPrefix.isInfix ⟨_, rfl⟩) unclosed
      · rfl

theorem afterLastClose?_append {text body : List Char} (found : afterLastClose? text = some body)
    (front : List Char) : afterLastClose? (front ++ text) = some body := by
  induction front with
  | nil => exact found
  | cons c front induction => exact afterLastClose?_cons induction c

/-- Nothing but the header is removed from a body in which no line ends in a closing brace. -/
theorem stripHeader_declaringDocument (fields : List Field) {body : String}
    (noClose : ¬['\x7d', '\n'] <:+: body.toList) :
    stripHeader (declaringDocument fields body) = body := by
  have noneBehind : ¬['\x7d', '\n'] <:+: '\n' :: body.toList := by
    intro inside
    rcases List.infix_cons_iff.mp inside with front | inside
    · exact absurd (List.cons_prefix_cons.mp front).1 (by decide)
    · exact noClose inside
  have last : afterLastClose? ('\x7d' :: '\n' :: body.toList) = some body.toList := by
    rw [afterLastClose?.eq_def]
    simp only [afterLastClose?_of_unclosed noneBehind]
  have block := afterLastClose?_append last (joinTexts "\n" (fields.map Field.declaration)).toList
  rw [stripHeader, stripHeaderBlock, toList_declaringDocument]
  simp [block]

/-! ## The document -/

theorem headerFields_declaringDocument {fields : List Field}
    (writable : ∀ field ∈ fields, field.IsWritable) (body : String) :
    headerFields (declaringDocument fields body) =
      match headerFields body with
      | .ok later => .ok (fields ++ later)
      | .error error => .error (error.after fields.length) := by
  rw [headerFields_eq, headerFields_eq, candidates_declaringDocument writable,
    Candidate.declareAll_ofField writable, Candidate.declareAll_add]
  cases Candidate.declareAll 1 (candidates body) <;> rfl

/-- A document declares the fields of its header and then those of its body, if the body is in
order; an error of the body counts the fields of the header as well. -/
theorem read_declaringDocument {fields : List Field}
    (writable : ∀ field ∈ fields, field.IsWritable) (body : String) :
    (headerFields (declaringDocument fields body) =
      match headerFields body with
      | .ok later => .ok (fields ++ later)
      | .error error => .error (error.after fields.length)) ∧
    (¬['\x7d', '\n'] <:+: body.toList → stripHeader (declaringDocument fields body) = body) :=
  ⟨headerFields_declaringDocument writable body, stripHeader_declaringDocument fields⟩

/-- A body in which the second declaration has no type. -/
theorem read_declaringDocument_unfinished :
    (∀ field ∈ [⟨"名", "str"⟩, ⟨"b_1", "int"⟩], Field.IsWritable field) ∧
      headerFields "Note: a \x7bb: \x7d" = .error (.missingType 2) ∧
      ¬['\x7d', '\n'] <:+: "Note: a \x7bb: \x7d".toList ∧
      headerFields (declaringDocument [⟨"名", "str"⟩, ⟨"b_1", "int"⟩] "Note: a \x7bb: \x7d") =
        .error (.missingType 4) ∧
      stripHeader (declaringDocument [⟨"名", "str"⟩, ⟨"b_1", "int"⟩] "Note: a \x7bb: \x7d") =
        "Note: a \x7bb: \x7d" := by
  have writable : ∀ field ∈ [⟨"名", "str"⟩, ⟨"b_1", "int"⟩], Field.IsWritable field := by
    intro field member
    constructor
    · apply Source.isWord_of_all
      revert field
      decide +kernel
    · apply Source.isWord_of_all
      revert field
      decide +kernel
  have unfinished : headerFields "Note: a \x7bb: \x7d" = .error (.missingType 2) := by
    decide +kernel
  have noClose : ¬['\x7d', '\n'] <:+: "Note: a \x7bb: \x7d".toList := by decide +kernel
  have result := read_declaringDocument writable "Note: a \x7bb: \x7d"
  rw [unfinished] at result
  exact ⟨writable, unfinished, noClose, result.1, result.2 noClose⟩

end Stencil
