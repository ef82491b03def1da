import Stencil.Proofs.Template.Placeholder

/-!
Formatting of template bodies. A body spelled from texts and references, with the at signs of the
texts doubled, becomes a format string without fault, and formatting that gives the texts and the
values of the references in their order. So there is no text that a body cannot express.
-/

namespace Stencil

namespace Piece

/-- What a piece comes to when its hole is filled. -/
def filled (value : List Char → List Char) : Piece → List Char
  | .character c => [c]
  | .field name => value name

theorem fill_of_bound {value? : List Char → Option (List Char)} {value : List Char → List Char}
    {pieces : List Piece} (bound : ∀ name, .field name ∈ pieces → value? name = some (value name)) :
    fill value? pieces = .ok (pieces.flatMap (filled value)) := by
  induction pieces with
  | nil => rfl
  | cons piece pieces induction =>
      have later := induction fun name member => bound name (List.mem_cons_of_mem _ member)
      cases piece with
      | character c => simp [fill, later, filled, Except.map]
      | field name =>
          have found := bound name (List.mem_cons_self ..)
          simp [fill, found, later, filled, Except.map]

end Piece

namespace FormatString

inductive Fault where
  | malformed
  | unbound (name : String)
deriving DecidableEq, Repr

/-- Whether a piece is a character or a hole that holds an identifier and nothing else. -/
def isPlain : Piece → Bool
  | .character _ => true
  | .field name => !name.isEmpty && (Lexeme.checkName name).isOk

/-- Fills the holes of a format string with the values that an environment has for their names. -/
def format (environment : String → Option String) (text : String) : Except Fault String :=
  match read? text.toList with
  | none => .error .malformed
  | some pieces =>
      if pieces.all isPlain then
        match Piece.fill (fun name => (environment (.ofList name)).map String.toList) pieces with
        | .error name => .error (.unbound (.ofList name))
        | .ok filled => .ok (.ofList filled)
      else .error .malformed

/-- A text that has pieces, all of them plain. -/
def IsWellFormed (text : String) : Prop :=
  ∃ pieces, read? text.toList = some pieces ∧ pieces.all isPlain = true

end FormatString

/-! ## Quoted names -/

namespace Identifier

theorem checkName_of_isFit {name : List Char} (fit : IsFit name)
    (ascii : ∀ c ∈ name, Character.IsAscii c) : Lexeme.checkName name = .ok () := by
  rcases List.exists_cons_of_ne_nil fit.nonempty with ⟨c, rest, rfl⟩
  rcases List.forall_mem_cons.mp ascii with ⟨firstAscii, restAscii⟩
  rcases List.forall_mem_cons.mp fit.words with ⟨firstWord, restWords⟩
  have start : Character.mayStartIdentifier c = true :=
    Character.mayStartIdentifier_of_isWord firstAscii firstWord (by simpa using fit.start)
  have goesOn : rest.find? (!Character.mayContinueIdentifier ·) = none := by
    apply List.find?_eq_none.mpr
    intro other member
    simp [Character.mayContinueIdentifier_of_isWord (restAscii other member)
      (restWords other member)]
  simp [Lexeme.checkName, start, goesOn]

end Identifier

namespace Placeholder

variable {name : List Char}

theorem IsName.isAscii (valid : IsName name) : ∀ c ∈ Identifier.quote name, Character.IsAscii c :=
  Identifier.quote_isAscii fun c member =>
    isAscii_of_isNameCharacter (valid.characters c member)

theorem IsName.isPlain (valid : IsName name) :
    FormatString.isPlain (.field (Identifier.quote name)) = true := by
  have fit := Identifier.quote_isFit name
  have checked := Identifier.checkName_of_isFit fit valid.isAscii
  simp [FormatString.isPlain, fit.nonempty, checked, Except.isOk, Except.toBool]

theorem isHole_quote (name : List Char) : FormatString.IsHole (Identifier.quote name) := by
  have fit := Identifier.quote_isFit name
  refine ⟨fit.nonempty, fun c member => ⟨?_, ?_⟩⟩ <;>
    · intro equal
      have word := fit.words c member
      rw [equal] at word
      exact absurd word (by decide)

end Placeholder

/-- The format string of a body reads as the pieces of the body with their names quoted. -/
theorem read?_substitute (body : String) :
    FormatString.read? (substitute body).toList =
      some ((Placeholder.pieces body.toList).map Piece.quoteName) := by
  rw [substitute, String.toList_ofList]
  apply FormatString.read?_write
  intro name member
  rcases List.mem_map.mp member with ⟨piece, -, equal⟩
  cases piece with
  | character c => simp [Piece.quoteName] at equal
  | field original =>
      simp only [Piece.quoteName, Piece.field.injEq] at equal
      exact equal ▸ Placeholder.isHole_quote original

/-! ## Bodies spelled from segments -/

/-- A text with every at sign doubled. -/
def doubleAt (text : List Char) : List Char :=
  text.flatMap fun c => if c = '@' then ['@', '@'] else [c]

/-- A part of a body as its author means it. -/
inductive Segment where
  | literal (text : String)
  | reference (name : String)
deriving DecidableEq, Repr

namespace Segment

/-- A reference needs a name that a placeholder can have. -/
def IsValid : Segment → Prop
  | literal _ => True
  | reference name => Placeholder.IsName name.toList

/-- How a segment is written in a body. -/
def spelling : Segment → List Char
  | literal text => doubleAt text.toList
  | reference name => '@' :: name.toList ++ ['@']

/-- The body that segments spell. -/
def body (segments : List Segment) : String := .ofList (segments.flatMap spelling)

/-- What a segment stands for in an environment. -/
def meaning (environment : String → Option String) : Segment → String
  | literal text => text
  | reference name => (environment (toIdentifier name)).getD ""

def pieces : Segment → List Piece
  | literal text => text.toList.map .character
  | reference name => [.field name.toList]

/-- The scan is back at the start of a piece wherever a text ends, even if at signs follow it. -/
theorem pieces_doubleAt (text rest : List Char) :
    Placeholder.pieces (doubleAt text ++ rest) =
      text.map .character ++ Placeholder.pieces rest := by
  induction text with
  | nil => rfl
  | cons c text induction =>
      by_cases equal : c = '@'
      · subst equal
        have step := Placeholder.pieces_escape (doubleAt text ++ rest)
        rw [induction] at step
        simpa [doubleAt] using step
      · have step := Placeholder.pieces_cons equal (doubleAt text ++ rest)
        rw [induction] at step
        simpa [doubleAt, equal] using step

theorem pieces_spelling {segment : Segment} (valid : segment.IsValid) (rest : List Char) :
    Placeholder.pieces (segment.spelling ++ rest) = segment.pieces ++ Placeholder.pieces rest := by
  cases segment with
  | literal text => exact pieces_doubleAt text.toList rest
  | reference name => simpa [spelling, pieces] using Placeholder.pieces_name valid rest

theorem pieces_flatMap_spelling {segments : List Segment}
    (valid : ∀ segment ∈ segments, segment.IsValid) :
    Placeholder.pieces (segments.flatMap spelling) = segments.flatMap pieces := by
  induction segments with
  | nil => rfl
  | cons segment segments induction =>
      rcases List.forall_mem_cons.mp valid with ⟨first, others⟩
      rw [List.flatMap_cons, List.flatMap_cons, pieces_spelling first, induction others]

theorem mem_of_field_mem_pieces {segments : List Segment} {name : List Char}
    (member : .field name ∈ segments.flatMap pieces) : .reference (.ofList name) ∈ segments := by
  rcases List.mem_flatMap.mp member with ⟨segment, inside, found⟩
  cases segment with
  | literal text => simp [pieces] at found
  | reference original =>
      simp only [pieces, List.mem_singleton, Piece.field.injEq] at found
      rwa [found, String.ofList_toList]

/-- What the pieces of segments are filled to. -/
theorem flatMap_filled_pieces (environment : String → Option String) (segments : List Segment) :
    ((segments.flatMap pieces).map Piece.quoteName).flatMap
        (Piece.filled fun name => ((environment (.ofList name)).getD "").toList) =
      (String.join (segments.map (meaning environment))).toList := by
  rw [String.toList_join, List.flatMap_map, List.flatMap_map, List.flatMap_assoc]
  congr 1
  funext segment
  cases segment with
  | literal text =>
      simp [pieces, meaning, List.flatMap_map, Piece.quoteName, Piece.filled]
  | reference name => simp [pieces, meaning, Piece.quoteName, Piece.filled, toIdentifier]

theorem isPlain_pieces {segments : List Segment} (valid : ∀ segment ∈ segments, segment.IsValid) :
    ((segments.flatMap pieces).map Piece.quoteName).all FormatString.isPlain = true := by
  apply List.all_eq_true.mpr
  intro quoted member
  rcases List.mem_map.mp member with ⟨piece, found, rfl⟩
  cases piece with
  | character c => rfl
  | field name =>
      have named := valid _ (mem_of_field_mem_pieces found)
      rw [IsValid, String.toList_ofList] at named
      exact named.isPlain

theorem read?_substitute_body {segments : List Segment}
    (valid : ∀ segment ∈ segments, segment.IsValid) :
    FormatString.read? (substitute (body segments)).toList =
      some ((segments.flatMap pieces).map Piece.quoteName) := by
  rw [read?_substitute, body, String.toList_ofList, pieces_flatMap_spelling valid]

theorem format_substitute {segments : List Segment}
    (valid : ∀ segment ∈ segments, segment.IsValid) {environment : String → Option String}
    (bound : ∀ name, .reference name ∈ segments → (environment (toIdentifier name)).isSome = true) :
    FormatString.format environment (substitute (body segments)) =
      .ok (String.join (segments.map (meaning environment))) := by
  have filled : Piece.fill (fun name => (environment (.ofList name)).map String.toList)
      ((segments.flatMap pieces).map Piece.quoteName) =
        .ok (((segments.flatMap pieces).map Piece.quoteName).flatMap
          (Piece.filled fun name => ((environment (.ofList name)).getD "").toList)) := by
    apply Piece.fill_of_bound
    intro name member
    rcases List.mem_map.mp member with ⟨piece, found, equal⟩
    cases piece with
    | character c => simp [Piece.quoteName] at equal
    | field original =>
        have present := bound _ (mem_of_field_mem_pieces found)
        simp only [Piece.quoteName, Piece.field.injEq] at equal
        rw [toIdentifier, String.toList_ofList, equal] at present
        rcases Option.isSome_iff_exists.mp present with ⟨value, holds⟩
        simp [holds]
  simp only [FormatString.format, read?_substitute_body valid, isPlain_pieces valid, if_true]
  rw [filled, flatMap_filled_pieces]
  simp only [String.ofList_toList]

end Segment

/-- Every body spelled from texts and references has a format string without fault, which is
formatted to the texts and the values of the references; a text alone is formatted to itself. -/
theorem format_substitute_spelled (segments : List Segment)
    (valid : ∀ segment ∈ segments, segment.IsValid) :
    FormatString.IsWellFormed (substitute (Segment.body segments)) ∧
      (∀ environment : String → Option String,
        (∀ name, .reference name ∈ segments → (environment (toIdentifier name)).isSome = true) →
          FormatString.format environment (substitute (Segment.body segments)) =
            .ok (String.join (segments.map (Segment.meaning environment)))) ∧
      ∀ (text : String) (environment : String → Option String),
        FormatString.format environment (substitute (.ofList (doubleAt text.toList))) =
          .ok text := by
  refine ⟨⟨_, Segment.read?_substitute_body valid, Segment.isPlain_pieces valid⟩, ?_, ?_⟩
  · intro environment bound
    exact Segment.format_substitute valid bound
  · intro text environment
    have valid : ∀ segment ∈ [Segment.literal text], segment.IsValid := by simp [Segment.IsValid]
    have alone : FormatString.format environment (substitute (Segment.body [.literal text])) =
        .ok (String.join ([.literal text].map (Segment.meaning environment))) :=
      Segment.format_substitute valid (by simp)
    simpa [Segment.body, Segment.spelling, Segment.meaning] using alone

/-- At signs of all kinds side by side: a doubled one before a reference, one behind it, and two
references without anything between. -/
def Segment.adjacent : List Segment :=
  [.literal "@", .reference "class", .literal "@\x7b", .reference "1", .reference "n"]

theorem format_substitute_adjacent :
    (∀ segment ∈ Segment.adjacent, segment.IsValid) ∧
      Segment.body Segment.adjacent = "@@@class@@@\x7b@1@@n@" ∧
      FormatString.IsWellFormed (substitute (Segment.body Segment.adjacent)) ∧
      FormatString.format some (substitute (Segment.body Segment.adjacent)) =
        .ok "@class_@\x7b_1n" := by
  have valid : ∀ segment ∈ Segment.adjacent, segment.IsValid := by
    intro segment member
    simp only [Segment.adjacent, List.mem_cons, List.not_mem_nil, or_false] at member
    rcases member with rfl | rfl | rfl | rfl | rfl
    · trivial
    · exact Placeholder.isName_of_all (by decide)
    · trivial
    · exact Placeholder.isName_of_all (by decide)
    · exact Placeholder.isName_of_all (by decide)
  have spelled := format_substitute_spelled Segment.adjacent valid
  have formatted := spelled.2.1 some (fun _ _ => rfl)
  have meant : String.join (Segment.adjacent.map (Segment.meaning some)) =
      "@class_@\x7b_1n" := by
    decide +kernel
  exact ⟨valid, by decide +kernel, spelled.1, meant ▸ formatted⟩

end Stencil
