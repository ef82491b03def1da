import Stencil.Proofs.Template.Declaring
import Stencil.Proofs.Template.Formatting
import Stencil.Proofs.Template.Scan
import Stencil.Template.Compile

/-!
A field and the references to it. Every word can be the name of a field, but a reference holds ASCII
letters, digits and underscores only. A field with any other character in its name is declared, and
what looks like a reference to it stays in the text.
-/

namespace Stencil

/-- A text in which no declaration, no brace and no reference can begin. -/
def IsInert (text : String) : Prop :=
  ∀ c ∈ ['@', ':', '\x7b', '\x7d'], c ∉ text.toList

theorem isInert_of_all {texts : List String}
    (checked : texts.all (fun text =>
      text.toList.all fun c => !List.contains ['@', ':', '\x7b', '\x7d'] c) = true) :
    ∀ text ∈ texts, IsInert text := by
  intro text member c listed inText
  have each := List.all_eq_true.mp (List.all_eq_true.mp checked text member) c inText
  rw [List.contains_iff_mem.mpr listed] at each
  cases each

/-- Texts with a reference to `name` between each two of them. -/
def referringBody (name : String) (texts : List String) : String :=
  ("@" ++ name ++ "@").intercalate texts

/-- A document that declares one field and refers to it. -/
def referringDocument (name type : String) (texts : List String) : String :=
  "\x7b" ++ name ++ ": " ++ type ++ "\x7d\n" ++ referringBody name texts

theorem referringDocument_eq (name type : String) (texts : List String) :
    referringDocument name type texts =
      declaringDocument [⟨name, type⟩] (referringBody name texts) := by
  apply String.toList_injective
  simp [referringDocument, declaringDocument, Field.declaration, joinTexts,
    String.intercalate_singleton]

section Intercalate

variable {α β : Type} {separator : List α} {lists : List (List α)}

theorem mem_intercalate {item : α} (member : item ∈ separator.intercalate lists) :
    item ∈ separator ∨ ∃ list ∈ lists, item ∈ list := by
  induction lists with
  | nil => cases member
  | cons list lists induction =>
      cases lists with
      | nil =>
          rw [List.intercalate_singleton] at member
          exact .inr ⟨list, List.mem_cons_self, member⟩
      | cons next lists =>
          rw [List.intercalate_cons_cons, List.append_assoc] at member
          rcases List.mem_append.mp member with first | behind
          · exact .inr ⟨list, List.mem_cons_self, first⟩
          · rcases List.mem_append.mp behind with between | later
            · exact .inl between
            · rcases induction later with between | ⟨other, listed, inside⟩
              · exact .inl between
              · exact .inr ⟨other, List.mem_cons_of_mem _ listed, inside⟩

theorem flatMap_intercalate (write : α → List β) (separator : List α) (lists : List (List α)) :
    (separator.intercalate lists).flatMap write =
      (separator.flatMap write).intercalate (lists.map (·.flatMap write)) := by
  induction lists with
  | nil => rfl
  | cons list lists induction =>
      cases lists with
      | nil => simp only [List.map_cons, List.map_nil, List.intercalate_singleton]
      | cons next lists =>
          rw [List.map_cons] at induction
          rw [List.map_cons, List.map_cons, List.intercalate_cons_cons, List.intercalate_cons_cons,
            List.flatMap_append, List.flatMap_append, induction]

end Intercalate

theorem notMem_intercalate {c : Char} {separator : String} {texts : List String}
    (notBetween : c ∉ separator.toList) (notInTexts : ∀ text ∈ texts, c ∉ text.toList) :
    c ∉ (separator.intercalate texts).toList := by
  intro member
  rw [String.toList_intercalate] at member
  rcases mem_intercalate member with between | ⟨list, listed, inside⟩
  · exact notBetween between
  · rcases List.mem_map.mp listed with ⟨text, inTexts, rfl⟩
    exact notInTexts text inTexts inside

/-- What is neither at sign nor word character comes from the texts of a body. -/
theorem notMem_referringBody {c : Char} {name : String} {texts : List String}
    (named : Source.IsWord name.toList) (notAt : c ≠ '@') (noWord : Character.isWord c = false)
    (notInTexts : ∀ text ∈ texts, c ∉ text.toList) : c ∉ (referringBody name texts).toList := by
  apply notMem_intercalate _ notInTexts
  have notInName := named.notMem noWord
  simp [notAt, notInName]

/-! ## The header -/

namespace Candidate

theorem scan_of_notMem {text : List Char} (noColon : ':' ∉ text) (before : Before) :
    scan before text = [] := by
  fun_induction scan before text with
  | case1 => rfl
  | case2 => exact absurd List.mem_cons_self noColon
  | case3 before c rest _ induction => exact induction (List.not_mem_of_not_mem_cons noColon)

end Candidate

section Document

variable {name type : String} {texts : List String}

theorem headerFields_referringDocument (named : Source.IsWord name.toList)
    (typed : Source.IsWord type.toList) (inert : ∀ text ∈ texts, IsInert text) :
    headerFields (referringDocument name type texts) = .ok [⟨name, type⟩] := by
  have noColon : ':' ∉ (referringBody name texts).toList :=
    notMem_referringBody named (by decide) (by decide)
      fun text member => inert text member ':' (by decide)
  have noneInBody : headerFields (referringBody name texts) = .ok [] := by
    rw [headerFields_eq, candidates, Candidate.scan_of_notMem noColon]
    rfl
  have writable : ∀ field ∈ [⟨name, type⟩], Field.IsWritable field := by
    simpa using Field.IsWritable.mk named typed
  rw [referringDocument_eq, headerFields_declaringDocument writable, noneInBody]
  rfl

/-! ## The body -/

theorem stripHeader_referringDocument (named : Source.IsWord name.toList)
    (inert : ∀ text ∈ texts, IsInert text) :
    stripHeader (referringDocument name type texts) = referringBody name texts := by
  have noBrace : '\x7d' ∉ (referringBody name texts).toList :=
    notMem_referringBody named (by decide) (by decide)
      fun text member => inert text member '\x7d' (by decide)
  rw [referringDocument_eq]
  exact stripHeader_declaringDocument _ fun inside => noBrace (inside.subset List.mem_cons_self)

theorem compileTemplate_referringDocument (named : Source.IsWord name.toList)
    (typed : Source.IsWord type.toList) (inert : ∀ text ∈ texts, IsInert text)
    (className : String) :
    (compileTemplate (referringDocument name type texts) className false).result =
      .ok ⟨className, [⟨name, type⟩], substitute (referringBody name texts)⟩ := by
  have header := headerFields_referringDocument named typed inert
  have body : stripHeader (referringDocument name type texts) = referringBody name texts :=
    stripHeader_referringDocument named inert
  rw [compileTemplate, header, documentBody, if_neg Bool.false_ne_true, body]
  rfl

end Document

/-! ## References -/

/-- Texts and references to one field by turns. -/
def Segment.referring (name : String) (texts : List String) : List Segment :=
  [.reference name].intercalate (texts.map fun text => [.literal text])

theorem doubleAt_of_notMem {text : List Char} (noAt : '@' ∉ text) : doubleAt text = text := by
  induction text with
  | nil => rfl
  | cons c text induction =>
      rcases List.ne_and_not_mem_of_not_mem_cons noAt with ⟨different, others⟩
      have later := induction others
      rw [doubleAt] at later
      rw [doubleAt, List.flatMap_cons, later, if_neg (Ne.symm different), List.singleton_append]

namespace Segment

variable {name : String} {texts : List String}

theorem mem_referring {segment : Segment} (member : segment ∈ referring name texts) :
    segment = .reference name ∨ ∃ text, segment = .literal text := by
  rcases mem_intercalate member with between | ⟨list, listed, inside⟩
  · exact .inl (List.mem_singleton.mp between)
  · rcases List.mem_map.mp listed with ⟨text, -, rfl⟩
    exact .inr ⟨text, List.mem_singleton.mp inside⟩

theorem body_referring (inert : ∀ text ∈ texts, IsInert text) :
    body (referring name texts) = referringBody name texts := by
  have literals : ∀ text ∈ texts, [literal text].flatMap spelling = text.toList := by
    intro text member
    rw [List.flatMap_singleton, spelling, doubleAt_of_notMem (inert text member '@' (by decide))]
  have reference : [Segment.reference name].flatMap spelling = ("@" ++ name ++ "@").toList := by
    simp [spelling]
  rw [body, referring, flatMap_intercalate, List.map_map, reference, referringBody,
    ← String.toList_inj, String.toList_ofList, String.toList_intercalate]
  exact congrArg _ (List.map_congr_left literals)

theorem join_referring {environment : String → Option String} {value : String}
    (bound : environment (toIdentifier name) = some value) :
    String.join ((referring name texts).map (meaning environment)) = value.intercalate texts := by
  have reference : [Segment.reference name].flatMap (fun segment =>
      (meaning environment segment).toList) = value.toList := by
    simp [meaning, bound]
  rw [← String.toList_inj, String.toList_join, List.flatMap_map, referring, flatMap_intercalate,
    List.map_map, reference, String.toList_intercalate]
  apply congrArg
  apply List.map_congr_left
  intro text _
  exact List.flatMap_singleton _ _

theorem isValid_referring (named : Placeholder.IsName name.toList ∨ texts.length ≤ 1) :
    ∀ segment ∈ referring name texts, segment.IsValid := by
  rcases named with named | short
  · intro segment member
    rcases mem_referring member with rfl | ⟨text, rfl⟩
    · exact named
    · trivial
  · match texts, short with
    | [], _ => exact fun _ member => nomatch member
    | [text], _ =>
        intro segment member
        obtain rfl : segment = .literal text := List.mem_singleton.mp member
        trivial

/-- The value of a field stands in the place of its references if the field has the name of a
placeholder, or no reference at all. -/
theorem format_referring (named : Placeholder.IsName name.toList ∨ texts.length ≤ 1)
    (inert : ∀ text ∈ texts, IsInert text) {environment : String → Option String} {value : String}
    (bound : environment (toIdentifier name) = some value) :
    FormatString.format environment (substitute (referringBody name texts)) =
      .ok (value.intercalate texts) := by
  have isBound : ∀ other, .reference other ∈ referring name texts →
      (environment (toIdentifier other)).isSome = true := by
    intro other member
    rcases mem_referring member with equal | ⟨text, equal⟩
    · cases equal
      rw [bound]
      rfl
    · cases equal
  rw [← body_referring inert, format_substitute (isValid_referring named) isBound,
    join_referring bound]

end Segment

/-! ## Names that no placeholder has -/

/-- Filling a list of pieces fills the tail of it, and keeps what comes of the tail. -/
theorem Piece.fill_cons_eq_ok {value? : List Char → Option (List Char)} {piece : Piece}
    {pieces : List Piece} {filled : List Char} (ok : fill value? (piece :: pieces) = .ok filled) :
    ∃ front later, fill value? pieces = .ok later ∧ filled = front ++ later ∧
      ∀ c, piece = .character c → front = [c] := by
  cases piece with
  | character c =>
      cases found : fill value? pieces with
      | error name =>
          rw [fill, found] at ok
          cases ok
      | ok later =>
          rw [fill, found] at ok
          cases ok
          exact ⟨[c], later, rfl, rfl, fun _ equal => by cases equal; rfl⟩
  | field name =>
      rw [fill] at ok
      split at ok
      · cases ok
      · rename_i value _
        cases found : fill value? pieces with
        | error name =>
            rw [found] at ok
            cases ok
        | ok later =>
            rw [found] at ok
            cases ok
            exact ⟨value, later, rfl, rfl, fun _ equal => by cases equal⟩

theorem Piece.mem_of_fill {value? : List Char → Option (List Char)} {pieces : List Piece}
    {filled : List Char} {c : Char} (ok : fill value? pieces = .ok filled)
    (member : .character c ∈ pieces) : c ∈ filled := by
  induction pieces generalizing filled with
  | nil => cases member
  | cons piece pieces induction =>
      rcases fill_cons_eq_ok ok with ⟨front, later, rest, rfl, single⟩
      rcases List.mem_cons.mp member with equal | behind
      · rw [single c equal.symm]
        exact List.mem_cons_self
      · exact List.mem_append_right front (induction rest behind)

/-- What a format string holds as a character stays in what it is formatted to. -/
theorem FormatString.mem_of_format {environment : String → Option String} {text output : String}
    {pieces : List Piece} {c : Char} (read : read? text.toList = some pieces)
    (member : .character c ∈ pieces) (formatted : format environment text = .ok output) :
    c ∈ output.toList := by
  rw [format, read] at formatted
  simp only at formatted
  split at formatted
  · split at formatted
    · cases formatted
    · rename_i filled
      cases formatted
      rw [String.toList_ofList]
      exact Piece.mem_of_fill filled member
  · cases formatted

namespace Placeholder

/-- An at sign in front of a word that is no name stands for itself. -/
theorem pieces_word {word : List Char} (isWord : Source.IsWord word) (noName : ¬IsName word)
    (rest : List Char) :
    pieces ('@' :: (word ++ '@' :: rest)) = .character '@' :: pieces (word ++ '@' :: rest) := by
  have noAt : '@' ∉ word := isWord.notMem (by decide)
  apply pieces_lone
  · rcases List.exists_cons_of_ne_nil isWord.nonempty with ⟨c, others, rfl⟩
    intro equal
    cases equal
    exact noAt List.mem_cons_self
  · intro name behind named equal
    have run {text : List Char} (free : '@' ∉ text) (later : List Char) :
        (text ++ '@' :: later).takeWhile (· != '@') = text := by
      apply takeWhile_run
      · intro c member
        rw [bne_iff_ne]
        rintro rfl
        exact free member
      · rfl
    have noAtToo : '@' ∉ name := fun member =>
      ne_at_of_isNameCharacter (named.characters '@' member) rfl
    have same : word = name := by rw [← run noAt rest, equal, run noAtToo]
    exact noName (same ▸ named)

end Placeholder

/-- What a body that refers to a field promises: the value of the field stands in the place of each
reference, and no at sign is left. -/
structure IsReplaced (name : String) (texts : List String) (body : String) : Prop where
  formatted : ∀ environment value, environment (toIdentifier name) = some value →
    FormatString.format environment body = .ok (value.intercalate texts)
  noneLeft : ∀ environment value output, environment (toIdentifier name) = some value →
    '@' ∉ value.toList → FormatString.format environment body = .ok output →
      '@' ∉ output.toList

section Replacement

variable {name : String} {texts : List String}

theorem isReplaced_of_named (named : Placeholder.IsName name.toList ∨ texts.length ≤ 1)
    (inert : ∀ text ∈ texts, IsInert text) :
    IsReplaced name texts (substitute (referringBody name texts)) := by
  constructor
  · intro environment value bound
    exact Segment.format_referring named inert bound
  · intro environment value output bound noAt formatted
    rw [Segment.format_referring named inert bound] at formatted
    cases formatted
    exact notMem_intercalate noAt fun text member => inert text member '@' (by decide)

/-- The body begins with its first text and the first reference. -/
theorem exists_toList_referringBody (inert : ∀ text ∈ texts, IsInert text)
    (long : 2 ≤ texts.length) :
    ∃ (first : String) (rest : List Char), (referringBody name texts).toList =
      doubleAt first.toList ++ '@' :: (name.toList ++ '@' :: rest) := by
  rcases texts with _ | ⟨first, _ | ⟨second, others⟩⟩
  · exact absurd long (by decide)
  · exact absurd long (Nat.not_succ_le_self 1)
  · have noAt := inert first List.mem_cons_self '@' (by decide)
    refine ⟨first, ("@" ++ name ++ "@").toList.intercalate
      (second.toList :: others.map String.toList), ?_⟩
    rw [doubleAt_of_notMem noAt, referringBody, String.toList_intercalate, List.map_cons,
      List.map_cons, List.intercalate_cons_cons]
    simp

/-- At signs are left in each output of a body that refers to a field by a word that is no name. -/
theorem at_mem_of_format (named : Source.IsWord name.toList)
    (noName : ¬Placeholder.IsName name.toList) (inert : ∀ text ∈ texts, IsInert text)
    (long : 2 ≤ texts.length) {environment : String → Option String} {output : String}
    (formatted : FormatString.format environment (substitute (referringBody name texts)) =
      .ok output) : '@' ∈ output.toList := by
  rcases exists_toList_referringBody inert long with ⟨first, rest, body⟩
  have read := read?_substitute (referringBody name texts)
  rw [body, Segment.pieces_doubleAt, Placeholder.pieces_word named noName] at read
  apply FormatString.mem_of_format read _ formatted
  simp [Piece.quoteName]

/-- Every word is accepted as the name of a field, but references to the field are replaced only if
its name is one that a placeholder can have. -/
theorem isReplaced_iff {type : String} (named : Source.IsWord name.toList)
    (typed : Source.IsWord type.toList) (inert : ∀ text ∈ texts, IsInert text)
    (className : String) :
    ∃ template,
      (compileTemplate (referringDocument name type texts) className false).result = .ok template ∧
      template.fields = [⟨name, type⟩] ∧
      (IsReplaced name texts template.body ↔
        Placeholder.IsName name.toList ∨ texts.length ≤ 1) ∧
      (¬Placeholder.IsName name.toList → 2 ≤ texts.length → ∀ environment output,
        FormatString.format environment template.body = .ok output → '@' ∈ output.toList) := by
  refine ⟨_, compileTemplate_referringDocument named typed inert className, rfl, ?_, ?_⟩
  · constructor
    · intro replaced
      by_contra neither
      rw [not_or, Nat.not_le] at neither
      -- With no text for a value, nothing but the body itself could have an at sign.
      have formatted := replaced.formatted (fun _ => some "") "" rfl
      have left := at_mem_of_format named neither.1 inert neither.2 formatted
      have noneLeft : '@' ∉ ("".intercalate texts).toList :=
        notMem_intercalate List.not_mem_nil fun text member => inert text member '@' (by decide)
      exact noneLeft left
    · intro isName
      exact isReplaced_of_named isName inert
  · intro noName long environment output formatted
    exact at_mem_of_format named noName inert long formatted

end Replacement

/-- A keyword as a name: its field is quoted, and so are the references to it. -/
theorem isReplaced_keyword :
    ∃ template,
      (compileTemplate "\x7bclass: str\x7d\na@class@b@class@" "Page" false).result =
        .ok template ∧
      template.body = "a\x7bclass_\x7db\x7bclass_\x7d" ∧
      IsReplaced "class" ["a", "b", ""] template.body := by
  have document : referringDocument "class" "str" ["a", "b", ""] =
      "\x7bclass: str\x7d\na@class@b@class@" := by
    decide +kernel
  have named : Source.IsWord "class".toList := Source.isWord_of_all (by decide +kernel)
  have typed : Source.IsWord "str".toList := Source.isWord_of_all (by decide +kernel)
  have inert : ∀ text ∈ ["a", "b", ""], IsInert text := isInert_of_all (by decide +kernel)
  have isName : Placeholder.IsName "class".toList := Placeholder.isName_of_all (by decide +kernel)
  rcases isReplaced_iff named typed inert "Page" with ⟨template, compiled, _, replaced, _⟩
  rw [document] at compiled
  have body : (compileTemplate "\x7bclass: str\x7d\na@class@b@class@" "Page" false).result.map
      TemplateClass.body = .ok "a\x7bclass_\x7db\x7bclass_\x7d" := by
    decide +kernel
  rw [compiled] at body
  exact ⟨template, compiled, Except.ok.inj body, replaced.mpr (.inl isName)⟩

/-- A name with an accent is a word and no name of a placeholder. -/
theorem not_isReplaced_accentedName :
    Source.IsWord "é".toList ∧ Source.IsWord "str".toList ∧ (∀ text ∈ ["", ""], IsInert text) ∧
      referringDocument "é" "str" ["", ""] = "\x7bé: str\x7d\n@é@" ∧
      (compileTemplate "\x7bé: str\x7d\n@é@" "Page" false).result =
        .ok ⟨"Page", [⟨"é", "str"⟩], "@é@"⟩ ∧
      ¬IsReplaced "é" ["", ""] "@é@" := by
  refine ⟨Source.isWord_of_all (by decide +kernel), Source.isWord_of_all (by decide +kernel),
    isInert_of_all (by decide +kernel), by decide +kernel, by decide +kernel, ?_⟩
  intro replaced
  have formatted := replaced.formatted (fun _ => some "v") "v" rfl
  have different : FormatString.format (fun _ => some "v") "@é@" ≠
      .ok ("v".intercalate ["", ""]) := by
    decide +kernel
  exact different formatted

end Stencil
