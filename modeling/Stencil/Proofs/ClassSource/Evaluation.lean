import Stencil.Proofs.ClassSource.Loading
import Stencil.Proofs.Template.Formatting
import Stencil.Proofs.Template.Scan

/-!
Evaluation of body literals. A formatted literal has layers: its quotes, the braces between them,
and the escapes in the text between the braces. Whatever the body, its literal is one line that can
be read layer by layer, and it evaluates to what its format string is formatted to.
-/

namespace Stencil.BodyLiteral

/-! ## Layers -/

/-- What stands between the braces of a literal: text in which the escapes are not read yet, or the
name in a hole. -/
inductive Part where
  | text (raw : List Char)
  | hole (name : List Char)
deriving DecidableEq, Repr

/-- The inside of a literal, which ends at the first quote that no backslash stands before. That
quote must be the last character, and no line may end before it. -/
def inside? (quote : Char) : List Char → Option (List Char)
  | [] => none
  | '\\' :: c :: rest => (inside? quote rest).map fun raw => '\\' :: c :: raw
  | c :: rest =>
      if c == quote then if rest.isEmpty then some [] else none
      else if c == '\n' then none
      else (inside? quote rest).map (c :: ·)

/-- Adds raw text at the front of the first part. -/
def extendText (raw : List Char) : List Part → List Part
  | .text behind :: later => .text (raw ++ behind) :: later
  | parts => .text raw :: parts

/-- The parts of the inside of a literal; the first `skip` characters belong to a part already read.
A backslash takes the next character with it, but it does not guard a brace, and the name of a
character behind it is not understood. A text ends with the brace that two of a kind stand for. -/
def partsAfter? (skip : Nat) : List Char → Option (List Part)
  | [] => some []
  | c :: rest =>
      match skip with
      | skip + 1 => partsAfter? skip rest
      | 0 =>
          if c == '{' then
            if rest.head? == some '{' then (partsAfter? 1 rest).map (.text ['{'] :: ·)
            else
              let name := rest.takeWhile fun c => c != '{' && c != '}'
              if (rest.drop name.length).head? == some '}' && !name.isEmpty then
                (partsAfter? (name.length + 1) rest).map (.hole name :: ·)
              else none
          else if c == '}' then
            if rest.head? == some '}' then (partsAfter? 1 rest).map (.text ['}'] :: ·)
            else none
          else if c == '\\' then
            match rest.head? with
            | none => none
            | some next =>
                if next == 'N' then none
                else if next == '{' || next == '}' then
                  (partsAfter? 0 rest).map (extendText [c])
                else (partsAfter? 1 rest).map (extendText [c, next])
          else (partsAfter? 0 rest).map (extendText [c])

/-- Raw text with its escapes read; the first `skip` characters belong to an escape already read. -/
def unescapeAfter? (skip : Nat) : List Char → Option (List Char)
  | [] => some []
  | c :: rest =>
      match skip with
      | skip + 1 => unescapeAfter? skip rest
      | 0 =>
          if c == '\\' then
            match escaped? rest with
            | none => none
            | some (value, length) => (unescapeAfter? length rest).map (value :: ·)
          else (unescapeAfter? 0 rest).map (c :: ·)

def Part.pieces? : Part → Option (List Piece)
  | text raw => (unescapeAfter? 0 raw).map (·.map .character)
  | hole name => some [.field name]

def partPieces? : List Part → Option (List Piece)
  | [] => some []
  | part :: later => part.pieces?.bind fun first => (partPieces? later).map (first ++ ·)

/-- The pieces of the inside of a literal. -/
def readInside? (raw : List Char) : Option (List Piece) :=
  (partsAfter? 0 raw).bind partPieces?

/-- The pieces of a formatted literal, read layer by layer. -/
def readLayers? : List Char → Option (List Piece)
  | 'f' :: quote :: rest =>
      if quote == '\'' || quote == '"' then (inside? quote rest).bind readInside? else none
  | _ => none

/-! ## Values -/

/-- Whether a piece is a character or a hole that holds a name and nothing else. A keyword is no
name. -/
def isNamed : Piece → Bool
  | .character _ => true
  | .field name =>
      !name.isEmpty && (Lexeme.checkName name).isOk &&
        !Identifier.keywords.any (·.toList == name)

/-- The text that a formatted literal evaluates to where names are bound as an environment says.
Names are looked up in their normal form. -/
def evaluate (environment : String → Option String) (literal : String) :
    Except FormatString.Fault String :=
  match readLayers? literal.toList with
  | none => .error .malformed
  | some pieces =>
      if pieces.all isNamed then
        let value? (name : List Char) : Option (List Char) :=
          (environment (Compatibility.normalForm (.ofList name))).map String.toList
        match Piece.fill value? pieces with
        | .error name => .error (.unbound (.ofList name))
        | .ok filled => .ok (.ofList filled)
      else .error .malformed

/-- A backslash at the end of a text, before a brace, and before a letter that would make it an
escape. -/
example : readLayers? (bodyLiteral "\\\x7b\x7b\\N\x7b\x7b\\x\x7bb\x7dé\n").toList =
    some ("\\\x7b\\N\x7b\\x".toList.map .character ++ [.field ['b']] ++
      "é\n".toList.map .character) := by
  decide +kernel

/-! ## Escapes in each layer -/

theorem exists_of_mem_hexDigits {width value : Nat} {d : Char}
    (member : d ∈ Quoted.hexDigits width value) : ∃ digit < 16, d = Quoted.hexDigit digit := by
  induction width generalizing value with
  | zero => cases member
  | succ width induction =>
      rw [Quoted.hexDigits, List.mem_append, List.mem_singleton] at member
      rcases member with before | last
      · exact induction before
      · exact ⟨value % 16, Nat.mod_lt _ (by decide), last⟩

/-- A character that every layer of a literal leaves as it is. -/
structure IsInert (c : Char) : Prop where
  noQuote : c ≠ '\'' ∧ c ≠ '"'
  noSlash : c ≠ '\\'
  noFeed : c ≠ '\n'
  noBrace : c ≠ '\x7b' ∧ c ≠ '\x7d'

theorem isInert_hexDigit {digit : Nat} (bound : digit < 16) : IsInert (Quoted.hexDigit digit) := by
  have checked : ∀ digit < 16, (Quoted.hexDigit digit ≠ '\'' ∧ Quoted.hexDigit digit ≠ '"') ∧
      Quoted.hexDigit digit ≠ '\\' ∧ Quoted.hexDigit digit ≠ '\n' ∧
      Quoted.hexDigit digit ≠ '\x7b' ∧ Quoted.hexDigit digit ≠ '\x7d' := by decide
  rcases checked digit bound with ⟨noQuote, noSlash, noFeed, noBrace⟩
  exact ⟨noQuote, noSlash, noFeed, noBrace⟩

/-- Behind the sign of an escape there are only digits. -/
theorem isInert_of_mem_escape {quote c d : Char} (member : d ∈ (Quoted.escape quote c).drop 2) :
    IsInert d := by
  have digits {width : Nat} (member : d ∈ Quoted.hexDigits width c.toNat) : IsInert d := by
    rcases exists_of_mem_hexDigits member with ⟨digit, bound, rfl⟩
    exact isInert_hexDigit bound
  rw [Quoted.escape] at member
  repeat' split at member
  all_goals first
    | exact digits member
    | cases member

section Escape

variable {quote : Char} (isQuote : Quoted.IsQuote quote)

include isQuote

/-- A character stands for itself, or it is written as a backslash, a sign and digits. -/
theorem escape_form (c : Char) :
    (Quoted.escape quote c = [c] ∧ c ≠ quote ∧ c ≠ '\\' ∧ c ≠ '\n') ∨
      ∃ sign digits, Quoted.escape quote c = '\\' :: sign :: digits ∧ sign ≠ 'N' ∧
        (sign ≠ '\x7b' ∧ sign ≠ '\x7d') ∧ (∀ d ∈ digits, IsInert d) ∧
        ∀ rest, escaped? (sign :: digits ++ rest) = some (c, (sign :: digits).length) := by
  rcases Quoted.escape_cases isQuote c with plain | ⟨code, written, read⟩
  · exact .inl plain
  · cases code with
    | nil => cases read []
    | cons sign digits =>
        have inert : ∀ d ∈ digits, IsInert d := by
          intro d member
          apply @isInert_of_mem_escape quote c
          rw [written]
          exact member
        refine .inr ⟨sign, digits, written, ?_, ⟨?_, ?_⟩, inert, read⟩
        all_goals
          rintro rfl
          cases read []

omit isQuote in
theorem inside?_cons {c : Char} (noQuote : c ≠ quote) (noSlash : c ≠ '\\') (noFeed : c ≠ '\n')
    (rest : List Char) : inside? quote (c :: rest) = (inside? quote rest).map (c :: ·) := by
  rw [inside?]
  · simp [noQuote, noFeed]
  · rintro next behind rfl
    exact absurd rfl noSlash

theorem inside?_inert {digits : List Char} (inert : ∀ d ∈ digits, IsInert d) (rest : List Char) :
    inside? quote (digits ++ rest) = (inside? quote rest).map (digits ++ ·) := by
  induction digits with
  | nil => simp
  | cons d digits induction =>
      rcases List.forall_mem_cons.mp inert with ⟨first, others⟩
      have noQuote : d ≠ quote := by
        rcases isQuote with rfl | rfl
        · exact first.noQuote.1
        · exact first.noQuote.2
      rw [List.cons_append, inside?_cons noQuote first.noSlash first.noFeed, induction others,
        Option.map_map]
      rfl

theorem inside?_escape (c : Char) (rest : List Char) :
    inside? quote (Quoted.escape quote c ++ rest) =
      (inside? quote rest).map (Quoted.escape quote c ++ ·) := by
  rcases escape_form isQuote c with
    ⟨plain, noQuote, noSlash, noFeed⟩ | ⟨sign, digits, written, _, _, inert, _⟩
  · rw [plain, List.singleton_append, inside?_cons noQuote noSlash noFeed]
    rfl
  · rw [written, List.cons_append, List.cons_append, inside?, inside?_inert isQuote inert,
      Option.map_map]
    rfl

/-- No escape ends a literal, so the quotes stand around what was escaped. -/
theorem inside?_escaped (text : List Char) :
    inside? quote (text.flatMap (Quoted.escape quote) ++ [quote]) =
      some (text.flatMap (Quoted.escape quote)) := by
  induction text with
  | nil =>
      rcases isQuote with rfl | rfl <;> rfl
  | cons c text induction =>
      rw [List.flatMap_cons, List.append_assoc, inside?_escape isQuote, induction]
      rfl

end Escape

/-! ## Braces -/

theorem extendText_extendText (front behind : List Char) (parts : List Part) :
    extendText front (extendText behind parts) = extendText (front ++ behind) parts := by
  cases parts with
  | nil => rfl
  | cons part later =>
      cases part with
      | text raw => simp [extendText]
      | hole name => rfl

theorem partsAfter?_append (read rest : List Char) :
    partsAfter? read.length (read ++ rest) = partsAfter? 0 rest := by
  induction read with
  | nil => rfl
  | cons c read induction => exact induction

theorem partsAfter?_cons {c : Char} (noSlash : c ≠ '\\') (noBrace : c ≠ '\x7b' ∧ c ≠ '\x7d')
    (rest : List Char) :
    partsAfter? 0 (c :: rest) = (partsAfter? 0 rest).map (extendText [c]) := by
  simp [partsAfter?, noSlash, noBrace]

theorem partsAfter?_inert {digits : List Char} (inert : ∀ d ∈ digits, IsInert d)
    (front rest : List Char) :
    (partsAfter? 0 (digits ++ rest)).map (extendText front) =
      (partsAfter? 0 rest).map (extendText (front ++ digits)) := by
  induction digits generalizing front with
  | nil => simp
  | cons d digits induction =>
      rcases List.forall_mem_cons.mp inert with ⟨first, others⟩
      have longer := induction others (front ++ [d])
      rw [List.append_assoc, List.singleton_append] at longer
      rw [List.cons_append, partsAfter?_cons first.noSlash first.noBrace, Option.map_map, ← longer]
      congr 1
      funext parts
      exact extendText_extendText front [d] parts

section Braces

variable {quote : Char} (isQuote : Quoted.IsQuote quote)

include isQuote

theorem partsAfter?_escape {c : Char} (noBrace : c ≠ '\x7b' ∧ c ≠ '\x7d') (rest : List Char) :
    partsAfter? 0 (Quoted.escape quote c ++ rest) =
      (partsAfter? 0 rest).map (extendText (Quoted.escape quote c)) := by
  rcases escape_form isQuote c with
    ⟨plain, _, noSlash, _⟩ | ⟨sign, digits, written, noName, signBrace, inert, _⟩
  · rw [plain, List.singleton_append, partsAfter?_cons noSlash noBrace]
  · have skipped := partsAfter?_append [sign] (digits ++ rest)
    have signed : partsAfter? 0 ('\\' :: sign :: (digits ++ rest)) =
        (partsAfter? 0 (digits ++ rest)).map (extendText ['\\', sign]) := by
      rw [← skipped]
      simp [partsAfter?, noName, signBrace]
    rw [written, List.cons_append, List.cons_append, signed, partsAfter?_inert inert]
    rfl

theorem unescapeAfter?_escape (c : Char) (rest : List Char) :
    unescapeAfter? 0 (Quoted.escape quote c ++ rest) =
      (unescapeAfter? 0 rest).map (c :: ·) := by
  have skips (read rest : List Char) :
      unescapeAfter? read.length (read ++ rest) = unescapeAfter? 0 rest := by
    induction read with
    | nil => rfl
    | cons c read induction => exact induction
  rcases Quoted.escape_cases isQuote c with ⟨plain, _, noSlash, _⟩ | ⟨code, written, read⟩
  · rw [plain, List.singleton_append, unescapeAfter?]
    simp [noSlash]
  · rw [written, List.cons_append, unescapeAfter?]
    simp [read rest, skips]

/-- Text at the front of the parts is text at the front of the pieces. -/
theorem partPieces?_extendText (c : Char) (parts : List Part) :
    partPieces? (extendText (Quoted.escape quote c) parts) =
      (partPieces? parts).map (.character c :: ·) := by
  have alone := unescapeAfter?_escape isQuote c []
  rw [List.append_nil] at alone
  have fresh (parts : List Part) : partPieces? (.text (Quoted.escape quote c) :: parts) =
      (partPieces? parts).map (.character c :: ·) := by
    simp [partPieces?, Part.pieces?, alone, unescapeAfter?]
  cases parts with
  | nil => exact fresh []
  | cons part later =>
      cases part with
      | hole name => exact fresh (.hole name :: later)
      | text raw =>
          simp only [extendText, partPieces?, Part.pieces?, unescapeAfter?_escape isQuote]
          cases unescapeAfter? 0 raw with
          | none => rfl
          | some read => cases partPieces? later <;> rfl

theorem readInside?_escape {c : Char} (noBrace : c ≠ '\x7b' ∧ c ≠ '\x7d') (rest : List Char) :
    readInside? (Quoted.escape quote c ++ rest) =
      (readInside? rest).map (.character c :: ·) := by
  rw [readInside?, readInside?, partsAfter?_escape isQuote noBrace]
  cases partsAfter? 0 rest with
  | none => rfl
  | some parts => exact partPieces?_extendText isQuote c parts

end Braces

theorem readInside?_brace {c : Char} (brace : c = '\x7b' ∨ c = '\x7d') (rest : List Char) :
    readInside? (c :: c :: rest) = (readInside? rest).map (.character c :: ·) := by
  have skipped := partsAfter?_append [c] rest
  have parted : partsAfter? 0 (c :: c :: rest) = (partsAfter? 0 rest).map (.text [c] :: ·) := by
    rcases brace with rfl | rfl <;> simp_all [partsAfter?]
  have single : unescapeAfter? 0 [c] = some [c] := by
    rcases brace with rfl | rfl <;> rfl
  rw [readInside?, readInside?, parted]
  cases partsAfter? 0 rest with
  | none => rfl
  | some parts => simp [partPieces?, Part.pieces?, single]

theorem readInside?_hole {name : List Char} (hole : FormatString.IsHole name) (rest : List Char) :
    readInside? ('\x7b' :: (name ++ '\x7d' :: rest)) =
      (readInside? rest).map (.field name :: ·) := by
  have inner := FormatString.takeWhile_noBrace hole.noBrace rest
  have skipped := partsAfter?_append (name ++ ['\x7d']) rest
  have parted : partsAfter? 0 ('\x7b' :: (name ++ '\x7d' :: rest)) =
      (partsAfter? 0 rest).map (.hole name :: ·) := by
    rcases List.exists_cons_of_ne_nil hole.nonempty with ⟨c, others, rfl⟩
    have noEscape : c ≠ '\x7b' := (hole.noBrace c List.mem_cons_self).1
    simp only [List.cons_append, List.append_assoc, List.nil_append] at inner skipped ⊢
    rw [partsAfter?]
    simp only [inner]
    simpa [noEscape] using congrArg (Option.map (Part.hole (c :: others) :: ·)) skipped
  rw [readInside?, readInside?, parted]
  cases partsAfter? 0 rest with
  | none => rfl
  | some parts => simp [partPieces?, Part.pieces?]

/-! ## Literals of bodies -/

theorem IsHole.noBrace {name : List Char} (hole : IsHole name) : FormatString.IsHole name :=
  ⟨hole.nonempty, fun c member =>
    (plain_of_isWord (hole.ascii c member) (hole.words c member) (.inl rfl)).2⟩

theorem readInside?_writePiece {quote : Char} (isQuote : Quoted.IsQuote quote) {piece : Piece}
    (holes : ∀ name, piece = .field name → IsHole name) (rest : List Char) :
    readInside? ((FormatString.writePiece piece).flatMap (Quoted.escape quote) ++ rest) =
      (readInside? rest).map (piece :: ·) := by
  have braces : Quoted.escape quote '\x7b' = ['\x7b'] ∧ Quoted.escape quote '\x7d' = ['\x7d'] := by
    rcases isQuote with rfl | rfl <;> decide
  cases piece with
  | character c =>
      by_cases brace : c = '\x7b' ∨ c = '\x7d'
      · have doubled : (FormatString.writePiece (.character c)).flatMap (Quoted.escape quote) =
            [c, c] := by
          rcases brace with rfl | rfl <;> simp [FormatString.writePiece, braces]
        rw [doubled]
        exact readInside?_brace brace rest
      · simpa [FormatString.writePiece, brace] using
          readInside?_escape isQuote (not_or.mp brace) rest
  | field name =>
      have hole := holes name rfl
      have written : (FormatString.writePiece (.field name)).flatMap (Quoted.escape quote) =
          '\x7b' :: (name ++ ['\x7d']) := by
        simp [FormatString.writePiece, braces, hole.flatMap_escape isQuote]
      rw [written]
      simpa using readInside?_hole hole.noBrace rest

/-- Layer by layer, a body's literal reads as the pieces that the body was written from. -/
theorem readLayers?_bodyLiteral {pieces : List Piece}
    (holes : ∀ name, .field name ∈ pieces → IsHole name) :
    readLayers? (bodyLiteral (.ofList (FormatString.write pieces))).toList = some pieces := by
  have inner {quote : Char} (isQuote : Quoted.IsQuote quote) :
      readInside? ((FormatString.write pieces).flatMap (Quoted.escape quote)) = some pieces := by
    induction pieces with
    | nil => rfl
    | cons piece pieces induction =>
        have first : ∀ name, piece = .field name → IsHole name :=
          fun name equal => holes name (equal ▸ List.mem_cons_self)
        have others := induction fun name member => holes name (List.mem_cons_of_mem _ member)
        rw [FormatString.write, List.flatMap_cons, List.flatMap_append,
          readInside?_writePiece isQuote first, ← FormatString.write, others]
        rfl
  have isQuote := Quoted.isQuote_quoteFor (FormatString.write pieces)
  have text : (bodyLiteral (.ofList (FormatString.write pieces))).toList =
      'f' :: Quoted.encode (FormatString.write pieces) := by
    simp [bodyLiteral, Quoted.literal]
  rw [text, Quoted.encode, List.cons_append, readLayers?, inside?_escaped isQuote,
    Option.bind_some, inner isQuote]
  rcases isQuote with equal | equal <;> simp [equal]

/-- The names in the holes of a format string are names of the language too. -/
theorem isNamed_quoteName {body : List Char} {piece : Piece}
    (member : piece ∈ (Placeholder.pieces body).map Piece.quoteName) :
    isNamed piece = true ∧ ∀ name, piece = .field name → IsHole name := by
  rcases List.mem_map.mp member with ⟨original, listed, rfl⟩
  cases original with
  | character c => exact ⟨rfl, fun name absurdity => nomatch absurdity⟩
  | field name =>
      have valid := (Placeholder.scan_pieces body).isName name listed
      have fit := Identifier.quote_isFit name
      have checked := Identifier.checkName_of_isFit fit valid.isAscii
      have noKeyword : Identifier.keywords.any (·.toList == Identifier.quote name) = false := by
        have free := fit.free
        rw [Identifier.isTaken, List.any_append, Bool.or_eq_false_iff] at free
        exact free.1
      constructor
      · simp [Piece.quoteName, isNamed, fit.nonempty, checked, Except.isOk, Except.toBool,
          noKeyword]
      · intro quoted equal
        cases equal
        exact ⟨fit.nonempty, fit.words, valid.isAscii⟩

theorem fill_congr {value? other? : List Char → Option (List Char)} {pieces : List Piece}
    (same : ∀ name, .field name ∈ pieces → value? name = other? name) :
    Piece.fill value? pieces = Piece.fill other? pieces := by
  induction pieces with
  | nil => rfl
  | cons piece pieces induction =>
      have later := induction fun name member => same name (List.mem_cons_of_mem _ member)
      cases piece with
      | character c => simp only [Piece.fill, later]
      | field name => simp only [Piece.fill, same name List.mem_cons_self, later]

theorem isPlain_of_isNamed {piece : Piece} (named : isNamed piece = true) :
    FormatString.isPlain piece = true := by
  cases piece with
  | character c => rfl
  | field name =>
      rw [isNamed, Bool.and_eq_true] at named
      exact named.1

/-- Whatever the body, its literal is read layer by layer as the pieces of its format string, with a
name in every hole. So it evaluates under every environment to what the format string is formatted
to, the first name that is unbound included. No line ends in it. -/
theorem evaluate_bodyLiteral (body : String) :
    (∃ pieces, readLayers? (bodyLiteral (substitute body)).toList = some pieces ∧
      read? (bodyLiteral (substitute body)).toList = some pieces ∧
      FormatString.read? (substitute body).toList = some pieces ∧
      ∀ piece ∈ pieces, isNamed piece = true) ∧
    (∀ environment : String → Option String,
      evaluate environment (bodyLiteral (substitute body)) =
        FormatString.format environment (substitute body)) ∧
    ∀ c ∈ (bodyLiteral (substitute body)).toList, Character.endsLine c = false := by
  have holes : ∀ name, .field name ∈ (Placeholder.pieces body.toList).map Piece.quoteName →
      IsHole name := fun name member => (isNamed_quoteName member).2 name rfl
  have layers := readLayers?_bodyLiteral holes
  rw [← substitute] at layers
  have formatted := read?_substitute body
  have named : ∀ piece ∈ (Placeholder.pieces body.toList).map Piece.quoteName,
      isNamed piece = true := fun piece member => (isNamed_quoteName member).1
  refine ⟨⟨_, layers, read?_bodyLiteral holes, formatted, named⟩, ?_, ?_⟩
  · intro environment
    have allNamed := List.all_eq_true.mpr named
    have allPlain := List.all_eq_true.mpr fun piece member =>
      isPlain_of_isNamed (named piece member)
    have sameValues : ∀ name, .field name ∈ (Placeholder.pieces body.toList).map Piece.quoteName →
        (environment (Compatibility.normalForm (.ofList name))).map String.toList =
          (environment (.ofList name)).map String.toList := by
      intro name member
      rw [normalForm_of_ascii (by simpa using (holes name member).ascii)]
    cases filled : Piece.fill (fun name => (environment (.ofList name)).map String.toList)
        ((Placeholder.pieces body.toList).map Piece.quoteName) with
    | error name =>
        simp only [evaluate, layers, allNamed, FormatString.format, formatted, allPlain, if_true,
          fill_congr sameValues, filled]
    | ok text =>
        simp only [evaluate, layers, allNamed, FormatString.format, formatted, allPlain, if_true,
          fill_congr sameValues, filled]
  · have text : (bodyLiteral (substitute body)).toList =
        'f' :: Quoted.encode (substitute body).toList := by
      simp [bodyLiteral, Quoted.literal]
    have oneLine : IsOneLine ['f'] := by decide
    rw [text]
    exact oneLine.append (Quoted.isOneLine_encode _)

end Stencil.BodyLiteral
