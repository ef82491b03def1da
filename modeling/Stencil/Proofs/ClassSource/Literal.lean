import Mathlib.Algebra.Group.Nat.Defs
import Stencil.ClassSource.Emit
import Stencil.ClassSource.Literal
import Stencil.Proofs.Template.Placeholder
import Stencil.Proofs.Text.Lines

/-!
Reading of what quoting wrote. Every escape is read back as the character that it stands for, so a
quoted literal reads as its text, and the literal of a body as the pieces of the body.
-/

namespace Stencil

namespace Quoted

/-! ## Escapes -/

theorem length_hexDigits (width value : Nat) : (hexDigits width value).length = width := by
  induction width generalizing value with
  | zero => rfl
  | succ width induction => simp [hexDigits, induction]

theorem hexValue?_hexDigit {digit : Nat} (bound : digit < 16) :
    BodyLiteral.hexValue? (hexDigit digit) = some digit :=
  (by decide : ∀ digit < 16, BodyLiteral.hexValue? (hexDigit digit) = some digit) digit bound

theorem foldl_hexDigits (width value : Nat) :
    (hexDigits width value).foldl
        (fun code? digit => do return (← code?) * 16 + (← BodyLiteral.hexValue? digit)) (some 0) =
      some (value % 16 ^ width) := by
  induction width generalizing value with
  | zero => simp [hexDigits, Nat.mod_one]
  | succ width induction =>
      rw [hexDigits, List.foldl_append, induction]
      have last : BodyLiteral.hexValue? (hexDigit (value % 16)) = some (value % 16) :=
        hexValue?_hexDigit (Nat.mod_lt _ (by decide))
      have whole : value / 16 % 16 ^ width * 16 + value % 16 = value % 16 ^ (width + 1) := by
        rw [Nat.pow_succ, Nat.mul_comm (16 ^ width) 16, Nat.mod_mul]
        omega
      simp [last, whole]

theorem codeAt?_hexDigits {width : Nat} {c : Char} (bound : c.toNat < 16 ^ width)
    (rest : List Char) :
    BodyLiteral.codeAt? width (hexDigits width c.toNat ++ rest) = some c := by
  have digits : (hexDigits width c.toNat ++ rest).take width = hexDigits width c.toNat := by
    simp [length_hexDigits]
  rw [BodyLiteral.codeAt?]
  simp only [digits, length_hexDigits, Nat.lt_irrefl, if_false, foldl_hexDigits,
    Nat.mod_eq_of_lt bound, Option.map_some, Char.ofNat_toNat]

theorem toNat_lt (c : Char) : c.toNat < 16 ^ 8 := by
  have valid := c.valid
  simp only [UInt32.isValidChar, Nat.isValidChar] at valid
  show c.val.toNat < _
  omega

/-- A quote that a literal may have. -/
def IsQuote (quote : Char) : Prop := quote = '\'' ∨ quote = '"'

theorem isQuote_quoteFor (text : List Char) : IsQuote (quoteFor text) := by
  rw [quoteFor]
  split
  · exact .inr rfl
  · exact .inl rfl

/-- The letters after a backslash that announce the code of a character, with its digits. -/
def IsCodeSign (sign : Char) (width : Nat) : Prop :=
  (sign = 'x' ∧ width = 2) ∨ (sign = 'u' ∧ width = 4) ∨ (sign = 'U' ∧ width = 8)

theorem escaped?_code {sign : Char} {width : Nat} (known : IsCodeSign sign width) {c : Char}
    (bound : c.toNat < 16 ^ width) (rest : List Char) :
    BodyLiteral.escaped? (sign :: hexDigits width c.toNat ++ rest) =
      some (c, (sign :: hexDigits width c.toNat).length) := by
  have read := codeAt?_hexDigits bound rest
  rcases known with ⟨rfl, rfl⟩ | ⟨rfl, rfl⟩ | ⟨rfl, rfl⟩ <;>
    simp [BodyLiteral.escaped?, read, length_hexDigits]

/-- A character stands for itself in a literal or is written as an escape that reads as it. -/
theorem escape_cases {quote : Char} (isQuote : IsQuote quote) (c : Char) :
    (escape quote c = [c] ∧ c ≠ quote ∧ c ≠ '\\' ∧ c ≠ '\n') ∨
      ∃ code, escape quote c = '\\' :: code ∧
        ∀ rest, BodyLiteral.escaped? (code ++ rest) = some (c, code.length) := by
  by_cases guarded : c = quote ∨ c = '\\'
  · right
    refine ⟨[c], by simp [escape, guarded], fun rest => ?_⟩
    rcases isQuote with rfl | rfl <;> rcases guarded with rfl | rfl <;>
      simp [BodyLiteral.escaped?]
  rcases not_or.mp guarded with ⟨noQuote, noSlash⟩
  by_cases feed : c = '\n'
  · subst feed
    exact .inr ⟨['n'], by simp [escape, noQuote], fun rest => by simp [BodyLiteral.escaped?]⟩
  by_cases back : c = '\r'
  · subst back
    exact .inr ⟨['r'], by simp [escape, noQuote], fun rest => by simp [BodyLiteral.escaped?]⟩
  by_cases tab : c = '\t'
  · subst tab
    exact .inr ⟨['t'], by simp [escape, noQuote], fun rest => by simp [BodyLiteral.escaped?]⟩
  by_cases printable : Character.isPrintable c = true
  · exact .inl ⟨by simp [escape, guarded, feed, back, tab, printable], noQuote, noSlash, feed⟩
  have coded {sign : Char} {width : Nat} (known : IsCodeSign sign width)
      (bound : c.toNat < 16 ^ width)
      (written : escape quote c = '\\' :: sign :: hexDigits width c.toNat) :
      ∃ code, escape quote c = '\\' :: code ∧
        ∀ rest, BodyLiteral.escaped? (code ++ rest) = some (c, code.length) :=
    ⟨_, written, escaped?_code known bound⟩
  right
  by_cases small : c.toNat < 0x100
  · apply coded (.inl ⟨rfl, rfl⟩) small
    simp [escape, guarded, feed, back, tab, printable, small]
  by_cases medium : c.toNat < 0x10000
  · apply coded (.inr (.inl ⟨rfl, rfl⟩)) medium
    simp [escape, guarded, feed, back, tab, printable, small, medium]
  · apply coded (.inr (.inr ⟨rfl, rfl⟩)) (toNat_lt c)
    simp [escape, guarded, feed, back, tab, printable, small, medium]

theorem isOneLine_hexDigits (width value : Nat) : IsOneLine (hexDigits width value) := by
  have digit : ∀ digit < 16, IsOneLine [hexDigit digit] := by decide
  induction width generalizing value with
  | zero => exact .nil
  | succ width induction =>
      rw [hexDigits]
      exact (induction _).append (digit (value % 16) (Nat.mod_lt _ (by decide)))

theorem isOneLine_escape {quote : Char} (isQuote : IsQuote quote) (c : Char) :
    IsOneLine (escape quote c) := by
  by_cases guarded : c = quote ∨ c = '\\'
  · have plain : IsOneLine ['\\', c] := by
      rcases isQuote with rfl | rfl <;> rcases guarded with rfl | rfl <;> decide
    simpa [escape, guarded] using plain
  rw [escape, if_neg (by simpa using guarded)]
  repeat' split
  · decide
  · decide
  · decide
  · rename_i printable
    simpa [IsOneLine] using Character.endsLine_of_isPrintable printable
  · exact IsOneLine.append (by decide) (isOneLine_hexDigits 2 _)
  · exact IsOneLine.append (by decide) (isOneLine_hexDigits 4 _)
  · exact IsOneLine.append (by decide) (isOneLine_hexDigits 8 _)

/-- A literal is one line, whatever ends lines in its text. -/
theorem isOneLine_encode (text : List Char) : IsOneLine (encode text) := by
  have isQuote := isQuote_quoteFor text
  have quote : IsOneLine [quoteFor text] := by
    rcases isQuote with equal | equal <;> rw [equal] <;> decide
  rw [encode]
  exact (quote.append (.flatMap fun c _ => isOneLine_escape isQuote c)).append quote

/-! ## Texts -/

/-- Reads up to the closing quote, which must be the last character; the first `skip` characters
belong to an escape already read. -/
def decodeAfter? (quote : Char) (skip : Nat) : List Char → Option (List Char)
  | [] => none
  | c :: rest =>
      match skip with
      | skip + 1 => decodeAfter? quote skip rest
      | 0 =>
          if c == quote then if rest.isEmpty then some [] else none
          else if c == '\n' then none
          else if c == '\\' then
            match BodyLiteral.escaped? rest with
            | none => none
            | some (value, length) => (decodeAfter? quote length rest).map (value :: ·)
          else (decodeAfter? quote 0 rest).map (c :: ·)

/-- The text of a quoted literal. -/
def decode? : List Char → Option (List Char)
  | [] => none
  | quote :: rest =>
      if quote == '\'' || quote == '"' then decodeAfter? quote 0 rest else none

theorem decodeAfter?_append (quote : Char) (read rest : List Char) :
    decodeAfter? quote read.length (read ++ rest) = decodeAfter? quote 0 rest := by
  induction read with
  | nil => rfl
  | cons c read induction => exact induction

theorem decodeAfter?_escape {quote : Char} (isQuote : IsQuote quote) (c : Char)
    (rest : List Char) :
    decodeAfter? quote 0 (escape quote c ++ rest) =
      (decodeAfter? quote 0 rest).map (c :: ·) := by
  rcases escape_cases isQuote c with ⟨plain, noQuote, noSlash, noFeed⟩ | ⟨code, written, read⟩
  · rw [plain, List.singleton_append, decodeAfter?]
    simp [noQuote, noSlash, noFeed]
  · have noQuote : ('\\' == quote) = false := by rcases isQuote with rfl | rfl <;> rfl
    rw [written, List.cons_append, decodeAfter?]
    simp [noQuote, read rest, decodeAfter?_append]

theorem decode?_encode (text : List Char) : decode? (encode text) = some text := by
  have isQuote := isQuote_quoteFor text
  have whole (text : List Char) {quote : Char} (isQuote : IsQuote quote) :
      decodeAfter? quote 0 (text.flatMap (escape quote) ++ [quote]) = some text := by
    induction text with
    | nil => simp [decodeAfter?]
    | cons c text induction =>
        rw [List.flatMap_cons, List.append_assoc, decodeAfter?_escape isQuote, induction]
        rfl
  rw [encode, List.cons_append, decode?, whole text isQuote]
  rcases isQuote with equal | equal <;> simp [equal]

end Quoted

namespace BodyLiteral

/-! ## Bodies -/

/-- A name of ASCII word characters, which stands in a hole of a literal as it is. -/
structure IsHole (name : List Char) : Prop where
  nonempty : name ≠ []
  words : ∀ c ∈ name, Character.isWord c = true
  ascii : ∀ c ∈ name, Character.IsAscii c

/-- No ASCII word character is escaped, nor is it a brace. -/
theorem plain_of_isWord {c : Char} (ascii : Character.IsAscii c)
    (word : Character.isWord c = true) {quote : Char} (isQuote : Quoted.IsQuote quote) :
    Quoted.escape quote c = [c] ∧ c ≠ '\x7b' ∧ c ≠ '\x7d' := by
  have checked : ∀ code : Fin 0x80, Character.isWord (Char.ofNat code) = true →
      Quoted.escape '\'' (Char.ofNat code) = [Char.ofNat code] ∧
        Quoted.escape '"' (Char.ofNat code) = [Char.ofNat code] ∧
        Char.ofNat code ≠ '\x7b' ∧ Char.ofNat code ≠ '\x7d' := by decide
  have plain := Character.IsAscii.of_codes
    (fun c => Character.isWord c = true → Quoted.escape '\'' c = [c] ∧
      Quoted.escape '"' c = [c] ∧ c ≠ '\x7b' ∧ c ≠ '\x7d') checked ascii word
  rcases isQuote with rfl | rfl
  · exact ⟨plain.1, plain.2.2⟩
  · exact plain.2

theorem IsHole.flatMap_escape {name : List Char} (hole : IsHole name) {quote : Char}
    (isQuote : Quoted.IsQuote quote) : name.flatMap (Quoted.escape quote) = name := by
  have plain : ∀ c ∈ name, Quoted.escape quote c = [c] := fun c member =>
    (plain_of_isWord (hole.ascii c member) (hole.words c member) isQuote).1
  rw [List.flatMap_def, List.map_congr_left plain, ← List.flatMap_def, List.flatMap_singleton']

variable {quote : Char}

theorem readAfter?_append (quote : Char) (read rest : List Char) :
    readAfter? quote read.length (read ++ rest) = readAfter? quote 0 rest := by
  induction read with
  | nil => rfl
  | cons c read induction => exact induction

theorem readAfter?_brace (isQuote : Quoted.IsQuote quote) {c : Char}
    (brace : c = '\x7b' ∨ c = '\x7d') (rest : List Char) :
    readAfter? quote 0 (c :: c :: rest) =
      (readAfter? quote 0 rest).map (.character c :: ·) := by
  have later := readAfter?_append quote [c] rest
  rcases isQuote with rfl | rfl <;> rcases brace with rfl | rfl <;> simp_all [readAfter?]

theorem readAfter?_escape (isQuote : Quoted.IsQuote quote) {c : Char}
    (noBrace : c ≠ '\x7b' ∧ c ≠ '\x7d') (rest : List Char) :
    readAfter? quote 0 (Quoted.escape quote c ++ rest) =
      (readAfter? quote 0 rest).map (.character c :: ·) := by
  rcases Quoted.escape_cases isQuote c with
    ⟨plain, noQuote, noSlash, noFeed⟩ | ⟨code, written, read⟩
  · rw [plain, List.singleton_append, readAfter?]
    simp [noQuote, noSlash, noFeed, noBrace]
  · have noQuote : ('\\' == quote) = false := by rcases isQuote with rfl | rfl <;> rfl
    rw [written, List.cons_append, readAfter?]
    simp [noQuote, read rest, readAfter?_append]

theorem readAfter?_hole (isQuote : Quoted.IsQuote quote) {name : List Char} (hole : IsHole name)
    (rest : List Char) :
    readAfter? quote 0 ('\x7b' :: (name ++ '\x7d' :: rest)) =
      (readAfter? quote 0 rest).map (.field name :: ·) := by
  have noBrace (c : Char) (member : c ∈ name) : c ≠ '\x7b' ∧ c ≠ '\x7d' :=
    (plain_of_isWord (hole.ascii c member) (hole.words c member) isQuote).2
  have inner := FormatString.takeWhile_noBrace noBrace rest
  have later := readAfter?_append quote (name ++ ['\x7d']) rest
  have opens : ('\x7b' == quote) = false := by rcases isQuote with rfl | rfl <;> rfl
  rcases List.exists_cons_of_ne_nil hole.nonempty with ⟨c, others, rfl⟩
  have noEscape : c ≠ '\x7b' := (noBrace c List.mem_cons_self).1
  simp only [List.cons_append, List.append_assoc, List.nil_append] at inner later ⊢
  rw [readAfter?]
  simp only [inner]
  simpa [opens, noEscape] using
    congrArg (Option.map (Piece.field (c :: others) :: ·)) later

theorem readAfter?_writePiece (isQuote : Quoted.IsQuote quote) {piece : Piece}
    (holes : ∀ name, piece = .field name → IsHole name) (rest : List Char) :
    readAfter? quote 0 ((FormatString.writePiece piece).flatMap (Quoted.escape quote) ++ rest) =
      (readAfter? quote 0 rest).map (piece :: ·) := by
  have braces : Quoted.escape quote '\x7b' = ['\x7b'] ∧ Quoted.escape quote '\x7d' = ['\x7d'] := by
    rcases isQuote with rfl | rfl <;> decide
  cases piece with
  | character c =>
      by_cases brace : c = '\x7b' ∨ c = '\x7d'
      · have doubled : (FormatString.writePiece (.character c)).flatMap (Quoted.escape quote) =
            [c, c] := by
          rcases brace with rfl | rfl <;> simp [FormatString.writePiece, braces]
        rw [doubled]
        exact readAfter?_brace isQuote brace rest
      · simpa [FormatString.writePiece, brace] using
          readAfter?_escape isQuote (not_or.mp brace) rest
  | field name =>
      have written : (FormatString.writePiece (.field name)).flatMap (Quoted.escape quote) =
          '\x7b' :: (name ++ ['\x7d']) := by
        simp [FormatString.writePiece, braces, (holes name rfl).flatMap_escape isQuote]
      rw [written]
      simpa using readAfter?_hole isQuote (holes name rfl) rest

/-- The literal of a body reads as the pieces that the body was written from. -/
theorem read?_bodyLiteral {pieces : List Piece}
    (holes : ∀ name, .field name ∈ pieces → IsHole name) :
    read? (bodyLiteral (.ofList (FormatString.write pieces))).toList = some pieces := by
  have whole {quote : Char} (isQuote : Quoted.IsQuote quote) :
      readAfter? quote 0
        ((FormatString.write pieces).flatMap (Quoted.escape quote) ++ [quote]) = some pieces := by
    induction pieces with
    | nil => simp [FormatString.write, readAfter?]
    | cons piece pieces induction =>
        have first : ∀ name, piece = .field name → IsHole name :=
          fun name equal => holes name (equal ▸ List.mem_cons_self)
        have others := induction fun name member => holes name (List.mem_cons_of_mem _ member)
        rw [FormatString.write, List.flatMap_cons, List.flatMap_append, List.append_assoc,
          readAfter?_writePiece isQuote first, ← FormatString.write, others]
        rfl
  have isQuote := Quoted.isQuote_quoteFor (FormatString.write pieces)
  have text : (bodyLiteral (.ofList (FormatString.write pieces))).toList =
      'f' :: Quoted.encode (FormatString.write pieces) := by
    simp [bodyLiteral, Quoted.literal]
  rw [text, Quoted.encode, List.cons_append, read?, whole isQuote]
  rcases isQuote with equal | equal <;> simp [equal]

end BodyLiteral

end Stencil
