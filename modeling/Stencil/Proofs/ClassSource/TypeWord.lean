import Stencil.Proofs.ClassSource.Acceptance

/-!
The words that the language takes for a type: identifiers that it does not keep for itself, the
constants, and number literals. The grammar of number literals stands here as it is written down;
the syntax check scans a word from the front and accepts just the literals of the grammar.
-/

namespace Stencil

namespace Lexeme

/-! ## The grammar of numbers -/

/-- Digits behind a digit or a radix prefix, each with an underscore before it or none. -/
inductive IsRun (isDigit : Char → Bool) : List Char → Prop
  | nil : IsRun isDigit []
  | digit {c : Char} {later : List Char} (digit : isDigit c = true)
      (goesOn : IsRun isDigit later) : IsRun isDigit (c :: later)
  | pause {c : Char} {later : List Char} (digit : isDigit c = true)
      (goesOn : IsRun isDigit later) : IsRun isDigit ('_' :: c :: later)

/-- The sign behind a zero that announces digits of a radix. -/
inductive IsPrefix : Radix → Char → Prop
  | smallX : IsPrefix .hexadecimal 'x'
  | largeX : IsPrefix .hexadecimal 'X'
  | smallO : IsPrefix .octal 'o'
  | largeO : IsPrefix .octal 'O'
  | smallB : IsPrefix .binary 'b'
  | largeB : IsPrefix .binary 'B'

/-- What makes a number of decimal digits other than an integer: an exponent, an imaginary sign, or
both. -/
inductive IsMark : List Char → Prop
  | imaginary {sign : Char} (isSign : isImaginarySign sign = true) : IsMark [sign]
  | exponent {sign first : Char} {power : List Char} (isSign : isExponentSign sign = true)
      (digit : Character.isAsciiDigit first = true) (run : IsRun Character.isAsciiDigit power) :
      IsMark (sign :: first :: power)
  | both {sign first last : Char} {power : List Char} (isSign : isExponentSign sign = true)
      (digit : Character.isAsciiDigit first = true) (run : IsRun Character.isAsciiDigit power)
      (isLast : isImaginarySign last = true) : IsMark (sign :: first :: (power ++ [last]))

def isZero (c : Char) : Bool := c == '0'

/-- A number literal without a point. Only with a mark may it begin with a zero and go on with
other digits. -/
inductive IsNumber : List Char → Prop
  | integer {first : Char} {later : List Char} (digit : Character.isAsciiDigit first = true)
      (nonzero : first ≠ '0') (run : IsRun Character.isAsciiDigit later) :
      IsNumber (first :: later)
  | zero {later : List Char} (run : IsRun isZero later) : IsNumber ('0' :: later)
  | ofRadix {radix : Radix} {sign : Char} {digits : List Char} (isSign : IsPrefix radix sign)
      (run : IsRun radix.isDigit digits) (nonempty : digits ≠ []) :
      IsNumber ('0' :: sign :: digits)
  | marked {first : Char} {later mark : List Char} (digit : Character.isAsciiDigit first = true)
      (run : IsRun Character.isAsciiDigit later) (isMark : IsMark mark) :
      IsNumber (first :: (later ++ mark))

/-! ## Runs of digits -/

section Runs

variable {isDigit : Char → Bool} {c : Char} {word later : List Char}

theorem isRun_cons_iff (digit : isDigit c = true) (noPause : isDigit '_' = false) :
    IsRun isDigit (c :: later) ↔ IsRun isDigit later := by
  constructor
  · intro run
    cases run with
    | digit _ goesOn => exact goesOn
    | pause => exact absurd digit (by simp [noPause])
  · exact .digit digit

theorem isRun_pause_iff (noPause : isDigit '_' = false) :
    IsRun isDigit ('_' :: later) ↔
      later.head?.any isDigit = true ∧ IsRun isDigit later := by
  constructor
  · intro run
    cases run with
    | digit digit => exact absurd digit (by simp [noPause])
    | pause digit goesOn => exact ⟨digit, .digit digit goesOn⟩
  · intro ⟨first, run⟩
    cases run with
    | nil => cases first
    | digit digit goesOn => exact .pause digit goesOn
    | pause => exact absurd first (by simp [noPause])

theorem not_isRun_cons (noDigit : isDigit c = false) (noPause : c ≠ '_') :
    ¬ IsRun isDigit (c :: later) := by
  intro run
  cases run with
  | digit digit => simp [noDigit] at digit
  | pause => exact noPause rfl

end Runs

/-! ## Radix prefixes -/

theorem isDigit_underscore (radix : Radix) : radix.isDigit '_' = false := by
  cases radix <;> decide

theorem endNumber_eq_nil_iff {radix : Radix} {rest : List Char} :
    endNumber radix rest = .ok [] ↔ rest = [] := by
  rw [endNumber]
  split
  · simp
  · rename_i goesOn
    simp only [reduceCtorEq, false_iff]
    rintro rfl
    exact goesOn rfl

/-- The digits of a radix go on behind a digit, and they must behind an underscore. -/
theorem radixDigits_eq_nil_iff {radix : Radix} {word : List Char} :
    (radixDigits radix false true word = .ok [] ↔ IsRun radix.isDigit word) ∧
      (radixDigits radix true false word = .ok [] ↔ IsRun radix.isDigit ('_' :: word)) := by
  have noPause := isDigit_underscore radix
  induction word with
  | nil => simp [radixDigits, IsRun.nil, isRun_pause_iff noPause]
  | cons c rest induction =>
      rcases induction with ⟨behindDigit, behindPause⟩
      cases digit : radix.isDigit c with
      | true =>
          simp [radixDigits, digit, behindDigit, isRun_cons_iff digit noPause,
            isRun_pause_iff noPause]
      | false =>
          constructor
          · by_cases pause : c = '_'
            · simp [radixDigits, pause, noPause, behindPause]
            · rw [iff_false_right (not_isRun_cons digit pause), radixDigits]
              cases decimal : Character.isAsciiDigit c <;> simp [digit, pause]
          · simp [radixDigits, digit, isRun_pause_iff noPause]

theorem radixNumber_eq_nil_iff {radix : Radix} {word : List Char} :
    radixNumber radix word = .ok [] ↔ IsRun radix.isDigit word ∧ word ≠ [] := by
  have noPause := isDigit_underscore radix
  have ended : radixNumber radix word = .ok [] ↔ radixDigits radix true true word = .ok [] := by
    rw [radixNumber]
    cases radixDigits radix true true word <;> simp [bind, Except.bind, endNumber_eq_nil_iff]
  rw [ended]
  cases word with
  | nil => simp [radixDigits]
  | cons c rest =>
      cases digit : radix.isDigit c with
      | true =>
          simp [radixDigits, digit, radixDigits_eq_nil_iff.1, isRun_cons_iff digit noPause]
      | false =>
          by_cases pause : c = '_'
          · simp [radixDigits, pause, noPause, radixDigits_eq_nil_iff.2]
          · simp [radixDigits, digit, pause, not_isRun_cons digit pause]

/-! ## Decimal digits -/

/-- What decimal digits do not go on with. -/
def Ends (behind : List Char) : Prop :=
  ∀ c ∈ behind.head?, Character.isAsciiDigit c = false ∧ c ≠ '_'

theorem isAsciiDigit_underscore : Character.isAsciiDigit '_' = false := by decide

theorem decimalDigits_append {run behind : List Char}
    (isRun : IsRun Character.isAsciiDigit run) (ends : Ends behind) :
    decimalDigits (run ++ behind) = .ok behind := by
  induction isRun with
  | nil =>
      cases behind with
      | nil => rfl
      | cons c rest =>
          rcases ends c rfl with ⟨noDigit, noPause⟩
          simp [decimalDigits, noDigit, noPause]
  | digit digit _ induction => simp [decimalDigits, digit, induction]
  | pause digit _ induction => simp [decimalDigits, digit, isAsciiDigit_underscore, induction]

/-- What has been read of a word are digits, as many as there are. -/
theorem exists_run_of_decimalDigits {word behind : List Char}
    (read : decimalDigits word = .ok behind) :
    ∃ run, IsRun Character.isAsciiDigit run ∧ word = run ++ behind ∧ Ends behind := by
  induction word with
  | nil =>
      cases read
      exact ⟨[], .nil, rfl, by simp [Ends]⟩
  | cons c rest induction =>
      rw [decimalDigits] at read
      split at read
      · rename_i digit
        rcases induction read with ⟨run, isRun, rfl, ends⟩
        exact ⟨c :: run, .digit digit isRun, rfl, ends⟩
      split at read
      · rename_i noDigit noPause
        cases read
        exact ⟨[], .nil, rfl, by simpa [Ends, noDigit] using noPause⟩
      split at read
      · rename_i pause digit
        rcases induction read with ⟨run, isRun, rfl, ends⟩
        have underscore : c = '_' := by simpa using pause
        have first : run.head?.any Character.isAsciiDigit = true := by
          cases run with
          | nil =>
              cases behind with
              | nil => cases digit
              | cons d later => exact absurd digit (by simp [(ends d rfl).1])
          | cons => exact digit
        refine ⟨'_' :: run, (isRun_pause_iff isAsciiDigit_underscore).mpr ⟨first, isRun⟩, ?_, ends⟩
        rw [underscore, List.cons_append]
      · cases read

/-! ## Ends of numbers -/

theorem ends_imaginary {sign : Char} {rest : List Char} (isSign : isImaginarySign sign = true) :
    Ends (sign :: rest) := by
  simp only [isImaginarySign, Bool.or_eq_true, beq_iff_eq] at isSign
  rcases isSign with rfl | rfl <;> simp [Ends, Character.isAsciiDigit]

theorem ends_exponent {sign : Char} {rest : List Char} (isSign : isExponentSign sign = true) :
    Ends (sign :: rest) := by
  simp only [isExponentSign, Bool.or_eq_true, beq_iff_eq] at isSign
  rcases isSign with rfl | rfl <;> simp [Ends, Character.isAsciiDigit]

theorem IsMark.ends {mark : List Char} (isMark : IsMark mark) : Ends mark := by
  cases isMark with
  | imaginary isSign => exact ends_imaginary isSign
  | exponent isSign => exact ends_exponent isSign
  | both isSign => exact ends_exponent isSign

theorem decimalDigits_cons {c : Char} {rest : List Char}
    (digit : Character.isAsciiDigit c = true) : decimalDigits (c :: rest) = decimalDigits rest := by
  rw [decimalDigits, if_pos digit]

theorem isImaginarySign_of_exponent {sign : Char} (isSign : isExponentSign sign = true) :
    isImaginarySign sign = false := by
  simp only [isExponentSign, Bool.or_eq_true, beq_iff_eq] at isSign
  rcases isSign with rfl | rfl <;> rfl

section Tails

variable {integer : List Char → Except SyntaxFault (List Char)} {word : List Char}

theorem numberTail_of_isMark (isMark : IsMark word) : numberTail integer word = .ok [] := by
  cases isMark with
  | imaginary isSign =>
      rw [numberTail, if_pos isSign]
      exact endNumber_eq_nil_iff.mpr rfl
  | @exponent sign first power isSign digit run =>
      have read : decimalDigits (first :: power) = .ok [] := by
        rw [decimalDigits_cons digit, ← List.append_nil power]
        exact decimalDigits_append run (by simp [Ends])
      simp [numberTail, isImaginarySign_of_exponent isSign, isSign, digit, read, bind, Except.bind]
  | @both sign first last power isSign digit run isLast =>
      have read : decimalDigits (first :: (power ++ [last])) = .ok [last] := by
        rw [decimalDigits_cons digit]
        exact decimalDigits_append run (ends_imaginary isLast)
      simp [numberTail, isImaginarySign_of_exponent isSign, isSign, digit, read, bind, Except.bind,
        isLast, endNumber_eq_nil_iff]

theorem isMark_of_exponent {sign first : Char} {power : List Char}
    (isSign : isExponentSign sign = true) (digit : Character.isAsciiDigit first = true)
    (read : numberTail integer (sign :: first :: power) = .ok []) :
    IsMark (sign :: first :: power) := by
  rw [numberTail, isImaginarySign_of_exponent isSign, if_neg Bool.false_ne_true, if_pos isSign,
    List.head?_cons, Option.any_some, if_pos digit, decimalDigits_cons digit] at read
  cases digits : decimalDigits power with
  | error fault =>
      rw [digits] at read
      cases read
  | ok behind =>
      rw [digits] at read
      rcases exists_run_of_decimalDigits digits with ⟨run, isRun, rfl, _⟩
      cases behind with
      | nil =>
          rw [List.append_nil]
          exact .exponent isSign digit isRun
      | cons d last =>
          by_cases isLast : isImaginarySign d = true
          · have ended : endNumber .imaginary last = .ok [] := by
              simpa [bind, Except.bind, isLast] using read
            cases endNumber_eq_nil_iff.mp ended
            exact .both isSign digit isRun isLast
          · have ended : endNumber .decimal (d :: last) = .ok [] := by
              simpa [bind, Except.bind, isLast] using read
            cases endNumber_eq_nil_iff.mp ended

/-- A number with a mark is read to its end, and one without just if `integer` reads it so. -/
theorem numberTail_eq_nil_iff (whole : ∀ c rest, integer (c :: rest) ≠ .ok []) :
    numberTail integer word = .ok [] ↔ IsMark word ∨ word = [] ∧ integer [] = .ok [] := by
  constructor
  · intro read
    cases word with
    | nil => exact .inr ⟨rfl, read⟩
    | cons c later =>
        left
        have given := read
        rw [numberTail] at read
        split at read
        · rename_i isSign
          cases endNumber_eq_nil_iff.mp read
          exact .imaginary isSign
        split at read
        · rename_i isSign
          split at read
          · rename_i digit
            cases later with
            | nil => cases digit
            | cons first power => exact isMark_of_exponent isSign digit given
          · cases endNumber_eq_nil_iff.mp read
        · exact absurd read (whole c later)
  · rintro (isMark | ⟨rfl, read⟩)
    · exact numberTail_of_isMark isMark
    · exact read

/-- A number with a mark, but for its first digit. -/
theorem exists_mark_iff :
    (∃ mark, decimalDigits word = .ok mark ∧ IsMark mark) ↔
      ∃ run mark, IsRun Character.isAsciiDigit run ∧ IsMark mark ∧ word = run ++ mark := by
  constructor
  · intro ⟨mark, read, isMark⟩
    rcases exists_run_of_decimalDigits read with ⟨run, isRun, same, _⟩
    exact ⟨run, mark, isRun, isMark, same⟩
  · rintro ⟨run, mark, isRun, isMark, rfl⟩
    exact ⟨mark, decimalDigits_append isRun isMark.ends, isMark⟩

end Tails

/-! ## Zeros -/

section Zeros

variable {word behind : List Char}

/-- Digits may be read in two goes, the zeros at the front first. -/
theorem decimalDigits_eq_bind : decimalDigits word = (leadingZeros word).bind decimalDigits := by
  induction word with
  | nil => rfl
  | cons c rest induction =>
      rw [leadingZeros]
      split
      · rename_i zero
        rw [eq_of_beq zero, decimalDigits_cons rfl, induction]
      split
      · rfl
      rename_i pause
      have underscore : c = '_' := by simpa using pause
      subst underscore
      split
      · rename_i digit
        rw [← induction]
        simp [decimalDigits, isAsciiDigit_underscore, digit]
      · rename_i noDigit
        simp [decimalDigits, isAsciiDigit_underscore, noDigit, Except.bind]

theorem head?_ne_of_leadingZeros (read : leadingZeros word = .ok behind) :
    behind.head? ≠ some '_' := by
  induction word with
  | nil =>
      cases read
      simp
  | cons c rest induction =>
      rw [leadingZeros] at read
      split at read
      · exact induction read
      split at read
      · rename_i noPause
        cases read
        simpa using noPause
      split at read
      · exact induction read
      · cases read

theorem leadingZeros_eq_nil_iff : leadingZeros word = .ok [] ↔ IsRun isZero word := by
  induction word with
  | nil => simp [leadingZeros, IsRun.nil]
  | cons c rest induction =>
      have noPause : isZero '_' = false := by decide
      rw [leadingZeros]
      split
      · rename_i zero
        have zero : isZero c = true := zero
        rw [induction, isRun_cons_iff zero noPause]
      rename_i nonzero
      split
      · rename_i other
        have nonzero : isZero c = false := by simpa [isZero] using nonzero
        simpa using not_isRun_cons nonzero (by simpa using other)
      rename_i pause
      have underscore : c = '_' := by simpa using pause
      subst underscore
      rw [isRun_pause_iff noPause]
      split
      · rename_i digit
        rw [induction]
        refine (and_iff_right_of_imp ?_).symm
        intro run
        cases run with
        | nil => cases digit
        | digit zero _ => exact zero
        | pause => cases digit
      · rename_i noDigit
        simp only [reduceCtorEq, false_iff, not_and]
        intro zero
        cases rest with
        | nil => cases zero
        | cons d later =>
            have same : d = '0' := by simpa [isZero] using zero
            subst same
            exact absurd rfl noDigit

theorem zeroNumber_eq_nil_iff :
    zeroNumber word = .ok [] ↔ leadingZeros word = .ok [] ∨
      ∃ mark, decimalDigits word = .ok mark ∧ IsMark mark := by
  rw [zeroNumber, decimalDigits_eq_bind]
  cases read : leadingZeros word with
  | error fault => simp [bind, Except.bind]
  | ok behind =>
      simp only [bind, Except.bind, Except.ok.injEq]
      cases digit : behind.head?.any Character.isAsciiDigit with
      | true =>
          have nonempty : behind ≠ [] := by
            rintro rfl
            cases digit
          rw [if_pos rfl, or_iff_right nonempty]
          cases decimalDigits behind with
          | error fault => simp
          | ok mark =>
              let integer : List Char → Except SyntaxFault (List Char) :=
                fun _ => .error .leadingZero
              have whole (c : Char) (rest : List Char) : integer (c :: rest) ≠ .ok [] := by
                simp [integer]
              simpa [integer] using numberTail_eq_nil_iff whole
      | false =>
          have ends : Ends behind := by
            intro c first
            rw [first, Option.any_some] at digit
            exact ⟨digit, fun same => head?_ne_of_leadingZeros read (same ▸ first)⟩
          have whole (c : Char) (rest : List Char) : endNumber .decimal (c :: rest) ≠ .ok [] := by
            simp [endNumber_eq_nil_iff]
          rw [if_neg Bool.false_ne_true, numberTail_eq_nil_iff whole, ← List.nil_append behind,
            decimalDigits_append .nil ends]
          simp [endNumber_eq_nil_iff, or_comm]

end Zeros

/-! ## Numbers -/

section Numbers

variable {first sign : Char} {rest later : List Char} {radix : Radix}

theorem decimalDigits_eq_nil_iff :
    decimalDigits rest = .ok [] ↔ IsRun Character.isAsciiDigit rest := by
  constructor
  · intro read
    rcases exists_run_of_decimalDigits read with ⟨run, isRun, rfl, _⟩
    rwa [List.append_nil]
  · intro isRun
    have read := decimalDigits_append isRun (show Ends [] by simp [Ends])
    rwa [List.append_nil] at read

/-- The literals that begin with a given digit. -/
theorem isNumber_cons_iff (digit : Character.isAsciiDigit first = true) :
    IsNumber (first :: rest) ↔
      (first ≠ '0' ∧ IsRun Character.isAsciiDigit rest) ∨
      (first = '0' ∧ (IsRun isZero rest ∨ ∃ radix sign digits, rest = sign :: digits ∧
        IsPrefix radix sign ∧ IsRun radix.isDigit digits ∧ digits ≠ [])) ∨
      ∃ mark, decimalDigits rest = .ok mark ∧ IsMark mark := by
  rw [exists_mark_iff]
  constructor
  · intro number
    cases number with
    | integer _ nonzero run => exact .inl ⟨nonzero, run⟩
    | zero run => exact .inr (.inl ⟨rfl, .inl run⟩)
    | ofRadix isSign run nonempty =>
        exact .inr (.inl ⟨rfl, .inr ⟨_, _, _, rfl, isSign, run, nonempty⟩⟩)
    | marked _ run isMark => exact .inr (.inr ⟨_, _, run, isMark, rfl⟩)
  · rintro (⟨nonzero, run⟩ | ⟨rfl, run | ⟨radix, sign, digits, rfl, isSign, run, nonempty⟩⟩ |
      ⟨run, mark, isRun, isMark, rfl⟩)
    · exact .integer digit nonzero run
    · exact .zero run
    · exact .ofRadix isSign run nonempty
    · exact .marked digit isRun isMark

theorem number_of_nonzero (nonzero : first ≠ '0') :
    number first rest = .ok [] ↔ decimalDigits rest = .ok [] ∨
      ∃ mark, decimalDigits rest = .ok mark ∧ IsMark mark := by
  have whole (c : Char) (rest : List Char) : endNumber .decimal (c :: rest) ≠ .ok [] := by
    simp [endNumber_eq_nil_iff]
  have decimal : (first != '0') = true := by simpa using nonzero
  rw [number.eq_def, if_pos decimal]
  cases decimalDigits rest with
  | error fault => simp [bind, Except.bind]
  | ok behind =>
      simp [bind, Except.bind, numberTail_eq_nil_iff whole, endNumber_eq_nil_iff, or_comm]

theorem number_of_isPrefix (isSign : IsPrefix radix sign) :
    number '0' (sign :: later) = radixNumber radix later := by
  cases isSign <;> rfl

theorem number_of_not_isPrefix (noSign : ∀ radix, ¬ IsPrefix radix sign) :
    number '0' (sign :: later) = zeroNumber (sign :: later) := by
  have other {radix : Radix} {c : Char} (isSign : IsPrefix radix c) : (sign == c) = false := by
    rw [beq_eq_false_iff_ne]
    rintro rfl
    exact noSign radix isSign
  simp [number, other .smallX, other .largeX, other .smallO, other .largeO, other .smallB,
    other .largeB]

theorem not_isMark_prefix (isSign : IsPrefix radix sign) : ¬ IsMark (sign :: later) := by
  intro isMark
  cases isMark with
  | imaginary imaginary => cases isSign <;> cases imaginary
  | exponent exponent => cases isSign <;> cases exponent
  | both exponent => cases isSign <;> cases exponent

/-- Behind the sign of a radix nothing else makes a number. -/
theorem isNumber_prefix_iff (isSign : IsPrefix radix sign) :
    IsNumber ('0' :: sign :: later) ↔ IsRun radix.isDigit later ∧ later ≠ [] := by
  have noRun : ¬ IsRun isZero (sign :: later) := by
    cases isSign <;> exact not_isRun_cons rfl (by decide)
  have noMark : ¬ ∃ mark, decimalDigits (sign :: later) = .ok mark ∧ IsMark mark := by
    have read : decimalDigits (sign :: later) = .ok (sign :: later) := by cases isSign <;> rfl
    simpa [read] using not_isMark_prefix isSign
  have radixOf {other : Radix} (isOther : IsPrefix other sign) : other = radix := by
    cases isSign <;> cases isOther <;> rfl
  rw [isNumber_cons_iff rfl]
  constructor
  · rintro (⟨nonzero, _⟩ | ⟨_, run | ⟨_, _, _, same, isOther, isRun, nonempty⟩⟩ | marked)
    · exact absurd rfl nonzero
    · exact absurd run noRun
    · cases same
      exact radixOf isOther ▸ ⟨isRun, nonempty⟩
    · exact absurd marked noMark
  · intro ⟨isRun, nonempty⟩
    exact .inr (.inl ⟨rfl, .inr ⟨radix, sign, later, rfl, isSign, isRun, nonempty⟩⟩)

/-- A number is read to its end just if it is a literal of the grammar. -/
theorem number_eq_nil_iff (digit : Character.isAsciiDigit first = true) :
    number first rest = .ok [] ↔ IsNumber (first :: rest) := by
  by_cases nonzero : first ≠ '0'
  · rw [number_of_nonzero nonzero, isNumber_cons_iff digit, decimalDigits_eq_nil_iff]
    simp [nonzero]
  rw [ne_eq, not_not] at nonzero
  subst nonzero
  cases rest with
  | nil => exact iff_of_true rfl (.zero .nil)
  | cons sign later =>
      by_cases prefixed : ∃ radix, IsPrefix radix sign
      · rcases prefixed with ⟨radix, isSign⟩
        rw [number_of_isPrefix isSign, radixNumber_eq_nil_iff, isNumber_prefix_iff isSign]
      · rw [not_exists] at prefixed
        rw [number_of_not_isPrefix prefixed, zeroNumber_eq_nil_iff, leadingZeros_eq_nil_iff,
          isNumber_cons_iff digit]
        simp [prefixed]

theorem IsNumber.digit (number : IsNumber (first :: rest)) :
    Character.isAsciiDigit first = true := by
  cases number with
  | integer digit => exact digit
  | zero => rfl
  | ofRadix => rfl
  | marked digit => exact digit

end Numbers

instance (word : List Char) : Decidable (IsNumber word) :=
  match word with
  | [] => .isFalse fun number => nomatch number
  | first :: rest =>
      decidable_of_iff
        (Character.isAsciiDigit first = true ∧ (number first rest).toOption = some []) <| by
      have ended : (number first rest).toOption = some [] ↔ number first rest = .ok [] := by
        cases number first rest <;> simp [Except.toOption]
      rw [ended]
      constructor
      · intro ⟨digit, read⟩
        exact (number_eq_nil_iff digit).mp read
      · intro literal
        exact ⟨literal.digit, (number_eq_nil_iff literal.digit).mpr literal⟩

end Lexeme

/-! ## Types -/

/-- A word that the language takes for a type. -/
def IsTypeWord (type : String) : Prop :=
  IsPlainType type ∨ type ∈ Lexeme.constants ∨ Lexeme.IsNumber type.toList

instance (type : String) : Decidable (IsTypeWord type) := inferInstanceAs (Decidable (_ ∨ _ ∨ _))

example : ["None", "match", "0x_F", "0_0", "09e1", "1_0J"].all (decide <| IsTypeWord ·) = true := by
  decide +kernel

example : ["def", "0_7", "1__0", "0x", "0b2", "1e_5", "1jj", "1if"].any (decide <| IsTypeWord ·) =
    false := by
  decide +kernel

namespace Lexeme

theorem overlong?_eq_none {word : List Char} (short : word.length ≤ longestInteger) :
    overlong? word = none := by
  have fits : word.countP Character.isAsciiDigit ≤ longestInteger :=
    Nat.le_trans List.countP_le_length short
  simp [overlong?, Nat.not_lt.mpr fits]

/-- A word that begins with a digit is in order just if it is a number. -/
theorem checkType_of_digit {first : Char} {rest : List Char}
    (digit : Character.isAsciiDigit first = true)
    (short : (first :: rest).length ≤ longestInteger) :
    checkType (first :: rest) = .ok none ↔ IsNumber (first :: rest) := by
  rw [← number_eq_nil_iff digit, checkType, if_pos digit]
  cases number first rest with
  | error fault => simp [bind, Except.bind]
  | ok behind =>
      cases behind with
      | nil => simpa [bind, Except.bind, checkName] using overlong?_eq_none short
      | cons c later =>
          cases named : checkName (c :: later) <;> simp [bind, Except.bind, named]

/-- Another word is in order just if it is an identifier that may stand for a value. -/
theorem checkType_of_not_digit {word : List Char} (nonempty : word ≠ [])
    (noDigit : word.head?.any Character.isAsciiDigit = false) :
    checkType word = .ok none ↔ Identifier.IsIdentifier word ∧ isMisplaced word = false := by
  rcases List.exists_cons_of_ne_nil nonempty with ⟨first, rest, rfl⟩
  have noDigit : Character.isAsciiDigit first = false := noDigit
  rw [← checkName_eq_ok_iff nonempty, checkType, noDigit, if_neg Bool.false_ne_true]
  cases checkName (first :: rest) with
  | error fault => simp [bind, Except.bind]
  | ok _ => simp [bind, Except.bind]

theorem any_toList_eq_iff {words : List String} {word : String} :
    words.any (·.toList == word.toList) = true ↔ word ∈ words := by
  simp [String.toList_inj]

theorem isMisplaced_eq_false_iff {word : String} :
    isMisplaced word.toList = false ↔ word ∉ Identifier.keywords ∨ word ∈ constants := by
  rw [isMisplaced, Bool.and_eq_false_iff, Bool.not_eq_false', any_toList_eq_iff, Bool.eq_false_iff,
    ne_eq, any_toList_eq_iff]

end Lexeme

theorem isIdentifier_of_mem_constants :
    ∀ type ∈ Lexeme.constants, Identifier.IsIdentifier type.toList := by
  decide +kernel

theorem head_of_isIdentifier {word : List Char} (identifier : Identifier.IsIdentifier word) :
    word.head?.any Character.isAsciiDigit = false := by
  cases word with
  | nil => rfl
  | cons first rest => exact Lexeme.isAsciiDigit_of_mayStart identifier.start

theorem head_of_isNumber {word : List Char} (number : Lexeme.IsNumber word) :
    word.head?.any Character.isAsciiDigit = true := by
  cases word with
  | nil => cases number
  | cons first rest => exact number.digit

section Types

variable {type : String}

theorem isTypeWord_of_digit (digit : type.toList.head?.any Character.isAsciiDigit = true) :
    IsTypeWord type ↔ Lexeme.IsNumber type.toList := by
  have noIdentifier : ¬ Identifier.IsIdentifier type.toList := by
    intro identifier
    rw [head_of_isIdentifier identifier] at digit
    cases digit
  constructor
  · rintro (plain | constant | number)
    · exact absurd plain.identifier noIdentifier
    · exact absurd (isIdentifier_of_mem_constants type constant) noIdentifier
    · exact number
  · exact fun number => .inr (.inr number)

theorem isTypeWord_of_not_digit
    (noDigit : type.toList.head?.any Character.isAsciiDigit = false) :
    IsTypeWord type ↔ Identifier.IsIdentifier type.toList ∧
      (type ∉ Identifier.keywords ∨ type ∈ Lexeme.constants) := by
  constructor
  · rintro (plain | constant | number)
    · exact ⟨plain.identifier, .inl plain.free⟩
    · exact ⟨isIdentifier_of_mem_constants type constant, .inr constant⟩
    · rw [head_of_isNumber number] at noDigit
      cases noDigit
  · rintro ⟨identifier, free | constant⟩
    · exact .inl ⟨identifier, free⟩
    · exact .inr (.inl constant)

/-- A type that is not too long is in order just if it is one of the language's words for it. -/
theorem SourceWord.check_type_iff (short : type.toList.length ≤ Lexeme.longestInteger) :
    (SourceWord.type type).check = .ok none ↔ IsTypeWord type := by
  rw [check]
  cases digit : type.toList.head?.any Character.isAsciiDigit with
  | true =>
      rw [isTypeWord_of_digit digit]
      cases word : type.toList with
      | nil => simp [word] at digit
      | cons first rest =>
          rw [word] at digit short
          exact Lexeme.checkType_of_digit digit short
  | false =>
      rw [isTypeWord_of_not_digit digit, ← Lexeme.isMisplaced_eq_false_iff]
      by_cases empty : type.toList = []
      · rw [empty]
        refine iff_of_false (by simp [Lexeme.checkType]) ?_
        rintro ⟨identifier, -⟩
        cases identifier.start
      · exact Lexeme.checkType_of_not_digit empty digit

end Types

end Stencil
