import Stencil.Toml.Quotation
import Stencil.Value.Basic

/-!
Dates, times and numbers of TOML documents. Each is the longest stretch of the text that has its
form, so that what follows may be a fault of its own.
-/

namespace Stencil.Toml

def isDigit (c : Char) : Bool := '0' ≤ c && c ≤ '9'

def naturalOf (digits : List Char) : Nat :=
  digits.foldl (fun value c => value * 10 + (c.toNat - 0x30)) 0

/-! ## Dates and times -/

/-- The number that exactly `width` digits at the head write, if it lies within bounds. -/
def fixedNumber? (width low high : Nat) (text : List Char) : Option (Nat × List Char) :=
  let digits := text.take width
  let value := naturalOf digits
  if digits.length == width && digits.all isDigit && low ≤ value && value ≤ high then
    some (value, text.drop width)
  else none

def expect? (c : Char) (text : List Char) : Option (List Char) :=
  if text.head? == some c then some text.tail else none

/-- A fraction of a second; digits beyond the sixth do not count. -/
def fraction (text : List Char) : Nat × List Char :=
  match text with
  | '.' :: rest =>
      let digits := rest.takeWhile isDigit
      if digits.isEmpty then (0, text)
      else
        let kept := digits.take 6
        (naturalOf kept * Nat.pow 10 (6 - kept.length), rest.drop digits.length)
  | _ => (0, text)

def timeOfDay? (text : List Char) : Option (TimeOfDay × List Char) := do
  let (hour, rest) ← fixedNumber? 2 0 23 text
  let (minute, rest) ← fixedNumber? 2 0 59 (← expect? ':' rest)
  let (second, rest) ← fixedNumber? 2 0 59 (← expect? ':' rest)
  let (microsecond, rest) := fraction rest
  return (⟨hour, minute, second, microsecond⟩, rest)

def numericOffset? (sign : Int) (text : List Char) : Option (Int × List Char) := do
  let (hour, rest) ← fixedNumber? 2 0 23 text
  let (minute, rest) ← fixedNumber? 2 0 59 (← expect? ':' rest)
  return (sign * (hour * 60 + minute : Nat), rest)

/-- The offset behind a time, in minutes; a text that is none belongs to what follows. -/
def offset (text : List Char) : Option Int × List Char :=
  match text with
  | [] => (none, text)
  | c :: rest =>
      let found? :=
        if c == 'Z' || c == 'z' then some (0, rest)
        else if c == '+' then numericOffset? 1 rest
        else if c == '-' then numericOffset? (-1) rest
        else none
      match found? with
      | some (minutes, left) => (some minutes, left)
      | none => (none, text)

/-- The time behind a date, after a letter or a space. -/
def timePart? (text : List Char) : Option (TimeOfDay × List Char) :=
  match text with
  | c :: rest => if c == 'T' || c == 't' || c == ' ' then timeOfDay? rest else none
  | [] => none

def yearMonthDay? (text : List Char) : Option (Date × List Char) := do
  let (year, rest) ← fixedNumber? 4 0 9999 text
  let (month, rest) ← fixedNumber? 2 1 12 (← expect? '-' rest)
  let (day, rest) ← fixedNumber? 2 1 31 (← expect? '-' rest)
  return (⟨year, month, day⟩, rest)

/-- A date with or without a time, or a time alone. A date that the calendar does not have is a
fault. -/
def calendarValue? (text : List Char) : Option (Except Fault (Value × List Char)) :=
  match yearMonthDay? text with
  | some (date, rest) =>
      some <|
        if !date.isValid then failAt text .invalidDate
        else match timePart? rest with
        | none => .ok (.date date, rest)
        | some (time, rest) =>
            let (minutes, rest) := offset rest
            .ok (.dateTime ⟨date, time, minutes⟩, rest)
  | none => (timeOfDay? text).map fun (time, rest) => .ok (.time time, rest)

/-! ## Numbers -/

/-- The digits at the head of a text, single underscores between them left out, and what is left. -/
def digitRun (isMember : Char → Bool) : List Char → List Char × List Char
  | [] => ([], [])
  | c :: rest =>
      if isMember c then
        let (digits, left) := digitRun isMember rest
        (c :: digits, left)
      else if c == '_' && rest.head?.any isMember then digitRun isMember rest
      else ([], c :: rest)

/-- A run of digits that begins with one. -/
def digitRun? (isMember : Char → Bool) (text : List Char) : Option (List Char × List Char) :=
  if text.head?.any isMember then some (digitRun isMember text) else none

def valueIn (radix : Nat) (digits : List Char) : Nat :=
  digits.foldl (fun value c => value * radix + (hexDigitValue? c).getD 0) 0

def isHexDigit (c : Char) : Bool := (hexDigitValue? c).isSome

def isOctalDigit (c : Char) : Bool := '0' ≤ c && c ≤ '7'

def isBinaryDigit (c : Char) : Bool := c == '0' || c == '1'

/-- An integer behind a zero and a letter that names its radix. -/
def radixNumber? (text : List Char) : Option (Value × List Char) := do
  let (radix, isMember, rest) ← match text with
    | '0' :: 'x' :: rest => some (16, isHexDigit, rest)
    | '0' :: 'b' :: rest => some (2, isBinaryDigit, rest)
    | '0' :: 'o' :: rest => some (8, isOctalDigit, rest)
    | _ => none
  let (digits, rest) ← digitRun? isMember rest
  return (.int (valueIn radix digits : Nat), rest)

/-- The digits in front of a point or an exponent. A zero stands there alone. -/
def wholePart? (text : List Char) : Option (List Char × List Char) :=
  match text with
  | '0' :: rest => some (['0'], rest)
  | _ => digitRun? isDigit text

def fractionPart? (text : List Char) : Option (List Char × List Char) := do
  digitRun? isDigit (← expect? '.' text)

def exponentPart? (text : List Char) : Option (Int × List Char) := do
  let rest ← (expect? 'e' text).or (expect? 'E' text)
  let (sign, rest) : Int × List Char := match rest with
    | '+' :: rest => (1, rest)
    | '-' :: rest => (-1, rest)
    | _ => (1, rest)
  let (digits, rest) ← digitRun? isDigit rest
  return (sign * naturalOf digits, rest)

/-- An integer or a decimal fraction. -/
def decimalNumber? (text : List Char) : Option (Except Fault (Value × List Char)) := do
  let (negative, unsigned) := match text with
    | '+' :: rest => (false, rest)
    | '-' :: rest => (true, rest)
    | _ => (false, text)
  let (whole, rest) ← wholePart? unsigned
  match fractionPart? rest, exponentPart? ((fractionPart? rest).elim rest (·.2)) with
  | none, none =>
      if longestInteger < whole.length then some (failAt text (.longInteger whole.length))
      else
        let value : Int := naturalOf whole
        some (.ok (.int (if negative then -value else value), rest))
  | fraction?, exponent? =>
      let digits := whole ++ fraction?.elim [] (·.1)
      let places : Int := (fraction?.elim [] (·.1)).length
      let left := exponent?.elim (fraction?.elim rest (·.2)) (·.2)
      some (.ok (.float (.ofDecimal negative (naturalOf digits) (exponent?.elim 0 (·.1) - places)),
        left))

/-- The numbers without digits. -/
def specialNumber? (text : List Char) : Option (Value × List Char) :=
  let (negative, unsigned) := match text with
    | '+' :: rest => (false, rest)
    | '-' :: rest => (true, rest)
    | _ => (false, text)
  match unsigned with
  | 'i' :: 'n' :: 'f' :: rest => some (.float (.infinite negative), rest)
  | 'n' :: 'a' :: 'n' :: rest => some (.float .notANumber, rest)
  | _ => none

/-- A value that is neither a string nor holds other values. -/
def scalar (text : List Char) : Except Fault (Value × List Char) :=
  if "true".toList.isPrefixOf text then .ok (.bool true, text.drop 4)
  else if "false".toList.isPrefixOf text then .ok (.bool false, text.drop 5)
  else match calendarValue? text with
  | some reading => reading
  | none =>
      match radixNumber? text with
      | some found => .ok found
      | none =>
          match decimalNumber? text with
          | some reading => reading
          | none =>
              match specialNumber? text with
              | some found => .ok found
              | none => failAt text .invalidValue

example : ((scalar "1_000 ".toList).toOption.bind (·.1.wholeNumber?)) = some 1000 := by
  decide +kernel

end Stencil.Toml
