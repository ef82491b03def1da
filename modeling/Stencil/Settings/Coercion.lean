import Stencil.Number.MachineWord
import Stencil.Text.Blank
import Stencil.Toml.Scalar
import Stencil.Value.Basic

/-!
Values taken for what is wanted although they are of another kind: words and numbers for a truth
value, whole numbers and numerals for an integer. What cannot be taken has a problem.
-/

namespace Stencil.Settings

/-- What is wrong with the value of an option. -/
inductive Problem where
  | level
  | format
  | text
  | truth
  | truthWord
  | integer
  | numeral
  | fractional
  | notFinite
  | tooLarge
  | below (least : Int)
  | tuple
  | «section» (model : String)
  | extra
deriving DecidableEq, Repr

/-! ## Truth values -/

def trueWords : List String := ["1", "t", "true", "y", "yes", "on"]

def falseWords : List String := ["0", "f", "false", "n", "no", "off"]

def truthOfWord? (word : String) : Option Bool :=
  let small := String.ofList (word.toList.map Char.toLower)
  if trueWords.contains small then some true
  else if falseWords.contains small then some false
  else none

def truthOfInteger? (value : Int) : Option Bool :=
  if value == 0 then some false else if value == 1 then some true else none

def toTruth : Value → Except Problem Bool
  | .bool value => .ok value
  | .text word =>
      match truthOfWord? word with
      | some value => .ok value
      | none => .error .truthWord
  | value =>
      match value.wholeNumber? with
      | none => .error .truth
      | some whole =>
          if !fitsSigned whole then .error .truth
          else match truthOfInteger? whole with
          | some truth => .ok truth
          | none => .error .truthWord

/-! ## Integers -/

def isBlankAroundNumeral (c : Char) : Bool :=
  Character.isBlank c && !(0x1c ≤ c.toNat && c.toNat ≤ 0x1f)

def trimNumeral (text : List Char) : List Char :=
  ((text.dropWhile isBlankAroundNumeral).reverse.dropWhile isBlankAroundNumeral).reverse

/-- A numeral without the zeros at its front, among which underscores may stand. The zero in front
of a point stays, and of zeros alone the last character. `last` is the character before. -/
def dropZeros? (last : Char) : List Char → Option (List Char)
  | [] => some [last]
  | c :: rest =>
      if c == '0' || c == '_' then dropZeros? c rest
      else if c == '.' then some (last :: c :: rest)
      else if Toml.isDigit c || c == '-' then some (c :: rest)
      else none

/-- A numeral from its first digit other than zero on, or from a minus sign behind zeros. -/
def leadingDigits? : List Char → Option (List Char)
  | [] => none
  | c :: rest =>
      if c == '0' then dropZeros? c rest
      else if Toml.isDigit c then some (c :: rest)
      else none

/-- A numeral without zeros behind its sign. A plus sign is dropped. -/
def significantDigits? : List Char → Option (List Char)
  | '-' :: rest => (leadingDigits? rest).map ('-' :: ·)
  | '+' :: rest => leadingDigits? rest
  | unsigned => leadingDigits? unsigned

/-- A fraction of zeros alone does not count. -/
def dropZeroFraction (text : List Char) : List Char :=
  match text.dropWhile (· != '.') with
  | _ :: zero :: zeros =>
      if (zero :: zeros).all (· == '0') then text.takeWhile (· != '.') else text
  | _ => text

def hasDoubleUnderscore : List Char → Bool
  | '_' :: '_' :: _ => true
  | _ :: rest => hasDoubleUnderscore rest
  | [] => false

/-- A numeral without its underscores, which must be single and inside. -/
def dropUnderscores? (text : List Char) : Option (List Char) :=
  if text.head? == some '_' || text.getLast? == some '_' || hasDoubleUnderscore text then none
  else some (text.filter (· != '_'))

/-- The integer of a plain numeral: a minus sign if it is negative, and digits of which the first
is no zero unless it is the only one. -/
def plainInteger? (text : List Char) : Option (Except Problem Int) :=
  let (negative, digits) := match text with
    | '-' :: rest => (true, rest)
    | _ => (false, text)
  if digits.isEmpty || !digits.all Toml.isDigit then none
  else if digits.head? == some '0' && digits.length != 1 then none
  else if Toml.longestInteger < digits.length then some (.error .tooLarge)
  else
    let magnitude : Int := Toml.naturalOf digits
    some (.ok (if negative then -magnitude else magnitude))

/-- A numeral in its plain form. -/
def plainNumeral? (text : List Char) : Option (List Char) := do
  dropUnderscores? (dropZeroFraction (← significantDigits? (trimNumeral text)))

/-- The integer that a text stands for. Only a plain numeral can be too large: one that has to be
brought into its plain form and has too many digits is no numeral. -/
def integerOfNumeral (text : String) : Except Problem Int :=
  match plainInteger? text.toList, (plainNumeral? text.toList).bind plainInteger? with
  | some result, _ => result
  | none, some (.ok value) => .ok value
  | none, _ => .error .numeral

def toInteger : Value → Except Problem Int
  | .int value => .ok value
  | .bool value => .ok (if value then 1 else 0)
  | .text numeral => integerOfNumeral numeral
  | .float value =>
      if !value.isFinite then .error .notFinite
      else match value.toInt? with
      | none => .error .fractional
      | some whole =>
          if -signedLimit < whole && whole < signedLimit then .ok whole else .error .tooLarge
  | _ => .error .integer

def toIntegerFrom (least : Int) (value : Value) : Except Problem Int := do
  let whole ← toInteger value
  if least ≤ whole then return whole else .error (.below least)

example : (["5", " 1_000 ", "+007", "3.0", "0_1", "-010", "00-1"].map
    fun text => (integerOfNumeral text).toOption) =
    [some 5, some 1000, some 7, some 3, some 1, some (-10), some (-1)] := by
  decide +kernel

example : (["", "1.5", "1__0", "+-1", "x", "1.", "-_1"].map
    fun text => (integerOfNumeral text).toOption) =
    List.replicate 7 none := by
  decide +kernel

end Stencil.Settings
