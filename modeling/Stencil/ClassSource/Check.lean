import Stencil.ClassSource.Emit
import Stencil.ClassSource.Lexeme

/-!
The syntax check of generated source. All of it is fixed but for names, types and the level at
which a row stands, so these alone are looked at. Of several faults the first one of a word by
itself is told; only where every word is in order does a misplaced one count. Nothing is read
beyond a row that stands too deep.
-/

namespace Stencil

/-- Generated source that the language refuses; `line` counts from one. -/
structure SourceError where
  line : Nat
  fault : SyntaxFault
deriving DecidableEq, Repr

/-- The number of levels, the outermost among them, at which rows may not stand any more. -/
def levelLimit : Nat := 100

def codePointLabel (c : Char) : String :=
  let digits := (Nat.toDigits 16 c.toNat).map Char.toUpper
  "U+" ++ .ofList (List.replicate (4 - digits.length) '0' ++ digits)

namespace SyntaxFault

def message : SyntaxFault → String
  | misplaced => "invalid syntax"
  | badLiteral radix => s!"invalid {radix.description} literal"
  | badDigit digit radix => s!"invalid digit '{digit}' in {radix.description} literal"
  | leadingZero =>
      "leading zeros in decimal integer literals are not permitted; " ++
        "use an 0o prefix for octal integers"
  | badCharacter c => s!"invalid character '{c}' ({codePointLabel c})"
  | longLiteral digits =>
      s!"Exceeds the limit ({Lexeme.longestInteger} digits) for integer string conversion: " ++
        s!"value has {digits} digits; use sys.set_int_max_str_digits() to increase the limit" ++
        " - Consider hexadecimal for huge integer literals to avoid decimal conversion limits."
  | tooDeep => "too many levels of indentation"

end SyntaxFault

def SourceError.message (error : SourceError) : String :=
  s!"Generated source is not valid Python: {error.fault.message} (line {error.line})"

namespace SourceWord

def check : SourceWord → Except SyntaxFault (Option SyntaxFault)
  | name text => (Lexeme.checkName text.toList).map fun _ => none
  | type text => Lexeme.checkType text.toList

/-- The first faulty word, or else the first misplaced one. -/
def checkAll : List SourceWord → Except SyntaxFault (Option SyntaxFault)
  | [] => .ok none
  | word :: later =>
      match word.check, checkAll later with
      | .error fault, _ => .error fault
      | .ok _, .error fault => .error fault
      | .ok (some fault), .ok _ => .ok (some fault)
      | .ok none, .ok fault => .ok fault

end SourceWord

/-- Checks rows, the first of them at number `line`; `pending` is a misplaced word met before. -/
def checkRows (pending : Option SourceError) (line : Nat) : List Row → Option SourceError
  | [] => pending
  | row :: later =>
      if levelLimit ≤ row.depth && row.text != "" then some (pending.getD ⟨line, .tooDeep⟩)
      else match SourceWord.checkAll row.words with
      | .error fault => some ⟨line, fault⟩
      | .ok found => checkRows (pending.or (found.map (⟨line, ·⟩))) (line + 1) later

/-- What is wrong with the source of a tree of scopes, if anything is. -/
def sourceError? (scope : Scope) : Option SourceError :=
  checkRows none 1 (moduleRows scope)

/-- The source of the module of a tree of scopes, checked if that is asked for. -/
def emitModule (scope : Scope) (validate : Bool) : Except SourceError String :=
  match validate, sourceError? scope with
  | true, some error => .error error
  | _, _ => .ok (moduleSource scope)

end Stencil
