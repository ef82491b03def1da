import Stencil.Text.Lines
import Stencil.Text.Quoted

/-!
Ignore patterns. A pattern is a chain of name globs between slashes, in which two stars stand for
any directories. It is read into a list of tokens that a path is held against from its front; a
pattern that says no more than "any path" or "any path below a directory" is kept as such, and one
with an open bracket, like a comment, never matches.
-/

namespace Stencil.Ignore

/-- What a bracket has in it. -/
inductive BracketMember where
  | single (c : Char)
  | range (first last : Char)
deriving DecidableEq, Repr

def BracketMember.holds : BracketMember → Char → Bool
  | single c, other => c == other
  | range first last, c => first ≤ c && c ≤ last

def BracketMember.isReversed : BracketMember → Bool
  | single _ => false
  | range first last => last < first

inductive Token where
  | literal (c : Char)
  /-- One character of a name. -/
  | one
  /-- Any characters of a name. -/
  | many
  /-- All of a name, which has one character at least. -/
  | name
  | oneOf (negated : Bool) (members : List BracketMember)
  | slash
  /-- Any directories above the next name, or none. -/
  | directories
  /-- Any directories between a name and the next slash, or none. -/
  | between
  /-- The end of a name: the path ends here or goes on below it. -/
  | nameEnd
deriving DecidableEq, Repr

inductive Shape where
  | anything
  | anyDirectory
  | tokens (tokens : List Token)
  | nothing
deriving DecidableEq, Repr

/-- `ignores` is false for a pattern that takes back what earlier ones ignore. -/
structure Pattern where
  ignores : Bool
  shape : Shape
deriving DecidableEq, Repr

/-! ## Expressions -/

/-- Characters that mean something in the expression of a pattern, so that an escape stands in
front of them. -/
def specialCharacters : List Char :=
  "()[]\x7b\x7d?*+-|^$\\.&~# \t\n\r\x0b\x0c".toList

def charInBracket (c : Char) : List Char := if c == '\\' then ['\\', '\\'] else [c]

def BracketMember.expression : BracketMember → List Char
  | single c => charInBracket c
  | range first last => charInBracket first ++ '-' :: charInBracket last

/-- The opening of a bracket. -/
def opening (negated : Bool) : List Char := if negated then ['[', '^'] else ['[']

/-- A token as a piece of a regular expression. -/
def Token.expression : Token → List Char
  | literal c => if specialCharacters.contains c then ['\\', c] else [c]
  | one => "[^/]".toList
  | many => "[^/]*".toList
  | name => "[^/]+".toList
  | oneOf negated members => opening negated ++ members.flatMap BracketMember.expression ++ [']']
  | slash => ['/']
  | directories => "(?:.+/)?".toList
  | between => "(?:/.+)?".toList
  | nameEnd => "(?:/|$)".toList

/-- The regular expression that says the same as the tokens. -/
def expression (tokens : List Token) : List Char :=
  '^' :: tokens.flatMap Token.expression

/-- A place in an expression. -/
structure Place where
  expression : List Char
  position : Nat
deriving DecidableEq, Repr

/-- The words for a place, with line and column if the expression has several lines. -/
def Place.words (place : Place) : String :=
  let before := place.expression.take place.position
  let column := (before.reverse.takeWhile (· != '\n')).length + 1
  let line := before.count '\n' + 1
  s!"at position {place.position}" ++
    if place.expression.contains '\n' then s!" (line {line}, column {column})" else ""

inductive PatternError where
  | invalid (pattern : String)
  /-- A range whose characters stand in the wrong order. -/
  | reversedRange (first last : Char) (place : Place)
deriving DecidableEq, Repr

def PatternError.message : PatternError → String
  | invalid pattern => s!"Invalid git pattern: {Quoted.literal pattern}"
  | reversedRange first last place =>
      s!"bad character range {String.ofList (BracketMember.range first last).expression} " ++
        place.words

/-! ## Globs -/

/-- The members of a bracket; a hyphen joins its neighbours unless it stands last. -/
def bracketMembers : List Char → List BracketMember
  | first :: '-' :: last :: later => .range first last :: bracketMembers later
  | c :: later => .single c :: bracketMembers later
  | [] => []

/-- The contents of a bracket that has just been opened, and whether they are negated. A closing
bracket in first place is one of the contents. -/
def bracket? (rest : List Char) : Option (Bool × List Char) :=
  let negated := rest.head? == some '!' || rest.head? == some '^'
  let inside := if negated then rest.tail else rest
  let guarded := if inside.head? == some ']' then 1 else 0
  let contents := inside.take guarded ++ (inside.drop guarded).takeWhile (· != ']')
  if contents.length < inside.length then some (negated, contents) else none

/-- Why a glob has no tokens. -/
inductive GlobFault where
  | openBracket
  | danglingEscape
deriving DecidableEq, Repr

/-- The tokens of a name glob whose first `skip` characters belong to a token already read. -/
def globAfter (skip : Nat) : List Char → Except GlobFault (List Token)
  | [] => .ok []
  | c :: rest =>
      match skip with
      | skip + 1 => globAfter skip rest
      | 0 =>
          if c == '\\' then
            match rest with
            | [] => .error .danglingEscape
            | escaped :: _ => (globAfter 1 rest).map (.literal escaped :: ·)
          else if c == '*' then (globAfter 0 rest).map (.many :: ·)
          else if c == '?' then (globAfter 0 rest).map (.one :: ·)
          else if c == '[' then
            match bracket? rest with
            | none => .error .openBracket
            | some (negated, contents) =>
                (globAfter (contents.length + 1 + if negated then 1 else 0) rest).map
                  (.oneOf negated (bracketMembers contents) :: ·)
          else (globAfter 0 rest).map (.literal c :: ·)

/-- The tokens of a name glob. A lone star stands for a whole name. -/
def glob (name : List Char) : Except GlobFault (List Token) :=
  if name == ['*'] then .ok [.name] else globAfter 0 name

/-! ## Segments -/

def doubleStar : List Char := ['*', '*']

/-- Takes off the empty segment of a slash in front. A pattern with no slash but one at its end
may stand at any depth. -/
def anchor (segments : List (List Char)) : List (List Char) :=
  match segments with
  | [] :: later => later
  | [only] => if only == doubleStar then segments else doubleStar :: segments
  | [only, []] => if only == doubleStar then segments else doubleStar :: segments
  | _ => segments

/-- Two stars take the place of the empty segment behind a slash at the end. -/
def closeDirectory : List (List Char) → List (List Char)
  | [] => []
  | [[]] => [doubleStar]
  | segment :: later => segment :: closeDirectory later

/-- Leaves one of several neighbouring double stars. -/
def mergeStars : List (List Char) → List (List Char)
  | [] => []
  | segment :: later =>
      if segment == doubleStar && later.head? == some doubleStar then mergeStars later
      else segment :: mergeStars later

/-- The tokens of the segments after the first one; `slashDue` says whether a slash stands between
the segment before and the next name. -/
def laterTokens (slashDue : Bool) : List (List Char) → Except GlobFault (List Token)
  | [] => .ok []
  | segment :: later => do
      let joint : List Token := if slashDue then [.slash] else []
      if segment == doubleStar then
        if later.isEmpty then return [.slash]
        else return .between :: (← laterTokens true later)
      else
        let name ← glob segment
        if later.isEmpty then return joint ++ name ++ [.nameEnd]
        else return joint ++ name ++ (← laterTokens true later)

def segmentTokens : List (List Char) → Except GlobFault (List Token)
  | [] => .ok []
  | segment :: later =>
      if segment == doubleStar then do return .directories :: (← laterTokens false later)
      else laterTokens false (segment :: later)

/-! ## Reversed ranges -/

/-- The first range of a bracket in the wrong order and its position, the token standing at
`position`. -/
def Token.reversedRange? (position : Nat) : Token → Option (Char × Char × Nat)
  | oneOf negated members =>
      let before := members.takeWhile fun member => !member.isReversed
      match members[before.length]? with
      | some (.range first last) =>
          let start := opening negated ++ before.flatMap BracketMember.expression
          some (first, last, position + start.length)
      | _ => none
  | _ => none

/-- The first range in the wrong order and its position, the first token standing at `position`. -/
def reversedRange? (position : Nat) : List Token → Option (Char × Char × Nat)
  | [] => none
  | token :: later =>
      (token.reversedRange? position).or
        (reversedRange? (position + token.expression.length) later)

/-- The tokens of a pattern whose ranges are all in order. -/
def checkRanges (tokens : List Token) : Except PatternError (List Token) :=
  match reversedRange? 1 tokens with
  | some (first, last, position) =>
      .error (.reversedRange first last ⟨expression tokens, position⟩)
  | none => .ok tokens

/-! ## Patterns -/

/-- What segments in their final form ask for; `directory` says whether a slash stood at the end. -/
def shapeOf (directory : Bool) (segments : List (List Char)) : Except GlobFault Shape :=
  if segments == [doubleStar] then .ok (if directory then .anyDirectory else .anything)
  else if segments == [doubleStar, ['*']] then .ok .anything
  else if segments == [doubleStar, ['*'], doubleStar] then .ok .anyDirectory
  else (segmentTokens segments).map .tokens

/-- Blanks at the end of a pattern do not count, unless the last one is an escaped space. -/
def stripEnd (pattern : List Char) : List Char :=
  if pattern.reverse.take 2 == [' ', '\\'] then pattern else trimEnd pattern

/-- The pattern that a line of an ignore file stands for. -/
def Pattern.read (given : String) : Except PatternError Pattern :=
  let text := stripEnd given.toList
  if text.isEmpty || text.head? == some '#' || text == ['/'] then .ok ⟨true, .nothing⟩
  else
    let ignores := text.head? != some '!'
    let segments := splitAt '/' (if ignores then text else text.tail)
    let anchored := anchor segments
    if anchored.isEmpty then .error (.invalid given)
    else match shapeOf (segments.getLast? == some []) (mergeStars (closeDirectory anchored)) with
    | .error .danglingEscape => .error (.invalid given)
    | .error .openBracket => .ok ⟨true, .nothing⟩
    | .ok (.tokens tokens) => (checkRanges tokens).map fun tokens => ⟨ignores, .tokens tokens⟩
    | .ok shape => .ok ⟨ignores, shape⟩

example : (Pattern.read "*.bak").toOption =
    some ⟨true, .tokens ([.directories, .many] ++ ".bak".toList.map .literal ++ [.nameEnd])⟩ := by
  decide +kernel

example : (Pattern.read "!/a/").toOption =
    some ⟨false, .tokens [.literal 'a', .slash]⟩ := by
  decide +kernel

end Stencil.Ignore
