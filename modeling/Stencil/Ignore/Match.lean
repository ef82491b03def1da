import Stencil.Ignore.Pattern

/-!
Paths held against ignore patterns. The last of several patterns that match a path decides
whether it is ignored.
-/

namespace Stencil.Ignore

/-- Whether `next` accepts the text after some stretch of characters of the class `member`. -/
def anyStretch (member : Char → Bool) (next : List Char → Bool) : List Char → Bool
  | [] => next []
  | c :: rest => next (c :: rest) || (member c && anyStretch member next rest)

/-- Whether `next` accepts the text after a slash at the head. -/
def afterSlash (next : List Char → Bool) : List Char → Bool
  | '/' :: rest => next rest
  | _ => false

def isInName (c : Char) : Bool := c != '/'

def isInLine (c : Char) : Bool := c != '\n'

/-- A path ends before a line feed that is its last character, too. -/
def endsName (text : List Char) : Bool :=
  text == [] || text == ['\n'] || text.head? == some '/'

/-- Whether the tokens match some piece of the text that begins at its head. -/
def matchTokens : List Token → List Char → Bool
  | [], _ => true
  | token :: later, text =>
      match token, text with
      | .literal c, head :: rest => c == head && matchTokens later rest
      | .one, head :: rest => isInName head && matchTokens later rest
      | .many, _ => anyStretch isInName (matchTokens later) text
      | .name, head :: rest => isInName head && anyStretch isInName (matchTokens later) rest
      | .oneOf negated members, head :: rest =>
          (negated != members.any (·.holds head)) && matchTokens later rest
      | .slash, '/' :: rest => matchTokens later rest
      | .directories, _ =>
          matchTokens later text ||
            (match text with
            | head :: rest => isInLine head && anyStretch isInLine (afterSlash (matchTokens later)) rest
            | [] => false)
      | .between, _ =>
          matchTokens later text ||
            (match text with
            | '/' :: head :: rest => isInLine head && anyStretch isInLine (matchTokens later) rest
            | _ => false)
      | .nameEnd, _ => endsName text
      | _, _ => false

def Shape.accepts (shape : Shape) (path : List Char) : Bool :=
  match shape with
  | .anything => path.any isInLine
  | .anyDirectory => path.contains '/'
  | .tokens list => matchTokens list path
  | .nothing => false

/-- A path without the slash, or the dot and the slash, at its front. -/
def relativePath (path : List Char) : List Char :=
  match path with
  | '/' :: rest => rest
  | '.' :: '/' :: rest => rest
  | _ => path

/-- Whether the last pattern that matches `path` ignores it. -/
def ignored (patterns : List Pattern) (path : String) : Bool :=
  let text := relativePath path.toList
  match patterns.reverse.find? (·.shape.accepts text) with
  | some pattern => pattern.ignores
  | none => false

end Stencil.Ignore
