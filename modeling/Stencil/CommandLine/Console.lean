import Stencil.Text.Case
import Stencil.Text.Cells
import Stencil.Text.EmojiName

/-!
Text as a console shows it. Tags in square brackets are markup to a console, so a message is
escaped before it is shown; what comes out is the message but for a backslash before a bracket
that begins no tag, which is lost, and for a single one at the end, which is doubled. Names of
emoji between colons become the emoji, control characters are dropped, and tabs become blanks.
-/

namespace Stencil.CommandLine

/-! ## Tags -/

/-- Characters that a tag may begin with. -/
def beginsTagName (c : Char) : Bool :=
  ('a' ≤ c && c ≤ 'z') || c == '#' || c == '/' || c == '@'

/-- Whether a closing bracket comes before any opening one. -/
def closesTag : List Char → Bool
  | [] => false
  | c :: rest => c == ']' || (c != '[' && closesTag rest)

/-- Whether what follows an opening bracket makes a tag of it. -/
def isTag : List Char → Bool
  | [] => false
  | c :: rest => beginsTagName c && closesTag rest

/-- Tags and the pieces of text between them. -/
def splitTags (inTag : Bool) : List Char → List (List Char)
  | [] => [[]]
  | c :: rest =>
      if inTag then
        if c == ']' then [c] :: splitTags false rest else extendFirst c (splitTags true rest)
      else if c == '[' && isTag rest then [] :: extendFirst c (splitTags true rest)
      else extendFirst c (splitTags false rest)

example : splitTags false "a[b]\\[0".toList = [['a'], ['[', 'b', ']'], ['\\', '[', '0']] := by
  decide +kernel

/-- Drops a backslash before a bracket. -/
def dropBracketEscapes : List Char → List Char
  | '\\' :: '[' :: rest => '[' :: dropBracketEscapes rest
  | c :: rest => c :: dropBracketEscapes rest
  | [] => []

/-- Doubles a single backslash at the end. -/
def doubleLastEscape (text : List Char) : List Char :=
  if (text.reverse.takeWhile (· == '\\')).length == 1 then text ++ ['\\'] else text

/-! ## Emoji -/

/-- Endings of a name that ask for a form of its emoji. -/
def formEndings : List (String × Char) := [("-emoji", emojiSelector), ("-text", '\ufe0e')]

/-- The emoji that a word between colons names. -/
def namedEmoji? (word : List Char) : Option (List Char) :=
  let name := String.ofList word
  let form? := formEndings.findSome? fun (ending, selector) =>
    (EmojiName.before? ending name).map (·, selector)
  match form? with
  | some (name, selector) => (EmojiName.emoji? (lowerCase name)).map (· ++ [selector])
  | none => EmojiName.emoji? (lowerCase name)

/-- The word between a colon that has just been read and the next one. -/
def colonWord? (rest : List Char) : Option (List Char) :=
  let word := rest.takeWhile fun c => c != ':' && !Character.isBlank c
  if rest[word.length]? == some ':' then some word else none

/-- Emoji in place of their names, the first `skip` characters being dealt with already. A word
between colons that names no emoji stays, and its second colon begins no other word. -/
def replaceEmoji (skip : Nat) : List Char → List Char
  | [] => []
  | c :: rest =>
      match skip with
      | skip + 1 => replaceEmoji skip rest
      | 0 =>
          match if c == ':' then colonWord? rest else none with
          | some word =>
              (namedEmoji? word).getD (':' :: word ++ [':']) ++ replaceEmoji (word.length + 1) rest
          | none => c :: replaceEmoji 0 rest

/-! ## Lines -/

/-- Characters that move the cursor or ring a bell. -/
def isCursorControl (c : Char) : Bool :=
  c == '\x07' || c == '\x08' || c == '\x0b' || c == '\x0c' || c == '\r'

def tabWidth : Nat := 8

/-- The parts of a line between its tabs, with blanks up to the next multiple of their width in
place of each. -/
def expandTabs (column : Nat) : List (List Char) → List Char
  | [] => []
  | [last] => last
  | part :: later =>
      let spaced := part ++ [' ']
      let column := column + cellCount spaced
      let gap := (tabWidth - column % tabWidth) % tabWidth
      spaced ++ List.replicate gap ' ' ++ expandTabs (column + gap) later

/-- A text as the console shows it. -/
def shownOnConsole (text : List Char) : List Char :=
  let lines := splitAt '\n' (text.filter fun c => !isCursorControl c)
  ['\n'].intercalate (lines.map fun line => expandTabs 0 (splitAt '\t' line))

example : shownOnConsole "ab\tc\rd\n\t.".toList = "ab      cd\n        .".toList := by
  decide +kernel

/-- The line that tells of something done. -/
def plainLine (text : String) : String :=
  .ofList (shownOnConsole (replaceEmoji 0 text.toList) ++ ['\n'])

/-- A message without the escapes of its brackets, and with its emoji. No name of an emoji reaches
into a tag or out of one. -/
def messageText (message : String) : List Char :=
  (splitTags false (doubleLastEscape message.toList)).flatMap fun piece =>
    replaceEmoji 0 (dropBracketEscapes piece)

/-- The line that tells of an error. -/
def errorLine (message : String) : String :=
  .ofList (shownOnConsole ("Error: ".toList ++ messageText message) ++ ['\n'])

example : errorLine "a\\[b] \\[0] [red]\tx\\" = "Error: a\\[b] [0] [red]  x\\\\\n" := by
  decide +kernel

end Stencil.CommandLine
