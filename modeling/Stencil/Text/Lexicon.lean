import Stencil.Text.Lines

/-!
Dictionaries kept as text: words in turn with what they stand for, with spaces or line feeds
between them.
-/

namespace Stencil

/-- Words with what they stand for. -/
abbrev Lexicon := List (String × String)

namespace Lexicon

/-- The words of a text. -/
def wordsOf (text : String) : List String :=
  let spaced := text.toList.map fun c => if c == '\n' then ' ' else c
  ((splitAt ' ' spaced).filter (!·.isEmpty)).map .ofList

def pairs : List String → Lexicon
  | word :: meaning :: later => (word, meaning) :: pairs later
  | _ => []

def ofText (text : String) : Lexicon := pairs (wordsOf text)

def find? (lexicon : Lexicon) (word : String) : Option String :=
  (List.find? (fun (entry : String × String) => entry.1 == word) lexicon).map (·.2)

example : find? (ofText "  one 1\n  two 2") "two" = some "2" := by decide +kernel

end Lexicon

end Stencil
