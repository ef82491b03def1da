import Stencil.Toml.Scalar

/-!
TOML documents, read statement by statement. A statement gives a key its value or names the table
that the next ones fill. What has been declared is kept beside the tables themselves: an inline
table or array is closed for good, and a table is named once.
-/

namespace Stencil.Toml

/-! ## Keys -/

def isBareKeyCharacter (c : Char) : Bool :=
  ('a' ≤ c && c ≤ 'z') || ('A' ≤ c && c ≤ 'Z') || isDigit c || c == '-' || c == '_'

def keyPart (text : List Char) : Except Fault (String × List Char) :=
  match text with
  | [] => failAt [] .invalidKey
  | c :: rest =>
      if isBareKeyCharacter c then
        .ok (.ofList (text.takeWhile isBareKeyCharacter), text.dropWhile isBareKeyCharacter)
      else if c == '\'' then
        (literalUntil ['\''] isBarredFromLine rest).map fun (name, left) => (.ofList name, left)
      else if c == '"' then
        (basicAfter false 0 rest).map fun (name, left) => (.ofList name, left)
      else failAt text .invalidKey

/-- A key of parts between dots, with the blanks after it; `limit` bounds the number of parts. -/
def dottedKey : (limit : Nat) → List Char → Except Fault (Key × List Char)
  | 0, text => failAt text .invalidKey
  | limit + 1, text => do
      let (name, rest) ← keyPart text
      match skipBlanks rest with
      | '.' :: rest => do
          let (names, left) ← dottedKey limit (skipBlanks rest)
          return (name :: names, left)
      | left => return ([name], left)

def key (text : List Char) : Except Fault (Key × List Char) :=
  dottedKey (text.length + 1) text

/-! ## Tables of a document -/

/-- Changes the table at a chain of keys, which is made where it is missing. Where a key holds an
array of tables and `entersLists` is set, the chain goes on in the last one. None if a value
stands in the way. -/
def updateTable (entersLists : Bool) (change : Table → Option Table) (table : Table) :
    Key → Option Table
  | [] => change table
  | name :: later =>
      match Table.find? table name with
      | none => (updateTable entersLists change [] later).map fun inner =>
          Table.set table name (.table inner)
      | some (.table inner) => (updateTable entersLists change inner later).map fun inner =>
          Table.set table name (.table inner)
      | some (.list members) =>
          match entersLists, members.getLast? with
          | true, some (.table inner) => (updateTable entersLists change inner later).map fun inner =>
              Table.set table name (.list (members.dropLast ++ [.table inner]))
          | _, _ => none
      | some _ => none

/-- Adds an empty table to the array of tables at a key. -/
def appendTable (name : String) (table : Table) : Option Table :=
  match Table.find? table name with
  | none => some (Table.set table name (.list [.table []]))
  | some (.list members) => some (Table.set table name (.list (members ++ [.table []])))
  | some _ => none

/-- What has been declared. `closed` holds the keys of inline tables and arrays, `named` those of
tables that may not be named again, and `awaiting` those that will join them at the next table. -/
structure Declarations where
  closed : List Key := []
  named : List Key := []
  awaiting : List Key := []
deriving Repr

namespace Declarations

/-- Whether a key leads into an inline table or array. -/
def isClosed (declarations : Declarations) (key : Key) : Bool :=
  declarations.closed.any (·.isPrefixOf key)

def isNamed (declarations : Declarations) (key : Key) : Bool :=
  declarations.named.contains key

def close (declarations : Declarations) (key : Key) : Declarations :=
  { declarations with closed := key :: declarations.closed }

def name (declarations : Declarations) (key : Key) : Declarations :=
  { declarations with named := key :: declarations.named }

def await (declarations : Declarations) (keys : List Key) : Declarations :=
  { declarations with awaiting := keys ++ declarations.awaiting }

/-- The keys that were used as tables become named ones. -/
def settle (declarations : Declarations) : Declarations :=
  { declarations with named := declarations.awaiting ++ declarations.named, awaiting := [] }

/-- Forgets all at a key and below it. -/
def forget (declarations : Declarations) (key : Key) : Declarations :=
  { declarations with
    closed := declarations.closed.filter (!key.isPrefixOf ·)
    named := declarations.named.filter (!key.isPrefixOf ·) }

end Declarations

/-! ## Values -/

def holdsValues : Value → Bool
  | .list _ | .table _ => true
  | _ => false

/-- An inline table so far, and the keys in it whose values are closed. -/
structure InlineTable where
  entries : Table := []
  closed : List Key := []

/-- Adds the value of a key to an inline table; `rest` is what follows the value. -/
def InlineTable.add (inline : InlineTable) (key : Key) (value : Value) (rest : List Char) :
    Except Fault InlineTable :=
  let name := key.getLast?.getD ""
  let parents := key.dropLast
  if inline.closed.any (·.isPrefixOf key) then failAt rest (.immutable key)
  else match updateTable false some inline.entries parents with
  | none => failAt rest .overwritten
  | some _ =>
      let insert (table : Table) : Option Table :=
        if Table.contains table name then none else some (Table.set table name value)
      match updateTable false insert inline.entries parents with
      | none => failAt rest (.duplicateKey name)
      | some entries =>
          .ok ⟨entries, if holdsValues value then key :: inline.closed else inline.closed⟩

mutual

/-- A value; `limit` bounds the number of values and members still to be read. -/
def value : (limit : Nat) → List Char → Except Fault (Value × List Char)
  | 0, text => failAt text .invalidValue
  | limit + 1, text =>
      match text with
      | '"' :: _ | '\'' :: _ => (quotation text).map fun (contents, rest) => (.text contents, rest)
      | '[' :: rest => do
          match ← skipGaps text.length rest with
          | ']' :: rest => return (.list [], rest)
          | rest => do
              let (members, rest) ← arrayMembers limit rest
              return (.list members, rest)
      | '{' :: rest =>
          match skipBlanks rest with
          | '}' :: rest => return (.table [], rest)
          | rest => do
              let (entries, rest) ← inlineEntries limit {} rest
              return (.table entries, rest)
      | _ => scalar text

/-- The members of an array from one of them on, with the closing bracket. -/
def arrayMembers : (limit : Nat) → List Char → Except Fault (List Value × List Char)
  | 0, text => failAt text .openArray
  | limit + 1, text => do
      let (member, rest) ← value limit text
      match ← skipGaps text.length rest with
      | ']' :: rest => return ([member], rest)
      | ',' :: rest =>
          match ← skipGaps text.length rest with
          | ']' :: rest => return ([member], rest)
          | rest => do
              let (members, rest) ← arrayMembers limit rest
              return (member :: members, rest)
      | rest => failAt rest .openArray

/-- The entries of an inline table from one of them on, with the closing brace. -/
def inlineEntries : (limit : Nat) → InlineTable → List Char → Except Fault (Table × List Char)
  | 0, _, text => failAt text .openInlineTable
  | limit + 1, inline, text => do
      let (name, rest) ← key text
      match rest with
      | '=' :: rest => do
          let (member, rest) ← value limit (skipBlanks rest)
          let inline ← inline.add name member rest
          match skipBlanks rest with
          | '}' :: rest => return (inline.entries, rest)
          | ',' :: rest => inlineEntries limit inline (skipBlanks rest)
          | rest => failAt rest .openInlineTable
      | _ => failAt rest .missingEquals

end

/-! ## Statements -/

/-- A document so far; `current` is the table that the last header named. -/
structure Document where
  tables : Table := []
  declarations : Declarations := {}
  current : Key := []

namespace Document

/-- A key and its value. -/
def assign (document : Document) (text : List Char) : Except Fault (Document × List Char) := do
  let (name, rest) ← key text
  match rest with
  | '=' :: rest =>
      let (assigned, rest) ← value (text.length + 1) (skipBlanks rest)
      let prefixes := (List.range name.length).drop 1 |>.map fun count =>
        document.current ++ name.take count
      match prefixes.find? document.declarations.isNamed with
      | some named => failAt rest (.redefined named)
      | none =>
          let declarations := document.declarations.await prefixes
          let parents := document.current ++ name.dropLast
          let last := name.getLast?.getD ""
          let insert (table : Table) : Option Table :=
            if Table.contains table last then none else some (Table.set table last assigned)
          if declarations.isClosed parents then failAt rest (.immutable parents)
          else match updateTable true insert document.tables parents with
          | none => failAt rest .overwritten
          | some tables =>
              let declarations :=
                if holdsValues assigned then declarations.close (document.current ++ name)
                else declarations
              return ({ document with tables, declarations }, rest)
  | _ => failAt rest .missingEquals

/-- The name of a table between brackets, the first of which has been read. -/
def openTable (document : Document) (text : List Char) : Except Fault (Document × List Char) := do
  let (name, rest) ← key (skipBlanks text)
  let declarations := document.declarations
  if declarations.isNamed name || declarations.isClosed name then
    failAt rest (.declaredTwice name)
  else match updateTable true some document.tables name with
  | none => failAt rest .overwritten
  | some tables =>
      match rest with
      | ']' :: rest => return (⟨tables, declarations.name name, name⟩, rest)
      | _ => failAt rest .openTableName

/-- The name of an array of tables between double brackets, the first two of which have been
read. The array gets a new table, in which nothing is declared yet. -/
def openArray (document : Document) (text : List Char) : Except Fault (Document × List Char) := do
  let (name, rest) ← key (skipBlanks text)
  let append := appendTable (name.getLast?.getD "")
  if document.declarations.isClosed name then failAt rest (.immutable name)
  else match updateTable true append document.tables name.dropLast with
  | none => failAt rest .overwritten
  | some tables =>
      match rest with
      | ']' :: ']' :: rest =>
          return (⟨tables, (document.declarations.forget name).name name, name⟩, rest)
      | _ => failAt rest .openArrayName

/-- One statement, or nothing in front of a comment. -/
def statement (document : Document) (text : List Char) : Except Fault (Document × List Char) :=
  let settled := { document with declarations := document.declarations.settle }
  match text with
  | '#' :: _ => .ok (document, text)
  | '[' :: '[' :: rest => settled.openArray rest
  | '[' :: rest => settled.openTable rest
  | c :: _ =>
      if isBareKeyCharacter c || c == '"' || c == '\'' then document.assign text
      else failAt text .invalidStatement
  | [] => .ok (document, [])

/-- Reads lines; `limit` bounds their number. -/
def readLines : (limit : Nat) → Document → List Char → Except Fault Document
  | 0, document, _ => .ok document
  | limit + 1, document, text =>
      match skipBlanks text with
      | [] => .ok document
      | '\n' :: rest => readLines limit document rest
      | text => do
          let (document, rest) ← document.statement text
          match ← skipComment (skipBlanks rest) with
          | [] => return document
          | '\n' :: rest => readLines limit document rest
          | rest => failAt rest .statementGoesOn

end Document

/-- A carriage return before a line feed says nothing. -/
def dropReturns : List Char → List Char
  | '\r' :: '\n' :: rest => '\n' :: dropReturns rest
  | c :: rest => c :: dropReturns rest
  | [] => []

/-- The characters that the places of faults in a document count. -/
def documentText (document : String) : List Char := dropReturns document.toList

/-- The table that a document stands for. -/
def read (document : String) : Except Fault Table :=
  let text := documentText document
  (Document.readLines (text.length + 1) {} text).map (·.tables)

end Stencil.Toml
