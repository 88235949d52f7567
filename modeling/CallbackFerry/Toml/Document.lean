import CallbackFerry.Toml.Scalar
import CallbackFerry.Toml.Tree

/-!
# Documents

A document is a sequence of lines, each with at most one statement: a header, which names the table
that the following pairs go to, or a pair of a key and a value.  `Document.read` takes the text
apart into statements and `Document.value?` builds the tables from them; `Toml.read?` is both.

Lists and tables within values are nested at most seventy-nine deep, and a key has at most
seventy-nine parts.
-/

namespace CallbackFerry.Toml

/-- The number of parts and levels from which on a document is refused. -/
def depthLimit : Nat := 80

/-! ### Keys -/

/-- The characters of a key without quotes. -/
def isKeyChar (c : Char) : Bool :=
  c.isAlphanum || c == '_' || c == '-'

/-- One part of a key, with the blanks around it. -/
def keyPart : Reader String := do
  gap
  let part ← (String.ofList <$> Reader.spanSome isKeyChar) <|> basicText <|> literalText
  gap
  return part

/-- A key: parts with dots between them. -/
def key : Reader (List String) := do
  let parts ← Reader.separated (Reader.exactly ['.']) keyPart
  Reader.require (parts.length < depthLimit)
  return parts

/-! ### Values -/

/-- The items of a list, with a comma allowed behind the last. -/
def listOf (item : Reader Value) : Reader Value := do
  Reader.exactly ['[']
  wideGap
  let items ← Reader.maybe do
    let items ← Reader.separated (Reader.exactly [',']) do
      wideGap
      let value ← item
      wideGap
      return value
    let _ ← Reader.maybe (Reader.exactly [','])
    return items
  wideGap
  Reader.exactly [']']
  return .list (items.getD [])

/-- A key and its value, with the blanks around them but no line end. -/
def pairOf (item : Reader Value) : Reader (List String × Value) := do
  let path ← key
  Reader.exactly ['=']
  gap
  let value ← item
  return (path, value)

/-- The table that pairs on one line make up, none of them in the way of another. -/
def tableOfPairs (pairs : List (List String × Value)) : Option Value := do
  let entries ← pairs.foldlM (fun (entries : Entries) (path, value) => do
    entries.addPair path.dropLast (← path.getLast?) value .named) []
  return .table (entryValues entries)

/-- A table on one line. -/
def tableOf (item : Reader Value) : Reader Value := do
  Reader.exactly ['\x7b']
  let pairs ← Reader.maybe (Reader.separated (Reader.exactly [',']) do
    let pair ← pairOf item
    gap
    return pair)
  gap
  Reader.exactly ['\x7d']
  StateT.lift (tableOfPairs (pairs.getD []))

/-- A value that holds at most `room` levels of lists and tables. -/
def value : (room : Nat) → Reader Value
  | 0 => scalar
  | room + 1 => scalar <|> listOf (value room) <|> tableOf (value room)

/-! ### Statements -/

/-- What a line says. -/
inductive Statement where
  /-- The pairs that follow go to this table. -/
  | table (path : List String)
  /-- The pairs that follow go to one more member of this list of tables. -/
  | member (path : List String)
  /-- A value under a key. -/
  | pair (path : List String) (value : Value)

/-- A header or a pair. -/
def statement : Reader Statement := fun input =>
  match input with
  | '[' :: '[' :: rest => (do
      let path ← key
      Reader.exactly [']', ']']
      return .member path : Reader Statement) rest
  | '[' :: rest => (do
      let path ← key
      Reader.exactly [']']
      return .table path : Reader Statement) rest
  | _ => (do
      let (path, value) ← pairOf (value (depthLimit - 1))
      return .pair path value : Reader Statement) input

/-- A line, with or without a statement. -/
def line : Reader (Option Statement) := do
  gap
  let said ← Reader.maybe statement
  lineEnd
  return said

/-- The statements of a text, which may begin with a byte order mark. -/
def statements? (text : String) : Option (List Statement) :=
  let input :=
    match text.toList with
    | '\uFEFF' :: rest => rest
    | input => input
  match Reader.manyFrom line input with
  | (lines, []) => some (lines.filterMap id)
  | (_, _ :: _) => none

/-! ### Building -/

/-- A document while it is being read. -/
structure Draft where
  /-- The tables so far. -/
  root : Entries := []
  /-- The path of the table that pairs go to. -/
  path : List String := []

namespace Draft

/-- Opens the table at a path by `change`, which makes it out of the table around it. -/
def enter (draft : Draft) (path : List String)
    (change : (name : String) → Entries → Option Entries) : Option Draft := do
  let name ← path.getLast?
  let root ← draft.root.descend false (fun _ entries => change name entries) path.dropLast .named
  return { root, path }

/-- Takes in a statement, if it is in nobody's way. -/
def add (draft : Draft) : Statement → Option Draft
  | .table path => draft.enter path Entries.openTable
  | .member path => draft.enter path Entries.openMember
  | .pair path value => do
    let name ← path.getLast?
    let root ← draft.root.descend false (fun standing entries =>
      entries.addPair path.dropLast name value standing) draft.path .named
    return { draft with root }

end Draft

/-- The table that statements make up. -/
def valueOf? (statements : List Statement) : Option Value := do
  let draft ← statements.foldlM Draft.add {}
  return .table (entryValues draft.root)

/-- The plain data of a text, if it is a document. -/
def read? (text : String) : Option Value := do
  valueOf? (← statements? text)

end CallbackFerry.Toml
