/-!
# Paths

A path is written as names with slashes between them.  Several slashes are as good as one, and a
step that stays in place says nothing, except at the beginning of a path that has no slash there.
The path around a path is what stands before its last name, as it is written.
-/

namespace CallbackFerry.FilePath

/-- A path in two: a slash or a step in place at its beginning, and the rest. -/
def divided : (path : List Char) → List Char × List Char
  | '/' :: rest => (['/'], rest)
  | ['.'] => (['.'], [])
  | '.' :: '/' :: rest => (['.'], '/' :: rest)
  | rest => ([], rest)

/-- The end of a path, backwards, without slashes and steps in place. -/
def trimmedBack : List Char → List Char
  | '/' :: rest => trimmedBack rest
  | ['.'] => []
  | '.' :: '/' :: rest => trimmedBack rest
  | rest => rest

/-- The path around a path, if there is one. -/
def around? (path : String) : Option String :=
  let (head, body) := divided path.toList
  match trimmedBack body.reverse, head with
  | [], ['.'] => some ""
  | [], _ => none
  | back, _ => some (String.ofList (head ++ (trimmedBack (back.dropWhile (· != '/'))).reverse))

/-- A path and those around it, from the inside, without the root and without the empty path. -/
def fromInside (path : String) : List String :=
  match around? path with
  | none => []
  | some outer =>
    if outer.length < path.length then path :: fromInside outer else [path]
termination_by path.length

end CallbackFerry.FilePath
