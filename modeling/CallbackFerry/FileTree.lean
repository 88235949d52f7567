import CallbackFerry.FilePath

/-!
# Files and folders

Settings are kept in files.  `FileTree` is a tree of folders and text files as a value, with the
operations that loading and saving need and the refusals of a file system.  `Files` is the same set
of operations for any world in which they can be carried out.

A path is followed step by step, and every step starts from a folder.  A path that does not begin
with a slash is followed from the home folder, whose own name may stand in front.  Around the home
folder lies what any system has: a few folders, a list of accounts, and a sink that is always empty
and swallows what is written to it.
-/

namespace CallbackFerry

/-- Why a file operation was refused. -/
inductive Obstacle where
  /-- There is nothing of that name. -/
  | missing
  /-- The name is taken. -/
  | exists
  /-- A file stands where a folder is needed. -/
  | notFolder
  /-- A folder stands where a file is needed. -/
  | isFolder
  /-- The path, or a name in it, is too long. -/
  | nameTooLong
  /-- The path holds the character NUL. -/
  | nulInName
  /-- Anything else, in the words of the file system. -/
  | other (text : String)
  deriving DecidableEq, Repr

/-- The wording of a refusal. -/
def Obstacle.text : Obstacle → String
  | .missing => "No such file or directory (os error 2)"
  | .exists => "File exists (os error 17)"
  | .notFolder => "Not a directory (os error 20)"
  | .isFolder => "Is a directory (os error 21)"
  | .nameTooLong => "File name too long (os error 36)"
  | .nulInName => "file name contained an unexpected NUL byte"
  | .other text => text

/-! ### Operations of any world -/

/-- The file operations of a world. -/
structure Files (m : Type → Type) where
  /-- Whether there is anything at a path. -/
  isPresent : (path : String) → m Bool
  /-- Whether there is a folder at a path. -/
  isFolder : (path : String) → m Bool
  /-- The text of a file. -/
  read : (path : String) → m (Except Obstacle String)
  /-- Makes one folder. -/
  makeFolder : (path : String) → m (Except Obstacle Unit)
  /-- Writes a file, in place of what it held. -/
  write : (path content : String) → m (Except Obstacle Unit)

namespace Files

variable {m : Type → Type} [Monad m]

/-- Makes one folder; returns whether it is there now, which it is not if its own folder is
missing. -/
def provide (files : Files m) (path : String) : m (Except Obstacle Bool) := do
  match ← files.makeFolder path with
  | .ok () => return .ok true
  | .error .missing => return .ok false
  | .error .exists =>
    if ← files.isFolder path then return .ok true else return .error .exists
  | .error obstacle => return .error obstacle

/-- Makes the first of these folders that has a folder around it; returns those before it, which
are missing still, the outermost first. -/
def provideFirst (files : Files m) :
    (paths waiting : List String) → m (Except Obstacle (List String))
  | [], waiting => return .ok waiting
  | path :: around, waiting => do
    match ← files.provide path with
    | .ok true => return .ok waiting
    | .ok false => provideFirst files around (path :: waiting)
    | .error obstacle => return .error obstacle

/-- Makes folders one after the other; each must be there then. -/
def provideAll (files : Files m) : (paths : List String) → m (Except Obstacle Unit)
  | [] => return .ok ()
  | path :: rest => do
    match ← files.provide path with
    | .ok true => provideAll files rest
    | .ok false => return .error .missing
    | .error obstacle => return .error obstacle

/-- Makes a folder and those around it, as far as they are missing; those made before a refusal
stay. -/
def makeFolders (files : Files m) (path : String) : m (Except Obstacle Unit) := do
  match ← files.provideFirst (FilePath.fromInside path) [] with
  | .ok waiting => files.provideAll waiting
  | .error obstacle => return .error obstacle

end Files

/-! ### Trees -/

/-- What there is at a place. -/
inductive FileTree.Entry where
  | folder
  | file (content : String)
  /-- A file that is always empty. -/
  | sink
  deriving DecidableEq, Repr

/-- A tree of folders and files. -/
structure FileTree where
  /-- The name of the home folder, as paths are written. -/
  home : String
  /-- What was made, each by the names that lead to it from the root. -/
  entries : List (List String × FileTree.Entry) := []
  deriving Repr, Inhabited

namespace FileTree

/-- What any system has around the home folder. -/
def surroundings : List (List String × Entry) :=
  [([], .folder), (["tmp"], .folder), (["dev"], .folder), (["dev", "null"], .sink),
    (["etc"], .folder), (["etc", "passwd"], .file "root:x:0:0:root:/root:/bin/sh\n"),
    (["bin"], .folder), (["home"], .folder), (["lib"], .folder), (["opt"], .folder),
    (["proc"], .folder), (["root"], .folder), (["sbin"], .folder), (["sys"], .folder),
    (["usr"], .folder), (["var"], .folder)]

/-- The place of the home folder. -/
def homePlace (tree : FileTree) : List String := ["tmp", tree.home]

/-- What there is at a place. -/
def entry? (tree : FileTree) (place : List String) : Option Entry :=
  if place = tree.homePlace then some .folder
  else (tree.entries.lookup place).or (surroundings.lookup place)

/-- The tree with something at a place. -/
def put (tree : FileTree) (place : List String) (entry : Entry) : FileTree :=
  { tree with entries := (place, entry) :: tree.entries.filter (·.1 != place) }

/-! ### Following paths -/

/-- The longest name, in bytes. -/
def maxNameBytes : Nat := 255

/-- The longest path, in bytes. -/
def maxPathBytes : Nat := 4095

/-- A path taken apart. -/
structure Route where
  /-- Where it begins. -/
  start : List String
  /-- Its steps, in order. -/
  steps : List String
  /-- Whether a slash stands at its end. -/
  asFolder : Bool

/-- The route of a path. -/
def route (tree : FileTree) (path : String) : Except Obstacle Route :=
  if path.contains '\x00' then .error .nulInName
  else if maxPathBytes < path.utf8ByteSize then .error .nameTooLong
  else if path.isEmpty then .error .missing
  else
    let parts := path.splitOn "/"
    let asFolder := parts.getLast? == some ""
    let steps := parts.filter (· ≠ "")
    if path.startsWith "/" then .ok ⟨[], steps, asFolder⟩
    else .ok ⟨tree.homePlace, if parts.head? = some tree.home then steps.drop 1 else steps,
      asFolder⟩

/-- One step from a place. -/
def follow (tree : FileTree) (place : List String) (step : String) :
    Except Obstacle (List String) :=
  match tree.entry? place with
  | some .folder =>
    if step = "." then .ok place
    else if step = ".." then .ok place.dropLast
    else if maxNameBytes < step.utf8ByteSize then .error .nameTooLong
    else .ok (place ++ [step])
  | some _ => .error .notFolder
  | none => .error .missing

/-- Where a path leads; all but the last step must lead to folders, and so must the last if a slash
stands behind it. -/
def place (tree : FileTree) (path : String) : Except Obstacle (List String) := do
  let route ← tree.route path
  let place ← route.steps.foldlM tree.follow route.start
  if route.asFolder then tree.follow place "." else return place

/-- Where something new would be made: the folder, and the last step of the path if that is a name.
Also returns whether a slash stands behind it. -/
def newPlace (tree : FileTree) (path : String) :
    Except Obstacle (List String × Option String × Bool) := do
  let route ← tree.route path
  let around ← route.steps.dropLast.foldlM tree.follow route.start
  let around ← tree.follow around "."
  let name := route.steps.getLast?.filter fun step => step ≠ "." && step ≠ ".."
  return (around, name, route.asFolder)

/-! ### Operations -/

/-- Whether there is anything at a path. -/
def isPresent (tree : FileTree) (path : String) : Bool :=
  match tree.place path with
  | .ok place => (tree.entry? place).isSome
  | .error _ => false

/-- Whether there is a folder at a path. -/
def isFolder (tree : FileTree) (path : String) : Bool :=
  match tree.place path with
  | .ok place => tree.entry? place == some .folder
  | .error _ => false

/-- The text of a file. -/
def read (tree : FileTree) (path : String) : Except Obstacle String := do
  match tree.entry? (← tree.place path) with
  | some (.file content) => .ok content
  | some .sink => .ok ""
  | some .folder => .error .isFolder
  | none => .error .missing

/-- Makes one folder.  A path that ends in no name leads to a folder that is there. -/
def makeFolder (tree : FileTree) (path : String) : Except Obstacle FileTree := do
  match ← tree.newPlace path with
  | (_, none, _) => .error .exists
  | (around, some name, _) =>
    let place ← tree.follow around name
    if (tree.entry? place).isSome then .error .exists else .ok (tree.put place .folder)

/-- Writes a file.  A slash at the end of its path is refused, whatever is there. -/
def write (tree : FileTree) (path content : String) : Except Obstacle FileTree := do
  match ← tree.newPlace path with
  | (_, none, _) | (_, some _, true) => .error .isFolder
  | (around, some name, false) =>
    let place ← tree.follow around name
    match tree.entry? place with
    | some .folder => .error .isFolder
    | some .sink => .ok tree
    | _ => .ok (tree.put place (.file content))

/-- A tree after an operation that may be refused. -/
def attempt (operation : FileTree → Except Obstacle FileTree) :
    StateM FileTree (Except Obstacle Unit) :=
  modifyGet fun tree =>
    match operation tree with
    | .ok tree => (.ok (), tree)
    | .error obstacle => (.error obstacle, tree)

/-- The operations on a tree that is passed along. -/
def operations : Files (StateM FileTree) where
  isPresent path := return (← get).isPresent path
  isFolder path := return (← get).isFolder path
  read path := return (← get).read path
  makeFolder path := attempt (·.makeFolder path)
  write path content := attempt (·.write path content)

end FileTree
end CallbackFerry
