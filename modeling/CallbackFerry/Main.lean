import CallbackFerry.CommandLine.Program

/-!
# Main

The program in the real world: files on disk, lines on the console.
-/

namespace CallbackFerry

/-- The refusal that an error of the file system stands for. -/
def obstacleOf : IO.Error → Obstacle
  | .noFileOrDirectory .. => .missing
  | .alreadyExists .. => .exists
  | .inappropriateType _ code _ => if code = 21 then .isFolder else .notFolder
  | error => .other (toString error)

/-- Does something with files, and returns a refusal as a value. -/
def attempt {α : Type} (action : IO α) : IO (Except Obstacle α) := do
  try
    return .ok (← action)
  catch error =>
    return .error (obstacleOf error)

/-- The files on disk. -/
def diskFiles : Files IO where
  isPresent path := do
    match ← attempt (IO.FS.Handle.mk path .read) with
    | .error .missing => return false
    | _ => return true
  isFolder path := do
    match ← attempt (IO.FS.Handle.mk (path ++ "/.") .read) with
    | .ok _ => return true
    | .error _ => return false
  read path := attempt (IO.FS.readFile path)
  makeFolder path := attempt (IO.FS.createDir path)
  write path content := attempt (IO.FS.writeFile path content)

/-- The user's folder for settings. -/
def configFolder : IO (Option String) := do
  match ← IO.getEnv "XDG_CONFIG_HOME" with
  | some folder => if folder.startsWith "/" then return some folder else homeFolder
  | none => homeFolder
where
  /-- The folder for settings in the user's home. -/
  homeFolder : IO (Option String) := do
    return (← IO.getEnv "HOME").map (· ++ "/.config")

/-- Whether a line is shown at a level. -/
def isShown (level : String) (line : LogLine) : Bool :=
  let least := LoggingSettings.levels.findIdx (· == level) + 1
  least ≤ line.level.weight

/-- Runs the program. -/
def runProgram (arguments : List String) : IO UInt32 := do
  let seed ← IO.rand 0 (Nat.pow 2 31 - 1)
  let outcome ← CommandLine.Program.run diskFiles (Settings.usualPath (← configFolder)) seed
    arguments
  for line in outcome.log.1.filter (isShown outcome.log.2) do
    IO.eprintln line.text
  for line in outcome.output do
    IO.println line
  for line in outcome.complaint do
    IO.eprintln line
  return outcome.exitCode

end CallbackFerry

/-- The entry of the program. -/
def main (arguments : List String) : IO UInt32 :=
  CallbackFerry.runProgram arguments
