import CallbackFerry.FileTree
import CallbackFerry.Journal
import CallbackFerry.Settings.Document

/-!
# Loading and saving settings

Settings are loaded from a given file, or from a fixed place in the user's folder for settings.  A
file that is given must be there and be usable.  Without one the defaults stand in for a file that
is missing or not usable, and the journal says so.
-/

namespace CallbackFerry

/-- Why settings could not be loaded or saved. -/
inductive StorageError where
  /-- No file was given and there is none at the usual place. -/
  | noFile
  /-- The file could not be read. -/
  | unreadable (path : String) (obstacle : Obstacle)
  /-- The file holds no usable settings. -/
  | unusable (path : String) (cause : DocumentError)
  /-- A number in the settings is too great for a file. -/
  | unwritable
  /-- The folder could not be made. -/
  | noFolder (path : String) (obstacle : Obstacle)
  /-- The file could not be written. -/
  | refused (path : String) (obstacle : Obstacle)
  deriving DecidableEq, Repr

namespace StorageError

/-- What is said first about a failure. -/
def summary : StorageError → String
  | .noFile => "No configuration file found, using defaults"
  | .unreadable path _ => "Failed to read config file: " ++ path
  | .unusable path _ => "Failed to parse config file: " ++ path
  | .unwritable => "Failed to serialize configuration"
  | .noFolder path _ => "Failed to create config directory: " ++ path
  | .refused path _ => "Failed to write config file: " ++ path

/-- The messages behind the first. -/
def causes : StorageError → List String
  | .noFile => []
  | .unwritable => ["out-of-range value for u64 type"]
  | .unusable _ cause => cause.chain
  | .unreadable _ obstacle | .noFolder _ obstacle | .refused _ obstacle => [obstacle.text]

/-- The messages about a failure, from the outermost to the innermost. -/
def chain (error : StorageError) : List String :=
  error.summary :: error.causes

end StorageError

namespace Settings

/-- A line about the settings. -/
def line (level : Level) (message : String) : LogLine :=
  { level := level, component := .config, message := message }

/-- The place of the settings in the user's folder for settings; without such a folder, below the
current one. -/
def usualPath (configFolder : Option String) : String :=
  configFolder.getD ".config" ++ "/ant-bridge/sim.toml"

variable {m : Type → Type} [Monad m]

/-- Loads the settings from a file. -/
def load (files : Files m) (path : String) : m (Except StorageError Settings × List LogLine) := do
  match ← files.read path with
  | .error obstacle => return (.error (.unreadable path obstacle), [])
  | .ok content =>
    match Settings.ofDocument content with
    | .error cause => return (.error (.unusable path cause), [])
    | .ok settings => return (.ok settings, [line .info ("Loaded configuration from: " ++ path)])

/-- Loads the settings from the usual place, if there is anything. -/
def loadUsual (files : Files m) (path : String) :
    m (Except StorageError Settings × List LogLine) := do
  if ← files.isPresent path then load files path else return (.error .noFile, [])

/-- Loads the settings from the usual place; where that fails the defaults stand in. -/
def loadOrDefault (files : Files m) (path : String) : m (Settings × List LogLine) := do
  match ← loadUsual files path with
  | (.ok settings, lines) => return (settings, lines)
  | (.error error, lines) =>
    let warning := line .warn ("Failed to load config: " ++ error.summary ++ ", using defaults")
    return ({}, lines ++ [warning])

/-- Saves the settings to a file, making the folders around it. -/
def save (files : Files m) (settings : Settings) (path : String) :
    m (Except StorageError Unit × List LogLine) := do
  match settings.document? with
  | none => return (.error .unwritable, [])
  | some content =>
    let folder := (FilePath.around? path).getD ""
    match ← files.makeFolders folder with
    | .error obstacle => return (.error (.noFolder folder obstacle), [])
    | .ok () =>
      match ← files.write path content with
      | .error obstacle => return (.error (.refused path obstacle), [])
      | .ok () => return (.ok (), [line .info ("Saved configuration to: " ++ path)])

end Settings
end CallbackFerry
