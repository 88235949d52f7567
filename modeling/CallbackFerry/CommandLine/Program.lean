import CallbackFerry.CommandLine.Arguments
import CallbackFerry.Drivers.Dice
import CallbackFerry.Settings.Storage
import CallbackFerry.Simulation.Chronicle

/-!
# The program

The program reads its arguments, loads the settings, lets the arguments override them, checks the
result, runs a simulation and prints its report.  Everything but the file operations is a function;
`Program.run` works in any world that has those.
-/

namespace CallbackFerry.CommandLine

/-- What the program leaves behind. -/
structure Outcome where
  /-- The exit code: zero for success, two for misuse, otherwise one. -/
  exitCode : UInt32 := 0
  /-- The lines printed. -/
  output : List String := []
  /-- The lines printed about a failure. -/
  complaint : List String := []
  /-- The lines of the log, and the level set for it. -/
  log : List LogLine × String := ([], "error")

namespace Program

/-- The name of the program. -/
def name : String := "ant-bridge-sim"

/-- The version of the program. -/
def version : String := "0.1.0"

/-- The usage of the program. -/
def usage : List String :=
  ["Usage: " ++ name ++ " [OPTIONS]", "",
    "Options:",
    "  -c, --config <PATH>      Path to configuration file",
    "      --save-config        Save default configuration to default location and exit",
    "  -l, --log-level <LEVEL>  Log level (trace, debug, info, warn, error)",
    "  -t, --threads <N>        Number of driver threads",
    "  -e, --events <N>         Events fired by each driver thread",
    "      --fault-every <N>    Submit a faulting callback every N events (0 = never)",
    "  -h, --help               Print help",
    "  -V, --version            Print version"]

/-! ### Complaints -/

/-- The lines of a text, each later one indented. -/
def indented (indent : String) (text : String) : List String :=
  match text.splitOn "\n" with
  | [] => [""]
  | first :: rest => first :: rest.map (indent ++ ·)

/-- The lines of the causes from a number on, each cause with its number in front. -/
def numbered : Nat → List String → List String
  | _, [] => []
  | number, cause :: rest =>
    let mark := toString number
    let mark := String.ofList (List.replicate (5 - mark.length) ' ') ++ mark ++ ": "
    (match indented "       " cause with
      | [] => []
      | first :: more => (mark ++ first) :: more) ++ numbered (number + 1) rest

/-- The complaint about a failure: the outermost message, then the causes, which are numbered if
there are several. -/
def complaint : (chain : List String) → List String
  | [] => []
  | [outermost] => ("Error: " ++ outermost).splitOn "\n"
  | outermost :: causes =>
    let shown :=
      match causes with
      | [cause] =>
        match indented "    " cause with
        | first :: more => ("    " ++ first) :: more
        | [] => []
      | causes => numbered 0 causes
    ("Error: " ++ outermost).splitOn "\n" ++ ["", "Caused by:"] ++ shown

/-- The outcome of a failure. -/
def failed (chain : List String) : Outcome :=
  { exitCode := 1, complaint := complaint chain }

/-- The outcome of a misuse. -/
def misused (misuse : Misuse) : Outcome :=
  { exitCode := 2, complaint := ["error: " ++ misuse.message, ""] ++ usage.take 1 }

/-! ### The run -/

/-- The settings with what the arguments override. -/
def override (request : Request) (settings : Settings) : Settings :=
  { settings with
    logging := { level := request.logLevel.getD settings.logging.level }
    driver :=
      { settings.driver with
        threads := request.threads.getD settings.driver.threads
        eventsPerThread := request.eventsPerThread.getD settings.driver.eventsPerThread
        faultEvery := request.faultEvery.getD settings.driver.faultEvery } }

/-- The lines that a simulation begins with. -/
def openingLines (settings : Settings) : List LogLine :=
  [Settings.line .info ("ant-bridge simulator v" ++ version),
    Settings.line .info ("Log level: " ++ settings.logging.level)]

/-- Checks the settings and runs the simulation. -/
def simulate (seed : Nat) (settings : Settings) : Outcome :=
  match settings.flaw? with
  | some flaw => failed ("Invalid configuration" :: flaw.chain)
  | none =>
    let (ending, lines) := Simulation.run settings (Dice.chance seed)
    let log := (openingLines settings ++ lines, settings.logging.level)
    match ending with
    | .complete report => { output := report.lines, log := log }
    | .failed chain => { failed chain with log := log }
    | .brokeOff fault => { exitCode := 101, complaint := [fault.text], log := log }

variable {m : Type → Type} [Monad m]

/-- Does what is asked for. -/
def carryOut (files : Files m) (usualPath : String) (seed : Nat) (request : Request) :
    m Outcome := do
  if request.savesDefaults then
    match ← Settings.save files {} usualPath with
    | (.ok (), _) => return { output := ["Configuration saved to: " ++ usualPath] }
    | (.error error, _) => return failed ("Failed to save configuration" :: error.chain)
  else
    match request.configFile with
    | some path =>
      match ← Settings.load files path with
      | (.ok settings, _) => return simulate seed (override request settings)
      | (.error error, _) => return failed ("Failed to load configuration" :: error.chain)
    | none =>
      let (settings, _) ← Settings.loadOrDefault files usualPath
      return simulate seed (override request settings)

/-- Runs the program on its arguments. -/
def run (files : Files m) (usualPath : String) (seed : Nat) (arguments : List String) :
    m Outcome :=
  match CommandLine.read arguments with
  | .version => return { output := [name ++ " " ++ version] }
  | .help => return { output := usage }
  | .misused misuse => return misused misuse
  | .run request => carryOut files usualPath seed request

end Program
end CallbackFerry.CommandLine
