/-!
# Log lines

Every part of the program reports what it does in a journal: a list of lines, each with a level,
the part that speaks, a message and a few named values.  The journal is plain data, kept newest
line first so that writing is one step; `Journal.lines` gives the lines in the order written.
-/

namespace CallbackFerry

/-- How loud a line is. -/
inductive Level where
  | trace
  | debug
  | info
  | warn
  | error
  deriving DecidableEq, Repr

/-- The name of a level, in capitals. -/
def Level.text : Level → String
  | .trace => "TRACE"
  | .debug => "DEBUG"
  | .info => "INFO"
  | .warn => "WARN"
  | .error => "ERROR"

/-- How much a level matters: an error most. -/
def Level.weight : Level → Nat
  | .trace => 1
  | .debug => 2
  | .info => 3
  | .warn => 4
  | .error => 5

/-- The part of the program that speaks. -/
inductive Component where
  | queue
  | registry
  | handlers
  | host
  | execution
  | dispatcher
  | bridge
  | config
  | device
  deriving DecidableEq, Repr

/-- The name of a part. -/
def Component.text : Component → String
  | .queue => "queue"
  | .registry => "registry"
  | .handlers => "handlers"
  | .host => "host"
  | .execution => "execution"
  | .dispatcher => "dispatcher"
  | .bridge => "bridge"
  | .config => "config"
  | .device => "device"

/-- One line of the journal. -/
structure LogLine where
  /-- How loud it is. -/
  level : Level
  /-- Who speaks. -/
  component : Component
  /-- What is said. -/
  message : String
  /-- Named values behind the message. -/
  fields : List (String × String) := []
  deriving DecidableEq, Repr

/-- The text of a line: level, part, message, then the named values in order. -/
def LogLine.text (line : LogLine) : String :=
  line.level.text ++ " " ++ line.component.text ++ ": " ++ line.message
    ++ String.join (line.fields.map fun (name, value) => " " ++ name ++ "=" ++ value)

/-- Lines in the order they were written, newest first. -/
structure Journal where
  /-- The lines, newest first. -/
  newestFirst : List LogLine := []
  deriving Repr, Inhabited

namespace Journal

/-- The journal with one more line. -/
def write (journal : Journal) (line : LogLine) : Journal :=
  ⟨line :: journal.newestFirst⟩

/-- The journal with the lines of a list added in order. -/
def append (journal : Journal) (lines : List LogLine) : Journal :=
  lines.foldl write journal

/-- The lines in the order written. -/
def lines (journal : Journal) : List LogLine :=
  journal.newestFirst.reverse

end Journal
end CallbackFerry
