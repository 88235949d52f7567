/-!
# Arguments

The arguments are read from the first to the last.  An option is named by a word behind two dashes
or a letter behind one; its value follows behind an equals sign, directly behind the letter, or as
the next argument, which then must not begin with a dash unless it is just that.  No option is
given twice, there are no other arguments, and two dashes alone end the options.

Asking for the version or for help ends the reading at once, and so does the first misuse.
-/

namespace CallbackFerry.CommandLine

/-- What the user wants done. -/
structure Request where
  /-- The file to load the settings from. -/
  configFile : Option String := none
  /-- Whether to save the default settings and do nothing else. -/
  savesDefaults : Bool := false
  /-- The least level of the log that is shown. -/
  logLevel : Option String := none
  /-- How many driver threads there are. -/
  threads : Option Nat := none
  /-- How many events each of them fires. -/
  eventsPerThread : Option Nat := none
  /-- Every how many events one is replaced by a callback that breaks off. -/
  faultEvery : Option Nat := none
  deriving DecidableEq, Repr

/-- How arguments can be misused. -/
inductive Misuse where
  /-- No option has this name, or no option was expected. -/
  | unexpected (argument : String)
  /-- An option lacks its value. -/
  | missingValue (name : String)
  /-- The value is none for this option. -/
  | invalidValue (name value : String)
  /-- The option takes no value. -/
  | needlessValue (name value : String)
  /-- The option was given before. -/
  | repeated (name : String)
  deriving DecidableEq, Repr

/-- The wording of a misuse. -/
def Misuse.message : Misuse → String
  | .unexpected argument => "unexpected argument '" ++ argument ++ "' found"
  | .missingValue name => "a value is required for '--" ++ name ++ "' but none was supplied"
  | .invalidValue name value => "invalid value '" ++ value ++ "' for '--" ++ name ++ "'"
  | .needlessValue name value => "unexpected value '" ++ value ++ "' for '--" ++ name ++ "' found"
  | .repeated name => "the argument '--" ++ name ++ "' cannot be used multiple times"

/-- What the arguments ask for. -/
inductive Reading where
  | run (request : Request)
  | version
  | help
  | misused (misuse : Misuse)
  deriving DecidableEq, Repr

/-- The options with a value. -/
inductive Setting where
  | config
  | logLevel
  | threads
  | events
  | faultEvery
  deriving DecidableEq, Repr

/-- The word that names an option. -/
def Setting.name : Setting → String
  | .config => "config"
  | .logLevel => "log-level"
  | .threads => "threads"
  | .events => "events"
  | .faultEvery => "fault-every"

/-- All options. -/
inductive Flag where
  /-- One with a value. -/
  | setting (setting : Setting)
  | saveConfig
  | version
  | help
  deriving DecidableEq, Repr

/-- The option of a word. -/
def Flag.ofWord? : String → Option Flag
  | "config" => some (.setting .config)
  | "log-level" => some (.setting .logLevel)
  | "threads" => some (.setting .threads)
  | "events" => some (.setting .events)
  | "fault-every" => some (.setting .faultEvery)
  | "save-config" => some .saveConfig
  | "version" => some .version
  | "help" => some .help
  | _ => none

/-- The option of a letter. -/
def Flag.ofLetter? : Char → Option Flag
  | 'c' => some (.setting .config)
  | 'l' => some (.setting .logLevel)
  | 't' => some (.setting .threads)
  | 'e' => some (.setting .events)
  | 'V' => some .version
  | 'h' => some .help
  | _ => none

/-! ### Values -/

/-- A number of sixty-four bits in decimal digits, a plus sign allowed before them. -/
def number? (text : String) : Option Nat :=
  let digits :=
    match text.toList with
    | '+' :: rest => rest
    | rest => rest
  let number := digits.foldl (fun n c => n * 10 + (c.toNat - '0'.toNat)) 0
  if !digits.isEmpty && digits.all Char.isDigit && number < Nat.pow 2 64 then some number else none

/-- Gives an option its value.  One that has a value already is not given another. -/
def Request.set (request : Request) (setting : Setting) (value : String) :
    Except Misuse Request :=
  let once {α : Type} (present : Option α) (read : Option α) (change : α → Request) :
      Except Misuse Request :=
    if present.isSome then .error (.repeated setting.name)
    else match read with
      | some read => .ok (change read)
      | none => .error (.invalidValue setting.name value)
  match setting with
  | .config =>
    once request.configFile (if value = "" then none else some value)
      fun path => { request with configFile := some path }
  | .logLevel =>
    once request.logLevel (some value) fun level => { request with logLevel := some level }
  | .threads =>
    once request.threads (number? value) fun n => { request with threads := some n }
  | .events =>
    once request.eventsPerThread (number? value)
      fun n => { request with eventsPerThread := some n }
  | .faultEvery =>
    once request.faultEvery (number? value) fun n => { request with faultEvery := some n }

/-- Whether an argument can be the value of the option before it. -/
def isValue (argument : String) : Bool :=
  !argument.startsWith "-" || argument == "-"

/-! ### Reading -/

/-- One argument: an option with a value that may stand with it, or something else. -/
inductive Token where
  /-- Two dashes alone. -/
  | dashes
  /-- An option, under a name, with the value attached to it. -/
  | option (flag : Flag) (attached : Option String)
  /-- An argument that is no option. -/
  | other
  deriving DecidableEq, Repr

/-- An argument that begins with two dashes. -/
def Token.ofWord (body : List Char) : Token :=
  let name := body.takeWhile (· != '=')
  let attached :=
    match body.drop name.length with
    | _ :: value => some (String.ofList value)
    | [] => none
  match Flag.ofWord? (String.ofList name) with
  | some flag => .option flag attached
  | none => .other

/-- An argument that begins with one dash and a letter. -/
def Token.ofLetter (letter : Char) (body : List Char) : Token :=
  let attached :=
    match body with
    | [] => none
    | '=' :: value => some (String.ofList value)
    | value => some (String.ofList value)
  match Flag.ofLetter? letter with
  | some (.setting setting) => .option (.setting setting) attached
  | some flag => .option flag none
  | none => .other

/-- What an argument is. -/
def Token.ofArgument (argument : String) : Token :=
  match argument.toList with
  | ['-', '-'] => .dashes
  | '-' :: '-' :: body => .ofWord body
  | '-' :: letter :: body => .ofLetter letter body
  | _ => .other

/-- Reads the arguments behind what has been asked for so far. -/
def readFrom (request : Request) : (arguments : List String) → Reading
  | [] => .run request
  | argument :: rest =>
    match Token.ofArgument argument with
    | .other => .misused (.unexpected argument)
    | .dashes =>
      match rest with
      | [] => .run request
      | next :: _ => .misused (.unexpected next)
    | .option .version none => .version
    | .option .help none => .help
    | .option .saveConfig none =>
      if request.savesDefaults then .misused (.repeated "save-config")
      else readFrom { request with savesDefaults := true } rest
    | .option .version (some value) => .misused (.needlessValue "version" value)
    | .option .help (some value) => .misused (.needlessValue "help" value)
    | .option .saveConfig (some value) => .misused (.needlessValue "save-config" value)
    | .option (.setting setting) (some value) =>
      match request.set setting value with
      | .ok request => readFrom request rest
      | .error misuse => .misused misuse
    | .option (.setting setting) none =>
      match rest with
      | [] => .misused (.missingValue setting.name)
      | value :: rest =>
        if isValue value then
          match request.set setting value with
          | .ok request => readFrom request rest
          | .error misuse => .misused misuse
        else .misused (.missingValue setting.name)

/-- Reads the arguments. -/
def read (arguments : List String) : Reading :=
  readFrom {} arguments

end CallbackFerry.CommandLine
