import CallbackFerry.Device

/-!
# Scripts for the host

A rehearsal runs the host from a script.  A `Deed` is one thing to do in the host; a `Role` is a
scripted handler, which takes down every call, carries out deeds of its own and answers as it was
told.  Roles register roles, so both are defined together.  What a deed comes to is a `Finding`.
-/

namespace CallbackFerry.Rehearsal

/-- How a scripted handler answers. -/
inductive Answer where
  /-- Always so. -/
  | fixed (handled : Bool)
  /-- With whether the message carried data. -/
  | whenNonempty
  deriving DecidableEq, Repr

/-- The answer to a payload. -/
def Answer.toBool (answer : Answer) (payload : Bytes) : Bool :=
  match answer with
  | .fixed handled => handled
  | .whenNonempty => !payload.isEmpty

mutual

/-- A scripted handler. -/
inductive Role where
  /-- The default handler, under a name. -/
  | commenting (name : String)
  /-- A handler that carries out deeds: only for these codes, if there is such a list, and only in
  so many of its first calls, if there is such a number. -/
  | acting (name : String) (answer : Answer) (deeds : List Deed)
      (only : Option (List UInt8)) (times : Option Nat)

/-- Something to do in the host. -/
inductive Deed where
  | register (channel : Channel) (role : Role)
  | lookup (channel : Channel)
  | unregister (channel : Channel)
  | clearAll
  | isOpen (channel : Channel)
  | size
  | channels
  /-- Lists the channels as the routing table lists itself. -/
  | listing
  /-- Delivers an event; a checked one is refused before if its payload is too long. -/
  | dispatch (event : ChannelEvent) (checked : Bool)
  | respond (response : Response)
  | setResponder (role : Role)
  | reset
  | close
  /-- Opens a new device with these channels, perhaps with its response handler. -/
  | openDevice (channels : List ChannelSettings) (install : Bool)
  /-- Reports on the device opened last. -/
  | device
  /-- Tells that device of a fault, then reports on it. -/
  | deviceFault
  /-- Breaks off. -/
  | raise (fault : Fault)

end

/-- What a deed comes to. -/
inductive Finding where
  /-- Nothing to tell. -/
  | done
  /-- The handler that was replaced, if there was one, by its label. -/
  | replaced (label : Option (Option String))
  /-- The handler that was found. -/
  | found (label : Option String)
  /-- The handler that was removed, if there was one. -/
  | removed (label : Option (Option String))
  /-- How many handlers were cleared away. -/
  | cleared (channels : Nat)
  /-- Whether a channel is open. -/
  | isOpen (answer : Bool)
  /-- How many channels are open. -/
  | size (channels : Nat)
  /-- The open channels. -/
  | channels (numbers : List Channel)
  /-- The routing table's listing of itself. -/
  | listing (text : String)
  /-- What a handler answered. -/
  | handled (answer : Bool)
  /-- Why no handler was called. -/
  | failed (cause : Failure)
  /-- Why there was nothing to deliver. -/
  | refused (cause : FrameError)
  /-- How many channels are open afterwards. -/
  | left (channels : Nat)
  /-- The account of a device, if there is one. -/
  | device (account : Option Device)
  /-- The deed lay too deep and was left out. -/
  | skipped

/-- What is taken down during a rehearsal. -/
inductive TraceEntry where
  /-- A scripted handler was called. -/
  | called (name : String) (channel : Channel) (code : UInt8) (payload : Bytes)
  /-- A scripted handler carried out a deed. -/
  | within (name : String) (finding : Finding)
  /-- A note of a job. -/
  | note (text : String)

/-- What is remembered during a rehearsal. -/
structure Memory where
  /-- What was taken down, newest first. -/
  trace : List TraceEntry := []
  /-- How often each acting handler was called, in the order in which they were made. -/
  calls : Array Nat := #[]
  /-- The accounts of the devices, in the order in which they were opened. -/
  devices : Nat → Device := fun _ => {}
  /-- How many devices were opened. -/
  opened : Nat := 0
  /-- How many scripted handlers are carrying out deeds. -/
  depth : Nat := 0
  /-- What the last deed came to that was not a handler's. -/
  finding : Finding := .done

namespace Memory

/-- A host in which nothing has happened yet. -/
def host : Host Memory := { memory := {} }

/-- Takes something down. -/
def takeDown (entry : TraceEntry) (memory : Memory) : Memory :=
  { memory with trace := entry :: memory.trace }

/-- Counts a call of the acting handler with this number. -/
def countCall (number : Nat) (memory : Memory) : Memory :=
  { memory with calls := memory.calls.modify number (· + 1) }

/-- How often the acting handler with this number was called. -/
def callsOf (number : Nat) (memory : Memory) : Nat :=
  memory.calls[number]?.getD 0

/-- Makes room for the count of another acting handler. -/
def enrol (memory : Memory) : Memory :=
  { memory with calls := memory.calls.push 0 }

/-- The place of the device with this number. -/
def place (number : Nat) : Place Memory where
  read memory := memory.devices number
  write device memory :=
    { memory with devices := fun other => if other = number then device else memory.devices other }
  read_write _ _ := if_pos rfl

/-- Adds a device with these channels. -/
def addDevice (channels : List ChannelSettings) (memory : Memory) : Memory :=
  let opened := { memory with opened := memory.opened + 1 }
  (place memory.opened).write { channels := channels } opened

/-- The account of the device opened last. -/
def device? (memory : Memory) : Option Device :=
  if memory.opened = 0 then none else some (memory.devices (memory.opened - 1))

end Memory
end CallbackFerry.Rehearsal
