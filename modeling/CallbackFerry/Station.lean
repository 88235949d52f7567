import CallbackFerry.Bridge.Endpoint
import CallbackFerry.Bridge.Moves
import CallbackFerry.HostLoop

/-!
# A bridge with a host behind it

A station is a bridge together with what stands behind it and the host's world.  It chooses an
order for the moves that the bridge leaves open: the host runs what it has before the dispatcher
offers more, each task to its end, and `Station.settle` goes on until nothing moves any more.

A gate in front of the host can be shut; then the dispatcher's offer waits there.
-/

namespace CallbackFerry

/-- What stands behind a bridge. -/
inductive Backing where
  /-- The host's own loop. -/
  | loop (loop : HostLoop Ticket)
  /-- A thread that runs every task it is given; its tally of tasks, and their faults, newest
  first. -/
  | thread (executed : Nat) (faults : List Fault)
  /-- Somebody who accepts every task and drops it. -/
  | discarding
  /-- Somebody who refuses every task. -/
  | refusing
  /-- Somebody who breaks off on every task. -/
  | breaking
  /-- Somebody who keeps every task and runs none unasked. -/
  | stalling

/-- A bridge, what stands behind it, and the host's world. -/
structure Station (π σ ρ : Type) where
  /-- The bridge. -/
  bridge : Bridge π (Host σ) ρ
  /-- What stands behind it. -/
  backing : Backing
  /-- The host's world. -/
  world : Host σ
  /-- Whether the gate in front of the host is open. -/
  gateOpen : Bool := true
  /-- What the host does about a fault that its loop notices. -/
  hook : Fault → Host σ → Host σ := fun _ host => host
  /-- All lines written so far. -/
  journal : Journal := {}

namespace Station

variable {π σ ρ : Type}

/-- Collects the lines that the bridge and the host's world have written. -/
def absorb (station : Station π σ ρ) : Station π σ ρ :=
  { station with
    journal :=
      (station.journal.append station.bridge.journal.lines).append station.world.journal.lines
    bridge := { station.bridge with journal := {} }
    world := { station.world with journal := {} } }

/-- The station with more lines. -/
def write (lines : List LogLine) (station : Station π σ ρ) : Station π σ ρ :=
  let collected := station.absorb
  { collected with journal := collected.journal.append lines }

/-- The station with a bridge that has made a move, and the lines of that move. -/
def withBridge (station : Station π σ ρ) (bridge : Bridge π (Host σ) ρ) : Station π σ ρ :=
  { station with bridge := bridge }.absorb

/-! ### The host -/

/-- Lets a running task reach its milestones until it has ended.  That takes no time. -/
def runToEnd (key : Nat) (bridge : Bridge π (Host σ) ρ) : Bridge π (Host σ) ρ :=
  let rec go : Nat → Bridge π (Host σ) ρ → Bridge π (Host σ) ρ
    | 0, bridge => bridge
    | steps + 1, bridge =>
      match bridge.advance key ⟨⟨0⟩, ⟨0⟩⟩ with
      | some next => go steps next
      | none => bridge
  go 3 bridge

/-- Runs a task to its end, in the host's world; also returns the fault that came out of it, if one
did. -/
def runTask (key : Nat) (station : Station π σ ρ) :
    Option (Option Fault × Station π σ ρ) :=
  match station.bridge.begin key station.world with
  | some (work, bridge) =>
    let begun := { station with bridge := bridge, world := work.world }.absorb
    let ended := runToEnd key begun.bridge
    some (ended.surfaced.head?.bind (·.2), begun.withBridge ended)
  | none => none

/-- What the backing answers to an offered task, and the backing afterwards.  It keeps what it
accepts and nothing else. -/
def Backing.receive (ticket : Ticket) : Backing → Reception × Backing
  | .loop loop =>
    match loop.schedule ticket with
    | some loop => (.accepted, .loop loop)
    | none => (.refused (HostLoop.closedFailure (Callback.name ticket.id)), .loop loop)
  | .thread executed faults => (.accepted, .thread executed faults)
  | .discarding => (.accepted, .discarding)
  | .refusing => (.refused (.hostUnavailable "closed"), .refusing)
  | .breaking => (.brokeOff, .breaking)
  | .stalling => (.accepted, .stalling)

/-- Has the host's loop notice that the task it ran has ended so. -/
def noticed (fault : Option Fault) (loop : HostLoop Ticket) (station : Station π σ ρ) :
    Station π σ ρ :=
  let world := fault.elim station.world fun fault => station.hook fault station.world
  { station with
    backing := .loop (((loop.ran fault).bind (·.notice 0)).getD loop)
    world := world }.write (HostLoop.noticeLines fault)

/-- The host's next move, if it has one: it runs the oldest task it has been given. -/
def hostMove (station : Station π σ ρ) : Option (Station π σ ρ) :=
  match station.backing with
  | .loop loop =>
    match loop.receive with
    | some loop =>
      match loop.next? with
      | some ticket =>
        match station.runTask ticket.key with
        | some (fault, ran) => some (ran.noticed fault loop)
        | none => some { station with backing := .loop ((loop.ran none).getD loop) }
      | none => none
    | none =>
      match loop.finish with
      | some finished =>
        some ({ station with backing := .loop finished }.write [finished.finishLine])
      | none => none
  | .thread executed faults =>
    match station.bridge.held with
    | ticket :: _ =>
      (station.runTask ticket.key).map fun (fault, ran) =>
        { ran with backing := .thread (executed + 1) (fault.toList ++ faults) }
    | [] => none
  | .discarding =>
    match station.bridge.held with
    | ticket :: _ => (station.bridge.drop ticket.key).map station.withBridge
    | [] => none
  | _ => none

/-! ### The dispatcher -/

/-- The dispatcher's next move, if it has one. -/
def dispatcherMove (station : Station π σ ρ) : Option (Station π σ ρ) :=
  match station.bridge.dispatcher.phase with
  | .idle => station.bridge.take.map station.withBridge
  | .offering ticket =>
    if station.gateOpen then
      let (reception, backing) := Backing.receive ticket station.backing
      (station.bridge.offer reception (reception = .accepted)).map fun bridge =>
        { station with backing := backing }.withBridge bridge
    else none
  | .settling => station.bridge.settle.map station.withBridge
  | .closing => station.bridge.retire.map station.withBridge
  | .retired => none

/-! ### Going on -/

/-- The next move of the host or the dispatcher, the host's first. -/
def move (station : Station π σ ρ) : Option (Station π σ ρ) :=
  match station.hostMove with
  | some moved => some moved
  | none => station.dispatcherMove

/-- At most so many moves. -/
def moves : Nat → Station π σ ρ → Station π σ ρ
  | 0, station => station
  | most + 1, station =>
    match station.move with
    | some moved => moves most moved
    | none => station

/-- An upper bound on the moves that are left: a few for every task, and a few to retire. -/
def movesLeft (station : Station π σ ρ) : Nat :=
  let waiting :=
    match station.backing with
    | .loop loop => loop.arrived.length
    | _ => 0
  8 * (station.bridge.dispatcher.queue.size + station.bridge.held.length + waiting + 2)

/-- Goes on until neither host nor dispatcher has a move. -/
def settle (station : Station π σ ρ) : Station π σ ρ :=
  moves station.movesLeft station

/-! ### Calls -/

/-- A driver draws a number for its callback and pushes it, and the station goes on. -/
def enter (callback : Callback π (Host σ) ρ) (station : Station π σ ρ) :
    Nat × Station π σ ρ :=
  let (ticket, bridge) := station.bridge.draw callback
  (ticket.key, (station.withBridge ((bridge.push ticket.key).getD bridge)).settle)

/-- A driver whose call can end leaves with its result. -/
def leave? (key : Nat) (station : Station π σ ρ) :
    Option (Except Failure ρ × Station π σ ρ) :=
  let collected := (station.bridge.collect key).getD station.bridge
  match collected.submissions[key]?, collected.leave key with
  | some { caller := .leaving result, .. }, some left => some (result, station.withBridge left)
  | _, _ => none

/-- A driver leaves with its result, or because its limit has passed; a driver without a limit
whose call cannot end goes on waiting. -/
def await? (key : Nat) (station : Station π σ ρ) :
    Option (Except Failure ρ × Station π σ ρ) :=
  match station.leave? key with
  | some left => some left
  | none =>
    match station.bridge.expire key with
    | some expired => { station with bridge := expired }.leave? key
    | none => none

/-- One whole call of a driver. -/
def submit (callback : Callback π (Host σ) ρ) (station : Station π σ ρ) :
    Option (Except Failure ρ) × Station π σ ρ :=
  let (key, entered) := station.enter callback
  match entered.await? key with
  | some (result, left) => (some result, left)
  | none => (none, entered)

/-! ### The end -/

/-- Asks the dispatcher to retire, and goes on. -/
def stop (station : Station π σ ρ) : Station π σ ρ :=
  (station.withBridge station.bridge.abort).settle

/-- Shuts the bridge down. -/
def shutdown (station : Station π σ ρ) : Station π σ ρ :=
  let stopped := (station.write [station.bridge.shutdownLine]).stop
  stopped.write [Bridge.stoppedLine stopped.bridge.metrics]

/-- Closes the way into the host's loop. -/
def closeHost (station : Station π σ ρ) : Station π σ ρ :=
  match station.backing with
  | .loop loop => { station with backing := .loop loop.close }.settle
  | _ => station

/-- Drops every task that the host holds. -/
def dropHeld (station : Station π σ ρ) : Station π σ ρ :=
  station.withBridge (station.bridge.held.foldl
    (fun bridge ticket => (bridge.drop ticket.key).getD bridge) station.bridge)

/-- Ends everything: the gate opens, the dispatcher retires, the host finishes what it has, and what
nobody will run is dropped. -/
def conclude (station : Station π σ ρ) : Station π σ ρ :=
  let stopped := { station with gateOpen := true }.settle.stop.closeHost
  match stopped.backing with
  | .stalling => stopped.dropHeld
  | _ => stopped

end Station
end CallbackFerry
