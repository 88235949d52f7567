import CallbackFerry.Bridge.Moves
import CallbackFerry.HostLoop
import CallbackFerry.Simulation
import CallbackFerry.Simulation.Report

/-!
# A simulation in any order

A `Campaign` is a simulation under way.  Threads, dispatcher and host go on in any order, each move
by move: the threads launch, submit and land, the dispatcher offers to the host's loop whatever it
finds in the queue, and the loop runs what it has received, one task at a time, and notices later
that tasks have ended.

The end has an order.  When all threads are through, their totals are taken and the dispatcher is
asked to stop; when it has stopped, the counters are taken, and the way into the loop is closed; and
the loop ends when there is nothing left in it.  Then there is a report.
-/

namespace CallbackFerry

/-- What the threads go by in these settings. -/
def Settings.orders (settings : Settings) : Orders :=
  ⟨settings.driver, settings.channels.map ChannelSettings.channel⟩

/-- What a thread has launched, and its place among the submissions once it has been submitted. -/
structure Mission where
  /-- The thread. -/
  thread : Nat
  /-- What it has launched. -/
  flight : Flight
  /-- Its place among the submissions. -/
  key : Option Nat := none
  deriving DecidableEq, Repr

/-- A simulation under way. -/
structure Campaign where
  /-- What the threads go by. -/
  orders : Orders
  /-- The threads. -/
  fleet : Fleet
  /-- What has been launched and not landed. -/
  missions : List Mission := []
  /-- The bridge. -/
  bridge : Bridge Flight (Host Device) Bool
  /-- The loop in the host. -/
  loop : HostLoop Ticket := {}
  /-- The host's world. -/
  world : Host Device
  /-- The submission whose task the loop is running, and the fault that broke its function off. -/
  body : Option (Nat × Option Fault) := none
  /-- The totals of the threads, once they are through. -/
  totals : Option DriverTotals := none
  /-- The counters of the bridge, once its dispatcher has stopped. -/
  metrics : Option Metrics := none

namespace Campaign

/-- A campaign that is about to begin: nothing is launched, and the channels are open. -/
def fresh (settings : Settings) (bridge : Bridge Flight (Host Device) Bool) : Campaign :=
  { orders := settings.orders
    fleet := Fleet.ofSettings settings.driver
    bridge := bridge
    world := Simulation.host settings.channels }

/-- A campaign begins if its bridge starts. -/
def start (settings : Settings) : Option Campaign :=
  match Bridge.start settings.bridge with
  | .ok (.ok bridge) => some (fresh settings bridge)
  | _ => none

/-- The campaign with a bridge that has made a move. -/
def withBridge (campaign : Campaign) (bridge : Bridge Flight (Host Device) Bool) : Campaign :=
  { campaign with bridge := bridge }

/-! ### Threads -/

/-- A thread launches what is next. -/
def launch (thread : Nat) (chance : Chance) (campaign : Campaign) : Option Campaign :=
  match campaign.fleet.launch campaign.orders thread chance with
  | some (some flight, fleet) =>
    some { campaign with fleet := fleet, missions := ⟨thread, flight, none⟩ :: campaign.missions }
  | some (none, fleet) => some { campaign with fleet := fleet }
  | none => none

/-- A thread submits what it has launched. -/
def submit (thread : Nat) (campaign : Campaign) : Option Campaign :=
  match campaign.missions.find? fun mission => mission.thread = thread ∧ mission.key = none with
  | some mission =>
    let (ticket, bridge) := campaign.bridge.draw mission.flight.callback
    some
      { campaign with
        missions := { mission with key := some ticket.key } :: campaign.missions.erase mission
        bridge := bridge }
  | none => none

/-- The mission of a thread whose call is over, and its result. -/
def landing? (thread : Nat) (campaign : Campaign) : Option (Mission × Except Failure Bool) :=
  match campaign.missions.find? (·.thread = thread) with
  | some mission =>
    match mission.key.bind fun key => campaign.bridge.submissions[key]? with
    | some { caller := .returned result, .. } => some (mission, result)
    | _ => none
  | none => none

/-- A thread whose call is over lands. -/
def land (thread : Nat) (campaign : Campaign) : Option Campaign :=
  match campaign.landing? thread with
  | some (mission, result) =>
    (campaign.fleet.land thread result).map fun fleet =>
      { campaign with fleet := fleet, missions := campaign.missions.erase mission }
  | none => none

/-! ### The dispatcher and the host -/

/-- The dispatcher offers what is in its hand to the host's loop, which keeps what it accepts. -/
def offer (campaign : Campaign) : Option Campaign :=
  match campaign.bridge.dispatcher.phase with
  | .offering ticket =>
    match campaign.loop.schedule ticket with
    | some loop => (campaign.bridge.offer .accepted true).map fun bridge =>
      { campaign with bridge := bridge, loop := loop }
    | none =>
      let failure := HostLoop.closedFailure (Callback.name ticket.id)
      (campaign.bridge.offer (.refused failure) false).map campaign.withBridge
  | _ => none

/-- The loop applies the function of the task that is next. -/
def beginNext (campaign : Campaign) : Option Campaign :=
  match campaign.body, campaign.loop.next? with
  | none, some ticket =>
    (campaign.bridge.begin ticket.key campaign.world).map fun (work, bridge) =>
      { campaign with
        bridge := bridge
        world := work.world
        body := some (ticket.key, faultOf work.outcome) }
  | _, _ => none

/-- The task that the loop is running reaches its next milestone, and is through after the last. -/
def advance (timing : Timing) (campaign : Campaign) : Option Campaign :=
  match campaign.body with
  | some (key, fault) =>
    match campaign.bridge.advance key timing with
    | some bridge =>
      if bridge.running.any (·.ticket.key = key) then some (campaign.withBridge bridge)
      else (campaign.loop.ran fault).map fun loop =>
        { campaign with bridge := bridge, loop := loop, body := none }
    | none => none
  | none => none

/-- The loop notices that one of its tasks has ended; a fault is told to the device. -/
def notice (place : Nat) (campaign : Campaign) : Option Campaign :=
  match campaign.loop.ended[place]?, campaign.loop.notice place with
  | some (_, fault), some loop =>
    some
      { campaign with
        loop := loop
        world := fault.elim campaign.world fun _ => campaign.world.remember Device.recordFault }
  | _, _ => none

/-! ### The end -/

/-- The totals are taken when all threads are through. -/
def muster (campaign : Campaign) : Option Campaign :=
  if campaign.fleet.isThrough campaign.orders then
    some { campaign with totals := some campaign.fleet.totals }
  else none

/-- The dispatcher is asked to stop once the totals are taken. -/
def abort (campaign : Campaign) : Option Campaign :=
  if campaign.totals.isSome then some (campaign.withBridge campaign.bridge.abort) else none

/-- The counters are taken when the dispatcher has stopped. -/
def snapshot (campaign : Campaign) : Option Campaign :=
  match campaign.bridge.dispatcher.phase with
  | .retired => some { campaign with metrics := some campaign.bridge.metrics }
  | _ => none

/-- The way into the loop is closed when the dispatcher has stopped. -/
def closeHost (campaign : Campaign) : Option Campaign :=
  match campaign.bridge.dispatcher.phase with
  | .retired => some { campaign with loop := campaign.loop.close }
  | _ => none

/-- The report, once the totals and the counters are taken and the loop has ended. -/
def report? (campaign : Campaign) : Option RunReport :=
  match campaign.totals, campaign.metrics with
  | some totals, some metrics =>
    if campaign.loop.isOver then
      some
        { drivers := totals
          metrics := metrics
          executed := campaign.loop.executed
          device := campaign.world.memory }
    else none
  | _, _ => none

/-! ### Any move -/

/-- A move of anybody. -/
inductive Move where
  | launch (thread : Nat) (chance : Chance)
  | submit (thread : Nat)
  | push (key : Nat)
  | collect (key : Nat)
  | expire (key : Nat)
  | leave (key : Nat)
  | land (thread : Nat)
  | take
  | offer
  | settle
  | retire
  | receive
  | begin
  | advance (timing : Timing)
  | notice (place : Nat)
  | muster
  | abort
  | snapshot
  | closeHost
  | finish

/-- The campaign after a move, if the move is possible. -/
def step (campaign : Campaign) : Move → Option Campaign
  | .launch thread chance => campaign.launch thread chance
  | .submit thread => campaign.submit thread
  | .push key => (campaign.bridge.push key).map campaign.withBridge
  | .collect key => (campaign.bridge.collect key).map campaign.withBridge
  | .expire key => (campaign.bridge.expire key).map campaign.withBridge
  | .leave key => (campaign.bridge.leave key).map campaign.withBridge
  | .land thread => campaign.land thread
  | .take => campaign.bridge.take.map campaign.withBridge
  | .offer => campaign.offer
  | .settle => campaign.bridge.settle.map campaign.withBridge
  | .retire => campaign.bridge.retire.map campaign.withBridge
  | .receive => campaign.loop.receive.map fun loop => { campaign with loop := loop }
  | .begin => campaign.beginNext
  | .advance timing => campaign.advance timing
  | .notice place => campaign.notice place
  | .muster => campaign.muster
  | .abort => campaign.abort
  | .snapshot => campaign.snapshot
  | .closeHost => campaign.closeHost
  | .finish => campaign.loop.finish.map fun loop => { campaign with loop := loop }

end Campaign
end CallbackFerry
