import CallbackFerry.Simulation
import CallbackFerry.Station

/-!
# Rehearsing drivers

A fleet of drivers in front of a host with one device: the host's own loop, somebody who drops or
refuses every task, or a bridge that was shut down before the first event.
-/

namespace CallbackFerry.Rehearsal

/-- A station whose host holds one device. -/
abbrev DeviceStation := Station Flight Device Bool

/-- What the drivers came to: their totals, or the thread that broke off. -/
abbrev Verdict := Except Nat DriverTotals

/-- A station in front of such a host. -/
def station (bridge : Bridge Flight (Host Device) Bool) (backing : Backing)
    (channels : List ChannelSettings) : DeviceStation :=
  { bridge := bridge
    backing := backing
    world := Simulation.host channels
    hook := fun _ host => host.remember Device.recordFault }

/-- Lets one thread fire what it has left, at most so many flights. -/
def fireThread (orders : Orders) (chance : Nat → Chance) (index : Nat) :
    (flights : Nat) → Fleet × DeviceStation → Fleet × DeviceStation
  | 0, state => state
  | flights + 1, (fleet, station) =>
    match fleet.launch orders index (chance fleet.sequence) with
    | some (some flight, fleet) =>
      match station.submit flight.callback with
      | (some result, station) =>
        fireThread orders chance index flights ((fleet.land index result).getD fleet, station)
      | (none, station) => (fleet, station)
    | some (none, fleet) => (fleet, station)
    | none => (fleet, station)

/-- Lets all threads fire all their events. -/
def fireAll (orders : Orders) (chance : Nat → Chance) (station : DeviceStation) :
    Verdict × DeviceStation :=
  let fleet := Fleet.ofSettings orders.settings
  let most := orders.settings.eventsPerThread + 1
  let (fleet, station) := (List.range orders.settings.threads).foldl
    (fun state index => fireThread orders chance index most state) (fleet, station)
  match fleet.broken? with
  | some index => (.error index, station)
  | none => (.ok fleet.totals, station)

/-- What a rehearsal of drivers comes to. -/
structure DriversReport where
  /-- What the drivers came to. -/
  verdict : Verdict
  /-- The counters of the bridge at the end. -/
  metrics : Metrics
  /-- The account of the device at the end. -/
  device : Device
  /-- How many tasks the host's loop ran. -/
  executed : Nat
  /-- How many of them broke off. -/
  faults : Nat

/-- The report of a station whose drivers are done. -/
def DriversReport.of (verdict : Verdict) (station : DeviceStation) : DriversReport :=
  let ended := station.conclude
  let (executed, faults) : Nat × Nat :=
    match ended.backing with
    | .loop loop => (loop.executed, loop.faults)
    | _ => (0, 0)
  { verdict := verdict
    metrics := ended.bridge.metrics
    device := ended.world.memory
    executed := executed
    faults := faults }

/-- Rehearses drivers by these orders. -/
def playDrivers (settings : BridgeSettings) (backing : Backing) (shutBefore : Bool)
    (channels : List ChannelSettings) (orders : Orders) (chance : Nat → Chance) :
    Except Fault (Except Failure DriversReport) :=
  match Bridge.start settings with
  | .error fault => .error fault
  | .ok (.error failure) => .ok (.error failure)
  | .ok (.ok bridge) =>
    let station := station bridge backing channels
    let (verdict, fired) :=
      fireAll orders chance (if shutBefore then station.shutdown else station)
    .ok (.ok (.of verdict fired))

end CallbackFerry.Rehearsal
