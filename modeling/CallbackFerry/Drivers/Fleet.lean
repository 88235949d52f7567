import CallbackFerry.Drivers.Event
import CallbackFerry.Settings.Basic

/-!
# A fleet of driver threads

Every thread of the fleet fires a set number of events, one after the other, each one only when the
one before has been answered.  All threads draw their sequence numbers from one counter, and every
so many numbers a callback that breaks off takes the place of the event.  Half-way through its own
events the first thread reports a reset of the device.

A thread *launches* something and later *lands* it with its result.  Threads launch and land in any
order, and any result may come back.
-/

namespace CallbackFerry

/-- What a thread launches. -/
inductive Flight where
  /-- A report that the device was reset. -/
  | reset
  /-- A callback that breaks off, with its sequence number. -/
  | fault (sequence : Nat)
  /-- A channel event. -/
  | event (event : ChannelEvent)
  deriving DecidableEq, Repr

/-- Where a thread is. -/
inductive DriverPhase where
  /-- About to launch, after so many events of its own; and whether it has reported the reset. -/
  | ready (fired : Nat) (reported : Bool)
  /-- Waiting for the result of what it launched. -/
  | aloft (fired : Nat) (reported : Bool) (flight : Flight)
  /-- Broken off. -/
  | broken
  deriving DecidableEq, Repr

/-- The totals of all threads. -/
structure DriverTotals where
  /-- Events that were handled. -/
  handled : Nat := 0
  /-- Events that were not. -/
  unhandled : Nat := 0
  /-- Faults that came back to the drivers. -/
  faults : Nat := 0
  /-- Callbacks that break off which were not even queued. -/
  rejected : Nat := 0
  deriving DecidableEq, Repr, Inhabited

/-- The threads, their counter and their totals. -/
structure Fleet where
  /-- The threads, by index. -/
  threads : Array DriverPhase
  /-- How many sequence numbers were drawn. -/
  sequence : Nat := 0
  /-- The totals. -/
  totals : DriverTotals := {}
  deriving Repr

/-- What a fleet goes by. -/
structure Orders where
  /-- The settings of the drivers. -/
  settings : DriverSettings
  /-- The channels that are open. -/
  opened : List Channel

namespace Fleet

/-- A fleet that has not launched anything. -/
def ofSettings (settings : DriverSettings) : Fleet :=
  { threads := Array.replicate settings.threads (.ready 0 false) }

/-- Whether a thread has its reset to report now. -/
def resetDue (orders : Orders) (index fired : Nat) (reported : Bool) : Bool :=
  index == 0 && fired == orders.settings.eventsPerThread / 2 && !reported

/-- The remainder of a division, which breaks off if the divisor is zero. -/
def remainder (number divisor : Nat) : Except Fault Nat :=
  if divisor = 0 then .error (.message "attempt to calculate the remainder with a divisor of zero")
  else .ok (number % divisor)

/-- Whether it is the turn of a callback that breaks off; nothing is divided if there are none. -/
def isDue (faultEvery sequence : Nat) : Except Fault Bool :=
  if 0 < faultEvery then (remainder sequence faultEvery).map (· == 0) else .ok false

/-- What takes a sequence number: a callback that breaks off, or a random event. -/
def numbered (orders : Orders) (sequence : Nat) (chance : Chance) : Except Fault Flight :=
  match isDue orders.settings.faultEvery sequence with
  | .ok true => .ok (.fault sequence)
  | .ok false =>
    (RandomEvent.fire orders.opened orders.settings.unknownRatio chance).map .event
  | .error fault => .error fault

/-- A thread launches what is next; nothing if it has fired all its events, waits, or is broken.  A
thread that breaks off launches nothing more. -/
def launch (orders : Orders) (index : Nat) (chance : Chance) (fleet : Fleet) :
    Option (Option Flight × Fleet) :=
  match fleet.threads[index]? with
  | some (.ready fired reported) =>
    if orders.settings.eventsPerThread ≤ fired then none
    else if resetDue orders index fired reported then
      some (some .reset,
        { fleet with threads := fleet.threads.set! index (.aloft fired true .reset) })
    else
      let sequence := fleet.sequence + 1
      let drawn := { fleet with sequence := sequence }
      match numbered orders sequence chance with
      | .ok flight =>
        some (some flight,
          { drawn with threads := drawn.threads.set! index (.aloft fired reported flight) })
      | .error _ => some (none, { drawn with threads := drawn.threads.set! index .broken })
  | _ => none

/-- What the result of a flight adds to the totals.  A message counts as handled only if that is
the answer; of the callbacks that break off only the expected ends are counted. -/
def DriverTotals.add (flight : Flight) (result : Except Failure Bool) (totals : DriverTotals) :
    DriverTotals :=
  match flight, result with
  | .event _, .ok true => { totals with handled := totals.handled + 1 }
  | .event _, _ => { totals with unhandled := totals.unhandled + 1 }
  | .fault _, .error (.fault _) => { totals with faults := totals.faults + 1 }
  | .fault _, .error .shutDown => { totals with rejected := totals.rejected + 1 }
  | _, _ => totals

/-- A thread gets the result of what it launched. -/
def land (index : Nat) (result : Except Failure Bool) (fleet : Fleet) : Option Fleet :=
  match fleet.threads[index]? with
  | some (.aloft fired reported flight) =>
    let again :=
      match flight with
      | .reset => fired
      | _ => fired + 1
    some { fleet with
      threads := fleet.threads.set! index (.ready again reported)
      totals := DriverTotals.add flight result fleet.totals }
  | _ => none

/-- Whether all threads have fired all their events. -/
def isThrough (orders : Orders) (fleet : Fleet) : Bool :=
  fleet.threads.all fun
    | .ready fired _ => orders.settings.eventsPerThread ≤ fired
    | _ => false

/-- The first thread that broke off. -/
def broken? (fleet : Fleet) : Option Nat :=
  fleet.threads.findIdx? fun
    | .broken => true
    | _ => false

end Fleet
end CallbackFerry
