import CallbackFerry.Proofs.Bridge.Results
import CallbackFerry.Proofs.Device
import CallbackFerry.Simulation

/-!
# What becomes of flights

Which channels are open decides what becomes of a flight, its `Fate`, and nothing else does: on a
host that serves these channels every flight comes to its own `outcome`, whatever ran before it, and
leaves a host behind that serves them still (`Flight.run_ran`).  A fate shows in three places, in
the device's account, in the counter of misrouted events, and in the totals of the drivers, and in
each of them a flight counts once (`Ran`, `DriverTotals.of_add`).
-/

namespace CallbackFerry

/-- What becomes of a flight. -/
inductive Fate where
  /-- It resets the device. -/
  | reset
  /-- It breaks off. -/
  | fault
  /-- Its event is handled. -/
  | handled
  /-- Its event has no handler. -/
  | unhandled
  deriving DecidableEq

namespace Flight

variable {opened : List Channel} {channels : List ChannelSettings} {host : Host Device}

/-- What becomes of a flight when these channels are open. -/
def fate (opened : List Channel) : Flight → Fate
  | .reset => .reset
  | .fault _ => .fault
  | .event fired => if fired.channel ∈ opened then .handled else .unhandled

/-- An event is handled or not. -/
theorem fate_event (fired : ChannelEvent) :
    (Flight.event fired).fate opened = .handled ∨ (Flight.event fired).fate opened = .unhandled := by
  by_cases member : fired.channel ∈ opened
  · exact .inl (if_pos member)
  · exact .inr (if_neg member)

/-- Whether a message can hold the payload. -/
def Fits : Flight → Prop
  | .event fired => fired.payload.length ≤ maxPayload
  | _ => True

/-- What the function of a flight comes to when these channels are open. -/
def outcome (opened : List Channel) : Flight → Except Fault Bool
  | .reset => .ok true
  | .fault sequence => .error (.message ("simulated fault in callback " ++ toString sequence))
  | .event fired => .ok (decide (fired.channel ∈ opened))

/-- What the driver of a flight is told. -/
def told (opened : List Channel) (flight : Flight) : Except Failure Bool :=
  (Completion.ofOutcome (flight.outcome opened)).result

theorem succeeded_outcome (flight : Flight) :
    succeeded (flight.outcome opened) = decide (flight.fate opened ≠ .fault) := by
  cases flight with
  | event fired => by_cases opened : fired.channel ∈ opened <;> simp [fate, opened] <;> rfl
  | _ => rfl

theorem isSome_faultOf_outcome (flight : Flight) :
    (faultOf (flight.outcome opened)).isSome = decide (flight.fate opened = .fault) := by
  cases flight with
  | event fired => by_cases opened : fired.channel ∈ opened <;> simp [fate, opened] <;> rfl
  | _ => rfl

/-- What a flight is that runs on a host that serves these channels. -/
structure Ran (channels : List ChannelSettings) (flight : Flight) (host : Host Device)
    (work : Work (Host Device) Bool) : Prop where
  outcome : work.outcome = flight.outcome (channels.map ChannelSettings.channel)
  /-- The host serves the channels afterwards. -/
  serves : Device.Serves Place.whole channels work.world
  misrouted : work.misrouted =
    if flight.fate (channels.map ChannelSettings.channel) = .unhandled then 1 else 0
  resets : work.world.memory.resets = host.memory.resets +
    if flight.fate (channels.map ChannelSettings.channel) = .reset then 1 else 0
  total : work.world.memory.total = host.memory.total +
    if flight.fate (channels.map ChannelSettings.channel) = .handled then 1 else 0
  faults : work.world.memory.faults = host.memory.faults

/-- On a host that serves the channels, a flight runs as its fate says. -/
theorem run_ran (serves : Device.Serves Place.whole channels host) {flight : Flight}
    (fits : flight.Fits) (countable : host.memory.resets < Device.maxResets) :
    Ran channels flight host (flight.run host) := by
  cases flight with
  | reset =>
    obtain ⟨after, work, memory, still⟩ := serves.respond_reset [] countable
    have run : Flight.reset.run host = { outcome := .ok true, world := after } := work
    have memory : after.memory = host.memory.recordReset := memory
    rw [run]
    exact ⟨rfl, still, rfl, by rw [memory]; rfl, by rw [memory]; rfl, by rw [memory]; rfl⟩
  | fault sequence => exact ⟨rfl, serves, rfl, rfl, rfl, rfl⟩
  | event fired =>
    by_cases opened : fired.channel ∈ channels.map ChannelSettings.channel
    · have fate : (Flight.event fired).fate (channels.map ChannelSettings.channel) = .handled :=
        if_pos opened
      obtain ⟨after, work, memory, still⟩ := serves.deliver opened fits
      have run : (Flight.event fired).run host = { outcome := .ok true, world := after } := work
      have memory : after.memory = host.memory.recordEvent fired.channel := memory
      rw [run]
      refine ⟨?_, still, ?_, ?_, ?_, ?_⟩
      · simp [outcome, opened]
      · rw [fate]; rfl
      · rw [fate, memory]; rfl
      · rw [fate, memory, if_pos rfl]
        exact Device.total_recordEvent ..
      · rw [memory]; rfl
    · have fate : (Flight.event fired).fate (channels.map ChannelSettings.channel) = .unhandled :=
        if_neg opened
      obtain ⟨after, work, memory, still⟩ := serves.deliver_closed opened
      have run : (Flight.event fired).run host =
          { outcome := .ok false, world := after, misrouted := 1 } := work
      rw [run]
      refine ⟨?_, still, ?_, ?_, ?_, ?_⟩
      · simp [outcome, opened]
      · rw [fate]; rfl
      · rw [fate, memory]; rfl
      · rw [fate, memory]; rfl
      · rw [memory]

end Flight

/-! ### Totals -/

/-- The total of the flights with a fate; a reset is not counted. -/
def DriverTotals.of (totals : DriverTotals) : Fate → Nat
  | .reset => 0
  | .fault => totals.faults
  | .handled => totals.handled
  | .unhandled => totals.unhandled

/-- A flight that lands with its own result counts under its fate. -/
theorem DriverTotals.of_add {opened : List Channel} (flight : Flight) (totals : DriverTotals)
    {fate : Fate} (counted : fate ≠ .reset) :
    (Fleet.DriverTotals.add flight (flight.told opened) totals).of fate =
      totals.of fate + if flight.fate opened = fate then 1 else 0 := by
  cases flight with
  | reset => cases fate <;> first | rfl | exact absurd rfl counted
  | fault sequence => cases fate <;> rfl
  | event fired =>
    by_cases member : fired.channel ∈ opened <;> cases fate <;>
      simp_all [Flight.told, Flight.outcome, Flight.fate, Completion.ofOutcome, Completion.result,
        Fleet.DriverTotals.add, DriverTotals.of]

theorem DriverTotals.rejected_add {opened : List Channel} (flight : Flight) (totals : DriverTotals) :
    (Fleet.DriverTotals.add flight (flight.told opened) totals).rejected = totals.rejected := by
  cases flight with
  | reset | fault => rfl
  | event fired =>
    by_cases member : fired.channel ∈ opened <;>
      simp [Flight.told, Flight.outcome, Completion.ofOutcome, Completion.result,
        Fleet.DriverTotals.add, member]

end CallbackFerry
