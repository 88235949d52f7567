import CallbackFerry.Bridge.Endpoint
import CallbackFerry.Device
import CallbackFerry.Drivers.Fleet

/-!
# What a simulation is made of

A simulation puts a fleet of drivers in front of a host that holds one device.  The device's
channels are opened before anything is fired, and its response handler is installed.  Whatever a
driver launches is a callback that runs in that host.
-/

namespace CallbackFerry

/-- What a flight does in the host. -/
def Flight.run (flight : Flight) (host : Host Device) : Work (Host Device) Bool :=
  match flight with
  | .reset => (Endpoint.responseCallback ⟨⟨0⟩, .systemReset, []⟩).invoke host
  | .fault sequence =>
    { outcome := .error (.message ("simulated fault in callback " ++ toString sequence))
      world := host }
  | .event fired => (Endpoint.eventCallback fired).invoke host

/-- The callback of a flight. -/
def Flight.callback (flight : Flight) : Callback Flight (Host Device) Bool :=
  ⟨flight, Flight.run⟩

namespace Simulation

/-- The host with one device, its channels open and its response handler installed. -/
def host (channels : List ChannelSettings) : Host Device :=
  let fresh : Host Device := { memory := { channels := channels } }
  Device.installIn Place.whole (Device.openIn Place.whole fresh)

/-- What is told about a thread that broke off. -/
def brokenMessage (index : Nat) : String :=
  "Driver thread " ++ toString index ++ " panicked"

end Simulation
end CallbackFerry
