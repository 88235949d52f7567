import CallbackFerry.Bridge.Basic
import CallbackFerry.Host.Acts

/-!
# Delivering messages through the bridge

A driver that has a channel event or a response wraps its delivery into a callback and submits it.
It only wants to know whether the message was handled: whatever goes wrong on the way counts as
not handled, and is written down.
-/

namespace CallbackFerry

/-- The same work with another kind of result. -/
def Work.map {ω ρ υ : Type} (change : ρ → υ) (work : Work ω ρ) : Work ω υ :=
  { outcome := work.outcome.map change, world := work.world, misrouted := work.misrouted }

namespace Endpoint

variable {σ : Type}

/-- A line about an event that reached no handler. -/
def undeliveredLine (event : ChannelEvent) (verb : String) (cause : Failure) : LogLine :=
  { level := .warn
    component := .bridge
    message := verb ++ " " ++ event.code.text ++ ": " ++ cause.message
    fields := [("channel", event.channel.text)] }

/-- Delivers an event in the host.  An event without a handler is counted as misrouted and not
handled; so is, uncounted, an event with too long a payload. -/
def deliverEvent (event : ChannelEvent) (host : Host σ) (room : Nat := Host.depth) :
    Work (Host σ) Bool :=
  match host.dispatch event room with
  | (.error fault, host) => { outcome := .error fault, world := host }
  | (.ok (.ok handled), host) => { outcome := .ok handled, world := host }
  | (.ok (.error (.unknownChannel channel)), host) =>
    { outcome := .ok false
      world := host.write (undeliveredLine event "Dropping" (.unknownChannel channel))
      misrouted := 1 }
  | (.ok (.error cause), host) =>
    { outcome := .ok false, world := host.write (undeliveredLine event "Rejected" cause) }

/-- Delivers a response in the host. -/
def deliverResponse (response : Response) (host : Host σ) : Work (Host σ) Bool :=
  let (outcome, host) := host.respond response
  { outcome := outcome, world := host }

/-- The callback that delivers an event. -/
def eventCallback (event : ChannelEvent) (room : Nat := Host.depth) :
    Callback ChannelEvent (Host σ) Bool :=
  ⟨event, fun event host => deliverEvent event host room⟩

/-- The callback that delivers a response. -/
def responseCallback (response : Response) : Callback Response (Host σ) Bool :=
  ⟨response, deliverResponse⟩

/-- What a driver takes for the answer, and what it writes, when the delivery of a message of this
kind ended so. -/
def answer (kind : String) : Except Failure Bool → Bool × List LogLine
  | .ok handled => (handled, [])
  | .error cause => (false, [Bridge.line .debug (kind ++ " not handled: " ++ cause.message)])

/-- The answer to an event. -/
def eventAnswer : Except Failure Bool → Bool × List LogLine :=
  answer "Channel event"

/-- The answer to a response. -/
def responseAnswer : Except Failure Bool → Bool × List LogLine :=
  answer "Response"

end Endpoint
end CallbackFerry
