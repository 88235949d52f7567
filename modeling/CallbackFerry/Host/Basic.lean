import CallbackFerry.Failure
import CallbackFerry.Journal
import CallbackFerry.Radio.ChannelMap
import CallbackFerry.Radio.Commentary

/-!
# The host and its handlers

The *host* is where all handlers live: a routing table from channels to event handlers, one
response handler, and whatever the handlers remember.  Only one piece of host code runs at a time.

What a handler does is a finite tree, a `Reaction`: it reads and changes the handlers' memory,
writes lines, asks the host to act, and goes on with the reply, until it answers or breaks off.
When a fault comes out of what the host was asked to do, the handler may catch it and go on as it
likes; `Reaction.request` is for handlers that do not.  Being data, a handler can be registered from
inside another handler, and every run of it is a function of the host.  A reply never holds a
handler, only its label.
-/

namespace CallbackFerry

/-- What the host replies to an action. -/
inductive Reply where
  /-- Nothing to tell. -/
  | done
  /-- The label of the handler that was replaced, removed or found, if there was one. -/
  | handler (label : Option (Option String))
  /-- A number of channels. -/
  | count (channels : Nat)
  /-- Whether a channel is open. -/
  | isOpen (answer : Bool)
  /-- Whether no channel is open. -/
  | isEmpty (answer : Bool)
  /-- The open channels, in ascending order. -/
  | channels (numbers : List Channel)
  /-- What the event handler answered, or why there was none to ask. -/
  | delivered (answer : Except Failure Bool)
  /-- What the response handler answered. -/
  | responded (answer : Bool)

mutual

/-- What a handler does with one message, in a host whose handlers remember a `σ`. -/
inductive Reaction (σ : Type) where
  /-- Ends with an answer: whether the message was handled. -/
  | answer (handled : Bool)
  /-- Breaks off. -/
  | raise (fault : Fault)
  /-- Reads the memory. -/
  | recall (next : σ → Reaction σ)
  /-- Changes the memory. -/
  | remember (change : σ → σ) (next : Reaction σ)
  /-- Writes a line. -/
  | say (line : LogLine) (next : Reaction σ)
  /-- Has the host act, and goes on with its reply or with the fault that came out instead. -/
  | ask (action : Action σ) (next : Except Fault Reply → Reaction σ)

/-- A handler for the events of a channel, with a label if it was given one. -/
inductive EventHandler (σ : Type) where
  | mk (label : Option String) (react : ChannelEvent → Reaction σ)

/-- A handler for responses. -/
inductive ResponseHandler (σ : Type) where
  | mk (react : Response → Reaction σ)

/-- What the host can be asked to do. -/
inductive Action (σ : Type) where
  /-- Gives a channel a handler, in place of the one it has. -/
  | register (channel : Channel) (handler : EventHandler σ)
  /-- Finds the handler of a channel. -/
  | lookup (channel : Channel)
  /-- Takes the handler from a channel. -/
  | unregister (channel : Channel)
  /-- Takes the handlers from all channels. -/
  | clearAll
  /-- Tells whether a channel has a handler. -/
  | isOpen (channel : Channel)
  /-- Tells how many channels have handlers. -/
  | size
  /-- Tells whether no channel has a handler. -/
  | isEmpty
  /-- Lists the channels that have handlers. -/
  | channels
  /-- Delivers an event to the handler of its channel. -/
  | dispatch (event : ChannelEvent)
  /-- Delivers a response to the response handler. -/
  | respond (response : Response)
  /-- Replaces the response handler. -/
  | setResponder (handler : ResponseHandler σ)
  /-- The device was reset: all channels are gone. -/
  | reset
  /-- The connection was closed: all channels are gone. -/
  | close

end

/-- Has the host act, and goes on with its reply.  A fault is not caught: it breaks this off too. -/
def Reaction.request {σ : Type} (action : Action σ) (next : Reply → Reaction σ) : Reaction σ :=
  .ask action fun
    | .ok reply => next reply
    | .error fault => .raise fault

/-- The label of a handler. -/
def EventHandler.label {σ : Type} : EventHandler σ → Option String
  | .mk label _ => label

/-- What the handler does with an event. -/
def EventHandler.react {σ : Type} : EventHandler σ → ChannelEvent → Reaction σ
  | .mk _ react => react

/-- What the handler does with a response. -/
def ResponseHandler.react {σ : Type} : ResponseHandler σ → Response → Reaction σ
  | .mk react => react

/-- The handler that comments on every event and accepts it. -/
def EventHandler.commenting {σ : Type} (label : Option String) : EventHandler σ :=
  .mk label fun event =>
    .say (Commentary.onEvent event.channel event.code event.payload) (.answer true)

/-- The handler that comments on every response and accepts it. -/
def ResponseHandler.commenting {σ : Type} : ResponseHandler σ :=
  .mk fun response =>
    .say (Commentary.onResponse response.channel response.code response.payload) (.answer true)

/-! ### The state of the host -/

/-- The bytes of an empty staging buffer. -/
def blankStage : Bytes := List.replicate maxPayload 0

/-- A channel's place in the routing table. -/
structure Entry (σ : Type) where
  /-- Who handles the channel's events. -/
  handler : EventHandler σ
  /-- Where the payload of an event is staged while its handler runs. -/
  staged : Bytes := blankStage
  /-- Tells this entry from all others the host ever made. -/
  stamp : Nat

/-- The host. -/
structure Host (σ : Type) where
  /-- The routing table. -/
  routes : ChannelMap (Entry σ) := .empty
  /-- Who handles responses. -/
  responder : ResponseHandler σ := ResponseHandler.commenting
  /-- What the handlers remember. -/
  memory : σ
  /-- The lines written in the host. -/
  journal : Journal := {}
  /-- The stamp of the next entry. -/
  nextStamp : Nat := 0
  /-- No entry has that stamp already. -/
  fresh : ∀ channel entry, routes.get? channel = some entry → entry.stamp < nextStamp := by
    intro channel entry found
    cases found

namespace Host

variable {σ : Type}

/-- The host with one more line. -/
def write (host : Host σ) (line : LogLine) : Host σ :=
  { host with journal := host.journal.write line }

/-- The text in which the routing table with these channels lists itself. -/
def listing (channels : List Channel) : String :=
  "ChannelRegistry \x7b channels: ["
    ++ ", ".intercalate (channels.map fun channel => "ChannelId(" ++ channel.text ++ ")")
    ++ "] \x7d"

/-- The host with changed memory. -/
def remember (host : Host σ) (change : σ → σ) : Host σ :=
  { host with memory := change host.memory }

end Host
end CallbackFerry
