import CallbackFerry.Rehearsal.Script

/-!
# Carrying scripts out

A deed becomes a reaction that goes on with what the deed came to; a role becomes a handler.  Deeds
of handlers that lie too deep, in the sixth handler inside another or deeper, are left out, so a
script that has a handler call itself comes to an end.
-/

namespace CallbackFerry.Rehearsal

/-- The depth from which on deeds are left out. -/
def depthLimit : Nat := 6

/-! ### Reading replies -/

/-- The handler label in a reply. -/
def labelOf : Reply → Option (Option String)
  | .handler label => label
  | _ => none

/-- The channels in a reply. -/
def channelsOf : Reply → List Channel
  | .channels numbers => numbers
  | _ => []

/-- Whether a reply says yes. -/
def isYes : Reply → Bool
  | .isOpen answer => answer
  | .responded answer => answer
  | _ => false

/-- What looking for the handler of a channel came to. -/
def lookupFinding (channel : Channel) (reply : Reply) : Finding :=
  match labelOf reply with
  | some label => .found label
  | none => .failed (.unknownChannel channel)

/-- What a delivery came to. -/
def deliveryFinding : Reply → Finding
  | .delivered (.ok answer) => .handled answer
  | .delivered (.error cause) => .failed cause
  | _ => .done

/-! ### Messages -/

/-- A message as a scripted handler takes it down. -/
structure Heard where
  /-- The channel it names. -/
  channel : Channel
  /-- The byte of its code. -/
  code : UInt8
  /-- Its payload. -/
  payload : Bytes
  /-- The line that the default handler writes about it. -/
  comment : LogLine

/-- An event as it is heard. -/
def Heard.ofEvent (event : ChannelEvent) : Heard :=
  { channel := event.channel
    code := event.code.toByte
    payload := event.payload
    comment := Commentary.onEvent event.channel event.code event.payload }

/-- A response as it is heard. -/
def Heard.ofResponse (response : Response) : Heard :=
  { channel := response.channel
    code := response.code.toByte
    payload := response.payload
    comment := Commentary.onResponse response.channel response.code response.payload }

/-- The name of a role. -/
def Role.name : Role → String
  | .commenting name => name
  | .acting name _ _ _ _ => name

/-! ### Deeds and roles -/

mutual

/-- The deed as a reaction that goes on with what the deed came to. -/
def Deed.reaction : Deed → (Finding → Reaction Memory) → Reaction Memory
  | .register channel role, next =>
    .recall fun memory =>
      .remember Memory.enrol
        (.request
          (.register channel (.mk (some role.name) fun event =>
            role.hear memory.calls.size (.ofEvent event)))
          fun reply => next (.replaced (labelOf reply)))
  | .setResponder role, next =>
    .recall fun memory =>
      .remember Memory.enrol
        (.request
          (.setResponder (.mk fun response =>
            role.hear memory.calls.size (.ofResponse response)))
          fun _ => next .done)
  | .lookup channel, next =>
    .request (.lookup channel) fun reply => next (lookupFinding channel reply)
  | .unregister channel, next =>
    .request (.unregister channel) fun reply => next (.removed (labelOf reply))
  | .clearAll, next => .request .clearAll fun reply => next (.cleared (Device.countOf reply))
  | .isOpen channel, next => .request (.isOpen channel) fun reply => next (.isOpen (isYes reply))
  | .size, next => .request .size fun reply => next (.size (Device.countOf reply))
  | .channels, next => .request .channels fun reply => next (.channels (channelsOf reply))
  | .listing, next =>
    .request .channels fun reply => next (.listing (Host.listing (channelsOf reply)))
  | .dispatch event checked, next =>
    match checked, ChannelEvent.checked event.channel event.code event.payload with
    | true, .error cause => next (.refused cause)
    | _, _ => .request (.dispatch event) fun reply => next (deliveryFinding reply)
  | .respond response, next =>
    .request (.respond response) fun reply => next (.handled (isYes reply))
  | .reset, next =>
    .request .reset fun _ => .request .size fun reply => next (.left (Device.countOf reply))
  | .close, next =>
    .request .close fun _ => .request .size fun reply => next (.left (Device.countOf reply))
  | .openDevice channels install, next =>
    .recall fun memory =>
      let place := Memory.place memory.opened
      let report : Reaction Memory := .request .size fun reply => next (.left (Device.countOf reply))
      .remember (Memory.addDevice channels)
        (Device.opening place channels
          (if install then .request (.setResponder (Device.responder place)) fun _ => report
            else report))
  | .device, next => .recall fun memory => next (.device memory.device?)
  | .deviceFault, next =>
    .recall fun memory =>
      .remember
        (if memory.opened = 0 then id
          else (Memory.place (memory.opened - 1)).update Device.recordFault)
        (.recall fun memory => next (.device memory.device?))
  | .raise fault, _ => .raise fault

/-- The deeds of a handler one after the other, each taken down with what it came to; all of them
are left out if they lie too deep. -/
def inTurn (name : String) (tooDeep : Bool) : List Deed → Reaction Memory → Reaction Memory
  | [], next => next
  | deed :: rest, next =>
    if tooDeep then
      .remember (Memory.takeDown (.within name .skipped)) (inTurn name tooDeep rest next)
    else
      deed.reaction fun finding =>
        .remember (Memory.takeDown (.within name finding)) (inTurn name tooDeep rest next)

/-- What a role does with a message: it takes the call down and counts it under its number, carries
out its deeds if it is to, and answers. -/
def Role.hear (number : Nat) : Role → Heard → Reaction Memory
  | .commenting _, heard => .say heard.comment (.answer true)
  | .acting name answer deeds only times, heard =>
    .remember (fun memory =>
        (memory.takeDown (.called name heard.channel heard.code heard.payload)).countCall number)
      (.recall fun memory =>
        let wanted := (only.map (·.contains heard.code)).getD true
        let early := (times.map fun most => decide (memory.callsOf number ≤ most)).getD true
        let final : Reaction Memory := .answer (answer.toBool heard.payload)
        if wanted && early then
          .remember (fun memory => { memory with depth := memory.depth + 1 })
            (inTurn name (decide (depthLimit ≤ memory.depth + 1)) deeds
              (.remember (fun memory => { memory with depth := memory.depth - 1 }) final))
        else final)

end

/-! ### Deeds at the top -/

/-- Carries a deed out in the host, outside all handlers. -/
def Deed.carryOut (deed : Deed) (host : Host Memory) : Except Fault Finding × Host Memory :=
  let atTop := host.remember fun memory => { memory with depth := 0 }
  let keep (finding : Finding) : Reaction Memory :=
    .remember (fun memory => { memory with finding := finding }) (.answer true)
  match atTop.carryOut (deed.reaction keep) with
  | (.ok _, host) => (.ok host.memory.finding, host)
  | (.error fault, host) => (.error fault, host)

end CallbackFerry.Rehearsal
