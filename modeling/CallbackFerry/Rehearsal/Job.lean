import CallbackFerry.Bridge.Endpoint
import CallbackFerry.Rehearsal.Acting

/-!
# Jobs

A job is the work of a rehearsed callback: a function of its payload, a note, a deed in the host,
or breaking off.  Whatever is submitted in a rehearsal is an `Errand`: a job with its payload, or a
message to deliver.
-/

namespace CallbackFerry.Rehearsal

/-- What a callback does with its payload. -/
inductive Job where
  /-- Returns it as digits. -/
  | echo
  /-- Returns its length. -/
  | length
  /-- Returns the sum of its bytes. -/
  | sum
  /-- Returns it backwards. -/
  | reverse
  /-- Takes a note down and returns it. -/
  | note (text : String)
  /-- Carries a deed out and returns what that came to. -/
  | act (deed : Deed)
  /-- Breaks off. -/
  | raise (fault : Fault)

/-- What a callback returns in a rehearsal. -/
inductive Yield where
  | text (text : String)
  | number (number : Nat)
  | finding (finding : Finding)
  | answer (handled : Bool)

/-- What a job comes to. -/
def Job.run (job : Job) (payload : Bytes) (host : Host Memory) : Work (Host Memory) Yield :=
  match job with
  | .echo => { outcome := .ok (.text (Hex.ofBytes payload)), world := host }
  | .length => { outcome := .ok (.number payload.length), world := host }
  | .sum =>
    { outcome := .ok (.number (payload.foldr (fun byte sum => byte.toNat + sum) 0)), world := host }
  | .reverse => { outcome := .ok (.text (Hex.ofBytes payload.reverse)), world := host }
  | .note text =>
    { outcome := .ok (.text text), world := host.remember (Memory.takeDown (.note text)) }
  | .act deed =>
    let (finding, host) := deed.carryOut host
    { outcome := finding.map .finding, world := host }
  | .raise fault => { outcome := .error fault, world := host }

/-- Something submitted in a rehearsal. -/
inductive Errand where
  /-- A job with its payload. -/
  | job (payload : Bytes) (job : Job)
  /-- The delivery of an event. -/
  | event (event : ChannelEvent)
  /-- The delivery of a response. -/
  | response (response : Response)
  /-- The doubling of a number. -/
  | double (number : Nat)

namespace Errand

/-- What an errand comes to. -/
def run (errand : Errand) (host : Host Memory) : Work (Host Memory) Yield :=
  let atTop := host.remember fun memory => { memory with depth := 0 }
  match errand with
  | .job payload task => task.run payload atTop
  | .event carried => ((Endpoint.eventCallback carried).invoke atTop).map .answer
  | .response carried => ((Endpoint.responseCallback carried).invoke atTop).map .answer
  | .double number => { outcome := .ok (.number (2 * number)), world := atTop }

/-- The callback of an errand. -/
def callback (errand : Errand) : Callback Errand (Host Memory) Yield :=
  ⟨errand, run⟩

end Errand

/-- What a driver's call comes to. -/
inductive CallResult where
  /-- The result of a submitted job. -/
  | submitted (result : Except Failure Yield)
  /-- Whether a message was handled. -/
  | answered (handled : Bool)

/-- Whether a returned value is a yes. -/
def Yield.isYes : Yield → Bool
  | .answer handled => handled
  | _ => false

/-- What a driver's call for an errand comes to, and the lines written on the way out.  A call about
a message answers with a mere yes or no. -/
def callResult (errand : Errand) (result : Except Failure Yield) : CallResult × List LogLine :=
  match errand with
  | .event _ =>
    let (handled, lines) := Endpoint.eventAnswer (result.map Yield.isYes)
    (.answered handled, lines)
  | .response _ =>
    let (handled, lines) := Endpoint.responseAnswer (result.map Yield.isYes)
    (.answered handled, lines)
  | _ => (.submitted result, [])

/-! ### What has been written since -/

/-- A result with what was taken down and written on the way to it. -/
structure Took (α : Type) where
  /-- The result. -/
  result : α
  /-- What was taken down, in order. -/
  trace : List TraceEntry
  /-- The lines written, in order. -/
  lines : List LogLine

/-- Empties the host's notes and journal. -/
def emptied (host : Host Memory) : List TraceEntry × List LogLine × Host Memory :=
  (host.memory.trace.reverse, host.journal.lines,
    { host with memory := { host.memory with trace := [] }, journal := {} })

/-- Deeds one after the other on one host, each with what it left behind. -/
def carryOutAll : List Deed → Host Memory → List (Took (Except Fault Finding))
  | [], _ => []
  | deed :: rest, host =>
    let (result, host) := deed.carryOut host
    let (trace, lines, host) := emptied host
    ⟨result, trace, lines⟩ :: carryOutAll rest host

end CallbackFerry.Rehearsal
