import CallbackFerry.Handoff

/-!
# Rehearsing handoffs

Several handoffs side by side, each with its two halves under a number.  A half that has been used
is gone.
-/

namespace CallbackFerry.Rehearsal

/-- A step of a handoff script, with values of a type `ν`. -/
inductive HandoffStep (ν : Type) where
  /-- Makes a handoff under a number, in place of the one there. -/
  | new (number : Nat)
  | complete (number : Nat) (completion : Completion ν)
  | wait (number : Nat) (limit : Option Span)
  /-- Waits while another thread completes the handoff. -/
  | waitAcross (number : Nat) (completion : Completion ν)

/-- What a step of a handoff script comes to. -/
inductive HandoffReport (ν : Type) where
  | done
  | completed (answer : Bool)
  | result (result : Except Failure ν)
  /-- The waiting half is gone. -/
  | already
  /-- Waiting would have no end. -/
  | wouldBlock
  /-- The step broke off. -/
  | brokeOff (fault : Fault)

/-- The handoffs by number, newest first. -/
structure HandoffBench (ν : Type) where
  /-- The handoffs. -/
  handoffs : List (Nat × Handoff ν) := []

namespace HandoffBench

variable {ν : Type}

/-- The handoff under a number; before there is one both its halves are gone. -/
def get (number : Nat) (bench : HandoffBench ν) : Handoff ν :=
  (bench.handoffs.lookup number).getD { signal := .dropped, waiter := .gone }

/-- Puts a handoff under a number. -/
def put (number : Nat) (handoff : Handoff ν) (bench : HandoffBench ν) : HandoffBench ν :=
  ⟨(number, handoff) :: bench.handoffs.filter (·.1 ≠ number)⟩

/-- Waits for a handoff.  A limit that does not fit breaks the step off, and the waiting half is
lost with it. -/
def wait (number : Nat) (limit : Option Span) (bench : HandoffBench ν) :
    HandoffReport ν × HandoffBench ν :=
  let handoff := bench.get number
  match handoff.waiter with
  | .gone => (.already, bench)
  | _ =>
    if limit.any (!·.fits) then
      (.brokeOff (.message Span.overflowMessage), bench.put number { handoff with waiter := .gone })
    else
    match handoff.await limit with
    | (some result, handoff) => (.result result, bench.put number handoff)
    | (none, handoff) => (.wouldBlock, bench.put number { handoff with waiter := .gone })

/-- One step. -/
def step (bench : HandoffBench ν) : HandoffStep ν → HandoffReport ν × HandoffBench ν
  | .new number => (.done, bench.put number {})
  | .complete number completion =>
    match (bench.get number).complete completion with
    | some handoff => (.completed true, bench.put number handoff)
    | none => (.completed false, bench)
  | .wait number limit => bench.wait number limit
  | .waitAcross number completion =>
    match (bench.get number).complete completion with
    | some handoff => (bench.put number handoff).wait number none
    | none => bench.wait number none

/-- All steps in order. -/
def play : List (HandoffStep ν) → HandoffBench ν → List (HandoffReport ν)
  | [], _ => []
  | step :: rest, bench =>
    let (report, bench) := bench.step step
    report :: play rest bench

end HandoffBench
end CallbackFerry.Rehearsal
