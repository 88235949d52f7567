import CallbackFerry.Failure

/-!
# Handing over one result

A handoff connects one callback with the driver that waits for it.  Its *slot* is empty until the
callback has ended; then it holds how.  The host's half, the *signal*, fills the slot once: with how
the callback ended if somebody says so, and else, when it is dropped, with an abandonment.  It is
dropped after it was used as well, and does nothing then.

The driver's half, the *waiter*, sleeps while the slot is empty, and wakes when it is filled, when
its limit passes, or without cause.  A driver that wakes looks; when it has done waiting it has the
slot locked until it has taken what is there and left, so nobody can fill the slot in between.
-/

namespace CallbackFerry

/-- How a callback ended. -/
inductive Completion (ρ : Type) where
  /-- It returned. -/
  | value (result : ρ)
  /-- It broke off. -/
  | fault (text : String)
  /-- It never ran. -/
  | abandoned
  deriving DecidableEq, Repr

namespace Completion

variable {ρ : Type}

/-- The ending of a callback that ran. -/
def ofOutcome : Except Fault ρ → Completion ρ
  | .ok result => .value result
  | .error cause => .fault cause.text

/-- What the waiting driver is told. -/
def result : Completion ρ → Except Failure ρ
  | .value result => .ok result
  | .fault text => .error (.fault text)
  | .abandoned => .error .abandoned

end Completion

/-- Where the host's half is. -/
inductive Signal where
  /-- It has not been used. -/
  | held
  /-- It has been used, and is about to be dropped. -/
  | used
  /-- It was dropped. -/
  | dropped
  deriving DecidableEq, Repr

/-- Where the driver is. -/
inductive Waiter where
  /-- It has not begun to wait. -/
  | ready
  /-- It sleeps, at most for the limit if there is one. -/
  | asleep (limit : Option Span)
  /-- It was woken and is about to look. -/
  | awake (limit : Option Span)
  /-- It has done waiting and has the slot locked, and knows whether its limit has passed. -/
  | holding (limit : Option Span) (late : Bool)
  /-- It has left. -/
  | gone
  deriving DecidableEq, Repr

/-- One handoff. -/
structure Handoff (ρ : Type) where
  /-- How the callback ended, once it has, until the driver takes it. -/
  slot : Option (Completion ρ) := none
  /-- Where the host's half is. -/
  signal : Signal := .held
  /-- Where the driver is. -/
  waiter : Waiter := .ready
  deriving Repr

namespace Handoff

variable {ρ : Type}

/-! ### The host's half -/

/-- Wakes a sleeping driver. -/
def rouse (handoff : Handoff ρ) : Handoff ρ :=
  match handoff.waiter with
  | .asleep limit => { handoff with waiter := .awake limit }
  | _ => handoff

/-- Whether the driver has the slot locked. -/
def isLocked (handoff : Handoff ρ) : Bool :=
  match handoff.waiter with
  | .holding .. => true
  | _ => false

/-- Fills the slot, unless it is locked, and wakes the driver. -/
def fill (completion : Completion ρ) (handoff : Handoff ρ) : Option (Handoff ρ) :=
  if handoff.isLocked then none else some { handoff with slot := some completion }.rouse

/-- Completes the handoff, which is possible once. -/
def complete (completion : Completion ρ) (handoff : Handoff ρ) : Option (Handoff ρ) :=
  match handoff.signal with
  | .held => (handoff.fill completion).map fun filled => { filled with signal := .used }
  | _ => none

/-- Drops the host's half, which completes the handoff as abandoned if it has not been completed. -/
def drop (handoff : Handoff ρ) : Option (Handoff ρ) :=
  match handoff.signal with
  | .held => (handoff.fill .abandoned).map fun filled => { filled with signal := .dropped }
  | .used => some { handoff with signal := .dropped }
  | .dropped => none

/-! ### The driver's half -/

/-- The driver looks into the slot: it has done waiting if something is there, and else sleeps. -/
def lookFor (limit : Option Span) (handoff : Handoff ρ) : Handoff ρ :=
  match handoff.slot with
  | some _ => { handoff with waiter := .holding limit false }
  | none => { handoff with waiter := .asleep limit }

/-- The driver begins to wait, at most for the limit if there is one. -/
def wait (limit : Option Span) (handoff : Handoff ρ) : Option (Handoff ρ) :=
  match handoff.waiter with
  | .ready => some (handoff.lookFor limit)
  | _ => none

/-- A sleeping driver wakes without cause. -/
def stir (handoff : Handoff ρ) : Option (Handoff ρ) :=
  match handoff.waiter with
  | .asleep limit => some { handoff with waiter := .awake limit }
  | _ => none

/-- A driver that was woken looks again. -/
def look (handoff : Handoff ρ) : Option (Handoff ρ) :=
  match handoff.waiter with
  | .awake limit => some (handoff.lookFor limit)
  | _ => none

/-- The limit of a waiting driver passes, and it has done waiting whatever is in the slot. -/
def expire (handoff : Handoff ρ) : Option (Handoff ρ) :=
  match handoff.waiter with
  | .asleep (some limit) | .awake (some limit) =>
    some { handoff with waiter := .holding (some limit) true }
  | _ => none

/-- What a driver is told that takes this out of the slot. -/
def finish : Option (Completion ρ) → Except Failure ρ
  | some completion => completion.result
  | none => .error .abandoned

/-- The limit of a driver that gives up: it has passed, and there is nothing to take. -/
def gaveUp? (handoff : Handoff ρ) : Option Span :=
  match handoff.waiter, handoff.slot with
  | .holding (some limit) true, none => some limit
  | _, _ => none

/-- A driver that has done waiting gives up, or takes what is in the slot, and leaves. -/
def leave (handoff : Handoff ρ) : Option (Except Failure ρ × Handoff ρ) :=
  match handoff.waiter with
  | .holding .. =>
    let result :=
      match handoff.gaveUp? with
      | some limit => .error (.timeout limit)
      | none => finish handoff.slot
    some (result, { handoff with slot := none, waiter := .gone })
  | _ => none

/-- A driver leaves without having waited. -/
def quit (handoff : Handoff ρ) : Option (Handoff ρ) :=
  match handoff.waiter with
  | .ready => some { handoff with waiter := .gone }
  | _ => none

/-! ### Both halves together -/

/-- What can happen to a handoff. -/
inductive Act (ρ : Type) where
  /-- The host says how the callback ended. -/
  | signal (outcome : Except Fault ρ)
  | drop
  | wait (limit : Option Span)
  | stir
  | look
  | expire
  | leave
  | quit

/-- Whether it is the driver who does that. -/
def Act.isDrivers : Act ρ → Bool
  | .signal _ | .drop => false
  | _ => true

/-- The handoff afterwards, if that can happen to it. -/
def step (handoff : Handoff ρ) : Act ρ → Option (Handoff ρ)
  | .signal outcome => handoff.complete (.ofOutcome outcome)
  | .drop => handoff.drop
  | .wait limit => handoff.wait limit
  | .stir => handoff.stir
  | .look => handoff.look
  | .expire => handoff.expire
  | .leave => handoff.leave.map (·.2)
  | .quit => handoff.quit

/-- What a driver gets that waits while nobody else does anything: nothing if it would wait for
ever. -/
def await (limit : Option Span) (handoff : Handoff ρ) :
    Option (Except Failure ρ) × Handoff ρ :=
  match handoff.wait limit with
  | some waiting =>
    match waiting.leave <|> waiting.expire.bind leave with
    | some (result, left) => (some result, left)
    | none => (none, waiting)
  | none => (none, handoff)

end Handoff
end CallbackFerry
