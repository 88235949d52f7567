import CallbackFerry.Proofs.Bridge.Life
import CallbackFerry.Proofs.Settings.Validation

/-!
# Starting a bridge

The settings are checked before a bridge starts, and the rules for them cover all that the start
needs but one thing: no thread can have a name with a NUL character.  Usable settings with such a
name break the start off (`not_forall_started`).  In all other cases the caller is told the first
flaw of the settings, or why the operating system refuses the thread, or it has a bridge.

`begun_startUnless` says which of these comes of any settings.  The dispatcher of a bridge that has
started waits in front of an empty queue, and it goes on to do so, whatever the host is like, until
a driver draws a number or the bridge is shut down.
-/

namespace CallbackFerry

theorem BridgeFlaw.exists_failure (flaw : BridgeFlaw) :
    ∃ reason, flaw.failure = .config reason := by
  cases flaw <;> exact ⟨_, rfl⟩

namespace Bridge

variable {π ω ρ : Type} {settings : BridgeSettings} {refusal : Option String}

/-! ### Before anything is submitted -/

/-- Whether a move needs nothing to have come before it. -/
def Move.Unprompted : Move π ω ρ → Prop
  | .draw _ | .abort => True
  | _ => False

/-- In a bridge that has just started, nobody can do anything but submit or shut it down. -/
theorem unprompted_of_step {bridge after : Bridge π ω ρ} {move : Move π ω ρ}
    (start : bridge = fresh settings) (made : bridge.step move = some after) :
    move.Unprompted := by
  -- There is no call to go on with, nothing to offer, and nothing that the host could run.
  have waits : bridge.dispatcher = {} := by rw [start]; rfl
  have held : bridge.held = [] := by rw [start]; rfl
  have running : bridge.running = [] := by rw [start]; rfl
  have blank : ∀ (key : Nat) s, bridge.submissions[key]? ≠ some s := by
    intro key s record
    rw [start] at record
    simp [fresh, write] at record
  cases move with
  | draw | abort => trivial
  | push key =>
    obtain ⟨s, record, -⟩ := push_eq_some made
    exact absurd record (blank key s)
  | collect key =>
    obtain ⟨s, completion, record, -⟩ := collect_eq_some made
    exact absurd record (blank key s)
  | expire key =>
    obtain ⟨s, limit, record, -⟩ := expire_eq_some made
    exact absurd record (blank key s)
  | leave key =>
    obtain ⟨s, result, record, -⟩ := leave_eq_some made
    exact absurd record (blank key s)
  | take =>
    obtain ⟨dispatcher, lines, taken, -⟩ := take_eq_some made
    rw [waits] at taken
    cases taken
  | offer reception keeps =>
    obtain ⟨ticket, dispatcher, lines, offered, -⟩ := offer_eq_some made
    rw [waits] at offered
    cases offered
  | settle =>
    obtain ⟨dispatcher, settled, -⟩ := Option.map_eq_some_iff.mp made
    rw [waits] at settled
    cases settled
  | retire =>
    obtain ⟨dispatcher, retired, -⟩ := Option.map_eq_some_iff.mp made
    rw [waits] at retired
    cases retired
  | begin key world =>
    obtain ⟨ticket, s, lines, -, -, record, -⟩ := begin_eq_some made
    exact absurd record (blank key s)
  | advance key timing =>
    obtain ⟨task, found, -⟩ := advance_eq_some made
    rw [running] at found
    cases found
  | drop key =>
    obtain ⟨⟨ticket, without⟩, released, -⟩ := Option.map_eq_some_iff.mp made
    have member := (release_eq_some released).1
    rw [held] at member
    cases member

/-- What a bridge is like that has just started. -/
structure Ready (settings : BridgeSettings) (bridge : Bridge π ω ρ) : Prop where
  /-- The dispatcher waits. -/
  waiting : bridge.dispatcher.state = .waiting
  /-- The queue is empty. -/
  empty : bridge.dispatcher.queue.pending = []
  /-- It is open, and nobody has asked for it to close. -/
  isOpen : bridge.dispatcher.queue.closed = false ∧ bridge.dispatcher.queue.aborted = false
  /-- Drivers wait as long as the settings say. -/
  timeout : bridge.timeout = settings.timeoutMillis.map Span.ofMillis
  /-- So long a backlog goes without a warning as the settings say. -/
  warnDepth : bridge.warnDepth = settings.warnDepth
  /-- Nothing has been submitted, and the host has nothing. -/
  blank : bridge.submissions = #[] ∧ bridge.held = [] ∧ bridge.running = [] ∧ bridge.metrics = {}
  /-- Nothing happens until somebody submits or shuts the bridge down. -/
  still : ∀ past now, Run step bridge past now → (∀ moment ∈ past, ¬ moment.move.Unprompted) →
    past = [] ∧ now = bridge

theorem ready_fresh (settings : BridgeSettings) :
    Ready settings (fresh settings : Bridge π ω ρ) where
  waiting := rfl
  empty := rfl
  isOpen := ⟨rfl, rfl⟩
  timeout := rfl
  warnDepth := rfl
  blank := ⟨rfl, rfl, rfl, rfl⟩
  still past now run prompted := by
    cases past with
    | nil => exact ⟨rfl, run.of_nil⟩
    | cons moment later =>
      obtain ⟨first, after, made, -⟩ := run.of_cons
      exact absurd (unprompted_of_step first made) (prompted moment List.mem_cons_self)

/-! ### What comes of a start -/

/-- What it means that this comes of starting a bridge. -/
structure Begun (settings : BridgeSettings) (refusal : Option String)
    (outcome : Except Fault (Except Failure (Bridge π ω ρ))) : Prop where
  /-- The first flaw of the settings is reported. -/
  flawed : ∀ flaw, settings.flaws.head? = some flaw → outcome = .ok (.error flaw.failure)
  /-- The settings are reported if and only if they are not usable. -/
  config : (∃ reason, outcome = .ok (.error (.config reason))) ↔ ¬ settings.Usable
  /-- A refusal of the operating system is reported if the settings are usable and a thread can have
  the name. -/
  io : ∀ reason, outcome = .ok (.error (.io reason)) ↔
    settings.Usable ∧ '\x00' ∉ settings.threadName.toList ∧ refusal = some reason
  /-- There are no other failures. -/
  failed : ∀ failure, outcome = .ok (.error failure) →
    (∃ reason, failure = .config reason) ∨ ∃ reason, failure = .io reason
  /-- The start breaks off if the settings are usable and no thread can have the name. -/
  broken : ∀ fault, outcome = .error fault ↔ settings.Usable ∧
    '\x00' ∈ settings.threadName.toList ∧ fault = nulNameFault settings.threadName
  /-- Otherwise there is a bridge. -/
  started : (∃ bridge, outcome = .ok (.ok bridge)) ↔
    settings.Usable ∧ '\x00' ∉ settings.threadName.toList ∧ refusal = none
  /-- Nothing has happened to it. -/
  ready : ∀ bridge, outcome = .ok (.ok bridge) → Ready settings bridge

section Begun

variable {flaw : BridgeFlaw} {reason : String}

theorem not_usable_of_flaw (found : settings.flaw? = some flaw) : ¬ settings.Usable := by
  rw [← BridgeSettings.flaw?_eq_none_iff, found]
  exact Option.some_ne_none flaw

/-- Usable settings have no first flaw. -/
theorem flawless (usable : settings.Usable) : settings.flaws.head? ≠ some flaw := by
  rw [BridgeSettings.flaws_eq_nil_iff.mpr usable]
  exact (Option.some_ne_none flaw).symm

theorem begun_of_flaw (found : settings.flaw? = some flaw) (told : flaw.failure = .config reason) :
    Begun (π := π) (ω := ω) (ρ := ρ) settings refusal (.ok (.error (.config reason))) where
  flawed other first := by
    rw [← settings.flaw?_eq_head?, found] at first
    rw [← Option.some.inj first, told]
  config := iff_of_true ⟨reason, rfl⟩ (not_usable_of_flaw found)
  io _ := iff_of_false nofun fun h => not_usable_of_flaw found h.1
  failed := by
    rintro _ ⟨⟩
    exact .inl ⟨reason, rfl⟩
  broken _ := iff_of_false nofun fun h => not_usable_of_flaw found h.1
  started := iff_of_false nofun fun h => not_usable_of_flaw found h.1
  ready := nofun

theorem begun_of_nul (usable : settings.Usable) (nul : '\x00' ∈ settings.threadName.toList) :
    Begun (π := π) (ω := ω) (ρ := ρ) settings refusal
      (.error (nulNameFault settings.threadName)) where
  flawed _ first := absurd first (flawless usable)
  config := iff_of_false nofun (not_not_intro usable)
  io _ := iff_of_false nofun fun h => h.2.1 nul
  failed := nofun
  broken fault := by
    constructor
    · rintro ⟨⟩
      exact ⟨usable, nul, rfl⟩
    · rintro ⟨-, -, rfl⟩
      rfl
  started := iff_of_false nofun fun h => h.2.1 nul
  ready := nofun

theorem begun_of_refusal (usable : settings.Usable) (plain : '\x00' ∉ settings.threadName.toList) :
    Begun (π := π) (ω := ω) (ρ := ρ) settings (some reason) (.ok (.error (.io reason))) where
  flawed _ first := absurd first (flawless usable)
  config := iff_of_false nofun (not_not_intro usable)
  io other := by
    constructor
    · rintro ⟨⟩
      exact ⟨usable, plain, rfl⟩
    · rintro ⟨-, -, ⟨⟩⟩
      rfl
  failed := by
    rintro _ ⟨⟩
    exact .inr ⟨reason, rfl⟩
  broken _ := iff_of_false nofun fun h => plain h.2.1
  started := iff_of_false nofun nofun
  ready := nofun

theorem begun_of_plain (usable : settings.Usable) (plain : '\x00' ∉ settings.threadName.toList) :
    Begun (π := π) (ω := ω) (ρ := ρ) settings none (.ok (.ok (fresh settings))) where
  flawed _ first := absurd first (flawless usable)
  config := iff_of_false nofun (not_not_intro usable)
  io _ := iff_of_false nofun nofun
  failed := nofun
  broken _ := iff_of_false nofun fun h => plain h.2.1
  started := iff_of_true ⟨_, rfl⟩ ⟨usable, plain, rfl⟩
  ready := by
    rintro _ ⟨⟩
    exact ready_fresh settings

end Begun

/-- What comes of starting a bridge, whatever the settings are and whatever the operating system
does. -/
theorem begun_startUnless (settings : BridgeSettings) (refusal : Option String) :
    Begun settings refusal
      (startUnless refusal settings : Except Fault (Except Failure (Bridge π ω ρ))) := by
  cases found : settings.flaw? with
  | some flaw =>
    obtain ⟨reason, told⟩ := flaw.exists_failure
    rw [startUnless_of_flaw found, told]
    exact begun_of_flaw found told
  | none =>
    have usable := BridgeSettings.flaw?_eq_none_iff.mp found
    by_cases nul : '\x00' ∈ settings.threadName.toList
    · rw [startUnless_of_nul found nul]
      exact begun_of_nul usable nul
    · rw [startUnless_of_plain found nul]
      cases refusal with
      | some reason => exact begun_of_refusal usable nul
      | none => exact begun_of_plain usable nul

/-- Not every start returns: the rules for the settings are not enough. -/
theorem not_forall_started : ¬ ∀ (settings : BridgeSettings) (refusal : Option String),
    ∃ result : Except Failure (Bridge Unit Unit Unit),
      startUnless refusal settings = .ok result := by
  intro never
  obtain ⟨result, returned⟩ := never { threadName := "a\x00b" } none
  rw [startUnless_of_nul (by decide) (by decide)] at returned
  cases returned

/-- The fault tells where the first zero byte stands, and all bytes. -/
example : nulNameFault "a\x00b" =
    .message "thread name may not contain interior null bytes: NulError(1, [97, 0, 98])" := by
  cbv

end Bridge
end CallbackFerry
