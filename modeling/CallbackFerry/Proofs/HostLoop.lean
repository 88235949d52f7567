import CallbackFerry.HostLoop
import Mathlib.Data.List.Perm.Basic

/-!
# What the host's loop does

For each thing that the loop can do there is one lemma that says when it is possible and what loop
it leads to.

What the loop has started it has yet to run, or it has run it, and a fault of a task that has run is
yet to be noticed, or it was counted and given to the hook.  `Tallied` says so for the counters:
with every task that is run and every fault that it breaks off with, both sides grow alike.
-/

namespace CallbackFerry.HostLoop

variable {τ : Type} {loop after : HostLoop τ} {task : τ} {fault : Option Fault} {index : Nat}

/-! ### What the loop does -/

theorem schedule_eq_some (made : loop.schedule task = some after) :
    loop.closed = false ∧ after = { loop with arrived := loop.arrived ++ [task] } := by
  unfold schedule at made
  split at made
  · cases made
  · next opened => exact ⟨by simpa using opened, (Option.some.inj made).symm⟩

theorem schedule_eq_none_iff : loop.schedule task = none ↔ loop.closed = true := by
  unfold schedule
  split <;> simp_all

/-- The loop receives the oldest task of its channel. -/
theorem receive_eq_some (made : loop.receive = some after) :
    loop.isOver = false ∧ ∃ task rest, loop.arrived = task :: rest ∧
      after = { loop with
        arrived := rest
        started := loop.started ++ [task]
        executed := loop.executed + 1 } := by
  unfold receive at made
  split at made
  · cases made
  · next going =>
    split at made
    · next task rest arrived =>
      exact ⟨by simpa using going, task, rest, arrived, (Option.some.inj made).symm⟩
    · cases made

theorem next?_eq_some (made : loop.next? = some task) :
    loop.isOver = false ∧ loop.started.head? = some task := by
  unfold next? at made
  split at made
  · cases made
  · next going => exact ⟨by simpa using going, made⟩

/-- The task that has run was the oldest of those that were started. -/
theorem ran_eq_some (made : loop.ran fault = some after) :
    loop.isOver = false ∧ ∃ task rest, loop.started = task :: rest ∧
      after = { loop with started := rest, ended := loop.ended ++ [(task, fault)] } := by
  unfold ran at made
  split at made
  · cases made
  · next going =>
    split at made
    · next task rest started =>
      exact ⟨by simpa using going, task, rest, started, (Option.some.inj made).symm⟩
    · cases made

/-- A task that is noticed has ended. -/
theorem notice_eq_some (made : loop.notice index = some after) :
    loop.isOver = false ∧ ∃ task fault, loop.ended[index]? = some (task, fault) ∧
      after = { loop with ended := loop.ended.eraseIdx index }.observe fault := by
  unfold notice at made
  split at made
  · cases made
  · next going =>
    split at made
    · next task fault ended =>
      exact ⟨by simpa using going, task, fault, ended, (Option.some.inj made).symm⟩
    · cases made

/-- The loop ends when its channel is closed and nothing is left in it. -/
theorem finish_eq_some (made : loop.finish = some after) :
    loop.closed = true ∧ loop.arrived = [] ∧ loop.started = [] ∧ loop.ended = [] ∧
      after = { loop with isOver := true } := by
  unfold finish at made
  split at made
  · next done =>
    simp only [Bool.and_eq_true, Bool.not_eq_true', List.isEmpty_iff] at done
    obtain ⟨⟨⟨⟨-, closed⟩, arrived⟩, started⟩, ended⟩ := done
    exact ⟨closed, arrived, started, ended, (Option.some.inj made).symm⟩
  · cases made

/-- A loop ends once. -/
theorem going_of_finish (made : loop.finish = some after) : loop.isOver = false := by
  unfold finish at made
  split at made
  · next done =>
    simp only [Bool.and_eq_true, Bool.not_eq_true'] at done
    exact done.1.1.1.1
  · cases made

/-! ### Counters -/

/-- How many of the tasks that have ended broke off. -/
def unnoticed (loop : HostLoop τ) : Nat :=
  loop.ended.countP fun entry => entry.2.isSome

/-- Whether the counters tell of so many tasks that were run, and so many of them that broke off. -/
structure Tallied (loop : HostLoop τ) (run brokeOff : Nat) : Prop where
  executed : loop.executed = run + loop.started.length
  faults : loop.faults + loop.unnoticed = brokeOff
  hooked : loop.hooked.length = loop.faults
  finished : loop.isOver = true →
    loop.closed = true ∧ loop.arrived = [] ∧ loop.started = [] ∧ loop.ended = []

variable {run brokeOff : Nat}

theorem Tallied.schedule (tallied : loop.Tallied run brokeOff)
    (made : loop.schedule task = some after) : after.Tallied run brokeOff := by
  obtain ⟨opened, rfl⟩ := schedule_eq_some made
  refine ⟨tallied.executed, tallied.faults, tallied.hooked, fun finished => ?_⟩
  have closed := (tallied.finished finished).1
  rw [opened] at closed
  cases closed

theorem Tallied.close (tallied : loop.Tallied run brokeOff) : loop.close.Tallied run brokeOff :=
  ⟨tallied.executed, tallied.faults, tallied.hooked,
    fun finished => ⟨rfl, (tallied.finished finished).2⟩⟩

theorem Tallied.receive (tallied : loop.Tallied run brokeOff) (made : loop.receive = some after) :
    after.Tallied run brokeOff := by
  obtain ⟨going, task, rest, arrived, rfl⟩ := receive_eq_some made
  refine ⟨?_, tallied.faults, tallied.hooked, fun finished => ?_⟩
  · have executed := tallied.executed
    simp only [List.length_append, List.length_singleton]
    omega
  · rw [show loop.isOver = true from finished] at going
    cases going

/-- A task that has run is one more that was run, and one more that broke off if it did. -/
theorem Tallied.ran (tallied : loop.Tallied run brokeOff) (made : loop.ran fault = some after) :
    after.Tallied (run + 1) (brokeOff + if fault.isSome then 1 else 0) := by
  obtain ⟨going, task, rest, started, rfl⟩ := ran_eq_some made
  refine ⟨?_, ?_, tallied.hooked, fun finished => ?_⟩
  · have executed := tallied.executed
    rw [started, List.length_cons] at executed
    simp only
    omega
  · have faults := tallied.faults
    simp only [unnoticed, List.countP_append, List.countP_singleton] at faults ⊢
    omega
  · rw [show loop.isOver = true from finished] at going
    cases going

/-- A fault that is noticed is counted and not unnoticed any more. -/
theorem Tallied.notice (tallied : loop.Tallied run brokeOff) (made : loop.notice index = some after) :
    after.Tallied run brokeOff := by
  obtain ⟨going, task, fault, ended, rfl⟩ := notice_eq_some made
  have taken : loop.ended.countP (fun entry => entry.2.isSome) =
      (loop.ended.eraseIdx index).countP (fun entry => entry.2.isSome) +
        if fault.isSome then 1 else 0 := by
    obtain ⟨within, here⟩ := List.getElem?_eq_some_iff.mp ended
    have perm := (List.getElem_cons_eraseIdx_perm within).countP_eq
      fun entry : τ × Option Fault => entry.2.isSome
    rw [List.countP_cons, here] at perm
    exact perm.symm
  have faults := tallied.faults
  have hooked := tallied.hooked
  have going' : loop.isOver = true → False := by simp [going]
  unfold unnoticed at faults
  cases fault with
  | none =>
    refine ⟨tallied.executed, ?_, hooked, fun finished => (going' finished).elim⟩
    simp only [observe, unnoticed]
    simp only [Option.isSome_none, Bool.false_eq_true, if_false] at taken
    omega
  | some cause =>
    refine ⟨tallied.executed, ?_, congrArg (· + 1) hooked, fun finished => (going' finished).elim⟩
    simp only [observe, unnoticed]
    simp only [Option.isSome_some, if_true] at taken
    omega

theorem Tallied.finish (tallied : loop.Tallied run brokeOff) (made : loop.finish = some after) :
    after.Tallied run brokeOff := by
  obtain ⟨closed, arrived, started, ended, rfl⟩ := finish_eq_some made
  exact ⟨tallied.executed, tallied.faults, tallied.hooked,
    fun _ => ⟨closed, arrived, started, ended⟩⟩

end CallbackFerry.HostLoop
