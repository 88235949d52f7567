import CallbackFerry.Proofs.Bridge.History

/-!
# Where a unit is

From when the queue accepts it until its handoff is completed, a unit is in exactly one place: in
the queue, in the dispatcher's hand, or with the host.  Then it is nowhere.  So nobody waits for
ever: once the dispatcher has stopped and the host has no tasks there is no place left in which a
unit could be, and every handoff has been completed (`sheltered_of_reached`).
-/

namespace CallbackFerry

variable {π ω ρ : Type}

/-- Whether the driver of a task is still to be released. -/
def owes (ahead : List (Milestone ρ)) : Bool :=
  ahead.any fun
    | .released _ => true
    | _ => false

/-- A unit that has come to its end is not running. -/
theorem Ending.countP_owes {outcomes : List (Except Fault ρ)} {completion : Completion ρ}
    {running : List (List (Milestone ρ))} (ending : Ending outcomes completion running) :
    running.countP owes = 0 := by
  cases ending <;> rfl

/-- Where a unit can be. -/
inductive Whereabouts where
  /-- In the queue. -/
  | queue
  /-- In the dispatcher's hand: taken from the queue, and the host has not answered. -/
  | hand
  /-- With the host, which holds its task or runs it. -/
  | host
  deriving DecidableEq

namespace Bridge

/-- All places in which the unit of a submission is.  A running task has its unit until the driver
is released. -/
def whereabouts (key : Nat) (bridge : Bridge π ω ρ) : List Whereabouts :=
  (bridge.dispatcher.queue.pending.filter (·.key = key)).map (fun _ => .queue) ++
    (bridge.dispatcher.hand.filter (·.key = key)).map (fun _ => .hand) ++
    (bridge.held.filter (·.key = key)).map (fun _ => .host) ++
    (bridge.running.filter fun task => task.ticket.key = key && owes task.ahead).map (fun _ => .host)

/-- Whether the driver of a submission is waiting with nothing in its slot. -/
def Blocked (key : Nat) (bridge : Bridge π ω ρ) : Prop :=
  ∃ s, bridge.submissions[key]? = some s ∧ s.caller = .waiting ∧ s.slot = none

/-- In how many places a unit is. -/
theorem length_whereabouts (key : Nat) (bridge : Bridge π ω ρ) :
    (bridge.whereabouts key).length =
      (bridge.standing key).queued + (bridge.standing key).inHand + (bridge.standing key).held +
        (bridge.standing key).running.countP owes := by
  -- Only the running tasks are counted differently: a standing knows what is ahead of them.
  have running : ((bridge.running.filter fun task =>
      task.ticket.key = key && owes task.ahead).map fun _ => Whereabouts.host).length =
        (bridge.standing key).running.countP owes := by
    rw [List.length_map, ← List.countP_eq_length_filter, standing, List.countP_map,
      List.countP_filter]
    congr 1
    funext task
    simp [Bool.and_comm]
  rw [whereabouts, List.length_append, List.length_append, List.length_append, running]
  simp [standing, List.countP_eq_length_filter]

variable {settings : BridgeSettings} {past : List (Moment (Bridge π ω ρ) (Move π ω ρ))}
  {now : Bridge π ω ρ} {key : Nat}

/-- What keeps drivers from waiting for ever. -/
structure Sheltered (past : List (Moment (Bridge π ω ρ) (Move π ω ρ))) (now : Bridge π ω ρ) :
    Prop where
  /-- A unit that was accepted is in one place until its handoff is completed. -/
  somewhere : ∀ key, Accepted key past → ¬ Completed key past now →
    ∃ place, now.whereabouts key = [place]
  /-- A unit whose handoff was completed is nowhere. -/
  nowhere : ∀ key, Completed key past now → now.whereabouts key = []
  /-- Once the dispatcher has stopped and the host has no tasks, the handoffs of all units that
  were accepted have been completed, and no driver waits in vain. -/
  settled : now.dispatcher.state = .stopped → now.held = [] → now.running = [] →
    (∀ key, Accepted key past → Completed key past now) ∧ ∀ key, ¬ now.Blocked key

theorem somewhere_of_accepted (reached : Reached settings past now) (accepted : Accepted key past)
    (pending : ¬ Completed key past now) : ∃ place, now.whereabouts key = [place] := by
  rw [accepted_iff reached] at accepted
  rw [completed_iff reached] at pending
  rw [← List.length_eq_one_iff, length_whereabouts]
  rcases (sound_of_reached reached key).of_unhandled accepted pending with
    ⟨one, running⟩ | ⟨queued, inHand, held, outcome, running | running⟩
  · rw [one, running]
    rfl
  · rw [queued, inHand, held, running]
    rfl
  · rw [queued, inHand, held, running]
    rfl

theorem nowhere_of_completed (reached : Reached settings past now)
    (completed : Completed key past now) : now.whereabouts key = [] := by
  rw [completed_iff reached] at completed
  obtain ⟨queued, inHand, held, s, completion, -, ending, -⟩ :=
    (sound_of_reached reached key).of_handled completed
  rw [← List.length_eq_zero_iff, length_whereabouts, queued, inHand, held, ending.countP_owes]

/-- A driver that is blocked has a unit that was accepted and whose handoff was not completed. -/
theorem pending_of_blocked (reached : Reached settings past now) (blocked : now.Blocked key) :
    Accepted key past ∧ ¬ Completed key past now := by
  rw [accepted_iff reached, completed_iff reached]
  obtain ⟨s, record, waiting, empty⟩ := blocked
  constructor
  · exact ⟨s, record, by simp [waiting], by simp [waiting, Caller.result?]⟩
  · rintro ⟨s', record', handled⟩
    obtain rfl := Option.some.inj (record'.symm.trans record)
    simp [waiting, empty, Caller.result?] at handled

/-- Once the dispatcher has stopped and the host has no tasks, there is no place for a unit. -/
theorem whereabouts_of_stopped (reached : Reached settings past now)
    (stopped : now.dispatcher.state = .stopped) (held : now.held = [])
    (running : now.running = []) : now.whereabouts key = [] := by
  have run := dispatcher_run reached.run
  obtain ⟨-, queue, -⟩ := Dispatcher.leftBehind_of_stopped run stopped
  have retired := (Dispatcher.orderly_of_run run).state_eq_stopped_iff.mp stopped
  simp [whereabouts, queue, Dispatcher.hand, retired, held, running]

/-- Nobody who uses a reachable bridge waits for ever. -/
theorem sheltered_of_reached (reached : Reached settings past now) : Sheltered past now where
  somewhere _ := somewhere_of_accepted reached
  nowhere _ := nowhere_of_completed reached
  settled stopped held running := by
    have completed : ∀ key, Accepted key past → Completed key past now := by
      intro key accepted
      by_contra pending
      obtain ⟨place, here⟩ := somewhere_of_accepted reached accepted pending
      rw [whereabouts_of_stopped reached stopped held running] at here
      cases here
    refine ⟨completed, fun key blocked => ?_⟩
    obtain ⟨accepted, pending⟩ := pending_of_blocked reached blocked
    exact pending (completed key accepted)

/-- A host that breaks off over the only task, and a dispatcher that then stops. -/
theorem sheltered_of_broken_host : ∃ past, ∃ now : Bridge Nat Unit Nat, Reached {} past now ∧
    now.dispatcher.state = .stopped ∧ now.held = [] ∧ now.running = [] ∧ Accepted 0 past ∧
      Sheltered past now := by
  have usable : BridgeSettings.flaw? {} = none := by decide
  have reached := reached_of_moves usable (by decide)
    [.draw (⟨20, fun payload world => ⟨.ok (payload + 1), world, 0⟩⟩ : Callback Nat Unit Nat),
      .push 0, .take, .offer .brokeOff false, .settle, .abort, .take, .retire]
  refine ⟨_, _, reached, rfl, rfl, rfl, ?_, sheltered_of_reached reached⟩
  rw [accepted_iff reached]
  exact ⟨⟨1, _, some .abandoned, .waiting, []⟩, rfl, by simp, by simp [Caller.result?]⟩

end Bridge
end CallbackFerry
