import CallbackFerry.Proofs.Bridge.Standing

/-!
# The life of a submission

A submission is drawn, then pending, then completed, and each stage fixes its whole standing: where
its ticket is, whether its slot is filled, what its function has come to, and what its driver can
be told.  `Sound` lists the stages.

`Sound.change` says that every change of a standing leads from a sound standing to a sound one, so
that all standings of a reachable bridge are sound (`sound_of_reached`).
-/

namespace CallbackFerry

variable {π ω ρ : Type}

/-- What the driver is told, once it knows. -/
def Caller.result? : Caller ρ → Option (Except Failure ρ)
  | .drawn | .waiting => none
  | .leaving result | .returned result => some result

/-- Whether the driver has done its part without a result from the host: it waits, or its limit
has passed. -/
def Caller.Patient (timeout : Option Span) (caller : Caller ρ) : Prop :=
  caller = .waiting ∨ ∃ limit, timeout = some limit ∧ caller.result? = some (.error (.timeout limit))

/-- How the way of a unit ends: what its function came to, how it was completed, and what is still
ahead of its running task. -/
inductive Ending : List (Except Fault ρ) → Completion ρ → List (List (Milestone ρ)) → Prop
  /-- It was lost before its function was applied. -/
  | lost : Ending [] .abandoned []
  /-- Its function was applied; the host is still to be told. -/
  | ran (outcome : Except Fault ρ) :
      Ending [outcome] (.ofOutcome outcome) [[.ended (faultOf outcome)]]
  /-- Its function was applied, and the task is gone. -/
  | gone (outcome : Except Fault ρ) : Ending [outcome] (.ofOutcome outcome) []

/-- The stages of a submission. -/
inductive Sound (timeout : Option Span) : Standing π ω ρ → Prop
  /-- The call has not been made. -/
  | unborn : Sound timeout ⟨none, 0, 0, 0, []⟩
  /-- The unit is about to be queued. -/
  | drawn {s : Submission π ω ρ} (caller : s.caller = .drawn) (slot : s.slot = none)
      (outcomes : s.outcomes = []) : Sound timeout ⟨some s, 0, 0, 0, []⟩
  /-- The queue handed the unit back, and it was lost. -/
  | refused {s : Submission π ω ρ} (result : s.caller.result? = some (.error .shutDown))
      (slot : s.slot = some .abandoned) (outcomes : s.outcomes = []) :
      Sound timeout ⟨some s, 0, 0, 0, []⟩
  /-- The unit is in the queue, in the dispatcher's hand, or held by the host. -/
  | pending {s : Submission π ω ρ} {queued inHand held : Nat} (caller : s.caller.Patient timeout)
      (slot : s.slot = none) (outcomes : s.outcomes = []) (one : queued + inHand + held = 1) :
      Sound timeout ⟨some s, queued, inHand, held, []⟩
  /-- The host runs the unit's task, and the driver has not been released. -/
  | begun {s : Submission π ω ρ} {outcome : Except Fault ρ} {ahead : List (Milestone ρ)}
      (caller : s.caller.Patient timeout) (slot : s.slot = none) (outcomes : s.outcomes = [outcome])
      (still : ahead = milestones outcome ∨ ahead = (milestones outcome).tail) :
      Sound timeout ⟨some s, 0, 0, 0, [ahead]⟩
  /-- The slot is filled. -/
  | completed {s : Submission π ω ρ} {completion : Completion ρ} {running : List (List (Milestone ρ))}
      (caller : s.caller.Patient timeout) (slot : s.slot = some completion)
      (ending : Ending s.outcomes completion running) : Sound timeout ⟨some s, 0, 0, 0, running⟩
  /-- The driver has taken what was in the slot. -/
  | collected {s : Submission π ω ρ} {completion : Completion ρ} {running : List (List (Milestone ρ))}
      (result : s.caller.result? = some completion.result) (slot : s.slot = none)
      (ending : Ending s.outcomes completion running) : Sound timeout ⟨some s, 0, 0, 0, running⟩

/-- A driver whose call is over knows what it knew when it left. -/
theorem Caller.Patient.returned {timeout : Option Span} {result : Except Failure ρ}
    (h : (Caller.leaving result).Patient timeout) : (Caller.returned result).Patient timeout := by
  rcases h with h | ⟨limit, limited, told⟩
  · cases h
  · exact .inr ⟨limit, limited, told⟩

/-- A driver that waits or whose limit passed got no result from its slot. -/
theorem Caller.Patient.result_ne {timeout : Option Span} {caller : Caller ρ}
    (patient : caller.Patient timeout) (completion : Completion ρ) :
    caller.result? ≠ some completion.result := by
  rcases patient with rfl | ⟨limit, -, told⟩
  · simp [Caller.result?]
  · rw [told]
    cases completion <;> simp [Completion.result]

/-- A driver that waits or whose limit passed was not refused. -/
theorem Caller.Patient.unrefused {timeout : Option Span} {caller : Caller ρ}
    (patient : caller.Patient timeout) : caller.result? ≠ some (.error .shutDown) := by
  rcases patient with rfl | ⟨limit, -, told⟩
  · simp [Caller.result?]
  · simp [told]

/-- The task of an ending has one milestone ahead at most, and after it the task is gone. -/
theorem Ending.of_ahead {outcomes : List (Except Fault ρ)} {completion : Completion ρ}
    {running others : List (List (Milestone ρ))} {ahead : List (Milestone ρ)}
    (ending : Ending outcomes completion running) (h : running = ahead :: others) :
    (∃ fault, ahead = [.ended fault]) ∧ Ending outcomes completion [] := by
  cases ending with
  | lost => cases h
  | ran outcome =>
    cases h
    exact ⟨⟨_, rfl⟩, .gone outcome⟩
  | gone outcome => cases h

variable {bridge after : Bridge π ω ρ} {key : Nat} {st st' : Standing π ω ρ}
  {move : Bridge.Move π ω ρ}

/-- A driver that leaves is told nothing new. -/
theorem Sound.left {timeout : Option Span} {s : Submission π ω ρ} {result : Except Failure ρ}
    (sound : Sound timeout st) (record : st.submission = some s)
    (leaving : s.caller = .leaving result) :
    Sound timeout { st with submission := some { s with caller := .returned result } } := by
  cases sound with
  | unborn => simp at record
  | drawn caller =>
    obtain rfl := Option.some.inj record
    rw [leaving] at caller
    cases caller
  | refused told slot outcomes =>
    obtain rfl := Option.some.inj record
    rw [leaving] at told
    exact .refused told slot outcomes
  | pending caller slot outcomes one =>
    obtain rfl := Option.some.inj record
    rw [leaving] at caller
    exact .pending caller.returned slot outcomes one
  | begun caller slot outcomes still =>
    obtain rfl := Option.some.inj record
    rw [leaving] at caller
    exact .begun caller.returned slot outcomes still
  | completed caller slot ending =>
    obtain rfl := Option.some.inj record
    rw [leaving] at caller
    exact .completed caller.returned slot ending
  | collected told slot ending =>
    obtain rfl := Option.some.inj record
    rw [leaving] at told
    exact .collected told slot ending

/-- A unit that is in the queue, in the dispatcher's hand or held by the host is pending. -/
theorem Sound.of_unit {timeout : Option Span} (sound : Sound timeout st)
    (unit : 0 < st.queued + st.inHand + st.held) :
    ∃ s queued inHand held, st = ⟨some s, queued, inHand, held, []⟩ ∧
      s.caller.Patient timeout ∧ s.slot = none ∧ s.outcomes = [] ∧
      queued + inHand + held = 1 := by
  cases sound with
  | pending caller slot outcomes one => exact ⟨_, _, _, _, rfl, caller, slot, outcomes, one⟩
  | _ => simp at unit

/-- A running task has its driver still ahead of it, or only the host is still to be told. -/
theorem Sound.of_running {timeout : Option Span} {ahead : List (Milestone ρ)}
    {others : List (List (Milestone ρ))} (sound : Sound timeout st)
    (running : st.running = ahead :: others) :
    (∃ s outcome, st = ⟨some s, 0, 0, 0, [ahead]⟩ ∧ s.caller.Patient timeout ∧ s.slot = none ∧
        s.outcomes = [outcome] ∧
        (ahead = milestones outcome ∨ ahead = (milestones outcome).tail)) ∨
      (∃ fault, ahead = [.ended fault]) ∧ Sound timeout { st with running := [] } := by
  cases sound with
  | begun caller slot outcomes still =>
    cases running
    exact .inl ⟨_, _, rfl, caller, slot, outcomes, still⟩
  | completed caller slot ending =>
    obtain ⟨last, gone⟩ := ending.of_ahead running
    exact .inr ⟨last, .completed caller slot gone⟩
  | collected told slot ending =>
    obtain ⟨last, gone⟩ := ending.of_ahead running
    exact .inr ⟨last, .collected told slot gone⟩
  | _ => simp at running

/-- A driver is released with how its callback's function has ended. -/
theorem Sound.of_released {timeout : Option Span} {completion : Completion ρ}
    {rest : List (Milestone ρ)} {others : List (List (Milestone ρ))} (sound : Sound timeout st)
    (running : st.running = (.released completion :: rest) :: others) :
    ∃ s outcome, st = ⟨some s, 0, 0, 0, [(milestones outcome).tail]⟩ ∧
      s.caller.Patient timeout ∧ s.slot = none ∧ s.outcomes = [outcome] ∧
      completion = .ofOutcome outcome ∧ rest = [.ended (faultOf outcome)] := by
  obtain ⟨s, outcome, rfl, caller, slot, outcomes, still | still⟩ | ⟨⟨fault, last⟩, -⟩ :=
    sound.of_running running
  · cases still
  · cases still
    exact ⟨s, outcome, rfl, caller, slot, outcomes, rfl, rfl⟩
  · cases last

/-- Every change leads from a stage to a stage. -/
theorem Sound.change (change : Bridge.Change bridge key st move st')
    (sound : Sound bridge.timeout st) : Sound bridge.timeout st' := by
  cases change with
  | aside => exact sound
  | drawn fresh absent =>
    cases sound with
    | unborn => exact .drawn rfl rfl rfl
    | _ => simp at absent
  | queued record drawn opened =>
    cases sound with
    | drawn caller slot outcomes =>
      obtain rfl := Option.some.inj record
      exact .pending (.inl rfl) slot outcomes rfl
    | _ => simp_all [Caller.Patient, Caller.result?]
  | refused record drawn closed =>
    cases sound with
    | drawn caller slot outcomes =>
      obtain rfl := Option.some.inj record
      exact .refused rfl rfl outcomes
    | _ => simp_all [Caller.Patient, Caller.result?]
  | collected record waiting filled =>
    cases sound with
    | completed caller slot ending =>
      obtain rfl := Option.some.inj record
      obtain rfl := Option.some.inj (filled.symm.trans slot)
      exact .collected rfl rfl ending
    | _ => simp_all [Caller.result?]
  | expired record waiting empty limited =>
    have patient : (Caller.leaving (.error (.timeout _)) : Caller ρ).Patient bridge.timeout :=
      .inr ⟨_, limited, rfl⟩
    -- The unit stays where it is, and goes on without anybody who waits for it.
    cases sound with
    | pending caller slot outcomes one =>
      obtain rfl := Option.some.inj record
      exact .pending patient slot outcomes one
    | begun caller slot outcomes still =>
      obtain rfl := Option.some.inj record
      exact .begun patient slot outcomes still
    | _ => simp_all [Caller.result?]
  | left record leaving => exact sound.left record leaving
  | taken waiting free =>
    obtain ⟨s, queued, inHand, held, rfl, caller, slot, outcomes, one⟩ := sound.of_unit (by omega)
    dsimp only at waiting free ⊢
    exact .pending caller slot outcomes (by omega)
  | kept offered =>
    obtain ⟨s, queued, inHand, held, rfl, caller, slot, outcomes, one⟩ := sound.of_unit (by omega)
    dsimp only at offered ⊢
    exact .pending caller slot outcomes (by omega)
  | lost about offered =>
    -- The unit is in the dispatcher's hand, so it is nowhere else.
    obtain ⟨s, queued, inHand, held, rfl, caller, slot, outcomes, one⟩ := sound.of_unit (by omega)
    dsimp only at offered
    obtain ⟨rfl, rfl⟩ : queued = 0 ∧ held = 0 := by omega
    exact .completed caller rfl (outcomes ▸ .lost)
  | begun record holds =>
    obtain ⟨s, queued, inHand, held, rfl, caller, slot, outcomes, one⟩ := sound.of_unit (by omega)
    obtain rfl := Option.some.inj record
    dsimp only at holds
    obtain ⟨rfl, rfl, rfl⟩ : queued = 0 ∧ inHand = 0 ∧ held = 1 := by omega
    exact .begun caller slot (by rw [outcomes]) (.inl rfl)
  | counted ahead =>
    obtain ⟨s, outcome, rfl, caller, slot, outcomes, still | still⟩ | ⟨⟨fault, last⟩, -⟩ :=
      sound.of_running ahead
    · cases still
      exact .begun caller slot outcomes (.inr rfl)
    · cases still
    · cases last
  | released ahead =>
    obtain ⟨s, outcome, rfl, caller, slot, outcomes, rfl, rfl⟩ := sound.of_released ahead
    exact .completed caller rfl (outcomes ▸ .ran outcome)
  | ended ahead =>
    obtain ⟨s, outcome, rfl, -, -, -, still | still⟩ | ⟨⟨fault, last⟩, gone⟩ :=
      sound.of_running ahead
    · cases still
    · cases still
    · cases last
      exact gone
  | finished ahead =>
    -- No task has nothing ahead: one that reaches its last milestone is gone.
    obtain ⟨s, outcome, rfl, -, -, -, still | still⟩ | ⟨⟨fault, last⟩, -⟩ :=
      sound.of_running ahead
    · cases still
    · cases still
    · cases last
  | dropped holds =>
    obtain ⟨s, queued, inHand, held, rfl, caller, slot, outcomes, one⟩ := sound.of_unit (by omega)
    dsimp only at holds
    obtain ⟨rfl, rfl, rfl⟩ : queued = 0 ∧ inHand = 0 ∧ held = 1 := by omega
    exact .completed caller rfl (outcomes ▸ .lost)

namespace Bridge

/-! ### Reachable bridges -/

/-- Only with usable settings and a plain name for its thread a bridge starts. -/
theorem start_eq_ok_iff {settings : BridgeSettings} :
    start settings = .ok (.ok bridge) ↔ settings.flaw? = none ∧
      '\x00' ∉ settings.threadName.toList ∧ bridge = fresh settings := by
  rw [start]
  cases usable : settings.flaw? with
  | some flaw => simp [startUnless_of_flaw usable]
  | none =>
    by_cases plain : '\x00' ∈ settings.threadName.toList
    · simp [startUnless_of_nul usable plain, plain]
    · simp [startUnless_of_plain usable plain, plain, eq_comm]

/-- Whether a bridge is reachable: it was started with these settings, and the past happened. -/
def Reached (settings : BridgeSettings) (past : List (Moment (Bridge π ω ρ) (Move π ω ρ)))
    (now : Bridge π ω ρ) : Prop :=
  ∃ first, start settings = .ok (.ok first) ∧ Run step first past now

variable {settings : BridgeSettings} {past later : List (Moment (Bridge π ω ρ) (Move π ω ρ))}
  {now future : Bridge π ω ρ}

/-- A reachable bridge is one that a fresh bridge came to. -/
theorem Reached.run (reached : Reached settings past now) : Run step (fresh settings) past now := by
  obtain ⟨first, started, run⟩ := reached
  obtain ⟨-, -, rfl⟩ := start_eq_ok_iff.mp started
  exact run

/-- A reachable bridge stays reachable. -/
theorem Reached.append (reached : Reached settings past now) (onward : Run step now later future) :
    Reached settings (past ++ later) future := by
  obtain ⟨first, started, run⟩ := reached
  exact ⟨first, started, run.append onward⟩

/-- A moment of the past was reachable, and the rest of the past came after it. -/
theorem Reached.of_mem {moment : Moment (Bridge π ω ρ) (Move π ω ρ)}
    (reached : Reached settings past now) (h : moment ∈ past) :
    ∃ earlier rest after, past = earlier ++ moment :: rest ∧
      Reached settings earlier moment.before ∧ step moment.before moment.move = some after ∧
      Run step after rest now := by
  obtain ⟨first, started, run⟩ := reached
  obtain ⟨earlier, rest, after, cut, upTo, made, onward⟩ := run.of_mem h
  exact ⟨earlier, rest, after, cut, ⟨first, started, upTo⟩, made, onward⟩

/-- Any moves lead from a bridge that was started to a reachable one. -/
theorem reached_of_moves (usable : settings.flaw? = none)
    (plain : '\x00' ∉ settings.threadName.toList) (moves : List (Move π ω ρ)) :
    Reached settings (Run.moments step (fresh settings) moves) ((fresh settings).play moves) :=
  ⟨fresh settings, start_eq_ok_iff.mpr ⟨usable, plain, rfl⟩, Run.of_moves step _ moves⟩

/-- Nobody changes the timeout. -/
theorem timeout_of_reached (reached : Reached settings past now) :
    now.timeout = settings.timeout :=
  reached.run.preserves (P := fun bridge => bridge.timeout = settings.timeout)
    (fun _ _ _ made h => (step_frame made).2.trans h) rfl

/-- All standings of a reachable bridge are sound. -/
theorem sound_of_reached (reached : Reached settings past now) (key : Nat) :
    Sound settings.timeout (now.standing key) := by
  have both := reached.run.preserves
    (P := fun bridge => bridge.timeout = settings.timeout ∧
      Sound settings.timeout (bridge.standing key)) ?_ ⟨rfl, .unborn⟩
  · exact both.2
  -- The stages depend on the timeout, so that it stays has to be carried along.
  · rintro before move after made ⟨timeout, sound⟩
    rw [← timeout] at sound ⊢
    exact ⟨(step_frame made).2, sound.change (step_change made)⟩

end Bridge
end CallbackFerry
