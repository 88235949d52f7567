import CallbackFerry.Proofs.Bridge.Life

/-!
# The turns of a submission

What a standing tells about the past of its submission: what its driver is told (`Tells`), whether
its unit has been queued (`Entered`), and whether its handoff has been completed (`Handled`).  For
a sound standing the last two also say where the unit is (`Sound.of_handled`,
`Sound.of_unhandled`).

A change of a standing does to the driver and the slot what `Turn` lists, and so each of the three
lasts once it holds, and begins to hold in a few ways only.
-/

namespace CallbackFerry

variable {π ω ρ : Type}

namespace Standing

/-- Whether the driver is told this result. -/
def Tells (st : Standing π ω ρ) (result : Except Failure ρ) : Prop :=
  ∃ s, st.submission = some s ∧ s.caller.result? = some result

/-- Whether the unit has been queued. -/
def Entered (st : Standing π ω ρ) : Prop :=
  ∃ s, st.submission = some s ∧ s.caller ≠ .drawn ∧ s.caller.result? ≠ some (.error .shutDown)

/-- Whether the slot is filled, or the driver has taken what was in it. -/
def Handled (st : Standing π ω ρ) : Prop :=
  ∃ s, st.submission = some s ∧
    (s.slot ≠ none ∨ ∃ completion : Completion ρ, s.caller.result? = some completion.result)

end Standing

/-! ### Stages -/

section Stages

variable {timeout : Option Span} {st : Standing π ω ρ}

/-- The unit of a completed handoff is nowhere any more. -/
theorem Sound.of_handled (sound : Sound timeout st) (handled : st.Handled) :
    st.queued = 0 ∧ st.inHand = 0 ∧ st.held = 0 ∧ ∃ s completion, st.submission = some s ∧
      Ending s.outcomes completion st.running ∧
      (s.slot = some completion ∨ s.caller.result? = some completion.result) := by
  obtain ⟨s, record, handled⟩ := handled
  cases sound with
  | unborn => simp at record
  | drawn caller slot =>
    obtain rfl := Option.some.inj record
    simp [caller, slot, Caller.result?] at handled
  | refused told slot outcomes =>
    exact ⟨rfl, rfl, rfl, _, .abandoned, rfl, outcomes ▸ .lost, .inl slot⟩
  | pending caller slot | begun caller slot =>
    obtain rfl := Option.some.inj record
    rcases handled with filled | ⟨completion, told⟩
    · exact absurd slot filled
    · exact absurd told (caller.result_ne completion)
  | completed caller slot ending => exact ⟨rfl, rfl, rfl, _, _, rfl, ending, .inl slot⟩
  | collected told slot ending => exact ⟨rfl, rfl, rfl, _, _, rfl, ending, .inr told⟩

/-- A unit that was queued, and whose handoff was not completed, is in one place. -/
theorem Sound.of_unhandled (sound : Sound timeout st) (entered : st.Entered)
    (unhandled : ¬ st.Handled) :
    (st.queued + st.inHand + st.held = 1 ∧ st.running = []) ∨
      (st.queued = 0 ∧ st.inHand = 0 ∧ st.held = 0 ∧ ∃ outcome, st.running = [milestones outcome] ∨
        st.running = [(milestones outcome).tail]) := by
  obtain ⟨s, record, called, unrefused⟩ := entered
  cases sound with
  | unborn => simp at record
  | drawn caller =>
    obtain rfl := Option.some.inj record
    exact absurd caller called
  | refused told =>
    obtain rfl := Option.some.inj record
    exact absurd told unrefused
  | pending caller slot outcomes one => exact .inl ⟨one, rfl⟩
  | @begun s outcome ahead caller slot outcomes still =>
    refine .inr ⟨rfl, rfl, rfl, outcome, ?_⟩
    rcases still with rfl | rfl
    · exact .inl rfl
    · exact .inr rfl
  | completed caller slot => exact absurd ⟨_, rfl, .inl (by simp [slot])⟩ unhandled
  | collected told => exact absurd ⟨_, rfl, .inr ⟨_, told⟩⟩ unhandled

end Stages

namespace Bridge

/-! ### Changes -/

variable {bridge : Bridge π ω ρ} {key : Nat} {st st' : Standing π ω ρ} {move : Move π ω ρ}
  {result : Except Failure ρ}

/-- What a move does to the driver and the slot of a submission. -/
inductive Turn (bridge : Bridge π ω ρ) (key : Nat) (move : Move π ω ρ) (s : Submission π ω ρ) :
    Submission π ω ρ → Prop
  /-- Both are left alone. -/
  | stayed (outcomes : List (Except Fault ρ)) : Turn bridge key move s { s with outcomes := outcomes }
  /-- The slot is filled. -/
  | filled (completion : Completion ρ) : Turn bridge key move s { s with slot := some completion }
  /-- The driver has queued its unit. -/
  | queued (push : move = .push key) (drawn : s.caller = .drawn)
      (opened : bridge.dispatcher.queue.closed = false) :
      Turn bridge key move s { s with caller := .waiting }
  /-- The driver has got its unit back. -/
  | refused (push : move = .push key) (drawn : s.caller = .drawn)
      (closed : bridge.dispatcher.queue.closed = true) :
      Turn bridge key move s
        { s with slot := some .abandoned, caller := .leaving (.error .shutDown) }
  /-- The driver has taken what was in the slot. -/
  | collected {completion : Completion ρ} (waiting : s.caller = .waiting)
      (filled : s.slot = some completion) (collect : move = .collect key) :
      Turn bridge key move s { s with slot := none, caller := .leaving completion.result }
  /-- The driver's limit has passed. -/
  | expired {limit : Span} (expire : move = .expire key) (waiting : s.caller = .waiting)
      (empty : s.slot = none) (limited : bridge.timeout = some limit) :
      Turn bridge key move s { s with caller := .leaving (.error (.timeout limit)) }
  /-- The driver's call is over. -/
  | left {result : Except Failure ρ} (leaving : s.caller = .leaving result) :
      Turn bridge key move s { s with caller := .returned result }

/-- A record that is there stays there, and takes such a turn. -/
theorem Change.turn {s : Submission π ω ρ} (change : Change bridge key st move st')
    (record : st.submission = some s) :
    ∃ s', st'.submission = some s' ∧ Turn bridge key move s s' := by
  cases change with
  | drawn fresh absent => simp [absent] at record
  | queued record' drawn opened =>
    obtain rfl := Option.some.inj (record.symm.trans record')
    exact ⟨_, rfl, .queued rfl drawn opened⟩
  | refused record' drawn closed =>
    obtain rfl := Option.some.inj (record.symm.trans record')
    exact ⟨_, rfl, .refused rfl drawn closed⟩
  | collected record' waiting filled =>
    obtain rfl := Option.some.inj (record.symm.trans record')
    exact ⟨_, rfl, .collected waiting filled rfl⟩
  | expired record' waiting empty limited =>
    obtain rfl := Option.some.inj (record.symm.trans record')
    exact ⟨_, rfl, .expired rfl waiting empty limited⟩
  | left record' leaving =>
    obtain rfl := Option.some.inj (record.symm.trans record')
    exact ⟨_, rfl, .left leaving⟩
  | begun record' =>
    obtain rfl := Option.some.inj (record.symm.trans record')
    exact ⟨_, rfl, .stayed _⟩
  | lost | released | dropped => exact ⟨_, congrArg (Option.map _) record, .filled _⟩
  | _ => exact ⟨s, record, .stayed s.outcomes⟩

/-- A record is new, or has taken such a turn. -/
theorem Change.of_turn {s' : Submission π ω ρ} (change : Change bridge key st move st')
    (record : st'.submission = some s') :
    (s'.caller = .drawn ∧ s'.slot = none) ∨
      ∃ s, st.submission = some s ∧ Turn bridge key move s s' := by
  cases before : st.submission with
  | none =>
    -- Every change but the call itself needs a record or makes none.
    left
    cases change with
    | drawn =>
      obtain rfl := Option.some.inj record
      exact ⟨rfl, rfl⟩
    | _ => simp_all
  | some s =>
    obtain ⟨s'', record', turn⟩ := change.turn before
    obtain rfl := Option.some.inj (record.symm.trans record')
    exact .inr ⟨s, rfl, turn⟩

/-- A driver that is told something is never told anything else. -/
theorem Change.tells (change : Change bridge key st move st') (h : st.Tells result) :
    st'.Tells result := by
  obtain ⟨s, record, told⟩ := h
  obtain ⟨s', record', turn⟩ := change.turn record
  refine ⟨s', record', ?_⟩
  cases turn with
  | stayed | filled => exact told
  | queued _ early | refused _ early | collected early | expired _ early =>
    simp [early, Caller.result?] at told
  | left leaving =>
    rw [leaving] at told
    exact told

/-- A driver gets to know its result when it is refused, from its slot, or when its limit
passes. -/
theorem Change.of_tells (change : Change bridge key st move st') (h : st'.Tells result) :
    st.Tells result ∨ ∃ s, st.submission = some s ∧
      ((move = .push key ∧ bridge.dispatcher.queue.closed = true ∧ result = .error .shutDown) ∨
        (move = .collect key ∧ ∃ completion, s.slot = some completion ∧
          result = completion.result) ∨
        ∃ limit, move = .expire key ∧ s.slot = none ∧ bridge.timeout = some limit ∧
          result = .error (.timeout limit)) := by
  obtain ⟨s', record', told⟩ := h
  obtain ⟨drawn, -⟩ | ⟨s, record, turn⟩ := change.of_turn record'
  · simp [drawn, Caller.result?] at told
  · cases turn with
    | stayed | filled => exact .inl ⟨s, record, told⟩
    | queued => simp [Caller.result?] at told
    | refused push drawn closed =>
      obtain rfl := Option.some.inj told
      exact .inr ⟨s, record, .inl ⟨push, closed, rfl⟩⟩
    | collected waiting filled collect =>
      obtain rfl := Option.some.inj told
      exact .inr ⟨s, record, .inr (.inl ⟨collect, _, filled, rfl⟩)⟩
    | expired expire waiting empty limited =>
      obtain rfl := Option.some.inj told
      exact .inr ⟨s, record, .inr (.inr ⟨_, expire, empty, limited, rfl⟩)⟩
    | left leaving =>
      left
      refine ⟨s, record, ?_⟩
      rw [leaving]
      exact told

/-- A unit that has been queued remains one that has been queued. -/
theorem Change.entered (change : Change bridge key st move st') (h : st.Entered) : st'.Entered := by
  obtain ⟨s, record, called, unrefused⟩ := h
  obtain ⟨s', record', turn⟩ := change.turn record
  refine ⟨s', record', ?_⟩
  cases turn with
  | stayed | filled => exact ⟨called, unrefused⟩
  | queued _ drawn | refused _ drawn => exact absurd drawn called
  | @collected completion =>
    refine ⟨by simp, ?_⟩
    cases completion <;> simp [Caller.result?, Completion.result]
  | expired => exact ⟨by simp, by simp [Caller.result?]⟩
  | left leaving =>
    rw [leaving] at unrefused
    exact ⟨by simp, unrefused⟩

/-- A unit is queued when an open queue gets it. -/
theorem Change.of_entered (change : Change bridge key st move st') (h : st'.Entered) :
    st.Entered ∨ move = .push key ∧ bridge.dispatcher.queue.closed = false ∧
      ∃ s, st.submission = some s := by
  obtain ⟨s', record', called, unrefused⟩ := h
  obtain ⟨drawn, -⟩ | ⟨s, record, turn⟩ := change.of_turn record'
  · exact absurd drawn called
  · cases turn with
    | stayed | filled => exact .inl ⟨s, record, called, unrefused⟩
    | queued push drawn opened => exact .inr ⟨push, opened, s, record⟩
    | refused => exact absurd rfl unrefused
    | collected waiting | expired _ waiting =>
      exact .inl ⟨s, record, by simp [waiting], by simp [waiting, Caller.result?]⟩
    | left leaving =>
      left
      refine ⟨s, record, by simp [leaving], ?_⟩
      rw [leaving]
      exact unrefused

/-- A slot that is filled stays filled until its driver takes what is in it. -/
theorem Change.handled (change : Change bridge key st move st') (h : st.Handled) : st'.Handled := by
  obtain ⟨s, record, handled⟩ := h
  obtain ⟨s', record', turn⟩ := change.turn record
  refine ⟨s', record', ?_⟩
  cases turn with
  | stayed => exact handled
  | filled | refused => exact .inl (by simp)
  | queued _ early | expired _ early =>
    rcases handled with filled | ⟨completion, told⟩
    · exact .inl filled
    · simp [early, Caller.result?] at told
  | @collected completion => exact .inr ⟨completion, rfl⟩
  | left leaving =>
    rw [leaving] at handled
    exact handled

end Bridge
end CallbackFerry
