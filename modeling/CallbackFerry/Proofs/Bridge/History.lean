import CallbackFerry.Proofs.Bridge.Turns

/-!
# What has happened to a submission

The past of a bridge tells what no state does: which callbacks were submitted, which units were
accepted, refused, or destroyed, when a function was applied, and whose limit passed.

Each result that a driver is told has its cause in the past: `refused_of_tells`, `expired_of_tells`
and `destroyed_of_lost`.  `accepted_iff` and `completed_iff` say how a submission stands whose unit
was accepted, and one whose slot was filled at some time.  `logged_of_reached` ties the outcomes
noted for a submission to the moments in which its function was applied.
-/

namespace CallbackFerry

variable {π ω ρ : Type}

namespace Bridge

/-! ### Events -/

/-- The callback that was submitted in a moment, if one was. -/
def submitted (moment : Moment (Bridge π ω ρ) (Move π ω ρ)) : Option (Callback π ω ρ) :=
  match moment.move with
  | .draw callback => some callback
  | _ => none

/-- The ticket of the unit that the queue accepted in a moment, if it accepted one. -/
def accepted (moment : Moment (Bridge π ω ρ) (Move π ω ρ)) : Option Ticket :=
  match moment.move with
  | .push key => moment.before.submissions[key]?.bind fun submission =>
    Queue.accepted ⟨moment.before.dispatcher.queue, .push ⟨key, submission.id⟩⟩
  | _ => none

/-- The world in which the function of a submission was applied in a moment, if it was. -/
def invoked (key : Nat) (moment : Moment (Bridge π ω ρ) (Move π ω ρ)) : Option ω :=
  match moment.move with
  | .begin subject world => if subject = key then some world else none
  | _ => none

/-- Whether the queue refused the unit of a submission in a moment, and handed it back. -/
def Refused (key : Nat) (moment : Moment (Bridge π ω ρ) (Move π ω ρ)) : Prop :=
  moment.move = .push key ∧ ∃ s, moment.before.submissions[key]? = some s ∧
    moment.before.dispatcher.queue.push ⟨key, s.id⟩
      = (.error ⟨key, s.id⟩, moment.before.dispatcher.queue)

/-- Whether the unit of a submission was destroyed in a moment: the host dropped its task, or did
not keep it when it was offered. -/
def Destroyed (key : Nat) (moment : Moment (Bridge π ω ρ) (Move π ω ρ)) : Prop :=
  moment.move = .drop key ∨
    (∃ reception, moment.move = .offer reception false) ∧
      ∃ ticket ∈ moment.before.dispatcher.hand, ticket.key = key

/-- Whether the limit of a submission's driver passed in a moment, while its slot was empty. -/
def Expired (key : Nat) (moment : Moment (Bridge π ω ρ) (Move π ω ρ)) : Prop :=
  moment.move = .expire key ∧
    ∃ s, moment.before.submissions[key]? = some s ∧ s.slot = none

/-- Whether the slot of a submission is filled. -/
def Filled (key : Nat) (bridge : Bridge π ω ρ) : Prop :=
  ∃ s, bridge.submissions[key]? = some s ∧ s.slot ≠ none

/-- Whether the unit of a submission was accepted by the queue. -/
def Accepted (key : Nat) (past : List (Moment (Bridge π ω ρ) (Move π ω ρ))) : Prop :=
  ∃ moment ∈ past, ∃ ticket, accepted moment = some ticket ∧ ticket.key = key

/-- Whether the handoff of a submission was completed: its slot is or was filled. -/
def Completed (key : Nat) (past : List (Moment (Bridge π ω ρ) (Move π ω ρ)))
    (now : Bridge π ω ρ) : Prop :=
  (∃ moment ∈ past, moment.before.Filled key) ∨ now.Filled key

end Bridge

/-! ### Losing a unit -/

/-- Whether the unit was destroyed after it was queued. -/
def Standing.Lost (st : Standing π ω ρ) : Prop :=
  ∃ s, st.submission = some s ∧ s.caller.result? ≠ some (.error .shutDown) ∧
    (s.slot = some .abandoned ∨ s.caller.result? = some (.error .abandoned))

namespace Bridge

variable {bridge : Bridge π ω ρ} {key : Nat} {st st' : Standing π ω ρ} {move : Move π ω ρ}

/-- A unit is lost when it is destroyed. -/
theorem Change.of_lost (change : Change bridge key st move st') (sound : Sound bridge.timeout st)
    (h : st'.Lost) : st.Lost ∨ Destroyed key ⟨bridge, move⟩ := by
  obtain ⟨s, record, unrefused, lost⟩ := h
  cases change with
  | drawn =>
    obtain rfl := Option.some.inj record
    simp [Caller.result?] at lost
  | queued record' drawn opened =>
    obtain rfl := Option.some.inj record
    refine .inl ⟨_, record', ?_, ?_⟩
    · simp [drawn, Caller.result?]
    · simpa [drawn, Caller.result?] using lost
  | refused record' drawn closed =>
    obtain rfl := Option.some.inj record
    exact absurd rfl unrefused
  | @collected s' completion record' waiting filled =>
    obtain rfl := Option.some.inj record
    refine .inl ⟨_, record', ?_, .inl ?_⟩
    · simp [waiting, Caller.result?]
    · cases completion <;> simp_all [Caller.result?, Completion.result]
  | expired record' waiting empty limited =>
    obtain rfl := Option.some.inj record
    simp [empty, Caller.result?] at lost
  | left record' leaving =>
    obtain rfl := Option.some.inj record
    refine .inl ⟨_, record', ?_⟩
    rw [leaving]
    exact ⟨unrefused, lost⟩
  | lost about offered =>
    obtain ⟨ticket, hand, same⟩ := Option.map_eq_some_iff.mp about
    exact .inr (.inr ⟨⟨_, rfl⟩, ticket, List.mem_of_mem_head? hand, same⟩)
  | dropped holds => exact .inr (.inl rfl)
  | begun record' =>
    obtain rfl := Option.some.inj record
    exact .inl ⟨_, record', unrefused, lost⟩
  | @released timing completion rest others ahead =>
    -- What a task releases is how its function ended, which is never that it was abandoned.
    obtain ⟨s', outcome, rfl, -, -, -, rfl, -⟩ := sound.of_released ahead
    obtain rfl := Option.some.inj record
    refine .inl ⟨s', rfl, unrefused, .inr ?_⟩
    rcases lost with slot | told
    · cases outcome <;> cases slot
    · exact told
  | _ => exact .inl ⟨s, record, unrefused, lost⟩

/-- A unit that is lost stays lost: nothing but an abandonment can come out of its handoff. -/
theorem Change.lost_lasts (change : Change bridge key st move st')
    (sound : Sound bridge.timeout st) (h : st.Lost) : st'.Lost := by
  obtain ⟨s, record, unrefused, lost⟩ := h
  cases change with
  | drawn fresh absent => simp [absent] at record
  | queued record' drawn | refused record' drawn =>
    obtain rfl := Option.some.inj (record.symm.trans record')
    cases sound with
    | drawn caller slot =>
      obtain rfl := Option.some.inj record
      simp [caller, slot, Caller.result?] at lost
    | _ => simp_all [Caller.Patient, Caller.result?]
  | collected record' waiting filled =>
    obtain rfl := Option.some.inj (record.symm.trans record')
    rw [waiting, filled] at lost
    rcases lost with slot | told
    · obtain rfl := Option.some.inj slot
      exact ⟨_, rfl, by simp [Caller.result?, Completion.result], .inr rfl⟩
    · simp [Caller.result?] at told
  | expired record' waiting empty =>
    obtain rfl := Option.some.inj (record.symm.trans record')
    simp [waiting, empty, Caller.result?] at lost
  | left record' leaving =>
    obtain rfl := Option.some.inj (record.symm.trans record')
    rw [leaving] at unrefused lost
    exact ⟨_, rfl, unrefused, lost⟩
  | begun record' =>
    obtain rfl := Option.some.inj (record.symm.trans record')
    exact ⟨_, rfl, unrefused, lost⟩
  | lost | dropped => exact ⟨_, congrArg (Option.map _) record, unrefused, .inl rfl⟩
  | released ahead =>
    obtain ⟨s', outcome, rfl, caller, slot, -⟩ := sound.of_released ahead
    obtain rfl := Option.some.inj record
    rcases lost with lost | told
    · rw [slot] at lost
      cases lost
    · exact absurd told (caller.result_ne .abandoned)
  | _ => exact ⟨s, record, unrefused, lost⟩

/-- A task that is offered and not kept is lost. -/
theorem Change.lost_of_unkept {reception : Reception} {ticket : Ticket}
    (change : Change bridge key st (.offer reception false) st')
    (sound : Sound bridge.timeout st) (hand : bridge.dispatcher.hand = [ticket])
    (same : ticket.key = key) : st'.Lost := by
  cases change with
  | aside other => exact absurd (by simp [subject, hand, same]) other
  | lost about offered =>
    cases sound with
    | pending caller => exact ⟨_, rfl, caller.unrefused, .inl rfl⟩
    | _ => simp at offered

/-- A task that the host drops is lost. -/
theorem Change.lost_of_dropped (change : Change bridge key st (.drop key) st')
    (sound : Sound bridge.timeout st) : st'.Lost := by
  cases change with
  | aside other => exact absurd rfl other
  | dropped holds =>
    cases sound with
    | pending caller => exact ⟨_, rfl, caller.unrefused, .inl rfl⟩
    | _ => simp at holds

/-- A unit that is destroyed is lost. -/
theorem Change.lost_of_destroyed (change : Change bridge key st move st')
    (sound : Sound bridge.timeout st)
    (destroyed : Destroyed key (⟨bridge, move⟩ : Moment (Bridge π ω ρ) (Move π ω ρ))) :
    st'.Lost := by
  rcases destroyed with rfl | ⟨⟨reception, rfl⟩, ticket, inHand, same⟩
  · exact change.lost_of_dropped sound
  · have single : bridge.dispatcher.hand = [ticket] := Dispatcher.hand_eq_singleton_of_mem inHand
    exact change.lost_of_unkept sound single same

/-! ### Invocations -/

/-- What is noted about a submission's function: the callback, and what it has come to. -/
def log (s : Submission π ω ρ) : Callback π ω ρ × List (Except Fault ρ) :=
  (s.callback, s.outcomes)

/-- Only the call itself and an invocation change what is noted about a function. -/
theorem Change.log (change : Change bridge key st move st')
    (drawn : ∀ callback, move ≠ .draw callback) (silent : ∀ world, move ≠ .begin key world) :
    st'.submission.map Bridge.log = st.submission.map Bridge.log := by
  cases change with
  | drawn => exact absurd rfl (drawn _)
  | begun => exact absurd rfl (silent _)
  | queued record | refused record | collected record | expired record | left record =>
    rw [record]
    rfl
  | lost | released | dropped =>
    rw [Option.map_map]
    rfl
  | _ => rfl

/-- Nobody changes a callback that was submitted. -/
theorem Change.callback (change : Change bridge key st move st')
    (drawn : ∀ callback, move ≠ .draw callback) :
    st'.submission.map (·.callback) = st.submission.map (·.callback) := by
  by_cases silent : ∀ world, move ≠ .begin key world
  · have same := congrArg (Option.map Prod.fst) (change.log drawn silent)
    simpa [Function.comp_def, Bridge.log] using same
  · push Not at silent
    obtain ⟨world, rfl⟩ := silent
    cases change with
    | aside => rfl
    | begun record => rw [record]; rfl

/-- Whether the outcomes noted for a submission are those of applying its function in these worlds,
each time to its own payload. -/
def Logged (worlds : List ω) : Option (Submission π ω ρ) → Prop
  | none => worlds = []
  | some s => s.outcomes.reverse = worlds.map fun world => (s.callback.invoke world).outcome

variable {past : List (Moment (Bridge π ω ρ) (Move π ω ρ))} {now : Bridge π ω ρ}
  {worlds : List ω}

theorem invoked_eq_none (silent : ∀ world, move ≠ .begin key world) :
    invoked key (⟨bridge, move⟩ : Moment (Bridge π ω ρ) (Move π ω ρ)) = none := by
  cases move with
  | begin subject world =>
    refine if_neg fun same => silent world ?_
    rw [same]
  | _ => rfl

theorem Logged.of_log_eq {before after : Option (Submission π ω ρ)} (h : Logged worlds before)
    (same : after.map log = before.map log) : Logged worlds after := by
  cases before with
  | none =>
    obtain rfl : after = none := by simpa using same
    exact h
  | some s =>
    obtain ⟨s', rfl, equal⟩ := Option.map_eq_some_iff.mp same
    obtain ⟨callback, outcomes⟩ := Prod.mk.inj equal
    show s'.outcomes.reverse = _
    rw [outcomes, callback]
    exact h

/-- Whenever a function is applied it is noted what that came to. -/
theorem Change.logged (change : Change bridge key st move st')
    (h : Logged worlds st.submission) :
    Logged (worlds ++ (invoked key (⟨bridge, move⟩ : Moment (Bridge π ω ρ) (Move π ω ρ))).toList)
      st'.submission := by
  by_cases silent : ∀ world, move ≠ .begin key world
  · rw [invoked_eq_none silent, Option.toList_none, List.append_nil]
    by_cases drawn : ∀ callback, move ≠ .draw callback
    · exact h.of_log_eq (change.log drawn silent)
    · push Not at drawn
      obtain ⟨callback, rfl⟩ := drawn
      cases change with
      | aside => exact h
      | drawn fresh absent =>
        rw [absent] at h
        rw [show worlds = [] from h]
        rfl
  · push Not at silent
    obtain ⟨world, rfl⟩ := silent
    cases change with
    | aside other => exact absurd rfl other
    | begun record holds =>
      rw [record] at h
      have noted : _ = worlds.map _ := h
      simp [Logged, invoked, noted]

/-! ### Runs -/

variable {settings : BridgeSettings} {later : List (Moment (Bridge π ω ρ) (Move π ω ρ))}
  {future : Bridge π ω ρ}

/-- What began to hold of a standing began in some moment, by a change of this standing. -/
theorem Reached.since {P : Standing π ω ρ → Prop}
    {cause : Moment (Bridge π ω ρ) (Move π ω ρ) → Prop} (reached : Reached settings past now)
    (onset : ∀ (before : Bridge π ω ρ) move st', before.timeout = settings.timeout →
      Sound before.timeout (before.standing key) →
      Change before key (before.standing key) move st' → P st' →
      P (before.standing key) ∨ cause ⟨before, move⟩)
    (unborn : ∀ st, P st → st.submission ≠ none) (h : P (now.standing key)) :
    ∃ moment ∈ past, cause moment := by
  refine reached.run.since (P := fun bridge => P (bridge.standing key)) ?_ ?_ h
  · intro earlier before move after upTo made
    obtain ⟨first, started, run⟩ := reached
    obtain ⟨-, -, rfl⟩ := start_eq_ok_iff.mp started
    have upTo : Reached settings earlier before := ⟨_, started, upTo⟩
    have timeout := timeout_of_reached upTo
    exact onset _ _ _ timeout (timeout ▸ sound_of_reached upTo key) (step_change made)
  · intro h
    exact unborn _ h rfl

/-- What no change of a sound standing ends lasts for ever. -/
theorem Reached.lasts {P : Standing π ω ρ → Prop} (reached : Reached settings past now)
    (stepwise : ∀ (before : Bridge π ω ρ) move st', Sound before.timeout (before.standing key) →
      Change before key (before.standing key) move st' → P (before.standing key) → P st')
    (onward : Run step now later future) (h : P (now.standing key)) : P (future.standing key) := by
  induction onward with
  | start => exact h
  | next onward made ih =>
    have upTo := reached.append onward
    exact stepwise _ _ _ (timeout_of_reached upTo ▸ sound_of_reached upTo key) (step_change made) ih

/-- A standing that results from a moment of the past, and that nothing ends, is the standing
now. -/
theorem Reached.lasts_of_mem {P : Standing π ω ρ → Prop}
    {moment : Moment (Bridge π ω ρ) (Move π ω ρ)} (reached : Reached settings past now)
    (stepwise : ∀ (before : Bridge π ω ρ) move st', Sound before.timeout (before.standing key) →
      Change before key (before.standing key) move st' → P (before.standing key) → P st')
    (member : moment ∈ past)
    (h : ∀ st', Sound moment.before.timeout (moment.before.standing key) →
      Change moment.before key (moment.before.standing key) moment.move st' → P st') :
    P (now.standing key) := by
  obtain ⟨earlier, rest, after, -, upTo, made, onward⟩ := reached.of_mem member
  have sound : Sound moment.before.timeout (moment.before.standing key) :=
    timeout_of_reached upTo ▸ sound_of_reached upTo key
  exact (upTo.append (.next .start made)).lasts stepwise onward (h _ sound (step_change made))

/-- A driver that is told of a shutdown was refused by the queue. -/
theorem refused_of_tells (reached : Reached settings past now)
    (told : (now.standing key).Tells (.error .shutDown)) : ∃ moment ∈ past, Refused key moment := by
  refine reached.since (P := fun st => st.Tells (.error .shutDown)) ?_ ?_ told
  · intro before move st' _ _ change told
    obtain h | ⟨s, record, ⟨push, closed, -⟩ | ⟨-, completion, -, h⟩ | ⟨limit, -, -, -, h⟩⟩ :=
      change.of_tells told
    · exact .inl h
    · exact .inr ⟨push, s, record, Queue.push_of_closed closed _⟩
    · cases completion <;> cases h
    · cases h
  · rintro st ⟨s, record, -⟩
    simp [record]

/-- A driver that is told of a timeout has the limit of the settings, and its limit passed while
its slot was empty. -/
theorem expired_of_tells {limit : Span} (reached : Reached settings past now)
    (told : (now.standing key).Tells (.error (.timeout limit))) :
    settings.timeout = some limit ∧ ∃ moment ∈ past, Expired key moment := by
  have caused : ∃ moment ∈ past, settings.timeout = some limit ∧ Expired key moment := by
    refine reached.since (P := fun st => st.Tells (.error (.timeout limit))) ?_ ?_ told
    · intro before move st' timeout _ change told
      obtain h | ⟨s, record, ⟨-, -, h⟩ | ⟨-, completion, -, h⟩ | ⟨limit', expire, empty, limited, h⟩⟩ :=
        change.of_tells told
      · exact .inl h
      · cases h
      · cases completion <;> cases h
      · cases h
        exact .inr ⟨timeout ▸ limited, expire, s, record, empty⟩
    · rintro st ⟨s, record, -⟩
      simp [record]
  obtain ⟨moment, member, limited, expired⟩ := caused
  exact ⟨limited, moment, member, expired⟩

/-- A unit that was lost was destroyed. -/
theorem destroyed_of_lost (reached : Reached settings past now) (lost : (now.standing key).Lost) :
    ∃ moment ∈ past, Destroyed key moment := by
  refine reached.since (P := Standing.Lost) (fun _ _ _ _ sound change => change.of_lost sound) ?_
    lost
  rintro st ⟨s, record, -⟩
  simp [record]

theorem accepted_eq_some {moment : Moment (Bridge π ω ρ) (Move π ω ρ)} {ticket : Ticket}
    (h : accepted moment = some ticket) :
    moment.move = .push ticket.key ∧ moment.before.dispatcher.queue.closed = false ∧
      ∃ s, moment.before.submissions[ticket.key]? = some s ∧ ticket = ⟨ticket.key, s.id⟩ := by
  obtain ⟨before, move⟩ := moment
  cases move with
  | push key =>
    cases record : before.submissions[key]? with
    | none => simp [accepted, record] at h
    | some s =>
      cases closed : before.dispatcher.queue.closed with
      | true => simp [accepted, record, Queue.accepted, Queue.push_of_closed closed] at h
      | false =>
        simp only [accepted, record, Queue.accepted, Queue.push_of_open closed, Option.bind_some,
          Option.some.injEq] at h
        subst h
        exact ⟨rfl, rfl, s, record, rfl⟩
  | _ => simp [accepted] at h

/-- An accepted unit has just been queued. -/
theorem Change.entered_of_accepted {ticket : Ticket} (change : Change bridge key st move st')
    (h : accepted (⟨bridge, move⟩ : Moment (Bridge π ω ρ) (Move π ω ρ)) = some ticket)
    (same : ticket.key = key) : st'.Entered ∧ ¬ st.Entered := by
  obtain ⟨push, opened, -⟩ := accepted_eq_some h
  dsimp only at push opened
  rw [same] at push
  subst push
  cases change with
  | aside other => exact absurd rfl other
  | queued record drawn =>
    refine ⟨⟨_, rfl, by simp, by simp [Caller.result?]⟩, ?_⟩
    rintro ⟨s', record', called, -⟩
    obtain rfl := Option.some.inj (record.symm.trans record')
    exact called drawn
  | refused record drawn closed => rw [opened] at closed; cases closed

/-- A unit was accepted if and only if it has been queued. -/
theorem accepted_iff (reached : Reached settings past now) :
    Accepted key past ↔ (now.standing key).Entered := by
  constructor
  · rintro ⟨moment, member, ticket, accepted, same⟩
    exact reached.lasts_of_mem (P := Standing.Entered) (fun _ _ _ _ change => change.entered)
      member fun _ _ change => (change.entered_of_accepted accepted same).1
  · intro entered
    refine reached.since (P := Standing.Entered) ?_ ?_ entered
    · intro before move st' _ _ change entered
      obtain h | ⟨rfl, opened, s, record⟩ := change.of_entered entered
      · exact .inl h
      · have record : before.submissions[key]? = some s := record
        exact .inr ⟨⟨key, s.id⟩, by
          simp [accepted, record, Queue.accepted, Queue.push_of_open opened], rfl⟩
    · rintro st ⟨s, record, -⟩
      simp [record]

/-- A handoff was completed if and only if the slot is filled or the driver took what was in it. -/
theorem completed_iff (reached : Reached settings past now) :
    Completed key past now ↔ (now.standing key).Handled := by
  constructor
  · rintro (⟨moment, member, s, record, filled⟩ | ⟨s, record, filled⟩)
    · exact reached.lasts_of_mem (P := Standing.Handled) (fun _ _ _ _ change => change.handled)
        member fun _ _ change => change.handled ⟨s, record, .inl filled⟩
    · exact ⟨s, record, .inl filled⟩
  · rintro ⟨s, record, filled | ⟨completion, told⟩⟩
    · exact .inr ⟨s, record, filled⟩
    · refine .inl (reached.since (P := fun st => st.Tells completion.result) ?_ ?_
        ⟨s, record, told⟩)
      · intro before move st' _ _ change told
        obtain h | ⟨s, record, ⟨-, -, h⟩ | ⟨-, completion', filled, h⟩ | ⟨limit, -, -, -, h⟩⟩ :=
          change.of_tells told
        · exact .inl h
        · cases completion <;> cases h
        · exact .inr ⟨s, record, by simp [filled]⟩
        · cases completion <;> cases h
      · rintro st ⟨s, record, -⟩
        simp [record]

/-- The outcomes noted for a submission are those of the moments in which its function was
applied. -/
theorem logged_of_reached (reached : Reached settings past now) :
    Logged (past.filterMap (invoked key)) now.submissions[key]? := by
  have run := reached.run
  clear reached
  induction run with
  | start => rfl
  | next run made ih =>
    rw [Run.filterMap_concat]
    exact (step_change made).logged ih

/-- The submissions have the callbacks that were submitted, in this order. -/
theorem submitted_eq (reached : Reached settings past now) :
    past.filterMap submitted = now.submissions.toList.map (·.callback) := by
  have run := reached.run
  clear reached
  induction run with
  | start => rfl
  -- A call adds its callback at the end; any other move changes no callback, whatever the key.
  | @next past now after move run made ih =>
    rw [Run.filterMap_concat, ih]
    by_cases drawn : ∀ callback, move ≠ .draw callback
    · have silent : submitted ⟨now, move⟩ = none := by
        cases move with
        | draw callback => exact absurd rfl (drawn callback)
        | _ => rfl
      rw [silent, Option.toList_none, List.append_nil]
      refine List.ext_getElem? fun key => ?_
      have change : Change now key _ move (after.standing key) := step_change made
      simpa [standing] using (change.callback drawn).symm
    · push Not at drawn
      obtain ⟨callback, rfl⟩ := drawn
      obtain rfl := Option.some.inj made
      simp [submitted, draw, place, count]

/-- A submission keeps its callback. -/
theorem callback_of_mem {moment : Moment (Bridge π ω ρ) (Move π ω ρ)} {s s' : Submission π ω ρ}
    (reached : Reached settings past now) (member : moment ∈ past)
    (before : moment.before.submissions[key]? = some s')
    (record : now.submissions[key]? = some s) : s'.callback = s.callback := by
  obtain ⟨earlier, rest, after, rfl, upTo, -⟩ := reached.of_mem member
  have early : (earlier.filterMap submitted)[key]? = some s'.callback := by
    rw [submitted_eq upTo, List.getElem?_map]
    simp [before]
  have late : ((earlier ++ moment :: rest).filterMap submitted)[key]? = some s.callback := by
    rw [submitted_eq reached, List.getElem?_map]
    simp [record]
  -- What was submitted so far stays where it is among all that is submitted.
  have within := (List.getElem?_eq_some_iff.mp early).1
  rw [List.filterMap_append, List.getElem?_append_left within] at late
  exact Option.some.inj (early.symm.trans late)

end Bridge
end CallbackFerry
