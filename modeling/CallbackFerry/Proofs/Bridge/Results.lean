import CallbackFerry.Proofs.Bridge.History
import CallbackFerry.Proofs.Handoff

/-!
# What drivers are told

Whatever the order in which drivers, dispatcher and host go on, the function of a submission is
applied once at most, and to its own payload.  A driver is told what its own function came to, or
that its unit was destroyed, or that it was refused, or that its limit passed, and each of these
only if it is so.  `Accounted` puts this down for one submission, and `accounted_of_reached` proves
it of all submissions of all reachable bridges.
-/

namespace CallbackFerry

variable {π ω ρ : Type}

theorem Ending.length_le {outcomes : List (Except Fault ρ)} {completion : Completion ρ}
    {running : List (List (Milestone ρ))} (ending : Ending outcomes completion running) :
    outcomes.length ≤ 1 := by
  cases ending <;> simp

/-- A function was applied once at most. -/
theorem Sound.length_le {timeout : Option Span} {st : Standing π ω ρ}
    {s : Submission π ω ρ} (sound : Sound timeout st) (record : st.submission = some s) :
    s.outcomes.length ≤ 1 := by
  cases sound with
  | unborn => simp at record
  | drawn _ _ outcomes | refused _ _ outcomes | pending _ _ outcomes | begun _ _ outcomes =>
    obtain rfl := Option.some.inj record
    simp [outcomes]
  | completed _ _ ending | collected _ _ ending =>
    obtain rfl := Option.some.inj record
    exact ending.length_le

/-- What is or was in a slot is how the way of the unit ended. -/
theorem Sound.ending {timeout : Option Span} {st : Standing π ω ρ} {s : Submission π ω ρ}
    {completion : Completion ρ} (sound : Sound timeout st) (record : st.submission = some s)
    (filled : s.slot = some completion ∨ s.caller.result? = some completion.result) :
    Ending s.outcomes completion st.running := by
  cases sound with
  | unborn => simp at record
  | drawn caller empty =>
    obtain rfl := Option.some.inj record
    simp [caller, empty, Caller.result?] at filled
  | refused told slot outcomes =>
    obtain rfl := Option.some.inj record
    rw [told, slot] at filled
    rcases filled with filled | told
    · obtain rfl := Option.some.inj filled
      exact outcomes ▸ .lost
    · cases completion <;> cases told
  | pending caller empty | begun caller empty =>
    obtain rfl := Option.some.inj record
    rcases filled with filled | told
    · rw [empty] at filled
      cases filled
    · exact absurd told (caller.result_ne completion)
  | completed caller slot ending =>
    obtain rfl := Option.some.inj record
    rcases filled with filled | told
    · obtain rfl := Option.some.inj (filled.symm.trans slot)
      exact ending
    · exact absurd told (caller.result_ne completion)
  | collected told slot ending =>
    obtain rfl := Option.some.inj record
    rw [told, slot] at filled
    rcases filled with filled | told
    · cases filled
    · obtain rfl := Completion.result_injective (Option.some.inj told)
      exact ending

/-- A driver is told of a shutdown, of its limit, or what was in its slot. -/
theorem Sound.result_cases {timeout : Option Span} {st : Standing π ω ρ} {s : Submission π ω ρ}
    {result : Except Failure ρ} (sound : Sound timeout st) (record : st.submission = some s)
    (told : s.caller.result? = some result) :
    (result = .error .shutDown ∧ s.slot = some .abandoned) ∨
      (∃ limit, result = .error (.timeout limit)) ∨
      ∃ completion : Completion ρ, result = completion.result := by
  cases sound with
  | unborn => simp at record
  | drawn caller =>
    obtain rfl := Option.some.inj record
    simp [caller, Caller.result?] at told
  | refused told' slot outcomes =>
    obtain rfl := Option.some.inj record
    exact .inl ⟨Option.some.inj (told.symm.trans told'), slot⟩
  | pending caller | begun caller | completed caller =>
    obtain rfl := Option.some.inj record
    rcases caller with waiting | ⟨limit, -, told'⟩
    · simp [waiting, Caller.result?] at told
    · exact .inr (.inl ⟨limit, Option.some.inj (told.symm.trans told')⟩)
  | collected told' slot ending =>
    obtain rfl := Option.some.inj record
    exact .inr (.inr ⟨_, Option.some.inj (told.symm.trans told')⟩)

namespace Bridge

variable {settings : BridgeSettings} {past : List (Moment (Bridge π ω ρ) (Move π ω ρ))}
  {later : List (Moment (Bridge π ω ρ) (Move π ω ρ))} {now future : Bridge π ω ρ} {key : Nat}
  {s : Submission π ω ρ}

/-- The worlds in which the function of a submission was applied so far. -/
def invocations (key : Nat) (past : List (Moment (Bridge π ω ρ) (Move π ω ρ))) : List ω :=
  past.filterMap (invoked key)

/-- Whether a function was not applied so far and never will be. -/
def NeverInvoked (key : Nat) (past : List (Moment (Bridge π ω ρ) (Move π ω ρ)))
    (now : Bridge π ω ρ) : Prop :=
  ∀ later future, Run step now later future → invocations key (past ++ later) = []

/-- What a driver was told about its submission, and why. -/
structure Accounted (settings : BridgeSettings)
    (past : List (Moment (Bridge π ω ρ) (Move π ω ρ))) (now : Bridge π ω ρ) (key : Nat)
    (s : Submission π ω ρ) : Prop where
  /-- The callback is the one that was submitted. -/
  submitted : (past.filterMap submitted)[key]? = some s.callback
  /-- Its function was applied once at most. -/
  once : (invocations key past).length ≤ 1
  /-- It was applied to its own payload, and what that came to was noted. -/
  noted : s.outcomes.reverse = (invocations key past).map fun world =>
    (s.callback.function s.callback.payload world).outcome
  /-- What is in the slot is what the function came to, or that it was never applied. -/
  slot : ∀ completion, s.slot = some completion →
    (completion = .abandoned ∧ NeverInvoked key past now) ∨
      ∃ world, invocations key past = [world] ∧
        completion = .ofOutcome (s.callback.function s.callback.payload world).outcome
  /-- A driver gets a value only if its function returned it. -/
  value : ∀ value, s.caller.result? = some (.ok value) →
    ∃ world, invocations key past = [world] ∧
      (s.callback.function s.callback.payload world).outcome = .ok value
  /-- A driver gets a fault only if its function broke off with a fault of this text. -/
  fault : ∀ text, s.caller.result? = some (.error (.fault text)) →
    ∃ world cause, invocations key past = [world] ∧
      (s.callback.function s.callback.payload world).outcome = .error cause ∧ cause.text = text
  /-- A driver is told that its unit was abandoned only if it was destroyed and never applied. -/
  abandoned : s.caller.result? = some (.error .abandoned) →
    (∃ moment ∈ past, Destroyed key moment) ∧ NeverInvoked key past now
  /-- A driver is told of a shutdown only if the queue refused its unit, which is never applied. -/
  shutDown : s.caller.result? = some (.error .shutDown) →
    (∃ moment ∈ past, Refused key moment) ∧ NeverInvoked key past now
  /-- A driver is told of a timeout only if it is that of the settings and passed while the slot
  was empty. -/
  timeout : ∀ limit, s.caller.result? = some (.error (.timeout limit)) →
    settings.timeout = some limit ∧ ∃ moment ∈ past, Expired key moment
  /-- A driver is told nothing else. -/
  complete : ∀ failure, s.caller.result? = some (.error failure) →
    failure = .abandoned ∨ failure = .shutDown ∨ (∃ text, failure = .fault text) ∨
      ∃ limit, failure = .timeout limit
  /-- What a driver was told stays so, whatever happens later. -/
  lasts : ∀ result, s.caller.result? = some result → ∀ later future, Run step now later future →
    ∃ s', future.submissions[key]? = some s' ∧ s'.caller.result? = some result

/-- An ending tells whether the function was applied, and what that came to. -/
theorem explained_of_ending {worlds : List ω} {completion : Completion ρ}
    {running : List (List (Milestone ρ))} (ending : Ending s.outcomes completion running)
    (logged : Logged worlds (some s)) :
    (completion = .abandoned ∧ worlds = []) ∨
      ∃ world, worlds = [world] ∧
        completion = .ofOutcome (s.callback.function s.callback.payload world).outcome := by
  have noted : s.outcomes.reverse =
      worlds.map fun world => (s.callback.function s.callback.payload world).outcome := logged
  generalize s.outcomes = outcomes at ending noted
  cases ending with
  | lost => exact .inl ⟨rfl, List.map_eq_nil_iff.mp noted.symm⟩
  | ran outcome | gone outcome =>
    obtain ⟨world, rfl, rfl⟩ := List.map_eq_singleton_iff.mp noted.symm
    exact .inr ⟨world, rfl, rfl⟩

/-- After a handoff was completed its function is not applied any more. -/
theorem invocations_append (reached : Reached settings past now)
    (handled : (now.standing key).Handled) (onward : Run step now later future) :
    invocations key (past ++ later) = invocations key past := by
  -- A function can be applied only to a task that the host holds, and now it holds none for it.
  rw [invocations, List.filterMap_append, invocations, List.append_right_eq_self,
    List.filterMap_eq_nil_iff]
  intro moment member
  obtain ⟨earlier, rest, after, rfl, upTo, made, -⟩ := onward.of_mem member
  have handled : (moment.before.standing key).Handled :=
    reached.lasts (P := Standing.Handled) (fun _ _ _ _ change => change.handled) upTo handled
  obtain ⟨-, -, none, -⟩ := (sound_of_reached (reached.append upTo) key).of_handled handled
  obtain ⟨before, move⟩ := moment
  refine invoked_eq_none fun world begins => ?_
  subst begins
  obtain ⟨ticket, s, lines, held, rfl, -⟩ := begin_eq_some made
  have some := held_pos held
  omega

/-- What is or was in a slot is that the function was never applied, or what it came to. -/
theorem explained_of_filled (reached : Reached settings past now)
    (record : now.submissions[key]? = some s) (completion : Completion ρ)
    (filled : s.slot = some completion ∨ s.caller.result? = some completion.result) :
    (completion = .abandoned ∧ NeverInvoked key past now) ∨
      ∃ world, invocations key past = [world] ∧
        completion = .ofOutcome (s.callback.function s.callback.payload world).outcome := by
  have handled : (now.standing key).Handled := by
    refine ⟨s, record, ?_⟩
    rcases filled with slot | told
    · exact .inl (by simp [slot])
    · exact .inr ⟨completion, told⟩
  have logged : Logged (invocations key past) (some s) := record ▸ logged_of_reached reached
  have ending := (sound_of_reached reached key).ending record filled
  obtain ⟨rfl, none⟩ | applied := explained_of_ending ending logged
  · refine .inl ⟨rfl, fun later future onward => ?_⟩
    rw [invocations_append reached handled onward, none]
  · exact .inr applied

/-- If a slot is or was filled with an abandonment, the function is never applied. -/
theorem neverInvoked_of_abandoned (reached : Reached settings past now)
    (record : now.submissions[key]? = some s)
    (filled : s.slot = some .abandoned ∨ s.caller.result? = some (.error .abandoned)) :
    NeverInvoked key past now := by
  obtain ⟨-, never⟩ | ⟨world, -, h⟩ := explained_of_filled reached record .abandoned filled
  · exact never
  · exact absurd h.symm (Completion.ofOutcome_ne_abandoned _)

/-- Every submission of a reachable bridge is accounted for. -/
theorem accounted_of_reached (reached : Reached settings past now)
    (record : now.submissions[key]? = some s) : Accounted settings past now key s := by
  have sound := sound_of_reached reached key
  have noted : s.outcomes.reverse = (invocations key past).map fun world =>
      (s.callback.function s.callback.payload world).outcome := by
    have logged : Logged (invocations key past) (some s) := record ▸ logged_of_reached reached
    exact logged
  refine ⟨?_, ?_, noted, fun completion slot => ?_, fun value told => ?_, fun text told => ?_,
    fun told => ?_, fun told => ?_, fun limit told => ?_, fun failure told => ?_,
    fun result told later future onward => ?_⟩
  · rw [submitted_eq reached, List.getElem?_map]
    simp [record]
  · have length := congrArg List.length noted
    rw [List.length_reverse, List.length_map] at length
    exact length ▸ sound.length_le record
  · exact explained_of_filled reached record completion (.inl slot)
  · obtain ⟨h, -⟩ | ⟨world, once, h⟩ :=
      explained_of_filled reached record (.value value) (.inr told)
    · cases h
    · exact ⟨world, once, Completion.ofOutcome_eq_value_iff.mp h.symm⟩
  · obtain ⟨h, -⟩ | ⟨world, once, h⟩ :=
      explained_of_filled reached record (.fault text) (.inr told)
    · cases h
    · obtain ⟨cause, broke, same⟩ := Completion.ofOutcome_eq_fault_iff.mp h.symm
      exact ⟨world, cause, once, broke, same⟩
  · have lost : (now.standing key).Lost := ⟨s, record, by simp [told], .inr told⟩
    exact ⟨destroyed_of_lost reached lost, neverInvoked_of_abandoned reached record (.inr told)⟩
  · refine ⟨refused_of_tells reached ⟨s, record, told⟩, ?_⟩
    obtain ⟨-, slot⟩ | ⟨limit, h⟩ | ⟨completion, h⟩ := sound.result_cases record told
    · exact neverInvoked_of_abandoned reached record (.inl slot)
    · cases h
    · cases completion <;> cases h
  · exact expired_of_tells reached ⟨s, record, told⟩
  · obtain ⟨h, -⟩ | ⟨limit, h⟩ | ⟨completion, h⟩ := sound.result_cases record told
    · exact .inr (.inl (Except.error.inj h))
    · exact .inr (.inr (.inr ⟨limit, Except.error.inj h⟩))
    · cases completion with
      | value => cases h
      | fault text => exact .inr (.inr (.inl ⟨text, Except.error.inj h⟩))
      | abandoned => exact .inl (Except.error.inj h)
  · exact reached.lasts (P := fun st => st.Tells result) (fun _ _ _ _ change => change.tells)
      onward ⟨s, record, told⟩

/-- A host that runs the callback to its end, and a driver that gets the value. -/
theorem accounted_of_successor : ∃ past, ∃ now : Bridge Nat Unit Nat, ∃ s, Reached {} past now ∧
    now.submissions[0]? = some s ∧ s.caller.result? = some (.ok 21) ∧
      Accounted {} past now 0 s := by
  have usable : BridgeSettings.flaw? {} = none := by decide
  have reached := reached_of_moves usable (by decide)
    [.draw (⟨20, fun payload world => ⟨.ok (payload + 1), world, 0⟩⟩ : Callback Nat Unit Nat),
      .push 0, .take, .offer .accepted true, .settle, .begin 0 (), .advance 0 ⟨⟨0⟩, ⟨0⟩⟩,
      .advance 0 ⟨⟨0⟩, ⟨0⟩⟩, .collect 0]
  exact ⟨_, _, ⟨1, _, none, .leaving (.ok 21), [.ok 21]⟩, reached, rfl, rfl,
    accounted_of_reached reached rfl⟩

end Bridge
end CallbackFerry
