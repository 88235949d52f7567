import CallbackFerry.Proofs.Bridge.Conservation

/-!
# The book of a bridge

The book of a bridge has one entry for each submission, in order: its callback, and what the
applications of its function have come to.  Two moves write in it and no other.  A call adds an
entry at the end (`book_draw`), and an application adds an outcome to an entry that had none
(`book_begin`).

So whatever is counted over the entries is counted up one entry at a time, and `card_roll` counts
the submissions on a roll in that way.
-/

namespace CallbackFerry

variable {π ω ρ : Type}

/-- Whether the driver's call is over. -/
def Standing.Over (st : Standing π ω ρ) : Prop :=
  ∃ s result, st.submission = some s ∧ s.caller = .returned result

/-- Whether nothing went wrong with a submission so far: its unit was not lost, and its driver was
not refused and did not time out. -/
structure Standing.Safe (st : Standing π ω ρ) : Prop where
  kept : ¬ st.Lost
  accepted : ¬ st.Tells (.error .shutDown)
  inTime : ¬ st.TimedOut

/-- If nothing went wrong with a submission whose call is over, its function was applied, its driver
was told what that came to, and it was counted under this account only. -/
theorem Sound.of_over {timeout : Option Span} {st : Standing π ω ρ} {s : Submission π ω ρ}
    {result : Except Failure ρ} (sound : Sound timeout st) (safe : st.Safe)
    (record : st.submission = some s) (returned : s.caller = .returned result) :
    ∃ outcome, s.outcomes = [outcome] ∧ result = (Completion.ofOutcome outcome).result ∧
      st.ran? = some (Account.ofSuccess (succeeded outcome)) ∧ st.left? = none := by
  have told : s.caller.result? = some result := by rw [returned]; rfl
  rcases sound.result_cases record told with ⟨rfl, -⟩ | ⟨limit, rfl⟩ | ⟨completion, rfl⟩
  · exact absurd ⟨s, record, told⟩ safe.accepted
  · exact absurd ⟨limit, s, record, told⟩ safe.inTime
  · have ending : Ending s.outcomes completion st.running := sound.ending record (.inr told)
    generalize applied : s.outcomes = outcomes at ending
    generalize ahead : st.running = running at ending
    -- What came out of the slot is an abandonment, or how the function has ended.
    cases ending with
    | lost =>
      have unrefused : s.caller.result? ≠ some (.error .shutDown) := by
        rw [told]
        simp [Completion.result]
      exact absurd ⟨s, record, unrefused, .inr told⟩ safe.kept
    | ran outcome | gone outcome =>
      refine ⟨outcome, rfl, rfl, ?_, ?_⟩
      · simp [Standing.ran?, Standing.uncounted, record, applied, ahead]
      · cases outcome <;>
          simp [Standing.left?, record, returned, Completion.ofOutcome, Completion.result,
            Account.ofResult]

namespace Bridge

variable {bridge after : Bridge π ω ρ} {move : Move π ω ρ} {key : Nat}

/-- A call that is over stays over. -/
theorem Change.stays_over {st st' : Standing π ω ρ} (change : Change bridge key st move st')
    (isOver : st.Over) : st'.Over := by
  obtain ⟨s, result, record, returned⟩ := isOver
  obtain ⟨s', record', turn⟩ := change.turn record
  refine ⟨s', result, record', ?_⟩
  cases turn with
  | stayed | filled => exact returned
  | queued _ early | refused _ early | collected early | expired _ early | left early =>
    rw [returned] at early
    cases early

/-! ### Calls -/

/-- The callbacks that were submitted, in order. -/
def calls (bridge : Bridge π ω ρ) : List (Callback π ω ρ) :=
  bridge.submissions.toList.map (·.callback)

@[simp]
theorem length_calls : bridge.calls.length = bridge.submissions.size := by
  simp [calls]

theorem getElem?_calls : bridge.calls[key]? = (bridge.standing key).submission.map (·.callback) := by
  simp [calls, standing]

theorem calls_draw (callback : Callback π ω ρ) :
    (bridge.draw callback).2.calls = bridge.calls ++ [callback] := by
  simp [calls, draw, place, count]

/-- Nobody else submits a callback, or changes one. -/
theorem calls_of_step (made : bridge.step move = some after)
    (undrawn : ∀ callback, move ≠ .draw callback) : after.calls = bridge.calls := by
  refine List.ext_getElem? fun key => ?_
  rw [getElem?_calls, getElem?_calls]
  exact (step_change made).callback undrawn

/-! ### Entries -/

/-- What was submitted, and what the applications of its functions have come to. -/
def book (bridge : Bridge π ω ρ) : List (Callback π ω ρ × List (Except Fault ρ)) :=
  bridge.submissions.toList.map log

@[simp]
theorem length_book : bridge.book.length = bridge.submissions.size := by
  simp [book]

theorem map_fst_book : bridge.book.map Prod.fst = bridge.calls := by
  simp [book, calls, log, Function.comp_def]

theorem getElem?_book : bridge.book[key]? = (bridge.standing key).submission.map log := by
  simp [book, standing]

theorem getElem?_book_eq_some {entry : Callback π ω ρ × List (Except Fault ρ)} :
    bridge.book[key]? = some entry ↔
      ∃ s, bridge.submissions[key]? = some s ∧ (s.callback, s.outcomes) = entry := by
  rw [getElem?_book]
  exact Option.map_eq_some_iff

/-- A call adds an entry without outcomes. -/
theorem book_draw (callback : Callback π ω ρ) :
    (bridge.draw callback).2.book = bridge.book ++ [(callback, [])] := by
  simp [book, draw, place, count, log]

/-- Nobody else writes in the book, but those who apply functions. -/
theorem book_of_step (made : bridge.step move = some after)
    (undrawn : ∀ callback, move ≠ .draw callback)
    (silent : ∀ key world, move ≠ .begin key world) : after.book = bridge.book := by
  refine List.ext_getElem? fun key => ?_
  rw [getElem?_book, getElem?_book]
  exact (step_change made).log undrawn (silent key)

/-- What an application comes to is what the function does in that world. -/
theorem begin_work {world : ω} {work : Work ω ρ}
    (made : bridge.begin key world = some (work, after)) :
    ∃ s, bridge.submissions[key]? = some s ∧ work = s.callback.invoke world ∧
      after.metrics.routingErrors = bridge.metrics.routingErrors + work.misrouted := by
  cases released : bridge.release key with
  | none => simp [begin, released] at made
  | some release =>
    obtain ⟨ticket, without⟩ := release
    cases record : bridge.submissions[key]? with
    | none => simp [begin, released, record] at made
    | some s =>
      obtain ⟨-, -, rfl⟩ := release_eq_some released
      simp only [begin, released, record, Option.some.injEq, Prod.mk.injEq] at made
      obtain ⟨rfl, rfl⟩ := made
      exact ⟨s, rfl, rfl, rfl⟩

/-- An application adds an outcome to an entry that had none, and changes no other entry. -/
theorem book_begin {world : ω} {work : Work ω ρ} (sound : Sound bridge.timeout (bridge.standing key))
    (made : bridge.begin key world = some (work, after)) :
    ∃ earlier callback later, work = callback.invoke world ∧
      bridge.book = earlier ++ (callback, []) :: later ∧
      after.book = earlier ++ (callback, [work.outcome]) :: later := by
  obtain ⟨s, record, rfl, -⟩ := begin_work made
  have stepped : bridge.step (.begin key world) = some after := by
    rw [step, made, Option.map_some]
  -- The task was held, so its function had not been applied.
  have own : after.book[key]? = some (s.callback, [(s.callback.invoke world).outcome]) ∧
      bridge.book[key]? = some (s.callback, []) := by
    rw [getElem?_book, getElem?_book]
    have change : Change bridge key (bridge.standing key) (.begin key world) (after.standing key) :=
      step_change stepped
    generalize after.standing key = st at change
    cases change with
    | aside other => exact absurd rfl other
    | begun recorded holds =>
      obtain ⟨s', queued, inHand, held, same, -, -, outcomes, -⟩ := sound.of_unit (by omega)
      have recorded' : (bridge.standing key).submission = some s := record
      obtain rfl := Option.some.inj (recorded'.symm.trans recorded)
      rw [same] at recorded
      obtain rfl := Option.some.inj recorded
      simp [recorded', log, outcomes]
  have others : ∀ other, key ≠ other → after.book[other]? = bridge.book[other]? := by
    intro other distinct
    rw [getElem?_book, getElem?_book]
    refine (step_change stepped).log (by simp) fun world same => distinct ?_
    injection same
  have within : key < bridge.book.length := (List.getElem?_eq_some_iff.mp own.2).1
  have replaced : after.book =
      bridge.book.set key (s.callback, [(s.callback.invoke world).outcome]) := by
    refine List.ext_getElem? fun other => ?_
    rw [List.getElem?_set]
    by_cases same : key = other
    · subst same
      rw [if_pos rfl, if_pos within, own.1]
    · rw [if_neg same, others other same]
  refine ⟨bridge.book.take key, s.callback, bridge.book.drop (key + 1), rfl, ?_, ?_⟩
  · have here : bridge.book[key] = (s.callback, []) := (List.getElem?_eq_some_iff.mp own.2).2
    rw [← here, ← List.drop_eq_getElem_cons within, List.take_append_drop]
  · rw [replaced, List.set_eq_take_append_cons_drop, if_pos within]

/-! ### Silence -/

/-- Whether nothing was applied between two states of a bridge. -/
structure Silent (before after : Bridge π ω ρ) : Prop where
  misrouted : after.metrics.routingErrors = before.metrics.routingErrors
  calls : ∃ called : List (Callback π ω ρ),
    after.book = before.book ++ called.map fun callback => (callback, [])

theorem Silent.refl : Silent bridge bridge :=
  ⟨rfl, [], by simp⟩

/-- Only the beginning of a task is an application. -/
theorem silent_of_step (made : bridge.step move = some after)
    (silent : ∀ key world, move ≠ .begin key world) : Silent bridge after := by
  refine ⟨?_, ?_⟩
  · cases move with
    | draw callback | abort =>
      obtain rfl := Option.some.inj made
      rfl
    | push key =>
      obtain ⟨s, -, -, ⟨-, lines, rfl⟩ | ⟨-, rfl⟩⟩ := push_eq_some made <;> rfl
    | collect key =>
      obtain ⟨s, completion, -, -, -, rfl⟩ := collect_eq_some made
      rfl
    | expire key =>
      obtain ⟨s, limit, -, -, -, -, rfl⟩ := expire_eq_some made
      rfl
    | leave key =>
      obtain ⟨s, result, -, -, rfl⟩ := leave_eq_some made
      cases result with
      | ok value => rfl
      | error failure => cases failure <;> rfl
    | take =>
      obtain ⟨dispatcher, lines, -, rfl⟩ := take_eq_some made
      rfl
    | offer reception keeps =>
      obtain ⟨ticket, dispatcher, lines, -, rfl⟩ := offer_eq_some made
      cases keeps <;> rfl
    | settle | retire =>
      obtain ⟨dispatcher, -, rfl⟩ := Option.map_eq_some_iff.mp made
      rfl
    | begin key world => exact absurd rfl (silent key world)
    | advance key timing =>
      obtain ⟨task, -, ⟨-, rfl⟩ | ⟨milestone, rest, -, rfl⟩⟩ := advance_eq_some made
      · rfl
      · cases milestone with
        | counted success => cases success <;> rfl
        | released | ended => rfl
    | drop key =>
      obtain ⟨⟨ticket, without⟩, released, rfl⟩ := Option.map_eq_some_iff.mp made
      obtain ⟨-, -, rfl⟩ := release_eq_some released
      rfl
  · by_cases undrawn : ∀ callback, move ≠ .draw callback
    · exact ⟨[], by rw [book_of_step made undrawn silent, List.map_nil, List.append_nil]⟩
    · push Not at undrawn
      obtain ⟨callback, rfl⟩ := undrawn
      obtain rfl := Option.some.inj made
      exact ⟨[callback], book_draw callback⟩

/-! ### Counting entries -/

/-- The places of a list with a property are as many as the members with that property. -/
theorem card_places {α : Type} (p : α → Bool) (entries : List α) :
    ((Finset.range entries.length).filter fun place => entries[place]?.any p).card =
      entries.countP p := by
  induction entries using List.reverseRecOn with
  | nil => rfl
  | append_singleton entries last ih =>
    have before : (Finset.range entries.length).filter
          (fun place => (entries ++ [last])[place]?.any p) =
        (Finset.range entries.length).filter fun place => entries[place]?.any p := by
      refine Finset.filter_congr fun place member => ?_
      rw [List.getElem?_append_left (Finset.mem_range.mp member)]
    rw [List.length_append, List.length_singleton, Finset.range_add_one, Finset.filter_insert, before,
      List.countP_append, List.countP_singleton, ← ih]
    cases holds : p last with
    | false => simp [holds]
    | true => simp [holds, Finset.card_insert_of_notMem]

/-- A roll that is told by the book has as many submissions as there are such entries. -/
theorem card_roll (account : Account) (p : Callback π ω ρ × List (Except Fault ρ) → Bool)
    (told : ∀ (key : Nat) entry, bridge.book[key]? = some entry →
      (account ∈ (bridge.standing key).accounts ↔ p entry = true)) :
    (bridge.roll account).card = bridge.book.countP p := by
  rw [← card_places]
  unfold roll
  rw [length_book]
  refine congrArg Finset.card (Finset.filter_congr fun key member => ?_)
  have within : key < bridge.book.length := by
    rw [length_book]
    exact Finset.mem_range.mp member
  have entry : bridge.book[key]? = some bridge.book[key] := List.getElem?_eq_getElem within
  rw [told key _ entry, entry, Option.any_some]

end Bridge
end CallbackFerry
