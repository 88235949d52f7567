import CallbackFerry.Drivers.Fleet
import CallbackFerry.Proofs.Drivers.Event

/-!
# The work of a fleet

`launch_cases` says all that a launch can be, and `land_eq_some` what a landing is.  A fleet that
works in a `Steady` way has drawn as many sequence numbers as its threads have launched events, no
thread has launched more than its share, and the first thread has not passed the middle of its share
without reporting the reset.  Launching and landing keep that up (`Steady.launch`, `Steady.land`).

So when all threads are through, every one of them has had its whole share, and the reset has been
reported if there was anything to fire (`Steady.sequence_eq`, `Steady.hasReported_eq`).
-/

namespace CallbackFerry

namespace DriverPhase

/-- How many events a thread has launched. -/
def drawn : DriverPhase → Nat
  | .ready fired _ | .aloft fired _ .reset => fired
  | .aloft fired _ _ => fired + 1
  | .broken => 0

/-- Whether a thread has launched its report of the reset. -/
def reported : DriverPhase → Bool
  | .ready _ reported | .aloft _ reported _ => reported
  | .broken => false

end DriverPhase

namespace Fleet

variable {orders : Orders} {fleet after : Fleet} {index other : Nat} {chance : Chance}
  {old new phase : DriverPhase}

/-! ### Numbers that are due -/

/-- Nothing is ever divided by zero: it is the turn of a callback that breaks off at the multiples
of the interval, if there is one. -/
theorem isDue_eq (faultEvery sequence : Nat) :
    isDue faultEvery sequence = .ok (decide (0 < faultEvery ∧ sequence % faultEvery = 0)) := by
  unfold isDue remainder
  by_cases some : 0 < faultEvery
  · rw [if_pos some, if_neg (Nat.ne_of_gt some)]
    exact congrArg Except.ok (decide_eq_decide.mpr (and_iff_right some)).symm
  · rw [if_neg some, decide_eq_false fun due => some due.1]

/-- A callback that breaks off takes a number if it is due, and an event otherwise. -/
theorem numbered_of_isDue {sequence : Nat} {due : Bool}
    (divided : isDue orders.settings.faultEvery sequence = .ok due) :
    numbered orders sequence chance = if due then .ok (.fault sequence)
      else (RandomEvent.fire orders.opened orders.settings.unknownRatio chance).map .event := by
  unfold numbered
  rw [divided]
  cases due <;> rfl

/-- How often a fault was due, one number later. -/
theorem succ_div_faultEvery (sequence faultEvery : Nat) :
    (sequence + 1) / faultEvery = sequence / faultEvery +
      if 0 < faultEvery ∧ (sequence + 1) % faultEvery = 0 then 1 else 0 := by
  rw [Nat.succ_div]
  congr 1
  refine if_congr ?_ rfl rfl
  rw [Nat.dvd_iff_mod_eq_zero]
  refine ⟨fun due => ⟨?_, due⟩, And.right⟩
  refine Nat.pos_of_ne_zero fun never => ?_
  rw [never, Nat.mod_zero] at due
  cases due

/-! ### Launching and landing -/

/-- What a launch can be: what is launched, if the thread does not break off, and the fleet
afterwards. -/
inductive Launched (orders : Orders) (fleet : Fleet) (index : Nat) (chance : Chance) :
    Option Flight → Fleet → Prop
  /-- The first thread reports the reset, in the middle of its share. -/
  | reset (first : index = 0)
      (ready : fleet.threads[index]? = some (.ready (orders.settings.eventsPerThread / 2) false))
      (left : orders.settings.eventsPerThread / 2 < orders.settings.eventsPerThread) :
      Launched orders fleet index chance (some .reset)
        { fleet with threads :=
            fleet.threads.set! index (.aloft (orders.settings.eventsPerThread / 2) true .reset) }
  /-- It is the turn of a callback that breaks off. -/
  | fault {fired : Nat} {reported : Bool}
      (ready : fleet.threads[index]? = some (.ready fired reported))
      (left : fired < orders.settings.eventsPerThread)
      (undue : resetDue orders index fired reported = false)
      (due : 0 < orders.settings.faultEvery ∧
        (fleet.sequence + 1) % orders.settings.faultEvery = 0) :
      Launched orders fleet index chance (some (.fault (fleet.sequence + 1)))
        { fleet with
          sequence := fleet.sequence + 1
          threads := fleet.threads.set! index
            (.aloft fired reported (.fault (fleet.sequence + 1))) }
  /-- It is the turn of an event. -/
  | event {fired : Nat} {reported : Bool} {event : ChannelEvent}
      (ready : fleet.threads[index]? = some (.ready fired reported))
      (left : fired < orders.settings.eventsPerThread)
      (undue : resetDue orders index fired reported = false)
      (due : ¬ (0 < orders.settings.faultEvery ∧
        (fleet.sequence + 1) % orders.settings.faultEvery = 0))
      (chosen : RandomEvent.fire orders.opened orders.settings.unknownRatio chance = .ok event) :
      Launched orders fleet index chance (some (.event event))
        { fleet with
          sequence := fleet.sequence + 1
          threads := fleet.threads.set! index (.aloft fired reported (.event event)) }
  /-- There is no event to fire, and the thread breaks off. -/
  | broken {fault : Fault}
      (nothing : RandomEvent.fire orders.opened orders.settings.unknownRatio chance = .error fault) :
      Launched orders fleet index chance none
        { fleet with
          sequence := fleet.sequence + 1
          threads := fleet.threads.set! index .broken }

theorem launch_cases {launched : Option Flight}
    (made : fleet.launch orders index chance = some (launched, after)) :
    Launched orders fleet index chance launched after := by
  unfold launch at made
  split at made
  · next fired reported ready =>
    split at made
    · cases made
    · next left =>
      split at made
      · next due =>
        obtain ⟨rfl, rfl⟩ := Prod.mk.inj (Option.some.inj made)
        simp only [resetDue, Bool.and_eq_true, beq_iff_eq, Bool.not_eq_true'] at due
        obtain ⟨⟨first, rfl⟩, rfl⟩ := due
        exact .reset first ready (by omega)
      · next undue =>
        have left : fired < orders.settings.eventsPerThread := by omega
        have undue : resetDue orders index fired reported = false := by simpa using undue
        simp only [numbered_of_isDue (isDue_eq orders.settings.faultEvery (fleet.sequence + 1)),
          decide_eq_true_eq] at made
        by_cases due : 0 < orders.settings.faultEvery ∧
            (fleet.sequence + 1) % orders.settings.faultEvery = 0
        · simp only [if_pos due] at made
          obtain ⟨rfl, rfl⟩ := Prod.mk.inj (Option.some.inj made)
          exact .fault ready left undue due
        · simp only [if_neg due] at made
          cases chosen : RandomEvent.fire orders.opened orders.settings.unknownRatio chance with
          | error fault =>
            simp only [chosen, Except.map] at made
            obtain ⟨rfl, rfl⟩ := Prod.mk.inj (Option.some.inj made)
            exact .broken chosen
          | ok event =>
            simp only [chosen, Except.map] at made
            obtain ⟨rfl, rfl⟩ := Prod.mk.inj (Option.some.inj made)
            exact .event ready left undue due chosen
  · cases made

/-- With a ratio that is a share of a whole no thread breaks off. -/
theorem Launched.exists_flight {launched : Option Flight}
    (valid : orders.settings.unknownRatio.isProbability = true)
    (made : Launched orders fleet index chance launched after) :
    ∃ flight, launched = some flight := by
  cases made with
  | broken nothing =>
    obtain ⟨event, chosen⟩ := RandomEvent.exists_fire valid chance
    rw [nothing] at chosen
    cases chosen
  | _ => exact ⟨_, rfl⟩

/-- A thread that launches something was ready and waits for it now. -/
theorem Launched.threads {flight : Flight}
    (made : Launched orders fleet index chance (some flight) after) :
    ∃ fired reported fired' reported', fired < orders.settings.eventsPerThread ∧
      fleet.threads[index]? = some (.ready fired reported) ∧
        after.threads = fleet.threads.set! index (.aloft fired' reported' flight) := by
  cases made with
  | reset first ready left | fault ready left | event ready left =>
    exact ⟨_, _, _, _, left, ready, rfl⟩

/-- A thread that lands has launched what it has launched, and is ready again. -/
theorem land_eq_some {result : Except Failure Bool} (made : fleet.land index result = some after) :
    ∃ fired reported flight, fleet.threads[index]? = some (.aloft fired reported flight) ∧
      after = { fleet with
        threads := fleet.threads.set! index
          (.ready (DriverPhase.aloft fired reported flight).drawn reported)
        totals := DriverTotals.add flight result fleet.totals } := by
  unfold land at made
  split at made
  · next fired reported flight aloft =>
    refine ⟨fired, reported, flight, aloft, ?_⟩
    obtain rfl := Option.some.inj made
    cases flight <;> rfl
  · cases made

/-! ### All threads together -/

/-- How many events some threads have launched together. -/
def drawnBy (phases : List DriverPhase) : Nat :=
  phases.foldr (fun phase sum => phase.drawn + sum) 0

theorem drawnBy_set {phases : List DriverPhase} (new : DriverPhase)
    (here : phases[index]? = some old) :
    drawnBy (phases.set index new) + old.drawn = drawnBy phases + new.drawn := by
  induction phases generalizing index with
  | nil => simp at here
  | cons first rest ih =>
    cases index with
    | zero =>
      obtain rfl : first = old := by simpa using here
      simp only [List.set_cons_zero, drawnBy, List.foldr_cons]
      omega
    | succ index =>
      have later := ih (by simpa using here)
      simp only [List.set_cons_succ, drawnBy, List.foldr_cons] at later ⊢
      omega

theorem drawnBy_eq_mul {phases : List DriverPhase} {share : Nat}
    (all : ∀ phase ∈ phases, phase.drawn = share) : drawnBy phases = phases.length * share := by
  induction phases with
  | nil => simp [drawnBy]
  | cons first rest ih =>
    have rest_eq := ih fun phase member => all phase (List.mem_cons_of_mem _ member)
    rw [drawnBy, List.foldr_cons, ← drawnBy, rest_eq, all first List.mem_cons_self, List.length_cons,
      Nat.succ_mul, Nat.add_comm]

theorem drawnBy_le_mul {phases : List DriverPhase} {share : Nat}
    (all : ∀ phase ∈ phases, phase.drawn ≤ share) : drawnBy phases ≤ phases.length * share := by
  induction phases with
  | nil => exact Nat.zero_le _
  | cons first rest ih =>
    have rest_le := ih fun phase member => all phase (List.mem_cons_of_mem _ member)
    have first_le := all first List.mem_cons_self
    rw [drawnBy, List.foldr_cons, ← drawnBy, List.length_cons, Nat.succ_mul]
    omega

/-- Whether the first thread has launched its report of the reset. -/
def hasReported (fleet : Fleet) : Bool :=
  fleet.threads[0]?.any DriverPhase.reported

theorem hasReported_set (here : fleet.threads[index]? = some old) (sequence : Nat)
    (totals : DriverTotals) : hasReported ⟨fleet.threads.set! index new, sequence, totals⟩ =
      if index = 0 then new.reported else fleet.hasReported := by
  have within : index < fleet.threads.size := (Array.getElem?_eq_some_iff.mp here).1
  unfold hasReported
  dsimp only
  rw [Array.set!_eq_setIfInBounds, Array.getElem?_setIfInBounds]
  by_cases first : index = 0
  · subst first
    simp [within]
  · simp [first]

/-- A thread that is about as before leaves it as it is whether the reset was reported. -/
theorem hasReported_set_eq (here : fleet.threads[index]? = some old)
    (same : new.reported = old.reported) (sequence : Nat) (totals : DriverTotals) :
    hasReported ⟨fleet.threads.set! index new, sequence, totals⟩ = fleet.hasReported := by
  rw [hasReported_set here]
  split
  · next first =>
    subst first
    rw [same, hasReported, here, Option.any_some]
  · rfl

/-- What a launch draws, and what it reports. -/
theorem Launched.numbers {flight : Flight}
    (made : Launched orders fleet index chance (some flight) after) :
    (flight = .reset ∧ after.sequence = fleet.sequence ∧ fleet.hasReported = false ∧
        after.hasReported = true) ∨
      (after.sequence = fleet.sequence + 1 ∧ after.hasReported = fleet.hasReported ∧
        if 0 < orders.settings.faultEvery ∧
            (fleet.sequence + 1) % orders.settings.faultEvery = 0 then
          flight = .fault (fleet.sequence + 1)
        else ∃ event, flight = .event event) := by
  cases made with
  | reset first ready left =>
    refine .inl ⟨rfl, rfl, ?_, ?_⟩
    · subst first
      rw [hasReported, ready]
      rfl
    · rw [hasReported_set ready, if_pos first]
      rfl
  | fault ready left undue due =>
    refine .inr ⟨rfl, hasReported_set_eq ready ?_ .., ?_⟩
    · rfl
    · rw [if_pos due]
  | event ready left undue due chosen =>
    refine .inr ⟨rfl, hasReported_set_eq ready ?_ .., ?_⟩
    · rfl
    · rw [if_neg due]
      exact ⟨_, rfl⟩

/-- A landing draws nothing, and reports nothing. -/
theorem land_numbers {result : Except Failure Bool} (made : fleet.land index result = some after) :
    after.sequence = fleet.sequence ∧ after.hasReported = fleet.hasReported := by
  obtain ⟨fired, reported, flight, aloft, rfl⟩ := land_eq_some made
  refine ⟨rfl, hasReported_set_eq aloft ?_ ..⟩
  rfl

/-! ### Steady work -/

/-- Whether a thread keeps to its share, and the first one reports the reset in time. -/
structure Proper (orders : Orders) (index : Nat) (phase : DriverPhase) : Prop where
  unbroken : phase ≠ .broken
  share : phase.drawn ≤ orders.settings.eventsPerThread
  inTime : index = 0 → orders.settings.eventsPerThread / 2 < phase.drawn → phase.reported = true
  purpose : phase.reported = true → 0 < orders.settings.eventsPerThread

/-- Whether all threads keep to their shares, and have drawn all numbers that were drawn. -/
structure Steady (orders : Orders) (fleet : Fleet) : Prop where
  size : fleet.threads.size = orders.settings.threads
  proper : ∀ (index : Nat) phase, fleet.threads[index]? = some phase → Proper orders index phase
  sequence : drawnBy fleet.threads.toList = fleet.sequence

theorem steady_ofSettings : Steady orders (ofSettings orders.settings) := by
  refine ⟨by simp [ofSettings], fun index phase here => ?_, ?_⟩
  · obtain ⟨within, rfl⟩ := Array.getElem?_eq_some_iff.mp here
    simp only [ofSettings, Array.getElem_replicate]
    exact ⟨by simp, Nat.zero_le _, fun _ past => absurd past (Nat.not_lt_zero _), by
      simp [DriverPhase.reported]⟩
  · have none : ∀ phase ∈ (ofSettings orders.settings).threads.toList, phase.drawn = 0 := by
      intro phase member
      rw [ofSettings, Array.toList_replicate] at member
      rw [List.eq_of_mem_replicate member, DriverPhase.drawn]
    rw [drawnBy_eq_mul none]
    rfl

theorem hasReported_ofSettings (settings : DriverSettings) :
    (ofSettings settings).hasReported = false := by
  rw [hasReported, ofSettings, Array.getElem?_replicate]
  split <;> rfl

/-- A thread may change its phase if it draws the numbers that are drawn. -/
theorem Steady.set (steady : Steady orders fleet) {sequence : Nat} (totals : DriverTotals)
    (here : fleet.threads[index]? = some old) (proper : Proper orders index new)
    (drawn : sequence + old.drawn = fleet.sequence + new.drawn) :
    Steady orders ⟨fleet.threads.set! index new, sequence, totals⟩ := by
  have within : index < fleet.threads.size := (Array.getElem?_eq_some_iff.mp here).1
  refine ⟨by simpa using steady.size, fun other phase there => ?_, ?_⟩
  · rw [Array.set!_eq_setIfInBounds, Array.getElem?_setIfInBounds] at there
    by_cases same : index = other
    · subst same
      rw [if_pos rfl, if_pos within] at there
      exact Option.some.inj there ▸ proper
    · rw [if_neg same] at there
      exact steady.proper other phase there
  · have there : fleet.threads.toList[index]? = some old := by simpa using here
    have sums := drawnBy_set new there
    have total := steady.sequence
    rw [Array.set!_eq_setIfInBounds, Array.toList_setIfInBounds]
    show drawnBy (fleet.threads.toList.set index new) = sequence
    omega

/-- A thread that launches something keeps to its share. -/
theorem Steady.launch (steady : Steady orders fleet) {flight : Flight}
    (made : Launched orders fleet index chance (some flight) after) : Steady orders after := by
  have undue {fired : Nat} {reported : Bool} (undue : resetDue orders index fired reported = false)
      (first : index = 0) (half : fired = orders.settings.eventsPerThread / 2) : reported = true := by
    simpa [resetDue, first, half] using undue
  cases made with
  | reset first ready left =>
    refine steady.set fleet.totals ready ⟨by simp, ?_, fun _ _ => rfl, fun _ => ?_⟩ rfl
    · exact Nat.le_of_lt left
    · exact Nat.zero_lt_of_lt left
  | @fault fired reported ready left due | @event fired reported _ ready left due =>
    have before := steady.proper index _ ready
    refine steady.set fleet.totals ready ⟨by simp, left, fun first past => ?_, before.purpose⟩ ?_
    · -- Beyond the middle it had reported already, and in the middle it is not due to.
      change orders.settings.eventsPerThread / 2 < fired + 1 at past
      by_cases half : fired = orders.settings.eventsPerThread / 2
      · exact undue due first half
      · exact before.inTime first (by simp only [DriverPhase.drawn]; omega)
    · simp only [DriverPhase.drawn]
      omega

/-- A thread that lands keeps to its share. -/
theorem Steady.land (steady : Steady orders fleet) {result : Except Failure Bool}
    (made : fleet.land index result = some after) : Steady orders after := by
  obtain ⟨fired, reported, flight, aloft, rfl⟩ := land_eq_some made
  have before := steady.proper index _ aloft
  exact steady.set _ aloft ⟨by simp, before.share, before.inTime, before.purpose⟩ rfl

/-- No more numbers are drawn than there are in all shares together. -/
theorem Steady.sequence_le (steady : Steady orders fleet) :
    fleet.sequence ≤ orders.settings.threads * orders.settings.eventsPerThread := by
  rw [← steady.sequence, ← steady.size, ← Array.length_toList]
  refine drawnBy_le_mul fun phase member => ?_
  obtain ⟨index, within, rfl⟩ := List.mem_iff_getElem.mp member
  exact (steady.proper index _ (by simp)).share

/-- Without events there is nothing in the middle of which the reset could be reported. -/
theorem Steady.some_of_hasReported (steady : Steady orders fleet)
    (reported : fleet.hasReported = true) : 0 < orders.settings.eventsPerThread := by
  obtain ⟨phase, here, told⟩ := Option.any_eq_true _ _ |>.mp reported
  exact (steady.proper 0 phase here).purpose told

/-! ### The end -/

/-- A thread that is through has fired as many events as there are in a share. -/
theorem le_of_isThrough (through : fleet.isThrough orders = true)
    (here : fleet.threads[index]? = some phase) :
    ∃ fired reported, phase = .ready fired reported ∧ orders.settings.eventsPerThread ≤ fired := by
  obtain ⟨within, rfl⟩ := Array.getElem?_eq_some_iff.mp here
  have own := Array.all_eq_true.mp through index within
  generalize fleet.threads[index] = phase at own
  cases phase with
  | ready fired reported => exact ⟨fired, reported, rfl, of_decide_eq_true own⟩
  | aloft | broken => cases own

/-- When all threads are through, all shares have been drawn. -/
theorem Steady.sequence_eq (steady : Steady orders fleet) (through : fleet.isThrough orders = true) :
    fleet.sequence = orders.settings.threads * orders.settings.eventsPerThread := by
  rw [← steady.sequence, ← steady.size, ← Array.length_toList]
  refine drawnBy_eq_mul fun phase member => ?_
  obtain ⟨index, within, rfl⟩ := List.mem_iff_getElem.mp member
  have here : fleet.threads[index]? = some fleet.threads.toList[index] := by simp
  obtain ⟨fired, reported, same, enough⟩ := le_of_isThrough through here
  have share := (steady.proper index _ here).share
  rw [same] at share ⊢
  exact Nat.le_antisymm share enough

/-- When all threads are through, the reset has been reported if there was anything to fire. -/
theorem Steady.hasReported_eq (steady : Steady orders fleet) (through : fleet.isThrough orders = true)
    (manned : 0 < orders.settings.threads) :
    fleet.hasReported = decide (0 < orders.settings.eventsPerThread) := by
  have within : 0 < fleet.threads.size := steady.size ▸ manned
  have here : fleet.threads[0]? = some fleet.threads[0] := Array.getElem?_eq_getElem within
  obtain ⟨fired, reported, same, enough⟩ := le_of_isThrough through here
  have proper := steady.proper 0 _ here
  rw [hasReported, here, Option.any_some, Bool.eq_iff_iff, decide_eq_true_iff]
  refine ⟨proper.purpose, fun some => proper.inTime rfl ?_⟩
  rw [same, DriverPhase.drawn]
  omega

end Fleet
end CallbackFerry
