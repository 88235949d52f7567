import CallbackFerry.Proofs.Bridge.Results
import CallbackFerry.Proofs.Drivers.Log
import CallbackFerry.Simulation
import Mathlib.Data.List.Basic

/-!
# The totals of a fleet

Which thread draws which number depends on the order in which the threads go on, and so does which
of them launches the callbacks that break off.  What all of them have done together when they are
through depends neither on that order nor on what their flights came to (`accomplished_of_through`):

* every number was drawn once, and the callbacks that break off have the numbers that are due;
* all other numbers went to events, each of which was counted as handled or as unhandled;
* the callbacks that break off were counted as well, but for those that were abandoned or that their
  threads stopped waiting for;
* the reset was reported once, by the first thread, in the middle of its share;
* no counter was ever beyond the number of the events (`fits_of_mem`).

A callback that breaks off has no result, so its thread cannot be told of one.  What a thread can be
told about a flight is `Flight.EndsWith`, and `endsWith_of_reached` shows that a bridge tells
nothing else.
-/

namespace CallbackFerry

namespace Orders

/-- How many sequence numbers the threads draw. -/
def events (orders : Orders) : Nat :=
  orders.settings.threads * orders.settings.eventsPerThread

/-- How many of the numbers go to callbacks that break off: none if no interval is set. -/
def faults (orders : Orders) : Nat :=
  orders.events / orders.settings.faultEvery

/-- Whether a number goes to a callback that breaks off. -/
def isDue (orders : Orders) (sequence : Nat) : Bool :=
  match Fleet.isDue orders.settings.faultEvery sequence with
  | .ok due => due
  | .error _ => false

theorem filter_isDue_singleton (orders : Orders) (sequence : Nat) :
    [sequence].filter orders.isDue =
      if 0 < orders.settings.faultEvery ∧ sequence % orders.settings.faultEvery = 0 then [sequence]
      else [] := by
  rw [List.filter_singleton, isDue, Fleet.isDue_eq, Bool.cond_decide]

/-- The numbers that are due are the multiples of the interval. -/
theorem filter_isDue (orders : Orders) (count : Nat) :
    (List.range' 1 count).filter orders.isDue =
      (List.range (count / orders.settings.faultEvery)).map fun index =>
        (index + 1) * orders.settings.faultEvery := by
  induction count with
  | zero => rw [Nat.zero_div]; rfl
  | succ count ih =>
    have quotient := Fleet.succ_div_faultEvery count orders.settings.faultEvery
    rw [List.range'_1_concat, List.filter_append, ih, Nat.add_comm 1 count, quotient,
      filter_isDue_singleton]
    by_cases due : 0 < orders.settings.faultEvery ∧ (count + 1) % orders.settings.faultEvery = 0
    · -- The quotient grows by one, and the number is that multiple of the interval.
      rw [if_pos due] at quotient ⊢
      have multiple : (count / orders.settings.faultEvery + 1) * orders.settings.faultEvery
          = count + 1 := by
        rw [← quotient]
        exact Nat.div_mul_cancel (Nat.dvd_of_mod_eq_zero due.2)
      rw [if_pos due, List.range_succ, List.map_append, List.map_singleton, multiple]
    · rw [if_neg due, if_neg due, List.append_nil, Nat.add_zero]

end Orders

/-! ### How flights end -/

namespace Flight

/-- The number of a callback that breaks off. -/
def breaks? : Flight → Option Nat
  | .fault sequence => some sequence
  | .reset | .event _ => none

/-- Whether a flight is an event. -/
def isEvent : Flight → Bool
  | .event _ => true
  | .reset | .fault _ => false

/-- Whether a thread can be told this about a flight: a value or a fault only if the flight has come
to that in some host. -/
def EndsWith (flight : Flight) : Except Failure Bool → Prop
  | .ok value => ∃ host, (flight.run host).outcome = .ok value
  | .error (.fault text) => ∃ host cause, (flight.run host).outcome = .error cause ∧ cause.text = text
  | .error failure =>
    failure = .abandoned ∨ failure = .shutDown ∨ ∃ limit, failure = .timeout limit

/-- Whether a landing is that of a callback that breaks off, and the totals tell of it. -/
def counted : Trip → Bool
  | (.fault _, .error (.fault _)) | (.fault _, .error .shutDown) => true
  | _ => false

/-- Whether a landing is that of a callback that breaks off and was abandoned or came too late. -/
def missed : Trip → Bool
  | (.fault _, .error .abandoned) | (.fault _, .error (.timeout _)) => true
  | _ => false

theorem counted_or_missed {sequence : Nat} {result : Except Failure Bool}
    (credible : (Flight.fault sequence).EndsWith result) :
    counted (.fault sequence, result) = !missed (.fault sequence, result) := by
  cases result with
  | ok value =>
    -- It breaks off in every host.
    obtain ⟨host, returned⟩ := credible
    cases returned
  | error failure =>
    cases failure with
    | fault | abandoned | timeout | shutDown => rfl
    | _ =>
      rcases credible with same | same | ⟨limit, same⟩ <;> cases same

/-- Every callback that breaks off was counted or missed. -/
theorem countP_breaks {landings : List Trip}
    (credible : ∀ trip ∈ landings, trip.1.EndsWith trip.2) :
    landings.countP (·.1.breaks?.isSome) = landings.countP counted + landings.countP missed := by
  induction landings with
  | nil => rfl
  | cons trip rest ih =>
    have later := ih fun trip member => credible trip (List.mem_cons_of_mem _ member)
    have first := credible trip List.mem_cons_self
    obtain ⟨flight, result⟩ := trip
    rw [List.countP_cons, List.countP_cons, List.countP_cons, later]
    cases flight with
    | reset | event => rfl
    | fault sequence =>
      rw [counted_or_missed first]
      cases missed (.fault sequence, result) <;> simp only [breaks?, Option.isSome_some,
        Bool.not_true, Bool.not_false, if_true, Bool.false_eq_true, if_false] <;> omega

theorem countP_counted_le (landings : List Trip) :
    landings.countP counted ≤ landings.countP (·.1.breaks?.isSome) := by
  refine List.countP_mono_left fun trip _ counted => ?_
  obtain ⟨flight, result⟩ := trip
  cases flight with
  | fault => rfl
  | reset | event => cases counted

/-- A bridge tells a thread nothing else about a flight. -/
theorem endsWith_of_reached {settings : BridgeSettings} {flight : Flight} {key : Nat}
    {past : List (Moment (Bridge Flight (Host Device) Bool) (Bridge.Move Flight (Host Device) Bool))}
    {now : Bridge Flight (Host Device) Bool} {s : Submission Flight (Host Device) Bool}
    {result : Except Failure Bool} (reached : Bridge.Reached settings past now)
    (record : now.submissions[key]? = some s) (called : s.callback = flight.callback)
    (told : s.caller.result? = some result) : flight.EndsWith result := by
  have sound := Bridge.sound_of_reached reached key
  rcases sound.result_cases record told with ⟨rfl, -⟩ | ⟨limit, rfl⟩ | ⟨completion, rfl⟩
  · exact .inr (.inl rfl)
  · exact .inr (.inr ⟨limit, rfl⟩)
  · rcases Bridge.explained_of_filled reached record completion (.inr told) with
      ⟨rfl, -⟩ | ⟨host, -, rfl⟩
    · exact .inl rfl
    · have run : s.callback.function s.callback.payload host = flight.run host := by
        rw [called]
        rfl
      rw [run]
      cases outcome : (flight.run host).outcome with
      | ok value => exact ⟨host, outcome⟩
      | error cause => exact ⟨host, cause, outcome, rfl⟩

end Flight

namespace Fleet

variable {orders : Orders} {fleet now after : Fleet} {turn : Turn} {past : List (Moment Fleet Turn)}
  {thread : Nat} {flight : Flight} {result : Except Failure Bool} {old : DriverPhase}

/-! ### What the log says of all threads -/

/-- The number that was drawn in a moment, if one was. -/
def drawn (orders : Orders) (moment : Moment Fleet Turn) : Option Nat :=
  (moment.before.step orders moment.move).bind fun after =>
    if moment.before.sequence < after.sequence then some after.sequence else none

/-- The numbers that were drawn, oldest first. -/
def draws (orders : Orders) (past : List (Moment Fleet Turn)) : List Nat :=
  past.filterMap (drawn orders)

/-- What was launched, oldest first. -/
def launches (orders : Orders) (past : List (Moment Fleet Turn)) : List Flight :=
  (log orders past).filterMap (·.2.launched?)

/-- What landed, oldest first, each with its result. -/
def landings (orders : Orders) (past : List (Moment Fleet Turn)) :
    List Trip :=
  (log orders past).filterMap (·.2.landed?)

/-- The flight that a thread waits for. -/
def flight? : DriverPhase → Option Flight
  | .aloft _ _ flight => some flight
  | .ready .. | .broken => none

/-- How many threads wait for a flight of a kind. -/
def aloft (kind : Flight → Bool) (fleet : Fleet) : Nat :=
  fleet.threads.countP fun phase => (flight? phase).any kind

theorem aloft_set (kind : Flight → Bool) (new : DriverPhase)
    (here : fleet.threads[thread]? = some old) (sequence : Nat) (totals : DriverTotals) :
    aloft kind ⟨fleet.threads.set! thread new, sequence, totals⟩ +
        (if (flight? old).any kind then 1 else 0) =
      fleet.aloft kind + if (flight? new).any kind then 1 else 0 := by
  obtain ⟨within, rfl⟩ := Array.getElem?_eq_some_iff.mp here
  have present :=
    Array.boole_getElem_le_countP (p := fun phase => (flight? phase).any kind) within
  unfold aloft
  dsimp only
  rw [Array.set!_eq_setIfInBounds, Array.setIfInBounds, dif_pos within, Array.countP_set]
  omega

theorem aloft_of_isThrough (kind : Flight → Bool) (through : now.isThrough orders = true) :
    now.aloft kind = 0 := by
  rw [aloft, Array.countP_eq_zero]
  intro phase member
  obtain ⟨index, within, rfl⟩ := Array.mem_iff_getElem.mp member
  obtain ⟨fired, reported, same, -⟩ :=
    le_of_isThrough through (Array.getElem?_eq_getElem within)
  rw [same]
  exact Bool.false_ne_true

/-- What the log and the totals say of all threads together. -/
structure Tallied (orders : Orders) (past : List (Moment Fleet Turn)) (now : Fleet) : Prop where
  /-- The numbers were drawn one after the other. -/
  numbers : draws orders past = List.range' 1 now.sequence
  /-- Those that are due went to callbacks that break off, -/
  breaks : (launches orders past).filterMap Flight.breaks? =
    (List.range' 1 now.sequence).filter orders.isDue
  /-- and the others to events. -/
  events : (launches orders past).countP Flight.isEvent +
    ((launches orders past).filterMap Flight.breaks?).length = now.sequence
  /-- Nothing else was launched but the reset. -/
  resets : (launches orders past).countP (· = .reset) = if now.hasReported then 1 else 0
  /-- What was launched has landed or is waited for. -/
  landed : ∀ kind : Flight → Bool, (launches orders past).countP kind =
    (landings orders past).countP (kind ·.1) + now.aloft kind
  /-- All events that landed were handled or not. -/
  handled : now.totals.handled + now.totals.unhandled =
    (landings orders past).countP (·.1.isEvent)
  /-- The callbacks that break off were counted if they ended as expected. -/
  faults : now.totals.faults + now.totals.rejected = (landings orders past).countP Flight.counted

theorem tallied_ofSettings (settings : DriverSettings) :
    Tallied orders [] (ofSettings settings) := by
  refine ⟨rfl, rfl, rfl, ?_, fun kind => ?_, rfl, rfl⟩
  · rw [hasReported_ofSettings]
    rfl
  · have none : (ofSettings settings).aloft kind = 0 := by
      rw [aloft, Array.countP_eq_zero]
      intro phase member
      rw [(Array.mem_replicate.mp member).2]
      exact Bool.false_ne_true
    rw [none]
    rfl

theorem launches_concat {deed : Deed} (told : entry orders ⟨fleet, turn⟩ = some (thread, deed)) :
    launches orders (past ++ [⟨fleet, turn⟩]) = launches orders past ++ deed.launched?.toList := by
  rw [launches, log, Run.filterMap_concat, told, List.filterMap_append]
  cases deed <;> rfl

theorem landings_concat {deed : Deed} (told : entry orders ⟨fleet, turn⟩ = some (thread, deed)) :
    landings orders (past ++ [⟨fleet, turn⟩]) = landings orders past ++ deed.landed?.toList := by
  rw [landings, log, Run.filterMap_concat, told, List.filterMap_append]
  cases deed <;> rfl

theorem draws_concat (made : fleet.step orders turn = some after) :
    draws orders (past ++ [⟨fleet, turn⟩]) = draws orders past ++
      if fleet.sequence < after.sequence then [after.sequence] else [] := by
  rw [draws, Run.filterMap_concat, drawn, made, Option.bind_some]
  split <;> rfl

theorem of_numbered {sequence : Nat} (kind : if 0 < orders.settings.faultEvery ∧
      sequence % orders.settings.faultEvery = 0 then flight = .fault sequence
    else ∃ event, flight = .event event) :
    [flight].filterMap Flight.breaks? = [sequence].filter orders.isDue ∧
      [flight].countP Flight.isEvent + ([flight].filterMap Flight.breaks?).length = 1 ∧
        flight ≠ .reset := by
  rw [Orders.filter_isDue_singleton]
  split at kind
  · next due =>
    rw [kind, if_pos due]
    exact ⟨rfl, rfl, Flight.noConfusion⟩
  · next undue =>
    obtain ⟨event, rfl⟩ := kind
    rw [if_neg undue]
    exact ⟨rfl, rfl, Flight.noConfusion⟩

theorem Launched.aloft_eq {chance : Chance}
    (made : Launched orders fleet thread chance (some flight) after) (kind : Flight → Bool) :
    after.aloft kind = fleet.aloft kind + if kind flight then 1 else 0 := by
  obtain ⟨fired, reported, fired', reported', -, ready, threads⟩ := made.threads
  have sums := aloft_set kind (.aloft fired' reported' flight) ready after.sequence after.totals
  rw [← threads] at sums
  exact sums

theorem Tallied.launch {chance : Chance} (tallied : Tallied orders past fleet)
    (step : fleet.step orders turn = some after)
    (told : entry orders ⟨fleet, turn⟩ = some (thread, .launch flight))
    (made : Launched orders fleet thread chance (some flight) after)
    (totals : after.totals = fleet.totals) : Tallied orders (past ++ [⟨fleet, turn⟩]) after := by
  have launched : launches orders (past ++ [⟨fleet, turn⟩]) = launches orders past ++ [flight] :=
    launches_concat told
  have landed : landings orders (past ++ [⟨fleet, turn⟩]) = landings orders past :=
    (landings_concat told).trans (List.append_nil _)
  have waits : ∀ kind : Flight → Bool, (launches orders past ++ [flight]).countP kind =
      (landings orders past).countP (kind ·.1) + after.aloft kind := by
    intro kind
    rw [List.countP_append, tallied.landed kind, made.aloft_eq kind, List.countP_singleton,
      Nat.add_assoc]
  obtain ⟨numbers, breaks, events, resets, -, handled, faults⟩ := tallied
  rcases made.numbers with ⟨rfl, same, before, reported⟩ | ⟨more, reported, kind⟩
  · -- A reset takes no number.
    have none : (launches orders past ++ [Flight.reset]).filterMap Flight.breaks? =
        (launches orders past).filterMap Flight.breaks? := by
      rw [List.filterMap_append]
      exact List.append_nil _
    refine ⟨?_, ?_, ?_, ?_, fun kind => ?_, ?_, ?_⟩
    · rw [draws_concat step, same, if_neg (Nat.lt_irrefl _), List.append_nil, numbers]
    · rw [launched, none, same, breaks]
    · rw [launched, none, same, List.countP_append]
      exact events
    · rw [launched, reported, List.countP_append, resets, before]
      rfl
    · rw [launched, landed, waits]
    · rw [totals, landed, handled]
    · rw [totals, landed, faults]
  · -- Anything else takes the next number.
    have range : List.range' 1 (fleet.sequence + 1) =
        List.range' 1 fleet.sequence ++ [fleet.sequence + 1] := by
      rw [List.range'_1_concat, Nat.add_comm 1]
    obtain ⟨own, one, other⟩ := of_numbered kind
    refine ⟨?_, ?_, ?_, ?_, fun kind => ?_, ?_, ?_⟩
    · rw [draws_concat step, more, if_pos (Nat.lt_succ_self _), range, numbers]
    · rw [launched, more, range, List.filterMap_append, List.filter_append, breaks, own]
    · rw [launched, more, List.countP_append, List.filterMap_append, List.length_append]
      omega
    · rw [launched, reported, List.countP_append, resets, List.countP_singleton]
      simp [other]
    · rw [launched, landed, waits]
    · rw [totals, landed, handled]
    · rw [totals, landed, faults]

theorem DriverTotals.sums_add (flight : Flight) (result : Except Failure Bool)
    (totals : DriverTotals) :
    (add flight result totals).handled + (add flight result totals).unhandled =
        totals.handled + totals.unhandled + (if flight.isEvent then 1 else 0) ∧
      (add flight result totals).faults + (add flight result totals).rejected =
        totals.faults + totals.rejected + if Flight.counted (flight, result) then 1 else 0 := by
  cases flight with
  | reset => exact ⟨rfl, rfl⟩
  | fault sequence =>
    cases result with
    | ok value => exact ⟨rfl, rfl⟩
    | error failure => cases failure <;> simp [add, Flight.counted, Flight.isEvent] <;> omega
  | event event =>
    cases result with
    | ok value => cases value <;> simp [add, Flight.counted, Flight.isEvent] <;> omega
    | error failure => simp [add, Flight.counted, Flight.isEvent]; omega

theorem Tallied.land {fired : Nat} {reported : Bool} (tallied : Tallied orders past fleet)
    (step : fleet.step orders turn = some after)
    (told : entry orders ⟨fleet, turn⟩ = some (thread, .land flight result))
    (waits : fleet.threads[thread]? = some (.aloft fired reported flight))
    (lands : fleet.land thread result = some after)
    (made : after = { fleet with
      threads := fleet.threads.set! thread
        (.ready (DriverPhase.aloft fired reported flight).drawn reported)
      totals := DriverTotals.add flight result fleet.totals }) :
    Tallied orders (past ++ [⟨fleet, turn⟩]) after := by
  obtain ⟨sequence, hasReported⟩ := land_numbers lands
  have launched : launches orders (past ++ [⟨fleet, turn⟩]) = launches orders past :=
    (launches_concat told).trans (List.append_nil _)
  have landed : landings orders (past ++ [⟨fleet, turn⟩]) =
      landings orders past ++ [(flight, result)] := landings_concat told
  have fewer : ∀ kind : Flight → Bool,
      after.aloft kind + (if kind flight then 1 else 0) = fleet.aloft kind := by
    intro kind
    rw [made]
    exact aloft_set kind _ waits fleet.sequence (DriverTotals.add flight result fleet.totals)
  obtain ⟨handled, faults⟩ := DriverTotals.sums_add flight result fleet.totals
  refine ⟨?_, ?_, ?_, ?_, fun kind => ?_, ?_, ?_⟩
  · rw [draws_concat step, sequence, if_neg (Nat.lt_irrefl _), List.append_nil, tallied.numbers]
  · rw [launched, sequence, tallied.breaks]
  · rw [launched, sequence, tallied.events]
  · rw [launched, hasReported, tallied.resets]
  · rw [launched, landed, tallied.landed kind, ← fewer kind, List.countP_append,
      List.countP_singleton]
    dsimp only
    omega
  · rw [landed, List.countP_append, List.countP_singleton, ← tallied.handled, ← handled, made]
  · rw [landed, List.countP_append, List.countP_singleton, ← tallied.faults, ← faults, made]

/-- As long as no thread has broken off, the log and the totals agree. -/
theorem tallied_of_run (run : Run (step orders) (ofSettings orders.settings) past now)
    (unbroken : now.Unbroken) : Tallied orders past now := by
  induction run with
  | start => exact tallied_ofSettings orders.settings
  | next run made ih =>
    have before := ih (unbroken.before made)
    cases step_turned made with
    | launched told launches => exact before.launch made told launches (by cases launches <;> rfl)
    | landed told aloft lands same => exact before.land made told aloft lands same
    | broken told within threads => exact absurd unbroken (not_unbroken_of_set within threads)

/-! ### How far counters go -/

/-- Whether the counters of a fleet have not gone beyond the number of its events. -/
structure Fits (orders : Orders) (fleet : Fleet) : Prop where
  sequence : fleet.sequence ≤ orders.events
  totals : fleet.totals.handled + fleet.totals.unhandled + fleet.totals.faults +
    fleet.totals.rejected ≤ fleet.sequence

/-- The totals tell of flights that have drawn a number, each once. -/
theorem Tallied.totals_le (tallied : Tallied orders past now) :
    now.totals.handled + now.totals.unhandled + now.totals.faults + now.totals.rejected ≤
      now.sequence := by
  obtain ⟨-, -, events, -, landed, handled, faults⟩ := tallied
  have fired := landed Flight.isEvent
  have broken := landed fun flight => flight.breaks?.isSome
  have counted := Flight.countP_counted_le (landings orders past)
  rw [List.length_filterMap_eq_countP] at events
  omega

theorem fits_of_run (run : Run (step orders) (ofSettings orders.settings) past now)
    (unbroken : now.Unbroken) : Fits orders now :=
  ⟨(steady_of_run run unbroken).sequence_le, (tallied_of_run run unbroken).totals_le⟩

/-- The counters of a fleet have never been beyond the number of its events. -/
theorem fits_of_mem (run : Run (step orders) (ofSettings orders.settings) past now)
    (unbroken : now.Unbroken) : ∀ moment ∈ past, Fits orders moment.before := by
  induction run with
  | start => exact nofun
  | next run made ih =>
    have before := unbroken.before made
    intro moment member
    rcases List.mem_append.mp member with earlier | last
    · exact ih before moment earlier
    · rw [List.mem_singleton.mp last]
      exact fits_of_run run before

/-! ### When all threads are through -/

theorem unbroken_of_isThrough (through : now.isThrough orders = true) : now.Unbroken := by
  intro thread broken
  obtain ⟨fired, reported, same, -⟩ := le_of_isThrough through broken
  cases same

/-- A thread that is through has fired its share, and landed every time before it launched again. -/
theorem share_of_isThrough (run : Run (step orders) (ofSettings orders.settings) past now)
    (through : now.isThrough orders = true) (within : thread < orders.settings.threads) :
    ∃ reported, ∃ trips : List Trip,
      own thread (log orders past) = trips.flatMap legs ∧
        Logged orders thread (.ready orders.settings.eventsPerThread reported)
          (own thread (log orders past)) ∧
        (thread = 0 → 0 < orders.settings.eventsPerThread → reported = true) := by
  have unbroken := unbroken_of_isThrough through
  have steady := steady_of_run run unbroken
  have inside : thread < now.threads.size := steady.size ▸ within
  have here : now.threads[thread]? = some now.threads[thread] := Array.getElem?_eq_getElem inside
  obtain ⟨fired, reported, same, enough⟩ := le_of_isThrough through here
  rw [same] at here
  have proper := steady.proper thread _ here
  have share : fired ≤ orders.settings.eventsPerThread := proper.share
  obtain rfl : fired = orders.settings.eventsPerThread := Nat.le_antisymm share enough
  have logged := logged_of_run run unbroken thread _ here
  obtain ⟨trips, paired⟩ := logged.paired
  refine ⟨reported, trips, paired.trans (List.append_nil _), logged, fun first some => ?_⟩
  refine proper.inTime first ?_
  change orders.settings.eventsPerThread / 2 < orders.settings.eventsPerThread
  omega

/-- Whether a thread has reported the reset once, between the two halves of its share. -/
def Halved (orders : Orders) (deeds : List Deed) : Prop :=
  ∃ (first rest : List Trip) (result : Except Failure Bool),
    deeds = first.flatMap legs ++ legs (.reset, result) ++ rest.flatMap legs ∧
      first.length = orders.settings.eventsPerThread / 2 ∧
      first.length + rest.length = orders.settings.eventsPerThread ∧
      ∀ trip ∈ first ++ rest, trip.1 ≠ .reset

/-- The first thread has reported the reset between the two halves of its share. -/
theorem halved_of_isThrough (run : Run (step orders) (ofSettings orders.settings) past now)
    (through : now.isThrough orders = true) (manned : 0 < orders.settings.threads)
    (some : 0 < orders.settings.eventsPerThread) : Halved orders (own 0 (log orders past)) := by
  obtain ⟨reported, trips, paired, logged, told⟩ := share_of_isThrough run through manned
  obtain ⟨-, before, after, whole, half, early, late⟩ := logged.late (told rfl some)
  have fired : (flights (own 0 (log orders past))).countP numbered? =
      orders.settings.eventsPerThread := logged.fired
  -- The trips split where the flights do.
  have launched : trips.map Prod.fst = before ++ .reset :: after := by
    rw [← whole, paired, flights_legs]
  obtain ⟨first, later, rfl, rfl, cut⟩ := List.map_eq_append_iff.mp launched
  obtain ⟨⟨-, result⟩, rest, rfl, rfl, rfl⟩ := List.map_eq_cons_iff.mp cut
  refine ⟨first, rest, result, ?_, ?_, ?_, fun trip member same => ?_⟩
  · rw [paired, List.flatMap_append, List.flatMap_cons, List.append_assoc]
  · rw [← half, List.length_map]
  · rw [whole, List.countP_append, List.countP_cons, countP_numbered early, countP_numbered late,
      List.length_map, List.length_map] at fired
    exact fired
  · rcases List.mem_append.mp member with inside | inside
    · exact early (same ▸ List.mem_map_of_mem inside)
    · exact late (same ▸ List.mem_map_of_mem inside)

/-- What the threads of a fleet have done when all of them are through. -/
structure Accomplished (orders : Orders) (past : List (Moment Fleet Turn)) (now : Fleet) : Prop where
  /-- Every number was drawn once. -/
  numbers : draws orders past = List.range' 1 orders.events
  /-- The callbacks that break off were launched with the multiples of their interval. -/
  breaks : (launches orders past).filterMap Flight.breaks? =
    (List.range orders.faults).map fun index => (index + 1) * orders.settings.faultEvery
  /-- All other numbers went to events, which were handled or not. -/
  events : now.totals.handled + now.totals.unhandled = orders.events - orders.faults
  /-- No callback that breaks off is counted twice. -/
  faults : now.totals.faults + now.totals.rejected ≤ orders.faults
  /-- Those that are not counted were abandoned or came too late. -/
  missed : (∀ trip ∈ landings orders past, trip.1.EndsWith trip.2) →
    orders.faults - (now.totals.faults + now.totals.rejected) =
      (landings orders past).countP Flight.missed
  /-- Every thread has fired its share, one flight after the other. -/
  shares : ∀ thread < orders.settings.threads, ∃ trips : List Trip,
    own thread (log orders past) = trips.flatMap legs ∧
      (trips.map Prod.fst).countP numbered? = orders.settings.eventsPerThread
  /-- The reset was reported once if there was anything to fire, -/
  resets : (launches orders past).countP (· = .reset) =
    if 0 < orders.settings.eventsPerThread then 1 else 0
  /-- by the first thread, between the two halves of its share. -/
  halved : 0 < orders.settings.eventsPerThread → Halved orders (own 0 (log orders past))
  /-- No counter has ever been beyond the number of the events, so that none has wrapped around if
  that number can be counted to. -/
  fits : Fits orders now ∧ ∀ moment ∈ past, Fits orders moment.before

/-- In whatever order the threads launch and land, and whatever their flights come to, when all of
them are through they have done what the settings ask for. -/
theorem accomplished_of_through (manned : 0 < orders.settings.threads)
    (run : Run (step orders) (ofSettings orders.settings) past now)
    (through : now.isThrough orders = true) : Accomplished orders past now := by
  have unbroken := unbroken_of_isThrough through
  have steady := steady_of_run run unbroken
  obtain ⟨numbers, breaks, events, resets, landed, handled, faults⟩ := tallied_of_run run unbroken
  have drawn : now.sequence = orders.events := steady.sequence_eq through
  have multiples : (launches orders past).filterMap Flight.breaks? =
      (List.range orders.faults).map fun index => (index + 1) * orders.settings.faultEvery := by
    rw [breaks, drawn, orders.filter_isDue]
    rfl
  have count : ((launches orders past).filterMap Flight.breaks?).length = orders.faults := by
    rw [multiples, List.length_map, List.length_range]
  -- Nothing is waited for any more, so what landed is what was launched.
  have back : ∀ kind : Flight → Bool,
      (landings orders past).countP (kind ·.1) = (launches orders past).countP kind := by
    intro kind
    rw [landed kind, aloft_of_isThrough kind through, Nat.add_zero]
  have broken : (landings orders past).countP (·.1.breaks?.isSome) = orders.faults := by
    rw [back fun flight => flight.breaks?.isSome, ← count, List.length_filterMap_eq_countP]
  constructor
  case numbers => rw [numbers, drawn]
  case breaks => exact multiples
  case events =>
    rw [handled, back Flight.isEvent]
    omega
  case faults =>
    rw [faults, ← broken]
    exact Flight.countP_counted_le _
  case missed =>
    intro credible
    have parts := Flight.countP_breaks credible
    omega
  case shares =>
    intro thread within
    obtain ⟨reported, trips, paired, logged, -⟩ := share_of_isThrough run through within
    refine ⟨trips, paired, ?_⟩
    have fired := logged.fired
    rwa [paired, flights_legs] at fired
  case resets =>
    rw [resets, steady.hasReported_eq through manned]
    simp only [decide_eq_true_eq]
  case halved =>
    intro some
    exact halved_of_isThrough run through manned some
  case fits => exact ⟨fits_of_run run unbroken, fits_of_mem run unbroken⟩

/-- Two threads that fire two events each, every second one a fault: the first fault is abandoned,
and the second one comes back. -/
theorem accomplished_of_lost_fault :
    ∃ (orders : Orders) (past : List (Moment Fleet Turn)) (now : Fleet),
    0 < orders.settings.threads ∧ Run (step orders) (ofSettings orders.settings) past now ∧
      now.isThrough orders = true ∧ now.totals = ⟨0, 2, 1, 0⟩ ∧
      (∀ trip ∈ landings orders past, trip.1.EndsWith trip.2) ∧ Accomplished orders past now := by
  let half : Binary64 := .finite false 4503599627370496 (-53)
  let orders : Orders :=
    { settings := { threads := 2, eventsPerThread := 2, faultEvery := 2, unknownRatio := half }
      opened := [⟨3⟩] }
  let chance : Chance := ⟨9223372036854775808, 0, 0, 0, fun _ => 0, 0⟩
  let moves : List Turn := [.launch 0 chance, .launch 1 chance, .land 1 (.error .abandoned),
    .land 0 (.error (.timeout ⟨5⟩)), .launch 1 chance, .launch 0 chance,
    .land 0 (.error .shutDown), .launch 0 chance, .land 1 (.error .abandoned),
    .land 0 (.error (.fault "simulated fault in callback 4"))]
  let past := Run.moments (step orders) (ofSettings orders.settings) moves
  let now := Run.replay (step orders) (ofSettings orders.settings) moves
  have run : Run (step orders) (ofSettings orders.settings) past now := Run.of_moves ..
  have through : now.isThrough orders = true := by decide +kernel
  have totals : now.totals = ⟨0, 2, 1, 0⟩ := by decide +kernel
  have ends : (landings orders past).map (fun trip => (trip.1.breaks?, trip.2)) =
      [(some 2, .error .abandoned), (none, .error (.timeout ⟨5⟩)), (none, .error .shutDown),
        (none, .error .abandoned), (some 4, .error (.fault "simulated fault in callback 4"))] := by
    decide +kernel
  refine ⟨orders, past, now, by decide, run, through, totals, fun trip member => ?_,
    accomplished_of_through (by decide) run through⟩
  have known : (trip.1.breaks?, trip.2) ∈
      (landings orders past).map fun trip => (trip.1.breaks?, trip.2) :=
    List.mem_map.mpr ⟨trip, member, rfl⟩
  rw [ends] at known
  obtain ⟨flight, result⟩ := trip
  simp only [List.mem_cons, Prod.mk.injEq, List.not_mem_nil, or_false] at known
  rcases known with ⟨-, rfl⟩ | ⟨-, rfl⟩ | ⟨-, rfl⟩ | ⟨-, rfl⟩ | ⟨own, rfl⟩
  · exact .inl rfl
  · exact .inr (.inr ⟨⟨5⟩, rfl⟩)
  · exact .inr (.inl rfl)
  · exact .inl rfl
  · cases flight with
    | fault sequence =>
      obtain rfl := Option.some.inj own
      exact ⟨Simulation.host [], _, rfl, rfl⟩
    | reset | event => cases own

end Fleet
end CallbackFerry
