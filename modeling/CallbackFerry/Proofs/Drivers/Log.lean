import CallbackFerry.Proofs.Drivers.Fleet
import CallbackFerry.Proofs.Run

/-!
# The log of a fleet

The threads of a fleet launch and land in any order, and what they launch ends in any way.  The
`log` of a run tells who launched or landed what, oldest first, and what each landing came with.

Whatever the others do, the own entries of a thread come in pairs, a launch and then its landing,
except that the last launch may have no landing yet.  What a thread has launched is as many events
as its phase says and, on the first thread, one report of the reset in the middle of them.  `Logged`
says so of one thread, and `logged_of_run` proves it of all of them, provided that none has broken
off.
-/

namespace CallbackFerry

/-- A flight and what its thread was told about it. -/
abbrev Trip := Flight × Except Failure Bool

namespace Fleet

variable {orders : Orders}

/-! ### Turns -/

/-- What a thread of a fleet can do. -/
inductive Turn where
  /-- It launches what is next. -/
  | launch (thread : Nat) (chance : Chance)
  /-- It gets the result of what it launched. -/
  | land (thread : Nat) (result : Except Failure Bool)

/-- The fleet after a turn, if the turn is possible. -/
def step (orders : Orders) (fleet : Fleet) : Turn → Option Fleet
  | .launch thread chance => (fleet.launch orders thread chance).map (·.2)
  | .land thread result => fleet.land thread result

/-- What is told about a turn. -/
inductive Deed where
  | launch (flight : Flight)
  | land (flight : Flight) (result : Except Failure Bool)

/-- The thread whose turn it was in a moment, and what is told about it.  A thread that breaks off
launches nothing. -/
def entry (orders : Orders) (moment : Moment Fleet Turn) : Option (Nat × Deed) :=
  match moment.move with
  | .launch thread chance =>
    match moment.before.launch orders thread chance with
    | some (some flight, _) => some (thread, .launch flight)
    | _ => none
  | .land thread result =>
    match moment.before.threads[thread]? with
    | some (.aloft _ _ flight) => some (thread, .land flight result)
    | _ => none

/-- The log of a run, oldest entry first. -/
def log (orders : Orders) (past : List (Moment Fleet Turn)) : List (Nat × Deed) :=
  past.filterMap (entry orders)

/-- The entries of one thread. -/
def own (thread : Nat) (log : List (Nat × Deed)) : List Deed :=
  log.filterMap fun entry => if entry.1 = thread then some entry.2 else none

/-- The flight that was launched, if one was. -/
def Deed.launched? : Deed → Option Flight
  | .launch flight => some flight
  | .land .. => none

/-- The flight that landed and its result, if one did. -/
def Deed.landed? : Deed → Option Trip
  | .launch _ => none
  | .land flight result => some (flight, result)

/-- What a turn can be. -/
inductive Turned (orders : Orders) (fleet after : Fleet) (turn : Turn) : Prop
  /-- A thread launches something. -/
  | launched {thread : Nat} {chance : Chance} {flight : Flight}
      (told : entry orders ⟨fleet, turn⟩ = some (thread, .launch flight))
      (made : Launched orders fleet thread chance (some flight) after)
  /-- A thread lands. -/
  | landed {thread fired : Nat} {reported : Bool} {flight : Flight} {result : Except Failure Bool}
      (told : entry orders ⟨fleet, turn⟩ = some (thread, .land flight result))
      (aloft : fleet.threads[thread]? = some (.aloft fired reported flight))
      (lands : fleet.land thread result = some after)
      (made : after = { fleet with
        threads := fleet.threads.set! thread
          (.ready (DriverPhase.aloft fired reported flight).drawn reported)
        totals := DriverTotals.add flight result fleet.totals })
  /-- A thread breaks off. -/
  | broken {thread : Nat} (told : entry orders ⟨fleet, turn⟩ = none)
      (within : thread < fleet.threads.size)
      (made : after.threads = fleet.threads.set! thread .broken)

variable {fleet now after : Fleet} {turn : Turn} {past : List (Moment Fleet Turn)}
  {thread other : Nat} {flight : Flight} {result : Except Failure Bool} {phase : DriverPhase}

theorem ready_of_launch {chance : Chance} {launched : Option Flight}
    (made : fleet.launch orders thread chance = some (launched, after)) :
    ∃ fired reported, fleet.threads[thread]? = some (.ready fired reported) := by
  unfold launch at made
  split at made
  · next fired reported ready => exact ⟨fired, reported, ready⟩
  · cases made

theorem step_turned (made : fleet.step orders turn = some after) :
    Turned orders fleet after turn := by
  cases turn with
  | launch thread chance =>
    obtain ⟨⟨launched, next⟩, launches, rfl⟩ := Option.map_eq_some_iff.mp made
    cases launched with
    | some flight => exact .launched (by simp only [entry, launches]) (launch_cases launches)
    | none =>
      obtain ⟨fired, reported, ready⟩ := ready_of_launch launches
      have within : thread < fleet.threads.size := (Array.getElem?_eq_some_iff.mp ready).1
      refine .broken (by simp only [entry, launches]) within ?_
      cases launch_cases launches with
      | broken => rfl
  | land thread result =>
    obtain ⟨fired, reported, flight, aloft, same⟩ := land_eq_some made
    exact .landed (by simp only [entry, aloft]) aloft made same

/-! ### Threads that have not broken off -/

/-- Whether no thread has broken off. -/
def Unbroken (fleet : Fleet) : Prop :=
  ∀ thread : Nat, fleet.threads[thread]? ≠ some DriverPhase.broken

theorem threads_set (new : DriverPhase) (here : fleet.threads[thread]? = some phase) :
    (fleet.threads.set! thread new)[other]? =
      if other = thread then some new else fleet.threads[other]? := by
  have within : thread < fleet.threads.size := (Array.getElem?_eq_some_iff.mp here).1
  rw [Array.set!_eq_setIfInBounds, Array.getElem?_setIfInBounds]
  by_cases same : thread = other
  · rw [if_pos same, if_pos within, if_pos same.symm]
  · rw [if_neg same, if_neg (Ne.symm same)]

/-- A thread that has broken off does nothing more. -/
theorem Unbroken.before (unbroken : after.Unbroken) (made : fleet.step orders turn = some after) :
    fleet.Unbroken := by
  intro other broken
  refine unbroken other ?_
  cases step_turned made with
  | launched told made =>
    obtain ⟨fired, reported, fired', reported', -, ready, threads⟩ := made.threads
    rw [threads, threads_set _ ready, if_neg, broken]
    rintro rfl
    rw [ready] at broken
    cases broken
  | landed told aloft lands made =>
    rw [made]
    show (fleet.threads.set! _ _)[other]? = _
    rw [threads_set _ aloft, if_neg, broken]
    rintro rfl
    rw [aloft] at broken
    cases broken
  | @broken thread told within threads =>
    have here : fleet.threads[thread]? = some fleet.threads[thread] :=
      Array.getElem?_eq_getElem within
    rw [threads, threads_set _ here, broken, ite_self]

theorem not_unbroken_of_set (within : thread < fleet.threads.size)
    (made : after.threads = fleet.threads.set! thread .broken) : ¬ after.Unbroken := by
  have here : fleet.threads[thread]? = some fleet.threads[thread] :=
    Array.getElem?_eq_getElem within
  intro unbroken
  refine unbroken thread ?_
  rw [made, threads_set _ here, if_pos rfl]

/-- A fleet in which no thread has broken off has worked steadily. -/
theorem steady_of_run (run : Run (step orders) (ofSettings orders.settings) past now)
    (unbroken : now.Unbroken) : Steady orders now := by
  induction run with
  | start => exact steady_ofSettings
  | next run made ih =>
    have steady := ih (unbroken.before made)
    cases step_turned made with
    | launched told launches => exact steady.launch launches
    | landed told aloft lands => exact steady.land lands
    | broken told within threads => exact absurd unbroken (not_unbroken_of_set within threads)

/-! ### The entries of one thread -/

/-- A launch and its landing. -/
def legs (trip : Trip) : List Deed :=
  [.launch trip.1, .land trip.1 trip.2]

/-- The launch of a thread that has no landing yet. -/
def unlanded : DriverPhase → List Deed
  | .aloft _ _ flight => [.launch flight]
  | _ => []

/-- What was launched according to some entries. -/
def flights (deeds : List Deed) : List Flight :=
  deeds.filterMap Deed.launched?

theorem flights_append (deeds more : List Deed) :
    flights (deeds ++ more) = flights deeds ++ flights more :=
  List.filterMap_append

theorem flights_legs (trips : List Trip) :
    flights (trips.flatMap legs) = trips.map Prod.fst := by
  induction trips with
  | nil => rfl
  | cons trip rest ih => exact congrArg (trip.1 :: ·) ih

/-- Whether a flight takes a sequence number. -/
def numbered? : Flight → Bool
  | .reset => false
  | .fault _ | .event _ => true

theorem drawn_aloft {fired : Nat} {reported : Bool} (numbered : numbered? flight = true) :
    (DriverPhase.aloft fired reported flight).drawn = fired + 1 := by
  cases flight with
  | reset => cases numbered
  | fault | event => rfl

/-- What the entries of a thread tell when it is in a phase. -/
structure Logged (orders : Orders) (thread : Nat) (phase : DriverPhase) (deeds : List Deed) :
    Prop where
  /-- Every launch was followed by its landing, apart from the last one. -/
  paired : ∃ trips : List Trip,
    deeds = trips.flatMap legs ++ unlanded phase
  /-- It has launched as many events as it has drawn numbers. -/
  fired : (flights deeds).countP numbered? = phase.drawn
  /-- It has not reported the reset, -/
  early : phase.reported = false → .reset ∉ flights deeds
  /-- or it is the first thread, and has reported it once, in the middle of its share. -/
  late : phase.reported = true → thread = 0 ∧ ∃ first rest, flights deeds = first ++ .reset :: rest ∧
    first.length = orders.settings.eventsPerThread / 2 ∧ .reset ∉ first ∧ .reset ∉ rest

theorem countP_numbered {flights : List Flight} (none : .reset ∉ flights) :
    flights.countP numbered? = flights.length := by
  rw [List.countP_eq_length]
  intro flight member
  cases flight with
  | reset => exact absurd member none
  | fault | event => rfl

variable {deeds : List Deed} {fired : Nat} {reported : Bool}

theorem Logged.paired_launch (logged : Logged orders thread (.ready fired reported) deeds)
    (flight : Flight) (reported' : Bool) (fired' : Nat) :
    ∃ trips : List Trip,
      deeds ++ [.launch flight] =
        trips.flatMap legs ++ unlanded (.aloft fired' reported' flight) := by
  obtain ⟨trips, paired⟩ := logged.paired
  have before : deeds = trips.flatMap legs := paired.trans (List.append_nil _)
  exact ⟨trips, congrArg (· ++ [.launch flight]) before⟩

theorem Logged.reset
    (logged : Logged orders 0 (.ready (orders.settings.eventsPerThread / 2) false) deeds) :
    Logged orders 0 (.aloft (orders.settings.eventsPerThread / 2) true .reset)
      (deeds ++ [.launch .reset]) := by
  have none : .reset ∉ flights deeds := logged.early rfl
  have half : (flights deeds).countP numbered? = orders.settings.eventsPerThread / 2 := logged.fired
  have launched : flights (deeds ++ [.launch .reset]) = flights deeds ++ [.reset] :=
    flights_append deeds _
  refine ⟨logged.paired_launch .reset _ _, ?_, fun unreported => ?_, fun _ => ⟨rfl, ?_⟩⟩
  · rw [launched, List.countP_append, half]
    rfl
  · cases unreported
  · refine ⟨flights deeds, [], launched, ?_, none, List.not_mem_nil⟩
    rw [← countP_numbered none, half]

theorem Logged.numbered (logged : Logged orders thread (.ready fired reported) deeds)
    (numbered : numbered? flight = true) :
    Logged orders thread (.aloft fired reported flight) (deeds ++ [.launch flight]) := by
  have launched : flights (deeds ++ [.launch flight]) = flights deeds ++ [flight] :=
    flights_append deeds _
  have other : Flight.reset ≠ flight := by
    rintro rfl
    cases numbered
  refine ⟨logged.paired_launch flight _ _, ?_, fun unreported => ?_, fun told => ?_⟩
  · rw [launched, List.countP_append, logged.fired, drawn_aloft numbered, List.countP_singleton,
      if_pos numbered]
    rfl
  · rw [launched, List.mem_append, List.mem_singleton, not_or]
    exact ⟨logged.early unreported, other⟩
  · -- Whatever is launched after the reset belongs to the second half.
    obtain ⟨own, first, rest, whole, half, before, after⟩ := logged.late told
    refine ⟨own, first, rest ++ [flight], ?_, half, before, ?_⟩
    · rw [launched, whole, List.append_assoc, List.cons_append]
    · rw [List.mem_append, List.mem_singleton, not_or]
      exact ⟨after, other⟩

theorem Logged.land (logged : Logged orders thread (.aloft fired reported flight) deeds)
    (result : Except Failure Bool) :
    Logged orders thread (.ready (DriverPhase.aloft fired reported flight).drawn reported)
      (deeds ++ [.land flight result]) := by
  have launched : flights (deeds ++ [.land flight result]) = flights deeds := by
    rw [flights_append]
    exact List.append_nil _
  obtain ⟨trips, paired⟩ := logged.paired
  -- The launch that had no landing yet has one now.
  refine ⟨⟨trips ++ [(flight, result)], ?_⟩, ?_, ?_, ?_⟩
  · rw [paired, List.flatMap_append, List.append_assoc, List.append_assoc]
    rfl
  · rw [launched]
    exact logged.fired
  · rw [launched]
    exact logged.early
  · rw [launched]
    exact logged.late

/-- An entry of one thread is none of the others. -/
theorem logged_set {new old : DriverPhase} {log : List (Nat × Deed)} {deed : Deed}
    (before : ∀ (other : Nat) phase, fleet.threads[other]? = some phase →
      Logged orders other phase (own other log))
    (here : fleet.threads[thread]? = some old)
    (threads : after.threads = fleet.threads.set! thread new)
    (grown : Logged orders thread old (own thread log) →
      Logged orders thread new (own thread log ++ [deed])) :
    ∀ (other : Nat) phase, after.threads[other]? = some phase →
      Logged orders other phase (own other (log ++ [(thread, deed)])) := by
  intro other phase there
  have entries : own other (log ++ [(thread, deed)]) =
      own other log ++ if thread = other then [deed] else [] := by
    rw [own, List.filterMap_append]
    by_cases same : thread = other <;> simp [own, same]
  -- The thread that went on has a new phase and one more entry; the others have neither.
  rw [threads, threads_set new here] at there
  rw [entries]
  by_cases same : other = thread
  · subst same
    rw [if_pos rfl] at there ⊢
    obtain rfl := Option.some.inj there
    exact grown (before other old here)
  · rw [if_neg same] at there
    rw [if_neg (Ne.symm same), List.append_nil]
    exact before other phase there

/-- The entries of every thread tell what its phase says. -/
theorem logged_of_run (run : Run (step orders) (ofSettings orders.settings) past now)
    (unbroken : now.Unbroken) : ∀ (thread : Nat) phase, now.threads[thread]? = some phase →
      Logged orders thread phase (own thread (log orders past)) := by
  induction run with
  | start =>
    intro thread phase here
    have fresh : phase = .ready 0 false := by
      rw [ofSettings] at here
      exact (Array.mem_replicate.mp (Array.mem_of_getElem? here)).2
    subst fresh
    refine ⟨⟨[], rfl⟩, rfl, fun _ => List.not_mem_nil, fun reported => ?_⟩
    cases reported
  | next run made ih =>
    have before := ih (unbroken.before made)
    cases step_turned made with
    | launched told launches =>
      rw [log, Run.filterMap_concat, told]
      cases launches with
      | reset first ready left =>
        subst first
        exact logged_set before ready rfl Logged.reset
      | fault ready left undue due =>
        exact logged_set before ready rfl fun logged => logged.numbered rfl
      | event ready left undue due chosen =>
        exact logged_set before ready rfl fun logged => logged.numbered rfl
    | @landed thread fired reported flight result told aloft lands same =>
      rw [log, Run.filterMap_concat, told]
      exact logged_set before aloft (by rw [same]) fun logged => logged.land result
    | broken told within threads => exact absurd unbroken (not_unbroken_of_set within threads)

end Fleet
end CallbackFerry
