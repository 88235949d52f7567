import CallbackFerry.Proofs.Simulation.Closing
import CallbackFerry.Proofs.Simulation.Service

/-!
# What the drivers of a campaign are told

Nothing goes wrong with a submission of a campaign.  So when its call is over, its flight was
applied once and has come to its own outcome, and that is what its driver was told and how it was
counted (`settled_of_returned`).

The drivers count what they are told.  A flight that was submitted is in the totals once its thread
has landed, and in the hands of its thread until then, and `Totalled` says that there are no others.
-/

namespace CallbackFerry

/-- A launch lands nothing. -/
theorem Fleet.Launched.totals {orders : Orders} {fleet after : Fleet} {thread : Nat} {chance : Chance}
    {launched : Option Flight} (made : Launched orders fleet thread chance launched after) :
    after.totals = fleet.totals := by
  cases made <;> rfl

namespace Campaign

variable {settings : Settings} {past : List (Moment Campaign Move)} {now campaign after : Campaign}
  {key : Nat} {fate : Fate}

/-! ### Calls that are over -/

/-- What a call of a campaign has come to when it is over with this result. -/
structure Settled (opened : List Channel) (st : Standing Flight (Host Device) Bool)
    (s : Submission Flight (Host Device) Bool) (result : Except Failure Bool) : Prop where
  /-- The flight was applied once. -/
  outcomes : s.outcomes = [s.callback.payload.outcome opened]
  /-- The driver was told what that came to. -/
  result : result = s.callback.payload.told opened
  /-- It was counted as what it came to. -/
  ran : st.ran? = some (Account.ofSuccess (succeeded (s.callback.payload.outcome opened)))
  /-- It was not counted as anything else. -/
  left : st.left? = none

theorem settled_of_returned (patient : settings.Patient) (reached : Reached settings past now)
    {s : Submission Flight (Host Device) Bool} {result : Except Failure Bool}
    (record : now.bridge.submissions[key]? = some s) (returned : s.caller = .returned result) :
    Settled now.orders.opened (now.bridge.standing key) s result := by
  have sound := Bridge.sound_of_reached (bridge_reached reached) key
  obtain ⟨outcome, outcomes, told, ran, left⟩ :=
    sound.of_over (safe_of_reached patient reached key) record returned
  have entry : now.bridge.book[key]? = some (s.callback, s.outcomes) :=
    Bridge.getElem?_book_eq_some.mpr ⟨s, record, rfl⟩
  -- The book says what the outcome is.
  have own : outcome = s.callback.payload.outcome now.orders.opened := by
    rcases (served_of_reached patient.usable reached).1.noted _ (List.mem_of_getElem? entry) with
      none | noted
    · rw [outcomes] at none
      cases none
    · rw [outcomes] at noted
      exact List.singleton_inj.mp noted
  subst own
  exact ⟨outcomes, told, ran, left⟩

/-! ### Totals -/

/-- How many flights with a fate were submitted and have not landed. -/
def pending (fate : Fate) (campaign : Campaign) : Nat :=
  campaign.missions.countP fun mission =>
    mission.key ≠ none ∧ mission.flight.fate campaign.orders.opened = fate

/-- Whether every flight that was submitted is in the totals or has not landed. -/
structure Totalled (campaign : Campaign) : Prop where
  landed : ∀ fate, fate ≠ .reset →
    campaign.fleet.totals.of fate + campaign.pending fate = campaign.made fate
  rejected : campaign.fleet.totals.rejected = 0

/-- The totals go on being right if the threads are told what their flights come to. -/
theorem Totalled.step (totalled : Totalled campaign) (manned : Manned campaign)
    (told : ∀ mission ∈ campaign.missions, ∀ key, mission.key = some key → ∀ s result,
      campaign.bridge.submissions[key]? = some s → s.caller = .returned result →
        result = mission.flight.told campaign.orders.opened)
    (orders : after.orders = campaign.orders) (crewed : Crewed campaign after) :
    Totalled after := by
  obtain ⟨landed, rejected⟩ := totalled
  cases crewed with
  | launched made missions bridge =>
    refine ⟨fun fate counted => ?_, by rw [made.totals, rejected]⟩
    have same : after.pending fate = campaign.pending fate := by
      unfold pending
      rw [missions, orders]
      simp
    rw [made.totals, same, made_congr orders (by rw [bridge]), landed fate counted]
  | @submitted mission member unkeyed fleet missions bridge =>
    refine ⟨fun fate counted => ?_, by rw [fleet, rejected]⟩
    have more : after.pending fate = campaign.pending fate +
        if mission.flight.fate campaign.orders.opened = fate then 1 else 0 := by
      unfold pending
      rw [missions, orders, (List.perm_cons_erase member).countP_eq, List.countP_cons,
        List.countP_cons]
      simp [unkeyed]
    have before := landed fate counted
    rw [fleet, more, made_submitted orders bridge]
    omega
  | @landed mission key s result member keyed record returned made missions bridge =>
    obtain ⟨fired, reported, flight, aloft, land⟩ := Fleet.land_eq_some made
    -- The thread gets the result of the mission that it waits for.
    obtain rfl : flight = mission.flight := by
      obtain ⟨fired', reported', aloft'⟩ := manned.aloft mission member
      rw [aloft] at aloft'
      exact (DriverPhase.aloft.inj (Option.some.inj aloft')).2.2
    have totals : after.fleet.totals = Fleet.DriverTotals.add mission.flight
        (mission.flight.told campaign.orders.opened) campaign.fleet.totals := by
      rw [land, told mission member key keyed s result record returned]
    refine ⟨fun fate counted => ?_, by rw [totals, DriverTotals.rejected_add, rejected]⟩
    have fewer : campaign.pending fate = after.pending fate +
        if mission.flight.fate campaign.orders.opened = fate then 1 else 0 := by
      unfold pending
      rw [missions, orders, (List.perm_cons_erase member).countP_eq, List.countP_cons]
      simp [keyed]
    have before := landed fate counted
    rw [totals, DriverTotals.of_add _ _ counted, made_congr orders (by rw [bridge])]
    omega
  | aside fleet missions bridge =>
    refine ⟨fun fate counted => ?_, by rw [fleet, rejected]⟩
    have same : after.pending fate = campaign.pending fate := by
      unfold pending
      rw [missions, orders]
    rw [fleet, same, made_congr orders (calls_of_aside bridge), landed fate counted]

/-- The totals of a reachable campaign are right. -/
theorem totalled_of_reached (patient : settings.Patient) (reached : Reached settings past now) :
    Totalled now := by
  refine reached.induction ?_ ?_
  · intro first started
    obtain ⟨bridge, begun, rfl⟩ := start_eq_some started
    obtain ⟨-, -, rfl⟩ := Bridge.start_eq_ok_iff.mp begun
    exact ⟨fun fate _ => by cases fate <;> rfl, rfl⟩
  · intro earlier before move after reached made totalled
    obtain ⟨manned, -⟩ := manned_of_reached patient.usable reached
    refine totalled.step manned ?_ (step_part made).2
      (crewed_of_reached patient.usable reached made)
    intro mission member key keyed s result record returned
    have own : s.callback = mission.flight.callback := by
      have called := manned.keyed mission member key keyed
      rw [Bridge.getElem?_calls, show (before.bridge.standing key).submission = some s from record]
        at called
      exact Option.some.inj called
    rw [(settled_of_returned patient reached record returned).result, own]
    rfl

end Campaign
end CallbackFerry
