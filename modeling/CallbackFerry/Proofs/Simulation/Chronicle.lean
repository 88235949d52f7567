import CallbackFerry.Proofs.Simulation.Moves
import CallbackFerry.Simulation.Chronicle

/-!
# A simulation is one of the runs of its campaign

`Simulation.run` makes moves of a campaign and nothing else, so the campaign that it reports about
is reachable (`reached_of_run`), and whatever is known about reachable campaigns holds of it.
-/

namespace CallbackFerry.Chronicle

variable {settings : Settings} {chronicle : Chronicle}

/-- Whether the campaign of a chronicle is reachable. -/
def Reached (settings : Settings) (chronicle : Chronicle) : Prop :=
  ∃ past, Campaign.Reached settings past chronicle.campaign

theorem Reached.make (reached : chronicle.Reached settings) (move : Campaign.Move) :
    (chronicle.make move).Reached settings := by
  unfold Chronicle.make
  split
  · next after made =>
    obtain ⟨past, first, started, run⟩ := reached
    exact ⟨_, first, started, run.next made⟩
  · exact reached

theorem Reached.play (reached : chronicle.Reached settings) (moves : List Campaign.Move) :
    (chronicle.play moves).Reached settings := by
  induction moves generalizing chronicle with
  | nil => exact reached
  | cons move rest ih => exact ih (reached.make move)

theorem Reached.flyOften (reached : chronicle.Reached settings) (chance : Nat → Chance)
    (thread flights : Nat) : (chronicle.flyOften chance thread flights).Reached settings := by
  induction flights generalizing chronicle with
  | zero => exact reached
  | succ flights ih => exact ih (reached.play _)

theorem Reached.flyAll (reached : chronicle.Reached settings) (chance : Nat → Chance) :
    (chronicle.flyAll chance).Reached settings := by
  unfold Chronicle.flyAll
  dsimp only
  generalize List.range _ = threads
  generalize chronicle.campaign.orders.settings.eventsPerThread + 1 = flights
  induction threads generalizing chronicle with
  | nil => exact reached
  | cons thread rest ih => exact ih (reached.flyOften chance thread flights)

end CallbackFerry.Chronicle

namespace CallbackFerry.Simulation

/-- What a simulation reports is the report of a reachable campaign. -/
theorem reached_of_run {settings : Settings} {chance : Nat → Chance} {report : RunReport}
    (complete : (run settings chance).1 = .complete report) :
    ∃ past now, Campaign.Reached settings past now ∧ now.report? = some report := by
  unfold run at complete
  split at complete
  · cases complete
  · cases complete
  · next bridge begun =>
    have fresh : (Chronicle.ofCampaign (Campaign.fresh settings bridge)).Reached settings :=
      ⟨[], Campaign.fresh settings bridge, by simp only [Campaign.start, begun], .start⟩
    obtain ⟨past, reached⟩ := (fresh.flyAll chance).play Campaign.closing
    dsimp only at complete
    split at complete
    · next report' reported =>
      obtain rfl := Ending.complete.inj complete
      exact ⟨past, _, reached, reported⟩
    · cases complete

end CallbackFerry.Simulation
