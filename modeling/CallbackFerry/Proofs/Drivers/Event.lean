import CallbackFerry.Drivers.Event
import Mathlib.Data.List.Basic

/-!
# What is fired

Whatever chance decides, there is a channel to choose from, because the channels that are open and
those that are not make up all channels, and an event goes to a channel that is not open only where
there is one.  So with a ratio that is a share of a whole an event can always be fired
(`exists_fire`), and its payload always fits (`length_payload_le`).
-/

namespace CallbackFerry.RandomEvent

variable {opened : List Channel} {ratio : Binary64} {chance : Chance}

/-- A member can be chosen wherever there is one. -/
theorem exists_pick {α : Type} {choices : List α} (number : Nat) (some : choices ≠ []) :
    ∃ choice ∈ choices, pick choices number = .some choice := by
  have within : number % choices.length < choices.length :=
    Nat.mod_lt _ (List.length_pos_iff.mpr some)
  exact ⟨choices[number % choices.length], List.getElem_mem within, List.getElem?_eq_getElem within⟩

/-- Where every channel is open, one is open. -/
theorem opened_ne_nil (none : closedChannels opened = []) : opened ≠ [] := by
  rintro rfl
  simp [closedChannels, Channel.all, maxChannels] at none

/-- An event strays only where there is a channel to stray to, and goes to a channel that is open
only where there is one. -/
theorem exists_strays (opened : List Channel) (valid : ratio.isProbability = true)
    (chance : Chance) : ∃ stray, strays opened (closedChannels opened) ratio chance = .ok stray ∧
      (if stray then closedChannels opened else opened) ≠ [] := by
  unfold strays
  by_cases full : closedChannels opened = []
  · exact ⟨false, by simp [full], by simpa using opened_ne_nil full⟩
  · by_cases blank : opened = []
    · refine ⟨true, ?_, by simpa using full⟩
      rw [if_neg (by simpa using full), if_pos (by simp [blank])]
    · refine ⟨ratio.covers (chance.stray % strayBound) strayBound, ?_, ?_⟩
      · rw [if_neg (by simpa using full), if_neg (by simpa using blank), if_pos valid]
      · split
        · exact full
        · exact blank

/-- Whatever is fired fits into a message. -/
theorem length_payload_le (channel : Channel) (code : EventCode) (chance : Chance) :
    (payload channel code chance).length ≤ maxPayload := by
  have short : chance.length % maxPayload + 1 ≤ maxPayload :=
    Nat.mod_lt _ (by decide)
  unfold payload
  split
  · rw [List.length_singleton]
    decide
  · dsimp only
    split
    · next rest whole =>
      have length := congrArg List.length whole
      simp only [List.length_map, List.length_range, List.length_cons] at length ⊢
      omega
    · simpa using short

/-- An event that is fired has a payload that fits. -/
theorem length_le_of_fire {event : ChannelEvent} (fired : fire opened ratio chance = .ok event) :
    event.payload.length ≤ maxPayload := by
  unfold fire at fired
  dsimp only at fired
  split at fired
  · cases fired
  · split at fired
    · obtain rfl := Except.ok.inj fired
      exact length_payload_le ..
    · cases fired

/-- With a ratio that is a share of a whole there is always an event to fire. -/
theorem exists_fire (valid : ratio.isProbability = true) (chance : Chance) :
    ∃ event, fire opened ratio chance = .ok event := by
  obtain ⟨stray, decided, choices⟩ := exists_strays opened valid chance
  obtain ⟨channel, -, chosen⟩ := exists_pick chance.channel choices
  have kinds : mix ≠ [] := by simp [mix]
  obtain ⟨code, -, kind⟩ := exists_pick chance.kind kinds
  refine ⟨⟨channel, code, payload channel code chance⟩, ?_⟩
  simp only [fire, decided, chosen, kind]

end CallbackFerry.RandomEvent
