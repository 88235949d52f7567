import CallbackFerry.Handoff
import CallbackFerry.Proofs.Run
import Mathlib.Logic.Function.Basic

/-!
# What comes through a handoff

The two halves of a handoff go on in any order: the host signals and drops, the driver waits with a
limit or without one, is woken, stirs for no reason, or runs out of time.  What has happened so far
is told by four lists, the outcomes that were signalled, the completions that the slot was filled
with, the limits of the waits, and what the driver was told; none of them ever has two members.
`Hosted` says how the first two belong together, and `Driven` what the slot holds in terms of the
other three.  Every act preserves both (`Sound.step`).

A handoff is `Faithful` if its driver is told how its own callback ended, or that its limit passed
while the slot was empty.  `faithful_of_run` proves it for one handoff and `exchanged_of_run` for
any number of them side by side, none of which has any effect on another one.
-/

namespace CallbackFerry

variable {ρ : Type}

/-! ### Completions -/

theorem Completion.ofOutcome_eq_value_iff {outcome : Except Fault ρ} {result : ρ} :
    Completion.ofOutcome outcome = .value result ↔ outcome = .ok result := by
  cases outcome <;> simp [Completion.ofOutcome]

theorem Completion.ofOutcome_eq_fault_iff {outcome : Except Fault ρ} {text : String} :
    Completion.ofOutcome outcome = .fault text ↔
      ∃ cause, outcome = .error cause ∧ cause.text = text := by
  cases outcome <;> simp [Completion.ofOutcome]

theorem Completion.ofOutcome_ne_abandoned (outcome : Except Fault ρ) :
    Completion.ofOutcome outcome ≠ .abandoned := by
  cases outcome <;> simp [Completion.ofOutcome]

theorem Completion.result_injective {completion other : Completion ρ}
    (h : completion.result = other.result) : completion = other := by
  cases completion <;> cases other <;> cases h <;> rfl

namespace Handoff

variable {handoff before after : Handoff ρ} {act : Act ρ} {completion : Completion ρ}
  {past : List (Moment (Handoff ρ) (Act ρ))} {now : Handoff ρ}

/-! ### Histories -/

/-- The outcome that is signalled in a moment. -/
def signalled (moment : Moment (Handoff ρ) (Act ρ)) : Option (Except Fault ρ) :=
  match moment.move with
  | .signal outcome => some outcome
  | _ => none

/-- The completion that the slot is filled with in a moment.  Dropping a signal that was used fills
it with nothing. -/
def filled (moment : Moment (Handoff ρ) (Act ρ)) : Option (Completion ρ) :=
  match moment.move with
  | .signal outcome => some (.ofOutcome outcome)
  | .drop => if moment.before.signal = .held then some .abandoned else none
  | _ => none

/-- The limit of a wait that begins in a moment. -/
def limited (moment : Moment (Handoff ρ) (Act ρ)) : Option (Option Span) :=
  match moment.move with
  | .wait limit => some limit
  | _ => none

/-- What the driver is told in a moment. -/
def told (moment : Moment (Handoff ρ) (Act ρ)) : Option (Except Failure ρ) :=
  match moment.move with
  | .leave => moment.before.leave.map (·.1)
  | _ => none

/-- What the host has done to a handoff: the outcomes that were signalled, the completions that the
slot was filled with, and where the signal is. -/
inductive Hosted : List (Except Fault ρ) → List (Completion ρ) → Signal → Prop
  | held : Hosted [] [] .held
  | used (outcome : Except Fault ρ) : Hosted [outcome] [.ofOutcome outcome] .used
  | dropped (outcome : Except Fault ρ) : Hosted [outcome] [.ofOutcome outcome] .dropped
  | forsaken : Hosted [] [.abandoned] .dropped

/-- What the driver has done: after the completions so far the limits of its waits, what it was
told, what is in the slot, and where it is. -/
inductive Driven : List (Completion ρ) → List (Option Span) → List (Except Failure ρ) →
    Option (Completion ρ) → Waiter → Prop
  | ready (filled : List (Completion ρ)) : Driven filled [] [] filled.head? .ready
  | asleep (limit : Option Span) : Driven [] [limit] [] none (.asleep limit)
  | awake (filled : List (Completion ρ)) (limit : Option Span) :
      Driven filled [limit] [] filled.head? (.awake limit)
  /-- It has found something in the slot. -/
  | met (completion : Completion ρ) (limit : Option Span) :
      Driven [completion] [limit] [] (some completion) (.holding limit false)
  /-- Its limit has passed, and there may be something in the slot all the same. -/
  | late (filled : List (Completion ρ)) (limit : Span) :
      Driven filled [some limit] [] filled.head? (.holding (some limit) true)
  | quit (filled : List (Completion ρ)) : Driven filled [] [] filled.head? .gone
  /-- It has given up.  The slot may be filled later. -/
  | timedOut (filled : List (Completion ρ)) (limit : Span) :
      Driven filled [some limit] [.error (.timeout limit)] filled.head? .gone
  /-- It has taken what was in the slot. -/
  | taken (completion : Completion ρ) (limit : Option Span) :
      Driven [completion] [limit] [completion.result] none .gone

/-- Whether a handoff is as its histories say. -/
structure Sound (outcomes : List (Except Fault ρ)) (fillings : List (Completion ρ))
    (limits : List (Option Span)) (answers : List (Except Failure ρ)) (handoff : Handoff ρ) :
    Prop where
  hosted : Hosted outcomes fillings handoff.signal
  driven : Driven fillings limits answers handoff.slot handoff.waiter

variable {outcomes : List (Except Fault ρ)} {fillings : List (Completion ρ)}
  {limits : List (Option Span)} {answers : List (Except Failure ρ)}

/-! ### What every act preserves -/

theorem Hosted.length_le {signal : Signal} (hosted : Hosted outcomes fillings signal) :
    fillings.length ≤ 1 := by
  cases hosted <;> simp

theorem Hosted.eq_nil_of_held (hosted : Hosted outcomes fillings .held) : fillings = [] := by
  cases hosted
  rfl

/-- A completion is an abandonment if and only if nothing was signalled. -/
theorem Hosted.abandoned_iff {signal : Signal} (hosted : Hosted outcomes [completion] signal) :
    completion = .abandoned ↔ outcomes = [] := by
  cases hosted with
  | used outcome | dropped outcome => simp [Completion.ofOutcome_ne_abandoned]
  | forsaken => simp

theorem Hosted.exists_outcome {signal : Signal} (hosted : Hosted outcomes [completion] signal)
    (handled : completion ≠ .abandoned) :
    ∃ outcome, outcomes = [outcome] ∧ completion = .ofOutcome outcome := by
  cases hosted with
  | used outcome | dropped outcome => exact ⟨outcome, rfl, rfl⟩
  | forsaken => exact absurd rfl handled

theorem Hosted.of_mem {signal : Signal} {outcome : Except Fault ρ}
    (hosted : Hosted outcomes fillings signal) (listed : outcome ∈ outcomes) :
    fillings = [.ofOutcome outcome] ∧ outcomes = [outcome] := by
  cases hosted with
  | held | forsaken => cases listed
  | used | dropped =>
    obtain rfl := List.mem_singleton.mp listed
    exact ⟨rfl, rfl⟩

theorem Hosted.of_nil {signal : Signal}
    (hosted : Hosted ([] : List (Except Fault ρ)) fillings signal) :
    (fillings = [] ∧ signal = .held) ∨ fillings = [.abandoned] := by
  cases hosted with
  | held => exact .inl ⟨rfl, rfl⟩
  | forsaken => exact .inr rfl

/-- Filling a slot for the first time: it is not locked, and whoever sleeps is woken. -/
theorem Driven.fill (driven : Driven [] limits answers before.slot before.waiter)
    (made : before.fill completion = some after) :
    Driven [completion] limits answers after.slot after.waiter := by
  obtain ⟨slot, signal, waiter⟩ := before
  unfold Handoff.fill at made
  split at made
  · cases made
  · next unlocked =>
    obtain rfl := Option.some.inj made
    cases driven with
    | ready => exact .ready [completion]
    | asleep limit => exact .awake [completion] limit
    | awake _ limit => exact .awake [completion] limit
    | late => exact absurd rfl unlocked
    | quit => exact .quit [completion]
    | timedOut _ limit => exact .timedOut [completion] limit

theorem driven_lookFor (short : fillings.length ≤ 1) (limit : Option Span)
    (slot : handoff.slot = fillings.head?) :
    Driven fillings [limit] [] (handoff.lookFor limit).slot (handoff.lookFor limit).waiter := by
  match fillings, short with
  | [], _ =>
    have look : handoff.lookFor limit = { handoff with waiter := .asleep limit } := by
      rw [lookFor, slot]
      rfl
    rw [look]
    exact slot ▸ .asleep limit
  | [completion], _ =>
    have look : handoff.lookFor limit = { handoff with waiter := .holding limit false } := by
      rw [lookFor, slot]
      rfl
    rw [look]
    exact slot ▸ .met completion limit

theorem lookFor_signal (limit : Option Span) : (handoff.lookFor limit).signal = handoff.signal := by
  unfold lookFor
  split <;> rfl

/-- A driver that leaves is told for the first time, and what was in the slot if there was
something. -/
theorem Driven.leave {result : Except Failure ρ} (short : fillings.length ≤ 1)
    (driven : Driven fillings limits answers before.slot before.waiter)
    (made : before.leave = some (result, after)) :
    answers = [] ∧ Driven fillings limits [result] after.slot after.waiter ∧
      after.signal = before.signal ∧
        ((∃ completion, fillings = [completion] ∧ before.slot = some completion ∧
            result = completion.result) ∨
          (fillings = [] ∧ before.slot = none ∧ ∃ limit, limits = [some limit] ∧
            result = .error (.timeout limit))) := by
  obtain ⟨slot, signal, waiter⟩ := before
  cases driven with
  | ready | asleep | awake | quit | timedOut | taken => cases made
  | met completion limit =>
    cases limit <;>
      obtain ⟨rfl, rfl⟩ := Prod.mk.inj (Option.some.inj made) <;>
      exact ⟨rfl, .taken completion _, rfl, .inl ⟨completion, rfl, rfl, rfl⟩⟩
  | late _ limit =>
    match fillings, short with
    | [], _ =>
      obtain ⟨rfl, rfl⟩ := Prod.mk.inj (Option.some.inj made)
      exact ⟨rfl, .timedOut [] limit, rfl, .inr ⟨rfl, rfl, limit, rfl, rfl⟩⟩
    | [completion], _ =>
      -- The limit has passed, but the slot was filled before the driver got to it.
      obtain ⟨rfl, rfl⟩ := Prod.mk.inj (Option.some.inj made)
      exact ⟨rfl, .taken completion _, rfl, .inl ⟨completion, rfl, rfl, rfl⟩⟩

/-- A signal fills the slot with what its outcome says. -/
theorem Sound.signal {outcome : Except Fault ρ}
    (sound : Sound outcomes fillings limits answers before)
    (made : before.complete (.ofOutcome outcome) = some after) :
    Sound (outcomes ++ [outcome]) (fillings ++ [.ofOutcome outcome]) limits answers after := by
  obtain ⟨hosted, driven⟩ := sound
  unfold complete at made
  split at made
  · next held =>
    rw [held] at hosted
    obtain ⟨full, fills, rfl⟩ := Option.map_eq_some_iff.mp made
    cases hosted
    have full := driven.fill fills
    exact ⟨.used outcome, full⟩
  · cases made

/-- Dropping a signal fills the slot if the signal was not used, and else does nothing to it. -/
theorem Sound.drop (sound : Sound outcomes fillings limits answers before)
    (made : before.drop = some after) :
    Sound outcomes (fillings ++ (filled ⟨before, .drop⟩).toList) limits answers after := by
  obtain ⟨hosted, driven⟩ := sound
  unfold Handoff.drop at made
  split at made
  · next held =>
    rw [held] at hosted
    obtain ⟨full, fills, rfl⟩ := Option.map_eq_some_iff.mp made
    cases hosted
    have filled_eq : filled ⟨before, .drop⟩ = some .abandoned := if_pos held
    rw [filled_eq]
    have full := driven.fill fills
    exact ⟨.forsaken, full⟩
  · next used =>
    obtain rfl := Option.some.inj made
    rw [used] at hosted
    have filled_eq : filled ⟨before, .drop⟩ = none := if_neg (by simp [used])
    rw [filled_eq, Option.toList_none, List.append_nil]
    cases hosted with
    | used outcome => exact ⟨.dropped outcome, driven⟩
  · cases made

theorem Sound.wait {limit : Option Span} (sound : Sound outcomes fillings limits answers before)
    (made : before.wait limit = some after) :
    Sound outcomes fillings (limits ++ [limit]) answers after := by
  obtain ⟨hosted, driven⟩ := sound
  have short := hosted.length_le
  obtain ⟨slot, signal, waiter⟩ := before
  cases waiter with
  | ready =>
    obtain rfl := Option.some.inj made
    cases driven
    rw [← lookFor_signal limit] at hosted
    exact ⟨hosted, driven_lookFor short limit rfl⟩
  | _ => cases made

theorem Sound.stir (sound : Sound outcomes fillings limits answers before)
    (made : before.stir = some after) : Sound outcomes fillings limits answers after := by
  obtain ⟨hosted, driven⟩ := sound
  obtain ⟨slot, signal, waiter⟩ := before
  cases waiter with
  | asleep limit =>
    obtain rfl := Option.some.inj made
    cases driven
    exact ⟨hosted, .awake [] limit⟩
  | _ => cases made

theorem Sound.look (sound : Sound outcomes fillings limits answers before)
    (made : before.look = some after) : Sound outcomes fillings limits answers after := by
  obtain ⟨hosted, driven⟩ := sound
  have short := hosted.length_le
  obtain ⟨slot, signal, waiter⟩ := before
  cases waiter with
  | awake limit =>
    obtain rfl := Option.some.inj made
    cases driven
    rw [← lookFor_signal limit] at hosted
    exact ⟨hosted, driven_lookFor short limit rfl⟩
  | _ => cases made

theorem Sound.expire (sound : Sound outcomes fillings limits answers before)
    (made : before.expire = some after) : Sound outcomes fillings limits answers after := by
  obtain ⟨hosted, driven⟩ := sound
  obtain ⟨slot, signal, waiter⟩ := before
  cases waiter with
  | asleep limit | awake limit =>
    cases limit with
    | none => cases made
    | some limit =>
      obtain rfl := Option.some.inj made
      -- Whether the slot was filled by now does not matter.
      cases driven
      exact ⟨hosted, .late _ limit⟩
  | _ => cases made

theorem Sound.leave {result : Except Failure ρ}
    (sound : Sound outcomes fillings limits answers before)
    (made : before.leave = some (result, after)) :
    Sound outcomes fillings limits (answers ++ [result]) after := by
  obtain ⟨hosted, driven⟩ := sound
  obtain ⟨rfl, driven, signal, -⟩ := driven.leave hosted.length_le made
  rw [← signal] at hosted
  exact ⟨hosted, driven⟩

theorem Sound.quit (sound : Sound outcomes fillings limits answers before)
    (made : before.quit = some after) : Sound outcomes fillings limits answers after := by
  obtain ⟨hosted, driven⟩ := sound
  obtain ⟨slot, signal, waiter⟩ := before
  cases waiter with
  | ready =>
    obtain rfl := Option.some.inj made
    cases driven
    exact ⟨hosted, .quit fillings⟩
  | _ => cases made

/-- Whatever happens to a handoff, it stays as its histories say. -/
theorem Sound.step (sound : Sound outcomes fillings limits answers before)
    (made : before.step act = some after) :
    Sound (outcomes ++ (signalled ⟨before, act⟩).toList) (fillings ++ (filled ⟨before, act⟩).toList)
      (limits ++ (limited ⟨before, act⟩).toList) (answers ++ (told ⟨before, act⟩).toList)
      after := by
  -- What an act is not about gets nothing appended.
  cases act with
    simp only [signalled, filled, limited, told, Option.toList_none, Option.toList_some,
      List.append_nil]
  | signal outcome => exact sound.signal made
  | drop => exact sound.drop made
  | wait limit => exact sound.wait made
  | stir => exact sound.stir made
  | look => exact sound.look made
  | expire => exact sound.expire made
  | leave =>
    obtain ⟨⟨result, left⟩, leaves, rfl⟩ := Option.map_eq_some_iff.mp made
    rw [leaves]
    exact sound.leave leaves
  | quit => exact sound.quit made

/-- A reachable handoff is as its histories say. -/
theorem sound_of_run (run : Run step ({} : Handoff ρ) past now) :
    Sound (past.filterMap signalled) (past.filterMap filled) (past.filterMap limited)
      (past.filterMap told) now := by
  induction run with
  | start => exact ⟨.held, .ready []⟩
  | next run made ih =>
    simp only [Run.filterMap_concat]
    exact ih.step made

/-! ### What the driver is told -/

/-- Whether the signal was dropped and nothing had been signalled. -/
def Forsaken (past : List (Moment (Handoff ρ) (Act ρ))) : Prop :=
  past.filterMap signalled = [] ∧ ∃ moment ∈ past, moment.move = .drop

theorem forsaken_of_filled (unsignalled : past.filterMap signalled = [])
    (full : completion ∈ past.filterMap filled) : completion = .abandoned ∧ Forsaken past := by
  obtain ⟨⟨before, act⟩, member, fills⟩ := List.mem_filterMap.mp full
  have silent := List.filterMap_eq_nil_iff.mp unsignalled _ member
  cases act with
  | signal outcome => cases silent
  | drop =>
    simp only [filled] at fills
    split at fills
    · obtain rfl := Option.some.inj fills
      exact ⟨rfl, unsignalled, _, member, rfl⟩
    · cases fills
  | _ => cases fills

theorem slot_of_fill (made : before.fill completion = some after) :
    after.slot = some completion := by
  obtain ⟨slot, signal, waiter⟩ := before
  unfold fill at made
  split at made
  · cases made
  · obtain rfl := Option.some.inj made
    cases waiter <;> rfl

/-- The slot changes only when it is filled and when the driver leaves. -/
theorem step_slot (made : before.step act = some after) :
    (∃ completion, filled ⟨before, act⟩ = some completion ∧ after.slot = some completion) ∨
      (filled ⟨before, act⟩ = none ∧
        (after.slot = before.slot ∨ act = .leave ∧ after.slot = none)) := by
  have looked : ∀ limit, (before.lookFor limit).slot = before.slot := by
    intro limit
    unfold lookFor
    split <;> rfl
  cases act with
  | signal outcome =>
    simp only [step, complete] at made
    split at made
    · obtain ⟨full, fills, rfl⟩ := Option.map_eq_some_iff.mp made
      have slot := slot_of_fill fills
      exact .inl ⟨_, rfl, slot⟩
    · cases made
  | drop =>
    simp only [step, drop] at made
    split at made
    · next held =>
      obtain ⟨full, fills, rfl⟩ := Option.map_eq_some_iff.mp made
      have slot := slot_of_fill fills
      exact .inl ⟨_, if_pos held, slot⟩
    · next used =>
      obtain rfl := Option.some.inj made
      exact .inr ⟨if_neg (by rw [used]; exact Signal.noConfusion), .inl rfl⟩
    · cases made
  | wait limit =>
    simp only [step, wait] at made
    split at made
    · obtain rfl := Option.some.inj made
      exact .inr ⟨rfl, .inl (looked limit)⟩
    · cases made
  | look =>
    simp only [step, look] at made
    split at made
    · next limit _ =>
      obtain rfl := Option.some.inj made
      exact .inr ⟨rfl, .inl (looked limit)⟩
    · cases made
  | stir =>
    simp only [step, stir] at made
    split at made
    · obtain rfl := Option.some.inj made
      exact .inr ⟨rfl, .inl rfl⟩
    · cases made
  | expire =>
    simp only [step, expire] at made
    split at made
    · obtain rfl := Option.some.inj made
      exact .inr ⟨rfl, .inl rfl⟩
    · obtain rfl := Option.some.inj made
      exact .inr ⟨rfl, .inl rfl⟩
    · cases made
  | leave =>
    obtain ⟨⟨result, left⟩, leaves, rfl⟩ := Option.map_eq_some_iff.mp made
    unfold leave at leaves
    split at leaves
    · obtain ⟨-, rfl⟩ := Prod.mk.inj (Option.some.inj leaves)
      exact .inr ⟨rfl, .inr ⟨rfl, rfl⟩⟩
    · cases leaves
  | quit =>
    simp only [step, quit] at made
    split at made
    · obtain rfl := Option.some.inj made
      exact .inr ⟨rfl, .inl rfl⟩
    · cases made

/-- What comes through a handoff. -/
structure Faithful (past : List (Moment (Handoff ρ) (Act ρ))) (now : Handoff ρ) : Prop where
  /-- The slot is filled once at most. -/
  once : (past.filterMap filled).length ≤ 1
  /-- Whatever fills it finds it empty. -/
  fills : ∀ moment ∈ past, ∀ after, step moment.before moment.move = some after →
    ∀ completion, filled moment = some completion →
      moment.before.slot = none ∧ after.slot = some completion
  /-- What is in it stays until the driver leaves. -/
  keeps : ∀ moment ∈ past, ∀ after, step moment.before moment.move = some after →
    filled moment = none → moment.move ≠ .leave → after.slot = moment.before.slot
  /-- The driver is told once at most. -/
  single : (past.filterMap told).length ≤ 1
  /-- It is told how its callback ended if the slot was filled by then.  Else its limit has passed,
  and the slot is empty. -/
  returned : ∀ earlier moment later result, past = earlier ++ moment :: later →
    told moment = some result →
      (∃ completion, earlier.filterMap filled = [completion] ∧
        moment.before.slot = some completion ∧ result = completion.result) ∨
      (earlier.filterMap filled = [] ∧ moment.before.slot = none ∧
        ∃ limit, earlier.filterMap limited = [some limit] ∧ result = .error (.timeout limit))
  /-- It gets a value only if that was signalled. -/
  value : ∀ value, .ok value ∈ past.filterMap told → past.filterMap signalled = [.ok value]
  /-- It gets a fault only if one with this message was signalled. -/
  fault : ∀ text, .error (.fault text) ∈ past.filterMap told →
    ∃ cause, past.filterMap signalled = [.error cause] ∧ cause.text = text
  /-- Unless its limit passes, it is told of an abandonment if and only if the signal was dropped
  and not used. -/
  abandoned : ∀ result ∈ past.filterMap told, (∀ limit, result ≠ .error (.timeout limit)) →
    (result = .error .abandoned ↔ Forsaken past)
  /-- What is in the slot when it begins to wait it gets at once, whatever its limit. -/
  prompt : ∀ completion, now.slot = some completion → now.waiter = .ready →
    ∀ limit, ∃ holding left, now.wait limit = some holding ∧
      holding.leave = some (completion.result, left)
  /-- A driver that has done waiting and does not give up has something to take. -/
  full : now.isLocked = true → now.gaveUp? = none → now.slot ≠ none
  /-- While the driver is asleep, and nothing has woken it, the slot is empty. -/
  rested : ∀ limit, now.waiter = .asleep limit → now.slot = none

theorem told_eq_some {moment : Moment (Handoff ρ) (Act ρ)} {result : Except Failure ρ}
    (answered : told moment = some result) :
    ∃ after, moment.before.leave = some (result, after) := by
  obtain ⟨before, act⟩ := moment
  cases act with
  | leave =>
    obtain ⟨⟨result, after⟩, leaves, rfl⟩ := Option.map_eq_some_iff.mp answered
    exact ⟨after, leaves⟩
  | _ => cases answered

/-- Only a signal that was not used fills a slot. -/
theorem held_of_filled (made : before.step act = some after)
    (fills : filled ⟨before, act⟩ = some completion) : before.signal = .held := by
  cases act with
  | signal outcome =>
    simp only [step, complete] at made
    split at made
    · next held => exact held
    · cases made
  | drop =>
    simp only [filled] at fills
    split at fills
    · next held => exact held
    · cases fills
  | _ => cases fills

/-- A driver that was told of something else than its limit has taken what was in the slot. -/
theorem Driven.taken_of_mem {slot : Option (Completion ρ)} {waiter : Waiter}
    {result : Except Failure ρ} (driven : Driven fillings limits answers slot waiter)
    (answered : result ∈ answers) (inTime : ∀ limit, result ≠ .error (.timeout limit)) :
    ∃ completion, fillings = [completion] ∧ result = completion.result := by
  -- Whoever was told something has left, with what was in the slot or without.
  cases driven with
  | taken completion limit => exact ⟨completion, rfl, List.mem_singleton.mp answered⟩
  | timedOut _ limit => exact absurd (List.mem_singleton.mp answered) (inTime limit)
  | _ => cases answered

theorem Driven.length_le {slot : Option (Completion ρ)} {waiter : Waiter}
    (driven : Driven fillings limits answers slot waiter) : answers.length ≤ 1 := by
  cases driven <;> simp

theorem Driven.slot_of_asleep {slot : Option (Completion ρ)} {limit : Option Span}
    (driven : Driven fillings limits answers slot (.asleep limit)) : slot = none := by
  cases driven
  rfl

theorem Driven.fillings_of_asleep {slot : Option (Completion ρ)} {limit : Option Span}
    (driven : Driven fillings limits answers slot (.asleep limit)) : fillings = [] := by
  cases driven
  rfl

theorem Driven.slot_of_ready {slot : Option (Completion ρ)}
    (driven : Driven fillings limits answers slot .ready) : slot = fillings.head? := by
  cases driven
  rfl

/-- A driver that has done waiting has met something, or its limit has passed. -/
theorem Driven.slot_ne_none (driven : Driven fillings limits answers handoff.slot handoff.waiter)
    (locked : handoff.isLocked = true) (kept : handoff.gaveUp? = none) : handoff.slot ≠ none := by
  obtain ⟨slot, signal, waiter⟩ := handoff
  cases driven with
  | met completion limit => exact Option.some_ne_none completion
  | late _ limit =>
    intro empty
    cases fillings with
    | nil => cases kept
    | cons completion rest => cases empty
  | _ => cases locked

theorem Driven.slot_of_nil {slot : Option (Completion ρ)} {waiter : Waiter}
    (driven : Driven [] limits answers slot waiter) : slot = none := by
  cases driven <;> rfl

theorem fills_of_filled {moment : Moment (Handoff ρ) (Act ρ)}
    (run : Run step ({} : Handoff ρ) past now) (member : moment ∈ past)
    (made : step moment.before moment.move = some after) (fills : filled moment = some completion) :
    moment.before.slot = none ∧ after.slot = some completion := by
  obtain ⟨earlier, rest, -, -, upTo, -, -⟩ := run.of_mem member
  obtain ⟨hosted, driven⟩ := sound_of_run upTo
  -- The signal is still held, so nothing has filled the slot before.
  have held : moment.before.signal = .held := held_of_filled made fills
  rw [held] at hosted
  rw [hosted.eq_nil_of_held] at driven
  have empty : moment.before.slot = none := driven.slot_of_nil
  refine ⟨empty, ?_⟩
  rcases step_slot made with ⟨other, same, slot⟩ | ⟨nothing, -⟩
  · rw [slot, ← same, fills]
  · rw [fills] at nothing
    cases nothing

/-- What a driver is told when it leaves is what is in the slot, and else that its limit has
passed. -/
theorem reason_of_told {moment : Moment (Handoff ρ) (Act ρ)}
    {earlier later : List (Moment (Handoff ρ) (Act ρ))} {result : Except Failure ρ}
    (run : Run step ({} : Handoff ρ) (earlier ++ moment :: later) now)
    (answered : told moment = some result) :
    (∃ completion, earlier.filterMap filled = [completion] ∧
      moment.before.slot = some completion ∧ result = completion.result) ∨
    (earlier.filterMap filled = [] ∧ moment.before.slot = none ∧
      ∃ limit, earlier.filterMap limited = [some limit] ∧ result = .error (.timeout limit)) := by
  obtain ⟨middle, upTo, onward⟩ := run.of_append
  obtain ⟨rfl, -⟩ := onward.of_cons
  obtain ⟨hosted, driven⟩ := sound_of_run upTo
  obtain ⟨after, made⟩ := told_eq_some answered
  obtain ⟨-, -, -, reason⟩ := driven.leave hosted.length_le made
  exact reason

/-- A driver that was told of something else than an abandonment or its limit was told how its own
callback ended. -/
theorem Sound.exists_outcome {result : Except Failure ρ}
    (sound : Sound outcomes fillings limits answers handoff) (answered : result ∈ answers)
    (inTime : ∀ limit, result ≠ .error (.timeout limit)) (handled : result ≠ .error .abandoned) :
    ∃ outcome, outcomes = [outcome] ∧ result = (Completion.ofOutcome outcome).result := by
  obtain ⟨hosted, driven⟩ := sound
  obtain ⟨completion, rfl, rfl⟩ := driven.taken_of_mem answered inTime
  have kept : completion ≠ .abandoned := by
    rintro rfl
    exact handled rfl
  obtain ⟨outcome, signalled, rfl⟩ := hosted.exists_outcome kept
  exact ⟨outcome, signalled, rfl⟩

theorem abandoned_iff_forsaken {result : Except Failure ρ}
    (run : Run step ({} : Handoff ρ) past now) (answered : result ∈ past.filterMap told)
    (inTime : ∀ limit, result ≠ .error (.timeout limit)) :
    result = .error .abandoned ↔ Forsaken past := by
  obtain ⟨hosted, driven⟩ := sound_of_run run
  obtain ⟨completion, full, rfl⟩ := driven.taken_of_mem answered inTime
  rw [full] at hosted
  constructor
  · intro same
    obtain rfl : completion = .abandoned := Completion.result_injective same
    have unsignalled : past.filterMap signalled = [] := hosted.abandoned_iff.mp rfl
    have member : Completion.abandoned ∈ past.filterMap filled := full ▸ List.mem_singleton_self _
    exact (forsaken_of_filled unsignalled member).2
  · intro forsaken
    rw [hosted.abandoned_iff.mpr forsaken.1]
    rfl

/-- A driver that begins to wait takes what is in the slot, whatever its limit. -/
theorem prompt_of_slot (slot : handoff.slot = some completion) (ready : handoff.waiter = .ready)
    (limit : Option Span) : ∃ holding left, handoff.wait limit = some holding ∧
      holding.leave = some (completion.result, left) := by
  have waits : handoff.wait limit = some { handoff with waiter := .holding limit false } := by
    rw [wait, ready]
    show some (handoff.lookFor limit) = _
    rw [lookFor, slot]
  have leaves : ({ handoff with waiter := .holding limit false } : Handoff ρ).leave =
      some (completion.result, { handoff with slot := none, waiter := .gone }) := by
    cases limit <;> simp only [leave, gaveUp?, slot, finish]
  exact ⟨_, _, waits, leaves⟩

/-- In whatever order the halves of a handoff go on, it is faithful. -/
theorem faithful_of_run (run : Run step ({} : Handoff ρ) past now) : Faithful past now := by
  have sound := sound_of_run run
  constructor
  case once => exact sound.hosted.length_le
  case fills =>
    intro moment member after made completion fills
    exact fills_of_filled run member made fills
  case keeps =>
    intro moment member after made silent stays
    rcases step_slot made with ⟨completion, fills, -⟩ | ⟨-, same | ⟨leaves, -⟩⟩
    · rw [silent] at fills
      cases fills
    · exact same
    · exact absurd leaves stays
  case single => exact sound.driven.length_le
  case returned =>
    intro earlier moment later result whole answered
    subst whole
    exact reason_of_told run answered
  case value =>
    intro value answered
    obtain ⟨outcome, signalled, same⟩ := sound.exists_outcome answered (by simp) (by simp)
    have ends : Completion.ofOutcome outcome = .value value := Completion.result_injective same.symm
    rw [signalled, Completion.ofOutcome_eq_value_iff.mp ends]
  case fault =>
    intro text answered
    obtain ⟨outcome, signalled, same⟩ := sound.exists_outcome answered (by simp) (by simp)
    have ends : Completion.ofOutcome outcome = .fault text := Completion.result_injective same.symm
    obtain ⟨cause, rfl, text_eq⟩ := Completion.ofOutcome_eq_fault_iff.mp ends
    exact ⟨cause, signalled, text_eq⟩
  case abandoned =>
    intro result answered inTime
    exact abandoned_iff_forsaken run answered inTime
  case prompt =>
    intro completion slot ready limit
    exact prompt_of_slot slot ready limit
  case full =>
    intro locked kept
    exact sound.driven.slot_ne_none locked kept
  case rested =>
    intro limit asleep
    have driven := sound.driven
    rw [asleep] at driven
    exact driven.slot_of_asleep

/-! ### What fills the slot -/

variable {moment : Moment (Handoff ρ) (Act ρ)}

/-- What was signalled is what the slot was filled with. -/
theorem filled_of_signal {outcome : Except Fault ρ} (run : Run step ({} : Handoff ρ) past now)
    (member : moment ∈ past) (signals : moment.move = .signal outcome) :
    past.filterMap filled = [.ofOutcome outcome] ∧ past.filterMap signalled = [outcome] := by
  obtain ⟨hosted, -⟩ := sound_of_run run
  exact hosted.of_mem (List.mem_filterMap.mpr ⟨moment, member, by rw [signalled, signals]⟩)

/-- If the signal was dropped and nothing had been signalled, the slot was filled with an
abandonment. -/
theorem filled_of_drop (run : Run step ({} : Handoff ρ) past now) (member : moment ∈ past)
    (drops : moment.move = .drop) (silent : past.filterMap signalled = []) :
    past.filterMap filled = [.abandoned] := by
  obtain ⟨earlier, rest, after, whole, upTo, -, -⟩ := run.of_mem member
  obtain ⟨hosted, -⟩ := sound_of_run run
  rw [silent] at hosted
  rcases hosted.of_nil with ⟨empty, -⟩ | full
  · -- Nothing had filled the slot before the drop, so the drop did.
    obtain ⟨before, -⟩ := sound_of_run upTo
    rw [whole, List.filterMap_append, List.append_eq_nil_iff] at silent empty
    rw [silent.1, empty.1] at before
    rcases before.of_nil with ⟨-, held⟩ | full
    · have fills : filled moment = some .abandoned := by rw [filled, drops, if_pos held]
      rw [List.filterMap_cons, fills] at empty
      cases empty.2
    · cases full
  · exact full

/-- What a driver gets once the slot was filled with a completion. -/
structure Gets (completion : Completion ρ) (past : List (Moment (Handoff ρ) (Act ρ)))
    (now : Handoff ρ) : Prop where
  /-- The slot was filled with it, and with nothing else. -/
  filled : past.filterMap filled = [completion]
  /-- It is what the driver is told, unless its limit has passed. -/
  told : ∀ result ∈ past.filterMap told, result = completion.result ∨
    ∃ limit, result = .error (.timeout limit)
  /-- A driver that begins to wait is told so at once. -/
  prompt : now.waiter = .ready → ∀ limit, ∃ holding left, now.wait limit = some holding ∧
    holding.leave = some (completion.result, left)
  /-- A driver that waits already is not left asleep. -/
  roused : ∀ limit, now.waiter ≠ .asleep limit

theorem gets_of_filled (run : Run step ({} : Handoff ρ) past now)
    (full : past.filterMap filled = [completion]) : Gets completion past now := by
  obtain ⟨-, driven⟩ := sound_of_run run
  rw [full] at driven
  constructor
  case filled => exact full
  case told =>
    intro result answered
    by_cases late : ∃ limit, result = .error (.timeout limit)
    · exact .inr late
    · obtain ⟨other, same, told⟩ := driven.taken_of_mem answered (not_exists.mp late)
      obtain rfl := List.singleton_inj.mp same
      exact .inl told
  case prompt =>
    intro ready limit
    rw [ready] at driven
    have slot : now.slot = some completion := driven.slot_of_ready
    exact prompt_of_slot slot ready limit
  case roused =>
    intro limit asleep
    rw [asleep] at driven
    cases driven.fillings_of_asleep

/-! ### Many handoffs -/

variable {ι : Type} [DecidableEq ι] {π : ι → Type}

/-- Many handoffs, each with results of its own type. -/
abbrev Many (π : ι → Type) := ∀ index, Handoff (π index)

/-- Something that happens to one of many handoffs. -/
abbrev ActAt (π : ι → Type) := (index : ι) × Act (π index)

/-- The handoffs after something has happened to one of them. -/
def stepOne (handoffs : Many π) (move : ActAt π) : Option (Many π) :=
  (step (handoffs move.1) move.2).map (Function.update handoffs move.1)

/-- What happens to one handoff, if it is that one which something happens to. -/
def actOf (index : ι) (_ : Many π) (move : ActAt π) : Option (Act (π index)) :=
  if same : move.1 = index then some (same ▸ move.2) else none

/-- What has happened to one handoff. -/
def own (index : ι) (past : List (Moment (Many π) (ActAt π))) :
    List (Moment (Handoff (π index)) (Act (π index))) :=
  past.filterMap (Moment.seen (fun handoffs => handoffs index) (actOf index))

/-- What comes through many handoffs. -/
structure Exchanged (past : List (Moment (Many π) (ActAt π))) (now : Many π) : Prop where
  /-- Every one of them is faithful. -/
  faithful : ∀ index, Faithful (own index past) (now index)
  /-- Nothing that happens to one of them changes another one. -/
  apart : ∀ moment ∈ past, ∀ after, stepOne moment.before moment.move = some after →
    ∀ index, index ≠ moment.move.1 → after index = moment.before index

variable {handoffs later : Many π} {move : ActAt π} {index : ι}

theorem stepOne_apart (made : stepOne handoffs move = some later) (other : index ≠ move.1) :
    later index = handoffs index := by
  obtain ⟨one, -, rfl⟩ := Option.map_eq_some_iff.mp made
  exact Function.update_of_ne other _ _

/-- What happens to one of many handoffs is a step of its own. -/
theorem stepOne_follows (made : stepOne handoffs move = some later) :
    Follows step (handoffs index) (actOf index handoffs move) (later index) := by
  obtain ⟨other, act⟩ := move
  unfold actOf
  by_cases same : other = index
  · subst same
    obtain ⟨one, acts, rfl⟩ := Option.map_eq_some_iff.mp made
    rw [dif_pos rfl, Function.update_self]
    exact acts
  · rw [dif_neg same]
    exact stepOne_apart made (Ne.symm same)

/-- In whatever order the halves of any number of handoffs go on, every one of them is faithful and
none changes another one. -/
theorem exchanged_of_run {past : List (Moment (Many π) (ActAt π))} {now : Many π}
    (run : Run stepOne (fun _ => {}) past now) : Exchanged past now := by
  refine ⟨fun index => ?_, fun moment _ after made index other => stepOne_apart made other⟩
  have alone : Run step ({} : Handoff (π index)) (own index past) (now index) :=
    run.seen fun handoffs move later made => stepOne_follows made
  exact faithful_of_run alone

/-- One driver gives up at once, and its callback ends later; what the other one waits for is there
already, so that it gets it though its limit has passed as well. -/
theorem exchanged_of_late_signal : ∃ past, ∃ now : Bool → Handoff Nat,
    Run stepOne (fun _ => {}) past now ∧
      (own true past).filterMap told = [.error (.timeout ⟨0⟩)] ∧
        (own false past).filterMap told = [.ok 7] ∧ Exchanged past now := by
  have run := Run.of_moves stepOne (fun _ : Bool => ({} : Handoff Nat))
    [⟨true, .wait (some ⟨0⟩)⟩, ⟨false, .wait (some ⟨5⟩)⟩, ⟨true, .expire⟩, ⟨false, .stir⟩,
      ⟨false, .signal (.ok 7)⟩, ⟨false, .expire⟩, ⟨true, .leave⟩, ⟨true, .signal (.ok 3)⟩,
      ⟨false, .drop⟩, ⟨false, .leave⟩, ⟨true, .drop⟩]
  exact ⟨_, _, run, rfl, rfl, exchanged_of_run run⟩

end Handoff
end CallbackFerry
