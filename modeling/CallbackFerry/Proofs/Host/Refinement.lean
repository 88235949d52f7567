import CallbackFerry.Proofs.Host.Table

/-!
# The host refines a map and one handler

Host code comes in turns: one piece after the other is carried out, whatever became of those before
it, and each may have the host act as often as it likes, run handlers that do the same, break off
anywhere, and catch what breaks off within it and go on.  `refines_of_turns` says that all that can
be observed meanwhile, in every turn and at every depth, is what would be observed on a `Table`,
that the table afterwards is what the actions made of it in their order, and that the host tells of
its routing as a map would.
-/

namespace CallbackFerry

variable {σ S T : Type}

/-! ### Turns -/

/-- Carries reactions out one after the other, whatever becomes of each. -/
def runAll (perform : Performer σ) : List (Reaction σ) → Host σ → List (Except Fault Bool) × Host σ
  | [], host => ([], host)
  | reaction :: rest, host =>
    let (outcome, host) := reaction.run perform host
    let (outcomes, host) := runAll perform rest host
    (outcome :: outcomes, host)

/-- Carries reactions out one after the other, whatever becomes of each, and takes down what
happens. -/
def enactAll (keeping : Keeping σ S) (watch : Watcher σ S) :
    List (Reaction σ) → S → List (Course σ Bool) × S
  | [], s => ([], s)
  | reaction :: rest, s =>
    let (course, s) := reaction.enact keeping watch s
    let (courses, s) := enactAll keeping watch rest s
    (course :: courses, s)

/-- Incidents that come after others are replayed after them. -/
theorem replayAll_append (first second : List (Incident σ)) (table : Table σ) :
    replayAll (first ++ second) table = replayAll second (replayAll first table) := by
  induction first generalizing table with
  | nil => rfl
  | cons incident rest ih =>
    rw [List.cons_append, replayAll, replayAll]
    exact ih _

namespace Host

/-! ### What the host tells of its routing -/

/-- What the host tells of its routing, and what its actions make of it. -/
structure Lawful (host : Host σ) : Prop where
  /-- A channel gets the handler, and the one that it had comes back. -/
  register : ∀ channel handler,
    (host.register channel handler).1 = host.table.handlers channel ∧
      (host.register channel handler).2.table = host.table.assign channel (some handler)
  /-- A channel loses its handler, which comes back. -/
  unregister : ∀ channel,
    (host.unregister channel).1 = host.table.handlers channel ∧
      (host.unregister channel).2.table = host.table.assign channel none
  /-- All channels lose their handlers, and it is told how many there were. -/
  clear : host.clearAll.1 = host.size ∧ host.clearAll.2.table = host.table.clear ∧
    host.reset.table = host.table.clear ∧ host.close.table = host.table.clear
  /-- There is another response handler. -/
  setResponder : ∀ handler,
    (host.setResponder handler).table = { host.table with responder := handler }
  /-- The handler that is found is the one that the channel has. -/
  lookup : ∀ channel handler,
    host.lookup channel = .ok handler ↔ host.table.handlers channel = some handler
  /-- A handler is found if the channel is open. -/
  isOpen : ∀ channel, (∃ handler, host.lookup channel = .ok handler) ↔ host.isOpen channel = true
  /-- The open channels are listed. -/
  channels : ∀ channel, host.isOpen channel = true ↔ channel ∈ host.channels
  /-- The list is in ascending order, each channel once. -/
  ascending : host.channels.Pairwise fun first second => first.number < second.number
  /-- The channels are counted. -/
  size : host.size = host.channels.length ∧ (host.isEmpty = true ↔ host.size = 0)
  /-- A delivery changes the routing by the actions within, and by nothing else. -/
  dispatch : ∀ room event, (host.watch room (.dispatch event)).2.table =
    replayAll (host.watch room (.dispatch event)).1.incidents host.table
  /-- A response goes to the handler that is installed when it is delivered, whatever that one
  does. -/
  respond : ∀ room response, ∃ within, ∃ answer : Except Fault Bool,
    (host.watch (room + 1) (.respond response)).1 =
        ⟨.called (.response host.responder response) :: within, answer.map .responded⟩ ∧
      (∀ incident ∈ within, ∃ action meanwhile sighting, incident = .did action meanwhile sighting) ∧
      (host.watch (room + 1) (.respond response)).2.table = replayAll within host.table

theorem lookup_eq_ok_iff (host : Host σ) (channel : Channel) (handler : EventHandler σ) :
    host.lookup channel = .ok handler ↔ host.table.handlers channel = some handler := by
  rw [← lookup_table, Table.lookup]
  cases host.table.handlers channel <;> simp

/-- The routing after an action is what the action and all within it make of it. -/
theorem table_watch (room : Nat) (action : Action σ) (host : Host σ) :
    (host.watch room action).2.table =
      replayAll (host.watch room action).1.incidents (host.table.after action) := by
  have replays := Table.watch_replay room action host.view
  rw [watch_view room action host] at replays
  exact replays

theorem lawful (host : Host σ) : host.Lawful where
  register channel handler :=
    ⟨registered_table host channel handler, table_register host channel handler⟩
  unregister channel := ⟨removed_table host channel, table_unregister host channel⟩
  clear := ⟨rfl, rfl, rfl, rfl⟩
  setResponder handler := rfl
  lookup := lookup_eq_ok_iff host
  isOpen channel := by
    simp only [lookup_eq_ok_iff, ← isOpen_table, Table.isOpen, Option.isSome_iff_exists]
  channels channel := by
    rw [isOpen, ChannelMap.contains_eq_isSome]
    exact ChannelMap.mem_channels.symm
  ascending := ChannelMap.channels_ascending
  size := ⟨ChannelMap.length_channels.symm, ChannelMap.isEmpty_iff⟩
  dispatch room event := table_watch room (.dispatch event) host
  respond room response := by
    refine ⟨_, _, rfl, Reaction.did_of_mem_enact _ host, ?_⟩
    exact table_watch (room + 1) (.respond response) host

/-! ### Refinement -/

/-- What turns on the host come to: the courses they take, and the host afterwards. -/
structure Refines (room : Nat) (turns : List (Reaction σ)) (host : Host σ)
    (courses : List (Course σ Bool)) (after : Host σ) : Prop where
  /-- This is what the host does. -/
  runs : runAll (perform room) turns host = (courses.map (·.outcome), after)
  /-- All that happens, at any depth, before a fault and after one that is caught, is what happens
  on a table. -/
  observed : enactAll Table.keeping (Table.watch room) turns host.view = (courses, after.view)
  /-- The table afterwards is what all actions made of it, those within others included and those
  that broke off too. -/
  replayed : after.table = replayAll (courses.flatMap (·.incidents)) host.table
  /-- The host that the turns lead to tells of its routing as a map does. -/
  lawful : after.Lawful

/-- Whatever turns are taken on a host, it refines a map and one handler. -/
theorem refines_of_turns (room : Nat) (turns : List (Reaction σ)) (host : Host σ) :
    ∃ courses after, Refines room turns host courses after := by
  induction turns generalizing host with
  | nil => exact ⟨[], host, rfl, rfl, rfl, host.lawful⟩
  | cons reaction rest ih =>
    have seen : Seen (watch room : Watcher σ (Host σ)) (Table.watch room) := watch_view room
    have runs := (perform_eq_watch room).run reaction host
    have observed := seen.enact reaction host
    have replayed := (Table.watch_replay room).enact reaction host.view
    rw [observed] at replayed
    obtain ⟨courses, after, later⟩ := ih (reaction.enact keeping (watch room) host).2
    refine ⟨(reaction.enact keeping (watch room) host).1 :: courses, after, ?_, ?_, ?_,
      later.lawful⟩
    · rw [runAll, runs]
      simp only [later.runs, List.map_cons]
    · rw [enactAll, observed]
      simp only [later.observed]
    · rw [List.flatMap_cons, replayAll_append, later.replayed]
      exact congrArg _ replayed

end Host
end CallbackFerry
