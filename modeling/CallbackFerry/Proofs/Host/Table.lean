import CallbackFerry.Proofs.Host.Watch
import Mathlib.Data.List.Perm.Basic
import Mathlib.Logic.Function.Basic

/-!
# The host as a map and one handler

What the host keeps of routing is less than what is in its state: which handler a channel has, and
which handler responses go to.  Stamps and staging buffers are no part of it.  A `Table` has just
that, as a map and one handler, and `Table.watch` is how the host acts if only that is looked at:
the handlers of a table are called with what is sent to them.

`watch_view` says that a host, seen as a table, acts as the table does: whatever happens, at any
depth of nesting and up to any fault, is the same, and so is the table that it leads to.
`watch_replay` adds that the table changes by the actions that were taken down, and by nothing else.
-/

namespace CallbackFerry

variable {σ : Type}

/-- All channels there can be, in ascending order. -/
def Channel.every : List Channel :=
  (List.range 256).map fun number => ⟨UInt8.ofNat number⟩

/-- A map from channels to handlers, and a response handler. -/
structure Table (σ : Type) where
  /-- Who handles the events of a channel. -/
  handlers : Channel → Option (EventHandler σ)
  /-- Who handles responses. -/
  responder : ResponseHandler σ

/-- Whether an action delivers a message to a handler. -/
def Action.delivers : Action σ → Bool
  | .dispatch _ | .respond _ => true
  | _ => false

namespace Table

/-! ### Actions on a table -/

/-- The table with another handler, or none, for a channel. -/
def assign (channel : Channel) (handler : Option (EventHandler σ)) (table : Table σ) : Table σ :=
  { table with handlers := Function.update table.handlers channel handler }

/-- The table without any handlers of channels. -/
def clear (table : Table σ) : Table σ :=
  { table with handlers := fun _ => none }

/-- Whether a channel has a handler. -/
def isOpen (table : Table σ) (channel : Channel) : Bool :=
  (table.handlers channel).isSome

/-- The channels that have handlers, in ascending order. -/
def channels (table : Table σ) : List Channel :=
  Channel.every.filter table.isOpen

/-- The handler of a channel. -/
def lookup (table : Table σ) (channel : Channel) : Except Failure (EventHandler σ) :=
  match table.handlers channel with
  | some handler => .ok handler
  | none => .error (.unknownChannel channel)

/-- What an action itself makes of a table. -/
def after (table : Table σ) : Action σ → Table σ
  | .register channel handler => table.assign channel (some handler)
  | .unregister channel => table.assign channel none
  | .clearAll | .reset | .close => table.clear
  | .setResponder handler => { table with responder := handler }
  | _ => table

/-- What an action that delivers nothing tells of a table. -/
def sight (table : Table σ) : Action σ → Sighting σ
  | .register channel _ => .replaced (table.handlers channel)
  | .lookup channel => .found (table.lookup channel)
  | .unregister channel => .removed (table.handlers channel)
  | .clearAll | .size => .count table.channels.length
  | .isOpen channel => .isOpen (table.isOpen channel)
  | .isEmpty => .isEmpty table.channels.isEmpty
  | .channels => .channels table.channels
  | _ => .done

/-- How handlers remember and write where there is only a table. -/
def keeping : Keeping σ (Table σ × σ) where
  memory state := state.2
  remember state change := (state.1, change state.2)
  write state _ := state

/-- Carries an action out on a table and what the handlers remember. -/
def watch : (room : Nat) → Watcher σ (Table σ × σ)
  | 0, .dispatch _, state => ({ outcome := .error Host.noRoom }, state)
  | 0, .respond _, state => ({ outcome := .error Host.noRoom }, state)
  | room + 1, .dispatch event, state =>
    match state.1.handlers event.channel with
    | none => ({ outcome := .ok (.delivered (.error (.unknownChannel event.channel))) }, state)
    | some handler =>
      match checkPayload event.payload with
      | .error cause => ({ outcome := .ok (.delivered (.error (.protocol cause))) }, state)
      | .ok () =>
        let (course, after) := (handler.react event).enact keeping (watch room) state
        (⟨.called (.event handler event) :: course.incidents,
          course.outcome.map fun handled => .delivered (.ok handled)⟩, after)
  | room + 1, .respond response, state =>
    let (course, after) := (state.1.responder.react response).enact keeping (watch room) state
    (⟨.called (.response state.1.responder response) :: course.incidents,
      course.outcome.map .responded⟩, after)
  | _, action, state => ({ outcome := .ok (state.1.sight action) }, (state.1.after action, state.2))

end Table

/-! ### Replaying -/

mutual

/-- What an incident makes of a table. -/
def Incident.replay : Incident σ → Table σ → Table σ
  | .called _, table => table
  | .did action meanwhile _, table => replayAll meanwhile (table.after action)

/-- What incidents make of a table, one after the other. -/
def replayAll : List (Incident σ) → Table σ → Table σ
  | [], table => table
  | incident :: rest, table => replayAll rest (incident.replay table)

end

namespace Table

/-- Whether actions change tables as the incidents tell. -/
def Replays (watcher : Watcher σ (Table σ × σ)) : Prop :=
  ∀ action state, (watcher action state).2.1 =
    replayAll (watcher action state).1.incidents (state.1.after action)

/-- A reaction changes a table as its incidents tell. -/
theorem Replays.enact {watcher : Watcher σ (Table σ × σ)} (replays : Replays watcher)
    (reaction : Reaction σ) (state : Table σ × σ) :
    (reaction.enact keeping watcher state).2.1 =
      replayAll (reaction.enact keeping watcher state).1.incidents state.1 := by
  refine Reaction.enact_induction
    (P := fun state incidents after => after.1 = replayAll incidents state.1) ?_ ?_ ?_ ?_
    reaction state
  · intro state
    rfl
  · intro state change incidents after h
    exact h
  · intro state line incidents after h
    exact h
  · intro action state rest after h
    rw [h, replayAll, Incident.replay, replays]

/-- A table changes by the actions that are taken down, and by nothing else. -/
theorem watch_replay (room : Nat) : Replays (watch room : Watcher σ (Table σ × σ)) := by
  induction room with
  | zero =>
    intro action state
    cases action <;> rfl
  | succ room ih =>
    intro action state
    cases action with
    | dispatch event =>
      rw [Table.watch]
      cases state.1.handlers event.channel with
      | none => rfl
      | some handler =>
        cases checkPayload event.payload with
        | error cause => rfl
        | ok fits => exact ih.enact (handler.react event) state
    | respond response => exact ih.enact (state.1.responder.react response) state
    | _ => rfl

end Table

/-! ### The host as a table -/

namespace Host

/-- The routing of the host. -/
def table (host : Host σ) : Table σ where
  handlers channel := (host.routes.get? channel).map (·.handler)
  responder := host.responder

theorem handlers_table (host : Host σ) (channel : Channel) :
    host.table.handlers channel = (host.routes.get? channel).map (·.handler) := rfl

/-- The routing of the host, and what its handlers remember. -/
def view (host : Host σ) : Table σ × σ := (host.table, host.memory)

/-- A staging buffer is no part of the routing. -/
@[simp]
theorem view_restage (host : Host σ) (channel : Channel) (stamp : Nat) (bytes : Bytes) :
    (host.restage channel stamp bytes).view = host.view := by
  have handlers : (host.restage channel stamp bytes).table.handlers = host.table.handlers := by
    funext other
    simp only [table, restage, ChannelMap.get?_modify]
    split
    · cases host.routes.get? other with
      | none => rfl
      | some entry => simp only [Option.map_some]; split <;> rfl
    · rfl
  unfold view
  congr 1
  exact congrArg (fun handlers => Table.mk handlers host.responder) handlers

theorem table_register (host : Host σ) (channel : Channel) (handler : EventHandler σ) :
    (host.register channel handler).2.table = host.table.assign channel (some handler) := by
  unfold table Table.assign register
  congr 1
  funext other
  rw [ChannelMap.get?_insert, Function.update_apply]
  by_cases same : channel = other
  · simp [same]
  · simp [same, Ne.symm same]

theorem table_unregister (host : Host σ) (channel : Channel) :
    (host.unregister channel).2.table = host.table.assign channel none := by
  unfold table Table.assign unregister
  cases here : host.routes.get? channel with
  | none =>
    congr 1
    funext other
    rw [Function.update_apply]
    by_cases same : other = channel
    · simp [same, here]
    · simp [same]
  | some entry =>
    congr 1
    funext other
    rw [ChannelMap.get?_erase, Function.update_apply]
    by_cases same : channel = other
    · simp [same]
    · simp [same, Ne.symm same]

theorem memory_unregister (host : Host σ) (channel : Channel) :
    (host.unregister channel).2.memory = host.memory := by
  unfold unregister
  cases host.routes.get? channel <;> rfl

/-! ### Listing the channels -/

theorem mem_every (channel : Channel) : channel ∈ Channel.every := by
  obtain ⟨number⟩ := channel
  exact List.mem_map.mpr ⟨number.toNat, List.mem_range.mpr number.toNat_lt, by simp⟩

theorem every_ascending :
    Channel.every.Pairwise fun first second => first.number < second.number := by
  refine List.pairwise_map.mpr (List.pairwise_lt_range.imp_of_mem ?_)
  intro first second within within' less
  rw [List.mem_range] at within within'
  rw [UInt8.lt_iff_toNat_lt, UInt8.toNat_ofNat_of_lt' within, UInt8.toNat_ofNat_of_lt' within']
  exact less

theorem mem_channels_table (host : Host σ) (channel : Channel) :
    channel ∈ host.table.channels ↔ channel ∈ host.channels := by
  have listed : channel ∈ host.channels ↔ (host.routes.get? channel).isSome := ChannelMap.mem_channels
  rw [listed, Table.channels, List.mem_filter, Table.isOpen, table, Option.isSome_map]
  exact and_iff_right (mem_every channel)

/-- The channels of the host are those of its table, in the same order. -/
theorem channels_table (host : Host σ) : host.table.channels = host.channels := by
  have ascending : host.channels.Pairwise fun first second => first.number < second.number :=
    ChannelMap.channels_ascending
  have ascending' : host.table.channels.Pairwise fun first second => first.number < second.number :=
    every_ascending.filter _
  have perm : host.table.channels.Perm host.channels :=
    (List.perm_ext_iff_of_nodup (ChannelMap.nodup_of_ascending ascending')
      ChannelMap.nodup_channels).mpr (mem_channels_table host)
  exact perm.eq_of_pairwise (fun first second _ _ less more =>
    absurd (UInt8.lt_trans less more) (UInt8.lt_irrefl _)) ascending' ascending

theorem isOpen_table (host : Host σ) (channel : Channel) :
    host.table.isOpen channel = host.isOpen channel := by
  rw [Table.isOpen, table, Option.isSome_map, isOpen, ChannelMap.contains_eq_isSome]

theorem lookup_table (host : Host σ) (channel : Channel) :
    host.table.lookup channel = host.lookup channel := by
  unfold Table.lookup lookup
  rw [handlers_table]
  cases host.routes.get? channel <;> rfl

theorem size_table (host : Host σ) : host.table.channels.length = host.size := by
  rw [channels_table]
  exact ChannelMap.length_channels

theorem isEmpty_table (host : Host σ) : host.table.channels.isEmpty = host.isEmpty := by
  rw [Bool.eq_iff_iff, List.isEmpty_iff_length_eq_zero, size_table]
  exact ChannelMap.isEmpty_iff.symm

theorem registered_table (host : Host σ) (channel : Channel) (handler : EventHandler σ) :
    (host.register channel handler).1 = host.table.handlers channel := rfl

theorem removed_table (host : Host σ) (channel : Channel) :
    (host.unregister channel).1 = host.table.handlers channel := by
  unfold unregister
  rw [handlers_table]
  cases host.routes.get? channel <;> rfl

/-! ### Acting as the table does -/

/-- Whether a host, seen as a table, acts as the table does. -/
def Seen (watcher : Watcher σ (Host σ)) (watcher' : Watcher σ (Table σ × σ)) : Prop :=
  ∀ action host, watcher' action host.view = ((watcher action host).1, (watcher action host).2.view)

variable {watcher : Watcher σ (Host σ)} {watcher' : Watcher σ (Table σ × σ)}

/-- If the host acts as its table does, then so do the handlers. -/
theorem Seen.enact (seen : Seen watcher watcher') (reaction : Reaction σ) (host : Host σ) :
    reaction.enact Table.keeping watcher' host.view =
      ((reaction.enact keeping watcher host).1, (reaction.enact keeping watcher host).2.view) := by
  refine Reaction.enact_map ?_ ?_ ?_ seen reaction host
  · exact fun _ => rfl
  · exact fun _ _ => rfl
  · exact fun _ _ => rfl

/-- A delivery shows the handler exactly the event, whatever is in the staging buffer. -/
theorem watchDelivery_of_get? (watcher : Watcher σ (Host σ)) {event : ChannelEvent} {host : Host σ}
    {entry : Entry σ}
    (registered : host.routes.get? event.channel = some entry)
    (fits : checkPayload event.payload = .ok ()) :
    ∃ stage, stage.view = host.view ∧
      (host.watchDelivery watcher event).1 =
        ⟨.called (.event entry.handler event) ::
            ((entry.handler.react event).enact keeping watcher stage).1.incidents,
          ((entry.handler.react event).enact keeping watcher stage).1.outcome.map
            fun handled => .delivered (.ok handled)⟩ ∧
      (host.watchDelivery watcher event).2.view =
        ((entry.handler.react event).enact keeping watcher stage).2.view := by
  refine ⟨host.restage event.channel entry.stamp
    (event.payload ++ entry.staged.drop event.payload.length), view_restage .., ?_⟩
  -- What was left in the buffer is behind the payload and is cut off.
  have shown : { event with payload := (event.payload ++
      entry.staged.drop event.payload.length).take event.payload.length } = event := by
    rw [List.take_left]
  simp only [watchDelivery, registered, fits, shown]
  generalize (entry.handler.react event).enact keeping watcher _ = result
  obtain ⟨⟨incidents, outcome⟩, after⟩ := result
  cases outcome with
  | ok handled => exact ⟨rfl, view_restage ..⟩
  | error fault => exact ⟨rfl, rfl⟩

/-- An action that delivers nothing tells of the table and changes it as on the table itself. -/
theorem watch_of_not_delivers (room : Nat) {action : Action σ} (plain : action.delivers = false)
    (host : Host σ) : Table.watch room action host.view =
      ((watch room action host).1, (watch room action host).2.view) := by
  cases action with
  | dispatch | respond => cases plain
  | register channel handler =>
    simp only [Table.watch, watch, view, Table.sight, Table.after, table_register, registered_table]
    rfl
  | lookup channel => simp only [Table.watch, watch, view, Table.sight, Table.after, lookup_table]
  | unregister channel =>
    simp only [Table.watch, watch, view, Table.sight, Table.after, table_unregister, removed_table,
      memory_unregister]
  | isOpen channel => simp only [Table.watch, watch, view, Table.sight, Table.after, isOpen_table]
  | size => simp only [Table.watch, watch, view, Table.sight, Table.after, size_table]
  | isEmpty => simp only [Table.watch, watch, view, Table.sight, Table.after, isEmpty_table]
  | channels => simp only [Table.watch, watch, view, Table.sight, Table.after, channels_table]
  | clearAll =>
    simp only [Table.watch, watch, view, Table.sight, Table.after, size_table]
    rfl
  | setResponder | reset | close =>
    simp only [Table.watch, watch, view, Table.sight, Table.after]
    rfl

/-- The host, seen as a table, acts as the table does. -/
theorem watch_view (room : Nat) : Seen (watch room : Watcher σ (Host σ)) (Table.watch room) := by
  induction room with
  | zero =>
    intro action host
    cases delivers : action.delivers with
    | false => exact watch_of_not_delivers 0 delivers host
    | true => cases action <;> first | rfl | cases delivers
  | succ room ih =>
    intro action host
    cases action with
    | dispatch event =>
      rw [Table.watch, watch]
      have handlers : host.view.1.handlers event.channel = _ := handlers_table host event.channel
      cases registered : host.routes.get? event.channel with
      | none =>
        rw [handlers, registered]
        simp only [watchDelivery, registered, Option.map_none]
      | some entry =>
        rw [handlers, registered]
        simp only [Option.map_some]
        cases fits : checkPayload event.payload with
        | error cause => simp only [watchDelivery, registered, fits]
        | ok _ =>
          obtain ⟨stage, same, course, after⟩ :=
            watchDelivery_of_get? (watch room) registered fits
          rw [course, after, ← same, ih.enact]
    | respond response =>
      rw [Table.watch, watch, watchResponse]
      have same := ih.enact (host.responder.react response) host
      have responder : host.view.1.responder = host.responder := rfl
      rw [responder, same]
    | _ => exact watch_of_not_delivers _ rfl host

end Host
end CallbackFerry
