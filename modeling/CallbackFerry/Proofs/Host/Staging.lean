import CallbackFerry.Proofs.Device.Reset

/-!
# What is left in the staging buffers

The payload of an event is staged in the buffer of its channel's entry, and the buffer is blanked
when the handler answers.  A fault that comes out of the handler goes past the blanking, and the
payload stays behind until the next answer, or until the channel is given another entry.  An answer
blanks the entry that its own event was staged in.  If the channel has been given another entry
meanwhile, and what broke off there was caught, that one keeps its payloads.

What is in a buffer can be told from what happened: `leaveAll` keeps the payloads that were staged
for a channel and not blanked since, those of nested deliveries on top.  Which entry a channel has
is told by its stamp (`Lineage`).  `remainder_of_calm` says that the buffers hold just these
whenever no delivery is underway, whatever handlers did meanwhile, and that they are blank for every
channel on which no handler broke off.
-/

namespace CallbackFerry

variable {σ : Type}

/-! ### What incidents leave behind -/

/-- Whether an action gives a channel a new entry, or none at all. -/
def Action.renews (channel : Channel) : Action σ → Bool
  | .register other _ | .unregister other => decide (other = channel)
  | .clearAll | .reset | .close => true
  | _ => false

mutual

/-- Whether a channel is given a new entry, or none at all, in an incident. -/
def Incident.renews (channel : Channel) : Incident σ → Bool
  | .called _ => false
  | .did action meanwhile _ => action.renews channel || renewsAny channel meanwhile

/-- Whether a channel is given a new entry, or none at all, in any of these incidents. -/
def renewsAny (channel : Channel) : List (Incident σ) → Bool
  | [] => false
  | incident :: rest => incident.renews channel || renewsAny channel rest

end

/-- The payload that is staged for a channel if an action has its handler called. -/
def Action.staged? (channel : Channel) : Action σ → List (Incident σ) → Option Bytes
  | .dispatch event, _ :: _ => if event.channel = channel then some event.payload else none
  | _, _ => none

mutual

/-- The payloads in the buffer of a channel after an incident, the last one first. -/
def Incident.leave (channel : Channel) : Incident σ → List Bytes → List Bytes
  | .called _, left => left
  | .did action meanwhile sighting, left =>
    if action.renews channel then []
    else
      match action.staged? channel meanwhile with
      | none => leaveAll channel meanwhile left
      | some payload =>
        if sighting.isOk && !renewsAny channel meanwhile then []
        else leaveAll channel meanwhile (payload :: left)

/-- The payloads in the buffer of a channel after these incidents. -/
def leaveAll (channel : Channel) : List (Incident σ) → List Bytes → List Bytes
  | [], left => left
  | incident :: rest, left => leaveAll channel rest (incident.leave channel left)

end

/-- A handler that has its channel given to one that breaks off, and catches that, leaves the
payload of the event that the other one was called with. -/
example :
    let call : Call Unit := .response ResponseHandler.commenting ⟨⟨0⟩, .systemReset, []⟩
    leaveAll ⟨3⟩
      [.did (.dispatch ⟨⟨3⟩, .tx, [1]⟩)
        [.called call, .did (.register ⟨3⟩ (.commenting none)) [] (.ok (.replaced none)),
          .did (.dispatch ⟨⟨3⟩, .tx, [7]⟩) [.called call] (.error .wordless)]
        (.ok (.delivered (.ok true)))] [] = [[7]] := by decide

mutual

/-- Whether a handler of a channel broke off in an incident. -/
def Incident.interrupts (channel : Channel) : Incident σ → Bool
  | .called _ => false
  | .did action meanwhile sighting =>
    (action.staged? channel meanwhile).isSome && !sighting.isOk || interruptsAny channel meanwhile

/-- Whether a handler of a channel broke off in any of these incidents. -/
def interruptsAny (channel : Channel) : List (Incident σ) → Bool
  | [] => false
  | incident :: rest => incident.interrupts channel || interruptsAny channel rest

end

mutual

/-- Nothing is left behind where no handler broke off, if there was nothing before or the channel is
given a new entry. -/
theorem Incident.leave_of_answered {channel : Channel} {left : List Bytes} :
    (incident : Incident σ) → incident.interrupts channel = false →
      left = [] ∨ incident.renews channel = true → incident.leave channel left = []
  | .called _, _, blank => by
    rcases blank with nothing | renewed
    · exact nothing
    · cases renewed
  | .did action meanwhile sighting, answered, blank => by
    rw [Incident.interrupts, Bool.or_eq_false_iff] at answered
    obtain ⟨here, within⟩ := answered
    rw [Incident.leave]
    rw [Incident.renews, Bool.or_eq_true_iff] at blank
    by_cases renews : action.renews channel = true
    · rw [if_pos renews]
    · rw [if_neg renews]
      have blank : left = [] ∨ renewsAny channel meanwhile = true :=
        blank.imp_right fun either => either.resolve_left renews
      cases staged : action.staged? channel meanwhile with
      | none => exact leaveAll_of_answered meanwhile within blank
      | some payload =>
        rw [staged, Option.isSome_some, Bool.true_and, Bool.not_eq_false'] at here
        rw [here, Bool.true_and]
        cases renewed : renewsAny channel meanwhile with
        | false => rfl
        | true => exact leaveAll_of_answered meanwhile within (.inr renewed)

theorem leaveAll_of_answered {channel : Channel} {left : List Bytes} :
    (incidents : List (Incident σ)) → interruptsAny channel incidents = false →
      left = [] ∨ renewsAny channel incidents = true → leaveAll channel incidents left = []
  | [], _, blank => blank.resolve_right Bool.false_ne_true
  | incident :: rest, answered, blank => by
    rw [interruptsAny, Bool.or_eq_false_iff] at answered
    obtain ⟨here, behind⟩ := answered
    rw [leaveAll]
    refine leaveAll_of_answered rest behind ?_
    rw [renewsAny, Bool.or_eq_true_iff] at blank
    rcases blank with nothing | first | later
    · exact .inl (incident.leave_of_answered here (.inl nothing))
    · exact .inl (incident.leave_of_answered here (.inr first))
    · exact .inr later

end

theorem leaveAll_append {channel : Channel} (first second : List (Incident σ)) (left : List Bytes) :
    leaveAll channel (first ++ second) left =
      leaveAll channel second (leaveAll channel first left) := by
  induction first generalizing left with
  | nil => rfl
  | cons incident rest ih =>
    rw [List.cons_append, leaveAll, leaveAll]
    exact ih _

/-- A buffer into which payloads were written one after the other, the last one first. -/
def overlaid (left : List Bytes) : Bytes :=
  left.foldr (fun payload staged => payload ++ staged.drop payload.length) blankStage

example : overlaid [[7], [1, 2]] = 7 :: 2 :: blankStage.drop 2 := by decide

namespace Host

variable {channel : Channel} {host before after : Host σ} {left : List Bytes}
  {watcher : Watcher σ (Host σ)}

/-- Whether the buffer of a channel, if it has an entry, holds these payloads. -/
def Holds (host : Host σ) (channel : Channel) (left : List Bytes) : Prop :=
  ∀ entry, host.routes.get? channel = some entry → entry.staged = overlaid left

/-- What `restage` does to the entries. -/
theorem get?_restage (host : Host σ) (channel other : Channel) (stamp : Nat) (bytes : Bytes) :
    (host.restage channel stamp bytes).routes.get? other =
      if channel = other then
        (host.routes.get? other).map fun entry =>
          if entry.stamp = stamp then { entry with staged := bytes } else entry
      else host.routes.get? other :=
  ChannelMap.get?_modify _

/-- An entry that is left when a channel is unregistered is that of another channel. -/
theorem get?_unregister {other : Channel} {entry : Entry σ}
    (found : (host.unregister other).2.routes.get? channel = some entry) :
    other ≠ channel ∧ host.routes.get? channel = some entry := by
  unfold unregister at found
  split at found
  · rw [ChannelMap.get?_erase] at found
    split at found
    · cases found
    · next distinct => exact ⟨distinct, found⟩
  · next none =>
    refine ⟨?_, found⟩
    rintro rfl
    rw [none] at found
    cases found

/-- The buffers of other channels are left alone. -/
theorem Holds.restage {other : Channel} (holds : host.Holds channel left)
    (distinct : other ≠ channel) (stamp : Nat) (bytes : Bytes) : (host.restage other stamp bytes).Holds channel left := by
  intro entry found
  rw [get?_restage, if_neg distinct] at found
  exact holds entry found

/-! ### Which entry a channel has -/

/-- Where the entry that a channel has comes from: it has the stamp of the one before, or it is
newer than all there were. -/
structure Lineage (channel : Channel) (before after : Host σ) (renewed : Bool) : Prop where
  onward : before.nextStamp ≤ after.nextStamp
  newer : renewed = true → ∀ entry, after.routes.get? channel = some entry →
    before.nextStamp ≤ entry.stamp
  same : renewed = false → ∀ entry, after.routes.get? channel = some entry →
    ∃ kept, before.routes.get? channel = some kept ∧ kept.stamp = entry.stamp

theorem lineage_of_routes (routes : after.routes = before.routes)
    (stamp : after.nextStamp = before.nextStamp) : Lineage channel before after false :=
  ⟨Nat.le_of_eq stamp.symm, fun renewed => absurd renewed Bool.false_ne_true,
    fun _ entry found => ⟨entry, routes ▸ found, rfl⟩⟩

theorem Lineage.trans {between : Host σ} {first second : Bool}
    (earlier : Lineage channel before between first)
    (later : Lineage channel between after second) :
    Lineage channel before after (first || second) := by
  refine ⟨Nat.le_trans earlier.onward later.onward, fun renewed entry found => ?_,
    fun kept entry found => ?_⟩
  · cases here : second with
    | true => exact Nat.le_trans earlier.onward (later.newer here entry found)
    | false =>
      obtain ⟨kept, among, stamp⟩ := later.same here entry found
      rw [here, Bool.or_false] at renewed
      exact stamp ▸ earlier.newer renewed kept among
  · obtain ⟨unrenewed, here⟩ := Bool.or_eq_false_iff.mp kept
    obtain ⟨between, among, stamp⟩ := later.same here entry found
    obtain ⟨first, found, same⟩ := earlier.same unrenewed between among
    exact ⟨first, found, same.trans stamp⟩

/-- A channel keeps its entry when something is put into a buffer. -/
theorem lineage_restage (host : Host σ) (channel other : Channel) (stamp : Nat) (bytes : Bytes) :
    Lineage channel host (host.restage other stamp bytes) false := by
  refine ⟨Nat.le_refl _, fun renewed => absurd renewed Bool.false_ne_true, fun _ entry found => ?_⟩
  rw [get?_restage] at found
  split at found
  · obtain ⟨kept, among, rfl⟩ := Option.map_eq_some_iff.mp found
    refine ⟨kept, among, ?_⟩
    split <;> rfl
  · exact ⟨entry, found, rfl⟩

/-- Whether the entry of a channel comes about as the incidents of actions say. -/
def Descends (channel : Channel) (watcher : Watcher σ (Host σ)) : Prop :=
  ∀ action host, Lineage channel host (watcher action host).2
    ((Incident.did action (watcher action host).1.incidents (watcher action host).1.outcome).renews
      channel)

theorem Descends.enact (descends : Descends channel watcher) (reaction : Reaction σ) (host : Host σ) :
    Lineage channel host (reaction.enact keeping watcher host).2
      (renewsAny channel (reaction.enact keeping watcher host).1.incidents) := by
  refine Reaction.enact_induction
    (P := fun before incidents after => Lineage channel before after (renewsAny channel incidents))
    ?_ ?_ ?_ ?_ reaction host
  · exact fun _ => lineage_of_routes rfl rfl
  · intro before change incidents after lineage
    have kept : Lineage channel before (before.remember change) false := lineage_of_routes rfl rfl
    exact kept.trans lineage
  · intro before line incidents after lineage
    have kept : Lineage channel before (before.write line) false := lineage_of_routes rfl rfl
    exact kept.trans lineage
  · intro action between rest after lineage
    rw [renewsAny]
    exact (descends action between).trans lineage

/-- A delivery to a handler is what the handler does with the event staged; the buffer is blanked
if it answers. -/
theorem watchDelivery_of_entry (watcher : Watcher σ (Host σ)) {event : ChannelEvent} {entry : Entry σ}
    (registered : host.routes.get? event.channel = some entry)
    (fits : checkPayload event.payload = .ok ()) : ∃ incidents outcome after,
      (entry.handler.react event).enact keeping watcher (host.stage event entry) =
          (⟨incidents, outcome⟩, after) ∧
        host.watchDelivery watcher event =
          (⟨.called (.event entry.handler event) :: incidents,
              outcome.map fun handled => .delivered (.ok handled)⟩,
            if outcome.isOk then after.restage event.channel entry.stamp blankStage else after) := by
  refine ⟨_, _, _, rfl, ?_⟩
  simp only [watchDelivery, registered, fits, List.take_left]
  show _ = (_, if Except.isOk (Reaction.enact keeping watcher _ (host.stage event entry)).1.outcome
    then _ else _)
  rw [stage]
  generalize (entry.handler.react event).enact keeping watcher _ = result
  obtain ⟨⟨incidents, outcome⟩, after⟩ := result
  cases outcome <;> rfl

/-- An action that delivers nothing needs no room. -/
theorem watch_eq_of_not_delivers (room : Nat) {action : Action σ} (plain : action.delivers = false)
    (host : Host σ) : Host.watch room action host = Host.watch 0 action host := by
  cases room with
  | zero => rfl
  | succ room =>
    cases action with
    | dispatch | respond => cases plain
    | _ => rfl

theorem lineage_of_not_delivers (room : Nat) {action : Action σ} (plain : action.delivers = false)
    (host : Host σ) : Lineage channel host (Host.watch room action host).2
      ((Incident.did action (Host.watch room action host).1.incidents
        (Host.watch room action host).1.outcome).renews channel) := by
  rw [watch_eq_of_not_delivers room plain]
  cases action with
  | register other handler =>
    simp only [Host.watch, register, Incident.renews, Action.renews, renewsAny, Bool.or_false]
    refine ⟨Nat.le_succ _, fun renewed entry found => ?_, fun kept entry found => ?_⟩
    · rw [ChannelMap.get?_insert, if_pos (of_decide_eq_true renewed)] at found
      obtain rfl := Option.some.inj found
      exact Nat.le_refl _
    · rw [ChannelMap.get?_insert, if_neg (of_decide_eq_false kept)] at found
      exact ⟨entry, found, rfl⟩
  | unregister other =>
    simp only [Host.watch, Incident.renews, Action.renews, renewsAny, Bool.or_false]
    refine ⟨?_, fun renewed entry found => ?_, fun _ entry found => ?_⟩
    · unfold unregister
      cases host.routes.get? other <;> exact Nat.le_refl _
    · exact absurd (of_decide_eq_true renewed) (get?_unregister found).1
    · exact ⟨entry, (get?_unregister found).2, rfl⟩
  | clearAll | reset | close =>
    refine ⟨Nat.le_refl _, fun _ entry found => ?_, fun kept => absurd kept.symm Bool.false_ne_true⟩
    cases found
  | dispatch | respond => cases plain
  | _ => exact lineage_of_routes rfl rfl

/-- A handler that is called with an event has the entry of a channel come about as its incidents
say. -/
theorem Descends.course (descends : Descends channel watcher) {event : ChannelEvent}
    {entry : Entry σ} {incidents : List (Incident σ)} {outcome : Except Fault Bool}
    (course : (entry.handler.react event).enact keeping watcher (host.stage event entry) =
      (⟨incidents, outcome⟩, after)) :
    Lineage channel host after (renewsAny channel incidents) := by
  have staged := lineage_restage host channel event.channel entry.stamp
    (event.payload ++ entry.staged.drop event.payload.length)
  have reacted := descends.enact (entry.handler.react event) (host.stage event entry)
  rw [course] at reacted
  exact staged.trans reacted

theorem Descends.deliver (descends : Descends channel watcher) (event : ChannelEvent)
    (host : Host σ) : Lineage channel host (host.watchDelivery watcher event).2
      ((Incident.did (.dispatch event) (host.watchDelivery watcher event).1.incidents
        (host.watchDelivery watcher event).1.outcome).renews channel) := by
  cases registered : host.routes.get? event.channel with
  | none =>
    simp only [watchDelivery, registered]
    exact lineage_of_routes rfl rfl
  | some entry =>
    cases fits : checkPayload event.payload with
    | error cause =>
      simp only [watchDelivery, registered, fits]
      exact lineage_of_routes rfl rfl
    | ok _ =>
      obtain ⟨incidents, outcome, after, course, delivery⟩ :=
        watchDelivery_of_entry watcher registered fits
      have lineage := descends.course course
      rw [delivery]
      cases outcome with
      | error fault => exact lineage
      | ok handled =>
        have blanked := lineage.trans
          (lineage_restage after channel event.channel entry.stamp blankStage)
        rw [Bool.or_false] at blanked
        exact blanked

/-- The entry of a channel comes about as the incidents in the host say. -/
theorem descends_watch (room : Nat) (channel : Channel) :
    Descends channel (Host.watch room : Watcher σ (Host σ)) := by
  induction room with
  | zero =>
    intro action host
    cases delivers : action.delivers with
    | false => exact lineage_of_not_delivers 0 delivers host
    | true =>
      cases action with
      | dispatch | respond => exact lineage_of_routes rfl rfl
      | _ => cases delivers
  | succ room ih =>
    intro action host
    cases action with
    | dispatch event => exact ih.deliver event host
    | respond response => exact ih.enact (host.responder.react response) host
    | _ => exact lineage_of_not_delivers _ rfl host

/-! ### Actions leave in the buffers what their incidents do -/

/-- Whether the buffer of a channel changes by an action as its incident says. -/
def Leaves (channel : Channel) (watcher : Watcher σ (Host σ)) : Prop :=
  ∀ action host left, host.Holds channel left → (watcher action host).2.Holds channel
    ((Incident.did action (watcher action host).1.incidents (watcher action host).1.outcome).leave
      channel left)

/-- Host code on its way leaves what its incidents do. -/
theorem Leaves.comes (leaves : Leaves channel watcher) {reaction rest : Reaction σ}
    {incidents : List (Incident σ)}
    (comes : Reaction.Comes watcher reaction before incidents rest after)
    (holds : before.Holds channel left) : after.Holds channel (leaveAll channel incidents left) := by
  induction comes generalizing left with
  | here => exact holds
  | recalled _ ih | remembered _ ih | said _ ih => exact ih holds
  | @asked action _ _ _ _ host _ _ acted _ ih =>
    have step := leaves action host left holds
    rw [acted] at step
    exact ih step

/-- Host code that is carried out comes to an end. -/
theorem comes_enact (watcher : Watcher σ (Host σ)) (reaction : Reaction σ) (host : Host σ) :
    ∃ rest, Reaction.Comes watcher reaction host (reaction.enact keeping watcher host).1.incidents rest
      (reaction.enact keeping watcher host).2 := by
  induction reaction generalizing host with
  | answer | raise => exact ⟨_, .here _ host⟩
  | recalled next ih =>
    obtain ⟨rest, onward⟩ := ih _ host
    exact ⟨rest, .recalled onward⟩
  | remember change next ih =>
    obtain ⟨rest, onward⟩ := ih (host.remember change)
    exact ⟨rest, .remembered onward⟩
  | say line next ih =>
    obtain ⟨rest, onward⟩ := ih (host.write line)
    exact ⟨rest, .said onward⟩
  | ask action next ih =>
    obtain ⟨rest, onward⟩ := ih _ (watcher action host).2
    exact ⟨rest, .asked rfl onward⟩

theorem Leaves.enact (leaves : Leaves channel watcher) {reaction : Reaction σ}
    {incidents : List (Incident σ)} {outcome : Except Fault Bool}
    (course : reaction.enact keeping watcher before = (⟨incidents, outcome⟩, after))
    (holds : before.Holds channel left) : after.Holds channel (leaveAll channel incidents left) := by
  obtain ⟨rest, comes⟩ := comes_enact watcher reaction before
  rw [course] at comes
  exact leaves.comes comes holds

/-- The buffer of a channel when an event is staged for its handler. -/
theorem Holds.stage {event : ChannelEvent} {entry : Entry σ}
    (registered : host.routes.get? event.channel = some entry)
    (holds : host.Holds event.channel left) :
    (host.stage event entry).Holds event.channel (event.payload :: left) := by
  intro staged found
  rw [Host.stage, get?_restage, if_pos rfl, registered, Option.map_some, if_pos rfl] at found
  obtain rfl := Option.some.inj found
  show event.payload ++ entry.staged.drop event.payload.length = overlaid (event.payload :: left)
  rw [holds entry registered]
  rfl

/-- What a delivery to a handler leaves. -/
theorem leave_dispatch {event : ChannelEvent} {call : Call σ} {incidents : List (Incident σ)}
    {sighting : Except Fault (Sighting σ)} :
    (Incident.did (.dispatch event) (.called call :: incidents) sighting).leave channel left =
      if event.channel = channel then
        if sighting.isOk && !renewsAny channel incidents then []
        else leaveAll channel incidents (event.payload :: left)
      else leaveAll channel incidents left := by
  have kept : ¬ (Action.dispatch event : Action σ).renews channel = true := Bool.false_ne_true
  rw [Incident.leave, if_neg kept, Action.staged?]
  by_cases same : event.channel = channel
  · rw [if_pos same, if_pos same]
    rfl
  · rw [if_neg same, if_neg same]
    rfl

/-- The buffer of a channel is blank when its handler has answered, if the channel still has the
entry that the event was staged in.  Another entry is left as it is. -/
theorem Holds.answered {event : ChannelEvent} {entry : Entry σ} {renewed : Bool}
    (registered : host.routes.get? event.channel = some entry)
    (lineage : Lineage event.channel host after renewed) (holds : after.Holds event.channel left) :
    (after.restage event.channel entry.stamp blankStage).Holds event.channel
      (if !renewed then [] else left) := by
  intro last found
  rw [get?_restage, if_pos rfl, Option.map_eq_some_iff] at found
  obtain ⟨kept, found, rfl⟩ := found
  cases renewed with
  | false =>
    obtain ⟨first, here, stamp⟩ := lineage.same rfl kept found
    rw [registered] at here
    obtain rfl := Option.some.inj here
    rw [if_pos stamp.symm]
    rfl
  | true =>
    have newer := lineage.newer rfl kept found
    have older := host.fresh event.channel entry registered
    rw [if_neg (by omega)]
    exact holds kept found

theorem Leaves.deliver (leaves : Leaves channel watcher) (descends : Descends channel watcher)
    (event : ChannelEvent) (holds : host.Holds channel left) :
    (host.watchDelivery watcher event).2.Holds channel
      ((Incident.did (.dispatch event) (host.watchDelivery watcher event).1.incidents
        (host.watchDelivery watcher event).1.outcome).leave channel left) := by
  cases registered : host.routes.get? event.channel with
  | none =>
    simp only [watchDelivery, registered]
    exact holds
  | some entry =>
    cases fits : checkPayload event.payload with
    | error cause =>
      simp only [watchDelivery, registered, fits]
      exact holds
    | ok _ =>
      obtain ⟨incidents, outcome, after, course, delivery⟩ :=
        watchDelivery_of_entry watcher registered fits
      rw [delivery, leave_dispatch]
      by_cases same : event.channel = channel
      · subst same
        rw [if_pos rfl]
        have kept := leaves.enact course (holds.stage registered)
        cases outcome with
        | error fault => exact kept
        | ok handled => exact kept.answered registered (descends.course course)
      · rw [if_neg same]
        have kept := leaves.enact course (holds.restage same _ _)
        cases outcome with
        | ok handled => exact kept.restage same _ _
        | error fault => exact kept

/-- What an action leaves that has no handler called. -/
theorem leave_of_silent (action : Action σ) (sighting : Except Fault (Sighting σ)) :
    (Incident.did action [] sighting).leave channel left =
      if action.renews channel then [] else left := by
  have silent : action.staged? channel [] = none := by cases action <;> rfl
  rw [Incident.leave, silent]
  rfl

theorem holds_of_not_delivers (room : Nat) {action : Action σ} (plain : action.delivers = false)
    (holds : host.Holds channel left) : (Host.watch room action host).2.Holds channel
      ((Incident.did action (Host.watch room action host).1.incidents
        (Host.watch room action host).1.outcome).leave channel left) := by
  rw [watch_eq_of_not_delivers room plain]
  cases action with
  | register other handler =>
    rw [Host.watch, leave_of_silent]
    intro entry found
    simp only [register, ChannelMap.get?_insert] at found
    by_cases same : other = channel
    · rw [if_pos same] at found
      obtain rfl := Option.some.inj found
      have renews : (Action.register other handler).renews channel = true := decide_eq_true same
      rw [if_pos renews]
      rfl
    · rw [if_neg same] at found
      have kept : ¬ (Action.register other handler).renews channel = true :=
        fun renews => same (of_decide_eq_true renews)
      rw [if_neg kept]
      exact holds entry found
  | unregister other =>
    rw [Host.watch, leave_of_silent]
    intro entry found
    obtain ⟨distinct, found⟩ := get?_unregister found
    have kept : ¬ (Action.unregister other : Action σ).renews channel = true :=
      fun renews => distinct (of_decide_eq_true renews)
    rw [if_neg kept]
    exact holds entry found
  | clearAll | reset | close => intro entry found; cases found
  | dispatch | respond => cases plain
  | _ => exact holds

/-- What the host does leaves in every buffer what its incidents do. -/
theorem leaves_watch (room : Nat) (channel : Channel) :
    Leaves channel (Host.watch room : Watcher σ (Host σ)) := by
  induction room with
  | zero =>
    intro action host left holds
    cases delivers : action.delivers with
    | false => exact holds_of_not_delivers 0 delivers holds
    | true =>
      cases action with
      | dispatch | respond => exact holds
      | _ => cases delivers
  | succ room ih =>
    intro action host left holds
    cases action with
    | dispatch event => exact ih.deliver (descends_watch room channel) event holds
    | respond response =>
      cases course : (host.responder.react response).enact keeping (Host.watch room) host with
      | mk told after =>
        obtain ⟨incidents, outcome⟩ := told
        have kept := ih.enact course holds
        simp only [Host.watch, watchResponse, course]
        exact kept
    | _ => exact holds_of_not_delivers _ rfl holds

/-! ### Hosts in which no delivery is underway -/

/-- The hosts that come about after one by pieces of host code, each of them carried out to its end,
up to a fault or as far as to some action, and what happened meanwhile. -/
inductive Calm (first : Host σ) : List (Incident σ) → Host σ → Prop
  | first : Calm first [] first
  | comes {room : Nat} {reaction rest : Reaction σ} {past incidents : List (Incident σ)}
      {host host' : Host σ} (calm : Calm first past host)
      (onward : Reaction.Comes (Host.watch room) reaction host incidents rest host') :
      Calm first (past ++ incidents) host'

variable {first : Host σ} {past : List (Incident σ)}

/-- Between turns no delivery is underway, whatever became of the turns. -/
theorem Calm.runAll (calm : Calm first past host) (room : Nat) (turns : List (Reaction σ)) :
    Calm first
      (past ++ (enactAll keeping (Host.watch room) turns host).1.flatMap Course.incidents)
      (CallbackFerry.runAll (Host.perform room) turns host).2 := by
  induction turns generalizing past host with
  | nil =>
    rw [enactAll, List.flatMap_nil, List.append_nil]
    exact calm
  | cons reaction later ih =>
    obtain ⟨rest, onward⟩ := comes_enact (Host.watch room) reaction host
    have turn := (perform_eq_watch room).run reaction host
    simp only [CallbackFerry.runAll, turn, enactAll, List.flatMap_cons]
    rw [← List.append_assoc]
    exact ih (calm.comes onward)

theorem Calm.holds (calm : Calm first past host) (holds : first.Holds channel left) :
    host.Holds channel (leaveAll channel past left) := by
  induction calm with
  | first => exact holds
  | comes _ onward ih =>
    rw [leaveAll_append]
    exact (leaves_watch _ channel).comes onward ih

/-- What is in the staging buffers of a host after all that happened. -/
structure Remainder (past : List (Incident σ)) (host : Host σ) : Prop where
  /-- A buffer holds the payloads that were staged in it and not blanked since. -/
  staged : ∀ channel entry, host.routes.get? channel = some entry →
    entry.staged = overlaid (leaveAll channel past [])
  /-- It is blank if no handler of the channel broke off: after answers, after deliveries within
  deliveries, after events that did not fit, and whatever handlers did to their channels. -/
  blank : ∀ channel entry, host.routes.get? channel = some entry →
    interruptsAny channel past = false → entry.staged = blankStage

/-- Whatever host code was carried out, between any two actions of a piece of it as well as between
two pieces, the buffers hold the payloads of events on which a handler broke off, and no others. -/
theorem remainder_of_calm (calm : Calm first past host)
    (blank : ∀ channel entry, first.routes.get? channel = some entry → entry.staged = blankStage) :
    Remainder past host := by
  have staged : ∀ channel, host.Holds channel (leaveAll channel past []) :=
    fun channel => calm.holds (blank channel)
  refine ⟨staged, fun channel entry found answered => ?_⟩
  rw [staged channel entry found, leaveAll_of_answered past answered (.inl rfl)]
  rfl

/-- Host code that opens channel 3 for a handler that breaks off, and host code that delivers an
event there. -/
def interrupted : List (Reaction Unit) :=
  [.request (.register ⟨3⟩ (.mk none fun _ => .raise .wordless)) fun _ => .answer true,
    .request (.dispatch ⟨⟨3⟩, .tx, [7]⟩) fun _ => .answer true]

/-- After a fault the payload of the event is still in the buffer. -/
theorem remainder_of_interrupted :
    ∃ past, Calm ({ memory := () } : Host Unit) past
        (CallbackFerry.runAll (Host.perform depth) interrupted { memory := () }).2 ∧
      Remainder past (CallbackFerry.runAll (Host.perform depth) interrupted { memory := () }).2 := by
  have start : Calm ({ memory := () } : Host Unit) [] { memory := () } := .first
  have calm := start.runAll depth interrupted
  refine ⟨_, calm, remainder_of_calm calm ?_⟩
  intro channel entry found
  cases found

theorem not_forall_blank : ¬ ∀ (turns : List (Reaction Unit)) (channel : Channel)
    (entry : Entry Unit),
    (CallbackFerry.runAll (Host.perform depth) turns { memory := () }).2.routes.get? channel =
      some entry → entry.staged = blankStage := by
  intro blank
  have left : ((CallbackFerry.runAll (Host.perform depth) interrupted
      { memory := () }).2.routes.get? ⟨3⟩).map (·.staged) = some (7 :: blankStage.drop 1) := by
    decide
  obtain ⟨entry, found, staged⟩ := Option.map_eq_some_iff.mp left
  have none := blank interrupted ⟨3⟩ entry found
  rw [none] at staged
  exact absurd staged (by decide)

end Host
end CallbackFerry
