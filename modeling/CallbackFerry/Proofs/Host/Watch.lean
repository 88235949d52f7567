import CallbackFerry.Host.Acts

/-!
# Watching the host

What an action comes to is told by its reply and by the host afterwards.  What happens on the way is
told by neither: which handlers are called with what, and what they have the host do in turn.
`Host.watch` carries an action out as `Host.perform` does and takes down the `Course` of it, which
is a tree of incidents.

By `perform_eq_watch` watching changes nothing.  `Reaction.enact` carries out the reaction of a
handler on anything that has actions, so that a host can be compared with simpler machines on which
the same handlers run: `Reaction.enact_map` says that a view of one machine as another one that is
respected by the actions is respected by the reactions.
-/

namespace CallbackFerry

/-- What an action comes to, with the handlers themselves where a reply has their labels. -/
inductive Sighting (σ : Type) where
  | done
  | replaced (handler : Option (EventHandler σ))
  | found (handler : Except Failure (EventHandler σ))
  | removed (handler : Option (EventHandler σ))
  | count (channels : Nat)
  | isOpen (answer : Bool)
  | isEmpty (answer : Bool)
  | channels (numbers : List Channel)
  | delivered (answer : Except Failure Bool)
  | responded (answer : Bool)

/-- The reply that tells of a sighting. -/
def Sighting.reply {σ : Type} : Sighting σ → Reply
  | .done => .done
  | .replaced handler => .handler (handler.map (·.label))
  | .found handler => .handler (handler.toOption.map (·.label))
  | .removed handler => .handler (handler.map (·.label))
  | .count number => .count number
  | .isOpen answer => .isOpen answer
  | .isEmpty answer => .isEmpty answer
  | .channels numbers => .channels numbers
  | .delivered answer => .delivered answer
  | .responded answer => .responded answer

/-- A call of a handler, and what it is called with. -/
inductive Call (σ : Type) where
  | event (handler : EventHandler σ) (event : ChannelEvent)
  | response (handler : ResponseHandler σ) (response : Response)

/-- What happens while an action is carried out. -/
inductive Incident (σ : Type) where
  /-- A handler is called. -/
  | called (call : Call σ)
  /-- A handler has the host act; what happens meanwhile, and what it comes to. -/
  | did (action : Action σ) (meanwhile : List (Incident σ)) (sighting : Except Fault (Sighting σ))

/-- All that happens, in order, and what it comes to. -/
structure Course (σ α : Type) where
  incidents : List (Incident σ) := []
  outcome : Except Fault α

/-- How handlers remember and write on a machine with states `S`. -/
structure Keeping (σ S : Type) where
  memory : S → σ
  remember : S → (σ → σ) → S
  write : S → LogLine → S

/-- A way of carrying actions out on a machine with states `S` that takes down what happens. -/
abbrev Watcher (σ S : Type) := Action σ → S → Course σ (Sighting σ) × S

variable {σ S T : Type}

/-! ### Reactions -/

namespace Reaction

/-- What holds of every reaction that does no more, and of all that go on with such, holds of all
reactions. -/
@[elab_as_elim, induction_eliminator]
theorem induction {P : Reaction σ → Prop} (answer : ∀ handled, P (.answer handled))
    (raise : ∀ fault, P (.raise fault))
    (recalled : ∀ next, (∀ memory, P (next memory)) → P (.recall next))
    (remember : ∀ change next, P next → P (.remember change next))
    (say : ∀ line next, P next → P (.say line next))
    (ask : ∀ action next, (∀ outcome, P (next outcome)) → P (.ask action next)) :
    ∀ reaction, P reaction
  | .answer handled => answer handled
  | .raise fault => raise fault
  | .recall next =>
    recalled next fun memory => induction answer raise recalled remember say ask (next memory)
  | .remember change next =>
    remember change next (induction answer raise recalled remember say ask next)
  | .say line next => say line next (induction answer raise recalled remember say ask next)
  | .ask action next =>
    ask action next fun outcome => induction answer raise recalled remember say ask (next outcome)

/-- Carries a reaction out and takes down what happens. -/
def enact (keeping : Keeping σ S) (watch : Watcher σ S) : Reaction σ → S → Course σ Bool × S
  | .answer handled, s => ({ outcome := .ok handled }, s)
  | .raise fault, s => ({ outcome := .error fault }, s)
  | .recall next, s => (next (keeping.memory s)).enact keeping watch s
  | .remember change next, s => next.enact keeping watch (keeping.remember s change)
  | .say line next, s => next.enact keeping watch (keeping.write s line)
  | .ask action next, s =>
    let (course, s) := watch action s
    let (rest, s) := (next (course.outcome.map Sighting.reply)).enact keeping watch s
    (⟨.did action course.incidents course.outcome :: rest.incidents, rest.outcome⟩, s)

variable {keeping : Keeping σ S} {watch : Watcher σ S} {keeping' : Keeping σ T}
  {watch' : Watcher σ T} {view : S → T}

/-- If one machine is seen as another, then so is what handlers do on it. -/
theorem enact_map (memory : ∀ s, keeping'.memory (view s) = keeping.memory s)
    (remember : ∀ s change, keeping'.remember (view s) change = view (keeping.remember s change))
    (write : ∀ s line, keeping'.write (view s) line = view (keeping.write s line))
    (acts : ∀ action s, watch' action (view s) = ((watch action s).1, view (watch action s).2))
    (reaction : Reaction σ) (s : S) :
    reaction.enact keeping' watch' (view s) =
      ((reaction.enact keeping watch s).1, view (reaction.enact keeping watch s).2) := by
  induction reaction generalizing s with
  | answer | raise => rfl
  | recalled next ih =>
    simp only [enact, memory]
    exact ih _ s
  | remember change next ih =>
    simp only [enact, remember]
    exact ih _
  | say line next ih =>
    simp only [enact, write]
    exact ih _
  | ask action next ih =>
    simp only [enact, acts action s, ih]

/-- What a reaction does to the state is what its incidents do, if this is so for actions. -/
theorem enact_induction {P : S → List (Incident σ) → S → Prop} (still : ∀ s, P s [] s)
    (remember : ∀ s change incidents after, P (keeping.remember s change) incidents after →
      P s incidents after)
    (write : ∀ s line incidents after, P (keeping.write s line) incidents after →
      P s incidents after)
    (act : ∀ action s rest after, P (watch action s).2 rest after →
      P s (.did action (watch action s).1.incidents (watch action s).1.outcome :: rest) after)
    (reaction : Reaction σ) (s : S) :
    P s (reaction.enact keeping watch s).1.incidents (reaction.enact keeping watch s).2 := by
  induction reaction generalizing s with
  | answer | raise => exact still s
  | recalled next ih => exact ih _ s
  | remember change next ih => exact remember _ _ _ _ (ih _)
  | say line next ih => exact write _ _ _ _ (ih _)
  | ask action next ih => exact act action s _ _ (ih _ _)

/-- A handler calls no other handler but by having the host act. -/
theorem did_of_mem_enact (reaction : Reaction σ) (s : S) :
    ∀ incident ∈ (reaction.enact keeping watch s).1.incidents,
      ∃ action meanwhile sighting, incident = .did action meanwhile sighting := by
  refine enact_induction (P := fun _ incidents _ => ∀ incident ∈ incidents, ∃ action meanwhile
    sighting, incident = .did action meanwhile sighting) ?_ (fun _ _ _ _ h => h)
    (fun _ _ _ _ h => h) ?_ reaction s
  · simp
  · intro action s rest after h incident member
    rcases List.mem_cons.mp member with rfl | behind
    · exact ⟨_, _, _, rfl⟩
    · exact h incident behind

end Reaction

/-! ### The host -/

namespace Host

/-- How handlers remember and write in the host. -/
def keeping : Keeping σ (Host σ) := ⟨Host.memory, Host.remember, Host.write⟩

/-- Delivers an event as `Host.deliver` does, and takes down what happens. -/
def watchDelivery (watch : Watcher σ (Host σ)) (event : ChannelEvent) (host : Host σ) :
    Course σ (Sighting σ) × Host σ :=
  match host.routes.get? event.channel with
  | none => ({ outcome := .ok (.delivered (.error (.unknownChannel event.channel))) }, host)
  | some entry =>
    match checkPayload event.payload with
    | .error cause => ({ outcome := .ok (.delivered (.error (.protocol cause))) }, host)
    | .ok () =>
      let length := event.payload.length
      let staged := event.payload ++ entry.staged.drop length
      let shown := { event with payload := staged.take length }
      let (course, host) := (entry.handler.react shown).enact keeping watch
        (host.restage event.channel entry.stamp staged)
      let incidents := .called (.event entry.handler shown) :: course.incidents
      match course.outcome with
      | .ok handled =>
        (⟨incidents, .ok (.delivered (.ok handled))⟩,
          host.restage event.channel entry.stamp blankStage)
      | .error fault => (⟨incidents, .error fault⟩, host)

/-- Delivers a response as `Host.deliverResponse` does, and takes down what happens. -/
def watchResponse (watch : Watcher σ (Host σ)) (response : Response) (host : Host σ) :
    Course σ (Sighting σ) × Host σ :=
  let (course, after) := (host.responder.react response).enact keeping watch host
  (⟨.called (.response host.responder response) :: course.incidents,
    course.outcome.map Sighting.responded⟩, after)

/-- Carries an action out as `Host.perform` does, and takes down what happens. -/
def watch : (room : Nat) → Watcher σ (Host σ)
  | _, .register channel handler, host =>
    let (replaced, host) := host.register channel handler
    ({ outcome := .ok (.replaced replaced) }, host)
  | _, .lookup channel, host => ({ outcome := .ok (.found (host.lookup channel)) }, host)
  | _, .unregister channel, host =>
    let (removed, host) := host.unregister channel
    ({ outcome := .ok (.removed removed) }, host)
  | _, .clearAll, host =>
    let (cleared, host) := host.clearAll
    ({ outcome := .ok (.count cleared) }, host)
  | _, .isOpen channel, host => ({ outcome := .ok (.isOpen (host.isOpen channel)) }, host)
  | _, .size, host => ({ outcome := .ok (.count host.size) }, host)
  | _, .isEmpty, host => ({ outcome := .ok (.isEmpty host.isEmpty) }, host)
  | _, .channels, host => ({ outcome := .ok (.channels host.channels) }, host)
  | _, .setResponder handler, host => ({ outcome := .ok .done }, host.setResponder handler)
  | _, .reset, host => ({ outcome := .ok .done }, host.reset)
  | _, .close, host => ({ outcome := .ok .done }, host.close)
  | 0, .dispatch _, host => ({ outcome := .error noRoom }, host)
  | 0, .respond _, host => ({ outcome := .error noRoom }, host)
  | room + 1, .dispatch event, host => host.watchDelivery (watch room) event
  | room + 1, .respond response, host => host.watchResponse (watch room) response

/-- A way of carrying actions out that is watched. -/
def Watched (perform : Performer σ) (watch : Watcher σ (Host σ)) : Prop :=
  ∀ action host, perform action host =
    ((watch action host).1.outcome.map Sighting.reply, (watch action host).2)

variable {perform : Performer σ} {watch : Watcher σ (Host σ)}

/-- Watching a reaction changes nothing. -/
theorem Watched.run (watched : Watched perform watch) (reaction : Reaction σ) (host : Host σ) :
    reaction.run perform host =
      ((reaction.enact keeping watch host).1.outcome, (reaction.enact keeping watch host).2) := by
  induction reaction generalizing host with
  | answer | raise => rfl
  | recalled next ih => exact ih _ host
  | remember change next ih => exact ih _
  | say line next ih => exact ih _
  | ask action next ih =>
    simp only [Reaction.run, Reaction.enact, watched action host]
    exact ih _ _

/-- Watching a delivery changes nothing. -/
theorem Watched.deliver (watched : Watched perform watch) (event : ChannelEvent) (host : Host σ) :
    (host.watchDelivery watch event).1.outcome.map Sighting.reply =
        (host.deliver perform event).1.map Reply.delivered ∧
      (host.watchDelivery watch event).2 = (host.deliver perform event).2 := by
  unfold watchDelivery Host.deliver
  cases host.routes.get? event.channel with
  | none => exact ⟨rfl, rfl⟩
  | some entry =>
    cases checkPayload event.payload with
    | error cause => exact ⟨rfl, rfl⟩
    | ok fits =>
      simp only [watched.run]
      generalize (entry.handler.react _).enact keeping watch _ = result
      obtain ⟨⟨incidents, outcome⟩, after⟩ := result
      cases outcome <;> exact ⟨rfl, rfl⟩

theorem Watched.respond (watched : Watched perform watch) (response : Response) (host : Host σ) :
    (host.watchResponse watch response).1.outcome.map Sighting.reply =
        (host.deliverResponse perform response).1.map Reply.responded ∧
      (host.watchResponse watch response).2 = (host.deliverResponse perform response).2 := by
  unfold watchResponse Host.deliverResponse
  simp only [watched.run]
  generalize (host.responder.react response).enact keeping watch host = result
  obtain ⟨⟨incidents, outcome⟩, after⟩ := result
  cases outcome <;> exact ⟨rfl, trivial⟩

/-- Watching changes nothing. -/
theorem perform_eq_watch (room : Nat) :
    Watched (Host.perform room) (Host.watch room : Watcher σ (Host σ)) := by
  induction room with
  | zero => intro action host; cases action <;> rfl
  | succ room ih =>
    intro action host
    cases action with
    | dispatch event =>
      obtain ⟨outcome, after⟩ := ih.deliver event host
      rw [Host.watch, outcome, after, Host.perform]
      obtain ⟨answer, after⟩ := host.deliver (Host.perform room) event
      cases answer <;> rfl
    | respond response =>
      obtain ⟨outcome, after⟩ := ih.respond response host
      rw [Host.watch, outcome, after, Host.perform]
      obtain ⟨answer, after⟩ := host.deliverResponse (Host.perform room) response
      cases answer <;> rfl
    | _ => rfl

end Host
end CallbackFerry
