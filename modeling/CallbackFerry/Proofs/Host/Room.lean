import CallbackFerry.Proofs.Host.Watch

/-!
# Room for nested deliveries

The room bounds how deep deliveries nest, so that carrying an action out is a function of the host.
It makes no other difference: by `watch_of_roomy`, what was carried out without any delivery lacking
room is carried out alike with more room.  A delivery that lacks room is taken down like any other,
so it is seen also where its fault was caught.
-/

namespace CallbackFerry

variable {σ S : Type}

/-- Whether a delivery broke off before a handler was called. -/
def lacksRoom (action : Action σ) (meanwhile : List (Incident σ))
    (sighting : Except Fault (Sighting σ)) : Bool :=
  match action, meanwhile, sighting with
  | .dispatch _, [], .error _ | .respond _, [], .error _ => true
  | _, _, _ => false

mutual

/-- Whether no delivery lacked room in an incident. -/
def Incident.roomy : Incident σ → Bool
  | .called _ => true
  | .did action meanwhile sighting => !lacksRoom action meanwhile sighting && roomyAll meanwhile

/-- Whether no delivery lacked room in any of these incidents. -/
def roomyAll : List (Incident σ) → Bool
  | [] => true
  | incident :: rest => incident.roomy && roomyAll rest

end

/-- Whether no delivery lacks room when an action is carried out. -/
def Roomy (watch : Watcher σ S) (action : Action σ) (s : S) : Prop :=
  (Incident.did action (watch action s).1.incidents (watch action s).1.outcome).roomy = true

theorem Roomy.within {watch : Watcher σ S} {action : Action σ} {s : S}
    (roomy : Roomy watch action s) : roomyAll (watch action s).1.incidents = true := by
  unfold Roomy at roomy
  rw [Incident.roomy, Bool.and_eq_true_iff] at roomy
  exact roomy.2

/-- If two ways of carrying actions out agree where no delivery lacks room, then so do reactions. -/
theorem Reaction.enact_of_roomy {keeping : Keeping σ S} {watch watch' : Watcher σ S}
    (agree : ∀ action s, Roomy watch action s → watch' action s = watch action s)
    (reaction : Reaction σ) (s : S)
    (roomy : roomyAll (reaction.enact keeping watch s).1.incidents = true) :
    reaction.enact keeping watch' s = reaction.enact keeping watch s := by
  induction reaction generalizing s with
  | answer | raise => rfl
  | recalled next ih => exact ih _ s roomy
  | remember change next ih => exact ih _ roomy
  | say line next ih => exact ih _ roomy
  | ask action next ih =>
    simp only [enact, roomyAll, Bool.and_eq_true] at roomy ⊢
    obtain ⟨here, behind⟩ := roomy
    rw [agree action s here, ih _ _ behind]

namespace Host

variable {watch watch' : Watcher σ (Host σ)}

/-- A delivery with more room is the same if none lacked room within. -/
theorem watchDelivery_of_roomy
    (agree : ∀ action host, Roomy watch action host → watch' action host = watch action host)
    (event : ChannelEvent) (host : Host σ)
    (roomy : roomyAll (host.watchDelivery watch event).1.incidents = true) :
    host.watchDelivery watch' event = host.watchDelivery watch event := by
  unfold watchDelivery at roomy ⊢
  cases registered : host.routes.get? event.channel with
  | none => rfl
  | some entry =>
    cases fits : checkPayload event.payload with
    | error cause => rfl
    | ok _ =>
      simp only [registered, fits] at roomy ⊢
      rw [Reaction.enact_of_roomy agree]
      generalize (entry.handler.react _).enact keeping watch _ = result at roomy ⊢
      obtain ⟨⟨incidents, outcome⟩, after⟩ := result
      cases outcome <;> simpa [roomyAll, Incident.roomy] using roomy

theorem watchResponse_of_roomy
    (agree : ∀ action host, Roomy watch action host → watch' action host = watch action host)
    (response : Response) (host : Host σ)
    (roomy : roomyAll (host.watchResponse watch response).1.incidents = true) :
    host.watchResponse watch' response = host.watchResponse watch response := by
  unfold watchResponse at roomy ⊢
  rw [Reaction.enact_of_roomy agree]
  simpa [roomyAll, Incident.roomy] using roomy

/-- One unit of room more makes no difference where none was lacking. -/
theorem watch_succ_of_roomy (room : Nat) (action : Action σ) (host : Host σ)
    (roomy : Roomy (Host.watch room) action host) :
    Host.watch (room + 1) action host = Host.watch room action host := by
  induction room generalizing action host with
  | zero =>
    cases action with
    | dispatch | respond => cases roomy
    | _ => rfl
  | succ room ih =>
    cases action with
    | dispatch event => exact watchDelivery_of_roomy ih event host roomy.within
    | respond response => exact watchResponse_of_roomy ih response host roomy.within
    | _ => rfl

/-- More room makes no difference where none was lacking. -/
theorem watch_of_roomy (room more : Nat) (action : Action σ) (host : Host σ)
    (roomy : Roomy (Host.watch room) action host) :
    Host.watch (room + more) action host = Host.watch room action host := by
  induction more with
  | zero => rfl
  | succ more ih =>
    rw [← ih]
    refine watch_succ_of_roomy (room + more) action host ?_
    unfold Roomy
    rwa [ih]

end Host
end CallbackFerry
