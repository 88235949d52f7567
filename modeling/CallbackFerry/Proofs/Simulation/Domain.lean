import CallbackFerry.Proofs.Bridge.Book
import CallbackFerry.Proofs.Bridge.Drain
import CallbackFerry.Proofs.Host.Untended
import CallbackFerry.Proofs.Simulation.Moves

/-!
# The domain behind a campaign

A campaign tells its drivers how their callbacks ended through the slots of a bridge, and its host
is nothing but a loop.  All the same that loop is one of a domain: whatever a campaign has done,
there is a domain that was given the tasks which the dispatcher has offered, has the callbacks that
were submitted for tasks, and has the very same loop.  The drivers of that domain do nothing, since
those of the campaign wait elsewhere.

`Mirrored` says which domain is behind a campaign.  Every move of a campaign is none of the host's
business (`Aside`), or it is a move of the domain; only the end of the loop is two.
-/

namespace CallbackFerry

namespace Campaign

variable {campaign after : Campaign} {domain : HostDomain Ticket Bool} {move : Move}
  {tasks : Ticket → Callback Flight (Host Device) Bool} {ticket : Ticket}
  {settings : Settings} {past : List (Moment Campaign Move)}

/-! ### What is none of the host's business -/

/-- Whether the host takes part in a move. -/
def Move.isHosts : Move → Bool
  | .offer | .receive | .begin | .advance _ | .notice _ | .closeHost | .finish => true
  | _ => false

/-- What the host knows of a campaign. -/
structure Aside (campaign after : Campaign) : Prop where
  loop : after.loop = campaign.loop
  body : after.body = campaign.body
  running : after.bridge.running = campaign.bridge.running
  offered : after.bridge.dispatcher.offered = campaign.bridge.dispatcher.offered

theorem aside_of_step (made : campaign.step move = some after) (others : move.isHosts = false) :
    Aside campaign after := by
  have follows := (step_part made).1
  cases move with
  | launch thread chance =>
    obtain ⟨launched, fleet, -, rfl⟩ := launch_eq_some made
    exact ⟨rfl, rfl, rfl, rfl⟩
  | submit thread =>
    obtain ⟨mission, -, -, -, rfl⟩ := submit_eq_some made
    exact ⟨rfl, rfl, rfl, rfl⟩
  | land thread =>
    obtain ⟨mission, key, s, result, fleet, -, -, -, -, -, -, rfl⟩ := land_eq_some made
    exact ⟨rfl, rfl, rfl, rfl⟩
  | push | collect | expire | leave | take | settle | retire =>
    obtain ⟨bridge, -, rfl⟩ := Option.map_eq_some_iff.mp made
    exact ⟨rfl, rfl, Bridge.running_of_step follows (by simp) (by simp),
      Bridge.offered_of_step follows (by simp)⟩
  | muster =>
    obtain ⟨-, rfl⟩ := muster_eq_some made
    exact ⟨rfl, rfl, rfl, rfl⟩
  | abort =>
    obtain ⟨-, rfl⟩ := abort_eq_some made
    exact ⟨rfl, rfl, rfl, rfl⟩
  | snapshot =>
    obtain ⟨-, rfl⟩ := snapshot_eq_some made
    exact ⟨rfl, rfl, rfl, rfl⟩
  | offer | receive | begin | advance | notice | closeHost | finish => cases others

/-! ### What was submitted -/

/-- Whether the tasks of a domain are the callbacks that were submitted. -/
def Known (tasks : Ticket → Callback Flight (Host Device) Bool) (campaign : Campaign) : Prop :=
  ∀ (key : Nat) callback, campaign.bridge.calls[key]? = some callback →
    ∀ ticket : Ticket, ticket.key = key → tasks ticket = callback

/-- Callbacks are submitted and never change. -/
theorem Known.before (known : Known tasks after) (made : campaign.step move = some after) :
    Known tasks campaign := by
  have grows : ∃ more, after.bridge.calls = campaign.bridge.calls ++ more := by
    have follows := (step_part made).1
    cases own : campaign.part move with
    | none =>
      rw [own] at follows
      exact ⟨[], by rw [show after.bridge = campaign.bridge from follows, List.append_nil]⟩
    | some act =>
      rw [own] at follows
      have stepped : campaign.bridge.step act = some after.bridge := follows
      by_cases draws : ∃ callback, act = .draw callback
      · obtain ⟨callback, rfl⟩ := draws
        rw [← Option.some.inj stepped]
        exact ⟨_, Bridge.calls_draw callback⟩
      · rw [not_exists] at draws
        exact ⟨[], by rw [Bridge.calls_of_step stepped draws, List.append_nil]⟩
  obtain ⟨more, grows⟩ := grows
  intro key callback called
  refine known key callback ?_
  rw [grows, List.getElem?_append_left (List.getElem?_eq_some_iff.mp called).1, called]

/-- No unit is offered twice. -/
theorem fresh_of_offering (reached : Reached settings past campaign)
    (offering : campaign.bridge.dispatcher.phase = .offering ticket) :
    ticket ∉ campaign.bridge.dispatcher.offered := by
  have bridge := bridge_reached reached
  have units := Dispatcher.inventory (Bridge.dispatcher_run bridge.run)
  rw [List.filterMap_filterMap, funext Bridge.seen_accepted] at units
  have nodup := (Bridge.nodup_accepted bridge).of_map
  rw [← units, Dispatcher.hand_eq_singleton_iff.mpr offering] at nodup
  intro offered
  have apart := (List.nodup_append.mp (List.nodup_append.mp nodup).1).2.2
  exact apart ticket (List.mem_reverse.mpr offered) ticket (List.mem_singleton_self _) rfl

/-! ### The domain -/

/-- Whether a bridge and a domain are running the same task, if they are running any. -/
inductive Underway (running : List (Running Bool)) :
    Option (Nat × Option Fault) → Option (Body Ticket Bool) → Prop
  | idle : Underway running none none
  | busy (body : Body Ticket Bool) {ticket : Ticket} (short : body.reached < 3)
      (found : running.find? (·.ticket.key = body.task.key) =
        some ⟨ticket, (milestones body.outcome).drop body.reached⟩) :
      Underway running (some (body.task.key, faultOf body.outcome)) (some body)

/-- Whether a domain is the host of a campaign. -/
structure Mirrored (campaign : Campaign) (domain : HostDomain Ticket Bool) : Prop where
  handles : domain.handles = 1
  offered : domain.offered = campaign.bridge.dispatcher.offered
  loop : domain.loop = campaign.loop
  stage : domain.stage = if campaign.loop.isOver then .done else .selecting
  body : Underway campaign.bridge.running campaign.body domain.body

theorem Mirrored.aside (mirrored : Mirrored campaign domain) (aside : Aside campaign after) :
    Mirrored after domain := by
  obtain ⟨handles, offered, loop, stage, body⟩ := mirrored
  refine ⟨handles, ?_, ?_, ?_, ?_⟩
  · rw [aside.offered, offered]
  · rw [aside.loop, loop]
  · rw [aside.loop, stage]
  · rw [aside.running, aside.body]
    exact body

theorem Mirrored.going (mirrored : Mirrored campaign domain) : domain.stage ≠ .givenUp := by
  rw [mirrored.stage]
  split <;> simp

theorem Mirrored.selecting (mirrored : Mirrored campaign domain)
    (going : campaign.loop.isOver = false) : domain.stage = .selecting := by
  rw [mirrored.stage, going]
  rfl

/-- Whether there is a domain behind a campaign. -/
def Backed (tasks : Ticket → Callback Flight (Host Device) Bool) (campaign : Campaign) : Prop :=
  ∃ domain, HostDomain.Quiet tasks domain ∧ Mirrored campaign domain

theorem backed_of_step {act : HostDomain.Move Ticket (Host Device) Bool}
    {next : HostDomain Ticket Bool} (quiet : HostDomain.Quiet tasks domain)
    (made : domain.step tasks act = some next) (isQuiet : act.isQuiet = true)
    (mirrored : Mirrored after next) : Backed tasks after :=
  ⟨next, quiet.step made isQuiet mirrored.going, mirrored⟩

/-- The task that is being run goes on, or is through after its last milestone. -/
theorem advance_cases {timing : Timing} {key : Nat} {fault : Option Fault}
    {milestone : Milestone Bool} {rest : List (Milestone Bool)}
    (made : campaign.advance timing = some after) (running : campaign.body = some (key, fault))
    (found : campaign.bridge.running.find? (·.ticket.key = key) =
      some ⟨ticket, milestone :: rest⟩) :
    ∃ bridge, bridge.dispatcher.offered = campaign.bridge.dispatcher.offered ∧
      ((rest ≠ [] ∧ bridge.running.find? (·.ticket.key = key) = some ⟨ticket, rest⟩ ∧
          after = campaign.withBridge bridge) ∨
        (rest = [] ∧ ∃ loop, campaign.loop.ran fault = some loop ∧
          after = { campaign with bridge := bridge, loop := loop, body := none })) := by
  have own : ticket.key = key := by simpa using List.find?_some found
  unfold advance at made
  rw [running] at made
  dsimp only at made
  split at made
  · next bridge advanced =>
    have stepped : campaign.bridge.step (.advance key timing) = some bridge := advanced
    have left := Bridge.running_of_advance advanced found
    refine ⟨bridge, Bridge.offered_of_step stepped (by simp), ?_⟩
    cases rest with
    | nil =>
      have gone : bridge.running.any (·.ticket.key = key) = false := by
        rw [left, List.isEmpty_nil, if_pos rfl, List.any_filter]
        simp
      rw [gone, if_neg Bool.false_ne_true] at made
      obtain ⟨loop, ran, rfl⟩ := Option.map_eq_some_iff.mp made
      exact .inr ⟨rfl, loop, ran, rfl⟩
    | cons next later =>
      rw [List.isEmpty_cons, if_neg Bool.false_ne_true] at left
      have here : bridge.running.any (·.ticket.key = key) = true := by
        rw [left, List.any_cons]
        simp [own]
      rw [here, if_pos rfl] at made
      refine .inl ⟨List.cons_ne_nil _ _, ?_, (Option.some.inj made).symm⟩
      rw [left, List.find?_cons_of_pos (by simp [own])]
  · cases made

section Moves

variable (quiet : HostDomain.Quiet tasks domain) (mirrored : Mirrored campaign domain)

include quiet mirrored

theorem backed_of_offer (fresh : ∀ ticket, campaign.bridge.dispatcher.phase = .offering ticket →
      ticket ∉ campaign.bridge.dispatcher.offered)
    (made : campaign.offer = some after) : Backed tasks after := by
  obtain ⟨ticket, bridge, offering, answer⟩ := offer_eq_some made
  have new : ticket ∉ domain.offered := mirrored.offered ▸ fresh ticket offering
  have unknown : ¬ (domain.handles = 0 ∨ ticket ∈ domain.offered) := by
    rw [not_or, mirrored.handles]
    exact ⟨Nat.one_ne_zero, new⟩
  have noted : ∀ {reception keeps}, campaign.bridge.offer reception keeps = some bridge →
      bridge.running = campaign.bridge.running ∧
        bridge.dispatcher.offered = ticket :: campaign.bridge.dispatcher.offered := by
    intro reception keeps offers
    have stepped : campaign.bridge.step (.offer reception keeps) = some bridge := offers
    refine ⟨Bridge.running_of_step stepped (by simp) (by simp), ?_⟩
    obtain ⟨ticket', dispatcher, lines, offered, rfl⟩ := Bridge.offer_eq_some offers
    obtain ⟨offering', rfl⟩ := Dispatcher.offer_eq_some_iff.mp offered
    obtain rfl := DispatcherPhase.offering.inj (offering.symm.trans offering')
    cases keeps <;> rfl
  rcases answer with ⟨loop, accepted, offers, rfl⟩ | ⟨closed, offers, rfl⟩
  · obtain ⟨running, offered⟩ := noted offers
    have schedules : domain.step tasks (.schedule ticket) =
        some { domain with offered := ticket :: domain.offered, loop := loop } := by
      simp only [HostDomain.step, HostDomain.schedule, if_neg unknown, mirrored.loop, accepted]
    refine backed_of_step quiet schedules rfl ?_
    obtain ⟨opened, rfl⟩ := HostLoop.schedule_eq_some accepted
    refine ⟨mirrored.handles, ?_, rfl, mirrored.stage, ?_⟩
    · show ticket :: domain.offered = bridge.dispatcher.offered
      rw [offered, mirrored.offered]
    · show Underway bridge.running campaign.body domain.body
      rw [running]
      exact mirrored.body
  · obtain ⟨running, offered⟩ := noted offers
    have refused : domain.loop.schedule ticket = none := by
      rw [mirrored.loop]
      exact HostLoop.schedule_eq_none_iff.mpr closed
    have drops : (domain.handoffs ticket).step .drop =
        some { slot := some .abandoned, signal := .dropped } := by
      rw [quiet.blank_of_fresh mirrored.going new]
      rfl
    have schedules : domain.step tasks (.schedule ticket) =
        some (HostDomain.put ticket { slot := some .abandoned, signal := .dropped }
          { domain with offered := ticket :: domain.offered }) := by
      simp only [HostDomain.step, HostDomain.schedule, if_neg unknown, refused, HostDomain.touch,
        drops, Option.map_some]
    refine backed_of_step quiet schedules rfl ?_
    refine ⟨mirrored.handles, ?_, mirrored.loop, mirrored.stage, ?_⟩
    · show ticket :: domain.offered = bridge.dispatcher.offered
      rw [offered, mirrored.offered]
    · show Underway bridge.running campaign.body domain.body
      rw [running]
      exact mirrored.body

theorem backed_of_receive {loop : HostLoop Ticket} (received : campaign.loop.receive = some loop) :
    Backed tasks { campaign with loop := loop } := by
  obtain ⟨going, task, rest, arrived, same⟩ := HostLoop.receive_eq_some received
  have receives : domain.step tasks .receive = some { domain with loop := loop } := by
    simp only [HostDomain.step, HostDomain.receive, mirrored.selecting going, if_true,
      mirrored.loop, received, Option.map_some]
  refine backed_of_step quiet receives rfl ?_
  refine ⟨mirrored.handles, mirrored.offered, rfl, ?_, mirrored.body⟩
  rw [same]
  exact mirrored.stage

theorem backed_of_begin (known : Known tasks campaign) (made : campaign.beginNext = some after) :
    Backed tasks after := by
  obtain ⟨ticket, work, bridge, idle, next, begun, rfl⟩ := beginNext_eq_some made
  obtain ⟨own, same, running⟩ := Bridge.running_of_begin begun
  obtain ⟨s, record, rfl, -⟩ := Bridge.begin_work begun
  have called : tasks ticket = s.callback := by
    refine known ticket.key s.callback ?_ ticket rfl
    rw [Bridge.getElem?_calls, Bridge.standing, record, Option.map_some]
  have offered : bridge.dispatcher.offered = campaign.bridge.dispatcher.offered := by
    have stepped : campaign.bridge.step (.begin ticket.key campaign.world) = some bridge := by
      rw [Bridge.step, begun, Option.map_some]
    exact Bridge.offered_of_step stepped (by simp)
  have resting : domain.body = none := by
    have body := mirrored.body
    rw [idle] at body
    cases body' : domain.body with
    | none => rfl
    | some busy =>
      rw [body'] at body
      cases body
  have begins : domain.step tasks (.begin campaign.world) =
      some { domain with
        body := some { task := ticket, outcome := (s.callback.invoke campaign.world).outcome }
        metrics := domain.metrics.recordRoutingErrors
          (s.callback.invoke campaign.world).misrouted } := by
    simp only [HostDomain.step, HostDomain.begin, resting, mirrored.loop, next, called]
  refine backed_of_step quiet begins rfl ?_
  refine ⟨mirrored.handles, ?_, mirrored.loop, mirrored.stage, ?_⟩
  · show domain.offered = bridge.dispatcher.offered
    rw [offered, mirrored.offered]
  · show Underway bridge.running (some _) (some _)
    rw [running]
    have found := List.find?_cons_of_pos (l := campaign.bridge.running)
      (p := fun task => decide (task.ticket.key = ticket.key))
      (a := ⟨own, milestones (s.callback.invoke campaign.world).outcome⟩) (by simp [same])
    exact .busy { task := ticket, outcome := _ } (by simp) found

theorem backed_of_notice {place : Nat} (made : campaign.notice place = some after) :
    Backed tasks after := by
  obtain ⟨task, fault, loop, -, noticed, rfl⟩ := notice_eq_some made
  have notices : domain.step tasks (.notice place) = some { domain with loop := loop } := by
    simp only [HostDomain.step, HostDomain.notice, mirrored.loop, noticed, Option.map_some]
  refine backed_of_step quiet notices rfl ?_
  refine ⟨mirrored.handles, mirrored.offered, rfl, ?_, mirrored.body⟩
  obtain ⟨-, task, fault, -, rfl⟩ := HostLoop.notice_eq_some noticed
  cases fault <;> exact mirrored.stage

theorem backed_of_close : Backed tasks { campaign with loop := campaign.loop.close } := by
  have closes : domain.step tasks .close = some { domain with loop := campaign.loop.close } := by
    simp only [HostDomain.step, HostDomain.close, mirrored.handles, mirrored.loop,
      Nat.one_ne_zero, if_false]
  refine backed_of_step quiet closes rfl ?_
  exact ⟨mirrored.handles, mirrored.offered, rfl, mirrored.stage, mirrored.body⟩

/-- A campaign's loop drains and ends at once. -/
theorem backed_of_finish {loop : HostLoop Ticket} (finished : campaign.loop.finish = some loop) :
    Backed tasks { campaign with loop := loop } := by
  have selecting := mirrored.selecting (HostLoop.going_of_finish finished)
  obtain ⟨closed, arrived, -, -, same⟩ := HostLoop.finish_eq_some finished
  have drains : domain.step tasks .drain = some { domain with stage := .draining } := by
    simp only [HostDomain.step, HostDomain.drain, selecting, mirrored.loop, closed, arrived,
      List.isEmpty_nil, and_self, if_true]
  have drained := quiet.step drains rfl (by simp)
  have finishes : HostDomain.step tasks { domain with stage := .draining } .finish =
      some { domain with loop := loop, stage := .done } := by
    simp only [HostDomain.step, HostDomain.finish, mirrored.loop, finished, if_true,
      Option.map_some]
  refine backed_of_step drained finishes rfl ?_
  refine ⟨mirrored.handles, mirrored.offered, rfl, ?_, mirrored.body⟩
  rw [same]
  rfl

variable {body : Body Ticket Bool} {timing : Timing}

theorem backed_of_counted (busy : domain.body = some body) (reached : body.reached = 0)
    (running : campaign.body = some (body.task.key, faultOf body.outcome))
    (found : campaign.bridge.running.find? (·.ticket.key = body.task.key) =
      some ⟨ticket, (milestones body.outcome).drop body.reached⟩)
    (made : campaign.advance timing = some after) : Backed tasks after := by
  rw [reached] at found
  obtain ⟨bridge, offered, ⟨-, found, rfl⟩ | ⟨none, -⟩⟩ := advance_cases made running found
  · have advances : domain.step tasks (.advance timing) =
        some { domain with
          body := some { body with reached := 1 }
          metrics := domain.metrics.recordExecutedAt timing.finished timing.latency
            (succeeded body.outcome) } := by
      simp only [HostDomain.step, HostDomain.advance, busy, reached]
      rfl
    refine backed_of_step quiet advances rfl ?_
    have same := mirrored.offered.trans offered.symm
    refine ⟨mirrored.handles, same, mirrored.loop, mirrored.stage, ?_⟩
    show Underway bridge.running campaign.body (some { body with reached := 1 })
    rw [running]
    exact .busy { body with reached := 1 } (by simp) found
  · cases none

theorem backed_of_released (busy : domain.body = some body) (reached : body.reached = 1)
    (running : campaign.body = some (body.task.key, faultOf body.outcome))
    (found : campaign.bridge.running.find? (·.ticket.key = body.task.key) =
      some ⟨ticket, (milestones body.outcome).drop body.reached⟩)
    (made : campaign.advance timing = some after) : Backed tasks after := by
  rw [reached] at found
  obtain ⟨bridge, offered, ⟨-, found, rfl⟩ | ⟨none, -⟩⟩ := advance_cases made running found
  · -- Its handoff has not been touched yet, so it can be completed.
    have blank : domain.handoffs body.task = {} :=
      quiet.blank_of_running mirrored.going busy (by simp [reached])
    have advances : domain.step tasks (.advance timing) =
        some (HostDomain.put body.task { slot := some (.ofOutcome body.outcome), signal := .used }
          { domain with body := some { body with reached := 2 } }) := by
      simp only [HostDomain.step, HostDomain.advance, busy, reached, milestones,
        List.getElem?_cons_succ, List.getElem?_cons_zero, blank]
      rfl
    refine backed_of_step quiet advances rfl ?_
    have same := mirrored.offered.trans offered.symm
    refine ⟨mirrored.handles, same, mirrored.loop, mirrored.stage, ?_⟩
    show Underway bridge.running campaign.body (some { body with reached := 2 })
    rw [running]
    exact .busy { body with reached := 2 } (by simp) found
  · cases none

theorem backed_of_ended (busy : domain.body = some body) (reached : body.reached = 2)
    (running : campaign.body = some (body.task.key, faultOf body.outcome))
    (found : campaign.bridge.running.find? (·.ticket.key = body.task.key) =
      some ⟨ticket, (milestones body.outcome).drop body.reached⟩)
    (made : campaign.advance timing = some after) : Backed tasks after := by
  rw [reached] at found
  obtain ⟨bridge, offered, ⟨more, -⟩ | ⟨-, loop, ran, rfl⟩⟩ := advance_cases made running found
  · exact absurd rfl more
  · obtain ⟨slot, used⟩ := quiet.used_of_running busy reached
    have drops : (domain.handoffs body.task).step .drop =
        some { slot := slot, signal := .dropped } := by
      rw [used]
      rfl
    have advances : domain.step tasks (.advance timing) =
        some (HostDomain.put body.task { slot := slot, signal := .dropped }
          { domain with body := none, loop := loop }) := by
      simp only [HostDomain.step, HostDomain.advance, busy, reached, milestones,
        List.getElem?_cons_succ, List.getElem?_cons_zero, mirrored.loop, ran, HostDomain.touch,
        drops, Option.map_some]
    refine backed_of_step quiet advances rfl ?_
    obtain ⟨-, task, rest, -, rfl⟩ := HostLoop.ran_eq_some ran
    exact ⟨mirrored.handles, mirrored.offered.trans offered.symm, rfl, mirrored.stage, .idle⟩

theorem backed_of_advance (made : campaign.advance timing = some after) :
    Backed tasks after := by
  obtain ⟨key, fault, -, running, -⟩ := advance_eq_some made
  have underway := mirrored.body
  rw [running] at underway
  generalize busy : domain.body = there at underway
  cases underway with
  | busy body short found =>
    match reached : body.reached with
    | 0 => exact backed_of_counted quiet mirrored busy reached running found made
    | 1 => exact backed_of_released quiet mirrored busy reached running found made
    | 2 => exact backed_of_ended quiet mirrored busy reached running found made
    | more + 3 => omega

end Moves

/-! ### Reachable campaigns -/

theorem backed_of_reached (reached : Reached settings past campaign)
    (known : Known tasks campaign) : Backed tasks campaign := by
  revert known
  refine reached.induction (P := fun campaign => Known tasks campaign → Backed tasks campaign) ?_ ?_
  · intro first started known
    obtain ⟨bridge, begun, rfl⟩ := start_eq_some started
    obtain ⟨-, -, rfl⟩ := Bridge.start_eq_ok_iff.mp begun
    exact ⟨{}, HostDomain.quiet_start, rfl, rfl, rfl, rfl, .idle⟩
  · intro earlier before move after reached made ih known
    obtain ⟨domain, quiet, mirrored⟩ := ih (known.before made)
    cases hosts : move.isHosts with
    | false => exact ⟨domain, quiet, mirrored.aside (aside_of_step made hosts)⟩
    | true =>
      cases move with
      | offer =>
        exact backed_of_offer quiet mirrored (fun ticket => fresh_of_offering reached) made
      | receive =>
        obtain ⟨loop, received, rfl⟩ := Option.map_eq_some_iff.mp made
        exact backed_of_receive quiet mirrored received
      | begin => exact backed_of_begin quiet mirrored (known.before made) made
      | advance timing => exact backed_of_advance quiet mirrored made
      | notice place => exact backed_of_notice quiet mirrored made
      | closeHost =>
        obtain ⟨-, rfl⟩ := closeHost_eq_some made
        exact backed_of_close quiet mirrored
      | finish =>
        obtain ⟨loop, finished, rfl⟩ := Option.map_eq_some_iff.mp made
        exact backed_of_finish quiet mirrored finished
      | _ => cases hosts

/-- The callback that was submitted under a ticket; any other ticket has one that is never run. -/
def submitted (campaign : Campaign) (ticket : Ticket) : Callback Flight (Host Device) Bool :=
  campaign.bridge.calls[ticket.key]?.getD Flight.reset.callback

theorem known_submitted : Known campaign.submitted campaign := by
  intro key callback called ticket same
  rw [submitted, same, called, Option.getD_some]

/-- The loop of a campaign is that of a domain whose tasks are the callbacks that were submitted,
and when it is over that domain has a report. -/
theorem exists_domain_of_reached (reached : Reached settings past campaign) :
    ∃ history domain, Run (HostDomain.step campaign.submitted) {} history domain ∧
      domain.loop = campaign.loop ∧ domain.offered = campaign.bridge.dispatcher.offered ∧
        (campaign.loop.isOver = true →
          domain.report? = some ⟨campaign.loop.executed, campaign.loop.faults⟩) := by
  obtain ⟨domain, ⟨history, run, -⟩, mirrored⟩ := backed_of_reached reached known_submitted
  refine ⟨history, domain, run, mirrored.loop, mirrored.offered, fun isOver => ?_⟩
  have done : domain.stage = .done := by
    rw [mirrored.stage, isOver]
    rfl
  rw [HostDomain.report?, if_pos done, mirrored.loop]

end Campaign
end CallbackFerry
