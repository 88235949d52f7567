import CallbackFerry.Proofs.Bridge.Answers
import CallbackFerry.Proofs.Drivers.Log
import CallbackFerry.Proofs.Settings.Validation
import CallbackFerry.Simulation.Campaign

/-!
# What chance can decide

The draws behind an event are each from a range: the channels of one of two lists, the kinds of
events, the lengths of a payload, the bytes, the sequence numbers.  `exists_draws` says that
whatever chance decides on is made of `Draws` that are `Within` their ranges, none of which is
empty, and `exists_chance` that all such draws are possible.  So what is said of all chances is said
of all draws, and no more.

An event that is drawn so is `WellFormed`: it is addressed to a channel of its list, has a payload
that every host takes, and names its channel where a burst packet does.  With settings that are
accepted, the threads of a fleet then never break off (`reliable_of_accepted`).
-/

namespace CallbackFerry

/-- The first byte of a burst packet names its channel, if that is one the radio can address. -/
theorem Burst.channel_header {number : UInt8} (low : number.toNat < 32) (sequence : UInt8) :
    channel (header number sequence) = number := by
  -- The mask takes the remainder by 32, and the sequence number stands above that.
  have masked : ∀ n : Nat, n &&& 31 = n % 32 := fun n => Nat.and_two_pow_sub_one_eq_mod n 5
  have above : sequence.toNat <<< 5 % 256 % 32 = 0 := by
    rw [Nat.shiftLeft_eq]
    omega
  apply UInt8.toNat_inj.mp
  calc (channel (header number sequence)).toNat
      = (sequence.toNat <<< 5 % 256 ||| number.toNat &&& 31) &&& 31 := rfl
    _ = sequence.toNat <<< 5 % 256 % 32 ||| number.toNat % 32 % 32 := by
      rw [masked, masked]
      exact Nat.or_mod_two_pow (n := 5)
    _ = number.toNat := by
      rw [above, Nat.zero_or, Nat.mod_mod, Nat.mod_eq_of_lt low]

namespace RandomEvent

variable {opened : List Channel} {ratio : Binary64} {chance : Chance}

/-- The channels among which one is chosen. -/
def pool (opened : List Channel) (stray : Bool) : List Channel :=
  if stray then closedChannels opened else opened

/-- What the draws for an event come to. -/
structure Draws where
  /-- Whether it goes to a channel that is not open. -/
  stray : Bool
  /-- The channel. -/
  channel : Channel
  /-- The kind of event. -/
  code : EventCode
  /-- Random bytes. -/
  data : Bytes
  /-- A sequence number. -/
  sequence : UInt8

/-- Whether each draw is from its range. -/
structure Draws.Within (opened : List Channel) (draws : Draws) : Prop where
  channel : draws.channel ∈ pool opened draws.stray
  code : draws.code ∈ mix
  some : 1 ≤ draws.data.length
  fits : draws.data.length ≤ 41
  sequence : draws.sequence.toNat < 8

/-- The event that draws decide on. -/
def Draws.event (draws : Draws) : ChannelEvent where
  channel := draws.channel
  code := draws.code
  payload :=
    if draws.code.isData = false then [draws.code.toByte]
    else if draws.code.isBurst then
      draws.data.set 0 (Burst.header draws.channel.number draws.sequence)
    else draws.data

/-- The payload that chance decides on is that of the draws. -/
theorem payload_eq (stray : Bool) (channel : Channel) (code : EventCode) (chance : Chance) :
    payload channel code chance =
      (Draws.mk stray channel code ((List.range (chance.length % maxPayload + 1)).map chance.byte)
        (UInt8.ofNat (chance.sequence % 8))).event.payload := by
  unfold payload Draws.event
  cases data : code.isData with
  | false => rfl
  | true =>
    rw [List.range_succ_eq_map]
    cases burst : code.isBurst <;> rfl

/-- What chance decides on is made of draws that are each from their range. -/
theorem exists_draws (valid : ratio.isProbability = true) (chance : Chance) :
    ∃ draws : Draws, draws.Within opened ∧
      strays opened (closedChannels opened) ratio chance = .ok draws.stray ∧
      fire opened ratio chance = .ok draws.event := by
  obtain ⟨stray, decided, choices⟩ := exists_strays opened valid chance
  obtain ⟨channel, among, chosen⟩ := exists_pick chance.channel choices
  have kinds : mix ≠ [] := by simp [mix]
  obtain ⟨code, known, kind⟩ := exists_pick chance.kind kinds
  let data := (List.range (chance.length % maxPayload + 1)).map chance.byte
  have length : data.length = chance.length % maxPayload + 1 := by
    simp [data]
  have short : chance.length % maxPayload < maxPayload := Nat.mod_lt _ (by decide)
  have low : chance.sequence % 8 < 8 := Nat.mod_lt _ (by decide)
  refine ⟨⟨stray, channel, code, data, UInt8.ofNat (chance.sequence % 8)⟩,
    ⟨among, known, ?_, ?_, ?_⟩, decided, ?_⟩
  · simp only [length]
    omega
  · rw [length]
    exact short
  · show (UInt8.ofNat (chance.sequence % 8)).toNat < 8
    rw [UInt8.toNat_ofNat_of_lt' (Nat.lt_trans low (by decide))]
    exact low
  · simp only [fire, decided, chosen, kind, payload_eq stray]
    rfl

theorem exists_number_of_mem {α : Type} {choices : List α} {choice : α} (member : choice ∈ choices) :
    ∃ number, pick choices number = some choice := by
  obtain ⟨place, within, rfl⟩ := List.mem_iff_getElem.mp member
  refine ⟨place, ?_⟩
  rw [pick, Nat.mod_eq_of_lt within, List.getElem?_eq_getElem within]

/-- Whether an event strays hangs on one draw, and all draws from their ranges are possible with
it. -/
theorem exists_chance {draws : Draws} (within : draws.Within opened)
    (decided : strays opened (closedChannels opened) ratio chance = .ok draws.stray) :
    ∃ other : Chance, other.stray = chance.stray ∧ fire opened ratio other = .ok draws.event := by
  obtain ⟨channel, chosen⟩ := exists_number_of_mem within.channel
  obtain ⟨code, kind⟩ := exists_number_of_mem within.code
  have some := within.some
  have fits := within.fits
  let other : Chance :=
    { stray := chance.stray
      channel := channel
      kind := code
      length := draws.data.length - 1
      byte := fun place => draws.data.getD place 0
      sequence := draws.sequence.toNat }
  refine ⟨other, rfl, ?_⟩
  have data : (List.range (other.length % maxPayload + 1)).map other.byte = draws.data := by
    have length : other.length % maxPayload + 1 = draws.data.length := by
      show (draws.data.length - 1) % 41 + 1 = draws.data.length
      omega
    rw [length]
    refine List.ext_getElem (by simp) fun place _ here => ?_
    simp [other, List.getD_eq_getElem?_getD, List.getElem?_eq_getElem here]
  have sequence : UInt8.ofNat (other.sequence % 8) = draws.sequence := by
    rw [Nat.mod_eq_of_lt within.sequence]
    exact UInt8.ofNat_toNat
  have decided : strays opened (closedChannels opened) ratio other = .ok draws.stray := decided
  have chosen : pick (if draws.stray = true then closedChannels opened else opened) other.channel =
      Option.some draws.channel := chosen
  have kind : pick mix other.kind = Option.some draws.code := kind
  simp only [fire, decided, chosen, kind, payload_eq draws.stray, data, sequence]
  rfl

/-! ### Events in order -/

/-- What is asked of an event that is fired. -/
structure WellFormed (opened : List Channel) (stray : Bool) (event : ChannelEvent) : Prop where
  addressed : if stray then event.channel ∉ opened else event.channel ∈ opened
  addressable : event.channel.number.toNat < 32
  /-- It has a payload, and that fits. -/
  size : 1 ≤ event.payload.length ∧ event.payload.length ≤ 41
  /-- The check of an event lets it pass. -/
  checked : ChannelEvent.checked event.channel event.code event.payload = .ok event
  /-- No host refuses it for its payload. -/
  accepted : ∀ (σ : Type) (host : Host σ) (perform : Performer σ) (cause : FrameError),
    (host.deliver perform event).1 ≠ .ok (.error (.protocol cause))
  /-- If it comes with no data, it carries its own code. -/
  status : event.code.isData = false → event.payload = [event.code.toByte]
  /-- If it is a burst packet, it names its channel. -/
  burst : event.code.isBurst = true → ∃ first rest, event.payload = first :: rest ∧
    Burst.channel first = event.channel.number

/-- The channels that are not open are all others that the radio can address. -/
theorem mem_closedChannels {channel : Channel} :
    channel ∈ closedChannels opened ↔ channel.number.toNat < 32 ∧ channel ∉ opened := by
  have among : channel ∈ Channel.all ↔ channel.number.toNat < 32 := by
    obtain ⟨number⟩ := channel
    rw [Channel.all, List.mem_map]
    constructor
    · rintro ⟨other, below, same⟩
      obtain rfl := Channel.mk.inj same
      have below : other < 32 := List.mem_range.mp below
      rwa [UInt8.toNat_ofNat_of_lt' (Nat.lt_trans below (by decide))]
    · intro below
      exact ⟨number.toNat, List.mem_range.mpr below, congrArg Channel.mk UInt8.ofNat_toNat⟩
  rw [closedChannels, List.mem_filter, among]
  simp

theorem isData_of_isBurst {code : EventCode} (burst : code.isBurst = true) : code.isData = true := by
  cases code <;> first | rfl | cases burst

theorem Draws.Within.wellFormed {draws : Draws} (within : draws.Within opened)
    (addressable : ∀ channel ∈ opened, channel.number.toNat < 32) :
    WellFormed opened draws.stray draws.event := by
  have addressed : (if draws.stray then draws.channel ∉ opened else draws.channel ∈ opened) ∧
      draws.channel.number.toNat < 32 := by
    have member := within.channel
    unfold pool at member
    split at member
    · next stray =>
      obtain ⟨reach, closed⟩ := mem_closedChannels.mp member
      exact ⟨by rwa [if_pos stray], reach⟩
    · next stray => exact ⟨by rwa [if_neg stray], addressable _ member⟩
  obtain ⟨addressed, reach⟩ := addressed
  have size : 1 ≤ draws.event.payload.length ∧ draws.event.payload.length ≤ 41 := by
    have some := within.some
    have fits := within.fits
    unfold event
    split
    · simp
    · split
      · rw [List.length_set]
        exact ⟨some, fits⟩
      · exact ⟨some, fits⟩
  have fits : draws.event.payload.length ≤ maxPayload := size.2
  refine ⟨addressed, reach, size, ChannelEvent.checked_eq_ok_iff.mpr ⟨fits, rfl⟩, ?_, ?_, ?_⟩
  · intro σ host perform cause refused
    cases opened : host.isOpen draws.event.channel with
    | true => exact Host.deliver_of_fits opened fits perform _ refused
    | false =>
      rw [(Host.deliver_of_closed opened perform (Host.watch 0)).1] at refused
      cases refused
  · intro status
    exact if_pos status
  · intro burst
    obtain ⟨first, rest, data⟩ := List.exists_cons_of_length_pos within.some
    refine ⟨Burst.header draws.channel.number draws.sequence, rest, ?_, Burst.channel_header reach _⟩
    have burst : draws.code.isBurst = true := burst
    simp only [event, isData_of_isBurst burst, burst, data]
    rfl

end RandomEvent

/-! ### Threads in order -/

namespace Fleet

variable {orders : Orders} {fleet now : Fleet} {past : List (Moment Fleet Turn)}

/-- No thread ever breaks off if the ratio is a share of a whole. -/
theorem unbroken_of_run (valid : orders.settings.unknownRatio.isProbability = true)
    (run : Run (step orders) (ofSettings orders.settings) past now) : now.Unbroken := by
  refine run.preserves (P := Unbroken) ?_ ?_
  · intro before turn after made unbroken other broken
    cases turn with
    | launch thread chance =>
      obtain ⟨⟨launched, next⟩, launches, rfl⟩ := Option.map_eq_some_iff.mp made
      have launches := launch_cases launches
      obtain ⟨flight, rfl⟩ := launches.exists_flight valid
      obtain ⟨fired, reported, fired', reported', -, ready, threads⟩ := launches.threads
      rw [threads, threads_set _ ready] at broken
      split at broken
      · cases broken
      · exact unbroken other broken
    | land thread result =>
      obtain ⟨fired, reported, flight, aloft, rfl⟩ := land_eq_some made
      have broken : (before.threads.set! thread _)[other]? = some DriverPhase.broken := broken
      rw [threads_set _ aloft] at broken
      split at broken
      · cases broken
      · exact unbroken other broken
  · intro other broken
    rw [ofSettings, Array.getElem?_replicate] at broken
    split at broken <;> cases broken

theorem Unbroken.broken?_eq_none (unbroken : fleet.Unbroken) : fleet.broken? = none := by
  rw [broken?, Array.findIdx?_eq_none_iff]
  intro phase member
  obtain ⟨thread, within, rfl⟩ := Array.mem_iff_getElem.mp member
  have whole := unbroken thread
  rw [Array.getElem?_eq_getElem within] at whole
  split
  · next broken => exact absurd (congrArg some broken) whole
  · rfl

end Fleet

/-- What the threads of a fleet do that goes by these settings, whatever chance decides. -/
structure Settings.Reliable (settings : Settings) : Prop where
  /-- There is always a channel to choose from, and an event that is in order. -/
  fires : ∀ chance, ∃ stray event,
    RandomEvent.strays settings.orders.opened
        (RandomEvent.closedChannels settings.orders.opened) settings.driver.unknownRatio chance =
      .ok stray ∧
    RandomEvent.pool settings.orders.opened stray ≠ [] ∧
    RandomEvent.fire settings.orders.opened settings.driver.unknownRatio chance = .ok event ∧
    RandomEvent.WellFormed settings.orders.opened stray event
  /-- Chance may draw anything from the ranges it is given. -/
  draws : ∀ chance, ∀ draws : RandomEvent.Draws, draws.Within settings.orders.opened →
    RandomEvent.strays settings.orders.opened
        (RandomEvent.closedChannels settings.orders.opened) settings.driver.unknownRatio chance =
      .ok draws.stray →
    ∃ other : Chance, other.stray = chance.stray ∧
      RandomEvent.fire settings.orders.opened settings.driver.unknownRatio other =
        .ok draws.event
  /-- Nothing is divided by zero. -/
  due : ∀ sequence, ∃ due, Fleet.isDue settings.driver.faultEvery sequence = .ok due ∧
    ∀ chance, Fleet.numbered settings.orders sequence chance =
      if due then .ok (.fault sequence)
      else (RandomEvent.fire settings.orders.opened settings.driver.unknownRatio chance).map .event
  /-- Whatever a thread launches, it is not broken off, and an event that is launched is in order. -/
  launches : ∀ fleet thread chance launched after,
    Fleet.launch settings.orders thread chance fleet = some (launched, after) →
      ∃ flight, launched = some flight ∧ ∀ event, flight = .event event →
        ∃ stray, RandomEvent.WellFormed settings.orders.opened stray event
  /-- No thread ever breaks off, however they take turns and whatever results come back. -/
  unbroken : ∀ past now,
    Run (Fleet.step settings.orders) (Fleet.ofSettings settings.driver) past now →
      now.broken? = none

/-- With settings that are accepted no thread breaks off, and all events are in order. -/
theorem Settings.reliable_of_accepted {settings : Settings} (accepted : settings.flaw? = none) :
    settings.Reliable := by
  have usable := flaw?_eq_none_iff.mp accepted
  have valid : settings.orders.settings.unknownRatio.isProbability = true :=
    Binary64.isProbability_iff.mpr usable.share
  have addressable : ∀ channel ∈ settings.orders.opened, channel.number.toNat < 32 := by
    intro channel member
    obtain ⟨set, among, rfl⟩ := List.mem_map.mp member
    exact usable.addressable set among
  have fires : ∀ chance, ∃ draws : RandomEvent.Draws, draws.Within settings.orders.opened ∧ _ :=
    RandomEvent.exists_draws valid
  refine ⟨fun chance => ?_, fun chance draws => RandomEvent.exists_chance, fun sequence => ?_, ?_, ?_⟩
  · obtain ⟨draws, within, decided, fired⟩ := fires chance
    exact ⟨draws.stray, draws.event, decided, List.ne_nil_of_mem within.channel, fired,
      within.wellFormed addressable⟩
  · have divided := Fleet.isDue_eq settings.driver.faultEvery sequence
    exact ⟨_, divided, fun chance => Fleet.numbered_of_isDue divided⟩
  · intro fleet thread chance launched after made
    have launches := Fleet.launch_cases made
    obtain ⟨flight, rfl⟩ := launches.exists_flight valid
    refine ⟨flight, rfl, ?_⟩
    rintro event rfl
    cases launches with
    | event ready left undue due chosen =>
      obtain ⟨draws, within, -, fired⟩ := fires chance
      obtain rfl := Except.ok.inj (fired.symm.trans chosen)
      exact ⟨draws.stray, within.wellFormed addressable⟩
  · intro past now run
    exact (Fleet.unbroken_of_run valid run).broken?_eq_none

/-- Settings with all channels open, a share of one for the others, and a fault in three. -/
def crowded : Settings where
  driver := { faultEvery := 3, unknownRatio := .finite false 1 0 }
  channels := (List.range 32).map fun number => ⟨UInt8.ofNat number, .counting⟩

/-- Where no channel is left to stray to, events still go somewhere. -/
theorem reliable_of_crowded : crowded.flaw? = none ∧ crowded.Reliable := by
  have accepted : crowded.flaw? = none := by decide
  exact ⟨accepted, Settings.reliable_of_accepted accepted⟩

end CallbackFerry
