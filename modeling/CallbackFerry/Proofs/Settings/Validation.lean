import CallbackFerry.Proofs.Device
import CallbackFerry.Proofs.Host.Refinement
import CallbackFerry.Proofs.Number.Value
import CallbackFerry.Settings.Validation
import Mathlib.Data.List.DropRight
import Mathlib.Data.List.Sort
import Mathlib.Data.List.TakeWhile

/-!
# Usable settings

`Settings.flaw?` stops at the first rule that is broken.  `Settings.flaws` goes on to the end: it
lists all that is wrong with the settings, rule by rule, and the channels one by one, what is wrong
with an earlier one first.  A flaw of a channel is told from its place in the list alone: its number
is out of the radio's reach, or stands further in front as well.

`judged` says that the flaw that is reported is the first of all there are, and that there is none
if and only if the settings are `Usable`.  Settings that are accepted can then be put to use: their
channels are all opened, each once.
-/

namespace CallbackFerry

/-! ### Blank text -/

/-- A text without the blank characters at its ends. -/
def trimmed (text : String) : List Char :=
  (text.toList.dropWhile isBlankChar).rdropWhile isBlankChar

/-- A text is blank if trimming leaves nothing of it. -/
theorem isBlank_iff {text : String} : isBlank text = true ↔ trimmed text = [] := by
  rw [isBlank, List.all_eq_true, trimmed, List.rdropWhile_eq_nil_iff]
  constructor
  · intro all character member
    rw [List.dropWhile_eq_nil_iff.mpr all] at member
    cases member
  · intro rest
    -- What is left begins with a character that is not blank, so nothing is left.
    refine List.dropWhile_eq_nil_iff.mp ?_
    by_contra some
    have blank := rest _ (List.head_mem some)
    have notBlank := List.head_dropWhile_not isBlankChar some
    rw [blank] at notBlank
    cases notBlank

/-! ### All flaws -/

/-- A flaw, if a rule is broken. -/
def onlyIf {α : Type} (broken : Prop) [Decidable broken] (flaw : α) : List α :=
  if broken then [flaw] else []

section OnlyIf

variable {α : Type} {broken : Prop} [Decidable broken] {flaw : α} {rest : List α}

@[simp]
theorem onlyIf_eq_nil_iff : onlyIf broken flaw = [] ↔ ¬ broken := by
  unfold onlyIf
  split <;> simp [*]

/-- The first of several flaws is that of the first rule that is broken. -/
theorem head?_onlyIf_append : (onlyIf broken flaw ++ rest).head? =
    if broken then some flaw else rest.head? := by
  unfold onlyIf
  split <;> rfl

end OnlyIf

/-- All that is wrong with the settings of a bridge. -/
def BridgeSettings.flaws (settings : BridgeSettings) : List BridgeFlaw :=
  onlyIf (trimmed settings.threadName = []) .blankThreadName ++
    onlyIf (settings.timeoutMillis = some 0) .zeroTimeout ++
    onlyIf (settings.warnDepth = 0) .zeroWarnDepth

/-- All that is wrong with a channel at its place in a list. -/
def channelFlawsAt (channels : List ChannelSettings) (place : ChannelSettings × Nat) :
    List SettingsFlaw :=
  onlyIf (32 ≤ place.1.number.toNat) (.channelOutOfRange place.1.number) ++
    onlyIf (place.1.number ∈ (channels.take place.2).map ChannelSettings.number)
      (.channelRepeated place.1.number)

/-- All that is wrong with the channels of a list. -/
def channelFlaws (channels : List ChannelSettings) : List SettingsFlaw :=
  channels.zipIdx.flatMap (channelFlawsAt channels)

/-- All that is wrong with the settings. -/
def Settings.flaws (settings : Settings) : List SettingsFlaw :=
  onlyIf (settings.logging.level ∉ ["trace", "debug", "info", "warn", "error"])
      (.unknownLevel settings.logging.level) ++
    settings.bridge.flaws.map .bridge ++
    onlyIf (settings.driver.threads = 0) .noThreads ++
    onlyIf (¬ settings.driver.unknownRatio.value?.any fun ratio => 0 ≤ ratio ∧ ratio ≤ 1)
      (.ratioOutOfRange settings.driver.unknownRatio) ++
    channelFlaws settings.channels

/-! ### The first flaw -/

theorem BridgeSettings.flaw?_eq_head? (settings : BridgeSettings) :
    settings.flaw? = settings.flaws.head? := by
  have last : (onlyIf (settings.warnDepth = 0) BridgeFlaw.zeroWarnDepth).head? =
      if settings.warnDepth = 0 then some .zeroWarnDepth else none := by
    unfold onlyIf
    split <;> rfl
  rw [flaws, List.append_assoc, head?_onlyIf_append, head?_onlyIf_append, last, flaw?]
  simp only [isBlank_iff]

/-- Among the channels that come after others, the first flaw is the first of all their flaws. -/
theorem firstChannelFlaw?_eq_head? {seen : List UInt8} {before : List ChannelSettings}
    (known : ∀ number, number ∈ seen ↔ number ∈ before.map ChannelSettings.number)
    (channels : List ChannelSettings) : firstChannelFlaw? seen channels =
      ((channels.zipIdx before.length).flatMap (channelFlawsAt (before ++ channels))).head? := by
  induction channels generalizing seen before with
  | nil => rfl
  | cons settings rest ih =>
    have earlier : (before ++ settings :: rest).take before.length = before := List.take_left
    have onward := @ih (settings.number :: seen) (before ++ [settings]) fun number => by
      simp [known, or_comm]
    rw [List.length_append, List.length_singleton, List.append_assoc, List.singleton_append] at onward
    have reach : (!settings.channel.addressable) = true ↔ 32 ≤ settings.number.toNat := by
      rw [Bool.not_eq_true', Channel.addressable, decide_eq_false_iff_not, Nat.not_lt]
      rfl
    simp only [firstChannelFlaw?, List.zipIdx_cons, List.flatMap_cons, channelFlawsAt, earlier,
      List.append_assoc, head?_onlyIf_append, reach, known, onward]

/-- The flaw that is reported is the first of all flaws. -/
theorem Settings.flaw?_eq_head? (settings : Settings) :
    settings.flaw? = settings.flaws.head? := by
  have channels : firstChannelFlaw? [] settings.channels =
      (channelFlaws settings.channels).head? :=
    @firstChannelFlaw?_eq_head? [] [] (fun _ => Iff.rfl) settings.channels
  have share : (!settings.driver.unknownRatio.isProbability) = true ↔
      ¬ settings.driver.unknownRatio.value?.any fun ratio => 0 ≤ ratio ∧ ratio ≤ 1 := by
    rw [Bool.not_eq_true', ← Bool.not_eq_true, Binary64.isProbability_iff, Option.any_eq_true]
    simp only [decide_eq_true_eq]
  rw [flaws, List.append_assoc, List.append_assoc, List.append_assoc, head?_onlyIf_append, flaw?]
  refine if_congr Iff.rfl rfl ?_
  rw [List.head?_append, List.head?_map, ← BridgeSettings.flaw?_eq_head?]
  cases settings.bridge.flaw? with
  | some flaw => rfl
  | none =>
    simp only [Option.map_none, Option.none_or, head?_onlyIf_append, share, channels]

/-! ### Usable settings -/

/-- What is asked of the settings of a bridge. -/
structure BridgeSettings.Usable (settings : BridgeSettings) : Prop where
  /-- The name of the thread is more than blanks. -/
  named : trimmed settings.threadName ≠ []
  /-- A driver that does not wait for ever waits for some time. -/
  patient : settings.timeoutMillis ≠ some 0
  /-- Some backlog goes without a warning. -/
  tolerant : 0 < settings.warnDepth

/-- What is asked of the settings. -/
structure Settings.Usable (settings : Settings) : Prop where
  /-- The level is one of five. -/
  level : settings.logging.level ∈ ["trace", "debug", "info", "warn", "error"]
  /-- The bridge can be used. -/
  bridge : settings.bridge.Usable
  /-- There are threads. -/
  manned : 0 < settings.driver.threads
  /-- The ratio is a share of a whole; what is not a number is none. -/
  share : ∃ ratio, settings.driver.unknownRatio.value? = some ratio ∧ 0 ≤ ratio ∧ ratio ≤ 1
  /-- The radio can address the channels. -/
  addressable : ∀ channel ∈ settings.channels, channel.number.toNat < 32
  /-- No channel occurs twice. -/
  distinct : (settings.channels.map ChannelSettings.number).Nodup

theorem BridgeSettings.flaws_eq_nil_iff {settings : BridgeSettings} :
    settings.flaws = [] ↔ settings.Usable := by
  simp only [flaws, List.append_eq_nil_iff, onlyIf_eq_nil_iff, and_assoc, ← Nat.pos_iff_ne_zero]
  exact ⟨fun ⟨named, patient, tolerant⟩ => ⟨named, patient, tolerant⟩,
    fun ⟨named, patient, tolerant⟩ => ⟨named, patient, tolerant⟩⟩

theorem BridgeSettings.flaw?_eq_none_iff {settings : BridgeSettings} :
    settings.flaw? = none ↔ settings.Usable := by
  rw [flaw?_eq_head?, List.head?_eq_none_iff, flaws_eq_nil_iff]

/-- Channels are without flaws if the radio can address them and none occurs further in front. -/
theorem channelFlaws_eq_nil_iff {channels : List ChannelSettings} : channelFlaws channels = [] ↔
    (∀ channel ∈ channels, channel.number.toNat < 32) ∧
      (channels.map ChannelSettings.number).Nodup := by
  have flawless : channelFlaws channels = [] ↔ ∀ place, (h : place < channels.length) →
      channels[place].number.toNat < 32 ∧
        channels[place].number ∉ (channels.take place).map ChannelSettings.number := by
    simp only [channelFlaws, List.flatMap_eq_nil_iff, Prod.forall, List.mem_zipIdx_iff_getElem?,
      channelFlawsAt, List.append_eq_nil_iff, onlyIf_eq_nil_iff, Nat.not_le]
    constructor
    · intro all place within
      exact all _ place (List.getElem?_eq_getElem within)
    · intro all settings place here
      obtain ⟨within, rfl⟩ := List.getElem?_eq_some_iff.mp here
      exact all place within
  have distinct : (channels.map ChannelSettings.number).Nodup ↔
      ∀ place, (h : place < channels.length) →
        channels[place].number ∉ (channels.take place).map ChannelSettings.number := by
    rw [List.Nodup, List.pairwise_map, List.pairwise_iff_getElem]
    simp only [List.mem_map, not_exists, not_and]
    constructor
    · intro pairs place within earlier member
      obtain ⟨first, before, rfl⟩ := List.mem_take_iff_getElem.mp member
      exact pairs first place _ within (by omega)
    · intro all first second before within less
      exact all second within _ (List.mem_take_iff_getElem.mpr ⟨first, by omega, rfl⟩)
  rw [flawless, distinct, List.forall_mem_iff_forall_getElem]
  exact forall₂_and

theorem Settings.flaws_eq_nil_iff {settings : Settings} :
    settings.flaws = [] ↔ settings.Usable := by
  simp only [flaws, List.append_eq_nil_iff, onlyIf_eq_nil_iff, List.map_eq_nil_iff,
    BridgeSettings.flaws_eq_nil_iff, channelFlaws_eq_nil_iff, not_not, Option.any_eq_true,
    decide_eq_true_eq, and_assoc, ← Nat.pos_iff_ne_zero]
  constructor
  · rintro ⟨level, bridge, manned, share, addressable, distinct⟩
    exact ⟨level, bridge, manned, share, addressable, distinct⟩
  · rintro ⟨level, bridge, manned, share, addressable, distinct⟩
    exact ⟨level, bridge, manned, share, addressable, distinct⟩

/-- Settings in which no flaw is found are usable, and in usable ones none is found. -/
theorem Settings.flaw?_eq_none_iff {settings : Settings} :
    settings.flaw? = none ↔ settings.Usable := by
  rw [flaw?_eq_head?, List.head?_eq_none_iff, flaws_eq_nil_iff]

/-! ### Settings that are accepted -/

section Opened

variable {σ : Type} {place : Place σ} {host : Host σ} {channels : List ChannelSettings}

/-- What is left of a host when the channels of some settings were opened on it. -/
structure Opened (place : Place σ) (channels : List ChannelSettings) (host : Host σ) : Prop where
  /-- There are as many channels as were set. -/
  size : host.size = channels.length
  /-- They are those that were set, in ascending order. -/
  listed : host.channels = (channels.map ChannelSettings.channel).mergeSort
    fun first second => first.number ≤ second.number
  /-- Each has the handler that was set for it. -/
  handled : ∀ settings ∈ channels, host.lookup settings.channel = .ok (Device.handler place settings)

/-- A channel that is set once is set so. -/
theorem setting?_of_mem {settings : ChannelSettings}
    (distinct : (channels.map ChannelSettings.number).Nodup) (member : settings ∈ channels) :
    Device.setting? channels settings.channel = some settings := by
  induction channels with
  | nil => cases member
  | cons first rest ih =>
    obtain ⟨once, distinct⟩ := List.nodup_cons.mp distinct
    rw [Device.setting?_cons]
    rcases List.mem_cons.mp member with rfl | behind
    · have absent : Device.setting? rest settings.channel = none := by
        rw [← Option.not_isSome_iff_eq_none, Device.isSome_setting?]
        intro again
        obtain ⟨other, there, same⟩ := List.mem_map.mp again
        exact once (List.mem_map.mpr ⟨other, there, congrArg Channel.number same⟩)
      rw [absent, if_pos rfl, Option.none_or]
    · rw [ih distinct behind, Option.some_or]

/-- Sorting channels by number puts them in ascending order. -/
theorem pairwise_mergeSort_number (channels : List Channel) :
    (channels.mergeSort fun first second => first.number ≤ second.number).Pairwise
      fun first second => first.number ≤ second.number := by
  have transitive : ∀ first second third : Channel, decide (first.number ≤ second.number) = true →
      decide (second.number ≤ third.number) = true →
        decide (first.number ≤ third.number) = true := by
    simp only [decide_eq_true_eq]
    exact fun _ _ _ => UInt8.le_trans
  have total : ∀ first second : Channel,
      (decide (first.number ≤ second.number) || decide (second.number ≤ first.number)) = true := by
    simp only [Bool.or_eq_true, decide_eq_true_eq]
    exact fun _ _ => UInt8.le_total ..
  exact (List.pairwise_mergeSort transitive total channels).imp of_decide_eq_true

/-- Distinct channels are all opened on a host that has none. -/
theorem opened_openIn (blank : host.routes = .empty)
    (known : (place.read host.memory).channels = channels)
    (distinct : (channels.map ChannelSettings.number).Nodup) :
    Opened place channels (Device.openIn place host) := by
  have table : (Device.openIn place host).table = Device.openOn place channels host.table := by
    rw [← known]
    exact (Prod.mk.inj (Device.view_openIn place host)).1
  have handlers : ∀ channel, (Device.openIn place host).table.handlers channel =
      (Device.setting? channels channel).map (Device.handler place) := by
    intro channel
    rw [table, Device.handlers_openOn, Host.handlers_table, blank]
    exact Option.or_none
  have ascending : (Device.openIn place host).channels.Pairwise
      fun first second => first.number < second.number := ChannelMap.channels_ascending
  have listedOnce : (Device.openIn place host).channels.Nodup := ChannelMap.nodup_channels
  have once : (channels.map ChannelSettings.channel).Nodup := by
    refine List.Nodup.of_map Channel.number ?_
    rwa [List.map_map]
  have perm : (Device.openIn place host).channels.Perm (channels.map ChannelSettings.channel) := by
    refine (List.perm_ext_iff_of_nodup listedOnce once).mpr fun channel => ?_
    rw [← Host.mem_channels_table, Table.channels, List.mem_filter, Table.isOpen, handlers,
      Option.isSome_map, Device.isSome_setting?]
    exact and_iff_right (Host.mem_every channel)
  refine ⟨?_, ?_, fun settings member => ?_⟩
  · have count : (Device.openIn place host).channels.length = (Device.openIn place host).size :=
      ChannelMap.length_channels
    rw [← count, perm.length_eq, List.length_map]
  · -- Both lists are sorted, and they have the same members.
    have sorted := pairwise_mergeSort_number (channels.map ChannelSettings.channel)
    refine (perm.trans (List.mergeSort_perm _ _).symm).eq_of_pairwise
      (fun first second _ _ less more => ?_) (ascending.imp UInt8.le_of_lt) sorted
    cases first
    cases second
    exact congrArg Channel.mk (UInt8.le_antisymm less more)
  · rw [Host.lookup_eq_ok_iff, handlers, setting?_of_mem distinct member]
    rfl

end Opened

/-- What it means that the settings are checked. -/
structure Settings.Judged (settings : Settings) : Prop where
  /-- They are accepted if and only if they are usable. -/
  accepted : settings.flaw? = none ↔ settings.Usable
  /-- If they are not, the first flaw is reported. -/
  reported : settings.flaw? = settings.flaws.head?
  /-- If they are, their channels can all be opened on a host without channels. -/
  opened : settings.flaw? = none → ∀ (σ : Type) (place : Place σ) (host : Host σ),
    host.routes = .empty → (place.read host.memory).channels = settings.channels →
      Opened place settings.channels (Device.openIn place host)

/-- Settings are accepted exactly if they are usable, and the first thing that is wrong with them is
reported otherwise. -/
theorem Settings.judged (settings : Settings) : settings.Judged := by
  refine ⟨flaw?_eq_none_iff, settings.flaw?_eq_head?, fun accepted σ place host blank known => ?_⟩
  exact opened_openIn blank known (flaw?_eq_none_iff.mp accepted).distinct

/-- A channel that cannot be addressed is no better for occurring twice. -/
example : channelFlaws [⟨5, .logging⟩, ⟨40, .counting⟩, ⟨5, .counting⟩, ⟨40, .logging⟩] =
    [.channelOutOfRange 40, .channelRepeated 5, .channelOutOfRange 40, .channelRepeated 40] := by
  decide

end CallbackFerry
