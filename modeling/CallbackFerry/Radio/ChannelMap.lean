import CallbackFerry.Radio.Channel

/-!
# Finite maps on channels

A map from channels to values is a list of pairs in ascending order of channel number, so each
channel is there at most once.  The order is part of the map, and every operation comes with the
proof that it keeps it.  `ChannelMap.insert` walks the list once and replaces the value of a channel
that is there already, so the order is kept without sorting, and `ChannelMap.channels` lists the
channels in ascending order.

What the operations do to the values is said by `get?_insert`, `get?_erase` and `get?_modify`.
-/

namespace CallbackFerry

/-- Whether a list of pairs is in ascending order of channel number, each channel at most once. -/
def Ascending {α : Type} (pairs : List (Channel × α)) : Prop :=
  pairs.Pairwise fun first second => first.1.number < second.1.number

/-- A map from channels to values, in ascending order of channel number. -/
structure ChannelMap (α : Type) where
  /-- The pairs, ascending. -/
  pairs : List (Channel × α)
  /-- That they are ascending. -/
  ascending : Ascending pairs
  deriving Repr

namespace ChannelMap

variable {α : Type}

/-- The map without channels. -/
def empty : ChannelMap α := ⟨[], .nil⟩

instance : Inhabited (ChannelMap α) := ⟨empty⟩

/-! ### Operations -/

/-- Puts a pair into an ascending list, in place of the pair of the same channel. -/
def insertPair (channel : Channel) (value : α) : List (Channel × α) → List (Channel × α)
  | [] => [(channel, value)]
  | (other, kept) :: rest =>
    if channel.number < other.number then (channel, value) :: (other, kept) :: rest
    else if channel = other then (channel, value) :: rest
    else (other, kept) :: insertPair channel value rest

/-- An inserted pair is the new one or was there before. -/
theorem mem_insertPair {channel : Channel} {value : α} {pair : Channel × α} :
    {pairs : List (Channel × α)} → pair ∈ insertPair channel value pairs →
      pair = (channel, value) ∨ pair ∈ pairs
  | [], member => .inl (by simpa [insertPair] using member)
  | (other, kept) :: rest, member => by
    unfold insertPair at member
    split at member
    · simpa using member
    · split at member
      · rcases List.mem_cons.mp member with same | behind
        · exact .inl same
        · exact .inr (List.mem_cons_of_mem _ behind)
      · rcases List.mem_cons.mp member with same | behind
        · exact .inr (same ▸ List.mem_cons_self)
        · rcases mem_insertPair behind with new | old
          · exact .inl new
          · exact .inr (List.mem_cons_of_mem _ old)

theorem ascending_insertPair {channel : Channel} {value : α} :
    {pairs : List (Channel × α)} → Ascending pairs → Ascending (insertPair channel value pairs)
  | [], _ => List.pairwise_singleton _ _
  | (other, kept) :: rest, ascending => by
    obtain ⟨first, later⟩ := List.pairwise_cons.mp ascending
    unfold insertPair
    split
    · next less =>
      -- The new pair comes before the first one, and so before all of them.
      refine List.pairwise_cons.mpr ⟨fun pair member => ?_, ascending⟩
      rcases List.mem_cons.mp member with rfl | behind
      · exact less
      · exact UInt8.lt_trans less (first pair behind)
    · next notLess =>
      split
      · next same =>
        subst same
        exact List.pairwise_cons.mpr ⟨first, later⟩
      · next distinct =>
        refine List.pairwise_cons.mpr ⟨fun pair member => ?_, ascending_insertPair later⟩
        rcases mem_insertPair member with rfl | old
        · refine UInt8.lt_of_le_of_ne (UInt8.not_lt.mp notLess) fun same => distinct ?_
          cases channel
          cases other
          exact congrArg Channel.mk same.symm
        · exact first pair old

/-- The map with a value for a channel, in place of the one it had. -/
def insert (map : ChannelMap α) (channel : Channel) (value : α) : ChannelMap α :=
  ⟨insertPair channel value map.pairs, ascending_insertPair map.ascending⟩

/-- The value of a channel. -/
def get? (map : ChannelMap α) (channel : Channel) : Option α :=
  (map.pairs.find? fun pair => pair.1 = channel).map (·.2)

/-- The map without a channel. -/
def erase (map : ChannelMap α) (channel : Channel) : ChannelMap α :=
  ⟨map.pairs.filter fun pair => pair.1 ≠ channel, List.Pairwise.filter _ map.ascending⟩

/-- The map with the value of a channel changed, if the channel has one. -/
def modify (map : ChannelMap α) (channel : Channel) (change : α → α) : ChannelMap α where
  pairs := map.pairs.map fun pair => if pair.1 = channel then (pair.1, change pair.2) else pair
  ascending := by
    refine List.pairwise_map.mpr (map.ascending.imp fun {first second} less => ?_)
    split <;> split <;> exact less

/-- Whether a channel has a value. -/
def contains (map : ChannelMap α) (channel : Channel) : Bool :=
  map.pairs.any fun pair => pair.1 = channel

/-- How many channels have a value. -/
def size (map : ChannelMap α) : Nat :=
  map.pairs.length

/-- Whether no channel has a value. -/
def isEmpty (map : ChannelMap α) : Bool :=
  map.pairs.isEmpty

/-- The channels that have a value, in ascending order. -/
def channels (map : ChannelMap α) : List Channel :=
  map.pairs.map (·.1)

/-! ### Values -/

variable {map : ChannelMap α} {channel other : Channel} {value : α}

@[simp]
theorem get?_empty : (empty : ChannelMap α).get? channel = none := rfl

/-- The value of the first pair with a channel. -/
theorem find?_insertPair (pairs : List (Channel × α)) :
    (insertPair channel value pairs).find? (fun pair => pair.1 = other) =
      if channel = other then some (channel, value) else pairs.find? fun pair => pair.1 = other := by
  induction pairs with
  | nil => by_cases same : channel = other <;> simp [insertPair, same]
  | cons pair rest ih =>
    obtain ⟨first, kept⟩ := pair
    unfold insertPair
    split
    · by_cases same : channel = other <;> simp [same]
    · split
      · next same =>
        subst same
        by_cases same : channel = other <;> simp [same]
      · next distinct =>
        rw [List.find?_cons, ih, List.find?_cons]
        by_cases here : first = other
        · subst here
          simp [distinct]
        · simp [here]

/-- A channel has the value that was put there last. -/
theorem get?_insert : (map.insert channel value).get? other =
    if channel = other then some value else map.get? other := by
  unfold get? insert
  rw [find?_insertPair]
  by_cases same : channel = other <;> simp [same]

/-- An erased channel has no value. -/
theorem get?_erase : (map.erase channel).get? other =
    if channel = other then none else map.get? other := by
  unfold get? erase
  rw [List.find?_filter]
  by_cases same : channel = other
  · subst same
    simp
  · simp only [if_neg same]
    congr 2
    funext pair
    by_cases here : pair.1 = other
    · simp [here, Ne.symm same]
    · simp [here]

/-- Only the value of a channel that has one is changed. -/
theorem get?_modify (change : α → α) : (map.modify channel change).get? other =
    if channel = other then (map.get? other).map change else map.get? other := by
  unfold get? modify
  dsimp only
  induction map.pairs with
  | nil => simp
  | cons pair rest ih =>
    obtain ⟨first, kept⟩ := pair
    rw [List.map_cons, List.find?_cons, List.find?_cons]
    by_cases here : first = other
    · subst here
      by_cases same : channel = first
      · simp [same]
      · simp [same, Ne.symm same]
    · have skipped : (if first = channel then (first, change kept) else (first, kept)).1 = first := by
        split <;> rfl
      simp only [skipped, here, decide_false]
      exact ih

/-- A channel has a value if and only if it is there. -/
theorem contains_eq_isSome : map.contains channel = (map.get? channel).isSome := by
  rw [Bool.eq_iff_iff]
  simp [contains, get?, List.find?_isSome]

/-- The channels that are listed are those that have a value. -/
theorem mem_channels : channel ∈ map.channels ↔ (map.get? channel).isSome := by
  rw [← contains_eq_isSome]
  simp [channels, contains]

/-- The channels are listed in ascending order. -/
theorem channels_ascending : map.channels.Pairwise fun first second => first.number < second.number :=
  List.pairwise_map.mpr map.ascending

/-- No channel occurs twice in an ascending list. -/
theorem nodup_of_ascending {channels : List Channel}
    (ascending : channels.Pairwise fun first second => first.number < second.number) :
    channels.Nodup := by
  refine ascending.imp fun {first second} less same => ?_
  rw [same] at less
  exact UInt8.lt_irrefl _ less

theorem nodup_channels : map.channels.Nodup := nodup_of_ascending channels_ascending

theorem length_channels : map.channels.length = map.size := by
  simp [channels, size]

theorem isEmpty_iff : map.isEmpty ↔ map.size = 0 := by
  simp [isEmpty, size]

end ChannelMap
end CallbackFerry
