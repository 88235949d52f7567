import CallbackFerry.Metrics.Counters
import Mathlib.Algebra.Order.BigOperators.Group.List
import Mathlib.Algebra.Order.Floor.Semiring
import Mathlib.Data.List.Induction
import Mathlib.Data.List.Sort
import Mathlib.Data.Rat.Floor
import Mathlib.Tactic.Linarith
import Mathlib.Tactic.NormNum

/-!
# What a window summarises

A window is kept callback by callback: the oldest makes room for the newest, and whatever has become
too old goes.  `latencies_run` says what comes of it over a run of any length: the window looks back
from the callback that finished last over the latest `Window.capacity` callbacks, as far as they are
recent.  Nothing of what came before is left in it.

What `Summarises` says of a summary, the ranks of `0.95` in the usual sense of a nearest rank
included, leaves no choice (`Summarises.unique`).  It only speaks of how often each latency occurs,
so the order in which callbacks finished is of no account.
-/

namespace CallbackFerry

/-! ### Ascending lists -/

section Ascending

variable {sorted : List Nat} {i : Nat}

/-- At least `i + 1` members of an ascending list do not exceed the one at position `i`. -/
theorem lt_countP_le (ascending : sorted.Pairwise (· ≤ ·)) (inside : i < sorted.length) :
    i < sorted.countP (· ≤ sorted[i]) := by
  have upto : (sorted.take (i + 1)).countP (· ≤ sorted[i]) = (sorted.take (i + 1)).length := by
    apply List.countP_eq_length.mpr
    intro latency member
    obtain ⟨j, bound, rfl⟩ := List.mem_take_iff_getElem.mp member
    apply decide_eq_true
    exact ascending.sortedLE.getElem_le_getElem_of_le (by omega)
  have all := (List.take_sublist (i + 1) sorted).countP_le (p := fun latency => latency ≤ sorted[i])
  rw [upto, List.length_take] at all
  omega

/-- At most `i` members of an ascending list are less than the one at position `i`. -/
theorem countP_lt_le (ascending : sorted.Pairwise (· ≤ ·)) (inside : i < sorted.length) :
    sorted.countP (· < sorted[i]) ≤ i := by
  have none : (sorted.drop i).countP (· < sorted[i]) = 0 := by
    apply List.countP_eq_zero.mpr
    intro latency member
    obtain ⟨j, bound, rfl⟩ := List.mem_drop_iff_getElem.mp member
    rw [decide_eq_true_eq, Nat.not_lt]
    exact ascending.sortedLE.getElem_le_getElem_of_le (by omega)
  calc sorted.countP (· < sorted[i])
      = (sorted.take i ++ sorted.drop i).countP (· < sorted[i]) := by rw [List.take_append_drop]
    _ = (sorted.take i).countP (· < sorted[i]) := by rw [List.countP_append, none, Nat.add_zero]
    _ ≤ (sorted.take i).length := List.countP_le_length
    _ ≤ i := List.length_take_le i sorted

end Ascending

/-! ### Summaries -/

/-- The rank, counted from one, of the latency that ninety-five percent do not exceed. -/
theorem Window.rank95_succ {count : Nat} (some : 0 < count) :
    rank95 count + 1 = ⌈(0.95 : ℚ) * count⌉₊ := by
  symm
  rw [Nat.ceil_eq_iff (Nat.succ_ne_zero _)]
  have lower : rank95 count * 100 < count * 95 := by unfold rank95; omega
  have upper : count * 95 ≤ (rank95 count + 1) * 100 := by unfold rank95; omega
  have lower : (rank95 count * 100 : ℚ) < count * 95 := by exact_mod_cast lower
  have upper : (count * 95 : ℚ) ≤ (rank95 count + 1) * 100 := by exact_mod_cast upper
  rw [Nat.succ_sub_one, Nat.cast_succ]
  constructor <;> linarith

/-- Of twenty latencies the greatest but one, of twenty-one the greatest but one as well. -/
example : Window.rank95 20 = 18 ∧ Window.rank95 21 = 19 := by decide

namespace LatencyStats

/-- What a summary says of latencies, of which there is at least one. -/
structure Summarises (stats : LatencyStats) (latencies : List Nat) : Prop where
  count : stats.count = latencies.length
  min_mem : stats.min ∈ latencies
  max_mem : stats.max ∈ latencies
  bounds : ∀ latency ∈ latencies, stats.min ≤ latency ∧ latency ≤ stats.max
  avg : stats.avg = latencies.sum / latencies.length
  avg_bounds : stats.min ≤ stats.avg ∧ stats.avg ≤ stats.max
  /-- The position at which the rank is looked up is one of the list. -/
  position : Window.rank95 latencies.length < latencies.length
  p95_mem : stats.p95 ∈ latencies
  reached : ⌈(0.95 : ℚ) * latencies.length⌉₊ ≤ latencies.countP (· ≤ stats.p95)
  below : latencies.countP (· < stats.p95) < ⌈(0.95 : ℚ) * latencies.length⌉₊
  p95_bounds : stats.min ≤ stats.p95 ∧ stats.p95 ≤ stats.max

variable {stats other : LatencyStats} {latencies : List Nat}

theorem Summarises.perm {others : List Nat} (summarises : stats.Summarises latencies)
    (perm : latencies.Perm others) : stats.Summarises others := by
  constructor
  · exact summarises.count.trans perm.length_eq
  · exact perm.mem_iff.mp summarises.min_mem
  · exact perm.mem_iff.mp summarises.max_mem
  · exact fun latency member => summarises.bounds latency (perm.mem_iff.mpr member)
  · rw [← perm.sum_eq, ← perm.length_eq]
    exact summarises.avg
  · exact summarises.avg_bounds
  · rw [← perm.length_eq]
    exact summarises.position
  · exact perm.mem_iff.mp summarises.p95_mem
  · rw [← perm.length_eq, ← perm.countP_eq]
    exact summarises.reached
  · rw [← perm.length_eq, ← perm.countP_eq]
    exact summarises.below
  · exact summarises.p95_bounds

/-- Of two latencies at the same rank neither is less than the other. -/
theorem Summarises.p95_le (summarises : stats.Summarises latencies)
    (also : other.Summarises latencies) : stats.p95 ≤ other.p95 := by
  by_contra greater
  have some_below : latencies.countP (· ≤ other.p95) ≤ latencies.countP (· < stats.p95) := by
    apply List.countP_mono_left
    intro latency _ within
    have within : latency ≤ other.p95 := of_decide_eq_true within
    exact decide_eq_true (by omega)
  have reached := also.reached
  have below := summarises.below
  omega

/-- There is one summary of given latencies. -/
theorem Summarises.unique (summarises : stats.Summarises latencies)
    (also : other.Summarises latencies) : stats = other := by
  have min : stats.min = other.min := Nat.le_antisymm
    (summarises.bounds _ also.min_mem).1 (also.bounds _ summarises.min_mem).1
  have max : stats.max = other.max := Nat.le_antisymm
    (also.bounds _ summarises.max_mem).2 (summarises.bounds _ also.max_mem).2
  have avg : stats.avg = other.avg := summarises.avg.trans also.avg.symm
  have p95 : stats.p95 = other.p95 :=
    Nat.le_antisymm (summarises.p95_le also) (also.p95_le summarises)
  have count : stats.count = other.count := summarises.count.trans also.count.symm
  cases stats
  cases other
  congr

end LatencyStats

namespace Window

theorem summarises_statsOf {sorted : List Nat} (ascending : sorted.Pairwise (· ≤ ·))
    (some : 0 < sorted.length) : (statsOf sorted some).Summarises sorted := by
  have least : ∀ latency ∈ sorted, sorted[0] ≤ latency := by
    intro latency member
    obtain ⟨i, inside, rfl⟩ := List.mem_iff_getElem.mp member
    exact ascending.sortedLE.getElem_le_getElem_of_le (Nat.zero_le i)
  have greatest : ∀ latency ∈ sorted, latency ≤ sorted[sorted.length - 1] := by
    intro latency member
    obtain ⟨i, inside, rfl⟩ := List.mem_iff_getElem.mp member
    exact ascending.sortedLE.getElem_le_getElem_of_le (by omega)
  have inside := rank95_lt some
  have rank := rank95_succ some
  constructor
  · rfl
  · exact List.getElem_mem some
  · exact List.getElem_mem _
  · exact fun latency member => ⟨least latency member, greatest latency member⟩
  · rfl
  · constructor
    · show sorted[0] ≤ sorted.sum / sorted.length
      rw [Nat.le_div_iff_mul_le some, Nat.mul_comm]
      exact List.card_nsmul_le_sum sorted _ least
    · show sorted.sum / sorted.length ≤ sorted[sorted.length - 1]
      apply Nat.div_le_of_le_mul
      exact List.sum_le_card_nsmul sorted _ greatest
  · exact inside
  · exact List.getElem_mem inside
  · rw [← rank]
    exact lt_countP_le ascending inside
  · rw [← rank]
    exact Nat.lt_succ_of_le (countP_lt_le ascending inside)
  · exact ⟨least _ (List.getElem_mem inside), greatest _ (List.getElem_mem inside)⟩

theorem summarises_stats {window : Window} (some : window.latencies ≠ []) :
    window.stats.Summarises window.latencies := by
  have perm : (window.latencies.mergeSort (· ≤ ·)).Perm window.latencies :=
    List.mergeSort_perm window.latencies _
  have long : 0 < (window.latencies.mergeSort (· ≤ ·)).length := by
    rw [perm.length_eq]
    exact List.length_pos_of_ne_nil some
  rw [stats, dif_pos long]
  exact (summarises_statsOf (List.pairwise_mergeSort' (· ≤ ·) window.latencies) long).perm perm

theorem stats_of_nil {window : Window} (none : window.latencies = []) : window.stats = {} := by
  rw [stats, none, List.mergeSort_nil]
  rfl

/-- Summaries do not depend on the order in which callbacks finished. -/
theorem stats_of_perm {window other : Window} (perm : window.latencies.Perm other.latencies) :
    window.stats = other.stats := by
  by_cases none : other.latencies = []
  · rw [stats_of_nil none, stats_of_nil (List.Perm.eq_nil (none ▸ perm))]
  · have some : window.latencies ≠ [] := by
      intro also
      exact none (List.Perm.eq_nil (also ▸ perm.symm))
    exact ((summarises_stats some).perm perm).unique (summarises_stats none)

/-! ### Looking back -/

/-- The members that a window has room for. -/
def latest {α : Type} (entries : List α) : List α :=
  entries.drop (entries.length - capacity)

theorem length_latest {α : Type} (entries : List α) :
    (latest entries).length = min entries.length capacity := by
  rw [latest, List.length_drop]
  omega

theorem latest_map {α β : Type} (f : α → β) (entries : List α) :
    latest (entries.map f) = (latest entries).map f := by
  rw [latest, latest, List.length_map, List.map_drop]

/-- The oldest makes room for a new member. -/
theorem latest_concat {α : Type} (past : List α) (entry : α) :
    latest (past ++ [entry]) = makeRoom (latest past) ++ [entry] := by
  have within : past.length + 1 - capacity ≤ past.length := by
    have : 0 < capacity := Nat.zero_lt_succ 255
    omega
  have whole : latest (past ++ [entry]) = past.drop (past.length + 1 - capacity) ++ [entry] := by
    rw [latest, List.length_append, List.length_singleton, List.drop_append_of_le_length within]
  rw [whole, makeRoom, length_latest, latest, List.drop_drop]
  split_ifs with full
  · have next : past.length + 1 - capacity = past.length - capacity + 1 := by omega
    rw [next]
  · have same : past.length + 1 - capacity = past.length - capacity := by omega
    rw [same]

/-- What is dropped already need not be dropped again. -/
theorem dropWhile_dropWhile_append {α : Type} {p q : α → Bool} (also : ∀ a, p a → q a)
    (as bs : List α) : (as.dropWhile p ++ bs).dropWhile q = (as ++ bs).dropWhile q := by
  induction as with
  | nil => rfl
  | cons a as ih =>
    by_cases gone : p a
    · rw [List.dropWhile_cons_of_pos gone, ih, List.cons_append,
        List.dropWhile_cons_of_pos (also a gone)]
    · rw [List.dropWhile_cons_of_neg gone]

/-- Whether the oldest makes room or was dropped already, the same is left in the end. -/
theorem dropWhile_makeRoom {α : Type} {p q : α → Bool} (also : ∀ a, p a → q a)
    {as : List α} (room : as.length ≤ capacity) (bs : List α) :
    (makeRoom (as.dropWhile p) ++ bs).dropWhile q = (makeRoom as ++ bs).dropWhile q := by
  cases as with
  | nil => rfl
  | cons oldest rest =>
    by_cases gone : p oldest
    · have shorter := (List.dropWhile_suffix p (l := rest)).length_le
      rw [List.length_cons] at room
      have spare : (rest.dropWhile p).length ≠ capacity := by omega
      rw [List.dropWhile_cons_of_pos gone, makeRoom, if_neg spare, dropWhile_dropWhile_append also,
        makeRoom]
      split_ifs
      · rfl
      · rw [List.cons_append, List.dropWhile_cons_of_pos (also oldest gone)]
    · rw [List.dropWhile_cons_of_neg gone]

/-- The window over callbacks that finished by now: the latest, as far as they are recent. -/
def lookBack (now : Span) (entries : List Entry) : Window :=
  ⟨(latest entries).dropWhile (Entry.isStale now)⟩

/-- A window that looks back goes on doing so, as long as the clock does not run back. -/
theorem recordAt_lookBack {before now : Span} (onward : before.nanos ≤ now.nanos)
    (past : List Entry) (latency : Span) :
    (lookBack before past).recordAt now latency =
      lookBack now (past ++ [⟨now, latency.micros⟩]) := by
  have stale : ∀ entry : Entry, entry.isStale before → entry.isStale now := by
    intro entry old
    have old : entry.finished.nanos + maxAge.nanos < before.nanos := of_decide_eq_true old
    exact decide_eq_true (by omega)
  have room : (latest past).length ≤ capacity := by
    rw [length_latest]
    exact Nat.min_le_right _ _
  unfold lookBack recordAt
  rw [latest_concat, dropWhile_makeRoom stale room]

/-- A window that is not overfull keeps the latest of what it has and of the callback that has just
finished, less those that are too old. -/
theorem recent_recordAt {window : Window} (room : window.recent.length ≤ capacity)
    (now latency : Span) : (window.recordAt now latency).recent =
      (latest (window.recent ++ [⟨now, latency.micros⟩])).dropWhile (Entry.isStale now) := by
  have whole : latest window.recent = window.recent := by
    rw [latest, Nat.sub_eq_zero_of_le room, List.drop_zero]
  rw [latest_concat, whole]
  rfl

/-- A window is never overfull. -/
theorem length_recordAt_le {window : Window} (room : window.recent.length ≤ capacity)
    (now latency : Span) : (window.recordAt now latency).recent.length ≤ capacity := by
  rw [recent_recordAt room]
  refine Nat.le_trans (List.dropWhile_suffix _).length_le ?_
  rw [length_latest]
  exact Nat.min_le_right _ _

/-- Of callbacks in the order in which they finished, those that are too old come first. -/
theorem dropWhile_isStale {now : Span} {entries : List Entry}
    (ordered : entries.Pairwise (·.finished.nanos ≤ ·.finished.nanos)) :
    entries.dropWhile (Entry.isStale now) = entries.filter (! ·.isStale now) := by
  induction entries with
  | nil => rfl
  | cons oldest rest ih =>
    obtain ⟨first, later⟩ := List.pairwise_cons.mp ordered
    by_cases stale : oldest.isStale now = true
    · rw [List.dropWhile_cons_of_pos stale, ih later, List.filter_cons_of_neg (by simp [stale])]
    · rw [List.dropWhile_cons_of_neg stale]
      refine (List.filter_eq_self.mpr fun entry member => ?_).symm
      -- What finished after one that is not too old is not too old either.
      have onward : oldest.finished.nanos ≤ entry.finished.nanos := by
        rcases List.mem_cons.mp member with rfl | behind
        · exact Nat.le_refl _
        · exact first entry behind
      rw [Entry.isStale, decide_eq_true_eq] at stale
      rw [Entry.isStale, Bool.not_eq_true', decide_eq_false_iff_not]
      omega

/-- Nothing is dropped for its age if the window looks back far enough. -/
theorem lookBack_of_recent {now : Span} {entries : List Entry}
    (recent : ∀ entry ∈ latest entries, now.nanos ≤ entry.finished.nanos + maxAge.nanos) :
    lookBack now entries = ⟨latest entries⟩ := by
  unfold lookBack
  generalize latest entries = held at recent
  cases held with
  | nil => rfl
  | cons oldest rest =>
    have young : ¬ oldest.isStale now := by
      have bound := recent oldest List.mem_cons_self
      rw [Entry.isStale, decide_eq_true_eq]
      omega
    rw [List.dropWhile_cons_of_neg young]

end Window

/-! ### Runs -/

/-- A callback that ran. -/
structure Execution where
  /-- When it finished, on the clock of the bridge. -/
  finished : Span
  /-- How long before that it was queued. -/
  latency : Span
  /-- Whether it returned. -/
  success : Bool

namespace Execution

/-- The latency in whole microseconds. -/
def micros (execution : Execution) : Nat := execution.latency.nanos / 1000

/-- What a window keeps of a callback. -/
def entry (execution : Execution) : Window.Entry :=
  ⟨execution.finished, execution.latency.micros⟩

end Execution

/-- Counts callbacks in the order in which they finished. -/
def Metrics.run (executions : List Execution) : Metrics :=
  executions.foldl
    (fun metrics execution =>
      metrics.recordExecutedAt execution.finished execution.latency execution.success) {}

theorem run_concat (past : List Execution) (execution : Execution) :
    Metrics.run (past ++ [execution]) =
      (Metrics.run past).recordExecutedAt execution.finished execution.latency
        execution.success :=
  List.foldl_concat ..

/-- The callbacks that returned and those that broke off are counted. -/
theorem counts_run (executions : List Execution) :
    (Metrics.run executions).completed = executions.countP (·.success) ∧
      (Metrics.run executions).faulted = executions.countP (! ·.success) := by
  induction executions using List.reverseRecOn with
  | nil => exact ⟨rfl, rfl⟩
  | append_singleton past execution ih =>
    obtain ⟨finished, latency, success⟩ := execution
    rw [run_concat, List.countP_append, List.countP_append, ← ih.1, ← ih.2]
    cases success <;> exact ⟨rfl, rfl⟩

theorem length_recent_run (executions : List Execution) :
    (Metrics.run executions).latencies.recent.length ≤ Window.capacity := by
  induction executions using List.reverseRecOn with
  | nil => exact Nat.zero_le _
  | append_singleton past execution ih =>
    rw [run_concat]
    unfold Metrics.recordExecutedAt
    cases execution.success <;> exact Window.length_recordAt_le ih _ _

/-- When the last callback finished. -/
def lastFinished (executions : List Execution) : Span :=
  (executions.getLast?.map Execution.finished).getD ⟨0⟩

/-- The window looks back from the callback that finished last. -/
theorem latencies_run {executions : List Execution}
    (ordered : executions.Pairwise (·.finished.nanos ≤ ·.finished.nanos)) :
    (Metrics.run executions).latencies =
      .lookBack (lastFinished executions) (executions.map Execution.entry) := by
  induction executions using List.reverseRecOn with
  | nil => rfl
  | append_singleton past execution ih =>
    obtain ⟨before, -, after⟩ := List.pairwise_append.mp ordered
    have onward : (lastFinished past).nanos ≤ execution.finished.nanos := by
      unfold lastFinished
      cases last : past.getLast? with
      | none => exact Nat.zero_le _
      | some previous =>
        exact after previous (List.mem_of_getLast? last) execution List.mem_cons_self
    have now : lastFinished (past ++ [execution]) = execution.finished := by
      rw [lastFinished, List.getLast?_concat]
      rfl
    have step : (Metrics.run (past ++ [execution])).latencies =
        (Metrics.run past).latencies.recordAt execution.finished execution.latency := by
      rw [run_concat, Metrics.recordExecutedAt]
      cases execution.success <;> rfl
    rw [step, ih before, Window.recordAt_lookBack onward, now, List.map_append]
    rfl

/-- Callbacks of which the latest are recent and quick. -/
structure Timely (executions : List Execution) : Prop where
  /-- The clock does not run back. -/
  ordered : executions.Pairwise (·.finished.nanos ≤ ·.finished.nanos)
  /-- When the last one finished, none of the latest was too old. -/
  recent : ∀ execution ∈ Window.latest executions,
    (lastFinished executions).nanos ≤ execution.finished.nanos + Window.maxAge.nanos
  /-- The latencies add up to what 64 bits hold. -/
  fits : ((Window.latest executions).map Execution.micros).sum < 2 ^ 64

variable {executions : List Execution}

/-- The window holds the latest latencies. -/
theorem Timely.latencies_eq (timely : Timely executions) :
    (Metrics.run executions).latencies.latencies =
      (Window.latest executions).map Execution.micros := by
  have back : (Metrics.run executions).latencies =
      ⟨(Window.latest executions).map Execution.entry⟩ := by
    rw [latencies_run timely.ordered, Window.lookBack_of_recent, Window.latest_map]
    rw [Window.latest_map]
    intro entry member
    obtain ⟨execution, among, rfl⟩ := List.mem_map.mp member
    exact timely.recent execution among
  rw [back, Window.latencies, List.map_map]
  apply List.map_congr_left
  intro execution among
  have part : execution.micros ≤ ((Window.latest executions).map Execution.micros).sum :=
    List.single_le_sum (fun _ _ => Nat.zero_le _) _ (List.mem_map_of_mem among)
  exact Nat.mod_eq_of_lt (Nat.lt_of_le_of_lt part timely.fits)

/-- No sum overflows, so that a snapshot has a summary. -/
theorem Timely.summary_eq (timely : Timely executions) :
    (Metrics.run executions).latencies.summary = .ok (Metrics.run executions).latencies.stats := by
  apply if_pos
  rw [timely.latencies_eq]
  exact timely.fits

/-- What a snapshot says of the callbacks that ran. -/
structure Summarised (executions : List Execution) : Prop where
  length : ((Window.latest executions).map Execution.micros).length = min executions.length 256
  /-- Before any callback ran the summary is blank. -/
  blank : executions = [] → (Metrics.run executions).latencies.summary = .ok {}
  /-- Afterwards it is about the latest latencies. -/
  summarises : executions ≠ [] → ∃ stats,
    (Metrics.run executions).latencies.summary = .ok stats ∧
      stats.Summarises ((Window.latest executions).map Execution.micros)
  /-- Neither the order of the latest nor what came before them matters. -/
  determined : ∀ others, Timely others →
    ((Window.latest others).map Execution.micros).Perm
      ((Window.latest executions).map Execution.micros) →
    (Metrics.run others).latencies.summary = (Metrics.run executions).latencies.summary

/-- For every run of callbacks, whether they returned or broke off, of which the latest are recent
and quick, a snapshot summarises exactly the latencies of the latest `256`. -/
theorem summarised_of_timely (timely : Timely executions) : Summarised executions where
  length := by
    rw [List.length_map]
    exact Window.length_latest executions
  blank := by
    rintro rfl
    rw [timely.summary_eq]
    exact congrArg Except.ok (Window.stats_of_nil rfl)
  summarises := by
    intro some
    refine ⟨_, timely.summary_eq, ?_⟩
    rw [← timely.latencies_eq]
    apply Window.summarises_stats
    rw [timely.latencies_eq]
    apply List.ne_nil_of_length_pos
    have long := List.length_pos_of_ne_nil some
    rw [List.length_map, Window.length_latest]
    exact Nat.lt_min.mpr ⟨long, Nat.zero_lt_succ 255⟩
  determined := by
    intro others also perm
    rw [← also.latencies_eq, ← timely.latencies_eq] at perm
    rw [also.summary_eq, timely.summary_eq, Window.stats_of_perm perm]

/-- One callback every millisecond, each third of which breaks off. -/
def everyMilli (count : Nat) : List Execution :=
  (List.range count).map fun i => ⟨.ofMillis i, ⟨1500 * i⟩, i % 3 ≠ 0⟩

theorem summarised_everyMilli : Timely (everyMilli 300) ∧ Summarised (everyMilli 300) := by
  have timely : Timely (everyMilli 300) := by
    constructor
    · apply List.pairwise_map.mpr
      exact List.pairwise_lt_range.imp fun less => Nat.mul_le_mul_right _ (Nat.le_of_lt less)
    · intro execution _
      have last : (lastFinished (everyMilli 300)).nanos = 299000000 := by decide +kernel
      have age : Window.maxAge.nanos = 10000000000 := rfl
      omega
    · decide +kernel
  exact ⟨timely, summarised_of_timely timely⟩

end CallbackFerry
