import Mathlib.Data.List.Induction

/-!
# Runs of a machine

A machine is a partial step function `σ → μ → Option σ`: a move either leads from a state to the
next one or is not possible there.  A `Run` is a list of moves each of which was possible, and it
keeps the state that every move was made in, so that what has happened can be told from the past
alone, without any record in the state.

`Run.preserves` lifts what every step preserves to runs, and `Run.since` finds the moment in which
something began to hold.  `Run.append` and `Run.of_append` join and cut runs, and `Run.of_mem`
finds the place of a moment in its run.  `Run.seen` turns a run of one machine into the run of
another that sees only a part of it.  `Run.of_moves` turns any list of moves into a run, in which
the moves that are not possible are left out.
-/

namespace CallbackFerry

/-- One step of a run: a move and the state it was made in. -/
structure Moment (σ μ : Type) where
  /-- The state. -/
  before : σ
  /-- The move. -/
  move : μ

/-- A moment as another machine sees it, if it sees it: `view` is what it sees of a state, and
`part` is the move that it makes. -/
def Moment.seen {σ μ σ' μ' : Type} (view : σ → σ') (part : σ → μ → Option μ')
    (moment : Moment σ μ) : Option (Moment σ' μ') :=
  (part moment.before moment.move).map fun move => ⟨view moment.before, move⟩

/-- Whether a machine goes from one state to another by a move, or stays without one. -/
def Follows {σ μ : Type} (step : σ → μ → Option σ) (before : σ) : Option μ → σ → Prop
  | some move, after => step before move = some after
  | none, after => after = before

/-- The runs of a machine from one state: the moments so far, oldest first, and the state now. -/
inductive Run {σ μ : Type} (step : σ → μ → Option σ) (start : σ) : List (Moment σ μ) → σ → Prop
  | start : Run step start [] start
  | next {past : List (Moment σ μ)} {now after : σ} {move : μ} (run : Run step start past now)
      (made : step now move = some after) : Run step start (past ++ [⟨now, move⟩]) after

namespace Run

variable {σ μ : Type} {step : σ → μ → Option σ} {start middle now : σ}
  {past later : List (Moment σ μ)}

/-- What every step preserves holds at the end of a run if it holds at its start. -/
theorem preserves {P : σ → Prop}
    (stepwise : ∀ before move after, step before move = some after → P before → P after)
    (run : Run step start past now) (h : P start) : P now := by
  induction run with
  | start => exact h
  | next _ made ih => exact stepwise _ _ _ made ih

/-- What holds at the end of a run and did not hold at its start began to hold in some moment. -/
theorem since {P : σ → Prop} {cause : Moment σ μ → Prop}
    (onset : ∀ earlier before move after, Run step start earlier before →
      step before move = some after → P after → P before ∨ cause ⟨before, move⟩)
    (run : Run step start past now) (fresh : ¬ P start) (h : P now) :
    ∃ moment ∈ past, cause moment := by
  -- Backwards from the end: the last step is the cause, or it held before that already.
  induction run with
  | start => exact absurd h fresh
  | next run made ih =>
    rcases onset _ _ _ _ run made h with before | last
    · obtain ⟨moment, member, found⟩ := ih before
      exact ⟨moment, List.mem_append_left _ member, found⟩
    · exact ⟨_, List.mem_append_right _ (List.mem_singleton_self _), last⟩

/-- What the last moment adds to a history. -/
theorem filterMap_concat {ε : Type} (event : Moment σ μ → Option ε) (moment : Moment σ μ) :
    (past ++ [moment]).filterMap event = past.filterMap event ++ (event moment).toList := by
  rw [List.filterMap_append]
  cases h : event moment <;> simp [h]

/-- Two runs, the second from where the first one ends, make one. -/
theorem append (first : Run step start past middle) (second : Run step middle later now) :
    Run step start (past ++ later) now := by
  induction second with
  | start => rwa [List.append_nil]
  | next _ made ih =>
    rw [← List.append_assoc]
    exact .next ih made

/-- A run without moments stays where it starts. -/
theorem of_nil (run : Run step start [] now) : now = start := by
  generalize nothing : ([] : List (Moment σ μ)) = moments at run
  cases run with
  | start => rfl
  | next _ _ => simp at nothing

/-- The last moment of a run is a step to its end. -/
theorem of_concat {moment : Moment σ μ} (run : Run step start (past ++ [moment]) now) :
    Run step start past moment.before ∧ step moment.before moment.move = some now := by
  -- The index is a concatenation, so it is generalized before the run is taken apart.
  generalize whole : past ++ [moment] = moments at run
  cases run with
  | start => simp at whole
  | next run made =>
    obtain ⟨rfl, last⟩ := List.append_inj' whole rfl
    obtain rfl := List.singleton_inj.mp last
    exact ⟨run, made⟩

/-- A run can be cut anywhere. -/
theorem of_append (run : Run step start (past ++ later) now) :
    ∃ middle, Run step start past middle ∧ Run step middle later now := by
  induction later using List.reverseRecOn generalizing now with
  | nil =>
    rw [List.append_nil] at run
    exact ⟨now, run, .start⟩
  | append_singleton later moment ih =>
    rw [← List.append_assoc] at run
    obtain ⟨run, made⟩ := run.of_concat
    obtain ⟨middle, first, second⟩ := ih run
    exact ⟨middle, first, .next second made⟩

/-- The first moment of a run is a step from its start. -/
theorem of_cons {moment : Moment σ μ} (run : Run step start (moment :: later) now) :
    moment.before = start ∧
      ∃ after, step moment.before moment.move = some after ∧ Run step after later now := by
  rw [← List.singleton_append] at run
  obtain ⟨after, first, onward⟩ := run.of_append
  rw [← List.nil_append [moment]] at first
  obtain ⟨first, made⟩ := first.of_concat
  exact ⟨first.of_nil, after, made, onward⟩

/-- A moment of a run is a step between the part of the run before it and the part after it. -/
theorem of_mem {moment : Moment σ μ} (run : Run step start past now) (h : moment ∈ past) :
    ∃ earlier rest after, past = earlier ++ moment :: rest ∧ Run step start earlier moment.before ∧
      step moment.before moment.move = some after ∧ Run step after rest now := by
  obtain ⟨earlier, rest, rfl⟩ := List.append_of_mem h
  obtain ⟨middle, upTo, onward⟩ := run.of_append
  obtain ⟨rfl, after, made, onward⟩ := onward.of_cons
  exact ⟨earlier, rest, after, rfl, upTo, made, onward⟩

/-! ### What another machine sees -/

/-- If every move of a machine is a move of another one, as that one sees it, or goes unseen, then
so is every run. -/
theorem seen {σ' μ' : Type} {step' : σ' → μ' → Option σ'} {view : σ → σ'}
    {part : σ → μ → Option μ'}
    (stepwise : ∀ before move after, step before move = some after →
      Follows step' (view before) (part before move) (view after))
    (run : Run step start past now) :
    Run step' (view start) (past.filterMap (Moment.seen view part)) (view now) := by
  induction run with
  | start => exact .start
  | @next past now after move run made ih =>
    have last := stepwise now move after made
    rw [filterMap_concat, Moment.seen]
    cases visible : part now move with
    | none =>
      -- An unseen move: the other machine stands still, and its run gets no longer.
      rw [visible] at last
      have same : view after = view now := last
      simpa [same] using ih
    | some move' =>
      rw [visible] at last
      exact ih.next last

/-! ### Lists of moves -/

/-- The state after a list of moves; one that is not possible changes nothing. -/
def replay (step : σ → μ → Option σ) (start : σ) (moves : List μ) : σ :=
  moves.foldl (fun state move => (step state move).getD state) start

/-- The moments of a list of moves, without those that are not possible. -/
def moments (step : σ → μ → Option σ) (start : σ) : List μ → List (Moment σ μ)
  | [] => []
  | move :: rest =>
    match step start move with
    | some after => ⟨start, move⟩ :: moments step after rest
    | none => moments step start rest

/-- Every list of moves is a run. -/
theorem of_moves (step : σ → μ → Option σ) (start : σ) (moves : List μ) :
    Run step start (moments step start moves) (replay step start moves) := by
  induction moves generalizing start with
  | nil => exact .start
  | cons move rest ih =>
    have shift : replay step start (move :: rest)
        = replay step ((step start move).getD start) rest := rfl
    rw [shift, moments]
    cases made : step start move with
    | none => exact ih start
    | some after => exact (Run.next .start made).append (ih after)

end Run
end CallbackFerry
