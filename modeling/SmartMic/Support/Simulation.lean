import SmartMic.Support.Run

set_option autoImplicit false

/-! One deterministic machine followed by another. An observer sees at most one action
of the small machine in every step of the big one; what is related stays related, and
what is counted on one side is counted on the other. -/

namespace SmartMic.Run

variable {State Input Small Action : Type*}

def observed (step : State → Input → State) (observe : State → Input → Option Action) :
    State → List Input → List Action
  | _, [] => []
  | state, input :: rest =>
      (observe state input).toList ++ observed step observe (step state input) rest

/-- How many steps of the run are marked. -/
def marked (step : State → Input → State) (marks : State → Input → Bool) :
    State → List Input → Nat
  | _, [] => 0
  | state, input :: rest =>
      (marks state input).toNat + marked step marks (step state input) rest

def total (step : State → Input → State) (weight : State → Input → Nat) :
    State → List Input → Nat
  | _, [] => 0
  | state, input :: rest => weight state input + total step weight (step state input) rest

/-- A measure that grows by the weight of each step has grown by all of them in the end. -/
theorem final_total {step : State → Input → State} {weight : State → Input → Nat}
    (measure : State → Nat)
    (grows : ∀ state input, measure (step state input) = measure state + weight state input)
    (inputs : List Input) (state : State) :
    measure (final step state inputs) = measure state + total step weight state inputs := by
  induction inputs generalizing state with
  | nil => rfl
  | cons input rest ih =>
      rw [final_cons, ih, grows, Nat.add_assoc]
      rfl

@[simp]
theorem observed_nil (step : State → Input → State) (observe : State → Input → Option Action)
    (state : State) : observed step observe state [] = [] := rfl

@[simp]
theorem observed_cons (step : State → Input → State)
    (observe : State → Input → Option Action) (state : State) (input : Input)
    (rest : List Input) :
    observed step observe state (input :: rest) =
      (observe state input).toList ++ observed step observe (step state input) rest := rfl

@[simp]
theorem marked_nil (step : State → Input → State) (marks : State → Input → Bool)
    (state : State) : marked step marks state [] = 0 := rfl

@[simp]
theorem marked_cons (step : State → Input → State) (marks : State → Input → Bool)
    (state : State) (input : Input) (rest : List Input) :
    marked step marks state (input :: rest) =
      (marks state input).toNat + marked step marks (step state input) rest := rfl

theorem observed_append (step : State → Input → State)
    (observe : State → Input → Option Action) (state : State) (first second : List Input) :
    observed step observe state (first ++ second) =
      observed step observe state first ++
        observed step observe (final step state first) second := by
  induction first generalizing state with
  | nil => rfl
  | cons input rest ih =>
      rw [List.cons_append, observed_cons, ih, observed_cons, final_cons, List.append_assoc]

/-- The small machine follows the allowed steps of the big one: it moves with every
action that is seen and stands still in every other step. -/
structure Simulates (step : State → Input → State) (allowed : State → Input → Prop)
    (observe : State → Input → Option Action) (smallStep : Small → Action → Small)
    (related : State → Small → Prop) : Prop where
  moves : ∀ state small input action, related state small → allowed state input →
    observe state input = some action → related (step state input) (smallStep small action)
  stutters : ∀ state small input, related state small → allowed state input →
    observe state input = none → related (step state input) small

section

variable {step : State → Input → State} {allowed : State → Input → Prop}
  {observe : State → Input → Option Action} {smallStep : Small → Action → Small}
  {related : State → Small → Prop}

theorem Simulates.final (follows : Simulates step allowed observe smallStep related)
    (inputs : List Input) :
    ∀ state small, related state small → Meets step allowed state inputs →
      related (final step state inputs)
        (final smallStep small (observed step observe state inputs)) := by
  induction inputs with
  | nil => exact fun _state _small start _meets => start
  | cons input rest ih =>
      intro state small start meets
      rw [final_cons, observed_cons, final_append]
      apply ih _ _ _ meets.2
      cases seen : observe state input with
      | none => exact follows.stutters state small input start meets.1 seen
      | some action => exact follows.moves state small input action start meets.1 seen

/-- Steps that are marked on one side exactly when their actions are on the other. -/
theorem Simulates.marked (follows : Simulates step allowed observe smallStep related)
    {marks : State → Input → Bool} {smallMarks : Small → Action → Bool}
    (seen : ∀ state small input action, related state small → allowed state input →
      observe state input = some action → marks state input = smallMarks small action)
    (unseen : ∀ state small input, related state small → allowed state input →
      observe state input = none → marks state input = false)
    (inputs : List Input) :
    ∀ state small, related state small → Meets step allowed state inputs →
      marked step marks state inputs =
        Run.marked smallStep smallMarks small (observed step observe state inputs) := by
  induction inputs with
  | nil => exact fun _state _small _start _meets => rfl
  | cons input rest ih =>
      intro state small start meets
      rw [marked_cons, observed_cons]
      cases sees : observe state input with
      | none =>
          have next := follows.stutters state small input start meets.1 sees
          rw [unseen state small input start meets.1 sees, ih _ _ next meets.2]
          exact Nat.zero_add _
      | some action =>
          have next := follows.moves state small input action start meets.1 sees
          rw [seen state small input action start meets.1 sees, ih _ _ next meets.2]
          rfl

end

end SmartMic.Run
