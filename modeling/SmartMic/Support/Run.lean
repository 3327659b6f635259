import Mathlib.Tactic

set_option autoImplicit false

/-! Runs of deterministic machines. A machine is a step function on an explicit
state; a run is a finite list of inputs, or an input for every instant. Nothing
here fixes what a state or an input is, and no fairness is assumed. -/

namespace SmartMic.Run

variable {State Input : Type*}

/-- The state a finite list of inputs leads to. -/
def final (step : State → Input → State) (state : State) (inputs : List Input) : State :=
  inputs.foldl step state

/-- Every input is allowed in the state in which it is taken. -/
def Meets (step : State → Input → State) (allowed : State → Input → Prop) :
    State → List Input → Prop
  | _, [] => True
  | state, input :: rest => allowed state input ∧ Meets step allowed (step state input) rest

instance decidableMeets (step : State → Input → State) (allowed : State → Input → Prop)
    [∀ state input, Decidable (allowed state input)] :
    ∀ state inputs, Decidable (Meets step allowed state inputs)
  | _, [] => isTrue trivial
  | state, input :: rest =>
      have := decidableMeets step allowed (step state input) rest
      inferInstanceAs (Decidable (_ ∧ _))

@[simp]
theorem final_nil (step : State → Input → State) (state : State) :
    final step state [] = state := rfl

@[simp]
theorem final_cons (step : State → Input → State) (state : State) (input : Input)
    (rest : List Input) :
    final step state (input :: rest) = final step (step state input) rest := rfl

theorem final_append (step : State → Input → State) (state : State) (first second : List Input) :
    final step state (first ++ second) = final step (final step state first) second :=
  List.foldl_append

theorem final_snoc (step : State → Input → State) (state : State) (first : List Input)
    (input : Input) :
    final step state (first ++ [input]) = step (final step state first) input := by
  rw [final_append]
  rfl

@[simp]
theorem meets_nil (step : State → Input → State) (allowed : State → Input → Prop) (state : State) :
    Meets step allowed state [] := trivial

@[simp]
theorem meets_cons (step : State → Input → State) (allowed : State → Input → Prop)
    (state : State) (input : Input) (rest : List Input) :
    Meets step allowed state (input :: rest) ↔
      allowed state input ∧ Meets step allowed (step state input) rest := Iff.rfl

theorem meets_append (step : State → Input → State) (allowed : State → Input → Prop)
    (state : State) (first second : List Input) :
    Meets step allowed state (first ++ second) ↔
      Meets step allowed state first ∧ Meets step allowed (final step state first) second := by
  induction first generalizing state with
  | nil => simp
  | cons input rest ih =>
      rw [List.cons_append, meets_cons, ih, meets_cons, final_cons, and_assoc]

theorem meets_and {step : State → Input → State} {first second : State → Input → Prop}
    {state : State} {inputs : List Input} :
    Meets step (fun state input => first state input ∧ second state input) state inputs ↔
      Meets step first state inputs ∧ Meets step second state inputs := by
  induction inputs generalizing state with
  | nil => exact ⟨fun _ => ⟨trivial, trivial⟩, fun _ => trivial⟩
  | cons input rest ih =>
      rw [meets_cons, meets_cons, meets_cons, ih]
      exact and_and_and_comm

theorem meets_of_forall {step : State → Input → State} {allowed : Input → Prop}
    {inputs : List Input} (all : ∀ input ∈ inputs, allowed input) (state : State) :
    Meets step (fun _ input => allowed input) state inputs := by
  induction inputs generalizing state with
  | nil => trivial
  | cons input rest ih =>
      obtain ⟨first, later⟩ := List.forall_mem_cons.mp all
      exact ⟨first, ih later _⟩

theorem meets_of_splits {step : State → Input → State} {allowed : State → Input → Prop}
    {inputs : List Input} {state : State}
    (each : ∀ first input rest, inputs = first ++ input :: rest →
      allowed (final step state first) input) :
    Meets step allowed state inputs := by
  induction inputs generalizing state with
  | nil => trivial
  | cons head tail ih =>
      refine ⟨each [] head tail rfl, ih fun first input rest whole => ?_⟩
      exact each (head :: first) input rest (by rw [whole, List.cons_append])

/-- An invariant of the allowed steps is an invariant of the runs that meet them. -/
theorem invariant_final {step : State → Input → State} {allowed : State → Input → Prop}
    (invariant : State → Prop)
    (preserved : ∀ state input, invariant state → allowed state input →
      invariant (step state input))
    (inputs : List Input) :
    ∀ state, invariant state → Meets step allowed state inputs →
      invariant (final step state inputs) := by
  induction inputs with
  | nil => intro state holds _meets; exact holds
  | cons input rest ih =>
      intro state holds meets
      exact ih _ (preserved state input holds meets.1) meets.2

theorem meets_of_invariant {step : State → Input → State}
    {allowed wanted : State → Input → Prop} (invariant : State → Prop)
    (gives : ∀ state input, invariant state → allowed state input → wanted state input)
    (preserved : ∀ state input, invariant state → allowed state input →
      invariant (step state input))
    (inputs : List Input) :
    ∀ state, invariant state → Meets step allowed state inputs →
      Meets step wanted state inputs := by
  induction inputs with
  | nil => exact fun _state _holds _meets => trivial
  | cons input rest ih =>
      intro state holds meets
      exact ⟨gives state input holds meets.1,
        ih _ (preserved state input holds meets.1) meets.2⟩

theorem invariant_always {step : State → Input → State} (invariant : State → Prop)
    (preserved : ∀ state input, invariant state → invariant (step state input))
    (state : State) (inputs : List Input) (holds : invariant state) :
    invariant (final step state inputs) := by
  induction inputs generalizing state with
  | nil => exact holds
  | cons input rest ih => exact ih _ (preserved state input holds)

/-- The same rule for an invariant that depends on how many inputs of one kind were
taken, as long as these stay below a limit. -/
theorem invariant_counted {step : State → Input → State} {allowed : State → Input → Prop}
    (counts : Input → Bool) (limit : Nat) (invariant : Nat → State → Prop)
    (preserved : ∀ taken state input, invariant taken state → allowed state input →
      taken + (counts input).toNat < limit →
      invariant (taken + (counts input).toNat) (step state input))
    (inputs : List Input) :
    ∀ taken state, invariant taken state → Meets step allowed state inputs →
      taken + inputs.countP counts < limit →
      invariant (taken + inputs.countP counts) (final step state inputs) := by
  induction inputs with
  | nil => intro taken state holds _meets _below; exact holds
  | cons input rest ih =>
      intro taken state holds meets below
      have split : taken + (input :: rest).countP counts =
          taken + (counts input).toNat + rest.countP counts := by
        rw [List.countP_cons]
        cases counts input with
        | false => rfl
        | true =>
            simp only [Bool.toNat_true, if_true]
            omega
      rw [split] at below ⊢
      exact ih _ _ (preserved taken state input holds meets.1 (by omega)) meets.2 below

/-- The property holds in the first state and in every state the run goes through. -/
def Throughout (step : State → Input → State) (property : State → Prop) :
    State → List Input → Prop
  | state, [] => property state
  | state, input :: rest => property state ∧ Throughout step property (step state input) rest

instance decidableThroughout (step : State → Input → State) (property : State → Prop)
    [∀ state, Decidable (property state)] :
    ∀ state inputs, Decidable (Throughout step property state inputs)
  | state, [] => inferInstanceAs (Decidable (property state))
  | state, input :: rest =>
      have := decidableThroughout step property (step state input) rest
      inferInstanceAs (Decidable (property state ∧ Throughout step property _ rest))

theorem throughout_iff_prefix (step : State → Input → State) (property : State → Prop)
    (state : State) (inputs : List Input) :
    Throughout step property state inputs ↔
      ∀ first, first <+: inputs → property (final step state first) := by
  induction inputs generalizing state with
  | nil =>
      constructor
      · intro holds first atStart
        rw [List.prefix_nil.mp atStart]
        exact holds
      · intro all
        exact all [] (List.nil_prefix)
  | cons input rest ih =>
      constructor
      · intro holds first atStart
        cases first with
        | nil => exact holds.1
        | cons head tail =>
            obtain ⟨same, within⟩ := List.cons_prefix_cons.mp atStart
            rw [same, final_cons]
            exact (ih (step state input)).mp holds.2 tail within
      · intro all
        constructor
        · exact all [] (List.nil_prefix)
        · apply (ih (step state input)).mpr
          intro tail within
          exact all (input :: tail) (List.cons_prefix_cons.mpr ⟨rfl, within⟩)

/-- A property that an invariant gives, and that the first step which is not allowed
breaks, holds throughout exactly the runs of allowed steps. All inputs are given. -/
theorem throughout_iff_meets_given {step : State → Input → State} {property : State → Prop}
    {allowed : State → Input → Prop} {given : Input → Prop} (invariant : State → Prop)
    (gives : ∀ state, invariant state → property state)
    (preserved : ∀ state input, given input → invariant state → allowed state input →
      invariant (step state input))
    (breaks : ∀ state input, given input → invariant state → property (step state input) →
      allowed state input)
    (inputs : List Input) (all : ∀ input ∈ inputs, given input) :
    ∀ state, invariant state →
      (Throughout step property state inputs ↔ Meets step allowed state inputs) := by
  induction inputs with
  | nil =>
      intro state holds
      exact ⟨fun _ => trivial, fun _ => gives state holds⟩
  | cons input rest ih =>
      obtain ⟨first, later⟩ := List.forall_mem_cons.mp all
      intro state holds
      constructor
      · intro throughout
        have next : property (step state input) := by
          cases rest with
          | nil => exact throughout.2
          | cons later rest => exact throughout.2.1
        have permitted := breaks state input first holds next
        exact ⟨permitted,
          (ih later _ (preserved state input first holds permitted)).mp throughout.2⟩
      · intro meets
        have after := (ih later _ (preserved state input first holds meets.1)).mpr meets.2
        exact ⟨gives state holds, after⟩

theorem throughout_iff_meets {step : State → Input → State} {property : State → Prop}
    {allowed : State → Input → Prop} (invariant : State → Prop)
    (gives : ∀ state, invariant state → property state)
    (preserved : ∀ state input, invariant state → allowed state input →
      invariant (step state input))
    (breaks : ∀ state input, invariant state → property (step state input) →
      allowed state input)
    (inputs : List Input) (state : State) (holds : invariant state) :
    Throughout step property state inputs ↔ Meets step allowed state inputs :=
  throughout_iff_meets_given invariant gives
    (fun state input (_ : True) => preserved state input)
    (fun state input (_ : True) => breaks state input) inputs (fun _input _member => trivial)
    state holds

/-- The state reached at each instant of an endless input stream. -/
def trace (step : State → Input → State) (state : State) (inputs : Nat → Input) : Nat → State
  | 0 => state
  | instant + 1 => step (trace step state inputs instant) (inputs instant)

@[simp]
theorem trace_zero (step : State → Input → State) (state : State) (inputs : Nat → Input) :
    trace step state inputs 0 = state := rfl

theorem trace_succ (step : State → Input → State) (state : State) (inputs : Nat → Input)
    (instant : Nat) :
    trace step state inputs (instant + 1) =
      step (trace step state inputs instant) (inputs instant) := rfl

/-- A trace from its second state on is the trace of the later inputs. -/
theorem trace_shift (step : State → Input → State) (state : State) (inputs : Nat → Input)
    (instant : Nat) :
    trace step state inputs (instant + 1) =
      trace step (step state (inputs 0)) (fun later => inputs (later + 1)) instant := by
  induction instant with
  | zero => rfl
  | succ instant ih => rw [trace_succ, ih, trace_succ]

/-- A rank that every step lowers until it is zero is zero from its first value on. -/
theorem trace_rank_zero {step : State → Input → State} {inputs : Nat → Input}
    {state : State} (rank : State → Nat)
    (lowers : ∀ instant, rank (trace step state inputs (instant + 1)) ≤
      rank (trace step state inputs instant) - 1)
    (instant : Nat) (late : rank state ≤ instant) :
    rank (trace step state inputs instant) = 0 := by
  have spent : ∀ count, rank (trace step state inputs count) ≤ rank state - count := by
    intro count
    induction count with
    | zero => exact Nat.le_refl _
    | succ count ih =>
        have lower := lowers count
        omega
  have bound := spent instant
  omega

/-! ### Hidden parts of the state -/

/-- What `move` leaves does not depend on the parts that `hide` removes, these parts
themselves apart. -/
def Blind (hide move : State → State) : Prop :=
  ∀ state, hide (move (hide state)) = hide (move state)

section Hidden

variable {hide move next : State → State}

theorem Blind.alike (blind : Blind hide move) {first second : State}
    (same : hide first = hide second) : hide (move first) = hide (move second) := by
  rw [← blind first, same, blind second]

theorem Blind.comp (blindNext : Blind hide next) (blind : Blind hide move) :
    Blind hide (fun state => next (move state)) :=
  fun state => blindNext.alike (blind state)

theorem Blind.ite {choice : State → Prop} [DecidablePred choice]
    (apart : ∀ state, choice (hide state) ↔ choice state)
    (blind : Blind hide move) (blindNext : Blind hide next) :
    Blind hide (fun state => if choice state then move state else next state) := by
  intro state
  by_cases chosen : choice state
  · simp only [(apart state).mpr chosen, chosen, if_true, blind state]
  · simp only [(apart state).not.mpr chosen, chosen, if_false, blindNext state]

/-- Runs from states that differ in hidden parts only end in states that do. -/
theorem final_alike {step : State → Input → State}
    (blind : ∀ input, Blind hide (fun state => step state input)) (inputs : List Input) :
    ∀ first second, hide first = hide second →
      hide (final step first inputs) = hide (final step second inputs) := by
  induction inputs with
  | nil => exact fun _first _second same => same
  | cons input rest ih =>
      intro first second same
      exact ih _ _ ((blind input).alike same)

end Hidden

end SmartMic.Run
