import Mathlib.Tactic

set_option autoImplicit false

/-! A loop whose end nothing in its text bounds. It is run for so many rounds; that it comes
to an end is then that enough rounds have a result, and that it does not that no number of
rounds has one. A round may go wrong, and the loop with it. -/

namespace SmartMic

variable {σ ρ : Type*}

inductive Round (σ ρ : Type*) where
  | next (state : σ)
  | done (result : ρ)

/-- The loop, for so many rounds. -/
def loopFor (round : σ → Option (Round σ ρ)) : Nat → σ → Option ρ
  | 0, _ => none
  | rounds + 1, state =>
      match round state with
      | none => none
      | some (.next state) => loopFor round rounds state
      | some (.done result) => some result

section

variable (round : σ → Option (Round σ ρ))

theorem loopFor_next {state next : σ} (rounds : Nat) (goesOn : round state = some (.next next)) :
    loopFor round (rounds + 1) state = loopFor round rounds next := by
  rw [loopFor, goesOn]

theorem loopFor_done {state : σ} {result : ρ} (rounds : Nat)
    (ends : round state = some (.done result)) :
    loopFor round (rounds + 1) state = some result := by
  rw [loopFor, ends]

theorem loopFor_mono {rounds more : Nat} (enough : rounds ≤ more) :
    ∀ {state : σ} {result : ρ}, loopFor round rounds state = some result →
      loopFor round more state = some result := by
  induction rounds generalizing more with
  | zero =>
      intro state result ended
      cases ended
  | succ rounds ih =>
      intro state result ended
      obtain ⟨more, rfl⟩ : ∃ fewer, more = fewer + 1 := ⟨more - 1, by omega⟩
      cases outcome : round state with
      | none =>
          rw [loopFor, outcome] at ended
          cases ended
      | some outcome' =>
          cases outcome' with
          | next next =>
              rw [loopFor_next round rounds outcome] at ended
              rw [loopFor_next round more outcome]
              exact ih (Nat.le_of_succ_le_succ enough) ended
          | done last =>
              rw [loopFor_done round rounds outcome] at ended
              rw [loopFor_done round more outcome]
              exact ended

/-- Partial correctness: what a loop that came to an end leaves. -/
theorem loopFor_sound {invariant : σ → Prop} {post : ρ → Prop}
    (step : ∀ state next, invariant state → round state = some (.next next) → invariant next)
    (last : ∀ state result, invariant state → round state = some (.done result) → post result)
    (rounds : Nat) : ∀ {state : σ} {result : ρ}, invariant state →
      loopFor round rounds state = some result → post result := by
  induction rounds with
  | zero =>
      intro state result _first ended
      cases ended
  | succ rounds ih =>
      intro state result first ended
      cases outcome : round state with
      | none =>
          rw [loopFor, outcome] at ended
          cases ended
      | some outcome' =>
          cases outcome' with
          | next next =>
              rw [loopFor_next round rounds outcome] at ended
              exact ih (step state next first outcome) ended
          | done final =>
              rw [loopFor_done round rounds outcome, Option.some.injEq] at ended
              exact ended ▸ last state final first outcome

/-- Total correctness: an invariant at some distance from the end, and every further round
comes nearer. -/
theorem loopFor_returns {invariant : Nat → σ → Prop} {post : ρ → Prop}
    (each : ∀ distance state, invariant distance state →
      (∃ next nearer, round state = some (.next next) ∧ invariant nearer next ∧
          nearer < distance) ∨
        ∃ result, round state = some (.done result) ∧ post result) :
    ∀ {distance : Nat} {state : σ}, invariant distance state →
      ∃ result, loopFor round (distance + 1) state = some result ∧ post result := by
  intro distance
  induction distance using Nat.strong_induction_on with
  | _ distance ih =>
      intro state first
      rcases each distance state first with
        ⟨next, nearer, goesOn, holds, lower⟩ | ⟨result, ends, met⟩
      · obtain ⟨result, ended, met⟩ := ih nearer lower holds
        refine ⟨result, ?_, met⟩
        rw [loopFor_next round distance goesOn]
        exact loopFor_mono round (by omega) ended
      · exact ⟨result, loopFor_done round distance ends, met⟩

/-- No end: an invariant under which every round is followed by another. -/
theorem loopFor_diverges {invariant : σ → Prop}
    (each : ∀ state, invariant state →
      ∃ next, round state = some (.next next) ∧ invariant next)
    (rounds : Nat) : ∀ {state : σ}, invariant state → loopFor round rounds state = none := by
  induction rounds with
  | zero => exact fun _first => rfl
  | succ rounds ih =>
      intro state first
      obtain ⟨next, goesOn, holds⟩ := each state first
      rw [loopFor_next round rounds goesOn]
      exact ih holds

end

end SmartMic
