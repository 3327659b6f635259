import SmartMic.Format

set_option autoImplicit false

/-! The authoritative push-to-talk and routing state machine. Modes choose which
region of the state graph the router lives in; push-to-talk has an effect in
`auto` only. -/

namespace SmartMic.Audio

inductive SourceState where
  | localActive
  | phoneArming
  | phoneActive
  | returningToLocal
  | phoneOnly
  | localOnly
  | muted
  | errorRecovery
  deriving DecidableEq, Repr

inductive RoutingMode where
  | auto
  | phoneOnly
  | localOnly
  | mute
  deriving DecidableEq, Repr

inductive Event where
  | startPtt
  | stopPtt
  | phoneReady
  | phoneLost
  | armTimeout
  | fadeComplete
  | sourceFailure
  | recovered
  | modeAuto
  | modePhoneOnly
  | modeLocalOnly
  | modeMute
  deriving DecidableEq, Repr

def SourceState.toText : SourceState → String
  | .localActive => "LOCAL_ACTIVE"
  | .phoneArming => "PHONE_ARMING"
  | .phoneActive => "PHONE_ACTIVE"
  | .returningToLocal => "RETURNING_TO_LOCAL"
  | .phoneOnly => "PHONE_ONLY"
  | .localOnly => "LOCAL_ONLY"
  | .muted => "MUTED"
  | .errorRecovery => "ERROR_RECOVERY"

def RoutingMode.toText : RoutingMode → String
  | .auto => "Auto"
  | .phoneOnly => "PhoneOnly"
  | .localOnly => "LocalOnly"
  | .mute => "Mute"

/-- `from` and `to` are keywords here. -/
structure Transition where
  accepted : Bool
  from_ : SourceState
  to_ : SourceState
  changed : Bool
  deriving DecidableEq, Repr

structure SourceStateMachine where
  state : SourceState
  mode : RoutingMode
  deriving DecidableEq, Repr

def SourceStateMachine.initial : SourceStateMachine :=
  { state := .localActive, mode := .auto }

def restingStateFor : RoutingMode → SourceState
  | .auto => .localActive
  | .phoneOnly => .phoneOnly
  | .localOnly => .localOnly
  | .mute => .muted

/-- The switch of `SourceStateMachine::apply`: the mode and the state the event
leads to, or `none` where the edge is illegal. -/
def SourceStateMachine.edge (machine : SourceStateMachine) :
    Event → Option SourceStateMachine
  -- mode changes are always legal and always win
  | .modeAuto => some { state := .localActive, mode := .auto }
  | .modePhoneOnly => some { state := .phoneOnly, mode := .phoneOnly }
  | .modeLocalOnly => some { state := .localOnly, mode := .localOnly }
  | .modeMute => some { state := .muted, mode := .mute }
  | .startPtt =>
      some <|
        if machine.mode = .auto then
          match machine.state with
          | .localActive | .returningToLocal => { machine with state := .phoneArming }
          | _ => machine
        else machine
  | .stopPtt =>
      some <|
        if machine.mode = .auto then
          match machine.state with
          | .phoneActive => { machine with state := .returningToLocal }
          | .phoneArming => { machine with state := .localActive }
          | _ => machine
        else machine
  | .phoneReady =>
      match machine.state with
      | .phoneArming => some { machine with state := .phoneActive }
      | .phoneActive | .phoneOnly => some machine
      | _ => none
  | .phoneLost =>
      match machine.state with
      | .phoneActive => some { machine with state := .returningToLocal }
      | .phoneArming => some { machine with state := .errorRecovery }
      | .phoneOnly => some machine
      | _ => none
  | .armTimeout =>
      match machine.state with
      | .phoneArming => some { machine with state := .errorRecovery }
      | _ => none
  | .fadeComplete =>
      match machine.state with
      | .returningToLocal => some { machine with state := .localActive }
      | _ => none
  | .sourceFailure => some { machine with state := .errorRecovery }
  | .recovered =>
      match machine.state with
      | .errorRecovery => some { machine with state := restingStateFor machine.mode }
      | _ => none

def SourceStateMachine.apply (machine : SourceStateMachine) (event : Event) :
    SourceStateMachine × Transition :=
  match machine.edge event with
  | some next =>
      (next,
        { accepted := true
          from_ := machine.state
          to_ := next.state
          changed := decide (machine.state ≠ next.state) })
  | none =>
      (machine,
        { accepted := false
          from_ := machine.state
          to_ := machine.state
          changed := false })

def SourceStateMachine.wantsPhone (machine : SourceStateMachine) : Bool :=
  match machine.state with
  | .phoneActive | .returningToLocal | .phoneOnly => true
  | _ => false

def SourceStateMachine.wantsLocal (machine : SourceStateMachine) : Bool :=
  match machine.state with
  | .localActive | .localOnly | .phoneArming | .phoneActive | .returningToLocal => true
  | _ => false

/-- The region of the state graph a mode confines the machine to. -/
def SourceStateMachine.InRegion (machine : SourceStateMachine) : Prop :=
  match machine.mode with
  | .auto =>
      machine.state ≠ .phoneOnly ∧ machine.state ≠ .localOnly ∧ machine.state ≠ .muted
  | mode => machine.state = restingStateFor mode ∨ machine.state = .errorRecovery

theorem SourceStateMachine.inRegion_initial : SourceStateMachine.initial.InRegion := by
  refine ⟨?_, ?_, ?_⟩ <;> decide

theorem SourceStateMachine.inRegion_resting (mode : RoutingMode) :
    SourceStateMachine.InRegion { state := restingStateFor mode, mode := mode } := by
  cases mode with
  | auto => exact ⟨SourceState.noConfusion, SourceState.noConfusion, SourceState.noConfusion⟩
  | phoneOnly => exact Or.inl rfl
  | localOnly => exact Or.inl rfl
  | mute => exact Or.inl rfl

theorem SourceStateMachine.inRegion_recovery (mode : RoutingMode) :
    SourceStateMachine.InRegion { state := .errorRecovery, mode := mode } := by
  cases mode with
  | auto => exact ⟨SourceState.noConfusion, SourceState.noConfusion, SourceState.noConfusion⟩
  | phoneOnly => exact Or.inr rfl
  | localOnly => exact Or.inr rfl
  | mute => exact Or.inr rfl

/-- A state of push-to-talk is a state of AUTO, and moves only to states of AUTO. -/
theorem SourceStateMachine.InRegion.auto {machine : SourceStateMachine}
    (inside : machine.InRegion)
    (talking : machine.state = .phoneArming ∨ machine.state = .phoneActive ∨
      machine.state = .returningToLocal) {state : SourceState}
    (within : state ≠ .phoneOnly ∧ state ≠ .localOnly ∧ state ≠ .muted) :
    SourceStateMachine.InRegion { machine with state := state } := by
  obtain ⟨current, mode⟩ := machine
  cases mode with
  | auto => exact within
  | phoneOnly =>
      rcases inside with same | same <;> rcases talking with other | other | other <;>
        cases same.symm.trans other
  | localOnly =>
      rcases inside with same | same <;> rcases talking with other | other | other <;>
        cases same.symm.trans other
  | mute =>
      rcases inside with same | same <;> rcases talking with other | other | other <;>
        cases same.symm.trans other

theorem SourceStateMachine.inRegion_of_auto {machine : SourceStateMachine} {state : SourceState}
    (auto : machine.mode = .auto)
    (within : state ≠ .phoneOnly ∧ state ≠ .localOnly ∧ state ≠ .muted) :
    SourceStateMachine.InRegion { machine with state := state } := by
  unfold SourceStateMachine.InRegion
  dsimp only
  rw [auto]
  exact within

theorem SourceState.within_auto {state : SourceState}
    (moves : state = .phoneArming ∨ state = .phoneActive ∨ state = .returningToLocal ∨
      state = .localActive) :
    state ≠ .phoneOnly ∧ state ≠ .localOnly ∧ state ≠ .muted := by
  rcases moves with rfl | rfl | rfl | rfl <;>
    exact ⟨SourceState.noConfusion, SourceState.noConfusion, SourceState.noConfusion⟩

theorem SourceStateMachine.edge_inRegion {machine next : SourceStateMachine} {event : Event}
    (inside : machine.InRegion) (legal : machine.edge event = some next) : next.InRegion := by
  cases event with
  | modeAuto =>
      cases legal
      exact SourceStateMachine.inRegion_resting .auto
  | modePhoneOnly =>
      cases legal
      exact SourceStateMachine.inRegion_resting .phoneOnly
  | modeLocalOnly =>
      cases legal
      exact SourceStateMachine.inRegion_resting .localOnly
  | modeMute =>
      cases legal
      exact SourceStateMachine.inRegion_resting .mute
  | startPtt =>
      cases Option.some.inj legal
      split
      · rename_i auto
        split
        · exact SourceStateMachine.inRegion_of_auto auto (SourceState.within_auto (Or.inl rfl))
        · exact SourceStateMachine.inRegion_of_auto auto (SourceState.within_auto (Or.inl rfl))
        · exact inside
      · exact inside
  | stopPtt =>
      cases Option.some.inj legal
      split
      · rename_i auto
        split
        · exact SourceStateMachine.inRegion_of_auto auto
            (SourceState.within_auto (Or.inr (Or.inr (Or.inl rfl))))
        · exact SourceStateMachine.inRegion_of_auto auto
            (SourceState.within_auto (Or.inr (Or.inr (Or.inr rfl))))
        · exact inside
      · exact inside
  | phoneReady =>
      unfold SourceStateMachine.edge at legal
      dsimp only at legal
      split at legal
      · rename_i arming
        cases legal
        exact inside.auto (Or.inl arming) (SourceState.within_auto (Or.inr (Or.inl rfl)))
      · cases legal
        exact inside
      · cases legal
        exact inside
      · cases legal
  | phoneLost =>
      unfold SourceStateMachine.edge at legal
      dsimp only at legal
      split at legal
      · rename_i active
        cases legal
        exact inside.auto (Or.inr (Or.inl active))
          (SourceState.within_auto (Or.inr (Or.inr (Or.inl rfl))))
      · cases legal
        exact SourceStateMachine.inRegion_recovery machine.mode
      · cases legal
        exact inside
      · cases legal
  | armTimeout =>
      unfold SourceStateMachine.edge at legal
      dsimp only at legal
      split at legal
      · cases legal
        exact SourceStateMachine.inRegion_recovery machine.mode
      · cases legal
  | fadeComplete =>
      unfold SourceStateMachine.edge at legal
      dsimp only at legal
      split at legal
      · rename_i returning
        cases legal
        exact inside.auto (Or.inr (Or.inr returning))
          (SourceState.within_auto (Or.inr (Or.inr (Or.inr rfl))))
      · cases legal
  | sourceFailure =>
      cases legal
      exact SourceStateMachine.inRegion_recovery machine.mode
  | recovered =>
      unfold SourceStateMachine.edge at legal
      dsimp only at legal
      split at legal
      · cases legal
        exact SourceStateMachine.inRegion_resting machine.mode
      · cases legal

theorem SourceStateMachine.apply_inRegion {machine : SourceStateMachine} (event : Event)
    (inside : machine.InRegion) : (machine.apply event).1.InRegion := by
  unfold SourceStateMachine.apply
  cases legal : machine.edge event with
  | none => exact inside
  | some next => exact SourceStateMachine.edge_inRegion inside legal

theorem SourceStateMachine.apply_unchanged {machine : SourceStateMachine} {event : Event}
    (unchanged : (machine.apply event).2.changed = false) :
    (machine.apply event).1.state = machine.state := by
  unfold SourceStateMachine.apply at unchanged ⊢
  cases legal : machine.edge event with
  | none => rfl
  | some next =>
      rw [legal] at unchanged
      exact (of_decide_eq_false unchanged |> not_not.mp).symm

theorem SourceStateMachine.apply_enters (machine : SourceStateMachine) (event : Event) :
    (machine.apply event).2.to_ = (machine.apply event).1.state := by
  unfold SourceStateMachine.apply
  cases machine.edge event <;> rfl

theorem SourceStateMachine.apply_leaves (machine : SourceStateMachine) (event : Event) :
    (machine.apply event).2.from_ = machine.state := by
  unfold SourceStateMachine.apply
  cases machine.edge event <;> rfl

theorem SourceStateMachine.changed_accepted {machine : SourceStateMachine} {event : Event}
    (changed : (machine.apply event).2.changed = true) :
    (machine.apply event).2.accepted = true := by
  unfold SourceStateMachine.apply at changed ⊢
  cases legal : machine.edge event with
  | none =>
      rw [legal] at changed
      cases changed
  | some next => rfl

theorem SourceStateMachine.changed_moves {machine : SourceStateMachine} {event : Event}
    (changed : (machine.apply event).2.changed = true) :
    (machine.apply event).2.to_ ≠ machine.state := by
  unfold SourceStateMachine.apply at changed ⊢
  cases legal : machine.edge event with
  | none =>
      rw [legal] at changed
      cases changed
  | some next =>
      rw [legal] at changed
      exact (of_decide_eq_true changed).symm

@[simp]
theorem SourceStateMachine.apply_sourceFailure (machine : SourceStateMachine) :
    (machine.apply .sourceFailure).1 = { machine with state := .errorRecovery } := rfl

end SmartMic.Audio
