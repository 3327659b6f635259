import SmartMic.Audio.FailureIsolation

set_option autoImplicit false

/-! What becomes of a press. In `auto` the state machine accepts every `StartPtt`, and a
press is answered by the two states of a talk, arming and active. It can meet the machine
in the one frame of error recovery: the events of a tick are drained before its timers
leave that state. -/

namespace SmartMic.Audio

def SourceState.talking : SourceState → Bool
  | .phoneArming | .phoneActive => true
  | _ => false

def Event.endsTalk : Event → Bool
  | .stopPtt | .phoneLost | .modeAuto | .modePhoneOnly | .modeLocalOnly | .modeMute
  | .armTimeout | .sourceFailure => true
  | _ => false

def talkEnded (entry : Event × Transition) : Bool :=
  entry.1.endsTalk && entry.2.from_.talking && !entry.2.to_.talking

/-- The router is in a talk, or has left one by an event applied from `mark` on. -/
def AudioRouter.TalkedSince (mark : Nat) (router : AudioRouter) : Prop :=
  router.state.talking = true ∨ ∃ entry ∈ router.applied.drop mark, talkEnded entry = true

instance (mark : Nat) (router : AudioRouter) : Decidable (router.TalkedSince mark) :=
  inferInstanceAs (Decidable (_ ∨ _))

/-- A pending `StartPtt` among the other pending events, and what happens in the tick
that drains it and up to the end of the next one. -/
structure Press (router : AudioRouter) where
  before : List Event
  after : List Event
  pending : router.events = before ++ .startPtt :: after
  around : Surroundings
  calls : List Control
  next : Surroundings

namespace Press

variable {router : AudioRouter}

def met (press : Press router) : AudioRouter :=
  press.before.foldl AudioRouter.applyEvent { router with events := [] }

def mark (press : Press router) : Nat := press.met.applied.length + 1

def firstTick (curves : GainCurves) (press : Press router) : AudioRouter :=
  router.tick curves press.around

def called (curves : GainCurves) (press : Press router) : AudioRouter :=
  Run.final AudioRouter.control (press.firstTick curves) press.calls

def secondTick (curves : GainCurves) (press : Press router) : AudioRouter :=
  (press.called curves).tick curves press.next

/-- A press that is accepted in `auto` leads to a talk by the end of its tick or the
next, unless the talk is over by then for one of the named reasons. -/
def Kept (curves : GainCurves) (press : Press router) : Prop :=
  press.met.mode = .auto → (press.met.sm.apply .startPtt).2.accepted = true →
    (press.firstTick curves).TalkedSince press.mark ∨
      (press.secondTick curves).TalkedSince press.mark

end Press

/-- One of the events is a `StartPtt` that meets the machine in `auto` and not in error
recovery. -/
def SourceStateMachine.takesPress (machine : SourceStateMachine) : List Event → Bool
  | [] => false
  | event :: rest =>
      decide (event = .startPtt ∧ machine.mode = .auto ∧ machine.state ≠ .errorRecovery) ||
        (machine.apply event).1.takesPress rest

/-- The press, or a later one of the same tick or the next, is taken. -/
def Press.Taken {router : AudioRouter} (curves : GainCurves) (press : Press router) : Prop :=
  press.met.sm.takesPress (.startPtt :: press.after) = true ∨
    (press.called curves).sm.takesPress (press.called curves).events = true

/-! ### One event -/

namespace SourceStateMachine

variable {machine : SourceStateMachine} {event : Event}

theorem apply_startPtt_accepted (machine : SourceStateMachine) :
    (machine.apply .startPtt).2.accepted = true := rfl

theorem InRegion.startPtt_talks (inside : machine.InRegion) (auto : machine.mode = .auto)
    (calm : machine.state ≠ .errorRecovery) :
    (machine.apply .startPtt).1.state.talking = true := by
  obtain ⟨state, mode⟩ := machine
  cases auto
  obtain ⟨notPhone, notLocal, notMuted⟩ := inside
  cases state with
  | localActive => rfl
  | phoneArming => rfl
  | phoneActive => rfl
  | returningToLocal => rfl
  | phoneOnly => exact absurd rfl notPhone
  | localOnly => exact absurd rfl notLocal
  | muted => exact absurd rfl notMuted
  | errorRecovery => exact absurd rfl calm

theorem talk_left (talking : machine.state.talking = true)
    (left : (machine.apply event).1.state.talking = false) : event.endsTalk = true := by
  obtain ⟨state, mode⟩ := machine
  have two : state = .phoneArming ∨ state = .phoneActive := by
    cases state with
    | phoneArming => exact Or.inl rfl
    | phoneActive => exact Or.inr rfl
    | _ => cases talking
  rcases two with arming | active
  · cases arming
    cases event with
    | startPtt => cases mode <;> cases left
    | phoneReady => cases left
    | fadeComplete => cases left
    | recovered => cases left
    | _ => rfl
  · cases active
    cases event with
    | startPtt => cases mode <;> cases left
    | phoneReady => cases left
    | fadeComplete => cases left
    | recovered => cases left
    | _ => rfl

/-- A talk begins with a press that is taken and in no other way. -/
theorem talk_entered (silent : machine.state.talking = false)
    (entered : (machine.apply event).1.state.talking = true) :
    event = .startPtt ∧ machine.mode = .auto ∧ machine.state ≠ .errorRecovery := by
  obtain ⟨state, mode⟩ := machine
  cases event with
  | startPtt =>
      cases mode with
      | auto =>
          refine ⟨rfl, rfl, ?_⟩
          intro recovering
          cases recovering
          cases entered
      | phoneOnly | localOnly | mute => exact absurd (silent.symm.trans entered) Bool.noConfusion
  | modeAuto | modePhoneOnly | modeLocalOnly | modeMute | sourceFailure => cases entered
  | stopPtt | phoneReady | phoneLost | armTimeout | fadeComplete | recovered =>
      -- these lead from a silent state to a silent one, whatever the mode
      exfalso
      revert silent entered
      cases mode <;> cases state <;> simp [apply, edge, restingStateFor, SourceState.talking]

end SourceStateMachine

/-! ### Events that are applied from a mark on -/

section Marked

variable {mark : Nat} {router : AudioRouter}

theorem AudioRouter.drop_applyEvent (long : mark ≤ router.applied.length) (event : Event) :
    (router.applyEvent event).applied.drop mark =
      router.applied.drop mark ++ [(event, (router.sm.apply event).2)] := by
  rw [AudioRouter.applyEvent_applied, List.drop_append_of_le_length long]

theorem AudioRouter.TalkedSince.applyEvent (talked : router.TalkedSince mark)
    (long : mark ≤ router.applied.length) (event : Event) :
    (router.applyEvent event).TalkedSince mark := by
  unfold AudioRouter.TalkedSince
  rw [AudioRouter.drop_applyEvent long]
  rcases talked with talking | ⟨entry, member, ended⟩
  · cases still : (router.applyEvent event).state.talking with
    | true => exact Or.inl rfl
    | false =>
        have left : (router.sm.apply event).1.state.talking = false := by
          rw [← AudioRouter.applyEvent_sm]
          exact still
        refine Or.inr ⟨(event, (router.sm.apply event).2), ?_, ?_⟩
        · exact List.mem_append_right _ (List.mem_singleton_self _)
        · have began : router.sm.state.talking = true := talking
          unfold talkEnded
          rw [SourceStateMachine.talk_left began left, SourceStateMachine.apply_leaves,
            SourceStateMachine.apply_enters, left, began]
          rfl
  · exact Or.inr ⟨entry, List.mem_append_left _ member, ended⟩

theorem AudioRouter.not_talkedSince_applyEvent (silent : ¬ router.TalkedSince mark)
    (long : mark ≤ router.applied.length) {event : Event}
    (untaken : ¬ (event = .startPtt ∧ router.mode = .auto ∧ router.state ≠ .errorRecovery)) :
    ¬ (router.applyEvent event).TalkedSince mark := by
  obtain ⟨before, entries⟩ := not_or.mp silent
  have before := Bool.eq_false_of_not_eq_true before
  unfold AudioRouter.TalkedSince
  rw [AudioRouter.drop_applyEvent long]
  rintro (talking | ⟨entry, member, ended⟩)
  · unfold AudioRouter.state at talking
    rw [AudioRouter.applyEvent_sm] at talking
    exact untaken (SourceStateMachine.talk_entered before talking)
  · rcases List.mem_append.mp member with earlier | last
    · exact entries ⟨entry, earlier, ended⟩
    · unfold AudioRouter.state at before
      cases List.mem_singleton.mp last
      unfold talkEnded at ended
      rw [SourceStateMachine.apply_leaves, before, Bool.and_false, Bool.false_and] at ended
      cases ended

end Marked

theorem AudioRouter.stable_talkedSince (mark : Nat) :
    Stable (fun router => mark ≤ router.applied.length ∧ router.TalkedSince mark) :=
  { event := fun router event talked =>
      ⟨(AudioRouter.stable_appliedLength mark).event router event talked.1,
        talked.2.applyEvent talked.1 event⟩
    emptied := fun _router talked => talked
    bookkeeping := fun _router _ _ _ _ _ talked => talked }

theorem AudioRouter.steady_silent (mark : Nat) :
    Steady (fun router => mark ≤ router.applied.length ∧ ¬ router.TalkedSince mark) :=
  { event := by
      rintro router event ofTick ⟨long, silent⟩
      refine ⟨(AudioRouter.stable_appliedLength mark).event router event long, ?_⟩
      apply AudioRouter.not_talkedSince_applyEvent silent long
      rintro ⟨press, -⟩
      cases press
      cases ofTick
    bookkeeping := fun _router _ _ _ _ _ silent => silent }

/-! ### A drain, a tick and the calls between two ticks -/

theorem AudioRouter.startPtt_talks {router : AudioRouter} (inside : router.sm.InRegion)
    (auto : router.mode = .auto) (calm : router.state ≠ .errorRecovery) :
    (router.applyEvent .startPtt).state.talking = true := by
  unfold AudioRouter.state
  rw [AudioRouter.applyEvent_sm]
  exact inside.startPtt_talks auto calm

section Drain

variable {mark : Nat}

theorem AudioRouter.drain_taken (events : List Event) :
    ∀ router : AudioRouter, router.sm.InRegion → mark ≤ router.applied.length →
      router.sm.takesPress events = true →
      mark ≤ (events.foldl AudioRouter.applyEvent router).applied.length ∧
        (events.foldl AudioRouter.applyEvent router).TalkedSince mark := by
  induction events with
  | nil =>
      intro router _inside _long taken
      cases taken
  | cons event rest ih =>
      intro router inside long taken
      have longer := (AudioRouter.stable_appliedLength mark).event router event long
      rcases Bool.or_eq_true_iff.mp taken with first | later
      · obtain ⟨press, auto, calm⟩ := of_decide_eq_true first
        cases press
        exact Run.invariant_always _ (AudioRouter.stable_talkedSince mark).event _ rest
          ⟨longer, Or.inl (AudioRouter.startPtt_talks inside auto calm)⟩
      · rw [← AudioRouter.applyEvent_sm] at later
        apply ih (router.applyEvent event) _ longer later
        rw [AudioRouter.applyEvent_sm]
        exact SourceStateMachine.apply_inRegion event inside

theorem AudioRouter.drain_untaken (events : List Event) :
    ∀ router : AudioRouter, mark ≤ router.applied.length → ¬ router.TalkedSince mark →
      router.sm.takesPress events = false →
      mark ≤ (events.foldl AudioRouter.applyEvent router).applied.length ∧
        ¬ (events.foldl AudioRouter.applyEvent router).TalkedSince mark := by
  induction events with
  | nil => exact fun _router long silent _untaken => ⟨long, silent⟩
  | cons event rest ih =>
      intro router long silent untaken
      obtain ⟨first, later⟩ := Bool.or_eq_false_iff.mp untaken
      rw [← AudioRouter.applyEvent_sm] at later
      apply ih (router.applyEvent event) _ _ later
      · exact (AudioRouter.stable_appliedLength mark).event router event long
      · exact AudioRouter.not_talkedSince_applyEvent silent long (of_decide_eq_false first)

theorem AudioRouter.calls_keep (holds : AudioRouter → Prop)
    (blind : ∀ (router : AudioRouter) (events : List Event) (lastHeartbeatFrame : Nat),
      holds router →
        holds { router with events := events, lastHeartbeatFrame := lastHeartbeatFrame })
    (calls : List Control) {router : AudioRouter} (start : holds router) :
    holds (Run.final AudioRouter.control router calls) := by
  apply Run.invariant_always holds _ router calls start
  intro router call before
  obtain ⟨events, lastHeartbeatFrame, same⟩ := router.control_eq call
  rw [same]
  exact blind router events lastHeartbeatFrame before

end Drain

namespace Press

variable {router : AudioRouter}

theorem drain (press : Press router) :
    router.drainEvents =
      press.after.foldl AudioRouter.applyEvent (press.met.applyEvent .startPtt) := by
  unfold AudioRouter.drainEvents Press.met
  rw [press.pending, List.foldl_append, List.foldl_cons]

theorem mark_eq (press : Press router) :
    (press.met.applyEvent .startPtt).applied.length = press.mark := by
  rw [AudioRouter.applyEvent_applied, List.length_append]
  rfl

end Press

/-! ### The two ticks -/

theorem AudioRouter.talked_mixed {mark : Nat} {ready written : AudioRouter}
    (mixed : ready.MixedFrom written) : written.TalkedSince mark ↔ ready.TalkedSince mark := by
  unfold AudioRouter.TalkedSince
  rw [mixed.state, mixed.applied]

section Tick

variable {mark : Nat} {router : AudioRouter} (curves : GainCurves) (around : Surroundings)

theorem AudioRouter.tick_talked (long : mark ≤ router.drainEvents.applied.length)
    (talked : router.drainEvents.TalkedSince mark) :
    mark ≤ (router.tick curves around).applied.length ∧
      (router.tick curves around).TalkedSince mark := by
  apply (AudioRouter.stable_talkedSince mark).steady.tick ⟨long, talked⟩ curves around
  intro ready written mixed before
  rw [mixed.applied, AudioRouter.talked_mixed mixed]
  exact before

theorem AudioRouter.tick_silent (long : mark ≤ router.drainEvents.applied.length)
    (silent : ¬ router.drainEvents.TalkedSince mark) :
    mark ≤ (router.tick curves around).applied.length ∧
      ¬ (router.tick curves around).TalkedSince mark := by
  apply (AudioRouter.steady_silent mark).tick ⟨long, silent⟩ curves around
  intro ready written mixed before
  rw [mixed.applied, AudioRouter.talked_mixed mixed]
  exact before

end Tick

namespace Press

variable {router : AudioRouter} (curves : GainCurves) (press : Press router)

theorem called_long (drained : press.mark ≤ router.drainEvents.applied.length) :
    press.mark ≤ (press.called curves).applied.length := by
  apply AudioRouter.calls_keep (fun router => press.mark ≤ router.applied.length)
    (fun _router _events _heard long => long) press.calls
  apply (AudioRouter.stable_appliedLength press.mark).steady.tick drained curves press.around
  intro ready written mixed long
  rw [mixed.applied]
  exact long

theorem drained_long : press.mark ≤ router.drainEvents.applied.length := by
  rw [press.drain]
  apply Run.invariant_always _ (AudioRouter.stable_appliedLength press.mark).event
  exact Nat.le_of_eq press.mark_eq.symm

theorem taken_at_once (sound : router.Sound)
    (taken : press.met.sm.takesPress (.startPtt :: press.after) = true) :
    (press.firstTick curves).TalkedSince press.mark := by
  have inside : press.met.sm.InRegion := by
    have met : press.met.Sound :=
      Run.invariant_always AudioRouter.Sound (fun _router event sound => sound.applyEvent event)
        _ press.before (AudioRouter.stable_sound.emptied router sound)
    exact met.region
  have start : press.mark ≤ (press.met.applyEvent .startPtt).applied.length :=
    Nat.le_of_eq press.mark_eq.symm
  have drained : router.drainEvents.TalkedSince press.mark := by
    rw [press.drain]
    rcases Bool.or_eq_true_iff.mp taken with this | later
    · obtain ⟨-, auto, calm⟩ := of_decide_eq_true this
      exact (Run.invariant_always _ (AudioRouter.stable_talkedSince press.mark).event _
        press.after ⟨start, Or.inl (AudioRouter.startPtt_talks inside auto calm)⟩).2
    · rw [← AudioRouter.applyEvent_sm] at later
      apply (AudioRouter.drain_taken press.after _ _ start later).2
      rw [AudioRouter.applyEvent_sm]
      exact SourceStateMachine.apply_inRegion .startPtt inside
  exact (AudioRouter.tick_talked curves press.around press.drained_long drained).2

theorem taken_next (sound : router.Sound)
    (taken : (press.called curves).sm.takesPress (press.called curves).events = true) :
    (press.secondTick curves).TalkedSince press.mark := by
  have inside : (press.called curves).Sound := by
    apply Run.invariant_always AudioRouter.Sound (fun _router call sound => sound.control call)
    exact sound.tick curves press.around
  obtain ⟨long, talked⟩ := AudioRouter.drain_taken (press.called curves).events
    { press.called curves with events := [] } inside.region
    (press.called_long curves press.drained_long) taken
  exact (AudioRouter.tick_talked curves press.next long talked).2

/-- Where no press is taken, neither of the two ticks sees a talk. -/
theorem untaken (auto : press.met.mode = .auto)
    (atOnce : press.met.sm.takesPress (.startPtt :: press.after) = false)
    (next : (press.called curves).sm.takesPress (press.called curves).events = false) :
    ¬ (press.firstTick curves).TalkedSince press.mark ∧
      ¬ (press.secondTick curves).TalkedSince press.mark := by
  obtain ⟨first, later⟩ := Bool.or_eq_false_iff.mp atOnce
  have recovering : press.met.state = .errorRecovery := by
    by_contra calm
    exact of_decide_eq_false first ⟨rfl, auto, calm⟩
  have start : ¬ (press.met.applyEvent .startPtt).TalkedSince press.mark := by
    rintro (talking | ⟨entry, member, -⟩)
    · unfold AudioRouter.state at talking recovering
      rw [AudioRouter.applyEvent_sm] at talking
      have silent : press.met.sm.state.talking = false := by
        rw [recovering]
        rfl
      exact (SourceStateMachine.talk_entered silent talking).2.2 recovering
    · rw [← press.mark_eq, List.drop_length] at member
      cases member
  rw [← AudioRouter.applyEvent_sm] at later
  obtain ⟨long, drained⟩ := AudioRouter.drain_untaken press.after _
    (Nat.le_of_eq press.mark_eq.symm) start later
  rw [← press.drain] at long drained
  obtain ⟨ticked, silent⟩ := AudioRouter.tick_silent curves press.around long drained
  refine ⟨silent, ?_⟩
  have called : ¬ (press.called curves).TalkedSince press.mark :=
    AudioRouter.calls_keep (fun router => ¬ router.TalkedSince press.mark)
      (fun _router _events _heard silent => silent) press.calls silent
  obtain ⟨longer, drainedNext⟩ := AudioRouter.drain_untaken (press.called curves).events
    { press.called curves with events := [] } (press.called_long curves long) called next
  exact (AudioRouter.tick_silent curves press.next longer drainedNext).2

end Press

/-- In every run a press that is accepted in `auto` is kept exactly when it, or a later
one drained in the same tick or the next, does not meet the machine in error recovery. -/
theorem accepted_press_kept_iff (curves : GainCurves) (config : RouterConfig) (wiring : Wiring)
    (inputs : List RouterInput)
    (press : Press
      (Run.final (AudioRouter.step curves) (AudioRouter.initial config wiring) inputs)) :
    press.Kept curves ↔ (press.met.mode = .auto → press.Taken curves) := by
  have sound := AudioRouter.sound_final curves config wiring inputs
  constructor
  · intro kept auto
    by_contra untaken
    obtain ⟨atOnce, next⟩ := not_or.mp untaken
    obtain ⟨first, second⟩ := press.untaken curves auto (Bool.eq_false_of_not_eq_true atOnce)
      (Bool.eq_false_of_not_eq_true next)
    rcases kept auto (SourceStateMachine.apply_startPtt_accepted _) with talked | talked
    · exact first talked
    · exact second talked
  · intro condition auto _accepted
    rcases condition auto with atOnce | next
    · exact Or.inl (press.taken_at_once curves sound atOnce)
    · exact Or.inr (press.taken_next curves sound next)

def failedRouter : AudioRouter :=
  Run.final (AudioRouter.step linearCurves) (AudioRouter.initial {} fullyWired)
    [.tick deadLocal, .control .startPtt]

def pressInRecovery : Press failedRouter :=
  { before := []
    after := []
    pending := by decide +kernel
    around := quietRoom
    calls := []
    next := quietRoom }

theorem Press.none_next {router : AudioRouter} (curves : GainCurves) (press : Press router)
    (none : press.calls = []) :
    (press.called curves).sm.takesPress (press.called curves).events = false := by
  have called : press.called curves = router.tick curves press.around := by
    unfold Press.called
    rw [none]
    rfl
  rw [called, (router.tick_quiet curves press.around).1]
  rfl

/-- The press is accepted in error recovery, and nothing comes of it. -/
theorem press_lost_in_recovery : ¬ pressInRecovery.Kept linearCurves := by
  have auto : pressInRecovery.met.mode = .auto := by decide +kernel
  have atOnce : pressInRecovery.met.sm.takesPress [.startPtt] = false := by decide +kernel
  obtain ⟨first, second⟩ := pressInRecovery.untaken linearCurves auto atOnce
    (pressInRecovery.none_next linearCurves rfl)
  intro kept
  rcases kept auto (SourceStateMachine.apply_startPtt_accepted _) with talked | talked
  · exact first talked
  · exact second talked

end SmartMic.Audio
