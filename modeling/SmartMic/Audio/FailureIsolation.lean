import SmartMic.Audio.Audible
import SmartMic.Audio.FailbackLoop
import SmartMic.Audio.SettledOutput

set_option autoImplicit false

/-! What a failure of a source that nobody hears does. Two runs of the router are
compared: in one the source reports a failure, in the other it delivers a frame of
zeros in the same tick. One handler serves both sources, and it does not ask which
of them is heard. -/

namespace SmartMic.Audio

inductive SourceSide where
  | local_
  | phone
  deriving DecidableEq, Repr

def SourceSide.other : SourceSide → SourceSide
  | .local_ => .phone
  | .phone => .local_

def Surroundings.source (around : Surroundings) : SourceSide → SourceRead
  | .local_ => around.local_
  | .phone => around.phone

def Surroundings.replace (around : Surroundings) (read : SourceRead) : SourceSide → Surroundings
  | .local_ => { around with local_ := read }
  | .phone => { around with phone := read }

def underrunOfZeros : SourceRead := { status := .underrun, samples := silentFrame }

def GainPair.gain (gains : GainPair) : SourceSide → Sample
  | .local_ => gains.local_
  | .phone => gains.phone

/-- `readSources` asks this source for a frame, unless the other one failed first. -/
def AudioRouter.asks (router : AudioRouter) : SourceSide → Bool
  | .local_ => router.wiring.local_ && (router.sm.wantsLocal || router.gate.active)
  | .phone => router.wiring.phone && (router.sm.wantsPhone || router.gate.active)

/-- Nothing of this source would be heard in any sample of the frame: its side of the
crossfade is at zero, or the gate is shut. -/
def AudioRouter.Inaudible (curves : GainCurves) (router : AudioRouter) (side : SourceSide) :
    Prop :=
  ∀ index, index < kFrameSamples →
    (router.reading.fade.gainsAt curves index).gain side *
      router.reading.gate.openingAt curves index = 0

/-- If the source is inaudible in this tick and fails, then a frame of zeros in place of
the failure leads to the same state machine and the same samples, now and whatever
happens later. -/
def AudioRouter.FailureIsolated (curves : GainCurves) (router : AudioRouter)
    (around : Surroundings) (side : SourceSide) : Prop :=
  router.Inaudible curves side → (around.source side).status = .failed →
    ∀ later : List RouterInput,
      let failed := Run.final (AudioRouter.step curves) (router.tick curves around) later
      let replaced := Run.final (AudioRouter.step curves)
        (router.tick curves (around.replace underrunOfZeros side)) later
      failed.sm = replaced.sm ∧ failed.outBuf = replaced.outBuf

/-- The failure makes no difference: the source is not asked, the router is in error
recovery already, or the other source is asked and fails in the same tick. -/
def AudioRouter.FailureUnseen (router : AudioRouter) (around : Surroundings)
    (side : SourceSide) : Prop :=
  router.reading.asks side = false ∨ router.reading.state = .errorRecovery ∨
    (router.reading.asks side.other = true ∧ (around.source side.other).status = .failed)

/-! ### The trace decides nothing -/

/-- The router without what it only reports: the failure counter and its record. -/
def AudioRouter.untraced (router : AudioRouter) : AudioRouter :=
  { router with sourceFailures := 0, applied := [] }

theorem AudioRouter.applyEvent_blind (event : Event) :
    Run.Blind AudioRouter.untraced (fun router => router.applyEvent event) := by
  intro router
  unfold AudioRouter.applyEvent AudioRouter.untraced
  dsimp only
  split
  · rfl
  · split
    · rfl
    · split <;> rfl

theorem AudioRouter.drainEvents_blind :
    Run.Blind AudioRouter.untraced AudioRouter.drainEvents :=
  fun router => Run.final_alike AudioRouter.applyEvent_blind router.events _ _ rfl

theorem AudioRouter.updateTimers_blind :
    Run.Blind AudioRouter.untraced AudioRouter.updateTimers := by
  unfold AudioRouter.updateTimers
  apply Run.Blind.ite
  · exact fun _router => Iff.rfl
  · exact AudioRouter.applyEvent_blind .recovered
  · apply Run.Blind.ite
    · exact fun _router => Iff.rfl
    · exact (AudioRouter.applyEvent_blind .armTimeout).comp (fun _router => rfl)
    · apply Run.Blind.ite
      · exact fun _router => Iff.rfl
      · exact (AudioRouter.applyEvent_blind .phoneLost).comp (fun _router => rfl)
      · exact fun _router => rfl

/-- The two buffers on their own. -/
def AudioRouter.withLocal (router : AudioRouter) (localBuf : AudioFrame) : AudioRouter :=
  { router with localBuf := localBuf }

def AudioRouter.withPhone (router : AudioRouter) (phoneBuf : AudioFrame) : AudioRouter :=
  { router with phoneBuf := phoneBuf }

theorem AudioRouter.withLocal_blind (localBuf : AudioFrame) :
    Run.Blind AudioRouter.untraced (fun router => router.withLocal localBuf) :=
  fun _router => rfl

theorem AudioRouter.withPhone_blind (phoneBuf : AudioFrame) :
    Run.Blind AudioRouter.untraced (fun router => router.withPhone phoneBuf) :=
  fun _router => rfl

theorem AudioRouter.readLocal_eq (router : AudioRouter) (holdForGate : Bool)
    (around : Surroundings) :
    router.readLocal holdForGate around =
      (router.fill router.wiring.local_ (router.sm.wantsLocal || holdForGate)
        around.local_).1.withLocal
      (router.fill router.wiring.local_ (router.sm.wantsLocal || holdForGate)
        around.local_).2 := rfl

theorem AudioRouter.readPhone_eq (router : AudioRouter) (holdForGate : Bool)
    (around : Surroundings) :
    router.readPhone holdForGate around =
      (router.fill router.wiring.phone (router.sm.wantsPhone || holdForGate)
        around.phone).1.withPhone
      (router.fill router.wiring.phone (router.sm.wantsPhone || holdForGate)
        around.phone).2 := rfl

theorem AudioRouter.fill_blind (router : AudioRouter) (attached wanted : Bool)
    (read : SourceRead) :
    (router.untraced.fill attached wanted read).1.untraced =
        (router.fill attached wanted read).1.untraced ∧
      (router.untraced.fill attached wanted read).2 = (router.fill attached wanted read).2 := by
  unfold AudioRouter.fill
  split
  · exact ⟨rfl, rfl⟩
  · cases read.status with
    | ok => exact ⟨rfl, rfl⟩
    | underrun => exact ⟨rfl, rfl⟩
    | failed => exact ⟨(AudioRouter.applyEvent_blind .sourceFailure).alike rfl, rfl⟩

theorem AudioRouter.readLocal_blind (holdForGate : Bool) (around : Surroundings) :
    Run.Blind AudioRouter.untraced (fun router => router.readLocal holdForGate around) := by
  intro router
  obtain ⟨next, localBuf⟩ := router.fill_blind router.wiring.local_
    (router.sm.wantsLocal || holdForGate) around.local_
  dsimp only
  rw [AudioRouter.readLocal_eq, AudioRouter.readLocal_eq]
  exact (congrArg _ (congrArg _ localBuf)).trans
    ((AudioRouter.withLocal_blind _).alike next)

theorem AudioRouter.readPhone_blind (holdForGate : Bool) (around : Surroundings) :
    Run.Blind AudioRouter.untraced (fun router => router.readPhone holdForGate around) := by
  intro router
  obtain ⟨next, phoneBuf⟩ := router.fill_blind router.wiring.phone
    (router.sm.wantsPhone || holdForGate) around.phone
  dsimp only
  rw [AudioRouter.readPhone_eq, AudioRouter.readPhone_eq]
  exact (congrArg _ (congrArg _ phoneBuf)).trans
    ((AudioRouter.withPhone_blind _).alike next)

theorem AudioRouter.readSources_blind (around : Surroundings) :
    Run.Blind AudioRouter.untraced (fun router => router.readSources around) := by
  intro router
  exact (AudioRouter.readPhone_blind router.gate.active around).alike
    (AudioRouter.readLocal_blind router.gate.active around router)

/-- The rest of a tick, from the router that `readSources` leaves. -/
def AudioRouter.afterReading (curves : GainCurves) (around : Surroundings)
    (ready : AudioRouter) : AudioRouter :=
  let mixed := ready.mixAndWrite curves
  let produced := { mixed with
    frameIndex := mixed.frameIndex + 1
    framesProduced := mixed.frameIndex + 1 }
  (produced.writeSink around).closeFade

theorem AudioRouter.tick_eq_afterReading (curves : GainCurves) (router : AudioRouter)
    (around : Surroundings) :
    router.tick curves around =
      (router.reading.readSources around).afterReading curves around := rfl

theorem AudioRouter.writeSink_blind (around : Surroundings) :
    Run.Blind AudioRouter.untraced (fun router => router.writeSink around) := by
  unfold AudioRouter.writeSink
  apply Run.Blind.ite
  · exact fun _router => Iff.rfl
  · exact fun _router => rfl
  · exact fun _router => rfl

theorem AudioRouter.closeFade_blind : Run.Blind AudioRouter.untraced AudioRouter.closeFade := by
  unfold AudioRouter.closeFade
  apply Run.Blind.ite
  · exact fun _router => Iff.rfl
  · exact AudioRouter.applyEvent_blind .fadeComplete
  · exact fun _router => rfl

theorem AudioRouter.afterReading_blind (curves : GainCurves) (around : Surroundings) :
    Run.Blind AudioRouter.untraced (AudioRouter.afterReading curves around) := by
  apply AudioRouter.closeFade_blind.comp
  apply (AudioRouter.writeSink_blind around).comp
  exact fun _router => rfl

theorem AudioRouter.step_blind (curves : GainCurves) (input : RouterInput) :
    Run.Blind AudioRouter.untraced (fun router => router.step curves input) := by
  cases input with
  | control call =>
      intro router
      cases call with
      | setMode mode => cases mode <;> rfl
      | startPtt => rfl
      | stopPtt => rfl
      | notifyPhoneReady => rfl
      | notifyPhoneHeartbeat => rfl
      | notifyPhoneGone => rfl
  | tick around =>
      apply (AudioRouter.afterReading_blind curves around).comp
      apply (AudioRouter.readSources_blind around).comp
      exact AudioRouter.updateTimers_blind.comp AudioRouter.drainEvents_blind

/-! ### One read -/

theorem AudioRouter.fill_unasked {router : AudioRouter} {attached wanted : Bool}
    (unasked : (attached && wanted) = false) (read : SourceRead) :
    router.fill attached wanted read = (router, silentFrame) := by
  unfold AudioRouter.fill
  rw [if_pos]
  rcases Bool.and_eq_false_iff.mp unasked with detached | unwanted
  · exact Or.inr detached
  · exact Or.inl unwanted

theorem AudioRouter.fill_zeros (router : AudioRouter) (attached wanted : Bool) :
    router.fill attached wanted underrunOfZeros = (router, silentFrame) := by
  unfold AudioRouter.fill underrunOfZeros
  split <;> rfl

theorem AudioRouter.fill_failed {router : AudioRouter} {attached wanted : Bool}
    {read : SourceRead} (asked : (attached && wanted) = true)
    (failed : read.status = .failed) :
    (router.fill attached wanted read).1.untraced =
        (router.applyEvent .sourceFailure).untraced ∧
      (router.fill attached wanted read).1.state = .errorRecovery ∧
      (router.fill attached wanted read).2 = silentFrame := by
  obtain ⟨isAttached, isWanted⟩ := Bool.and_eq_true_iff.mp asked
  unfold AudioRouter.fill
  rw [isAttached, isWanted, failed, if_neg]
  · exact ⟨(AudioRouter.applyEvent_blind .sourceFailure).alike rfl,
      AudioRouter.sourceFailure_state _, rfl⟩
  · rintro (unwanted | detached)
    · cases unwanted
    · cases detached

/-- In error recovery a further failure leaves its trace and nothing else. -/
theorem AudioRouter.applyEvent_recovering {router : AudioRouter}
    (recovering : router.state = .errorRecovery) :
    (router.applyEvent .sourceFailure).untraced = router.untraced := by
  obtain ⟨config, wiring, ⟨state, mode⟩, rest⟩ := router
  cases recovering
  rfl

theorem AudioRouter.fill_recovering {router : AudioRouter}
    (recovering : router.state = .errorRecovery) (attached wanted : Bool) {read : SourceRead}
    (failed : read.status = .failed) :
    (router.fill attached wanted read).1.untraced = router.untraced ∧
      (router.fill attached wanted read).2 = silentFrame := by
  cases asked : attached && wanted with
  | false =>
      rw [AudioRouter.fill_unasked asked]
      exact ⟨rfl, rfl⟩
  | true =>
      obtain ⟨event, -, silent⟩ := @AudioRouter.fill_failed router _ _ _ asked failed
      exact ⟨event.trans (AudioRouter.applyEvent_recovering recovering), silent⟩

section Reads

variable {router : AudioRouter} {holdForGate : Bool} {around : Surroundings}

theorem AudioRouter.readLocal_unasked
    (unasked : (router.wiring.local_ && (router.sm.wantsLocal || holdForGate)) = false) :
    router.readLocal holdForGate around = router.withLocal silentFrame := by
  rw [AudioRouter.readLocal_eq, AudioRouter.fill_unasked unasked]

theorem AudioRouter.readPhone_unasked
    (unasked : (router.wiring.phone && (router.sm.wantsPhone || holdForGate)) = false) :
    router.readPhone holdForGate around = router.withPhone silentFrame := by
  rw [AudioRouter.readPhone_eq, AudioRouter.fill_unasked unasked]

theorem AudioRouter.readLocal_zeros :
    router.readLocal holdForGate (around.replace underrunOfZeros .local_) =
      router.withLocal silentFrame := by
  rw [AudioRouter.readLocal_eq, Surroundings.replace, AudioRouter.fill_zeros]

theorem AudioRouter.readPhone_zeros :
    router.readPhone holdForGate (around.replace underrunOfZeros .phone) =
      router.withPhone silentFrame := by
  rw [AudioRouter.readPhone_eq, Surroundings.replace, AudioRouter.fill_zeros]

theorem AudioRouter.readLocal_recovering (recovering : router.state = .errorRecovery)
    (failed : around.local_.status = .failed) :
    (router.readLocal holdForGate around).untraced =
      (router.withLocal silentFrame).untraced := by
  obtain ⟨next, silent⟩ := AudioRouter.fill_recovering recovering router.wiring.local_
    (router.sm.wantsLocal || holdForGate) failed
  rw [AudioRouter.readLocal_eq, silent]
  exact (AudioRouter.withLocal_blind silentFrame).alike next

theorem AudioRouter.readPhone_recovering (recovering : router.state = .errorRecovery)
    (failed : around.phone.status = .failed) :
    (router.readPhone holdForGate around).untraced =
      (router.withPhone silentFrame).untraced := by
  obtain ⟨next, silent⟩ := AudioRouter.fill_recovering recovering router.wiring.phone
    (router.sm.wantsPhone || holdForGate) failed
  rw [AudioRouter.readPhone_eq, silent]
  exact (AudioRouter.withPhone_blind silentFrame).alike next

theorem AudioRouter.readLocal_fails
    (asked : (router.wiring.local_ && (router.sm.wantsLocal || holdForGate)) = true)
    (failed : around.local_.status = .failed) :
    (router.readLocal holdForGate around).untraced =
        ((router.applyEvent .sourceFailure).withLocal silentFrame).untraced ∧
      (router.readLocal holdForGate around).state = .errorRecovery := by
  obtain ⟨next, recovering, silent⟩ := @AudioRouter.fill_failed router _ _ _ asked failed
  rw [AudioRouter.readLocal_eq, silent]
  exact ⟨(AudioRouter.withLocal_blind silentFrame).alike next, recovering⟩

theorem AudioRouter.readPhone_fails
    (asked : (router.wiring.phone && (router.sm.wantsPhone || holdForGate)) = true)
    (failed : around.phone.status = .failed) :
    (router.readPhone holdForGate around).untraced =
      ((router.applyEvent .sourceFailure).withPhone silentFrame).untraced := by
  obtain ⟨next, -, silent⟩ := @AudioRouter.fill_failed router _ _ _ asked failed
  rw [AudioRouter.readPhone_eq, silent]
  exact (AudioRouter.withPhone_blind silentFrame).alike next

theorem AudioRouter.readLocal_unasked_phone
    (unasked : (router.wiring.phone && (router.sm.wantsPhone || holdForGate)) = false) :
    ((router.readLocal holdForGate around).wiring.phone &&
      ((router.readLocal holdForGate around).sm.wantsPhone || holdForGate)) = false := by
  have wiring : (router.readLocal holdForGate around).wiring = router.wiring :=
    (AudioRouter.stable_wiring router.wiring).readLocal rfl holdForGate around
  rcases router.readLocal_cases holdForGate around with ⟨localBuf, read⟩ | ⟨recovering, -⟩
  · rw [read]
    exact unasked
  · have unwanted : (router.readLocal holdForGate around).sm.wantsPhone = false := by
      unfold AudioRouter.state at recovering
      unfold SourceStateMachine.wantsPhone
      rw [recovering]
    rw [wiring, unwanted]
    rcases Bool.and_eq_false_iff.mp unasked with detached | neither
    · rw [detached, Bool.false_and]
    · rw [(Bool.or_eq_false_iff.mp neither).2, Bool.or_false, Bool.and_false]

end Reads

/-! ### Both reads -/

theorem AudioRouter.applyEvent_withLocal (router : AudioRouter) (localBuf : AudioFrame)
    (event : Event) :
    (router.withLocal localBuf).applyEvent event =
      (router.applyEvent event).withLocal localBuf := by
  unfold AudioRouter.applyEvent AudioRouter.withLocal
  dsimp only
  split
  · rfl
  · split
    · rfl
    · split <;> rfl

/-- A local failure next to a phone failure adds nothing to it. -/
theorem AudioRouter.readSources_both {router : AudioRouter} {around : Surroundings}
    (localAsked : router.asks .local_ = true) (localFailed : around.local_.status = .failed)
    (phoneAsked : router.asks .phone = true) (phoneFailed : around.phone.status = .failed) :
    (router.readSources around).untraced =
      ((router.withLocal silentFrame).readPhone router.gate.active around).untraced := by
  obtain ⟨next, recovering⟩ := AudioRouter.readLocal_fails localAsked localFailed
  have asked : ((router.withLocal silentFrame).wiring.phone &&
      ((router.withLocal silentFrame).sm.wantsPhone || router.gate.active)) = true := phoneAsked
  calc (router.readSources around).untraced
      = ((router.readLocal router.gate.active around).withPhone silentFrame).untraced :=
        AudioRouter.readPhone_recovering recovering phoneFailed
    _ = (((router.applyEvent .sourceFailure).withLocal silentFrame).withPhone
          silentFrame).untraced :=
        (AudioRouter.withPhone_blind silentFrame).alike next
    _ = (((router.withLocal silentFrame).applyEvent .sourceFailure).withPhone
          silentFrame).untraced := by
        rw [AudioRouter.applyEvent_withLocal]
    _ = ((router.withLocal silentFrame).readPhone router.gate.active around).untraced :=
        (AudioRouter.readPhone_fails asked phoneFailed).symm

/-- A failure that makes no difference leaves what a frame of zeros leaves. -/
theorem AudioRouter.readSources_unseen {router : AudioRouter} {around : Surroundings}
    {side : SourceSide} (failed : (around.source side).status = .failed)
    (unseen : router.asks side = false ∨ router.state = .errorRecovery ∨
      (router.asks side.other = true ∧ (around.source side.other).status = .failed)) :
    (router.readSources around).untraced =
      (router.readSources (around.replace underrunOfZeros side)).untraced := by
  cases side with
  | local_ =>
      have replaced : router.readSources (around.replace underrunOfZeros .local_) =
          (router.withLocal silentFrame).readPhone router.gate.active around :=
        congrArg (fun next : AudioRouter => next.readPhone router.gate.active around)
          AudioRouter.readLocal_zeros
      have unaskedSame : router.asks .local_ = false → router.readSources around =
          (router.withLocal silentFrame).readPhone router.gate.active around :=
        fun unasked => congrArg
          (fun next : AudioRouter => next.readPhone router.gate.active around)
          (AudioRouter.readLocal_unasked unasked)
      rw [replaced]
      rcases unseen with unasked | recovering | ⟨phoneAsked, phoneFailed⟩
      · rw [unaskedSame unasked]
      · exact (AudioRouter.readPhone_blind router.gate.active around).alike
          (AudioRouter.readLocal_recovering recovering failed)
      · cases asked : router.asks .local_ with
        | false => rw [unaskedSame asked]
        | true => exact AudioRouter.readSources_both asked failed phoneAsked phoneFailed
  | phone =>
      have replaced : router.readSources (around.replace underrunOfZeros .phone) =
          (router.readLocal router.gate.active around).withPhone silentFrame :=
        AudioRouter.readPhone_zeros
      rw [replaced]
      rcases unseen with unasked | recovering | ⟨localAsked, localFailed⟩
      · exact congrArg AudioRouter.untraced
          (AudioRouter.readPhone_unasked (AudioRouter.readLocal_unasked_phone unasked))
      · exact AudioRouter.readPhone_recovering (AudioRouter.readLocal_stays recovering) failed
      · exact AudioRouter.readPhone_recovering
          (AudioRouter.readLocal_fails localAsked localFailed).2 failed

/-! ### A failure that is seen -/

theorem AudioRouter.readSources_seen {router : AudioRouter} {around : Surroundings}
    {side : SourceSide} (asked : router.asks side = true)
    (failed : (around.source side).status = .failed) :
    (router.readSources around).state = .errorRecovery := by
  cases side with
  | local_ => exact AudioRouter.readPhone_stays (AudioRouter.readLocal_fails asked failed).2
  | phone =>
      apply AudioRouter.readSources_of_phoneFails
      exact Bool.and_eq_true_iff.mpr ⟨asked, decide_eq_true failed⟩

theorem AudioRouter.readSources_replaced {router : AudioRouter} {around : Surroundings}
    {side : SourceSide}
    (otherwise : ¬ (router.asks side.other = true ∧
      (around.source side.other).status = .failed)) :
    (router.readSources (around.replace underrunOfZeros side)).state = router.state := by
  rcases router.readSources_cases (around.replace underrunOfZeros side) with
    ⟨localBuf, phoneBuf, read⟩ | ⟨-, fails⟩
  · rw [read]
    rfl
  · exfalso
    cases side with
    | local_ =>
        rcases fails with localFails | phoneFails
        · exact SourceStatus.noConfusion
            (of_decide_eq_true (Bool.and_eq_true_iff.mp localFails).2)
        · obtain ⟨asked, failed⟩ := Bool.and_eq_true_iff.mp phoneFails
          exact otherwise ⟨asked, of_decide_eq_true failed⟩
    | phone =>
        rcases fails with localFails | phoneFails
        · obtain ⟨asked, failed⟩ := Bool.and_eq_true_iff.mp localFails
          exact otherwise ⟨asked, of_decide_eq_true failed⟩
        · exact SourceStatus.noConfusion
            (of_decide_eq_true (Bool.and_eq_true_iff.mp phoneFails).2)

theorem AudioRouter.tick_recovering_iff (curves : GainCurves) (router : AudioRouter)
    (around : Surroundings) :
    (router.tick curves around).state = .errorRecovery ↔
      (router.reading.readSources around).state = .errorRecovery := by
  have ready : router.ready around = router.reading.readSources around := rfl
  obtain ⟨written, mixed, closes⟩ := AudioRouter.tick_cases curves router around
  rw [ready] at mixed
  rcases closes with ⟨same, -⟩ | ⟨closed, returning⟩
  · rw [same, mixed.state]
  · rw [closed, AudioRouter.fadeComplete_state returning, ← mixed.state, returning]
    exact ⟨SourceState.noConfusion, SourceState.noConfusion⟩

theorem AudioRouter.failure_seen (curves : GainCurves) {router : AudioRouter}
    {around : Surroundings} {side : SourceSide}
    (failed : (around.source side).status = .failed)
    (seen : ¬ router.FailureUnseen around side) :
    (router.tick curves around).sm ≠
      (router.tick curves (around.replace underrunOfZeros side)).sm := by
  have asked : router.reading.asks side = true := by
    by_contra unasked
    exact seen (Or.inl (Bool.eq_false_of_not_eq_true unasked))
  have calm : router.reading.state ≠ .errorRecovery :=
    fun recovering => seen (Or.inr (Or.inl recovering))
  intro same
  have recovering := (AudioRouter.tick_recovering_iff curves router around).mpr
    (AudioRouter.readSources_seen asked failed)
  have replaced := (AudioRouter.tick_recovering_iff curves router
    (around.replace underrunOfZeros side)).mp
    ((congrArg SourceStateMachine.state same).symm.trans recovering)
  rw [AudioRouter.readSources_replaced (fun other => seen (Or.inr (Or.inr other)))] at replaced
  exact calm replaced

/-- A failure that is not seen leaves both runs alike for good. -/
theorem AudioRouter.failure_unseen (curves : GainCurves) {router : AudioRouter}
    {around : Surroundings} {side : SourceSide}
    (failed : (around.source side).status = .failed) (unseen : router.FailureUnseen around side)
    (later : List RouterInput) :
    (Run.final (AudioRouter.step curves) (router.tick curves around) later).untraced =
      (Run.final (AudioRouter.step curves)
        (router.tick curves (around.replace underrunOfZeros side)) later).untraced := by
  apply Run.final_alike (AudioRouter.step_blind curves) later
  have rest : AudioRouter.afterReading curves (around.replace underrunOfZeros side) =
      AudioRouter.afterReading curves around := by
    cases side <;> rfl
  rw [AudioRouter.tick_eq_afterReading, AudioRouter.tick_eq_afterReading, rest]
  exact (AudioRouter.afterReading_blind curves around).alike
    (AudioRouter.readSources_unseen failed unseen)

/-- Of every router, reachable or not, and for either source: the failure of a source
that nobody hears changes nothing, now or later, exactly when it makes no difference
that it is reported. -/
theorem source_failure_isolated_iff (curves : GainCurves) (router : AudioRouter)
    (around : Surroundings) (side : SourceSide) :
    router.FailureIsolated curves around side ↔
      (router.Inaudible curves side → (around.source side).status = .failed →
        router.FailureUnseen around side) := by
  constructor
  · intro isolated inaudible failed
    by_contra seen
    exact AudioRouter.failure_seen curves failed seen (isolated inaudible failed []).1
  · intro condition inaudible failed later
    have alike := AudioRouter.failure_unseen curves failed (condition inaudible failed) later
    have machine := congrArg AudioRouter.sm alike
    have samples := congrArg AudioRouter.outBuf alike
    exact ⟨machine, samples⟩

def answeredRouter : AudioRouter :=
  Run.final (AudioRouter.step linearCurves) (AudioRouter.initial {} fullyWired)
    [.control .startPtt, .control .notifyPhoneReady, .tick quietRoom]

def talkingRouter : AudioRouter :=
  Run.final (AudioRouter.step linearCurves) answeredRouter [.tick quietRoom]

def deadLocal : Surroundings :=
  { local_ := { status := .failed, samples := silentFrame }
    phone := { status := .ok, samples := silentFrame }
    sinkAccepts := true }

theorem talkingRouter_settled :
    talkingRouter.reading.fade.remaining = 0 ∧ talkingRouter.reading.fade.position = 1 := by
  have first : answeredRouter.Sound := AudioRouter.sound_final linearCurves {} fullyWired _
  have sound : talkingRouter.reading.Sound :=
    AudioRouter.stable_sound.updateTimers (AudioRouter.stable_sound.drainEvents
      (first.tick linearCurves quietRoom))
  have settled : talkingRouter.fade.remaining = 0 := by
    apply (first.rest_after linearCurves _ _).1
    · decide +kernel
    · decide +kernel
  have since := AudioRouter.stable_sameSince talkingRouter
  obtain ⟨-, kept, -⟩ := (since.updateTimers (since.drainEvents
    talkingRouter.sameSince_refl)).2 (by decide +kernel)
  have rest : talkingRouter.reading.fade.remaining = 0 := by
    unfold AudioRouter.reading
    rw [kept]
    exact settled
  refine ⟨rest, ?_⟩
  rw [sound.fadeSound.rests rest]
  exact sound.fadeHeads 1 (by decide +kernel)

/-- While the phone talks the local source is kept warm and cannot be heard, yet its
failure takes the router out of `PHONE_ACTIVE`. -/
theorem local_failure_ends_talk :
    ¬ talkingRouter.FailureIsolated linearCurves deadLocal .local_ := by
  obtain ⟨rest, position⟩ := talkingRouter_settled
  have inaudible : talkingRouter.Inaudible linearCurves .local_ := by
    intro index _inside
    have gone : (talkingRouter.reading.fade.gainsAt linearCurves index).gain .local_ = 0 := by
      change linearCurves.cosine (Ramp.advance^[index + 1] talkingRouter.reading.fade).position = 0
      rw [Ramp.iterate_of_rest rest, position]
      exact sub_self (1 : Sample)
    rw [gone, zero_mul]
  intro isolated
  have seen : ¬ talkingRouter.FailureUnseen deadLocal .local_ := by
    rintro (unasked | recovering | ⟨-, failed⟩)
    · exact absurd unasked (by decide +kernel)
    · exact absurd recovering (by decide +kernel)
    · exact SourceStatus.noConfusion failed
  have same := (isolated inaudible rfl []).1
  rw [Run.final_nil, Run.final_nil] at same
  exact AudioRouter.failure_seen linearCurves rfl seen same

end SmartMic.Audio
