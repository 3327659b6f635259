import SmartMic.Apps.PhoneRuntime
import SmartMic.Session.StandIn
import SmartMic.Support.Run

set_option autoImplicit false

/-! The two timeouts of the phone, with the worker's round taken apart: it samples the
clock, sees whether the phone is authenticated, looks at an arming that hangs and then at
a release that hangs. Every other thread may run in between.

The clock is a number of milliseconds that grows and that 64 bits hold. -/

namespace SmartMic.Apps

open SmartMic.Protocol SmartMic.Security SmartMic.Session

/-- Where the worker is in its round, with the time it sampled. -/
inductive WorkerPhase where
  | top
  | sampled (t : BitVec 64)
  | arming (t : BitVec 64)
  | releasing (t : BitVec 64)
  deriving DecidableEq

/-- The shared variables, the worker and the clock. The last two members are history: when
the latest press was taken up, and when `sm_phone_release` was last called. -/
structure TimedPhone where
  phone : PhoneState
  worker : WorkerPhase
  lastPing : BitVec 64
  clock : BitVec 64
  pressTime : BitVec 64
  releaseTime : BitVec 64

inductive TimedInput where
  | elapse (milliseconds : BitVec 64)
  | worker
  | press
  | release
  | control (message : Message)
  | stateChanged (state : SessionState)
  | takeHaptic

namespace TimedPhone

def start (clock : BitVec 64) : TimedPhone :=
  { phone := PhoneState.initial
    worker := .top
    lastPing := 0#64
    clock := clock
    pressTime := clock
    releaseTime := clock }

def work (timed : TimedPhone) : TimedPhone :=
  match timed.worker with
  | .top => { timed with worker := .sampled timed.clock }
  | .sampled t =>
      if timed.phone.connState ≠ .authenticated then { timed with worker := .top }
      else if 1000#64 < t - timed.lastPing then
        { timed with
          phone := { timed.phone with pingSentMs := t }
          lastPing := t
          worker := .arming t }
      else { timed with worker := .arming t }
  | .arming t => { timed with phone := timed.phone.checkArming t, worker := .releasing t }
  | .releasing t => { timed with phone := timed.phone.checkReleasing t, worker := .top }

/-- An exception in a handler ends the process; the step then changes nothing. -/
def step (library : JsonLibrary) (timed : TimedPhone) : TimedInput → TimedPhone
  | .elapse milliseconds => { timed with clock := timed.clock + milliseconds }
  | .worker => timed.work
  | .press =>
      { timed with
        phone := (timed.phone.press timed.clock).1
        pressTime :=
          if timed.phone.connState = .authenticated ∧ timed.phone.pressed = false then timed.clock
          else timed.pressTime }
  | .release =>
      { timed with phone := (timed.phone.release timed.clock).1, releaseTime := timed.clock }
  | .control message =>
      { timed with
        phone := (timed.phone.onControl library timed.clock message).getD timed.phone }
  | .stateChanged state => { timed with phone := timed.phone.onStateChanged state }
  | .takeHaptic => { timed with phone := timed.phone.takeHaptic.2 }

/-- The clock does not run over. -/
def Monotone (timed : TimedPhone) : TimedInput → Prop
  | .elapse milliseconds => timed.clock.toNat + milliseconds.toNat < 2 ^ 64
  | _ => True

/-- A timeout that fires in this step fires after its time. -/
def OnTime (library : JsonLibrary) (timed : TimedPhone) : TimedInput → Prop
  | .worker =>
      match timed.worker with
      | .arming _ =>
          timed.phone.pttState = .connecting →
            (timed.step library .worker).phone.pttState = .failed →
            timed.pressTime.toNat + 1500 < timed.clock.toNat
      | .releasing _ =>
          timed.phone.pttState = .releasing →
            (timed.step library .worker).phone.pttState = .ready →
            timed.releaseTime.toNat + 800 < timed.clock.toNat
      | _ => True
  | _ => True

/-- A sample that is not older than the stored time, or a timeout that has passed anyway.
A sample that is older by almost the whole range of the clock does no harm either. -/
def Settled (t stored clock limit : BitVec 64) : Prop :=
  stored ≤ t ∨ stored.toNat + limit.toNat < clock.toNat ∨
    t.toNat + 2 ^ 64 ≤ stored.toNat + limit.toNat

def Fresh (timed : TimedPhone) : TimedInput → Prop
  | .worker =>
      match timed.worker with
      | .arming t =>
          timed.phone.pttState = .connecting →
            Settled t timed.phone.pressedAtMs timed.clock kArmTimeoutMs
      | .releasing t =>
          timed.phone.pttState = .releasing →
            Settled t timed.phone.releasedAtMs timed.clock kReleaseTimeoutMs
      | _ => True
  | _ => True

instance (t stored clock limit : BitVec 64) : Decidable (Settled t stored clock limit) :=
  inferInstanceAs (Decidable (_ ∨ _))

instance (timed : TimedPhone) (input : TimedInput) : Decidable (timed.Monotone input) := by
  cases input <;> unfold Monotone <;> infer_instance

instance (timed : TimedPhone) (input : TimedInput) : Decidable (timed.Fresh input) := by
  cases input <;> unfold Fresh <;> try infer_instance
  cases timed.worker <;> infer_instance

/-! ### What the phone keeps -/

/-- No time is later than the clock, and the phone has stored the press it is arming and
the latest release. -/
structure Dated (timed : TimedPhone) : Prop where
  press : timed.pressTime ≤ timed.clock
  release : timed.releaseTime ≤ timed.clock
  sample : ∀ t, timed.worker = .sampled t ∨ timed.worker = .arming t ∨
    timed.worker = .releasing t → t ≤ timed.clock
  armed : timed.phone.pttState = .connecting → timed.phone.pressedAtMs = timed.pressTime
  released : timed.phone.pttState = .releasing → timed.phone.releasedAtMs = timed.releaseTime

end TimedPhone

/-- A change to the phone that starts neither an arming nor a release. -/
structure PhoneState.Untimed (phone after : PhoneState) : Prop where
  connecting : after.pttState = .connecting →
    phone.pttState = .connecting ∧ after.pressedAtMs = phone.pressedAtMs
  releasing : after.pttState = .releasing →
    phone.pttState = .releasing ∧ after.releasedAtMs = phone.releasedAtMs

namespace PhoneState

variable {phone : PhoneState}

theorem Untimed.refl (phone : PhoneState) : phone.Untimed phone :=
  { connecting := fun same => ⟨same, rfl⟩, releasing := fun same => ⟨same, rfl⟩ }

theorem untimed_of_ne {after : PhoneState} (connecting : after.pttState ≠ .connecting)
    (releasing : after.pttState ≠ .releasing) : phone.Untimed after :=
  { connecting := fun impossible => absurd impossible connecting
    releasing := fun impossible => absurd impossible releasing }

theorem untimed_of_same {after : PhoneState} (pttState : after.pttState = phone.pttState)
    (pressed : after.pressedAtMs = phone.pressedAtMs)
    (released : after.releasedAtMs = phone.releasedAtMs) : phone.Untimed after :=
  { connecting := fun state => ⟨pttState ▸ state, pressed⟩
    releasing := fun state => ⟨pttState ▸ state, released⟩ }

theorem untimed_onControl {library : JsonLibrary} {nowMs : BitVec 64} {message : Message}
    {after : PhoneState} (handled : phone.onControl library nowMs message = some after) :
    phone.Untimed after := by
  unfold PhoneState.onControl at handled
  split at handled
  · obtain rfl := Option.some.inj handled
    unfold PhoneState.onPttReady
    split
    · exact untimed_of_ne PttState.noConfusion PttState.noConfusion
    · exact Untimed.refl phone
  · obtain rfl := Option.some.inj handled
    exact untimed_of_ne PttState.noConfusion PttState.noConfusion
  · obtain rfl := Option.some.inj handled
    unfold PhoneState.onPong
    split
    · exact untimed_of_same rfl rfl rfl
    · exact Untimed.refl phone
  · split at handled
    · obtain rfl := Option.some.inj handled
      exact untimed_of_same rfl rfl rfl
    · cases handled
  · split at handled
    · split at handled
      · obtain rfl := Option.some.inj handled
        exact untimed_of_same rfl rfl rfl
      · cases handled
    · cases handled
  · obtain rfl := Option.some.inj handled
    exact Untimed.refl phone

theorem untimed_onStateChanged (phone : PhoneState) (state : SessionState) :
    phone.Untimed (phone.onStateChanged state) := by
  cases state <;> exact untimed_of_same rfl rfl rfl

theorem untimed_checkArming (phone : PhoneState) (now : BitVec 64) :
    phone.Untimed (phone.checkArming now) := by
  unfold PhoneState.checkArming
  split
  · exact untimed_of_ne PttState.noConfusion PttState.noConfusion
  · exact Untimed.refl phone

theorem untimed_checkReleasing (phone : PhoneState) (now : BitVec 64) :
    phone.Untimed (phone.checkReleasing now) := by
  unfold PhoneState.checkReleasing
  split
  · exact untimed_of_ne PttState.noConfusion PttState.noConfusion
  · exact Untimed.refl phone

end PhoneState

theorem PhoneState.checkArming_failed {phone : PhoneState}
    (connecting : phone.pttState = .connecting)
    (now : BitVec 64) :
    (phone.checkArming now).pttState = .failed ↔ kArmTimeoutMs < now - phone.pressedAtMs := by
  unfold PhoneState.checkArming
  by_cases expired : kArmTimeoutMs < now - phone.pressedAtMs
  · rw [if_pos ⟨connecting, expired⟩]
    exact ⟨fun _ => expired, fun _ => rfl⟩
  · rw [if_neg (fun both => expired both.2), connecting]
    exact ⟨fun impossible => PttState.noConfusion impossible, fun above => absurd above expired⟩

theorem PhoneState.checkReleasing_ready {phone : PhoneState}
    (releasing : phone.pttState = .releasing) (now : BitVec 64) :
    (phone.checkReleasing now).pttState = .ready ↔
      kReleaseTimeoutMs < now - phone.releasedAtMs := by
  unfold PhoneState.checkReleasing
  by_cases expired : kReleaseTimeoutMs < now - phone.releasedAtMs
  · rw [if_pos ⟨releasing, expired⟩]
    exact ⟨fun _ => expired, fun _ => rfl⟩
  · rw [if_neg (fun both => expired both.2), releasing]
    exact ⟨fun impossible => PttState.noConfusion impossible, fun above => absurd above expired⟩

namespace TimedPhone

variable {library : JsonLibrary} {timed : TimedPhone}

theorem start_dated (clock : BitVec 64) : (start clock).Dated :=
  { press := BitVec.le_refl _
    release := BitVec.le_refl _
    sample := by rintro t (impossible | impossible | impossible) <;> cases impossible
    armed := fun impossible => PttState.noConfusion impossible
    released := fun impossible => PttState.noConfusion impossible }

theorem Dated.onward (dated : timed.Dated) {phone : PhoneState} {worker : WorkerPhase}
    {lastPing : BitVec 64} (untimed : timed.phone.Untimed phone)
    (sample : ∀ t, worker = .sampled t ∨ worker = .arming t ∨ worker = .releasing t →
      t ≤ timed.clock) :
    Dated { timed with phone := phone, worker := worker, lastPing := lastPing } where
  press := dated.press
  release := dated.release
  sample := sample
  armed := fun connecting => by
    obtain ⟨before, same⟩ := untimed.connecting connecting
    exact same.trans (dated.armed before)
  released := fun releasing => by
    obtain ⟨before, same⟩ := untimed.releasing releasing
    exact same.trans (dated.released before)

theorem Dated.untimed (dated : timed.Dated) {phone : PhoneState}
    (untimed : timed.phone.Untimed phone) : Dated { timed with phone := phone } :=
  dated.onward untimed dated.sample

theorem Dated.elapse (dated : timed.Dated) {milliseconds : BitVec 64}
    (monotone : timed.clock.toNat + milliseconds.toNat < 2 ^ 64) :
    (timed.step library (.elapse milliseconds)).Dated := by
  have later : timed.clock ≤ timed.clock + milliseconds := by bv_omega
  exact
    { press := BitVec.le_trans dated.press later
      release := BitVec.le_trans dated.release later
      sample := fun t phase => BitVec.le_trans (dated.sample t phase) later
      armed := dated.armed
      released := dated.released }

theorem Dated.work (dated : timed.Dated) : timed.work.Dated := by
  have sample := dated.sample
  unfold TimedPhone.work
  split
  · refine dated.onward (PhoneState.Untimed.refl _) ?_
    rintro t (phase | phase | phase) <;> cases phase
    exact BitVec.le_refl _
  · rename_i t phase
    have old : t ≤ timed.clock := sample t (Or.inl phase)
    have arming : ∀ later, WorkerPhase.arming t = .sampled later ∨
        WorkerPhase.arming t = .arming later ∨ WorkerPhase.arming t = .releasing later →
        later ≤ timed.clock := by
      rintro later (next | next | next) <;> cases next
      exact old
    split
    · refine dated.onward (PhoneState.Untimed.refl _) ?_
      rintro later (next | next | next) <;> cases next
    · split
      · exact dated.onward
          { connecting := fun same => ⟨same, rfl⟩, releasing := fun same => ⟨same, rfl⟩ } arming
      · exact dated.onward (PhoneState.Untimed.refl _) arming
  · rename_i t phase
    have old : t ≤ timed.clock := sample t (Or.inr (Or.inl phase))
    refine dated.onward (timed.phone.untimed_checkArming t) ?_
    rintro later (next | next | next) <;> cases next
    exact old
  · rename_i t phase
    refine dated.onward (timed.phone.untimed_checkReleasing t) ?_
    rintro later (next | next | next) <;> cases next

theorem Dated.pressed (dated : timed.Dated) : (timed.step library .press).Dated := by
  simp only [TimedPhone.step, PhoneState.press]
  by_cases connected : timed.phone.connState = .authenticated
  · cases down : timed.phone.pressed with
    | true =>
        rw [if_neg (not_not.mpr connected), if_pos rfl,
          if_neg (fun both => Bool.noConfusion both.2)]
        exact dated
    | false =>
        rw [if_neg (not_not.mpr connected), if_neg Bool.noConfusion, if_pos ⟨connected, rfl⟩]
        exact
          { press := BitVec.le_refl _
            release := dated.release
            sample := dated.sample
            armed := fun _ => rfl
            released := fun impossible => PttState.noConfusion impossible }
  · rw [if_pos connected, if_neg (fun both => connected both.1)]
    exact dated

theorem Dated.letGo (dated : timed.Dated) : (timed.step library .release).Dated := by
  simp only [TimedPhone.step, PhoneState.release]
  by_cases connected : timed.phone.connState = .authenticated
  · rw [if_neg (not_not.mpr connected)]
    exact
      { press := dated.press
        release := BitVec.le_refl _
        sample := dated.sample
        armed := by
          dsimp only
          split
          · exact fun impossible => PttState.noConfusion impossible
          · rename_i ready
            rw [not_not.mp ready]
            exact fun impossible => PttState.noConfusion impossible
        released := fun _ => rfl }
  · rw [if_pos connected]
    exact
      { press := dated.press
        release := BitVec.le_refl _
        sample := dated.sample
        armed := fun impossible => PttState.noConfusion impossible
        released := fun impossible => PttState.noConfusion impossible }

theorem Dated.step (dated : timed.Dated) {input : TimedInput} (monotone : timed.Monotone input) :
    (timed.step library input).Dated := by
  cases input with
  | elapse milliseconds => exact dated.elapse monotone
  | worker => exact dated.work
  | press => exact dated.pressed
  | release => exact dated.letGo
  | control message =>
      simp only [TimedPhone.step]
      cases handled : timed.phone.onControl library timed.clock message with
      | none => exact dated
      | some after => exact dated.untimed (PhoneState.untimed_onControl handled)
  | stateChanged state => exact dated.untimed (timed.phone.untimed_onStateChanged state)
  | takeHaptic => exact dated.untimed (PhoneState.untimed_of_same rfl rfl rfl)

theorem round_eq_workerCheck {Encoder : Type} (sodium : Sodium) (stamp : Stamp)
    (handle : SmPhone Encoder) (top : timed.worker = .top) (state : handle.state = timed.phone)
    (ping : handle.lastPing = timed.lastPing) :
    (Run.final (step library) timed (List.replicate 4 .worker)).phone =
      (handle.workerCheck sodium library stamp timed.clock).phone.state := by
  have retried : (handle.retryPairing timed.clock).phone.state = timed.phone ∧
      (handle.retryPairing timed.clock).phone.lastPing = timed.lastPing := by
    unfold SmPhone.retryPairing
    split
    · exact ⟨state, ping⟩
    · exact ⟨state, ping⟩
  simp only [List.replicate_succ, List.replicate_zero, Run.final_cons, Run.final_nil,
    TimedPhone.step]
  unfold SmPhone.workerCheck
  dsimp only
  rw [retried.1]
  have sampled : timed.work = { timed with worker := .sampled timed.clock } := by
    simp only [TimedPhone.work, top]
  rw [sampled]
  by_cases connected : timed.phone.connState = .authenticated
  · rw [if_neg (not_not.mpr connected)]
    unfold SmPhone.ping
    rw [retried.1, retried.2]
    by_cases due : 1000#64 < timed.clock - timed.lastPing
    · rw [if_pos due]
      simp only [TimedPhone.work, connected, due, ne_eq, not_true_eq_false, if_true, if_false]
      rfl
    · rw [if_neg due, retried.1]
      simp only [TimedPhone.work, connected, due, ne_eq, not_true_eq_false, if_false]
  · rw [if_pos connected, retried.1]
    simp only [TimedPhone.work, if_pos connected, ne_eq]

/-! ### When a timeout is early -/

/-- The unsigned difference passes the limit in time exactly for a settled sample. -/
theorem settled_iff {t stored clock : BitVec 64} (limit : BitVec 64) (sampled : t ≤ clock) :
    (limit < t - stored → stored.toNat + limit.toNat < clock.toNat) ↔
      Settled t stored clock limit := by
  unfold Settled
  by_cases ordered : stored ≤ t
  · refine ⟨fun _ => Or.inl ordered, fun _ above => ?_⟩
    bv_omega
  · have older := BitVec.not_le.mp ordered
    constructor
    · intro timely
      by_cases above : limit < t - stored
      · exact Or.inr (Or.inl (timely above))
      · refine Or.inr (Or.inr ?_)
        bv_omega
    · rintro (newer | passed | ages) above
      · exact absurd newer ordered
      · exact passed
      · bv_omega

theorem arming_iff (dated : timed.Dated) {t : BitVec 64} (phase : timed.worker = .arming t)
    (connecting : timed.phone.pttState = .connecting) :
    ((timed.step library .worker).phone.pttState = .failed →
        timed.pressTime.toNat + 1500 < timed.clock.toNat) ↔
      Settled t timed.phone.pressedAtMs timed.clock kArmTimeoutMs := by
  have checked : (timed.step library .worker).phone = timed.phone.checkArming t := by
    simp only [TimedPhone.step, TimedPhone.work, phase]
  rw [checked, PhoneState.checkArming_failed connecting, ← dated.armed connecting]
  exact settled_iff kArmTimeoutMs (dated.sample t (Or.inr (Or.inl phase)))

theorem releasing_iff (dated : timed.Dated) {t : BitVec 64}
    (phase : timed.worker = .releasing t) (releasing : timed.phone.pttState = .releasing) :
    ((timed.step library .worker).phone.pttState = .ready →
        timed.releaseTime.toNat + 800 < timed.clock.toNat) ↔
      Settled t timed.phone.releasedAtMs timed.clock kReleaseTimeoutMs := by
  have checked : (timed.step library .worker).phone = timed.phone.checkReleasing t := by
    simp only [TimedPhone.step, TimedPhone.work, phase]
  rw [checked, PhoneState.checkReleasing_ready releasing, ← dated.released releasing]
  exact settled_iff kReleaseTimeoutMs (dated.sample t (Or.inr (Or.inr phase)))

theorem onTime_iff_fresh (dated : timed.Dated) (input : TimedInput) :
    timed.OnTime library input ↔ timed.Fresh input := by
  cases input with
  | worker =>
      unfold OnTime Fresh
      cases phase : timed.worker with
      | arming t => exact forall_congr' fun connecting => arming_iff dated phase connecting
      | releasing t => exact forall_congr' fun releasing => releasing_iff dated phase releasing
      | _ => exact Iff.rfl
  | _ => exact Iff.rfl

/-- Over every interleaving the timeouts fire in time exactly if their samples are settled. -/
theorem timeouts_on_time_iff (library : JsonLibrary) (clock : BitVec 64)
    (inputs : List TimedInput)
    (monotone : Run.Meets (step library) Monotone (start clock) inputs) :
    Run.Meets (step library) (OnTime library) (start clock) inputs ↔
      Run.Meets (step library) Fresh (start clock) inputs := by
  constructor
  · intro onTime
    exact Run.meets_of_invariant Dated
      (fun _timed input dated both => (onTime_iff_fresh dated input).mp both.2)
      (fun _timed _input dated both => dated.step both.1) inputs _ (start_dated clock)
      (Run.meets_and.mpr ⟨monotone, onTime⟩)
  · intro fresh
    exact Run.meets_of_invariant Dated
      (fun _timed input dated both => (onTime_iff_fresh dated input).mpr both.2)
      (fun _timed _input dated both => dated.step both.1) inputs _ (start_dated clock)
      (Run.meets_and.mpr ⟨monotone, fresh⟩)

def unansweredPress : List TimedInput :=
  [.stateChanged .authenticated, .elapse 1000#64, .press, .elapse 1600#64, .worker, .elapse 1#64,
    .worker, .worker]

theorem unansweredPress_on_time :
    Run.Meets (step StandIn.json) (OnTime StandIn.json) (start 0#64) unansweredPress :=
  (timeouts_on_time_iff StandIn.json 0#64 unansweredPress (by decide +kernel)).mpr
    (by decide +kernel)

/-- The worker samples the clock, a press follows a millisecond later, and the worker goes
on to its checks. -/
def pressAfterSample : List TimedInput :=
  [.stateChanged .authenticated, .elapse 1000#64, .worker, .elapse 1#64, .press, .worker, .worker]

def releaseAfterSample : List TimedInput :=
  [.stateChanged .authenticated, .elapse 1000#64, .press, .worker, .elapse 1#64, .release, .worker,
    .worker, .worker]

/-- Both timeouts fire in the millisecond of the press and of the release. -/
theorem timeouts_fire_early :
    (Run.Meets (step StandIn.json) Monotone (start 0#64) pressAfterSample ∧
      ¬ Run.Meets (step StandIn.json) (OnTime StandIn.json) (start 0#64) pressAfterSample) ∧
    (Run.Meets (step StandIn.json) Monotone (start 0#64) releaseAfterSample ∧
      ¬ Run.Meets (step StandIn.json) (OnTime StandIn.json) (start 0#64) releaseAfterSample) := by
  refine ⟨⟨by decide +kernel, ?_⟩, by decide +kernel, ?_⟩
  · rintro ⟨-, -, -, -, -, -, arming, -⟩
    exact absurd (arming rfl (by decide +kernel)) (by decide +kernel)
  · rintro ⟨-, -, -, -, -, -, -, -, releasing, -⟩
    exact absurd (releasing rfl (by decide +kernel)) (by decide +kernel)

end TimedPhone

end SmartMic.Apps
