import SmartMic.Apps.Service
import SmartMic.Media.JitterRecovery

set_option autoImplicit false

/-! Whose audio makes the service announce PTT_READY. Beside the service stand the
packets stored since the last START_PTT and those it found in the buffer; the buffer
itself does not tell them apart, and only a marker packet empties it. -/

namespace SmartMic.Apps

open SmartMic.Protocol SmartMic.Media SmartMic.Audio

/-- The payload is well formed and opens a new talk spurt. -/
def opensSpurt (data : Bytes) : Bool :=
  match readHeader data with
  | some header => header.marker && decide (data.drop mediaHeaderBytes ≠ [])
  | none => false

inductive ServiceInput where
  | media (nowMs : BitVec 64) (data : Bytes)
  | control (localSourceName : Bytes) (message : Message)
  | loop (room : Room)

structure Talk (Decoder : Type) where
  service : Service Decoder
  /-- Packets that the last START_PTT found in the buffer and that are still there. -/
  leftover : List Seq
  /-- Packets stored after it. -/
  since : List Seq
  /-- An exception has ended the process. -/
  ended : Bool

section

variable {Decoder : Type}

def Service.queue (service : Service Decoder) : Queue := service.phoneSource.buffer.queue

def Talk.open_ (service : Service Decoder) : Talk Decoder :=
  { service := service
    leftover := service.queue.keys
    since := []
    ended := false }

def Talk.onMedia (talk : Talk Decoder) (nowMs : BitVec 64) (data : Bytes) : Talk Decoder :=
  let next := talk.service.onMedia nowMs data
  { talk with
    service := next
    leftover :=
      if opensSpurt data then [] else talk.leftover.filter fun seq => seq ∈ next.queue
    since :=
      (next.queue.keys.filter fun seq => opensSpurt data ∨ seq ∉ talk.service.queue) ++
        talk.since }

def Talk.onControl (talk : Talk Decoder) (localSourceName : Bytes) (message : Message) :
    Talk Decoder :=
  match talk.service.onControl localSourceName message with
  | none => { talk with ended := true }
  | some (next, _) =>
      if message.type = .startPtt then
        { talk with service := next, leftover := next.queue.keys, since := [] }
      else { talk with service := next }

def Talk.loop (curves : GainCurves) (opus : OpusLibrary Decoder) (talk : Talk Decoder)
    (room : Room) : Talk Decoder :=
  let next := (talk.service.loop curves opus room).1
  { talk with
    service := next
    leftover := talk.leftover.filter fun seq => seq ∈ next.queue }

def Talk.step (curves : GainCurves) (opus : OpusLibrary Decoder) (talk : Talk Decoder)
    (input : ServiceInput) : Talk Decoder :=
  if talk.ended then talk
  else
    match input with
    | .media nowMs data => talk.onMedia nowMs data
    | .control localSourceName message => talk.onControl localSourceName message
    | .loop room => talk.loop curves opus room

/-- The depth of the packets stored since the last START_PTT, in milliseconds. -/
def Talk.freshMs (talk : Talk Decoder) : Nat :=
  (talk.service.queue.keys.filter fun seq => seq ∈ talk.since).length * kFrameMillis

/-- If the loop announces PTT_READY now, enough of the buffer belongs to this press. -/
def Talk.Grounded (talk : Talk Decoder) : Prop :=
  talk.service.announces = true →
    talk.service.phoneSource.buffer.cfg.prefillMs.toNat ≤ talk.freshMs

/-- A round that announces finds none of the packets that START_PTT found. -/
def Talk.NoLeftover (talk : Talk Decoder) : ServiceInput → Prop
  | .loop _ => talk.service.announces = true → talk.leftover = []
  | _ => True

/-- Every packet in the buffer is left over or was stored since. -/
def Talk.Sorted (talk : Talk Decoder) : Prop :=
  ∀ seq ∈ talk.service.queue, seq ∈ talk.leftover ∨ seq ∈ talk.since

/-! ### What the steps keep -/

variable {curves : GainCurves} {opus : OpusLibrary Decoder}

theorem readPhoneSource_queue (source : PhoneMediaSource Decoder) {seq : Seq}
    (member : seq ∈ (readPhoneSource opus source).2.buffer.queue) :
    seq ∈ source.buffer.queue := by
  unfold readPhoneSource at member
  split at member
  · exact member
  · change seq ∈ (source.buffer.pop opus source.decoder kFrameSamples).buffer.queue at member
    rcases source.buffer.pop_cases opus source.decoder kFrameSamples with
      ⟨-, same, -⟩ | ⟨-, -, -, skipped, -⟩ | ⟨-, -, entry, -, served, -⟩
    · rw [same] at member
      exact member
    · rw [skipped] at member
      exact member
    · rw [served] at member
      exact Std.ExtTreeMap.mem_of_mem_erase member

theorem Service.loop_queue (service : Service Decoder) (room : Room) {seq : Seq}
    (member : seq ∈ (service.loop curves opus room).1.queue) : seq ∈ service.queue := by
  have announced : ∀ nowUnixMs, (service.announce nowUnixMs).1.queue = service.queue := by
    intro nowUnixMs
    unfold Service.announce Service.queue
    split <;> dsimp only
  rw [← announced room.nowUnixMs]
  unfold Service.loop Service.tick Service.queue at member
  dsimp only at member
  split at member
  · exact member
  · exact readPhoneSource_queue _ member

theorem Service.onControl_queue {service next : Service Decoder} {localSourceName : Bytes}
    {message : Message} {commands : List Command}
    (handled : service.onControl localSourceName message = some (next, commands)) :
    next.queue = service.queue := by
  unfold Service.onControl Service.startPtt Service.stopPtt at handled
  unfold Service.queue
  repeat' split at handled
  all_goals cases handled <;> dsimp only

theorem Talk.Sorted.step {talk : Talk Decoder} (sorted : talk.Sorted) (input : ServiceInput) :
    (talk.step curves opus input).Sorted := by
  unfold Talk.step
  split
  · exact sorted
  · cases input with
    | media nowMs data =>
        intro seq member
        change seq ∈ (talk.service.onMedia nowMs data).queue at member
        by_cases stored : opensSpurt data = true ∨ seq ∉ talk.service.queue
        · right
          apply List.mem_append_left
          rw [List.mem_filter]
          exact ⟨Std.ExtTreeMap.mem_keys.mpr member, decide_eq_true stored⟩
        · rw [not_or, not_not] at stored
          rcases sorted seq stored.2 with left | since
          · left
            change seq ∈ if opensSpurt data then [] else talk.leftover.filter _
            rw [if_neg stored.1, List.mem_filter]
            exact ⟨left, decide_eq_true member⟩
          · exact Or.inr (List.mem_append_right _ since)
    | control localSourceName message =>
        dsimp only
        unfold Talk.onControl
        split
        · exact sorted
        · rename_i next commands handled
          split
          · intro seq member
            exact Or.inl (Std.ExtTreeMap.mem_keys.mpr member)
          · intro seq member
            change seq ∈ next.queue at member
            rw [Service.onControl_queue handled] at member
            exact sorted seq member
    | loop room =>
        intro seq member
        rcases sorted seq (talk.service.loop_queue room member) with left | since
        · left
          change seq ∈ talk.leftover.filter _
          rw [List.mem_filter]
          exact ⟨left, decide_eq_true member⟩
        · exact Or.inr since

/-- With nothing left over, readiness is that of the packets stored since. -/
theorem Talk.Sorted.grounded {talk : Talk Decoder} (sorted : talk.Sorted)
    (cleared : talk.service.announces = true → talk.leftover = []) : talk.Grounded := by
  intro announces
  have ready : talk.service.phoneSource.buffer.ready = true := by
    unfold Service.announces PhoneMediaSource.ready at announces
    rw [Bool.and_eq_true, Bool.and_eq_true] at announces
    exact (Bool.and_eq_true _ _ ▸ announces.2).2
  have whole : (talk.service.queue.keys.filter fun seq => seq ∈ talk.since) =
      talk.service.queue.keys := by
    apply List.filter_eq_self.mpr
    intro seq member
    rcases sorted seq (Std.ExtTreeMap.mem_keys.mp member) with left | since
    · rw [cleared announces] at left
      exact absurd left List.not_mem_nil
    · exact decide_eq_true since
  unfold Talk.freshMs
  rw [whole, Std.ExtTreeMap.length_keys]
  unfold JitterBuffer.ready JitterBuffer.depthMs at ready
  rw [Bool.and_eq_true] at ready
  have deep := BitVec.le_def.mp (of_decide_eq_true ready.2)
  rw [BitVec.toNat_ofNat] at deep
  exact Nat.le_trans deep (Nat.mod_le _ _)

/-- In every run of callbacks and loop rounds in which the loop never announces while a
packet from before the last START_PTT is in the buffer, every announcement rests on at
least `prefillMs` of packets stored after it. -/
theorem ptt_ready_for_current_press (curves : GainCurves) (opus : OpusLibrary Decoder)
    (decoder : Option Decoder) (inputs : List ServiceInput)
    (cleared : Run.Meets (Talk.step curves opus) Talk.NoLeftover
      (Talk.open_ (Service.create decoder)) inputs) :
    Run.Meets (Talk.step curves opus)
      (fun talk input => (∃ room, input = .loop room) → talk.Grounded)
      (Talk.open_ (Service.create decoder)) inputs := by
  have opened : (Talk.open_ (Service.create decoder)).Sorted := by
    intro seq member
    exact Or.inl (Std.ExtTreeMap.mem_keys.mpr member)
  apply Run.meets_of_invariant Talk.Sorted _ _ inputs _ opened cleared
  · rintro talk input sorted noLeftover ⟨room, rfl⟩
    exact sorted.grounded noLeftover
  · intro talk input sorted _noLeftover
    exact sorted.step input

end

/-! ### Two concrete runs -/

instance {Decoder : Type} (talk : Talk Decoder) :
    (input : ServiceInput) → Decidable (talk.NoLeftover input)
  | .loop _ => inferInstanceAs (Decidable (_ → _))
  | .media _ _ => inferInstanceAs (Decidable True)
  | .control _ _ => inferInstanceAs (Decidable True)

instance {Decoder : Type} (talk : Talk Decoder) : Decidable talk.Grounded :=
  inferInstanceAs (Decidable (_ → _))

def quietRound : ServiceInput :=
  .loop silentRoom

def controlInput (type : MsgType) : ServiceInput :=
  .control [] (Message.make { messageId := [], nowUnixMs := 1000#64 } type [] [] 1#64 (.object []))

def pressWithAudio : List ServiceInput :=
  [controlInput .startPtt, quietRound, .media 1000#64 (mediaPayload true 7#32),
    .media 1020#64 (mediaPayload false 8#32)]

theorem ptt_ready_for_current_press_first :
    Run.Meets (Talk.step linearCurves silentOpus)
      (fun talk input => (∃ room, input = .loop room) → talk.Grounded)
      (Talk.open_ (Service.create (some ()))) (pressWithAudio ++ [quietRound]) := by
  apply ptt_ready_for_current_press
  decide +kernel

/-- The button is released before the PC has answered and pressed again: the first
round after that announces on the two packets of the first press. -/
theorem ptt_ready_on_leftovers :
    let talk := Run.final (Talk.step linearCurves silentOpus)
      (Talk.open_ (Service.create (some ())))
      (pressWithAudio ++ [controlInput .stopPtt, controlInput .startPtt])
    talk.service.announces = true ∧ ¬ talk.Grounded := by
  decide +kernel

end SmartMic.Apps
