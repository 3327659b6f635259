import SmartMic.Audio.RouterInvariants

set_option autoImplicit false

/-! The frame a tick puts out, sample by sample: what the two sources delivered, the
gains the ramps stand at, and the limiter. -/

namespace SmartMic.Audio

variable {α : Type} [SampleArithmetic α]

/-- The limiter of `mixAndWrite`. -/
def limit (sample : α) : α :=
  if kCeiling < sample then kCeiling else if sample < -kCeiling then -kCeiling else sample

@[simp]
theorem limit_zero : limit (0 : α) = 0 := by
  unfold limit kCeiling
  rw [if_neg SampleArithmetic.ceiling_above.1, if_neg SampleArithmetic.floor_below]

/-- The crossfade gains of the sample at `index`, in a frame that finds `fade`. -/
def Ramp.gainsAt (curves : GainCurves α) (fade : Crossfade α) (index : Nat) : GainPair α :=
  { local_ := curves.cosine (Ramp.advance^[index + 1] fade).position
    phone := curves.sine (Ramp.advance^[index + 1] fade).position }

/-- The opening of the gate at that sample. -/
def Ramp.openingAt (curves : GainCurves α) (gate : GainRamp α) (index : Nat) : α :=
  curves.raisedCosine (Ramp.advance^[index + 1] gate).position

def AudioRouter.outputAt (curves : GainCurves α) (router : AudioRouter α) (fade : Crossfade α)
    (gate : GainRamp α) (index : Nat) : α :=
  limit ((router.localBuf index * (fade.gainsAt curves index).local_ *
      router.config.localGainLinear +
    router.phoneBuf index * (fade.gainsAt curves index).phone * router.config.phoneGainLinear) *
      gate.openingAt curves index)

theorem Ramp.iterate_of_rest {ramp : Ramp α} (rest : ramp.remaining = 0) (count : Nat) :
    Ramp.advance^[count] ramp = ramp := by
  induction count with
  | zero => rfl
  | succ count ih => rw [Function.iterate_succ_apply', ih, Ramp.advance_of_rest rest]

theorem AudioRouter.mixSample_out (curves : GainCurves α) (router : AudioRouter α) (mix : Mix α)
    (index : Nat) :
    (router.mixSample curves mix index).out =
      mix.out ++ [limit ((router.localBuf index * curves.cosine mix.fade.advance.position *
          router.config.localGainLinear +
        router.phoneBuf index * curves.sine mix.fade.advance.position *
          router.config.phoneGainLinear) * curves.raisedCosine mix.gate.advance.position)] := by
  unfold AudioRouter.mixSample Crossfade.next GainRamp.next limit
  dsimp only
  split
  · rfl
  · split <;> rfl

theorem AudioRouter.mixFold_out (curves : GainCurves α) (router : AudioRouter α) (mix : Mix α)
    (count : Nat) :
    ((List.range count).foldl (router.mixSample curves) mix).out =
      mix.out ++ (List.range count).map (router.outputAt curves mix.fade mix.gate) := by
  induction count with
  | zero => rw [List.range_zero, List.foldl_nil, List.map_nil, List.append_nil]
  | succ count ih =>
      obtain ⟨fade, gate⟩ := AudioRouter.mixFold curves router mix count
      rw [List.range_succ, List.foldl_append, List.foldl_cons, List.foldl_nil,
        AudioRouter.mixSample_out, ih, fade, gate, List.map_append, List.append_assoc,
        ← Function.iterate_succ_apply' Ramp.advance, ← Function.iterate_succ_apply' Ramp.advance]
      rfl

theorem AudioRouter.tick_outBuf (curves : GainCurves α) (router : AudioRouter α)
    (around : Surroundings α) :
    (router.tick curves around).outBuf =
      (List.range kFrameSamples).map ((router.ready around).outputAt curves
        (router.ready around).fade (router.ready around).gate) := by
  have closed : ∀ written : AudioRouter α, written.closeFade.outBuf = written.outBuf := by
    intro written
    rcases written.closeFade_cases with ⟨same, -⟩ | ⟨completes, -⟩
    · rw [same]
    · rw [completes]
      exact AudioRouter.applyEvent_frame AudioRouter.outBuf (fun _ _ _ _ _ _ _ => rfl) _ _
  have handed : ∀ produced : AudioRouter α,
      (produced.writeSink around).outBuf = produced.outBuf := by
    intro produced
    unfold AudioRouter.writeSink
    split <;> rfl
  unfold AudioRouter.tick
  rw [closed, handed]
  unfold AudioRouter.produceFrame AudioRouter.mixAndWrite
  dsimp only
  rw [AudioRouter.mixFold_out, List.nil_append]

/-! ### What the sources delivered -/

def SourceRead.heard (read : SourceRead α) (attached wanted : Bool) : AudioFrame α :=
  if wanted = false ∨ attached = false then silentFrame else read.samples

theorem AudioRouter.fill_heard {router : AudioRouter α} {attached wanted : Bool}
    {read : SourceRead α}
    (calm : (router.fill attached wanted read).1.state ≠ .errorRecovery) :
    router.fill attached wanted read = (router, read.heard attached wanted) := by
  unfold AudioRouter.fill at calm ⊢
  unfold SourceRead.heard
  split at calm
  · rename_i unread
    rw [if_pos unread, if_pos unread]
  · rename_i asked
    rw [if_neg asked, if_neg asked]
    cases status : read.status with
    | ok => rfl
    | underrun => rfl
    | failed =>
        rw [status] at calm
        exact absurd (AudioRouter.sourceFailure_state _) calm

theorem AudioRouter.readSources_heard {router : AudioRouter α} {around : Surroundings α}
    (calm : (router.readSources around).state ≠ .errorRecovery) :
    router.readSources around = { router with
      localBuf := around.local_.heard router.wiring.local_
        (router.sm.wantsLocal || router.gate.active)
      phoneBuf := around.phone.heard router.wiring.phone
        (router.sm.wantsPhone || router.gate.active) } := by
  have inOrder : router.readSources around =
      (router.readLocal router.gate.active around).readPhone router.gate.active around := rfl
  have localCalm : (router.readLocal router.gate.active around).state ≠ .errorRecovery := by
    intro failed
    rw [inOrder] at calm
    exact calm (AudioRouter.readPhone_stays failed)
  have localRead : router.readLocal router.gate.active around = { router with
      localBuf := around.local_.heard router.wiring.local_
        (router.sm.wantsLocal || router.gate.active) } := by
    unfold AudioRouter.readLocal at localCalm ⊢
    rw [AudioRouter.fill_heard localCalm]
  rw [inOrder, localRead] at calm
  rw [inOrder, localRead]
  unfold AudioRouter.readPhone at calm ⊢
  rw [AudioRouter.fill_heard calm]

end SmartMic.Audio
