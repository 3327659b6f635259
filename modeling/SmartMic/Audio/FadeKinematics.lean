import SmartMic.Audio.Crossfade
import SmartMic.Support.Run

set_option autoImplicit false

/-! How a fade moves under any interleaving of retargets and samples. Each retarget brings
its own duration; positions are exact rationals, as in the ramps themselves. A jump by
`snapTo` is not among the operations. -/

namespace SmartMic.Audio

inductive FadeOp where
  | fadeTo (target : Sample) (durationMs : BitVec 32)
  | next

def Crossfade.apply (curves : GainCurves) (fade : Crossfade) : FadeOp → Crossfade
  | .fadeTo target durationMs => Crossfade.fadeTo fade target durationMs
  | .next => (Crossfade.next curves fade).2

def GainRamp.apply (curves : GainCurves) (gate : GainRamp) : FadeOp → GainRamp
  | .fadeTo target durationMs => GainRamp.rampTo gate target durationMs
  | .next => (GainRamp.next curves gate).2

/-- Where the last retarget sends the fade. -/
def FadeOp.aim (aim : Sample) : FadeOp → Sample
  | .fadeTo target _ => clamp target 0 1
  | .next => aim

def FadeOp.limit (limit : Sample) : FadeOp → Sample
  | .fadeTo _ durationMs => 1 / fullSamples durationMs
  | .next => limit

def fadeSamples (position target : Sample) (durationMs : BitVec 32) : Nat :=
  if position = clamp target 0 1 then 0
  else max 1 ⌈(fullSamples durationMs : Sample) * |clamp target 0 1 - position|⌉₊

def positionAfter (apply : Ramp → FadeOp → Ramp) (ramp : Ramp) (target : Sample)
    (durationMs : BitVec 32) (count : Nat) : Sample :=
  (Run.final apply ramp (.fadeTo target durationMs :: List.replicate count .next)).position

structure Kinematics (apply : Ramp → FadeOp → Ramp) (start : Ramp) (ops : List FadeOp) :
    Prop where
  inside : 0 ≤ (Run.final apply start ops).position ∧ (Run.final apply start ops).position ≤ 1
  active : (Run.final apply start ops).active = true ↔
    (Run.final apply start ops).position ≠ Run.final FadeOp.aim start.position ops
  slope : |(Run.final apply start (ops ++ [.next])).position -
    (Run.final apply start ops).position| ≤ Run.final FadeOp.limit 0 ops
  stays : ∀ target durationMs,
    (Run.final apply start (ops ++ [.fadeTo target durationMs])).position =
      (Run.final apply start ops).position
  heads : ∀ target durationMs,
    ((Run.final apply start ops).position ≤ clamp target 0 1 →
      Monotone (positionAfter apply (Run.final apply start ops) target durationMs)) ∧
    (clamp target 0 1 ≤ (Run.final apply start ops).position →
      Antitone (positionAfter apply (Run.final apply start ops) target durationMs))
  lands : ∀ target durationMs count,
    positionAfter apply (Run.final apply start ops) target durationMs count =
        clamp target 0 1 ↔
      fadeSamples (Run.final apply start ops).position target durationMs ≤ count

/-! ### Both are the one ramp -/

def Ramp.apply (ramp : Ramp) : FadeOp → Ramp
  | .fadeTo target durationMs => ramp.moveTo target durationMs
  | .next => ramp.advance

theorem Crossfade.apply_eq (curves : GainCurves) : Crossfade.apply curves = Ramp.apply := by
  funext fade op
  cases op <;> rfl

theorem GainRamp.apply_eq (curves : GainCurves) : GainRamp.apply curves = Ramp.apply := by
  funext gate op
  cases op <;> rfl

theorem Ramp.final_next (ramp : Ramp) (count : Nat) :
    Run.final Ramp.apply ramp (List.replicate count .next) = Ramp.advance^[count] ramp := by
  induction count generalizing ramp with
  | zero => rfl
  | succ count ih =>
      rw [List.replicate_succ, Run.final_cons, ih]
      rfl

theorem positionAfter_eq (ramp : Ramp) (target : Sample) (durationMs : BitVec 32)
    (count : Nat) :
    positionAfter Ramp.apply ramp target durationMs count =
      (Ramp.advance^[count] (ramp.moveTo target durationMs)).position := by
  unfold positionAfter
  rw [Run.final_cons, ← Ramp.final_next]
  rfl

/-! ### A retarget -/

theorem Ramp.Exact.retarget {full : Nat} {ramp : Ramp} (sound : ramp.Exact full)
    (target : Sample) (durationMs : BitVec 32) :
    (ramp.moveTo target durationMs).Exact (fullSamples durationMs) := by
  have rest := Ramp.exact_rest (fullSamples durationMs) ramp.position sound.positionLow
    sound.positionHigh
  have same : ramp.moveTo target durationMs = Ramp.moveTo _ target durationMs :=
    Ramp.moveTo_of_position rfl target durationMs
  rw [same]
  exact rest.moveTo durationMs target

theorem Ramp.moveTo_samples (ramp : Ramp) (target : Sample) (durationMs : BitVec 32) :
    (ramp.moveTo target durationMs).remaining =
      fadeSamples ramp.position target durationMs := by
  unfold fadeSamples
  split
  · exact Ramp.moveTo_of_there durationMs ‹_›
  · exact Ramp.moveTo_remaining durationMs ‹_›

/-! ### The samples after it -/

section

variable {full : Nat} {ramp : Ramp}

theorem Ramp.iterate_step (ramp : Ramp) (count : Nat) :
    (Ramp.advance^[count] ramp).step = ramp.step := by
  induction count with
  | zero => rfl
  | succ count ih => rw [Function.iterate_succ_apply', Ramp.advance_step, ih]

theorem Ramp.Exact.iterate_succ (sound : ramp.Exact full) (count : Nat) :
    (Ramp.advance^[count + 1] ramp).position = (Ramp.advance^[count] ramp).position +
      if count < ramp.remaining then ramp.step else 0 := by
  have reached := sound.iterate count
  have left := ramp.iterate_remaining count
  rw [Function.iterate_succ_apply']
  split
  · rw [reached.advance_position (by omega), Ramp.iterate_step]
  · rw [Ramp.advance_of_rest (by omega), add_zero]

theorem Ramp.Exact.step_nonneg (sound : ramp.Exact full) (moving : 0 < ramp.remaining)
    (ahead : ramp.position ≤ ramp.target) : 0 ≤ ramp.step := by
  by_contra backwards
  have lands := sound.lands
  have some : (0 : Sample) < ramp.remaining := Nat.cast_pos.mpr moving
  have back := mul_neg_of_pos_of_neg some (not_le.mp backwards)
  linarith

theorem Ramp.Exact.step_nonpos (sound : ramp.Exact full) (moving : 0 < ramp.remaining)
    (behind : ramp.target ≤ ramp.position) : ramp.step ≤ 0 := by
  by_contra forwards
  have lands := sound.lands
  have some : (0 : Sample) < ramp.remaining := Nat.cast_pos.mpr moving
  have on := mul_pos some (not_le.mp forwards)
  linarith

theorem Ramp.Exact.monotone (sound : ramp.Exact full) (ahead : ramp.position ≤ ramp.target) :
    Monotone fun count => (Ramp.advance^[count] ramp).position := by
  apply monotone_nat_of_le_succ
  intro count
  rw [sound.iterate_succ count]
  split
  · have forwards := sound.step_nonneg (by omega) ahead
    linarith
  · rw [add_zero]

theorem Ramp.Exact.antitone (sound : ramp.Exact full) (behind : ramp.target ≤ ramp.position) :
    Antitone fun count => (Ramp.advance^[count] ramp).position := by
  apply antitone_nat_of_succ_le
  intro count
  rw [sound.iterate_succ count]
  split
  · have backwards := sound.step_nonpos (by omega) behind
    linarith
  · rw [add_zero]

theorem Ramp.Exact.lands_iff (sound : ramp.Exact full) (count : Nat) :
    (Ramp.advance^[count] ramp).position = ramp.target ↔ ramp.remaining ≤ count := by
  have there := (sound.iterate count).rest_iff
  rw [Ramp.iterate_target, Ramp.iterate_remaining] at there
  rw [← there]
  omega

end

/-! ### Every interleaving -/

/-- A fade with the point it is sent to and the most that a sample may move it. -/
def Ramp.Fading (ramp : Ramp) (aim limit : Sample) : Prop :=
  ∃ full : Nat, ramp.Exact full ∧ ramp.target = aim ∧ 0 ≤ limit ∧
    (0 < ramp.remaining → limit = 1 / full)

theorem Ramp.Fading.apply {ramp : Ramp} {aim limit : Sample} (fading : ramp.Fading aim limit)
    (op : FadeOp) : (ramp.apply op).Fading (op.aim aim) (op.limit limit) := by
  obtain ⟨full, sound, target, nonneg, rate⟩ := fading
  cases op with
  | fadeTo goal durationMs =>
      exact ⟨fullSamples durationMs, sound.retarget goal durationMs,
        ramp.moveTo_target goal durationMs, by unfold FadeOp.limit; positivity, fun _ => rfl⟩
  | next =>
      refine ⟨full, sound.advance, (ramp.advance_target).trans target, nonneg, fun moving => ?_⟩
      have left : ramp.advance.remaining = ramp.remaining - 1 := ramp.advance_remaining
      change 0 < ramp.advance.remaining at moving
      exact rate (by omega)

theorem Ramp.Fading.final {ramp : Ramp} {aim limit : Sample} (fading : ramp.Fading aim limit)
    (ops : List FadeOp) :
    (Run.final Ramp.apply ramp ops).Fading (Run.final FadeOp.aim aim ops)
      (Run.final FadeOp.limit limit ops) := by
  induction ops generalizing ramp aim limit with
  | nil => exact fading
  | cons op rest ih => exact ih (fading.apply op)

theorem Ramp.Fading.slope {ramp : Ramp} {aim limit : Sample} (fading : ramp.Fading aim limit) :
    |ramp.advance.position - ramp.position| ≤ limit := by
  obtain ⟨full, sound, -, nonneg, rate⟩ := fading
  rcases Nat.eq_zero_or_pos ramp.remaining with rest | moving
  · rw [Ramp.advance_of_rest rest, sub_self, abs_zero]
    exact nonneg
  · have positive : (0 : Sample) < full := Nat.cast_pos.mpr (lt_of_lt_of_le moving sound.bounded)
    rw [sound.advance_position moving, add_sub_cancel_left, rate moving, le_div_iff₀ positive]
    exact sound.slow

theorem Ramp.kinematics {start : Ramp} (ops : List FadeOp)
    (fading : start.Fading start.position 0) : Kinematics Ramp.apply start ops := by
  have reached := fading.final ops
  have slope := reached.slope
  obtain ⟨full, sound, target, -, -⟩ := reached
  constructor
  · exact ⟨sound.positionLow, sound.positionHigh⟩
  · rw [Ramp.active_iff, Nat.pos_iff_ne_zero, ← target]
    exact not_congr sound.rest_iff
  · rw [Run.final_snoc]
    exact slope
  · intro goal durationMs
    rw [Run.final_snoc]
    exact Ramp.moveTo_position _ goal durationMs
  · intro goal durationMs
    have moved := sound.retarget goal durationMs
    have position := Ramp.moveTo_position (Run.final Ramp.apply start ops) goal durationMs
    have aim := Ramp.moveTo_target (Run.final Ramp.apply start ops) goal durationMs
    have after := funext (positionAfter_eq (Run.final Ramp.apply start ops) goal durationMs)
    rw [after, ← aim, ← position]
    exact ⟨moved.monotone, moved.antitone⟩
  · intro goal durationMs count
    have moved := sound.retarget goal durationMs
    rw [positionAfter_eq, ← Ramp.moveTo_samples, ← moved.lands_iff, Ramp.moveTo_target]

theorem Ramp.fading_rest (value : Sample) (low : 0 ≤ value) (high : value ≤ 1) :
    Ramp.Fading { position := value, target := value, step := 0, remaining := 0 } value 0 :=
  ⟨1, Ramp.exact_rest 1 value low high, rfl, le_refl 0, fun moving => absurd moving (lt_irrefl 0)⟩

/-- Range, slope, activity, direction and landing of both fades, after any operations. -/
theorem fade_kinematics (curves : GainCurves) (value : Sample) (low : 0 ≤ value)
    (high : value ≤ 1) (ops : List FadeOp) :
    Kinematics (Crossfade.apply curves) Crossfade.initial ops ∧
      Kinematics (GainRamp.apply curves) (GainRamp.initial value) ops := by
  rw [Crossfade.apply_eq, GainRamp.apply_eq]
  exact ⟨Ramp.kinematics ops (Ramp.fading_rest 0 (le_refl 0) zero_le_one),
    Ramp.kinematics ops (Ramp.fading_rest value low high)⟩

/-- A gate that starts open is closed and opened again in the middle. -/
theorem fade_kinematics_open :
    Kinematics (Crossfade.apply { cosine := fun p => 1 - p, sine := id, raisedCosine := id })
        Crossfade.initial [.fadeTo 0 20#32, .next, .fadeTo 1 20#32] ∧
      Kinematics (GainRamp.apply { cosine := fun p => 1 - p, sine := id, raisedCosine := id })
        (GainRamp.initial 1) [.fadeTo 0 20#32, .next, .fadeTo 1 20#32] :=
  fade_kinematics _ 1 zero_le_one (le_refl 1) _

end SmartMic.Audio
