import SmartMic.Audio.Converted
import SmartMic.Apps.PhoneRuntime

set_option autoImplicit false

/-! The microphone of the phone, behind AAudio and behind the AudioUnit. A callback brings
as many frames as the device likes; what goes up is cut into canonical frames. The calls
that open and close the device are a success or a failure here, and the level meter and
the log are left out. -/

namespace SmartMic.Apps

open SmartMic.Audio

/-! ### Cutting a stream into frames -/

section

variable {α : Type}

/-- The loop that hands over whole frames: the frames, and what is still pending. -/
def handOver (pending : List α) : List (List α) × List α :=
  if _enough : kFrameSamples ≤ pending.length then
    let (frames, rest) := handOver (pending.drop kFrameSamples)
    (pending.take kFrameSamples :: frames, rest)
  else ([], pending)
termination_by pending.length
decreasing_by
  rw [List.length_drop]
  unfold kFrameSamples at *
  omega

/-- The canonical frames of a stream, with a rest that is shorter than a frame. -/
structure Cut (stream : List α) (frames : List (List α)) (rest : List α) :
    Prop where
  whole : frames.flatten ++ rest = stream
  exact_ : ∀ frame ∈ frames, frame.length = kFrameSamples
  short : rest.length < kFrameSamples

theorem cut_nil : Cut ([] : List α) [] [] :=
  { whole := rfl
    exact_ := fun _frame member => absurd member List.not_mem_nil
    short := by
      change 0 < kFrameSamples
      decide }

theorem cut_handOver (pending : List α) :
    Cut pending (handOver pending).1 (handOver pending).2 := by
  induction pending using handOver.induct with
  | case1 pending enough frames rest handed ih =>
      rw [handOver, dif_pos enough, handed]
      rw [handed] at ih
      refine { whole := ?_, exact_ := ?_, short := ih.short }
      · rw [List.flatten_cons, List.append_assoc, ih.whole, List.take_append_drop]
      · intro frame member
        rcases List.mem_cons.mp member with first | later
        · rw [first, List.length_take]
          omega
        · exact ih.exact_ frame later
  | case2 pending few =>
      rw [handOver, dif_neg few]
      exact
        { whole := rfl
          exact_ := fun _frame member => absurd member List.not_mem_nil
          short := not_le.mp few }

theorem Cut.append {stream : List α} {frames : List (List α)} {rest : List α}
    (cut : Cut stream frames rest) (added : List α) :
    Cut (stream ++ added) (frames ++ (handOver (rest ++ added)).1)
      (handOver (rest ++ added)).2 := by
  have later := cut_handOver (rest ++ added)
  refine { whole := ?_, exact_ := ?_, short := later.short }
  · rw [List.flatten_append, List.append_assoc, later.whole, ← List.append_assoc, cut.whole]
  · intro frame member
    exact (List.mem_append.mp member).elim (cut.exact_ frame) (later.exact_ frame)

theorem Cut.unique {first second : List (List α)} {stream rest rest' : List α}
    (cut : Cut stream first rest) (cut' : Cut stream second rest') :
    first = second ∧ rest = rest' := by
  induction first generalizing second stream with
  | nil =>
      cases second with
      | nil => exact ⟨rfl, cut.whole.trans cut'.whole.symm⟩
      | cons frame frames =>
          have long := cut'.exact_ frame List.mem_cons_self
          have short := cut.short
          have lengths := congrArg List.length (cut.whole.trans cut'.whole.symm)
          simp only [List.flatten_cons, List.flatten_nil, List.length_append, List.length_nil,
            long] at lengths
          omega
  | cons frame frames ih =>
      obtain ⟨long, others⟩ := List.forall_mem_cons.mp cut.exact_
      cases second with
      | nil =>
          have short := cut'.short
          have lengths := congrArg List.length (cut.whole.trans cut'.whole.symm)
          simp only [List.flatten_cons, List.flatten_nil, List.length_append, List.length_nil,
            long] at lengths
          omega
      | cons frame' frames' =>
          obtain ⟨long', others'⟩ := List.forall_mem_cons.mp cut'.exact_
          have same := cut.whole.trans cut'.whole.symm
          rw [List.flatten_cons, List.flatten_cons, List.append_assoc, List.append_assoc] at same
          obtain ⟨head, tail⟩ := List.append_inj same (long.trans long'.symm)
          obtain ⟨later, left⟩ := ih { whole := tail, exact_ := others, short := cut.short }
            { whole := rfl, exact_ := others', short := cut'.short }
          exact ⟨by rw [head, later], left⟩

end

/-! ### AAudio -/

structure AAudioFormat where
  rate : BitVec 32
  channels : Nat
  audible : 0 < channels

structure AAudioCapture (α : Type) where
  running : Bool
  format : AAudioFormat
  resampler : LinearResampler α
  pending : List α

structure AAudioData (α : Type) where
  input : Option (Nat → α)
  numFrames : BitVec 32

inductive AAudioInput (α : Type) where
  | start (opened : Option AAudioFormat) (requested : Bool)
  | data (data : AAudioData α)
  | error
  | stop

section

variable {α : Type} [SampleArithmetic α]

def AAudioCapture.new : AAudioCapture α :=
  { running := false
    format := { rate := 48000#32, channels := 1, audible := Nat.one_pos }
    resampler := LinearResampler.new 0#32
    pending := [] }

/-- The `mono_` of a callback. -/
def monoBlock (channels : Nat) (input : Nat → α) (frames : Nat) : List α :=
  (List.range frames).map fun f =>
    if channels = 1 then input f
    else SampleArithmetic.per (acrossChannels channels input f) channels

/-- The stream is opened, its format taken over, and then asked to start. -/
def AAudioCapture.start (capture : AAudioCapture α) (opened : Option AAudioFormat)
    (requested : Bool) : Bool × AAudioCapture α :=
  match opened with
  | none => (false, capture)
  | some format =>
      (requested,
        { running := if requested then true else capture.running
          format := format
          resampler := LinearResampler.new format.rate
          pending := [] })

/-- `onData`: the frames it hands to the handler; none is a read outside the block. -/
def AAudioCapture.onData (capture : AAudioCapture α) (data : AAudioData α) :
    Option (List (List α) × AAudioCapture α) :=
  match data.input with
  | none => some ([], capture)
  | some input =>
      if capture.running = false ∨ data.numFrames.toInt ≤ 0 then some ([], capture)
      else do
        let mono := monoBlock capture.format.channels input data.numFrames.toInt.toNat
        let (pending, resampler) ← capture.resampler.process mono capture.pending
        let (frames, rest) := handOver pending
        some (frames, { capture with resampler := resampler, pending := rest })

def AAudioCapture.react (capture : AAudioCapture α) :
    AAudioInput α → Option (List (List α) × AAudioCapture α)
  | .start opened requested => some ([], (capture.start opened requested).2)
  | .data data => capture.onData data
  | .error => some ([], { capture with running := false })
  | .stop => some ([], { capture with running := false })

structure Handed (Capture α : Type) where
  capture : Capture
  frames : List (List α)

/-- Nothing more comes of a capture that has read outside its block. -/
def AAudioCapture.step (state : Option (Handed (AAudioCapture α) α)) (input : AAudioInput α) :
    Option (Handed (AAudioCapture α) α) :=
  match state with
  | none => none
  | some handed =>
      (handed.capture.react input).map fun result =>
        { capture := result.2, frames := handed.frames ++ result.1 }

def AAudioFormat.monoOf (format : AAudioFormat) (data : AAudioData α) : List α :=
  match data.input with
  | none => []
  | some input => monoBlock format.channels input data.numFrames.toInt.toNat

/-- The mono blocks of the callbacks that come before the capture is stopped. -/
def AAudioFormat.captured (format : AAudioFormat) : List (AAudioInput α) → List (List α)
  | .data data :: rest => format.monoOf data :: format.captured rest
  | _ => []

def AAudioInput.isStart : AAudioInput α → Bool
  | .start _ _ => true
  | _ => false

/-- The capture has been fed those mono blocks since its start. -/
structure AAudioCapture.Carries (format : AAudioFormat) (heard : List (List α))
    (handed : Handed (AAudioCapture α) α) : Prop where
  device : handed.capture.format = format
  fed : handed.capture.resampler.Fed format.rate heard
  cut : Cut (converted format.rate heard) handed.frames handed.capture.pending

theorem AAudioCapture.carries_start (capture : AAudioCapture α) (format : AAudioFormat) :
    AAudioCapture.Carries format []
      { capture := (capture.start (some format) true).2, frames := [] } :=
  { device := rfl
    fed := LinearResampler.fed_new format.rate
    cut := by
      rw [converted_nil]
      exact cut_nil }

theorem AAudioFormat.monoOf_sized (format : AAudioFormat) (data : AAudioData α) :
    BlockSized (format.monoOf data) := by
  have bound := data.numFrames.toInt_lt
  unfold AAudioFormat.monoOf BlockSized
  split
  · exact Nat.two_pow_pos 32
  · unfold monoBlock
    rw [List.length_map, List.length_range]
    omega

theorem AAudioCapture.Carries.silent {format : AAudioFormat} {heard : List (List α)}
    {handed : Handed (AAudioCapture α) α} (carries : AAudioCapture.Carries format heard handed) :
    AAudioCapture.Carries format (heard ++ [[]]) handed :=
  { device := carries.device
    fed := carries.fed.process_nil.1
    cut := by
      rw [carries.fed.process_nil.2]
      exact carries.cut }

theorem AAudioCapture.Carries.data {format : AAudioFormat} {heard : List (List α)}
    {handed : Handed (AAudioCapture α) α} (carries : AAudioCapture.Carries format heard handed)
    (running : handed.capture.running = true) (data : AAudioData α) :
    ∃ next, AAudioCapture.step (some handed) (.data data) = some next ∧
      AAudioCapture.Carries format (heard ++ [format.monoOf data]) next ∧
      next.capture.running = true := by
  cases given : data.input with
  | none =>
      have silent : format.monoOf data = [] := by
        unfold AAudioFormat.monoOf
        rw [given]
      refine ⟨handed, ?_, by rw [silent]; exact carries.silent, running⟩
      simp [AAudioCapture.step, AAudioCapture.react, AAudioCapture.onData, given]
  | some input =>
      have mono : format.monoOf data =
          monoBlock format.channels input data.numFrames.toInt.toNat := by
        unfold AAudioFormat.monoOf
        rw [given]
      by_cases quiet : data.numFrames.toInt ≤ 0
      · have silent : format.monoOf data = [] := by
          rw [mono, Int.toNat_of_nonpos quiet]
          rfl
        refine ⟨handed, ?_, by rw [silent]; exact carries.silent, running⟩
        simp [AAudioCapture.step, AAudioCapture.react, AAudioCapture.onData, given, quiet]
      · obtain ⟨resampler, added, processed, stream, fed⟩ :=
          carries.fed.process (format.monoOf_sized data)
        refine ⟨{ capture := { handed.capture with
                    resampler := resampler
                    pending := (handOver (handed.capture.pending ++ added)).2 }
                  frames := handed.frames ++ (handOver (handed.capture.pending ++ added)).1 },
          ?_, { device := carries.device, fed := fed, cut := ?_ }, running⟩
        · rw [mono] at processed
          simp [AAudioCapture.step, AAudioCapture.react, AAudioCapture.onData, given, quiet,
            running, carries.device, processed]
        · rw [stream]
          exact carries.cut.append added

theorem AAudioCapture.step_stopped {handed : Handed (AAudioCapture α) α}
    (stopped : handed.capture.running = false) {input : AAudioInput α}
    (later : input.isStart = false) :
    ∃ next, AAudioCapture.step (some handed) input = some next ∧
      next.capture.running = false ∧ next.capture.pending = handed.capture.pending ∧
      next.frames = handed.frames := by
  cases input with
  | start opened requested => cases later
  | data data =>
      refine ⟨handed, ?_, stopped, rfl, rfl⟩
      cases given : data.input with
      | none => simp [AAudioCapture.step, AAudioCapture.react, AAudioCapture.onData, given]
      | some input =>
          simp [AAudioCapture.step, AAudioCapture.react, AAudioCapture.onData, given, stopped]
  | error =>
      exact ⟨_, rfl, rfl, rfl, List.append_nil _⟩
  | stop =>
      exact ⟨_, rfl, rfl, rfl, List.append_nil _⟩

theorem AAudioCapture.run_stopped (inputs : List (AAudioInput α)) :
    ∀ handed : Handed (AAudioCapture α) α, handed.capture.running = false →
      (∀ input ∈ inputs, input.isStart = false) →
      ∃ last, Run.final AAudioCapture.step (some handed) inputs = some last ∧
        last.capture.pending = handed.capture.pending ∧ last.frames = handed.frames := by
  induction inputs with
  | nil => exact fun handed _stopped _later => ⟨handed, rfl, rfl, rfl⟩
  | cons input rest ih =>
      intro handed stopped later
      obtain ⟨next, stepped, still, pending, frames⟩ :=
        AAudioCapture.step_stopped stopped (later input List.mem_cons_self)
      obtain ⟨last, reached, pending', frames'⟩ :=
        ih next still fun other member => later other (List.mem_cons_of_mem _ member)
      rw [Run.final_cons, stepped]
      exact ⟨last, reached, pending'.trans pending, frames'.trans frames⟩

theorem AAudioCapture.Carries.run {format : AAudioFormat} (inputs : List (AAudioInput α)) :
    ∀ (heard : List (List α)) (handed : Handed (AAudioCapture α) α),
      AAudioCapture.Carries format heard handed → handed.capture.running = true →
      (∀ input ∈ inputs, input.isStart = false) →
      ∃ last, Run.final AAudioCapture.step (some handed) inputs = some last ∧
        Cut (converted format.rate (heard ++ format.captured inputs)) last.frames
          last.capture.pending := by
  induction inputs with
  | nil =>
      intro heard handed carries _running _later
      refine ⟨handed, rfl, ?_⟩
      change Cut (converted format.rate (heard ++ [])) _ _
      rw [List.append_nil]
      exact carries.cut
  | cons input rest ih =>
      intro heard handed carries running later
      obtain ⟨first, others⟩ := List.forall_mem_cons.mp later
      cases input with
      | start opened requested => cases first
      | data data =>
          obtain ⟨next, stepped, carries, running⟩ := carries.data running data
          obtain ⟨last, reached, cut⟩ := ih _ next carries running others
          rw [Run.final_cons, stepped]
          refine ⟨last, reached, ?_⟩
          rw [List.append_assoc, List.singleton_append] at cut
          exact cut
      | error =>
          obtain ⟨last, reached, pending, frames⟩ := AAudioCapture.run_stopped rest
            { capture := { handed.capture with running := false }, frames := handed.frames ++ [] }
            rfl others
          refine ⟨last, reached, ?_⟩
          change Cut (converted format.rate (heard ++ [])) _ _
          rw [List.append_nil, frames, pending, List.append_nil]
          exact carries.cut
      | stop =>
          obtain ⟨last, reached, pending, frames⟩ := AAudioCapture.run_stopped rest
            { capture := { handed.capture with running := false }, frames := handed.frames ++ [] }
            rfl others
          refine ⟨last, reached, ?_⟩
          change Cut (converted format.rate (heard ++ [])) _ _
          rw [List.append_nil, frames, pending, List.append_nil]
          exact carries.cut

end

/-! ### The AudioUnit -/

structure CoreAudioCapture (α : Type) where
  running : Bool
  pending : List α

inductive CoreAudioInput (α : Type) where
  | start (opened : Bool)
  /-- What `AudioUnitRender` brought, if it succeeded. -/
  | render (scratch : Option (List α))
  | stop

section

variable {α : Type}

def CoreAudioCapture.start (capture : CoreAudioCapture α) (opened : Bool) :
    Bool × CoreAudioCapture α :=
  if opened then (true, { running := true, pending := [] })
  else (false, { capture with running := false })

def CoreAudioCapture.render (capture : CoreAudioCapture α) (scratch : Option (List α)) :
    List (List α) × CoreAudioCapture α :=
  if capture.running = false then ([], capture)
  else
    match scratch with
    | none => ([], capture)
    | some scratch =>
        ((handOver (capture.pending ++ scratch)).1,
          { capture with pending := (handOver (capture.pending ++ scratch)).2 })

def CoreAudioCapture.react (capture : CoreAudioCapture α) :
    CoreAudioInput α → List (List α) × CoreAudioCapture α
  | .start opened => ([], (capture.start opened).2)
  | .render scratch => capture.render scratch
  | .stop => ([], { capture with running := false })

def CoreAudioCapture.step (handed : Handed (CoreAudioCapture α) α) (input : CoreAudioInput α) :
    Handed (CoreAudioCapture α) α :=
  { capture := (handed.capture.react input).2
    frames := handed.frames ++ (handed.capture.react input).1 }

def CoreAudioInput.captured : List (CoreAudioInput α) → List α
  | .render scratch :: rest => scratch.getD [] ++ CoreAudioInput.captured rest
  | _ => []

def CoreAudioInput.isStart : CoreAudioInput α → Bool
  | .start _ => true
  | _ => false

theorem CoreAudioCapture.run_stopped (inputs : List (CoreAudioInput α)) :
    ∀ handed : Handed (CoreAudioCapture α) α, handed.capture.running = false →
      (∀ input ∈ inputs, input.isStart = false) →
      (Run.final CoreAudioCapture.step handed inputs).capture.pending = handed.capture.pending ∧
        (Run.final CoreAudioCapture.step handed inputs).frames = handed.frames := by
  induction inputs with
  | nil => exact fun _handed _stopped _later => ⟨rfl, rfl⟩
  | cons input rest ih =>
      intro handed stopped later
      obtain ⟨first, others⟩ := List.forall_mem_cons.mp later
      have still : (CoreAudioCapture.step handed input).capture.running = false ∧
          (CoreAudioCapture.step handed input).capture.pending = handed.capture.pending ∧
          (CoreAudioCapture.step handed input).frames = handed.frames := by
        cases input with
        | start opened => cases first
        | render scratch =>
            have silent : handed.capture.react (.render scratch) = ([], handed.capture) :=
              if_pos stopped
            unfold CoreAudioCapture.step
            rw [silent]
            exact ⟨stopped, rfl, List.append_nil _⟩
        | stop => exact ⟨rfl, rfl, List.append_nil _⟩
      obtain ⟨pending, frames⟩ := ih _ still.1 others
      exact ⟨pending.trans still.2.1, frames.trans still.2.2⟩

theorem CoreAudioCapture.run_cut (inputs : List (CoreAudioInput α)) :
    ∀ (heard : List α) (handed : Handed (CoreAudioCapture α) α),
      Cut heard handed.frames handed.capture.pending → handed.capture.running = true →
      (∀ input ∈ inputs, input.isStart = false) →
      Cut (heard ++ CoreAudioInput.captured inputs)
        (Run.final CoreAudioCapture.step handed inputs).frames
        (Run.final CoreAudioCapture.step handed inputs).capture.pending := by
  induction inputs with
  | nil =>
      intro heard handed cut _running _later
      change Cut (heard ++ []) _ _
      rw [List.append_nil]
      exact cut
  | cons input rest ih =>
      intro heard handed cut running later
      obtain ⟨first, others⟩ := List.forall_mem_cons.mp later
      cases input with
      | start opened => cases first
      | render scratch =>
          have stepped : Cut (heard ++ scratch.getD [])
              (CoreAudioCapture.step handed (.render scratch)).frames
              (CoreAudioCapture.step handed (.render scratch)).capture.pending ∧
              (CoreAudioCapture.step handed (.render scratch)).capture.running = true := by
            unfold CoreAudioCapture.step CoreAudioCapture.react CoreAudioCapture.render
            dsimp only
            rw [if_neg (by rw [running]; exact Bool.noConfusion)]
            cases scratch with
            | none =>
                rw [Option.getD_none, List.append_nil, List.append_nil]
                exact ⟨cut, running⟩
            | some scratch => exact ⟨cut.append scratch, running⟩
          have later := ih _ _ stepped.1 stepped.2 others
          rw [List.append_assoc] at later
          exact later
      | stop =>
          obtain ⟨pending, frames⟩ := CoreAudioCapture.run_stopped rest
            (CoreAudioCapture.step handed .stop) rfl others
          change Cut (heard ++ []) (Run.final _ (CoreAudioCapture.step handed .stop) rest).frames
            (Run.final _ (CoreAudioCapture.step handed .stop) rest).capture.pending
          rw [List.append_nil, frames, pending]
          change Cut heard (handed.frames ++ []) handed.capture.pending
          rw [List.append_nil]
          exact cut

end

/-! ### The device does not show -/

/-- Whatever the device's rate, channels and callback sizes, what a microphone hands up is the
whole frames, in order, of what the resampler makes of the mono blocks of the callbacks. An
AudioUnit that renders this stream in blocks of its own hands up the same frames. -/
theorem capture_hands_canonical_frames {α : Type} [SampleArithmetic α]
    (capture : AAudioCapture α) (format : AAudioFormat) (inputs : List (AAudioInput α))
    (unit : CoreAudioCapture α) (rendered : List (CoreAudioInput α))
    (started : ∀ input ∈ inputs, input.isStart = false)
    (started' : ∀ input ∈ rendered, input.isStart = false) :
    ∃ last, Run.final AAudioCapture.step
        (some { capture := (capture.start (some format) true).2, frames := [] }) inputs =
          some last ∧
      Cut (converted format.rate (format.captured inputs)) last.frames last.capture.pending ∧
      (converted format.rate (format.captured inputs) = CoreAudioInput.captured rendered →
        (Run.final CoreAudioCapture.step { capture := (unit.start true).2, frames := [] }
          rendered).frames = last.frames) := by
  obtain ⟨last, reached, cut⟩ := AAudioCapture.Carries.run inputs [] _
    (capture.carries_start format) rfl started
  refine ⟨last, reached, cut, fun same => ?_⟩
  have cut' := CoreAudioCapture.run_cut rendered []
    { capture := (unit.start true).2, frames := [] } cut_nil rfl started'
  rw [List.nil_append] at cut cut'
  rw [same] at cut
  exact (cut'.unique cut).1

def stereoHalf : AAudioFormat := { rate := 24000#32, channels := 2, audible := by decide }

def stereoCallbacks : List (AAudioInput Binary32) :=
  [.data { input := some fun place => .ofExact _ (place / 1000), numFrames := 300#32 },
    .data { input := some fun _ => 1, numFrames := 400#32 }, .error,
    .data { input := some fun _ => 0, numFrames := 960#32 }]

theorem CoreAudioInput.captured_once {α : Type} (stream : List α) :
    CoreAudioInput.captured [.render (some stream), .stop] = stream := List.append_nil stream

theorem capture_hands_canonical_frames_first :
    let stream := converted 24000#32 (stereoHalf.captured stereoCallbacks)
    ∃ last, Run.final AAudioCapture.step
        (some { capture := (AAudioCapture.new.start (some stereoHalf) true).2, frames := [] })
          stereoCallbacks = some last ∧
      Cut stream last.frames last.capture.pending ∧
      (Run.final CoreAudioCapture.step
        { capture := (CoreAudioCapture.start { running := false, pending := [] } true).2
          frames := [] } [.render (some stream), .stop]).frames = last.frames := by
  intro stream
  obtain ⟨last, reached, cut, rendered⟩ := capture_hands_canonical_frames AAudioCapture.new
    stereoHalf stereoCallbacks { running := false, pending := [] } [.render (some stream), .stop]
    (by decide) (by
      intro input member
      fin_cases member
      · rfl
      · rfl)
  exact ⟨last, reached, cut, rendered (CoreAudioInput.captured_once stream).symm⟩

end SmartMic.Apps
