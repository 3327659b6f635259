import SmartMic.Media.JitterHistory

set_option autoImplicit false

/-! What a clean stream does after an arbitrary history: from some instant on,
every step pushes the next number in order and pops one frame. Whether the
playout point ever meets the queue again is decided by how far it lies behind the
highest number received, because a clean step never shortens that distance. -/

namespace SmartMic.Media

variable {Decoder : Type}

/-- The number that follows the highest one received; a buffer that has received
nothing takes the stream from wherever it starts. -/
def Playout.nextInOrder (playout : Playout Decoder) (start : Seq) : Seq :=
  match playout.highest with
  | none => start
  | some highest => highest + 1#32

/-- What arrives at each clean step, apart from its number. -/
abbrev Feed := Nat → Bytes × BitVec 64

def Playout.cleanPush (opus : OpusLibrary Decoder) (first : Seq) (feed : Feed)
    (playout : Playout Decoder) (instant : Nat) : Playout Decoder :=
  playout.step opus (.push (first + BitVec.ofNat 32 instant) (feed instant).1 (feed instant).2)

def Playout.cleanStep (opus : OpusLibrary Decoder) (first : Seq) (feed : Feed)
    (playout : Playout Decoder) (instant : Nat) : Playout Decoder :=
  (playout.cleanPush opus first feed instant).step opus (.pop kFrameSamples)

def Playout.cleanRun (opus : OpusLibrary Decoder) (first : Seq) (feed : Feed)
    (playout : Playout Decoder) : Nat → Playout Decoder :=
  Run.trace (Playout.cleanStep opus first feed) playout id

def Playout.cleanReal (opus : OpusLibrary Decoder) (first : Seq) (feed : Feed)
    (playout : Playout Decoder) (instant : Nat) : Bool :=
  let pushed := (playout.cleanRun opus first feed instant).cleanPush opus first feed instant
  (pushed.buffer.pop opus pushed.decoder kFrameSamples).real

/-- Concealment always produces a frame: `opus_decode_float` without a packet
never returns an error on an open decoder. -/
def OpusLibrary.Conceals (opus : OpusLibrary Decoder) : Prop :=
  ∀ decoder, (opus.decodeFloat decoder none).2.isSome = true

theorem OpusLibrary.Conceals.conceal_ok {opus : OpusLibrary Decoder} (conceals : opus.Conceals)
    (decoder : Decoder) : (opus.conceal (some decoder)).ok = true := by
  have produced := conceals decoder
  simp only [OpusLibrary.conceal]
  split
  · rename_i failed
    rw [failed] at produced
    cases produced
  · rfl

theorem OpusLibrary.Conceals.decode_ok {opus : OpusLibrary Decoder} (conceals : opus.Conceals)
    (payload : Bytes) (decoder : Option Decoder) (isOpen : decoder.isSome = true) :
    (opus.decode payload decoder).ok = true := by
  cases decoder with
  | none => cases isOpen
  | some decoder =>
      simp only [OpusLibrary.decode]
      split
      · exact conceals.conceal_ok _
      · rfl

section CleanStream

variable (opus : OpusLibrary Decoder) (first : Seq) (feed : Feed) (playout : Playout Decoder)

theorem Playout.cleanRun_succ (instant : Nat) :
    playout.cleanRun opus first feed (instant + 1) =
      (playout.cleanRun opus first feed instant).cleanStep opus first feed instant := rfl

theorem Playout.Sound.cleanPush {config : JitterConfig} {current : Playout Decoder}
    (sound : current.Sound config) (instant : Nat) :
    (current.cleanPush opus first feed instant).Sound config :=
  sound.step opus _

theorem Playout.Sound.cleanRun {config : JitterConfig} (sound : playout.Sound config)
    (instant : Nat) : (playout.cleanRun opus first feed instant).Sound config := by
  induction instant with
  | zero => exact sound
  | succ instant ih =>
      rw [Playout.cleanRun_succ]
      exact (ih.cleanPush opus first feed instant).step opus (.pop kFrameSamples)

/-- A clean step after the push: the slot at the playout point is real exactly
when its packet is queued, and only then is it certain to be left behind. -/
theorem Playout.clean_pop_cases {config : JitterConfig} {pushed : Playout Decoder}
    (conceals : opus.Conceals) (sound : pushed.Sound config)
    (started : pushed.buffer.started = true) :
    (pushed.buffer.nextSeq ∈ pushed.buffer.queue ∧
      (pushed.buffer.pop opus pushed.decoder kFrameSamples).real = true ∧
      (pushed.step opus (.pop kFrameSamples)).buffer = pushed.buffer.serve) ∨
    (pushed.buffer.nextSeq ∉ pushed.buffer.queue ∧
      (pushed.buffer.pop opus pushed.decoder kFrameSamples).real = false ∧
      (pushed.step opus (.pop kFrameSamples)).buffer = pushed.buffer.skip) := by
  rcases pushed.buffer.pop_cases opus pushed.decoder kFrameSamples with
    ⟨idle, -, -⟩ | ⟨-, -, missing, skipped, concealed⟩ | ⟨-, -, entry, present, served, verdict⟩
  · rcases idle with idle | idle
    · rw [idle] at started
      cases started
    · exact absurd rfl idle
  · exact Or.inr ⟨missing, concealed, skipped⟩
  · refine Or.inl ⟨?_, ?_, served⟩
    · rw [Std.ExtTreeMap.mem_iff_isSome_getElem?, present]
      rfl
    · rw [verdict]
      exact conceals.decode_ok entry.payload pushed.decoder sound.open_

theorem JitterBuffer.serve_mem {buffer : JitterBuffer} {seq : Seq}
    (member : seq ∈ buffer.serve.queue) : seq ≠ buffer.nextSeq ∧ seq ∈ buffer.queue := by
  obtain ⟨different, kept⟩ := Std.ExtTreeMap.mem_erase.mp member
  refine ⟨?_, kept⟩
  rintro rfl
  exact different Std.ReflCmp.compare_self

theorem JitterBuffer.mem_serve {buffer : JitterBuffer} {seq : Seq}
    (different : seq ≠ buffer.nextSeq) (member : seq ∈ buffer.queue) :
    seq ∈ buffer.serve.queue := by
  refine Std.ExtTreeMap.mem_erase.mpr ⟨?_, member⟩
  intro same
  exact different (Std.LawfulEqCmp.eq_of_compare same).symm

/-! ### A playout point close enough to the highest number -/

/-- The clean stream before step `instant`, `width` slots behind: the playout
point moves with the steps, the queue stays inside those slots, and no clean
packet whose slot is still to come has been lost. -/
structure InStep (config : JitterConfig) (next : Seq) (width instant : Nat)
    (current : Playout Decoder) : Prop where
  sound : current.Sound config
  playoutAt : current.buffer.playoutAt (first + BitVec.ofNat 32 instant) =
    next + BitVec.ofNat 32 instant
  inside : ∀ seq ∈ current.buffer.queue,
    (seq - (next + BitVec.ofNat 32 instant)).toNat < width
  kept : ∀ earlier, earlier < instant → instant ≤ width + earlier →
    first + BitVec.ofNat 32 earlier ∈ current.buffer.queue

variable {first}

/-- The push of a step in step is stored, and evicts nothing. -/
theorem InStep.pushed {config : JitterConfig} {next : Seq} {width instant : Nat}
    {current : Playout Decoder} (inStep : InStep first config next width instant current)
    (narrow : width < maxEntries config) (offset : (first - next).toNat = width) :
    (∀ seq, seq ∈ (current.cleanPush opus first feed instant).buffer.queue ↔
      seq ∈ current.buffer.queue ∨ seq = first + BitVec.ofNat 32 instant) ∧
    (current.cleanPush opus first feed instant).buffer.nextSeq = next + BitVec.ofNat 32 instant ∧
    (current.cleanPush opus first feed instant).buffer.started = true := by
  have entries := maxEntries_lt config
  have distance : (first + BitVec.ofNat 32 instant - (next + BitVec.ofNat 32 instant)).toNat =
      width := by
    rw [← offset]
    congr 1
    bv_omega
  have roomy : ¬ maxEntries current.buffer.cfg ≤ current.buffer.queue.size := by
    have size := Queue.size_le_of_offsets current.buffer.queue _ width inStep.inside
    rw [inStep.sound.cfg]
    omega
  refine ⟨?_, ?_, ?_⟩
  · rcases current.buffer.push_queue (first + BitVec.ofNat 32 instant) (feed instant).1
      (feed instant).2 with ⟨late, -⟩ | ⟨-, queued, -⟩ | ⟨-, -, stored⟩
    · rw [inStep.playoutAt, toInt_neg_iff, distance] at late
      omega
    · have inside := inStep.inside _ queued
      rw [distance] at inside
      omega
    · intro seq
      rw [if_neg roomy] at stored
      simp only [Playout.cleanPush, Playout.step, stored, Std.ExtTreeMap.mem_insertIfNew]
      constructor
      · rintro (same | old)
        · exact Or.inr (Std.LawfulEqCmp.eq_of_compare same).symm
        · exact Or.inl old
      · rintro (old | rfl)
        · exact Or.inr old
        · exact Or.inl Std.ReflCmp.compare_self
  · simp only [Playout.cleanPush, Playout.step, JitterBuffer.push_nextSeq]
    exact inStep.playoutAt
  · exact JitterBuffer.push_started _ _ _ _

theorem InStep.step {config : JitterConfig} {next : Seq} {width instant : Nat}
    {current : Playout Decoder} (conceals : opus.Conceals)
    (inStep : InStep first config next width instant current)
    (narrow : width < maxEntries config) (offset : (first - next).toNat = width) :
    InStep first config next width (instant + 1)
      (current.cleanStep opus first feed instant) := by
  obtain ⟨member_iff, nextAt, started⟩ := inStep.pushed opus feed narrow offset
  have pushedSound := inStep.sound.cleanPush opus first feed instant
  have advance : next + BitVec.ofNat 32 (instant + 1) =
      next + BitVec.ofNat 32 instant + 1#32 := by bv_omega
  -- after the pop: one slot further, and the slot just served is not queued
  have popped : (current.cleanStep opus first feed instant).buffer.nextSeq =
        next + BitVec.ofNat 32 instant + 1#32 ∧
      (current.cleanStep opus first feed instant).buffer.started = true ∧
      ∀ seq, seq ∈ (current.cleanStep opus first feed instant).buffer.queue ↔
        seq ≠ next + BitVec.ofNat 32 instant ∧
          seq ∈ (current.cleanPush opus first feed instant).buffer.queue := by
    rcases Playout.clean_pop_cases opus conceals pushedSound started with
      ⟨present, -, served⟩ | ⟨missing, -, skipped⟩
    · unfold Playout.cleanStep
      rw [served]
      refine ⟨by rw [← nextAt]; rfl, started, ?_⟩
      intro seq
      rw [← nextAt]
      exact ⟨JitterBuffer.serve_mem, fun both => JitterBuffer.mem_serve both.1 both.2⟩
    · unfold Playout.cleanStep
      rw [skipped]
      have occupied :
          ¬ (current.cleanPush opus first feed instant).buffer.queue.isEmpty = true := by
        intro empty
        have here := (member_iff (first + BitVec.ofNat 32 instant)).mpr (Or.inr rfl)
        rw [Std.ExtTreeMap.isEmpty_iff.mp empty] at here
        simp at here
      refine ⟨by rw [JitterBuffer.skip_nextSeq, if_neg occupied, nextAt], started, ?_⟩
      intro seq
      rw [JitterBuffer.skip_queue]
      refine ⟨fun member => ⟨?_, member⟩, fun both => both.2⟩
      rintro rfl
      exact missing (nextAt ▸ member)
  obtain ⟨nextAfter, startedAfter, memberAfter⟩ := popped
  refine
    { sound := pushedSound.step opus _
      playoutAt := by simp [JitterBuffer.playoutAt, startedAfter, nextAfter, advance]
      inside := ?_
      kept := ?_ }
  · intro seq member
    obtain ⟨different, old⟩ := (memberAfter seq).mp member
    rw [advance]
    rcases (member_iff seq).mp old with queued | rfl
    · have bound := inStep.inside seq queued
      bv_omega
    · bv_omega
  · intro earlier before due
    refine (memberAfter _).mpr ⟨?_, (member_iff _).mpr ?_⟩
    · bv_omega
    · by_cases now : earlier = instant
      · exact Or.inr (by rw [now])
      · exact Or.inl (inStep.kept earlier (by omega) (by omega))

theorem InStep.real {config : JitterConfig} {next : Seq} {width instant : Nat}
    {current : Playout Decoder} (conceals : opus.Conceals)
    (inStep : InStep first config next width instant current)
    (narrow : width < maxEntries config) (offset : (first - next).toNat = width)
    (late : width ≤ instant) :
    ((current.cleanPush opus first feed instant).buffer.pop opus
      (current.cleanPush opus first feed instant).decoder kFrameSamples).real = true := by
  obtain ⟨member_iff, nextAt, started⟩ := inStep.pushed opus feed narrow offset
  have slot : next + BitVec.ofNat 32 instant = first + BitVec.ofNat 32 (instant - width) := by
    bv_omega
  have present : (current.cleanPush opus first feed instant).buffer.nextSeq ∈
      (current.cleanPush opus first feed instant).buffer.queue := by
    rw [nextAt, slot, member_iff]
    by_cases now : instant - width = instant
    · exact Or.inr (by rw [now])
    · exact Or.inl (inStep.kept _ (by omega) (by omega))
  rcases Playout.clean_pop_cases opus conceals
    (inStep.sound.cleanPush opus first feed instant) started with ⟨-, real, -⟩ | ⟨missing, -, -⟩
  · exact real
  · exact absurd present missing

/-- A stream that starts less than `maxEntries` slots past the playout point is
real from the step on at which it reaches the playout point. -/
theorem Playout.clean_real_of_near {config : JitterConfig} (conceals : opus.Conceals)
    (sound : playout.Sound config) (width : Nat)
    (offset : (first - playout.buffer.playoutAt first).toNat = width)
    (narrow : width < maxEntries config)
    (inside : ∀ seq ∈ playout.buffer.queue,
      (seq - playout.buffer.playoutAt first).toNat < width)
    (instant : Nat) (late : width ≤ instant) :
    playout.cleanReal opus first feed instant = true := by
  have inStep : ∀ count, InStep first config (playout.buffer.playoutAt first) width count
      (playout.cleanRun opus first feed count) := by
    intro count
    induction count with
    | zero =>
        have zero : ∀ seq : Seq, seq + BitVec.ofNat 32 0 = seq := by intro seq; bv_omega
        exact
          { sound := sound
            playoutAt := by rw [zero, zero]; rfl
            inside := by rw [zero]; exact inside
            kept := by intro earlier before; exact absurd before (Nat.not_lt_zero _) }
    | succ count ih =>
        rw [Playout.cleanRun_succ]
        exact ih.step opus feed conceals narrow offset
  exact (inStep instant).real opus feed conceals narrow offset late

/-! ### A playout point too far behind -/

variable {playout}

theorem Playout.cleanStep_mem {current : Playout Decoder} {instant : Nat} {seq : Seq}
    (member : seq ∈ (current.cleanStep opus first feed instant).buffer.queue) :
    seq ∈ (current.cleanPush opus first feed instant).buffer.queue := by
  unfold Playout.cleanStep at member
  simp only [Playout.step] at member
  rcases (current.cleanPush opus first feed instant).buffer.pop_cases opus
      (current.cleanPush opus first feed instant).decoder kFrameSamples with
    ⟨-, same, -⟩ | ⟨-, -, -, skipped, -⟩ | ⟨-, -, entry, -, served, -⟩
  · rwa [same] at member
  · rwa [skipped] at member
  · rw [served] at member
    exact (JitterBuffer.serve_mem member).2

theorem Playout.cleanPush_mem {current : Playout Decoder} {instant : Nat} {seq : Seq}
    (member : seq ∈ (current.cleanPush opus first feed instant).buffer.queue) :
    seq ∈ current.buffer.queue ∨ seq = first + BitVec.ofNat 32 instant := by
  rcases current.buffer.push_mem _ seq _ _ member with old | ⟨new, -⟩
  · exact Or.inl old
  · exact Or.inr new

theorem Playout.cleanRun_mem {start count : Nat} {seq : Seq}
    (member : seq ∈ ((playout.cleanRun opus first feed (start + count)).cleanPush opus first feed
      (start + count)).buffer.queue) :
    seq ∈ ((playout.cleanRun opus first feed start).cleanPush opus first feed start).buffer.queue ∨
      ∃ later, 0 < later ∧ later ≤ count ∧
        seq = first + BitVec.ofNat 32 (start + later) := by
  induction count with
  | zero => exact Or.inl member
  | succ count ih =>
      rcases Playout.cleanPush_mem opus feed member with old | new
      · rw [Nat.add_succ, Playout.cleanRun_succ] at old
        rcases ih (Playout.cleanStep_mem opus feed old) with before | ⟨later, after, within, same⟩
        · exact Or.inl before
        · exact Or.inr ⟨later, after, by omega, same⟩
      · exact Or.inr ⟨count + 1, Nat.succ_pos _, Nat.le_refl _, new⟩

variable (first) in
theorem Playout.cleanStep_nextSeq {current : Playout Decoder} (instant : Nat)
    (started : current.buffer.started = true) :
    (current.cleanStep opus first feed instant).buffer.started = true ∧
    ((current.cleanStep opus first feed instant).buffer.nextSeq = current.buffer.nextSeq ∨
      (current.cleanStep opus first feed instant).buffer.nextSeq =
        current.buffer.nextSeq + 1#32) ∧
    (((current.cleanPush opus first feed instant).buffer.pop opus
        (current.cleanPush opus first feed instant).decoder kFrameSamples).real = true →
      current.buffer.nextSeq ∈ (current.cleanPush opus first feed instant).buffer.queue ∧
      (current.cleanStep opus first feed instant).buffer.nextSeq =
        current.buffer.nextSeq + 1#32) := by
  have pushedNext : (current.cleanPush opus first feed instant).buffer.nextSeq =
      current.buffer.nextSeq := by
    simp [Playout.cleanPush, Playout.step, JitterBuffer.playoutAt, started]
  have pushedStarted : (current.cleanPush opus first feed instant).buffer.started = true :=
    JitterBuffer.push_started _ _ _ _
  unfold Playout.cleanStep
  simp only [Playout.step]
  rcases (current.cleanPush opus first feed instant).buffer.pop_cases opus
      (current.cleanPush opus first feed instant).decoder kFrameSamples with
    ⟨idle, -, -⟩ | ⟨-, -, -, skipped, concealed⟩ | ⟨-, -, entry, present, served, -⟩
  · rcases idle with idle | idle
    · rw [pushedStarted] at idle
      cases idle
    · exact absurd rfl idle
  · rw [skipped, concealed, JitterBuffer.skip_nextSeq, pushedNext]
    refine ⟨pushedStarted, ?_, by intro impossible; cases impossible⟩
    split
    · exact Or.inl rfl
    · exact Or.inr rfl
  · rw [served]
    have here : (current.cleanPush opus first feed instant).buffer.nextSeq ∈
        (current.cleanPush opus first feed instant).buffer.queue := by
      rw [Std.ExtTreeMap.mem_iff_isSome_getElem?, present]
      rfl
    have moved : (current.cleanPush opus first feed instant).buffer.serve.nextSeq =
        current.buffer.nextSeq + 1#32 := by
      rw [← pushedNext]
      rfl
    exact ⟨pushedStarted, Or.inr moved, fun _ => ⟨pushedNext ▸ here, moved⟩⟩

/-- The stream never gains on the playout point: after any number of clean steps
it is at least as far ahead as at the start. -/
theorem Playout.cleanRun_lag (started : playout.buffer.started = true)
    (within : (first - playout.buffer.nextSeq).toNat ≤ 2 ^ 31) (instant : Nat)
    (soon : instant < 2 ^ 31) :
    (playout.cleanRun opus first feed instant).buffer.started = true ∧
    (first - playout.buffer.nextSeq).toNat ≤
      (first + BitVec.ofNat 32 instant -
        (playout.cleanRun opus first feed instant).buffer.nextSeq).toNat ∧
    (first + BitVec.ofNat 32 instant -
      (playout.cleanRun opus first feed instant).buffer.nextSeq).toNat ≤
        (first - playout.buffer.nextSeq).toNat + instant := by
  induction instant with
  | zero =>
      have zero : first + BitVec.ofNat 32 0 = first := by bv_omega
      rw [zero]
      exact ⟨started, Nat.le_refl _, Nat.le_refl _⟩
  | succ instant ih =>
      obtain ⟨running, low, high⟩ := ih (by omega)
      obtain ⟨still, moved, -⟩ :=
        Playout.cleanStep_nextSeq opus first feed instant running
      rw [Playout.cleanRun_succ]
      refine ⟨still, ?_⟩
      rcases moved with same | next
      · rw [same]
        constructor <;> bv_omega
      · rw [next]
        constructor <;> bv_omega

/-- From a playout point at least `maxEntries` slots behind, no clean stream is
real for good within `maxEntries` steps: the slots in between would all have to be
queued, together with the packet just pushed. -/
theorem Playout.not_clean_real_of_far {config : JitterConfig}
    (sound : playout.Sound config) (started : playout.buffer.started = true)
    (within : (first - playout.buffer.nextSeq).toNat ≤ 2 ^ 31)
    (far : maxEntries config ≤ (first - playout.buffer.nextSeq).toNat)
    (start : Nat) (soon : start < maxEntries config)
    (real : ∀ later, start ≤ later → playout.cleanReal opus first feed later = true) :
    False := by
  have entries := maxEntries_lt config
  obtain ⟨running, low, high⟩ :=
    Playout.cleanRun_lag opus feed started within start (by omega)
  obtain ⟨lag, lagAt⟩ : ∃ lag, lag = (first + BitVec.ofNat 32 start -
      (playout.cleanRun opus first feed start).buffer.nextSeq).toNat := ⟨_, rfl⟩
  rw [← lagAt] at low high
  -- every later slot is served by its own packet
  have served : ∀ count,
      (playout.cleanRun opus first feed (start + count)).buffer.started = true ∧
      (playout.cleanRun opus first feed (start + count)).buffer.nextSeq =
        (playout.cleanRun opus first feed start).buffer.nextSeq + BitVec.ofNat 32 count := by
    intro count
    induction count with
    | zero => exact ⟨running, by simp⟩
    | succ count ih =>
        obtain ⟨still, -, onward⟩ :=
          Playout.cleanStep_nextSeq opus first feed (start + count) ih.1
        obtain ⟨-, moved⟩ := onward (real (start + count) (Nat.le_add_right _ _))
        rw [Nat.add_succ, Playout.cleanRun_succ]
        refine ⟨still, ?_⟩
        rw [moved, ih.2]
        bv_omega
  have queued : ∀ offset < lag + 1,
      (playout.cleanRun opus first feed start).buffer.nextSeq + BitVec.ofNat 32 offset ∈
        ((playout.cleanRun opus first feed start).cleanPush opus first feed
          start).buffer.queue := by
    intro offset close
    obtain ⟨onTheWay, slot⟩ := served offset
    obtain ⟨-, -, onward⟩ :=
      Playout.cleanStep_nextSeq opus first feed (start + offset) onTheWay
    obtain ⟨present, -⟩ := onward (real (start + offset) (Nat.le_add_right _ _))
    rw [slot] at present
    rcases Playout.cleanRun_mem opus feed present with before | ⟨later, after, bound, same⟩
    · exact before
    · exfalso
      bv_omega
  have size := Queue.le_size_of_offsets _ _ (lag + 1) (by omega) queued
  have bounded := ((sound.cleanRun opus first feed playout start).cleanPush opus first feed
    start).bounded
  omega

end CleanStream

/-! ### Every reachable buffer -/

/-- From any history, a clean stream turns real within `maxEntries` steps and
stays real exactly when fewer than `maxEntries` slots lie from the playout point
up to the highest number received. -/
theorem clean_stream_recovers_iff (opus : OpusLibrary Decoder) (conceals : opus.Conceals)
    (config : JitterConfig) (decoder : Decoder) (ops : List PlayoutOp) (start : Seq)
    (feed : Feed) :
    let playout := Run.final (Playout.step opus) (Playout.initial config decoder) ops
    (∃ soon < maxEntries config, ∀ later, soon ≤ later →
      playout.cleanReal opus (playout.nextInOrder start) feed later = true) ↔
    ∀ highest, playout.highest = some highest →
      lead highest playout.buffer.nextSeq < maxEntries config := by
  intro playout
  have sound : playout.Sound config := Playout.sound_final opus config decoder ops
  cases highestAt : playout.highest with
  | none =>
      refine iff_of_true ⟨0, Nat.succ_pos _, ?_⟩ (by intro highest impossible; cases impossible)
      intro later _
      obtain ⟨fresh, empty⟩ := sound.untouched highestAt
      refine playout.clean_real_of_near opus feed conceals sound 0 ?_ (Nat.succ_pos _) ?_ later
        (Nat.zero_le _)
      · simp [JitterBuffer.playoutAt, fresh]
      · intro seq member
        rw [empty] at member
        simp at member
  | some highest =>
      obtain ⟨started, within, inside⟩ := sound.tracked highest highestAt
      have first : playout.nextInOrder start = highest + 1#32 := by
        simp [Playout.nextInOrder, highestAt]
      have playoutAt : playout.buffer.playoutAt (highest + 1#32) = playout.buffer.nextSeq := by
        simp [JitterBuffer.playoutAt, started]
      rw [first]
      constructor
      · rintro ⟨soon, bound, real⟩ other otherEq
        cases otherEq
        by_contra far
        exact Playout.not_clean_real_of_far opus feed sound started within (Nat.le_of_not_lt far)
          soon bound real
      · intro near
        refine ⟨lead highest playout.buffer.nextSeq, near highest rfl, ?_⟩
        intro later late
        refine playout.clean_real_of_near opus feed conceals sound _ ?_ (near highest rfl) ?_
          later late
        · rw [playoutAt]
          rfl
        · rw [playoutAt]
          exact inside

/-- An Opus decoder that turns everything into a silent frame. -/
def silentOpus : OpusLibrary Unit :=
  { decodeFloat := fun decoder _ => (decoder, some (silentPcm kFrameSamples)) }

theorem silentOpus_conceals : silentOpus.Conceals := fun _ => rfl

def lossAndBurst : List PlayoutOp :=
  [.push 0#32 [1] 0#64, .pop 960, .push 1#32 [1] 20#64, .pop 960, .push 2#32 [1] 40#64, .pop 960,
    .pop 960, .push 4#32 [1] 140#64, .push 5#32 [1] 140#64, .push 6#32 [1] 140#64,
    .push 7#32 [1] 140#64, .push 8#32 [1] 140#64, .pop 960]

/-- The stream goes on after them, with the default configuration. -/
theorem clean_stream_recovers_after_burst :
    let playout := Run.final (Playout.step silentOpus) (Playout.initial {} ()) lossAndBurst
    ∃ soon < maxEntries {}, ∀ later, soon ≤ later →
      playout.cleanReal silentOpus (playout.nextInOrder 0#32) (fun _ => ([1], 0#64)) later =
        true := by
  intro playout
  apply (clean_stream_recovers_iff silentOpus silentOpus_conceals {} () lossAndBurst 0#32
    (fun _ => ([1], 0#64))).mpr
  intro highest received
  have last : playout.highest = some 8#32 := by decide +kernel
  obtain rfl : highest = 8#32 := Option.some.inj (received.symm.trans last)
  decide +kernel

def burst (count : Nat) : List PlayoutOp :=
  (List.range (count + 1)).map fun index => .push (BitVec.ofNat 32 index) [1] 0#64

theorem burst_final (opus : OpusLibrary Decoder) (config : JitterConfig) (decoder : Decoder)
    (count : Nat) (small : count < 2 ^ 31) :
    let playout := Run.final (Playout.step opus) (Playout.initial config decoder) (burst count)
    playout.buffer.started = true ∧ playout.buffer.nextSeq = 0#32 ∧
      playout.highest = some (BitVec.ofNat 32 count) := by
  induction count with
  | zero => exact ⟨JitterBuffer.push_started _ _ _ _, JitterBuffer.push_nextSeq _ _ _ _, rfl⟩
  | succ count ih =>
      obtain ⟨started, next, highest⟩ := ih (by omega)
      have longer : burst (count + 1) =
          burst count ++ [.push (BitVec.ofNat 32 (count + 1)) [1] 0#64] := by
        simp only [burst, @List.range_succ (count + 1), List.map_append, List.map_cons,
          List.map_nil]
      rw [longer, Run.final_snoc]
      refine ⟨JitterBuffer.push_started _ _ _ _, ?_, ?_⟩
      · simp only [Playout.step, JitterBuffer.push_nextSeq, JitterBuffer.playoutAt, started,
          if_true, next]
      · simp only [Playout.step, highest, JitterBuffer.raise]
        rw [if_pos]
        rw [JitterBuffer.age_lt_iff, next]
        bv_omega

/-- Fourteen packets ahead of the first pop fill the default buffer, and no clean
stream after them is ever heard for good. -/
theorem burst_never_recovers :
    ¬ ∀ (opus : OpusLibrary Unit) (config : JitterConfig) (ops : List PlayoutOp) (start : Seq)
        (feed : Feed), opus.Conceals → config.prefillMs ≤ config.maxMs →
      let playout := Run.final (Playout.step opus) (Playout.initial config ()) ops
      ∃ soon < maxEntries config, ∀ later, soon ≤ later →
        playout.cleanReal opus (playout.nextInOrder start) feed later = true := by
  intro everyHistory
  obtain ⟨soon, bound, real⟩ := everyHistory silentOpus {} (burst 13) 0#32
    (fun _ => ([1], 0#64)) silentOpus_conceals (by decide)
  obtain ⟨started, next, highest⟩ := burst_final silentOpus {} () 13 (by decide)
  have first : (Run.final (Playout.step silentOpus) (Playout.initial {} ())
      (burst 13)).nextInOrder 0#32 = 14#32 := by
    simp [Playout.nextInOrder, highest]
  rw [first] at real
  refine Playout.not_clean_real_of_far silentOpus (fun _ => ([1], 0#64))
    (Playout.sound_final silentOpus {} () (burst 13)) started ?_ ?_ soon bound real
  · rw [next]
    decide
  · rw [next]
    decide

end SmartMic.Media
