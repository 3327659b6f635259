import SmartMic.Audio.WavPlayback

set_option autoImplicit false

/-! A source from its start on: every run of reads hears the recording of the file that was
accepted. A source that repeats a recording without a single frame never answers. -/

namespace SmartMic.Audio

section

variable {α : Type} [SampleArithmetic α]

def WavFileSource.reads (rounds : Nat) :
    List Nat → WavFileSource α → Option (List (SourceStatus × List α))
  | [], _ => some []
  | samples :: rest, source =>
      match source.read rounds samples with
      | none => none
      | some (answer, next) => (WavFileSource.reads rounds rest next).map (answer :: ·)

/-- What the reads of a recording answer that is played once. -/
def playedOnce (left : List α) : List Nat → List (SourceStatus × List α)
  | [] => []
  | samples :: rest =>
      (if samples ≤ left.length then .ok else .underrun,
        left.take samples ++ List.replicate (samples - left.length) 0) ::
        playedOnce (left.drop samples) rest

/-- What they answer when it is played over and over: all that was asked for, and together a
beginning of the converted repetitions. -/
structure PlaysOver (rate : BitVec 32) (recording : List α) (sizes : List Nat)
    (answers : List (SourceStatus × List α)) : Prop where
  all : answers.map (fun answer => (answer.1, answer.2.length)) =
    sizes.map fun samples => (.ok, samples)
  stream : ∃ passes,
    answers.flatMap Prod.snd <+: converted rate (cycled (refills recording) passes)

variable {loop : Bool} {rate : BitVec 32} {recording heard : List α} {fed : List (List α)}
  {source : WavFileSource α} {file : ByteFile}

/-! ### One read -/

def WavFileSource.waiting (source : WavFileSource α) : List α :=
  source.pending.drop source.pendingPos

omit [SampleArithmetic α] in
theorem WavFileSource.waiting_length (source : WavFileSource α) :
    source.waiting.length = source.waits := List.length_drop

theorem WavFileSource.read_of_refilled {rounds samples : Nat} {result : Refilled α}
    (opened : source.fp = some file)
    (refilled : loopFor (WavFileSource.refillRound samples) rounds (source, file) = some result)
    (refills : WavFileSource.Refills loop rate recording heard samples result) :
    ∃ next, (∀ more, rounds ≤ more → source.read more samples =
        some ((if samples ≤ result.source.waits then .ok else .underrun,
          result.source.waiting.take samples ++
            List.replicate (samples - result.source.waits) 0), next)) ∧
      next.fp = some result.file ∧
      ∀ fed, result.source.Plays loop rate recording heard fed result.file →
        next.Plays loop rate recording (heard ++ result.source.waiting.take samples) fed
          result.file := by
  obtain ⟨ok, filled, behind⟩ := result
  dsimp only at refills ⊢
  have ok_iff := refills.enough
  dsimp only at ok_iff
  let n := min samples filled.waits
  let position := filled.pendingPos + n
  have taken : filled.waiting.take n = filled.waiting.take samples := by
    rw [@List.take_eq_take_min _ filled.waiting samples, filled.waiting_length]
  refine ⟨{ filled with
      fp := some behind
      pending := if decide (2 ^ 16 < position) then filled.pending.drop position
        else filled.pending
      pendingPos := if decide (2 ^ 16 < position) then 0 else position },
    fun more enough => ?_, rfl, fun fed plays => ?_⟩
  · have whole := loopFor_mono _ enough refilled
    have missing : samples - n = samples - filled.waits := by omega
    unfold WavFileSource.read
    rw [opened]
    dsimp only
    rw [whole]
    dsimp only
    change some ((if ok = true ∧ n = samples then _ else _,
      filled.waiting.take n ++ List.replicate (samples - n) 0), _) = _
    rw [taken, missing]
    by_cases all : samples ≤ filled.waits
    · rw [if_pos all, if_pos ⟨ok_iff.mpr all, Nat.min_eq_left all⟩]
    · rw [if_neg all, if_neg fun both => all (ok_iff.mp both.1)]
  · have within : position ≤ filled.pending.length := by
      have room : filled.pendingPos ≤ filled.pending.length := plays.position
      change filled.pendingPos + min samples (filled.pending.length - filled.pendingPos) ≤ _
      omega
    have left : (if decide (2 ^ 16 < position) then filled.pending.drop position
        else filled.pending).drop (if decide (2 ^ 16 < position) then 0 else position) =
          filled.waiting.drop n := by
      have dropped : filled.pending.drop position = filled.waiting.drop n := by
        unfold WavFileSource.waiting
        rw [List.drop_drop]
      split
      · exact dropped
      · exact dropped
    exact
      { loops := plays.loops
        located :=
          ⟨plays.located.start, plays.located.size, plays.located.bounded,
            plays.located.consumed⟩
        recorded := plays.recorded
        position := by
          dsimp only
          split
          · exact Nat.zero_le _
          · exact within
        resampler := plays.resampler
        pending := by
          dsimp only
          rw [left, ← taken, List.append_assoc, List.take_append_drop]
          exact plays.pending
        place := plays.place }

/-- A source between two calls of `read`. -/
def WavFileSource.Playing (loop : Bool) (rate : BitVec 32) (recording heard : List α)
    (source : WavFileSource α) : Prop :=
  ∃ file fed, source.fp = some file ∧ source.Plays loop rate recording heard fed file

theorem WavFileSource.Plays.fed_prefix
    (plays : source.Plays false rate recording heard fed file) : fed <+: refills recording := by
  obtain ⟨passes, played, before, whole, once⟩ := plays.place
  rw [before, once rfl]
  exact ⟨_, whole⟩

theorem WavFileSource.Plays.fed_cycled
    (plays : source.Plays loop rate recording heard fed file) :
    ∃ passes, fed <+: cycled (refills recording) passes := by
  obtain ⟨passes, played, before, whole, -⟩ := plays.place
  refine ⟨passes + 1, refills (mixedDown source.channels.toNat (source.toCome file)), ?_⟩
  unfold cycled at before ⊢
  rw [before, List.append_assoc, whole, List.replicate_succ', List.flatten_append,
    List.flatten_singleton]

omit [SampleArithmetic α] in
theorem drop_length_take (count : Nat) (items : List α) :
    items.drop (items.take count).length = items.drop count := by
  rw [List.length_take]
  rcases Nat.le_total count items.length with few | many
  · rw [Nat.min_eq_left few]
  · rw [Nat.min_eq_right many, List.drop_length, List.drop_eq_nil_of_le many]

theorem converted_of_prefix {first whole : List (List α)} (begins : first <+: whole)
    (short : ∀ block ∈ whole, BlockSized block) :
    converted rate first <+: converted rate whole := by
  obtain ⟨rest, rfl⟩ := begins
  exact converted_prefix short

theorem WavFileSource.Playing.read_once
    (playing : source.Playing false rate recording heard) (samples : Nat) :
    let left := (converted rate (refills recording)).drop heard.length
    ∃ next bound, (∀ rounds, bound ≤ rounds → source.read rounds samples =
        some ((if samples ≤ left.length then .ok else .underrun,
          left.take samples ++ List.replicate (samples - left.length) 0), next)) ∧
      next.Playing false rate recording (heard ++ left.take samples) := by
  intro left
  obtain ⟨file, fed, opened, plays⟩ := playing
  obtain ⟨bound, result, refilled, left_over⟩ := plays.refill_once samples
  obtain ⟨next, answers, reopened, still⟩ :=
    WavFileSource.read_of_refilled opened refilled left_over
  obtain ⟨fed', plays', all⟩ := left_over.plays
  obtain ⟨more, rest⟩ := converted_of_prefix plays'.fed_prefix (refills_sized recording)
  have ahead : left = result.source.waiting ++ more := by
    change (converted rate (refills recording)).drop heard.length = _
    rw [← rest, ← plays'.pending, List.append_assoc, List.drop_left]
    rfl
  have length := result.source.waiting_length
  have whole : result.ok = false → more = [] := by
    intro failed
    rw [(all failed).2] at rest
    exact List.append_right_eq_self.mp rest
  have same : left.take samples = result.source.waiting.take samples ∧
      (samples ≤ left.length ↔ samples ≤ result.source.waits) ∧
      samples - left.length = samples - result.source.waits := by
    by_cases enough : samples ≤ result.source.waits
    · rw [ahead, List.take_append_of_le_length (length ▸ enough), List.length_append, length]
      exact ⟨rfl, by omega, by omega⟩
    · have failed : result.ok = false :=
        Bool.eq_false_iff.mpr fun ok => enough (left_over.enough.mp ok)
      rw [ahead, whole failed, List.append_nil, length]
      exact ⟨rfl, Iff.rfl, rfl⟩
  obtain ⟨taken, all_there, missing⟩ := same
  refine ⟨next, bound, fun rounds enough => ?_, ?_⟩
  · rw [answers rounds enough, taken, missing]
    by_cases there : samples ≤ left.length
    · rw [if_pos there, if_pos (all_there.mp there)]
    · rw [if_neg there, if_neg fun waits => there (all_there.mpr waits)]
  · rw [taken]
    exact ⟨_, _, reopened, still fed' plays'⟩

theorem WavFileSource.Playing.read_looped
    (playing : source.Playing true rate recording heard) (audible : recording ≠ [])
    (samples : Nat) :
    ∃ next bound answer, (∀ rounds, bound ≤ rounds →
        source.read rounds samples = some ((.ok, answer), next)) ∧
      answer.length = samples ∧ next.Playing true rate recording (heard ++ answer) := by
  obtain ⟨file, fed, opened, plays⟩ := playing
  obtain ⟨bound, result, refilled, left_over⟩ := plays.refill_looped audible samples
  obtain ⟨next, answers, reopened, still⟩ :=
    WavFileSource.read_of_refilled opened refilled left_over
  obtain ⟨fed', plays', all⟩ := left_over.plays
  have enough : samples ≤ result.source.waits := by
    rw [← left_over.enough]
    by_contra failed
    cases (all (Bool.eq_false_iff.mpr failed)).1
  refine ⟨next, bound, result.source.waiting.take samples, fun rounds reached => ?_, ?_, ?_⟩
  · rw [answers rounds reached, if_pos enough, Nat.sub_eq_zero_of_le enough, List.replicate_zero,
      List.append_nil]
  · rw [List.length_take, result.source.waiting_length]
    exact Nat.min_eq_left enough
  · exact ⟨_, _, reopened, still fed' plays'⟩

theorem WavFileSource.Playing.read_hangs (playing : source.Playing true rate [] heard)
    {samples : Nat} (short : source.waits < samples) (rounds : Nat) :
    source.read rounds samples = none := by
  obtain ⟨file, fed, opened, plays⟩ := playing
  unfold WavFileSource.read
  rw [opened]
  dsimp only
  rw [plays.refill_hangs short rounds]

/-! ### Runs -/

theorem WavFileSource.Playing.reads_once (sizes : List Nat) :
    ∀ {source : WavFileSource α} {heard : List α},
      source.Playing false rate recording heard →
        ∃ bound, ∀ rounds, bound ≤ rounds → source.reads rounds sizes =
          some (playedOnce ((converted rate (refills recording)).drop heard.length) sizes) := by
  induction sizes with
  | nil => exact fun _playing => ⟨0, fun _rounds _enough => rfl⟩
  | cons samples rest ih =>
      intro source heard playing
      obtain ⟨next, bound, answers, still⟩ := playing.read_once samples
      obtain ⟨later, answered⟩ := ih still
      refine ⟨max bound later, fun rounds enough => ?_⟩
      have here := answers rounds ((Nat.le_max_left _ _).trans enough)
      have there := answered rounds ((Nat.le_max_right _ _).trans enough)
      rw [WavFileSource.reads, here]
      dsimp only
      rw [there, List.length_append, ← List.drop_drop, drop_length_take]
      rfl

theorem WavFileSource.Playing.reads_looped (audible : recording ≠ []) (sizes : List Nat) :
    ∀ {source : WavFileSource α} {heard : List α},
      source.Playing true rate recording heard →
        ∃ answers, answers.map (fun answer => (answer.1, answer.2.length)) =
            sizes.map (fun samples => (SourceStatus.ok, samples)) ∧
          (∃ passes, heard ++ answers.flatMap Prod.snd <+:
            converted rate (cycled (refills recording) passes)) ∧
          ∃ bound, ∀ rounds, bound ≤ rounds → source.reads rounds sizes = some answers := by
  induction sizes with
  | nil =>
      rintro source heard ⟨file, fed, opened, plays⟩
      obtain ⟨passes, fed_prefix⟩ := plays.fed_cycled
      refine ⟨[], rfl, ⟨passes, ?_⟩, 0, fun _rounds _enough => rfl⟩
      rw [List.flatMap_nil, List.append_nil]
      exact (List.prefix_append heard _).trans
        (plays.pending ▸ converted_of_prefix fed_prefix (cycled_sized recording passes))
  | cons samples rest ih =>
      intro source heard playing
      obtain ⟨next, bound, answer, answers, length, still⟩ := playing.read_looped audible samples
      obtain ⟨others, sized, ⟨passes, stream⟩, later, answered⟩ := ih still
      refine ⟨(.ok, answer) :: others, ?_, ⟨passes, ?_⟩, max bound later,
        fun rounds enough => ?_⟩
      · rw [List.map_cons, List.map_cons, sized, length]
      · rw [List.flatMap_cons, ← List.append_assoc]
        exact stream
      · have here := answers rounds ((Nat.le_max_left _ _).trans enough)
        have there := answered rounds ((Nat.le_max_right _ _).trans enough)
        rw [WavFileSource.reads, here]
        dsimp only
        rw [there]
        rfl

theorem WavFileSource.Playing.reads_hang {sizes : List Nat} (rounds : Nat)
    (asks : ∃ samples ∈ sizes, 0 < samples) :
    ∀ {source : WavFileSource α}, source.Playing true rate [] [] → source.waits = 0 →
      source.reads rounds sizes = none := by
  induction sizes with
  | nil =>
      obtain ⟨samples, member, -⟩ := asks
      exact absurd member List.not_mem_nil
  | cons first rest ih =>
      intro source playing nothing
      rw [WavFileSource.reads]
      rcases Nat.eq_zero_or_pos first with rfl | positive
      · have later_asks : ∃ samples ∈ rest, 0 < samples := by
          obtain ⟨samples, member, positive⟩ := asks
          rcases List.mem_cons.mp member with rfl | member
          · exact absurd positive (Nat.lt_irrefl 0)
          · exact ⟨samples, member, positive⟩
        obtain ⟨file, fed, opened, plays⟩ := playing
        cases rounds with
        | zero =>
            unfold WavFileSource.read
            rw [opened]
            rfl
        | succ rounds =>
            have done : WavFileSource.refillRound 0 (source, file) =
                some (.done { ok := true, source := source, file := file }) := by
              unfold WavFileSource.refillRound
              exact if_pos (Nat.zero_le _)
            obtain ⟨next, answers, reopened, still⟩ :=
              WavFileSource.read_of_refilled opened (loopFor_done _ rounds done)
                (plays.ends (Nat.zero_le _))
            have later := still fed plays
            rw [answers _ (Nat.le_refl _)]
            dsimp only
            rw [ih later_asks ⟨_, _, reopened, later⟩]
            · rfl
            · have account := plays.heard_waits
              have account' := later.heard_waits
              rw [List.take_zero, List.append_nil, ← account] at account'
              exact (Nat.add_left_cancel account').trans nothing
      · rw [playing.read_hangs (nothing ▸ positive) rounds]

/-! ### The start -/

/-- What `start` does not touch while it looks for the data. -/
structure WavFileSource.Scanning (loop : Bool) (contents : Bytes) (source : WavFileSource α)
    (file : ByteFile) : Prop where
  loops : source.loop = loop
  pending : source.pending = []
  pendingPos : source.pendingPos = 0
  contents : file.contents = contents

omit [SampleArithmetic α] in
theorem WavFileSource.Scanning.onFormat
    {contents : Bytes} (scanning : source.Scanning loop contents file) (size : BitVec 32)
    {outcome : Scan α} (formatted : source.onFormat size file = some outcome) :
    (∃ next behind, outcome = .next (next, behind) ∧
        next.Scanning loop contents behind ∧ next.dataStart = source.dataStart) ∨
      ∃ scanned, outcome = .done scanned ∧ scanned.accepted = false := by
  unfold WavFileSource.onFormat at formatted
  dsimp only at formatted
  split at formatted
  · rw [Option.some.injEq] at formatted
    exact .inr ⟨_, formatted.symm, rfl⟩
  · split at formatted
    · cases formatted
    · split at formatted
      · rw [Option.some.injEq] at formatted
        exact .inr ⟨_, formatted.symm, rfl⟩
      · rw [Option.some.injEq] at formatted
        exact .inl ⟨_, _, formatted.symm,
          ⟨scanning.loops, scanning.pending, scanning.pendingPos, scanning.contents⟩, rfl⟩

theorem toLong_lt (longBits : Nat) (value : BitVec 32) : toLong longBits value < 2 ^ 64 := by
  have most : ((value.toNat : Int) % (2 ^ longBits : Nat)) ≤ value.toNat := by
    exact_mod_cast Nat.mod_le value.toNat (2 ^ longBits)
  have bound := value.isLt
  unfold toLong
  rw [Int.bmod_def]
  push_cast at most ⊢
  have positive : (0 : Int) < 2 ^ longBits := by positivity
  split <;> omega

/-- Where the loop over the chunks leaves the source if it is accepted. -/
structure Scanned.Found (loop : Bool) (contents : Bytes) (scanned : Scanned α) : Prop where
  scanning : scanned.source.Scanning loop contents scanned.file
  bounded : scanned.source.dataBytes < 2 ^ 64
  place : 0 ≤ scanned.source.dataStart → scanned.source.dataStart = scanned.file.position

omit [SampleArithmetic α] in
/-- A chunk either is passed over, or it ends the loop at the data or without success. -/
theorem WavFileSource.Scanning.onChunk {longBits : Nat} {contents : Bytes}
    (scanning : source.Scanning loop contents file) (fresh : source.dataStart = 0)
    {outcome : Scan α} (chunk : WavFileSource.onChunk longBits (source, file) = some outcome) :
    (∃ next behind, outcome = .next (next, behind) ∧
        next.Scanning loop contents behind ∧ next.dataStart = 0) ∨
      ∃ scanned, outcome = .done scanned ∧
        (scanned.accepted = true → scanned.source.dataStart ≠ 0 →
          scanned.Found loop contents) := by
  unfold WavFileSource.onChunk at chunk
  dsimp only at chunk
  have behind : source.Scanning loop contents (file.read 8).2 :=
    ⟨scanning.loops, scanning.pending, scanning.pendingPos, scanning.contents⟩
  split at chunk
  · rw [Option.some.injEq] at chunk
    exact .inr ⟨_, chunk.symm, fun _accepted located => absurd fresh located⟩
  · split at chunk
    · rcases behind.onFormat _ chunk with ⟨next, after, rfl, still, same⟩ | ⟨scanned, rfl, refused⟩
      · exact .inl ⟨next, after, rfl, still, same.trans fresh⟩
      · refine .inr ⟨scanned, rfl, fun accepted _located => ?_⟩
        rw [refused] at accepted
        cases accepted
    · split at chunk
      · rw [Option.some.injEq] at chunk
        refine .inr ⟨_, chunk.symm, fun _accepted _located => ?_⟩
        exact
          { scanning := ⟨behind.loops, behind.pending, behind.pendingPos, behind.contents⟩
            bounded := toLong_lt longBits _
            place := fun positive => by
              dsimp only at positive ⊢
              unfold ftell at positive ⊢
              split at positive
              · rename_i short
                rw [if_pos short]
              · cases positive }
      · rw [Option.some.injEq] at chunk
        refine .inl ⟨source, _, chunk.symm, ⟨behind.loops, behind.pending, behind.pendingPos, ?_⟩,
          fresh⟩
        rw [FileCursor.seek_contents]
        exact behind.contents

/-- The samples of the data chunk that the source has found in a file. -/
def WavFileSource.recordingIn (source : WavFileSource α) (contents : Bytes) : List α :=
  mixedDown source.channels.toNat
    (shortsOf ((contents.drop source.dataStart.toNat).take source.dataBytes.toNat))

theorem WavFileSource.started_plays {longBits rounds : Nat} {contents : Bytes}
    (started : (WavFileSource.new loop).start longBits rounds (some contents) =
      some (true, source))
    (start : 0 ≤ source.dataStart) (size : 0 ≤ source.dataBytes) :
    source.Playing loop source.rate (source.recordingIn contents) [] ∧ source.waits = 0 := by
  unfold WavFileSource.start at started
  dsimp only at started
  split at started
  · cases started
  · split at started
    · cases started
    · rename_i scanned found
      have scan : scanned.accepted = true → scanned.source.dataStart ≠ 0 →
          scanned.Found loop contents := by
        refine @loopFor_sound _ _ _
          (fun state => state.1.Scanning loop contents state.2 ∧ state.1.dataStart = 0)
          (fun scanned => scanned.accepted = true → scanned.source.dataStart ≠ 0 →
            scanned.Found loop contents) ?_ ?_ rounds _ _ ⟨⟨rfl, rfl, rfl, rfl⟩, rfl⟩ found
        · rintro ⟨source, file⟩ ⟨next, behind⟩ ⟨scanning, fresh⟩ goesOn
          rcases scanning.onChunk fresh goesOn with
            ⟨next', behind', same, still, unset⟩ | ⟨scanned, same, -⟩
          · cases same
            exact ⟨still, unset⟩
          · cases same
        · rintro ⟨source, file⟩ scanned ⟨scanning, fresh⟩ ends
          rcases scanning.onChunk fresh ends with
            ⟨next', behind', same, -, -⟩ | ⟨scanned', same, left⟩
          · cases same
          · cases same
            exact left
      split at started
      · cases started
      · rename_i accepted
        obtain ⟨yes, located⟩ := not_or.mp accepted
        rw [Option.some.injEq, Prod.mk.injEq] at started
        obtain ⟨-, rfl⟩ := started
        obtain ⟨scanning, bounded, place⟩ := scan (by simpa using yes) located
        dsimp only at start size located
        refine ⟨⟨scanned.file, [], rfl, ?_⟩, ?_⟩
        · exact
            { loops := scanning.loops
              located := ⟨start, size, bounded, Int.le_refl 0⟩
              recorded := by
                unfold WavFileSource.items WavFileSource.recordingIn
                rw [scanning.contents]
              position := by
                dsimp only
                rw [scanning.pendingPos]
                exact Nat.zero_le _
              resampler := LinearResampler.fed_new _
              pending := by
                dsimp only
                rw [scanning.pending, List.drop_nil, converted_nil]
                rfl
              place := by
                refine ⟨0, [], rfl, ?_, fun _once => rfl⟩
                unfold WavFileSource.toCome WavFileSource.recordingIn FileCursor.ahead
                dsimp only
                rw [List.nil_append, scanning.contents, place start, Int.toNat_natCast,
                  Int.sub_zero] }
        · unfold WavFileSource.waits
          dsimp only
          rw [scanning.pending]
          exact Nat.zero_sub _

/-! ### The header that the sink writes -/

def knownFormat (loop : Bool) : WavFileSource α :=
  { WavFileSource.new loop with channels := 1#16, rate := 48000#32 }

def readySource (longBits : Nat) (loop : Bool) (dataBytes : BitVec 32) (contents : Bytes) :
    WavFileSource α :=
  { WavFileSource.new loop with
    fp := some { contents := contents, position := 44 }
    dataStart := 44
    dataBytes := toLong longBits dataBytes }

section

variable {longBits : Nat} (wide : 32 ≤ longBits) (loop : Bool) (riffBytes dataBytes : BitVec 32)
  (pcm : Bytes)

theorem header_format :
    WavFileSource.onChunk longBits
        ((WavFileSource.new loop : WavFileSource α),
          { contents := wavHeader riffBytes dataBytes ++ pcm, position := 12 }) =
      some (.next (knownFormat loop,
        { contents := wavHeader riffBytes dataBytes ++ pcm, position := 36 })) := by
  have chunk : FileCursor.read
      { contents := wavHeader riffBytes dataBytes ++ pcm, position := 12 } 8 =
        (ascii "fmt " ++ writeLE32 16#32,
          { contents := wavHeader riffBytes dataBytes ++ pcm, position := 20 }) :=
    FileCursor.read_next ((wavHeader riffBytes dataBytes).take 12)
      (ascii "fmt " ++ writeLE32 16#32) ((wavHeader riffBytes dataBytes).drop 20 ++ pcm)
  have body : FileCursor.read
      { contents := wavHeader riffBytes dataBytes ++ pcm, position := 20 } 16 =
        (((wavHeader 0#32 0#32).drop 20).take 16,
          { contents := wavHeader riffBytes dataBytes ++ pcm, position := 36 }) :=
    FileCursor.read_next ((wavHeader riffBytes dataBytes).take 20)
      (((wavHeader 0#32 0#32).drop 20).take 16)
      ((wavHeader riffBytes dataBytes).drop 36 ++ pcm)
  unfold WavFileSource.onChunk
  dsimp only
  rw [chunk]
  dsimp only
  rw [if_neg (by decide), if_pos (by decide),
    show readLE32 ((ascii "fmt " ++ writeLE32 16#32).drop 4) = 16#32 by decide]
  unfold WavFileSource.onFormat
  rw [show (16#32).toNat = 16 from rfl, body]
  dsimp only
  rw [if_neg (by decide), if_neg (by decide), if_neg (by decide)]
  rfl

include wide in
theorem header_data :
    WavFileSource.onChunk longBits
        ((knownFormat loop : WavFileSource α),
          { contents := wavHeader riffBytes dataBytes ++ pcm, position := 36 }) =
      some (.done
        { accepted := true
          source :=
            { knownFormat loop with
              dataStart := 44
              dataBytes := toLong longBits dataBytes }
          file := { contents := wavHeader riffBytes dataBytes ++ pcm, position := 44 } }) := by
  have chunk : FileCursor.read
      { contents := wavHeader riffBytes dataBytes ++ pcm, position := 36 } 8 =
        (ascii "data" ++ writeLE32 dataBytes,
          { contents := wavHeader riffBytes dataBytes ++ pcm, position := 44 }) :=
    FileCursor.read_next ((wavHeader riffBytes dataBytes).take 36)
      (ascii "data" ++ writeLE32 dataBytes) pcm
  have size : readLE32 ((ascii "data" ++ writeLE32 dataBytes).drop 4) = dataBytes := by
    change BitVec.ofNat 32 (fromLittleEndian (littleEndian 4 dataBytes.toNat)) = dataBytes
    rw [fromLittleEndian_littleEndian 4 _ dataBytes.isLt, BitVec.ofNat_toNat, BitVec.setWidth_eq]
  have place : ftell longBits
      { contents := wavHeader riffBytes dataBytes ++ pcm, position := 44 } = 44 := by
    unfold ftell
    have power : 2 ^ 31 ≤ 2 ^ (longBits - 1) := Nat.pow_le_pow_right (by decide) (by omega)
    exact if_pos (Nat.lt_of_lt_of_le (show 44 < 2 ^ 31 by decide) power)
  unfold WavFileSource.onChunk
  dsimp only
  rw [chunk]
  dsimp only
  rw [if_neg (fun short => short rfl), size, place]
  rfl

include wide in
theorem header_accepted (rounds : Nat) :
    (WavFileSource.new loop : WavFileSource α).start longBits (rounds + 2)
        (some (wavHeader riffBytes dataBytes ++ pcm)) =
      some (true,
        readySource longBits loop dataBytes (wavHeader riffBytes dataBytes ++ pcm)) := by
  have riff : FileCursor.read
      { contents := wavHeader riffBytes dataBytes ++ pcm, position := 0 } 12 =
        ((wavHeader riffBytes dataBytes).take 12,
          { contents := wavHeader riffBytes dataBytes ++ pcm, position := 12 }) :=
    FileCursor.read_next [] ((wavHeader riffBytes dataBytes).take 12)
      ((wavHeader riffBytes dataBytes).drop 12 ++ pcm)
  have scan : loopFor (WavFileSource.onChunk longBits) (rounds + 2)
      ((WavFileSource.new loop : WavFileSource α),
        { contents := wavHeader riffBytes dataBytes ++ pcm, position := 12 }) = _ :=
    (loopFor_next _ (rounds + 1) (header_format loop riffBytes dataBytes pcm)).trans
      (loopFor_done _ rounds (header_data wide loop riffBytes dataBytes pcm))
  unfold WavFileSource.start
  dsimp only
  rw [riff]
  dsimp only
  rw [if_neg, scan]
  · rfl
  · rintro (short | tag | form)
    · exact short rfl
    · exact tag rfl
    · exact form rfl

end

/-- From any file that `start` accepts, with its data where a `long` can say so, every run of
reads hears the recording in it: once, and then silence, or over and over. Only a source that
is to repeat a recording without a frame never answers. -/
theorem wav_source_plays_recording (longBits rounds : Nat) (loop : Bool) (contents : Bytes)
    (source : WavFileSource α)
    (started : (WavFileSource.new loop).start longBits rounds (some contents) =
      some (true, source))
    (start : 0 ≤ source.dataStart) (size : 0 ≤ source.dataBytes) (sizes : List Nat) :
    let recording := source.recordingIn contents
    (loop = false → ∃ bound, ∀ rounds, bound ≤ rounds → source.reads rounds sizes =
        some (playedOnce (converted source.rate (refills recording)) sizes)) ∧
      (loop = true → recording ≠ [] → ∃ answers,
        PlaysOver source.rate recording sizes answers ∧
          ∃ bound, ∀ rounds, bound ≤ rounds → source.reads rounds sizes = some answers) ∧
      (loop = true → recording = [] → (∃ samples ∈ sizes, 0 < samples) →
        ∀ rounds, source.reads rounds sizes = none) := by
  intro recording
  obtain ⟨playing, silent⟩ := WavFileSource.started_plays started start size
  refine ⟨?_, ?_, ?_⟩
  · rintro rfl
    exact WavFileSource.Playing.reads_once sizes playing
  · rintro rfl audible
    obtain ⟨answers, sized, stream, answered⟩ :=
      WavFileSource.Playing.reads_looped audible sizes playing
    exact ⟨answers, ⟨sized, stream⟩, answered⟩
  · rintro rfl nothing asks rounds
    change source.recordingIn contents = [] at nothing
    rw [nothing] at playing
    exact WavFileSource.Playing.reads_hang rounds asks playing silent

end

def twoSamples : Bytes := wavHeader 40#32 4#32 ++ [0x00, 0x40, 0x00, 0xc0]

theorem wav_source_plays_recording_twice :
    let source : WavFileSource Binary32 := readySource 64 true 4#32 twoSamples
    let recording := source.recordingIn twoSamples
    (true = false → ∃ bound, ∀ rounds, bound ≤ rounds → source.reads rounds [1, 4] =
        some (playedOnce (converted source.rate (refills recording)) [1, 4])) ∧
      (true = true → recording ≠ [] → ∃ answers,
        PlaysOver source.rate recording [1, 4] answers ∧
          ∃ bound, ∀ rounds, bound ≤ rounds → source.reads rounds [1, 4] = some answers) ∧
      (true = true → recording = [] → (∃ samples ∈ [1, 4], 0 < samples) →
        ∀ rounds, source.reads rounds [1, 4] = none) :=
  wav_source_plays_recording 64 2 true twoSamples (readySource 64 true 4#32 twoSamples)
    (header_accepted (by decide) true 40#32 4#32 [0x00, 0x40, 0x00, 0xc0] 0)
    (by decide) (by decide) [1, 4]

end SmartMic.Audio
