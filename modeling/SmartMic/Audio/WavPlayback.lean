import SmartMic.Audio.Converted
import SmartMic.Audio.WavFile

set_option autoImplicit false

/-! What a source that plays a file lets the router hear: what the resampler makes of the
recording in the file in pieces of so many frames, once or over and over, whatever the sizes
of the reads are. -/

namespace SmartMic.Audio

section

variable {α : Type} [SampleArithmetic α]

/-! ### Items and frames -/

theorem shortsOf_length (bytes : Bytes) : (shortsOf bytes).length = bytes.length / 2 := by
  fun_induction shortsOf bytes with
  | case1 low high rest ih =>
      simp only [List.length_cons, ih]
      omega
  | case2 bytes short =>
      have few : bytes.length < 2 := by
        rcases bytes with _ | ⟨first, _ | ⟨second, rest⟩⟩
        · exact Nat.zero_lt_two
        · exact Nat.one_lt_two
        · exact absurd rfl (short first second rest)
      rw [List.length_nil, Nat.div_eq_of_lt few]

theorem shortsOf_split (count : Nat) : ∀ bytes : Bytes,
    shortsOf bytes = shortsOf (bytes.take (2 * count)) ++ shortsOf (bytes.drop (2 * count)) := by
  induction count with
  | zero =>
      intro bytes
      rfl
  | succ count ih =>
      intro bytes
      rw [Nat.mul_succ]
      rcases bytes with _ | ⟨first, _ | ⟨second, rest⟩⟩
      · rfl
      · rfl
      · change readLE16 [first, second] :: shortsOf rest = readLE16 [first, second] :: _
        rw [ih rest]
        rfl

theorem mixedDown_length (channels : Nat) (items : List (BitVec 16)) :
    (mixedDown channels items : List α).length = items.length / channels := by
  unfold mixedDown
  rw [List.length_map, List.length_range]

@[simp]
theorem mixedDown_nil (channels : Nat) : mixedDown channels [] = ([] : List α) := by
  apply List.eq_nil_of_length_eq_zero
  rw [mixedDown_length, List.length_nil, Nat.zero_div]

theorem acrossChannels_congr {channels : Nat} {first second : Nat → Int} {i j : Nat}
    (same : ∀ c < channels, first (i * channels + c) = second (j * channels + c)) :
    acrossChannels channels first i = acrossChannels channels second j := by
  unfold acrossChannels
  apply List.foldl_ext
  intro acc c member
  rw [same c (List.mem_range.mp member)]

theorem mixedDown_append {channels : Nat} {first : List (BitVec 16)}
    (whole : channels ∣ first.length) (second : List (BitVec 16)) :
    (mixedDown channels (first ++ second) : List α) =
      mixedDown channels first ++ mixedDown channels second := by
  obtain ⟨frames, length⟩ := whole
  rcases Nat.eq_zero_or_pos channels with rfl | some_
  · unfold mixedDown
    simp
  · have count : first.length / channels = frames := by
      rw [length, Nat.mul_div_cancel_left _ some_]
    have total : (first ++ second).length / channels = frames + second.length / channels := by
      rw [List.length_append, length, Nat.mul_add_div some_]
    unfold mixedDown
    rw [total, count, List.range_add, List.map_append, List.map_map]
    congr 1
    · apply List.map_congr_left
      intro frame member
      have inside := List.mem_range.mp member
      rw [@acrossChannels_congr channels _
        (fun place => (first.getD place 0#16).toInt) frame frame]
      intro c within
      have place : frame * channels + c < first.length := by
        have room := Nat.mul_le_mul_right channels inside
        rw [length, Nat.mul_comm channels]
        rw [Nat.succ_mul] at room
        omega
      rw [List.getD_append _ _ _ _ place]
    · apply List.map_congr_left
      intro frame _member
      dsimp only [Function.comp_apply]
      rw [@acrossChannels_congr channels _
        (fun place => (second.getD place 0#16).toInt) (frames + frame) frame]
      intro c _within
      have place : (frames + frame) * channels + c = first.length + (frame * channels + c) := by
        rw [length, Nat.add_mul, Nat.mul_comm channels]
        omega
      rw [place, List.getD_append_right _ _ _ _ (Nat.le_add_right _ _), Nat.add_sub_cancel_left]

theorem mixedDown_cut {channels : Nat} {first rest : List (BitVec 16)}
    (whole : channels ∣ first.length ∨ rest = []) :
    (mixedDown channels (first ++ rest) : List α) =
      mixedDown channels first ++ mixedDown channels rest := by
  rcases whole with frames | nothing
  · exact mixedDown_append frames rest
  · rw [nothing, mixedDown_nil, List.append_nil, List.append_nil]

/-! ### Pieces of a recording -/

/-- A recording in the pieces that `refill` takes it in. -/
def refills (recording : List α) : List (List α) :=
  if _none : recording = [] then []
  else recording.take kChunkFrames :: refills (recording.drop kChunkFrames)
termination_by recording.length
decreasing_by
  have some_ := List.length_pos_iff.mpr _none
  rw [List.length_drop]
  unfold kChunkFrames
  omega

omit [SampleArithmetic α] in
@[simp]
theorem refills_nil : refills ([] : List α) = [] := by
  rw [refills]
  rfl

omit [SampleArithmetic α] in
theorem refills_flatten (recording : List α) : (refills recording).flatten = recording := by
  induction recording using refills.induct with
  | case1 => rw [refills_nil, List.flatten_nil]
  | case2 recording some_ ih =>
      rw [refills, dif_neg some_, List.flatten_cons, ih, List.take_append_drop]

omit [SampleArithmetic α] in
theorem refills_sized (recording : List α) : ∀ block ∈ refills recording, BlockSized block := by
  induction recording using refills.induct with
  | case1 =>
      intro block member
      rw [refills_nil] at member
      cases member
  | case2 recording some_ ih =>
      intro block member
      rw [refills, dif_neg some_] at member
      rcases List.mem_cons.mp member with rfl | later
      · have short := List.length_take_le kChunkFrames recording
        exact Nat.lt_of_le_of_lt short (by decide)
      · exact ih block later

omit [SampleArithmetic α] in
theorem refills_short {block : List α} (some_ : block ≠ []) (short : block.length ≤ kChunkFrames) :
    refills block = [block] := by
  rw [refills, dif_neg some_, List.take_of_length_le short, List.drop_eq_nil_of_le short,
    refills_nil]

/-- A fetch of the full size, or of all there is, is the next piece. -/
theorem refills_cut {channels : Nat} {first rest : List (BitVec 16)}
    (limit : first.length ≤ kChunkFrames * channels)
    (whole : first.length = kChunkFrames * channels ∨ rest = []) :
    refills (mixedDown channels (first ++ rest) : List α) =
      refills (mixedDown channels first) ++ refills (mixedDown channels rest) := by
  rcases whole with full | nothing
  · rcases Nat.eq_zero_or_pos channels with rfl | some_
    · have silent : ∀ items : List (BitVec 16), (mixedDown 0 items : List α) = [] := fun items =>
        List.eq_nil_of_length_eq_zero (by rw [mixedDown_length, Nat.div_zero])
      rw [silent, silent, silent, refills_nil, List.append_nil]
    · have length : (mixedDown channels first : List α).length = kChunkFrames := by
        rw [mixedDown_length, full, Nat.mul_div_cancel _ some_]
      have audible : (mixedDown channels first : List α) ≠ [] := by
        rw [← List.length_pos_iff, length]
        decide
      rw [mixedDown_append (full ▸ Nat.dvd_mul_left channels kChunkFrames),
        refills_short audible length.le, refills,
        dif_neg (List.append_ne_nil_of_left_ne_nil audible _),
        List.take_left' length, List.drop_left' length]
      rfl
  · rw [nothing, List.append_nil, mixedDown_nil, refills_nil, List.append_nil]

theorem LinearResampler.Fed.refill {rate : BitVec 32} {resampler : LinearResampler α}
    {fed : List (List α)} (before : resampler.Fed rate fed) {block : List α}
    (short : block.length ≤ kChunkFrames) :
    ∃ next added, (∀ out, resampler.process block out = some (out ++ added, next)) ∧
      converted rate (fed ++ refills block) = converted rate fed ++ added ∧
      next.Fed rate (fed ++ refills block) := by
  by_cases none_ : block = []
  · rw [none_, refills_nil, List.append_nil]
    refine ⟨resampler, [], fun out => ?_, (List.append_nil _).symm, before⟩
    rw [List.append_nil]
    exact if_pos rfl
  · rw [refills_short none_ short]
    exact before.process (Nat.lt_of_le_of_lt short (by decide))

/-! ### One fetch -/

def WavFileSource.items (source : WavFileSource α) (file : ByteFile) : List (BitVec 16) :=
  shortsOf ((file.contents.drop source.dataStart.toNat).take source.dataBytes.toNat)

def WavFileSource.toCome (source : WavFileSource α) (file : ByteFile) : List (BitVec 16) :=
  shortsOf (file.ahead.take (source.dataBytes - source.consumed).toNat)

def WavFileSource.nextUp (source : WavFileSource α) (file : ByteFile) : List (BitVec 16) :=
  if source.dataBytes ≤ source.consumed then source.items file else source.toCome file

/-- A fetch from a string takes whole frames from its beginning, or all there is. -/
theorem fetched_items (channels left : Nat) (ahead : Bytes) :
    let want := min (kChunkFrames * channels) (left / 2)
    let raw := shortsOf (ahead.take (2 * want))
    let rest := shortsOf ((ahead.drop (2 * want)).take (left - 2 * raw.length))
    shortsOf (ahead.take left) = raw ++ rest ∧ raw.length ≤ kChunkFrames * channels ∧
      (raw.length = kChunkFrames * channels ∨ rest = []) ∧
      (raw = [] → channels = 0 ∨ rest = []) := by
  intro want raw rest
  have few : 2 * want ≤ left := by
    have half : want ≤ left / 2 := Nat.min_le_right _ _
    omega
  have taken : raw.length = min (2 * want) ahead.length / 2 := by
    rw [shortsOf_length, List.length_take]
  have limit : raw.length ≤ kChunkFrames * channels := by
    have most : want ≤ kChunkFrames * channels := Nat.min_le_left _ _
    omega
  by_cases enough : 2 * want ≤ ahead.length
  · have full : raw.length = want := by
      rw [taken, Nat.min_eq_left enough]
      omega
    have split : shortsOf (ahead.take left) = raw ++ rest := by
      rw [shortsOf_split want (ahead.take left), List.take_take, Nat.min_eq_left few,
        List.drop_take]
      change _ = raw ++ shortsOf ((ahead.drop (2 * want)).take (left - 2 * raw.length))
      rw [full]
    have nothing : want = left / 2 → rest = [] := by
      intro half
      apply List.eq_nil_of_length_eq_zero
      rw [shortsOf_length, List.length_take, full]
      omega
    rcases min_choice (kChunkFrames * channels) (left / 2) with chunk | half
    · refine ⟨split, limit, .inl (full.trans chunk), fun empty => ?_⟩
      · have none_ : kChunkFrames * channels = 0 := by
          rw [← chunk]
          change want = 0
          rw [← full, empty]
          rfl
        exact .inl ((Nat.mul_eq_zero.mp none_).resolve_left (by decide))
    · exact ⟨split, limit, .inr (nothing half), fun _empty => .inr (nothing half)⟩
  · have rest_nil : rest = [] := by
      change shortsOf ((ahead.drop (2 * want)).take _) = []
      rw [List.drop_eq_nil_of_le (by omega), List.take_nil]
      rfl
    refine ⟨?_, limit, .inr rest_nil, fun _empty => .inr rest_nil⟩
    rw [rest_nil, List.append_nil, List.take_of_length_le (by omega)]
    change shortsOf ahead = shortsOf (ahead.take (2 * want))
    rw [List.take_of_length_le (by omega)]

variable {loop : Bool} {rate : BitVec 32} {recording heard : List α} {fed : List (List α)}
  {source : WavFileSource α} {file : ByteFile}

/-- The places the source has noted are such that a `long` holds them. -/
structure WavFileSource.Located (source : WavFileSource α) : Prop where
  start : 0 ≤ source.dataStart
  size : 0 ≤ source.dataBytes
  bounded : source.dataBytes < 2 ^ 64
  consumed : 0 ≤ source.consumed

/-- The source behind a fetch of these items, where nothing is resampled yet. -/
def WavFileSource.movedTo (source : WavFileSource α) (consumed : Int) : WavFileSource α :=
  { source with consumed := consumed }

/-- Whole frames from the beginning of what is next, or all of it. -/
structure WavFileSource.Fetches (source : WavFileSource α) (file : ByteFile)
    (raw : List (BitVec 16)) (consumed : Int) (behind : ByteFile) : Prop where
  least : 0 ≤ consumed
  kept : behind.contents = file.contents
  playing : source.consumed < source.dataBytes → consumed = source.consumed
  upcoming : source.nextUp file =
    raw ++ (source.movedTo (consumed + 2 * raw.length)).toCome behind
  limit : raw.length ≤ kChunkFrames * source.channels.toNat
  full : raw.length = kChunkFrames * source.channels.toNat ∨
    (source.movedTo (consumed + 2 * raw.length)).toCome behind = []
  empty : raw = [] → source.channels.toNat = 0 ∨ source.nextUp file = []

omit [SampleArithmetic α] in
theorem WavFileSource.fetch_spec (located : source.Located) :
    match source.fetch file with
    | (raw, consumed, behind) => source.Fetches file raw consumed behind := by
  obtain ⟨start, consumed, from_, begins, kept, least, most, playing, upcoming⟩ :
      ∃ (start : ByteFile) (consumed : Int),
        (if decide (source.dataBytes ≤ source.consumed) then file.seek source.dataStart
          else file) = start ∧
        (if decide (source.dataBytes ≤ source.consumed) then 0 else source.consumed) = consumed ∧
        start.contents = file.contents ∧ 0 ≤ consumed ∧ consumed ≤ source.dataBytes ∧
        (source.consumed < source.dataBytes → consumed = source.consumed) ∧
        source.nextUp file =
          shortsOf (start.ahead.take (source.dataBytes - consumed).toNat) := by
    refine ⟨_, _, rfl, rfl, ?_, ?_, ?_, fun inside => if_neg ?_, ?_⟩
    · split
      · exact FileCursor.seek_contents _ _
      · rfl
    · split
      · exact Int.le_refl 0
      · exact located.consumed
    · split
      · exact located.size
      · rename_i playing
        exact Int.le_of_lt (Int.not_le.mp (of_decide_eq_false (Bool.not_eq_true _ ▸ playing)))
    · simpa using inside
    · unfold WavFileSource.nextUp
      by_cases ended : source.dataBytes ≤ source.consumed
      · rw [if_pos ended, decide_eq_true ended, if_pos rfl, if_pos rfl, Int.sub_zero]
        have place : source.dataStart = (source.dataStart.toNat : Int) :=
          (Int.toNat_of_nonneg located.start).symm
        rw [place, FileCursor.seek_ahead]
        rfl
      · rw [if_neg ended, decide_eq_false ended, if_neg Bool.false_ne_true,
          if_neg Bool.false_ne_true]
        rfl
  have left : ((source.dataBytes - consumed) % 2 ^ 64).toNat =
      (source.dataBytes - consumed).toNat := by
    have bounded := located.bounded
    exact congrArg Int.toNat (Int.emod_eq_of_lt (by omega) (by omega))
  have fetched := fetched_items source.channels.toNat (source.dataBytes - consumed).toNat
    start.ahead
  dsimp only at fetched
  unfold WavFileSource.fetch
  dsimp only
  rw [from_, begins, left]
  obtain ⟨split, limit, whole, empty⟩ := fetched
  have coming : ∀ count : Nat, ∀ behind : ByteFile,
      (source.movedTo (consumed + 2 * count)).toCome behind =
        shortsOf (behind.ahead.take ((source.dataBytes - consumed).toNat - 2 * count)) := by
    intro count behind
    unfold WavFileSource.toCome WavFileSource.movedTo
    have same : (source.dataBytes - (consumed + 2 * count)).toNat =
        (source.dataBytes - consumed).toNat - 2 * count := by omega
    rw [same]
  rw [FileCursor.read_fst]
  refine ⟨least, kept, playing, ?_, limit, ?_, fun none_ => ?_⟩
  · rw [coming, FileCursor.read_ahead]
    exact upcoming.trans split
  · rw [coming, FileCursor.read_ahead]
    exact whole
  · rw [upcoming, split, none_]
    rw [none_] at empty
    exact empty rfl

/-! ### One round of refill -/

def cycled {β : Type} (pieces : List β) (passes : Nat) : List β :=
  (List.replicate passes pieces).flatten

/-- The resampler has been fed the pieces of the recording up to some place, and what has been
heard and what waits are together what it made of them. -/
structure WavFileSource.Plays (loop : Bool) (rate : BitVec 32) (recording heard : List α)
    (fed : List (List α)) (source : WavFileSource α) (file : ByteFile) : Prop where
  loops : source.loop = loop
  located : source.Located
  recorded : mixedDown source.channels.toNat (source.items file) = recording
  position : source.pendingPos ≤ source.pending.length
  resampler : source.resampler.Fed rate fed
  pending : heard ++ source.pending.drop source.pendingPos = converted rate fed
  place : ∃ passes played, fed = cycled (refills recording) passes ++ played ∧
    played ++ refills (mixedDown source.channels.toNat (source.toCome file)) =
      refills recording ∧
    (loop = false → passes = 0)

omit [SampleArithmetic α] in
theorem cycled_sized (recording : List α) (passes : Nat) :
    ∀ block ∈ cycled (refills recording) passes, BlockSized block := by
  intro block member
  obtain ⟨pass, passed, inside⟩ := List.mem_flatten.mp member
  rw [List.eq_of_mem_replicate passed] at inside
  exact refills_sized recording block inside

theorem WavFileSource.Plays.sized
    (plays : source.Plays loop rate recording heard fed file) :
    ∀ block ∈ fed, BlockSized block := by
  obtain ⟨passes, played, before, whole, -⟩ := plays.place
  intro block member
  rw [before] at member
  rcases List.mem_append.mp member with earlier | now
  · exact cycled_sized recording passes block earlier
  · apply refills_sized recording block
    rw [← whole]
    exact List.mem_append_left _ now

theorem WavFileSource.Plays.heard_waits
    (plays : source.Plays loop rate recording heard fed file) :
    heard.length + source.waits = (converted rate fed).length := by
  rw [← plays.pending, List.length_append, List.length_drop]
  rfl

omit [SampleArithmetic α] in
theorem WavFileSource.toCome_ended (ended : source.dataBytes ≤ source.consumed) :
    source.toCome file = [] := by
  unfold WavFileSource.toCome
  rw [Int.toNat_of_nonpos (by omega), List.take_zero]
  rfl

theorem WavFileSource.Plays.place_next
    (plays : source.Plays loop rate recording heard fed file)
    (open_ : ¬(source.dataBytes ≤ source.consumed ∧ loop = false)) :
    ∃ passes played, fed = cycled (refills recording) passes ++ played ∧
      played ++ refills (mixedDown source.channels.toNat (source.nextUp file)) =
        refills recording ∧
      (loop = false → passes = 0) := by
  obtain ⟨passes, played, before, whole, once⟩ := plays.place
  unfold WavFileSource.nextUp
  by_cases ended : source.dataBytes ≤ source.consumed
  · rw [if_pos ended, plays.recorded]
    rw [WavFileSource.toCome_ended ended, mixedDown_nil, refills_nil, List.append_nil] at whole
    refine ⟨passes + 1, [], ?_, List.nil_append _, fun single => absurd ⟨ended, single⟩ open_⟩
    rw [List.append_nil, before, whole]
    unfold cycled
    rw [List.replicate_succ', List.flatten_append, List.flatten_singleton]
  · rw [if_neg ended]
    exact ⟨passes, played, before, whole, once⟩

/-- A round that does not end the loop has fetched these items. -/
structure WavFileSource.Fetched (raw : List (BitVec 16)) (source : WavFileSource α)
    (file : ByteFile) (next : WavFileSource α) (behind : ByteFile) : Prop where
  goesOn : source.loop = false → source.consumed < source.dataBytes
  channels : next.channels = source.channels
  from_ : (raw = [] ∧ next.dataBytes ≤ next.consumed ∧ source.loop = true) ∨
    (raw ≠ [] ∧ source.nextUp file = raw ++ next.toCome behind)
  whole : raw = [] ∨ source.channels.toNat ∣ raw.length ∨ next.toCome behind = []
  empty : raw = [] → source.channels.toNat = 0 ∨ source.nextUp file = []

section

variable {raw : List (BitVec 16)} {consumed : Int} {behind : ByteFile}

theorem WavFileSource.Fetches.silent (fetches : source.Fetches file raw consumed behind)
    (none_ : raw = []) :
    (mixedDown source.channels.toNat (source.nextUp file) : List α) = [] := by
  rcases fetches.empty none_ with channels | nothing
  · apply List.eq_nil_of_length_eq_zero
    rw [mixedDown_length, channels, Nat.div_zero]
  · rw [nothing, mixedDown_nil]

omit [SampleArithmetic α] in
theorem WavFileSource.Fetches.frames (fetches : source.Fetches file raw consumed behind) :
    source.channels.toNat ∣ raw.length ∨
      (source.movedTo (consumed + 2 * raw.length)).toCome behind = [] := by
  refine fetches.full.imp_left fun all => ?_
  rw [all]
  exact Nat.dvd_mul_left _ _

omit [SampleArithmetic α] in
theorem WavFileSource.Fetches.items (fetches : source.Fetches file raw consumed behind) :
    source.items behind = source.items file := by
  unfold WavFileSource.items
  rw [fetches.kept]

/-- A round that finds too little and may go on does what its fetch allows. -/
theorem WavFileSource.refillRound_fetch {needed : Nat} (short : ¬ needed ≤ source.waits)
    (open_ : ¬(source.dataBytes ≤ source.consumed ∧ source.loop = false))
    (fetch : source.fetch file = (raw, consumed, behind)) :
    WavFileSource.refillRound needed (source, file) =
      if raw.length = 0 then
        if source.loop = false then some (.done { ok := false, source := source, file := behind })
        else some (.next ({ source with consumed := source.dataBytes }, behind))
      else
        (source.resampler.process (mixedDown source.channels.toNat raw) source.pending).map
          fun result => .next
            ({ source with
                consumed := consumed + 2 * raw.length
                pending := result.1
                resampler := result.2 },
              behind) := by
  unfold WavFileSource.refillRound
  dsimp only
  rw [if_neg short, if_neg open_]
  generalize source.fetch file = fetched at fetch ⊢
  subst fetch
  dsimp only
  rcases source.resampler.process (mixedDown source.channels.toNat raw) source.pending with
    _ | ⟨pending, resampler⟩ <;> rfl

theorem WavFileSource.Plays.all_fed (plays : source.Plays loop rate recording heard fed file)
    (single : loop = false) (ended : source.dataBytes ≤ source.consumed) :
    fed = refills recording := by
  obtain ⟨passes, played, before, whole, once⟩ := plays.place
  rw [WavFileSource.toCome_ended ended, mixedDown_nil, refills_nil, List.append_nil] at whole
  rw [before, once single, whole]
  rfl

/-- A recording that is played once is over when nothing more can be fetched. -/
theorem WavFileSource.Plays.fetch_none_once
    (plays : source.Plays loop rate recording heard fed file)
    (fetches : source.Fetches file raw consumed behind) (none_ : raw = [])
    (single : loop = false) (inside : source.consumed < source.dataBytes) :
    fed = refills recording ∧ source.Plays loop rate recording heard fed behind := by
  have next : source.nextUp file = source.toCome file := if_neg (Int.not_le.mpr inside)
  have rest : source.toCome behind = source.toCome file := by
    rw [← next, fetches.upcoming, none_, fetches.playing inside]
    change _ = (source.movedTo (source.consumed + 2 * (0 : Nat))).toCome behind
    rw [Nat.cast_zero, Int.mul_zero, Int.add_zero]
    rfl
  constructor
  · obtain ⟨passes, played, before, whole, once⟩ := plays.place
    rw [← next, fetches.silent none_, refills_nil, List.append_nil] at whole
    rw [before, once single, whole]
    rfl
  · exact
      { plays with
        recorded := fetches.items ▸ plays.recorded
        place := rest ▸ plays.place }

theorem WavFileSource.Plays.fetch_none_again
    (plays : source.Plays loop rate recording heard fed file)
    (fetches : source.Fetches file raw consumed behind) (none_ : raw = [])
    (open_ : ¬(source.dataBytes ≤ source.consumed ∧ loop = false)) :
    WavFileSource.Plays loop rate recording heard fed
      { source with consumed := source.dataBytes } behind := by
  obtain ⟨passes, played, before, whole, once⟩ := plays.place_next open_
  rw [fetches.silent none_, refills_nil, List.append_nil] at whole
  have over_ : ({ source with consumed := source.dataBytes } : WavFileSource α).toCome behind =
      [] := WavFileSource.toCome_ended (Int.le_refl _)
  exact
    { loops := plays.loops
      located :=
        ⟨plays.located.start, plays.located.size, plays.located.bounded, plays.located.size⟩
      recorded := fetches.items ▸ plays.recorded
      position := plays.position
      resampler := plays.resampler
      pending := plays.pending
      place := ⟨passes, played, before, by
        rw [over_, mixedDown_nil, refills_nil, List.append_nil, whole], once⟩ }

theorem WavFileSource.Plays.fetch_some
    (plays : source.Plays loop rate recording heard fed file)
    (fetches : source.Fetches file raw consumed behind)
    (open_ : ¬(source.dataBytes ≤ source.consumed ∧ loop = false)) :
    ∃ pending resampler,
      source.resampler.process (mixedDown source.channels.toNat raw) source.pending =
        some (pending, resampler) ∧
      WavFileSource.Plays loop rate recording heard
        (fed ++ refills (mixedDown source.channels.toNat raw))
        { source with
          consumed := consumed + 2 * raw.length
          pending := pending
          resampler := resampler } behind := by
  obtain ⟨passes, played, before, whole, once⟩ := plays.place_next open_
  have piece : (mixedDown source.channels.toNat raw : List α).length ≤ kChunkFrames := by
    rw [mixedDown_length]
    exact Nat.div_le_of_le_mul (by rw [Nat.mul_comm]; exact fetches.limit)
  obtain ⟨resampler, added, process, longer, resampled⟩ := plays.resampler.refill piece
  refine ⟨_, _, process source.pending, ?_⟩
  exact
    { loops := plays.loops
      located :=
        ⟨plays.located.start, plays.located.size, plays.located.bounded, by
          have least := fetches.least
          dsimp only
          omega⟩
      recorded := fetches.items ▸ plays.recorded
      position := by
        rw [List.length_append]
        exact plays.position.trans (Nat.le_add_right _ _)
      resampler := resampled
      pending := by
        rw [List.drop_append_of_le_length plays.position, ← List.append_assoc, plays.pending]
        exact longer.symm
      place := by
        refine ⟨passes, played ++ refills (mixedDown source.channels.toNat raw), ?_, ?_, once⟩
        · rw [before, List.append_assoc]
        · rw [List.append_assoc]
          rw [fetches.upcoming, refills_cut fetches.limit fetches.full] at whole
          exact whole }

end

theorem WavFileSource.Plays.round (plays : source.Plays loop rate recording heard fed file)
    (needed : Nat) :
    (needed ≤ source.waits ∧
        WavFileSource.refillRound needed (source, file) =
          some (.done { ok := true, source := source, file := file })) ∨
      (source.waits < needed ∧ loop = false ∧ fed = refills recording ∧
        ∃ behind, WavFileSource.refillRound needed (source, file) =
            some (.done { ok := false, source := source, file := behind }) ∧
          source.Plays loop rate recording heard fed behind) ∨
      (source.waits < needed ∧ ∃ raw next behind,
        WavFileSource.refillRound needed (source, file) = some (.next (next, behind)) ∧
          next.Plays loop rate recording heard
            (fed ++ refills (mixedDown source.channels.toNat raw)) behind ∧
          source.Fetched raw file next behind) := by
  by_cases enough : needed ≤ source.waits
  · left
    refine ⟨enough, ?_⟩
    unfold WavFileSource.refillRound
    exact if_pos enough
  right
  have short : source.waits < needed := Nat.lt_of_not_le enough
  by_cases over_ : source.dataBytes ≤ source.consumed ∧ loop = false
  · left
    refine ⟨short, over_.2, plays.all_fed over_.2 over_.1, file, ?_, plays⟩
    unfold WavFileSource.refillRound
    dsimp only
    rw [if_neg enough, if_pos ⟨over_.1, plays.loops.trans over_.2⟩]
  have fetches := @WavFileSource.fetch_spec α source file plays.located
  obtain ⟨raw, consumed, behind, fetch⟩ :
      ∃ raw consumed behind, source.fetch file = (raw, consumed, behind) := ⟨_, _, _, rfl⟩
  rw [fetch] at fetches
  dsimp only at fetches
  rw [WavFileSource.refillRound_fetch enough (plays.loops ▸ over_) fetch]
  by_cases none_ : raw.length = 0
  · have nil := List.eq_nil_of_length_eq_zero none_
    rw [if_pos none_]
    by_cases single : loop = false
    · left
      have inside : source.consumed < source.dataBytes :=
        Int.not_le.mp fun ended => over_ ⟨ended, single⟩
      obtain ⟨all, still⟩ := plays.fetch_none_once fetches nil single inside
      rw [if_pos (plays.loops.trans single)]
      exact ⟨short, single, all, behind, rfl, still⟩
    · right
      rw [if_neg (plays.loops ▸ single)]
      refine ⟨short, raw, _, behind, rfl, ?_, ?_⟩
      · rw [nil, mixedDown_nil, refills_nil, List.append_nil]
        exact plays.fetch_none_again fetches nil over_
      · exact
          { goesOn := fun once => absurd (plays.loops.symm.trans once) single
            channels := rfl
            from_ := .inl ⟨nil, Int.le_refl _, plays.loops.trans (by simpa using single)⟩
            whole := .inl nil
            empty := fetches.empty }
  · right
    obtain ⟨pending, resampler, process, later⟩ := plays.fetch_some fetches over_
    rw [if_neg none_, process, Option.map_some]
    refine ⟨short, raw, _, behind, rfl, later, ?_⟩
    exact
      { goesOn := fun once => Int.not_le.mp fun ended =>
          over_ ⟨ended, plays.loops.symm.trans once⟩
        channels := rfl
        from_ := .inr ⟨fun nil => none_ (congrArg List.length nil), fetches.upcoming⟩
        whole := .inr fetches.frames
        empty := fetches.empty }

/-! ### The loop of refill -/

/-- What `refill` leaves: enough, or the rest of a recording that is played once. -/
structure WavFileSource.Refills (loop : Bool) (rate : BitVec 32) (recording heard : List α)
    (needed : Nat) (result : Refilled α) : Prop where
  plays : ∃ fed, result.source.Plays loop rate recording heard fed result.file ∧
    (result.ok = false → loop = false ∧ fed = refills recording)
  enough : result.ok = true ↔ needed ≤ result.source.waits

theorem WavFileSource.Plays.ends (plays : source.Plays loop rate recording heard fed file)
    {needed : Nat} (enough : needed ≤ source.waits) :
    WavFileSource.Refills loop rate recording heard needed
      { ok := true, source := source, file := file } where
  plays := ⟨fed, plays, fun failed => by cases failed⟩
  enough := ⟨fun _ok => enough, fun _enough => rfl⟩

theorem WavFileSource.Plays.runsOut (plays : source.Plays loop rate recording heard fed file)
    {needed : Nat} (short : source.waits < needed) (single : loop = false)
    (all : fed = refills recording) :
    WavFileSource.Refills loop rate recording heard needed
      { ok := false, source := source, file := file } where
  plays := ⟨fed, plays, fun _failed => ⟨single, all⟩⟩
  enough := ⟨fun ok => (by cases ok), fun enough => absurd enough (Nat.not_le.mpr short)⟩

/-- Played once, every further round comes nearer to the end of the file. -/
theorem WavFileSource.Plays.refill_once
    (plays : source.Plays false rate recording heard fed file) (needed : Nat) :
    ∃ rounds result,
      loopFor (WavFileSource.refillRound needed) rounds (source, file) = some result ∧
        WavFileSource.Refills false rate recording heard needed result := by
  have each : ∀ distance (state : WavFileSource α × ByteFile),
      (∃ fed, state.1.Plays false rate recording heard fed state.2 ∧
        (state.1.toCome state.2).length = distance) →
      (∃ next nearer, WavFileSource.refillRound needed state = some (.next next) ∧
        (∃ fed, next.1.Plays false rate recording heard fed next.2 ∧
          (next.1.toCome next.2).length = nearer) ∧ nearer < distance) ∨
      ∃ result, WavFileSource.refillRound needed state = some (.done result) ∧
        WavFileSource.Refills false rate recording heard needed result := by
    rintro distance ⟨source, file⟩ ⟨fed, plays, size⟩
    dsimp only at plays size
    rcases plays.round needed with
      ⟨enough, ends⟩ | ⟨short, single, all, behind, ends, still⟩ |
        ⟨short, raw, next, behind, goesOn, later, fetched⟩
    · exact .inr ⟨_, ends, plays.ends enough⟩
    · exact .inr ⟨_, ends, still.runsOut short single all⟩
    · left
      refine ⟨_, _, goesOn, ⟨_, later, rfl⟩, ?_⟩
      rcases fetched.from_ with ⟨-, -, again⟩ | ⟨some_, upcoming⟩
      · rw [plays.loops] at again
        cases again
      · have inside := fetched.goesOn plays.loops
        unfold WavFileSource.nextUp at upcoming
        rw [if_neg (Int.not_le.mpr inside)] at upcoming
        have length := congrArg List.length upcoming
        rw [List.length_append] at length
        have fewer := List.length_pos_iff.mpr some_
        dsimp only
        omega
  obtain ⟨result, ended, refills⟩ :=
    @loopFor_returns _ _ (WavFileSource.refillRound needed) _ _ each _
      (source, file) ⟨fed, plays, rfl⟩
  exact ⟨_, result, ended, refills⟩

/-- How many rounds may pass before the next one feeds the resampler. -/
def WavFileSource.rank (source : WavFileSource α) (file : ByteFile) : Nat :=
  if 0 < (mixedDown source.channels.toNat (source.nextUp file) : List α).length then 0
  else if (source.toCome file).length = 0 then 1
  else 2

theorem WavFileSource.rank_le (source : WavFileSource α) (file : ByteFile) :
    source.rank file ≤ 2 := by
  unfold WavFileSource.rank
  split
  · exact Nat.zero_le 2
  · split
    · exact Nat.le_succ 1
    · exact Nat.le_refl 2

theorem WavFileSource.Fetched.spent {raw : List (BitVec 16)} {next : WavFileSource α}
    {behind : ByteFile} (fetched : source.Fetched raw file next behind)
    (silent : (mixedDown source.channels.toNat raw : List α) = []) :
    (mixedDown source.channels.toNat (source.nextUp file) : List α) = [] ∧
      (next.dataBytes ≤ next.consumed ∨ (raw ≠ [] ∧ next.toCome behind = [])) := by
  rcases fetched.from_ with ⟨nil, ended, -⟩ | ⟨some_, upcoming⟩
  · refine ⟨?_, .inl ended⟩
    rcases fetched.empty nil with channels | nothing
    · apply List.eq_nil_of_length_eq_zero
      rw [mixedDown_length, channels, Nat.div_zero]
    · rw [nothing, mixedDown_nil]
  · have rest : next.toCome behind = [] := by
      rcases fetched.whole with nil | frames | rest
      · exact absurd nil some_
      · have length := congrArg List.length silent
        rw [mixedDown_length, List.length_nil] at length
        have none_ := Nat.eq_zero_of_dvd_of_div_eq_zero frames length
        exact absurd (List.eq_nil_of_length_eq_zero none_) some_
      · exact rest
    rw [upcoming, rest, List.append_nil]
    exact ⟨silent, .inr ⟨some_, rfl⟩⟩

theorem WavFileSource.Plays.rank_lt {raw : List (BitVec 16)} {next : WavFileSource α}
    {behind : ByteFile} {later : List (List α)}
    (plays : source.Plays true rate recording heard fed file)
    (after : next.Plays true rate recording heard later behind) (audible : recording ≠ [])
    (fetched : source.Fetched raw file next behind)
    (silent : (mixedDown source.channels.toNat raw : List α) = []) :
    next.rank behind < source.rank file := by
  obtain ⟨nothing, place⟩ := fetched.spent silent
  have sounds : ∀ {source : WavFileSource α} {file : ByteFile} {fed : List (List α)},
      source.Plays true rate recording heard fed file → source.dataBytes ≤ source.consumed →
        0 < (mixedDown source.channels.toNat (source.nextUp file) : List α).length := by
    intro source file fed plays ended
    unfold WavFileSource.nextUp
    rw [if_pos ended, plays.recorded]
    exact List.length_pos_iff.mpr audible
  have here : source.rank file = if (source.toCome file).length = 0 then 1 else 2 := by
    unfold WavFileSource.rank
    rw [nothing]
    rfl
  have positive : 0 < source.rank file := by
    rw [here]
    split <;> decide
  by_cases ended : next.dataBytes ≤ next.consumed
  · have zero : next.rank behind = 0 := by
      unfold WavFileSource.rank
      rw [if_pos (sounds after ended)]
    rw [zero]
    exact positive
  · obtain ⟨some_, rest⟩ := place.resolve_left ended
    have inside : ¬source.dataBytes ≤ source.consumed := by
      intro over_
      have heard_ := sounds plays over_
      rw [nothing] at heard_
      exact absurd heard_ (Nat.lt_irrefl 0)
    have full : (source.toCome file).length ≠ 0 := by
      obtain ⟨-, upcoming⟩ := fetched.from_.resolve_left fun skipped => some_ skipped.1
      unfold WavFileSource.nextUp at upcoming
      rw [if_neg inside] at upcoming
      rw [upcoming, List.length_append]
      have fewer := List.length_pos_iff.mpr some_
      omega
    have last : next.rank behind ≤ 1 := by
      unfold WavFileSource.rank
      rw [rest]
      split
      · exact Nat.zero_le 1
      · exact Nat.le_refl 1
    rw [here, if_neg full]
    omega

/-- Played over and over, every further round feeds the resampler or comes nearer to one that
does. -/
theorem WavFileSource.Plays.refill_looped
    (plays : source.Plays true rate recording heard fed file) (audible : recording ≠ [])
    (needed : Nat) :
    ∃ rounds result,
      loopFor (WavFileSource.refillRound needed) rounds (source, file) = some result ∧
        WavFileSource.Refills true rate recording heard needed result := by
  obtain ⟨goal, reaches⟩ := @converted_reaches α _ rate (heard.length + needed)
  have each : ∀ distance (state : WavFileSource α × ByteFile),
      (∃ fed, state.1.Plays true rate recording heard fed state.2 ∧
        3 * (goal - fed.flatten.length) + state.1.rank state.2 = distance) →
      (∃ next nearer, WavFileSource.refillRound needed state = some (.next next) ∧
        (∃ fed, next.1.Plays true rate recording heard fed next.2 ∧
          3 * (goal - fed.flatten.length) + next.1.rank next.2 = nearer) ∧ nearer < distance) ∨
      ∃ result, WavFileSource.refillRound needed state = some (.done result) ∧
        WavFileSource.Refills true rate recording heard needed result := by
    rintro distance ⟨source, file⟩ ⟨fed, plays, size⟩
    dsimp only at plays size
    rcases plays.round needed with
      ⟨enough, ends⟩ | ⟨short, single, all, behind, ends, still⟩ |
        ⟨short, raw, next, behind, goesOn, later, fetched⟩
    · exact .inr ⟨_, ends, plays.ends enough⟩
    · cases single
    · left
      refine ⟨_, _, goesOn, ⟨_, later, rfl⟩, ?_⟩
      dsimp only
      have before : fed.flatten.length < goal := by
        by_contra far
        have reached := reaches fed plays.sized (Nat.le_of_not_lt far)
        have account := plays.heard_waits
        omega
      rw [List.flatten_append, refills_flatten, List.length_append]
      by_cases silent : (mixedDown source.channels.toNat raw : List α) = []
      · have lower := plays.rank_lt later audible fetched silent
        rw [silent, List.length_nil]
        omega
      · have some_ := List.length_pos_iff.mpr silent
        have most := next.rank_le behind
        omega
  obtain ⟨result, ended, refills⟩ :=
    @loopFor_returns _ _ (WavFileSource.refillRound needed) _ _ each _
      (source, file) ⟨fed, plays, rfl⟩
  exact ⟨_, result, ended, refills⟩

theorem WavFileSource.Plays.refill_hangs
    (plays : source.Plays true rate [] heard fed file) {needed : Nat}
    (short : source.waits < needed) (rounds : Nat) :
    loopFor (WavFileSource.refillRound needed) rounds (source, file) = none := by
  have each : ∀ state : WavFileSource α × ByteFile,
      (state.1.Plays true rate [] heard fed state.2 ∧ state.1.waits < needed) →
      ∃ next, WavFileSource.refillRound needed state = some (.next next) ∧
        next.1.Plays true rate [] heard fed next.2 ∧ next.1.waits < needed := by
    rintro ⟨source, file⟩ ⟨plays, short⟩
    dsimp only at plays short
    rcases plays.round needed with
      ⟨enough, ends⟩ | ⟨short, single, all, behind, ends, still⟩ |
        ⟨short, raw, next, behind, goesOn, later, fetched⟩
    · exact absurd enough (Nat.not_le.mpr short)
    · cases single
    · obtain ⟨passes, played, before, whole, once⟩ :=
        plays.place_next fun over_ => Bool.noConfusion over_.2
      have silent : (mixedDown source.channels.toNat raw : List α) = [] := by
        rcases fetched.from_ with ⟨nil, -, -⟩ | ⟨some_, upcoming⟩
        · rw [nil, mixedDown_nil]
        · rw [refills_nil] at whole
          have flat := congrArg List.flatten (List.append_eq_nil_iff.mp whole).2
          rw [refills_flatten, List.flatten_nil] at flat
          have nothing := flat
          rw [upcoming, mixedDown_cut (fetched.whole.resolve_left some_)] at nothing
          exact (List.append_eq_nil_iff.mp nothing).1
      rw [silent, refills_nil, List.append_nil] at later
      refine ⟨_, goesOn, later, ?_⟩
      have account := plays.heard_waits
      have account' := later.heard_waits
      dsimp only
      omega
  exact loopFor_diverges (WavFileSource.refillRound needed) each rounds ⟨plays, short⟩

end

end SmartMic.Audio
