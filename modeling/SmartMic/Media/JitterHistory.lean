import SmartMic.Media.JitterBuffer

set_option autoImplicit false

/-! Histories of a jitter buffer: any order of pushes, pops and resets, with the
highest sequence number received so far kept beside the buffer. "Highest" is in
the buffer's own wrap-aware order, the signed distance from the playout point. -/

namespace SmartMic.Media

variable {Decoder : Type}

structure Playout (Decoder : Type) where
  buffer : JitterBuffer
  decoder : Option Decoder
  highest : Option Seq

inductive PlayoutOp where
  | push (seq : Seq) (payload : Bytes) (arrivalMs : BitVec 64)
  | pop (samples : Nat)
  | reset

def Playout.initial (config : JitterConfig) (decoder : Decoder) : Playout Decoder :=
  { buffer := JitterBuffer.new config, decoder := some decoder, highest := none }

/-- The higher of the number just received and the highest before it. -/
def JitterBuffer.raise (buffer : JitterBuffer) (seq : Seq) : Option Seq → Seq
  | none => seq
  | some highest => if buffer.age highest < buffer.age seq then seq else highest

def Playout.step (opus : OpusLibrary Decoder) (playout : Playout Decoder) :
    PlayoutOp → Playout Decoder
  | .push seq payload arrivalMs =>
      { playout with
        buffer := playout.buffer.push seq payload arrivalMs
        highest := some (playout.buffer.raise seq playout.highest) }
  | .pop samples =>
      let popped := playout.buffer.pop opus playout.decoder samples
      { playout with buffer := popped.buffer, decoder := popped.decoder }
  | .reset => { playout with buffer := playout.buffer.reset, highest := none }

/-- How many slots lie from the playout point up to the highest number. -/
def lead (highest next : Seq) : Nat := (highest + 1#32 - next).toNat

/-! ### Sequence numbers as offsets -/

theorem toInt_neg_iff (distance : Seq) : distance.toInt < 0 ↔ 2 ^ 31 ≤ distance.toNat := by
  have bound := distance.isLt
  rw [BitVec.toInt_eq_toNat_cond]
  split <;> omega

/-- The playout order, with numbers behind the playout point in the upper half. -/
theorem JitterBuffer.age_lt_iff (buffer : JitterBuffer) (left right : Seq) :
    buffer.age left < buffer.age right ↔
      ((left - buffer.nextSeq).toNat + 2 ^ 31) % 2 ^ 32 <
        ((right - buffer.nextSeq).toNat + 2 ^ 31) % 2 ^ 32 := by
  have leftBound := (left - buffer.nextSeq).isLt
  have rightBound := (right - buffer.nextSeq).isLt
  unfold JitterBuffer.age
  rw [BitVec.toInt_eq_toNat_cond, BitVec.toInt_eq_toNat_cond]
  split_ifs <;> omega

theorem offset_succ {seq next : Seq} (different : seq ≠ next) :
    (seq - (next + 1#32)).toNat + 1 = (seq - next).toNat := by
  bv_omega

theorem lead_succ {highest next : Seq} (some : 0 < lead highest next) :
    lead highest (next + 1#32) + 1 = lead highest next := by
  unfold lead at *
  bv_omega

/-- Raising the highest number raises the lead to cover the new packet, when that
packet is not behind the playout point. -/
theorem lead_raise (buffer : JitterBuffer) (seq highest : Seq)
    (within : lead highest buffer.nextSeq ≤ 2 ^ 31) :
    lead (buffer.raise seq (some highest)) buffer.nextSeq =
      if (seq - buffer.nextSeq).toNat < 2 ^ 31 then
        max (lead highest buffer.nextSeq) ((seq - buffer.nextSeq).toNat + 1)
      else lead highest buffer.nextSeq := by
  have newer : lead seq buffer.nextSeq = ((seq - buffer.nextSeq).toNat + 1) % 2 ^ 32 := by
    unfold lead
    bv_omega
  have older : lead highest buffer.nextSeq =
      ((highest - buffer.nextSeq).toNat + 1) % 2 ^ 32 := by
    unfold lead
    bv_omega
  have newerBound := (seq - buffer.nextSeq).isLt
  have olderBound := (highest - buffer.nextSeq).isLt
  have order := JitterBuffer.age_lt_iff buffer highest seq
  simp only [JitterBuffer.raise]
  by_cases higher : buffer.age highest < buffer.age seq
  · rw [if_pos higher, newer]
    have signed := order.mp higher
    split_ifs <;> omega
  · rw [if_neg higher]
    have signed := order.not.mp higher
    split_ifs <;> omega

/-! ### The queue as a set of offsets -/

theorem Queue.mem_eraseFirst {queue : Queue} {seq : Seq}
    (member : seq ∈ Queue.eraseFirst queue) : seq ∈ queue := by
  unfold Queue.eraseFirst at member
  split at member
  · exact Std.ExtTreeMap.mem_of_mem_erase member
  · exact member

theorem Queue.exists_mem {queue : Queue} (occupied : ¬ queue.isEmpty = true) :
    ∃ seq, seq ∈ queue := by
  cases first : queue.minKey? with
  | none => exact absurd (Std.ExtTreeMap.isEmpty_iff.mpr
      (Std.ExtTreeMap.minKey?_eq_none_iff.mp first)) occupied
  | some key => exact ⟨key, Std.ExtTreeMap.minKey?_mem first⟩

theorem Queue.size_eraseFirst (queue : Queue) (occupied : 0 < queue.size) :
    (Queue.eraseFirst queue).size + 1 = queue.size := by
  unfold Queue.eraseFirst
  cases first : queue.minKey? with
  | none =>
      rw [Std.ExtTreeMap.minKey?_eq_none_iff.mp first] at occupied
      simp at occupied
  | some key =>
      have member := Std.ExtTreeMap.minKey?_mem first
      simp only [Std.ExtTreeMap.size_erase, Std.ExtTreeMap.contains_iff_mem, member, if_true]
      omega

theorem Queue.size_store (queue : Queue) (seq : Seq) (entry : Entry) :
    Std.ExtTreeMap.size (queue.insertIfNew seq entry) ≤ queue.size + 1 :=
  Std.ExtTreeMap.size_insertIfNew_le

theorem Queue.size_le_of_offsets (queue : Queue) (next : Seq) (width : Nat)
    (within : ∀ seq ∈ queue, (seq - next).toNat < width) : queue.size ≤ width := by
  have distinct : (queue.keys.map fun seq => (seq - next).toNat).Nodup := by
    refine List.Nodup.map_on ?_ Std.ExtTreeMap.nodup_keys
    intro left _ right _ same
    bv_omega
  have subset : (queue.keys.map fun seq => (seq - next).toNat).toFinset ⊆ Finset.range width := by
    intro offset member
    obtain ⟨seq, present, rfl⟩ := List.mem_map.mp (List.mem_toFinset.mp member)
    exact Finset.mem_range.mpr (within seq (Std.ExtTreeMap.mem_keys.mp present))
  have count := Finset.card_le_card subset
  rwa [List.toFinset_card_of_nodup distinct, List.length_map, Std.ExtTreeMap.length_keys,
    Finset.card_range] at count

theorem Queue.le_size_of_offsets (queue : Queue) (next : Seq) (width : Nat)
    (bounded : width ≤ 2 ^ 32) (full : ∀ offset < width, next + BitVec.ofNat 32 offset ∈ queue) :
    width ≤ queue.size := by
  have injective : Set.InjOn (fun offset => next + BitVec.ofNat 32 offset)
      (Finset.range width : Set Nat) := by
    intro left leftIn right rightIn same
    have leftBound := Finset.mem_range.mp (Finset.mem_coe.mp leftIn)
    have rightBound := Finset.mem_range.mp (Finset.mem_coe.mp rightIn)
    have values : (BitVec.ofNat 32 left).toNat = (BitVec.ofNat 32 right).toNat :=
      congrArg BitVec.toNat (by simpa using same)
    simp only [BitVec.toNat_ofNat] at values
    omega
  have subset : (Finset.range width).image (fun offset => next + BitVec.ofNat 32 offset) ⊆
      queue.keys.toFinset := by
    intro seq member
    obtain ⟨offset, within, rfl⟩ := Finset.mem_image.mp member
    exact List.mem_toFinset.mpr
      (Std.ExtTreeMap.mem_keys.mpr (full offset (Finset.mem_range.mp within)))
  have count := Finset.card_le_card subset
  rwa [Finset.card_image_of_injOn injective, Finset.card_range,
    List.toFinset_card_of_nodup Std.ExtTreeMap.nodup_keys, Std.ExtTreeMap.length_keys] at count

/-! ### What every history keeps -/

structure Playout.Sound (config : JitterConfig) (playout : Playout Decoder) : Prop where
  cfg : playout.buffer.cfg = config
  open_ : playout.decoder.isSome = true
  bounded : playout.buffer.queue.size ≤ maxEntries config
  untouched : playout.highest = none →
    playout.buffer.started = false ∧ playout.buffer.queue = ∅
  tracked : ∀ highest, playout.highest = some highest →
    playout.buffer.started = true ∧
      lead highest playout.buffer.nextSeq ≤ 2 ^ 31 ∧
      ∀ seq ∈ playout.buffer.queue,
        (seq - playout.buffer.nextSeq).toNat < lead highest playout.buffer.nextSeq

theorem OpusLibrary.conceal_isSome (opus : OpusLibrary Decoder) (decoder : Option Decoder)
    (isOpen : decoder.isSome = true) : (opus.conceal decoder).decoder.isSome = true := by
  cases decoder with
  | none => cases isOpen
  | some decoder =>
      simp only [OpusLibrary.conceal]
      split <;> rfl

theorem OpusLibrary.decode_isSome (opus : OpusLibrary Decoder) (payload : Bytes)
    (decoder : Option Decoder) (isOpen : decoder.isSome = true) :
    (opus.decode payload decoder).decoder.isSome = true := by
  cases decoder with
  | none => cases isOpen
  | some decoder =>
      simp only [OpusLibrary.decode]
      split
      · exact opus.conceal_isSome _ rfl
      · rfl

theorem JitterBuffer.pop_decoder_isSome (buffer : JitterBuffer) (opus : OpusLibrary Decoder)
    (decoder : Option Decoder) (samples : Nat) (isOpen : decoder.isSome = true) :
    (buffer.pop opus decoder samples).decoder.isSome = true := by
  unfold JitterBuffer.pop
  split
  · exact isOpen
  · split
    · exact opus.conceal_isSome decoder isOpen
    · exact opus.decode_isSome _ decoder isOpen

theorem JitterBuffer.push_mem (buffer : JitterBuffer) (seq other : Seq) (payload : Bytes)
    (arrivalMs : BitVec 64) (member : other ∈ (buffer.push seq payload arrivalMs).queue) :
    other ∈ buffer.queue ∨ (other = seq ∧ (seq - buffer.playoutAt seq).toNat < 2 ^ 31) := by
  rcases buffer.push_queue seq payload arrivalMs with
    ⟨-, same⟩ | ⟨-, -, same⟩ | ⟨ahead, -, stored⟩
  · exact Or.inl (same ▸ member)
  · exact Or.inl (same ▸ member)
  · rw [stored, Std.ExtTreeMap.mem_insertIfNew] at member
    rcases member with equal | kept
    · refine Or.inr ⟨(Std.LawfulEqCmp.eq_of_compare equal).symm, ?_⟩
      have notLate := (toInt_neg_iff (seq - buffer.playoutAt seq)).not.mp (Int.not_lt.mpr ahead)
      omega
    · split at kept
      · exact Or.inl (Queue.mem_eraseFirst kept)
      · exact Or.inl kept

theorem JitterBuffer.push_size (buffer : JitterBuffer) (seq : Seq) (payload : Bytes)
    (arrivalMs : BitVec 64) (bounded : buffer.queue.size ≤ maxEntries buffer.cfg) :
    (buffer.push seq payload arrivalMs).queue.size ≤ maxEntries buffer.cfg := by
  rcases buffer.push_queue seq payload arrivalMs with
    ⟨-, same⟩ | ⟨-, -, same⟩ | ⟨-, -, stored⟩
  · rw [same]; exact bounded
  · rw [same]; exact bounded
  · rw [stored]
    have positive : 0 < maxEntries buffer.cfg := Nat.succ_pos _
    split
    · rename_i full
      have evicted := Queue.size_eraseFirst buffer.queue (by omega)
      have grown := Queue.size_store (Queue.eraseFirst buffer.queue) seq
        { payload := payload, arrivalMs := arrivalMs }
      omega
    · have grown := Queue.size_store buffer.queue seq
        { payload := payload, arrivalMs := arrivalMs }
      omega

theorem Playout.sound_initial (config : JitterConfig) (decoder : Decoder) :
    (Playout.initial config decoder).Sound config :=
  { cfg := rfl
    open_ := rfl
    bounded := Nat.zero_le _
    untouched := fun _ => ⟨rfl, rfl⟩
    tracked := by intro highest impossible; cases impossible }

theorem Playout.Sound.push {config : JitterConfig} {playout : Playout Decoder}
    (sound : playout.Sound config) (opus : OpusLibrary Decoder) (seq : Seq) (payload : Bytes)
    (arrivalMs : BitVec 64) : (playout.step opus (.push seq payload arrivalMs)).Sound config := by
  refine
    { cfg := (playout.buffer.push_cfg seq payload arrivalMs).trans sound.cfg
      open_ := sound.open_
      bounded := ?_
      untouched := by intro impossible; cases impossible
      tracked := ?_ }
  · have bound := playout.buffer.push_size seq payload arrivalMs (by
      rw [sound.cfg]; exact sound.bounded)
    rwa [sound.cfg] at bound
  · intro raised raisedAt
    have raisedEq : playout.buffer.raise seq playout.highest = raised := Option.some.inj raisedAt
    subst raisedEq
    refine ⟨playout.buffer.push_started seq payload arrivalMs, ?_⟩
    simp only [Playout.step, JitterBuffer.push_nextSeq]
    cases highestAt : playout.highest with
    | none =>
        obtain ⟨fresh, empty⟩ := sound.untouched highestAt
        have playout_eq : playout.buffer.playoutAt seq = seq := by
          simp [JitterBuffer.playoutAt, fresh]
        have one : lead seq seq = 1 := by
          unfold lead
          bv_omega
        rw [playout_eq]
        simp only [JitterBuffer.raise, one]
        refine ⟨by decide, ?_⟩
        intro other member
        rcases playout.buffer.push_mem seq other payload arrivalMs member with old | ⟨rfl, -⟩
        · rw [empty] at old
          simp at old
        · simp
    | some highest =>
        obtain ⟨running, within, inside⟩ := sound.tracked highest highestAt
        have playout_eq : playout.buffer.playoutAt seq = playout.buffer.nextSeq := by
          simp [JitterBuffer.playoutAt, running]
        have covered := lead_raise playout.buffer seq highest within
        rw [playout_eq, covered]
        refine ⟨by split <;> omega, ?_⟩
        intro other member
        rcases playout.buffer.push_mem seq other payload arrivalMs member with old | ⟨rfl, near⟩
        · have before := inside other old
          split <;> omega
        · rw [playout_eq] at near
          rw [if_pos near]
          omega

theorem Playout.Sound.pop {config : JitterConfig} {playout : Playout Decoder}
    (sound : playout.Sound config) (opus : OpusLibrary Decoder) (samples : Nat) :
    (playout.step opus (.pop samples)).Sound config := by
  have stillOpen := playout.buffer.pop_decoder_isSome opus playout.decoder samples sound.open_
  rcases playout.buffer.pop_cases opus playout.decoder samples with
    ⟨-, same, -⟩ | ⟨running, -, missing, skipped, -⟩ | ⟨running, -, entry, present, served, -⟩
  · exact
      { cfg := by simp only [Playout.step, same]; exact sound.cfg
        open_ := stillOpen
        bounded := by simp only [Playout.step, same]; exact sound.bounded
        untouched := by simp only [Playout.step, same]; exact sound.untouched
        tracked := by simp only [Playout.step, same]; exact sound.tracked }
  · refine
      { cfg := by simp only [Playout.step, skipped]; exact sound.cfg
        open_ := stillOpen
        bounded := by simp only [Playout.step, skipped]; exact sound.bounded
        untouched := ?_
        tracked := ?_ }
    · intro none
      rw [(sound.untouched none).1] at running
      cases running
    · intro highest highestAt
      obtain ⟨-, within, inside⟩ := sound.tracked highest highestAt
      simp only [Playout.step, skipped]
      refine ⟨running, ?_⟩
      rw [JitterBuffer.skip_nextSeq, JitterBuffer.skip_queue]
      split
      · exact ⟨within, inside⟩
      · rename_i occupied
        -- nothing sits at the playout point
        have drop : ∀ seq ∈ playout.buffer.queue,
            (seq - (playout.buffer.nextSeq + 1#32)).toNat + 1 =
              (seq - playout.buffer.nextSeq).toNat := by
          intro seq member
          exact offset_succ (fun same => missing (same ▸ member))
        obtain ⟨first, member⟩ := Queue.exists_mem occupied
        have high := inside first member
        have shorter := lead_succ (Nat.zero_lt_of_lt high)
        refine ⟨by omega, ?_⟩
        intro seq present
        have before := drop seq present
        have bound := inside seq present
        omega
  · refine
      { cfg := by simp only [Playout.step, served]; exact sound.cfg
        open_ := stillOpen
        bounded := ?_
        untouched := ?_
        tracked := ?_ }
    · simp only [Playout.step, served, JitterBuffer.serve]
      exact Nat.le_trans Std.ExtTreeMap.size_erase_le sound.bounded
    · intro none
      rw [(sound.untouched none).1] at running
      cases running
    · intro highest highestAt
      obtain ⟨-, within, inside⟩ := sound.tracked highest highestAt
      simp only [Playout.step, served, JitterBuffer.serve]
      have here : playout.buffer.nextSeq ∈ playout.buffer.queue := by
        rw [Std.ExtTreeMap.mem_iff_isSome_getElem?, present]
        rfl
      have high := inside _ here
      have shorter := lead_succ (Nat.zero_lt_of_lt high)
      refine ⟨running, by omega, ?_⟩
      intro seq member
      obtain ⟨different, kept⟩ := Std.ExtTreeMap.mem_erase.mp member
      have apart : seq ≠ playout.buffer.nextSeq := by
        rintro rfl
        exact different (Std.ReflCmp.compare_self)
      have bound := inside seq kept
      have drop := offset_succ apart
      omega

theorem Playout.Sound.step {config : JitterConfig} {playout : Playout Decoder}
    (opus : OpusLibrary Decoder) (op : PlayoutOp) (sound : playout.Sound config) :
    (playout.step opus op).Sound config := by
  cases op with
  | push seq payload arrivalMs => exact sound.push opus seq payload arrivalMs
  | pop samples => exact sound.pop opus samples
  | reset =>
      exact
        { cfg := sound.cfg
          open_ := sound.open_
          bounded := Nat.zero_le _
          untouched := fun _ => ⟨rfl, rfl⟩
          tracked := by intro highest impossible; cases impossible }

theorem Playout.sound_final (opus : OpusLibrary Decoder) (config : JitterConfig)
    (decoder : Decoder) (ops : List PlayoutOp) :
    (Run.final (Playout.step opus) (Playout.initial config decoder) ops).Sound config :=
  Run.invariant_always (Playout.Sound config) (fun _ op sound => sound.step opus op) _ ops
    (Playout.sound_initial config decoder)

end SmartMic.Media
