import SmartMic.Driver.RingSteps

set_option autoImplicit false

/-! What becomes of every frame that the service hands to the ring. The ring is
watched over a whole run: which frames went in, which came out as real frames, and
which indices `Read` answered with silence.

`Read` moves past the whole request, so the reader can be ahead of the producer. A frame
that goes in behind the reader never comes out: its place was silence already. -/

namespace SmartMic.Driver

/-- Indices that one `Read` answered with silence. -/
structure SilentStretch where
  first : Nat
  count : Nat

/-- The two halves with their history. The frame at position `i` of `accepted` was
written for index `i`; `delivered` has the index and the value of every real frame. -/
structure RingLedger where
  pair : Pair
  accepted : List PcmFrame
  /-- How many frames had gone in when `SetStreamOpen` was called last. -/
  opened : Nat
  delivered : List (Nat × PcmFrame)
  passed : List SilentStretch
  silent : Nat
  refused : Nat

def RingLedger.initial : RingLedger :=
  { pair := Pair.initial
    accepted := []
    opened := 0
    delivered := []
    passed := []
    silent := 0
    refused := 0 }

instance (pair : Pair) (input : List Binary32) (now : BitVec 64) :
    Decidable (Accepted pair input now) :=
  inferInstanceAs (Decidable (_ ∧ _))

/-- Where the frames of a fresh drain of `frames` frames start. -/
def Drain.start (drain : Drain) (frames : BitVec 32) : Nat :=
  (drain.ring.header.readIndex - frames.setWidth 64).toNat

def Drain.deliveries (drain : Drain) (frames : BitVec 32) : List (Nat × PcmFrame) :=
  (List.range drain.realFrames.toNat).map fun position =>
    (drain.start frames + position, drain.destination.getD position 0#16)

def Drain.stretch (drain : Drain) (frames : BitVec 32) : SilentStretch :=
  { first := drain.start frames + drain.realFrames.toNat
    count := frames.toNat - drain.realFrames.toNat }

def RingLedger.step (ledger : RingLedger) (call : Call) : RingLedger :=
  let after := { ledger with pair := ledger.pair.step call }
  match call with
  | .start _ _ => after
  | .stop => after
  | .write input now =>
      if Accepted ledger.pair input now then
        { after with accepted := ledger.accepted ++ input.map toPcm16 }
      else if ledger.pair.link.attached then
        { after with refused := ledger.refused + input.length }
      else after
  | .read frames now =>
      let drain := ledger.pair.ring.read frames now
      let counted :=
        { after with silent := ledger.silent + (frames.toNat - drain.realFrames.toNat) }
      if ledger.pair.ring.header.producerAlive now then
        { counted with
          delivered := ledger.delivered ++ drain.deliveries frames
          passed := ledger.passed ++ [drain.stretch frames] }
      else counted
  | .setStreamOpen isOpen =>
      { after with
        opened := ledger.accepted.length
        passed := if isOpen then [] else ledger.passed }

def RingLedger.DeliveredAt (ledger : RingLedger) (index : Nat) : Prop :=
  index ∈ ledger.delivered.map Prod.fst

instance (ledger : RingLedger) (index : Nat) : Decidable (ledger.DeliveredAt index) :=
  inferInstanceAs (Decidable (index ∈ _))

/-- The frame is still in the payload, ahead of the reader. -/
def RingLedger.UnreadAt (ledger : RingLedger) (index : Nat) : Prop :=
  ledger.pair.ring.header.readIndex.toNat ≤ index ∧
    some (ledger.pair.ring.payload (index % ringFrames)) = ledger.accepted[index]?

/-- A `Read` has answered with silence for this index. -/
def RingLedger.PassedAt (ledger : RingLedger) (index : Nat) : Prop :=
  ∃ stretch ∈ ledger.passed, stretch.first ≤ index ∧ index < stretch.first + stretch.count

/-- Real frames come out once, in write order and as they were written. Every frame that
went in since `SetStreamOpen` came out, is unread, or was passed over in silence, and
never two of these; the counters tell the silent and the refused frames. -/
structure RingLedger.Accounted (ledger : RingLedger) : Prop where
  order : (ledger.delivered.map Prod.fst).Pairwise (· < ·)
  genuine : ∀ entry ∈ ledger.delivered, ledger.accepted[entry.1]? = some entry.2
  fate : ∀ index, ledger.opened ≤ index → index < ledger.accepted.length →
    ledger.DeliveredAt index ∨ ledger.UnreadAt index ∨ ledger.PassedAt index
  apart : ∀ index, (ledger.DeliveredAt index → ¬ ledger.UnreadAt index) ∧
    (ledger.DeliveredAt index → ¬ ledger.PassedAt index) ∧
    (ledger.PassedAt index → ¬ ledger.UnreadAt index)
  underruns : ledger.pair.ring.header.underrunCount = BitVec.ofNat 32 ledger.silent
  overruns : ledger.pair.ring.header.overrunCount = BitVec.ofNat 32 ledger.refused

/-- The same without silence for an excuse: what went in since `SetStreamOpen` and neither
came out nor is unread is covered by `overrunCount`. -/
structure RingLedger.OnlyOverruns (ledger : RingLedger) : Prop where
  order : (ledger.delivered.map Prod.fst).Pairwise (· < ·)
  genuine : ∀ entry ∈ ledger.delivered, ledger.accepted[entry.1]? = some entry.2
  counted : ((List.range ledger.accepted.length).filter fun index =>
      decide (ledger.opened ≤ index ∧ ¬ ledger.DeliveredAt index ∧
        index < ledger.pair.ring.header.readIndex.toNat)).length ≤
    ledger.pair.ring.header.overrunCount.toNat

def Call.frames : Call → Nat
  | .write input _ => input.length
  | .read frames _ => frames.toNat
  | _ => 0

def framesMoved (calls : List Call) : Nat := (calls.map Call.frames).sum

def Call.Short : Call → Prop
  | .write input _ => input.length ≤ ringFrames
  | _ => True

/-! ### The invariant -/

/-- What every step keeps while `budget` more frames may move. -/
structure RingLedger.Sound (ledger : RingLedger) (budget : Nat) : Prop where
  length : ledger.accepted.length = ledger.pair.ring.header.writeIndex.toNat
  near : ledger.pair.ring.header.writeIndex.toNat ≤
    ledger.pair.ring.header.readIndex.toNat + ringFrames
  room : max ledger.pair.ring.header.writeIndex.toNat
    ledger.pair.ring.header.readIndex.toNat + budget + ringFrames < 2 ^ 64
  holds : Circular.Holds ringFrames ledger.pair.ring.payload
    ledger.pair.ring.header.readIndex.toNat
    (ledger.accepted.drop ledger.pair.ring.header.readIndex.toNat)
  order : (ledger.delivered.map Prod.fst).Pairwise (· < ·)
  genuine : ∀ entry ∈ ledger.delivered, ledger.accepted[entry.1]? = some entry.2
  reached : ∀ index, ledger.DeliveredAt index →
    index < ledger.pair.ring.header.readIndex.toNat
  opened : ledger.opened ≤ ledger.accepted.length
  covered : ∀ index, ledger.opened ≤ index →
    index < ledger.pair.ring.header.readIndex.toNat →
      ledger.DeliveredAt index ∨ ledger.PassedAt index
  behind : ∀ stretch ∈ ledger.passed,
    stretch.first + stretch.count ≤ ledger.pair.ring.header.readIndex.toNat
  disjoint : ∀ index, ledger.DeliveredAt index → ¬ ledger.PassedAt index
  underruns : ledger.pair.ring.header.underrunCount = BitVec.ofNat 32 ledger.silent
  overruns : ledger.pair.ring.header.overrunCount = BitVec.ofNat 32 ledger.refused

theorem RingLedger.sound_initial {budget : Nat} (room : budget + ringFrames < 2 ^ 64) :
    RingLedger.initial.Sound budget :=
  { length := rfl
    near := Nat.zero_le _
    room := by
      change max 0 0 + budget + ringFrames < 2 ^ 64
      omega
    holds := Circular.holds_nil _ _ _
    order := List.Pairwise.nil
    genuine := fun _ member => absurd member List.not_mem_nil
    reached := fun _ member => absurd member List.not_mem_nil
    opened := Nat.le_refl _
    covered := fun _ _ impossible => absurd impossible (Nat.not_lt_zero _)
    behind := fun _ member => absurd member List.not_mem_nil
    disjoint := fun _ member => absurd member List.not_mem_nil
    underruns := rfl
    overruns := rfl }

section

variable {ledger : RingLedger} {budget : Nat}

theorem RingLedger.Sound.unwrapped (sound : ledger.Sound budget) :
    ledger.pair.ring.header.Unwrapped :=
  { near := sound.near
    below := by
      have room := sound.room
      omega }

theorem RingLedger.Sound.accounted (sound : ledger.Sound budget) : ledger.Accounted := by
  have passedBehind : ∀ index, ledger.PassedAt index →
      index < ledger.pair.ring.header.readIndex.toNat := by
    intro index passed
    obtain ⟨stretch, member, _, within⟩ := passed
    exact Nat.lt_of_lt_of_le within (sound.behind stretch member)
  constructor
  · exact sound.order
  · exact sound.genuine
  · intro index since inside
    by_cases read : index < ledger.pair.ring.header.readIndex.toNat
    · rcases sound.covered index since read with delivered | passed
      · exact Or.inl delivered
      · exact Or.inr (Or.inr passed)
    · have unread := not_lt.mp read
      refine Or.inr (Or.inl ⟨unread, ?_⟩)
      rw [sound.holds.get_of_drop unread inside, List.getElem?_eq_getElem inside]
  · intro index
    refine ⟨?_, sound.disjoint index, ?_⟩
    · intro delivered unread
      exact absurd (sound.reached index delivered) (not_lt.mpr unread.1)
    · intro passed unread
      exact absurd (passedBehind index passed) (not_lt.mpr unread.1)
  · exact sound.underruns
  · exact sound.overruns

theorem RingLedger.Sound.spend (sound : ledger.Sound budget) {less : Nat}
    (fewer : less ≤ budget) : ledger.Sound less :=
  { sound with
    room := by
      have room := sound.room
      omega }

theorem RingLedger.Sound.recount (sound : ledger.Sound budget) {pair : Pair}
    {silent refused : Nat}
    (writeIndex : pair.ring.header.writeIndex = ledger.pair.ring.header.writeIndex)
    (readIndex : pair.ring.header.readIndex = ledger.pair.ring.header.readIndex)
    (payload : pair.ring.payload = ledger.pair.ring.payload)
    (underruns : pair.ring.header.underrunCount = BitVec.ofNat 32 silent)
    (overruns : pair.ring.header.overrunCount = BitVec.ofNat 32 refused) :
    RingLedger.Sound { ledger with pair := pair, silent := silent, refused := refused }
      budget := by
  constructor
  · rw [writeIndex]
    exact sound.length
  · rw [writeIndex, readIndex]
    exact sound.near
  · rw [writeIndex, readIndex]
    exact sound.room
  · rw [payload, readIndex]
    exact sound.holds
  · exact sound.order
  · exact sound.genuine
  · rw [readIndex]
    exact sound.reached
  · exact sound.opened
  · rw [readIndex]
    exact sound.covered
  · rw [readIndex]
    exact sound.behind
  · exact sound.disjoint
  · exact underruns
  · exact overruns

theorem RingLedger.Sound.still (sound : ledger.Sound budget) {pair : Pair}
    (same : ledger.pair.ring.SameBut pair.ring) :
    RingLedger.Sound { ledger with pair := pair } budget :=
  sound.recount same.writeIndex same.readIndex same.payload
    (same.underrunCount.trans sound.underruns) (same.overrunCount.trans sound.overruns)

theorem RingLedger.Sound.delivered_lt (sound : ledger.Sound budget) {index : Nat}
    (delivered : ledger.DeliveredAt index) : index < ledger.accepted.length := by
  obtain ⟨entry, member, rfl⟩ := List.mem_map.mp delivered
  exact (List.getElem?_eq_some_iff.mp (sound.genuine entry member)).1

/-! ### One step for each call -/

theorem RingLedger.step_write_accepted {ledger : RingLedger}
    (attached : ledger.pair.link.attached = true) {input : List Binary32}
    (fits : ledger.pair.ring.header.Fits (input.map toPcm16).length) (now : BitVec 64) :
    ledger.step (.write input now) = { ledger with
      pair := { ledger.pair with ring := ledger.pair.ring.writeFrames (input.map toPcm16) now }
      accepted := ledger.accepted ++ input.map toPcm16 } := by
  have goesIn : Accepted ledger.pair input now := by
    have moved := ledger.pair.ring.writeFrames_fits (input.map toPcm16) now fits
    rw [List.length_map] at moved
    unfold Accepted
    rw [Pair.step_write_attached attached]
    exact moved
  unfold RingLedger.step
  dsimp only
  rw [if_pos goesIn, Pair.step_write_attached attached]

theorem RingLedger.step_read_fresh {ledger : RingLedger} {now : BitVec 64}
    (alive : ledger.pair.ring.header.producerAlive now = true) (frames : BitVec 32) :
    ledger.step (.read frames now) = { ledger with
      pair := { ledger.pair with ring := (ledger.pair.ring.read frames now).ring }
      silent := ledger.silent +
        (frames.toNat - (ledger.pair.ring.read frames now).realFrames.toNat)
      delivered := ledger.delivered ++ (ledger.pair.ring.read frames now).deliveries frames
      passed := ledger.passed ++ [(ledger.pair.ring.read frames now).stretch frames] } := by
  unfold RingLedger.step
  dsimp only
  rw [if_pos alive]
  rfl

theorem RingLedger.Sound.accepts {scratch : List PcmFrame}
    (sound : ledger.Sound (scratch.length + budget)) (short : scratch.length ≤ ringFrames)
    (fits : ledger.pair.ring.header.Fits scratch.length) (now : BitVec 64)
    (link : SmartMicDriverLink) :
    RingLedger.Sound { ledger with
      pair := { link := link, ring := ledger.pair.ring.writeFrames scratch now }
      accepted := ledger.accepted ++ scratch } budget := by
  obtain ⟨header, payload⟩ := ledger.pair.ring.writeFrames_accepted scratch now fits
  obtain ⟨reaches, level⟩ := (sound.unwrapped.fits_iff short).mp fits
  have room := sound.room
  have length := sound.length
  have writeIndex : (ledger.pair.ring.header.writeIndex +
      BitVec.ofNat 64 scratch.length).toNat =
        ledger.pair.ring.header.writeIndex.toNat + scratch.length := by
    rw [BitVec.toNat_add, BitVec.toNat_ofNat]
    unfold ringFrames at short room
    omega
  constructor
  · rw [header]
    dsimp only
    rw [writeIndex, List.length_append, length]
  · rw [header]
    dsimp only
    rw [writeIndex]
    exact level
  · rw [header]
    dsimp only
    rw [writeIndex]
    omega
  · rw [header]
    dsimp only
    rw [payload, ← length]
    exact sound.holds.append_drop (by decide) (by omega) short
  · exact sound.order
  · intro entry member
    have held := sound.genuine entry member
    rw [List.getElem?_append_left (List.getElem?_eq_some_iff.mp held).1]
    exact held
  · rw [header]
    exact sound.reached
  · rw [List.length_append]
    exact Nat.le_trans sound.opened (Nat.le_add_right _ _)
  · rw [header]
    exact sound.covered
  · rw [header]
    exact sound.behind
  · exact sound.disjoint
  · rw [header]
    exact sound.underruns
  · rw [header]
    exact sound.overruns

theorem RingLedger.Sound.write {input : List Binary32}
    (sound : ledger.Sound (input.length + budget)) (short : input.length ≤ ringFrames)
    (now : BitVec 64) : (ledger.step (.write input now)).Sound budget := by
  have converted : (input.map toPcm16).length = input.length := List.length_map _
  have accepted := accepted_iff ledger.pair input now short
  unfold RingLedger.step
  dsimp only
  cases attached : ledger.pair.link.attached with
  | false =>
      have kept := sound.spend (Nat.le_add_left budget input.length)
      rw [Pair.step_write_detached attached]
      split
      · rename_i goesIn
        have none : input = [] := by
          rcases accepted.mp goesIn with none | ⟨impossible, _⟩
          · exact none
          · rw [attached] at impossible
            cases impossible
        rw [none, List.map_nil, List.append_nil]
        exact kept
      · exact kept
  | true =>
      rw [Pair.step_write_attached attached]
      by_cases fits : ledger.pair.ring.header.Fits input.length
      · rw [if_pos (accepted.mpr (Or.inr ⟨attached, fits⟩))]
        rw [← converted] at sound short fits
        exact sound.accepts short fits now ledger.pair.link
      · rw [← converted] at fits
        obtain ⟨header, payload⟩ :=
          ledger.pair.ring.writeFrames_refused (input.map toPcm16) now fits
        have refused : RingLedger.Sound { ledger with
            pair := { ledger.pair with
              ring := ledger.pair.ring.writeFrames (input.map toPcm16) now }
            refused := ledger.refused + input.length } budget := by
          apply (sound.spend (Nat.le_add_left budget input.length)).recount
          · rw [header]
          · rw [header]
          · exact payload
          · rw [header]
            exact sound.underruns
          · rw [header, BitVec.ofNat_add, ← sound.overruns, converted]
        split
        · rename_i goesIn
          have none : input = [] := by
            rcases accepted.mp goesIn with none | ⟨_, room⟩
            · exact none
            · rw [converted] at fits
              exact absurd room fits
          rw [none] at refused ⊢
          rw [List.map_nil, List.append_nil]
          exact refused
        · exact refused

/-- What a fresh drain hands out starts at the reader, is what was written there, and its
silence starts where the real frames end. -/
theorem RingLedger.Sound.drains (sound : ledger.Sound budget) {frames : BitVec 32}
    (small : frames.toNat ≤ budget) {now : BitVec 64}
    (alive : ledger.pair.ring.header.producerAlive now = true) :
    let drain := ledger.pair.ring.read frames now
    drain.start frames = ledger.pair.ring.header.readIndex.toNat ∧
    drain.ring.header.readIndex.toNat =
      ledger.pair.ring.header.readIndex.toNat + frames.toNat ∧
    drain.realFrames.toNat = min frames.toNat ledger.pair.ring.header.unread ∧
    ∀ position < drain.realFrames.toNat,
      ledger.accepted[ledger.pair.ring.header.readIndex.toNat + position]? =
        some (drain.destination.getD position 0#16) := by
  intro drain
  have reads : ledger.pair.ring.Reads frames drain :=
    SharedRing.reads_fresh sound.near frames alive
  have room := sound.room
  have near := sound.near
  have length := sound.length
  have width : (frames.setWidth 64).toNat = frames.toNat := by
    rw [BitVec.toNat_setWidth]
    exact Nat.mod_eq_of_lt (Nat.lt_of_lt_of_le frames.isLt (by decide))
  have reached : drain.ring.header.readIndex.toNat =
      ledger.pair.ring.header.readIndex.toNat + frames.toNat := by
    rw [reads.readIndex, BitVec.toNat_add, width]
    omega
  refine ⟨?_, reached, reads.realFrames, ?_⟩
  · unfold Drain.start
    rw [reads.readIndex, BitVec.add_sub_cancel]
  · intro position inside
    rw [reads.realFrames] at inside
    have unread : ledger.pair.ring.header.unread =
        ledger.accepted.length - ledger.pair.ring.header.readIndex.toNat := by
      unfold RingHeader.unread
      rw [length]
    have available : min frames.toNat ledger.pair.ring.header.unread ≤
        (ledger.accepted.drop ledger.pair.ring.header.readIndex.toNat).length := by
      rw [List.length_drop, unread]
      exact Nat.min_le_right _ _
    have short : min frames.toNat ledger.pair.ring.header.unread ≤ ringFrames := by
      rw [unread]
      omega
    have held : ledger.pair.ring.header.readIndex.toNat + position < ledger.accepted.length := by
      omega
    have taken : position < ((ledger.accepted.drop
        ledger.pair.ring.header.readIndex.toNat).take
          (min frames.toNat ledger.pair.ring.header.unread)).length := by
      rw [List.length_take]
      omega
    rw [reads.destination, sound.holds.load (by decide) available short,
      List.getElem?_eq_getElem held, List.getD_eq_getElem?_getD,
      List.getElem?_append_left taken, List.getElem?_eq_getElem taken, List.getElem_take,
      List.getElem_drop]
    rfl

theorem Drain.deliveries_indices (drain : Drain) (frames : BitVec 32) :
    (drain.deliveries frames).map Prod.fst =
      (List.range drain.realFrames.toNat).map (drain.start frames + ·) := by
  unfold Drain.deliveries
  rw [List.map_map]
  rfl

/-- The history by indices alone: what came out and what was passed over lies before the
reader, in order, and covers what went in since the stream was opened. -/
structure Traced (opened reader : Nat) (delivered : List (Nat × PcmFrame))
    (passed : List SilentStretch) : Prop where
  order : (delivered.map Prod.fst).Pairwise (· < ·)
  reached : ∀ index ∈ delivered.map Prod.fst, index < reader
  covered : ∀ index, opened ≤ index → index < reader →
    index ∈ delivered.map Prod.fst ∨
      ∃ stretch ∈ passed, stretch.first ≤ index ∧ index < stretch.first + stretch.count
  behind : ∀ stretch ∈ passed, stretch.first + stretch.count ≤ reader
  disjoint : ∀ index ∈ delivered.map Prod.fst,
    ¬ ∃ stretch ∈ passed, stretch.first ≤ index ∧ index < stretch.first + stretch.count

theorem RingLedger.Sound.traced (sound : ledger.Sound budget) :
    Traced ledger.opened ledger.pair.ring.header.readIndex.toNat ledger.delivered
      ledger.passed :=
  { order := sound.order
    reached := sound.reached
    covered := sound.covered
    behind := sound.behind
    disjoint := sound.disjoint }

/-- A read moves the reader over `frames` indices: the first `real` of them come out, the
others are answered with silence. -/
theorem Traced.read {opened reader frames real : Nat} {delivered moved : List (Nat × PcmFrame)}
    {passed : List SilentStretch} (traced : Traced opened reader delivered passed)
    (short : real ≤ frames) (indices : moved.map Prod.fst = (List.range real).map (reader + ·)) :
    Traced opened (reader + frames) (delivered ++ moved)
      (passed ++ [{ first := reader + real, count := frames - real }]) := by
  have mem_moved : ∀ index,
      index ∈ moved.map Prod.fst ↔ reader ≤ index ∧ index < reader + real := by
    intro index
    rw [indices, List.mem_map]
    constructor
    · rintro ⟨position, member, rfl⟩
      have inside := List.mem_range.mp member
      exact ⟨Nat.le_add_right _ _, Nat.add_lt_add_left inside reader⟩
    · intro within
      exact ⟨index - reader, List.mem_range.mpr (by omega), by omega⟩
  have mem_both : ∀ index, index ∈ (delivered ++ moved).map Prod.fst ↔
      index ∈ delivered.map Prod.fst ∨ (reader ≤ index ∧ index < reader + real) := by
    intro index
    rw [List.map_append, List.mem_append, mem_moved]
  constructor
  · rw [List.map_append, List.pairwise_append]
    refine ⟨traced.order, ?_, ?_⟩
    · rw [indices]
      exact List.pairwise_lt_range.map _ (fun _ _ less => Nat.add_lt_add_left less _)
    · intro earlier old later new
      exact Nat.lt_of_lt_of_le (traced.reached earlier old) ((mem_moved later).mp new).1
  · intro index member
    rcases (mem_both index).mp member with old | new
    · exact Nat.lt_of_lt_of_le (traced.reached index old) (Nat.le_add_right _ _)
    · omega
  · intro index since below
    by_cases old : index < reader
    · rcases traced.covered index since old with came | ⟨stretch, member, within⟩
      · exact Or.inl ((mem_both index).mpr (Or.inl came))
      · exact Or.inr ⟨stretch, List.mem_append_left _ member, within⟩
    · by_cases isReal : index < reader + real
      · exact Or.inl ((mem_both index).mpr (Or.inr ⟨not_lt.mp old, isReal⟩))
      · refine Or.inr ⟨_, List.mem_append_right _ (List.mem_singleton_self _), ?_⟩
        dsimp only
        omega
  · intro stretch member
    rcases List.mem_append.mp member with old | new
    · exact Nat.le_trans (traced.behind stretch old) (Nat.le_add_right _ _)
    · rw [List.mem_singleton.mp new]
      dsimp only
      omega
  · rintro index came ⟨stretch, member, within⟩
    rcases List.mem_append.mp member with old | new
    · have behind := traced.behind stretch old
      rcases (mem_both index).mp came with before | after
      · exact traced.disjoint index before ⟨stretch, old, within⟩
      · omega
    · rw [List.mem_singleton.mp new] at within
      dsimp only at within
      rcases (mem_both index).mp came with before | after
      · have reached := traced.reached index before
        omega
      · omega

theorem RingLedger.Sound.readStale {frames : BitVec 32}
    (sound : ledger.Sound (frames.toNat + budget)) {now : BitVec 64}
    (stale : ledger.pair.ring.header.producerAlive now = false) :
    (ledger.step (.read frames now)).Sound budget := by
  obtain ⟨header, payload, real⟩ := ledger.pair.ring.read_stale frames stale
  unfold RingLedger.step
  dsimp only
  rw [stale, if_neg Bool.false_ne_true]
  apply (sound.spend (Nat.le_add_left budget frames.toNat)).recount
  · change (ledger.pair.ring.read frames now).ring.header.writeIndex = _
    rw [header]
  · change (ledger.pair.ring.read frames now).ring.header.readIndex = _
    rw [header]
  · exact payload
  · change (ledger.pair.ring.read frames now).ring.header.underrunCount = _
    rw [header, real, BitVec.ofNat_add, ← sound.underruns]
    dsimp only
    rw [show (0#32).toNat = 0 from rfl, Nat.sub_zero, BitVec.ofNat_toNat, BitVec.setWidth_eq]
  · change (ledger.pair.ring.read frames now).ring.header.overrunCount = _
    rw [header]
    exact sound.overruns

theorem RingLedger.Sound.readFresh {frames : BitVec 32}
    (sound : ledger.Sound (frames.toNat + budget)) {now : BitVec 64}
    (alive : ledger.pair.ring.header.producerAlive now = true) :
    (ledger.step (.read frames now)).Sound budget := by
  have reads := SharedRing.reads_fresh sound.near frames alive
  obtain ⟨start, reached, real, genuine⟩ :=
    sound.drains (Nat.le_add_right frames.toNat budget) alive
  have room := sound.room
  have near := sound.near
  have traced : Traced ledger.opened
      (ledger.pair.ring.read frames now).ring.header.readIndex.toNat
      (ledger.delivered ++ (ledger.pair.ring.read frames now).deliveries frames)
      (ledger.passed ++ [(ledger.pair.ring.read frames now).stretch frames]) := by
    unfold Drain.stretch
    rw [reached, start]
    apply sound.traced.read
    · rw [real]
      exact Nat.min_le_left _ _
    · rw [Drain.deliveries_indices, start]
  rw [RingLedger.step_read_fresh alive]
  constructor
  · dsimp only
    rw [reads.writeIndex]
    exact sound.length
  · dsimp only
    rw [reads.writeIndex, reached]
    omega
  · dsimp only
    rw [reads.writeIndex, reached]
    omega
  · dsimp only
    rw [reads.payload, reached, ← List.drop_drop]
    exact sound.holds.drop frames.toNat
  · exact traced.order
  · intro entry member
    rcases List.mem_append.mp member with old | new
    · exact sound.genuine entry old
    · obtain ⟨position, inside, rfl⟩ := List.mem_map.mp new
      dsimp only
      rw [start]
      exact genuine position (List.mem_range.mp inside)
  · exact traced.reached
  · exact sound.opened
  · exact traced.covered
  · exact traced.behind
  · exact traced.disjoint
  · dsimp only
    rw [reads.underrunCount, sound.underruns, real, BitVec.ofNat_add]
  · exact reads.overrunCount.trans sound.overruns

theorem RingLedger.Sound.read {frames : BitVec 32}
    (sound : ledger.Sound (frames.toNat + budget)) (now : BitVec 64) :
    (ledger.step (.read frames now)).Sound budget := by
  cases alive : ledger.pair.ring.header.producerAlive now with
  | false => exact sound.readStale alive
  | true => exact sound.readFresh alive

/-- Opening the stream starts from the newest frame, closing it leaves the reader. -/
theorem RingLedger.Sound.setStreamOpen (sound : ledger.Sound budget) (isOpen : Bool) :
    (ledger.step (.setStreamOpen isOpen)).Sound budget := by
  have length := sound.length
  have room := sound.room
  cases isOpen with
  | true =>
      exact
        { length := length
          near := Nat.le_add_right _ _
          room := by
            change max ledger.pair.ring.header.writeIndex.toNat
              ledger.pair.ring.header.writeIndex.toNat + budget + ringFrames < 2 ^ 64
            omega
          holds := by
            change Circular.Holds ringFrames ledger.pair.ring.payload
              ledger.pair.ring.header.writeIndex.toNat
              (ledger.accepted.drop ledger.pair.ring.header.writeIndex.toNat)
            rw [← length, List.drop_length]
            exact Circular.holds_nil _ _ _
          order := sound.order
          genuine := sound.genuine
          reached := fun index delivered => length ▸ sound.delivered_lt delivered
          opened := Nat.le_refl _
          covered := by
            intro index since below
            change index < ledger.pair.ring.header.writeIndex.toNat at below
            change ledger.accepted.length ≤ index at since
            omega
          behind := fun _ member => absurd member List.not_mem_nil
          disjoint := by
            rintro index _ ⟨stretch, member, _⟩
            exact absurd member List.not_mem_nil
          underruns := sound.underruns
          overruns := sound.overruns }
  | false =>
      exact
        { length := length
          near := sound.near
          room := room
          holds := sound.holds
          order := sound.order
          genuine := sound.genuine
          reached := sound.reached
          opened := Nat.le_refl _
          covered := fun index since below =>
            sound.covered index (Nat.le_trans sound.opened since) below
          behind := sound.behind
          disjoint := sound.disjoint
          underruns := sound.underruns
          overruns := sound.overruns }

theorem RingLedger.Sound.step {call : Call} (sound : ledger.Sound (call.frames + budget))
    (short : call.Short) : (ledger.step call).Sound budget := by
  cases call with
  | start replies now =>
      have kept := sound.spend (Nat.le_add_left budget _)
      exact kept.still (ledger.pair.link.start_sameBut ledger.pair.ring replies now)
  | stop => exact (sound.spend (Nat.le_add_left budget _)).still (SharedRing.SameBut.refl _)
  | write input now => exact sound.write short now
  | read frames now => exact sound.read now
  | setStreamOpen isOpen =>
      exact (sound.spend (Nat.le_add_left budget _)).setStreamOpen isOpen

theorem RingLedger.Sound.final (calls : List Call) (short : ∀ call ∈ calls, call.Short) :
    ∀ ledger : RingLedger, ledger.Sound (framesMoved calls) →
      (Run.final RingLedger.step ledger calls).Sound 0 := by
  induction calls with
  | nil => exact fun ledger sound => sound
  | cons call rest ih =>
      obtain ⟨first, later⟩ := List.forall_mem_cons.mp short
      intro ledger sound
      have split : framesMoved (call :: rest) = call.frames + framesMoved rest := by
        unfold framesMoved
        rw [List.map_cons, List.sum_cons]
      rw [split] at sound
      exact ih later _ (sound.step first)

end

/-- In every run whose writes are at most a ring long and whose frames number less than
2^64, every accepted frame is delivered once and in order, is unread, or was passed over
by a `Read` that returned silence for its index and counted it. -/
theorem ring_frames_accounted (calls : List Call) (short : ∀ call ∈ calls, call.Short)
    (few : framesMoved calls + ringFrames < 2 ^ 64) :
    (Run.final RingLedger.step RingLedger.initial calls).Accounted :=
  (RingLedger.Sound.final calls short _ (RingLedger.sound_initial few)).accounted

/-! ### Three ways to lose a frame -/

def attach : Call :=
  .start { opened := true, version := some ⟨1#32, ringVersion, ringTotalBytes⟩, mapped := true }
    1#64

/-- Three frames are written, five are asked for, and of the next four two are late and one
is read. -/
def shortRead : List Call :=
  [attach, .setStreamOpen true, .write [1, -1, 1] 1#64, .read 5#32 1#64,
    .write [-1, 1, 0, -1] 1#64, .read 1#32 1#64]

/-- Four of its seven frames come out, two were passed over, and one is unread. -/
theorem ring_frames_accounted_shortRead :
    let ledger := Run.final RingLedger.step RingLedger.initial shortRead
    ledger.Accounted ∧ ledger.delivered.map Prod.fst = [0, 1, 2, 5] ∧
      ledger.accepted.length = 7 := by
  refine ⟨?_, by decide +kernel⟩
  exact ring_frames_accounted shortRead (by simp [shortRead, attach, Call.Short, ringFrames])
    (by decide)

def lateFrame : List Call := [attach, .setStreamOpen true, .read 1#32 1#64, .write [0] 1#64]

theorem lateFrame_uncounted :
    ¬ (Run.final RingLedger.step RingLedger.initial lateFrame).OnlyOverruns := by
  intro only
  have counted := only.counted
  revert counted
  decide +kernel

def farAhead : List Call := [attach, .setStreamOpen true, .read 10000#32 1#64]

def oversized : List Binary32 := List.replicate (2 * ringFrames) 0 ++ [1]

theorem oversized_getElem {index : Nat} (early : index < 2 * ringFrames)
    {inside : index < oversized.length} : oversized[index] = 0 := by
  have found : oversized[index]? = some 0 := by
    unfold oversized
    rw [List.getElem?_append_left (by rw [List.length_replicate]; exact early),
      List.getElem?_replicate, if_pos early]
  exact (List.getElem?_eq_some_iff.mp found).2

theorem oversized_length : (oversized.map toPcm16).length = 16385 := by
  unfold oversized
  rw [List.length_map, List.length_append, List.length_replicate]
  rfl

theorem oversized_last : (oversized.map toPcm16)[16384]? = some (toPcm16 (1 : Binary32)) := by
  unfold oversized
  rw [List.getElem?_map, List.getElem?_append_right (by rw [List.length_replicate]; decide),
    List.length_replicate]
  rfl

theorem oversized_slot (memory : Nat → PcmFrame) :
    Circular.wrapStore ringFrames memory (0#64).toNat (oversized.map toPcm16) 0 =
      toPcm16 (0 : Binary32) := by
  have whole : Circular.firstPiece ringFrames (0#64).toNat (oversized.map toPcm16).length =
      ringFrames := by
    rw [oversized_length]
    rfl
  have inside : ringFrames + 0 < (oversized.map toPcm16).length := by
    rw [oversized_length]
    decide
  rw [Circular.wrapStore_second _ _ (by rw [whole]; exact inside), List.getElem_map,
    oversized_getElem (by rw [whole]; decide)]

theorem SharedRing.oversized_delivery {ring : SharedRing}
    (written : ring.header.writeIndex = 16385#64) (unmoved : ring.header.readIndex = 10000#64)
    (alive : ring.header.producerAlive 1#64 = true)
    (first : ring.payload 0 = toPcm16 (0 : Binary32)) :
    (16384, toPcm16 (0 : Binary32)) ∈ (ring.read 6385#32 1#64).deliveries 6385#32 := by
  have near : ring.header.writeIndex.toNat ≤ ring.header.readIndex.toNat + ringFrames := by
    rw [written, unmoved]
    decide
  have unread : ring.header.unread = 6385 := by
    unfold RingHeader.unread
    rw [written, unmoved]
    rfl
  have reads := SharedRing.reads_fresh near 6385#32 alive
  have real : (ring.read 6385#32 1#64).realFrames.toNat = 6385 := by
    rw [reads.realFrames, unread]
    rfl
  have reached : (ring.read 6385#32 1#64).start 6385#32 = 10000 := by
    unfold Drain.start
    rw [reads.readIndex, BitVec.add_sub_cancel, unmoved]
    rfl
  have copied : (ring.read 6385#32 1#64).destination.getD 6384 0#16 = toPcm16 (0 : Binary32) := by
    have count : min (6385#32).toNat ring.header.unread = 6385 := by
      rw [unread]
      rfl
    have loaded := Circular.wrapLoad_getElem? (by decide : 0 < ringFrames) ring.payload
      ring.header.readIndex.toNat (by decide : 6385 ≤ ringFrames) (by decide : 6384 < 6385)
    rw [reads.destination, count, List.getD_eq_getElem?_getD,
      List.getElem?_append_left (List.getElem?_eq_some_iff.mp loaded).1, loaded, unmoved]
    exact first
  apply List.mem_map.mpr
  refine ⟨6384, List.mem_range.mpr (by rw [real]; decide), ?_⟩
  rw [reached, copied]

/-- The copy of the oversized write has left the section: the frame behind its end has the
slot of an earlier one, which the reader takes for it. -/
theorem RingLedger.oversized_misread (ledger : RingLedger) {ring : SharedRing}
    (written : ring.header.writeIndex = 16385#64) (unmoved : ring.header.readIndex = 10000#64)
    (beats : ring.header.producerHeartbeat = 1#64)
    (first : ring.payload 0 = toPcm16 (0 : Binary32)) :
    ¬ ({ ledger with
        pair := { ledger.pair with ring := ring }
        accepted := oversized.map toPcm16 }.step (.read 6385#32 1#64)).OnlyOverruns := by
  intro only
  have alive : ring.header.producerAlive 1#64 = true :=
    RingHeader.producerAlive_now beats (by decide)
  rw [RingLedger.step_read_fresh alive] at only
  have genuine := only.genuine _
    (List.mem_append_right _ (SharedRing.oversized_delivery written unmoved alive first))
  dsimp only at genuine
  rw [oversized_last, Option.some.injEq] at genuine
  revert genuine
  decide +kernel

theorem RingLedger.oversized_last_read {ledger : RingLedger} (start : ledger.accepted = [])
    (attached : ledger.pair.link.attached = true)
    (writer : ledger.pair.ring.header.writeIndex = 0#64)
    (reader : ledger.pair.ring.header.readIndex = 10000#64) :
    ¬ (Run.final RingLedger.step ledger
      [.write oversized 1#64, .read 6385#32 1#64]).OnlyOverruns := by
  intro only
  have fits : ledger.pair.ring.header.Fits (oversized.map toPcm16).length := by
    rw [oversized_length]
    unfold RingHeader.Fits
    rw [writer, reader]
    decide
  obtain ⟨header, payload⟩ := ledger.pair.ring.writeFrames_accepted _ 1#64 fits
  rw [writer, oversized_length] at header
  rw [Run.final_cons, Run.final_cons, Run.final_nil,
    RingLedger.step_write_accepted attached fits, start, List.nil_append] at only
  refine RingLedger.oversized_misread ledger ?_ ?_ ?_ ?_ only
  · rw [header]
    rfl
  · rw [header]
    exact reader
  · rw [header]
  · rw [payload, writer]
    exact oversized_slot _

theorem oversized_not_genuine :
    ¬ (Run.final RingLedger.step RingLedger.initial
      (farAhead ++ [.write oversized 1#64, .read 6385#32 1#64])).OnlyOverruns := by
  rw [Run.final_append]
  have reader : (Run.final RingLedger.step RingLedger.initial
      farAhead).pair.ring.header.readIndex = 10000#64 := by
    decide +kernel
  exact RingLedger.oversized_last_read rfl rfl rfl reader

theorem RingLedger.drained_read {ledger : RingLedger} (drained : ledger.pair.ring.header.Drained)
    {frames : BitVec 32} (some_ : frames ≠ 0#32) {now : BitVec 64}
    (alive : ledger.pair.ring.header.producerAlive now = true) :
    let after := ledger.step (.read frames now)
    after.pair.ring.header.writeIndex = ledger.pair.ring.header.writeIndex ∧
    after.pair.ring.header.readIndex =
      ledger.pair.ring.header.readIndex + BitVec.ofNat 64 frames.toNat ∧
    after.pair.ring.header.producerHeartbeat = ledger.pair.ring.header.producerHeartbeat ∧
    after.delivered = ledger.delivered := by
  intro after
  have stepped : after = _ := RingLedger.step_read_fresh alive frames
  rcases ledger.pair.ring.read_cases frames now with ⟨none, -⟩ | ⟨dead, -⟩ | ⟨-, -, read⟩
  · exact absurd none some_
  · rw [alive] at dead
    cases dead
  · rw [ledger.pair.ring.header.skipLapped_drained drained] at read
    have nothing : (ledger.pair.ring.read frames now).deliveries frames = [] := by
      unfold Drain.deliveries
      rw [read]
      dsimp only
      rw [show (0#64).toNat = 0 from rfl, Nat.min_zero]
      rfl
    rw [stepped, nothing, List.append_nil, read]
    refine ⟨rfl, ?_, rfl, rfl⟩
    dsimp only
    congr 1
    apply BitVec.eq_of_toNat_eq
    rw [BitVec.toNat_setWidth, BitVec.toNat_ofNat]

theorem RingLedger.drained_reads {frames : BitVec 32} (some_ : frames ≠ 0#32) {now : BitVec 64}
    (started : now ≠ 0#64) (count : Nat) :
    ∀ ledger : RingLedger, ledger.pair.ring.header.producerHeartbeat = now →
      (0 < count → ledger.pair.ring.header.Drained) →
      ledger.pair.ring.header.readIndex.toNat + count * frames.toNat ≤ 2 ^ 64 →
      let after := Run.final RingLedger.step ledger (List.replicate count (.read frames now))
      after.pair.ring.header.writeIndex = ledger.pair.ring.header.writeIndex ∧
      after.pair.ring.header.readIndex =
        ledger.pair.ring.header.readIndex + BitVec.ofNat 64 (count * frames.toNat) ∧
      after.pair.ring.header.producerHeartbeat = now ∧
      after.delivered = ledger.delivered := by
  have positive : 0 < frames.toNat :=
    Nat.pos_of_ne_zero fun zero => some_ (BitVec.eq_of_toNat_eq zero)
  induction count with
  | zero =>
      intro ledger beaten _drained _room
      rw [Nat.zero_mul]
      exact ⟨rfl, (BitVec.add_zero _).symm, beaten, rfl⟩
  | succ count ih =>
      intro ledger beaten drained room
      have behind := drained (Nat.succ_pos count)
      have order := BitVec.le_def.mp behind
      obtain ⟨writer, reader, heartbeat, kept⟩ := RingLedger.drained_read behind some_
        (RingHeader.producerAlive_now beaten started)
      have moved : (ledger.step (.read frames now)).pair.ring.header.readIndex.toNat =
          (ledger.pair.ring.header.readIndex.toNat + frames.toNat) % 2 ^ 64 := by
        rw [reader, BitVec.toNat_add, BitVec.toNat_ofNat, Nat.add_mod_mod]
      have split : (count + 1) * frames.toNat = count * frames.toNat + frames.toNat := by
        rw [Nat.add_mul, Nat.one_mul]
      rw [split] at room
      rw [List.replicate_succ, Run.final_cons]
      have ahead : 0 < count →
          (ledger.step (.read frames now)).pair.ring.header.Drained := by
        intro more
        have later : frames.toNat ≤ count * frames.toNat := Nat.le_mul_of_pos_left _ more
        apply BitVec.le_def.mpr
        rw [writer, moved]
        omega
      have below : (ledger.step (.read frames now)).pair.ring.header.readIndex.toNat +
          count * frames.toNat ≤ 2 ^ 64 := by
        rw [moved]
        by_cases inside : ledger.pair.ring.header.readIndex.toNat + frames.toNat < 2 ^ 64
        · rw [Nat.mod_eq_of_lt inside]
          omega
        · rw [show ledger.pair.ring.header.readIndex.toNat + frames.toNat = 2 ^ 64 by omega,
            Nat.mod_self]
          omega
      obtain ⟨writer', reader', heartbeat', kept'⟩ :=
        ih _ (heartbeat.trans beaten) ahead below
      refine ⟨writer'.trans writer, ?_, heartbeat', kept'.trans kept⟩
      rw [reader', reader, split, BitVec.ofNat_add, BitVec.add_assoc,
        BitVec.add_comm (BitVec.ofNat 64 frames.toNat)]

def oneFrame : List Call := [attach, .setStreamOpen true, .write [0] 1#64, .read 1#32 1#64]

def roundTrip (count : Nat) : List Call := List.replicate count (.read 0xffffffff#32 1#64)

theorem roundTrip_repeats {count : Nat} (whole : 1 + count * 0xffffffff = 2 ^ 64) :
    ¬ (Run.final RingLedger.step RingLedger.initial
      (oneFrame ++ (roundTrip count ++ [.read 1#32 1#64]))).OnlyOverruns := by
  have asked : (0xffffffff#32 : BitVec 32).toNat = 0xffffffff := rfl
  have writer : (Run.final RingLedger.step RingLedger.initial
      oneFrame).pair.ring.header.writeIndex = 1#64 := by
    decide +kernel
  have reader : (Run.final RingLedger.step RingLedger.initial
      oneFrame).pair.ring.header.readIndex = 1#64 := by
    decide +kernel
  have beaten : (Run.final RingLedger.step RingLedger.initial
      oneFrame).pair.ring.header.producerHeartbeat = 1#64 := by
    decide +kernel
  have delivered : (Run.final RingLedger.step RingLedger.initial oneFrame).delivered.map
      Prod.fst = [0] := by
    decide +kernel
  rw [Run.final_append, Run.final_append]
  revert writer reader beaten delivered
  generalize Run.final RingLedger.step RingLedger.initial oneFrame = ledger
  intro writer reader beaten delivered
  have drained : 0 < count → ledger.pair.ring.header.Drained := by
    intro _some
    unfold RingHeader.Drained
    rw [writer, reader]
    exact BitVec.le_refl _
  obtain ⟨writeIndex, readIndex, heartbeat, kept⟩ := RingLedger.drained_reads
    (by decide : (0xffffffff#32 : BitVec 32) ≠ 0#32) (by decide : (1#64 : BitVec 64) ≠ 0#64)
    count ledger beaten drained (by rw [reader, asked]; exact Nat.le_of_eq whole)
  have around : ledger.pair.ring.header.readIndex +
      BitVec.ofNat 64 (count * (0xffffffff#32 : BitVec 32).toNat) = 0#64 := by
    rw [reader, asked, show (1#64 : BitVec 64) = BitVec.ofNat 64 1 from rfl, ← BitVec.ofNat_add,
      whole]
    rfl
  rw [around] at readIndex
  rw [writer] at writeIndex
  rw [← kept] at delivered
  unfold roundTrip
  revert delivered writeIndex readIndex heartbeat
  generalize Run.final RingLedger.step ledger
    (List.replicate count (.read 0xffffffff#32 1#64)) = after
  intro delivered writeIndex readIndex heartbeat only
  have alive := RingHeader.producerAlive_now heartbeat (by decide)
  have near : after.pair.ring.header.writeIndex.toNat ≤
      after.pair.ring.header.readIndex.toNat + ringFrames := by
    rw [writeIndex, readIndex]
    decide
  have reads := SharedRing.reads_fresh near 1#32 alive
  have real : (after.pair.ring.read 1#32 1#64).realFrames.toNat = 1 := by
    rw [reads.realFrames]
    unfold RingHeader.unread
    rw [writeIndex, readIndex]
    rfl
  have reached : (after.pair.ring.read 1#32 1#64).start 1#32 = 0 := by
    unfold Drain.start
    rw [reads.readIndex, BitVec.add_sub_cancel, readIndex]
    rfl
  rw [Run.final_cons, Run.final_nil, RingLedger.step_read_fresh alive] at only
  have order := only.order
  dsimp only at order
  rw [List.map_append, delivered, Drain.deliveries_indices, real, reached] at order
  revert order
  decide

/-- A frame that goes in behind the reader is lost and not counted; a write longer than
the ring garbles what it leaves unread; and at the wrap old frames come out again. -/
theorem ring_frames_lost :
    (Run.Meets Pair.step FreshRead Pair.initial lateFrame ∧
      ¬ (Run.final RingLedger.step RingLedger.initial lateFrame).OnlyOverruns) ∧
    ¬ (Run.final RingLedger.step RingLedger.initial
      (farAhead ++ [.write oversized 1#64, .read 6385#32 1#64])).OnlyOverruns ∧
    ¬ (Run.final RingLedger.step RingLedger.initial
      (oneFrame ++ (roundTrip (2 ^ 32 + 1) ++ [.read 1#32 1#64]))).OnlyOverruns :=
  ⟨⟨⟨trivial, trivial, rfl, trivial, trivial⟩, lateFrame_uncounted⟩, oversized_not_genuine,
    roundTrip_repeats (by norm_num)⟩

end SmartMic.Driver
