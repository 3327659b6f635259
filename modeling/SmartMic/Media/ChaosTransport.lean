import SmartMic.Format
import SmartMic.Support.Run

set_option autoImplicit false

/-! The fault injector in front of a transport. Rates and draws are of any type that has
the comparisons of `double`; no law of an order is assumed of them. The draws are any
sequence, and the answers of the inner transport are arguments. The latency that is never
read and the seed of the draws are left out. -/

namespace SmartMic.Media

structure ChaosConfig (Double : Type) where
  lossRate : Double
  duplicateRate : Double
  reorderRate : Double
  reorderDepth : BitVec 32 := 3#32
  burstLossLength : BitVec 32 := 0#32

structure ChaosStats where
  offered : BitVec 64
  dropped : BitVec 64
  duplicated : BitVec 64
  reordered : BitVec 64
  deriving DecidableEq

structure ChaosTransport (Double : Type) where
  cfg : ChaosConfig Double
  rng : Stream' Double
  held : List Bytes
  burstRemaining : BitVec 32
  stats : ChaosStats

def ChaosTransport.create {Double : Type} (cfg : ChaosConfig Double) (rng : Stream' Double) :
    ChaosTransport Double :=
  { cfg := cfg
    rng := rng
    held := []
    burstRemaining := 0#32
    stats := { offered := 0#64, dropped := 0#64, duplicated := 0#64, reordered := 0#64 } }

/-- One `send`: the packets that the inner transport was given, in this order. -/
structure ChaosReaction (Double : Type) where
  transport : ChaosTransport Double
  handed : List Bytes
  returned : Bool

section

variable {Double : Type}

def ChaosTransport.countOffered (chaos : ChaosTransport Double) : ChaosTransport Double :=
  { chaos with stats := { chaos.stats with offered := chaos.stats.offered + 1#64 } }

def ChaosTransport.countDropped (chaos : ChaosTransport Double) : ChaosTransport Double :=
  { chaos with stats := { chaos.stats with dropped := chaos.stats.dropped + 1#64 } }

def ChaosTransport.countReordered (chaos : ChaosTransport Double) : ChaosTransport Double :=
  { chaos with stats := { chaos.stats with reordered := chaos.stats.reordered + 1#64 } }

def ChaosTransport.countDuplicated (chaos : ChaosTransport Double) : ChaosTransport Double :=
  { chaos with stats := { chaos.stats with duplicated := chaos.stats.duplicated + 1#64 } }

/-- A packet that is held back, and with it all that are when there are enough of them. -/
def ChaosTransport.hold (chaos : ChaosTransport Double) (packet : Bytes) :
    ChaosReaction Double :=
  let held := chaos.held ++ [packet]
  if chaos.cfg.reorderDepth.toNat ≤ held.length then
    -- released in reverse, the worst case for a naive receiver
    { transport := { chaos with held := [] }, handed := held.reverse, returned := true }
  else { transport := { chaos with held := held }, handed := [], returned := true }

theorem ChaosTransport.hold_sends (chaos : ChaosTransport Double) (packet : Bytes) :
    ((chaos.hold packet).handed ++ (chaos.hold packet).transport.held).Perm
        (chaos.held ++ [packet]) ∧
      (chaos.hold packet).transport.stats = chaos.stats := by
  unfold hold
  dsimp only
  split
  · rw [List.append_nil]
    exact ⟨List.reverse_perm _, rfl⟩
  · exact ⟨List.Perm.refl _, rfl⟩

/-- `flush`, with what the inner transport was given. -/
def ChaosTransport.flush (chaos : ChaosTransport Double) :
    List Bytes × ChaosTransport Double :=
  (chaos.held, { chaos with held := [] })

def ChaosTransport.setConfig (chaos : ChaosTransport Double) (cfg : ChaosConfig Double) :
    ChaosTransport Double :=
  { chaos with cfg := cfg }

section

variable [Zero Double] [LE Double] [LT Double] [DecidableLE Double] [DecidableLT Double]

def ChaosTransport.roll (chaos : ChaosTransport Double) (probability : Double) :
    Bool × ChaosTransport Double :=
  if probability ≤ 0 then (false, chaos)
  else (decide (chaos.rng.head < probability), { chaos with rng := chaos.rng.tail })

def ChaosTransport.send (chaos : ChaosTransport Double) (innerTakes : Bool) (data : Bytes) :
    ChaosReaction Double :=
  let chaos := chaos.countOffered
  if 0#32 < chaos.burstRemaining then
    { transport := { chaos.countDropped with burstRemaining := chaos.burstRemaining - 1#32 }
      handed := []
      returned := true }
  else
    match chaos.roll chaos.cfg.lossRate with
    | (true, chaos) =>
        { transport :=
            { chaos.countDropped with
              burstRemaining :=
                if 1#32 < chaos.cfg.burstLossLength then chaos.cfg.burstLossLength - 1#32
                else chaos.burstRemaining }
          handed := []
          returned := true }
    | (false, chaos) =>
        match chaos.roll chaos.cfg.reorderRate with
        | (true, chaos) => chaos.countReordered.hold data
        | (false, chaos) =>
            match chaos.roll chaos.cfg.duplicateRate with
            | (true, chaos) =>
                { transport := chaos.countDuplicated
                  handed := [data, data]
                  returned := innerTakes }
            | (false, chaos) =>
                { transport := chaos, handed := [data], returned := innerTakes }

/-! ### A record of the calls -/

inductive ChaosCall (Double : Type) where
  | setConfig (cfg : ChaosConfig Double)
  | send (innerTakes : Bool) (data : Bytes)
  | flush

/-- One offered packet, and whether its call was counted as a drop or as a duplicate. -/
structure OfferedPacket where
  data : Bytes
  dropped : Bool
  duplicated : Bool

structure ChaosLog (Double : Type) where
  transport : ChaosTransport Double
  handed : List Bytes
  offered : List OfferedPacket

def ChaosLog.open_ (cfg : ChaosConfig Double) (rng : Stream' Double) : ChaosLog Double :=
  { transport := ChaosTransport.create cfg rng, handed := [], offered := [] }

def ChaosLog.step (log : ChaosLog Double) : ChaosCall Double → ChaosLog Double
  | .setConfig cfg => { log with transport := log.transport.setConfig cfg }
  | .send innerTakes data =>
      let reaction := log.transport.send innerTakes data
      { transport := reaction.transport
        handed := log.handed ++ reaction.handed
        offered := log.offered ++
          [{ data := data
             dropped := decide (reaction.transport.stats.dropped ≠ log.transport.stats.dropped)
             duplicated :=
               decide (reaction.transport.stats.duplicated ≠ log.transport.stats.duplicated) }] }
  | .flush =>
      { log with
        transport := log.transport.flush.2
        handed := log.handed ++ log.transport.flush.1 }

end

def survivors (offered : List OfferedPacket) : List Bytes :=
  (offered.filter fun packet => !packet.dropped).map OfferedPacket.data

def extraCopies (offered : List OfferedPacket) : List Bytes :=
  (offered.filter OfferedPacket.duplicated).map OfferedPacket.data

/-- What holds of every record: all packets are where they should be, and the statistics
count, modulo 2^64, what was dropped and duplicated. -/
structure ChaosLog.Conserved (log : ChaosLog Double) : Prop where
  packets : (log.handed ++ log.transport.held).Perm
    (survivors log.offered ++ extraCopies log.offered)
  apart : ∀ packet ∈ log.offered, packet.dropped = true → packet.duplicated = false
  offered : log.transport.stats.offered = BitVec.ofNat 64 log.offered.length
  dropped : log.transport.stats.dropped =
    BitVec.ofNat 64 (log.offered.countP OfferedPacket.dropped)
  duplicated : log.transport.stats.duplicated =
    BitVec.ofNat 64 (log.offered.countP OfferedPacket.duplicated)

/-! ### One call -/

/-- What a send can do: the packet is dropped, or it goes where the others are, with a copy
if it is duplicated. -/
structure ChaosTransport.Sends (chaos : ChaosTransport Double) (data : Bytes)
    (dropped duplicated : Bool) (reaction : ChaosReaction Double) : Prop where
  packets : (reaction.handed ++ reaction.transport.held).Perm
    (chaos.held ++ ((if dropped then [] else [data]) ++ if duplicated then [data] else []))
  apart : dropped = true → duplicated = false
  offered : reaction.transport.stats.offered = chaos.stats.offered + 1#64
  dropped : reaction.transport.stats.dropped =
    chaos.stats.dropped + if dropped then 1#64 else 0#64
  duplicated : reaction.transport.stats.duplicated =
    chaos.stats.duplicated + if duplicated then 1#64 else 0#64

theorem ChaosTransport.Sends.lost {chaos : ChaosTransport Double} {data : Bytes}
    {reaction : ChaosReaction Double} (handed : reaction.handed = [])
    (held : reaction.transport.held = chaos.held)
    (stats : reaction.transport.stats = chaos.countOffered.countDropped.stats) :
    chaos.Sends data true false reaction where
  packets := by
    rw [handed, held]
    simp
  apart := fun _ => rfl
  offered := by
    rw [stats]
    rfl
  dropped := by
    rw [stats]
    rfl
  duplicated := by
    rw [stats]
    exact (BitVec.add_zero _).symm

theorem ChaosTransport.Sends.once {chaos : ChaosTransport Double} {data : Bytes}
    {reaction : ChaosReaction Double}
    (packets : (reaction.handed ++ reaction.transport.held).Perm (chaos.held ++ [data]))
    (offered : reaction.transport.stats.offered = chaos.stats.offered + 1#64)
    (dropped : reaction.transport.stats.dropped = chaos.stats.dropped)
    (duplicated : reaction.transport.stats.duplicated = chaos.stats.duplicated) :
    chaos.Sends data false false reaction where
  packets := packets
  apart := fun impossible => Bool.noConfusion impossible
  offered := offered
  dropped := dropped.trans (BitVec.add_zero _).symm
  duplicated := duplicated.trans (BitVec.add_zero _).symm

/-! ### Counting -/

theorem ChaosLog.conserved_open (cfg : ChaosConfig Double) (rng : Stream' Double) :
    (ChaosLog.open_ cfg rng).Conserved where
  packets := List.Perm.refl _
  apart := List.forall_mem_nil _
  offered := rfl
  dropped := rfl
  duplicated := rfl

theorem survivors_snoc (offered : List OfferedPacket) (packet : OfferedPacket) :
    survivors (offered ++ [packet]) =
      survivors offered ++ if packet.dropped then [] else [packet.data] := by
  unfold survivors
  rw [List.filter_append, List.map_append]
  cases dropped : packet.dropped <;> simp [dropped]

theorem extraCopies_snoc (offered : List OfferedPacket) (packet : OfferedPacket) :
    extraCopies (offered ++ [packet]) =
      extraCopies offered ++ if packet.duplicated then [packet.data] else [] := by
  unfold extraCopies
  rw [List.filter_append, List.map_append]
  cases duplicated : packet.duplicated <;> simp [duplicated]

/-- A 64-bit counter changes exactly when something is counted, also when it wraps. -/
theorem counter_changes (counter : BitVec 64) (counted : Bool) :
    decide (counter + (if counted then 1#64 else 0#64) ≠ counter) = counted := by
  cases counted <;> simp

theorem counter_snoc (counted : OfferedPacket → Bool) (offered : List OfferedPacket)
    (packet : OfferedPacket) :
    BitVec.ofNat 64 ((offered ++ [packet]).countP counted) =
      BitVec.ofNat 64 (offered.countP counted) +
        if counted packet then 1#64 else 0#64 := by
  rw [List.countP_append, List.countP_singleton, BitVec.ofNat_add]
  cases counted packet <;> rfl

theorem survivors_length (offered : List OfferedPacket) :
    (survivors offered).length + offered.countP OfferedPacket.dropped = offered.length := by
  induction offered with
  | nil => rfl
  | cons packet rest ih =>
      unfold survivors at ih ⊢
      cases dropped : packet.dropped <;> simp [dropped] at ih ⊢ <;> omega

theorem extraCopies_length (offered : List OfferedPacket) :
    (extraCopies offered).length = offered.countP OfferedPacket.duplicated := by
  unfold extraCopies
  rw [List.length_map, List.countP_eq_length_filter]

theorem ChaosLog.Conserved.length {log : ChaosLog Double} (conserved : log.Conserved) :
    log.handed.length + log.transport.held.length +
        log.offered.countP OfferedPacket.dropped =
      log.offered.length + log.offered.countP OfferedPacket.duplicated := by
  have lengths := conserved.packets.length_eq
  rw [List.length_append, List.length_append, extraCopies_length] at lengths
  have kept := survivors_length log.offered
  omega

/-! ### Every sequence of calls -/

variable [Zero Double] [LE Double] [LT Double] [DecidableLE Double] [DecidableLT Double]

theorem ChaosTransport.roll_keeps {chaos after : ChaosTransport Double} {probability : Double}
    {outcome : Bool} (rolled : chaos.roll probability = (outcome, after)) :
    ∃ rng, after = { chaos with rng := rng } := by
  unfold roll at rolled
  split at rolled
  · cases rolled
    exact ⟨_, rfl⟩
  · cases rolled
    exact ⟨_, rfl⟩

theorem ChaosTransport.send_sends (chaos : ChaosTransport Double) (innerTakes : Bool)
    (data : Bytes) :
    ∃ dropped duplicated, chaos.Sends data dropped duplicated (chaos.send innerTakes data) := by
  unfold send
  dsimp only
  split
  · exact ⟨true, false, Sends.lost rfl rfl rfl⟩
  · split
    · rename_i lost rolled
      obtain ⟨rng, rfl⟩ := roll_keeps rolled
      exact ⟨true, false, Sends.lost rfl rfl rfl⟩
    · rename_i kept rolled
      obtain ⟨rng, rfl⟩ := roll_keeps rolled
      split
      · rename_i late rolled'
        obtain ⟨rng', rfl⟩ := roll_keeps rolled'
        obtain ⟨packets, stats⟩ :=
          (ChaosTransport.countReordered
            { chaos.countOffered with rng := rng' }).hold_sends data
        have offered := congrArg ChaosStats.offered stats
        have dropped := congrArg ChaosStats.dropped stats
        have duplicated := congrArg ChaosStats.duplicated stats
        exact ⟨false, false, Sends.once packets offered dropped duplicated⟩
      · rename_i prompt rolled'
        obtain ⟨rng', rfl⟩ := roll_keeps rolled'
        split
        · rename_i twice rolled''
          obtain ⟨rng'', rfl⟩ := roll_keeps rolled''
          refine ⟨false, true, ?_⟩
          exact
            { packets := List.perm_append_comm
              apart := fun impossible => Bool.noConfusion impossible
              offered := rfl
              dropped := (BitVec.add_zero _).symm
              duplicated := rfl }
        · rename_i once rolled''
          obtain ⟨rng'', rfl⟩ := roll_keeps rolled''
          exact ⟨false, false, Sends.once List.perm_append_comm rfl rfl rfl⟩

theorem ChaosLog.Conserved.send {log : ChaosLog Double} (conserved : log.Conserved)
    (innerTakes : Bool) (data : Bytes) : (log.step (.send innerTakes data)).Conserved := by
  obtain ⟨dropped, duplicated, sends⟩ := log.transport.send_sends innerTakes data
  have recorded : log.step (.send innerTakes data) =
      { transport := (log.transport.send innerTakes data).transport
        handed := log.handed ++ (log.transport.send innerTakes data).handed
        offered := log.offered ++
          [{ data := data, dropped := dropped, duplicated := duplicated }] } := by
    unfold step
    dsimp only
    rw [sends.dropped, sends.duplicated, counter_changes, counter_changes]
  rw [recorded]
  exact
    { packets := by
        dsimp only
        rw [survivors_snoc, extraCopies_snoc, List.append_assoc]
        refine (sends.packets.append_left log.handed).trans ?_
        rw [← List.append_assoc]
        refine (conserved.packets.append_right _).trans ?_
        rw [List.append_assoc, List.append_assoc]
        -- the copies so far and the new packet change places
        exact (List.perm_append_comm_assoc _ _ _).append_left _
      apart := by
        intro packet offered
        rcases List.mem_append.mp offered with earlier | new
        · exact conserved.apart packet earlier
        · rw [List.mem_singleton.mp new]
          exact sends.apart
      offered := by
        dsimp only
        rw [sends.offered, conserved.offered, List.length_append, BitVec.ofNat_add]
        rfl
      dropped := by
        rw [sends.dropped, conserved.dropped, counter_snoc]
      duplicated := by
        rw [sends.duplicated, conserved.duplicated, counter_snoc] }

theorem ChaosLog.Conserved.step {log : ChaosLog Double} (conserved : log.Conserved)
    (call : ChaosCall Double) : (log.step call).Conserved := by
  cases call with
  | setConfig cfg =>
      exact
        { packets := conserved.packets
          apart := conserved.apart
          offered := conserved.offered
          dropped := conserved.dropped
          duplicated := conserved.duplicated }
  | send innerTakes data => exact conserved.send innerTakes data
  | flush =>
      exact
        { packets := by
            have packets := conserved.packets
            rwa [← List.append_nil (log.handed ++ log.transport.held)] at packets
          apart := conserved.apart
          offered := conserved.offered
          dropped := conserved.dropped
          duplicated := conserved.duplicated }

theorem ChaosLog.conserved_final (cfg : ChaosConfig Double) (rng : Stream' Double)
    (calls : List (ChaosCall Double)) :
    (Run.final ChaosLog.step (ChaosLog.open_ cfg rng) calls).Conserved :=
  Run.invariant_always ChaosLog.Conserved (fun _ call conserved => conserved.step call) _ calls
    (ChaosLog.conserved_open cfg rng)

/-- The record conserves every packet; a flush leaves nothing held, and then what was
handed over is what was offered less the drops and with the duplicates. -/
theorem chaos_conserves (cfg : ChaosConfig Double) (rng : Stream' Double)
    (calls : List (ChaosCall Double)) :
    let log := Run.final ChaosLog.step (ChaosLog.open_ cfg rng) calls
    let flushed := log.step .flush
    log.Conserved ∧ flushed.Conserved ∧ flushed.transport.held = [] ∧
      flushed.handed.Perm (survivors flushed.offered ++ extraCopies flushed.offered) ∧
      flushed.handed.length + flushed.offered.countP OfferedPacket.dropped =
        flushed.offered.length + flushed.offered.countP OfferedPacket.duplicated ∧
      BitVec.ofNat 64 flushed.handed.length =
        flushed.transport.stats.offered - flushed.transport.stats.dropped +
          flushed.transport.stats.duplicated := by
  intro log flushed
  have conserved : log.Conserved := ChaosLog.conserved_final cfg rng calls
  have after : flushed.Conserved := conserved.step .flush
  have empty : flushed.transport.held = [] := rfl
  have packets := after.packets
  rw [empty, List.append_nil] at packets
  have counts := after.length
  rw [empty, List.length_nil, Nat.add_zero] at counts
  refine ⟨conserved, after, empty, packets, counts, ?_⟩
  rw [after.offered, after.dropped, after.duplicated]
  have modulo := congrArg (BitVec.ofNat 64) counts
  rw [BitVec.ofNat_add, BitVec.ofNat_add] at modulo
  grind

end

/-- Two packets are held back and released in reverse. A third is still held when the next
one is duplicated, and the flush hands it over. -/
example :
    let late : ChaosConfig ℚ :=
      { lossRate := 0, duplicateRate := 0, reorderRate := 1, reorderDepth := 2#32 }
    let log := Run.final ChaosLog.step (ChaosLog.open_ late (Stream'.const (1 / 2)))
      [.send true [1], .send true [2], .send true [3],
        .setConfig { late with reorderRate := 0, duplicateRate := 1 }, .send true [4], .flush]
    log.handed = [[2], [1], [4], [4], [3]] ∧ survivors log.offered = [[1], [2], [3], [4]] ∧
      extraCopies log.offered = [[4]] := by
  decide +kernel

end SmartMic.Media
