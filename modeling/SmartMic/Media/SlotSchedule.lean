import SmartMic.Media.PlayoutOrder

set_option autoImplicit false

/-! The slots that a jitter buffer is to play. Packets are numbered without wrapping; a schedule
keeps the slot whose turn it is and every packet pushed, and knows nothing of queues, ages
or wraps. -/

namespace SmartMic.Media

def seqOf (index : Int) : Seq := BitVec.ofInt 32 index

theorem seqOf_succ (index : Int) : seqOf (index + 1) = seqOf index + 1#32 := by
  unfold seqOf
  rw [BitVec.ofInt_add]
  rfl

theorem seqOf_ahead (slot : Int) (seq : Seq) : seqOf (slot + ahead (seqOf slot) seq) = seq := by
  unfold ahead seqOf
  rw [BitVec.ofInt_add, BitVec.ofInt_natCast, BitVec.ofNat_toNat, BitVec.setWidth_eq,
    BitVec.add_comm, BitVec.sub_add_cancel]

theorem seqOf_toNat (index : Int) : ((seqOf index).toNat : Int) = index % 2 ^ 32 := by
  unfold seqOf
  rw [BitVec.toNat_ofInt]
  exact Int.toNat_of_nonneg (Int.emod_nonneg _ (by decide))

theorem ahead_seqOf (slot index : Int) :
    (ahead (seqOf slot) (seqOf index) : Int) = (index - slot) % 2 ^ 32 := by
  have here := seqOf_toNat slot
  have there := seqOf_toNat index
  unfold ahead
  rw [BitVec.toNat_sub]
  omega

theorem late_seqOf_iff {slot index : Int} (near : -2 ^ 31 ≤ index - slot ∧ index - slot < 2 ^ 31) :
    (seqOf index - seqOf slot).toInt < 0 ↔ index < slot := by
  have distance := ahead_seqOf slot index
  unfold ahead at distance
  rw [toInt_neg_iff]
  omega

/-! ### The schedule -/

inductive SlotCall where
  | push (index : Int) (payload : Bytes) (arrivalMs : BitVec 64)
  | pop (samples : Nat)

def SlotCall.op : SlotCall → PlayoutOp
  | .push index payload arrivalMs => .push (seqOf index) payload arrivalMs
  | .pop samples => .pop samples

/-- The slot whose turn it is, once there is one, and what was pushed, the oldest first. -/
structure SlotSchedule where
  slot : Option Int := none
  pushed : List (Int × Bytes) := []

/-- The first payload pushed for an index. -/
def SlotSchedule.payloadOf (schedule : SlotSchedule) (index : Int) : Option Bytes :=
  (schedule.pushed.find? fun packet => decide (packet.1 = index)).map Prod.snd

/-- Some later packet has been pushed. -/
def SlotSchedule.Waiting (schedule : SlotSchedule) (slot : Int) : Prop :=
  ∃ packet ∈ schedule.pushed, slot < packet.1

instance (schedule : SlotSchedule) (slot : Int) : Decidable (schedule.Waiting slot) :=
  inferInstanceAs (Decidable (∃ packet ∈ schedule.pushed, _))

/-- The first packet opens its own slot. A pop leaves its slot when the packet was played or
a later one waits. -/
def SlotSchedule.step (schedule : SlotSchedule) : SlotCall → SlotSchedule
  | .push index payload _ =>
      { slot := some (schedule.slot.getD index)
        pushed := schedule.pushed ++ [(index, payload)] }
  | .pop samples =>
      match schedule.slot with
      | none => schedule
      | some slot =>
          if samples = kFrameSamples ∧
              ((schedule.payloadOf slot).isSome = true ∨ schedule.Waiting slot) then
            { schedule with slot := some (slot + 1) }
          else schedule

theorem SlotSchedule.step_pop {schedule : SlotSchedule} {slot : Int}
    (current : schedule.slot = some slot) :
    schedule.step (.pop kFrameSamples) =
      if (schedule.payloadOf slot).isSome = true ∨ schedule.Waiting slot then
        { schedule with slot := some (slot + 1) }
      else schedule := by
  unfold SlotSchedule.step
  rw [current]
  simp only [true_and]

theorem SlotSchedule.payloadOf_push (schedule : SlotSchedule) (pushed index : Int)
    (payload : Bytes) (arrivalMs : BitVec 64) :
    (schedule.step (.push pushed payload arrivalMs)).payloadOf index =
      (schedule.payloadOf index).or (if pushed = index then some payload else none) := by
  unfold SlotSchedule.payloadOf SlotSchedule.step
  rw [List.find?_append, Option.map_or]
  congr 1
  by_cases same : pushed = index
  · simp [same]
  · simp [same]

theorem SlotSchedule.payloadOf_isSome_iff (schedule : SlotSchedule) (index : Int) :
    (schedule.payloadOf index).isSome = true ↔ ∃ packet ∈ schedule.pushed, packet.1 = index := by
  unfold SlotSchedule.payloadOf
  rw [Option.isSome_map, List.find?_isSome]
  simp only [decide_eq_true_eq]

/-! ### The schedule over a run -/

def pushesOf (calls : List SlotCall) : List (Int × Bytes) :=
  calls.filterMap fun call =>
    match call with
    | .push index payload _ => some (index, payload)
    | .pop _ => none

def scheduleAfter (calls : List SlotCall) : SlotSchedule :=
  Run.final SlotSchedule.step {} calls

theorem SlotSchedule.step_pushed (schedule : SlotSchedule) (call : SlotCall) :
    (schedule.step call).pushed = schedule.pushed ++ pushesOf [call] := by
  cases call with
  | push index payload arrivalMs => rfl
  | pop samples =>
      change (schedule.step (.pop samples)).pushed = schedule.pushed ++ []
      rw [List.append_nil]
      unfold SlotSchedule.step
      cases schedule.slot with
      | none => rfl
      | some slot =>
          dsimp only
          split <;> rfl

theorem scheduleAfter_pushed (calls : List SlotCall) :
    (scheduleAfter calls).pushed = pushesOf calls := by
  induction calls using List.reverseRecOn with
  | nil => rfl
  | append_singleton earlier call ih =>
      unfold scheduleAfter at ih ⊢
      unfold pushesOf at *
      rw [Run.final_snoc, SlotSchedule.step_pushed, ih, List.filterMap_append]
      rfl

/-- A call leaves the slot, or a pop moves it by one: its packet was pushed, or a later one. -/
theorem SlotSchedule.step_slot {schedule : SlotSchedule} {slot : Int}
    (current : schedule.slot = some slot) (call : SlotCall) :
    (schedule.step call).slot = some slot ∨
      (call = .pop kFrameSamples ∧ (schedule.step call).slot = some (slot + 1)) := by
  cases call with
  | push index payload arrivalMs =>
      unfold SlotSchedule.step
      rw [current]
      exact Or.inl rfl
  | pop samples =>
      by_cases canonical : samples = kFrameSamples
      · rw [canonical, SlotSchedule.step_pop current]
        split
        · exact Or.inr ⟨rfl, rfl⟩
        · exact Or.inl current
      · unfold SlotSchedule.step
        rw [current]
        dsimp only
        rw [if_neg fun both => canonical both.1]
        exact Or.inl current

theorem SlotSchedule.final_slot {schedule : SlotSchedule} {slot : Int}
    (current : schedule.slot = some slot) (calls : List SlotCall) :
    ∃ later, (Run.final SlotSchedule.step schedule calls).slot = some later ∧ slot ≤ later ∧
      (.pop kFrameSamples ∉ calls → later = slot) := by
  induction calls generalizing schedule slot with
  | nil => exact ⟨slot, current, le_refl _, fun _ => rfl⟩
  | cons call rest ih =>
      rcases SlotSchedule.step_slot current call with same | ⟨isPop, moved⟩
      · obtain ⟨later, at_, onward, still⟩ := ih same
        exact ⟨later, at_, onward, fun none =>
          still fun member => none (List.mem_cons_of_mem _ member)⟩
      · obtain ⟨later, at_, onward, -⟩ := ih moved
        exact ⟨later, at_, by omega, fun none => absurd (isPop ▸ List.mem_cons_self ..) none⟩

/-- Once something was pushed there is a slot, not below the first packet. -/
def SlotSchedule.Opened (schedule : SlotSchedule) : Prop :=
  ∀ first, schedule.pushed.head? = some first →
    ∃ slot, schedule.slot = some slot ∧ first.1 ≤ slot

theorem SlotSchedule.opened_step (schedule : SlotSchedule) (call : SlotCall)
    (opened : schedule.Opened ∧ (schedule.pushed = [] → schedule.slot = none)) :
    (schedule.step call).Opened ∧
      ((schedule.step call).pushed = [] → (schedule.step call).slot = none) := by
  obtain ⟨opens, fresh⟩ := opened
  cases call with
  | push index payload arrivalMs =>
      refine ⟨fun first atHead => ?_, fun empty => absurd empty (List.append_ne_nil_of_right_ne_nil
        _ (List.cons_ne_nil _ _))⟩
      change (schedule.pushed ++ [(index, payload)]).head? = some first at atHead
      change ∃ slot, some (schedule.slot.getD index) = some slot ∧ _
      cases before : schedule.pushed with
      | nil =>
          rw [before] at atHead
          cases atHead
          exact ⟨index, by rw [fresh before]; rfl, le_refl _⟩
      | cons head rest =>
          rw [before] at atHead
          obtain ⟨slot, current, above⟩ := opens first (by rw [before]; exact atHead)
          exact ⟨slot, by rw [current]; rfl, above⟩
  | pop samples =>
      have pushed := schedule.step_pushed (.pop samples)
      change _ = schedule.pushed ++ [] at pushed
      rw [List.append_nil] at pushed
      constructor
      · intro first atHead
        rw [pushed] at atHead
        obtain ⟨slot, current, above⟩ := opens first atHead
        rcases SlotSchedule.step_slot current (.pop samples) with same | ⟨-, moved⟩
        · exact ⟨slot, same, above⟩
        · exact ⟨slot + 1, moved, by omega⟩
      · intro empty
        rw [pushed] at empty
        have idle := fresh empty
        unfold SlotSchedule.step
        rw [idle]
        exact idle

theorem scheduleAfter_opened {calls : List SlotCall} {first : Int × Bytes}
    (opens : (pushesOf calls).head? = some first) :
    ∃ slot, (scheduleAfter calls).slot = some slot ∧ first.1 ≤ slot := by
  have opened := Run.invariant_always
    (fun schedule : SlotSchedule => schedule.Opened ∧ (schedule.pushed = [] → schedule.slot = none))
    SlotSchedule.opened_step {} calls
    ⟨fun _first impossible => (nomatch impossible), fun _empty => rfl⟩
  refine opened.1 first ?_
  rw [← opens, ← scheduleAfter_pushed]
  rfl

theorem scheduleAfter_append (earlier later : List SlotCall) :
    scheduleAfter (earlier ++ later) =
      Run.final SlotSchedule.step (scheduleAfter earlier) later :=
  Run.final_append _ _ _ _

end SmartMic.Media
