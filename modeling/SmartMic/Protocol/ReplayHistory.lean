import SmartMic.Protocol.ReplayWindow
import SmartMic.Support.Run

set_option autoImplicit false

/-! The replay window against the list of all numbers it has accepted. The window keeps
only the highest number and a few bits; it decides as the whole list would. -/

namespace SmartMic.Protocol

variable {width : Nat}

/-- A number is fresh when it is new and less than the width behind every accepted one. -/
def FreshAfter (width : Nat) (accepted : List (BitVec 64)) (seq : BitVec 64) : Prop :=
  seq ∉ accepted ∧ ∀ other ∈ accepted, seq < other → (other - seq).toNat < width

instance (width : Nat) (accepted : List (BitVec 64)) (seq : BitVec 64) :
    Decidable (FreshAfter width accepted seq) :=
  inferInstanceAs (Decidable (_ ∧ _))

/-- The window is what the accepted numbers leave of it. -/
structure ReplayWindow.Records (window : ReplayWindow width) (accepted : List (BitVec 64)) :
    Prop where
  started : window.initialised = true ↔ accepted ≠ []
  reached : accepted ≠ [] → window.highest ∈ accepted
  below : ∀ seq ∈ accepted, seq ≤ window.highest
  seen : accepted ≠ [] → ∀ behind < width,
    (window.seen.getLsbD behind = true ↔
      ∃ seq ∈ accepted, (window.highest - seq).toNat = behind)

theorem ReplayWindow.records_fresh (width : Nat) : (ReplayWindow.fresh width).Records [] :=
  { started :=
      ⟨fun impossible => Bool.noConfusion impossible, fun impossible => absurd rfl impossible⟩
    reached := fun impossible => absurd rfl impossible
    below := fun _ member => absurd member List.not_mem_nil
    seen := fun impossible => absurd rfl impossible }

theorem setBit_getLsbD (seen : BitVec width) (bit other : Nat) (inside : other < width) :
    (setBit seen bit).getLsbD other = true ↔ seen.getLsbD other = true ∨ other = bit := by
  unfold setBit
  rw [BitVec.getLsbD_or, Bool.or_eq_true, BitVec.getLsbD_twoPow]
  simp only [Bool.and_eq_true, decide_eq_true_eq]
  constructor
  · intro set
    exact set.imp id fun both => both.2.symm
  · intro set
    exact set.imp id fun same => ⟨by omega, same.symm⟩

theorem ReplayWindow.Records.seen_iff {window : ReplayWindow width}
    {accepted : List (BitVec 64)} (records : window.Records accepted) (some_ : accepted ≠ [])
    {seq : BitVec 64} (_old : seq ≤ window.highest)
    (near : (window.highest - seq).toNat < width) :
    window.seen.getLsbD (window.highest - seq).toNat = true ↔ seq ∈ accepted := by
  rw [records.seen some_ _ near]
  constructor
  · intro found
    obtain ⟨other, member, same⟩ := found
    have below := records.below other member
    have equal : other = seq := by bv_omega
    rw [← equal]
    exact member
  · intro member
    exact ⟨seq, member, rfl⟩

theorem ReplayWindow.Records.accepts_iff {window : ReplayWindow width}
    {accepted : List (BitVec 64)} (records : window.Records accepted) (positive : 0 < width)
    (seq : BitVec 64) :
    (window.accept seq).1 = true ↔ FreshAfter width accepted seq := by
  unfold ReplayWindow.accept FreshAfter
  by_cases first : window.initialised = false
  · have empty : accepted = [] := by
      by_contra some_
      rw [records.started.mpr some_] at first
      cases first
    rw [if_pos first, empty]
    simp
  · have some_ : accepted ≠ [] := records.started.mp (by simpa using first)
    rw [if_neg first]
    by_cases newer : window.highest < seq
    · rw [if_pos newer]
      refine iff_of_true rfl ⟨?_, ?_⟩
      · intro member
        have below := records.below seq member
        bv_omega
      · intro other member higher
        have below := records.below other member
        bv_omega
    · rw [if_neg newer]
      have old : seq ≤ window.highest := by bv_omega
      dsimp only
      by_cases far : width ≤ (window.highest - seq).toNat
      · rw [if_pos far]
        refine iff_of_false Bool.false_ne_true ?_
        intro fresh
        have near := fresh.2 window.highest (records.reached some_) (by bv_omega)
        omega
      · rw [if_neg far]
        have bit := records.seen_iff some_ old (not_le.mp far)
        by_cases again : seq ∈ accepted
        · rw [if_pos (bit.mpr again)]
          exact iff_of_false Bool.false_ne_true (fun fresh => fresh.1 again)
        · rw [if_neg (fun set => again (bit.mp set))]
          refine iff_of_true rfl ⟨again, ?_⟩
          intro other member higher
          have below := records.below other member
          bv_omega

theorem ReplayWindow.records_first (seq : BitVec 64) :
    ReplayWindow.Records
      { initialised := true, highest := seq, seen := setBit (BitVec.zero width) 0 } [seq] := by
  constructor
  · exact ⟨fun _ => List.cons_ne_nil _ _, fun _ => rfl⟩
  · exact fun _ => List.mem_singleton_self _
  · intro other member
    rw [List.mem_singleton.mp member]
    exact BitVec.le_refl _
  · intro _ behind inside
    have zero : (BitVec.zero width).getLsbD behind = false := BitVec.getLsbD_zero
    rw [setBit_getLsbD _ _ _ inside, zero]
    simp only [Bool.false_eq_true, false_or, List.mem_singleton, exists_eq_left, BitVec.sub_self]
    exact ⟨fun same => by rw [same]; rfl, fun same => same.symm⟩

section

variable {window : ReplayWindow width} {accepted : List (BitVec 64)} {seq : BitVec 64}

/-- The bits that stay inside the window when a newer number moves it. -/
theorem ReplayWindow.Records.shifted (records : window.Records accepted)
    (some_ : accepted ≠ []) (newer : window.highest < seq) {behind : Nat}
    (inside : behind < width) :
    (if width ≤ (seq - window.highest).toNat then BitVec.zero width
      else window.seen <<< (seq - window.highest).toNat).getLsbD behind = true ↔
        ∃ other ∈ accepted, (seq - other).toNat = behind := by
  have moved : ∀ other ∈ accepted, (seq - other).toNat =
      (seq - window.highest).toNat + (window.highest - other).toNat := by
    intro other member
    have below := records.below other member
    bv_omega
  by_cases far : width ≤ (seq - window.highest).toNat
  · have empty : (BitVec.zero width).getLsbD behind = false := BitVec.getLsbD_zero
    rw [if_pos far, empty]
    refine iff_of_false Bool.false_ne_true ?_
    intro found
    obtain ⟨other, member, same⟩ := found
    rw [moved other member] at same
    omega
  · rw [if_neg far, BitVec.getLsbD_shiftLeft, decide_eq_true inside, Bool.true_and,
      Bool.and_eq_true, Bool.not_eq_true', decide_eq_false_iff_not, not_lt]
    constructor
    · intro set
      obtain ⟨other, member, same⟩ := (records.seen some_ _ (by omega)).mp set.2
      exact ⟨other, member, by rw [moved other member]; omega⟩
    · intro found
      obtain ⟨other, member, same⟩ := found
      rw [moved other member] at same
      refine ⟨by omega, (records.seen some_ _ (by omega)).mpr ?_⟩
      exact ⟨other, member, by omega⟩

theorem ReplayWindow.Records.newer (records : window.Records accepted) (some_ : accepted ≠ [])
    (newer : window.highest < seq) :
    ReplayWindow.Records
      { window with
        highest := seq
        seen := setBit
          (if width ≤ (seq - window.highest).toNat then BitVec.zero width
            else window.seen <<< (seq - window.highest).toNat) 0 }
      (seq :: accepted) := by
  constructor
  · exact ⟨fun _ => List.cons_ne_nil _ _, fun _ => records.started.mpr some_⟩
  · exact fun _ => List.mem_cons_self
  · intro other member
    rcases List.mem_cons.mp member with same | earlier
    · rw [same]
      exact BitVec.le_refl _
    · have below := records.below other earlier
      dsimp only
      bv_omega
  · intro _ behind inside
    dsimp only
    rw [setBit_getLsbD _ _ _ inside, records.shifted some_ newer inside]
    constructor
    · intro set
      rcases set with earlier | zero
      · obtain ⟨other, member, same⟩ := earlier
        exact ⟨other, List.mem_cons_of_mem _ member, same⟩
      · exact ⟨seq, List.mem_cons_self, by rw [zero, BitVec.sub_self]; rfl⟩
    · intro found
      obtain ⟨other, member, same⟩ := found
      rcases List.mem_cons.mp member with current | earlier
      · right
        rw [← same, current, BitVec.sub_self]
        rfl
      · exact Or.inl ⟨other, earlier, same⟩

theorem ReplayWindow.Records.older (records : window.Records accepted) (some_ : accepted ≠ [])
    (old : seq ≤ window.highest) :
    ReplayWindow.Records
      { window with seen := setBit window.seen (window.highest - seq).toNat }
      (seq :: accepted) := by
  constructor
  · exact ⟨fun _ => List.cons_ne_nil _ _, fun _ => records.started.mpr some_⟩
  · exact fun _ => List.mem_cons_of_mem _ (records.reached some_)
  · intro other member
    rcases List.mem_cons.mp member with same | earlier
    · rw [same]
      exact old
    · exact records.below other earlier
  · intro _ behind inside
    dsimp only
    rw [setBit_getLsbD _ _ _ inside, records.seen some_ _ inside]
    constructor
    · intro set
      rcases set with earlier | current
      · obtain ⟨other, member, same⟩ := earlier
        exact ⟨other, List.mem_cons_of_mem _ member, same⟩
      · exact ⟨seq, List.mem_cons_self, current.symm⟩
    · intro found
      obtain ⟨other, member, same⟩ := found
      rcases List.mem_cons.mp member with current | earlier
      · right
        rw [← same, current]
      · exact Or.inl ⟨other, earlier, same⟩

theorem ReplayWindow.Records.accept (records : window.Records accepted) (positive : 0 < width)
    (taken : (window.accept seq).1 = true) :
    (window.accept seq).2.Records (seq :: accepted) := by
  have fresh := (records.accepts_iff positive seq).mp taken
  unfold ReplayWindow.accept at taken ⊢
  by_cases first : window.initialised = false
  · have empty : accepted = [] := by
      by_contra some_
      rw [records.started.mpr some_] at first
      cases first
    rw [if_pos first, empty]
    exact ReplayWindow.records_first seq
  · have some_ : accepted ≠ [] := records.started.mp (by simpa using first)
    rw [if_neg first] at taken ⊢
    by_cases newer : window.highest < seq
    · rw [if_pos newer]
      exact records.newer some_ newer
    · rw [if_neg newer] at taken ⊢
      have old : seq ≤ window.highest := by bv_omega
      dsimp only at taken ⊢
      by_cases far : width ≤ (window.highest - seq).toNat
      · rw [if_pos far] at taken
        cases taken
      · have bit := records.seen_iff some_ old (not_le.mp far)
        rw [if_neg far, if_neg (fun set => fresh.1 (bit.mp set))]
        exact records.older some_ old

theorem FreshAfter.earlier {later : List (BitVec 64)}
    (fresh : FreshAfter width (later ++ accepted) seq) : FreshAfter width accepted seq :=
  ⟨fun member => fresh.1 (List.mem_append_right _ member),
    fun other member => fresh.2 other (List.mem_append_right _ member)⟩

end

/-! ### The window over a run of calls -/

/-- The greatest accepted number, and 0 before the first. -/
def highestOf (accepted : List (BitVec 64)) : Nat := (accepted.map BitVec.toNat).foldr max 0

/-- The first number, one above all others, or one less than the width behind. -/
def WithinWindow (width : Nat) (accepted : List (BitVec 64)) (seq : BitVec 64) : Prop :=
  accepted = [] ∨ highestOf accepted < seq.toNat ∨ highestOf accepted - seq.toNat < width

instance (width : Nat) (accepted : List (BitVec 64)) (seq : BitVec 64) :
    Decidable (WithinWindow width accepted seq) :=
  inferInstanceAs (Decidable (_ ∨ _ ∨ _))

theorem le_highestOf {accepted : List (BitVec 64)} {seq : BitVec 64} (member : seq ∈ accepted) :
    seq.toNat ≤ highestOf accepted := by
  induction accepted with
  | nil => exact absurd member List.not_mem_nil
  | cons first rest ih =>
      rcases List.mem_cons.mp member with same | later
      · rw [same]
        exact Nat.le_max_left _ _
      · exact Nat.le_trans (ih later) (Nat.le_max_right _ _)

theorem highestOf_mem {accepted : List (BitVec 64)} (some_ : accepted ≠ []) :
    ∃ seq ∈ accepted, seq.toNat = highestOf accepted := by
  induction accepted with
  | nil => exact absurd rfl some_
  | cons first rest ih =>
      change ∃ seq ∈ first :: rest, seq.toNat = max first.toNat (highestOf rest)
      by_cases above : highestOf rest ≤ first.toNat
      · exact ⟨first, List.mem_cons_self, (Nat.max_eq_left above).symm⟩
      · have more : rest ≠ [] := by
          intro none
          rw [none] at above
          exact above (Nat.zero_le _)
        obtain ⟨seq, member, same⟩ := ih more
        refine ⟨seq, List.mem_cons_of_mem _ member, ?_⟩
        rw [same]
        exact (Nat.max_eq_right (by omega)).symm

theorem freshAfter_iff (positive : 0 < width) (accepted : List (BitVec 64)) (seq : BitVec 64) :
    FreshAfter width accepted seq ↔ seq ∉ accepted ∧ WithinWindow width accepted seq := by
  unfold FreshAfter WithinWindow
  apply and_congr_right
  intro _new
  constructor
  · intro near
    by_cases none : accepted = []
    · exact Or.inl none
    · obtain ⟨other, member, same⟩ := highestOf_mem none
      right
      by_cases higher : seq < other
      · have bound := near other member higher
        right
        rw [← same]
        bv_omega
      · right
        rw [← same]
        bv_omega
  · intro within other member higher
    have below := le_highestOf member
    rcases within with none | above | behind
    · rw [none] at member
      exact absurd member List.not_mem_nil
    · bv_omega
    · bv_omega

inductive WindowCall where
  | accept (seq : BitVec 64)
  | reset

/-- A window beside the numbers it has accepted since it was made or reset. -/
structure WindowHistory (width : Nat) where
  window : ReplayWindow width
  accepted : List (BitVec 64)

def WindowHistory.fresh (width : Nat) : WindowHistory width :=
  { window := ReplayWindow.fresh width, accepted := [] }

def WindowHistory.step (history : WindowHistory width) : WindowCall → WindowHistory width
  | .accept seq =>
      let answer := history.window.accept seq
      { window := answer.2
        accepted := if answer.1 then seq :: history.accepted else history.accepted }
  | .reset => WindowHistory.fresh width

/-- The window decides as the whole list would, and its highest number and its bits are
those of the list. -/
structure WindowHistory.Exact (history : WindowHistory width) : Prop where
  accepts : ∀ seq, (history.window.accept seq).1 = true ↔
    seq ∉ history.accepted ∧ WithinWindow width history.accepted seq
  highest : history.window.highest.toNat = highestOf history.accepted
  seen : ∀ bit < width, history.window.seen.getLsbD bit = true ↔
    ∃ seq ∈ history.accepted, seq.toNat + bit = history.window.highest.toNat

theorem WindowHistory.step_records (positive : 0 < width) (history : WindowHistory width)
    (call : WindowCall) (records : history.window.Records history.accepted)
    (empty : history.accepted = [] → history.window = ReplayWindow.fresh width) :
    (history.step call).window.Records (history.step call).accepted ∧
      ((history.step call).accepted = [] →
        (history.step call).window = ReplayWindow.fresh width) := by
  cases call with
  | reset => exact ⟨ReplayWindow.records_fresh width, fun _ => rfl⟩
  | accept seq =>
      change (history.window.accept seq).2.Records
          (if (history.window.accept seq).1 then seq :: history.accepted
            else history.accepted) ∧
        ((if (history.window.accept seq).1 then seq :: history.accepted
            else history.accepted) = [] →
          (history.window.accept seq).2 = ReplayWindow.fresh width)
      cases taken : (history.window.accept seq).1 with
      | true =>
          exact ⟨records.accept positive taken, fun none => absurd none (List.cons_ne_nil _ _)⟩
      | false =>
          rw [ReplayWindow.accept_refused taken]
          exact ⟨records, empty⟩

theorem ReplayWindow.Records.exact {history : WindowHistory width} (positive : 0 < width)
    (records : history.window.Records history.accepted)
    (empty : history.accepted = [] → history.window = ReplayWindow.fresh width) :
    history.Exact := by
  constructor
  · intro seq
    rw [records.accepts_iff positive seq, freshAfter_iff positive]
  · by_cases none : history.accepted = []
    · rw [none, empty none]
      rfl
    · obtain ⟨seq, member, same⟩ := highestOf_mem none
      have below := BitVec.le_def.mp (records.below seq member)
      have above := le_highestOf (records.reached none)
      omega
  · intro bit inside
    by_cases none : history.accepted = []
    · rw [none, empty none]
      simp [ReplayWindow.fresh]
    · rw [records.seen none bit inside]
      apply exists_congr
      intro seq
      apply and_congr_right
      intro member
      have below := BitVec.le_def.mp (records.below seq member)
      rw [BitVec.toNat_sub_of_le (records.below seq member)]
      omega

/-- After any calls since construction, a reset among them or not, the window is exact. -/
theorem replay_window_exact (positive : 0 < width) (calls : List WindowCall) :
    (Run.final WindowHistory.step (WindowHistory.fresh width) calls).Exact := by
  have kept : ∀ history : WindowHistory width, ∀ call,
      (history.window.Records history.accepted ∧
        (history.accepted = [] → history.window = ReplayWindow.fresh width)) →
      (history.step call).window.Records (history.step call).accepted ∧
        ((history.step call).accepted = [] →
          (history.step call).window = ReplayWindow.fresh width) :=
    fun history call sound => history.step_records positive call sound.1 sound.2
  obtain ⟨records, empty⟩ := Run.invariant_always _ kept (WindowHistory.fresh width) calls
    ⟨ReplayWindow.records_fresh width, fun _ => rfl⟩
  exact records.exact positive empty

/-- The default width, a jump, a late number and a reset. -/
theorem replay_window_exact_default :
    (Run.final WindowHistory.step (WindowHistory.fresh 256)
      [.accept 5#64, .accept 300#64, .accept 45#64, .reset, .accept 7#64]).Exact :=
  replay_window_exact (by decide) _

end SmartMic.Protocol
