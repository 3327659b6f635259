import SmartMic.Format

set_option autoImplicit false

/-! The sliding replay window: a fixed number of bits behind the highest accepted
64-bit sequence number. -/

namespace SmartMic.Protocol

/-- Bit `i` of `seen` says that `highest - i` has been accepted. -/
structure ReplayWindow (width : Nat) where
  initialised : Bool
  highest : BitVec 64
  seen : BitVec width
  deriving DecidableEq

variable {width : Nat}

/-- `reset`, and the window of a fresh object. -/
def ReplayWindow.fresh (width : Nat) : ReplayWindow width :=
  { initialised := false, highest := 0#64, seen := BitVec.zero width }

/-- `seen_.set(bit)`. -/
def setBit (seen : BitVec width) (bit : Nat) : BitVec width := seen ||| BitVec.twoPow width bit

def ReplayWindow.accept (window : ReplayWindow width) (seq : BitVec 64) :
    Bool × ReplayWindow width :=
  if window.initialised = false then
    (true, { initialised := true, highest := seq, seen := setBit (BitVec.zero width) 0 })
  else if window.highest < seq then
    let shift := (seq - window.highest).toNat
    let shifted := if width ≤ shift then BitVec.zero width else window.seen <<< shift
    (true, { window with highest := seq, seen := setBit shifted 0 })
  else
    let behind := (window.highest - seq).toNat
    -- too old to prove it is not a replay
    if width ≤ behind then (false, window)
    else if window.seen.getLsbD behind then (false, window)
    else (true, { window with seen := setBit window.seen behind })

/-- The window will not accept this number again. -/
def ReplayWindow.Spent (window : ReplayWindow width) (seq : BitVec 64) : Prop :=
  window.initialised = true ∧ seq ≤ window.highest ∧
  (width ≤ (window.highest - seq).toNat ∨
    window.seen.getLsbD (window.highest - seq).toNat = true)

theorem ReplayWindow.Spent.refused {window : ReplayWindow width} {seq : BitVec 64}
    (spent : window.Spent seq) : window.accept seq = (false, window) := by
  obtain ⟨initialised, old, behind⟩ := spent
  unfold ReplayWindow.accept
  rw [if_neg (by rw [initialised]; decide), if_neg (by bv_omega)]
  dsimp only
  by_cases far : width ≤ (window.highest - seq).toNat
  · rw [if_pos far]
  · rw [if_neg far, if_pos (behind.resolve_left far)]

theorem ReplayWindow.accept_refused {window : ReplayWindow width} {seq : BitVec 64}
    (refused : (window.accept seq).1 = false) : (window.accept seq).2 = window := by
  unfold ReplayWindow.accept at refused ⊢
  by_cases first : window.initialised = false
  · rw [if_pos first] at refused
    cases refused
  · rw [if_neg first] at refused ⊢
    by_cases newer : window.highest < seq
    · rw [if_pos newer] at refused
      cases refused
    · rw [if_neg newer] at refused ⊢
      dsimp only at refused ⊢
      split
      · rfl
      · rename_i near
        rw [if_neg near] at refused
        split
        · rfl
        · rename_i fresh
          rw [if_neg fresh] at refused
          cases refused

theorem setBit_self {seen : BitVec width} {bit : Nat} (inside : bit < width) :
    (setBit seen bit).getLsbD bit = true := by
  unfold setBit
  simp [inside]

theorem setBit_of_set {seen : BitVec width} {bit other : Nat} (set : seen.getLsbD other = true) :
    (setBit seen bit).getLsbD other = true := by
  unfold setBit
  rw [BitVec.getLsbD_or, set, Bool.true_or]

theorem ReplayWindow.spent_of_accept (positive : 0 < width) {window : ReplayWindow width}
    {seq : BitVec 64} (accepted : (window.accept seq).1 = true) :
    (window.accept seq).2.Spent seq := by
  unfold ReplayWindow.accept at accepted ⊢
  by_cases first : window.initialised = false
  · rw [if_pos first]
    refine ⟨rfl, BitVec.le_refl _, Or.inr ?_⟩
    rw [BitVec.sub_self]
    exact setBit_self positive
  · rw [if_neg first] at accepted ⊢
    have initialised : window.initialised = true := by simpa using first
    by_cases newer : window.highest < seq
    · rw [if_pos newer]
      refine ⟨initialised, BitVec.le_refl _, Or.inr ?_⟩
      dsimp only
      rw [BitVec.sub_self]
      exact setBit_self positive
    · rw [if_neg newer] at accepted ⊢
      dsimp only at accepted ⊢
      by_cases far : width ≤ (window.highest - seq).toNat
      · rw [if_pos far] at accepted
        cases accepted
      · rw [if_neg far] at accepted ⊢
        by_cases again : window.seen.getLsbD (window.highest - seq).toNat = true
        · rw [if_pos again] at accepted
          cases accepted
        · rw [if_neg again]
          refine ⟨initialised, by bv_omega, Or.inr ?_⟩
          exact setBit_self (not_le.mp far)

/-- Whatever a window is asked, what it would refuse it still refuses. -/
theorem ReplayWindow.Spent.accept {window : ReplayWindow width} {seq : BitVec 64}
    (spent : window.Spent seq) (other : BitVec 64) : (window.accept other).2.Spent seq := by
  obtain ⟨initialised, old, behind⟩ := spent
  unfold ReplayWindow.accept
  rw [if_neg (by rw [initialised]; decide)]
  by_cases newer : window.highest < other
  · rw [if_pos newer]
    refine ⟨initialised, by bv_omega, ?_⟩
    dsimp only
    have moved : (other - seq).toNat =
        (other - window.highest).toNat + (window.highest - seq).toNat := by bv_omega
    by_cases far : width ≤ (other - seq).toNat
    · exact Or.inl far
    · right
      rw [moved] at far ⊢
      have set := behind.resolve_left (by omega)
      rw [if_neg (by omega)]
      apply setBit_of_set
      have inside : (other - window.highest).toNat + (window.highest - seq).toNat < width := by
        omega
      rw [BitVec.getLsbD_shiftLeft, Nat.add_sub_cancel_left, set, Bool.and_true,
        decide_eq_true inside, decide_eq_false (by omega)]
      rfl
  · rw [if_neg newer]
    dsimp only
    split
    · exact ⟨initialised, old, behind⟩
    · split
      · exact ⟨initialised, old, behind⟩
      · exact ⟨initialised, old, behind.imp_right setBit_of_set⟩

end SmartMic.Protocol
