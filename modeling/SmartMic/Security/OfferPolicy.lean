import SmartMic.Security.OfferBook
import SmartMic.Support.Run

set_option autoImplicit false

/-! The policy of an offer book over whole runs. The offer is alive, reaches the code
comparison and passes the check under one condition, which time and every call but
`issue` can only take away. The exception is the attempt counter: it has 32 bits and
`noteFailedAttempt` does not look at the limit. -/

namespace SmartMic.Security

/-- `verify` counts the attempt, which it does on its way to the code comparison only. -/
def PairingOfferBook.Compares (book : PairingOfferBook) (sessionId code : Bytes)
    (nowMs : BitVec 64) : Prop :=
  (book.verify sessionId code nowMs).2.attempts = book.attempts + 1#32

instance (book : PairingOfferBook) (sessionId code : Bytes) (nowMs : BitVec 64) :
    Decidable (book.Compares sessionId code nowMs) :=
  inferInstanceAs (Decidable (_ = _))

/-- Nothing but the attempt limit stands in the way of the offer. -/
def PairingOfferBook.Live (book : PairingOfferBook) (nowMs : BitVec 64) : Prop :=
  book.has = true ∧ book.consumed = false ∧ nowMs < book.offer.expiresAtMs

theorem PairingOfferBook.Live.earlier {book : PairingOfferBook} {earlier later : BitVec 64}
    (live : book.Live later) (order : earlier ≤ later) : book.Live earlier := by
  obtain ⟨has, unused, early⟩ := live
  exact ⟨has, unused, by bv_omega⟩

theorem PairingOfferBook.hasOutstanding_iff (book : PairingOfferBook) (nowMs : BitVec 64) :
    book.hasOutstanding nowMs = true ↔
      book.Live nowMs ∧ book.attempts < book.policy.maxAttempts := by
  simp only [PairingOfferBook.hasOutstanding, PairingOfferBook.Live, Bool.and_eq_true,
    Bool.not_eq_true', decide_eq_true_eq, and_assoc]

theorem PairingOfferBook.hasOutstanding_earlier {book : PairingOfferBook}
    {earlier later : BitVec 64} (order : earlier ≤ later)
    (outstanding : book.hasOutstanding later = true) : book.hasOutstanding earlier = true := by
  rw [PairingOfferBook.hasOutstanding_iff] at outstanding ⊢
  exact ⟨outstanding.1.earlier order, outstanding.2⟩

theorem PairingOfferBook.check_valid_iff (book : PairingOfferBook) (sessionId : Bytes)
    (nowMs : BitVec 64) :
    book.check sessionId nowMs = .valid ↔
      book.hasOutstanding nowMs = true ∧ sessionId = book.offer.sessionId := by
  rw [PairingOfferBook.hasOutstanding_iff]
  simp only [PairingOfferBook.check, PairingOfferBook.Live]
  constructor
  · intro valid
    split at valid
    · cases valid
    · rename_i known
      obtain ⟨has, same⟩ := not_or.mp known
      split at valid
      · cases valid
      · rename_i unused
        split at valid
        · cases valid
        · rename_i early
          split at valid
          · cases valid
          · rename_i below
            exact ⟨⟨⟨by simpa using has, by simpa using unused, BitVec.not_le.mp early⟩,
              BitVec.not_le.mp below⟩, not_not.mp same⟩
  · rintro ⟨⟨⟨has, unused, early⟩, below⟩, same⟩
    rw [if_neg (by simp [has, same]), if_neg (by simp [unused]), if_neg (BitVec.not_le.mpr early),
      if_neg (BitVec.not_le.mpr below)]

theorem PairingOfferBook.verify_book (book : PairingOfferBook) (sessionId code : Bytes)
    (nowMs : BitVec 64) :
    (book.check sessionId nowMs = .valid ∧
      (book.verify sessionId code nowMs).2 = { book with attempts := book.attempts + 1#32 }) ∨
    (book.check sessionId nowMs ≠ .valid ∧ (book.verify sessionId code nowMs).2 = book) := by
  simp only [PairingOfferBook.verify, PairingOfferBook.check]
  by_cases unknown : book.has = false ∨ sessionId ≠ book.offer.sessionId
  · exact Or.inr (by simp [unknown])
  · by_cases used : book.consumed = true
    · exact Or.inr (by simp [unknown, used])
    · by_cases late : book.offer.expiresAtMs ≤ nowMs
      · exact Or.inr (by simp [unknown, used, late])
      · by_cases throttled : book.policy.maxAttempts ≤ book.attempts
        · exact Or.inr (by simp [unknown, used, late, throttled])
        · rw [if_neg unknown, if_neg used, if_neg late, if_neg throttled, if_neg unknown,
            if_neg used, if_neg late, if_neg throttled]
          refine Or.inl ⟨rfl, ?_⟩
          split
          · rfl
          · split <;> rfl

theorem PairingOfferBook.compares_iff (book : PairingOfferBook) (sessionId code : Bytes)
    (nowMs : BitVec 64) :
    book.Compares sessionId code nowMs ↔ book.check sessionId nowMs = .valid := by
  unfold PairingOfferBook.Compares
  rcases book.verify_book sessionId code nowMs with ⟨valid, counted⟩ | ⟨refused, same⟩
  · rw [counted]
    exact ⟨fun _ => valid, fun _ => rfl⟩
  · rw [same]
    refine ⟨fun impossible => ?_, fun valid => absurd valid refused⟩
    have moved : book.attempts ≠ book.attempts + 1#32 := by bv_omega
    exact absurd impossible moved

/-! ### Calls -/

/-- A call with the clock reading it is handed, if it is handed one. -/
inductive OfferCall where
  | issue (sessionId code : Bytes) (nowMs : BitVec 64)
  | verify (sessionId code : Bytes) (nowMs : BitVec 64)
  | check (sessionId : Bytes) (nowMs : BitVec 64)
  | noteFailedAttempt (sessionId : Bytes)
  | consume (sessionId : Bytes)
  | clear
  deriving DecidableEq

def OfferCall.reading : OfferCall → Option (BitVec 64)
  | .issue _ _ nowMs => some nowMs
  | .verify _ _ nowMs => some nowMs
  | .check _ nowMs => some nowMs
  | .noteFailedAttempt _ => none
  | .consume _ => none
  | .clear => none

def OfferCall.isIssue : OfferCall → Bool
  | .issue _ _ _ => true
  | _ => false

def OfferCall.apply (book : PairingOfferBook) : OfferCall → PairingOfferBook
  | .issue sessionId code nowMs => book.issue sessionId code nowMs
  | .verify sessionId code nowMs => (book.verify sessionId code nowMs).2
  | .check _ _ => book
  | .noteFailedAttempt sessionId => book.noteFailedAttempt sessionId
  | .consume sessionId => book.consume sessionId
  | .clear => book.clear

def OfferCall.Compares (book : PairingOfferBook) : OfferCall → Prop
  | .verify sessionId code nowMs => book.Compares sessionId code nowMs
  | _ => False

instance (book : PairingOfferBook) (call : OfferCall) : Decidable (call.Compares book) := by
  cases call <;> unfold OfferCall.Compares <;> infer_instance

/-- A book with the latest clock reading any call was handed. -/
structure OfferDesk where
  book : PairingOfferBook
  clockMs : BitVec 64

def OfferDesk.create (policy : PairingPolicy) : OfferDesk :=
  { book := PairingOfferBook.create policy, clockMs := 0#64 }

def OfferDesk.step (desk : OfferDesk) (call : OfferCall) : OfferDesk :=
  { book := call.apply desk.book, clockMs := call.reading.getD desk.clockMs }

/-- Clock readings do not go backwards. -/
def OfferDesk.InOrder (desk : OfferDesk) (call : OfferCall) : Prop :=
  desk.clockMs ≤ call.reading.getD desk.clockMs

/-- A failed attempt is not charged to a live offer whose counter is at its last value. -/
def OfferDesk.Counts (desk : OfferDesk) (call : OfferCall) : Prop :=
  0#32 < desk.book.policy.maxAttempts → desk.book.Live desk.clockMs →
    call = .noteFailedAttempt desk.book.offer.sessionId → desk.book.attempts ≠ 4294967295#32

instance (desk : OfferDesk) (call : OfferCall) : Decidable (desk.InOrder call) :=
  inferInstanceAs (Decidable (_ ≤ _))

instance (book : PairingOfferBook) (nowMs : BitVec 64) : Decidable (book.Live nowMs) :=
  inferInstanceAs (Decidable (_ ∧ _))

instance (desk : OfferDesk) (call : OfferCall) : Decidable (desk.Counts call) :=
  inferInstanceAs (Decidable (_ → _))

def OfferDesk.comparisons : OfferDesk → List OfferCall → Nat
  | _, [] => 0
  | desk, call :: rest =>
      (if call.Compares desk.book then 1 else 0) + (desk.step call).comparisons rest

/-- What a call other than `issue` does to the offer: it stays the same offer, does not
come back to life, and its counter does not go down while that matters. -/
structure OfferDesk.Wears (desk next : OfferDesk) : Prop where
  policy : next.book.policy = desk.book.policy
  offer : next.book.offer = desk.book.offer
  live : ∀ later, next.book.Live later → desk.book.Live later
  attempts : 0#32 < desk.book.policy.maxAttempts → desk.book.Live desk.clockMs →
    desk.book.attempts ≤ next.book.attempts

theorem OfferDesk.wears_verify (desk : OfferDesk) (sessionId code : Bytes) (nowMs : BitVec 64) :
    desk.Wears (desk.step (.verify sessionId code nowMs)) := by
  have result : (desk.step (.verify sessionId code nowMs)).book =
      (desk.book.verify sessionId code nowMs).2 := rfl
  rcases desk.book.verify_book sessionId code nowMs with ⟨valid, counted⟩ | ⟨-, same⟩
  · rw [counted] at result
    have below := ((desk.book.hasOutstanding_iff nowMs).mp
      ((desk.book.check_valid_iff sessionId nowMs).mp valid).1).2
    exact
      { policy := by rw [result]
        offer := by rw [result]
        live := fun later live => by rw [result] at live; exact live
        attempts := fun _ _ => by rw [result]; bv_omega }
  · rw [same] at result
    exact
      { policy := by rw [result]
        offer := by rw [result]
        live := fun later live => by rw [result] at live; exact live
        attempts := fun _ _ => by rw [result]; exact BitVec.le_refl _ }

theorem OfferDesk.wears_noteFailedAttempt {desk : OfferDesk} {sessionId : Bytes}
    (counts : desk.Counts (.noteFailedAttempt sessionId)) :
    desk.Wears (desk.step (.noteFailedAttempt sessionId)) := by
  have result : (desk.step (.noteFailedAttempt sessionId)).book =
      desk.book.noteFailedAttempt sessionId := rfl
  unfold PairingOfferBook.noteFailedAttempt at result
  split at result
  · rename_i known
    exact
      { policy := by rw [result]
        offer := by rw [result]
        live := fun later live => by rw [result] at live; exact live
        attempts := fun some live => by
          have room := counts some live (by rw [known.2])
          rw [result]
          bv_omega }
  · exact
      { policy := by rw [result]
        offer := by rw [result]
        live := fun later live => by rw [result] at live; exact live
        attempts := fun _ _ => by rw [result]; exact BitVec.le_refl _ }

theorem OfferDesk.wears_consume (desk : OfferDesk) (sessionId : Bytes) :
    desk.Wears (desk.step (.consume sessionId)) := by
  have result : (desk.step (.consume sessionId)).book = desk.book.consume sessionId := rfl
  unfold PairingOfferBook.consume at result
  split at result
  · exact
      { policy := by rw [result]
        offer := by rw [result]
        live := fun later live => by
          rw [result] at live
          exact absurd live.2.1 (by simp)
        attempts := fun _ _ => by rw [result]; exact BitVec.le_refl _ }
  · exact
      { policy := by rw [result]
        offer := by rw [result]
        live := fun later live => by rw [result] at live; exact live
        attempts := fun _ _ => by rw [result]; exact BitVec.le_refl _ }

/-- One step wears the offer, unless it issues one. -/
theorem OfferDesk.wears_step {desk : OfferDesk} {call : OfferCall} (kept : call.isIssue = false)
    (counts : desk.Counts call) : desk.Wears (desk.step call) := by
  cases call with
  | issue sessionId code nowMs => cases kept
  | verify sessionId code nowMs => exact desk.wears_verify sessionId code nowMs
  | check sessionId nowMs =>
      exact
        { policy := rfl, offer := rfl, live := fun _ => id
          attempts := fun _ _ => BitVec.le_refl _ }
  | noteFailedAttempt sessionId => exact OfferDesk.wears_noteFailedAttempt counts
  | consume sessionId => exact desk.wears_consume sessionId
  | clear =>
      exact
        { policy := rfl, offer := rfl, live := fun _ live => absurd live.1 Bool.noConfusion
          attempts := fun _ _ => BitVec.le_refl _ }

theorem OfferDesk.Wears.hasOutstanding {desk next : OfferDesk} (wears : desk.Wears next)
    {later : BitVec 64} (order : desk.clockMs ≤ later)
    (outstanding : next.book.hasOutstanding later = true) :
    desk.book.hasOutstanding later = true := by
  rw [PairingOfferBook.hasOutstanding_iff, wears.policy] at outstanding
  obtain ⟨liveNext, below⟩ := outstanding
  have live := wears.live later liveNext
  have atMost := wears.attempts (by bv_omega) (live.earlier order)
  rw [PairingOfferBook.hasOutstanding_iff]
  exact ⟨live, by bv_omega⟩

/-! ### Runs between two issues -/

theorem OfferDesk.hasOutstanding_final (calls : List OfferCall)
    (kept : ∀ call ∈ calls, call.isIssue = false) (desk : OfferDesk)
    (ordered : Run.Meets OfferDesk.step OfferDesk.InOrder desk calls)
    (counts : Run.Meets OfferDesk.step OfferDesk.Counts desk calls) {later : BitVec 64}
    (order : (Run.final OfferDesk.step desk calls).clockMs ≤ later)
    (outstanding : (Run.final OfferDesk.step desk calls).book.hasOutstanding later = true) :
    desk.clockMs ≤ later ∧ desk.book.hasOutstanding later = true := by
  induction calls generalizing desk with
  | nil => exact ⟨order, outstanding⟩
  | cons call rest ih =>
      obtain ⟨notIssue, laterKept⟩ := List.forall_mem_cons.mp kept
      obtain ⟨reached, before⟩ := ih laterKept (desk.step call) ordered.2 counts.2 order outstanding
      have onTime : desk.clockMs ≤ later := BitVec.le_trans ordered.1 reached
      exact ⟨onTime, (OfferDesk.wears_step notIssue counts.1).hasOutstanding onTime before⟩

/-- Comparisons made since the issue are counted as long as the offer is alive. -/
structure OfferDesk.Charged (desk : OfferDesk) (made : Nat) : Prop where
  limit : made ≤ desk.book.policy.maxAttempts.toNat
  counted : desk.book.Live desk.clockMs → made ≤ desk.book.attempts.toNat

theorem OfferDesk.charged_of_wears {desk next : OfferDesk} {made : Nat}
    (charged : desk.Charged made) (wears : desk.Wears next) (order : desk.clockMs ≤ next.clockMs) :
    next.Charged made := by
  constructor
  · rw [wears.policy]
    exact charged.limit
  · intro liveNext
    have live := (wears.live _ liveNext).earlier order
    by_cases none : desk.book.policy.maxAttempts = 0#32
    · have limit := charged.limit
      rw [none] at limit
      exact Nat.le_trans limit (Nat.zero_le _)
    · have atMost := wears.attempts (by bv_omega) live
      exact Nat.le_trans (charged.counted live) atMost

theorem OfferDesk.charged_of_compares {desk : OfferDesk} {made : Nat}
    (charged : desk.Charged made) {sessionId code : Bytes} {nowMs : BitVec 64}
    (order : desk.clockMs ≤ nowMs) (compares : desk.book.Compares sessionId code nowMs) :
    (desk.step (.verify sessionId code nowMs)).Charged (made + 1) := by
  have valid := (desk.book.compares_iff sessionId code nowMs).mp compares
  obtain ⟨live, below⟩ := (desk.book.hasOutstanding_iff nowMs).mp
    ((desk.book.check_valid_iff sessionId nowMs).mp valid).1
  have before := charged.counted (live.earlier order)
  have counted : (desk.step (.verify sessionId code nowMs)).book.attempts =
      desk.book.attempts + 1#32 := compares
  constructor
  · rw [(desk.wears_verify sessionId code nowMs).policy]
    exact Nat.lt_of_le_of_lt before below
  · intro _live
    rw [counted]
    bv_omega

theorem OfferDesk.charged_step {desk : OfferDesk} {call : OfferCall} {made : Nat}
    (charged : desk.Charged made) (kept : call.isIssue = false) (ordered : desk.InOrder call)
    (counts : desk.Counts call) :
    (desk.step call).Charged (made + if call.Compares desk.book then 1 else 0) := by
  by_cases compares : call.Compares desk.book
  · rw [if_pos compares]
    cases call with
    | verify sessionId code nowMs => exact OfferDesk.charged_of_compares charged ordered compares
    | _ => cases compares
  · rw [if_neg compares]
    exact OfferDesk.charged_of_wears charged (OfferDesk.wears_step kept counts) ordered

theorem OfferDesk.comparisons_le (calls : List OfferCall)
    (kept : ∀ call ∈ calls, call.isIssue = false) (desk : OfferDesk) (made : Nat)
    (charged : desk.Charged made)
    (ordered : Run.Meets OfferDesk.step OfferDesk.InOrder desk calls)
    (counts : Run.Meets OfferDesk.step OfferDesk.Counts desk calls) :
    made + desk.comparisons calls ≤ desk.book.policy.maxAttempts.toNat := by
  induction calls generalizing desk made with
  | nil => exact charged.limit
  | cons call rest ih =>
      obtain ⟨notIssue, laterKept⟩ := List.forall_mem_cons.mp kept
      have next := OfferDesk.charged_step charged notIssue ordered.1 counts.1
      have bound := ih laterKept (desk.step call) _ next ordered.2 counts.2
      rw [(OfferDesk.wears_step notIssue counts.1).policy] at bound
      simp only [OfferDesk.comparisons]
      omega

/-! ### The policy -/

def OfferDesk.reached (policy : PairingPolicy) (calls : List OfferCall) : OfferDesk :=
  Run.final OfferDesk.step (OfferDesk.create policy) calls

/-- What the book promises of a sequence of calls. `second` is any part of it without an
issue; the offer is looked at before it and after it. -/
structure PolicyKept (policy : PairingPolicy) (calls : List OfferCall) : Prop where
  agree : ∀ first, first <+: calls → ∀ (sessionId code : Bytes) (nowMs : BitVec 64),
    let book := (OfferDesk.reached policy first).book
    (book.check sessionId nowMs = .valid ↔
      book.hasOutstanding nowMs = true ∧ sessionId = book.offer.sessionId) ∧
    (book.check sessionId nowMs = .valid ↔ book.Compares sessionId code nowMs)
  bounded : ∀ first second, first ++ second <+: calls →
    (∀ call ∈ second, call.isIssue = false) →
    (OfferDesk.reached policy first).comparisons second ≤ policy.maxAttempts.toNat
  ended : ∀ first second, first ++ second <+: calls →
    (∀ call ∈ second, call.isIssue = false) →
    ∀ nowMs later, (OfferDesk.reached policy first).clockMs ≤ nowMs → nowMs ≤ later →
      (OfferDesk.reached policy (first ++ second)).clockMs ≤ later →
      (OfferDesk.reached policy first).book.check
        (OfferDesk.reached policy first).book.offer.sessionId nowMs ≠ .valid →
      ∀ sessionId,
        (OfferDesk.reached policy (first ++ second)).book.check sessionId later ≠ .valid

theorem OfferDesk.policy_step (desk : OfferDesk) (call : OfferCall) :
    (desk.step call).book.policy = desk.book.policy := by
  cases call with
  | issue sessionId code nowMs => rfl
  | verify sessionId code nowMs => exact (desk.wears_verify sessionId code nowMs).policy
  | check sessionId nowMs => rfl
  | noteFailedAttempt sessionId =>
      simp only [OfferDesk.step, OfferCall.apply, PairingOfferBook.noteFailedAttempt]
      split <;> rfl
  | consume sessionId => exact (desk.wears_consume sessionId).policy
  | clear => rfl

theorem OfferDesk.policy_reached (policy : PairingPolicy) (calls : List OfferCall) :
    (OfferDesk.reached policy calls).book.policy = policy :=
  Run.invariant_always (fun desk => desk.book.policy = policy)
    (fun desk call same => (desk.policy_step call).trans same) (OfferDesk.create policy) calls rfl

theorem OfferDesk.reached_append (policy : PairingPolicy) (first second : List OfferCall) :
    OfferDesk.reached policy (first ++ second) =
      Run.final OfferDesk.step (OfferDesk.reached policy first) second :=
  Run.final_append OfferDesk.step (OfferDesk.create policy) first second

theorem OfferDesk.meets_part {policy : PairingPolicy} {calls first second : List OfferCall}
    {allowed : OfferDesk → OfferCall → Prop} (within : first ++ second <+: calls)
    (meets : Run.Meets OfferDesk.step allowed (OfferDesk.create policy) calls) :
    Run.Meets OfferDesk.step allowed (OfferDesk.reached policy first) second := by
  obtain ⟨rest, whole⟩ := within
  rw [← whole, List.append_assoc, Run.meets_append, Run.meets_append] at meets
  exact meets.2.1

theorem policyKept_of_counts {policy : PairingPolicy} {calls : List OfferCall}
    (ordered : Run.Meets OfferDesk.step OfferDesk.InOrder (OfferDesk.create policy) calls)
    (counts : Run.Meets OfferDesk.step OfferDesk.Counts (OfferDesk.create policy) calls) :
    PolicyKept policy calls where
  agree := fun first _within sessionId code nowMs =>
    ⟨PairingOfferBook.check_valid_iff _ sessionId nowMs,
      (PairingOfferBook.compares_iff _ sessionId code nowMs).symm⟩
  bounded := fun first second within kept => by
    have fresh : (OfferDesk.reached policy first).Charged 0 :=
      { limit := Nat.zero_le _, counted := fun _ => Nat.zero_le _ }
    have bound := OfferDesk.comparisons_le second kept _ 0 fresh
      (OfferDesk.meets_part within ordered) (OfferDesk.meets_part within counts)
    rw [OfferDesk.policy_reached, Nat.zero_add] at bound
    exact bound
  ended := by
    intro first second within kept nowMs later _onTime order reached ended sessionId valid
    rw [OfferDesk.reached_append] at reached valid
    have outstanding := ((PairingOfferBook.check_valid_iff _ sessionId later).mp valid).1
    obtain ⟨-, before⟩ := OfferDesk.hasOutstanding_final second kept _
      (OfferDesk.meets_part within ordered) (OfferDesk.meets_part within counts) reached outstanding
    exact ended ((PairingOfferBook.check_valid_iff _ _ nowMs).mpr
      ⟨PairingOfferBook.hasOutstanding_earlier order before, rfl⟩)

/-- The offer is throttled before the charge that wraps its counter, and valid after it. -/
theorem OfferDesk.valid_of_wrap {desk : OfferDesk} {call : OfferCall}
    (wraps : ¬ desk.Counts call) :
    call = .noteFailedAttempt desk.book.offer.sessionId ∧
      desk.book.check desk.book.offer.sessionId desk.clockMs ≠ .valid ∧
      (desk.step call).book.check desk.book.offer.sessionId desk.clockMs = .valid := by
  unfold OfferDesk.Counts at wraps
  push Not at wraps
  obtain ⟨some, live, rfl, last⟩ := wraps
  refine ⟨rfl, ?_, ?_⟩
  · rw [ne_eq, PairingOfferBook.check_valid_iff, PairingOfferBook.hasOutstanding_iff, last]
    rintro ⟨⟨-, below⟩, -⟩
    bv_omega
  · have result : (desk.step (.noteFailedAttempt desk.book.offer.sessionId)).book =
        { desk.book with attempts := desk.book.attempts + 1#32 } := by
      simp only [OfferDesk.step, OfferCall.apply, PairingOfferBook.noteFailedAttempt]
      rw [if_pos ⟨live.1, trivial⟩]
    rw [result, PairingOfferBook.check_valid_iff, PairingOfferBook.hasOutstanding_iff]
    refine ⟨⟨live, ?_⟩, rfl⟩
    rw [last]
    exact some

theorem counts_of_policyKept {policy : PairingPolicy} {first rest : List OfferCall}
    {call : OfferCall} (kept : PolicyKept policy (first ++ call :: rest)) :
    (OfferDesk.reached policy first).Counts call := by
  by_contra wraps
  obtain ⟨charge, throttled, valid⟩ := OfferDesk.valid_of_wrap wraps
  have clock : (OfferDesk.reached policy (first ++ [call])).clockMs =
      (OfferDesk.reached policy first).clockMs := by
    rw [OfferDesk.reached_append, charge]
    rfl
  apply kept.ended first [call] ⟨rest, by simp⟩ (by rw [charge]; simp [OfferCall.isIssue]) _ _
    (BitVec.le_refl _) (BitVec.le_refl _) (by rw [clock]; exact BitVec.le_refl _) throttled
    (OfferDesk.reached policy first).book.offer.sessionId
  rw [OfferDesk.reached_append]
  exact valid

/-- A run keeps the policy exactly when no failed attempt wraps the counter of an offer
that nothing but the attempt limit has ended. -/
theorem policyKept_iff_counts (policy : PairingPolicy) (calls : List OfferCall)
    (ordered : Run.Meets OfferDesk.step OfferDesk.InOrder (OfferDesk.create policy) calls) :
    PolicyKept policy calls ↔
      Run.Meets OfferDesk.step OfferDesk.Counts (OfferDesk.create policy) calls := by
  constructor
  · intro kept
    refine Run.meets_of_splits fun first call rest whole => ?_
    rw [whole] at kept
    exact counts_of_policyKept kept
  · exact policyKept_of_counts ordered

/-- Issue, a wrong code, two failed attempts, the right code, use. -/
theorem policyKept_sample :
    PolicyKept { maxAttempts := 4#32 }
      [.issue (ascii "s") (ascii "123456") 1000#64, .verify (ascii "s") (ascii "654321") 1000#64,
        .noteFailedAttempt (ascii "s"), .noteFailedAttempt (ascii "s"),
        .verify (ascii "s") (ascii "123456") 1200#64, .consume (ascii "s"),
        .check (ascii "s") 1300#64] :=
  (policyKept_iff_counts _ _ (by decide +kernel)).mpr (by decide +kernel)

/-! ### A wrap -/

theorem OfferDesk.attempts_replicate (sessionId : Bytes) (count : Nat) (desk : OfferDesk)
    (has : desk.book.has = true) (known : sessionId = desk.book.offer.sessionId) :
    Run.final OfferDesk.step desk (List.replicate count (.noteFailedAttempt sessionId)) =
      { desk with
        book := { desk.book with attempts := desk.book.attempts + BitVec.ofNat 32 count } } := by
  induction count generalizing desk with
  | zero => simp
  | succ count ih =>
      have charged : desk.step (.noteFailedAttempt sessionId) =
          { desk with book := { desk.book with attempts := desk.book.attempts + 1#32 } } := by
        simp only [OfferDesk.step, OfferCall.apply, PairingOfferBook.noteFailedAttempt]
        rw [if_pos ⟨has, known⟩]
        rfl
      rw [List.replicate_succ, Run.final_cons, charged, ih]
      · have sum : desk.book.attempts + 1#32 + BitVec.ofNat 32 count =
            desk.book.attempts + BitVec.ofNat 32 (count + 1) := by bv_omega
        rw [sum]
      · exact has
      · exact known

def chargedOffer : List OfferCall :=
  .issue (ascii "s") (ascii "123456") 0#64 ::
    (List.replicate (2 ^ 32 - 1) (.noteFailedAttempt (ascii "s")) ++
      [.noteFailedAttempt (ascii "s")])

theorem policy_not_kept_by_chargedOffer :
    Run.Meets OfferDesk.step OfferDesk.InOrder (OfferDesk.create {}) chargedOffer ∧
      ¬ PolicyKept {} chargedOffer := by
  unfold chargedOffer
  have last : 0#32 + BitVec.ofNat 32 (2 ^ 32 - 1) = 4294967295#32 := rfl
  generalize 2 ^ 32 - 1 = count at last
  constructor
  · refine ⟨BitVec.le_refl _, Run.meets_of_splits fun first call rest whole => ?_⟩
    have member : call ∈ List.replicate count (OfferCall.noteFailedAttempt (ascii "s")) ++
        [.noteFailedAttempt (ascii "s")] := by
      rw [whole]
      simp
    rw [List.mem_append, List.mem_singleton] at member
    have same : call = .noteFailedAttempt (ascii "s") :=
      member.elim List.eq_of_mem_replicate id
    subst same
    exact BitVec.le_refl _
  · intro kept
    rw [← List.cons_append] at kept
    have reached : OfferDesk.reached {} (.issue (ascii "s") (ascii "123456") 0#64 ::
        List.replicate count (.noteFailedAttempt (ascii "s"))) =
          { book :=
              { (PairingOfferBook.create {}).issue (ascii "s") (ascii "123456") 0#64 with
                attempts := 4294967295#32 }
            clockMs := 0#64 } := by
      unfold OfferDesk.reached
      rw [Run.final_cons, OfferDesk.attempts_replicate (ascii "s") count _ rfl rfl]
      simp only [OfferDesk.step, OfferDesk.create, OfferCall.apply, PairingOfferBook.issue, last,
        OfferCall.reading, Option.getD_some]
    have counts := counts_of_policyKept kept
    rw [reached] at counts
    exact counts (by decide) ⟨rfl, rfl, by decide⟩ rfl rfl

end SmartMic.Security
