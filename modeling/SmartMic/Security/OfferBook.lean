import SmartMic.Security.Pairing

set_option autoImplicit false

/-! How an offer wears out: attempts, consumption and clearing only ever spend it, and
only a new offer undoes that. -/

namespace SmartMic.Security

/-- The offer cannot be used any more. -/
def PairingOfferBook.Spent (book : PairingOfferBook) : Prop :=
  book.has = false ∨ book.consumed = true

theorem PairingOfferBook.check_valid {book : PairingOfferBook} {sessionId : Bytes}
    {nowMs : BitVec 64} (valid : book.check sessionId nowMs = .valid) :
    book.has = true ∧ sessionId = book.offer.sessionId ∧ book.consumed = false := by
  unfold PairingOfferBook.check at valid
  split at valid
  · cases valid
  · rename_i known
    rw [not_or] at known
    split at valid
    · cases valid
    · rename_i unused
      exact ⟨by simpa using known.1, not_not.mp known.2, by simpa using unused⟩

/-- Nobody can use the session id with this offer any more, whatever the time. -/
def PairingOfferBook.ClosedFor (book : PairingOfferBook) (sessionId : Bytes) : Prop :=
  book.has = false ∨ sessionId ≠ book.offer.sessionId ∨ book.consumed = true

theorem PairingOfferBook.not_closedFor_of_valid {book : PairingOfferBook} {sessionId : Bytes}
    {nowMs : BitVec 64} (valid : book.check sessionId nowMs = .valid) :
    ¬ book.ClosedFor sessionId := by
  obtain ⟨has, known, unused⟩ := PairingOfferBook.check_valid valid
  rintro (absent | other | used)
  · rw [has] at absent
    cases absent
  · exact other known
  · rw [unused] at used
    cases used

theorem PairingOfferBook.ClosedFor.noteFailedAttempt {book : PairingOfferBook} {sessionId : Bytes}
    (closed : book.ClosedFor sessionId) (charged : Bytes) :
    (book.noteFailedAttempt charged).ClosedFor sessionId := by
  unfold PairingOfferBook.noteFailedAttempt
  split <;> exact closed

theorem PairingOfferBook.closedFor_consume (book : PairingOfferBook) (sessionId : Bytes) :
    (book.consume sessionId).ClosedFor sessionId := by
  unfold PairingOfferBook.consume
  split
  · exact Or.inr (Or.inr rfl)
  · rename_i other
    rcases not_and_or.mp other with absent | unknown
    · exact Or.inl (Bool.eq_false_iff.mpr absent)
    · exact Or.inr (Or.inl unknown)

/-- Work on a book that only a new offer undoes. -/
structure PairingOfferBook.Worn (before after : PairingOfferBook) : Prop where
  has : after.has = true → before.has = true
  spent : before.Spent → after.Spent

theorem PairingOfferBook.worn_verify (book : PairingOfferBook) (sessionId code : Bytes)
    (nowMs : BitVec 64) : book.Worn (book.verify sessionId code nowMs).2 := by
  unfold PairingOfferBook.verify
  dsimp only
  repeat' split
  all_goals exact { has := id, spent := id }

theorem PairingOfferBook.worn_noteFailedAttempt (book : PairingOfferBook) (sessionId : Bytes) :
    book.Worn (book.noteFailedAttempt sessionId) := by
  unfold PairingOfferBook.noteFailedAttempt
  split <;> exact { has := id, spent := id }

theorem PairingOfferBook.worn_consume (book : PairingOfferBook) (sessionId : Bytes) :
    book.Worn (book.consume sessionId) := by
  unfold PairingOfferBook.consume
  split
  · exact { has := id, spent := fun _ => Or.inr rfl }
  · exact { has := id, spent := id }

theorem PairingOfferBook.worn_clear (book : PairingOfferBook) : book.Worn book.clear :=
  { has := fun impossible => Bool.noConfusion impossible
    spent := fun _ => Or.inl rfl }

theorem PairingOfferBook.consume_spent {book : PairingOfferBook} {sessionId : Bytes}
    {nowMs : BitVec 64} (valid : book.check sessionId nowMs = .valid) :
    (book.consume sessionId).Spent := by
  obtain ⟨has, same, -⟩ := PairingOfferBook.check_valid valid
  unfold PairingOfferBook.consume
  rw [if_pos ⟨has, same⟩]
  exact Or.inr rfl

/-! ### Attempts -/

/-- Only attempts were charged to the offer, so many. -/
structure PairingOfferBook.Charged (before : PairingOfferBook) (count : Nat)
    (after : PairingOfferBook) : Prop where
  policy : after.policy = before.policy
  offer : after.offer = before.offer
  has : after.has = before.has
  consumed : after.consumed = before.consumed
  attempts : after.attempts.toNat = before.attempts.toNat + count

/-- One more attempt, in 32 bits. -/
def PairingOfferBook.charge (book : PairingOfferBook) : PairingOfferBook :=
  { book with attempts := book.attempts + 1#32 }

theorem PairingOfferBook.Charged.refl (book : PairingOfferBook) : book.Charged 0 book :=
  { policy := rfl, offer := rfl, has := rfl, consumed := rfl, attempts := rfl }

theorem PairingOfferBook.Charged.charge {before after : PairingOfferBook} {count : Nat}
    (charged : before.Charged count after)
    (room : before.attempts.toNat + count + 1 < 2 ^ 32) :
    before.Charged (count + 1) after.charge :=
  { policy := charged.policy
    offer := charged.offer
    has := charged.has
    consumed := charged.consumed
    attempts := by
      have so_far := charged.attempts
      change (after.attempts + 1#32).toNat = _
      rw [BitVec.toNat_add, so_far]
      change (_ + 1) % 2 ^ 32 = _
      rw [Nat.mod_eq_of_lt room]
      omega }

theorem PairingOfferBook.noteFailedAttempt_cases (book : PairingOfferBook) (sessionId : Bytes) :
    book.noteFailedAttempt sessionId = book ∨ book.noteFailedAttempt sessionId = book.charge := by
  unfold PairingOfferBook.noteFailedAttempt
  split
  · exact Or.inr rfl
  · exact Or.inl rfl

theorem PairingOfferBook.verify_cases (book : PairingOfferBook) (sessionId code : Bytes)
    (nowMs : BitVec 64) :
    (book.verify sessionId code nowMs).2 = book ∨
      (book.verify sessionId code nowMs).2 = book.charge := by
  unfold PairingOfferBook.verify
  dsimp only
  repeat' split
  all_goals first
    | exact Or.inl rfl
    | exact Or.inr rfl

/-- An offer that was valid once is valid until it expires or the attempts reach the limit. -/
theorem PairingOfferBook.Charged.check {before after : PairingOfferBook} {count : Nat}
    (charged : before.Charged count after) {sessionId : Bytes} {once nowMs : BitVec 64}
    (valid : before.check sessionId once = .valid)
    (few : before.attempts.toNat + count < before.policy.maxAttempts.toNat)
    (early : nowMs < before.offer.expiresAtMs) : after.check sessionId nowMs = .valid := by
  obtain ⟨has, known, unused⟩ := PairingOfferBook.check_valid valid
  have attempts := charged.attempts
  unfold PairingOfferBook.check
  rw [charged.has, charged.offer, charged.consumed, charged.policy, has, unused, if_neg,
    if_neg Bool.false_ne_true, if_neg (BitVec.not_le.mpr early), if_neg]
  · rw [BitVec.not_le, BitVec.lt_def]
    omega
  · rw [not_or]
    exact ⟨Bool.noConfusion, not_not.mpr known⟩

end SmartMic.Security
