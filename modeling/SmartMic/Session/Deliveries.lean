import SmartMic.Session.Ledger

set_option autoImplicit false

/-! What a session passes on to its owner: at most one plaintext for a datagram, opened
by its channel while it is authenticated and stays so. -/

namespace SmartMic.Session

open SmartMic.Protocol SmartMic.Security SmartMic.Media

section

variable (sodium : Sodium) (library : JsonLibrary)

/-- At most one delivery for a datagram, and that only while the session stays
authenticated; otherwise the session keeps its state, authenticates or fails. -/
theorem PeerSession.onDatagram_tells (session : PeerSession) (moment : Moment) (bytes : Bytes) :
    let reaction := session.onDatagram sodium library moment bytes
    (reaction.delivered = [] ∧
      (reaction.session.state = session.state ∨ reaction.session.state = .authenticated ∨
        reaction.session.state = .failed)) ∨
    (∃ delivery, reaction.delivered = [delivery] ∧ session.state = .authenticated ∧
      reaction.session.state = session.state) := by
  intro reaction
  have quiet : reaction.delivered = [] →
      reaction.delivered = [] ∧
        (reaction.session.state = session.state ∨ reaction.session.state = .authenticated ∨
          reaction.session.state = .failed) := by
    intro nothing
    refine ⟨nothing, ?_⟩
    rcases session.onDatagram_cases sodium library moment bytes with
      ⟨text, exchange, _, _, same | established⟩ | kept
    · exact Or.inl (congrArg PeerSession.state same)
    · exact Or.inr (Or.inl (congrArg PeerSession.state established))
    · exact kept.state.imp id Or.inr
  cases bytes with
  | nil => exact Or.inl (quiet rfl)
  | cons tag body =>
      by_cases pairing : tag = tagPairing
      · left
        apply quiet
        subst pairing
        exact session.handlePairing_delivered moment body
      · rcases session.onDatagram_passes sodium library moment body pairing with
          ⟨plain, channel, delivery, controlReplay, authenticated, _, _, passed⟩ |
            ⟨_, channel, rejected, _, dropped⟩
        · right
          refine ⟨delivery, congrArg Reaction.delivered passed, authenticated, ?_⟩
          exact congrArg (fun reaction => reaction.session.state) passed
        · left
          apply quiet
          exact congrArg Reaction.delivered dropped

theorem PeerSession.sendMedia_state (session : PeerSession) (payload : Bytes) :
    (session.sendMedia sodium payload).session.state = session.state := by
  unfold PeerSession.sendMedia
  split
  · rfl
  · unfold PeerSession.sendSealed
    split <;> rfl

end

end SmartMic.Session
