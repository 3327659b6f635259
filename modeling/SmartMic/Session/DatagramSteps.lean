import SmartMic.Session.PairingSteps

set_option autoImplicit false

/-! What a datagram of any kind can do to a session. Only a completed exchange changes
its key or lets it become authenticated. -/

namespace SmartMic.Session

open SmartMic.Protocol SmartMic.Security SmartMic.Media

/-- A datagram that completes no exchange keeps the key, the identity and the offer; it
may fail the session and charge an attempt. -/
structure PeerSession.Kept (before after : PeerSession) : Prop where
  self_ : after.self_ = before.self_
  role : after.role = before.role
  pairingSessionId : after.pairingSessionId = before.pairingSessionId
  pendingCode : after.pendingCode = before.pendingCode
  sessionKey : after.sessionKey = before.sessionKey
  state : after.state = before.state ∨ after.state = .failed
  book : after.book = before.book ∨
    after.book = before.book.map fun book => book.noteFailedAttempt before.pairingSessionId

theorem PeerSession.Touched.kept {before after : PeerSession} (touched : before.Touched after) :
    before.Kept after :=
  { self_ := touched.self_
    role := touched.role
    pairingSessionId := touched.pairingSessionId
    pendingCode := touched.pendingCode
    sessionKey := touched.sessionKey
    state := touched.state
    book := touched.book }

/-- An opened body is passed on according to its tag; a control message only when its
number is fresh. -/
inductive PeerSession.Passes (library : JsonLibrary) (session : PeerSession) :
    UInt8 → Bytes → Delivery → ReplayWindow 512 → Prop
  | media (plain : Bytes) :
      PeerSession.Passes library session tagMedia plain (.media plain) session.controlReplay
  | control (plain : Bytes) (message : Message) (controlReplay : ReplayWindow 512)
      (decoded : decode library plain = .ok message)
      (fresh : session.controlReplay.accept message.seq = (true, controlReplay)) :
      PeerSession.Passes library session tagControl plain (.control message) controlReplay

section

variable (sodium : Sodium) (library : JsonLibrary)

theorem PeerSession.Passes.cases {session : PeerSession} {tag : UInt8} {plain : Bytes}
    {delivery : Delivery} {controlReplay : ReplayWindow 512}
    (passes : session.Passes library tag plain delivery controlReplay) :
    (tag = tagMedia ∧ delivery = .media plain ∧ controlReplay = session.controlReplay) ∨
    (tag = tagControl ∧ ∃ message, decode library plain = .ok message ∧
      session.controlReplay.accept message.seq = (true, controlReplay) ∧
      delivery = .control message) := by
  cases passes with
  | media => exact Or.inl ⟨rfl, rfl, rfl⟩
  | control _ message _ decoded fresh => exact Or.inr ⟨rfl, message, decoded, fresh, rfl⟩

theorem PeerSession.dispatch_cases (session : PeerSession) (tag : UInt8) (plain : Bytes) :
    (∃ delivery controlReplay, session.Passes library tag plain delivery controlReplay ∧
      session.dispatch library tag plain =
        { session := { session with controlReplay := controlReplay }
          sent := []
          delivered := [delivery]
          threw := false }) ∨
    ((∀ delivery controlReplay, ¬ session.Passes library tag plain delivery controlReplay) ∧
      session.dispatch library tag plain = session.reject) := by
  unfold PeerSession.dispatch
  by_cases media : tag = tagMedia
  · rw [if_pos media, media]
    exact Or.inl ⟨_, _, PeerSession.Passes.media plain, rfl⟩
  · rw [if_neg media]
    by_cases control : tag = tagControl
    · rw [if_pos control]
      cases decoded : decode library plain with
      | error problem =>
          refine Or.inr ⟨fun delivery controlReplay passes => ?_, rfl⟩
          rcases passes.cases with ⟨isMedia, _⟩ | ⟨_, message, read, _⟩
          · exact media isMedia
          · rw [decoded] at read
            cases read
      | ok message =>
          dsimp only
          rcases accepted : session.controlReplay.accept message.seq with ⟨fresh, controlReplay⟩
          cases fresh with
          | true =>
              have passes := PeerSession.Passes.control plain message _ decoded accepted
              rw [control]
              exact Or.inl ⟨_, _, passes, rfl⟩
          | false =>
              have kept : (session.controlReplay.accept message.seq).2 = session.controlReplay :=
                ReplayWindow.accept_refused (by rw [accepted])
              rw [accepted] at kept
              dsimp only at kept
              right
              constructor
              · intro delivery after passes
                rcases passes.cases with ⟨isMedia, _⟩ | ⟨_, other, read, taken, _⟩
                · exact media isMedia
                · rw [decoded] at read
                  cases read
                  rw [accepted] at taken
                  cases taken
              · rw [kept]
    · rw [if_neg control]
      refine Or.inr ⟨fun delivery controlReplay passes => ?_, rfl⟩
      rcases passes.cases with ⟨isMedia, _⟩ | ⟨isControl, _⟩
      · exact media isMedia
      · exact control isControl

/-- Every sealed datagram: its body opened and was passed on, or it could not be and the
control window is as it was. -/
theorem PeerSession.onDatagram_passes (session : PeerSession) (moment : Moment) {tag : UInt8}
    (body : Bytes) (foreign : tag ≠ tagPairing) :
    let reaction := session.onDatagram sodium library moment (tag :: body)
    (∃ plain channel delivery controlReplay,
      session.state = .authenticated ∧
      session.channel.open_ sodium body = (some plain, channel) ∧
      session.Passes library tag plain delivery controlReplay ∧
      reaction =
        { session := { session with channel := channel, controlReplay := controlReplay }
          sent := []
          delivered := [delivery]
          threw := false }) ∨
    ((∀ plain, session.state = .authenticated →
        (session.channel.open_ sodium body).1 = some plain →
        ∀ delivery controlReplay,
          ¬ session.Passes library tag plain delivery controlReplay) ∧
      ∃ channel rejected,
        (channel = session.channel ∨ channel = (session.channel.open_ sodium body).2) ∧
        reaction = .quiet { session with channel := channel, rejected := rejected }) := by
  intro reaction
  have unfolded : reaction = session.onDatagram sodium library moment (tag :: body) := rfl
  unfold PeerSession.onDatagram at unfolded
  dsimp only at unfolded
  rw [if_neg foreign] at unfolded
  by_cases authenticated : session.state ≠ .authenticated
  · rw [if_pos authenticated] at unfolded
    exact Or.inr ⟨fun _ other => absurd other authenticated, session.channel, _, Or.inl rfl,
      unfolded⟩
  · rw [if_neg authenticated] at unfolded
    rcases opened : session.channel.open_ sodium body with ⟨plain, channel⟩
    rw [opened] at unfolded
    cases plain with
    | none =>
        refine Or.inr ⟨fun plain _ impossible => ?_, channel, _, Or.inr rfl, unfolded⟩
        cases impossible
    | some plain =>
        dsimp only at unfolded
        have same : ∀ delivery controlReplay,
            PeerSession.Passes library { session with channel := channel } tag plain delivery
              controlReplay ↔ session.Passes library tag plain delivery controlReplay := by
          intro delivery controlReplay
          constructor <;> intro passes
          · cases passes with
            | media => exact PeerSession.Passes.media plain
            | control _ message _ decoded fresh =>
                exact PeerSession.Passes.control plain message _ decoded fresh
          · cases passes with
            | media => exact PeerSession.Passes.media plain
            | control _ message _ decoded fresh =>
                exact PeerSession.Passes.control plain message _ decoded fresh
        rcases PeerSession.dispatch_cases library { session with channel := channel } tag plain
          with ⟨delivery, controlReplay, passes, dispatched⟩ | ⟨stopped, dropped⟩
        · left
          exact ⟨plain, channel, delivery, controlReplay, not_not.mp authenticated, rfl,
            (same _ _).mp passes, unfolded.trans dispatched⟩
        · right
          refine ⟨?_, channel, _, Or.inr rfl, unfolded.trans dropped⟩
          intro other _ given delivery controlReplay passes
          cases given
          exact stopped _ _ ((same _ _).mpr passes)

theorem PeerSession.onDatagram_sealed (session : PeerSession) (moment : Moment) {tag : UInt8}
    (body : Bytes) (foreign : tag ≠ tagPairing) :
    (session.onDatagram sodium library moment (tag :: body)).sent = [] ∧
    ∃ channel controlReplay rejected,
      (session.onDatagram sodium library moment (tag :: body)).session =
        { session with
          channel := channel
          controlReplay := controlReplay
          rejected := rejected } := by
  rcases session.onDatagram_passes sodium library moment body foreign with
    ⟨plain, channel, delivery, controlReplay, -, -, -, passed⟩ | ⟨-, channel, rejected, -, dropped⟩
  · rw [passed]
    exact ⟨rfl, channel, controlReplay, session.rejected, rfl⟩
  · rw [dropped]
    exact ⟨rfl, channel, session.controlReplay, rejected, rfl⟩

theorem PeerSession.react_sends (session : PeerSession) {input : SessionInput}
    (sends : (∃ message, input = .sendControl message) ∨ ∃ payload, input = .sendMedia payload) :
    (∃ channel, (session.react sodium library input).session =
      { session with channel := channel }) ∧
    ∀ datagram ∈ (session.react sodium library input).sent,
      ∃ tag body, datagram = tag :: body ∧ tag ≠ tagPairing := by
  have sealed_ : ∀ tag plain, tag ≠ tagPairing →
      (∃ channel, (session.sendSealed sodium tag plain).session =
        { session with channel := channel }) ∧
      ∀ datagram ∈ (session.sendSealed sodium tag plain).sent,
        ∃ tag body, datagram = tag :: body ∧ tag ≠ tagPairing := by
    intro tag plain foreign
    unfold PeerSession.sendSealed
    split
    · exact ⟨⟨_, rfl⟩, fun _ member => absurd member List.not_mem_nil⟩
    · rename_i packet channel _sealed
      refine ⟨⟨channel, rfl⟩, fun datagram member => ?_⟩
      exact ⟨tag, packet, List.mem_singleton.mp member, foreign⟩
  have quiet : (∃ channel, session = { session with channel := channel }) ∧
      ∀ datagram ∈ ([] : List Bytes), ∃ tag body, datagram = tag :: body ∧ tag ≠ tagPairing :=
    ⟨⟨session.channel, rfl⟩, fun _ member => absurd member List.not_mem_nil⟩
  rcases sends with ⟨message, rfl⟩ | ⟨payload, rfl⟩
  · unfold PeerSession.react PeerSession.sendControl
    dsimp only
    split
    · exact quiet
    · split
      · exact quiet
      · exact sealed_ tagControl _ (by decide)
  · unfold PeerSession.react PeerSession.sendMedia
    dsimp only
    split
    · exact quiet
    · exact sealed_ tagMedia _ (by decide)

/-- Every datagram completes an exchange or keeps the session. -/
theorem PeerSession.onDatagram_cases (session : PeerSession) (moment : Moment)
    (datagram : Bytes) :
    (∃ text exchange, datagram = tagPairing :: text ∧
      session.completes sodium library text = some exchange ∧
      ((session.onDatagram sodium library moment datagram).session = session ∨
        (session.onDatagram sodium library moment datagram).session =
          session.establish sodium exchange)) ∨
    session.Kept (session.onDatagram sodium library moment datagram).session := by
  cases datagram with
  | nil => exact Or.inr session.reject_touched.kept
  | cons tag body =>
      by_cases pairing : tag = tagPairing
      · subst pairing
        change (∃ text exchange, tagPairing :: body = tagPairing :: text ∧
            session.completes sodium library text = some exchange ∧
            ((session.handlePairing sodium library moment body).session = session ∨
              (session.handlePairing sodium library moment body).session =
                session.establish sodium exchange)) ∨
          session.Kept (session.handlePairing sodium library moment body).session
        rcases @PeerSession.handlePairing_cases sodium library session moment body with
          ⟨exchange, completed, outcome⟩ | ⟨_, touched⟩
        · exact Or.inl ⟨body, exchange, rfl, completed, outcome⟩
        · exact Or.inr touched.kept
      · obtain ⟨_, channel, controlReplay, rejected, reached⟩ :=
          session.onDatagram_sealed sodium library moment body pairing
        right
        rw [reached]
        exact { self_ := rfl, role := rfl, pairingSessionId := rfl, pendingCode := rfl
                sessionKey := rfl, state := Or.inl rfl, book := Or.inl rfl }

/-- No datagram changes whose session it is, its role, or what it is armed for. -/
theorem PeerSession.onDatagram_identity (session : PeerSession) (moment : Moment)
    (datagram : Bytes) :
    (session.onDatagram sodium library moment datagram).session.self_ = session.self_ ∧
      (session.onDatagram sodium library moment datagram).session.role = session.role ∧
      (session.onDatagram sodium library moment datagram).session.pairingSessionId =
        session.pairingSessionId := by
  rcases session.onDatagram_cases sodium library moment datagram with
    ⟨text, exchange, -, -, same | same⟩ | kept
  · rw [same]
    exact ⟨rfl, rfl, rfl⟩
  · rw [same]
    exact ⟨rfl, rfl, rfl⟩
  · exact ⟨kept.self_, kept.role, kept.pairingSessionId⟩

end

end SmartMic.Session
