import SmartMic.Support.Run
import SmartMic.Security.OfferBook
import SmartMic.Session.Handshake

set_option autoImplicit false

/-! A phone and a desk pair over an unreliable network. Whatever either of them has ever
sent may be handed to the other at any time, never, once or any number of times, so
that datagrams are lost, delayed, repeated and reordered; the phone may resend its
opener whenever it likes. Nobody else sends, and the offer stays in time. -/

namespace SmartMic.Session

open SmartMic.Protocol SmartMic.Security SmartMic.Media

structure Network where
  phone : PeerSession
  desk : PeerSession
  /-- Everything the phone has ever sent. -/
  toDesk : List Bytes
  /-- Everything the desk has ever sent. -/
  toPhone : List Bytes

inductive NetworkMove where
  | atDesk (index : Nat) (moment : Moment)
  | atPhone (index : Nat) (moment : Moment)
  | resend

section

variable (sodium : Sodium) (library : JsonLibrary)

def Network.start (phone desk : PeerSession) (sid code : Bytes) (scalar : Scalar)
    (book : PairingOfferBook) : Network :=
  let begun := phone.beginPairing sodium library sid code scalar
  { phone := begun.session
    desk := desk.armPairing sid code (some book)
    toDesk := begun.sent
    toPhone := [] }

def Network.handToDesk (network : Network) (moment : Moment) (datagram : Bytes) : Network :=
  let reaction := network.desk.onDatagram sodium library moment datagram
  { network with
    desk := reaction.session
    toPhone := network.toPhone ++ reaction.sent }

/-- What the phone does, with what it sends put on the way. -/
def Network.fromPhone (network : Network) (reaction : Reaction) : Network :=
  { network with
    phone := reaction.session
    toDesk := network.toDesk ++ reaction.sent }

def Network.step (network : Network) : NetworkMove → Network
  | .atDesk index moment =>
      match network.toDesk[index]? with
      | none => network
      | some datagram => network.handToDesk sodium library moment datagram
  | .atPhone index moment =>
      match network.toPhone[index]? with
      | none => network
      | some datagram =>
          network.fromPhone (network.phone.onDatagram sodium library moment datagram)
  | .resend => network.fromPhone network.phone.resendPairingHello

def pairingType : Bytes → Option Bytes
  | [] => none
  | tag :: text =>
      if tag = tagPairing then
        match readPairing library text with
        | .message type _ => some type
        | _ => none
      else none

/-- No PAIR1 reaches a desk that has established, and no PAIR2 a phone that has derived. -/
def Network.Spares (network : Network) : NetworkMove → Prop
  | .atDesk index _ =>
      ∀ datagram ∈ network.toDesk[index]?, pairingType library datagram = some (ascii "PAIR1") →
        network.desk.state ≠ .authenticated
  | .atPhone index _ =>
      ∀ datagram ∈ network.toPhone[index]?, pairingType library datagram = some (ascii "PAIR2") →
        ∀ exchange ∈ network.phone.exchange, exchange.derived = false
  | .resend => True

/-- The offer is live whenever something reaches the desk, and the scalar that the desk
may draw then is one that `scalar_random` draws. -/
def NetworkMove.Live (book : PairingOfferBook) (sid : Bytes) : NetworkMove → Prop
  | .atDesk _ moment => book.check sid moment.nowMs = .valid ∧ sodium.Usable moment.scalar
  | _ => True

end

/-- Neither session has failed, and no attempt was charged. -/
structure Network.Unharmed (attempts : BitVec 32) (network : Network) : Prop where
  phone : network.phone.state ≠ .failed
  desk : network.desk.state ≠ .failed
  attempts : network.desk.book.map PairingOfferBook.attempts = some attempts

/-! ### What every such run keeps -/

structure Meeting where
  phone : DeviceIdentity
  desk : DeviceIdentity
  sessionId : Bytes
  code : Bytes
  book : PairingOfferBook
  hello : Bytes

def Meeting.generator (sodium : Sodium) (meeting : Meeting) : GroupElement :=
  generatorFor sodium meeting.sessionId meeting.code

structure Meeting.Phone (sodium : Sodium) (library : JsonLibrary) (meeting : Meeting)
    (ours : PairingExchange) (phone : PeerSession) : Prop where
  role : phone.role = .initiator
  hello : phone.pairingHello = meeting.hello
  alive : phone.state ≠ .failed
  holds : phone.exchange = some ours
  keyed : ours.Keyed sodium meeting.phone .initiator meeting.sessionId (meeting.generator sodium)
  opened : library.dump (pair1Json sodium meeting.sessionId meeting.phone.public_ ours.ourShare) =
    some meeting.hello

structure Meeting.Desk (meeting : Meeting) (desk : PeerSession) : Prop where
  self_ : desk.self_ = meeting.desk
  role : desk.role = .responder
  pairingSessionId : desk.pairingSessionId = meeting.sessionId
  alive : desk.state ≠ .failed
  book : (desk.state ≠ .authenticated ∧ desk.book = some meeting.book) ∨
    (desk.state = .authenticated ∧ desk.book = some (meeting.book.consume meeting.sessionId))

structure Meeting.Opening (meeting : Meeting) (ours : PairingExchange) (network : Network) :
    Prop where
  fresh : ours.derived = false
  unheard : network.desk.exchange = none
  armed : network.desk.state ≠ .authenticated
  code : network.desk.pendingCode = meeting.code
  toDesk : ∀ datagram ∈ network.toDesk, datagram = tagPairing :: meeting.hello
  toPhone : network.toPhone = []

/-- The desk holds the answer to the phone's opener, and the phone has derived with that
answer or not at all. -/
structure Meeting.Answered (sodium : Sodium) (library : JsonLibrary) (meeting : Meeting)
    (ours theirs : PairingExchange) (network : Network) : Prop where
  holds : network.desk.exchange = some theirs
  keyed : theirs.Keyed sodium meeting.desk .responder meeting.sessionId
    (meeting.generator sodium)
  derived : theirs.derived = true
  theirPeer : theirs.peerPublic = meeting.phone.public_ ∧ theirs.peerShare = ours.ourShare
  ourPeer : ours.derived = true →
    ours.peerPublic = meeting.desk.public_ ∧ ours.peerShare = theirs.ourShare
  known : network.desk.havePeerPublic = true ∧ network.desk.peerPublic = meeting.phone.public_
  toDesk : ∀ datagram ∈ network.toDesk, datagram = tagPairing :: meeting.hello ∨
    (ours.derived = true ∧ ∃ text, datagram = tagPairing :: text ∧
      library.dump (pair3Json sodium (ours.authSignature sodium)) = some text)
  toPhone : ∀ datagram ∈ network.toPhone, ∃ text, datagram = tagPairing :: text ∧
    (library.dump (pair2Json sodium meeting.desk.public_ theirs.ourShare) = some text ∨
      (ours.derived = true ∧
        library.dump (pair4Json sodium (theirs.authSignature sodium)) = some text))

structure Meeting.Sound (sodium : Sodium) (library : JsonLibrary) (meeting : Meeting)
    (network : Network) : Prop where
  desk : meeting.Desk network.desk
  phase : ∃ ours, meeting.Phone sodium library ours network.phone ∧
    (meeting.Opening ours network ∨
      ∃ theirs, meeting.Answered sodium library ours theirs network)

section

variable {sodium : Sodium} {library : JsonLibrary} {meeting : Meeting} {network : Network}
  {ours theirs : PairingExchange} {moment : Moment}

theorem Network.step_atDesk {index : Nat} {datagram : Bytes}
    (found : network.toDesk[index]? = some datagram) :
    network.step sodium library (.atDesk index moment) =
      network.handToDesk sodium library moment datagram := by
  unfold Network.step
  dsimp only
  rw [found]

theorem Network.step_atPhone {index : Nat} {datagram : Bytes}
    (found : network.toPhone[index]? = some datagram) :
    network.step sodium library (.atPhone index moment) =
      network.fromPhone (network.phone.onDatagram sodium library moment datagram) := by
  unfold Network.step
  dsimp only
  rw [found]

theorem pairingType_of_dumped (documented : library.Documented) (message : PairingMessage)
    {text : Bytes} (dumped : library.dump (stringObject (message.texts sodium)) = some text) :
    pairingType library (tagPairing :: text) = some message.type := by
  unfold pairingType
  dsimp only
  rw [if_pos rfl, PairingMessage.reads documented dumped]

theorem Meeting.Sound.unharmed (sound : meeting.Sound sodium library network) :
    network.Unharmed meeting.book.attempts := by
  obtain ⟨ours, phone, -⟩ := sound.phase
  refine { phone := phone.alive, desk := sound.desk.alive, attempts := ?_ }
  rcases sound.desk.book with ⟨-, same⟩ | ⟨-, used⟩
  · rw [same]
    rfl
  · rw [used]
    unfold PairingOfferBook.consume
    split <;> rfl

theorem Meeting.Answered.facing (answered : meeting.Answered sodium library ours theirs network)
    (keyed : ours.Keyed sodium meeting.phone .initiator meeting.sessionId
      (meeting.generator sodium))
    (derived : ours.derived = true) : ours.Facing theirs :=
  { derived := ⟨derived, answered.derived⟩
    publics := by
      rw [keyed.consistent.selfPublic, answered.keyed.consistent.selfPublic]
      exact ⟨(answered.ourPeer derived).1, answered.theirPeer.1⟩
    shares := ⟨(answered.ourPeer derived).2, answered.theirPeer.2⟩ }

theorem Meeting.Desk.refusal_of_armed {desk : PeerSession} (sound : meeting.Desk desk)
    (armed : desk.state ≠ .authenticated)
    (valid : meeting.book.check meeting.sessionId moment.nowMs = .valid) :
    desk.refusal desk.pairingSessionId moment.nowMs = none := by
  have same := (sound.book.resolve_right (fun used => armed used.1)).2
  unfold PeerSession.refusal
  rw [same, sound.pairingSessionId]
  dsimp only
  rw [valid]

theorem Meeting.Desk.refusal_of_established {desk : PeerSession} (sound : meeting.Desk desk)
    (established : desk.state = .authenticated) (nowMs : BitVec 64) :
    desk.refusal desk.pairingSessionId nowMs ≠ none := by
  have used := (sound.book.resolve_left (fun armed => armed.1 established)).2
  intro open_
  unfold PeerSession.refusal at open_
  rw [used, sound.pairingSessionId] at open_
  dsimp only at open_
  split at open_
  · rename_i valid
    exact PairingOfferBook.not_closedFor_of_valid valid
      (meeting.book.closedFor_consume meeting.sessionId)
  · cases open_

theorem PairingOfferBook.consume_consume (book : PairingOfferBook) (sid : Bytes) :
    (book.consume sid).consume sid = book.consume sid := by
  unfold PairingOfferBook.consume
  split <;> rfl

theorem Meeting.Desk.establish {desk : PeerSession} (sound : meeting.Desk desk)
    (exchange : PairingExchange) : meeting.Desk (desk.establish sodium exchange) :=
  { self_ := sound.self_
    role := sound.role
    pairingSessionId := sound.pairingSessionId
    alive := SessionState.noConfusion
    book := by
      refine Or.inr ⟨rfl, ?_⟩
      unfold PeerSession.establish
      rw [sound.pairingSessionId]
      rcases sound.book with ⟨-, same⟩ | ⟨-, used⟩
      · rw [same]
        rfl
      · rw [used]
        exact congrArg some (PairingOfferBook.consume_consume meeting.book meeting.sessionId) }

/-! ### What reaches the desk -/

section

variable (documented : library.Documented) (base64 : sodium.Base64)
  (commutes : sodium.Commutes) (point : sodium.IsPoint (meeting.generator sodium))
  (phonePaired : meeting.phone.Paired sodium) (deskPaired : meeting.desk.Paired sodium)

include documented base64 point in
theorem Meeting.Opening.answer (opening : meeting.Opening ours network)
    (desk : meeting.Desk network.desk)
    (phone : meeting.Phone sodium library ours network.phone)
    (valid : meeting.book.check meeting.sessionId moment.nowMs = .valid)
    (usable : sodium.Usable moment.scalar) :
    meeting.Sound sodium library
      (network.handToDesk sodium library moment (tagPairing :: meeting.hello)) := by
  have open_ := desk.refusal_of_armed opening.armed valid
  have unanswered : ¬ network.desk.Answered meeting.phone.public_ := by
    rintro ⟨some_, -⟩
    rw [opening.unheard] at some_
    cases some_
  have armed := desk.pairingSessionId
  have opened := phone.opened
  rw [← armed] at opened
  have starts := ((PeerSession.onPair1_open library base64 meeting.phone.public_ ours.ourShare
    open_).resolve_left (fun retry => unanswered retry.choose_spec.2.1)).2
  obtain ⟨theirs, answer, keyed, derived, peerPublic, peerShare, replied, answers⟩ :=
    network.desk.startExchange_answers documented base64 usable meeting.phone.public_
      (phone.keyed.share_isPoint point)
  rw [desk.self_, desk.role, armed, opening.code] at keyed
  rw [desk.self_] at replied
  unfold Network.handToDesk
  dsimp only
  rw [PeerSession.hears_pair1 documented desk.role opened, starts, answers]
  exact
    { desk :=
        { self_ := desk.self_
          role := desk.role
          pairingSessionId := desk.pairingSessionId
          alive := desk.alive
          book := desk.book }
      phase := ⟨ours, phone, Or.inr ⟨theirs,
        { holds := rfl
          keyed := keyed
          derived := derived
          theirPeer := ⟨peerPublic, peerShare⟩
          ourPeer := by
            intro impossible
            rw [opening.fresh] at impossible
            cases impossible
          known := ⟨rfl, rfl⟩
          toDesk := fun datagram member => Or.inl (opening.toDesk datagram member)
          toPhone := by
            intro datagram member
            have only : datagram = tagPairing :: answer := by
              rw [opening.toPhone] at member
              exact List.mem_singleton.mp member
            exact ⟨answer, only, Or.inl replied⟩ }⟩⟩ }

theorem Meeting.Answered.replies (answered : meeting.Answered sodium library ours theirs network)
    {desk : PeerSession} {text : Bytes} (exchange : desk.exchange = network.desk.exchange)
    (peer : desk.havePeerPublic = network.desk.havePeerPublic ∧
      desk.peerPublic = network.desk.peerPublic)
    (answer : library.dump (pair2Json sodium meeting.desk.public_ theirs.ourShare) = some text ∨
      (ours.derived = true ∧
        library.dump (pair4Json sodium (theirs.authSignature sodium)) = some text)) :
    meeting.Answered sodium library ours theirs
      { network with
        desk := desk
        toPhone := network.toPhone ++ [tagPairing :: text] } where
  holds := exchange.trans answered.holds
  keyed := answered.keyed
  derived := answered.derived
  theirPeer := answered.theirPeer
  ourPeer := answered.ourPeer
  known := ⟨peer.1.trans answered.known.1, peer.2.trans answered.known.2⟩
  toDesk := answered.toDesk
  toPhone := by
    intro datagram member
    rcases List.mem_append.mp member with old | new
    · exact answered.toPhone datagram old
    · exact ⟨text, List.mem_singleton.mp new, answer⟩

include documented base64 in
/-- A later one is answered with the same exchange, as long as the offer is not used. -/
theorem Meeting.Answered.retry (answered : meeting.Answered sodium library ours theirs network)
    (desk : meeting.Desk network.desk)
    (phone : meeting.Phone sodium library ours network.phone)
    (armed : network.desk.state ≠ .authenticated)
    (valid : meeting.book.check meeting.sessionId moment.nowMs = .valid) :
    meeting.Sound sodium library
      (network.handToDesk sodium library moment (tagPairing :: meeting.hello)) := by
  have open_ := desk.refusal_of_armed armed valid
  have known : network.desk.Answered meeting.phone.public_ :=
    ⟨by rw [answered.holds]; rfl, answered.known⟩
  have opened := phone.opened
  rw [← desk.pairingSessionId] at opened
  obtain ⟨exchange, held, -, retries⟩ := (PeerSession.onPair1_open library base64
    meeting.phone.public_ ours.ourShare open_).resolve_right (fun new => new.1 known)
  cases answered.holds.symm.trans held
  obtain ⟨answer, replied⟩ :=
    pair2Json_dumps documented base64 network.desk.self_.public_ theirs.ourShare
  rw [PeerSession.sendPairingJson_saying replied] at retries
  rw [desk.self_] at replied
  unfold Network.handToDesk
  dsimp only
  rw [PeerSession.hears_pair1 documented desk.role opened, retries]
  exact
    { desk := desk
      phase := ⟨ours, phone, Or.inr ⟨theirs, answered.replies rfl ⟨rfl, rfl⟩ (Or.inl replied)⟩⟩ }

include documented base64 commutes point phonePaired deskPaired in
/-- The phone's signature establishes the desk, once more if it is repeated. -/
theorem Meeting.Answered.proof (answered : meeting.Answered sodium library ours theirs network)
    (desk : meeting.Desk network.desk)
    (phone : meeting.Phone sodium library ours network.phone) (derived : ours.derived = true)
    {text : Bytes}
    (dumped : library.dump (pair3Json sodium (ours.authSignature sodium)) = some text) :
    meeting.Sound sodium library
      (network.handToDesk sodium library moment (tagPairing :: text)) := by
  obtain ⟨verified, -⟩ := (answered.facing phone.keyed derived).verify phone.keyed answered.keyed
    point commutes phonePaired deskPaired
  obtain ⟨confirmation, confirmed, establishes⟩ :=
    PeerSession.onPair3_verified documented base64 answered.holds verified
  unfold Network.handToDesk
  dsimp only
  rw [PeerSession.hears_pair3 moment documented desk.role dumped, establishes]
  exact
    { desk := desk.establish theirs
      phase := ⟨ours, phone, Or.inr ⟨theirs,
        answered.replies rfl ⟨rfl, rfl⟩ (Or.inr ⟨derived, confirmed⟩)⟩⟩ }

/-! ### What reaches the phone -/

include documented base64 point in
theorem Meeting.Answered.take (answered : meeting.Answered sodium library ours theirs network)
    (desk : meeting.Desk network.desk)
    (phone : meeting.Phone sodium library ours network.phone) (fresh : ours.derived = false)
    {text : Bytes}
    (dumped : library.dump (pair2Json sodium meeting.desk.public_ theirs.ourShare) = some text) :
    meeting.Sound sodium library
      (network.fromPhone (network.phone.onDatagram sodium library moment
        (tagPairing :: text))) := by
  obtain ⟨taken, signed, keyed, took, replied, takes⟩ :=
    PeerSession.takes_pair2 moment documented base64 phone.role phone.holds phone.keyed fresh
      (answered.keyed.share_isPoint point) dumped
  unfold Network.fromPhone
  rw [takes]
  exact
    { desk := desk
      phase := ⟨taken,
        { role := phone.role
          hello := phone.hello
          alive := phone.alive
          holds := rfl
          keyed := keyed
          opened := by
            rw [took.ourShare]
            exact phone.opened },
        Or.inr ⟨theirs,
          { holds := answered.holds
            keyed := answered.keyed
            derived := answered.derived
            theirPeer := ⟨answered.theirPeer.1, answered.theirPeer.2.trans took.ourShare.symm⟩
            ourPeer := fun _derived => ⟨took.peerPublic, took.peerShare⟩
            known := answered.known
            toDesk := by
              intro datagram member
              rcases List.mem_append.mp member with old | new
              · rcases answered.toDesk datagram old with hello | ⟨derived, -⟩
                · exact Or.inl hello
                · rw [fresh] at derived
                  cases derived
              · exact Or.inr ⟨took.derived, signed, List.mem_singleton.mp new, replied⟩
            toPhone := by
              intro datagram member
              obtain ⟨answer, same, answers | ⟨derived, -⟩⟩ := answered.toPhone datagram member
              · exact ⟨answer, same, Or.inl answers⟩
              · rw [fresh] at derived
                cases derived }⟩⟩ }

include documented base64 commutes point phonePaired deskPaired in
theorem Meeting.Answered.close (answered : meeting.Answered sodium library ours theirs network)
    (desk : meeting.Desk network.desk)
    (phone : meeting.Phone sodium library ours network.phone) (derived : ours.derived = true)
    {text : Bytes}
    (dumped : library.dump (pair4Json sodium (theirs.authSignature sodium)) = some text) :
    meeting.Sound sodium library
      (network.fromPhone (network.phone.onDatagram sodium library moment
        (tagPairing :: text))) := by
  obtain ⟨-, verified⟩ := (answered.facing phone.keyed derived).verify phone.keyed answered.keyed
    point commutes phonePaired deskPaired
  unfold Network.fromPhone
  rw [PeerSession.hears_pair4 moment documented phone.role dumped,
    PeerSession.onPair4_verified base64 phone.holds verified]
  unfold Reaction.quiet
  dsimp only
  rw [List.append_nil]
  exact
    { desk := desk
      phase := ⟨ours,
        { role := phone.role
          hello := phone.hello
          alive := SessionState.noConfusion
          holds := phone.holds
          keyed := phone.keyed
          opened := phone.opened },
        Or.inr ⟨theirs,
          { holds := answered.holds
            keyed := answered.keyed
            derived := answered.derived
            theirPeer := answered.theirPeer
            ourPeer := answered.ourPeer
            known := answered.known
            toDesk := answered.toDesk
            toPhone := answered.toPhone }⟩⟩ }

theorem Meeting.Sound.resend (sound : meeting.Sound sodium library network) :
    meeting.Sound sodium library (network.fromPhone network.phone.resendPairingHello) := by
  obtain ⟨ours, phone, phase⟩ := sound.phase
  -- the phone is as it was, and nothing but its opener is sent again
  have resent : network.phone.resendPairingHello.session = network.phone ∧
      ∀ datagram ∈ network.phone.resendPairingHello.sent,
        datagram = tagPairing :: meeting.hello := by
    unfold PeerSession.resendPairingHello
    split
    · exact ⟨rfl, fun _datagram member => absurd member List.not_mem_nil⟩
    · refine ⟨rfl, fun datagram member => ?_⟩
      rw [List.mem_singleton.mp member, phone.hello]
  obtain ⟨same, hello⟩ := resent
  unfold Network.fromPhone
  rw [same]
  refine { desk := sound.desk, phase := ⟨ours, phone, ?_⟩ }
  rcases phase with opening | ⟨theirs, answered⟩
  · left
    exact
      { fresh := opening.fresh
        unheard := opening.unheard
        armed := opening.armed
        code := opening.code
        toDesk := by
          intro datagram member
          rcases List.mem_append.mp member with old | new
          · exact opening.toDesk datagram old
          · exact hello datagram new
        toPhone := opening.toPhone }
  · right
    exact ⟨theirs,
      { holds := answered.holds
        keyed := answered.keyed
        derived := answered.derived
        theirPeer := answered.theirPeer
        ourPeer := answered.ourPeer
        known := answered.known
        toDesk := by
          intro datagram member
          rcases List.mem_append.mp member with old | new
          · exact answered.toDesk datagram old
          · exact Or.inl (hello datagram new)
        toPhone := answered.toPhone }⟩

include documented base64 commutes point phonePaired deskPaired in
theorem Meeting.Sound.step (sound : meeting.Sound sodium library network) {move : NetworkMove}
    (live : move.Live sodium meeting.book meeting.sessionId)
    (spares : network.Spares library move) :
    meeting.Sound sodium library (network.step sodium library move) := by
  obtain ⟨ours, phone, phase⟩ := sound.phase
  cases move with
  | resend => exact sound.resend
  | atDesk index moment =>
      obtain ⟨valid, usable⟩ := live
      cases found : network.toDesk[index]? with
      | none =>
          unfold Network.step
          dsimp only
          rw [found]
          exact sound
      | some datagram =>
          have member := List.mem_of_getElem? found
          rw [Network.step_atDesk found]
          rcases phase with opening | ⟨theirs, answered⟩
          · rw [opening.toDesk datagram member]
            exact opening.answer documented base64 point sound.desk phone valid usable
          · rcases answered.toDesk datagram member with hello | ⟨derived, text, proof, dumped⟩
            · have armed : network.desk.state ≠ .authenticated := by
                apply spares datagram found
                rw [hello]
                exact pairingType_of_dumped documented (.pair1 _ _ _) phone.opened
              rw [hello]
              exact answered.retry documented base64 sound.desk phone armed valid
            · rw [proof]
              exact answered.proof documented base64 commutes point phonePaired deskPaired
                sound.desk phone derived dumped
  | atPhone index moment =>
      cases found : network.toPhone[index]? with
      | none =>
          unfold Network.step
          dsimp only
          rw [found]
          exact sound
      | some datagram =>
          have member := List.mem_of_getElem? found
          rw [Network.step_atPhone found]
          rcases phase with opening | ⟨theirs, answered⟩
          · rw [opening.toPhone] at member
            exact absurd member List.not_mem_nil
          · obtain ⟨text, same, answers | ⟨derived, dumped⟩⟩ :=
              answered.toPhone datagram member
            · have fresh : ours.derived = false := by
                apply spares datagram found _ ours phone.holds
                rw [same]
                exact pairingType_of_dumped documented (.pair2 _ _) answers
              rw [same]
              exact answered.take documented base64 point sound.desk phone fresh answers
            · rw [same]
              exact answered.close documented base64 commutes point phonePaired deskPaired
                sound.desk phone derived dumped

include documented base64 in
/-- A PAIR1 at a desk that has established fails it, and so does a PAIR2 at a phone that
has derived. -/
theorem Meeting.Sound.spares (sound : meeting.Sound sodium library network)
    {move : NetworkMove}
    (unharmed : (network.step sodium library move).Unharmed meeting.book.attempts) :
    network.Spares library move := by
  obtain ⟨ours, phone, phase⟩ := sound.phase
  cases move with
  | resend => trivial
  | atDesk index moment =>
      intro datagram found type established
      have survived := unharmed.desk
      rw [Network.step_atDesk found] at survived
      rcases phase with opening | ⟨theirs, answered⟩
      · exact opening.armed established
      · rcases answered.toDesk datagram (List.mem_of_getElem? found) with
          hello | ⟨-, text, proof, dumped⟩
        · have opened := phone.opened
          rw [← sound.desk.pairingSessionId] at opened
          rw [hello] at survived
          unfold Network.handToDesk at survived
          dsimp only at survived
          rw [PeerSession.hears_pair1 documented sound.desk.role opened] at survived
          exact survived (PeerSession.onPair1_refused documented _ _
            (sound.desk.refusal_of_established established moment.nowMs))
        · rw [proof, pairingType_of_dumped documented (.pair3 _) dumped] at type
          have other : ascii "PAIR3" ≠ ascii "PAIR1" := by decide
          exact absurd (Option.some.inj type) other
  | atPhone index moment =>
      intro datagram found type exchange held
      cases phone.holds.symm.trans held
      by_contra derived
      rw [Bool.not_eq_false] at derived
      have survived := unharmed.phone
      rw [Network.step_atPhone found] at survived
      have member := List.mem_of_getElem? found
      rcases phase with opening | ⟨theirs, answered⟩
      · rw [opening.toPhone] at member
        exact absurd member List.not_mem_nil
      · obtain ⟨text, same, answers | ⟨-, dumped⟩⟩ := answered.toPhone datagram member
        · rw [same] at survived
          unfold Network.fromPhone at survived
          dsimp only at survived
          rw [PeerSession.hears_pair2 documented phone.role answers] at survived
          exact survived (PeerSession.onPair2_repeated base64 _ _ phone.holds derived)
        · rw [same, pairingType_of_dumped documented (.pair4 _) dumped] at type
          have other : ascii "PAIR4" ≠ ascii "PAIR2" := by decide
          exact absurd (Option.some.inj type) other

include documented base64 commutes point phonePaired deskPaired in
theorem Meeting.Sound.survives_iff (sound : meeting.Sound sodium library network)
    (moves : List NetworkMove)
    (live : ∀ move ∈ moves, move.Live sodium meeting.book meeting.sessionId) :
    Run.Throughout (Network.step sodium library) (Network.Unharmed meeting.book.attempts) network
        moves ↔
      Run.Meets (Network.step sodium library) (Network.Spares library) network moves := by
  apply Run.throughout_iff_meets_given (meeting.Sound sodium library)
  · intro network sound
    exact sound.unharmed
  · intro network move live sound spares
    exact sound.step documented base64 commutes point phonePaired deskPaired live spares
  · intro network move _live sound unharmed
    exact sound.spares documented base64 unharmed
  · exact live
  · exact sound

end

/-- In every run of the network with a live offer, neither session fails and no attempt is
charged, exactly when no PAIR1 reaches a desk that has established and no PAIR2 a phone
that has derived. -/
theorem pairing_survives_network_iff (documented : library.Documented) (base64 : sodium.Base64)
    (commutes : sodium.Commutes) {phone desk : PeerSession} (initiator : phone.role = .initiator)
    (responder : desk.role = .responder) (phonePaired : phone.self_.Paired sodium)
    (deskPaired : desk.self_.Paired sodium) (sid code : Bytes)
    (point : sodium.IsPoint (generatorFor sodium sid code)) {scalar : Scalar}
    (usable : sodium.Usable scalar)
    (returns : (phone.beginPairing sodium library sid code scalar).threw = false)
    (book : PairingOfferBook) (moves : List NetworkMove)
    (live : ∀ move ∈ moves, move.Live sodium book sid) :
    Run.Throughout (Network.step sodium library) (Network.Unharmed book.attempts)
        (Network.start sodium library phone desk sid code scalar book) moves ↔
      Run.Meets (Network.step sodium library) (Network.Spares library)
        (Network.start sodium library phone desk sid code scalar book) moves := by
  obtain ⟨ours, hello, keyed, fresh, -, opened, begins⟩ :=
    PeerSession.beginPairing_opens initiator usable returns
  let meeting : Meeting :=
    { phone := phone.self_
      desk := desk.self_
      sessionId := sid
      code := code
      book := book
      hello := hello }
  have meetingPoint : sodium.IsPoint (meeting.generator sodium) := by
    unfold Meeting.generator
    exact point
  have sound : meeting.Sound sodium library
      (Network.start sodium library phone desk sid code scalar book) := by
    unfold Network.start
    rw [begins]
    exact
      { desk :=
          { self_ := rfl
            role := responder
            pairingSessionId := rfl
            alive := SessionState.noConfusion
            book := Or.inl ⟨SessionState.noConfusion, rfl⟩ }
        phase := ⟨ours,
          { role := initiator
            hello := rfl
            alive := SessionState.noConfusion
            holds := rfl
            keyed := keyed
            opened := opened },
          Or.inl
            { fresh := fresh
              unheard := rfl
              armed := SessionState.noConfusion
              code := rfl
              toDesk := fun _datagram member => List.mem_singleton.mp member
              toPhone := rfl }⟩ }
  exact sound.survives_iff documented base64 commutes meetingPoint phonePaired deskPaired moves
    live

end

/-! ### Two concrete runs -/

instance (library : JsonLibrary) (network : Network) :
    (move : NetworkMove) → Decidable (network.Spares library move)
  | .atDesk index _ =>
      inferInstanceAs (Decidable (∀ datagram ∈ network.toDesk[index]?, _ → _))
  | .atPhone index _ =>
      inferInstanceAs (Decidable (∀ datagram ∈ network.toPhone[index]?, _ → _))
  | .resend => inferInstanceAs (Decidable True)

section

open SmartMic.StandIn SmartMic.Session.StandIn

theorem network_live (moves : List NetworkMove)
    (timely : ∀ index other, NetworkMove.atDesk index other ∈ moves → other = moment) :
    ∀ move ∈ moves, move.Live sodium book sessionId := by
  intro move member
  cases move with
  | atDesk index other =>
      rw [timely index other member]
      constructor
      · decide +kernel
      · exact sodium_usable moment.scalar
  | atPhone index other => trivial
  | resend => trivial

/-- The opener is sent twice, the first PAIR2 is lost, the PAIR3 arrives twice and the
first PAIR4 is lost. -/
def lossyNetwork : List NetworkMove :=
  [.resend, .atDesk 1 moment, .atDesk 0 moment, .atPhone 1 moment, .atDesk 2 moment,
    .atDesk 2 moment, .atPhone 3 moment]

theorem pairing_survives_network_iff_lossy :
    Run.Throughout (Network.step sodium json) (Network.Unharmed book.attempts)
      (Network.start sodium json phone desk sessionId code (scalar 3) book) lossyNetwork := by
  have live : ∀ move ∈ lossyNetwork, move.Live sodium book sessionId := by
    apply network_live
    intro index other member
    simp [lossyNetwork] at member
    rcases member with ⟨-, same⟩ | ⟨-, same⟩ | ⟨-, same⟩ <;> exact same
  have returns : (phone.beginPairing sodium json sessionId code (scalar 3)).threw = false := by
    decide +kernel
  have spares : Run.Meets (Network.step sodium json) (Network.Spares json)
      (Network.start sodium json phone desk sessionId code (scalar 3) book) lossyNetwork := by
    decide +kernel
  exact (pairing_survives_network_iff json_documented sodium_base64 sodium_commutes
    (rfl : phone.role = .initiator) (rfl : desk.role = .responder) (identity_paired 1)
    (identity_paired 2) sessionId code (element_isPoint _) (sodium_usable (scalar 3)) returns
    book lossyNetwork live).mpr spares

def resentOpener : List NetworkMove :=
  [.resend, .atDesk 0 moment, .atDesk 1 moment, .atPhone 0 moment, .atPhone 1 moment]

/-- The second PAIR2 fails the phone. -/
theorem resent_opener_fails_phone :
    (∀ move ∈ resentOpener, move.Live sodium book sessionId) ∧
      ¬ Run.Throughout (Network.step sodium json) (Network.Unharmed book.attempts)
        (Network.start sodium json phone desk sessionId code (scalar 3) book) resentOpener := by
  constructor
  · apply network_live
    intro index other member
    simp [resentOpener] at member
    rcases member with ⟨-, same⟩ | ⟨-, same⟩ <;> exact same
  · intro unharmed
    have last := (Run.throughout_iff_prefix _ _ _ _).mp unharmed resentOpener List.prefix_rfl
    have failed : (Run.final (Network.step sodium json)
        (Network.start sodium json phone desk sessionId code (scalar 3) book)
        resentOpener).phone.state = .failed := by
      decide +kernel
    exact last.phone failed

end

end SmartMic.Session
