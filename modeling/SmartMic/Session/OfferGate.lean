import SmartMic.Support.Run
import SmartMic.Security.OfferBook
import SmartMic.Session.DatagramSteps
import SmartMic.Session.StandIn

set_option autoImplicit false

/-! A responder and the owner of its offer book. The book is checked when a PAIR1
arrives and not again when the PAIR3 does, so what becomes of the offer in between
decides whether it gates authentication. -/

namespace SmartMic.Session

open SmartMic.Protocol SmartMic.Security

/-- A move of the session to Authenticated, or to another key: the offer that had been
issued last, and what the session's book said of it. -/
structure Admission where
  offer : Nat
  status : Option OfferStatus
  deriving DecidableEq

structure OfferWorld where
  session : PeerSession
  book : PairingOfferBook
  issued : Nat
  admissions : List Admission

def OfferWorld.create (self_ : DeviceIdentity) (policy : PairingPolicy) : OfferWorld :=
  { session := PeerSession.create self_ .responder
    book := PairingOfferBook.create policy
    issued := 0
    admissions := [] }

inductive OfferInput where
  | datagram (moment : Moment) (bytes : Bytes)
  | armPairing (sessionId code : Bytes) (withBook : Bool)
  | issue (sessionId code : Bytes) (nowMs : BitVec 64)
  | verify (sessionId code : Bytes) (nowMs : BitVec 64)
  | noteFailedAttempt (sessionId : Bytes)
  | consume (sessionId : Bytes)
  | clear

/-- The owner works on the book that the session may point to. -/
def OfferWorld.work (world : OfferWorld) (change : PairingOfferBook → PairingOfferBook) :
    OfferWorld :=
  { world with
    session := world.session.withBook change
    book := change world.book }

/-- The session became authenticated, or authenticated under another key. -/
def PeerSession.Admits (before after : PeerSession) : Prop :=
  after.state = .authenticated ∧
    (before.state ≠ .authenticated ∨ after.sessionKey ≠ before.sessionKey)

instance (before after : PeerSession) : Decidable (before.Admits after) :=
  inferInstanceAs (Decidable (_ ∧ _))

/-- What the session's book says of the pairing it is armed for. -/
def PeerSession.offerStatus (session : PeerSession) (nowMs : BitVec 64) : Option OfferStatus :=
  session.book.map fun book => book.check session.pairingSessionId nowMs

section

variable (sodium : Sodium) (library : JsonLibrary)

def OfferWorld.step (world : OfferWorld) : OfferInput → OfferWorld
  | .datagram moment bytes =>
      let after := (world.session.onDatagram sodium library moment bytes).session
      { session := after
        book := after.book.getD world.book
        issued := world.issued
        admissions :=
          if world.session.Admits after then
            { offer := world.issued, status := world.session.offerStatus moment.nowMs } ::
              world.admissions
          else world.admissions }
  | .armPairing sessionId code withBook =>
      { world with
        session := world.session.armPairing sessionId code
          (if withBook then some world.book else none) }
  | .issue sessionId code nowMs =>
      { world.work (fun book => book.issue sessionId code nowMs) with issued := world.issued + 1 }
  | .verify sessionId code nowMs => world.work fun book => (book.verify sessionId code nowMs).2
  | .noteFailedAttempt sessionId => world.work fun book => book.noteFailedAttempt sessionId
  | .consume sessionId => world.work fun book => book.consume sessionId
  | .clear => world.work fun book => book.clear

/-- What the steps below keep: a PAIR3 that verifies finds the offer still valid, or repeats
the exchange that the session is authenticated with. -/
def OfferWorld.OfferStands (world : OfferWorld) : OfferInput → Prop
  | .datagram moment (tag :: text) =>
      tag = tagPairing →
      ∀ exchange ∈ world.session.completes sodium library text,
        (world.session.state = .authenticated ∧
          world.session.sessionKey = exchange.sessionKey) ∨
        world.session.offerStatus moment.nowMs = some .valid
  | _ => True

end

/-! ### The invariant -/

/-- Every admission was under a valid offer of its own, and the offer of the latest one
is spent. -/
structure OfferWorld.Gated (world : OfferWorld) : Prop where
  alias_ : ∀ book, world.session.book = some book → book = world.book
  valid : ∀ admission ∈ world.admissions, admission.status = some .valid
  once : (world.admissions.map Admission.offer).Nodup
  numbered : ∀ admission ∈ world.admissions, 0 < admission.offer ∧ admission.offer ≤ world.issued
  current : ∀ admission ∈ world.admissions, admission.offer = world.issued → world.book.Spent
  outstanding : world.book.has = true → 0 < world.issued
  admitted : world.session.state = .authenticated → world.admissions ≠ []

theorem OfferWorld.gated_create (self_ : DeviceIdentity) (policy : PairingPolicy) :
    (OfferWorld.create self_ policy).Gated :=
  { alias_ := fun _ impossible => (Option.some_ne_none _ impossible.symm).elim
    valid := fun _ member => absurd member List.not_mem_nil
    once := List.nodup_nil
    numbered := fun _ member => absurd member List.not_mem_nil
    current := fun _ member => absurd member List.not_mem_nil
    outstanding := fun impossible => Bool.noConfusion impossible
    admitted := fun impossible => SessionState.noConfusion impossible }

theorem OfferWorld.Gated.work {world : OfferWorld} (gated : world.Gated)
    {change : PairingOfferBook → PairingOfferBook} (worn : world.book.Worn (change world.book)) :
    (world.work change).Gated :=
  { alias_ := by
      intro book held
      change world.session.book.map change = some book at held
      obtain ⟨before, given, rfl⟩ := Option.map_eq_some_iff.mp held
      rw [gated.alias_ before given]
      rfl
    valid := gated.valid
    once := gated.once
    numbered := gated.numbered
    current := fun admission member same => worn.spent (gated.current admission member same)
    outstanding := fun has => gated.outstanding (worn.has has)
    admitted := gated.admitted }

theorem OfferWorld.Gated.issue {world : OfferWorld} (gated : world.Gated)
    (sessionId code : Bytes) (nowMs : BitVec 64) :
    OfferWorld.Gated
      { world.work (fun book => book.issue sessionId code nowMs) with
        issued := world.issued + 1 } :=
  { alias_ := by
      intro book held
      change world.session.book.map _ = some book at held
      obtain ⟨before, given, rfl⟩ := Option.map_eq_some_iff.mp held
      rw [gated.alias_ before given]
      rfl
    valid := gated.valid
    once := gated.once
    numbered := by
      intro admission member
      obtain ⟨positive, bounded⟩ := gated.numbered admission member
      exact ⟨positive, Nat.le_succ_of_le bounded⟩
    current := by
      intro admission member same
      have bounded := (gated.numbered admission member).2
      change admission.offer = world.issued + 1 at same
      omega
    outstanding := fun _ => Nat.succ_pos _
    admitted := gated.admitted }

theorem OfferWorld.Gated.armPairing {world : OfferWorld} (gated : world.Gated)
    (sessionId code : Bytes) (withBook : Bool) :
    OfferWorld.Gated
      { world with
        session := world.session.armPairing sessionId code
          (if withBook then some world.book else none) } :=
  { gated with
    alias_ := by
      intro book held
      change (if withBook then some world.book else none) = some book at held
      cases withBook with
      | true => exact (Option.some.inj held).symm
      | false => cases held
    admitted := fun impossible => SessionState.noConfusion impossible }

theorem OfferWorld.Gated.keep {world : OfferWorld} (gated : world.Gated) {session : PeerSession}
    (state : session.state = .authenticated → world.session.state = .authenticated)
    {change : PairingOfferBook → PairingOfferBook}
    (worn : ∀ book : PairingOfferBook, book.Worn (change book))
    (book : session.book = world.session.book.map change) :
    OfferWorld.Gated { world with session := session, book := session.book.getD world.book } := by
  have later : world.book.Worn (session.book.getD world.book) := by
    rw [book]
    cases held : world.session.book with
    | none => exact { has := id, spent := id }
    | some before =>
        rw [gated.alias_ before held]
        exact worn world.book
  exact
    { alias_ := fun after held => by rw [held]; rfl
      valid := gated.valid
      once := gated.once
      numbered := gated.numbered
      current := fun admission member same => later.spent (gated.current admission member same)
      outstanding := fun has => gated.outstanding (later.has has)
      admitted := fun authenticated => gated.admitted (state authenticated) }

theorem OfferWorld.Gated.admit {world : OfferWorld} (gated : world.Gated)
    {session : PeerSession} {nowMs : BitVec 64}
    (valid : world.session.offerStatus nowMs = some .valid)
    (book : session.book = world.session.book.map
      fun book => book.consume world.session.pairingSessionId) :
    OfferWorld.Gated
      { session := session
        book := session.book.getD world.book
        issued := world.issued
        admissions :=
          { offer := world.issued, status := world.session.offerStatus nowMs } ::
            world.admissions } := by
  obtain ⟨before, held, checked⟩ := Option.map_eq_some_iff.mp valid
  have same := gated.alias_ before held
  subst same
  have spent := PairingOfferBook.consume_spent checked
  rw [held] at book
  obtain ⟨has, -, unused⟩ := PairingOfferBook.check_valid checked
  have unspent : ¬ world.book.Spent := by
    rintro (gone | used)
    · rw [has] at gone
      cases gone
    · rw [used] at unused
      cases unused
  have fresh : ∀ admission ∈ world.admissions, admission.offer ≠ world.issued :=
    fun admission member offer => unspent (gated.current admission member offer)
  refine
    { alias_ := fun after given => by rw [given]; rfl
      valid := ?_
      once := ?_
      numbered := ?_
      current := ?_
      outstanding := fun _ => gated.outstanding has
      admitted := fun _ => List.cons_ne_nil _ _ }
  · intro admission member
    rcases List.mem_cons.mp member with rfl | earlier
    · exact valid
    · exact gated.valid admission earlier
  · rw [List.map_cons]
    apply List.nodup_cons.mpr
    refine ⟨fun again => ?_, gated.once⟩
    obtain ⟨admission, member, offer⟩ := List.mem_map.mp again
    exact fresh admission member offer
  · intro admission member
    rcases List.mem_cons.mp member with rfl | earlier
    · exact ⟨gated.outstanding has, Nat.le_refl _⟩
    · exact gated.numbered admission earlier
  · intro _ _ _
    rw [book]
    exact spent

theorem PeerSession.Kept.not_admits {before after : PeerSession} (kept : before.Kept after) :
    ¬ before.Admits after := by
  rintro ⟨authenticated, moved | moved⟩
  · rcases kept.state with same | failed
    · exact moved (by rw [← same]; exact authenticated)
    · rw [failed] at authenticated
      cases authenticated
  · exact moved kept.sessionKey

section

variable {sodium : Sodium} {library : JsonLibrary}

theorem OfferWorld.Gated.datagram {world : OfferWorld} (gated : world.Gated) (moment : Moment)
    {bytes : Bytes} (stands : world.OfferStands sodium library (.datagram moment bytes)) :
    (world.step sodium library (.datagram moment bytes)).Gated := by
  unfold OfferWorld.step
  dsimp only
  rcases world.session.onDatagram_cases sodium library moment bytes with
    ⟨text, exchange, rfl, completed, same | established⟩ | kept
  · rw [same, if_neg]
    · exact gated.keep id (fun _ => { has := id, spent := id }) Option.map_id'.symm
    · rintro ⟨authenticated, moved | moved⟩
      · exact moved authenticated
      · exact moved rfl
  · rw [established]
    have consumes := fun book : PairingOfferBook =>
      PairingOfferBook.worn_consume book world.session.pairingSessionId
    rcases stands rfl exchange completed with ⟨authenticated, sameKey⟩ | valid
    · rw [if_neg]
      · exact gated.keep (fun _ => authenticated) consumes rfl
      · rintro ⟨_, moved | moved⟩
        · exact moved authenticated
        · exact moved sameKey.symm
    · by_cases admits : world.session.Admits (world.session.establish sodium exchange)
      · rw [if_pos admits]
        exact gated.admit valid rfl
      · rw [if_neg admits]
        refine gated.keep (fun authenticated => ?_) consumes rfl
        by_contra unauthenticated
        exact admits ⟨authenticated, Or.inl unauthenticated⟩
  · rw [if_neg kept.not_admits]
    have state : (world.session.onDatagram sodium library moment bytes).session.state =
        .authenticated → world.session.state = .authenticated := by
      intro authenticated
      rcases kept.state with same | failed
      · rw [← same]
        exact authenticated
      · rw [failed] at authenticated
        cases authenticated
    rcases kept.book with same | noted
    · apply gated.keep state (fun _ => { has := id, spent := id })
      rw [same]
      exact Option.map_id'.symm
    · exact gated.keep state
        (fun book => PairingOfferBook.worn_noteFailedAttempt book world.session.pairingSessionId)
        noted

theorem OfferWorld.Gated.step {world : OfferWorld} (gated : world.Gated) {input : OfferInput}
    (stands : world.OfferStands sodium library input) :
    (world.step sodium library input).Gated := by
  cases input with
  | datagram moment bytes => exact gated.datagram moment stands
  | armPairing sessionId code withBook => exact gated.armPairing sessionId code withBook
  | issue sessionId code nowMs => exact gated.issue sessionId code nowMs
  | verify sessionId code nowMs =>
      exact gated.work (PairingOfferBook.worn_verify _ sessionId code nowMs)
  | noteFailedAttempt sessionId =>
      exact gated.work (PairingOfferBook.worn_noteFailedAttempt _ sessionId)
  | consume sessionId => exact gated.work (PairingOfferBook.worn_consume _ sessionId)
  | clear => exact gated.work (PairingOfferBook.worn_clear _)

end

/-! ### From the PAIR1 to the PAIR3 -/

/-- What can become of an offer. -/
inductive OfferEvent where
  | issued
  | attempt
  | consumed
  | cleared
  deriving DecidableEq

/-- The last PAIR1 that was let in: the book it was checked against, if the session was
armed with one, and what became of the offer since. -/
structure Opening where
  book : Option PairingOfferBook
  since : List OfferEvent

/-- The offer outlasts the handshake until now: a book was there to check, the offer was not
replaced, consumed or cleared since, the attempts charged since do not reach the limit, and
it has not expired. -/
def Opening.lasts (opening : Opening) (nowMs : BitVec 64) : Bool :=
  opening.book.any fun book =>
    opening.since.all (fun event => decide (event = .attempt)) &&
      decide (book.attempts.toNat + opening.since.length < book.policy.maxAttempts.toNat) &&
      decide (nowMs < book.offer.expiresAtMs)

/-- A PAIR1 for this session that no book refuses. -/
def PeerSession.letsIn (library : JsonLibrary) (session : PeerSession) (moment : Moment) :
    Bytes → Bool
  | [] => false
  | tag :: text =>
      decide (tag = tagPairing) &&
        match readPairing library text with
        | .message type fields =>
            decide (type = ascii "PAIR1" ∧ session.role = .responder) &&
              match JsonFields.value fields "sid" [] with
              | .typeError => false
              | .found sid =>
                  decide (sid = session.pairingSessionId) &&
                    (session.refusal sid moment.nowMs).isNone
        | _ => false

def PeerSession.completesIn (sodium : Sodium) (library : JsonLibrary) (session : PeerSession) :
    Bytes → Option PairingExchange
  | [] => none
  | tag :: text => if tag = tagPairing then session.completes sodium library text else none

structure OfferWatch where
  world : OfferWorld
  opening : Option Opening

def OfferWatch.create (self_ : DeviceIdentity) (policy : PairingPolicy) : OfferWatch :=
  { world := OfferWorld.create self_ policy
    opening := none }

section

variable (sodium : Sodium) (library : JsonLibrary)

def OfferWorld.events (world : OfferWorld) : OfferInput → List OfferEvent
  | .datagram moment bytes =>
      if (world.session.completesIn sodium library bytes).isSome = true then [.consumed]
      else if (world.session.onDatagram sodium library moment bytes).session.book =
          world.session.book then []
      else [.attempt]
  | .armPairing _ _ _ => []
  | .issue _ _ _ => [.issued]
  | .verify sessionId code nowMs =>
      if (world.book.verify sessionId code nowMs).2 = world.book then [] else [.attempt]
  | .noteFailedAttempt sessionId =>
      if world.book.noteFailedAttempt sessionId = world.book then [] else [.attempt]
  | .consume sessionId => if world.book.consume sessionId = world.book then [] else [.consumed]
  | .clear => [.cleared]

def OfferWatch.opened (watch : OfferWatch) : OfferInput → Option Opening
  | .datagram moment bytes =>
      if watch.world.session.letsIn library moment bytes = true then
        some { book := watch.world.session.book, since := [] }
      else watch.opening
  | .armPairing _ _ _ => none
  | _ => watch.opening

def OfferWatch.step (watch : OfferWatch) (input : OfferInput) : OfferWatch :=
  { world := watch.world.step sodium library input
    opening := (watch.opened library input).map fun opening =>
      { opening with since := opening.since ++ watch.world.events sodium library input } }

/-- A PAIR3 that verifies comes while the offer of the PAIR1 lasts, or repeats the exchange
that the session is authenticated with. -/
def OfferWatch.OfferLasts (watch : OfferWatch) : OfferInput → Prop
  | .datagram moment bytes =>
      ∀ exchange ∈ watch.world.session.completesIn sodium library bytes,
        (watch.world.session.state = .authenticated ∧
          watch.world.session.sessionKey = exchange.sessionKey) ∨
        watch.opening.any (fun opening => opening.lasts moment.nowMs) = true
  | _ => True

instance (watch : OfferWatch) : (input : OfferInput) →
    Decidable (watch.OfferLasts sodium library input)
  | .datagram _moment bytes =>
      inferInstanceAs (Decidable
        (∀ exchange ∈ watch.world.session.completesIn sodium library bytes, _))
  | .armPairing _ _ _ => isTrue trivial
  | .issue _ _ _ => isTrue trivial
  | .verify _ _ _ => isTrue trivial
  | .noteFailedAttempt _ => isTrue trivial
  | .consume _ => isTrue trivial
  | .clear => isTrue trivial

end

/-! ### What the watch knows -/

/-- The book of the PAIR1 is still the session's, with nothing but attempts charged. -/
structure OfferWorld.Follows (world : OfferWorld) (book : PairingOfferBook) (count : Nat) :
    Prop where
  held : world.session.book = some world.book
  valid : ∃ nowMs, book.check world.session.pairingSessionId nowMs = .valid
  charged : book.Charged count world.book

structure OfferWatch.Sound (watch : OfferWatch) : Prop where
  gated : watch.world.Gated
  role : watch.world.session.role = .responder
  opened : watch.world.session.exchange.isSome = true → watch.opening.isSome = true
  follows : ∀ opening ∈ watch.opening, ∀ book ∈ opening.book,
    (∀ event ∈ opening.since, event = .attempt) →
    book.attempts.toNat + opening.since.length < book.policy.maxAttempts.toNat →
    watch.world.Follows book opening.since.length

theorem OfferWatch.sound_create (self_ : DeviceIdentity) (policy : PairingPolicy) :
    (OfferWatch.create self_ policy).Sound :=
  { gated := OfferWorld.gated_create self_ policy
    role := rfl
    opened := fun impossible => Bool.noConfusion impossible
    follows := fun _ impossible => (Option.not_mem_none _ impossible).elim }

section

variable {sodium : Sodium} {library : JsonLibrary}

/-- Only a PAIR1 that is let in gives a responder another exchange. -/
theorem PeerSession.onDatagram_exchange {session : PeerSession}
    (role : session.role = .responder) {moment : Moment} {bytes : Bytes}
    (out : session.letsIn library moment bytes = false) :
    (session.onDatagram sodium library moment bytes).session.exchange = session.exchange := by
  have notInitiator : ∀ name : String, ∀ type : Bytes,
      ¬ (type = ascii name ∧ session.role = .initiator) := by
    rintro name type ⟨-, initiator⟩
    rw [role] at initiator
    cases initiator
  have replied : ∀ message {next : Reaction}, next.session.exchange = session.exchange →
      ∀ sender : PeerSession, sender.exchange = session.exchange →
        (sender.sendPairingJson library message next).session.exchange = session.exchange := by
    intro message next kept sender same
    rcases sender.sendPairingJson_session library message next with reached | reached
    · rw [reached, same]
    · rw [reached, kept]
  cases bytes with
  | nil => rfl
  | cons tag text =>
      by_cases pairing : tag = tagPairing
      · subst pairing
        unfold PeerSession.letsIn at out
        dsimp only at out
        rw [decide_eq_true rfl, Bool.true_and] at out
        change (session.handlePairing sodium library moment text).session.exchange = _
        unfold PeerSession.handlePairing
        cases read : readPairing library text with
        | malformed => rfl
        | typeError => rfl
        | message type fields =>
            rw [read] at out
            dsimp only at out ⊢
            unfold PeerSession.onPairingMessage
            by_cases pair1 : type = ascii "PAIR1" ∧ session.role = .responder
            · rw [decide_eq_true pair1, Bool.true_and] at out
              rw [if_pos pair1]
              unfold PeerSession.onPair1
              cases given : JsonFields.value fields "sid" [] with
              | typeError => rfl
              | found sid =>
                  rw [given] at out
                  dsimp only at out ⊢
                  by_cases ours : sid = session.pairingSessionId
                  · rw [decide_eq_true ours, Bool.true_and] at out
                    rw [if_neg (not_not.mpr ours)]
                    cases refused : session.refusal sid moment.nowMs with
                    | none =>
                        rw [refused] at out
                        cases out
                    | some status => exact replied _ rfl session rfl
                  · rw [if_pos ours]
                    rfl
            · rw [if_neg pair1, if_neg (notInitiator _ _)]
              split
              · rw [PeerSession.onPair3_eq_onSignature]
                unfold PeerSession.onSignature
                split
                · rfl
                · split
                  · rfl
                  · split
                    · exact replied _ rfl session rfl
                    · exact replied _ rfl session.chargeFailure rfl
              · rw [if_neg (notInitiator _ _)]
                split
                · unfold PeerSession.onPairErr
                  dsimp only
                  split <;> rfl
                · rfl
      · obtain ⟨-, channel, controlReplay, rejected, reached⟩ :=
          session.onDatagram_sealed sodium library moment text pairing
        rw [reached]

/-- A datagram that completes nothing leaves the book or charges an attempt to it. -/
theorem PeerSession.onDatagram_book {session : PeerSession} {moment : Moment} {bytes : Bytes}
    (completes : session.completesIn sodium library bytes = none) :
    (session.onDatagram sodium library moment bytes).session.book = session.book ∨
      (session.onDatagram sodium library moment bytes).session.book =
        session.book.map PairingOfferBook.charge := by
  rcases session.onDatagram_cases sodium library moment bytes with
    ⟨text, exchange, rfl, completed, -⟩ | kept
  · unfold PeerSession.completesIn at completes
    dsimp only at completes
    rw [if_pos rfl, completed] at completes
    cases completes
  · rcases kept.book with same | noted
    · exact Or.inl same
    · rw [noted]
      cases session.book with
      | none => exact Or.inl rfl
      | some book =>
          rcases book.noteFailedAttempt_cases session.pairingSessionId with same | charged
          · exact Or.inl (congrArg some same)
          · exact Or.inr (congrArg some charged)

/-- Either there is no event, or the one attempt that the book was charged with. -/
theorem attempt_of_charged {before after : PairingOfferBook}
    (reached : after = before ∨ after = before.charge) :
    ((if after = before then [] else [OfferEvent.attempt]) = [] ∧ after = before) ∨
      ((if after = before then [] else [OfferEvent.attempt]) = [.attempt] ∧
        after = before.charge) := by
  by_cases same : after = before
  · exact Or.inl ⟨if_pos same, same⟩
  · exact Or.inr ⟨if_neg same, reached.resolve_left same⟩

section

variable {world : OfferWorld} {book : PairingOfferBook} {count : Nat} {events : List OfferEvent}

theorem OfferWorld.Follows.charged_by (follows : world.Follows book count)
    {next : PairingOfferBook}
    (reached : (events = [] ∧ next = world.book) ∨
      (events = [.attempt] ∧ next = world.book.charge))
    (room : book.attempts.toNat + (count + events.length) < 2 ^ 32) :
    book.Charged (count + events.length) next := by
  rcases reached with ⟨rfl, rfl⟩ | ⟨rfl, rfl⟩
  · exact follows.charged
  · exact follows.charged.charge (by simpa [Nat.add_assoc] using room)

theorem OfferWorld.Follows.work (follows : world.Follows book count)
    {change : PairingOfferBook → PairingOfferBook}
    (reached : (events = [] ∧ change world.book = world.book) ∨
      (events = [.attempt] ∧ change world.book = world.book.charge))
    (room : book.attempts.toNat + (count + events.length) < 2 ^ 32) :
    (world.work change).Follows book (count + events.length) := by
  refine { held := ?_, valid := follows.valid, charged := follows.charged_by reached room }
  change world.session.book.map change = some (change world.book)
  rw [follows.held]
  rfl

/-- What does not replace or end the offer leaves it followed. -/
theorem OfferWorld.Follows.step (follows : world.Follows book count) (input : OfferInput)
    (armed : ∀ sessionId code withBook, input ≠ .armPairing sessionId code withBook)
    (attempts : ∀ event ∈ world.events sodium library input, event = .attempt)
    (room : book.attempts.toNat + (count + (world.events sodium library input).length) < 2 ^ 32) :
    (world.step sodium library input).Follows book
      (count + (world.events sodium library input).length) := by
  cases input with
  | armPairing sessionId code withBook => exact absurd rfl (armed sessionId code withBook)
  | issue sessionId code nowMs =>
      exact OfferEvent.noConfusion (attempts .issued (List.mem_singleton.mpr rfl))
  | clear => exact OfferEvent.noConfusion (attempts .cleared (List.mem_singleton.mpr rfl))
  | consume sessionId =>
      unfold OfferWorld.events at attempts room ⊢
      dsimp only at attempts room ⊢
      by_cases same : world.book.consume sessionId = world.book
      · rw [if_pos same] at room ⊢
        exact follows.work (Or.inl ⟨rfl, same⟩) room
      · rw [if_neg same] at attempts
        exact OfferEvent.noConfusion (attempts .consumed (List.mem_singleton.mpr rfl))
  | noteFailedAttempt sessionId =>
      exact follows.work (attempt_of_charged (world.book.noteFailedAttempt_cases sessionId)) room
  | verify sessionId code nowMs =>
      exact @OfferWorld.Follows.work _ _ _ _ follows
        (fun book => (book.verify sessionId code nowMs).2)
        (attempt_of_charged (world.book.verify_cases sessionId code nowMs)) room
  | datagram moment bytes =>
      have kept := (world.session.onDatagram_identity sodium library moment bytes).2.2
      cases completes : world.session.completesIn sodium library bytes with
      | some exchange =>
          have consumed : world.events sodium library (.datagram moment bytes) = [.consumed] :=
            if_pos (by rw [completes]; rfl)
          rw [consumed] at attempts
          exact OfferEvent.noConfusion (attempts .consumed (List.mem_singleton.mpr rfl))
      | none =>
          obtain ⟨next, held, reached⟩ : ∃ next,
              (world.session.onDatagram sodium library moment bytes).session.book = some next ∧
                (next = world.book ∨ next = world.book.charge) := by
            rcases @PeerSession.onDatagram_book sodium library _ moment _ completes with
              same | charged
            · exact ⟨world.book, by rw [same, follows.held], Or.inl rfl⟩
            · exact ⟨world.book.charge, by rw [charged, follows.held]; rfl, Or.inr rfl⟩
          have events : world.events sodium library (.datagram moment bytes) =
              if next = world.book then [] else [OfferEvent.attempt] := by
            unfold OfferWorld.events
            dsimp only
            rw [completes, held, follows.held, if_neg (fun some_ => Bool.noConfusion some_)]
            simp only [Option.some.injEq]
          rw [events] at room ⊢
          refine { held := ?_, valid := ?_, charged := ?_ }
          · change (world.session.onDatagram sodium library moment bytes).session.book =
              some ((world.session.onDatagram sodium library moment bytes).session.book.getD
                world.book)
            rw [held]
            rfl
          · change ∃ nowMs, book.check (world.session.onDatagram sodium library moment
              bytes).session.pairingSessionId nowMs = .valid
            rw [kept]
            exact follows.valid
          · change book.Charged _
              ((world.session.onDatagram sodium library moment bytes).session.book.getD world.book)
            rw [held]
            exact follows.charged_by (attempt_of_charged reached) room

end

theorem PeerSession.letsIn_valid {session : PeerSession} {moment : Moment} {bytes : Bytes}
    (letsIn : session.letsIn library moment bytes = true) {book : PairingOfferBook}
    (held : session.book = some book) :
    book.check session.pairingSessionId moment.nowMs = .valid := by
  cases bytes with
  | nil => cases letsIn
  | cons tag text =>
      unfold PeerSession.letsIn at letsIn
      dsimp only at letsIn
      rw [Bool.and_eq_true] at letsIn
      have inner := letsIn.2
      cases read : readPairing library text with
      | malformed => rw [read] at inner; cases inner
      | typeError => rw [read] at inner; cases inner
      | message type fields =>
          rw [read] at inner
          dsimp only at inner
          rw [Bool.and_eq_true] at inner
          have named := inner.2
          cases given : JsonFields.value fields "sid" [] with
          | typeError => rw [given] at named; cases named
          | found sid =>
              rw [given] at named
              dsimp only at named
              rw [Bool.and_eq_true] at named
              have ours : sid = session.pairingSessionId := of_decide_eq_true named.1
              have unrefused := named.2
              rw [ours] at unrefused
              unfold PeerSession.refusal at unrefused
              rw [held] at unrefused
              dsimp only at unrefused
              split at unrefused
              · assumption
              · cases unrefused

/-- A lasting opening is followed by a book that is still valid. -/
theorem OfferWatch.Sound.valid {watch : OfferWatch} (sound : watch.Sound) {nowMs : BitVec 64}
    (lasts : watch.opening.any (fun opening => opening.lasts nowMs) = true) :
    watch.world.session.offerStatus nowMs = some .valid := by
  obtain ⟨opening, opened, lasts⟩ := (Option.any_eq_true _ _).mp lasts
  unfold Opening.lasts at lasts
  obtain ⟨book, checked, lasts⟩ := (Option.any_eq_true _ _).mp lasts
  rw [Bool.and_eq_true, Bool.and_eq_true, List.all_eq_true] at lasts
  obtain ⟨⟨attempts, few⟩, early⟩ := lasts
  have follows := sound.follows opening opened book checked
    (fun event member => of_decide_eq_true (attempts event member)) (of_decide_eq_true few)
  obtain ⟨once, valid⟩ := follows.valid
  unfold PeerSession.offerStatus
  rw [follows.held, Option.map_some,
    follows.charged.check valid (of_decide_eq_true few) (of_decide_eq_true early)]

theorem OfferWatch.Sound.stands {watch : OfferWatch} (sound : watch.Sound) {input : OfferInput}
    (lasts : watch.OfferLasts sodium library input) :
    watch.world.OfferStands sodium library input := by
  cases input with
  | datagram moment bytes =>
      cases bytes with
      | nil => trivial
      | cons tag text =>
          intro pairing exchange completed
          have completes : watch.world.session.completesIn sodium library (tag :: text) =
              some exchange := by
            unfold PeerSession.completesIn
            dsimp only
            rw [if_pos pairing]
            exact completed
          rcases lasts exchange completes with repeats | lasting
          · exact Or.inl repeats
          · exact Or.inr (sound.valid lasting)
  | armPairing => trivial
  | issue => trivial
  | verify => trivial
  | noteFailedAttempt => trivial
  | consume => trivial
  | clear => trivial

theorem OfferWatch.Sound.follows_opened {watch : OfferWatch} (sound : watch.Sound)
    (input : OfferInput) :
    ∀ opening ∈ watch.opened library input, ∀ book ∈ opening.book,
      (∀ event ∈ opening.since, event = .attempt) →
      book.attempts.toNat + opening.since.length < book.policy.maxAttempts.toNat →
      watch.world.Follows book opening.since.length := by
  cases input with
  | armPairing => exact fun _ impossible => (Option.not_mem_none _ impossible).elim
  | datagram moment bytes =>
      unfold OfferWatch.opened
      dsimp only
      by_cases letsIn : watch.world.session.letsIn library moment bytes = true
      · rw [if_pos letsIn]
        intro opening new book checked _attempts _few
        cases new
        have same := sound.gated.alias_ book checked
        exact
          { held := by rw [← same]; exact checked
            valid := ⟨moment.nowMs, PeerSession.letsIn_valid letsIn checked⟩
            charged := by rw [← same]; exact PairingOfferBook.Charged.refl book }
      · rw [if_neg letsIn]
        exact sound.follows
  | issue => exact sound.follows
  | verify => exact sound.follows
  | noteFailedAttempt => exact sound.follows
  | consume => exact sound.follows
  | clear => exact sound.follows

theorem OfferWatch.Sound.step {watch : OfferWatch} (sound : watch.Sound) {input : OfferInput}
    (lasts : watch.OfferLasts sodium library input) :
    (watch.step sodium library input).Sound := by
  refine
    { gated := sound.gated.step (sound.stands lasts)
      role := ?_
      opened := ?_
      follows := ?_ }
  · cases input with
    | datagram moment bytes =>
        exact (watch.world.session.onDatagram_identity sodium library moment bytes).2.1.trans
          sound.role
    | _ => exact sound.role
  · intro held
    change ((watch.opened library input).map _).isSome = true
    rw [Option.isSome_map]
    cases input with
    | armPairing => cases held
    | datagram moment bytes =>
        unfold OfferWatch.opened
        dsimp only
        by_cases letsIn : watch.world.session.letsIn library moment bytes = true
        · rw [if_pos letsIn]
          rfl
        · rw [if_neg letsIn]
          apply sound.opened
          change (watch.world.session.onDatagram sodium library moment
            bytes).session.exchange.isSome = true at held
          rw [PeerSession.onDatagram_exchange sound.role (Bool.eq_false_iff.mpr letsIn)] at held
          exact held
    | _ => exact sound.opened held
  · intro opening later book checked attempts few
    obtain ⟨opened, found, rfl⟩ := Option.map_eq_some_iff.mp later
    dsimp only at checked attempts few ⊢
    rw [List.length_append] at few ⊢
    have limit := book.policy.maxAttempts.isLt
    have follows := sound.follows_opened input opened found book checked
      (fun event member => attempts event (List.mem_append_left _ member)) (by omega)
    apply follows.step input
    · rintro sessionId code withBook rfl
      cases found
    · exact fun event member => attempts event (List.mem_append_right _ member)
    · omega

end

/-- In every run in which the offer lasts from the PAIR1 to the PAIR3 that verifies, a session
is only ever admitted under a valid offer, each issued offer admits at most once, and a
session that no book was armed with is never authenticated. -/
theorem offer_gates_authentication (sodium : Sodium) (library : JsonLibrary)
    (self_ : DeviceIdentity) (policy : PairingPolicy) (inputs : List OfferInput)
    (lasts : Run.Meets (OfferWatch.step sodium library) (OfferWatch.OfferLasts sodium library)
      (OfferWatch.create self_ policy) inputs) :
    let world :=
      (Run.final (OfferWatch.step sodium library) (OfferWatch.create self_ policy) inputs).world
    (∀ admission ∈ world.admissions, admission.status = some .valid ∧
      0 < admission.offer ∧ admission.offer ≤ world.issued) ∧
    (world.admissions.map Admission.offer).Nodup ∧
    (world.session.state = .authenticated → world.admissions ≠ []) := by
  intro world
  have sound : OfferWatch.Sound (Run.final (OfferWatch.step sodium library)
      (OfferWatch.create self_ policy) inputs) :=
    Run.invariant_final OfferWatch.Sound (fun _ _ sound allowed => sound.step allowed) inputs _
      (OfferWatch.sound_create self_ policy) lasts
  have gated : world.Gated := sound.gated
  exact ⟨fun admission member => ⟨gated.valid admission member, gated.numbered admission member⟩,
    gated.once, gated.admitted⟩

namespace StandIn

open SmartMic.StandIn

def strangerBegun : Reaction := phone.beginPairing sodium json [] [] (scalar 3)
def strangerPair1 : Bytes := sentBy strangerBegun
def strangerPair2 : Bytes := sentBy (receive desk strangerPair1)
def strangerPair3 : Bytes := sentBy (receive strangerBegun.session strangerPair2)

def offerUsed : List OfferInput :=
  [.issue sessionId code 0#64, .armPairing sessionId code true, .datagram moment pair1,
    .noteFailedAttempt sessionId, .datagram moment pair3]

end StandIn

theorem offer_gates_authentication_used :
    let world := (Run.final (OfferWatch.step StandIn.sodium StandIn.json)
      (OfferWatch.create (StandIn.identity 2) {}) StandIn.offerUsed).world
    (∀ admission ∈ world.admissions, admission.status = some .valid ∧
      0 < admission.offer ∧ admission.offer ≤ world.issued) ∧
    (world.admissions.map Admission.offer).Nodup ∧
    (world.session.state = .authenticated → world.admissions ≠ []) := by
  apply offer_gates_authentication
  decide +kernel

/-- A responder that was never armed is authenticated by the first stranger. -/
theorem unarmed_session_authenticated :
    let world := Run.final (OfferWorld.step StandIn.sodium StandIn.json)
      (OfferWorld.create (StandIn.identity 2) {})
      [.datagram StandIn.moment StandIn.strangerPair1,
        .datagram StandIn.moment StandIn.strangerPair3]
    world.session.state = .authenticated ∧
      world.admissions = [{ offer := 0, status := none }] := by
  decide +kernel

end SmartMic.Session
