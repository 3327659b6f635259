import SmartMic.Apps.ServiceHost
import SmartMic.Audio.RouterInvariants
import SmartMic.Session.Deliveries
import SmartMic.Session.StandIn
import SmartMic.Support.Simulation

set_option autoImplicit false

/-! The PC before a phone has been paired. Whatever the network sends, the service stays as
its own audio loop leaves it: the router is on the local microphone, or one tick away from it
after a failed read, with the crossfade at the local end, and nothing is announced. -/

namespace SmartMic.Apps

open SmartMic.Protocol SmartMic.Security SmartMic.Media SmartMic.Session SmartMic.Audio

/-! ### A router at home -/

/-- No event waits, and the crossfade rests at the local end. -/
structure AtHome (router : AudioRouter) : Prop where
  state : router.state = .localActive ∨ router.state = .errorRecovery
  mode : router.mode = .auto
  events : router.events = []
  fade : router.fade = Ramp.snapTo 0

theorem AtHome.edge {machine : SourceStateMachine} {event : Event}
    (state : machine.state = .localActive ∨ machine.state = .errorRecovery)
    (mode : machine.mode = .auto) (ofTick : event.ofTick = true) :
    ((machine.apply event).1.state = .localActive ∨
        (machine.apply event).1.state = .errorRecovery) ∧
      (machine.apply event).1.mode = .auto := by
  obtain ⟨now, selected⟩ := machine
  dsimp only at state mode
  subst mode
  rcases state with rfl | rfl <;> cases event <;> revert ofTick <;> decide

theorem snapTo_fadeTo (durationMs : BitVec 32) :
    Crossfade.fadeTo (Ramp.snapTo 0 : Crossfade) 0 durationMs = Ramp.snapTo 0 := by
  unfold Crossfade.fadeTo Ramp.moveTo Ramp.snapTo
  simp

theorem AtHome.applyEvent {router : AudioRouter} (home : AtHome router) {event : Event}
    (ofTick : event.ofTick = true) : AtHome (router.applyEvent event) := by
  obtain ⟨state, mode⟩ := AtHome.edge home.state home.mode ofTick
  rw [← AudioRouter.applyEvent_sm] at state mode
  refine
    { state := state
      mode := mode
      events := (router.applyEvent_events event).trans home.events
      fade := ?_ }
  rcases router.applyEvent_cases event with ⟨-, fade, -⟩ | ⟨-, -, -, fade, -⟩
  · exact fade.trans home.fade
  · rw [fade]
    rcases state with local_ | recovering
    · rw [show (router.applyEvent event).state = .localActive from local_, home.fade]
      exact snapTo_fadeTo _
    · rw [show (router.applyEvent event).state = .errorRecovery from recovering]
      exact home.fade

theorem steady_atHome : Steady AtHome :=
  { event := fun _router _event ofTick home => home.applyEvent ofTick
    bookkeeping := fun _router _armTimeouts _phoneLost _sourceFailures _localBuf _phoneBuf home =>
      ⟨home.state, home.mode, home.events, home.fade⟩ }

theorem AtHome.tick {router : AudioRouter} (home : AtHome router) (curves : GainCurves)
    (around : Surroundings) : AtHome (router.tick curves around) := by
  have drained : AtHome router.drainEvents := by
    unfold AudioRouter.drainEvents
    rw [home.events]
    exact ⟨home.state, home.mode, rfl, home.fade⟩
  refine steady_atHome.tick drained curves around fun ready written mixed home => ?_
  have rests : Ramp.advance^[kFrameSamples] (Ramp.snapTo 0 : Ramp) = Ramp.snapTo 0 :=
    Function.iterate_fixed (by unfold Ramp.advance; exact if_pos rfl) _
  exact
    { state := mixed.state ▸ home.state
      mode := (congrArg SourceStateMachine.mode mixed.sm).trans home.mode
      events := mixed.events.trans home.events
      fade := by rw [mixed.fade, home.fade, rests] }

/-! ### A service that nobody talks to -/

section

variable {Decoder : Type}

structure Service.Unasked (service : Service Decoder) : Prop where
  pttRequested : service.pttRequested = false
  home : AtHome service.router

theorem Service.unasked_create (decoder : Option Decoder) :
    (Service.create decoder).Unasked :=
  { pttRequested := rfl
    home := ⟨.inl rfl, rfl, rfl, rfl⟩ }

theorem Service.Unasked.announce {service : Service Decoder} (unasked : service.Unasked)
    (nowUnixMs : BitVec 64) : service.announce nowUnixMs = (service, []) := by
  unfold Service.announce Service.announces
  rw [unasked.pttRequested]
  rfl

theorem Service.Unasked.tick {service : Service Decoder} (unasked : service.Unasked)
    (curves : GainCurves) (opus : OpusLibrary Decoder) (room : Room) :
    (service.tick curves opus room).Unasked :=
  { pttRequested := unasked.pttRequested
    home := unasked.home.tick curves _ }

/-! ### The process -/

def Host.roomTaken (host : Host Decoder) : HostInput → Option Room
  | .datagram _ => none
  | .round _ room => if host.terminated then none else some room

variable (sodium : Sodium) (library : JsonLibrary) (curves : GainCurves)
  (opus : OpusLibrary Decoder)

theorem Host.hear_unpaired {host : Host Decoder} (unpaired : host.peer.state ≠ .authenticated)
    (incoming : Incoming) : (host.hear sodium library incoming).host.service = host.service := by
  have tells := host.peer.onDatagram_tells sodium library incoming.moment incoming.bytes
  dsimp only at tells
  rcases tells with ⟨nothing, -⟩ | ⟨delivery, -, authenticated, -⟩
  · unfold Host.hear HostReaction.andThen
    dsimp only
    rw [nothing]
    rfl
  · exact absurd authenticated unpaired

theorem Host.round_unasked {host : Host Decoder} (unasked : host.service.Unasked)
    (stamp : Stamp) (room : Room) :
    (host.round sodium library curves opus stamp room).host.service =
        host.service.tick curves opus room ∧
      (host.round sodium library curves opus stamp room).sent = [] := by
  unfold Host.round
  rw [unasked.announce]
  exact ⟨rfl, rfl⟩

/-- As long as the session is unpaired the process is its audio loop. -/
theorem Host.simulates_unpaired :
    Run.Simulates (Host.step sodium library curves opus)
      (fun host _input => host.peer.state ≠ .authenticated) Host.roomTaken
      (fun service room => service.tick curves opus room)
      (fun host service => host.service = service ∧ service.Unasked) where
  moves host service input room related unpaired taken := by
    obtain ⟨same, unasked⟩ := related
    subst same
    cases input with
    | datagram incoming => cases taken
    | round stamp other =>
        change (if host.terminated then none else some other) = _ at taken
        by_cases alive : host.terminated = true
        · rw [if_pos alive] at taken
          cases taken
        · rw [if_neg alive] at taken
          cases taken
          obtain ⟨ticked, -⟩ :=
            Host.round_unasked sodium library curves opus unasked stamp room
          unfold Host.step
          rw [if_neg alive]
          exact ⟨ticked, unasked.tick curves opus room⟩
  stutters host service input related unpaired ignored := by
    obtain ⟨same, unasked⟩ := related
    subst same
    unfold Host.step
    split
    · exact ⟨rfl, unasked⟩
    · rename_i alive
      cases input with
      | datagram incoming => exact ⟨host.hear_unpaired sodium library unpaired incoming, unasked⟩
      | round stamp room =>
          change (if host.terminated then none else some room) = _ at ignored
          rw [if_neg alive] at ignored
          cases ignored

/-- In every run in which no datagram has paired a phone, whatever else the datagrams are, the
service is where its own rounds lead: at home, with the phone's gain that of the local end,
and with nothing to send. -/
theorem unpaired_host_stays_local (identity : DeviceIdentity) (decoder : Option Decoder)
    (sessionId code : Bytes) (book : PairingOfferBook) (inputs : List HostInput)
    (unpaired : Run.Meets (Host.step sodium library curves opus)
      (fun host _input => host.peer.state ≠ .authenticated)
      (Host.create identity decoder sessionId code book) inputs) :
    let start := Host.create identity decoder sessionId code book
    let host := Run.final (Host.step sodium library curves opus) start inputs
    host.service = Run.final (fun service room => service.tick curves opus room)
        (Service.create decoder)
        (Run.observed (Host.step sodium library curves opus) Host.roomTaken start inputs) ∧
      AtHome host.service.router ∧
      (∀ index, (host.service.router.fade.gainsAt curves index).phone = curves.sine 0) ∧
      ∀ stamp room, (host.round sodium library curves opus stamp room).sent = [] := by
  intro start host
  obtain ⟨same, unasked⟩ := (Host.simulates_unpaired sodium library curves opus).final inputs
    start (Service.create decoder) ⟨rfl, Service.unasked_create decoder⟩ unpaired
  rw [← same] at unasked
  refine ⟨same, unasked.home, fun index => ?_, fun stamp room =>
    (Host.round_unasked sodium library curves opus unasked stamp room).2⟩
  rw [unasked.home.fade]
  unfold Ramp.gainsAt
  rw [Ramp.iterate_of_rest rfl]
  exact congrArg curves.sine clamp_zero

end

namespace StandIn

open SmartMic.StandIn SmartMic.Session.StandIn

def knocking : List HostInput :=
  [.datagram
      { bytes := pair1, moment := moment, nowMs := 0#64, stamp := stamp
        localSourceName := ascii "mic" },
    .datagram
      { bytes := [0xff, 0x00], moment := moment, nowMs := 0#64, stamp := stamp
        localSourceName := ascii "mic" },
    .round stamp silentRoom]

end StandIn

open SmartMic.StandIn SmartMic.Apps.StandIn in
theorem unpaired_host_stays_local_knocking :
    let start := Host.create (identity 2) (some ()) sessionId
      code book
    let step := Host.step sodium controlJson linearCurves silentOpus
    let host := Run.final step start knocking
    host.service = Run.final (fun service room => service.tick linearCurves silentOpus room)
        (Service.create (some ())) (Run.observed step Host.roomTaken start knocking) ∧
      AtHome host.service.router ∧
      (∀ index, (host.service.router.fade.gainsAt linearCurves index).phone =
        linearCurves.sine 0) ∧
      ∀ stamp room, (host.round sodium controlJson linearCurves silentOpus stamp
        room).sent = [] := by
  apply unpaired_host_stays_local
  refine ⟨?_, ?_, ?_, trivial⟩ <;> decide +kernel

end SmartMic.Apps
