import SmartMic.Support.Run
import SmartMic.Driver.Ring
import SmartMic.Driver.RingStarvation
import SmartMic.Support.Circular
import SmartMic.Driver.RingRead
import SmartMic.Driver.RingSteps
import SmartMic.Driver.RingDelivery
import SmartMic.Driver.RingTwins
import SmartMic.Driver.RingClaim
import SmartMic.Format
import SmartMic.Media.JitterBuffer
import SmartMic.Media.JitterHistory
import SmartMic.Media.JitterRecovery
import SmartMic.Media.ChannelDelivery
import SmartMic.Audio.Crossfade
import SmartMic.Audio.Router
import SmartMic.Audio.RingBuffer
import SmartMic.Audio.RouterInvariants
import SmartMic.Audio.RouterWaits
import SmartMic.Audio.Failback
import SmartMic.Audio.FailbackLoop
import SmartMic.Audio.MixedFrame
import SmartMic.Audio.SettledOutput
import SmartMic.Audio.Audible
import SmartMic.Protocol.Bytes
import SmartMic.Protocol.Json
import SmartMic.Protocol.ReplayWindow
import SmartMic.Media.SecureChannel
import SmartMic.Protocol.Codec
import SmartMic.Session.PairingSteps
import SmartMic.Media.ChannelUse
import SmartMic.Session.Ledger
import SmartMic.Session.StandIn
import SmartMic.Session.SealedTraffic
import SmartMic.Session.Immunity
import SmartMic.Session.DatagramSteps
import SmartMic.Session.OfferGate
import SmartMic.Apps.PhoneRuntime
import SmartMic.Protocol.StandIn
import SmartMic.Security.StandIn
import SmartMic.Apps.PhoneDisplay
import SmartMic.Protocol.ReplayHistory
import SmartMic.Session.ControlOrder
import SmartMic.Session.Totality
import SmartMic.Session.TypedDelivery
import SmartMic.Security.Transcript
import SmartMic.Session.Agreement
import SmartMic.Apps.Service
import SmartMic.Apps.Duplex
import SmartMic.Apps.ReadyAudio
import SmartMic.Apps.LiveDisplay
import SmartMic.Security.KeyAgreement
import SmartMic.Session.Handshake
import SmartMic.Session.LaterAttempt
import SmartMic.Session.Network
import SmartMic.Driver.WaveRtStream
import SmartMic.Driver.EndpointClock
import SmartMic.Audio.FailureIsolation
import SmartMic.Audio.PressKept
import SmartMic.Security.OfferPolicy
import SmartMic.Audio.RingAtomic
import SmartMic.Audio.RingQueue
import SmartMic.Audio.RingThreads
import SmartMic.Audio.RingPosts
import SmartMic.Apps.PhoneTimers
import SmartMic.Security.CpaceExchange
import SmartMic.Media.MissingSlot
import SmartMic.Media.PlayoutOrder
import SmartMic.Media.SlotSchedule
import SmartMic.Media.SlotPlayout
import SmartMic.Apps.TalkSpurt
import SmartMic.Audio.RingAlone
import SmartMic.Audio.DeviceRegistry
import SmartMic.Audio.FadeKinematics
import SmartMic.Audio.Resampler
import SmartMic.Media.JitterAccounting
import SmartMic.Media.JitterClock
import SmartMic.Protocol.Decimal
import SmartMic.Security.PairingUri
import SmartMic.Security.PairingLink
import SmartMic.Protocol.CodecRoundTrip
import SmartMic.Media.UdpTransport
import SmartMic.Session.ControlSize
import SmartMic.Security.Serialisation
import SmartMic.Media.ChaosTransport
import SmartMic.Apps.PressAnswered
import SmartMic.Apps.CaptureFrames
import SmartMic.Apps.VoicePath
import SmartMic.Audio.WasapiRender
import SmartMic.Driver.PacedPath
import SmartMic.Audio.RouterStats
import SmartMic.Apps.Unpaired
import SmartMic.Audio.WavRoundTrip
import SmartMic.Apps.MicrophonePath
