import MediaGateway.Action
import MediaGateway.Base64
import MediaGateway.Base64.Decode
import MediaGateway.Base64.RoundTrip
import MediaGateway.Candidate
import MediaGateway.CommonType
import MediaGateway.Etcp
import MediaGateway.FastWriter
import MediaGateway.Gateway
import MediaGateway.Gateway.Assertion
import MediaGateway.Gateway.Calls
import MediaGateway.Gateway.Invariant
import MediaGateway.Gateway.Isolation
import MediaGateway.Gateway.Ownership
import MediaGateway.Gateway.Projection
import MediaGateway.Gateway.Sides
import MediaGateway.Gateway.Step
import MediaGateway.Gateway.Timers
import MediaGateway.Ice.Lifetime
import MediaGateway.Ice.Line
import MediaGateway.Ice.Remote
import MediaGateway.Ice.RoundTrip
import MediaGateway.ImsAgent
import MediaGateway.Lib.Absorb
import MediaGateway.Lib.Bits
import MediaGateway.Lib.Cyclic
import MediaGateway.Lib.Decimal
import MediaGateway.Lib.Framing
import MediaGateway.Lib.Heap
import MediaGateway.Lib.Keystream
import MediaGateway.Lib.Lines
import MediaGateway.Lib.Machine
import MediaGateway.Lib.Receive
import MediaGateway.Lib.Rounds
import MediaGateway.Lib.Scanf
import MediaGateway.Lib.Search
import MediaGateway.Lib.Sha1
import MediaGateway.Lib.Socket
import MediaGateway.Lib.Text
import MediaGateway.Lib.Window
import MediaGateway.Lib.Words
import MediaGateway.Libsrtp.AesIcm
import MediaGateway.Libsrtp.Channel
import MediaGateway.Libsrtp.Counters
import MediaGateway.Libsrtp.Datatypes
import MediaGateway.Libsrtp.Hmac
import MediaGateway.Libsrtp.Key
import MediaGateway.Libsrtp.Rdb
import MediaGateway.Libsrtp.Rdbx
import MediaGateway.Libsrtp.Refusals
import MediaGateway.Libsrtp.RoundTrip
import MediaGateway.Libsrtp.Sha1
import MediaGateway.Libsrtp.Srtp
import MediaGateway.Libsrtp.Stream
import MediaGateway.Media
import MediaGateway.MediaSession
import MediaGateway.Message.Kinds
import MediaGateway.Message.RoundTrip
import MediaGateway.MessageParser
import MediaGateway.NiceCandidate
import MediaGateway.RtpConverter
import MediaGateway.Sdp
import MediaGateway.Sdp.Bounds
import MediaGateway.Sdp.Crypto
import MediaGateway.Sdp.ImsRoundTrip
import MediaGateway.Sdp.Rewrite
import MediaGateway.Sdp.Scan
import MediaGateway.Sdp.Transport
import MediaGateway.Sdp.WebRoundTrip
import MediaGateway.Session.Description
import MediaGateway.Session.Flow
import MediaGateway.Session.History
import MediaGateway.Session.KeyFrames
import MediaGateway.Session.Keys
import MediaGateway.Session.Media
import MediaGateway.Session.Sections
import MediaGateway.Session.Trickle
import MediaGateway.SubMG
import MediaGateway.SubMG.Connections
import MediaGateway.SubMG.Handshake
import MediaGateway.SubMG.Invariant
import MediaGateway.SubMG.Replies
import MediaGateway.SubMG.VacantIDs
import MediaGateway.SubMG.Waits
import MediaGateway.Timer
import MediaGateway.Timer.Pool
import MediaGateway.WebAgent
import MediaGateway.Wire.Inbound
import MediaGateway.Wire.Outbound
import MediaGateway.Wire.Packet
import MediaGateway.Wire.RoundTrip
