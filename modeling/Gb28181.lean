import Gb28181.Lib.Memory
import Gb28181.Lib.Bits
import Gb28181.Lib.SkipScan
import Gb28181.StreamPuller.CutPsHeader
import Gb28181.StreamPuller.HandleRtpData
import Gb28181.StreamPuller.ProgramStream
import Gb28181.Psmux.BitsWrite
import Gb28181.Psmux.Headers
import Gb28181.Lib.Chunks
import Gb28181.Psmux.H264PsMux
import Gb28181.StreamPusher
import Gb28181.PushPull.StartCodes
import Gb28181.PushPull.Packs
import Gb28181.PushPull.Delivery
import Gb28181.Lib.LockProgram
import Gb28181.Lib.OrderedMap
import Gb28181.Lib.Text
import Gb28181.SipUA.Sdp
import Gb28181.SipServer.CallManager
import Gb28181.SipServer.Handlers
import Gb28181.SipServer.Registrations
import Gb28181.SipServer.CallBook
import Gb28181.SipServer.Deeds
import Gb28181.SipServer.InviteLedger
import Gb28181.SipServer.EndedCalls
import Gb28181.Lib.Runs
import Gb28181.MediaGate.Registration
import Gb28181.MediaGate.RefreshTimes
import Gb28181.Lib.Rotation
import Gb28181.MediaGate.Ports
import Gb28181.MediaGate.Gate
import Gb28181.MediaGate.ProxyPorts
import Gb28181.MediaGate.Instances
import Gb28181.MediaGate.Invites
import Gb28181.SipServer.Unauthenticated
import Gb28181.SipServer.Legs
import Gb28181.Osip.Frame
import Gb28181.SipServer.ClientThreads
import Gb28181.SipServer.VideoTrans
import Gb28181.Osip.Clone
import Gb28181.Exosip.TcpRead
import Gb28181.Exosip.TcpFrames
import Gb28181.Osip.Parse
import Gb28181.Exosip.RoundTrip
import Gb28181.SipUA.MediaSection
import Gb28181.SipUA.SessionBody
import Gb28181.SipUA.Forwarding
import Gb28181.SipUA.SessionFields
import Gb28181.SipUA.Terminated
import Gb28181.PushPull.Oversized
import Gb28181.Lib.BitFields
import Gb28181.Psmux.Decode
import Gb28181.Psmux.SizedBuffer
import Gb28181.StreamPusher.RtpStream
import Gb28181.StreamPusher.BufferBound
import Gb28181.Lib.Appending
import Gb28181.MediaGate.DialogRace
import Gb28181.SipUA.Printing
import Gb28181.SipUA.Printable
import Gb28181.SipUA.AttrScan
import Gb28181.SipUA.Subject
import Gb28181.SipServer.Reregistration
import Gb28181.SipServer.Expiry
import Gb28181.SipServer.RegisterReply
import Gb28181.SipServer.Catalog
import Gb28181.SipServer.InfoMessages
import Gb28181.SipServer.XmlHandlers
import Gb28181.SipUA.BodyContent
import Gb28181.MediaGate.PullerResources
import Gb28181.Lib.Occurrences
import Gb28181.SipUA.SplitString
import Gb28181.Common.CodeConverter
import Gb28181.Common.KeyValue
import Gb28181.ConfigFile.RoundTrip
import Gb28181.Lib.Traces
import Gb28181.Osip2.Fsm
import Gb28181.Osip2.Runs
import Gb28181.Lib.Ledger
import Gb28181.Osip2.Memory
import Gb28181.Osip2.Steps
import Gb28181.Osip2.Exchange
import Gb28181.Lib.Registry
import Gb28181.Osip2.Matching
import Gb28181.Osip2.Origins
import Gb28181.Osip2.Stack
import Gb28181.Osip2.Timers
import Gb28181.Lib.Backoff
import Gb28181.Osip2.Retransmission
import Gb28181.Lib.Quoted
import Gb28181.Osip.Quotes
import Gb28181.Osip.MultipleHeader
import Gb28181.Lib.HashIndex
import Gb28181.Osip.HeadFields
import Gb28181.Osip.Multipart
import Gb28181.Osip.Reread
import Gb28181.Exosip.SentMessage
