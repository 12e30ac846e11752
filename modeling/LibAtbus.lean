import LibAtbus.Foundation.FifoQueue
import LibAtbus.Foundation.Transitions
import LibAtbus.Channel.MemChannel
import LibAtbus.Foundation.TiledRing
import LibAtbus.Proofs.MemRing
import LibAtbus.Proofs.MemRead
import LibAtbus.Proofs.MemFifo
import LibAtbus.Proofs.MemScan
import LibAtbus.Proofs.MemWrite
import LibAtbus.Proofs.SendOutcome
import LibAtbus.Proofs.SendBounds
import LibAtbus.Proofs.MemInitFormat
import LibAtbus.Proofs.NeighbourTags
import LibAtbus.Proofs.GoodBlocks
import LibAtbus.Proofs.WriterTimeout
import LibAtbus.Channel.MemChecked
import LibAtbus.Proofs.MemRecvSafety
import LibAtbus.Channel.MemReserve
import LibAtbus.Proofs.MemAttach
import LibAtbus.Proofs.MemReservation
import LibAtbus.Channel.MemWriters
import LibAtbus.Proofs.MemReader
import LibAtbus.Channel.ConnPool
import LibAtbus.Proofs.ConnPoolClosing
import LibAtbus.Detail.Buffer
import LibAtbus.Detail.Vint
import LibAtbus.Channel.IoStream
import LibAtbus.Channel.StreamFrame
import LibAtbus.Proofs.ReadBuffers
import LibAtbus.Proofs.StreamDecoder
import LibAtbus.Proofs.StreamSafety
import LibAtbus.Proofs.StreamRoundTrip
import LibAtbus.Foundation.DomainTree
import LibAtbus.Foundation.OrderedMap
import LibAtbus.Node.Endpoint
import LibAtbus.Node.Routing
import LibAtbus.Node.Network
import LibAtbus.Proofs.TreeRouting
import LibAtbus.Node.MsgHandler
import LibAtbus.Proofs.Forwarding
import LibAtbus.Node.Transfer
import LibAtbus.Proofs.ResponseReturn
import LibAtbus.Proofs.ResponseCount
import LibAtbus.Foundation.Regions
import LibAtbus.Node.Registry
import LibAtbus.Proofs.SubDomains
import LibAtbus.Proofs.EndpointRegistry
import LibAtbus.Foundation.HopBudget
import LibAtbus.Proofs.HopBound
import LibAtbus.Node.Binding
import LibAtbus.Proofs.ConnectionBinding
import LibAtbus.Node.Dispatch
import LibAtbus.Proofs.DispatchSafety
import LibAtbus.Proofs.ParentRegistration
import LibAtbus.Foundation.Packing
import LibAtbus.Node.MsgCodec
import LibAtbus.Proofs.CodecRoundTrip
import LibAtbus.Node.StreamLink
import LibAtbus.Proofs.SizeAgreement
import LibAtbus.Foundation.CircularLayout
import LibAtbus.Detail.CheckedBuffer
import LibAtbus.Foundation.RingWindow
import LibAtbus.Foundation.TagCounter
import LibAtbus.Proofs.StaticArrangement
import LibAtbus.Proofs.StaticLayout
import LibAtbus.Foundation.Bisimulation
import LibAtbus.Foundation.ByteDeque
import LibAtbus.Proofs.BufferSides
import LibAtbus.Proofs.BufferDeque
import LibAtbus.Proofs.LiveBlocks
import LibAtbus.Channel.StreamWrite
import LibAtbus.Channel.ShmChannel
import LibAtbus.Proofs.SendCompletion
import LibAtbus.Proofs.ShmMapping
import LibAtbus.Node.Receive
import LibAtbus.Proofs.PayloadReports
import LibAtbus.Proofs.VintEncoding
import LibAtbus.Proofs.DomainArithmetic
import LibAtbus.Node.Registration
import LibAtbus.Proofs.RegistrationAnswers
import LibAtbus.Proofs.RegistrationOrder
import LibAtbus.Proofs.ReleasePushPop
import LibAtbus.Proofs.PushLimits
import LibAtbus.Proofs.QueueRoom
import LibAtbus.Proofs.EmptiedBuffer
import LibAtbus.Foundation.ChangeLog
import LibAtbus.Node.Objects
import LibAtbus.Proofs.ObjectTables
import LibAtbus.Proofs.NodeDisconnect
import LibAtbus.Proofs.DeferredCheck
import LibAtbus.Proofs.SendUndo
import LibAtbus.Foundation.TableRegister
import LibAtbus.Proofs.BurstDetection
import LibAtbus.Foundation.StdString
import LibAtbus.Channel.Address
import LibAtbus.Proofs.AddressParsing
import LibAtbus.Proofs.ObjectEncoding
import LibAtbus.Proofs.ParentFallback
import LibAtbus.Proofs.StreamOutcome
import LibAtbus.Node.StreamCallbacks
import LibAtbus.Proofs.CallbackSafety
import LibAtbus.Node.ConnectionSetup
import LibAtbus.Proofs.SetupFailure
import LibAtbus.Proofs.ProcRegistration
import LibAtbus.Foundation.StableOrder
import LibAtbus.Node.DataConnection
import LibAtbus.Proofs.FastestConnection
import LibAtbus.Proofs.SilentEndpoint
import LibAtbus.Proofs.ConcurrentFifo
import LibAtbus.Foundation.Duplex
import LibAtbus.Node.Handshake
import LibAtbus.Proofs.HandshakeAgreement
import LibAtbus.Node.Links
import LibAtbus.Proofs.MessageQueue
import LibAtbus.Proofs.MemLinkRefinement
import LibAtbus.Proofs.StreamLinkRefinement
import LibAtbus.Proofs.NoticesMirror
import LibAtbus.Node.StreamHandshake
import LibAtbus.Proofs.StreamAgreement
