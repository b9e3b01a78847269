import MediaTransport.Rtcp.RoundTrip
import MediaTransport.Video.Ownership
import MediaTransport.Anc.Assembly
import MediaTransport.Anc.Packing
import MediaTransport.Anc.FrameContent
import MediaTransport.Anc.FrameTiming
import MediaTransport.Audio.Reassembly
import MediaTransport.Accounts
import MediaTransport.Audio.PacketEpochs
import MediaTransport.Video.FrameCounts
import MediaTransport.Pipeline.RxOrder
import MediaTransport.Video.PortCounts
import MediaTransport.Convert.Avx512Dma
import MediaTransport.Convert.Avx512Pack
import MediaTransport.Convert.FieldSplit
import MediaTransport.Convert.Lossless
import MediaTransport.Convert.TwoWay
import MediaTransport.Dma.Accounting
import MediaTransport.Dma.UserMap
import MediaTransport.Pipeline.St22TxOrder
import MediaTransport.Ptp.Coherence
import MediaTransport.Datapath.Delivery
import MediaTransport.Datapath.EntryLifetime
import MediaTransport.Net.Arp
import MediaTransport.Sched.AppSchedulers
import MediaTransport.Sched.LcoreOwners
import MediaTransport.Sched.Quota
import MediaTransport.Util.HandleFree
import MediaTransport.Ptp.ResultWindow
import MediaTransport.Sched.SchStart
import MediaTransport.Net.MembershipReport
import MediaTransport.Net.DhcpOptions
import MediaTransport.Audio.RateLedger
import MediaTransport.Video.PadLedger
import MediaTransport.Video.DmaSlices
import MediaTransport.Video.HdrSplitPlacement
import MediaTransport.Video.St22Rejection
import MediaTransport.Video.SliceMerge
import MediaTransport.Video.BitmapCapacity
import MediaTransport.Video.EndToEnd
import MediaTransport.Video.ReorderCount
import MediaTransport.Video.EpochTimes
import MediaTransport.Rtcp.Parser
import MediaTransport.Rtcp.Recovery
import MediaTransport.Rtcp.Configuration
import MediaTransport.Anc.Windows
import MediaTransport.Video.AttachArithmetic
import MediaTransport.Video.TxChain
import MediaTransport.Anc.Words
import MediaTransport.Anc.Corruption
