import Opmip.Buffer
import Opmip.Ip.Mproto
import Opmip.Ip.Icmp
import Opmip.Pmip.MpSender
import Opmip.Pmip.MpDecode
import Opmip.Pmip.IcmpSender
import Opmip.Sys.Ip6TunnelService
