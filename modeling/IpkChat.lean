import IpkChat.Basic
import IpkChat.Udp.Wire
import IpkChat.Udp.Client
import IpkChat.Udp.Session
import IpkChat.Udp.Reliability
import IpkChat.Udp.Acknowledgement
import IpkChat.Udp.Codec
import IpkChat.Udp.Shutdown
import IpkChat.Udp.Phases
import IpkChat.Udp.Sends
import IpkChat.Udp.Outstanding
import IpkChat.Udp.ReplyWait
import IpkChat.Tcp.Wire
import IpkChat.Tcp.Client
import IpkChat.Tcp.Framing
import IpkChat.Tcp.Codec
import IpkChat.Tcp.Session
import IpkChat.Tcp.Writes
import IpkChat.Tcp.Shutdown
import IpkChat.Tcp.Receive
import IpkChat.Tcp.Phases
