import Gatewayd.Errors
import Gatewayd.Pool
import Gatewayd.Network.Utils
import Gatewayd.Network.Proxy
import Gatewayd.Network.ProxySpec
import Gatewayd.Network.Sessions
import Gatewayd.Network.Clients
import Gatewayd.Network.Relay
import Gatewayd.Network.Acquire
import Gatewayd.Network.Concurrent
import Gatewayd.Network.Multicore
import Gatewayd.Network.Progress
import Gatewayd.Cmd.Run
import Gatewayd.Cmd.Init
