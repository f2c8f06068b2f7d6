import Everoute.Monitor.GoMap
import Everoute.Monitor.Format
import Everoute.Monitor.NetIP
import Everoute.Monitor.Types
import Everoute.Monitor.Ovsdb
import Everoute.Monitor.Fetch
import Everoute.Monitor.FetchSpec
import Everoute.Monitor.Merge
import Everoute.Monitor.Snapshot
import Everoute.Monitor.MergeSpec
import Everoute.Monitor.Learn
import Everoute.Monitor.Agent
import Everoute.Monitor.AgentSpec
import Everoute.Monitor.Addresses
import Everoute.Monitor.Failures
import Everoute.Monitor.Persistence
import Everoute.Monitor.Resync
import Everoute.Monitor.Retry
import Everoute.Monitor.Queue
