import Everoute.Monitor.Fetch
import Everoute.Monitor.Merge
import Everoute.Monitor.Learn

/-!
# The agent as a state machine

The state is what the agent's runs act on: its IP cache, the informer's index, and the
AgentInfo object on the API server, with the resource version that makes `Update` an
optimistic write. Three kinds of event move it: a learned batch (`updateOfPortIPAddress`), a
sync attempt (`syncAgentInfo`), and the informer catching up with the server. What the
environment decides, the mirror, the hostname, the clock and the fate of every request, is data
of the events, so every interleaving of the Go goroutines and every remote outcome is a list
of events. A panic kills the agent: the run stops there, and a restarted agent is a new run
from an empty cache.
-/
namespace Everoute.Monitor

/-! ### The API server -/

/-- The errors of the API client that the agent tells apart, and any other failure. -/
inductive APIError
  | notFound
  | alreadyExists
  | conflict
  | failure (reason : String)
  deriving DecidableEq

/-- What becomes of a request: the server handles it; or it fails with `err` before it reaches
the server; or the server handles it and the client, having lost the reply, sees `err`. -/
inductive Delivery
  | delivered
  | lostBefore (err : APIError)
  | lostAfter (err : APIError)
  deriving DecidableEq

/-- `Get` on the server. -/
def serveGet : Option Record → Except APIError Record
  | some stored => .ok stored
  | none => .error .notFound

/-- `Create` on the server: the object is stored at resource version 1, unless one exists. -/
def serveCreate (stored : Option Record) (agentInfo : Record) : Except APIError Record :=
  match stored with
  | some _ => .error .alreadyExists
  | none => .ok { agentInfo with objectMeta := { agentInfo.objectMeta with resourceVersion := 1 } }

/-- `Update` on the server: accepted only at the stored resource version, which it bumps. -/
def serveUpdate (stored : Option Record) (agentInfo : Record) : Except APIError Record :=
  match stored with
  | none => .error .notFound
  | some current =>
    if agentInfo.objectMeta.resourceVersion = current.objectMeta.resourceVersion then
      .ok { agentInfo with
        objectMeta := { agentInfo.objectMeta with
          resourceVersion := current.objectMeta.resourceVersion + 1 } }
    else .error .conflict

/-- A write request: the stored object after it, and what the client sees. -/
def request (serve : Option Record → Record → Except APIError Record) (stored : Option Record)
    (agentInfo : Record) : Delivery → Option Record × Except APIError Unit
  | .delivered =>
    match serve stored agentInfo with
    | .ok written => (some written, .ok ())
    | .error err => (stored, .error err)
  | .lostBefore err => (stored, .error err)
  | .lostAfter err =>
    match serve stored agentInfo with
    | .ok written => (some written, .error err)
    | .error _ => (stored, .error err)

/-! ### The agent's state -/

/-- The informer's view of the agent's object: whether it has synced, and the object it has
indexed, a copy of the server's at some time. -/
structure Informer where
  hasSynced : Bool
  indexed : Option Record

/-- The agent's IP cache and informer, and the object on the API server. -/
structure State where
  ipCache : IPCache
  informer : Informer
  server : Option Record

/-- A freshly started agent, `NewAgentMonitor`: an empty cache and an informer that has not
synced, with whatever object the server holds. -/
def State.initial (server : Option Record) : State := ⟨GoMap.empty, ⟨false, none⟩, server⟩

/-- `k8sClientGet`: from the informer's index once it has synced, else from the server, a
request that may fail with `getFault` on the way. -/
def k8sClientGet (state : State) (getFault : Option APIError) : Except APIError Record :=
  if state.informer.hasSynced then
    match state.informer.indexed with
    | some agentInfo => .ok agentInfo
    | none => .error .notFound
  else
    match getFault with
    | some err => .error err
    | none => serveGet state.server

/-! ### Learning and syncing -/

/-- `updateOfPortIPAddress`: the state after the batch, and whether it asks for a sync. -/
def updateOfPortIPAddress (state : State) (localEndpointInfo : GoMap String IP) (now : Time)
    (getFault : Option APIError) : State × Bool :=
  let state := { state with ipCache := updateIPCache state.ipCache localEndpointInfo now }
  (state, shouldSyncOnLearnIPLocked state.ipCache (k8sClientGet state getFault))

/-- The fate of each request one sync attempt may send. -/
structure Remote where
  get : Option APIError
  create : Delivery
  update : Delivery

/-- The errors `syncAgentInfo` returns. -/
inductive SyncError
  | getAgentInfo (err : String)
  | create (agentName : String) (err : APIError)
  | fetch (agentName : String) (err : APIError)
  | update (err : APIError)

/-- The text of a sync error, given the text of the API errors (the API packages' own, not
under src/). -/
def SyncError.message (apiText : APIError → String) : SyncError → String
  | .getAgentInfo err => "couldn't get agentinfo: " ++ err
  | .create agentName err => "couldn't create agent " ++ agentName ++ " agentinfo: " ++ apiText err
  | .fetch agentName err => "couldn't fetch agent " ++ agentName ++ " agentinfo: " ++ apiText err
  | .update err => apiText err

/-- How a call ends: it returns, leaving a state and a result, or it panics. -/
inductive Outcome (α : Type)
  | returned (state : State) (result : α)
  | panicked (msg : String)

/-- The branch of `syncAgentInfo` that finds no object: it creates one from the snapshot, read
through the IP cache. -/
def syncCreate (cfg : MonitorConfig) (agentInfo : Snapshot) (remote : Remote) (state : State) :
    State × Except SyncError Unit :=
  let created := request serveCreate state.server (Snapshot.resolve state.ipCache agentInfo) remote.create
  ({ state with server := created.1 }, created.2.mapError (.create cfg.agentName))

/-- The branch of `syncAgentInfo` that finds the object: it merges the object into the
snapshot, which writes into the cached maps, sends the snapshot under the object's metadata,
read through the cache as the merge left it, and clears the cache if `Update` succeeds. -/
def syncUpdate (agentInfo : Snapshot) (originAgentInfo : Record) (remote : Remote) (state : State) :
    State × Except SyncError Unit :=
  let merged := mergeAgentInfo agentInfo originAgentInfo state.ipCache
  let agentInfo := { merged.1 with objectMeta := originAgentInfo.objectMeta }
  let updated := request serveUpdate state.server (Snapshot.resolve merged.2 agentInfo) remote.update
  match updated.2 with
  | .error err => ({ state with ipCache := merged.2, server := updated.1 }, .error (.update err))
  | .ok () => ({ state with ipCache := GoMap.empty, server := updated.1 }, .ok ())

/-- `syncAgentInfo`. -/
def syncAgentInfo (cfg : MonitorConfig) (ovsdbCache : OVSDBCache) (hostname : Option String)
    (now : Time) (remote : Remote) (state : State) : Outcome (Except SyncError Unit) :=
  match getAgentInfo cfg state.ipCache hostname ovsdbCache now with
  | .error (.panic msg) => .panicked msg
  | .error (.error err) => .returned state (.error (.getAgentInfo err))
  | .ok agentInfo =>
    match k8sClientGet state remote.get with
    | .error .notFound =>
      let created := syncCreate cfg agentInfo remote state
      .returned created.1 created.2
    | .error err => .returned state (.error (.fetch cfg.agentName err))
    | .ok originAgentInfo =>
      let updated := syncUpdate agentInfo originAgentInfo remote state
      .returned updated.1 updated.2

/-! ### Runs -/

/-- What can happen next: a learned batch, with the fate of the `Get` its check may send; a
sync attempt; or the informer catching up with the server. -/
inductive Event
  | learn (localEndpointInfo : GoMap String IP) (now : Time) (getFault : Option APIError)
  | sync (ovsdbCache : OVSDBCache) (hostname : Option String) (now : Time) (remote : Remote)
  | informerSync

/-- One event; `none` when the agent panics. -/
def step (cfg : MonitorConfig) (state : State) : Event → Option State
  | .learn localEndpointInfo now getFault =>
    some (updateOfPortIPAddress state localEndpointInfo now getFault).1
  | .sync ovsdbCache hostname now remote =>
    match syncAgentInfo cfg ovsdbCache hostname now remote state with
    | .returned state _ => some state
    | .panicked _ => none
  | .informerSync => some { state with informer := ⟨true, state.server⟩ }

/-- A run of events; `none` once the agent has panicked. -/
def run (cfg : MonitorConfig) (state : State) (events : List Event) : Option State :=
  events.foldlM (step cfg) state

end Everoute.Monitor
