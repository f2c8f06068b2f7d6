import Everoute.Monitor.Agent
import Everoute.Monitor.MergeSpec

/-!
# What one step of the agent can do

One lemma per kind of step says everything the step may change: the server's answers to
`Create` and `Update`, the requests, the three ways `syncAgentInfo` returns, and the events.
The invariants of runs are derived from these and never unfold a step again; `run_preserves`
carries an invariant of single steps over a whole run.
-/
namespace Everoute.Monitor

/-! ### The server's answers -/

theorem serveCreate_eq_ok {stored : Option Record} {agentInfo written : Record} :
    serveCreate stored agentInfo = .ok written ↔
      stored = none ∧
        written = { agentInfo with objectMeta := { agentInfo.objectMeta with resourceVersion := 1 } } := by
  cases stored <;> simp [serveCreate, eq_comm]

theorem serveUpdate_eq_ok {stored : Option Record} {agentInfo written : Record} :
    serveUpdate stored agentInfo = .ok written ↔
      ∃ current, stored = some current ∧
        agentInfo.objectMeta.resourceVersion = current.objectMeta.resourceVersion ∧
        written = { agentInfo with
          objectMeta := { agentInfo.objectMeta with
            resourceVersion := current.objectMeta.resourceVersion + 1 } } := by
  cases stored with
  | none => simp [serveUpdate]
  | some current =>
    simp only [serveUpdate, Option.some.injEq, exists_eq_left']
    split <;> simp_all [eq_comm]

section Request

variable {serve : Option Record → Record → Except APIError Record} {stored : Option Record}
  {agentInfo : Record} {delivery : Delivery}

/-- A write leaves the stored object, or stores what the server accepted. -/
theorem request_fst (serve : Option Record → Record → Except APIError Record) (stored : Option Record)
    (agentInfo : Record) (delivery : Delivery) :
    (request serve stored agentInfo delivery).1 = stored ∨
      ∃ written, serve stored agentInfo = .ok written ∧
        (request serve stored agentInfo delivery).1 = some written := by
  cases delivery with
  | delivered => simp only [request]; split <;> simp_all
  | lostBefore err => exact .inl rfl
  | lostAfter err => simp only [request]; split <;> simp_all

/-- A write the client sees succeed was delivered, and the server stored it. -/
theorem request_snd_eq_ok (succeeded : (request serve stored agentInfo delivery).2 = .ok ()) :
    delivery = .delivered ∧ ∃ written, serve stored agentInfo = .ok written ∧
      (request serve stored agentInfo delivery).1 = some written := by
  cases delivery with
  | delivered => simp only [request] at succeeded ⊢; split at succeeded <;> simp_all
  | lostBefore err => cases succeeded
  | lostAfter err => simp only [request] at succeeded; split at succeeded <;> cases succeeded

/-- A property of records that the server's write keeps holds of every object a write leaves,
when it holds of the stored object and of what was sent. -/
theorem request_preserves {Q : Record → Prop}
    (keeps : ∀ stored agentInfo written, serve stored agentInfo = .ok written → Q agentInfo → Q written)
    (before : ∀ r, stored = some r → Q r) (sent : Q agentInfo) (delivery : Delivery) :
    ∀ r, (request serve stored agentInfo delivery).1 = some r → Q r := by
  intro r stored'
  rcases request_fst serve stored agentInfo delivery with same | ⟨written, accepted, wrote⟩
  · exact before r (same ▸ stored')
  · cases wrote.symm.trans stored'
    exact keeps _ _ _ accepted sent

end Request

theorem serveCreate_interfaces {stored : Option Record} {agentInfo written : Record}
    (accepted : serveCreate stored agentInfo = .ok written) : written.interfaces = agentInfo.interfaces := by
  rw [(serveCreate_eq_ok.mp accepted).2]; rfl

theorem serveUpdate_interfaces {stored : Option Record} {agentInfo written : Record}
    (accepted : serveUpdate stored agentInfo = .ok written) : written.interfaces = agentInfo.interfaces := by
  obtain ⟨_, _, _, rfl⟩ := serveUpdate_eq_ok.mp accepted; rfl

/-! ### The branches of a sync -/

section Sync

variable {cfg : MonitorConfig} {agentInfo : Snapshot} {originAgentInfo : Record} {remote : Remote}
  {state : State}

@[simp] theorem syncCreate_ipCache : (syncCreate cfg agentInfo remote state).1.ipCache = state.ipCache :=
  rfl

@[simp] theorem syncCreate_informer :
    (syncCreate cfg agentInfo remote state).1.informer = state.informer := rfl

theorem syncCreate_server : (syncCreate cfg agentInfo remote state).1.server =
    (request serveCreate state.server (Snapshot.resolve state.ipCache agentInfo) remote.create).1 := rfl

/-- `Create` over a stored object leaves it as it is. -/
theorem syncCreate_server_of_some {stored : Record} (present : state.server = some stored) :
    (syncCreate cfg agentInfo remote state).1.server = some stored := by
  rw [syncCreate_server]
  rcases request_fst serveCreate state.server (Snapshot.resolve state.ipCache agentInfo)
    remote.create with same | ⟨_, accepted, -⟩
  · rw [same, present]
  · cases present.symm.trans (serveCreate_eq_ok.mp accepted).1

/-- The object `syncUpdate` sends. -/
def sentUpdate (agentInfo : Snapshot) (originAgentInfo : Record) (ipCache : IPCache) : Record :=
  let merged := mergeAgentInfo agentInfo originAgentInfo ipCache
  Snapshot.resolve merged.2 { merged.1 with objectMeta := originAgentInfo.objectMeta }

/-- What `Update` sends after merging a built snapshot: each interface's map before the merge,
read through the cache, with its match's entries absorbed, under the record's metadata. -/
theorem sentUpdate_eq {ipCache : IPCache} {hostname : Option String} {ovsdbCache : OVSDBCache}
    {now : Time} (built : getAgentInfo cfg ipCache hostname ovsdbCache now = .ok agentInfo) :
    sentUpdate agentInfo originAgentInfo ipCache =
      { agentInfo.mapIPMap (fun b intf =>
          absorbMatch (getCpIntf b intf originAgentInfo) (intf.ipMap.deref ipCache)) with
        objectMeta := originAgentInfo.objectMeta } := by
  change { Snapshot.resolve _ _ with objectMeta := originAgentInfo.objectMeta } = _
  rw [resolve_mergeAgentInfo built]

@[simp] theorem syncUpdate_informer :
    (syncUpdate agentInfo originAgentInfo remote state).1.informer = state.informer := by
  simp only [syncUpdate]; split <;> rfl

theorem syncUpdate_server : (syncUpdate agentInfo originAgentInfo remote state).1.server =
    (request serveUpdate state.server (sentUpdate agentInfo originAgentInfo state.ipCache)
      remote.update).1 := by
  simp only [syncUpdate]; split <;> rfl

/-- The state the Update branch leaves: the cache as the merge wrote it, or, when the client
sees `Update` succeed, an empty one; and the server's object as the request left it. -/
theorem syncUpdate_cases (agentInfo : Snapshot) (originAgentInfo : Record) (remote : Remote)
    (state : State) :
    let merged := mergeAgentInfo agentInfo originAgentInfo state.ipCache
    let updated := request serveUpdate state.server (sentUpdate agentInfo originAgentInfo state.ipCache)
      remote.update
    (syncUpdate agentInfo originAgentInfo remote state).1 =
        { state with ipCache := merged.2, server := updated.1 } ∨
      (syncUpdate agentInfo originAgentInfo remote state).1 =
          { state with ipCache := GoMap.empty, server := updated.1 } ∧ updated.2 = .ok () := by
  simp only [syncUpdate]; split
  · exact .inl rfl
  · exact .inr ⟨rfl, ‹_›⟩

theorem syncCreate_eq_ok {state' : State}
    (created : syncCreate cfg agentInfo remote state = (state', .ok ())) :
    state.server = none ∧ state'.ipCache = state.ipCache ∧
      state'.server = some { Snapshot.resolve state.ipCache agentInfo with
        objectMeta := { agentInfo.objectMeta with resourceVersion := 1 } } := by
  simp only [syncCreate, Prod.mk.injEq] at created
  obtain ⟨rfl, reply⟩ := created
  have succeeded : (request serveCreate state.server (Snapshot.resolve state.ipCache agentInfo)
      remote.create).2 = .ok () := by
    revert reply; cases (request serveCreate _ _ _).2 <;> simp [Except.mapError]
  obtain ⟨-, written, accepted, wrote⟩ := request_snd_eq_ok succeeded
  obtain ⟨none, rfl⟩ := serveCreate_eq_ok.mp accepted
  exact ⟨none, rfl, wrote⟩

theorem syncUpdate_eq_ok {state' : State}
    (updated : syncUpdate agentInfo originAgentInfo remote state = (state', .ok ())) :
    state'.ipCache = GoMap.empty ∧ ∃ written,
      serveUpdate state.server (sentUpdate agentInfo originAgentInfo state.ipCache) = .ok written ∧
        state'.server = some written := by
  simp only [syncUpdate] at updated
  split at updated
  · cases updated
  · rename_i succeeded
    cases updated
    obtain ⟨-, written, accepted, wrote⟩ := request_snd_eq_ok succeeded
    exact ⟨rfl, written, accepted, wrote⟩

end Sync

/-- What `k8sClientGet` returns is the informer's object or the server's. -/
theorem k8sClientGet_eq_ok {state : State} {getFault : Option APIError} {agentInfo : Record}
    (got : k8sClientGet state getFault = .ok agentInfo) :
    state.informer.indexed = some agentInfo ∨ state.server = some agentInfo := by
  unfold k8sClientGet at got
  split at got
  · split at got
    · cases got; exact .inl ‹_›
    · cases got
  · split at got
    · cases got
    · unfold serveGet at got; split at got
      · cases got; exact .inr ‹_›
      · cases got

/-- A sync that returns left the state as it was, with an error, or took the Create branch, or the Update
branch, each from a snapshot it built and the answer `k8sClientGet` gave. -/
theorem syncAgentInfo_returned {cfg : MonitorConfig} {ovsdbCache : OVSDBCache}
    {hostname : Option String} {now : Time} {remote : Remote} {state state' : State}
    {result : Except SyncError Unit}
    (returned : syncAgentInfo cfg ovsdbCache hostname now remote state = .returned state' result) :
    (state' = state ∧ ∃ err, result = .error err) ∨
      (∃ agentInfo, getAgentInfo cfg state.ipCache hostname ovsdbCache now = .ok agentInfo ∧
        k8sClientGet state remote.get = .error .notFound ∧
        syncCreate cfg agentInfo remote state = (state', result)) ∨
      ∃ agentInfo originAgentInfo,
        getAgentInfo cfg state.ipCache hostname ovsdbCache now = .ok agentInfo ∧
        k8sClientGet state remote.get = .ok originAgentInfo ∧
        syncUpdate agentInfo originAgentInfo remote state = (state', result) := by
  unfold syncAgentInfo at returned
  split at returned
  · cases returned
  · cases returned; exact .inl ⟨rfl, _, rfl⟩
  · rename_i agentInfo built
    split at returned
    · cases returned; exact .inr (.inl ⟨agentInfo, built, ‹_›, rfl⟩)
    · cases returned; exact .inl ⟨rfl, _, rfl⟩
    · cases returned; exact .inr (.inr ⟨agentInfo, _, built, ‹_›, rfl⟩)

/-! ### Events and runs -/

section Run

variable {cfg : MonitorConfig} {state state' : State}

@[simp] theorem step_learn (localEndpointInfo : GoMap String IP) (now : Time)
    (getFault : Option APIError) :
    step cfg state (.learn localEndpointInfo now getFault) =
      some { state with ipCache := updateIPCache state.ipCache localEndpointInfo now } := rfl

@[simp] theorem step_informerSync :
    step cfg state .informerSync = some { state with informer := ⟨true, state.server⟩ } := rfl

theorem step_sync_eq_some {ovsdbCache : OVSDBCache} {hostname : Option String} {now : Time}
    {remote : Remote} :
    step cfg state (.sync ovsdbCache hostname now remote) = some state' ↔
      ∃ result, syncAgentInfo cfg ovsdbCache hostname now remote state = .returned state' result := by
  simp only [step]
  split <;> simp_all

/-- A sync step leaves the state as it was, or moves to the state of the Create branch or of
the Update branch, each from a snapshot it built and the answer `k8sClientGet` gave. -/
theorem step_sync_cases {ovsdbCache : OVSDBCache} {hostname : Option String} {now : Time}
    {remote : Remote} (stepped : step cfg state (.sync ovsdbCache hostname now remote) = some state') :
    state' = state ∨
      (∃ agentInfo, getAgentInfo cfg state.ipCache hostname ovsdbCache now = .ok agentInfo ∧
        k8sClientGet state remote.get = .error .notFound ∧
        state' = (syncCreate cfg agentInfo remote state).1) ∨
      ∃ agentInfo originAgentInfo,
        getAgentInfo cfg state.ipCache hostname ovsdbCache now = .ok agentInfo ∧
        k8sClientGet state remote.get = .ok originAgentInfo ∧
        state' = (syncUpdate agentInfo originAgentInfo remote state).1 := by
  obtain ⟨result, returned⟩ := step_sync_eq_some.mp stepped
  rcases syncAgentInfo_returned returned with ⟨rfl, -⟩ | ⟨agentInfo, built, got, created⟩ |
    ⟨agentInfo, originAgentInfo, built, got, updated⟩
  · exact .inl rfl
  · exact .inr (.inl ⟨agentInfo, built, got, (congrArg Prod.fst created).symm⟩)
  · exact .inr (.inr ⟨agentInfo, originAgentInfo, built, got, (congrArg Prod.fst updated).symm⟩)

@[simp] theorem run_nil : run cfg state [] = some state := rfl

theorem run_cons (event : Event) (events : List Event) :
    run cfg state (event :: events) = (step cfg state event).bind (run cfg · events) := rfl

theorem run_append (events events' : List Event) :
    run cfg state (events ++ events') = (run cfg state events).bind (run cfg · events') :=
  List.foldlM_append _ _ _ _

/-- What every step of a run keeps, the run keeps. -/
theorem run_preserves {Inv : State → Prop} {events : List Event}
    (preserved : ∀ event ∈ events, ∀ state state', Inv state → step cfg state event = some state' →
      Inv state')
    (holds : Inv state) (ran : run cfg state events = some state') : Inv state' := by
  induction events generalizing state with
  | nil => cases ran; exact holds
  | cons event events ih =>
    rw [run_cons] at ran
    cases stepped : step cfg state event with
    | none => simp [stepped] at ran
    | some next =>
      rw [stepped, Option.some_bind] at ran
      exact ih (fun e member => preserved e (List.mem_cons_of_mem event member))
        (preserved event (List.mem_cons_self event events) _ _ holds stepped) ran

end Run

/-! ### Samples -/

/-- The sample mirror of a healthy switch: bridge `br0` with one port, whose interfaces are
`eth0`, at port number 5, and `eth1`, which has an error. -/
def sampleOVS : OVSDBCache := sampleMirror (.atom (.string "2.14")) (.atom (.string "br0")) (.set [])

/-- Every request of a sync reaches the server and its reply comes back. -/
def allDelivered : Remote := ⟨none, .delivered, .delivered⟩

/-- A sync of the sample mirror, with every request delivered. -/
def sampleSync (now : Time) : Event := .sync sampleOVS none now allDelivered

/-- A batch that learns one address. -/
def learnOne (bridgePort : String) (ip : IP) (now : Time) : Event :=
  .learn (GoMap.single bridgePort ip) now none

end Everoute.Monitor
