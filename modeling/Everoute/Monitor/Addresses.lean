import Everoute.Monitor.AgentSpec

/-!
# Which addresses a run can hold

Addresses enter the agent's state in one place only: a learned batch writes the text of each
global-unicast address it carries. The merge copies addresses between the stored record and the
cache, writing through the shared maps, and `Create` and `Update` copy the snapshot, read
through the cache, to the server; none of them makes up an address. So any property of address
texts that every learned global-unicast address has holds of every address in every reachable
state, in the cache, on the server and in the informer's index.
-/
namespace Everoute.Monitor

/-- The text of a global-unicast IP, as `net.IP.String` renders it. -/
def GlobalUnicastText (a : IPAddress) : Prop := ∃ ip : IP, ip.isGlobalUnicast ∧ ip.toString = a

section Addresses

variable (P : IPAddress → Prop)

/-- Every address of every interface of the record satisfies `P`. -/
def RecordAddressesIn (agentInfo : Record) : Prop :=
  ∀ e ∈ agentInfo.interfaces, ∀ a ∈ e.2.ipMap.keys, P a

/-- Every address of every map of the cache satisfies `P`. -/
def CacheAddressesIn (ipCache : IPCache) : Prop :=
  ∀ k m, ipCache.lookup k = some m → ∀ a ∈ m.keys, P a

/-- Every address a state holds satisfies `P`: in the cache, on the server and in the
informer's index. -/
structure AddressesIn (state : State) : Prop where
  cache : CacheAddressesIn P state.ipCache
  server : ∀ agentInfo, state.server = some agentInfo → RecordAddressesIn P agentInfo
  informer : ∀ agentInfo, state.informer.indexed = some agentInfo → RecordAddressesIn P agentInfo

/-! ### Maps -/

theorem mem_keys_absorbMatch {matchIntf : Option (OVSInterface IPMap)} {m : IPMap} {a : IPAddress}
    (member : a ∈ (absorbMatch matchIntf m).keys) :
    a ∈ m.keys ∨ ∃ intf, matchIntf = some intf ∧ a ∈ intf.ipMap.keys := by
  cases matchIntf with
  | none => exact .inl member
  | some intf =>
    rw [absorbMatch, GoMap.mem_keys, lookup_absorb] at member
    cases found : m.lookup a with
    | some _ => exact .inl (GoMap.mem_keys.mpr (by simp [found]))
    | none =>
      rw [found, Option.none_or] at member
      exact .inr ⟨intf, rfl, GoMap.mem_keys.mpr member⟩

theorem getCpIntf_mem {μ : Type} {bridgeName : String} {intf : OVSInterface μ} {cpAgentInfo : Record}
    {matchIntf : OVSInterface IPMap} (found : getCpIntf bridgeName intf cpAgentInfo = some matchIntf) :
    ∃ e ∈ cpAgentInfo.interfaces, e.2 = matchIntf := by
  rw [getCpIntf_eq_find, Option.map_eq_some'] at found
  obtain ⟨e, first, rfl⟩ := found
  exact ⟨e, List.mem_of_find?_eq_some first, rfl⟩

variable {P}

/-- A map that absorbed the match from a record keeps to `P` when the map and the record do. -/
theorem absorbMatch_addressesIn {bridgeName : String} {intf : OVSInterface IPMapRef}
    {cpAgentInfo : Record} {m : IPMap} (own : ∀ a ∈ m.keys, P a)
    (remote : RecordAddressesIn P cpAgentInfo) :
    ∀ a ∈ (absorbMatch (getCpIntf bridgeName intf cpAgentInfo) m).keys, P a := fun a member => by
  rcases mem_keys_absorbMatch member with mine | ⟨matchIntf, found, theirs⟩
  · exact own a mine
  · obtain ⟨e, present, rfl⟩ := getCpIntf_mem found
    exact remote e present a theirs

/-- A built interface's map, read through a cache that keeps to `P`, keeps to it. -/
theorem deref_addressesIn {ipCache : IPCache} (cache : CacheAddressesIn P ipCache)
    {bridgeName : String} {intf : OVSInterface IPMapRef}
    (built : BuiltInterface ipCache bridgeName intf) :
    ∀ a ∈ (intf.ipMap.deref ipCache).keys, P a := by
  rcases built.2 with none | ⟨cached, -⟩
  · simp [none, IPMapRef.deref, GoMap.keys_empty]
  · rw [cached, IPMapRef.deref]
    cases found : ipCache.lookup (ifaceKey bridgeName intf.ofport) with
    | none => simp [GoMap.keys_empty]
    | some m => exact cache _ m found

theorem cacheAddressesIn_updateIPCache {ipCache : IPCache} (cache : CacheAddressesIn P ipCache)
    (learned : ∀ ip : IP, ip.isGlobalUnicast → P ip.toString) (localEndpointInfo : GoMap String IP)
    (now : Time) : CacheAddressesIn P (updateIPCache ipCache localEndpointInfo now) := by
  intro k m found
  rw [lookup_updateIPCache] at found
  split at found
  · rename_i ip _
    split at found
    · cases found
      simpa [GoMap.keys, GoMap.single] using learned ip ‹_›
    · exact cache k m found
  · exact cache k m found

/-! ### A sync -/

section Built

variable {cfg : MonitorConfig} {ipCache : IPCache} {hostname : Option String}
  {ovsdbCache : OVSDBCache} {now : Time} {agentInfo : Snapshot}
  (built : getAgentInfo cfg ipCache hostname ovsdbCache now = .ok agentInfo)
  (cache : CacheAddressesIn P ipCache)
include built cache

/-- What `Create` sends keeps to `P`. -/
theorem resolve_addressesIn : RecordAddressesIn P (Snapshot.resolve ipCache agentInfo) := by
  intro e member
  rw [Snapshot.resolve, AgentInfo.interfaces_mapIPMap, List.mem_map] at member
  obtain ⟨e, present, rfl⟩ := member
  exact deref_addressesIn cache (getAgentInfo_built built e present)

variable {cpAgentInfo : Record} (remote : RecordAddressesIn P cpAgentInfo)
include remote

/-- The cache the merge leaves keeps to `P`. -/
theorem mergeAgentInfo_cacheAddressesIn :
    CacheAddressesIn P (mergeAgentInfo agentInfo cpAgentInfo ipCache).2 := by
  intro k m found
  rw [lookup_mergeAgentInfo built] at found
  split at found
  · obtain ⟨before, stored, rfl⟩ := Option.map_eq_some'.mp found
    exact absorbMatch_addressesIn (cache k before stored) remote
  · exact cache k m found

/-- What `Update` sends keeps to `P`. -/
theorem sentUpdate_addressesIn : RecordAddressesIn P (sentUpdate agentInfo cpAgentInfo ipCache) := by
  intro e member
  rw [sentUpdate_eq built] at member
  change e ∈ (agentInfo.mapIPMap _).interfaces at member
  rw [AgentInfo.interfaces_mapIPMap, List.mem_map] at member
  obtain ⟨e, present, rfl⟩ := member
  exact absorbMatch_addressesIn (deref_addressesIn cache (getAgentInfo_built built e present)) remote

end Built

/-- The server's writes only set the resource version. -/
theorem recordAddressesIn_of_interfaces {agentInfo written : Record}
    (same : written.interfaces = agentInfo.interfaces) (sent : RecordAddressesIn P agentInfo) :
    RecordAddressesIn P written :=
  fun e member => sent e (same ▸ member)

/-! ### Runs -/

variable {cfg : MonitorConfig}

/-- Each step keeps every address to `P`, when every learned global-unicast address does. -/
theorem addressesIn_step (learned : ∀ ip : IP, ip.isGlobalUnicast → P ip.toString)
    {state state' : State} (holds : AddressesIn P state) {event : Event}
    (stepped : step cfg state event = some state') : AddressesIn P state' := by
  cases event with
  | learn localEndpointInfo now getFault =>
    cases stepped
    exact ⟨cacheAddressesIn_updateIPCache holds.cache learned localEndpointInfo now, holds.server,
      holds.informer⟩
  | informerSync =>
    cases stepped
    exact ⟨holds.cache, holds.server, holds.server⟩
  | sync ovsdbCache hostname now remote =>
    rcases step_sync_cases stepped with rfl | ⟨agentInfo, built, -, rfl⟩ |
      ⟨agentInfo, cpAgentInfo, built, got, rfl⟩
    · exact holds
    · refine ⟨holds.cache, ?_, holds.informer⟩
      rw [syncCreate_server]
      exact request_preserves (fun _ _ _ accepted => recordAddressesIn_of_interfaces
        (serveCreate_interfaces accepted)) holds.server (resolve_addressesIn built holds.cache) _
    · have fromRecord : RecordAddressesIn P cpAgentInfo := by
        rcases k8sClientGet_eq_ok got with indexed | stored
        · exact holds.informer _ indexed
        · exact holds.server _ stored
      have server : ∀ r, (request serveUpdate state.server
          (sentUpdate agentInfo cpAgentInfo state.ipCache) remote.update).1 = some r →
          RecordAddressesIn P r :=
        request_preserves (fun _ _ _ accepted => recordAddressesIn_of_interfaces
          (serveUpdate_interfaces accepted)) holds.server
        (sentUpdate_addressesIn built holds.cache fromRecord) remote.update
      rcases syncUpdate_cases agentInfo cpAgentInfo remote state with merged | ⟨cleared, -⟩
      · rw [merged]
        exact ⟨mergeAgentInfo_cacheAddressesIn built holds.cache fromRecord, server, holds.informer⟩
      · rw [cleared]
        exact ⟨fun k m found => by simp [GoMap.lookup_empty] at found, server, holds.informer⟩

/-- Every run from a fresh agent, over a stored record that keeps to `P`, keeps every address
to `P`, when every learned global-unicast address does. -/
theorem addressesIn_run (learned : ∀ ip : IP, ip.isGlobalUnicast → P ip.toString)
    {server : Option Record} (written : ∀ r, server = some r → RecordAddressesIn P r)
    {events : List Event} {state : State} (ran : run cfg (State.initial server) events = some state) :
    AddressesIn P state :=
  run_preserves (fun _ _ _ _ holds stepped => addressesIn_step learned holds stepped)
    ⟨fun k m found => by simp [State.initial, GoMap.lookup_empty] at found, written,
      fun _ indexed => by simp [State.initial] at indexed⟩ ran

end Addresses

/-- In every run of a fresh agent over a record it wrote, whatever the batches carry and
whatever the server answers, every address in the cache and in the stored record is the text of
a global-unicast IP. -/
theorem run_addresses_globalUnicast (cfg : MonitorConfig) {server : Option Record}
    (written : ∀ r, server = some r → RecordAddressesIn GlobalUnicastText r)
    {events : List Event} {state : State} (ran : run cfg (State.initial server) events = some state) :
    CacheAddressesIn GlobalUnicastText state.ipCache ∧
      ∀ r, state.server = some r → RecordAddressesIn GlobalUnicastText r :=
  let holds := addressesIn_run (fun ip global => ⟨ip, global, rfl⟩) written ran
  ⟨holds.cache, holds.server⟩

/-- A run that learns a loopback and a global-unicast address between syncs. -/
def mixedRun : List Event :=
  [sampleSync 0, learnOne "br0-5" IP.ipv6loopback 1, learnOne "br0-5" (IP.ipv4 10 0 0 7) 2, sampleSync 3]

theorem run_addresses_globalUnicast_on_mixedRun :
    ∃ state, run sampleConfig (State.initial none) mixedRun = some state ∧
      CacheAddressesIn GlobalUnicastText state.ipCache ∧
      ∀ r, state.server = some r → RecordAddressesIn GlobalUnicastText r :=
  (⟨_, rfl⟩ : ∃ state, run sampleConfig (State.initial none) mixedRun = some state).elim
    fun state ran =>
      ⟨state, ran, run_addresses_globalUnicast sampleConfig (fun _ none => by cases none) ran⟩

end Everoute.Monitor
