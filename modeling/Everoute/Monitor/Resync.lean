import Everoute.Monitor.Persistence

/-!
# Two syncs in a row

`getAgentInfo` lists the bridges in the order a `range` over the Bridge table yields, and Go
draws a fresh order for every `range` over a map. Two successful syncs of one mirror, with
nothing learned between them, can so store the same bridges in two orders.

When the second build visits the rows in the same order, and no two interfaces share a key,
the second sync stores what the first did. After a `Create` the cache is kept, and each
interface reads through it the map it sent; after an `Update` the cache is empty, and each
interface takes its map from its own interface of the record. Either way every interface ends
with the map the record already holds for it. When the second build visits the rows in another
order, the same holds of each bridge: the order of the bridges is all that changes.
-/
namespace Everoute.Monitor

/-! ### A mirror with two bridges -/

/-- The Bridge table's rows: `br0` with port `p0`, and `br1` with port `p1`. -/
def bridgeRows : List (UUID × Row) :=
  [("b0", Row.ofList [("name", .atom (.string "br0")), ("ports", .atom (.uuid "p0"))]),
    ("b1", Row.ofList [("name", .atom (.string "br1")), ("ports", .atom (.uuid "p1"))])]

/-- A port row with one interface. -/
def portRow (name : String) (iface : UUID) : Row :=
  Row.ofList [("name", .atom (.string name)), ("external_ids", .map GoMap.empty),
    ("vlan_mode", .set []), ("bond_mode", .set []), ("tag", .set []), ("trunks", .set []),
    ("interfaces", .atom (.uuid iface))]

/-- An interface row with a port number and no error. -/
def ifaceRow (name : String) (ofport : Int) : Row :=
  Row.ofList [("name", .atom (.string name)), ("type", .atom (.string "")),
    ("external_ids", .map GoMap.empty), ("mac_in_use", .atom (.string "aa:bb")),
    ("ofport", .atom (.real ofport)), ("error", .set [])]

/-- The mirror of a switch with bridges `br0` and `br1`, one interface each, whose Bridge table
a `range` visits in the order of `bridges`. -/
def twoBridgeMirror (bridges : List (UUID × Row)) : OVSDBCache :=
  GoMap.ofList [
    ("Open_vSwitch", GoMap.ofList [("root", Row.ofList [("ovs_version", .atom (.string "2.14"))])]),
    ("Bridge", GoMap.ofList bridges),
    ("Port", GoMap.ofList [("p0", portRow "p0" "i0"), ("p1", portRow "p1" "i1")]),
    ("Interface", GoMap.ofList [("i0", ifaceRow "eth0" 5), ("i1", ifaceRow "eth1" 6)])]

/-- From a fresh agent, a sync creates the object with the bridges in one order; the next sync,
of the same rows visited in the other order, updates it with the bridges swapped. -/
theorem resync_reorders_bridges :
    ((twoBridgeMirror bridgeRows.reverse).table "Bridge").entries.Perm
        ((twoBridgeMirror bridgeRows).table "Bridge").entries ∧
      ∃ first, syncAgentInfo sampleConfig (twoBridgeMirror bridgeRows) none 0 allDelivered
          (State.initial none) = .returned first (.ok ()) ∧
        ∃ second, syncAgentInfo sampleConfig (twoBridgeMirror bridgeRows.reverse) none 1 allDelivered
            first = .returned second (.ok ()) ∧
          first.server.map (fun r => r.ovsInfo.bridges.map OVSBridge.name) = some ["br0", "br1"] ∧
          second.server.map (fun r => r.ovsInfo.bridges.map OVSBridge.name) = some ["br1", "br0"] :=
  ⟨by decide, _, rfl, _, rfl, rfl, rfl⟩

/-! ### Two syncs of one mirror -/

section Resync

variable {cfg : MonitorConfig} {ovsdbCache : OVSDBCache} {hostname : Option String}

/-- The check on a mirror that the second sync needs: no two interfaces of a snapshot built
from it share a key. A mirror whose build fails passes. -/
def distinctKeys (cfg : MonitorConfig) (ovsdbCache : OVSDBCache) : Bool :=
  match getAgentInfo cfg GoMap.empty none ovsdbCache 0 with
  | .ok agentInfo => decide agentInfo.ifaceKeys.Nodup
  | .error _ => true

theorem distinctKeys_spec (distinct : distinctKeys cfg ovsdbCache = true) {ipCache : IPCache}
    {now : Time} {agentInfo : Snapshot}
    (built : getAgentInfo cfg ipCache hostname ovsdbCache now = .ok agentInfo) :
    agentInfo.ifaceKeys.Nodup := by
  obtain ⟨probe, probed, sameKeys⟩ := getAgentInfo_ok_congr built GoMap.empty none 0
  rw [distinctKeys, probed, decide_eq_true_eq] at distinct
  exact sameKeys ▸ distinct

theorem getAgentInfo_hostname {ipCache : IPCache} {now : Time} {agentInfo : Snapshot}
    (built : getAgentInfo cfg ipCache hostname ovsdbCache now = .ok agentInfo) :
    agentInfo.hostname = hostname.getD "" := by
  have same := getAgentInfo_hostname_now cfg ipCache ovsdbCache hostname hostname now now
  rw [built] at same
  exact congrArg AgentInfo.hostname (Except.ok.inj same)

/-- Builds of one mirror from one cache differ only in their health condition. -/
theorem getAgentInfo_ovsInfo_of_now {ipCache : IPCache} {now now' : Time} {agentInfo agentInfo' : Snapshot}
    (built : getAgentInfo cfg ipCache hostname ovsdbCache now = .ok agentInfo)
    (built' : getAgentInfo cfg ipCache hostname ovsdbCache now' = .ok agentInfo') :
    agentInfo'.ovsInfo = agentInfo.ovsInfo := by
  have same := getAgentInfo_hostname_now cfg ipCache ovsdbCache hostname hostname now now'
  rw [built, built'] at same
  obtain rfl := Except.ok.inj same
  rfl

/-- Builds of one mirror with one hostname have one shape, whatever the cache and the clock. -/
theorem getAgentInfo_shape_ovsInfo {ipCache ipCache' : IPCache} {now now' : Time}
    {agentInfo agentInfo' : Snapshot}
    (built : getAgentInfo cfg ipCache hostname ovsdbCache now = .ok agentInfo)
    (built' : getAgentInfo cfg ipCache' hostname ovsdbCache now' = .ok agentInfo') :
    agentInfo'.shape.ovsInfo = agentInfo.shape.ovsInfo := by
  have shapes := getAgentInfo_shape cfg ipCache ipCache' hostname ovsdbCache now
  have atNow := getAgentInfo_hostname_now cfg ipCache' ovsdbCache hostname hostname now' now
  rw [built'] at atNow
  rw [built, atNow] at shapes
  exact (congrArg AgentInfo.ovsInfo (Except.ok.inj shapes)).symm

/-- Builds of a mirror and of the mirror visited in another order, with one hostname, have one
version and the same bridges in another order, whatever the cache and the clock. -/
theorem getAgentInfo_shape_reordered {ovsdbCache' : OVSDBCache}
    (reordered : ReorderedBridges ovsdbCache ovsdbCache') {ipCache ipCache' : IPCache} {now now' : Time}
    {agentInfo agentInfo' : Snapshot}
    (built : getAgentInfo cfg ipCache hostname ovsdbCache now = .ok agentInfo)
    (built' : getAgentInfo cfg ipCache' hostname ovsdbCache' now' = .ok agentInfo') :
    agentInfo'.shape.ovsInfo.version = agentInfo.shape.ovsInfo.version ∧
      agentInfo'.shape.ovsInfo.bridges.Perm agentInfo.shape.ovsInfo.bridges := by
  obtain ⟨bridges, rebuilt, perm⟩ := getAgentInfo_reordered reordered built
  rw [getAgentInfo_shape_ovsInfo rebuilt built']
  exact ⟨rfl, perm.map _⟩

/-- Builds of a mirror and of the mirror visited in another order, from one cache, have the
same interfaces in another order. -/
theorem getAgentInfo_interfaces_reordered {ovsdbCache' : OVSDBCache}
    (reordered : ReorderedBridges ovsdbCache ovsdbCache') {ipCache : IPCache} {now now' : Time}
    {agentInfo agentInfo' : Snapshot}
    (built : getAgentInfo cfg ipCache hostname ovsdbCache now = .ok agentInfo)
    (built' : getAgentInfo cfg ipCache hostname ovsdbCache' now' = .ok agentInfo') :
    agentInfo'.interfaces.Perm agentInfo.interfaces := by
  obtain ⟨bridges, rebuilt, perm⟩ := getAgentInfo_reordered reordered built
  exact AgentInfo.interfaces_perm (by rw [getAgentInfo_ovsInfo_of_now rebuilt built']; exact perm)

end Resync

/-- The map of the record's first interface on `bridgeName` with the port number of `intf`;
empty when there is none. -/
def ownMap {μ : Type} (agentInfo : Record) (bridgeName : String) (intf : OVSInterface μ) : IPMap :=
  ((getCpIntf bridgeName intf agentInfo).map (·.ipMap)).getD GoMap.empty

/-- In a record whose interfaces have distinct keys, every interface is its own match. -/
theorem getCpIntf_self {agentInfo : Record} (distinct : agentInfo.ifaceKeys.Nodup)
    {e : String × OVSInterface IPMap} (member : e ∈ agentInfo.interfaces) :
    getCpIntf e.1 e.2 agentInfo = some e.2 := by
  rw [getCpIntf_eq_find]
  obtain ⟨first, found⟩ : ∃ first, agentInfo.interfaces.find?
      (fun remote => remote.1 == e.1 && remote.2.ofport == e.2.ofport) = some first :=
    Option.isSome_iff_exists.mp (List.find?_isSome.mpr ⟨e, member, by simp⟩)
  have matched := List.find?_some found
  simp only [Bool.and_eq_true, beq_iff_eq] at matched
  have same : first = e := List.inj_on_of_nodup_map distinct (List.mem_of_find?_eq_some found) member
    (show ifaceKey first.1 first.2.ofport = ifaceKey e.1 e.2.ofport by rw [matched.1, matched.2])
  rw [found, same]; rfl

/-- A record whose interfaces have distinct keys is its shape with each interface's own map. -/
theorem shape_mapIPMap_ownMap {agentInfo : Record} (distinct : agentInfo.ifaceKeys.Nodup) :
    agentInfo.shape.mapIPMap (ownMap agentInfo) = agentInfo := by
  rw [AgentInfo.shape, AgentInfo.mapIPMap_mapIPMap]
  conv_rhs => rw [← AgentInfo.mapIPMap_ipMap agentInfo]
  exact AgentInfo.mapIPMap_congr fun e member => by
    show ((getCpIntf e.1 e.2 agentInfo).map (·.ipMap)).getD GoMap.empty = e.2.ipMap
    rw [getCpIntf_self distinct member]; rfl

/-- An `Update` in which every interface ends with the map the record holds for it sends the
snapshot's shape filled with the record's maps. -/
theorem sentUpdate_ovsInfo_ownMap {cfg : MonitorConfig} {ipCache : IPCache} {hostname : Option String}
    {ovsdbCache : OVSDBCache} {now : Time} {agentInfo : Snapshot}
    (built : getAgentInfo cfg ipCache hostname ovsdbCache now = .ok agentInfo) {stored : Record}
    (own : ∀ e ∈ agentInfo.interfaces,
      absorbMatch (getCpIntf e.1 e.2 stored) (e.2.ipMap.deref ipCache) = ownMap stored e.1 e.2) :
    (sentUpdate agentInfo stored ipCache).ovsInfo = (agentInfo.shape.mapIPMap (ownMap stored)).ovsInfo := by
  have merged : agentInfo.mapIPMap (fun b intf =>
      absorbMatch (getCpIntf b intf stored) (intf.ipMap.deref ipCache)) =
        agentInfo.shape.mapIPMap (ownMap stored) := by
    rw [AgentInfo.shape, AgentInfo.mapIPMap_mapIPMap]
    exact AgentInfo.mapIPMap_congr own
  rw [sentUpdate_eq built, ← merged]

/-- The shape of a record whose keys are distinct, filled with the record's maps, is the
record. -/
theorem ownMap_ovsInfo_of_shape {agentInfo : Snapshot} {stored : Record}
    (distinct : stored.ifaceKeys.Nodup) (sameShape : agentInfo.shape.ovsInfo = stored.shape.ovsInfo) :
    (agentInfo.shape.mapIPMap (ownMap stored)).ovsInfo = stored.ovsInfo :=
  calc (agentInfo.shape.mapIPMap (ownMap stored)).ovsInfo
      = (stored.shape.mapIPMap (ownMap stored)).ovsInfo := by
        rw [AgentInfo.mapIPMap_ovsInfo, AgentInfo.mapIPMap_ovsInfo, sameShape]
    _ = stored.ovsInfo := by rw [shape_mapIPMap_ownMap distinct]

/-- The same, for the record's shape with its bridges in another order. -/
theorem ownMap_ovsInfo_of_perm {agentInfo : Snapshot} {stored : Record}
    (distinct : stored.ifaceKeys.Nodup)
    (version : agentInfo.shape.ovsInfo.version = stored.shape.ovsInfo.version)
    (perm : agentInfo.shape.ovsInfo.bridges.Perm stored.shape.ovsInfo.bridges) :
    (agentInfo.shape.mapIPMap (ownMap stored)).ovsInfo.version = stored.ovsInfo.version ∧
      (agentInfo.shape.mapIPMap (ownMap stored)).ovsInfo.bridges.Perm stored.ovsInfo.bridges := by
  rw [← congrArg AgentInfo.ovsInfo (shape_mapIPMap_ownMap distinct), AgentInfo.mapIPMap_ovsInfo,
    AgentInfo.mapIPMap_ovsInfo]
  exact ⟨version, perm.map _⟩

/-- A record whose `OVSInfo` rewrites the maps of a snapshot has the snapshot's keys and
shape. -/
theorem keys_shape_of_mapIPMap {agentInfo : Snapshot} {f : String → OVSInterface IPMapRef → IPMap}
    {written : Record} (wrote : written.ovsInfo = (agentInfo.mapIPMap f).ovsInfo) :
    written.ifaceKeys = agentInfo.ifaceKeys ∧ written.shape.ovsInfo = agentInfo.shape.ovsInfo :=
  ⟨(AgentInfo.ifaceKeys_of_ovsInfo wrote).trans (AgentInfo.ifaceKeys_mapIPMap f agentInfo),
    (AgentInfo.shape_ovsInfo_of_ovsInfo wrote).trans
      (congrArg AgentInfo.ovsInfo (AgentInfo.shape_mapIPMap f agentInfo))⟩

/-- After a `Create` the cache is kept, and each interface the snapshot sent reads through it
the map the record holds for it. -/
theorem own_after_create {ipCache : IPCache} {agentInfo agentInfo' : Snapshot} {written : Record}
    (distinct : written.ifaceKeys.Nodup)
    (sent : written.ovsInfo = (Snapshot.resolve ipCache agentInfo).ovsInfo)
    (within : ∀ e ∈ agentInfo'.interfaces, e ∈ agentInfo.interfaces) :
    ∀ e ∈ agentInfo'.interfaces,
      absorbMatch (getCpIntf e.1 e.2 written) (e.2.ipMap.deref ipCache) = ownMap written e.1 e.2 := by
  intro e member
  have sentMember : (e.1, e.2.withIPMap (e.2.ipMap.deref ipCache)) ∈ written.interfaces := by
    rw [AgentInfo.interfaces_of_ovsInfo sent, Snapshot.resolve, AgentInfo.interfaces_mapIPMap]
    exact List.mem_map_of_mem _ (within e member)
  have own : getCpIntf e.1 e.2 written = some (e.2.withIPMap (e.2.ipMap.deref ipCache)) :=
    getCpIntf_self distinct sentMember
  rw [ownMap, own]
  exact absorb_self _

/-- After an `Update` the cache is empty, and each interface of a later snapshot takes from the
record the map it holds. -/
theorem own_after_update {cfg : MonitorConfig} {hostname : Option String} {ovsdbCache : OVSDBCache}
    {now : Time} {agentInfo : Snapshot}
    (built : getAgentInfo cfg GoMap.empty hostname ovsdbCache now = .ok agentInfo) (written : Record) :
    ∀ e ∈ agentInfo.interfaces,
      absorbMatch (getCpIntf e.1 e.2 written) (e.2.ipMap.deref GoMap.empty) = ownMap written e.1 e.2 := by
  intro e member
  have uncached : e.2.ipMap.deref GoMap.empty = GoMap.empty := by
    rcases (getAgentInfo_built built e member).2 with none | ⟨-, present⟩
    · rw [none]; rfl
    · simp [GoMap.contains] at present
  rw [uncached, ownMap]
  cases getCpIntf e.1 e.2 written with
  | none => rfl
  | some matchIntf => exact absorb_empty matchIntf.ipMap

/-- A successful sync from a sound state created the object from the snapshot, keeping the
cache, or updated the server's own object and cleared the cache. -/
theorem syncAgentInfo_eq_ok {cfg : MonitorConfig} {ovsdbCache : OVSDBCache}
    {hostname : Option String} {now : Time} {remote : Remote} {state state' : State}
    (sound : Sound state)
    (synced : syncAgentInfo cfg ovsdbCache hostname now remote state = .returned state' (.ok ())) :
    ∃ agentInfo written, getAgentInfo cfg state.ipCache hostname ovsdbCache now = .ok agentInfo ∧
      state'.server = some written ∧ written.hostname = agentInfo.hostname ∧
      ((state.server = none ∧ state'.ipCache = state.ipCache ∧
          written.ovsInfo = (Snapshot.resolve state.ipCache agentInfo).ovsInfo) ∨
        ∃ stored, state.server = some stored ∧ state'.ipCache = GoMap.empty ∧
          written.ovsInfo = (sentUpdate agentInfo stored state.ipCache).ovsInfo) := by
  rcases syncAgentInfo_returned synced with ⟨-, err, failed⟩ | ⟨agentInfo, built, -, created⟩ |
    ⟨agentInfo, cpAgentInfo, built, got, updated⟩
  · cases failed
  · obtain ⟨none, kept, stored⟩ := syncCreate_eq_ok created
    exact ⟨agentInfo, _, built, stored, rfl, .inl ⟨none, kept, rfl⟩⟩
  · obtain ⟨cleared, written, accepted, stored⟩ := syncUpdate_eq_ok updated
    obtain ⟨current, present, sameVersion, rfl⟩ := serveUpdate_eq_ok.mp accepted
    obtain rfl := sound.origin_eq got present sameVersion
    exact ⟨agentInfo, _, built, stored, rfl, .inr ⟨cpAgentInfo, present, cleared, rfl⟩⟩

/-- Two syncs in a row that both succeed, from a reachable state: the first stores an object,
by `Create`, keeping the cache, or by `Update`, clearing it; the second updates that object. -/
theorem resync_cases {cfg : MonitorConfig} {server : Option Record}
    (valid : ∀ r, server = some r → OfportsValid r) {events : List Event} {state : State}
    (ran : run cfg (State.initial server) events = some state) {ovsdbCache ovsdbCache' : OVSDBCache}
    {hostname hostname' : Option String} {now now' : Time} {remote remote' : Remote}
    {first second : State}
    (synced : syncAgentInfo cfg ovsdbCache hostname now remote state = .returned first (.ok ()))
    (resynced : syncAgentInfo cfg ovsdbCache' hostname' now' remote' first = .returned second (.ok ())) :
    ∃ agentInfo agentInfo' written written',
      getAgentInfo cfg state.ipCache hostname ovsdbCache now = .ok agentInfo ∧
      getAgentInfo cfg first.ipCache hostname' ovsdbCache' now' = .ok agentInfo' ∧
      first.server = some written ∧ second.server = some written' ∧
      written.hostname = hostname.getD "" ∧ written'.hostname = hostname'.getD "" ∧
      written'.ovsInfo = (sentUpdate agentInfo' written first.ipCache).ovsInfo ∧
      ((first.ipCache = state.ipCache ∧
          written.ovsInfo = (Snapshot.resolve state.ipCache agentInfo).ovsInfo) ∨
        first.ipCache = GoMap.empty ∧
          ∃ stored, written.ovsInfo = (sentUpdate agentInfo stored state.ipCache).ovsInfo) := by
  have sound := sound_run valid ran
  have sound' : Sound first := sound_step sound (step_sync_eq_some.mpr ⟨_, synced⟩)
  obtain ⟨agentInfo, written, built, stored, host, wrote⟩ := syncAgentInfo_eq_ok sound synced
  -- the first sync stored an object, so the second one updates it
  obtain ⟨agentInfo', written', built', stored', host',
    ⟨absent, -⟩ | ⟨current, present, -, again⟩⟩ := syncAgentInfo_eq_ok sound' resynced
  · rw [stored] at absent; cases absent
  obtain rfl : written = current := Option.some.inj (stored.symm.trans present)
  refine ⟨agentInfo, agentInfo', written, written', built, built', stored, stored',
    host.trans (getAgentInfo_hostname built), host'.trans (getAgentInfo_hostname built'), again, ?_⟩
  rcases wrote with ⟨-, kept, sent⟩ | ⟨origin, -, cleared, updated⟩
  · exact .inl ⟨kept, sent⟩
  · exact .inr ⟨cleared, origin, updated⟩

/-- After a `Create`, the next `Update` of the same mirror sends the record's `OVSInfo` back. -/
theorem sentUpdate_ovsInfo_after_create {cfg : MonitorConfig} {ovsdbCache : OVSDBCache}
    {hostname : Option String} {ipCache : IPCache} {now now' : Time} {agentInfo agentInfo' : Snapshot}
    {written : Record} (built : getAgentInfo cfg ipCache hostname ovsdbCache now = .ok agentInfo)
    (built' : getAgentInfo cfg ipCache hostname ovsdbCache now' = .ok agentInfo')
    (distinct : agentInfo.ifaceKeys.Nodup)
    (sent : written.ovsInfo = (Snapshot.resolve ipCache agentInfo).ovsInfo) :
    (sentUpdate agentInfo' written ipCache).ovsInfo = written.ovsInfo := by
  obtain ⟨keys, shape⟩ := keys_shape_of_mapIPMap sent
  have own := own_after_create (keys ▸ distinct) sent fun e member => by
    rwa [AgentInfo.interfaces_of_ovsInfo (getAgentInfo_ovsInfo_of_now built built')] at member
  rw [sentUpdate_ovsInfo_ownMap built' own]
  exact ownMap_ovsInfo_of_shape (keys ▸ distinct)
    ((getAgentInfo_shape_ovsInfo built built').trans shape.symm)

/-- After an `Update`, the next `Update` of the same mirror sends the record's `OVSInfo` back. -/
theorem sentUpdate_ovsInfo_after_update {cfg : MonitorConfig} {ovsdbCache : OVSDBCache}
    {hostname : Option String} {ipCache : IPCache} {now now' : Time} {agentInfo agentInfo' : Snapshot}
    {stored written : Record} (built : getAgentInfo cfg ipCache hostname ovsdbCache now = .ok agentInfo)
    (built' : getAgentInfo cfg GoMap.empty hostname ovsdbCache now' = .ok agentInfo')
    (distinct : agentInfo.ifaceKeys.Nodup)
    (updated : written.ovsInfo = (sentUpdate agentInfo stored ipCache).ovsInfo) :
    (sentUpdate agentInfo' written GoMap.empty).ovsInfo = written.ovsInfo := by
  obtain ⟨keys, shape⟩ := keys_shape_of_mapIPMap (updated.trans (by rw [sentUpdate_eq built]))
  rw [sentUpdate_ovsInfo_ownMap built' (own_after_update built' written)]
  exact ownMap_ovsInfo_of_shape (keys ▸ distinct)
    ((getAgentInfo_shape_ovsInfo built built').trans shape.symm)

/-- Two syncs in a row that both succeed, of one mirror visited in one order whose snapshots
have pairwise distinct interface keys, with one hostname and nothing learned between them, store
the same hostname and the same `OVSInfo`: the same version, bridges in the same order, and the
same ports, interfaces and IP maps. -/
theorem resync_keeps_ovsInfo (cfg : MonitorConfig) {server : Option Record}
    (valid : ∀ r, server = some r → OfportsValid r) {events : List Event} {state : State}
    (ran : run cfg (State.initial server) events = some state) {ovsdbCache : OVSDBCache}
    (distinct : distinctKeys cfg ovsdbCache = true) (hostname : Option String) {now now' : Time}
    {remote remote' : Remote} {first second : State}
    (synced : syncAgentInfo cfg ovsdbCache hostname now remote state = .returned first (.ok ()))
    (resynced : syncAgentInfo cfg ovsdbCache hostname now' remote' first = .returned second (.ok ())) :
    ∃ stored stored', first.server = some stored ∧ second.server = some stored' ∧
      stored'.hostname = stored.hostname ∧ stored'.ovsInfo = stored.ovsInfo := by
  obtain ⟨agentInfo, agentInfo', written, written', built, built', stored, stored', host, host', again,
    ⟨kept, sent⟩ | ⟨cleared, origin, updated⟩⟩ := resync_cases valid ran synced resynced
  all_goals refine ⟨written, written', stored, stored', host'.trans host.symm, again.trans ?_⟩
  · rw [kept] at built' ⊢
    exact sentUpdate_ovsInfo_after_create built built' (distinctKeys_spec distinct built) sent
  · rw [cleared] at built' ⊢
    exact sentUpdate_ovsInfo_after_update built built' (distinctKeys_spec distinct built) updated

theorem resync_keeps_ovsInfo_on_sample :
    ∃ state first second,
      run sampleConfig (State.initial none) [learnOne "br0-5" (IP.ipv4 10 0 0 7) 0] = some state ∧
      syncAgentInfo sampleConfig sampleOVS none 1 allDelivered state = .returned first (.ok ()) ∧
      syncAgentInfo sampleConfig sampleOVS none 2 allDelivered first = .returned second (.ok ()) ∧
      ∃ stored stored', first.server = some stored ∧ second.server = some stored' ∧
        stored'.hostname = stored.hostname ∧ stored'.ovsInfo = stored.ovsInfo :=
  ⟨_, _, _, rfl, rfl, rfl, @resync_keeps_ovsInfo sampleConfig none (fun _ none => by cases none)
    [learnOne "br0-5" (IP.ipv4 10 0 0 7) 0] _ rfl sampleOVS (by decide) none 1 2 allDelivered
    allDelivered _ _ rfl rfl⟩

/-! ### A second sync of the mirror visited in another order -/

/-- After a `Create`, the next `Update` of the mirror visited in another order sends the
record's version and bridges, in another order. -/
theorem sentUpdate_ovsInfo_after_create_reordered {cfg : MonitorConfig}
    {ovsdbCache ovsdbCache' : OVSDBCache} (reordered : ReorderedBridges ovsdbCache ovsdbCache')
    {hostname : Option String} {ipCache : IPCache} {now now' : Time} {agentInfo agentInfo' : Snapshot}
    {written : Record} (built : getAgentInfo cfg ipCache hostname ovsdbCache now = .ok agentInfo)
    (built' : getAgentInfo cfg ipCache hostname ovsdbCache' now' = .ok agentInfo')
    (distinct : agentInfo.ifaceKeys.Nodup)
    (sent : written.ovsInfo = (Snapshot.resolve ipCache agentInfo).ovsInfo) :
    (sentUpdate agentInfo' written ipCache).ovsInfo.version = written.ovsInfo.version ∧
      (sentUpdate agentInfo' written ipCache).ovsInfo.bridges.Perm written.ovsInfo.bridges := by
  obtain ⟨keys, shape⟩ := keys_shape_of_mapIPMap sent
  have own := own_after_create (keys ▸ distinct) sent fun e member =>
    (getAgentInfo_interfaces_reordered reordered built built').mem_iff.mp member
  obtain ⟨version, perm⟩ := getAgentInfo_shape_reordered reordered built built'
  rw [← shape] at version perm
  rw [sentUpdate_ovsInfo_ownMap built' own]
  exact ownMap_ovsInfo_of_perm (keys ▸ distinct) version perm

/-- After an `Update`, the next `Update` of the mirror visited in another order sends the
record's version and bridges, in another order. -/
theorem sentUpdate_ovsInfo_after_update_reordered {cfg : MonitorConfig}
    {ovsdbCache ovsdbCache' : OVSDBCache} (reordered : ReorderedBridges ovsdbCache ovsdbCache')
    {hostname : Option String} {ipCache : IPCache} {now now' : Time} {agentInfo agentInfo' : Snapshot}
    {stored written : Record} (built : getAgentInfo cfg ipCache hostname ovsdbCache now = .ok agentInfo)
    (built' : getAgentInfo cfg GoMap.empty hostname ovsdbCache' now' = .ok agentInfo')
    (distinct : agentInfo.ifaceKeys.Nodup)
    (updated : written.ovsInfo = (sentUpdate agentInfo stored ipCache).ovsInfo) :
    (sentUpdate agentInfo' written GoMap.empty).ovsInfo.version = written.ovsInfo.version ∧
      (sentUpdate agentInfo' written GoMap.empty).ovsInfo.bridges.Perm written.ovsInfo.bridges := by
  obtain ⟨keys, shape⟩ := keys_shape_of_mapIPMap (updated.trans (by rw [sentUpdate_eq built]))
  obtain ⟨version, perm⟩ := getAgentInfo_shape_reordered reordered built built'
  rw [← shape] at version perm
  rw [sentUpdate_ovsInfo_ownMap built' (own_after_update built' written)]
  exact ownMap_ovsInfo_of_perm (keys ▸ distinct) version perm

/-- Two syncs in a row that both succeed, of one mirror whose snapshots have pairwise distinct
interface keys, the second visiting its Bridge table in any other order, with one hostname and
nothing learned between them, store the same hostname, the same version and the same bridges,
in another order: each bridge with the same ports, interfaces and IP maps. -/
theorem resync_permutes_bridges (cfg : MonitorConfig) {server : Option Record}
    (valid : ∀ r, server = some r → OfportsValid r) {events : List Event} {state : State}
    (ran : run cfg (State.initial server) events = some state) {ovsdbCache ovsdbCache' : OVSDBCache}
    (distinct : distinctKeys cfg ovsdbCache = true) (reordered : ReorderedBridges ovsdbCache ovsdbCache')
    (hostname : Option String) {now now' : Time} {remote remote' : Remote} {first second : State}
    (synced : syncAgentInfo cfg ovsdbCache hostname now remote state = .returned first (.ok ()))
    (resynced : syncAgentInfo cfg ovsdbCache' hostname now' remote' first = .returned second (.ok ())) :
    ∃ stored stored', first.server = some stored ∧ second.server = some stored' ∧
      stored'.hostname = stored.hostname ∧ stored'.ovsInfo.version = stored.ovsInfo.version ∧
      stored'.ovsInfo.bridges.Perm stored.ovsInfo.bridges := by
  obtain ⟨agentInfo, agentInfo', written, written', built, built', stored, stored', host, host', again,
    ⟨kept, sent⟩ | ⟨cleared, origin, updated⟩⟩ := resync_cases valid ran synced resynced
  all_goals
    refine ⟨written, written', stored, stored', host'.trans host.symm, ?_⟩
    rw [again]
  · rw [kept] at built' ⊢
    exact sentUpdate_ovsInfo_after_create_reordered reordered built built'
      (distinctKeys_spec distinct built) sent
  · rw [cleared] at built' ⊢
    exact sentUpdate_ovsInfo_after_update_reordered reordered built built'
      (distinctKeys_spec distinct built) updated

theorem resync_permutes_bridges_on_twoBridgeMirror :
    ∃ first second,
      syncAgentInfo sampleConfig (twoBridgeMirror bridgeRows) none 0 allDelivered (State.initial none) =
        .returned first (.ok ()) ∧
      syncAgentInfo sampleConfig (twoBridgeMirror bridgeRows.reverse) none 1 allDelivered first =
        .returned second (.ok ()) ∧
      ∃ stored stored', first.server = some stored ∧ second.server = some stored' ∧
        stored'.hostname = stored.hostname ∧ stored'.ovsInfo.version = stored.ovsInfo.version ∧
        stored'.ovsInfo.bridges.Perm stored.ovsInfo.bridges :=
  ⟨_, _, rfl, rfl, @resync_permutes_bridges sampleConfig none (fun _ none => by cases none) [] _ rfl
    (twoBridgeMirror bridgeRows) (twoBridgeMirror bridgeRows.reverse) (by decide) (by decide) none 0 1
    allDelivered allDelivered _ _ rfl rfl⟩

end Everoute.Monitor
