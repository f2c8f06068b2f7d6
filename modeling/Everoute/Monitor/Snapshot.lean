import Everoute.Monitor.FetchSpec

/-!
# What every snapshot looks like

These hold for every mirror, encoded as the schema says or not. The IP cache enters a
snapshot only through `monitor.ipCache[key]`: a build from a smaller cache is the build from
a bigger one with the maps the smaller cache lacks set to `nil`, so the shape of a snapshot
and its interface keys do not depend on the cache. Every interface holds a port number Go's
conversion can give and, as its map, either none or the cache's map under its own key; two
interfaces that share a map therefore lie on the same bridge with the same port number.
-/
namespace Everoute.Monitor

/-- A reference as a build from the cache `ipCache` gives it. -/
def IPMapRef.restrict (ipCache : IPCache) : IPMapRef → IPMapRef
  | .cached key => cacheRef ipCache key
  | r => r

theorem IPMapRef.restrict_eq_cached {ipCache : IPCache} {r : IPMapRef} {key : String}
    (restricted : r.restrict ipCache = .cached key) : r = .cached key := by
  cases r with
  | cached k =>
    simp only [IPMapRef.restrict, cacheRef] at restricted
    split at restricted <;> cases restricted
    rfl
  | _ => exact restricted

/-! ### Builds from smaller caches -/

section Restrict

variable {c c' : IPCache} (sub : ∀ key, c'.contains key → c.contains key)
include sub

theorem cacheRef_restrict (key : String) : cacheRef c' key = (cacheRef c key).restrict c' := by
  by_cases h : c.contains key
  · simp [cacheRef, h, IPMapRef.restrict]
  · have absent : c'.contains key = false := Bool.eq_false_iff.mpr fun h' => h (sub key h')
    simp [cacheRef, h, absent, IPMapRef.restrict]

theorem ofportAndIPMap_restrict (bridgeName : String) (ofport : Option Value) :
    ofportAndIPMap c' bridgeName ofport =
      ((ofportAndIPMap c bridgeName ofport).1, (ofportAndIPMap c bridgeName ofport).2.restrict c') := by
  unfold ofportAndIPMap
  split
  · split
    · rw [cacheRef_restrict sub]
    · rfl
  · rfl

theorem fetchInterfaceLocked_restrict (ovsdbCache : OVSDBCache) (uuid : UUID) (bridgeName : String) :
    fetchInterfaceLocked c' ovsdbCache uuid bridgeName =
      (fetchInterfaceLocked c ovsdbCache uuid bridgeName).map
        (Option.map fun intf => intf.withIPMap (intf.ipMap.restrict c')) := by
  unfold fetchInterfaceLocked
  cases (ovsdbCache.table "Interface").lookup uuid with
  | none => rfl
  | some row =>
    simp only
    split
    · rfl
    · cases assertType "string" (asString (row.field "name")) <;>
      cases assertType "string" (asString (row.field "type")) <;>
      cases copyExternalIDs (row.field "external_ids") <;>
      simp [bind, Except.bind, pure, Except.pure, Except.map, ofportAndIPMap_restrict sub,
        OVSInterface.withIPMap]

theorem fetchPortLocked_restrict (cfg : MonitorConfig) (ovsdbCache : OVSDBCache) (uuid : UUID)
    (bridgeName : String) :
    fetchPortLocked cfg c' ovsdbCache uuid bridgeName =
      (fetchPortLocked cfg c ovsdbCache uuid bridgeName).map
        (OVSPort.mapIPMap fun intf => intf.ipMap.restrict c') := by
  unfold fetchPortLocked
  cases (ovsdbCache.table "Port").lookup uuid with
  | none => rfl
  | some row =>
    simp only
    rw [mapM_eq_map_of_forall fun u _ => fetchInterfaceLocked_restrict sub ovsdbCache u bridgeName]
    cases assertType "string" (asString (row.field "name")) <;>
    cases copyExternalIDs (row.field "external_ids") <;>
    cases fetchTrunks (row.field "trunks") <;>
    cases (listUUID (row.field "interfaces")).mapM fun u =>
      fetchInterfaceLocked c ovsdbCache u bridgeName <;>
    simp [bind, Except.bind, pure, Except.pure, Except.map, List.reduceOption_map, OVSPort.mapIPMap]

theorem fetchBridgeLocked_restrict (cfg : MonitorConfig) (ovsdbCache : OVSDBCache) (uuid : UUID) :
    fetchBridgeLocked cfg c' ovsdbCache uuid =
      (fetchBridgeLocked cfg c ovsdbCache uuid).map
        (OVSBridge.mapIPMap fun _ intf => intf.ipMap.restrict c') := by
  unfold fetchBridgeLocked
  cases (ovsdbCache.table "Bridge").lookup uuid with
  | none => rfl
  | some row =>
    simp only
    cases assertType "string" (asString (row.field "name")) with
    | error => rfl
    | ok name =>
      simp only [bind, Except.bind]
      rw [mapM_eq_map_of_forall fun u _ => fetchPortLocked_restrict sub cfg ovsdbCache u name]
      cases (listUUID (row.field "ports")).mapM fun u => fetchPortLocked cfg c ovsdbCache u name <;> rfl

/-- A build from a smaller cache is the build from the bigger one, with the maps the smaller
cache lacks set to `nil`. -/
theorem getAgentInfo_restrict (cfg : MonitorConfig) (hostname : Option String)
    (ovsdbCache : OVSDBCache) (now : Time) :
    getAgentInfo cfg c' hostname ovsdbCache now =
      (getAgentInfo cfg c hostname ovsdbCache now).map
        (AgentInfo.mapIPMap fun _ intf => intf.ipMap.restrict c') := by
  unfold getAgentInfo
  cases valueOrZero "" (fetchOvsVersionLocked ovsdbCache) with
  | error => rfl
  | ok version =>
    have bridges : ((ovsdbCache.table "Bridge").keys.mapM fun uuid =>
        (fetchBridgeLocked cfg c' ovsdbCache uuid).mapError
          (wrapError ("unable fetch bridge " ++ uuid ++ ": "))) =
        ((ovsdbCache.table "Bridge").keys.mapM fun uuid =>
          (fetchBridgeLocked cfg c ovsdbCache uuid).mapError
            (wrapError ("unable fetch bridge " ++ uuid ++ ": "))).map
          (List.map (OVSBridge.mapIPMap fun _ intf => intf.ipMap.restrict c')) :=
      mapM_eq_map_of_forall fun uuid _ => by
        rw [fetchBridgeLocked_restrict sub]
        cases fetchBridgeLocked cfg c ovsdbCache uuid <;> rfl
    simp only [bind, Except.bind, bridges]
    cases (ovsdbCache.table "Bridge").keys.mapM fun uuid =>
      (fetchBridgeLocked cfg c ovsdbCache uuid).mapError
        (wrapError ("unable fetch bridge " ++ uuid ++ ": ")) <;> rfl

end Restrict

/-- The shape of a snapshot, its interface keys among it, does not depend on the IP cache. -/
theorem getAgentInfo_shape (cfg : MonitorConfig) (c c' : IPCache) (hostname : Option String)
    (ovsdbCache : OVSDBCache) (now : Time) :
    (getAgentInfo cfg c hostname ovsdbCache now).map AgentInfo.shape =
      (getAgentInfo cfg c' hostname ovsdbCache now).map AgentInfo.shape := by
  have fromEmpty : ∀ c : IPCache, (getAgentInfo cfg GoMap.empty hostname ovsdbCache now).map
      AgentInfo.shape = (getAgentInfo cfg c hostname ovsdbCache now).map AgentInfo.shape := fun c => by
    rw [getAgentInfo_restrict (c := c) (fun key h => by simp [GoMap.contains] at h)]
    cases getAgentInfo cfg c hostname ovsdbCache now <;> simp [Except.map, AgentInfo.shape_mapIPMap]
  rw [← fromEmpty c, ← fromEmpty c']

/-- The hostname and the clock only fill in their own fields. -/
theorem getAgentInfo_hostname_now (cfg : MonitorConfig) (ipCache : IPCache) (ovsdbCache : OVSDBCache)
    (hostname hostname' : Option String) (now now' : Time) :
    getAgentInfo cfg ipCache hostname' ovsdbCache now' =
      (getAgentInfo cfg ipCache hostname ovsdbCache now).map
        fun a => ⟨a.objectMeta, hostname'.getD "", a.ovsInfo, [healthyCondition now']⟩ := by
  unfold getAgentInfo
  cases valueOrZero "" (fetchOvsVersionLocked ovsdbCache) with
  | error => rfl
  | ok version =>
    simp only [bind, Except.bind]
    cases (ovsdbCache.table "Bridge").keys.mapM fun uuid =>
      (fetchBridgeLocked cfg ipCache ovsdbCache uuid).mapError
        (wrapError ("unable fetch bridge " ++ uuid ++ ": ")) <;> rfl

/-- Whether a build succeeds, and the keys of its interfaces, depend on neither the cache, the
hostname nor the clock. -/
theorem getAgentInfo_ok_congr {cfg : MonitorConfig} {ovsdbCache : OVSDBCache} {ipCache : IPCache}
    {hostname : Option String} {now : Time} {agentInfo : Snapshot}
    (built : getAgentInfo cfg ipCache hostname ovsdbCache now = .ok agentInfo)
    (ipCache' : IPCache) (hostname' : Option String) (now' : Time) :
    ∃ agentInfo', getAgentInfo cfg ipCache' hostname' ovsdbCache now' = .ok agentInfo' ∧
      agentInfo'.ifaceKeys = agentInfo.ifaceKeys := by
  have toEmpty := fun c : IPCache => getAgentInfo_restrict
    (show ∀ key, (GoMap.empty : IPCache).contains key → c.contains key from
      fun key h => by simp [GoMap.contains] at h) cfg hostname' ovsdbCache now'
  have fromBuilt := toEmpty ipCache
  rw [getAgentInfo_hostname_now cfg ipCache ovsdbCache hostname hostname' now now', built] at fromBuilt
  rw [toEmpty ipCache'] at fromBuilt
  cases rebuilt : getAgentInfo cfg ipCache' hostname' ovsdbCache now' with
  | error => rw [rebuilt] at fromBuilt; cases fromBuilt
  | ok agentInfo' =>
    rw [rebuilt] at fromBuilt
    refine ⟨agentInfo', rfl, ?_⟩
    have keys := congrArg AgentInfo.ifaceKeys (Except.ok.inj fromBuilt)
    simpa only [AgentInfo.ifaceKeys_mapIPMap] using keys

/-! ### Builds of a mirror visited in another order -/

/-- The mirror `ovsdbCache'` holds the rows that `getAgentInfo` reads in `ovsdbCache`, with its
Bridge table visited in another order. -/
def ReorderedBridges (ovsdbCache ovsdbCache' : OVSDBCache) : Prop :=
  (ovsdbCache'.table "Bridge").entries.Perm (ovsdbCache.table "Bridge").entries ∧
    ovsdbCache'.table "Open_vSwitch" = ovsdbCache.table "Open_vSwitch" ∧
    ovsdbCache'.table "Port" = ovsdbCache.table "Port" ∧
    ovsdbCache'.table "Interface" = ovsdbCache.table "Interface"

instance (ovsdbCache ovsdbCache' : OVSDBCache) : Decidable (ReorderedBridges ovsdbCache ovsdbCache') :=
  inferInstanceAs (Decidable (_ ∧ _))

section Reorder

variable {ovsdbCache ovsdbCache' : OVSDBCache} (reordered : ReorderedBridges ovsdbCache ovsdbCache')
include reordered

theorem fetchInterfaceLocked_reordered (ipCache : IPCache) (uuid : UUID) (bridgeName : String) :
    fetchInterfaceLocked ipCache ovsdbCache' uuid bridgeName =
      fetchInterfaceLocked ipCache ovsdbCache uuid bridgeName := by
  unfold fetchInterfaceLocked; rw [reordered.2.2.2]

theorem fetchPortLocked_reordered (cfg : MonitorConfig) (ipCache : IPCache) (uuid : UUID)
    (bridgeName : String) :
    fetchPortLocked cfg ipCache ovsdbCache' uuid bridgeName =
      fetchPortLocked cfg ipCache ovsdbCache uuid bridgeName := by
  unfold fetchPortLocked
  simp only [reordered.2.2.1, fetchInterfaceLocked_reordered reordered]

theorem fetchBridgeLocked_reordered (cfg : MonitorConfig) (ipCache : IPCache) (uuid : UUID) :
    fetchBridgeLocked cfg ipCache ovsdbCache' uuid = fetchBridgeLocked cfg ipCache ovsdbCache uuid := by
  unfold fetchBridgeLocked
  simp only [GoMap.lookup_of_perm reordered.1, fetchPortLocked_reordered reordered]

/-- The build of a reordered mirror is the build of the mirror with its bridges in another
order. -/
theorem getAgentInfo_reordered {cfg : MonitorConfig} {ipCache : IPCache} {hostname : Option String}
    {now : Time} {agentInfo : Snapshot}
    (built : getAgentInfo cfg ipCache hostname ovsdbCache now = .ok agentInfo) :
    ∃ bridges, getAgentInfo cfg ipCache hostname ovsdbCache' now =
        .ok { agentInfo with ovsInfo := { agentInfo.ovsInfo with bridges := bridges } } ∧
      bridges.Perm agentInfo.ovsInfo.bridges := by
  have sameVersion : fetchOvsVersionLocked ovsdbCache' = fetchOvsVersionLocked ovsdbCache := by
    unfold fetchOvsVersionLocked; rw [reordered.2.1]
  cases hversion : valueOrZero "" (fetchOvsVersionLocked ovsdbCache) with
  | error => simp [getAgentInfo, hversion, bind, Except.bind] at built
  | ok version =>
    rw [getAgentInfo_of_version cfg ipCache hversion] at built
    rw [getAgentInfo_of_version cfg ipCache (sameVersion ▸ hversion)]
    simp only [fetchBridgeLocked_reordered reordered]
    cases fetched : (ovsdbCache.table "Bridge").keys.mapM fun uuid =>
        (fetchBridgeLocked cfg ipCache ovsdbCache uuid).mapError
          (wrapError ("unable fetch bridge " ++ uuid ++ ": ")) with
    | error => rw [fetched] at built; cases built
    | ok bridges =>
      rw [fetched] at built
      cases built
      obtain ⟨bridges', refetched, perm⟩ := mapM_ok_of_perm (reordered.1.map Prod.fst) fetched
      exact ⟨bridges', by rw [GoMap.keys, refetched]; rfl, perm⟩

end Reorder

/-! ### The interfaces of a snapshot -/

/-- What an interface of a snapshot built from `ipCache` holds: a port number Go's conversion
can give, and as its IP map either none or the cache's map under the interface's own key. -/
def BuiltInterface (ipCache : IPCache) (bridgeName : String) (intf : OVSInterface IPMapRef) : Prop :=
  ValidOfport intf.ofport ∧
    (intf.ipMap = .nil ∨ intf.ipMap = .cached (ifaceKey bridgeName intf.ofport) ∧
      ipCache.contains (ifaceKey bridgeName intf.ofport))

theorem ofportAndIPMap_built (ipCache : IPCache) (bridgeName : String) (ofport : Option Value) :
    BuiltInterface ipCache bridgeName
      ⟨"", "", "", (ofportAndIPMap ipCache bridgeName ofport).1, GoMap.empty,
        (ofportAndIPMap ipCache bridgeName ofport).2⟩ := by
  unfold ofportAndIPMap
  split
  · split
    · refine ⟨validOfport_int32OfFloat ‹_›, ?_⟩
      unfold cacheRef
      split
      · exact .inr ⟨rfl, ‹_›⟩
      · exact .inl rfl
    · exact ⟨validOfport_zero, .inl rfl⟩
  · exact ⟨validOfport_zero, .inl rfl⟩

section Built

variable {cfg : MonitorConfig} {ipCache : IPCache} {ovsdbCache : OVSDBCache}

theorem fetchInterfaceLocked_built {uuid : UUID} {bridgeName : String} {intf : OVSInterface IPMapRef}
    (fetched : fetchInterfaceLocked ipCache ovsdbCache uuid bridgeName = .ok (some intf)) :
    BuiltInterface ipCache bridgeName intf := by
  unfold fetchInterfaceLocked at fetched
  cases found : (ovsdbCache.table "Interface").lookup uuid with
  | none => simp [found, pure, Except.pure] at fetched
  | some row =>
    by_cases faulty : ifHasError (row.field "error") = true
    · simp [found, faulty, pure, Except.pure] at fetched
    simp only [found, faulty] at fetched
    revert fetched
    cases assertType "string" (asString (row.field "name")) <;>
    cases assertType "string" (asString (row.field "type")) <;>
    cases copyExternalIDs (row.field "external_ids") <;>
    simp only [bind, Except.bind, pure, Except.pure, Except.ok.injEq, Option.some.injEq, reduceCtorEq,
      false_implies, ite_false, Bool.false_eq_true]
    rintro rfl
    exact ofportAndIPMap_built ipCache bridgeName _

theorem fetchPortLocked_built {uuid : UUID} {bridgeName : String} {port : OVSPort IPMapRef}
    (fetched : fetchPortLocked cfg ipCache ovsdbCache uuid bridgeName = .ok port) :
    ∀ intf ∈ port.interfaces, BuiltInterface ipCache bridgeName intf := by
  unfold fetchPortLocked at fetched
  cases found : (ovsdbCache.table "Port").lookup uuid with
  | none => simp [found, throw, throwThe, MonadExceptOf.throw] at fetched
  | some row =>
    simp only [found] at fetched
    revert fetched
    cases assertType "string" (asString (row.field "name")) <;>
    cases copyExternalIDs (row.field "external_ids") <;>
    cases fetchTrunks (row.field "trunks") <;>
    cases results : (listUUID (row.field "interfaces")).mapM fun u =>
      fetchInterfaceLocked ipCache ovsdbCache u bridgeName <;>
    simp only [bind, Except.bind, pure, Except.pure, Except.ok.injEq, reduceCtorEq, false_implies]
    rintro rfl intf member
    obtain ⟨_, -, fetched⟩ := mem_of_mapM_ok results (List.reduceOption_mem_iff.mp member)
    exact fetchInterfaceLocked_built fetched

theorem fetchBridgeLocked_built {uuid : UUID} {br : OVSBridge IPMapRef}
    (fetched : fetchBridgeLocked cfg ipCache ovsdbCache uuid = .ok br) :
    ∀ port ∈ br.ports, ∀ intf ∈ port.interfaces, BuiltInterface ipCache br.name intf := by
  unfold fetchBridgeLocked at fetched
  cases found : (ovsdbCache.table "Bridge").lookup uuid with
  | none => simp [found, throw, throwThe, MonadExceptOf.throw] at fetched
  | some row =>
    simp only [found] at fetched
    revert fetched
    cases assertType "string" (asString (row.field "name")) with
    | error => simp [bind, Except.bind]
    | ok name =>
      simp only [bind, Except.bind]
      cases ports : (listUUID (row.field "ports")).mapM fun u =>
        fetchPortLocked cfg ipCache ovsdbCache u name <;>
      simp only [pure, Except.pure, Except.ok.injEq, reduceCtorEq, false_implies]
      rintro rfl port member
      obtain ⟨_, -, fetched⟩ := mem_of_mapM_ok ports member
      exact fetchPortLocked_built fetched

theorem getAgentInfo_built {hostname : Option String} {now : Time} {snapshot : Snapshot}
    (built : getAgentInfo cfg ipCache hostname ovsdbCache now = .ok snapshot) :
    ∀ entry ∈ snapshot.interfaces, BuiltInterface ipCache entry.1 entry.2 := by
  unfold getAgentInfo at built
  revert built
  cases valueOrZero "" (fetchOvsVersionLocked ovsdbCache) with
  | error => simp [bind, Except.bind]
  | ok version =>
    cases bridges : (ovsdbCache.table "Bridge").keys.mapM fun uuid =>
      (fetchBridgeLocked cfg ipCache ovsdbCache uuid).mapError
        (wrapError ("unable fetch bridge " ++ uuid ++ ": ")) <;>
    simp only [bind, Except.bind, pure, Except.pure, Except.ok.injEq, reduceCtorEq, false_implies]
    rintro rfl ⟨bridgeName, intf⟩ member
    simp only [AgentInfo.interfaces, List.mem_flatMap, List.mem_map, Prod.mk.injEq] at member
    obtain ⟨br, hbr, port, hport, _, hintf, rfl, rfl⟩ := member
    obtain ⟨uuid, -, fetched⟩ := mem_of_mapM_ok bridges hbr
    cases h : fetchBridgeLocked cfg ipCache ovsdbCache uuid with
    | error => simp [h, Except.mapError] at fetched
    | ok br' =>
      simp only [h, Except.mapError, Except.ok.injEq] at fetched
      subst fetched
      exact fetchBridgeLocked_built h port hport _ hintf

end Built

/-! ### Shared maps -/

/-- Every cached map a snapshot's interfaces hold is in the IP cache. -/
def CachedIn (ipCache : IPCache) (a : Snapshot) : Prop :=
  ∀ entry ∈ a.interfaces, ∀ key, entry.2.ipMap = .cached key → ipCache.contains key

/-- Two interfaces of a snapshot that share a cached map lie on the same bridge with the same
port number, and so match the same remote interface. -/
def AliasCoherent (a : Snapshot) : Prop :=
  ∀ e ∈ a.interfaces, ∀ e' ∈ a.interfaces, ∀ key, e.2.ipMap = .cached key →
    e'.2.ipMap = .cached key → e.1 = e'.1 ∧ e.2.ofport = e'.2.ofport

theorem getAgentInfo_cachedIn {cfg : MonitorConfig} {ipCache : IPCache} {hostname : Option String}
    {ovsdbCache : OVSDBCache} {now : Time} {snapshot : Snapshot}
    (built : getAgentInfo cfg ipCache hostname ovsdbCache now = .ok snapshot) :
    CachedIn ipCache snapshot := fun entry member key cached => by
  rcases (getAgentInfo_built built entry member).2 with none | ⟨same, present⟩
  · rw [none] at cached; cases cached
  · rw [same] at cached; cases cached; exact present

theorem getAgentInfo_aliasCoherent {cfg : MonitorConfig} {ipCache : IPCache}
    {hostname : Option String} {ovsdbCache : OVSDBCache} {now : Time} {snapshot : Snapshot}
    (built : getAgentInfo cfg ipCache hostname ovsdbCache now = .ok snapshot) :
    AliasCoherent snapshot := fun e member e' member' key cached cached' => by
  obtain ⟨valid, none | ⟨same, -⟩⟩ := getAgentInfo_built built e member
  · rw [none] at cached; cases cached
  obtain ⟨valid', none' | ⟨same', -⟩⟩ := getAgentInfo_built built e' member'
  · rw [none'] at cached'; cases cached'
  rw [same] at cached
  rw [same', ← cached, IPMapRef.cached.injEq] at cached'
  exact ifaceKey_injective_of_valid valid valid' cached'.symm

end Everoute.Monitor
