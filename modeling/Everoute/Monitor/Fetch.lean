import Everoute.Monitor.Ovsdb
import Everoute.Monitor.Types

/-!
# Building the snapshot

`getAgentInfo` and the `fetch*Locked` methods it calls under the mirror's lock: every row of
the Bridge table becomes a bridge, each of its ports a port, and each port's interfaces the
interfaces that exist and report no error. An interface with a valid ofport shares the IP
cache's map under its key.
-/
namespace Everoute.Monitor

/-- What the monitor's methods read besides the mirror and the IP cache: the agent's name and
the package's tables from OVSDB vlan and bond modes to the API's, which are not under src/. -/
structure MonitorConfig where
  agentName : String
  vlanModeMap : GoMap String String
  bondModeMap : GoMap String String

/-- `LocalEndpointIdentity`. -/
def LocalEndpointIdentity : String := "attached-mac"

/-- `monitor.ipCache[key]`: the cache's map under `key`, or `nil`. -/
def cacheRef (ipCache : IPCache) (key : String) : IPMapRef :=
  if ipCache.contains key then .cached key else .nil

/-- An `error` wrapped by `fmt.Errorf(prefix + "%s", err)`; a panic passes through. -/
def wrapError (pfx : String) : Fault → Fault
  | .error msg => .error (pfx ++ msg)
  | .panic msg => .panic msg

/-- `v, err := call; if err == nil { field = v }`: the value, or `zero` when the call returns
an error; a panic propagates. -/
def valueOrZero {α : Type} (zero : α) : Except Fault α → Except Fault α
  | .ok v => .ok v
  | .error (.error _) => .ok zero
  | .error (.panic msg) => .error (.panic msg)

/-- `%s` of an `ovsdb.UUID`, a struct: its field between braces. -/
def uuidText (uuid : UUID) : String := "\x7b" ++ uuid ++ "\x7d"

/-- The loop that copies an `external_ids` column, an `OvsMap`, into a `map[string]string`,
asserting each key and value to be a string. -/
def copyExternalIDs (externalIDs : Option Value) : Except Fault (GoMap String String) := do
  let goMap ← assertType "ovsdb.OvsMap" (asOvsMap externalIDs)
  goMap.entries.foldlM (fun ids (name, value) => do
    let name ← assertType "string" name.asString
    let value ← assertType "string" value.asString
    return ids.insert name value) GoMap.empty

/-- The trunk loop of `fetchPortLocked`: the elements of an `OvsSet` trunks column, each
asserted to be a float64. Any other value, a bare number included, gives none. -/
def fetchTrunks (trunks : Option Value) : Except Fault (List Int) :=
  match asOvsSet trunks with
  | some trunks => trunks.mapM fun item => assertType "float64" item.asReal
  | none => pure []

/-- The `Mac` of an interface: its `attached-mac` external id when it has one, else the
`mac_in_use` column, which is an empty set rather than a string while unset. -/
def interfaceMac (externalIDs : GoMap String String) (macInUse : Option Value) : String :=
  match externalIDs.lookup LocalEndpointIdentity with
  | some mac => mac
  | none => (asString macInUse).getD ""

/-- The `Ofport` and `IPMap` of an interface on `bridgeName`, set from its `ofport` column only
when that is a non-negative number; an unset column is an empty set, not a number. -/
def ofportAndIPMap (ipCache : IPCache) (bridgeName : String) (ofport : Option Value) :
    BitVec 32 × IPMapRef :=
  match asFloat64 ofport with
  | some ofport =>
    if 0 ≤ ofport then
      (int32OfFloat ofport, cacheRef ipCache (ifaceKey bridgeName (int32OfFloat ofport)))
    else (0, .nil)
  | none => (0, .nil)

def fetchOvsVersionLocked (ovsdbCache : OVSDBCache) : Except Fault String :=
  match (ovsdbCache.table "Open_vSwitch").entries with
  | [] => .error (.error "couldn't find table Open_vSwitch, agentMonitor may haven't start")
  | (_, raw) :: _ => assertType "string" (asString (raw.field "ovs_version"))

def fetchInterfaceLocked (ipCache : IPCache) (ovsdbCache : OVSDBCache) (uuid : UUID)
    (bridgeName : String) : Except Fault (Option (OVSInterface IPMapRef)) := do
  let some ovsIface := (ovsdbCache.table "Interface").lookup uuid | return none
  if ifHasError (ovsIface.field "error") then return none
  let name ← assertType "string" (asString (ovsIface.field "name"))
  let type ← assertType "string" (asString (ovsIface.field "type"))
  let externalIDs ← copyExternalIDs (ovsIface.field "external_ids")
  let mac := interfaceMac externalIDs (ovsIface.field "mac_in_use")
  let ofportIPMap := ofportAndIPMap ipCache bridgeName (ovsIface.field "ofport")
  return some ⟨name, type, mac, ofportIPMap.1, externalIDs, ofportIPMap.2⟩

def fetchPortLocked (cfg : MonitorConfig) (ipCache : IPCache) (ovsdbCache : OVSDBCache)
    (uuid : UUID) (bridgeName : String) : Except Fault (OVSPort IPMapRef) := do
  let some ovsPort := (ovsdbCache.table "Port").lookup uuid
    | throw (.error ("ovs port " ++ uuidText uuid ++ " not found in cache"))
  let name ← assertType "string" (asString (ovsPort.field "name"))
  let externalIDs ← copyExternalIDs (ovsPort.field "external_ids")
  let ovsVlanMode := (asString (ovsPort.field "vlan_mode")).getD ""
  let ovsBondMode := (asString (ovsPort.field "bond_mode")).getD ""
  let ovsTag := (asFloat64 (ovsPort.field "tag")).getD 0
  let ovsTrunks ← fetchTrunks (ovsPort.field "trunks")
  let vlanConfig : VlanConfig :=
    ⟨(cfg.vlanModeMap.lookup ovsVlanMode).getD "", int32OfFloat ovsTag, trunkString ovsTrunks⟩
  let bondConfig : BondConfig := ⟨(cfg.bondModeMap.lookup ovsBondMode).getD ""⟩
  let interfaces ← (listUUID (ovsPort.field "interfaces")).mapM fun uuid =>
    fetchInterfaceLocked ipCache ovsdbCache uuid bridgeName
  return ⟨name, externalIDs, vlanConfig, bondConfig, interfaces.reduceOption⟩

def fetchBridgeLocked (cfg : MonitorConfig) (ipCache : IPCache) (ovsdbCache : OVSDBCache)
    (uuid : UUID) : Except Fault (OVSBridge IPMapRef) := do
  let some ovsBri := (ovsdbCache.table "Bridge").lookup uuid
    | throw (.error ("ovs bridge " ++ uuidText uuid ++ " not found in cache"))
  let name ← assertType "string" (asString (ovsBri.field "name"))
  let ports ← (listUUID (ovsBri.field "ports")).mapM fun uuid =>
    fetchPortLocked cfg ipCache ovsdbCache uuid name
  return ⟨name, ports⟩

/-- `getAgentInfo`: the hostname (`none` when `os.Hostname` fails), then under the mirror's
lock the version, which is left empty on an error, and every bridge of the Bridge table in
the table's iteration order; last the health condition at `now`. -/
def getAgentInfo (cfg : MonitorConfig) (ipCache : IPCache) (hostname : Option String)
    (ovsdbCache : OVSDBCache) (now : Time) : Except Fault Snapshot := do
  let version ← valueOrZero "" (fetchOvsVersionLocked ovsdbCache)
  let bridges ← (ovsdbCache.table "Bridge").keys.mapM fun uuid =>
    (fetchBridgeLocked cfg ipCache ovsdbCache uuid).mapError
      (wrapError ("unable fetch bridge " ++ uuid ++ ": "))
  return ⟨⟨cfg.agentName, "", 0⟩, hostname.getD "", ⟨version, bridges⟩, [healthyCondition now]⟩

end Everoute.Monitor
