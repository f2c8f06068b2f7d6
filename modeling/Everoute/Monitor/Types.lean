import Everoute.Monitor.GoMap
import Everoute.Monitor.Format

/-!
# The AgentInfo record

The record the agent publishes, `agentv1alpha1.AgentInfo`. Its interfaces are parametric in
what they hold as their IP map: a published record holds map values (`IPMap`), while the
snapshot the agent builds holds Go map references (`IPMapRef`), some of them shared with the
IP cache.
-/
namespace Everoute.Monitor

/-- `types.IPAddress`. -/
abbrev IPAddress := String

/-- `metav1.Time`. -/
abbrev Time := Nat

/-- `map[types.IPAddress]metav1.Time`: learned addresses with the time each was seen. -/
abbrev IPMap := GoMap IPAddress Time

/-- `ipCache`: from an interface key `"<bridge>-<ofport>"` to the addresses learned there. -/
abbrev IPCache := GoMap String IPMap

/-- The `IPMap` field of a snapshot interface. Go maps are references: a snapshot interface
shares the map the IP cache holds under its key, and the merge may give it a map of its own. -/
inductive IPMapRef
  | nil
  | cached (key : String)
  | owned (m : IPMap)
  deriving DecidableEq

/-- The map a reference denotes, read through the IP cache; `nil` reads as empty. -/
def IPMapRef.deref (ipCache : IPCache) : IPMapRef → IPMap
  | .nil => GoMap.empty
  | .cached key => (ipCache.lookup key).getD GoMap.empty
  | .owned m => m

structure ObjectMeta where
  name : String
  «namespace» : String
  resourceVersion : Nat
  deriving DecidableEq

structure OVSInterface (μ : Type) where
  name : String
  type : String
  mac : String
  ofport : BitVec 32
  externalIDs : GoMap String String
  ipMap : μ
  deriving DecidableEq

structure VlanConfig where
  vlanMode : String
  tag : BitVec 32
  trunk : String
  deriving DecidableEq

structure BondConfig where
  bondMode : String
  deriving DecidableEq

structure OVSPort (μ : Type) where
  name : String
  externalIDs : GoMap String String
  vlanConfig : VlanConfig
  bondConfig : BondConfig
  interfaces : List (OVSInterface μ)
  deriving DecidableEq

structure OVSBridge (μ : Type) where
  name : String
  ports : List (OVSPort μ)
  deriving DecidableEq

structure OVSInfo (μ : Type) where
  version : String
  bridges : List (OVSBridge μ)
  deriving DecidableEq

structure AgentCondition where
  type : String
  status : String
  lastHeartbeatTime : Time
  deriving DecidableEq

structure AgentInfo (μ : Type) where
  objectMeta : ObjectMeta
  hostname : String
  ovsInfo : OVSInfo μ
  conditions : List AgentCondition
  deriving DecidableEq

/-- A published record: interfaces hold map values. -/
abbrev Record := AgentInfo IPMap

/-- A snapshot built by `getAgentInfo`: interfaces hold map references. -/
abbrev Snapshot := AgentInfo IPMapRef

/-- The health condition `getAgentInfo` sets, `AgentHealthy` with status `True`; both names
are constants of the API packages, not under src/. -/
def healthyCondition (now : Time) : AgentCondition := ⟨"AgentHealthy", "True", now⟩

/-! ### Traversals -/

section Traversal

variable {μ ν : Type}

def OVSInterface.withIPMap (intf : OVSInterface μ) (m : ν) : OVSInterface ν :=
  ⟨intf.name, intf.type, intf.mac, intf.ofport, intf.externalIDs, m⟩

/-- Rewrite every interface's IP map, knowing the name of its bridge. -/
def OVSPort.mapIPMap (f : OVSInterface μ → ν) (port : OVSPort μ) : OVSPort ν :=
  ⟨port.name, port.externalIDs, port.vlanConfig, port.bondConfig,
    port.interfaces.map fun intf => intf.withIPMap (f intf)⟩

def OVSBridge.mapIPMap (f : String → OVSInterface μ → ν) (br : OVSBridge μ) : OVSBridge ν :=
  ⟨br.name, br.ports.map (OVSPort.mapIPMap (f br.name))⟩

def AgentInfo.mapIPMap (f : String → OVSInterface μ → ν) (a : AgentInfo μ) : AgentInfo ν :=
  ⟨a.objectMeta, a.hostname, ⟨a.ovsInfo.version, a.ovsInfo.bridges.map (OVSBridge.mapIPMap f)⟩,
    a.conditions⟩

/-- The record a snapshot denotes once its map references are read through the IP cache:
what `Create` or `Update` sends. -/
def Snapshot.resolve (ipCache : IPCache) (a : Snapshot) : Record :=
  a.mapIPMap fun _ intf => intf.ipMap.deref ipCache

/-- Everything of a record but its IP maps. -/
def AgentInfo.shape (a : AgentInfo μ) : AgentInfo Unit := a.mapIPMap fun _ _ => ()

/-- Every interface with the name of its bridge, in bridge, port, interface order. -/
def AgentInfo.interfaces (a : AgentInfo μ) : List (String × OVSInterface μ) :=
  a.ovsInfo.bridges.flatMap fun br =>
    br.ports.flatMap fun port => port.interfaces.map fun intf => (br.name, intf)

/-- The IP-cache key of every interface, in order. -/
def AgentInfo.ifaceKeys (a : AgentInfo μ) : List String :=
  a.interfaces.map fun (b, intf) => ifaceKey b intf.ofport

@[simp] theorem OVSInterface.withIPMap_ipMap (intf : OVSInterface μ) (m : ν) :
    (intf.withIPMap m).ipMap = m := rfl

@[simp] theorem OVSInterface.withIPMap_ofport (intf : OVSInterface μ) (m : ν) :
    (intf.withIPMap m).ofport = intf.ofport := rfl

@[simp] theorem AgentInfo.mapIPMap_objectMeta (f : String → OVSInterface μ → ν) (a : AgentInfo μ) :
    (a.mapIPMap f).objectMeta = a.objectMeta := rfl

@[simp] theorem AgentInfo.mapIPMap_hostname (f : String → OVSInterface μ → ν) (a : AgentInfo μ) :
    (a.mapIPMap f).hostname = a.hostname := rfl

theorem AgentInfo.mapIPMap_ovsInfo (f : String → OVSInterface μ → ν) (a : AgentInfo μ) :
    (a.mapIPMap f).ovsInfo = ⟨a.ovsInfo.version, a.ovsInfo.bridges.map (OVSBridge.mapIPMap f)⟩ := rfl

@[simp] theorem AgentInfo.mapIPMap_version (f : String → OVSInterface μ → ν) (a : AgentInfo μ) :
    (a.mapIPMap f).ovsInfo.version = a.ovsInfo.version := rfl

theorem AgentInfo.interfaces_mapIPMap (f : String → OVSInterface μ → ν) (a : AgentInfo μ) :
    (a.mapIPMap f).interfaces = a.interfaces.map fun (b, intf) => (b, intf.withIPMap (f b intf)) := by
  simp [AgentInfo.mapIPMap, AgentInfo.interfaces, OVSBridge.mapIPMap, OVSPort.mapIPMap,
    List.flatMap, List.map_flatten, Function.comp_def]

theorem AgentInfo.interfaces_of_ovsInfo {a b : AgentInfo μ} (same : a.ovsInfo = b.ovsInfo) :
    a.interfaces = b.interfaces := by
  simp only [AgentInfo.interfaces, same]

theorem AgentInfo.ifaceKeys_of_ovsInfo {a b : AgentInfo μ} (same : a.ovsInfo = b.ovsInfo) :
    a.ifaceKeys = b.ifaceKeys := by
  simp only [AgentInfo.ifaceKeys, AgentInfo.interfaces_of_ovsInfo same]

theorem AgentInfo.interfaces_perm {a b : AgentInfo μ} (perm : a.ovsInfo.bridges.Perm b.ovsInfo.bridges) :
    a.interfaces.Perm b.interfaces :=
  perm.flatMap_right _

theorem AgentInfo.ifaceKeys_mapIPMap (f : String → OVSInterface μ → ν) (a : AgentInfo μ) :
    (a.mapIPMap f).ifaceKeys = a.ifaceKeys := by
  simp [AgentInfo.ifaceKeys, AgentInfo.interfaces_mapIPMap, Function.comp_def]

@[simp] theorem AgentInfo.shape_mapIPMap (f : String → OVSInterface μ → ν) (a : AgentInfo μ) :
    (a.mapIPMap f).shape = a.shape := by
  simp [AgentInfo.shape, AgentInfo.mapIPMap, OVSBridge.mapIPMap, OVSPort.mapIPMap,
    OVSInterface.withIPMap, Function.comp_def]

theorem AgentInfo.mapIPMap_mapIPMap {ρ : Type} (f : String → OVSInterface μ → ν)
    (g : String → OVSInterface ν → ρ) (a : AgentInfo μ) :
    (a.mapIPMap f).mapIPMap g = a.mapIPMap fun b intf => g b (intf.withIPMap (f b intf)) := by
  simp [AgentInfo.mapIPMap, OVSBridge.mapIPMap, OVSPort.mapIPMap, OVSInterface.withIPMap,
    Function.comp_def]

/-- Rewriting maps depends only on what the rewrite does on the record's interfaces. -/
theorem AgentInfo.mapIPMap_congr {f g : String → OVSInterface μ → ν} {a : AgentInfo μ}
    (same : ∀ e ∈ a.interfaces, f e.1 e.2 = g e.1 e.2) : a.mapIPMap f = a.mapIPMap g := by
  simp only [AgentInfo.interfaces, List.mem_flatMap, List.mem_map] at same
  simp only [AgentInfo.mapIPMap, OVSBridge.mapIPMap, OVSPort.mapIPMap, AgentInfo.mk.injEq,
    OVSInfo.mk.injEq, true_and, and_true, List.map_inj_left, OVSBridge.mk.injEq, OVSPort.mk.injEq]
  intro br hbr port hport intf hintf
  rw [same (br.name, intf) ⟨br, hbr, port, hport, intf, hintf, rfl⟩]

@[simp] theorem OVSInterface.withIPMap_self (intf : OVSInterface μ) : intf.withIPMap intf.ipMap = intf :=
  rfl

@[simp] theorem OVSPort.mapIPMap_ipMap :
    (OVSPort.mapIPMap (·.ipMap) : OVSPort μ → OVSPort μ) = id := by
  funext port
  simp only [OVSPort.mapIPMap, OVSInterface.withIPMap_self, List.map_id', id]

@[simp] theorem OVSBridge.mapIPMap_ipMap :
    (OVSBridge.mapIPMap fun _ intf => intf.ipMap : OVSBridge μ → OVSBridge μ) = id := by
  funext br
  simp only [OVSBridge.mapIPMap, OVSPort.mapIPMap_ipMap, List.map_id, id]

theorem AgentInfo.shape_ovsInfo_of_ovsInfo {a b : AgentInfo μ} (same : a.ovsInfo = b.ovsInfo) :
    a.shape.ovsInfo = b.shape.ovsInfo := by
  simp only [AgentInfo.shape, AgentInfo.mapIPMap_ovsInfo, same]

/-- Rewriting every map to itself changes nothing. -/
@[simp] theorem AgentInfo.mapIPMap_ipMap (a : AgentInfo μ) : a.mapIPMap (fun _ intf => intf.ipMap) = a := by
  simp only [AgentInfo.mapIPMap, OVSBridge.mapIPMap_ipMap, List.map_id]

end Traversal

end Everoute.Monitor
