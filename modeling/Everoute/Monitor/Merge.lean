import Everoute.Monitor.Types

/-!
# Merging the remote record into a snapshot

`mergeAgentInfo` walks the snapshot's bridges, ports and interfaces by index. For each
interface it looks up the matching interface of the remote record, `getCpIntf`, and copies
every remote address the interface lacks into the interface's IP map. Two details of the Go
code shape the model: the snapshot's maps are the IP cache's own maps, so the writes land in
the cache; and the test for a lacking address reads the loop variable `intf`, a copy of the
interface taken before the loop, whose map is still `nil` after the loop has given the slot a
fresh map.
-/
namespace Everoute.Monitor

/-! ### Loops that thread state -/

section Traversal

variable {α β σ μ ν : Type}

/-- A `for i, x := range xs` loop that rewrites each element through its index while threading
state. -/
def threadMap (f : α → σ → β × σ) : List α → σ → List β × σ
  | [], s => ([], s)
  | a :: as, s =>
    let r := f a s
    let rs := threadMap f as r.2
    (r.1 :: rs.1, rs.2)

/-- The interface loop: rewrite each interface's IP map, threading state. -/
def OVSPort.traverseIPMap (f : OVSInterface μ → σ → ν × σ) (port : OVSPort μ) (s : σ) :
    OVSPort ν × σ :=
  let interfaces := threadMap (fun intf s =>
    let r := f intf s
    (intf.withIPMap r.1, r.2)) port.interfaces s
  (⟨port.name, port.externalIDs, port.vlanConfig, port.bondConfig, interfaces.1⟩, interfaces.2)

/-- The port loop, knowing the bridge's name. -/
def OVSBridge.traverseIPMap (f : String → OVSInterface μ → σ → ν × σ) (ovsBr : OVSBridge μ)
    (s : σ) : OVSBridge ν × σ :=
  let ports := threadMap (OVSPort.traverseIPMap (f ovsBr.name)) ovsBr.ports s
  (⟨ovsBr.name, ports.1⟩, ports.2)

/-- The three nested loops over bridges, ports and interfaces. -/
def AgentInfo.traverseIPMap (f : String → OVSInterface μ → σ → ν × σ) (a : AgentInfo μ) (s : σ) :
    AgentInfo ν × σ :=
  let bridges := threadMap (OVSBridge.traverseIPMap f) a.ovsInfo.bridges s
  (⟨a.objectMeta, a.hostname, ⟨a.ovsInfo.version, bridges.1⟩, a.conditions⟩, bridges.2)

end Traversal

/-! ### The merge -/

/-- `getCpIntf`: the first interface of the remote record, in bridge, port and interface
order, on a bridge named `bridgeName` with the port number of `newInterface`; a deep copy, so
the record's own maps are never written. -/
def getCpIntf {μ : Type} (bridgeName : String) (newInterface : OVSInterface μ)
    (cpAgentInfo : Record) : Option (OVSInterface IPMap) :=
  cpAgentInfo.ovsInfo.bridges.findSome? fun ovsBr =>
    if ovsBr.name ≠ bridgeName then none
    else ovsBr.ports.findSome? fun port =>
      port.interfaces.find? fun intf => intf.ofport == newInterface.ofport

/-- `slot[key] = value` through an interface's reference: a cached map is the IP cache's, so
the write lands there. Writing a `nil` map panics in Go; the merge makes the map first, so
that case is never reached. -/
def IPMapRef.store (ipCache : IPCache) (key : IPAddress) (value : Time) :
    IPMapRef → IPMapRef × IPCache
  | .nil => (.nil, ipCache)
  | .cached k => (.cached k, ipCache.insert k (((ipCache.lookup k).getD GoMap.empty).insert key value))
  | .owned m => (.owned (m.insert key value), ipCache)

/-- One iteration of the innermost loop of `mergeAgentInfo`, for the remote entry
`(key, value)`. `intf` is the IP map of the loop variable, copied before the loop, and the
state holds the interface's slot as the loop has left it, with the IP cache. The slot gets a
fresh map if it has none; the copy, unless `nil`, shares the slot's map. -/
def mergeEntry (intf : IPMapRef) (state : IPMapRef × IPCache) (entry : IPAddress × Time) :
    IPMapRef × IPCache :=
  let slot := if state.1 = .nil then .owned GoMap.empty else state.1
  if intf ≠ .nil ∧ (slot.deref state.2).contains entry.1 then (slot, state.2)
  else slot.store state.2 entry.1 entry.2

/-- The body of the interface loop of `mergeAgentInfo`: the interface's new reference and the
IP cache after it. -/
def mergeInterface (cpAgentInfo : Record) (bridgeName : String) (intf : OVSInterface IPMapRef)
    (ipCache : IPCache) : IPMapRef × IPCache :=
  match getCpIntf bridgeName intf cpAgentInfo with
  | none => (intf.ipMap, ipCache)
  | some matchIntf => matchIntf.ipMap.entries.foldl (mergeEntry intf.ipMap) (intf.ipMap, ipCache)

/-- `mergeAgentInfo`: the snapshot after the merge, and the IP cache its writes leave. -/
def mergeAgentInfo (localAgentInfo : Snapshot) (cpAgentInfo : Record) (ipCache : IPCache) :
    Snapshot × IPCache :=
  localAgentInfo.traverseIPMap (mergeInterface cpAgentInfo) ipCache

end Everoute.Monitor
