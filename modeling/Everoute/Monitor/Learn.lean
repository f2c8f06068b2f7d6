import Everoute.Monitor.NetIP
import Everoute.Monitor.Types

/-!
# Learning addresses

`updateOfPortIPAddress` handles one batch from the learning channel, a map from interface key
to address: its loop, `updateIPCache`, replaces the IP cache's map under each key with the
batch's address alone, for the global-unicast ones. `shouldSyncOnLearnIPLocked` then decides
whether to ask for a sync at once, comparing the cache with the record `k8sClientGet` returns:
it counts the record's interfaces whose key the cache holds, returns early when such an
interface lacks one of the cached addresses, and asks for a sync unless the count is the
cache's size.
-/
namespace Everoute.Monitor

/-- One iteration of the loop of `updateOfPortIPAddress`, for the address `ip` learned on the
interface keyed `bridgePort`. -/
def learnEntry (now : Time) (ipCache : IPCache) (entry : String × IP) : IPCache :=
  let (bridgePort, ip) := entry
  if !ip.isGlobalUnicast then ipCache
  else
    let ipCache := if ipCache.contains bridgePort then ipCache else ipCache.insert bridgePort GoMap.empty
    ipCache.insert bridgePort (GoMap.single ip.toString now)

/-- The loop of `updateOfPortIPAddress`: the IP cache after a batch learned at `now` (the Go
code reads the clock once per address; one time stands for them all). -/
def updateIPCache (ipCache : IPCache) (localEndpointInfo : GoMap String IP) (now : Time) : IPCache :=
  localEndpointInfo.entries.foldl (learnEntry now) ipCache

/-- One iteration of the loop of `shouldSyncOnLearnIPLocked`, over an interface with the name
of its bridge; `none` where the loop returns `true`. -/
def containedStep (ipCache : IPCache) (agentInfoContainsIPMapCount : Nat)
    (entry : String × OVSInterface IPMap) : Option Nat :=
  match ipCache.lookup (ifaceKey entry.1 entry.2.ofport) with
  | none => some agentInfoContainsIPMapCount
  | some cacheIPMap =>
    if cacheIPMap.keys.all entry.2.ipMap.contains then some (agentInfoContainsIPMapCount + 1)
    else none

/-- The loop of `shouldSyncOnLearnIPLocked`: the number of the record's interfaces whose key the
cache holds, each with every cached address in its map, or `none` where the loop returns. -/
def countContained (ipCache : IPCache) (interfaces : List (String × OVSInterface IPMap)) :
    Option Nat :=
  interfaces.foldlM (containedStep ipCache) 0

/-- `shouldSyncOnLearnIPLocked`, given what `k8sClientGet` returned. -/
def shouldSyncOnLearnIPLocked {ε : Type} (ipCache : IPCache) (agentInfo : Except ε Record) : Bool :=
  match agentInfo with
  | .error _ => true
  | .ok agentInfo =>
    match countContained ipCache agentInfo.interfaces with
    | none => true
    | some agentInfoContainsIPMapCount => agentInfoContainsIPMapCount != ipCache.size

/-! ### What a batch writes -/

theorem lookup_learnEntry (now : Time) (ipCache : IPCache) (bridgePort : String) (ip : IP) (k : String) :
    (learnEntry now ipCache (bridgePort, ip)).lookup k =
      if k = bridgePort ∧ ip.isGlobalUnicast then some (GoMap.single ip.toString now)
      else ipCache.lookup k := by
  unfold learnEntry
  by_cases same : k = bridgePort
  · subst same
    cases global : ip.isGlobalUnicast <;> simp [global]
  · have made : (if ipCache.contains bridgePort then ipCache
        else ipCache.insert bridgePort GoMap.empty).lookup k = ipCache.lookup k := by
      split
      · rfl
      · exact GoMap.lookup_insert_of_ne _ _ same
    cases global : ip.isGlobalUnicast <;> simp [global, same, GoMap.lookup_insert_of_ne _ _ same, made]

/-- A batch replaces the map under each of its keys that carries a global-unicast address, and
leaves every other key as it was. -/
theorem lookup_updateIPCache (ipCache : IPCache) (localEndpointInfo : GoMap String IP) (now : Time)
    (k : String) :
    (updateIPCache ipCache localEndpointInfo now).lookup k =
      match localEndpointInfo.lookup k with
      | some ip => if ip.isGlobalUnicast then some (GoMap.single ip.toString now) else ipCache.lookup k
      | none => ipCache.lookup k := by
  suffices loop : ∀ (entries : List (String × IP)) (ipCache : IPCache), (entries.map Prod.fst).Nodup →
      (entries.foldl (learnEntry now) ipCache).lookup k =
        match entries.lookup k with
        | some ip => if ip.isGlobalUnicast then some (GoMap.single ip.toString now) else ipCache.lookup k
        | none => ipCache.lookup k from
    loop localEndpointInfo.entries ipCache localEndpointInfo.nodup
  intro entries
  induction entries with
  | nil => intro _ _; rfl
  | cons e entries ih =>
    intro ipCache distinct
    obtain ⟨k', ip⟩ := e
    rw [List.map_cons, List.nodup_cons] at distinct
    rw [List.foldl_cons, ih _ distinct.2, List.lookup_cons]
    by_cases same : k = k'
    · subst same
      have absent : entries.lookup k = none :=
        (GoMap.lookup_eq_none (m := ⟨entries, distinct.2⟩)).mpr distinct.1
      simp [absent, lookup_learnEntry]
    · have differ : (k == k') = false := by simpa using same
      cases entries.lookup k <;> simp [differ, lookup_learnEntry, same]

/-! ### What the check decides -/

/-- The interface holds every address the cache has under its key; true when the cache has
no map under it. -/
def holdsCached (ipCache : IPCache) (entry : String × OVSInterface IPMap) : Bool :=
  match ipCache.lookup (ifaceKey entry.1 entry.2.ofport) with
  | none => true
  | some cacheIPMap => cacheIPMap.keys.all entry.2.ipMap.contains

theorem containedStep_eq (ipCache : IPCache) (n : Nat) (entry : String × OVSInterface IPMap) :
    containedStep ipCache n entry =
      if holdsCached ipCache entry then
        some (n + if ipCache.contains (ifaceKey entry.1 entry.2.ofport) then 1 else 0)
      else none := by
  unfold containedStep holdsCached GoMap.contains
  cases ipCache.lookup (ifaceKey entry.1 entry.2.ofport) <;> simp

theorem foldlM_containedStep (ipCache : IPCache) (interfaces : List (String × OVSInterface IPMap))
    (n : Nat) :
    interfaces.foldlM (containedStep ipCache) n =
      if interfaces.all (holdsCached ipCache) then
        some (n + interfaces.countP fun e => ipCache.contains (ifaceKey e.1 e.2.ofport))
      else none := by
  induction interfaces generalizing n with
  | nil => simp
  | cons e interfaces ih =>
    rw [List.foldlM_cons, containedStep_eq]
    by_cases holds : holdsCached ipCache e
    · simp only [holds, if_true, Option.bind_eq_bind, Option.some_bind, ih, List.all_cons,
        Bool.true_and, List.countP_cons]
      split
      · simp only [Option.some.injEq]; omega
      · rfl
    · simp [holds]

theorem countP_contains_eq_size_iff (ipCache : IPCache) (agentInfo : Record)
    (distinct : (agentInfo.ifaceKeys.filter ipCache.contains).Nodup) :
    agentInfo.interfaces.countP (fun e => ipCache.contains (ifaceKey e.1 e.2.ofport)) = ipCache.size ↔
      ∀ k ∈ ipCache.keys, k ∈ agentInfo.ifaceKeys := by
  have counted : agentInfo.interfaces.countP (fun e => ipCache.contains (ifaceKey e.1 e.2.ofport)) =
      (agentInfo.ifaceKeys.filter ipCache.contains).length := by
    rw [← List.countP_eq_length_filter, AgentInfo.ifaceKeys, List.countP_map]; rfl
  have within : (agentInfo.ifaceKeys.filter ipCache.contains).Subperm ipCache.keys :=
    distinct.subperm fun k member => GoMap.contains_iff.mp (List.of_mem_filter member)
  rw [counted, GoMap.size_eq_length_keys]
  constructor
  · intro same k member
    exact List.mem_of_mem_filter ((within.perm_of_length_le same.ge).mem_iff.mpr member)
  · intro covered
    have back : ipCache.keys.Subperm (agentInfo.ifaceKeys.filter ipCache.contains) :=
      ipCache.keys_nodup.subperm fun k member =>
        List.mem_filter.mpr ⟨covered k member, GoMap.contains_iff.mpr member⟩
    exact le_antisymm within.length_le back.length_le

/-- The record reflects the cache: each key of the cache is the key of some interface of the
record, and every interface with that key holds every address cached under it. -/
def Reflected (ipCache : IPCache) (agentInfo : Record) : Prop :=
  ∀ entry ∈ ipCache.entries,
    (∃ e ∈ agentInfo.interfaces, ifaceKey e.1 e.2.ofport = entry.1) ∧
    ∀ e ∈ agentInfo.interfaces, ifaceKey e.1 e.2.ofport = entry.1 →
      ∀ ip ∈ entry.2.keys, e.2.ipMap.contains ip = true

instance (ipCache : IPCache) (agentInfo : Record) : Decidable (Reflected ipCache agentInfo) :=
  inferInstanceAs (Decidable (∀ entry ∈ ipCache.entries, _))

theorem reflected_iff (ipCache : IPCache) (agentInfo : Record) :
    Reflected ipCache agentInfo ↔
      agentInfo.interfaces.all (holdsCached ipCache) ∧
        ∀ k ∈ ipCache.keys, k ∈ agentInfo.ifaceKeys := by
  constructor
  · intro reflected
    refine ⟨List.all_eq_true.mpr fun e member => ?_, fun k member => ?_⟩
    · unfold holdsCached
      split
      · rfl
      · rename_i cacheIPMap found
        exact List.all_eq_true.mpr
          ((reflected _ (GoMap.lookup_eq_some_iff.mp found)).2 e member rfl)
    · obtain ⟨entry, stored, rfl⟩ := List.mem_map.mp member
      obtain ⟨e, present, keyed⟩ := (reflected entry stored).1
      exact List.mem_map.mpr ⟨e, present, keyed⟩
  · rintro ⟨holds, covered⟩ entry stored
    obtain ⟨e, present, keyed⟩ := List.mem_map.mp (covered _ (List.mem_map_of_mem Prod.fst stored))
    refine ⟨⟨e, present, keyed⟩, fun e' present' keyed' => ?_⟩
    have := List.all_eq_true.mp holds e' present'
    rw [holdsCached, keyed', GoMap.lookup_eq_some_iff.mpr stored] at this
    exact List.all_eq_true.mp this

/-- Over a record on which no key the cache holds is shared by two interfaces, the check asks
for no sync exactly when the record reflects the cache. -/
theorem shouldSyncOnLearnIPLocked_ok_eq_false_iff {ε : Type} (ipCache : IPCache)
    (agentInfo : Record) (distinct : (agentInfo.ifaceKeys.filter ipCache.contains).Nodup) :
    shouldSyncOnLearnIPLocked ipCache (.ok agentInfo : Except ε Record) = false ↔
      Reflected ipCache agentInfo := by
  rw [reflected_iff, ← countP_contains_eq_size_iff ipCache agentInfo distinct]
  simp only [shouldSyncOnLearnIPLocked, countContained, foldlM_containedStep]
  cases agentInfo.interfaces.all (holdsCached ipCache) <;> simp

theorem shouldSyncOnLearnIPLocked_eq_false_iff {ε : Type} (ipCache : IPCache) (agentInfo : Record)
    (distinct : (agentInfo.ifaceKeys.filter ipCache.contains).Nodup) :
    (shouldSyncOnLearnIPLocked ipCache (.ok agentInfo : Except ε Record) = false ↔
        Reflected ipCache agentInfo) ∧
      ∀ err : ε, shouldSyncOnLearnIPLocked ipCache (.error err : Except ε Record) = true :=
  ⟨shouldSyncOnLearnIPLocked_ok_eq_false_iff ipCache agentInfo distinct, fun _ => rfl⟩

/-! ### Records that share a key -/

/-- A record with one bridge and one port, whose interfaces have the given port numbers and
maps. -/
def portRecord (bridgeName : String) (interfaces : List (BitVec 32 × IPMap)) : Record :=
  ⟨⟨"", "", 0⟩, "", ⟨"", [⟨bridgeName, [⟨"", GoMap.empty, ⟨"", 0, ""⟩, ⟨""⟩,
    interfaces.map fun (ofport, ipMap) => ⟨"", "", "", ofport, GoMap.empty, ipMap⟩⟩]⟩]⟩, []⟩

/-- A record keyed `br0-5`, `br0-0`, `br0-0`, as the agent writes when two interfaces have no
port number, against a cache that holds only `br0-5`: the shared key is not one the cache
holds. -/
theorem shouldSyncOnLearnIPLocked_on_uncached_shared_key :
    ((portRecord "br0" [(5, GoMap.single "10.0.0.7" 1), (0, GoMap.empty), (0, GoMap.empty)]).ifaceKeys.filter
        (GoMap.single "br0-5" (GoMap.single "10.0.0.7" 1) : IPCache).contains).Nodup ∧
      (shouldSyncOnLearnIPLocked (GoMap.single "br0-5" (GoMap.single "10.0.0.7" 1))
          (.ok (portRecord "br0" [(5, GoMap.single "10.0.0.7" 1), (0, GoMap.empty), (0, GoMap.empty)]) :
            Except Unit Record) = false ↔
        Reflected (GoMap.single "br0-5" (GoMap.single "10.0.0.7" 1))
          (portRecord "br0" [(5, GoMap.single "10.0.0.7" 1), (0, GoMap.empty), (0, GoMap.empty)])) ∧
      ∀ err : Unit, shouldSyncOnLearnIPLocked (GoMap.single "br0-5" (GoMap.single "10.0.0.7" 1))
          (.error err : Except Unit Record) = true :=
  ⟨by decide, shouldSyncOnLearnIPLocked_eq_false_iff _ _ (by decide)⟩

/-- Two interfaces left at port number 0 count twice toward the cache's size, hiding a key no
interface has. -/
theorem shouldSyncOnLearnIPLocked_counts_shared_key :
    shouldSyncOnLearnIPLocked
        (GoMap.ofList [("br0-0", GoMap.single "10.0.0.1" 0), ("br0-2", GoMap.single "10.0.0.2" 0)])
        (.ok (portRecord "br0" [(0, GoMap.single "10.0.0.1" 0), (0, GoMap.single "10.0.0.1" 0)]) :
          Except Unit Record) = false ∧
      ¬Reflected
        (GoMap.ofList [("br0-0", GoMap.single "10.0.0.1" 0), ("br0-2", GoMap.single "10.0.0.2" 0)])
        (portRecord "br0" [(0, GoMap.single "10.0.0.1" 0), (0, GoMap.single "10.0.0.1" 0)]) := by
  decide

end Everoute.Monitor
