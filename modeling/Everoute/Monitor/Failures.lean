import Everoute.Monitor.AgentSpec

/-!
# What a failed sync leaves in the cache

A sync that fails before `Update` leaves the cache as it was. One that fails at `Update` does
not: the snapshot's maps are the cache's own, and the merge has already written the record's
addresses into them. What it leaves is still the cache before it with entries added: no key
comes or goes, no entry of a map is dropped or given a new time, and every entry added is the
entry of the record's interface with the map's key.
-/
namespace Everoute.Monitor

/-- `after` has the keys of `before`, and each of its maps every entry of the map before. -/
def KeepsEntries (before after : IPCache) : Prop :=
  ∀ k, (after.lookup k).isSome = (before.lookup k).isSome ∧
    ∀ m, before.lookup k = some m →
      ∃ m', after.lookup k = some m' ∧ ∀ a t, m.lookup a = some t → m'.lookup a = some t

theorem keepsEntries_refl (ipCache : IPCache) : KeepsEntries ipCache ipCache :=
  fun _ => ⟨rfl, fun m found => ⟨m, found, fun _ _ => id⟩⟩

theorem lookup_absorbMatch_of_lookup (matchIntf : Option (OVSInterface IPMap)) {m : IPMap}
    {a : IPAddress} {t : Time} (found : m.lookup a = some t) :
    (absorbMatch matchIntf m).lookup a = some t := by
  cases matchIntf with
  | none => exact found
  | some intf => rw [absorbMatch, lookup_absorb, found]; rfl

/-- The merge of a built snapshot only adds entries to the cache. -/
theorem mergeAgentInfo_keepsEntries {cfg : MonitorConfig} {ipCache : IPCache}
    {hostname : Option String} {ovsdbCache : OVSDBCache} {now : Time} {agentInfo : Snapshot}
    (built : getAgentInfo cfg ipCache hostname ovsdbCache now = .ok agentInfo) (cpAgentInfo : Record) :
    KeepsEntries ipCache (mergeAgentInfo agentInfo cpAgentInfo ipCache).2 := by
  intro k
  rw [lookup_mergeAgentInfo built]
  split
  · refine ⟨by cases ipCache.lookup k <;> rfl, fun m found => ?_⟩
    rw [found]
    exact ⟨_, rfl, fun a t => lookup_absorbMatch_of_lookup _⟩
  · exact keepsEntries_refl ipCache k

/-- Every entry of `after` that `before` lacks is, on its key, the entry of the map of an
interface of `origin` whose own key is the map's key. -/
def GainsFrom (origin : Record) (before after : IPCache) : Prop :=
  ∀ k m', after.lookup k = some m' → ∀ a t, m'.lookup a = some t →
    (∃ m, before.lookup k = some m ∧ m.lookup a = some t) ∨
      ∃ e ∈ origin.interfaces, ifaceKey e.1 e.2.ofport = k ∧ e.2.ipMap.lookup a = some t

theorem gainsFrom_refl (origin : Record) (ipCache : IPCache) : GainsFrom origin ipCache ipCache :=
  fun _ m' found _ _ entry => .inl ⟨m', found, entry⟩

/-- An interface of a built snapshot that holds the cached map under `k` is keyed `k`. -/
theorem ifaceKey_of_cached {cfg : MonitorConfig} {ipCache : IPCache} {hostname : Option String}
    {ovsdbCache : OVSDBCache} {now : Time} {agentInfo : Snapshot}
    (built : getAgentInfo cfg ipCache hostname ovsdbCache now = .ok agentInfo)
    {e : String × OVSInterface IPMapRef} (member : e ∈ agentInfo.interfaces) {k : String}
    (cached : e.2.ipMap = .cached k) : ifaceKey e.1 e.2.ofport = k := by
  rcases (getAgentInfo_built built e member).2 with none | ⟨own, -⟩
  · rw [none] at cached; cases cached
  · rw [own] at cached; cases cached; rfl

/-- What the merge of a built snapshot adds to the cache comes from the record: an entry a map
gains is the entry of the record's interface with the map's key. -/
theorem mergeAgentInfo_gainsFrom {cfg : MonitorConfig} {ipCache : IPCache}
    {hostname : Option String} {ovsdbCache : OVSDBCache} {now : Time} {agentInfo : Snapshot}
    (built : getAgentInfo cfg ipCache hostname ovsdbCache now = .ok agentInfo) (cpAgentInfo : Record) :
    GainsFrom cpAgentInfo ipCache (mergeAgentInfo agentInfo cpAgentInfo ipCache).2 := by
  intro k m' found a t entry
  rw [lookup_mergeAgentInfo built] at found
  split at found
  · rename_i e sharer
    obtain ⟨m, before, rfl⟩ := Option.map_eq_some'.mp found
    rw [lookup_absorbMatch] at entry
    split at entry
    · rename_i remote first
      rcases Option.or_eq_some.mp entry with mine | ⟨-, theirs⟩
      · exact .inl ⟨m, before, mine⟩
      -- the address is new: it came from the match, which has the sharing interface's key
      have matched := List.find?_some first
      have shares := List.find?_some sharer
      simp only [Bool.and_eq_true, beq_iff_eq] at matched shares
      have keyed := ifaceKey_of_cached built (List.mem_of_find?_eq_some sharer) shares
      exact .inr ⟨remote, List.mem_of_find?_eq_some first, by rw [matched.1, matched.2, keyed], theirs⟩
    · exact .inl ⟨m, before, entry⟩
  · exact .inl ⟨m', found, entry⟩

/-- `syncUpdate` fails only at `Update`, and then leaves the cache as the merge wrote it. -/
theorem syncUpdate_eq_error {agentInfo : Snapshot} {originAgentInfo : Record} {remote : Remote}
    {state state' : State} {e : SyncError}
    (failed : syncUpdate agentInfo originAgentInfo remote state = (state', .error e)) :
    (∃ err, e = .update err) ∧
      state'.ipCache = (mergeAgentInfo agentInfo originAgentInfo state.ipCache).2 := by
  simp only [syncUpdate] at failed
  split at failed
  · cases failed; exact ⟨⟨_, rfl⟩, rfl⟩
  · cases failed

/-- A sync that returns an error leaves the cache as it was, unless it failed at `Update`; and
even then the cache has the same keys, every map keeps each entry it had, with its time, and
every entry a map gains is the entry of the fetched record's interface with the map's key. -/
theorem syncAgentInfo_error_keepsEntries {cfg : MonitorConfig} {ovsdbCache : OVSDBCache}
    {hostname : Option String} {now : Time} {remote : Remote} {state state' : State} {e : SyncError}
    (returned : syncAgentInfo cfg ovsdbCache hostname now remote state = .returned state' (.error e)) :
    ((∀ err, e ≠ .update err) → state'.ipCache = state.ipCache) ∧
      KeepsEntries state.ipCache state'.ipCache ∧
      ∀ origin, k8sClientGet state remote.get = .ok origin →
        GainsFrom origin state.ipCache state'.ipCache := by
  rcases syncAgentInfo_returned returned with ⟨rfl, -⟩ | ⟨agentInfo, -, -, created⟩ |
    ⟨agentInfo, cpAgentInfo, built, fetched, updated⟩
  · exact ⟨fun _ => rfl, keepsEntries_refl _, fun origin _ => gainsFrom_refl origin _⟩
  · obtain rfl : (syncCreate cfg agentInfo remote state).1 = state' := congrArg Prod.fst created
    exact ⟨fun _ => rfl, keepsEntries_refl _, fun origin _ => gainsFrom_refl origin _⟩
  · obtain ⟨⟨err, rfl⟩, merged⟩ := syncUpdate_eq_error updated
    refine ⟨fun notUpdate => absurd rfl (notUpdate err),
      merged ▸ mergeAgentInfo_keepsEntries built cpAgentInfo, fun origin fetched' => ?_⟩
    obtain rfl : cpAgentInfo = origin := Except.ok.inj (fetched.symm.trans fetched')
    exact merged ▸ mergeAgentInfo_gainsFrom built cpAgentInfo

/-- A run in which the informer falls behind: it has indexed the object at resource version 2
when the server's is at 3, and the cache holds one fresh address for `br0-5`. -/
def staleInformerRun : List Event :=
  [sampleSync 0, learnOne "br0-5" (IP.ipv4 10 0 0 9) 1, sampleSync 2, .informerSync,
    learnOne "br0-5" (IP.ipv4 10 0 0 8) 3, sampleSync 4, learnOne "br0-5" (IP.ipv4 10 0 0 7) 5]

/-- After that run, a sync merges the informer's stale object, whose `eth0` holds `10.0.0.9`,
and its `Update` is refused with a conflict; the cache's map for `br0-5` keeps `10.0.0.9`. -/
theorem syncAgentInfo_conflict_writes_cache :
    ∃ state, run sampleConfig (State.initial none) staleInformerRun = some state ∧
      (state.ipCache.lookup "br0-5").map GoMap.keys = some ["10.0.0.7"] ∧
      ∃ state', syncAgentInfo sampleConfig sampleOVS none 6 allDelivered state =
          .returned state' (.error (.update .conflict)) ∧
        (state'.ipCache.lookup "br0-5").map GoMap.keys = some ["10.0.0.7", "10.0.0.9"] :=
  ⟨_, rfl, rfl, _, rfl, rfl⟩

theorem syncAgentInfo_error_keepsEntries_on_conflict :
    ∃ state, run sampleConfig (State.initial none) staleInformerRun = some state ∧
      ∃ state', syncAgentInfo sampleConfig sampleOVS none 6 allDelivered state =
          .returned state' (.error (.update .conflict)) ∧
        ((∀ err, SyncError.update .conflict ≠ .update err) → state'.ipCache = state.ipCache) ∧
        KeepsEntries state.ipCache state'.ipCache ∧
        ∀ origin, k8sClientGet state allDelivered.get = .ok origin →
          GainsFrom origin state.ipCache state'.ipCache :=
  ⟨_, rfl, _, rfl, @syncAgentInfo_error_keepsEntries sampleConfig sampleOVS none 6 allDelivered _ _ _ rfl⟩

end Everoute.Monitor
