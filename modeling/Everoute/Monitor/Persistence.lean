import Everoute.Monitor.Failures

/-!
# Keeping a learned address until it is persisted

A successful `Update` clears the whole cache. An address learned for a key that no interface of
the snapshot carries is then in neither the cache nor the record: it is lost. What does hold is
the retention of an address under mirrors that attach its key: from the learning on, every
mirror a sync builds from has an interface with that key, sharing the cache's map when the
cache has one, and no two interfaces with one key. Then the address stays in the cache's map
or, after a successful `Update`, on the record's interface with its key, until a batch carries
the key again; and the first sync that succeeds after the learning leaves it on the record.

Two facts about every reachable state carry the proof: the informer's object is the server's or
an older one, so an `Update` that succeeds merged the server's object; and the server's object
has port numbers Go's conversion can give, so its interface with the key is the one the merge
matches.
-/
namespace Everoute.Monitor

/-! ### Reachable states -/

/-- Every interface of the record has a port number Go's conversion can give. -/
def OfportsValid (agentInfo : Record) : Prop := ∀ e ∈ agentInfo.interfaces, ValidOfport e.2.ofport

/-- What every reachable state has: the informer holds the server's object or an older one, and
the server's object has valid port numbers. -/
structure Sound (state : State) : Prop where
  informer : ∀ indexed, state.informer.indexed = some indexed → ∃ stored, state.server = some stored ∧
    indexed.objectMeta.resourceVersion ≤ stored.objectMeta.resourceVersion ∧
    (indexed.objectMeta.resourceVersion = stored.objectMeta.resourceVersion → indexed = stored)
  valid : ∀ stored, state.server = some stored → OfportsValid stored

/-- In a sound state, an object `k8sClientGet` returns at the server's resource version is the
server's object. -/
theorem Sound.origin_eq {state : State} (sound : Sound state) {getFault : Option APIError}
    {origin stored : Record} (got : k8sClientGet state getFault = .ok origin)
    (present : state.server = some stored)
    (sameVersion : origin.objectMeta.resourceVersion = stored.objectMeta.resourceVersion) :
    origin = stored := by
  rcases k8sClientGet_eq_ok got with indexed | direct
  · obtain ⟨stored', present', -, newest⟩ := sound.informer _ indexed
    cases present.symm.trans present'
    exact newest sameVersion
  · exact Option.some.inj (direct.symm.trans present)

theorem ofportsValid_of_interfaces {agentInfo written : Record}
    (same : written.interfaces = agentInfo.interfaces) (sent : OfportsValid agentInfo) :
    OfportsValid written :=
  fun e member => sent e (same ▸ member)

section Built

variable {cfg : MonitorConfig} {ipCache : IPCache} {hostname : Option String}
  {ovsdbCache : OVSDBCache} {now : Time} {agentInfo : Snapshot}
  (built : getAgentInfo cfg ipCache hostname ovsdbCache now = .ok agentInfo)
include built

theorem resolve_ofportsValid : OfportsValid (Snapshot.resolve ipCache agentInfo) := by
  intro e member
  rw [Snapshot.resolve, AgentInfo.interfaces_mapIPMap, List.mem_map] at member
  obtain ⟨e, present, rfl⟩ := member
  exact (getAgentInfo_built built e present).1

/-- The interfaces `Update` sends: the snapshot's, each with its map before the merge, read
through the cache, and its match's entries absorbed. -/
theorem sentUpdate_interfaces (cpAgentInfo : Record) :
    (sentUpdate agentInfo cpAgentInfo ipCache).interfaces =
      agentInfo.interfaces.map fun e => (e.1, e.2.withIPMap
        (absorbMatch (getCpIntf e.1 e.2 cpAgentInfo) (e.2.ipMap.deref ipCache))) := by
  rw [sentUpdate_eq built]
  exact AgentInfo.interfaces_mapIPMap _ agentInfo

theorem sentUpdate_ofportsValid (cpAgentInfo : Record) :
    OfportsValid (sentUpdate agentInfo cpAgentInfo ipCache) := by
  intro e member
  rw [sentUpdate_interfaces built, List.mem_map] at member
  obtain ⟨e, present, rfl⟩ := member
  exact (getAgentInfo_built built e present).1

end Built

theorem sound_initial {server : Option Record} (valid : ∀ r, server = some r → OfportsValid r) :
    Sound (State.initial server) :=
  ⟨fun _ indexed => by simp [State.initial] at indexed, valid⟩

/-- A write, with the informer left as it was, keeps a state sound when the server accepts only
a newer version over a stored object, keeps the interfaces it is sent, and is sent valid port
numbers. -/
theorem sound_request {state state' : State} (sound : Sound state)
    {serve : Option Record → Record → Except APIError Record}
    (newer : ∀ stored agentInfo written, serve (some stored) agentInfo = .ok written →
      stored.objectMeta.resourceVersion < written.objectMeta.resourceVersion)
    (keeps : ∀ {stored agentInfo written}, serve stored agentInfo = .ok written →
      written.interfaces = agentInfo.interfaces)
    {agentInfo : Record} (sent : OfportsValid agentInfo) {delivery : Delivery}
    (informer : state'.informer = state.informer)
    (server : state'.server = (request serve state.server agentInfo delivery).1) : Sound state' := by
  refine ⟨fun indexed found => ?_, fun r stored' => request_preserves
    (fun _ _ _ accepted => ofportsValid_of_interfaces (keeps accepted)) sound.valid sent delivery r
    (server ▸ stored')⟩
  obtain ⟨stored, present, older, newest⟩ := sound.informer indexed (informer ▸ found)
  rw [server]
  rcases request_fst serve state.server agentInfo delivery with same | ⟨written, accepted, wrote⟩
  · exact ⟨stored, by rw [same, present], older, newest⟩
  · have advanced := newer stored agentInfo written (present ▸ accepted)
    exact ⟨written, wrote, by omega, fun same => by omega⟩

/-- Each step keeps a state sound: the server's object only moves to a newer version, and what
it stores comes from a built snapshot. -/
theorem sound_step {cfg : MonitorConfig} {state state' : State} (sound : Sound state) {event : Event}
    (stepped : step cfg state event = some state') : Sound state' := by
  cases event with
  | learn localEndpointInfo now getFault => cases stepped; exact ⟨sound.informer, sound.valid⟩
  | informerSync =>
    cases stepped
    exact ⟨fun indexed same => ⟨indexed, same, le_refl _, fun _ => rfl⟩, sound.valid⟩
  | sync ovsdbCache hostname now remote =>
    rcases step_sync_cases stepped with rfl | ⟨agentInfo, built, -, rfl⟩ |
      ⟨agentInfo, cpAgentInfo, built, -, rfl⟩
    · exact sound
    · exact sound_request sound (fun _ _ _ refused => by cases refused) serveCreate_interfaces
        (resolve_ofportsValid built) rfl rfl
    · refine sound_request sound (fun _ _ _ accepted => ?_) serveUpdate_interfaces
        (sentUpdate_ofportsValid built cpAgentInfo) syncUpdate_informer syncUpdate_server
      obtain ⟨_, present, -, rfl⟩ := serveUpdate_eq_ok.mp accepted
      cases present
      exact Nat.lt_succ_self _

/-! ### Mirrors that attach a key -/

/-- The check on a mirror that retention needs, for the key `k`: built from a cache holding
`k`, the snapshot has an interface sharing the cache's map under `k`, and no two of its
interfaces share a key. A mirror whose build fails passes: no sync gets past a failed build. -/
def attachesKey (cfg : MonitorConfig) (ovsdbCache : OVSDBCache) (k : String) : Bool :=
  match getAgentInfo cfg (GoMap.single k GoMap.empty) none ovsdbCache 0 with
  | .ok agentInfo =>
    decide agentInfo.ifaceKeys.Nodup && agentInfo.interfaces.any fun e => e.2.ipMap == .cached k
  | .error _ => true

/-- What the check gives for every build from the mirror, whatever the cache, hostname and
clock. -/
theorem attachesKey_spec {cfg : MonitorConfig} {ovsdbCache : OVSDBCache} {k : String}
    (attaches : attachesKey cfg ovsdbCache k = true) {ipCache : IPCache} {hostname : Option String}
    {now : Time} {agentInfo : Snapshot}
    (built : getAgentInfo cfg ipCache hostname ovsdbCache now = .ok agentInfo) :
    agentInfo.ifaceKeys.Nodup ∧ k ∈ agentInfo.ifaceKeys ∧
      (ipCache.contains k → ∃ e ∈ agentInfo.interfaces, e.2.ipMap = .cached k) := by
  obtain ⟨probe, probed, sameKeys⟩ := getAgentInfo_ok_congr built (GoMap.single k GoMap.empty) none 0
  rw [attachesKey, probed] at attaches
  simp only [Bool.and_eq_true, decide_eq_true_eq, List.any_eq_true, beq_iff_eq] at attaches
  obtain ⟨distinct, e, member, cached⟩ := attaches
  have keyed : ifaceKey e.1 e.2.ofport = k := by
    rcases (getAgentInfo_built probed e member).2 with none | ⟨same, -⟩
    · rw [cached] at none; cases none
    · rw [cached] at same; exact (IPMapRef.cached.inj same).symm
  refine ⟨sameKeys ▸ distinct, sameKeys ▸ List.mem_map.mpr ⟨e, member, keyed⟩, fun present => ?_⟩
  have restricted := getAgentInfo_restrict
    (show ∀ key, (GoMap.single k GoMap.empty : IPCache).contains key → ipCache.contains key from
      fun key single => by
        obtain rfl : key = k := by simpa [GoMap.contains] using single
        exact present) cfg none ovsdbCache 0
  rw [getAgentInfo_hostname_now cfg ipCache ovsdbCache hostname none now 0, built, probed] at restricted
  replace restricted := Except.ok.inj restricted
  rw [restricted, AgentInfo.interfaces_mapIPMap, List.mem_map] at member
  obtain ⟨e', present', rfl⟩ := member
  exact ⟨e', present', IPMapRef.restrict_eq_cached cached⟩

/-! ### Retention -/

section Retention

variable (k : String) (a : IPAddress)

/-- Some interface of the record has the key `k`, and every one that has holds `a`. -/
def HoldsAt (agentInfo : Record) : Prop :=
  (∃ e ∈ agentInfo.interfaces, ifaceKey e.1 e.2.ofport = k) ∧
    ∀ e ∈ agentInfo.interfaces, ifaceKey e.1 e.2.ofport = k → a ∈ e.2.ipMap.keys

instance (agentInfo : Record) : Decidable (HoldsAt k a agentInfo) :=
  inferInstanceAs (Decidable (_ ∧ _))

/-- The address `a` learned for `k` is in the cache's map under `k`; or the cache has no map
under `k`, and the server's object holds `a` on its interfaces keyed `k`. -/
def Retained (state : State) : Prop :=
  (∃ m, state.ipCache.lookup k = some m ∧ a ∈ m.keys) ∨
    state.ipCache.lookup k = none ∧ ∃ stored, state.server = some stored ∧ HoldsAt k a stored

/-- The events that keep what was learned for `k`: batches that do not carry `k`, syncs of
mirrors that attach `k`, and the informer catching up. -/
def leavesKey (cfg : MonitorConfig) : Event → Bool
  | .learn localEndpointInfo _ _ => (localEndpointInfo.lookup k).isNone
  | .sync ovsdbCache _ _ _ => attachesKey cfg ovsdbCache k
  | .informerSync => true

/-- The events that keep the stored object's interfaces keyed `k`: syncs of mirrors that still
have an interface keyed `k`, read off a build from an empty cache (a mirror whose build fails
passes), and every batch and informer sync. -/
def keepsInterface (cfg : MonitorConfig) : Event → Bool
  | .sync ovsdbCache _ _ _ =>
    match getAgentInfo cfg GoMap.empty none ovsdbCache 0 with
    | .ok agentInfo => decide (k ∈ agentInfo.ifaceKeys)
    | .error _ => true
  | _ => true

variable {k a}

/-- What the check gives for every build from the mirror, whatever the cache, hostname and
clock. -/
theorem keepsInterface_sync {cfg : MonitorConfig} {ovsdbCache : OVSDBCache}
    {hostname : Option String} {now : Time} {remote : Remote}
    (kept : keepsInterface k cfg (.sync ovsdbCache hostname now remote) = true) {ipCache : IPCache}
    {hostname' : Option String} {now' : Time} {agentInfo : Snapshot}
    (built : getAgentInfo cfg ipCache hostname' ovsdbCache now' = .ok agentInfo) :
    k ∈ agentInfo.ifaceKeys := by
  obtain ⟨probe, probed, sameKeys⟩ := getAgentInfo_ok_congr built GoMap.empty none 0
  simp only [keepsInterface, probed, decide_eq_true_eq] at kept
  exact sameKeys ▸ kept

theorem holdsAt_of_interfaces {agentInfo written : Record}
    (same : written.interfaces = agentInfo.interfaces) (holds : HoldsAt k a agentInfo) :
    HoldsAt k a written := by
  unfold HoldsAt; rw [same]; exact holds

section Built

variable {cfg : MonitorConfig} {ipCache : IPCache} {hostname : Option String}
  {ovsdbCache : OVSDBCache} {now : Time} {agentInfo : Snapshot}
  (built : getAgentInfo cfg ipCache hostname ovsdbCache now = .ok agentInfo) (cpAgentInfo : Record)
include built

/-- Read through a cache whose map under `k` holds `a`, by a reading that keeps every address
of the map it reads, the snapshot's one interface keyed `k` shares that map, and so holds `a`. -/
theorem holdsAt_mapIPMap_of_cached (distinct : agentInfo.ifaceKeys.Nodup)
    (shared : ∃ e ∈ agentInfo.interfaces, e.2.ipMap = .cached k) {m : IPMap}
    (found : ipCache.lookup k = some m) (cachedAddress : a ∈ m.keys)
    {read : String → OVSInterface IPMapRef → IPMap}
    (keeps : ∀ b intf, a ∈ (intf.ipMap.deref ipCache).keys → a ∈ (read b intf).keys) :
    HoldsAt k a (agentInfo.mapIPMap read) := by
  obtain ⟨e₀, present₀, cached₀⟩ := shared
  have keyed₀ : ifaceKey e₀.1 e₀.2.ofport = k := by
    rcases (getAgentInfo_built built e₀ present₀).2 with none | ⟨same, -⟩
    · rw [cached₀] at none; cases none
    · rw [cached₀] at same; exact (IPMapRef.cached.inj same).symm
  rw [HoldsAt, AgentInfo.interfaces_mapIPMap]
  refine ⟨⟨_, List.mem_map_of_mem _ present₀, keyed₀⟩, fun e member keyed => ?_⟩
  obtain ⟨⟨b, intf⟩, present, rfl⟩ := List.mem_map.mp member
  obtain rfl : (b, intf) = e₀ :=
    List.inj_on_of_nodup_map distinct present present₀ (keyed.trans keyed₀.symm)
  apply keeps
  rw [cached₀, IPMapRef.deref, found, Option.getD_some]
  exact cachedAddress

/-- Merged from a cache whose map under `k` holds `a`, the snapshot's one interface keyed `k`
shares that map, and so holds `a` in what `Update` sends. -/
theorem holdsAt_sentUpdate_of_cached (distinct : agentInfo.ifaceKeys.Nodup)
    (shared : ∃ e ∈ agentInfo.interfaces, e.2.ipMap = .cached k) {m : IPMap}
    (found : ipCache.lookup k = some m) (cachedAddress : a ∈ m.keys) :
    HoldsAt k a (sentUpdate agentInfo cpAgentInfo ipCache) := by
  rw [sentUpdate_eq built]
  refine holdsAt_mapIPMap_of_cached built distinct shared found cachedAddress fun b intf kept => ?_
  obtain ⟨t, stamped⟩ := Option.isSome_iff_exists.mp (GoMap.mem_keys.mp kept)
  exact GoMap.mem_keys.mpr (by rw [lookup_absorbMatch_of_lookup _ stamped]; rfl)

/-- Merged against a record whose interfaces keyed `k` hold `a`, every interface keyed `k` of
the snapshot matches one of them, and so holds `a` in what `Update` sends, whatever the cache
holds. -/
theorem holdsAt_sentUpdate_of_record (attached : k ∈ agentInfo.ifaceKeys)
    (valid : OfportsValid cpAgentInfo) (holds : HoldsAt k a cpAgentInfo) :
    HoldsAt k a (sentUpdate agentInfo cpAgentInfo ipCache) := by
  rw [HoldsAt, sentUpdate_interfaces built]
  obtain ⟨e₀, present₀, keyed₀⟩ := List.mem_map.mp attached
  replace keyed₀ : ifaceKey e₀.1 e₀.2.ofport = k := keyed₀
  refine ⟨⟨_, List.mem_map_of_mem _ present₀, keyed₀⟩, fun e member keyed => ?_⟩
  obtain ⟨e, present, rfl⟩ := List.mem_map.mp member
  replace keyed : ifaceKey e.1 e.2.ofport = k := keyed
  obtain ⟨remote, remotePresent, remoteKeyed⟩ := holds.1
  obtain ⟨sameBridge, sameOfport⟩ := ifaceKey_injective_of_valid (valid remote remotePresent)
    (getAgentInfo_built built e present).1 (remoteKeyed.trans keyed.symm)
  obtain ⟨first, found⟩ : ∃ first, cpAgentInfo.interfaces.find?
      (fun remote => remote.1 == e.1 && remote.2.ofport == e.2.ofport) = some first :=
    Option.isSome_iff_exists.mp
      (List.find?_isSome.mpr ⟨remote, remotePresent, by simp [sameBridge, sameOfport]⟩)
  have matchedKey : ifaceKey first.1 first.2.ofport = k := by
    have := List.find?_some found
    simp only [Bool.and_eq_true, beq_iff_eq] at this
    rw [this.1, this.2, keyed]
  have remembered := GoMap.mem_keys.mp (holds.2 first (List.mem_of_find?_eq_some found) matchedKey)
  simp only [OVSInterface.withIPMap_ipMap, getCpIntf_eq_find, found, Option.map_some', absorbMatch,
    GoMap.mem_keys, lookup_absorb]
  cases (e.2.ipMap.deref ipCache).lookup a
  · exact remembered
  · rfl

end Built

/-- The Update branch of a sync in a sound state, from a snapshot with an interface keyed `k`,
leaves the server's object holding `a` on its interfaces keyed `k` if it did: a refused
`Update` writes nothing, and an accepted one merged the server's object. -/
theorem holdsAt_syncUpdate {state : State} (sound : Sound state) {stored : Record}
    (present : state.server = some stored) (holds : HoldsAt k a stored) {cfg : MonitorConfig}
    {ovsdbCache : OVSDBCache} {hostname : Option String} {now : Time} {remote : Remote}
    {agentInfo : Snapshot} {cpAgentInfo : Record} (attached : k ∈ agentInfo.ifaceKeys)
    (built : getAgentInfo cfg state.ipCache hostname ovsdbCache now = .ok agentInfo)
    (got : k8sClientGet state remote.get = .ok cpAgentInfo) :
    ∃ stored', (syncUpdate agentInfo cpAgentInfo remote state).1.server = some stored' ∧
      HoldsAt k a stored' := by
  rw [syncUpdate_server]
  rcases request_fst serveUpdate state.server (sentUpdate agentInfo cpAgentInfo state.ipCache)
    remote.update with same | ⟨written, accepted, wrote⟩
  · exact ⟨stored, by rw [same, present], holds⟩
  · obtain ⟨current, present', sameVersion, -⟩ := serveUpdate_eq_ok.mp accepted
    cases present.symm.trans present'
    obtain rfl := sound.origin_eq got present sameVersion
    exact ⟨written, wrote, holdsAt_of_interfaces (serveUpdate_interfaces accepted)
      (holdsAt_sentUpdate_of_record built _ attached (sound.valid _ present) holds)⟩

/-- An `Update` branch of a sync whose mirror attaches `k` keeps the address retained. The
address in the cache stays in the merged map when the request fails, and reaches the record on
the interface sharing that map when it succeeds; an address on the record is merged into what
`Update` sends, and the cache gets no map under `k` either way. -/
theorem retained_syncUpdate {cfg : MonitorConfig} {state : State} (sound : Sound state)
    (retained : Retained k a state) {ovsdbCache : OVSDBCache} {hostname : Option String}
    {now : Time} {remote : Remote} (allowed : attachesKey cfg ovsdbCache k = true)
    {agentInfo : Snapshot} {cpAgentInfo : Record}
    (built : getAgentInfo cfg state.ipCache hostname ovsdbCache now = .ok agentInfo)
    (got : k8sClientGet state remote.get = .ok cpAgentInfo) :
    Retained k a (syncUpdate agentInfo cpAgentInfo remote state).1 := by
  obtain ⟨distinct, attached, shared⟩ := attachesKey_spec allowed built
  have kept := mergeAgentInfo_keepsEntries built cpAgentInfo k
  rcases retained with ⟨m, found, cachedAddress⟩ | ⟨absent, stored, present, holds⟩
  · rcases syncUpdate_cases agentInfo cpAgentInfo remote state with merged | ⟨cleared, succeeded⟩
    · obtain ⟨m', found', entries⟩ := kept.2 m found
      obtain ⟨t, stamped⟩ := Option.isSome_iff_exists.mp (GoMap.mem_keys.mp cachedAddress)
      rw [merged]
      exact .inl ⟨m', found', GoMap.mem_keys.mpr (by rw [entries a t stamped]; rfl)⟩
    · obtain ⟨-, written, accepted, wrote⟩ := request_snd_eq_ok succeeded
      rw [cleared]
      refine .inr ⟨GoMap.lookup_empty k, written, wrote, holdsAt_of_interfaces
        (serveUpdate_interfaces accepted) (holdsAt_sentUpdate_of_cached built cpAgentInfo distinct
          (shared (GoMap.contains_iff.mpr (GoMap.mem_keys.mpr (by simp [found])))) found
          cachedAddress)⟩
  · have absent' : (syncUpdate agentInfo cpAgentInfo remote state).1.ipCache.lookup k = none := by
      rcases syncUpdate_cases agentInfo cpAgentInfo remote state with merged | ⟨cleared, -⟩
      · rw [merged]; simpa [absent] using kept.1
      · rw [cleared]; exact GoMap.lookup_empty k
    exact .inr ⟨absent', holdsAt_syncUpdate sound present holds attached built got⟩

/-- A step allowed after the learning keeps the address retained. -/
theorem retained_step {cfg : MonitorConfig} {state state' : State} (sound : Sound state)
    (retained : Retained k a state) {event : Event} (allowed : leavesKey k cfg event = true)
    (stepped : step cfg state event = some state') : Retained k a state' := by
  cases event with
  | learn localEndpointInfo now getFault =>
    rw [step_learn] at stepped
    cases stepped
    have untouched :
        (updateIPCache state.ipCache localEndpointInfo now).lookup k = state.ipCache.lookup k := by
      rw [lookup_updateIPCache, Option.isNone_iff_eq_none.mp allowed]
    simpa only [Retained, untouched] using retained
  | informerSync => cases stepped; exact retained
  | sync ovsdbCache hostname now remote =>
    rcases step_sync_cases stepped with rfl | ⟨agentInfo, built, -, rfl⟩ |
      ⟨agentInfo, cpAgentInfo, built, got, rfl⟩
    · exact retained
    · rcases retained with cached | ⟨absent, stored, present, holds⟩
      · exact .inl cached
      · exact .inr ⟨absent, stored, syncCreate_server_of_some present, holds⟩
    · exact retained_syncUpdate sound retained allowed built got

/-- A step that `keepsInterface` allows keeps the server's object holding `a` on its interfaces
keyed `k`: a batch and the informer leave the server alone, `Create` is refused over a stored
object, and `Update` merges the stored object's addresses into what it sends. -/
theorem persisted_step {cfg : MonitorConfig} {state state' : State} (sound : Sound state)
    (persisted : ∃ stored, state.server = some stored ∧ HoldsAt k a stored) {event : Event}
    (allowed : keepsInterface k cfg event = true) (stepped : step cfg state event = some state') :
    ∃ stored, state'.server = some stored ∧ HoldsAt k a stored := by
  obtain ⟨stored, present, holds⟩ := persisted
  cases event with
  | learn localEndpointInfo now getFault => cases stepped; exact ⟨stored, present, holds⟩
  | informerSync => cases stepped; exact ⟨stored, present, holds⟩
  | sync ovsdbCache hostname now remote =>
    rcases step_sync_cases stepped with rfl | ⟨agentInfo, built, -, rfl⟩ |
      ⟨agentInfo, cpAgentInfo, built, got, rfl⟩
    · exact ⟨stored, present, holds⟩
    · exact ⟨stored, syncCreate_server_of_some present, holds⟩
    · exact holdsAt_syncUpdate sound present holds (keepsInterface_sync allowed built) built got

end Retention

/-! ### Runs -/

/-- Every state a fresh agent reaches, over a stored object with valid port numbers, is sound. -/
theorem sound_run {cfg : MonitorConfig} {server : Option Record}
    (valid : ∀ r, server = some r → OfportsValid r) {events : List Event} {state : State}
    (ran : run cfg (State.initial server) events = some state) : Sound state :=
  run_preserves (fun _ _ _ _ sound stepped => sound_step sound stepped) (sound_initial valid) ran

/-- In every state a fresh agent reaches, a sync that succeeds after `k8sClientGet` returned an
object merged the server's object: the informer's object is the server's or an older one, and
`Update` refuses an older one. -/
theorem sync_ok_merges_server_object (cfg : MonitorConfig) {server : Option Record}
    (valid : ∀ r, server = some r → OfportsValid r) {events : List Event} {state : State}
    (ran : run cfg (State.initial server) events = some state) {ovsdbCache : OVSDBCache}
    {hostname : Option String} {now : Time} {remote : Remote} {state' : State}
    (synced : syncAgentInfo cfg ovsdbCache hostname now remote state = .returned state' (.ok ()))
    {origin : Record} (got : k8sClientGet state remote.get = .ok origin) :
    state.server = some origin := by
  rcases syncAgentInfo_returned synced with ⟨-, _, failed⟩ | ⟨-, -, missing, -⟩ |
    ⟨agentInfo, cpAgentInfo, -, got', updated⟩
  · cases failed
  · cases got.symm.trans missing
  · obtain rfl : cpAgentInfo = origin := Except.ok.inj (got'.symm.trans got)
    obtain ⟨-, written, accepted, -⟩ := syncUpdate_eq_ok updated
    obtain ⟨current, present, sameVersion, -⟩ := serveUpdate_eq_ok.mp accepted
    rw [present, (sound_run valid ran).origin_eq got present sameVersion]

theorem sync_ok_merges_server_object_on_sample :
    ∃ state, run sampleConfig (State.initial none) [sampleSync 0, .informerSync] = some state ∧
      ∃ state', syncAgentInfo sampleConfig sampleOVS none 1 allDelivered state =
          .returned state' (.ok ()) ∧
        ∃ origin, k8sClientGet state allDelivered.get = .ok origin ∧ state.server = some origin :=
  ⟨_, rfl, _, rfl, _, rfl, @sync_ok_merges_server_object sampleConfig none (fun _ none => by cases none)
    [sampleSync 0, .informerSync] _ rfl sampleOVS none 1 allDelivered _ rfl _ rfl⟩

/-- Events after a learning of `10.0.0.7` for `br0-5`: syncs of a mirror whose `eth0` has port
number 5, the informer catching up, and a batch for another key. -/
def retentionRun : List Event :=
  [sampleSync 2, .informerSync, learnOne "br0-6" (IP.ipv4 10 0 0 8) 3, sampleSync 4, sampleSync 5]

/-! ### From a learning on -/

section Learning

/- A run from a fresh agent that learns a global-unicast address `ip` for `k`, and whose later
events all leave `k` alone. -/
variable (cfg : MonitorConfig) {server : Option Record}
  (valid : ∀ r, server = some r → OfportsValid r) (before : List Event)
  {localEndpointInfo : GoMap String IP} {k : String} {ip : IP}
  (carries : localEndpointInfo.lookup k = some ip) (global : ip.isGlobalUnicast = true)
  (now : Time) (getFault : Option APIError) {after : List Event}
  (allowed : ∀ event ∈ after, leavesKey k cfg event = true) {state : State}
  (ran : run cfg (State.initial server)
    (before ++ .learn localEndpointInfo now getFault :: after) = some state)

include valid carries global allowed ran

/-- From the learning on, the run reaches a sound state that retains the address. -/
theorem retained_run : Sound state ∧ Retained k ip.toString state := by
  rw [run_append] at ran
  cases reached : run cfg (State.initial server) before with
  | none => simp [reached] at ran
  | some learner =>
    rw [reached, Option.some_bind, run_cons, step_learn, Option.some_bind] at ran
    have sound := sound_run valid reached
    let learnt := { learner with ipCache := updateIPCache learner.ipCache localEndpointInfo now }
    have start : Sound learnt ∧ Retained k ip.toString learnt :=
      ⟨⟨sound.informer, sound.valid⟩, .inl ⟨GoMap.single ip.toString now,
        by simp only [learnt, lookup_updateIPCache, carries, global, if_true],
        by simp [GoMap.keys, GoMap.single]⟩⟩
    exact @run_preserves cfg learnt state (fun s => Sound s ∧ Retained k ip.toString s) after
      (fun event member _ _ holds stepped => ⟨sound_step holds.1 stepped,
        retained_step holds.1 holds.2 (allowed event member) stepped⟩) start ran

/-- A learned global-unicast address stays in the cache's map for its key or, after a
successful `Update`, on the stored record's interface with its key, for as long as later
batches do not carry its key and later mirrors attach it. -/
theorem run_retains_learned_address :
    (∃ m, state.ipCache.lookup k = some m ∧ ip.toString ∈ m.keys) ∨
      ∃ stored, state.server = some stored ∧
        ∃ e ∈ stored.interfaces, ifaceKey e.1 e.2.ofport = k ∧ ip.toString ∈ e.2.ipMap.keys := by
  rcases (retained_run cfg valid before carries global now getFault allowed ran).2 with
    cached | ⟨-, stored, present, holds⟩
  · exact .inl cached
  · obtain ⟨e, member, keyed⟩ := holds.1
    exact .inr ⟨stored, present, e, member, keyed, holds.2 e member keyed⟩

omit valid carries global allowed ran in
theorem run_retains_learned_address_on_sample :
    ∃ state, run sampleConfig (State.initial none)
        ([sampleSync 0] ++ .learn (GoMap.single "br0-5" (IP.ipv4 10 0 0 7)) 1 none :: retentionRun) =
          some state ∧
      ((∃ m, state.ipCache.lookup "br0-5" = some m ∧ (IP.ipv4 10 0 0 7).toString ∈ m.keys) ∨
        ∃ stored, state.server = some stored ∧ ∃ e ∈ stored.interfaces,
          ifaceKey e.1 e.2.ofport = "br0-5" ∧ (IP.ipv4 10 0 0 7).toString ∈ e.2.ipMap.keys) :=
  (⟨_, rfl⟩ : ∃ state, run sampleConfig (State.initial none)
      ([sampleSync 0] ++ .learn (GoMap.single "br0-5" (IP.ipv4 10 0 0 7)) 1 none :: retentionRun) =
        some state).elim
    fun state ran => ⟨state, ran, run_retains_learned_address sampleConfig (fun _ none => by cases none)
      [sampleSync 0] (by rfl) (by decide) 1 none (by decide) ran⟩

/-- The first successful sync after a learning, from a mirror that attaches the key, persists
the address: the server's object then has an interface with the key, and every interface with
it holds the address. A `Create` sends the cache's map on the interface that shares it; an
`Update` clears the cache, so retention leaves the address on the record. -/
theorem sync_persists_learned_address {ovsdbCache : OVSDBCache}
    (attaches : attachesKey cfg ovsdbCache k = true) (hostname : Option String) (now' : Time)
    (remote : Remote) {state' : State}
    (synced : syncAgentInfo cfg ovsdbCache hostname now' remote state = .returned state' (.ok ())) :
    ∃ stored, state'.server = some stored ∧ HoldsAt k ip.toString stored := by
  obtain ⟨sound, retained⟩ := retained_run cfg valid before carries global now getFault allowed ran
  have allowed' : leavesKey k cfg (.sync ovsdbCache hostname now' remote) = true := attaches
  rcases retained_step sound retained allowed' (step_sync_eq_some.mpr ⟨_, synced⟩) with
    ⟨m, found, cachedAddress⟩ | ⟨-, stored, present, holds⟩
  · rcases syncAgentInfo_returned synced with ⟨-, _, failed⟩ | ⟨agentInfo, built, -, created⟩ |
      ⟨_, _, -, -, updated⟩
    · cases failed
    · obtain ⟨-, kept, wrote⟩ := syncCreate_eq_ok created
      obtain ⟨distinct, -, shared⟩ := attachesKey_spec attaches built
      rw [kept] at found
      exact ⟨_, wrote, holdsAt_mapIPMap_of_cached built distinct
        (shared (GoMap.contains_iff.mpr (GoMap.mem_keys.mpr (by simp [found])))) found
        cachedAddress fun _ _ => id⟩
    · rw [(syncUpdate_eq_ok updated).1, GoMap.lookup_empty] at found
      cases found
  · exact ⟨stored, present, holds⟩

omit valid carries global allowed ran in
theorem sync_persists_learned_address_on_sample :
    ∃ state, run sampleConfig (State.initial none)
        ([sampleSync 0] ++ [.learn (GoMap.single "br0-5" (IP.ipv4 10 0 0 7)) 1 none]) = some state ∧
      ∃ state', syncAgentInfo sampleConfig sampleOVS none 2 allDelivered state =
          .returned state' (.ok ()) ∧
        ∃ stored, state'.server = some stored ∧ HoldsAt "br0-5" (IP.ipv4 10 0 0 7).toString stored :=
  ⟨_, rfl, _, rfl, @sync_persists_learned_address sampleConfig none (fun _ none => by cases none)
    [sampleSync 0] (GoMap.single "br0-5" (IP.ipv4 10 0 0 7)) "br0-5" (IP.ipv4 10 0 0 7) rfl
    (by decide) 1 none [] (fun _ none => by cases none) _ rfl sampleOVS (by decide) none 2
    allDelivered _ rfl⟩

end Learning

/-! ### After persisting -/

/-- Once the stored object holds an address on its interfaces with a key, in a state a fresh
agent reaches, it holds it there after every later run in which each sync's mirror still has an
interface with the key: no sync takes a persisted address off, whatever the batches, the
informer and the server's answers. -/
theorem run_keeps_persisted_address (cfg : MonitorConfig) {server : Option Record}
    (valid : ∀ r, server = some r → OfportsValid r) {before : List Event} {state : State}
    (reached : run cfg (State.initial server) before = some state) {k : String} {a : IPAddress}
    {stored : Record} (present : state.server = some stored) (holds : HoldsAt k a stored)
    {after : List Event} (kept : ∀ event ∈ after, keepsInterface k cfg event = true)
    {state' : State} (ran : run cfg state after = some state') :
    ∃ stored', state'.server = some stored' ∧ HoldsAt k a stored' :=
  (@run_preserves cfg state state' (fun s => Sound s ∧ ∃ stored, s.server = some stored ∧
      HoldsAt k a stored) after
    (fun event member _ _ holds stepped => ⟨sound_step holds.1 stepped,
      persisted_step holds.1 holds.2 (kept event member) stepped⟩)
    ⟨sound_run valid reached, stored, present, holds⟩ ran).2

theorem run_keeps_persisted_address_on_sample :
    ∃ state, run sampleConfig (State.initial none)
        [sampleSync 0, learnOne "br0-5" (IP.ipv4 10 0 0 7) 1, sampleSync 2] = some state ∧
      ∃ stored, state.server = some stored ∧ HoldsAt "br0-5" "10.0.0.7" stored ∧
        ∃ state', run sampleConfig state [learnOne "br0-5" (IP.ipv4 10 0 0 9) 3, sampleSync 4] =
            some state' ∧
          ∃ stored', state'.server = some stored' ∧ HoldsAt "br0-5" "10.0.0.7" stored' :=
  ⟨_, rfl, _, rfl, by decide, _, rfl, @run_keeps_persisted_address sampleConfig none
    (fun _ none => by cases none) [sampleSync 0, learnOne "br0-5" (IP.ipv4 10 0 0 7) 1, sampleSync 2]
    _ rfl "br0-5" "10.0.0.7" _ rfl (by decide) [learnOne "br0-5" (IP.ipv4 10 0 0 9) 3, sampleSync 4]
    (by decide) _ rfl⟩

/-- A run that learns an address for `br0-7`, a key no interface of the mirror has, between two
syncs. -/
def unattachedRun : List Event := [sampleSync 0, learnOne "br0-7" (IP.ipv4 10 0 0 8) 1, sampleSync 2]

/-- After the learning the cache holds `10.0.0.8` under `br0-7`; the second sync's `Update`
succeeds and clears the cache, and the record's one interface, keyed `br0-5`, has no address:
`10.0.0.8` is in neither. -/
theorem sync_drops_unattached_address :
    (run sampleConfig (State.initial none) (unattachedRun.take 2)).map
        (fun state => (state.ipCache.lookup "br0-7").map GoMap.keys) = some (some ["10.0.0.8"]) ∧
      ∃ state, run sampleConfig (State.initial none) unattachedRun = some state ∧
        state.ipCache = GoMap.empty ∧
        state.server.map (fun r => r.interfaces.map fun e => (ifaceKey e.1 e.2.ofport, e.2.ipMap.keys)) =
          some [("br0-5", [])] :=
  ⟨rfl, _, rfl, rfl, rfl⟩

end Everoute.Monitor
