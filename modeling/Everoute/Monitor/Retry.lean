import Everoute.Monitor.Persistence

/-!
# When a sync succeeds, and when its retry does

`syncAgentInfoWorker` requeues the agent after every failed sync, and the next attempt reads
the object again. With every request delivered, the outcome of a sync whose snapshot builds
depends only on the object it reads. When that is the server's current object, because the
informer has not synced and `Get` goes to the server, or because the informer's index holds
the server's object, the sync succeeds. Otherwise the informer lags the server: where it holds
no object the server has one, and `Create` is refused as existing; where it holds an older one,
`Update` is refused with a conflict.

A refused `Update` changes neither the server's object nor the informer's, so a retry with
nothing between fails the same way; once the informer catches up, the retry succeeds.
-/
namespace Everoute.Monitor

/-- The object a sync reads is the server's current one: the informer has not synced, or its
index holds the server's object. -/
def ReadsCurrent (state : State) : Prop :=
  state.informer.hasSynced = true → state.informer.indexed = state.server

instance (state : State) : Decidable (ReadsCurrent state) :=
  inferInstanceAs (Decidable (state.informer.hasSynced = true → _))

/-! ### The requests of a delivered sync -/

theorem request_delivered_of_error {serve : Option Record → Record → Except APIError Record}
    {stored : Option Record} {agentInfo : Record} {err : APIError}
    (refused : serve stored agentInfo = .error err) :
    request serve stored agentInfo .delivered = (stored, .error err) := by
  simp [request, refused]

theorem request_delivered_of_ok {serve : Option Record → Record → Except APIError Record}
    {stored : Option Record} {agentInfo written : Record}
    (accepted : serve stored agentInfo = .ok written) :
    request serve stored agentInfo .delivered = (some written, .ok ()) := by
  simp [request, accepted]

@[simp] theorem sentUpdate_objectMeta (agentInfo : Snapshot) (originAgentInfo : Record)
    (ipCache : IPCache) : (sentUpdate agentInfo originAgentInfo ipCache).objectMeta =
      originAgentInfo.objectMeta := rfl

/-- `Update` of an object under the stored object's own metadata is accepted. -/
theorem serveUpdate_sentUpdate (agentInfo : Snapshot) (stored : Record) (ipCache : IPCache) :
    ∃ written, serveUpdate (some stored) (sentUpdate agentInfo stored ipCache) = .ok written :=
  ⟨_, if_pos rfl⟩

/-- `Update` of an object under an older object's metadata is refused with a conflict. -/
theorem serveUpdate_sentUpdate_of_older (agentInfo : Snapshot) {origin stored : Record}
    (ipCache : IPCache)
    (older : origin.objectMeta.resourceVersion < stored.objectMeta.resourceVersion) :
    serveUpdate (some stored) (sentUpdate agentInfo origin ipCache) = .error .conflict :=
  if_neg (by rw [sentUpdate_objectMeta]; omega)

/-- `k8sClientGet`, with `Get` delivered, in a state that reads the server's object. -/
theorem k8sClientGet_of_readsCurrent {state : State} (current : ReadsCurrent state) :
    k8sClientGet state none = serveGet state.server := by
  unfold k8sClientGet
  split
  · rw [current ‹_›]; cases state.server <;> rfl
  · rfl

/-- A sound state that does not read the server's object has a synced informer that holds no
object where the server has one, or an older object than the server's. -/
theorem Sound.stale_cases {state : State} (sound : Sound state) (stale : ¬ReadsCurrent state) :
    state.informer.hasSynced = true ∧
      ((state.informer.indexed = none ∧ ∃ stored, state.server = some stored) ∨
        ∃ indexed stored, state.informer.indexed = some indexed ∧ state.server = some stored ∧
          indexed.objectMeta.resourceVersion < stored.objectMeta.resourceVersion) := by
  obtain ⟨synced, differ⟩ := Classical.not_imp.mp stale
  refine ⟨synced, ?_⟩
  cases found : state.informer.indexed with
  | none =>
    rw [found] at differ
    exact .inl ⟨rfl, Option.ne_none_iff_exists'.mp (Ne.symm differ)⟩
  | some indexed =>
    obtain ⟨stored, present, atMost, newest⟩ := sound.informer indexed found
    refine .inr ⟨indexed, stored, rfl, present, lt_of_le_of_ne atMost fun same => differ ?_⟩
    rw [found, present, newest same]

/-! ### A sync with every request delivered -/

section Delivered

variable {cfg : MonitorConfig} {ovsdbCache : OVSDBCache} {hostname : Option String} {now : Time}
  {remote : Remote} {state : State} {agentInfo : Snapshot}

theorem syncAgentInfo_of_notFound
    (built : getAgentInfo cfg state.ipCache hostname ovsdbCache now = .ok agentInfo)
    (got : k8sClientGet state remote.get = .error .notFound) :
    syncAgentInfo cfg ovsdbCache hostname now remote state =
      .returned (syncCreate cfg agentInfo remote state).1 (syncCreate cfg agentInfo remote state).2 := by
  simp only [syncAgentInfo, built, got]

theorem syncAgentInfo_of_found {origin : Record}
    (built : getAgentInfo cfg state.ipCache hostname ovsdbCache now = .ok agentInfo)
    (got : k8sClientGet state remote.get = .ok origin) :
    syncAgentInfo cfg ovsdbCache hostname now remote state =
      .returned (syncUpdate agentInfo origin remote state).1
        (syncUpdate agentInfo origin remote state).2 := by
  simp only [syncAgentInfo, built, got]

theorem syncUpdate_snd (origin : Record) :
    (syncUpdate agentInfo origin remote state).2 =
      (request serveUpdate state.server (sentUpdate agentInfo origin state.ipCache)
        remote.update).2.mapError .update := by
  simp only [syncUpdate, sentUpdate]
  split <;> simp_all [Except.mapError]

variable (built : getAgentInfo cfg state.ipCache hostname ovsdbCache now = .ok agentInfo)
include built

/-- A sync that reads the server's current object succeeds: it creates the object when there
is none, and otherwise updates it under its own metadata. -/
theorem syncAgentInfo_ok_of_readsCurrent (current : ReadsCurrent state) :
    ∃ state',
      syncAgentInfo cfg ovsdbCache hostname now allDelivered state = .returned state' (.ok ()) := by
  have got := k8sClientGet_of_readsCurrent current
  cases present : state.server with
  | none =>
    rw [present] at got
    rw [syncAgentInfo_of_notFound built got]
    obtain ⟨written, accepted⟩ : ∃ written, serveCreate state.server
        (Snapshot.resolve state.ipCache agentInfo) = .ok written := by rw [present]; exact ⟨_, rfl⟩
    simp only [syncCreate, allDelivered, request_delivered_of_ok accepted]
    exact ⟨_, rfl⟩
  | some stored =>
    rw [present] at got
    rw [syncAgentInfo_of_found built got, syncUpdate_snd]
    obtain ⟨written, accepted⟩ := serveUpdate_sentUpdate agentInfo stored state.ipCache
    rw [← present] at accepted
    simp only [allDelivered, request_delivered_of_ok accepted]
    exact ⟨_, rfl⟩

/-- A sync whose informer holds no object, where the server has one, is refused at `Create`
and leaves the state as it was. -/
theorem syncAgentInfo_of_missing (synced : state.informer.hasSynced = true)
    (missing : state.informer.indexed = none) {stored : Record} (present : state.server = some stored) :
    syncAgentInfo cfg ovsdbCache hostname now allDelivered state =
      .returned state (.error (.create cfg.agentName .alreadyExists)) := by
  have got : k8sClientGet state allDelivered.get = .error .notFound := by
    simp [k8sClientGet, synced, missing]
  have refused : serveCreate state.server (Snapshot.resolve state.ipCache agentInfo) =
      .error .alreadyExists := by rw [present]; rfl
  rw [syncAgentInfo_of_notFound built got]
  simp only [syncCreate, allDelivered, request_delivered_of_error refused]
  rfl

/-- A sync whose informer holds an older object than the server's is refused at `Update` with
a conflict, and leaves the informer and the server's object as they were. -/
theorem syncAgentInfo_of_older (synced : state.informer.hasSynced = true) {indexed stored : Record}
    (found : state.informer.indexed = some indexed) (present : state.server = some stored)
    (older : indexed.objectMeta.resourceVersion < stored.objectMeta.resourceVersion) :
    ∃ state', syncAgentInfo cfg ovsdbCache hostname now allDelivered state =
        .returned state' (.error (.update .conflict)) ∧
      state'.informer = state.informer ∧ state'.server = state.server := by
  have got : k8sClientGet state allDelivered.get = .ok indexed := by
    simp [k8sClientGet, synced, found]
  have refused :
      serveUpdate state.server (sentUpdate agentInfo indexed state.ipCache) = .error .conflict := by
    rw [present]; exact serveUpdate_sentUpdate_of_older agentInfo state.ipCache older
  refine ⟨(syncUpdate agentInfo indexed allDelivered state).1, ?_, syncUpdate_informer, ?_⟩
  · rw [syncAgentInfo_of_found built got, syncUpdate_snd]
    simp only [allDelivered, request_delivered_of_error refused]
    rfl
  · rw [syncUpdate_server]
    simp only [allDelivered, request_delivered_of_error refused]

end Delivered

/-! ### Outcomes -/

/-- From any reachable state, with every request delivered, a sync whose snapshot builds
succeeds when it reads the server's current object. Otherwise the informer has synced, and
either it holds no object where the server has one, and `Create` is refused as existing with
the state left as it was, or it holds an older object than the server's, and `Update` is
refused with a conflict. -/
theorem syncAgentInfo_delivered_outcome (cfg : MonitorConfig) {server : Option Record}
    (valid : ∀ r, server = some r → OfportsValid r) {events : List Event} {state : State}
    (ran : run cfg (State.initial server) events = some state) {ovsdbCache : OVSDBCache}
    {hostname : Option String} {now : Time} {agentInfo : Snapshot}
    (built : getAgentInfo cfg state.ipCache hostname ovsdbCache now = .ok agentInfo) :
    (ReadsCurrent state → ∃ state',
      syncAgentInfo cfg ovsdbCache hostname now allDelivered state = .returned state' (.ok ())) ∧
    (¬ReadsCurrent state → state.informer.hasSynced = true ∧
      ((state.informer.indexed = none ∧ (∃ stored, state.server = some stored) ∧
          syncAgentInfo cfg ovsdbCache hostname now allDelivered state =
            .returned state (.error (.create cfg.agentName .alreadyExists))) ∨
        ∃ indexed stored, state.informer.indexed = some indexed ∧ state.server = some stored ∧
          indexed.objectMeta.resourceVersion < stored.objectMeta.resourceVersion ∧
          ∃ state', syncAgentInfo cfg ovsdbCache hostname now allDelivered state =
            .returned state' (.error (.update .conflict)))) := by
  refine ⟨syncAgentInfo_ok_of_readsCurrent built, fun stale => ?_⟩
  obtain ⟨synced, ⟨missing, stored, present⟩ | ⟨indexed, stored, found, present, older⟩⟩ :=
    (sound_run valid ran).stale_cases stale
  · exact ⟨synced, .inl ⟨missing, ⟨stored, present⟩,
      syncAgentInfo_of_missing built synced missing present⟩⟩
  · obtain ⟨state', conflicted, -⟩ := syncAgentInfo_of_older built synced found present older
    exact ⟨synced, .inr ⟨indexed, stored, found, present, older, state', conflicted⟩⟩

theorem syncAgentInfo_delivered_outcome_on_staleInformerRun :
    ∃ state, run sampleConfig (State.initial none) staleInformerRun = some state ∧
      ∃ agentInfo, getAgentInfo sampleConfig state.ipCache none sampleOVS 6 = .ok agentInfo ∧
        (ReadsCurrent state → ∃ state',
          syncAgentInfo sampleConfig sampleOVS none 6 allDelivered state = .returned state' (.ok ())) ∧
        (¬ReadsCurrent state → state.informer.hasSynced = true ∧
          ((state.informer.indexed = none ∧ (∃ stored, state.server = some stored) ∧
              syncAgentInfo sampleConfig sampleOVS none 6 allDelivered state =
                .returned state (.error (.create sampleConfig.agentName .alreadyExists))) ∨
            ∃ indexed stored, state.informer.indexed = some indexed ∧ state.server = some stored ∧
              indexed.objectMeta.resourceVersion < stored.objectMeta.resourceVersion ∧
              ∃ state', syncAgentInfo sampleConfig sampleOVS none 6 allDelivered state =
                .returned state' (.error (.update .conflict)))) :=
  ⟨_, rfl, _, rfl, @syncAgentInfo_delivered_outcome sampleConfig none (fun _ none => by cases none)
    staleInformerRun _ rfl sampleOVS none 6 _ rfl⟩

/-- From any reachable state, with every request delivered: a sync refused with a conflict,
retried with nothing between, is refused with a conflict again; retried once the informer has
caught up with the server, it succeeds. -/
theorem syncAgentInfo_retry_after_conflict (cfg : MonitorConfig) {server : Option Record}
    (valid : ∀ r, server = some r → OfportsValid r) {events : List Event} {state : State}
    (ran : run cfg (State.initial server) events = some state) {ovsdbCache : OVSDBCache}
    {hostname : Option String} {now : Time} {state' : State}
    (conflicted : syncAgentInfo cfg ovsdbCache hostname now allDelivered state =
      .returned state' (.error (.update .conflict)))
    (hostname' : Option String) (now' : Time) :
    (∃ retried, syncAgentInfo cfg ovsdbCache hostname' now' allDelivered state' =
        .returned retried (.error (.update .conflict))) ∧
      ∃ caughtUp, step cfg state' .informerSync = some caughtUp ∧ ∃ retried,
        syncAgentInfo cfg ovsdbCache hostname' now' allDelivered caughtUp = .returned retried (.ok ()) := by
  obtain ⟨agentInfo, built⟩ :
      ∃ agentInfo, getAgentInfo cfg state.ipCache hostname ovsdbCache now = .ok agentInfo := by
    cases h : getAgentInfo cfg state.ipCache hostname ovsdbCache now with
    | ok agentInfo => exact ⟨agentInfo, rfl⟩
    | error fault => cases fault <;> simp [syncAgentInfo, h] at conflicted
  -- the conflict came from an informer holding an older object than the server's
  have stale : ¬ReadsCurrent state := fun current => by
    obtain ⟨_, succeeded⟩ := syncAgentInfo_ok_of_readsCurrent built current
    rw [conflicted] at succeeded; cases succeeded
  obtain ⟨synced, ⟨missing, stored, present⟩ | ⟨indexed, stored, found, present, older⟩⟩ :=
    (sound_run valid ran).stale_cases stale
  · rw [syncAgentInfo_of_missing built synced missing present] at conflicted; cases conflicted
  obtain ⟨_, refused, sameInformer, sameServer⟩ :=
    syncAgentInfo_of_older built synced found present older
  obtain ⟨rfl, -⟩ := Outcome.returned.inj (conflicted.symm.trans refused)
  -- and the refused `Update` left both objects as they were
  obtain ⟨agentInfo', built', -⟩ := getAgentInfo_ok_congr built state'.ipCache hostname' now'
  refine ⟨?_, _, rfl, ?_⟩
  · obtain ⟨retried, again, -⟩ := syncAgentInfo_of_older built' (sameInformer ▸ synced)
      (sameInformer ▸ found) (sameServer ▸ present) older
    exact ⟨retried, again⟩
  · exact syncAgentInfo_ok_of_readsCurrent built' fun _ => rfl

theorem syncAgentInfo_retry_after_conflict_on_staleInformerRun :
    ∃ state, run sampleConfig (State.initial none) staleInformerRun = some state ∧
      ∃ state', syncAgentInfo sampleConfig sampleOVS none 6 allDelivered state =
          .returned state' (.error (.update .conflict)) ∧
        (∃ retried, syncAgentInfo sampleConfig sampleOVS none 7 allDelivered state' =
            .returned retried (.error (.update .conflict))) ∧
          ∃ caughtUp, step sampleConfig state' .informerSync = some caughtUp ∧ ∃ retried,
            syncAgentInfo sampleConfig sampleOVS none 7 allDelivered caughtUp = .returned retried (.ok ()) :=
  ⟨_, rfl, _, rfl, @syncAgentInfo_retry_after_conflict sampleConfig none (fun _ none => by cases none)
    staleInformerRun _ rfl sampleOVS none 6 _ rfl none 7⟩

end Everoute.Monitor
