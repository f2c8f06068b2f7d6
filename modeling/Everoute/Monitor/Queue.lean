import Everoute.Monitor.Addresses
import Everoute.Monitor.Persistence

/-!
# The goroutines and the sync queue

`Run` starts the informer and three goroutines. `handleOfPortIPAddressUpdate` applies each batch
from the OVS monitor with `updateOfPortIPAddress`, which adds the agent's name to `syncQueue`
when `shouldSyncOnLearnIPLocked` asks for a sync; `periodicallySyncAgentInfo` adds it on every
tick, and the OVSDB monitor, whose queue `syncQueue` is, adds it as it sees fit;
`syncAgentInfoWorker` takes it from the queue, runs `syncAgentInfo`, and after an error
adds it again a second later with `AddAfter`. The queue holds the one name at most once. A
batch and a sync each hold `ipCacheLock` throughout, so each goroutine's action is atomic; an
`Add` that lands while the worker holds the name queues it again at `Done`, as a tick right
after the worker's action would.

Every schedule of these actions is a run of the event model: a batch is a learning, the
worker's action on a queued name is a sync, and the queue's own actions leave the monitor's
state alone; and every run is a schedule in which each sync is a tick and then the worker. The
two reach the same states, so what holds of every run holds of every state the goroutines
reach, and what a run can do, the goroutines can do. The queue
adds what the event model leaves free: a batch with an address that the object it reads lacks
queues a sync.
-/
namespace Everoute.Monitor

/-- `AgentMonitor` with its `syncQueue`: whether the agent's name waits in the queue, and
whether an `AddAfter` of it has yet to fire. -/
structure AgentMonitor where
  state : State
  queued : Bool
  retrying : Bool

/-- `NewAgentMonitor`: nothing queued, no retry waiting. -/
def AgentMonitor.initial (server : Option Record) : AgentMonitor := ⟨State.initial server, false, false⟩

/-- What one goroutine does while it holds the lock, or the queue does on its own. -/
inductive Action
  /-- `handleOfPortIPAddressUpdate` receives a batch. -/
  | learn (localEndpointInfo : GoMap String IP) (now : Time) (getFault : Option APIError)
  /-- An `Add` from outside the worker: the ticker of `periodicallySyncAgentInfo` fires, or the
  OVSDB monitor adds the name to the queue it shares. -/
  | tick
  /-- `syncAgentInfoWorker` runs once, in the environment of its sync. -/
  | work (ovsdbCache : OVSDBCache) (hostname : Option String) (now : Time) (remote : Remote)
  /-- The second of a pending `AddAfter` has passed. -/
  | retryDue
  /-- The informer catches up with the server. -/
  | informerSync

/-- One action; `none` once the agent has panicked. A worker with no name queued waits in
`Get`. -/
def act (cfg : MonitorConfig) (monitor : AgentMonitor) : Action → Option AgentMonitor
  | .learn localEndpointInfo now getFault =>
    let learned := updateOfPortIPAddress monitor.state localEndpointInfo now getFault
    some { monitor with state := learned.1, queued := monitor.queued || learned.2 }
  | .tick => some { monitor with queued := true }
  | .work ovsdbCache hostname now remote =>
    if monitor.queued then
      match syncAgentInfo cfg ovsdbCache hostname now remote monitor.state with
      | .returned state (.ok ()) => some { monitor with state := state, queued := false }
      | .returned state (.error _) => some ⟨state, false, true⟩
      | .panicked _ => none
    else some monitor
  | .retryDue =>
    some (if monitor.retrying then { monitor with queued := true, retrying := false } else monitor)
  | .informerSync =>
    some { monitor with state := { monitor.state with informer := ⟨true, monitor.state.server⟩ } }

/-- A schedule of actions; `none` once the agent has panicked. -/
def runActions (cfg : MonitorConfig) (monitor : AgentMonitor) (actions : List Action) :
    Option AgentMonitor :=
  actions.foldlM (act cfg) monitor

/-- The events of the event model an action is: a batch is a learning, the worker's action on
a queued name is a sync, and the queue's own actions are none. -/
def Action.events (monitor : AgentMonitor) : Action → List Event
  | .learn localEndpointInfo now getFault => [.learn localEndpointInfo now getFault]
  | .work ovsdbCache hostname now remote =>
    if monitor.queued then [.sync ovsdbCache hostname now remote] else []
  | .informerSync => [.informerSync]
  | .tick | .retryDue => []

/-! ### Schedules are runs -/

section Refinement

variable {cfg : MonitorConfig} {monitor monitor' : AgentMonitor}

theorem runActions_cons (action : Action) (actions : List Action) :
    runActions cfg monitor (action :: actions) =
      (act cfg monitor action).bind (runActions cfg · actions) := rfl

/-- An action moves the monitor's state as its events do. -/
theorem act_events {action : Action} (acted : act cfg monitor action = some monitor') :
    run cfg monitor.state (action.events monitor) = some monitor'.state := by
  cases action with
  | learn localEndpointInfo now getFault => cases acted; rfl
  | tick => cases acted; rfl
  | work ovsdbCache hostname now remote =>
    simp only [act] at acted
    split at acted
    · rename_i queued
      simp only [Action.events, queued, if_true, run_cons, step]
      revert acted
      cases syncAgentInfo cfg ovsdbCache hostname now remote monitor.state with
      | returned state result =>
        rcases result with err | ⟨⟨⟩⟩ <;> intro acted <;> cases acted <;> rfl
      | panicked => intro acted; cases acted
    · rename_i idle
      cases acted
      simp [Action.events, idle]
  | retryDue => simp only [act] at acted; split at acted <;> cases acted <;> rfl
  | informerSync => cases acted; rfl

/-- Every schedule of the goroutines moves the monitor's state along a run of the event model. -/
theorem runActions_events {actions : List Action}
    (ran : runActions cfg monitor actions = some monitor') :
    ∃ events, run cfg monitor.state events = some monitor'.state := by
  induction actions generalizing monitor with
  | nil => cases ran; exact ⟨[], rfl⟩
  | cons action actions ih =>
    rw [runActions_cons, Option.bind_eq_some] at ran
    obtain ⟨next, acted, rest⟩ := ran
    obtain ⟨events, reached⟩ := ih rest
    exact ⟨action.events monitor ++ events,
      by rw [run_append, act_events acted, Option.some_bind, reached]⟩

end Refinement

/-! ### Runs are schedules -/

/-- The actions that take an event: a batch and the informer as they are, a sync as a tick and
then the worker. -/
def Event.actions : Event → List Action
  | .learn localEndpointInfo now getFault => [.learn localEndpointInfo now getFault]
  | .sync ovsdbCache hostname now remote => [.tick, .work ovsdbCache hostname now remote]
  | .informerSync => [.informerSync]

section Completeness

variable {cfg : MonitorConfig} {monitor : AgentMonitor} {state' : State}

theorem runActions_append (actions actions' : List Action) :
    runActions cfg monitor (actions ++ actions') =
      (runActions cfg monitor actions).bind (runActions cfg · actions') :=
  List.foldlM_append _ _ _ _

/-- The actions of an event move the monitor's state as the event does. -/
theorem step_actions {event : Event} (stepped : step cfg monitor.state event = some state') :
    ∃ monitor', runActions cfg monitor event.actions = some monitor' ∧ monitor'.state = state' := by
  cases event with
  | learn localEndpointInfo now getFault => cases stepped; exact ⟨_, rfl, rfl⟩
  | informerSync => cases stepped; exact ⟨_, rfl, rfl⟩
  | sync ovsdbCache hostname now remote =>
    obtain ⟨result, returned⟩ := step_sync_eq_some.mp stepped
    simp only [Event.actions, runActions, List.foldlM, act, Option.pure_def, Option.bind_eq_bind,
      Option.some_bind, if_true, returned]
    rcases result with err | ⟨⟨⟩⟩
    · exact ⟨_, rfl, rfl⟩
    · exact ⟨_, rfl, rfl⟩

/-- Every run of the event model is a schedule of the goroutines, from any monitor. -/
theorem run_actions {events : List Event} (ran : run cfg monitor.state events = some state') :
    ∃ monitor', runActions cfg monitor (events.flatMap Event.actions) = some monitor' ∧
      monitor'.state = state' := by
  induction events generalizing monitor with
  | nil => cases ran; exact ⟨monitor, rfl, rfl⟩
  | cons event events ih =>
    rw [run_cons] at ran
    cases stepped : step cfg monitor.state event with
    | none => simp [stepped] at ran
    | some next =>
      rw [stepped, Option.some_bind] at ran
      obtain ⟨first, took, reached⟩ := step_actions stepped
      obtain ⟨last, rest, same⟩ := ih (reached ▸ ran : run cfg first.state events = some state')
      exact ⟨last, by rw [List.flatMap_cons, runActions_append, took, Option.some_bind, rest], same⟩

end Completeness

/-- The goroutines reach exactly the states the event model reaches from a fresh agent: every
schedule is a run, and every run is a schedule in which each sync is a tick and then the
worker. So what the event model shows of its runs, the agent's goroutines can do. -/
theorem schedules_reach_run_states (cfg : MonitorConfig) (server : Option Record) (state : State) :
    (∃ actions monitor, runActions cfg (AgentMonitor.initial server) actions = some monitor ∧
        monitor.state = state) ↔
      ∃ events, run cfg (State.initial server) events = some state := by
  constructor
  · rintro ⟨actions, monitor, ran, rfl⟩
    exact runActions_events ran
  · rintro ⟨events, ran⟩
    obtain ⟨monitor, ran', same⟩ := @run_actions cfg (AgentMonitor.initial server) state events ran
    exact ⟨_, monitor, ran', same⟩

/-! ### What the queue adds -/

/-- A record that reflects the cache holds, on its interfaces with a key, every address the
cache has under the key. -/
theorem holdsAt_of_reflected {ipCache : IPCache} {agentInfo : Record}
    (reflected : Reflected ipCache agentInfo) {k : String} {m : IPMap} (found : ipCache.lookup k = some m)
    {a : IPAddress} (cachedAddress : a ∈ m.keys) : HoldsAt k a agentInfo := by
  obtain ⟨attached, holds⟩ := reflected (k, m) (GoMap.lookup_eq_some_iff.mp found)
  exact ⟨attached, fun e member keyed =>
    GoMap.contains_iff.mp (holds e member keyed a cachedAddress)⟩

/-- A batch that brings a global-unicast address which the object read after it lacks under the
address's key queues a sync, when no key the cache holds is shared by two of that object's
interfaces; a batch whose read fails queues one too. -/
theorem act_learn_queues_sync (cfg : MonitorConfig) (monitor : AgentMonitor)
    {localEndpointInfo : GoMap String IP} {k : String} {ip : IP}
    (carries : localEndpointInfo.lookup k = some ip) (global : ip.isGlobalUnicast = true)
    (now : Time) (getFault : Option APIError) {monitor' : AgentMonitor}
    (acted : act cfg monitor (.learn localEndpointInfo now getFault) = some monitor')
    (lacks : ∀ agentInfo, k8sClientGet monitor'.state getFault = .ok agentInfo →
      (agentInfo.ifaceKeys.filter monitor'.state.ipCache.contains).Nodup ∧
        ¬HoldsAt k ip.toString agentInfo) :
    monitor'.queued = true := by
  cases acted
  have learnt : (updateIPCache monitor.state.ipCache localEndpointInfo now).lookup k =
      some (GoMap.single ip.toString now) := by
    simp only [lookup_updateIPCache, carries, global, if_true]
  simp only [updateOfPortIPAddress, Bool.or_eq_true]
  refine .inr ?_
  cases got : k8sClientGet { monitor.state with
      ipCache := updateIPCache monitor.state.ipCache localEndpointInfo now } getFault with
  | error => rfl
  | ok agentInfo =>
    obtain ⟨distinct, notHeld⟩ := lacks agentInfo got
    refine Bool.not_eq_false _ |>.mp fun quiet => notHeld ?_
    exact holdsAt_of_reflected ((shouldSyncOnLearnIPLocked_ok_eq_false_iff _ _ distinct).mp quiet)
      learnt (by simp [GoMap.single, GoMap.keys])

theorem act_learn_queues_sync_on_sample :
    ∃ monitor, runActions sampleConfig (AgentMonitor.initial none) [.tick, .work sampleOVS none 0 allDelivered] =
        some monitor ∧
      ∃ monitor', act sampleConfig monitor (.learn (GoMap.single "br0-5" (IP.ipv4 10 0 0 7)) 1 none) =
          some monitor' ∧ monitor'.queued = true :=
  ⟨_, rfl, _, rfl, @act_learn_queues_sync sampleConfig _ (GoMap.single "br0-5" (IP.ipv4 10 0 0 7))
    "br0-5" (IP.ipv4 10 0 0 7) rfl (by decide) 1 none _ rfl fun _ got => by cases got; decide⟩

end Everoute.Monitor
