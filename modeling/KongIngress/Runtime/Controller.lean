/-
**The controller as it runs: its work queues, its event handlers, its workers.**

`NewKongController` registers handlers on the ingress and service informers that add keys to two
`TaskQueue`s, and `Run` starts workers that take keys from the queues and run `syncIngress` and
`syncServices` on them. `Controller` is the world with the two queues; `Controller.step` takes one
`Action`:

* a user's write to the orchestrator (`UserWrite`), whose changes the informers then deliver to
  the handlers (`Controller.deliver`, `onIngressEvent`, `onServiceEvent`);
* an ingress worker taking a pending key and running `syncIngress` on it to its end; the
  informers deliver the sync's writes, and the queue is told how it ended
  (`Controller.workIngress`);
* the same for the service queue and `syncServices` (`Controller.workService`).

A sync is one step here: syncs do not interleave. `Runtime.Threads` interleaves their calls.

* `Controller.Quiescent` — both queues are empty and the last sync of every key returned nil.
* `servedApiNames` — the API names the design asks a quiescent gateway to hold.
-/

import KongIngress.Run.Effects

namespace KongIngress

/-! ### The work queues -/

/-- Modelled from the spec: `TaskQueue`, whose source is not among the files. "`Add(key)` —
enqueue; duplicates coalesce while the key is pending"; after a sync, "on error: requeue the key
with exponential backoff, incrementing a per-key counter; the counter is exposed to the sync
function as `numRequeues`", and "on success: drop the key from the retry map". A worker's panic
is recovered from, and its key is not requeued. `failing` holds the keys whose last sync did not
return nil. -/
structure TaskQueue where
  pending : List String
  requeues : String → Nat
  failing : List String

namespace TaskQueue

/-- No key pending, no key retried. -/
def empty : TaskQueue := ⟨[], fun _ => 0, []⟩

/-- `Add`: a pending key is not added twice. -/
def add (queue : TaskQueue) (key : String) : TaskQueue :=
  if key ∈ queue.pending then queue else { queue with pending := queue.pending ++ [key] }

/-- A worker takes a pending key. -/
def take (queue : TaskQueue) (key : String) : TaskQueue :=
  { queue with pending := queue.pending.erase key }

/-- The end of a key's sync: `Forget` when it returned nil, `AddRateLimited` with the counter up
when it returned an error; a panic is only recorded. -/
def done (queue : TaskQueue) (key : String) : Outcome Unit → TaskQueue
  | .ok () =>
    { queue with
      requeues := fun other => if other = key then 0 else queue.requeues other
      failing := queue.failing.erase key }
  | .error _ =>
    { queue.add key with
      requeues := fun other => if other = key then queue.requeues key + 1 else queue.requeues other
      failing := queue.failing.insert key }
  | .nilDereference => { queue with failing := queue.failing.insert key }

variable (queue : TaskQueue) (key : String)

@[simp] theorem add_failing : (queue.add key).failing = queue.failing := by
  unfold add; split_ifs <;> rfl

theorem mem_add_self : key ∈ (queue.add key).pending := by
  unfold add; split_ifs with pending
  · exact pending
  · simp

theorem mem_add_of_mem {other : String} (pending : other ∈ queue.pending) :
    other ∈ (queue.add key).pending := by
  unfold add; split_ifs
  · exact pending
  · exact List.mem_append_left _ pending

variable {queue key}

/-- The end of a sync leaves every pending key pending. -/
theorem mem_done {other : String} (pending : other ∈ queue.pending) (outcome : Outcome Unit) :
    other ∈ (queue.done key outcome).pending := by
  rcases outcome with _ | _ | _
  · exact pending
  · exact queue.mem_add_of_mem key pending
  · exact pending

/-- The end of another key's sync leaves a failing key failing. -/
theorem mem_failing_done {other : String} (differ : other ≠ key) (failing : other ∈ queue.failing)
    (outcome : Outcome Unit) : other ∈ (queue.done key outcome).failing := by
  rcases outcome with _ | _ | _
  · exact (List.mem_erase_of_ne differ).mpr failing
  · exact List.mem_insert_of_mem failing
  · exact List.mem_insert_of_mem failing

end TaskQueue

/-! ### The event handlers of `NewKongController` -/

/-- The handlers of the ingress informer: an added or deleted ingress of the kong class, and an
update to the kong class under a new resource version, add the ingress's key. -/
def onIngressEvent (ingQueue : TaskQueue) : WatchEvent → TaskQueue
  | .ingressAdded ing => if !isKongIngress ing then ingQueue else ingQueue.add (keyFunc ing.ns ing.name)
  | .ingressUpdated old new =>
    if old.resourceVersion ≠ new.resourceVersion ∧ isKongIngress new then
      ingQueue.add (keyFunc new.ns new.name)
    else ingQueue
  | .ingressDeleted ing => if !isKongIngress ing then ingQueue else ingQueue.add (keyFunc ing.ns ing.name)
  | _ => ingQueue

/-- The handlers of the service informer: every added or deleted service, and every update under
a new resource version, add the service's key. -/
def onServiceEvent (svcQueue : TaskQueue) : WatchEvent → TaskQueue
  | .serviceDeleted svc => svcQueue.add (keyFunc svc.ns svc.name)
  | .serviceUpdated old new =>
    if old.resourceVersion ≠ new.resourceVersion then svcQueue.add (keyFunc new.ns new.name)
    else svcQueue
  | .serviceAdded svc => svcQueue.add (keyFunc svc.ns svc.name)
  | _ => svcQueue

/-- A handler only adds keys. -/
theorem mem_onIngressEvent {ingQueue : TaskQueue} {key : String} (pending : key ∈ ingQueue.pending)
    (event : WatchEvent) : key ∈ (onIngressEvent ingQueue event).pending := by
  unfold onIngressEvent
  split <;> (try split_ifs) <;> first | exact pending | exact ingQueue.mem_add_of_mem _ pending

@[simp] theorem onIngressEvent_failing (ingQueue : TaskQueue) (event : WatchEvent) :
    (onIngressEvent ingQueue event).failing = ingQueue.failing := by
  unfold onIngressEvent
  split <;> (try split_ifs) <;> simp

theorem mem_foldl_onIngressEvent {ingQueue : TaskQueue} {key : String}
    (pending : key ∈ ingQueue.pending) (events : List WatchEvent) :
    key ∈ (events.foldl onIngressEvent ingQueue).pending := by
  induction events generalizing ingQueue with
  | nil => exact pending
  | cons event rest ih => exact ih (mem_onIngressEvent pending event)

@[simp] theorem foldl_onIngressEvent_failing (ingQueue : TaskQueue) (events : List WatchEvent) :
    (events.foldl onIngressEvent ingQueue).failing = ingQueue.failing := by
  induction events generalizing ingQueue with
  | nil => rfl
  | cons event rest ih => simp [ih]

/-! ### The users' writes -/

/-- A write of the orchestrator's users. -/
inductive UserWrite where
  | createIngress (ing : Ingress)
  | updateIngress (ing : Ingress)
  | deleteIngress (ns name : String)
  | createService (svc : Service)
  | updateService (ns name : String) (ports : List ServicePort)
  | deleteService (ns name : String)
  | putSecret (secret : Secret)
  | deleteSecret (ns name : String)
  deriving DecidableEq, Repr

/-- The orchestrator after a user's write. -/
def UserWrite.apply : UserWrite → Cluster → Cluster
  | .createIngress ing, cluster => cluster.createIngress ing
  | .updateIngress ing, cluster => cluster.updateIngress ing
  | .deleteIngress ns name, cluster => cluster.deleteIngress ns name
  | .createService svc, cluster => cluster.createService svc
  | .updateService ns name ports, cluster => cluster.updateService ns name ports
  | .deleteService ns name, cluster => cluster.deleteService ns name
  | .putSecret secret, cluster => cluster.putSecret secret
  | .deleteSecret ns name, cluster => cluster.deleteSecret ns name

/-! ### The controller -/

/-- The controller as it runs: the world its calls are answered by, and its two work queues. -/
structure Controller where
  world : World
  ingQueue : TaskQueue
  svcQueue : TaskQueue

/-- What happens next: a user's write, or a worker of a queue taking a pending key and running
its sync to the end. -/
inductive Action where
  | user (write : UserWrite)
  | workIngress (key : String)
  | workService (key : String)
  deriving DecidableEq, Repr

/-- Whether the action is a user deleting a service. -/
def Action.deletesService : Action → Bool
  | .user (.deleteService _ _) => true
  | _ => false

namespace Controller

/-- An empty orchestrator and gateway and no key queued; the identity provider serves
`identityProvider`. -/
def start (identityProvider : String → Except String (List UInt8)) : Controller :=
  ⟨⟨Cluster.empty, Gateway.empty, identityProvider⟩, TaskQueue.empty, TaskQueue.empty⟩

/-- The informers deliver the changes not yet delivered to the handlers, in order. -/
def deliver (c : Controller) : Controller where
  world := { c.world with cluster := { c.world.cluster with watch := [] } }
  ingQueue := c.world.cluster.watch.foldl onIngressEvent c.ingQueue
  svcQueue := c.world.cluster.watch.foldl onServiceEvent c.svcQueue

variable (c : Controller)

@[simp] theorem deliver_ingresses : c.deliver.world.cluster.ingresses = c.world.cluster.ingresses := rfl
@[simp] theorem deliver_services : c.deliver.world.cluster.services = c.world.cluster.services := rfl
@[simp] theorem deliver_revision : c.deliver.world.cluster.revision = c.world.cluster.revision := rfl
@[simp] theorem deliver_gateway : c.deliver.world.gateway = c.world.gateway := rfl

/-- A user's write, delivered. -/
def write (c : Controller) (w : UserWrite) : Controller :=
  deliver { c with world := { c.world with cluster := w.apply c.world.cluster } }

/-- An ingress worker takes the key and runs `syncIngress` with the key's requeue count to its
end; the informers deliver the sync's writes, and the queue is told how it ended. -/
def workIngress (k : KongController) (c : Controller) (key : String) : Controller :=
  let result := (k.syncIngress key (c.ingQueue.requeues key)).run World.answer c.world
  let synced := deliver { c with world := result.2, ingQueue := c.ingQueue.take key }
  { synced with ingQueue := synced.ingQueue.done key result.1 }

/-- A service worker takes the key and runs `syncServices` on it to its end. -/
def workService (k : KongController) (c : Controller) (key : String) : Controller :=
  let result := (k.syncServices key (c.svcQueue.requeues key)).run World.answer c.world
  let synced := deliver { c with world := result.2, svcQueue := c.svcQueue.take key }
  { synced with svcQueue := synced.svcQueue.done key result.1 }

/-- One step; a worker takes only a pending key. -/
def step (k : KongController) (c : Controller) : Action → Option Controller
  | .user w => some (c.write w)
  | .workIngress key => if key ∈ c.ingQueue.pending then some (c.workIngress k key) else none
  | .workService key => if key ∈ c.svcQueue.pending then some (c.workService k key) else none

/-- A run of steps; `none` when one of them is not enabled. -/
def run (k : KongController) : List Action → Controller → Option Controller
  | [], c => some c
  | a :: rest, c => (c.step k a).bind (run k rest)

@[simp] theorem run_nil (k : KongController) (c : Controller) : run k [] c = some c := rfl

theorem run_cons (k : KongController) (a : Action) (rest : List Action) (c : Controller) :
    run k (a :: rest) c = (c.step k a).bind (run k rest) := rfl

/-- **What every allowed step keeps, every run of allowed steps keeps.** -/
theorem run_keeps (k : KongController) (allowed : Action → Prop) (keep : Controller → Prop)
    (step : ∀ {c next : Controller} {a : Action}, allowed a → keep c → c.step k a = some next → keep next) :
    ∀ (actions : List Action), (∀ a ∈ actions, allowed a) →
      ∀ {c next : Controller}, keep c → run k actions c = some next → keep next
  | [], _, _, _, holds, reached => by
    cases reached
    exact holds
  | a :: rest, allowedAll, _, _, holds, reached => by
    obtain ⟨mid, stepped, reached⟩ := Option.bind_eq_some.mp reached
    exact run_keeps k allowed keep step rest (fun b member => allowedAll b (List.mem_cons_of_mem _ member))
      (step (allowedAll a (List.mem_cons_self _ _)) holds stepped) reached

/-- Both queues are empty, and the last sync of every key returned nil. -/
def Quiescent (c : Controller) : Prop :=
  c.ingQueue.pending = [] ∧ c.svcQueue.pending = [] ∧ c.ingQueue.failing = [] ∧
    c.svcQueue.failing = []

instance : DecidablePred Quiescent := fun _ => inferInstanceAs (Decidable (_ ∧ _ ∧ _ ∧ _))

/-- **What a step's world is**: a user's write changes the orchestrator only, a worker's step
leaves the world of its sync's run; the informers then see every change. -/
theorem step_world (k : KongController) (c : Controller) (a : Action) {next : Controller}
    (stepped : c.step k a = some next) :
    ∃ world : World, next.world = { world with cluster := { world.cluster with watch := [] } } ∧
      ((∃ w, a = .user w ∧ world = { c.world with cluster := w.apply c.world.cluster }) ∨
        (∃ key, a = .workIngress key ∧
          world = ((k.syncIngress key (c.ingQueue.requeues key)).run World.answer c.world).2) ∨
        (∃ key, a = .workService key ∧
          world = ((k.syncServices key (c.svcQueue.requeues key)).run World.answer c.world).2)) := by
  cases a with
  | user w => cases stepped; exact ⟨_, rfl, .inl ⟨w, rfl, rfl⟩⟩
  | workIngress key =>
    simp only [step] at stepped
    split_ifs at stepped
    cases stepped
    exact ⟨_, rfl, .inr (.inl ⟨key, rfl, rfl⟩)⟩
  | workService key =>
    simp only [step] at stepped
    split_ifs at stepped
    cases stepped
    exact ⟨_, rfl, .inr (.inr ⟨key, rfl, rfl⟩)⟩

section GatewayProperty

variable (k : KongController) {P : Gateway → Prop}

/-- **A gateway property that each write of a path and each API deletion keep, every step
keeps**: a user's write leaves the gateway alone. -/
theorem step_keeps_gateway (kept : k.KeptByPathWrites P)
    (delete : ∀ gateway name, P gateway → P (gateway.deleteApi name)) {c next : Controller} {a : Action}
    (holds : P c.world.gateway) (stepped : c.step k a = some next) : P next.world.gateway := by
  obtain ⟨world, stepWorld, cases⟩ := c.step_world k a stepped
  rw [stepWorld]
  rcases cases with ⟨w, -, rfl⟩ | ⟨key, -, rfl⟩ | ⟨key, -, rfl⟩
  · exact holds
  · exact kept.syncIngress _ _ _ holds
  · exact KongController.syncServices_keeps delete _ _ _ holds

theorem run_keeps_gateway (kept : k.KeptByPathWrites P)
    (delete : ∀ gateway name, P gateway → P (gateway.deleteApi name)) (actions : List Action)
    {c next : Controller} (holds : P c.world.gateway) (reached : run k actions c = some next) :
    P next.world.gateway :=
  run_keeps k (fun _ => True) (fun d => P d.world.gateway)
    (fun _ holds stepped => step_keeps_gateway k kept delete holds stepped) actions (fun _ _ => trivial) holds reached

end GatewayProperty

end Controller

/-- The API names the design asks a quiescent gateway to hold: one for every path of every
kong-class ingress in the cache whose backend service is present and not being deleted. -/
def servedApiNames (k : KongController) (cluster : Cluster) : List String :=
  (cluster.ingresses.filter isKongIngress).flatMap fun ing =>
    ((ingressPaths ing).filter fun path =>
        (cluster.findService ing.ns path.2.backend.serviceName).any (·.deletionTimestamp.isNone)).map
      fun path => k.apiName path.1.host ing.ns path.2.path

end KongIngress
