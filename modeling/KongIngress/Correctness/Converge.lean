/-
**What a quiescent controller serves.**

The design asks that once both queues are empty and every key's last sync returned nil, the
gateway's API names be those of the paths of the kong-class ingresses in the cache whose backend
service is present and not being deleted (`servedApiNames`). The code falls short both ways:

* `quiescent_gateway_diverges` — after a user deletes a synced ingress, the sync of its key finds
  no ingress and returns nil, and the API stays; after a user deletes a synced service and
  creates it again, the service handlers enqueue only the service, and the path's API, deleted
  with the first service, is not made again.
* `quiescent_serves_every_path` — what holds: in a run in which no service is deleted, every
  quiescent state serves every path of every kong-class ingress in the cache. Every change of a
  kong-class ingress enqueues its key (`Converging.write`), a sync that returns nil names every
  path of the ingress it read (`pathsNamed_afterAll`), and no run of `syncIngress` removes a name
  (`mem_apiNames_syncIngress`); only `syncServices` of a service being deleted does.
-/

import KongIngress.Runtime.Controller
import KongIngress.Correctness.Established

namespace KongIngress

namespace KongController

variable (k : KongController)

/-! ### The names a sync leaves -/

/-- The gateway holds the API name of every path of the ingress. -/
def PathsNamed (ing : Ingress) (gateway : Gateway) : Prop :=
  ∀ path ∈ ingressPaths ing, k.apiName path.1.host ing.ns path.2.path ∈ gateway.apiNames

/-- What a gateway names of an ingress depends on what the controller reads of it. -/
theorem PathsNamed.of_view {ing ing' : Ingress} (sameView : ing'.view = ing.view) {gateway : Gateway}
    (named : k.PathsNamed ing gateway) : k.PathsNamed ing' gateway := by
  obtain ⟨sameNs, -, sameSpec, -⟩ : ing'.ns = ing.ns ∧ ing'.name = ing.name ∧ ing'.spec = ing.spec ∧
      isKongIngress ing' = isKongIngress ing := by
    simpa [Ingress.view] using sameView
  simpa [PathsNamed, ingressPaths, sameNs, sameSpec] using named

theorem keptByPathWrites_mem_apiNames (name : String) :
    k.KeptByPathWrites fun gateway => name ∈ gateway.apiNames where
  writeApi gateway body held := by
    rw [Gateway.apiNames_writeApi]
    split_ifs
    · exact held
    · exact List.mem_append_left _ held
  attachPlugins gateway uid ing held := by simpa [Gateway.apiNames] using held
  postCertificates gateway certificates held := by simpa [Gateway.apiNames] using held
  withAuth0 gateway host key held := by simpa [Gateway.apiNames] using held

/-- **No run of `syncIngress` removes an API name**, whatever it returns. -/
theorem mem_apiNames_syncIngress {name : String} (world : World) (key : String) (numRequeues : Nat)
    (held : name ∈ world.gateway.apiNames) :
    name ∈ ((k.syncIngress key numRequeues).run World.answer world).2.gateway.apiNames :=
  (k.keptByPathWrites_mem_apiNames name).syncIngress world key numRequeues held

theorem mem_apiNames_syncedPath {name : String} (ing : Ingress) (path : IngressRule × HTTPIngressPath)
    (world : World) (held : name ∈ world.gateway.apiNames) :
    name ∈ (k.syncedPath ing path world).gateway.apiNames := by
  rw [syncedPath_apiNames]
  exact (k.keptByPathWrites_mem_apiNames name).writeApi _ _ held

theorem apiName_mem_syncedPath (ing : Ingress) (path : IngressRule × HTTPIngressPath) (world : World) :
    k.apiName path.1.host ing.ns path.2.path ∈ (k.syncedPath ing path world).gateway.apiNames := by
  rw [syncedPath_apiNames, Gateway.apiNames_writeApi]
  split_ifs with present
  · exact present
  · exact List.mem_append_right _ (List.mem_singleton_self _)

/-- **After every path's iteration, the gateway names every path.** -/
theorem pathsNamed_afterAll (ing : Ingress) :
    ∀ (paths : List (IngressRule × HTTPIngressPath)) (world : World), ∀ path ∈ paths,
      k.apiName path.1.host ing.ns path.2.path ∈
        (Prog.afterAll (k.syncedPath ing) paths world).gateway.apiNames
  | [], _, _, member => absurd member (List.not_mem_nil _)
  | first :: rest, world, path, member => by
    rw [Prog.afterAll_cons]
    rcases List.mem_cons.mp member with rfl | later
    · exact Prog.afterAll_keeps (k.syncedPath ing) (fun world => _ ∈ world.gateway.apiNames)
        (fun path world held => k.mem_apiNames_syncedPath ing path world held) rest
        (k.apiName_mem_syncedPath ing path world)
    · exact pathsNamed_afterAll ing rest _ path later

/-- Against a cluster in which no service is being deleted, `syncServices` does nothing. -/
theorem run_syncServices_of_live (world : World) (key : String) (numRequeues : Nat)
    (live : world.cluster.Live) :
    (k.syncServices key numRequeues).run World.answer world = (.ok (), world) := by
  simp only [syncServices, Prog.bind_eq, Prog.send_bind, Prog.run_call, World.answer_getService]
  cases found : world.cluster.getService key with
  | none => rfl
  | some svc => simp [live svc (List.mem_of_find?_eq_some found)]

end KongController

/-! ### What every step without a service's deletion keeps of the orchestrator -/

namespace Cluster

/-- Ingress keys are distinct, resource versions are no later than the revision, and no service is
being deleted. -/
structure Consistent (cluster : Cluster) : Prop where
  keys : (cluster.ingresses.map fun ing => keyFunc ing.ns ing.name).Nodup
  versions : cluster.VersionsBounded
  live : cluster.Live

theorem consistent_empty : empty.Consistent :=
  ⟨List.nodup_nil, fun _ member => absurd member (List.not_mem_nil _),
    fun _ member => absurd member (List.not_mem_nil _)⟩

variable {cluster later : Cluster}

/-- The undelivered changes play no part. -/
theorem Consistent.withWatch (consistent : cluster.Consistent) (events : List WatchEvent) :
    { cluster with watch := events }.Consistent :=
  ⟨consistent.keys, consistent.versions, consistent.live⟩

/-- Every ingress of a cache that reads the same as another has one of the same view there. -/
theorem exists_view_eq (views : later.ingresses.map Ingress.view = cluster.ingresses.map Ingress.view)
    {ing' : Ingress} (member' : ing' ∈ later.ingresses) : ∃ ing ∈ cluster.ingresses, ing.view = ing'.view := by
  have seen := List.mem_map_of_mem Ingress.view member'
  rw [views] at seen
  exact List.mem_map.mp seen

/-- A change that keeps what the controller reads of the ingresses keeps their keys distinct. -/
theorem Consistent.of_views (consistent : cluster.Consistent)
    (views : later.ingresses.map Ingress.view = cluster.ingresses.map Ingress.view)
    (versions : later.VersionsBounded) (live : later.Live) : later.Consistent := by
  have keys : (later.ingresses.map fun ing => keyFunc ing.ns ing.name) =
      cluster.ingresses.map fun ing => keyFunc ing.ns ing.name := by
    simpa [List.map_map, Function.comp_def, Ingress.view] using
      congrArg (List.map fun view : String × String × IngressSpec × Bool => keyFunc view.1 view.2.1) views
  exact ⟨keys ▸ consistent.keys, versions, live⟩

/-- **Every user's write but a service's deletion keeps the orchestrator consistent.** -/
theorem Consistent.apply (consistent : cluster.Consistent) (w : UserWrite)
    (kept : (Action.user w).deletesService = false) : (w.apply cluster).Consistent := by
  cases w <;> simp only [UserWrite.apply]
  case createIngress ing =>
    rcases cluster.createIngress_cases ing with same | ⟨free, created⟩
    · rwa [same]
    have fresh : ∀ other ∈ cluster.ingresses, keyFunc other.ns other.name ≠ keyFunc ing.ns ing.name := by
      simpa [getIngress] using List.find?_eq_none.mp free
    rw [created]
    refine ⟨by simpa [List.nodup_append, consistent.keys] using fresh, fun other member => ?_, consistent.live⟩
    rcases List.mem_append.mp member with old | new
    · exact Nat.le_succ_of_le (consistent.versions other old)
    · rw [List.mem_singleton.mp new]
  case updateIngress ing =>
    rcases cluster.updateIngress_cases ing with same | ⟨old, found, updated⟩
    · rwa [same]
    obtain ⟨sameNs, sameName⟩ : old.ns = ing.ns ∧ old.name = ing.name := by
      simpa [findIngress] using List.find?_some found
    rw [updated]
    refine ⟨?_, consistent.versions.putIngress old ing, consistent.live⟩
    simp only [putIngress, List.map_map]
    convert consistent.keys using 1
    refine List.map_congr_left fun other _ => ?_
    simp only [Function.comp_apply]
    split_ifs with same
    · rw [same, sameNs, sameName]
    · rfl
  case deleteIngress ns name =>
    rcases cluster.deleteIngress_cases ns name with same | ⟨old, deleted⟩
    · rwa [same]
    rw [deleted]
    exact ⟨consistent.keys.sublist ((List.filter_sublist _).map _),
      fun other member => consistent.versions other (List.mem_filter.mp member).1, consistent.live⟩
  case createService svc =>
    rcases cluster.createService_cases svc with same | created
    · rwa [same]
    rw [created]
    refine ⟨consistent.keys, fun other member => Nat.le_succ_of_le (consistent.versions other member),
      fun other member => ?_⟩
    rcases List.mem_append.mp member with old | new
    · exact consistent.live other old
    · rw [List.mem_singleton.mp new]
  case updateService ns name ports =>
    rcases cluster.updateService_cases ns name ports with same | ⟨old, updated⟩
    · rwa [same]
    rw [updated]
    exact ⟨consistent.keys, consistent.versions.putService _ _, consistent.live.putService _ rfl⟩
  case deleteService => cases kept
  case putSecret | deleteSecret => exact ⟨consistent.keys, consistent.versions, consistent.live⟩

end Cluster

/-! ### What a user's write enqueues -/

namespace Controller

variable (k : KongController)

/-- The informers deliver to the handlers a change in the watch stream that adds a key to every
queue. -/
theorem mem_deliver_of_mem {c : Controller} {event : WatchEvent} {key : String}
    (mem : event ∈ c.world.cluster.watch) (adds : ∀ queue, key ∈ (onIngressEvent queue event).pending) :
    key ∈ c.deliver.ingQueue.pending := by
  unfold deliver
  obtain ⟨before, after, split⟩ := List.append_of_mem mem
  rw [split, List.foldl_append, List.foldl_cons]
  exact mem_foldl_onIngressEvent (adds _) after

/-- The handlers enqueue a kong-class ingress that is added. -/
theorem adds_ingressAdded {ing : Ingress} (kong : isKongIngress ing = true) (queue : TaskQueue) :
    keyFunc ing.ns ing.name ∈ (onIngressEvent queue (.ingressAdded ing)).pending := by
  simpa [onIngressEvent, kong] using queue.mem_add_self _

/-- The handlers enqueue an update to the kong class under a new resource version. -/
theorem adds_ingressUpdated {old new : Ingress} (changed : old.resourceVersion ≠ new.resourceVersion)
    (kong : isKongIngress new = true) (queue : TaskQueue) :
    keyFunc new.ns new.name ∈ (onIngressEvent queue (.ingressUpdated old new)).pending := by
  simpa [onIngressEvent, changed, kong] using queue.mem_add_self _

/-- **A user's write enqueues every kong-class ingress it changes**: each ingress of the cache the
write leaves was in the cache before, or has its key pending once the write is delivered. -/
theorem mem_write {c : Controller} (versions : c.world.cluster.VersionsBounded) (w : UserWrite)
    {ing : Ingress} (member : ing ∈ (c.write w).world.cluster.ingresses) (kong : isKongIngress ing = true) :
    ing ∈ c.world.cluster.ingresses ∨ keyFunc ing.ns ing.name ∈ (c.write w).ingQueue.pending := by
  cases w <;> simp only [write, UserWrite.apply, deliver_ingresses] at member ⊢
  case createIngress new =>
    rcases c.world.cluster.createIngress_cases new with same | ⟨-, created⟩
    · rw [same] at member
      exact .inl member
    rw [created] at member ⊢
    rcases List.mem_append.mp member with old | added
    · exact .inl old
    rw [List.mem_singleton.mp added] at kong ⊢
    exact .inr (mem_deliver_of_mem (List.mem_append_right _ (List.mem_singleton_self _)) (adds_ingressAdded kong))
  case updateIngress new =>
    rcases c.world.cluster.updateIngress_cases new with same | ⟨old, found, updated⟩
    · rw [same] at member
      exact .inl member
    rw [updated] at member ⊢
    simp only [Cluster.putIngress, List.mem_map] at member
    obtain ⟨previous, mem, rfl⟩ := member
    split_ifs at kong ⊢ with replaced
    · have older : old.resourceVersion < c.world.cluster.revision + 1 :=
        Nat.lt_succ_of_le (versions old (List.mem_of_find?_eq_some found))
      exact .inr (mem_deliver_of_mem (List.mem_append_right _ (List.mem_singleton_self _))
        (adds_ingressUpdated older.ne kong))
    · exact .inl mem
  case deleteIngress ns name =>
    rcases c.world.cluster.deleteIngress_cases ns name with same | ⟨old, deleted⟩
    · rw [same] at member
      exact .inl member
    rw [deleted] at member
    exact .inl (List.mem_filter.mp member).1
  all_goals
    simp only [Cluster.createService_ingresses, Cluster.updateService_ingresses,
      Cluster.deleteService_ingresses, Cluster.putSecret_ingresses, Cluster.deleteSecret_ingresses] at member
    exact .inl member

/-! ### The invariant of a run without service deletions -/

/-- The key waits in the ingress queue, or its last sync did not return nil. -/
def Awaits (c : Controller) (key : String) : Prop :=
  key ∈ c.ingQueue.pending ∨ key ∈ c.ingQueue.failing

/-- What a run in which no service is deleted keeps: the orchestrator is consistent, and every
kong-class ingress in the cache waits for a sync or has every path named. -/
structure Converging (c : Controller) extends Cluster.Consistent c.world.cluster : Prop where
  served : ∀ ing ∈ c.world.cluster.ingresses, isKongIngress ing = true →
    c.Awaits (keyFunc ing.ns ing.name) ∨ k.PathsNamed ing c.world.gateway

theorem converging_start (identityProvider : String → Except String (List UInt8)) :
    Converging k (start identityProvider) :=
  ⟨Cluster.consistent_empty, fun _ member => absurd member (List.not_mem_nil _)⟩

theorem Awaits.deliver {c : Controller} {key : String} (awaits : c.Awaits key) :
    c.deliver.Awaits key := by
  rcases awaits with pending | failing
  · exact .inl (mem_foldl_onIngressEvent pending _)
  · exact .inr (by simpa [Controller.deliver] using failing)

/-- **Every user's write but a service's deletion keeps the invariant**: a change of a kong-class
ingress is delivered to the handlers, which enqueue its key. -/
theorem Converging.write {c : Controller} (conv : Converging k c) (w : UserWrite)
    (kept : (Action.user w).deletesService = false) : Converging k (c.write w) where
  toConsistent := (conv.toConsistent.apply w kept).withWatch []
  served ing member kong := by
    rcases mem_write conv.versions w member kong with old | pending
    · exact (conv.served ing old kong).imp Awaits.deliver id
    · exact .inl (.inl pending)

/-! #### The workers -/

/-- **An ingress worker's step keeps the invariant**: a sync that returns nil names every path of
the ingress its key finds, one that does not leaves the key waiting, and every other ingress keeps
what it had, for no call changes what the controller reads of an ingress and no run of
`syncIngress` removes a name. -/
theorem Converging.workIngress {c : Controller} (conv : Converging k c) (key : String) :
    Converging k (c.workIngress k key) := by
  unfold Controller.workIngress
  generalize ran : (k.syncIngress key (c.ingQueue.requeues key)).run World.answer c.world = result
  obtain ⟨outcome, world⟩ := result
  have views : world.cluster.ingresses.map Ingress.view = c.world.cluster.ingresses.map Ingress.view := by
    simpa [ran] using World.run_views c.world (k.syncIngress key (c.ingQueue.requeues key))
  have versions : world.cluster.VersionsBounded := by
    simpa [ran] using World.run_versions c.world (k.syncIngress key (c.ingQueue.requeues key)) conv.versions
  have live : world.cluster.Live := by
    simpa [ran] using World.run_live c.world (k.syncIngress key (c.ingQueue.requeues key)) conv.live
  have names : ∀ name ∈ c.world.gateway.apiNames, name ∈ world.gateway.apiNames := fun name held => by
    simpa [ran] using k.mem_apiNames_syncIngress c.world key (c.ingQueue.requeues key) held
  refine ⟨(conv.toConsistent.of_views views versions live).withWatch [], fun ing' member' kong' => ?_⟩
  obtain ⟨ing, member, sameView⟩ := Cluster.exists_view_eq views member'
  obtain ⟨sameNs, sameName, -, sameKong⟩ := Ingress.view_eq_iff.mp sameView
  have kong : isKongIngress ing = true := sameKong.trans kong'
  rw [← sameNs, ← sameName]
  by_cases mine : keyFunc ing.ns ing.name = key
  · subst mine
    rcases outcome with ⟨⟨⟩⟩ | err | _
    · refine .inr (KongController.PathsNamed.of_view k sameView.symm ?_)
      have returned := (k.run_syncIngress_eq_ok_iff c.world world _ _).mp ran
      rw [Cluster.getIngress_of_mem conv.keys member] at returned
      rw [returned.2]
      exact k.pathsNamed_afterAll ing _ _
    · exact .inl (.inl (TaskQueue.mem_add_self _ _))
    · exact .inl (.inr (List.mem_insert_self _ _))
  · rcases conv.served ing member kong with awaits | named
    · have taken : Awaits { c with world := world, ingQueue := c.ingQueue.take key } (keyFunc ing.ns ing.name) :=
        awaits.imp (List.mem_erase_of_ne mine).mpr id
      rcases taken.deliver with pending | failing
      · exact .inl (.inl (TaskQueue.mem_done pending outcome))
      · exact .inl (.inr (TaskQueue.mem_failing_done mine failing outcome))
    · exact .inr (KongController.PathsNamed.of_view k sameView.symm fun path onPath => names _ (named path onPath))

/-- A service worker's step changes nothing but the service queue: no service is being deleted. -/
theorem Converging.workService {c : Controller} (conv : Converging k c) (key : String) :
    Converging k (c.workService k key) := by
  simp only [Controller.workService, k.run_syncServices_of_live c.world key _ conv.live]
  exact ⟨conv.toConsistent.withWatch [], fun ing member kong =>
    (conv.served ing member kong).imp (Awaits.deliver (c := { c with svcQueue := c.svcQueue.take key })) id⟩

/-- **Every step but a service's deletion keeps the invariant.** -/
theorem Converging.step {c next : Controller} (conv : Converging k c) {a : Action}
    (kept : a.deletesService = false) (stepped : c.step k a = some next) : Converging k next := by
  cases a with
  | user w =>
    cases stepped
    exact conv.write k w kept
  | workIngress key =>
    simp only [Controller.step] at stepped
    split_ifs at stepped
    cases stepped
    exact conv.workIngress k key
  | workService key =>
    simp only [Controller.step] at stepped
    split_ifs at stepped
    cases stepped
    exact conv.workService k key

/-- **A run in which no service is deleted keeps the invariant.** -/
theorem Converging.run {c : Controller} (conv : Converging k c) :
    ∀ (actions : List Action), (∀ a ∈ actions, a.deletesService = false) →
      ∀ {next : Controller}, Controller.run k actions c = some next → Converging k next :=
  fun actions kept _ => Controller.run_keeps k (fun a => a.deletesService = false) (Converging k)
    (fun allowed conv stepped => conv.step k allowed stepped) actions kept conv

end Controller

namespace KongController

variable (k : KongController)

/-- **In a run in which no service is deleted, a quiescent controller serves every path**: every
path of every kong-class ingress in the cache has an API of its name in the gateway. -/
theorem quiescent_serves_every_path (identityProvider : String → Except String (List UInt8))
    (actions : List Action) (noServiceDeleted : ∀ a ∈ actions, a.deletesService = false)
    {c : Controller} (reached : Controller.run k actions (Controller.start identityProvider) = some c)
    (quiet : c.Quiescent) :
    ∀ ing ∈ c.world.cluster.ingresses, isKongIngress ing = true →
      ∀ path ∈ ingressPaths ing, k.apiName path.1.host ing.ns path.2.path ∈ c.world.gateway.apiNames := by
  have conv := (Controller.converging_start k identityProvider).run k actions noServiceDeleted reached
  obtain ⟨noPending, -, noFailing, -⟩ := quiet
  intro ing member kong
  refine (conv.served ing member kong).resolve_left ?_
  rintro (pending | failing)
  · simp [noPending] at pending
  · simp [noFailing] at failing

end KongController

/-! ### Runs from an empty orchestrator -/

/-- `webIngress` of the kong class. -/
def kongWebIngress : Ingress :=
  { webIngress with annotations := [(ingressClassKey, "kong")], annotations_nodup := by decide }

/-- The service `web` of namespace `default`, with port 80, as a user creates it. -/
def webService : Service := ⟨"default", "web", 0, none, [], [⟨80⟩]⟩

/-- A user creates `web` and its ingress, and the workers sync both keys until the queues are
empty. -/
def webCreated : List Action :=
  [.user (.createService webService), .user (.createIngress kongWebIngress),
    .workService "default/web", .workIngress "default/web", .workService "default/web"]

/-- The controller once `webCreated` has run. -/
def webSynced : Controller :=
  (Controller.run KongController.standard webCreated
    (Controller.start World.empty.identityProvider)).getD (Controller.start World.empty.identityProvider)

theorem quiescent_serves_web :
    (∀ a ∈ webCreated, a.deletesService = false) ∧
      Controller.run KongController.standard webCreated (Controller.start World.empty.identityProvider) =
        some webSynced ∧
      webSynced.Quiescent ∧
      ∀ ing ∈ webSynced.world.cluster.ingresses, isKongIngress ing = true →
        ∀ path ∈ ingressPaths ing, KongController.standard.apiName path.1.host ing.ns path.2.path ∈
          webSynced.world.gateway.apiNames :=
  have noServiceDeleted : ∀ a ∈ webCreated, a.deletesService = false := by decide
  have reached : Controller.run KongController.standard webCreated
      (Controller.start World.empty.identityProvider) = some webSynced := rfl
  have quiet : webSynced.Quiescent := by decide
  ⟨noServiceDeleted, reached, quiet, KongController.standard.quiescent_serves_every_path _ webCreated
    noServiceDeleted reached quiet⟩

/-- `webCreated`, then the user deletes the ingress and a worker syncs its key. -/
def ingressDeleted : List Action :=
  webCreated ++ [.user (.deleteIngress "default" "web"), .workIngress "default/web"]

/-- `webCreated`, then the user deletes the service, the workers collect it, and the user
creates it again. -/
def serviceRecreated : List Action :=
  webCreated ++ [.user (.deleteService "default" "web"), .workService "default/web",
    .workService "default/web", .user (.createService webService), .workService "default/web"]

/-- **Two quiescent states that serve the wrong names**: the API of a deleted ingress stays, and
the API of a path whose service was deleted and created again is missing. -/
theorem quiescent_gateway_diverges :
    (∃ c ∈ Controller.run KongController.standard ingressDeleted
        (Controller.start World.empty.identityProvider),
      c.Quiescent ∧ c.world.gateway.apiNames = [KongController.standard.apiName "example.com" "default" "/"] ∧
        servedApiNames KongController.standard c.world.cluster = []) ∧
    (∃ c ∈ Controller.run KongController.standard serviceRecreated
        (Controller.start World.empty.identityProvider),
      c.Quiescent ∧ c.world.gateway.apiNames = [] ∧
        servedApiNames KongController.standard c.world.cluster =
          [KongController.standard.apiName "example.com" "default" "/"]) := by
  decide

end KongIngress
