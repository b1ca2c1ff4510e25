/-
**What a sync leaves, whatever it returns.**

`Run.Sync` says what a sync that returns nil leaves. The controller's workers go on after syncs
that fail or dereference nil, so this module says what every run of a sync can leave:

* `KeptByPathWrites.syncIngress` — a property of the gateway that each write of a path's iteration
  keeps (the API's write, the plugins `ConfigurePluginsForAPI` creates, the certificates posted,
  the consumer and its credential) holds after every run of `syncIngress`.
* `syncServices_keeps` — a property of the gateway that deleting an API keeps holds after every
  run of `syncServices`.
* `run_views`, `run_versions`, `run_live` — what every run of every program keeps of the
  orchestrator, call by call (`answer_views`, `answer_versions`, `answer_live`): what the
  controller reads of each ingress (`Ingress.view`), resource versions no later than the
  orchestrator's revision, and that no service is being deleted. Only a user stamps a service for
  deletion.
-/

import KongIngress.Run.Sync

namespace KongIngress

/-! ### What the calls keep of the orchestrator -/

/-- What the controller reads of an ingress, outside the dirty mark and the resource version: its
namespace, name and spec, and whether it is of the kong class. -/
def Ingress.view (ing : Ingress) : String × String × IngressSpec × Bool :=
  (ing.ns, ing.name, ing.spec, isKongIngress ing)

theorem Ingress.view_eq_iff {ing ing' : Ingress} : ing.view = ing'.view ↔
    ing.ns = ing'.ns ∧ ing.name = ing'.name ∧ ing.spec = ing'.spec ∧ isKongIngress ing = isKongIngress ing' := by
  simp [Ingress.view]

theorem Cluster.SameButDirty.view {ing ing' : Ingress} (same : Cluster.SameButDirty ing ing') :
    ing'.view = ing.view := by
  have classKept : ing'.annotation ingressClassKey = ing.annotation ingressClassKey :=
    same.annotation (by decide)
  simp only [Ingress.view, isKongIngress, classKept, same.1, same.2.1, same.2.2.1]

namespace Cluster

variable (cluster : Cluster)

theorem views_patchIngressDirty (ns name : String) :
    (cluster.patchIngressDirty ns name).2.ingresses.map Ingress.view =
      cluster.ingresses.map Ingress.view := by
  unfold patchIngressDirty
  split
  · rfl
  · rename_i ing _
    split_ifs
    · rfl
    · simp only [putIngress, List.map_map]
      refine List.map_congr_left fun other _ => ?_
      simp only [Function.comp_apply]
      split_ifs with same
      · rw [same]
        exact SameButDirty.view ⟨rfl, rfl, rfl, filter_setAnnotationEntry _ _ _⟩
      · rfl

/-- Every ingress's resource version is no later than the orchestrator's revision. -/
def VersionsBounded : Prop := ∀ ing ∈ cluster.ingresses, ing.resourceVersion ≤ cluster.revision

/-- No service is being deleted. -/
def Live : Prop := ∀ svc ∈ cluster.services, svc.deletionTimestamp = none

variable {cluster}

theorem VersionsBounded.putService (bounded : cluster.VersionsBounded) (old new : Service) :
    (cluster.putService old new).VersionsBounded :=
  fun ing member => Nat.le_succ_of_le (bounded ing member)

theorem VersionsBounded.putIngress (bounded : cluster.VersionsBounded) (old new : Ingress) :
    (cluster.putIngress old new).VersionsBounded := by
  intro ing member
  simp only [Cluster.putIngress, List.mem_map] at member
  obtain ⟨previous, mem, rfl⟩ := member
  split_ifs
  · exact le_refl _
  · exact Nat.le_succ_of_le (bounded previous mem)

theorem Live.putService (live : cluster.Live) {old : Service} (new : Service)
    (kept : new.deletionTimestamp = old.deletionTimestamp) : (cluster.putService old new).Live := by
  intro svc member
  simp only [Cluster.putService, List.mem_map] at member
  obtain ⟨previous, mem, rfl⟩ := member
  split_ifs with same
  · exact kept.trans (same ▸ live previous mem)
  · exact live previous mem

theorem Live.removeService (live : cluster.Live) (old : Service) : (cluster.removeService old).Live :=
  fun svc member => live svc (List.mem_filter.mp member).1

/-! ### Changes not yet delivered -/

/-- The orchestrator with changes in front of those it has not delivered yet. -/
def prependWatch (events : List WatchEvent) : Cluster :=
  { cluster with watch := events ++ cluster.watch }

variable (events : List WatchEvent) (ns name : String)

theorem putService_prependWatch (old new : Service) :
    (cluster.prependWatch events).putService old new = (cluster.putService old new).prependWatch events := by
  simp [putService, prependWatch]

theorem removeService_prependWatch (old : Service) :
    (cluster.prependWatch events).removeService old = (cluster.removeService old).prependWatch events := by
  simp [removeService, prependWatch]

theorem putIngress_prependWatch (old new : Ingress) :
    (cluster.prependWatch events).putIngress old new = (cluster.putIngress old new).prependWatch events := by
  simp [putIngress, prependWatch]

theorem patchServiceFinalizer_prependWatch (finalizer : String) :
    (cluster.prependWatch events).patchServiceFinalizer ns name finalizer =
      ((cluster.patchServiceFinalizer ns name finalizer).1,
        (cluster.patchServiceFinalizer ns name finalizer).2.prependWatch events) := by
  unfold patchServiceFinalizer
  rw [show (cluster.prependWatch events).findService ns name = cluster.findService ns name from rfl]
  split <;> (try split_ifs) <;> simp only [putService_prependWatch]

theorem clearServiceFinalizers_prependWatch :
    (cluster.prependWatch events).clearServiceFinalizers ns name =
      ((cluster.clearServiceFinalizers ns name).1,
        (cluster.clearServiceFinalizers ns name).2.prependWatch events) := by
  unfold clearServiceFinalizers
  rw [show (cluster.prependWatch events).findService ns name = cluster.findService ns name from rfl]
  split <;> (try split_ifs) <;> simp only [putService_prependWatch, removeService_prependWatch]

theorem patchIngressDirty_prependWatch :
    (cluster.prependWatch events).patchIngressDirty ns name =
      ((cluster.patchIngressDirty ns name).1, (cluster.patchIngressDirty ns name).2.prependWatch events) := by
  unfold patchIngressDirty
  rw [show (cluster.prependWatch events).findIngress ns name = cluster.findIngress ns name from rfl]
  split <;> (try split_ifs) <;> simp only [putIngress_prependWatch]

end Cluster

namespace World

variable (c : Call) (world : World)

/-- **No call changes what the controller reads of the ingresses**: the dirty patch changes only
the mark and the resource version. -/
theorem answer_views :
    (answer c world).2.cluster.ingresses.map Ingress.view =
      world.cluster.ingresses.map Ingress.view := by
  cases c with
  | patchServiceFinalizer ns name finalizer =>
    simp [Cluster.patchServiceFinalizer_ingresses]
  | clearServiceFinalizers ns name =>
    simp only [answer_clearServiceFinalizers, Cluster.clearServiceFinalizers]
    split
    · rfl
    · split_ifs <;> rfl
  | patchIngressDirty ns name => exact world.cluster.views_patchIngressDirty ns name
  | _ => rfl

theorem answer_versions (bounded : world.cluster.VersionsBounded) :
    (answer c world).2.cluster.VersionsBounded := by
  cases c with
  | patchServiceFinalizer ns name finalizer =>
    simp only [answer_patchServiceFinalizer, Cluster.patchServiceFinalizer]
    split <;> (try split_ifs) <;> first | exact bounded | exact bounded.putService _ _
  | clearServiceFinalizers ns name =>
    simp only [answer_clearServiceFinalizers, Cluster.clearServiceFinalizers]
    split <;> (try split_ifs) <;> first | exact bounded | exact bounded.putService _ _
  | patchIngressDirty ns name =>
    simp only [answer_patchIngressDirty, Cluster.patchIngressDirty]
    split <;> (try split_ifs) <;> first | exact bounded | exact bounded.putIngress _ _
  | _ => exact bounded

/-- **No call stamps a service for deletion.** -/
theorem answer_live (live : world.cluster.Live) : (answer c world).2.cluster.Live := by
  cases c with
  | patchServiceFinalizer ns name finalizer =>
    simp only [answer_patchServiceFinalizer, Cluster.patchServiceFinalizer]
    split <;> (try split_ifs) <;> first | exact live | exact live.putService _ rfl
  | clearServiceFinalizers ns name =>
    simp only [answer_clearServiceFinalizers, Cluster.clearServiceFinalizers]
    split <;> (try split_ifs) <;>
      first | exact live | exact live.removeService _ | exact live.putService _ rfl
  | patchIngressDirty ns name => simpa [Cluster.Live] using live
  | _ => exact live

/-- **No call takes the dirty mark away**: only the dirty patch writes an ingress. -/
theorem answer_markedDirty {key : String} {ing : Ingress} (marked : world.cluster.MarkedDirty key ing) :
    (answer c world).2.cluster.MarkedDirty key ing := by
  cases c with
  | patchServiceFinalizer ns name finalizer =>
    simp only [answer_patchServiceFinalizer, Cluster.patchServiceFinalizer]
    split <;> (try split_ifs) <;> exact marked
  | clearServiceFinalizers ns name =>
    simp only [answer_clearServiceFinalizers, Cluster.clearServiceFinalizers]
    split <;> (try split_ifs) <;> exact marked
  | patchIngressDirty ns name => exact marked.patchIngressDirty ns name
  | _ => exact marked

/-- The world with changes in front of those it has not delivered yet. -/
def prependWatch (events : List WatchEvent) (world : World) : World :=
  { world with cluster := world.cluster.prependWatch events }

/-- **Answers do not read the changes not yet delivered**: a call answered with more of them
returns the same and leaves the same, with the same changes in front. -/
theorem answer_prependWatch (events : List WatchEvent) :
    answer c (world.prependWatch events) = ((answer c world).1, (answer c world).2.prependWatch events) := by
  cases c <;>
    simp only [answer, prependWatch, Cluster.patchServiceFinalizer_prependWatch,
      Cluster.clearServiceFinalizers_prependWatch, Cluster.patchIngressDirty_prependWatch] <;> rfl

/-- **Nor do whole runs.** -/
theorem run_prependWatch {α : Type} (events : List WatchEvent) :
    ∀ (x : Prog α) (world : World),
      x.run answer (world.prependWatch events) = ((x.run answer world).1, (x.run answer world).2.prependWatch events)
  | .pure _, _ => rfl
  | .fail _, _ => rfl
  | .nilDereference, _ => rfl
  | .call request next, world => by
    rw [Prog.run_call, Prog.run_call, answer_prependWatch]
    exact run_prependWatch events (next _) _

theorem trace_length_prependWatch {α : Type} (events : List WatchEvent) :
    ∀ (x : Prog α) (world : World),
      (x.trace answer (world.prependWatch events)).length = (x.trace answer world).length
  | .pure _, _ => rfl
  | .fail _, _ => rfl
  | .nilDereference, _ => rfl
  | .call request next, world => by
    rw [Prog.trace_call, Prog.trace_call, answer_prependWatch, List.length_cons, List.length_cons,
      trace_length_prependWatch events (next _) _]

/-- A world is its delivered part with its undelivered changes in front. -/
theorem prependWatch_watch :
    ({ world with cluster := { world.cluster with watch := [] } } : World).prependWatch world.cluster.watch =
      world := by
  simp [prependWatch, Cluster.prependWatch]

/-- A run issues as many calls once the changes before it are delivered. -/
theorem trace_length_flush {α : Type} (x : Prog α) :
    (x.trace answer { world with cluster := { world.cluster with watch := [] } }).length =
      (x.trace answer world).length := by
  conv_rhs => rw [← prependWatch_watch world]
  exact (trace_length_prependWatch _ x _).symm

variable {α : Type} (x : Prog α)

/-- What the controller reads of the ingresses, after a whole run. -/
theorem run_views : (x.run answer world).2.cluster.ingresses.map Ingress.view =
    world.cluster.ingresses.map Ingress.view :=
  Prog.run_keeps answer (fun later => later.cluster.ingresses.map Ingress.view =
    world.cluster.ingresses.map Ingress.view) (fun c _ same => (answer_views c _).trans same) x rfl

theorem run_versions (bounded : world.cluster.VersionsBounded) :
    (x.run answer world).2.cluster.VersionsBounded :=
  Prog.run_keeps answer (fun later => later.cluster.VersionsBounded)
    (fun c later held => answer_versions c later held) x bounded

theorem run_live (live : world.cluster.Live) : (x.run answer world).2.cluster.Live :=
  Prog.run_keeps answer (fun later => later.cluster.Live) (fun c later held => answer_live c later held)
    x live

theorem run_markedDirty {key : String} {ing : Ingress} (marked : world.cluster.MarkedDirty key ing) :
    (x.run answer world).2.cluster.MarkedDirty key ing :=
  Prog.run_keeps answer (fun later => later.cluster.MarkedDirty key ing)
    (fun c later held => answer_markedDirty c later held) x marked

end World

namespace Gateway

/-- Delete, by name, each API of a list, in order. -/
def deleteAll (gateway : Gateway) (apis : List Api) : Gateway :=
  apis.foldl (fun gateway api => gateway.deleteApi api.name) gateway

theorem sublist_deleteAll : ∀ (apis : List Api) (gateway : Gateway),
    (gateway.deleteAll apis).apis.Sublist gateway.apis
  | [], _ => List.Sublist.refl _
  | api :: rest, gateway => (sublist_deleteAll rest (gateway.deleteApi api.name)).trans (List.eraseP_sublist _)

/-- With distinct names, deleting by name erases exactly the API of that name. -/
theorem eraseP_name_eq_filter : ∀ {apis : List Api}, (apis.map Api.name).Nodup → ∀ name : String,
    apis.eraseP (·.name == name) = apis.filter (·.name != name)
  | [], _, _ => rfl
  | api :: rest, distinct, name => by
    obtain ⟨fresh, distinct⟩ := List.nodup_cons.mp distinct
    by_cases same : api.name = name
    · subst same
      rw [List.eraseP_cons_of_pos (by simp), List.filter_cons_of_neg (by simp), eq_comm, List.filter_eq_self]
      exact fun other member => bne_iff_ne.mpr fun named => fresh (named ▸ List.mem_map_of_mem Api.name member)
    · rw [List.eraseP_cons_of_neg (by simpa using same), List.filter_cons_of_pos (by simpa using same),
        eraseP_name_eq_filter distinct name]

/-- **With distinct names, deleting a list of APIs by name** leaves exactly the APIs whose name
none of them has. -/
theorem apis_deleteAll : ∀ (deleted : List Api) {gateway : Gateway}, gateway.apiNames.Nodup →
    (gateway.deleteAll deleted).apis = gateway.apis.filter fun api => deleted.all (·.name != api.name)
  | [], gateway, _ => by simp [deleteAll]
  | first :: rest, gateway, distinct => by
    have remaining : (gateway.deleteApi first.name).apis = gateway.apis.filter (·.name != first.name) :=
      eraseP_name_eq_filter distinct first.name
    have stillDistinct : (gateway.deleteApi first.name).apiNames.Nodup :=
      ((List.eraseP_sublist _).map Api.name).nodup distinct
    show (deleteAll (gateway.deleteApi first.name) rest).apis = _
    rw [apis_deleteAll rest stillDistinct, remaining, List.filter_filter]
    refine List.filter_congr fun api _ => ?_
    rw [Bool.and_comm, List.all_cons, show (api.name != first.name) = (first.name != api.name) from
      Bool.eq_iff_iff.mpr (by simp only [bne_iff_ne]; exact ⟨Ne.symm, Ne.symm⟩)]

/-- With distinct names, deleting the APIs listed under an upstream leaves exactly the APIs under
every other upstream. -/
theorem apis_deleteAll_listApis {gateway : Gateway} (distinct : gateway.apiNames.Nodup) (upstreamURL : String) :
    (gateway.deleteAll (gateway.listApis upstreamURL)).apis =
      gateway.apis.filter (·.upstreamURL != upstreamURL) := by
  rw [apis_deleteAll _ distinct]
  refine List.filter_congr fun api member => ?_
  have spared : (∀ other ∈ gateway.apis, other.upstreamURL = upstreamURL → other.name ≠ api.name) ↔
      api.upstreamURL ≠ upstreamURL :=
    ⟨fun spared under => spared api member under rfl, fun differ other present under named =>
      differ (List.inj_on_of_nodup_map distinct present member named ▸ under)⟩
  rw [Bool.eq_iff_iff]
  simpa only [listApis, List.all_eq_true, List.mem_filter, beq_iff_eq, bne_iff_ne, ne_eq, and_imp] using spared

/-- An API whose name none of the deleted ones has stays. -/
theorem mem_deleteAll {api : Api} : ∀ (apis : List Api) {gateway : Gateway}, api ∈ gateway.apis →
    (∀ deleted ∈ apis, deleted.name ≠ api.name) → api ∈ (gateway.deleteAll apis).apis
  | [], _, member, _ => member
  | deleted :: rest, _, member, differ =>
    mem_deleteAll rest
      ((List.mem_eraseP_of_neg (by simpa using (differ deleted (List.mem_cons_self _ _)).symm)).mpr member)
      fun other later => differ other (List.mem_cons_of_mem _ later)

end Gateway

namespace KongController

variable (k : KongController)

/-! ### What a path's writes keep of the gateway -/

/-- A property of the gateway that each write of a path's iteration keeps: the API's write, the
plugins `ConfigurePluginsForAPI` creates, the certificates posted, the consumer and its
credential. -/
structure KeptByPathWrites (P : Gateway → Prop) : Prop where
  writeApi : ∀ gateway body, P gateway → P (gateway.writeApi body)
  attachPlugins : ∀ gateway uid ing,
    P gateway → P (gateway.attachPlugins uid (k.pluginsCreated gateway uid ing))
  postCertificates : ∀ (gateway : Gateway) certificates, P gateway → P (gateway.postCertificates certificates)
  withAuth0 : ∀ (gateway : Gateway) host key, P gateway → P (gateway.withAuth0 host key)

variable {k} {P : Gateway → Prop}

theorem KeptByPathWrites.configureApi (kept : k.KeptByPathWrites P) (world : World) (ing : Ingress) (api : Api)
    (holds : P world.gateway) : P ((k.configureApi ing (some api)).run World.answer world).2.gateway := by
  have attached := kept.attachPlugins world.gateway api.uid ing holds
  simp only [KongController.configureApi, Prog.bind_eq, Prog.run_bind, run_configurePluginsForAPI]
  cases (k.decodePlugins ing ing.annotations).2 with
  | some err => exact attached
  | none =>
    simp only [Option.elim_none, run_tryConfigureCertificates]
    cases (certificatesFor world.cluster ing).2 with
    | some err => exact kept.postCertificates _ _ attached
    | none =>
      simp only [Option.elim_none, run_tryAutoConfigureAuth0, postCertificates]
      exact kept.withAuth0 _ _ _ (kept.postCertificates _ _ attached)

theorem KeptByPathWrites.syncPath (kept : k.KeptByPathWrites P) (world : World) (ing : Ingress) (r : IngressRule)
    (p : HTTPIngressPath) (holds : P world.gateway) :
    P ((k.syncPath ing r p).run World.answer world).2.gateway := by
  simp only [KongController.syncPath, Prog.bind_eq, Prog.send_bind, Prog.run_call,
    World.answer_listServices]
  split_ifs
  · exact holds
  · simp only [Prog.run_call, World.answer_patchServiceFinalizer]
    cases (world.cluster.patchServiceFinalizer ing.ns p.backend.serviceName k.finalizer).1 with
    | some err => exact holds
    | none =>
      have fresh : (k.apiBody ing r p).uid = 0 := rfl
      have written := kept.writeApi _ (k.apiBody ing r p) holds
      cases found : world.gateway.getApi (k.apiBody ing r p).name <;>
        simp only [Prog.run_call, World.answer_getApi, found, Option.elim_none, Option.elim_some,
          ne_eq, not_true_eq_false, if_false] <;>
        rw [run_upsertApi k { world with cluster := (world.cluster.patchServiceFinalizer ing.ns
          p.backend.serviceName k.finalizer).2 } ing _ fresh found] <;>
        exact kept.configureApi _ ing _ written

/-- **What each write of a path keeps, every run of `syncIngress` keeps**, whatever it
returns. -/
theorem KeptByPathWrites.syncIngress (kept : k.KeptByPathWrites P) (world : World) (key : String) (numRequeues : Nat)
    (holds : P world.gateway) : P ((k.syncIngress key numRequeues).run World.answer world).2.gateway := by
  rw [run_syncIngress]
  cases world.cluster.getIngress key with
  | none => exact holds
  | some ing =>
    refine Prog.run_forEach_keeps World.answer (fun world => P world.gateway)
      (fun path world => kept.syncPath world ing path.1 path.2) _ ?_
    simpa only [markedDirty_gateway] using holds

/-! ### What `syncServices` keeps of the gateway -/

theorem run_deleteListedApis (world : World) (apis : List Api) :
    (Prog.forEach apis deleteListedApi).run World.answer world =
      (.ok (), { world with gateway := world.gateway.deleteAll apis }) := by
  induction apis generalizing world with
  | nil => rfl
  | cons api rest ih =>
    simp only [Prog.forEach_cons, deleteListedApi, Prog.bind_eq, Prog.send_bind, Prog.run_bind,
      Prog.run_call, World.answer_deleteApi]
    exact ih _


theorem deleteAll_keeps (delete : ∀ gateway name, P gateway → P (gateway.deleteApi name)) :
    ∀ (apis : List Api) {gateway : Gateway}, P gateway → P (gateway.deleteAll apis)
  | [], _, holds => holds
  | api :: rest, _, holds => deleteAll_keeps delete rest (delete _ api.name holds)

/-- A port's clean-up leaves the gateway with the APIs listed under the port's upstream deleted,
whether the finalizer patch succeeds or not. -/
theorem run_cleanPort_gateway (world : World) (svc : Service) (port : ServicePort) :
    ((k.cleanPort svc port).run World.answer world).2.gateway =
      world.gateway.deleteAll (world.gateway.listApis (k.getUpstream (protoFor port.port) svc.ns svc.name port.port)) := by
  simp only [cleanPort, Prog.bind_eq, Prog.send_bind, Prog.run_call, World.answer_listApis,
    Prog.run_bind, run_deleteListedApis, World.answer_clearServiceFinalizers]
  split <;> rfl

/-- A port's clean-up, whole: the APIs listed under the port's upstream deleted, then the
finalizer patch, whose error the run returns. -/
theorem run_cleanPort (world : World) (svc : Service) (port : ServicePort) :
    (k.cleanPort svc port).run World.answer world =
      ((match (world.cluster.clearServiceFinalizers svc.ns svc.name).1 with
        | some err => .error ("gc=true, failed patch service [" ++ err ++ "]")
        | none => .ok ()),
        { world with
          gateway := world.gateway.deleteAll
            (world.gateway.listApis (k.getUpstream (protoFor port.port) svc.ns svc.name port.port))
          cluster := (world.cluster.clearServiceFinalizers svc.ns svc.name).2 }) := by
  simp only [cleanPort, Prog.bind_eq, Prog.send_bind, Prog.run_call, World.answer_listApis,
    Prog.run_bind, run_deleteListedApis, World.answer_clearServiceFinalizers]
  split <;> rename_i cleared <;> rw [cleared] <;> rfl

/-- **What deleting an API keeps, every run of `syncServices` keeps**, whatever it returns. -/
theorem syncServices_keeps (delete : ∀ gateway name, P gateway → P (gateway.deleteApi name))
    (world : World) (key : String) (numRequeues : Nat) (holds : P world.gateway) :
    P ((k.syncServices key numRequeues).run World.answer world).2.gateway := by
  simp only [syncServices, Prog.bind_eq, Prog.send_bind, Prog.run_call, World.answer_getService]
  cases world.cluster.getService key with
  | none => exact holds
  | some svc =>
    dsimp only
    split_ifs
    · exact holds
    · refine Prog.run_forEach_keeps World.answer (fun world => P world.gateway) (fun port world held => ?_)
        _ holds
      show P _
      rw [run_cleanPort_gateway]
      exact deleteAll_keeps delete _ held

end KongController

end KongIngress
