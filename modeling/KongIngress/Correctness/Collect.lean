/-
**Garbage collection of a deleted service's APIs.**

`syncServices` walks the ports of a service being deleted; for each it lists the APIs under the
port's upstream, deletes them by name, and then clears the service's finalizers. The clearing
patch sits inside the port loop:

* `syncServices_clears_after_first_port` — the first clearing patch goes out right after the
  first port's APIs are deleted, before any later port is looked at; an API under a later port's
  upstream still exists when the orchestrator is told it may remove the service
  (`syncServices_clears_with_https_api_left`).
* `syncServices_without_ports` — a service without ports is never patched, and the run returns
  nil.
* `syncServices_misses_named_port` — an API registered for a backend port the service does not
  list (a named port has `IntVal` 0) is under no upstream the collection lists, and outlives
  its service.
* `collection_spares_other_upstreams` — one upstream is one namespace, service and port
  (`getUpstream_inj`), so against the spec's gateway, whose names identify APIs, the collection
  of a service deletes no API whose upstream was built for another service or for a port the
  service does not list. The APIs are listed by upstream but deleted by name; against the store
  that accepts every create this needs distinct names (`syncServices_spares`), and a collection
  interleaved with a sync that repoints the listed API can delete another service's API
  (`Correctness.Concurrency`).
* `syncServices_collects_two_ports` — the whole effect: the first port's patch removes the
  service, the second port's patch no longer finds it and ends the run with an error, so only the
  APIs of the first two ports are deleted, and the run returns nil exactly when the service has
  at most one port.
-/

import KongIngress.Correctness.Established

namespace KongIngress

namespace KongController

variable (k : KongController)

/-- The upstream `syncServices` lists for a port of a service. -/
def portUpstream (svc : Service) (port : ServicePort) : String :=
  k.getUpstream (protoFor port.port) svc.ns svc.name port.port

/-! ### The clearing patch -/

/-- In the store, a port's clean-up issues the clearing patch once the APIs listed under the
port's upstream are deleted. -/
theorem clear_mem_trace_cleanPort (world : World) (svc : Service) (port : ServicePort) :
    (Call.clearServiceFinalizers svc.ns svc.name,
      { world with gateway := world.gateway.deleteAll (world.gateway.listApis (k.portUpstream svc port)) }) ∈
      (k.cleanPort svc port).trace World.answer world := by
  simp only [cleanPort, Prog.bind_eq, Prog.send_bind, Prog.trace_call, World.answer_listApis]
  refine List.mem_cons_of_mem _ ?_
  rw [Prog.trace_bind, run_deleteListedApis]
  exact List.mem_append_right _ (List.mem_cons_self _ _)

/-- **The first clearing patch goes out right after the first port's APIs are deleted**, with
the APIs of every later port still in the gateway. -/
theorem syncServices_clears_after_first_port (world : World) (key : String) (numRequeues : Nat)
    {svc : Service} (found : world.cluster.getService key = some svc)
    (deleting : svc.deletionTimestamp.isSome) {first : ServicePort} {later : List ServicePort}
    (ports : svc.ports = first :: later) :
    (Call.clearServiceFinalizers svc.ns svc.name,
      { world with gateway := world.gateway.deleteAll (world.gateway.listApis (k.portUpstream svc first)) }) ∈
      (k.syncServices key numRequeues).trace World.answer world := by
  simp only [syncServices, Prog.bind_eq, Prog.send_bind, Prog.trace_call, World.answer_getService,
    found, deleting, Option.isNone_iff_eq_none, ports]
  refine List.mem_cons_of_mem _ ?_
  simp only [Option.isSome_iff_ne_none.mp deleting, if_false, Prog.forEach_cons, Prog.trace_bind]
  exact List.mem_append_left _ (k.clear_mem_trace_cleanPort world svc first)

/-- **A service without ports is never patched**: its finalizers stay, and the run returns nil. -/
theorem syncServices_without_ports (world : World) (key : String) (numRequeues : Nat)
    {svc : Service} (found : world.cluster.getService key = some svc) (noPorts : svc.ports = []) :
    (k.syncServices key numRequeues).run World.answer world = (.ok (), world) ∧
      (k.syncServices key numRequeues).trace World.answer world = [(.getService key, world)] := by
  simp only [syncServices, Prog.bind_eq, Prog.send_bind, Prog.trace_call, Prog.run_call,
    World.answer_getService, found, noPorts, Prog.forEach_nil]
  split_ifs <;> exact ⟨rfl, rfl⟩

end KongController

/-! #### A service of two ports -/

/-- The service `web` of namespace `default`, with ports 80 and 443, being deleted and holding
the controller's finalizer. -/
def twoPortService : Service := ⟨"default", "web", 2, some 2, ["kolihub.io/kong"], [⟨80⟩, ⟨443⟩]⟩

/-- A gateway with one API under each of `twoPortService`'s upstreams. -/
def twoPortApis : Gateway where
  apis := [⟨1, 1, "example.com~default~1", "http://web.default.cluster.local:80", [], [], true, false⟩,
    ⟨2, 2, "example.com~default~2", "https://web.default.cluster.local:443", [], [], true, false⟩]
  plugins := []
  certificates := []
  consumers := []
  jwtCredentials := []
  nextId := 2
  uid_pos := by decide
  uid_le := by decide
  uid_nodup := by decide

/-- The orchestrator holding `twoPortService`, and `twoPortApis`. -/
def twoPortWorld : World :=
  { World.empty with
    cluster := { Cluster.empty with services := [twoPortService], revision := 2 }
    gateway := twoPortApis }

/-- **The finalizers are cleared while the port-443 API still exists.** -/
theorem syncServices_clears_with_https_api_left :
    ∃ entry ∈ (KongController.standard.syncServices "default/web" 0).trace World.answer twoPortWorld,
      entry.1 = .clearServiceFinalizers "default" "web" ∧
        ∃ api ∈ entry.2.gateway.apis,
          api.upstreamURL = KongController.standard.portUpstream twoPortService ⟨443⟩ := by
  decide

namespace KongController

variable (k : KongController)

/-! ### What the collection spares -/

/-- A port's clean-up, in a gateway without two APIs of one name, keeps every API under another
upstream, and the names distinct. -/
theorem cleanPort_spares (world : World) (svc : Service) (port : ServicePort) {api : Api}
    (member : api ∈ world.gateway.apis) (distinct : world.gateway.apiNames.Nodup)
    (other : api.upstreamURL ≠ k.portUpstream svc port) :
    api ∈ ((k.cleanPort svc port).run World.answer world).2.gateway.apis ∧
      ((k.cleanPort svc port).run World.answer world).2.gateway.apiNames.Nodup := by
  rw [run_cleanPort_gateway]
  refine ⟨Gateway.mem_deleteAll _ member fun listed onList sameName => other ?_,
    ((Gateway.sublist_deleteAll _ _).map Api.name).nodup distinct⟩
  obtain ⟨present, under⟩ := List.mem_filter.mp onList
  obtain rfl : listed = api := List.inj_on_of_nodup_map distinct present member sameName
  exact beq_iff_eq.mp under

/-- **Against the store, the collection of a service spares every API under an upstream of none of
its ports**, in a gateway without two APIs of one name, whatever the run returns. -/
theorem syncServices_spares (world : World) (key : String) (numRequeues : Nat) {svc : Service}
    (found : world.cluster.getService key = some svc) (distinct : world.gateway.apiNames.Nodup)
    {api : Api} (member : api ∈ world.gateway.apis)
    (other : ∀ port ∈ svc.ports, api.upstreamURL ≠ k.portUpstream svc port) :
    api ∈ ((k.syncServices key numRequeues).run World.answer world).2.gateway.apis := by
  simp only [syncServices, Prog.bind_eq, Prog.send_bind, Prog.run_call, World.answer_getService, found]
  split_ifs
  · exact member
  · exact (Prog.run_forEach_keeps_of_mem World.answer
      (fun world => api ∈ world.gateway.apis ∧ world.gateway.apiNames.Nodup) svc.ports
      (fun port onPort world kept => k.cleanPort_spares world svc port kept.1 kept.2 (other port onPort))
      ⟨member, distinct⟩).1

/-- **One upstream, one service port; the collection spares the others.** With `.` in no
namespace and for every cluster DNS suffix, equal upstreams come from one namespace, service name
and port; so, against the spec's gateway, the collection of one service deletes no API whose
upstream was built for another service or for a port the service does not list. -/
theorem collection_spares_other_upstreams :
    (∀ (ns ns' svcName svcName' : String) (port port' : Int), '.' ∉ ns.toList → '.' ∉ ns'.toList →
      k.getUpstream (protoFor port) ns svcName port = k.getUpstream (protoFor port') ns' svcName' port' →
        ns = ns' ∧ svcName = svcName' ∧ port = port') ∧
    ∀ (w : NamedWorld) (key : String) (numRequeues : Nat) (svc : Service),
      w.world.cluster.getService key = some svc → '.' ∉ svc.ns.toList →
      ∀ api ∈ w.world.gateway.apis, ∀ (ns svcName : String) (port : Int), '.' ∉ ns.toList →
        api.upstreamURL = k.getUpstream (protoFor port) ns svcName port →
        (∀ p ∈ svc.ports, (ns, svcName, port) ≠ (svc.ns, svc.name, p.port)) →
        api ∈ ((k.syncServices key numRequeues).run NamedWorld.answer w).2.world.gateway.apis := by
  refine ⟨fun _ _ _ _ _ _ label label' same => getUpstream_inj k label label' same, ?_⟩
  intro w key numRequeues _ found svcLabel api member _ _ _ label built differ
  rw [(NamedWorld.run_of_alike (k.run_syncServices_named w.world key numRequeues)).2]
  exact k.syncServices_spares w.world key numRequeues found w.named member fun p onPort listed => by
    obtain ⟨rfl, rfl, rfl⟩ := getUpstream_inj k label svcLabel (built.symm.trans listed)
    exact differ p onPort rfl

end KongController

/-! #### A backend that names its port -/

/-- `webIngress` with its backend port given by name, whose `IntVal` is 0. -/
def namedPortIngress : Ingress :=
  { webIngress with spec := ⟨[], [⟨"example.com", some ⟨[⟨"/", ⟨"web", ⟨0⟩⟩⟩]⟩⟩]⟩ }

/-- `webWorld` with `namedPortIngress` in place of `webIngress`. -/
def namedPortWorld : World :=
  { webWorld Gateway.empty with
    cluster := { (webWorld Gateway.empty).cluster with ingresses := [namedPortIngress] } }

/-- The world after `namedPortIngress` is synced and the user deletes its service. -/
def namedPortDeleted : World :=
  let synced := ((KongController.standard.syncIngress "default/web" 0).run World.answer
    namedPortWorld).2
  { synced with cluster := synced.cluster.deleteService "default" "web" }

/-- **The API of a named port outlives its service**: the sync registers it under port 0, the
service's deletion lists only port 80's upstream, and the finalizer is cleared with the API
left. -/
theorem syncServices_misses_named_port :
    ((KongController.standard.syncIngress "default/web" 0).run World.answer namedPortWorld).1 =
        .ok () ∧
      ((KongController.standard.syncServices "default/web" 0).run World.answer namedPortDeleted).1 =
        .ok () ∧
      ((KongController.standard.syncServices "default/web" 0).run World.answer
        namedPortDeleted).2.cluster.findService "default" "web" = none ∧
      ((KongController.standard.syncServices "default/web" 0).run World.answer
        namedPortDeleted).2.gateway.apis.map Api.upstreamURL =
        [KongController.standard.getUpstream "http" "default" "web" 0] := by
  decide

/-- `web` as the user's deletion leaves it: being deleted, with the controller's finalizer. -/
def webBeingDeleted : Service := ⟨"default", "web", 3, some 3, ["kolihub.io/kong"], [⟨80⟩]⟩

/-- The API the sync of `namedPortIngress` registers, under port 0 of `web`. -/
def namedPortApi : Api :=
  ⟨1, 1, KongController.standard.apiName "example.com" "default" "/",
    KongController.standard.getUpstream "http" "default" "web" 0, ["example.com"], ["/"], true, false⟩

/-- The world after `namedPortIngress` is synced and its service deleted, as the spec's gateway can
be in it. -/
def namedPortDeletedNamed : NamedWorld := ⟨namedPortDeleted, by decide⟩

theorem namedPortApi_spared :
    namedPortDeleted.cluster.getService "default/web" = some webBeingDeleted ∧
      namedPortApi ∈ namedPortDeleted.gateway.apis ∧
      namedPortApi ∈ ((KongController.standard.syncServices "default/web" 0).run NamedWorld.answer
        namedPortDeletedNamed).2.world.gateway.apis :=
  have found : namedPortDeleted.cluster.getService "default/web" = some webBeingDeleted := by decide
  have member : namedPortApi ∈ namedPortDeleted.gateway.apis := by decide
  ⟨found, member, KongController.standard.collection_spares_other_upstreams.2 namedPortDeletedNamed "default/web" 0
    webBeingDeleted found (by decide) namedPortApi member "default" "web" 0 (by decide) (by decide)
    (by decide)⟩

namespace KongController

variable (k : KongController)

/-! ### What one collection does -/

/-- **The collection of a service reaches two of its ports.** For a service unique to its
namespace and name, being deleted and holding a finalizer, in a gateway without two APIs of one
name: the first port's clean-up clears the finalizers, so the orchestrator removes the service;
the second port's clean-up deletes its APIs and then fails to patch the service it no longer
finds, which ends the run. So the run deletes exactly the APIs under the upstreams of the first
two ports, removes the service when it has a port, and returns nil exactly when it has at most
one. -/
theorem syncServices_collects_two_ports (world : World) (key : String) (numRequeues : Nat)
    {svc : Service} (found : world.cluster.getService key = some svc)
    (unique : (world.cluster.services.map fun svc => (svc.ns, svc.name)).Nodup)
    (deleting : svc.deletionTimestamp.isSome) (held : svc.finalizers ≠ [])
    (distinct : world.gateway.apiNames.Nodup) :
    ((k.syncServices key numRequeues).run World.answer world).1 =
        (if svc.ports.length ≤ 1 then .ok ()
          else .error ("gc=true, failed patch service [" ++ Cluster.notFound "services" svc.name ++ "]")) ∧
      ((k.syncServices key numRequeues).run World.answer world).2.cluster =
        (if svc.ports = [] then world.cluster else world.cluster.removeService svc) ∧
      ((k.syncServices key numRequeues).run World.answer world).2.gateway.apis =
        world.gateway.apis.filter fun api =>
          (svc.ports.take 2).all fun port => api.upstreamURL != k.portUpstream svc port := by
  have member : svc ∈ world.cluster.services := List.mem_of_find?_eq_some found
  have cleared := world.cluster.clearServiceFinalizers_of_deleting
    (world.cluster.findService_of_mem unique member) held deleting
  have gone : (world.cluster.removeService svc).clearServiceFinalizers svc.ns svc.name =
      (some (Cluster.notFound "services" svc.name), world.cluster.removeService svc) := by
    simp only [Cluster.clearServiceFinalizers, world.cluster.findService_removeService unique member]
  simp only [syncServices, Prog.bind_eq, Prog.send_bind, Prog.run_call, World.answer_getService, found,
    Option.isNone_iff_eq_none, Option.isSome_iff_ne_none.mp deleting, if_false]
  rcases ports : svc.ports with _ | ⟨first, _ | ⟨second, rest⟩⟩
  · -- no port: nothing is listed or patched
    simp
  · -- one port: its clean-up removes the service, and the run ends
    simp [Prog.run_bind, run_cleanPort, cleared, portUpstream, Gateway.apis_deleteAll_listApis distinct]
  · -- the second port's clean-up no longer finds the service, which ends the run
    have distinct' := ((Gateway.sublist_deleteAll
      (world.gateway.listApis (k.getUpstream (protoFor first.port) svc.ns svc.name first.port))
      world.gateway).map Api.name).nodup distinct
    simp [Prog.run_bind, run_cleanPort, cleared, gone, portUpstream, Gateway.apis_deleteAll_listApis distinct,
      Gateway.apis_deleteAll_listApis distinct', List.filter_filter, Bool.and_comm]

end KongController

/-! #### A service of three ports -/

/-- `twoPortService` with a third port, 8080. -/
def threePortService : Service := { twoPortService with ports := [⟨80⟩, ⟨443⟩, ⟨8080⟩] }

/-- `twoPortApis` with an API under the upstream of port 8080 as well. -/
def threePortApis : Gateway where
  apis := twoPortApis.apis ++
    [⟨3, 3, "example.com~default~3", "http://web.default.cluster.local:8080", [], [], true, false⟩]
  plugins := []
  certificates := []
  consumers := []
  jwtCredentials := []
  nextId := 3
  uid_pos := by decide
  uid_le := by decide
  uid_nodup := by decide

/-- The orchestrator holding `threePortService`, and `threePortApis`. -/
def threePortWorld : World :=
  { World.empty with
    cluster := { Cluster.empty with services := [threePortService], revision := 2 }
    gateway := threePortApis }

theorem threePortWorld_collects_two_ports :
    (threePortWorld.cluster.getService "default/web" = some threePortService ∧
      (threePortWorld.cluster.services.map fun svc => (svc.ns, svc.name)).Nodup ∧
      threePortService.deletionTimestamp.isSome ∧ threePortService.finalizers ≠ [] ∧
      threePortWorld.gateway.apiNames.Nodup) ∧
    ((KongController.standard.syncServices "default/web" 0).run World.answer threePortWorld).1 =
        (if threePortService.ports.length ≤ 1 then .ok ()
          else .error ("gc=true, failed patch service [" ++ Cluster.notFound "services" threePortService.name ++ "]")) ∧
      ((KongController.standard.syncServices "default/web" 0).run World.answer threePortWorld).2.cluster =
        (if threePortService.ports = [] then threePortWorld.cluster
          else threePortWorld.cluster.removeService threePortService) ∧
      ((KongController.standard.syncServices "default/web" 0).run World.answer threePortWorld).2.gateway.apis =
        threePortWorld.gateway.apis.filter fun api => (threePortService.ports.take 2).all fun port =>
          api.upstreamURL != KongController.standard.portUpstream threePortService port :=
  have found : threePortWorld.cluster.getService "default/web" = some threePortService := by decide
  have unique : (threePortWorld.cluster.services.map fun svc => (svc.ns, svc.name)).Nodup := by decide
  have deleting : threePortService.deletionTimestamp.isSome := rfl
  have held : threePortService.finalizers ≠ [] := by decide
  have distinct : threePortWorld.gateway.apiNames.Nodup := by decide
  ⟨⟨found, unique, deleting, held, distinct⟩, KongController.standard.syncServices_collects_two_ports
    threePortWorld "default/web" 0 found unique deleting held distinct⟩

/-- The API under port 8080 outlives the service. -/
example :
    ((KongController.standard.syncServices "default/web" 0).run World.answer
      threePortWorld).2.gateway.apis.map Api.upstreamURL = ["http://web.default.cluster.local:8080"] := by
  decide

end KongIngress
