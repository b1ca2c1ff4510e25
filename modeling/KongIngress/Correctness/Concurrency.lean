/-
**Workers side by side: what atomic syncs keep and what interleaving breaks.**

`syncIngress` reads before it creates: `Get` before `UpdateOrCreate`, `ListPlugins` before
`CreatePlugin`, `GetConsumer` and `ListJWTCredentials` before creating the consumer and its
credential. `syncServices` lists a service's APIs, deletes them, then clears the finalizers. With
a gateway that enforces no uniqueness:

* `run_keeps_noDuplicates` — when no two syncs interleave (`Controller.run`), every run keeps a
  gateway without duplicates (`Gateway.NoDuplicates`): each read sees every write before it, and
  each path's writes keep the gateway so (`keptByPathWrites_noDuplicates`).
* `interleaved_syncs_duplicate` — two workers on two ingresses that share an API name and an
  identity-provider host, each reading while the other is between its read and its create, leave
  two APIs of one name and two JWT credentials for one consumer.
* `interleaved_sync_outlives_service` — an ingress worker that creates its API between the service
  worker's listing of the service's APIs and its finalizer-clearing patch leaves an API pointing at
  a service the orchestrator has removed.
* `collection_deletes_repointed_api` — the collection of a service lists its APIs by upstream and
  deletes them by name in later calls. An ingress whose path the user repoints to another service
  in between has its API rewritten, under its id and name, with the other service's upstream; the
  collection then deletes it. No two APIs ever share a name in this run, so the spec's gateway,
  which refuses a second API of a name, answers it alike.
* `run_serial` — every run of the atomic controller is a run of the interleaved one in which each
  worker has its sync's calls answered back to back (`Threads.run_alone`): the atomic runs are the
  workers' serial schedules.
-/

import KongIngress.Runtime.Threads
import KongIngress.Correctness.Converge
import KongIngress.Correctness.Dereference

namespace KongIngress

/-! ### Gateways without duplicates -/

namespace Gateway

/-- No two APIs share a name, no API has two plugins of one name, and no consumer has two JWT
credentials. -/
structure NoDuplicates (gateway : Gateway) : Prop where
  names : gateway.apiNames.Nodup
  plugins : ∀ uid, ((gateway.listPlugins uid).map Plugin.name).Nodup
  credentials : ∀ username, gateway.jwtTotal username ≤ 1

theorem noDuplicates_empty : empty.NoDuplicates :=
  ⟨List.nodup_nil, fun _ => List.nodup_nil, fun _ => Nat.zero_le _⟩

variable {gateway : Gateway}

theorem listPlugins_attachPlugins_of_ne (uid : Nat) (plugins : List Plugin) {other : Nat}
    (differ : other ≠ uid) : (gateway.attachPlugins uid plugins).listPlugins other = gateway.listPlugins other := by
  simp [attachPlugins, listPlugins, List.filter_map, Function.comp_def, Ne.symm differ]

theorem NoDuplicates.deleteApi (distinct : gateway.NoDuplicates) (name : String) :
    (gateway.deleteApi name).NoDuplicates where
  names := ((List.eraseP_sublist _).map Api.name).nodup distinct.names
  plugins := distinct.plugins
  credentials := distinct.credentials

theorem jwtTotal_createJWTCredential (host : String) (credential : JwtCredential) (username : String) :
    (gateway.createJWTCredential host credential).jwtTotal username =
      gateway.jwtTotal username + if host = username then 1 else 0 := by
  by_cases same : host = username <;> simp [createJWTCredential, jwtTotal, List.filter_append, same]

/-- A JWT credential is created only for a consumer that has none. -/
theorem NoDuplicates.withJWTCredential (distinct : gateway.NoDuplicates) (host publicKey : String) :
    (gateway.withJWTCredential host publicKey).NoDuplicates := by
  unfold Gateway.withJWTCredential
  split_ifs with none
  · refine ⟨distinct.names, distinct.plugins, fun username => ?_⟩
    rw [jwtTotal_createJWTCredential]
    split_ifs with same
    · subst same
      omega
    · simpa using distinct.credentials username
  · exact distinct

end Gateway

namespace KongController

variable (k : KongController)

/-- **Each write of a path keeps a gateway without duplicates**: the API is written under the name
`Get` looked up, the plugins created are decoded under distinct names and none is attached yet,
and the credential is created only for a consumer without one. -/
theorem keptByPathWrites_noDuplicates : k.KeptByPathWrites Gateway.NoDuplicates where
  writeApi gateway body distinct :=
    ⟨gateway.nodup_apiNames_writeApi distinct.names,
      fun uid => by simpa [Gateway.listPlugins] using distinct.plugins uid,
      fun username => by simpa [Gateway.jwtTotal] using distinct.credentials username⟩
  attachPlugins gateway uid ing distinct := by
    refine ⟨by simpa [Gateway.apiNames] using distinct.names, fun other => ?_,
      fun username => by simpa [Gateway.jwtTotal, Gateway.attachPlugins] using distinct.credentials username⟩
    by_cases same : other = uid
    · subst same
      have decoded := k.decodePlugins_names_nodup ing ing.annotations_nodup
      rw [Gateway.listPlugins_attachPlugins, List.map_append, List.nodup_append]
      refine ⟨distinct.plugins other, ((List.filter_sublist _).map _).nodup decoded, ?_⟩
      intro name attached created
      obtain ⟨plugin, member, rfl⟩ := List.mem_map.mp created
      have fresh := (List.mem_filter.mp member).2
      obtain ⟨present, onApi, sameName⟩ := List.mem_map.mp attached
      simp only [Bool.not_eq_true', List.any_eq_false, beq_iff_eq] at fresh
      exact fresh present onApi sameName
    · rw [Gateway.listPlugins_attachPlugins_of_ne _ _ same]
      exact distinct.plugins other
  postCertificates gateway certificates distinct :=
    ⟨by simpa [Gateway.apiNames] using distinct.names,
      fun uid => by simpa [Gateway.listPlugins] using distinct.plugins uid,
      fun username => by simpa using distinct.credentials username⟩
  withAuth0 gateway host key distinct := by
    unfold Gateway.withAuth0
    split
    · refine Gateway.NoDuplicates.withJWTCredential ⟨?_, fun uid => ?_, fun username => ?_⟩ _ _
      · simpa [Gateway.apiNames] using distinct.names
      · simpa [Gateway.listPlugins] using distinct.plugins uid
      · simpa [Gateway.jwtTotal] using distinct.credentials username
    · exact distinct

end KongController

/-! ### Atomic syncs keep the gateway without duplicates -/

namespace Controller

theorem step_noDuplicates (k : KongController) {c next : Controller} {a : Action}
    (distinct : c.world.gateway.NoDuplicates) (stepped : c.step k a = some next) :
    next.world.gateway.NoDuplicates := by
  obtain ⟨world, stepWorld, cases⟩ := c.step_world k a stepped
  rw [stepWorld]
  rcases cases with ⟨w, -, rfl⟩ | ⟨key, -, rfl⟩ | ⟨key, -, rfl⟩
  · exact distinct
  · exact k.keptByPathWrites_noDuplicates.syncIngress _ _ _ distinct
  · exact KongController.syncServices_keeps (fun _ name kept => kept.deleteApi name) _ _ _ distinct

/-- **When no two syncs interleave, the gateway never gains a duplicate**: from a gateway without
duplicates, every run of users' writes and whole syncs of any keys keeps distinct API names,
distinct plugin names on each API, and at most one JWT credential per consumer. -/
theorem run_keeps_noDuplicates (k : KongController) :
    ∀ (actions : List Action) {c next : Controller}, c.world.gateway.NoDuplicates →
      Controller.run k actions c = some next → next.world.gateway.NoDuplicates :=
  fun actions _ _ => run_keeps k (fun _ => True) (fun c => c.world.gateway.NoDuplicates)
    (fun _ distinct stepped => step_noDuplicates k distinct stepped) actions fun _ _ => trivial

end Controller

/-! ### Two ingresses of one API name and one identity provider -/

/-- An ingress of namespace `default` routing `example.com/` to port 80 of `web`, of the kong
class, whose JWT consumer is `tenant.example.com`. -/
def tenantIngress (name : String) : Ingress :=
  { kongWebIngress with
    name := name
    annotations := [(ingressClassKey, "kong"), ( jwtAuth0DomainAnnotation, "tenant.example.com")]
    annotations_nodup := by decide }

/-- A user creates `web` and the ingresses `a` and `b`, and a worker syncs `a`, then `b`. -/
def tenantsSynced : List Action :=
  [.user (.createService webService), .user (.createIngress (tenantIngress "a")),
    .user (.createIngress (tenantIngress "b")), .workIngress "default/a", .workIngress "default/b"]

/-- The controller once `tenantsSynced` has run, with an identity provider serving a PEM
document. -/
def tenantsSerial : Controller :=
  (Controller.run KongController.standard tenantsSynced (Controller.start fun _ => .ok pemDocument)).getD
    (Controller.start fun _ => .ok pemDocument)

set_option maxRecDepth 2000 in
theorem tenantsSerial_noDuplicates :
    (Controller.start fun _ => .ok pemDocument).world.gateway.NoDuplicates ∧
      Controller.run KongController.standard tenantsSynced (Controller.start fun _ => .ok pemDocument) =
        some tenantsSerial ∧
      tenantsSerial.world.gateway.NoDuplicates :=
  have reached : Controller.run KongController.standard tenantsSynced
      (Controller.start fun _ => .ok pemDocument) = some tenantsSerial := rfl
  ⟨Gateway.noDuplicates_empty, reached, Controller.run_keeps_noDuplicates KongController.standard
    tenantsSynced Gateway.noDuplicates_empty reached⟩

/-- The same, with the two syncs interleaved: `a` reads up to `Get`, `b` reads up to `Get`, `a`
creates its API and reads up to `ListJWTCredentials`, `b` creates its API and reads up to
`ListJWTCredentials`, then each creates its credential. -/
def tenantsInterleaved : List Move :=
  [.user (.createService webService), .user (.createIngress (tenantIngress "a")),
    .user (.createIngress (tenantIngress "b")), .take .ingress "default/a"] ++
    Move.calls .ingress "default/a" 4 ++ [.take .ingress "default/b"] ++ Move.calls .ingress "default/b" 4 ++
    Move.calls .ingress "default/a" 5 ++ Move.calls .ingress "default/b" 4 ++
    Move.calls .ingress "default/a" 1 ++ Move.calls .ingress "default/b" 1

set_option maxRecDepth 2000 in
/-- **Interleaved syncs duplicate**: two APIs of one name and two JWT credentials for one
consumer. -/
theorem interleaved_syncs_duplicate :
    ∃ t ∈ Threads.run KongController.standard tenantsInterleaved (Threads.start fun _ => .ok pemDocument),
      t.running.isEmpty ∧
        t.controller.world.gateway.apiNames =
          [KongController.standard.apiName "example.com" "default" "/",
            KongController.standard.apiName "example.com" "default" "/"] ∧
        t.controller.world.gateway.jwtTotal "tenant.example.com" = 2 := by
  decide

/-! ### An API created while its service is collected -/

/-- A user creates `web` and its ingress; the ingress worker reads up to `Get`; the user deletes
the service; the service worker lists its APIs (none yet); the ingress worker creates its API; the
service worker clears the finalizers. -/
def collectedWhileSynced : List Move :=
  [.user (.createService webService), .user (.createIngress kongWebIngress), .take .ingress "default/web"] ++
    Move.calls .ingress "default/web" 4 ++
    [.user (.deleteService "default" "web"), .take .service "default/web"] ++
    Move.calls .service "default/web" 2 ++ Move.calls .ingress "default/web" 1 ++
    Move.calls .service "default/web" 1

/-- **An API outlives its service**: once every sync has ended, the orchestrator has removed
`web`, and the gateway holds an API whose upstream is `web`'s port 80. -/
theorem interleaved_sync_outlives_service :
    ∃ t ∈ Threads.run KongController.standard collectedWhileSynced
        (Threads.start World.empty.identityProvider),
      t.running.isEmpty ∧ t.controller.world.cluster.findService "default" "web" = none ∧
        t.controller.world.gateway.apis.map Api.upstreamURL =
          [KongController.standard.getUpstream "http" "default" "web" 80] := by
  decide

/-! ### A collection that deletes another service's API -/

/-- The service `api` of namespace `default`, with port 80. -/
def apiService : Service := ⟨"default", "api", 0, none, [], [⟨80⟩]⟩

/-- An ingress `b` of the kong class routing `example.com/` to port 80 of `api`. -/
def apiIngress : Ingress :=
  { kongWebIngress with name := "b", spec := ⟨[], [⟨"example.com", some ⟨[⟨"/", ⟨"api", ⟨80⟩⟩⟩]⟩⟩]⟩ }

/-- `apiIngress` repointed: the user routes its path to port 80 of `web`. -/
def repointedIngress : Ingress := { apiIngress with spec := kongWebIngress.spec }

/-- A user creates `web`, `api` and `apiIngress`, whose sync creates the API of its path under
`api`'s upstream. The user deletes `api`; its collection reads the service and lists that API. The
user repoints `b` to `web`, and `b`'s sync runs whole: it finds the API by name and writes it under
its id with `web`'s upstream. -/
def repointedWhileCollected : List Move :=
  [.user (.createService webService), .user (.createService apiService),
    .user (.createIngress apiIngress), .take .ingress "default/b"] ++ Move.calls .ingress "default/b" 5 ++
    [.user (.deleteService "default" "api"), .take .service "default/api"] ++
    Move.calls .service "default/api" 2 ++
    [.user (.updateIngress repointedIngress), .take .ingress "default/b"] ++ Move.calls .ingress "default/b" 5

/-- **The collection of one service deletes another's API**, in a gateway whose names stay
distinct: the one API, of `b`'s path, is under `web`'s upstream when the collection of `api`, which
listed it under `api`'s, goes on; its last two calls delete it by name and release `api`. Once every
sync has ended, `web` is live and the gateway holds no API. -/
theorem collection_deletes_repointed_api :
    ∃ t ∈ Threads.run KongController.standard repointedWhileCollected
        (Threads.start World.empty.identityProvider),
      t.controller.world.gateway.apiNames.Nodup ∧
        t.controller.world.gateway.apis.map Api.upstreamURL =
          [KongController.standard.getUpstream "http" "default" "web" 80] ∧
        ∃ t' ∈ Threads.run KongController.standard (Move.calls .service "default/api" 2) t,
          t'.running.isEmpty ∧ t'.controller.world.gateway.apis = [] ∧
            ∃ svc ∈ t'.controller.world.cluster.findService "default" "web", svc.deletionTimestamp.isNone := by
  decide

/-! ### The atomic runs are the serial schedules -/

/-- **Every run of the atomic controller is a run of the interleaved one**: each action becomes the
user's write, or the worker's take and every call of its sync, with no other move between. -/
theorem Controller.run_serial (k : KongController) (actions : List Action) {c next : Controller}
    (reached : Controller.run k actions c = some next) :
    ∃ moves : List Move, Threads.run k moves ⟨c, []⟩ = some ⟨next, []⟩ :=
  Controller.run_keeps k (fun _ => True) (fun later => ∃ moves, Threads.run k moves ⟨c, []⟩ = some ⟨later, []⟩)
    (@fun mid _ a _ ⟨moves, ran⟩ stepped => ⟨moves ++ a.moves k mid, by
      rw [Threads.run_append, ran, Option.some_bind]
      exact Threads.run_alone k a stepped⟩)
    actions (fun _ _ => trivial) ⟨[], rfl⟩ reached

set_option maxRecDepth 2000 in
theorem tenantsSynced_serial :
    Controller.run KongController.standard tenantsSynced (Controller.start fun _ => .ok pemDocument) =
        some tenantsSerial ∧
      ∃ moves : List Move, Threads.run KongController.standard moves (Threads.start fun _ => .ok pemDocument) =
        some ⟨tenantsSerial, []⟩ :=
  have reached : Controller.run KongController.standard tenantsSynced
      (Controller.start fun _ => .ok pemDocument) = some tenantsSerial := rfl
  ⟨reached, Controller.run_serial KongController.standard tenantsSynced reached⟩

end KongIngress
