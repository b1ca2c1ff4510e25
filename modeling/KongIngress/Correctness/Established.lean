/-
**What a sync that returns nil establishes.**

Against a world that answers every call from its state, with no other writer, a run of
`syncIngress` that returns nil leaves, for every path of every rule with an HTTP section:

* the backend service, in the ingress's namespace, with the controller's finalizer;
* one API of the path's name, holding the body built from the last path of that name, with a
  plugin of each `kolihub.io/plugin-<name>` annotation attached to it;
* the JWT consumer of the `kolihub.io/x-jwt-auth0-domain` host.

`syncIngress_establishes_paths_named` says so of the spec's gateway, in which names identify APIs
(`NamedWorld`). It rests on `syncIngress_establishes_paths`, the same of the store that accepts
every create, from a gateway of distinct names, and on the two running a whole sync alike
(`run_syncIngress_named`). Against the store the distinct names are needed: `Get` finds the first
API of a name and the write replaces only it, so a second API of the name stays. The loop invariant
is `Synced`, kept by every ready path (`Synced.step`).

The certificates of the ingress's TLS entries are posted once per path, and nothing is deleted
first (`syncIngress_posts_certificates_per_path`). A sync that fails stops at the first path that
fails (`run_syncIngress_of_failing_path`): a path whose backend service is missing keeps every
later path of the ingress from being synced (`syncIngress_stops_at_missing_service`), and a TLS
entry of a host whose secret is missing, or not of type `kubernetes.io/tls`, keeps every sync of
the ingress from returning nil (`syncIngress_fails_with_bad_tls`). Past the retry budget, a sync
marks its ingress dirty whatever it returns, and no sync removes a mark (`syncIngress_marks_dirty`).
-/

import KongIngress.Run.Named

namespace KongIngress

namespace KongController

variable (k : KongController) (ing : Ingress)

/-! ### The last body of a name -/

/-- The API bodies `syncIngress` builds for a list of (rule, path) pairs, in order. -/
def apiBodies (paths : List (IngressRule × HTTPIngressPath)) : List Api :=
  paths.map fun path => k.apiBody ing path.1 path.2

/-- The last body of a name among those built for a list of paths. -/
def lastBody (paths : List (IngressRule × HTTPIngressPath)) (name : String) : Option Api :=
  (k.apiBodies ing paths).reverse.find? (·.name == name)

theorem lastBody_append (paths : List (IngressRule × HTTPIngressPath))
    (path : IngressRule × HTTPIngressPath) (name : String) :
    k.lastBody ing (paths ++ [path]) name =
      if (k.apiBody ing path.1 path.2).name = name then some (k.apiBody ing path.1 path.2)
      else k.lastBody ing paths name := by
  by_cases named : (k.apiBody ing path.1 path.2).name = name <;> simp [lastBody, apiBodies, named]

/-! ### The loop invariant -/

/-- The API of a name holds the last body built for that name, under its own id and creation
stamp, with every plugin annotation attached to it. -/
def ApiHolds (paths : List (IngressRule × HTTPIngressPath)) (gateway : Gateway) (name : String) :
    Prop :=
  ∃ api body, gateway.getApi name = some api ∧ k.lastBody ing paths name = some body ∧
    api = { body with uid := api.uid, createdAt := api.createdAt } ∧ PluginsAttached ing gateway api.uid

/-- What the paths synced so far have established. -/
structure Synced (paths : List (IngressRule × HTTPIngressPath)) (world : World) : Prop where
  finalized : ∀ path ∈ paths,
    world.cluster.HasFinalizer ing.ns path.2.backend.serviceName k.finalizer
  holds : ∀ path ∈ paths, k.ApiHolds ing paths world.gateway (k.apiBody ing path.1 path.2).name
  consumer : paths ≠ [] → ConsumerMade ing world.gateway

/-- **One ready path keeps the invariant**, now with that path among the synced ones. -/
theorem Synced.step {paths : List (IngressRule × HTTPIngressPath)}
    {path : IngressRule × HTTPIngressPath} {world : World} (ready : k.PathReady ing path world)
    (synced : k.Synced ing paths world) :
    k.Synced ing (paths ++ [path]) (k.syncedPath ing path world) := by
  obtain ⟨patched, decoded, _, key, auth⟩ := ready
  have grows : world.gateway.GrowsInto (k.syncedPath ing path world).gateway :=
    (world.gateway.growsInto_writeApi _).trans (k.growsInto_configuredGateway _ _ _ _ _)
  refine ⟨?_, ?_, fun _ => k.consumerMade_configuredGateway _ _ _ _ _ auth⟩
  · intro other member
    rcases List.mem_append.mp member with earlier | now
    · exact (synced.finalized other earlier).patchServiceFinalizer _ _ _
    · rw [List.mem_singleton.mp now]
      exact Cluster.hasFinalizer_patchServiceFinalizer patched
  · intro other member
    by_cases same : (k.apiBody ing path.1 path.2).name = (k.apiBody ing other.1 other.2).name
    · refine ⟨_, k.apiBody ing path.1 path.2, ?_, ?_, world.gateway.writtenApi_eq _, ?_⟩
      · rw [syncedPath_getApi, ← same, Gateway.getApi_writeApi_self]
      · rw [lastBody_append, if_pos same]
      · exact k.pluginsAttached_configuredGateway _ _ _ _ _ decoded
    · have earlier : other ∈ paths := (List.mem_append.mp member).resolve_right fun now => by
        obtain rfl := List.mem_singleton.mp now
        exact same rfl
      obtain ⟨api, last, found, lastIs, shaped, attached⟩ := synced.holds other earlier
      refine ⟨api, last, ?_, ?_, shaped, attached.grows ing grows⟩
      · rw [syncedPath_getApi, Gateway.getApi_writeApi_of_ne _ _ (Ne.symm same), found]
      · rw [lastBody_append, if_neg same, lastIs]

/-- **Every run of ready paths establishes the invariant.** -/
theorem synced_afterAll {paths : List (IngressRule × HTTPIngressPath)} {world : World}
    (ready : Prog.AllReady (k.PathReady ing) (k.syncedPath ing) paths world) :
    k.Synced ing paths (Prog.afterAll (k.syncedPath ing) paths world) := by
  have start : k.Synced ing [] world := ⟨by simp, by simp, fun nonempty => absurd rfl nonempty⟩
  simpa using Prog.AllReady.invariant (fun _ _ _ isReady holds => Synced.step k ing isReady holds)
    ready start

/-- **Writes keep the API names distinct.** -/
theorem apiNames_nodup_afterAll {paths : List (IngressRule × HTTPIngressPath)} {world : World}
    (ready : Prog.AllReady (k.PathReady ing) (k.syncedPath ing) paths world)
    (distinct : world.gateway.apiNames.Nodup) :
    (Prog.afterAll (k.syncedPath ing) paths world).gateway.apiNames.Nodup := by
  refine Prog.AllReady.keeps (fun world => world.gateway.apiNames.Nodup) (fun path world _ distinct => ?_)
    ready distinct
  show (k.syncedPath ing path world).gateway.apiNames.Nodup
  rw [syncedPath_apiNames]
  exact world.gateway.nodup_apiNames_writeApi distinct

/-! ### What a sync establishes -/

/-- What a sync that returns nil establishes for one path of the ingress. -/
structure PathEstablished (paths : List (IngressRule × HTTPIngressPath))
    (path : IngressRule × HTTPIngressPath) (world : World) : Prop where
  /-- The backend service exists and carries the controller's finalizer. -/
  finalized : world.cluster.HasFinalizer ing.ns path.2.backend.serviceName k.finalizer
  /-- Exactly one API has the path's name. -/
  oneApi : world.gateway.apiNames.count (k.apiName path.1.host ing.ns path.2.path) = 1
  /-- It holds the body of the last path of that name, with the plugins attached. -/
  holds : k.ApiHolds ing paths world.gateway (k.apiName path.1.host ing.ns path.2.path)
  /-- The auth0 host, if any, is a consumer with a JWT credential. -/
  consumer : ConsumerMade ing world.gateway

/-- **Against the store, a sync that returns nil establishes every path of the ingress**, from a
gateway whose API names are distinct. -/
theorem syncIngress_establishes_paths (world : World) (key : String) (numRequeues : Nat)
    (found : world.cluster.getIngress key = some ing) (distinctNames : world.gateway.apiNames.Nodup)
    (returnsNil : ((k.syncIngress key numRequeues).run World.answer world).1 = .ok ()) :
    ∀ path ∈ ingressPaths ing, k.PathEstablished ing (ingressPaths ing) path
      ((k.syncIngress key numRequeues).run World.answer world).2 := by
  have whole := (k.run_syncIngress_eq_ok_iff world _ key numRequeues).mp (Prod.ext returnsNil rfl)
  simp only [found] at whole
  obtain ⟨ready, final⟩ := whole
  have synced := k.synced_afterAll ing ready
  have distinct := k.apiNames_nodup_afterAll ing ready (by rwa [markedDirty_gateway])
  rw [← final] at synced distinct
  intro path member
  obtain ⟨api, _, named, _⟩ := synced.holds path member
  obtain ⟨mem, sameName⟩ := Gateway.getApi_mem _ named
  refine ⟨synced.finalized path member, ?_, synced.holds path member,
    synced.consumer (List.ne_nil_of_mem member)⟩
  exact List.count_eq_one_of_mem distinct (List.mem_map.mpr ⟨api, mem, sameName⟩)

end KongController

/-! ### An ingress of one path -/

/-- An ingress of namespace `default` routing `example.com/` to port 80 of service `web`. -/
def webIngress : Ingress where
  ns := "default"
  name := "web"
  resourceVersion := 1
  annotations := []
  spec := ⟨[], [⟨"example.com", some ⟨[⟨"/", ⟨"web", ⟨80⟩⟩⟩]⟩⟩]⟩

/-- The world of `webIngress` and its service, with a given gateway. -/
def webWorld (gateway : Gateway) : World :=
  { World.empty with
    cluster := { Cluster.empty with
      ingresses := [webIngress]
      services := [⟨"default", "web", 1, none, [], [⟨80⟩]⟩]
      revision := 1 }
    gateway := gateway }

/-- A gateway already holding two APIs of `webIngress`'s path name. -/
def twinApis : Gateway where
  apis := [⟨1, 1, "example.com~default~3145776", "http://old", [], [], true, false⟩,
    ⟨2, 2, "example.com~default~3145776", "http://old", [], [], true, false⟩]
  plugins := []
  certificates := []
  consumers := []
  jwtCredentials := []
  nextId := 2
  uid_pos := by decide
  uid_le := by decide
  uid_nodup := by decide

/-- Against the store, a sync from a gateway of two APIs of the path's name returns nil and keeps
both: `Get` finds the first, the write replaces it, the second stays. -/
example :
    ((KongController.standard.syncIngress "default/web" 0).run World.answer (webWorld twinApis)).1 =
        .ok () ∧
      ((KongController.standard.syncIngress "default/web" 0).run World.answer
        (webWorld twinApis)).2.gateway.apiNames.count
          (KongController.standard.apiName "example.com" "default" "/") = 2 := by
  decide

namespace KongController

variable (k : KongController) (ing : Ingress)

/-- **Against the spec's gateway, a sync that returns nil establishes every path of the
ingress**: (a) the backend service carries the finalizer, (b) exactly one API has the path's name,
holding the body of the last path of that name, (c) with the plugins attached, and (d) the
identity-provider host is a consumer with a JWT credential. The spec's gateway keeps its names
distinct, and from distinct names a whole sync runs as against the store. -/
theorem syncIngress_establishes_paths_named (w : NamedWorld) (key : String) (numRequeues : Nat)
    (found : w.world.cluster.getIngress key = some ing)
    (returnsNil : ((k.syncIngress key numRequeues).run NamedWorld.answer w).1 = .ok ()) :
    ∀ path ∈ ingressPaths ing, k.PathEstablished ing (ingressPaths ing) path
      ((k.syncIngress key numRequeues).run NamedWorld.answer w).2.world := by
  obtain ⟨outcome, final⟩ := NamedWorld.run_of_alike (k.run_syncIngress_named w.world key numRequeues w.named)
  rw [final]
  exact k.syncIngress_establishes_paths ing w.world key numRequeues found w.named (outcome ▸ returnsNil)

end KongController

theorem syncIngress_establishes_web :
    (webWorld Gateway.empty).cluster.getIngress "default/web" = some webIngress ∧
      ((KongController.standard.syncIngress "default/web" 0).run NamedWorld.answer
        ⟨webWorld Gateway.empty, List.nodup_nil⟩).1 = .ok () ∧
      ∀ path ∈ ingressPaths webIngress,
        KongController.standard.PathEstablished webIngress (ingressPaths webIngress) path
          ((KongController.standard.syncIngress "default/web" 0).run NamedWorld.answer
            ⟨webWorld Gateway.empty, List.nodup_nil⟩).2.world :=
  have found : (webWorld Gateway.empty).cluster.getIngress "default/web" = some webIngress := by
    decide
  have returnsNil : ((KongController.standard.syncIngress "default/web" 0).run NamedWorld.answer
      ⟨webWorld Gateway.empty, List.nodup_nil⟩).1 = .ok () := by decide
  ⟨found, returnsNil, KongController.standard.syncIngress_establishes_paths_named webIngress
    ⟨webWorld Gateway.empty, List.nodup_nil⟩ "default/web" 0 found returnsNil⟩

namespace KongController

variable (k : KongController) (ing : Ingress)

/-! ### The certificates a sync posts -/

/-- The path iterations post the ingress's certificates once each: no iteration changes a
secret. -/
theorem afterAll_syncedPath_certificates :
    ∀ (paths : List (IngressRule × HTTPIngressPath)) (world : World),
      (Prog.afterAll (k.syncedPath ing) paths world).gateway.certificates =
        world.gateway.certificates ++ paths.flatMap fun _ => (certificatesFor world.cluster ing).1
  | [], world => by simp
  | path :: rest, world => by
    have sameSecrets : certificatesFor (k.syncedPath ing path world).cluster ing = certificatesFor world.cluster ing :=
      certificatesFor_congr (by simp) ing
    rw [Prog.afterAll_cons, afterAll_syncedPath_certificates rest, syncedPath_certificates, sameSecrets,
      List.flatMap_cons, List.append_assoc]

/-- **A sync that returns nil posts the ingress's certificates once per path**: each path's
iteration posts the certificates of every TLS entry again, so a sync of an ingress of `n` paths
adds `n` copies of them, and every later sync adds `n` more. -/
theorem syncIngress_posts_certificates_per_path (world : World) (key : String) (numRequeues : Nat)
    (found : world.cluster.getIngress key = some ing)
    (returnsNil : ((k.syncIngress key numRequeues).run World.answer world).1 = .ok ()) :
    ((k.syncIngress key numRequeues).run World.answer world).2.gateway.certificates =
      world.gateway.certificates ++ (ingressPaths ing).flatMap fun _ => (certificatesFor world.cluster ing).1 := by
  have whole := (k.run_syncIngress_eq_ok_iff world ((k.syncIngress key numRequeues).run World.answer world).2
    key numRequeues).mp (Prod.ext returnsNil rfl)
  simp only [found] at whole
  rw [whole.2, afterAll_syncedPath_certificates, markedDirty_gateway,
    certificatesFor_congr (markedDirty_secrets k world ing numRequeues) ing]

end KongController

/-! ### Certificates, once per path -/

/-- An ingress of `default` routing `example.com/` and `example.com/api` to port 443 of `web`,
with the TLS secret `web-tls` for `example.com`. -/
def tlsIngress : Ingress where
  ns := "default"
  name := "web"
  resourceVersion := 1
  annotations := []
  spec := ⟨[⟨["example.com"], "web-tls"⟩],
    [⟨"example.com", some ⟨[⟨"/", ⟨"web", ⟨443⟩⟩⟩, ⟨"/api", ⟨"web", ⟨443⟩⟩⟩]⟩⟩]⟩

/-- The world of `tlsIngress`, its service and its secret, with an empty gateway. -/
def tlsWorld : World :=
  { World.empty with
    cluster := { Cluster.empty with
      ingresses := [tlsIngress]
      services := [⟨"default", "web", 1, none, [], [⟨443⟩]⟩]
      secrets := [⟨"default", "web-tls", secretTypeTLS, [("tls.crt", "CRT"), ("tls.key", "KEY")]⟩]
      revision := 1 } }

theorem syncIngress_posts_tls_twice :
    tlsWorld.cluster.getIngress "default/web" = some tlsIngress ∧
      ((KongController.standard.syncIngress "default/web" 0).run World.answer tlsWorld).1 = .ok () ∧
      ((KongController.standard.syncIngress "default/web" 0).run World.answer tlsWorld).2.gateway.certificates =
        tlsWorld.gateway.certificates ++
          (ingressPaths tlsIngress).flatMap fun _ =>
            (KongController.certificatesFor tlsWorld.cluster tlsIngress).1 :=
  have found : tlsWorld.cluster.getIngress "default/web" = some tlsIngress := by decide
  have returnsNil : ((KongController.standard.syncIngress "default/web" 0).run World.answer tlsWorld).1 =
      .ok () := by decide
  ⟨found, returnsNil, KongController.standard.syncIngress_posts_certificates_per_path tlsIngress tlsWorld
    "default/web" 0 found returnsNil⟩

/-- Two paths, so two copies of the one certificate. -/
example :
    ((KongController.standard.syncIngress "default/web" 0).run World.answer tlsWorld).2.gateway.certificates =
      [⟨"CRT", "KEY", ["example.com"]⟩, ⟨"CRT", "KEY", ["example.com"]⟩] := by
  decide

namespace KongController

variable (k : KongController) (ing : Ingress)

/-! ### A missing backend stops the sync -/

/-- A path whose backend service the cache lacks records a `ServiceNotFound` event and fails. -/
theorem run_syncPath_of_missing (path : IngressRule × HTTPIngressPath) (world : World)
    (missing : ∀ svc ∈ world.cluster.services, svc.ns = ing.ns → svc.name ≠ path.2.backend.serviceName) :
    (k.syncPath ing path.1 path.2).run World.answer world =
      (.error ("Service " ++ path.2.backend.serviceName ++ " not found"),
        { world with cluster := { world.cluster with events := world.cluster.events ++
          [⟨ing.ns, ing.name, "Warning", "ServiceNotFound",
            "Service '" ++ path.2.backend.serviceName ++ "' not found for ingress"⟩] } }) := by
  have absent : (world.cluster.services.any fun svc =>
      svc.name == path.2.backend.serviceName && svc.ns == ing.ns) = false := by
    simpa using fun svc member named sameNs => missing svc member sameNs named
  simp only [syncPath, Prog.bind_eq, Prog.send_bind, Prog.run_call, World.answer_listServices, absent]
  rfl

/-- **A missing backend service stops the sync at its path**: with the paths before it ready,
`syncIngress` records a `ServiceNotFound` event and returns `Service <name> not found`, from the
world the paths before it leave. No later path, of the same rule or of another, is synced. -/
theorem syncIngress_stops_at_missing_service (world : World) (key : String) (numRequeues : Nat)
    (found : world.cluster.getIngress key = some ing) {before after : List (IngressRule × HTTPIngressPath)}
    {path : IngressRule × HTTPIngressPath} (split : ingressPaths ing = before ++ path :: after)
    (ready : Prog.AllReady (k.PathReady ing) (k.syncedPath ing) before (k.markedDirty world ing numRequeues))
    (missing : ∀ svc ∈ world.cluster.services, svc.ns = ing.ns → svc.name ≠ path.2.backend.serviceName) :
    let synced := Prog.afterAll (k.syncedPath ing) before (k.markedDirty world ing numRequeues)
    (k.syncIngress key numRequeues).run World.answer world =
      (.error ("Service " ++ path.2.backend.serviceName ++ " not found"),
        { synced with cluster := { synced.cluster with events := synced.cluster.events ++
          [⟨ing.ns, ing.name, "Warning", "ServiceNotFound",
            "Service '" ++ path.2.backend.serviceName ++ "' not found for ingress"⟩] } }) := by
  refine k.run_syncIngress_of_failing_path world key numRequeues found split ready
    (k.run_syncPath_of_missing ing path _ fun svc member sameNs => ?_)
  have keys := k.afterAll_syncedPath_serviceKeys ing before (k.markedDirty world ing numRequeues)
  rw [markedDirty_services] at keys
  obtain ⟨original, present, same⟩ :=
    List.mem_map.mp (keys ▸ List.mem_map_of_mem (fun svc : Service => (svc.ns, svc.name)) member)
  simp only [Prod.mk.injEq] at same
  rw [← same.2]
  exact missing original present (same.1.trans sameNs)

end KongController

/-! ### A first rule whose backend is missing -/

/-- `webIngress` with a first rule routing `example.com/api` to the service `api`, which does not
exist. -/
def missingBackendIngress : Ingress :=
  { webIngress with
    spec := ⟨[], [⟨"example.com", some ⟨[⟨"/api", ⟨"api", ⟨80⟩⟩⟩]⟩⟩, ⟨"example.com", some ⟨[⟨"/", ⟨"web", ⟨80⟩⟩⟩]⟩⟩]⟩ }

/-- `webWorld` with `missingBackendIngress` in place of `webIngress`. -/
def missingBackendWorld : World :=
  { webWorld Gateway.empty with
    cluster := { (webWorld Gateway.empty).cluster with ingresses := [missingBackendIngress] } }

theorem missingBackend_stops_sync :
    missingBackendWorld.cluster.getIngress "default/web" = some missingBackendIngress ∧
      ingressPaths missingBackendIngress =
        [] ++ (⟨"example.com", some ⟨[⟨"/api", ⟨"api", ⟨80⟩⟩⟩]⟩⟩, ⟨"/api", ⟨"api", ⟨80⟩⟩⟩) ::
          [(⟨"example.com", some ⟨[⟨"/", ⟨"web", ⟨80⟩⟩⟩]⟩⟩, ⟨"/", ⟨"web", ⟨80⟩⟩⟩)] ∧
      (∀ svc ∈ missingBackendWorld.cluster.services, svc.ns = "default" → svc.name ≠ "api") ∧
      (KongController.standard.syncIngress "default/web" 0).run World.answer missingBackendWorld =
        (.error ("Service " ++ "api" ++ " not found"),
          { missingBackendWorld with cluster := { missingBackendWorld.cluster with
            events := missingBackendWorld.cluster.events ++
              [⟨"default", "web", "Warning", "ServiceNotFound", "Service '" ++ "api" ++ "' not found for ingress"⟩] } }) :=
  have found : missingBackendWorld.cluster.getIngress "default/web" = some missingBackendIngress := by decide
  have split : ingressPaths missingBackendIngress =
      [] ++ (⟨"example.com", some ⟨[⟨"/api", ⟨"api", ⟨80⟩⟩⟩]⟩⟩, ⟨"/api", ⟨"api", ⟨80⟩⟩⟩) ::
        [(⟨"example.com", some ⟨[⟨"/", ⟨"web", ⟨80⟩⟩⟩]⟩⟩, ⟨"/", ⟨"web", ⟨80⟩⟩⟩)] := rfl
  have missing : ∀ svc ∈ missingBackendWorld.cluster.services, svc.ns = "default" → svc.name ≠ "api" := by
    decide
  ⟨found, split, missing, KongController.standard.syncIngress_stops_at_missing_service missingBackendIngress
    missingBackendWorld "default/web" 0 found split trivial missing⟩

/-- The rule of `web` after it is never synced: the gateway stays empty. -/
example :
    ((KongController.standard.syncIngress "default/web" 0).run World.answer missingBackendWorld).2.gateway.apis = [] := by
  decide

namespace KongController

variable (k : KongController) (ing : Ingress)

/-! ### A TLS secret that is missing or of another type -/

/-- **An ingress with a path and a TLS entry of a host whose secret is missing, or not of type
`kubernetes.io/tls`, never syncs**: every path's iteration posts the certificates, which read that
secret for the entry's first host, and no sync writes a secret; so no sync of its key returns
nil. -/
theorem syncIngress_fails_with_bad_tls (world : World) (key : String) (numRequeues : Nat)
    (found : world.cluster.getIngress key = some ing) (routed : ingressPaths ing ≠ [])
    {t : IngressTLS} (declared : t ∈ ing.spec.tls) (hosted : t.hosts ≠ [])
    (bad : ∀ secret, world.cluster.getSecret ing.ns t.secretName = some secret →
      secret.type ≠ secretTypeTLS) :
    ((k.syncIngress key numRequeues).run World.answer world).1 ≠ .ok () := by
  intro returnsNil
  have whole := (k.run_syncIngress_eq_ok_iff world ((k.syncIngress key numRequeues).run World.answer world).2
    key numRequeues).mp (Prod.ext returnsNil rfl)
  simp only [found] at whole
  obtain ⟨first, rest, paths⟩ := List.exists_cons_of_ne_nil routed
  rw [paths] at whole
  obtain ⟨⟨-, -, certified, -⟩, -⟩ := whole.1
  exact certificatesFor_error declared hosted bad
    (certificatesFor_congr (markedDirty_secrets k world ing numRequeues) ing ▸ certified)

end KongController

/-! ### A TLS secret that was never created -/

/-- `tlsWorld` without the secret `web-tls`. -/
def tlsSecretMissingWorld : World :=
  { tlsWorld with cluster := { tlsWorld.cluster with secrets := [] } }

theorem tlsSecretMissing_never_syncs :
    tlsSecretMissingWorld.cluster.getIngress "default/web" = some tlsIngress ∧ ingressPaths tlsIngress ≠ [] ∧
      ⟨["example.com"], "web-tls"⟩ ∈ tlsIngress.spec.tls ∧
      ((KongController.standard.syncIngress "default/web" 6).run World.answer tlsSecretMissingWorld).1 ≠ .ok () :=
  have found : tlsSecretMissingWorld.cluster.getIngress "default/web" = some tlsIngress := by decide
  have routed : ingressPaths tlsIngress ≠ [] := by decide
  have declared : ⟨["example.com"], "web-tls"⟩ ∈ tlsIngress.spec.tls := by decide
  ⟨found, routed, declared, KongController.standard.syncIngress_fails_with_bad_tls tlsIngress tlsSecretMissingWorld
    "default/web" 6 found routed declared (by decide) fun _ missing => nomatch missing⟩

/-- The sync fails after writing the first path's API: the route works, without TLS. -/
example :
    ((KongController.standard.syncIngress "default/web" 0).run World.answer tlsSecretMissingWorld).2.gateway.apiNames =
      [KongController.standard.apiName "example.com" "default" "/"] := by
  decide

namespace KongController

variable (k : KongController) (ing : Ingress)

/-! ### The dirty mark -/

/-- **Past the retry budget a sync marks its ingress dirty, and no sync takes a mark away.** A
sync of a key whose ingress the cache holds, with more than `autoClaimMaxRetries` requeues, ends,
whatever it returns, with the key's ingress carrying `kolihub.io/dirty: "true"` and otherwise as it
was but for its resource version; and every ingress marked before a sync, of any key, is marked
after it. -/
theorem syncIngress_marks_dirty (world : World) (key : String) (numRequeues : Nat)
    (found : world.cluster.getIngress key = some ing) (over : numRequeues > k.autoClaimMaxRetries) :
    ((k.syncIngress key numRequeues).run World.answer world).2.cluster.MarkedDirty key ing ∧
      ∀ (other : String) (marked : Ingress), world.cluster.MarkedDirty other marked →
        ((k.syncIngress key numRequeues).run World.answer world).2.cluster.MarkedDirty other marked := by
  refine ⟨?_, fun _ _ held => World.run_markedDirty _ _ held⟩
  rw [run_syncIngress, found]
  refine World.run_markedDirty _ _ ?_
  unfold markedDirty
  split_ifs with mark
  · exact world.cluster.markedDirty_patchIngressDirty found
  · have dirty : ing.annotation Cluster.dirtyAnnotation = "true" := by simpa [over] using mark
    exact ⟨ing, found, dirty, .refl ing⟩

end KongController

theorem missingBackend_marked_dirty :
    missingBackendWorld.cluster.getIngress "default/web" = some missingBackendIngress ∧
      6 > KongController.standard.autoClaimMaxRetries ∧
      ((KongController.standard.syncIngress "default/web" 6).run World.answer
          missingBackendWorld).2.cluster.MarkedDirty "default/web" missingBackendIngress ∧
        ∀ (other : String) (marked : Ingress), missingBackendWorld.cluster.MarkedDirty other marked →
          ((KongController.standard.syncIngress "default/web" 6).run World.answer
            missingBackendWorld).2.cluster.MarkedDirty other marked :=
  have found : missingBackendWorld.cluster.getIngress "default/web" = some missingBackendIngress := by decide
  have over : 6 > KongController.standard.autoClaimMaxRetries := by decide
  ⟨found, over, KongController.standard.syncIngress_marks_dirty missingBackendIngress missingBackendWorld
    "default/web" 6 found over⟩

end KongIngress
