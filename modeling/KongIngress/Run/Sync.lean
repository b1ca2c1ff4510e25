/-
**`syncIngress` against a world that answers from its state.**

* `forEach_syncRule` — the rule loop and its path loops are one loop over `ingressPaths`.
* `run_syncPath_eq_ok_iff` — one path's iteration returns nil exactly when its backend service
  takes the finalizer and the ingress configures (`PathReady`); it then leaves `syncedPath`: the
  service patched, the API written under the path's name (`writeApi`), the new plugins attached
  to it, the certificates posted, the JWT consumer made.
* `run_syncIngress_eq_ok_iff` — `syncIngress` returns nil exactly when the key has vanished, or
  every path's iteration is ready in the world the ones before it leave; it then leaves the
  world after all of them.
-/

import KongIngress.Run.Configure
import KongIngress.Controller.Sync

namespace KongIngress

/-- The (rule, path) pairs `syncIngress` visits, in order: every path of every rule with an HTTP
section. -/
def ingressPaths (ing : Ingress) : List (IngressRule × HTTPIngressPath) :=
  ing.spec.rules.flatMap fun r =>
    match r.http with
    | none => []
    | some http => http.paths.map (r, ·)

theorem ingressPaths_sameButDirty {ing ing' : Ingress} (same : Cluster.SameButDirty ing ing') :
    ingressPaths ing' = ingressPaths ing := by
  simp only [ingressPaths, same.2.2.1]

namespace KongController

variable (k : KongController)

theorem forEach_syncRule (ing : Ingress) :
    Prog.forEach ing.spec.rules (k.syncRule ing) =
      Prog.forEach (ingressPaths ing) fun path => k.syncPath ing path.1 path.2 := by
  rw [ingressPaths, Prog.forEach_flatMap]
  congr 1
  funext r
  rcases r with ⟨host, _ | http⟩ <;> simp [syncRule, Prog.forEach_map, Function.comp_def]

/-! ### The dirty mark -/

/-- The world after `syncIngress`' best-effort dirty mark: past `autoClaimMaxRetries` requeues,
an ingress without the mark is patched; a failed patch is only logged. -/
def markedDirty (world : World) (ing : Ingress) (numRequeues : Nat) : World :=
  if numRequeues > k.autoClaimMaxRetries ∧ ing.annotation Cluster.dirtyAnnotation ≠ "true" then
    { world with cluster := (world.cluster.patchIngressDirty ing.ns ing.name).2 }
  else world

/-- The dirty mark, attempted: it always goes on, with the ingress patched unless it has the
mark. -/
theorem run_attempt_setDirty (world : World) (ing : Ingress) (numRequeues : Nat) :
    ∃ result, (setDirty ing numRequeues).attempt.run World.answer world =
      (.ok result, if ing.annotation Cluster.dirtyAnnotation ≠ "true" then
        { world with cluster := (world.cluster.patchIngressDirty ing.ns ing.name).2 } else world) := by
  unfold setDirty
  by_cases marked : ing.annotation Cluster.dirtyAnnotation = "true"
  · simp [marked, Prog.attempt]
  · rw [if_pos marked]
    simp only [marked, if_false, Prog.bind_eq, Prog.send_bind, Prog.run_attempt, Prog.run_call,
      World.answer_patchIngressDirty]
    cases (world.cluster.patchIngressDirty ing.ns ing.name).1 <;> exact ⟨_, rfl⟩

theorem run_syncIngress (world : World) (key : String) (numRequeues : Nat) :
    (k.syncIngress key numRequeues).run World.answer world =
      match world.cluster.getIngress key with
      | none => (.ok (), world)
      | some ing => (Prog.forEach (ingressPaths ing) fun path => k.syncPath ing path.1 path.2).run
          World.answer (k.markedDirty world ing numRequeues) := by
  simp only [syncIngress, Prog.bind_eq, Prog.send_bind, Prog.run_call, World.answer_getIngress]
  cases world.cluster.getIngress key with
  | none => rfl
  | some ing =>
    simp only [forEach_syncRule, markedDirty, Prog.pure_eq, Prog.pure_bind]
    by_cases over : numRequeues > k.autoClaimMaxRetries
    · obtain ⟨result, attempted⟩ := run_attempt_setDirty world ing numRequeues
      rw [if_pos over, Prog.run_bind_of_ok _ attempted]
      simp only [over, true_and]
    · rw [if_neg over, if_neg fun marked => over marked.1]

/-! ### One path -/

/-- The certificates posted read only the cluster's secrets. -/
theorem certificatesFor_congr {cluster cluster' : Cluster} (same : cluster.secrets = cluster'.secrets)
    (ing : Ingress) : certificatesFor cluster ing = certificatesFor cluster' ing := by
  unfold certificatesFor tlsCertificates certificatePiece certificateFor Cluster.getSecret
  rw [same]

/-- The gateway after a path's configuration went through for the API of id `uid`: its new
plugins attached, the certificates posted, the consumer and credential made. -/
def configuredGateway (cluster : Cluster) (identityProvider : String → Except String (List UInt8))
    (ing : Ingress) (uid : Nat) (gateway : Gateway) : Gateway :=
  ((gateway.attachPlugins uid (k.pluginsCreated gateway uid ing)).postCertificates
      (certificatesFor cluster ing).1).withAuth0 (ing.annotation jwtAuth0DomainAnnotation)
    (k.auth0Key identityProvider ing)

/-- Every `kolihub.io/plugin-<name>` annotation of the ingress has a plugin of that name on the
API of id `uid`. -/
def PluginsAttached (ing : Ingress) (gateway : Gateway) (uid : Nat) : Prop :=
  ∀ a value, (a, value) ∈ ing.annotations → hasPrefix a pluginPrefix = true →
    ∃ plugin ∈ gateway.listPlugins uid, plugin.name = trimPrefix a pluginPrefix

/-- The host the `kolihub.io/x-jwt-auth0-domain` annotation names, if any, is a consumer with a
JWT credential. -/
def ConsumerMade (ing : Ingress) (gateway : Gateway) : Prop :=
  ing.annotation jwtAuth0DomainAnnotation ≠ "" →
    ing.annotation jwtAuth0DomainAnnotation ∈ gateway.consumers ∧
      0 < gateway.jwtTotal (ing.annotation jwtAuth0DomainAnnotation)

section Configured

variable (cluster : Cluster) (identityProvider : String → Except String (List UInt8))
  (ing : Ingress) (uid : Nat) (gateway : Gateway)

@[simp] theorem configuredGateway_apis :
    (k.configuredGateway cluster identityProvider ing uid gateway).apis = gateway.apis := by
  simp [configuredGateway]

theorem growsInto_configuredGateway :
    gateway.GrowsInto (k.configuredGateway cluster identityProvider ing uid gateway) :=
  ((gateway.growsInto_attachPlugins _ _).trans (Gateway.growsInto_postCertificates _ _)).trans
    (Gateway.growsInto_withAuth0 _ _ _)

theorem PluginsAttached.grows {gateway later : Gateway} {uid : Nat}
    (attached : PluginsAttached ing gateway uid) (grows : gateway.GrowsInto later) :
    PluginsAttached ing later uid := fun a value annotated prefixed => by
  obtain ⟨plugin, member, named⟩ := attached a value annotated prefixed
  exact ⟨plugin, grows.listPlugins uid member, named⟩

theorem ConsumerMade.grows {gateway later : Gateway} (made : ConsumerMade ing gateway)
    (grows : gateway.GrowsInto later) : ConsumerMade ing later := fun named =>
  ⟨grows.2.1.subset (made named).1, lt_of_lt_of_le (made named).2 (grows.jwtTotal_le _)⟩

/-- A decoded plugin comes from a plugin annotation of the ingress, and every plugin
annotation gives one when all of them decode. -/
theorem mem_decodePlugins_of_none (decoded : (k.decodePlugins ing ing.annotations).2 = none)
    {a value : String} (annotated : (a, value) ∈ ing.annotations)
    (prefixed : hasPrefix a pluginPrefix = true) :
    ∃ plugin ∈ (k.decodePlugins ing ing.annotations).1, plugin.name = trimPrefix a pluginPrefix := by
  obtain ⟨plugin, ok⟩ := (k.decodePlugins_snd_eq_none ing _).mp decoded _ annotated prefixed
  refine ⟨plugin, ?_, k.decodePlugin_name ok⟩
  rw [k.decodePlugins_fst_of_none ing _ decoded]
  exact List.mem_filterMap.mpr ⟨(a, value), annotated, by simp [prefixed, ok, Except.toOption]⟩

/-- **A configuration that goes through attaches every plugin annotation** to the API. -/
theorem pluginsAttached_configuredGateway (decoded : (k.decodePlugins ing ing.annotations).2 = none) :
    PluginsAttached ing (k.configuredGateway cluster identityProvider ing uid gateway) uid := by
  intro a value annotated prefixed
  obtain ⟨plugin, member, named⟩ := k.mem_decodePlugins_of_none ing decoded annotated prefixed
  have unchanged : (k.configuredGateway cluster identityProvider ing uid gateway).listPlugins uid =
      gateway.listPlugins uid ++ k.pluginsCreated gateway uid ing := by
    simp [configuredGateway, Gateway.listPlugins, Gateway.attachPlugins, List.filter_map,
      Function.comp_def]
  rw [unchanged, ← named]
  by_cases present : (gateway.listPlugins uid).any (·.name == plugin.name)
  · obtain ⟨other, mem, same⟩ := List.any_eq_true.mp present
    exact ⟨other, List.mem_append_left _ mem, by simpa using same⟩
  · exact ⟨plugin, List.mem_append_right _ (List.mem_filter.mpr ⟨member, by simpa using present⟩),
      rfl⟩

/-- **A configuration that goes through makes the consumer.** -/
theorem consumerMade_configuredGateway {key : Option String}
    (auth : k.auth0Key identityProvider ing = .ok key) :
    ConsumerMade ing (k.configuredGateway cluster identityProvider ing uid gateway) := by
  intro named
  obtain ⟨publicKey, rfl⟩ := k.auth0Key_eq_ok identityProvider ing named auth
  simp only [configuredGateway, auth, Gateway.withAuth0, Gateway.withJWTCredential_consumers]
  exact ⟨Gateway.mem_withConsumer _ _, Gateway.jwtTotal_withJWTCredential_pos _ _ _⟩

/-- **A configuration that finds everything in place** changes no plugin, consumer or
credential. -/
theorem configuredGateway_settled {key : Option String}
    (auth : k.auth0Key identityProvider ing = .ok key) (attached : PluginsAttached ing gateway uid)
    (made : ConsumerMade ing gateway) :
    (k.configuredGateway cluster identityProvider ing uid gateway).plugins = gateway.plugins ∧
      (k.configuredGateway cluster identityProvider ing uid gateway).consumers = gateway.consumers ∧
      (k.configuredGateway cluster identityProvider ing uid gateway).jwtCredentials =
        gateway.jwtCredentials := by
  have none_created : k.pluginsCreated gateway uid ing = [] := by
    refine List.filter_eq_nil_iff.mpr fun plugin member => ?_
    obtain ⟨⟨a, value⟩, annotated, prefixed, named⟩ := k.mem_decodePlugins member
    obtain ⟨other, mem, same⟩ := attached a value annotated prefixed
    simpa using ⟨other, mem, same.trans named.symm⟩
  unfold configuredGateway
  rw [none_created, Gateway.attachPlugins_nil, auth]
  by_cases named : ing.annotation jwtAuth0DomainAnnotation = ""
  · have : key = none := by simpa [auth0Key, named] using auth.symm
    subst this
    exact ⟨rfl, rfl, rfl⟩
  · obtain ⟨publicKey, rfl⟩ := k.auth0Key_eq_ok identityProvider ing named auth
    obtain ⟨present, credited⟩ := made named
    simp [Gateway.withAuth0, Gateway.withConsumer, present, Gateway.withJWTCredential,
      Nat.pos_iff_ne_zero.mp credited]

end Configured

/-- What a path's configuration needs to go through: every plugin annotation decodes, every TLS
secret is there, and the identity provider's document gives a key. -/
def Configurable (world : World) (ing : Ingress) : Prop :=
  (k.decodePlugins ing ing.annotations).2 = none ∧ (certificatesFor world.cluster ing).2 = none ∧
    ∃ key, k.auth0Key world.identityProvider ing = .ok key

theorem run_configureApi_eq_ok_iff (world final : World) (ing : Ingress) (api : Api) :
    (k.configureApi ing (some api)).run World.answer world = (.ok (), final) ↔
      k.Configurable world ing ∧
        final = { world with
          gateway := k.configuredGateway world.cluster world.identityProvider ing api.uid
            world.gateway } := by
  simp only [configureApi, Prog.bind_eq, Prog.run_bind_eq_ok_iff, run_configurePluginsForAPI,
    run_tryConfigureCertificates, run_tryAutoConfigureAuth0, Configurable, configuredGateway,
    postCertificates]
  cases decoded : (k.decodePlugins ing ing.annotations).2 with
  | some err => simp
  | none =>
    cases certs : (certificatesFor world.cluster ing).2 with
    | some err => simp [certs]
    | none =>
      cases auth : k.auth0Key world.identityProvider ing <;> simp [certs, auth, Outcome.map, eq_comm]

/-- In the store, `Get` then `UpdateOrCreate` of a body without an id is `writeApi`, and what
comes back is the API written. -/
theorem run_upsertApi (world : World) (ing : Ingress) (body : Api) (fresh : body.uid = 0)
    {api : Option Api} (found : world.gateway.getApi body.name = api) :
    (k.upsertApi ing body api).run World.answer world =
      (k.configureApi ing (some (world.gateway.writtenApi body))).run World.answer
        { world with gateway := world.gateway.writeApi body } := by
  unfold upsertApi Gateway.writtenApi Gateway.writeApi
  subst found
  cases found : world.gateway.getApi body.name with
  | none =>
    simp [Prog.bind_eq, Prog.send_bind, Prog.run_call, World.answer_updateOrCreateApi,
      Gateway.updateOrCreateApi, fresh]
  | some api =>
    have mem := (world.gateway.getApi_mem found).1
    have pos := world.gateway.uid_pos api mem
    have present : ∃ other ∈ world.gateway.apis, other.uid = api.uid := ⟨api, mem, rfl⟩
    simp [Prog.bind_eq, Prog.send_bind, Prog.run_call, World.answer_updateOrCreateApi,
      Gateway.updateOrCreateApi, pos.ne', present]

/-- What a path's iteration needs to go through: the backend service takes the finalizer, and
the ingress configures. -/
def PathReady (ing : Ingress) (path : IngressRule × HTTPIngressPath) (world : World) : Prop :=
  (world.cluster.patchServiceFinalizer ing.ns path.2.backend.serviceName k.finalizer).1 = none ∧
    k.Configurable world ing

/-- The world after a path's iteration went through: the backend service patched, the API
written under the path's name, and configured. -/
def syncedPath (ing : Ingress) (path : IngressRule × HTTPIngressPath) (world : World) : World :=
  let body := k.apiBody ing path.1 path.2
  { world with
    cluster := (world.cluster.patchServiceFinalizer ing.ns path.2.backend.serviceName k.finalizer).2
    gateway := k.configuredGateway world.cluster world.identityProvider ing
      (world.gateway.writtenApi body).uid (world.gateway.writeApi body) }

@[simp] theorem syncedPath_cluster (ing : Ingress) (path : IngressRule × HTTPIngressPath)
    (world : World) : (k.syncedPath ing path world).cluster =
      (world.cluster.patchServiceFinalizer ing.ns path.2.backend.serviceName k.finalizer).2 := rfl

@[simp] theorem syncedPath_identityProvider (ing : Ingress) (path : IngressRule × HTTPIngressPath)
    (world : World) : (k.syncedPath ing path world).identityProvider = world.identityProvider := rfl

theorem syncedPath_getApi (ing : Ingress) (path : IngressRule × HTTPIngressPath) (world : World)
    (name : String) : (k.syncedPath ing path world).gateway.getApi name =
      (world.gateway.writeApi (k.apiBody ing path.1 path.2)).getApi name := by
  simp [syncedPath, Gateway.getApi]

theorem syncedPath_apiNames (ing : Ingress) (path : IngressRule × HTTPIngressPath) (world : World) :
    (k.syncedPath ing path world).gateway.apiNames =
      (world.gateway.writeApi (k.apiBody ing path.1 path.2)).apiNames := by
  simp [syncedPath, Gateway.apiNames]

/-- A path's iteration posts the certificates of the ingress's TLS entries. -/
theorem syncedPath_certificates (ing : Ingress) (path : IngressRule × HTTPIngressPath) (world : World) :
    (k.syncedPath ing path world).gateway.certificates =
      world.gateway.certificates ++ (certificatesFor world.cluster ing).1 := by
  simp [syncedPath, configuredGateway, Gateway.postCertificates]

theorem markedDirty_gateway (world : World) (ing : Ingress) (numRequeues : Nat) :
    (k.markedDirty world ing numRequeues).gateway = world.gateway := by
  unfold markedDirty; split_ifs <;> rfl

theorem markedDirty_secrets (world : World) (ing : Ingress) (numRequeues : Nat) :
    (k.markedDirty world ing numRequeues).cluster.secrets = world.cluster.secrets := by
  unfold markedDirty; split_ifs <;> simp

theorem markedDirty_services (world : World) (ing : Ingress) (numRequeues : Nat) :
    (k.markedDirty world ing numRequeues).cluster.services = world.cluster.services := by
  unfold markedDirty; split_ifs <;> simp

theorem run_syncPath_eq_ok_iff (ing : Ingress) (path : IngressRule × HTTPIngressPath)
    (world final : World) :
    (k.syncPath ing path.1 path.2).run World.answer world = (.ok (), final) ↔
      k.PathReady ing path world ∧ final = k.syncedPath ing path world := by
  obtain ⟨r, p⟩ := path
  simp only [syncPath, Prog.bind_eq, Prog.send_bind, Prog.run_call, World.answer_listServices]
  by_cases listed : world.cluster.services.any
      (fun svc => svc.name == p.backend.serviceName && svc.ns == ing.ns) = true
  · simp only [listed, Bool.not_true, Bool.false_eq_true, if_false, Prog.run_call,
      World.answer_patchServiceFinalizer]
    cases patched : (world.cluster.patchServiceFinalizer ing.ns p.backend.serviceName k.finalizer).1 with
    | some err => simp [PathReady, patched]
    | none =>
      have fresh : (k.apiBody ing r p).uid = 0 := rfl
      have secrets := certificatesFor_congr
        (world.cluster.patchServiceFinalizer_secrets ing.ns p.backend.serviceName k.finalizer) ing
      cases found : world.gateway.getApi (k.apiBody ing r p).name with
      | none =>
        simp only [Prog.run_call, World.answer_getApi, found, Option.elim_none, ne_eq,
          not_true_eq_false, if_false]
        rw [run_upsertApi k { world with cluster := (world.cluster.patchServiceFinalizer ing.ns
          p.backend.serviceName k.finalizer).2 } ing _ fresh found, run_configureApi_eq_ok_iff]
        simp [PathReady, Configurable, syncedPath, configuredGateway, patched, secrets]
      | some api =>
        simp only [Prog.run_call, World.answer_getApi, found, Option.elim_some]
        rw [run_upsertApi k { world with cluster := (world.cluster.patchServiceFinalizer ing.ns
          p.backend.serviceName k.finalizer).2 } ing _ fresh found, run_configureApi_eq_ok_iff]
        simp [PathReady, Configurable, syncedPath, configuredGateway, patched, secrets]
  · simp only [listed, Bool.not_false, if_true, Prog.run_call, Prog.run_fail]
    refine iff_of_false (by simp) fun ⟨⟨patched, _⟩, _⟩ => listed ?_
    obtain ⟨svc, found⟩ := Cluster.findService_of_patchServiceFinalizer patched
    obtain ⟨sameNs, sameName⟩ := Cluster.findService_key found
    exact List.any_eq_true.mpr ⟨svc, List.mem_of_find?_eq_some found, by simp [sameNs, sameName]⟩

/-! ### The whole sync -/

/-- **`syncIngress` against the store returns nil exactly when** the key has vanished, or every
path's iteration is ready in the world the ones before it leave, from the world after the dirty
mark; it then leaves the world after all of them. -/
theorem run_syncIngress_eq_ok_iff (world final : World) (key : String) (numRequeues : Nat) :
    (k.syncIngress key numRequeues).run World.answer world = (.ok (), final) ↔
      match world.cluster.getIngress key with
      | none => final = world
      | some ing =>
        Prog.AllReady (k.PathReady ing) (k.syncedPath ing) (ingressPaths ing)
            (k.markedDirty world ing numRequeues) ∧
          final = Prog.afterAll (k.syncedPath ing) (ingressPaths ing)
            (k.markedDirty world ing numRequeues) := by
  rw [run_syncIngress]
  cases world.cluster.getIngress key with
  | none => simp [eq_comm]
  | some ing =>
    exact Prog.run_forEach_eq_ok_iff World.answer (k.run_syncPath_eq_ok_iff ing) _ _ _

/-- **The first path that fails ends the sync**: with the paths before it ready, `syncIngress`
returns what that path's iteration returns, from the world the ones before it leave. -/
theorem run_syncIngress_of_failing_path (world : World) (key : String) (numRequeues : Nat)
    {ing : Ingress} (found : world.cluster.getIngress key = some ing)
    {before after : List (IngressRule × HTTPIngressPath)} {path : IngressRule × HTTPIngressPath}
    (split : ingressPaths ing = before ++ path :: after)
    (ready : Prog.AllReady (k.PathReady ing) (k.syncedPath ing) before (k.markedDirty world ing numRequeues))
    {err : String} {final : World}
    (fails : (k.syncPath ing path.1 path.2).run World.answer
      (Prog.afterAll (k.syncedPath ing) before (k.markedDirty world ing numRequeues)) = (.error err, final)) :
    (k.syncIngress key numRequeues).run World.answer world = (.error err, final) := by
  have synced := (Prog.run_forEach_eq_ok_iff World.answer (k.run_syncPath_eq_ok_iff ing) before _ _).mpr
    ⟨ready, rfl⟩
  rw [run_syncIngress, found]
  dsimp only
  rw [split, Prog.forEach_append, Prog.run_bind_of_ok _ synced, Prog.forEach_cons, Prog.run_bind, fails]

/-- No path's iteration changes a service's namespace or name. -/
theorem afterAll_syncedPath_serviceKeys (ing : Ingress) : ∀ (paths : List (IngressRule × HTTPIngressPath))
    (world : World), (Prog.afterAll (k.syncedPath ing) paths world).cluster.services.map
      (fun svc => (svc.ns, svc.name)) = world.cluster.services.map fun svc => (svc.ns, svc.name)
  | [], _ => rfl
  | path :: rest, world => by
    rw [Prog.afterAll_cons, afterAll_syncedPath_serviceKeys ing rest, syncedPath_cluster,
      Cluster.patchServiceFinalizer_serviceKeys]

end KongController

end KongIngress
