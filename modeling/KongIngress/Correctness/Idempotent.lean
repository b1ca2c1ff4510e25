/-
**A second sync changes nothing.**

Against a world that answers from its state, with no other writer, a second `syncIngress` of a
key from where a first one returned nil returns nil, and leaves the gateway's APIs (names, ids,
creation stamps and every field), plugins, consumers and JWT credentials as the first left them;
only certificates are posted again.

* The second sync reads the ingress the first left: the same but for the dirty mark
  (`Cluster.SameButDirty`), which no path's iteration reads (`syncedPath_sameButDirty`).
* Every path's service already has the finalizer, the ingress still configures, and every write
  finds its name, so it replaces the first API of that name under its id
  (`Gateway.writeApi_rewritten`).
* After the last write, every first API of a name holds the last body of that name again, which is
  what the first sync left (`Gateway.map_rewritten_of_holds`).
-/

import KongIngress.Correctness.Established

namespace KongIngress

/-! ### The ingress the second sync reads -/

/-! ### Writing again over what was written -/

namespace Gateway

variable (gateway : Gateway)

/-- An API of the gateway once a list of bodies has been written over it by name: the first API
of a name holds the last body of that name under its own id and creation stamp; the others are
as they were. -/
def rewritten (bodies : List Api) (api : Api) : Api :=
  if gateway.getApi api.name = some api then
    match bodies.reverse.find? (·.name == api.name) with
    | some body => { body with uid := api.uid, createdAt := api.createdAt }
    | none => api
  else api

theorem rewritten_keys (bodies : List Api) (api : Api) :
    (gateway.rewritten bodies api).name = api.name ∧ (gateway.rewritten bodies api).uid = api.uid ∧
      (gateway.rewritten bodies api).createdAt = api.createdAt := by
  unfold rewritten
  split_ifs
  · split
    · rename_i body found
      exact ⟨by simpa using List.find?_some found, rfl, rfl⟩
    · exact ⟨rfl, rfl, rfl⟩
  · exact ⟨rfl, rfl, rfl⟩

@[simp] theorem rewritten_nil : gateway.rewritten [] = id := by
  funext api
  unfold rewritten
  split_ifs <;> rfl

/-- **A write of a name the gateway has, over its rewritten APIs**, replaces the first API of
that name under its id: the rewritten APIs now count the body. -/
theorem writeApi_rewritten {later : Gateway} {bodies : List Api}
    (rewrittenSoFar : later.apis = gateway.apis.map (gateway.rewritten bodies)) {body api : Api}
    (found : gateway.getApi body.name = some api) :
    (later.writeApi body).apis = gateway.apis.map (gateway.rewritten (bodies ++ [body])) ∧
      (later.writtenApi body).uid = api.uid := by
  obtain ⟨mem, named⟩ := gateway.getApi_mem found
  have laterFound : later.getApi body.name = some (gateway.rewritten bodies api) := by
    simp only [getApi, rewrittenSoFar]
    rw [find?_map_of_test fun other _ => by rw [(gateway.rewritten_keys bodies other).1],
      show gateway.apis.find? _ = some api from found]
    rfl
  obtain ⟨_, sameUid, sameStamp⟩ := gateway.rewritten_keys bodies api
  unfold writeApi writtenApi
  rw [laterFound]
  refine ⟨?_, sameUid⟩
  simp only [replaceApi_apis, rewrittenSoFar, List.map_map]
  refine List.map_congr_left fun other member => ?_
  simp only [Function.comp_apply, sameUid, sameStamp, (gateway.rewritten_keys bodies other).2.1]
  split_ifs with same
  · obtain rfl := gateway.eq_of_uid_eq member mem same
    simp [rewritten, named, found]
  · unfold rewritten
    split_ifs with first
    · have differ : body.name ≠ other.name := fun sameName => by
        rw [sameName, first] at found
        cases found
        exact same rfl
      simp [differ]
    · rfl

/-- **When every first API of a name holds the last body of its name**, rewriting changes
nothing. -/
theorem map_rewritten_of_holds {bodies : List Api}
    (holds : ∀ api ∈ gateway.apis, gateway.getApi api.name = some api → ∀ body,
      bodies.reverse.find? (·.name == api.name) = some body →
        api = { body with uid := api.uid, createdAt := api.createdAt }) :
    gateway.apis.map (gateway.rewritten bodies) = gateway.apis := by
  refine (List.map_congr_left fun api member => ?_).trans (List.map_id _)
  unfold rewritten
  split_ifs with first
  · split
    · rename_i body last
      exact (holds api member first body last).symm
    · rfl
  · rfl

/-- The parts of a gateway a second sync must leave as they were: all but the certificates. -/
def SameButCertificates (other : Gateway) : Prop :=
  gateway.apis = other.apis ∧ gateway.plugins = other.plugins ∧ gateway.consumers = other.consumers ∧
    gateway.jwtCredentials = other.jwtCredentials

end Gateway

namespace KongController

variable (k : KongController) {ing ing' : Ingress}

/-- The dirty mark is no plugin annotation. -/
theorem decodePlugins_filter_dirty (ing : Ingress) (entries : List (String × String)) :
    k.decodePlugins ing (entries.filter (·.1 != Cluster.dirtyAnnotation)) = k.decodePlugins ing entries := by
  induction entries with
  | nil => rfl
  | cons entry rest ih =>
    by_cases dirty : entry.1 = Cluster.dirtyAnnotation
    · have unprefixed : hasPrefix Cluster.dirtyAnnotation pluginPrefix = false := by decide
      simp [List.filter_cons, dirty, decodePlugins, unprefixed, ih]
    · simp [List.filter_cons, dirty, decodePlugins, ih]

theorem decodePlugins_sameButDirty (same : Cluster.SameButDirty ing ing') :
    k.decodePlugins ing' ing'.annotations = k.decodePlugins ing ing.annotations := by
  have decoded : ∀ a value, k.decodePlugin ing' a value = k.decodePlugin ing a value := fun _ _ => by
    simp only [decodePlugin, same.1, same.2.1]
  have alike : ∀ entries, k.decodePlugins ing' entries = k.decodePlugins ing entries := by
    intro entries
    induction entries with
    | nil => rfl
    | cons entry rest ih => simp only [decodePlugins, decoded, ih]
  rw [← decodePlugins_filter_dirty k ing' ing'.annotations, same.2.2.2, decodePlugins_filter_dirty,
    alike]

theorem certificatesFor_sameButDirty (same : Cluster.SameButDirty ing ing') (cluster : Cluster) :
    certificatesFor cluster ing' = certificatesFor cluster ing := by
  have piece : certificatePiece cluster ing' = certificatePiece cluster ing := by
    funext t h
    simp only [certificatePiece, certificateFor, same.1]
  have perEntry : tlsCertificates cluster ing' = tlsCertificates cluster ing := by
    funext t
    simp only [tlsCertificates, piece]
  simp only [certificatesFor, perEntry, same.2.2.1]

theorem auth0Key_sameButDirty (same : Cluster.SameButDirty ing ing')
    (identityProvider : String → Except String (List UInt8)) :
    k.auth0Key identityProvider ing' = k.auth0Key identityProvider ing := by
  simp only [auth0Key, same.annotation (by decide : jwtAuth0DomainAnnotation ≠ Cluster.dirtyAnnotation)]

theorem configurable_sameButDirty (same : Cluster.SameButDirty ing ing') (world : World) :
    k.Configurable world ing' ↔ k.Configurable world ing := by
  simp only [Configurable, k.decodePlugins_sameButDirty same, certificatesFor_sameButDirty same,
    k.auth0Key_sameButDirty same]

theorem pathReady_sameButDirty (same : Cluster.SameButDirty ing ing') :
    k.PathReady ing' = k.PathReady ing := by
  funext path world
  simp only [PathReady, same.1, k.configurable_sameButDirty same]

/-- **No path's iteration reads the dirty mark.** -/
theorem syncedPath_sameButDirty (same : Cluster.SameButDirty ing ing') :
    k.syncedPath ing' = k.syncedPath ing := by
  have body : ∀ r p, k.apiBody ing' r p = k.apiBody ing r p := fun _ _ => by
    simp only [apiBody, same.1,
      same.annotation (by decide : "ingress.kubernetes.io/strip-uri" ≠ Cluster.dirtyAnnotation),
      same.annotation (by decide : "ingress.kubernetes.io/preserve-host" ≠ Cluster.dirtyAnnotation)]
  funext path world
  simp only [syncedPath, configuredGateway, pluginsCreated, same.1, body,
    k.decodePlugins_sameButDirty same, certificatesFor_sameButDirty same, k.auth0Key_sameButDirty same,
    same.annotation (by decide : jwtAuth0DomainAnnotation ≠ Cluster.dirtyAnnotation)]

/-! ### The second sync -/

variable (ing)

theorem configurable_syncedPath (path : IngressRule × HTTPIngressPath) (world : World) :
    k.Configurable (k.syncedPath ing path world) ing ↔ k.Configurable world ing := by
  rw [Configurable, Configurable, syncedPath_identityProvider, syncedPath_cluster,
    certificatesFor_congr (world.cluster.patchServiceFinalizer_secrets _ _ _)]

theorem configurable_markedDirty (world : World) (marked : Ingress) (numRequeues : Nat) :
    k.Configurable (k.markedDirty world marked numRequeues) ing ↔ k.Configurable world ing := by
  unfold markedDirty
  split_ifs
  · rw [Configurable, Configurable, certificatesFor_congr (world.cluster.patchIngressDirty_secrets _ _)]
  · rfl

theorem getIngress_markedDirty {world : World} {key : String} (found : world.cluster.getIngress key = some ing)
    (numRequeues : Nat) : ∃ ing', (k.markedDirty world ing numRequeues).cluster.getIngress key = some ing' ∧
      Cluster.SameButDirty ing ing' := by
  unfold markedDirty
  split_ifs
  · exact world.cluster.getIngress_patchIngressDirty found
  · exact ⟨ing, found, .refl ing⟩

/-- What the second sync keeps, against the gateway `first` the first sync left: the paths'
services with the finalizer, the ingress configurable, the APIs the first's with the bodies of
the paths done so far written over them, and the first's plugins, consumers and credentials. -/
structure Resynced (paths : List (IngressRule × HTTPIngressPath)) (first : Gateway)
    (done : List (IngressRule × HTTPIngressPath)) (world : World) : Prop where
  finalized : ∀ path ∈ paths,
    world.cluster.HasFinalizer ing.ns path.2.backend.serviceName k.finalizer
  configurable : paths ≠ [] → k.Configurable world ing
  apis : world.gateway.apis = first.apis.map (first.rewritten (k.apiBodies ing done))
  plugins : world.gateway.plugins = first.plugins
  consumers : world.gateway.consumers = first.consumers
  jwtCredentials : world.gateway.jwtCredentials = first.jwtCredentials

/-- **Each path of the second sync is ready and keeps what it keeps**, given what the first
sync established. -/
theorem Resynced.step {paths : List (IngressRule × HTTPIngressPath)} {firstWorld : World}
    (firstSynced : k.Synced ing paths firstWorld) {done rest : List (IngressRule × HTTPIngressPath)}
    {path : IngressRule × HTTPIngressPath} {world : World} (whole : done ++ path :: rest = paths)
    (holds : k.Resynced ing paths firstWorld.gateway done world) :
    k.PathReady ing path world ∧
      k.Resynced ing paths firstWorld.gateway (done ++ [path]) (k.syncedPath ing path world) := by
  have member : path ∈ paths := whole ▸ by simp
  have configurable := holds.configurable (List.ne_nil_of_mem member)
  obtain ⟨_, _, key, auth⟩ := holds.configurable (List.ne_nil_of_mem member)
  obtain ⟨api, _, found, _, _, attached⟩ := firstSynced.holds path member
  obtain ⟨apis, uid⟩ := Gateway.writeApi_rewritten firstWorld.gateway holds.apis found
  have fromFirst : firstWorld.gateway.GrowsInto (world.gateway.writeApi (k.apiBody ing path.1 path.2)) :=
    Gateway.growsInto_of_eq (by simp [holds.plugins]) (by simp [holds.consumers])
      (by simp [holds.jwtCredentials])
  obtain ⟨plugins, consumers, jwtCredentials⟩ := k.configuredGateway_settled world.cluster
    world.identityProvider ing _ _ auth (uid ▸ attached.grows ing fromFirst)
    ((firstSynced.consumer (List.ne_nil_of_mem member)).grows ing fromFirst)
  refine ⟨⟨(world.cluster.patchServiceFinalizer_of_hasFinalizer (holds.finalized path member)) ▸ rfl,
    configurable⟩, fun other member' => (holds.finalized other member').patchServiceFinalizer _ _ _,
    fun _ => (k.configurable_syncedPath ing path world).mpr configurable, ?_, ?_, ?_, ?_⟩
  · rw [show k.apiBodies ing (done ++ [path]) = k.apiBodies ing done ++ [k.apiBody ing path.1 path.2]
      by simp [apiBodies], ← apis]
    simp [syncedPath]
  · simp [syncedPath, plugins, holds.plugins]
  · simp [syncedPath, consumers, holds.consumers]
  · simp [syncedPath, jwtCredentials, holds.jwtCredentials]

variable {ing}

/-- **A second sync from where a first one returned nil returns nil**, and changes no API
(names, ids, creation stamps, fields), plugin, consumer or JWT credential. -/
theorem syncIngress_idempotent (world once : World) (key : String) (numRequeues again : Nat)
    (first : (k.syncIngress key numRequeues).run World.answer world = (.ok (), once)) :
    ((k.syncIngress key again).run World.answer once).1 = .ok () ∧
      ((k.syncIngress key again).run World.answer once).2.gateway.SameButCertificates
        once.gateway := by
  have whole := (k.run_syncIngress_eq_ok_iff world once key numRequeues).mp first
  cases found : world.cluster.getIngress key with
  | none =>
    simp only [found] at whole
    subst whole
    rw [run_syncIngress, found]
    exact ⟨rfl, rfl, rfl, rfl, rfl⟩
  | some ing =>
    simp only [found] at whole
    obtain ⟨ready, rfl⟩ := whole
    set paths := ingressPaths ing
    set firstWorld := Prog.afterAll (k.syncedPath ing) paths (k.markedDirty world ing numRequeues)
    have firstSynced := k.synced_afterAll ing ready
    have firstConfigurable : paths ≠ [] → k.Configurable firstWorld ing := fun nonempty => by
      obtain ⟨path, rest, split⟩ := List.exists_cons_of_ne_nil nonempty
      have atStart := (split ▸ ready : Prog.AllReady _ _ (path :: rest) _).1.2
      exact Prog.AllReady.keeps (fun world => k.Configurable world ing)
        (fun path world _ => (k.configurable_syncedPath ing path world).mpr) ready atStart
    obtain ⟨marked, markedFound, sameMarked⟩ := k.getIngress_markedDirty ing found numRequeues
    have refound : firstWorld.cluster.getIngress key = some marked :=
      Prog.afterAll_keeps (k.syncedPath ing) (fun world => world.cluster.getIngress key = some marked)
        (fun path world same => by simpa using same) paths markedFound
    have loop := Prog.run_forEach_eq_ok_iff World.answer (k.run_syncPath_eq_ok_iff marked) paths
      (k.markedDirty firstWorld marked again)
    rw [k.pathReady_sameButDirty sameMarked, k.syncedPath_sameButDirty sameMarked] at loop
    have start : k.Resynced ing paths firstWorld.gateway [] (k.markedDirty firstWorld marked again) := by
      refine ⟨fun path member => ?_, fun nonempty =>
        (k.configurable_markedDirty ing _ _ _).mpr (firstConfigurable nonempty), ?_, ?_, ?_, ?_⟩
      · have holds := firstSynced.finalized path member
        unfold markedDirty
        split_ifs
        · exact holds.patchIngressDirty _ _
        · exact holds
      all_goals simp [markedDirty_gateway, apiBodies]
    obtain ⟨allReady, final⟩ := Prog.AllReady.of_invariant
      (fun _ _ _ _ whole holds => Resynced.step k ing firstSynced whole holds) (List.nil_append paths)
      start
    rw [run_syncIngress, refound]
    dsimp only
    rw [ingressPaths_sameButDirty sameMarked, (loop _).mpr ⟨allReady, rfl⟩]
    refine ⟨rfl, ?_, final.plugins, final.consumers, final.jwtCredentials⟩
    rw [final.apis]
    refine firstWorld.gateway.map_rewritten_of_holds fun api member first body last => ?_
    obtain ⟨path, pathIn, rfl⟩ :=
      List.mem_map.mp (List.mem_reverse.mp (List.mem_of_find?_eq_some last))
    have named : (k.apiBody ing path.1 path.2).name = api.name := by simpa using List.find?_some last
    obtain ⟨api', body', found', last', shaped, _⟩ := firstSynced.holds path pathIn
    rw [named, first] at found'
    rw [named, lastBody, last] at last'
    cases found'
    cases last'
    exact shaped

end KongController

theorem syncIngress_idempotent_web :
    (KongController.standard.syncIngress "default/web" 0).run World.answer (webWorld Gateway.empty) =
        (.ok (), ((KongController.standard.syncIngress "default/web" 0).run World.answer
          (webWorld Gateway.empty)).2) ∧
      ((KongController.standard.syncIngress "default/web" 0).run World.answer
          ((KongController.standard.syncIngress "default/web" 0).run World.answer
            (webWorld Gateway.empty)).2).1 = .ok () ∧
      ((KongController.standard.syncIngress "default/web" 0).run World.answer
          ((KongController.standard.syncIngress "default/web" 0).run World.answer
            (webWorld Gateway.empty)).2).2.gateway.SameButCertificates
        ((KongController.standard.syncIngress "default/web" 0).run World.answer
          (webWorld Gateway.empty)).2.gateway :=
  have first : (KongController.standard.syncIngress "default/web" 0).run World.answer
      (webWorld Gateway.empty) = (.ok (), ((KongController.standard.syncIngress "default/web" 0).run
        World.answer (webWorld Gateway.empty)).2) := Prod.ext (by decide) rfl
  ⟨first, KongController.standard.syncIngress_idempotent _ _ "default/web" 0 0 first⟩

end KongIngress
