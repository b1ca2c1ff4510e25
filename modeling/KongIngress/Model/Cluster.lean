/-
**The orchestrator: its objects, its writes, and its watch stream.**

`Cluster` is the orchestrator's state as the controller's informers see it: the informer caches
are in step with it, and every write appends the change to `watch`, the stream the informers
deliver to the controller's event handlers.

* The controller's own writes: `patchServiceFinalizer` (the strategic merge patch that adds the
  finalizer; refused on a service that is being deleted and lacks it), `clearServiceFinalizers`
  (the merge patch `finalizers: []`; a service being deleted is then removed) and
  `patchIngressDirty`.
* The users' writes: creating, updating and deleting ingresses and services, and writing and
  deleting secrets. Deleting a service with finalizers only stamps it; the orchestrator removes a
  service only once it is stamped and its finalizer list is empty. No secret write is reported to
  the controller, which has no informer on secrets.
-/

import KongIngress.Model.Objects

namespace KongIngress

/-- A change of the orchestrator's objects, as the informers deliver it. -/
inductive WatchEvent where
  | ingressAdded (ing : Ingress)
  | ingressUpdated (old new : Ingress)
  | ingressDeleted (ing : Ingress)
  | serviceAdded (svc : Service)
  | serviceUpdated (old new : Service)
  | serviceDeleted (svc : Service)
  deriving DecidableEq, Repr

/-- An event the recorder publishes about an ingress. -/
structure RecordedEvent where
  ns : String
  name : String
  eventType : String
  reason : String
  message : String
  deriving DecidableEq, Repr

/-- The orchestrator's objects, its recorded events, the last resource version it handed out,
and the changes not yet delivered to the informers. -/
structure Cluster where
  ingresses : List Ingress
  services : List Service
  secrets : List Secret
  events : List RecordedEvent
  revision : Nat
  watch : List WatchEvent

namespace Cluster

/-- The orchestrator with no objects. -/
def empty : Cluster := ⟨[], [], [], [], 0, []⟩

/-! ### Reads -/

/-- `GetByKey` on the ingress store. -/
def getIngress (cluster : Cluster) (key : String) : Option Ingress :=
  cluster.ingresses.find? fun ing => keyFunc ing.ns ing.name == key

/-- `GetByKey` on the service store. -/
def getService (cluster : Cluster) (key : String) : Option Service :=
  cluster.services.find? fun svc => keyFunc svc.ns svc.name == key

/-- The service of a namespace and a name. -/
def findService (cluster : Cluster) (ns name : String) : Option Service :=
  cluster.services.find? fun svc => svc.ns == ns && svc.name == name

/-- The ingress of a namespace and a name. -/
def findIngress (cluster : Cluster) (ns name : String) : Option Ingress :=
  cluster.ingresses.find? fun ing => ing.ns == ns && ing.name == name

/-- `Secrets(ns).Get(name)`. -/
def getSecret (cluster : Cluster) (ns name : String) : Option Secret :=
  cluster.secrets.find? fun secret => secret.ns == ns && secret.name == name

/-! ### Writing one object back -/

/-- Store a changed service under a new resource version, and report the change. -/
def putService (cluster : Cluster) (old new : Service) : Cluster :=
  let stamped := { new with resourceVersion := cluster.revision + 1 }
  { cluster with
    services := cluster.services.map fun svc => if svc = old then stamped else svc
    revision := cluster.revision + 1
    watch := cluster.watch ++ [.serviceUpdated old stamped] }

/-- Remove a service, and report it. -/
def removeService (cluster : Cluster) (svc : Service) : Cluster :=
  { cluster with
    services := cluster.services.filter (· ≠ svc)
    watch := cluster.watch ++ [.serviceDeleted svc] }

/-- Store a changed ingress under a new resource version, and report the change. -/
def putIngress (cluster : Cluster) (old new : Ingress) : Cluster :=
  let stamped := { new with resourceVersion := cluster.revision + 1 }
  { cluster with
    ingresses := cluster.ingresses.map fun ing => if ing = old then stamped else ing
    revision := cluster.revision + 1
    watch := cluster.watch ++ [.ingressUpdated old stamped] }

/-! ### The controller's writes -/

/-- The orchestrator's `NotFound` error. -/
def notFound (resource name : String) : String := s!"{resource} {repr name} not found"

/-- The strategic merge patch `finalizers: [finalizer]` on a service: a no-op when the finalizer
is there, refused when the service is being deleted, else the finalizer is added. -/
def patchServiceFinalizer (cluster : Cluster) (ns name finalizer : String) :
    Option String × Cluster :=
  match cluster.findService ns name with
  | none => (some (notFound "services" name), cluster)
  | some svc =>
    if finalizer ∈ svc.finalizers then (none, cluster)
    else if svc.deletionTimestamp.isSome then
      (some "Forbidden: no new finalizers can be added if the object is being deleted", cluster)
    else (none, cluster.putService svc { svc with finalizers := svc.finalizers ++ [finalizer] })

/-- The merge patch `finalizers: []` on a service: a service being deleted is then removed. -/
def clearServiceFinalizers (cluster : Cluster) (ns name : String) : Option String × Cluster :=
  match cluster.findService ns name with
  | none => (some (notFound "services" name), cluster)
  | some svc =>
    if svc.finalizers = [] then (none, cluster)
    else if svc.deletionTimestamp.isSome then (none, cluster.removeService svc)
    else (none, cluster.putService svc { svc with finalizers := [] })

/-- The dirty annotation the controller sets. -/
def dirtyAnnotation : String := "kolihub.io/dirty"

/-- The strategic merge patch `annotations: {kolihub.io/dirty: "true"}` on an ingress. -/
def patchIngressDirty (cluster : Cluster) (ns name : String) : Option String × Cluster :=
  match cluster.findIngress ns name with
  | none => (some (notFound "ingresses" name), cluster)
  | some ing =>
    if ing.annotation dirtyAnnotation = "true" then (none, cluster)
    else
      (none, cluster.putIngress ing
        { ing with
          annotations := setAnnotationEntry ing.annotations dirtyAnnotation "true"
          annotations_nodup := setAnnotationEntry_nodup ing.annotations_nodup })

/-! ### The users' writes -/

/-- Creating an ingress under a key no ingress has. -/
def createIngress (cluster : Cluster) (ing : Ingress) : Cluster :=
  match cluster.getIngress (keyFunc ing.ns ing.name) with
  | some _ => cluster
  | none =>
    let stamped := { ing with resourceVersion := cluster.revision + 1 }
    { cluster with
      ingresses := cluster.ingresses ++ [stamped]
      revision := cluster.revision + 1
      watch := cluster.watch ++ [.ingressAdded stamped] }

/-- Replacing an ingress by a new version of it. -/
def updateIngress (cluster : Cluster) (ing : Ingress) : Cluster :=
  match cluster.findIngress ing.ns ing.name with
  | none => cluster
  | some old => cluster.putIngress old ing

/-- Deleting an ingress. -/
def deleteIngress (cluster : Cluster) (ns name : String) : Cluster :=
  match cluster.findIngress ns name with
  | none => cluster
  | some old =>
    { cluster with
      ingresses := cluster.ingresses.filter (· ≠ old)
      watch := cluster.watch ++ [.ingressDeleted old] }

/-- Creating a service under a free key; it is not being deleted. -/
def createService (cluster : Cluster) (svc : Service) : Cluster :=
  match cluster.findService svc.ns svc.name with
  | some _ => cluster
  | none =>
    let stamped := { svc with resourceVersion := cluster.revision + 1, deletionTimestamp := none }
    { cluster with
      services := cluster.services ++ [stamped]
      revision := cluster.revision + 1
      watch := cluster.watch ++ [.serviceAdded stamped] }

/-- A user's update of a service: its ports change, its metadata does not. -/
def updateService (cluster : Cluster) (ns name : String) (ports : List ServicePort) : Cluster :=
  match cluster.findService ns name with
  | none => cluster
  | some old => cluster.putService old { old with ports := ports }

/-- Deleting a service: removed at once without finalizers, else stamped for deletion. -/
def deleteService (cluster : Cluster) (ns name : String) : Cluster :=
  match cluster.findService ns name with
  | none => cluster
  | some old =>
    if old.finalizers = [] then cluster.removeService old
    else if old.deletionTimestamp.isSome then cluster
    else cluster.putService old { old with deletionTimestamp := some (cluster.revision + 1) }

/-- Creating or replacing a secret. The controller has no informer on secrets: no change is
reported to it. -/
def putSecret (cluster : Cluster) (secret : Secret) : Cluster :=
  { cluster with
    secrets := cluster.secrets.filter (fun other => !(other.ns == secret.ns && other.name == secret.name)) ++
      [secret] }

/-- Deleting a secret. -/
def deleteSecret (cluster : Cluster) (ns name : String) : Cluster :=
  { cluster with secrets := cluster.secrets.filter fun secret => !(secret.ns == ns && secret.name == name) }

/-! ### What each user's write does -/

variable (cluster : Cluster)

theorem createIngress_cases (ing : Ingress) :
    cluster.createIngress ing = cluster ∨
      cluster.getIngress (keyFunc ing.ns ing.name) = none ∧
        cluster.createIngress ing = { cluster with
          ingresses := cluster.ingresses ++ [{ ing with resourceVersion := cluster.revision + 1 }]
          revision := cluster.revision + 1
          watch := cluster.watch ++ [.ingressAdded { ing with resourceVersion := cluster.revision + 1 }] } := by
  unfold createIngress
  split
  · exact .inl rfl
  · exact .inr ⟨‹_›, rfl⟩

theorem updateIngress_cases (ing : Ingress) :
    cluster.updateIngress ing = cluster ∨
      ∃ old, cluster.findIngress ing.ns ing.name = some old ∧
        cluster.updateIngress ing = cluster.putIngress old ing := by
  unfold updateIngress
  split
  · exact .inl rfl
  · exact .inr ⟨_, ‹_›, rfl⟩

theorem deleteIngress_cases (ns name : String) :
    cluster.deleteIngress ns name = cluster ∨
      ∃ old, cluster.deleteIngress ns name = { cluster with
        ingresses := cluster.ingresses.filter (· ≠ old)
        watch := cluster.watch ++ [.ingressDeleted old] } := by
  unfold deleteIngress
  split
  · exact .inl rfl
  · exact .inr ⟨_, rfl⟩

theorem createService_cases (svc : Service) :
    cluster.createService svc = cluster ∨
      cluster.createService svc = { cluster with
        services := cluster.services ++
          [{ svc with resourceVersion := cluster.revision + 1, deletionTimestamp := none }]
        revision := cluster.revision + 1
        watch := cluster.watch ++
          [.serviceAdded { svc with resourceVersion := cluster.revision + 1, deletionTimestamp := none }] } := by
  unfold createService
  split
  · exact .inl rfl
  · exact .inr rfl

theorem updateService_cases (ns name : String) (ports : List ServicePort) :
    cluster.updateService ns name ports = cluster ∨
      ∃ old, cluster.updateService ns name ports = cluster.putService old { old with ports := ports } := by
  unfold updateService
  split
  · exact .inl rfl
  · exact .inr ⟨_, rfl⟩

@[simp] theorem createService_ingresses (svc : Service) :
    (cluster.createService svc).ingresses = cluster.ingresses := by
  unfold createService; split <;> rfl

@[simp] theorem updateService_ingresses (ns name : String) (ports : List ServicePort) :
    (cluster.updateService ns name ports).ingresses = cluster.ingresses := by
  unfold updateService; split <;> rfl

@[simp] theorem putSecret_ingresses (secret : Secret) : (cluster.putSecret secret).ingresses = cluster.ingresses :=
  rfl

@[simp] theorem deleteSecret_ingresses (ns name : String) :
    (cluster.deleteSecret ns name).ingresses = cluster.ingresses := rfl

@[simp] theorem deleteService_ingresses (ns name : String) :
    (cluster.deleteService ns name).ingresses = cluster.ingresses := by
  unfold deleteService; split <;> (try split_ifs) <;> rfl

/-! ### What the controller's writes keep -/

/-- The service of a namespace and a name exists and carries a finalizer. -/
def HasFinalizer (cluster : Cluster) (ns name finalizer : String) : Prop :=
  ∃ svc, cluster.findService ns name = some svc ∧ finalizer ∈ svc.finalizers

variable {cluster}

theorem findService_key {ns name : String} {svc : Service}
    (found : cluster.findService ns name = some svc) : svc.ns = ns ∧ svc.name = name := by
  simpa [findService] using List.find?_some found

/-- Writing back the first service of a key under the same key: that key finds the new version,
every other key finds what it found. -/
theorem findService_putService {old : Service}
    (found : cluster.findService old.ns old.name = some old) (new : Service) (sameNs : new.ns = old.ns)
    (sameName : new.name = old.name) (ns name : String) :
    (cluster.putService old new).findService ns name =
      if ns = old.ns ∧ name = old.name then some { new with resourceVersion := cluster.revision + 1 }
      else cluster.findService ns name := by
  simp only [findService, putService]
  rw [find?_map_of_test fun svc _ => by split_ifs with same <;> simp [same, sameNs, sameName]]
  split_ifs with key
  · obtain ⟨rfl, rfl⟩ := key
    simp [show cluster.services.find? _ = some old from found]
  · cases other : cluster.services.find? fun svc => svc.ns == ns && svc.name == name with
    | none => rfl
    | some svc =>
      obtain ⟨sameNs', sameName'⟩ := findService_key other
      have differ : svc ≠ old := by
        rintro rfl
        exact key ⟨sameNs'.symm, sameName'.symm⟩
      simp [differ]

@[simp] theorem patchServiceFinalizer_secrets (ns name finalizer : String) :
    (cluster.patchServiceFinalizer ns name finalizer).2.secrets = cluster.secrets := by
  unfold patchServiceFinalizer; split <;> (try split_ifs) <;> rfl

@[simp] theorem patchServiceFinalizer_ingresses (ns name finalizer : String) :
    (cluster.patchServiceFinalizer ns name finalizer).2.ingresses = cluster.ingresses := by
  unfold patchServiceFinalizer; split <;> (try split_ifs) <;> rfl

/-- The finalizer patch changes no service's namespace or name. -/
theorem patchServiceFinalizer_serviceKeys (ns name finalizer : String) :
    (cluster.patchServiceFinalizer ns name finalizer).2.services.map (fun svc => (svc.ns, svc.name)) =
      cluster.services.map fun svc => (svc.ns, svc.name) := by
  unfold patchServiceFinalizer
  split
  · rfl
  · split_ifs
    · rfl
    · rfl
    · simp only [putService, List.map_map, Function.comp_def]
      refine List.map_congr_left fun svc _ => ?_
      split_ifs with same <;> simp [same]

@[simp] theorem patchIngressDirty_services (ns name : String) :
    (cluster.patchIngressDirty ns name).2.services = cluster.services := by
  unfold patchIngressDirty; split <;> (try split_ifs) <;> rfl

@[simp] theorem patchIngressDirty_secrets (ns name : String) :
    (cluster.patchIngressDirty ns name).2.secrets = cluster.secrets := by
  unfold patchIngressDirty; split <;> (try split_ifs) <;> rfl

/-- A patch that goes through names a service of the cache. -/
theorem findService_of_patchServiceFinalizer {ns name finalizer : String}
    (patched : (cluster.patchServiceFinalizer ns name finalizer).1 = none) :
    ∃ svc, cluster.findService ns name = some svc := by
  unfold patchServiceFinalizer at patched
  split at patched
  · cases patched
  · exact ⟨_, ‹_›⟩

/-- A service with the finalizer is left as it is. -/
theorem patchServiceFinalizer_of_hasFinalizer {ns name finalizer : String}
    (holds : cluster.HasFinalizer ns name finalizer) :
    cluster.patchServiceFinalizer ns name finalizer = (none, cluster) := by
  obtain ⟨svc, found, carried⟩ := holds
  simp [patchServiceFinalizer, found, carried]

/-- **A patch that goes through leaves the service with the finalizer.** -/
theorem hasFinalizer_patchServiceFinalizer {ns name finalizer : String}
    (patched : (cluster.patchServiceFinalizer ns name finalizer).1 = none) :
    (cluster.patchServiceFinalizer ns name finalizer).2.HasFinalizer ns name finalizer := by
  obtain ⟨svc, found⟩ := findService_of_patchServiceFinalizer patched
  obtain ⟨rfl, rfl⟩ := findService_key found
  unfold patchServiceFinalizer at patched ⊢
  simp only [found] at patched ⊢
  split_ifs at patched ⊢ with carried deleting
  · exact ⟨svc, found, carried⟩
  · dsimp only
    rw [HasFinalizer, findService_putService found { svc with finalizers := svc.finalizers ++ [finalizer] }
      rfl rfl, if_pos ⟨rfl, rfl⟩]
    exact ⟨_, rfl, by simp⟩

/-- **A finalizer patch never takes a finalizer away**, whichever service it patches. -/
theorem HasFinalizer.patchServiceFinalizer {ns name finalizer : String}
    (holds : cluster.HasFinalizer ns name finalizer) (ns' name' finalizer' : String) :
    (cluster.patchServiceFinalizer ns' name' finalizer').2.HasFinalizer ns name finalizer := by
  obtain ⟨svc, found, carried⟩ := holds
  unfold Cluster.patchServiceFinalizer
  split
  · exact ⟨svc, found, carried⟩
  · rename_i old found'
    obtain ⟨rfl, rfl⟩ := findService_key found'
    split_ifs
    · exact ⟨svc, found, carried⟩
    · exact ⟨svc, found, carried⟩
    · dsimp only
      rw [HasFinalizer,
        findService_putService found' { old with finalizers := old.finalizers ++ [finalizer'] } rfl rfl]
      split_ifs with key
      · obtain ⟨rfl, rfl⟩ := key
        rw [found'] at found
        cases found
        simp [carried]
      · exact ⟨svc, found, carried⟩

theorem HasFinalizer.patchIngressDirty {ns name finalizer : String}
    (holds : cluster.HasFinalizer ns name finalizer) (ns' name' : String) :
    (cluster.patchIngressDirty ns' name').2.HasFinalizer ns name finalizer := by
  simpa [HasFinalizer, findService] using holds

/-! ### The dirty mark -/

/-- Two versions of an ingress that differ at most in the dirty mark and the resource version. -/
def SameButDirty (ing ing' : Ingress) : Prop :=
  ing'.ns = ing.ns ∧ ing'.name = ing.name ∧ ing'.spec = ing.spec ∧
    ing'.annotations.filter (·.1 != dirtyAnnotation) = ing.annotations.filter (·.1 != dirtyAnnotation)

theorem SameButDirty.refl (ing : Ingress) : SameButDirty ing ing := ⟨rfl, rfl, rfl, rfl⟩

theorem SameButDirty.annotation {ing ing' : Ingress} (same : SameButDirty ing ing')
    {key : String} (differ : key ≠ dirtyAnnotation) : ing'.annotation key = ing.annotation key := by
  unfold Ingress.annotation
  rw [← lookup_filter_of_ne differ ing'.annotations, same.2.2.2, lookup_filter_of_ne differ]

/-- Where keys are distinct, a key finds the ingress of that key. -/
theorem getIngress_of_mem (keys : (cluster.ingresses.map fun ing => keyFunc ing.ns ing.name).Nodup)
    {ing : Ingress} (member : ing ∈ cluster.ingresses) :
    cluster.getIngress (keyFunc ing.ns ing.name) = some ing := by
  cases found : cluster.getIngress (keyFunc ing.ns ing.name) with
  | none => simpa using (List.find?_eq_none.mp found) ing member
  | some other =>
    have sameKey : keyFunc other.ns other.name = keyFunc ing.ns ing.name := by
      simpa using List.find?_some found
    rw [List.inj_on_of_nodup_map keys (List.mem_of_find?_eq_some found) member sameKey]

/-- With one service to a namespace and a name, a service of the cache is the one its namespace
and name find. -/
theorem findService_of_mem (unique : (cluster.services.map fun svc => (svc.ns, svc.name)).Nodup)
    {svc : Service} (member : svc ∈ cluster.services) : cluster.findService svc.ns svc.name = some svc := by
  cases found : cluster.findService svc.ns svc.name with
  | none => simpa using (List.find?_eq_none.mp found) svc member
  | some other =>
    obtain ⟨sameNs, sameName⟩ := findService_key found
    rw [List.inj_on_of_nodup_map unique (List.mem_of_find?_eq_some found) member (by rw [sameNs, sameName])]

/-- Once removed, a service unique to its namespace and name is found no more. -/
theorem findService_removeService (unique : (cluster.services.map fun svc => (svc.ns, svc.name)).Nodup)
    {svc : Service} (member : svc ∈ cluster.services) :
    (cluster.removeService svc).findService svc.ns svc.name = none := by
  refine List.find?_eq_none.mpr fun other kept same => ?_
  obtain ⟨present, differ⟩ := List.mem_filter.mp kept
  simp only [Bool.and_eq_true, beq_iff_eq] at same
  exact absurd (List.inj_on_of_nodup_map unique present member (by rw [same.1, same.2])) (by simpa using differ)

/-- Clearing the finalizers of a service being deleted removes it. -/
theorem clearServiceFinalizers_of_deleting {ns name : String} {svc : Service}
    (found : cluster.findService ns name = some svc) (held : svc.finalizers ≠ [])
    (deleting : svc.deletionTimestamp.isSome) :
    cluster.clearServiceFinalizers ns name = (none, cluster.removeService svc) := by
  simp [clearServiceFinalizers, found, held, deleting]

theorem findIngress_of_getIngress {key : String} {ing : Ingress}
    (found : cluster.getIngress key = some ing) : cluster.findIngress ing.ns ing.name = some ing := by
  have keyed : keyFunc ing.ns ing.name = key := by simpa using List.find?_some found
  refine find?_of_stricter found (by simp) fun other same => ?_
  simp only [Bool.and_eq_true, beq_iff_eq] at same
  simp [same.1, same.2, keyed]

/-- Writing back the ingress a key finds under the same namespace and name: the key finds the
new version. -/
theorem getIngress_putIngress {key : String} {old : Ingress} (found : cluster.getIngress key = some old)
    (new : Ingress) (sameNs : new.ns = old.ns) (sameName : new.name = old.name) :
    (cluster.putIngress old new).getIngress key = some { new with resourceVersion := cluster.revision + 1 } := by
  simp only [getIngress, putIngress]
  rw [find?_map_of_test fun other _ => by split_ifs with same <;> simp [same, sameNs, sameName],
    show cluster.ingresses.find? _ = some old from found]
  simp

/-- **After the dirty patch of the ingress a key finds, the key finds the same ingress** but for
the mark. -/
theorem getIngress_patchIngressDirty {key : String} {ing : Ingress}
    (found : cluster.getIngress key = some ing) :
    ∃ ing', (cluster.patchIngressDirty ing.ns ing.name).2.getIngress key = some ing' ∧
      SameButDirty ing ing' := by
  unfold patchIngressDirty
  rw [findIngress_of_getIngress found]
  dsimp only
  split_ifs
  · exact ⟨ing, found, SameButDirty.refl ing⟩
  · exact ⟨_, getIngress_putIngress found { ing with
      annotations := setAnnotationEntry ing.annotations dirtyAnnotation "true"
      annotations_nodup := setAnnotationEntry_nodup ing.annotations_nodup } rfl rfl,
      rfl, rfl, rfl, filter_setAnnotationEntry _ _ _⟩

/-- The ingress the key finds carries the dirty mark, and is `ing` but for the mark and the
resource version. -/
def MarkedDirty (cluster : Cluster) (key : String) (ing : Ingress) : Prop :=
  ∃ marked, cluster.getIngress key = some marked ∧ marked.annotation dirtyAnnotation = "true" ∧
    SameButDirty ing marked

/-- Writing back an ingress other than the one a key finds, under its own namespace and name: the
key still finds its ingress. -/
theorem getIngress_putIngress_of_ne {key : String} {ing old : Ingress} (found : cluster.getIngress key = some ing)
    (other : ing ≠ old) (new : Ingress) (sameNs : new.ns = old.ns) (sameName : new.name = old.name) :
    (cluster.putIngress old new).getIngress key = some ing := by
  simp only [getIngress, putIngress]
  rw [find?_map_of_test fun other _ => by split_ifs with same <;> simp [same, sameNs, sameName],
    show cluster.ingresses.find? _ = some ing from found]
  simp [other]

/-- **The dirty patch of the ingress a key finds marks it.** -/
theorem markedDirty_patchIngressDirty {key : String} {ing : Ingress} (found : cluster.getIngress key = some ing) :
    (cluster.patchIngressDirty ing.ns ing.name).2.MarkedDirty key ing := by
  unfold patchIngressDirty
  rw [findIngress_of_getIngress found]
  dsimp only
  split_ifs with marked
  · exact ⟨ing, found, marked, SameButDirty.refl ing⟩
  · refine ⟨_, getIngress_putIngress found _ rfl rfl, ?_, rfl, rfl, rfl, filter_setAnnotationEntry _ _ _⟩
    simp [Ingress.annotation, lookup_setAnnotationEntry]

/-- **No dirty patch takes a mark away**: it writes back only an ingress without one. -/
theorem MarkedDirty.patchIngressDirty {key : String} {ing : Ingress} (holds : cluster.MarkedDirty key ing)
    (ns name : String) : (cluster.patchIngressDirty ns name).2.MarkedDirty key ing := by
  obtain ⟨marked, found, dirty, same⟩ := holds
  unfold Cluster.patchIngressDirty
  split
  · exact ⟨marked, found, dirty, same⟩
  · rename_i old _
    split_ifs with oldDirty
    · exact ⟨marked, found, dirty, same⟩
    · exact ⟨marked, getIngress_putIngress_of_ne found (fun equal => oldDirty (equal ▸ dirty :)) _ rfl rfl, dirty, same⟩

@[simp] theorem getIngress_patchServiceFinalizer (ns name finalizer key : String) :
    (cluster.patchServiceFinalizer ns name finalizer).2.getIngress key = cluster.getIngress key := by
  simp [getIngress]

end Cluster

end KongIngress
