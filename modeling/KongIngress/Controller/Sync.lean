/-
**The two sync functions the workers run.**

* `syncIngress key numRequeues` — `KongController.syncIngress`: a vanished key returns nil; past
  `autoClaimMaxRetries` requeues the ingress is marked dirty (best effort); then, for every rule
  with an HTTP section and every path of it, `syncPath`: the backend service must be in the
  cache, it gets the finalizer, and the API named after the path is updated (its id and creation
  stamp carried over) or created, then its plugins, the ingress's certificates and the JWT
  consumer are configured. The first error ends the sync.
* `syncServices key numRequeues` — `KongController.syncServices`: for a service being deleted,
  for each port, delete the APIs listed under its upstream, then clear the finalizers; the
  finalizer patch sits inside the port loop, as in the source.
-/

import KongIngress.Controller.Configure
import KongIngress.Model.Cluster

namespace KongIngress

namespace KongController

variable (k : KongController)

open Prog (send fail forEach)

/-- `setDirty`: the dirty annotation, unless the ingress already has it. -/
def setDirty (ing : Ingress) (_retries : Nat) : Prog Unit := do
  if ing.annotation Cluster.dirtyAnnotation = "true" then pure ()
  else
    match ← send (.patchIngressDirty ing.ns ing.name) with
    | some err => fail err
    | none => pure ()

/-- The API record `syncIngress` builds for a path, before the id and creation stamp of an
existing API are carried over. -/
def apiBody (ing : Ingress) (r : IngressRule) (p : HTTPIngressPath) : Api :=
  let port := p.backend.servicePort.intVal
  let stripUri := match parseBool (ing.annotation "ingress.kubernetes.io/strip-uri") with
    | .ok value => value
    | .error _ => true
  let preserveHost := match parseBool (ing.annotation "ingress.kubernetes.io/preserve-host") with
    | .ok value => value
    | .error _ => false
  { uid := 0
    createdAt := 0
    name := k.apiName r.host ing.ns p.path
    upstreamURL := k.getUpstream (protoFor port) ing.ns p.backend.serviceName port
    hosts := if r.host ≠ "" then [r.host] else []
    uris := if p.path ≠ "" then [normalizePath p.path] else []
    stripUri := stripUri
    preserveHost := preserveHost }

/-- The end of a path's iteration: configure the plugins of the API `UpdateOrCreate` returned,
the certificates and the JWT consumer. The API is dereferenced even after a tolerated conflict. -/
def configureApi (ing : Ingress) (api : Option Api) : Prog Unit :=
  match api with
  | none => .nilDereference
  | some api => do
    k.configurePluginsForAPI api.uid ing
    tryConfigureCertificates ing
    k.tryAutoConfigureAuth0 ing

/-- The rest of a path's iteration, from the carry-over of the existing API's id and creation
stamp: update or create the API (a conflict is tolerated), then configure it. -/
def upsertApi (ing : Ingress) (body : Api) (api : Option Api) : Prog Unit := do
  let body := match api with
    | some api => { body with uid := api.uid, createdAt := api.createdAt }
    | none => body
  let (api, resp) ← send (.updateOrCreateApi body)
  match resp with
  | some err =>
    if err ≠ .conflict then fail s!"failed adding api: {err.render}"
    else k.configureApi ing api
  | none => k.configureApi ing api

/-- The body of `syncIngress`'s inner loop, for one path of a rule. -/
def syncPath (ing : Ingress) (r : IngressRule) (p : HTTPIngressPath) : Prog Unit := do
  let serviceName := p.backend.serviceName
  match ← send .listServices with
  | .error err => fail s!"failed listing services from cache: {err}"
  | .ok services =>
    if !services.any (fun svc => svc.name == serviceName && svc.ns == ing.ns) then do
      send (.recordEvent ing.ns ing.name "Warning" "ServiceNotFound"
        s!"Service '{serviceName}' not found for ingress")
      fail s!"Service {serviceName} not found"
    else
      match ← send (.patchServiceFinalizer ing.ns serviceName k.finalizer) with
      | some err => fail s!"failed configuring service: {err}"
      | none =>
        let body := k.apiBody ing r p
        let (api, resp) ← send (.getApi body.name)
        match resp with
        | some err =>
          if err ≠ .notFound then do
            send (.recordEvent ing.ns ing.name "Warning" "FailedAddRoute" err.render)
            fail s!"failed listing api: {err.render}"
          else k.upsertApi ing body api
        | none => k.upsertApi ing body api

/-- The body of `syncIngress`'s outer loop: a rule without an HTTP section is skipped. -/
def syncRule (ing : Ingress) (r : IngressRule) : Prog Unit :=
  match r.http with
  | none => pure ()
  | some http => forEach http.paths (k.syncPath ing r)

/-- `KongController.syncIngress`. -/
def syncIngress (key : String) (numRequeues : Nat) : Prog Unit := do
  match ← send (.getIngress key) with
  | .error err => fail err
  | .ok none => pure ()
  | .ok (some ing) => do
    if numRequeues > k.autoClaimMaxRetries then
      -- the dirty state only warns clients: a failure is logged, not returned
      let _ ← (setDirty ing numRequeues).attempt
    forEach ing.spec.rules (k.syncRule ing)

/-- The body of `syncServices`' inner loop: delete one listed API. -/
def deleteListedApi (api : Api) : Prog Unit := do
  match ← send (.deleteApi api.name) with
  | some err => fail s!"gc=true, failed removing kong api {api.name}, [{err}]"
  | none => pure ()

/-- The body of `syncServices`' port loop: the APIs under the port's upstream are deleted, then
the service's finalizers are cleared. -/
def cleanPort (svc : Service) (port : ServicePort) : Prog Unit := do
  let upstreamURL := k.getUpstream (protoFor port.port) svc.ns svc.name port.port
  match ← send (.listApis upstreamURL) with
  | .error err => fail s!"gc=true, failed listing apis [{err}]"
  | .ok apiList =>
    forEach apiList deleteListedApi
    match ← send (.clearServiceFinalizers svc.ns svc.name) with
    | some err => fail s!"gc=true, failed patch service [{err}]"
    | none => pure ()

/-- `KongController.syncServices`: garbage-collect the APIs of a service being deleted. -/
def syncServices (key : String) (_numRequeues : Nat) : Prog Unit := do
  match ← send (.getService key) with
  | .error err => fail err
  | .ok none => pure ()
  | .ok (some svc) =>
    if svc.deletionTimestamp.isNone then pure ()
    else forEach svc.ports (k.cleanPort svc)

end KongController

end KongIngress
