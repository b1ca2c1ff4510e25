/-
**The world the controller's calls are answered by.**

`World` joins the orchestrator (`Cluster`), the gateway (`Gateway`) and the identity provider
(the PEM document each host serves, or the error fetching it). `World.answer` answers every
`Call` from the current state, with no other writer: store reads return what is stored, the
gateway never fails a call, a `GET /consumers/{name}` of a missing consumer is a 404 with its
response.

The `@[simp]` lemmas below say, call by call, what an answer is and which part of the world it
leaves alone; proofs about the controller's runs use them and never unfold `answer`.

`World.answerNamed` answers from the gateway the spec describes, whose API names identify APIs
(`Gateway.updateOrCreateApiNamed`); it differs from `answer` only on an `UpdateOrCreate` that would
give a name to a second API (`answerNamed_updateOrCreateApi`).
-/

import KongIngress.Model.Cluster
import KongIngress.Model.Prog

namespace KongIngress

/-- The orchestrator, the gateway and the identity provider. -/
structure World where
  cluster : Cluster
  gateway : Gateway
  identityProvider : String → Except String (List UInt8)

namespace World

/-- An empty orchestrator and gateway; the identity provider serves no host. -/
def empty : World := ⟨Cluster.empty, Gateway.empty, fun host => .error s!"dial tcp: lookup {host}: no such host"⟩

/-- Answer a call from the current state. -/
def answer : (c : Call) → World → c.Response × World
  | .getIngress key, world => (.ok (world.cluster.getIngress key), world)
  | .getService key, world => (.ok (world.cluster.getService key), world)
  | .listServices, world => (.ok world.cluster.services, world)
  | .patchServiceFinalizer ns name finalizer, world =>
      let result := world.cluster.patchServiceFinalizer ns name finalizer
      (result.1, { world with cluster := result.2 })
  | .clearServiceFinalizers ns name, world =>
      let result := world.cluster.clearServiceFinalizers ns name
      (result.1, { world with cluster := result.2 })
  | .patchIngressDirty ns name, world =>
      let result := world.cluster.patchIngressDirty ns name
      (result.1, { world with cluster := result.2 })
  | .getSecret ns name, world =>
      ((world.cluster.getSecret ns name).elim (.error (Cluster.notFound "secrets" name)) .ok, world)
  | .recordEvent ns name eventType reason message, world =>
      ((), { world with cluster := { world.cluster with
        events := world.cluster.events ++ [⟨ns, name, eventType, reason, message⟩] } })
  | .getApi name, world =>
      ((world.gateway.getApi name, (world.gateway.getApi name).elim (some .notFound) fun _ => none),
        world)
  | .updateOrCreateApi body, world =>
      let result := world.gateway.updateOrCreateApi body
      (result.1, { world with gateway := result.2 })
  | .listApis upstreamURL, world => (.ok (world.gateway.listApis upstreamURL), world)
  | .deleteApi name, world => (none, { world with gateway := world.gateway.deleteApi name })
  | .listPlugins uid, world => (.ok (world.gateway.listPlugins uid), world)
  | .createPlugin uid plugin, world =>
      (none, { world with gateway := world.gateway.createPlugin uid plugin })
  | .createCertificate certificate, world =>
      (none, { world with gateway := world.gateway.createCertificate certificate })
  | .getPEM host, world => (world.identityProvider host, world)
  | .getConsumer username, world =>
      (if username ∈ world.gateway.consumers then (none, some ⟨200⟩)
        else (some "404 Not Found", some ⟨404⟩), world)
  | .createConsumer username, world =>
      (none, { world with gateway := world.gateway.createConsumer username })
  | .listJWTCredentials username, world => (.ok (world.gateway.jwtTotal username), world)
  | .createJWTCredential username credential, world =>
      (none, { world with gateway := world.gateway.createJWTCredential username credential })

variable (world : World)

@[simp] theorem answer_getIngress (key : String) :
    answer (.getIngress key) world = (.ok (world.cluster.getIngress key), world) := rfl

@[simp] theorem answer_getService (key : String) :
    answer (.getService key) world = (.ok (world.cluster.getService key), world) := rfl

@[simp] theorem answer_listServices :
    answer .listServices world = (.ok world.cluster.services, world) := rfl

@[simp] theorem answer_patchServiceFinalizer (ns name finalizer : String) :
    answer (.patchServiceFinalizer ns name finalizer) world =
      ((world.cluster.patchServiceFinalizer ns name finalizer).1,
        { world with cluster := (world.cluster.patchServiceFinalizer ns name finalizer).2 }) := rfl

@[simp] theorem answer_clearServiceFinalizers (ns name : String) :
    answer (.clearServiceFinalizers ns name) world =
      ((world.cluster.clearServiceFinalizers ns name).1,
        { world with cluster := (world.cluster.clearServiceFinalizers ns name).2 }) := rfl

@[simp] theorem answer_patchIngressDirty (ns name : String) :
    answer (.patchIngressDirty ns name) world =
      ((world.cluster.patchIngressDirty ns name).1,
        { world with cluster := (world.cluster.patchIngressDirty ns name).2 }) := rfl

@[simp] theorem answer_getSecret (ns name : String) :
    answer (.getSecret ns name) world =
      ((world.cluster.getSecret ns name).elim (.error (Cluster.notFound "secrets" name)) .ok,
        world) := rfl

@[simp] theorem answer_recordEvent (ns name eventType reason message : String) :
    answer (.recordEvent ns name eventType reason message) world =
      ((), { world with cluster := { world.cluster with
        events := world.cluster.events ++ [⟨ns, name, eventType, reason, message⟩] } }) := rfl

@[simp] theorem answer_getApi (name : String) :
    answer (.getApi name) world =
      ((world.gateway.getApi name, (world.gateway.getApi name).elim (some .notFound) fun _ => none),
        world) := rfl

@[simp] theorem answer_updateOrCreateApi (body : Api) :
    answer (.updateOrCreateApi body) world =
      ((world.gateway.updateOrCreateApi body).1,
        { world with gateway := (world.gateway.updateOrCreateApi body).2 }) := rfl

@[simp] theorem answer_listApis (upstreamURL : String) :
    answer (.listApis upstreamURL) world = (.ok (world.gateway.listApis upstreamURL), world) := rfl

@[simp] theorem answer_deleteApi (name : String) :
    answer (.deleteApi name) world = (none, { world with gateway := world.gateway.deleteApi name }) :=
  rfl

@[simp] theorem answer_listPlugins (uid : Nat) :
    answer (.listPlugins uid) world = (.ok (world.gateway.listPlugins uid), world) := rfl

@[simp] theorem answer_createPlugin (uid : Nat) (plugin : Plugin) :
    answer (.createPlugin uid plugin) world =
      (none, { world with gateway := world.gateway.createPlugin uid plugin }) := rfl

@[simp] theorem answer_createCertificate (certificate : Certificate) :
    answer (.createCertificate certificate) world =
      (none, { world with gateway := world.gateway.createCertificate certificate }) := rfl

@[simp] theorem answer_getPEM (host : String) :
    answer (.getPEM host) world = (world.identityProvider host, world) := rfl

@[simp] theorem answer_getConsumer (username : String) :
    answer (.getConsumer username) world =
      (if username ∈ world.gateway.consumers then (none, some ⟨200⟩)
        else (some "404 Not Found", some ⟨404⟩), world) := rfl

@[simp] theorem answer_createConsumer (username : String) :
    answer (.createConsumer username) world =
      (none, { world with gateway := world.gateway.createConsumer username }) := rfl

@[simp] theorem answer_listJWTCredentials (username : String) :
    answer (.listJWTCredentials username) world =
      (.ok (world.gateway.jwtTotal username), world) := rfl

@[simp] theorem answer_createJWTCredential (username : String) (credential : JwtCredential) :
    answer (.createJWTCredential username credential) world =
      (none, { world with gateway := world.gateway.createJWTCredential username credential }) :=
  rfl

/-! ### The gateway of the spec -/

/-- Answer a call from the current state, the gateway being the spec's, where a write that would
give a name to a second API is a conflict. -/
def answerNamed : (c : Call) → World → c.Response × World
  | .updateOrCreateApi body, world =>
      let result := world.gateway.updateOrCreateApiNamed body
      (result.1, { world with gateway := result.2 })
  | c, world => answer c world

/-- **The two gateways answer alike an `UpdateOrCreate` whose name no API of another id holds.** -/
theorem answerNamed_updateOrCreateApi (body : Api)
    (free : ∀ api ∈ world.gateway.apis, api.name = body.name → api.uid = body.uid) :
    answerNamed (.updateOrCreateApi body) world = answer (.updateOrCreateApi body) world := by
  have untaken : (world.gateway.apis.any fun api => api.name == body.name && api.uid != body.uid) = false := by
    simpa using free
  simp only [answerNamed, Gateway.updateOrCreateApiNamed, untaken, answer_updateOrCreateApi]
  rfl

end World

/-- The calls that write no API: every call but `UpdateOrCreate` and `DELETE /apis/{name}`.
Reducible, so that a call's membership is checked by `trivial` wherever it is a side condition. -/
@[reducible] def Call.LeavesApis : Call → Prop
  | .updateOrCreateApi _ | .deleteApi _ => False
  | _ => True

/-- The two gateways answer alike every call that writes no API. -/
theorem World.answerNamed_of_leavesApis (request : Call) (world : World) (leaves : request.LeavesApis) :
    World.answerNamed request world = World.answer request world := by
  cases request <;> first | rfl | exact leaves.elim

/-- A call that writes no API leaves the gateway's APIs as they are. -/
theorem World.answer_apis_of_leavesApis (request : Call) (world : World) (leaves : request.LeavesApis) :
    (World.answer request world).2.gateway.apis = world.gateway.apis := by
  cases request <;> first | rfl | exact leaves.elim

end KongIngress
