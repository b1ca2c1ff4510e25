/-
**The gateway's records and the gateway as a store.**

The gateway keeps APIs, the plugins attached to each API, certificates, consumers and their JWT
credentials. `Gateway` is the store that answers each call of the REST surface from its current
contents:

* APIs are a list, with no uniqueness constraint on names: two creates of one name give two APIs.
  `updateOrCreateApiNamed` is the store the spec describes instead, in which names identify APIs:
  a write that would give a name to a second API is refused with `409 Conflict`.
* Ids are the gateway's own: `Gateway` carries as fields that every stored API has a positive id,
  below the next id it hands out, and that no two APIs share one. An API record whose `uid` is
  `0` is Go's zero value, "no id".
* `getApi`, `updateOrCreateApi`, `deleteApi`, `listApis` follow `GET /apis/{name}`, the
  client's `UpdateOrCreate` (update by id when the body has one, else create), `DELETE
  /apis/{name}` and `GET /apis?upstream_url=...`.
-/

import Mathlib.Data.List.Nodup
import KongIngress.Model.Objects

namespace KongIngress

/-! ### Records -/

/-- `kong.API`: `uid` is the gateway's id (`0` when unset), `createdAt` its creation stamp. -/
structure Api where
  uid : Nat
  createdAt : Nat
  name : String
  upstreamURL : String
  hosts : List String
  uris : List String
  stripUri : Bool
  preserveHost : Bool
  deriving DecidableEq, Repr

/-- The four config schemas of `kongswagger` the controller decodes plugin annotations into. -/
inductive PluginSchema where
  | keyAuth
  | cors
  | jwt
  | rateLimiting
  deriving DecidableEq, Repr

/-- `kongswagger.Plugin`: a name and the decoded config. -/
structure Plugin where
  name : String
  config : String
  deriving DecidableEq, Repr

/-- `kongswagger.Certificate`. -/
structure Certificate where
  cert : String
  key : String
  snis : List String
  deriving DecidableEq, Repr

/-- `kongswagger.JwtCredential`. -/
structure JwtCredential where
  algorithm : String
  rsaPublicKey : String
  key : String
  deriving DecidableEq, Repr

/-- The error of a `kong` client response, as `apierrors.IsNotFound` and `IsConflict` tell
them apart. -/
inductive ResponseError where
  | notFound
  | conflict
  | other (message : String)
  deriving DecidableEq, Repr

/-- `fmt`'s `%s` of a client response. -/
def ResponseError.render : ResponseError → String
  | .notFound => "404 Not Found"
  | .conflict => "409 Conflict"
  | .other message => message

/-! ### The store -/

/-- The gateway's contents. Plugins are stored with the id of their API, credentials with the
username of their consumer. -/
structure Gateway where
  apis : List Api
  plugins : List (Nat × Plugin)
  certificates : List Certificate
  consumers : List String
  jwtCredentials : List (String × JwtCredential)
  nextId : Nat
  uid_pos : ∀ api ∈ apis, 0 < api.uid
  uid_le : ∀ api ∈ apis, api.uid ≤ nextId
  uid_nodup : (apis.map Api.uid).Nodup

namespace Gateway

/-- The gateway with nothing in it. -/
def empty : Gateway where
  apis := []
  plugins := []
  certificates := []
  consumers := []
  jwtCredentials := []
  nextId := 0
  uid_pos _ member := absurd member (List.not_mem_nil _)
  uid_le _ member := absurd member (List.not_mem_nil _)
  uid_nodup := List.nodup_nil

/-- The names of the APIs, in order. -/
def apiNames (gateway : Gateway) : List String := gateway.apis.map Api.name

/-- `GET /apis/{name}`: the first API of that name. -/
def getApi (gateway : Gateway) (name : String) : Option Api :=
  gateway.apis.find? (·.name == name)

/-- `GET /apis?upstream_url=...`. -/
def listApis (gateway : Gateway) (upstreamURL : String) : List Api :=
  gateway.apis.filter (·.upstreamURL == upstreamURL)

/-- `GET /apis/{id}/plugins`: the plugins of the API with that id. -/
def listPlugins (gateway : Gateway) (uid : Nat) : List Plugin :=
  (gateway.plugins.filter (·.1 == uid)).map (·.2)

/-- The number of JWT credentials of a consumer (`list.Total`). -/
def jwtTotal (gateway : Gateway) (username : String) : Nat :=
  (gateway.jwtCredentials.filter (·.1 == username)).length

/-- Creating an API: it gets the next id, which is also its creation stamp. -/
def createApi (gateway : Gateway) (body : Api) : Gateway :=
  { gateway with
    apis := gateway.apis ++ [{ body with uid := gateway.nextId + 1, createdAt := gateway.nextId + 1 }]
    nextId := gateway.nextId + 1
    uid_pos := by
      intro api member
      rcases List.mem_append.mp member with old | new
      · exact gateway.uid_pos api old
      · simp only [List.mem_singleton] at new
        simp [new]
    uid_le := by
      intro api member
      rcases List.mem_append.mp member with old | new
      · exact Nat.le_succ_of_le (gateway.uid_le api old)
      · simp only [List.mem_singleton] at new
        simp [new]
    uid_nodup := by
      rw [List.map_append, List.nodup_append]
      refine ⟨gateway.uid_nodup, List.nodup_singleton _, ?_⟩
      intro uid old new
      simp only [List.map_cons, List.map_nil, List.mem_singleton] at new
      obtain ⟨api, member, rfl⟩ := List.mem_map.mp old
      have := gateway.uid_le api member
      omega }

/-- Replacing the API whose id is the body's by the body. -/
def replaceApi (gateway : Gateway) (body : Api) : Gateway :=
  { gateway with
    apis := gateway.apis.map fun api => if api.uid = body.uid then body else api
    uid_pos := by
      simp only [List.mem_map]
      rintro _ ⟨api, member, rfl⟩
      split_ifs with same
      · exact same ▸ gateway.uid_pos api member
      · exact gateway.uid_pos api member
    uid_le := by
      simp only [List.mem_map]
      rintro _ ⟨api, member, rfl⟩
      split_ifs with same
      · exact same ▸ gateway.uid_le api member
      · exact gateway.uid_le api member
    uid_nodup := by
      rw [List.map_map]
      convert gateway.uid_nodup using 1
      refine List.map_congr_left fun api _ => ?_
      simp only [Function.comp_apply]
      split_ifs with same <;> simp [same] }

/-- Modelled from the spec: the `kong` client's `UpdateOrCreate`, whose source is not among the
files. "It will trigger an update when providing the uuid, otherwise a new record will be
created": a body with an id replaces the API of that id (not found when there is none), a body
without one is created. No uniqueness of names is enforced. -/
def updateOrCreateApi (gateway : Gateway) (body : Api) :
    (Option Api × Option ResponseError) × Gateway :=
  if body.uid = 0 then
    let created := gateway.createApi body
    ((created.apis.getLast?, none), created)
  else if gateway.apis.any (·.uid == body.uid) then ((some body, none), gateway.replaceApi body)
  else ((none, some .notFound), gateway)

/-- Modelled from the spec: `UpdateOrCreate` against the gateway the spec describes, where "APIs
are identified by name" and a create of a taken name is a `Conflict` ("tolerated on upsert"): a
body whose name another API (of another id) holds is refused and nothing is written; any other
body is written as `updateOrCreateApi` writes it. -/
def updateOrCreateApiNamed (gateway : Gateway) (body : Api) :
    (Option Api × Option ResponseError) × Gateway :=
  if gateway.apis.any (fun api => api.name == body.name && api.uid != body.uid) then
    ((none, some .conflict), gateway)
  else gateway.updateOrCreateApi body

/-- `DELETE /apis/{name}`: the first API of that name goes; deleting a missing one succeeds. The
spec's gateway also drops the plugins of the API; this one keeps them under the freed id, which
no later API gets. -/
def deleteApi (gateway : Gateway) (name : String) : Gateway :=
  { gateway with
    apis := gateway.apis.eraseP (·.name == name)
    uid_pos := fun api member => gateway.uid_pos api ((List.eraseP_subset _) member)
    uid_le := fun api member => gateway.uid_le api ((List.eraseP_subset _) member)
    uid_nodup := ((List.eraseP_sublist _).map Api.uid).nodup gateway.uid_nodup }

/-- `POST /apis/{id}/plugins`. -/
def createPlugin (gateway : Gateway) (uid : Nat) (plugin : Plugin) : Gateway :=
  { gateway with plugins := gateway.plugins ++ [(uid, plugin)] }

/-- `POST /certificates`. -/
def createCertificate (gateway : Gateway) (certificate : Certificate) : Gateway :=
  { gateway with certificates := gateway.certificates ++ [certificate] }

/-- `POST /consumers`. -/
def createConsumer (gateway : Gateway) (username : String) : Gateway :=
  { gateway with consumers := gateway.consumers ++ [username] }

/-- `POST /consumers/{username}/jwt`. -/
def createJWTCredential (gateway : Gateway) (username : String) (credential : JwtCredential) :
    Gateway :=
  { gateway with jwtCredentials := gateway.jwtCredentials ++ [(username, credential)] }

end Gateway

end KongIngress
