/-
**The gateway store under the writes of an ingress sync.**

* `writeApi` — one path's `Get` then `UpdateOrCreate`: the first API of the body's name is
  replaced by the body under its id and creation stamp, or the body is created; `writtenApi` is
  the API it leaves under that name.
* `getApi_writeApi_self`, `getApi_writeApi_of_ne` — the name view: a write sets its own name and
  leaves every other name's API alone.
* `apiNames_writeApi` — a write keeps every name where it is and adds its own when new; so it
  keeps names distinct (`nodup_apiNames_writeApi`).
* `apis_foldl_replaceApi` — replacing by id, write after write, is one pass over the list in which
  each API takes the last record written under its id.
* `ensureConsumer`, `ensureJWTCredential`, `postCertificates` — the rest of what a path's sync
  writes.
-/

import KongIngress.Run.Plugins

namespace KongIngress

namespace Gateway

variable (gateway : Gateway)

/-! ### Field lemmas -/

@[simp] theorem createApi_plugins (body : Api) : (gateway.createApi body).plugins = gateway.plugins := rfl
@[simp] theorem createApi_consumers (body : Api) :
    (gateway.createApi body).consumers = gateway.consumers := rfl
@[simp] theorem createApi_jwtCredentials (body : Api) :
    (gateway.createApi body).jwtCredentials = gateway.jwtCredentials := rfl
@[simp] theorem createApi_apis (body : Api) : (gateway.createApi body).apis =
    gateway.apis ++ [{ body with uid := gateway.nextId + 1, createdAt := gateway.nextId + 1 }] := rfl
@[simp] theorem createApi_nextId (body : Api) :
    (gateway.createApi body).nextId = gateway.nextId + 1 := rfl
@[simp] theorem replaceApi_plugins (body : Api) : (gateway.replaceApi body).plugins = gateway.plugins := rfl
@[simp] theorem replaceApi_consumers (body : Api) :
    (gateway.replaceApi body).consumers = gateway.consumers := rfl
@[simp] theorem replaceApi_jwtCredentials (body : Api) :
    (gateway.replaceApi body).jwtCredentials = gateway.jwtCredentials := rfl
@[simp] theorem replaceApi_apis (body : Api) : (gateway.replaceApi body).apis =
    gateway.apis.map fun api => if api.uid = body.uid then body else api := rfl
@[simp] theorem replaceApi_nextId (body : Api) : (gateway.replaceApi body).nextId = gateway.nextId :=
  rfl
@[simp] theorem attachPlugins_apis (uid : Nat) (plugins : List Plugin) :
    (gateway.attachPlugins uid plugins).apis = gateway.apis := rfl
@[simp] theorem attachPlugins_consumers (uid : Nat) (plugins : List Plugin) :
    (gateway.attachPlugins uid plugins).consumers = gateway.consumers := rfl
@[simp] theorem attachPlugins_jwtCredentials (uid : Nat) (plugins : List Plugin) :
    (gateway.attachPlugins uid plugins).jwtCredentials = gateway.jwtCredentials := rfl
@[simp] theorem attachPlugins_certificates (uid : Nat) (plugins : List Plugin) :
    (gateway.attachPlugins uid plugins).certificates = gateway.certificates := rfl

/-! ### Ids name one API each -/

theorem eq_of_uid_eq {first second : Api} (firstMem : first ∈ gateway.apis)
    (secondMem : second ∈ gateway.apis) (same : first.uid = second.uid) : first = second :=
  List.inj_on_of_nodup_map gateway.uid_nodup firstMem secondMem same

theorem getApi_mem {name : String} {api : Api} (found : gateway.getApi name = some api) :
    api ∈ gateway.apis ∧ api.name = name := by
  have := List.find?_some found
  exact ⟨List.mem_of_find?_eq_some found, by simpa using this⟩

theorem getApi_eq_none {name : String} (missing : gateway.getApi name = none) :
    name ∉ gateway.apiNames := by
  intro member
  obtain ⟨api, mem, rfl⟩ := List.mem_map.mp member
  simpa using List.find?_eq_none.mp missing api mem

/-! ### One path's write -/

/-- One path's `Get` then `UpdateOrCreate`: the first API of the body's name is replaced by the
body under its id and creation stamp; without one, the body is created. -/
def writeApi (body : Api) : Gateway :=
  match gateway.getApi body.name with
  | some api => gateway.replaceApi { body with uid := api.uid, createdAt := api.createdAt }
  | none => gateway.createApi body

/-- The API a write leaves under the body's name. -/
def writtenApi (body : Api) : Api :=
  match gateway.getApi body.name with
  | some api => { body with uid := api.uid, createdAt := api.createdAt }
  | none => { body with uid := gateway.nextId + 1, createdAt := gateway.nextId + 1 }

@[simp] theorem writeApi_plugins (body : Api) : (gateway.writeApi body).plugins = gateway.plugins := by
  unfold writeApi; split <;> rfl
@[simp] theorem writeApi_consumers (body : Api) :
    (gateway.writeApi body).consumers = gateway.consumers := by
  unfold writeApi; split <;> rfl
@[simp] theorem writeApi_jwtCredentials (body : Api) :
    (gateway.writeApi body).jwtCredentials = gateway.jwtCredentials := by
  unfold writeApi; split <;> rfl
@[simp] theorem writeApi_certificates (body : Api) :
    (gateway.writeApi body).certificates = gateway.certificates := by
  unfold writeApi; split <;> rfl

/-- Replacing the API of an existing id: the list keeps its names where they were. -/
theorem apiNames_replaceApi {api : Api} (mem : api ∈ gateway.apis) (body : Api)
    (sameUid : body.uid = api.uid) (sameName : body.name = api.name) :
    (gateway.replaceApi body).apiNames = gateway.apiNames := by
  simp only [apiNames, replaceApi_apis, List.map_map]
  refine List.map_congr_left fun other member => ?_
  simp only [Function.comp_apply]
  split_ifs with same
  · rw [sameName, gateway.eq_of_uid_eq member mem (same.trans sameUid)]
  · rfl

theorem apiNames_writeApi (body : Api) :
    (gateway.writeApi body).apiNames =
      if body.name ∈ gateway.apiNames then gateway.apiNames else gateway.apiNames ++ [body.name] := by
  unfold writeApi
  split
  · rename_i api found
    obtain ⟨mem, named⟩ := gateway.getApi_mem found
    rw [if_pos (named ▸ List.mem_map_of_mem _ mem)]
    exact gateway.apiNames_replaceApi mem _ rfl named.symm
  · rename_i missing
    rw [if_neg (gateway.getApi_eq_none missing)]
    simp [apiNames]

theorem nodup_apiNames_writeApi {body : Api} (distinct : gateway.apiNames.Nodup) :
    (gateway.writeApi body).apiNames.Nodup := by
  rw [apiNames_writeApi]
  split_ifs with present
  · exact distinct
  · exact List.nodup_append.mpr ⟨distinct, List.nodup_singleton _, by simpa using present⟩

/-- Replacing the API of an existing id leaves `find?` looking for the same API, as long as the
test does not change on the replaced one. -/
theorem find?_replaceApi {api : Api} (mem : api ∈ gateway.apis) (body : Api)
    (sameUid : body.uid = api.uid) (test : Api → Bool) (unchanged : test body = test api) :
    (gateway.replaceApi body).apis.find? test =
      (gateway.apis.find? test).map fun found => if found.uid = body.uid then body else found := by
  rw [replaceApi_apis, List.find?_map]
  congr 1
  refine find?_congr_of_mem fun other member => ?_
  simp only [Function.comp_apply]
  split_ifs with same
  · rw [unchanged, gateway.eq_of_uid_eq member mem (same.trans sameUid)]
  · rfl

theorem getApi_writeApi_self (body : Api) :
    (gateway.writeApi body).getApi body.name = some (gateway.writtenApi body) := by
  unfold writeApi writtenApi
  cases found : gateway.getApi body.name with
  | some api =>
    obtain ⟨mem, named⟩ := gateway.getApi_mem found
    simp only [getApi]
    rw [gateway.find?_replaceApi mem { body with uid := api.uid, createdAt := api.createdAt } rfl _
      (by simp [named])]
    rw [show gateway.apis.find? _ = some api from found]
    simp
  | none =>
    simp only [getApi, createApi_apis, List.find?_append]
    rw [show gateway.apis.find? _ = none from found]
    simp

theorem getApi_writeApi_of_ne (body : Api) {name : String} (other : name ≠ body.name) :
    (gateway.writeApi body).getApi name = gateway.getApi name := by
  unfold writeApi
  cases found : gateway.getApi body.name with
  | some api =>
    obtain ⟨mem, named⟩ := gateway.getApi_mem found
    simp only [getApi]
    rw [gateway.find?_replaceApi mem { body with uid := api.uid, createdAt := api.createdAt } rfl _
      (by simp [named, other])]
    cases present : gateway.apis.find? (·.name == name) with
    | none => rfl
    | some same =>
      have sameName := List.find?_some present
      have differ : same.uid ≠ api.uid := fun equal => other (by
        rw [← named, ← gateway.eq_of_uid_eq (List.mem_of_find?_eq_some present) mem equal]
        exact (by simpa using sameName : same.name = name).symm)
      simp [differ]
  | none => simp [getApi, List.find?_append, Ne.symm other]

/-! ### Certificates, consumers, credentials -/

/-- Post certificates, in order. -/
def postCertificates (certificates : List Certificate) : Gateway :=
  { gateway with certificates := gateway.certificates ++ certificates }

/-- The consumer of a username, created when missing. -/
def withConsumer (host : String) : Gateway :=
  if host ∈ gateway.consumers then gateway else gateway.createConsumer host

/-- A JWT credential for a consumer that has none: `RS256`, the public key, and the issuer
`https://{host}/`. -/
def withJWTCredential (host publicKey : String) : Gateway :=
  if gateway.jwtTotal host = 0 then
    gateway.createJWTCredential host ⟨"RS256", publicKey, "https://" ++ host ++ "/"⟩
  else gateway

/-- The consumer and credential `TryAutoConfigureAuth0` makes for the host once it has a key. -/
def withAuth0 (host : String) : Outcome (Option String) → Gateway
  | .ok (some publicKey) => (gateway.withConsumer host).withJWTCredential host publicKey
  | _ => gateway

@[simp] theorem postCertificates_nil : gateway.postCertificates [] = gateway := by
  simp [postCertificates]

@[simp] theorem postCertificates_append (first second : List Certificate) :
    gateway.postCertificates (first ++ second) =
      (gateway.postCertificates first).postCertificates second := by
  simp [postCertificates]

@[simp] theorem postCertificates_apis (certificates : List Certificate) :
    (gateway.postCertificates certificates).apis = gateway.apis := rfl
@[simp] theorem postCertificates_plugins (certificates : List Certificate) :
    (gateway.postCertificates certificates).plugins = gateway.plugins := rfl
@[simp] theorem postCertificates_consumers (certificates : List Certificate) :
    (gateway.postCertificates certificates).consumers = gateway.consumers := rfl
@[simp] theorem postCertificates_jwtCredentials (certificates : List Certificate) :
    (gateway.postCertificates certificates).jwtCredentials = gateway.jwtCredentials := rfl
@[simp] theorem jwtTotal_postCertificates (certificates : List Certificate) (username : String) :
    (gateway.postCertificates certificates).jwtTotal username = gateway.jwtTotal username := rfl
@[simp] theorem withConsumer_apis (host : String) : (gateway.withConsumer host).apis = gateway.apis := by
  unfold withConsumer; split <;> rfl
@[simp] theorem withConsumer_plugins (host : String) :
    (gateway.withConsumer host).plugins = gateway.plugins := by
  unfold withConsumer; split <;> rfl
@[simp] theorem withConsumer_jwtCredentials (host : String) :
    (gateway.withConsumer host).jwtCredentials = gateway.jwtCredentials := by
  unfold withConsumer; split <;> rfl
@[simp] theorem withJWTCredential_apis (host publicKey : String) :
    (gateway.withJWTCredential host publicKey).apis = gateway.apis := by
  unfold withJWTCredential; split <;> rfl
@[simp] theorem withJWTCredential_plugins (host publicKey : String) :
    (gateway.withJWTCredential host publicKey).plugins = gateway.plugins := by
  unfold withJWTCredential; split <;> rfl
@[simp] theorem withJWTCredential_consumers (host publicKey : String) :
    (gateway.withJWTCredential host publicKey).consumers = gateway.consumers := by
  unfold withJWTCredential; split <;> rfl

@[simp] theorem withAuth0_apis (host : String) (key : Outcome (Option String)) :
    (gateway.withAuth0 host key).apis = gateway.apis := by
  unfold withAuth0; split <;> simp
@[simp] theorem withAuth0_plugins (host : String) (key : Outcome (Option String)) :
    (gateway.withAuth0 host key).plugins = gateway.plugins := by
  unfold withAuth0; split <;> simp
@[simp] theorem withAuth0_certificates (host : String) (key : Outcome (Option String)) :
    (gateway.withAuth0 host key).certificates = gateway.certificates := by
  unfold withAuth0 withConsumer withJWTCredential; split <;> (try split_ifs) <;> rfl

theorem mem_withConsumer (host : String) : host ∈ (gateway.withConsumer host).consumers := by
  unfold withConsumer
  split_ifs with present
  · exact present
  · simp [createConsumer]

theorem jwtTotal_withJWTCredential_pos (host publicKey : String) :
    0 < (gateway.withJWTCredential host publicKey).jwtTotal host := by
  unfold withJWTCredential
  split_ifs with none
  · simp [createJWTCredential, jwtTotal]
  · exact Nat.pos_of_ne_zero none

/-- The API a write leaves is the body, under the id and creation stamp it was given. -/
theorem writtenApi_eq (body : Api) :
    gateway.writtenApi body =
      { body with uid := (gateway.writtenApi body).uid,
                  createdAt := (gateway.writtenApi body).createdAt } := by
  unfold writtenApi; split <;> rfl

/-! ### Growth of the plugins, consumers and credentials -/

/-- The plugins, consumers and credentials of a gateway are the start of a later one's: they
only ever get appended to. -/
def GrowsInto (later : Gateway) : Prop :=
  gateway.plugins <+: later.plugins ∧ gateway.consumers <+: later.consumers ∧
    gateway.jwtCredentials <+: later.jwtCredentials

theorem GrowsInto.refl : gateway.GrowsInto gateway :=
  ⟨List.prefix_refl _, List.prefix_refl _, List.prefix_refl _⟩

variable {gateway}

theorem GrowsInto.trans {middle later : Gateway} (first : gateway.GrowsInto middle)
    (second : middle.GrowsInto later) : gateway.GrowsInto later :=
  ⟨first.1.trans second.1, first.2.1.trans second.2.1, first.2.2.trans second.2.2⟩

theorem GrowsInto.listPlugins {later : Gateway} (grows : gateway.GrowsInto later) (uid : Nat) :
    gateway.listPlugins uid ⊆ later.listPlugins uid :=
  ((grows.1.filter _).map _).subset

theorem GrowsInto.jwtTotal_le {later : Gateway} (grows : gateway.GrowsInto later)
    (username : String) : gateway.jwtTotal username ≤ later.jwtTotal username :=
  (grows.2.2.filter _).length_le

theorem growsInto_of_eq {later : Gateway} (plugins : gateway.plugins = later.plugins)
    (consumers : gateway.consumers = later.consumers)
    (jwtCredentials : gateway.jwtCredentials = later.jwtCredentials) : gateway.GrowsInto later := by
  simp [GrowsInto, plugins, consumers, jwtCredentials]

variable (gateway)

theorem growsInto_writeApi (body : Api) : gateway.GrowsInto (gateway.writeApi body) := by
  simp [GrowsInto]

theorem growsInto_attachPlugins (uid : Nat) (plugins : List Plugin) :
    gateway.GrowsInto (gateway.attachPlugins uid plugins) :=
  ⟨List.prefix_append _ _, List.prefix_refl _, List.prefix_refl _⟩

theorem growsInto_postCertificates (certificates : List Certificate) :
    gateway.GrowsInto (gateway.postCertificates certificates) := GrowsInto.refl gateway

theorem growsInto_withAuth0 (host : String) (key : Outcome (Option String)) :
    gateway.GrowsInto (gateway.withAuth0 host key) := by
  unfold withAuth0
  split
  · refine ⟨by simp, ?_, ?_⟩
    · rw [withJWTCredential_consumers]
      unfold withConsumer
      split_ifs <;> simp [createConsumer]
    · unfold withJWTCredential
      split_ifs <;> simp [createJWTCredential]
  · exact GrowsInto.refl gateway

end Gateway

end KongIngress
