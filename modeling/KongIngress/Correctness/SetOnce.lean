/-
**What the controller sets once: a plugin's configuration and a consumer's JWT credential.**

`ConfigurePluginsForAPI` lists the API's plugins before it creates one, and creates a plugin only
when none of its name is attached ("Note that new configuration is NOT applied");
`TryAutoConfigureAuth0` counts the consumer's JWT credentials and creates one only when it has
none. No call of the controller updates or deletes a plugin or a credential. So once set, they
never change:

* `Gateway.PluginsSettled`, `Gateway.CredentialsSettled` — a later gateway has, on every API id,
  the plugins of every name the earlier one has a plugin of there, and, for every consumer with a
  credential in the earlier one, the same credentials.
* `keptByPathWrites_pluginsSettled`, `keptByPathWrites_credentialsSettled` — each write of a
  path's iteration keeps them: the plugins created are those whose name the API lacks
  (`PluginsSettled.attachPlugins`), the credential is created for a consumer without one
  (`CredentialsSettled.withJWTCredential`).
* `run_settles_plugins`, `run_settles_credentials` — when no two syncs interleave, every state a
  run reaches from another keeps them (`Controller.run_keeps_gateway`): a plugin annotation changed
  after the plugin was created, or a key the identity provider rotates, never reaches the gateway.
-/

import KongIngress.Correctness.Concurrency

namespace KongIngress

namespace Gateway

/-- The plugins of a name attached to the API of an id. -/
def pluginsNamed (gateway : Gateway) (uid : Nat) (name : String) : List Plugin :=
  (gateway.listPlugins uid).filter (·.name == name)

/-- A later gateway has, on every API id, the plugins of every name the earlier one has a plugin
of there. -/
def PluginsSettled (gateway later : Gateway) : Prop :=
  ∀ uid name, gateway.pluginsNamed uid name ≠ [] → later.pluginsNamed uid name = gateway.pluginsNamed uid name

variable {gateway middle : Gateway}

theorem PluginsSettled.refl (gateway : Gateway) : gateway.PluginsSettled gateway := fun _ _ _ => rfl

/-- A write that leaves the plugins alone keeps them settled. -/
theorem PluginsSettled.of_plugins {later : Gateway} (settled : gateway.PluginsSettled middle)
    (same : later.plugins = middle.plugins) : gateway.PluginsSettled later := fun uid name held => by
  rw [← settled uid name held]
  simp only [pluginsNamed, listPlugins, same]

/-- **Attaching plugins whose names the API lacks keeps the plugins settled**: on the API's id,
every name it had a plugin of is none of theirs. -/
theorem PluginsSettled.attachPlugins (settled : gateway.PluginsSettled middle) (uid : Nat) {plugins : List Plugin}
    (fresh : ∀ plugin ∈ plugins, (middle.listPlugins uid).any (·.name == plugin.name) = false) :
    gateway.PluginsSettled (middle.attachPlugins uid plugins) := fun other name held => by
  by_cases same : other = uid
  · subst same
    obtain ⟨present, member⟩ := List.exists_mem_of_ne_nil _ (settled other name held ▸ held)
    obtain ⟨onApi, named⟩ := List.mem_filter.mp member
    have none : plugins.filter (·.name == name) = [] := List.filter_eq_nil_iff.mpr fun plugin created same => by
      have absent := fresh plugin created
      simp only [List.any_eq_false, beq_iff_eq] at absent named same
      exact absent present onApi (named.trans same.symm)
    rw [← settled other name held, pluginsNamed, listPlugins_attachPlugins, List.filter_append, none,
      List.append_nil, pluginsNamed]
  · rw [← settled other name held, pluginsNamed, listPlugins_attachPlugins_of_ne _ _ same, pluginsNamed]

/-- The JWT credentials of a consumer. -/
def credentialsOf (gateway : Gateway) (username : String) : List (String × JwtCredential) :=
  gateway.jwtCredentials.filter (·.1 == username)

/-- A later gateway has, for every consumer with a JWT credential in the earlier one, the same
credentials. -/
def CredentialsSettled (gateway later : Gateway) : Prop :=
  ∀ username, gateway.credentialsOf username ≠ [] →
    later.credentialsOf username = gateway.credentialsOf username

theorem CredentialsSettled.refl (gateway : Gateway) : gateway.CredentialsSettled gateway := fun _ _ => rfl

/-- A write that leaves the credentials alone keeps them settled. -/
theorem CredentialsSettled.of_credentials {later : Gateway} (settled : gateway.CredentialsSettled middle)
    (same : later.jwtCredentials = middle.jwtCredentials) : gateway.CredentialsSettled later :=
  fun username held => by
    rw [← settled username held]
    simp only [credentialsOf, same]

/-- **A credential created only for a consumer without one keeps the credentials settled**: every
consumer that had one still has one, so it is not the consumer created for. -/
theorem CredentialsSettled.withJWTCredential (settled : gateway.CredentialsSettled middle) (host publicKey : String) :
    gateway.CredentialsSettled (middle.withJWTCredential host publicKey) := by
  unfold Gateway.withJWTCredential
  split_ifs with none
  · intro username held
    have other : host ≠ username := by
      rintro rfl
      exact held (settled host held ▸ List.length_eq_zero.mp none)
    rw [← settled username held, credentialsOf, createJWTCredential, List.filter_append]
    simp [credentialsOf, other]
  · exact settled

end Gateway

namespace KongController

variable (k : KongController)

/-- **Each write of a path's iteration keeps the plugins settled**: the API's write, the
certificates and the consumer leave the plugins alone, and the plugins created are those whose
name the API lacks. -/
theorem keptByPathWrites_pluginsSettled (gateway : Gateway) :
    k.KeptByPathWrites gateway.PluginsSettled where
  writeApi _ body settled := settled.of_plugins (Gateway.writeApi_plugins _ body)
  attachPlugins _ uid _ settled := settled.attachPlugins uid fun _ created =>
    Bool.not_eq_true' _ ▸ (List.mem_filter.mp created).2
  postCertificates _ _ settled := settled.of_plugins rfl
  withAuth0 _ host key settled := settled.of_plugins (Gateway.withAuth0_plugins _ host key)

/-- **Each write of a path's iteration keeps the credentials settled**: only the Auth0 step writes
credentials, after it made the consumer, and creates one only for a consumer without one. -/
theorem keptByPathWrites_credentialsSettled (gateway : Gateway) :
    k.KeptByPathWrites gateway.CredentialsSettled where
  writeApi _ body settled := settled.of_credentials (Gateway.writeApi_jwtCredentials _ body)
  attachPlugins _ _ _ settled := settled.of_credentials rfl
  postCertificates _ _ settled := settled.of_credentials rfl
  withAuth0 _ host key settled := by
    unfold Gateway.withAuth0
    split
    · exact (settled.of_credentials (Gateway.withConsumer_jwtCredentials _ host)).withJWTCredential _ _
    · exact settled

end KongController

namespace Controller

/-- **A plugin's configuration is set once**: when no two syncs interleave, in every run of
users' writes and whole syncs, each API of the state reached has, for every name it had a plugin
of in the state the run started from, exactly the plugins of that name it had there. A changed
`kolihub.io/plugin-<name>` annotation is never applied, and a removed one never detaches its
plugin. -/
theorem run_settles_plugins (k : KongController) (actions : List Action) {c next : Controller}
    (reached : Controller.run k actions c = some next) :
    ∀ api ∈ next.world.gateway.apis, ∀ name, c.world.gateway.pluginsNamed api.uid name ≠ [] →
      next.world.gateway.pluginsNamed api.uid name = c.world.gateway.pluginsNamed api.uid name :=
  fun api _ => run_keeps_gateway k (k.keptByPathWrites_pluginsSettled _) (fun _ _ settled => settled.of_plugins rfl)
    actions (Gateway.PluginsSettled.refl _) reached api.uid

/-- **A consumer's JWT credential is set once**: when no two syncs interleave, in every run of
users' writes and whole syncs, every consumer that had a JWT credential in the state the run
started from has exactly the credentials it had there. A key the identity provider rotates never
replaces the one the gateway verifies tokens with. -/
theorem run_settles_credentials (k : KongController) (actions : List Action) {c next : Controller}
    (reached : Controller.run k actions c = some next) :
    ∀ username, c.world.gateway.credentialsOf username ≠ [] →
      next.world.gateway.credentialsOf username = c.world.gateway.credentialsOf username :=
  run_keeps_gateway k (k.keptByPathWrites_credentialsSettled _) (fun _ _ settled => settled.of_credentials rfl)
    actions (Gateway.CredentialsSettled.refl _) reached

end Controller

/-! ### A key-auth configuration changed after the first sync -/

/-- `kongWebIngress` with a `key-auth` plugin annotation of the given configuration. -/
def keyAuthIngress (config : String) : Ingress :=
  { kongWebIngress with
    annotations := [(ingressClassKey, "kong"), ("kolihub.io/plugin-key-auth", config)]
    annotations_nodup := by simp only [List.map_cons, List.map_nil]; decide }

/-- The controller once `web` and its ingress, reading keys from `apikey`, are created and
synced. -/
def keyAuthSynced : Controller :=
  (Controller.run KongController.standard
    [.user (.createService webService), .user (.createIngress (keyAuthIngress "\x7b\"key_names\":[\"apikey\"]\x7d")),
      .workService "default/web", .workIngress "default/web", .workService "default/web"]
    (Controller.start World.empty.identityProvider)).getD (Controller.start World.empty.identityProvider)

/-- The user changes the annotation to read keys from `token`, and the ingress is synced again. -/
def keyAuthChanged : List Action :=
  [.user (.updateIngress (keyAuthIngress "\x7b\"key_names\":[\"token\"]\x7d")), .workIngress "default/web"]

/-- The controller once `keyAuthChanged` has run. -/
def keyAuthResynced : Controller :=
  (Controller.run KongController.standard keyAuthChanged keyAuthSynced).getD keyAuthSynced

theorem keyAuth_config_settled :
    Controller.run KongController.standard keyAuthChanged keyAuthSynced = some keyAuthResynced ∧
      ∀ api ∈ keyAuthResynced.world.gateway.apis, ∀ name, keyAuthSynced.world.gateway.pluginsNamed api.uid name ≠ [] →
        keyAuthResynced.world.gateway.pluginsNamed api.uid name = keyAuthSynced.world.gateway.pluginsNamed api.uid name :=
  have reached : Controller.run KongController.standard keyAuthChanged keyAuthSynced = some keyAuthResynced := rfl
  ⟨reached, Controller.run_settles_plugins KongController.standard keyAuthChanged reached⟩

/-- The ingress reads keys from `token`; the gateway's plugin still from `apikey`. -/
example :
    keyAuthResynced.world.cluster.ingresses.map (fun ing => ing.annotation "kolihub.io/plugin-key-auth") =
        ["\x7b\"key_names\":[\"token\"]\x7d"] ∧
      keyAuthResynced.world.gateway.plugins.map (·.2.config) = ["\x7b\"key_names\":[\"apikey\"]\x7d"] := by
  decide

/-! ### A key the identity provider rotates -/

/-- A PEM document other than `pemDocument`: the certificate of another P-256 key. -/
def rotatedPemDocument : List UInt8 :=
  asciiBytes <|
    "-----BEGIN CERTIFICATE-----\n" ++
    "MIIBATCBqAIBAjAKBggqhkjOPQQDAjAMMQowCAYDVQQDDAFhMCAXDTI2MTEwOTA2\n" ++
    "MjM0MVoYDzIxMjYxMDE2MDYyMzQxWjAMMQowCAYDVQQDDAFhMFkwEwYHKoZIzj0C\n" ++
    "AQYIKoZIzj0DAQcDQgAEPpXCu/5Wj3B8BxuuCQieizJjhrHjU2280RDF+9skUSRD\n" ++
    "6MPWtnJARnj8Oe/SSqSZqxlPRW2fSej/0yFbW0hX2zAKBggqhkjOPQQDAgNIADBF\n" ++
    "AiB9bR4u/fXkq6SvZ5eeM5fF6ItekkYP9B7yS1BAhR8ixwIhAPjB7aySu6Nbqcpy\n" ++
    "hmVVK+Be5ANsb+HfYrcs6803pY3r\n" ++
    "-----END CERTIFICATE-----\n"

/-- `tenantsSerial`, its identity provider now serving `rotatedPemDocument`. -/
def tenantsRotated : Controller :=
  { tenantsSerial with world := { tenantsSerial.world with identityProvider := fun _ => .ok rotatedPemDocument } }

/-- The user writes ingress `a` again, and it is synced. -/
def tenantResync : List Action := [.user (.updateIngress (tenantIngress "a")), .workIngress "default/a"]

/-- The controller once `tenantResync` has run. -/
def tenantsResynced : Controller :=
  (Controller.run KongController.standard tenantResync tenantsRotated).getD tenantsRotated

set_option maxRecDepth 2000 in
theorem tenant_credentials_settled :
    Controller.run KongController.standard tenantResync tenantsRotated = some tenantsResynced ∧
      ∀ username, tenantsRotated.world.gateway.credentialsOf username ≠ [] →
        tenantsResynced.world.gateway.credentialsOf username = tenantsRotated.world.gateway.credentialsOf username :=
  have reached : Controller.run KongController.standard tenantResync tenantsRotated = some tenantsResynced := rfl
  ⟨reached, Controller.run_settles_credentials KongController.standard tenantResync reached⟩

set_option maxRecDepth 2000 in
/-- The resync returns nil and keeps the credential made from `pemDocument`. -/
example :
    tenantsResynced.ingQueue.failing = [] ∧
      tenantsResynced.world.gateway.jwtCredentials.map (·.2.rsaPublicKey) =
        [String.mk (pemDocument.map fun byte => Char.ofNat byte.toNat)] :=
  ⟨rfl, rfl⟩

end KongIngress
