/-
**Certificates and the JWT consumer, against a world that answers from its state.**

* `run_tryConfigureCertificates` — the certificates posted are `certificatesFor`: one per host of
  each TLS entry, read from the cluster's secrets, up to the first missing or non-TLS secret.
  Nothing but the gateway's certificate list changes.
* `run_tryAutoConfigureAuth0` — without the annotation nothing happens; otherwise the identity
  provider's document is fetched and re-encoded, and the consumer and its credential are made
  to exist (`withConsumer`, `withJWTCredential`). A document with no PEM block is dereferenced.
-/

import KongIngress.Run.Store

namespace KongIngress

namespace KongController

variable (k : KongController)

/-! ### `TryConfigureCertificates` -/

/-- The certificate posted for one host of a TLS entry, or the error that stops the loop. -/
def certificateFor (cluster : Cluster) (ing : Ingress) (t : IngressTLS) (h : String) :
    Except String Certificate :=
  match cluster.getSecret ing.ns t.secretName with
  | none => .error (Cluster.notFound "secrets" t.secretName)
  | some secret =>
    if secret.type ≠ secretTypeTLS then
      .error s!"Secret Specified for Ingress is not a TLS Secret (found {secret.type} instead)"
    else .ok ⟨secret.datum "tls.crt", secret.datum "tls.key", [h]⟩

/-- `certificateFor` as one iteration's output. -/
def certificatePiece (cluster : Cluster) (ing : Ingress) (t : IngressTLS) (h : String) :
    List Certificate × Option String :=
  match certificateFor cluster ing t h with
  | .ok certificate => ([certificate], none)
  | .error err => ([], some err)

/-- The certificates posted for the hosts of one TLS entry, and the error that stops them. -/
def tlsCertificates (cluster : Cluster) (ing : Ingress) (t : IngressTLS) :
    List Certificate × Option String :=
  Prog.joinUntilError (t.hosts.map (certificatePiece cluster ing t))

/-- The certificates `TryConfigureCertificates` posts, and the error that stops it. -/
def certificatesFor (cluster : Cluster) (ing : Ingress) : List Certificate × Option String :=
  Prog.joinUntilError (ing.spec.tls.map (tlsCertificates cluster ing))

/-- **A TLS entry that lists a host and names a secret that is missing, or not of type
`kubernetes.io/tls`, stops the certificates with an error**: the secret is read for each host of
the entry. -/
theorem certificatesFor_error {cluster : Cluster} {ing : Ingress} {t : IngressTLS}
    (declared : t ∈ ing.spec.tls) (hosted : t.hosts ≠ [])
    (bad : ∀ secret, cluster.getSecret ing.ns t.secretName = some secret → secret.type ≠ secretTypeTLS) :
    (certificatesFor cluster ing).2 ≠ none := by
  obtain ⟨h, rest, hosts⟩ := List.exists_cons_of_ne_nil hosted
  have failed : (certificatePiece cluster ing t h).2 ≠ none := by
    unfold certificatePiece certificateFor
    cases found : cluster.getSecret ing.ns t.secretName with
    | none => simp
    | some secret => simp [bad secret found]
  intro joined
  rw [certificatesFor, Prog.joinUntilError_snd_eq_none] at joined
  have entry := joined _ (List.mem_map_of_mem _ declared)
  rw [tlsCertificates, Prog.joinUntilError_snd_eq_none] at entry
  exact failed (entry _ (List.mem_map_of_mem _ (hosts ▸ List.mem_cons_self h rest)))

/-- Posting certificates, as a change of the world. -/
def postCertificates (certificates : List Certificate) (world : World) : World :=
  { world with gateway := world.gateway.postCertificates certificates }

@[simp] theorem postCertificates_nil (world : World) : postCertificates [] world = world := by
  simp [postCertificates]

theorem postCertificates_append (first second : List Certificate) (world : World) :
    postCertificates (first ++ second) world =
      postCertificates second (postCertificates first world) := by
  simp [postCertificates]

theorem run_configureCertificate (world : World) (ing : Ingress) (t : IngressTLS) (h : String) :
    (configureCertificate ing t h).run World.answer world =
      ((certificatePiece world.cluster ing t h).2.elim (.ok ()) .error,
        postCertificates (certificatePiece world.cluster ing t h).1 world) := by
  simp only [configureCertificate, certificatePiece, certificateFor, Prog.bind_eq,
    Prog.send_bind, Prog.run_call, World.answer_getSecret]
  cases world.cluster.getSecret ing.ns t.secretName with
  | none => simp
  | some secret =>
    by_cases tls : secret.type = secretTypeTLS <;>
      simp [tls, postCertificates, Gateway.postCertificates, Gateway.createCertificate]

theorem run_configureTLS (world : World) (ing : Ingress) (t : IngressTLS) :
    (Prog.forEach t.hosts (configureCertificate ing t)).run World.answer world =
      ((tlsCertificates world.cluster ing t).2.elim (.ok ()) .error,
        postCertificates (tlsCertificates world.cluster ing t).1 world) :=
  Prog.run_forEach_join World.answer postCertificates postCertificates_nil postCertificates_append
    (fun h world => certificatePiece world.cluster ing t h) (fun _ _ _ => rfl) _
    (fun h world => run_configureCertificate world ing t h) _ _

/-- **`TryConfigureCertificates` against the store** posts `certificatesFor` and stops at its
error; it reads only the cluster's secrets. -/
theorem run_tryConfigureCertificates (world : World) (ing : Ingress) :
    (tryConfigureCertificates ing).run World.answer world =
      ((certificatesFor world.cluster ing).2.elim (.ok ()) .error,
        postCertificates (certificatesFor world.cluster ing).1 world) :=
  Prog.run_forEach_join World.answer postCertificates postCertificates_nil postCertificates_append
    (fun t world => tlsCertificates world.cluster ing t) (fun _ _ _ => rfl) _
    (fun t world => run_configureTLS world ing t) _ _

/-! ### `TryAutoConfigureAuth0` -/

theorem run_ensureConsumer (world : World) (host : String) :
    (ensureConsumer host).run World.answer world =
      (.ok (), { world with gateway := world.gateway.withConsumer host }) := by
  simp only [ensureConsumer, Prog.bind_eq, Prog.send_bind, Prog.run_call, World.answer_getConsumer,
    Gateway.withConsumer]
  split_ifs <;> rfl

theorem run_ensureJWTCredential (world : World) (host publicKey : String) :
    (ensureJWTCredential host publicKey).run World.answer world =
      (.ok (), { world with gateway := world.gateway.withJWTCredential host publicKey }) := by
  simp only [ensureJWTCredential, Prog.bind_eq, Prog.send_bind, Prog.run_call,
    World.answer_listJWTCredentials, Gateway.withJWTCredential]
  split_ifs <;> rfl

/-- How `TryAutoConfigureAuth0` ends for an ingress, given what the identity provider serves:
with the public key it registers for the annotation's host (`none` without the annotation), with
an error, or with a nil dereference. -/
def auth0Key (identityProvider : String → Except String (List UInt8)) (ing : Ingress) :
    Outcome (Option String) :=
  let host := ing.annotation jwtAuth0DomainAnnotation
  if host = "" then .ok none
  else
    match identityProvider host with
    | .error err => .error err
    | .ok certBuf =>
      match k.publicKeyPEM certBuf with
      | none => .nilDereference
      | some (.error err) => .error err
      | some (.ok publicKey) => .ok (some publicKey)

/-- With the annotation, a key that goes through is a key. -/
theorem auth0Key_eq_ok (identityProvider : String → Except String (List UInt8)) (ing : Ingress)
    {key : Option String} (named : ing.annotation jwtAuth0DomainAnnotation ≠ "")
    (ok : k.auth0Key identityProvider ing = .ok key) : ∃ publicKey, key = some publicKey := by
  simp only [auth0Key, named, if_false] at ok
  split at ok
  · cases ok
  · split at ok <;> cases ok
    exact ⟨_, rfl⟩

/-- **`TryAutoConfigureAuth0` against the store**: it ends as `auth0Key` says, with the
consumer and credential made when it goes through with a key. -/
theorem run_tryAutoConfigureAuth0 (world : World) (ing : Ingress) :
    (k.tryAutoConfigureAuth0 ing).run World.answer world =
      ((k.auth0Key world.identityProvider ing).map fun _ => (),
        { world with
          gateway := world.gateway.withAuth0 (ing.annotation jwtAuth0DomainAnnotation)
            (k.auth0Key world.identityProvider ing) }) := by
  simp only [tryAutoConfigureAuth0, auth0Key]
  split_ifs with empty
  · rfl
  · simp only [Prog.bind_eq, Prog.send_bind, Prog.run_call, World.answer_getPEM]
    cases world.identityProvider (ing.annotation jwtAuth0DomainAnnotation) with
    | error err => rfl
    | ok certBuf =>
      dsimp only
      rcases k.publicKeyPEM certBuf with _ | _ | publicKey
      · rfl
      · rfl
      · simp only [Prog.run_bind, run_ensureConsumer, run_ensureJWTCredential]
        rfl

end KongController

end KongIngress
