/-
**Where a sync dereferences nil.**

`syncIngress` reads three values the Go code never checks: the API record after a tolerated
`Conflict` from `UpdateOrCreate`, the HTTP response of a failed `GetConsumer`, and the PEM block
`pem.Decode` finds in the identity provider's document.

* `syncIngress_nilDereference_pem` — against the store, where `UpdateOrCreate` always returns
  the record and `GetConsumer` always answers, the only nil dereference left is the PEM block's:
  the ingress names an identity-provider host whose document holds no PEM block.
* `syncIngress_dereferences_nil` — each of the three is reached: a host serving a document
  without a PEM block, a gateway answering `UpdateOrCreate` with a conflict and no record, and a
  `GetConsumer` that fails with no response.
-/

import KongIngress.Correctness.Collect

namespace KongIngress

namespace KongController

variable (k : KongController)

theorem run_identityProvider {α : Type} (x : Prog α) (world : World) :
    (x.run World.answer world).2.identityProvider = world.identityProvider :=
  Prog.run_keeps World.answer (fun later => later.identityProvider = world.identityProvider)
    (fun c _ same => by cases c <;> exact same) x rfl

theorem configureApi_nilDereference (world : World) (ing : Ingress) (api : Api)
    (crashes : ((k.configureApi ing (some api)).run World.answer world).1 = .nilDereference) :
    k.auth0Key world.identityProvider ing = .nilDereference := by
  simp only [configureApi, Prog.bind_eq, Prog.run_bind, run_configurePluginsForAPI,
    run_tryConfigureCertificates, run_tryAutoConfigureAuth0] at crashes
  rcases decoded : (k.decodePlugins ing ing.annotations).2 with _ | err
  · rcases certs : (certificatesFor world.cluster ing).2 with _ | err
    · rcases auth : k.auth0Key world.identityProvider ing with _ | _ | _ <;>
        simp [decoded, certs, auth, postCertificates, Outcome.map] at crashes ⊢
    · simp [decoded, certs, postCertificates] at crashes
  · simp [decoded] at crashes

/-- A path's iteration dereferences nil, against the store, only in `TryAutoConfigureAuth0`. -/
theorem syncPath_nilDereference (world : World) (ing : Ingress) (r : IngressRule)
    (p : HTTPIngressPath)
    (crashes : ((k.syncPath ing r p).run World.answer world).1 = .nilDereference) :
    k.auth0Key world.identityProvider ing = .nilDereference := by
  simp only [syncPath, Prog.bind_eq, Prog.send_bind, Prog.run_call, World.answer_listServices]
    at crashes
  by_cases listed : world.cluster.services.any
      (fun svc => svc.name == p.backend.serviceName && svc.ns == ing.ns) = true
  · simp only [listed, Bool.not_true, Bool.false_eq_true, if_false, Prog.run_call,
      World.answer_patchServiceFinalizer] at crashes
    cases patched : (world.cluster.patchServiceFinalizer ing.ns p.backend.serviceName k.finalizer).1 with
    | some err => simp [patched] at crashes
    | none =>
      simp only [patched, Prog.run_call, World.answer_getApi] at crashes
      have fresh : (k.apiBody ing r p).uid = 0 := rfl
      cases found : world.gateway.getApi (k.apiBody ing r p).name with
      | none =>
        simp only [found, Option.elim_none, ne_eq, not_true_eq_false, if_false] at crashes
        rw [run_upsertApi k { world with cluster := (world.cluster.patchServiceFinalizer ing.ns
          p.backend.serviceName k.finalizer).2 } ing _ fresh found] at crashes
        exact (k.configureApi_nilDereference _ ing _ crashes :)
      | some api =>
        simp only [found, Option.elim_some] at crashes
        rw [run_upsertApi k { world with cluster := (world.cluster.patchServiceFinalizer ing.ns
          p.backend.serviceName k.finalizer).2 } ing _ fresh found] at crashes
        exact (k.configureApi_nilDereference _ ing _ crashes :)
  · simp [listed] at crashes

/-- **Against the store, a sync dereferences nil only at the PEM block**: the ingress the key
finds names an identity-provider host, and the document the host serves holds no PEM block. -/
theorem syncIngress_nilDereference_pem (world : World) (key : String) (numRequeues : Nat)
    (crashes : ((k.syncIngress key numRequeues).run World.answer world).1 = .nilDereference) :
    ∃ ing certBuf, world.cluster.getIngress key = some ing ∧
      ing.annotation jwtAuth0DomainAnnotation ≠ "" ∧
      world.identityProvider (ing.annotation jwtAuth0DomainAnnotation) = .ok certBuf ∧
      k.pemDecode certBuf = none := by
  rw [run_syncIngress] at crashes
  cases found : world.cluster.getIngress key with
  | none => simp [found] at crashes
  | some ing =>
    simp only [found] at crashes
    have marked : (k.markedDirty world ing numRequeues).identityProvider = world.identityProvider := by
      unfold markedDirty; split_ifs <;> rfl
    obtain ⟨path, _, mid, sameProvider, crash⟩ := Prog.run_forEach_nilDereference World.answer
      (fun later => later.identityProvider = world.identityProvider)
      (fun _ state same => (run_identityProvider _ state).trans same) _ marked crashes
    have auth := k.syncPath_nilDereference mid ing path.1 path.2 crash
    rw [sameProvider] at auth
    simp only [auth0Key] at auth
    split_ifs at auth with named
    cases served : world.identityProvider (ing.annotation jwtAuth0DomainAnnotation) with
    | error err => simp [served] at auth
    | ok certBuf =>
      refine ⟨ing, certBuf, rfl, named, served, ?_⟩
      simp only [served] at auth
      cases decoded : k.pemDecode certBuf
      · rfl
      · split at auth
        · rename_i noBlock
          simp [publicKeyPEM, decoded] at noBlock
        · cases auth
        · cases auth

end KongController

/-! ### The three dereferences -/

/-- `webIngress` with the `kolihub.io/x-jwt-auth0-domain` annotation naming `tenant.example.com`. -/
def auth0Ingress : Ingress :=
  { webIngress with
    annotations := [("kolihub.io/x-jwt-auth0-domain", "tenant.example.com")]
    annotations_nodup := by decide }

/-- The world of `auth0Ingress` and its service, whose identity provider serves `document`. -/
def auth0World (document : List UInt8) : World :=
  { webWorld Gateway.empty with
    cluster := { (webWorld Gateway.empty).cluster with ingresses := [auth0Ingress] }
    identityProvider := fun _ => .ok document }

theorem syncIngress_nilDereference_pem_tenant :
    ((KongController.standard.syncIngress "default/web" 0).run World.answer
        (auth0World [0x6e, 0x6f])).1 = .nilDereference ∧
      ∃ ing certBuf, (auth0World [0x6e, 0x6f]).cluster.getIngress "default/web" = some ing ∧
        ing.annotation jwtAuth0DomainAnnotation ≠ "" ∧
        (auth0World [0x6e, 0x6f]).identityProvider (ing.annotation jwtAuth0DomainAnnotation) =
          .ok certBuf ∧
        KongController.standard.pemDecode certBuf = none :=
  have crashes : ((KongController.standard.syncIngress "default/web" 0).run World.answer
      (auth0World [0x6e, 0x6f])).1 = .nilDereference := by decide
  ⟨crashes, KongController.standard.syncIngress_nilDereference_pem _ _ _ crashes⟩

/-- A PEM document holding a self-signed certificate of a P-256 key, which Go's `pem.Decode` and
`x509.ParseCertificate` accept. -/
def pemDocument : List UInt8 :=
  asciiBytes <|
    "-----BEGIN CERTIFICATE-----\n" ++
    "MIIBATCBqAIBATAKBggqhkjOPQQDAjAMMQowCAYDVQQDDAFhMCAXDTI2MTEwOTA1\n" ++
    "NTgyN1oYDzIxMjYxMDE2MDU1ODI3WjAMMQowCAYDVQQDDAFhMFkwEwYHKoZIzj0C\n" ++
    "AQYIKoZIzj0DAQcDQgAEpse7k6P8oQ4NUJHFhS/QlVB8RpH/VkagTBm/n+akuSqK\n" ++
    "5hQq8xWAASRQEU6ffUR5+DnRHltzl5Km8hD4zXedUzAKBggqhkjOPQQDAgNIADBF\n" ++
    "AiEA9FG909TbvEpPIx2vNov4A1zLffVWDGyLO5QKb3InzJ8CICBVYkeabBTNiUgW\n" ++
    "Mg/o0NJhMefcnrHCDVA2t/iHMY7g\n" ++
    "-----END CERTIFICATE-----\n"

/-- A gateway that answers every `UpdateOrCreate` with a conflict and no record, and every
other call from the store. -/
def conflictingAnswer : (c : Call) → World → c.Response × World
  | .updateOrCreateApi _, world => ((none, some .conflict), world)
  | c, world => World.answer c world

/-- A gateway whose `GET /consumers/{name}` fails with no HTTP response, and that answers every
other call from the store. -/
def unreachableConsumerAnswer : (c : Call) → World → c.Response × World
  | .getConsumer _, world => ((some "dial tcp: i/o timeout", none), world)
  | c, world => World.answer c world

set_option maxRecDepth 2000 in
/-- **Each unchecked value is dereferenced**: the PEM block of a document that has none, the
record of a conflicting `UpdateOrCreate`, the response of a `GetConsumer` that got none. -/
theorem syncIngress_dereferences_nil :
    ((KongController.standard.syncIngress "default/web" 0).run World.answer
        (auth0World [0x6e, 0x6f])).1 = .nilDereference ∧
      ((KongController.standard.syncIngress "default/web" 0).run conflictingAnswer
        (webWorld Gateway.empty)).1 = .nilDereference ∧
      ((KongController.standard.syncIngress "default/web" 0).run unreachableConsumerAnswer
        (auth0World pemDocument)).1 = .nilDereference := by
  decide

end KongIngress
