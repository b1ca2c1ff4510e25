/-
**What `syncIngress` configures for an API: plugins, certificates, the JWT consumer.**

* `configurePluginsForAPI uuid ing` — `ConfigurePluginsForAPI`: for each annotation
  `kolihub.io/plugin-<name>`, in the order Go's `range` visits the map, decode the value into the
  schema of `<name>` (an unknown name or a bad value returns the error at once), list the API's
  plugins, and create the plugin unless one of that name is attached. An existing plugin's
  config is never updated.
* `tryConfigureCertificates ing` — `TryConfigureCertificates`: for each TLS entry and each of
  its hosts, load the secret, require the TLS type, and post a certificate for the host.
* `tryAutoConfigureAuth0 ing` — `TryAutoConfigureAuth0`: when the annotation names a host, fetch
  its PEM certificate, re-encode the public key, make sure the consumer exists, and give it a
  JWT credential when it has none. A document with no PEM block, and a failed `GetConsumer`
  that carries no response, are dereferenced as Go does (`nilDereference`).
-/

import KongIngress.Controller.Naming
import KongIngress.Model.Prog

namespace KongIngress

/-- `pluginPrefix`. -/
def pluginPrefix : String := "kolihub.io/plugin-"

/-- `jwtAuth0DomainAnnotation`. -/
def jwtAuth0DomainAnnotation : String := "kolihub.io/x-jwt-auth0-domain"

/-- The schema `ConfigurePluginsForAPI` decodes each recognized plugin name into. -/
def pluginSchema (pluginname : String) : Option PluginSchema :=
  if pluginname = "key-auth" then some .keyAuth
  else if pluginname = "cors" then some .cors
  else if pluginname = "jwt" then some .jwt
  else if pluginname = "rate-limiting" then some .rateLimiting
  else none

namespace KongController

variable (k : KongController)

open Prog (send fail forEach)

/-! ### `ConfigurePluginsForAPI` -/

/-- The decoded plugin of one `kolihub.io/plugin-<name>` annotation, or the error that ends
`ConfigurePluginsForAPI` before any call. -/
def decodePlugin (ing : Ingress) (a annotationValue : String) : Except String Plugin :=
  let pluginname := trimPrefix a pluginPrefix
  match pluginSchema pluginname with
  | none => .error s!"Invlaid plugin '{pluginname}' specificied for ing/{ing.ns}/{ing.name} with annotation {a}"
  | some schema => (k.jsonUnmarshal schema annotationValue).map fun config => ⟨pluginname, config⟩

/-- Attach a decoded plugin to the API unless one of its name is there. -/
def ensurePlugin (uuid : Nat) (plugin : Plugin) : Prog Unit := do
  match ← send (.listPlugins uuid) with
  | .error err => fail err
  | .ok list =>
    if list.any (·.name == plugin.name) then pure ()
    else
      match ← send (.createPlugin uuid plugin) with
      | some err => fail err
      | none => pure ()

/-- The body of `ConfigurePluginsForAPI`'s loop, for one annotation. -/
def configurePlugin (uuid : Nat) (ing : Ingress) (entry : String × String) : Prog Unit :=
  if hasPrefix entry.1 pluginPrefix then
    match k.decodePlugin ing entry.1 entry.2 with
    | .error err => fail err
    | .ok plugin => ensurePlugin uuid plugin
  else pure ()

/-- `ConfigurePluginsForAPI`, over the annotations in the order the loop visits them. The
function's last `return err` returns the outer `err`, which is nil whenever the loop ends. -/
def configurePluginsForAPI (uuid : Nat) (ing : Ingress) : Prog Unit :=
  forEach ing.annotations (k.configurePlugin uuid ing)

/-! ### `TryConfigureCertificates` -/

/-- The body of the inner loop: post the secret's certificate for one host. -/
def configureCertificate (ing : Ingress) (t : IngressTLS) (h : String) : Prog Unit := do
  match ← send (.getSecret ing.ns t.secretName) with
  | .error err => fail err
  | .ok secret =>
    if secret.type ≠ secretTypeTLS then
      fail s!"Secret Specified for Ingress is not a TLS Secret (found {secret.type} instead)"
    else
      match ← send (.createCertificate ⟨secret.datum "tls.crt", secret.datum "tls.key", [h]⟩) with
      | some err => fail err
      | none => pure ()

/-- `TryConfigureCertificates`. -/
def tryConfigureCertificates (ing : Ingress) : Prog Unit :=
  forEach ing.spec.tls fun t => forEach t.hosts (configureCertificate ing t)

/-! ### `TryAutoConfigureAuth0` -/

/-- The consumer step: `GetConsumer`, and on an error a `CreateConsumer` when the response says
404. The response is read whenever there is an error. -/
def ensureConsumer (host : String) : Prog Unit := do
  let (err, res) ← send (.getConsumer host)
  match err with
  | none => pure ()
  | some err =>
    match res with
    | none => .nilDereference
    | some res =>
      if res.statusCode = 404 then
        match ← send (.createConsumer host) with
        | some err => fail err
        | none => pure ()
      else fail err

/-- The credential step: a JWT credential for the consumer when it has none. -/
def ensureJWTCredential (host publicKey : String) : Prog Unit := do
  match ← send (.listJWTCredentials host) with
  | .error err => fail err
  | .ok total =>
    if total = 0 then
      match ← send (.createJWTCredential host ⟨"RS256", publicKey, "https://" ++ host ++ "/"⟩) with
      | some err => fail err
      | none => pure ()
    else pure ()

/-- The public key of the identity provider's PEM document, re-encoded as a `PUBLIC KEY` PEM
block; `none` when `pem.Decode` finds no block, which Go then dereferences. -/
def publicKeyPEM (certBuf : List UInt8) : Option (Except String String) :=
  (k.pemDecode certBuf).map fun block => do
    let cert ← k.parseCertificate block.bytes
    let asn1Bytes ← k.marshalPKIXPublicKey cert.publicKey
    k.pemEncode ⟨"PUBLIC KEY", asn1Bytes⟩

/-- `TryAutoConfigureAuth0`. -/
def tryAutoConfigureAuth0 (ing : Ingress) : Prog Unit := do
  let host := ing.annotation jwtAuth0DomainAnnotation
  if host = "" then pure ()
  else
    match ← send (.getPEM host) with
    | .error err => fail err
    | .ok certBuf =>
      match k.publicKeyPEM certBuf with
      | none => .nilDereference
      | some (.error err) => fail err
      | some (.ok buf) => do
        ensureConsumer host
        ensureJWTCredential host buf

end KongController

end KongIngress
