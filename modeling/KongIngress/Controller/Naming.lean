/-
**What the controller reads besides its calls, and the names it builds.**

* `KongController` — the controller's configuration (`cfg`), and the package constants and
  library functions its methods use that are not in this package's source: `GenAdler32Hash`,
  `kong.Finalizer`, `autoClaimMaxRetries`, `json.Unmarshal` into a plugin schema, and the
  `encoding/pem` and `crypto/x509` functions of the identity-provider bootstrap.
* `getUpstream` — `{proto}://{svcName}.{ns}.{ClusterDNS}:{svcPort}`, with `protoFor`, the scheme
  both sync functions choose (`https` for port 443).
* `normalizePath`, `apiName` — the API name `{host}~{namespace}~{hash}` of an ingress path.
* `apiName_inj`: with namespaces and hash values free of `~`, two paths get one name exactly
  when host, namespace and hash of the normalized path agree (the empty path normalizes to the
  root, `normalizePath_empty`), whatever the hosts contain (`append_sep_inj`: a
  separator that occurs in neither tail splits a list at one place only).
* `getUpstream_inj`: with namespaces free of `.`, one upstream comes from one namespace, one
  service name and one port, whatever the service names and the cluster DNS suffix contain. The
  port's `%d` holds no colon and reads back to the port (`readDecimal_toDigitsCore`).
-/

import KongIngress.Model.Kong

namespace KongIngress

/-- `controller.Config`, of which the sync code reads `ClusterDNS`. -/
structure Config where
  clusterDNS : String

/-- A PEM block (`pem.Block`): its type and its bytes. -/
structure PemBlock where
  type : String
  bytes : List UInt8

/-- An X.509 certificate, of which the controller reads the public key. -/
structure X509Certificate where
  publicKey : List UInt8

/-- What `KongController`'s methods read that is neither a call nor an argument. -/
structure KongController where
  cfg : Config
  genAdler32Hash : String → String
  finalizer : String
  autoClaimMaxRetries : Nat
  jsonUnmarshal : PluginSchema → String → Except String String
  pemDecode : List UInt8 → Option PemBlock
  parseCertificate : List UInt8 → Except String X509Certificate
  marshalPKIXPublicKey : List UInt8 → Except String (List UInt8)
  pemEncode : PemBlock → Except String String

/-- Modelled from the spec: `GenAdler32Hash`, whose source is not among the files. "The hash is
Adler-32 of the normalized path encoded as decimal": the checksum of the UTF-8 bytes. -/
def genAdler32Hash (text : String) : String :=
  let sums := (text.toList.flatMap String.utf8EncodeChar).foldl (fun (sums : Nat × Nat) byte =>
    let a := (sums.1 + byte.toNat) % 65521
    (a, (sums.2 + a) % 65521)) (1, 0)
  toString (sums.2 * 65536 + sums.1)

example : genAdler32Hash "Wikipedia" = "300286872" := by decide

/-- The bytes of an ASCII text. -/
def asciiBytes (text : String) : List UInt8 := text.toList.map fun c => c.toNat.toUInt8

/-- A controller as deployed: cluster DNS `cluster.local`, the finalizer `kolihub.io/kong`, the
Adler-32 hash, a retry budget of five, and stand-ins for Go's library. The stand-ins take the
branch Go takes, though they do not compute Go's values, on every input of this development:
`json.Unmarshal` decodes a JSON object or `null` and refuses what starts otherwise (the objects
used are well formed and of their schema); `pem.Decode` finds a block in a document that starts
with a `BEGIN` line and has an `END` line (the documents used are real certificates, which
`x509.ParseCertificate` accepts, and bytes with no block); parsing, marshalling the key and
encoding succeed. -/
def KongController.standard : KongController where
  cfg := ⟨"cluster.local"⟩
  genAdler32Hash := KongIngress.genAdler32Hash
  finalizer := "kolihub.io/kong"
  autoClaimMaxRetries := 5
  jsonUnmarshal _ value :=
    if value.toList.head? = some '{' ∨ value = "null" then .ok value
    else .error "invalid character looking for beginning of value"
  pemDecode bytes :=
    if (asciiBytes "-----BEGIN ").isPrefixOf bytes && bytes.tails.any (asciiBytes "\n-----END ").isPrefixOf then
      some ⟨"CERTIFICATE", bytes⟩
    else none
  parseCertificate bytes := .ok ⟨bytes⟩
  marshalPKIXPublicKey key := .ok key
  pemEncode block := .ok (String.mk (block.bytes.map fun byte => Char.ofNat byte.toNat))

namespace KongController

variable (k : KongController)

/-- The upstream scheme: `https` for port 443, `http` for every other port. -/
def protoFor (port : Int) : String := if port = 443 then "https" else "http"

/-- `KongController.getUpstream`. -/
def getUpstream (proto ns svcName : String) (svcPort : Int) : String :=
  proto ++ "://" ++ svcName ++ "." ++ ns ++ "." ++ k.cfg.clusterDNS ++ ":" ++ toString svcPort

/-- The path an API is named after: an empty path and the root are both `/`. -/
def normalizePath (path : String) : String := if path = "/" ∨ path = "" then "/" else path

/-- The API name `syncIngress` gives a path of a rule: `{host}~{namespace}~{hash}`. -/
def apiName (host ns path : String) : String :=
  host ++ "~" ++ ns ++ "~" ++ k.genAdler32Hash (normalizePath path)

/-- The empty path is named as the root. -/
theorem normalizePath_empty : normalizePath "" = "/" := rfl

end KongController

/-! ### Injectivity of the name -/

/-- A separator that occurs in neither tail splits a list at one place only. -/
theorem append_sep_inj {α : Type} {sep : α} {x y x' y' : List α} (hy : sep ∉ y) (hy' : sep ∉ y')
    (same : x ++ sep :: y = x' ++ sep :: y') : x = x' ∧ y = y' := by
  rcases List.append_eq_append_iff.mp same with ⟨middle, rfl, rest⟩ | ⟨middle, rfl, rest⟩
  · cases middle with
    | nil => simp_all
    | cons head tail =>
      simp only [List.cons_append, List.cons.injEq] at rest
      exact absurd (rest.2 ▸ List.mem_append_right _ (List.mem_cons_self _ _)) hy
  · cases middle with
    | nil => simp_all
    | cons head tail =>
      simp only [List.cons_append, List.cons.injEq] at rest
      exact absurd (rest.2 ▸ List.mem_append_right _ (List.mem_cons_self _ _)) hy'

/-- `append_sep_inj` for strings. -/
theorem string_sep_inj (sep : Char) {x y x' y' : String} (hy : sep ∉ y.toList)
    (hy' : sep ∉ y'.toList) (same : x ++ sep.toString ++ y = x' ++ sep.toString ++ y') :
    x = x' ∧ y = y' := by
  have lists := congrArg String.data same
  simp only [String.data_append, Char.toString, String.singleton, String.data_push,
    List.append_assoc, List.singleton_append] at lists
  obtain ⟨left, right⟩ := append_sep_inj hy hy' lists
  exact ⟨String.ext left, String.ext right⟩

/-- **The API name is injective in (host, namespace, hash).** With `~` in neither namespace nor
either hash value, two paths share a name exactly when their hosts, namespaces and hash values
agree; hosts may contain `~`. The hash is of the normalized path, and normalizing maps the empty
path to the root. -/
theorem apiName_inj (k : KongController) (h₁ h₂ n₁ n₂ p₁ p₂ : String)
    (namespaceFree₁ : '~' ∉ n₁.toList) (namespaceFree₂ : '~' ∉ n₂.toList)
    (hashFree₁ : '~' ∉ (k.genAdler32Hash (KongController.normalizePath p₁)).toList)
    (hashFree₂ : '~' ∉ (k.genAdler32Hash (KongController.normalizePath p₂)).toList) :
    (k.apiName h₁ n₁ p₁ = k.apiName h₂ n₂ p₂ ↔
      h₁ = h₂ ∧ n₁ = n₂ ∧ k.genAdler32Hash (KongController.normalizePath p₁) =
        k.genAdler32Hash (KongController.normalizePath p₂)) ∧
    KongController.normalizePath "" = "/" := by
  refine ⟨⟨fun same => ?_, ?_⟩, KongController.normalizePath_empty⟩
  · obtain ⟨front, hash⟩ := string_sep_inj '~' hashFree₁ hashFree₂ same
    obtain ⟨host, ns⟩ := string_sep_inj '~' namespaceFree₁ namespaceFree₂ front
    exact ⟨host, ns, hash⟩
  · rintro ⟨rfl, rfl, hash⟩
    simp only [KongController.apiName, hash]

/-- Two hosts that differ, one of them holding the separator, give two names. -/
theorem apiName_tilde_host_ne :
    KongController.standard.apiName "x~y" "default" "/v1" ≠
      KongController.standard.apiName "x" "default" "/v1" := fun same =>
  absurd ((apiName_inj KongController.standard "x~y" "x" "default" "default" "/v1" "/v1"
    (by decide) (by decide) (by decide) (by decide)).1.mp same).1 (by decide)


/-! ### Injectivity of the upstream -/

theorem string_append_right_cancel {x x' y : String} (same : x ++ y = x' ++ y) : x = x' :=
  String.ext (by simpa only [String.data_append, List.append_cancel_right_eq] using congrArg String.data same)

theorem string_append_left_cancel {x y y' : String} (same : x ++ y = x ++ y') : y = y' :=
  String.ext (by simpa only [String.data_append, List.append_cancel_left_eq] using congrArg String.data same)

/-- Decimal digits read back, left to right, after the value already read. -/
def readDecimal (start : Nat) (digits : List Char) : Nat :=
  digits.foldl (fun value digit => 10 * value + (digit.toNat - '0'.toNat)) start

theorem digitChar_decimal : ∀ d < 10, (Nat.digitChar d).toNat - '0'.toNat = d ∧ (Nat.digitChar d).isDigit := by
  decide

/-- `Nat.toDigitsCore`, given fuel beyond `n`, writes the digits of `n` before those already
written. -/
theorem readDecimal_toDigitsCore : ∀ (fuel n : Nat) (ds : List Char), n < fuel →
    readDecimal 0 (Nat.toDigitsCore 10 fuel n ds) = readDecimal n ds
  | 0, _, _, enough => absurd enough (Nat.not_lt_zero _)
  | fuel + 1, n, ds, enough => by
    have digit := (digitChar_decimal (n % 10) (Nat.mod_lt _ (by decide))).1
    show readDecimal 0 (if n / 10 = 0 then Nat.digitChar (n % 10) :: ds
      else Nat.toDigitsCore 10 fuel (n / 10) (Nat.digitChar (n % 10) :: ds)) = _
    split_ifs with last
    · show readDecimal (10 * 0 + ((Nat.digitChar (n % 10)).toNat - '0'.toNat)) ds = _
      rw [digit]
      congr 1
      omega
    · rw [readDecimal_toDigitsCore fuel (n / 10) _ (by omega)]
      show readDecimal (10 * (n / 10) + ((Nat.digitChar (n % 10)).toNat - '0'.toNat)) ds = _
      rw [digit, Nat.div_add_mod]

theorem isDigit_of_mem_toDigitsCore : ∀ (fuel n : Nat) (ds : List Char), (∀ c ∈ ds, c.isDigit) →
    ∀ c ∈ Nat.toDigitsCore 10 fuel n ds, c.isDigit
  | 0, _, _, digits => digits
  | fuel + 1, n, ds, digits => by
    have written : ∀ c ∈ Nat.digitChar (n % 10) :: ds, c.isDigit :=
      List.forall_mem_cons.mpr ⟨(digitChar_decimal (n % 10) (Nat.mod_lt _ (by decide))).2, digits⟩
    show ∀ c ∈ (if n / 10 = 0 then Nat.digitChar (n % 10) :: ds
      else Nat.toDigitsCore 10 fuel (n / 10) (Nat.digitChar (n % 10) :: ds)), c.isDigit
    split_ifs
    · exact written
    · exact isDigit_of_mem_toDigitsCore fuel _ _ written

theorem readDecimal_toDigits (n : Nat) : readDecimal 0 (Nat.toDigits 10 n) = n :=
  readDecimal_toDigitsCore (n + 1) n [] (Nat.lt_succ_self n)

theorem isDigit_of_mem_toDigits (n : Nat) : ∀ c ∈ Nat.toDigits 10 n, c.isDigit :=
  isDigit_of_mem_toDigitsCore (n + 1) n [] fun _ absent => absurd absent (List.not_mem_nil _)

/-- A port's `%d` holds no colon. -/
theorem colon_not_mem_toString (port : Int) : ':' ∉ (toString port).toList := by
  cases port with
  | ofNat m => exact fun member => absurd (isDigit_of_mem_toDigits m ':' member) (by decide)
  | negSucc m =>
    intro member
    rcases List.mem_cons.mp (show ':' ∈ '-' :: Nat.toDigits 10 (m + 1) from member) with minus | member
    · exact absurd minus (by decide)
    · exact absurd (isDigit_of_mem_toDigits (m + 1) ':' member) (by decide)

/-- Two ports of one `%d` are one port. -/
theorem toString_int_inj {port port' : Int} (same : toString port = toString port') : port = port' := by
  have lists := congrArg String.data same
  cases port with
  | ofNat m =>
    cases port' with
    | ofNat m' =>
      change Nat.toDigits 10 m = Nat.toDigits 10 m' at lists
      rw [← readDecimal_toDigits m, ← readDecimal_toDigits m', lists]
    | negSucc m' =>
      change Nat.toDigits 10 m = '-' :: Nat.toDigits 10 (m' + 1) at lists
      exact absurd (isDigit_of_mem_toDigits m '-' (lists ▸ List.mem_cons_self _ _)) (by decide)
  | negSucc m =>
    cases port' with
    | ofNat m' =>
      change '-' :: Nat.toDigits 10 (m + 1) = Nat.toDigits 10 m' at lists
      exact absurd (isDigit_of_mem_toDigits m' '-' (lists ▸ List.mem_cons_self _ _)) (by decide)
    | negSucc m' =>
      change '-' :: Nat.toDigits 10 (m + 1) = '-' :: Nat.toDigits 10 (m' + 1) at lists
      have read := congrArg (readDecimal 0) (List.cons.inj lists).2
      rw [readDecimal_toDigits, readDecimal_toDigits] at read
      rw [Nat.succ.inj read]

/-- **One upstream, one service port.** With `.` in neither namespace, two upstreams built as the
sync functions build them, each with the scheme of its port, are equal only for one namespace, one
service name and one port, for every cluster DNS suffix. -/
theorem getUpstream_inj (k : KongController) {ns ns' svcName svcName' : String} {port port' : Int}
    (label : '.' ∉ ns.toList) (label' : '.' ∉ ns'.toList)
    (same : k.getUpstream (KongController.protoFor port) ns svcName port =
      k.getUpstream (KongController.protoFor port') ns' svcName' port') :
    ns = ns' ∧ svcName = svcName' ∧ port = port' := by
  obtain ⟨front, rendered⟩ :=
    string_sep_inj ':' (colon_not_mem_toString port) (colon_not_mem_toString port') same
  obtain rfl := toString_int_inj rendered
  obtain ⟨service, sameNs⟩ := string_sep_inj '.' label label'
    (string_append_right_cancel (string_append_right_cancel front))
  exact ⟨sameNs, string_append_left_cancel service, rfl⟩

end KongIngress
