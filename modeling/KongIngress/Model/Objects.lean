/-
**The orchestrator's objects, as the controller reads them.**

The controller observes three kinds of objects: ingresses (`v1beta1.Ingress`), services
(`v1.Service`) and TLS secrets (`v1.Secret`). Each is a flat record of the fields the controller's
code reads; `ObjectMeta` is flattened into it, and `Namespace` is spelled `ns`.

* `keyFunc` — `cache.MetaNamespaceKeyFunc`, the `namespace/name` key of the queues and stores.
* `Ingress.annotation` — a Go map lookup `ing.Annotations[key]`, `""` when the key is absent.
  The annotation map is a list of entries with distinct keys, in the order a `range` visits them.
* `parseBool`, `hasPrefix`, `trimPrefix` — `strconv.ParseBool`, `strings.HasPrefix`,
  `strings.TrimPrefix`, exactly as the Go library defines them.
* `isKongIngress` — the ingress class filter of the event handlers.
-/

import Mathlib.Data.List.Nodup

namespace KongIngress

/-! ### Go library functions -/

/-- `strconv.ParseBool`: the twelve spellings Go accepts, and a syntax error otherwise. -/
def parseBool (str : String) : Except String Bool :=
  if str ∈ ["1", "t", "T", "true", "TRUE", "True"] then .ok true
  else if str ∈ ["0", "f", "F", "false", "FALSE", "False"] then .ok false
  else .error s!"strconv.ParseBool: parsing {repr str}: invalid syntax"

/-- `strings.HasPrefix`. -/
def hasPrefix (s pre : String) : Bool := pre.toList.isPrefixOf s.toList

/-- `strings.TrimPrefix`: drop `pre` when `s` starts with it. -/
def trimPrefix (s pre : String) : String :=
  if hasPrefix s pre then String.mk (s.toList.drop pre.length) else s

theorem hasPrefix_append (pre rest : String) : hasPrefix (pre ++ rest) pre = true := by
  simp [hasPrefix]

theorem trimPrefix_append (pre rest : String) : trimPrefix (pre ++ rest) pre = rest := by
  rw [trimPrefix, if_pos (hasPrefix_append pre rest)]
  show String.mk ((pre.data ++ rest.data).drop pre.data.length) = rest
  rw [List.drop_left]

/-! ### Lookups in lists -/

theorem find?_congr_of_mem {α : Type} {test test' : α → Bool} {list : List α}
    (agree : ∀ x ∈ list, test x = test' x) : list.find? test = list.find? test' := by
  induction list with
  | nil => rfl
  | cons head tail ih =>
    simp only [List.find?_cons, agree head (List.mem_cons_self _ _),
      ih fun x member => agree x (List.mem_cons_of_mem _ member)]

/-- Changing elements in a way the test cannot see changes only what `find?` returns. -/
theorem find?_map_of_test {α : Type} {test : α → Bool} {f : α → α} {list : List α}
    (unseen : ∀ x ∈ list, test (f x) = test x) :
    (list.map f).find? test = (list.find? test).map f := by
  rw [List.find?_map]
  exact congrArg _ (find?_congr_of_mem unseen)

/-- The first element passing a test is the first passing a stricter test it passes. -/
theorem find?_of_stricter {α : Type} {test strict : α → Bool} {list : List α} {x : α}
    (found : list.find? test = some x) (passes : strict x = true)
    (stricter : ∀ y, strict y = true → test y = true) : list.find? strict = some x := by
  induction list with
  | nil => cases found
  | cons head tail ih =>
    by_cases here : test head = true
    · rw [List.find?_cons_of_pos _ here] at found
      cases found
      exact List.find?_cons_of_pos _ passes
    · rw [List.find?_cons_of_neg _ here] at found
      rw [List.find?_cons_of_neg _ fun strictHead => here (stricter _ strictHead)]
      exact ih found

/-! ### Ingresses -/

/-- `intstr.IntOrString`, of which the controller reads only `IntVal` (zero for a named port). -/
structure IntOrString where
  intVal : Int
  deriving DecidableEq, Repr

/-- `v1beta1.IngressBackend`. -/
structure IngressBackend where
  serviceName : String
  servicePort : IntOrString
  deriving DecidableEq, Repr

/-- `v1beta1.HTTPIngressPath`. -/
structure HTTPIngressPath where
  path : String
  backend : IngressBackend
  deriving DecidableEq, Repr

/-- `v1beta1.HTTPIngressRuleValue`. -/
structure HTTPIngressRuleValue where
  paths : List HTTPIngressPath
  deriving DecidableEq, Repr

/-- `v1beta1.IngressRule`; `http` is the pointer `r.HTTP`, `none` for nil. -/
structure IngressRule where
  host : String
  http : Option HTTPIngressRuleValue
  deriving DecidableEq, Repr

/-- `v1beta1.IngressTLS`. -/
structure IngressTLS where
  hosts : List String
  secretName : String
  deriving DecidableEq, Repr

/-- `v1beta1.IngressSpec`. -/
structure IngressSpec where
  tls : List IngressTLS
  rules : List IngressRule
  deriving DecidableEq, Repr

/-- `v1beta1.Ingress`, with the `ObjectMeta` fields the controller reads. The annotation map
is the list of its entries, in the order a `range` over it visits them; its keys are distinct. -/
structure Ingress where
  ns : String
  name : String
  resourceVersion : Nat
  annotations : List (String × String)
  annotations_nodup : (annotations.map Prod.fst).Nodup := by decide
  spec : IngressSpec
  deriving DecidableEq, Repr

/-- `cache.MetaNamespaceKeyFunc`: `namespace/name`, or the bare name outside a namespace. -/
def keyFunc (ns name : String) : String :=
  if ns.isEmpty then name else ns ++ "/" ++ name

/-- `ing.Annotations[key]`: the value, or Go's zero value `""` when absent. -/
def Ingress.annotation (ing : Ingress) (key : String) : String :=
  (ing.annotations.lookup key).getD ""

/-- An annotation map with `key` set to `value`: replaced in place, or added at the end. -/
def setAnnotationEntry (annotations : List (String × String)) (key value : String) :
    List (String × String) :=
  if annotations.any (·.1 == key) then
    annotations.map fun entry => if entry.1 = key then (key, value) else entry
  else annotations ++ [(key, value)]

theorem setAnnotationEntry_nodup {annotations : List (String × String)} {key value : String}
    (distinct : (annotations.map Prod.fst).Nodup) :
    ((setAnnotationEntry annotations key value).map Prod.fst).Nodup := by
  unfold setAnnotationEntry
  split_ifs with present
  · convert distinct using 1
    rw [List.map_map]
    refine List.map_congr_left fun entry _ => ?_
    simp only [Function.comp_apply]
    split_ifs with same <;> simp [same]
  · simp only [List.any_eq_true, beq_iff_eq, not_exists, not_and] at present
    simp only [List.map_append, List.map_cons, List.map_nil, List.nodup_append,
      List.nodup_singleton, true_and, distinct]
    intro _ member single
    obtain ⟨entry, mem, rfl⟩ := List.mem_map.mp member
    exact present entry mem (List.mem_singleton.mp single)

/-- Setting a key leaves the other entries as they were. -/
theorem filter_setAnnotationEntry (annotations : List (String × String)) (key value : String) :
    (setAnnotationEntry annotations key value).filter (·.1 != key) = annotations.filter (·.1 != key) := by
  unfold setAnnotationEntry
  split_ifs
  · rw [List.filter_map]
    have unseen : ((·.1 != key) ∘ fun entry : String × String =>
        if entry.1 = key then (key, value) else entry) = (·.1 != key) := by
      funext entry
      by_cases same : entry.1 = key <;> simp [same]
    rw [unseen]
    refine List.map_congr_left (fun entry member => ?_) |>.trans (List.map_id _)
    have differ : entry.1 ≠ key := by simpa using (List.mem_filter.mp member).2
    simp [differ]
  · simp [List.filter_append]

/-- Setting a key makes it read back the value set. -/
theorem lookup_setAnnotationEntry (annotations : List (String × String)) (key value : String) :
    (setAnnotationEntry annotations key value).lookup key = some value := by
  unfold setAnnotationEntry
  split_ifs with present
  · induction annotations with
    | nil => cases present
    | cons entry rest ih =>
      obtain ⟨name, old⟩ := entry
      by_cases same : name = key
      · simp [same, List.lookup_cons]
      · have other : (key == name) = false := by simpa using Ne.symm same
        have later : (rest.any fun entry => entry.1 == key) = true := by simpa [same] using present
        simp [same, List.lookup_cons, other, ih later]
  · induction annotations with
    | nil => simp [List.lookup_cons]
    | cons entry rest ih =>
      obtain ⟨name, old⟩ := entry
      simp only [List.any_cons, Bool.or_eq_true, beq_iff_eq, not_or] at present
      have other : (key == name) = false := beq_false_of_ne (Ne.symm present.1)
      have later := present.2
      simp [List.lookup_cons, other, ih later]

theorem lookup_filter_of_ne {dropped key : String} (differ : key ≠ dropped)
    (entries : List (String × String)) :
    (entries.filter (·.1 != dropped)).lookup key = entries.lookup key := by
  induction entries with
  | nil => rfl
  | cons entry rest ih =>
    obtain ⟨name, value⟩ := entry
    by_cases gone : name = dropped
    · subst gone
      have other : (key == name) = false := by simpa using differ
      simp [List.filter_cons, List.lookup_cons, other, ih]
    · simp [List.filter_cons, gone, List.lookup_cons, ih]

/-- The annotation key of the ingress class. -/
def ingressClassKey : String := "kubernetes.io/ingress.class"

/-- Modelled from the spec: `isKongIngress`, whose source is not among the files. The Ingress
handlers "filter by an annotation `ingress.class = kong`": the class must equal `kong`. -/
def isKongIngress (ing : Ingress) : Bool := ing.annotation ingressClassKey == "kong"

/-! ### Services and secrets -/

/-- `v1.ServicePort`, of which the controller reads `Port`. -/
structure ServicePort where
  port : Int
  deriving DecidableEq, Repr

/-- `v1.Service`, with the `ObjectMeta` fields the controller and the orchestrator read. The
deletion timestamp is a time stamp, `none` for nil. -/
structure Service where
  ns : String
  name : String
  resourceVersion : Nat
  deletionTimestamp : Option Nat
  finalizers : List String
  ports : List ServicePort
  deriving DecidableEq, Repr

/-- `v1.Secret`: its type and its data map (the bytes as text). -/
structure Secret where
  ns : String
  name : String
  type : String
  data : List (String × String)
  deriving DecidableEq, Repr

/-- `secret.Data[key]` as a string, `""` when absent. -/
def Secret.datum (secret : Secret) (key : String) : String := (secret.data.lookup key).getD ""

/-- `v1.SecretTypeTLS`. -/
def secretTypeTLS : String := "kubernetes.io/tls"

end KongIngress
