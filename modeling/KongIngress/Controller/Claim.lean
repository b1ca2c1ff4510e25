/-
**The domain claims an ingress's hosts need.**

A domain is a namespaced resource of the orchestrator whose spec names a domain and whose status
has a phase. A host is *claimed* in a namespace when the namespace's listing succeeds and holds a
domain in phase OK that names the host (`Claimed`). `isClaimed` checks the rules of an ingress in
order, listing the ingress's namespace once per rule (`cache.ListAllByNamespace`) with a visitor
that records the first matching domain and ignores every later one:

* `foldl_claimVisitor` — the visitor's pass over a listing records the first domain in phase OK
  that names the host: it is `find?`.
* `isClaimed_loop_cons` — one rule: its host claimed, the loop goes on; otherwise it returns
  `false`, the host and the listing's error.
* `isClaimed_spec` — `isClaimed` returns `(true, "", nil)` exactly when the host of every rule is
  claimed; otherwise it returns `false` with the host of the first rule whose host is not, and
  the listing's error (`nil` when the listing succeeded but found no such domain).
-/

import KongIngress.Model.Objects

namespace KongIngress

/-! ### Domains and their indexer -/

/-- `kong.DomainStatus`'s phase. -/
inductive DomainPhase where
  | new
  | ok
  | failed
  deriving DecidableEq, Repr

/-- Modelled from the spec: `kong.Domain`, whose source is not among the files, with the fields
`isClaimed` reads: its namespace, the domain its spec names (what `GetDomain()` returns) and the
phase of its status. -/
structure Domain where
  ns : String
  domain : String
  phase : DomainPhase
  deriving DecidableEq, Repr

/-- `Domain.GetDomain()`. -/
def Domain.getDomain (dom : Domain) : String := dom.domain

/-- Modelled from the spec: the domain informer's indexer as `cache.ListAllByNamespace` reads it,
whose source is not among the files: the domains of a namespace in the indexer's order (of every
namespace for `metav1.NamespaceAll`, the empty one), or the error the listing fails with. -/
structure DomainIndexer where
  byNamespace : String → Except String (List Domain)

/-- The error listing a namespace fails with; `none` when the listing succeeds. -/
def DomainIndexer.listError (indexer : DomainIndexer) (ns : String) : Option String :=
  match indexer.byNamespace ns with
  | .ok _ => none
  | .error err => some err

/-- `cache.ListAllByNamespace` with `labels.Everything()`: the visitor runs over the domains of the
namespace in turn, and the listing's error is returned. -/
def listAllByNamespace {σ : Type} (indexer : DomainIndexer) (ns : String) (visit : σ → Domain → σ)
    (state : σ) : σ × Option String :=
  match indexer.byNamespace ns with
  | .ok doms => (doms.foldl visit state, none)
  | .error err => (state, some err)

namespace KongController

/-- The visitor `isClaimed` lists a namespace with, for a rule's host: once a domain is recorded it
returns at once; otherwise it records a domain in phase OK whose `GetDomain()` is the host. -/
def claimVisitor (host : String) (d : Option Domain) (dom : Domain) : Option Domain :=
  if d.isSome then d
  else if dom.phase == .ok && dom.getDomain == host then some dom
  else d

/-- `KongController.isClaimed`, over the domain informer's indexer: for each rule in turn, the
ingress's namespace is listed with `claimVisitor`; a failed listing, or no domain recorded,
returns `false`, the rule's host and the listing's error. -/
def isClaimed (infDom : DomainIndexer) (ing : Ingress) : Bool × String × Option String :=
  loop ing.spec.rules
where
  /-- The loop over the rules. -/
  loop : List IngressRule → Bool × String × Option String
    | [] => (true, "", none)
    | rule :: rest =>
      let (d, err) := listAllByNamespace infDom ing.ns (claimVisitor rule.host) none
      if err.isSome || d.isNone then (false, rule.host, err) else loop rest

end KongController

/-! ### Claimed hosts -/

/-- A host is claimed in a namespace: the listing succeeds, and a listed domain in phase OK names
the host. -/
def Claimed (infDom : DomainIndexer) (ns host : String) : Prop :=
  match infDom.byNamespace ns with
  | .ok doms => ∃ dom ∈ doms, dom.phase = .ok ∧ dom.getDomain = host
  | .error _ => False

instance (infDom : DomainIndexer) (ns host : String) : Decidable (Claimed infDom ns host) :=
  match listed : infDom.byNamespace ns with
  | .ok doms => decidable_of_iff (∃ dom ∈ doms, dom.phase = .ok ∧ dom.getDomain = host)
      (by rw [Claimed, listed])
  | .error _ => isFalse (by rw [Claimed, listed]; exact id)

namespace KongController

/-- Once a domain is recorded, the visitor keeps it. -/
theorem foldl_claimVisitor_some (host : String) (d : Domain) :
    ∀ doms : List Domain, doms.foldl (claimVisitor host) (some d) = some d
  | [] => rfl
  | _ :: rest => foldl_claimVisitor_some host d rest

/-- **The visitor records the first domain in phase OK that names the host.** -/
theorem foldl_claimVisitor (host : String) : ∀ doms : List Domain,
    doms.foldl (claimVisitor host) none = doms.find? fun dom => dom.phase == .ok && dom.getDomain == host
  | [] => rfl
  | dom :: rest => by
    rw [List.foldl_cons, List.find?_cons]
    cases test : (dom.phase == .ok && dom.getDomain == host)
    · simp only [claimVisitor, Option.isSome_none, test]
      exact foldl_claimVisitor host rest
    · simp only [claimVisitor, Option.isSome_none, test]
      exact foldl_claimVisitor_some host dom rest

/-- **One rule**: when its host is claimed the loop goes on to the next rule; otherwise it returns
`false`, the host, and the listing's error. -/
theorem isClaimed_loop_cons (infDom : DomainIndexer) (ing : Ingress) (rule : IngressRule)
    (rest : List IngressRule) :
    isClaimed.loop infDom ing (rule :: rest) =
      if Claimed infDom ing.ns rule.host then isClaimed.loop infDom ing rest
      else (false, rule.host, infDom.listError ing.ns) := by
  cases listed : infDom.byNamespace ing.ns with
  | error err => simp [isClaimed.loop, listAllByNamespace, Claimed, DomainIndexer.listError, listed]
  | ok doms =>
    simp only [isClaimed.loop, listAllByNamespace, Claimed, DomainIndexer.listError, listed, foldl_claimVisitor]
    split_ifs with missing found found
    · obtain ⟨dom, member, phase, named⟩ := found
      simp at missing
      exact absurd named (missing dom member phase)
    · rfl
    · rfl
    · simp at missing
      exact absurd missing found

/-- The loop passes every rule exactly when the host of every rule is claimed. -/
theorem isClaimed_loop_eq_true_iff (infDom : DomainIndexer) (ing : Ingress) :
    ∀ rules : List IngressRule,
      isClaimed.loop infDom ing rules = (true, "", none) ↔ ∀ rule ∈ rules, Claimed infDom ing.ns rule.host
  | [] => ⟨fun _ _ absent => absurd absent (List.not_mem_nil _), fun _ => rfl⟩
  | rule :: rest => by
    rw [isClaimed_loop_cons, List.forall_mem_cons]
    split_ifs with claimed
    · rw [isClaimed_loop_eq_true_iff infDom ing rest]
      exact ⟨fun all => ⟨claimed, all⟩, And.right⟩
    · simp [claimed]

/-- The first rule whose host is not claimed ends the loop, with its host and the listing's
error. -/
theorem isClaimed_loop_first_unclaimed (infDom : DomainIndexer) (ing : Ingress) (rule : IngressRule)
    (after : List IngressRule) (unclaimed : ¬Claimed infDom ing.ns rule.host) :
    ∀ before : List IngressRule, (∀ claimed ∈ before, Claimed infDom ing.ns claimed.host) →
      isClaimed.loop infDom ing (before ++ rule :: after) = (false, rule.host, infDom.listError ing.ns)
  | [], _ => by rw [List.nil_append, isClaimed_loop_cons, if_neg unclaimed]
  | first :: before, claimedAll => by
    rw [List.cons_append, isClaimed_loop_cons, if_pos (claimedAll first (List.mem_cons_self _ _))]
    exact isClaimed_loop_first_unclaimed infDom ing rule after unclaimed before
      fun claimed member => claimedAll claimed (List.mem_cons_of_mem _ member)

/-- **`isClaimed` meets its specification.** For every indexer and every ingress, `isClaimed`
returns `(true, "", nil)` exactly when the host of every rule is claimed in the ingress's
namespace; otherwise the first rule, in rule order, whose host is not claimed (its listing failed,
or holds no domain in phase OK naming the host) gives `false`, its host and the listing's
error. -/
theorem isClaimed_spec (infDom : DomainIndexer) (ing : Ingress) :
    (isClaimed infDom ing = (true, "", none) ↔ ∀ rule ∈ ing.spec.rules, Claimed infDom ing.ns rule.host) ∧
    ∀ (before : List IngressRule) (rule : IngressRule) (after : List IngressRule),
      ing.spec.rules = before ++ rule :: after → (∀ claimed ∈ before, Claimed infDom ing.ns claimed.host) →
        ¬Claimed infDom ing.ns rule.host → isClaimed infDom ing = (false, rule.host, infDom.listError ing.ns) :=
  ⟨isClaimed_loop_eq_true_iff infDom ing ing.spec.rules, fun before rule after split claimedAll unclaimed => by
    rw [isClaimed, split]
    exact isClaimed_loop_first_unclaimed infDom ing rule after unclaimed before claimedAll⟩

end KongController

/-! ### Two hosts, one claimed -/

/-- An indexer holding two domains of `default`: `example.com`, in phase OK, and
`api.example.com`, still new. -/
def defaultDomains : DomainIndexer :=
  ⟨fun ns => .ok ([⟨"default", "example.com", .ok⟩, ⟨"default", "api.example.com", .new⟩].filter (·.ns == ns))⟩

/-- An ingress of `default` with a rule for each of the two hosts. -/
def twoHostIngress : Ingress :=
  { ns := "default", name := "web", resourceVersion := 1, annotations := []
    spec := ⟨[], [⟨"example.com", none⟩, ⟨"api.example.com", none⟩]⟩ }

theorem twoHostIngress_unclaimed :
    ¬Claimed defaultDomains "default" "api.example.com" ∧
      KongController.isClaimed defaultDomains twoHostIngress = (false, "api.example.com", none) :=
  ⟨by decide, (KongController.isClaimed_spec defaultDomains twoHostIngress).2 [⟨"example.com", none⟩]
    ⟨"api.example.com", none⟩ [] rfl (by decide) (by decide)⟩

end KongIngress
