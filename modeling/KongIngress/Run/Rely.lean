/-
**What a sync can count on while other workers run: no API is removed or renamed.**

Between two calls of a sync, other workers' calls change the orchestrator and the gateway. As
long as no service is being deleted, none of them removes an API or gives an API's id another
name (`Gateway.Keeps`), and no call of `syncIngress` does either (`Call.KeepsApis`): its
`UpdateOrCreate` writes a body under an id that `Get` found under the body's own name, and ids are
never given again.

* `EndsNaming names x gateway` — every run of `x` that returns nil, each of its calls answered
  from any world whose gateway keeps the APIs of the one the call before left, keeps them itself
  and ends with every name of `names` in the gateway.
* `EndsNaming.bind`, `endsNaming_forEach` — the names of a sequence are those of its parts.
* `endsNaming_syncPath` — a path's iteration ends naming the path.
* `endsNaming_syncIngress_step` — once its `Get` has found an ingress, `syncIngress` ends naming
  every path of it.
-/

import KongIngress.Run.Sync

namespace KongIngress

/-! ### Gateways that keep the APIs of an earlier one -/

namespace Gateway

/-- A later gateway keeps the APIs of an earlier one: each is still there under its id and name,
ids only grow, and an API of the later one with an earlier id was there under that name. -/
structure Keeps (gateway later : Gateway) : Prop where
  nextId : gateway.nextId ≤ later.nextId
  kept : ∀ api ∈ gateway.apis, ∃ api' ∈ later.apis, api'.uid = api.uid ∧ api'.name = api.name
  named : ∀ api' ∈ later.apis, api'.uid ≤ gateway.nextId →
    ∃ api ∈ gateway.apis, api.uid = api'.uid ∧ api.name = api'.name

variable {gateway : Gateway}

theorem Keeps.refl (gateway : Gateway) : gateway.Keeps gateway :=
  ⟨le_refl _, fun api member => ⟨api, member, rfl, rfl⟩, fun api member _ => ⟨api, member, rfl, rfl⟩⟩

theorem Keeps.trans {middle later : Gateway} (first : gateway.Keeps middle) (second : middle.Keeps later) :
    gateway.Keeps later where
  nextId := first.nextId.trans second.nextId
  kept api member := by
    obtain ⟨api', member', sameUid, sameName⟩ := first.kept api member
    obtain ⟨api'', member'', sameUid', sameName'⟩ := second.kept api' member'
    exact ⟨api'', member'', sameUid'.trans sameUid, sameName'.trans sameName⟩
  named api'' member'' old := by
    obtain ⟨api', member', sameUid', sameName'⟩ := second.named api'' member'' (old.trans first.nextId)
    obtain ⟨api, member, sameUid, sameName⟩ := first.named api' member' (sameUid' ▸ old)
    exact ⟨api, member, sameUid.trans sameUid', sameName.trans sameName'⟩

theorem Keeps.apiNames {later : Gateway} (keeps : gateway.Keeps later) {name : String}
    (held : name ∈ gateway.apiNames) : name ∈ later.apiNames := by
  obtain ⟨api, member, rfl⟩ := List.mem_map.mp held
  obtain ⟨api', member', -, sameName⟩ := keeps.kept api member
  exact List.mem_map.mpr ⟨api', member', sameName⟩

/-- A write that leaves the APIs and the next id alone keeps them. -/
theorem keeps_of_apis {later : Gateway} (apis : later.apis = gateway.apis)
    (nextId : later.nextId = gateway.nextId) : gateway.Keeps later := by
  refine ⟨nextId.ge, fun api member => ⟨api, apis ▸ member, rfl, rfl⟩, fun api member _ => ?_⟩
  exact ⟨api, apis ▸ member, rfl, rfl⟩

/-- In the gateway, the body's id is that of APIs of the body's name only. -/
def IdNamed (gateway : Gateway) (body : Api) : Prop :=
  ∀ api ∈ gateway.apis, api.uid = body.uid → api.name = body.name

variable (gateway)

theorem keeps_createApi (body : Api) : gateway.Keeps (gateway.createApi body) := by
  refine ⟨Nat.le_succ _, fun api member => ⟨api, List.mem_append_left _ member, rfl, rfl⟩, ?_⟩
  intro api member old
  rcases List.mem_append.mp member with member | created
  · exact ⟨api, member, rfl, rfl⟩
  · rw [List.mem_singleton.mp created] at old
    exact absurd old (Nat.not_succ_le_self _)

theorem keeps_replaceApi {body : Api} (idNamed : gateway.IdNamed body) :
    gateway.Keeps (gateway.replaceApi body) := by
  have same : ∀ api ∈ gateway.apis, (if api.uid = body.uid then body else api).uid = api.uid ∧
      (if api.uid = body.uid then body else api).name = api.name := by
    intro api member
    split_ifs with replaced
    · exact ⟨replaced.symm, (idNamed api member replaced).symm⟩
    · exact ⟨rfl, rfl⟩
  refine ⟨le_refl _, fun api member => ⟨_, List.mem_map_of_mem _ member, same api member⟩, ?_⟩
  intro api' member' _
  obtain ⟨api, member, rfl⟩ := List.mem_map.mp member'
  exact ⟨api, member, (same api member).1.symm, (same api member).2.symm⟩

theorem keeps_updateOrCreateApi {body : Api} (idNamed : gateway.IdNamed body) :
    gateway.Keeps (gateway.updateOrCreateApi body).2 := by
  unfold updateOrCreateApi
  split_ifs
  · exact gateway.keeps_createApi body
  · exact gateway.keeps_replaceApi idNamed
  · exact Keeps.refl gateway

/-- `UpdateOrCreate` answers without an error only once it has written the body under its name. -/
theorem mem_apiNames_updateOrCreateApi {body : Api}
    (answered : (gateway.updateOrCreateApi body).1.2 = none) :
    body.name ∈ (gateway.updateOrCreateApi body).2.apiNames := by
  unfold updateOrCreateApi at answered ⊢
  split_ifs at answered ⊢ with fresh found
  · simp [createApi, apiNames]
  · obtain ⟨api, member, same⟩ := List.any_eq_true.mp found
    exact List.mem_map.mpr ⟨body, List.mem_map.mpr ⟨api, member, by simp_all⟩, rfl⟩

/-- The only error `UpdateOrCreate` answers is not found. -/
theorem updateOrCreateApi_error {body : Api} {err : ResponseError}
    (answered : (gateway.updateOrCreateApi body).1.2 = some err) : err = .notFound := by
  unfold updateOrCreateApi at answered
  split_ifs at answered
  exact (Option.some.inj answered).symm

/-- A body without an id names no API's id. -/
theorem idNamed_of_fresh {body : Api} (fresh : body.uid = 0) : gateway.IdNamed body :=
  fun api member same => absurd (same.trans fresh) (gateway.uid_pos api member).ne'

variable {gateway}

/-- **A body under the id `Get` found for its name names that id in every later gateway that
keeps the APIs**: ids are not given again, and the API of that id keeps its name. -/
theorem Keeps.idNamed {later : Gateway} (keeps : gateway.Keeps later) {found : Api} {body : Api}
    (member : found ∈ gateway.apis) (sameName : found.name = body.name) (sameUid : body.uid = found.uid) :
    later.IdNamed body := by
  intro api' member' uid'
  obtain ⟨api, apiMember, apiUid, apiName⟩ :=
    keeps.named api' member' (uid'.trans sameUid ▸ gateway.uid_le found member)
  have : api = found :=
    List.inj_on_of_nodup_map gateway.uid_nodup apiMember member (apiUid.trans (uid'.trans sameUid))
  rw [← apiName, this, sameName]

end Gateway

/-! ### The calls that keep a gateway's APIs -/

/-- Every call but `DELETE /apis/{name}`, and an `UpdateOrCreate` whose body's id is that of APIs
of its name only. -/
def Call.KeepsApis (gateway : Gateway) : Call → Prop
  | .deleteApi _ => False
  | .updateOrCreateApi body => gateway.IdNamed body
  | _ => True

theorem World.answer_keeps (request : Call) (world : World) (keeps : request.KeepsApis world.gateway) :
    world.gateway.Keeps (World.answer request world).2.gateway := by
  cases request with
  | updateOrCreateApi body => exact world.gateway.keeps_updateOrCreateApi keeps
  | deleteApi name => exact keeps.elim
  | patchServiceFinalizer | clearServiceFinalizers | patchIngressDirty | recordEvent =>
    exact Gateway.Keeps.refl _
  | createPlugin | createCertificate | createConsumer | createJWTCredential =>
    exact Gateway.keeps_of_apis rfl rfl
  | _ => exact Gateway.Keeps.refl _

/-- A call that writes no API keeps the APIs of every gateway. -/
theorem Call.LeavesApis.keepsApis {request : Call} (leaves : request.LeavesApis) (gateway : Gateway) :
    request.KeepsApis gateway := by
  cases request <;> first | exact leaves.elim | trivial

/-! ### Programs that end naming -/

/-- Every run of the program that returns nil, each call answered from a world whose gateway keeps
the APIs of the one the call before left, makes only calls that keep them and ends with every
name of `names` in the gateway. -/
def EndsNaming {α : Type} (names : List String) : Prog α → Gateway → Prop
  | .pure _, gateway => ∀ name ∈ names, name ∈ gateway.apiNames
  | .fail _, _ => True
  | .nilDereference, _ => True
  | .call request next, gateway => ∀ world : World, gateway.Keeps world.gateway →
      request.KeepsApis world.gateway ∧
        EndsNaming names (next (World.answer request world).1) (World.answer request world).2.gateway

namespace EndsNaming

variable {α β : Type} {names : List String}

/-- A promise made against a gateway holds against any that keeps its APIs. -/
theorem mono : ∀ {x : Prog α} {gateway later : Gateway}, gateway.Keeps later →
    EndsNaming names x gateway → EndsNaming names x later
  | .pure _, _, _, keeps, ends => fun name member => keeps.apiNames (ends name member)
  | .fail _, _, _, _, _ => trivial
  | .nilDereference, _, _, _, _ => trivial
  | .call _ _, _, _, keeps, ends => fun world keeps' => ends world (keeps.trans keeps')

/-- Names there already stay. -/
theorem keep {more : List String} : ∀ {x : Prog α} {gateway : Gateway},
    (∀ name ∈ more, name ∈ gateway.apiNames) → EndsNaming names x gateway →
      EndsNaming (more ++ names) x gateway
  | .pure _, _, present, ends => by
    intro name member
    rcases List.mem_append.mp member with here | promised
    · exact present name here
    · exact ends name promised
  | .fail _, _, _, _ => trivial
  | .nilDereference, _, _, _ => trivial
  | .call request next, _, present, ends => fun world keeps => by
    obtain ⟨allowed, rest⟩ := ends world keeps
    have keeps' := keeps.trans (World.answer_keeps request world allowed)
    exact ⟨allowed, keep (fun name member => keeps'.apiNames (present name member)) rest⟩

/-- **A sequence names what its parts name.** -/
theorem bind {first second : List String} {f : α → Prog β} : ∀ {x : Prog α} {gateway : Gateway},
    EndsNaming first x gateway →
      (∀ value later, (∀ name ∈ first, name ∈ later.apiNames) → EndsNaming second (f value) later) →
        EndsNaming (first ++ second) (x.bind f) gateway
  | .pure value, gateway, ends, rest => keep ends (rest value gateway ends)
  | .fail _, _, _, _ => trivial
  | .nilDereference, _, _, _ => trivial
  | .call _ _, _, ends, rest => fun world keeps =>
    ⟨(ends world keeps).1, bind (ends world keeps).2 rest⟩

/-- A program that writes no API promises no name and keeps the APIs. -/
theorem of_allCalls : ∀ {x : Prog α}, Prog.AllCalls Call.LeavesApis x →
    ∀ gateway, EndsNaming [] x gateway
  | _, .pure _, _ => fun _ member => absurd member (List.not_mem_nil _)
  | _, .fail _, _ => trivial
  | _, .nilDereference, _ => trivial
  | _, .call _ _ allowed rest, _ => fun world _ =>
    ⟨allowed.keepsApis world.gateway, of_allCalls (rest _) _⟩

end EndsNaming

theorem endsNaming_forEach {γ : Type} {body : γ → Prog Unit} (names : γ → List String)
    (each : ∀ x gateway, EndsNaming (names x) (body x) gateway) :
    ∀ (xs : List γ) (gateway : Gateway), EndsNaming (xs.flatMap names) (Prog.forEach xs body) gateway
  | [], _ => fun _ member => absurd member (List.not_mem_nil _)
  | x :: rest, gateway => by
    rw [Prog.forEach_cons, List.flatMap_cons]
    exact (each x gateway).bind fun _ later _ => endsNaming_forEach names each rest later

/-! ### The configuration calls write no API -/

namespace KongController

variable (k : KongController)

open Prog (AllCalls)

theorem allCalls_ensurePlugin (uuid : Nat) (plugin : Plugin) :
    AllCalls Call.LeavesApis (ensurePlugin uuid plugin) := by
  unfold ensurePlugin
  refine (AllCalls.send trivial).bind fun listed => ?_
  rcases listed with err | list
  · exact .fail _
  · dsimp only
    split
    · exact .pure _
    · refine (AllCalls.send trivial).bind fun created => ?_
      cases created <;> first | exact .fail _ | exact .pure _

theorem allCalls_configurePluginsForAPI (uuid : Nat) (ing : Ingress) :
    AllCalls Call.LeavesApis (k.configurePluginsForAPI uuid ing) := by
  refine AllCalls.forEach (fun entry => ?_) _
  unfold configurePlugin
  split
  · split
    · exact .fail _
    · exact allCalls_ensurePlugin _ _
  · exact .pure _

theorem allCalls_tryConfigureCertificates (ing : Ingress) :
    AllCalls Call.LeavesApis (tryConfigureCertificates ing) := by
  refine AllCalls.forEach (fun t => AllCalls.forEach (fun h => ?_) _) _
  unfold configureCertificate
  refine (AllCalls.send trivial).bind fun secret => ?_
  rcases secret with err | secret
  · exact .fail _
  · dsimp only
    split
    · exact .fail _
    · refine (AllCalls.send trivial).bind fun created => ?_
      cases created <;> first | exact .fail _ | exact .pure _

theorem allCalls_tryAutoConfigureAuth0 (ing : Ingress) :
    AllCalls Call.LeavesApis (k.tryAutoConfigureAuth0 ing) := by
  unfold tryAutoConfigureAuth0
  dsimp only
  split
  · exact .pure _
  · refine (AllCalls.send trivial).bind fun document => ?_
    rcases document with err | certBuf
    · exact .fail _
    · dsimp only
      split
      · exact .nilDereference
      · exact .fail _
      · refine AllCalls.bind ?_ fun _ => ?_
        · unfold ensureConsumer
          refine (AllCalls.send trivial).bind fun ⟨err, res⟩ => ?_
          rcases err with _ | err
          · exact .pure _
          · rcases res with _ | res
            · exact .nilDereference
            · dsimp only
              split
              · refine (AllCalls.send trivial).bind fun created => ?_
                cases created <;> first | exact .fail _ | exact .pure _
              · exact .fail _
        · unfold ensureJWTCredential
          refine (AllCalls.send trivial).bind fun listed => ?_
          rcases listed with err | total
          · exact .fail _
          · dsimp only
            split
            · refine (AllCalls.send trivial).bind fun created => ?_
              cases created <;> first | exact .fail _ | exact .pure _
            · exact .pure _

theorem allCalls_configureApi (ing : Ingress) (api : Option Api) :
    AllCalls Call.LeavesApis (k.configureApi ing api) := by
  unfold configureApi
  rcases api with _ | api
  · exact .nilDereference
  · exact (k.allCalls_configurePluginsForAPI _ ing).bind fun _ =>
      (allCalls_tryConfigureCertificates ing).bind fun _ => k.allCalls_tryAutoConfigureAuth0 ing

/-! ### A path's iteration names its path -/

/-- Configuring an API keeps a name the gateway has. -/
theorem endsNaming_configureApi (ing : Ingress) (api : Option Api) {gateway : Gateway} {name : String}
    (present : name ∈ gateway.apiNames) : EndsNaming [name] (k.configureApi ing api) gateway :=
  (EndsNaming.of_allCalls (k.allCalls_configureApi ing api) gateway).keep fun _ member =>
    List.mem_singleton.mp member ▸ present

/-- `UpdateOrCreate` of a body without an id, under the id `Get` found for its name if it found
one, names the body's name. -/
theorem endsNaming_upsertApi (ing : Ingress) (body : Api) (api : Option Api) (gateway : Gateway)
    (fresh : body.uid = 0)
    (found : ∀ existing, api = some existing → existing ∈ gateway.apis ∧ existing.name = body.name) :
    EndsNaming [body.name] (k.upsertApi ing body api) gateway := by
  unfold upsertApi
  rcases api with _ | existing <;> simp only [Prog.bind_eq, Prog.send_bind] <;> intro world keeps
  · refine ⟨world.gateway.idNamed_of_fresh fresh, ?_⟩
    simp only [World.answer_updateOrCreateApi]
    split
    next _ _ answered => rw [world.gateway.updateOrCreateApi_error answered]; trivial
    next _ answered => exact k.endsNaming_configureApi ing _ (world.gateway.mem_apiNames_updateOrCreateApi answered)
  · obtain ⟨member, named⟩ := found existing rfl
    refine ⟨keeps.idNamed member named rfl, ?_⟩
    simp only [World.answer_updateOrCreateApi]
    split
    next _ _ answered => rw [world.gateway.updateOrCreateApi_error answered]; trivial
    next _ answered => exact k.endsNaming_configureApi ing _ (world.gateway.mem_apiNames_updateOrCreateApi answered)

/-- **A path's iteration ends naming its path**, whatever other workers do between its calls
without removing or renaming an API. -/
theorem endsNaming_syncPath (ing : Ingress) (r : IngressRule) (p : HTTPIngressPath) (gateway : Gateway) :
    EndsNaming [k.apiName r.host ing.ns p.path] (k.syncPath ing r p) gateway := by
  simp only [syncPath, Prog.bind_eq, Prog.send_bind]
  intro world _
  refine ⟨trivial, ?_⟩
  simp only [World.answer_listServices]
  split
  · exact fun _ _ => ⟨trivial, trivial⟩
  · intro world _
    refine ⟨trivial, ?_⟩
    simp only [World.answer_patchServiceFinalizer]
    split
    · trivial
    · intro world _
      refine ⟨trivial, ?_⟩
      simp only [World.answer_getApi]
      cases found : world.gateway.getApi (k.apiBody ing r p).name with
      | none =>
        simp only [Option.elim_none, ne_eq, not_true_eq_false, if_false]
        exact k.endsNaming_upsertApi ing _ none _ rfl fun _ absent => nomatch absent
      | some api =>
        exact k.endsNaming_upsertApi ing _ (some api) _ rfl fun _ same =>
          Option.some.inj same ▸ world.gateway.getApi_mem found

/-! ### A sync that has read its ingress names every path of it -/

/-- The API names of the paths of an ingress. -/
def pathNames (ing : Ingress) : List String :=
  (ingressPaths ing).map fun path => k.apiName path.1.host ing.ns path.2.path

theorem allCalls_setDirty (ing : Ingress) (numRequeues : Nat) :
    AllCalls Call.LeavesApis (setDirty ing numRequeues) := by
  unfold setDirty
  split
  · exact .pure _
  · refine (AllCalls.send trivial).bind fun patched => ?_
    cases patched <;> first | exact .fail _ | exact .pure _

theorem endsNaming_syncRules (ing : Ingress) (gateway : Gateway) :
    EndsNaming (k.pathNames ing) (Prog.forEach ing.spec.rules (k.syncRule ing)) gateway := by
  rw [forEach_syncRule, pathNames, List.map_eq_flatMap]
  exact endsNaming_forEach _ (fun (path : IngressRule × HTTPIngressPath) => k.endsNaming_syncPath ing path.1 path.2)
    _ gateway

/-- **Once its `Get` has found an ingress, `syncIngress` ends naming every path of it**: its first
call, answered from a world whose cache holds the ingress under the key, leaves a program that
does, whatever other workers do between its later calls without removing or renaming an API. -/
theorem endsNaming_syncIngress_step (key : String) (numRequeues : Nat) (world : World) {ing : Ingress}
    (found : world.cluster.getIngress key = some ing) :
    ∃ rest, (k.syncIngress key numRequeues).step World.answer world = some (rest, world) ∧
      ∀ gateway, EndsNaming (k.pathNames ing) rest gateway := by
  simp only [syncIngress, Prog.bind_eq, Prog.send_bind, Prog.step, World.answer_getIngress, found]
  refine ⟨_, rfl, fun gateway => ?_⟩
  simp only [Prog.pure_eq, Prog.pure_bind]
  split_ifs
  · exact (EndsNaming.of_allCalls (allCalls_setDirty ing numRequeues).attempt gateway).bind fun _ later _ =>
      k.endsNaming_syncRules ing later
  · exact k.endsNaming_syncRules ing gateway

end KongController

end KongIngress
