/-
**The gateway the spec describes, in which names identify APIs.**

The spec's gateway refuses, with `409 Conflict`, a write that would give a name to a second API
(`Gateway.updateOrCreateApiNamed`, answered by `World.answerNamed`). The store `World.answer`
answers from accepts every create instead. This module connects the two:

* `World.answerNamed_named` — every call of the spec's gateway keeps the API names distinct. So
  `NamedWorld`, a world that carries the distinctness as a field, is closed under the spec's
  answers (`NamedWorld.answer`), and a run against it is the run against `answerNamed` of its
  world (`NamedWorld.run_world`).
* `run_syncIngress_named`, `run_syncServices_named` — from a gateway of distinct names, a whole
  sync runs alike against the spec's gateway and against the store. A path's `Get` and
  `UpdateOrCreate` go back to back: the body is created under a name `Get` did not find, or
  written under the id of the API `Get` found, the one API of that name. `syncServices` makes no
  `UpdateOrCreate` at all. So what is proved of whole syncs against the store, from such a
  gateway, holds of the spec's gateway.
-/

import KongIngress.Run.Rely
import KongIngress.Run.Effects

namespace KongIngress

/-! ### The spec's gateway keeps names distinct -/

/-- The calls of the controller, by what they write of the APIs. -/
theorem Call.leavesApis_or (request : Call) :
    request.LeavesApis ∨ (∃ body, request = .updateOrCreateApi body) ∨ ∃ name, request = .deleteApi name := by
  cases request <;> first | exact .inl trivial | exact .inr (.inl ⟨_, rfl⟩) | exact .inr (.inr ⟨_, rfl⟩)

namespace Gateway

variable (gateway : Gateway)

/-- **A write the spec's gateway accepts keeps the names distinct**: a create is of a name no API
holds, and a write under an id renames the one API of that id to a name no other API holds. -/
theorem nodup_apiNames_updateOrCreateApiNamed (body : Api) (distinct : gateway.apiNames.Nodup) :
    (gateway.updateOrCreateApiNamed body).2.apiNames.Nodup := by
  unfold updateOrCreateApiNamed
  split_ifs with taken
  · exact distinct
  have free : ∀ api ∈ gateway.apis, api.name = body.name → api.uid = body.uid := by
    simpa using taken
  unfold updateOrCreateApi
  split_ifs with fresh
  · -- a create: no API holds the name, for every API has an id
    show ((gateway.createApi body).apis.map Api.name).Nodup
    rw [createApi_apis, List.map_append]
    refine List.nodup_append.mpr ⟨distinct, List.nodup_singleton _, fun name old created => ?_⟩
    obtain ⟨api, member, rfl⟩ := List.mem_map.mp old
    have named : api.name = body.name := List.mem_singleton.mp created
    exact (gateway.uid_pos api member).ne' ((free api member named).trans fresh)
  · -- a write under an id: the API of that id is the only one to take the body's name
    show ((gateway.replaceApi body).apis.map Api.name).Nodup
    rw [replaceApi_apis, List.map_map]
    refine List.Nodup.map_on (fun first firstMem second secondMem same => ?_)
      (gateway.uid_nodup.of_map Api.uid)
    simp only [Function.comp_apply] at same
    split_ifs at same with firstId secondId secondId
    · exact gateway.eq_of_uid_eq firstMem secondMem (firstId.trans secondId.symm)
    · exact absurd (free second secondMem same.symm) secondId
    · exact absurd (free first firstMem same) firstId
    · exact List.inj_on_of_nodup_map distinct firstMem secondMem same
  · exact distinct

end Gateway

/-- **Every call of the spec's gateway keeps the API names distinct.** -/
theorem World.answerNamed_named (request : Call) (world : World) (distinct : world.gateway.apiNames.Nodup) :
    (World.answerNamed request world).2.gateway.apiNames.Nodup := by
  rcases request.leavesApis_or with leaves | ⟨body, rfl⟩ | ⟨name, rfl⟩
  · simpa only [Gateway.apiNames, World.answerNamed_of_leavesApis request world leaves,
      World.answer_apis_of_leavesApis request world leaves] using distinct
  · exact world.gateway.nodup_apiNames_updateOrCreateApiNamed body distinct
  · exact ((List.eraseP_sublist _).map Api.name).nodup distinct

/-- A world whose gateway is one the spec's gateway can be in: no two of its APIs share a name. -/
structure NamedWorld where
  world : World
  named : world.gateway.apiNames.Nodup

namespace NamedWorld

/-- The spec's gateway answering a call, from a world it can be in, to another. -/
def answer (request : Call) (w : NamedWorld) : request.Response × NamedWorld :=
  ((World.answerNamed request w.world).1,
    ⟨(World.answerNamed request w.world).2, World.answerNamed_named request w.world w.named⟩)

/-- A run against the spec's gateway is the run against `answerNamed` of its world. -/
theorem run_world {α : Type} (x : Prog α) (w : NamedWorld) :
    ((x.run answer w).1, (x.run answer w).2.world) = x.run World.answerNamed w.world := by
  induction x generalizing w with
  | pure value => rfl
  | fail message => rfl
  | call request next ih => exact ih _ _
  | nilDereference => rfl

/-- A run that goes alike against the spec's gateway and the store ends, from a world the spec's
gateway can be in, as it does against the store. -/
theorem run_of_alike {α : Type} {x : Prog α} {w : NamedWorld}
    (alike : x.run World.answerNamed w.world = x.run World.answer w.world) :
    (x.run answer w).1 = (x.run World.answer w.world).1 ∧
      (x.run answer w).2.world = (x.run World.answer w.world).2 :=
  Prod.ext_iff.mp ((run_world x w).trans alike)

end NamedWorld

/-! ### Whole syncs run alike against both -/

namespace KongController

variable (k : KongController)

/-- Each write of a path keeps the API names distinct. -/
theorem keptByPathWrites_names : k.KeptByPathWrites fun gateway => gateway.apiNames.Nodup where
  writeApi gateway _ distinct := gateway.nodup_apiNames_writeApi distinct
  attachPlugins _ _ _ distinct := by simpa [Gateway.apiNames] using distinct
  postCertificates _ _ distinct := by simpa [Gateway.apiNames] using distinct
  withAuth0 _ _ _ distinct := by simpa [Gateway.apiNames] using distinct

/-- **A path's `UpdateOrCreate` is answered alike**: its body is created under a name `Get` did not
find, or written under the id of the API `Get` found, the only one of its name. -/
theorem run_upsertApi_named (world : World) (ing : Ingress) (body : Api) {api : Option Api} (found : world.gateway.getApi body.name = api) (distinct : world.gateway.apiNames.Nodup) :
    (k.upsertApi ing body api).run World.answerNamed world = (k.upsertApi ing body api).run World.answer world := by
  rcases api with _ | existing
  case' none =>
    have free : ∀ other ∈ world.gateway.apis, other.name = body.name → other.uid = body.uid :=
      fun other member named =>
        absurd (named ▸ List.mem_map_of_mem Api.name member) (world.gateway.getApi_eq_none found)
    simp only [upsertApi, Prog.bind_eq, Prog.send_bind, Prog.run_call,
      World.answerNamed_updateOrCreateApi world _ free]
  case' some =>
    obtain ⟨mem, sameName⟩ := world.gateway.getApi_mem found
    have free : ∀ other ∈ world.gateway.apis, other.name = body.name → other.uid = existing.uid :=
      fun other member named =>
        congrArg Api.uid (List.inj_on_of_nodup_map distinct member mem (named.trans sameName.symm))
    simp only [upsertApi, Prog.bind_eq, Prog.send_bind, Prog.run_call,
      World.answerNamed_updateOrCreateApi world { body with uid := existing.uid, createdAt := existing.createdAt } free]
  -- what follows the call writes no API, whatever the answer
  all_goals
    refine Prog.AllCalls.run_congr ?_ World.answerNamed_of_leavesApis _
    generalize (World.answer _ world).1 = response
    obtain ⟨api, _ | err⟩ := response
    · exact k.allCalls_configureApi ing api
    · dsimp only
      split_ifs
      · exact .fail _
      · exact k.allCalls_configureApi ing api

/-- **A path's iteration runs alike against both gateways**, from one of distinct names. -/
theorem run_syncPath_named (ing : Ingress) (r : IngressRule) (p : HTTPIngressPath) (world : World)
    (distinct : world.gateway.apiNames.Nodup) :
    (k.syncPath ing r p).run World.answerNamed world = (k.syncPath ing r p).run World.answer world := by
  simp (disch := trivial) only [syncPath, Prog.bind_eq, Prog.send_bind, Prog.run_call,
    World.answerNamed_of_leavesApis, World.answer_listServices]
  split_ifs
  · simp (disch := trivial) only [Prog.run_call, Prog.run_fail, World.answerNamed_of_leavesApis]
  simp (disch := trivial) only [Prog.run_call, World.answerNamed_of_leavesApis,
    World.answer_patchServiceFinalizer]
  split
  · rfl
  simp (disch := trivial) only [Prog.run_call, World.answerNamed_of_leavesApis, World.answer_getApi]
  cases found : world.gateway.getApi (k.apiBody ing r p).name with
  | none =>
    simp only [Option.elim_none, ne_eq, not_true_eq_false, if_false]
    exact k.run_upsertApi_named _ ing _ found distinct
  | some api => exact k.run_upsertApi_named _ ing _ found distinct

/-- **A whole `syncIngress` runs alike against both gateways**, from one of distinct names: every
path's iteration does, and keeps the names distinct for the next. -/
theorem run_syncIngress_named (world : World) (key : String) (numRequeues : Nat)
    (distinct : world.gateway.apiNames.Nodup) :
    (k.syncIngress key numRequeues).run World.answerNamed world =
      (k.syncIngress key numRequeues).run World.answer world := by
  have loop : ∀ (ing : Ingress) (state : World), state.gateway.apiNames.Nodup →
      (Prog.forEach ing.spec.rules (k.syncRule ing)).run World.answerNamed state =
        (Prog.forEach ing.spec.rules (k.syncRule ing)).run World.answer state := fun ing state held => by
    rw [forEach_syncRule]
    refine Prog.run_forEach_congr World.answer (fun state => state.gateway.apiNames.Nodup) ?_ ?_ _ held
    · exact fun path state held => k.run_syncPath_named ing path.1 path.2 state held
    · exact fun path state held => k.keptByPathWrites_names.syncPath state ing path.1 path.2 held
  simp (disch := trivial) only [syncIngress, Prog.bind_eq, Prog.send_bind, Prog.run_call,
    World.answerNamed_of_leavesApis, World.answer_getIngress]
  cases world.cluster.getIngress key with
  | none => rfl
  | some ing =>
    simp only [Prog.pure_eq, Prog.pure_bind]
    split_ifs
    · rw [Prog.run_bind, Prog.run_bind, Prog.AllCalls.run_congr (allCalls_setDirty ing numRequeues).attempt
        World.answerNamed_of_leavesApis]
      obtain ⟨result, attempted⟩ := run_attempt_setDirty world ing numRequeues
      rw [attempted]
      exact loop ing _ (by split_ifs <;> exact distinct)
    · exact loop ing world distinct

/-- `syncServices` makes no `UpdateOrCreate`: each of its calls is answered alike by both gateways,
from every world. -/
theorem allCalls_syncServices (key : String) (numRequeues : Nat) :
    Prog.AllCalls (fun request => ∀ world, World.answerNamed request world = World.answer request world)
      (k.syncServices key numRequeues) := by
  unfold syncServices
  refine (Prog.AllCalls.send fun _ => rfl).bind fun found => ?_
  rcases found with err | _ | svc
  · exact .fail _
  · exact .pure _
  dsimp only
  split
  · exact .pure _
  refine Prog.AllCalls.forEach (fun port => ?_) _
  unfold cleanPort
  refine (Prog.AllCalls.send fun _ => rfl).bind fun listed => ?_
  rcases listed with err | apis
  · exact .fail _
  refine (Prog.AllCalls.forEach (fun api => ?_) apis).bind fun _ => ?_
  · unfold deleteListedApi
    refine (Prog.AllCalls.send fun _ => rfl).bind fun deleted => ?_
    cases deleted <;> first | exact .fail _ | exact .pure _
  · refine (Prog.AllCalls.send fun _ => rfl).bind fun cleared => ?_
    cases cleared <;> first | exact .fail _ | exact .pure _

/-- **`syncServices` runs alike against both gateways**, from every world. -/
theorem run_syncServices_named (world : World) (key : String) (numRequeues : Nat) :
    (k.syncServices key numRequeues).run World.answerNamed world =
      (k.syncServices key numRequeues).run World.answer world :=
  (k.allCalls_syncServices key numRequeues).run_congr (fun _ world alike => alike world) world

end KongController

end KongIngress
