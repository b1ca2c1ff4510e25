/-
**What a quiescent controller serves, however the workers' calls interleave.**

`quiescent_serves_every_path` is about the runs in which each sync runs whole. Once the workers'
calls interleave (`Threads`), a sync reads its ingress at its first call, and other workers write
to the orchestrator and the gateway between its calls. The same still holds:

* `Threads.Served` — a kong-class ingress of the cache waits in the queue, or failed last with no
  worker holding its key, or has every path named, or is `Underway`: the worker holding its key
  has not read it yet, or will name every path of it (`EndsNaming`).
* `Threads.Converging` — the invariant: the orchestrator is consistent, every kong-class ingress is
  served, no two workers of a queue hold one key (the queue's in-flight deduplication), and every
  worker's sync is `Thread.Sound`: a service worker has made no call yet, an ingress worker has
  not read its ingress yet or keeps the gateway's APIs.
* `Threads.Converging.step` — every move but a service's deletion keeps it. An ingress changed
  after its worker read it has its key enqueued again, and no worker removes or renames an API
  another has written (`Run.Rely`).
* `interleaved_keeps_apis` — in every interleaving without a service's deletion, every state after
  a reached one keeps its APIs under their ids and names (`Converging.keeps_step`).
* `interleaved_quiescent_serves_every_path` — in every interleaving without a service's deletion,
  once no sync is under way, both queues are empty and every key's last sync returned nil, every
  path of every kong-class ingress in the cache has its API.
-/

import KongIngress.Run.Rely
import KongIngress.Runtime.Threads
import KongIngress.Correctness.Converge

namespace KongIngress

/-- Whether a move is a user's deletion of a service. -/
def Move.deletesService : Move → Bool
  | .user w => (Action.user w).deletesService
  | _ => false

namespace KongController

variable (k : KongController)

theorem pathNames_of_view {ing ing' : Ingress} (sameView : ing'.view = ing.view) :
    k.pathNames ing' = k.pathNames ing := by
  obtain ⟨sameNs, -, sameSpec, -⟩ := Ingress.view_eq_iff.mp sameView
  simp only [pathNames, ingressPaths, sameNs, sameSpec]

theorem pathsNamed_iff (ing : Ingress) (gateway : Gateway) :
    k.PathsNamed ing gateway ↔ ∀ name ∈ k.pathNames ing, name ∈ gateway.apiNames := by
  simp only [PathsNamed, pathNames, List.forall_mem_map]

/-- A service worker's first call, `GetByKey`, leaves the world as it is. -/
theorem syncServices_step_world (world : World) (key : String) (numRequeues : Nat) :
    ∃ rest, (k.syncServices key numRequeues).step World.answer world = some (rest, world) :=
  ⟨_, rfl⟩

/-- So does an ingress worker's. -/
theorem syncIngress_step_world (world : World) (key : String) (numRequeues : Nat) :
    ∃ rest, (k.syncIngress key numRequeues).step World.answer world = some (rest, world) :=
  ⟨_, rfl⟩

/-- Against a cluster in which no service is being deleted, `syncServices` ends at its first call. -/
theorem syncServices_step_of_live (world : World) (key : String) (numRequeues : Nat)
    (live : world.cluster.Live) :
    (k.syncServices key numRequeues).step World.answer world = some (.pure (), world) := by
  simp only [syncServices, Prog.bind_eq, Prog.send_bind, Prog.step, World.answer_getService]
  cases found : world.cluster.getService key with
  | none => rfl
  | some svc => simp [live svc (List.mem_of_find?_eq_some found)]

/-- `syncIngress` of a key no ingress has ends at its first call. -/
theorem syncIngress_step_of_none (world : World) (key : String) (numRequeues : Nat)
    (missing : world.cluster.getIngress key = none) :
    (k.syncIngress key numRequeues).step World.answer world = some (.pure (), world) := by
  simp only [syncIngress, Prog.bind_eq, Prog.send_bind, Prog.step, World.answer_getIngress, missing]
  rfl

end KongController

/-- A program that has returned nil has named what it promised. -/
theorem EndsNaming.of_ok {names : List String} {x : Prog Unit} {gateway : Gateway}
    (ends : EndsNaming names x gateway) (ok : x.outcome? = some (.ok ())) :
    ∀ name ∈ names, name ∈ gateway.apiNames := by
  cases x <;> cases ok
  exact ends

/-! ### The workers' syncs -/

/-- What a worker's sync can still do: a service worker has made no call yet; an ingress worker has
not read its ingress yet, or keeps the gateway's APIs. -/
def Thread.Sound (k : KongController) (gateway : Gateway) (thread : Thread) : Prop :=
  match thread.queue with
  | .service => ∃ numRequeues, thread.rest = k.syncServices thread.key numRequeues
  | .ingress => (∃ numRequeues, thread.rest = k.syncIngress thread.key numRequeues) ∨
      ∃ names, EndsNaming names thread.rest gateway

namespace Thread

variable {k : KongController} {thread : Thread} {world world' : World} {rest : Prog Unit}

theorem Sound.mono {gateway later : Gateway} (sound : thread.Sound k gateway) (keeps : gateway.Keeps later) :
    thread.Sound k later := by
  obtain ⟨queue, key, rest⟩ := thread
  cases queue with
  | service => exact sound
  | ingress => exact Or.imp id (fun ⟨names, ends⟩ => ⟨names, ends.mono keeps⟩) sound

/-- **A sound worker's call keeps the gateway's APIs**: a first call only reads, and a later one is
one its sync's promise allows. -/
theorem Sound.keeps (sound : thread.Sound k world.gateway)
    (progressed : thread.rest.step World.answer world = some (rest, world')) :
    world.gateway.Keeps world'.gateway := by
  obtain ⟨queue, key, rest⟩ := thread
  dsimp only at progressed
  cases queue <;> simp only [Thread.Sound] at sound
  case service =>
    obtain ⟨n, rfl⟩ := sound
    obtain ⟨_, first⟩ := k.syncServices_step_world world key n
    rw [first] at progressed
    cases progressed
    exact Gateway.Keeps.refl _
  case ingress =>
    rcases sound with ⟨n, rfl⟩ | ⟨names, ends⟩
    · obtain ⟨_, first⟩ := k.syncIngress_step_world world key n
      rw [first] at progressed
      cases progressed
      exact Gateway.Keeps.refl _
    · obtain ⟨request, next, rfl, -, rfl⟩ := Prog.step_eq_some progressed
      exact World.answer_keeps request world (ends world (Gateway.Keeps.refl _)).1

/-- A sound worker whose sync goes on after its call is still sound. -/
theorem Sound.step (sound : thread.Sound k world.gateway) (live : world.cluster.Live)
    (progressed : thread.rest.step World.answer world = some (rest, world')) (ongoing : rest.outcome? = none) :
    (⟨thread.queue, thread.key, rest⟩ : Thread).Sound k world'.gateway := by
  obtain ⟨queue, key, rest⟩ := thread
  dsimp only at progressed ⊢
  cases queue <;> simp only [Thread.Sound] at sound ⊢
  case service =>
    obtain ⟨n, rfl⟩ := sound
    rw [k.syncServices_step_of_live world key n live] at progressed
    cases progressed
    cases ongoing
  case ingress =>
    rcases sound with ⟨n, rfl⟩ | ⟨names, ends⟩
    · cases found : world.cluster.getIngress key with
      | none =>
        rw [k.syncIngress_step_of_none world key n found] at progressed
        cases progressed
        cases ongoing
      | some ing =>
        obtain ⟨_, first, ends⟩ := k.endsNaming_syncIngress_step key n world found
        rw [first] at progressed
        cases progressed
        exact .inr ⟨_, ends _⟩
    · obtain ⟨request, next, rfl, rfl, rfl⟩ := Prog.step_eq_some progressed
      exact .inr ⟨names, (ends world (Gateway.Keeps.refl _)).2⟩

/-- **The worker holding an ingress's key keeps its promise to name every path of it** across its
call: before its first call, the `Get` finds that very ingress. -/
theorem endsNaming_step {ing : Ingress}
    (keys : (world.cluster.ingresses.map fun ing => keyFunc ing.ns ing.name).Nodup)
    (member : ing ∈ world.cluster.ingresses) (holder : thread.key = keyFunc ing.ns ing.name)
    (promise : (∃ n, thread.rest = k.syncIngress thread.key n) ∨
      EndsNaming (k.pathNames ing) thread.rest world.gateway)
    (progressed : thread.rest.step World.answer world = some (rest, world')) :
    EndsNaming (k.pathNames ing) rest world'.gateway := by
  rcases promise with ⟨n, unread⟩ | ends
  · have found : world.cluster.getIngress thread.key = some ing := holder ▸ Cluster.getIngress_of_mem keys member
    obtain ⟨_, first, ends⟩ := k.endsNaming_syncIngress_step thread.key n world found
    rw [unread, first] at progressed
    cases progressed
    exact ends _
  · obtain ⟨request, next, shape, rfl, rfl⟩ := Prog.step_eq_some progressed
    rw [shape] at ends
    exact (ends world (Gateway.Keeps.refl _)).2

end Thread

/-! ### The invariant of an interleaved run without service deletions -/

namespace Threads

variable (k : KongController)

/-- A worker of the ingress queue holds the key. -/
def Holds (t : Threads) (key : String) : Prop :=
  ∃ thread ∈ t.running, thread.queue = .ingress ∧ thread.key = key

/-- The worker holding the ingress's key has not read it yet, or will name every path of it. -/
def Underway (t : Threads) (ing : Ingress) : Prop :=
  ∃ thread ∈ t.running, thread.queue = .ingress ∧ thread.key = keyFunc ing.ns ing.name ∧
    ((∃ n, thread.rest = k.syncIngress thread.key n) ∨
      EndsNaming (k.pathNames ing) thread.rest t.controller.world.gateway)

/-- How a kong-class ingress of the cache is served: its key waits, or its last sync failed and no
worker holds the key, or every path is named, or it is under way. -/
def Served (t : Threads) (ing : Ingress) : Prop :=
  keyFunc ing.ns ing.name ∈ t.controller.ingQueue.pending ∨
    (keyFunc ing.ns ing.name ∈ t.controller.ingQueue.failing ∧ ¬Holds t (keyFunc ing.ns ing.name)) ∨
    k.PathsNamed ing t.controller.world.gateway ∨ Underway k t ing

/-- What an interleaved run in which no service is deleted keeps. -/
structure Converging (t : Threads) extends Cluster.Consistent t.controller.world.cluster : Prop where
  served : ∀ ing ∈ t.controller.world.cluster.ingresses, isKongIngress ing = true → Served k t ing
  exclusive : (t.running.map fun thread => (thread.queue, thread.key)).Nodup
  sound : ∀ thread ∈ t.running, thread.Sound k t.controller.world.gateway

theorem converging_start (identityProvider : String → Except String (List UInt8)) :
    Converging k (start identityProvider) :=
  ⟨Cluster.consistent_empty, fun _ member => absurd member (List.not_mem_nil _), List.nodup_nil,
    fun _ member => absurd member (List.not_mem_nil _)⟩

variable {k}

/-- An ingress served before a move is served after it, as is one of the same view, when the move
keeps its key waiting, keeps it failing, lets no new worker hold it, keeps the gateway's APIs and
keeps the worker holding it. -/
theorem Served.transfer {t t' : Threads} {ing ing' : Ingress} (served : Served k t ing)
    (sameView : ing'.view = ing.view)
    (pending : keyFunc ing.ns ing.name ∈ t.controller.ingQueue.pending →
      keyFunc ing.ns ing.name ∈ t'.controller.ingQueue.pending)
    (failing : keyFunc ing.ns ing.name ∈ t.controller.ingQueue.failing →
      keyFunc ing.ns ing.name ∈ t'.controller.ingQueue.failing)
    (holds : Holds t' (keyFunc ing.ns ing.name) → Holds t (keyFunc ing.ns ing.name))
    (keeps : t.controller.world.gateway.Keeps t'.controller.world.gateway)
    (running : ∀ thread ∈ t.running, thread.queue = .ingress → thread.key = keyFunc ing.ns ing.name →
      thread ∈ t'.running) :
    Served k t' ing' := by
  obtain ⟨sameNs, sameName, -, -⟩ := Ingress.view_eq_iff.mp sameView
  unfold Served Underway
  rw [sameNs, sameName, k.pathNames_of_view sameView]
  rcases served with waiting | ⟨failed, free⟩ | named | ⟨thread, member, onQueue, onKey, promise⟩
  · exact .inl (pending waiting)
  · exact .inr (.inl ⟨failing failed, fun held => free (holds held)⟩)
  · exact .inr (.inr (.inl fun path onPath =>
      keeps.apiNames (KongController.PathsNamed.of_view k sameView named path onPath)))
  · exact .inr (.inr (.inr ⟨thread, running thread member onQueue onKey, onQueue, onKey,
      promise.imp id fun ends => ends.mono keeps⟩))

/-- A thread that no running worker of its queue holds the key of can join the running ones. -/
theorem exclusive_append {running : List Thread} {thread : Thread}
    (exclusive : (running.map fun other => (other.queue, other.key)).Nodup)
    (free : ∀ other ∈ running, other.holds thread.queue thread.key = false) :
    ((running ++ [thread]).map fun other => (other.queue, other.key)).Nodup := by
  rw [List.map_append, List.nodup_append]
  refine ⟨exclusive, List.nodup_singleton _, fun pair old new => ?_⟩
  obtain ⟨other, member, rfl⟩ := List.mem_map.mp old
  simp only [List.map_cons, List.map_nil, List.mem_singleton, Prod.mk.injEq] at new
  simpa [Thread.holds, new.1, new.2] using free other member

/-! #### The users' writes -/

theorem Converging.user {t : Threads} (conv : Converging k t) (w : UserWrite)
    (kept : (Action.user w).deletesService = false) :
    Converging k { t with controller := t.controller.write w } where
  toConsistent := (conv.toConsistent.apply w kept).withWatch []
  served ing member kong := by
    rcases Controller.mem_write conv.versions w member kong with old | pending
    · rcases conv.served ing old kong with waiting | ⟨failed, free⟩ | named | under
      · exact .inl (mem_foldl_onIngressEvent waiting _)
      · exact .inr (.inl ⟨by simpa [Controller.write, Controller.deliver] using failed, free⟩)
      · exact .inr (.inr (.inl named))
      · exact .inr (.inr (.inr under))
    · exact .inl pending
  exclusive := conv.exclusive
  sound := conv.sound

/-! #### A worker's take -/

theorem Converging.take {t next : Threads} (conv : Converging k t) {queue : QueueKind} {key : String}
    (stepped : t.step k (.take queue key) = some next) : Converging k next := by
  simp only [step] at stepped
  split_ifs at stepped with enabled
  obtain ⟨pending, free⟩ := enabled
  rw [settle_ongoing (KongController.sync_ongoing k queue key _)] at stepped
  cases stepped
  refine ⟨by simpa using conv.toConsistent, fun ing member kong => ?_, ?_, fun thread member => ?_⟩
  · rw [Controller.setQueue_world] at member
    by_cases mine : queue = .ingress ∧ key = keyFunc ing.ns ing.name
    · obtain ⟨rfl, rfl⟩ := mine
      exact .inr (.inr (.inr ⟨_, List.mem_append_right _ (List.mem_singleton_self _), rfl, rfl, .inl ⟨_, rfl⟩⟩))
    refine (conv.served ing member kong).transfer rfl (fun waiting => ?_) (fun failed => ?_)
      (fun ⟨thread, member, onQueue, onKey⟩ => ?_) (by simpa using Gateway.Keeps.refl _)
      fun thread member _ _ => List.mem_append_left _ member
    · rw [Controller.ingQueue_setQueue]
      split_ifs with ingress
      · subst ingress
        exact (List.mem_erase_of_ne fun same => mine ⟨rfl, same.symm⟩).mpr waiting
      · exact waiting
    · rw [Controller.ingQueue_setQueue]
      split_ifs with ingress
      · subst ingress
        exact failed
      · exact failed
    · rcases List.mem_append.mp member with old | new
      · exact ⟨thread, old, onQueue, onKey⟩
      · rw [List.mem_singleton.mp new] at onQueue onKey
        exact absurd ⟨onQueue, onKey⟩ mine
  · exact exclusive_append conv.exclusive (by simpa using free)
  · rw [Controller.setQueue_world]
    rcases List.mem_append.mp member with old | new
    · exact conv.sound thread old
    · rw [List.mem_singleton.mp new]
      cases queue
      · exact .inl ⟨_, rfl⟩
      · exact ⟨(t.controller.queue .service).requeues key, rfl⟩

/-! #### A worker's call -/

theorem Converging.call {t next : Threads} (conv : Converging k t) {queue : QueueKind} {key : String}
    (stepped : t.step k (.call queue key) = some next) : Converging k next := by
  obtain ⟨thread, member, holds, rest, world, progressed, rfl⟩ := step_call_eq_some k stepped
  obtain ⟨onQueue, onKey⟩ : thread.queue = queue ∧ thread.key = key := by simpa [Thread.holds] using holds
  have keeps := (conv.sound thread member).keeps progressed
  have goesOn := (conv.sound thread member).step conv.live progressed
  rw [onQueue, onKey] at goesOn
  obtain ⟨request, next, shape, -, rfl⟩ := Prog.step_eq_some progressed
  have views := World.answer_views request t.controller.world
  have stays : ∀ other ∈ t.running, (other.queue = queue → other.key ≠ key) →
      other ∈ t.running.filter fun other => !other.holds queue key := fun other mem differ =>
    List.mem_filter.mpr ⟨mem, by simpa [Thread.holds] using imp_iff_not_or.mp differ⟩
  refine ⟨?_, fun ing' member' kong' => ?_, ?_, fun other mem => ?_⟩
  · rw [settle_world]
    exact (conv.toConsistent.of_views views (World.answer_versions request _ conv.versions)
      (World.answer_live request _ conv.live)).withWatch []
  · rw [settle_world, Controller.deliver_ingresses] at member'
    obtain ⟨ing, mem, sameView⟩ := Cluster.exists_view_eq views member'
    obtain ⟨sameNs, sameName, -, sameKong⟩ := Ingress.view_eq_iff.mp sameView
    have kong : isKongIngress ing = true := sameKong.trans kong'
    by_cases own : queue = .ingress ∧ key = keyFunc ing.ns ing.name
    · obtain ⟨rfl, rfl⟩ := own
      unfold Served Underway
      rw [← sameNs, ← sameName]
      rcases conv.served ing mem kong with waiting | ⟨-, free⟩ | named |
          ⟨holder, holderMem, holderQueue, holderKey, promise⟩
      · exact .inl (mem_settle_pending _ (mem_foldl_onIngressEvent waiting _))
      · exact absurd ⟨thread, member, onQueue, onKey⟩ free
      · rw [settle_world]
        exact .inr (.inr (.inl fun path onPath =>
          keeps.apiNames (KongController.PathsNamed.of_view k sameView.symm named path onPath)))
      have same : holder = thread :=
        List.inj_on_of_nodup_map conv.exclusive holderMem member (by rw [holderQueue, holderKey, onQueue, onKey])
      subst same
      have ends := Thread.endsNaming_step conv.keys mem holderKey promise progressed
      rw [← k.pathNames_of_view sameView.symm] at ends
      cases ended : rest.outcome? with
      | none =>
        rw [settle_ongoing ended]
        exact .inr (.inr (.inr ⟨_, List.mem_append_right _ (List.mem_singleton_self _), rfl, rfl, .inr ends⟩))
      | some outcome =>
        rw [settle_ended ended]
        rcases outcome with ⟨⟨⟩⟩ | err | _
        · exact .inr (.inr (.inl ((k.pathsNamed_iff ing' _).mpr (ends.of_ok ended))))
        · exact .inl (TaskQueue.mem_add_self _ _)
        · refine .inr (.inl ⟨List.mem_insert_self _ _, fun ⟨other, otherMem, otherQueue, otherKey⟩ => ?_⟩)
          simpa [Thread.holds, otherQueue, otherKey] using (List.mem_filter.mp otherMem).2
    · refine (conv.served ing mem kong).transfer sameView.symm
        (fun waiting => mem_settle_pending _ (mem_foldl_onIngressEvent waiting _))
        (fun failed => mem_settle_failing (fun ingress same => own ⟨ingress, same.symm⟩)
          (by simpa [Controller.deliver] using failed))
        (fun ⟨other, otherMem, otherQueue, otherKey⟩ => ?_) (by rw [settle_world]; exact keeps)
        fun other otherMem otherQueue otherKey => mem_settle_running.mpr (.inl (stays other otherMem
          fun sameQueue sameKey => own ⟨sameQueue ▸ otherQueue, sameKey ▸ otherKey⟩))
      rcases mem_settle_running.mp otherMem with old | ⟨-, rfl⟩
      · exact ⟨other, (List.mem_filter.mp old).1, otherQueue, otherKey⟩
      · exact absurd ⟨otherQueue, otherKey⟩ own
  · have filtered :=
      ((List.filter_sublist (p := fun other : Thread => !other.holds queue key) t.running).map _).nodup conv.exclusive
    cases ended : rest.outcome? with
    | none =>
      rw [settle_ongoing ended]
      exact exclusive_append filtered fun other member => by simpa using (List.mem_filter.mp member).2
    | some outcome =>
      rw [settle_ended ended]
      exact filtered
  · rw [settle_world]
    rcases mem_settle_running.mp mem with old | ⟨ongoing, rfl⟩
    · exact (conv.sound other (List.mem_filter.mp old).1).mono keeps
    · exact goesOn ongoing

/-! #### Every move -/

/-- **Every move but a service's deletion keeps the invariant.** -/
theorem Converging.step {t next : Threads} (conv : Converging k t) {m : Move}
    (kept : m.deletesService = false) (stepped : t.step k m = some next) : Converging k next := by
  cases m with
  | user w =>
    cases stepped
    exact conv.user w kept
  | take queue key => exact conv.take stepped
  | call queue key => exact conv.call stepped

/-- **An interleaved run in which no service is deleted keeps the invariant.** -/
theorem Converging.run {t : Threads} (conv : Converging k t) :
    ∀ (moves : List Move), (∀ m ∈ moves, m.deletesService = false) →
      ∀ {next : Threads}, Threads.run k moves t = some next → Converging k next :=
  fun moves kept _ => run_keeps k (fun m => m.deletesService = false) (Converging k)
    (fun allowed conv stepped => conv.step allowed stepped) moves kept conv

/-! #### The gateway's APIs along a run -/

/-- **A move of a converging run keeps the gateway's APIs**: a user's write and a worker's take
leave the gateway alone, and a worker's call is one its sync's soundness allows. -/
theorem Converging.keeps_step {t next : Threads} (conv : Converging k t) {m : Move}
    (stepped : t.step k m = some next) : t.controller.world.gateway.Keeps next.controller.world.gateway := by
  cases m with
  | user w =>
    cases stepped
    exact Gateway.Keeps.refl _
  | take queue key =>
    simp only [Threads.step] at stepped
    split_ifs at stepped
    cases stepped
    simpa using Gateway.Keeps.refl _
  | call queue key =>
    obtain ⟨thread, member, -, rest, world, progressed, rfl⟩ := step_call_eq_some k stepped
    simpa using (conv.sound thread member).keeps progressed

/-- A run in which no service is deleted, from a converging state, keeps the gateway's APIs. -/
theorem Converging.keeps_run {t : Threads} (conv : Converging k t) (moves : List Move)
    (kept : ∀ m ∈ moves, m.deletesService = false) {next : Threads} (reached : Threads.run k moves t = some next) :
    t.controller.world.gateway.Keeps next.controller.world.gateway :=
  (run_keeps k (fun m => m.deletesService = false) (fun u => Converging k u ∧ t.controller.world.gateway.Keeps u.controller.world.gateway)
    (fun allowed ⟨conv, keeps⟩ stepped => ⟨conv.step allowed stepped, keeps.trans (conv.keeps_step stepped)⟩)
    moves kept ⟨conv, Gateway.Keeps.refl _⟩ reached).2

end Threads

namespace KongController

variable (k : KongController)

/-- **However the workers' calls interleave, a quiescent controller serves every path**: in a run
in which no service is deleted, once no sync is under way and both queues are empty with no
failed key, every path of every kong-class ingress in the cache has an API of its name. -/
theorem interleaved_quiescent_serves_every_path (identityProvider : String → Except String (List UInt8))
    (moves : List Move) (noServiceDeleted : ∀ m ∈ moves, m.deletesService = false)
    {t : Threads} (reached : Threads.run k moves (Threads.start identityProvider) = some t)
    (idle : t.running = []) (quiet : t.controller.Quiescent) :
    ∀ ing ∈ t.controller.world.cluster.ingresses, isKongIngress ing = true →
      ∀ path ∈ ingressPaths ing,
        k.apiName path.1.host ing.ns path.2.path ∈ t.controller.world.gateway.apiNames := by
  have conv := (Threads.converging_start k identityProvider).run moves noServiceDeleted reached
  obtain ⟨noPending, -, noFailing, -⟩ := quiet
  intro ing member kong
  rcases conv.served ing member kong with pending | ⟨failing, -⟩ | named | ⟨thread, running, -⟩
  · simp [noPending] at pending
  · simp [noFailing] at failing
  · exact named
  · simp [idle] at running

/-- **No API is removed or renamed while no service is deleted**, however the workers' calls
interleave: from any state a run reaches, every later state of the run has every API under its
id and name, has an id at least as large to give next, and gives no earlier id to another
name. -/
theorem interleaved_keeps_apis (identityProvider : String → Except String (List UInt8))
    (before after : List Move) (noServiceDeleted : ∀ m ∈ before ++ after, m.deletesService = false)
    {mid final : Threads} (reached : Threads.run k before (Threads.start identityProvider) = some mid)
    (continued : Threads.run k after mid = some final) :
    mid.controller.world.gateway.Keeps final.controller.world.gateway :=
  ((Threads.converging_start k identityProvider).run before
    (fun m member => noServiceDeleted m (List.mem_append_left _ member)) reached).keeps_run after
    (fun m member => noServiceDeleted m (List.mem_append_right _ member)) continued

end KongController

/-! ### An interleaved run from an empty orchestrator -/

/-- A user creates `web` and its ingress; a service worker's sync of `web` comes between the ingress
worker's second and third calls, and a second one after the ingress's sync has patched `web`. -/
def webInterleaved : List Move :=
  [.user (.createService webService), .user (.createIngress kongWebIngress), .take .ingress "default/web",
    .take .service "default/web"] ++ Move.calls .ingress "default/web" 2 ++
    Move.calls .service "default/web" 1 ++ Move.calls .ingress "default/web" 3 ++
    [.take .service "default/web", .call .service "default/web"]

/-- The workers and the controller once `webInterleaved` has run. -/
def webInterleavedSynced : Threads :=
  (Threads.run KongController.standard webInterleaved (Threads.start World.empty.identityProvider)).getD
    (Threads.start World.empty.identityProvider)

theorem interleaved_serves_web :
    (∀ m ∈ webInterleaved, m.deletesService = false) ∧
      Threads.run KongController.standard webInterleaved (Threads.start World.empty.identityProvider) =
        some webInterleavedSynced ∧
      webInterleavedSynced.running = [] ∧ webInterleavedSynced.controller.Quiescent ∧
      ∀ ing ∈ webInterleavedSynced.controller.world.cluster.ingresses, isKongIngress ing = true →
        ∀ path ∈ ingressPaths ing, KongController.standard.apiName path.1.host ing.ns path.2.path ∈
          webInterleavedSynced.controller.world.gateway.apiNames :=
  have noServiceDeleted : ∀ m ∈ webInterleaved, m.deletesService = false := by decide
  have reached : Threads.run KongController.standard webInterleaved
      (Threads.start World.empty.identityProvider) = some webInterleavedSynced := rfl
  have idle : webInterleavedSynced.running = [] := rfl
  have quiet : webInterleavedSynced.controller.Quiescent := by decide
  ⟨noServiceDeleted, reached, idle, quiet, KongController.standard.interleaved_quiescent_serves_every_path _
    webInterleaved noServiceDeleted reached idle quiet⟩

/-- The workers and the controller once the ingress's sync has ended, before the second service
worker takes `web`. -/
def webInterleavedMidway : Threads :=
  (Threads.run KongController.standard (webInterleaved.take 10) (Threads.start World.empty.identityProvider)).getD
    (Threads.start World.empty.identityProvider)

theorem interleaved_keeps_web :
    (∀ m ∈ webInterleaved.take 10 ++ webInterleaved.drop 10, m.deletesService = false) ∧
      Threads.run KongController.standard (webInterleaved.take 10) (Threads.start World.empty.identityProvider) =
        some webInterleavedMidway ∧
      Threads.run KongController.standard (webInterleaved.drop 10) webInterleavedMidway = some webInterleavedSynced ∧
      webInterleavedMidway.controller.world.gateway.Keeps webInterleavedSynced.controller.world.gateway :=
  have noServiceDeleted : ∀ m ∈ webInterleaved.take 10 ++ webInterleaved.drop 10, m.deletesService = false := by
    decide
  have reached : Threads.run KongController.standard (webInterleaved.take 10)
      (Threads.start World.empty.identityProvider) = some webInterleavedMidway := rfl
  have continued : Threads.run KongController.standard (webInterleaved.drop 10) webInterleavedMidway =
      some webInterleavedSynced := rfl
  ⟨noServiceDeleted, reached, continued, KongController.standard.interleaved_keeps_apis _ _ _ noServiceDeleted
    reached continued⟩

end KongIngress
