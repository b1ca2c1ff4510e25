/-
**The workers' calls, interleaved.**

`Run` starts several workers on each queue, and a worker's sync is a sequence of calls, each a
round trip to the orchestrator, its cache, the gateway or the identity provider; nothing orders
the calls of two workers that hold different keys. `Threads` is the controller with the syncs
under way, and `Threads.step` takes one `Move`:

* a user's write, delivered as in `Controller.write`;
* a worker taking a pending key that no worker of its queue holds (the queue's in-flight
  deduplication: "within one key, at most one worker reconciles at a time") and starting its sync;
* the answer to the next call of the sync a worker holds (`Prog.step`), the informers then
  delivering what the call changed. A sync that has ended hands its outcome to its queue.

`Controller.step` is the special case where every sync runs from its first call to its end with
no other move between:

* `run_calls_alone` — the calls of a sync answered back to back take the controller to where the
  whole run of the sync leaves it, delivered, with the queue told how it ended. No call reads the
  changes the informers have not delivered yet (`World.run_prependWatch`), so delivering after
  every call is delivering once at the end.
* `run_alone` — each atomic step is a run of moves: the user's write, or the worker's take and
  every call of its sync (`Action.moves`).
-/

import KongIngress.Runtime.Controller

namespace KongIngress

/-- How a program has ended, if it has. -/
def Prog.outcome? {α : Type} : Prog α → Option (Outcome α)
  | .pure value => some (.ok value)
  | .fail message => some (.error message)
  | .nilDereference => some .nilDereference
  | .call _ _ => none

/-- The two work queues. -/
inductive QueueKind where
  | ingress
  | service
  deriving DecidableEq, Repr

/-- A worker in the middle of a sync: the queue it works for, the key it took, and what is left of
the sync. -/
structure Thread where
  queue : QueueKind
  key : String
  rest : Prog Unit

/-- Whether the thread is the worker of the queue holding the key. -/
def Thread.holds (queue : QueueKind) (key : String) (thread : Thread) : Bool :=
  thread.queue == queue && thread.key == key

/-- The sync a worker of a queue runs on a key. -/
def KongController.sync (k : KongController) : QueueKind → String → Nat → Prog Unit
  | .ingress => k.syncIngress
  | .service => k.syncServices

namespace Controller

/-- One of the controller's queues. -/
def queue (c : Controller) : QueueKind → TaskQueue
  | .ingress => c.ingQueue
  | .service => c.svcQueue

/-- The controller with one of its queues replaced. -/
def setQueue (c : Controller) : QueueKind → TaskQueue → Controller
  | .ingress, q => { c with ingQueue := q }
  | .service, q => { c with svcQueue := q }

@[simp] theorem setQueue_world (c : Controller) (queue : QueueKind) (q : TaskQueue) :
    (c.setQueue queue q).world = c.world := by
  cases queue <;> rfl

/-- The ingress queue after one of the queues is replaced. -/
theorem ingQueue_setQueue (c : Controller) (queue : QueueKind) (q : TaskQueue) :
    (c.setQueue queue q).ingQueue = if queue = .ingress then q else c.ingQueue := by
  cases queue <;> rfl

end Controller

/-- The controller with its workers' syncs under way. -/
structure Threads where
  controller : Controller
  running : List Thread

/-- What happens next: a user's write, a worker of a queue taking a key, or the answer to the next
call of the sync the worker of a queue and a key holds. -/
inductive Move where
  | user (write : UserWrite)
  | take (queue : QueueKind) (key : String)
  | call (queue : QueueKind) (key : String)
  deriving DecidableEq, Repr

/-- `n` answers in a row to the sync the worker of a queue and a key holds. -/
def Move.calls (queue : QueueKind) (key : String) (n : Nat) : List Move :=
  List.replicate n (.call queue key)

namespace Threads

/-- An empty orchestrator and gateway, no key queued, no sync under way. -/
def start (identityProvider : String → Except String (List UInt8)) : Threads :=
  ⟨Controller.start identityProvider, []⟩

/-- A sync goes on, or, once it has ended, its queue is told how. -/
def settle (t : Threads) (thread : Thread) : Threads :=
  match thread.rest.outcome? with
  | some outcome =>
    { t with
      controller := t.controller.setQueue thread.queue
        ((t.controller.queue thread.queue).done thread.key outcome) }
  | none => { t with running := t.running ++ [thread] }

/-! #### What settling a sync does -/

theorem settle_ongoing {t : Threads} {thread : Thread} (ongoing : thread.rest.outcome? = none) :
    settle t thread = { t with running := t.running ++ [thread] } := by
  simp [settle, ongoing]

theorem settle_ended {t : Threads} {thread : Thread} {outcome : Outcome Unit}
    (ended : thread.rest.outcome? = some outcome) :
    settle t thread =
      { t with
        controller := t.controller.setQueue thread.queue
          ((t.controller.queue thread.queue).done thread.key outcome) } := by
  simp [settle, ended]

@[simp] theorem settle_world (t : Threads) (thread : Thread) :
    (settle t thread).controller.world = t.controller.world := by
  unfold settle; split <;> simp

theorem mem_settle_running {t : Threads} {thread other : Thread} :
    other ∈ (settle t thread).running ↔ other ∈ t.running ∨ thread.rest.outcome? = none ∧ other = thread := by
  unfold settle; split <;> simp_all

/-- A sync's end takes no key off the ingress queue. -/
theorem mem_settle_pending {t : Threads} (thread : Thread) {key : String}
    (pending : key ∈ t.controller.ingQueue.pending) : key ∈ (settle t thread).controller.ingQueue.pending := by
  unfold settle
  split
  · rw [Controller.ingQueue_setQueue]
    split_ifs with ingress
    · rw [ingress]
      exact TaskQueue.mem_done pending _
    · exact pending
  · exact pending

/-- Another key's sync's end leaves a failing key failing. -/
theorem mem_settle_failing {t : Threads} {thread : Thread} {key : String}
    (other : thread.queue = .ingress → key ≠ thread.key) (failing : key ∈ t.controller.ingQueue.failing) :
    key ∈ (settle t thread).controller.ingQueue.failing := by
  unfold settle
  split
  · rw [Controller.ingQueue_setQueue]
    split_ifs with ingress
    · rw [ingress]
      exact TaskQueue.mem_failing_done (other ingress) failing _
    · exact failing
  · exact failing

/-- One move. A worker takes only a pending key that no worker of its queue holds; only a sync
under way has a call answered. -/
def step (k : KongController) (t : Threads) : Move → Option Threads
  | .user w => some { t with controller := t.controller.write w }
  | .take queue key =>
    if key ∈ (t.controller.queue queue).pending ∧ !t.running.any (Thread.holds queue key) then
      some (settle { t with controller :=
          t.controller.setQueue queue ((t.controller.queue queue).take key) }
        ⟨queue, key, k.sync queue key ((t.controller.queue queue).requeues key)⟩)
    else none
  | .call queue key =>
    match t.running.find? (Thread.holds queue key) with
    | none => none
    | some thread =>
      match thread.rest.step World.answer t.controller.world with
      | none => none
      | some (rest, world) =>
        some (settle
          { controller := Controller.deliver { t.controller with world := world }
            running := t.running.filter fun other => !other.holds queue key }
          ⟨queue, key, rest⟩)

/-- A run of moves; `none` when one of them is not enabled. -/
def run (k : KongController) : List Move → Threads → Option Threads
  | [], t => some t
  | m :: rest, t => (t.step k m).bind (run k rest)

variable (k : KongController)

theorem run_cons (m : Move) (rest : List Move) (t : Threads) :
    run k (m :: rest) t = (t.step k m).bind (run k rest) := rfl

/-- **What a call move does**: the worker of the queue holding the key has its sync's next call
answered; the informers deliver what the call changed, and the thread goes on or its queue is told
how the sync ended. -/
theorem step_call_eq_some {t next : Threads} {queue : QueueKind} {key : String}
    (stepped : t.step k (.call queue key) = some next) :
    ∃ thread ∈ t.running, thread.holds queue key = true ∧ ∃ rest world,
      thread.rest.step World.answer t.controller.world = some (rest, world) ∧
        next = settle ⟨Controller.deliver { t.controller with world := world },
          t.running.filter fun other => !other.holds queue key⟩ ⟨queue, key, rest⟩ := by
  simp only [step] at stepped
  split at stepped
  · cases stepped
  rename_i thread found
  split at stepped
  · cases stepped
  rename_i rest world progressed
  cases stepped
  exact ⟨thread, List.mem_of_find?_eq_some found, List.find?_some found, rest, world, progressed, rfl⟩

/-- **What every allowed move keeps, every run of allowed moves keeps.** -/
theorem run_keeps (allowed : Move → Prop) (keep : Threads → Prop)
    (step : ∀ {t next : Threads} {m : Move}, allowed m → keep t → t.step k m = some next → keep next) :
    ∀ (moves : List Move), (∀ m ∈ moves, allowed m) → ∀ {t next : Threads}, keep t → run k moves t = some next → keep next
  | [], _, _, _, holds, reached => by
    cases reached
    exact holds
  | m :: rest, allowedAll, _, _, holds, reached => by
    obtain ⟨mid, stepped, reached⟩ := Option.bind_eq_some.mp reached
    exact run_keeps allowed keep step rest (fun b member => allowedAll b (List.mem_cons_of_mem _ member))
      (step (allowedAll m (List.mem_cons_self _ _)) holds stepped) reached

theorem run_append : ∀ (first second : List Move) (t : Threads),
    run k (first ++ second) t = (run k first t).bind (run k second)
  | [], _, _ => rfl
  | m :: rest, second, t => by
    simp only [List.cons_append, run_cons, Option.bind_assoc, run_append rest second]

end Threads

/-! ### A sync with no other move between -/

namespace Prog

variable {α σ : Type} (answer : (c : Call) → σ → c.Response × σ) {x : Prog α} {outcome : Outcome α}

theorem run_of_ended (ended : x.outcome? = some outcome) (state : σ) :
    x.run answer state = (outcome, state) := by
  cases x <;> cases ended <;> rfl

theorem trace_of_ended (ended : x.outcome? = some outcome) (state : σ) : x.trace answer state = [] := by
  cases x <;> cases ended <;> rfl

end Prog

/-- A worker's sync starts with a call. -/
theorem KongController.sync_ongoing (k : KongController) (queue : QueueKind) (key : String) (numRequeues : Nat) :
    (k.sync queue key numRequeues).outcome? = none := by
  cases queue <;> rfl

namespace Controller

/-- A worker of a queue runs a sync on a key to its end; the informers deliver the sync's writes,
and the queue is told how it ended. -/
def complete (c : Controller) (queue : QueueKind) (key : String) (sync : Prog Unit) : Controller :=
  let result := sync.run World.answer c.world
  let synced := deliver { c with world := result.2 }
  synced.setQueue queue ((synced.queue queue).done key result.1)

/-- An atomic worker's step takes the key, then completes its sync. -/
theorem workIngress_eq_complete (k : KongController) (c : Controller) (key : String) :
    c.workIngress k key = (c.setQueue .ingress (c.ingQueue.take key)).complete .ingress key
      (k.sync .ingress key (c.ingQueue.requeues key)) := rfl

theorem workService_eq_complete (k : KongController) (c : Controller) (key : String) :
    c.workService k key = (c.setQueue .service (c.svcQueue.take key)).complete .service key
      (k.sync .service key (c.svcQueue.requeues key)) := rfl

/-- Changes delivered in front of others are delivered first. -/
theorem deliver_prependWatch (c : Controller) (world : World) :
    deliver { c with world := world.prependWatch c.world.cluster.watch } = deliver { c.deliver with world := world } := by
  simp only [deliver, World.prependWatch, Cluster.prependWatch, List.foldl_append]

/-- **Completing a sync does not depend on when the changes before it are delivered.** -/
theorem complete_deliver (c : Controller) (queue : QueueKind) (key : String) (sync : Prog Unit) :
    c.deliver.complete queue key sync = c.complete queue key sync := by
  have split : sync.run World.answer c.world =
      ((sync.run World.answer c.deliver.world).1,
        (sync.run World.answer c.deliver.world).2.prependWatch c.world.cluster.watch) := by
    rw [← World.run_prependWatch]
    exact congrArg (sync.run World.answer) (World.prependWatch_watch c.world).symm
  simp only [complete, split, deliver_prependWatch]

end Controller

namespace Threads

variable (k : KongController) (queue : QueueKind) (key : String)

theorem step_take_alone (c : Controller) (pending : key ∈ (c.queue queue).pending) :
    step k ⟨c, []⟩ (.take queue key) =
      some ⟨c.setQueue queue ((c.queue queue).take key),
        [⟨queue, key, k.sync queue key ((c.queue queue).requeues key)⟩]⟩ := by
  simp [step, pending, settle, KongController.sync_ongoing]

theorem step_call_alone (c : Controller) (request : Call) (next : request.Response → Prog Unit) :
    step k ⟨c, [⟨queue, key, .call request next⟩]⟩ (.call queue key) =
      some (settle ⟨Controller.deliver { c with world := (World.answer request c.world).2 }, []⟩
        ⟨queue, key, next (World.answer request c.world).1⟩) := by
  simp [step, Thread.holds, Prog.step]

/-- **A sync whose calls are answered back to back completes**: answering each call its run
issues takes the controller to where `Controller.complete` does. -/
theorem run_calls_alone : ∀ (rest : Prog Unit) (c : Controller), rest.outcome? = none →
    run k (Move.calls queue key (rest.trace World.answer c.world).length) ⟨c, [⟨queue, key, rest⟩]⟩ =
      some ⟨c.complete queue key rest, []⟩
  | .pure _, _, ongoing => nomatch ongoing
  | .fail _, _, ongoing => nomatch ongoing
  | .nilDereference, _, ongoing => nomatch ongoing
  | .call request next, c, _ => by
    have completes : c.complete queue key (.call request next) =
        (Controller.deliver { c with world := (World.answer request c.world).2 }).complete queue key
          (next (World.answer request c.world).1) :=
      (Controller.complete_deliver { c with world := (World.answer request c.world).2 } _ _ _).symm
    rw [Prog.trace_call, List.length_cons, Move.calls, List.replicate_succ, run_cons, step_call_alone,
      Option.some_bind, completes]
    cases ended : (next (World.answer request c.world).1).outcome? with
    | some outcome =>
      simp only [settle, ended, Prog.trace_of_ended _ ended, List.length_nil, List.replicate_zero]
      simp only [Controller.complete, Prog.run_of_ended _ ended]
      rfl
    | none =>
      simp only [settle, ended, List.nil_append]
      rw [← World.trace_length_flush]
      exact run_calls_alone _ (Controller.deliver { c with world := (World.answer request c.world).2 }) ended

end Threads

/-- The moves of an action with no other move between: the user's write, or a worker taking the
key and having every call its sync's run issues answered. -/
def Action.moves (k : KongController) (c : Controller) : Action → List Move
  | .user w => [.user w]
  | .workIngress key =>
    .take .ingress key :: Move.calls .ingress key
      ((k.syncIngress key (c.ingQueue.requeues key)).trace World.answer c.world).length
  | .workService key =>
    .take .service key :: Move.calls .service key
      ((k.syncServices key (c.svcQueue.requeues key)).trace World.answer c.world).length

namespace Threads

variable (k : KongController)

/-- **Each step of the atomic controller is a run of the interleaved one** in which no move comes
between the calls of the step's sync. -/
theorem run_alone {c next : Controller} (a : Action) (stepped : c.step k a = some next) :
    run k (a.moves k c) ⟨c, []⟩ = some ⟨next, []⟩ := by
  cases a with
  | user w =>
    cases stepped
    rfl
  | workIngress key =>
    simp only [Controller.step] at stepped
    split_ifs at stepped with pending
    cases stepped
    rw [Action.moves, run_cons, step_take_alone k .ingress key c pending, Option.some_bind,
      Controller.workIngress_eq_complete]
    exact run_calls_alone k .ingress key _ _ (KongController.sync_ongoing k .ingress key _)
  | workService key =>
    simp only [Controller.step] at stepped
    split_ifs at stepped with pending
    cases stepped
    rw [Action.moves, run_cons, step_take_alone k .service key c pending, Option.some_bind,
      Controller.workService_eq_complete]
    exact run_calls_alone k .service key _ _ (KongController.sync_ongoing k .service key _)

end Threads

end KongIngress
