/-
**The controller's code as trees of external calls.**

Every orchestrator, cache, gateway and identity-provider call the controller makes is a `Call`,
with the Go result it returns as `Call.Response` (an error with no result object, a missing HTTP
response, an absent record are all values of it). A Go function of the controller is a
`Prog`: a tree that returns, returns an error (`fail`, Go's `return err`), dereferences an absent
value (`nilDereference`, Go's nil pointer panic), or makes a call and continues with its answer.

* `Prog.run answer` — the run against a stateful answerer `answer : (c : Call) → σ → c.Response × σ`;
  `run_bind` and `run_bind_eq_ok` peel a sequence apart.
* `Prog.trace answer` — the calls a run issues, each with the state it is issued in.
* `Prog.attempt` — a call whose error the caller inspects instead of returning it.
* `Prog.step` — one call of a program, the unit of an interleaving of several workers.
-/

import KongIngress.Model.Kong

namespace KongIngress

/-- An HTTP response, of which the controller reads the status code. -/
structure HttpResponse where
  statusCode : Nat
  deriving DecidableEq, Repr

/-- The calls the controller makes: informer store reads, orchestrator writes, the event
recorder, the gateway's REST surface and the identity provider. -/
inductive Call where
  | getIngress (key : String)
  | getService (key : String)
  | listServices
  | patchServiceFinalizer (ns name finalizer : String)
  | clearServiceFinalizers (ns name : String)
  | patchIngressDirty (ns name : String)
  | getSecret (ns name : String)
  | recordEvent (ns name eventType reason message : String)
  | getApi (name : String)
  | updateOrCreateApi (body : Api)
  | listApis (upstreamURL : String)
  | deleteApi (name : String)
  | listPlugins (uid : Nat)
  | createPlugin (uid : Nat) (plugin : Plugin)
  | createCertificate (certificate : Certificate)
  | getPEM (host : String)
  | getConsumer (username : String)
  | createConsumer (username : String)
  | listJWTCredentials (username : String)
  | createJWTCredential (username : String) (credential : JwtCredential)
  deriving DecidableEq, Repr

/-- What each call returns in Go: `Except` for a result or an error, `Option String` for a bare
`error`, and the `kong` client's (record, response) pairs. -/
def Call.Response : Call → Type
  | .getIngress _ => Except String (Option Ingress)
  | .getService _ => Except String (Option Service)
  | .listServices => Except String (List Service)
  | .patchServiceFinalizer .. => Option String
  | .clearServiceFinalizers .. => Option String
  | .patchIngressDirty .. => Option String
  | .getSecret .. => Except String Secret
  | .recordEvent .. => Unit
  | .getApi _ => Option Api × Option ResponseError
  | .updateOrCreateApi _ => Option Api × Option ResponseError
  | .listApis _ => Except String (List Api)
  | .deleteApi _ => Option String
  | .listPlugins _ => Except String (List Plugin)
  | .createPlugin .. => Option String
  | .createCertificate _ => Option String
  | .getPEM _ => Except String (List UInt8)
  | .getConsumer _ => Option String × Option HttpResponse
  | .createConsumer _ => Option String
  | .listJWTCredentials _ => Except String Nat
  | .createJWTCredential .. => Option String

/-- A Go function of the controller, as the tree of its calls. -/
inductive Prog (α : Type) where
  | pure (value : α)
  | fail (message : String)
  | call (request : Call) (next : request.Response → Prog α)
  | nilDereference

/-- How a run ends. -/
inductive Outcome (α : Type) where
  | ok (value : α)
  | error (message : String)
  | nilDereference
  deriving DecidableEq, Repr

/-- The outcome with its value changed by `f`. -/
def Outcome.map {α β : Type} (f : α → β) : Outcome α → Outcome β
  | .ok value => .ok (f value)
  | .error message => .error message
  | .nilDereference => .nilDereference

namespace Prog

variable {α β σ : Type}

/-- Sequencing: an error or a nil dereference ends the function. -/
def bind : Prog α → (α → Prog β) → Prog β
  | .pure value, f => f value
  | .fail message, _ => .fail message
  | .call request next, f => .call request fun response => (next response).bind f
  | .nilDereference, _ => .nilDereference

instance : Monad Prog where
  pure := .pure
  bind := bind

@[simp] theorem pure_eq (value : α) : (Pure.pure value : Prog α) = .pure value := rfl

@[simp] theorem bind_eq (x : Prog α) (f : α → Prog β) : x >>= f = x.bind f := rfl

@[simp] theorem pure_bind (value : α) (f : α → Prog β) : (Prog.pure value).bind f = f value := rfl

@[simp] theorem fail_bind (message : String) (f : α → Prog β) :
    (Prog.fail message).bind f = .fail message := rfl

@[simp] theorem nilDereference_bind (f : α → Prog β) :
    (Prog.nilDereference).bind f = .nilDereference := rfl

theorem bind_assoc {γ : Type} (x : Prog α) (f : α → Prog β) (g : β → Prog γ) :
    (x.bind f).bind g = x.bind fun value => (f value).bind g := by
  induction x with
  | pure value => rfl
  | fail message => rfl
  | call request next ih => simp only [bind, ih]
  | nilDereference => rfl

/-- One call, answered. -/
def send (request : Call) : Prog request.Response := .call request .pure

@[simp] theorem send_bind (request : Call) (f : request.Response → Prog β) :
    (send request).bind f = .call request f := rfl

/-- Go's `for _, x := range xs { ... }` over a body that returns its first error. -/
def forEach {γ : Type} : List γ → (γ → Prog Unit) → Prog Unit
  | [], _ => .pure ()
  | x :: rest, body => (body x).bind fun _ => forEach rest body

@[simp] theorem forEach_nil {γ : Type} (body : γ → Prog Unit) : forEach [] body = .pure () := rfl

@[simp] theorem forEach_cons {γ : Type} (x : γ) (rest : List γ) (body : γ → Prog Unit) :
    forEach (x :: rest) body = (body x).bind fun _ => forEach rest body := rfl

theorem forEach_append {γ : Type} (xs ys : List γ) (body : γ → Prog Unit) :
    forEach (xs ++ ys) body = (forEach xs body).bind fun _ => forEach ys body := by
  induction xs with
  | nil => rfl
  | cons x rest ih => simp only [List.cons_append, forEach_cons, ih, bind_assoc]

theorem forEach_map {γ δ : Type} (f : γ → δ) (xs : List γ) (body : δ → Prog Unit) :
    forEach (xs.map f) body = forEach xs (body ∘ f) := by
  induction xs with
  | nil => rfl
  | cons x rest ih => simp only [List.map_cons, forEach_cons, ih, Function.comp_apply]

/-- **Nested loops are one loop** over the concatenated inner lists. -/
theorem forEach_flatMap {γ δ : Type} (xs : List γ) (inner : γ → List δ) (body : δ → Prog Unit) :
    forEach (xs.flatMap inner) body = forEach xs fun x => forEach (inner x) body := by
  induction xs with
  | nil => rfl
  | cons x rest ih => simp only [List.flatMap_cons, forEach_append, forEach_cons, ih]

/-- A call whose error the caller inspects: the error becomes a value. -/
def attempt : Prog α → Prog (Except String α)
  | .pure value => .pure (.ok value)
  | .fail message => .pure (.error message)
  | .call request next => .call request fun response => (next response).attempt
  | .nilDereference => .nilDereference

/-! ### Running against an answerer -/

section Run

variable (answer : (c : Call) → σ → c.Response × σ)

/-- The run of a program, each call answered from the current state. -/
def run : Prog α → σ → Outcome α × σ
  | .pure value, state => (.ok value, state)
  | .fail message, state => (.error message, state)
  | .call request next, state => (next (answer request state).1).run (answer request state).2
  | .nilDereference, state => (.nilDereference, state)

/-- The calls a run issues, each with the state it is issued in. -/
def trace : Prog α → σ → List (Call × σ)
  | .pure _, _ => []
  | .fail _, _ => []
  | .call request next, state =>
      (request, state) :: (next (answer request state).1).trace (answer request state).2
  | .nilDereference, _ => []

@[simp] theorem run_pure (value : α) (state : σ) : (Prog.pure value).run answer state = (.ok value, state) := rfl

@[simp] theorem run_fail (message : String) (state : σ) :
    (Prog.fail message : Prog α).run answer state = (.error message, state) := rfl

@[simp] theorem run_call (request : Call) (next : request.Response → Prog α) (state : σ) :
    (Prog.call request next).run answer state =
      (next (answer request state).1).run answer (answer request state).2 := rfl

@[simp] theorem trace_pure (value : α) (state : σ) : (Prog.pure value).trace answer state = [] := rfl

@[simp] theorem trace_fail (message : String) (state : σ) :
    (Prog.fail message : Prog α).trace answer state = [] := rfl

@[simp] theorem trace_call (request : Call) (next : request.Response → Prog α) (state : σ) :
    (Prog.call request next).trace answer state =
      (request, state) :: (next (answer request state).1).trace answer (answer request state).2 := rfl

/-- **A sequence runs its first part, then the rest from where it stopped.** -/
theorem run_bind (x : Prog α) (f : α → Prog β) (state : σ) :
    (x.bind f).run answer state =
      match x.run answer state with
      | (.ok value, next) => (f value).run answer next
      | (.error message, next) => (.error message, next)
      | (.nilDereference, next) => (.nilDereference, next) := by
  induction x generalizing state with
  | pure value => rfl
  | fail message => rfl
  | call request next ih => exact ih _ _
  | nilDereference => rfl

theorem run_bind_of_ok {x : Prog α} {f : α → Prog β} {state next : σ} {value : α}
    (first : x.run answer state = (.ok value, next)) :
    (x.bind f).run answer state = (f value).run answer next := by
  rw [run_bind, first]

/-- **The calls of a sequence** are those of its first part, then, when it returns, those of
the rest from where it stopped. -/
theorem trace_bind (x : Prog α) (f : α → Prog β) (state : σ) :
    (x.bind f).trace answer state = x.trace answer state ++
      match x.run answer state with
      | (.ok value, next) => (f value).trace answer next
      | _ => [] := by
  induction x generalizing state with
  | pure value => rfl
  | fail message => rfl
  | call request next ih => simp only [bind, trace_call, run_call, ih, List.cons_append]
  | nilDereference => rfl

/-- **A sequence returns exactly when its first part returns and the rest returns from there.** -/
theorem run_bind_eq_ok_iff {x : Prog α} {f : α → Prog β} {state final : σ} {result : β} :
    (x.bind f).run answer state = (.ok result, final) ↔
      ∃ value next, x.run answer state = (.ok value, next) ∧
        (f value).run answer next = (.ok result, final) := by
  rw [run_bind]
  rcases first : x.run answer state with ⟨_ | _ | _, next⟩
  · exact ⟨fun rest => ⟨_, _, rfl, rest⟩, by rintro ⟨_, _, ⟨⟩, rest⟩; exact rest⟩
  · simp
  · simp

/-- **A sequence that returns had its first part return.** -/
theorem run_bind_eq_ok {x : Prog α} {f : α → Prog β} {state final : σ} {result : β}
    (whole : (x.bind f).run answer state = (.ok result, final)) :
    ∃ value next, x.run answer state = (.ok value, next) ∧
      (f value).run answer next = (.ok result, final) := by
  rw [run_bind] at whole
  rcases first : x.run answer state with ⟨_ | _ | _, next⟩ <;> rw [first] at whole
  · exact ⟨_, next, rfl, whole⟩
  · cases whole
  · cases whole

@[simp] theorem run_attempt (x : Prog α) (state : σ) :
    x.attempt.run answer state =
      match x.run answer state with
      | (.ok value, next) => (.ok (.ok value), next)
      | (.error message, next) => (.ok (.error message), next)
      | (.nilDereference, next) => (.nilDereference, next) := by
  induction x generalizing state with
  | pure value => rfl
  | fail message => rfl
  | call request next ih => exact ih _ _
  | nilDereference => rfl

/-- What every answer keeps, a whole run keeps. -/
theorem run_keeps (keep : σ → Prop) (step : ∀ c state, keep state → keep (answer c state).2) :
    ∀ (x : Prog α) {state : σ}, keep state → keep (x.run answer state).2
  | .pure _, _, holds => holds
  | .fail _, _, holds => holds
  | .call request next, state, holds => run_keeps keep step (next _) (step request state holds)
  | .nilDereference, _, holds => holds

/-- **What every iteration keeps, whatever it returns, a whole loop keeps**; an iteration needs to
keep it only over an element of the list. -/
theorem run_forEach_keeps_of_mem {γ : Type} {body : γ → Prog Unit} (keep : σ → Prop) :
    ∀ (xs : List γ), (∀ x ∈ xs, ∀ state, keep state → keep ((body x).run answer state).2) →
      ∀ {state : σ}, keep state → keep ((forEach xs body).run answer state).2
  | [], _, _, holds => holds
  | x :: rest, keeps, state, holds => by
    have kept := keeps x (List.mem_cons_self _ _) state holds
    rw [forEach_cons, run_bind]
    rcases first : (body x).run answer state with ⟨_ | _ | _, next⟩ <;> rw [first] at kept
    · exact run_forEach_keeps_of_mem keep rest (fun y member => keeps y (List.mem_cons_of_mem _ member)) kept
    · exact kept
    · exact kept

theorem run_forEach_keeps {γ : Type} {body : γ → Prog Unit} (keep : σ → Prop)
    (keeps : ∀ x state, keep state → keep ((body x).run answer state).2)
    (xs : List γ) {state : σ} (holds : keep state) : keep ((forEach xs body).run answer state).2 :=
  run_forEach_keeps_of_mem answer keep xs (fun x _ => keeps x) holds

/-- **A loop that dereferences nil had one of its iterations do so**, from a state that every
iteration keeps. -/
theorem run_forEach_nilDereference {γ : Type} {body : γ → Prog Unit} (keep : σ → Prop)
    (keeps : ∀ x state, keep state → keep ((body x).run answer state).2) :
    ∀ (xs : List γ) {state : σ}, keep state →
      ((forEach xs body).run answer state).1 = .nilDereference →
        ∃ x ∈ xs, ∃ mid, keep mid ∧ ((body x).run answer mid).1 = .nilDereference
  | [], _, _, crashes => by cases crashes
  | x :: rest, state, holds, crashes => by
    rw [forEach_cons, run_bind] at crashes
    rcases first : (body x).run answer state with ⟨_ | _ | _, next⟩ <;>
      simp only [first] at crashes
    · have kept : keep next := by simpa [first] using keeps x state holds
      obtain ⟨y, member, mid, midKept, crash⟩ := run_forEach_nilDereference keep keeps rest kept crashes
      exact ⟨y, List.mem_cons_of_mem _ member, mid, midKept, crash⟩
    · cases crashes
    · exact ⟨x, List.mem_cons_self _ _, state, holds, by rw [first]⟩

/-- **Answerers that agree on each iteration's run, from every state an invariant holds of, agree
on the whole loop**, when every iteration keeps the invariant. -/
theorem run_forEach_congr {γ : Type} {body : γ → Prog Unit} {answer' : (c : Call) → σ → c.Response × σ}
    (inv : σ → Prop) (agree : ∀ x state, inv state → (body x).run answer' state = (body x).run answer state)
    (keeps : ∀ x state, inv state → inv ((body x).run answer state).2) :
    ∀ (xs : List γ) {state : σ}, inv state →
      (forEach xs body).run answer' state = (forEach xs body).run answer state
  | [], _, _ => rfl
  | x :: rest, state, holds => by
    have kept := keeps x state holds
    rw [forEach_cons, run_bind, run_bind, agree x state holds]
    rcases first : (body x).run answer state with ⟨_ | _ | _, next⟩ <;> rw [first] at kept
    exact run_forEach_congr inv agree keeps rest kept

/-- The outputs of loop iterations, each with the error that ended it, joined up to the first
error. -/
def joinUntilError {γ : Type} : List (List γ × Option String) → List γ × Option String
  | [] => ([], none)
  | (out, none) :: rest => (out ++ (joinUntilError rest).1, (joinUntilError rest).2)
  | (out, some err) :: _ => (out, some err)

/-- **The join ends without an error exactly when no output has one.** -/
theorem joinUntilError_snd_eq_none {γ : Type} : ∀ pieces : List (List γ × Option String),
    (joinUntilError pieces).2 = none ↔ ∀ piece ∈ pieces, piece.2 = none
  | [] => by simp [joinUntilError]
  | (_, none) :: rest => by simp [joinUntilError, joinUntilError_snd_eq_none rest]
  | (_, some _) :: _ => by simp [joinUntilError]

/-- **A loop whose iterations each output a list and maybe an error**, read from a part of the
state the outputs do not change, runs as the join of the outputs up to the first error. -/
theorem run_forEach_join {γ δ : Type} (apply : List δ → σ → σ)
    (apply_nil : ∀ state, apply [] state = state)
    (apply_append : ∀ first second state,
      apply (first ++ second) state = apply second (apply first state))
    (piece : γ → σ → List δ × Option String)
    (stable : ∀ x outputs state, piece x (apply outputs state) = piece x state)
    (body : γ → Prog Unit)
    (runs : ∀ x state, (body x).run answer state =
      ((piece x state).2.elim (.ok ()) .error, apply (piece x state).1 state))
    (xs : List γ) (state : σ) :
    (forEach xs body).run answer state =
      ((joinUntilError (xs.map (piece · state))).2.elim (.ok ()) .error,
        apply (joinUntilError (xs.map (piece · state))).1 state) := by
  induction xs generalizing state with
  | nil => simp [joinUntilError, apply_nil]
  | cons x rest ih =>
    rw [forEach_cons, run_bind, runs]
    rcases out : piece x state with ⟨outputs, _ | err⟩
    · simp only [Option.elim_none, List.map_cons, joinUntilError, out]
      rw [ih, apply_append]
      simp only [stable]
    · simp [joinUntilError, out]

/-! ### Loops whose iterations all return -/

section Loop

variable {γ : Type} (ready : γ → σ → Prop) (next : γ → σ → σ)

/-- Every iteration is ready in the state the iterations before it leave. -/
def AllReady : List γ → σ → Prop
  | [], _ => True
  | x :: rest, state => ready x state ∧ AllReady rest (next x state)

/-- The state after every iteration, each moving the state by `next`. -/
def afterAll (xs : List γ) (state : σ) : σ := xs.foldl (fun state x => next x state) state

@[simp] theorem afterAll_nil (state : σ) : afterAll next [] state = state := rfl

@[simp] theorem afterAll_cons (x : γ) (rest : List γ) (state : σ) :
    afterAll next (x :: rest) state = afterAll next rest (next x state) := rfl

/-- What every iteration keeps, ready or not, the state after all of them keeps. -/
theorem afterAll_keeps (keep : σ → Prop) (step : ∀ x state, keep state → keep (next x state)) :
    ∀ (xs : List γ) {state : σ}, keep state → keep (afterAll next xs state)
  | [], _, holds => holds
  | x :: rest, state, holds => afterAll_keeps keep step rest (step x state holds)

variable {ready next}

/-- **A loop returns exactly when every iteration is ready where it runs**, given that one
iteration returns exactly when it is ready, moving the state by `next`. -/
theorem run_forEach_eq_ok_iff {body : γ → Prog Unit}
    (runs : ∀ x state final, (body x).run answer state = (.ok (), final) ↔
      ready x state ∧ final = next x state) :
    ∀ (xs : List γ) (state final : σ), (forEach xs body).run answer state = (.ok (), final) ↔
      AllReady ready next xs state ∧ final = afterAll next xs state
  | [], state, final => by simp [AllReady, eq_comm]
  | x :: rest, state, final => by
    rw [forEach_cons, run_bind_eq_ok_iff]
    constructor
    · rintro ⟨_, mid, first, later⟩
      obtain ⟨isReady, rfl⟩ := (runs x state mid).mp first
      exact (run_forEach_eq_ok_iff runs rest _ final).mp later |>.imp_left (⟨isReady, ·⟩)
    · rintro ⟨⟨isReady, restReady⟩, rfl⟩
      exact ⟨(), _, (runs x state _).mpr ⟨isReady, rfl⟩,
        (run_forEach_eq_ok_iff runs rest _ _).mpr ⟨restReady, rfl⟩⟩

/-- **What every ready iteration keeps, with the iterations done so far, the whole loop keeps.** -/
theorem AllReady.invariant {inv : List γ → σ → Prop}
    (step : ∀ done x state, ready x state → inv done state → inv (done ++ [x]) (next x state)) :
    ∀ {xs : List γ} {done : List γ} {state : σ}, AllReady ready next xs state → inv done state →
      inv (done ++ xs) (afterAll next xs state)
  | [], done, state, _, holds => by simpa using holds
  | x :: rest, done, state, ⟨isReady, restReady⟩, holds => by
    simpa using AllReady.invariant step restReady (step done x state isReady holds)

/-- **What every ready iteration keeps, the whole loop keeps.** -/
theorem AllReady.keeps (keep : σ → Prop)
    (step : ∀ x state, ready x state → keep state → keep (next x state)) :
    ∀ {xs : List γ} {state : σ}, AllReady ready next xs state → keep state →
      keep (afterAll next xs state)
  | [], _, _, holds => holds
  | x :: _, state, ⟨isReady, restReady⟩, holds => by
    rw [afterAll_cons]
    exact AllReady.keeps keep step restReady (step x state isReady holds)

/-- **An invariant that makes each iteration of a list ready makes the whole loop ready**, and
holds after it. -/
theorem AllReady.of_invariant {inv : List γ → σ → Prop} {xs : List γ}
    (step : ∀ done x rest state, done ++ x :: rest = xs → inv done state →
      ready x state ∧ inv (done ++ [x]) (next x state)) :
    ∀ {rest done : List γ} {state : σ}, done ++ rest = xs → inv done state →
      AllReady ready next rest state ∧ inv xs (afterAll next rest state)
  | [], done, state, whole, holds => ⟨trivial, by simpa [← whole] using holds⟩
  | x :: rest, done, state, whole, holds => by
    obtain ⟨isReady, kept⟩ := step done x rest state whole holds
    obtain ⟨restReady, final⟩ := AllReady.of_invariant step (by simpa using whole) kept
    exact ⟨⟨isReady, restReady⟩, final⟩

end Loop

end Run

/-! ### What a program can call -/

/-- Every call the program makes, on every path, satisfies `P`. -/
inductive AllCalls (P : Call → Prop) : Prog α → Prop
  | pure (value : α) : AllCalls P (.pure value)
  | fail (message : String) : AllCalls P (.fail message)
  | nilDereference : AllCalls P .nilDereference
  | call (request : Call) (next : request.Response → Prog α) :
      P request → (∀ response, AllCalls P (next response)) → AllCalls P (.call request next)

namespace AllCalls

variable {P : Call → Prop}

theorem bind {x : Prog α} {f : α → Prog β} (first : AllCalls P x) (rest : ∀ value, AllCalls P (f value)) :
    AllCalls P (x.bind f) := by
  induction first with
  | pure value => exact rest value
  | fail message => exact .fail message
  | nilDereference => exact .nilDereference
  | call request next allowed _ ih => exact .call request _ allowed ih

theorem send {request : Call} (allowed : P request) : AllCalls P (send request) :=
  .call request _ allowed fun response => .pure response

theorem forEach {γ : Type} {body : γ → Prog Unit} (each : ∀ x, AllCalls P (body x)) :
    ∀ xs : List γ, AllCalls P (Prog.forEach xs body)
  | [] => .pure ()
  | x :: rest => (each x).bind fun _ => forEach each rest

theorem attempt {x : Prog α} (allowed : AllCalls P x) : AllCalls P x.attempt := by
  induction allowed with
  | pure value => exact .pure _
  | fail message => exact .pure _
  | nilDereference => exact .nilDereference
  | call request next allowed _ ih => exact .call request _ allowed ih

/-- **Answerers that agree on every allowed call give the same run.** -/
theorem run_congr {x : Prog α} (allowed : AllCalls P x) {answer answer' : (c : Call) → σ → c.Response × σ}
    (agree : ∀ c state, P c → answer' c state = answer c state) (state : σ) :
    x.run answer' state = x.run answer state := by
  induction allowed generalizing state with
  | pure value => rfl
  | fail message => rfl
  | nilDereference => rfl
  | call request next here _ ih => rw [run_call, run_call, agree request state here]; exact ih _ _

end AllCalls

/-! ### One call at a time -/

/-- One call of a program, answered; `none` when the program has ended. -/
def step (answer : (c : Call) → σ → c.Response × σ) : Prog α → σ → Option (Prog α × σ)
  | .call request next, state => some (next (answer request state).1, (answer request state).2)
  | _, _ => none

/-- A program that makes a call is a call, and goes on with its answer. -/
theorem step_eq_some {answer : (c : Call) → σ → c.Response × σ} {x rest : Prog α} {state state' : σ}
    (stepped : x.step answer state = some (rest, state')) :
    ∃ request next, x = .call request next ∧ rest = next (answer request state).1 ∧
      state' = (answer request state).2 := by
  cases x with
  | call request next =>
    cases stepped
    exact ⟨request, next, rfl, rfl, rfl⟩
  | _ => cases stepped

end Prog

end KongIngress
