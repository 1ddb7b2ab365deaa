import SecretOperator.CredentialCache

/-!
# `get_or_insert`, cut at its `.await` points

Any number of `CredentialCache` instances (clients) share one backing `Secret` on the API server,
which nothing else writes. `get_or_insert` takes `&mut self`, so each client runs one call at a time,
but calls of different clients interleave at their `.await` points: the generator's future, the
patch request reaching the API server, and the response coming back. `Phase` says where a client's
call is suspended, and `Cluster.step` is one segment of one call, or the API server applying a patch.

A call's task may be dropped at any `.await` (`Action.cancel`). Dropped while its patch is in flight,
the request may still reach the API server: it is kept among the `orphans`, and
`Action.applyOrphan` applies it.

`returned` is the record of what callers have received, in order: history, not program state.
-/

namespace SecretOperator

/-- Where a client's current `get_or_insert` call is suspended. -/
inductive Phase (Rest : Type) where
  /-- No call is running. -/
  | idle
  /-- `mk_value(..).await` (line 101). -/
  | generating (key : String)
  /-- `secrets.patch(..).await` (line 120), before the API server has the request. -/
  | saving (key : String) (value : Bytes)
  /-- The API server applied the patch; its response, the patched `Secret`, is on its way. -/
  | saved (key : String) (response : Secret Rest)

/-- One `CredentialCache` instance and its running call. -/
structure Client (Rest : Type) where
  cache : CredentialCache Rest
  phase : Phase Rest

/-- The result of `get_or_insert`: `Result<Result<&[u8], Fut::Error>>`. -/
abbrev Outcome (E K : Type) := Except (Error K) (Except E Bytes)

/-- The API server's copy of the backing `Secret`, the clients over it, and the orphaned patches. -/
structure Cluster (Rest E K : Type) where
  cacheRef : SecretReference
  record : Secret Rest
  clients : Nat → Option (Client Rest)
  orphans : List (String × Bytes)
  returned : List (Nat × String × Outcome E K)

/-- One step of the interleaving. The generator's result, the API server's verdict on a patch and
the fate of its response are chosen by the step. -/
inductive Action (E K : Type) where
  /-- `CredentialCache::new` succeeds for a fresh client. -/
  | new (client : Nat)
  /-- `get_or_insert(key, ..)` is called, up to its first `.await`. -/
  | call (client : Nat) (key : String)
  /-- The generator's future resolves. -/
  | generate (client : Nat) (key : String) (result : Except E Bytes)
  /-- The API server applies the client's patch (`none`) or rejects it. -/
  | apply (client : Nat) (key : String) (verdict : Option K)
  /-- The patch response reaches the client, or the call gets an error after the patch applied. -/
  | receive (client : Nat) (key : String) (failure : Option K)
  /-- The client's calling task is dropped at its current `.await`. -/
  | cancel (client : Nat)
  /-- The API server applies a patch whose call was dropped. -/
  | applyOrphan (key : String) (value : Bytes)

variable {Rest E K : Type}

namespace Cluster

/-- The cluster before any client exists. -/
def start (cacheRef : SecretReference) (record : Secret Rest) : Cluster Rest E K :=
  { cacheRef, record, clients := fun _ => none, orphans := [], returned := [] }

/-- Replace client `i`. -/
def setClient (s : Cluster Rest E K) (i : Nat) (client : Client Rest) : Cluster Rest E K :=
  { s with clients := Function.update s.clients i (some client) }

/-- Client `i`'s call of `key` returns `outcome` to its caller. -/
def finish (s : Cluster Rest E K) (i : Nat) (key : String) (outcome : Outcome E K) :
    Cluster Rest E K :=
  { s with returned := s.returned ++ [(i, key, outcome)] }

@[simp] theorem setClient_record (s : Cluster Rest E K) (i : Nat) (c : Client Rest) :
    (s.setClient i c).record = s.record := rfl
@[simp] theorem setClient_orphans (s : Cluster Rest E K) (i : Nat) (c : Client Rest) :
    (s.setClient i c).orphans = s.orphans := rfl
@[simp] theorem setClient_returned (s : Cluster Rest E K) (i : Nat) (c : Client Rest) :
    (s.setClient i c).returned = s.returned := rfl
@[simp] theorem setClient_cacheRef (s : Cluster Rest E K) (i : Nat) (c : Client Rest) :
    (s.setClient i c).cacheRef = s.cacheRef := rfl
@[simp] theorem setClient_clients (s : Cluster Rest E K) (i j : Nat) (c : Client Rest) :
    (s.setClient i c).clients j = if j = i then some c else s.clients j :=
  Function.update_apply _ _ _ _
@[simp] theorem finish_record (s : Cluster Rest E K) (i : Nat) (key : String) (o : Outcome E K) :
    (s.finish i key o).record = s.record := rfl
@[simp] theorem finish_orphans (s : Cluster Rest E K) (i : Nat) (key : String) (o : Outcome E K) :
    (s.finish i key o).orphans = s.orphans := rfl
@[simp] theorem finish_clients (s : Cluster Rest E K) (i : Nat) (key : String) (o : Outcome E K) :
    (s.finish i key o).clients = s.clients := rfl
@[simp] theorem finish_cacheRef (s : Cluster Rest E K) (i : Nat) (key : String) (o : Outcome E K) :
    (s.finish i key o).cacheRef = s.cacheRef := rfl
@[simp] theorem finish_returned (s : Cluster Rest E K) (i : Nat) (key : String) (o : Outcome E K) :
    (s.finish i key o).returned = s.returned ++ [(i, key, o)] := rfl

/-- One step. Each `get_or_insert` segment names the source lines it runs. -/
def step (s : Cluster Rest E K) : Action E K → Option (Cluster Rest E K)
  | .new i =>
    match s.clients i with
    | none => some (s.setClient i ⟨{ cacheRef := s.cacheRef, currentState := s.record }, .idle⟩)
    | some _ => none
  -- lines 90–101: a hit returns the cached bytes, a miss calls `mk_value`
  | .call i key =>
    match s.clients i with
    | some ⟨self, .idle⟩ =>
      if h : (self.getIfPresent key).isSome then
        some (s.finish i key (.ok (.ok ((self.getIfPresent key).get h))))
      else
        some (s.setClient i ⟨self, .generating key⟩)
    | _ => none
  -- lines 102–120 and 132–137: a value is sent as a merge patch, a failure is returned
  | .generate i key result =>
    match s.clients i with
    | some ⟨self, .generating pending⟩ =>
      if pending = key then
        match result with
        | .ok value => some (s.setClient i ⟨self, .saving key value⟩)
        | .error err => some ((s.setClient i ⟨self, .idle⟩).finish i key (.ok (.error err)))
      else none
    | _ => none
  -- the API server: a patch is applied atomically, or rejected (`SaveToCacheSnafu`, line 121)
  | .apply i key verdict =>
    match s.clients i with
    | some ⟨self, .saving pending value⟩ =>
      if pending = key then
        match verdict with
        | none =>
          let record := s.record.mergePatch (self.saveRequest key value).body
          some ({ s with record }.setClient i ⟨self, .saved key record⟩)
        | some source =>
          some ((s.setClient i ⟨self, .idle⟩).finish i key
            (.error (.saveToCache source key self.cacheRef)))
      else none
    | _ => none
  -- lines 105 and 120–130: the response replaces `current_state`, and `key` is looked up again
  | .receive i key failure =>
    match s.clients i with
    | some ⟨self, .saved pending response⟩ =>
      if pending = key then
        match failure with
        | none =>
          let self := { self with currentState := response }
          some ((s.setClient i ⟨self, .idle⟩).finish i key
            (match self.getIfPresent key with
              | some value => .ok (.ok value)
              | none => .error (.savedKeyNotFound key self.cacheRef)))
        | some source =>
          some ((s.setClient i ⟨self, .idle⟩).finish i key
            (.error (.saveToCache source key self.cacheRef)))
      else none
    | _ => none
  | .cancel i =>
    match s.clients i with
    | some ⟨self, .saving key value⟩ =>
      some ({ s with orphans := (key, value) :: s.orphans }.setClient i ⟨self, .idle⟩)
    | some ⟨self, .generating _⟩ | some ⟨self, .saved _ _⟩ => some (s.setClient i ⟨self, .idle⟩)
    | _ => none
  | .applyOrphan key value =>
    if (key, value) ∈ s.orphans then
      some { s with
        record := s.record.mergePatch (.single key value)
        orphans := s.orphans.erase (key, value) }
    else none

/-- Run the steps in order; `none` if one of them is not enabled. -/
def exec : Cluster Rest E K → List (Action E K) → Option (Cluster Rest E K)
  | s, [] => some s
  | s, a :: as => (s.step a).bind (exec · as)

@[simp] theorem exec_nil (s : Cluster Rest E K) : s.exec [] = some s := rfl

theorem exec_cons {s s' : Cluster Rest E K} {a : Action E K} {as : List (Action E K)} :
    s.exec (a :: as) = some s' ↔ ∃ s₁, s.step a = some s₁ ∧ s₁.exec as = some s' :=
  Option.bind_eq_some

/-- A property of every client survives replacing one client by a client that has it. -/
theorem forall_setClient {P : Client Rest → Prop} {s : Cluster Rest E K} {i : Nat}
    {c : Client Rest} (hs : ∀ j c, s.clients j = some c → P c) (hc : P c) :
    ∀ j c', (s.setClient i c).clients j = some c' → P c' := by
  intro j c' h
  rw [setClient_clients] at h
  split_ifs at h
  · exact Option.some.inj h ▸ hc
  · exact hs j c' h

/-! ### What each step can do

One lemma per action, stating exactly when the step is enabled and the state it leads to. Every
later proof reads steps through these and never unfolds `step`. -/

section Inversion

variable {s s' : Cluster Rest E K} {i : Nat} {key : String}

theorem step_new :
    s.step (.new i) = some s' ↔
      s.clients i = none ∧
        s' = s.setClient i ⟨{ cacheRef := s.cacheRef, currentState := s.record }, .idle⟩ := by
  simp only [step]
  rcases s.clients i with _ | _ <;> simp [eq_comm]

theorem step_call :
    s.step (.call i key) = some s' ↔ ∃ self, s.clients i = some ⟨self, .idle⟩ ∧
      ((∃ b, self.getIfPresent key = some b ∧ s' = s.finish i key (.ok (.ok b))) ∨
        (self.getIfPresent key = none ∧ s' = s.setClient i ⟨self, .generating key⟩)) := by
  simp only [step]
  rcases s.clients i with _ | ⟨self, _ | _ | _ | _⟩ <;> simp
  cases hk : self.getIfPresent key <;> simp [hk, eq_comm]

theorem step_generate_ok {value : Bytes} :
    s.step (.generate i key (.ok value)) = some s' ↔
      ∃ self, s.clients i = some ⟨self, .generating key⟩ ∧
        s' = s.setClient i ⟨self, .saving key value⟩ := by
  simp only [step]
  rcases s.clients i with _ | ⟨self, _ | pending | _ | _⟩ <;> simp
  by_cases hp : pending = key <;> simp [hp, eq_comm]

theorem step_generate_error {err : E} :
    s.step (.generate i key (.error err)) = some s' ↔
      ∃ self, s.clients i = some ⟨self, .generating key⟩ ∧
        s' = (s.setClient i ⟨self, .idle⟩).finish i key (.ok (.error err)) := by
  simp only [step]
  rcases s.clients i with _ | ⟨self, _ | pending | _ | _⟩ <;> simp
  by_cases hp : pending = key <;> simp [hp, eq_comm]

theorem step_apply_none :
    s.step (.apply i key none) = some s' ↔
      ∃ self value, s.clients i = some ⟨self, .saving key value⟩ ∧
        s' = { s with record := s.record.mergePatch (.single key value) }.setClient i
          ⟨self, .saved key (s.record.mergePatch (.single key value))⟩ := by
  simp only [step]
  rcases s.clients i with _ | ⟨self, _ | _ | ⟨pending, value⟩ | _⟩ <;> simp
  by_cases hp : pending = key <;> simp [hp, eq_comm, and_assoc]

theorem step_apply_some {source : K} :
    s.step (.apply i key (some source)) = some s' ↔
      ∃ self value, s.clients i = some ⟨self, .saving key value⟩ ∧
        s' = (s.setClient i ⟨self, .idle⟩).finish i key
          (.error (.saveToCache source key self.cacheRef)) := by
  simp only [step]
  rcases s.clients i with _ | ⟨self, _ | _ | ⟨pending, value⟩ | _⟩ <;> simp
  by_cases hp : pending = key <;> simp [hp, eq_comm]

theorem step_receive_none :
    s.step (.receive i key none) = some s' ↔
      ∃ self response, s.clients i = some ⟨self, .saved key response⟩ ∧
        s' = (s.setClient i ⟨{ self with currentState := response }, .idle⟩).finish i key
          (match response.get key with
            | some value => .ok (.ok value)
            | none => .error (.savedKeyNotFound key self.cacheRef)) := by
  simp only [step]
  rcases s.clients i with _ | ⟨self, _ | _ | _ | ⟨pending, response⟩⟩ <;> simp
  by_cases hp : pending = key <;> simp [hp, eq_comm, and_assoc, CredentialCache.getIfPresent]

theorem step_receive_some {source : K} :
    s.step (.receive i key (some source)) = some s' ↔
      ∃ self response, s.clients i = some ⟨self, .saved key response⟩ ∧
        s' = (s.setClient i ⟨self, .idle⟩).finish i key
          (.error (.saveToCache source key self.cacheRef)) := by
  simp only [step]
  rcases s.clients i with _ | ⟨self, _ | _ | _ | ⟨pending, response⟩⟩ <;> simp
  by_cases hp : pending = key <;> simp [hp, eq_comm]

theorem step_cancel :
    s.step (.cancel i) = some s' ↔ ∃ self,
      (∃ key value, s.clients i = some ⟨self, .saving key value⟩ ∧
        s' = { s with orphans := (key, value) :: s.orphans }.setClient i ⟨self, .idle⟩) ∨
      (((∃ key, s.clients i = some ⟨self, .generating key⟩) ∨
        ∃ key response, s.clients i = some ⟨self, .saved key response⟩) ∧
        s' = s.setClient i ⟨self, .idle⟩) := by
  simp only [step]
  rcases s.clients i with _ | ⟨self, _ | _ | _ | _⟩ <;> simp [eq_comm, and_assoc]

theorem step_applyOrphan {value : Bytes} :
    s.step (.applyOrphan key value) = some s' ↔
      (key, value) ∈ s.orphans ∧
        s' = { s with
          record := s.record.mergePatch (.single key value)
          orphans := s.orphans.erase (key, value) } := by
  simp only [step]
  split_ifs <;> simp [*, eq_comm]

end Inversion

end Cluster

/-- The generator's contract for a run: an invocation for `key` that succeeds returns a value
`gen key` allows. -/
def Action.Admissible (gen : String → Bytes → Prop) : Action E K → Prop
  | .generate _ key (.ok value) => gen key value
  | _ => True

/-- The client a step belongs to; the API server applying an orphaned patch belongs to none. -/
def Action.client : Action E K → Option Nat
  | .new i | .call i _ | .generate i _ _ | .apply i _ _ | .receive i _ _ | .cancel i => some i
  | .applyOrphan _ _ => none

/-- The steps of a call of client `i` from sending its patch on: the API server's `verdict`, and if
the patch applied, the response or the `failure` that reaches the client. -/
def savingSteps (i : Nat) (key : String) (verdict failure : Option K) : List (Action E K) :=
  .apply i key verdict :: match verdict with
    | none => [.receive i key failure]
    | some _ => []

/-- The steps of one `get_or_insert` call of client `i` whose generator gives `result` and whose
patch, if it sends one, gets `verdict` and `failure` from the API server. -/
def soloCall (self : CredentialCache Rest) (i : Nat) (key : String) (result : Except E Bytes)
    (verdict failure : Option K) : List (Action E K) :=
  if (self.getIfPresent key).isSome then [.call i key]
  else
    .call i key :: match result with
      | .error err => [.generate i key (.error err)]
      | .ok value => .generate i key (.ok value) :: savingSteps i key verdict failure

/-- A step leaves every client but its own as it was. -/
theorem Cluster.step_clients_of_ne {s s' : Cluster Rest E K} {a : Action E K} {i : Nat}
    (h : s.step a = some s') (hi : a.client ≠ some i) : s'.clients i = s.clients i := by
  have hij : ∀ j, a.client = some j → i ≠ j := fun j hj hij => hi (hij ▸ hj)
  cases a with
  | new j => obtain ⟨-, rfl⟩ := Cluster.step_new.1 h; simp [hij j rfl]
  | call j key =>
    obtain ⟨self, -, ⟨b, -, rfl⟩ | ⟨-, rfl⟩⟩ := Cluster.step_call.1 h <;> simp [hij j rfl]
  | generate j key result =>
    cases result with
    | ok v => obtain ⟨self, -, rfl⟩ := Cluster.step_generate_ok.1 h; simp [hij j rfl]
    | error e => obtain ⟨self, -, rfl⟩ := Cluster.step_generate_error.1 h; simp [hij j rfl]
  | apply j key verdict =>
    cases verdict with
    | none => obtain ⟨self, v, -, rfl⟩ := Cluster.step_apply_none.1 h; simp [hij j rfl]
    | some e => obtain ⟨self, v, -, rfl⟩ := Cluster.step_apply_some.1 h; simp [hij j rfl]
  | receive j key failure =>
    cases failure with
    | none => obtain ⟨self, r, -, rfl⟩ := Cluster.step_receive_none.1 h; simp [hij j rfl]
    | some e => obtain ⟨self, r, -, rfl⟩ := Cluster.step_receive_some.1 h; simp [hij j rfl]
  | cancel j =>
    obtain ⟨self, ⟨k, v, -, rfl⟩ | ⟨-, rfl⟩⟩ := Cluster.step_cancel.1 h <;> simp [hij j rfl]
  | applyOrphan key value => obtain ⟨-, rfl⟩ := Cluster.step_applyOrphan.1 h; rfl

/-- What callers have received is never taken back: a step adds at most one result. -/
theorem Cluster.step_returned {s s' : Cluster Rest E K} {a : Action E K}
    (h : s.step a = some s') : ∃ tail, s'.returned = s.returned ++ tail := by
  have keep : s.returned = s.returned ++ [] := (List.append_nil _).symm
  cases a with
  | new j => obtain ⟨-, rfl⟩ := Cluster.step_new.1 h; exact ⟨[], keep⟩
  | call j key =>
    obtain ⟨self, -, ⟨b, -, rfl⟩ | ⟨-, rfl⟩⟩ := Cluster.step_call.1 h
    exacts [⟨_, rfl⟩, ⟨[], keep⟩]
  | generate j key result =>
    cases result with
    | ok v => obtain ⟨self, -, rfl⟩ := Cluster.step_generate_ok.1 h; exact ⟨[], keep⟩
    | error e => obtain ⟨self, -, rfl⟩ := Cluster.step_generate_error.1 h; exact ⟨_, rfl⟩
  | apply j key verdict =>
    cases verdict with
    | none => obtain ⟨self, v, -, rfl⟩ := Cluster.step_apply_none.1 h; exact ⟨[], keep⟩
    | some e => obtain ⟨self, v, -, rfl⟩ := Cluster.step_apply_some.1 h; exact ⟨_, rfl⟩
  | receive j key failure =>
    cases failure with
    | none => obtain ⟨self, r, -, rfl⟩ := Cluster.step_receive_none.1 h; exact ⟨_, rfl⟩
    | some e => obtain ⟨self, r, -, rfl⟩ := Cluster.step_receive_some.1 h; exact ⟨_, rfl⟩
  | cancel j =>
    obtain ⟨self, ⟨k, v, -, rfl⟩ | ⟨-, rfl⟩⟩ := Cluster.step_cancel.1 h <;> exact ⟨[], keep⟩
  | applyOrphan key value => obtain ⟨-, rfl⟩ := Cluster.step_applyOrphan.1 h; exact ⟨[], keep⟩

/-- The states reached from `Cluster.start cacheRef initial` through steps whose generators keep to
`gen`. -/
inductive Reachable (gen : String → Bytes → Prop) (cacheRef : SecretReference)
    (initial : Secret Rest) : Cluster Rest E K → Prop
  | start : Reachable gen cacheRef initial (Cluster.start cacheRef initial)
  | step {s s' : Cluster Rest E K} {a : Action E K} :
      Reachable gen cacheRef initial s → a.Admissible gen → s.step a = some s' →
      Reachable gen cacheRef initial s'

/-- A run of admissible steps from a reachable state ends in a reachable state. -/
theorem Reachable.exec {gen : String → Bytes → Prop} {cacheRef : SecretReference}
    {initial : Secret Rest} {s s' : Cluster Rest E K} {as : List (Action E K)}
    (hs : Reachable gen cacheRef initial s) (has : ∀ a ∈ as, a.Admissible gen)
    (h : s.exec as = some s') : Reachable gen cacheRef initial s' := by
  induction as generalizing s with
  | nil => exact Option.some.inj h ▸ hs
  | cons a as ih =>
    obtain ⟨s₁, h₁, h₂⟩ := Cluster.exec_cons.1 h
    exact ih (hs.step (has a (.head _)) h₁) (fun b hb => has b (.tail _ hb)) h₂

/-- Along a run, what callers have received is only added to. -/
theorem Cluster.exec_returned {s s' : Cluster Rest E K} {as : List (Action E K)}
    (h : s.exec as = some s') : ∃ tail, s'.returned = s.returned ++ tail := by
  induction as generalizing s with
  | nil => exact ⟨[], by rw [← Option.some.inj h, List.append_nil]⟩
  | cons a as ih =>
    obtain ⟨s₁, h₁, h₂⟩ := exec_cons.1 h
    obtain ⟨t₁, ht₁⟩ := step_returned h₁
    obtain ⟨t₂, ht₂⟩ := ih h₂
    exact ⟨t₁ ++ t₂, by rw [ht₂, ht₁, List.append_assoc]⟩

end SecretOperator
