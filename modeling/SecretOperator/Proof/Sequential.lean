import SecretOperator.GetOrInsert

/-!
# A call among other calls

`CredentialCache.getOrInsert` is `get_or_insert` read as one function of what its `.await`s give.
Run alone, the steps of one call compute exactly that function: the client's new copy, the API
server's record and the result. Run among any steps of other clients and of the API server, the
call still returns what the function returns: a call's result depends on its own copy, its
generator and the API server's answers to its own patch, and on nothing another client does. The
other clients can change the record between the steps of the call, but not what the call returns.
-/

namespace SecretOperator

open Cluster

variable {Rest E K : Type}

theorem Cluster.setClient_of_eq {s : Cluster Rest E K} {i : Nat} {c : Client Rest}
    (hc : s.clients i = some c) : s.setClient i c = s := by
  unfold setClient
  rw [← hc, Function.update_eq_self]

@[simp]
theorem Cluster.setClient_setClient (s : Cluster Rest E K) (i : Nat) (c c' : Client Rest) :
    (s.setClient i c).setClient i c' = s.setClient i c' := by
  simp only [setClient, Function.update_idem]

theorem Cluster.setClient_clients_self (s : Cluster Rest E K) (i : Nat) (c : Client Rest) :
    (s.setClient i c).clients i = some c := by
  simp

/-! ### Runs seen from one client -/

theorem Cluster.exec_append (s : Cluster Rest E K) (as bs : List (Action E K)) :
    s.exec (as ++ bs) = (s.exec as).bind (·.exec bs) := by
  induction as generalizing s with
  | nil => rfl
  | cons a as ih =>
    simp only [List.cons_append, exec]
    cases s.step a <;> simp [ih]

theorem Cluster.step_returned_eq {s s' : Cluster Rest E K} {a : Action E K}
    (h : s.step a = some s') :
    s'.returned = s.returned ∨
      ∃ j key o, a.client = some j ∧ s'.returned = s.returned ++ [(j, key, o)] := by
  cases a with
  | new j => obtain ⟨-, rfl⟩ := step_new.1 h; exact .inl rfl
  | call j key =>
    obtain ⟨self, -, ⟨b, -, rfl⟩ | ⟨-, rfl⟩⟩ := step_call.1 h
    exacts [.inr ⟨j, key, _, rfl, rfl⟩, .inl rfl]
  | generate j key result =>
    cases result with
    | ok v => obtain ⟨self, -, rfl⟩ := step_generate_ok.1 h; exact .inl rfl
    | error e =>
      obtain ⟨self, -, rfl⟩ := step_generate_error.1 h
      exact .inr ⟨j, key, _, rfl, rfl⟩
  | apply j key verdict =>
    cases verdict with
    | none => obtain ⟨self, v, -, rfl⟩ := step_apply_none.1 h; exact .inl rfl
    | some e =>
      obtain ⟨self, v, -, rfl⟩ := step_apply_some.1 h
      exact .inr ⟨j, key, _, rfl, rfl⟩
  | receive j key failure =>
    cases failure with
    | none =>
      obtain ⟨self, r, -, rfl⟩ := step_receive_none.1 h
      exact .inr ⟨j, key, _, rfl, rfl⟩
    | some e =>
      obtain ⟨self, r, -, rfl⟩ := step_receive_some.1 h
      exact .inr ⟨j, key, _, rfl, rfl⟩
  | cancel j =>
    obtain ⟨self, ⟨k, v, -, rfl⟩ | ⟨-, rfl⟩⟩ := step_cancel.1 h <;> exact .inl rfl
  | applyOrphan key value => obtain ⟨-, rfl⟩ := step_applyOrphan.1 h; exact .inl rfl

/-- The results client `i` has received, in order. -/
def Cluster.resultsOf (s : Cluster Rest E K) (i : Nat) : List (Nat × String × Outcome E K) :=
  s.returned.filter fun r => r.1 = i

@[simp] theorem Cluster.resultsOf_setClient (s : Cluster Rest E K) (i j : Nat) (c : Client Rest) :
    (s.setClient j c).resultsOf i = s.resultsOf i := rfl

@[simp] theorem Cluster.resultsOf_finish (s : Cluster Rest E K) (i : Nat) (key : String)
    (o : Outcome E K) : (s.finish i key o).resultsOf i = s.resultsOf i ++ [(i, key, o)] := by
  simp [resultsOf]

theorem Cluster.resultsOf_step_of_ne {s s' : Cluster Rest E K} {a : Action E K} {i : Nat}
    (h : s.step a = some s') (hi : a.client ≠ some i) : s'.resultsOf i = s.resultsOf i := by
  rcases step_returned_eq h with hr | ⟨j, key, o, hj, hr⟩
  · rw [resultsOf, hr, ← resultsOf]
  · have : j ≠ i := fun hji => hi (hji ▸ hj)
    simp [resultsOf, hr, this]

theorem Cluster.exec_frame {s s' : Cluster Rest E K} {as : List (Action E K)} {i : Nat}
    (h : s.exec as = some s') (hi : ∀ a ∈ as, a.client ≠ some i) :
    s'.clients i = s.clients i ∧ s'.resultsOf i = s.resultsOf i := by
  induction as generalizing s with
  | nil => obtain rfl : s = s' := Option.some.inj h; exact ⟨rfl, rfl⟩
  | cons a as ih =>
    obtain ⟨s₁, h₁, h₂⟩ := exec_cons.1 h
    obtain ⟨hc, hr⟩ := ih h₂ fun b hb => hi b (.tail _ hb)
    exact ⟨hc.trans (step_clients_of_ne h₁ (hi a (.head _))),
      hr.trans (resultsOf_step_of_ne h₁ (hi a (.head _)))⟩

theorem Cluster.exec_next_own {s s' : Cluster Rest E K} {as rest : List (Action E K)}
    {a : Action E K} {i : Nat} (hown : as.filter (fun b => b.client = some i) = a :: rest)
    (h : s.exec as = some s') :
    ∃ (s₁ s₂ : Cluster Rest E K) (post : List (Action E K)),
      s₁.clients i = s.clients i ∧ s₁.resultsOf i = s.resultsOf i ∧
      s₁.step a = some s₂ ∧ post.filter (fun b => b.client = some i) = rest ∧
      s₂.exec post = some s' := by
  obtain ⟨pre, post, rfl, hpre, -, hpost⟩ := List.filter_eq_cons_iff.1 hown
  rw [exec_append] at h
  obtain ⟨s₁, h₁, h⟩ := Option.bind_eq_some.1 h
  obtain ⟨s₂, h₂, h₃⟩ := exec_cons.1 h
  obtain ⟨hc, hr⟩ := exec_frame h₁ fun b hb => by simpa using hpre b hb
  exact ⟨s₁, s₂, post, hc, hr, h₂, hpost, h₃⟩

theorem Cluster.exec_last_own {s s' : Cluster Rest E K} {as : List (Action E K)}
    {a : Action E K} {i : Nat} (hown : as.filter (fun b => b.client = some i) = [a])
    (h : s.exec as = some s') :
    ∃ (s₁ s₂ : Cluster Rest E K),
      s₁.clients i = s.clients i ∧ s₁.resultsOf i = s.resultsOf i ∧
      s₁.step a = some s₂ ∧ s'.resultsOf i = s₂.resultsOf i := by
  obtain ⟨s₁, s₂, post, hc, hr, h₁, hpost, h₂⟩ := exec_next_own hown h
  exact ⟨s₁, s₂, hc, hr, h₁,
    (exec_frame h₂ fun b hb => by simpa using List.filter_eq_nil_iff.1 hpost b hb).2⟩

/-! ### A call run alone -/

/-- **The steps of a call compute `get_or_insert`.** From any state where client `i` is idle, the
steps of one call, run with no other step between them, leave the client idle with the copy
`get_or_insert` leaves, the record as the API server leaves it, and the result `get_or_insert`
returns; nothing else changes. -/
theorem Cluster.exec_soloCall {s : Cluster Rest E K} {i : Nat} {self : CredentialCache Rest}
    (hc : s.clients i = some ⟨self, .idle⟩) (key : String)
    (mkValue : SecretReference → Except E Bytes) (verdict failure : Option K) :
    let (self', record, outcome) := self.getOrInsert s.record key mkValue (apiPatch verdict failure)
    s.exec (soloCall self i key (mkValue self.cacheRef) verdict failure) =
      some (({ s with record }.setClient i ⟨self', .idle⟩).finish i key outcome) := by
  unfold CredentialCache.getOrInsert soloCall savingSteps
  cases hk : self.getIfPresent key with
  | some b => simp [hk, exec, step, hc, setClient_of_eq hc]
  | none =>
    cases hv : mkValue self.cacheRef with
    | error err => simp [hk, exec, step, hc]
    | ok value =>
      cases verdict with
      | some source => simp [hk, exec, step, hc, apiPatch]
      | none =>
        cases failure with
        | some source => simp [hk, exec, step, hc, apiPatch, setClient]
        | none =>
          simp only [CredentialCache.getIfPresent] at hk
          simp [hk, exec, step, hc, apiPatch, setClient, CredentialCache.getIfPresent]

/-- A fresh copy of `default/krb5-cache`, which holds no data yet. -/
def emptyCopy : CredentialCache Unit := ⟨⟨"default", "krb5-cache"⟩, ⟨(), none⟩⟩

/-- Clients `0` and `1`, both idle with an empty copy. -/
def twoIdleClients : Cluster Unit Unit Unit :=
  ((Cluster.start ⟨"default", "krb5-cache"⟩ ⟨(), none⟩).setClient 0 ⟨emptyCopy, .idle⟩).setClient
    1 ⟨emptyCopy, .idle⟩

theorem Cluster.exec_soloCall_twoIdleClients :
    twoIdleClients.clients 0 = some ⟨emptyCopy, .idle⟩ ∧
    match emptyCopy.getOrInsert twoIdleClients.record "svc1" (fun _ => .ok [1])
        (apiPatch none none) with
    | (self', record, outcome) =>
      twoIdleClients.exec (soloCall emptyCopy 0 "svc1" (.ok [1]) none none) =
        some (({ twoIdleClients with record }.setClient 0 ⟨self', .idle⟩).finish 0 "svc1"
          outcome) :=
  ⟨rfl, exec_soloCall rfl "svc1" (fun _ => .ok [1]) none none⟩

/-! ### A call among others -/

/-- What a call that missed its copy returns, from its generator's `result` and the API server's
`verdict` on the patch and the `failure` of its response. -/
def missOutcome (cacheRef : SecretReference) (key : String) (result : Except E Bytes)
    (verdict failure : Option K) : Outcome E K :=
  match result, verdict, failure with
  | .error err, _, _ => .ok (.error err)
  | .ok value, none, none => .ok (.ok value)
  | .ok _, some source, _ | .ok _, none, some source => .error (.saveToCache source key cacheRef)

/-- Run alone against any record, a call that misses returns `missOutcome`. -/
theorem CredentialCache.getOrInsert_of_miss {self : CredentialCache Rest} {key : String}
    (hk : self.getIfPresent key = none) (record : Secret Rest)
    (mkValue : SecretReference → Except E Bytes) (verdict failure : Option K) :
    (self.getOrInsert record key mkValue (apiPatch verdict failure)).2.2 =
      missOutcome self.cacheRef key (mkValue self.cacheRef) verdict failure := by
  unfold getOrInsert
  rw [dif_neg (by simp [hk])]
  cases mkValue self.cacheRef <;> cases verdict <;> cases failure <;>
    simp [apiPatch, missOutcome, getIfPresent]

/-- The last step of a call that saved: the response holds the saved value. -/
theorem Cluster.resultsOf_of_saved {s s' : Cluster Rest E K} {as : List (Action E K)} {i : Nat}
    {self : CredentialCache Rest} {key : String} {response : Secret Rest} {value : Bytes}
    {failure : Option K} (hc : s.clients i = some ⟨self, .saved key response⟩)
    (hv : response.get key = some value)
    (hown : as.filter (fun a => a.client = some i) = [.receive i key failure])
    (h : s.exec as = some s') :
    s'.resultsOf i = s.resultsOf i ++
      [(i, key, missOutcome self.cacheRef key (.ok value) none failure)] := by
  obtain ⟨s₁, s₂, hc₁, hr₁, h₁, hr⟩ := exec_last_own hown h
  rw [hc] at hc₁
  cases failure with
  | none =>
    obtain ⟨_, _, hself, rfl⟩ := step_receive_none.1 h₁
    rw [hc₁] at hself
    cases hself
    simp [hr, hr₁, hv, missOutcome]
  | some source =>
    obtain ⟨_, _, hself, rfl⟩ := step_receive_some.1 h₁
    rw [hc₁] at hself
    cases hself
    simp [hr, hr₁, missOutcome]

/-- From a sent patch on: the call returns what the API server's answer makes of it. -/
theorem Cluster.resultsOf_of_saving {s s' : Cluster Rest E K} {as : List (Action E K)} {i : Nat}
    {self : CredentialCache Rest} {key : String} {value : Bytes} {verdict failure : Option K}
    (hc : s.clients i = some ⟨self, .saving key value⟩)
    (hown : as.filter (fun a => a.client = some i) = savingSteps i key verdict failure)
    (h : s.exec as = some s') :
    s'.resultsOf i = s.resultsOf i ++
      [(i, key, missOutcome self.cacheRef key (.ok value) verdict failure)] := by
  cases verdict with
  | some source =>
    obtain ⟨s₁, s₂, hc₁, hr₁, h₁, hr⟩ := exec_last_own hown h
    obtain ⟨_, _, hself, rfl⟩ := step_apply_some.1 h₁
    rw [hc₁, hc] at hself
    cases hself
    simp [hr, hr₁, missOutcome]
  | none =>
    obtain ⟨s₁, s₂, post, hc₁, hr₁, h₁, hpost, h₂⟩ := exec_next_own hown h
    obtain ⟨_, _, hself, rfl⟩ := step_apply_none.1 h₁
    rw [hc₁, hc] at hself
    cases hself
    have hv : (s₁.record.mergePatch (.single key value)).get key = some value := by simp
    rw [resultsOf_of_saved (setClient_clients_self _ _ _) hv hpost h₂]
    exact congrArg (· ++ _) hr₁

/-- From the generator's future on. -/
theorem Cluster.resultsOf_of_generating {s s' : Cluster Rest E K} {as : List (Action E K)}
    {i : Nat} {self : CredentialCache Rest} {key : String} {result : Except E Bytes}
    {verdict failure : Option K} (hc : s.clients i = some ⟨self, .generating key⟩)
    (hown : as.filter (fun a => a.client = some i) = match result with
      | .error err => [.generate i key (.error err)]
      | .ok value => .generate i key (.ok value) :: savingSteps i key verdict failure)
    (h : s.exec as = some s') :
    s'.resultsOf i = s.resultsOf i ++
      [(i, key, missOutcome self.cacheRef key result verdict failure)] := by
  cases result with
  | error err =>
    obtain ⟨s₁, s₂, hc₁, hr₁, h₁, hr⟩ := exec_last_own hown h
    obtain ⟨_, hself, rfl⟩ := step_generate_error.1 h₁
    rw [hc₁, hc] at hself
    cases hself
    simp [hr, hr₁, missOutcome]
  | ok value =>
    obtain ⟨s₁, s₂, post, hc₁, hr₁, h₁, hpost, h₂⟩ := exec_next_own hown h
    obtain ⟨_, hself, rfl⟩ := step_generate_ok.1 h₁
    rw [hc₁, hc] at hself
    cases hself
    rw [resultsOf_of_saving (setClient_clients_self _ _ _) hpost h₂, resultsOf_setClient, hr₁]

/-- **A call returns what it returns alone.** Let client `i` be idle, and let a run interleave the
steps of one `get_or_insert` call of `i` with any steps of other clients and of the API server.
Whatever those other steps do to the backing `Secret`, the call returns exactly what the sequential
`get_or_insert` returns, from the same local copy, against any record: the interleaving changes
nothing the caller sees. -/
theorem Cluster.exec_call_resultsOf {s s' : Cluster Rest E K} {as : List (Action E K)} {i : Nat}
    {self : CredentialCache Rest} {key : String} {mkValue : SecretReference → Except E Bytes}
    {verdict failure : Option K} (hc : s.clients i = some ⟨self, .idle⟩)
    (hown : as.filter (fun a => a.client = some i) =
      soloCall self i key (mkValue self.cacheRef) verdict failure)
    (h : s.exec as = some s') (record : Secret Rest) :
    s'.resultsOf i = s.resultsOf i ++
      [(i, key, (self.getOrInsert record key mkValue (apiPatch verdict failure)).2.2)] := by
  unfold soloCall at hown
  cases hk : self.getIfPresent key with
  | some b =>
    simp only [hk, Option.isSome_some, if_true] at hown
    obtain ⟨s₁, s₂, hc₁, hr₁, h₁, hr⟩ := exec_last_own hown h
    obtain ⟨_, hself, ⟨b', hb', rfl⟩ | ⟨hnone, -⟩⟩ := step_call.1 h₁ <;>
      rw [hc₁, hc] at hself <;> cases hself
    · rw [hk] at hb'
      cases hb'
      simp [hr, hr₁, CredentialCache.getOrInsert, hk]
    · rw [hk] at hnone
      cases hnone
  | none =>
    simp only [hk, Option.isSome_none, Bool.false_eq_true, if_false] at hown
    obtain ⟨s₁, s₂, post, hc₁, hr₁, h₁, hpost, h₂⟩ := exec_next_own hown h
    obtain ⟨_, hself, ⟨b', hb', -⟩ | ⟨-, rfl⟩⟩ := step_call.1 h₁ <;>
      rw [hc₁, hc] at hself <;> cases hself
    · rw [hk] at hb'
      cases hb'
    · rw [resultsOf_of_generating (setClient_clients_self _ _ _) hpost h₂, resultsOf_setClient,
        hr₁, CredentialCache.getOrInsert_of_miss hk]

/-- Both clients miss `svc1` and save different values, their steps interleaved. -/
def interleavedSaves : List (Action Unit Unit) :=
  [.call 0 "svc1", .call 1 "svc1", .generate 1 "svc1" (.ok [2]), .generate 0 "svc1" (.ok [1]),
    .apply 1 "svc1" none, .apply 0 "svc1" none, .receive 1 "svc1" none, .receive 0 "svc1" none]

theorem Cluster.exec_call_resultsOf_interleavedSaves :
    ∃ s' : Cluster Unit Unit Unit,
      twoIdleClients.clients 0 = some ⟨emptyCopy, .idle⟩ ∧
      interleavedSaves.filter (fun a => a.client = some 0) =
        soloCall emptyCopy 0 "svc1" (.ok [1]) none none ∧
      twoIdleClients.exec interleavedSaves = some s' ∧
      s'.resultsOf 0 = twoIdleClients.resultsOf 0 ++
        [(0, "svc1", (emptyCopy.getOrInsert ⟨(), none⟩ "svc1" (fun _ => .ok [1])
          (apiPatch none none)).2.2)] := by
  obtain ⟨s', hs'⟩ : ∃ s', twoIdleClients.exec interleavedSaves = some s' := ⟨_, rfl⟩
  have hc : twoIdleClients.clients 0 = some ⟨emptyCopy, .idle⟩ := rfl
  have hown : interleavedSaves.filter (fun a => a.client = some 0) =
      soloCall emptyCopy 0 "svc1"
        ((fun _ => .ok [1] : SecretReference → Except Unit Bytes) emptyCopy.cacheRef) none none :=
    rfl
  exact ⟨s', hc, hown, hs', exec_call_resultsOf hc hown hs' _⟩

end SecretOperator
