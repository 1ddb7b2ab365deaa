import SecretOperator.Proof.Growth

/-!
# Idempotent generators: every copy agrees

There is no lock: two clients that miss the same key both generate and both save, and a client with
a stale copy saves a key that another client saved meanwhile. With idempotent generators this is
harmless. Every value held for a key, in the record, in a client's copy, in a patch on its way or in
a result returned to a caller, is the key's canonical value: the initial record's if it had the key,
and the generators' value otherwise. A key of the initial record is in every copy, so no client
ever generates it, and a generated key only ever receives the generators' value.
-/

namespace SecretOperator

open Cluster

variable {Rest E K : Type}

/-- The one value `key` can have: the initial record's, or else the generators'. -/
def canonical (initial : Secret Rest) (g : String → Bytes) (key : String) : Bytes :=
  (initial.get key).getD (g key)

/-- A copy that agrees: every value is canonical, and every key of the initial record is there. -/
structure Secret.Agrees (secret initial : Secret Rest) (g : String → Bytes) : Prop where
  value_eq : ∀ key value, secret.get key = some value → value = canonical initial g key
  initial_sub : initial.KeysSubset secret

/-- What a call holds at its current `.await` agrees. -/
def Phase.Agrees (initial : Secret Rest) (g : String → Bytes) : Phase Rest → Prop
  | .idle => True
  | .generating key => initial.get key = none
  | .saving key value => value = canonical initial g key
  | .saved _ response => response.Agrees initial g

/-- A client whose copy and running call agree. -/
structure Client.Agrees (c : Client Rest) (initial : Secret Rest) (g : String → Bytes) : Prop where
  copy : c.cache.currentState.Agrees initial g
  phase : c.phase.Agrees initial g

/-- Everything in the cluster agrees, and every successful result is the record's value. -/
structure Cluster.Agreed (s : Cluster Rest E K) (initial : Secret Rest) (g : String → Bytes) :
    Prop where
  record : s.record.Agrees initial g
  clients : ∀ i c, s.clients i = some c → c.Agrees initial g
  orphans : ∀ kv ∈ s.orphans, kv.2 = canonical initial g kv.1
  returned : ∀ i key value, (i, key, (.ok (.ok value) : Outcome E K)) ∈ s.returned →
    s.record.get key = some value

section Agreed

variable {initial : Secret Rest} {g : String → Bytes}

/-- Two copies that agree and both hold `key` hold the same value for it. -/
theorem Secret.Agrees.get_eq {a b : Secret Rest} {key : String} {value : Bytes}
    (ha : a.Agrees initial g) (hb : b.Agrees initial g) (hget : a.get key = some value)
    (hsome : (b.get key).isSome) : b.get key = some value := by
  obtain ⟨w, hw⟩ := Option.isSome_iff_exists.1 hsome
  rw [hw, ha.value_eq key value hget, hb.value_eq key w hw]

/-- Saving the canonical value keeps a copy agreeing. -/
theorem Secret.Agrees.mergePatch {secret : Secret Rest} {key : String} {value : Bytes}
    (hs : secret.Agrees initial g) (hv : value = canonical initial g key) :
    (secret.mergePatch (.single key value)).Agrees initial g := by
  refine ⟨fun other w hw => ?_, hs.initial_sub.trans (secret.keysSubset_mergePatch_single key value)⟩
  by_cases h : other = key
  · subst h
    simp only [Secret.get_mergePatch_single, if_pos, Option.some.injEq] at hw
    rw [← hw, hv]
  · simp only [Secret.get_mergePatch_single, h, if_false] at hw
    exact hs.value_eq other w hw

/-- A key missing from an agreeing copy is missing from the initial record. -/
theorem Secret.Agrees.initial_get_eq_none {secret : Secret Rest} {key : String}
    (hs : secret.Agrees initial g) (hkey : secret.get key = none) : initial.get key = none := by
  cases h : initial.get key with
  | none => rfl
  | some w => simpa [hkey] using hs.initial_sub key (by simp [h])

/-- Results already returned stay the record's values when the record grows and agrees, provided
each new result is the new record's value. -/
theorem Cluster.Agreed.returned_step {s s' : Cluster Rest E K} (hs : s.Agreed initial g)
    (hr : s'.record.Agrees initial g) (hsub : s.record.KeysSubset s'.record)
    (hnew : ∀ i key value, (i, key, (.ok (.ok value) : Outcome E K)) ∈ s'.returned →
      (i, key, .ok (.ok value)) ∈ s.returned ∨ s'.record.get key = some value) :
    ∀ i key value, (i, key, (.ok (.ok value) : Outcome E K)) ∈ s'.returned →
      s'.record.get key = some value := by
  intro i key value hmem
  rcases hnew i key value hmem with hold | hget
  · have hget := hs.returned i key value hold
    exact hs.record.get_eq hr hget (hsub key (by simp [hget]))
  · exact hget

/-- A call that goes back to `.idle` with its copy and returns a failure keeps the cluster
agreeing. -/
theorem Cluster.Agreed.finish_failure {s : Cluster Rest E K} {j : Nat} {self : CredentialCache Rest}
    {phase : Phase Rest} {key : String} {o : Outcome E K} (hs : s.Agreed initial g)
    (hc : s.clients j = some ⟨self, phase⟩) (ho : ∀ v, o ≠ .ok (.ok v)) :
    ((s.setClient j ⟨self, .idle⟩).finish j key o).Agreed initial g := by
  refine ⟨hs.record, forall_setClient hs.clients ⟨(hs.clients j _ hc).copy, trivial⟩, hs.orphans,
    fun i k v hmem => hs.returned i k v ?_⟩
  rcases List.mem_append.1 hmem with hold | hnew
  · exact hold
  · obtain ⟨-, -, rfl⟩ := List.mem_singleton.1 hnew
    exact absurd rfl (ho v)

/-- Every step keeps the cluster agreeing, when the step's generator keeps to an idempotent
`gen`. -/
theorem Cluster.step_agreed {gen : String → Bytes → Prop} {s s' : Cluster Rest E K}
    {a : Action E K} (hgen : ∀ key value, gen key value → value = g key) (hcov : s.Covered)
    (hs : s.Agreed initial g) (ha : a.Admissible gen) (h : s.step a = some s') :
    s'.Agreed initial g := by
  cases a with
  | new j =>
    obtain ⟨-, rfl⟩ := step_new.1 h
    exact ⟨hs.record, forall_setClient hs.clients ⟨hs.record, trivial⟩, hs.orphans, hs.returned⟩
  | call j key =>
    obtain ⟨self, hc, ⟨b, hb, rfl⟩ | ⟨hk, rfl⟩⟩ := step_call.1 h
    · refine ⟨hs.record, hs.clients, hs.orphans, fun i k v hmem => ?_⟩
      rcases List.mem_append.1 hmem with hold | hnew
      · exact hs.returned i k v hold
      · obtain ⟨-, rfl, rfl⟩ : i = j ∧ k = key ∧ v = b := by simpa using hnew
        exact (hs.clients j _ hc).copy.get_eq hs.record hb
          ((hcov j _ hc).local_sub k (Option.isSome_iff_exists.2 ⟨v, hb⟩))
    · exact ⟨hs.record, forall_setClient hs.clients
        ⟨(hs.clients j _ hc).copy, (hs.clients j _ hc).copy.initial_get_eq_none hk⟩,
        hs.orphans, hs.returned⟩
  | generate j key result =>
    cases result with
    | ok v =>
      obtain ⟨self, hc, rfl⟩ := step_generate_ok.1 h
      have hnone : initial.get key = none := (hs.clients j _ hc).phase
      have hv : v = canonical initial g key := by simpa [canonical, hnone] using hgen key v ha
      exact ⟨hs.record, forall_setClient hs.clients ⟨(hs.clients j _ hc).copy, hv⟩, hs.orphans,
        hs.returned⟩
    | error e =>
      obtain ⟨self, hc, rfl⟩ := step_generate_error.1 h
      exact hs.finish_failure hc (by simp)
  | apply j key verdict =>
    cases verdict with
    | none =>
      obtain ⟨self, v, hc, rfl⟩ := step_apply_none.1 h
      have hrec := hs.record.mergePatch (hs.clients j _ hc).phase
      exact ⟨hrec, forall_setClient hs.clients ⟨(hs.clients j _ hc).copy, hrec⟩, hs.orphans,
        hs.returned_step hrec (s.record.keysSubset_mergePatch_single key v)
          fun _ _ _ hmem => .inl hmem⟩
    | some e =>
      obtain ⟨self, v, hc, rfl⟩ := step_apply_some.1 h
      exact hs.finish_failure hc (by simp)
  | receive j key failure =>
    cases failure with
    | none =>
      obtain ⟨self, r, hc, rfl⟩ := step_receive_none.1 h
      have hr : r.Agrees initial g := (hs.clients j _ hc).phase
      refine ⟨hs.record, forall_setClient hs.clients ⟨hr, trivial⟩, hs.orphans,
        fun i k v hmem => ?_⟩
      rcases List.mem_append.1 hmem with hold | hnew
      · exact hs.returned i k v hold
      · cases hget : r.get key with
        | none => simp [hget] at hnew
        | some x =>
          obtain ⟨-, rfl, rfl⟩ : i = j ∧ k = key ∧ v = x := by simpa [hget, eq_comm] using hnew
          exact hr.get_eq hs.record hget (((hcov j _ hc).saved_sub k r rfl).2 k (by simp [hget]))
    | some e =>
      obtain ⟨self, r, hc, rfl⟩ := step_receive_some.1 h
      exact hs.finish_failure hc (by simp)
  | cancel j =>
    obtain ⟨self, ⟨k, v, hc, rfl⟩ | ⟨⟨k, hc⟩ | ⟨k, r, hc⟩, rfl⟩⟩ := step_cancel.1 h
    · refine ⟨hs.record, forall_setClient hs.clients ⟨(hs.clients j _ hc).copy, trivial⟩, ?_,
        hs.returned⟩
      rintro kv (_ | ⟨_, hkv⟩)
      · exact (hs.clients j _ hc).phase
      · exact hs.orphans kv hkv
    all_goals exact ⟨hs.record, forall_setClient hs.clients ⟨(hs.clients j _ hc).copy, trivial⟩,
      hs.orphans, hs.returned⟩
  | applyOrphan key value =>
    obtain ⟨hmem, rfl⟩ := step_applyOrphan.1 h
    have hrec := hs.record.mergePatch (hs.orphans _ hmem)
    exact ⟨hrec, hs.clients, fun kv hkv => hs.orphans kv (List.mem_of_mem_erase hkv),
      hs.returned_step hrec (s.record.keysSubset_mergePatch_single key value)
        fun _ _ _ hmem => .inl hmem⟩

/-- Every reachable state agrees, when every generator keeps to an idempotent `gen`. -/
theorem Reachable.agreed {gen : String → Bytes → Prop} {cacheRef : SecretReference}
    {s : Cluster Rest E K} (hgen : ∀ key value, gen key value → value = g key)
    (hs : Reachable gen cacheRef initial s) : s.Agreed initial g := by
  induction hs with
  | start =>
    exact ⟨⟨fun key value h => by simp only [Cluster.start] at h; simp [canonical, h], .refl _⟩, fun _ _ h => (nomatch h), nofun,
      fun _ _ _ h => absurd h (List.not_mem_nil _)⟩
  | step hr ha h ih => exact step_agreed hgen hr.covered_generated.1 ih ha h

end Agreed

/-- `key` has `value` somewhere readable: in the record, or in some client's copy. -/
def Cluster.Holds (s : Cluster Rest E K) (key : String) (value : Bytes) : Prop :=
  s.record.get key = some value ∨ ∃ i c, s.clients i = some c ∧ c.cache.getIfPresent key = some value

/-- Whatever an agreeing cluster holds for a key is the key's canonical value. -/
theorem Cluster.Agreed.holds_canonical {initial : Secret Rest} {g : String → Bytes}
    {s : Cluster Rest E K} {key : String} {value : Bytes} (hs : s.Agreed initial g)
    (hold : s.Holds key value) : value = canonical initial g key := by
  rcases hold with hget | ⟨i, c, hc, hget⟩
  · exact hs.record.value_eq key value hget
  · exact (hs.clients i c hc).copy.value_eq key value hget

/-- **Idempotent generators make every copy agree.** When every generator invocation for a key
either fails or returns the same bytes `g key`, then at every state reached by any interleaving of
any number of clients, the record and every client's copy hold the same value for each key wherever
they hold one; all successful calls for a key return the same bytes; and from a successful call on,
the record holds exactly those bytes for the key. -/
theorem idempotent_generators_agree {gen : String → Bytes → Prop} {g : String → Bytes}
    {cacheRef : SecretReference} {initial : Secret Rest} {s : Cluster Rest E K}
    (hgen : ∀ key value, gen key value → value = g key) (hs : Reachable gen cacheRef initial s) :
    (∀ key w w', s.Holds key w → s.Holds key w' → w = w') ∧
    (∀ i j key b b', (i, key, (.ok (.ok b) : Outcome E K)) ∈ s.returned →
      (j, key, .ok (.ok b')) ∈ s.returned → b = b') ∧
    (∀ as s', (∀ a ∈ as, a.Admissible gen) → s.exec as = some s' →
      ∀ i key b, (i, key, (.ok (.ok b) : Outcome E K)) ∈ s.returned → s'.record.get key = some b) := by
  have hagr := hs.agreed hgen
  refine ⟨fun key w w' hw hw' => (hagr.holds_canonical hw).trans (hagr.holds_canonical hw').symm,
    fun i j key b b' hb hb' => Option.some.inj ((hagr.returned i key b hb).symm.trans
      (hagr.returned j key b' hb')), fun as s' has h i key b hb => ?_⟩
  obtain ⟨tail, htail⟩ := exec_returned h
  exact ((hs.exec has h).agreed hgen).returned i key b (htail ▸ List.mem_append_left tail hb)

/-- A stale client re-generates and re-saves a key another client saved; a third client hits. -/
def staleResave : List (Action Unit Unit) :=
  [.new 0, .new 1, .call 0 "svc1", .generate 0 "svc1" (.ok [1]), .apply 0 "svc1" none,
    .receive 0 "svc1" none, .call 1 "svc1", .generate 1 "svc1" (.ok [1]), .apply 1 "svc1" none,
    .receive 1 "svc1" none, .new 2, .call 2 "svc1"]

theorem idempotent_generators_agree_staleResave :
    ∃ s : Cluster Unit Unit Unit,
      (Cluster.start ⟨"default", "krb5-cache"⟩ ⟨(), none⟩).exec staleResave = some s ∧
      (∀ key value, (fun (_ : String) (v : Bytes) => v = [1]) key value → value = [1]) ∧
      Reachable (fun _ v => v = [1]) ⟨"default", "krb5-cache"⟩ ⟨(), none⟩ s ∧
      ∀ key w w', s.Holds key w → s.Holds key w' → w = w' := by
  obtain ⟨s, hs⟩ : ∃ s : Cluster Unit Unit Unit,
      (Cluster.start ⟨"default", "krb5-cache"⟩ ⟨(), none⟩).exec staleResave = some s := ⟨_, rfl⟩
  have hreach : Reachable (fun _ v => v = [1]) ⟨"default", "krb5-cache"⟩ ⟨(), none⟩ s :=
    Reachable.start.exec (by simp [staleResave, Action.Admissible]) hs
  exact ⟨s, hs, fun _ _ h => h, hreach, (idempotent_generators_agree (fun _ _ h => h) hreach).1⟩

end SecretOperator
