import SecretOperator.GetOrInsert

/-!
# The record only grows

Nothing but a save writes the API server's record, and a save is a merge patch of one key: it sets
that key and keeps every other key and every other field. So keys are never lost, and a saved value
stays until the same key is saved again. A client's local state is a copy of the record taken at
some moment (by `new`, or as a patch response), so its keys are the record's; and since a response
is taken after the client's own state was, a client never loses a key either.

`Cluster.Covered` carries the key sets through every step, whatever the generators return;
`Cluster.Generated` carries that every value on its way to the record is one a generator returned.
-/

namespace SecretOperator

open Cluster

variable {Rest E K : Type}

/-- A client's keys are the record's, and a patch response on its way to it holds the client's keys
and is held by the record. -/
structure Client.Covered (record : Secret Rest) (c : Client Rest) : Prop where
  local_sub : c.cache.currentState.KeysSubset record
  saved_sub : ∀ key response, c.phase = .saved key response →
    c.cache.currentState.KeysSubset response ∧ response.KeysSubset record

theorem Client.Covered.mono {record record' : Secret Rest} {c : Client Rest}
    (hc : c.Covered record) (hr : record.KeysSubset record') : c.Covered record' :=
  ⟨hc.local_sub.trans hr, fun key response hp =>
    ⟨(hc.saved_sub key response hp).1, (hc.saved_sub key response hp).2.trans hr⟩⟩

/-- A client that waits for no response is covered by its local state alone. -/
theorem Client.Covered.of_local {record : Secret Rest} {self : CredentialCache Rest}
    {phase : Phase Rest} (h : self.currentState.KeysSubset record)
    (hphase : ∀ key response, phase ≠ .saved key response) : Client.Covered record ⟨self, phase⟩ :=
  ⟨h, fun key response hp => absurd hp (hphase key response)⟩

/-- Every client is covered by the record. -/
def Cluster.Covered (s : Cluster Rest E K) : Prop :=
  ∀ i c, s.clients i = some c → c.Covered s.record

/-- Every step keeps every client covered. -/
theorem Cluster.step_covered {s s' : Cluster Rest E K} {a : Action E K} (hs : s.Covered)
    (h : s.step a = some s') : s'.Covered := by
  have hidle : ∀ {i self phase}, s.clients i = some ⟨self, phase⟩ →
      ∀ phase', (∀ key response, phase' ≠ .saved key response) →
        Client.Covered s.record ⟨self, phase'⟩ :=
    fun hc _ hphase => .of_local (hs _ _ hc).local_sub hphase
  cases a with
  | new j =>
    obtain ⟨-, rfl⟩ := step_new.1 h
    exact forall_setClient hs (.of_local (.refl _) fun _ _ => nofun)
  | call j key =>
    obtain ⟨self, hc, ⟨b, -, rfl⟩ | ⟨-, rfl⟩⟩ := step_call.1 h
    · exact hs
    · exact forall_setClient hs (hidle hc _ fun _ _ => nofun)
  | generate j key result =>
    cases result with
    | ok v =>
      obtain ⟨self, hc, rfl⟩ := step_generate_ok.1 h
      exact forall_setClient hs (hidle hc _ fun _ _ => nofun)
    | error e =>
      obtain ⟨self, hc, rfl⟩ := step_generate_error.1 h
      exact forall_setClient hs (hidle hc _ fun _ _ => nofun)
  | apply j key verdict =>
    cases verdict with
    | none =>
      obtain ⟨self, v, hc, rfl⟩ := step_apply_none.1 h
      have hgrow := s.record.keysSubset_mergePatch_single key v
      refine forall_setClient (fun i c hi => (hs i c hi).mono hgrow) ⟨?_, ?_⟩
      · exact (hs j _ hc).local_sub.trans hgrow
      · rintro _ _ ⟨⟩
        exact ⟨(hs j _ hc).local_sub.trans hgrow, .refl _⟩
    | some e =>
      obtain ⟨self, v, hc, rfl⟩ := step_apply_some.1 h
      exact forall_setClient hs (hidle hc _ fun _ _ => nofun)
  | receive j key failure =>
    cases failure with
    | none =>
      obtain ⟨self, r, hc, rfl⟩ := step_receive_none.1 h
      exact forall_setClient hs (.of_local ((hs j _ hc).saved_sub key r rfl).2 fun _ _ => nofun)
    | some e =>
      obtain ⟨self, r, hc, rfl⟩ := step_receive_some.1 h
      exact forall_setClient hs (hidle hc _ fun _ _ => nofun)
  | cancel j =>
    obtain ⟨self, ⟨k, v, hc, rfl⟩ | ⟨⟨k, hc⟩ | ⟨k, r, hc⟩, rfl⟩⟩ := step_cancel.1 h <;>
      exact forall_setClient hs (hidle hc _ fun _ _ => nofun)
  | applyOrphan key value =>
    obtain ⟨-, rfl⟩ := step_applyOrphan.1 h
    exact fun i c hi => (hs i c hi).mono (s.record.keysSubset_mergePatch_single key value)

/-- A value the client is sending is one the generator returned. -/
def Client.Sends (gen : String → Bytes → Prop) (c : Client Rest) : Prop :=
  ∀ key value, c.phase = .saving key value → gen key value

/-- Every value on its way to the record, from a running call or from a dropped one, is one the
generator returned. -/
structure Cluster.Generated (gen : String → Bytes → Prop) (s : Cluster Rest E K) : Prop where
  clients : ∀ i c, s.clients i = some c → c.Sends gen
  orphans : ∀ kv ∈ s.orphans, gen kv.1 kv.2

/-- Every step whose generator keeps to `gen` keeps every value on its way generated. -/
theorem Cluster.step_generated {gen : String → Bytes → Prop} {s s' : Cluster Rest E K}
    {a : Action E K} (hs : s.Generated gen) (ha : a.Admissible gen) (h : s.step a = some s') :
    s'.Generated gen := by
  have idle : ∀ {self : CredentialCache Rest} {phase : Phase Rest},
      (∀ key value, phase ≠ .saving key value) → Client.Sends gen ⟨self, phase⟩ :=
    fun hphase key value hp => absurd hp (hphase key value)
  cases a with
  | new j =>
    obtain ⟨-, rfl⟩ := step_new.1 h
    exact ⟨forall_setClient hs.clients (idle nofun), hs.orphans⟩
  | call j key =>
    obtain ⟨self, -, ⟨b, -, rfl⟩ | ⟨-, rfl⟩⟩ := step_call.1 h
    · exact ⟨hs.clients, hs.orphans⟩
    · exact ⟨forall_setClient hs.clients (idle nofun), hs.orphans⟩
  | generate j key result =>
    cases result with
    | ok v =>
      obtain ⟨self, -, rfl⟩ := step_generate_ok.1 h
      exact ⟨forall_setClient hs.clients (by rintro _ _ ⟨⟩; exact ha), hs.orphans⟩
    | error e =>
      obtain ⟨self, -, rfl⟩ := step_generate_error.1 h
      exact ⟨forall_setClient hs.clients (idle nofun), hs.orphans⟩
  | apply j key verdict =>
    cases verdict with
    | none =>
      obtain ⟨self, v, -, rfl⟩ := step_apply_none.1 h
      exact ⟨forall_setClient hs.clients (idle nofun), hs.orphans⟩
    | some e =>
      obtain ⟨self, v, -, rfl⟩ := step_apply_some.1 h
      exact ⟨forall_setClient hs.clients (idle nofun), hs.orphans⟩
  | receive j key failure =>
    cases failure with
    | none =>
      obtain ⟨self, r, -, rfl⟩ := step_receive_none.1 h
      exact ⟨forall_setClient hs.clients (idle nofun), hs.orphans⟩
    | some e =>
      obtain ⟨self, r, -, rfl⟩ := step_receive_some.1 h
      exact ⟨forall_setClient hs.clients (idle nofun), hs.orphans⟩
  | cancel j =>
    obtain ⟨self, ⟨k, v, hj, rfl⟩ | ⟨-, rfl⟩⟩ := step_cancel.1 h
    · refine ⟨forall_setClient hs.clients (idle nofun), ?_⟩
      rintro kv (_ | ⟨_, hkv⟩)
      · exact hs.clients j _ hj k v rfl
      · exact hs.orphans kv hkv
    · exact ⟨forall_setClient hs.clients (idle nofun), hs.orphans⟩
  | applyOrphan key value =>
    obtain ⟨-, rfl⟩ := step_applyOrphan.1 h
    exact ⟨hs.clients, fun kv hkv => hs.orphans kv (List.mem_of_mem_erase hkv)⟩

/-- Every reachable state keeps every client covered and every value on its way generated. -/
theorem Reachable.covered_generated {gen : String → Bytes → Prop} {cacheRef : SecretReference}
    {initial : Secret Rest} {s : Cluster Rest E K} (hs : Reachable gen cacheRef initial s) :
    s.Covered ∧ s.Generated gen := by
  induction hs with
  | start => exact ⟨fun _ _ h => (nomatch h), fun _ _ h => (nomatch h), nofun⟩
  | step _ ha h ih => exact ⟨step_covered ih.1 h, step_generated ih.2 ha h⟩

/-! ### Runs -/

end SecretOperator
