import SecretOperator.GetOrInsert

/-!
# One call of `get_or_insert`

What one client's call does at each of its steps, stated at whatever cluster state the step happens
in: other clients may run between them, and `Cluster.step_clients_of_ne` says they leave this
client alone. A hit returns the cached bytes and touches nothing. A miss that saves returns exactly
the bytes it generated, even when another client saved other bytes for the key in the meantime,
because the merge patch's response is the record with this call's value in it. A call that fails or
is dropped leaves the client's local state as it found it, so the next call generates again.
-/

namespace SecretOperator

open Cluster

variable {Rest E K : Type} {i : Nat} {self : CredentialCache Rest}
  {key : String}

/-- **What `get_or_insert` returns.** On a hit, the call returns the cached bytes and changes nothing:
the generator is not invoked and no patch is sent. On a miss, the generator is invoked; its value
is sent as a merge patch; the API server applies it to the record `R` it holds at that moment; and
the response, `R` with `key` set to the value, becomes the local state, in which the lookup finds
the value: the call returns the bytes it generated, and `SavedKeyNotFound` does not occur. -/
theorem getOrInsert_hit_or_saved :
    (∀ (s : Cluster Rest E K) b, s.clients i = some ⟨self, .idle⟩ → self.getIfPresent key = some b →
      s.step (.call i key) = some (s.finish i key (.ok (.ok b)))) ∧
    (∀ s : Cluster Rest E K, s.clients i = some ⟨self, .idle⟩ → self.getIfPresent key = none →
      s.step (.call i key) = some (s.setClient i ⟨self, .generating key⟩)) ∧
    (∀ (s : Cluster Rest E K) value, s.clients i = some ⟨self, .generating key⟩ →
      s.step (.generate i key (.ok value)) = some (s.setClient i ⟨self, .saving key value⟩)) ∧
    (∀ (s : Cluster Rest E K) value, s.clients i = some ⟨self, .saving key value⟩ →
      ∃ s', s.step (.apply i key none) = some s' ∧
        s'.record = s.record.mergePatch (.single key value) ∧
        s'.clients i = some ⟨self, .saved key s'.record⟩) ∧
    (∀ (s : Cluster Rest E K) (R : Secret Rest) value,
      s.clients i = some ⟨self, .saved key (R.mergePatch (.single key value))⟩ →
      ∃ s', s.step (.receive i key none) = some s' ∧
        s'.clients i = some ⟨{ self with currentState := R.mergePatch (.single key value) }, .idle⟩ ∧
        s'.record = s.record ∧
        s'.returned = s.returned ++ [(i, key, (.ok (.ok value) : Outcome E K))]) := by
  refine ⟨fun s b hc hb => step_call.2 ⟨self, hc, .inl ⟨b, hb, rfl⟩⟩,
    fun s hc hk => step_call.2 ⟨self, hc, .inr ⟨hk, rfl⟩⟩,
    fun s value hc => step_generate_ok.2 ⟨self, hc, rfl⟩,
    fun s value hc => ⟨_, step_apply_none.2 ⟨self, value, hc, rfl⟩, by simp⟩,
    fun s R value hc => ⟨_, step_receive_none.2 ⟨self, _, hc, rfl⟩, by simp⟩⟩

end SecretOperator
