import SecretOperator.Proof.Agreement
import SecretOperator.Proof.Sequential

/-!
# What a client can see

Whatever the generators return and however the calls interleave, a client sees nothing that was
not there. Every value held for a key, in the record, in a client's copy or in a response on its
way, and every value a call returns, is the initial record's value for that key or a value a
generator returned for it. A response always holds the key its patch saved, since the API server
answers with the record it has just patched, so no call ever returns `SavedKeyNotFound`. And every
copy a client holds, and every response on its way to one, is the record exactly as it stood after
some prefix of the run: no client ever sees a record the API server never had.
-/

namespace SecretOperator

open Cluster

variable {Rest E K : Type}

/-! ### Where values come from -/

section Sourced

variable {gen : String → Bytes → Prop} {initial : Secret Rest}

/-- Every value of `secret` is the initial record's for its key, or one `gen` allows for it. -/
def Secret.Sourced (secret : Secret Rest) (gen : String → Bytes → Prop) (initial : Secret Rest) :
    Prop :=
  ∀ key value, secret.get key = some value → initial.get key = some value ∨ gen key value

/-- A result a caller may get for `key`: a sourced value, or an error other than
`SavedKeyNotFound`. -/
def Outcome.Sourced (gen : String → Bytes → Prop) (initial : Secret Rest) (key : String) :
    Outcome E K → Prop
  | .ok (.ok value) => initial.get key = some value ∨ gen key value
  | .error (.savedKeyNotFound _ _) => False
  | _ => True

/-- A client whose copy is sourced, and whose response on its way is sourced and holds the key it
saved. -/
structure Client.Sourced (gen : String → Bytes → Prop) (initial : Secret Rest) (c : Client Rest) :
    Prop where
  copy : c.cache.currentState.Sourced gen initial
  response : ∀ key response, c.phase = .saved key response →
    response.Sourced gen initial ∧ (response.get key).isSome

/-- The record, every client and every result returned are sourced. -/
structure Cluster.Sourced (gen : String → Bytes → Prop) (initial : Secret Rest)
    (s : Cluster Rest E K) : Prop where
  record : s.record.Sourced gen initial
  clients : ∀ i c, s.clients i = some c → c.Sourced gen initial
  returned : ∀ r ∈ s.returned, Outcome.Sourced gen initial r.2.1 r.2.2

/-- Saving a value `gen` allows keeps a copy sourced. -/
theorem Secret.Sourced.mergePatch {secret : Secret Rest} {key : String} {value : Bytes}
    (hs : secret.Sourced gen initial) (hv : gen key value) :
    (secret.mergePatch (.single key value)).Sourced gen initial := by
  intro other w hw
  rw [Secret.get_mergePatch_single] at hw
  split_ifs at hw with h
  · cases hw
    exact .inr (h ▸ hv)
  · exact hs other w hw

/-- A client that waits for no response is sourced by its copy alone. -/
theorem Client.Sourced.of_copy {self : CredentialCache Rest} {phase : Phase Rest}
    (h : self.currentState.Sourced gen initial)
    (hphase : ∀ key response, phase ≠ .saved key response) :
    Client.Sourced gen initial ⟨self, phase⟩ :=
  ⟨h, fun key response hp => absurd hp (hphase key response)⟩

/-- An idle client is sourced by its copy. -/
theorem Client.Sourced.idle {self : CredentialCache Rest}
    (h : self.currentState.Sourced gen initial) : Client.Sourced gen initial ⟨self, .idle⟩ :=
  .of_copy h fun _ _ => nofun

/-- Replacing a client by a sourced one keeps the cluster sourced. -/
theorem Cluster.Sourced.setClient {s : Cluster Rest E K} {j : Nat} {c : Client Rest}
    (hs : s.Sourced gen initial) (hc : c.Sourced gen initial) :
    (s.setClient j c).Sourced gen initial :=
  ⟨hs.record, forall_setClient hs.clients hc, hs.returned⟩

/-- Returning a sourced result keeps the cluster sourced. -/
theorem Cluster.Sourced.finish {s : Cluster Rest E K} {j : Nat} {key : String} {o : Outcome E K}
    (hs : s.Sourced gen initial) (ho : o.Sourced gen initial key) :
    (s.finish j key o).Sourced gen initial :=
  ⟨hs.record, hs.clients, List.forall_mem_append.2 ⟨hs.returned, List.forall_mem_singleton.2 ho⟩⟩

/-- Every step keeps the cluster sourced, when every value on its way is one `gen` allows. -/
theorem Cluster.step_sourced {s s' : Cluster Rest E K} {a : Action E K}
    (hs : s.Sourced gen initial) (hg : s.Generated gen) (h : s.step a = some s') :
    s'.Sourced gen initial := by
  -- a client that keeps its copy and waits for no response stays sourced
  have keep : ∀ {j self phase phase'}, s.clients j = some ⟨self, phase⟩ →
      (∀ key response, phase' ≠ .saved key response) →
      (s.setClient j ⟨self, phase'⟩).Sourced gen initial :=
    fun hc hphase => hs.setClient (.of_copy (hs.clients _ _ hc).copy hphase)
  cases a with
  | new j =>
    obtain ⟨-, rfl⟩ := step_new.1 h
    exact hs.setClient (.idle hs.record)
  | call j key =>
    obtain ⟨self, hc, ⟨b, hb, rfl⟩ | ⟨-, rfl⟩⟩ := step_call.1 h
    · exact hs.finish ((hs.clients j _ hc).copy key b hb)
    · exact keep hc fun _ _ => nofun
  | generate j key result =>
    cases result with
    | ok v =>
      obtain ⟨self, hc, rfl⟩ := step_generate_ok.1 h
      exact keep hc fun _ _ => nofun
    | error e =>
      obtain ⟨self, hc, rfl⟩ := step_generate_error.1 h
      exact (hs.setClient (.idle (hs.clients j _ hc).copy)).finish trivial
  | apply j key verdict =>
    cases verdict with
    | none =>
      obtain ⟨self, v, hc, rfl⟩ := step_apply_none.1 h
      have hrec := hs.record.mergePatch (hg.clients j _ hc key v rfl)
      refine ⟨hrec, forall_setClient hs.clients ⟨(hs.clients j _ hc).copy, ?_⟩, hs.returned⟩
      rintro _ _ ⟨⟩
      exact ⟨hrec, by simp⟩
    | some e =>
      obtain ⟨self, v, hc, rfl⟩ := step_apply_some.1 h
      exact (hs.setClient (.idle (hs.clients j _ hc).copy)).finish trivial
  | receive j key failure =>
    cases failure with
    | none =>
      obtain ⟨self, r, hc, rfl⟩ := step_receive_none.1 h
      obtain ⟨hr, hkey⟩ := (hs.clients j _ hc).response key r rfl
      obtain ⟨v, hv⟩ := Option.isSome_iff_exists.1 hkey
      refine (hs.setClient (.idle hr)).finish ?_
      simp only [hv, Outcome.Sourced]
      exact hr key v hv
    | some e =>
      obtain ⟨self, r, hc, rfl⟩ := step_receive_some.1 h
      exact (hs.setClient (.idle (hs.clients j _ hc).copy)).finish trivial
  | cancel j =>
    obtain ⟨self, ⟨k, v, hc, rfl⟩ | ⟨⟨k, hc⟩ | ⟨k, r, hc⟩, rfl⟩⟩ := step_cancel.1 h
    · -- the patch in flight stays with the API server as an orphan
      exact Sourced.setClient ⟨hs.record, hs.clients, hs.returned⟩ (.idle (hs.clients j _ hc).copy)
    all_goals exact keep hc fun _ _ => nofun
  | applyOrphan key value =>
    obtain ⟨hmem, rfl⟩ := step_applyOrphan.1 h
    exact ⟨hs.record.mergePatch (hg.orphans _ hmem), hs.clients, hs.returned⟩

/-- Every reachable state is sourced. -/
theorem Reachable.sourced {cacheRef : SecretReference} {s : Cluster Rest E K}
    (hs : Reachable gen cacheRef initial s) : s.Sourced gen initial := by
  induction hs with
  | start => exact ⟨fun _ _ h => .inl h, fun _ _ h => (nomatch h), nofun⟩
  | step hr _ h ih => exact step_sourced ih hr.covered_generated.2 h

end Sourced

/-- **The cache invents no credential.** Whatever the generators return, at every state reached by
any interleaving of any number of clients, every value the record or a client's copy holds for a
key, and every value a call has returned for it, is the initial record's value for that key or a
value a generator returned for that key. -/
theorem values_initial_or_generated {gen : String → Bytes → Prop} {cacheRef : SecretReference}
    {initial : Secret Rest} {s : Cluster Rest E K} (hs : Reachable gen cacheRef initial s) :
    (∀ key value, s.Holds key value → initial.get key = some value ∨ gen key value) ∧
    (∀ i key value, (i, key, (.ok (.ok value) : Outcome E K)) ∈ s.returned →
      initial.get key = some value ∨ gen key value) := by
  have hsrc := hs.sourced
  refine ⟨fun key value hold => ?_, fun i key value hmem => hsrc.returned _ hmem⟩
  rcases hold with hget | ⟨i, c, hc, hget⟩
  · exact hsrc.record key value hget
  · exact (hsrc.clients i c hc).copy key value hget

/-- The run of `interleavedSaves` from the start, with the two clients created first. -/
def interleavedRun : List (Action Unit Unit) :=
  [.new 0, .new 1] ++ interleavedSaves

theorem values_initial_or_generated_interleavedRun :
    ∃ s : Cluster Unit Unit Unit,
      (Cluster.start ⟨"default", "krb5-cache"⟩ ⟨(), none⟩).exec interleavedRun = some s ∧
      Reachable (fun _ v => v = [1] ∨ v = [2]) ⟨"default", "krb5-cache"⟩ ⟨(), none⟩ s ∧
      ∀ key value, s.Holds key value →
        (⟨(), none⟩ : Secret Unit).get key = some value ∨ value = [1] ∨ value = [2] := by
  obtain ⟨s, hs⟩ : ∃ s : Cluster Unit Unit Unit,
      (Cluster.start ⟨"default", "krb5-cache"⟩ ⟨(), none⟩).exec interleavedRun = some s := ⟨_, rfl⟩
  have hreach : Reachable (fun _ v => v = [1] ∨ v = [2]) ⟨"default", "krb5-cache"⟩ ⟨(), none⟩ s :=
    Reachable.start.exec (by simp [interleavedRun, interleavedSaves, Action.Admissible]) hs
  exact ⟨s, hs, hreach, (values_initial_or_generated hreach).1⟩

/-- **`SavedKeyNotFound` is never returned.** The API server answers a merge patch with the record
it has just patched, which holds the key saved; so at every state reached by any interleaving,
whatever the generators return and whichever patches the API server rejects, no call has returned
`SavedKeyNotFound`. -/
theorem savedKeyNotFound_never_returned {gen : String → Bytes → Prop} {cacheRef : SecretReference}
    {initial : Secret Rest} {s : Cluster Rest E K} (hs : Reachable gen cacheRef initial s)
    (i : Nat) (key key' : String) (ref : SecretReference) :
    (i, key, (.error (.savedKeyNotFound key' ref) : Outcome E K)) ∉ s.returned :=
  fun hmem => hs.sourced.returned _ hmem

theorem savedKeyNotFound_never_returned_interleavedRun :
    ∃ s : Cluster Unit Unit Unit,
      (Cluster.start ⟨"default", "krb5-cache"⟩ ⟨(), none⟩).exec interleavedRun = some s ∧
      Reachable (fun _ _ => True) ⟨"default", "krb5-cache"⟩ ⟨(), none⟩ s ∧
      (0, "svc1", (.error (.savedKeyNotFound "svc1" ⟨"default", "krb5-cache"⟩) : Outcome Unit Unit))
        ∉ s.returned := by
  obtain ⟨s, hs⟩ : ∃ s : Cluster Unit Unit Unit,
      (Cluster.start ⟨"default", "krb5-cache"⟩ ⟨(), none⟩).exec interleavedRun = some s := ⟨_, rfl⟩
  have hreach : Reachable (fun _ _ => True) ⟨"default", "krb5-cache"⟩ ⟨(), none⟩ s :=
    Reachable.start.exec (fun _ _ => by simp only [Action.Admissible]; split <;> trivial) hs
  exact ⟨s, hs, hreach, savedKeyNotFound_never_returned hreach 0 "svc1" "svc1" _⟩

/-! ### Every view is a past record -/

/-- `view` is a copy some client holds, or a response on its way to one. -/
def Cluster.Views (s : Cluster Rest E K) (view : Secret Rest) : Prop :=
  ∃ i c, s.clients i = some c ∧ (c.cache.currentState = view ∨ ∃ key, c.phase = .saved key view)

/-- A view after one client is replaced is a view before, or the new client's. -/
theorem Cluster.views_setClient {s : Cluster Rest E K} {j : Nat} {c : Client Rest}
    {view : Secret Rest} (h : (s.setClient j c).Views view) :
    s.Views view ∨ c.cache.currentState = view ∨ ∃ key, c.phase = .saved key view := by
  obtain ⟨i, c', hc', hv⟩ := h
  rw [setClient_clients] at hc'
  split_ifs at hc'
  · cases hc'
    exact .inr hv
  · exact .inl ⟨i, c', hc', hv⟩

/-- A view after a step was a view before it, or is the record before or after it. -/
theorem Cluster.step_views {s s' : Cluster Rest E K} {a : Action E K} {view : Secret Rest}
    (h : s.step a = some s') (hv : s'.Views view) :
    s.Views view ∨ view = s.record ∨ view = s'.record := by
  -- a client that keeps its copy and waits for no response shows nothing new
  have same : ∀ {j self phase phase'}, s.clients j = some ⟨self, phase⟩ →
      (s.setClient j ⟨self, phase'⟩).Views view → (∀ key, phase' ≠ .saved key view) →
      s.Views view := by
    intro j self phase phase' hc hv hphase
    rcases views_setClient hv with hv | hv | ⟨key, hp⟩
    exacts [hv, ⟨j, _, hc, .inl hv⟩, absurd hp (hphase key)]
  cases a with
  | new j =>
    obtain ⟨-, rfl⟩ := step_new.1 h
    rcases views_setClient hv with hv | hv | ⟨_, ⟨⟩⟩
    exacts [.inl hv, .inr (.inl hv.symm)]
  | call j key =>
    obtain ⟨self, hc, ⟨b, -, rfl⟩ | ⟨-, rfl⟩⟩ := step_call.1 h
    exacts [.inl hv, .inl (same hc hv fun _ => nofun)]
  | generate j key result =>
    cases result with
    | ok v =>
      obtain ⟨self, hc, rfl⟩ := step_generate_ok.1 h
      exact .inl (same hc hv fun _ => nofun)
    | error e =>
      obtain ⟨self, hc, rfl⟩ := step_generate_error.1 h
      exact .inl (same hc hv fun _ => nofun)
  | apply j key verdict =>
    cases verdict with
    | none =>
      obtain ⟨self, v, hc, rfl⟩ := step_apply_none.1 h
      rcases views_setClient hv with hv | hv | ⟨_, ⟨⟩⟩
      exacts [.inl hv, .inl ⟨j, _, hc, .inl hv⟩, .inr (.inr rfl)]
    | some e =>
      obtain ⟨self, v, hc, rfl⟩ := step_apply_some.1 h
      exact .inl (same hc hv fun _ => nofun)
  | receive j key failure =>
    cases failure with
    | none =>
      obtain ⟨self, r, hc, rfl⟩ := step_receive_none.1 h
      rcases views_setClient hv with hv | hv | ⟨_, ⟨⟩⟩
      exacts [.inl hv, .inl ⟨j, _, hc, .inr ⟨key, hv ▸ rfl⟩⟩]
    | some e =>
      obtain ⟨self, r, hc, rfl⟩ := step_receive_some.1 h
      exact .inl (same hc hv fun _ => nofun)
  | cancel j =>
    obtain ⟨self, ⟨k, v, hc, rfl⟩ | ⟨⟨k, hc⟩ | ⟨k, r, hc⟩, rfl⟩⟩ := step_cancel.1 h <;>
      exact .inl (same hc hv fun _ => nofun)
  | applyOrphan key value =>
    obtain ⟨-, rfl⟩ := step_applyOrphan.1 h
    exact .inl hv

/-- A view at the end of a run was a view at its start, or is the record after some prefix. -/
theorem Cluster.exec_views {s s' : Cluster Rest E K} {as : List (Action E K)} {view : Secret Rest}
    (h : s.exec as = some s') (hv : s'.Views view) :
    s.Views view ∨ ∃ pre post s₁, as = pre ++ post ∧ s.exec pre = some s₁ ∧ s₁.record = view := by
  induction as generalizing s with
  | nil => exact .inl (Option.some.inj h ▸ hv)
  | cons a as ih =>
    obtain ⟨s₁, h₁, h₂⟩ := exec_cons.1 h
    rcases ih h₂ with hv₁ | ⟨pre, post, s₂, rfl, hpre, hrec⟩
    · rcases step_views h₁ hv₁ with hv₀ | rfl | rfl
      · exact .inl hv₀
      · exact .inr ⟨[], a :: as, s, rfl, rfl, rfl⟩
      · exact .inr ⟨[a], as, s₁, rfl, by simp [exec, h₁], rfl⟩
    · exact .inr ⟨a :: pre, post, s₂, rfl, by simp [exec, h₁, hpre], hrec⟩

/-- **Every view is a past record.** Along any run from the start, whatever the generators return
and however the calls interleave, cancellations and late patches included, every copy a client
holds and every response on its way to one is exactly the record the API server held after some
prefix of the run. -/
theorem views_are_past_records {cacheRef : SecretReference} {initial : Secret Rest}
    {as : List (Action E K)} {s : Cluster Rest E K}
    (h : (Cluster.start cacheRef initial).exec as = some s) {view : Secret Rest}
    (hv : s.Views view) :
    ∃ pre post s₁, as = pre ++ post ∧ (Cluster.start cacheRef initial).exec pre = some s₁ ∧
      s₁.record = view := by
  rcases exec_views h hv with ⟨_, _, hc, -⟩ | h
  · exact absurd hc (by simp [Cluster.start])
  · exact h

theorem views_are_past_records_interleavedRun :
    ∃ (s : Cluster Unit Unit Unit) (c : Client Unit),
      (Cluster.start ⟨"default", "krb5-cache"⟩ ⟨(), none⟩).exec interleavedRun = some s ∧
      s.clients 0 = some c ∧
      ∃ pre post s₁, interleavedRun = pre ++ post ∧
        (Cluster.start ⟨"default", "krb5-cache"⟩ ⟨(), none⟩).exec pre = some s₁ ∧
        s₁.record = c.cache.currentState := by
  obtain ⟨s, hs⟩ : ∃ s : Cluster Unit Unit Unit,
      (Cluster.start ⟨"default", "krb5-cache"⟩ ⟨(), none⟩).exec interleavedRun = some s := ⟨_, rfl⟩
  obtain ⟨c, hc⟩ : ∃ c, s.clients 0 = some c := by
    rw [Option.some.inj (hs.symm.trans rfl)]
    exact ⟨_, rfl⟩
  exact ⟨s, c, hs, hc, views_are_past_records hs ⟨0, c, hc, .inl rfl⟩⟩

end SecretOperator
