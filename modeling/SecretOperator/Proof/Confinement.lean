import SecretOperator.Node

/-!
# Where `save_secret_data` writes

Each value lands at `target_path.join(key)`, and the directory passed to `create_dir_all` is that
path's parent. Nothing checks the keys: an absolute key replaces the target path, and `..` is kept,
so a key from the backend can place a file anywhere. A key that is relative, has no `..` and has a
name stays inside: its file lies strictly below the target path, and its directory is the target
path or lies below it.
-/

namespace SecretOperator

/-- Where a call of `save_secret_data` may act for the target path `t`: a directory to create at `t`
or below it, a file strictly below it. -/
def FsOp.Inside (t : PathBuf) : FsOp → Prop
  | .createDirAll path => path.location.Within t.location
  | .create path | .writeAll path _ => path.location.StrictlyWithin t.location

/-- A call made by `runCalls` was in the trace it started from or among the calls it was given. -/
theorem mem_runCalls (fs : FileSystem) {calls : List (FsOp × (DynError → PublishError))}
    {trace : List FsOp} {op : FsOp} (h : op ∈ (runCalls fs calls trace).1) :
    op ∈ trace ∨ ∃ call ∈ calls, call.1 = op := by
  induction calls generalizing trace with
  | nil => exact .inl h
  | cons call calls ih =>
    obtain ⟨op', wrap⟩ := call
    have hlast : op ∈ trace ++ [op'] → op ∈ trace ∨ ∃ call ∈ (op', wrap) :: calls, call.1 = op :=
      fun h => (List.mem_append.1 h).imp_right fun h => ⟨_, .head _, (List.mem_singleton.1 h).symm⟩
    simp only [runCalls] at h
    split at h
    · exact hlast h
    · rcases ih h with h | ⟨c, hc, rfl⟩
      · exact hlast h
      · exact .inr ⟨c, .tail _ hc, rfl⟩

/-- Every call for a tame key stays inside the target path. -/
theorem entryCalls_inside (t : PathBuf) {k : PathBuf} (v : Bytes) (hk : k.Tame) :
    ∀ call ∈ entryCalls t k v, call.1.Inside t := by
  obtain ⟨hfile, p, hp, hdir⟩ := t.location_join_of_tame hk
  simp only [entryCalls, hp, List.singleton_append, List.mem_cons, List.not_mem_nil, or_false]
  rintro _ (rfl | rfl | rfl)
  exacts [hdir, hfile, hfile]

/-- `save_secret_data` with tame keys acts inside the target path. -/
theorem saveSecretData_inside (fs : FileSystem) (t : PathBuf) {data : List (PathBuf × Bytes)}
    (hdata : ∀ entry ∈ data, entry.1.Tame) : ∀ op ∈ (saveSecretData fs t data).1, op.Inside t := by
  intro op hop
  rcases mem_runCalls fs hop with h | ⟨call, hcall, rfl⟩
  · exact absurd h (List.not_mem_nil _)
  · obtain ⟨entry, hentry, hcall⟩ := List.mem_flatMap.1 hcall
    exact entryCalls_inside t entry.2 (hdata entry hentry) call hcall

/-- The calls `node_publish_volume` makes: none, or those `save_secret_data` makes for what the
backend answered. -/
theorem nodePublishVolume_calls {Context Selector : Type}
    (parseSelector : Context → Except DynError Selector)
    (getSecretData : Selector → Except BackendError (List (PathBuf × Bytes))) (fs : FileSystem)
    (request : NodePublishVolumeRequest Context) :
    (nodePublishVolume parseSelector getSecretData fs request).1 = [] ∨
      ∃ sel data, getSecretData sel = .ok data ∧
        (nodePublishVolume parseSelector getSecretData fs request).1 =
          (saveSecretData fs (.ofString request.targetPath) data).1 := by
  dsimp only [nodePublishVolume]
  split
  · exact .inl rfl
  · rename_i sel _
    split
    · exact .inl rfl
    · rename_i data hdata
      refine .inr ⟨sel, data, hdata, ?_⟩
      generalize saveSecretData fs (.ofString request.targetPath) data = r
      obtain ⟨trace, _ | _⟩ := r <;> rfl

/-- **Tame keys stay inside the target path.** Whatever the selector, the filesystem and the target
path, when the backend answers only keys that are relative, have no `..` and have a name,
`node_publish_volume` passes to `create_dir_all` only the target path or directories below it, and
creates and writes only files strictly below it. -/
theorem nodePublishVolume_inside_of_tame {Context Selector : Type}
    (parseSelector : Context → Except DynError Selector)
    (getSecretData : Selector → Except BackendError (List (PathBuf × Bytes))) (fs : FileSystem)
    (request : NodePublishVolumeRequest Context)
    (htame : ∀ sel data, getSecretData sel = .ok data → ∀ entry ∈ data, entry.1.Tame) :
    ∀ op ∈ (nodePublishVolume parseSelector getSecretData fs request).1,
      op.Inside (.ofString request.targetPath) := by
  rcases nodePublishVolume_calls parseSelector getSecretData fs request with
    h | ⟨sel, data, hdata, h⟩ <;> rw [h]
  · exact nofun
  · exact saveSecretData_inside fs _ (htame sel data hdata)

theorem nodePublishVolume_inside_of_tame_keytab :
    (∀ (sel : Unit) data,
      (fun _ => .ok [(.ofString "keytab", [0])] :
        Unit → Except BackendError (List (PathBuf × Bytes))) sel = .ok data →
        ∀ entry ∈ data, entry.1.Tame) ∧
    ∀ op ∈ (nodePublishVolume (fun _ => .ok ()) (fun _ => .ok [(.ofString "keytab", [0])])
        (fun _ _ => none) ⟨"/vol", ()⟩).1, op.Inside (.ofString "/vol") := by
  have htame : ∀ (sel : Unit) data,
      (fun _ => .ok [(.ofString "keytab", [0])] :
        Unit → Except BackendError (List (PathBuf × Bytes))) sel = .ok data →
        ∀ entry ∈ data, entry.1.Tame := by
    rintro _ _ ⟨⟩ _ (_ | ⟨_, ⟨⟩⟩)
    exact ⟨rfl, by decide, "keytab", by decide⟩
  exact ⟨htame, nodePublishVolume_inside_of_tame _ _ _ _ htame⟩

/-- A key the backend answers as an absolute path: the file is created at the key itself, outside
the target path. -/
theorem nodePublishVolume_absolute_key_escapes :
    ¬ ∀ op ∈ (nodePublishVolume (fun _ => .ok ()) (fun _ => .ok [(.ofString "/etc/passwd", [0])])
        (fun _ _ => none) (⟨"/vol", ()⟩ : NodePublishVolumeRequest Unit)).1,
      op.path.location.StrictlyWithin (PathBuf.ofString "/vol").location := by
  decide

end SecretOperator
