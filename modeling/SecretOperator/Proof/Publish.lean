import SecretOperator.Proof.Confinement

/-!
# What a publish does to the volume

Once the selector parses and the backend answers, `node_publish_volume` hands the map to
`save_secret_data`, which walks it entry by entry: `create_dir_all` on the file's parent, then
`File::create` and `write_all`. The first call that fails ends the walk, and its error, whichever
call it was, is answered `UNAVAILABLE`. When every call succeeds, each file holds the value of the
last entry that points at it: two keys may name one file (`keytab` and `./keytab`), and then the
order in which the `HashMap` is iterated decides which value stays.
-/

namespace SecretOperator

/-- The calls `save_secret_data` plans for a map, each with the error its failure becomes. -/
def publishCalls (targetPath : PathBuf) (data : List (PathBuf × Bytes)) :
    List (FsOp × (DynError → PublishError)) :=
  data.flatMap fun entry => entryCalls targetPath entry.1 entry.2

/-- `runCalls` makes all of its calls, or those before the first that fails and that one. -/
theorem runCalls_cases (fs : FileSystem) (calls : List (FsOp × (DynError → PublishError)))
    (trace : List FsOp) :
    runCalls fs calls trace = (trace ++ calls.map Prod.fst, .ok ()) ∨
      ∃ done call rest err, calls = done ++ call :: rest ∧
        runCalls fs done trace = (trace ++ done.map Prod.fst, .ok ()) ∧
        fs (trace ++ done.map Prod.fst) call.1 = some err ∧
        runCalls fs calls trace =
          (trace ++ done.map Prod.fst ++ [call.1], .error (call.2 err)) := by
  induction calls generalizing trace with
  | nil => exact .inl (by simp [runCalls])
  | cons call calls ih =>
    obtain ⟨op, wrap⟩ := call
    cases hfs : fs trace op with
    | some err =>
      exact .inr ⟨[], (op, wrap), calls, err, rfl, by simp [runCalls], by simpa using hfs,
        by simp [runCalls, hfs]⟩
    | none =>
      rcases ih (trace ++ [op]) with h | ⟨done, call, rest, err, rfl, hdone, hfail, hrun⟩
      · exact .inl (by simp [runCalls, hfs, h])
      · exact .inr ⟨(op, wrap) :: done, call, rest, err, rfl, by simp [runCalls, hfs, hdone],
          by simpa using hfail, by simp [runCalls, hfs, hrun]⟩

/-- Once the selector parses and the backend answers, a publish is the run of the planned calls,
its error answered as a status. -/
theorem nodePublishVolume_of_data {Context Selector : Type}
    {parseSelector : Context → Except DynError Selector}
    {getSecretData : Selector → Except BackendError (List (PathBuf × Bytes))} (fs : FileSystem)
    {request : NodePublishVolumeRequest Context} {sel : Selector} {data : List (PathBuf × Bytes)}
    (hsel : parseSelector request.volumeContext = .ok sel) (hdata : getSecretData sel = .ok data) :
    nodePublishVolume parseSelector getSecretData fs request =
      match runCalls fs (publishCalls (.ofString request.targetPath) data) [] with
      | (trace, .ok ()) => (trace, .ok ())
      | (trace, .error err) => (trace, .error err.toStatus) := by
  simp only [nodePublishVolume, hsel, hdata]
  rfl

/-- The files, by where each path points. -/
abbrev Files := Location → Option Bytes

/-- What a successful call does to the files: `File::create` leaves an empty file, and `write_all`
on the handle it returned appends the contents; directories are not tracked. -/
def FsOp.apply (files : Files) : FsOp → Files
  | .createDirAll _ => files
  | .create path => Function.update files path.location (some [])
  | .writeAll path contents =>
    Function.update files path.location (some ((files path.location).getD [] ++ contents))

/-- The calls for one entry leave exactly its value in its file. -/
theorem foldl_apply_entryCalls (files : Files) (t k : PathBuf) (v : Bytes) :
    ((entryCalls t k v).map Prod.fst).foldl FsOp.apply files =
      Function.update files (t.join k).location (some v) := by
  simp only [entryCalls]
  split <;> simp [FsOp.apply]

/-- The value the last entry pointing at a location gives it, if any entry does. -/
def lastWrite (t : PathBuf) (data : List (PathBuf × Bytes)) (l : Location) : Option Bytes :=
  (data.reverse.find? fun entry => (t.join entry.1).location = l).map Prod.snd

theorem foldl_apply_publishCalls (files : Files) (t : PathBuf) (data : List (PathBuf × Bytes))
    (l : Location) :
    ((publishCalls t data).map Prod.fst).foldl FsOp.apply files l =
      (lastWrite t data l).or (files l) := by
  induction data using List.reverseRecOn with
  | nil => rfl
  | append_singleton data entry ih =>
    simp only [publishCalls, List.flatMap_append, List.flatMap_singleton, List.map_append,
      List.foldl_append, foldl_apply_entryCalls, lastWrite, List.reverse_append,
      List.reverse_singleton, List.singleton_append, List.find?_cons] at ih ⊢
    by_cases hl : (t.join entry.1).location = l
    · subst hl
      simp
    · simp [hl, Function.update_noteq (Ne.symm hl), ih]

/-- A successful publish made every planned call. -/
theorem nodePublishVolume_trace_of_ok {Context Selector : Type}
    {parseSelector : Context → Except DynError Selector}
    {getSecretData : Selector → Except BackendError (List (PathBuf × Bytes))} {fs : FileSystem}
    {request : NodePublishVolumeRequest Context} {sel : Selector} {data : List (PathBuf × Bytes)}
    (hsel : parseSelector request.volumeContext = .ok sel) (hdata : getSecretData sel = .ok data)
    (hok : (nodePublishVolume parseSelector getSecretData fs request).2 = .ok ()) :
    (nodePublishVolume parseSelector getSecretData fs request).1 =
      (publishCalls (.ofString request.targetPath) data).map Prod.fst := by
  rw [nodePublishVolume_of_data fs hsel hdata] at hok ⊢
  rcases runCalls_cases fs (publishCalls (.ofString request.targetPath) data) [] with
    h | ⟨_, _, _, _, -, -, -, h⟩ <;> rw [h] at hok ⊢
  · exact List.nil_append _
  · cases hok

/-- What `remove_dir_all` does to the files: none is left at the path or below it. -/
def removeTree (t : Location) (files : Files) : Files :=
  fun l => if l.Within t then none else files l

/-- With tame keys, no entry points outside the target path. -/
theorem lastWrite_eq_none_of_tame {t : PathBuf} {data : List (PathBuf × Bytes)}
    (htame : ∀ entry ∈ data, entry.1.Tame) {l : Location} (hl : ¬ l.Within t.location) :
    lastWrite t data l = none := by
  simp only [lastWrite, Option.map_eq_none', List.find?_eq_none, List.mem_reverse,
    decide_eq_true_eq]
  rintro entry hentry rfl
  exact hl (t.location_join_of_tame (htame entry hentry)).1.1

/-- **Publish, then unpublish.** When the backend answers only keys that are relative, have no `..`
and have a name, a successful `node_publish_volume` followed by the `remove_dir_all` of a successful
`node_unpublish_volume` leaves the files as they were before the publish, with the target path
removed: nothing the publish wrote survives. -/
theorem publish_then_unpublish {Context Selector : Type}
    {parseSelector : Context → Except DynError Selector}
    {getSecretData : Selector → Except BackendError (List (PathBuf × Bytes))} {fs : FileSystem}
    {request : NodePublishVolumeRequest Context} {sel : Selector} {data : List (PathBuf × Bytes)}
    (hsel : parseSelector request.volumeContext = .ok sel) (hdata : getSecretData sel = .ok data)
    (htame : ∀ entry ∈ data, entry.1.Tame)
    (hok : (nodePublishVolume parseSelector getSecretData fs request).2 = .ok ()) (files : Files) :
    removeTree (PathBuf.ofString request.targetPath).location
        ((nodePublishVolume parseSelector getSecretData fs request).1.foldl FsOp.apply files) =
      removeTree (PathBuf.ofString request.targetPath).location files := by
  funext l
  unfold removeTree
  split_ifs with hl
  · rfl
  · rw [nodePublishVolume_trace_of_ok hsel hdata hok, foldl_apply_publishCalls,
      lastWrite_eq_none_of_tame htame hl, Option.none_or]

/-- An answer with a single tame key. -/
def keytabOnly : List (PathBuf × Bytes) := [(.ofString "keytab", [0])]

theorem publish_then_unpublish_keytabOnly :
    (fun _ => .ok () : Unit → Except DynError Unit) () = .ok () ∧
    (fun _ => .ok keytabOnly : Unit → Except BackendError (List (PathBuf × Bytes))) () =
      .ok keytabOnly ∧
    (∀ entry ∈ keytabOnly, entry.1.Tame) ∧
    (nodePublishVolume (fun _ => .ok ()) (fun _ => .ok keytabOnly) (fun _ _ => none)
      ⟨"/vol", ()⟩).2 = .ok () ∧
    removeTree (PathBuf.ofString "/vol").location
        ((nodePublishVolume (fun _ => .ok ()) (fun _ => .ok keytabOnly) (fun _ _ => none)
          ⟨"/vol", ()⟩).1.foldl FsOp.apply (fun _ => none)) =
      removeTree (PathBuf.ofString "/vol").location (fun _ => none) := by
  have htame : ∀ entry ∈ keytabOnly, entry.1.Tame := by
    rintro _ (_ | ⟨_, ⟨⟩⟩)
    exact ⟨rfl, by decide, "keytab", by decide⟩
  have hok : (nodePublishVolume (fun _ => .ok ()) (fun _ => .ok keytabOnly) (fun _ _ => none)
      (⟨"/vol", ()⟩ : NodePublishVolumeRequest Unit)).2 = .ok () := rfl
  exact ⟨rfl, rfl, htame, hok, @publish_then_unpublish Unit Unit (fun _ => .ok ())
    (fun _ => .ok keytabOnly) (fun _ _ => none) ⟨"/vol", ()⟩ () keytabOnly rfl rfl htame hok _⟩

end SecretOperator
