import Mathlib.Logic.Function.Iterate
import SecretOperator.Node

/-!
# The message of a failed request

The `From` impls walk the error's `source()` chain, one step per cause, to append each cause's
text after the error's own. The loop body formats `err` where it means `curr_source`, so the message
repeats the error's own text once for every cause, and no cause's text appears in it.
-/

namespace SecretOperator

/-- The loop appends `": " ++ err` once for every error in the chain. -/
theorem pushSources_eq_foldl (err fullMsg : String) (source : DynError) :
    pushSources err fullMsg source =
      source.chain.foldl (fun msg _ => msg ++ ": " ++ err) fullMsg := by
  induction source generalizing fullMsg with
  | leaf _ => rfl
  | caused _ source ih => exact ih _

/-- **The message of a publish failure.** For every error and every `source()` chain below it, the
message is the error's own text, then `": "` and the error's own text again once per error in the
chain. -/
theorem PublishError.toStatus_message (err : PublishError) :
    err.toStatus.message =
      err.source.chain.foldl (fun msg _ => msg ++ ": " ++ err.display) err.display := by
  rw [← pushSources_eq_foldl]
  cases err <;> rfl

/-- The same for an unpublish failure. -/
theorem UnpublishError.toStatus_message (err : UnpublishError) :
    err.toStatus.message =
      err.source.chain.foldl (fun msg _ => msg ++ ": " ++ err.display) err.display :=
  pushSources_eq_foldl _ _ _

/-- **Causes never reach the client.** Two publish failures with the same text, whose `source()`
chains are as long, are answered with the same message, whatever their causes say. -/
theorem PublishError.toStatus_message_ignores_causes {err err' : PublishError}
    (hdisplay : err.display = err'.display)
    (hlength : err.source.chain.length = err'.source.chain.length) :
    err.toStatus.message = err'.toStatus.message := by
  rw [toStatus_message, toStatus_message, List.foldl_const, List.foldl_const, hdisplay, hlength]

theorem PublishError.toStatus_message_ignores_causes_createFile :
    (PublishError.createFile (.leaf "Permission denied (os error 13)") (.ofString "/vol")).display =
      (PublishError.createFile (.leaf "No space left on device (os error 28)")
        (.ofString "/vol")).display ∧
    (PublishError.createFile (.leaf "Permission denied (os error 13)")
      (.ofString "/vol")).source.chain.length =
      (PublishError.createFile (.leaf "No space left on device (os error 28)")
        (.ofString "/vol")).source.chain.length ∧
    (PublishError.createFile (.leaf "Permission denied (os error 13)")
      (.ofString "/vol")).toStatus.message =
      (PublishError.createFile (.leaf "No space left on device (os error 28)")
        (.ofString "/vol")).toStatus.message :=
  ⟨rfl, rfl, toStatus_message_ignores_causes rfl rfl⟩

/-- The message meant: the error's own text, then `": "` and the text of each error in its
`source()` chain, in order. -/
def causeMessage (display : String) (source : DynError) : String :=
  source.chain.foldl (fun msg cause => msg ++ ": " ++ cause) display

/-- A parent directory that cannot be created: the message names the directory twice and never
says why. -/
theorem createDir_message_repeats_display :
    (PublishError.createDir (.leaf "Permission denied (os error 13)") (.ofString "/vol")).toStatus =
      ⟨.unavailable, "failed to create secret parent dir /vol: failed to create secret parent dir /vol"⟩ ∧
    (PublishError.createDir (.leaf "Permission denied (os error 13)") (.ofString "/vol")).toStatus.message ≠
      causeMessage "failed to create secret parent dir /vol" (.leaf "Permission denied (os error 13)") := by
  decide

end SecretOperator
