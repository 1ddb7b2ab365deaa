import SecretOperator.Secret

/-!
# `CredentialCache`

The state of one cache instance (`krb5-provision-keytab/src/credential_cache.rs`) and what it sends
and reports: the lookup in its last-loaded copy of the backing `Secret`, the merge patch that saves a
generated credential, and the errors it wraps. How `get_or_insert` runs against the API server, cut
at its `.await` points, is in `SecretOperator.GetOrInsert`.

The `name` field is read only by tracing, and `secrets` is the API client, which the model replaces
by the API server itself; neither is kept.
-/

namespace SecretOperator

/-- `SecretReference`: where the backing `Secret` lives. `ns` is the source's `namespace`, which is a
Lean keyword. -/
structure SecretReference where
  ns : String
  name : String
  deriving DecidableEq, Repr

/-- `OPERATOR_NAME`. -/
def operatorName : String := "secrets.stackable.tech"

/-- `FIELD_MANAGER_SCOPE`. -/
def fieldManagerScope : String := "krb5-provision-keytab"

/-- The merge patch request of a save: `secrets.patch(name, &PatchParams { field_manager, .. }, &patch)`. -/
structure PatchRequest where
  name : String
  fieldManager : Option String
  body : SecretPatch

/-- The errors of `credential_cache.rs`, each with the `kube::Error` it wraps (of type `K`) and the
identity of the backing `Secret`; none holds a credential value. -/
inductive Error (K : Type) where
  | getInitialCache (source : K) (cacheRef : SecretReference)
  | saveToCache (source : K) (key : String) (cacheRef : SecretReference)
  | savedKeyNotFound (key : String) (cacheRef : SecretReference)
  deriving DecidableEq, Repr

variable {Rest K : Type}

/-- The `#[snafu(display(..))]` texts, given how an `ObjectRef<Secret>` displays. -/
def Error.display (showRef : SecretReference → String) : Error K → String
  | .getInitialCache _ cacheRef => "failed to load initial cache from " ++ showRef cacheRef
  | .saveToCache _ key cacheRef => "failed to save credential " ++ key ++ " to " ++ showRef cacheRef
  | .savedKeyNotFound key cacheRef =>
    "newly saved credential " ++ key ++ " was not found in " ++ showRef cacheRef

/-- The `Secret` an error is about. -/
def Error.cacheRef : Error K → SecretReference
  | .getInitialCache _ cacheRef | .saveToCache _ _ cacheRef | .savedKeyNotFound _ cacheRef =>
    cacheRef

/-- The fields of `CredentialCache` that `get_or_insert` reads or writes. -/
structure CredentialCache (Rest : Type) where
  cacheRef : SecretReference
  currentState : Secret Rest

/-- `CredentialCache::new`: the `GET` of the backing `Secret` becomes the first local state. -/
def CredentialCache.new (cacheRef : SecretReference) (get : Except K (Secret Rest)) :
    Except (Error K) (CredentialCache Rest) :=
  match get with
  | .ok currentState => .ok { cacheRef, currentState }
  | .error source => .error (.getInitialCache source cacheRef)

/-- `get_if_present`: `Some(&self.current_state.data.as_ref()?.get(key)?.0)`. -/
def CredentialCache.getIfPresent (self : CredentialCache Rest) (key : String) : Option Bytes :=
  self.currentState.get key

/-- The request `get_or_insert` sends to save `value` under `key` (lines 105–119). -/
def CredentialCache.saveRequest (self : CredentialCache Rest) (key : String) (value : Bytes) :
    PatchRequest :=
  { name := self.cacheRef.name
    fieldManager := some (operatorName ++ "/" ++ fieldManagerScope)
    body := .single key value }

@[simp]
theorem CredentialCache.saveRequest_body (self : CredentialCache Rest) (key : String)
    (value : Bytes) : (self.saveRequest key value).body = .single key value := rfl

/-- What the API server does with a merge patch to `record`: it rejects it (`verdict`), or applies
it, and then the patched `Secret` reaches the caller unless the call fails on the way back
(`failure`). The record afterwards, and what `secrets.patch(..).await` gives. -/
def apiPatch (verdict failure : Option K) (record : Secret Rest) (request : PatchRequest) :
    Secret Rest × Except K (Secret Rest) :=
  match verdict with
  | some source => (record, .error source)
  | none =>
    let record := record.mergePatch request.body
    match failure with
    | some source => (record, .error source)
    | none => (record, .ok record)

/-- `get_or_insert` (lines 80–141), as one function of what its `.await`s give: the generator
`mkValue`, called with the cache reference of its `Ctx`, and the API server `patch`, which answers
from the record it holds and returns the record afterwards. -/
def CredentialCache.getOrInsert {E : Type} (self : CredentialCache Rest) (record : Secret Rest)
    (key : String) (mkValue : SecretReference → Except E Bytes)
    (patch : Secret Rest → PatchRequest → Secret Rest × Except K (Secret Rest)) :
    CredentialCache Rest × Secret Rest × Except (Error K) (Except E Bytes) :=
  if h : (self.getIfPresent key).isSome then
    (self, record, .ok (.ok ((self.getIfPresent key).get h)))
  else
    match mkValue self.cacheRef with
    | .error err => (self, record, .ok (.error err))
    | .ok value =>
      match patch record (self.saveRequest key value) with
      | (record, .error source) => (self, record, .error (.saveToCache source key self.cacheRef))
      | (record, .ok currentState) =>
        let self := { self with currentState }
        (self, record, match self.getIfPresent key with
          | some value => .ok (.ok value)
          | none => .error (.savedKeyNotFound key self.cacheRef))

/-- The error of a failed `new` names the `Secret` it tried to load. -/
theorem CredentialCache.new_error_cacheRef {cacheRef : SecretReference}
    {get : Except K (Secret Rest)} {err : Error K}
    (h : CredentialCache.new cacheRef get = .error err) : err.cacheRef = cacheRef := by
  cases get <;> simp only [CredentialCache.new, Except.error.injEq, reduceCtorEq] at h
  subst h
  rfl

end SecretOperator
