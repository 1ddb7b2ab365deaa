import Mathlib.Logic.Function.Basic

/-!
# The backing `Secret`

`CredentialCache` keeps its credentials in one Kubernetes `Secret` and reads only its `data` map,
credential name to bytes. The `Secret`'s other fields (`metadata`, `type`, `immutable`,
`stringData`) are kept opaque as `rest`: the cache never reads them, and the merge patch it sends
does not name them.
-/

namespace SecretOperator

/-- `ByteString(Vec<u8>)`. -/
abbrev Bytes := List UInt8

/-- `Secret.data`, a `BTreeMap<String, ByteString>`, as its lookup function. -/
abbrev SecretData := String → Option Bytes

/-- A `Secret` object: its `data` map, which may be absent, and every other field as `rest`. -/
structure Secret (Rest : Type) where
  rest : Rest
  data : Option SecretData

variable {Rest : Type}

/-- The bytes under `key`: `secret.data.as_ref()?.get(key)`. -/
def Secret.get (secret : Secret Rest) (key : String) : Option Bytes := do
  let data ← secret.data
  data key

/-- The fields of a JSON merge patch of a `Secret` that can change it. `get_or_insert` sends
`Secret { data, ..Secret::default() }`, and the default fields serialise to nothing to merge. -/
structure SecretPatch where
  data : Option SecretData

/-- RFC 7386 on a `Secret`, as the API server applies it: a patched `data` map is merged key by key
into the current one, which is created if absent. `ByteString` values are never `null`, so no key is
removed, and fields the patch does not name are left alone. -/
def Secret.mergePatch (secret : Secret Rest) (patch : SecretPatch) : Secret Rest :=
  match patch.data with
  | none => secret
  | some patched => { secret with data := some fun key => (patched key).or (secret.get key) }

/-- The body `get_or_insert` patches with: `data: Some([(key.to_string(), ByteString(value))].into())`. -/
def SecretPatch.single (key : String) (value : Bytes) : SecretPatch :=
  { data := some fun other => if other = key then some value else none }

@[simp]
theorem Secret.get_mergePatch_single (secret : Secret Rest) (key other : String) (value : Bytes) :
    (secret.mergePatch (.single key value)).get other =
      if other = key then some value else secret.get other := by
  by_cases h : other = key <;> simp [Secret.mergePatch, SecretPatch.single, Secret.get, h]

@[simp]
theorem Secret.rest_mergePatch (secret : Secret Rest) (patch : SecretPatch) :
    (secret.mergePatch patch).rest = secret.rest := by
  unfold Secret.mergePatch
  split <;> rfl

/-- Every key of `secret` is a key of `other`. -/
def Secret.KeysSubset (secret other : Secret Rest) : Prop :=
  ∀ key, (secret.get key).isSome → (other.get key).isSome

@[refl]
theorem Secret.KeysSubset.refl (secret : Secret Rest) : secret.KeysSubset secret :=
  fun _ h => h

@[trans]
theorem Secret.KeysSubset.trans {a b c : Secret Rest} (hab : a.KeysSubset b)
    (hbc : b.KeysSubset c) : a.KeysSubset c :=
  fun key h => hbc key (hab key h)

/-- A merge patch of one key adds that key and keeps every other. -/
theorem Secret.keysSubset_mergePatch_single (secret : Secret Rest) (key : String) (value : Bytes) :
    secret.KeysSubset (secret.mergePatch (.single key value)) := by
  intro other h
  by_cases hk : other = key <;> simp [hk, h]

end SecretOperator
