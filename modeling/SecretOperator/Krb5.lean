import Mathlib.Algebra.Group.Nat.Basic
import Mathlib.Data.List.Basic
import SecretOperator.Secret

/-!
# The krb5 wrapper

The crate `krb5` (`rust/krb5/src/lib.rs` and `kadm5.rs`) wraps libkrb5 and libkadm5. Each wrapper
makes one native call, checks the status code it returns, and on failure copies the library's
message out at once. The native calls are parameters here: what each one answers. The `KRB5_*`
and `KADM5_*` constants come from the generated bindings, which are not under `src/`; each is a
single bit, and is given by its position. Handles, their lifetimes and the `Drop` impls are left to
the borrow checker and are not modelled.
-/

namespace SecretOperator.Krb5

/-- `Krb5Error`: the message the library rendered and the status code. -/
structure Krb5Error where
  message : String
  code : Int
  deriving DecidableEq, Repr

/-- `krb5::Error`. -/
inductive Error where
  | krb5 (reason : Krb5Error)
  | stringTooLong (stringName : String)
  deriving DecidableEq, Repr

/-- The `#[snafu(display(..))]` texts. -/
def Error.display : Error → String
  | .krb5 reason => reason.message
  | .stringTooLong stringName => stringName ++ " is too long"

/-- `Error::from_call_result`: `errorMessage` is `krb5_get_error_message`, asked only on failure. -/
def Error.fromCallResult (errorMessage : Int → String) (code : Int) : Except Error Unit :=
  if code = 0 then .ok () else .error (.krb5 ⟨errorMessage code, code⟩)

/-- `PrincipalRealmDisplayMode`. -/
inductive PrincipalRealmDisplayMode where
  | always | ifForeign | never
  deriving DecidableEq, Repr

/-- `PrincipalUnparseOptions`; its `Default` is `always` and `false`. -/
structure PrincipalUnparseOptions where
  realm : PrincipalRealmDisplayMode := .always
  forDisplay : Bool := false
  deriving DecidableEq, Repr

/-- The positions of `KRB5_PRINCIPAL_UNPARSE_SHORT`, `_NO_REALM` and `_DISPLAY`: three bits. -/
structure UnparseBits where
  short : Nat
  noRealm : Nat
  display : Nat
  short_ne_noRealm : short ≠ noRealm
  short_ne_display : short ≠ display
  noRealm_ne_display : noRealm ≠ display

/-- `PrincipalUnparseOptions::to_flags`. -/
def PrincipalUnparseOptions.toFlags (bits : UnparseBits) (self : PrincipalUnparseOptions) : Nat :=
  let realm := match self.realm with
    | .always => 0
    | .ifForeign => 2 ^ bits.short
    | .never => 2 ^ bits.noRealm
  let forDisplay := match self.forDisplay with
    | true => 2 ^ bits.display
    | false => 0
  realm ||| forDisplay

/-- `Principal::unparse`: `unparseNameFlags` is `krb5_unparse_name_flags`. -/
def unparse (unparseNameFlags : Nat → Int × String) (errorMessage : Int → String) (bits : UnparseBits)
    (options : PrincipalUnparseOptions) : Except Error String := do
  let (code, name) := unparseNameFlags (options.toFlags bits)
  Error.fromCallResult errorMessage code
  return name

/-- `Display for Principal`. -/
def principalDisplay (unparseNameFlags : Nat → Int × String) (errorMessage : Int → String)
    (bits : UnparseBits) : String :=
  match unparse unparseNameFlags errorMessage bits {} with
  | .ok name => name
  | .error _ => "(invalid)"

/-! ### Keyblocks -/

/-- The fields of `krb5_keyblock` that the wrapper reads: the buffer holds `length` bytes. -/
structure Keyblock where
  enctype : Int
  length : UInt32
  contents : List UInt8
  deriving DecidableEq, Repr

/-- The width in bits of `usize` on the targets the operator is built for. -/
def usizeBits : Nat := 64

/-- `Keyblock::contents_mut` followed by `fill(value)`: the view covers the first `length` bytes,
and is the empty slice when `length` is zero. -/
def Keyblock.fillContents (self : Keyblock) (value : UInt8) : Except Error Keyblock :=
  if self.length > 0 then
    if self.length.toNat < 2 ^ usizeBits then
      .ok { self with
        contents := List.replicate self.length.toNat value ++ self.contents.drop self.length.toNat }
    else .error (.stringTooLong "keyblock")
  else .ok self

/-- `Keyblock::new`: `initKeyblock` is `krb5_init_keyblock`, which need not zero the buffer. -/
def Keyblock.new (initKeyblock : Int → UInt64 → Int × Keyblock) (errorMessage : Int → String)
    (enctype : Int) (len : UInt64) : Except Error Keyblock := do
  let (code, keyblock) := initKeyblock enctype len
  Error.fromCallResult errorMessage code
  keyblock.fillContents 0

/-- `ConfigParams`. -/
structure ConfigParams where
  defaultRealm : Option String := none
  adminServer : Option String := none
  kadmindPort : Option Int := none
  deriving DecidableEq, Repr

/-- The positions of `KADM5_CONFIG_REALM`, `_ADMIN_SERVER` and `_KADMIND_PORT`: three bits. -/
structure ConfigBits where
  realm : Nat
  adminServer : Nat
  kadmindPort : Nat
  realm_ne_adminServer : realm ≠ adminServer
  realm_ne_kadmindPort : realm ≠ kadmindPort
  adminServer_ne_kadmindPort : adminServer ≠ kadmindPort

/-- The fields of `kadm5_config_params` that `as_c` writes; a null pointer is `none`. -/
structure KadmConfigParams where
  mask : Nat
  realm : Option String
  adminServer : Option String
  kadmindPort : Int
  deriving DecidableEq, Repr

/-- `ConfigParams::as_c`, from `std::mem::zeroed`. -/
def ConfigParams.asC (bits : ConfigBits) (self : ConfigParams) : KadmConfigParams :=
  let c : KadmConfigParams := ⟨0, none, none, 0⟩
  let c := match self.defaultRealm with
    | some defaultRealm => { c with realm := some defaultRealm, mask := c.mask ||| 2 ^ bits.realm }
    | none => c
  let c := match self.adminServer with
    | some adminServer =>
      { c with adminServer := some adminServer, mask := c.mask ||| 2 ^ bits.adminServer }
    | none => c
  match self.kadmindPort with
  | some kadmindPort =>
    { c with kadmindPort := kadmindPort, mask := c.mask ||| 2 ^ bits.kadmindPort }
  | none => c

/-- `kadm5::Error::from_ret`: `ok` is `KADM5_OK`. -/
def kadm5FromRet (ok code : Int) : Except Int Unit :=
  if code = ok then .ok () else .error code

/-- `Credential`. -/
inductive Credential where
  | serviceKey (keytab : String)

/-- `ServerHandle::new`: `initWithSkey` is `kadm5_init_with_skey`, given the client name, the
keytab, the service name (`none` for a null pointer) and the parameters. -/
def ServerHandle.new (initWithSkey : String → String → Option String → KadmConfigParams → Int)
    (ok : Int) (bits : ConfigBits) (clientName : String) (serviceName : Option String)
    (credential : Credential) (params : ConfigParams) : Except Int Unit :=
  let params := params.asC bits
  match credential with
  | .serviceKey keytab => kadm5FromRet ok (initWithSkey clientName keytab serviceName params)

end SecretOperator.Krb5
