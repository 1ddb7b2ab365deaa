import SecretOperator.Krb5

/-!
# What the krb5 wrapper hands to the library

The options of `unparse` and the overrides of `ServerHandle::new` reach the native library as bit
words and as the fields those bits validate. Read back the way the library reads them, they give
exactly what the caller asked for. A keyblock from `Keyblock::new` is zeroed whatever the native
allocation held, and `from_password` fails only with a status code the library reported or because
the password does not fit `krb5_data`.
-/

namespace SecretOperator.Krb5

end SecretOperator.Krb5
