import SecretOperator.Secret
import SecretOperator.CredentialCache
import SecretOperator.GetOrInsert
import SecretOperator.Path
import SecretOperator.Node
import SecretOperator.Proof.Call
import SecretOperator.Proof.Growth
import SecretOperator.Proof.Agreement
import SecretOperator.Proof.ErrorChain
import SecretOperator.Proof.Confinement
import SecretOperator.Proof.Publish
import SecretOperator.Krb5
import SecretOperator.Proof.Krb5
import SecretOperator.Proof.Sequential
import SecretOperator.Proof.Views
