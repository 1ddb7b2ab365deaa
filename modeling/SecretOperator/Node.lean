import SecretOperator.Path
import SecretOperator.Secret

/-!
# The node service

`SecretProvisionerNode` (`src/main.rs`) publishes a volume by asking the backend for the secret's
files and writing each one under the volume's target path, and unpublishes it by removing the
target path. A failure becomes a `tonic::Status` whose message is the error's text followed by its
`source()` chain, as the `From` impls build it.

The selector parser and the backend (`backend::K8sSearch`) are not under `src/`: they are
parameters here, as is the filesystem, which answers each call given the calls before it. The
other endpoints answer constant values and are not modelled.
-/

namespace SecretOperator

/-- A `dyn std::error::Error` as a `source()` chain: its `Display` text, and the error that caused
it, if any. -/
inductive DynError where
  | leaf (display : String)
  | caused (display : String) (source : DynError)
  deriving DecidableEq, Repr

/-- `Display` of the error. -/
def DynError.display : DynError → String
  | .leaf display | .caused display _ => display

/-- `std::error::Error::source`. -/
def DynError.source : DynError → Option DynError
  | .leaf _ => none
  | .caused _ source => some source

/-- The `Display` texts of the error and of every error below it, in `source()` order. -/
def DynError.chain : DynError → List String
  | .leaf display => [display]
  | .caused display source => display :: source.chain

/-- `tonic::Code`. -/
inductive Code where
  | ok | cancelled | unknown | invalidArgument | deadlineExceeded | notFound | alreadyExists
  | permissionDenied | resourceExhausted | failedPrecondition | aborted | outOfRange
  | unimplemented | internal | unavailable | dataLoss | unauthenticated
  deriving DecidableEq, Repr

/-- `tonic::Status`. -/
structure Status where
  code : Code
  message : String
  deriving DecidableEq, Repr

/-- `backend::k8s_search::Error`, with the code its `grpc_code()` gives. -/
structure BackendError where
  error : DynError
  grpcCode : Code
  deriving DecidableEq, Repr

/-- `PublishError`. -/
inductive PublishError where
  | invalidSelector (source : DynError)
  | backendGetSecretData (source : BackendError)
  | createDir (source : DynError) (path : PathBuf)
  | createFile (source : DynError) (path : PathBuf)
  | writeFile (source : DynError) (path : PathBuf)

/-- The `#[error(..)]` texts. -/
def PublishError.display : PublishError → String
  | .invalidSelector _ => "failed to parse selector from volume context"
  | .backendGetSecretData _ => "backend failed to get secret data"
  | .createDir _ path => "failed to create secret parent dir " ++ path.display
  | .createFile _ path => "failed to create secret file " ++ path.display
  | .writeFile _ path => "failed to write secret file " ++ path.display

/-- The `#[source]` field: every variant has one. -/
def PublishError.source : PublishError → DynError
  | .invalidSelector source | .createDir source _ | .createFile source _
  | .writeFile source _ => source
  | .backendGetSecretData source => source.error

/-- `UnpublishError`. -/
inductive UnpublishError where
  | cleanup (source : DynError) (path : PathBuf)

def UnpublishError.display : UnpublishError → String
  | .cleanup _ path => "failed to clean up volume mount directory " ++ path.display

def UnpublishError.source : UnpublishError → DynError
  | .cleanup source _ => source

/-- The `while let` loop of the `From` impls (lines 88–91 and 114–117), entered with
`curr_err = Some(curr_source)`: it pushes `": {err}"`, then moves to `curr_source.source()`. -/
def pushSources (err : String) (fullMsg : String) : DynError → String
  | .leaf _ => fullMsg ++ ": " ++ err
  | .caused _ source => pushSources err (fullMsg ++ ": " ++ err) source

/-- `full_msg` after the loop, for an error displaying as `display` whose `source()` is `source`. -/
def fullMessage (display : String) : Option DynError → String
  | none => display
  | some currSource => pushSources display display currSource

/-- `From<PublishError> for tonic::Status`. -/
def PublishError.toStatus (err : PublishError) : Status :=
  let fullMsg := fullMessage err.display (some err.source)
  match err with
  | .invalidSelector _ => ⟨.invalidArgument, fullMsg⟩
  | .backendGetSecretData source => ⟨source.grpcCode, fullMsg⟩
  | .createDir _ _ | .createFile _ _ | .writeFile _ _ => ⟨.unavailable, fullMsg⟩

/-- `From<UnpublishError> for tonic::Status`. -/
def UnpublishError.toStatus (err : UnpublishError) : Status :=
  ⟨.unavailable, fullMessage err.display (some err.source)⟩

/-! ### Publishing -/

/-- A filesystem call of `save_secret_data`. -/
inductive FsOp where
  | createDirAll (path : PathBuf)
  | create (path : PathBuf)
  | writeAll (path : PathBuf) (contents : Bytes)

/-- The path a call acts on. -/
def FsOp.path : FsOp → PathBuf
  | .createDirAll path | .create path | .writeAll path _ => path

/-- How the filesystem answers a call, given the calls made before it: `none` for success. -/
abbrev FileSystem := List FsOp → FsOp → Option DynError

/-- The calls `save_secret_data` makes for the entry `k`, in order, each with the error its failure
becomes (lines 135–146). -/
def entryCalls (targetPath k : PathBuf) (v : Bytes) : List (FsOp × (DynError → PublishError)) :=
  let itemPath := targetPath.join k
  (match itemPath.parent with
    | some itemPathParent =>
      [(.createDirAll itemPathParent, fun err => .createDir err itemPathParent)]
    | none => []) ++
  [(.create itemPath, fun err => .createFile err targetPath),
    (.writeAll itemPath v, fun err => .writeFile err targetPath)]

/-- Make the calls in order until one fails; the trace holds every call made. -/
def runCalls (fs : FileSystem) :
    List (FsOp × (DynError → PublishError)) → List FsOp → List FsOp × Except PublishError Unit
  | [], trace => (trace, .ok ())
  | (op, wrap) :: calls, trace =>
    match fs trace op with
    | some err => (trace ++ [op], .error (wrap err))
    | none => runCalls fs calls (trace ++ [op])

/-- `save_secret_data`, over the map's entries in its iteration order. -/
def saveSecretData (fs : FileSystem) (targetPath : PathBuf) (data : List (PathBuf × Bytes)) :
    List FsOp × Except PublishError Unit :=
  runCalls fs (data.flatMap fun entry => entryCalls targetPath entry.1 entry.2) []

/-- The fields of `NodePublishVolumeRequest` that `node_publish_volume` reads. -/
structure NodePublishVolumeRequest (Context : Type) where
  targetPath : String
  volumeContext : Context

/-- `node_publish_volume`, given how the volume context parses to a selector and what the backend
answers. -/
def nodePublishVolume {Context Selector : Type} (parseSelector : Context → Except DynError Selector)
    (getSecretData : Selector → Except BackendError (List (PathBuf × Bytes))) (fs : FileSystem)
    (request : NodePublishVolumeRequest Context) : List FsOp × Except Status Unit :=
  let targetPath := PathBuf.ofString request.targetPath
  match parseSelector request.volumeContext with
  | .error err => ([], .error (PublishError.invalidSelector err).toStatus)
  | .ok sel =>
    match getSecretData sel with
    | .error err => ([], .error (PublishError.backendGetSecretData err).toStatus)
    | .ok data =>
      match saveSecretData fs targetPath data with
      | (trace, .ok ()) => (trace, .ok ())
      | (trace, .error err) => (trace, .error err.toStatus)

/-- `node_unpublish_volume`, given how `remove_dir_all` answers. -/
def nodeUnpublishVolume (removeDirAll : PathBuf → Option DynError) (targetPath : String) :
    Except Status Unit :=
  match removeDirAll (PathBuf.ofString targetPath) with
  | some err => .error (UnpublishError.cleanup err (PathBuf.ofString targetPath)).toStatus
  | none => .ok ()

end SecretOperator
