import ZboxSdk.Mask

/-!
# Errors, tickets and request objects

The values `allocation.go` passes around: the errors it returns, the decoded auth ticket,
the file reference a list consensus yields and its `ConsolidatedFileMeta` projection, the
single-use request objects each operation builds, and the price ranges `IsValid` checks.
Every record keeps the fields the file sets or reads, under the file's own names; a field
that only a collaborator outside the file reads is left out (see `MODEL_MAP.json`).
-/

namespace ZboxSdk

/-- A Go `error` as this file builds one: `common.NewError(code, msg)`, or the bare message
of `errors.New` and `fmt.Errorf`. -/
inductive SdkError
  | coded (code msg : String)
  | plain (msg : String)
  deriving DecidableEq

/-- `noBLOBBERS`. -/
def noBLOBBERS : SdkError := .plain "No Blobbers set in this allocation"

/-- `notInitialized`. -/
def notInitialized : SdkError :=
  .coded "sdk_not_initialized"
    "Please call InitStorageSDK Init and use GetAllocation to get the allocation object"

/-- `underRepair`, the error of every mutating call while a repair is outstanding. -/
def underRepair : SdkError :=
  .coded "allocaton_under_repair" "Allocation is under repair, Please try again later"

/-- The `invalid_path` error that follows a failed `zboxutil.IsRemoteAbs` check. -/
def notAbsolute : SdkError := .coded "invalid_path" "Path should be valid and absolute"

/-- The `invalid_path` error of an empty path (and, in the ticket operations, of an empty
path hash or lookup hash). -/
def invalidListPath : SdkError := .coded "invalid_path" "Invalid path for the list"

/-- Whether an error is one of the `invalid_path` errors. -/
def SdkError.IsInvalidPath : SdkError → Prop
  | .coded code _ => code = "invalid_path"
  | .plain _ => False

/-- A `context.Context` as the allocation derives it: the background context and its
cancellable children. -/
inductive Context
  | background
  | withCancel (parent : Context)
  deriving DecidableEq

/-- `blockchain.StorageNode`, known here by its id. -/
structure StorageNode where
  id : String
  deriving DecidableEq

/-- `marker.AuthTicket`, with the one field this file checks. -/
structure AuthTicket where
  filePathHash : String
  deriving DecidableEq

/-- `fileref.CommitMetaTxn`, carried from a file reference into its meta unchanged. -/
structure CommitMetaTxn where
  txnID : String
  deriving DecidableEq

/-- `*fileref.FileRef` as `getFileConsensusFromBlobbers` returns it. -/
structure FileRef where
  type : String
  name : String
  actualFileHash : String
  lookupHash : String
  mimeType : String
  path : String
  actualFileSize : Int
  encryptedKey : String
  commitMetaTxns : List CommitMetaTxn
  deriving DecidableEq

/-- `ConsolidatedFileMeta`: the projection of a quorum-selected file reference. -/
structure ConsolidatedFileMeta where
  name : String
  type : String
  path : String
  lookupHash : String
  hash : String
  mimeType : String
  size : Int
  encryptedKey : String
  commitMetaTxns : List CommitMetaTxn
  deriving DecidableEq

/-- `*ListResult`, returned by the list protocol and handed back unchanged; none of its
fields is read here. -/
structure ListResult where
  deriving DecidableEq

/-- `*FileStats`, returned per blobber by the stats protocol and handed back unchanged. -/
structure FileStats where
  deriving DecidableEq

/-- What `os.Stat` reports of an existing local path. -/
structure FileInfo where
  isDir : Bool
  size : Int
  deriving DecidableEq

/-- `ListRequest`, as the list, meta, stats and repair paths fill it in. -/
structure ListRequest where
  allocationID : String
  allocationTx : String
  blobbers : List StorageNode
  fullconsensus : Int
  ctx : Option Context
  remotefilepath : String
  remotefilepathhash : String
  authToken : Option AuthTicket
  deriving DecidableEq

/-- `UploadFileMeta`. -/
structure UploadFileMeta where
  name : String
  size : Int
  path : String
  thumbnailSize : Int
  deriving DecidableEq

/-- `UploadRequest`. Its `completedCallback` deletes the local path it is called with from
`uploadProgressMap`, the same closure for every upload, so it is not a field here. -/
structure UploadRequest where
  remotefilepath : String
  thumbnailpath : String
  filepath : String
  filemeta : UploadFileMeta
  remaining : Int
  thumbRemaining : Int
  isUpdate : Bool
  isRepair : Bool
  datashards : Int
  parityshards : Int
  uploadMask : BitVec 32
  fullconsensus : Int
  isEncrypted : Bool
  deriving DecidableEq

/-- `DOWNLOAD_CONTENT_FULL` and `DOWNLOAD_CONTENT_THUMB`. -/
inductive ContentMode
  | full
  | thumb
  deriving DecidableEq

/-- Which argument a download's `completedCallback` deletes from `downloadProgressMap`:
`downloadFile`'s closure deletes the remote path, `downloadFromAuthTicket`'s the hash. -/
inductive DownloadCallback
  | remotepath
  | remotepathHash
  deriving DecidableEq

/-- `DownloadRequest`. -/
structure DownloadRequest where
  allocationID : String
  allocationTx : String
  ctx : Option Context
  localpath : String
  remotefilepath : String
  remotefilepathhash : String
  authTicket : Option AuthTicket
  downloadMask : BitVec 32
  blobbers : List StorageNode
  datashards : Int
  parityshards : Int
  numBlocks : Int
  fullconsensus : Int
  completedCallback : DownloadCallback
  contentMode : ContentMode
  deriving DecidableEq

/-- `DeleteRequest`. -/
structure DeleteRequest where
  blobbers : List StorageNode
  allocationID : String
  allocationTx : String
  fullconsensus : Int
  ctx : Option Context
  remotefilepath : String
  deleteMask : BitVec 32
  listMask : BitVec 32
  deriving DecidableEq

/-- `RenameRequest`. -/
structure RenameRequest where
  blobbers : List StorageNode
  allocationID : String
  allocationTx : String
  newName : String
  fullconsensus : Int
  ctx : Option Context
  remotefilepath : String
  renameMask : BitVec 32
  deriving DecidableEq

/-- `CopyRequest`. -/
structure CopyRequest where
  blobbers : List StorageNode
  allocationID : String
  allocationTx : String
  destPath : String
  fullconsensus : Int
  ctx : Option Context
  remotefilepath : String
  copyMask : BitVec 32
  deriving DecidableEq

/-- `fileref.FILE` and `fileref.DIRECTORY`. -/
inductive RefType
  | file
  | directory
  deriving DecidableEq

/-- `ShareRequest`. -/
structure ShareRequest where
  allocationID : String
  blobbers : List StorageNode
  ctx : Option Context
  remotefilepath : String
  remotefilename : String
  refType : RefType
  deriving DecidableEq

/-- `CommitMetaRequest`: its `CommitMetaData` and the ticket it carries. A nil `MetaData`
pointer is `none`. -/
structure CommitMetaRequest where
  crudType : String
  metaData : Option ConsolidatedFileMeta
  authToken : String
  deriving DecidableEq

/-- A request handed to a blobber protocol, synchronously or (for a meta commit) in a
goroutine of its own. -/
inductive Request
  | list (r : ListRequest)
  | delete (r : DeleteRequest)
  | rename (r : RenameRequest)
  | copy (r : CopyRequest)
  | share (r : ShareRequest)
  | commitMeta (r : CommitMetaRequest)
  deriving DecidableEq

/-- A request sent to the dispatcher through `uploadChan` or `downloadChan`. -/
inductive AsyncRequest
  | upload (r : UploadRequest)
  | download (r : DownloadRequest)
  deriving DecidableEq

/-- Modelled from the spec: `processUpload` and `processDownload` are not in the source.
Each ends by calling its request's `completedCallback` with the request's own paths, so
this is the key the callback deletes from its progress map. -/
def AsyncRequest.completedKey : AsyncRequest → String
  | .upload r => r.filepath
  | .download r =>
    match r.completedCallback with
    | .remotepath => r.remotefilepath
    | .remotepathHash => r.remotefilepathhash

/-- Whether a request goes to `uploadChan` (and `uploadProgressMap`). -/
def AsyncRequest.isUpload : AsyncRequest → Bool
  | .upload _ => true
  | .download _ => false

/-- `PriceRange`: the read or write prices a user accepts, to filter blobbers. The bounds are
`int64`, which `IsValid` only compares, so integers model them exactly. -/
structure PriceRange where
  min : Int
  max : Int
  deriving DecidableEq

/-- `PriceRange.IsValid`. -/
def PriceRange.isValid (pr : PriceRange) : Bool :=
  0 ≤ pr.min && pr.min ≤ pr.max

/-- A price range is valid exactly when it holds some price and every price in it is
non-negative. -/
theorem PriceRange.isValid_iff (pr : PriceRange) :
    pr.isValid = true ↔
      (∃ p, pr.min ≤ p ∧ p ≤ pr.max) ∧ ∀ p, pr.min ≤ p → p ≤ pr.max → 0 ≤ p := by
  simp only [isValid, Bool.and_eq_true, decide_eq_true_eq]
  constructor
  · rintro ⟨h0, hle⟩
    exact ⟨⟨pr.min, Int.le_refl _, hle⟩, fun p hp _ => Int.le_trans h0 hp⟩
  · rintro ⟨⟨p, hp, hq⟩, hnn⟩
    exact ⟨hnn _ (Int.le_refl _) (Int.le_trans hp hq), Int.le_trans hp hq⟩

example : (PriceRange.mk 0 5).isValid = true ∧ (PriceRange.mk (-1) 5).isValid = false ∧
    (PriceRange.mk 3 2).isValid = false := by
  decide

end ZboxSdk
