import ZboxSdk.World

/-!
# Uploads and repair

`uploadOrUpdateFile` and the nine public operations over it. After its guards it builds
one `UploadRequest` addressed to every blobber; a repair first reads the file's list
consensus, narrows the upload mask to the blobbers missing from the found mask, lowers
`fullconsensus` by `bits.TrailingZeros32` of the new mask, and marks the allocation under
repair. The request then goes to a goroutine that enqueues and registers it.
-/

namespace ZboxSdk

/-- The `UploadRequest` that `uploadOrUpdateFile` fills in for a local file of `size` bytes
and the full remote path `remotepath`, before the repair branch. -/
def newUploadRequest (a : Allocation) (localpath remotepath thumbnailpath : String)
    (size thumbnailSize : Int) (isUpdate encryption isRepair : Bool) : UploadRequest where
  remotefilepath := remotepath
  thumbnailpath := thumbnailpath
  filepath := localpath
  filemeta := { name := (filepathSplit remotepath).2, size := size, path := remotepath,
                thumbnailSize := thumbnailSize }
  remaining := size
  thumbRemaining := thumbnailSize
  isUpdate := isUpdate
  isRepair := isRepair
  datashards := a.dataShards
  parityshards := a.parityShards
  uploadMask := fullMask a.blobbers.length
  fullconsensus := a.fullconsensus
  isEncrypted := encryption

/-- The repair branch's narrowing: `uploadMask = ^found & uploadMask`, and `fullconsensus`
less `bits.TrailingZeros32` of the new mask. -/
def UploadRequest.narrowForRepair (r : UploadRequest) (found : BitVec 32) : UploadRequest :=
  { r with
    uploadMask := ~~~found &&& r.uploadMask
    fullconsensus := r.fullconsensus - trailingZeros32 (~~~found &&& r.uploadMask) }

/-- The `ListRequest` a repair (and `GetFileMeta`) sends for a remote path. -/
def pathListRequest (a : Allocation) (path : String) : ListRequest where
  allocationID := a.id
  allocationTx := a.tx
  blobbers := a.blobbers
  fullconsensus := a.fullconsensus
  ctx := a.ctx
  remotefilepath := path
  remotefilepathhash := ""
  authToken := none

section

variable {Fs Ns : Type} (env : Env Fs Ns)

/-- The thumbnail of an upload: a thumbnail path that `os.Stat` rejects is dropped, with
size `0`. -/
def thumbnailOf (fs : Fs) (thumbnailpath : String) : Int × String :=
  if thumbnailpath.length > 0 then
    match env.stat fs thumbnailpath with
    | .error _ => (0, "")
    | .ok info => (info.size, thumbnailpath)
  else (0, thumbnailpath)

/-- The tail of `uploadOrUpdateFile` once its request is built: the repair branch, then the
goroutine that enqueues the request and registers it under `localpath`. -/
def enqueueUpload (w : World Fs Ns) (uploadReq : UploadRequest) (localpath remotepath : String) :
    Except SdkError Unit × World Fs Ns :=
  if uploadReq.isRepair then
    let listReq := pathListRequest w.alloc remotepath
    let w := w.build (.list listReq)
    match env.getFileConsensusFromBlobbers w.ns listReq with
    | (_, none) => (.error (.plain "File not found for the given remotepath"), w)
    | (found, some _) =>
      if found = uploadReq.uploadMask then (.error (.plain "No repair required"), w) else
      (.ok (), (w.updateRepairStatus true).spawn (.upload (uploadReq.narrowForRepair found))
        localpath)
  else (.ok (), w.spawn (.upload uploadReq) localpath)

/-- `uploadOrUpdateFile`. The status callback is left out: nothing here calls it. -/
def uploadOrUpdateFile (w : World Fs Ns) (localpath remotepath : String) (isUpdate : Bool)
    (thumbnailpath : String) (encryption isRepair : Bool) : Except SdkError Unit × World Fs Ns :=
  w.whenWritable <|
  match env.stat w.fs localpath with
  | .error e => (.error (.plain ("Local file error: " ++ e)), w)
  | .ok fileInfo =>
    let thumbnail := thumbnailOf env w.fs thumbnailpath
    let remotepath := env.remoteClean remotepath
    if !env.isRemoteAbs remotepath then (.error notAbsolute, w) else
    let remotepath := env.getFullRemotePath localpath remotepath
    enqueueUpload env w (newUploadRequest w.alloc localpath remotepath thumbnail.2 fileInfo.size
      thumbnail.1 isUpdate encryption isRepair) localpath remotepath

/-- `UpdateFile`. -/
def updateFile (w : World Fs Ns) (localpath remotepath : String) :=
  uploadOrUpdateFile env w localpath remotepath true "" false false

/-- `UploadFile`. -/
def uploadFile (w : World Fs Ns) (localpath remotepath : String) :=
  uploadOrUpdateFile env w localpath remotepath false "" false false

/-- `RepairFile`. -/
def repairFile (w : World Fs Ns) (localpath remotepath : String) :=
  uploadOrUpdateFile env w localpath remotepath false "" false true

/-- `UpdateFileWithThumbnail`. -/
def updateFileWithThumbnail (w : World Fs Ns) (localpath remotepath thumbnailpath : String) :=
  uploadOrUpdateFile env w localpath remotepath true thumbnailpath false false

/-- `UploadFileWithThumbnail`. -/
def uploadFileWithThumbnail (w : World Fs Ns) (localpath remotepath thumbnailpath : String) :=
  uploadOrUpdateFile env w localpath remotepath false thumbnailpath false false

/-- `EncryptAndUpdateFile`. -/
def encryptAndUpdateFile (w : World Fs Ns) (localpath remotepath : String) :=
  uploadOrUpdateFile env w localpath remotepath true "" true false

/-- `EncryptAndUploadFile`. -/
def encryptAndUploadFile (w : World Fs Ns) (localpath remotepath : String) :=
  uploadOrUpdateFile env w localpath remotepath false "" true false

/-- `EncryptAndUpdateFileWithThumbnail`. -/
def encryptAndUpdateFileWithThumbnail (w : World Fs Ns)
    (localpath remotepath thumbnailpath : String) :=
  uploadOrUpdateFile env w localpath remotepath true thumbnailpath true false

/-- `EncryptAndUploadFileWithThumbnail`. -/
def encryptAndUploadFileWithThumbnail (w : World Fs Ns)
    (localpath remotepath thumbnailpath : String) :=
  uploadOrUpdateFile env w localpath remotepath false thumbnailpath true false

variable {w : World Fs Ns} {localpath remotepath thumbnailpath : String}
  {isUpdate encryption isRepair : Bool}

/-- An upload request is a repair exactly when the call was `RepairFile`. -/
@[simp] theorem newUploadRequest_isRepair (a : Allocation) (l r t : String) (s ts : Int)
    (u e rep : Bool) : (newUploadRequest a l r t s ts u e rep).isRepair = rep := rfl

/-- An upload request addresses every blobber of the allocation. -/
@[simp] theorem newUploadRequest_uploadMask (a : Allocation) (l r t : String) (s ts : Int)
    (u e rep : Bool) : (newUploadRequest a l r t s ts u e rep).uploadMask = fullMask a.blobbers.length :=
  rfl

/-- The enqueueing tail changes the allocation record only by setting `underRepair`, and
only for a repair that returns `nil`. -/
theorem enqueueUpload_alloc (r : UploadRequest) (l p : String) :
    (enqueueUpload env w r l p).2.alloc = w.alloc ∨
      (r.isRepair = true ∧ (enqueueUpload env w r l p).1 = .ok () ∧
        (enqueueUpload env w r l p).2.alloc = w.alloc.updateRepairStatus true) := by
  unfold enqueueUpload
  split
  · dsimp only
    split
    · simp
    · split <;> simp [*]
  · simp

/-- An upload call changes the allocation record only by setting `underRepair`, and only
in a repair that returns `nil`. -/
theorem uploadOrUpdateFile_alloc :
    let r := uploadOrUpdateFile env w localpath remotepath isUpdate thumbnailpath encryption isRepair
    r.2.alloc = w.alloc ∨
      (isRepair = true ∧ r.1 = .ok () ∧ r.2.alloc = w.alloc.updateRepairStatus true) := by
  unfold uploadOrUpdateFile World.whenWritable World.whenInitialized
  split
  · split
    · simp
    · split
      · simp
      · dsimp only
        split
        · simp
        · exact enqueueUpload_alloc env _ _ _
  · simp

/-- An upload or update that is not a repair never changes the allocation record. -/
theorem uploadOrUpdateFile_alloc_of_not_repair :
    (uploadOrUpdateFile env w localpath remotepath isUpdate thumbnailpath encryption false).2.alloc =
      w.alloc :=
  (uploadOrUpdateFile_alloc env).resolve_right fun h => Bool.false_ne_true h.1

/-- An upload call leaves the jobs as they were, or spawns one whose callback deletes the
local path it registers under. -/
theorem uploadOrUpdateFile_jobs :
    let r := uploadOrUpdateFile env w localpath remotepath isUpdate thumbnailpath encryption isRepair
    r.2.jobs = w.jobs ∨ ∃ a : AsyncRequest, a.completedKey = localpath ∧
      r.2.jobs = w.jobs ++ [⟨a, localpath, .sending, .idle, false⟩] := by
  unfold uploadOrUpdateFile World.whenWritable World.whenInitialized enqueueUpload
  split
  · split
    · exact .inl rfl
    · split
      · exact .inl rfl
      · dsimp only
        split
        · exact .inl rfl
        · split
          · split
            · exact .inl rfl
            · split
              · exact .inl rfl
              · exact .inr ⟨_, by rfl, rfl⟩
          · exact .inr ⟨_, by rfl, rfl⟩
  · exact .inl rfl

/-- Once its guards, the local file and the remote path pass, a repair reads the list
consensus of the full remote path, and either fails or narrows the request to the blobbers
missing from the found mask and marks the allocation under repair. -/
theorem repairFile_eq (hinit : w.isInitialized = true) (hrepair : w.alloc.underRepair = false)
    {info : FileInfo} (hstat : env.stat w.fs localpath = .ok info)
    (habs : env.isRemoteAbs (env.remoteClean remotepath) = true) :
    let remote := env.getFullRemotePath localpath (env.remoteClean remotepath)
    let listReq := pathListRequest w.alloc remote
    repairFile env w localpath remotepath =
      match env.getFileConsensusFromBlobbers w.ns listReq with
      | (_, none) => (.error (.plain "File not found for the given remotepath"), w.build (.list listReq))
      | (found, some _) =>
        if found = fullMask w.alloc.blobbers.length then
          (.error (.plain "No repair required"), w.build (.list listReq))
        else (.ok (), ((w.build (.list listReq)).updateRepairStatus true).spawn
          (.upload ((newUploadRequest w.alloc localpath remote "" info.size 0 false false
            true).narrowForRepair found)) localpath) := by
  simp only [repairFile, uploadOrUpdateFile, World.whenWritable_of_writable hinit hrepair, hstat,
    habs, Bool.not_true, thumbnailOf, String.length_empty, gt_iff_lt, Nat.lt_irrefl, if_false,
    enqueueUpload, newUploadRequest_isRepair, if_true, World.build_ns, newUploadRequest_uploadMask,
    Bool.false_eq_true, ↓reduceIte]

end

end ZboxSdk
