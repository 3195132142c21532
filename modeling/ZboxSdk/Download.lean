import ZboxSdk.World

/-!
# Downloads

`downloadFile` and `downloadFromAuthTicket`, behind `DownloadFile`, `DownloadThumbnail`,
`DownloadFromAuthTicket` and `DownloadThumbnailFromAuthTicket`. Both resolve the local
target against the local filesystem and enqueue one `DownloadRequest` for every blobber;
`downloadFile` also creates the target's parent directories, before its blobber check.
The ticket path decodes the ticket but checks neither its path hash nor the lookup hash.
-/

namespace ZboxSdk

/-- The `DownloadRequest` both download paths fill in. -/
def newDownloadRequest (a : Allocation) (numBlockDownloads : Int)
    (localpath remotepath remotepathhash : String) (authTicket : Option AuthTicket)
    (callback : DownloadCallback) (contentMode : ContentMode) : DownloadRequest where
  allocationID := a.id
  allocationTx := a.tx
  ctx := a.ctx.map .withCancel
  localpath := localpath
  remotefilepath := remotepath
  remotefilepathhash := remotepathhash
  authTicket := authTicket
  downloadMask := fullMask a.blobbers.length
  blobbers := a.blobbers
  datashards := a.dataShards
  parityshards := a.parityShards
  numBlocks := numBlockDownloads
  fullconsensus := a.fullconsensus
  completedCallback := callback
  contentMode := contentMode

section

variable {Fs Ns : Type} (env : Env Fs Ns)

/-- The local target both download paths compute: an existing directory is replaced by the
remote file's name inside it, which must not exist; an existing non-directory is refused;
a path `os.Stat` cannot see is the target itself. -/
def localTarget (fs : Fs) (localPath remoteName : String) : Except SdkError String :=
  match env.stat fs localPath with
  | .ok stat =>
    if !stat.isDir then .error (.plain ("Local path is not a directory '" ++ localPath ++ "'"))
    else
      let localPath := trimRightSlash localPath ++ "/" ++ (filepathSplit remoteName).2
      match env.stat fs localPath with
      | .ok _ => .error (.plain ("Local file already exists '" ++ localPath ++ "'"))
      | .error _ => .ok localPath
  | .error _ => .ok localPath

/-- `base64.StdEncoding.DecodeString` and then `json.Unmarshal` of an auth ticket, as the
three ticket operations do it. -/
def decodeAuthTicket (authTicket : String) : Except SdkError AuthTicket :=
  match env.decodeString authTicket with
  | .error e => .error (.coded "auth_ticket_decode_error" ("Error decoding the auth ticket." ++ e))
  | .ok sEnc =>
    match env.unmarshalAuthTicket sEnc with
    | .error e =>
      .error (.coded "auth_ticket_decode_error" ("Error unmarshaling the auth ticket." ++ e))
    | .ok ticket => .ok ticket

/-- `downloadFile`. `DownloadFile` and `DownloadThumbnail` call it with
`DOWNLOAD_CONTENT_FULL` and `DOWNLOAD_CONTENT_THUMB`. -/
def downloadFile (w : World Fs Ns) (localPath remotePath : String) (contentMode : ContentMode) :
    Except SdkError Unit × World Fs Ns :=
  w.whenWritable <|
  match localTarget env w.fs localPath remotePath with
  | .error e => (.error e, w)
  | .ok localPath =>
    let w := { w with fs := env.mkdirAll w.fs (filepathSplit localPath).1 }
    if w.alloc.blobbers.length ≤ 1 then (.error noBLOBBERS, w) else
    (.ok (), w.spawn (.download (newDownloadRequest w.alloc w.numBlockDownloads localPath
      remotePath "" none .remotepath contentMode)) remotePath)

/-- `downloadFromAuthTicket`. `DownloadFromAuthTicket` and `DownloadThumbnailFromAuthTicket`
call it with `DOWNLOAD_CONTENT_FULL` and `DOWNLOAD_CONTENT_THUMB`. -/
def downloadFromAuthTicket (w : World Fs Ns) (localPath authTicket remoteLookupHash
    remoteFilename : String) (contentMode : ContentMode) : Except SdkError Unit × World Fs Ns :=
  w.whenWritable <|
  match decodeAuthTicket env authTicket with
  | .error e => (.error e, w)
  | .ok ticket =>
    match localTarget env w.fs localPath remoteFilename with
    | .error e => (.error e, w)
    | .ok localPath =>
      if w.alloc.blobbers.length ≤ 1 then (.error noBLOBBERS, w) else
      (.ok (), w.spawn (.download (newDownloadRequest w.alloc w.numBlockDownloads localPath ""
        remoteLookupHash (some ticket) .remotepathHash contentMode)) remoteLookupHash)

variable {fs : Fs} {localPath remoteName target : String}

/-- A target `localTarget` accepts is a path `os.Stat` does not see. -/
theorem localTarget_not_exists (h : localTarget env fs localPath remoteName = .ok target) :
    ∃ e, env.stat fs target = .error e := by
  unfold localTarget at h
  split at h
  · split at h
    · cases h
    · dsimp only at h
      split at h
      · cases h
      · cases h
        exact ⟨_, by assumption⟩
  · cases h
    exact ⟨_, by assumption⟩

variable {w : World Fs Ns} {authTicket lookupHash remotePath : String} {mode : ContentMode}

/-- A download never changes the allocation record. -/
theorem downloadFile_alloc : (downloadFile env w localPath remotePath mode).2.alloc = w.alloc := by
  unfold downloadFile World.whenWritable World.whenInitialized
  split
  · split
    · rfl
    · split
      · rfl
      · dsimp only
        split <;> rfl
  · rfl

/-- A ticket download never changes the allocation record. -/
theorem downloadFromAuthTicket_alloc :
    (downloadFromAuthTicket env w localPath authTicket lookupHash remoteName mode).2.alloc =
      w.alloc := by
  unfold downloadFromAuthTicket World.whenWritable World.whenInitialized
  split
  · split
    · rfl
    · split
      · rfl
      · split
        · rfl
        · split <;> rfl
  · rfl

/-- A download leaves the jobs as they were, or spawns one whose callback deletes the remote
path it registers under. -/
theorem downloadFile_jobs :
    (downloadFile env w localPath remotePath mode).2.jobs = w.jobs ∨
      ∃ a : AsyncRequest, a.completedKey = remotePath ∧
        (downloadFile env w localPath remotePath mode).2.jobs =
          w.jobs ++ [⟨a, remotePath, .sending, .idle, false⟩] := by
  unfold downloadFile World.whenWritable World.whenInitialized
  split
  · split
    · exact .inl rfl
    · split
      · exact .inl rfl
      · dsimp only
        split
        · exact .inl rfl
        · exact .inr ⟨_, by rfl, rfl⟩
  · exact .inl rfl

/-- A ticket download leaves the jobs as they were, or spawns one whose callback deletes the
lookup hash it registers under. -/
theorem downloadFromAuthTicket_jobs :
    (downloadFromAuthTicket env w localPath authTicket lookupHash remoteName mode).2.jobs = w.jobs ∨
      ∃ a : AsyncRequest, a.completedKey = lookupHash ∧
        (downloadFromAuthTicket env w localPath authTicket lookupHash remoteName mode).2.jobs =
          w.jobs ++ [⟨a, lookupHash, .sending, .idle, false⟩] := by
  unfold downloadFromAuthTicket World.whenWritable World.whenInitialized
  split
  · split
    · exact .inl rfl
    · split
      · exact .inl rfl
      · split
        · exact .inl rfl
        · split
          · exact .inl rfl
          · exact .inr ⟨_, by rfl, rfl⟩
  · exact .inl rfl

/-- Once the guards pass and `os.Stat` cannot see the local path, `downloadFile` creates
the directory part of that path, and only then checks the blobber count. -/
theorem downloadFile_of_missing (hinit : w.isInitialized = true)
    (hrepair : w.alloc.underRepair = false) {e : String}
    (hstat : env.stat w.fs localPath = .error e) :
    let w' := { w with fs := env.mkdirAll w.fs (filepathSplit localPath).1 }
    downloadFile env w localPath remotePath mode =
      if w.alloc.blobbers.length ≤ 1 then (.error noBLOBBERS, w') else
      (.ok (), w'.spawn (.download (newDownloadRequest w.alloc w.numBlockDownloads localPath
        remotePath "" none .remotepath mode)) remotePath) := by
  simp only [downloadFile, World.whenWritable_of_writable hinit hrepair, localTarget, hstat]

/-- For a local path `os.Stat` cannot see that ends in a separator, such as `out/`,
`downloadFile` with two blobbers or more runs `os.MkdirAll` on that very path and returns nil
having enqueued a request whose local target is it: the directory the call has just created. -/
theorem downloadFile_targets_created_dir {e : String} (hinit : w.isInitialized = true)
    (hrepair : w.alloc.underRepair = false) (hstat : env.stat w.fs localPath = .error e)
    (hdir : (filepathSplit localPath).1 = localPath) (hblobbers : 1 < w.alloc.blobbers.length) :
    ∃ req : DownloadRequest, downloadFile env w localPath remotePath mode =
        (.ok (), { w with fs := env.mkdirAll w.fs localPath }.spawn (.download req) remotePath) ∧
      req.localpath = localPath := by
  rw [downloadFile_of_missing env hinit hrepair hstat, if_neg (by omega), hdir]
  exact ⟨_, rfl, rfl⟩

/- `DownloadFile("out/", "/f")` on the sample allocation: the request's target is `out/`. -/
example : ∃ req : DownloadRequest,
    downloadFile (sampleEnv 0) (sampleWorld 2 2 [] sampleNs) "out/" "/f" .full =
      (.ok (), { sampleWorld 2 2 [] sampleNs with
        fs := (sampleEnv 0).mkdirAll (sampleWorld 2 2 [] sampleNs).fs "out/" }.spawn
          (.download req) "/f") ∧ req.localpath = "out/" :=
  downloadFile_targets_created_dir (sampleEnv 0) rfl rfl rfl (by decide) (by decide)

/-- `downloadFile` with one blobber or none returns `noBLOBBERS` after `os.MkdirAll` has run
on the directory part of a local path `os.Stat` cannot see. -/
theorem downloadFile_noBLOBBERS_after_mkdirAll {e : String} (hinit : w.isInitialized = true)
    (hrepair : w.alloc.underRepair = false)
    (hstat : env.stat w.fs localPath = .error e) (hblobbers : w.alloc.blobbers.length ≤ 1) :
    downloadFile env w localPath remotePath mode =
      (.error noBLOBBERS, { w with fs := env.mkdirAll w.fs (filepathSplit localPath).1 }) := by
  rw [downloadFile_of_missing env hinit hrepair hstat, if_pos hblobbers]

/-- On an empty local filesystem and a one-blobber allocation, `DownloadFile("out/f", …)`
fails with `noBLOBBERS` and leaves the directory `out/` behind. -/
theorem downloadFile_noBLOBBERS_after_mkdirAll_sample :
    (downloadFile (sampleEnv 0) (sampleWorld 1 0 [] sampleNs) "out/f" "/f" .full).1 =
        .error noBLOBBERS ∧
      (downloadFile (sampleEnv 0) (sampleWorld 1 0 [] sampleNs) "out/f" "/f" .full).2.fs =
        [("out/", ⟨true, 0⟩)] := by
  rw [@downloadFile_noBLOBBERS_after_mkdirAll _ _ (sampleEnv 0) "out/f"
    (sampleWorld 1 0 [] sampleNs) "/f" .full _ rfl rfl rfl (by decide)]
  exact ⟨rfl, rfl⟩

/-- A ticket download never touches the local filesystem. Each of its errors leaves the
world as it was; on success it enqueues exactly one request, under the lookup hash, whose
local target `os.Stat` does not see. -/
theorem downloadFromAuthTicket_spec :
    (∃ e, downloadFromAuthTicket env w localPath authTicket lookupHash remoteName mode =
        (.error e, w)) ∨
      ((downloadFromAuthTicket env w localPath authTicket lookupHash remoteName mode).1 = .ok () ∧
        ∃ req : DownloadRequest,
          (downloadFromAuthTicket env w localPath authTicket lookupHash remoteName mode).2 =
            w.spawn (.download req) lookupHash ∧ ∃ e, env.stat w.fs req.localpath = .error e) := by
  unfold downloadFromAuthTicket World.whenWritable World.whenInitialized
  split
  · split
    · exact .inl ⟨_, rfl⟩
    · split
      · exact .inl ⟨_, rfl⟩
      · split
        · exact .inl ⟨_, rfl⟩
        · rename_i target htarget
          split
          · exact .inl ⟨_, rfl⟩
          · exact .inr ⟨rfl, _, rfl, localTarget_not_exists env htarget⟩
  · exact .inl ⟨_, rfl⟩

/-- `downloadFromAuthTicket` decodes the ticket but checks neither its path hash nor the
lookup hash: a ticket with an empty `file_path_hash`, under any lookup hash, empty included,
is enqueued. -/
theorem downloadFromAuthTicket_accepts_empty_hash {ticket : AuthTicket} {e : String}
    (hinit : w.isInitialized = true) (hrepair : w.alloc.underRepair = false)
    (hticket : decodeAuthTicket env authTicket = .ok ticket) (hempty : ticket.filePathHash = "")
    (hstat : env.stat w.fs localPath = .error e)
    (hblobbers : 2 ≤ w.alloc.blobbers.length) :
    downloadFromAuthTicket env w localPath authTicket lookupHash remoteName mode =
      (.ok (), w.spawn (.download (newDownloadRequest w.alloc w.numBlockDownloads localPath ""
        lookupHash (some ⟨""⟩) .remotepathHash mode)) lookupHash) := by
  have hblob : ¬ w.alloc.blobbers.length ≤ 1 := by omega
  cases ticket
  cases hempty
  simp only [downloadFromAuthTicket, World.whenWritable_of_writable hinit hrepair, hticket,
    localTarget, hstat, hblob, if_false]

/-- With an empty ticket and an empty lookup hash, a two-blobber allocation enqueues a
download. -/
theorem downloadFromAuthTicket_accepts_empty_hash_sample :
    (downloadFromAuthTicket (sampleEnv 0) (sampleWorld 1 1 [] sampleNs) "out" "" "" "f" .full).1 =
      .ok () := by
  rw [@downloadFromAuthTicket_accepts_empty_hash _ _ (sampleEnv 0) "out" "f"
    (sampleWorld 1 1 [] sampleNs) "" "" .full ⟨""⟩ _ rfl rfl rfl rfl rfl (by decide)]

end

end ZboxSdk
