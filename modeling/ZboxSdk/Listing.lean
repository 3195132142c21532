import ZboxSdk.Upload
import ZboxSdk.Download

/-!
# Listing, file meta, stats and sharing

The operations that read the blobbers without changing them: `ListDir`,
`ListDirFromAuthTicket`, `GetFileMeta`, `GetFileMetaFromAuthTicket`, `GetFileStats` and
`GetAuthTicket`. Each builds one request and returns what its protocol answers. The two
`GetFileMeta` operations check neither the initialization nor the path, and the ticket
variant leaves `EncryptedKey` out of the meta it returns.
-/

namespace ZboxSdk

/-- The `ListRequest` of the ticket operations: the lookup hash and the decoded ticket. -/
def ticketListRequest (a : Allocation) (lookupHash : String) (ticket : AuthTicket) :
    ListRequest where
  allocationID := a.id
  allocationTx := a.tx
  blobbers := a.blobbers
  fullconsensus := a.fullconsensus
  ctx := a.ctx
  remotefilepath := ""
  remotefilepathhash := lookupHash
  authToken := some ticket

/-- The projection `GetFileMeta` makes of the consensus reference. -/
def FileRef.toMeta (ref : FileRef) : ConsolidatedFileMeta where
  name := ref.name
  type := ref.type
  path := ref.path
  lookupHash := ref.lookupHash
  hash := ref.actualFileHash
  mimeType := ref.mimeType
  size := ref.actualFileSize
  encryptedKey := ref.encryptedKey
  commitMetaTxns := ref.commitMetaTxns

/-- `list_request_failed`. -/
def listRequestFailed : SdkError :=
  .coded "list_request_failed" "Failed to get list response from the blobbers"

/-- `file_meta_error`. -/
def fileMetaError : SdkError :=
  .coded "file_meta_error" "Error getting the file meta data from blobbers"

section

variable {Fs Ns : Type} (env : Env Fs Ns)

/-- The remote-path checks of `ListDir`, `GetFileStats`, `DeleteFile`, `RenameObject` and
`GetAuthTicket`: a non-empty path, cleaned by `RemoteClean` and then absolute. -/
def cleanRemotePath (path : String) : Except SdkError String :=
  if path.length = 0 then .error invalidListPath else
  let path := env.remoteClean path
  if !env.isRemoteAbs path then .error notAbsolute else .ok path

/-- The ticket checks of `ListDirFromAuthTicket` and `GetFileMetaFromAuthTicket`: a decoded
ticket with a non-empty path hash, and a non-empty lookup hash. -/
def checkTicket (authTicket lookupHash : String) : Except SdkError AuthTicket :=
  match decodeAuthTicket env authTicket with
  | .error e => .error e
  | .ok ticket =>
    if ticket.filePathHash.length = 0 ∨ lookupHash.length = 0 then .error invalidListPath
    else .ok ticket

/-- `ListDir`. -/
def listDir (w : World Fs Ns) (path : String) : Except SdkError ListResult × World Fs Ns :=
  w.whenInitialized <|
  match cleanRemotePath env path with
  | .error e => (.error e, w)
  | .ok path =>
    let listReq := pathListRequest w.alloc path
    match env.getListFromBlobbers w.ns listReq with
    | some ref => (.ok ref, w.build (.list listReq))
    | none => (.error listRequestFailed, w.build (.list listReq))

/-- `ListDirFromAuthTicket`. -/
def listDirFromAuthTicket (w : World Fs Ns) (authTicket lookupHash : String) :
    Except SdkError ListResult × World Fs Ns :=
  w.whenInitialized <|
  match checkTicket env authTicket lookupHash with
  | .error e => (.error e, w)
  | .ok ticket =>
    let listReq := ticketListRequest w.alloc lookupHash ticket
    match env.getListFromBlobbers w.ns listReq with
    | some ref => (.ok ref, w.build (.list listReq))
    | none => (.error listRequestFailed, w.build (.list listReq))

/-- `GetFileMeta`: no initialization check, and the path goes to the request as given. -/
def getFileMeta (w : World Fs Ns) (path : String) :
    Except SdkError ConsolidatedFileMeta × World Fs Ns :=
  let listReq := pathListRequest w.alloc path
  match (env.getFileConsensusFromBlobbers w.ns listReq).2 with
  | some ref => (.ok ref.toMeta, w.build (.list listReq))
  | none => (.error fileMetaError, w.build (.list listReq))

/-- `GetFileMetaFromAuthTicket`: no initialization check, and `EncryptedKey` keeps the zero
value of a fresh `ConsolidatedFileMeta`. -/
def getFileMetaFromAuthTicket (w : World Fs Ns) (authTicket lookupHash : String) :
    Except SdkError ConsolidatedFileMeta × World Fs Ns :=
  match checkTicket env authTicket lookupHash with
  | .error e => (.error e, w)
  | .ok ticket =>
    let listReq := ticketListRequest w.alloc lookupHash ticket
    match (env.getFileConsensusFromBlobbers w.ns listReq).2 with
    | some ref => (.ok { ref.toMeta with encryptedKey := "" }, w.build (.list listReq))
    | none => (.error fileMetaError, w.build (.list listReq))

/-- `GetFileStats`: every blobber's stats, keyed by blobber id. -/
def getFileStats (w : World Fs Ns) (path : String) :
    Except SdkError (List (String × FileStats)) × World Fs Ns :=
  w.whenInitialized <|
  match cleanRemotePath env path with
  | .error e => (.error e, w)
  | .ok path =>
    let listReq := pathListRequest w.alloc path
    match env.getFileStatsFromBlobbers w.ns listReq with
    | some ref => (.ok ref, w.build (.list listReq))
    | none => (.error (.coded "file_stats_request_failed"
        "Failed to get file stats response from the blobbers"), w.build (.list listReq))

/-- `GetAuthTicket`; `GetAuthTicketForShare` is the call with an empty encryption key.
`directory` is `fileref.DIRECTORY`, which the source does not define. -/
def getAuthTicket (directory : String) (w : World Fs Ns) (path filename referenceType
    refereeClientID refereeEncryptionPublicKey : String) : Except SdkError String × World Fs Ns :=
  w.whenInitialized <|
  match cleanRemotePath env path with
  | .error e => (.error e, w)
  | .ok path =>
    let shareReq : ShareRequest :=
      { allocationID := w.alloc.id, blobbers := w.alloc.blobbers, ctx := w.alloc.ctx,
        remotefilepath := path, remotefilename := filename,
        refType := if referenceType = directory then .directory else .file }
    let w := w.build (.share shareReq)
    if refereeEncryptionPublicKey.length > 0 then
      (env.getAuthTicketForEncryptedFile shareReq refereeClientID refereeEncryptionPublicKey, w)
    else (env.getAuthTicket shareReq refereeClientID, w)

/-- A path `cleanRemotePath` accepts is the cleaned path, and it is absolute. -/
theorem cleanRemotePath_ok {path p : String} (h : cleanRemotePath env path = .ok p) :
    p = env.remoteClean path ∧ env.isRemoteAbs p = true := by
  unfold cleanRemotePath at h
  split at h
  · cases h
  · dsimp only at h
    split at h
    · cases h
    · rename_i habs
      cases h
      exact ⟨rfl, by simpa using habs⟩

/-- A path whose cleaned form is not absolute is refused with `invalid_path`. -/
theorem cleanRemotePath_not_abs {path : String}
    (h : env.isRemoteAbs (env.remoteClean path) = false) :
    ∃ e, cleanRemotePath env path = .error e ∧ e.IsInvalidPath := by
  unfold cleanRemotePath
  split
  · exact ⟨_, rfl, rfl⟩
  · simp only [h, Bool.not_false, if_true]
    exact ⟨_, rfl, rfl⟩

/-- A ticket `checkTicket` accepts decodes, with a non-empty path hash, and the lookup hash
is non-empty. -/
theorem checkTicket_ok {authTicket lookupHash : String} {ticket : AuthTicket}
    (h : checkTicket env authTicket lookupHash = .ok ticket) :
    decodeAuthTicket env authTicket = .ok ticket ∧ ticket.filePathHash ≠ "" ∧
      lookupHash ≠ "" := by
  unfold checkTicket at h
  split at h
  · cases h
  · split at h
    · cases h
    · rename_i hlen
      cases h
      simp only [not_or, length_eq_zero_iff_eq_empty] at hlen
      exact ⟨‹_›, hlen⟩

variable {w : World Fs Ns} {path authTicket lookupHash : String}

/-- `ListDir` only sends a request. -/
theorem listDir_readOnly : w.ReadOnly (listDir env w path).2 := by
  unfold listDir World.whenInitialized
  dsimp only
  split
  · split
    · exact .refl w
    · split <;> exact .build w _
  · exact .refl w

/-- `ListDirFromAuthTicket` only sends a request. -/
theorem listDirFromAuthTicket_readOnly :
    w.ReadOnly (listDirFromAuthTicket env w authTicket lookupHash).2 := by
  unfold listDirFromAuthTicket World.whenInitialized
  dsimp only
  split
  · split
    · exact .refl w
    · split <;> exact .build w _
  · exact .refl w

/-- `GetFileMeta` sends exactly one request, for the path as given, whatever the state of
the allocation. -/
theorem getFileMeta_world :
    (getFileMeta env w path).2 = w.build (.list (pathListRequest w.alloc path)) := by
  unfold getFileMeta
  dsimp only
  split <;> rfl

/-- `GetFileMetaFromAuthTicket` only sends a request. -/
theorem getFileMetaFromAuthTicket_readOnly :
    w.ReadOnly (getFileMetaFromAuthTicket env w authTicket lookupHash).2 := by
  unfold getFileMetaFromAuthTicket
  dsimp only
  split
  · exact .refl w
  · split <;> exact .build w _

/-- `GetFileStats` only sends a request. -/
theorem getFileStats_readOnly : w.ReadOnly (getFileStats env w path).2 := by
  unfold getFileStats World.whenInitialized
  dsimp only
  split
  · split
    · exact .refl w
    · split <;> exact .build w _
  · exact .refl w

/-- `GetAuthTicket` only sends a request. -/
theorem getAuthTicket_readOnly {directory filename referenceType client key : String} :
    w.ReadOnly (getAuthTicket env directory w path filename referenceType client key).2 := by
  unfold getAuthTicket World.whenInitialized
  dsimp only
  split
  · split
    · exact .refl w
    · split <;> split <;> exact .build w _
  · exact .refl w

/-- `ListDirFromAuthTicket` sends a request only for a ticket that decodes with a non-empty
path hash and a non-empty lookup hash, and that request carries both. -/
theorem listDirFromAuthTicket_sent :
    (listDirFromAuthTicket env w authTicket lookupHash).2.sent = w.sent ∨
      ∃ ticket, decodeAuthTicket env authTicket = .ok ticket ∧ ticket.filePathHash ≠ "" ∧
        lookupHash ≠ "" ∧ (listDirFromAuthTicket env w authTicket lookupHash).2.sent =
          w.sent ++ [.list (ticketListRequest w.alloc lookupHash ticket)] := by
  unfold listDirFromAuthTicket World.whenInitialized
  dsimp only
  split
  · split
    · exact .inl rfl
    · rename_i ticket hcheck
      exact .inr ⟨ticket, (checkTicket_ok env hcheck).1, (checkTicket_ok env hcheck).2.1,
        (checkTicket_ok env hcheck).2.2, by split <;> rfl⟩
  · exact .inl rfl

/-- `GetFileMetaFromAuthTicket` sends a request only for a ticket that decodes with a
non-empty path hash and a non-empty lookup hash, and that request carries both. -/
theorem getFileMetaFromAuthTicket_sent :
    (getFileMetaFromAuthTicket env w authTicket lookupHash).2.sent = w.sent ∨
      ∃ ticket, decodeAuthTicket env authTicket = .ok ticket ∧ ticket.filePathHash ≠ "" ∧
        lookupHash ≠ "" ∧ (getFileMetaFromAuthTicket env w authTicket lookupHash).2.sent =
          w.sent ++ [.list (ticketListRequest w.alloc lookupHash ticket)] := by
  unfold getFileMetaFromAuthTicket
  dsimp only
  split
  · exact .inl rfl
  · rename_i ticket hcheck
    exact .inr ⟨ticket, (checkTicket_ok env hcheck).1, (checkTicket_ok env hcheck).2.1,
      (checkTicket_ok env hcheck).2.2, by split <;> rfl⟩

/-- `GetFileMeta` checks neither the initialization nor the path: on every allocation,
initialized or not, it sends a list request for the path as given, and it never answers
`notInitialized` or `invalid_path`. -/
theorem getFileMeta_sends_unchecked :
    (getFileMeta env w path).2 = w.build (.list (pathListRequest w.alloc path)) ∧
      (getFileMeta env w path).1 ≠ .error notInitialized ∧
      ∀ e, (getFileMeta env w path).1 = .error e → ¬ e.IsInvalidPath := by
  unfold getFileMeta
  dsimp only
  split
  · exact ⟨rfl, by simp, by simp⟩
  · exact ⟨rfl, by simp [fileMetaError, notInitialized],
      by simp [fileMetaError, SdkError.IsInvalidPath]⟩

end

/-- Before `sdkInitialized` is set, `GetFileMeta("a")` sends a list request for the relative
path `a`. -/
theorem getFileMeta_sends_unchecked_sample :
    (getFileMeta (sampleEnv 0) { sampleWorld 1 1 [] sampleNs with sdkInitialized := false } "a").2.sent =
      [.list (pathListRequest (sampleWorld 1 1 [] sampleNs).alloc "a")] := by
  rw [(getFileMeta_sends_unchecked (sampleEnv 0)).1]
  rfl

end ZboxSdk
