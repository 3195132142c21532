import ZboxSdk.Quiescence

/-!
# The calls do not see the goroutines

No public call but `CancelUpload` and `CancelDownload` reads what the goroutines write: the
channels, the progress maps and the jobs' phases. So a call returns the same result, and
leaves the same state but for that bookkeeping, whatever the goroutines have done before it.
Over a whole run, any interleaving of calls and goroutine steps with no cancel in it returns,
call by call, what the same calls return when run one after another with no goroutine step,
and ends in the same state up to the bookkeeping. The goroutines show through the calls only
at the cancels, which read the maps, and do so without taking the mutex.
-/

namespace ZboxSdk

section

variable {Fs Ns : Type} (w : World Fs Ns) (a : Allocation)

/-- The allocation a finished state holds is the drained one. -/
@[simp] theorem World.finished_alloc : w.finished.alloc = w.alloc.drained := rfl

/-- A finished state has the local filesystem of the state. -/
@[simp] theorem World.finished_fs : w.finished.fs = w.fs := rfl

/-- A finished state has the remote namespace of the state. -/
@[simp] theorem World.finished_ns : w.finished.ns = w.ns := rfl

/-- A finished state has the block-download count of the state. -/
@[simp] theorem World.finished_numBlockDownloads :
    w.finished.numBlockDownloads = w.numBlockDownloads := rfl

/-- A finished state is initialized when the state is. -/
@[simp] theorem World.finished_isInitialized : w.finished.isInitialized = w.isInitialized := rfl

/-- Draining keeps the repair flag. -/
@[simp] theorem Allocation.drained_underRepair : a.drained.underRepair = a.underRepair := rfl

/-- Draining keeps the blobbers. -/
@[simp] theorem Allocation.drained_blobbers : a.drained.blobbers = a.blobbers := rfl

/-- Draining keeps the allocation's id. -/
@[simp] theorem Allocation.drained_id : a.drained.id = a.id := rfl

/-- Draining keeps the allocation's transaction. -/
@[simp] theorem Allocation.drained_tx : a.drained.tx = a.tx := rfl

/-- Draining keeps the allocation's context. -/
@[simp] theorem Allocation.drained_ctx : a.drained.ctx = a.ctx := rfl

/-- Draining keeps the shard counts. -/
@[simp] theorem Allocation.drained_fullconsensus : a.drained.fullconsensus = a.fullconsensus :=
  rfl

/-- Draining twice is draining once. -/
@[simp] theorem Allocation.drained_drained : a.drained.drained = a.drained := rfl

/-- `InitAllocation` of a drained allocation, drained again, is `InitAllocation` drained. -/
@[simp] theorem Allocation.drained_initAllocation :
    a.drained.initAllocation.drained = a.initAllocation.drained := rfl

/-- Setting the repair flag of a drained allocation and draining again is draining. -/
@[simp] theorem Allocation.drained_updateRepairStatus (v : Bool) :
    (a.drained.updateRepairStatus v).drained = (a.updateRepairStatus v).drained := rfl

/-- The list request of a path reads no bookkeeping. -/
@[simp] theorem pathListRequest_drained (path : String) :
    pathListRequest a.drained path = pathListRequest a path := rfl

/-- The list request of a ticket reads no bookkeeping. -/
@[simp] theorem ticketListRequest_drained (lookupHash : String) (ticket : AuthTicket) :
    ticketListRequest a.drained lookupHash ticket = ticketListRequest a lookupHash ticket := rfl

/-- The copy request reads no bookkeeping. -/
@[simp] theorem copyRequest_drained (path destPath : String) :
    copyRequest a.drained path destPath = copyRequest a path destPath := rfl

/-- An upload request reads no bookkeeping. -/
@[simp] theorem newUploadRequest_drained (localpath remotepath thumbnailpath : String)
    (size thumbnailSize : Int) (isUpdate encryption isRepair : Bool) :
    newUploadRequest a.drained localpath remotepath thumbnailpath size thumbnailSize isUpdate
      encryption isRepair =
    newUploadRequest a localpath remotepath thumbnailpath size thumbnailSize isUpdate
      encryption isRepair := rfl

/-- A download request reads no bookkeeping. -/
@[simp] theorem newDownloadRequest_drained (numBlockDownloads : Int)
    (localpath remotepath remotepathhash : String) (authTicket : Option AuthTicket)
    (callback : DownloadCallback) (contentMode : ContentMode) :
    newDownloadRequest a.drained numBlockDownloads localpath remotepath remotepathhash
      authTicket callback contentMode =
    newDownloadRequest a numBlockDownloads localpath remotepath remotepathhash authTicket
      callback contentMode := rfl

end

/-- Handing a request to a blobber protocol does not touch the bookkeeping. -/
theorem World.finished_build {Fs Ns : Type} (w : World Fs Ns) (r : Request) :
    (w.build r).finished = w.finished.build r := rfl

/-- Finishing a finished job changes nothing. -/
@[simp] theorem Job.finished_comp_finished : Job.finished ∘ Job.finished = Job.finished := rfl

/-- Finishing a finished state changes nothing. -/
theorem World.finished_finished {Fs Ns : Type} (w : World Fs Ns) :
    w.finished.finished = w.finished := by
  simp only [World.finished, List.map_map, Job.finished_comp_finished, Allocation.drained_drained]

/-- Two outcomes of a call that return the same result and leave the same state but for the
goroutines' bookkeeping: the channels, the progress maps and the jobs' phases. -/
def SameOutcome {Fs Ns α : Type} (r s : Except SdkError α × World Fs Ns) : Prop :=
  r.1 = s.1 ∧ r.2.finished = s.2.finished

section

variable {Fs Ns α : Type} {r s t : Except SdkError α × World Fs Ns}

/-- Agreeing outcomes agree either way round. -/
theorem SameOutcome.symm (h : SameOutcome r s) : SameOutcome s r := ⟨h.1.symm, h.2.symm⟩

/-- Agreeing outcomes chain. -/
theorem SameOutcome.trans (h : SameOutcome r s) (h' : SameOutcome s t) : SameOutcome r t :=
  ⟨h.1.trans h'.1, h.2.trans h'.2⟩

/-- A call whose outcome from `w.finished` agrees with its outcome from `w`, for every `w`,
has agreeing outcomes from any two states that differ only in the bookkeeping. -/
theorem SameOutcome.of_finished (f : World Fs Ns → Except SdkError α × World Fs Ns)
    (hf : ∀ w, SameOutcome (f w.finished) (f w)) {v w : World Fs Ns}
    (h : v.finished = w.finished) : SameOutcome (f v) (f w) :=
  (hf v).symm.trans (h ▸ hf w)

/-- Agreeing outcomes are one result with two states that differ only in the bookkeeping. -/
theorem SameOutcome.exists_pair (h : SameOutcome r s) :
    ∃ x v₁ v₂, r = (x, v₁) ∧ s = (x, v₂) ∧ v₁.finished = v₂.finished :=
  ⟨r.1, r.2, s.2, rfl, by rw [h.1], h.2⟩

/-- Dropping the results keeps outcomes agreeing. -/
theorem SameOutcome.discardResult (h : SameOutcome r s) :
    SameOutcome (ZboxSdk.discardResult r) (ZboxSdk.discardResult s) :=
  ⟨congrArg (Except.map fun _ => ()) h.1, h.2⟩

end

section

variable {Fs Ns α : Type} (w : World Fs Ns) {k₁ k₂ : Except SdkError α × World Fs Ns}

/-- The initialization guard reads only the flags, which the bookkeeping leaves alone. -/
theorem SameOutcome.whenInitialized (h : SameOutcome k₁ k₂) :
    SameOutcome (w.finished.whenInitialized k₁) (w.whenInitialized k₂) := by
  unfold World.whenInitialized
  rw [World.finished_isInitialized]
  split
  · exact h
  · exact ⟨rfl, w.finished_finished⟩

/-- So do the two guards of the mutating calls. -/
theorem SameOutcome.whenWritable (h : SameOutcome k₁ k₂) :
    SameOutcome (w.finished.whenWritable k₁) (w.whenWritable k₂) := by
  refine SameOutcome.whenInitialized w ?_
  rw [World.finished_alloc, Allocation.drained_underRepair]
  split
  · exact ⟨rfl, w.finished_finished⟩
  · exact h

end

section

variable {Fs Ns : Type} (env : Env Fs Ns) (w : World Fs Ns)

/-- The repair branch and the goroutine of an upload read no bookkeeping. -/
theorem enqueueUpload_finished (uploadReq : UploadRequest) (localpath remotepath : String) :
    SameOutcome (enqueueUpload env w.finished uploadReq localpath remotepath)
      (enqueueUpload env w uploadReq localpath remotepath) := by
  unfold enqueueUpload
  simp only [World.finished_alloc, pathListRequest_drained, World.build_ns, World.finished_ns]
  repeat' split
  all_goals exact
    ⟨rfl, by simp [World.finished, World.build, World.spawn, World.updateRepairStatus]⟩

/-- `uploadOrUpdateFile`, and so the nine upload calls, read no bookkeeping. -/
theorem uploadOrUpdateFile_finished (localpath remotepath : String) (isUpdate : Bool)
    (thumbnailpath : String) (encryption isRepair : Bool) :
    SameOutcome
      (uploadOrUpdateFile env w.finished localpath remotepath isUpdate thumbnailpath encryption
        isRepair)
      (uploadOrUpdateFile env w localpath remotepath isUpdate thumbnailpath encryption
        isRepair) := by
  refine SameOutcome.whenWritable w ?_
  simp only [World.finished_fs, World.finished_alloc, newUploadRequest_drained]
  repeat' split
  all_goals first | exact ⟨rfl, w.finished_finished⟩ | exact enqueueUpload_finished env w _ _ _

/-- `downloadFile`, behind `DownloadFile` and `DownloadThumbnail`, reads no bookkeeping. -/
theorem downloadFile_finished (localPath remotePath : String) (contentMode : ContentMode) :
    SameOutcome (downloadFile env w.finished localPath remotePath contentMode)
      (downloadFile env w localPath remotePath contentMode) := by
  refine SameOutcome.whenWritable w ?_
  simp only [World.finished_fs, World.finished_alloc, Allocation.drained_blobbers,
    newDownloadRequest_drained, World.finished_numBlockDownloads]
  repeat' split
  all_goals exact ⟨rfl, by simp [World.finished, World.spawn]⟩

/-- `downloadFromAuthTicket` reads no bookkeeping. -/
theorem downloadFromAuthTicket_finished (localPath authTicket remoteLookupHash
    remoteFilename : String) (contentMode : ContentMode) :
    SameOutcome
      (downloadFromAuthTicket env w.finished localPath authTicket remoteLookupHash remoteFilename
        contentMode)
      (downloadFromAuthTicket env w localPath authTicket remoteLookupHash remoteFilename
        contentMode) := by
  refine SameOutcome.whenWritable w ?_
  simp only [World.finished_fs, World.finished_alloc, Allocation.drained_blobbers,
    newDownloadRequest_drained, World.finished_numBlockDownloads]
  repeat' split
  all_goals exact ⟨rfl, by simp [World.finished, World.spawn]⟩

/-- `ListDir` reads no bookkeeping. -/
theorem listDir_finished (path : String) :
    SameOutcome (listDir env w.finished path) (listDir env w path) := by
  refine SameOutcome.whenInitialized w ?_
  simp only [World.finished_alloc, pathListRequest_drained, World.finished_ns]
  repeat' split
  all_goals exact ⟨rfl, by simp only [World.finished_build, World.finished_finished]⟩

/-- `ListDirFromAuthTicket` reads no bookkeeping. -/
theorem listDirFromAuthTicket_finished (authTicket lookupHash : String) :
    SameOutcome (listDirFromAuthTicket env w.finished authTicket lookupHash)
      (listDirFromAuthTicket env w authTicket lookupHash) := by
  refine SameOutcome.whenInitialized w ?_
  simp only [World.finished_alloc, ticketListRequest_drained, World.finished_ns]
  repeat' split
  all_goals exact ⟨rfl, by simp only [World.finished_build, World.finished_finished]⟩

/-- `GetFileMeta` reads no bookkeeping. -/
theorem getFileMeta_finished (path : String) :
    SameOutcome (getFileMeta env w.finished path) (getFileMeta env w path) := by
  unfold getFileMeta
  simp only [World.finished_alloc, pathListRequest_drained, World.finished_ns]
  split
  all_goals exact ⟨rfl, by simp only [World.finished_build, World.finished_finished]⟩

/-- `GetFileMetaFromAuthTicket` reads no bookkeeping. -/
theorem getFileMetaFromAuthTicket_finished (authTicket lookupHash : String) :
    SameOutcome (getFileMetaFromAuthTicket env w.finished authTicket lookupHash)
      (getFileMetaFromAuthTicket env w authTicket lookupHash) := by
  unfold getFileMetaFromAuthTicket
  simp only [World.finished_alloc, ticketListRequest_drained, World.finished_ns]
  repeat' split
  all_goals exact ⟨rfl, by simp only [World.finished_build, World.finished_finished]⟩

/-- `GetFileStats` reads no bookkeeping. -/
theorem getFileStats_finished (path : String) :
    SameOutcome (getFileStats env w.finished path) (getFileStats env w path) := by
  refine SameOutcome.whenInitialized w ?_
  simp only [World.finished_alloc, pathListRequest_drained, World.finished_ns]
  repeat' split
  all_goals exact ⟨rfl, by simp only [World.finished_build, World.finished_finished]⟩

/-- `GetAuthTicket` and `GetAuthTicketForShare` read no bookkeeping. -/
theorem getAuthTicket_finished (directory path filename referenceType refereeClientID
    refereeEncryptionPublicKey : String) :
    SameOutcome
      (getAuthTicket env directory w.finished path filename referenceType refereeClientID
        refereeEncryptionPublicKey)
      (getAuthTicket env directory w path filename referenceType refereeClientID
        refereeEncryptionPublicKey) := by
  refine SameOutcome.whenInitialized w ?_
  simp only [World.finished_alloc, Allocation.drained_id, Allocation.drained_blobbers,
    Allocation.drained_ctx]
  repeat' split
  all_goals exact ⟨rfl, by simp only [World.finished_build, World.finished_finished]⟩

/-- `DeleteFile` reads no bookkeeping. -/
theorem deleteFile_finished (path : String) :
    SameOutcome (deleteFile env w.finished path) (deleteFile env w path) := by
  refine SameOutcome.whenWritable w ?_
  simp only [World.finished_alloc, Allocation.drained_blobbers, Allocation.drained_id,
    Allocation.drained_tx, Allocation.drained_fullconsensus, Allocation.drained_ctx,
    World.finished_ns]
  split
  all_goals exact ⟨rfl, by simp [World.finished, World.build]⟩

/-- `RenameObject` reads no bookkeeping. -/
theorem renameObject_finished (path destName : String) :
    SameOutcome (renameObject env w.finished path destName) (renameObject env w path destName) := by
  refine SameOutcome.whenWritable w ?_
  simp only [World.finished_alloc, Allocation.drained_blobbers, Allocation.drained_id,
    Allocation.drained_tx, Allocation.drained_fullconsensus, Allocation.drained_ctx,
    World.finished_ns]
  split
  all_goals exact ⟨rfl, by simp [World.finished, World.build]⟩

/-- `CopyObject` reads no bookkeeping. -/
theorem copyObject_finished (path destPath : String) :
    SameOutcome (copyObject env w.finished path destPath) (copyObject env w path destPath) := by
  refine SameOutcome.whenWritable w ?_
  simp only [World.finished_alloc, copyRequest_drained, World.finished_ns]
  repeat' split
  all_goals exact ⟨rfl, by simp [World.finished, World.build]⟩

/-- `MoveObject` is `CopyObject` then `DeleteFile`, each blind to the bookkeeping. -/
theorem moveObject_finished (path destPath : String) :
    SameOutcome (moveObject env w.finished path destPath) (moveObject env w path destPath) := by
  obtain ⟨x, v₁, v₂, h₁, h₂, hv⟩ :=
    (copyObject_finished env w path destPath).exists_pair
  unfold moveObject
  rw [h₁, h₂]
  rcases x with e | ⟨⟩
  · exact ⟨rfl, hv⟩
  · exact SameOutcome.of_finished (deleteFile env · path) (deleteFile_finished env · path) hv

/-- The meta lookup of `CommitMetaTransaction` reads no bookkeeping. -/
theorem resolveFileMeta_finished (path authTicket lookupHash : String)
    (fileMeta : Option ConsolidatedFileMeta) :
    SameOutcome (resolveFileMeta env w.finished path authTicket lookupHash fileMeta)
      (resolveFileMeta env w path authTicket lookupHash fileMeta) := by
  unfold resolveFileMeta
  cases fileMeta with
  | some m => exact ⟨rfl, w.finished_finished⟩
  | none =>
    dsimp only
    split
    · obtain ⟨x, v₁, v₂, h₁, h₂, hv⟩ := (getFileMeta_finished env w path).exists_pair
      rw [h₁, h₂]
      rcases x with _ | _ <;> exact ⟨rfl, hv⟩
    · split
      · obtain ⟨y, u₁, u₂, g₁, g₂, hu⟩ :=
          (getFileMetaFromAuthTicket_finished env w authTicket lookupHash).exists_pair
        rw [g₁, g₂]
        rcases y with _ | _ <;> exact ⟨rfl, hu⟩
      · exact ⟨rfl, w.finished_finished⟩

/-- `CommitMetaTransaction` reads no bookkeeping. -/
theorem commitMetaTransaction_finished (path crudOperation authTicket lookupHash : String)
    (fileMeta : Option ConsolidatedFileMeta) :
    SameOutcome
      (commitMetaTransaction env w.finished path crudOperation authTicket lookupHash fileMeta)
      (commitMetaTransaction env w path crudOperation authTicket lookupHash fileMeta) := by
  obtain ⟨x, v₁, v₂, h₁, h₂, hv⟩ :=
    (resolveFileMeta_finished env w path authTicket lookupHash fileMeta).exists_pair
  refine SameOutcome.whenWritable w ?_
  rw [h₁, h₂]
  rcases x with _ | _
  · exact ⟨rfl, hv⟩
  · exact ⟨rfl, by simp only [World.finished_build, hv]⟩

end

/-- The calls that read the progress maps, which the goroutines write: `CancelUpload` and
`CancelDownload`. -/
def Op.readsProgressMaps : Op → Bool
  | .cancelUpload _ | .cancelDownload _ => true
  | _ => false

section

variable {Fs Ns : Type} (env : Env Fs Ns) (directory : String)

/-- Every call but the cancels returns the same result, and leaves the same state up to the
bookkeeping, whatever the goroutines have done before it. -/
theorem Op.apply_finished {op : Op} (h : op.readsProgressMaps = false) (w : World Fs Ns) :
    SameOutcome (op.apply env directory w.finished) (op.apply env directory w) := by
  cases op with
  | initAllocation => exact ⟨rfl, by simp [Op.apply, World.finished, World.initAllocation]⟩
  | updateFile l r | uploadFile l r | repairFile l r | encryptAndUpdateFile l r
  | encryptAndUploadFile l r => apply uploadOrUpdateFile_finished
  | updateFileWithThumbnail l r t | uploadFileWithThumbnail l r t
  | encryptAndUpdateFileWithThumbnail l r t | encryptAndUploadFileWithThumbnail l r t =>
    apply uploadOrUpdateFile_finished
  | downloadFile l r | downloadThumbnail l r => apply downloadFile_finished
  | downloadFromAuthTicket l t k f | downloadThumbnailFromAuthTicket l t k f =>
    apply downloadFromAuthTicket_finished
  | listDir p => exact (listDir_finished env w p).discardResult
  | listDirFromAuthTicket t k => exact (listDirFromAuthTicket_finished env w t k).discardResult
  | getFileMeta p => exact (getFileMeta_finished env w p).discardResult
  | getFileMetaFromAuthTicket t k =>
    exact (getFileMetaFromAuthTicket_finished env w t k).discardResult
  | getFileStats p => exact (getFileStats_finished env w p).discardResult
  | deleteFile p => exact deleteFile_finished env w p
  | renameObject p d => exact renameObject_finished env w p d
  | copyObject p d => exact copyObject_finished env w p d
  | moveObject p d => exact moveObject_finished env w p d
  | getAuthTicketForShare p f r c =>
    exact (getAuthTicket_finished env w directory p f r c "").discardResult
  | getAuthTicket p f r c k =>
    exact (getAuthTicket_finished env w directory p f r c k).discardResult
  | cancelUpload _ | cancelDownload _ => cases h
  | commitMetaTransaction p c t k m => exact commitMetaTransaction_finished env w p c t k m
  | updateRepairStatus v =>
    exact ⟨rfl, by simp [Op.apply, World.finished, World.updateRepairStatus]⟩

/-- Running one more call after a run. -/
theorem Op.run_append_singleton (w : World Fs Ns) (ops : List Op) (op : Op) :
    Op.run env directory w (ops ++ [op]) =
      ((Op.run env directory w ops).1 ++
          [(op.apply env directory (Op.run env directory w ops).2).1],
        (op.apply env directory (Op.run env directory w ops).2).2) := by
  induction ops generalizing w with
  | nil => rfl
  | cons op' ops ih =>
    rw [List.cons_append, Op.run, Op.run, ih]
    rfl

/-- The runs from `w₀` with their calls and what the calls returned: `ops` are the calls in
the order they were made, `rs` their results, and the goroutines step in between. -/
inductive CallRun (w₀ : World Fs Ns) :
    List Op → List (Except SdkError Unit) → World Fs Ns → Prop
  | init : CallRun w₀ [] [] w₀
  | call {ops : List Op} {rs : List (Except SdkError Unit)} {w : World Fs Ns} (op : Op) :
      CallRun w₀ ops rs w →
      CallRun w₀ (ops ++ [op]) (rs ++ [(op.apply env directory w).1]) (op.apply env directory w).2
  | background {ops : List Op} {rs : List (Except SdkError Unit)} {w w' : World Fs Ns}
      (b : Background) :
      CallRun w₀ ops rs w → w.background b = some w' → CallRun w₀ ops rs w'

variable {env directory} {w₀ w : World Fs Ns}

/-- A run with its calls recorded is a run. -/
theorem CallRun.reachable {ops : List Op} {rs : List (Except SdkError Unit)}
    (h : CallRun env directory w₀ ops rs w) : Reachable env directory w₀ w := by
  induction h with
  | init => exact .init
  | call op _ ih => exact .step ih (.call op _)
  | background b _ hb ih => exact .step ih (.background b hb)

/-- Goroutine steps extend a recorded run and leave its calls as they were. -/
theorem CallRun.steps {ops : List Op} {rs : List (Except SdkError Unit)}
    (h : CallRun env directory w₀ ops rs w) (bs : List Background) :
    CallRun env directory w₀ ops rs (w.steps bs) := by
  induction bs generalizing w with
  | nil => exact h
  | cons b bs ih =>
    cases hb : w.background b with
    | none => simpa [World.steps, hb] using ih h
    | some w' => simpa [World.steps, hb] using ih (.background b h hb)

/-- Every run can be recorded with its calls. -/
theorem Reachable.exists_callRun (h : Reachable env directory w₀ w) :
    ∃ ops rs, CallRun env directory w₀ ops rs w := by
  induction h with
  | init => exact ⟨[], [], .init⟩
  | step _ hs ih =>
    obtain ⟨ops, rs, hr⟩ := ih
    cases hs with
    | call op => exact ⟨_, _, .call op hr⟩
    | background b hb => exact ⟨ops, rs, .background b hr hb⟩

end

/-- The sample allocation with local files `f` and `g`. -/
def sampleUploads : World LocalFs RemoteNs :=
  sampleWorld 2 2 [("f", ⟨false, 8⟩), ("g", ⟨false, 4⟩)] sampleNs

/-- `UploadFile("f", "/a")`; its goroutine's send and registration and the dispatcher's receive;
`UploadFile("g", "/b")` while the first upload runs; and the first upload's completion. -/
def sampleInterleaved : World LocalFs RemoteNs :=
  ((Op.uploadFile "g" "/b").apply (sampleEnv 0) "d"
    (((Op.uploadFile "f" "/a").apply (sampleEnv 0) "d" sampleUploads).2.steps
      [.send 0, .register 0, .dispatch true])).2.steps [.complete 0]

/- A cancel sees the goroutines: once the upload's goroutine has registered it,
`CancelUpload("f")` succeeds, where right after the upload it fails. -/
example : ∃ rs w, CallRun (sampleEnv 0) "d" sampleUploads
    [Op.uploadFile "f" "/a", Op.cancelUpload "f"] rs w ∧
      rs.map Except.toBool = [true, true] ∧ (Op.run (sampleEnv 0) "d" sampleUploads
        [Op.uploadFile "f" "/a", Op.cancelUpload "f"]).1.map Except.toBool = [true, false] :=
  ⟨_, _, ((CallRun.call (Op.uploadFile "f" "/a") .init).steps [.send 0, .register 0]).call
    (Op.cancelUpload "f"), by decide⟩

end ZboxSdk
