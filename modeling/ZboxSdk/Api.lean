import ZboxSdk.Objects
import ZboxSdk.Repair

/-!
# The public operations, and the repair flag over runs

Every public operation of `Allocation` as one call type `Op`, with `Op.apply` running a call
on a world and `Op.run` running a list of calls. The repair flag changes in exactly two
places: a `RepairFile` that returns nil sets it, and `UpdateRepairStatus` sets it to its
argument; while it is set, every mutating call is turned away with no effect. The flag after
a run is the one its last repair event set.
-/

namespace ZboxSdk

/-- `InitAllocation`: fresh channels and progress maps, a cancellable child of the background
context, and the `initialized` flag. Starting the dispatcher, `InitCommitWorker` and
`InitBlockDownloader` are left out. -/
def Allocation.initAllocation (a : Allocation) : Allocation :=
  { a with
    uploadChan := []
    downloadChan := []
    ctx := some (.withCancel .background)
    uploadProgressMap := fun _ => none
    downloadProgressMap := fun _ => none
    initialized := true }

/-- `InitAllocation` keeps the repair flag. -/
@[simp] theorem Allocation.initAllocation_underRepair (a : Allocation) :
    a.initAllocation.underRepair = a.underRepair := rfl

section

variable {Fs Ns : Type}

/-- `InitAllocation` on the world's allocation. -/
def World.initAllocation (w : World Fs Ns) : World Fs Ns := { w with alloc := w.alloc.initAllocation }

/-- Set the cancel flag of the job with id `id`. -/
def World.cancelJob (w : World Fs Ns) (id : ℕ) : World Fs Ns :=
  { w with jobs := w.jobs.modify (fun j => { j with canceled := true }) id }

/-- Setting a cancel flag leaves the allocation record alone. -/
@[simp] theorem World.cancelJob_alloc (w : World Fs Ns) (id : ℕ) : (w.cancelJob id).alloc = w.alloc :=
  rfl

/-- The lookup of `CancelUpload` and `CancelDownload`: the request registered under `path` in
`progressMap` gets its cancel flag set, and with none registered the call fails with `code`
and `msg` followed by the path. -/
def cancelRegistered (w : World Fs Ns) (progressMap : String → Option ℕ) (code msg path : String) :
    Except SdkError Unit × World Fs Ns :=
  match progressMap path with
  | some id => (.ok (), w.cancelJob id)
  | none => (.error (.coded code (msg ++ path)), w)

/-- `CancelUpload`. -/
def cancelUpload (w : World Fs Ns) (localpath : String) : Except SdkError Unit × World Fs Ns :=
  cancelRegistered w w.alloc.uploadProgressMap "local_path_not_found"
    "Invalid path. Do upload in progress for the path " localpath

/-- `CancelDownload`. -/
def cancelDownload (w : World Fs Ns) (remotepath : String) : Except SdkError Unit × World Fs Ns :=
  cancelRegistered w w.alloc.downloadProgressMap "remote_path_not_found"
    "Invalid path. Do download in progress for the path " remotepath

/-- A cancel succeeds exactly when a request is registered under the path, and then only sets
that job's cancel flag; otherwise it fails with the world unchanged. -/
theorem cancelRegistered_spec {w : World Fs Ns} {progressMap : String → Option ℕ}
    {code msg path : String} :
    (∃ id, progressMap path = some id ∧
        cancelRegistered w progressMap code msg path = (.ok (), w.cancelJob id)) ∨
      (progressMap path = none ∧
        cancelRegistered w progressMap code msg path = (.error (.coded code (msg ++ path)), w)) := by
  unfold cancelRegistered
  split
  · exact .inl ⟨_, ‹_›, rfl⟩
  · exact .inr ⟨‹_›, rfl⟩

/-- A cancel leaves the allocation record alone, whether it finds a request or not. -/
theorem cancelRegistered_alloc {w : World Fs Ns} {progressMap : String → Option ℕ}
    {code msg path : String} : (cancelRegistered w progressMap code msg path).2.alloc = w.alloc := by
  rcases @cancelRegistered_spec _ _ w progressMap code msg path with ⟨id, -, h⟩ | ⟨-, h⟩
  · rw [h]; rfl
  · rw [h]

/-- A cancel leaves the jobs as they were, or sets the cancel flag of one of them. -/
theorem cancelRegistered_jobs {w : World Fs Ns} {progressMap : String → Option ℕ}
    {code msg path : String} : (cancelRegistered w progressMap code msg path).2.jobs = w.jobs ∨
      ∃ id, (cancelRegistered w progressMap code msg path).2.jobs = (w.cancelJob id).jobs := by
  rcases @cancelRegistered_spec _ _ w progressMap code msg path with ⟨id, -, h⟩ | ⟨-, h⟩
  · exact .inr ⟨id, by rw [h]⟩
  · exact .inl (by rw [h])

/-- The result of a call that returns a value, with the value dropped. -/
def discardResult {α : Type} (r : Except SdkError α × World Fs Ns) :
    Except SdkError Unit × World Fs Ns :=
  (r.1.map fun _ => (), r.2)

/-- Dropping a call's result keeps the world it left. -/
@[simp] theorem discardResult_world {α : Type} (r : Except SdkError α × World Fs Ns) :
    (discardResult r).2 = r.2 := rfl

end

/-- A call of one of `Allocation`'s public operations with its arguments; the status
callbacks are left out. -/
inductive Op
  | initAllocation
  | updateFile (localpath remotepath : String)
  | uploadFile (localpath remotepath : String)
  | repairFile (localpath remotepath : String)
  | updateFileWithThumbnail (localpath remotepath thumbnailpath : String)
  | uploadFileWithThumbnail (localpath remotepath thumbnailpath : String)
  | encryptAndUpdateFile (localpath remotepath : String)
  | encryptAndUploadFile (localpath remotepath : String)
  | encryptAndUpdateFileWithThumbnail (localpath remotepath thumbnailpath : String)
  | encryptAndUploadFileWithThumbnail (localpath remotepath thumbnailpath : String)
  | downloadFile (localPath remotePath : String)
  | downloadThumbnail (localPath remotePath : String)
  | downloadFromAuthTicket (localPath authTicket remoteLookupHash remoteFilename : String)
  | downloadThumbnailFromAuthTicket (localPath authTicket remoteLookupHash remoteFilename : String)
  | listDir (path : String)
  | listDirFromAuthTicket (authTicket lookupHash : String)
  | getFileMeta (path : String)
  | getFileMetaFromAuthTicket (authTicket lookupHash : String)
  | getFileStats (path : String)
  | deleteFile (path : String)
  | renameObject (path destName : String)
  | copyObject (path destPath : String)
  | moveObject (path destPath : String)
  | getAuthTicketForShare (path filename referenceType refereeClientID : String)
  | getAuthTicket (path filename referenceType refereeClientID refereeEncryptionPublicKey : String)
  | cancelUpload (localpath : String)
  | cancelDownload (remotepath : String)
  | commitMetaTransaction (path crudOperation authTicket lookupHash : String)
      (fileMeta : Option ConsolidatedFileMeta)
  | updateRepairStatus (value : Bool)

namespace Op

section

variable {Fs Ns : Type} (env : Env Fs Ns) (directory : String)

/-- Run one call. `directory` is `fileref.DIRECTORY`, which `GetAuthTicket` compares the
reference type with. -/
def apply : Op → World Fs Ns → Except SdkError Unit × World Fs Ns
  | .initAllocation, w => (.ok (), w.initAllocation)
  | .updateFile l r, w => ZboxSdk.updateFile env w l r
  | .uploadFile l r, w => ZboxSdk.uploadFile env w l r
  | .repairFile l r, w => ZboxSdk.repairFile env w l r
  | .updateFileWithThumbnail l r t, w => ZboxSdk.updateFileWithThumbnail env w l r t
  | .uploadFileWithThumbnail l r t, w => ZboxSdk.uploadFileWithThumbnail env w l r t
  | .encryptAndUpdateFile l r, w => ZboxSdk.encryptAndUpdateFile env w l r
  | .encryptAndUploadFile l r, w => ZboxSdk.encryptAndUploadFile env w l r
  | .encryptAndUpdateFileWithThumbnail l r t, w =>
    ZboxSdk.encryptAndUpdateFileWithThumbnail env w l r t
  | .encryptAndUploadFileWithThumbnail l r t, w =>
    ZboxSdk.encryptAndUploadFileWithThumbnail env w l r t
  | .downloadFile l r, w => ZboxSdk.downloadFile env w l r .full
  | .downloadThumbnail l r, w => ZboxSdk.downloadFile env w l r .thumb
  | .downloadFromAuthTicket l t h f, w => ZboxSdk.downloadFromAuthTicket env w l t h f .full
  | .downloadThumbnailFromAuthTicket l t h f, w =>
    ZboxSdk.downloadFromAuthTicket env w l t h f .thumb
  | .listDir p, w => discardResult (ZboxSdk.listDir env w p)
  | .listDirFromAuthTicket t h, w => discardResult (ZboxSdk.listDirFromAuthTicket env w t h)
  | .getFileMeta p, w => discardResult (ZboxSdk.getFileMeta env w p)
  | .getFileMetaFromAuthTicket t h, w =>
    discardResult (ZboxSdk.getFileMetaFromAuthTicket env w t h)
  | .getFileStats p, w => discardResult (ZboxSdk.getFileStats env w p)
  | .deleteFile p, w => ZboxSdk.deleteFile env w p
  | .renameObject p d, w => ZboxSdk.renameObject env w p d
  | .copyObject p d, w => ZboxSdk.copyObject env w p d
  | .moveObject p d, w => ZboxSdk.moveObject env w p d
  | .getAuthTicketForShare p f r c, w =>
    discardResult (ZboxSdk.getAuthTicket env directory w p f r c "")
  | .getAuthTicket p f r c k, w => discardResult (ZboxSdk.getAuthTicket env directory w p f r c k)
  | .cancelUpload l, w => ZboxSdk.cancelUpload w l
  | .cancelDownload r, w => ZboxSdk.cancelDownload w r
  | .commitMetaTransaction p c t h m, w => ZboxSdk.commitMetaTransaction env w p c t h m
  | .updateRepairStatus v, w => (.ok (), w.updateRepairStatus v)

/-- Run calls one after another, with their results. -/
def run : World Fs Ns → List Op → List (Except SdkError Unit) × World Fs Ns
  | w, [] => ([], w)
  | w, op :: ops =>
    let r := op.apply env directory w
    let rest := run r.2 ops
    (r.1 :: rest.1, rest.2)

end

/-- The calls that write to the blobbers, enqueue work, or commit meta: the uploads, updates
and repairs, the downloads, delete, rename, copy, move and the meta commit. -/
def isMutating : Op → Bool
  | .updateFile .. | .uploadFile .. | .repairFile .. | .updateFileWithThumbnail ..
  | .uploadFileWithThumbnail .. | .encryptAndUpdateFile .. | .encryptAndUploadFile ..
  | .encryptAndUpdateFileWithThumbnail .. | .encryptAndUploadFileWithThumbnail ..
  | .downloadFile .. | .downloadThumbnail .. | .downloadFromAuthTicket ..
  | .downloadThumbnailFromAuthTicket .. | .deleteFile .. | .renameObject .. | .copyObject ..
  | .moveObject .. | .commitMetaTransaction .. => true
  | _ => false

/-- What a call that returned `result` did to the repair flag: a `RepairFile` that returns nil
sets it, `UpdateRepairStatus(value)` sets it to `value`, and no other call touches it. -/
def repairEvent : Op → Except SdkError Unit → Option Bool
  | .repairFile _ _, .ok () => some true
  | .updateRepairStatus value, .ok () => some value
  | _, _ => none

section

variable {Fs Ns : Type} (env : Env Fs Ns) (directory : String)

/-- What a call does to the allocation record: nothing, and then it has no repair event; set
the repair flag to the value of its repair event; or, for `InitAllocation`, reinitialize it. -/
theorem apply_alloc (op : Op) (w : World Fs Ns) :
    ((op.apply env directory w).2.alloc = w.alloc ∧
        op.repairEvent (op.apply env directory w).1 = none) ∨
      (∃ v, op.repairEvent (op.apply env directory w).1 = some v ∧
        (op.apply env directory w).2.alloc = w.alloc.updateRepairStatus v) ∨
      (op = .initAllocation ∧ (op.apply env directory w).2.alloc = w.alloc.initAllocation) := by
  cases op with
  | initAllocation => exact .inr (.inr ⟨rfl, rfl⟩)
  | repairFile l p =>
    cases h : (ZboxSdk.repairFile env w l p).1 with
    | ok u =>
      exact .inr (.inl ⟨true, congrArg (repairEvent (.repairFile l p)) h,
        (repairFile_ok env h).2.2.1⟩)
    | error e =>
      refine .inl ⟨(uploadOrUpdateFile_alloc env).resolve_right fun hr => ?_,
        congrArg (repairEvent (.repairFile l p)) h⟩
      rw [ZboxSdk.repairFile, hr.2.1] at h
      cases h
  | updateRepairStatus v => exact .inr (.inl ⟨v, rfl, rfl⟩)
  | updateFile | uploadFile | updateFileWithThumbnail | uploadFileWithThumbnail
  | encryptAndUpdateFile | encryptAndUploadFile | encryptAndUpdateFileWithThumbnail
  | encryptAndUploadFileWithThumbnail => exact .inl ⟨uploadOrUpdateFile_alloc_of_not_repair env, rfl⟩
  | downloadFile | downloadThumbnail => exact .inl ⟨downloadFile_alloc env, rfl⟩
  | downloadFromAuthTicket | downloadThumbnailFromAuthTicket =>
    exact .inl ⟨downloadFromAuthTicket_alloc env, rfl⟩
  | listDir => exact .inl ⟨(listDir_readOnly env).1, rfl⟩
  | listDirFromAuthTicket => exact .inl ⟨(listDirFromAuthTicket_readOnly env).1, rfl⟩
  | getFileMeta =>
    exact .inl ⟨(congrArg World.alloc (getFileMeta_world env)).trans (World.build_alloc _ _), rfl⟩
  | getFileMetaFromAuthTicket => exact .inl ⟨(getFileMetaFromAuthTicket_readOnly env).1, rfl⟩
  | getFileStats => exact .inl ⟨(getFileStats_readOnly env).1, rfl⟩
  | deleteFile => exact .inl ⟨(deleteFile_frame env).1, rfl⟩
  | renameObject => exact .inl ⟨(renameObject_frame env).1, rfl⟩
  | copyObject => exact .inl ⟨(copyObject_frame env).1, rfl⟩
  | moveObject => exact .inl ⟨(moveObject_frame env).1, rfl⟩
  | getAuthTicketForShare | getAuthTicket => exact .inl ⟨(getAuthTicket_readOnly env).1, rfl⟩
  | cancelUpload | cancelDownload => exact .inl ⟨cancelRegistered_alloc, rfl⟩
  | commitMetaTransaction => exact .inl ⟨(commitMetaTransaction_frame env).1, rfl⟩

/-- The flag after a call is the one the call's repair event set, or the flag before. -/
theorem apply_underRepair (op : Op) (w : World Fs Ns) :
    (op.apply env directory w).2.alloc.underRepair =
      (op.repairEvent (op.apply env directory w).1).getD w.alloc.underRepair := by
  rcases apply_alloc env directory op w with ⟨h, he⟩ | ⟨v, he, h⟩ | ⟨rfl, h⟩
  · rw [h, he, Option.getD_none]
  · rw [h, he, Option.getD_some, Allocation.updateRepairStatus_underRepair]
  · rw [h]
    rfl

/-- What a call does to the goroutines: nothing; spawn one whose callback deletes the key it
registers under; or set the cancel flag of one. -/
theorem apply_jobs (op : Op) (w : World Fs Ns) :
    (op.apply env directory w).2.jobs = w.jobs ∨
      (∃ a : AsyncRequest, (op.apply env directory w).2.jobs =
        w.jobs ++ [⟨a, a.completedKey, .sending, .idle, false⟩]) ∨
      ∃ id, (op.apply env directory w).2.jobs = (w.cancelJob id).jobs := by
  have spawned : ∀ {jobs : List Job} {k : String},
      (jobs = w.jobs ∨ ∃ a : AsyncRequest, a.completedKey = k ∧
        jobs = w.jobs ++ [⟨a, k, .sending, .idle, false⟩]) →
      jobs = w.jobs ∨
        (∃ a : AsyncRequest, jobs = w.jobs ++ [⟨a, a.completedKey, .sending, .idle, false⟩]) ∨
        ∃ id, jobs = (w.cancelJob id).jobs := by
    rintro jobs k (h | ⟨a, rfl, h⟩)
    · exact .inl h
    · exact .inr (.inl ⟨a, h⟩)
  cases op with
  | initAllocation | updateRepairStatus => exact .inl rfl
  | updateFile | uploadFile | repairFile | updateFileWithThumbnail | uploadFileWithThumbnail
  | encryptAndUpdateFile | encryptAndUploadFile | encryptAndUpdateFileWithThumbnail
  | encryptAndUploadFileWithThumbnail => exact spawned (uploadOrUpdateFile_jobs env)
  | downloadFile | downloadThumbnail => exact spawned (downloadFile_jobs env)
  | downloadFromAuthTicket | downloadThumbnailFromAuthTicket =>
    exact spawned (downloadFromAuthTicket_jobs env)
  | listDir => exact .inl (listDir_readOnly env).2.2.2
  | listDirFromAuthTicket => exact .inl (listDirFromAuthTicket_readOnly env).2.2.2
  | getFileMeta =>
    exact .inl ((congrArg World.jobs (getFileMeta_world env)).trans (World.build_jobs _ _))
  | getFileMetaFromAuthTicket => exact .inl (getFileMetaFromAuthTicket_readOnly env).2.2.2
  | getFileStats => exact .inl (getFileStats_readOnly env).2.2.2
  | deleteFile => exact .inl (deleteFile_frame env).2
  | renameObject => exact .inl (renameObject_frame env).2
  | copyObject => exact .inl (copyObject_frame env).2
  | moveObject => exact .inl (moveObject_frame env).2
  | getAuthTicketForShare | getAuthTicket => exact .inl (getAuthTicket_readOnly env).2.2.2
  | commitMetaTransaction => exact .inl (commitMetaTransaction_frame env).2
  | cancelUpload | cancelDownload => exact cancelRegistered_jobs.imp_right .inr

/-- While the flag is set, every mutating call returns its guards' error, `notInitialized` on
an allocation that is not initialized and `underRepair` on one that is, with the world
unchanged. -/
theorem apply_of_underRepair {op : Op} {w : World Fs Ns} (hrepair : w.alloc.underRepair = true)
    (hop : op.isMutating = true) : op.apply env directory w =
      (.error (if w.isInitialized then underRepair else notInitialized), w) := by
  cases op
  case moveObject p d =>
    simp only [apply, ZboxSdk.moveObject, ZboxSdk.copyObject,
      World.whenWritable_of_underRepair hrepair]
  all_goals first
    | exact absurd hop Bool.false_ne_true
    | exact World.whenWritable_of_underRepair hrepair _

/-- While the flag is set, every mutating call is turned away with the world unchanged. -/
theorem apply_rejected {op : Op} {w : World Fs Ns} (hrepair : w.alloc.underRepair = true)
    (hop : op.isMutating = true) : w.Rejected (op.apply env directory w) := by
  rw [apply_of_underRepair env directory hrepair hop]
  exact ⟨rfl, by split <;> simp⟩

/-- A call that returns an error sets no repair event. -/
@[simp] theorem repairEvent_error (op : Op) (e : SdkError) : op.repairEvent (.error e) = none := by
  cases op <;> rfl

/-- The repair flag over every call. After a call the flag is the one the call set, or the
flag before: a call that returns an error leaves it as it was, a `RepairFile` that returns nil
sets it, having found the file on some blobbers but not on all addressed ones, and only
`UpdateRepairStatus(value)` sets it to `value`. While it is set, every upload, download,
namespace and meta-commit call is turned away with the world unchanged. -/
theorem apply_repairFlag (op : Op) (w : World Fs Ns) :
    (op.apply env directory w).2.alloc.underRepair =
        (op.repairEvent (op.apply env directory w).1).getD w.alloc.underRepair ∧
      (∀ e, (op.apply env directory w).1 = .error e →
        (op.apply env directory w).2.alloc.underRepair = w.alloc.underRepair) ∧
      (∀ localpath remotepath, op = .repairFile localpath remotepath →
        (op.apply env directory w).1 = .ok () → ∃ found ref,
          env.getFileConsensusFromBlobbers w.ns (pathListRequest w.alloc
            (env.getFullRemotePath localpath (env.remoteClean remotepath))) = (found, some ref) ∧
          found ≠ fullMask w.alloc.blobbers.length) ∧
      (w.alloc.underRepair = true → op.isMutating = true →
        w.Rejected (op.apply env directory w)) := by
  refine ⟨apply_underRepair env directory op w, fun e he => ?_, fun l p hop hok => ?_,
    fun hrepair hop => apply_rejected env directory hrepair hop⟩
  · rw [apply_underRepair, he, repairEvent_error, Option.getD_none]
  · subst hop
    exact (repairFile_ok env hok).2.2.2

/-- The flag after a run is the one its last repair event set, or the flag the run started
from when it has none. -/
theorem run_underRepair (w : World Fs Ns) (ops : List Op) :
    (run env directory w ops).2.alloc.underRepair =
      (List.zipWith repairEvent ops (run env directory w ops).1).foldl
        (fun flag event => event.getD flag) w.alloc.underRepair := by
  induction ops generalizing w with
  | nil => rfl
  | cons op ops ih =>
    simp only [run, List.zipWith_cons_cons, List.foldl_cons]
    rw [ih, apply_underRepair]

end

/-- The calls that build a blobber request or enqueue work. -/
def buildsRequest : Op → Bool
  | .initAllocation | .cancelUpload _ | .cancelDownload _ | .updateRepairStatus _ => false
  | _ => true

/-- The remote path a call cleans with `RemoteClean` and checks with `IsRemoteAbs`: the remote
path of an upload, and the path of `ListDir`, `GetFileStats`, `DeleteFile`, `RenameObject`,
`CopyObject`, `MoveObject` and `GetAuthTicket`. -/
def checkedPath : Op → Option String
  | .updateFile _ r | .uploadFile _ r | .repairFile _ r | .updateFileWithThumbnail _ r _
  | .uploadFileWithThumbnail _ r _ | .encryptAndUpdateFile _ r | .encryptAndUploadFile _ r
  | .encryptAndUpdateFileWithThumbnail _ r _ | .encryptAndUploadFileWithThumbnail _ r _ => some r
  | .listDir p | .getFileStats p | .deleteFile p | .renameObject p _ | .copyObject p _
  | .moveObject p _ | .getAuthTicketForShare p _ _ _ | .getAuthTicket p _ _ _ _ => some p
  | _ => none

section

variable {Fs Ns : Type} (env : Env Fs Ns) (directory : String) {op : Op} {w : World Fs Ns}

/-- On an allocation that is not initialized, every call that builds a request or enqueues
work returns `notInitialized` with no effect, except `GetFileMeta` and
`GetFileMetaFromAuthTicket`. -/
theorem apply_of_not_initialized (hinit : w.isInitialized = false)
    (hop : op.buildsRequest = true) (hmeta : ∀ p, op ≠ .getFileMeta p)
    (hticket : ∀ t h, op ≠ .getFileMetaFromAuthTicket t h) :
    op.apply env directory w = (.error notInitialized, w) := by
  have hdiscard : ∀ {α : Type} (k : Except SdkError α × World Fs Ns),
      discardResult (w.whenInitialized k) = (.error notInitialized, w) := fun k => by
    rw [World.whenInitialized_of_not hinit k]
    rfl
  cases op
  case listDir | listDirFromAuthTicket | getFileStats | getAuthTicketForShare | getAuthTicket =>
    exact hdiscard _
  case moveObject =>
    simp only [apply, ZboxSdk.moveObject, ZboxSdk.copyObject, World.whenWritable,
      World.whenInitialized_of_not hinit]
  all_goals first
    | exact absurd hop Bool.false_ne_true
    | exact absurd rfl (hmeta _)
    | exact absurd rfl (hticket _ _)
    | exact World.whenInitialized_of_not hinit _

/-- Before `sdkInitialized` is set, `ListDir("/f")` returns `notInitialized`. -/
theorem apply_of_not_initialized_sample :
    (Op.listDir "/f").apply (sampleEnv 0) "d"
        { sampleWorld 1 1 [] sampleNs with sdkInitialized := false } =
      (.error notInitialized, { sampleWorld 1 1 [] sampleNs with sdkInitialized := false }) :=
  apply_of_not_initialized (sampleEnv 0) "d" rfl rfl (fun _ => nofun) (fun _ _ => nofun)

/-- A call whose guards pass to a call that fails with the world unchanged fails with the
world unchanged. -/
theorem whenInitialized_error {α : Type} {k : Except SdkError α × World Fs Ns}
    (h : ∃ e, k = (.error e, w)) : ∃ e, w.whenInitialized k = (.error e, w) := by
  unfold World.whenInitialized
  split
  · exact h
  · exact ⟨_, rfl⟩

/-- A call that fails with the world unchanged still does so behind the two guards. -/
theorem whenWritable_error {α : Type} {k : Except SdkError α × World Fs Ns}
    (h : ∃ e, k = (.error e, w)) : ∃ e, w.whenWritable k = (.error e, w) := by
  refine whenInitialized_error ?_
  split
  · exact ⟨_, rfl⟩
  · exact h

/-- A call that fails with the world unchanged still does so with its result dropped. -/
theorem discardResult_error {α : Type} {r : Except SdkError α × World Fs Ns}
    (h : ∃ e, r = (.error e, w)) : ∃ e, discardResult r = (.error e, w) := by
  obtain ⟨e, rfl⟩ := h
  exact ⟨e, rfl⟩

/-- A call whose checked remote path does not clean to an absolute path fails, with no
effect. -/
theorem apply_of_not_abs {p : String} (hp : op.checkedPath = some p)
    (habs : env.isRemoteAbs (env.remoteClean p) = false) :
    ∃ e, op.apply env directory w = (.error e, w) := by
  obtain ⟨e, he, -⟩ := cleanRemotePath_not_abs env habs
  have hupload : ∀ {l t : String} {u enc rep : Bool},
      ∃ e, uploadOrUpdateFile env w l p u t enc rep = (.error e, w) := by
    intro l t u enc rep
    refine whenWritable_error ?_
    split
    · exact ⟨_, rfl⟩
    · simp only [habs, Bool.not_false, if_true]
      exact ⟨_, rfl⟩
  have hcopy : ∀ {d : String}, ∃ e, ZboxSdk.copyObject env w p d = (.error e, w) := by
    intro d
    refine whenWritable_error ?_
    split
    · exact ⟨_, rfl⟩
    · simp only [habs, Bool.not_false, if_true]
      exact ⟨_, rfl⟩
  cases op <;> simp only [checkedPath, Option.some.injEq, reduceCtorEq] at hp <;> subst hp
  case moveObject d =>
    obtain ⟨e', he'⟩ := @hcopy d
    exact ⟨e', by rw [apply, moveObject_eq, he']⟩
  case copyObject => exact hcopy
  case deleteFile | renameObject =>
    refine whenWritable_error ⟨e, ?_⟩
    rw [he]
  case listDir | getFileStats | getAuthTicketForShare | getAuthTicket =>
    refine discardResult_error (whenInitialized_error ⟨e, ?_⟩)
    rw [he]
  all_goals exact hupload

end

/-- `DeleteFile("f")`, a relative path, fails with no effect. -/
theorem apply_of_not_abs_sample :
    ∃ e, (Op.deleteFile "f").apply (sampleEnv 0) "d" (sampleWorld 1 1 [] sampleNs) =
      (.error e, sampleWorld 1 1 [] sampleNs) :=
  apply_of_not_abs (sampleEnv 0) "d" rfl rfl

end Op

end ZboxSdk
