import ZboxSdk.Requests

/-!
# The allocation, its goroutines, and its collaborators

`Allocation` keeps the fields of the Go struct that the operations read or write, its two
channels and two progress maps included. A call runs in a `World`: the allocation, the
package-level state it reads, the local filesystem, the blobbers' remote namespace, the
requests handed to the blobber protocols so far, and the goroutines that upload and
download calls leave behind. What `allocation.go` calls but does not define is an `Env`.
The theorems hold for every `Env`; `sampleEnv`, over list-backed filesystems, lets the model
run on concrete inputs.
-/

namespace ZboxSdk

/-- `Allocation`. The channels hold the ids of the jobs whose requests are buffered in
them, and the progress maps send a path to the id of the job registered under it. -/
structure Allocation where
  id : String
  tx : String
  dataShards : Int
  parityShards : Int
  blobbers : List StorageNode
  ctx : Option Context
  uploadChan : List ℕ
  downloadChan : List ℕ
  uploadProgressMap : String → Option ℕ
  downloadProgressMap : String → Option ℕ
  initialized : Bool
  underRepair : Bool

/-- `a.UpdateRepairStatus(value)`. -/
def Allocation.updateRepairStatus (a : Allocation) (value : Bool) : Allocation :=
  { a with underRepair := value }

/-- `UpdateRepairStatus` sets the repair flag to its argument. -/
@[simp] theorem Allocation.updateRepairStatus_underRepair (a : Allocation) (value : Bool) :
    (a.updateRepairStatus value).underRepair = value := rfl

/-- `UpdateRepairStatus` keeps the initialization flag. -/
@[simp] theorem Allocation.updateRepairStatus_initialized (a : Allocation) (value : Bool) :
    (a.updateRepairStatus value).initialized = a.initialized := rfl

/-- `float32(a.DataShards + a.ParityShards)`, the `fullconsensus` every request starts
from, as an exact integer. A `float32` holds every integer up to `2^24` exactly, so this is
the source's value while `DataShards + ParityShards ≤ 2^24`; above that the source rounds the
sum to the nearest `float32` and this model does not. -/
def Allocation.fullconsensus (a : Allocation) : Int := a.dataShards + a.parityShards

/-- Where the goroutine an upload or download call spawns stands: before its channel send,
between the send and its registration in the progress map, or finished. -/
inductive GoroutinePhase
  | sending
  | registering
  | exited
  deriving DecidableEq

/-- Where the request's own task stands: not yet received by the dispatcher, running
`processUpload` or `processDownload`, or completed with its `completedCallback` run. -/
inductive TaskPhase
  | idle
  | running
  | completed
  deriving DecidableEq

/-- An upload or download request with the goroutine that enqueues it and the task that
processes it. `key` is the path the goroutine registers the request under; `canceled` is
the request's `isUploadCanceled` or `isDownloadCanceled` flag. -/
structure Job where
  req : AsyncRequest
  key : String
  goroutine : GoroutinePhase
  task : TaskPhase
  canceled : Bool
  deriving DecidableEq

/-- Everything a call reads or changes: the allocation, the package-level `sdkInitialized`
and `numBlockDownloads`, the local filesystem, the remote namespace, every request handed
to a blobber protocol so far, and the jobs, a job's id being its index. -/
structure World (Fs Ns : Type) where
  alloc : Allocation
  sdkInitialized : Bool
  numBlockDownloads : Int
  fs : Fs
  ns : Ns
  sent : List Request
  jobs : List Job

/-- The collaborators `allocation.go` calls but does not define, over a local filesystem
state `Fs` and a remote namespace state `Ns`. -/
structure Env (Fs Ns : Type) where
  /-- `zboxutil.RemoteClean`. -/
  remoteClean : String → String
  /-- `zboxutil.IsRemoteAbs`. -/
  isRemoteAbs : String → Bool
  /-- `zboxutil.GetFullRemotePath(localpath, remotepath)`. -/
  getFullRemotePath : String → String → String
  /-- `os.Stat`: the file info of an existing path, or the text of the error. -/
  stat : Fs → String → Except String FileInfo
  /-- `os.MkdirAll(path, os.ModePerm)`; the code ignores its error. -/
  mkdirAll : Fs → String → Fs
  /-- `base64.StdEncoding.DecodeString`. -/
  decodeString : String → Except String (List UInt8)
  /-- `json.Unmarshal` into a fresh `marker.AuthTicket`. -/
  unmarshalAuthTicket : List UInt8 → Except String AuthTicket
  /-- `getFileConsensusFromBlobbers`: the found mask and the consensus file reference. -/
  getFileConsensusFromBlobbers : Ns → ListRequest → BitVec 32 × Option FileRef
  /-- `GetListFromBlobbers`. -/
  getListFromBlobbers : Ns → ListRequest → Option ListResult
  /-- `getFileStatsFromBlobbers`, keyed by blobber id. -/
  getFileStatsFromBlobbers : Ns → ListRequest → Option (List (String × FileStats))
  /-- `ProcessDelete`, with the namespace it leaves behind. -/
  processDelete : Ns → DeleteRequest → Except SdkError Unit × Ns
  /-- `ProcessRename`, with the namespace it leaves behind. -/
  processRename : Ns → RenameRequest → Except SdkError Unit × Ns
  /-- `ProcessCopy`, with the namespace it leaves behind. -/
  processCopy : Ns → CopyRequest → Except SdkError Unit × Ns
  /-- `ShareRequest.GetAuthTicket(refereeClientID)`. -/
  getAuthTicket : ShareRequest → String → Except SdkError String
  /-- `ShareRequest.GetAuthTicketForEncryptedFile(refereeClientID, refereeEncryptionPublicKey)`. -/
  getAuthTicketForEncryptedFile : ShareRequest → String → String → Except SdkError String

/-- `filepath.Split`: the path up to and including its last separator, and the rest. -/
def filepathSplit (path : String) : String × String :=
  (⟨(path.data.reverse.dropWhile (· ≠ '/')).reverse⟩,
    ⟨(path.data.reverse.takeWhile (· ≠ '/')).reverse⟩)

/-- `strings.TrimRight(s, "/")`. -/
def trimRightSlash (s : String) : String := ⟨(s.data.reverse.dropWhile (· = '/')).reverse⟩

/-- `len(s) == 0` holds of the empty string only. -/
theorem length_eq_zero_iff_eq_empty {s : String} : s.length = 0 ↔ s = "" := by
  cases s with
  | mk data =>
    cases data with
    | nil => simp
    | cons c cs => simp [String.length]; exact fun h => nomatch congrArg String.data h

example : filepathSplit "/a/b.txt" = ("/a/", "b.txt") ∧ filepathSplit "x/" = ("x/", "") := by
  decide

namespace World

variable {Fs Ns : Type}

/-- `a.isInitialized()`: the allocation's own flag and the SDK's. -/
def isInitialized (w : World Fs Ns) : Bool := w.alloc.initialized && w.sdkInitialized

/-- Hand a request to its blobber protocol. -/
def build (w : World Fs Ns) (r : Request) : World Fs Ns := { w with sent := w.sent ++ [r] }

/-- `go func() { ch <- req; …; progressMap[key] = req }()`: spawn the goroutine that sends
the request to the dispatcher and then registers it under `key`. -/
def spawn (w : World Fs Ns) (r : AsyncRequest) (key : String) : World Fs Ns :=
  { w with jobs := w.jobs ++ [⟨r, key, .sending, .idle, false⟩] }

/-- `a.UpdateRepairStatus(value)` on the world's allocation. -/
def updateRepairStatus (w : World Fs Ns) (value : Bool) : World Fs Ns :=
  { w with alloc := w.alloc.updateRepairStatus value }

/-- `if !a.isInitialized() { return notInitialized }`, then the call `k`. -/
def whenInitialized {α : Type} (w : World Fs Ns) (k : Except SdkError α × World Fs Ns) :
    Except SdkError α × World Fs Ns :=
  if w.isInitialized then k else (.error notInitialized, w)

/-- The two guards that open every mutating operation, `notInitialized` and then
`if a.UnderRepair() { return underRepair }`, then the call `k`. -/
def whenWritable {α : Type} (w : World Fs Ns) (k : Except SdkError α × World Fs Ns) :
    Except SdkError α × World Fs Ns :=
  w.whenInitialized (if w.alloc.underRepair then (.error underRepair, w) else k)

/-- The outcome of a call its guards turn away: the world as it was, and `notInitialized`
or `underRepair`. -/
def Rejected {α : Type} (w : World Fs Ns) (r : Except SdkError α × World Fs Ns) : Prop :=
  r.2 = w ∧ (r.1 = .error notInitialized ∨ r.1 = .error underRepair)

/-- `w'` is `w` with at most more requests handed to the blobber protocols: what a call that
reads the blobbers leaves behind. -/
def ReadOnly (w w' : World Fs Ns) : Prop :=
  w'.alloc = w.alloc ∧ w'.fs = w.fs ∧ w'.ns = w.ns ∧ w'.jobs = w.jobs

/-- Doing nothing is read-only. -/
theorem ReadOnly.refl (w : World Fs Ns) : w.ReadOnly w := ⟨rfl, rfl, rfl, rfl⟩

/-- `w'` has the allocation record and the goroutines of `w`: what a call that only talks to
the blobbers leaves behind, whatever it did to the namespace. -/
def Frame (w w' : World Fs Ns) : Prop := w'.alloc = w.alloc ∧ w'.jobs = w.jobs

/-- A read-only call changes neither the allocation record nor the goroutines. -/
theorem ReadOnly.frame {w w' : World Fs Ns} (h : w.ReadOnly w') : w.Frame w' := ⟨h.1, h.2.2.2⟩

/-- Handing a request to a blobber protocol is read-only. -/
theorem ReadOnly.build (w : World Fs Ns) (r : Request) : w.ReadOnly (w.build r) :=
  ⟨rfl, rfl, rfl, rfl⟩

/-- Before initialization the guard returns `notInitialized` with the world unchanged. -/
theorem whenInitialized_of_not {α : Type} {w : World Fs Ns} (h : w.isInitialized = false)
    (k : Except SdkError α × World Fs Ns) : w.whenInitialized k = (.error notInitialized, w) := by
  simp [whenInitialized, h]

/-- Once initialized, the guard runs the call. -/
theorem whenInitialized_of_initialized {α : Type} {w : World Fs Ns} (h : w.isInitialized = true)
    (k : Except SdkError α × World Fs Ns) : w.whenInitialized k = k := by
  simp [whenInitialized, h]

/-- Once initialized and not under repair, the two guards run the call. -/
theorem whenWritable_of_writable {α : Type} {w : World Fs Ns} (h : w.isInitialized = true)
    (hr : w.alloc.underRepair = false) (k : Except SdkError α × World Fs Ns) :
    w.whenWritable k = k := by
  simp [whenWritable, whenInitialized, h, hr]

/-- Under repair, the guards of a mutating operation return `notInitialized` on an allocation
that is not initialized and `underRepair` on one that is, with the world unchanged. -/
theorem whenWritable_of_underRepair {α : Type} {w : World Fs Ns} (h : w.alloc.underRepair = true)
    (k : Except SdkError α × World Fs Ns) :
    w.whenWritable k = (.error (if w.isInitialized then underRepair else notInitialized), w) := by
  unfold whenWritable whenInitialized
  split <;> simp [h, *]

/-- Under repair, the guards of a mutating operation turn every call away. -/
theorem whenWritable_rejected {α : Type} {w : World Fs Ns} (h : w.alloc.underRepair = true)
    (k : Except SdkError α × World Fs Ns) : w.Rejected (w.whenWritable k) := by
  rw [whenWritable_of_underRepair h]
  exact ⟨rfl, by split <;> simp⟩

/-- Handing a request to a blobber protocol leaves the allocation record alone. -/
@[simp] theorem build_alloc (w : World Fs Ns) (r : Request) : (w.build r).alloc = w.alloc := rfl
/-- Handing a request to a blobber protocol leaves the local filesystem alone. -/
@[simp] theorem build_fs (w : World Fs Ns) (r : Request) : (w.build r).fs = w.fs := rfl
/-- Handing a request to a blobber protocol leaves the remote namespace alone. -/
@[simp] theorem build_ns (w : World Fs Ns) (r : Request) : (w.build r).ns = w.ns := rfl
/-- Handing a request to a blobber protocol leaves the goroutines alone. -/
@[simp] theorem build_jobs (w : World Fs Ns) (r : Request) : (w.build r).jobs = w.jobs := rfl
/-- Handing a request to a blobber protocol appends it to the requests sent. -/
@[simp] theorem build_sent (w : World Fs Ns) (r : Request) :
    (w.build r).sent = w.sent ++ [r] := rfl
/-- Handing a request to a blobber protocol keeps the initialization. -/
@[simp] theorem build_isInitialized (w : World Fs Ns) (r : Request) :
    (w.build r).isInitialized = w.isInitialized := rfl

/-- Spawning a goroutine leaves the allocation record alone. -/
@[simp] theorem spawn_alloc (w : World Fs Ns) (r : AsyncRequest) (key : String) :
    (w.spawn r key).alloc = w.alloc := rfl
/-- Spawning a goroutine leaves the local filesystem alone. -/
@[simp] theorem spawn_fs (w : World Fs Ns) (r : AsyncRequest) (key : String) :
    (w.spawn r key).fs = w.fs := rfl
/-- Spawning a goroutine leaves the remote namespace alone. -/
@[simp] theorem spawn_ns (w : World Fs Ns) (r : AsyncRequest) (key : String) :
    (w.spawn r key).ns = w.ns := rfl
/-- Spawning a goroutine sends no blobber request. -/
@[simp] theorem spawn_sent (w : World Fs Ns) (r : AsyncRequest) (key : String) :
    (w.spawn r key).sent = w.sent := rfl
/-- Spawning a goroutine appends a job about to send, whose task has not started. -/
@[simp] theorem spawn_jobs (w : World Fs Ns) (r : AsyncRequest) (key : String) :
    (w.spawn r key).jobs = w.jobs ++ [⟨r, key, .sending, .idle, false⟩] := rfl

/-- `UpdateRepairStatus` on the world sets the allocation's flag. -/
@[simp] theorem updateRepairStatus_alloc (w : World Fs Ns) (value : Bool) :
    (w.updateRepairStatus value).alloc = w.alloc.updateRepairStatus value := rfl
/-- `UpdateRepairStatus` leaves the local filesystem alone. -/
@[simp] theorem updateRepairStatus_fs (w : World Fs Ns) (value : Bool) :
    (w.updateRepairStatus value).fs = w.fs := rfl
/-- `UpdateRepairStatus` leaves the remote namespace alone. -/
@[simp] theorem updateRepairStatus_ns (w : World Fs Ns) (value : Bool) :
    (w.updateRepairStatus value).ns = w.ns := rfl
/-- `UpdateRepairStatus` sends no blobber request. -/
@[simp] theorem updateRepairStatus_sent (w : World Fs Ns) (value : Bool) :
    (w.updateRepairStatus value).sent = w.sent := rfl
/-- `UpdateRepairStatus` leaves the goroutines alone. -/
@[simp] theorem updateRepairStatus_jobs (w : World Fs Ns) (value : Bool) :
    (w.updateRepairStatus value).jobs = w.jobs := rfl

end World

/-- A local filesystem given by its entries: each existing path with what `os.Stat`
reports of it. -/
abbrev LocalFs := List (String × FileInfo)

/-- `os.Stat` on a `LocalFs`. -/
def LocalFs.stat (fs : LocalFs) (path : String) : Except String FileInfo :=
  match fs.lookup path with
  | some info => .ok info
  | none => .error ("stat " ++ path ++ ": no such file or directory")

/-- `os.MkdirAll` on a `LocalFs`: a missing, non-empty path becomes a directory. -/
def LocalFs.mkdirAll (fs : LocalFs) (path : String) : LocalFs :=
  if path = "" ∨ (fs.lookup path).isSome then fs else (path, ⟨true, 0⟩) :: fs

/-- The blobbers' remote namespace: the file reference stored at each path. -/
abbrev RemoteNs := String → Option FileRef

/-- A collaborator set over a `LocalFs` and a `RemoteNs`. Remote paths are cleaned to
themselves and are absolute when they start with `/`; a ticket decodes to the ticket whose
path hash is its own text; every list consensus reports the mask `found` with the object
stored at the path; the copy and delete protocols always reach consensus. -/
def sampleEnv (found : BitVec 32) : Env LocalFs RemoteNs where
  remoteClean := id
  isRemoteAbs := fun p => p.data.head? == some '/'
  getFullRemotePath := fun _ remotepath => remotepath
  stat := LocalFs.stat
  mkdirAll := LocalFs.mkdirAll
  decodeString := fun s => .ok (s.data.map fun c => c.toNat.toUInt8)
  unmarshalAuthTicket := fun bytes => .ok ⟨⟨bytes.map fun b => Char.ofNat b.toNat⟩⟩
  getFileConsensusFromBlobbers := fun ns req => (found, ns req.remotefilepath)
  getListFromBlobbers := fun _ _ => some {}
  getFileStatsFromBlobbers := fun _ _ => some []
  processDelete := fun ns req => (.ok (), Function.update ns req.remotefilepath none)
  processRename := fun ns _ => (.ok (), ns)
  processCopy := fun ns req => (.ok (), Function.update ns req.destPath (ns req.remotefilepath))
  getAuthTicket := fun _ client => .ok client
  getAuthTicketForEncryptedFile := fun _ client _ => .ok client

/-- A file reference stored at `/f`. -/
def sampleRef : FileRef := ⟨"f", "f", "hash", "lookup", "text/plain", "/f", 8, "", []⟩

/-- A remote namespace holding `sampleRef` at `/f` and nothing else. -/
def sampleNs : RemoteNs := fun p => if p = "/f" then some sampleRef else none

/-- An initialized allocation of `dataShards + parityShards` blobbers, not under repair,
with no request sent yet, over the local filesystem `fs` and the remote namespace `ns`. -/
def sampleWorld (dataShards parityShards : ℕ) (fs : LocalFs) (ns : RemoteNs) :
    World LocalFs RemoteNs where
  alloc :=
    { id := "alloc", tx := "tx", dataShards := dataShards, parityShards := parityShards,
      blobbers := List.replicate (dataShards + parityShards) ⟨"blobber"⟩,
      ctx := some (.withCancel .background), uploadChan := [], downloadChan := [],
      uploadProgressMap := fun _ => none, downloadProgressMap := fun _ => none,
      initialized := true, underRepair := false }
  sdkInitialized := true
  numBlockDownloads := 10
  fs := fs
  ns := ns
  sent := []
  jobs := []

end ZboxSdk
