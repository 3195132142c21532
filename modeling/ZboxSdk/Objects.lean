import ZboxSdk.Listing

/-!
# Deleting, renaming, copying, moving, and committing meta

The synchronous operations that change the blobbers' namespace, and
`CommitMetaTransaction`. `MoveObject` is `CopyObject` followed by `DeleteFile`, with nothing
undoing the copy when the delete fails. `CopyObject` checks that `destPath` is non-empty
but cleans and checks only `path`. `CommitMetaTransaction` resolves a missing meta from the
path or the ticket, and with neither it dispatches a request with no meta at all.
-/

namespace ZboxSdk

section

variable {Fs Ns : Type} (env : Env Fs Ns)

/-- `DeleteFile`. -/
def deleteFile (w : World Fs Ns) (path : String) : Except SdkError Unit × World Fs Ns :=
  w.whenWritable <|
  match cleanRemotePath env path with
  | .error e => (.error e, w)
  | .ok path =>
    let req : DeleteRequest :=
      { blobbers := w.alloc.blobbers, allocationID := w.alloc.id, allocationTx := w.alloc.tx,
        fullconsensus := w.alloc.fullconsensus, ctx := w.alloc.ctx, remotefilepath := path,
        deleteMask := 0, listMask := 0 }
    let result := env.processDelete w.ns req
    (result.1, { w.build (.delete req) with ns := result.2 })

/-- `RenameObject`. -/
def renameObject (w : World Fs Ns) (path destName : String) : Except SdkError Unit × World Fs Ns :=
  w.whenWritable <|
  match cleanRemotePath env path with
  | .error e => (.error e, w)
  | .ok path =>
    let req : RenameRequest :=
      { blobbers := w.alloc.blobbers, allocationID := w.alloc.id, allocationTx := w.alloc.tx,
        newName := destName, fullconsensus := w.alloc.fullconsensus, ctx := w.alloc.ctx,
        remotefilepath := path, renameMask := 0 }
    let result := env.processRename w.ns req
    (result.1, { w.build (.rename req) with ns := result.2 })

/-- The `CopyRequest` of `CopyObject`, for a cleaned `path` and the `destPath` as given. -/
def copyRequest (a : Allocation) (path destPath : String) : CopyRequest where
  blobbers := a.blobbers
  allocationID := a.id
  allocationTx := a.tx
  destPath := destPath
  fullconsensus := a.fullconsensus
  ctx := a.ctx
  remotefilepath := path
  copyMask := 0

/-- `CopyObject`: both paths must be non-empty, but only `path` is cleaned and checked. -/
def copyObject (w : World Fs Ns) (path destPath : String) : Except SdkError Unit × World Fs Ns :=
  w.whenWritable <|
  if path.length = 0 ∨ destPath.length = 0 then
    (.error (.coded "invalid_path" "Invalid path for copy"), w) else
  let path := env.remoteClean path
  if !env.isRemoteAbs path then (.error notAbsolute, w) else
  let req := copyRequest w.alloc path destPath
  let result := env.processCopy w.ns req
  (result.1, { w.build (.copy req) with ns := result.2 })

/-- `MoveObject`: `CopyObject`, then `DeleteFile` of the source. -/
def moveObject (w : World Fs Ns) (path destPath : String) : Except SdkError Unit × World Fs Ns :=
  match copyObject env w path destPath with
  | (.error e, w) => (.error e, w)
  | (.ok (), w) => deleteFile env w path

/-- The `if fileMeta == nil { … }` block of `CommitMetaTransaction`: a nil meta is resolved by
`GetFileMeta` when `path` is non-empty, else by `GetFileMetaFromAuthTicket` when the ticket is
non-empty, and otherwise stays nil. -/
def resolveFileMeta (w : World Fs Ns) (path authTicket lookupHash : String)
    (fileMeta : Option ConsolidatedFileMeta) :
    Except SdkError (Option ConsolidatedFileMeta) × World Fs Ns :=
  match fileMeta with
  | some m => (.ok (some m), w)
  | none =>
    if path.length > 0 then
      match getFileMeta env w path with
      | (.error e, w) => (.error e, w)
      | (.ok m, w) => (.ok (some m), w)
    else if authTicket.length > 0 then
      match getFileMetaFromAuthTicket env w authTicket lookupHash with
      | (.error e, w) => (.error e, w)
      | (.ok m, w) => (.ok (some m), w)
    else (.ok none, w)

/-- `CommitMetaTransaction`; the status callback is left out. The request goes to
`processCommitMetaRequest` in a goroutine of its own, so the call returns nil once it is
built. -/
def commitMetaTransaction (w : World Fs Ns) (path crudOperation authTicket lookupHash : String)
    (fileMeta : Option ConsolidatedFileMeta) : Except SdkError Unit × World Fs Ns :=
  w.whenWritable <|
  match resolveFileMeta env w path authTicket lookupHash fileMeta with
  | (.error e, w) => (.error e, w)
  | (.ok fileMeta, w) =>
    (.ok (), w.build (.commitMeta
      { crudType := crudOperation, metaData := fileMeta, authToken := authTicket }))

variable {w : World Fs Ns} {path destPath destName : String}

/-- What `DeleteFile` can do: turn the call away with the world unchanged, or, past its
guards and its path check, run `ProcessDelete` on the cleaned path. -/
theorem deleteFile_cases :
    (∃ e, deleteFile env w path = (.error e, w)) ∨
      ∃ req : DeleteRequest, req.remotefilepath = env.remoteClean path ∧
        w.isInitialized = true ∧ w.alloc.underRepair = false ∧
        cleanRemotePath env path = .ok (env.remoteClean path) ∧
        deleteFile env w path = ((env.processDelete w.ns req).1,
          { w.build (.delete req) with ns := (env.processDelete w.ns req).2 }) := by
  unfold deleteFile World.whenWritable World.whenInitialized
  split
  · split
    · exact .inl ⟨_, rfl⟩
    · rename_i hinit hrepair
      split
      · exact .inl ⟨_, rfl⟩
      · rename_i p hpath
        obtain ⟨rfl, -⟩ := cleanRemotePath_ok env hpath
        exact .inr ⟨_, rfl, hinit, by simpa using hrepair, hpath, rfl⟩
  · exact .inl ⟨_, rfl⟩

/-- What `RenameObject` can do: turn the call away with the world unchanged, or run
`ProcessRename` on the cleaned path. -/
theorem renameObject_cases :
    (∃ e, renameObject env w path destName = (.error e, w)) ∨
      ∃ req : RenameRequest, req.remotefilepath = env.remoteClean path ∧
        renameObject env w path destName = ((env.processRename w.ns req).1,
          { w.build (.rename req) with ns := (env.processRename w.ns req).2 }) := by
  unfold renameObject World.whenWritable World.whenInitialized
  split
  · split
    · exact .inl ⟨_, rfl⟩
    · split
      · exact .inl ⟨_, rfl⟩
      · rename_i p hpath
        obtain ⟨rfl, -⟩ := cleanRemotePath_ok env hpath
        exact .inr ⟨_, rfl, rfl⟩
  · exact .inl ⟨_, rfl⟩

/-- What `CopyObject` can do: turn the call away with the world unchanged, or, on a writable
allocation with both paths non-empty and the cleaned `path` absolute, run `ProcessCopy` from
the cleaned `path` to `destPath` as given. -/
theorem copyObject_cases :
    (∃ e, copyObject env w path destPath = (.error e, w)) ∨
      (w.isInitialized = true ∧ w.alloc.underRepair = false ∧ path.length ≠ 0 ∧
        destPath.length ≠ 0 ∧ env.isRemoteAbs (env.remoteClean path) = true ∧
        let req := copyRequest w.alloc (env.remoteClean path) destPath
        copyObject env w path destPath = ((env.processCopy w.ns req).1,
          { w.build (.copy req) with ns := (env.processCopy w.ns req).2 })) := by
  unfold copyObject World.whenWritable World.whenInitialized
  split
  · rename_i hinit
    split
    · exact .inl ⟨_, rfl⟩
    · rename_i hrepair
      split
      · exact .inl ⟨_, rfl⟩
      · rename_i hlen
        dsimp only
        split
        · exact .inl ⟨_, rfl⟩
        · rename_i habs
          exact .inr ⟨hinit, by simpa using hrepair, fun h => hlen (.inl h),
            fun h => hlen (.inr h), by simpa using habs, rfl⟩
  · exact .inl ⟨_, rfl⟩

/-- `MoveObject` runs `DeleteFile` exactly when `CopyObject` succeeds, on the world the copy
leaves behind. -/
theorem moveObject_eq :
    moveObject env w path destPath =
      match (copyObject env w path destPath).1 with
      | .error e => (.error e, (copyObject env w path destPath).2)
      | .ok () => deleteFile env (copyObject env w path destPath).2 path := by
  unfold moveObject
  split <;> rename_i h <;> rw [h]

/-- None of the namespace operations changes the allocation record or the goroutines. -/
theorem deleteFile_frame : w.Frame (deleteFile env w path).2 := by
  rcases @deleteFile_cases _ _ env w path with ⟨e, h⟩ | ⟨req, -, -, -, -, h⟩ <;>
  · rw [h]; exact ⟨rfl, rfl⟩

/-- `RenameObject` changes neither the allocation record nor the goroutines. -/
theorem renameObject_frame : w.Frame (renameObject env w path destName).2 := by
  rcases @renameObject_cases _ _ env w path destName with ⟨e, h⟩ | ⟨req, -, h⟩ <;>
  · rw [h]; exact ⟨rfl, rfl⟩

/-- `CopyObject` changes neither the allocation record nor the goroutines. -/
theorem copyObject_frame : w.Frame (copyObject env w path destPath).2 := by
  rcases @copyObject_cases _ _ env w path destPath with ⟨e, h⟩ | ⟨-, -, -, -, -, h⟩ <;>
  · rw [h]; exact ⟨rfl, rfl⟩

/-- `MoveObject` changes neither the allocation record nor the goroutines. -/
theorem moveObject_frame : w.Frame (moveObject env w path destPath).2 := by
  have hcopy := @copyObject_frame _ _ env w path destPath
  rw [moveObject_eq]
  split
  · exact hcopy
  · have hdel := @deleteFile_frame _ _ env (copyObject env w path destPath).2 path
    exact ⟨hdel.1.trans hcopy.1, hdel.2.trans hcopy.2⟩

/-- Resolving the meta only reads the blobbers. -/
theorem resolveFileMeta_readOnly {authTicket lookupHash : String}
    {fileMeta : Option ConsolidatedFileMeta} :
    w.ReadOnly (resolveFileMeta env w path authTicket lookupHash fileMeta).2 := by
  unfold resolveFileMeta
  split
  · exact .refl w
  · split
    · have h := @getFileMeta_world _ _ env w path
      split <;> rename_i heq <;> rw [heq] at h <;> rw [h] <;> exact .build w _
    · split
      · have h := @getFileMetaFromAuthTicket_readOnly _ _ env w authTicket lookupHash
        split <;> rename_i heq <;> rw [heq] at h <;> exact h
      · exact .refl w

/-- `CommitMetaTransaction` changes neither the allocation record nor the goroutines. -/
theorem commitMetaTransaction_frame {crud authTicket lookupHash : String}
    {fileMeta : Option ConsolidatedFileMeta} :
    w.Frame (commitMetaTransaction env w path crud authTicket lookupHash fileMeta).2 := by
  unfold commitMetaTransaction World.whenWritable World.whenInitialized
  have h := (@resolveFileMeta_readOnly _ _ env w path authTicket lookupHash fileMeta).frame
  split
  · split
    · exact ⟨rfl, rfl⟩
    · split <;> rename_i heq <;> rw [heq] at h <;> exact h
  · exact ⟨rfl, rfl⟩

variable {crud authTicket lookupHash : String} {fileMeta : Option ConsolidatedFileMeta}

/-- A resolution that ends with no meta had no meta, no path and no ticket to start from. -/
theorem resolveFileMeta_none
    (h : (resolveFileMeta env w path authTicket lookupHash fileMeta).1 = .ok none) :
    fileMeta = none ∧ path = "" ∧ authTicket = "" := by
  unfold resolveFileMeta at h
  split at h
  · cases h
  · split at h
    · split at h <;> cases h
    · split at h
      · split at h <;> cases h
      · rename_i hpath hticket
        simp only [gt_iff_lt, Nat.pos_iff_ne_zero, not_not, length_eq_zero_iff_eq_empty]
          at hpath hticket
        exact ⟨rfl, hpath, hticket⟩

/-- What `CommitMetaTransaction` can do: fail, or resolve the meta and dispatch a meta
commit with it, the caller's operation and the caller's ticket. -/
theorem commitMetaTransaction_cases :
    (∃ e, (commitMetaTransaction env w path crud authTicket lookupHash fileMeta).1 = .error e) ∨
      ∃ meta w', resolveFileMeta env w path authTicket lookupHash fileMeta = (.ok meta, w') ∧
        commitMetaTransaction env w path crud authTicket lookupHash fileMeta =
          (.ok (), w'.build (.commitMeta ⟨crud, meta, authTicket⟩)) := by
  unfold commitMetaTransaction World.whenWritable World.whenInitialized
  split
  · split
    · exact .inl ⟨_, rfl⟩
    · split
      · exact .inl ⟨_, rfl⟩
      · exact .inr ⟨_, _, ‹_›, rfl⟩
  · exact .inl ⟨_, rfl⟩

/-- When `CommitMetaTransaction` returns nil, the last request it sends is the meta commit,
with the caller's operation and ticket, and its `MetaData` is nil only when the call had no
meta, no path and no ticket. -/
theorem commitMetaTransaction_ok
    (h : (commitMetaTransaction env w path crud authTicket lookupHash fileMeta).1 = .ok ()) :
    ∃ meta, (commitMetaTransaction env w path crud authTicket lookupHash fileMeta).2.sent.getLast? =
        some (.commitMeta ⟨crud, meta, authTicket⟩) ∧
      (meta = none → fileMeta = none ∧ path = "" ∧ authTicket = "") := by
  rcases @commitMetaTransaction_cases _ _ env w path crud authTicket lookupHash fileMeta
    with ⟨e, he⟩ | ⟨meta, w', hres, hcommit⟩
  · rw [he] at h
    cases h
  · rw [hcommit]
    refine ⟨meta, by simp, fun hnone => @resolveFileMeta_none _ _ env w path authTicket
      lookupHash fileMeta ?_⟩
    rw [hres, hnone]

/-- With no meta, no path and no ticket, `CommitMetaTransaction` on a writable allocation
returns nil and dispatches a meta commit whose `MetaData` is nil. -/
theorem commitMetaTransaction_nil_meta (hinit : w.isInitialized = true)
    (hrepair : w.alloc.underRepair = false) :
    commitMetaTransaction env w "" crud "" lookupHash none =
      (.ok (), w.build (.commitMeta { crudType := crud, metaData := none, authToken := "" })) := by
  simp only [commitMetaTransaction, World.whenWritable_of_writable hinit hrepair, resolveFileMeta]
  rfl

end

/-- On the sample allocation, `CommitMetaTransaction("", "update", "", "", nil)` sends one
request, a meta commit with a nil `MetaData`. -/
theorem commitMetaTransaction_nil_meta_sample :
    (commitMetaTransaction (sampleEnv 0) (sampleWorld 1 1 [] sampleNs) "" "update" "" "" none).2.sent =
      [.commitMeta { crudType := "update", metaData := none, authToken := "" }] := by
  rw [@commitMetaTransaction_nil_meta _ _ (sampleEnv 0) (sampleWorld 1 1 [] sampleNs) "update" ""
    rfl rfl]
  rfl

/-- `CommitMetaTransaction("/f", "update", "", "", nil)` resolves the meta of `/f` and
returns nil. -/
theorem commitMetaTransaction_ok_sample :
    ∃ meta, (commitMetaTransaction (sampleEnv 0) (sampleWorld 1 1 [] sampleNs) "/f" "update" "" ""
        none).2.sent.getLast? = some (.commitMeta ⟨"update", meta, ""⟩) ∧
      (meta = none → (none : Option ConsolidatedFileMeta) = none ∧ "/f" = "" ∧ "" = "") :=
  commitMetaTransaction_ok (sampleEnv 0) rfl

section

variable {Fs : Type}

/-- Modelled from the spec: `ProcessCopy` and `ProcessDelete` are not in the source. Over a
`RemoteNs`, each either reaches consensus and acts, the copy storing the source's reference at
`destPath` and the delete removing its path, or fails with what it did rolled back. -/
structure FallibleProtocols (env : Env Fs RemoteNs) : Prop where
  copy : ∀ ns req, env.processCopy ns req =
      (.ok (), Function.update ns req.destPath (ns req.remotefilepath)) ∨
    ∃ e, env.processCopy ns req = (.error e, ns)
  delete : ∀ ns req,
    env.processDelete ns req = (.ok (), Function.update ns req.remotefilepath none) ∨
    ∃ e, env.processDelete ns req = (.error e, ns)

/-- `sampleEnv`'s copy and delete always reach consensus. -/
theorem sampleEnv_fallibleProtocols (found : BitVec 32) : FallibleProtocols (sampleEnv found) :=
  ⟨fun _ _ => .inl rfl, fun _ _ => .inl rfl⟩

variable {env : Env Fs RemoteNs} {w : World Fs RemoteNs} {path destPath : String}

/-- A copy either stores the cleaned source's reference at `destPath` and returns nil, or
returns an error with the namespace as it was. -/
theorem copyObject_ns (hlaws : FallibleProtocols env) :
    ((copyObject env w path destPath).1 = .ok () ∧ (copyObject env w path destPath).2.ns =
        Function.update w.ns destPath (w.ns (env.remoteClean path))) ∨
      ∃ e, (copyObject env w path destPath).1 = .error e ∧
        (copyObject env w path destPath).2.ns = w.ns := by
  rcases @copyObject_cases _ _ env w path destPath with ⟨e, h⟩ | ⟨-, -, -, -, -, h⟩
  · exact .inr ⟨e, by rw [h], by rw [h]⟩
  · rw [h]
    rcases hlaws.copy w.ns (copyRequest w.alloc (env.remoteClean path) destPath)
      with hcopy | ⟨e, hcopy⟩ <;> rw [hcopy]
    · exact .inl ⟨rfl, rfl⟩
    · exact .inr ⟨e, rfl, rfl⟩

/-- A delete either removes the cleaned path and returns nil, or returns an error with the
namespace as it was. -/
theorem deleteFile_ns (hlaws : FallibleProtocols env) :
    ((deleteFile env w path).1 = .ok () ∧
        (deleteFile env w path).2.ns = Function.update w.ns (env.remoteClean path) none) ∨
      ∃ e, (deleteFile env w path).1 = .error e ∧ (deleteFile env w path).2.ns = w.ns := by
  rcases @deleteFile_cases _ _ env w path with ⟨e, h⟩ | ⟨req, hreq, -, -, -, h⟩
  · exact .inr ⟨e, by rw [h], by rw [h]⟩
  · rw [h]
    rcases hlaws.delete w.ns req with hdel | ⟨e, hdel⟩ <;> rw [hdel]
    · exact .inl ⟨rfl, by rw [hreq]⟩
    · exact .inr ⟨e, rfl, rfl⟩

/-- `MoveObject` under copy and delete protocols that each succeed or roll back. On nil, the
cleaned source's reference is at `destPath` and the source path is empty. On an error, either
the namespace is as it was, or the copy returned nil and stays: the reference is at
`destPath` and the source is still in place. -/
theorem moveObject_ns (hlaws : FallibleProtocols env) :
    ((moveObject env w path destPath).1 = .ok () ∧ (moveObject env w path destPath).2.ns =
        Function.update (Function.update w.ns destPath (w.ns (env.remoteClean path)))
          (env.remoteClean path) none) ∨
      (∃ e, (moveObject env w path destPath).1 = .error e ∧
        (moveObject env w path destPath).2.ns = w.ns) ∨
      ((copyObject env w path destPath).1 = .ok () ∧ ∃ e,
        (moveObject env w path destPath).1 = .error e ∧ (moveObject env w path destPath).2.ns =
          Function.update w.ns destPath (w.ns (env.remoteClean path))) := by
  rw [moveObject_eq]
  rcases @copyObject_ns _ env w path destPath hlaws with ⟨hcopy, hns⟩ | ⟨e, hcopy, hns⟩ <;>
    simp only [hcopy]
  · rcases @deleteFile_ns _ env (copyObject env w path destPath).2 path hlaws
      with ⟨hdel, hdns⟩ | ⟨e, hdel, hdns⟩
    · exact .inl ⟨hdel, by rw [hdns, hns]⟩
    · exact .inr (.inr ⟨trivial, e, hdel, by rw [hdns, hns]⟩)
  · exact .inr (.inl ⟨e, rfl, hns⟩)

end

/-- A collaborator set whose delete protocol never reaches consensus. -/
def deleteFailingEnv : Env LocalFs RemoteNs :=
  { sampleEnv 0 with processDelete := fun ns _ => (.error (.plain "consensus not reached"), ns) }

/-- `MoveObject` is not atomic: with protocols that each succeed or roll back, a move of `/f`
to `/g` whose delete fails returns an error and leaves the copy at `/g`, where there was
nothing before. -/
theorem moveObject_leaves_copy :
    FallibleProtocols deleteFailingEnv ∧
      (moveObject deleteFailingEnv (sampleWorld 1 1 [] sampleNs) "/f" "/g").1 =
        .error (.plain "consensus not reached") ∧
      (moveObject deleteFailingEnv (sampleWorld 1 1 [] sampleNs) "/f" "/g").2.ns "/g" =
        some sampleRef ∧
      sampleNs "/g" = none :=
  ⟨⟨fun _ _ => .inl rfl, fun _ _ => .inr ⟨_, rfl⟩⟩, rfl, rfl, rfl⟩

/-- On the sample allocation, whose protocols always reach consensus, `MoveObject("/f", "/g")`
returns nil with the reference moved. -/
theorem moveObject_ns_sample :
    (moveObject (sampleEnv 0) (sampleWorld 1 1 [] sampleNs) "/f" "/g").1 = .ok () ∧
      (moveObject (sampleEnv 0) (sampleWorld 1 1 [] sampleNs) "/f" "/g").2.ns =
        Function.update (Function.update sampleNs "/g" (sampleNs "/f")) "/f" none := by
  rcases moveObject_ns (sampleEnv_fallibleProtocols 0) with h | ⟨e, h, -⟩ | ⟨-, e, h, -⟩
  · exact h
  · cases h
  · cases h

end ZboxSdk
