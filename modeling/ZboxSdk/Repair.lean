import ZboxSdk.Upload

/-!
# The repair decision

`RepairFile` compares the found mask of the file's list consensus with the all-ones mask
of the allocation. This file states what that comparison and the narrowed upload mask
mean as sets of blobbers, for every blobber count, and what the repair does to
`fullconsensus`. The all-ones mask is a `uint32`: from 33 blobbers on it still addresses
only blobbers `0` to `31`.
-/

namespace ZboxSdk

/-- The repair narrows the upload mask to the blobbers not found. -/
@[simp] theorem UploadRequest.narrowForRepair_uploadMask (r : UploadRequest) (found : BitVec 32) :
    (r.narrowForRepair found).uploadMask = ~~~found &&& r.uploadMask := rfl

/-- The repair lowers `fullconsensus` by the trailing zeros of the narrowed mask. -/
@[simp] theorem UploadRequest.narrowForRepair_fullconsensus (r : UploadRequest) (found : BitVec 32) :
    (r.narrowForRepair found).fullconsensus =
      r.fullconsensus - trailingZeros32 (~~~found &&& r.uploadMask) := rfl

/-- The found mask equals the all-ones mask exactly when it selects the addressed blobbers. -/
theorem eq_fullMask_iff {found : BitVec 32} {n : ℕ} :
    found = fullMask n ↔ maskBlobbers found = Finset.range (addressedBlobbers n) := by
  rw [← maskBlobbers_fullMask, maskBlobbers_inj]

/-- Below `2 ^ 32` blobbers, a found mask of blobbers below `n` selects addressed blobbers. -/
theorem maskBlobbers_subset_addressed {found : BitVec 32} {n : ℕ} (hn : n < 2 ^ 32)
    (hsub : maskBlobbers found ⊆ Finset.range n) :
    maskBlobbers found ⊆ Finset.range (addressedBlobbers n) := by
  intro i hi
  have hlt := Finset.mem_range.mp (hsub hi)
  have h32 : i < 32 := by
    by_contra h
    simp [BitVec.getLsbD_ge found i (by omega)] at hi
  rw [Finset.mem_range, addressedBlobbers_of_lt hn]
  omega

section

variable {Fs Ns : Type} (env : Env Fs Ns) {w : World Fs Ns} {localpath remotepath : String}
  {info : FileInfo} {found : BitVec 32} {ref : FileRef}

/-- A repair whose consensus found the file on some blobbers but not on all addressed ones
narrows the request and marks the allocation under repair. -/
theorem repairFile_of_missing (hinit : w.isInitialized = true)
    (hrepair : w.alloc.underRepair = false) (hstat : env.stat w.fs localpath = .ok info)
    (habs : env.isRemoteAbs (env.remoteClean remotepath) = true)
    (hfound : env.getFileConsensusFromBlobbers w.ns (pathListRequest w.alloc
      (env.getFullRemotePath localpath (env.remoteClean remotepath))) = (found, some ref))
    (hne : found ≠ fullMask w.alloc.blobbers.length) :
    let remote := env.getFullRemotePath localpath (env.remoteClean remotepath)
    repairFile env w localpath remotepath =
      (.ok (), ((w.build (.list (pathListRequest w.alloc remote))).updateRepairStatus true).spawn
        (.upload ((newUploadRequest w.alloc localpath remote "" info.size 0 false false
          true).narrowForRepair found)) localpath) := by
  rw [repairFile_eq env hinit hrepair hstat habs]
  simp only [hfound, hne, if_false]

/-- A repair whose consensus found the file on every addressed blobber reports
`No repair required`. -/
theorem repairFile_of_complete (hinit : w.isInitialized = true)
    (hrepair : w.alloc.underRepair = false) (hstat : env.stat w.fs localpath = .ok info)
    (habs : env.isRemoteAbs (env.remoteClean remotepath) = true)
    (hfound : env.getFileConsensusFromBlobbers w.ns (pathListRequest w.alloc
      (env.getFullRemotePath localpath (env.remoteClean remotepath))) = (found, some ref))
    (heq : found = fullMask w.alloc.blobbers.length) :
    (repairFile env w localpath remotepath).1 = .error (.plain "No repair required") := by
  rw [repairFile_eq env hinit hrepair hstat habs]
  simp only [hfound, heq, if_true]

/-- A repair that returns `nil` passed its guards and found the file on some blobbers but not
on all addressed ones, and it marked the allocation under repair. -/
theorem repairFile_ok (h : (repairFile env w localpath remotepath).1 = .ok ()) :
    w.isInitialized = true ∧ w.alloc.underRepair = false ∧
      (repairFile env w localpath remotepath).2.alloc = w.alloc.updateRepairStatus true ∧
      ∃ found ref, env.getFileConsensusFromBlobbers w.ns (pathListRequest w.alloc
        (env.getFullRemotePath localpath (env.remoteClean remotepath))) = (found, some ref) ∧
        found ≠ fullMask w.alloc.blobbers.length := by
  cases hinit : w.isInitialized
  · rw [repairFile, uploadOrUpdateFile, World.whenWritable, World.whenInitialized_of_not hinit] at h
    cases h
  cases hrepair : w.alloc.underRepair
  · cases hstat : env.stat w.fs localpath with
    | error e =>
      simp only [repairFile, uploadOrUpdateFile, World.whenWritable_of_writable hinit hrepair,
        hstat] at h
      cases h
    | ok info =>
      cases habs : env.isRemoteAbs (env.remoteClean remotepath)
      · simp only [repairFile, uploadOrUpdateFile, World.whenWritable_of_writable hinit hrepair,
          hstat, habs, Bool.not_false, if_true] at h
        cases h
      · rw [repairFile_eq env hinit hrepair hstat habs] at h
        split at h
        · cases h
        · rename_i found ref hfound
          by_cases hne : found = fullMask w.alloc.blobbers.length
          · rw [if_pos hne] at h
            cases h
          · rw [repairFile_of_missing env hinit hrepair hstat habs hfound hne]
            exact ⟨rfl, rfl, rfl, found, ref, hfound, hne⟩
  · have hrej : w.Rejected (repairFile env w localpath remotepath) :=
      World.whenWritable_rejected hrepair _
    rcases hrej.2 with he | he <;> rw [he] at h <;> cases h

/-- The `fullconsensus` of a repair is the shard count less `bits.TrailingZeros32` of the
narrowed mask: the number of found blobbers below the first missing one. -/
theorem repairFile_fullconsensus (hinit : w.isInitialized = true)
    (hrepair : w.alloc.underRepair = false) (hstat : env.stat w.fs localpath = .ok info)
    (habs : env.isRemoteAbs (env.remoteClean remotepath) = true)
    (hfound : env.getFileConsensusFromBlobbers w.ns (pathListRequest w.alloc
      (env.getFullRemotePath localpath (env.remoteClean remotepath))) = (found, some ref))
    (hne : found ≠ fullMask w.alloc.blobbers.length) :
    ∃ r : UploadRequest, (repairFile env w localpath remotepath).2.jobs =
        w.jobs ++ [⟨.upload r, localpath, .sending, .idle, false⟩] ∧
      r.uploadMask = ~~~found &&& fullMask w.alloc.blobbers.length ∧
      r.fullconsensus = w.alloc.fullconsensus - trailingZeros32 r.uploadMask :=
  ⟨(newUploadRequest w.alloc localpath (env.getFullRemotePath localpath (env.remoteClean remotepath))
      "" info.size 0 false false true).narrowForRepair found,
    by rw [repairFile_of_missing env hinit hrepair hstat habs hfound hne]; rfl, rfl, rfl⟩

/-- The repair decision for every blobber count `n`. The all-ones mask addresses the first
`addressedBlobbers n` blobbers (all `n` up to 32, only 32 from there on);
`RepairFile` reports `No repair required` exactly when the found mask selects all of them;
otherwise the request it enqueues targets the addressed blobbers missing from the found
mask, which with the found ones cover every addressed blobber, and below `2 ^ 32` blobbers
there is at least one. -/
theorem repairFile_mask_split (hinit : w.isInitialized = true)
    (hrepair : w.alloc.underRepair = false) (hstat : env.stat w.fs localpath = .ok info)
    (habs : env.isRemoteAbs (env.remoteClean remotepath) = true)
    (hfound : env.getFileConsensusFromBlobbers w.ns (pathListRequest w.alloc
      (env.getFullRemotePath localpath (env.remoteClean remotepath))) = (found, some ref))
    (hsub : maskBlobbers found ⊆ Finset.range w.alloc.blobbers.length) :
    let n := w.alloc.blobbers.length
    let addressed := Finset.range (addressedBlobbers n)
    maskBlobbers (fullMask n) = addressed ∧
      ((repairFile env w localpath remotepath).1 = .error (.plain "No repair required") ↔
        maskBlobbers found = addressed) ∧
      ((repairFile env w localpath remotepath).1 ≠ .error (.plain "No repair required") →
        ∃ r : UploadRequest, (repairFile env w localpath remotepath).2.jobs =
            w.jobs ++ [⟨.upload r, localpath, .sending, .idle, false⟩] ∧
          maskBlobbers r.uploadMask = addressed \ maskBlobbers found ∧
          Disjoint (maskBlobbers r.uploadMask) (maskBlobbers found) ∧
          addressed ⊆ maskBlobbers r.uploadMask ∪ maskBlobbers found ∧
          (n < 2 ^ 32 → (maskBlobbers r.uploadMask).Nonempty)) := by
  intro n addressed
  refine ⟨maskBlobbers_fullMask n, ?_, ?_⟩
  · by_cases heq : found = fullMask n
    · simp only [repairFile_of_complete env hinit hrepair hstat habs hfound heq, true_iff]
      exact eq_fullMask_iff.mp heq
    · simp only [repairFile_of_missing env hinit hrepair hstat habs hfound heq]
      simpa [eq_fullMask_iff] using heq
  · intro hne
    have heq : found ≠ fullMask n := fun h =>
      hne (repairFile_of_complete env hinit hrepair hstat habs hfound h)
    obtain ⟨r, hjobs, hr, -⟩ := repairFile_fullconsensus env hinit hrepair hstat habs hfound heq
    have hmask : maskBlobbers r.uploadMask = addressed \ maskBlobbers found := by
      rw [hr, maskBlobbers_repair, maskBlobbers_fullMask]
    refine ⟨r, hjobs, hmask, ?_, ?_, fun hn => ?_⟩
    · rw [hmask]
      exact Finset.sdiff_disjoint
    · rw [hmask, Finset.sdiff_union_self_eq_union]
      exact Finset.subset_union_left
    · rw [hmask, Finset.sdiff_nonempty]
      intro hsubset
      exact heq (eq_fullMask_iff.mpr (Finset.Subset.antisymm
        (maskBlobbers_subset_addressed hn hsub) hsubset))

/-- On four blobbers with the file found on blobbers 0 and 2, the repair targets 1 and 3. -/
theorem repairFile_mask_split_sample :
    ∃ r : UploadRequest, (repairFile (sampleEnv 0b0101)
        (sampleWorld 2 2 [("f", ⟨false, 8⟩)] sampleNs) "f" "/f").2.jobs =
        [⟨.upload r, "f", .sending, .idle, false⟩] ∧ maskBlobbers r.uploadMask = {1, 3} := by
  obtain ⟨-, -, h⟩ := @repairFile_mask_split _ _ (sampleEnv 0b0101)
    (sampleWorld 2 2 [("f", ⟨false, 8⟩)] sampleNs)
    "f" "/f" ⟨false, 8⟩ 0b0101 sampleRef rfl rfl rfl rfl rfl (by decide)
  obtain ⟨r, hjobs, hmask, -⟩ := h (by intro h; cases h)
  exact ⟨r, hjobs, by rw [hmask]; decide⟩

/-- The all-ones mask of a 33-blobber allocation does not address blobber 32. -/
theorem fullMask_skips_blobber_32 : ¬ ∀ i : ℕ, (fullMask 33).getLsbD i = true ↔ i < 33 := by
  intro h
  exact absurd ((h 32).mpr (by decide)) (by decide)

/-- On four blobbers with found mask `0b0101`, the repair targets blobbers 1 and 3 but sets
`fullconsensus` to 3: `bits.TrailingZeros32(0b1010)` is 1, not the two blobbers found. -/
theorem repairFile_fullconsensus_of_0b0101 (hinit : w.isInitialized = true)
    (hrepair : w.alloc.underRepair = false) (hstat : env.stat w.fs localpath = .ok info)
    (habs : env.isRemoteAbs (env.remoteClean remotepath) = true)
    (hfound : env.getFileConsensusFromBlobbers w.ns (pathListRequest w.alloc
      (env.getFullRemotePath localpath (env.remoteClean remotepath))) = (0b0101, some ref))
    (hn : w.alloc.blobbers.length = 4) (hshards : w.alloc.fullconsensus = 4) :
    ∃ r : UploadRequest, (repairFile env w localpath remotepath).2.jobs =
        w.jobs ++ [⟨.upload r, localpath, .sending, .idle, false⟩] ∧
      maskBlobbers r.uploadMask = {1, 3} ∧ r.fullconsensus = 3 := by
  have hne : (0b0101 : BitVec 32) ≠ fullMask w.alloc.blobbers.length := by rw [hn]; decide
  obtain ⟨r, hjobs, hmask, hfull⟩ :=
    repairFile_fullconsensus env hinit hrepair hstat habs hfound hne
  rw [hn] at hmask
  refine ⟨r, hjobs, by rw [hmask]; decide, ?_⟩
  rw [hfull, hshards, hmask]
  decide

/-- On the sample allocation of four blobbers, a repair that finds blobbers 0 and 2 uploads to
blobbers 1 and 3 with `fullconsensus` 3. -/
theorem repairFile_fullconsensus_of_0b0101_sample :
    ∃ r : UploadRequest, (repairFile (sampleEnv 0b0101)
        (sampleWorld 2 2 [("f", ⟨false, 8⟩)] sampleNs) "f" "/f").2.jobs =
        [⟨.upload r, "f", .sending, .idle, false⟩] ∧
      maskBlobbers r.uploadMask = {1, 3} ∧ r.fullconsensus = 3 :=
  @repairFile_fullconsensus_of_0b0101 _ _ (sampleEnv 0b0101)
    (sampleWorld 2 2 [("f", ⟨false, 8⟩)] sampleNs) "f" "/f"
    ⟨false, 8⟩ sampleRef rfl rfl rfl rfl rfl rfl rfl

end

end ZboxSdk
