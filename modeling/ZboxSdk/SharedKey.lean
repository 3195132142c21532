import ZboxSdk.Registry

/-!
# Two requests under one key

An upload is registered under its local path, a download under its remote path or its lookup
hash, and a request's `completedCallback` deletes that key, whichever request the entry holds.
So when a request's task ends while another request of its kind holds the entry under its key,
the callback deletes the other request's entry: that request is still in the registry,
registered and not completed, but its map has no entry for it, and `CancelUpload` or
`CancelDownload` under the key fails. Registering before the receive does not help: this
happens in the registered-first runs too.
-/

namespace ZboxSdk

section

variable {Fs Ns : Type} (env : Env Fs Ns) (directory : String) {w₀ w w' : World Fs Ns}
  {a b : ℕ} {ja : Job} {up : Bool} {key : String}

/-- In the registered-first runs from a fresh allocation, when the task of request `a` ends
while another request `b` holds the entry under `a`'s kind and key, `b` stays in the registry
but loses its entry, and cancelling under the key fails. -/
theorem completion_drops_shared_entry (hfresh : w₀.Fresh)
    (h : ReachableRegisteredFirst env directory w₀ w) (hab : a ≠ b)
    (ha : w.jobs[a]? = some ja) (hup : ja.req.isUpload = up) (hkey : ja.key = key)
    (hm : w.alloc.progressMap up key = some b) (hc : w.background (.complete a) = some w') :
    w'.InRegistry up key b ∧ w'.alloc.progressMap up key = none ∧
      ∃ e, (Op.cancel up key).apply env directory w' = (.error e, w') := by
  have hord := (OrderedInv.of_fresh hfresh).reachable env directory h
  obtain ⟨jb, hjb, hupb, hkeyb, hg⟩ := hord.registered up key b hm
  obtain ⟨j, hj, -, rfl⟩ := World.background_complete hc
  obtain rfl : j = ja := Option.some.inj (hj.symm.trans ha)
  have hkeyed : j.req.completedKey = key := (hord.keyed a j hj).trans hkey
  have hmap : (w.completeRequest a j).alloc.progressMap up key = none := by
    simp [World.completeRequest_alloc, hup, hkeyed]
  refine ⟨⟨jb, ?_, hupb, hkeyb, hg, hord.fresh up key b jb hm hjb⟩, hmap,
    Op.cancel_of_unregistered env directory hmap⟩
  rwa [World.completeRequest_jobs, getElem?_modify_of_ne (Ne.symm hab)]

end

/-- The sample allocation after `UploadFile("f", "/a")` and `UploadFile("f", "/b")`, both
goroutines' sends and registrations, and the receive of the first upload: the entry under
`f` holds the second upload while the first one runs. -/
def sampleShared : World LocalFs RemoteNs :=
  ((Op.uploadFile "f" "/b").apply (sampleEnv 0) "d"
    ((Op.uploadFile "f" "/a").apply (sampleEnv 0) "d"
      (sampleWorld 2 2 [("f", ⟨false, 8⟩)] sampleNs)).2).2.steps
    [.send 0, .register 0, .send 1, .register 1, .dispatch true]

/-- When the first upload completes, the second one, still running, has no entry under `f`
and `CancelUpload("f")` fails. -/
theorem completion_drops_shared_entry_sample :
    (sampleShared.steps [.complete 0]).InRegistry true "f" 1 ∧
      (sampleShared.steps [.complete 0]).alloc.uploadProgressMap "f" = none ∧
      ∃ e, cancelUpload (sampleShared.steps [.complete 0]) "f" =
        (.error e, sampleShared.steps [.complete 0]) :=
  @completion_drops_shared_entry _ _ (sampleEnv 0) "d" _ sampleShared _ 0 1 _ true "f"
    (sampleWorld_fresh 2 2 [("f", ⟨false, 8⟩)] sampleNs)
    (.background (.dispatch true) (.background (.register 1) (.background (.send 1)
      (.background (.register 0) (.background (.send 0)
        (.call (Op.uploadFile "f" "/b") (.call (Op.uploadFile "f" "/a") .init))
        rfl trivial) rfl trivial) rfl trivial) rfl trivial)
      rfl fun _ hid => by obtain rfl := Option.some.inj hid; exact ⟨_, rfl, rfl⟩)
    (by decide) rfl rfl rfl rfl rfl

end ZboxSdk
