import ZboxSdk.Progress

/-!
# The channels

What `uploadChan` and `downloadChan` hold in every reachable state: distinct requests of the
channel's kind, whose goroutines have sent them and whose tasks have not started. So the
dispatcher only starts a task that has not been started, and takes it off its channel for
good. This holds across `InitAllocation` too, which replaces both channels with empty ones.
-/

namespace ZboxSdk

section

variable {Fs Ns : Type} {w w' : World Fs Ns} {id : ℕ} {j : Job}

/-- What holds of the channels besides `Inv`. -/
structure QueueInv (w : World Fs Ns) extends Inv w : Prop where
  /-- No request is queued twice. -/
  nodup : ∀ up, (w.alloc.chan up).Nodup
  /-- A queued request is of its channel's kind and has not been started. -/
  queued : ∀ (up : Bool) (id : ℕ), id ∈ w.alloc.chan up →
    ∃ j : Job, w.jobs[id]? = some j ∧ j.req.isUpload = up ∧ j.task = .idle

/-- A request whose goroutine has not sent it is in no channel. -/
theorem Inv.not_mem_chan (hinv : Inv w) (hj : w.jobs[id]? = some j)
    (hs : j.goroutine = .sending) (up : Bool) : id ∉ w.alloc.chan up := fun hm => by
  obtain ⟨a, ha, hg⟩ := hinv.chan up id hm
  rw [hj] at ha
  cases ha
  exact hg hs

/-- Every call keeps the channel invariant; `InitAllocation` empties both channels. -/
theorem QueueInv.call (env : Env Fs Ns) (directory : String) (op : Op) (hinv : QueueInv w) :
    QueueInv (op.apply env directory w).2 where
  toInv := hinv.toInv.call env directory op
  nodup up := by
    rcases Op.apply_chan_progressMap env directory op w with h | h <;> rw [(h up).1]
    · exact hinv.nodup up
    · exact List.nodup_nil
  queued up m hm := by
    rcases Op.apply_chan_progressMap env directory op w with h | h <;> rw [(h up).1] at hm
    · obtain ⟨a, ha, hup, ht⟩ := hinv.queued up m hm
      obtain ⟨a', ha', hreq, -, -, ht'⟩ := (Op.apply_jobsFollow env directory op w).2 m a ha
      exact ⟨a', ha', by rw [hreq, hup], by rw [ht', ht]⟩
    · cases hm

/-- A goroutine's send keeps the channel invariant: it queues a request of the channel's kind that
has not started, and that no channel held. -/
theorem QueueInv.sendRequest (hinv : QueueInv w) (hj : w.jobs[id]? = some j)
    (hs : j.goroutine = .sending) : QueueInv (w.sendRequest id j) where
  toInv := hinv.toInv.sendRequest hj hs
  nodup up := by
    simp only [World.sendRequest_alloc, Allocation.chan_withChan]
    split
    · exact (hinv.nodup _).append (List.nodup_singleton id)
        (List.disjoint_singleton.mpr (hinv.not_mem_chan hj hs _))
    · exact hinv.nodup up
  queued up m hm := by
    rcases World.mem_chan_sendRequest hm with hold | ⟨rfl, hup⟩
    · have hm' : m ≠ id := by
        rintro rfl
        exact hinv.not_mem_chan hj hs up hold
      obtain ⟨a, ha, hup, ht⟩ := hinv.queued up m hold
      exact ⟨a, by rw [World.sendRequest_jobs, getElem?_modify_of_ne hm', ha], hup, ht⟩
    · exact ⟨_, getElem?_modify_of_eq_some hj, hup.symm, hinv.idle m j hj hs⟩

/-- A goroutine's registration keeps the channel invariant. -/
theorem QueueInv.registerRequest (hinv : QueueInv w) (hj : w.jobs[id]? = some j)
    (hs : j.goroutine = .registering) : QueueInv (w.registerRequest id j) where
  toInv := hinv.toInv.registerRequest hj hs
  nodup up := by
    simpa only [World.registerRequest_alloc, Allocation.chan_withProgressMap] using hinv.nodup up
  queued up m hm := by
    simp only [World.registerRequest_alloc, Allocation.chan_withProgressMap] at hm
    obtain ⟨a, ha, hup, ht⟩ := hinv.queued up m hm
    by_cases hm' : m = id
    · subst hm'
      exact ⟨_, getElem?_modify_of_eq_some ha, hup, ht⟩
    · exact ⟨a, by rw [World.registerRequest_jobs, getElem?_modify_of_ne hm', ha], hup, ht⟩

/-- The dispatcher's receive keeps the channel invariant: it takes the head off its channel and
starts its task. -/
theorem QueueInv.receiveRequest {up : Bool} {rest : List ℕ} (hinv : QueueInv w)
    (hc : w.alloc.chan up = id :: rest) : QueueInv (w.receiveRequest up id rest) where
  toInv := hinv.toInv.receiveRequest hc
  nodup up' := by
    simp only [World.receiveRequest_alloc, Allocation.chan_withChan]
    split
    · exact (List.nodup_cons.mp (hc ▸ hinv.nodup up)).2
    · exact hinv.nodup up'
  queued up' m hm := by
    simp only [World.receiveRequest_alloc, Allocation.chan_withChan] at hm
    have hhead : id ∈ w.alloc.chan up := by
      rw [hc]
      exact List.mem_cons_self _ _
    have hold : m ∈ w.alloc.chan up' ∧ m ≠ id := by
      split at hm
      · rename_i hup
        subst hup
        have hnd := hinv.nodup up'
        rw [hc, List.nodup_cons] at hnd
        exact ⟨by rw [hc]; exact List.mem_cons_of_mem _ hm, fun h => hnd.1 (h ▸ hm)⟩
      · refine ⟨hm, ?_⟩
        rintro rfl
        obtain ⟨a, ha, hup, -⟩ := hinv.queued up' m hm
        obtain ⟨a', ha', hup', -⟩ := hinv.queued up m hhead
        rw [ha] at ha'
        cases ha'
        exact ‹¬up' = up› (hup.symm.trans hup')
    obtain ⟨a, ha, hup, ht⟩ := hinv.queued up' m hold.1
    exact ⟨a, by rw [World.receiveRequest_jobs, getElem?_modify_of_ne hold.2, ha], hup, ht⟩

/-- A task's completion keeps the channel invariant. -/
theorem QueueInv.completeRequest (hinv : QueueInv w) (hj : w.jobs[id]? = some j)
    (ht : j.task = .running) : QueueInv (w.completeRequest id j) where
  toInv := hinv.toInv.completeRequest hj ht
  nodup up := by
    simpa only [World.completeRequest_alloc, Allocation.chan_withProgressMap] using hinv.nodup up
  queued up m hm := by
    simp only [World.completeRequest_alloc, Allocation.chan_withProgressMap] at hm
    obtain ⟨a, ha, hup, hidle⟩ := hinv.queued up m hm
    have hne : m ≠ id := by
      rintro rfl
      rw [hj] at ha
      cases ha
      rw [ht] at hidle
      cases hidle
    exact ⟨a, by rw [World.completeRequest_jobs, getElem?_modify_of_ne hne, ha], hup, hidle⟩

/-- Every goroutine step keeps the channel invariant. -/
theorem QueueInv.background {b : Background} (hinv : QueueInv w)
    (h : w.background b = some w') : QueueInv w' := by
  cases b with
  | send id =>
    obtain ⟨j, hj, hs, rfl⟩ := World.background_send h
    exact hinv.sendRequest hj hs
  | register id =>
    obtain ⟨j, hj, hs, rfl⟩ := World.background_register h
    exact hinv.registerRequest hj hs
  | dispatch up =>
    obtain ⟨id, rest, hc, rfl⟩ := World.background_dispatch h
    exact hinv.receiveRequest hc
  | complete id =>
    obtain ⟨j, hj, ht, rfl⟩ := World.background_complete h
    exact hinv.completeRequest hj ht

/-- A fresh allocation has empty channels, so it meets the channel invariant. -/
theorem QueueInv.of_fresh (h : w.Fresh) : QueueInv w where
  toInv := Inv.of_fresh h
  nodup up := by simp [h.chan]
  queued up m hm := by simp [h.chan] at hm

/-- The channel invariant holds of every state a run reaches from a state that meets it. -/
theorem QueueInv.reachable (env : Env Fs Ns) (directory : String) {w₀ : World Fs Ns}
    (h0 : QueueInv w₀) (h : Reachable env directory w₀ w) : QueueInv w := by
  induction h with
  | init => exact h0
  | step _ hs ih =>
    cases hs with
    | call op => exact ih.call env directory op
    | background b hb => exact ih.background hb

/-- From a fresh allocation, in every reachable state, each channel holds distinct requests of
its kind whose tasks have not started; so the dispatcher receives a request at the head of its
channel whose task has not started, starts it, and leaves it in the channel no more: no task
is started twice. -/
theorem reachable_dispatch_unstarted (env : Env Fs Ns) (directory : String) {w₀ : World Fs Ns}
    (hfresh : w₀.Fresh) (h : Reachable env directory w₀ w) (up : Bool) :
    (w.alloc.chan up).Nodup ∧
      (∀ id ∈ w.alloc.chan up,
        ∃ j, w.jobs[id]? = some j ∧ j.req.isUpload = up ∧ j.task = .idle) ∧
      ∀ w', w.background (.dispatch up) = some w' →
        ∃ id j, (w.alloc.chan up).head? = some id ∧ w.jobs[id]? = some j ∧ j.task = .idle ∧
          w'.jobs[id]? = some { j with task := .running } ∧ id ∉ w'.alloc.chan up := by
  have hinv := (QueueInv.of_fresh hfresh).reachable env directory h
  refine ⟨hinv.nodup up, hinv.queued up, fun w' hd => ?_⟩
  obtain ⟨id, rest, hc, rfl⟩ := World.background_dispatch hd
  obtain ⟨j, hj, -, ht⟩ := hinv.queued up id (by rw [hc]; exact List.mem_cons_self _ _)
  have hnd := hinv.nodup up
  rw [hc, List.nodup_cons] at hnd
  refine ⟨id, j, by rw [hc]; rfl, hj, ht, getElem?_modify_of_eq_some hj, ?_⟩
  simpa using hnd.1

end

/-- The sample allocation after `UploadFile("f", "/a")` and its goroutine's send. -/
def sampleQueued : World LocalFs RemoteNs :=
  ((Op.uploadFile "f" "/a").apply (sampleEnv 0) "d"
    (sampleWorld 2 2 [("f", ⟨false, 8⟩)] sampleNs)).2.steps [.send 0]

/-- The upload channel then holds job 0 alone, and the dispatcher receives it unstarted. -/
theorem reachable_dispatch_unstarted_sample :
    ∃ j, sampleQueued.jobs[0]? = some j ∧ j.task = .idle ∧
      (sampleQueued.steps [.dispatch true]).jobs[0]? = some { j with task := .running } := by
  obtain ⟨-, -, hd⟩ := @reachable_dispatch_unstarted _ _ _ (sampleEnv 0) "d"
    _ (sampleWorld_fresh 2 2 [("f", ⟨false, 8⟩)] sampleNs)
    ((Reachable.step .init (.call (Op.uploadFile "f" "/a") _)).steps _ _ [.send 0]) true
  obtain ⟨id, j, hhead, hj, ht, hj', -⟩ := hd _ rfl
  obtain rfl : id = 0 := Option.some.inj (hhead.symm.trans (show _ = some 0 from rfl))
  exact ⟨j, hj, ht, hj'⟩

end ZboxSdk
