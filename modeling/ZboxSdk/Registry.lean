import ZboxSdk.Queue

/-!
# The progress maps as a registry

What the progress maps are for: `CancelUpload` and `CancelDownload` look a request up by its
kind and key, so a map should hold exactly the requests in flight, each under its own key.
`World.InRegistry` is that registry: the requests whose goroutine has registered them and
whose task has not completed. The maps are this registry in the runs where the dispatcher
receives only registered requests, `InitAllocation` is not called again, and no call starts a
request under a key that another request of its kind in flight holds; a key may be used again
once its request has completed. Without the first condition a completed request stays
registered (`completed_request_stays_registered`); without the third a running request loses
its entry (`completion_drops_shared_entry`).
-/

namespace ZboxSdk

section

variable {Fs Ns : Type} (env : Env Fs Ns) (directory : String) {w w' w₀ : World Fs Ns}
  {id : ℕ} {j : Job}

/-- The registry the progress maps stand for: job `id` is a request of kind `up` under
`key`, registered by its goroutine, whose task has not completed. -/
def World.InRegistry (w : World Fs Ns) (up : Bool) (key : String) (id : ℕ) : Prop :=
  ∃ j : Job, w.jobs[id]? = some j ∧ j.req.isUpload = up ∧ j.key = key ∧
    j.goroutine = .exited ∧ j.task ≠ .completed

/-- No two requests of one kind share a key. -/
def World.UniqueKeys (w : World Fs Ns) : Prop :=
  ∀ (m n : ℕ) (a b : Job), w.jobs[m]? = some a → w.jobs[n]? = some b →
    a.req.isUpload = b.req.isUpload → a.key = b.key → m = n

/-- No two requests of one kind under one key are in flight at once, a request being in flight
from its spawn until its task completes. -/
def World.InFlightUnique (w : World Fs Ns) : Prop :=
  ∀ (m n : ℕ) (a b : Job), w.jobs[m]? = some a → w.jobs[n]? = some b →
    a.task ≠ .completed → b.task ≠ .completed →
    a.req.isUpload = b.req.isUpload → a.key = b.key → m = n

/-- Unique keys are unique among the requests in flight. -/
theorem World.UniqueKeys.inFlightUnique (hu : w.UniqueKeys) : w.InFlightUnique :=
  fun m n a b ha hb _ _ => hu m n a b ha hb

/-- Jobs whose kinds and keys are pairwise distinct have unique keys. -/
theorem World.uniqueKeys_of_nodup (h : (w.jobs.map fun j => (j.req.isUpload, j.key)).Nodup) :
    w.UniqueKeys := by
  intro m n a b ha hb hup hkey
  refine List.getElem?_inj (by simpa using (List.getElem?_eq_some_iff.mp ha).1) h ?_
  simp only [List.getElem?_map, ha, hb, Option.map_some', hup, hkey]

/-- The registered-first runs that never call `InitAllocation` again. -/
inductive ReachableSettled (w₀ : World Fs Ns) : World Fs Ns → Prop
  | init : ReachableSettled w₀ w₀
  | call {w : World Fs Ns} (op : Op) : op ≠ .initAllocation → ReachableSettled w₀ w →
      ReachableSettled w₀ (op.apply env directory w).2
  | background {w w' : World Fs Ns} (b : Background) : ReachableSettled w₀ w →
      w.background b = some w' → b.ReceivesRegistered w → ReachableSettled w₀ w'

/-- The settled runs are registered-first runs. -/
theorem ReachableSettled.registeredFirst (h : ReachableSettled env directory w₀ w) :
    ReachableRegisteredFirst env directory w₀ w := by
  induction h with
  | init => exact .init
  | call op _ _ ih => exact .call op ih
  | background b _ hb hrec ih => exact .background b ih hb hrec

/-- The settled runs in which no call starts a request under a key that another request of its
kind in flight holds. -/
inductive ReachableExclusive (w₀ : World Fs Ns) : World Fs Ns → Prop
  | init : ReachableExclusive w₀ w₀
  | call {w : World Fs Ns} (op : Op) : op ≠ .initAllocation → ReachableExclusive w₀ w →
      (op.apply env directory w).2.InFlightUnique →
      ReachableExclusive w₀ (op.apply env directory w).2
  | background {w w' : World Fs Ns} (b : Background) : ReachableExclusive w₀ w →
      w.background b = some w' → b.ReceivesRegistered w → ReachableExclusive w₀ w'

/-- The exclusive runs are settled runs. -/
theorem ReachableExclusive.settled (h : ReachableExclusive env directory w₀ w) :
    ReachableSettled env directory w₀ w := by
  induction h with
  | init => exact .init
  | call op hop _ _ ih => exact .call op hop ih
  | background b _ hb hrec ih => exact .background b ih hb hrec

/-- A goroutine step keeps every job's request and key at its index. -/
theorem World.background_jobs_keep {b : Background} (hb : w.background b = some w') {m : ℕ}
    {a : Job} (ha : w.jobs[m]? = some a) :
    ∃ a', w'.jobs[m]? = some a' ∧ a'.req = a.req ∧ a'.key = a.key := by
  have keep : ∀ (f : Job → Job) (n : ℕ), (∀ a, (f a).req = a.req ∧ (f a).key = a.key) →
      ∃ a', (w.jobs.modify f n)[m]? = some a' ∧ a'.req = a.req ∧ a'.key = a.key := by
    intro f n hf
    by_cases hm : m = n
    · subst hm
      exact ⟨_, getElem?_modify_of_eq_some ha, hf a⟩
    · exact ⟨a, by rw [List.getElem?_modify_ne _ _ (Ne.symm hm), ha], rfl, rfl⟩
  cases b with
  | send id =>
    obtain ⟨j, -, -, rfl⟩ := World.background_send hb
    exact keep _ id fun _ => ⟨rfl, rfl⟩
  | register id =>
    obtain ⟨j, -, -, rfl⟩ := World.background_register hb
    exact keep _ id fun _ => ⟨rfl, rfl⟩
  | dispatch up =>
    obtain ⟨id, rest, -, rfl⟩ := World.background_dispatch hb
    exact keep _ id fun _ => ⟨rfl, rfl⟩
  | complete id =>
    obtain ⟨j, -, -, rfl⟩ := World.background_complete hb
    exact keep _ id fun _ => ⟨rfl, rfl⟩

/-- Unique keys after a step were unique before it. -/
theorem World.UniqueKeys.of_jobs_keep
    (hkeep : ∀ (m : ℕ) (a : Job), w.jobs[m]? = some a →
      ∃ a', w'.jobs[m]? = some a' ∧ a'.req = a.req ∧ a'.key = a.key)
    (hu : w'.UniqueKeys) : w.UniqueKeys := by
  intro m n a b ha hb hup hkey
  obtain ⟨a', ha', hra, hka⟩ := hkeep m a ha
  obtain ⟨b', hb', hrb, hkb⟩ := hkeep n b hb
  exact hu m n a' b' ha' hb' (by rw [hra, hrb, hup]) (by rw [hka, hkb, hkey])

/-- A settled run that ends with unique keys is exclusive: keys were unique all along. -/
theorem ReachableSettled.exclusive (h : ReachableSettled env directory w₀ w) (hu : w.UniqueKeys) :
    ReachableExclusive env directory w₀ w := by
  induction h with
  | init => exact .init
  | call op hop _ ih =>
    refine .call op hop (ih (hu.of_jobs_keep fun m a ha => ?_)) hu.inFlightUnique
    obtain ⟨a', ha', hreq, hkey, -⟩ := (Op.apply_jobsFollow env directory op _).2 m a ha
    exact ⟨a', ha', hreq, hkey⟩
  | background b _ hb hrec ih =>
    exact .background b (ih (hu.of_jobs_keep fun m a ha => World.background_jobs_keep hb ha))
      hb hrec

/-- Changing one job, keeping its request and key and not taking a completed task out of
completion, keeps the requests in flight unique. -/
theorem World.InFlightUnique.of_modify {f : Job → Job} (hu : w.InFlightUnique)
    (hjobs : w'.jobs = w.jobs.modify f id)
    (hf : ∀ a, w.jobs[id]? = some a →
      (f a).req = a.req ∧ (f a).key = a.key ∧
        ((f a).task ≠ .completed → a.task ≠ .completed)) :
    w'.InFlightUnique := by
  have back : ∀ {k : ℕ} {c' : Job}, w'.jobs[k]? = some c' → c'.task ≠ .completed →
      ∃ c : Job, w.jobs[k]? = some c ∧ c.task ≠ .completed ∧ c'.req = c.req ∧
        c'.key = c.key := by
    intro k c' hc hct
    rw [hjobs] at hc
    rcases getElem?_modify_cases hc with ⟨rfl, c, hc₀, rfl⟩ | ⟨-, hc₀⟩
    · obtain ⟨hr, hk, ht⟩ := hf c hc₀
      exact ⟨c, hc₀, ht hct, hr, hk⟩
    · exact ⟨c', hc₀, hct, rfl, rfl⟩
  intro m n a' b' ha' hb' hta htb hup hkey
  obtain ⟨a, ha, hta', hra, hka⟩ := back ha' hta
  obtain ⟨b, hb, htb', hrb, hkb⟩ := back hb' htb
  exact hu m n a b ha hb hta' htb' (by rw [← hra, ← hrb, hup]) (by rw [← hka, ← hkb, hkey])

/-- A goroutine step from a state whose channels hold unstarted requests keeps the requests in
flight unique: it puts no completed task back in flight. -/
theorem World.InFlightUnique.background {b : Background} (hq : QueueInv w)
    (hu : w.InFlightUnique) (hb : w.background b = some w') : w'.InFlightUnique := by
  cases b with
  | send id =>
    obtain ⟨j, -, -, rfl⟩ := World.background_send hb
    exact hu.of_modify rfl fun _ _ => ⟨rfl, rfl, fun h => h⟩
  | register id =>
    obtain ⟨j, -, -, rfl⟩ := World.background_register hb
    exact hu.of_modify rfl fun _ _ => ⟨rfl, rfl, fun h => h⟩
  | dispatch up =>
    obtain ⟨id, rest, hc, rfl⟩ := World.background_dispatch hb
    obtain ⟨j, hj, -, hidle⟩ := hq.queued up id (by rw [hc]; exact List.mem_cons_self _ _)
    refine hu.of_modify rfl fun a ha => ⟨rfl, rfl, fun _ => ?_⟩
    rw [Option.some.inj (ha.symm.trans hj), hidle]
    nofun
  | complete id =>
    obtain ⟨j, -, -, rfl⟩ := World.background_complete hb
    exact hu.of_modify rfl fun _ _ => ⟨rfl, rfl, fun h => absurd rfl h⟩

/-- Every registered request whose task has not completed has the entry under its kind and
key. -/
def World.Registered (w : World Fs Ns) : Prop :=
  ∀ (id : ℕ) (j : Job), w.jobs[id]? = some j → j.goroutine = .exited →
    j.task ≠ .completed → w.alloc.progressMap j.req.isUpload j.key = some id

/-- A call other than `InitAllocation` leaves both progress maps as they were. -/
theorem Op.apply_progressMap_of_ne {op : Op} (hop : op ≠ .initAllocation) (up : Bool) :
    (op.apply env directory w).2.alloc.progressMap up = w.alloc.progressMap up := by
  rcases Op.apply_alloc env directory op w with ⟨h, -⟩ | ⟨v, -, h⟩ | ⟨rfl, -⟩
  · rw [h]
  · rw [h, Allocation.progressMap_updateRepairStatus]
  · exact absurd rfl hop

/-- Every call but `InitAllocation` keeps the registered requests registered: no call writes the
maps. -/
theorem World.Registered.call {op : Op} (hop : op ≠ .initAllocation) (h : w.Registered) :
    (op.apply env directory w).2.Registered := by
  intro m a' ha' hg ht
  rw [Op.apply_progressMap_of_ne env directory hop]
  rcases (Op.apply_jobsFollow env directory op w).1 m a' ha' with
    ⟨a, ha, hreq, hkey, hg', ht'⟩ | ⟨-, hs, -⟩
  · rw [hreq, hkey]
    exact h m a ha (hg' ▸ hg) (ht' ▸ ht)
  · rw [hs] at hg
    cases hg

/-- A goroutine's send keeps the registered requests registered. -/
theorem World.Registered.sendRequest (h : w.Registered) :
    (w.sendRequest id j).Registered := by
  intro m a' ha' hg ht
  simp only [World.sendRequest_alloc, Allocation.progressMap_withChan]
  rcases getElem?_modify_cases ha' with ⟨rfl, a, -, rfl⟩ | ⟨-, ha⟩
  · cases hg
  · exact h m a' ha hg ht

/-- A registration, of a request not completed, keeps every other registered request's entry
when the requests in flight are unique. -/
theorem World.Registered.registerRequest (hu : w.InFlightUnique) (h : w.Registered)
    (hj : w.jobs[id]? = some j) (ht : j.task ≠ .completed) :
    (w.registerRequest id j).Registered := by
  intro m a' ha' hg ht'
  rcases getElem?_modify_cases ha' with ⟨rfl, a, ha, rfl⟩ | ⟨hne, ha⟩
  · rw [hj] at ha
    cases ha
    simp
  · have hold := h m a' ha hg ht'
    simp only [World.registerRequest_alloc, Allocation.progressMap_withProgressMap]
    split
    · rename_i hup
      rw [Function.update_noteq fun hkey => hne (hu m id a' j ha hj ht' ht hup hkey)]
      rwa [hup] at hold
    · exact hold

/-- A receive changes no map and no goroutine, and starts a request that has not started. -/
theorem World.Registered.receiveRequest {up : Bool} {rest : List ℕ} (hq : QueueInv w)
    (h : w.Registered) (hc : w.alloc.chan up = id :: rest) :
    (w.receiveRequest up id rest).Registered := by
  intro m a' ha' hg ht
  simp only [World.receiveRequest_alloc, Allocation.progressMap_withChan]
  rcases getElem?_modify_cases ha' with ⟨rfl, a, ha, rfl⟩ | ⟨-, ha⟩
  · obtain ⟨a₀, ha₀, -, hidle⟩ := hq.queued up m (by rw [hc]; exact List.mem_cons_self _ _)
    rw [ha] at ha₀
    cases ha₀
    exact h m a ha hg (by rw [hidle]; nofun)
  · exact h m a' ha hg ht

/-- A completion, of a running request, deletes no other registered request's entry when the
requests in flight are unique. -/
theorem World.Registered.completeRequest (hinv : Inv w) (hu : w.InFlightUnique)
    (h : w.Registered) (hj : w.jobs[id]? = some j) (ht : j.task = .running) :
    (w.completeRequest id j).Registered := by
  intro m a' ha' hg ht'
  rcases getElem?_modify_cases ha' with ⟨rfl, a, -, rfl⟩ | ⟨hne, ha⟩
  · exact absurd rfl ht'
  · have hold := h m a' ha hg ht'
    simp only [World.completeRequest_alloc, Allocation.progressMap_withProgressMap]
    split
    · rename_i hup
      rw [Function.update_noteq fun hkey => hne (hu m id a' j ha hj ht' (by rw [ht]; nofun) hup
        (hkey.trans (hinv.keyed id j hj)))]
      rwa [hup] at hold
    · exact hold

/-- A goroutine step of a registered-first run keeps every registered request's entry when the
requests in flight are unique. -/
theorem World.Registered.background {b : Background} (hq : QueueInv w) (hord : OrderedInv w)
    (hu : w.InFlightUnique) (h : w.Registered) (hb : w.background b = some w') :
    w'.Registered := by
  cases b with
  | send id =>
    obtain ⟨j, -, -, rfl⟩ := World.background_send hb
    exact h.sendRequest
  | register id =>
    obtain ⟨j, hj, hg, rfl⟩ := World.background_register hb
    refine h.registerRequest hu hj ?_
    rw [hord.waiting id j hj (by rw [hg]; nofun)]
    nofun
  | dispatch up =>
    obtain ⟨id, rest, hc, rfl⟩ := World.background_dispatch hb
    exact h.receiveRequest hq hc
  | complete id =>
    obtain ⟨j, hj, ht, rfl⟩ := World.background_complete hb
    exact h.completeRequest hq.toInv hu hj ht

/-- In the exclusive runs from a fresh allocation, the requests in flight are unique and every
registered request not completed has its entry. -/
theorem World.Registered.exclusive (hfresh : w₀.Fresh)
    (h : ReachableExclusive env directory w₀ w) :
    w.InFlightUnique ∧ w.Registered := by
  induction h with
  | init =>
    exact ⟨fun m _ a _ ha => by simp [hfresh.jobs] at ha,
      fun m a ha => by simp [hfresh.jobs] at ha⟩
  | call op hop _ hu ih => exact ⟨hu, ih.2.call env directory hop⟩
  | background b hprev hb hrec ih =>
    have hfirst := (hprev.settled env directory).registeredFirst env directory
    have hq := (QueueInv.of_fresh hfresh).reachable env directory hfirst.reachable
    have hord := (OrderedInv.of_fresh hfresh).reachable env directory hfirst
    exact ⟨ih.1.background hq hb, ih.2.background hq hord ih.1 hb⟩

/-- In the runs from a fresh allocation where the dispatcher receives only registered requests,
`InitAllocation` is not called again and no call starts a request under a key another request
of its kind in flight holds, the progress maps are the registry: an entry under a kind and a
key is exactly a registered request of that kind and key whose task has not completed. -/
theorem settled_progressMap_iff (hfresh : w₀.Fresh) (h : ReachableExclusive env directory w₀ w)
    (up : Bool) (key : String) (id : ℕ) :
    w.alloc.progressMap up key = some id ↔ w.InRegistry up key id := by
  have hord := (OrderedInv.of_fresh hfresh).reachable env directory
    ((h.settled env directory).registeredFirst env directory)
  constructor
  · intro hm
    obtain ⟨j, hj, hup, hkey, hg⟩ := hord.registered up key id hm
    exact ⟨j, hj, hup, hkey, hg, hord.fresh up key id j hm hj⟩
  · rintro ⟨j, hj, rfl, rfl, hg, ht⟩
    exact (World.Registered.exclusive env directory hfresh h).2 id j hj hg ht

end

/-- After `UploadFile("f", "/a")` and `UploadFile("g", "/b")` on the sample allocation, the
first upload's send, registration, receive and completion, and the second one's send and
registration, the entry under `g` is the registry's. -/
theorem settled_progressMap_iff_sample :
    sampleTwoUploads.alloc.progressMap true "g" = some 1 ↔
      sampleTwoUploads.InRegistry true "g" 1 :=
  settled_progressMap_iff (sampleEnv 0) "d"
    (sampleWorld_fresh 2 2 [("f", ⟨false, 8⟩), ("g", ⟨false, 4⟩)] sampleNs)
    (ReachableSettled.exclusive (sampleEnv 0) "d"
      (.background (.register 1) (.background (.send 1) (.background (.complete 0)
        (.background (.dispatch true) (.background (.register 0) (.background (.send 0)
          (.call (Op.uploadFile "g" "/b") nofun (.call (Op.uploadFile "f" "/a") nofun .init))
          rfl trivial) rfl trivial)
          rfl fun _ hid => by obtain rfl := Option.some.inj hid; exact ⟨_, rfl, rfl⟩)
        rfl trivial) rfl trivial) rfl trivial)
      (World.uniqueKeys_of_nodup (by decide)))
    true "g" 1

end ZboxSdk
