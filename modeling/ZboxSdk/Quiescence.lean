import ZboxSdk.Registry

/-!
# The goroutines finish

Every goroutine step moves one request's goroutine or its task one phase on, and none moves
one back: a request has four steps before it when it is spawned (its send, its registration,
its receive by the dispatcher and its completion), so every schedule of the goroutines from a
reachable state takes at most four steps per request, and some schedule ends in a state where
no goroutine step can be taken. Such a state has both channels empty, every goroutine exited
and no task running. In the runs that do not call `InitAllocation` again no request is ever
stranded off its channel, so there every request has completed; and when the dispatcher
receives only registered requests, both progress maps are empty as well, and that state is
the same whichever schedule reached it. Along every run, calls included, each request keeps
its request and key, and its goroutine and task never go back a phase.
-/

namespace ZboxSdk

/-- The steps the goroutine of a job has before it: its send and its registration. -/
def GoroutinePhase.stepsLeft : GoroutinePhase → ℕ
  | .sending => 2
  | .registering => 1
  | .exited => 0

/-- The steps the task of a job has before it: its receive and its completion. -/
def TaskPhase.stepsLeft : TaskPhase → ℕ
  | .idle => 2
  | .running => 1
  | .completed => 0

/-- The goroutine steps job `j` has before it. -/
def Job.stepsLeft (j : Job) : ℕ := j.goroutine.stepsLeft + j.task.stepsLeft

/-- The goroutine steps the jobs `jobs` have before them. -/
def jobsStepsLeft : List Job → ℕ
  | [] => 0
  | j :: jobs => j.stepsLeft + jobsStepsLeft jobs

/-- The goroutine steps the jobs of `w` have before them. -/
def World.stepsLeft {Fs Ns : Type} (w : World Fs Ns) : ℕ := jobsStepsLeft w.jobs

/-- A goroutine has at most two steps left. -/
theorem GoroutinePhase.stepsLeft_le (g : GoroutinePhase) : g.stepsLeft ≤ 2 := by
  cases g <;> decide

/-- A task has at most two steps left. -/
theorem TaskPhase.stepsLeft_le (t : TaskPhase) : t.stepsLeft ≤ 2 := by
  cases t <;> decide

/-- A request has at most four steps left. -/
theorem Job.stepsLeft_le (j : Job) : j.stepsLeft ≤ 4 :=
  Nat.add_le_add j.goroutine.stepsLeft_le j.task.stepsLeft_le

/-- The requests have at most four steps left each. -/
theorem jobsStepsLeft_le : ∀ jobs : List Job, jobsStepsLeft jobs ≤ 4 * jobs.length
  | [] => Nat.le_refl 0
  | j :: jobs => by
    have hj := j.stepsLeft_le
    have ih := jobsStepsLeft_le jobs
    rw [jobsStepsLeft, List.length_cons]
    omega

/-- Changing one job changes the steps left by the change at that job. -/
theorem jobsStepsLeft_modify (f : Job → Job) :
    ∀ {jobs : List Job} {n : ℕ} {a : Job}, jobs[n]? = some a →
      jobsStepsLeft (jobs.modify f n) + a.stepsLeft = jobsStepsLeft jobs + (f a).stepsLeft
  | [], _, _, h => by simp at h
  | b :: jobs, 0, a, h => by
    obtain rfl : b = a := Option.some.inj (List.getElem?_cons_zero.symm.trans h)
    rw [List.modify_zero_cons, jobsStepsLeft, jobsStepsLeft]
    omega
  | b :: jobs, n + 1, a, h => by
    have ih := jobsStepsLeft_modify f (List.getElem?_cons_succ.symm.trans h)
    rw [List.modify_succ_cons, jobsStepsLeft, jobsStepsLeft]
    omega

section

variable {Fs Ns : Type} {w w' : World Fs Ns} {id : ℕ} {j : Job}

/-- A step that moves job `id` one phase on leaves one step fewer. -/
theorem World.stepsLeft_of_modify {f : Job → Job} (hjobs : w'.jobs = w.jobs.modify f id)
    (hj : w.jobs[id]? = some j) (hf : (f j).stepsLeft + 1 = j.stepsLeft) :
    w'.stepsLeft + 1 = w.stepsLeft := by
  have h := jobsStepsLeft_modify f hj
  rw [World.stepsLeft, World.stepsLeft, hjobs]
  omega

/-- Every goroutine step from a state whose channels hold unstarted requests leaves one step
fewer. -/
theorem QueueInv.background_stepsLeft {b : Background} (hq : QueueInv w)
    (h : w.background b = some w') : w'.stepsLeft + 1 = w.stepsLeft := by
  cases b with
  | send id =>
    obtain ⟨j, hj, hs, rfl⟩ := World.background_send h
    refine World.stepsLeft_of_modify rfl hj ?_
    simp only [Job.stepsLeft, hs, GoroutinePhase.stepsLeft]
    omega
  | register id =>
    obtain ⟨j, hj, hs, rfl⟩ := World.background_register h
    refine World.stepsLeft_of_modify rfl hj ?_
    simp only [Job.stepsLeft, hs, GoroutinePhase.stepsLeft]
    omega
  | dispatch up =>
    obtain ⟨id, rest, hc, rfl⟩ := World.background_dispatch h
    obtain ⟨j, hj, -, ht⟩ := hq.queued up id (by rw [hc]; exact List.mem_cons_self _ _)
    refine World.stepsLeft_of_modify rfl hj ?_
    simp only [Job.stepsLeft, ht, TaskPhase.stepsLeft]
  | complete id =>
    obtain ⟨j, hj, ht, rfl⟩ := World.background_complete h
    refine World.stepsLeft_of_modify rfl hj ?_
    simp only [Job.stepsLeft, ht, TaskPhase.stepsLeft]

end

/-- `a'` is the job `a` later on: the same request under the same key, its goroutine and its
task in the same phase or a later one, and still cancelled if `a` was. -/
structure Job.Advances (a a' : Job) : Prop where
  req : a'.req = a.req
  key : a'.key = a.key
  goroutine : a'.goroutine.stepsLeft ≤ a.goroutine.stepsLeft
  task : a'.task.stepsLeft ≤ a.task.stepsLeft
  canceled : a.canceled = true → a'.canceled = true

/-- A job advances to itself. -/
theorem Job.Advances.refl (a : Job) : a.Advances a := ⟨rfl, rfl, le_rfl, le_rfl, id⟩

/-- Advancing is transitive. -/
theorem Job.Advances.trans {a b c : Job} (hab : a.Advances b) (hbc : b.Advances c) :
    a.Advances c :=
  ⟨hbc.req.trans hab.req, hbc.key.trans hab.key, hbc.goroutine.trans hab.goroutine,
    hbc.task.trans hab.task, hbc.canceled ∘ hab.canceled⟩

/-- Every job of `w` is still in `w'` under its id, advanced. -/
def World.JobsAdvance {Fs Ns : Type} (w w' : World Fs Ns) : Prop :=
  ∀ (m : ℕ) (a : Job), w.jobs[m]? = some a → ∃ a', w'.jobs[m]? = some a' ∧ a.Advances a'

section

variable {Fs Ns : Type} (env : Env Fs Ns) (directory : String) {w w' w'' : World Fs Ns}
  {id : ℕ}

/-- The jobs of a state advance to themselves. -/
theorem World.JobsAdvance.refl (w : World Fs Ns) : w.JobsAdvance w :=
  fun _ a ha => ⟨a, ha, .refl a⟩

/-- The jobs advancing over two runs advance over both. -/
theorem World.JobsAdvance.trans (h : w.JobsAdvance w') (h' : w'.JobsAdvance w'') :
    w.JobsAdvance w'' := fun m a ha => by
  obtain ⟨a', ha', hadv⟩ := h m a ha
  obtain ⟨a'', ha'', hadv'⟩ := h' m a' ha'
  exact ⟨a'', ha'', hadv.trans hadv'⟩

/-- Changing job `id` into an advanced one advances every job. -/
theorem World.jobsAdvance_of_modify {f : Job → Job} (hjobs : w'.jobs = w.jobs.modify f id)
    (hf : ∀ a, w.jobs[id]? = some a → a.Advances (f a)) : w.JobsAdvance w' := by
  intro m a ha
  rw [hjobs]
  by_cases hm : m = id
  · subst hm
    exact ⟨f a, getElem?_modify_of_eq_some ha, hf a ha⟩
  · exact ⟨a, by rw [getElem?_modify_of_ne hm, ha], .refl a⟩

/-- A call advances every job: it leaves them, spawns a new one, or sets a cancel flag. -/
theorem Op.apply_jobsAdvance (op : Op) (w : World Fs Ns) :
    w.JobsAdvance (op.apply env directory w).2 := by
  rcases Op.apply_jobs env directory op w with h | ⟨r, h⟩ | ⟨id, h⟩
  · exact fun m a ha => ⟨a, by rw [h, ha], .refl a⟩
  · refine fun m a ha => ⟨a, ?_, .refl a⟩
    rw [h, List.getElem?_append_left (List.getElem?_eq_some_iff.mp ha).1, ha]
  · exact World.jobsAdvance_of_modify h fun _ _ => ⟨rfl, rfl, le_rfl, le_rfl, fun _ => rfl⟩

/-- A goroutine step from a state whose channels hold unstarted requests moves one job one
phase on: no goroutine and no task goes back. -/
theorem QueueInv.background_jobsAdvance {b : Background} (hq : QueueInv w)
    (h : w.background b = some w') : w.JobsAdvance w' := by
  cases b with
  | send id =>
    obtain ⟨j, hj, hs, rfl⟩ := World.background_send h
    refine World.jobsAdvance_of_modify rfl fun a ha => ?_
    obtain rfl := Option.some.inj (ha.symm.trans hj)
    exact ⟨rfl, rfl, by rw [hs]; exact Nat.le_succ 1, le_rfl, fun hc => hc⟩
  | register id =>
    obtain ⟨j, -, -, rfl⟩ := World.background_register h
    exact World.jobsAdvance_of_modify rfl fun _ _ =>
      ⟨rfl, rfl, Nat.zero_le _, le_rfl, fun hc => hc⟩
  | dispatch up =>
    obtain ⟨id, rest, hc, rfl⟩ := World.background_dispatch h
    obtain ⟨j, hj, -, ht⟩ := hq.queued up id (by rw [hc]; exact List.mem_cons_self _ _)
    refine World.jobsAdvance_of_modify rfl fun a ha => ?_
    obtain rfl := Option.some.inj (ha.symm.trans hj)
    exact ⟨rfl, rfl, le_rfl, by rw [ht]; exact Nat.le_succ 1, fun hc => hc⟩
  | complete id =>
    obtain ⟨j, -, -, rfl⟩ := World.background_complete h
    exact World.jobsAdvance_of_modify rfl fun _ _ =>
      ⟨rfl, rfl, le_rfl, Nat.zero_le _, fun hc => hc⟩

/-- Along every run from a state whose channels hold unstarted requests, every job advances. -/
theorem QueueInv.reachable_jobsAdvance (hq : QueueInv w) (h : Reachable env directory w w') :
    w.JobsAdvance w' := by
  induction h with
  | init => exact .refl w
  | step hprev hs ih =>
    cases hs with
    | call op => exact ih.trans (Op.apply_jobsAdvance env directory op _)
    | background b hb =>
      exact ih.trans ((hq.reachable env directory hprev).background_jobsAdvance hb)

/-- From a fresh allocation, from every reachable state on, along every run of calls and
goroutine steps, every request only moves forward: it keeps its job id, its request and its
key; its goroutine never goes back (sending, registering, exited) and neither does its task
(idle, running, completed), so no task is started again and no completed request runs again;
and a cancelled request stays cancelled. -/
theorem reachable_jobs_advance (hfresh : w₀.Fresh) (h : Reachable env directory w₀ w)
    (h' : Reachable env directory w w') : w.JobsAdvance w' :=
  ((QueueInv.of_fresh hfresh).reachable env directory h).reachable_jobsAdvance env directory h'

/-- After `UploadFile("f", "/a")` and its goroutine's send, registering, receiving and
completing the upload moves its job forward. -/
theorem reachable_jobs_advance_sample :
    sampleQueued.JobsAdvance (sampleQueued.steps [.register 0, .dispatch true, .complete 0]) :=
  reachable_jobs_advance (sampleEnv 0) "d" (sampleWorld_fresh 2 2 [("f", ⟨false, 8⟩)] sampleNs)
    ((Reachable.step .init (.call (Op.uploadFile "f" "/a") _)).steps _ _ [.send 0])
    (Reachable.steps _ _ .init [.register 0, .dispatch true, .complete 0])

end

/-- The goroutine steps `bs` one after another, when each of them can be taken. -/
def World.schedule {Fs Ns : Type} (w : World Fs Ns) : List Background → Option (World Fs Ns)
  | [] => some w
  | b :: bs => (w.background b).bind fun w' => w'.schedule bs

/-- No goroutine step can be taken. -/
def World.Quiescent {Fs Ns : Type} (w : World Fs Ns) : Prop := ∀ b, w.background b = none

section

variable {Fs Ns : Type} (env : Env Fs Ns) (directory : String) {w w' w₀ : World Fs Ns}
  {bs : List Background}

/-- A schedule runs its first step, then the rest. -/
theorem World.schedule_cons {b : Background} :
    w.schedule (b :: bs) = some w' ↔
      ∃ w₁, w.background b = some w₁ ∧ w₁.schedule bs = some w' := by
  simp only [World.schedule, Option.bind_eq_some]

/-- A schedule from a state whose channels hold unstarted requests takes one of the steps left
per step, and keeps the channels so. -/
theorem QueueInv.schedule_stepsLeft (hq : QueueInv w) (hs : w.schedule bs = some w') :
    bs.length + w'.stepsLeft = w.stepsLeft ∧ QueueInv w' := by
  induction bs generalizing w with
  | nil =>
    cases hs
    exact ⟨Nat.zero_add _, hq⟩
  | cons b bs ih =>
    obtain ⟨w₁, hb, hs⟩ := World.schedule_cons.mp hs
    obtain ⟨hlen, hq'⟩ := ih (hq.background hb) hs
    have hstep := hq.background_stepsLeft hb
    exact ⟨by rw [List.length_cons]; omega, hq'⟩

/-- From a fresh allocation, in every reachable state, every schedule of the goroutines takes
at most four steps per request: without new calls the goroutines cannot run forever. -/
theorem reachable_schedule_length_le (hfresh : w₀.Fresh) (h : Reachable env directory w₀ w)
    (hs : w.schedule bs = some w') : bs.length ≤ 4 * w.jobs.length := by
  have hlen := (((QueueInv.of_fresh hfresh).reachable env directory h).schedule_stepsLeft hs).1
  have hle : w.stepsLeft ≤ 4 * w.jobs.length := jobsStepsLeft_le w.jobs
  omega

/-- After `UploadFile("f", "/a")` and its goroutine's send, the registration, the receive and
the completion are three steps of at most four. -/
theorem reachable_schedule_length_le_sample :
    [Background.register 0, .dispatch true, .complete 0].length ≤ 4 * sampleQueued.jobs.length :=
  @reachable_schedule_length_le _ _ (sampleEnv 0) "d" sampleQueued _ _
    [.register 0, .dispatch true, .complete 0] (sampleWorld_fresh 2 2 [("f", ⟨false, 8⟩)] sampleNs)
    ((Reachable.step .init (.call (Op.uploadFile "f" "/a") _)).steps _ _ [.send 0]) rfl

/-- A state is quiescent exactly when both channels are empty, every goroutine has exited and
no task is running. -/
theorem World.quiescent_iff : w.Quiescent ↔ (∀ up, w.alloc.chan up = []) ∧
    ∀ j ∈ w.jobs, j.goroutine = .exited ∧ j.task ≠ .running := by
  constructor
  · intro hq
    have hchan : ∀ up, w.alloc.chan up = [] := fun up => by
      cases hc : w.alloc.chan up with
      | nil => rfl
      | cons id rest => cases (hq (.dispatch up)).symm.trans (World.background_dispatch_of hc)
    refine ⟨hchan, fun j hj => ?_⟩
    obtain ⟨id, hid⟩ := List.mem_iff_getElem?.mp hj
    refine ⟨?_, fun ht =>
      nomatch (hq (.complete id)).symm.trans (World.background_complete_of hid ht)⟩
    cases hg : j.goroutine with
    | sending =>
      have hsend := World.background_send_of hid hg (by rw [hchan]; decide)
      cases (hq (.send id)).symm.trans hsend
    | registering => cases (hq (.register id)).symm.trans (World.background_register_of hid hg)
    | exited => rfl
  · rintro ⟨hchan, hjobs⟩ b
    have hmem : ∀ {id : ℕ} {j : Job}, w.jobs[id]? = some j →
        j.goroutine = .exited ∧ j.task ≠ .running :=
      fun hj => hjobs _ (List.mem_iff_getElem?.mpr ⟨_, hj⟩)
    cases hb : w.background b with
    | none => rfl
    | some w' =>
      cases b with
      | send id =>
        obtain ⟨j, hj, hs, -⟩ := World.background_send hb
        exact nomatch (hmem hj).1.symm.trans hs
      | register id =>
        obtain ⟨j, hj, hs, -⟩ := World.background_register hb
        exact nomatch (hmem hj).1.symm.trans hs
      | dispatch up =>
        obtain ⟨id, rest, hc, -⟩ := World.background_dispatch hb
        exact nomatch (hchan up).symm.trans hc
      | complete id =>
        obtain ⟨j, hj, ht, -⟩ := World.background_complete hb
        exact absurd ht (hmem hj).2

/-- Whether a state is quiescent can be computed. -/
instance : DecidablePred (@World.Quiescent Fs Ns) :=
  fun _ => decidable_of_iff _ World.quiescent_iff.symm

/-- From a state whose channels hold unstarted requests, some schedule of the goroutines ends
in a quiescent state. -/
theorem QueueInv.exists_schedule_quiescent (hq : QueueInv w) :
    ∃ bs w', w.schedule bs = some w' ∧ w'.Quiescent := by
  obtain ⟨n, hn⟩ : ∃ n, w.stepsLeft = n := ⟨_, rfl⟩
  induction n using Nat.strong_induction_on generalizing w with
  | _ n ih =>
    by_cases hquiet : w.Quiescent
    · exact ⟨[], w, rfl, hquiet⟩
    · obtain ⟨b, hb⟩ := not_forall.mp hquiet
      obtain ⟨w₁, hb⟩ := Option.ne_none_iff_exists'.mp hb
      have hstep := hq.background_stepsLeft hb
      obtain ⟨bs, w', hs, hquiet'⟩ := ih w₁.stepsLeft (by omega) (hq.background hb) rfl
      exact ⟨b :: bs, w', World.schedule_cons.mpr ⟨w₁, hb, hs⟩, hquiet'⟩

/-- A schedule of goroutine steps extends a run that avoids a call. -/
theorem ReachableWithout.schedule {op₀ : Op} (h : ReachableWithout env directory op₀ w₀ w)
    (hs : w.schedule bs = some w') : ReachableWithout env directory op₀ w₀ w' := by
  induction bs generalizing w with
  | nil =>
    cases hs
    exact h
  | cons b bs ih =>
    obtain ⟨w₁, hb, hs⟩ := World.schedule_cons.mp hs
    exact ih (.background b h hb) hs

end

/-- Every request whose goroutine has sent it and whose task has not started waits in its
channel. -/
def World.NothingStranded {Fs Ns : Type} (w : World Fs Ns) : Prop :=
  ∀ (id : ℕ) (j : Job), w.jobs[id]? = some j → j.goroutine ≠ .sending → j.task = .idle →
    id ∈ w.alloc.chan j.req.isUpload

section

variable {Fs Ns : Type} (env : Env Fs Ns) (directory : String) {w w' w₀ : World Fs Ns} {id : ℕ}
  {j : Job}

/-- A call other than `InitAllocation` leaves both channels as they were. -/
theorem Op.apply_chan_of_ne {op : Op} (hop : op ≠ .initAllocation) (up : Bool) :
    (op.apply env directory w).2.alloc.chan up = w.alloc.chan up := by
  rcases Op.apply_alloc env directory op w with ⟨h, -⟩ | ⟨v, -, h⟩ | ⟨rfl, -⟩
  · rw [h]
  · rw [h, Allocation.chan_updateRepairStatus]
  · exact absurd rfl hop

/-- A fresh allocation strands no request. -/
theorem World.NothingStranded.of_fresh (h : w.Fresh) : w.NothingStranded := fun m a ha => by
  simp [h.jobs] at ha

/-- Every call but `InitAllocation` strands no request. -/
theorem World.NothingStranded.call {op : Op} (hop : op ≠ .initAllocation)
    (h : w.NothingStranded) : (op.apply env directory w).2.NothingStranded := by
  intro m a' ha' hg ht
  rw [Op.apply_chan_of_ne env directory hop]
  rcases (Op.apply_jobsFollow env directory op w).1 m a' ha' with
    ⟨a, ha, hreq, -, hg', ht'⟩ | ⟨-, hs, -⟩
  · rw [hreq]
    exact h m a ha (hg' ▸ hg) (ht' ▸ ht)
  · exact absurd hs hg

/-- A send strands no request: it queues its request. -/
theorem World.NothingStranded.sendRequest (h : w.NothingStranded) (hj : w.jobs[id]? = some j) :
    (w.sendRequest id j).NothingStranded := by
  intro m a' ha' hg ht
  simp only [World.sendRequest_alloc, Allocation.chan_withChan]
  rcases getElem?_modify_cases ha' with ⟨rfl, a, ha, rfl⟩ | ⟨-, ha⟩
  · rw [hj] at ha
    cases ha
    simp
  · have hold := h m a' ha hg ht
    split
    · rename_i hup
      rw [← hup]
      exact List.mem_append_left _ hold
    · exact hold

/-- A registration strands no request. -/
theorem World.NothingStranded.registerRequest (h : w.NothingStranded)
    (hj : w.jobs[id]? = some j) (hs : j.goroutine = .registering) :
    (w.registerRequest id j).NothingStranded := by
  intro m a' ha' hg ht
  simp only [World.registerRequest_alloc, Allocation.chan_withProgressMap]
  rcases getElem?_modify_cases ha' with ⟨rfl, a, ha, rfl⟩ | ⟨-, ha⟩
  · rw [hj] at ha
    cases ha
    exact h m j hj (by rw [hs]; nofun) ht
  · exact h m a' ha hg ht

/-- A receive strands no request: it starts the request it takes off. -/
theorem World.NothingStranded.receiveRequest {up : Bool} {rest : List ℕ}
    (h : w.NothingStranded) (hc : w.alloc.chan up = id :: rest) :
    (w.receiveRequest up id rest).NothingStranded := by
  intro m a' ha' hg ht
  rcases getElem?_modify_cases ha' with ⟨rfl, a, -, rfl⟩ | ⟨hne, ha⟩
  · cases ht
  · have hold := h m a' ha hg ht
    simp only [World.receiveRequest_alloc, Allocation.chan_withChan]
    split
    · rename_i hup
      rw [hup, hc] at hold
      exact (List.mem_cons.mp hold).resolve_left hne
    · exact hold

/-- A completion strands no request. -/
theorem World.NothingStranded.completeRequest (h : w.NothingStranded) :
    (w.completeRequest id j).NothingStranded := by
  intro m a' ha' hg ht
  simp only [World.completeRequest_alloc, Allocation.chan_withProgressMap]
  rcases getElem?_modify_cases ha' with ⟨rfl, a, -, rfl⟩ | ⟨-, ha⟩
  · cases ht
  · exact h m a' ha hg ht

/-- No goroutine step strands a request. -/
theorem World.NothingStranded.background {b : Background} (h : w.NothingStranded)
    (hb : w.background b = some w') : w'.NothingStranded := by
  cases b with
  | send id =>
    obtain ⟨j, hj, -, rfl⟩ := World.background_send hb
    exact h.sendRequest hj
  | register id =>
    obtain ⟨j, hj, hs, rfl⟩ := World.background_register hb
    exact h.registerRequest hj hs
  | dispatch up =>
    obtain ⟨id, rest, hc, rfl⟩ := World.background_dispatch hb
    exact h.receiveRequest hc
  | complete id =>
    obtain ⟨j, -, -, rfl⟩ := World.background_complete hb
    exact h.completeRequest

/-- No request is stranded along a run that does not call `InitAllocation` again. -/
theorem World.NothingStranded.reachable (h0 : w₀.NothingStranded)
    (h : ReachableWithout env directory .initAllocation w₀ w) : w.NothingStranded := by
  induction h with
  | init => exact h0
  | call op hop _ ih => exact ih.call env directory hop
  | background b _ hb ih => exact ih.background hb

/-- A quiescent state with no request stranded has completed every request. -/
theorem World.NothingStranded.quiescent_completed (h : w.NothingStranded) (hq : w.Quiescent) :
    (∀ up, w.alloc.chan up = []) ∧
      ∀ j ∈ w.jobs, j.goroutine = .exited ∧ j.task = .completed := by
  obtain ⟨hchan, hjobs⟩ := World.quiescent_iff.mp hq
  refine ⟨hchan, fun j hj => ⟨(hjobs j hj).1, ?_⟩⟩
  obtain ⟨id, hid⟩ := List.mem_iff_getElem?.mp hj
  cases ht : j.task with
  | idle =>
    have hin := h id j hid (by rw [(hjobs j hj).1]; nofun) ht
    rw [hchan] at hin
    cases hin
  | running => exact absurd ht (hjobs j hj).2
  | completed => rfl

/-- From a fresh allocation, in every run that does not call `InitAllocation` again, the
goroutines alone can always finish: some schedule of their steps reaches a state where no
goroutine step can be taken, and every such state has both channels empty and every request
sent, registered, processed and completed. -/
theorem reinitFree_goroutines_finish (hfresh : w₀.Fresh)
    (h : ReachableWithout env directory .initAllocation w₀ w) :
    (∃ bs w', w.schedule bs = some w' ∧ w'.Quiescent) ∧
      ∀ bs w', w.schedule bs = some w' → w'.Quiescent →
        (∀ up, w'.alloc.chan up = []) ∧
          ∀ j ∈ w'.jobs, j.goroutine = .exited ∧ j.task = .completed := by
  have hq := (QueueInv.of_fresh hfresh).reachable env directory h.reachable
  exact ⟨hq.exists_schedule_quiescent, fun bs w' hs hquiet =>
    ((World.NothingStranded.of_fresh hfresh).reachable env directory
      (h.schedule env directory hs)).quiescent_completed hquiet⟩

/-- After `UploadFile("f", "/a")` and its goroutine's send, the goroutines can finish, and
every schedule that ends has completed the upload. -/
theorem reinitFree_goroutines_finish_sample :
    (∃ bs w', sampleQueued.schedule bs = some w' ∧ w'.Quiescent) ∧
      ∀ bs w', sampleQueued.schedule bs = some w' → w'.Quiescent →
        (∀ up, w'.alloc.chan up = []) ∧
          ∀ j ∈ w'.jobs, j.goroutine = .exited ∧ j.task = .completed :=
  reinitFree_goroutines_finish (sampleEnv 0) "d"
    (sampleWorld_fresh 2 2 [("f", ⟨false, 8⟩)] sampleNs)
    (.background (.send 0) (.call (Op.uploadFile "f" "/a") nofun .init) rfl)

/-- The settled runs do not call `InitAllocation`. -/
theorem ReachableSettled.reachableWithout (h : ReachableSettled env directory w₀ w) :
    ReachableWithout env directory .initAllocation w₀ w := by
  induction h with
  | init => exact .init
  | call op hop _ ih => exact .call op hop ih
  | background b _ hb _ ih => exact .background b ih hb

/-- In the settled runs from a fresh allocation, a state where no goroutine step can be taken
has no entry in either progress map. -/
theorem ReachableSettled.progressMap_quiescent (hfresh : w₀.Fresh)
    (h : ReachableSettled env directory w₀ w) (hq : w.Quiescent) (up : Bool) (key : String) :
    w.alloc.progressMap up key = none := by
  cases hm : w.alloc.progressMap up key with
  | none => rfl
  | some id =>
    have hord := (OrderedInv.of_fresh hfresh).reachable env directory
      (h.registeredFirst env directory)
    obtain ⟨j, hj, -⟩ := hord.registered up key id hm
    have hdone := ((World.NothingStranded.of_fresh hfresh).reachable env directory
      (h.reachableWithout env directory)).quiescent_completed hq
    exact absurd (hdone.2 j (List.mem_iff_getElem?.mpr ⟨id, hj⟩)).2 (hord.fresh up key id j hm hj)

/-- In the settled runs from a fresh allocation, a state where no goroutine step can be taken
has both progress maps empty: no entry outlives its request, and every `CancelUpload` and
`CancelDownload` fails. -/
theorem settled_quiescent_no_entry (hfresh : w₀.Fresh) (h : ReachableSettled env directory w₀ w)
    (hq : w.Quiescent) (up : Bool) (key : String) :
    w.alloc.progressMap up key = none ∧
      ∃ e, (Op.cancel up key).apply env directory w = (.error e, w) := by
  have hnone := h.progressMap_quiescent env directory hfresh hq up key
  exact ⟨hnone, Op.cancel_of_unregistered env directory hnone⟩

/-- `UploadFile("f", "/a")`, its goroutine's send and registration, the receive of the
registered request and its completion make a settled run. -/
theorem sampleCompleted_settled : ReachableSettled (sampleEnv 0) "d"
    (sampleWorld 2 2 [("f", ⟨false, 8⟩)] sampleNs)
    (sampleQueued.steps [.register 0, .dispatch true, .complete 0]) :=
  .background (.complete 0) (.background (.dispatch true) (.background (.register 0)
    (.background (.send 0) (.call (Op.uploadFile "f" "/a") nofun .init) rfl trivial) rfl trivial)
    rfl fun _ hid => by obtain rfl := Option.some.inj hid; exact ⟨_, rfl, rfl⟩) rfl trivial

/-- After `UploadFile("f", "/a")` has been sent, registered, received and completed, `f` has
no entry and `CancelUpload("f")` fails. -/
theorem settled_quiescent_no_entry_sample :
    (sampleQueued.steps [.register 0, .dispatch true, .complete 0]).alloc.uploadProgressMap "f" =
        none ∧
      ∃ e, cancelUpload (sampleQueued.steps [.register 0, .dispatch true, .complete 0]) "f" =
        (.error e, sampleQueued.steps [.register 0, .dispatch true, .complete 0]) :=
  settled_quiescent_no_entry (sampleEnv 0) "d" (sampleWorld_fresh 2 2 [("f", ⟨false, 8⟩)] sampleNs)
    sampleCompleted_settled (by decide) true "f"

end

/-- The allocation once its goroutines are done: both channels drained and both progress
maps empty. -/
def Allocation.drained (a : Allocation) : Allocation :=
  { a with uploadChan := [], downloadChan := [],
           uploadProgressMap := fun _ => none, downloadProgressMap := fun _ => none }

/-- The job once its goroutine has exited and its task has ended. -/
def Job.finished (j : Job) : Job := { j with goroutine := .exited, task := .completed }

/-- The state once every goroutine has exited and every task has ended, no entry left behind:
the calls' effects stay, and the goroutines leave no trace but their phases. -/
def World.finished {Fs Ns : Type} (w : World Fs Ns) : World Fs Ns :=
  { w with alloc := w.alloc.drained, jobs := w.jobs.map Job.finished }

/-- Draining forgets a replaced channel. -/
@[simp] theorem Allocation.drained_withChan (a : Allocation) (up : Bool) (c : List ℕ) :
    (a.withChan up c).drained = a.drained := by
  cases up <;> rfl

/-- Draining forgets a replaced progress map. -/
@[simp] theorem Allocation.drained_withProgressMap (a : Allocation) (up : Bool)
    (m : String → Option ℕ) : (a.withProgressMap up m).drained = a.drained := by
  cases up <;> rfl

/-- An allocation with empty channels and maps is drained. -/
theorem Allocation.drained_of {a : Allocation} (hchan : ∀ up, a.chan up = [])
    (hmap : ∀ up key, a.progressMap up key = none) : a.drained = a := by
  obtain ⟨_, _, _, _, _, _, uc, dc, um, dm, _, _⟩ := a
  obtain rfl : uc = [] := hchan true
  obtain rfl : dc = [] := hchan false
  obtain rfl : um = fun _ => none := funext (hmap true)
  obtain rfl : dm = fun _ => none := funext (hmap false)
  rfl

/-- A job whose goroutine has exited and whose task has completed is finished. -/
theorem Job.finished_of {j : Job} (hg : j.goroutine = .exited) (ht : j.task = .completed) :
    j.finished = j := by
  cases j
  cases hg
  cases ht
  rfl

/-- Changing a job in a way its finished form forgets leaves the finished jobs as they were. -/
theorem map_finished_modify {f : Job → Job} (hf : ∀ j, (f j).finished = j.finished) :
    ∀ (jobs : List Job) (id : ℕ), (jobs.modify f id).map Job.finished = jobs.map Job.finished
  | [], _ => by simp
  | j :: jobs, 0 => by simp [hf]
  | j :: jobs, id + 1 => by simp [map_finished_modify hf jobs id]

section

variable {Fs Ns : Type} (env : Env Fs Ns) (directory : String) {w w' w₀ : World Fs Ns}
  {bs : List Background}

/-- Replacing the channels or the maps and the phases of one job keeps the finished state. -/
theorem World.finished_with {a : Allocation} {f : Job → Job} (ha : a.drained = w.alloc.drained)
    (hf : ∀ j, (f j).finished = j.finished) (id : ℕ) :
    ({ w with alloc := a, jobs := w.jobs.modify f id } : World Fs Ns).finished = w.finished := by
  simp only [World.finished, ha, map_finished_modify hf]

/-- A goroutine step changes the channels, the maps and the phases, which the finished state
forgets. -/
theorem World.finished_background {b : Background} (h : w.background b = some w') :
    w'.finished = w.finished := by
  cases b with
  | send id =>
    obtain ⟨j, -, -, rfl⟩ := World.background_send h
    exact World.finished_with (Allocation.drained_withChan _ _ _) (fun _ => by rfl) id
  | register id =>
    obtain ⟨j, -, -, rfl⟩ := World.background_register h
    exact World.finished_with (Allocation.drained_withProgressMap _ _ _) (fun _ => by rfl) id
  | dispatch up =>
    obtain ⟨id, rest, -, rfl⟩ := World.background_dispatch h
    exact World.finished_with (Allocation.drained_withChan _ _ _) (fun _ => by rfl) id
  | complete id =>
    obtain ⟨j, -, -, rfl⟩ := World.background_complete h
    exact World.finished_with (Allocation.drained_withProgressMap _ _ _) (fun _ => by rfl) id

/-- A schedule of goroutine steps keeps the finished state. -/
theorem World.finished_schedule (hs : w.schedule bs = some w') : w'.finished = w.finished := by
  induction bs generalizing w with
  | nil => cases hs; rfl
  | cons b bs ih =>
    obtain ⟨w₁, hb, hs⟩ := World.schedule_cons.mp hs
    exact (ih hs).trans (World.finished_background hb)

/-- A state with both channels and both maps empty and every request completed is finished. -/
theorem World.finished_of (hchan : ∀ up, w.alloc.chan up = [])
    (hmap : ∀ up key, w.alloc.progressMap up key = none)
    (hjobs : ∀ j ∈ w.jobs, j.goroutine = .exited ∧ j.task = .completed) : w.finished = w := by
  have hmapped : w.jobs.map Job.finished = w.jobs :=
    (List.map_congr_left fun j hj => Job.finished_of (hjobs j hj).1 (hjobs j hj).2).trans
      (List.map_id _)
  simp only [World.finished, Allocation.drained_of hchan hmap, hmapped]

end

end ZboxSdk
