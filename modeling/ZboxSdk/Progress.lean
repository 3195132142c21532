import ZboxSdk.Api

/-!
# The upload and download goroutines, and the progress maps

An upload or download call returns once it has spawned a goroutine that sends the request on
`uploadChan` or `downloadChan` and then, under the mutex, registers it in `uploadProgressMap`
or `downloadProgressMap`. The dispatcher receives from either channel and starts the
request's task, whose `completedCallback` deletes the request's key when the task ends. A
step of the system is a call, or one step of these goroutines.

In every reachable state a map entry is a request of the map's kind, under its own key,
whose goroutine has exited. But the send comes before the registration: the task can end
before its request is registered, and the entry then stays, and cancels it, for good. In the
runs where the dispatcher receives only registered requests, no entry is ever a completed
request.
-/

namespace ZboxSdk

/-- The channel of uploads (`true`) or of downloads (`false`). -/
def Allocation.chan (a : Allocation) : Bool → List ℕ
  | true => a.uploadChan
  | false => a.downloadChan

/-- Replace the channel of uploads (`true`) or of downloads (`false`). -/
def Allocation.withChan (a : Allocation) : Bool → List ℕ → Allocation
  | true, c => { a with uploadChan := c }
  | false, c => { a with downloadChan := c }

/-- The progress map of uploads (`true`) or of downloads (`false`). -/
def Allocation.progressMap (a : Allocation) : Bool → String → Option ℕ
  | true => a.uploadProgressMap
  | false => a.downloadProgressMap

/-- Replace the progress map of uploads (`true`) or of downloads (`false`). -/
def Allocation.withProgressMap (a : Allocation) : Bool → (String → Option ℕ) → Allocation
  | true, m => { a with uploadProgressMap := m }
  | false, m => { a with downloadProgressMap := m }

namespace Allocation

variable (a : Allocation) (up up' : Bool)

/-- Replacing a channel changes that channel only. -/
@[simp] theorem chan_withChan (c : List ℕ) :
    (a.withChan up c).chan up' = if up' = up then c else a.chan up' := by
  cases up <;> cases up' <;> rfl

/-- Replacing a channel leaves the progress maps alone. -/
@[simp] theorem progressMap_withChan (c : List ℕ) :
    (a.withChan up c).progressMap up' = a.progressMap up' := by
  cases up <;> cases up' <;> rfl

/-- Replacing a progress map leaves the channels alone. -/
@[simp] theorem chan_withProgressMap (m : String → Option ℕ) :
    (a.withProgressMap up m).chan up' = a.chan up' := by
  cases up <;> cases up' <;> rfl

/-- Replacing a progress map changes that map only. -/
@[simp] theorem progressMap_withProgressMap (m : String → Option ℕ) :
    (a.withProgressMap up m).progressMap up' = if up' = up then m else a.progressMap up' := by
  cases up <;> cases up' <;> rfl

/-- `UpdateRepairStatus` leaves the channels alone. -/
@[simp] theorem chan_updateRepairStatus (v : Bool) : (a.updateRepairStatus v).chan up = a.chan up := by
  cases up <;> rfl

/-- `UpdateRepairStatus` leaves the progress maps alone. -/
@[simp] theorem progressMap_updateRepairStatus (v : Bool) :
    (a.updateRepairStatus v).progressMap up = a.progressMap up := by
  cases up <;> rfl

/-- `InitAllocation` empties both channels. -/
@[simp] theorem chan_initAllocation : a.initAllocation.chan up = [] := by
  cases up <;> rfl

/-- `InitAllocation` empties both progress maps. -/
@[simp] theorem progressMap_initAllocation : a.initAllocation.progressMap up = fun _ => none := by
  cases up <;> rfl

/-- Replacing a channel keeps the repair flag. -/
@[simp] theorem withChan_underRepair (c : List ℕ) : (a.withChan up c).underRepair = a.underRepair := by
  cases up <;> rfl

/-- Replacing a channel keeps the initialization flag. -/
@[simp] theorem withChan_initialized (c : List ℕ) :
    (a.withChan up c).initialized = a.initialized := by
  cases up <;> rfl

/-- Replacing a progress map keeps the repair flag. -/
@[simp] theorem withProgressMap_underRepair (m : String → Option ℕ) :
    (a.withProgressMap up m).underRepair = a.underRepair := by
  cases up <;> rfl

/-- Replacing a progress map keeps the initialization flag. -/
@[simp] theorem withProgressMap_initialized (m : String → Option ℕ) :
    (a.withProgressMap up m).initialized = a.initialized := by
  cases up <;> rfl

end Allocation

/-- A step of the goroutines that run besides the calls. -/
inductive Background
  /-- The goroutine of job `id` sends its request on its channel. -/
  | send (id : ℕ)
  /-- The goroutine of job `id`, having sent, takes the mutex and registers its request. -/
  | register (id : ℕ)
  /-- The dispatcher receives from the upload (`true`) or download channel and starts the
  request's task. -/
  | dispatch (upload : Bool)
  /-- The task of job `id` ends, and its `completedCallback` takes the mutex and deletes its
  key. -/
  | complete (id : ℕ)

namespace World

variable {Fs Ns : Type}

/-- `ch <- req`: the request of job `id` joins its channel. -/
def sendRequest (w : World Fs Ns) (id : ℕ) (j : Job) : World Fs Ns :=
  { w with
    alloc := w.alloc.withChan j.req.isUpload (w.alloc.chan j.req.isUpload ++ [id])
    jobs := w.jobs.modify (fun j => { j with goroutine := .registering }) id }

/-- `progressMap[key] = req`: job `id` is registered under its key, and its goroutine exits. -/
def registerRequest (w : World Fs Ns) (id : ℕ) (j : Job) : World Fs Ns :=
  { w with
    alloc := w.alloc.withProgressMap j.req.isUpload
      (Function.update (w.alloc.progressMap j.req.isUpload) j.key (some id))
    jobs := w.jobs.modify (fun j => { j with goroutine := .exited }) id }

/-- `req := <-ch; go req.process…(ctx, a)`: the dispatcher takes job `id` off a channel whose
rest is `rest`, and starts its task. -/
def receiveRequest (w : World Fs Ns) (up : Bool) (id : ℕ) (rest : List ℕ) : World Fs Ns :=
  { w with
    alloc := w.alloc.withChan up rest
    jobs := w.jobs.modify (fun j => { j with task := .running }) id }

/-- `completedCallback`: the task of job `id` ends and its key leaves its progress map. -/
def completeRequest (w : World Fs Ns) (id : ℕ) (j : Job) : World Fs Ns :=
  { w with
    alloc := w.alloc.withProgressMap j.req.isUpload
      (Function.update (w.alloc.progressMap j.req.isUpload) j.req.completedKey none)
    jobs := w.jobs.modify (fun j => { j with task := .completed }) id }

/-- A goroutine step, when it can be taken: a send needs room in the channel, which
`InitAllocation` makes with capacity ten; a receive needs a request in the channel. -/
def background (w : World Fs Ns) : Background → Option (World Fs Ns)
  | .send id =>
    match w.jobs[id]? with
    | some j =>
      if j.goroutine = .sending ∧ (w.alloc.chan j.req.isUpload).length < 10 then
        some (w.sendRequest id j)
      else none
    | none => none
  | .register id =>
    match w.jobs[id]? with
    | some j => if j.goroutine = .registering then some (w.registerRequest id j) else none
    | none => none
  | .dispatch up =>
    match w.alloc.chan up with
    | id :: rest => some (w.receiveRequest up id rest)
    | [] => none
  | .complete id =>
    match w.jobs[id]? with
    | some j => if j.task = .running then some (w.completeRequest id j) else none
    | none => none

variable {w w' : World Fs Ns} {id : ℕ}

section

variable (w : World Fs Ns) (id : ℕ) (j : Job) (up : Bool) (rest : List ℕ)

/-- The send appends the request's id to the channel of its kind. -/
@[simp] theorem sendRequest_alloc : (w.sendRequest id j).alloc =
    w.alloc.withChan j.req.isUpload (w.alloc.chan j.req.isUpload ++ [id]) := rfl
/-- The send moves the goroutine on to its registration. -/
@[simp] theorem sendRequest_jobs : (w.sendRequest id j).jobs =
    w.jobs.modify (fun j => { j with goroutine := .registering }) id := rfl
/-- The registration maps the request's key to its id in the map of its kind. -/
@[simp] theorem registerRequest_alloc : (w.registerRequest id j).alloc =
    w.alloc.withProgressMap j.req.isUpload
      (Function.update (w.alloc.progressMap j.req.isUpload) j.key (some id)) := rfl
/-- The registration ends the goroutine. -/
@[simp] theorem registerRequest_jobs : (w.registerRequest id j).jobs =
    w.jobs.modify (fun j => { j with goroutine := .exited }) id := rfl
/-- The receive takes the head off the channel. -/
@[simp] theorem receiveRequest_alloc : (w.receiveRequest up id rest).alloc =
    w.alloc.withChan up rest := rfl
/-- The receive starts the request's task. -/
@[simp] theorem receiveRequest_jobs : (w.receiveRequest up id rest).jobs =
    w.jobs.modify (fun j => { j with task := .running }) id := rfl
/-- The completion deletes the request's key from the map of its kind, whatever the entry holds. -/
@[simp] theorem completeRequest_alloc : (w.completeRequest id j).alloc =
    w.alloc.withProgressMap j.req.isUpload
      (Function.update (w.alloc.progressMap j.req.isUpload) j.req.completedKey none) := rfl
/-- The completion ends the request's task. -/
@[simp] theorem completeRequest_jobs : (w.completeRequest id j).jobs =
    w.jobs.modify (fun j => { j with task := .completed }) id := rfl
/-- The send keeps the SDK's initialization. -/
@[simp] theorem sendRequest_sdkInitialized : (w.sendRequest id j).sdkInitialized =
    w.sdkInitialized := rfl
/-- The registration keeps the SDK's initialization. -/
@[simp] theorem registerRequest_sdkInitialized : (w.registerRequest id j).sdkInitialized =
    w.sdkInitialized := rfl
/-- The receive keeps the SDK's initialization. -/
@[simp] theorem receiveRequest_sdkInitialized : (w.receiveRequest up id rest).sdkInitialized =
    w.sdkInitialized := rfl
/-- The completion keeps the SDK's initialization. -/
@[simp] theorem completeRequest_sdkInitialized : (w.completeRequest id j).sdkInitialized =
    w.sdkInitialized := rfl

end

/-- A send can be taken only by a goroutine about to send, and is its send. -/
theorem background_send (h : w.background (.send id) = some w') :
    ∃ j, w.jobs[id]? = some j ∧ j.goroutine = .sending ∧ w' = w.sendRequest id j := by
  simp only [background] at h
  split at h
  · split at h
    · cases h
      exact ⟨_, ‹_›, (‹_ ∧ _›).1, rfl⟩
    · cases h
  · cases h

/-- A registration can be taken only by a goroutine about to register, and is its registration. -/
theorem background_register (h : w.background (.register id) = some w') :
    ∃ j, w.jobs[id]? = some j ∧ j.goroutine = .registering ∧ w' = w.registerRequest id j := by
  simp only [background] at h
  split at h
  · split at h
    · cases h
      exact ⟨_, ‹_›, ‹_›, rfl⟩
    · cases h
  · cases h

/-- A receive can be taken only from a non-empty channel, and takes its head. -/
theorem background_dispatch {up : Bool} (h : w.background (.dispatch up) = some w') :
    ∃ id rest, w.alloc.chan up = id :: rest ∧ w' = w.receiveRequest up id rest := by
  simp only [background] at h
  split at h
  · cases h
    exact ⟨_, _, ‹_›, rfl⟩
  · cases h

/-- A completion can be taken only by a running task, and ends it. -/
theorem background_complete (h : w.background (.complete id) = some w') :
    ∃ j, w.jobs[id]? = some j ∧ j.task = .running ∧ w' = w.completeRequest id j := by
  simp only [background] at h
  split at h
  · split at h
    · cases h
      exact ⟨_, ‹_›, ‹_›, rfl⟩
    · cases h
  · cases h

section

variable {j : Job}

/-- A goroutine about to send, with room in its channel's buffer of 10, can send. -/
theorem background_send_of (hj : w.jobs[id]? = some j) (hs : j.goroutine = .sending)
    (hlen : (w.alloc.chan j.req.isUpload).length < 10) :
    w.background (.send id) = some (w.sendRequest id j) := by
  simp [background, hj, hs, hlen]

/-- A goroutine about to register can register. -/
theorem background_register_of (hj : w.jobs[id]? = some j) (hs : j.goroutine = .registering) :
    w.background (.register id) = some (w.registerRequest id j) := by
  simp [background, hj, hs]

/-- The dispatcher can receive from a non-empty channel. -/
theorem background_dispatch_of {up : Bool} {rest : List ℕ} (hc : w.alloc.chan up = id :: rest) :
    w.background (.dispatch up) = some (w.receiveRequest up id rest) := by
  simp [background, hc]

/-- A running task can complete. -/
theorem background_complete_of (hj : w.jobs[id]? = some j) (ht : j.task = .running) :
    w.background (.complete id) = some (w.completeRequest id j) := by
  simp [background, hj, ht]

/-- A request in a channel after a send was there before, or is the one sent. -/
theorem mem_chan_sendRequest {up : Bool} {m : ℕ} (h : m ∈ (w.sendRequest id j).alloc.chan up) :
    m ∈ w.alloc.chan up ∨ (m = id ∧ up = j.req.isUpload) := by
  simp only [sendRequest_alloc, Allocation.chan_withChan] at h
  split at h
  · rename_i hup
    subst hup
    rcases List.mem_append.mp h with h | h
    · exact .inl h
    · exact .inr ⟨List.mem_singleton.mp h, rfl⟩
  · exact .inl h

/-- A request in a channel after a receive was there before. -/
theorem mem_chan_receiveRequest {up up' : Bool} {rest : List ℕ} {m : ℕ}
    (hc : w.alloc.chan up = id :: rest) (h : m ∈ (w.receiveRequest up id rest).alloc.chan up') :
    m ∈ w.alloc.chan up' := by
  simp only [receiveRequest_alloc, Allocation.chan_withChan] at h
  split at h
  · rename_i hup
    subst hup
    rw [hc]
    exact List.mem_cons_of_mem _ h
  · exact h

end

end World

section

variable {Fs Ns : Type} (env : Env Fs Ns) (directory : String)

/-- A step of the system: a call, or a step of the goroutines. -/
inductive Step : World Fs Ns → World Fs Ns → Prop
  | call (op : Op) (w : World Fs Ns) : Step w (op.apply env directory w).2
  | background (b : Background) {w w' : World Fs Ns} : w.background b = some w' → Step w w'

/-- The states a run from `w₀` reaches. -/
inductive Reachable (w₀ : World Fs Ns) : World Fs Ns → Prop
  | init : Reachable w₀ w₀
  | step {w w' : World Fs Ns} : Reachable w₀ w → Step env directory w w' → Reachable w₀ w'

/-- A goroutine step in which the dispatcher receives only requests whose goroutine has
already registered them. -/
def Background.ReceivesRegistered {Fs Ns : Type} (w : World Fs Ns) : Background → Prop
  | .dispatch up =>
    ∀ id ∈ (w.alloc.chan up).head?, ∃ j, w.jobs[id]? = some j ∧ j.goroutine = .exited
  | _ => True

/-- The states reached by the runs in which every request is registered before the
dispatcher receives it. -/
inductive ReachableRegisteredFirst (w₀ : World Fs Ns) : World Fs Ns → Prop
  | init : ReachableRegisteredFirst w₀ w₀
  | call {w : World Fs Ns} (op : Op) :
      ReachableRegisteredFirst w₀ w → ReachableRegisteredFirst w₀ (op.apply env directory w).2
  | background {w w' : World Fs Ns} (b : Background) : ReachableRegisteredFirst w₀ w →
      w.background b = some w' → b.ReceivesRegistered w → ReachableRegisteredFirst w₀ w'

/-- The states reached by the runs that never make the call `op₀`. -/
inductive ReachableWithout (op₀ : Op) (w₀ : World Fs Ns) : World Fs Ns → Prop
  | init : ReachableWithout op₀ w₀ w₀
  | call {w : World Fs Ns} (op : Op) : op ≠ op₀ → ReachableWithout op₀ w₀ w →
      ReachableWithout op₀ w₀ (op.apply env directory w).2
  | background {w w' : World Fs Ns} (b : Background) : ReachableWithout op₀ w₀ w →
      w.background b = some w' → ReachableWithout op₀ w₀ w'

/-- The goroutine steps `bs` one after another, skipping any that cannot be taken. -/
def World.steps {Fs Ns : Type} (w : World Fs Ns) : List Background → World Fs Ns
  | [] => w
  | b :: bs => ((w.background b).getD w).steps bs

/-- Goroutine steps from a reachable state reach a state. -/
theorem Reachable.steps {w₀ w : World Fs Ns} (h : Reachable env directory w₀ w)
    (bs : List Background) : Reachable env directory w₀ (w.steps bs) := by
  induction bs generalizing w with
  | nil => exact h
  | cons b bs ih =>
    cases hb : w.background b with
    | none => simpa [World.steps, hb] using ih h
    | some w' => simpa [World.steps, hb] using ih (.step h (.background b hb))

/-- A goroutine step changes neither the repair flag nor the initialization. -/
theorem World.background_flags {b : Background} {w w' : World Fs Ns}
    (h : w.background b = some w') :
    w'.alloc.underRepair = w.alloc.underRepair ∧ w'.isInitialized = w.isInitialized := by
  cases b with
  | send id =>
    obtain ⟨j, -, -, rfl⟩ := World.background_send h
    simp only [World.isInitialized, World.sendRequest_alloc, World.sendRequest_sdkInitialized,
      Allocation.withChan_underRepair, Allocation.withChan_initialized, and_self]
  | register id =>
    obtain ⟨j, -, -, rfl⟩ := World.background_register h
    simp only [World.isInitialized, World.registerRequest_alloc,
      World.registerRequest_sdkInitialized, Allocation.withProgressMap_underRepair,
      Allocation.withProgressMap_initialized, and_self]
  | dispatch up =>
    obtain ⟨id, rest, -, rfl⟩ := World.background_dispatch h
    simp only [World.isInitialized, World.receiveRequest_alloc,
      World.receiveRequest_sdkInitialized, Allocation.withChan_underRepair,
      Allocation.withChan_initialized, and_self]
  | complete id =>
    obtain ⟨j, -, -, rfl⟩ := World.background_complete h
    simp only [World.isInitialized, World.completeRequest_alloc,
      World.completeRequest_sdkInitialized, Allocation.withProgressMap_underRepair,
      Allocation.withProgressMap_initialized, and_self]

/-- A call other than `UpdateRepairStatus(false)` never clears the repair flag. -/
theorem Op.repairEvent_ne_false {op : Op} (hop : op ≠ .updateRepairStatus false)
    {r : Except SdkError Unit} : op.repairEvent r ≠ some false := by
  intro he
  rcases r with e | ⟨⟨⟩⟩
  · rw [Op.repairEvent_error] at he
    cases he
  · cases op <;> cases he
    exact hop rfl

/-- From a state under repair, along every run that never calls `UpdateRepairStatus(false)`,
the allocation stays under repair and every mutating call returns its guards' error with the
world unchanged: `notInitialized` while the allocation is not initialized, `underRepair` once
it is. No goroutine step, no task's completion and no `InitAllocation` lifts the repair. -/
theorem underRepair_locks_writes {w₀ w : World Fs Ns} (h0 : w₀.alloc.underRepair = true)
    (h : ReachableWithout env directory (.updateRepairStatus false) w₀ w) :
    w.alloc.underRepair = true ∧
      ∀ op : Op, op.isMutating = true → op.apply env directory w =
        (.error (if w.isInitialized then underRepair else notInitialized), w) := by
  have hflag : w.alloc.underRepair = true := by
    induction h with
    | init => exact h0
    | call op hop _ ih =>
      rw [Op.apply_underRepair]
      cases he : op.repairEvent (op.apply env directory _).1 with
      | none => exact ih
      | some v =>
        cases v
        · exact absurd he (Op.repairEvent_ne_false hop)
        · rfl
    | background b _ hb ih => rw [(World.background_flags hb).1, ih]
  exact ⟨hflag, fun op hop => Op.apply_of_underRepair env directory hflag hop⟩

/-- The sample allocation put under repair. -/
def sampleRepairing : World LocalFs RemoteNs :=
  (sampleWorld 1 1 [] sampleNs).updateRepairStatus true

/-- `InitAllocation` on the sample allocation under repair leaves it under repair, and every
mutating call then returns `underRepair`. -/
theorem underRepair_locks_writes_sample :
    (Op.initAllocation.apply (sampleEnv 0) "d" sampleRepairing).2.alloc.underRepair = true ∧
      ∀ op : Op, op.isMutating = true →
        op.apply (sampleEnv 0) "d" (Op.initAllocation.apply (sampleEnv 0) "d" sampleRepairing).2 =
          (.error (if (Op.initAllocation.apply (sampleEnv 0) "d" sampleRepairing).2.isInitialized
              then underRepair else notInitialized),
            (Op.initAllocation.apply (sampleEnv 0) "d" sampleRepairing).2) :=
  underRepair_locks_writes (sampleEnv 0) "d" rfl (.call .initAllocation nofun .init)

/-- These runs are runs of the system. -/
theorem ReachableRegisteredFirst.reachable {w₀ w : World Fs Ns}
    (h : ReachableRegisteredFirst env directory w₀ w) : Reachable env directory w₀ w := by
  induction h with
  | init => exact .init
  | call op _ ih => exact .step ih (.call op _)
  | background b _ hb _ ih => exact .step ih (.background b hb)

/-- A run that avoids a call is a run. -/
theorem ReachableWithout.reachable {op₀ : Op} {w₀ w : World Fs Ns}
    (h : ReachableWithout env directory op₀ w₀ w) : Reachable env directory w₀ w := by
  induction h with
  | init => exact .init
  | call op _ _ ih => exact .step ih (.call op _)
  | background b _ hb ih => exact .step ih (.background b hb)

end

section Invariant

variable {Fs Ns : Type}

/-- An entry of a list with one entry changed is the changed entry or an entry of the list. -/
theorem getElem?_modify_cases {α : Type} {f : α → α} {l : List α} {n m : ℕ} {a' : α}
    (h : (l.modify f n)[m]? = some a') :
    (m = n ∧ ∃ a, l[n]? = some a ∧ a' = f a) ∨ (m ≠ n ∧ l[m]? = some a') := by
  by_cases hm : m = n
  · subst hm
    rw [List.getElem?_modify_eq] at h
    cases hl : l[m]? with
    | none => rw [hl] at h; cases h
    | some a => rw [hl] at h; exact .inl ⟨rfl, a, rfl, (Option.some.inj h).symm⟩
  · rw [List.getElem?_modify_ne _ _ (Ne.symm hm)] at h
    exact .inr ⟨hm, h⟩

/-- Changing an entry of a list changes what is read there. -/
theorem getElem?_modify_of_eq_some {α : Type} {f : α → α} {l : List α} {n : ℕ} {a : α}
    (h : l[n]? = some a) : (l.modify f n)[n]? = some (f a) := by
  rw [List.getElem?_modify_eq, h]
  rfl

/-- An entry of a list with one more entry is an entry of the list or the new one. -/
theorem getElem?_append_singleton_cases {α : Type} {l : List α} {x a : α} {m : ℕ}
    (h : (l ++ [x])[m]? = some a) : l[m]? = some a ∨ a = x := by
  rcases Nat.lt_or_ge m l.length with hm | hm
  · rw [List.getElem?_append_left hm] at h
    exact .inl h
  · rw [List.getElem?_append_right hm] at h
    cases hk : m - l.length with
    | zero => rw [hk] at h; exact .inr (Option.some.inj h).symm
    | succ k => rw [hk] at h; cases h

/-- `a'` is the job `a` in the same phases, its cancel flag aside. -/
def Job.SamePhases (a a' : Job) : Prop :=
  a'.req = a.req ∧ a'.key = a.key ∧ a'.goroutine = a.goroutine ∧ a'.task = a.task

/-- A job is in its own phases. -/
theorem Job.SamePhases.refl (a : Job) : a.SamePhases a := ⟨rfl, rfl, rfl, rfl⟩

/-- The jobs of `w'` are those of `w` in the same phases, and maybe one more that no
goroutine step has touched: it has not sent, and its callback deletes its key. -/
def JobsFollow (w w' : World Fs Ns) : Prop :=
  (∀ (m : ℕ) (a' : Job), w'.jobs[m]? = some a' →
    (∃ a, w.jobs[m]? = some a ∧ a.SamePhases a') ∨
    (a'.req.completedKey = a'.key ∧ a'.goroutine = .sending ∧ a'.task = .idle)) ∧
  ∀ (m : ℕ) (a : Job), w.jobs[m]? = some a → ∃ a', w'.jobs[m]? = some a' ∧ a.SamePhases a'

section

variable (env : Env Fs Ns) (directory : String)

/-- A call keeps the jobs in their phases, and adds at most one fresh one. -/
theorem Op.apply_jobsFollow (op : Op) (w : World Fs Ns) :
    JobsFollow w (op.apply env directory w).2 := by
  rcases Op.apply_jobs env directory op w with h | ⟨a, h⟩ | ⟨id, h⟩ <;> rw [JobsFollow, h]
  · exact ⟨fun m a' h' => .inl ⟨a', h', .refl a'⟩, fun m a h' => ⟨a, h', .refl a⟩⟩
  · refine ⟨fun m a' h' => ?_, fun m a' h' => ⟨a', ?_, .refl a'⟩⟩
    · rcases getElem?_append_singleton_cases h' with h' | rfl
      · exact .inl ⟨a', h', .refl a'⟩
      · exact .inr ⟨rfl, rfl, rfl⟩
    · rw [List.getElem?_append_left (List.getElem?_eq_some_iff.mp h').1, h']
  · refine ⟨fun m a' h' => ?_, fun m a h' => ?_⟩
    · rcases getElem?_modify_cases h' with ⟨rfl, a, ha, rfl⟩ | ⟨-, h'⟩
      · exact .inl ⟨a, ha, rfl, rfl, rfl, rfl⟩
      · exact .inl ⟨a', h', .refl a'⟩
    · by_cases hm : m = id
      · subst hm
        exact ⟨_, getElem?_modify_of_eq_some h', rfl, rfl, rfl, rfl⟩
      · exact ⟨a, by rw [World.cancelJob, List.getElem?_modify_ne _ _ (Ne.symm hm), h'], .refl a⟩

/-- A call leaves the channels and the progress maps as they were, or, for
`InitAllocation`, empties them. -/
theorem Op.apply_chan_progressMap (op : Op) (w : World Fs Ns) :
    (∀ up, (op.apply env directory w).2.alloc.chan up = w.alloc.chan up ∧
      (op.apply env directory w).2.alloc.progressMap up = w.alloc.progressMap up) ∨
    (∀ up, (op.apply env directory w).2.alloc.chan up = [] ∧
      (op.apply env directory w).2.alloc.progressMap up = fun _ => none) := by
  rcases Op.apply_alloc env directory op w with ⟨h, -⟩ | ⟨v, -, h⟩ | ⟨-, h⟩ <;> rw [h]
  · exact .inl fun up => ⟨rfl, rfl⟩
  · exact .inl fun up => ⟨by simp, by simp⟩
  · exact .inr fun up => ⟨by simp, by simp⟩

end

/-- What holds of the jobs, the channels and the progress maps in every reachable state. -/
structure Inv (w : World Fs Ns) : Prop where
  /-- A job's callback deletes the key its goroutine registers it under. -/
  keyed : ∀ (id : ℕ) (j : Job), w.jobs[id]? = some j → j.req.completedKey = j.key
  /-- A job whose goroutine has not sent yet has not been started. -/
  idle : ∀ (id : ℕ) (j : Job), w.jobs[id]? = some j → j.goroutine = .sending → j.task = .idle
  /-- A channel holds jobs whose goroutines have sent. -/
  chan : ∀ (up : Bool) (id : ℕ), id ∈ w.alloc.chan up →
    ∃ j : Job, w.jobs[id]? = some j ∧ j.goroutine ≠ .sending
  /-- A map entry is a job of the map's kind, under its own key, whose goroutine has
  exited. -/
  registered : ∀ (up : Bool) (key : String) (id : ℕ), w.alloc.progressMap up key = some id →
    ∃ j : Job, w.jobs[id]? = some j ∧ j.req.isUpload = up ∧ j.key = key ∧ j.goroutine = .exited

variable {w w' : World Fs Ns} {id : ℕ} {j : Job}

/-- A step that keeps the jobs' phases, adds at most a fresh job, and adds nothing to the channels
or the maps keeps the invariant. -/
theorem Inv.of_jobsFollow (hinv : Inv w) (hjobs : JobsFollow w w')
    (hchan : ∀ (up : Bool) (id : ℕ), id ∈ w'.alloc.chan up → id ∈ w.alloc.chan up)
    (hmap : ∀ (up : Bool) (key : String) (id : ℕ), w'.alloc.progressMap up key = some id →
      w.alloc.progressMap up key = some id) : Inv w' where
  keyed m a' h := by
    rcases hjobs.1 m a' h with ⟨a, ha, hreq, hkey, -⟩ | ⟨hk, -⟩
    · rw [hreq, hkey]
      exact hinv.keyed m a ha
    · exact hk
  idle m a' h hs := by
    rcases hjobs.1 m a' h with ⟨a, ha, -, -, hg, ht⟩ | ⟨-, -, ht⟩
    · rw [ht]
      exact hinv.idle m a ha (hg ▸ hs)
    · exact ht
  chan up m hm := by
    obtain ⟨a, ha, hs⟩ := hinv.chan up m (hchan up m hm)
    obtain ⟨a', ha', -, -, hg, -⟩ := hjobs.2 m a ha
    exact ⟨a', ha', hg ▸ hs⟩
  registered up key m hm := by
    obtain ⟨a, ha, hup, hkey, hg⟩ := hinv.registered up key m (hmap up key m hm)
    obtain ⟨a', ha', hreq, hkey', hg', -⟩ := hjobs.2 m a ha
    exact ⟨a', ha', hreq ▸ hup, hkey' ▸ hkey, hg' ▸ hg⟩

/-- Every call keeps the invariant: calls only append fresh jobs and at most empty the channels and
the maps. -/
theorem Inv.call (env : Env Fs Ns) (directory : String) (op : Op) (hinv : Inv w) :
    Inv (op.apply env directory w).2 := by
  refine hinv.of_jobsFollow (Op.apply_jobsFollow env directory op w) ?_ ?_ <;>
  rcases Op.apply_chan_progressMap env directory op w with h | h
  · intro up m hm
    rwa [(h up).1] at hm
  · intro up m hm
    simp [(h up).1] at hm
  · intro up key m hm
    rwa [(h up).2] at hm
  · intro up key m hm
    simp [(h up).2] at hm

/-- Changing the phases of job `id` keeps every other job. -/
theorem getElem?_modify_of_ne {f : Job → Job} {m : ℕ} (hm : m ≠ id) :
    (w.jobs.modify f id)[m]? = w.jobs[m]? :=
  List.getElem?_modify_ne _ _ (Ne.symm hm)

/-- No entry of a progress map is a job whose goroutine has not exited. -/
theorem Inv.entry_ne (hinv : Inv w) (hj : w.jobs[id]? = some j) (hg : j.goroutine ≠ .exited)
    {up : Bool} {key : String} {m : ℕ} (hm : w.alloc.progressMap up key = some m) : m ≠ id := by
  rintro rfl
  obtain ⟨a, ha, -, -, hexit⟩ := hinv.registered up key m hm
  rw [hj] at ha
  cases ha
  exact hg hexit

/-- An entry after `progressMap[k] = v` is `v` under `k`, or was there before under another
key or in the other map. -/
theorem progressMap_of_update {a : Allocation} {b up : Bool} {k key : String} {v : Option ℕ}
    {m : ℕ} (h : (a.withProgressMap b (Function.update (a.progressMap b) k v)).progressMap up key =
      some m) :
    (up = b ∧ key = k ∧ v = some m) ∨ (a.progressMap up key = some m ∧ ¬(up = b ∧ key = k)) := by
  simp only [Allocation.progressMap_withProgressMap] at h
  split at h
  · subst_vars
    by_cases hkey : key = k
    · subst hkey
      rw [Function.update_same] at h
      exact .inl ⟨rfl, rfl, h⟩
    · rw [Function.update_noteq hkey] at h
      exact .inr ⟨h, fun h' => hkey h'.2⟩
  · exact .inr ⟨h, fun h' => ‹¬_› h'.1⟩

/-- A goroutine's send keeps the invariant. -/
theorem Inv.sendRequest (hinv : Inv w) (hj : w.jobs[id]? = some j) (hs : j.goroutine = .sending) :
    Inv (w.sendRequest id j) where
  keyed m a h := by
    rcases getElem?_modify_cases h with ⟨rfl, a₀, ha, rfl⟩ | ⟨-, h⟩
    · exact hinv.keyed _ a₀ ha
    · exact hinv.keyed m a h
  idle m a h hsa := by
    rcases getElem?_modify_cases h with ⟨rfl, a₀, ha, rfl⟩ | ⟨-, h⟩
    · cases hsa
    · exact hinv.idle m a h hsa
  chan up m hm := by
    by_cases hm' : m = id
    · subst hm'
      exact ⟨_, getElem?_modify_of_eq_some hj, nofun⟩
    · obtain ⟨a, ha, hne⟩ :=
        hinv.chan up m ((World.mem_chan_sendRequest hm).resolve_right fun h => hm' h.1)
      exact ⟨a, by rw [World.sendRequest_jobs, getElem?_modify_of_ne hm', ha], hne⟩
  registered up key m hm := by
    simp only [World.sendRequest_alloc, Allocation.progressMap_withChan] at hm
    obtain ⟨a, ha, hup, hkey, hg⟩ := hinv.registered up key m hm
    have hm' : m ≠ id := hinv.entry_ne hj (by rw [hs]; nofun) hm
    exact ⟨a, by rw [World.sendRequest_jobs, getElem?_modify_of_ne hm', ha], hup, hkey, hg⟩

/-- A goroutine's registration keeps the invariant. -/
theorem Inv.registerRequest (hinv : Inv w) (hj : w.jobs[id]? = some j)
    (hs : j.goroutine = .registering) : Inv (w.registerRequest id j) where
  keyed m a h := by
    rcases getElem?_modify_cases h with ⟨rfl, a₀, ha, rfl⟩ | ⟨-, h⟩
    · exact hinv.keyed _ a₀ ha
    · exact hinv.keyed m a h
  idle m a h hsa := by
    rcases getElem?_modify_cases h with ⟨rfl, a₀, ha, rfl⟩ | ⟨-, h⟩
    · cases hsa
    · exact hinv.idle m a h hsa
  chan up m hm := by
    simp only [World.registerRequest_alloc, Allocation.chan_withProgressMap] at hm
    obtain ⟨a, ha, hne⟩ := hinv.chan up m hm
    by_cases hm' : m = id
    · subst hm'
      exact ⟨_, getElem?_modify_of_eq_some hj, nofun⟩
    · exact ⟨a, by rw [World.registerRequest_jobs, getElem?_modify_of_ne hm', ha], hne⟩
  registered up key m hm := by
    rcases progressMap_of_update hm with ⟨rfl, rfl, hv⟩ | ⟨hold, -⟩
    · cases hv
      exact ⟨_, getElem?_modify_of_eq_some hj, rfl, rfl, rfl⟩
    · obtain ⟨a, ha, hup, hkey, hg⟩ := hinv.registered up key m hold
      have hm' : m ≠ id := hinv.entry_ne hj (by rw [hs]; nofun) hold
      exact ⟨a, by rw [World.registerRequest_jobs, getElem?_modify_of_ne hm', ha], hup, hkey, hg⟩

/-- A step that only moves a task keeps every job's request, key and goroutine. -/
theorem getElem?_modify_task {jobs : List Job} (n : ℕ) (t : TaskPhase) {m : ℕ} {a : Job}
    (h : jobs[m]? = some a) :
    ∃ a', (jobs.modify (fun j => { j with task := t }) n)[m]? = some a' ∧
      a'.req = a.req ∧ a'.key = a.key ∧ a'.goroutine = a.goroutine := by
  by_cases hm : m = n
  · subst hm
    exact ⟨_, getElem?_modify_of_eq_some h, rfl, rfl, rfl⟩
  · exact ⟨a, by rw [List.getElem?_modify_ne _ _ (Ne.symm hm), h], rfl, rfl, rfl⟩

/-- The dispatcher's receive keeps the invariant. -/
theorem Inv.receiveRequest {up : Bool} {rest : List ℕ} (hinv : Inv w)
    (hc : w.alloc.chan up = id :: rest) : Inv (w.receiveRequest up id rest) where
  keyed m a h := by
    rcases getElem?_modify_cases h with ⟨rfl, a₀, ha, rfl⟩ | ⟨-, h⟩
    · exact hinv.keyed _ a₀ ha
    · exact hinv.keyed m a h
  idle m a h hsa := by
    rcases getElem?_modify_cases h with ⟨rfl, a₀, ha, rfl⟩ | ⟨-, h⟩
    · obtain ⟨a, ha', hne⟩ := hinv.chan up m (by rw [hc]; exact List.mem_cons_self _ _)
      rw [ha] at ha'
      cases ha'
      exact absurd hsa hne
    · exact hinv.idle m a h hsa
  chan up' m hm := by
    obtain ⟨a, ha, hne⟩ := hinv.chan up' m (World.mem_chan_receiveRequest hc hm)
    obtain ⟨a', ha', -, -, hg⟩ := getElem?_modify_task id .running ha
    exact ⟨a', ha', hg ▸ hne⟩
  registered up' key m hm := by
    simp only [World.receiveRequest_alloc, Allocation.progressMap_withChan] at hm
    obtain ⟨a, ha, hup, hkey, hg⟩ := hinv.registered up' key m hm
    obtain ⟨a', ha', hreq, hkey', hg'⟩ := getElem?_modify_task id .running ha
    exact ⟨a', ha', hreq ▸ hup, hkey' ▸ hkey, hg' ▸ hg⟩

/-- An entry left after a deletion was there before, under another key or in the other
map. -/
theorem progressMap_of_delete {a : Allocation} {b up : Bool} {k key : String} {m : ℕ}
    (h : (a.withProgressMap b (Function.update (a.progressMap b) k none)).progressMap up key =
      some m) : a.progressMap up key = some m ∧ ¬(up = b ∧ key = k) :=
  (progressMap_of_update h).resolve_left fun ⟨_, _, hv⟩ => nomatch hv

/-- A task's completion keeps the invariant. -/
theorem Inv.completeRequest (hinv : Inv w) (hj : w.jobs[id]? = some j) (ht : j.task = .running) :
    Inv (w.completeRequest id j) where
  keyed m a h := by
    rcases getElem?_modify_cases h with ⟨rfl, a₀, ha, rfl⟩ | ⟨-, h⟩
    · exact hinv.keyed _ a₀ ha
    · exact hinv.keyed m a h
  idle m a h hsa := by
    rcases getElem?_modify_cases h with ⟨rfl, a₀, ha, rfl⟩ | ⟨-, h⟩
    · rw [hj] at ha
      cases ha
      rw [hinv.idle m _ hj hsa] at ht
      cases ht
    · exact hinv.idle m a h hsa
  chan up m hm := by
    simp only [World.completeRequest_alloc, Allocation.chan_withProgressMap] at hm
    obtain ⟨a, ha, hne⟩ := hinv.chan up m hm
    obtain ⟨a', ha', -, -, hg⟩ := getElem?_modify_task id .completed ha
    exact ⟨a', ha', hg ▸ hne⟩
  registered up key m hm := by
    obtain ⟨a, ha, hup, hkey, hg⟩ := hinv.registered up key m (progressMap_of_delete hm).1
    obtain ⟨a', ha', hreq, hkey', hg'⟩ := getElem?_modify_task id .completed ha
    exact ⟨a', ha', hreq ▸ hup, hkey' ▸ hkey, hg' ▸ hg⟩

/-- Every goroutine step keeps the invariant. -/
theorem Inv.background {b : Background} (hinv : Inv w) (h : w.background b = some w') : Inv w' := by
  cases b with
  | send id =>
    obtain ⟨j, hj, hs, rfl⟩ := World.background_send h
    exact hinv.sendRequest hj hs
  | register id =>
    obtain ⟨j, hj, hs, rfl⟩ := World.background_register h
    exact hinv.registerRequest hj hs
  | dispatch up =>
    obtain ⟨id, rest, hc, rfl⟩ := World.background_dispatch h
    exact hinv.receiveRequest hc
  | complete id =>
    obtain ⟨j, hj, ht, rfl⟩ := World.background_complete h
    exact hinv.completeRequest hj ht

/-- An allocation with no jobs, empty channels and empty progress maps. -/
structure World.Fresh (w : World Fs Ns) : Prop where
  jobs : w.jobs = []
  chan : ∀ up, w.alloc.chan up = []
  progressMap : ∀ up key, w.alloc.progressMap up key = none

/-- A fresh allocation meets the invariant. -/
theorem Inv.of_fresh (h : w.Fresh) : Inv w where
  keyed m a ha := by simp [h.jobs] at ha
  idle m a ha := by simp [h.jobs] at ha
  chan up m hm := by simp [h.chan] at hm
  registered up key m hm := by simp [h.progressMap] at hm

section

variable (env : Env Fs Ns) (directory : String) {w₀ : World Fs Ns}

/-- The invariant holds of every state a run reaches from a state that meets it. -/
theorem Inv.reachable (h0 : Inv w₀) (h : Reachable env directory w₀ w) : Inv w := by
  induction h with
  | init => exact h0
  | step _ hs ih =>
    cases hs with
    | call op => exact ih.call env directory op
    | background b hb => exact ih.background hb

/-- From a fresh allocation, in every reachable state, an entry of a progress map is a
request of the map's kind, registered under its own key by a goroutine that has exited, and
the request's callback deletes that key. -/
theorem reachable_progressMap_entry (hfresh : w₀.Fresh) (h : Reachable env directory w₀ w) :
    ∀ up key id, w.alloc.progressMap up key = some id →
      ∃ j, w.jobs[id]? = some j ∧ j.req.isUpload = up ∧ j.key = key ∧
        j.req.completedKey = key ∧ j.goroutine = .exited := by
  have hinv := (Inv.of_fresh hfresh).reachable env directory h
  intro up key id hentry
  obtain ⟨j, hj, hup, hkey, hg⟩ := hinv.registered up key id hentry
  exact ⟨j, hj, hup, hkey, (hinv.keyed id j hj).trans hkey, hg⟩

end

end Invariant

/-- `CancelUpload(key)` or `CancelDownload(key)`, by the request's kind. -/
def Op.cancel : Bool → String → Op
  | true, key => .cancelUpload key
  | false, key => .cancelDownload key

section Race

variable {Fs Ns : Type} (env : Env Fs Ns) (directory : String) {w₀ w : World Fs Ns} {id : ℕ}
  {j : Job}

/-- A cancel finds whatever is registered under its key, and sets that job's cancel flag. -/
theorem Op.cancel_of_registered {up : Bool} {key : String}
    (h : w.alloc.progressMap up key = some id) :
    (Op.cancel up key).apply env directory w = (.ok (), w.cancelJob id) := by
  cases up with
  | true =>
    have h' : w.alloc.uploadProgressMap key = some id := h
    simp only [Op.cancel, Op.apply, ZboxSdk.cancelUpload, cancelRegistered, h']
  | false =>
    have h' : w.alloc.downloadProgressMap key = some id := h
    simp only [Op.cancel, Op.apply, ZboxSdk.cancelDownload, cancelRegistered, h']

/-- A cancel under a key with no entry fails, with no effect. -/
theorem Op.cancel_of_unregistered {up : Bool} {key : String}
    (h : w.alloc.progressMap up key = none) :
    ∃ e, (Op.cancel up key).apply env directory w = (.error e, w) := by
  cases up with
  | true =>
    have h' : w.alloc.uploadProgressMap key = none := h
    exact ⟨_, by simp only [Op.cancel, Op.apply, ZboxSdk.cancelUpload, cancelRegistered, h']; rfl⟩
  | false =>
    have h' : w.alloc.downloadProgressMap key = none := h
    exact ⟨_, by simp only [Op.cancel, Op.apply, ZboxSdk.cancelDownload, cancelRegistered, h']; rfl⟩

/-- The race. Take any reachable state with a spawned request whose goroutine has not sent
it yet and whose channel is empty. The goroutine sends; the dispatcher receives the request
and starts its task; the task ends and its callback deletes the request's key; only then
does the goroutine register the request. The progress map is left with an entry for a
completed request, and cancelling under its key succeeds. -/
theorem completed_request_stays_registered (h : Reachable env directory w₀ w)
    (hj : w.jobs[id]? = some j) (hs : j.goroutine = .sending)
    (hc : w.alloc.chan j.req.isUpload = []) :
    ∃ w', Reachable env directory w₀ w' ∧ w'.alloc.progressMap j.req.isUpload j.key = some id ∧
      (w'.jobs[id]?).map Job.task = some .completed ∧
      ((Op.cancel j.req.isUpload j.key).apply env directory w').1 = .ok () := by
  let j₂ : Job := { j with goroutine := .registering, task := .running }
  let j₃ : Job := { j₂ with task := .completed }
  let w₁ := w.sendRequest id j
  let w₂ := w₁.receiveRequest j.req.isUpload id []
  let w₃ := w₂.completeRequest id j₂
  let w₄ := w₃.registerRequest id j₃
  have hj₂ : w₂.jobs[id]? = some j₂ := getElem?_modify_of_eq_some (getElem?_modify_of_eq_some hj)
  have hj₃ : w₃.jobs[id]? = some j₃ := getElem?_modify_of_eq_some hj₂
  have h₁ : w.background (.send id) = some w₁ := World.background_send_of hj hs (by simp [hc])
  have h₂ : w₁.background (.dispatch j.req.isUpload) = some w₂ :=
    World.background_dispatch_of (by simp [w₁, hc])
  have h₃ : w₂.background (.complete id) = some w₃ := World.background_complete_of hj₂ rfl
  have h₄ : w₃.background (.register id) = some w₄ := World.background_register_of hj₃ rfl
  have hmap : w₄.alloc.progressMap j.req.isUpload j.key = some id := by simp [w₄, j₃, j₂]
  refine ⟨w₄, .step (.step (.step (.step h (.background _ h₁)) (.background _ h₂))
    (.background _ h₃)) (.background _ h₄), hmap, ?_, ?_⟩
  · rw [World.registerRequest_jobs, getElem?_modify_of_eq_some hj₃]
    rfl
  · rw [Op.cancel_of_registered env directory hmap]

end Race

/-- On the sample allocation, `UploadFile("f", "/f")` followed by the send, the receive, the
task's completion and only then the registration leaves `f` registered for a completed
upload, and `CancelUpload("f")` succeeds. -/
theorem completed_request_stays_registered_sample :
    ∃ w', Reachable (sampleEnv 0) "d" (sampleWorld 2 2 [("f", ⟨false, 8⟩)] sampleNs) w' ∧
      w'.alloc.uploadProgressMap "f" = some 0 ∧ (w'.jobs[0]?).map Job.task = some .completed ∧
      (cancelUpload w' "f").1 = .ok () := by
  obtain ⟨w', hr, hm, ht, hcancel⟩ := @completed_request_stays_registered _ _ (sampleEnv 0) "d"
    (sampleWorld 2 2 [("f", ⟨false, 8⟩)] sampleNs)
    ((Op.uploadFile "f" "/f").apply (sampleEnv 0) "d"
      (sampleWorld 2 2 [("f", ⟨false, 8⟩)] sampleNs)).2
    0 _ (.step .init (.call _ _)) rfl rfl rfl
  exact ⟨w', hr, hm, ht, hcancel⟩

section RegisteredFirst

variable {Fs Ns : Type} {w w' w₀ : World Fs Ns} {id : ℕ} {j : Job}

/-- What holds besides `Inv` in the runs where the dispatcher receives only registered
requests. -/
structure OrderedInv (w : World Fs Ns) extends Inv w : Prop where
  /-- A job whose goroutine has not exited has not been started. -/
  waiting : ∀ (id : ℕ) (j : Job), w.jobs[id]? = some j → j.goroutine ≠ .exited → j.task = .idle
  /-- No entry of a progress map is a completed request. -/
  fresh : ∀ (up : Bool) (key : String) (id : ℕ) (j : Job), w.alloc.progressMap up key = some id →
    w.jobs[id]? = some j → j.task ≠ .completed

/-- The task of every job but `id` is as it was. -/
theorem task_of_modify {f : Job → Job} {m : ℕ} {a' : Job} (h : (w.jobs.modify f id)[m]? = some a')
    (hf : ∀ a, (f a).task = a.task) : ∃ a, w.jobs[m]? = some a ∧ a'.task = a.task := by
  rcases getElem?_modify_cases h with ⟨rfl, a, ha, rfl⟩ | ⟨-, h⟩
  · exact ⟨a, ha, hf a⟩
  · exact ⟨a', h, rfl⟩

/-- Every call keeps the registered-first invariant. -/
theorem OrderedInv.call (env : Env Fs Ns) (directory : String) (op : Op) (hinv : OrderedInv w) :
    OrderedInv (op.apply env directory w).2 where
  toInv := hinv.toInv.call env directory op
  waiting m a' h hg := by
    rcases (Op.apply_jobsFollow env directory op w).1 m a' h with
      ⟨a, ha, -, -, hg', ht⟩ | ⟨-, -, ht⟩
    · rw [ht]
      exact hinv.waiting m a ha (hg' ▸ hg)
    · exact ht
  fresh up key m a' hm h := by
    have hold : w.alloc.progressMap up key = some m := by
      rcases Op.apply_chan_progressMap env directory op w with hc | hc
      · rwa [(hc up).2] at hm
      · simp [(hc up).2] at hm
    obtain ⟨a, ha, -⟩ := hinv.registered up key m hold
    obtain ⟨a'', ha'', -, -, -, ht⟩ := (Op.apply_jobsFollow env directory op w).2 m a ha
    rw [h] at ha''
    cases ha''
    rw [ht]
    exact hinv.fresh up key m a hold ha

/-- A goroutine's send keeps the registered-first invariant. -/
theorem OrderedInv.sendRequest (hinv : OrderedInv w) (hj : w.jobs[id]? = some j)
    (hs : j.goroutine = .sending) : OrderedInv (w.sendRequest id j) where
  toInv := hinv.toInv.sendRequest hj hs
  waiting m a h hg := by
    rcases getElem?_modify_cases h with ⟨rfl, a, ha, rfl⟩ | ⟨-, h⟩
    · exact hinv.waiting _ a ha (by rw [ha] at hj; cases hj; rw [hs]; nofun)
    · exact hinv.waiting m a h hg
  fresh up key m a hm h := by
    obtain ⟨a₀, ha₀, ht⟩ := task_of_modify h fun _ => rfl
    rw [ht]
    exact hinv.fresh up key m a₀ (by simpa only [World.sendRequest_alloc,
      Allocation.progressMap_withChan] using hm) ha₀

/-- A goroutine's registration keeps the registered-first invariant. -/
theorem OrderedInv.registerRequest (hinv : OrderedInv w) (hj : w.jobs[id]? = some j)
    (hs : j.goroutine = .registering) : OrderedInv (w.registerRequest id j) where
  toInv := hinv.toInv.registerRequest hj hs
  waiting m a h hg := by
    rcases getElem?_modify_cases h with ⟨rfl, a, ha, rfl⟩ | ⟨-, h⟩
    · exact absurd rfl hg
    · exact hinv.waiting m a h hg
  fresh up key m a hm h := by
    obtain ⟨a₀, ha₀, ht⟩ := task_of_modify h fun _ => rfl
    rw [ht]
    rcases progressMap_of_update hm with ⟨-, -, hv⟩ | ⟨hold, -⟩
    · cases hv
      rw [hj] at ha₀
      cases ha₀
      rw [hinv.waiting _ j hj (by rw [hs]; nofun)]
      nofun
    · exact hinv.fresh up key m a₀ hold ha₀

/-- The dispatcher's receive of a registered request keeps the registered-first invariant. -/
theorem OrderedInv.receiveRequest {up : Bool} {rest : List ℕ} (hinv : OrderedInv w)
    (hc : w.alloc.chan up = id :: rest) (hj : w.jobs[id]? = some j)
    (hexit : j.goroutine = .exited) : OrderedInv (w.receiveRequest up id rest) where
  toInv := hinv.toInv.receiveRequest hc
  waiting m a h hg := by
    rcases getElem?_modify_cases h with ⟨rfl, a, ha, rfl⟩ | ⟨-, h⟩
    · rw [hj] at ha
      cases ha
      exact absurd hexit hg
    · exact hinv.waiting m a h hg
  fresh up' key m a hm h := by
    rcases getElem?_modify_cases h with ⟨rfl, a, ha, rfl⟩ | ⟨-, h⟩
    · nofun
    · exact hinv.fresh up' key m a (by simpa only [World.receiveRequest_alloc,
        Allocation.progressMap_withChan] using hm) h

/-- A task's completion keeps the registered-first invariant. -/
theorem OrderedInv.completeRequest (hinv : OrderedInv w) (hj : w.jobs[id]? = some j)
    (ht : j.task = .running) : OrderedInv (w.completeRequest id j) where
  toInv := hinv.toInv.completeRequest hj ht
  waiting m a h hg := by
    rcases getElem?_modify_cases h with ⟨rfl, a, ha, rfl⟩ | ⟨-, h⟩
    · rw [hj] at ha
      cases ha
      rw [hinv.waiting _ j hj hg] at ht
      cases ht
    · exact hinv.waiting m a h hg
  fresh up key m a hm h := by
    obtain ⟨hold, hne⟩ := progressMap_of_delete hm
    rcases getElem?_modify_cases h with ⟨rfl, a, ha, rfl⟩ | ⟨-, h⟩
    · obtain ⟨a₀, ha₀, hup, hkey, -⟩ := hinv.registered up key _ hold
      rw [hj] at ha₀
      cases ha₀
      exact absurd ⟨hup.symm, hkey.symm.trans (hinv.keyed _ j hj).symm⟩ hne
    · exact hinv.fresh up key m a hold h

/-- Every goroutine step of a registered-first run keeps the registered-first invariant. -/
theorem OrderedInv.background {b : Background} (hinv : OrderedInv w)
    (h : w.background b = some w') (hb : b.ReceivesRegistered w) : OrderedInv w' := by
  cases b with
  | send id =>
    obtain ⟨j, hj, hs, rfl⟩ := World.background_send h
    exact hinv.sendRequest hj hs
  | register id =>
    obtain ⟨j, hj, hs, rfl⟩ := World.background_register h
    exact hinv.registerRequest hj hs
  | dispatch up =>
    obtain ⟨id, rest, hc, rfl⟩ := World.background_dispatch h
    obtain ⟨j, hj, hexit⟩ := hb id (by rw [hc]; rfl)
    exact hinv.receiveRequest hc hj hexit
  | complete id =>
    obtain ⟨j, hj, ht, rfl⟩ := World.background_complete h
    exact hinv.completeRequest hj ht

/-- A fresh allocation meets the registered-first invariant. -/
theorem OrderedInv.of_fresh (h : w.Fresh) : OrderedInv w where
  toInv := Inv.of_fresh h
  waiting m a ha := by simp [h.jobs] at ha
  fresh up key m a hm := by simp [h.progressMap] at hm

/-- The registered-first invariant holds along every registered-first run from a state that meets
it. -/
theorem OrderedInv.reachable (env : Env Fs Ns) (directory : String) (h0 : OrderedInv w₀)
    (h : ReachableRegisteredFirst env directory w₀ w) : OrderedInv w := by
  induction h with
  | init => exact h0
  | call op _ ih => exact ih.call env directory op
  | background b _ hb hrec ih => exact ih.background hb hrec

/-- In the runs from a fresh allocation where the dispatcher receives only requests already
registered, no entry of a progress map is ever a completed request. -/
theorem registeredFirst_no_completed_entry (env : Env Fs Ns) (directory : String)
    (hfresh : w₀.Fresh) (h : ReachableRegisteredFirst env directory w₀ w) :
    ∀ up key id j, w.alloc.progressMap up key = some id → w.jobs[id]? = some j →
      j.task ≠ .completed :=
  ((OrderedInv.of_fresh hfresh).reachable env directory h).fresh

end RegisteredFirst

/-- The sample allocation is fresh. -/
theorem sampleWorld_fresh (d p : ℕ) (fs : LocalFs) (ns : RemoteNs) : (sampleWorld d p fs ns).Fresh :=
  ⟨rfl, fun up => by cases up <;> rfl, fun up _ => by cases up <;> rfl⟩

/-- After `UploadFile("f", "/f")` on the sample allocation, its goroutine's send and then its
registration, the entry under `f` is the upload's request, of its own key, with an exited
goroutine. -/
theorem reachable_progressMap_entry_sample :
    ∃ j, (((Op.uploadFile "f" "/f").apply (sampleEnv 0) "d"
        (sampleWorld 2 2 [("f", ⟨false, 8⟩)] sampleNs)).2.steps [.send 0, .register 0]).jobs[0]? =
        some j ∧ j.req.isUpload = true ∧ j.key = "f" ∧ j.req.completedKey = "f" ∧
      j.goroutine = .exited :=
  reachable_progressMap_entry (sampleEnv 0) "d" (sampleWorld_fresh 2 2 _ sampleNs)
    ((Reachable.step .init (.call _ _)).steps _ _ _) true "f" 0 rfl

/-- The sample allocation with local files `f` and `g` after `UploadFile("f", "/a")` and
`UploadFile("g", "/b")`, the first upload's send, registration, receive and completion, and the
second upload's send and registration. -/
def sampleTwoUploads : World LocalFs RemoteNs :=
  ((Op.uploadFile "g" "/b").apply (sampleEnv 0) "d"
    ((Op.uploadFile "f" "/a").apply (sampleEnv 0) "d"
      (sampleWorld 2 2 [("f", ⟨false, 8⟩), ("g", ⟨false, 4⟩)] sampleNs)).2).2.steps
    [.send 0, .register 0, .dispatch true, .complete 0, .send 1, .register 1]

/-- There the first upload has completed and left no entry, and the entry under `g` is the
second upload, whose task has not completed. -/
theorem registeredFirst_no_completed_entry_sample :
    sampleTwoUploads.alloc.uploadProgressMap "f" = none ∧
      ∃ j, sampleTwoUploads.jobs[1]? = some j ∧ j.task ≠ .completed :=
  ⟨rfl, _, rfl, registeredFirst_no_completed_entry (sampleEnv 0) "d"
    (sampleWorld_fresh 2 2 [("f", ⟨false, 8⟩), ("g", ⟨false, 4⟩)] sampleNs)
    (.background (.register 1) (.background (.send 1) (.background (.complete 0)
      (.background (.dispatch true) (.background (.register 0) (.background (.send 0)
        (.call (Op.uploadFile "g" "/b") (.call (Op.uploadFile "f" "/a") .init))
        rfl trivial) rfl trivial)
        rfl fun _ hid => by obtain rfl := Option.some.inj hid; exact ⟨_, rfl, rfl⟩)
      rfl trivial) rfl trivial) rfl trivial)
    true "g" 1 _ rfl rfl⟩

end ZboxSdk
