import ZboxSdk.Registry

/-!
# Interleavings of the goroutines

Which orders of the goroutines' steps matter. Two different steps that can both be taken
commute, each being possible after the other and the two orders reaching one state, exactly
when they do not race. The races are two sends on one channel, whose order is the order in
which the dispatcher receives them, and two writes of one progress-map entry under the mutex,
two registrations or a registration and a completion, whose order decides what the entry
holds. Every other choice of the scheduler is invisible.
-/

namespace ZboxSdk

namespace Allocation

variable (a : Allocation) {u u' : Bool}

/-- Replacing the two channels commutes. -/
theorem withChan_comm (h : u ≠ u') (c c' : List ℕ) :
    (a.withChan u c).withChan u' c' = (a.withChan u' c').withChan u c := by
  cases u <;> cases u' <;> first | rfl | exact absurd rfl h

/-- Replacing one channel twice keeps the second. -/
@[simp] theorem withChan_withChan (c c' : List ℕ) :
    (a.withChan u c).withChan u c' = a.withChan u c' := by
  cases u <;> rfl

/-- Replacing a channel and replacing a progress map commute. -/
theorem withChan_withProgressMap (c : List ℕ) (m : String → Option ℕ) :
    (a.withChan u c).withProgressMap u' m = (a.withProgressMap u' m).withChan u c := by
  cases u <;> cases u' <;> rfl

/-- Replacing the two progress maps commutes. -/
theorem withProgressMap_comm (h : u ≠ u') (m m' : String → Option ℕ) :
    (a.withProgressMap u m).withProgressMap u' m' =
      (a.withProgressMap u' m').withProgressMap u m := by
  cases u <;> cases u' <;> first | rfl | exact absurd rfl h

/-- Replacing one progress map twice keeps the second. -/
@[simp] theorem withProgressMap_withProgressMap (m m' : String → Option ℕ) :
    (a.withProgressMap u m).withProgressMap u m' = a.withProgressMap u m' := by
  cases u <;> rfl

/-- Writing the entry `key` of the map of kind `k` with `v`. -/
def writeEntry (k : Bool) (key : String) (v : Option ℕ) : Allocation :=
  a.withProgressMap k (Function.update (a.progressMap k) key v)

/-- Two writes of progress-map entries commute when they write different entries, or both
delete. -/
theorem writeEntry_comm {k k' : Bool} {key key' : String} {v v' : Option ℕ}
    (h : (k, key) ≠ (k', key') ∨ (v = none ∧ v' = none)) :
    (a.writeEntry k key v).writeEntry k' key' v' =
      (a.writeEntry k' key' v').writeEntry k key v := by
  unfold writeEntry
  by_cases hk : k' = k
  · subst hk
    simp only [progressMap_withProgressMap, if_true, withProgressMap_withProgressMap]
    by_cases hkey : key = key'
    · subst hkey
      obtain ⟨rfl, rfl⟩ := h.resolve_left (by simp)
      rfl
    · rw [Function.update_comm hkey]
  · simp only [progressMap_withProgressMap, if_neg hk, if_neg (Ne.symm hk)]
    exact withProgressMap_comm _ (Ne.symm hk) _ _

/-- Writing an entry changes that entry of that map only. -/
@[simp] theorem progressMap_writeEntry (k k' : Bool) (key : String) (v : Option ℕ) :
    (a.writeEntry k key v).progressMap k' =
      if k' = k then Function.update (a.progressMap k) key v else a.progressMap k' :=
  progressMap_withProgressMap _ _ _ _

/-- Writing an entry leaves the channels alone. -/
@[simp] theorem chan_writeEntry (k k' : Bool) (key : String) (v : Option ℕ) :
    (a.writeEntry k key v).chan k' = a.chan k' :=
  chan_withProgressMap _ _ _ _

/-- Writing an entry and replacing a channel commute. -/
theorem writeEntry_withChan (k k' : Bool) (key : String) (v : Option ℕ) (c : List ℕ) :
    (a.withChan k' c).writeEntry k key v = (a.writeEntry k key v).withChan k' c := by
  unfold writeEntry
  rw [progressMap_withChan, withChan_withProgressMap]

end Allocation

namespace World

variable {Fs Ns : Type} {w : World Fs Ns} {a b id : ℕ} {ja jb : Job}

/-- The registration is a write of the request's entry and the end of its goroutine. -/
theorem registerRequest_eq (w : World Fs Ns) (a : ℕ) (ja : Job) :
    w.registerRequest a ja = { w with
      alloc := w.alloc.writeEntry ja.req.isUpload ja.key (some a)
      jobs := w.jobs.modify (fun j => { j with goroutine := .exited }) a } := rfl

/-- The completion is a write of `none` under the request's key and the end of its task. -/
theorem completeRequest_eq (w : World Fs Ns) (a : ℕ) (ja : Job) :
    w.completeRequest a ja = { w with
      alloc := w.alloc.writeEntry ja.req.isUpload ja.req.completedKey none
      jobs := w.jobs.modify (fun j => { j with task := .completed }) a } := rfl

/-- A send's guard: room in the channel. -/
theorem background_send_room {w' : World Fs Ns} (h : w.background (.send a) = some w')
    (hj : w.jobs[a]? = some ja) : (w.alloc.chan ja.req.isUpload).length < 10 := by
  simp only [background, hj] at h
  split at h
  · exact (‹_ ∧ _›).2
  · cases h

/-- Sends on different channels commute. -/
theorem sendRequest_sendRequest (hab : a ≠ b) (hk : ja.req.isUpload ≠ jb.req.isUpload) :
    (w.sendRequest a ja).sendRequest b jb = (w.sendRequest b jb).sendRequest a ja := by
  simp only [sendRequest, Allocation.chan_withChan, if_neg hk, if_neg (Ne.symm hk),
    Allocation.withChan_comm _ hk, List.modify_modify_ne _ _ _ hab]

/-- A send and another goroutine's registration commute. -/
theorem sendRequest_registerRequest (hab : a ≠ b) :
    (w.sendRequest a ja).registerRequest b jb = (w.registerRequest b jb).sendRequest a ja := by
  simp only [sendRequest, registerRequest_eq, Allocation.chan_writeEntry,
    Allocation.writeEntry_withChan, List.modify_modify_ne _ _ _ hab]

/-- A send to a channel and a receive of another request from it commute, the send queueing behind
what stays. -/
theorem sendRequest_receiveRequest_same {rest : List ℕ} (hab : a ≠ id) :
    (w.sendRequest a ja).receiveRequest ja.req.isUpload id (rest ++ [a]) =
      (w.receiveRequest ja.req.isUpload id rest).sendRequest a ja := by
  simp only [sendRequest, receiveRequest, Allocation.chan_withChan, if_true,
    Allocation.withChan_withChan, List.modify_modify_ne _ _ _ hab]

/-- A send to one channel and a receive from the other commute. -/
theorem sendRequest_receiveRequest_other {up : Bool} {rest : List ℕ} (hk : ja.req.isUpload ≠ up)
    (hab : a ≠ id) :
    (w.sendRequest a ja).receiveRequest up id rest =
      (w.receiveRequest up id rest).sendRequest a ja := by
  simp only [sendRequest, receiveRequest, Allocation.chan_withChan, if_neg hk,
    Allocation.withChan_comm _ hk, List.modify_modify_ne _ _ _ hab]

/-- A send and another request's completion commute. -/
theorem sendRequest_completeRequest (hab : a ≠ b) :
    (w.sendRequest a ja).completeRequest b jb = (w.completeRequest b jb).sendRequest a ja := by
  simp only [sendRequest, completeRequest_eq, Allocation.chan_writeEntry,
    Allocation.writeEntry_withChan, List.modify_modify_ne _ _ _ hab]

/-- Registrations under different entries commute. -/
theorem registerRequest_registerRequest (hab : a ≠ b)
    (hk : (ja.req.isUpload, ja.key) ≠ (jb.req.isUpload, jb.key)) :
    (w.registerRequest a ja).registerRequest b jb =
      (w.registerRequest b jb).registerRequest a ja := by
  simp only [registerRequest_eq, Allocation.writeEntry_comm _ (.inl hk),
    List.modify_modify_ne _ _ _ hab]

/-- A registration and a receive commute. -/
theorem registerRequest_receiveRequest {up : Bool} {rest : List ℕ} :
    (w.registerRequest a ja).receiveRequest up id rest =
      (w.receiveRequest up id rest).registerRequest a ja := by
  simp only [registerRequest_eq, receiveRequest, Allocation.writeEntry_withChan]
  by_cases hab : a = id
  · subst hab
    rw [List.modify_modify_eq, List.modify_modify_eq]
    rfl
  · rw [List.modify_modify_ne _ _ _ hab]

/-- A registration and a completion that deletes another entry commute. -/
theorem registerRequest_completeRequest (hab : a ≠ b)
    (hk : (ja.req.isUpload, ja.key) ≠ (jb.req.isUpload, jb.req.completedKey)) :
    (w.registerRequest a ja).completeRequest b jb =
      (w.completeRequest b jb).registerRequest a ja := by
  simp only [registerRequest_eq, completeRequest_eq, Allocation.writeEntry_comm _ (.inl hk),
    List.modify_modify_ne _ _ _ hab]

/-- Receives from the two channels commute. -/
theorem receiveRequest_receiveRequest {up up' : Bool} {id' : ℕ} {rest rest' : List ℕ}
    (hk : up ≠ up') :
    (w.receiveRequest up id rest).receiveRequest up' id' rest' =
      (w.receiveRequest up' id' rest').receiveRequest up id rest := by
  simp only [receiveRequest, Allocation.withChan_comm _ hk]
  by_cases hid : id = id'
  · rw [hid]
  · rw [List.modify_modify_ne _ _ _ hid]

/-- A receive and another request's completion commute. -/
theorem receiveRequest_completeRequest {up : Bool} {rest : List ℕ} (hab : id ≠ b) :
    (w.receiveRequest up id rest).completeRequest b jb =
      (w.completeRequest b jb).receiveRequest up id rest := by
  simp only [completeRequest_eq, receiveRequest, Allocation.writeEntry_withChan,
    List.modify_modify_ne _ _ _ hab]

/-- Completions of two requests commute. -/
theorem completeRequest_completeRequest (hab : a ≠ b) :
    (w.completeRequest a ja).completeRequest b jb =
      (w.completeRequest b jb).completeRequest a ja := by
  simp only [completeRequest_eq, Allocation.writeEntry_comm _ (.inr ⟨rfl, rfl⟩),
    List.modify_modify_ne _ _ _ hab]

end World

section

variable {Fs Ns : Type} {w w₁ w₂ : World Fs Ns} {a b : ℕ} {b₁ b₂ : Background}

/-- The goroutine steps `b₁` and `b₂` commute at `w`: when both can be taken, each can still be
taken after the other, and the two orders reach one state. -/
def World.Commute (w : World Fs Ns) (b₁ b₂ : Background) : Prop :=
  ∀ w₁ w₂ : World Fs Ns, w.background b₁ = some w₁ → w.background b₂ = some w₂ →
    ∃ v, w₁.background b₂ = some v ∧ w₂.background b₁ = some v

/-- Commuting steps commute either way round. -/
theorem World.Commute.symm (h : w.Commute b₁ b₂) : w.Commute b₂ b₁ := fun w₁ w₂ h₁ h₂ =>
  let ⟨v, hv₂, hv₁⟩ := h w₂ w₁ h₂ h₁
  ⟨v, hv₁, hv₂⟩

/-- The kind of job `id`'s request. -/
def World.kindOf (w : World Fs Ns) (id : ℕ) : Option Bool := (w.jobs[id]?).map (·.req.isUpload)

/-- The progress-map entry job `id`'s goroutine registers it under. -/
def World.entryOf (w : World Fs Ns) (id : ℕ) : Option (Bool × String) :=
  (w.jobs[id]?).map fun j => (j.req.isUpload, j.key)

/-- The progress-map entry job `id`'s `completedCallback` deletes. -/
def World.deletedEntryOf (w : World Fs Ns) (id : ℕ) : Option (Bool × String) :=
  (w.jobs[id]?).map fun j => (j.req.isUpload, j.req.completedKey)

/-- Two goroutine steps race: two sends on one channel, two registrations of one entry, or a
registration and a completion that deletes the entry registered. -/
def World.Race (w : World Fs Ns) : Background → Background → Prop
  | .send a, .send b => w.kindOf a = w.kindOf b
  | .register a, .register b => w.entryOf a = w.entryOf b
  | .register a, .complete b => w.entryOf a = w.deletedEntryOf b
  | .complete a, .register b => w.deletedEntryOf a = w.entryOf b
  | _, _ => False

/-- Sends of two requests of different kinds commute. -/
theorem World.commute_send_send (hab : a ≠ b) (hk : ¬ w.kindOf a = w.kindOf b) :
    w.Commute (.send a) (.send b) := by
  intro w₁ w₂ h₁ h₂
  obtain ⟨ja, ha, hsa, rfl⟩ := World.background_send h₁
  obtain ⟨jb, hb, hsb, rfl⟩ := World.background_send h₂
  have hkab : ja.req.isUpload ≠ jb.req.isUpload := fun h =>
    hk (by rw [World.kindOf, World.kindOf, ha, hb]; exact congrArg some h)
  have hb₁ : (w.sendRequest a ja).jobs[b]? = some jb := by
    rwa [World.sendRequest_jobs, getElem?_modify_of_ne (Ne.symm hab)]
  have ha₂ : (w.sendRequest b jb).jobs[a]? = some ja := by
    rwa [World.sendRequest_jobs, getElem?_modify_of_ne hab]
  refine ⟨_, World.background_send_of hb₁ hsb ?_,
    (World.background_send_of ha₂ hsa ?_).trans
      (congrArg some (World.sendRequest_sendRequest hab hkab).symm)⟩
  · simpa [Ne.symm hkab] using World.background_send_room h₂ hb
  · simpa [hkab] using World.background_send_room h₁ ha

/-- A send and a registration always commute. -/
theorem World.commute_send_register : w.Commute (.send a) (.register b) := by
  intro w₁ w₂ h₁ h₂
  obtain ⟨ja, ha, hsa, rfl⟩ := World.background_send h₁
  obtain ⟨jb, hb, hsb, rfl⟩ := World.background_register h₂
  have hab : a ≠ b := by
    rintro rfl
    rw [ha] at hb
    cases hb
    rw [hsa] at hsb
    cases hsb
  have hb₁ : (w.sendRequest a ja).jobs[b]? = some jb := by
    rwa [World.sendRequest_jobs, getElem?_modify_of_ne (Ne.symm hab)]
  have ha₂ : (w.registerRequest b jb).jobs[a]? = some ja := by
    rwa [World.registerRequest_jobs, getElem?_modify_of_ne hab]
  refine ⟨_, World.background_register_of hb₁ hsb, (World.background_send_of ha₂ hsa ?_).trans
    (congrArg some (World.sendRequest_registerRequest hab).symm)⟩
  simpa using World.background_send_room h₁ ha

/-- A send and a receive commute: the receive takes the channel's head, which the send does not
change. -/
theorem World.commute_send_dispatch {up : Bool} (hinv : Inv w) :
    w.Commute (.send a) (.dispatch up) := by
  intro w₁ w₂ h₁ h₂
  obtain ⟨ja, ha, hsa, rfl⟩ := World.background_send h₁
  obtain ⟨id, rest, hc, rfl⟩ := World.background_dispatch h₂
  have hroom := World.background_send_room h₁ ha
  have hne : a ≠ id := by
    rintro rfl
    exact hinv.not_mem_chan ha hsa up (by rw [hc]; exact List.mem_cons_self _ _)
  have ha₂ : (w.receiveRequest up id rest).jobs[a]? = some ja := by
    rwa [World.receiveRequest_jobs, getElem?_modify_of_ne hne]
  by_cases hk : ja.req.isUpload = up
  · subst hk
    have hc₁ : (w.sendRequest a ja).alloc.chan ja.req.isUpload = id :: (rest ++ [a]) := by simp [hc]
    refine ⟨_, World.background_dispatch_of hc₁, (World.background_send_of ha₂ hsa ?_).trans
      (congrArg some (World.sendRequest_receiveRequest_same hne).symm)⟩
    rw [hc, List.length_cons] at hroom
    simp only [World.receiveRequest_alloc, Allocation.chan_withChan, if_true]
    omega
  · have hc₁ : (w.sendRequest a ja).alloc.chan up = id :: rest := by simp [Ne.symm hk, hc]
    refine ⟨_, World.background_dispatch_of hc₁, (World.background_send_of ha₂ hsa ?_).trans
      (congrArg some (World.sendRequest_receiveRequest_other hk hne).symm)⟩
    simpa [hk] using hroom

/-- A send and a completion commute. -/
theorem World.commute_send_complete (hinv : Inv w) : w.Commute (.send a) (.complete b) := by
  intro w₁ w₂ h₁ h₂
  obtain ⟨ja, ha, hsa, rfl⟩ := World.background_send h₁
  obtain ⟨jb, hb, htb, rfl⟩ := World.background_complete h₂
  have hab : a ≠ b := by
    rintro rfl
    rw [ha] at hb
    cases hb
    rw [hinv.idle a ja ha hsa] at htb
    cases htb
  have hb₁ : (w.sendRequest a ja).jobs[b]? = some jb := by
    rwa [World.sendRequest_jobs, getElem?_modify_of_ne (Ne.symm hab)]
  have ha₂ : (w.completeRequest b jb).jobs[a]? = some ja := by
    rwa [World.completeRequest_jobs, getElem?_modify_of_ne hab]
  refine ⟨_, World.background_complete_of hb₁ htb, (World.background_send_of ha₂ hsa ?_).trans
    (congrArg some (World.sendRequest_completeRequest hab).symm)⟩
  simpa using World.background_send_room h₁ ha

/-- Registrations of two requests under different entries commute. -/
theorem World.commute_register_register (hab : a ≠ b) (hk : ¬ w.entryOf a = w.entryOf b) :
    w.Commute (.register a) (.register b) := by
  intro w₁ w₂ h₁ h₂
  obtain ⟨ja, ha, hsa, rfl⟩ := World.background_register h₁
  obtain ⟨jb, hb, hsb, rfl⟩ := World.background_register h₂
  have hkab : (ja.req.isUpload, ja.key) ≠ (jb.req.isUpload, jb.key) := fun h =>
    hk (by rw [World.entryOf, World.entryOf, ha, hb]; exact congrArg some h)
  have hb₁ : (w.registerRequest a ja).jobs[b]? = some jb := by
    rwa [World.registerRequest_jobs, getElem?_modify_of_ne (Ne.symm hab)]
  have ha₂ : (w.registerRequest b jb).jobs[a]? = some ja := by
    rwa [World.registerRequest_jobs, getElem?_modify_of_ne hab]
  exact ⟨_, World.background_register_of hb₁ hsb, (World.background_register_of ha₂ hsa).trans
    (congrArg some (World.registerRequest_registerRequest hab hkab).symm)⟩

/-- A registration and a receive always commute. -/
theorem World.commute_register_dispatch {up : Bool} : w.Commute (.register a) (.dispatch up) := by
  intro w₁ w₂ h₁ h₂
  obtain ⟨ja, ha, hsa, rfl⟩ := World.background_register h₁
  obtain ⟨id, rest, hc, rfl⟩ := World.background_dispatch h₂
  have hc₁ : (w.registerRequest a ja).alloc.chan up = id :: rest := by simpa using hc
  obtain ⟨ja', ha', hreq, hkey, hg⟩ := getElem?_modify_task id .running ha
  have ha₂ : (w.receiveRequest up id rest).jobs[a]? = some ja' := ha'
  refine ⟨_, World.background_dispatch_of hc₁,
    (World.background_register_of ha₂ (hg.trans hsa)).trans ?_⟩
  rw [World.registerRequest_receiveRequest, World.registerRequest_eq, World.registerRequest_eq,
    hreq, hkey]

/-- A registration and a completion commute when the completion deletes another entry. -/
theorem World.commute_register_complete (hinv : Inv w) (hk : ¬ w.entryOf a = w.deletedEntryOf b) :
    w.Commute (.register a) (.complete b) := by
  intro w₁ w₂ h₁ h₂
  obtain ⟨ja, ha, hsa, rfl⟩ := World.background_register h₁
  obtain ⟨jb, hb, htb, rfl⟩ := World.background_complete h₂
  have hkab : (ja.req.isUpload, ja.key) ≠ (jb.req.isUpload, jb.req.completedKey) := fun h =>
    hk (by rw [World.entryOf, World.deletedEntryOf, ha, hb]; exact congrArg some h)
  have hab : a ≠ b := by
    rintro rfl
    rw [ha] at hb
    cases hb
    exact hkab (by rw [hinv.keyed a ja ha])
  have hb₁ : (w.registerRequest a ja).jobs[b]? = some jb := by
    rwa [World.registerRequest_jobs, getElem?_modify_of_ne (Ne.symm hab)]
  have ha₂ : (w.completeRequest b jb).jobs[a]? = some ja := by
    rwa [World.completeRequest_jobs, getElem?_modify_of_ne hab]
  exact ⟨_, World.background_complete_of hb₁ htb, (World.background_register_of ha₂ hsa).trans
    (congrArg some (World.registerRequest_completeRequest hab hkab).symm)⟩

/-- Receives from the two channels commute. -/
theorem World.commute_dispatch_dispatch {up up' : Bool} (hk : up ≠ up') :
    w.Commute (.dispatch up) (.dispatch up') := by
  intro w₁ w₂ h₁ h₂
  obtain ⟨id, rest, hc, rfl⟩ := World.background_dispatch h₁
  obtain ⟨id', rest', hc', rfl⟩ := World.background_dispatch h₂
  have hc₁ : (w.receiveRequest up id rest).alloc.chan up' = id' :: rest' := by
    simpa [Ne.symm hk] using hc'
  have hc₂ : (w.receiveRequest up' id' rest').alloc.chan up = id :: rest := by simpa [hk] using hc
  exact ⟨_, World.background_dispatch_of hc₁, (World.background_dispatch_of hc₂).trans
    (congrArg some (World.receiveRequest_receiveRequest hk).symm)⟩

/-- A receive and a completion commute. -/
theorem World.commute_dispatch_complete {up : Bool} (hq : QueueInv w) :
    w.Commute (.dispatch up) (.complete b) := by
  intro w₁ w₂ h₁ h₂
  obtain ⟨id, rest, hc, rfl⟩ := World.background_dispatch h₁
  obtain ⟨jb, hb, htb, rfl⟩ := World.background_complete h₂
  have hne : id ≠ b := by
    rintro rfl
    obtain ⟨j, hj, -, hidle⟩ := hq.queued up id (by rw [hc]; exact List.mem_cons_self _ _)
    rw [hb] at hj
    cases hj
    rw [htb] at hidle
    cases hidle
  have hb₁ : (w.receiveRequest up id rest).jobs[b]? = some jb := by
    rwa [World.receiveRequest_jobs, getElem?_modify_of_ne (Ne.symm hne)]
  have hc₂ : (w.completeRequest b jb).alloc.chan up = id :: rest := by simpa using hc
  exact ⟨_, World.background_complete_of hb₁ htb, (World.background_dispatch_of hc₂).trans
    (congrArg some (World.receiveRequest_completeRequest hne).symm)⟩

/-- Completions of two requests commute. -/
theorem World.commute_complete_complete (hab : a ≠ b) : w.Commute (.complete a) (.complete b) := by
  intro w₁ w₂ h₁ h₂
  obtain ⟨ja, ha, hta, rfl⟩ := World.background_complete h₁
  obtain ⟨jb, hb, htb, rfl⟩ := World.background_complete h₂
  have hb₁ : (w.completeRequest a ja).jobs[b]? = some jb := by
    rwa [World.completeRequest_jobs, getElem?_modify_of_ne (Ne.symm hab)]
  have ha₂ : (w.completeRequest b jb).jobs[a]? = some ja := by
    rwa [World.completeRequest_jobs, getElem?_modify_of_ne hab]
  exact ⟨_, World.background_complete_of hb₁ htb, (World.background_complete_of ha₂ hta).trans
    (congrArg some (World.completeRequest_completeRequest hab).symm)⟩

/-- In a state whose channels hold unstarted requests, two different goroutine steps that do
not race commute. -/
theorem QueueInv.commute (hq : QueueInv w) (hne : b₁ ≠ b₂) (hrace : ¬ w.Race b₁ b₂) :
    w.Commute b₁ b₂ := by
  cases b₁ with
  | send a =>
    cases b₂ with
    | send b => exact World.commute_send_send (fun h => hne (congrArg _ h)) hrace
    | register b => exact World.commute_send_register
    | dispatch up => exact World.commute_send_dispatch hq.toInv
    | complete b => exact World.commute_send_complete hq.toInv
  | register a =>
    cases b₂ with
    | send b => exact World.commute_send_register.symm
    | register b => exact World.commute_register_register (fun h => hne (congrArg _ h)) hrace
    | dispatch up => exact World.commute_register_dispatch
    | complete b => exact World.commute_register_complete hq.toInv hrace
  | dispatch up =>
    cases b₂ with
    | send b => exact (World.commute_send_dispatch hq.toInv).symm
    | register b => exact World.commute_register_dispatch.symm
    | dispatch up' => exact World.commute_dispatch_dispatch (fun h => hne (congrArg _ h))
    | complete b => exact World.commute_dispatch_complete hq
  | complete a =>
    cases b₂ with
    | send b => exact (World.commute_send_complete hq.toInv).symm
    | register b => exact (World.commute_register_complete hq.toInv fun h => hrace h.symm).symm
    | dispatch up => exact (World.commute_dispatch_complete hq).symm
    | complete b => exact World.commute_complete_complete (fun h => hne (congrArg _ h))

/-- Two sends on one channel: the channel holds the two requests in the order sent. -/
theorem World.not_commute_send_send (hab : a ≠ b) (hk : w.kindOf a = w.kindOf b)
    (h₁ : w.background (.send a) = some w₁) (h₂ : w.background (.send b) = some w₂) :
    ¬ ∃ v, w₁.background (.send b) = some v ∧ w₂.background (.send a) = some v := by
  rintro ⟨v, hv₁, hv₂⟩
  obtain ⟨ja, ha, -, rfl⟩ := World.background_send h₁
  obtain ⟨jb, hb, -, rfl⟩ := World.background_send h₂
  obtain ⟨jb', hb', -, rfl⟩ := World.background_send hv₁
  obtain ⟨ja', ha', -, hv⟩ := World.background_send hv₂
  rw [World.sendRequest_jobs, getElem?_modify_of_ne (Ne.symm hab), hb] at hb'
  cases hb'
  rw [World.sendRequest_jobs, getElem?_modify_of_ne hab, ha] at ha'
  cases ha'
  have hkab : ja.req.isUpload = jb.req.isUpload := by
    simpa [World.kindOf, ha, hb] using hk
  have hchan := congrArg (fun v : World Fs Ns => v.alloc.chan ja.req.isUpload) hv
  simp [hkab] at hchan
  exact hab hchan.1

/-- Two registrations of one entry: the entry holds the one registered last. -/
theorem World.not_commute_register_register (hab : a ≠ b) (hk : w.entryOf a = w.entryOf b)
    (h₁ : w.background (.register a) = some w₁) (h₂ : w.background (.register b) = some w₂) :
    ¬ ∃ v, w₁.background (.register b) = some v ∧ w₂.background (.register a) = some v := by
  rintro ⟨v, hv₁, hv₂⟩
  obtain ⟨ja, ha, -, rfl⟩ := World.background_register h₁
  obtain ⟨jb, hb, -, rfl⟩ := World.background_register h₂
  obtain ⟨jb', hb', -, rfl⟩ := World.background_register hv₁
  obtain ⟨ja', ha', -, hv⟩ := World.background_register hv₂
  rw [World.registerRequest_jobs, getElem?_modify_of_ne (Ne.symm hab), hb] at hb'
  cases hb'
  rw [World.registerRequest_jobs, getElem?_modify_of_ne hab, ha] at ha'
  cases ha'
  obtain ⟨hkind, hkey⟩ : jb.req.isUpload = ja.req.isUpload ∧ jb.key = ja.key := by
    simpa [World.entryOf, ha, hb, eq_comm] using hk
  have hentry := congrArg (fun v : World Fs Ns => v.alloc.progressMap ja.req.isUpload ja.key) hv
  simp [hkind, hkey] at hentry
  exact hab hentry.symm

/-- A registration and a completion of one entry: the entry holds the request if the
registration comes last, and nothing if the completion does. -/
theorem World.not_commute_register_complete (hk : w.entryOf a = w.deletedEntryOf b)
    (h₁ : w.background (.register a) = some w₁) (h₂ : w.background (.complete b) = some w₂) :
    ¬ ∃ v, w₁.background (.complete b) = some v ∧ w₂.background (.register a) = some v := by
  rintro ⟨v, hv₁, hv₂⟩
  obtain ⟨ja, ha, -, rfl⟩ := World.background_register h₁
  obtain ⟨jb, hb, -, rfl⟩ := World.background_complete h₂
  obtain ⟨jb', hb', -, rfl⟩ := World.background_complete hv₁
  obtain ⟨ja', ha', -, hv⟩ := World.background_register hv₂
  obtain ⟨jb'', hb'', hreqb, -⟩ := World.background_jobs_keep h₁ hb
  rw [hb''] at hb'
  cases hb'
  obtain ⟨ja'', ha'', hreqa, hkeya⟩ := World.background_jobs_keep h₂ ha
  rw [ha''] at ha'
  cases ha'
  obtain ⟨hkind, hkey⟩ : jb.req.isUpload = ja.req.isUpload ∧ jb.req.completedKey = ja.key := by
    simpa [World.entryOf, World.deletedEntryOf, ha, hb, eq_comm] using hk
  have hentry := congrArg (fun v : World Fs Ns => v.alloc.progressMap ja.req.isUpload ja.key) hv
  simp [hreqa, hreqb, hkeya, hkind, hkey] at hentry

/-- A completion that deletes the entry a registration writes does not commute with it: the two
orders leave the entry different. -/
theorem World.not_commute_complete_register (hk : w.deletedEntryOf a = w.entryOf b)
    (h₁ : w.background (.complete a) = some w₁) (h₂ : w.background (.register b) = some w₂) :
    ¬ ∃ v, w₁.background (.register b) = some v ∧ w₂.background (.complete a) = some v :=
  fun ⟨v, hv₁, hv₂⟩ =>
    World.not_commute_register_complete hk.symm h₂ h₁ ⟨v, hv₂, hv₁⟩

end

end ZboxSdk
