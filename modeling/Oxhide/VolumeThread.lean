import Oxhide.EncryptedIoQueue
import Oxhide.Runs

/-! # Device-control requests and the volume thread

`enqueue_device_control_irp` puts a request on the list of the volume and releases its
semaphore; the volume thread waits on the semaphore and empties the list;
`tc_stop_volume_thread` sets a flag, releases the same semaphore and waits for the thread.
An action names the party that makes its next call, and the answer of that call. -/
namespace Oxhide.VolumeThread
open EncryptedIoQueue Runs

/-- How far a call of `enqueue_device_control_irp` has come. -/
inductive Enqueue where
  | notCalled
  | allocated
  | outOfMemory
  | inserted
  | returned
  | failed
  deriving DecidableEq, Repr

/-- How far the call of `tc_stop_volume_thread` has come. -/
inductive Stop where
  | notCalled
  | flagged
  | signalled
  | returned
  deriving DecidableEq, Repr

/-- Where the service loop of `volume_thread_proc` stands. -/
inductive Service (Irp : Type) where
  | waiting
  | woken
  | draining
  | processing (irp : Irp)
  | completed (irp : Irp)
  | released
  | drained
  | closing
  | terminated
  deriving DecidableEq, Repr

structure State (Irp : Type) where
  listEntry : List Irp
  requestSemaphore : ℕ
  bThreadShouldQuit : Bool
  /-- A reference to the thread object is held. -/
  peThread : Bool
  enqueue : Irp → Enqueue
  stop : Stop
  service : Service Irp
  /-- The statuses the request was completed with. -/
  completions : Irp → List NtStatus
  /-- How often the remove lock that came with the request was released. -/
  releases : Irp → ℕ
  /-- The request was put on the list before the stop request. -/
  early : Irp → Bool

/-- A volume whose thread has reached its main loop. -/
def State.init {Irp : Type} (peThread : Bool) : State Irp where
  listEntry := []
  requestSemaphore := 0
  bThreadShouldQuit := false
  peThread := peThread
  enqueue := fun _ => .notCalled
  stop := .notCalled
  service := .waiting
  completions := fun _ => []
  releases := fun _ => 0
  early := fun _ => false

/-- The limit of the semaphore; a release past it raises an exception. -/
def semaphoreLimit : ℕ := 2147483647

variable {Irp : Type}

/-- `KeReleaseSemaphore` by one. -/
def keReleaseSemaphore (s : State Irp) : Option (State Irp) :=
  if s.requestSemaphore < semaphoreLimit then
    some { s with requestSemaphore := s.requestSemaphore + 1 }
  else
    none

theorem keReleaseSemaphore_eq_some {s s' : State Irp} :
    keReleaseSemaphore s = some s' ↔ s.requestSemaphore < semaphoreLimit ∧
      s' = { s with requestSemaphore := s.requestSemaphore + 1 } := by
  rw [keReleaseSemaphore]
  split_ifs with h
  · simp [h, eq_comm]
  · simp [h]

variable [DecidableEq Irp]

def completeDiskIrp (s : State Irp) (irp : Irp) (status : NtStatus) : State Irp :=
  { s with completions := Function.update s.completions irp (s.completions irp ++ [status]) }

def State.setEnqueue (s : State Irp) (irp : Irp) (e : Enqueue) : State Irp :=
  { s with enqueue := Function.update s.enqueue irp e }

/-- The next call of `enqueue_device_control_irp`. -/
def enqueueDeviceControlIrp (s : State Irp) (irp : Irp) (poolAnswer : Bool) :
    Option (State Irp) :=
  match s.enqueue irp with
  | .notCalled => some (s.setEnqueue irp (if poolAnswer then .allocated else .outOfMemory))
  -- The lock is kept here.
  | .outOfMemory =>
    some ((completeDiskIrp s irp statusInsufficientResources).setEnqueue irp .failed)
  | .allocated =>
    some {
      s.setEnqueue irp .inserted with
      listEntry := s.listEntry ++ [irp]
      early := Function.update s.early irp (!s.bThreadShouldQuit) }
  | .inserted => (keReleaseSemaphore s).map (·.setEnqueue irp .returned)
  | .returned | .failed => none

/-- The next call of `tc_stop_volume_thread`. -/
def tcStopVolumeThread (s : State Irp) : Option (State Irp) :=
  match s.stop with
  | .notCalled => some { s with bThreadShouldQuit := true, stop := .flagged }
  | .flagged => (keReleaseSemaphore s).map fun s => { s with stop := .signalled }
  | .signalled =>
    if s.peThread then
      if s.service = .terminated then some { s with peThread := false, stop := .returned }
      else none
    else
      some { s with stop := .returned }
  | .returned => none

/-- The next call of the service loop. Every branch of `process_volume_device_control` ends
in one call of `complete_disk_irp`; the status it passes on is an input. -/
def volumeThreadProc (s : State Irp) (status : NtStatus) : Option (State Irp) :=
  match s.service with
  | .waiting =>
    if 0 < s.requestSemaphore then
      some { s with requestSemaphore := s.requestSemaphore - 1, service := .woken }
    else
      none
  | .woken => some { s with service := if s.bThreadShouldQuit then .closing else .draining }
  | .draining =>
    match s.listEntry with
    | [] => some { s with service := .drained }
    | irp :: rest => some { s with listEntry := rest, service := .processing irp }
  | .processing irp => some { completeDiskIrp s irp status with service := .completed irp }
  | .completed irp =>
    some {
      s with
      releases := Function.update s.releases irp (s.releases irp + 1)
      service := .released }
  -- The wrapper goes back to the pool.
  | .released => some { s with service := .draining }
  | .drained => some { s with service := if s.bThreadShouldQuit then .closing else .waiting }
  | .closing => some { s with service := .terminated }
  | .terminated => none

inductive Action (Irp : Type) where
  | enqueue (irp : Irp) (poolAnswer : Bool)
  | stop
  | service (status : NtStatus)
  deriving DecidableEq, Repr

def step (s : State Irp) : Action Irp → Option (State Irp)
  | .enqueue irp poolAnswer => enqueueDeviceControlIrp s irp poolAnswer
  | .stop => tcStopVolumeThread s
  | .service status => volumeThreadProc s status

section Accounts

/-! Every request is in exactly one place: with its caller, on the list, in the hands of the
thread, or done. -/

/-- The request was put on the list. -/
@[simp] def Enqueue.enqueued : Enqueue → ℕ
  | .inserted | .returned => 1
  | .notCalled | .allocated | .outOfMemory | .failed => 0

/-- The call completed the request itself. -/
@[simp] def Enqueue.refused : Enqueue → ℕ
  | .failed => 1
  | .notCalled | .allocated | .outOfMemory | .inserted | .returned => 0

/-- The thread holds the request and has not completed it. -/
@[simp] def Service.uncompleted : Service Irp → Irp → ℕ
  | .processing irp, i => if i = irp then 1 else 0
  | .waiting, _ | .woken, _ | .draining, _ | .completed _, _ | .released, _ | .drained, _
  | .closing, _ | .terminated, _ => 0

/-- The thread holds the request and has not released its lock. -/
@[simp] def Service.unreleased : Service Irp → Irp → ℕ
  | .processing irp, i | .completed irp, i => if i = irp then 1 else 0
  | .waiting, _ | .woken, _ | .draining, _ | .released, _ | .drained, _ | .closing, _
  | .terminated, _ => 0

/-- Completions and releases of one request agree with where it is. -/
structure Balanced (s : State Irp) (i : Irp) : Prop where
  completions : (s.completions i).length + s.listEntry.count i + s.service.uncompleted i =
    (s.enqueue i).enqueued + (s.enqueue i).refused
  releases : s.releases i + s.listEntry.count i + s.service.unreleased i = (s.enqueue i).enqueued
  enqueued_of_early : s.early i = true → (s.enqueue i).enqueued = 1
  early_of_enqueued : s.bThreadShouldQuit = false → (s.enqueue i).enqueued = 1 → s.early i = true

structure Sound (s : State Irp) : Prop where
  balanced : ∀ i, Balanced s i
  stop : s.bThreadShouldQuit = false ↔ s.stop = .notCalled
  leaving : s.service = .closing ∨ s.service = .terminated → s.bThreadShouldQuit = true

theorem sound_init (peThread : Bool) : Sound (State.init peThread : State Irp) where
  balanced i := ⟨rfl, rfl, nofun, nofun⟩
  stop := by simp [State.init]
  leaving h := by simp [State.init] at h

/-- A step that does not touch a request keeps it balanced. -/
private theorem Balanced.of_untouched {s s' : State Irp} {i : Irp} (h : Balanced s i)
    (hcompletions : s'.completions i = s.completions i) (hreleases : s'.releases i = s.releases i)
    (hcount : s'.listEntry.count i = s.listEntry.count i)
    (huncompleted : s'.service.uncompleted i = s.service.uncompleted i)
    (hunreleased : s'.service.unreleased i = s.service.unreleased i)
    (henqueue : s'.enqueue i = s.enqueue i) (hearly : s'.early i = s.early i)
    (hquit : s'.bThreadShouldQuit = false → s.bThreadShouldQuit = false) : Balanced s' i where
  completions := by
    rw [hcompletions, hcount, huncompleted, henqueue]
    exact h.completions
  releases := by
    rw [hreleases, hcount, hunreleased, henqueue]
    exact h.releases
  enqueued_of_early := by
    rw [hearly, henqueue]
    exact h.enqueued_of_early
  early_of_enqueued hopen := by
    rw [hearly, henqueue]
    exact h.early_of_enqueued (hquit hopen)

private theorem count_of_ne {l : List Irp} {i irp : Irp} (h : i ≠ irp) :
    (l ++ [irp]).count i = l.count i := by
  rw [List.count_append, List.count_singleton, if_neg (by simpa using Ne.symm h), Nat.add_zero]

private theorem enqueueDeviceControlIrp_other {s s' : State Irp} {irp i : Irp} {poolAnswer : Bool}
    (hstep : enqueueDeviceControlIrp s irp poolAnswer = some s') (hi : i ≠ irp)
    (h : Balanced s i) : Balanced s' i := by
  rw [enqueueDeviceControlIrp] at hstep
  split at hstep
  · cases hstep
    exact h.of_untouched rfl rfl rfl rfl rfl (Function.update_of_ne hi _ _) rfl id
  · cases hstep
    exact h.of_untouched (Function.update_of_ne hi _ _) rfl rfl rfl rfl
      (Function.update_of_ne hi _ _) rfl id
  · cases hstep
    exact h.of_untouched rfl rfl (count_of_ne hi) rfl rfl (Function.update_of_ne hi _ _)
      (Function.update_of_ne hi _ _) id
  · obtain ⟨t, hrelease, rfl⟩ := Option.map_eq_some_iff.mp hstep
    obtain ⟨-, rfl⟩ := keReleaseSemaphore_eq_some.mp hrelease
    exact h.of_untouched rfl rfl rfl rfl rfl (Function.update_of_ne hi _ _) rfl id
  · cases hstep
  · cases hstep

private theorem enqueueDeviceControlIrp_self {s s' : State Irp} {irp : Irp} {poolAnswer : Bool}
    (hstep : enqueueDeviceControlIrp s irp poolAnswer = some s') (h : Balanced s irp) :
    Balanced s' irp := by
  obtain ⟨hcompletions, hreleases, hearly, henqueued⟩ := h
  rw [enqueueDeviceControlIrp] at hstep
  split at hstep
  all_goals
    rename_i hat
    rw [hat] at hcompletions hreleases hearly henqueued
  · cases hstep
    cases poolAnswer <;>
      exact ⟨by simpa [State.setEnqueue] using hcompletions,
        by simpa [State.setEnqueue] using hreleases,
        by simpa [State.setEnqueue] using hearly, by simp [State.setEnqueue]⟩
  · cases hstep
    constructor
    · simp only [State.setEnqueue, completeDiskIrp, Function.update_self, List.length_append,
        List.length_singleton, Enqueue.enqueued, Enqueue.refused] at hcompletions ⊢
      omega
    · simpa [State.setEnqueue, completeDiskIrp] using hreleases
    · simpa [State.setEnqueue, completeDiskIrp] using hearly
    · simp [State.setEnqueue]
  · cases hstep
    constructor
    · simp only [State.setEnqueue, Function.update_self, List.count_append, List.count_singleton,
        beq_self_eq_true, if_true, Enqueue.enqueued, Enqueue.refused] at hcompletions ⊢
      omega
    · simp only [State.setEnqueue, Function.update_self, List.count_append, List.count_singleton,
        beq_self_eq_true, if_true, Enqueue.enqueued] at hreleases ⊢
      omega
    · simp [State.setEnqueue]
    · simp [State.setEnqueue]
  · obtain ⟨t, hrelease, rfl⟩ := Option.map_eq_some_iff.mp hstep
    obtain ⟨-, rfl⟩ := keReleaseSemaphore_eq_some.mp hrelease
    constructor
    · simpa [State.setEnqueue] using hcompletions
    · simpa [State.setEnqueue] using hreleases
    · simp [State.setEnqueue]
    · simpa [State.setEnqueue] using henqueued
  · cases hstep
  · cases hstep

private theorem sound_enqueue {s s' : State Irp} {irp : Irp} {poolAnswer : Bool} (hs : Sound s)
    (hstep : enqueueDeviceControlIrp s irp poolAnswer = some s') : Sound s' := by
  have hrest : s'.bThreadShouldQuit = s.bThreadShouldQuit ∧ s'.stop = s.stop ∧
      s'.service = s.service := by
    rw [enqueueDeviceControlIrp] at hstep
    split at hstep
    · cases hstep
      exact ⟨rfl, rfl, rfl⟩
    · cases hstep
      exact ⟨rfl, rfl, rfl⟩
    · cases hstep
      exact ⟨rfl, rfl, rfl⟩
    · obtain ⟨t, hrelease, rfl⟩ := Option.map_eq_some_iff.mp hstep
      obtain ⟨-, rfl⟩ := keReleaseSemaphore_eq_some.mp hrelease
      exact ⟨rfl, rfl, rfl⟩
    · cases hstep
    · cases hstep
  obtain ⟨hquit, hstop, hservice⟩ := hrest
  refine ⟨fun i => ?_, ?_, ?_⟩
  · by_cases hi : i = irp
    · subst hi
      exact enqueueDeviceControlIrp_self hstep (hs.balanced i)
    · exact enqueueDeviceControlIrp_other hstep hi (hs.balanced i)
  · rw [hquit, hstop]
    exact hs.stop
  · rw [hquit, hservice]
    exact hs.leaving

private theorem sound_stop {s s' : State Irp} (hs : Sound s)
    (hstep : tcStopVolumeThread s = some s') : Sound s' := by
  rw [tcStopVolumeThread] at hstep
  split at hstep
  · cases hstep
    exact ⟨fun i => (hs.balanced i).of_untouched rfl rfl rfl rfl rfl rfl rfl nofun,
      by simp, fun _ => rfl⟩
  · next hat =>
    obtain ⟨t, hrelease, rfl⟩ := Option.map_eq_some_iff.mp hstep
    obtain ⟨-, rfl⟩ := keReleaseSemaphore_eq_some.mp hrelease
    have hstop := hs.stop
    exact ⟨fun i => (hs.balanced i).of_untouched rfl rfl rfl rfl rfl rfl rfl id,
      by simpa [hat] using hstop, hs.leaving⟩
  · next hat =>
    have hstop := hs.stop
    split_ifs at hstep
    · cases hstep
      exact ⟨fun i => (hs.balanced i).of_untouched rfl rfl rfl rfl rfl rfl rfl id,
        by simpa [hat] using hstop, hs.leaving⟩
    · cases hstep
      exact ⟨fun i => (hs.balanced i).of_untouched rfl rfl rfl rfl rfl rfl rfl id,
        by simpa [hat] using hstop, hs.leaving⟩
  · cases hstep

/-- A step of the thread that moves no request keeps every request balanced. -/
private theorem Sound.of_quiet {s : State Irp} (hs : Sound s) {service : Service Irp}
    (requestSemaphore : ℕ)
    (hbefore : ∀ i, s.service.uncompleted i = 0 ∧ s.service.unreleased i = 0)
    (hafter : ∀ i, service.uncompleted i = 0 ∧ service.unreleased i = 0)
    (hleaving : service = .closing ∨ service = .terminated → s.bThreadShouldQuit = true) :
    Sound { s with requestSemaphore := requestSemaphore, service := service } where
  balanced i := by
    refine (hs.balanced i).of_untouched rfl rfl rfl ?_ ?_ rfl rfl id
    · rw [(hafter i).1, (hbefore i).1]
    · rw [(hafter i).2, (hbefore i).2]
  stop := hs.stop
  leaving := hleaving

/-- The request leaves the list and is in the hands of the thread. -/
private theorem balanced_take {s : State Irp} {irp : Irp} {rest : List Irp} (hs : Sound s)
    (hat : s.service = .draining) (hlist : s.listEntry = irp :: rest) (i : Irp) :
    Balanced { s with listEntry := rest, service := .processing irp } i := by
  obtain ⟨hcompletions, hreleases, hearly, henqueued⟩ := hs.balanced i
  rw [hat] at hcompletions hreleases
  have hmoved : rest.count i + (if i = irp then 1 else 0) = s.listEntry.count i := by
    rw [hlist]
    by_cases hi : i = irp
    · rw [if_pos hi, hi, List.count_cons_self]
    · rw [if_neg hi, List.count_cons_of_ne (Ne.symm hi), Nat.add_zero]
  refine ⟨?_, ?_, hearly, henqueued⟩
  · simp only [Service.uncompleted] at hcompletions ⊢
    omega
  · simp only [Service.unreleased] at hreleases ⊢
    omega

private theorem balanced_complete {s : State Irp} {irp : Irp} (hs : Sound s)
    (hat : s.service = .processing irp) (status : NtStatus) (i : Irp) :
    Balanced { completeDiskIrp s irp status with service := .completed irp } i := by
  obtain ⟨hcompletions, hreleases, hearly, henqueued⟩ := hs.balanced i
  rw [hat] at hcompletions hreleases
  refine ⟨?_, hreleases, hearly, henqueued⟩
  simp only [completeDiskIrp, Service.uncompleted, Function.update_apply] at hcompletions ⊢
  by_cases hi : i = irp
  · subst hi
    simp only [if_true, List.length_append, List.length_singleton] at hcompletions ⊢
    omega
  · simpa only [if_neg hi] using hcompletions

private theorem balanced_release {s : State Irp} {irp : Irp} (hs : Sound s)
    (hat : s.service = .completed irp) (i : Irp) :
    Balanced { s with
      releases := Function.update s.releases irp (s.releases irp + 1)
      service := .released } i := by
  obtain ⟨hcompletions, hreleases, hearly, henqueued⟩ := hs.balanced i
  rw [hat] at hcompletions hreleases
  refine ⟨hcompletions, ?_, hearly, henqueued⟩
  simp only [Service.unreleased, Function.update_apply] at hreleases ⊢
  by_cases hi : i = irp
  · subst hi
    simp only [if_true] at hreleases ⊢
    omega
  · simpa only [if_neg hi] using hreleases

private theorem sound_service {s s' : State Irp} {status : NtStatus} (hs : Sound s)
    (hstep : volumeThreadProc s status = some s') : Sound s' := by
  rw [volumeThreadProc] at hstep
  split at hstep
  · next hat =>
    split_ifs at hstep
    cases hstep
    exact hs.of_quiet _ (by simp [hat]) (by simp) (by simp)
  · next hat =>
    cases hstep
    split_ifs with hquit
    · exact hs.of_quiet s.requestSemaphore (by simp [hat]) (by simp) fun _ => hquit
    · exact hs.of_quiet s.requestSemaphore (by simp [hat]) (by simp) (by simp)
  · next hat =>
    split at hstep
    · cases hstep
      exact hs.of_quiet s.requestSemaphore (by simp [hat]) (by simp) (by simp)
    · next irp rest hlist =>
      cases hstep
      exact ⟨balanced_take hs hat hlist, hs.stop, by simp⟩
  · next irp hat =>
    cases hstep
    exact ⟨balanced_complete hs hat status, hs.stop, by simp⟩
  · next irp hat =>
    cases hstep
    exact ⟨balanced_release hs hat, hs.stop, by simp⟩
  · next hat =>
    cases hstep
    exact hs.of_quiet s.requestSemaphore (by simp [hat]) (by simp) (by simp)
  · next hat =>
    cases hstep
    split_ifs with hquit
    · exact hs.of_quiet s.requestSemaphore (by simp [hat]) (by simp) fun _ => hquit
    · exact hs.of_quiet s.requestSemaphore (by simp [hat]) (by simp) (by simp)
  · next hat =>
    cases hstep
    have hquit := hs.leaving (.inl hat)
    exact hs.of_quiet s.requestSemaphore (by simp [hat]) (by simp) fun _ => hquit
  · cases hstep

theorem sound_step (s : State Irp) (a : Action Irp) (s' : State Irp) (hs : Sound s)
    (hstep : step s a = some s') : Sound s' := by
  cases a with
  | enqueue irp poolAnswer => exact sound_enqueue hs hstep
  | stop => exact sound_stop hs hstep
  | service status => exact sound_service hs hstep

end Accounts

section Stopping

/-! A request is stranded once the thread is on its way out and the request is on the list,
and a lock is leaked once an allocation failed. -/

/-- The thread is in its inner loop and looks at the list again. -/
def Service.drains : Service Irp → Bool
  | .draining | .processing _ | .completed _ | .released => true
  | .waiting | .woken | .drained | .closing | .terminated => false

def Enqueue.allocationFailed : Enqueue → Bool
  | .outOfMemory | .failed => true
  | .notCalled | .allocated | .inserted | .returned => false

-- `late` says whether requests that came after the stop request count.
variable (late : Bool)

/-- The request is on the list, or was, and counts. -/
def Counted (s : State Irp) (i : Irp) : Prop :=
  (s.enqueue i).enqueued = 1 ∧ (late = true ∨ s.early i = true)

/-- The allocation succeeds, and nothing is left on the list of a thread that will not look
at it again. -/
def Meets (s : State Irp) : Action Irp → Prop
  | .enqueue irp poolAnswer =>
    (s.enqueue irp = .notCalled → poolAnswer = true) ∧
      (s.enqueue irp = .allocated → late = true → s.bThreadShouldQuit = true →
        s.service.drains = true)
  | .stop => s.stop = .notCalled → s.listEntry = [] ∨ s.service.drains = true
  | .service _ => True

def Leaked (s : State Irp) : Prop := ∃ i, (s.enqueue i).allocationFailed = true

def Stranded (s : State Irp) : Prop :=
  s.bThreadShouldQuit = true ∧ s.service.drains = false ∧ ∃ i ∈ s.listEntry, Counted late s i

/-- Requests put on the list before the stop request are completed exactly once, and the lock
of each request that counts is released exactly once. -/
def Settled (s : State Irp) : Prop :=
  (∀ i, s.early i = true → (s.completions i).length = 1) ∧
    ∀ i, Counted late s i ∨ (s.enqueue i).allocationFailed = true → s.releases i = 1

theorem Sound.enqueued_of_mem {s : State Irp} (hs : Sound s) {i : Irp} (hi : i ∈ s.listEntry) :
    (s.enqueue i).enqueued = 1 := by
  have hreleases := (hs.balanced i).releases
  have hcount := List.count_pos_iff.mpr hi
  have hmost : (s.enqueue i).enqueued ≤ 1 := by
    cases s.enqueue i <;> simp
  omega

/-- The machine has gone wrong: a lock is leaked or a request is stranded. -/
def Lost (s : State Irp) : Prop := Leaked s ∨ Stranded late s

instance Meets.decidable (s : State Irp) : ∀ a, Decidable (Meets late s a)
  | .enqueue _ _ => inferInstanceAs (Decidable (_ ∧ _))
  | .stop => inferInstanceAs (Decidable (_ → _))
  | .service _ => inferInstanceAs (Decidable True)

variable {late}

private theorem apply_setEnqueue {β : Type} (f : Enqueue → β) {s : State Irp} {irp : Irp}
    {e : Enqueue} (h : f e = f (s.enqueue irp)) (i : Irp) :
    f (Function.update s.enqueue irp e i) = f (s.enqueue i) := by
  by_cases hi : i = irp
  · rw [hi, Function.update_self, h]
  · rw [Function.update_of_ne hi]

omit [DecidableEq Irp] in
private theorem lost_of_same {s t : State Irp}
    (hfailed : ∀ i, (t.enqueue i).allocationFailed = (s.enqueue i).allocationFailed)
    (henqueued : ∀ i, (t.enqueue i).enqueued = (s.enqueue i).enqueued)
    (hlist : t.listEntry = s.listEntry) (hquit : t.bThreadShouldQuit = s.bThreadShouldQuit)
    (hdrains : t.service.drains = s.service.drains) (hearly : t.early = s.early) :
    Lost late t ↔ Lost late s := by
  simp only [Lost, Leaked, Stranded, Counted, hfailed, henqueued, hlist, hquit, hdrains, hearly]

/-- A step of a call that neither allocates nor inserts. -/
private theorem lost_setEnqueue {s t : State Irp} {irp : Irp} {b e : Enqueue}
    (hat : s.enqueue irp = b) (henqueue : t.enqueue = Function.update s.enqueue irp e)
    (hfailed : e.allocationFailed = b.allocationFailed) (henqueued : e.enqueued = b.enqueued)
    (hlist : t.listEntry = s.listEntry) (hquit : t.bThreadShouldQuit = s.bThreadShouldQuit)
    (hservice : t.service = s.service) (hearly : t.early = s.early) :
    Lost late t ↔ Lost late s := by
  refine lost_of_same (fun i => ?_) (fun i => ?_) hlist hquit (by rw [hservice]) hearly
  · rw [henqueue, apply_setEnqueue Enqueue.allocationFailed (by rw [hat, hfailed])]
  · rw [henqueue, apply_setEnqueue Enqueue.enqueued (by rw [hat, henqueued])]

/-- A request that is put on the list of a thread on its way out is stranded. -/
private theorem stranded_insert {s : State Irp} {irp : Irp} (hs : Sound s)
    (hat : s.enqueue irp = .allocated) :
    Stranded late {
        s.setEnqueue irp .inserted with
        listEntry := s.listEntry ++ [irp]
        early := Function.update s.early irp (!s.bThreadShouldQuit) } ↔
      Stranded late s ∨
        (late = true ∧ s.bThreadShouldQuit = true ∧ s.service.drains = false) := by
  have hold : ∀ i ∈ s.listEntry, i ≠ irp := by
    rintro i hi rfl
    have honce := hs.enqueued_of_mem hi
    rw [hat] at honce
    cases honce
  constructor
  · rintro ⟨hflag, hdrains, i, hi, honce, hcounted⟩
    rcases List.mem_append.mp hi with hi | hi
    · refine .inl ⟨hflag, hdrains, i, hi, hs.enqueued_of_mem hi, ?_⟩
      simpa [hold i hi] using hcounted
    · obtain rfl := List.mem_singleton.mp hi
      have hquit : s.bThreadShouldQuit = true := hflag
      exact .inr ⟨by simpa [hquit] using hcounted, hflag, hdrains⟩
  · rintro (⟨hflag, hdrains, i, hi, honce, hcounted⟩ | ⟨hlate, hflag, hdrains⟩)
    · refine ⟨hflag, hdrains, i, List.mem_append_left _ hi, ?_, ?_⟩
      · simpa [State.setEnqueue, hold i hi] using honce
      · simpa [hold i hi] using hcounted
    · exact ⟨hflag, hdrains, irp, by simp, by simp [State.setEnqueue], .inl hlate⟩

omit [DecidableEq Irp] in
private theorem lost_of_meets {s t : State Irp} {a : Action Irp} (hmeets : Meets late s a)
    (hsame : Lost late t ↔ Lost late s) : Lost late t ↔ Lost late s ∨ ¬ Meets late s a := by
  rw [hsame, or_iff_left (not_not_intro hmeets)]

private theorem lost_enqueue {s s' : State Irp} {irp : Irp} {poolAnswer : Bool} (hs : Sound s)
    (hstep : enqueueDeviceControlIrp s irp poolAnswer = some s') :
    Lost late s' ↔ Lost late s ∨ ¬ Meets late s (.enqueue irp poolAnswer) := by
  rw [enqueueDeviceControlIrp] at hstep
  split at hstep
  · next hat =>
    cases hstep
    cases poolAnswer with
    | true =>
      have hmeets : Meets late s (.enqueue irp true) := by simp [Meets, hat]
      exact lost_of_meets hmeets (lost_setEnqueue hat rfl rfl rfl rfl rfl rfl rfl)
    | false =>
      have hmeets : ¬ Meets late s (.enqueue irp false) := by simp [Meets, hat]
      have hleaked : Lost late (s.setEnqueue irp .outOfMemory) :=
        .inl ⟨irp, by simp [State.setEnqueue, Enqueue.allocationFailed]⟩
      simp [hleaked, hmeets]
  · next hat =>
    cases hstep
    have hmeets : Meets late s (.enqueue irp poolAnswer) := by simp [Meets, hat]
    exact lost_of_meets hmeets (lost_setEnqueue hat rfl rfl rfl rfl rfl rfl rfl)
  · next hat =>
    cases hstep
    have hmeets : Meets late s (.enqueue irp poolAnswer) ↔
        (late = true → s.bThreadShouldQuit = true → s.service.drains = true) := by
      simp [Meets, hat]
    have hleaked : Leaked (s.setEnqueue irp .inserted) ↔ Leaked s :=
      exists_congr fun i => by
        rw [State.setEnqueue, apply_setEnqueue Enqueue.allocationFailed (by rw [hat]; rfl)]
    refine (or_congr hleaked (stranded_insert hs hat)).trans ?_
    rw [hmeets, Lost, or_assoc, Classical.not_imp, Classical.not_imp, Bool.not_eq_true]
  · next hat =>
    obtain ⟨t, hrelease, rfl⟩ := Option.map_eq_some_iff.mp hstep
    obtain ⟨-, rfl⟩ := keReleaseSemaphore_eq_some.mp hrelease
    have hmeets : Meets late s (.enqueue irp poolAnswer) := by simp [Meets, hat]
    exact lost_of_meets hmeets (lost_setEnqueue hat rfl rfl rfl rfl rfl rfl rfl)
  · cases hstep
  · cases hstep

private theorem lost_stop {s s' : State Irp} (hs : Sound s)
    (hstep : tcStopVolumeThread s = some s') :
    Lost late s' ↔ Lost late s ∨ ¬ Meets late s .stop := by
  rw [tcStopVolumeThread] at hstep
  split at hstep
  · next hat =>
    cases hstep
    have hopen := hs.stop.mpr hat
    -- So far every request on the list came before the stop request.
    have hcounted : ∀ i ∈ s.listEntry, Counted late s i := by
      intro i hi
      have honce := hs.enqueued_of_mem hi
      exact ⟨honce, .inr ((hs.balanced i).early_of_enqueued hopen honce)⟩
    have hbefore : ¬ Stranded late s := by
      rintro ⟨hflag, -⟩
      rw [hopen] at hflag
      cases hflag
    have hafter : Stranded late { s with bThreadShouldQuit := true, stop := .flagged } ↔
        s.service.drains = false ∧ s.listEntry ≠ [] := by
      constructor
      · rintro ⟨-, hdrains, i, hi, -⟩
        exact ⟨hdrains, List.ne_nil_of_mem hi⟩
      · rintro ⟨hdrains, hlist⟩
        obtain ⟨i, hi⟩ := List.exists_mem_of_ne_nil _ hlist
        exact ⟨rfl, hdrains, i, hi, hcounted i hi⟩
    have hmeets : Meets late s .stop ↔ s.listEntry = [] ∨ s.service.drains = true := by
      simp [Meets, hat]
    rw [Lost, Lost, hafter, hmeets, or_iff_left hbefore, not_or, Bool.not_eq_true, and_comm]
    rfl
  · next hat =>
    obtain ⟨t, hrelease, rfl⟩ := Option.map_eq_some_iff.mp hstep
    obtain ⟨-, rfl⟩ := keReleaseSemaphore_eq_some.mp hrelease
    have hmeets : Meets late s .stop := by simp [Meets, hat]
    exact lost_of_meets hmeets (lost_of_same (fun _ => rfl) (fun _ => rfl) rfl rfl rfl rfl)
  · next hat =>
    have hmeets : Meets late s .stop := by simp [Meets, hat]
    split_ifs at hstep
    · cases hstep
      exact lost_of_meets hmeets (lost_of_same (fun _ => rfl) (fun _ => rfl) rfl rfl rfl rfl)
    · cases hstep
      exact lost_of_meets hmeets (lost_of_same (fun _ => rfl) (fun _ => rfl) rfl rfl rfl rfl)
  · cases hstep

private theorem lost_service {s s' : State Irp} {status : NtStatus}
    (hstep : volumeThreadProc s status = some s') : Lost late s' ↔ Lost late s := by
  rw [volumeThreadProc] at hstep
  split at hstep
  · next hat =>
    split_ifs at hstep
    cases hstep
    exact lost_of_same (fun _ => rfl) (fun _ => rfl) rfl rfl (by rw [hat]; rfl) rfl
  · next hat =>
    cases hstep
    split_ifs with hquit
    · exact lost_of_same (fun _ => rfl) (fun _ => rfl) rfl rfl (by rw [hat]; rfl) rfl
    · simp [Lost, Leaked, Stranded, hquit]
  · next hat =>
    split at hstep
    · next hlist =>
      cases hstep
      simp [Lost, Leaked, Stranded, hlist]
    · cases hstep
      simp [Lost, Leaked, Stranded, Service.drains, hat]
  · next hat =>
    cases hstep
    exact lost_of_same (fun _ => rfl) (fun _ => rfl) rfl rfl (by rw [hat]; rfl) rfl
  · next hat =>
    cases hstep
    exact lost_of_same (fun _ => rfl) (fun _ => rfl) rfl rfl (by rw [hat]; rfl) rfl
  · next hat =>
    cases hstep
    exact lost_of_same (fun _ => rfl) (fun _ => rfl) rfl rfl (by rw [hat]; rfl) rfl
  · next hat =>
    cases hstep
    refine lost_of_same (fun _ => rfl) (fun _ => rfl) rfl rfl ?_ rfl
    rw [hat]
    dsimp only
    split_ifs <;> rfl
  · next hat =>
    cases hstep
    exact lost_of_same (fun _ => rfl) (fun _ => rfl) rfl rfl (by rw [hat]; rfl) rfl
  · cases hstep

theorem lost_step (s : State Irp) (a : Action Irp) (s' : State Irp) (hs : Sound s)
    (hstep : step s a = some s') : Lost late s' ↔ Lost late s ∨ ¬ Meets late s a := by
  cases a with
  | enqueue irp poolAnswer => exact lost_enqueue hs hstep
  | stop => exact lost_stop hs hstep
  | service status => exact lost_of_meets trivial (lost_service hstep)

/-- Once the thread has terminated, nothing is settled later. -/
theorem settled_iff {s : State Irp} (hs : Sound s) (hdone : s.service = .terminated) :
    Settled late s ↔ ¬ Lost late s := by
  have hquit := hs.leaving (.inr hdone)
  have hreleases (i : Irp) := (hs.balanced i).releases
  have hcompletions (i : Irp) := (hs.balanced i).completions
  simp only [hdone, Service.uncompleted, Service.unreleased] at hreleases hcompletions
  constructor
  · rintro ⟨-, hreleased⟩ (⟨i, hi⟩ | ⟨-, -, i, hi, hcounted⟩)
    · have hone := hreleased i (.inr hi)
      have hnever : (s.enqueue i).enqueued = 0 := by
        revert hi
        cases s.enqueue i <;> simp [Enqueue.allocationFailed]
      have hlaw := hreleases i
      omega
    · have hone := hreleased i (.inl hcounted)
      have honce := hcounted.1
      have hcount := List.count_pos_iff.mpr hi
      have hlaw := hreleases i
      omega
  · intro hlost
    have hfetched (i : Irp) (hi : Counted late s i) : s.listEntry.count i = 0 := by
      apply List.count_eq_zero.mpr
      intro hmem
      exact hlost (.inr ⟨hquit, by rw [hdone]; rfl, i, hmem, hi⟩)
    constructor
    · intro i hi
      have honce := (hs.balanced i).enqueued_of_early hi
      have hzero := hfetched i ⟨honce, .inr hi⟩
      have hrefused : (s.enqueue i).refused = 0 := by
        revert honce
        cases s.enqueue i <;> simp
      have hlaw := hcompletions i
      omega
    · rintro i (hcounted | hfailed)
      · have honce := hcounted.1
        have hzero := hfetched i hcounted
        have hlaw := hreleases i
        omega
      · exact absurd (.inl ⟨i, hfailed⟩) hlost

end Stopping

/-- No request is ever completed twice, and no lock released twice. -/
theorem at_most_once {peThread : Bool} {as : List (Action Irp)} {s : State Irp}
    (hrun : run step (State.init peThread) as = some s) (i : Irp) :
    (s.completions i).length ≤ 1 ∧ s.releases i ≤ 1 := by
  have hs : Sound s := invariant_run sound_step (sound_init peThread) hrun
  have hcompletions := (hs.balanced i).completions
  have hreleases := (hs.balanced i).releases
  have hmost : (s.enqueue i).enqueued + (s.enqueue i).refused ≤ 1 := by
    cases s.enqueue i <;> simp
  omega

omit [DecidableEq Irp] in
theorem not_lost_init (late peThread : Bool) : ¬ Lost late (State.init peThread : State Irp) := by
  rintro (⟨i, hi⟩ | ⟨hquit, -⟩)
  · cases hi
  · cases hquit

/-- When the thread has terminated, the requests are settled exactly when no allocation
failed and the stop request found an empty list or a thread that was emptying it; the second
part leaves out the requests that came after the stop request. -/
theorem settled_iff_along {peThread : Bool} {as : List (Action Irp)} {s : State Irp}
    (hrun : run step (State.init peThread) as = some s) (hdone : s.service = .terminated) :
    (Settled true s ↔ Along step (Meets true) (State.init peThread) as) ∧
      (Settled false s ↔ Along step (Meets false) (State.init peThread) as) := by
  have hs : Sound s := invariant_run sound_step (sound_init peThread) hrun
  have hside (late : Bool) :
      Settled late s ↔ Along step (Meets late) (State.init peThread) as := by
    rw [settled_iff hs hdone, bad_run_iff sound_step lost_step (sound_init peThread) hrun,
      or_iff_right (not_lost_init late peThread), not_not]
  exact ⟨hside true, hside false⟩

/-- One request is served, then the thread is stopped. -/
def servedThenStopped : List (Action ℕ) :=
  List.replicate 3 (.enqueue 7 true) ++ List.replicate 8 (.service statusSuccess) ++
    List.replicate 2 .stop ++ List.replicate 3 (.service statusSuccess) ++ [.stop]

theorem settled_servedThenStopped :
    ∃ s : State ℕ, run step (State.init true) servedThenStopped = some s ∧
      s.completions 7 = [statusSuccess] ∧ s.releases 7 = 1 ∧ Settled true s ∧ Settled false s := by
  obtain ⟨s, hrun, hdone, hcompletions, hreleases⟩ :
      ∃ s : State ℕ, run step (State.init true) servedThenStopped = some s ∧
        s.service = .terminated ∧ s.completions 7 = [statusSuccess] ∧ s.releases 7 = 1 :=
    ⟨_, rfl, rfl, rfl, rfl⟩
  have hsettled := settled_iff_along hrun hdone
  exact ⟨s, hrun, hcompletions, hreleases, hsettled.1.mpr (by decide),
    hsettled.2.mpr (by decide)⟩

/-- A request is put on the list and the stop request follows before the thread wakes up. -/
def stoppedBeforeDrain : List (Action ℕ) :=
  List.replicate 3 (.enqueue 7 true) ++ List.replicate 2 .stop ++
    List.replicate 3 (.service statusSuccess) ++ [.stop]

/-- A request meets an empty pool; the thread is stopped later. -/
def poolExhausted : List (Action ℕ) :=
  List.replicate 2 (.enqueue 7 false) ++ List.replicate 2 .stop ++
    List.replicate 3 (.service statusSuccess) ++ [.stop]

/-- The first request is never completed, the lock of the second is never released. -/
theorem stoppedBeforeDrain_lost :
    (∃ s : State ℕ, run step (State.init true) stoppedBeforeDrain = some s ∧
      s.service = .terminated ∧ s.early 7 = true ∧ s.completions 7 = [] ∧ s.releases 7 = 0 ∧
      ¬ Settled true s ∧ ¬ Settled false s) ∧
    ∃ s : State ℕ, run step (State.init true) poolExhausted = some s ∧
      s.service = .terminated ∧ s.completions 7 = [statusInsufficientResources] ∧
      s.releases 7 = 0 ∧ ¬ Settled true s ∧ ¬ Settled false s := by
  constructor
  · obtain ⟨s, hrun, hdone, hearly, hcompletions, hreleases⟩ :
        ∃ s : State ℕ, run step (State.init true) stoppedBeforeDrain = some s ∧
          s.service = .terminated ∧ s.early 7 = true ∧ s.completions 7 = [] ∧ s.releases 7 = 0 :=
      ⟨_, rfl, rfl, rfl, rfl, rfl⟩
    have hunsettled (late : Bool) : ¬ Settled late s := by
      intro h
      have hone := h.1 7 hearly
      rw [hcompletions] at hone
      cases hone
    exact ⟨s, hrun, hdone, hearly, hcompletions, hreleases, hunsettled true, hunsettled false⟩
  · obtain ⟨s, hrun, hdone, hfailed, hcompletions, hreleases⟩ :
        ∃ s : State ℕ, run step (State.init true) poolExhausted = some s ∧
          s.service = .terminated ∧ (s.enqueue 7).allocationFailed = true ∧
          s.completions 7 = [statusInsufficientResources] ∧ s.releases 7 = 0 :=
      ⟨_, rfl, rfl, rfl, rfl, rfl⟩
    have hunsettled (late : Bool) : ¬ Settled late s := by
      intro h
      have hone := h.2 7 (.inr hfailed)
      rw [hreleases] at hone
      cases hone
    exact ⟨s, hrun, hdone, hcompletions, hreleases, hunsettled true, hunsettled false⟩

end Oxhide.VolumeThread
