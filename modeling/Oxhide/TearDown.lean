import Oxhide.MaxSelection
import Oxhide.Runs
import Mathlib.Data.Fintype.Fin
import Mathlib.Data.List.FinRange

/-! # Tearing all volumes down

`TC_IOCTL_UNMOUNT_ALL_VOLUMES` repeatedly unmounts the volume with the largest id, so that
a volume goes before those that were mounted earlier. `IRP_MJ_SHUTDOWN` has a loop of its
own, which takes the drive letters in order. The ids come from a counter of 32 bits. -/
namespace Oxhide.TearDown
open MaxSelection Runs

abbrev maxDrive : ℕ := 26

/-- What the device extension of a mounted volume says about its mount. -/
structure VolumeDevice where
  uniqueVolumeId : Int32
  /-- The number of the mount, which the id stands for and no code reads. -/
  mountNo : ℕ
  deriving DecidableEq, Repr

/-- The table of volume devices, by drive number; null or a device. -/
abbrev Volumes := Fin maxDrive → Option VolumeDevice

/-- The drives whose volume thread was stopped and whose device was deleted, in order. -/
abbrev Trace := List (Fin maxDrive)

section Loops

/-- The rest of the tear-down of one volume goes with its trace entry. -/
def unmountDevice (volumes : Volumes) (driveNo : Fin maxDrive) : Volumes × Trace :=
  match volumes driveNo with
  | none => (volumes, [])
  | some _ => (Function.update volumes driveNo none, [driveNo])

/-- The snapshot taken at the start, with zero for an empty slot. -/
def snapshotIds (volumes : Volumes) : Fin maxDrive → Int32 := fun i =>
  match volumes i with
  | none => 0
  | some volume => volume.uniqueVolumeId

/-- The scan of one pass; the index `MAX_DRIVE` for no volume is `none`. -/
def maxIdx (ids : Fin maxDrive → Int32) (volumes : Volumes) : Option (Fin maxDrive) :=
  search (fun i => (volumes i).isSome) ids (-1) (List.finRange maxDrive)

def unmountPasses (ids : Fin maxDrive → Int32) : ℕ → Volumes → Volumes × Trace
  | 0, volumes => (volumes, [])
  | n + 1, volumes =>
    match maxIdx ids volumes with
    | none => unmountPasses ids n volumes
    | some idx =>
      let (volumes, first) := unmountDevice volumes idx
      let (volumes, rest) := unmountPasses ids n volumes
      (volumes, first ++ rest)

def handleUnmountAllVolumes (volumes : Volumes) : Volumes × Trace :=
  unmountPasses (snapshotIds volumes) maxDrive volumes

/-- The loop over the drives in `dispatch_root`. -/
def shutdownLoop : List (Fin maxDrive) → Volumes → Volumes × Trace
  | [], volumes => (volumes, [])
  | i :: is, volumes =>
    let (volumes, first) := unmountDevice volumes i
    let (volumes, rest) := shutdownLoop is volumes
    (volumes, first ++ rest)

/-- `IRP_MJ_SHUTDOWN` on the root device, which so never comes to `process_root_device_irp`. -/
def dispatchRootShutdown (volumes : Volumes) : Volumes × Trace :=
  shutdownLoop (List.finRange maxDrive) volumes

@[simp]
theorem unmountDevice_volumes (volumes : Volumes) (driveNo : Fin maxDrive) :
    (unmountDevice volumes driveNo).1 = Function.update volumes driveNo none := by
  rw [unmountDevice]
  cases h : volumes driveNo with
  | none => exact (Function.update_eq_self_iff.mpr h.symm).symm
  | some _ => rfl

@[simp]
theorem unmountDevice_trace (volumes : Volumes) (driveNo : Fin maxDrive) :
    (unmountDevice volumes driveNo).2 = if (volumes driveNo).isSome then [driveNo] else [] := by
  rw [unmountDevice]
  cases volumes driveNo with
  | none => rfl
  | some _ => rfl

private theorem isSome_update (volumes : Volumes) (i : Fin maxDrive) :
    (fun j => (Function.update volumes i none j).isSome) =
      Function.update (fun j => (volumes j).isSome) i false := by
  funext j
  by_cases hj : j = i
  · subst hj
    simp
  · simp [hj]

private theorem rank_lt (a b : Int32) : a < b ↔ a.toInt < b.toInt := Int32.lt_iff_toInt_lt

private theorem unmountPasses_trace (ids : Fin maxDrive → Int32) (n : ℕ) (volumes : Volumes) :
    (unmountPasses ids n volumes).2 =
      drain ids (-1) (List.finRange maxDrive) n fun i => (volumes i).isSome := by
  induction n generalizing volumes with
  | zero => rfl
  | succ n ih =>
    rw [unmountPasses, drain, maxIdx]
    cases hsearch : search (fun i => (volumes i).isSome) ids (-1) (List.finRange maxDrive) with
    | none => exact ih volumes
    | some idx =>
      have hlive := (search_eq_some rank_lt hsearch).1
      simp [hlive, ih, isSome_update]

private theorem unmountPasses_volumes (ids : Fin maxDrive → Int32) (n : ℕ) (volumes : Volumes)
    (i : Fin maxDrive) :
    (unmountPasses ids n volumes).1 i =
      if i ∈ (unmountPasses ids n volumes).2 then none else volumes i := by
  induction n generalizing volumes with
  | zero => simp [unmountPasses]
  | succ n ih =>
    rw [unmountPasses]
    cases hsearch : maxIdx ids volumes with
    | none => exact ih volumes
    | some idx =>
      have hlive := (search_eq_some rank_lt hsearch).1
      simp only [ih, unmountDevice_volumes, unmountDevice_trace, hlive, if_true]
      by_cases hi : i = idx
      · subst hi
        simp
      · simp [hi]

/-- The drives that the passes reach: ids above the sentinel only. -/
theorem handleUnmountAllVolumes_spec (volumes : Volumes) :
    (handleUnmountAllVolumes volumes).2.Nodup ∧
      (∀ i, i ∈ (handleUnmountAllVolumes volumes).2 ↔
        ∃ v ∈ volumes i, 0 ≤ v.uniqueVolumeId) ∧
      (handleUnmountAllVolumes volumes).2.Pairwise fun i j =>
        snapshotIds volumes j ≤ snapshotIds volumes i := by
  have hcard : (eligible Int32.toInt (snapshotIds volumes) (-1)
      fun i => (volumes i).isSome).card ≤ maxDrive := by
    have h := Finset.card_le_univ (eligible Int32.toInt (snapshotIds volumes) (-1)
      fun i => (volumes i).isSome)
    rw [Fintype.card_fin] at h
    exact h
  obtain ⟨hnodup, hmem, hsorted⟩ :=
    drain_spec rank_lt (List.mem_finRange (n := maxDrive)) maxDrive _ hcard
  rw [handleUnmountAllVolumes, unmountPasses_trace]
  refine ⟨hnodup, ?_, ?_⟩
  · intro i
    rw [hmem, mem_eligible]
    cases hi : volumes i with
    | none => simp
    | some v =>
      simp only [snapshotIds, hi, Option.isSome_some, Option.mem_some_iff, exists_eq_left',
        true_and]
      rw [Int32.le_iff_toInt_le]
      change -1 < v.uniqueVolumeId.toInt ↔ 0 ≤ v.uniqueVolumeId.toInt
      omega
  · apply hsorted.imp
    intro i j hij
    exact Int32.le_iff_toInt_le.mpr hij

private theorem shutdownLoop_trace (is : List (Fin maxDrive)) (his : is.Nodup)
    (volumes : Volumes) :
    (shutdownLoop is volumes).2 = is.filter fun i => (volumes i).isSome := by
  induction is generalizing volumes with
  | nil => rfl
  | cons i is ih =>
    obtain ⟨hnew, his⟩ := List.nodup_cons.mp his
    have hrest : is.filter (fun j => (Function.update volumes i none j).isSome) =
        is.filter fun j => (volumes j).isSome := by
      apply List.filter_congr
      intro j hj
      have hji : j ≠ i := fun h => hnew (h ▸ hj)
      rw [Function.update_of_ne hji]
    simp only [shutdownLoop, unmountDevice_volumes, unmountDevice_trace, ih his, hrest]
    by_cases hi : (volumes i).isSome
    · simp [hi]
    · simp [hi]

/-- The shutdown goes by drive letter, whatever the ids are. -/
theorem dispatchRootShutdown_trace (volumes : Volumes) :
    (dispatchRootShutdown volumes).2 =
      (List.finRange maxDrive).filter fun i => (volumes i).isSome :=
  shutdownLoop_trace _ (List.nodup_finRange maxDrive) volumes

theorem handleUnmountAllVolumes_volumes (volumes : Volumes) :
    (handleUnmountAllVolumes volumes).1 =
      fun i => if i ∈ (handleUnmountAllVolumes volumes).2 then none else volumes i := by
  funext i
  exact unmountPasses_volumes (snapshotIds volumes) maxDrive volumes i

end Loops

section Order

/-- `v` was mounted later than `w` and has the larger id. -/
def MountedLater (v w : VolumeDevice) : Prop :=
  w.uniqueVolumeId < v.uniqueVolumeId ∧ w.mountNo < v.mountNo

/-- Every mounted volume once, the last mounted first. -/
structure ReverseOrder (volumes : Volumes) (order : Trace) : Prop where
  once : order.Nodup
  all : ∀ i, i ∈ order ↔ (volumes i).isSome
  decreasing : order.Pairwise fun i j => ∀ v ∈ volumes i, ∀ w ∈ volumes j, MountedLater v w

def UnmountsAll (volumes : Volumes) : Prop :=
  ReverseOrder volumes (handleUnmountAllVolumes volumes).2 ∧
    (handleUnmountAllVolumes volumes).1 = fun _ => none

/-- What is expected of a mount table: both ways to tear it down are the reverse mount order. -/
def TearsDownInOrder (volumes : Volumes) : Prop :=
  UnmountsAll volumes ∧
    (dispatchRootShutdown volumes).2 = (handleUnmountAllVolumes volumes).2

/-- No id is negative, and the ids compare as the mounts. -/
structure IdsOrdered (volumes : Volumes) : Prop where
  nonneg : ∀ i, ∀ v ∈ volumes i, 0 ≤ v.uniqueVolumeId
  total : ∀ i j, i ≠ j → ∀ v ∈ volumes i, ∀ w ∈ volumes j, MountedLater v w ∨ MountedLater w v

/-- No id is negative, and the volumes were mounted from the last drive letter to the first. -/
structure DrivesDescend (volumes : Volumes) : Prop where
  nonneg : ∀ i, ∀ v ∈ volumes i, 0 ≤ v.uniqueVolumeId
  later : ∀ i j, i < j → ∀ v ∈ volumes i, ∀ w ∈ volumes j, MountedLater v w

/-- What a list without repetitions says of each pair of its members. -/
private theorem pair_of_pairwise {ι : Type} {R : ι → ι → Prop} {l : List ι} (h : l.Pairwise R)
    {i j : ι} (hi : i ∈ l) (hj : j ∈ l) (hij : i ≠ j) : R i j ∨ R j i := by
  have : Std.Symm fun i j => R i j ∨ R j i := ⟨fun _ _ hor => hor.symm⟩
  have hor : l.Pairwise fun i j => R i j ∨ R j i := h.imp Or.inl
  exact hor.forall hi hj hij

private theorem snapshotIds_of_mem {volumes : Volumes} {i : Fin maxDrive} {v : VolumeDevice}
    (h : v ∈ volumes i) : snapshotIds volumes i = v.uniqueVolumeId := by
  rw [snapshotIds, Option.mem_def.mp h]

/-- When the passes tear a table down in the reverse mount order. -/
theorem unmountsAll_iff (volumes : Volumes) : UnmountsAll volumes ↔ IdsOrdered volumes := by
  obtain ⟨hnodup, hmem, hsorted⟩ := handleUnmountAllVolumes_spec volumes
  constructor
  · rintro ⟨horder, -⟩
    have hlive : ∀ i, ∀ v ∈ volumes i, i ∈ (handleUnmountAllVolumes volumes).2 := by
      intro i v hv
      exact (horder.all i).mpr (Option.isSome_of_mem hv)
    refine ⟨?_, ?_⟩
    · intro i v hv
      obtain ⟨v', hv', hnonneg⟩ := (hmem i).mp (hlive i v hv)
      cases Option.mem_unique hv hv'
      exact hnonneg
    · intro i j hij v hv w hw
      rcases pair_of_pairwise horder.decreasing (hlive i v hv) (hlive j w hw) hij with h | h
      · exact .inl (h v hv w hw)
      · exact .inr (h w hw v hv)
  · intro hids
    have hall : ∀ i, i ∈ (handleUnmountAllVolumes volumes).2 ↔ (volumes i).isSome := by
      intro i
      rw [hmem, Option.isSome_iff_exists]
      constructor
      · rintro ⟨v, hv, -⟩
        exact ⟨v, hv⟩
      · rintro ⟨v, hv⟩
        exact ⟨v, hv, hids.nonneg i v hv⟩
    refine ⟨⟨hnodup, hall, ?_⟩, ?_⟩
    · refine (hnodup.and hsorted).imp ?_
      rintro i j ⟨hij, hle⟩ v hv w hw
      rw [snapshotIds_of_mem hv, snapshotIds_of_mem hw] at hle
      rcases hids.total i j hij v hv w hw with h | h
      · exact h
      · exact absurd hle (Int32.not_le.mpr h.1)
    · rw [handleUnmountAllVolumes_volumes]
      funext i
      by_cases hi : (volumes i).isSome
      · rw [if_pos ((hall i).mpr hi)]
      · rw [if_neg fun h => hi ((hall i).mp h), Option.not_isSome_iff_eq_none.mp hi]

/-- When both ways agree: only if the drive letters go against the mount order. -/
theorem tearsDownInOrder_iff (volumes : Volumes) :
    TearsDownInOrder volumes ↔ DrivesDescend volumes := by
  have hletters : (dispatchRootShutdown volumes).2.Pairwise (· < ·) := by
    rw [dispatchRootShutdown_trace]
    exact (List.pairwise_lt_finRange maxDrive).filter _
  have hmem : ∀ i, i ∈ (dispatchRootShutdown volumes).2 ↔ (volumes i).isSome := by
    intro i
    simp [dispatchRootShutdown_trace]
  constructor
  · rintro ⟨hall, hsame⟩
    have hids := (unmountsAll_iff volumes).mp hall
    refine ⟨hids.nonneg, ?_⟩
    intro i j hij v hv w hw
    have hi : i ∈ (handleUnmountAllVolumes volumes).2 :=
      (hall.1.all i).mpr (Option.isSome_of_mem hv)
    have hj : j ∈ (handleUnmountAllVolumes volumes).2 :=
      (hall.1.all j).mpr (Option.isSome_of_mem hw)
    rw [hsame] at hletters
    rcases pair_of_pairwise (hletters.and hall.1.decreasing) hi hj hij.ne with h | h
    · exact h.2 v hv w hw
    · exact absurd h.1 hij.asymm
  · intro hdescend
    have hall : UnmountsAll volumes := by
      apply (unmountsAll_iff volumes).mpr
      refine ⟨hdescend.nonneg, ?_⟩
      intro i j hij v hv w hw
      rcases lt_or_gt_of_ne hij with h | h
      · exact .inl (hdescend.later i j h v hv w hw)
      · exact .inr (hdescend.later j i h w hw v hv)
    have hsorted : (handleUnmountAllVolumes volumes).2.Pairwise (· < ·) := by
      refine (hall.1.once.and hall.1.decreasing).imp_of_mem ?_
      rintro i j hi hj ⟨hij, hlater⟩
      obtain ⟨v, hv⟩ := Option.isSome_iff_exists.mp ((hall.1.all i).mp hi)
      obtain ⟨w, hw⟩ := Option.isSome_iff_exists.mp ((hall.1.all j).mp hj)
      rcases lt_or_gt_of_ne hij with h | h
      · exact h
      · exact absurd (hlater v hv w hw).2 (hdescend.later j i h w hw v hv).2.asymm
    refine ⟨hall, hletters.eq_of_mem_iff hsorted ?_⟩
    intro i
    rw [hmem, hall.1.all]

end Order

section Runs

structure Driver where
  volumeDevices : Volumes
  lastVolumeId : Int32
  /-- How many ids were given out. -/
  mounts : ℕ

def Driver.init : Driver := ⟨fun _ => none, 0, 0⟩

inductive Action where
  | mount (driveNo : Fin maxDrive)
  /-- A mount that fails behind `next_volume_id`. -/
  | mountFailed
  | unmount (driveNo : Fin maxDrive)
  deriving DecidableEq, Repr

/-- The counter wraps; a checked build stops there. -/
def nextVolumeId (s : Driver) : Int32 × Driver :=
  (s.lastVolumeId + 1, { s with lastVolumeId := s.lastVolumeId + 1, mounts := s.mounts + 1 })

/-- A volume can be mounted on a free drive only. -/
def step (s : Driver) : Action → Option Driver
  | .mount driveNo =>
    if (s.volumeDevices driveNo).isSome then none
    else
      let (id, s) := nextVolumeId s
      some { s with volumeDevices := Function.update s.volumeDevices driveNo (some ⟨id, s.mounts⟩) }
  | .mountFailed => some (nextVolumeId s).2
  | .unmount driveNo => some { s with volumeDevices := (unmountDevice s.volumeDevices driveNo).1 }

/-- The id of a volume is the number of its mount in 32 bits. -/
structure Inv (s : Driver) : Prop where
  counter : s.lastVolumeId = Int32.ofNat s.mounts
  id : ∀ i volume, s.volumeDevices i = some volume →
    volume.uniqueVolumeId = Int32.ofNat volume.mountNo ∧ volume.mountNo ≤ s.mounts
  distinct : ∀ i j volume, s.volumeDevices i = some volume →
    ∀ volume', s.volumeDevices j = some volume' → volume.mountNo = volume'.mountNo → i = j

theorem inv_init : Inv Driver.init :=
  ⟨rfl, fun _ _ h => (Option.some_ne_none _ h.symm).elim,
    fun _ _ _ h => (Option.some_ne_none _ h.symm).elim⟩

/-- `next_volume_id` keeps the invariant, whether or not the mount succeeds. -/
private theorem inv_nextVolumeId {s : Driver} (h : Inv s) : Inv (nextVolumeId s).2 := by
  refine ⟨?_, ?_, h.distinct⟩
  · simp only [nextVolumeId]
    rw [h.counter, Int32.ofNat_add]
    rfl
  · intro i volume hi
    obtain ⟨hid, hle⟩ := h.id i volume hi
    exact ⟨hid, Nat.le_succ_of_le hle⟩

private theorem update_eq_some {volumes : Volumes} {driveNo i : Fin maxDrive}
    {device : Option VolumeDevice} {volume : VolumeDevice}
    (h : Function.update volumes driveNo device i = some volume) :
    i = driveNo ∧ volume ∈ device ∨ i ≠ driveNo ∧ volumes i = some volume := by
  by_cases hi : i = driveNo
  · subst hi
    rw [Function.update_self] at h
    exact .inl ⟨rfl, h⟩
  · rw [Function.update_of_ne hi] at h
    exact .inr ⟨hi, h⟩

/-- A table whose volumes were all there before, or are the one just mounted. -/
private theorem inv_update {s : Driver} (h : Inv s) (driveNo : Fin maxDrive)
    (device : Option VolumeDevice)
    (hid : ∀ volume ∈ device,
      volume.uniqueVolumeId = Int32.ofNat volume.mountNo ∧ volume.mountNo ≤ s.mounts)
    (hnew : ∀ volume ∈ device, ∀ i volume', s.volumeDevices i = some volume' →
      volume'.mountNo ≠ volume.mountNo) :
    Inv { s with volumeDevices := Function.update s.volumeDevices driveNo device } := by
  refine ⟨h.counter, ?_, ?_⟩
  · intro i volume hi
    rcases update_eq_some hi with ⟨-, hdevice⟩ | ⟨-, hold⟩
    · exact hid volume hdevice
    · exact h.id i volume hold
  · intro i j volume hi volume' hj hno
    rcases update_eq_some hi with ⟨rfl, hdevice⟩ | ⟨-, hold⟩
    · rcases update_eq_some hj with ⟨rfl, -⟩ | ⟨-, hold'⟩
      · rfl
      · exact absurd hno.symm (hnew volume hdevice j volume' hold')
    · rcases update_eq_some hj with ⟨rfl, hdevice'⟩ | ⟨-, hold'⟩
      · exact absurd hno (hnew volume' hdevice' i volume hold)
      · exact h.distinct i j volume hold volume' hold' hno

theorem inv_step (s : Driver) (a : Action) (s' : Driver) (h : Inv s) (hstep : step s a = some s') :
    Inv s' := by
  have hnext := inv_nextVolumeId h
  cases a with
  | mount driveNo =>
    simp only [step, Option.ite_none_left_eq_some, Option.some.injEq] at hstep
    obtain ⟨-, rfl⟩ := hstep
    apply inv_update hnext
    · intro volume hvolume
      cases hvolume
      exact ⟨hnext.counter, le_rfl⟩
    · intro volume hvolume i volume' hi
      cases hvolume
      exact (Nat.lt_succ_of_le (h.id i volume' hi).2).ne
  | mountFailed =>
    cases hstep
    exact hnext
  | unmount driveNo =>
    simp only [step, unmountDevice_volumes, Option.some.injEq] at hstep
    subst hstep
    apply inv_update h
    · intro volume hvolume
      cases hvolume
    · intro volume hvolume
      cases hvolume

/-- Before the counter wraps the ids compare as the mounts. -/
theorem idsOrdered_of_inv {s : Driver} (h : Inv s) (hmounts : s.mounts < 2 ^ 31) :
    IdsOrdered s.volumeDevices := by
  have hint : ∀ i volume, s.volumeDevices i = some volume →
      volume.uniqueVolumeId.toInt = volume.mountNo := by
    intro i volume hi
    obtain ⟨hid, hle⟩ := h.id i volume hi
    rw [hid]
    exact Int32.toInt_ofNat_of_lt (hle.trans_lt hmounts)
  refine ⟨?_, ?_⟩
  · intro i volume hi
    have hzero : (0 : Int32).toInt = 0 := rfl
    rw [Int32.le_iff_toInt_le, hzero, hint i volume hi]
    exact Int.natCast_nonneg volume.mountNo
  · intro i j hij v hv w hw
    have hno : v.mountNo ≠ w.mountNo := fun hno => hij (h.distinct i j v hv w hw hno)
    rw [MountedLater, MountedLater, Int32.lt_iff_toInt_lt, Int32.lt_iff_toInt_lt, hint i v hv,
      hint j w hw]
    omega

/-- In every run: `TC_IOCTL_UNMOUNT_ALL_VOLUMES` goes by the reverse mount order until the
counter wraps, and `IRP_MJ_SHUTDOWN` agrees with it only where the drive letters happen to. -/
theorem tearsDownInOrder_run_iff {s : Driver} {actions : List Action}
    (hrun : run step Driver.init actions = some s) :
    (TearsDownInOrder s.volumeDevices ↔ DrivesDescend s.volumeDevices) ∧
      (s.mounts < 2 ^ 31 → UnmountsAll s.volumeDevices) := by
  refine ⟨tearsDownInOrder_iff s.volumeDevices, ?_⟩
  intro hmounts
  have hinv := invariant_run inv_step inv_init hrun
  exact (unmountsAll_iff s.volumeDevices).mpr (idsOrdered_of_inv hinv hmounts)

theorem tearsDownInOrder_run_iff_descending :
    ∃ s, run step Driver.init [.mount 3, .mountFailed, .mount 1] = some s ∧
      (TearsDownInOrder s.volumeDevices ↔ DrivesDescend s.volumeDevices) ∧
      (s.mounts < 2 ^ 31 → UnmountsAll s.volumeDevices) :=
  ⟨_, rfl, @tearsDownInOrder_run_iff _ [.mount 3, .mountFailed, .mount 1] rfl⟩

/-- Two volumes mounted in the order of their letters. -/
theorem ascending_not_tearsDownInOrder :
    ∃ s, run step Driver.init [.mount 0, .mount 1] = some s ∧
      (handleUnmountAllVolumes s.volumeDevices).2 = [1, 0] ∧
      (dispatchRootShutdown s.volumeDevices).2 = [0, 1] ∧
      ¬ TearsDownInOrder s.volumeDevices := by
  have hpasses : (run step Driver.init [.mount 0, .mount 1]).map
      (fun s => (handleUnmountAllVolumes s.volumeDevices).2) = some [1, 0] := by decide +kernel
  have hshutdown : (run step Driver.init [.mount 0, .mount 1]).map
      (fun s => (dispatchRootShutdown s.volumeDevices).2) = some [0, 1] := by decide +kernel
  obtain ⟨s, hrun⟩ : ∃ s, run step Driver.init [.mount 0, .mount 1] = some s := ⟨_, rfl⟩
  rw [hrun] at hpasses hshutdown
  have hpasses : (handleUnmountAllVolumes s.volumeDevices).2 = [1, 0] := Option.some.inj hpasses
  have hshutdown : (dispatchRootShutdown s.volumeDevices).2 = [0, 1] := Option.some.inj hshutdown
  refine ⟨s, hrun, hpasses, hshutdown, ?_⟩
  rintro ⟨-, hsame⟩
  rw [hpasses, hshutdown] at hsame
  exact absurd hsame (by decide)

end Runs

end Oxhide.TearDown
