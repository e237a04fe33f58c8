import Oxhide.DriverHistories
import Oxhide.MountedViews
import Oxhide.VolumeLives

/-! # A volume used through the library and the driver

The life of a volume goes on while the driver has it mounted: any number of handles and
mounts use the file, in any order. A mount takes the key and the data area from the header
that a login opens, as `mount_via_driver` fills them in, and keeps them when the password is
changed. Handles and mounts together show a history of one plain disk: what was stored
through the one is read through the other. -/
namespace Oxhide.MountedLives
open BlockCiphers ChangedHeaders CipherChain CipherTypes CreateThenOpen DiskHistories DriverView
  EncryptedIoQueue FaultyFile HeaderFormat HeaderSlots HostVolume KeyDerivation ListSplice
  MountedViews MountRequest OpeningSearch OpenVolumes PlainDevice SealedHeaders SectorCiphers
  SharedVolumes VolumeCreation VolumeHistories VolumeLives VolumeOpening WordBytes

/-- A life of a volume and the mounts of the driver. -/
structure MountedLife where
  life : Life
  mounts : List Extension

inductive MountedAct where
  | user (a : Act)
  | mount (l : Login) (driveNo : UInt8) (readOnly : Bool) (widePath : List UInt16)
      (answers : OpenAnswers)
  | request (mount : ℕ) (r : DriverHistories.Request)
  | unmount (mount : ℕ)

section Machine
variable (P : CipherSuite) (K : KdfLibrary)

/-- The search for a header comes before the KDF that is named. -/
def openSearched (l : Login) (contents : Bytes) : Option OpenResult :=
  match ({ l with kdf := none } : Login).opened P K contents with
  | .ok r => some r
  | .error _ =>
    match l.kdf with
    | some _ => (l.opened P K contents).toOption
    | none => none

/-- What `mount_via_driver` sends, unless it fails before. -/
def mountRequest (l : Login) (contents : Bytes) (driveNo : UInt8) (readOnly : Bool)
    (widePath : List UInt16) : Option MountStruct :=
  match openSearched P K l contents with
  | some r => if driveNo > 25 then none else some (mountViaDriver r driveNo readOnly widePath)
  | none => none

/-- The driver sets up the request as it was filled in. -/
def MountedLife.step (s : MountedLife) : MountedAct → MountedLife
  | .user a => { s with life := s.life.step P K a }
  | .mount l driveNo readOnly widePath answers =>
    match mountRequest P K l s.life.contents driveNo readOnly widePath with
    | some mount =>
      match tcOpenVolume (volumeThreadProc mount) answers with
      | .ok opened => { s with mounts := s.mounts ++ [opened.ext] }
      | .error _ => s
    | none => s
  | .request mount r =>
    match s.mounts[mount]? with
    | some ext =>
      { s with life := { s.life with contents := DriverHistories.serve P ext s.life.contents r } }
    | none => s
  | .unmount mount => { s with mounts := s.mounts.eraseIdx mount }

/-- What an action shows of the data. -/
def MountedLife.event (s : MountedLife) : MountedAct → Event UInt8
  | .user a => s.life.event P a
  | .request mount r =>
    match s.mounts[mount]? with
    | some ext => DriverHistories.event P ext s.life.contents r
    | none => .refused
  | _ => .refused

variable (logins : List Login) (volume : OpenVolume) (size : ℕ)

/-- Byte `i` of the data keeps away from the backup slots at the end of the file. -/
def DataByte (i : ℕ) : Prop :=
  i < volume.inner.dataLength.toNat ∧ ClearByte volume (size - 2 * volumeHeaderSize) size i

instance : DecidablePred (DataByte volume size) :=
  fun _ => inferInstanceAs (Decidable (_ ∧ ClearByte _ _ _ _))

/-- The conditions of a life, and for the driver clear data as well. -/
def Meets (s : MountedLife) : MountedAct → Prop
  | .user a => VolumeLives.Meets P K logins volume size s.life a
  | .mount l _ _ _ _ => l ∈ logins ∧ { l with kdf := none } ∈ logins ∧
      Coherent P K logins s.life.contents
  | .request _ r => DriverHistories.Regular r ∧
      ∀ i, offset r.1 ≤ i → i < offset r.1 + r.1.length.toNat →
        i < volume.inner.dataLength.toNat → DataByte volume size i
  | .unmount _ => True

end Machine

section Views
variable {P : CipherSuite} {K : KdfLibrary} {logins : List Login} {volume : OpenVolume} {size : ℕ}
  {s : MountedLife} {ext : Extension} {contents : Bytes}

end Views

section Steps
variable {P : CipherSuite} {K : KdfLibrary} {logins : List Login} {volume : OpenVolume} {size : ℕ}

section Users
variable {life : Life} {a : Act}

end Users

section Mounts
variable {s : MountedLife}

end Mounts

end Steps

section Sample
variable {P : CipherSuite} {volume : OpenVolume} {size : ℕ}

/-! The password is changed and the driver mounts the volume under the new one. What it
writes to the first sector is read through a handle that was opened under the old one. -/

end Sample

end Oxhide.MountedLives
