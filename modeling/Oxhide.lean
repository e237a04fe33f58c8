import Oxhide.ListSplice
import Oxhide.WordBytes
import Oxhide.ListBlocks
import Oxhide.CheckedWords
import Oxhide.InPlaceBuffer
import Oxhide.ExceptLists
import Oxhide.CipherTypes
import Oxhide.BlockCiphers
import Oxhide.Xts
import Oxhide.BinaryPolynomials
import Oxhide.XtsField
import Oxhide.BinaryFields
import Oxhide.TwofishTables
import Oxhide.CipherChain
import Oxhide.TwofishBlocks
import Oxhide.TwofishStandard
import Oxhide.VolumeErrors
import Oxhide.SectorCiphers
import Oxhide.Rounding
import Oxhide.SectorIo
import Oxhide.SectorAlignment
import Oxhide.SectorBatches
import Oxhide.FaultyFile
import Oxhide.EncryptedIoQueue
import Oxhide.DriverView
import Oxhide.PlainDevice
import Oxhide.DiskHistories
import Oxhide.DriverStoreLaw
import Oxhide.HostVolume
import Oxhide.ReadOnlyMounts
import Oxhide.MountRequest
import Oxhide.FieldBytes
import Oxhide.Crc32
import Oxhide.HeaderFormat
import Oxhide.HeaderCodec
import Oxhide.CrcBursts
import Oxhide.HeaderCorruption
import Oxhide.HeaderEncryption
import Oxhide.CipherAgreement
import Oxhide.Keyfiles
import Oxhide.KeyDerivation
import Oxhide.VolumeOpening
import Oxhide.OpeningSearch
import Oxhide.SealedHeaders
import Oxhide.VolumeCreation
import Oxhide.CreateThenOpen
import Oxhide.HiddenPlacement
import Oxhide.AutoDetection
import Oxhide.HeaderSlots
import Oxhide.PasswordChange
import Oxhide.ChangedHeaders
import Oxhide.TornHeaders
import Oxhide.HeaderRestore
import Oxhide.HeaderSearch
import Oxhide.OpenVolumes
import Oxhide.UserStoreLaw
import Oxhide.DataWrites
import Oxhide.VolumeHistories
import Oxhide.HiddenProtection
import Oxhide.SharedVolumes
import Oxhide.CreatedVolumes
import Oxhide.VolumeLives
import Oxhide.ConfinedAccess
import Oxhide.StreamView
import Oxhide.MountedViews
import Oxhide.Runs
import Oxhide.VolumeThread
import Oxhide.Custody
import Oxhide.MountResources
import Oxhide.RequestAddresses
import Oxhide.IrpCompletion
import Oxhide.ReadCoverage
import Oxhide.DriverHistories
import Oxhide.MountedLives
import Oxhide.RecordLayout
import Oxhide.MountManager
import Oxhide.RootDevice
import Oxhide.MountedTable
import Oxhide.MountPoints
import Oxhide.KeyfileOrder
import Oxhide.KeyfileChecksum
import Oxhide.PimStrength
import Oxhide.SliceCopies
import Oxhide.HmacChains
import Oxhide.Pbkdf2Blake2s
import Oxhide.BlockCascade
import Oxhide.DecimalNumerals
import Oxhide.DebugLog
import Oxhide.RequestedSizes
import Oxhide.MountedPath
import Oxhide.MaxSelection
import Oxhide.TearDown
import Oxhide.DeviceControl
