import BackupConsole.Job.State
import BackupConsole.Number.Binary64
import BackupConsole.Wire.Fields

set_option autoImplicit false

namespace BackupConsole.Job

open Number Wire

structure Detail where
  uuid : String := ""
  state : State := .none
  message : String := ""
  doneCount : UInt64 := 0
  doneSize : UInt64 := 0
  totalEntryCount : UInt64 := 0
  totalEntrySize : UInt64 := 0
  collectingTotals : Bool := false
  skippedEntryCount : UInt64 := 0
  skippedEntrySize : UInt64 := 0
  errorEntryCount : UInt64 := 0
  errorEntrySize : UInt64 := 0
  entriesPerSecond : Binary64 := .zero
  bytesPerSecond : Binary64 := .zero
  storageBytesPerSecond : Binary64 := .zero
  archiveSize : UInt64 := 0
  compressionRatio : Binary64 := .zero
  estimatedRestSeconds : UInt64 := 0
  entryName : String := ""
  entryDoneSize : UInt64 := 0
  entryTotalSize : UInt64 := 0
  storageName : String := ""
  storageDoneSize : UInt64 := 0
  storageTotalSize : UInt64 := 0
  volumeNumber : UInt32 := 0
  volumeProgress : Binary64 := .zero
  requestedVolumeNumber : UInt32 := 0
deriving DecidableEq, Repr, Inhabited

/-- The sum of two counters, or the largest counter if the sum is beyond it. -/
def addCounters (a b : UInt64) : UInt64 := UInt64.ofNat (min (a.toNat + b.toNat) (UInt64.size - 1))

namespace Detail

def ofFields (uuid : String) (m : Fields) : Detail :=
  { uuid
    state := m.enumeration State.ofText? "state" .none
    message := m.string "message" ""
    doneCount := m.ulong "doneCount" 0
    doneSize := m.ulong "doneSize" 0
    totalEntryCount := m.ulong "totalEntryCount" 0
    totalEntrySize := m.ulong "totalEntrySize" 0
    collectingTotals := !m.boolean "collectTotalSumDone" true
    skippedEntryCount := m.ulong "skippedEntryCount" 0
    skippedEntrySize := m.ulong "skippedEntrySize" 0
    errorEntryCount := m.ulong "errorEntryCount" 0
    errorEntrySize := m.ulong "errorEntrySize" 0
    entriesPerSecond := m.double "entriesPerSecond" .zero
    bytesPerSecond := m.double "bytesPerSecond" .zero
    storageBytesPerSecond := m.double "storageBytesPerSecond" .zero
    archiveSize := m.ulong "archiveSize" 0
    compressionRatio := m.double "compressionRatio" .zero
    estimatedRestSeconds := m.ulong "estimatedRestTime" 0
    entryName := m.string "entryName" ""
    entryDoneSize := m.ulong "entryDoneSize" 0
    entryTotalSize := m.ulong "entryTotalSize" 0
    storageName := m.string "storageName" ""
    storageDoneSize := m.ulong "storageDoneSize" 0
    storageTotalSize := m.ulong "storageTotalSize" 0
    volumeNumber := m.enumeration readUInt32 "volumeNumber" 0
    volumeProgress := m.double "volumeProgress" .zero
    requestedVolumeNumber := m.enumeration readUInt32 "requestedVolumeNumber" 0 }

def entriesProgress (d : Detail) : Binary64 :=
  .percent (addCounters (addCounters d.doneCount d.skippedEntryCount) d.errorEntryCount)
    d.totalEntryCount

def bytesProgress (d : Detail) : Binary64 :=
  .percent (addCounters (addCounters d.doneSize d.skippedEntrySize) d.errorEntrySize)
    d.totalEntrySize

def entryProgress (d : Detail) : Binary64 := .percent d.entryDoneSize d.entryTotalSize

def storageProgress (d : Detail) : Binary64 := .percent d.storageDoneSize d.storageTotalSize

def compressionText (d : Detail) : String := d.compressionRatio.toTenths ++ "%"

theorem uuid_ofFields (uuid : String) (m : Fields) : (ofFields uuid m).uuid = uuid := rfl

end Detail

end BackupConsole.Job
