import BackupConsole.Simulation.Job
import BackupConsole.Wire.ResultLine

set_option autoImplicit false

namespace BackupConsole.Simulation

open Job Wire

def needsQuotes (c : Char) : Bool :=
  c = ' ' || c = '\x27' || c = '\x22' || c = '\\' || c = '='

def valueText (v : String) : String :=
  if v.isEmpty || v.toList.any needsQuotes then quote v else v

def rowText (fields : List (String × String)) : String :=
  " ".intercalate (fields.map fun (key, v) => key ++ "=" ++ valueText v)

def yesNo (b : Bool) : String := if b then "yes" else "no"

def jobFields (job : Snapshot) : List (String × String) :=
  [ ("jobUUID", job.uuid),
    ("master", job.masterName),
    ("name", job.name),
    ("state", job.state.wireName),
    ("slaveHostName", job.slaveHost.name),
    ("slaveHostPort", toString job.slaveHost.port.toNat),
    ("slaveState", job.slaveState.wireName),
    ("slaveTLS", yesNo job.slaveSecure),
    ("archiveType", job.archiveType.name),
    ("archivePartSize", toString job.archivePartSize.toNat),
    ("deltaCompressAlgorithm", job.deltaCompressAlgorithm),
    ("byteCompressAlgorithm", job.byteCompressAlgorithm),
    ("cryptAlgorithm", job.cryptAlgorithm),
    ("cryptType", job.cryptType),
    ("cryptPasswordMode", job.cryptPasswordMode),
    ("lastExecutedDateTime", toString job.lastExecutedAt.toInt),
    ("estimatedRestTime", toString job.estimatedRestSeconds.toNat) ]

def jobRow (job : Snapshot) : String := rowText (jobFields job)

def runStateRow : RunState → String
  | .running => "state=running"
  | .paused remaining => "state=pause time=" ++ toString remaining.toNat
  | .suspended => "state=suspended"

def progressFields (j : SimJob) : List (String × String) :=
  let doneSize := j.doneCount * entrySize
  let totalSize := j.totalCount * entrySize
  let rate (perStep : Nat) : String := if j.isActive then toString perStep else "0"
  let number := toString j.doneCount
  let entryName :=
    if j.isActive then
      "/home/user/file-" ++ String.ofList (Number.padded 4 j.doneCount) ++ ".dat"
    else ""
  [ ("state", j.snapshot.state.wireName),
    ("message", ""),
    ("doneCount", number),
    ("doneSize", toString doneSize),
    ("totalEntryCount", toString j.totalCount),
    ("totalEntrySize", toString totalSize),
    ("collectTotalSumDone", "yes"),
    ("skippedEntryCount", "0"),
    ("skippedEntrySize", "0"),
    ("errorEntryCount", "0"),
    ("errorEntrySize", "0"),
    ("entriesPerSecond", rate entriesPerStep),
    ("bytesPerSecond", rate (entriesPerStep * entrySize)),
    ("storageBytesPerSecond", rate (entriesPerStep * entrySize / 2)),
    ("archiveSize", toString (doneSize / 2)),
    ("compressionRatio", if 0 < doneSize then "50.0" else "0"),
    ("estimatedRestTime", toString j.snapshot.estimatedRestSeconds.toNat),
    ("entryName", entryName),
    ("entryDoneSize", toString (entrySize / 2)),
    ("entryTotalSize", toString entrySize),
    ("storageName", "/backup/" ++ j.snapshot.name ++ ".bar"),
    ("storageDoneSize", toString (doneSize / 2)),
    ("storageTotalSize", toString (totalSize / 2)),
    ("volumeNumber", toString j.volumeNumber.toNat),
    ("volumeProgress", "0"),
    ("requestedVolumeNumber", toString j.requestedVolume.toNat) ]

/-- The fields with another value for the first field of this key, or with a new last field. -/
def setField (fields : List (String × String)) (field : String × String) : List (String × String) :=
  match fields with
  | [] => [field]
  | (key, value) :: rest =>
    if key = field.1 then field :: rest else (key, value) :: setField rest field

def detailRow (j : SimJob) : String := rowText (j.overrides.foldl setField (progressFields j))

def scheduleRow (s : Schedule) : String :=
  rowText
    [ ("scheduleUUID", s.uuid),
      ("date", s.dateText),
      ("weekDays", s.weekDaysText),
      ("time", s.timeText),
      ("archiveType", s.archiveType.name) ]

end BackupConsole.Simulation
