import BackupConsole.Job.ArchiveType
import BackupConsole.Number.Integer
import BackupConsole.Text.Pieces
import BackupConsole.Wire.Fields

set_option autoImplicit false

namespace BackupConsole.Job

open Text Number Wire

structure Schedule where
  uuid : String
  year : Option UInt32 := none
  month : Option UInt32 := none
  day : Option UInt32 := none
  weekDays : Option UInt8 := none
  hour : Option UInt32 := none
  minute : Option UInt32 := none
  archiveType : ArchiveType := .normal
deriving DecidableEq, Repr

def weekDayNames : List String := ["Mon", "Tue", "Wed", "Thu", "Fri", "Sat", "Sun"]

def everyDay : UInt8 := 0x7F

def weekDay? (name : List Char) : Option UInt8 :=
  (weekDayNames.findIdx? fun day => sameIgnoringCase day.toList name).map fun bit =>
    UInt8.ofNat (Nat.pow 2 bit)

def weekDaySet : List (List Char) → Except Fault UInt8
  | [] => .ok 0
  | name :: names =>
    match weekDay? (trim name), weekDaySet names with
    | none, _ => .error (.unknownWeekDay (String.ofList (trim name)))
    | some _, .error fault => .error fault
    | some day, .ok days => .ok (day ||| days)

def readWeekDays (s : String) : Except Fault (Option UInt8) :=
  let text := trim s.toList
  if text = [] || text = ['*'] then .ok none
  else
    match weekDaySet (pieces ',' text) with
    | .error fault => .error fault
    | .ok days => .ok (if days = everyDay then none else some days)

/-- A number, or anything else for an open part. -/
def readPart (s : List Char) : Option UInt32 := readUInt32 (trim s)

def partText (width : Nat) : Option UInt32 → List Char
  | some n => padded width n.toNat
  | none => ['*']

namespace Schedule

def ofFields (m : Fields) : Except Fault Schedule :=
  match m.require ["scheduleUUID"] with
  | .error fault => .error fault
  | .ok () =>
    let date := (pieces '-' (m.string "date" "*-*-*").toList).map readPart
    let time := (pieces ':' (m.string "time" "*:*").toList).map readPart
    match readWeekDays (m.string "weekDays" "*") with
    | .error fault => .error fault
    | .ok weekDays =>
      .ok
        { uuid := m.string "scheduleUUID" ""
          year := date[0]?.join
          month := date[1]?.join
          day := date[2]?.join
          weekDays
          hour := time[0]?.join
          minute := time[1]?.join
          archiveType := m.enumeration ArchiveType.ofText? "archiveType" .normal }

def dateText (s : Schedule) : String :=
  String.ofList (partText 4 s.year ++ '-' :: partText 2 s.month ++ '-' :: partText 2 s.day)

def weekDaysText (s : Schedule) : String :=
  match s.weekDays with
  | none => "*"
  | some days =>
    let names := weekDayNames.zipIdx.filter fun (_, bit) => days.toNat.testBit bit
    ",".intercalate (names.map Prod.fst)

def timeText (s : Schedule) : String :=
  String.ofList (partText 2 s.hour ++ ':' :: partText 2 s.minute)

def text (s : Schedule) : String :=
  s.dateText ++ " " ++ s.weekDaysText ++ " " ++ s.timeText ++ " " ++ s.archiveType.name

end Schedule

end BackupConsole.Job
