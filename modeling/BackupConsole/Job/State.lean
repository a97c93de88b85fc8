import BackupConsole.Text.Ascii
import BackupConsole.Text.Blank

set_option autoImplicit false

namespace BackupConsole.Job

open Text

inductive Hint where
  | active
  | needsAttention
  | error
  | aborted
  | neutral
deriving DecidableEq, Repr

def Hint.name : Hint → String
  | .active => "active"
  | .needsAttention => "needs-attention"
  | .error => "error"
  | .aborted => "aborted"
  | .neutral => "neutral"

inductive State where
  | none
  | waiting
  | running
  | noStorage
  | dryRunning
  | requestFtpPassword
  | requestSshPassword
  | requestWebdavPassword
  | requestCryptPassword
  | requestVolume
  | done
  | error
  | aborted
  | disconnected
deriving DecidableEq, Repr, Inhabited

namespace State

def all : List State :=
  [.none, .waiting, .running, .noStorage, .dryRunning, .requestFtpPassword, .requestSshPassword,
    .requestWebdavPassword, .requestCryptPassword, .requestVolume, .done, .error, .aborted,
    .disconnected]

def rank (s : State) : Nat := all.idxOf s

def label : State → String
  | .none => "-"
  | .waiting => "waiting"
  | .running => "running"
  | .noStorage => "no storage"
  | .dryRunning => "dry run"
  | .requestFtpPassword => "request FTP password"
  | .requestSshPassword => "request SSH password"
  | .requestWebdavPassword => "request WebDAV password"
  | .requestCryptPassword => "request crypt password"
  | .requestVolume => "request volume"
  | .done => "done"
  | .error => "ERROR"
  | .aborted => "aborted"
  | .disconnected => "disconnected"

def wireName : State → String
  | .none => "NONE"
  | .waiting => "WAITING"
  | .running => "RUNNING"
  | .noStorage => "NO_STORAGE"
  | .dryRunning => "DRY_RUNNING"
  | .requestFtpPassword => "REQUEST_FTP_PASSWORD"
  | .requestSshPassword => "REQUEST_SSH_PASSWORD"
  | .requestWebdavPassword => "REQUEST_WEBDAV_PASSWORD"
  | .requestCryptPassword => "REQUEST_CRYPT_PASSWORD"
  | .requestVolume => "REQUEST_VOLUME"
  | .done => "DONE"
  | .error => "ERROR"
  | .aborted => "ABORTED"
  | .disconnected => "DISCONNECTED"

def isActive : State → Bool
  | .running | .noStorage | .dryRunning => true
  | _ => false

def hint : State → Hint
  | .running | .noStorage | .dryRunning => .active
  | .requestFtpPassword | .requestSshPassword | .requestWebdavPassword | .requestCryptPassword
  | .requestVolume => .needsAttention
  | .error => .error
  | .aborted => .aborted
  | .none | .waiting | .done | .disconnected => .neutral

end State

/-- The spelling of a name with blanks around it dropped, in upper case, with underscores. -/
def wireSpelling (s : List Char) : String :=
  String.ofList ((upper (trim s)).map fun c => if c = ' ' || c = '-' then '_' else c)

def State.ofText? (s : List Char) : Option State :=
  match wireSpelling s with
  | "" => some .none
  | "DRY_RUN" => some .dryRunning
  | name => State.all.find? fun state => state.wireName == name

inductive SlaveState where
  | offline
  | online
  | wrongMode
  | wrongProtocolVersion
  | paired
deriving DecidableEq, Repr, Inhabited

namespace SlaveState

def all : List SlaveState := [.offline, .online, .wrongMode, .wrongProtocolVersion, .paired]

def label : SlaveState → String
  | .offline => "offline"
  | .online => "online"
  | .wrongMode => "wrong mode"
  | .wrongProtocolVersion => "wrong protocol version"
  | .paired => "paired"

def wireName : SlaveState → String
  | .offline => "OFFLINE"
  | .online => "ONLINE"
  | .wrongMode => "WRONG_MODE"
  | .wrongProtocolVersion => "WRONG_PROTOCOL_VERSION"
  | .paired => "PAIRED"

def ofText? (s : List Char) : Option SlaveState :=
  all.find? fun state => state.wireName == wireSpelling s

end SlaveState

theorem State.mem_all (s : State) : s ∈ State.all := by cases s <;> decide

theorem State.hint_eq_active_iff (s : State) : s.hint = .active ↔ s.isActive = true := by
  cases s <;> decide

theorem SlaveState.mem_all (s : SlaveState) : s ∈ SlaveState.all := by cases s <;> decide

theorem State.ofText?_wireName (s : State) : ofText? s.wireName.toList = some s := by
  cases s <;> decide

theorem SlaveState.ofText?_wireName (s : SlaveState) : ofText? s.wireName.toList = some s := by
  cases s <;> decide

theorem State.dark_wireName (s : State) : ∀ c ∈ s.wireName.toList, isBlank c = false := by
  cases s <;> exact dark_of_all rfl

theorem SlaveState.dark_wireName (s : SlaveState) : ∀ c ∈ s.wireName.toList, isBlank c = false := by
  cases s <;> exact dark_of_all rfl

end BackupConsole.Job
