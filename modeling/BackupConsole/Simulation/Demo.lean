import BackupConsole.Simulation.Server

set_option autoImplicit false

namespace BackupConsole.Simulation

open Job

structure DemoIds where
  home : String
  workdays : String
  monthly : String
  projects : String
  mail : String
  media : String
deriving DecidableEq, Repr

def homeJob (now : Int64) (ids : DemoIds) : SimJob :=
  let job := SimJob.new ids.home "home" .waiting
  { job with
    snapshot :=
      { job.snapshot with
        archivePartSize := 512 * 1024 * 1024
        byteCompressAlgorithm := "zstd6"
        cryptAlgorithm := "AES256"
        cryptType := "SYMMETRIC"
        cryptPasswordMode := "ask"
        lastExecutedAt := now - 86400 }
    schedules :=
      [ { uuid := ids.workdays, weekDays := some 0x1F, hour := some 22, minute := some 0
          archiveType := .incremental },
        { uuid := ids.monthly, day := some 1, hour := some 3, minute := some 30
          archiveType := .full } ] }

def projectsJob (ids : DemoIds) : SimJob :=
  let job := SimJob.new ids.projects "projects" .running
  { job with
    snapshot :=
      { job.snapshot with
        deltaCompressAlgorithm := "xdelta9"
        byteCompressAlgorithm := "lzma9"
        archiveType := .differential } }

def mailJob (ids : DemoIds) : SimJob :=
  let job := SimJob.new ids.mail "mail" .error
  { job with
    snapshot :=
      { job.snapshot with
        cryptAlgorithm := "AES256"
        cryptType := "ASYMMETRIC"
        slaveHost := { name := "mailhost", port := 38523 }
        slaveState := .online } }

def demo (now : Int64) (ids : DemoIds) : Server :=
  { jobs :=
      [homeJob now ids, projectsJob ids, mailJob ids, SimJob.new ids.media "media" .done] }

end BackupConsole.Simulation
