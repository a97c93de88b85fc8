import BackupConsole.Job.Snapshot
import BackupConsole.Json.Value

set_option autoImplicit false

namespace BackupConsole.Json

open Job

def ofHost (host : SlaveHost) : Value :=
  .object [("name", .text host.name), ("port", .number host.port.toNat)]

def ofJob (job : Snapshot) : Value :=
  .object
    [("uuid", .text job.uuid),
      ("master_name", .text job.masterName),
      ("name", .text job.name),
      ("state", .text job.state.wireName),
      ("slave_host", ofHost job.slaveHost),
      ("slave_state", .text job.slaveState.wireName),
      ("slave_secure", .truth job.slaveSecure),
      ("archive_type", .text job.archiveType.name),
      ("archive_part_size", .number job.archivePartSize.toNat),
      ("delta_compress_algorithm", .text job.deltaCompressAlgorithm),
      ("byte_compress_algorithm", .text job.byteCompressAlgorithm),
      ("crypt_algorithm", .text job.cryptAlgorithm),
      ("crypt_type", .text job.cryptType),
      ("crypt_password_mode", .text job.cryptPasswordMode),
      ("last_executed_at", .number job.lastExecutedAt.toInt),
      ("estimated_rest_seconds", .number job.estimatedRestSeconds.toNat)]

def ofJobs (jobs : List Snapshot) : Value := .list (jobs.map ofJob)

end BackupConsole.Json
