import BackupConsole.Proofs.Simulation.Effect
import BackupConsole.Proofs.Simulation.Handling
import BackupConsole.Proofs.Text.Hexadecimal

set_option autoImplicit false

namespace BackupConsole.Simulation

open Job Wire Text

def SimJob.credential (job : SimJob) : String × Option String := (job.snapshot.uuid, job.password)

theorem SimJob.credential_advance (now : Int64) (job : SimJob) :
    (job.advance now).credential = job.credential := by
  unfold SimJob.advance
  split
  · dsimp only
    split <;> rfl
  · rfl

def passwordCommands : List String := ["CRYPT_PASSWORD", "JOB_RESET"]

theorem SimJob.Obeys.credential {now : Int64} {runState : RunState} {r : Request} {job other : SimJob}
    (obeys : job.Obeys now runState r other) (foreign : r.name ∉ passwordCommands) :
    other.credential = job.credential := by
  cases obeys with
  | told | started | triggered | aborted | loaded => rfl
  | watched =>
    split
    · exact job.credential_advance now
    · rfl
  | unloaded =>
    rw [Server.unloadVolume]
    split <;> rfl
  | reset name | unlocked name => exact absurd (name ▸ foreign) (by decide)

namespace Server

def credentials (s : Server) : List (String × Option String) := s.jobs.map SimJob.credential

def password (s : Server) (uuid : String) : Option String := (s.findJob? uuid).bind SimJob.password

theorem password_eq_find? (s : Server) (uuid : String) :
    s.password uuid = (s.credentials.find? fun credential => credential.1 == uuid).bind Prod.snd := by
  rw [password, findJob?, credentials, List.find?_map]
  generalize s.jobs = jobs
  change _ = ((jobs.find? fun job => job.snapshot.uuid == uuid).map SimJob.credential).bind Prod.snd
  cases jobs.find? fun job => job.snapshot.uuid == uuid <;> rfl

theorem password_of_credentials {s after : Server} (same : after.credentials = s.credentials) :
    after.password = s.password := by
  funext uuid
  rw [password_eq_find?, password_eq_find?, same]

section

variable {now : Int64} {s : Server} {r : Request}

theorem credentials_of_handles {after : Server} (handles : s.Handles now r after)
    (foreign : r.name ∉ passwordCommands) : after.credentials = s.credentials := by
  cases handles with
  | listed | switched => rfl
  | stated =>
    rw [status]
    split
    · rw [credentials, List.map_map]
      exact List.map_congr_left fun job _ => job.credential_advance now
    · rfl
  | ordered _ i _ job other here obeys =>
    obtain ⟨inside, rfl⟩ := List.getElem?_eq_some_iff.mp here
    have same : (s.jobs.map SimJob.credential)[i]? = some other.credential := by
      rw [List.getElem?_map, here, Option.map_some, obeys.credential foreign]
    rw [credentials, credentials, List.map_set]
    obtain ⟨_, same⟩ := List.getElem?_eq_some_iff.mp same
    rw [← same, List.set_getElem_self]

theorem answer_snd (now : Int64) (s : Server) (r : Request) :
    (s.answer now r).2 = (s.respond now r).2 := by
  rw [answer]
  split <;> rename_i responds <;> rw [responds]

theorem password_answer (now : Int64) (s : Server) (foreign : r.name ∉ passwordCommands) :
    (s.answer now r).2.password = s.password := by
  rw [answer_snd]
  refine password_of_credentials ?_
  obtain ⟨_, jobs⟩ | ⟨_, handles⟩ := refused_or_handled now s r
  · exact congrArg (List.map SimJob.credential) jobs
  · have same : (s.respond now r).2.credentials = (s.logged r).credentials :=
      credentials_of_handles handles foreign
    exact same

theorem password_replay (clock : Nat → Int64) (s : Server) (heard : Transcript) {more : Transcript}
    (foreign : ∀ exchange ∈ more, exchange.1.request.name ∉ passwordCommands) :
    (s.replay clock (heard ++ more)).password = (s.replay clock heard).password := by
  induction more using List.reverseRecOn with
  | nil => rw [List.append_nil]
  | append_singleton more exchange ih =>
    rw [List.forall_mem_append, List.forall_mem_singleton] at foreign
    rw [← List.append_assoc, replay_concat, password_answer _ _ foreign.2, ih foreign.1]

/-! ## Handing over a password -/

theorem password?_passwordErrand (job : Snapshot) (password : String) :
    password? (passwordErrand job password).request = if password = "" then none else some password := by
  have given : (passwordErrand job password).request.get? "encryptedPassword" = some (toHex password) :=
    rfl
  rw [password?, given, Option.bind_some, ofHex?_toHex]
  split <;> rename_i empty
  · subst empty
    rfl
  · exact Option.filter_some_pos (by simpa using empty)

theorem reply_password (now : Int64) (s : Server) (job : Snapshot) (password : String) :
    let r := (passwordErrand job password).request
    s.reply now r =
      if password = "" then .error ⟨14, ""⟩
      else (s.logged r).onJob r fun known => .ok ([], storePassword known password) := by
  intro r
  have plain : r.get? "encryptType" = some "NONE" := rfl
  have named : r.name = "CRYPT_PASSWORD" := rfl
  rw [reply, ← logged, handle]
  simp only [named]
  rw [if_neg (not_not_intro plain), password?_passwordErrand]
  by_cases empty : password = ""
  · rw [if_pos empty, if_pos empty]
  · rw [if_neg empty, if_neg empty]

theorem credential_storePassword (known : SimJob) (password : String) :
    (storePassword known password).credential = (known.snapshot.uuid, some password) := by
  rw [storePassword]
  dsimp only
  split <;> rfl

variable (online : s.offline = false) (uninjected : s.injections = []) (job : Snapshot)

include online uninjected

theorem answer_password {known : SimJob} (found : s.findJob? job.uuid = some known)
    {password : String} (filled : password ≠ "") :
    (s.answer now (passwordErrand job password).request).1 = {} ∧
      (s.answer now (passwordErrand job password).request).2.password job.uuid = some password := by
  let r := (passwordErrand job password).request
  have here : (s.logged r).findJob? (jobUUID r) = some known := found
  have own : known.snapshot.uuid = job.uuid := by simpa using List.find?_some found
  have reply : s.reply now r =
      .ok ([], (s.logged r).setJob (jobUUID r) (storePassword known password)) := by
    rw [reply_password, if_neg filled]
    exact onJob_of_found here rfl
  obtain ⟨same, kept⟩ := Prod.mk.inj (credential_storePassword known password)
  have stored := findJob?_setJob here (same.trans own)
  rw [answer_of_reply online uninjected reply]
  refine ⟨rfl, ?_⟩
  rw [Server.password]
  exact (congrArg (Option.bind · SimJob.password) stored).trans kept

theorem answer_password_empty :
    s.answer now (passwordErrand job "").request =
      (.failed (.rejected 14 0 ""), s.logged (passwordErrand job "").request) := by
  have reply : s.reply now (passwordErrand job "").request = .error ⟨14, ""⟩ :=
    (reply_password now s job "").trans (if_pos rfl)
  have failure : ((Rejection.mk 14 "").line 0).toFailure = .rejected 14 0 "" := by decide
  rw [answer_eq online uninjected, after, reply, delivered, failure]
  rfl

end

end Server

end BackupConsole.Simulation
