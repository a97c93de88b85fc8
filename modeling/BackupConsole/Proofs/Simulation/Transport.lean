import BackupConsole.Proofs.Simulation.Conversation
import BackupConsole.Proofs.Simulation.Replies
import BackupConsole.Proofs.Wire.ResultLine

set_option autoImplicit false

namespace BackupConsole.Simulation

open Text Wire

/-- What the server replies to a command that reaches it. -/
def Server.reply (now : Int64) (s : Server) (r : Request) : Reply :=
  { s with commands := s.commands ++ [r.text] }.handle now r

def rowLine (id : UInt64) (row : String) : ResultLine := ⟨id, false, 0, row⟩

def closingLine (id : UInt64) : ResultLine := ⟨id, true, 0, ""⟩

def replyLines (id : UInt64) : Reply → List ResultLine
  | .ok (rows, _) => rows.map (rowLine id) ++ [closingLine id]
  | .error rejection => [rejection.line id]

def delivered : Reply → Answer
  | .ok (rows, _) => Server.deliver rows
  | .error rejection => .failed (rejection.line 0).toFailure

def lineBytes (lines : List ResultLine) : List UInt8 :=
  lines.flatMap fun line => utf8Bytes line.encode

/-! ## One line -/

theorem ended_encode {line : ResultLine} (single : OneLine line.data) : Ended line.encode := by
  have mark : OneLine (if line.completed then " 1 " else " 0 ") := by
    split <;> decide
  have head := ((oneLine_toString line.id.toNat).append mark).append (oneLine_toString line.code.toNat)
  unfold ResultLine.encode
  dsimp only
  split
  · exact ⟨_, head, rfl⟩
  · exact ⟨_, (head.append (by decide)).append single, rfl⟩

theorem byteLines_lineBytes {lines : List ResultLine} (single : ∀ line ∈ lines, OneLine line.data) :
    byteLines (lineBytes lines) = lines.map fun line => utf8Bytes line.encode := by
  have ended : ∀ text ∈ lines.map ResultLine.encode, Ended text := by
    intro text mem
    obtain ⟨line, listed, rfl⟩ := List.mem_map.mp mem
    exact ended_encode (single line listed)
  have split := splitAfter_flatMap_utf8Bytes ended
  rw [List.flatMap_map, List.map_map] at split
  exact split

theorem carries_encode (line : ResultLine) :
    Carries (utf8Bytes line.encode) { line with data := trimmed line.data } := by
  refine ⟨line.encode, fromUTF8?_utf8Bytes _, ?_, line.parse_encode⟩
  intro blank
  have digit := List.getLast_mem (l := Nat.toDigits 10 line.id.toNat) Nat.toDigits_ne_nil
  have mem : (Nat.toDigits 10 line.id.toNat).getLast Nat.toDigits_ne_nil ∈ line.encode.toList := by
    rw [ResultLine.toList_encode, ResultLine.head, List.append_assoc, List.append_assoc]
    exact List.mem_append_left _ digit
  have white := blank _ mem
  rw [dark_toDigits _ _ digit] at white
  cases white

/-! ## A reply -/

theorem deliver_of_fault {row : String} {fault : Fault}
    (parsed : Fields.parse (trimmed row) = .error fault) (rows : List String) :
    Server.deliver (row :: rows) = .failed (.communication fault) := by
  simp only [Server.deliver, ResultLine.parse_encode, parsed]

theorem deliver_of_fields {row : String} {fields : Fields}
    (parsed : Fields.parse (trimmed row) = .ok fields) (rows : List String) :
    Server.deliver (row :: rows) =
      { Server.deliver rows with rows := fields :: (Server.deliver rows).rows } := by
  simp only [Server.deliver, ResultLine.parse_encode, parsed]

theorem answered_rows (id : UInt64) {rows : List String} (framed : ∀ row ∈ rows, Framed row) :
    ∃ left, Answered id
      ((rows.map (rowLine id) ++ [closingLine id]).map fun line => utf8Bytes line.encode)
      (Server.deliver rows) left := by
  induction rows with
  | nil =>
    have carries := carries_encode (closingLine id)
    exact ⟨_, .completed .nil _ none ⟨carries, rfl, rfl, .inl ⟨rfl, rfl⟩⟩ rfl []⟩
  | cons row rows ih =>
    obtain ⟨first, framed⟩ := List.forall_mem_cons.mp framed
    obtain ⟨left, answered⟩ := ih framed
    have carries := carries_encode (rowLine id row)
    cases parsed : Fields.parse (trimmed row) with
    | error fault =>
      rw [deliver_of_fault parsed]
      exact ⟨none, .offended .nil _ (.undecodable _ carries rfl rfl first.visible fault parsed) _⟩
    | ok fields =>
      have isRow : IsRow id (utf8Bytes (rowLine id row).encode) _ (some fields) :=
        ⟨carries, rfl, rfl, .inr ⟨first.visible, fields, parsed, rfl⟩⟩
      rw [deliver_of_fields parsed]
      exact ⟨left, answered.after_row isRow rfl⟩

theorem trimmed_rejection (id : UInt64) (rejection : Rejection) :
    trimmed (rejection.line id).data = (rejection.line id).data := by
  have text : (rejection.line id).data.toList =
      "errno=0 message=".toList ++ (quote rejection.data).toList := String.toList_append
  have last : (rejection.line id).data.toList.getLast? = some '\x27' := by
    rw [text, List.getLast?_append, getLast?_quote]
    rfl
  rw [trimmed, trim_eq_self, String.ofList_toList]
  · rw [text, List.head?_append]
    exact fun c head => Option.some.inj head ▸ by decide
  · rw [last]
    exact fun c same => Option.some.inj same ▸ by decide

theorem toFailure_line (id other : UInt64) (rejection : Rejection) :
    (rejection.line id).toFailure = (rejection.line other).toFailure := by
  simp only [ResultLine.toFailure, Rejection.line]

theorem answered_rejection (id : UInt64) {rejection : Rejection} (code : rejection.code ≠ 0) :
    Answered id [utf8Bytes (rejection.line id).encode] (.failed (rejection.line 0).toFailure)
      (some []) := by
  have carries := carries_encode (rejection.line id)
  rw [trimmed_rejection] at carries
  have rejects : Rejects id (utf8Bytes (rejection.line id).encode) (rejection.line 0).toFailure := by
    rw [toFailure_line 0 id]
    exact .code _ carries rfl code
  exact .rejected .nil _ rejects []

theorem oneLine_replyLines (id : UInt64) {reply : Reply} (speaks : Speaks reply) :
    ∀ line ∈ replyLines id reply, OneLine line.data := by
  cases speaks with
  | rows framed =>
    rw [replyLines, List.forall_mem_append, List.forall_mem_map, List.forall_mem_singleton]
    exact ⟨fun row listed => (framed row listed).single, (by decide : OneLine "")⟩
  | rejection code single =>
    rw [replyLines, List.forall_mem_singleton]
    exact (by decide : OneLine "errno=0 message=").append (oneLine_quote single)

theorem answered_reply (id : UInt64) {reply : Reply} (speaks : Speaks reply) :
    ∃ left, Answered id (byteLines (lineBytes (replyLines id reply))) (delivered reply) left := by
  rw [byteLines_lineBytes (oneLine_replyLines id speaks)]
  cases speaks with
  | rows framed => exact answered_rows id framed
  | rejection code single => exact ⟨_, answered_rejection id code⟩

/-! ## A command -/

def Server.after (now : Int64) (s : Server) (r : Request) : Server :=
  match s.reply now r with
  | .error _ => { s with commands := s.commands ++ [r.text] }
  | .ok (_, after) => after

theorem answer_eq {s : Server} (online : s.offline = false) (uninjected : s.injections = [])
    (now : Int64) (r : Request) : s.answer now r = (delivered (s.reply now r), s.after now r) := by
  have none : Server.takeInjection { s with commands := s.commands ++ [r.text] } r.name = none := by
    simp only [Server.takeInjection, uninjected, List.find?_nil]
  rw [Server.answer, Server.respond]
  dsimp only
  rw [if_neg (by simp [online]), none, Server.after, Server.reply]
  dsimp only
  cases Server.handle now { s with commands := s.commands ++ [r.text] } r with
  | error rejection => rfl
  | ok both => rfl

theorem answer_eq_delivered {s : Server} (online : s.offline = false) (uninjected : s.injections = [])
    (now : Int64) (r : Request) : (s.answer now r).1 = delivered (s.reply now r) :=
  congrArg Prod.fst (answer_eq online uninjected now r)

theorem speaks_reply (now : Int64) {s : Server} {r : Request} (lined : s.OneLined)
    (single : OneLine r.text) : Speaks (s.reply now r) :=
  speaks_handle now (s := { s with commands := s.commands ++ [r.text] }) lined single

theorem requestLines_line {r : Request} (single : OneLine r.text) (id : UInt64) :
    requestLines (r.line id) = [r.line id] := by
  have ended : Ended (r.line id) :=
    ⟨_, ((oneLine_toString _).append (by decide : OneLine " ")).append single, rfl⟩
  rw [requestLines, ended.splitAfter_toList, List.map_singleton, String.ofList_toList]

theorem requestId_line (r : Request) (id : UInt64) : requestId (r.line id) = toString id.toNat := by
  have digits : ∀ c ∈ (toString id.toNat).toList, decide (c ≠ ' ') = true := by
    rw [toList_toString]
    intro c mem
    have differs : c ≠ ' ' := fun space => ResultLine.space_not_mem_toDigits _ (space ▸ mem)
    exact decide_eq_true differs
  have text : (r.line id).toList = (toString id.toNat).toList ++ ' ' :: (r.text ++ "\n").toList := by
    rw [Request.line, String.toList_append, String.toList_append, String.toList_append,
      String.toList_append, List.append_assoc, List.append_assoc]
    rfl
  rw [requestId, text, List.takeWhile_append_of_pos digits, List.takeWhile_cons_of_neg (by decide),
    List.append_nil, String.ofList_toList]

/-- A peer that writes the server's reply on result lines gives the client the answer of the server
itself. -/
theorem exchange_eq_answer (now : Int64) {s : Server} {r : Request} (online : s.offline = false)
    (uninjected : s.injections = []) (lined : s.OneLined) (single : OneLine r.text)
    (address : String) {client : Client} {peer other : Peer} {link : Link}
    (connects : connect client peer = (.ok link, other)) (idle : link.unread = [])
    {reply : PeerReply} {more : List PeerReply} (script : link.replies = reply :: more)
    (sends : replyBytes (toString client.nextId.toNat) reply =
      lineBytes (replyLines client.nextId (s.reply now r))) :
    (exchange address r client peer).1 = (s.answer now r).1 := by
  obtain ⟨left, answered⟩ := answered_reply client.nextId (speaks_reply now lined single)
  rcases receives : receive (requestLines (r.line client.nextId)) link other with ⟨received, after⟩
  have unread : received.unread = lineBytes (replyLines client.nextId (s.reply now r)) := by
    rw [requestLines_line single, receive, script] at receives
    dsimp only at receives
    rw [receive, requestId_line, sends, idle, List.nil_append] at receives
    exact congrArg (fun pair => pair.1.unread) receives.symm
  rw [exchange_of_connect connects receives, unread, answer_eq_delivered online uninjected]
  dsimp only
  exact (answered_iff.mp answered).1.symm

/-- The second of the two jobs is written on a row that cannot be decoded. -/
def halfReadable : Server :=
  { jobs := [SimJob.new "b" "beta" .waiting, { snapshot := tabbed }] }

def listing : Request := { name := "JOB_LIST" }

theorem reply_listing (now : Int64) (s : Server) :
    s.reply now listing =
      .ok (s.jobs.map fun job => jobRow job.snapshot,
        { s with commands := s.commands ++ [listing.text] }) := rfl

theorem oneLined_halfReadable : halfReadable.OneLined := by
  refine List.forall_mem_cons.mpr ⟨⟨by decide, ?_, ?_⟩, List.forall_mem_singleton.mpr ⟨by decide, ?_, ?_⟩⟩
  all_goals exact fun _ mem => absurd mem List.not_mem_nil

theorem answer_halfReadable :
    ∃ row fault, (halfReadable.answer 0 listing).1 =
      { rows := [row], outcome := .error (.communication fault) } := by
  have readable : ((jobFields (SimJob.new "b" "beta" .waiting).snapshot).all
      fun field => (lost field.2).all isBlank) = true := by decide
  obtain ⟨row, first⟩ :
      ∃ row, Fields.parse (jobRow (SimJob.new "b" "beta" .waiting).snapshot) = .ok row :=
    ⟨_, (parse_jobRow_iff _ _).mpr ⟨by simpa only [List.all_eq_true] using readable, rfl⟩⟩
  have second : ∃ fault, Fields.parse (jobRow tabbed) = .error fault := by
    cases parsed : Fields.parse (jobRow tabbed) with
    | error fault => exact ⟨fault, rfl⟩
    | ok m =>
      have readable := ((parse_jobRow_iff tabbed m).mp parsed).1
      exact absurd (readable ("name", "al\tpha") (by decide) 'p' (by decide)) (by decide)
  obtain ⟨fault, second⟩ := second
  refine ⟨row, fault, ?_⟩
  rw [← trimmed_jobRow] at first second
  rw [answer_eq_delivered rfl rfl, reply_listing, delivered, halfReadable]
  dsimp only [List.map]
  rw [deliver_of_fields first, deliver_of_fault second, Answer.failed]

theorem exchange_halfReadable :
    let peer : Peer := { scripts := [[[.bytes (lineBytes (replyLines 1 (halfReadable.reply 0 listing)))]]] }
    (exchange "" listing {} peer).1 = (halfReadable.answer 0 listing).1 := by
  intro peer
  exact exchange_eq_answer 0 rfl rfl oneLined_halfReadable (by decide) "" (by rfl) rfl rfl
    (List.append_nil _)

end BackupConsole.Simulation
