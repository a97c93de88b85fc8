import BackupConsole.Text.Pieces
import BackupConsole.Wire.Client

set_option autoImplicit false

namespace BackupConsole.Simulation

open Text Wire

inductive ReplyPart where
  | bytes (b : List UInt8)
  | id
deriving DecidableEq, Repr

abbrev PeerReply := List ReplyPart

/-- A connection: what the peer has sent and the client has not read, and the replies to come. -/
structure Link where
  unread : List UInt8 := []
  replies : List PeerReply := []
  index : Nat := 0
  overflown : Bool := false
deriving Repr

structure Peer where
  scripts : List (List PeerReply) := []
  accepted : Nat := 0
  unreachable : Bool := false
  received : List (Nat × String) := []
deriving Repr

structure Client where
  link : Option Link := none
  nextId : UInt64 := 1
deriving Repr

def replyBytes (id : String) (reply : PeerReply) : List UInt8 :=
  reply.flatMap fun
    | .bytes b => b
    | .id => id.toUTF8.data.toList

def requestLines (text : String) : List String :=
  (splitAfter '\n' text.toList).map String.ofList

def requestId (line : String) : String :=
  String.ofList (line.toList.takeWhile fun c => c ≠ ' ')

def receive : List String → Link → Peer → Link × Peer
  | [], link, peer => (link, peer)
  | line :: lines, link, peer =>
    match link.replies with
    | reply :: replies =>
      receive lines
        { link with unread := link.unread ++ replyBytes (requestId line) reply, replies }
        { peer with received := peer.received ++ [(link.index, line)] }
    | [] =>
      let received :=
        match link.overflown, peer.received.getLast? with
        | true, some (index, text) =>
          peer.received.dropLast ++ [(index, text ++ line)]
        | _, _ => peer.received ++ [(link.index, line)]
      receive lines { link with overflown := true } { peer with received }

def connect (client : Client) (peer : Peer) : Except String Link × Peer :=
  match client.link with
  | some link => (.ok link, peer)
  | none =>
    if peer.unreachable then (.error "Network is unreachable (os error 101)", peer)
    else
      match peer.scripts with
      | [] => (.error "Connection refused (os error 111)", peer)
      | replies :: scripts =>
        (.ok { replies, index := peer.accepted },
          { peer with scripts, accepted := peer.accepted + 1 })

/-- One request of a client of the server at `address`. A number is used up only once there is a
connection. -/
def exchange (address : String) (request : Request) (client : Client) (peer : Peer) :
    Answer × Client × Peer :=
  match connect client peer with
  | (.error reason, peer) => (.failed (.connection (address ++ ": " ++ reason)), client, peer)
  | (.ok link, peer) =>
    let id := client.nextId
    let (link, peer) := receive (requestLines (request.line id)) link peer
    let (answer, rest) := readAnswer id (byteLines link.unread)
    let link :=
      if keepsConnection answer.outcome then some { link with unread := rest.flatten } else none
    (answer, { link, nextId := id + 1 }, peer)

end BackupConsole.Simulation
