import Syfrah.Fabric.Join
import Syfrah.Lib.Frame

/-!
# Messages on the wire

A message is sent as a frame around its JSON text. The JSON writer and reader are parameters.
-/

namespace Syfrah

namespace Mesh

open Frame (Bytes)

inductive PeeringMessage (Key Digest : Type)
  | joinRequest (request : JoinRequest Key Digest)
  | joinResponse (response : JoinResponse)
  | peerAnnounce (ciphertext : Bytes)
  | secretRotation (ciphertext : Bytes)

inductive PeeringError
  | io
  | json (message : String)
  | protocol (message : String)
deriving DecidableEq

def maxMsgSize : ℕ := 65536

def maxPeersInResponse : ℕ := 500

def validateJoinResponse (response : JoinResponse) : Except MeshError Unit :=
  let count := response.peers.length
  if maxPeersInResponse < count then
    .error (.validation s!"JoinResponse contains {count} peers, maximum is {maxPeersInResponse}")
  else .ok ()

section

variable {Key Digest : Type} (encode : PeeringMessage Key Digest → Bytes)
  (decode : Bytes → Except String (PeeringMessage Key Digest))

def writeMessage (msg : PeeringMessage Key Digest) : Bytes := Frame.write (encode msg)

def readMessage (stream : Bytes) : Except PeeringError (PeeringMessage Key Digest) :=
  match Frame.read maxMsgSize stream with
  | .error .unexpectedEof => .error .io
  | .error (.tooLarge len) => .error (.protocol s!"message too large: {len}")
  | .ok data =>
    match decode data with
    | .error e => .error (.json e)
    | .ok msg => .ok msg

/-- What `send_join_request` makes of what it is sent back. -/
def receiveJoinResponse (stream : Bytes) : Except PeeringError JoinResponse :=
  match readMessage decode stream with
  | .error e => .error e
  | .ok (.joinResponse response) =>
    match validateJoinResponse response with
    | .error e => .error (.protocol ("invalid join response: " ++ e.text))
    | .ok () => .ok response
  | .ok _ => .error (.protocol "expected JoinResponse")

end

end Mesh

end Syfrah
