import EnclaveProver.Python.Hex

/-!
# Stream sockets

What a `recv` call on a stream socket gives, and what the peer sent. A peer is a script of the
results of successive `recv` calls; a script that runs out means that nothing more arrives, so the
socket's idle timeout fires.
-/

namespace EnclaveProver.Python.Socket

open EnclaveProver.Python.Hex

/-- What one `recv(65536)` call gives: a chunk (`b''` once the peer has closed its write side),
`socket.timeout` when the idle timeout fires, or another exception. -/
inductive Recv where
  | chunk (b : Bytes)
  | timeout
  | error (msg : String)

/-- **The bytes a peer sent** on its write side: its chunks up to the end of its stream. A timeout
is an idle pause, after which more may come; an exception ends what can be read. -/
def sent : List Recv → Bytes
  | [] => []
  | .chunk b :: rs => if b.isEmpty then [] else b ++ sent rs
  | .timeout :: rs => sent rs
  | .error _ :: _ => []

end EnclaveProver.Python.Socket
