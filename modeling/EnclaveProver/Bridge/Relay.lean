import EnclaveProver.Python.Socket
import EnclaveProver.Python.Effect

/-!
# The TCP-to-vsock bridge

`bridge(tcp_conn, addr)` serves one TCP connection of the host: it opens a vsock connection to the
enclave, reads the whole request from TCP (until the client half-closes, or the 5-second idle
timeout fires), sends it to the enclave and shuts the write side down, reads the whole response
(until the enclave closes, or the 30-second idle timeout fires) and sends it back. Any other
exception is logged as `Bridge error: …`; both sockets are closed in every case.

What the two peers and the host do is the environment `Peers`: the results of successive `recv`
calls on each socket, and whether each other socket call raises. The run is the list of socket
calls the bridge makes (`Op`).

* `recvLoop_chunks`: the accumulation loop returns exactly the bytes of a stream, however it is
  split into chunks, once the peer closes;
* `bridge_round_trip`: a request `m` and a response `r` cross the bridge unmodified and in order;
* `bridge_forwards_prefix`: whatever the peers do, the bridge sends each side at most a prefix of
  what the other side sent: no byte is invented, reordered or sent twice.
-/

namespace EnclaveProver.Bridge.Relay

open EnclaveProver.Python.Hex EnclaveProver.Python.Effect EnclaveProver.Python.Socket

/-- **The accumulation loop** of `bridge`: chunks are appended to `data` until an empty chunk or a
timeout ends it; another exception escapes. A script that runs out means that nothing more
arrives, so the idle timeout fires. -/
def recvLoop : List Recv → Bytes → Except String Bytes
  | [], data => .ok data
  | .chunk b :: rs, data => if b.isEmpty then .ok data else recvLoop rs (data ++ b)
  | .timeout :: _, data => .ok data
  | .error e :: _, _ => .error e

/-- `VSOCK_CID` and `VSOCK_PORT`, the enclave's address (`ENCLAVE_CID`, `ENCLAVE_PORT`). -/
structure Config where
  cid : Nat := 16
  port : Nat := 5000

/-- **What the peers and the host do** during one `bridge` call: whether `socket(AF_VSOCK, ...)`,
`connect`, each `sendall` and the `shutdown` raise (with the text of the exception), and the results
of successive `recv` calls on the TCP and on the vsock connection. -/
structure Peers where
  socket : Except String Unit
  connect : Except String Unit
  tcpRecv : List Recv
  vsSendall : Except String Unit
  vsShutdown : Except String Unit
  vsRecv : List Recv
  tcpSendall : Except String Unit

/-- A socket call the bridge makes. -/
inductive Op where
  | vsConnect (cid port : Nat)
  | vsSendall (b : Bytes)
  | vsShutdownWrite
  | tcpSendall (b : Bytes)
  | logError (msg : String)
  | vsClose
  | tcpClose
  deriving DecidableEq

/-- The calls that send on a socket. -/
def Op.isSend : Op → Bool
  | .vsSendall _ | .vsShutdownWrite | .tcpSendall _ => true
  | _ => false

/-- The `try` block records the calls it makes; an exception is its text. -/
abbrev BridgeM := PyM String (List Op)

/-- A socket call `o` with its outcome `r`: it is made whether or not it raises. -/
def call (o : Op) (r : Except String Unit) : BridgeM Unit := do
  modify (· ++ [o])
  liftExcept r

/-- **The `try` block of `bridge`.** -/
def bridgeTry (cfg : Config) (p : Peers) : BridgeM Unit := do
  liftExcept p.socket
  call (.vsConnect cfg.cid cfg.port) p.connect
  let data ← liftExcept (recvLoop p.tcpRecv [])
  call (.vsSendall data) p.vsSendall
  call .vsShutdownWrite p.vsShutdown
  let resp ← liftExcept (recvLoop p.vsRecv [])
  call (.tcpSendall resp) p.tcpSendall

/-- The `except` clause: `print(f'Bridge error: {e}')`. -/
def errorLog : Except String Unit → List Op
  | .ok () => []
  | .error e => [.logError ("Bridge error: " ++ e)]

/-- **`bridge(tcp_conn, addr)`**: the `try` block, the log line of an exception, then the `finally`
clause, which closes the vsock socket when it was created and the TCP connection always. -/
def bridge (cfg : Config) (p : Peers) : List Op :=
  let (r, ops) := exec (bridgeTry cfg p) []
  ops ++ errorLog r ++ (if p.socket matches .ok () then [.vsClose] else []) ++ [.tcpClose]

@[simp] theorem exec_call (o : Op) (r : Except String Unit) (ops : List Op) :
    exec (call o r) ops = (r, ops ++ [o]) := by
  simp [call, exec_bind]

/-! ### The accumulation loop -/

/-- The loop returns the chunks up to where the peer closes or the idle timeout fires; what follows
is never read. -/
theorem recvLoop_stop (cs : List Bytes) (stop : Recv) (hstop : stop = .chunk [] ∨ stop = .timeout)
    (tail : List Recv) (acc : Bytes) (h : ∀ c ∈ cs, c ≠ []) :
    recvLoop (cs.map .chunk ++ stop :: tail) acc = .ok (acc ++ cs.flatten) := by
  induction cs generalizing acc with
  | nil => rcases hstop with rfl | rfl <;> simp [recvLoop]
  | cons c cs ih =>
    have hc : c.isEmpty = false := List.isEmpty_eq_false.mpr (h c (List.mem_cons_self _ _))
    simp [recvLoop, hc, ih _ (fun c hc => h c (List.mem_cons_of_mem _ hc))]

/-- **The loop returns the whole stream**, however it is cut into non-empty chunks, once the peer
closes; what follows the end of the stream is never read. -/
theorem recvLoop_chunks (cs : List Bytes) (tail : List Recv) (acc : Bytes) (h : ∀ c ∈ cs, c ≠ []) :
    recvLoop (cs.map .chunk ++ .chunk [] :: tail) acc = .ok (acc ++ cs.flatten) :=
  recvLoop_stop cs _ (.inl rfl) tail acc h

/-- Whatever the peer does, the loop returns a prefix of what it sent. -/
theorem recvLoop_prefix (rs : List Recv) (acc d : Bytes) (h : recvLoop rs acc = .ok d) :
    ∃ pre, d = acc ++ pre ∧ pre <+: sent rs := by
  induction rs generalizing acc with
  | nil => cases h; exact ⟨[], by simp, List.nil_prefix⟩
  | cons r rs ih =>
    cases r with
    | chunk b =>
      by_cases hb : b.isEmpty
      · simp only [recvLoop, hb, if_true, Except.ok.injEq] at h
        exact ⟨[], by simp [h], List.nil_prefix⟩
      · simp only [recvLoop, hb, if_false, Bool.false_eq_true] at h
        obtain ⟨pre, rfl, hpre⟩ := ih _ h
        exact ⟨b ++ pre, by simp, by simpa [sent, hb] using hpre⟩
    | timeout => cases h; exact ⟨[], by simp, List.nil_prefix⟩
    | error e => cases h

/-! ### A run -/

/-- **The round trip**: when the client sends `m` and half-closes, and the enclave answers `r` and
closes, in chunks of any sizes and before an idle timeout, the bridge sends exactly `m` to the
enclave, shuts the write side down, sends exactly `r` back, and closes both sockets. -/
theorem bridge_round_trip (cfg : Config) (p : Peers) (m r : Bytes) (ms rs : List Bytes)
    (tcpTail vsTail : List Recv) (hms : ∀ c ∈ ms, c ≠ []) (hm : ms.flatten = m)
    (hrs : ∀ c ∈ rs, c ≠ []) (hr : rs.flatten = r)
    (htcp : p.tcpRecv = ms.map .chunk ++ .chunk [] :: tcpTail)
    (hvs : p.vsRecv = rs.map .chunk ++ .chunk [] :: vsTail)
    (hsock : p.socket = .ok ()) (hconn : p.connect = .ok ()) (hsend : p.vsSendall = .ok ())
    (hshut : p.vsShutdown = .ok ()) :
    bridge cfg p = [.vsConnect cfg.cid cfg.port, .vsSendall m, .vsShutdownWrite, .tcpSendall r] ++
      errorLog p.tcpSendall ++ [.vsClose, .tcpClose] := by
  have h1 := recvLoop_chunks ms tcpTail [] hms
  have h2 := recvLoop_chunks rs vsTail [] hrs
  rw [← htcp, List.nil_append, hm] at h1
  rw [← hvs, List.nil_append, hr] at h2
  simp [bridge, bridgeTry, exec_bind, h1, h2, hsock, hconn, hsend, hshut]

theorem bridge_round_trip_chunks :
    bridge {}
        { socket := .ok (), connect := .ok (), tcpRecv := [.chunk [1, 2], .chunk [3], .chunk []],
          vsSendall := .ok (), vsShutdown := .ok (), vsRecv := [.chunk [4], .chunk []],
          tcpSendall := .ok () } =
      [.vsConnect 16 5000, .vsSendall [1, 2, 3], .vsShutdownWrite, .tcpSendall [4], .vsClose, .tcpClose] :=
  bridge_round_trip {} _ [1, 2, 3] [4] [[1, 2], [3]] [[4]] [] [] (by decide) rfl (by decide) rfl rfl rfl
    rfl rfl rfl rfl

/-- The calls of the `try` block: a prefix of the full sequence, whose two payloads are prefixes of
what the peers sent. -/
theorem bridgeTry_calls (cfg : Config) (p : Peers) :
    ∃ m r, m <+: sent p.tcpRecv ∧ r <+: sent p.vsRecv ∧ (exec (bridgeTry cfg p) []).2 <+:
      [.vsConnect cfg.cid cfg.port, .vsSendall m, .vsShutdownWrite, .tcpSendall r] := by
  have nil := @List.nil_prefix UInt8
  rcases hsock : p.socket with e | ⟨⟩
  · exact ⟨[], [], nil, nil, by simp [bridgeTry, exec_bind, hsock]⟩
  rcases hconn : p.connect with e | ⟨⟩
  · exact ⟨[], [], nil, nil, by simp [bridgeTry, exec_bind, hsock, hconn]⟩
  rcases hd : recvLoop p.tcpRecv [] with e | d
  · exact ⟨[], [], nil, nil, by simp [bridgeTry, exec_bind, hsock, hconn, hd]⟩
  obtain ⟨m, hdm, hm⟩ := recvLoop_prefix _ _ _ hd
  rw [List.nil_append] at hdm
  subst hdm
  rcases hsend : p.vsSendall with e | ⟨⟩
  · exact ⟨_, [], hm, nil, by simp [bridgeTry, exec_bind, hsock, hconn, hd, hsend]⟩
  rcases hshut : p.vsShutdown with e | ⟨⟩
  · exact ⟨_, [], hm, nil, by simp [bridgeTry, exec_bind, hsock, hconn, hd, hsend, hshut]⟩
  rcases hr : recvLoop p.vsRecv [] with e | r
  · exact ⟨_, [], hm, nil, by simp [bridgeTry, exec_bind, hsock, hconn, hd, hsend, hshut, hr]⟩
  obtain ⟨r', hrr, hr'⟩ := recvLoop_prefix _ _ _ hr
  rw [List.nil_append] at hrr
  subst hrr
  exact ⟨_, _, hm, hr', by simp [bridgeTry, exec_bind, hsock, hconn, hd, hsend, hshut, hr]⟩

/-- What the bridge sends the client is a prefix of what the enclave sent. -/
theorem cut_of_tcpSendall_mem {cfg : Config} {p : Peers} {b : Bytes} (hb : .tcpSendall b ∈ bridge cfg p) :
    b <+: sent p.vsRecv := by
  obtain ⟨m, r, -, hr, hops⟩ := bridgeTry_calls cfg p
  rcases h : exec (bridgeTry cfg p) [] with ⟨res, ops⟩
  rw [h] at hops
  have hmem : Op.tcpSendall b ∈ ops := by
    simp only [bridge, h, List.mem_append, List.mem_singleton, reduceCtorEq, or_false] at hb
    rcases hb with (hb | hb) | hb
    · exact hb
    · cases res <;> simp [errorLog] at hb
    · split at hb <;> simp at hb
  have hbr := hops.subset hmem
  simp only [List.mem_cons, reduceCtorEq, Op.tcpSendall.injEq, false_or, List.mem_nil_iff, or_false] at hbr
  exact hbr ▸ hr

/-- **The bridge forwards only what it received**: whatever the peers do, its sends are, in order, a
prefix of: one send of a prefix of the client's stream, the shutdown, one send of a prefix of the
enclave's stream. -/
theorem bridge_forwards_prefix (cfg : Config) (p : Peers) :
    ∃ m r, m <+: sent p.tcpRecv ∧ r <+: sent p.vsRecv ∧
      (bridge cfg p).filter Op.isSend <+: [.vsSendall m, .vsShutdownWrite, .tcpSendall r] := by
  obtain ⟨m, r, hm, hr, hops⟩ := bridgeTry_calls cfg p
  refine ⟨m, r, hm, hr, ?_⟩
  have hlog : ∀ x : Except String Unit, (errorLog x).filter Op.isSend = [] := by
    rintro (_ | ⟨⟩) <;> rfl
  rcases hs : p.socket with _ | ⟨⟩ <;> simpa [bridge, hs, hlog, Op.isSend] using hops.filter Op.isSend

end EnclaveProver.Bridge.Relay
