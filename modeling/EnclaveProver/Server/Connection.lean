import EnclaveProver.Server.Handlers
import EnclaveProver.Python.Socket

/-!
# `handle_connection`

`handle_connection(conn, addr)` reads the request until the peer half-closes (a 5-second idle
timeout, or any other exception of `recv`, ends the read with the chunks so far), returns without
an answer when nothing was read, decodes the bytes as UTF-8 and parses them with `json.loads`, logs
the request's `type` and `requestId`, calls `dispatch`, logs the response's `type` and `requestId`,
and sends `json.dumps(response)`. A `JSONDecodeError` is answered with `Invalid JSON: …`; every
other exception (a byte string that is not UTF-8, a JSON value that is not an object and so has no
`get`, a `json.dumps` of a log entry or of the response that raises, a `sendall` that raises)
reaches the outer handler, which sends `Server error: …`. The payloads the connection is sent are
the list `handleConnection` returns.

The codec (`bytes.decode`, `json.loads`, and `json.dumps` from `log` and from `handle_connection`)
is the environment `Codec`. The log calls whose entries have a fixed shape are left out: no
`json.dumps` raises on them.

* `handleConnection_empty_body`: a peer that half-closes without sending anything gets no answer;
* `handleConnection_one_response`: every non-empty body, however it is cut into chunks, is answered
  exactly once while the connection stays writable. When the body is the UTF-8 text of a JSON
  object whose first log entry can be written, `dispatch` runs on it, and its response, under the
  request's `requestId`, is sent unless writing the second entry or the response raises; every
  other body is answered with an error under the `requestId` `""`, and the state is left as it was.
-/

namespace EnclaveProver.Server.Connection

open EnclaveProver.Python.Value EnclaveProver.Python.Hex EnclaveProver.Python.Socket
open EnclaveProver.Pipeline.Generate EnclaveProver.Server.Handlers

/-- What `json.loads` does with a text: a value, a `JSONDecodeError` with its text, or another
exception (a `RecursionError` on deep nesting). -/
inductive Loaded where
  | ok (v : Json)
  | invalid (msg : String)
  | raised (msg : String)

/-- **The codec**: `bytes.decode("utf-8")`, with the text of its `UnicodeDecodeError`; `json.loads`;
and `json.dumps` as `log` calls it from `handle_connection` (`logDumps`) and as `handle_connection`
calls it on the response (`dumps`), with the text of what they raise. -/
structure Codec where
  decode : Bytes → Except String String
  loads : String → Loaded
  logDumps : Json → Except String Unit
  dumps : Json → Except String Unit

/-- What the peer does: the results of successive `recv` calls, and whether the first `sendall`
raises. -/
structure Conn where
  recv : List Recv
  sendall : Except String Unit

/-- **The read loop**: chunks until an empty one; a timeout or another exception ends the read with
the chunks so far. -/
def readAll : List Recv → Bytes → Bytes
  | [], raw => raw
  | .chunk b :: rs, raw => if b.isEmpty then raw else readAll rs (raw ++ b)
  | .timeout :: _, raw => raw
  | .error _ :: _, raw => raw

/-- The answer of the outer handler to an exception. -/
def serverError (msg : String) : Response := .error (.str "") ("Server error: " ++ msg)

/-- The entry of `log_info("Dispatching request", type=request.get("type"),
request_id=request.get("requestId"))`. -/
def dispatchingEntry (req : Dict) : Json :=
  logEntry "info" "Dispatching request" [("type", req.get "type" .null), ("request_id", req.get "requestId" .null)]

/-- The entry of `log_info("Sending response", type=response.get("type"),
request_id=response.get("requestId"))`. -/
def sendingEntry (r : Response) : Json :=
  logEntry "info" "Sending response" [("type", .str r.type), ("request_id", r.requestId)]

/-- What follows `dispatch`: the second log call and `json.dumps(response)`, then the response
`sendall` is called with, or the text of the exception raised before it. -/
def sendable (codec : Codec) (r : Response) : Except String Response := do
  codec.logDumps (sendingEntry r)
  codec.dumps r.toJson
  pure r

/-- **The `try` block after the read**: the response `sendall` is called with, or the text of the
exception raised before it. -/
def respond (codec : Codec) (env : ProveEnv) (raw : Bytes) : StateM World (Except String Response) :=
  match codec.decode raw with
  | .error e => pure (.error e)
  | .ok text =>
    match codec.loads text with
    | .invalid e => pure (.ok (.error (.str "") ("Invalid JSON: " ++ e)))
    | .raised e => pure (.error e)
    | .ok (.dict req) =>
      match codec.logDumps (dispatchingEntry req) with
      | .error e => pure (.error e)
      | .ok () => sendable codec <$> dispatch env req
    | .ok v => pure (.error ("'" ++ v.typeName ++ "' object has no attribute 'get'"))

/-- **`handle_connection`**: the responses `sendall` is called with, in order. -/
def handleConnection (codec : Codec) (env : ProveEnv) (conn : Conn) : StateM World (List Response) := do
  let raw := readAll conn.recv []
  if raw.isEmpty then return []
  match ← respond codec env raw with
  | .ok r =>
    match conn.sendall with
    | .ok () => return [r]
    | .error e => return [r, serverError e]
  | .error e => return [serverError e]

/-! ### The request -/

/-- **The read ends where the stream does**: non-empty chunks, then an empty chunk, a timeout or
an exception, whatever comes after. -/
theorem readAll_stop (cs : List Bytes) (stop : Recv) (hstop : ∀ b, stop = .chunk b → b = [])
    (tail : List Recv) (raw : Bytes) (h : ∀ c ∈ cs, c ≠ []) :
    readAll (cs.map .chunk ++ stop :: tail) raw = raw ++ cs.flatten := by
  induction cs generalizing raw with
  | nil =>
    cases stop with
    | chunk b => simp [readAll, hstop b rfl]
    | timeout | error _ => simp [readAll]
  | cons c cs ih =>
    have hc : c.isEmpty = false := List.isEmpty_eq_false.mpr (h c (List.mem_cons_self _ _))
    simp [readAll, hc, ih _ (fun c hc => h c (List.mem_cons_of_mem _ hc))]

theorem readAll_chunks (cs : List Bytes) (tail : List Recv) (raw : Bytes) (h : ∀ c ∈ cs, c ≠ []) :
    readAll (cs.map .chunk ++ .chunk [] :: tail) raw = raw ++ cs.flatten :=
  readAll_stop cs _ (fun _ h => (Recv.chunk.inj h).symm) tail raw h

/-- **No answer to an empty request**: a peer that half-closes without sending gets nothing back. -/
theorem handleConnection_empty_body (codec : Codec) (env : ProveEnv) (sendall : Except String Unit)
    (w : World) : (handleConnection codec env ⟨[.chunk []], sendall⟩).run w = ([], w) :=
  rfl

/-- **One connection with a body that stays writable** is answered once: with what the `try` block
after the read gives, or with the outer handler's error. -/
theorem run_handleConnection_read (codec : Codec) (env : ProveEnv) {recv : List Recv} {m : Bytes}
    (hread : readAll recv [] = m) (hm : m ≠ []) (w : World) :
    (handleConnection codec env ⟨recv, .ok ()⟩).run w =
      (match ((respond codec env m).run w).1 with
        | .ok r => [r]
        | .error e => [serverError e], ((respond codec env m).run w).2) := by
  have hemp : m.isEmpty = false := List.isEmpty_eq_false.mpr hm
  simp only [handleConnection, hread, hemp, Bool.false_eq_true, if_false, pure_bind, StateT.run_bind]
  rcases StateT.run (respond codec env m) w with ⟨_ | r, w'⟩ <;> rfl

/-- The `try` block on a body that loads as an object: the first log call, then `dispatch` and what
follows it. -/
theorem run_respond_dict {codec : Codec} (env : ProveEnv) {raw : Bytes} {text : String} {req : Dict}
    (hdec : codec.decode raw = .ok text) (hl : codec.loads text = .ok (.dict req)) (w : World) :
    (respond codec env raw).run w =
      match codec.logDumps (dispatchingEntry req) with
      | .error e => (.error e, w)
      | .ok () => (sendable codec ((dispatch env req).run w).1, ((dispatch env req).run w).2) := by
  cases hlog : codec.logDumps (dispatchingEntry req) <;> simp [respond, hdec, hl, hlog]

theorem sendable_eq_ok_iff {codec : Codec} {r r' : Response} :
    sendable codec r = .ok r' ↔
      codec.logDumps (sendingEntry r) = .ok () ∧ codec.dumps r.toJson = .ok () ∧ r' = r := by
  cases h1 : codec.logDumps (sendingEntry r) <;> cases h2 : codec.dumps r.toJson <;>
    simp [sendable, h1, h2, bind, Except.bind, pure, Except.pure, eq_comm]

/-- **One answer to every non-empty request**: a body cut into chunks of any sizes and ended by the
peer's half-close, on a connection that stays writable, is answered exactly once. When the body
decodes to the text of a JSON object whose first log entry `json.dumps` writes, `dispatch` runs on
it; its response carries the request's `requestId` and is the answer when the second log entry and
the response are written too, and the answer is an error under the `requestId` `""` otherwise.
Every other body is answered with an error under the `requestId` `""`, and the state is left as it
was. -/
theorem handleConnection_one_response (codec : Codec) (env : ProveEnv) (cs : List Bytes)
    (tail : List Recv) (w : World) (hcs : ∀ c ∈ cs, c ≠ []) (hne : cs.flatten ≠ []) :
    (∀ text req r w', codec.decode cs.flatten = .ok text → codec.loads text = .ok (.dict req) →
      codec.logDumps (dispatchingEntry req) = .ok () → (dispatch env req).run w = (r, w') →
      r.requestId = requestIdOf req ∧
      (codec.logDumps (sendingEntry r) = .ok () → codec.dumps r.toJson = .ok () →
        (handleConnection codec env ⟨cs.map .chunk ++ .chunk [] :: tail, .ok ()⟩).run w = ([r], w')) ∧
      (¬ (codec.logDumps (sendingEntry r) = .ok () ∧ codec.dumps r.toJson = .ok ()) →
        ∃ msg, (handleConnection codec env ⟨cs.map .chunk ++ .chunk [] :: tail, .ok ()⟩).run w =
          ([.error (.str "") msg], w'))) ∧
    ((¬ ∃ text req, codec.decode cs.flatten = .ok text ∧ codec.loads text = .ok (.dict req) ∧
        codec.logDumps (dispatchingEntry req) = .ok ()) →
      ∃ msg, (handleConnection codec env ⟨cs.map .chunk ++ .chunk [] :: tail, .ok ()⟩).run w =
        ([.error (.str "") msg], w)) := by
  have hrun := run_handleConnection_read codec env (by simpa using readAll_chunks cs tail [] hcs) hne w
  refine ⟨fun text req r w' hdec hloads hlog hd => ⟨?_, fun h1 h2 => ?_, fun hw => ?_⟩, fun hnot => ?_⟩
  · simpa [hd] using dispatch_requestId env req w
  · rw [hrun, run_respond_dict env hdec hloads, hlog, hd, sendable_eq_ok_iff.mpr ⟨h1, h2, rfl⟩]
  · rw [hrun, run_respond_dict env hdec hloads, hlog, hd]
    cases hs : sendable codec r with
    | error e => exact ⟨_, rfl⟩
    | ok r' => exact absurd ⟨(sendable_eq_ok_iff.mp hs).1, (sendable_eq_ok_iff.mp hs).2.1⟩ hw
  · rw [hrun]
    rcases hdec : codec.decode cs.flatten with e | text
    · exact ⟨_, by simp [respond, hdec]; rfl⟩
    rcases hloads : codec.loads text with v | e | e
    · cases v
      case dict req =>
        rw [run_respond_dict env hdec hloads]
        cases hlog : codec.logDumps (dispatchingEntry req) with
        | error e => exact ⟨_, rfl⟩
        | ok u => exact absurd ⟨text, req, hdec, hloads, hlog⟩ hnot
      all_goals exact ⟨_, by simp [respond, hdec, hloads]; rfl⟩
    all_goals exact ⟨_, by simp [respond, hdec, hloads]; rfl⟩

/-- An environment whose tools write and print nothing and exit 0 at once, on a host without an
NSM device. -/
def idleEnv : ProveEnv where
  names := fun _ => ⟨List.replicate 8 'a', rfl, by decide⟩
  nargo := fun _ _ => ⟨[], by simp, .exited 0 [] [] 0⟩
  bb := fun _ _ => ⟨[], .exited 0 [] [] 0⟩
  sha256 := id
  nsm := ⟨false, false, fun _ => [], fun _ => none, fun _ => .raised ""⟩
  logLimit := 990
  copyErrors := ""

theorem handleConnection_health :
    (handleConnection ⟨fun _ => .ok "request",
        fun _ => .ok (.dict [("type", .str "health"), ("requestId", .str "r")]), fun _ => .ok (),
        fun _ => .ok ()⟩
      idleEnv ⟨[.chunk [1], .chunk []], .ok ()⟩).run ⟨fun _ => none, []⟩ =
      ([.health (.str "r")], ⟨fun _ => none, []⟩) :=
  ((handleConnection_one_response _ idleEnv [[1]] [] _ (by decide) (by decide)).1 "request"
    [("type", .str "health"), ("requestId", .str "r")] (.health (.str "r")) ⟨fun _ => none, []⟩
    rfl rfl rfl rfl).2.1 rfl rfl

end EnclaveProver.Server.Connection
