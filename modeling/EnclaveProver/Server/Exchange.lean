import EnclaveProver.Server.Connection
import EnclaveProver.Bridge.Relay
import EnclaveProver.Python.Utf8
import EnclaveProver.Python.JsonScan

/-!
# A request through the bridge and the enclave server

The host's client sends a request over TCP to `vsock-bridge.py`, which forwards it over vsock to
`enclave-server.py`; the server answers and the bridge sends the answer back. This module puts the
two programs together with the codec of the server: `raw.decode("utf-8")`, `json.loads`, and the
`json.dumps` of the log calls and of the response, each with the recursion budget its frame leaves
(`pythonCodec`); `json.dumps(response).encode("utf-8")` is what is sent (`wire`). The network may cut
each stream into chunks of any sizes (`Cut`); every socket call succeeds (`connected`).

* `exchange_request`: a request the client writes with `json.dumps`, whose floats read back, whose
  nesting the recursion budget allows, and whose `type` and `requestId` the log call can write,
  reaches `dispatch` unchanged however the streams are cut; the bridge forwards it once and sends
  back exactly the bytes of the one response, and those bytes are UTF-8 that `json.loads` reads back
  as the response;
* `exchange_answers`: whatever non-empty bytes the client sends, it gets back the bytes of exactly
  one response, whose text `json.loads` reads back as the response, and the answer to a body that is
  not UTF-8, not JSON or not an object is an error under the `requestId` `""` that changes nothing
  (`handleConnection_python`);
* `exchange_repeated_keys`: a request text whose keys repeat reaches `dispatch` as the dict that binds
  each key to its last value;
* `exchange_padded_request`: whitespace before or after a request changes nothing;
* `exchange_deep_request`: a request nested deeper than the recursion budget is answered with the
  `RecursionError` of `json.loads` and not dispatched;
* `exchange_deep_log`: a request within the budget whose `type` or `requestId` nests within two
  levels of it is answered with the `RecursionError` of the log call's `json.dumps` and not
  dispatched;
* `handleConnection_not_utf8`: the answer to a body that is not UTF-8 names the first byte after
  its longest prefix of whole characters, by value and position (`utf8Decode_error`).

Streams that one side stops reading before their end are the subject of `Truncation`.
-/

namespace EnclaveProver.Server.Exchange

open EnclaveProver.Python.Value EnclaveProver.Python.Hex EnclaveProver.Python.Files
open EnclaveProver.Python.Socket EnclaveProver.Python.Effect EnclaveProver.Python.Utf8
open EnclaveProver.Python.JsonText EnclaveProver.Pipeline.Generate EnclaveProver.Server.Handlers
open EnclaveProver.Server.Connection EnclaveProver.Bridge.Relay

/-- **The server's codec**: `raw.decode("utf-8")`, then `json.loads` with `float()` as `floatOf` and
the recursion budget `limit` the frames below it leave. A `JSONDecodeError` is answered with its
`str()`; a `RecursionError`, and the `ValueError` of `int()` on more than `maxStrDigits` digits,
reach the outer handler. A `\uXXXX` escape of a lone surrogate makes a
`str` that no Lean string holds: the model stops there with an exception of its own, where CPython
goes on. The loop bound is never reached (`loads_ne_exhausted`).

`json.dumps` draws on the same budget (CPython 3.11 counts Python frames and the C encoder's and
decoder's `Py_EnterRecursiveCall` on one counter): `json.dumps(response)` in `handle_connection` has
as many frames below it as `json.loads` (`dumps`, `encode`, `iterencode` against `loads`, `decode`,
`raw_decode`), and the one in `log` two more (`log_info`, `log`). -/
def pythonCodec (floatOf : String → PyFloat) (limit : Nat) : Codec where
  decode := utf8Decode
  loads text :=
    match loads floatOf limit text with
    | .ok v => .ok v
    | .error (.decode msg left) => .invalid (decodeErrorText text msg left)
    | .error (.recursion msg) => .raised msg
    | .error (.value msg) => .raised msg
    | .error (.surrogate _) => .raised "lone surrogate"
    | .error .exhausted => .raised "exhausted"
  logDumps := dumpsWithin (limit - 2)
  dumps := dumpsWithin limit

/-- A peer that half-closes without sending gets no answer from the server. -/
theorem handleConnection_empty_request :
    (handleConnection (pythonCodec (fun _ => nan) 990) idleEnv ⟨[.chunk []], .ok ()⟩).run
      ⟨fun _ => none, []⟩ = ([], ⟨fun _ => none, []⟩) :=
  handleConnection_empty_body _ _ _ _

/-- `json.dumps(v).encode("utf-8")`: what `sendall` is called with. -/
def wire (v : Json) : Bytes := utf8 (dumps v)

/-- **How the network cuts a stream** into the chunks successive `recv` calls return: non-empty
pieces that make up the stream, in order. -/
structure Cut (d : Bytes) where
  chunks : List Bytes
  ne_nil : ∀ c ∈ chunks, c ≠ []
  flatten_eq : chunks.flatten = d

/-- A stream in one chunk. -/
def Cut.whole (d : Bytes) (h : d ≠ []) : Cut d := ⟨[d], by simpa using h, by simp⟩

/-- The results of `recv` on a stream cut as `c`, then closed by the peer. -/
def Cut.script {d : Bytes} (c : Cut d) : List Recv := c.chunks.map .chunk ++ [.chunk []]

/-- The bridge's peers when every socket call succeeds: the client's request arrives cut as `ci`,
the enclave's answer as `ca`. -/
def connected {m a : Bytes} (ci : Cut m) (ca : Cut a) : Peers :=
  ⟨.ok (), .ok (), ci.script, .ok (), .ok (), ca.script, .ok ()⟩

/-! ## The two programs on one stream each -/

theorem readAll_script {d : Bytes} (c : Cut d) : readAll c.script [] = d := by
  simpa [c.flatten_eq] using readAll_chunks c.chunks [] [] c.ne_nil

theorem recvLoop_script {d : Bytes} (c : Cut d) : recvLoop c.script [] = .ok d := by
  simpa [c.flatten_eq] using recvLoop_chunks c.chunks [] [] c.ne_nil

theorem bridge_connected (cfg : Config) {m a : Bytes} (ci : Cut m) (ca : Cut a) :
    bridge cfg (connected ci ca) =
      [.vsConnect cfg.cid cfg.port, .vsSendall m, .vsShutdownWrite, .tcpSendall a, .vsClose, .tcpClose] := by
  simp [bridge, bridgeTry, exec_bind, connected, recvLoop_script, errorLog]

theorem run_handleConnection (codec : Codec) (env : ProveEnv) {m : Bytes} (hm : m ≠ []) (ce : Cut m)
    (w : World) :
    (handleConnection codec env ⟨ce.script, .ok ()⟩).run w =
      (match ((respond codec env m).run w).1 with
        | .ok r => [r]
        | .error e => [serverError e], ((respond codec env m).run w).2) :=
  run_handleConnection_read codec env (readAll_script ce) hm w

/-! ## Answers that read back -/

section Responses
variable (floatOf : String → PyFloat)

theorem toJson_loadable (r : Response) (h : Loadable floatOf r.requestId) : Loadable floatOf r.toJson := by
  cases r with
  | proof rid p pis att =>
    cases att <;> simp_all [Response.toJson, Response.requestId, Loadable, MembersLoadable, itemsLoadable_iff]
  | _ => simp_all [Response.toJson, Response.requestId, Loadable, MembersLoadable]

theorem nesting_toJson (r : Response) : nesting r.toJson ≤ max (nesting r.requestId + 1) 2 := by
  have hpis : ∀ pis : List String, itemsNesting (pis.map .str) = 0 := fun pis =>
    Nat.le_zero.mp (itemsNesting_le_iff.mpr (by simp [nesting]))
  cases r with
  | proof rid p pis att =>
    cases att <;> simp only [Response.toJson, Response.requestId, nesting, membersNesting, hpis, List.cons_append,
      List.nil_append, List.singleton_append] <;> omega
  | _ => simp only [Response.toJson, Response.requestId, nesting, membersNesting]; omega

theorem lookup_mem {d : Dict} {k : String} {v : Json} (h : d.lookup k = some v) : (k, v) ∈ d := by
  induction d with
  | nil => cases h
  | cons m d ih =>
    obtain ⟨k', v'⟩ := m
    rw [List.lookup_cons] at h
    by_cases hk : k = k'
    · subst hk
      simp only [beq_self_eq_true, Option.some.injEq] at h
      simp [h]
    · rw [beq_eq_false_iff_ne.mpr hk] at h
      exact List.mem_cons_of_mem _ (ih h)

theorem get_loadable {d : Dict} (k : String) (dflt : Json) (hd : Loadable floatOf (.dict d))
    (hdflt : Loadable floatOf dflt) :
    Loadable floatOf (d.get k dflt) ∧ nesting (d.get k dflt) ≤ max (membersNesting d) (nesting dflt) := by
  unfold Dict.get
  rcases hl : d.lookup k with _ | v
  · exact ⟨hdflt, le_max_right _ _⟩
  · have hm := lookup_mem hl
    exact ⟨(membersLoadable_iff floatOf).mp hd.2 _ hm, le_max_of_le_left (membersNesting_le_iff.mp le_rfl _ hm)⟩

theorem dispatch_loadable (env : ProveEnv) {req : Dict} (w : World) (hreq : Loadable floatOf (.dict req)) :
    Loadable floatOf ((dispatch env req).run w).1.toJson ∧
      nesting ((dispatch env req).run w).1.toJson ≤ max (nesting (.dict req)) 2 := by
  have hrid := dispatch_requestId env req w
  obtain ⟨hl, hn⟩ := get_loadable floatOf "requestId" (.str "") hreq trivial
  refine ⟨toJson_loadable floatOf _ (hrid ▸ hl), ?_⟩
  have := nesting_toJson ((dispatch env req).run w).1
  rw [hrid] at this
  simp only [requestIdOf, nesting] at this hn ⊢
  omega

theorem nesting_requestIdOf (req : Dict) : nesting (requestIdOf req) = nesting (req.get "requestId" .null) := by
  unfold requestIdOf Dict.get
  cases req.lookup "requestId" <;> rfl

/-- The first log entry nests one level deeper than the request's `type` and `requestId`. -/
theorem nesting_dispatchingEntry (req : Dict) :
    nesting (dispatchingEntry req) =
      max (nesting (req.get "type" .null)) (nesting (req.get "requestId" .null)) + 1 := by
  simp [dispatchingEntry, logEntry, nesting, membersNesting]

theorem nesting_sendingEntry (r : Response) : nesting (sendingEntry r) = nesting r.requestId + 1 := by
  simp [sendingEntry, logEntry, nesting, membersNesting]

/-- **Once the first log call fits, so do the second and `json.dumps(response)`**: the response
carries the request's `requestId`, and nests at most one level deeper than it, or two. -/
theorem sendable_python (limit : Nat) (env : ProveEnv) (req : Dict) (w : World)
    (hlog : nesting (dispatchingEntry req) + 2 ≤ limit) :
    sendable (pythonCodec floatOf limit) ((dispatch env req).run w).1 = .ok ((dispatch env req).run w).1 := by
  have hrid := dispatch_requestId env req w
  have hn := nesting_toJson ((dispatch env req).run w).1
  have hr := nesting_requestIdOf req
  rw [nesting_dispatchingEntry] at hlog
  refine sendable_eq_ok_iff.mpr ⟨dumpsWithin_of_le ?_, dumpsWithin_of_le ?_, rfl⟩
  · rw [nesting_sendingEntry, hrid, hr]
    omega
  · rw [hrid, hr] at hn
    omega

/-- The `try` block on the text of an object whose first log entry fits: `dispatch`'s response and
state. -/
theorem respond_python_dict (limit : Nat) (env : ProveEnv) {m : Bytes} {text : String} {req : Dict}
    (hdec : utf8Decode m = .ok text) (hl : loads floatOf limit text = .ok (.dict req))
    (hlog : nesting (dispatchingEntry req) + 2 ≤ limit) (w : World) :
    (respond (pythonCodec floatOf limit) env m).run w =
      (.ok ((dispatch env req).run w).1, ((dispatch env req).run w).2) := by
  have hfit : (pythonCodec floatOf limit).logDumps (dispatchingEntry req) = .ok () :=
    dumpsWithin_of_le (by omega)
  rw [run_respond_dict env hdec (show (pythonCodec floatOf limit).loads text = .ok (.dict req) by
    simp [pythonCodec, hl]), hfit, sendable_python floatOf limit env req w hlog]

/-- The `try` block on the text of an object whose first log entry does not fit: the log call's
`RecursionError`, before `dispatch`. -/
theorem respond_python_dict_log (limit : Nat) (env : ProveEnv) {m : Bytes} {text : String} {req : Dict}
    (hdec : utf8Decode m = .ok text) (hl : loads floatOf limit text = .ok (.dict req))
    (hlog : limit < nesting (dispatchingEntry req) + 2) (w : World) :
    (respond (pythonCodec floatOf limit) env m).run w = (.error encodeRecursionText, w) := by
  have hfail : (pythonCodec floatOf limit).logDumps (dispatchingEntry req) = .error encodeRecursionText :=
    dumpsWithin_of_lt (by have := nesting_dispatchingEntry req; omega)
  rw [run_respond_dict env hdec (show (pythonCodec floatOf limit).loads text = .ok (.dict req) by
    simp [pythonCodec, hl]), hfail]

end Responses

/-! ## The exchange -/

theorem utf8Decode_wire (v : Json) : utf8Decode (wire v) = .ok (dumps v) := utf8Decode_utf8 _

theorem wire_dict_ne_nil (ms : Dict) : wire (.dict ms) ≠ [] := by
  simp [wire, dumps, utf8, encode, show String.utf8EncodeChar '\x7b' ≠ [] by decide]

/-- **A request the client writes with `json.dumps` is answered exactly**: the server reads it in
any chunks and answers it once, with `dispatch` of it; the bridge, reading both streams in any chunks,
forwards the request and sends back exactly the bytes of the answer, which decode and load back as
the response. -/
theorem exchange_request (floatOf : String → PyFloat) (limit : Nat) (env : ProveEnv) (cfg : Config)
    (req : Dict) (hreq : Loadable floatOf (.dict req)) (hd : nesting (.dict req) ≤ limit)
    (hlog : nesting (dispatchingEntry req) + 2 ≤ limit) (w : World) (ci ce : Cut (wire (.dict req))) :
    (handleConnection (pythonCodec floatOf limit) env ⟨ce.script, .ok ()⟩).run w =
        ([((dispatch env req).run w).1], ((dispatch env req).run w).2) ∧
      (∀ ca : Cut (wire ((dispatch env req).run w).1.toJson), bridge cfg (connected ci ca) =
        [.vsConnect cfg.cid cfg.port, .vsSendall (wire (.dict req)), .vsShutdownWrite,
          .tcpSendall (wire ((dispatch env req).run w).1.toJson), .vsClose, .tcpClose]) ∧
      (utf8Decode (wire ((dispatch env req).run w).1.toJson)).map (loads floatOf (max limit 2)) =
        .ok (.ok ((dispatch env req).run w).1.toJson) := by
  have hload : loads floatOf limit (dumps (.dict req)) = .ok (.dict req) := loads_dumps floatOf limit _ hreq hd
  obtain ⟨hr, hn⟩ := dispatch_loadable floatOf env w hreq
  refine ⟨?_, fun ca => bridge_connected cfg ci ca, ?_⟩
  · rw [run_handleConnection _ env (wire_dict_ne_nil req) ce w,
      respond_python_dict floatOf limit env (utf8Decode_wire _) hload hlog]
  · rw [utf8Decode_wire, Except.map, loads_dumps floatOf _ _ hr (by omega)]


theorem exchange_request_health :
    (handleConnection (pythonCodec (fun _ => nan) 3) idleEnv
        ⟨(Cut.whole _ (wire_dict_ne_nil [("type", .str "health"), ("requestId", .str "r")])).script, .ok ()⟩).run
        ⟨fun _ => none, []⟩ = ([.health (.str "r")], ⟨fun _ => none, []⟩) :=
  (exchange_request (fun _ => nan) 3 idleEnv {} [("type", .str "health"), ("requestId", .str "r")]
    (by simp [Loadable, MembersLoadable]) (by decide) (by decide) ⟨fun _ => none, []⟩
    (Cut.whole _ (wire_dict_ne_nil _)) (Cut.whole _ (wire_dict_ne_nil _))).1

/-- **A request that repeats a key is dispatched on the key's last value**: a request text written as
`json.dumps` writes a dict, but whose top-level keys may repeat (as a client that builds the text
itself may write it), reaches `dispatch`, however the stream is cut, as the dict `json.loads` builds,
which binds each key to its last value. -/
theorem exchange_repeated_keys (floatOf : String → PyFloat) (limit : Nat) (env : ProveEnv)
    (ms : List (String × Json)) (hms : MembersLoadable floatOf ms) (hd : nesting (.dict ms) ≤ limit)
    (hlog : nesting (dispatchingEntry (setItems [] ms)) + 2 ≤ limit) (w : World) (ce : Cut (wire (.dict ms))) :
    (∀ k, (setItems [] ms).lookup k = ms.reverse.lookup k) ∧
      (handleConnection (pythonCodec floatOf limit) env ⟨ce.script, .ok ()⟩).run w =
        ([((dispatch env (setItems [] ms)).run w).1], ((dispatch env (setItems [] ms)).run w).2) := by
  have hload : loads floatOf limit (dumps (.dict ms)) = .ok (.dict (setItems [] ms)) := by
    simpa using loads_encode_members floatOf limit ms hms hd [] [] (by simp) (by simp)
  refine ⟨fun k => by rw [lookup_setItems]; exact Option.or_none, ?_⟩
  rw [run_handleConnection _ env (wire_dict_ne_nil ms) ce w,
    respond_python_dict floatOf limit env (utf8Decode_wire _) hload hlog]

theorem exchange_repeated_keys_health :
    MembersLoadable (fun _ => nan) [("type", .str "prove"), ("type", .str "health")] ∧
      nesting (.dict [("type", .str "prove"), ("type", .str "health")]) ≤ 3 ∧
      nesting (dispatchingEntry (setItems [] [("type", .str "prove"), ("type", .str "health")])) + 2 ≤ 3 ∧
      (∀ k, (setItems [] [("type", .str "prove"), ("type", .str "health")]).lookup k =
        [("type", Json.str "prove"), ("type", .str "health")].reverse.lookup k) ∧
      (handleConnection (pythonCodec (fun _ => nan) 3) idleEnv
          ⟨(Cut.whole _ (wire_dict_ne_nil [("type", .str "prove"), ("type", .str "health")])).script, .ok ()⟩).run
          ⟨fun _ => none, []⟩ =
        ([((dispatch idleEnv (setItems [] [("type", .str "prove"), ("type", .str "health")])).run
            ⟨fun _ => none, []⟩).1],
          ((dispatch idleEnv (setItems [] [("type", .str "prove"), ("type", .str "health")])).run
            ⟨fun _ => none, []⟩).2) :=
  have hl : MembersLoadable (fun _ => nan) [("type", .str "prove"), ("type", .str "health")] := by
    simp [MembersLoadable, Loadable]
  ⟨hl, by decide, by decide, exchange_repeated_keys (fun _ => nan) 3 idleEnv _ hl (by decide) (by decide) _ _⟩

example : ((dispatch idleEnv (setItems [] [("type", .str "prove"), ("type", .str "health")])).run
    ⟨fun _ => none, []⟩).1 = .health (.str "") := rfl

/-- **Whitespace around a request changes nothing**: a request the client writes with `json.dumps`,
with spaces, tabs or line ends before or after it (a trailing newline, say), is dispatched as it is
without them. -/
theorem exchange_padded_request (floatOf : String → PyFloat) (limit : Nat) (env : ProveEnv) (req : Dict)
    (hreq : Loadable floatOf (.dict req)) (hd : nesting (.dict req) ≤ limit)
    (hlog : nesting (dispatchingEntry req) + 2 ≤ limit) (pre post : List Char)
    (hpre : ∀ c ∈ pre, IsWs c) (hpost : ∀ c ∈ post, IsWs c) (w : World)
    (ce : Cut (utf8 (String.mk (pre ++ encode (.dict req) ++ post)))) :
    (handleConnection (pythonCodec floatOf limit) env ⟨ce.script, .ok ()⟩).run w =
      ([((dispatch env req).run w).1], ((dispatch env req).run w).2) := by
  have hload := loads_encode_members floatOf limit req hreq.2 hd pre post hpre hpost
  rw [setItems_of_nodup [] req (by simpa using hreq.1), List.nil_append] at hload
  have hne : utf8 (String.mk (pre ++ encode (.dict req) ++ post)) ≠ [] := fun h => by
    have hdec := utf8Decode_utf8 (String.mk (pre ++ encode (.dict req) ++ post))
    rw [h] at hdec
    have hnil := congrArg String.data (Except.ok.inj (show Except.ok (String.mk []) = _ from hdec))
    simp [encode] at hnil
  rw [run_handleConnection _ env hne ce w, respond_python_dict floatOf limit env (utf8Decode_utf8 _) hload hlog]

theorem exchange_padded_request_newline :
    Loadable (fun _ => nan) (.dict [("type", .str "health")]) ∧
      nesting (.dict [("type", .str "health")]) ≤ 3 ∧
      nesting (dispatchingEntry [("type", .str "health")]) + 2 ≤ 3 ∧ (∀ c ∈ ([] : List Char), IsWs c) ∧
      (∀ c ∈ ['\n'], IsWs c) ∧
      (handleConnection (pythonCodec (fun _ => nan) 3) idleEnv
          ⟨(Cut.whole (utf8 (String.mk ([] ++ encode (.dict [("type", .str "health")]) ++ ['\n']))) (by decide)).script,
            .ok ()⟩).run ⟨fun _ => none, []⟩ =
        ([((dispatch idleEnv [("type", .str "health")]).run ⟨fun _ => none, []⟩).1],
          ((dispatch idleEnv [("type", .str "health")]).run ⟨fun _ => none, []⟩).2) :=
  have hl : Loadable (fun _ => nan) (.dict [("type", .str "health")]) := by simp [Loadable, MembersLoadable]
  ⟨hl, by decide, by decide, by simp, by decide,
    exchange_padded_request (fun _ => nan) 3 idleEnv _ hl (by decide) (by decide) [] ['\n'] (by simp) (by decide) _ _⟩

/-- **A request nested deeper than the recursion budget is not dispatched**: the server answers it
with the `RecursionError` of the first array or object past the budget, and nothing else happens. -/
theorem exchange_deep_request (floatOf : String → PyFloat) (limit : Nat) (env : ProveEnv) (req : Dict)
    (hreq : Loadable floatOf (.dict req)) (hd : limit < nesting (.dict req)) (w : World)
    (ce : Cut (wire (.dict req))) :
    ∃ what, (what = "array" ∨ what = "object") ∧
      (handleConnection (pythonCodec floatOf limit) env ⟨ce.script, .ok ()⟩).run w =
        ([serverError (recursionText what)], w) := by
  obtain ⟨e, he, hload⟩ := loads_dumps_deep floatOf limit _ hreq hd
  have hrun : ∀ what, e = .recursion (recursionText what) →
      (handleConnection (pythonCodec floatOf limit) env ⟨ce.script, .ok ()⟩).run w =
        ([serverError (recursionText what)], w) := by
    rintro what rfl
    rw [run_handleConnection _ env (wire_dict_ne_nil req) ce w]
    simp [respond, pythonCodec, utf8Decode_wire, hload]
  rcases he with he | he
  · exact ⟨_, .inl rfl, hrun _ he⟩
  · exact ⟨_, .inr rfl, hrun _ he⟩

theorem exchange_deep_request_nested :
    Loadable (fun _ => nan) (.dict [("type", .list [.list [.int 1]])]) ∧
      1 < nesting (.dict [("type", .list [.list [.int 1]])]) ∧
      ∃ what, (what = "array" ∨ what = "object") ∧
        (handleConnection (pythonCodec (fun _ => nan) 1) idleEnv
          ⟨(Cut.whole _ (wire_dict_ne_nil [("type", .list [.list [.int 1]])])).script, .ok ()⟩).run
          ⟨fun _ => none, []⟩ = ([serverError (recursionText what)], ⟨fun _ => none, []⟩) :=
  have hl : Loadable (fun _ => nan) (.dict [("type", .list [.list [.int 1]])]) := by
    simp [Loadable, MembersLoadable, ItemsLoadable]; decide
  ⟨hl, by decide, exchange_deep_request (fun _ => nan) 1 idleEnv _ hl (by decide) _ _⟩

/-- **A request whose `type` or `requestId` nests within two levels of the budget is not
dispatched**: `json.loads` reads it, but `json.dumps` of the first log entry, which holds the two,
runs two frames deeper and raises `RecursionError`; the server answers with it under the
`requestId` `""`, and nothing else happens. -/
theorem exchange_deep_log (floatOf : String → PyFloat) (limit : Nat) (env : ProveEnv) (req : Dict)
    (hreq : Loadable floatOf (.dict req)) (hd : nesting (.dict req) ≤ limit)
    (hlog : limit < nesting (dispatchingEntry req) + 2) (w : World) (ce : Cut (wire (.dict req))) :
    (handleConnection (pythonCodec floatOf limit) env ⟨ce.script, .ok ()⟩).run w =
      ([serverError encodeRecursionText], w) := by
  rw [run_handleConnection _ env (wire_dict_ne_nil req) ce w,
    respond_python_dict_log floatOf limit env (utf8Decode_wire _) (loads_dumps floatOf limit _ hreq hd) hlog]

theorem exchange_deep_log_requestId :
    Loadable (fun _ => nan) (.dict [("type", .str "health"), ("requestId", .list [.list []])]) ∧
      nesting (.dict [("type", .str "health"), ("requestId", .list [.list []])]) ≤ 3 ∧
      3 < nesting (dispatchingEntry [("type", .str "health"), ("requestId", .list [.list []])]) + 2 ∧
      (handleConnection (pythonCodec (fun _ => nan) 3) idleEnv
          ⟨(Cut.whole _ (wire_dict_ne_nil [("type", .str "health"), ("requestId", .list [.list []])])).script,
            .ok ()⟩).run ⟨fun _ => none, []⟩ = ([serverError encodeRecursionText], ⟨fun _ => none, []⟩) :=
  have hl : Loadable (fun _ => nan) (.dict [("type", .str "health"), ("requestId", .list [.list []])]) := by
    simp [Loadable, MembersLoadable, ItemsLoadable]
  ⟨hl, by decide, by decide, exchange_deep_log (fun _ => nan) 3 idleEnv _ hl (by decide) (by decide) _ _⟩

/-- **Every body gets one answer, which can be written back**; a body that is not the UTF-8 text of an
object is answered with an error under the `requestId` `""`, and nothing else happens. -/
theorem handleConnection_python (floatOf : String → PyFloat) (hfloat : ∀ t, FloatRoundTrips floatOf (floatOf t))
    (limit : Nat) (env : ProveEnv) {m : Bytes} (hm : m ≠ []) (ce : Cut m) (w : World) :
    ∃ r w', (handleConnection (pythonCodec floatOf limit) env ⟨ce.script, .ok ()⟩).run w = ([r], w') ∧
      Loadable floatOf r.toJson ∧ nesting r.toJson ≤ max limit 2 ∧
      ((∀ text, utf8Decode m = .ok text → ∀ req, loads floatOf limit text ≠ .ok (.dict req)) →
        r.type = "error" ∧ r.requestId = .str "" ∧ w' = w) := by
  have herr : ∀ msg, Loadable floatOf (Response.error (.str "") msg).toJson ∧
      nesting (Response.error (.str "") msg).toJson ≤ max limit 2 := fun msg =>
    ⟨toJson_loadable floatOf _ trivial, by simp [Response.toJson, nesting, membersNesting]⟩
  rw [run_handleConnection _ env hm ce w]
  rcases hdec : utf8Decode m with e | text
  · exact ⟨_, _, by simp [respond, pythonCodec, hdec]; rfl, (herr _).1, (herr _).2, fun _ => ⟨rfl, rfl, rfl⟩⟩
  rcases hl : loads floatOf limit text with e | v
  · cases e <;> exact ⟨_, _, by simp [respond, pythonCodec, hdec, hl]; rfl, (herr _).1, (herr _).2, fun _ => ⟨rfl, rfl, rfl⟩⟩
  · cases v with
    | dict req =>
      by_cases hlog : nesting (dispatchingEntry req) + 2 ≤ limit
      · obtain ⟨hv, hn⟩ := loads_loadable floatOf hfloat hl
        obtain ⟨hr, hrn⟩ := dispatch_loadable floatOf env w hv
        exact ⟨_, _, by rw [respond_python_dict floatOf limit env hdec hl hlog], hr,
          hrn.trans (max_le_max hn le_rfl), fun h => absurd hl (h text rfl req)⟩
      · exact ⟨_, _, by rw [respond_python_dict_log floatOf limit env hdec hl (by omega)]; rfl, (herr _).1, (herr _).2,
          fun _ => ⟨rfl, rfl, rfl⟩⟩
    | _ => exact ⟨_, _, by simp [respond, pythonCodec, hdec, hl]; rfl, (herr _).1, (herr _).2, fun _ => ⟨rfl, rfl, rfl⟩⟩

/-- **Every request is answered with one JSON text**: whatever non-empty bytes the client sends, the
server answers exactly once, and the bridge sends back exactly the bytes of that answer, which decode
and load back as the response. A body that is not UTF-8, not JSON or not an object is answered with
an error under the `requestId` `""` and changes nothing; texts with a `\uXXXX` escape of a lone
surrogate, which the model does not read as CPython does, are set aside. -/
theorem exchange_answers (floatOf : String → PyFloat) (hfloat : ∀ t, FloatRoundTrips floatOf (floatOf t))
    (limit : Nat) (env : ProveEnv) (cfg : Config) {m : Bytes} (hm : m ≠ []) (ci ce : Cut m) (w : World) :
    ∃ r w', (handleConnection (pythonCodec floatOf limit) env ⟨ce.script, .ok ()⟩).run w = ([r], w') ∧
      (∀ ca : Cut (wire r.toJson), bridge cfg (connected ci ca) =
        [.vsConnect cfg.cid cfg.port, .vsSendall m, .vsShutdownWrite, .tcpSendall (wire r.toJson), .vsClose,
          .tcpClose]) ∧
      (utf8Decode (wire r.toJson)).map (loads floatOf (max limit 2)) = .ok (.ok r.toJson) ∧
      ((∀ text, utf8Decode m = .ok text → (∀ req, loads floatOf limit text ≠ .ok (.dict req)) ∧
          ∀ left, loads floatOf limit text ≠ .error (.surrogate left)) →
        r.type = "error" ∧ r.requestId = .str "" ∧ w' = w) := by
  obtain ⟨r, w', hrun, hr, hn, herr⟩ := handleConnection_python floatOf hfloat limit env hm ce w
  exact ⟨r, w', hrun, fun ca => bridge_connected cfg ci ca, by
    rw [utf8Decode_wire, Except.map, loads_dumps floatOf _ _ hr hn], fun h => herr fun text hd => (h text hd).1⟩

theorem exchange_answers_not_utf8 :
    ∃ r w', (handleConnection (pythonCodec (fun _ => nan) 1) idleEnv
        ⟨(Cut.whole [0xFF] (by decide)).script, .ok ()⟩).run ⟨fun _ => none, []⟩ = ([r], w') ∧
      (∀ ca : Cut (wire r.toJson), bridge {} (connected (Cut.whole [0xFF] (by decide)) ca) =
        [.vsConnect 16 5000, .vsSendall [0xFF], .vsShutdownWrite, .tcpSendall (wire r.toJson), .vsClose,
          .tcpClose]) ∧
      (utf8Decode (wire r.toJson)).map (loads (fun _ => nan) (max 1 2)) = .ok (.ok r.toJson) ∧
      ((∀ text, utf8Decode [0xFF] = .ok text → (∀ req, loads (fun _ => nan) 1 text ≠ .ok (.dict req)) ∧
          ∀ left, loads (fun _ => nan) 1 text ≠ .error (.surrogate left)) →
        r.type = "error" ∧ r.requestId = .str "" ∧ w' = ⟨fun _ => none, []⟩) :=
  exchange_answers (fun _ => nan) (fun _ => Or.inl rfl) 1 idleEnv {} (by decide) _ _ _

end EnclaveProver.Server.Exchange
