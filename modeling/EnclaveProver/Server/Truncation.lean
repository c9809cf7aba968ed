import EnclaveProver.Server.Exchange
import EnclaveProver.Python.JsonCut

/-!
# Streams cut short

Both programs stop reading a stream before its end in some runs: the server's `recv` loop ends on
an idle timeout, on an exception of `recv` or on an early half-close of the bridge; the bridge's
loops end on its 5-second timeout while the client writes and on its 30-second timeout while the
enclave answers. What the other side then gets is a prefix of the bytes written. This module shows
that neither side ever acts on such a prefix: what `json.dumps` writes of an object or an array has
no proper prefix that `json.loads` reads (`loads_cut`), and a prefix of UTF-8 bytes that decodes is
a prefix of the text (`utf8_cut`).

* `exchange_cut_request`: a request whose stream the server stops reading part of the way through
  is answered with an error and not dispatched;
* `exchange_paused_request`: the same when the bridge's own 5-second timeout cuts a client's
  request short: it forwards the prefix, never reads the rest, and sends back the server's error;
* `client_loads_whole_answer`: whatever the peers do, the bytes the bridge sends back, cut short by
  its 30-second timeout or not, that the client decodes and loads are the server's whole answer.
-/

namespace EnclaveProver.Server.Truncation

open EnclaveProver.Python.Value EnclaveProver.Python.Hex EnclaveProver.Python.Files
open EnclaveProver.Python.Socket EnclaveProver.Python.Effect EnclaveProver.Python.Utf8
open EnclaveProver.Python.JsonText EnclaveProver.Pipeline.Generate EnclaveProver.Server.Handlers
open EnclaveProver.Server.Connection EnclaveProver.Bridge.Relay EnclaveProver.Server.Exchange

/-- The answer to a non-empty proper prefix of a request the client wrote, however it was read. -/
theorem handleConnection_cut (floatOf : String → PyFloat) (limit : Nat) (env : ProveEnv) {req : Dict}
    (hreq : Loadable floatOf (.dict req)) {p : Bytes} (hp : p <+: wire (.dict req)) (hne : p ≠ [])
    (hcut : p ≠ wire (.dict req)) {recv : List Recv} (hread : readAll recv [] = p) (w : World) :
    ∃ msg, (handleConnection (pythonCodec floatOf limit) env ⟨recv, .ok ()⟩).run w =
      ([.error (.str "") msg], w) := by
  rw [run_handleConnection_read _ env hread hne w]
  rcases hdec : utf8Decode p with e | s
  · exact ⟨_, by simp [respond, pythonCodec, hdec]; rfl⟩
  obtain rfl := utf8_of_utf8Decode hdec
  obtain ⟨e, he⟩ : ∃ e, loads floatOf limit s = .error e :=
    loads_cut floatOf limit hreq (by simp [nesting]) (utf8_cut hp)
      (fun h => hcut (congrArg (List.flatMap · String.utf8EncodeChar) h))
  cases e <;> exact ⟨_, by simp [respond, pythonCodec, hdec, he]; rfl⟩

/-- **A request cut short is never dispatched**: when the server's read ends (on an empty chunk, a
timeout or an exception) after a non-empty proper prefix of a request the client wrote with
`json.dumps`, that prefix is not UTF-8 or does not load as a value, and the server answers once,
with an error under the `requestId` `""`, and does nothing else. -/
theorem exchange_cut_request (floatOf : String → PyFloat) (limit : Nat) (env : ProveEnv) (req : Dict)
    (hreq : Loadable floatOf (.dict req)) {p : Bytes} (hp : p <+: wire (.dict req)) (hne : p ≠ [])
    (hcut : p ≠ wire (.dict req)) (ce : Cut p) (stop : Recv) (hstop : ∀ b, stop = .chunk b → b = [])
    (rest : List Recv) (w : World) :
    ∃ msg, (handleConnection (pythonCodec floatOf limit) env
      ⟨ce.chunks.map .chunk ++ stop :: rest, .ok ()⟩).run w = ([.error (.str "") msg], w) :=
  handleConnection_cut floatOf limit env hreq hp hne hcut
    (by simpa [ce.flatten_eq] using readAll_stop ce.chunks stop hstop rest [] ce.ne_nil) w

theorem exchange_cut_request_timeout :
    Loadable (fun _ => nan) (.dict [("type", .str "health")]) ∧
      utf8 "\x7b\"type\": \"hea" <+: wire (.dict [("type", .str "health")]) ∧ utf8 "\x7b\"type\": \"hea" ≠ [] ∧
      utf8 "\x7b\"type\": \"hea" ≠ wire (.dict [("type", .str "health")]) ∧
      (∀ b, Recv.timeout = .chunk b → b = []) ∧
      ∃ msg, (handleConnection (pythonCodec (fun _ => nan) 1) idleEnv
        ⟨(Cut.whole (utf8 "\x7b\"type\": \"hea") (by decide)).chunks.map .chunk ++ [.timeout], .ok ()⟩).run
        ⟨fun _ => none, []⟩ = ([.error (.str "") msg], ⟨fun _ => none, []⟩) :=
  have hl : Loadable (fun _ => nan) (.dict [("type", .str "health")]) := by simp [Loadable, MembersLoadable]
  ⟨hl, by decide, by decide, by decide, (fun _ h => nomatch h),
    exchange_cut_request (fun _ => nan) 1 idleEnv _ hl (by decide) (by decide) (by decide) _ .timeout
      (fun _ h => nomatch h) [] _⟩

/-- **A client that pauses in the middle of its request is answered with an error**: when the
client's stream goes idle for the bridge's 5-second timeout after a non-empty proper prefix of a
request it wrote with `json.dumps`, the bridge forwards exactly that prefix and never reads the rest;
the server answers it once with an error under the `requestId` `""`, without dispatching it, and the
bridge sends back exactly the bytes of that answer. -/
theorem exchange_paused_request (floatOf : String → PyFloat) (limit : Nat) (env : ProveEnv) (cfg : Config)
    (req : Dict) (hreq : Loadable floatOf (.dict req)) {p : Bytes} (hp : p <+: wire (.dict req))
    (hne : p ≠ []) (hcut : p ≠ wire (.dict req)) (ci ce : Cut p) (later : List Recv) (w : World) :
    ∃ msg, (handleConnection (pythonCodec floatOf limit) env ⟨ce.script, .ok ()⟩).run w =
        ([.error (.str "") msg], w) ∧
      ∀ ca : Cut (wire (Response.error (.str "") msg).toJson),
        bridge cfg ⟨.ok (), .ok (), ci.chunks.map .chunk ++ .timeout :: later, .ok (), .ok (), ca.script, .ok ()⟩ =
          [.vsConnect cfg.cid cfg.port, .vsSendall p, .vsShutdownWrite,
            .tcpSendall (wire (Response.error (.str "") msg).toJson), .vsClose, .tcpClose] := by
  obtain ⟨msg, hrun⟩ := handleConnection_cut floatOf limit env hreq hp hne hcut (readAll_script ce) w
  have hpaused : recvLoop (ci.chunks.map .chunk ++ .timeout :: later) [] = .ok p := by
    simpa [ci.flatten_eq] using recvLoop_stop ci.chunks .timeout (.inr rfl) later [] ci.ne_nil
  exact ⟨msg, hrun, fun ca => by simp [bridge, bridgeTry, exec_bind, hpaused, recvLoop_script, errorLog]⟩

theorem exchange_paused_request_health :
    Loadable (fun _ => nan) (.dict [("type", .str "health")]) ∧
      utf8 "\x7b\"type\": \"hea" <+: wire (.dict [("type", .str "health")]) ∧ utf8 "\x7b\"type\": \"hea" ≠ [] ∧
      utf8 "\x7b\"type\": \"hea" ≠ wire (.dict [("type", .str "health")]) ∧
      ∃ msg, (handleConnection (pythonCodec (fun _ => nan) 1) idleEnv
          ⟨(Cut.whole (utf8 "\x7b\"type\": \"hea") (by decide)).script, .ok ()⟩).run ⟨fun _ => none, []⟩ =
          ([.error (.str "") msg], ⟨fun _ => none, []⟩) ∧
        ∀ ca : Cut (wire (Response.error (.str "") msg).toJson),
          bridge {} ⟨.ok (), .ok (), (Cut.whole (utf8 "\x7b\"type\": \"hea") (by decide)).chunks.map .chunk ++
              .timeout :: [.chunk (utf8 "lth\"\x7d"), .chunk []], .ok (), .ok (), ca.script, .ok ()⟩ =
            [.vsConnect 16 5000, .vsSendall (utf8 "\x7b\"type\": \"hea"), .vsShutdownWrite,
              .tcpSendall (wire (Response.error (.str "") msg).toJson), .vsClose, .tcpClose] :=
  have hl : Loadable (fun _ => nan) (.dict [("type", .str "health")]) := by simp [Loadable, MembersLoadable]
  ⟨hl, by decide, by decide, by decide,
    exchange_paused_request (fun _ => nan) 1 idleEnv {} _ hl (by decide) (by decide) (by decide) _ _ _ _⟩

/-- A client that decodes and loads a prefix of the bytes of an object's or an array's text has the
whole text, and loads the value. -/
theorem eq_wire_of_loads (floatOf : String → PyFloat) (limit : Nat) {v : Json} (hv : Loadable floatOf v)
    (hn : 0 < nesting v) {b : Bytes} (hb : b <+: wire v) {s : String} (hs : utf8Decode b = .ok s) {x : Json}
    (hx : loads floatOf limit s = .ok x) : b = wire v ∧ x = v := by
  obtain rfl := utf8_of_utf8Decode hs
  by_cases hfull : s.toList = encode v
  · obtain rfl : s = dumps v := congrArg String.mk hfull
    refine ⟨rfl, ?_⟩
    by_cases hd : nesting v ≤ limit
    · rw [loads_dumps floatOf limit v hv hd] at hx
      exact (Except.ok.inj hx).symm
    · obtain ⟨e, -, he⟩ := loads_dumps_deep floatOf limit v hv (by omega)
      rw [he] at hx
      cases hx
  · obtain ⟨e, he⟩ := loads_cut floatOf limit hv hn (utf8_cut hb) hfull
    rw [show String.mk s.toList = s from rfl, hx] at he
    cases he

/-- **The client never loads a truncated answer**: whatever the peers do, when the enclave's stream
carries one of the server's answers, any bytes the bridge sends back (cut short by its 30-second idle
timeout or not) that the client decodes as UTF-8 and loads with `json.loads` are the whole answer,
and load as it. -/
theorem client_loads_whole_answer (floatOf : String → PyFloat) (limit : Nat) (cfg : Config) (p : Peers)
    {r : Response} (hr : Loadable floatOf r.requestId) (hvs : sent p.vsRecv = wire r.toJson) {b : Bytes}
    (hb : .tcpSendall b ∈ bridge cfg p) {s : String} (hs : utf8Decode b = .ok s) {x : Json}
    (hx : loads floatOf limit s = .ok x) : b = wire r.toJson ∧ x = r.toJson := by
  obtain ⟨ms, hms, -⟩ := toJson_members r
  exact eq_wire_of_loads floatOf limit (toJson_loadable floatOf r hr) (by simp [hms, nesting])
    (hvs ▸ cut_of_tcpSendall_mem hb) hs hx

theorem client_loads_whole_answer_health :
    Loadable (fun _ => nan) (Json.str "r") ∧
      sent [.chunk (wire (Response.health (.str "r")).toJson), .chunk []] = wire (Response.health (.str "r")).toJson ∧
      .tcpSendall (wire (Response.health (.str "r")).toJson) ∈
        bridge {} ⟨.ok (), .ok (), [.chunk [1], .chunk []], .ok (), .ok (),
          [.chunk (wire (Response.health (.str "r")).toJson), .chunk []], .ok ()⟩ ∧
      utf8Decode (wire (Response.health (.str "r")).toJson) = .ok (dumps (Response.health (.str "r")).toJson) ∧
      loads (fun _ => nan) 1 (dumps (Response.health (.str "r")).toJson) = .ok (Response.health (.str "r")).toJson ∧
      wire (Response.health (.str "r")).toJson = wire (Response.health (.str "r")).toJson ∧
        (Response.health (.str "r")).toJson = (Response.health (.str "r")).toJson :=
  have hs : sent [.chunk (wire (Response.health (.str "r")).toJson), .chunk []] =
      wire (Response.health (.str "r")).toJson := by decide
  have hb : .tcpSendall (wire (Response.health (.str "r")).toJson) ∈
      bridge {} ⟨.ok (), .ok (), [.chunk [1], .chunk []], .ok (), .ok (),
        [.chunk (wire (Response.health (.str "r")).toJson), .chunk []], .ok ()⟩ := by decide
  have hx : loads (fun _ => nan) 1 (dumps (Response.health (.str "r")).toJson) =
      .ok (Response.health (.str "r")).toJson := rfl
  ⟨trivial, hs, hb, utf8Decode_wire _, hx,
    client_loads_whole_answer (fun _ => nan) 1 {} _ (r := .health (.str "r")) trivial hs hb (utf8Decode_wire _) hx⟩

end EnclaveProver.Server.Truncation
