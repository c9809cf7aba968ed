import EnclaveProver.Python.Utf8
import EnclaveProver.Python.JsonText
import EnclaveProver.Nsm.Attestation
import EnclaveProver.Python.Effect

/-!
# The proof pipeline

`generate_proof(circuit_id, inputs, request_id, prover_toml)` resolves the circuit in `CIRCUITS`,
checks that its bytecode and verification key exist, creates the workspace
`CIRCUIT_BASE_DIR/proof-<request_id>-<name>` with `TemporaryDirectory`, and inside it writes
`Prover.toml`, copies `Nargo.toml`, `src/` and `target/` from the circuit's directory, runs
`nargo execute`, looks up the witness, runs `bb prove`, reads the proof and public inputs, and asks
the NSM for an attestation of the proof's SHA-256. The workspace is removed on every way out of the
`with` block.

The pipeline runs in `M`: exceptions `PyExc` over the state `World`, the filesystem together with
the command lines of the tool runs so far (`calls`). The two tools are oracles of their command line
and of the filesystem they see; a run writes entries below the directory it is given (`nargo`:
strictly below the workspace; `bb`: at or below its `-o` path) and exits with a code and the bytes it
printed after some time, or has no executable. `subprocess.run` kills a run still going after
`PROVE_TIMEOUT_SECONDS` (each run has its own timeout), and `text=True` decodes what it printed
strictly as UTF-8. The random names of `mkdtemp`, SHA-256, the NSM, the order in which directories
are listed and the recursion budget are the rest of the environment `ProveEnv`.

`log_info` prints `json.dumps` of its entry; the entry of `Starting proof generation` holds the
request's `requestId`, so its `json.dumps` raises `RecursionError` when that nests too deep
(`logInfo`). The other log calls write entries of fixed shape, which no budget a thread starts with
is too small for, and are left out.
-/

namespace EnclaveProver.Pipeline.Generate

open EnclaveProver.Python.Value EnclaveProver.Python.Hex EnclaveProver.Python.Files
open EnclaveProver.Nsm.Attestation EnclaveProver.Python.Effect EnclaveProver.Python.Utf8
open EnclaveProver.Python.JsonText

/-! ### Exceptions and the monad -/

/-- **The exceptions the pipeline raises**, by the class `handle_prove` catches them as: a
`UnicodeDecodeError` is a `ValueError`, a `RecursionError` a `RuntimeError`. -/
inductive PyExc where
  | valueError (msg : String)
  | runtimeError (msg : String)
  | timeoutExpired
  | osError (e : OsError)
  | typeError (msg : String)
  /-- `shutil.Error`, an `OSError` whose text is the list of errors `copytree` collected. -/
  | shutilError (errors : String)

/-- A tool run: its command line, the directory it writes below, and what it wrote there. -/
structure ToolCall where
  argv : List String
  dir : Path
  writes : List (Path × Entry)

/-- The filesystem, and the tool runs so far. -/
structure World where
  fs : Fs
  calls : List ToolCall

/-- The pipeline's monad. -/
abbrev M := PyM PyExc World

/-- A fallible step without effects. -/
def liftE {α : Type} : Except PyExc α → M α
  | .ok a => pure a
  | .error e => throw e

/-- The entry `log(level, msg, **kwargs)` writes: `{"time": time.time(), "level": level, "msg": msg}`
updated with `kwargs`. The time, a float, is left out: it nests no deeper. -/
def logEntry (level msg : String) (kwargs : Dict) : Json :=
  .dict ([("level", .str level), ("msg", .str msg)] ++ kwargs)

/-- **`log_info(msg, **kwargs)`** where `json.dumps` has `limit` levels of recursion left: the entry
goes to `stderr`, which nothing reads, or `json.dumps` raises `RecursionError`. -/
def logInfo (limit : Nat) (msg : String) (kwargs : Dict) : M Unit :=
  liftE ((dumpsWithin limit (logEntry "info" msg kwargs)).mapError .runtimeError)

/-- The filesystem now. -/
def readFs : M Fs := do return (← get).fs

/-- Change the filesystem. -/
def modifyFs (f : Fs → Fs) : M Unit := modify fun w => { w with fs := f w.fs }

/-- A filesystem call that may raise `OSError`. -/
def osStep (f : Fs → Except OsError Fs) : M Unit := do
  match f (← readFs) with
  | .ok fs => modifyFs fun _ => fs
  | .error e => throw (.osError e)

/-! ### Circuits -/

/-- A circuit's entry in `CIRCUITS`: its directory and the names of its artifacts below `target`. -/
structure CircuitMeta where
  dir : String
  bytecode : String
  vk : Path

/-- `CIRCUITS`. -/
def CIRCUITS : List (String × CircuitMeta) :=
  [("coinbase_attestation", ⟨"coinbase-attestation", "coinbase_attestation.json", ["vk", "vk"]⟩),
   ("coinbase_country_attestation",
     ⟨"coinbase-country-attestation", "coinbase_country_attestation.json", ["vk", "vk"]⟩)]

/-- `CIRCUIT_BASE_DIR`. -/
def CIRCUIT_BASE_DIR : String := "/app/circuits"

/-- `CIRCUIT_BASE_DIR` as a path. -/
def circuitBase : Path := ["app", "circuits"]

/-- `PROVE_TIMEOUT_SECONDS`. -/
def PROVE_TIMEOUT_SECONDS : Nat := 120

/-- The paths `get_circuit_paths` returns. -/
structure CircuitPaths where
  dir : Path
  bytecode : Path
  vk : Path

/-- The paths of a circuit's entry. -/
def CircuitMeta.paths (m : CircuitMeta) : CircuitPaths :=
  { dir := circuitBase ++ [m.dir]
    bytecode := circuitBase ++ [m.dir, "target", m.bytecode]
    vk := circuitBase ++ [m.dir, "target"] ++ m.vk }

/-- **`get_circuit_paths(circuit_id)`**, with the key it was found under: `circuit_id not in CIRCUITS`
raises `TypeError` on a list or dict (unhashable) and `ValueError` on any other value that is not a
key. -/
def getCircuitPaths (circuitId : Json) : Except PyExc (String × CircuitPaths) :=
  let unknown := PyExc.valueError ("Unknown circuitId '" ++ circuitId.pyStr ++ "'. " ++
    "Supported: " ++ ", ".intercalate (CIRCUITS.map Prod.fst))
  match circuitId with
  | .list _ => .error (.typeError "unhashable type: 'list'")
  | .dict _ => .error (.typeError "unhashable type: 'dict'")
  | .str s =>
    match CIRCUITS.lookup s with
    | some m => .ok (s, m.paths)
    | none => .error unknown
  | _ => .error unknown

/-- The artifact check: the bytecode, then the verification key, must exist. -/
def checkArtifacts (fs : Fs) (paths : CircuitPaths) : Except PyExc Unit :=
  if !fs.exists? paths.bytecode then
    .error (.runtimeError ("Circuit artifact missing: bytecode at " ++ render paths.bytecode))
  else if !fs.exists? paths.vk then
    .error (.runtimeError ("Circuit artifact missing: vk at " ++ render paths.vk))
  else .ok ()

/-! ### The tools -/

/-- How a tool run ends: it exits with `code` after `millis` milliseconds, having printed the bytes
`stdout` and `stderr`; or `Popen` finds no executable of its name. -/
inductive ToolExit where
  | exited (code : Int) (stdout stderr : Bytes) (millis : Nat)
  | notFound

/-- **A run of `nargo execute`**: the entries it writes strictly below its program directory, and
how it ends. -/
structure NargoRun where
  writes : List (Path × Entry)
  below : ∀ w ∈ writes, w.1 ≠ []
  exit : ToolExit

/-- A run of `bb prove`: the entries it writes at or below its output path, and how it ends. -/
structure BbRun where
  writes : List (Path × Entry)
  exit : ToolExit

/-- **The environment of a proof request**: the names `mkdtemp` draws, the two tools as functions of
their command line and of the filesystem they start on, SHA-256, the NSM, the recursion budget of
`generate_proof`'s log calls, and the errors of a `copytree` into itself. -/
structure ProveEnv where
  names : Nat → TempName
  nargo : List String → Fs → NargoRun
  bb : List String → Fs → BbRun
  sha256 : Bytes → Bytes
  nsm : Nsm
  /-- The levels of recursion `json.dumps` has left in `generate_proof`'s log calls. On CPython 3.11,
  where Python frames and `Py_EnterRecursiveCall` draw on one counter, five fewer than `json.loads`
  has in `handle_connection`: `dispatch`, `handle_prove` and `generate_proof` are three frames more,
  and `log_info`, `log`, `dumps`, `encode` and `iterencode` two more than `loads`, `decode` and
  `raw_decode`. -/
  logLimit : Nat
  /-- The text of the list of errors `shutil.copytree` collects when it copies a tree into itself,
  which depends on the order in which `os.scandir` lists the directories. -/
  copyErrors : String

/-- The entries of a run written below `dir`. -/
def applyWrites (dir : Path) (writes : List (Path × Entry)) (fs : Fs) : Fs :=
  writes.foldl (fun fs w => fs.set (dir ++ w.1) w.2) fs

/-- Universal newlines: `\r\n` and `\r` become `\n`. -/
def translateNewlines : List Char → List Char
  | '\r' :: '\n' :: cs => '\n' :: translateNewlines cs
  | '\r' :: cs => '\n' :: translateNewlines cs
  | c :: cs => c :: translateNewlines cs
  | [] => []

/-- **What `text=True` makes of a tool's output** (`Popen._translate_newlines`): `bytes.decode` with
the locale's encoding, UTF-8 in the enclave's C locale (PEP 538), and `errors="strict"`, whose
`UnicodeDecodeError` is a `ValueError`; then universal newlines. -/
def decodeOutput (b : Bytes) : Except PyExc String :=
  match utf8Decode b with
  | .ok s => .ok (String.mk (translateNewlines s.toList))
  | .error msg => .error (.valueError msg)

/-- What `subprocess.run` returns or raises once a run has exited after `millis` milliseconds: the
run is killed at the timeout (`TimeoutExpired`); `communicate` then decodes `stdout` and `stderr`.
The exit code and `stderr` are returned. -/
def toolResult (code : Int) (stdout stderr : Bytes) (millis : Nat) : Except PyExc (Int × String) := do
  if PROVE_TIMEOUT_SECONDS * 1000 ≤ millis then throw .timeoutExpired
  let _ ← decodeOutput stdout
  let err ← decodeOutput stderr
  pure (code, err)

/-- **`subprocess.run(argv, capture_output=True, text=True, timeout=PROVE_TIMEOUT_SECONDS)`** of a
run writing below `dir`: `FileNotFoundError` when there is no executable; otherwise the writes land,
the run is logged with them, and `toolResult` says what it returns. -/
def runTool (argv : List String) (dir : Path) (writes : List (Path × Entry)) (exit : ToolExit) :
    M (Int × String) := do
  match exit with
  | .notFound => throw (.osError (noSuchFile (argv.headD "")))
  | .exited code stdout stderr millis =>
    modify fun w => { fs := applyWrites dir writes w.fs, calls := w.calls ++ [⟨argv, dir, writes⟩] }
    liftE (toolResult code stdout stderr millis)

/-! ### The steps inside the workspace -/

/-- The line `write_prover_toml` writes for the `i`-th input: `input_<i> = "<str(val)>"`. -/
def tomlLine (i : Nat) (v : Json) : String := "input_" ++ toString i ++ " = \"" ++ v.pyStr ++ "\""

/-- The `Prover.toml` text `write_prover_toml` writes: its lines joined by newlines, and a newline. -/
def proverTomlText (inputs : List Json) : String :=
  "\n".intercalate (((List.range inputs.length).zip inputs).map fun (i, v) => tomlLine i v) ++ "\n"

/-- Step 1: `Prover.toml` from `proverToml` when it is truthy (`f.write` raises `TypeError` on a
value that is not a string, after `open` created the file), else from the inputs. -/
def writeProverToml (ws : Path) (inputs : List Json) (proverToml : Json) : M Unit := do
  let path := ws ++ ["Prover.toml"]
  if proverToml.truthy then
    match proverToml with
    | .str t => modifyFs (·.set path (.file (utf8 t)))
    | v =>
      modifyFs (·.set path (.file []))
      throw (.typeError ("write() argument must be str, not " ++ v.typeName))
  else modifyFs (·.set path (.file (utf8 (proverTomlText inputs))))

/-- `if os.path.exists(src): op`. -/
def ifExists (src : Path) (op : M Unit) : M Unit := do
  if (← readFs).exists? src then op

/-- `shutil.copytree(src, dst)`: a copy into itself leaves what it copied and raises `shutil.Error`
with the errors `errors`. -/
def copytreeStep (errors : String) (src dst : Path) : M Unit := do
  match copytree (← readFs) src dst with
  | .failed e => throw (.osError e)
  | .copied fs => modifyFs fun _ => fs
  | .copiedIntoItself fs =>
    modifyFs fun _ => fs
    throw (.shutilError errors)

/-- Step 2: `Nargo.toml`, `src/` and `target/` copied from the circuit's directory when they exist. -/
def stage (env : ProveEnv) (dir ws : Path) : M Unit := do
  ifExists (dir ++ ["Nargo.toml"]) (osStep (copy2 · (dir ++ ["Nargo.toml"]) (ws ++ ["Nargo.toml"])))
  ifExists (dir ++ ["src"]) (copytreeStep env.copyErrors (dir ++ ["src"]) (ws ++ ["src"]))
  ifExists (dir ++ ["target"]) (copytreeStep env.copyErrors (dir ++ ["target"]) (ws ++ ["target"]))

/-- The command line of `nargo execute`. -/
def nargoCmd (ws : Path) : List String := ["nargo", "execute", "--program-dir", render ws]

/-- **A tool step** of `generate_proof`: the run, and a non-zero exit raises
`RuntimeError(f"<tool> failed (exit {returncode}): {stderr}")`. -/
def runChecked (tool : String) (argv : List String) (dir : Path) (writes : List (Path × Entry))
    (exit : ToolExit) : M Unit := do
  let (code, stderr) ← runTool argv dir writes exit
  if code ≠ 0 then
    throw (.runtimeError (tool ++ " failed (exit " ++ toString code ++ "): " ++ stderr))

/-- Step 3: `nargo execute`, writing below the workspace. -/
def runNargo (env : ProveEnv) (ws : Path) : M Unit := do
  let run := env.nargo (nargoCmd ws) (← readFs)
  runChecked "nargo execute" (nargoCmd ws) ws run.writes run.exit

/-- **The witness lookup**: `target/<circuit_id>.gz`, else `target/witness.gz`, in the workspace. -/
def locateWitness (fs : Fs) (ws : Path) (circuitId : String) : Except PyExc Path :=
  let witnessPath := ws ++ ["target", circuitId ++ ".gz"]
  let alt := ws ++ ["target", "witness.gz"]
  if fs.exists? witnessPath then .ok witnessPath
  else if fs.exists? alt then .ok alt
  else .error (.runtimeError
    ("Witness file not found after nargo execute. Expected: " ++ render witnessPath))

/-- The command line of `bb prove`. -/
def bbCmd (paths : CircuitPaths) (witness ws : Path) : List String :=
  ["bb", "prove", "-b", render paths.bytecode, "-w", render witness, "-o", render (ws ++ ["proof"]),
   "-k", render paths.vk, "--oracle_hash", "keccak"]

/-- Step 4: `bb prove`, writing below `proof` in the workspace. -/
def runBb (env : ProveEnv) (paths : CircuitPaths) (witness ws : Path) : M Unit := do
  let argv := bbCmd paths witness ws
  let run := env.bb argv (← readFs)
  runChecked "bb prove" argv (ws ++ ["proof"]) run.writes run.exit

/-- Steps 5 and 6: the proof bytes (`proof/proof` when `proof` is a directory) and the public inputs,
one blob when `proof/public_inputs` exists. -/
def readOutputs (fs : Fs) (ws : Path) : Except PyExc (Bytes × List String) := do
  let out := ws ++ ["proof"]
  let proofFile := if fs.isDir out then out ++ ["proof"] else out
  if !fs.exists? proofFile then
    throw (.runtimeError ("bb prove did not produce output at " ++ render proofFile))
  let proofBytes ← (readFile fs proofFile).mapError .osError
  let pi := out ++ ["public_inputs"]
  if fs.exists? pi then
    let piBytes ← (readFile fs pi).mapError .osError
    return (proofBytes, ["0x" ++ bytesHex piBytes])
  return (proofBytes, [])

/-- **What `generate_proof` returns.** -/
structure ProveResult where
  proof : String
  publicInputs : List String
  attestationDocument : Option String

/-- Step 7, and the result: the attestation of the proof's SHA-256, kept when it is a non-empty text. -/
def proveResult (env : ProveEnv) (proofBytes : Bytes) (publicInputs : List String) : ProveResult :=
  { proof := "0x" ++ bytesHex proofBytes
    publicInputs := publicInputs
    attestationDocument :=
      (docB64 (getNsmAttestation env.nsm (env.sha256 proofBytes))).filter (· != "") }

/-- The steps before the attestation, inside the workspace `ws`: the first log call, which writes the
`requestId`, then steps 1 to 6. -/
def proveOutputs (env : ProveEnv) (circuitId : String) (paths : CircuitPaths) (inputs : List Json)
    (proverToml requestId : Json) (ws : Path) : M (Bytes × List String) := do
  logInfo env.logLimit "Starting proof generation" [("request_id", requestId), ("circuit_id", .str circuitId)]
  writeProverToml ws inputs proverToml
  stage env paths.dir ws
  runNargo env ws
  let witness ← liftE (locateWitness (← readFs) ws circuitId)
  runBb env paths witness ws
  liftE (readOutputs (← readFs) ws)

/-- `with TemporaryDirectory(...) as ws:` around `body`: `ws` is removed whether the body returns or
raises. -/
def withWorkspace {α : Type} (ws : Path) (body : M α) : M α := do
  let r ← tryCatch body fun e => do
    modifyFs (·.removeTree ws)
    throw e
  modifyFs (·.removeTree ws)
  pure r

/-- The prefix of the workspace's name, `f"proof-{request_id}-"`. -/
def workspacePrefix (requestId : Json) : String := "proof-" ++ requestId.pyStr ++ "-"

/-- `TemporaryDirectory(prefix=workspacePrefix requestId, dir=CIRCUIT_BASE_DIR)`: `mkdtemp`. -/
def createWorkspace (env : ProveEnv) (requestId : Json) : M Path := do
  match mkdtemp (← readFs) CIRCUIT_BASE_DIR (workspacePrefix requestId) env.names with
  | .ok (fs, ws) => do modifyFs fun _ => fs; pure ws
  | .error (.valueError msg) => throw (.valueError msg)
  | .error (.os e) => throw (.osError e)

/-- The first lines of `generate_proof`: the circuit's key and paths, the artifact check, and the
workspace. -/
def prepare (env : ProveEnv) (circuitId requestId : Json) : M (String × CircuitPaths × Path) := do
  let (cid, paths) ← liftE (getCircuitPaths circuitId)
  liftE (checkArtifacts (← readFs) paths)
  let ws ← createWorkspace env requestId
  pure (cid, paths, ws)

/-- **`generate_proof`.** -/
def generateProof (env : ProveEnv) (circuitId : Json) (inputs : List Json) (requestId : Json)
    (proverToml : Json) : M ProveResult := do
  let (cid, paths, ws) ← prepare env circuitId requestId
  withWorkspace ws do
    let (proofBytes, publicInputs) ← proveOutputs env cid paths inputs proverToml requestId ws
    pure (proveResult env proofBytes publicInputs)

/-- `generate_proof` without the attestation step, which touches no file. -/
def proveStage (env : ProveEnv) (circuitId : Json) (inputs : List Json) (requestId : Json)
    (proverToml : Json) : M (Bytes × List String) := do
  let (cid, paths, ws) ← prepare env circuitId requestId
  withWorkspace ws (proveOutputs env cid paths inputs proverToml requestId ws)

/-! ### Running the steps -/

@[simp] theorem exec_readFs (w : World) : exec readFs w = (.ok w.fs, w) := rfl

@[simp] theorem exec_modifyFs (f : Fs → Fs) (w : World) :
    exec (modifyFs f) w = (.ok (), { w with fs := f w.fs }) := rfl

@[simp] theorem exec_liftE {α : Type} (x : Except PyExc α) (w : World) :
    exec (liftE x) w = (x, w) := by
  cases x <;> rfl

theorem exec_runTool (argv : List String) (dir : Path) (writes : List (Path × Entry))
    (exit : ToolExit) (w : World) :
    exec (runTool argv dir writes exit) w =
      match exit with
      | .notFound => (.error (.osError (noSuchFile (argv.headD ""))), w)
      | .exited code out err millis => (toolResult code out err millis,
          { fs := applyWrites dir writes w.fs, calls := w.calls ++ [⟨argv, dir, writes⟩] }) := by
  cases exit
  · simp only [runTool, exec_bind, exec_modify, exec_liftE]
  · rfl

theorem exec_logInfo (limit : Nat) (msg : String) (kwargs : Dict) (w : World) :
    exec (logInfo limit msg kwargs) w =
      (if membersNesting kwargs < limit then .ok () else .error (.runtimeError encodeRecursionText), w) := by
  have hn : nesting (logEntry "info" msg kwargs) = membersNesting kwargs + 1 := by
    simp [logEntry, nesting, membersNesting]
  have hle : membersNesting kwargs + 1 ≤ limit ↔ membersNesting kwargs < limit := Nat.succ_le
  by_cases h : membersNesting kwargs < limit <;> simp [logInfo, dumpsWithin, hn, hle, h, Except.mapError]

/-- **A tool run that returns**: the tool exits 0 before the timeout, and what it printed on
`stdout` and on `stderr` is UTF-8 text. -/
def ToolExit.Succeeded : ToolExit → Prop
  | .exited code out err millis =>
    code = 0 ∧ millis < PROVE_TIMEOUT_SECONDS * 1000 ∧ (∃ s, utf8 s = out) ∧ ∃ s, utf8 s = err
  | .notFound => False

theorem decodeOutput_eq_ok {b : Bytes} {s : String} (h : decodeOutput b = .ok s) : ∃ t, utf8 t = b := by
  unfold decodeOutput at h
  split at h
  · exact ⟨_, utf8_of_utf8Decode ‹_›⟩
  · cases h

theorem decodeOutput_utf8 (s : String) :
    decodeOutput (utf8 s) = .ok (String.mk (translateNewlines s.toList)) := by
  simp [decodeOutput, utf8Decode_utf8]

/-- What `subprocess.run` returns: the exit code, once the run ended in time and printed UTF-8. -/
theorem toolResult_eq_ok {code : Int} {out err : Bytes} {millis : Nat} {r : Int × String}
    (h : toolResult code out err millis = .ok r) :
    r.1 = code ∧ millis < PROVE_TIMEOUT_SECONDS * 1000 ∧ (∃ s, utf8 s = out) ∧ ∃ s, utf8 s = err := by
  unfold toolResult at h
  split_ifs at h with ht
  · cases h
  cases hO : decodeOutput out <;> cases hE : decodeOutput err <;> rw [hO, hE] at h <;> cases h
  exact ⟨rfl, Nat.lt_of_not_le ht, decodeOutput_eq_ok hO, decodeOutput_eq_ok hE⟩

theorem toolResult_utf8 (code : Int) (so se : String) {millis : Nat}
    (ht : millis < PROVE_TIMEOUT_SECONDS * 1000) :
    toolResult code (utf8 so) (utf8 se) millis = .ok (code, String.mk (translateNewlines se.toList)) := by
  unfold toolResult
  rw [if_neg (Nat.not_le.mpr ht), decodeOutput_utf8, decodeOutput_utf8]
  rfl

/-- **The workspace is removed on both ways out of the `with` block.** -/
theorem exec_withWorkspace {α : Type} (ws : Path) (body : M α) (w : World) :
    exec (withWorkspace ws body) w =
      ((exec body w).1, { (exec body w).2 with fs := (exec body w).2.fs.removeTree ws }) := by
  rcases h : exec body w with ⟨_ | a, w1⟩ <;>
    simp [withWorkspace, exec_bind, exec_tryCatch, h, exec_map]

/-- `generate_proof` is its stages followed by the attestation step. -/
theorem exec_generateProof (env : ProveEnv) (circuitId : Json) (inputs : List Json)
    (requestId proverToml : Json) (w : World) :
    exec (generateProof env circuitId inputs requestId proverToml) w =
      match exec (proveStage env circuitId inputs requestId proverToml) w with
      | (.ok (pb, pis), w') => (.ok (proveResult env pb pis), w')
      | (.error e, w') => (.error e, w') := by
  simp only [generateProof, proveStage, exec_bind]
  rcases exec (prepare env circuitId requestId) w with ⟨_ | ⟨cid, paths, ws⟩, w1⟩
  · rfl
  · simp only [exec_withWorkspace, exec_bind]
    rcases exec (proveOutputs env cid paths inputs proverToml requestId ws) w1 with ⟨_ | ⟨pb, pis⟩, w2⟩ <;> rfl

end EnclaveProver.Pipeline.Generate
