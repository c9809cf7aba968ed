import EnclaveProver.Server.Workspaces

/-!
# How a prove request ends

`handle_prove` answers with a `proof` response only when `generate_proof` returned, and so only when
each of its steps returned. The steps' returning runs are taken apart one statement at a time with
`exec_bind_eq_ok`; what each step needs to return is its lemma `exec_*_eq_ok`.

* `handleProve_proof`: a `proof` response carries the request's `requestId`, and its checks passed,
  `mkdtemp` created the workspace, the first log call wrote the `requestId`, `Prover.toml` and the
  copies were written, `nargo execute` and `bb prove` both exited 0 in time and printed UTF-8 text
  (`ToolsSucceeded`), and the proof is `"0x"` followed by the hex of the bytes read from what `bb`
  wrote;
* `handleProve_proof_of_steps`: the converse: when every step returns, the answer is the proof of
  what the tools wrote;
* `handleProve_restores_fs`: on a filesystem that is a tree, `handle_prove` leaves it exactly as it
  found it, whatever the request and the tools do: no workspace or file is left behind, and the
  canonical circuit directories are never changed.
-/

namespace EnclaveProver.Server.ProveOutcomes

open EnclaveProver.Python.Value EnclaveProver.Python.Hex EnclaveProver.Python.Files
open EnclaveProver.Pipeline.Generate EnclaveProver.Python.Effect EnclaveProver.Pipeline.Frame
open EnclaveProver.Server.Handlers EnclaveProver.Server.Workspaces EnclaveProver.Server.Connection
open EnclaveProver.Python.Utf8 EnclaveProver.Python.JsonText

/-! ### What each step needs to return -/

theorem exec_liftE_eq_ok {α : Type} {x : Except PyExc α} {a : α} {w w' : World}
    (h : exec (liftE x) w = (.ok a, w')) : x = .ok a ∧ w' = w := by
  rw [exec_liftE] at h
  cases h
  exact ⟨rfl, rfl⟩

/-- A tool step returns only when the tool's run returned, and leaves what the tool wrote. -/
theorem exec_runChecked_eq_ok {tool : String} {argv : List String} {dir : Path}
    {writes : List (Path × Entry)} {exit : ToolExit} {w w' : World}
    (h : exec (runChecked tool argv dir writes exit) w = (.ok (), w')) :
    exit.Succeeded ∧ w'.fs = applyWrites dir writes w.fs := by
  obtain ⟨⟨code, err⟩, w₁, hrun, hcheck⟩ := exec_bind_eq_ok h
  rw [exec_runTool] at hrun
  cases exit with
  | notFound => cases hrun
  | exited c out e millis =>
    obtain ⟨hr, rfl⟩ := Prod.mk.inj hrun
    obtain ⟨hcode, ht, ho, he⟩ := toolResult_eq_ok hr
    subst hcode
    by_cases hc : code = 0
    · subst hc
      simp only [ne_eq, not_true_eq_false, if_false, exec_pure, Prod.mk.injEq] at hcheck
      exact ⟨⟨rfl, ht, ho, he⟩, hcheck.2 ▸ rfl⟩
    · simp [hc] at hcheck

theorem exec_runNargo_eq_ok {env : ProveEnv} {ws : Path} {w w' : World}
    (h : exec (runNargo env ws) w = (.ok (), w')) :
    (env.nargo (nargoCmd ws) w.fs).exit.Succeeded ∧
      w'.fs = applyWrites ws (env.nargo (nargoCmd ws) w.fs).writes w.fs := by
  obtain ⟨_, _, ⟨⟩, h⟩ := exec_bind_eq_ok h
  exact exec_runChecked_eq_ok h

theorem exec_runBb_eq_ok {env : ProveEnv} {paths : CircuitPaths} {witness ws : Path}
    {w w' : World} (h : exec (runBb env paths witness ws) w = (.ok (), w')) :
    (env.bb (bbCmd paths witness ws) w.fs).exit.Succeeded ∧
      w'.fs = applyWrites (ws ++ ["proof"]) (env.bb (bbCmd paths witness ws) w.fs).writes w.fs := by
  obtain ⟨_, _, ⟨⟩, h⟩ := exec_bind_eq_ok h
  exact exec_runChecked_eq_ok h

/-- **The tools' successful run** in the workspace `ws`, from the filesystem `fs` the staging left:
`nargo execute` returns; the witness lookup finds `witness` in the workspace as it then stands,
the staged copies together with what `nargo` wrote; `bb prove`, given that witness, returns; and `pb`
and `pis` are the proof bytes and the public inputs read from what `bb` wrote. -/
def ToolsSucceeded (env : ProveEnv) (cid : String) (paths : CircuitPaths) (ws : Path) (fs : Fs)
    (pb : Bytes) (pis : List String) : Prop :=
  let nargo := env.nargo (nargoCmd ws) fs
  let fsB := applyWrites ws nargo.writes fs
  nargo.exit.Succeeded ∧
  ∃ witness, locateWitness fsB ws cid = .ok witness ∧
    let bb := env.bb (bbCmd paths witness ws) fsB
    bb.exit.Succeeded ∧
    readOutputs (applyWrites (ws ++ ["proof"]) bb.writes fsB) ws = .ok (pb, pis)

/-- The first log call writes its entry exactly when the `requestId` nests less deeply than the
budget of `generate_proof`'s log calls. -/
theorem exec_logStart (env : ProveEnv) (cid : String) (requestId : Json) (w : World) :
    exec (logInfo env.logLimit "Starting proof generation"
      [("request_id", requestId), ("circuit_id", .str cid)]) w =
      (if nesting requestId < env.logLimit then .ok () else .error (.runtimeError encodeRecursionText), w) := by
  simp [exec_logInfo, membersNesting, nesting]

theorem exec_proveOutputs_eq_ok {env : ProveEnv} {cid : String} {paths : CircuitPaths}
    {inputs : List Json} {proverToml requestId : Json} {ws : Path} {w w' : World} {pb : Bytes}
    {pis : List String}
    (h : exec (proveOutputs env cid paths inputs proverToml requestId ws) w = (.ok (pb, pis), w')) :
    nesting requestId < env.logLimit ∧ ∃ w₁ w₂, exec (writeProverToml ws inputs proverToml) w = (.ok (), w₁) ∧
      exec (stage env paths.dir ws) w₁ = (.ok (), w₂) ∧
      ToolsSucceeded env cid paths ws w₂.fs pb pis := by
  obtain ⟨_, _, hL, h⟩ := exec_bind_eq_ok h
  rw [exec_logStart] at hL
  have hlog : nesting requestId < env.logLimit := by
    by_contra hn
    simp [hn] at hL
  rw [if_pos hlog] at hL
  cases hL
  refine ⟨hlog, ?_⟩
  obtain ⟨_, w₁, hT, h⟩ := exec_bind_eq_ok h
  obtain ⟨_, w₂, hS, h⟩ := exec_bind_eq_ok h
  obtain ⟨_, _, hN, h⟩ := exec_bind_eq_ok h
  obtain ⟨_, _, ⟨⟩, h⟩ := exec_bind_eq_ok h
  obtain ⟨witness, _, hW, hrest⟩ := exec_bind_eq_ok h
  obtain ⟨hW, rfl⟩ := exec_liftE_eq_ok hW
  obtain ⟨_, _, hB, h⟩ := exec_bind_eq_ok hrest
  obtain ⟨_, _, ⟨⟩, h⟩ := exec_bind_eq_ok h
  obtain ⟨hR, rfl⟩ := exec_liftE_eq_ok h
  obtain ⟨hN, hfsN⟩ := exec_runNargo_eq_ok hN
  obtain ⟨hB, hfsB⟩ := exec_runBb_eq_ok hB
  rw [hfsN] at hW hB hfsB
  rw [hfsB] at hR
  exact ⟨w₁, w₂, hT, hS, hN, witness, hW, hB, hR⟩

theorem exec_prepare_eq_ok {env : ProveEnv} {circuitId requestId : Json} {w w₁ : World}
    {cid : String} {paths : CircuitPaths} {ws : Path}
    (h : exec (prepare env circuitId requestId) w = (.ok (cid, paths, ws), w₁)) :
    getCircuitPaths circuitId = .ok (cid, paths) ∧ checkArtifacts w.fs paths = .ok () ∧
      ∃ fs₁, mkdtemp w.fs CIRCUIT_BASE_DIR (workspacePrefix requestId) env.names = .ok (fs₁, ws) ∧
        w₁ = { w with fs := fs₁ } := by
  rw [exec_prepare] at h
  split at h
  · cases h
  rename_i hg
  split at h
  · cases h
  rename_i ha
  split at h <;> cases h
  rename_i hm
  exact ⟨hg, ha, _, hm, rfl⟩

/-! ### A `proof` response -/

/-- **What a `proof` response certifies**: it answers the request under its `requestId`; the
request's fields and artifacts passed the checks; `mkdtemp` created the workspace `ws`; the first log
call wrote the `requestId`; from there `Prover.toml` and the copies were written and both tools ran,
exited 0 in time and printed UTF-8; its proof is `"0x"` followed by the hex of the bytes read from
what `bb` wrote, with the public inputs read beside them and the attestation of their SHA-256. -/
theorem handleProve_proof {env : ProveEnv} {req : Dict} {w : World} {rid : Json} {p : String}
    {pis : List String} {doc : Option String}
    (h : ((handleProve env req).run w).1 = .proof rid p pis doc) :
    rid = requestIdOf req ∧ proveFieldError req = none ∧
    ∃ cid paths fs₁ ws w₁ w₂ pb, getCircuitPaths (req.get "circuitId" .null) = .ok (cid, paths) ∧
      checkArtifacts w.fs paths = .ok () ∧
      mkdtemp w.fs CIRCUIT_BASE_DIR (workspacePrefix (requestIdOf req)) env.names =
        .ok (fs₁, ws) ∧
      nesting (requestIdOf req) < env.logLimit ∧
      exec (writeProverToml ws (inputList req) (req.get "proverToml" .null)) { w with fs := fs₁ } =
        (.ok (), w₁) ∧
      exec (stage env paths.dir ws) w₁ = (.ok (), w₂) ∧
      ToolsSucceeded env cid paths ws w₂.fs pb pis ∧
      p = "0x" ++ bytesHex pb ∧ doc = (proveResult env pb pis).attestationDocument := by
  rw [run_handleProve] at h
  rcases hf : proveFieldError req with _ | msg <;> simp only [hf] at h
  · rw [exec_generateProof] at h
    rcases hs : exec (proveStage env (req.get "circuitId" .null) (inputList req) (requestIdOf req)
      (req.get "proverToml" .null)) w with ⟨_ | ⟨pb, pis'⟩, w'⟩ <;> simp only [hs] at h
    · cases h
    · cases h
      obtain ⟨⟨cid, paths, ws⟩, _, hp, hrest⟩ := exec_bind_eq_ok hs
      obtain ⟨hg, ha, fs₁, hm, rfl⟩ := exec_prepare_eq_ok hp
      rw [exec_withWorkspace] at hrest
      rcases hb : exec (proveOutputs env cid paths (inputList req) (req.get "proverToml" .null)
        (requestIdOf req) ws) { w with fs := fs₁ } with ⟨r, w₃⟩
      rw [hb] at hrest
      cases hrest
      obtain ⟨hlog, w₁, w₂, hT, hS, hok⟩ := exec_proveOutputs_eq_ok hb
      exact ⟨rfl, rfl, cid, paths, fs₁, ws, w₁, w₂, pb, hg, ha, hm, hlog, hT, hS, hok, rfl, rfl⟩
  · cases h

/-- An environment whose `nargo` writes the witness `target/coinbase_attestation.gz` and whose `bb`
writes the proof `[7]`, both exiting 0 at once and printing nothing. -/
def provingEnv : ProveEnv :=
  { idleEnv with
    nargo := fun _ _ =>
      ⟨[(["target", "coinbase_attestation.gz"], .file [9])], by simp, .exited 0 [] [] 0⟩
    bb := fun _ _ => ⟨[([], .dir), (["proof"], .file [7])], .exited 0 [] [] 0⟩ }

theorem handleProve_proof_coinbase :
    Json.str "a" = requestIdOf (proveRequest "a") ∧ proveFieldError (proveRequest "a") = none :=
  have h := handleProve_proof (show ((handleProve provingEnv (proveRequest "a")).run
    ⟨circuitFs, []⟩).1 = .proof (.str "a") "0x07" [] none from rfl)
  ⟨h.1, h.2.1⟩

/-! ### Every step returning -/

theorem exec_runChecked_of_succeeded (tool : String) (argv : List String) (dir : Path)
    (writes : List (Path × Entry)) {exit : ToolExit} (hs : exit.Succeeded) (w : World) :
    exec (runChecked tool argv dir writes exit) w =
      (.ok (), { fs := applyWrites dir writes w.fs, calls := w.calls ++ [⟨argv, dir, writes⟩] }) := by
  cases exit with
  | notFound => exact hs.elim
  | exited code out err millis =>
    obtain ⟨rfl, ht, ⟨so, rfl⟩, ⟨se, rfl⟩⟩ := hs
    simp [runChecked, exec_bind, exec_runTool, toolResult_utf8 0 so se ht]

/-- The steps inside the workspace return the outputs the tools wrote when `Prover.toml` and the
copies are written and both tools succeed: the converse of `exec_proveOutputs_eq_ok`. -/
theorem exec_proveOutputs_of_steps {env : ProveEnv} {cid : String} {paths : CircuitPaths}
    {inputs : List Json} {proverToml requestId : Json} {ws : Path} {w w₁ w₂ : World} {pb : Bytes}
    {pis : List String} (hlog : nesting requestId < env.logLimit)
    (hT : exec (writeProverToml ws inputs proverToml) w = (.ok (), w₁))
    (hS : exec (stage env paths.dir ws) w₁ = (.ok (), w₂)) (hok : ToolsSucceeded env cid paths ws w₂.fs pb pis) :
    ∃ w', exec (proveOutputs env cid paths inputs proverToml requestId ws) w = (.ok (pb, pis), w') := by
  obtain ⟨hN, witness, hW, hB, hR⟩ := hok
  simp only [proveOutputs, exec_bind, exec_logStart, if_pos hlog, hT, hS, runNargo, runBb, exec_readFs,
    exec_runChecked_of_succeeded _ _ _ _ hN, exec_liftE, hW, exec_runChecked_of_succeeded _ _ _ _ hB, hR]
  exact ⟨_, rfl⟩

/-- **Every step returning gives the proof**: when the field checks pass, the circuit and its
artifacts are found, `mkdtemp` creates the workspace, the first log call writes the `requestId`,
`Prover.toml` and the copies are written, and both tools exit 0 in time, print UTF-8 and leave
outputs to read, `handle_prove` answers with the proof of those outputs under the request's
`requestId`. With `handleProve_proof`, these are exactly the runs that end in a proof. -/
theorem handleProve_proof_of_steps {env : ProveEnv} {req : Dict} {w w₁ w₂ : World} {cid : String}
    {paths : CircuitPaths} {fs₁ : Fs} {ws : Path} {pb : Bytes} {pis : List String}
    (hf : proveFieldError req = none) (hg : getCircuitPaths (req.get "circuitId" .null) = .ok (cid, paths))
    (ha : checkArtifacts w.fs paths = .ok ())
    (hm : mkdtemp w.fs CIRCUIT_BASE_DIR (workspacePrefix (requestIdOf req)) env.names = .ok (fs₁, ws))
    (hlog : nesting (requestIdOf req) < env.logLimit)
    (hT : exec (writeProverToml ws (inputList req) (req.get "proverToml" .null)) { w with fs := fs₁ } =
      (.ok (), w₁))
    (hS : exec (stage env paths.dir ws) w₁ = (.ok (), w₂)) (hok : ToolsSucceeded env cid paths ws w₂.fs pb pis) :
    ((handleProve env req).run w).1 =
      .proof (requestIdOf req) ("0x" ++ bytesHex pb) pis (proveResult env pb pis).attestationDocument := by
  obtain ⟨w', hout⟩ := exec_proveOutputs_of_steps hlog hT hS hok
  rw [run_handleProve, hf, exec_generateProof]
  simp only [proveStage, exec_bind, exec_prepare, hg, ha, hm, exec_withWorkspace, hout]
  rfl

theorem handleProve_proof_of_steps_coinbase :
    ((handleProve provingEnv (proveRequest "a")).run ⟨circuitFs, []⟩).1 =
      .proof (.str "a") ("0x" ++ bytesHex [7]) [] (proveResult provingEnv [7] []).attestationDocument :=
  handleProve_proof_of_steps rfl rfl rfl rfl (by decide) rfl rfl
    ⟨⟨rfl, by decide, ⟨"", rfl⟩, "", rfl⟩, _, rfl, ⟨rfl, by decide, ⟨"", rfl⟩, "", rfl⟩, rfl⟩

/-! ### The filesystem afterwards -/

/-- **`handle_prove` leaves the filesystem as it found it**: for every request, its `requestId`
included, and whatever the tools do within the paths they are given, on a filesystem that is a tree
the workspace and everything in it are gone when it returns, and nothing else changed. -/
theorem handleProve_restores_fs (env : ProveEnv) (req : Dict) {w : World} (hw : w.fs.WellFormed) :
    ((handleProve env req).run w).2.fs = w.fs := by
  rcases handleProve_cases env req w with hsame | ⟨cid, paths, fs₁, ws, w₂, -, -, -, hm, hin, hend⟩
  · rw [hsame]
  obtain ⟨hne, hnone, rfl⟩ := mkdtemp_fresh hm
  rw [hend]
  funext p
  by_cases hp : ws <+: p
  · obtain ⟨r, rfl⟩ := hp
    simp [hw.none_below hne hnone r]
  · calc (w₂.fs.removeTree ws) p = w₂.fs p := removeTree_fsUnder ws w₂.fs p hp
      _ = newDir w.fs ws p := hin.1.fsUnder p hp
      _ = w.fs p := newDir_fsUnder ws w.fs p hp

theorem handleProve_restores_fs_coinbase :
    ((handleProve provingEnv (proveRequest "a")).run ⟨circuitFs, []⟩).2.fs = circuitFs :=
  handleProve_restores_fs provingEnv (proveRequest "a") (fsOf_wellFormed (by decide))

end EnclaveProver.Server.ProveOutcomes
