import EnclaveProver.Pipeline.Generate

/-!
# What the steps inside the workspace touch

Inside the `with TemporaryDirectory(...) as workdir:` block, `generate_proof` writes `Prover.toml`,
copies `Nargo.toml`, `src/` and `target/`, and runs `nargo` (told to write below the workspace) and
`bb` (told to write below `workdir/proof`). `InWorkspace ws` says what such code may do between two
worlds: change the filesystem only strictly inside `ws`, and log only tool runs whose writes land
strictly inside `ws`. Each step keeps it (`Preserves`), so the whole block does.

* `proveOutputs_inWorkspace`: the steps of `generate_proof` inside the workspace write, and direct
  the tools to write, only strictly inside it;
* `exec_proveStage_world`: a run of `generate_proof` either leaves the world as it was (it raised
  before a workspace was created), or created the workspace `ws`, changed the filesystem and
  directed the tools only strictly inside it, and removed it.
-/

namespace EnclaveProver.Pipeline.Frame

open EnclaveProver.Python.Value EnclaveProver.Python.Hex EnclaveProver.Python.Files
open EnclaveProver.Pipeline.Generate EnclaveProver.Python.Effect

/-- `p` lies strictly inside the directory `ws`. -/
def Inside (ws p : Path) : Prop := ws <+: p ∧ ws.length < p.length

theorem inside_append {ws q : Path} (h : q ≠ []) : Inside ws (ws ++ q) :=
  ⟨List.prefix_append _ _, by simpa using List.length_pos.mpr h⟩

theorem Inside.of_prefix {ws d p : Path} (hd : Inside ws d) (hp : d <+: p) : Inside ws p :=
  ⟨hd.1.trans hp, Nat.lt_of_lt_of_le hd.2 hp.length_le⟩

/-- A filesystem change that touches only what is strictly inside `ws`. -/
def FsInside (ws : Path) (fs fs' : Fs) : Prop := ∀ p, ¬ Inside ws p → fs' p = fs p

/-- **What code inside the workspace `ws` may do**: change the filesystem only strictly inside `ws`,
and log tool runs whose writes all land strictly inside `ws`. -/
def InWorkspace (ws : Path) (w w' : World) : Prop :=
  FsInside ws w.fs w'.fs ∧
    ∃ new, w'.calls = w.calls ++ new ∧ ∀ c ∈ new, ∀ x ∈ c.writes, Inside ws (c.dir ++ x.1)

/-- A step that logs no tool run and changes the filesystem only strictly inside `ws`. -/
theorem InWorkspace.of_fs {ws : Path} {w w' : World} (hfs : FsInside ws w.fs w'.fs)
    (hc : w'.calls = w.calls) : InWorkspace ws w w' :=
  ⟨hfs, [], by rw [hc, List.append_nil], fun _ h => absurd h (List.not_mem_nil _)⟩

theorem InWorkspace.refl (ws : Path) (w : World) : InWorkspace ws w w :=
  InWorkspace.of_fs (fun _ _ => rfl) rfl

theorem InWorkspace.trans (ws : Path) (a b c : World) (hab : InWorkspace ws a b)
    (hbc : InWorkspace ws b c) : InWorkspace ws a c := by
  obtain ⟨hfs1, n1, hc1, hn1⟩ := hab
  obtain ⟨hfs2, n2, hc2, hn2⟩ := hbc
  refine ⟨fun p hp => (hfs2 p hp).trans (hfs1 p hp), n1 ++ n2, by simp [hc2, hc1], ?_⟩
  intro c hc
  rcases List.mem_append.mp hc with hc | hc
  · exact hn1 c hc
  · exact hn2 c hc

/-- A change of the filesystem only at or below `ws`. -/
def FsUnder (ws : Path) (fs fs' : Fs) : Prop := ∀ p, ¬ ws <+: p → fs' p = fs p

theorem newDir_fsUnder (ws : Path) (fs : Fs) : FsUnder ws fs (newDir fs ws) := fun p hp => by
  have hne : p ≠ ws := fun h => hp (h ▸ List.prefix_refl _)
  simp [newDir, hne, List.isPrefixOf_iff_prefix, hp]

theorem removeTree_fsUnder (ws : Path) (fs : Fs) : FsUnder ws fs (fs.removeTree ws) := fun p hp => by
  simp [List.isPrefixOf_iff_prefix, hp]

theorem FsInside.fsUnder {ws : Path} {fs fs' : Fs} (h : FsInside ws fs fs') : FsUnder ws fs fs' :=
  fun p hp => h p fun hi => hp hi.1

theorem modifyFs_inWorkspace {ws : Path} {f : Fs → Fs} (h : ∀ fs, FsInside ws fs (f fs)) :
    Preserves (InWorkspace ws) (modifyFs f) :=
  Preserves.modify fun w => InWorkspace.of_fs (h w.fs) rfl

theorem set_fsInside {ws q : Path} (hq : Inside ws q) (e : Entry) (fs : Fs) :
    FsInside ws fs (fs.set q e) := fun p hp => by
  have : p ≠ q := fun h => hp (h ▸ hq)
  simp [this]

theorem copyTree_fsInside {ws dst : Path} (hd : Inside ws dst) (src : Path) (fs : Fs) :
    FsInside ws fs (fs.copyTree src dst) := fun p hp => by
  have : ¬ dst <+: p := fun h => hp (hd.of_prefix h)
  simp [List.isPrefixOf_iff_prefix, this]

theorem applyWrites_fsInside {ws dir : Path} {writes : List (Path × Entry)}
    (h : ∀ x ∈ writes, Inside ws (dir ++ x.1)) (fs : Fs) :
    FsInside ws fs (applyWrites dir writes fs) := by
  induction writes generalizing fs with
  | nil => exact fun _ _ => rfl
  | cons x xs ih =>
    intro p hp
    simp only [applyWrites, List.foldl_cons] at ih ⊢
    rw [ih (fun y hy => h y (List.mem_cons_of_mem _ hy)) _ p hp]
    exact set_fsInside (h x (List.mem_cons_self _ _)) x.2 fs p hp

/-! ### The steps -/

section Steps

variable {ws : Path}

theorem liftE_inWorkspace {α : Type} (x : Except PyExc α) : Preserves (InWorkspace ws) (liftE x) := by
  cases x
  · exact Preserves.throw (InWorkspace.refl ws) _
  · exact Preserves.pure (InWorkspace.refl ws) _

theorem readFs_inWorkspace : Preserves (InWorkspace ws) readFs :=
  fun w => by simpa using InWorkspace.refl ws w

theorem osStep_inWorkspace {f : Fs → Except OsError Fs}
    (h : ∀ fs fs', f fs = .ok fs' → FsInside ws fs fs') : Preserves (InWorkspace ws) (osStep f) := by
  intro w
  rcases hf : f w.fs with e | fs'
  · simpa [osStep, exec_bind, hf] using InWorkspace.refl ws w
  · have hrun : exec (osStep f) w = (.ok (), { w with fs := fs' }) := by
      simp [osStep, exec_bind, hf]
    show InWorkspace ws w (exec (osStep f) w).2
    rw [hrun]
    exact InWorkspace.of_fs (h _ _ hf) rfl

theorem setPath_inWorkspace {q : Path} (hq : Inside ws q) (e : Entry) :
    Preserves (InWorkspace ws) (modifyFs (·.set q e)) :=
  modifyFs_inWorkspace (set_fsInside hq e)

theorem copy2_fsInside {dst : Path} (hd : Inside ws dst) {src : Path} {fs fs' : Fs}
    (h : copy2 fs src dst = .ok fs') : FsInside ws fs fs' := by
  unfold copy2 at h
  rcases hr : readFile fs src with e | data <;> simp [hr, Except.map] at h
  exact h ▸ set_fsInside hd _ fs

theorem copytreeStep_inWorkspace {dst : Path} (hd : Inside ws dst) (errors : String) (src : Path) :
    Preserves (InWorkspace ws) (copytreeStep errors src dst) := by
  intro w
  have hcopy : InWorkspace ws w { w with fs := w.fs.copyTree src dst } :=
    InWorkspace.of_fs (copyTree_fsInside hd src w.fs) rfl
  rcases hc : copytree w.fs src dst with e | fs' | fs'
  · simpa [copytreeStep, exec_bind, readFs, hc] using InWorkspace.refl ws w
  · obtain rfl := copytree_copies (.inl hc)
    simpa [copytreeStep, exec_bind, readFs, modifyFs, hc] using hcopy
  · obtain rfl := copytree_copies (.inr hc)
    simpa [copytreeStep, exec_bind, readFs, modifyFs, hc] using hcopy

theorem writeProverToml_inWorkspace (inputs : List Json) (proverToml : Json) :
    Preserves (InWorkspace ws) (writeProverToml ws inputs proverToml) := by
  have hq : Inside ws (ws ++ ["Prover.toml"]) := inside_append (by simp)
  unfold writeProverToml
  split
  · split
    · exact setPath_inWorkspace hq _
    · exact Preserves.bind (InWorkspace.trans ws) (setPath_inWorkspace hq _)
        fun _ => Preserves.throw (InWorkspace.refl ws) _
  · exact setPath_inWorkspace hq _

theorem ifExists_inWorkspace {src : Path} {op : M Unit} (h : Preserves (InWorkspace ws) op) :
    Preserves (InWorkspace ws) (ifExists src op) := by
  intro w
  by_cases hx : w.fs.exists? src
  · simpa [ifExists, exec_bind, hx] using h w
  · simpa [ifExists, exec_bind, hx] using InWorkspace.refl ws w

theorem stage_inWorkspace (env : ProveEnv) (dir : Path) : Preserves (InWorkspace ws) (stage env dir ws) :=
  have trans := InWorkspace.trans ws
  Preserves.bind trans (ifExists_inWorkspace (osStep_inWorkspace fun _ _ =>
    copy2_fsInside (inside_append (List.cons_ne_nil _ _)))) fun _ =>
  Preserves.bind trans (ifExists_inWorkspace
    (copytreeStep_inWorkspace (inside_append (List.cons_ne_nil _ _)) _ _)) fun _ =>
  ifExists_inWorkspace (copytreeStep_inWorkspace (inside_append (List.cons_ne_nil _ _)) _ _)

theorem runTool_inWorkspace {argv : List String} {dir : Path} {writes : List (Path × Entry)}
    (h : ∀ x ∈ writes, Inside ws (dir ++ x.1)) (exit : ToolExit) :
    Preserves (InWorkspace ws) (runTool argv dir writes exit) := by
  cases exit with
  | notFound => exact Preserves.throw (InWorkspace.refl ws) _
  | exited =>
    refine Preserves.bind (InWorkspace.trans ws) (Preserves.modify fun w =>
      ⟨applyWrites_fsInside h w.fs, [⟨argv, dir, writes⟩], rfl, ?_⟩) fun _ => liftE_inWorkspace _
    simpa using h

theorem raiseIf_inWorkspace (c : Prop) [Decidable c] (e : PyExc) :
    Preserves (InWorkspace ws) (if c then throw e else pure () : M Unit) := by
  split
  · exact Preserves.throw (InWorkspace.refl ws) _
  · exact Preserves.pure (InWorkspace.refl ws) _

theorem runChecked_inWorkspace (tool : String) {argv : List String} {dir : Path}
    {writes : List (Path × Entry)} (h : ∀ x ∈ writes, Inside ws (dir ++ x.1)) (exit : ToolExit) :
    Preserves (InWorkspace ws) (runChecked tool argv dir writes exit) :=
  Preserves.bind (InWorkspace.trans ws) (runTool_inWorkspace h exit) fun _ => raiseIf_inWorkspace _ _

theorem runNargo_inWorkspace (env : ProveEnv) : Preserves (InWorkspace ws) (runNargo env ws) :=
  Preserves.bind (InWorkspace.trans ws) readFs_inWorkspace fun fs =>
    runChecked_inWorkspace _ (fun x hx => inside_append ((env.nargo _ fs).below x hx)) _

theorem runBb_inWorkspace (env : ProveEnv) (paths : CircuitPaths) (witness : Path) :
    Preserves (InWorkspace ws) (runBb env paths witness ws) :=
  Preserves.bind (InWorkspace.trans ws) readFs_inWorkspace fun _ =>
    runChecked_inWorkspace _ (fun x _ => by
      rw [List.append_assoc, List.singleton_append]
      exact inside_append (List.cons_ne_nil _ _)) _

end Steps

/-- **The steps inside the workspace stay inside it**: whatever `nargo` and `bb` do within the
paths they are given, `Prover.toml`, the copies, the witness and the proof are written strictly
inside `ws`, and every tool run logged writes strictly inside `ws`. -/
theorem proveOutputs_inWorkspace (env : ProveEnv) (circuitId : String) (paths : CircuitPaths)
    (inputs : List Json) (proverToml requestId : Json) (ws : Path) :
    Preserves (InWorkspace ws) (proveOutputs env circuitId paths inputs proverToml requestId ws) :=
  have trans := InWorkspace.trans ws
  Preserves.bind trans (liftE_inWorkspace _) fun _ =>
  Preserves.bind trans (writeProverToml_inWorkspace inputs proverToml) fun _ =>
  Preserves.bind trans (stage_inWorkspace env paths.dir) fun _ =>
  Preserves.bind trans (runNargo_inWorkspace env) fun _ =>
  Preserves.bind trans readFs_inWorkspace fun _ =>
  Preserves.bind trans (liftE_inWorkspace _) fun _ =>
  Preserves.bind trans (runBb_inWorkspace env paths _) fun _ =>
  Preserves.bind trans readFs_inWorkspace fun _ => liftE_inWorkspace _

/-! ### A run of `generate_proof` -/

theorem exec_prepare (env : ProveEnv) (circuitId requestId : Json) (w : World) :
    exec (prepare env circuitId requestId) w =
      match getCircuitPaths circuitId with
      | .error e => (.error e, w)
      | .ok (cid, paths) =>
        match checkArtifacts w.fs paths with
        | .error e => (.error e, w)
        | .ok () =>
          match mkdtemp w.fs CIRCUIT_BASE_DIR (workspacePrefix requestId) env.names with
          | .ok (fs, ws) => (.ok (cid, paths, ws), { w with fs := fs })
          | .error (.valueError msg) => (.error (.valueError msg), w)
          | .error (.os e) => (.error (.osError e), w) := by
  rcases hg : getCircuitPaths circuitId with e | ⟨cid, paths⟩
  · simp [prepare, exec_bind, hg]
  rcases hc : checkArtifacts w.fs paths with e | ⟨⟩
  · simp [prepare, exec_bind, hg, hc]
  rcases hm : mkdtemp w.fs CIRCUIT_BASE_DIR (workspacePrefix requestId) env.names with
    (msg | e) | ⟨fs, ws⟩ <;>
  simp [prepare, createWorkspace, exec_bind, exec_map, hg, hc, hm]

/-- **What a run of `generate_proof` does**: it raised before a workspace was created and left the
world as it was, or its checks passed, `mkdtemp` created the workspace `ws`, the steps inside it
changed the filesystem and directed the tools only strictly inside `ws`, and `ws` was removed. -/
theorem exec_proveStage_world (env : ProveEnv) (circuitId : Json) (inputs : List Json)
    (requestId proverToml : Json) (w : World) :
    (exec (proveStage env circuitId inputs requestId proverToml) w).2 = w ∨
      ∃ cid paths fs₁ ws w₂, getCircuitPaths circuitId = .ok (cid, paths) ∧
        checkArtifacts w.fs paths = .ok () ∧
        mkdtemp w.fs CIRCUIT_BASE_DIR (workspacePrefix requestId) env.names = .ok (fs₁, ws) ∧
        InWorkspace ws { w with fs := fs₁ } w₂ ∧
        (exec (proveStage env circuitId inputs requestId proverToml) w).2 =
          { w₂ with fs := w₂.fs.removeTree ws } := by
  have hp := exec_prepare env circuitId requestId w
  rcases hg : getCircuitPaths circuitId with e | ⟨cid, paths⟩
  · simp [proveStage, exec_bind, hp, hg]
  rcases hc : checkArtifacts w.fs paths with e | ⟨⟩
  · simp [proveStage, exec_bind, hp, hg, hc]
  rcases hm : mkdtemp w.fs CIRCUIT_BASE_DIR (workspacePrefix requestId) env.names with
    (msg | e) | ⟨fs₁, ws⟩
  · simp [proveStage, exec_bind, hp, hg, hc, hm]
  · simp [proveStage, exec_bind, hp, hg, hc, hm]
  · refine .inr ⟨cid, paths, fs₁, ws, _, rfl, hc, rfl,
      proveOutputs_inWorkspace env cid paths inputs proverToml requestId ws { w with fs := fs₁ }, ?_⟩
    simp [proveStage, exec_bind, hp, hg, hc, hm, exec_withWorkspace]

end EnclaveProver.Pipeline.Frame
