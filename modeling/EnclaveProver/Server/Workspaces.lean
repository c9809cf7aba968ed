import EnclaveProver.Pipeline.Frame
import EnclaveProver.Server.Handlers
import EnclaveProver.Server.Connection
import Mathlib.Logic.Relation

/-!
# Concurrent prove requests and their workspaces

`run_server` handles each connection in a thread of its own, so prove requests run at the same
time over one filesystem. A request's `handle_prove` goes through the phases of `Phase`: its checks
(the fields, `get_circuit_paths`, the artifact check), the creation of its workspace by `mkdtemp`,
the steps inside the workspace, and the `rmtree` of `TemporaryDirectory` on the way out. `Step` is
one atomic step of one thread, and the threads' steps interleave in any order (`Reachable`); the
requests that may arrive are those of `Arrives`. The steps inside a workspace are any change
strictly inside it, which is what the code's steps do (`proveOutputs_inWorkspace`), and
`handleProve_steps` shows that every run of `handle_prove` is a run of its thread.

`mkdtemp` joins the prefix `proof-<requestId>-` into the path as a string. When the `requestId`'s
text has no `/`, the workspace is the direct child `CIRCUIT_BASE_DIR/proof-<requestId>-<name>`
(`mkdtemp_workspace`), and `workspaces_safe` holds in every reachable state. When it has one, the
workspace can be made inside another request's live workspace, and, through its `..`, inside a
canonical circuit directory (`nested_workspace`).

* `handleProve_steps`: a run of `handle_prove` is a sequence of steps of its thread;
* `handleProve_confined`: a run of `handle_prove` creates its workspace only after its checks,
  touches and directs the tools only strictly inside it, and removes it;
* `workspaces_safe`: with `/`-free `requestId`s, every live workspace was created after its request
  passed the checks, whose artifacts still exist; it is an existing direct child of
  `CIRCUIT_BASE_DIR` named `proof-<requestId>-<name>`, distinct from every other live workspace and
  from the canonical circuit directories;
* `circuits_unchanged`: with `/`-free `requestId`s, nothing outside the workspace paths ever
  changes, the canonical circuit directories included;
* `nested_workspace`: with the `requestId`s `a`, `a-aaaaaaaa/x` and
  `a-aaaaaaaa/../coinbase-attestation/target/y`, the second request's live workspace is inside the
  first's, and the third's is inside the canonical directory of `coinbase_attestation`.
-/

namespace EnclaveProver.Server.Workspaces

open EnclaveProver.Python.Value EnclaveProver.Python.Hex EnclaveProver.Python.Files
open EnclaveProver.Pipeline.Generate EnclaveProver.Python.Effect EnclaveProver.Pipeline.Frame
open EnclaveProver.Server.Handlers EnclaveProver.Server.Connection

/-! ### `mkdtemp` below `CIRCUIT_BASE_DIR` -/

theorem splitOn_workspacePath (last : List Char) (h : '/' ∉ last) :
    splitOn '/' (CIRCUIT_BASE_DIR ++ "/" ++ String.mk last).toList =
      [[], "app".toList, "circuits".toList, last] := by
  have e : (CIRCUIT_BASE_DIR ++ "/" ++ String.mk last).toList =
      [] ++ '/' :: ("app".toList ++ '/' :: ("circuits".toList ++ '/' :: last)) := rfl
  rw [e, splitOn_append_sep, splitOn_append_sep, splitOn_append_sep, splitOn_of_not_mem h,
    splitOn_of_not_mem (by decide), splitOn_of_not_mem (by decide)]
  rfl

theorem walk_circuitBase {fs : Fs} {parent : Path}
    (h : walk fs [] ["", "app", "circuits"] = .ok parent) : parent = circuitBase := by
  have happ : ¬ NAME_MAX < (utf8 "app").length := by decide
  have hcircuits : ¬ NAME_MAX < (utf8 "circuits").length := by decide
  simp [walk, happ, hcircuits] at h
  split at h <;> try cases h
  split at h <;> cases h
  rfl

/-- `os.mkdir` of `CIRCUIT_BASE_DIR/<last>`, for a `last` without `/`, creates the new, empty
directory `circuitBase ++ [last]`, where nothing stood. -/
theorem mkdirPath_workspace {fs fs' : Fs} {p : Path} {last : List Char} (h : '/' ∉ last)
    (hm : mkdirPath fs (CIRCUIT_BASE_DIR ++ "/" ++ String.mk last) = .ok (fs', p)) :
    p = circuitBase ++ [String.mk last] ∧ fs p = none ∧ fs' = newDir fs p := by
  unfold mkdirPath at hm
  rw [splitOn_workspacePath last h] at hm
  split at hm
  · cases hm
  split at hm
  · cases hm
  have hcomps : ([[], "app".toList, "circuits".toList, last].map String.mk).dropLast =
      ["", "app", "circuits"] := rfl
  have hlast : ([[], "app".toList, "circuits".toList, last].map String.mk).getLastD "" =
      String.mk last := rfl
  simp only [hcomps, hlast] at hm
  split at hm
  · cases hm
  rename_i parent hw
  rw [walk_circuitBase hw] at hm
  split at hm
  · cases hm
  split at hm
  · cases hm
  split at hm
  · cases hm
  rename_i hex
  cases hm
  exact ⟨rfl, by simpa [Fs.exists?] using hex, rfl⟩

theorem slash_not_mem_name (n : TempName) : '/' ∉ n.chars := fun h => by
  have := n.mem _ h
  revert this; decide

/-- **The workspace of a `/`-free prefix**: `mkdtemp` below `CIRCUIT_BASE_DIR` creates the new,
empty directory `CIRCUIT_BASE_DIR/<prefix><name>` for one of its names, where nothing stood. -/
theorem mkdtemp_workspace {fs fs' : Fs} {ws : Path} {pre : String} {names : Nat → TempName}
    (hpre : '/' ∉ pre.toList) (hm : mkdtemp fs CIRCUIT_BASE_DIR pre names = .ok (fs', ws)) :
    ∃ k, ws = circuitBase ++ [pre ++ String.mk (names k).chars] ∧ fs ws = none ∧
      fs' = newDir fs ws := by
  obtain ⟨k, hk⟩ := mkdtempLoop_eq_ok _ _ hm
  have e : CIRCUIT_BASE_DIR ++ "/" ++ pre ++ String.mk (names k).chars =
      CIRCUIT_BASE_DIR ++ "/" ++ String.mk (pre.toList ++ (names k).chars) := by
    rw [String.append_assoc]
    rfl
  rw [e] at hk
  obtain ⟨rfl, hnone, rfl⟩ := mkdirPath_workspace (by simpa using ⟨hpre, slash_not_mem_name _⟩) hk
  exact ⟨k, rfl, hnone, rfl⟩

/-! ### Threads and their steps -/

/-- Where a thread's `handle_prove` is. -/
inductive Phase where
  | start
  | checked (paths : CircuitPaths)
  | live (paths : CircuitPaths) (ws : Path)
  | returned

/-- A thread: the request it handles, and its phase. -/
structure Thread where
  req : Dict
  phase : Phase

/-- **The server**: the filesystem, and the threads that have handled or handle a prove request. -/
structure Sys where
  fs : Fs
  threads : List Thread

/-- **One atomic step of one thread**: a request arrives; its checks pass; it returns without a
workspace (a check failed, or `mkdtemp` raised); `mkdtemp` creates its workspace; it changes what is
strictly inside its workspace; it removes its workspace and returns. -/
inductive Step (Arrives : Dict → Prop) : Sys → Sys → Prop
  | arrive {s : Sys} {req : Dict} (h : Arrives req) :
      Step Arrives s { s with threads := s.threads ++ [⟨req, .start⟩] }
  | check {s : Sys} {i : Nat} {req : Dict} {cid : String} {paths : CircuitPaths}
      (hi : s.threads[i]? = some ⟨req, .start⟩) (hf : proveFieldError req = none)
      (hc : getCircuitPaths (req.get "circuitId" .null) = .ok (cid, paths))
      (ha : checkArtifacts s.fs paths = .ok ()) :
      Step Arrives s { s with threads := s.threads.set i ⟨req, .checked paths⟩ }
  | giveUp {s : Sys} {i : Nat} {t : Thread} (hi : s.threads[i]? = some t)
      (ht : t.phase = .start ∨ ∃ paths, t.phase = .checked paths) :
      Step Arrives s { s with threads := s.threads.set i ⟨t.req, .returned⟩ }
  | create {s : Sys} {i : Nat} {req : Dict} {paths : CircuitPaths} {names : Nat → TempName}
      {fs' : Fs} {ws : Path} (hi : s.threads[i]? = some ⟨req, .checked paths⟩)
      (hm : mkdtemp s.fs CIRCUIT_BASE_DIR (workspacePrefix (requestIdOf req)) names = .ok (fs', ws)) :
      Step Arrives s ⟨fs', s.threads.set i ⟨req, .live paths ws⟩⟩
  | work {s : Sys} {i : Nat} {req : Dict} {paths : CircuitPaths} {ws : Path} {fs' : Fs}
      (hi : s.threads[i]? = some ⟨req, .live paths ws⟩) (hw : FsInside ws s.fs fs') :
      Step Arrives s { s with fs := fs' }
  | finish {s : Sys} {i : Nat} {req : Dict} {paths : CircuitPaths} {ws : Path}
      (hi : s.threads[i]? = some ⟨req, .live paths ws⟩) :
      Step Arrives s ⟨s.fs.removeTree ws, s.threads.set i ⟨req, .returned⟩⟩

/-- The states the server reaches from any filesystem, the threads' steps interleaved in any order. -/
inductive Reachable (Arrives : Dict → Prop) : Sys → Prop
  | init (fs : Fs) : Reachable Arrives ⟨fs, []⟩
  | step {s s' : Sys} : Reachable Arrives s → Step Arrives s s' → Reachable Arrives s'

/-! ### Requests of `coinbase_attestation` -/

/-- A filesystem holding the artifacts of `coinbase_attestation`. -/
def circuitFs : Fs := fsOf
  [(["app"], .dir), (circuitBase, .dir), (circuitBase ++ ["coinbase-attestation"], .dir),
   (circuitBase ++ ["coinbase-attestation", "target"], .dir),
   (circuitBase ++ ["coinbase-attestation", "target", "coinbase_attestation.json"], .file [1]),
   (circuitBase ++ ["coinbase-attestation", "target", "vk"], .dir),
   (circuitBase ++ ["coinbase-attestation", "target", "vk", "vk"], .file [2])]

/-- A prove request of `coinbase_attestation` with the `requestId` `rid`. -/
def proveRequest (rid : String) : Dict :=
  [("type", .str "prove"), ("requestId", .str rid), ("circuitId", .str "coinbase_attestation"),
   ("inputs", .list [.str "1"])]

/-- The paths of `coinbase_attestation`. -/
def coinbasePaths : CircuitPaths :=
  CircuitMeta.paths ⟨"coinbase-attestation", "coinbase_attestation.json", ["vk", "vk"]⟩

/-! ### Every run of `handle_prove` is a run of its thread -/

/-- What `handle_prove` leaves: the world as it was when a field check fails, and otherwise what
the stages of `generate_proof` leave (its attestation step touches no file). -/
theorem handleProve_world (env : ProveEnv) (req : Dict) (w : World) :
    ((handleProve env req).run w).2 =
      match proveFieldError req with
      | some _ => w
      | none => (exec (proveStage env (req.get "circuitId" .null) (inputList req) (requestIdOf req)
          (req.get "proverToml" .null)) w).2 := by
  rw [run_handleProve]
  rcases proveFieldError req with _ | msg
  · dsimp only
    rw [exec_generateProof]
    rcases exec (proveStage env (req.get "circuitId" .null) (inputList req) (requestIdOf req)
      (req.get "proverToml" .null)) w with ⟨_ | _, _⟩ <;> rfl
  · rfl

/-- **What a run of `handle_prove` does to the world**: it leaves it as it was, or its checks
passed, `mkdtemp` created the workspace `ws`, the steps changed the filesystem and directed the
tools only strictly inside `ws`, and `ws` was removed. -/
theorem handleProve_cases (env : ProveEnv) (req : Dict) (w : World) :
    ((handleProve env req).run w).2 = w ∨
      ∃ cid paths fs₁ ws w₂, proveFieldError req = none ∧
        getCircuitPaths (req.get "circuitId" .null) = .ok (cid, paths) ∧
        checkArtifacts w.fs paths = .ok () ∧
        mkdtemp w.fs CIRCUIT_BASE_DIR (workspacePrefix (requestIdOf req)) env.names =
          .ok (fs₁, ws) ∧
        InWorkspace ws { w with fs := fs₁ } w₂ ∧
        ((handleProve env req).run w).2 = { w₂ with fs := w₂.fs.removeTree ws } := by
  rw [handleProve_world]
  rcases hf : proveFieldError req with _ | msg
  · dsimp only
    rcases exec_proveStage_world env (req.get "circuitId" .null) (inputList req) (requestIdOf req)
      (req.get "proverToml" .null) w with hsame | ⟨cid, paths, fs₁, ws, w₂, hc, ha, hm, hin, hend⟩
    · exact .inl hsame
    · exact .inr ⟨cid, paths, fs₁, ws, w₂, rfl, hc, ha, hm, hin, hend⟩
  · exact .inl rfl

/-- **The code refines the threads' steps**: from a state where thread `i` is about to handle `req`
on the filesystem of `w`, the steps of thread `i` alone reach the filesystem `handle_prove` leaves,
with the thread returned. -/
theorem handleProve_steps {Arrives : Dict → Prop} (env : ProveEnv) (req : Dict) (w : World)
    (s : Sys) (i : Nat) (hfs : s.fs = w.fs) (hi : s.threads[i]? = some ⟨req, .start⟩) :
    Relation.ReflTransGen (Step Arrives) s
      ⟨((handleProve env req).run w).2.fs, s.threads.set i ⟨req, .returned⟩⟩ := by
  have hlen : i < s.threads.length := (List.getElem?_eq_some_iff.mp hi).1
  have giveUp : Relation.ReflTransGen (Step Arrives) s ⟨s.fs, s.threads.set i ⟨req, .returned⟩⟩ :=
    .single (Step.giveUp (t := ⟨req, .start⟩) hi (.inl rfl))
  rcases handleProve_cases env req w with hsame | ⟨cid, paths, fs₁, ws, w₂, hf, hc, ha, hm, hin, hend⟩
  · rw [hsame, ← hfs]; exact giveUp
  rw [hend]
  have hchecked : Step Arrives s ⟨s.fs, s.threads.set i ⟨req, .checked paths⟩⟩ :=
    Step.check hi hf hc (hfs ▸ ha)
  have hcreate : Step Arrives ⟨s.fs, s.threads.set i ⟨req, .checked paths⟩⟩
      ⟨fs₁, s.threads.set i ⟨req, .live paths ws⟩⟩ := by
    rw [← List.set_set (⟨req, .checked paths⟩ : Thread) ⟨req, .live paths ws⟩]
    exact Step.create (s := ⟨s.fs, _⟩) (List.getElem?_set_self hlen) (hfs ▸ hm)
  have hwork : Step Arrives ⟨fs₁, s.threads.set i ⟨req, .live paths ws⟩⟩
      ⟨w₂.fs, s.threads.set i ⟨req, .live paths ws⟩⟩ :=
    Step.work (List.getElem?_set_self hlen) hin.1
  have hfinish : Step Arrives ⟨w₂.fs, s.threads.set i ⟨req, .live paths ws⟩⟩
      ⟨w₂.fs.removeTree ws, s.threads.set i ⟨req, .returned⟩⟩ := by
    rw [← List.set_set (⟨req, .live paths ws⟩ : Thread) ⟨req, .returned⟩]
    exact Step.finish (s := ⟨w₂.fs, _⟩) (List.getElem?_set_self hlen)
  exact .tail (.tail (.tail (.single hchecked) hcreate) hwork) hfinish

theorem handleProve_steps_coinbase :
    Relation.ReflTransGen (Step fun _ => True) ⟨circuitFs, [⟨proveRequest "a", .start⟩]⟩
      ⟨((handleProve idleEnv (proveRequest "a")).run ⟨circuitFs, []⟩).2.fs,
        [⟨proveRequest "a", .returned⟩]⟩ :=
  handleProve_steps idleEnv (proveRequest "a") ⟨circuitFs, []⟩
    ⟨circuitFs, [⟨proveRequest "a", .start⟩]⟩ 0 rfl rfl

/-- **One request's workspace**: `handle_prove` leaves the world as it was, or its field checks
and its artifact check passed, `mkdtemp` created the workspace `ws`, the steps changed the
filesystem and directed the tools only strictly inside `ws`, and `ws` no longer exists when it
returns. -/
theorem handleProve_confined (env : ProveEnv) (req : Dict) (w : World) :
    ((handleProve env req).run w).2 = w ∨
      ∃ cid paths fs₁ ws w₂, proveFieldError req = none ∧
        getCircuitPaths (req.get "circuitId" .null) = .ok (cid, paths) ∧
        checkArtifacts w.fs paths = .ok () ∧
        mkdtemp w.fs CIRCUIT_BASE_DIR (workspacePrefix (requestIdOf req)) env.names =
          .ok (fs₁, ws) ∧
        InWorkspace ws { w with fs := fs₁ } w₂ ∧
        ((handleProve env req).run w).2 = { w₂ with fs := w₂.fs.removeTree ws } ∧
        ((handleProve env req).run w).2.fs ws = none :=
  (handleProve_cases env req w).imp_right fun ⟨cid, paths, fs₁, ws, w₂, hf, hc, ha, hm, hin, hend⟩ =>
    ⟨cid, paths, fs₁, ws, w₂, hf, hc, ha, hm, hin, hend, by simp [hend]⟩

/-! ### The invariant -/

/-- A workspace path: a direct child of `CIRCUIT_BASE_DIR` whose name starts with `p`. -/
def WsPath (ws : Path) : Prop := ∃ last : String, ws = circuitBase ++ [last] ∧ last.toList.head? = some 'p'

theorem WsPath.not_prefix {w₁ w₂ : Path} (h₁ : WsPath w₁) (h₂ : WsPath w₂) (hne : w₁ ≠ w₂) :
    ¬ w₁ <+: w₂ := by
  obtain ⟨l₁, rfl, -⟩ := h₁
  obtain ⟨l₂, rfl, -⟩ := h₂
  exact fun hp => hne (hp.eq_of_length (by simp))

theorem WsPath.not_inside {w₁ w₂ : Path} (h₁ : WsPath w₁) (h₂ : WsPath w₂) : ¬ Inside w₁ w₂ := by
  obtain ⟨l₁, rfl, -⟩ := h₁
  obtain ⟨l₂, rfl, -⟩ := h₂
  exact fun h => by simp [Inside] at h

theorem WsPath.not_prefix_canonical {ws : Path} (h : WsPath ws) {d : String}
    (hd : d.toList.head? = some 'c') (rest : Path) : ¬ ws <+: circuitBase ++ d :: rest := by
  obtain ⟨l, rfl, hl⟩ := h
  intro hp
  rw [List.prefix_append_right_inj, List.cons_prefix_cons] at hp
  rw [hp.1, hd] at hl
  cases hl

/-- A path below no workspace path. -/
def OutsideWorkspaces (p : Path) : Prop := ∀ ws, WsPath ws → ¬ ws <+: p

theorem getCircuitPaths_ok {c : Json} {cid : String} {paths : CircuitPaths}
    (h : getCircuitPaths c = .ok (cid, paths)) :
    ∃ d : String, d.toList.head? = some 'c' ∧ ∃ b v, paths.bytecode = circuitBase ++ d :: b ∧
      paths.vk = circuitBase ++ d :: v := by
  unfold getCircuitPaths at h
  split at h <;> try cases h
  split at h <;> try cases h
  rename_i m hm
  simp only [CIRCUITS, List.lookup_cons, List.lookup_nil] at hm
  split at hm <;> [skip; split at hm] <;> cases hm <;> exact ⟨_, by decide, _, _, rfl, rfl⟩

/-- The text of a request's `requestId` has no `/`. -/
def NoSlash (req : Dict) : Prop := '/' ∉ (requestIdOf req).pyStr.toList

/-- **A request past its checks**: its fields passed, its circuit is a key of `CIRCUITS`, and its
artifacts exist. -/
structure CheckedOk (fs : Fs) (req : Dict) (paths : CircuitPaths) : Prop where
  fields : proveFieldError req = none
  circuit : ∃ cid, getCircuitPaths (req.get "circuitId" .null) = .ok (cid, paths)
  artifacts : checkArtifacts fs paths = .ok ()

/-- **A live workspace**: its request is past its checks, and it is the existing directory
`CIRCUIT_BASE_DIR/proof-<requestId>-<name>`. -/
structure LiveOk (fs : Fs) (req : Dict) (paths : CircuitPaths) (ws : Path)
    extends CheckedOk fs req paths : Prop where
  name : ∃ n : TempName, ws = circuitBase ++ [workspacePrefix (requestIdOf req) ++ String.mk n.chars]
  isDir : fs ws = some .dir

theorem LiveOk.wsPath {fs : Fs} {req : Dict} {paths : CircuitPaths} {ws : Path}
    (h : LiveOk fs req paths ws) : WsPath ws := by
  obtain ⟨n, rfl⟩ := h.name
  exact ⟨_, rfl, rfl⟩

theorem checkArtifacts_congr {fs fs' : Fs} {paths : CircuitPaths}
    (h₁ : fs' paths.bytecode = fs paths.bytecode) (h₂ : fs' paths.vk = fs paths.vk) :
    checkArtifacts fs' paths = checkArtifacts fs paths := by
  unfold checkArtifacts Fs.exists?
  rw [h₁, h₂]

section Frame

variable {ws : Path} {fs fs' : Fs} {req : Dict} {paths : CircuitPaths}

theorem CheckedOk.of_fsUnder (h : CheckedOk fs req paths) (hu : FsUnder ws fs fs') (hw : WsPath ws) :
    CheckedOk fs' req paths := by
  obtain ⟨cid, hc⟩ := h.circuit
  obtain ⟨d, hd, b, v, hb, hv⟩ := getCircuitPaths_ok hc
  refine ⟨h.fields, h.circuit, ?_⟩
  rw [checkArtifacts_congr (hu _ (hb ▸ hw.not_prefix_canonical hd b))
    (hu _ (hv ▸ hw.not_prefix_canonical hd v)), h.artifacts]

theorem LiveOk.of_fsUnder {ws₀ : Path} (h : LiveOk fs req paths ws₀) (hu : FsUnder ws fs fs')
    (hw : WsPath ws) (hd : fs' ws₀ = fs ws₀) : LiveOk fs' req paths ws₀ :=
  { h.toCheckedOk.of_fsUnder hu hw with
    name := h.name
    isDir := hd.trans h.isDir }

end Frame

theorem getElem?_set_eq_some {l : List Thread} {i j : Nat} {t t' : Thread}
    (h : (l.set j t)[i]? = some t') : (i = j ∧ t' = t) ∨ (i ≠ j ∧ l[i]? = some t') := by
  rw [List.getElem?_set] at h
  split at h
  · split at h
    · cases h; exact .inl ⟨by omega, rfl⟩
    · cases h
  · exact .inr ⟨fun e => by omega, h⟩

theorem getElem?_concat_eq_some {l : List Thread} {i : Nat} {t t' : Thread}
    (h : (l ++ [t])[i]? = some t') : l[i]? = some t' ∨ t' = t := by
  rcases Nat.lt_or_ge i l.length with hi | hi
  · exact .inl (by rwa [List.getElem?_append_left hi] at h)
  · rw [List.getElem?_append_right hi] at h
    rcases Nat.eq_zero_or_pos (i - l.length) with h0 | h0
    · rw [h0] at h; cases h; exact .inr rfl
    · simp [List.getElem?_eq_none (by simp; omega : [t].length ≤ i - l.length)] at h

/-- **The invariant of the server** when the requests that arrive satisfy `Arrives`. -/
structure Safe (Arrives : Dict → Prop) (s : Sys) : Prop where
  arrived : ∀ (i : Nat) (t : Thread), s.threads[i]? = some t → Arrives t.req
  checked : ∀ (i : Nat) (req : Dict) (paths : CircuitPaths),
    s.threads[i]? = some ⟨req, .checked paths⟩ → CheckedOk s.fs req paths
  live : ∀ (i : Nat) (req : Dict) (paths : CircuitPaths) (ws : Path),
    s.threads[i]? = some ⟨req, .live paths ws⟩ → LiveOk s.fs req paths ws
  distinct : ∀ (i j : Nat) (req req' : Dict) (paths paths' : CircuitPaths) (ws ws' : Path), i ≠ j →
    s.threads[i]? = some ⟨req, .live paths ws⟩ → s.threads[j]? = some ⟨req', .live paths' ws'⟩ →
    ws ≠ ws'

theorem safe_init (Arrives : Dict → Prop) (fs : Fs) : Safe Arrives ⟨fs, []⟩ :=
  ⟨fun _ _ h => by simp at h, fun _ _ _ h => by simp at h, fun _ _ _ _ h => by simp at h,
    fun _ _ _ _ _ _ _ _ _ h => by simp at h⟩

section Steps

variable {A : Dict → Prop} {s : Sys}

theorem Safe.arrive (hs : Safe A s) {req : Dict} (h : A req) :
    Safe A { s with threads := s.threads ++ [⟨req, .start⟩] } := by
  refine ⟨fun i t hi => ?_, fun i r p hi => ?_, fun i r p w hi => ?_,
    fun i j r r' p p' w w' hij hi hj => ?_⟩
  · rcases getElem?_concat_eq_some hi with hi | rfl
    · exact hs.arrived i t hi
    · exact h
  · rcases getElem?_concat_eq_some hi with hi | hi
    · exact hs.checked i r p hi
    · cases hi
  · rcases getElem?_concat_eq_some hi with hi | hi
    · exact hs.live i r p w hi
    · cases hi
  · rcases getElem?_concat_eq_some hi with hi | hi
    · rcases getElem?_concat_eq_some hj with hj | hj
      · exact hs.distinct i j r r' p p' w w' hij hi hj
      · cases hj
    · cases hi

/-- A thread moves to a phase without a workspace, keeping its request. -/
theorem Safe.set_notLive (hs : Safe A s) {i : Nat} {t t' : Thread} (hi : s.threads[i]? = some t)
    (hreq : t'.req = t.req) (hlive : ∀ p w, t'.phase ≠ .live p w)
    (hchecked : ∀ p, t'.phase = .checked p → CheckedOk s.fs t'.req p) :
    Safe A { s with threads := s.threads.set i t' } := by
  refine ⟨fun k u hk => ?_, fun k r p hk => ?_, fun k r p w hk => ?_,
    fun k j r r' p p' w w' hkj hk hj => ?_⟩
  · rcases getElem?_set_eq_some hk with ⟨rfl, rfl⟩ | ⟨-, hk⟩
    · exact hreq ▸ hs.arrived _ _ hi
    · exact hs.arrived k u hk
  · rcases getElem?_set_eq_some hk with ⟨rfl, he⟩ | ⟨-, hk⟩
    · exact he ▸ hchecked p (by rw [← he])
    · exact hs.checked k r p hk
  · rcases getElem?_set_eq_some hk with ⟨rfl, he⟩ | ⟨-, hk⟩
    · exact absurd (by rw [← he]) (hlive p w)
    · exact hs.live k r p w hk
  · rcases getElem?_set_eq_some hk with ⟨rfl, he⟩ | ⟨-, hk⟩
    · exact absurd (by rw [← he]) (hlive p w)
    rcases getElem?_set_eq_some hj with ⟨rfl, he⟩ | ⟨-, hj⟩
    · exact absurd (by rw [← he]) (hlive p' w')
    · exact hs.distinct k j r r' p p' w w' hkj hk hj

/-- The filesystem changes at or below `ws`, which is no live thread's workspace. -/
theorem Safe.fsUnder (hs : Safe A s) {ws : Path} (hw : WsPath ws)
    (hlive : ∀ (k : Nat) (r : Dict) (p : CircuitPaths) (w : Path),
      s.threads[k]? = some ⟨r, .live p w⟩ → w ≠ ws) {fs' : Fs}
    (hu : FsUnder ws s.fs fs') : Safe A { s with fs := fs' } :=
  ⟨hs.arrived, fun k r p hk => (hs.checked k r p hk).of_fsUnder hu hw,
    fun k r p w hk => (hs.live k r p w hk).of_fsUnder hu hw
      (hu _ (hw.not_prefix (hs.live k r p w hk).wsPath (hlive k r p w hk).symm)),
    hs.distinct⟩

/-- The filesystem changes strictly inside the workspace `ws`. -/
theorem Safe.fsInside (hs : Safe A s) {ws : Path} (hw : WsPath ws) {fs' : Fs}
    (h : FsInside ws s.fs fs') : Safe A { s with fs := fs' } :=
  ⟨hs.arrived, fun k r p hk => (hs.checked k r p hk).of_fsUnder h.fsUnder hw,
    fun k r p w hk => (hs.live k r p w hk).of_fsUnder h.fsUnder hw
      (h _ (hw.not_inside (hs.live k r p w hk).wsPath)),
    hs.distinct⟩

/-- A checked thread goes live with a workspace no other live thread has. -/
theorem Safe.set_live (hs : Safe A s) {i : Nat} {req : Dict} {paths : CircuitPaths} {ws : Path}
    (hi : s.threads[i]? = some ⟨req, .checked paths⟩) (hok : LiveOk s.fs req paths ws)
    (hfresh : ∀ (k : Nat) (r : Dict) (p : CircuitPaths) (w : Path),
      s.threads[k]? = some ⟨r, .live p w⟩ → w ≠ ws) :
    Safe A { s with threads := s.threads.set i ⟨req, .live paths ws⟩ } := by
  refine ⟨fun k u hk => ?_, fun k r p hk => ?_, fun k r p w hk => ?_,
    fun k j r r' p p' w w' hkj hk hj => ?_⟩
  · rcases getElem?_set_eq_some hk with ⟨rfl, rfl⟩ | ⟨-, hk⟩
    · exact hs.arrived _ ⟨req, .checked paths⟩ hi
    · exact hs.arrived k u hk
  · rcases getElem?_set_eq_some hk with ⟨rfl, he⟩ | ⟨-, hk⟩
    · cases he
    · exact hs.checked k r p hk
  · rcases getElem?_set_eq_some hk with ⟨rfl, he⟩ | ⟨-, hk⟩
    · cases he; exact hok
    · exact hs.live k r p w hk
  · rcases getElem?_set_eq_some hk with ⟨rfl, he⟩ | ⟨-, hk'⟩
    · rcases getElem?_set_eq_some hj with ⟨rfl, -⟩ | ⟨-, hj'⟩
      · exact absurd rfl hkj
      · cases he; exact (hfresh j r' p' w' hj').symm
    · rcases getElem?_set_eq_some hj with ⟨rfl, he'⟩ | ⟨-, hj'⟩
      · cases he'; exact hfresh k r p w hk'
      · exact hs.distinct k j r r' p p' w w' hkj hk' hj'

end Steps

theorem wsPath_of_name {rid : Json} {n : TempName} :
    WsPath (circuitBase ++ [workspacePrefix rid ++ String.mk n.chars]) := ⟨_, rfl, rfl⟩

/-- **The invariant holds in every reachable state** when every `requestId`'s text is `/`-free. -/
theorem safe_of_reachable {s : Sys} (h : Reachable NoSlash s) : Safe NoSlash s := by
  induction h with
  | init fs => exact safe_init _ fs
  | @step s₀ _ _ st hs =>
    cases st with
    | arrive h => exact hs.arrive h
    | check hi hf hc ha =>
      exact hs.set_notLive hi rfl (fun _ _ => nofun) fun p hp => by
        cases hp; exact ⟨hf, ⟨_, hc⟩, ha⟩
    | giveUp hi _ => exact hs.set_notLive hi rfl (fun _ _ => nofun) fun _ => nofun
    | create hi hm =>
      obtain ⟨k, rfl, hnone, rfl⟩ := mkdtemp_workspace (by
        simpa [workspacePrefix] using hs.arrived _ _ hi) hm
      have hfresh : ∀ (k : Nat) (r : Dict) (p : CircuitPaths) (w : Path),
          _ → w ≠ circuitBase ++ [workspacePrefix _ ++ String.mk _] :=
        fun k r p w hk he => by
          have := (hs.live k r p w hk).isDir
          rw [he, hnone] at this
          cases this
      have hs' := hs.fsUnder wsPath_of_name hfresh (newDir_fsUnder _ _)
      exact hs'.set_live hi
        { hs'.checked _ _ _ hi with
          name := ⟨_, rfl⟩
          isDir := by simp [newDir] } hfresh
    | work hi hw => exact hs.fsInside (hs.live _ _ _ _ hi).wsPath hw
    | @finish i req paths ws hi =>
      have hs' : Safe NoSlash { s₀ with threads := s₀.threads.set i ⟨req, .returned⟩ } :=
        hs.set_notLive hi rfl (fun _ _ => nofun) fun _ => nofun
      exact hs'.fsUnder (hs.live _ _ _ _ hi).wsPath
        (fun k r p w hk he => by
          rcases getElem?_set_eq_some hk with ⟨rfl, he'⟩ | ⟨hki, hk'⟩
          · cases he'
          · exact hs.distinct _ _ _ _ _ _ _ _ hki hk' hi he)
        (removeTree_fsUnder _ _)

/-- A run from the filesystem `fs₀` with no thread reaches a reachable state. -/
theorem reachable_of_reflTransGen {A : Dict → Prop} {fs₀ : Fs} {s : Sys}
    (h : Relation.ReflTransGen (Step A) ⟨fs₀, []⟩ s) : Reachable A s := by
  induction h with
  | refl => exact .init fs₀
  | tail _ st ih => exact .step ih st

/-- A step of a safe state changes nothing outside the workspace paths. -/
theorem Safe.step_outside {s s' : Sys} (hs : Safe NoSlash s) (st : Step NoSlash s s') {p : Path}
    (hp : OutsideWorkspaces p) : s'.fs p = s.fs p := by
  cases st with
  | arrive _ | check _ _ _ _ | giveUp _ _ => rfl
  | create hi hm =>
    obtain ⟨k, rfl, -, rfl⟩ := mkdtemp_workspace (by
      simpa [workspacePrefix] using hs.arrived _ _ hi) hm
    exact newDir_fsUnder _ _ p (hp _ wsPath_of_name)
  | work hi hw => exact hw.fsUnder p (hp _ (hs.live _ _ _ _ hi).wsPath)
  | finish hi => exact removeTree_fsUnder _ _ p (hp _ (hs.live _ _ _ _ hi).wsPath)

theorem WsPath.disjoint_canonical {ws : Path} (h : WsPath ws) {cid : String} {m : CircuitMeta}
    (hm : (cid, m) ∈ CIRCUITS) : ¬ ws <+: m.paths.dir ∧ ¬ m.paths.dir <+: ws := by
  obtain ⟨l, rfl, hl⟩ := h
  have hd : m.dir.toList.head? = some 'c' := by
    simp only [CIRCUITS, List.mem_cons, Prod.mk.injEq, List.mem_nil_iff, or_false] at hm
    rcases hm with ⟨-, rfl⟩ | ⟨-, rfl⟩ <;> rfl
  have hne : l ≠ m.dir := fun he => by rw [he, hd] at hl; cases hl
  refine ⟨fun hp => hne ?_, fun hp => hne ?_⟩
  · simpa [CircuitMeta.paths] using hp.eq_of_length (by simp [CircuitMeta.paths])
  · simpa [CircuitMeta.paths] using (hp.eq_of_length (by simp [CircuitMeta.paths])).symm

/-- **Workspaces of concurrent requests**, over every interleaving of any number of prove requests
whose `requestId`s have `/`-free texts, and every behaviour of the tools within the paths they are
given: a live workspace belongs to a request that passed its checks and whose artifacts exist; it
is the existing directory `CIRCUIT_BASE_DIR/proof-<requestId>-<name>`, outside every canonical
circuit directory; and two live workspaces are disjoint. -/
theorem workspaces_safe {s : Sys} (h : Reachable NoSlash s) :
    (∀ (i : Nat) (req : Dict) (paths : CircuitPaths) (ws : Path),
      s.threads[i]? = some ⟨req, .live paths ws⟩ →
        LiveOk s.fs req paths ws ∧
        ∀ cid m, (cid, m) ∈ CIRCUITS → ¬ ws <+: m.paths.dir ∧ ¬ m.paths.dir <+: ws) ∧
    (∀ (i j : Nat) (req req' : Dict) (paths paths' : CircuitPaths) (ws ws' : Path), i ≠ j →
      s.threads[i]? = some ⟨req, .live paths ws⟩ → s.threads[j]? = some ⟨req', .live paths' ws'⟩ →
        ¬ ws <+: ws' ∧ ¬ ws' <+: ws) := by
  have hs := safe_of_reachable h
  refine ⟨fun i req paths ws hi => ⟨hs.live i req paths ws hi,
    fun _ _ hm => (hs.live i req paths ws hi).wsPath.disjoint_canonical hm⟩, ?_⟩
  intro i j req req' paths paths' ws ws' hij hi hj
  have hne := hs.distinct i j req req' paths paths' ws ws' hij hi hj
  have h₁ := (hs.live i req paths ws hi).wsPath
  have h₂ := (hs.live j req' paths' ws' hj).wsPath
  exact ⟨h₁.not_prefix h₂ hne, h₂.not_prefix h₁ (Ne.symm hne)⟩

theorem workspaces_safe_coinbase :
    LiveOk (newDir circuitFs (circuitBase ++ ["proof-a-aaaaaaaa"])) (proveRequest "a") coinbasePaths
      (circuitBase ++ ["proof-a-aaaaaaaa"]) := by
  have checked : Reachable NoSlash ⟨circuitFs, [⟨proveRequest "a", .checked coinbasePaths⟩]⟩ :=
    .step (.step (.init circuitFs) (.arrive (by unfold NoSlash; decide)))
      (.check (i := 0) rfl rfl rfl rfl)
  have live : Reachable NoSlash ⟨newDir circuitFs (circuitBase ++ ["proof-a-aaaaaaaa"]),
      [⟨proveRequest "a", .live coinbasePaths (circuitBase ++ ["proof-a-aaaaaaaa"])⟩]⟩ :=
    .step checked (.create (i := 0) rfl (show mkdtemp _ _ _ idleEnv.names = _ from rfl))
  exact ((workspaces_safe live).1 0 _ _ _ rfl).1

/-- **The circuits are read-only**: over every interleaving of prove requests whose `requestId`s
have `/`-free texts, from any filesystem `fs₀`, and whatever the tools do within the paths they are
given, nothing outside the workspace paths `CIRCUIT_BASE_DIR/p…` ever changes; in particular
nothing below a canonical circuit directory. -/
theorem circuits_unchanged {fs₀ : Fs} {s : Sys}
    (h : Relation.ReflTransGen (Step NoSlash) ⟨fs₀, []⟩ s) :
    (∀ p, OutsideWorkspaces p → s.fs p = fs₀ p) ∧
    ∀ cid m, (cid, m) ∈ CIRCUITS → ∀ q, m.paths.dir <+: q → s.fs q = fs₀ q := by
  have outside : ∀ p, OutsideWorkspaces p → s.fs p = fs₀ p := by
    induction h with
    | refl => exact fun _ _ => rfl
    | tail hr st ih =>
      exact fun p hp =>
        ((safe_of_reachable (reachable_of_reflTransGen hr)).step_outside st hp).trans (ih p hp)
  refine ⟨outside, fun cid m hm q hq => outside q fun ws hw hws => ?_⟩
  rcases List.prefix_or_prefix_of_prefix hws hq with h₁ | h₂
  · exact (hw.disjoint_canonical hm).1 h₁
  · exact (hw.disjoint_canonical hm).2 h₂

theorem circuits_unchanged_coinbase :
    (newDir circuitFs (circuitBase ++ ["proof-a-aaaaaaaa"]))
        (circuitBase ++ ["coinbase-attestation", "target", "vk", "vk"]) =
      circuitFs (circuitBase ++ ["coinbase-attestation", "target", "vk", "vk"]) := by
  have checked : Relation.ReflTransGen (Step NoSlash) ⟨circuitFs, []⟩
      ⟨circuitFs, [⟨proveRequest "a", .checked coinbasePaths⟩]⟩ :=
    .tail (.single (.arrive (by unfold NoSlash; decide))) (.check (i := 0) rfl rfl rfl rfl)
  have h : Relation.ReflTransGen (Step NoSlash) ⟨circuitFs, []⟩
      ⟨newDir circuitFs (circuitBase ++ ["proof-a-aaaaaaaa"]),
        [⟨proveRequest "a", .live coinbasePaths (circuitBase ++ ["proof-a-aaaaaaaa"])⟩]⟩ :=
    .tail checked (.create (i := 0) rfl (show mkdtemp _ _ _ idleEnv.names = _ from rfl))
  exact (circuits_unchanged h).2 _ _ (List.mem_cons_self _ _) _ ⟨["target", "vk", "vk"], rfl⟩

/-! ### Nested workspaces -/

/-- **Nested workspaces**: the `mkdtemp` names being `aaaaaaaa`, three concurrent requests reach
live workspaces of which the second is inside the first, and the third inside the canonical
`target/` of `coinbase_attestation`. -/
theorem nested_workspace :
    ∃ fs, Reachable (fun _ => True) ⟨fs,
      [⟨proveRequest "a", .live coinbasePaths (circuitBase ++ ["proof-a-aaaaaaaa"])⟩,
       ⟨proveRequest "a-aaaaaaaa/x", .live coinbasePaths
         (circuitBase ++ ["proof-a-aaaaaaaa", "x-aaaaaaaa"])⟩,
       ⟨proveRequest "a-aaaaaaaa/../coinbase-attestation/target/y", .live coinbasePaths
         (circuitBase ++ ["coinbase-attestation", "target", "y-aaaaaaaa"])⟩]⟩ := by
  have arrived : Reachable (fun _ => True)
      ⟨circuitFs, [⟨proveRequest "a", .start⟩, ⟨proveRequest "a-aaaaaaaa/x", .start⟩,
        ⟨proveRequest "a-aaaaaaaa/../coinbase-attestation/target/y", .start⟩]⟩ :=
    .step (.step (.step (.init _) (.arrive trivial)) (.arrive trivial)) (.arrive trivial)
  have checked : Reachable (fun _ => True) ⟨circuitFs,
      [⟨proveRequest "a", .checked coinbasePaths⟩, ⟨proveRequest "a-aaaaaaaa/x", .checked coinbasePaths⟩,
        ⟨proveRequest "a-aaaaaaaa/../coinbase-attestation/target/y", .checked coinbasePaths⟩]⟩ :=
    .step (.step (.step arrived (.check (i := 0) rfl rfl rfl rfl)) (.check (i := 1) rfl rfl rfl rfl))
      (.check (i := 2) rfl rfl rfl rfl)
  exact ⟨_, .step (.step (.step checked
    (.create (i := 0) rfl (show mkdtemp _ _ _ idleEnv.names = _ from rfl)))
    (.create (i := 1) rfl (show mkdtemp _ _ _ idleEnv.names = _ from rfl)))
    (.create (i := 2) rfl (show mkdtemp _ _ _ idleEnv.names = _ from rfl))⟩

end EnclaveProver.Server.Workspaces
