import EnclaveProver.Pipeline.Generate

/-!
# Which witness `bb prove` is given

`generate_proof` copies the circuit's canonical `target/` directory into the workspace *before* it
runs `nargo execute`, and afterwards looks for the witness under `target/<circuit_id>.gz`, then
`target/witness.gz`. When `nargo` writes its witness under another name (its package name, say),
and the canonical `target/` holds a witness from an earlier build, the lookup finds the copy of that
old witness, and `bb prove` proves it: the proof returned is not one of this request's inputs.

* `bbWitnessProver`: a `bb` that proves the witness file it is given (its proof is the witness's
  bytes), so that the proof shows which witness was used;
* `proveStage_stale_witness`: with the old witness `[7]` in the canonical `target/` and `nargo`
  writing its witness `[9]` as `target/coinbase.gz`, `bb prove` is run on the copy of the old one
  and the proof returned is `[7]`.
-/

namespace EnclaveProver.Pipeline.Witness

open EnclaveProver.Python.Value EnclaveProver.Python.Hex EnclaveProver.Python.Files
open EnclaveProver.Pipeline.Generate EnclaveProver.Python.Effect

/-- The path a rendered absolute path string stands for. -/
def parsePath (s : String) : Path := ((splitOn '/' s.toList).drop 1).map String.mk

/-- The bytes of the file at the path after `-w` in a command line. -/
def witnessArg (argv : List String) (fs : Fs) : Bytes :=
  match argv.dropWhile (· ≠ "-w") with
  | _ :: w :: _ =>
    match fs (parsePath w) with
    | some (.file d) => d
    | _ => []
  | _ => []

/-- **A `bb` that proves the witness it is given**: it writes the witness's bytes as the proof. -/
def bbWitnessProver (argv : List String) (fs : Fs) : BbRun := ⟨[([], .file (witnessArg argv fs))], .exited 0 [] [] 0⟩

/-- The canonical directory of `coinbase_attestation`. -/
def coinbaseDir : Path := circuitBase ++ ["coinbase-attestation"]

/-- The circuit's artifacts, and an old witness `[7]` in its canonical `target/`. -/
def staleFs : Fs := fsOf
  [(["app"], .dir), (circuitBase, .dir), (coinbaseDir, .dir), (coinbaseDir ++ ["target"], .dir),
   (coinbaseDir ++ ["target", "coinbase_attestation.json"], .file [1]),
   (coinbaseDir ++ ["target", "vk"], .dir), (coinbaseDir ++ ["target", "vk", "vk"], .file [2]),
   (coinbaseDir ++ ["target", "coinbase_attestation.gz"], .file [7])]

/-- `nargo` writes this request's witness `[9]` as `target/coinbase.gz` and exits 0; `bb` proves the
witness it is given. -/
def renamingEnv : ProveEnv where
  names := fun _ => ⟨List.replicate 8 'a', rfl, by decide⟩
  nargo := fun _ _ => ⟨[(["target", "coinbase.gz"], .file [9])], by simp, .exited 0 [] [] 0⟩
  bb := bbWitnessProver
  sha256 := id
  nsm := ⟨false, false, fun _ => [], fun _ => none, fun _ => .raised ""⟩
  logLimit := 990
  copyErrors := ""

/-- **The old witness is proved**: `bb prove` is given the copy of the canonical `target/`'s
`coinbase_attestation.gz`, and the proof returned is made from it, not from the witness `[9]` that
this request's `nargo execute` wrote. -/
theorem proveStage_stale_witness :
    (exec (proveStage renamingEnv (.str "coinbase_attestation") [.str "1"] (.str "r") .null)
      ⟨staleFs, []⟩).2.calls.map ToolCall.argv =
      [["nargo", "execute", "--program-dir", "/app/circuits/proof-r-aaaaaaaa"],
       ["bb", "prove", "-b", "/app/circuits/coinbase-attestation/target/coinbase_attestation.json",
        "-w", "/app/circuits/proof-r-aaaaaaaa/target/coinbase_attestation.gz",
        "-o", "/app/circuits/proof-r-aaaaaaaa/proof",
        "-k", "/app/circuits/coinbase-attestation/target/vk/vk", "--oracle_hash", "keccak"]] ∧
    (exec (proveStage renamingEnv (.str "coinbase_attestation") [.str "1"] (.str "r") .null)
      ⟨staleFs, []⟩).1 = .ok ([7], []) :=
  ⟨rfl, rfl⟩

end EnclaveProver.Pipeline.Witness
