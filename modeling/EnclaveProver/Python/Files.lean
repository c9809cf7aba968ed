import EnclaveProver.Python.Hex

/-!
# The filesystem, and the calls of `os`, `shutil` and `tempfile` the server makes

A path is the list of its components below the root, and the filesystem `Fs` says what stands at
each path: a directory or a file with its bytes. The server reaches it through

* `os.path.exists`, `os.path.isdir`, `open(p).read()` and `open(p, "w").write(t)`;
* `shutil.copy2` and `shutil.copytree`, which copy a file or a whole subtree (`copytree` into a
  directory inside its own source copies its own copies until a path is too long, and raises);
* `shutil.rmtree`, with which `TemporaryDirectory` removes the workspace;
* `tempfile.mkdtemp(prefix=..., dir=...)`, which creates the workspace `dir/<prefix><name>` for the
  first random `name` whose directory does not exist yet.

`mkdtemp` joins the prefix into the path as a string, so a `/` in the prefix makes more components.
`mkdirPath` resolves a path string as the kernel does: a string of `PATH_MAX` bytes or more is too
long; it walks the components before the last (`walk`: empty and `.` components stay, `..` goes up,
a name must be a directory of at most `NAME_MAX` bytes) and creates the last one below where the walk
ends. The result is the path `os.path.abspath` writes (CPython 3.12 returns
`abspath(file)`), and every later `os.path.join(workdir, ...)` adds plain components to it.

Errors carry the texts CPython gives them: an `OsError` prints as `[Errno n] <strerror>: '<path>'`.
-/

namespace EnclaveProver.Python.Files

open EnclaveProver.Python.Value EnclaveProver.Python.Hex

/-- A path: its components below the root. -/
abbrev Path := List String

/-- What stands at a path. -/
inductive Entry where
  | dir
  | file (data : Bytes)
  deriving Inhabited, DecidableEq

/-- **The filesystem**: what stands at each path. -/
def Fs := Path → Option Entry

/-- `"/a/b"` for `["a", "b"]`. -/
def render (p : Path) : String := String.join (p.map ("/" ++ ·))

/-- The UTF-8 bytes of a text, as `open(p, "w").write(t)` stores them. -/
def utf8 (s : String) : Bytes := s.toList.flatMap String.utf8EncodeChar

/-- A filesystem given by its entries. -/
def fsOf (entries : List (Path × Entry)) : Fs := fun p => entries.lookup p

/-! ### Reading and writing -/

namespace Fs

/-- `os.path.exists(p)`. -/
def exists? (fs : Fs) (p : Path) : Bool := (fs p).isSome

/-- `os.path.isdir(p)`. -/
def isDir (fs : Fs) (p : Path) : Bool :=
  match fs p with
  | some .dir => true
  | _ => false

/-- The filesystem with `e` at `p`. -/
def set (fs : Fs) (p : Path) (e : Entry) : Fs := fun q => if q = p then some e else fs q

/-- `shutil.rmtree(p)`: `p` and everything below it removed. -/
def removeTree (fs : Fs) (p : Path) : Fs := fun q => if p.isPrefixOf q then none else fs q

/-- The subtree at `src` copied to `dst`. -/
def copyTree (fs : Fs) (src dst : Path) : Fs :=
  fun q => if dst.isPrefixOf q then fs (src ++ q.drop dst.length) else fs q

@[simp] theorem set_apply (fs : Fs) (p q : Path) (e : Entry) :
    fs.set p e q = if q = p then some e else fs q := rfl

@[simp] theorem removeTree_apply (fs : Fs) (p q : Path) :
    fs.removeTree p q = if p.isPrefixOf q then none else fs q := rfl

@[simp] theorem copyTree_apply (fs : Fs) (src dst q : Path) :
    fs.copyTree src dst q = if dst.isPrefixOf q then fs (src ++ q.drop dst.length) else fs q := rfl

end Fs

/-- **An `OSError`**: its errno, its message and the path it names. -/
structure OsError where
  errno : Nat
  strerror : String
  filename : Option String

/-- `str(e)` of an `OSError`. -/
def OsError.text (e : OsError) : String :=
  "[Errno " ++ toString e.errno ++ "] " ++ e.strerror ++
    match e.filename with
    | some f => ": " ++ strRepr f
    | none => ""

/-- `ENOENT` on `path`. -/
def noSuchFile (path : String) : OsError := ⟨2, "No such file or directory", some path⟩

/-- `EEXIST` on `path`. -/
def fileExists (path : String) : OsError := ⟨17, "File exists", some path⟩

/-- `ENOTDIR` on `path`. -/
def notADirectory (path : String) : OsError := ⟨20, "Not a directory", some path⟩

/-- `EISDIR` on `path`. -/
def isADirectory (path : String) : OsError := ⟨21, "Is a directory", some path⟩

/-- `ENAMETOOLONG` on `path`. -/
def nameTooLong (path : String) : OsError := ⟨36, "File name too long", some path⟩

/-- `NAME_MAX`: the most bytes a component of a path may have. -/
def NAME_MAX : Nat := 255

/-- `PATH_MAX`: the bytes of a path string and its terminating NUL must fit in it. -/
def PATH_MAX : Nat := 4096

/-- `open(p, "rb").read()`. -/
def readFile (fs : Fs) (p : Path) : Except OsError Bytes :=
  match fs p with
  | some (.file data) => .ok data
  | some .dir => .error (isADirectory (render p))
  | none => .error (noSuchFile (render p))

/-- `shutil.copy2(src, dst)`: the bytes of the file `src` written to `dst`. -/
def copy2 (fs : Fs) (src dst : Path) : Except OsError Fs :=
  (readFile fs src).map fun data => fs.set dst (.file data)

/-- What `shutil.copytree(src, dst)` does. -/
inductive CopyTree where
  /-- It raised before copying anything. -/
  | failed (e : OsError)
  /-- It copied the subtree. -/
  | copied (fs : Fs)
  /-- `dst` lies inside `src`: `copytree` lists each directory only when it reaches it, so it finds
  the copies it has made below `dst` and copies them again, one level deeper each time, until a
  path grows past `PATH_MAX`; the `ENAMETOOLONG` errors it collects are raised as one
  `shutil.Error`. The filesystem holds what it copied: what stood in `src` when it was called (the
  copies of the copies are left out, and lie below `dst` too). -/
  | copiedIntoItself (fs : Fs)

/-- **`shutil.copytree(src, dst)`**: `src` must be a directory and `dst` must not exist. -/
def copytree (fs : Fs) (src dst : Path) : CopyTree :=
  if !fs.isDir src then .failed (notADirectory (render src))
  else if fs.exists? dst then .failed (fileExists (render dst))
  else if src.isPrefixOf dst then .copiedIntoItself (fs.copyTree src dst)
  else .copied (fs.copyTree src dst)

/-- Whether or not it then raises, what `copytree` copied stands at `dst`. -/
theorem copytree_copies {fs fs' : Fs} {src dst : Path}
    (h : copytree fs src dst = .copied fs' ∨ copytree fs src dst = .copiedIntoItself fs') :
    fs' = fs.copyTree src dst := by
  unfold copytree at h
  split_ifs at h <;> simp_all

/-! ### Path strings -/

/-- The kernel's walk over the components of a path string before the last: empty and `.`
components stay, `..` goes to the parent (the root is its own), a name of more than `NAME_MAX`
bytes is too long, and a name must be a directory. The error is the errno the walk stops with. -/
def walk (fs : Fs) : Path → List String → Except Nat Path
  | cur, [] => .ok cur
  | cur, c :: cs =>
    if c = "" ∨ c = "." then walk fs cur cs
    else if c = ".." then walk fs cur.dropLast cs
    else if NAME_MAX < (utf8 c).length then .error 36
    else match fs (cur ++ [c]) with
      | some .dir => walk fs (cur ++ [c]) cs
      | some (.file _) => .error 20
      | none => .error 2

/-- A new, empty directory at `p`. -/
def newDir (fs : Fs) (p : Path) : Fs := (fs.removeTree p).set p .dir

/-- The errors `os.mkdir` raises. -/
inductive MkdirError where
  | valueError (msg : String)
  | os (e : OsError)

/-- The `OSError` of a walk that stopped with the errno `n`, on the path string `s`. -/
def walkError (n : Nat) (s : String) : OsError :=
  ⟨n, if n = 20 then "Not a directory" else if n = 36 then "File name too long"
    else "No such file or directory", some s⟩

/-- **`os.mkdir(s)`** of an absolute path string `s`: a NUL character is a `ValueError`; a string
of `PATH_MAX` bytes or more is too long; the components before the last are walked, and the last
is created, empty, below where the walk ends, unless it has more than `NAME_MAX` bytes or something
stands there (a last component `""`, `.` or `..` names a directory that stands). The result is the
new directory's path. -/
def mkdirPath (fs : Fs) (s : String) : Except MkdirError (Fs × Path) :=
  if s.toList.contains (Char.ofNat 0) then .error (.valueError "embedded null byte")
  else if PATH_MAX ≤ (utf8 s).length then .error (.os (nameTooLong s))
  else
    let comps := (splitOn '/' s.toList).map String.mk
    match walk fs [] comps.dropLast with
    | .error n => .error (.os (walkError n s))
    | .ok parent =>
      let last := comps.getLastD ""
      if last = "" ∨ last = "." ∨ last = ".." then .error (.os (fileExists s))
      else if NAME_MAX < (utf8 last).length then .error (.os (nameTooLong s))
      else if fs.exists? (parent ++ [last]) then .error (.os (fileExists s))
      else .ok (newDir fs (parent ++ [last]), parent ++ [last])

/-! ### `tempfile.mkdtemp` -/

/-- The characters `tempfile`'s random names are drawn from. -/
def tempNameChars : List Char := "abcdefghijklmnopqrstuvwxyz0123456789_".toList

/-- **A name `tempfile` can draw**: eight characters of `tempNameChars`. -/
structure TempName where
  chars : List Char
  length_eq : chars.length = 8
  mem : ∀ c ∈ chars, c ∈ tempNameChars

/-- `tempfile.TMP_MAX`, the number of names `mkdtemp` tries. -/
def TMP_MAX : Nat := 10000

/-- The loop of `mkdtemp` from the `i`-th name on, with `fuel` tries left: a name whose directory
exists is skipped, any other error is raised. -/
def mkdtempLoop (fs : Fs) (dir pre : String) (names : Nat → TempName) :
    Nat → Nat → Except MkdirError (Fs × Path)
  | 0, _ => .error (.os ⟨17, "No usable temporary directory name found", none⟩)
  | fuel + 1, i =>
    match mkdirPath fs (dir ++ "/" ++ pre ++ String.mk (names i).chars) with
    | .error (.os e) => if e.errno = 17 then mkdtempLoop fs dir pre names fuel (i + 1) else .error (.os e)
    | r => r

/-- **`tempfile.mkdtemp(prefix=pre, dir=dir)`**, drawing the names `names 0, names 1, …`. -/
def mkdtemp (fs : Fs) (dir pre : String) (names : Nat → TempName) : Except MkdirError (Fs × Path) :=
  mkdtempLoop fs dir pre names TMP_MAX 0

/-! ### Filesystems that are trees, and what `mkdtemp` creates in them -/

/-- **A filesystem that is a tree**: the parent of every entry is a directory (the root always
is). -/
def Fs.WellFormed (fs : Fs) : Prop := ∀ p c, (fs (p ++ [c])).isSome → p = [] ∨ fs p = some .dir

/-- In a tree, nothing stands below a path where nothing stands. -/
theorem Fs.WellFormed.none_below {fs : Fs} (h : fs.WellFormed) {ws : Path} (hne : ws ≠ [])
    (hws : fs ws = none) (r : Path) : fs (ws ++ r) = none := by
  induction r using List.reverseRecOn with
  | nil => simpa using hws
  | append_singleton r c ih =>
    rw [← List.append_assoc]
    cases hc : fs (ws ++ r ++ [c]) with
    | none => rfl
    | some e =>
      rcases h (ws ++ r) c (by rw [hc]; rfl) with h0 | hd
      · exact absurd (List.append_eq_nil.mp h0).1 hne
      · rw [ih] at hd; cases hd

/-- A filesystem given by entries is a tree when the parent of each entry is the root or an entry
that is a directory, which `decide` checks. -/
theorem fsOf_wellFormed {entries : List (Path × Entry)}
    (h : ∀ x ∈ entries, x.1.dropLast = [] ∨ entries.lookup x.1.dropLast = some .dir) :
    (fsOf entries).WellFormed := by
  intro p c hp
  obtain ⟨x, hx, hk⟩ := List.lookup_isSome_iff.mp hp
  rw [beq_iff_eq] at hk
  simpa [← hk] using h x hx

/-- `os.mkdir` creates a new, empty directory where nothing stood, below the root. -/
theorem mkdirPath_fresh {fs fs' : Fs} {s : String} {p : Path} (h : mkdirPath fs s = .ok (fs', p)) :
    p ≠ [] ∧ fs p = none ∧ fs' = newDir fs p := by
  unfold mkdirPath at h
  split at h
  · cases h
  split at h
  · cases h
  dsimp only at h
  split at h
  · cases h
  split at h
  · cases h
  split at h
  · cases h
  split at h
  · cases h
  rename_i hex
  cases h
  exact ⟨by simp, by simpa [Fs.exists?] using hex, rfl⟩

theorem mkdtempLoop_eq_ok {fs fs' : Fs} {dir pre : String} {names : Nat → TempName} {ws : Path} :
    ∀ fuel i, mkdtempLoop fs dir pre names fuel i = .ok (fs', ws) →
      ∃ k, mkdirPath fs (dir ++ "/" ++ pre ++ String.mk (names k).chars) = .ok (fs', ws)
  | 0, _, h => by cases h
  | fuel + 1, i, h => by
    unfold mkdtempLoop at h
    split at h
    · split at h
      · exact mkdtempLoop_eq_ok fuel (i + 1) h
      · cases h
    · exact ⟨i, h⟩

/-- **`mkdtemp` creates a fresh directory**, whatever the prefix: a new, empty directory where
nothing stood. -/
theorem mkdtemp_fresh {fs fs' : Fs} {dir pre : String} {names : Nat → TempName} {ws : Path}
    (h : mkdtemp fs dir pre names = .ok (fs', ws)) :
    ws ≠ [] ∧ fs ws = none ∧ fs' = newDir fs ws := by
  obtain ⟨k, hk⟩ := mkdtempLoop_eq_ok _ _ h
  exact mkdirPath_fresh hk

end EnclaveProver.Python.Files
