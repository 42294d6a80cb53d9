import Scheduler0.HttpServer.Middleware

/-!
# Starting a node: recover or bootstrap

`http_server.Start` gets the working directory, opens the database and pings
it, and stops the process with `logger.Fatal` when one of them fails. It then
makes the Raft directory, and the node's directory `raftDir/nodeId` under it,
with `MakeDirIfNotExist`, which stops the process when its own `os.Getwd`
fails. Start recovers the peer when the node's directory was already there,
and bootstraps the cluster when the configuration asks for it and the
directory was not. `MakeDirIfNotExist` reads "already there" off
`afero.DirExists`, which also answers `false` when `Stat` fails, and only logs
a failed `Mkdir`. Paths are strings that the kernel walks component by
component: `raftDir/nodeId` is the Raft directory itself when `nodeId` is
empty or `.`, and cannot be made when `nodeId` holds a slash to a directory
not there. The file system and the OS's answers are the environment of each
start. Once made, the node's directory stays: a later start that gets past
the database recovers unless `Stat` fails on it, so in a run without
file-system faults the cluster is bootstrapped at most once.
-/

namespace Scheduler0.HttpServer

open Middlewares

inductive Entry where
  | dir
  | file
deriving DecidableEq, Repr

/-- The OS file system, without links: what each absolute path, as its
components, holds. The root is a directory, and the parent of whatever is
there is a directory. -/
structure Fs where
  entry : List String → Option Entry
  root : entry [] = some .dir
  parent : ∀ p, entry p ≠ none → entry p.dropLast = some .dir

namespace Fs

def empty : Fs where
  entry p := if p = [] then some .dir else none
  root := rfl
  parent p h := by
    by_cases hp : p = [] <;> simp_all

def insertDir (fs : Fs) (p : List String) (hp : fs.entry p.dropLast = some .dir) : Fs where
  entry := Function.update fs.entry p (some .dir)
  root := by
    rw [Function.update_apply]
    split_ifs
    · rfl
    · exact fs.root
  parent q hq := by
    simp only [Function.update_apply] at hq ⊢
    by_cases hqp : q = p
    · subst hqp
      split_ifs
      · rfl
      · exact hp
    · rw [if_neg hqp] at hq
      split_ifs
      · rfl
      · exact fs.parent q hq

def Grows (fs fs' : Fs) : Prop :=
  ∀ q, fs'.entry q = fs.entry q ∨ (fs.entry q = none ∧ fs'.entry q = some .dir)

theorem Grows.refl (fs : Fs) : Grows fs fs := fun _ => .inl rfl

theorem Grows.trans {fs₁ fs₂ fs₃ : Fs} (h₁ : Grows fs₁ fs₂) (h₂ : Grows fs₂ fs₃) : Grows fs₁ fs₃ :=
  fun q => by
    rcases h₁ q with h | ⟨h, h'⟩ <;> rcases h₂ q with h₂ | ⟨h₂, h₂'⟩ <;> simp_all

theorem Grows.dir {fs fs' : Fs} (h : Grows fs fs') {q : List String} (hq : fs.entry q = some .dir) :
    fs'.entry q = some .dir := by
  rcases h q with h | ⟨h, -⟩ <;> simp_all

theorem Grows.ne_file {fs fs' : Fs} (h : Grows fs fs') {q : List String}
    (hq : fs.entry q ≠ some .file) : fs'.entry q ≠ some .file := by
  rcases h q with h | ⟨-, h⟩ <;> simp_all

theorem grows_insertDir (fs : Fs) {p : List String} (hp : fs.entry p.dropLast = some .dir)
    (hnone : fs.entry p = none) : Grows fs (fs.insertDir p hp) := fun q => by
  by_cases hq : q = p
  · subst hq
    exact .inr ⟨hnone, by simp [insertDir]⟩
  · exact .inl (by simp [insertDir, Function.update_apply, hq])

end Fs

/-! ## Paths -/

def stepInto (cur : List String) (c : String) : List String :=
  if c = "" ∨ c = "." then cur else if c = ".." then cur.dropLast else cur ++ [c]

/-- The kernel's walk of a path's components from `cur`: each component is
looked up in a directory, or the walk fails with `ENOTDIR` or `ENOENT`. -/
def walk (fs : Fs) : List String → List String → Except String (List String)
  | cur, [] => .ok cur
  | cur, c :: cs =>
    match fs.entry cur with
    | some .dir => walk fs (stepInto cur c) cs
    | some .file => .error "not a directory"
    | none => .error "no such file or directory"

def IsName (c : String) : Prop := c ≠ "" ∧ c ≠ "." ∧ c ≠ ".." ∧ '/' ∉ c.data

theorem splitPath_append_slash (xs ys : List Char) :
    splitPath (xs ++ '/' :: ys) = splitPath xs ++ splitPath ys := by
  induction xs with
  | nil => simp [splitPath]
  | cons x xs ih =>
    by_cases hx : x = '/'
    · simp [splitPath, hx, ih]
    · obtain ⟨s, ss, hs⟩ := List.exists_cons_of_ne_nil (splitPath_ne_nil xs)
      simp [splitPath, hx, ih, hs]

theorem splitPath_of_not_mem {cs : List Char} (h : '/' ∉ cs) : splitPath cs = [⟨cs⟩] := by
  induction cs with
  | nil => rfl
  | cons c cs ih =>
    rw [List.mem_cons, not_or] at h
    simp [splitPath, Ne.symm h.1, ih h.2]

theorem splitPath_slash (dir : String) {m : String} (h : '/' ∉ m.data) :
    splitPath (dir ++ "/" ++ m).data = splitPath dir.data ++ [m] := by
  have hdata : (dir ++ "/" ++ m).data = dir.data ++ '/' :: m.data := by simp [String.data_append]
  rw [hdata, splitPath_append_slash]
  exact congrArg _ (splitPath_of_not_mem h)

theorem splitPath_slash_name (dir : String) {n : String} (h : IsName n) :
    splitPath (dir ++ "/" ++ n).data = splitPath dir.data ++ [n] :=
  splitPath_slash dir h.2.2.2

theorem splitPath_slash_slash (dir n : String) {m : String} (h : '/' ∉ m.data) :
    splitPath (dir ++ "/" ++ (n ++ "/" ++ m)).data = splitPath (dir ++ "/" ++ n).data ++ [m] := by
  rw [← splitPath_slash _ h]
  simp only [String.append_assoc]

section Walk

variable {fs : Fs}

theorem walk_append_of_ok {cur p : List String} {xs : List String} (ys : List String)
    (h : walk fs cur xs = .ok p) : walk fs cur (xs ++ ys) = walk fs p ys := by
  induction xs generalizing cur with
  | nil => cases h; rfl
  | cons x xs ih =>
    simp only [walk, List.cons_append] at h ⊢
    split at h <;> first | exact ih h | cases h

theorem walk_name {cur : List String} {n : String} (hn : IsName n) (hcur : fs.entry cur = some .dir) :
    walk fs cur [n] = .ok (cur ++ [n]) := by
  obtain ⟨h0, h1, h2, -⟩ := hn
  simp [walk, hcur, stepInto, h0, h1, h2]

theorem walk_concat_name {xs cur : List String} {n : String} (hn : IsName n)
    (hxs : walk fs [] xs = .ok cur) (hcur : fs.entry cur = some .dir) :
    walk fs [] (xs ++ [n]) = .ok (cur ++ [n]) := by
  rw [walk_append_of_ok _ hxs, walk_name hn hcur]

theorem walk_mono {fs' : Fs} (hg : fs.Grows fs') {cur p : List String} :
    ∀ {cs : List String}, walk fs cur cs = .ok p → walk fs' cur cs = .ok p := by
  intro cs h
  induction cs generalizing cur with
  | nil => exact h
  | cons c cs ih =>
    simp only [walk] at h ⊢
    split at h
    · rename_i hdir
      rw [hg.dir hdir]
      exact ih h
    · cases h
    · cases h

end Walk

/-! ## One call of `MakeDirIfNotExist` -/

/-- `afero.DirExists`: `os.Stat` of the path, `true` on a directory and `false`
on a file or on nothing, and `false` with the error when `Stat` fails
otherwise, on the walk or with the OS's fault `stat`. -/
def dirExists (fs : Fs) (stat : Option String) (path : String) : Bool × Option String :=
  match stat with
  | some e => (false, some e)
  | none =>
    match walk fs [] (splitPath path.data) with
    | .ok p => (decide (fs.entry p = some .dir), none)
    | .error e => (false, if e = "no such file or directory" then none else some e)

theorem dirExists_grows {fs fs' : Fs} (hg : fs.Grows fs') {path : String}
    (h : (dirExists fs none path).1 = true) : (dirExists fs' none path).1 = true := by
  simp only [dirExists] at h ⊢
  split at h
  · rename_i p hp
    rw [walk_mono hg hp]
    simpa using hg.dir (of_decide_eq_true h)
  · cases h

theorem dirExists_of_walk {fs : Fs} {path : String} {p : List String}
    (h : walk fs [] (splitPath path.data) = .ok p) :
    (dirExists fs none path).1 = decide (fs.entry p = some .dir) := by
  simp only [dirExists, h]

/-- `fs.Mkdir(path, os.ModePerm)`: the kernel walks the path without its
trailing slashes and makes a directory where the walk ends, when nothing is
there, its parent is a directory and the OS does not fail it. `none` is a
failure, whose error `MakeDirIfNotExist` only logs. -/
def mkdir (fs : Fs) (fault : Option String) (path : String) : Option Fs :=
  match walk fs [] ((splitPath path.data).rdropWhile fun c => c = "") with
  | .ok p =>
    if h : fs.entry p = none ∧ fs.entry p.dropLast = some .dir ∧ fault = none then
      some (fs.insertDir p h.2.1)
    else none
  | .error _ => none

structure Faults where
  getwd : Option String
  stat : Option String
  mkdir : Option String
deriving DecidableEq, Repr

def noFaults : Faults := ⟨none, none, none⟩

/-- `os.Getwd` in a process started in `cwd`. -/
def getwd (cwd : String) (fault : Option String) : Except String String :=
  match fault with
  | some e => .error e
  | none => .ok cwd

def getwdFatal (e : String) : String := "Fatal error getting working dir: " ++ e ++ " \n"

/-- `MakeDirIfNotExist` from the directory `os.Getwd` gave: the directory's
path, whether it was there, and the file system after. -/
def makeDirAt (fs : Fs) (faults : Faults) (dirPath : String) : (String × Bool) × Fs :=
  match dirExists fs faults.stat dirPath with
  | (found, some _) => ((dirPath, found), fs)
  | (found, none) =>
    if !found then
      match mkdir fs faults.mkdir dirPath with
      | none => ((dirPath, found), fs)
      | some fs' => ((dirPath, found), fs')
    else ((dirPath, found), fs)

/-- `utils.MakeDirIfNotExist` in a process started in `cwd`; an error is the
message of the `logger.Fatalln` that stops the process when `os.Getwd` fails. -/
def makeDirIfNotExist (fs : Fs) (cwd : String) (faults : Faults) (path : String) :
    Except String ((String × Bool) × Fs) :=
  match getwd cwd faults.getwd with
  | .error e => .error (getwdFatal e)
  | .ok dir => .ok (makeDirAt fs faults (dir ++ "/" ++ path))

section MakeDir

variable (fs : Fs) (faults : Faults) (dirPath : String)

theorem makeDirAt_found : (makeDirAt fs faults dirPath).1.2 = (dirExists fs faults.stat dirPath).1 := by
  unfold makeDirAt
  split
  · simp_all
  · rename_i found hd
    rw [hd]
    split_ifs <;> (try split) <;> rfl

theorem mkdir_grows {fault : Option String} {fs' : Fs} (h : mkdir fs fault dirPath = some fs') :
    fs.Grows fs' := by
  unfold mkdir at h
  split at h
  · split_ifs at h with hc
    cases h
    exact fs.grows_insertDir hc.2.1 hc.1
  · cases h

theorem makeDirAt_grows : fs.Grows (makeDirAt fs faults dirPath).2 := by
  unfold makeDirAt
  split
  · exact .refl fs
  · split_ifs
    · split
      · exact .refl fs
      · exact mkdir_grows fs dirPath ‹_›
    · exact .refl fs

theorem makeDirAt_entry {q : List String}
    (hq : walk fs [] ((splitPath dirPath.data).rdropWhile fun c => c = "") ≠ .ok q) :
    (makeDirAt fs faults dirPath).2.entry q = fs.entry q := by
  unfold makeDirAt
  split
  · rfl
  · split_ifs
    · split
      · rfl
      · rename_i fs' hm
        unfold mkdir at hm
        split at hm
        · rename_i p hp
          split_ifs at hm
          cases hm
          have : q ≠ p := fun h => hq (h ▸ hp)
          simp [Fs.insertDir, Function.update_apply, this]
        · cases hm
    · rfl

theorem makeDirAt_name_entry {n : String} {xs cur : List String} (hn : IsName n)
    (hsplit : splitPath dirPath.data = xs ++ [n]) (hxs : walk fs [] xs = .ok cur)
    (q : List String) (hq : q ≠ cur ++ [n]) :
    (makeDirAt fs faults dirPath).2.entry q = fs.entry q := by
  apply makeDirAt_entry
  rw [hsplit, List.rdropWhile_concat_neg _ _ _ (by simpa using hn.1), walk_append_of_ok _ hxs]
  simp only [walk]
  split <;> simp [stepInto, hn.1, hn.2.1, hn.2.2.1, Ne.symm hq]

theorem makeDirAt_name {n : String} {xs cur : List String} (hn : IsName n)
    (hsplit : splitPath dirPath.data = xs ++ [n]) (hxs : walk fs [] xs = .ok cur)
    (hcur : fs.entry cur = some .dir) (hfile : fs.entry (cur ++ [n]) ≠ some .file)
    (hs : faults.stat = none) (hm : faults.mkdir = none) :
    (makeDirAt fs faults dirPath).2.entry (cur ++ [n]) = some .dir := by
  have hwalk : walk fs [] (splitPath dirPath.data) = .ok (cur ++ [n]) := by
    rw [hsplit, walk_concat_name hn hxs hcur]
  have hdrop : ((splitPath dirPath.data).rdropWhile fun c => c = "") = splitPath dirPath.data := by
    rw [hsplit, List.rdropWhile_concat_neg _ _ _ (by simpa using hn.1)]
  cases he : fs.entry (cur ++ [n]) with
  | some e =>
    cases e
    · exact (makeDirAt_grows fs faults _).dir he
    · exact absurd he hfile
  | none =>
    have hparent : fs.entry (cur ++ [n]).dropLast = some .dir := by simpa using hcur
    have hex : dirExists fs faults.stat dirPath = (false, none) := by
      unfold dirExists
      rw [hs, hwalk]
      simp [he]
    have hmk : mkdir fs faults.mkdir dirPath = some (fs.insertDir (cur ++ [n]) hparent) := by
      unfold mkdir
      rw [hdrop, hwalk]
      simp [he, hcur, hm]
    unfold makeDirAt
    rw [hex]
    simp only [Bool.not_false, if_true]
    rw [hmk]
    simp [Fs.insertDir]

end MakeDir

/-! ## One start -/

inductive Boot where
  | fatal (message : String)
  | started (recovered bootstrapped : Bool)
deriving DecidableEq, Repr

def Boot.isStarted : Boot → Bool
  | .fatal _ => false
  | .started _ _ => true

/-- The environment of one start: the directory the process is started in,
the configuration's `Bootstrap`, the faults of `Start`'s own `os.Getwd`, of
opening and of pinging the database, and those of the two
`MakeDirIfNotExist` calls. -/
structure StartEnv where
  cwd : String
  bootstrap : String
  getwd : Option String
  openConnection : Option String
  ping : Option String
  raftDirFaults : Faults
  nodeDirFaults : Faults

/-- `http_server.Start` up to its Raft-state decision, for the node `nodeId`
under the Raft directory `raftDir`. -/
def start (raftDir nodeId : String) (env : StartEnv) (fs : Fs) : Boot × Fs :=
  match getwd env.cwd env.getwd with
  | .error e => (.fatal (getwdFatal e), fs)
  | .ok _ =>
    match env.openConnection with
    | some e => (.fatal ("Failed to open connection" ++ e), fs)
    | none =>
      match env.ping with
      | some e => (.fatal ("ping error: restore failed to create db: " ++ e), fs)
      | none =>
        match makeDirIfNotExist fs env.cwd env.raftDirFaults raftDir with
        | .error m => (.fatal m, fs)
        | .ok (_, fs₁) =>
          match makeDirIfNotExist fs₁ env.cwd env.nodeDirFaults (raftDir ++ "/" ++ nodeId) with
          | .error m => (.fatal m, fs₁)
          | .ok ((_, found), fs₂) => (.started found (env.bootstrap = "true" && !found), fs₂)

/-- The boots of a run of restarts on one file system. -/
def startRun (raftDir nodeId : String) : Fs → List StartEnv → List Boot
  | _, [] => []
  | fs, env :: envs =>
    (start raftDir nodeId env fs).1 :: startRun raftDir nodeId (start raftDir nodeId env fs).2 envs

/-- The message a start stops with when the OS fails one of its three
`os.Getwd` calls, or the database does not open or answer a ping, in
`Start`'s order. -/
def StartEnv.fatalExit (env : StartEnv) : Option String :=
  match env.getwd, env.openConnection, env.ping, env.raftDirFaults.getwd, env.nodeDirFaults.getwd with
  | some e, _, _, _, _ => some (getwdFatal e)
  | none, some e, _, _, _ => some ("Failed to open connection" ++ e)
  | none, none, some e, _, _ => some ("ping error: restore failed to create db: " ++ e)
  | none, none, none, some e, _ => some (getwdFatal e)
  | none, none, none, none, some e => some (getwdFatal e)
  | none, none, none, none, none => none

section Start

variable {raftDir nodeId : String} {env : StartEnv} {fs : Fs}

theorem start_of_fatalExit {m : String} (h : env.fatalExit = some m) :
    (start raftDir nodeId env fs).1 = .fatal m ∧
      ((start raftDir nodeId env fs).2 = fs ∨
        (start raftDir nodeId env fs).2 =
          (makeDirAt fs env.raftDirFaults (env.cwd ++ "/" ++ raftDir)).2) := by
  unfold StartEnv.fatalExit at h
  unfold start
  cases h1 : env.getwd <;> cases h2 : env.openConnection <;> cases h3 : env.ping <;>
    cases h4 : env.raftDirFaults.getwd <;> cases h5 : env.nodeDirFaults.getwd <;>
    simp_all [getwd, makeDirIfNotExist]

theorem start_of_fatalExit_none (h : env.fatalExit = none) :
    start raftDir nodeId env fs =
      let made := makeDirAt (makeDirAt fs env.raftDirFaults (env.cwd ++ "/" ++ raftDir)).2
        env.nodeDirFaults (env.cwd ++ "/" ++ (raftDir ++ "/" ++ nodeId))
      (.started made.1.2 (env.bootstrap = "true" && !made.1.2), made.2) := by
  unfold StartEnv.fatalExit at h
  unfold start
  cases h1 : env.getwd <;> cases h2 : env.openConnection <;> cases h3 : env.ping <;>
    cases h4 : env.raftDirFaults.getwd <;> cases h5 : env.nodeDirFaults.getwd <;>
    simp_all [getwd, makeDirIfNotExist]

theorem start_grows : fs.Grows (start raftDir nodeId env fs).2 := by
  cases h : env.fatalExit with
  | some m =>
    rcases (start_of_fatalExit h).2 with h' | h' <;> rw [h']
    · exact .refl fs
    · exact makeDirAt_grows _ _ _
  | none =>
    rw [start_of_fatalExit_none h]
    exact (makeDirAt_grows _ _ _).trans (makeDirAt_grows _ _ _)

theorem start_of_dirExists
    (hdir : (dirExists fs none (env.cwd ++ "/" ++ (raftDir ++ "/" ++ nodeId))).1 = true) :
    (start raftDir nodeId env fs).1 =
      match env.fatalExit with
      | some m => .fatal m
      | none =>
        if env.nodeDirFaults.stat = none then .started true false
        else .started false (env.bootstrap = "true") := by
  cases h : env.fatalExit with
  | some m => exact (start_of_fatalExit h).1
  | none =>
    have hfound : (makeDirAt (makeDirAt fs env.raftDirFaults (env.cwd ++ "/" ++ raftDir)).2
        env.nodeDirFaults (env.cwd ++ "/" ++ (raftDir ++ "/" ++ nodeId))).1.2 =
          decide (env.nodeDirFaults.stat = none) := by
      rw [makeDirAt_found]
      cases hs : env.nodeDirFaults.stat
      · simpa using dirExists_grows (makeDirAt_grows _ _ _) hdir
      · rfl
    rw [start_of_fatalExit_none h]
    simp only [hfound]
    cases env.nodeDirFaults.stat <;> simp

end Start

/-! ## Runs of restarts -/

/-- Once `Stat` finds the node's directory, each start of a run under the same
working directory stops on a failed `os.Getwd`, database open or ping, and
otherwise recovers, except one whose `Stat` of the directory fails, which
bootstraps exactly when its configuration says so. -/
theorem startRun_of_dir {raftDir nodeId cwd : String} :
    ∀ {fs : Fs} {envs : List StartEnv},
      (dirExists fs none (cwd ++ "/" ++ (raftDir ++ "/" ++ nodeId))).1 = true →
      (∀ env ∈ envs, env.cwd = cwd) →
      startRun raftDir nodeId fs envs =
        envs.map fun env =>
          match env.fatalExit with
          | some m => .fatal m
          | none =>
            if env.nodeDirFaults.stat = none then .started true false
            else .started false (env.bootstrap = "true")
  | _, [], _, _ => rfl
  | fs, env :: envs, hdir, hcwd => by
    have hc := hcwd env (List.mem_cons_self _ _)
    subst hc
    rw [startRun, List.map_cons, start_of_dirExists hdir,
      startRun_of_dir (dirExists_grows start_grows hdir) fun e he => hcwd e (List.mem_cons_of_mem _ he)]

theorem startRun_of_dir_stat_fault :
    let fs : Fs :=
      ((Fs.empty.insertDir ["w"] rfl).insertDir ["w", "raft"] rfl).insertDir ["w", "raft", "1"] rfl
    let envs : List StartEnv :=
      [⟨"/w", "true", none, none, none, noFaults, noFaults⟩,
        ⟨"/w", "true", none, none, none, noFaults, ⟨none, some "EIO", none⟩⟩,
        ⟨"/w", "true", none, none, some "database is locked", noFaults, noFaults⟩]
    startRun "raft" "1" fs envs =
      [.started true false, .started false true,
        .fatal "ping error: restore failed to create db: database is locked"] := by
  intro fs envs
  exact (@startRun_of_dir "raft" "1" "/w" fs envs (by decide) (by simp [envs])).trans rfl

theorem startRun_recovers {raftDir nodeId cwd : String} :
    ∀ {fs : Fs} {envs : List StartEnv},
      (dirExists fs none (cwd ++ "/" ++ (raftDir ++ "/" ++ nodeId))).1 = true →
      (∀ env ∈ envs, env.cwd = cwd ∧ env.nodeDirFaults.stat = none) →
      ∀ b ∈ (startRun raftDir nodeId fs envs).filter Boot.isStarted, b = .started true false
  | _, [], _, _ => by simp [startRun]
  | fs, env :: envs, hdir, henv => by
    obtain ⟨hc, hs⟩ := henv env (List.mem_cons_self _ _)
    subst hc
    have ih := startRun_recovers (dirExists_grows (@start_grows raftDir nodeId env fs) hdir)
      fun e he => henv e (List.mem_cons_of_mem _ he)
    rw [startRun, List.filter_cons, @start_of_dirExists raftDir nodeId env fs hdir]
    cases env.fatalExit <;> simpa [hs, Boot.isStarted] using ih

section Fresh

variable {raftDir nodeId cwd : String} {cwdPath : List String} {env : StartEnv} {fs : Fs}

theorem start_entry_of_fatalExit {m : String} (hf : env.fatalExit = some m) (hc : env.cwd = cwd)
    (hraftName : IsName raftDir) (hcwd : walk fs [] (splitPath cwd.data) = .ok cwdPath)
    {q : List String} (hq : q ≠ cwdPath ++ [raftDir]) :
    (start raftDir nodeId env fs).2.entry q = fs.entry q := by
  subst hc
  rcases (start_of_fatalExit hf).2 with h | h <;> rw [h]
  exact makeDirAt_name_entry _ _ _ hraftName (splitPath_slash_name _ hraftName) hcwd q hq

theorem start_fresh (hf : env.fatalExit = none) (hc : env.cwd = cwd)
    (hraftName : IsName raftDir) (hnodeName : IsName nodeId)
    (hcwd : walk fs [] (splitPath cwd.data) = .ok cwdPath) (hdir : fs.entry cwdPath = some .dir)
    (hraft : fs.entry (cwdPath ++ [raftDir]) ≠ some .file)
    (hnode : fs.entry (cwdPath ++ [raftDir, nodeId]) ≠ some .file)
    (hfaults : env.raftDirFaults.stat = none ∧ env.raftDirFaults.mkdir = none ∧
      env.nodeDirFaults.stat = none ∧ env.nodeDirFaults.mkdir = none) :
    (start raftDir nodeId env fs).1 =
        .started (decide (fs.entry (cwdPath ++ [raftDir, nodeId]) = some .dir))
          (env.bootstrap = "true" && !decide (fs.entry (cwdPath ++ [raftDir, nodeId]) = some .dir)) ∧
      (dirExists (start raftDir nodeId env fs).2 none (cwd ++ "/" ++ (raftDir ++ "/" ++ nodeId))).1 =
        true := by
  obtain ⟨hrs, hrm, hns, hnm⟩ := hfaults
  subst hc
  have hg₁ := makeDirAt_grows fs env.raftDirFaults (env.cwd ++ "/" ++ raftDir)
  have hsplit₁ := splitPath_slash_name env.cwd hraftName
  have hraft₁ := makeDirAt_name fs env.raftDirFaults _ hraftName hsplit₁ hcwd hdir hraft hrs hrm
  have hwalk₁ : walk (makeDirAt fs env.raftDirFaults (env.cwd ++ "/" ++ raftDir)).2 []
      (splitPath (env.cwd ++ "/" ++ raftDir).data) = .ok (cwdPath ++ [raftDir]) := by
    rw [hsplit₁, walk_concat_name hraftName (walk_mono hg₁ hcwd) (hg₁.dir hdir)]
  have hnode₁ := makeDirAt_name_entry fs env.raftDirFaults _ hraftName hsplit₁ hcwd
    (cwdPath ++ [raftDir, nodeId]) (by simp)
  have hsplit₂ := splitPath_slash_slash env.cwd raftDir hnodeName.2.2.2
  have hwalk₂ : walk (makeDirAt fs env.raftDirFaults (env.cwd ++ "/" ++ raftDir)).2 []
      (splitPath (env.cwd ++ "/" ++ (raftDir ++ "/" ++ nodeId)).data) =
        .ok (cwdPath ++ [raftDir, nodeId]) := by
    rw [hsplit₂, walk_concat_name hnodeName hwalk₁ hraft₁, List.append_assoc]
    rfl
  have hmade := makeDirAt_name _ env.nodeDirFaults _ hnodeName hsplit₂ hwalk₁ hraft₁
    (by rw [List.append_assoc]; exact hnode₁ ▸ hnode) hns hnm
  rw [start_of_fatalExit_none hf]
  dsimp only
  rw [makeDirAt_found, hns, dirExists_of_walk hwalk₂, hnode₁,
    dirExists_of_walk (walk_mono (makeDirAt_grows _ _ _) hwalk₂)]
  rw [List.append_assoc] at hmade
  exact ⟨rfl, decide_eq_true hmade⟩

/-- With a node id that names no directory of its own, `raftDir/nodeId` is
the Raft directory, which the start has just made: it recovers. -/
theorem start_of_shared_dir (hf : env.fatalExit = none) (hc : env.cwd = cwd)
    (hraftName : IsName raftDir) (hnode : nodeId = "" ∨ nodeId = ".")
    (hcwd : walk fs [] (splitPath cwd.data) = .ok cwdPath) (hdir : fs.entry cwdPath = some .dir)
    (hraft : fs.entry (cwdPath ++ [raftDir]) ≠ some .file)
    (hfaults : env.raftDirFaults.stat = none ∧ env.raftDirFaults.mkdir = none ∧
      env.nodeDirFaults.stat = none) :
    (start raftDir nodeId env fs).1 = .started true false := by
  obtain ⟨hrs, hrm, hns⟩ := hfaults
  subst hc
  have hg₁ := makeDirAt_grows fs env.raftDirFaults (env.cwd ++ "/" ++ raftDir)
  have hsplit₁ := splitPath_slash_name env.cwd hraftName
  have hraft₁ := makeDirAt_name fs env.raftDirFaults _ hraftName hsplit₁ hcwd hdir hraft hrs hrm
  have hwalk : walk (makeDirAt fs env.raftDirFaults (env.cwd ++ "/" ++ raftDir)).2 []
      (splitPath (env.cwd ++ "/" ++ (raftDir ++ "/" ++ nodeId)).data) = .ok (cwdPath ++ [raftDir]) := by
    rw [splitPath_slash_slash _ _ (by rcases hnode with rfl | rfl <;> decide), hsplit₁,
      walk_append_of_ok _ (walk_concat_name hraftName (walk_mono hg₁ hcwd) (hg₁.dir hdir))]
    rcases hnode with rfl | rfl <;> simp [walk, hraft₁, stepInto]
  rw [start_of_fatalExit_none hf]
  dsimp only
  rw [makeDirAt_found, hns, dirExists_of_walk hwalk, decide_eq_true hraft₁]
  simp

end Fresh

/-- A node whose configured id is empty or `.` keeps its Raft state in the
Raft directory itself: in a run without `Stat` or `Mkdir` faults on it, every
start that gets past the database recovers, and none ever bootstraps the
cluster. -/
theorem startRun_never_bootstraps_shared_dir {raftDir nodeId cwd : String} {cwdPath : List String}
    (hraftName : IsName raftDir) (hnode : nodeId = "" ∨ nodeId = ".") :
    ∀ {fs : Fs} {envs : List StartEnv},
      walk fs [] (splitPath cwd.data) = .ok cwdPath → fs.entry cwdPath = some .dir →
      fs.entry (cwdPath ++ [raftDir]) ≠ some .file →
      (∀ env ∈ envs, env.cwd = cwd ∧ env.raftDirFaults.stat = none ∧
        env.raftDirFaults.mkdir = none ∧ env.nodeDirFaults.stat = none) →
      ∀ b ∈ startRun raftDir nodeId fs envs, (∃ m, b = .fatal m) ∨ b = .started true false
  | _, [], _, _, _, _ => by simp [startRun]
  | fs, env :: envs, hcwd, hdir, hraft, henv => by
    obtain ⟨hc, hfaults⟩ := henv env (List.mem_cons_self _ _)
    have hg := @start_grows raftDir nodeId env fs
    have ih := startRun_never_bootstraps_shared_dir hraftName hnode (walk_mono hg hcwd)
      (hg.dir hdir) (hg.ne_file hraft) fun e he => henv e (List.mem_cons_of_mem _ he)
    rw [startRun, List.forall_mem_cons]
    refine ⟨?_, ih⟩
    cases hf : env.fatalExit with
    | some m => exact .inl ⟨m, (start_of_fatalExit hf).1⟩
    | none => exact .inr (start_of_shared_dir hf hc hraftName hnode hcwd hdir hraft hfaults)

theorem startRun_never_bootstraps_shared_dir_fresh :
    let fs : Fs := Fs.empty.insertDir ["w"] rfl
    let env : StartEnv := ⟨"/w", "true", none, none, none, noFaults, noFaults⟩
    ∀ b ∈ startRun "raft" "" fs [env, env], (∃ m, b = .fatal m) ∨ b = .started true false := by
  intro fs env
  exact @startRun_never_bootstraps_shared_dir "raft" "" "/w" ["w"]
    ⟨by decide, by decide, by decide, by decide⟩ (.inl rfl) fs [env, env] rfl rfl (by decide)
    (by simp [env, noFaults])

end Scheduler0.HttpServer
