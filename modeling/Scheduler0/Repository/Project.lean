import Scheduler0.Fsm.Store

/-!
# The project repository

`pkg/repository/project/project.go`: reads go straight to the store, writes
through `WriteCommandToRaftLog`. Three details of the code decide what these
functions do.

* `CreateOne` builds `projectWithName` for its duplicate check but hands
  `project` to `GetOneByName`, which scans a same-named row into the caller's
  struct; the check then reads an id that is always zero.
* `CreateOne` and `UpdateOneByID` format a write error through `.Error()`, the
  panicking stub of `GenericError`; `DeleteOneByID` returns it as it is.
* `DeleteOneByID` looks up the project's jobs, then commits its delete:
  `deleteCheck` and `deleteWrite` are those two steps.
-/

namespace Scheduler0.ProjectRepo

open Utils Fsm

/-- The `for rows.Next() { rows.Scan(&project.ID, ...) }` loop: each row
overwrites all four fields of the struct. -/
def scanRows (project : Project) (rows : List Project) : Project :=
  rows.foldl (fun _ row => row) project

/-- `GetOneByName` and `GetOneByID`: the rows whose `key` column equals the
caller's, scanned into the caller's struct; a 404 with `notFound` when none. -/
def getOneWhere {α : Type} [DecidableEq α] (key : Project → α) (notFound : Project → String)
    (t : ProjectsTable) (project : Project) : Project × Option GenericError :=
  let rows := t.rows.filter fun r => key r = key project
  let project := scanRows project rows
  if rows.length = 0 then (project, some (httpGenericError 404 (notFound project)))
  else (project, none)

/-- `projectRepo.GetOneByName`. -/
def getOneByName (t : ProjectsTable) (project : Project) : Project × Option GenericError :=
  getOneWhere Project.name (fun p => "project with name : " ++ p.name ++ " does not exist") t project

/-- `projectRepo.GetOneByID`. -/
def getOneByID (t : ProjectsTable) (project : Project) : Project × Option GenericError :=
  getOneWhere Project.id (fun _ => "project does not exist") t project

def duplicateNameMessage (id : ℕ) : String :=
  "another project exist with the same name, project with id " ++ toString id ++
    " has the same name"

/-- `projectRepo.CreateOne` with the scheduler clock at `now`: the result, the
caller's struct afterwards, and the store. -/
def createOne (v : RaftVerdict) (now : ℕ) (project : Project) (s : Store) :
    Outcome GenericError ℕ × Project × Store :=
  if project.name.length < 1 then
    (.error (httpGenericError 400 "name field is required"), project, s)
  else if project.description.length < 1 then
    (.error (httpGenericError 400 "description field is required"), project, s)
  else
    let projectWithName : Project := ⟨0, project.name, "", 0⟩
    let project := (getOneByName s.projects project).1
    if projectWithName.id > 0 then
      (.error (httpGenericError 400 (duplicateNameMessage projectWithName.id)), project, s)
    else
      let ((res, applyErr), s) :=
        writeCommandToRaftLog v (.insertProject project.name project.description now) s
      match applyErr, res with
      | some _, _ => (.panic errorStubPanic, project, s)
      | none, none => (.error (httpGenericError 503 "service is unavailable"), project, s)
      | none, some r =>
        match getOneByID s.projects { project with id := r.lastInsertedId } with
        | (project, some _) => (.panic errorStubPanic, project, s)
        | (project, none) => (.ok r.lastInsertedId, project, s)

/-- `projectRepo.UpdateOneByID`: the description of the row with the caller's
id; the result is the number of rows affected. -/
def updateOneByID (v : RaftVerdict) (project : Project) (s : Store) :
    Outcome GenericError ℕ × Store :=
  let ((res, applyErr), s) :=
    writeCommandToRaftLog v (.updateProjectDescription project.description project.id) s
  match applyErr, res with
  | some _, _ => (.panic errorStubPanic, s)
  | none, none => (.error (httpGenericError 503 "service is unavailable"), s)
  | none, some r => (.ok r.rowsAffected, s)

/-- Modelled from the spec: `jobRepo.GetAllByProjectID`, as the job repository
is not under `src/`: the project's jobs from `offset`, at most `limit` of them.
Its `orderBy` argument is left out, as `DeleteOneByID` only tests whether the
page is empty. -/
def getAllByProjectID (jobs : List Job) (projectID offset limit : ℕ) : List Job :=
  ((jobs.filter fun j => j.projectId = projectID).drop offset).take limit

/-- The job lookup that opens `DeleteOneByID`. -/
def deleteCheck (s : Store) (project : Project) : Option GenericError :=
  let projectJobs := getAllByProjectID s.jobs project.id 0 1
  if projectJobs.length > 0 then some (httpGenericError 400 "cannot delete project with jobs")
  else none

/-- The replicated `DELETE` that closes `DeleteOneByID`. -/
def deleteWrite (v : RaftVerdict) (project : Project) (s : Store) :
    Outcome GenericError ℕ × Store :=
  let ((res, applyErr), s) := writeCommandToRaftLog v (.deleteProject project.id) s
  match applyErr, res with
  | some e, _ => (.error e, s)
  | none, none => (.error (httpGenericError 503 "service is unavailable"), s)
  | none, some r => (.ok r.rowsAffected, s)

/-- `projectRepo.DeleteOneByID`. -/
def deleteOneByID (v : RaftVerdict) (project : Project) (s : Store) :
    Outcome GenericError ℕ × Store :=
  match deleteCheck s project with
  | some e => (.error e, s)
  | none => deleteWrite v project s

/-- `projectRepo.List`: `LIMIT limit OFFSET offset` over the rows in rowid
order. `squirrel` writes both as decimal literals, and SQLite reads one beyond
`int64` as a real, which the clause rejects when the statement steps:
`rows.Err()` hands the `datatype mismatch` back as a 500. `LIMIT 0` ends the
query before `OFFSET` is read. -/
def list (t : ProjectsTable) (offset limit : ℕ) : Outcome GenericError (List Project) :=
  if 2 ^ 63 ≤ limit then .error (httpGenericError 500 "datatype mismatch")
  else if limit = 0 then .ok []
  else if 2 ^ 63 ≤ offset then .error (httpGenericError 500 "datatype mismatch")
  else .ok ((t.rows.drop offset).take limit)

/-- `projectRepo.Count`. -/
def count (t : ProjectsTable) : ℕ := t.rows.length

/-! ## Reads -/

theorem scanRows_cons_mem (p r : Project) (rs : List Project) : scanRows p (r :: rs) ∈ r :: rs := by
  induction rs generalizing p r with
  | nil => exact List.mem_singleton_self r
  | cons r' rs ih => exact List.mem_cons_of_mem r (ih r r')

section GetOneWhere

variable {α : Type} [DecidableEq α] (key : Project → α) (notFound : Project → String)
  (t : ProjectsTable) (p : Project)

theorem getOneWhere_of_not_mem (h : ∀ r ∈ t.rows, key r ≠ key p) :
    getOneWhere key notFound t p = (p, some (httpGenericError 404 (notFound p))) := by
  have hnil : (t.rows.filter fun r => key r = key p) = [] :=
    List.filter_eq_nil_iff.2 fun r hr => by simpa using h r hr
  simp [getOneWhere, hnil, scanRows]

theorem getOneWhere_of_mem (h : ∃ r ∈ t.rows, key r = key p) :
    (getOneWhere key notFound t p).2 = none ∧ (getOneWhere key notFound t p).1 ∈ t.rows ∧
      key (getOneWhere key notFound t p).1 = key p := by
  obtain ⟨r, hr, hk⟩ := h
  obtain ⟨r₀, rs, hrs⟩ : ∃ r₀ rs, (t.rows.filter fun r => key r = key p) = r₀ :: rs :=
    List.exists_cons_of_ne_nil (List.ne_nil_of_mem (List.mem_filter.2 ⟨hr, by simpa using hk⟩))
  have hmem : scanRows p (r₀ :: rs) ∈ t.rows.filter fun r => key r = key p := by
    rw [hrs]
    exact scanRows_cons_mem p r₀ rs
  have heq : getOneWhere key notFound t p = (scanRows p (r₀ :: rs), none) := by
    simp only [getOneWhere, hrs, List.length_cons, Nat.add_one_ne_zero, if_false]
  rw [List.mem_filter] at hmem
  rw [heq]
  exact ⟨rfl, hmem.1, of_decide_eq_true hmem.2⟩

theorem getOneWhere_of_concat {l : List Project} {a : Project}
    (h : (t.rows.filter fun r => key r = key p) = l ++ [a]) :
    getOneWhere key notFound t p = (a, none) := by
  simp [getOneWhere, h, scanRows]

end GetOneWhere

theorem getOneByName_of_not_mem {t : ProjectsTable} {p : Project}
    (h : ∀ r ∈ t.rows, r.name ≠ p.name) : (getOneByName t p).1 = p := by
  simp [getOneByName, getOneWhere_of_not_mem _ _ _ _ h]

theorem getOneByName_of_mem {t : ProjectsTable} {p : Project} (h : ∃ r ∈ t.rows, r.name = p.name) :
    (getOneByName t p).1 ∈ t.rows ∧ (getOneByName t p).1.name = p.name :=
  (getOneWhere_of_mem _ _ _ _ h).2

/-- When stored projects share the caller's name, `GetOneByName` fills the
struct with the one of greatest id, the newest. -/
theorem getOneByName_newest {t : ProjectsTable} {p : Project} (h : ∃ r ∈ t.rows, r.name = p.name) :
    (getOneByName t p).2 = none ∧ (getOneByName t p).1 ∈ t.rows ∧
      (getOneByName t p).1.name = p.name ∧
      ∀ r ∈ t.rows, r.name = p.name → r.id ≤ (getOneByName t p).1.id := by
  obtain ⟨r₀, hr₀, hn₀⟩ := h
  have hpair := t.ids_lt.filter fun r => decide (r.name = p.name)
  obtain ⟨l, a, hla⟩ := (List.eq_nil_or_concat (t.rows.filter fun r => r.name = p.name)).resolve_left
    (List.ne_nil_of_mem (List.mem_filter.2 ⟨hr₀, by simpa using hn₀⟩))
  rw [List.concat_eq_append] at hla
  have ha : a ∈ t.rows.filter fun r => r.name = p.name := by rw [hla]; simp
  rw [hla] at hpair
  rw [getOneByName, getOneWhere_of_concat _ _ _ _ hla]
  simp only [List.mem_filter, decide_eq_true_eq] at ha
  refine ⟨rfl, ha.1, ha.2, fun r hr hn => ?_⟩
  have hmem : r ∈ l ++ [a] := hla ▸ List.mem_filter.2 ⟨hr, by simpa using hn⟩
  rcases List.mem_append.1 hmem with hl | hs
  · exact (List.pairwise_append.1 hpair).2.2 r hl a (List.mem_singleton_self a) |>.le
  · rw [List.mem_singleton.1 hs]

theorem getOneByName_newest_twice :
    let t := ((ProjectsTable.empty false).insert "a" "old" 0).insert "a" "new" 1
    (∃ r ∈ t.rows, r.name = "a") ∧
      (getOneByName t ⟨0, "a", "", 0⟩).2 = none ∧ (getOneByName t ⟨0, "a", "", 0⟩).1 ∈ t.rows ∧
      (getOneByName t ⟨0, "a", "", 0⟩).1.name = "a" ∧
      ∀ r ∈ t.rows, r.name = "a" → r.id ≤ (getOneByName t ⟨0, "a", "", 0⟩).1.id :=
  ⟨⟨_, List.mem_cons_self _ _, rfl⟩, getOneByName_newest ⟨_, List.mem_cons_self _ _, rfl⟩⟩

theorem getOneByID_of_mem {t : ProjectsTable} {r p : Project} (hr : r ∈ t.rows)
    (h : r.id = p.id) : getOneByID t p = (r, none) := by
  obtain ⟨hnone, hmem, hid⟩ := getOneWhere_of_mem Project.id
    (fun _ => "project does not exist") t p ⟨r, hr, h⟩
  exact Prod.ext (t.eq_of_id_eq hmem hr (hid.trans h.symm)) hnone

theorem list_of_lt {t : ProjectsTable} {offset limit : ℕ} (hoffset : offset < 2 ^ 63)
    (hlimit : limit < 2 ^ 63) : list t offset limit = .ok ((t.rows.drop offset).take limit) := by
  unfold list
  split_ifs <;> first | omega | simp_all

theorem flatten_pages (rows : List Project) (limit k : ℕ) :
    ((List.range k).map fun i => (rows.drop (i * limit)).take limit).flatten =
      rows.take (k * limit) := by
  induction k with
  | zero => simp
  | succ k ih =>
    rw [List.range_succ, List.map_append, List.flatten_append, ih, Nat.succ_mul, List.take_add]
    simp

def insertedRow (now : ℕ) (p : Project) (s : Store) : DbCommand :=
  .insertProject (getOneByName s.projects p).1.name (getOneByName s.projects p).1.description now

theorem createOne_store_eq (v : RaftVerdict) (now : ℕ) {p : Project} (s : Store)
    (hn : 0 < p.name.length) (hd : 0 < p.description.length) :
    (createOne v now p s).2.2 = (writeCommandToRaftLog v (insertedRow now p s) s).2 := by
  simp only [createOne, show ¬p.name.length < 1 by omega, show ¬p.description.length < 1 by omega,
    if_false, gt_iff_lt, lt_self_iff_false, insertedRow]
  split <;> (try split) <;> rfl

theorem createOne_store (v : RaftVerdict) (now : ℕ) (p : Project) (s : Store) :
    (createOne v now p s).2.2 = s ∨
      (0 < p.name.length ∧ 0 < p.description.length ∧
        (createOne v now p s).2.2 = (applyCommand (insertedRow now p s) s).1) := by
  by_cases hn : p.name.length < 1
  · simp [createOne, hn]
  by_cases hd : p.description.length < 1
  · simp [createOne, hn, hd]
  rw [createOne_store_eq v now s (by omega) (by omega)]
  rcases writeCommandToRaftLog_store v (insertedRow now p s) s with h | h
  · exact .inl h
  · exact .inr ⟨by omega, by omega, h⟩

/-- A committed `CreateOne` returns the fresh id, and the struct holds the new
row, read back through `GetOneByID`. -/
theorem createOne_commit (now : ℕ) {p : Project} (s : Store) (hn : 0 < p.name.length)
    (hd : 0 < p.description.length) :
    createOne .commit now p s =
      (.ok (s.projects.seq + 1),
        ⟨s.projects.seq + 1, (getOneByName s.projects p).1.name,
          (getOneByName s.projects p).1.description, now⟩,
        (applyCommand (insertedRow now p s) s).1) := by
  have hget := @getOneByID_of_mem (s.projects.insert (getOneByName s.projects p).1.name
      (getOneByName s.projects p).1.description now) _
    { (getOneByName s.projects p).1 with id := s.projects.seq + 1 }
    (List.mem_append_right _ (List.mem_singleton_self _)) rfl
  simp only [createOne, show ¬p.name.length < 1 by omega, show ¬p.description.length < 1 by omega,
    if_false, gt_iff_lt, lt_self_iff_false, writeCommandToRaftLog_commit, applyCommand, hget,
    insertedRow]

/-- `CreateOne` panics exactly when both fields are set and the log answers
with an error: its read-back of the inserted row through `GetOneByID` never
fails. -/
theorem createOne_panic_iff (v : RaftVerdict) (now : ℕ) (p : Project) (s : Store) :
    (∃ m, (createOne v now p s).1 = .panic m) ↔
      0 < p.name.length ∧ 0 < p.description.length ∧ ∃ e applied, v = .fail e applied := by
  by_cases hn : p.name.length < 1
  · simp [createOne, hn, show ¬0 < p.name.length by omega]
  by_cases hd : p.description.length < 1
  · simp [createOne, hn, hd, show ¬0 < p.description.length by omega]
  cases v with
  | commit => simp [createOne_commit now s (show 0 < p.name.length by omega) (by omega)]
  | fail e applied => simp [createOne, hn, hd, writeCommandToRaftLog]; omega
  | noResponse applied => simp [createOne, hn, hd, writeCommandToRaftLog]

theorem updateOneByID_store (v : RaftVerdict) (p : Project) (s : Store) :
    (updateOneByID v p s).2 = s ∨
      (updateOneByID v p s).2 = { s with projects := s.projects.setDescription p.id p.description } := by
  have h : (updateOneByID v p s).2 =
      (writeCommandToRaftLog v (.updateProjectDescription p.description p.id) s).2 := by
    simp only [updateOneByID]
    split <;> rfl
  rw [h]
  exact writeCommandToRaftLog_store v _ s

theorem deleteWrite_store (v : RaftVerdict) (p : Project) (s : Store) :
    (deleteWrite v p s).2 = s ∨
      (deleteWrite v p s).2 = { s with projects := s.projects.delete p.id } := by
  have h : (deleteWrite v p s).2 = (writeCommandToRaftLog v (.deleteProject p.id) s).2 := by
    simp only [deleteWrite]
    split <;> rfl
  rw [h]
  exact writeCommandToRaftLog_store v _ s

theorem deleteCheck_eq_none_iff (s : Store) (p : Project) :
    deleteCheck s p = none ↔ ∀ j ∈ s.jobs, j.projectId ≠ p.id := by
  simp [deleteCheck, getAllByProjectID, List.filter_eq_nil_iff]

theorem deleteOneByID_store (v : RaftVerdict) (p : Project) (s : Store) :
    (deleteOneByID v p s).2 = s ∨
      ((∀ j ∈ s.jobs, j.projectId ≠ p.id) ∧
        (deleteOneByID v p s).2 = { s with projects := s.projects.delete p.id }) := by
  unfold deleteOneByID
  split
  · exact .inl rfl
  · rename_i h
    rcases deleteWrite_store v p s with h' | h'
    · exact .inl h'
    · exact .inr ⟨(deleteCheck_eq_none_iff s p).1 h, h'⟩

end Scheduler0.ProjectRepo
