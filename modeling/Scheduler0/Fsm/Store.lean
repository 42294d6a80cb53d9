import Scheduler0.Utils.Errors

/-!
# The replicated store of projects and jobs

The state machine applies committed `DbExecute` commands to the embedded
SQLite database. The project repository submits three of them on the
`projects` table: an insert, a description update and a delete; job inserts
come from the job repository. The schema migration, `WriteCommandToRaftLog`
and the apply path are not under `src/`, so they are modelled from the spec
below. `RaftVerdict` stands for what the replicated log does with one
submitted command; every theorem about the repositories holds for every
verdict.
-/

namespace Scheduler0.Fsm

open Utils

/-- `models.Project`. -/
structure Project where
  id : ℕ
  name : String
  description : String
  dateCreated : ℕ
deriving DecidableEq, Repr

/-- `models.Job`, with the one column the project repository reads. -/
structure Job where
  id : ℕ
  projectId : ℕ
deriving DecidableEq, Repr

def maxId (rows : List Project) : ℕ := (rows.map Project.id).foldr max 0

theorem maxId_le_iff {rows : List Project} {n : ℕ} : maxId rows ≤ n ↔ ∀ r ∈ rows, r.id ≤ n := by
  induction rows <;> simp_all [maxId]

theorem le_maxId {rows : List Project} {r : Project} (h : r ∈ rows) : r.id ≤ maxId rows :=
  maxId_le_iff.1 le_rfl r h

/-- Modelled from the spec: the `projects` table, whose migration is not under
`src/`. Rows are in rowid order and a new row takes the id after `seq`. Whether
the id column is declared `AUTOINCREMENT` is in neither `src/` nor the spec, so
`autoincrement` records it: with it, `seq` is the largest id ever handed out
(`sqlite_sequence`) and no id is handed out twice; without it, SQLite takes one
more than the largest id stored, so `seq` is that id and the id of a deleted
last row comes back. No constraint other than the primary key is declared:
validation lives before `writeCommand`. -/
structure ProjectsTable where
  rows : List Project
  seq : ℕ
  autoincrement : Bool
  ids_lt : rows.Pairwise fun a b => a.id < b.id
  ids_le_seq : ∀ r ∈ rows, r.id ≤ seq
  seq_of_plain : autoincrement = false → seq = maxId rows

namespace ProjectsTable

def empty (autoincrement : Bool) : ProjectsTable :=
  ⟨[], 0, autoincrement, .nil, by simp, fun _ => rfl⟩

/-- `INSERT INTO projects (name, description, date_created)`: the new row
takes the id after `seq`. -/
def insert (t : ProjectsTable) (name description : String) (dateCreated : ℕ) :
    ProjectsTable where
  rows := t.rows ++ [⟨t.seq + 1, name, description, dateCreated⟩]
  seq := t.seq + 1
  autoincrement := t.autoincrement
  ids_lt := List.pairwise_append.2 ⟨t.ids_lt, List.pairwise_singleton _ _, fun a ha b hb => by
    rw [List.mem_singleton] at hb
    subst hb
    exact Nat.lt_succ_of_le (t.ids_le_seq a ha)⟩
  ids_le_seq := by
    intro r hr
    rcases List.mem_append.1 hr with hr | hr
    · exact Nat.le_succ_of_le (t.ids_le_seq r hr)
    · rw [List.mem_singleton.1 hr]
  seq_of_plain _ := le_antisymm
    (le_maxId (List.mem_append_right t.rows
      (List.mem_singleton_self ⟨t.seq + 1, name, description, dateCreated⟩)))
    (maxId_le_iff.2 fun r hr => by
      rcases List.mem_append.1 hr with hr | hr
      · exact Nat.le_succ_of_le (t.ids_le_seq r hr)
      · rw [List.mem_singleton.1 hr])

def describe (id : ℕ) (description : String) (r : Project) : Project :=
  if r.id = id then { r with description := description } else r

@[simp] theorem id_describe (id : ℕ) (d : String) (r : Project) : (describe id d r).id = r.id := by
  unfold describe; split_ifs <;> rfl

@[simp] theorem name_describe (id : ℕ) (d : String) (r : Project) :
    (describe id d r).name = r.name := by
  unfold describe; split_ifs <;> rfl

@[simp] theorem dateCreated_describe (id : ℕ) (d : String) (r : Project) :
    (describe id d r).dateCreated = r.dateCreated := by
  unfold describe; split_ifs <;> rfl

theorem maxId_map_describe (rows : List Project) (id : ℕ) (d : String) :
    maxId (rows.map (describe id d)) = maxId rows := by
  simp [maxId, Function.comp_def]

/-- `UPDATE projects SET description = ? WHERE id = ?`. -/
def setDescription (t : ProjectsTable) (id : ℕ) (description : String) : ProjectsTable where
  rows := t.rows.map (describe id description)
  seq := t.seq
  autoincrement := t.autoincrement
  ids_lt := List.pairwise_map.2 (t.ids_lt.imp fun h => by simpa using h)
  ids_le_seq := by
    simp only [List.mem_map]
    rintro _ ⟨r, hr, rfl⟩
    simpa using t.ids_le_seq r hr
  seq_of_plain h := (t.seq_of_plain h).trans (maxId_map_describe _ _ _).symm

/-- `DELETE FROM projects WHERE id = ?`; without `AUTOINCREMENT` the next id
follows the largest one left. -/
def delete (t : ProjectsTable) (id : ℕ) : ProjectsTable where
  rows := t.rows.filter fun r => r.id ≠ id
  seq := if t.autoincrement then t.seq else maxId (t.rows.filter fun r => r.id ≠ id)
  autoincrement := t.autoincrement
  ids_lt := t.ids_lt.filter _
  ids_le_seq r hr := by
    split_ifs
    · exact t.ids_le_seq r (List.mem_of_mem_filter hr)
    · exact le_maxId hr
  seq_of_plain h := by simp [h]

def countId (t : ProjectsTable) (id : ℕ) : ℕ := (t.rows.filter fun r => r.id = id).length

@[simp] theorem insert_rows (t : ProjectsTable) (n d : String) (c : ℕ) :
    (t.insert n d c).rows = t.rows ++ [⟨t.seq + 1, n, d, c⟩] := rfl

@[simp] theorem insert_seq (t : ProjectsTable) (n d : String) (c : ℕ) :
    (t.insert n d c).seq = t.seq + 1 := rfl

@[simp] theorem setDescription_rows (t : ProjectsTable) (id : ℕ) (d : String) :
    (t.setDescription id d).rows = t.rows.map (describe id d) := rfl

@[simp] theorem delete_rows (t : ProjectsTable) (id : ℕ) :
    (t.delete id).rows = t.rows.filter fun r => r.id ≠ id := rfl

@[simp] theorem insert_autoincrement (t : ProjectsTable) (n d : String) (c : ℕ) :
    (t.insert n d c).autoincrement = t.autoincrement := rfl

@[simp] theorem setDescription_seq (t : ProjectsTable) (id : ℕ) (d : String) :
    (t.setDescription id d).seq = t.seq := rfl

@[simp] theorem setDescription_autoincrement (t : ProjectsTable) (id : ℕ) (d : String) :
    (t.setDescription id d).autoincrement = t.autoincrement := rfl

@[simp] theorem delete_autoincrement (t : ProjectsTable) (id : ℕ) :
    (t.delete id).autoincrement = t.autoincrement := rfl

theorem delete_seq_of_autoincrement {t : ProjectsTable} (h : t.autoincrement = true) (id : ℕ) :
    (t.delete id).seq = t.seq := by
  simp [delete, h]

theorem ids_nodup (t : ProjectsTable) : (t.rows.map Project.id).Nodup :=
  List.pairwise_map.2 (t.ids_lt.imp Nat.ne_of_lt)

theorem eq_of_id_eq {t : ProjectsTable} {r r' : Project} (hr : r ∈ t.rows) (hr' : r' ∈ t.rows)
    (h : r.id = r'.id) : r = r' :=
  List.inj_on_of_nodup_map t.ids_nodup hr hr' h

theorem countId_eq (t : ProjectsTable) (id : ℕ) :
    t.countId id = if ∃ r ∈ t.rows, r.id = id then 1 else 0 := by
  have hcount : t.countId id = (t.rows.map Project.id).count id := by
    rw [countId, List.count, List.countP_eq_length_filter, List.filter_map, List.length_map]
    exact congrArg List.length (List.filter_congr fun r _ => (Bool.beq_eq_decide_eq r.id id).symm)
  rw [hcount]
  split_ifs with h
  · obtain ⟨r, hr, rfl⟩ := h
    exact List.count_eq_one_of_mem t.ids_nodup (List.mem_map_of_mem _ hr)
  · exact List.count_eq_zero_of_not_mem (by simpa using h)

end ProjectsTable

structure Store where
  projects : ProjectsTable
  jobs : List Job

inductive DbCommand where
  | insertProject (name description : String) (dateCreated : ℕ)
  | updateProjectDescription (description : String) (id : ℕ)
  | deleteProject (id : ℕ)
  | insertJob (job : Job)

/-- `Response.Data`: the last inserted id and the rows affected. -/
structure ExecResult where
  lastInsertedId : ℕ
  rowsAffected : ℕ
deriving DecidableEq, Repr

/-- Modelled from the spec: the FSM apply path for `DbExecute`, which runs the
command on the database and reports its result; it never rejects a command. -/
def applyCommand : DbCommand → Store → Store × ExecResult
  | .insertProject n d c, s =>
    ({ s with projects := s.projects.insert n d c }, ⟨s.projects.seq + 1, 1⟩)
  | .updateProjectDescription d id, s =>
    ({ s with projects := s.projects.setDescription id d }, ⟨0, s.projects.countId id⟩)
  | .deleteProject id, s =>
    ({ s with projects := s.projects.delete id }, ⟨0, s.projects.countId id⟩)
  | .insertJob j, s => ({ s with jobs := s.jobs ++ [j] }, ⟨j.id, 1⟩)

/-- Modelled from the spec: what the replicated log does with one command that
the Raft actions' `WriteCommandToRaftLog` submits. It commits and applies it and hands back
the apply's response, or the call returns an error (`NotLeader`, `Timeout`,
`StoreFull`) or no response at all; in those two cases the command may still
have been applied, as a timed-out command can commit later. -/
inductive RaftVerdict where
  | commit
  | fail (e : GenericError) (applied : Bool)
  | noResponse (applied : Bool)

/-- Modelled from the spec: `WriteCommandToRaftLog` with a `DbExecute` command;
it returns the pair `(res, applyErr)` and the store after the log's verdict. -/
def writeCommandToRaftLog (v : RaftVerdict) (cmd : DbCommand) (s : Store) :
    (Option ExecResult × Option GenericError) × Store :=
  match v with
  | .commit => ((some (applyCommand cmd s).2, none), (applyCommand cmd s).1)
  | .fail e applied => ((none, some e), if applied then (applyCommand cmd s).1 else s)
  | .noResponse applied => ((none, none), if applied then (applyCommand cmd s).1 else s)

theorem writeCommandToRaftLog_store (v : RaftVerdict) (cmd : DbCommand) (s : Store) :
    (writeCommandToRaftLog v cmd s).2 = s ∨
      (writeCommandToRaftLog v cmd s).2 = (applyCommand cmd s).1 := by
  cases v with
  | commit => exact .inr rfl
  | fail e applied => cases applied <;> simp [writeCommandToRaftLog]
  | noResponse applied => cases applied <;> simp [writeCommandToRaftLog]

@[simp] theorem writeCommandToRaftLog_commit (cmd : DbCommand) (s : Store) :
    writeCommandToRaftLog .commit cmd s =
      ((some (applyCommand cmd s).2, none), (applyCommand cmd s).1) := rfl

end Scheduler0.Fsm
