import Scheduler0.Repository.Project

/-!
# Deleting a project while jobs are inserted

`DeleteOneByID` reads the project's jobs, then submits its `DELETE` through
the replicated log, and job inserts commit in between. A `World` is the store
together with the deletes that have passed their job lookup and not yet
committed; `World.step` interleaves the two steps of any number of deletes
with committed job inserts for projects that exist at that moment. Run back to
back, the two steps are `DeleteOneByID`. A job insert for a project whose
delete is pending is the one step that can leave a job without its project:
every run free of it keeps each job's project stored.
-/

namespace Scheduler0.ProjectRepo

open Utils Fsm

def JobsHaveProjects (s : Store) : Prop :=
  ∀ j ∈ s.jobs, j.projectId ∈ s.projects.rows.map Project.id

/-- The store, and the ids of the projects whose `DeleteOneByID` has passed its
job lookup and not yet committed its `DELETE`. -/
structure World where
  store : Store
  pending : List ℕ

inductive Event where
  | lookup (project : Project)
  | commit (project : Project) (v : RaftVerdict)
  | insertJob (job : Job)

/-- A lookup that finds jobs ends its call; a commit needs a pending lookup;
a job insert needs its project stored. -/
def World.step (w : World) : Event → Option World
  | .lookup p =>
    match deleteCheck w.store p with
    | some _ => some w
    | none => some { w with pending := p.id :: w.pending }
  | .commit p v =>
    if p.id ∈ w.pending then some ⟨(deleteWrite v p w.store).2, w.pending.erase p.id⟩ else none
  | .insertJob j =>
    if j.projectId ∈ w.store.projects.rows.map Project.id then
      some { w with store := (applyCommand (.insertJob j) w.store).1 }
    else none

def World.run : World → List Event → Option World
  | w, [] => some w
  | w, e :: es => (w.step e).bind fun w' => w'.run es

/-- With nothing in between, a lookup and its commit are `DeleteOneByID`. -/
theorem run_lookup_commit (s : Store) (p : Project) (v : RaftVerdict)
    (h : deleteCheck s p = none) :
    (World.mk s []).run [.lookup p, .commit p v] = some ⟨(deleteOneByID v p s).2, []⟩ := by
  simp [World.run, World.step, h, deleteOneByID]

/-- A job insert lands between the lookup and the commit of a delete of the
same project: the delete goes through and the job names no project. -/
theorem deleteOneByID_interleaved_dangling_job :
    let w : World := ⟨⟨(ProjectsTable.empty false).insert "a" "d" 0, []⟩, []⟩
    JobsHaveProjects w.store ∧
      ∃ w', w.run [.lookup ⟨1, "a", "d", 0⟩, .insertJob ⟨1, 1⟩, .commit ⟨1, "a", "d", 0⟩ .commit] =
        some w' ∧ ¬JobsHaveProjects w'.store := by
  refine ⟨by simp [JobsHaveProjects], _, rfl, ?_⟩
  simp [JobsHaveProjects, World.step, deleteWrite, applyCommand]

/-! ## Runs that keep every job's project -/

structure World.Safe (w : World) : Prop where
  jobs_have_projects : JobsHaveProjects w.store
  pending_free : ∀ j ∈ w.store.jobs, j.projectId ∉ w.pending

def World.AvoidsPending (w : World) : Event → Prop
  | .insertJob j => j.projectId ∉ w.pending
  | _ => True

theorem jobsHaveProjects_delete {s : Store} (h : JobsHaveProjects s) {id : ℕ}
    (hfree : ∀ j ∈ s.jobs, j.projectId ≠ id) :
    JobsHaveProjects { s with projects := s.projects.delete id } := fun j hj => by
  obtain ⟨r, hr, hid⟩ := List.mem_map.1 (h j hj)
  exact List.mem_map.2 ⟨r, List.mem_filter.2 ⟨hr, by simpa [hid] using hfree j hj⟩, hid⟩

theorem World.step_safe {w w' : World} {e : Event} (hw : w.Safe) (ha : w.AvoidsPending e)
    (h : w.step e = some w') : w'.Safe := by
  cases e with
  | lookup p =>
    simp only [World.step] at h
    split at h
    · cases h
      exact hw
    · rename_i hnone
      cases h
      exact ⟨hw.jobs_have_projects, fun j hj => List.not_mem_cons_of_ne_of_not_mem
        ((deleteCheck_eq_none_iff _ _).1 hnone j hj) (hw.pending_free j hj)⟩
  | commit p v =>
    simp only [World.step] at h
    split_ifs at h with hp
    cases h
    have herase : ∀ j ∈ w.store.jobs, j.projectId ∉ w.pending.erase p.id :=
      fun j hj hmem => hw.pending_free j hj (List.mem_of_mem_erase hmem)
    rcases deleteWrite_store v p w.store with hs | hs <;> rw [hs]
    · exact ⟨hw.jobs_have_projects, herase⟩
    · exact ⟨jobsHaveProjects_delete hw.jobs_have_projects
        fun j hj he => hw.pending_free j hj (he ▸ hp), herase⟩
  | insertJob j =>
    simp only [World.step] at h
    split_ifs at h with hj
    cases h
    refine ⟨fun k hk => ?_, fun k hk => ?_⟩ <;> rcases List.mem_append.1 hk with hk | hk
    · exact hw.jobs_have_projects k hk
    · exact List.mem_singleton.1 hk ▸ hj
    · exact hw.pending_free k hk
    · exact List.mem_singleton.1 hk ▸ ha

def World.AvoidsPendingRun : World → List Event → Prop
  | _, [] => True
  | w, e :: es => w.AvoidsPending e ∧ ∀ w', w.step e = some w' → w'.AvoidsPendingRun es

theorem World.run_safe : ∀ {w w' : World} {es : List Event}, w.Safe → w.AvoidsPendingRun es →
    w.run es = some w' → w'.Safe
  | _, _, [], hw, _, h => by
    cases h
    exact hw
  | w, _, e :: es, hw, ⟨ha, hes⟩, h => by
    obtain ⟨w₁, h₁, h₂⟩ := Option.bind_eq_some.1 h
    exact World.run_safe (World.step_safe hw ha h₁) (hes w₁ h₁) h₂

/-- From a store whose jobs all name stored projects and no delete in flight,
every interleaving in which no job insert for a project lands between that
project's delete lookup and its commit keeps every job's project stored. -/
theorem deleteOneByID_interleaving_safe (w w' : World) (es : List Event)
    (hjobs : JobsHaveProjects w.store) (hpending : w.pending = [])
    (havoid : w.AvoidsPendingRun es) (hrun : w.run es = some w') :
    JobsHaveProjects w'.store :=
  (World.run_safe ⟨hjobs, fun _ _ => by simp [hpending]⟩ havoid hrun).jobs_have_projects

theorem deleteOneByID_interleaving_safe_other_project :
    ∃ w', (World.mk ⟨((ProjectsTable.empty false).insert "a" "d" 0).insert "b" "e" 0, []⟩ []).run
        [.lookup ⟨1, "a", "d", 0⟩, .insertJob ⟨1, 2⟩, .commit ⟨1, "a", "d", 0⟩ .commit] = some w' ∧
      JobsHaveProjects w'.store := by
  refine ⟨_, rfl, deleteOneByID_interleaving_safe
    ⟨⟨((ProjectsTable.empty false).insert "a" "d" 0).insert "b" "e" 0, []⟩, []⟩ _
    [.lookup ⟨1, "a", "d", 0⟩, .insertJob ⟨1, 2⟩, .commit ⟨1, "a", "d", 0⟩ .commit]
    (by simp [JobsHaveProjects]) rfl ?_ rfl⟩
  simp [World.AvoidsPendingRun, World.AvoidsPending, World.step, deleteCheck, getAllByProjectID]

end Scheduler0.ProjectRepo
