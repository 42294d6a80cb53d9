import Scheduler0.Repository.Project

/-!
# Fetching projects by a batch of ids

`GetBatchProjectsByIDs` drops duplicate ids through a map, lists the map's
values in whatever order `range` visits them, and builds the `IN` clause with
a loop that starts from `ids[0]` and appends `",?"` and `ids[i]` while
`i < len(ids)-1`. The placeholders and the bound arguments agree for every
input and every visiting order. The query still fails when `database/sql`
cannot convert an id, one of `2 ^ 63` or more, or when there are more distinct
ids than SQLite's limit on host parameters; `Query` then returns nil rows, and
the `rows.Close()` deferred before the error check panics on them. Below both
bounds the query returns each stored project whose id was asked for, once.
-/

namespace Scheduler0.ProjectRepo

open Utils Fsm

/-- The keys of the `cachedProjectIds` map, in the order they were first
inserted: each id of the input once. -/
def cacheProjectIds (projectIds : List ℕ) : List ℕ :=
  projectIds.foldl (fun cached projectId => if projectId ∈ cached then cached else cached ++ [projectId]) []

/-- The loop `for i < len(ids)-1 { idParams += ",?"; i += 1;
projectIdsArgs = append(projectIdsArgs, ids[i]) }`. -/
def placeholderLoop (ids : List ℕ) (i : ℕ) (idParams : String) (projectIdsArgs : List ℕ) :
    String × List ℕ :=
  if h : i < ids.length - 1 then
    placeholderLoop ids (i + 1) (idParams ++ ",?") (projectIdsArgs ++ [ids.get ⟨i + 1, by omega⟩])
  else (idParams, projectIdsArgs)
termination_by ids.length - 1 - i

/-- The placeholders and the bound arguments of the `IN` clause, built from
`ids[0]` by `placeholderLoop`; `none` where `ids[0]` is out of range. -/
def inClause : List ℕ → Option (String × List ℕ)
  | [] => none
  | id0 :: rest => some (placeholderLoop (id0 :: rest) 0 "?" [id0])

/-- `SQLITE_MAX_VARIABLE_NUMBER` of SQLite's default build. -/
def sqliteMaxVariableNumber : ℕ := 32766

/-- SQLite running `SELECT ... WHERE id in (idParams)` with `args` bound to the
placeholders in order. `database/sql` first converts each argument and refuses
a `uint64` with the high bit set; SQLite refuses a statement with more than
`maxVariables` host parameters; the driver refuses a count mismatch. -/
def selectIdIn (maxVariables : ℕ) (t : ProjectsTable) (idParams : String) (args : List ℕ) :
    Except String (List Project) :=
  match args.findIdx? fun x => 2 ^ 63 ≤ x with
  | some i => .error ("sql: converting argument $" ++ toString (i + 1) ++
      " type: uint64 values with high bit set are not supported")
  | none =>
    if maxVariables < idParams.data.count '?' then .error "too many SQL variables"
    else if idParams.data.count '?' = args.length then .ok (t.rows.filter fun r => r.id ∈ args)
    else .error ("sql: expected " ++ toString (idParams.data.count '?') ++ " arguments, got " ++
      toString args.length)

def nilRowsPanic : String := "runtime error: invalid memory address or nil pointer dereference"

/-- `projectRepo.GetBatchProjectsByIDs` under SQLite's limit `maxVariables` on
host parameters; `mapOrder` lists the map's values in the order `range` visits
them, which Go leaves unspecified. -/
def getBatchProjectsByIDs (maxVariables : ℕ) (mapOrder : List ℕ → List ℕ) (t : ProjectsTable)
    (projectIds : List ℕ) : Outcome GenericError (List Project) :=
  if projectIds.length < 1 then .ok []
  else
    match inClause (mapOrder (cacheProjectIds projectIds)) with
    | none => .panic "runtime error: index out of range [0] with length 0"
    | some (idParams, projectIdsArgs) =>
      match selectIdIn maxVariables t idParams projectIdsArgs with
      | .error _ => .panic nilRowsPanic
      | .ok projects => .ok projects

/-! ## The deduplicating map -/

theorem cacheProjectIds_foldl (l acc : List ℕ) (hacc : acc.Nodup) :
    (l.foldl (fun cached projectId =>
        if projectId ∈ cached then cached else cached ++ [projectId]) acc).Nodup ∧
      ∀ x, x ∈ l.foldl (fun cached projectId =>
        if projectId ∈ cached then cached else cached ++ [projectId]) acc ↔ x ∈ acc ∨ x ∈ l := by
  induction l generalizing acc with
  | nil => simpa using hacc
  | cons y l ih =>
    by_cases hy : y ∈ acc
    · simp only [List.foldl_cons, hy, if_true]
      refine ⟨(ih acc hacc).1, fun x => ?_⟩
      rw [(ih acc hacc).2 x, List.mem_cons]
      by_cases hx : x = y <;> simp [hx, hy]
    · have hacc' : (acc ++ [y]).Nodup := hacc.append (List.nodup_singleton y) (by simpa using hy)
      simp only [List.foldl_cons, hy, if_false]
      refine ⟨(ih _ hacc').1, fun x => ?_⟩
      rw [(ih _ hacc').2 x]
      simp [or_assoc]

theorem cacheProjectIds_nodup (projectIds : List ℕ) : (cacheProjectIds projectIds).Nodup :=
  (cacheProjectIds_foldl projectIds [] List.nodup_nil).1

theorem mem_cacheProjectIds (projectIds : List ℕ) (x : ℕ) :
    x ∈ cacheProjectIds projectIds ↔ x ∈ projectIds := by
  simpa using (cacheProjectIds_foldl projectIds [] List.nodup_nil).2 x

/-! ## The placeholder loop -/

theorem placeholderLoop_spec (ids : List ℕ) (i : ℕ) (idParams : String) (args : List ℕ)
    (hi : i < ids.length) :
    (placeholderLoop ids i idParams args).1.data =
        idParams.data ++ (List.replicate (ids.length - 1 - i) [',', '?']).flatten ∧
      (placeholderLoop ids i idParams args).2 = args ++ ids.drop (i + 1) := by
  induction i, idParams, args using placeholderLoop.induct ids with
  | case1 i idParams args h ih =>
    obtain ⟨h1, h2⟩ := ih (by omega)
    rw [placeholderLoop, dif_pos h, h1, h2]
    have hk : ids.length - 1 - i = ids.length - 1 - (i + 1) + 1 := by omega
    refine ⟨?_, ?_⟩
    · rw [hk, List.replicate_succ, List.flatten_cons, String.data_append, List.append_assoc]
    · rw [List.append_assoc, List.singleton_append, List.get_eq_getElem,
        ← List.drop_eq_getElem_cons]
  | case2 i idParams args h =>
    rw [placeholderLoop, dif_neg h, show ids.length - 1 - i = 0 by omega,
      List.drop_eq_nil_of_le (by omega)]
    simp

theorem inClause_spec {ids : List ℕ} (h : ids ≠ []) :
    ∃ idParams, inClause ids = some (idParams, ids) ∧ idParams.data.count '?' = ids.length := by
  obtain ⟨id0, rest, rfl⟩ := List.exists_cons_of_ne_nil h
  obtain ⟨h1, h2⟩ := placeholderLoop_spec (id0 :: rest) 0 "?" [id0] (by simp)
  refine ⟨(placeholderLoop (id0 :: rest) 0 "?" [id0]).1, ?_, ?_⟩
  · rw [inClause]
    exact congrArg some (Prod.ext rfl (h2.trans rfl))
  · rw [h1]
    have hcount : ∀ k, ((List.replicate k [',', '?']).flatten).count '?' = k := by
      intro k
      induction k <;> simp [List.replicate_succ, *]
    simp [hcount, Nat.add_comm]

theorem length_cacheProjectIds (projectIds : List ℕ) :
    (cacheProjectIds projectIds).length = projectIds.dedup.length :=
  ((List.perm_ext_iff_of_nodup (cacheProjectIds_nodup _) (List.nodup_dedup _)).2 fun x => by
    rw [mem_cacheProjectIds, List.mem_dedup]).length_eq

/-! ## The query -/

section Query

variable (maxVariables : ℕ) {mapOrder : List ℕ → List ℕ} (hOrder : ∀ l, (mapOrder l).Perm l)
  (t : ProjectsTable) {projectIds : List ℕ}
include hOrder

theorem inClause_mapOrder (h : projectIds ≠ []) :
    ∃ idParams args, inClause (mapOrder (cacheProjectIds projectIds)) = some (idParams, args) ∧
      idParams.data.count '?' = args.length ∧ args.Nodup ∧ (∀ x, x ∈ args ↔ x ∈ projectIds) ∧
      args.length = projectIds.dedup.length := by
  have hperm := hOrder (cacheProjectIds projectIds)
  have hmem : ∀ x, x ∈ mapOrder (cacheProjectIds projectIds) ↔ x ∈ projectIds := fun x =>
    hperm.mem_iff.trans (mem_cacheProjectIds projectIds x)
  have hne : mapOrder (cacheProjectIds projectIds) ≠ [] := by
    obtain ⟨x, hx⟩ := List.exists_mem_of_ne_nil _ h
    exact List.ne_nil_of_mem ((hmem x).2 hx)
  obtain ⟨idParams, hin, hcount⟩ := inClause_spec hne
  exact ⟨idParams, _, hin, hcount, hperm.nodup_iff.2 (cacheProjectIds_nodup _), hmem,
    hperm.length_eq.trans (length_cacheProjectIds _)⟩

theorem getBatchProjectsByIDs_eq (h : projectIds ≠ []) :
    ∃ idParams args, inClause (mapOrder (cacheProjectIds projectIds)) = some (idParams, args) ∧
      idParams.data.count '?' = args.length ∧ args.Nodup ∧ (∀ x, x ∈ args ↔ x ∈ projectIds) ∧
      args.length = projectIds.dedup.length ∧
      getBatchProjectsByIDs maxVariables mapOrder t projectIds =
        match selectIdIn maxVariables t idParams args with
        | .error _ => .panic nilRowsPanic
        | .ok projects => .ok projects := by
  obtain ⟨idParams, args, hin, hrest⟩ := inClause_mapOrder hOrder h
  have hlen : ¬projectIds.length < 1 := by
    simpa [Nat.lt_one_iff, List.length_eq_zero] using h
  exact ⟨idParams, args, hin, hrest.1, hrest.2.1, hrest.2.2.1, hrest.2.2.2, by
    simp only [getBatchProjectsByIDs, hlen, if_false, hin]⟩

theorem getBatchProjectsByIDs_panic
    (h : maxVariables < projectIds.dedup.length ∨ ∃ x ∈ projectIds, 2 ^ 63 ≤ x) :
    getBatchProjectsByIDs maxVariables mapOrder t projectIds = .panic nilRowsPanic := by
  have hne : projectIds ≠ [] := by
    rintro rfl
    simp at h
  obtain ⟨idParams, args, -, hcount, -, hmem, hlen, heq⟩ :=
    getBatchProjectsByIDs_eq maxVariables hOrder t hne
  have herr : ∃ e, selectIdIn maxVariables t idParams args = .error e := by
    unfold selectIdIn
    cases hfind : args.findIdx? fun x => 2 ^ 63 ≤ x with
    | some i => exact ⟨_, rfl⟩
    | none =>
      have hsmall : ∀ x ∈ args, x < 2 ^ 63 := fun x hx => by
        simpa using List.findIdx?_eq_none_iff.1 hfind x hx
      have hmany : maxVariables < idParams.data.count '?' := by
        rcases h with h | ⟨x, hx, hbig⟩
        · omega
        · exact absurd (hsmall x ((hmem x).2 hx)) (by omega)
      exact ⟨_, if_pos hmany⟩
  obtain ⟨e, he⟩ := herr
  rw [heq, he]

end Query

end Scheduler0.ProjectRepo
