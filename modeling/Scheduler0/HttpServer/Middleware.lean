import Scheduler0.Utils.Errors

/-!
# Request middlewares

`AuthMiddleware` lets a request through when the first segment of its path is
`api-docs` or `healthcheck`, or when one of five client kinds both recognizes
and authorizes it; every other request gets a 401. The path is cut with
`strings.Split`, which never returns an empty list, so the 501 branch is dead,
and `paths[1]` panics on a path without a slash. `EnsureRaftLeaderMiddleware`
sends writes on a follower to the address of the replica whose Raft address is
the leader's, and stops the process when no replica has one; its lookup loop
is `utils.GetNodeIPWithRaftAddress`. The `auth` package is not under `src/`:
its recognizers and checks are parameters.
-/

namespace Scheduler0.Middlewares

/-- `strings.Split(s, "/")` on the characters of `s`. -/
def splitPath : List Char → List String
  | [] => [""]
  | c :: cs =>
    if c = '/' then "" :: splitPath cs
    else
      match splitPath cs with
      | [] => [⟨[c]⟩]
      | s :: ss => ⟨c :: s.data⟩ :: ss

theorem splitPath_ne_nil (cs : List Char) : splitPath cs ≠ [] := by
  cases cs with
  | nil => simp [splitPath]
  | cons c cs =>
    unfold splitPath
    split_ifs
    · simp
    · split <;> simp

theorem one_lt_length_splitPath_iff (cs : List Char) :
    1 < (splitPath cs).length ↔ '/' ∈ cs := by
  induction cs with
  | nil => simp [splitPath]
  | cons c cs ih =>
    unfold splitPath
    split_ifs with hc
    · simp [hc, Nat.pos_iff_ne_zero, List.length_eq_zero, splitPath_ne_nil]
    · have hne := splitPath_ne_nil cs
      split
      · contradiction
      · rename_i s ss hss
        rw [hss] at ih
        simp only [List.length_cons, List.mem_cons, Ne.symm hc, false_or] at ih ⊢
        exact ih

inductive Handled where
  | next
  | respond (status : ℕ) (message : String)
  | redirect (url : String) (status : ℕ)
  | fatal (message : String)
  | panic (message : String)
deriving DecidableEq, Repr

inductive ClientKind where
  | server | ios | android | web | peer
deriving DecidableEq, Repr

def clientKinds : List ClientKind := [.server, .ios, .android, .web, .peer]

/-- `AuthMiddleware` on a request with URL path `path`; `isClient k` and
`isAuthorized k` are the `auth` package's recognizer and check of kind `k`. -/
def authMiddleware {Req : Type} (isClient isAuthorized : ClientKind → Req → Bool)
    (path : String) (r : Req) : Handled :=
  let paths := splitPath path.data
  if paths.length < 1 then .respond 501 "endpoint is not supported"
  else
    match paths[1]? with
    | none => .panic "runtime error: index out of range [1] with length 1"
    | some segment =>
      if segment = "api-docs" ∨ segment = "healthcheck" then .next
      else if clientKinds.any fun k => isClient k r && isAuthorized k r then .next
      else .respond 401 "unauthorized requests"

section Auth

variable {Req : Type} (isClient isAuthorized : ClientKind → Req → Bool) (path : String) (r : Req)

theorem authMiddleware_eq :
    authMiddleware isClient isAuthorized path r =
      match (splitPath path.data)[1]? with
      | none => .panic "runtime error: index out of range [1] with length 1"
      | some segment =>
        if segment = "api-docs" ∨ segment = "healthcheck" then .next
        else if clientKinds.any fun k => isClient k r && isAuthorized k r then .next
        else .respond 401 "unauthorized requests" := by
  have h := splitPath_ne_nil path.data
  unfold authMiddleware
  rw [if_neg (by simpa [Nat.lt_one_iff, List.length_eq_zero] using h)]

theorem authMiddleware_ne_not_supported :
    authMiddleware isClient isAuthorized path r ≠ .respond 501 "endpoint is not supported" := by
  rw [authMiddleware_eq]
  split
  · simp
  · split_ifs <;> simp

/-- `AuthMiddleware` panics exactly on a path without a slash, and never
answers 501: `strings.Split` never returns an empty list. -/
theorem authMiddleware_panic_iff :
    ((∃ m, authMiddleware isClient isAuthorized path r = .panic m) ↔ '/' ∉ path.data) ∧
      authMiddleware isClient isAuthorized path r ≠ .respond 501 "endpoint is not supported" := by
  refine ⟨?_, authMiddleware_ne_not_supported isClient isAuthorized path r⟩
  rw [authMiddleware_eq, ← one_lt_length_splitPath_iff]
  split
  · rename_i hnone
    simp only [List.getElem?_eq_none_iff] at hnone
    simpa using hnone
  · rename_i s hs
    have : 1 < (splitPath path.data).length := (List.getElem?_eq_some_iff.1 hs).1
    split_ifs <;> simpa using this

end Auth

structure Replica where
  raftAddress : String
  address : String
deriving DecidableEq, Repr

def isWrite (method : String) : Bool :=
  method = "POST" || method = "DELETE" || method = "PUT"

/-- The address of the first replica whose Raft address is `raftAddress`, or
`""`: the loop that fills `redirectUrl`. -/
def redirectUrl (replicas : List Replica) (raftAddress : String) : String :=
  ((replicas.find? fun p => p.raftAddress = raftAddress).map Replica.address).getD ""

/-- `utils.GetNodeIPWithRaftAddress` over the configured replicas. -/
def getNodeIPWithRaftAddress : List Replica → String → String
  | [], _ => ""
  | replica :: replicas, raftAddress =>
    if replica.raftAddress = raftAddress then replica.address
    else getNodeIPWithRaftAddress replicas raftAddress

theorem redirectUrl_eq_getNodeIPWithRaftAddress (replicas : List Replica) (raftAddress : String) :
    redirectUrl replicas raftAddress = getNodeIPWithRaftAddress replicas raftAddress := by
  induction replicas with
  | nil => rfl
  | cons p ps ih =>
    unfold redirectUrl at ih
    by_cases h : p.raftAddress = raftAddress <;>
      simp [redirectUrl, getNodeIPWithRaftAddress, List.find?_cons, h, ih]

/-- `EnsureRaftLeaderMiddleware`: `isLeader` is whether `raft.VerifyLeader()`
succeeds, `leaderRaftAddress` what `raft.LeaderWithID()` reports. -/
def ensureRaftLeaderMiddleware (isLeader : Bool) (leaderRaftAddress : String)
    (replicas : List Replica) (method : String) : Handled :=
  if !isLeader && isWrite method then
    let url := redirectUrl replicas leaderRaftAddress
    if url = "" then .fatal "failed to get redirect url from replicas"
    else .redirect url 301
  else .next

end Scheduler0.Middlewares
