import Complyx.Distribution.Accepted
import Complyx.Grpc.AgentService
import Complyx.Transition.Run

namespace Complyx

open Transition

/-!
# Polling keeps the agent in step

An agent keeps the last bundle it was sent and polls with its hash, while the
database is edited at any time, even between two statements of a poll.  What a
poll resolved may then be a mixture of several contents.  It still is a bundle
with its own hash, so the agent has these policies after the poll: either it was
sent them, or the hashes were equal and it had them already.
-/

/-- A statement in the database as it was edited since the last one. -/
def execEdited (env : Env × (Db -> Db)) (stmt : Stmt) (db : Db) :
    Except DbError (stmt.Res × Db) :=
  exec env.1 stmt (env.2 db)

inductive SyncLabel where
  | edit (change : Db -> Db)
  | poll (envs : Nat -> Env × (Db -> Db))

/-- The database and the bundle the agent has. -/
structure SyncState where
  db : Db
  held : PolicyBundle

/-- At first the agent has no policies and sends no hash. -/
def SyncState.start (db : Db) : SyncState := ⟨db, ⟨[], ""⟩⟩

/-- The last bundle the agent was sent. -/
def PollResponse.kept (held : PolicyBundle)
    (response : PollResponse) : PolicyBundle :=
  response.bundle.getD held

section Sync

variable (service : AgentServiceImpl) (agentId : AgentId)

def SyncState.request (state : SyncState) : PollRequest where
  agentId := service.distributor.text.toText agentId.id
  policyBundleHash := state.held.bundleHash

/-- The answer to a poll and the database it leaves. -/
def SyncState.polled (state : SyncState) (envs : Nat -> Env × (Db -> Db)) :
    Except Status PollResponse × Db :=
  Program.run execEdited
    (service.pollPolicies (some agentId) (state.request service agentId))
    envs state.db

/-- The bundle the poll resolves. -/
def SyncState.resolution (state : SyncState) (envs : Nat -> Env × (Db -> Db)) :
    Except Status PolicyBundle :=
  (Program.run execEdited (service.resolvePolicies agentId.id) envs state.db).1

def SyncState.step (state : SyncState) : SyncLabel -> SyncState
  | .edit change => { state with db := change state.db }
  | .poll envs =>
      match state.polled service agentId envs with
      | (.ok response, db) => ⟨db, response.kept state.held⟩
      | (.error _, db) => { state with db := db }

/-- The policies that the label resolves. -/
def SyncState.Resolved (state : SyncState) (label : SyncLabel)
    (policies : List Policy) : Prop :=
  match label with
  | .edit _ => False
  | .poll envs =>
      Exists fun bundle => state.resolution service agentId envs = .ok bundle ∧
        policies = bundle.policies

/-- The policies that any poll of the run resolves. -/
def SyncState.ResolvedIn : SyncState -> List SyncLabel -> List Policy -> Prop
  | _, [], _ => False
  | state, label :: rest, policies =>
      state.Resolved service agentId label policies ∨
        (state.step service agentId label).ResolvedIn rest policies

/-- After a poll that is answered the agent has the policies that this poll
resolved, and it is not told that nothing changed if it had others. -/
def SyncState.InStep (state : SyncState) (label : SyncLabel) : Prop :=
  match label with
  | .edit _ => True
  | .poll envs =>
      forall response db,
        state.polled service agentId envs = (.ok response, db) ->
      Exists fun bundle => state.resolution service agentId envs = .ok bundle ∧
        (state.step service agentId label).held.policies = bundle.policies ∧
        (response.policiesChanged = false ->
          bundle.policies = state.held.policies)

/-- The agent has nothing yet, or a bundle with one of the texts and its hash. -/
def SyncState.Holds (texts : Set String) (state : SyncState) : Prop :=
  state.held = ⟨[], ""⟩ ∨ Exists fun policies => hashedText policies ∈ texts ∧
    state.held = sealed service.distributor.sha256 policies

/-! ## One poll -/

section Poll

variable {service : AgentServiceImpl} {agentId : AgentId} {state : SyncState}
  {envs : Nat -> Env × (Db -> Db)}

/-- Whatever its statements are answered, a resolution gives a bundle with its
hash. -/
theorem resolveForAgent_seals (distributor : PolicyDistributor) (agentId : Uuid) :
    (distributor.resolveForAgent agentId).Yields (fun _ _ => True) fun bundle =>
      bundle = sealed distributor.sha256 bundle.policies := by
  refine Program.yields_bind (Program.yields_true _) fun directIds _ => ?_
  refine Program.yields_bind (Program.yields_true _) fun groupIds _ => ?_
  refine Program.yields_bind (Program.yields_true _) fun groupPolicyIds _ => ?_
  dsimp only
  split
  · exact rfl
  · exact Program.yields_bind (Program.yields_true _) fun bundles _ => rfl

theorem resolution_seals {bundle : PolicyBundle}
    (resolved : state.resolution service agentId envs = .ok bundle) :
    bundle = sealed service.distributor.sha256 bundle.policies := by
  rw [SyncState.resolution, run_resolvePolicies] at resolved
  dsimp only at resolved
  cases ran :
      Program.run execEdited (service.distributor.resolveForAgent agentId.id)
        (fun n => envs (n + 1))
      (Program.perform execEdited (envs 0) (.updateLatestConnection agentId.id)
          state.db).2 with
  | mk answer left =>
      rw [ran] at resolved
      cases answer with
      | error failure => cases resolved
      | ok value =>
          cases resolved
          exact Program.run_yields_anyhow
            (resolveForAgent_seals service.distributor agentId.id) ran

/-- A poll is answered with the bundle it resolved. -/
theorem polled_ok {response : PollResponse} {db : Db}
    (polled : state.polled service agentId envs = (.ok response, db)) :
    Exists fun bundle => state.resolution service agentId envs = .ok bundle ∧
      response = pollAnswer (state.request service agentId) bundle := by
  rw [SyncState.polled, run_pollPolicies] at polled
  rw [SyncState.resolution]
  have answered := congrArg Prod.fst polled
  dsimp only at answered
  cases resolved :
      (Program.run execEdited (service.resolvePolicies agentId.id) envs
        state.db).1 with
  | error status =>
      rw [resolved] at answered
      cases answered
  | ok bundle =>
      rw [resolved] at answered
      cases answered
      exact ⟨bundle, rfl, rfl⟩

/-- The agent is sent the bundle or has its policies. -/
theorem kept_pollAnswer (agentId : AgentId) {texts : Set String}
    (free : CollisionFree service.distributor.sha256 texts)
    (holds : state.Holds service texts) {policies : List Policy}
    (fresh : hashedText policies ∈ texts) :
    let response :=
      pollAnswer (state.request service agentId)
        (sealed service.distributor.sha256 policies)
    response.kept state.held = sealed service.distributor.sha256 policies ∧
      (response.policiesChanged = false -> policies = state.held.policies) := by
  unfold pollAnswer
  split
  · next same =>
    have sameHash : (sealed service.distributor.sha256 policies).bundleHash =
      state.held.bundleHash := same
    rcases holds with nothing | ⟨policies', present, held⟩
    · rw [nothing] at sameHash
      exact absurd sameHash (sealed_hash_ne_empty _ _)
    · rw [held, sealed_hash_inj free fresh present] at sameHash
      subst sameHash
      exact ⟨held, fun _ => (congrArg PolicyBundle.policies held).symm⟩
  · exact ⟨rfl, fun impossible => nomatch impossible⟩

/-- A poll whose policies have one of the texts keeps the agent in step. -/
theorem step_poll {texts : Set String}
    (free : CollisionFree service.distributor.sha256 texts)
    (holds : state.Holds service texts)
    (fresh : forall policies,
      state.Resolved service agentId (.poll envs) policies ->
        hashedText policies ∈ texts) :
    state.InStep service agentId (.poll envs) ∧
      (state.step service agentId (.poll envs)).Holds service texts := by
  cases outcome : state.polled service agentId envs with
  | mk answer left =>
      cases answer with
      | error status =>
          refine ⟨?_, ?_⟩
          · intro response db polled
            rw [outcome] at polled
            cases congrArg Prod.fst polled
          · rw [SyncState.step, outcome]
            exact holds
      | ok response =>
          rcases polled_ok outcome with ⟨bundle, resolved, rfl⟩
          have fromText := fresh bundle.policies ⟨bundle, resolved, rfl⟩
          have kept := kept_pollAnswer agentId free holds fromText
          rw [← resolution_seals resolved] at kept
          have held :
              (state.step service agentId (.poll envs)).held = bundle := by
            rw [SyncState.step, outcome]
            exact kept.1
          refine ⟨?_,
            Or.inr
            ⟨bundle.policies, fromText, held.trans (resolution_seals resolved)⟩⟩
          intro response db polled
          rw [outcome] at polled
          cases polled
          exact ⟨bundle, resolved, congrArg PolicyBundle.policies held, kept.2⟩

/-- The invariant along a run: what the agent has comes from one of the texts. -/
theorem meets_inStep {texts : Set String}
    (free : CollisionFree service.distributor.sha256 texts)
    {labels : List SyncLabel} (holds : state.Holds service texts)
    (fresh : forall policies, state.ResolvedIn service agentId labels policies ->
      hashedText policies ∈ texts) :
    Meets (SyncState.step service agentId) (SyncState.InStep service agentId)
      state labels := by
  induction labels generalizing state with
  | nil => trivial
  | cons label rest ih =>
      have later :
          forall policies,
            (state.step service agentId label).ResolvedIn service agentId
            rest policies ->
          hashedText policies ∈ texts :=
            fun policies resolved => fresh policies (Or.inr resolved)
      cases label with
      | edit change => exact ⟨trivial, ih holds later⟩
      | poll envs =>
          have stepped := step_poll free holds fun policies resolved =>
            fresh policies (Or.inl resolved)
          exact ⟨stepped.1, ih stepped.2 later⟩

end Poll

/-- Along every run of edits and polls the agent stays in step, as long as the
texts of the bundles resolved have different digests. -/
theorem polling_keeps_in_step (db : Db) (labels : List SyncLabel)
    (free : CollisionFree service.distributor.sha256
      (Set.image hashedText
        {policies | (SyncState.start db).ResolvedIn service agentId labels
          policies})) :
    Meets (SyncState.step service agentId) (SyncState.InStep service agentId)
      (SyncState.start db) labels :=
  meets_inStep free (Or.inl rfl) fun policies resolved =>
    ⟨policies, resolved, rfl⟩

end Sync

/-- The agent of the office polls, leaves its group and its policies and polls
twice more. -/
def officeRun : List SyncLabel :=
  [.poll fun n => (quietly 0 n, id), .edit fun db =>
    { db with agentGroupMembership := .empty, agentPolicies := .empty },
    .poll fun n => (quietly 0 n, id), .poll fun n => (quietly 0 n, id)]

theorem officeRun_resolved {policies : List Policy}
    (resolved : (SyncState.start officeDb).ResolvedIn ⟨officeDistributor⟩
      ⟨9⟩ officeRun policies) :
    policies = [sshPolicy, auditPolicy] ∨ policies = [] := by
  rcases resolved with
    ⟨bundle, first, rfl⟩ | impossible | ⟨bundle, second, rfl⟩ | ⟨bundle, third,
      rfl⟩ | impossible
  · cases first
    exact Or.inl rfl
  · cases impossible
  · cases second
    exact Or.inr rfl
  · cases third
    exact Or.inr rfl
  · cases impossible

theorem recordedSha256_empty :
    recordedSha256 (hashedText [sshPolicy, auditPolicy]) ≠ recordedSha256
      (hashedText []) := by
  have some : hashedText [] ≠ hashedText [sshPolicy, auditPolicy] := by
    intro same
    cases hashedText_injective same
  have swapped : hashedText [] ≠ hashedText [auditPolicy, sshPolicy] := by
    intro same
    cases hashedText_injective same
  rw [recordedSha256, if_pos rfl, recordedSha256, if_neg some, if_neg swapped]
  decide

theorem officeRun_in_step :
    CollisionFree officeDistributor.sha256 (Set.image hashedText
      {policies | (SyncState.start officeDb).ResolvedIn ⟨officeDistributor⟩
        ⟨9⟩ officeRun policies}) ∧
    Meets (SyncState.step ⟨officeDistributor⟩ ⟨9⟩)
      (SyncState.InStep ⟨officeDistributor⟩ ⟨9⟩) (SyncState.start officeDb)
      officeRun := by
  have free : CollisionFree officeDistributor.sha256 (Set.image hashedText
      {policies | (SyncState.start
        officeDb).ResolvedIn ⟨officeDistributor⟩ ⟨9⟩ officeRun policies}) := by
    rintro _ ⟨policies, resolved, rfl⟩ _ ⟨policies', resolved', rfl⟩ same
    rw [officeDistributor_sha256, officeDistributor_sha256] at same
    rcases officeRun_resolved resolved with rfl | rfl
    · rcases officeRun_resolved resolved' with rfl | rfl
      · rfl
      · exact absurd same recordedSha256_empty
    · rcases officeRun_resolved resolved' with rfl | rfl
      · exact absurd same.symm recordedSha256_empty
      · rfl
  exact ⟨free,
    polling_keeps_in_step ⟨officeDistributor⟩ ⟨9⟩ officeDb officeRun free⟩

end Complyx
