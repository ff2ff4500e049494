import Complyx.Distribution.RowOrder
import Complyx.Grpc.AgentService

namespace Complyx

open Transition Relational

/-!
# When an unchanged database has one hash

The hash is meant to cover the content of the bundle and nothing else, and to
tell an agent that nothing changed.  It covers the order of the policies and of
the sections of a check too, and where the database leaves that order open, two
polls of the same content may be answered with two hashes.  That happens exactly
where there is something to order.
-/

/-- The hash the agent has after the answer. -/
def PollResponse.heldHash (request : PollRequest)
    (response : PollResponse) : String :=
  (response.bundle.map PolicyBundle.bundleHash).getD request.policyBundleHash

/-- The hash depends on the content of the database alone, and an agent that
polls again with the hash it was given learns that nothing changed. -/
structure StableHash (service : AgentServiceImpl) (db : Db)
    (agentId : Uuid) : Prop where
  sameHash :
    forall {envs envs' : Nat -> Env} {bundle bundle' : PolicyBundle}
      {left left' : Db},
    Program.run exec (service.distributor.resolveForAgent agentId) envs db =
      (.ok bundle, left) ->
    Program.run exec (service.distributor.resolveForAgent agentId) envs' db =
      (.ok bundle', left') ->
    bundle.bundleHash = bundle'.bundleHash
  unchanged :
    forall {request again : PollRequest} {envs envs' : Nat -> Env}
      {response response' : PollResponse}
    {left left' : Db},
      Program.run exec (service.pollPolicies (some ⟨agentId⟩) request) envs db =
    (.ok response, left) ->
    again.policyBundleHash = response.heldHash request ->
    Program.run exec (service.pollPolicies (some ⟨agentId⟩) again) envs' left =
      (.ok response', left') ->
    response'.policiesChanged = false

/-! ## One poll -/

section Poll

variable {service : AgentServiceImpl} {db : Db} {agentId : Uuid}

/-- Noting a connection has no influence on the policies. -/
theorem resolves_of_noted {distributor : PolicyDistributor} {env : Env}
    {policies : List Policy}
    (resolves :
      Resolves distributor
        (Program.perform exec env (.updateLatestConnection agentId) db).2 agentId
        policies) :
    Resolves distributor db agentId policies := by
  rcases perform_cases env (.updateLatestConnection agentId) db with
    ⟨failure, performed⟩ | ⟨_, _, _, effect, performed⟩
  · rw [performed] at resolves
    exact resolves
  · cases effect
    rw [performed] at resolves
    rcases resolves with ⟨directOrder, groupedOrder, loads⟩
    refine .loaded directOrder groupedOrder
      (loads.imp fun policyId rows loaded => ?_)
    cases loaded with
    | missing absent => exact .missing absent
    | found present order => exact .found present order

/-- A poll that is answered resolved the policies, and leaves no others to
resolve. -/
theorem run_pollPolicies_ok {request : PollRequest} {envs : Nat -> Env}
    {response : PollResponse} {left : Db}
    (polled : Program.run exec (service.pollPolicies (some ⟨agentId⟩) request)
      envs db = (.ok response, left)) :
    (Exists fun policies => Resolves service.distributor db agentId policies ∧
      response =
        pollAnswer request (sealed service.distributor.sha256 policies)) ∧
    forall policies, Resolves service.distributor left agentId policies ->
      Resolves service.distributor db agentId policies := by
  rw [run_pollPolicies, run_resolvePolicies] at polled
  dsimp only at polled
  cases resolved :
      Program.run exec (service.distributor.resolveForAgent agentId)
        (fun n => envs (n + 1))
      (Program.perform exec (envs 0) (.updateLatestConnection agentId) db).2 with
  | mk answer after =>
      rw [resolved] at polled
      cases answer with
      | error failure => cases congrArg Prod.fst polled
      | ok bundle =>
          cases polled
          rcases run_resolveForAgent_ok resolved with
            ⟨rfl, policies, resolves, rfl⟩
          exact ⟨⟨policies, resolves_of_noted resolves, rfl⟩, fun _ =>
            resolves_of_noted⟩

/-- The hash an agent has after a poll is that of the bundle resolved. -/
theorem heldHash_pollAnswer (request : PollRequest) (bundle : PolicyBundle) :
    (pollAnswer request bundle).heldHash request = bundle.bundleHash := by
  rw [pollAnswer]
  split
  · next same => exact same.symm
  · rfl

end Poll

/-- As long as the texts of the bundles of the agent have different digests,
the hash is stable exactly if at most one existing policy is assigned to the
agent directly, at most one more through groups, and their checks have at most
one section each. -/
theorem stableHash_iff_oneOrder (service : AgentServiceImpl) (db : Db)
    (agentId : Uuid)
    (free : CollisionFree service.distributor.sha256
      (Set.image hashedText
        {policies | Resolves service.distributor db agentId policies})) :
    StableHash service db agentId <-> OneOrder db agentId := by
  constructor
  · intro stable
    refine oneOrder_of_resolved service.distributor fun policies resolves => ?_
    rcases exists_run_resolveForAgent resolves with ⟨envs, ran⟩
    have stored := resolves_storedOrder service.distributor db agentId
    rcases exists_run_resolveForAgent stored with ⟨envs', ran'⟩
    have sameHash := stable.sameHash ran ran'
    exact (sealed_hash_inj free ⟨_, resolves, rfl⟩ ⟨_, stored, rfl⟩).mp sameHash
  · intro one
    refine ⟨?_, ?_⟩
    · intro envs envs' bundle bundle' left left' ran ran'
      rcases (run_resolveForAgent_ok ran).2 with ⟨policies, resolves, rfl⟩
      rcases (run_resolveForAgent_ok ran').2 with ⟨policies', resolves', rfl⟩
      rw [one.resolved resolves, one.resolved resolves']
    · intro request again envs envs' response response' left left' polled
        held polledAgain
      rcases run_pollPolicies_ok polled with
        ⟨⟨policies, resolves, rfl⟩, unchanged⟩
      rcases (run_pollPolicies_ok polledAgain).1 with ⟨policies', resolves', rfl⟩
      rw [heldHash_pollAnswer, one.resolved resolves,
        ← one.resolved (unchanged _ resolves')] at held
      rw [pollAnswer, if_pos held.symm]

theorem office_oneOrder : OneOrder officeDb 9 := by
  refine ⟨by decide, by decide, ?_⟩
  intro check _ _ first firstMember _ second secondMember _
  rw [List.mem_singleton.mp firstMember, List.mem_singleton.mp secondMember]

theorem office_hash_stable :
    CollisionFree officeDistributor.sha256 (Set.image hashedText
      {policies | Resolves officeDistributor officeDb 9 policies}) ∧
      StableHash ⟨officeDistributor⟩ officeDb 9 := by
  have free : CollisionFree officeDistributor.sha256
      (Set.image hashedText
        {policies | Resolves officeDistributor officeDb 9 policies}) := by
    rintro _ ⟨policies, resolves, rfl⟩ _ ⟨policies', resolves', rfl⟩ _
    rw [office_oneOrder.resolved resolves, office_oneOrder.resolved resolves']
  exact ⟨free,
    (stableHash_iff_oneOrder ⟨officeDistributor⟩ officeDb 9 free).mpr
    office_oneOrder⟩

/-- The office with both policies assigned to the agent itself. -/
def directDb : Db :=
  { officeDb with agentPolicies := ⟨[⟨9, 21⟩, ⟨9, 22⟩], by decide⟩ }

theorem recordedSha256_swapped :
    recordedSha256 (hashedText [sshPolicy, auditPolicy]) ≠ recordedSha256
      (hashedText [auditPolicy, sshPolicy]) := by
  have swapped :
      hashedText [auditPolicy, sshPolicy] ≠
        hashedText [sshPolicy, auditPolicy] := by
    intro same
    have versions :=
      congrArg (List.map Policy.version) (hashedText_injective same)
    exact absurd versions (by decide)
  rw [recordedSha256, if_pos rfl, recordedSha256, if_neg swapped, if_pos rfl]
  decide

/-- Both orders of the two policies are resolved. -/
theorem directDb_resolves {direct : List Uuid} (order : direct.Perm [21, 22]) :
    Resolves officeDistributor directDb 9
      ((distinctOn id (direct ++ [21, 22])).filterMap
      (resolvedPolicy officeDistributor directDb fun policyId =>
        regulationSections policyId directDb)) :=
  resolves_of_orders order (List.Perm.refl [21, 22]) fun _ => List.Perm.refl _

/-- The two policies of the agent itself come in two orders, with two hashes. -/
theorem direct_hash_unstable : ¬ StableHash ⟨officeDistributor⟩ directDb 9 := by
  intro stable
  have resolves :
      Resolves officeDistributor directDb 9 [sshPolicy, auditPolicy] :=
        directDb_resolves (List.Perm.refl _)
  have swapped : Resolves officeDistributor directDb 9 [auditPolicy, sshPolicy] :=
    directDb_resolves (List.Perm.swap 21 22 [])
  rcases exists_run_resolveForAgent resolves with ⟨envs, ran⟩
  rcases exists_run_resolveForAgent swapped with ⟨envs', ran'⟩
  have sameHash := stable.sameHash ran ran'
  exact recordedSha256_swapped (Digest.toHex_injective sameHash)

end Complyx
