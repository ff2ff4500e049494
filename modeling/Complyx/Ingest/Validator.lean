import Complyx.Db.Statement
import Complyx.Transition.Outcomes

namespace Complyx

open Transition

/-!
# Validation of submitted results

A result passes three stages.  Its time is compared with the tolerated window,
its check identifier is parsed, and the parsed identifiers are looked up in
the policies of the agent.  The lookup answers with identifiers, and the last
stage compares their written form with the text the agent sent.
-/

inductive IngesterError where
  | database (cause : DbError)
  deriving DecidableEq, Repr

def ingesterFault (cause : DbError) : Fault IngesterError :=
  .error (.database cause)

/-- The message `CheckResult`. -/
structure CheckResult where
  checkId : String
  passed : Bool
  detail : String
  executedAt : Int
  actualValue : String
  expectedValue : String
  deriving DecidableEq

structure TimestampBounds where
  maxFutureSecs : Int
  maxPastSecs : Int

/-- One minute ahead, twenty-four hours back. -/
def TimestampBounds.default : TimestampBounds where
  maxFutureSecs := 60
  maxPastSecs := 24 * 3600

structure RejectedResult where
  checkId : String
  reason : String
  deriving DecidableEq

structure ValidationReport where
  valid : List CheckResult
  rejected : List RejectedResult
  deriving DecidableEq

/-! ## Times -/

/-- `validate_timestamp`: why the time is refused, if it is. -/
def validateTimestamp (executedAtUnix : Int) (now : DateTime)
    (bounds : TimestampBounds) :
    Except (Fault IngesterError) (Option String) :=
  match DateTime.fromTimestamp executedAtUnix with
  | none => .ok (some ("timestamp unix invalido: " ++ toString executedAtUnix))
  | some executedAt => do
      let tolerated <- DateTime.durationSeconds bounds.maxFutureSecs
      let maxFuture <- now.add tolerated
      if executedAt.nanos > maxFuture.nanos then
        return some ("timestamp " ++ executedAt.format ++
          " es del futuro (maximo tolerado: " ++
          toString bounds.maxFutureSecs ++ " segundos)")
      let age <- DateTime.durationSeconds bounds.maxPastSecs
      let minFuture <- now.sub age
      if executedAt.nanos < minFuture.nanos then
        return some ("timestamp " ++ executedAt.format ++
          " es demasiado antiguo (maximo tolerado: " ++
          toString bounds.maxPastSecs ++ " segundos)")
      return none

/-- The Unix time is a date-time within the window around the present one. -/
def InWindow (now : DateTime) (bounds : TimestampBounds)
    (executedAtUnix : Int) : Prop :=
  Exists fun time => DateTime.fromTimestamp executedAtUnix = some time ∧
    now.nanos - bounds.maxPastSecs * nanosPerSec ≤ time.nanos ∧
    time.nanos ≤ now.nanos + bounds.maxFutureSecs * nanosPerSec

theorem validateTimestamp_ok {executedAtUnix : Int} {now : DateTime}
    {bounds : TimestampBounds} {answer : Option String}
    (answered : validateTimestamp executedAtUnix now bounds = .ok answer) :
    answer = none <-> InWindow now bounds executedAtUnix := by
  unfold validateTimestamp at answered
  unfold InWindow
  cases read : DateTime.fromTimestamp executedAtUnix with
  | none =>
      rw [read] at answered
      have refused := Except.ok.inj answered
      subst answer
      constructor
      · intro impossible
        cases impossible
      · rintro ⟨time, impossible, _⟩
        cases impossible
  | some executedAt =>
      simp only [read, bind, Except.bind, pure, Except.pure] at answered
      split at answered
      · cases answered
      next tolerated ahead =>
      split at answered
      · cases answered
      next maxFuture future =>
      have latest := DateTime.add_nanos future
      rw [DateTime.durationSeconds_ok ahead] at latest
      split at answered
      · next late =>
        rw [← Except.ok.inj answered]
        constructor
        · intro impossible
          cases impossible
        · rintro ⟨time, same, _, early⟩
          cases same
          omega
      next inTime =>
      split at answered
      · cases answered
      next age back =>
      split at answered
      · cases answered
      next minFuture past =>
      have earliest := DateTime.sub_nanos past
      rw [DateTime.durationSeconds_ok back] at earliest
      split at answered
      · next old =>
        rw [← Except.ok.inj answered]
        constructor
        · intro impossible
          cases impossible
        · rintro ⟨time, same, late, _⟩
          cases same
          omega
      · next recent =>
        rw [← Except.ok.inj answered]
        refine ⟨fun _ => ⟨executedAt, rfl, ?_, ?_⟩, fun _ => rfl⟩ <;> omega

/-! ## The batch -/

/-- The accumulators of the loop over a batch. -/
structure Sorted where
  valid : List CheckResult := []
  rejected : List RejectedResult := []
  candidateCheckIds : List Uuid := []

/-- One turn of the loop. -/
def sortResult (text : UuidText) (now : DateTime) (bounds : TimestampBounds)
    (sorted : Sorted) (result : CheckResult) :
    Except (Fault IngesterError) Sorted := do
  match <- validateTimestamp result.executedAt now bounds with
  | some reason =>
      return { sorted with
        rejected := sorted.rejected ++ [⟨result.checkId, reason⟩] }
  | none =>
      match text.parse result.checkId with
      | some id =>
          return { sorted with
            candidateCheckIds := sorted.candidateCheckIds ++ [id],
            valid := sorted.valid ++ [result] }
      | none =>
          let reason := "check_id '" ++ result.checkId ++ "' no es un UUID valido"
          return { sorted with
            rejected := sorted.rejected ++ [⟨result.checkId, reason⟩] }

/-- A result refused because of the policies. -/
def unassignedResult (result : CheckResult) : RejectedResult where
  checkId := result.checkId
  reason :=
    "check_id '" ++ result.checkId ++
      "' no pertenece a ninguna política asignada a este agente"

/-- The last stage, given the identifiers the lookup reported. -/
def withoutUnassigned (text : UuidText) (sorted : Sorted)
    (invalidIds : List Uuid) : ValidationReport :=
  if invalidIds.isEmpty then ⟨sorted.valid, sorted.rejected⟩
  else
    let invalidSet := invalidIds.map text.toText
    let (stillValid, newlyRejected) := sorted.valid.partition fun result =>
      result.checkId ∉ invalidSet
    ⟨stillValid, sorted.rejected ++ newlyRejected.map unassignedResult⟩

/-- `validate_batch`. -/
def validateBatch (text : UuidText) (now : DateTime) (bounds : TimestampBounds)
    (agentId : Uuid) (results : List CheckResult) :
    Code (Fault IngesterError) ValidationReport :=
  if results.isEmpty then return ⟨[], []⟩
  else do
    let sorted <- Program.lift (results.foldlM (sortResult text now bounds) {})
    if sorted.valid.isEmpty then return ⟨sorted.valid, sorted.rejected⟩
    else
      let invalidIds <- Program.attempt ingesterFault
        (Stmt.validateCheckIdsForAgent agentId sorted.candidateCheckIds)
      return withoutUnassigned text sorted invalidIds

/-- The lookup is the only statement of a validation. -/
theorem validateBatch_issues {allowed : Stmt -> Prop}
    (lookup : forall agentId checkIds,
      allowed (.validateCheckIdsForAgent agentId checkIds))
    (text : UuidText) (now : DateTime) (bounds : TimestampBounds) (agentId : Uuid)
    (results : List CheckResult) :
    (validateBatch text now bounds agentId results).Issues allowed := by
  unfold validateBatch
  split
  · trivial
  · apply Program.issues_bind (Program.issues_lift _)
    intro sorted
    split
    · trivial
    · exact Program.issues_bind (Program.issues_attempt _ (lookup _ _))
        fun invalidIds => trivial

section Report

variable {text : UuidText} {now : DateTime} {bounds : TimestampBounds}

/-- The result passes the first two stages under the identifier. -/
structure Candidate (text : UuidText) (now : DateTime) (bounds : TimestampBounds)
    (result : CheckResult) (id : Uuid) : Prop where
  inWindow : InWindow now bounds result.executedAt
  parsed : text.parse result.checkId = some id

/-- The result passes the first two stages. -/
def isCandidate (text : UuidText) (now : DateTime) (bounds : TimestampBounds)
    (result : CheckResult) : Bool :=
  match validateTimestamp result.executedAt now bounds with
  | .ok none => (text.parse result.checkId).isSome
  | _ => false

theorem isCandidate_iff {result : CheckResult} (answer : Option String)
    (checked : validateTimestamp result.executedAt now bounds = .ok answer) :
    isCandidate text now bounds result = true <-> Exists fun id =>
      Candidate text now bounds result id := by
  have window := validateTimestamp_ok checked
  unfold isCandidate
  rw [checked]
  cases answer with
  | some reason =>
      refine iff_of_false (fun impossible => nomatch impossible) ?_
      rintro ⟨id, candidate⟩
      cases window.mpr candidate.inWindow
  | none =>
      rw [Option.isSome_iff_exists]
      exact exists_congr fun id =>
        ⟨fun parsed => ⟨window.mp rfl, parsed⟩, fun candidate => candidate.parsed⟩

/-- What one turn does with a result. -/
inductive SortTurn (text : UuidText) (now : DateTime) (bounds : TimestampBounds)
    (sorted : Sorted) (result : CheckResult) : Sorted -> Prop where
  | refused (reason : String) (no : isCandidate text now bounds result = false)
      (none : forall id, ¬ Candidate text now bounds result id) :
      SortTurn text now bounds sorted result
        { sorted with rejected := sorted.rejected ++ [⟨result.checkId, reason⟩] }
  | kept (id : Uuid) (yes : isCandidate text now bounds result = true)
    (candidate : Candidate text now bounds result id) :
      SortTurn text now bounds sorted result
        { sorted with
          candidateCheckIds := sorted.candidateCheckIds ++ [id],
          valid := sorted.valid ++ [result] }

theorem sortResult_turn {sorted next : Sorted} {result : CheckResult}
    (turned : sortResult text now bounds sorted result = .ok next) :
    SortTurn text now bounds sorted result next := by
  rcases bind_eq_ok.mp turned with ⟨answer, checked, turned⟩
  have candidates : isCandidate text now bounds result = true <->
    Exists fun id => Candidate text now bounds result id :=
    isCandidate_iff answer checked
  have dropped : forall reason, isCandidate text now bounds result = false ->
    SortTurn text now bounds sorted result
      { sorted with
        rejected := sorted.rejected ++ [⟨result.checkId, reason⟩] } := by
    intro reason no
    refine SortTurn.refused reason no fun id candidate => ?_
    rw [candidates.mpr ⟨id, candidate⟩] at no
    cases no
  cases answer with
  | some reason =>
      cases turned
      apply dropped
      rw [isCandidate, checked]
  | none =>
      simp only at turned
      cases parsed : text.parse result.checkId with
      | none =>
          rw [parsed] at turned
          cases turned
          apply dropped
          rw [isCandidate, checked, parsed]
          rfl
      | some id =>
          rw [parsed] at turned
          cases turned
          have candidate : Candidate text now bounds result id :=
            ⟨(validateTimestamp_ok checked).mp rfl, parsed⟩
          exact SortTurn.kept id (candidates.mpr ⟨id, candidate⟩) candidate

/-- What the loop has collected after the given results. -/
structure Collected (text : UuidText) (now : DateTime) (bounds : TimestampBounds)
    (before after : Sorted) (results : List CheckResult) : Prop where
  valid : forall result, result ∈ after.valid <-> result ∈ before.valid ∨
    result ∈ results ∧ Exists fun id => Candidate text now bounds result id
  ids : forall id, id ∈ after.candidateCheckIds <->
    id ∈ before.candidateCheckIds ∨
    Exists fun result => result ∈ results ∧ Candidate text now bounds result id

theorem sortResult_collected {sorted next : Sorted} {result : CheckResult}
    (turned : sortResult text now bounds sorted result = .ok next) :
    Collected text now bounds sorted next [result] := by
  cases sortResult_turn turned with
  | refused reason no none =>
      constructor
      · intro other
        refine ⟨Or.inl, ?_⟩
        rintro (before | ⟨single, id, candidate⟩)
        · exact before
        · rw [List.mem_singleton.mp single] at candidate
          exact absurd candidate (none id)
      · intro id
        refine ⟨Or.inl, ?_⟩
        rintro (before | ⟨other, single, candidate⟩)
        · exact before
        · rw [List.mem_singleton.mp single] at candidate
          exact absurd candidate (none id)
  | kept id yes candidate =>
      constructor
      · intro other
        rw [List.mem_append]
        refine or_congr_right ⟨fun single => ⟨single, id, ?_⟩, And.left⟩
        rw [List.mem_singleton.mp single]
        exact candidate
      · intro other
        rw [List.mem_append]
        refine or_congr_right
          ⟨fun single => ⟨result, List.mem_singleton_self _, ?_⟩, ?_⟩
        · rw [List.mem_singleton.mp single]
          exact candidate
        · rintro ⟨chosen, single, found⟩
          have parsedOther := found.parsed
          rw [List.mem_singleton.mp single, candidate.parsed] at parsedOther
          exact List.mem_singleton.mpr (Option.some.inj parsedOther).symm

/-- A batch that is sorted is sorted result by result. -/
theorem sorted_cons {before after : Sorted} {result : CheckResult}
    {rest : List CheckResult}
    (turned : (result :: rest).foldlM (sortResult text now bounds) before =
      .ok after) :
    Exists fun middle => sortResult text now bounds before result = .ok middle ∧
      rest.foldlM (sortResult text now bounds) middle = .ok after := by
  rw [List.foldlM_cons] at turned
  exact bind_eq_ok.mp turned

theorem sorted_collected {before after : Sorted} {results : List CheckResult}
    (turned : results.foldlM (sortResult text now bounds) before = .ok after) :
    Collected text now bounds before after results := by
  induction results generalizing before with
  | nil =>
      have same := Except.ok.inj turned
      subst after
      constructor
      · intro result
        refine ⟨Or.inl, ?_⟩
        rintro (old | ⟨impossible, _⟩)
        · exact old
        · cases impossible
      · intro id
        refine ⟨Or.inl, ?_⟩
        rintro (old | ⟨result, impossible, _⟩)
        · exact old
        · cases impossible
  | cons result rest ih =>
      rcases sorted_cons turned with ⟨middle, first, later⟩
      have head := sortResult_collected first
      have tail := ih later
      constructor
      · intro other
        rw [tail.valid, head.valid, List.mem_singleton, List.mem_cons, or_assoc,
          or_and_right]
      · intro id
        rw [tail.ids, head.ids, or_assoc]
        refine or_congr_right ⟨?_, ?_⟩
        · rintro (⟨other, single, candidate⟩ | ⟨other, member, candidate⟩)
          · exact ⟨other,
              List.mem_cons.mpr (Or.inl (List.mem_singleton.mp single)),
              candidate⟩
          · exact ⟨other, List.mem_cons_of_mem _ member, candidate⟩
        · rintro ⟨other, member, candidate⟩
          rcases List.mem_cons.mp member with here | later
          · exact Or.inl ⟨other, List.mem_singleton.mpr here, candidate⟩
          · exact Or.inr ⟨other, later, candidate⟩

/-- Looking the text up among written identifiers finds the one it spells, if
it spells it the way it is written. -/
theorem mem_written_iff {ids : List Uuid} {input : String} {id : Uuid}
    (parsed : text.parse input = some id) :
    input ∈ ids.map text.toText <-> id ∈ ids ∧ input = text.toText id := by
  rw [List.mem_map]
  constructor
  · rintro ⟨other, member, same⟩
    rw [← same, text.parse_toText] at parsed
    have sameId := Option.some.inj parsed
    subst other
    exact ⟨member, same.symm⟩
  · rintro ⟨member, written⟩
    exact ⟨id, member, written.symm⟩

theorem mem_withoutUnassigned {sorted : Sorted} {invalidIds : List Uuid}
    {result : CheckResult} :
    result ∈ (withoutUnassigned text sorted invalidIds).valid <->
      result ∈ sorted.valid ∧ result.checkId ∉ invalidIds.map text.toText := by
  unfold withoutUnassigned
  split
  · next nothing =>
    rw [List.isEmpty_iff.mp nothing]
    exact ⟨fun member => ⟨member, List.not_mem_nil⟩, And.left⟩
  · simp only [List.partition_eq_filter_filter, List.mem_filter,
      decide_eq_true_eq]

/-- Which candidates survive the last stage. -/
private theorem survives_iff {db : Db} {agentId : Uuid} {sorted : Sorted}
    {results : List CheckResult}
    (collected : Collected text now bounds {} sorted results)
    {result : CheckResult} {id : Uuid} (member : result ∈ results)
    (candidate : Candidate text now bounds result id) :
    result.checkId ∉ (validateCheckIdsForAgent agentId sorted.candidateCheckIds
      db).map text.toText <->
      Assigned db agentId id ∨ result.checkId ≠ text.toText id := by
  have requested : id ∈ sorted.candidateCheckIds :=
    (collected.ids id).mpr (Or.inr ⟨result, member, candidate⟩)
  rw [mem_written_iff candidate.parsed, mem_validateCheckIdsForAgent]
  constructor
  · intro kept
    by_cases assigned : Assigned db agentId id
    · exact Or.inl assigned
    · exact Or.inr fun written => kept ⟨⟨requested, assigned⟩, written⟩
  · rintro (assigned | respelled) ⟨⟨_, unassigned⟩, written⟩
    · exact unassigned assigned
    · exact respelled written

/-- The results of the batch that pass: the candidates whose check is assigned
to the agent or whose text is not the written form of its identifier. -/
structure Passes (text : UuidText) (now : DateTime) (bounds : TimestampBounds)
    (db : Db) (agentId : Uuid) (result : CheckResult) (id : Uuid) :
    Prop extends Candidate text now bounds result id where
  survives : Assigned db agentId id ∨ result.checkId ≠ text.toText id

/-- As long as the lookup answers from the given database, the valid results are
those that pass. -/
theorem validateBatch_yields
    {expected : (stmt : Stmt) -> Except DbError stmt.Res -> Prop} {db : Db}
    (reads : forall {agentId checkIds invalidIds},
      expected (.validateCheckIdsForAgent agentId checkIds) (.ok invalidIds) ->
      invalidIds = validateCheckIdsForAgent agentId checkIds db) (agentId : Uuid)
    (results : List CheckResult) :
    (validateBatch text now bounds agentId results).Yields expected fun report =>
      forall result,
      result ∈ report.valid <-> result ∈ results ∧ Exists fun id =>
        Passes text now bounds db agentId result id := by
  unfold validateBatch
  split
  · next empty =>
    intro result
    rw [List.isEmpty_iff.mp empty]
    exact ⟨fun impossible => absurd impossible List.not_mem_nil, fun passing =>
      absurd passing.1 List.not_mem_nil⟩
  refine Program.yields_bind (Program.yields_lift fun sorted turned => turned)
    fun sorted turned => ?_
  have collected := sorted_collected turned
  have candidates : forall result, result ∈ sorted.valid <->
      result ∈ results ∧ Exists fun id =>
        Candidate text now bounds result id := by
    intro result
    rw [collected.valid result]
    exact ⟨fun either => either.resolve_left List.not_mem_nil, Or.inr⟩
  split
  · next none =>
    have empty := List.isEmpty_iff.mp none
    intro result
    rw [empty]
    refine ⟨fun impossible => absurd impossible List.not_mem_nil, ?_⟩
    rintro ⟨member, id, passes⟩
    have kept := (candidates result).mpr ⟨member, id, passes.toCandidate⟩
    rwa [empty] at kept
  refine Program.yields_bind (Program.yields_attempt _ fun invalidIds => reads)
    fun invalidIds answered => ?_
  subst answered
  intro result
  rw [mem_withoutUnassigned, candidates result]
  constructor
  · rintro ⟨⟨member, id, candidate⟩, kept⟩
    exact ⟨member, id, candidate,
      (survives_iff collected member candidate).mp kept⟩
  · rintro ⟨member, id, passes⟩
    exact ⟨⟨member, id, passes.toCandidate⟩,
      (survives_iff collected member passes.toCandidate).mpr passes.survives⟩

/-- The lookup is answered from the database. -/
def LookupAnswer (db : Db) : (stmt : Stmt) -> Except DbError stmt.Res -> Prop
  | .validateCheckIdsForAgent agentId checkIds, .ok invalidIds =>
      invalidIds = validateCheckIdsForAgent agentId checkIds db
  | _, _ => True

/-- The lookup changes nothing. -/
theorem perform_validateCheckIdsForAgent (env : Env) (agentId : Uuid)
    (checkIds : List Uuid) (db : Db) :
    (Program.perform exec env (.validateCheckIdsForAgent agentId checkIds) db).2 =
      db ∧
      LookupAnswer db (.validateCheckIdsForAgent agentId checkIds)
        (Program.perform exec env
          (.validateCheckIdsForAgent agentId checkIds) db).1 := by
  rcases perform_cases env (.validateCheckIdsForAgent agentId checkIds) db with
    ⟨failure, performed⟩ | ⟨value, db', _, effect, performed⟩
  · rw [performed]
    exact ⟨rfl, trivial⟩
  · rw [performed]
    rcases reading_same effect with ⟨sameDb, answered⟩
    exact ⟨sameDb, (Except.ok.inj answered).symm⟩

theorem validateBatch_ok {agentId : Uuid} {results : List CheckResult}
    {envs : Nat -> Env} {db db' : Db} {report : ValidationReport}
    (validated : Program.run exec (validateBatch text now bounds agentId results)
      envs db = (.ok report, db')) :
    db' = db ∧ forall result, result ∈ report.valid <->
      result ∈ results ∧ Exists fun id =>
        Passes text now bounds db agentId result id := by
  have issues : (validateBatch text now bounds agentId results).Issues fun stmt =>
      Exists fun agentId =>
      Exists fun checkIds => stmt = .validateCheckIdsForAgent agentId checkIds :=
    validateBatch_issues
      (fun agentId checkIds => ⟨agentId, checkIds, rfl⟩) _ _ _ _ _
  have reads : forall {agentId checkIds invalidIds},
      LookupAnswer db (.validateCheckIdsForAgent agentId checkIds)
        (.ok invalidIds) ->
      invalidIds = validateCheckIdsForAgent agentId checkIds db :=
        fun answered => answered
  refine Program.run_yields ?_ issues
    (validateBatch_yields reads agentId results) validated
  rintro env stmt ⟨agentId, checkIds, rfl⟩
  exact perform_validateCheckIdsForAgent env agentId checkIds db

/-! ## Every result is valid or rejected -/

/-- The loop appends the results to one list or the other. -/
structure SortedInto (text : UuidText) (now : DateTime) (bounds : TimestampBounds)
    (before after : Sorted) (results : List CheckResult) : Prop where
  valid :
    after.valid = before.valid ++ results.filter (isCandidate text now bounds)
  rejected :
    after.rejected.map RejectedResult.checkId =
      before.rejected.map RejectedResult.checkId ++
    (results.filter fun result => !isCandidate text now bounds result).map
      CheckResult.checkId

theorem sortResult_into {sorted next : Sorted} {result : CheckResult}
    (turned : sortResult text now bounds sorted result = .ok next) :
    SortedInto text now bounds sorted next [result] := by
  cases sortResult_turn turned with
  | refused reason no none =>
      constructor
      · rw [List.filter_singleton, no]
        exact (List.append_nil _).symm
      · rw [List.filter_singleton, no, List.map_append]
        rfl
  | kept id yes candidate =>
      constructor
      · rw [List.filter_singleton, yes]
        rfl
      · rw [List.filter_singleton, yes]
        exact (List.append_nil _).symm

theorem sorted_into {before after : Sorted} {results : List CheckResult}
    (turned : results.foldlM (sortResult text now bounds) before = .ok after) :
    SortedInto text now bounds before after results := by
  induction results generalizing before with
  | nil =>
      rw [← Except.ok.inj turned]
      exact ⟨(List.append_nil _).symm, (List.append_nil _).symm⟩
  | cons result rest ih =>
      rcases sorted_cons turned with ⟨middle, first, later⟩
      have head := sortResult_into first
      have tail := ih later
      constructor
      · rw [tail.valid, head.valid, List.append_assoc, ← List.filter_append,
          List.singleton_append]
      · rw [tail.rejected, head.rejected, List.append_assoc, ← List.map_append,
          ← List.filter_append, List.singleton_append]

/-- The report has the results to keep as they were sent, and an entry with the
identifier of each of the others. -/
structure Divides (results refused : List CheckResult)
    (keep : CheckResult -> Bool) (report : ValidationReport) : Prop where
  valid : report.valid = results.filter keep
  others : refused.Perm (results.filter fun result => !keep result)
  rejected :
    report.rejected.map RejectedResult.checkId = refused.map CheckResult.checkId

/-- Before the lookup the candidates are kept. -/
theorem SortedInto.divides {sorted : Sorted} {results : List CheckResult}
    (into : SortedInto text now bounds {} sorted results) :
    Divides results
      (results.filter fun result => !isCandidate text now bounds result)
        (isCandidate text now bounds)
      ⟨sorted.valid, sorted.rejected⟩ :=
  ⟨into.valid, List.Perm.refl _, into.rejected⟩

/-- After it the reported ones among them are refused as well. -/
theorem Divides.withoutUnassigned {sorted : Sorted}
    {results refused : List CheckResult} {keep : CheckResult -> Bool}
    (divides : Divides results refused keep ⟨sorted.valid, sorted.rejected⟩)
    (invalidIds : List Uuid) :
    Exists fun refused' => Divides results refused'
      (fun result => keep result &&
        !decide (result.checkId ∈ invalidIds.map text.toText))
      (withoutUnassigned text sorted invalidIds) := by
  have valid : sorted.valid = results.filter keep := divides.valid
  have rejected :
      sorted.rejected.map RejectedResult.checkId =
        refused.map CheckResult.checkId := divides.rejected
  unfold Complyx.withoutUnassigned
  split
  · next nothing =>
    rw [List.isEmpty_iff.mp nothing]
    simp only [List.map_nil, List.not_mem_nil, decide_false, Bool.not_false,
      Bool.and_true]
    exact ⟨refused, divides⟩
  generalize invalidIds.map text.toText = invalidSet
  simp only [List.partition_eq_filter_filter, decide_not, valid]
  let reported : CheckResult -> Bool :=
    fun result => decide (result.checkId ∈ invalidSet)
  refine ⟨refused ++ (results.filter keep).filter reported, ?_, ?_, ?_⟩
  · rw [List.filter_filter]
    simp only [Bool.and_comm]
  · -- The others are those refused before and the kept ones that are reported.
    have others :=
      List.filter_append_perm keep
        (results.filter fun result => !(keep result && !reported result))
    rw [List.filter_filter, List.filter_filter] at others
    refine (List.perm_append_comm.trans (List.Perm.append ?_ ?_)).trans others
    · rw [List.filter_filter]
      apply List.Perm.of_eq
      apply List.filter_congr
      intro result _
      cases keep result <;> cases reported result <;> rfl
    · refine divides.others.trans (List.Perm.of_eq ?_)
      apply List.filter_congr
      intro result _
      cases keep result <;> rfl
  · rw [List.map_append, List.map_append, List.map_map, rejected]
    simp only [Function.comp_def, Bool.not_not]
    rfl

/-- Whatever the lookup answers, the report divides the batch, and what it keeps
passed the first two stages. -/
theorem validateBatch_divided (text : UuidText) (now : DateTime)
    (bounds : TimestampBounds) (agentId : Uuid) (results : List CheckResult) :
    (validateBatch text now bounds agentId results).Yields (fun _ _ => True)
      fun report =>
      Exists fun keep : CheckResult -> Bool =>
        (Exists fun refused => Divides results refused keep report) ∧
        forall result, keep result = true ->
          isCandidate text now bounds result = true := by
  unfold validateBatch
  split
  · next empty =>
    rw [List.isEmpty_iff.mp empty]
    exact ⟨isCandidate text now bounds, ⟨[], rfl, List.Perm.refl _, rfl⟩,
      fun result candidate => candidate⟩
  refine Program.yields_bind
    (Program.yields_lift fun sorted turned => sorted_into turned)
    fun sorted into => ?_
  split
  · exact ⟨isCandidate text now bounds, ⟨_, into.divides⟩,
      fun result candidate => candidate⟩
  refine Program.yields_bind (Program.yields_true _) fun invalidIds _ => ?_
  refine ⟨_, into.divides.withoutUnassigned invalidIds, fun result kept => ?_⟩
  exact (Bool.and_eq_true_iff.mp kept).1

theorem run_validateBatch_divided {agentId : Uuid} {results : List CheckResult}
    {envs : Nat -> Env} {db db' : Db} {report : ValidationReport}
    (validated : Program.run exec (validateBatch text now bounds agentId results)
      envs db = (.ok report, db')) :
    Exists fun keep : CheckResult -> Bool =>
      (Exists fun refused => Divides results refused keep report) ∧
      forall result, keep result = true ->
        isCandidate text now bounds result = true :=
  Program.run_yields_anyhow
    (validateBatch_divided text now bounds agentId results) validated

/-- The valid results stand in the order of the batch. -/
theorem validateBatch_filter {agentId : Uuid} {results : List CheckResult}
    {envs : Nat -> Env} {db db' : Db} {report : ValidationReport}
    (validated : Program.run exec (validateBatch text now bounds agentId results)
      envs db = (.ok report, db')) :
    Exists fun keep : CheckResult -> Bool =>
      report.valid = results.filter keep := by
  rcases run_validateBatch_divided validated with ⟨keep, ⟨refused, divides⟩, _⟩
  exact ⟨keep, divides.valid⟩

theorem Divides.whole {results refused : List CheckResult}
    {keep : CheckResult -> Bool} {report : ValidationReport}
    (divides : Divides results refused keep report) :
    (report.valid ++ refused).Perm results := by
  rw [divides.valid]
  exact (divides.others.append_left _).trans
    (List.filter_append_perm keep results)

theorem Divides.length {results refused : List CheckResult}
    {keep : CheckResult -> Bool} {report : ValidationReport}
    (divides : Divides results refused keep report) :
    report.valid.length + report.rejected.length = results.length := by
  rw [← List.length_map RejectedResult.checkId, divides.rejected, List.length_map,
    ← List.length_append]
  exact divides.whole.length_eq

/-- A report accounts for every result of the batch. -/
theorem validateBatch_length {agentId : Uuid} {results : List CheckResult}
    {envs : Nat -> Env} {db db' : Db} {report : ValidationReport}
    (validated : Program.run exec (validateBatch text now bounds agentId results)
      envs db = (.ok report, db')) :
    report.valid.length + report.rejected.length = results.length := by
  rcases run_validateBatch_divided validated with ⟨keep, ⟨refused, divides⟩, _⟩
  exact divides.length

/-- Validating part of a batch, in another order or repeatedly, keeps what
validating the batch keeps. -/
theorem validateBatch_part {agentId : Uuid} {results part : List CheckResult}
    {envs envs' : Nat -> Env} {db db' db'' : Db}
    {report report' : ValidationReport}
    (validated : Program.run exec (validateBatch text now bounds agentId results)
      envs db = (.ok report, db'))
    (validated' : Program.run exec (validateBatch text now bounds agentId part)
      envs' db = (.ok report', db''))
    (inside : forall result, result ∈ part -> result ∈ results) :
    report'.valid = part.filter fun result => result ∈ report.valid := by
  rcases validateBatch_filter validated' with ⟨keep, kept⟩
  rw [kept]
  apply List.filter_congr
  intro result member
  have passing := (validateBatch_ok validated).2 result
  have passing' := (validateBatch_ok validated').2 result
  rw [kept, List.mem_filter, and_congr_right_iff] at passing'
  rw [Bool.eq_iff_iff, decide_eq_true_eq, passing, passing' member]
  exact ⟨fun passes => ⟨inside result member, passes⟩, And.right⟩

end Report

end Complyx
