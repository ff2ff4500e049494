import Complyx.Ingest.Ingester
import Complyx.Transition.Knowledge

namespace Complyx

open Transition

/-!
# What the trigger does with a lookup

The trigger inserts a risk right after the lookup of its pair found none, and
closes the one the lookup before has found.  In both cases the lookup is a
statement of its own.
-/

/-- A lookup of an open risk, and what it was answered. -/
structure RiskLookup where
  agentId : Uuid
  threatId : Uuid
  found : Option Uuid
  deriving DecidableEq

/-- The risk a statement inserts, if it is one that does. -/
def Stmt.insertedRisk : Stmt -> Option InsertRiskData
  | .insertRisk data => some data
  | _ => none

/-- The risk a statement closes, if it is one that does. -/
def Stmt.closedRisk : Stmt -> Option Uuid
  | .setRiskStatus riskId .closed => some riskId
  | _ => none

def Stmt.looksForRisk : Stmt -> Bool
  | .findOpenRisk _ _ => true
  | _ => false

def noteLookup (_ : Option RiskLookup) :
    (stmt : Stmt) -> Except DbError stmt.Res -> Option RiskLookup
  | .findOpenRisk agentId threatId, .ok found => some ⟨agentId, threatId, found⟩
  | _, _ => none

/-- A statement of the trigger that relies on the last statement. -/
structure ActsOnLookup (last : Option RiskLookup) (stmt : Stmt) : Prop where
  trigger : TriggerStmt stmt
  inserts : forall data, stmt.insertedRisk = some data ->
    last = some ⟨data.agentId, data.threatId, none⟩
  closes : forall riskId, stmt.closedRisk = some riskId ->
    Exists fun lookup => last = some lookup ∧ lookup.found = some riskId

theorem actsOnLookup_listThreats (last : Option RiskLookup) :
    ActsOnLookup last .listThreats := by
  constructor
  · exact TriggerStmt.listThreats
  · intro data impossible
    cases impossible
  · intro riskId impossible
    cases impossible

theorem actsOnLookup_findOpenRisk (last : Option RiskLookup)
    (agentId threatId : Uuid) :
    ActsOnLookup last (.findOpenRisk agentId threatId) := by
  constructor
  · exact TriggerStmt.findOpenRisk agentId threatId
  · intro data impossible
    cases impossible
  · intro riskId impossible
    cases impossible

theorem actsOnLookup_insertRisk (data : InsertRiskData) :
    ActsOnLookup (some ⟨data.agentId, data.threatId, none⟩)
      (.insertRisk data) := by
  constructor
  · exact TriggerStmt.insertRisk data
  · intro inserted same
    rw [Option.some.inj same]
  · intro riskId impossible
    cases impossible

theorem actsOnLookup_close (agentId threatId riskId : Uuid) :
    ActsOnLookup (some ⟨agentId, threatId, some riskId⟩)
      (.setRiskStatus riskId .closed) := by
  constructor
  · exact TriggerStmt.close riskId
  · intro data impossible
    cases impossible
  · intro closed same
    exact ⟨_, rfl, same⟩

abbrev Attends {α : Type} (program : Code (Fault IngesterError) α)
    (last : Option RiskLookup) : Prop :=
  program.Follows noteLookup ActsOnLookup last

/-- The insertion follows a lookup of its pair that found none. -/
theorem maybeCreateRisk_attends (agentId : Uuid) (severity : String)
    (last : Option RiskLookup) :
    Attends (maybeCreateRisk agentId severity) last := by
  apply Program.follows_bind
  · exact Program.follows_attempt _ (actsOnLookup_listThreats last)
  intro threats last
  split
  · trivial
  · next threat _ =>
    apply Program.follows_attempt_bind _
      (actsOnLookup_findOpenRisk last agentId threat.id)
    intro existing
    cases existing with
    | some riskId => trivial
    | none =>
        apply Program.follows_bind
        · apply Program.follows_attempt
          exact actsOnLookup_insertRisk (riskData agentId threat severity)
        · intro riskId last
          trivial

/-- The loop closes the risk that the statement before has found. -/
theorem closeFirstOpen_attends (agentId : Uuid) (threats : List ThreatRow)
    (last : Option RiskLookup) :
    Attends (closeFirstOpen agentId threats) last := by
  induction threats generalizing last with
  | nil => trivial
  | cons threat rest ih =>
      unfold closeFirstOpen
      split
      · exact ih last
      · apply Program.follows_attempt_bind _
          (actsOnLookup_findOpenRisk last agentId threat.id)
        intro existing
        cases existing with
        | none => exact ih _
        | some riskId =>
            apply Program.follows_bind
            · exact Program.follows_attempt _
                (actsOnLookup_close agentId threat.id riskId)
            · intro nothing last
              trivial

theorem handleResult_attends (agentId : Uuid) (severities : CheckSeverities)
    (result : CheckResult) (last : Option RiskLookup) :
    Attends (handleResult agentId severities result) last := by
  unfold handleResult
  dsimp only
  split
  · apply Program.follows_bind (maybeCreateRisk_attends agentId _ last)
    intro made last
    trivial
  · split
    · apply Program.follows_bind
      · apply Program.follows_bind
        · exact Program.follows_attempt _ (actsOnLookup_listThreats last)
        · exact closeFirstOpen_attends agentId
      · intro did last
        trivial
    · trivial

theorem evaluateFrom_attends (agentId : Uuid) (severities : CheckSeverities)
    (summary : RiskTriggerSummary) (results : List CheckResult)
    (last : Option RiskLookup) :
    Attends (evaluateFrom agentId severities summary results) last := by
  induction results generalizing summary last with
  | nil => trivial
  | cons result rest ih =>
      apply Program.follows_bind
        (handleResult_attends agentId severities result last)
      intro change last
      exact ih _ last

/-! ## A whole ingestion -/

/-- A statement of the trigger, or one that does not write risks. -/
def IngestStmt (last : Option RiskLookup) (stmt : Stmt) : Prop :=
  stmt.writesRisks = false ∨ ActsOnLookup last stmt

theorem ingestStmt_of_readonly (last : Option RiskLookup) {stmt : Stmt}
    (readonly : stmt.writesRisks = false) : IngestStmt last stmt :=
  Or.inl readonly

theorem ingest_attends (ingester : ResultIngester) (call : IngestCall)
    (last : Option RiskLookup) :
    (ingester.ingest call).Follows noteLookup IngestStmt last := by
  unfold ResultIngester.ingest
  split
  · trivial
  apply Program.follows_bind
  · have issues : (ingester.validate call).Issues fun stmt =>
        stmt.writesRisks = false :=
      validateBatch_issues (fun _ _ => rfl) _ _ _ _ _
    have kept : forall (_ : Option RiskLookup) (stmt : Stmt),
        Except DbError stmt.Res -> True -> True := fun _ _ _ => id
    exact Program.follows_of_issues kept
      (fun last _ _ => ingestStmt_of_readonly last) trivial issues
  intro report last
  dsimp only
  split
  · trivial
  apply Program.follows_bind (Program.follows_lift _ last)
  intro rows last
  apply Program.follows_bind
  · exact Program.follows_attempt _ (ingestStmt_of_readonly last rfl)
  intro inserted last
  apply Program.follows_bind
  · apply Program.follows_bind
    · exact Program.follows_attempt _ (ingestStmt_of_readonly last rfl)
    intro scores last
    trivial
  intro scoresUpdated last
  apply Program.follows_bind
  · exact (evaluateFrom_attends call.agentId call.checkSeverities {}
      report.valid last).mono
      fun _ _ => Or.inr
  intro riskSummary last
  trivial

end Complyx
