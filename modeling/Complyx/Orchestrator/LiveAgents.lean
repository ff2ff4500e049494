import Complyx.Orchestrator.Monitor

namespace Complyx

open Transition

/-!
# Live agents that are marked offline

The monitor marks an agent without looking at its entry again.  If the agent was
heard of after its entry had been found stale, it is marked all the same, and
goes offline although the timeout has not passed since it was last seen.  A pass
marks only silent agents exactly if this does not happen.
-/

/-- The monitor, and the last heartbeat of each agent since it was put on the
list, as far as it was neither marked nor removed since. -/
structure Watch where
  monitor : MonitorState
  beats : Uuid -> Option Instant

namespace Watch

/-- The record with another entry for one agent. -/
def note (watch : Watch) (agentId : Uuid) (beat : Option Instant)
    (id : Uuid) : Option Instant :=
  if id = agentId then beat else watch.beats id

theorem note_self (watch : Watch) (agentId : Uuid) (beat : Option Instant) :
    watch.note agentId beat agentId = beat :=
  if_pos rfl

theorem note_of_ne (watch : Watch) {agentId id : Uuid} (other : id ≠ agentId)
    (beat : Option Instant) :
    watch.note agentId beat id = watch.beats id :=
  if_neg other

theorem note_same (watch : Watch) (agentId : Uuid) :
    watch.note agentId (watch.beats agentId) = watch.beats := by
  funext id
  by_cases here : id = agentId
  · rw [here, note_self]
  · rw [note_of_ne watch here]

def record (watch : Watch) : MonitorLabel -> Uuid -> Option Instant
  | .updateHeartbeat agentId => watch.note agentId (some watch.monitor.now)
  | .removeAgent agentId => watch.note agentId none
  | .read agentId =>
      match watch.monitor.pass with
      | .reading _ =>
          if watch.monitor.orchestrator.isStale watch.monitor.now agentId then
            watch.note agentId none else watch.beats
      | _ => watch.beats
  | .mark =>
      match watch.monitor.pass with
      | .marking (agentId :: _) => watch.note agentId none
      | _ => watch.beats
  | _ => watch.beats

def step (watch : Watch) (label : MonitorLabel) : Watch :=
  ⟨watch.monitor.step label, watch.record label⟩

/-- An agent about to be marked was not heard of since it was put on the list, or
not for longer than the timeout. -/
def Unheard (watch : Watch) : MonitorLabel -> Prop
  | .mark =>
      match watch.monitor.pass with
      | .marking (agentId :: _) => forall beat, watch.beats agentId = some beat ->
          watch.monitor.orchestrator.offlineTimeout <
            elapsed watch.monitor.now beat
      | _ => True
  | _ => True

/-- What the record says of the map: an agent that was heard of is online since
then, and one on the list that is online and was not heard of is stale. -/
structure Tracks (watch : Watch) : Prop where
  heard : forall id beat, watch.beats id = some beat -> Exists fun state =>
    watch.monitor.orchestrator.agents id = some state ∧ state.status = .online ∧
      state.lastSeen = beat
  unheard : forall id state, id ∈ watch.monitor.pass.listed ->
    watch.monitor.orchestrator.agents id = some state ->
    state.status = .online -> watch.beats id = none ->
      watch.monitor.orchestrator.offlineTimeout <
        elapsed watch.monitor.now state.lastSeen

theorem elapsed_mono {now later lastSeen : Instant} (passed : now ≤ later) :
    elapsed now lastSeen ≤ elapsed later lastSeen :=
  Nat.sub_le_sub_right passed lastSeen

/-! ## One step -/

section Step

variable {watch : Watch}

/-- A change of one entry, under which the record of the others stays true. -/
theorem Tracks.change (tracks : watch.Tracks) (agentId : Uuid)
    (entry : Option AgentState) (beat : Option Instant)
    (pass : Pass)
    (kept : forall id, id ∈ pass.listed -> id ≠ agentId ->
      id ∈ watch.monitor.pass.listed)
    (heard : forall time, beat = some time -> Exists fun state =>
      entry = some state ∧ state.status = .online ∧ state.lastSeen = time)
    (unheard : forall state, agentId ∈ pass.listed -> entry = some state ->
      state.status = .online -> beat = none ->
      watch.monitor.orchestrator.offlineTimeout <
        elapsed watch.monitor.now state.lastSeen) :
    Tracks
        ⟨⟨watch.monitor.orchestrator.set agentId entry, watch.monitor.now, pass⟩,
          watch.note agentId beat⟩ := by
  constructor
  · intro id time beaten
    dsimp only at beaten ⊢
    by_cases here : id = agentId
    · subst here
      rw [note_self] at beaten
      rw [Orchestrator.set_agents_self]
      exact heard time beaten
    · rw [note_of_ne watch here] at beaten
      rw [Orchestrator.set_agents_of_ne _ here]
      exact tracks.heard id time beaten
  · intro id state listed present online silent
    dsimp only at listed present silent ⊢
    by_cases here : id = agentId
    · subst here
      rw [note_self] at silent
      rw [Orchestrator.set_agents_self] at present
      exact unheard state listed present online silent
    · rw [note_of_ne watch here] at silent
      rw [Orchestrator.set_agents_of_ne _ here] at present
      exact tracks.unheard id state (kept id listed here) present online silent

theorem tracks_step (watch : Watch) (label : MonitorLabel)
    (tracks : watch.Tracks) :
    (watch.step label).Tracks := by
  rcases watch with ⟨⟨orchestrator, now, pass⟩, beats⟩
  cases label with
  | tick duration =>
      refine ⟨tracks.heard, ?_⟩
      intro id state listed present online silent
      exact Nat.lt_of_lt_of_le
        (tracks.unheard id state listed present online silent)
        (elapsed_mono (Nat.le_add_right now duration))
  | updateHeartbeat agentId =>
      rw [step, MonitorState.step, MonitorState.update,
        Orchestrator.updateHeartbeat_eq]
      apply tracks.change agentId _ _ pass
      · exact fun id listed _ => listed
      · rintro time beaten
        exact ⟨_, rfl, rfl, Option.some.inj beaten⟩
      · intro state _ _ _ impossible
        cases impossible
  | updatePolicyHash agentId hash =>
      rw [step, MonitorState.step, MonitorState.update,
        Orchestrator.updatePolicyHash_eq]
      have changed :=
        tracks.change agentId ((orchestrator.agents agentId).map fun state =>
            { state with lastPolicyHash := some hash }) (beats agentId) pass
              (fun id listed _ => listed) ?_ ?_
      · rw [note_same] at changed
        exact changed
      · intro time beaten
        rcases tracks.heard agentId time beaten with
          ⟨state, present, online, seen⟩
        exact ⟨_, congrArg (Option.map _) present, online, seen⟩
      · intro state listed present online silent
        rcases Option.map_eq_some_iff.mp present with ⟨old, there, rfl⟩
        exact tracks.unheard agentId old listed there online silent
  | removeAgent agentId =>
      apply tracks.change agentId _ _ pass
      · exact fun id listed _ => listed
      · intro time impossible
        cases impossible
      · intro state _ impossible
        cases impossible
  | start =>
      cases pass with
      | reading stale => exact tracks
      | marking left => exact tracks
      | idle =>
          refine ⟨tracks.heard, ?_⟩
          intro id state impossible
          cases impossible
  | read agentId =>
      cases pass with
      | idle => exact tracks
      | marking left => exact tracks
      | reading stale =>
          simp only [step, MonitorState.step, record]
          split
          swap
          · exact tracks
          next found =>
          rcases Orchestrator.isStale_iff.mp found with
            ⟨entry, present, _, overdue⟩
          have changed := tracks.change agentId (orchestrator.agents agentId) none
            (.reading (stale ++ [agentId])) ?_ ?_ ?_
          · rw [Orchestrator.set_same] at changed
            exact changed
          · intro id listed other
            rcases List.mem_append.mp listed with before | new
            · exact before
            · exact absurd (List.mem_singleton.mp new) other
          · intro time impossible
            cases impossible
          · intro state _ there _ _
            rw [← Option.some.inj (present.symm.trans there)]
            exact overdue
  | collected =>
      cases pass with
      | idle => exact tracks
      | marking left => exact tracks
      | reading stale =>
          refine ⟨tracks.heard, ?_⟩
          intro id state listed
          rw [step, MonitorState.step, Pass.listed_remaining] at listed
          exact tracks.unheard id state listed
  | mark =>
      cases pass with
      | idle => exact tracks
      | reading stale => exact tracks
      | marking left =>
          cases left with
          | nil => exact tracks
          | cons agentId rest =>
              rw [step, MonitorState.step_mark rfl, Orchestrator.markOffline_eq]
              apply tracks.change agentId _ _ (Pass.remaining rest)
              · intro id listed _
                rw [Pass.listed_remaining] at listed
                exact List.mem_cons_of_mem agentId listed
              · intro time impossible
                cases impossible
              · intro state _ present online _
                rcases Option.map_eq_some_iff.mp present with ⟨old, _, rfl⟩
                cases online

/-- A step marks only stale agents exactly if none that it marks was heard of. -/
theorem marksStale_iff_unheard (watch : Watch) (label : MonitorLabel)
    (tracks : watch.Tracks) :
    watch.monitor.MarksStale label <-> watch.Unheard label := by
  constructor
  · intro stale
    cases label with
    | mark =>
        rw [Unheard]
        split
        · next agentId rest turn =>
          intro beat beaten
          rcases tracks.heard agentId beat beaten with
            ⟨state, present, online, rfl⟩
          refine stale rfl agentId state { state with status := .offline } present
            ?_ online rfl
          rw [MonitorState.step_mark turn, Orchestrator.markOffline_eq]
          dsimp only
          rw [Orchestrator.set_agents_self, present, Option.map_some]
        · trivial
    | _ => trivial
  · intro unheard check agentId before later present marked online offline
    rcases watch.monitor.step_check_orchestrator check with
      same | ⟨target, rest, rfl, turn, changed⟩
    · rw [same, present] at marked
      cases marked
      rw [online] at offline
      cases offline
    by_cases here : agentId = target
    swap
    · rw [changed, Orchestrator.markOffline_eq,
        Orchestrator.set_agents_of_ne _ here, present] at marked
      cases marked
      rw [online] at offline
      cases offline
    subst here
    rw [Unheard, turn] at unheard
    cases beaten : watch.beats agentId with
    | none =>
        have listed : agentId ∈ watch.monitor.pass.listed := by
          rw [turn]
          exact List.mem_cons_self
        exact tracks.unheard agentId before listed present online beaten
    | some beat =>
        rcases tracks.heard agentId beat beaten with ⟨state, there, _, seen⟩
        rw [Option.some.inj (present.symm.trans there), seen]
        exact unheard beat beaten

end Step

end Watch

/-- A run of the monitor marks only stale agents exactly if no agent is marked
that was heard of since it was put on the list. -/
theorem monitor_marks_stale_iff (orchestrator : Orchestrator) (now : Instant)
    (labels : List MonitorLabel) :
    Meets MonitorState.step MonitorState.MarksStale
      ⟨orchestrator, now, .idle⟩ labels <->
      Meets Watch.step Watch.Unheard ⟨⟨orchestrator, now, .idle⟩, fun _ => none⟩
        labels := by
  have tracks : Watch.Tracks ⟨⟨orchestrator, now, .idle⟩, fun _ => none⟩ := by
    constructor
    · intro id beat impossible
      cases impossible
    · intro id state impossible
      cases impossible
  rw [← meets_iff_meets Watch.tracks_step Watch.marksStale_iff_unheard
    tracks labels]
  have commutes : forall watch label,
    (Watch.step watch label).monitor = watch.monitor.step label := fun _ _ => rfl
  exact (meets_view Watch.monitor commutes
    ⟨⟨orchestrator, now, .idle⟩, fun _ => none⟩ labels).symm

/-- The agent is found stale and polls before it is marked. -/
def lateHeartbeat : List MonitorLabel :=
  [.updateHeartbeat 7, .tick (301 * 1000000000), .start, .read 7,
    .updateHeartbeat 7, .collected, .mark]

theorem lateHeartbeat_marked :
    ¬ Meets MonitorState.step MonitorState.MarksStale
      ⟨Orchestrator.new 300, 0, .idle⟩ lateHeartbeat := by
  rintro ⟨_, _, _, _, _, _, stale, _⟩
  have passed := stale rfl 7 _ _ rfl rfl rfl rfl
  exact absurd passed (by decide)

end Complyx
