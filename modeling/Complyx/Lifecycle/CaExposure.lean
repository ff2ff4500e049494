import Complyx.Lifecycle.CaCrashes

namespace Complyx

open Transition

/-!
# The key of the authority while it is written

A start creates `ca.key` with the mode of the process, or keeps the mode of the
file that is there, writes the key, and restricts the mode after that.  A start that
finds both files does not look at the mode.  Here a start is not one step but one
for each character it writes, and a crash may come between any two.  The key is
never exposed exactly if what is there in the beginning is not, and whatever is
written of a key is written to a file that is restricted already.
-/

/-- A start that is writing an authority, and how far it is. -/
structure CaWriting where
  ca : CaInner
  defaultMode : Nat
  point : StopPoint

/-- The directory and the start that writes to it, if one does. -/
structure CaHost where
  dir : CaDir
  writing : Option CaWriting

inductive CaHostLabel where
  | start (key : KeyPair) (now : DateTime) (defaultMode : Nat)
  | advance
  | crash

/-- The mode `ca.key` has once it is opened for writing. -/
def CaDir.keyMode (dir : CaDir) (defaultMode : Nat) : Nat :=
  (dir.key.map CaFile.mode).getD defaultMode

namespace CaHost

/-- The next thing a start does: it opens a file, writes a character, or restricts
the mode of the key and is done. -/
def advance (dir : CaDir) (writing : CaWriting) : CaHost :=
  let crt (text : String) : CaDir :=
    { dir with crt := some (writeFile writing.defaultMode dir.crt text) }
  let key (text : String) : CaDir :=
    { dir with key := some (writeFile writing.defaultMode dir.key text) }
  match writing.point with
  | .beforeCrt => ⟨crt "", some { writing with point := .inCrt 0 }⟩
  | .inCrt written =>
      if written < writing.ca.caCertPem.toList.length then
        ⟨crt (writtenPart (written + 1) writing.ca.caCertPem),
          some { writing with point := .inCrt (written + 1) }⟩
      else ⟨key "", some { writing with point := .inKey 0 }⟩
  | .inKey written =>
      if written < writing.ca.caKeyPem.toList.length then
        ⟨key (writtenPart (written + 1) writing.ca.caKeyPem),
          some { writing with point := .inKey (written + 1) }⟩
      else
      ⟨{ dir with key := dir.key.map fun file => { file with mode := 0o600 } },
        none⟩

def step (library : CaLibrary) (host : CaHost) : CaHostLabel -> CaHost
  | .start key now defaultMode =>
      match host.writing, host.dir.crt, host.dir.key with
      | some _, _, _ => host
      | none, some _, some _ => host
      | none, _, _ =>
          match generateCa library key now with
          | .ok ca => { host with writing := some ⟨ca, defaultMode, .beforeCrt⟩ }
          | .error _ => host
  | .advance =>
      match host.writing with
      | some writing => advance host.dir writing
      | none => host
  | .crash => { host with writing := none }

/-- Where `ca.key` holds material of a key, its mode is 0600. -/
def Guarded (material : String -> Prop) (host : CaHost) : Prop :=
  forall file, host.dir.key = some file -> material file.text -> file.mode = 0o600

/-- The text a start is about to have in `ca.key`. -/
def CaWriting.nextKey (writing : CaWriting) : Option String :=
  match writing.point with
  | .beforeCrt => none
  | .inCrt written =>
      if written < writing.ca.caCertPem.toList.length then none else some ""
  | .inKey written =>
      if written < writing.ca.caKeyPem.toList.length then
        some (writtenPart (written + 1) writing.ca.caKeyPem) else none

/-- Material of a key is only written where the file was there with mode 0600, or
where new files have that mode. -/
def WritesGuarded (material : String -> Prop)
    (host : CaHost) : CaHostLabel -> Prop
  | .advance =>
      forall writing text, host.writing = some writing ->
        CaWriting.nextKey writing = some text ->
      material text -> host.dir.keyMode writing.defaultMode = 0o600
  | _ => True

/-! ## One step -/

section Step

variable {library : CaLibrary} {material : String -> Prop}

theorem guarded_of_same {host host' : CaHost}
    (same : host'.dir.key = host.dir.key) :
    Guarded material host' <-> Guarded material host := by
  unfold Guarded
  rw [same]

/-- Nothing but writing changes a file. -/
theorem step_dir {host : CaHost} {label : CaHostLabel}
    (idle : label = .advance -> host.writing = none) :
    (step library host label).dir = host.dir := by
  cases label with
  | start key now defaultMode =>
      simp only [step]
      split
      · rfl
      · rfl
      · split <;> rfl
  | advance => simp only [step, idle rfl]
  | crash => rfl

/-- An opened or extended file is guarded exactly if its mode was before. -/
theorem guarded_written_iff (dir : CaDir) (defaultMode : Nat) (text : String)
    (writing : Option CaWriting) :
    Guarded material
      ⟨{ dir with key := some (writeFile defaultMode dir.key text) }, writing⟩ <->
      (material text -> dir.keyMode defaultMode = 0o600) := by
  constructor
  · intro guarded
    exact guarded _ rfl
  · intro restricted file present held
    rw [← Option.some.inj present] at held ⊢
    exact restricted held

theorem guarded_restricted (dir : CaDir) (writing : Option CaWriting) :
    Guarded material
      ⟨{ dir with key := dir.key.map fun file => { file with mode := 0o600 } },
        writing⟩ := by
  intro file present _
  rcases Option.map_eq_some_iff.mp present with ⟨old, _, rfl⟩
  rfl

theorem guarded_advance_iff (dir : CaDir) (writing : CaWriting)
    (guarded : Guarded material ⟨dir, some writing⟩) :
    Guarded material (advance dir writing) <-> forall text,
      CaWriting.nextKey writing = some text -> material text ->
      dir.keyMode writing.defaultMode = 0o600 := by
  have untouched : forall {host : CaHost}, host.dir.key = dir.key ->
    CaWriting.nextKey writing = none ->
      (Guarded material host <-> forall text,
        CaWriting.nextKey writing = some text -> material text ->
        dir.keyMode writing.defaultMode = 0o600) := by
    intro host same none
    refine iff_of_true
      ((@guarded_of_same material ⟨dir, some writing⟩ host same).mpr guarded) ?_
    intro text next
    rw [none] at next
    cases next
  have written : forall (text : String) (later : Option CaWriting),
    CaWriting.nextKey writing = some text ->
      (Guarded material
        ⟨{ dir with key := some (writeFile writing.defaultMode dir.key text) },
          later⟩ <->
          forall text, CaWriting.nextKey writing = some text -> material text ->
            dir.keyMode writing.defaultMode = 0o600) := by
    intro text later next
    rw [guarded_written_iff, next]
    constructor
    · intro restricted other same
      rw [← Option.some.inj same]
      exact restricted
    · intro restricted
      exact restricted text rfl
  rcases writing with ⟨ca, defaultMode, point⟩
  unfold advance
  cases point with
  | beforeCrt => exact untouched rfl rfl
  | inCrt count =>
      by_cases more : count < ca.caCertPem.toList.length
      · simp only [if_pos more]
        exact untouched rfl (if_pos more)
      · simp only [if_neg more]
        exact written "" _ (if_neg more)
  | inKey count =>
      by_cases more : count < ca.caKeyPem.toList.length
      · simp only [if_pos more]
        exact written _ _ (if_pos more)
      · simp only [if_neg more]
        refine iff_of_true (guarded_restricted dir none) ?_
        intro text next
        cases next.symm.trans (if_neg more)

theorem guarded_step_iff (host : CaHost) (label : CaHostLabel)
    (guarded : Guarded material host) :
    Guarded material (step library host label) <->
      WritesGuarded material host label := by
  by_cases idle : label = .advance -> host.writing = none
  · rw [guarded_of_same (congrArg CaDir.key (step_dir idle))]
    refine iff_of_true guarded ?_
    cases label with
    | start key now defaultMode => trivial
    | crash => trivial
    | advance =>
        intro writing text present
        rw [idle rfl] at present
        cases present
  · rcases Classical.not_imp.mp idle with ⟨rfl, busy⟩
    rcases host with ⟨dir, _ | writing⟩
    · exact absurd rfl busy
    · refine (guarded_advance_iff dir writing guarded).trans ?_
      constructor
      · intro restricted other text same
        rw [← Option.some.inj same]
        exact restricted text
      · intro restricted text
        exact restricted writing text rfl

end Step

end CaHost

/-! ## Every run -/

/-- Whatever counts as material of a key: in every run of starts and crashes from
any directory it is never exposed exactly if it is not in the beginning and none of
it is written to a file that is not restricted. -/
theorem key_guarded_iff (library : CaLibrary) (material : String -> Prop)
    (dir : CaDir) (labels : List CaHostLabel) :
    Always (CaHost.step library) (CaHost.Guarded material) ⟨dir, none⟩ labels <->
      CaHost.Guarded material ⟨dir, none⟩ ∧
        Meets (CaHost.step library) (CaHost.WritesGuarded material)
          ⟨dir, none⟩ labels :=
  always_iff_first_meets CaHost.guarded_step_iff ⟨dir, none⟩ labels

/-! ## A start in one step -/

/-- Some run of the host leads there. -/
def CaHost.Reached (library : CaLibrary) (dir : CaDir) (host : CaHost) : Prop :=
  Exists fun labels => after (CaHost.step library) ⟨dir, none⟩ labels = host

/-- The host at a point of a start that writes the authority. -/
def CaHost.at (dir : CaDir) (start : CaStart) (ca : CaInner)
    (point : StopPoint) : CaHost :=
  ⟨dir.persist { start with stop := some point } ca,
    some ⟨ca, start.defaultMode, point⟩⟩

section Starts

variable {library : CaLibrary} {dir : CaDir} {start : CaStart} {ca : CaInner}

theorem CaHost.Reached.step {host : CaHost}
    (reached : CaHost.Reached library dir host) (label : CaHostLabel) :
    CaHost.Reached library dir (host.step library label) := by
  rcases reached with ⟨labels, rfl⟩
  exact ⟨labels ++ [label], after_append _ _ _ _⟩

theorem reached_beforeCrt (missing : dir.crt = none ∨ dir.key = none)
    (generated : generateCa library start.key start.now = .ok ca) :
    CaHost.Reached library dir (CaHost.at dir start ca .beforeCrt) := by
  refine ⟨[.start start.key start.now start.defaultMode], ?_⟩
  rw [after_cons, after_nil]
  rcases dir with ⟨_ | crt, _ | key⟩
  · simp only [CaHost.step, generated]
    rfl
  · simp only [CaHost.step, generated]
    rfl
  · simp only [CaHost.step, generated]
    rfl
  · rcases missing with noCrt | noKey
    · cases noCrt
    · cases noKey

theorem reached_inCrt
    (reached : CaHost.Reached library dir (CaHost.at dir start ca .beforeCrt))
    {written : Nat} (within : written ≤ ca.caCertPem.toList.length) :
    CaHost.Reached library dir (CaHost.at dir start ca (.inCrt written)) := by
  induction written with
  | zero => exact reached.step .advance
  | succ written ih =>
      have next := (ih (Nat.le_of_succ_le within)).step .advance
      simp only [CaHost.at, CaHost.step, CaHost.advance,
        if_pos (Nat.lt_of_succ_le within)] at next
      exact next

theorem reached_inKey
    (reached : CaHost.Reached library dir (CaHost.at dir start ca .beforeCrt))
    {written : Nat} (within : written ≤ ca.caKeyPem.toList.length) :
    CaHost.Reached library dir (CaHost.at dir start ca (.inKey written)) := by
  induction written with
  | zero =>
      have next := (reached_inCrt reached (Nat.le_refl _)).step .advance
      simp only [CaHost.at, CaHost.step, CaHost.advance, if_neg (Nat.lt_irrefl _),
        CaDir.persist, writtenPart_all] at next
      exact next
  | succ written ih =>
      have next := (ih (Nat.le_of_succ_le within)).step .advance
      simp only [CaHost.at, CaHost.step, CaHost.advance,
        if_pos (Nat.lt_of_succ_le within)] at next
      exact next

theorem reached_done
    (reached : CaHost.Reached library dir (CaHost.at dir start ca .beforeCrt)) :
    CaHost.Reached library dir
      ⟨dir.persist { start with stop := none } ca, none⟩ := by
  have next := (reached_inKey reached (Nat.le_refl _)).step .advance
  simp only [CaHost.at, CaHost.step, CaHost.advance, if_neg (Nat.lt_irrefl _),
    CaDir.persist, writtenPart_all] at next
  exact next

theorem writtenPart_min (written : Nat) (text : String) :
    writtenPart (min written text.toList.length) text =
      writtenPart written text := by
  rw [writtenPart, writtenPart, ← List.take_eq_take_min]

/-- What a start leaves in one step, stopped or not, the host comes to. -/
theorem reached_start (library : CaLibrary) (dir : CaDir) (start : CaStart) :
    CaHost.Reached library dir ⟨dir.step library start, none⟩ := by
  have here : CaHost.Reached library dir ⟨dir, none⟩ := ⟨[], rfl⟩
  rcases dir.loads_or_generates with ⟨crt, key, hasCrt, hasKey⟩ | missing
  · rw [CaDir.step, loadOrCreate_loads hasCrt hasKey]
    exact here
  rw [CaDir.step, loadOrCreate_generates missing]
  cases generated : generateCa library start.key start.now with
  | error failure => exact here
  | ok ca =>
      have begun := reached_beforeCrt missing generated
      rcases start with ⟨key, now, defaultMode, stop⟩
      dsimp only at begun ⊢
      cases stop with
      | none => exact reached_done begun
      | some point =>
          cases point with
          | beforeCrt => exact begun.step .crash
          | inCrt written =>
              have stopped :=
                (reached_inCrt begun (Nat.min_le_right written _)).step .crash
              simp only [CaHost.at, CaHost.step, CaDir.persist,
                writtenPart_min] at stopped
              exact stopped
          | inKey written =>
              have stopped :=
                (reached_inKey begun (Nat.min_le_right written _)).step .crash
              simp only [CaHost.at, CaHost.step, CaDir.persist,
                writtenPart_min] at stopped
              exact stopped

end Starts

/-! ## The first start -/

/-- A text from which a private key can be read is material of one. -/
def rootMaterial (text : String) : Prop :=
  (rootLibrary.keyPairFromPem text).isOk = true

/-- The whole key is in a file that everyone can read. -/
theorem first_start_exposes_key : Exists fun labels =>
    ¬ Always (CaHost.step rootLibrary) (CaHost.Guarded rootMaterial)
      ⟨firstDir, none⟩ labels := by
  have generated : Exists fun ca => generateCa rootLibrary rootKey newYear =
      .ok ca := by
    rw [← isOk_iff]
    decide +kernel
  rcases generated with ⟨ca, generated⟩
  have begun :=
    @reached_beforeCrt rootLibrary firstDir (rootStart none) ca
      (Or.inl rfl) generated
  rcases reached_inKey begun (Nat.le_refl _) with ⟨labels, written⟩
  refine ⟨labels, ?_⟩
  intro always
  have guarded := always.last
  rw [written] at guarded
  rcases generateCa_ok generated with ⟨serialized, params, signed⟩
  have exposed := guarded _ rfl ?_
  · exact absurd exposed (by decide : ¬ 0o644 = 0o600)
  · rw [rootMaterial]
    dsimp only [writeFile]
    rw [writtenPart_all, serialized]
    exact rootLibrary.keyPairFromPem_serializePem params rootKey
      ca.caCertPem signed

end Complyx
