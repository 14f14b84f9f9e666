import Cryexts.Journal.Barrier
import Cryexts.Journal.RingAtomicity

set_option autoImplicit false

namespace Cryexts

open WriteLog (store)

/-- Whoever can take `journal_lock`. -/
inductive Party
  | worker
  | operation (id : Nat)
  deriving DecidableEq

/-- Where an operation stands. It is `inside` once its begin has returned 0, and
`clearing` while its commit has `journal_replaying` set. -/
inductive Stage
  | outside | waiting | inside | ordering | committing | clearing | aborting
  deriving DecidableEq

def Stage.holding : Stage → Bool
  | .outside | .waiting => false
  | .inside | .ordering | .committing | .clearing | .aborting => true

inductive WorkerStage
  | idle
  | draining (failed : Bool)
  | clearing
  deriving DecidableEq

/-- Operations and the checkpoint worker over one mount. `owner` is set by
`mutex_lock` and emptied by any `mutex_unlock`; `acquired` counts the former. The last
three members are history: the acquisition, the sequence and the accepted
`record_block` calls of each operation's last begin. -/
structure Threads where
  shared : World
  owner : Option Party
  acquired : Nat
  stage : Nat → Stage
  worker : WorkerStage
  ticket : Nat → Option Nat
  assigned : Nat → Nat
  recorded : Nat → List Nat

inductive Action
  | beginSkip (id : Nat)
  | beginCheck (id : Nat)
  | beginLock (id : Nat)
  | record (id block : Nat)
  | stray (block : Nat)
  | edit (change : World → World)
  | commitSkip (id : Nat)
  | commitCheck (id : Nat)
  | barrier (id : Nat)
  | commitRaise (id : Nat)
  | commitLower (id : Nat)
  | commitRun (id : Nat)
  | abort (id : Nat)
  | workerLock
  | workerStep
  | workerRaise
  | workerLower
  | workerUnlock

def World.raised (w : World) (flag : Bool) : World :=
  { w with sbi := { w.sbi with journalReplaying := flag } }

/-- Whatever else the kernel does to buffers, the device and the allocation state. -/
def World.edited (w : World) (change : World → World) : World :=
  { change w with sbi := { w.sbi with
      nextIno := (change w).sbi.nextIno
      nextDataBlock := (change w).sbi.nextDataBlock
      gdtStorage := (change w).sbi.gdtStorage } }

/-- The checkpoint call that finds one segment left, and so clears the recovery flag. -/
def EmptiesRing (w : World) : Prop :=
  w.sbi.journalRingTail ≠ w.sbi.journalRingHead ∧
    (journalV3CheckpointOne w).2.sbi.journalRingTail = w.sbi.journalRingHead

instance (w : World) : Decidable (EmptiesRing w) := inferInstanceAs (Decidable (_ ∧ _))

/-- The commits that clear the recovery flag themselves: the fixed layout's, and those
that give up before the commit block. -/
def ClearsRecovery (w : World) : Prop :=
  w.sbi.journalRing = false ∨ (journalV3Prepare w).1.isOk = false

instance (w : World) : Decidable (ClearsRecovery w) := inferInstanceAs (Decidable (_ ∨ _))

namespace Threads

/-- When a party can take its next step. -/
def Enabled (s : Threads) : Action → Prop
  | .beginSkip id => s.stage id = .outside ∧ s.shared.Bypassed
  | .beginCheck id => s.stage id = .outside ∧ ¬ s.shared.Bypassed
  | .beginLock id => s.stage id = .waiting ∧ s.owner = none
  | .record id _ => s.stage id = .inside
  | .stray _ => True
  | .edit _ => True
  | .commitSkip id => s.stage id = .inside ∧ s.shared.Bypassed
  | .commitCheck id => s.stage id = .inside ∧ ¬ s.shared.Bypassed
  | .barrier id => s.stage id = .ordering
  | .commitRaise id => s.stage id = .committing ∧ ClearsRecovery s.shared
  | .commitLower id => s.stage id = .clearing
  | .commitRun id => s.stage id = .committing
  | .abort id => s.stage id = .inside ∨ s.stage id = .aborting
  | .workerLock => s.worker = .idle ∧ s.owner = none ∧ s.shared.sbi.journalEnabled = true ∧
      s.shared.sbi.journalV3 = true ∧ s.shared.sbi.journalRing = true
  | .workerStep => s.worker = .draining false ∧
      s.shared.sbi.journalRingTail ≠ s.shared.sbi.journalRingHead
  | .workerRaise => s.worker = .draining false ∧ EmptiesRing s.shared
  | .workerLower => s.worker = .clearing
  | .workerUnlock => s.worker = .draining true ∨ (s.worker = .draining false ∧
      s.shared.sbi.journalRingTail = s.shared.sbi.journalRingHead)

/-- `cryexts_journal_v3_begin`, from `mutex_lock` on. -/
def begun (s : Threads) (id : Nat) : Threads :=
  match journalV3Begin s.shared with
  | (.ok (), after) =>
    { s with
      shared := after
      owner := some (.operation id)
      acquired := s.acquired + 1
      stage := store s.stage id .inside
      ticket := store s.ticket id (some (s.acquired + 1))
      assigned := store s.assigned id after.sbi.journalActiveSequence
      recorded := store s.recorded id [] }
  | (.error _, after) =>
    { s with
      shared := after
      acquired := s.acquired + 1
      stage := store s.stage id .outside }

/-- `mutex_unlock` at the end of an operation. -/
def ended (s : Threads) (id : Nat) (shared : World) : Threads :=
  { s with shared := shared, owner := none, stage := store s.stage id .outside }

def checkpointed (s : Threads) (start : World) : Threads :=
  let ran := journalV3CheckpointOne start
  { s with shared := ran.2, worker := .draining (!ran.1.isOk) }

/-- What the step does. -/
def perform (s : Threads) : Action → Threads
  | .beginSkip id =>
    { s with
      stage := store s.stage id .inside
      ticket := store s.ticket id none
      assigned := store s.assigned id 0
      recorded := store s.recorded id [] }
  | .beginCheck id => { s with stage := store s.stage id .waiting }
  | .beginLock id => s.begun id
  | .record id block =>
    let ran := journalRecordBlock block s.shared
    { s with
      shared := ran.2
      recorded :=
        if ran.1.isOk then store s.recorded id (block :: s.recorded id) else s.recorded }
  | .stray block => { s with shared := journalRecordBh block s.shared }
  | .edit change => { s with shared := s.shared.edited change }
  -- Neither exit asks who holds the lock.
  | .commitSkip id => s.ended id s.shared
  | .commitCheck id => { s with stage := store s.stage id .ordering }
  | .barrier id =>
    let ran := journalOrderedBarrier s.shared
    { s with
      shared := ran.2
      stage := store s.stage id (if ran.1.isOk then .committing else .aborting) }
  | .commitRaise id =>
    { s with shared := s.shared.raised true, stage := store s.stage id .clearing }
  | .commitLower id => s.ended id (journalV3Commit (s.shared.raised false)).2
  | .commitRun id => s.ended id (journalV3Commit s.shared).2
  | .abort id =>
    s.ended id (if s.shared.Bypassed then s.shared else journalV3Abort s.shared)
  | .workerLock =>
    { s with owner := some .worker, acquired := s.acquired + 1, worker := .draining false }
  | .workerStep => s.checkpointed s.shared
  | .workerRaise => { s with shared := s.shared.raised true, worker := .clearing }
  | .workerLower => s.checkpointed (s.shared.raised false)
  | .workerUnlock => { s with owner := none, worker := .idle }

/-- The party that runs `mutex_unlock` in a step. -/
def releases (s : Threads) : Action → Option Party
  | .commitSkip id | .abort id => if s.owner = none then none else some (.operation id)
  | .commitLower id | .commitRun id => some (.operation id)
  | .workerUnlock => some .worker
  | _ => none

end Threads

/-- The operation whose `cryexts_journal_v3_commit` runs in a step. -/
def Action.commits : Action → Option Nat
  | .commitLower id | .commitRun id => some id
  | _ => none

/-- What a step owes to transaction ownership. The lock was taken by the committing
operation's own begin and by nobody after it, and has not been given up since. The
superblock is recorded by the commit itself. -/
structure OwnershipKept (s : Threads) (action : Action) : Prop where
  held : ∀ id, action.commits = some id →
    s.owner = some (.operation id) ∧ s.ticket id = some s.acquired
  sequence : ∀ id, action.commits = some id →
    s.shared.sbi.journalActiveSequence = s.assigned id ∧ s.assigned id ≠ 0
  blocks : ∀ id, action.commits = some id →
    ∀ block, block ∈ s.shared.sbi.journalHomeBlocks ↔ block ∈ s.recorded id
  released : ∀ party, s.releases action = some party → s.owner = some party

/-- The steps nobody else gets in the way of: a begin reads `journal_replaying` clear and
does not wrap the sequence, and a `record_block` outside any transaction adds nothing to
the transaction that happens to be open. -/
def Undisturbed (s : Threads) : Action → Prop
  | .beginSkip _ => s.shared.sbi.journalReplaying = false
  | .beginLock _ => u64 (s.shared.sbi.journalSequence + 1) ≠ 0
  | .stray block =>
    s.shared.sbi.journalActiveSequence = 0 ∨ block ∈ s.shared.sbi.journalHomeBlocks
  | _ => True

/-- Any interleaving, with the state each step was taken in. -/
inductive Interleaving (start : Threads) : List (Threads × Action) → Threads → Prop
  | start : Interleaving start [] start
  | step {trace : List (Threads × Action)} {s : Threads} (action : Action) :
      Interleaving start trace s → s.Enabled action →
      Interleaving start (trace ++ [(s, action)]) (s.perform action)

/-- A mount between operations. -/
structure AtRest (s : Threads) : Prop where
  live : LiveV3 s.shared.sbi
  free : s.owner = none
  outside : ∀ id, s.stage id = .outside
  idle : s.worker = .idle

/-- Who holds what. -/
structure Owned (s : Threads) : Prop where
  enabled : s.shared.sbi.journalEnabled = true
  v3 : s.shared.sbi.journalV3 = true
  flag : s.shared.sbi.journalReplaying = true →
    s.worker = .clearing ∨ ∃ id, s.stage id = .clearing
  operation : ∀ id, (s.stage id).holding = true ↔ s.owner = some (.operation id)
  worker : s.worker ≠ .idle ↔ s.owner = some .worker
  ticket : ∀ id, s.owner = some (.operation id) → s.ticket id = some s.acquired
  sequence : ∀ id, s.owner = some (.operation id) →
    s.shared.sbi.journalActiveSequence = s.assigned id ∧ s.assigned id ≠ 0
  blocks : ∀ id, s.owner = some (.operation id) →
    ∀ block, block ∈ s.shared.sbi.journalHomeBlocks ↔ block ∈ s.recorded id

/-- A `record_block` call adds its block exactly when it returns 0. -/
theorem journalRecordBlock_homes {w : World} (live : LiveV3 w.sbi) (block : Nat) :
    (journalRecordBlock block w).2.sbi.journalActiveSequence = w.sbi.journalActiveSequence ∧
      ∀ other, other ∈ (journalRecordBlock block w).2.sbi.journalHomeBlocks ↔
        other ∈ w.sbi.journalHomeBlocks ∨
          ((journalRecordBlock block w).1.isOk = true ∧ other = block) := by
  have unfolded : journalRecordBlock block w = journalV3RecordBlock block w := by
    simp [journalRecordBlock, live.enabled, live.v3, live.live]
  rw [unfolded]
  by_cases closed : w.sbi.journalActiveSequence = 0
  · simp [journalV3RecordBlock, closed, Except.isOk, Except.toBool]
  · cases poisoned : w.sbi.journalError with
    | some err => simp [journalV3RecordBlock, closed, poisoned, Except.isOk, Except.toBool]
    | none =>
        by_cases refused : blocksCount w ≤ block ∨ w.sbi.JournalBlockIsInternal block
        · simp [journalV3RecordBlock, closed, poisoned, refused, Except.isOk, Except.toBool]
        · by_cases present : block ∈ w.sbi.journalHomeBlocks
          · simp [journalV3RecordBlock, closed, poisoned, refused, present, Except.isOk,
              Except.toBool]
          · by_cases full : w.sbi.journalV3PayloadCapacity ≤ w.sbi.journalHomeBlocks.length
            · simp [journalV3RecordBlock, closed, poisoned, refused, present, full, Except.isOk,
                Except.toBool]
            · simp [journalV3RecordBlock, closed, poisoned, refused, present, full, Except.isOk,
                Except.toBool]

/-- A stray `record_block` that finds no transaction, or its block already in it. -/
theorem journalRecordBh_harmless {w : World} (enabled : w.sbi.journalEnabled = true)
    (v3 : w.sbi.journalV3 = true) (block : Nat)
    (harmless : w.sbi.journalActiveSequence = 0 ∨ block ∈ w.sbi.journalHomeBlocks) :
    SameMount (journalRecordBh block w).sbi w.sbi ∧
      (journalRecordBh block w).sbi.journalActiveSequence = w.sbi.journalActiveSequence ∧
      (journalRecordBh block w).sbi.journalHomeBlocks = w.sbi.journalHomeBlocks := by
  by_cases live : w.sbi.journalReplaying = false
  · have mount := (journalRecordBh_kept block w ⟨enabled, v3, live⟩).1
    rcases journalRecordBh_cases block w enabled v3 live with
      ⟨same, _⟩ | ⟨_, _, same⟩ | ⟨opened, _, _, _, absent, _, _⟩
    · rw [same]
      exact ⟨⟨rfl, rfl, rfl, rfl, rfl, rfl, rfl, rfl⟩, rfl, rfl⟩
    · refine ⟨mount, ?_⟩
      rw [same]
      exact ⟨rfl, rfl⟩
    · exact absurd harmless (not_or.mpr ⟨opened, absent⟩)
  · rw [journalRecordBh_replaying block w (by simpa using live)]
    exact ⟨⟨rfl, rfl, rfl, rfl, rfl, rfl, rfl, rfl⟩, rfl, rfl⟩

namespace Owned

variable {s : Threads} (owned : Owned s)
include owned

theorem other_outside {id other : Nat} (owner : s.owner = some (.operation id))
    (holding : (s.stage other).holding = true) : other = id := by
  have mine := (owned.operation other).mp holding
  rw [owner] at mine
  simpa using mine.symm

theorem worker_idle {id : Nat} (owner : s.owner = some (.operation id)) : s.worker = .idle := by
  by_contra busy
  have mine := owned.worker.mp busy
  rw [owner] at mine
  simp at mine

theorem not_holding (id : Nat) (owner : s.owner ≠ some (.operation id)) :
    (s.stage id).holding = false := by
  have none := mt (owned.operation id).mp owner
  simpa using none

/-- The flag is clear while an operation holds the lock and is not clearing it itself. -/
theorem flag_operation {id : Nat} (owner : s.owner = some (.operation id))
    (quiet : s.stage id ≠ .clearing) : s.shared.sbi.journalReplaying = false := by
  by_contra raised
  rcases owned.flag (by simpa using raised) with worker | ⟨other, clearing⟩
  · rw [owned.worker_idle owner] at worker
    cases worker
  · have same := owned.other_outside owner (by rw [clearing]; rfl)
    rw [same] at clearing
    exact quiet clearing

theorem flag_free (free : s.owner = none) : s.shared.sbi.journalReplaying = false := by
  by_contra raised
  rcases owned.flag (by simpa using raised) with worker | ⟨other, clearing⟩
  · have mine := owned.worker.mp (by rw [worker]; simp)
    rw [free] at mine
    cases mine
  · have mine := (owned.operation other).mp (by rw [clearing]; rfl)
    rw [free] at mine
    cases mine

theorem flag_worker (owner : s.owner = some .worker) (quiet : s.worker ≠ .clearing) :
    s.shared.sbi.journalReplaying = false := by
  by_contra raised
  rcases owned.flag (by simpa using raised) with worker | ⟨other, clearing⟩
  · exact quiet worker
  · have mine := (owned.operation other).mp (by rw [clearing]; rfl)
    rw [owner] at mine
    simp at mine

theorem owner_of {id : Nat} {stage : Stage} (here : s.stage id = stage)
    (holding : stage.holding = true) : s.owner = some (.operation id) :=
  (owned.operation id).mp (by rw [here]; exact holding)

/-- The lock's owner moves on inside its transaction. -/
theorem within {id : Nat} (owner : s.owner = some (.operation id)) (after : World) (stage : Stage)
    (recorded : Nat → List Nat) (holding : stage.holding = true)
    (enabled : after.sbi.journalEnabled = true) (v3 : after.sbi.journalV3 = true)
    (flag : after.sbi.journalReplaying = true → stage = .clearing)
    (sequence : after.sbi.journalActiveSequence = s.shared.sbi.journalActiveSequence)
    (blocks : ∀ block, block ∈ after.sbi.journalHomeBlocks ↔ block ∈ recorded id) :
    Owned { s with shared := after, stage := store s.stage id stage, recorded := recorded } where
  enabled := enabled
  v3 := v3
  flag raised := Or.inr ⟨id, by
    change store s.stage id stage id = _
    rw [WriteLog.store_same]
    exact flag raised⟩
  operation other := by
    change (store s.stage id stage other).holding = true ↔ _
    by_cases here : other = id
    · rw [here, WriteLog.store_same]
      exact ⟨fun _ => owner, fun _ => holding⟩
    · rw [WriteLog.store_other _ _ _ _ here]
      exact owned.operation other
  worker := owned.worker
  ticket := owned.ticket
  sequence other mine := by
    change after.sbi.journalActiveSequence = _ ∧ _
    rw [sequence]
    exact owned.sequence other mine
  blocks other mine := by
    change s.owner = _ at mine
    rw [owner] at mine
    have same : id = other := by simpa using mine
    rw [← same]
    exact blocks

/-- An operation that ends leaves the lock to nobody. -/
theorem ended {id : Nat} (owner : s.owner = some (.operation id)) (after : World)
    (live : LiveV3 after.sbi) : Owned (s.ended id after) where
  enabled := live.enabled
  v3 := live.v3
  flag raised := by
    change after.sbi.journalReplaying = true at raised
    rw [live.live] at raised
    cases raised
  operation other := by
    change (store s.stage id .outside other).holding = true ↔ none = _
    by_cases here : other = id
    · rw [here, WriteLog.store_same]
      simp [Stage.holding]
    · have idle := owned.not_holding other (by
        rw [owner]
        simpa using fun same : id = other => here same.symm)
      rw [WriteLog.store_other _ _ _ _ here, idle]
      simp
  worker := by
    change s.worker ≠ .idle ↔ none = _
    simp [owned.worker_idle owner]
  ticket _ mine := by cases mine
  sequence _ mine := by cases mine
  blocks _ mine := by cases mine

/-- The worker moves on while it holds the lock. -/
theorem working (owner : s.owner = some .worker) (after : World) (stage : WorkerStage)
    (busy : stage ≠ .idle) (enabled : after.sbi.journalEnabled = true)
    (v3 : after.sbi.journalV3 = true)
    (flag : after.sbi.journalReplaying = true → stage = .clearing) :
    Owned { s with shared := after, worker := stage } where
  enabled := enabled
  v3 := v3
  flag raised := Or.inl (flag raised)
  operation := owned.operation
  worker := ⟨fun _ => owner, fun _ => busy⟩
  ticket := owned.ticket
  sequence other mine := by
    change s.owner = _ at mine
    rw [owner] at mine
    cases mine
  blocks other mine := by
    change s.owner = _ at mine
    rw [owner] at mine
    cases mine

theorem checkpointed (owner : s.owner = some .worker) (start : World) (live : LiveV3 start.sbi) :
    Owned (s.checkpointed start) := by
  have after := live.of_same (journalV3CheckpointOne_kept start live).1
  refine owned.working owner _ _ (by simp) after.enabled after.v3 ?_
  intro raised
  rw [after.live] at raised
  cases raised

/-- A begin that finds the lock free, and a sequence to assign. -/
theorem begun {id : Nat} (free : s.owner = none)
    (fresh : u64 (s.shared.sbi.journalSequence + 1) ≠ 0) : Owned (s.begun id) := by
  have live : LiveV3 s.shared.sbi := ⟨owned.enabled, owned.v3, owned.flag_free free⟩
  have quiet : ∀ other, (s.stage other).holding = false := fun other =>
    owned.not_holding other (by rw [free]; simp)
  have idle : s.worker = .idle := by
    by_contra busy
    have mine := owned.worker.mp busy
    rw [free] at mine
    cases mine
  have unraised : ¬ s.shared.sbi.journalReplaying = true := by rw [live.live]; decide
  rcases journalV3Begin_cases s.shared with ⟨err, failed⟩ | opened
  · unfold Threads.begun
    rw [failed]
    refine ⟨owned.enabled, owned.v3, fun raised => absurd raised unraised, ?_, owned.worker,
      ?_, ?_, ?_⟩
    · intro other
      change (store s.stage id .outside other).holding = true ↔ s.owner = _
      rw [free]
      by_cases here : other = id
      · rw [here, WriteLog.store_same]
        simp [Stage.holding]
      · rw [WriteLog.store_other _ _ _ _ here, quiet other]
        simp
    all_goals
      intro other mine
      change s.owner = _ at mine
      rw [free] at mine
      cases mine
  · unfold Threads.begun
    rw [opened]
    refine ⟨owned.enabled, owned.v3, fun raised => absurd raised unraised, ?_, ?_, ?_, ?_, ?_⟩
    · intro other
      change (store s.stage id .inside other).holding = true ↔ some (Party.operation id) = _
      by_cases here : other = id
      · rw [here, WriteLog.store_same]
        simp [Stage.holding]
      · rw [WriteLog.store_other _ _ _ _ here, quiet other]
        simpa using fun same : id = other => here same.symm
    · change s.worker ≠ .idle ↔ some (Party.operation id) = _
      simp [idle]
    all_goals
      intro other mine
      change some (Party.operation id) = _ at mine
      have same : id = other := by simpa using mine
      subst same
    · exact WriteLog.store_same _ _ _
    · change _ = store s.assigned id _ id ∧ store s.assigned id _ id ≠ 0
      rw [WriteLog.store_same]
      exact ⟨rfl, fresh⟩
    · intro block
      change block ∈ [] ↔ block ∈ store s.recorded id [] id
      rw [WriteLog.store_same]

/-- An operation that has not taken the lock yet moves between the stages before it. -/
theorem queued {id : Nat} (free : (s.stage id).holding = false) (stage : Stage)
    (early : stage.holding = false) : Owned { s with stage := store s.stage id stage } where
  enabled := owned.enabled
  v3 := owned.v3
  flag raised := by
    rcases owned.flag raised with worker | ⟨other, clearing⟩
    · exact Or.inl worker
    · right
      refine ⟨other, ?_⟩
      change store s.stage id stage other = _
      rw [WriteLog.store_other _ _ _ _ ?_]
      · exact clearing
      · rintro rfl
        rw [clearing] at free
        cases free
  operation other := by
    change (store s.stage id stage other).holding = true ↔ _
    by_cases here : other = id
    · rw [here, WriteLog.store_same, early, ← owned.operation id, free]
    · rw [WriteLog.store_other _ _ _ _ here]
      exact owned.operation other
  worker := owned.worker
  ticket := owned.ticket
  sequence := owned.sequence
  blocks := owned.blocks

theorem liveV3 (clear : s.shared.sbi.journalReplaying = false) : LiveV3 s.shared.sbi :=
  ⟨owned.enabled, owned.v3, clear⟩

theorem bypassed (skip : s.shared.Bypassed) : s.shared.sbi.journalReplaying = true := by
  rcases skip with disabled | raised
  · rw [owned.enabled] at disabled
    cases disabled
  · exact raised

/-- Every step keeps the lock with the party that took it. -/
theorem recording {id : Nat} (block : Nat) (enabled : s.stage id = .inside) :
    Owned (s.perform (.record id block)) := by
  have owner := owned.owner_of enabled rfl
  have clear := owned.flag_operation owner (by rw [enabled]; simp)
  have live := owned.liveV3 clear
  have homes := journalRecordBlock_homes live block
  have same : SameMount (journalRecordBlock block s.shared).2.sbi s.shared.sbi :=
    (journalRecordBh_kept block s.shared live).1
  have after := live.of_same same
  have stay : store s.stage id .inside = s.stage := WriteLog.store_eq_self _ _ _ enabled
  have moved := owned.within owner (journalRecordBlock block s.shared).2 .inside
    (if (journalRecordBlock block s.shared).1.isOk then
      store s.recorded id (block :: s.recorded id) else s.recorded) rfl after.enabled after.v3
    (fun raised => by rw [after.live] at raised; cases raised) homes.1 (by
      intro other
      rw [homes.2 other, owned.blocks id owner other]
      by_cases accepted : (journalRecordBlock block s.shared).1.isOk = true
      · rw [if_pos accepted, WriteLog.store_same, List.mem_cons]
        simp only [accepted, true_and]
        exact or_comm
      · rw [if_neg accepted]
        simp [accepted])
  rw [stay] at moved
  exact moved

theorem straying (block : Nat)
    (calm : s.shared.sbi.journalActiveSequence = 0 ∨ block ∈ s.shared.sbi.journalHomeBlocks) :
    Owned (s.perform (.stray block)) := by
  obtain ⟨same, active, homes⟩ :=
    journalRecordBh_harmless owned.enabled owned.v3 block calm
  refine ⟨same.enabled.trans owned.enabled, same.v3.trans owned.v3, ?_, owned.operation,
    owned.worker, owned.ticket, ?_, ?_⟩
  · intro raised
    exact owned.flag (same.replaying.symm.trans raised)
  · intro id mine
    change (journalRecordBh block s.shared).sbi.journalActiveSequence = _ ∧ _
    rw [active]
    exact owned.sequence id mine
  · intro id mine
    change ∀ other, other ∈ (journalRecordBh block s.shared).sbi.journalHomeBlocks ↔ _
    rw [homes]
    exact owned.blocks id mine

theorem ordering {id : Nat} (enabled : s.stage id = .ordering) :
    Owned (s.perform (.barrier id)) := by
  have owner := owned.owner_of enabled rfl
  have clear := owned.flag_operation owner (by rw [enabled]; simp)
  have same : (journalOrderedBarrier s.shared).2.sbi = s.shared.sbi :=
    (journalOrderedBarrier_moves s.shared).sbi
  refine owned.within owner (journalOrderedBarrier s.shared).2
    (if (journalOrderedBarrier s.shared).1.isOk then .committing else .aborting) s.recorded
    ?_ (by rw [same]; exact owned.enabled) (by rw [same]; exact owned.v3) ?_ (by rw [same])
    (by rw [same]; exact owned.blocks id owner)
  · split <;> rfl
  · intro raised
    rw [same, clear] at raised
    cases raised

theorem aborting {id : Nat} (enabled : s.stage id = .inside ∨ s.stage id = .aborting) :
    Owned (s.perform (.abort id)) := by
  have owner : s.owner = some (.operation id) := by
    rcases enabled with inside | aborting
    · exact owned.owner_of inside rfl
    · exact owned.owner_of aborting rfl
  have live := owned.liveV3 (owned.flag_operation owner (by
    rcases enabled with inside | aborting
    · rw [inside]; simp
    · rw [aborting]; simp))
  have active : ¬ s.shared.Bypassed :=
    not_or.mpr ⟨by rw [live.enabled]; decide, by rw [live.live]; decide⟩
  change Owned (s.ended id (if s.shared.Bypassed then s.shared else journalV3Abort s.shared))
  rw [if_neg active]
  exact owned.ended owner _ (live.of_same (clearRuntime_mount s.shared.sbi))

theorem workerLocking (free : s.owner = none) : Owned (s.perform .workerLock) := by
  have clear := owned.flag_free free
  refine ⟨owned.enabled, owned.v3, fun raised => ?_, fun id => ?_, ⟨fun _ => rfl, fun _ => ?_⟩,
    ?_, ?_, ?_⟩
  · change s.shared.sbi.journalReplaying = true at raised
    rw [clear] at raised
    cases raised
  · change (s.stage id).holding = true ↔ some Party.worker = _
    rw [owned.not_holding id (by rw [free]; simp)]
    simp
  · simp [Threads.perform]
  all_goals
    intro id mine
    change some Party.worker = _ at mine
    cases mine

theorem workerUnlocking {failed : Bool} (here : s.worker = .draining failed) :
    Owned (s.perform .workerUnlock) := by
  have owner := owned.worker.mp (by rw [here]; simp)
  have clear := owned.flag_worker owner (by rw [here]; simp)
  refine ⟨owned.enabled, owned.v3, fun raised => ?_, fun id => ?_, ?_, ?_, ?_, ?_⟩
  · change s.shared.sbi.journalReplaying = true at raised
    rw [clear] at raised
    cases raised
  · change (s.stage id).holding = true ↔ none = _
    rw [owned.not_holding id (by rw [owner]; simp)]
    simp
  · change WorkerStage.idle ≠ .idle ↔ none = _
    simp
  all_goals
    intro id mine
    cases mine

theorem perform (action : Action) (enabled : s.Enabled action) (calm : Undisturbed s action) :
    Owned (s.perform action) := by
  cases action with
  | beginSkip id =>
      have raised := owned.bypassed enabled.2
      change s.shared.sbi.journalReplaying = false at calm
      rw [raised] at calm
      cases calm
  | beginCheck id => exact owned.queued (by rw [enabled.1]; rfl) .waiting rfl
  | beginLock id => exact owned.begun enabled.2 calm
  | record id block => exact owned.recording block enabled
  | stray block => exact owned.straying block calm
  | edit change =>
      exact ⟨owned.enabled, owned.v3, owned.flag, owned.operation, owned.worker, owned.ticket,
        owned.sequence, owned.blocks⟩
  | commitSkip id =>
      have raised := owned.bypassed enabled.2
      have owner := owned.owner_of enabled.1 rfl
      have clear := owned.flag_operation owner (by rw [enabled.1]; simp)
      rw [raised] at clear
      cases clear
  | commitCheck id =>
      have owner := owned.owner_of enabled.1 rfl
      have clear := owned.flag_operation owner (by rw [enabled.1]; simp)
      exact owned.within owner s.shared .ordering s.recorded rfl owned.enabled owned.v3
        (fun raised => by rw [clear] at raised; cases raised) rfl (owned.blocks id owner)
  | barrier id => exact owned.ordering enabled
  | commitRaise id =>
      have owner := owned.owner_of enabled.1 rfl
      exact owned.within owner (s.shared.raised true) .clearing s.recorded rfl owned.enabled
        owned.v3 (fun _ => rfl) rfl (owned.blocks id owner)
  | commitLower id =>
      have owner := owned.owner_of enabled rfl
      have live : LiveV3 (s.shared.raised false).sbi := ⟨owned.enabled, owned.v3, rfl⟩
      exact owned.ended owner _ (live.of_same (journalV3Commit_kept _ live).1)
  | commitRun id =>
      have owner := owned.owner_of enabled rfl
      have live := owned.liveV3 (owned.flag_operation owner (by rw [enabled]; simp))
      exact owned.ended owner _ (live.of_same (journalV3Commit_kept _ live).1)
  | abort id => exact owned.aborting enabled
  | workerLock => exact owned.workerLocking enabled.2.1
  | workerStep =>
      have owner := owned.worker.mp (by rw [enabled.1]; simp)
      exact owned.checkpointed owner _
        (owned.liveV3 (owned.flag_worker owner (by rw [enabled.1]; simp)))
  | workerRaise =>
      have owner := owned.worker.mp (by rw [enabled.1]; simp)
      exact owned.working owner (s.shared.raised true) .clearing (by simp) owned.enabled owned.v3
        fun _ => rfl
  | workerLower =>
      have owner := owned.worker.mp (by rw [show s.worker = _ from enabled]; simp)
      exact owned.checkpointed owner _ ⟨owned.enabled, owned.v3, rfl⟩
  | workerUnlock =>
      rcases enabled with failed | ⟨done, _⟩
      · exact owned.workerUnlocking failed
      · exact owned.workerUnlocking done

theorem committer (action : Action) (enabled : s.Enabled action) (id : Nat)
    (commits : action.commits = some id) : s.owner = some (.operation id) := by
  cases action with
  | commitLower other =>
      obtain rfl : other = id := by simpa [Action.commits] using commits
      exact owned.owner_of enabled rfl
  | commitRun other =>
      obtain rfl : other = id := by simpa [Action.commits] using commits
      exact owned.owner_of enabled rfl
  | _ => cases commits

theorem releaser (action : Action) (enabled : s.Enabled action) (party : Party)
    (releases : s.releases action = some party) : s.owner = some party := by
  cases action with
  | commitSkip id =>
      have owner := owned.owner_of enabled.1 rfl
      have clear := owned.flag_operation owner (by rw [enabled.1]; simp)
      rw [owned.bypassed enabled.2] at clear
      cases clear
  | abort id =>
      have owner : s.owner = some (.operation id) := by
        rcases enabled with inside | aborting
        · exact owned.owner_of inside rfl
        · exact owned.owner_of aborting rfl
      obtain rfl : Party.operation id = party := by simpa [Threads.releases, owner] using releases
      exact owner
  | commitLower id =>
      obtain rfl : Party.operation id = party := by simpa [Threads.releases] using releases
      exact owned.owner_of enabled rfl
  | commitRun id =>
      obtain rfl : Party.operation id = party := by simpa [Threads.releases] using releases
      exact owned.owner_of enabled rfl
  | workerUnlock =>
      obtain rfl : Party.worker = party := by simpa [Threads.releases] using releases
      refine owned.worker.mp ?_
      rcases enabled with failed | ⟨done, _⟩
      · rw [failed]; simp
      · rw [done]; simp
  | _ => cases releases

/-- A step taken in such a state keeps ownership. -/
theorem kept (action : Action) (enabled : s.Enabled action) :
    OwnershipKept s action := by
  have committer := owned.committer action enabled
  exact ⟨fun id commits => ⟨committer id commits, owned.ticket id (committer id commits)⟩,
    fun id commits => owned.sequence id (committer id commits),
    fun id commits => owned.blocks id (committer id commits),
    fun party releases => owned.releaser action enabled party releases⟩

end Owned

theorem AtRest.owned {s : Threads} (rest : AtRest s) : Owned s where
  enabled := rest.live.enabled
  v3 := rest.live.v3
  flag raised := by
    rw [rest.live.live] at raised
    cases raised
  operation id := by
    rw [rest.outside id, rest.free]
    simp [Stage.holding]
  worker := by
    rw [rest.idle, rest.free]
    simp
  ticket _ mine := by
    rw [rest.free] at mine
    cases mine
  sequence _ mine := by
    rw [rest.free] at mine
    cases mine
  blocks _ mine := by
    rw [rest.free] at mine
    cases mine

theorem Interleaving.owned {start s : Threads} {trace : List (Threads × Action)}
    (rest : AtRest start) (run : Interleaving start trace s)
    (calm : ∀ step, step ∈ trace → Undisturbed step.1 step.2) : Owned s := by
  induction run with
  | start => exact rest.owned
  | step action earlier enabled ih =>
      have before := ih fun step member => calm step (List.mem_append_left _ member)
      exact before.perform action enabled
        (calm _ (List.mem_append_right _ List.mem_cons_self))

/-- Under undisturbed begins every commit of every interleaving runs under its own
operation's lock and sequence, over its own blocks. -/
theorem ownership_kept (start s : Threads) (trace : List (Threads × Action))
    (rest : AtRest start) (run : Interleaving start trace s)
    (calm : ∀ step, step ∈ trace → Undisturbed step.1 step.2) :
    ∀ step, step ∈ trace → OwnershipKept step.1 step.2 := by
  induction run with
  | start => simp
  | step action earlier enabled ih =>
      have owned := earlier.owned rest fun step member => calm step (List.mem_append_left _ member)
      intro step member
      rcases List.mem_append.mp member with old | new
      · exact ih (fun step member => calm step (List.mem_append_left _ member)) step old
      · obtain rfl := List.mem_singleton.mp new
        exact owned.kept action enabled

theorem RingInv.emptiesRing {w : World} {area : JournalArea} {count : Nat} {t : Transaction}
    {home : Nat → Block} (inv : RingInv w area count [t] home) : EmptiesRing w := by
  have chain := inv.chain
  rw [spans_cons] at chain
  refine ⟨chain.tail_ne, ?_⟩
  rw [inv.checkpointRun]
  have last : SegmentRing.wrap area.ringStart area.ringEnd (w.sbi.journalRingTail + t.span) =
      w.sbi.journalRingHead := chain.2.2.2.2
  rw [← last, ← inv.ready.sameArea]
  rfl

/-- The threads of a mount nobody uses. -/
def restingThreads (w : World) : Threads where
  shared := w
  owner := none
  acquired := 0
  stage _ := .outside
  worker := .idle
  ticket _ := none
  assigned _ := 0
  recorded _ := []

theorem restingThreads_atRest {w : World} (live : LiveV3 w.sbi) : AtRest (restingThreads w) :=
  ⟨live, rfl, fun _ => rfl, rfl⟩

/-- The mount after the worker has drained a ring of one segment. -/
theorem RingInv.drains {w : World} {area : JournalArea} {count : Nat} {t : Transaction}
    {home : Nat → Block} (inv : RingInv w area count [t] home) :
    ∃ v, journalV3CheckpointOne w = (.ok (), v) ∧ RingInv v area count [] home ∧
      v.sbi.journalRingTail = v.sbi.journalRingHead := by
  obtain ⟨done, _, _, after⟩ := inv.checkpointStep
  refine ⟨(journalV3CheckpointOne w).2, Prod.ext done rfl, after, ?_⟩
  have chain := after.chain
  exact chain

theorem raised_twice {w : World} (clear : w.sbi.journalReplaying = false) :
    (w.raised true).raised false = w := by
  have same : { w.sbi with journalReplaying := false } = w.sbi := by rw [← clear]
  change { w with sbi := { w.sbi with journalReplaying := false } } = w
  rw [same]

/-- An operation that waits for the lock takes it, records a block and commits. -/
theorem SingleReady.transacts {start s : Threads} {trace : List (Threads × Action)}
    {count block : Nat} (id : Nat) (ready : SingleReady s.shared count block)
    (waiting : s.stage id = .waiting) (free : s.owner = none) (run : Interleaving start trace s)
    (calm : ∀ step, step ∈ trace → Undisturbed step.1 step.2) :
    ∃ (rest : List (Threads × Action)) (last : Threads),
      rest.map Prod.snd =
        [.beginLock id, .record id block, .commitCheck id, .barrier id, .commitRun id] ∧
      Interleaving start (trace ++ rest) last ∧
      ∀ step, step ∈ trace ++ rest → Undisturbed step.1 step.2 := by
  have capacity := ready.capacity
  have full : s.shared.sbi.journalV3PayloadCapacity ≠ 0 := by
    rw [SbInfo.journalV3PayloadCapacity_eq]
    omega
  have fresh : u64 (s.shared.sbi.journalSequence + 1) ≠ 0 := by
    rw [u64_of_lt _ ready.sequence]
    exact Nat.succ_ne_zero _
  have live : LiveV3 s.shared.sbi := ⟨ready.mode.enabled, ready.mode.v3, ready.mode.live⟩
  have active : ∀ v : World, LiveV3 v.sbi → ¬ v.Bypassed := fun v here =>
    not_or.mpr ⟨by rw [here.enabled]; decide, by rw [here.live]; decide⟩
  generalize opened : ({ s.shared with sbi := { s.shared.sbi.journalV3ClearRuntime with
    journalActiveSequence := u64 (s.shared.sbi.journalSequence + 1) } } : World) = u
  have begun : journalV3Begin s.shared = (.ok (), u) := by
    rcases journalV3Begin_cases s.shared with ⟨err, failed⟩ | started
    · simp [journalV3Begin, ready.closed, full] at failed
    · rw [started, opened]
  have begunLive : LiveV3 u.sbi := by
    rw [← opened]
    exact ⟨live.enabled, live.v3, live.live⟩
  have sound : u.Healthy := by
    rw [← opened]
    exact ⟨ready.mode.healthy.noFaults, ready.mode.healthy.current⟩
  have recorded : Worked u (journalRecordBlock block u).2 :=
    journalRecordBh_worked block begunLive.enabled begunLive.v3 begunLive.live
  have recordLive := begunLive.of_same recorded.mount
  have barrier := journalOrderedBarrier_healthy (recorded.healthy sound)
  have locking := run.step (.beginLock id) ⟨waiting, free⟩
  have lock : s.perform (.beginLock id) =
      { s with
        shared := u
        owner := some (.operation id)
        acquired := s.acquired + 1
        stage := store s.stage id .inside
        ticket := store s.ticket id (some (s.acquired + 1))
        assigned := store s.assigned id u.sbi.journalActiveSequence
        recorded := store s.recorded id [] } := by
    change Threads.begun _ id = _
    unfold Threads.begun
    rw [begun]
  rw [lock] at locking
  have recording := locking.step (.record id block) (WriteLog.store_same _ _ _)
  have committing := recording.step (.commitCheck id)
    ⟨WriteLog.store_same _ _ _, active _ recordLive⟩
  have ordering := committing.step (.barrier id) (WriteLog.store_same _ _ _)
  have committed := ordering.step (.commitRun id) (by
    change store _ id (if (journalOrderedBarrier (journalRecordBlock block u).2).1.isOk
      then Stage.committing else .aborting) id = _
    rw [WriteLog.store_same, barrier.1]
    rfl)
  simp only [List.append_assoc, List.cons_append, List.nil_append] at committed
  refine ⟨_, _, ?_, committed, ?_⟩
  · rfl
  · intro step member
    simp only [List.mem_append, List.mem_cons, List.not_mem_nil, or_false] at member
    rcases member with before | rfl | rfl | rfl | rfl | rfl
    · exact calm step before
    · exact fresh
    all_goals trivial

/-- The theorem where the worker drains the ring, and with it clears the recovery flag, between an
operation's look at `journal_replaying` and its lock. -/
theorem ownership_kept_small :
    ∃ (w : World) (history : List (Transaction × Nat)) (trace : List (Threads × Action))
      (s : Threads), RingRun CommitRoom 4118 wideMount w history ∧ history.length = 1 ∧
      trace.map Prod.snd = [.workerLock, .beginCheck 0, .workerRaise, .workerLower, .workerUnlock,
        .beginLock 0, .record 0 4, .commitCheck 0, .barrier 0, .commitRun 0] ∧
      Interleaving (restingThreads w) trace s ∧
      ∀ step, step ∈ trace → OwnershipKept step.1 step.2 := by
  obtain ⟨w, point, _, one⟩ :=
    wideMount_run.commit 9 sampleContent (by decide) (by decide) (by decide)
  obtain ⟨home, inv⟩ := one.inv
  obtain ⟨v, drained, after, empty⟩ := inv.drains
  have ready := (one.checkpoint (by decide)).ready 4 (by decide)
  rw [drained] at ready
  have live : LiveV3 w.sbi := ⟨inv.mode.enabled, inv.mode.v3, inv.mode.live⟩
  have active : ¬ w.Bypassed :=
    not_or.mpr ⟨by rw [live.enabled]; decide, by rw [live.live]; decide⟩
  let marked : Threads :=
    { restingThreads (w.raised true) with
      owner := some .worker
      acquired := 1
      worker := .clearing
      stage := store (fun _ => .outside) 0 .waiting }
  have lowered : marked.perform .workerLower =
      { marked with shared := v, worker := .draining false } := by
    change marked.checkpointed ((w.raised true).raised false) = _
    rw [Threads.checkpointed, raised_twice inv.mode.live, drained]
    rfl
  have locking := (@Interleaving.start (restingThreads w)).step .workerLock
    ⟨rfl, rfl, inv.mode.enabled, inv.mode.v3, inv.ring⟩
  have checking := locking.step (.beginCheck 0) ⟨rfl, active⟩
  have raising := checking.step .workerRaise ⟨rfl, inv.emptiesRing⟩
  have lowering := raising.step .workerLower rfl
  change Interleaving _ _ (marked.perform .workerLower) at lowering
  rw [lowered] at lowering
  have unlocking := lowering.step .workerUnlock (Or.inr ⟨rfl, empty⟩)
  obtain ⟨rest, s, acts, run, calm⟩ := SingleReady.transacts 0 ready rfl rfl unlocking (by
    intro step member
    simp only [List.nil_append, List.cons_append, List.mem_cons, List.not_mem_nil, or_false]
      at member
    rcases member with rfl | rfl | rfl | rfl | rfl
    all_goals trivial)
  refine ⟨w, _, _, s, one.run, rfl, ?_, run, ownership_kept _ s _ (restingThreads_atRest live) run
    calm⟩
  rw [List.map_append, acts]
  rfl

/-- An operation whose begin reads the flag the worker has set for a moment goes on without
the lock, and its commit runs without it. -/
theorem ownership_lost_to_worker :
    ∃ (w : World) (trace : List (Threads × Action)) (s : Threads),
      journalV3Commit (singleWrite 8 sampleContent smallMount) = (.ok (), w) ∧
      Interleaving (restingThreads w) trace s ∧
      ∃ step, step ∈ trace ∧ ¬ OwnershipKept step.1 step.2 := by
  obtain ⟨w, success, ready, _, _, _, _, home, inv⟩ := smallMount_commits 8 (by decide)
  obtain ⟨v, drained, after, empty⟩ := inv.drains
  have barrier := journalOrderedBarrier_healthy after.mode.healthy
  have same := raised_twice inv.mode.live
  have active : ¬ v.Bypassed :=
    not_or.mpr ⟨by rw [after.mode.enabled]; decide, by rw [after.mode.live]; decide⟩
  let skipped : Threads :=
    { restingThreads (w.raised true) with
      owner := some .worker
      acquired := 1
      worker := .clearing
      stage := store (fun _ => .outside) 0 .inside
      ticket := store (fun _ => none) 0 none
      assigned := store (fun _ => 0) 0 0
      recorded := store (fun _ => []) 0 [] }
  have lowered : skipped.perform .workerLower =
      { skipped with shared := v, worker := .draining false } := by
    change skipped.checkpointed ((w.raised true).raised false) = _
    rw [Threads.checkpointed, same, drained]
    rfl
  have locking := (@Interleaving.start (restingThreads w)).step .workerLock
    ⟨rfl, rfl, inv.mode.enabled, inv.mode.v3, inv.ring⟩
  have raising := locking.step .workerRaise ⟨rfl, inv.emptiesRing⟩
  have skipping := raising.step (.beginSkip 0) ⟨rfl, Or.inr rfl⟩
  have lowering := skipping.step .workerLower rfl
  change Interleaving _ _ (skipped.perform .workerLower) at lowering
  rw [lowered] at lowering
  have unlocking := lowering.step .workerUnlock (Or.inr ⟨rfl, empty⟩)
  have checking := unlocking.step (.commitCheck 0) ⟨rfl, active⟩
  have ordering := checking.step (.barrier 0) rfl
  have ordered := ordering.step (.commitRun 0) (by
    change store (store (store (fun _ => Stage.outside) 0 .inside) 0 .ordering) 0
      (if (journalOrderedBarrier v).1.isOk then .committing else .aborting) 0 = _
    rw [WriteLog.store_same, barrier.1]
    rfl)
  refine ⟨w, _, _, success, ordered, _, List.mem_append_right _ List.mem_cons_self, ?_⟩
  intro kept
  have owner := (kept.held 0 rfl).1
  cases owner

end Cryexts
