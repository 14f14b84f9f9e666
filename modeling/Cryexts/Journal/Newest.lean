import Cryexts.Journal.DataReuse

set_option autoImplicit false

namespace Cryexts

open WriteLog (store applyWrites)

/-- The same content of a home block; the superblock may differ in what recovery rewrites. -/
def Agrees (block : Nat) (first second : Block) : Prop :=
  if block = 0 then SameSuper first second else first = second

namespace Agrees

variable {block : Nat} {first second third : Block}

theorem refl (block : Nat) (content : Block) : Agrees block content content := by
  unfold Agrees
  split
  · exact SameSuper.refl _
  · rfl

theorem of_eq (same : first = second) : Agrees block first second := by
  rw [same]
  exact refl _ _

theorem symm (same : Agrees block first second) : Agrees block second first := by
  unfold Agrees at *
  split
  · next zero => rw [if_pos zero] at same; exact same.symm
  · next other => rw [if_neg other] at same; exact same.symm

theorem trans (left : Agrees block first second) (right : Agrees block second third) :
    Agrees block first third := by
  unfold Agrees at *
  split
  · next zero =>
      rw [if_pos zero] at left right
      exact left.trans right
  · next other =>
      rw [if_neg other] at left right
      exact left.trans right

theorem applyWrites {cells others : Nat → Block} (same : Agrees block (cells block) (others block))
    (writes : List (Nat × Block)) :
    Agrees block (WriteLog.applyWrites cells writes block)
      (WriteLog.applyWrites others writes block) := by
  rcases WriteLog.applyWrites_cell writes block with unchanged | ⟨value, _, fixed⟩
  · rw [unchanged, unchanged]
    exact same
  · rw [fixed, fixed]
    exact refl _ _

/-- Content under the images that stand over it. -/
theorem under {cells others : Nat → Block} {writes : List (Nat × Block)} {content : Block}
    (newest : Agrees block (WriteLog.applyWrites cells writes block) content)
    (fresh : Agrees block (others block) content) :
    Agrees block (WriteLog.applyWrites others writes block) content := by
  rcases WriteLog.applyWrites_cell writes block with unchanged | ⟨value, _, fixed⟩
  · rw [unchanged]
    exact fresh
  · rw [fixed] at newest ⊢
    exact newest

end Agrees

theorem SameHome.agrees {area : JournalArea} {first second : Nat → Block}
    (same : SameHome area first second) (block : Nat) (outside : ¬ area.Inside block) :
    Agrees block (first block) (second block) := by
  unfold Agrees
  split
  · next zero =>
      rw [zero]
      exact same.super
  · next apart => exact same.blocks block apart outside

theorem SameHome.of_agrees {area : JournalArea} {first second : Nat → Block}
    (positive : 0 < area.first)
    (each : ∀ block, ¬ area.Inside block → Agrees block (first block) (second block)) :
    SameHome area first second := by
  constructor
  case super =>
    have super := each 0 (fun inside => absurd inside.1 (by omega))
    rwa [Agrees, if_pos rfl] at super
  case blocks =>
    intro block apart outside
    have same := each block outside
    rwa [Agrees, if_neg apart] at same

/-- What the operations of a run have written: the newest content of each home block, the
transactions still in the ring, and the content a crash has to restore with the number of
device writes from which on it has to. -/
structure Ledger where
  newest : Nat → Block
  pending : List Transaction
  settled : Nat → Option (Nat × Block)

namespace Ledger

def updated (ledger : Ledger) (block : Nat) (content : Block) : Ledger :=
  { ledger with
    newest := store ledger.newest block content
    settled := store ledger.settled block none }

/-- The commit itself writes the superblock and the group descriptors it records. -/
def committed (ledger : Ledger) (w : World) : Ledger :=
  let newest := fun block =>
    if block ∈ (committing w).homes ∧ (block = 0 ∨ block ∈ w.sbi.tableBlocks)
    then (atCommit w).cache block else ledger.newest block
  { newest
    pending := ledger.pending ++ [committing w]
    settled := fun block =>
      if block ∈ (committing w).homes
      then some ((journalV3Prepare w).2.log.length + 1, newest block) else ledger.settled block }

def synced (ledger : Ledger) (written : Nat) : Ledger :=
  { ledger with settled := fun block => some (written, ledger.newest block) }

def checkpointed (ledger : Ledger) : Ledger := { ledger with pending := ledger.pending.tail }

end Ledger

/-- Work that changes no buffer. -/
def FsWork.Silent : FsWork → Prop
  | .start | .storage _ | .cursors _ _ => True
  | _ => False

/-- Metadata updates, inside a transaction or, as `cryexts_write_inode_to_disk` makes them for
`cryexts_setattr` and `cryexts_fsync`, outside one; commits; `cryexts_sync_metadata`; and
checkpoint steps, which the journal lock keeps out of an open transaction. The group
descriptors in memory are the newest content of every block of their table that is not
recorded, which is how `cryexts_mark_bitmap_dirty` leaves them. -/
inductive UpdateRun (count : Nat) (first : World) : World → Ledger → Prop
  | mounted : UpdateRun count first first ⟨first.cache, [], fun _ => none⟩
  | silent {w : World} {ledger : Ledger} (work : FsWork) (before : UpdateRun count first w ledger)
      (silent : work.Silent) : UpdateRun count first (work.run w) ledger
  | updated {w : World} {ledger : Ledger} (block : Nat) (content : Block)
      (before : UpdateRun count first w ledger) (sound : (FsWork.write block content).Sound w count)
      (fresh : w.sbi.journalActiveSequence = 0 → NoStaleImage ledger.pending block content) :
      UpdateRun count first (journalRecordBh block (w.dirtyBuffer block content))
        (ledger.updated block content)
  | barrier {w : World} {ledger : Ledger} (before : UpdateRun count first w ledger) :
      UpdateRun count first (journalOrderedBarrier w).2 ledger
  | committed {w after : World} {ledger : Ledger} (before : UpdateRun count first w ledger)
      (opened : w.sbi.journalActiveSequence ≠ 0) (meets : CommitRoom w)
      (table : ∀ block, block ∈ w.sbi.tableBlocks → block ∉ (committing w).homes →
        (atCommit w).cache block = ledger.newest block)
      (success : journalV3Commit w = (.ok (), after)) :
      UpdateRun count first after (ledger.committed w)
  | synced {w : World} {ledger : Ledger} (before : UpdateRun count first w ledger)
      (closed : w.sbi.journalActiveSequence = 0)
      (table : ∀ block, block ∈ w.sbi.tableBlocks →
        (gdtPrepareWrite w).cache block = ledger.newest block) :
      UpdateRun count first (syncMetadata w).2 (ledger.synced (syncMetadata w).2.log.length)
  | checkpointed {w : World} {ledger : Ledger} (before : UpdateRun count first w ledger)
      (closed : w.sbi.journalActiveSequence = 0) :
      UpdateRun count first (journalV3CheckpointOne w).2 ledger.checkpointed

/-- A block of the device outside the journal. -/
def HomeBlock (w : World) (area : JournalArea) (block : Nat) : Prop :=
  block < w.size ∧ ¬ area.Inside block

/-- Clean buffers show the device; those of the group descriptor table are refreshed without
being marked. -/
def CleanBuffers (w : World) (area : JournalArea) : Prop :=
  ∀ block, ¬ area.Inside block → block ∉ w.sbi.tableBlocks → w.dirty block = false →
    w.cache block = w.disk block

/-- Every crash point from which on a content is settled leaves a ring that restores it. -/
def Restores (w : World) (area : JournalArea) (count : Nat) (ledger : Ledger) : Prop :=
  ∀ block since content, HomeBlock w area block → ledger.settled block = some (since, content) →
    ∀ written, since ≤ written → written ≤ w.log.length →
      ∃ home, RingImage area count (w.crashAt written) home ∧ Agrees block (home block) content

/-- The invariant of such a run. -/
structure NewestInv (first w : World) (area : JournalArea) (count : Nat) (ledger : Ledger) :
    Prop where
  ring : ∃ home, RingInv w area count ledger.pending home
  closed : w.sbi.journalActiveSequence = 0 → ∀ block, ¬ area.Inside block →
    Agrees block (applyWrites w.cache (imagesOf ledger.pending) block) (ledger.newest block)
  opened : w.sbi.journalActiveSequence ≠ 0 → w.sbi.journalError = none →
    ∀ block, ¬ area.Inside block →
      (block ∈ w.sbi.journalHomeBlocks → Agrees block (w.cache block) (ledger.newest block)) ∧
      (block ∉ w.sbi.journalHomeBlocks →
        Agrees block (applyWrites w.cache (imagesOf ledger.pending) block) (ledger.newest block))
  clean : CleanBuffers w area
  settled : ∀ block since content, HomeBlock w area block →
    ledger.settled block = some (since, content) → first.log.length ≤ since ∧
      Agrees block (applyWrites w.cache (imagesOf ledger.pending) block) content ∧
      Agrees block (applyWrites w.disk (imagesOf ledger.pending) block) content
  restores : Restores w area count ledger
  since : first.log.length ≤ w.log.length
  device : ∀ written, first.log.length ≤ written → written ≤ w.log.length →
    Describes (w.crashAt written 0) w.sbi count

theorem SameMount.tableBlocks_eq {sbi after : SbInfo} (same : SameMount after sbi) :
    after.tableBlocks = sbi.tableBlocks := by
  unfold SbInfo.tableBlocks
  rw [same.tableStart, same.tableBlocks]

theorem journalRecordBh_dirty (block : Nat) {w : World} (enabled : w.sbi.journalEnabled = true)
    (v3 : w.sbi.journalV3 = true) (live : w.sbi.journalReplaying = false) :
    (journalRecordBh block w).dirty = w.dirty := by
  rcases journalRecordBh_cases block w enabled v3 live with
    ⟨same, _⟩ | ⟨err, _, same⟩ | ⟨_, _, _, _, _, _, same⟩ <;> rw [same]

/-- A commit dirties the superblock buffer only. -/
theorem atCommit_dirty {w : World} (mode : JournalMode w) :
    (atCommit w).dirty = store w.dirty 0 true := by
  have worked := (setDiskJournalSequence_worked mode.first w.sbi.journalActiveSequence).trans
    (gdtPrepareWrite_worked (w := setDiskJournalSequence w.sbi.journalActiveSequence w) mode.table)
  rw [atCommit, superSetRecovery_eq]
  generalize recoveredSuper true _ _ _ = super
  have marked : ∀ v : World, (v.dirtyBuffer 0 super).dirty = store v.dirty 0 true := fun _ => rfl
  have copied : ∀ v : World, (gdtPrepareWrite v).dirty = v.dirty := fun _ => rfl
  have sequenced : ∀ sequence (v : World), (setDiskJournalSequence sequence v).dirty = v.dirty :=
    fun _ _ => rfl
  rw [journalRecordBh_dirty, marked, copied, sequenced]
  · exact worked.enabled.trans mode.enabled
  · exact worked.v3.trans mode.v3
  · exact worked.replaying.trans mode.live

/-- The superblock is what a commit adds to the recorded blocks. -/
theorem atCommit_homes {w : World} (mode : JournalMode w)
    (opened : w.sbi.journalActiveSequence ≠ 0) (sound : (atCommit w).sbi.journalError = none)
    (block : Nat) : block ∈ (committing w).homes ↔ block = 0 ∨ block ∈ w.sbi.journalHomeBlocks := by
  have super := atCommit_mem mode.first mode.table mode.enabled mode.v3 mode.live opened sound
  rw [Transaction.homes, committing_homes]
  obtain ⟨before, same, worked, _, homes, _⟩ := atCommit_before mode.first mode.table
  rw [same] at sound super ⊢
  rcases journalRecordBh_cases 0 before (worked.enabled.trans mode.enabled)
    (worked.v3.trans mode.v3) (worked.replaying.trans mode.live) with
    ⟨kept, _⟩ | ⟨err, _, failed⟩ | ⟨_, _, _, _, _, _, grown⟩
  · rw [kept] at super ⊢
    rw [homes] at super ⊢
    constructor
    · exact Or.inr
    · rintro (rfl | member)
      · exact super
      · exact member
  · rw [failed] at sound
    cases sound
  · rw [grown]
    change block ∈ before.sbi.journalHomeBlocks ++ [0] ↔ _
    rw [homes, List.mem_append, List.mem_singleton, or_comm]

theorem committing_apply (w : World) (cells : Nat → Block) (block : Nat)
    (member : block ∈ (committing w).homes) :
    applyWrites cells (committing w).images block = (atCommit w).cache block := by
  rw [WriteLog.applyWrites_written cells (atCommit w).cache _ _ member]
  apply congrFun
  apply WriteLog.applyWrites_own
  intro image found
  exact (committing_current w image found).symm

theorem committing_apply_other (w : World) (cells : Nat → Block) (block : Nat)
    (absent : block ∉ (committing w).homes) :
    applyWrites cells (committing w).images block = cells block := by
  apply WriteLog.applyWrites_other
  rintro image member rfl
  exact absent (List.mem_map_of_mem member)

theorem CleanBuffers.writtenAll {w : World} {area : JournalArea} (clean : CleanBuffers w area)
    (writes : List (Nat × Block)) :
    CleanBuffers (w.writtenAll writes) area := by
  intro block outside table still
  rw [World.writtenAll_sbi] at table
  rw [World.writtenAll_cache, World.writtenAll_disk]
  rw [World.writtenAll_dirty] at still
  by_cases member : block ∈ writes.map Prod.fst
  · exact WriteLog.applyWrites_written _ _ _ _ member
  · rw [if_neg member] at still
    apply WriteLog.applyWrites_congr_at
    exact clean block outside table still

theorem CleanBuffers.withSbi {w : World} {area : JournalArea} (clean : CleanBuffers w area)
    {sbi : SbInfo} (same : sbi.tableBlocks = w.sbi.tableBlocks) :
    CleanBuffers { w with sbi := sbi } area := by
  intro block outside table still
  apply clean block outside _ still
  rw [← same]
  exact table

section Step

variable {first w after : World} {area : JournalArea} {count : Nat} {ledger : Ledger}
variable (inv : NewestInv first w area count ledger)
include inv

theorem NewestInv.restores_step {writes : List (Nat × Block)} {owed : Nat → Nat → Block}
    (step : RingWrites w after area count writes owed) (size : after.size = w.size)
    (next : Ledger)
    (owes : ∀ block since content, HomeBlock w area block →
      next.settled block = some (since, content) →
        (since ≤ w.log.length → ledger.settled block = some (since, content)) ∧
        ∀ written, since ≤ w.log.length + written → Agrees block (owed written block) content) :
    Restores after area count next := by
  intro block since content home settled written early late
  have here : HomeBlock w area block := ⟨size ▸ home.1, home.2⟩
  obtain ⟨old, fresh⟩ := owes block since content here settled
  rcases crashAt_append step.base step.log written with ⟨before, crash⟩ | ⟨beyond, crash⟩
  · rw [crash]
    exact inv.restores block since content here (old (early.trans before)) written early before
  · rw [crash]
    exact ⟨_, step.image _, fresh _ (by omega)⟩

theorem NewestInv.device_step {writes : List (Nat × Block)} {owed : Nat → Nat → Block}
    (step : RingWrites w after area count writes owed) (same : SameMount after.sbi w.sbi) :
    ∀ written, first.log.length ≤ written → written ≤ after.log.length →
      Describes (after.crashAt written 0) after.sbi count := by
  intro written early late
  rcases crashAt_append step.base step.log written with ⟨before, crash⟩ | ⟨beyond, crash⟩
  · rw [crash]
    exact (inv.device written early before).of_same same
  · rw [crash]
    exact (step.device _).of_same same

/-- A step that writes nothing and keeps the buffers. -/
theorem NewestInv.quiet {home : Nat → Block} (quiet : Quiet w after)
    (ring : RingInv after area count ledger.pending home) (cache : after.cache = w.cache)
    (dirty : after.dirty = w.dirty)
    (homes : (after.sbi.journalActiveSequence = w.sbi.journalActiveSequence ∧
        after.sbi.journalError = w.sbi.journalError ∧
        after.sbi.journalHomeBlocks = w.sbi.journalHomeBlocks) ∨
      (w.sbi.journalActiveSequence = 0 ∧ after.sbi.journalHomeBlocks = [])) :
    NewestInv first after area count ledger := by
  obtain ⟨held, before⟩ := inv.ring
  have step := before.nothing quiet
  constructor
  case ring => exact ⟨home, ring⟩
  case closed =>
    intro closed
    rw [cache]
    rcases homes with ⟨active, _⟩ | ⟨idle, _⟩
    · exact inv.closed (active ▸ closed)
    · exact inv.closed idle
  case opened =>
    intro opened sound block outside
    rw [cache]
    rcases homes with ⟨active, error, same⟩ | ⟨idle, empty⟩
    · rw [same]
      exact inv.opened (active ▸ opened) (error ▸ sound) block outside
    · rw [empty]
      exact ⟨fun member => by simp at member, fun _ => inv.closed idle block outside⟩
  case clean =>
    intro block outside table still
    rw [quiet.mount.tableBlocks_eq] at table
    rw [cache, quiet.disk]
    exact inv.clean block outside table (dirty ▸ still)
  case settled =>
    intro block since content here settled
    rw [cache, quiet.disk]
    exact inv.settled block since content ⟨quiet.size ▸ here.1, here.2⟩ settled
  case restores =>
    apply inv.restores_step step quiet.size
    intro block since content here settled
    refine ⟨fun _ => settled, fun _ _ => ?_⟩
    apply (before.same.agrees block here.2).symm.trans
    exact (inv.settled block since content here settled).2.2
  case since =>
    rw [quiet.log]
    exact inv.since
  case device => exact inv.device_step step quiet.mount

theorem NewestInv.silent (work : FsWork) (silent : work.Silent) :
    NewestInv first (work.run w) area count ledger := by
  obtain ⟨home, ring⟩ := inv.ring
  cases work with
  | write block content => cases silent
  | record block => cases silent
  | abort => cases silent
  | cursors nextIno nextDataBlock =>
      obtain ⟨quiet, next⟩ := ring.work (.cursors nextIno nextDataBlock) trivial
      exact inv.quiet quiet next rfl rfl (Or.inl ⟨rfl, rfl, rfl⟩)
  | storage bytes =>
      obtain ⟨quiet, next⟩ := ring.work (.storage bytes) trivial
      exact inv.quiet quiet next rfl rfl (Or.inl ⟨rfl, rfl, rfl⟩)
  | start =>
      obtain ⟨quiet, next⟩ := ring.work .start trivial
      change Quiet w (journalV3Begin w).2 at quiet
      change RingInv (journalV3Begin w).2 area count ledger.pending home at next
      change NewestInv first (journalV3Begin w).2 area count ledger
      by_cases idle : w.sbi.journalActiveSequence = 0
      · rcases journalV3Begin_cases w with ⟨err, refused⟩ | begun
        · rw [refused]
          exact inv
        · rw [begun] at quiet next ⊢
          exact inv.quiet quiet next rfl rfl (Or.inr ⟨idle, rfl⟩)
      · have refused : (journalV3Begin w).2 = w := by
          simp [journalV3Begin, idle]
        rw [refused]
        exact inv

theorem NewestInv.updated (block : Nat) (content : Block)
    (sound : (FsWork.write block content).Sound w count)
    (fresh : w.sbi.journalActiveSequence = 0 → NoStaleImage ledger.pending block content) :
    NewestInv first (journalRecordBh block (w.dirtyBuffer block content)) area count
      (ledger.updated block content) := by
  obtain ⟨home, ring⟩ := inv.ring
  obtain ⟨changed, middle⟩ := ring.work (.write block content) sound
  obtain ⟨recorded, next⟩ := middle.work (.record block) trivial
  have quiet := changed.trans recorded
  have mode : JournalMode (w.dirtyBuffer block content) := middle.mode
  have cache := (journalRecordBh_cache block mode.enabled mode.v3 mode.live).1
  have dirty := journalRecordBh_dirty block mode.enabled mode.v3 mode.live
  have cases' := journalRecordBh_cases block _ mode.enabled mode.v3 mode.live
  have member := journalRecordBh_mem block mode.enabled mode.v3 mode.live
  change (journalRecordBh block (w.dirtyBuffer block content)).cache = store w.cache block content
    at cache
  change (journalRecordBh block (w.dirtyBuffer block content)).dirty = store w.dirty block true
    at dirty
  change Quiet w (journalRecordBh block (w.dirtyBuffer block content)) at quiet
  change RingInv (journalRecordBh block (w.dirtyBuffer block content)) area count _ _ at next
  change w.sbi.journalActiveSequence ≠ 0 →
    (journalRecordBh block (w.dirtyBuffer block content)).sbi.journalError = none →
    block ∈ (journalRecordBh block (w.dirtyBuffer block content)).sbi.journalHomeBlocks at member
  have active : (journalRecordBh block (w.dirtyBuffer block content)).sbi.journalActiveSequence =
      w.sbi.journalActiveSequence :=
    (journalRecordBh_worked block mode.enabled mode.v3 mode.live).active
  have homes : (journalRecordBh block (w.dirtyBuffer block content)).sbi.journalError = none →
      w.sbi.journalError = none ∧ ∀ other, other ≠ block →
        (other ∈ (journalRecordBh block (w.dirtyBuffer block content)).sbi.journalHomeBlocks ↔
          other ∈ w.sbi.journalHomeBlocks) := by
    intro sound
    rcases cases' with ⟨same, _⟩ | ⟨err, _, same⟩ | ⟨_, clear, _, _, _, _, same⟩
    · rw [same] at sound ⊢
      exact ⟨sound, fun _ _ => Iff.rfl⟩
    · rw [same] at sound
      cases sound
    · rw [same]
      exact ⟨clear, fun other apart => by simp [apart]⟩
  generalize journalRecordBh block (w.dirtyBuffer block content) = after at *
  have cell : ∀ other, other ≠ block →
      applyWrites after.cache (imagesOf ledger.pending) other =
        applyWrites w.cache (imagesOf ledger.pending) other := by
    intro other apart
    apply WriteLog.applyWrites_congr_at
    rw [cache, WriteLog.store_other _ _ _ _ apart]
  have kept : ∀ other, other ≠ block →
      (ledger.updated block content).newest other = ledger.newest other :=
    fun other apart => WriteLog.store_other _ _ _ _ apart
  have settled : ∀ other since old, (ledger.updated block content).settled other =
      some (since, old) → other ≠ block ∧ ledger.settled other = some (since, old) := by
    intro other since old here
    change store ledger.settled block none other = _ at here
    by_cases same : other = block
    · rw [same, WriteLog.store_same] at here
      cases here
    · rw [WriteLog.store_other _ _ _ _ same] at here
      exact ⟨same, here⟩
  constructor
  case ring => exact ⟨home, next⟩
  case closed =>
    intro closed other outside
    rw [active] at closed
    by_cases here : other = block
    · rw [here]
      apply Agrees.of_eq
      change applyWrites after.cache (imagesOf ledger.pending) block =
        store ledger.newest block content block
      rw [WriteLog.store_same]
      apply WriteLog.applyWrites_settled
      · rw [cache, WriteLog.store_same]
      · exact fresh closed
    · rw [kept other here]
      change Agrees other (applyWrites after.cache (imagesOf ledger.pending) other) _
      rw [cell other here]
      exact inv.closed closed other outside
  case opened =>
    intro opened clear other outside
    rw [active] at opened
    obtain ⟨sound', same⟩ := homes clear
    by_cases here : other = block
    · rw [here]
      refine ⟨fun _ => ?_, fun absent => absurd (member opened clear) absent⟩
      apply Agrees.of_eq
      change after.cache block = store ledger.newest block content block
      rw [cache, WriteLog.store_same, WriteLog.store_same]
    · obtain ⟨inside, beside⟩ := inv.opened opened sound' other outside
      rw [same other here, kept other here, cache, WriteLog.store_other _ _ _ _ here]
      refine ⟨inside, fun absent => ?_⟩
      change Agrees other (applyWrites (store w.cache block content) (imagesOf ledger.pending)
        other) _
      rw [← cache, cell other here]
      exact beside absent
  case clean =>
    intro other outside table still
    rw [quiet.mount.tableBlocks_eq] at table
    by_cases here : other = block
    · rw [here, dirty, WriteLog.store_same] at still
      cases still
    · rw [dirty, WriteLog.store_other _ _ _ _ here] at still
      rw [cache, quiet.disk, WriteLog.store_other _ _ _ _ here]
      exact inv.clean other outside table still
  case settled =>
    intro other since old here found
    obtain ⟨apart, found⟩ := settled other since old found
    change _ ∧ Agrees other (applyWrites after.cache (imagesOf ledger.pending) other) old ∧
      Agrees other (applyWrites after.disk (imagesOf ledger.pending) other) old
    rw [cell other apart, quiet.disk]
    exact inv.settled other since old ⟨quiet.size ▸ here.1, here.2⟩ found
  case restores =>
    apply inv.restores_step (ring.nothing quiet) quiet.size
    intro other since old here found
    obtain ⟨apart, found⟩ := settled other since old found
    refine ⟨fun _ => found, fun _ _ => ?_⟩
    apply (ring.same.agrees other here.2).symm.trans
    exact (inv.settled other since old here found).2.2
  case since =>
    rw [quiet.log]
    exact inv.since
  case device => exact inv.device_step (ring.nothing quiet) quiet.mount

/-- Writes of buffers as they are keep what a settled block is restored to. -/
theorem NewestInv.flush_agrees {writes : List (Nat × Block)}
    (own : ∀ write, write ∈ writes → write.2 = w.cache write.1) (block since : Nat)
    (content : Block) (here : HomeBlock w area block)
    (settled : ledger.settled block = some (since, content)) :
    Agrees block (applyWrites (applyWrites w.disk writes) (imagesOf ledger.pending) block)
      content := by
  obtain ⟨_, cached, stored⟩ := inv.settled block since content here settled
  rcases WriteLog.applyWrites_mem_or_other w.disk writes block with same | member
  · rw [WriteLog.applyWrites_congr_at _ w.disk _ _ same]
    exact stored
  · have same := own _ member
    dsimp only at same
    rw [WriteLog.applyWrites_congr_at _ w.cache _ _ same]
    exact cached

/-- A flush of buffers as they are. -/
theorem NewestInv.flush {writes : List (Nat × Block)}
    (own : ∀ write, write ∈ writes → write.2 = w.cache write.1) :
    NewestInv first (w.writtenAll writes) area count ledger := by
  obtain ⟨home, ring⟩ := inv.ring
  have journal : ∀ write, write ∈ writes → area.Inside write.1 → write.2 = w.disk write.1 := by
    intro write member inside
    rw [own write member, ring.journal _ inside]
  have super : ∀ write, write ∈ writes → write.1 = 0 → Describes write.2 w.sbi count := by
    intro write member zero
    rw [own write member, zero]
    exact ring.describes
  have step := ring.writtenImage journal super
  have cache : (w.writtenAll writes).cache = w.cache := by
    rw [World.writtenAll_cache]
    exact WriteLog.applyWrites_own _ _ own
  have sbi : (w.writtenAll writes).sbi = w.sbi := World.writtenAll_sbi w writes
  have size : (w.writtenAll writes).size = w.size := World.writtenAll_size w writes
  have mount : SameMount (w.writtenAll writes).sbi w.sbi := by
    rw [sbi]
    exact ⟨rfl, rfl, rfl, rfl, rfl, rfl, rfl, rfl⟩
  constructor
  case ring => exact ⟨_, ring.writtenAll journal super⟩
  case closed =>
    rw [sbi, cache]
    exact inv.closed
  case opened =>
    rw [sbi, cache]
    exact inv.opened
  case clean => exact inv.clean.writtenAll writes
  case settled =>
    intro block since content here settled
    have here : HomeBlock w area block := ⟨size ▸ here.1, here.2⟩
    obtain ⟨early, cached, _⟩ := inv.settled block since content here settled
    rw [cache, World.writtenAll_disk]
    exact ⟨early, cached, inv.flush_agrees own block since content here settled⟩
  case restores =>
    apply inv.restores_step step size
    intro block since content here settled
    refine ⟨fun _ => settled, fun written _ => ?_⟩
    apply inv.flush_agrees _ block since content here settled
    intro write member
    exact own write (List.mem_of_mem_take member)
  case since =>
    rw [World.writtenAll_log, List.length_append]
    exact Nat.le_add_right_of_le inv.since
  case device => exact inv.device_step step mount

theorem NewestInv.barrier : NewestInv first (journalOrderedBarrier w).2 area count ledger := by
  obtain ⟨home, ring⟩ := inv.ring
  obtain ⟨writes, run, own⟩ := journalOrderedBarrier_run ring.mode.healthy
  rw [run]
  exact inv.flush own

theorem NewestInv.checkpointed (closed : w.sbi.journalActiveSequence = 0) :
    NewestInv first (journalV3CheckpointOne w).2 area count ledger.checkpointed := by
  obtain ⟨home, ring⟩ := inv.ring
  cases pending : ledger.pending with
  | nil =>
      rw [pending] at ring
      have same : ledger.checkpointed = ledger := by
        cases ledger
        simp only at pending
        rw [pending]
        rfl
      rw [journalV3CheckpointOne_empty w ring.chain, same]
      exact inv
  | cons t ts =>
      rw [pending] at ring
      have rest : ledger.checkpointed.pending = ts := by
        rw [Ledger.checkpointed, pending]
        rfl
      obtain ⟨_, mount, step, next⟩ := ring.checkpointStep
      have world := ring.checkpoint_world
      have buffers : ∀ block, ¬ area.Inside block →
          Agrees block (applyWrites (journalV3CheckpointOne w).2.cache (imagesOf ts) block)
            (applyWrites w.cache (imagesOf ledger.pending) block) := by
        intro block outside
        have cache : (journalV3CheckpointOne w).2.cache =
            applyWrites w.cache (checkpointAll w t) := by
          rw [world]
          exact World.writtenAll_cache _ _
        rw [pending, imagesOf_cons, WriteLog.applyWrites_append, cache]
        apply Agrees.applyWrites
        unfold Agrees
        split
        · next zero =>
            rw [zero]
            exact ring.checkpointAll_super
        · next apart => exact ring.checkpointAll_other block apart outside w.cache
      have size : (journalV3CheckpointOne w).2.size = w.size := by
        rw [world]
        exact World.writtenAll_size _ _
      have active : (journalV3CheckpointOne w).2.sbi.journalActiveSequence = 0 := by
        rw [world]
        exact closed
      have stored : ∀ block since content, HomeBlock w area block →
          ledger.settled block = some (since, content) → Agrees block (home block) content := by
        intro block since content here settled
        have held := (inv.settled block since content here settled).2.2
        rw [pending] at held
        exact (ring.same.agrees block here.2).symm.trans held
      constructor
      case ring =>
        rw [rest]
        exact ⟨home, next⟩
      case closed =>
        intro _ block outside
        rw [rest]
        exact (buffers block outside).trans (inv.closed closed block outside)
      case opened => exact fun opened => absurd active opened
      case clean =>
        rw [world]
        apply (inv.clean.writtenAll (checkpointAll w t)).withSbi
        rw [World.writtenAll_sbi]
        rfl
      case settled =>
        intro block since content here settled
        have here : HomeBlock w area block := ⟨size ▸ here.1, here.2⟩
        obtain ⟨early, cached, _⟩ := inv.settled block since content here settled
        rw [rest]
        refine ⟨early, (buffers block here.2).trans cached, ?_⟩
        exact (next.same.agrees block here.2).trans (stored block since content here settled)
      case restores =>
        apply inv.restores_step step size
        intro block since content here settled
        exact ⟨fun _ => settled, fun _ _ => stored block since content here settled⟩
      case since =>
        rw [step.log, List.length_append]
        exact Nat.le_add_right_of_le inv.since
      case device => exact inv.device_step step mount

/-- Beside what it records a commit leaves every block newest. -/
theorem NewestInv.beside (opened : w.sbi.journalActiveSequence ≠ 0)
    (clear : w.sbi.journalError = none) (sound : (atCommit w).sbi.journalError = none)
    (table : ∀ block, block ∈ w.sbi.tableBlocks → block ∉ (committing w).homes →
      (atCommit w).cache block = ledger.newest block) (block : Nat)
    (outside : ¬ area.Inside block) (absent : block ∉ (committing w).homes) :
    Agrees block (applyWrites w.cache (imagesOf ledger.pending) block) (ledger.newest block) ∧
      Agrees block (applyWrites (atCommit w).cache (imagesOf ledger.pending) block)
        (ledger.newest block) := by
  obtain ⟨home, ring⟩ := inv.ring
  have mode := ring.mode
  have members := atCommit_homes mode opened sound block
  have apart : block ≠ 0 := fun zero => absent (members.mpr (Or.inl zero))
  have unrecorded : block ∉ w.sbi.journalHomeBlocks :=
    fun member => absent (members.mpr (Or.inr member))
  have newest := (inv.opened opened clear block outside).2 unrecorded
  refine ⟨newest, ?_⟩
  by_cases group : block ∈ w.sbi.tableBlocks
  · exact newest.under (Agrees.of_eq (table block group absent))
  · have same := atCommit_cache mode.first mode.table mode.enabled mode.v3 mode.live block apart
      (by
        rintro index before rfl
        exact group (List.mem_map_of_mem (List.mem_range.mpr before)))
    rw [WriteLog.applyWrites_congr_at _ w.cache _ _ same]
    exact newest

/-- What a commit records of a block is what the run has put in it last. -/
theorem NewestInv.recorded (opened : w.sbi.journalActiveSequence ≠ 0)
    (clear : w.sbi.journalError = none) (sound : (atCommit w).sbi.journalError = none)
    (block : Nat) (outside : ¬ area.Inside block) (member : block ∈ (committing w).homes) :
    Agrees block ((atCommit w).cache block) ((ledger.committed w).newest block) := by
  obtain ⟨home, ring⟩ := inv.ring
  have mode := ring.mode
  change Agrees block _ (if block ∈ (committing w).homes ∧ (block = 0 ∨ block ∈ w.sbi.tableBlocks)
    then (atCommit w).cache block else ledger.newest block)
  by_cases own : block = 0 ∨ block ∈ w.sbi.tableBlocks
  · rw [if_pos ⟨member, own⟩]
    exact Agrees.refl _ _
  · rw [if_neg (fun both => own both.2)]
    obtain ⟨apart, group⟩ := not_or.mp own
    have same := atCommit_cache mode.first mode.table mode.enabled mode.v3 mode.live block apart
      (by
        rintro index before rfl
        exact group (List.mem_map_of_mem (List.mem_range.mpr before)))
    rw [same]
    apply (inv.opened opened clear block outside).1
    exact ((atCommit_homes mode opened sound block).mp member).resolve_left apart

theorem NewestInv.committed (opened : w.sbi.journalActiveSequence ≠ 0) (meets : CommitRoom w)
    (table : ∀ block, block ∈ w.sbi.tableBlocks → block ∉ (committing w).homes →
      (atCommit w).cache block = ledger.newest block)
    (success : journalV3Commit w = (.ok (), after)) :
    NewestInv first after area count (ledger.committed w) := by
  obtain ⟨home, ring⟩ := inv.ring
  obtain ⟨writes, step, point, length, mount, next⟩ := ring.commit (by rw [success]) opened meets
  obtain ⟨idle, size, cells⟩ := ring.commit_outside success
  obtain ⟨clear, sound, _⟩ := journalV3Commit_success (w := w) (by rw [success])
  rw [success] at step mount next
  have pending : (ledger.committed w).pending = ledger.pending ++ [committing w] := rfl
  have images : imagesOf (ledger.pending ++ [committing w]) =
      imagesOf ledger.pending ++ (committing w).images := by
    rw [imagesOf_append, imagesOf_cons, imagesOf_nil, List.append_nil]
  have settled : (ledger.committed w).settled = fun block =>
      if block ∈ (committing w).homes
      then some ((journalV3Prepare w).2.log.length + 1, (ledger.committed w).newest block)
      else ledger.settled block := rfl
  have inside : ∀ block, ¬ area.Inside block → block ∈ (committing w).homes →
      ∀ cells : Nat → Block, Agrees block (applyWrites cells (committing w).images block)
        ((ledger.committed w).newest block) := by
    intro block outside member cells
    rw [committing_apply w cells block member]
    exact inv.recorded opened clear sound block outside member
  have beside := inv.beside opened clear sound table
  have newest : ∀ block, block ∉ (committing w).homes →
      (ledger.committed w).newest block = ledger.newest block :=
    fun block absent => if_neg (fun both => absent both.1)
  have cached : ∀ block, ¬ area.Inside block → block ∉ (committing w).homes →
      Agrees block (applyWrites after.cache (imagesOf ledger.pending) block)
        (ledger.newest block) := by
    intro block outside absent
    rw [WriteLog.applyWrites_congr_at _ (atCommit w).cache _ _ (cells block outside).1]
    exact (beside block outside absent).2
  constructor
  case ring => exact ⟨_, next⟩
  case closed =>
    intro _ block outside
    rw [pending, images, WriteLog.applyWrites_append]
    by_cases member : block ∈ (committing w).homes
    · exact inside block outside member _
    · rw [committing_apply_other w _ block member, newest block member]
      exact cached block outside member
  case opened => exact fun again => absurd idle again
  case clean =>
    intro block outside group still
    rw [mount.tableBlocks_eq] at group
    obtain ⟨cache, disk, dirty⟩ := cells block outside
    have mode := ring.mode
    rw [dirty, atCommit_dirty mode] at still
    by_cases zero : block = 0
    · rw [zero, WriteLog.store_same] at still
      cases still
    · rw [WriteLog.store_other _ _ _ _ zero] at still
      rw [cache, disk, atCommit_cache mode.first mode.table mode.enabled mode.v3 mode.live block
        zero (by
          rintro index before rfl
          exact group (List.mem_map_of_mem (List.mem_range.mpr before)))]
      exact inv.clean block outside group still
  case settled =>
    intro block since content here found
    have here : HomeBlock w area block := ⟨size ▸ here.1, here.2⟩
    rw [settled] at found
    rw [pending, images, WriteLog.applyWrites_append, WriteLog.applyWrites_append]
    by_cases member : block ∈ (committing w).homes
    · dsimp only at found
      rw [if_pos member] at found
      obtain ⟨rfl, rfl⟩ := Prod.mk.inj (Option.some.inj found)
      have grown := inv.since
      exact ⟨by omega, inside block here.2 member _, inside block here.2 member _⟩
    · dsimp only at found
      rw [if_neg member] at found
      obtain ⟨early, old, stored⟩ := inv.settled block since content here found
      rw [committing_apply_other w _ block member, committing_apply_other w _ block member]
      refine ⟨early, ?_, ?_⟩
      · exact (cached block here.2 member).trans
          ((beside block here.2 member).1.symm.trans old)
      · rw [WriteLog.applyWrites_congr_at _ w.disk _ _ (cells block here.2).2.1]
        exact stored
  case restores =>
    apply inv.restores_step step size
    intro block since content here found
    rw [settled] at found
    by_cases member : block ∈ (committing w).homes
    · dsimp only at found
      rw [if_pos member] at found
      obtain ⟨rfl, rfl⟩ := Prod.mk.inj (Option.some.inj found)
      refine ⟨fun early => by omega, fun written late => ?_⟩
      rw [if_neg (by omega)]
      exact inside block here.2 member _
    · dsimp only at found
      rw [if_neg member] at found
      have stored := (inv.settled block since content here found).2.2
      refine ⟨fun _ => found, fun written _ => ?_⟩
      have owes := (ring.same.agrees block here.2).symm.trans stored
      split
      · exact owes
      · rw [committing_apply_other w _ block member]
        exact owes
  case since =>
    rw [step.log, List.length_append]
    exact Nat.le_add_right_of_le inv.since
  case device => exact inv.device_step step mount

/-- The buffers as `cryexts_sync_metadata` is about to flush them. -/
theorem NewestInv.prepared (closed : w.sbi.journalActiveSequence = 0)
    (table : ∀ block, block ∈ w.sbi.tableBlocks →
      (gdtPrepareWrite w).cache block = ledger.newest block) :
    NewestInv first (metadataPrepared w) area count ledger := by
  obtain ⟨home, ring⟩ := inv.ring
  have mode := ring.mode
  have worked := metadataPrepared_worked mode
  have quiet := worked.toQuiet
  have super := metadataPrepared_super mode
  obtain ⟨still, buffers, zeroth⟩ := metadataPrepared_cells w
  have newest : ∀ block, ¬ area.Inside block →
      Agrees block (applyWrites (metadataPrepared w).cache (imagesOf ledger.pending) block)
        (ledger.newest block) := by
    intro block outside
    have old := inv.closed closed block outside
    by_cases zero : block = 0
    · apply Agrees.trans (Agrees.applyWrites _ _) old
      rw [Agrees, if_pos zero, zero]
      exact super
    · by_cases group : block ∈ w.sbi.tableBlocks
      · apply old.under
        apply Agrees.of_eq
        rw [(buffers block zero).1]
        exact table block group
      · have same : (metadataPrepared w).cache block = w.cache block := by
          rw [(buffers block zero).1]
          apply gdtPrepareWrite_cache
          rintro index before rfl
          exact group (List.mem_map_of_mem (List.mem_range.mpr before))
        rw [WriteLog.applyWrites_congr_at _ w.cache _ _ same]
        exact old
  have next : RingInv (metadataPrepared w) area count ledger.pending home := by
    apply ring.quiet quiet (super.describes ring.describes)
    · exact ring.records.of_same quiet.area still
    · exact Or.inl (worked.active.trans closed)
    · rw [worked.active]
      exact ring.small
  constructor
  case ring => exact ⟨home, next⟩
  case closed => exact fun _ => newest
  case opened => exact fun opened => absurd (worked.active.trans closed) opened
  case clean =>
    intro block outside group clean
    rw [quiet.mount.tableBlocks_eq] at group
    have copied : (metadataPrepared w).cache block = (gdtPrepareWrite w).cache block ∧
        w.dirty block = false := by
      by_cases zero : block = 0
      · rw [zero] at clean ⊢
        exact zeroth clean
      · exact ⟨(buffers block zero).1, (buffers block zero).2.symm.trans clean⟩
    rw [quiet.disk, copied.1, gdtPrepareWrite_cache]
    · exact inv.clean block outside group copied.2
    · rintro index before rfl
      exact group (List.mem_map_of_mem (List.mem_range.mpr before))
  case settled =>
    intro block since content here settled
    have here : HomeBlock w area block := ⟨quiet.size ▸ here.1, here.2⟩
    obtain ⟨early, old, stored⟩ := inv.settled block since content here settled
    rw [quiet.disk]
    refine ⟨early, ?_, stored⟩
    exact (newest block here.2).trans ((inv.closed closed block here.2).symm.trans old)
  case restores =>
    apply inv.restores_step (ring.nothing quiet) quiet.size
    intro block since content here settled
    refine ⟨fun _ => settled, fun _ _ => ?_⟩
    apply (ring.same.agrees block here.2).symm.trans
    exact (inv.settled block since content here settled).2.2
  case since =>
    rw [quiet.log]
    exact inv.since
  case device => exact inv.device_step (ring.nothing quiet) quiet.mount

theorem NewestInv.synced (closed : w.sbi.journalActiveSequence = 0)
    (table : ∀ block, block ∈ w.sbi.tableBlocks →
      (gdtPrepareWrite w).cache block = ledger.newest block) :
    NewestInv first (syncMetadata w).2 area count
      (ledger.synced (syncMetadata w).2.log.length) := by
  obtain ⟨home, ring⟩ := inv.ring
  have worked := metadataPrepared_worked ring.mode
  have prepared := inv.prepared closed table
  obtain ⟨writes, run, own, groups, covers⟩ := syncMetadata_run ring.mode.healthy
  rw [run]
  dsimp only
  have flushed := prepared.flush own
  have clean := prepared.clean
  rw [← worked.toQuiet.mount.tableBlocks_eq] at groups
  rw [← worked.toQuiet.size] at covers
  have idle : ((metadataPrepared w).writtenAll writes).sbi.journalActiveSequence = 0 := by
    rw [World.writtenAll_sbi, worked.active]
    exact closed
  generalize metadataPrepared w = v at *
  have size : (v.writtenAll writes).size = v.size := World.writtenAll_size v writes
  have device : ∀ block, HomeBlock v area block →
      (v.writtenAll writes).disk block = (v.writtenAll writes).cache block := by
    intro block here
    rw [World.writtenAll_disk, World.writtenAll_cache]
    by_cases member : block ∈ writes.map Prod.fst
    · exact WriteLog.applyWrites_written _ _ _ _ member
    · apply WriteLog.applyWrites_congr_at
      have group : block ∉ v.sbi.tableBlocks := fun group => member (groups block group)
      have unmarked : v.dirty block = false := by
        cases marked : v.dirty block with
        | false => rfl
        | true => exact absurd (covers block here.1 marked) member
      exact (clean block here.2 group unmarked).symm
  obtain ⟨_, next⟩ := flushed.ring
  have newest := flushed.closed idle
  have stored : ∀ block, HomeBlock v area block →
      Agrees block (applyWrites (v.writtenAll writes).disk (imagesOf ledger.pending) block)
        (ledger.newest block) := by
    intro block here
    rw [WriteLog.applyWrites_congr_at _ _ _ _ (device block here)]
    exact newest block here.2
  constructor
  case ring => exact flushed.ring
  case closed => exact flushed.closed
  case opened => exact flushed.opened
  case clean => exact flushed.clean
  case settled =>
    intro block since content here settled
    have here : HomeBlock v area block := ⟨size ▸ here.1, here.2⟩
    obtain ⟨rfl, rfl⟩ := Prod.mk.inj (Option.some.inj settled)
    exact ⟨flushed.since, newest block here.2, stored block here⟩
  case restores =>
    intro block since content here settled written early late
    have here : HomeBlock v area block := ⟨size ▸ here.1, here.2⟩
    obtain ⟨rfl, rfl⟩ := Prod.mk.inj (Option.some.inj settled)
    have whole : (v.writtenAll writes).crashAt written = (v.writtenAll writes).disk := by
      rw [World.crashAt, List.take_of_length_le early]
      rfl
    rw [whole]
    exact ⟨_, next.image _ rfl next.held (SameHome.refl _), stored block here⟩
  case since => exact flushed.since
  case device => exact flushed.device

end Step

theorem UpdateRun.inv {first w : World} {area : JournalArea} {count : Nat} {ledger : Ledger}
    (mounted : RingMounted first area count) (clean : CleanBuffers first area)
    (run : UpdateRun count first w ledger) : NewestInv first w area count ledger := by
  induction run with
  | mounted =>
      have ring := mounted.inv
      constructor
      case ring => exact ⟨_, ring⟩
      case closed => exact fun _ block _ => Agrees.refl _ _
      case opened => exact fun opened => absurd mounted.closed opened
      case clean => exact clean
      case settled => exact fun _ _ _ _ settled => by cases settled
      case restores => exact fun _ _ _ _ settled => by cases settled
      case since => exact Nat.le_refl _
      case device =>
        intro written early late
        have whole : first.crashAt written = first.disk := by
          rw [World.crashAt, List.take_of_length_le early]
          rfl
        rw [whole]
        exact ring.device
  | silent work _ silent ih => exact ih.silent work silent
  | updated block content _ sound fresh ih => exact ih.updated block content sound fresh
  | barrier _ ih => exact ih.barrier
  | committed _ opened meets table success ih => exact ih.committed opened meets table success
  | synced _ closed table ih => exact ih.synced closed table
  | checkpointed _ closed ih => exact ih.checkpointed closed

end Cryexts
