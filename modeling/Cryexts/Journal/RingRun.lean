import Cryexts.Journal.RingInvariant

set_option autoImplicit false

namespace Cryexts

open WriteLog (store applyWrites)

/-- What the file system does between commits: it changes buffers, the allocation cursors
and the group storage, and opens, extends and abandons transactions. -/
inductive FsWork
  | write (block : Nat) (content : Block)
  | cursors (nextIno nextDataBlock : Nat)
  | storage (bytes : Nat → UInt8)
  | start
  | record (block : Nat)
  | abort

namespace FsWork

def run : FsWork → World → World
  | write block content, w => w.dirtyBuffer block content
  | cursors nextIno nextDataBlock, w =>
      { w with sbi := { w.sbi with nextIno := nextIno, nextDataBlock := nextDataBlock } }
  | storage bytes, w => { w with sbi := { w.sbi with gdtStorage := bytes } }
  | start, w => (journalV3Begin w).2
  | record block, w => journalRecordBh block w
  | abort, w => journalV3Abort w

/-- Nothing but the journal writes its blocks, and block 0 stays the superblock. -/
def Sound : FsWork → World → Nat → Prop
  | write block content, w, count =>
      ¬ w.sbi.area.Inside block ∧ (block = 0 → Describes content w.sbi count)
  | _, _, _ => True

end FsWork

/-- The runs of a mount that began in `first`: work, commits whose every start is
`allowed`, and checkpoint steps, in any order. The history holds each committed
transaction and the number of device writes after which its commit record is there. -/
inductive RingRun (allowed : World → Prop) (count : Nat) (first : World) :
    World → List (Transaction × Nat) → Prop
  | mounted : RingRun allowed count first first []
  | work {w : World} {history : List (Transaction × Nat)} (work : FsWork)
      (before : RingRun allowed count first w history) (sound : work.Sound w count) :
      RingRun allowed count first (work.run w) history
  | commit {w after : World} {history : List (Transaction × Nat)}
      (before : RingRun allowed count first w history)
      (opened : w.sbi.journalActiveSequence ≠ 0) (meets : allowed w)
      (success : journalV3Commit w = (.ok (), after)) :
      RingRun allowed count first after
        (history ++ [(committing w, (journalV3Prepare w).2.log.length + 1)])
  | checkpoint {w : World} {history : List (Transaction × Nat)}
      (before : RingRun allowed count first w history) :
      RingRun allowed count first (journalV3CheckpointOne w).2 history

/-- A run whose commits are allowed less is a run. -/
theorem RingRun.mono {allowed wider : World → Prop} {count : Nat} {first w : World}
    {history : List (Transaction × Nat)} (weaker : ∀ w, allowed w → wider w)
    (run : RingRun allowed count first w history) : RingRun wider count first w history := by
  induction run with
  | mounted => exact RingRun.mounted
  | work work _ sound ih => exact RingRun.work work ih sound
  | commit _ opened meets success ih => exact RingRun.commit ih opened (weaker _ meets) success
  | checkpoint _ ih => exact RingRun.checkpoint ih

/-- The transactions whose commit record is among the first `written` device writes. -/
def durable (history : List (Transaction × Nat)) (written : Nat) : List Transaction :=
  (history.filter fun entry => entry.2 ≤ written).map Prod.fst

/-- The home content a crash after `written` device writes owes. -/
def owed (first : World) (history : List (Transaction × Nat)) (written : Nat) : Nat → Block :=
  applyWrites first.disk (imagesOf (durable history written))

theorem durable_all (history : List (Transaction × Nat)) (written : Nat)
    (all : ∀ entry, entry ∈ history → entry.2 ≤ written) :
    durable history written = history.map Prod.fst := by
  have kept : history.filter (fun entry => entry.2 ≤ written) = history := by
    apply List.filter_eq_self.mpr
    intro entry member
    simpa using all entry member
  rw [durable, kept]

/-- A commit counts from its commit record on. -/
theorem owed_snoc (first : World) (history : List (Transaction × Nat)) (t : Transaction)
    (point written : Nat) : owed first (history ++ [(t, point)]) written =
      if point ≤ written then applyWrites (owed first history written) t.images
      else owed first history written := by
  unfold owed durable
  rw [List.filter_append, List.map_append, imagesOf_append, WriteLog.applyWrites_append]
  by_cases here : point ≤ written
  · simp [here, imagesOf]
  · simp [here]

/-- A clean mount of a ring journal. -/
structure RingMounted (w : World) (area : JournalArea) (count : Nat) : Prop where
  mode : JournalMode w
  ring : w.sbi.journalRing = true
  ready : Ready w area count
  long : JOURNAL_V3_MIN_BLOCKS ≤ area.blocks
  limit : area.first + area.blocks < 2 ^ 64
  describes : Describes (w.cache 0) w.sbi count
  device : Describes (w.disk 0) w.sbi count
  journal : ∀ block, area.Inside block → w.cache block = w.disk block
  closed : w.sbi.journalActiveSequence = 0
  recorded : w.sbi.journalHomeBlocks = []
  sequence : w.sbi.journalSequence = w.sbi.journalLastSequence
  checkpoint : w.sbi.journalCheckpointSequence = w.sbi.journalLastSequence
  empty : w.sbi.journalRingTail = w.sbi.journalRingHead
  control : RingControl area (w.disk area.first) JOURNAL_V3_STATE_IDLE w.sbi.journalLastSequence 0
    w.sbi.journalLastSequence w.sbi.journalRingHead w.sbi.journalRingHead

theorem RingMounted.inv {w : World} {area : JournalArea} {count : Nat}
    (mounted : RingMounted w area count) : RingInv w area count [] w.disk := by
  have control := mounted.control
  constructor
  case mode => exact mounted.mode
  case ring => exact mounted.ring
  case ready => exact mounted.ready
  case long => exact mounted.long
  case limit => exact mounted.limit
  case describes => exact mounted.describes
  case device => exact mounted.device
  case images => simp
  case records =>
    refine ⟨?_, ?_, ?_⟩ <;> simp [mounted.recorded]
  case journal => exact mounted.journal
  case held => exact ⟨by simp, fun image member => by simp at member, trivial, trivial⟩
  case chain => exact mounted.empty
  case headLow => exact control.headLow
  case headHigh => exact control.headHigh
  case tailLow => rw [mounted.empty]; exact control.headLow
  case tailHigh => rw [mounted.empty]; exact control.headHigh
  case last => exact mounted.checkpoint.symm
  case sequence => exact mounted.sequence
  case opened => exact Or.inl mounted.closed
  case small => rw [mounted.closed]; exact Nat.two_pow_pos 64
  case control =>
    rw [if_pos rfl, mounted.checkpoint, mounted.empty]
    exact control
  case supers => simp
  case same => exact SameHome.refl _

private theorem emptyRecords (sbi : SbInfo) (count : Nat) (empty : sbi.journalHomeBlocks = []) :
    RecordSet sbi count := by
  refine ⟨?_, ?_, ?_⟩ <;> simp [empty]

theorem Quiet.refl (w : World) : Quiet w w := (Worked.refl w).toQuiet

/-- What work between commits keeps of a mount, in either layout: the superblock's description,
the record set, and a transaction number that is the old one, none or the next. -/
structure FsWork.Kept (w after : World) (count : Nat) : Prop where
  quiet : Quiet w after
  describes : Describes (after.cache 0) w.sbi count
  records : RecordSet after.sbi count
  active : after.sbi.journalActiveSequence = w.sbi.journalActiveSequence ∨
    after.sbi.journalActiveSequence = 0 ∨
    after.sbi.journalActiveSequence = u64 (w.sbi.journalSequence + 1)

/-- Work between commits is quiet. -/
theorem FsWork.kept {w : World} {count : Nat} (mode : JournalMode w)
    (counted : blocksCount w = count) (describes : Describes (w.cache 0) w.sbi count)
    (records : RecordSet w.sbi count) (work : FsWork) (sound : work.Sound w count) :
    FsWork.Kept w (work.run w) count := by
  have same : ∀ sbi : SbInfo, sbi.area = w.sbi.area →
      sbi.journalHomeBlocks = w.sbi.journalHomeBlocks → RecordSet sbi count :=
    fun sbi area homes => records.of_same area homes
  cases work with
  | write block content =>
      obtain ⟨outside, super⟩ := sound
      refine ⟨⟨rfl, rfl, rfl, rfl, rfl, ?_, rfl⟩, ?_, same _ rfl rfl, Or.inl rfl⟩
      · intro other inside
        apply WriteLog.store_other
        rintro rfl
        exact outside inside
      · change Describes (store w.cache block content 0) w.sbi count
        by_cases zero : block = 0
        · rw [zero, WriteLog.store_same]
          exact super zero
        · rw [WriteLog.store_other _ _ _ _ (Ne.symm zero)]
          exact describes
  | cursors nextIno nextDataBlock =>
      exact ⟨⟨rfl, rfl, rfl, rfl, rfl, fun _ _ => rfl, rfl⟩, describes, same _ rfl rfl, Or.inl rfl⟩
  | storage bytes =>
      exact ⟨⟨rfl, rfl, rfl, rfl, rfl, fun _ _ => rfl, rfl⟩, describes, same _ rfl rfl, Or.inl rfl⟩
  | start =>
      change FsWork.Kept w (journalV3Begin w).2 count
      by_cases refused : w.sbi.journalActiveSequence ≠ 0 ∨ w.sbi.journalV3PayloadCapacity = 0
      · have kept : (journalV3Begin w).2 = w := by
          rcases refused with opened | full
          · simp [journalV3Begin, opened]
          · by_cases closed : w.sbi.journalActiveSequence = 0
            · simp [journalV3Begin, full, closed]
            · simp [journalV3Begin, closed]
        rw [kept]
        exact ⟨Quiet.refl w, describes, records, Or.inl rfl⟩
      · have closed : w.sbi.journalActiveSequence = 0 := by
          by_contra opened
          exact refused (Or.inl opened)
        have room : w.sbi.journalV3PayloadCapacity ≠ 0 := fun full => refused (Or.inr full)
        have begun : (journalV3Begin w).2 = { w with sbi :=
            { w.sbi.journalV3ClearRuntime with
              journalActiveSequence := u64 (w.sbi.journalSequence + 1) } } := by
          simp [journalV3Begin, closed, room]
        rw [begun]
        exact ⟨⟨rfl, rfl, rfl, rfl, rfl, fun _ _ => rfl, rfl⟩, describes, emptyRecords _ _ rfl,
          Or.inr (Or.inr rfl)⟩
  | record block =>
      have worked := journalRecordBh_worked block mode.enabled mode.v3 mode.live
      have cache := (journalRecordBh_cache block mode.enabled mode.v3 mode.live).1
      have set := journalRecordBh_recordSet block mode.enabled mode.v3 mode.live counted records
      exact ⟨worked.toQuiet, cache.symm ▸ describes, set, Or.inl worked.active⟩
  | abort =>
      exact ⟨⟨rfl, rfl, rfl, rfl, rfl, fun _ _ => rfl, rfl⟩, describes, emptyRecords _ _ rfl,
        Or.inr (Or.inl rfl)⟩

/-- Work between commits keeps the ring as it is. -/
theorem RingInv.work {w : World} {area : JournalArea} {count : Nat} {pending : List Transaction}
    {home : Nat → Block} (inv : RingInv w area count pending home) (work : FsWork)
    (sound : work.Sound w count) :
    Quiet w (work.run w) ∧ RingInv (work.run w) area count pending home := by
  have kept := FsWork.kept inv.mode inv.ready.sameCount inv.describes inv.records work sound
  have last := inv.control.last_lt
  rw [← inv.sequence] at last
  have next : u64 (w.sbi.journalSequence + 1) = 0 ∨
      u64 (w.sbi.journalSequence + 1) = w.sbi.journalSequence + 1 := by
    unfold u64
    omega
  refine ⟨kept.quiet, inv.quiet kept.quiet kept.describes kept.records ?_ ?_⟩
  · rcases kept.active with same | none | begun
    · rw [same]
      exact inv.opened
    · exact Or.inl none
    · rw [begun]
      exact next
  · rcases kept.active with same | none | begun
    · rw [same]
      exact inv.small
    · rw [none]
      exact Nat.two_pow_pos 64
    · rw [begun]
      exact u64_lt _

/-- A quiet step writes nothing. -/
theorem RingInv.nothing {w after : World} {area : JournalArea} {count : Nat}
    {pending : List Transaction} {home : Nat → Block}
    (inv : RingInv w area count pending home) (quiet : Quiet w after) :
    RingWrites w after area count [] (fun _ => home) := by
  refine ⟨quiet.base, by rw [quiet.log, List.append_nil], ?_, ?_⟩
  · intro written
    rw [List.take_nil]
    exact inv.image w.disk rfl inv.held inv.same
  · intro written
    rw [List.take_nil]
    exact inv.device

theorem RingInv.checkpointAny {w : World} {area : JournalArea} {count : Nat}
    {pending : List Transaction} {home : Nat → Block}
    (inv : RingInv w area count pending home) :
    (journalV3CheckpointOne w).1 = .ok () ∧
      SameMount (journalV3CheckpointOne w).2.sbi w.sbi ∧ ∃ writes rest,
      RingWrites w (journalV3CheckpointOne w).2 area count writes (fun _ => home) ∧
        RingInv (journalV3CheckpointOne w).2 area count rest home := by
  cases pending with
  | nil =>
      have same := journalV3CheckpointOne_empty w inv.chain
      rw [same]
      exact ⟨rfl, (Quiet.refl w).mount, [], [], inv.nothing (Quiet.refl w), inv⟩
  | cons t ts =>
      obtain ⟨result, mount, writes, after⟩ := inv.checkpointStep
      exact ⟨result, mount, _, ts, writes, after⟩

/-- What holds after any run: the ring invariant now, and at every crash point since the
mount a device that recovery knows. -/
structure RunInv (first w : World) (area : JournalArea) (count : Nat)
    (history : List (Transaction × Nat)) : Prop where
  ring : ∃ pending, RingInv w area count pending (owed first history w.log.length)
  points : ∀ entry, entry ∈ history → entry.2 ≤ w.log.length
  since : first.log.length ≤ w.log.length
  image : ∀ written, first.log.length ≤ written → written ≤ w.log.length →
    RingImage area count (w.crashAt written) (owed first history written)
  device : ∀ written, first.log.length ≤ written → written ≤ w.log.length →
    Describes (w.crashAt written 0) w.sbi count

/-- The crash points a step adds behind the earlier ones. -/
theorem crashAt_append {w after : World} {writes : List (Nat × Block)}
    (base : after.base = w.base) (log : after.log = w.log ++ writes) (written : Nat) :
    (written ≤ w.log.length ∧ after.crashAt written = w.crashAt written) ∨
      (w.log.length ≤ written ∧
        after.crashAt written = applyWrites w.disk (writes.take (written - w.log.length))) := by
  by_cases early : written ≤ w.log.length
  · refine Or.inl ⟨early, ?_⟩
    rw [World.crashAt, World.crashAt, base, log, List.take_append_of_le_length early]
  · refine Or.inr ⟨by omega, ?_⟩
    rw [World.crashAt, base, log, List.take_append, List.take_of_length_le (by omega),
      WriteLog.applyWrites_append]
    rfl

theorem owed_early (first : World) (history : List (Transaction × Nat)) (written more : Nat)
    (points : ∀ entry, entry ∈ history → entry.2 ≤ written) (later : written ≤ more) :
    owed first history more = owed first history written := by
  unfold owed
  rw [durable_all history written points,
    durable_all history more (fun entry member => (points entry member).trans later)]

/-- A step that only writes what the ring already owes. -/
theorem RunInv.advance {first w after : World} {area : JournalArea} {count : Nat}
    {history : List (Transaction × Nat)} (inv : RunInv first w area count history)
    {writes : List (Nat × Block)} {rest : List Transaction}
    (step : RingWrites w after area count writes
      (fun _ => owed first history w.log.length))
    (same : SameMount after.sbi w.sbi)
    (ring : RingInv after area count rest (owed first history w.log.length)) :
    RunInv first after area count history := by
  have length : after.log.length = w.log.length + writes.length := by
    rw [step.log, List.length_append]
  have kept : ∀ written, w.log.length ≤ written →
      owed first history written = owed first history w.log.length :=
    fun written later => owed_early first history _ _ inv.points later
  constructor
  · refine ⟨rest, ?_⟩
    rw [kept _ (by omega)]
    exact ring
  · intro entry member
    exact (inv.points entry member).trans (by omega)
  · exact inv.since.trans (by omega)
  · intro written early late
    rcases crashAt_append step.base step.log written with ⟨before, crash⟩ | ⟨beyond, crash⟩
    · rw [crash]
      exact inv.image written early before
    · rw [crash, kept written beyond]
      exact step.image _
  · intro written early late
    rcases crashAt_append step.base step.log written with ⟨before, crash⟩ | ⟨beyond, crash⟩
    · rw [crash]
      exact (inv.device written early before).of_same same
    · rw [crash]
      exact (step.device _).of_same same

section Run

variable {first w after : World} {area : JournalArea} {count : Nat}
variable {history : List (Transaction × Nat)} (inv : RunInv first w area count history)
include inv

theorem RunInv.work (work : FsWork) (sound : work.Sound w count) :
    RunInv first (work.run w) area count history := by
  obtain ⟨pending, ring⟩ := inv.ring
  obtain ⟨quiet, next⟩ := ring.work work sound
  exact inv.advance (ring.nothing quiet) quiet.mount next

theorem RunInv.checkpoint : RunInv first (journalV3CheckpointOne w).2 area count history := by
  obtain ⟨pending, ring⟩ := inv.ring
  obtain ⟨_, mount, writes, rest, step, next⟩ := ring.checkpointAny
  exact inv.advance step mount next

/-- A commit adds its transaction to what a crash owes, from its commit record on. -/
theorem RunInv.commit (opened : w.sbi.journalActiveSequence ≠ 0) (meets : CommitRoom w)
    (success : journalV3Commit w = (.ok (), after)) :
    RunInv first after area count
      (history ++ [(committing w, (journalV3Prepare w).2.log.length + 1)]) := by
  obtain ⟨pending, ring⟩ := inv.ring
  obtain ⟨writes, step, point, length, mount, next⟩ :=
    ring.commit (by rw [success]) opened meets
  rw [success] at step mount next
  rw [point]
  have total : after.log.length = w.log.length + ((committing w).images.length + 4) := by
    rw [step.log, List.length_append, length]
  have kept : ∀ written, w.log.length ≤ written →
      owed first history written = owed first history w.log.length :=
    fun written later => owed_early first history _ _ inv.points later
  constructor
  · refine ⟨pending ++ [committing w], ?_⟩
    rw [owed_snoc, if_pos (by omega), kept _ (by omega)]
    exact next
  · intro entry member
    rcases List.mem_append.mp member with earlier | here
    · exact (inv.points entry earlier).trans (by omega)
    · rw [List.mem_singleton.mp here]
      dsimp only
      omega
  · exact inv.since.trans (by omega)
  · intro written early late
    rw [owed_snoc]
    rcases crashAt_append step.base step.log written with ⟨before, crash⟩ | ⟨beyond, crash⟩
    · rw [crash, if_neg (by omega)]
      exact inv.image written early before
    · rw [crash, kept written beyond]
      have image := step.image (written - w.log.length)
      by_cases counted : w.log.length + ((committing w).images.length + 3) ≤ written
      · rw [if_pos counted]
        rwa [if_neg (by omega)] at image
      · rw [if_neg counted]
        rwa [if_pos (by omega)] at image
  · intro written early late
    rcases crashAt_append step.base step.log written with ⟨before, crash⟩ | ⟨beyond, crash⟩
    · rw [crash]
      exact (inv.device written early before).of_same mount
    · rw [crash]
      exact (step.device _).of_same mount

end Run

/-- Every run of commits that meet their conditions keeps the invariant. -/
theorem RingRun.inv {first w : World} {area : JournalArea} {count : Nat}
    {history : List (Transaction × Nat)} (mounted : RingMounted first area count)
    (run : RingRun CommitRoom count first w history) : RunInv first w area count history := by
  induction run with
  | mounted =>
      have ring := mounted.inv
      have disk : first.crashAt first.log.length = first.disk := by
        rw [World.crashAt, List.take_length]
        rfl
      have nothing : ∀ written, owed first [] written = first.disk := fun _ => rfl
      refine ⟨⟨[], ?_⟩, by simp, Nat.le_refl _, ?_, ?_⟩
      · rw [nothing]
        exact ring
      · intro written early late
        rw [Nat.le_antisymm late early, nothing, disk]
        exact ring.image first.disk rfl ring.held ring.same
      · intro written early late
        rw [Nat.le_antisymm late early, disk]
        exact ring.device
  | work work _ sound ih => exact ih.work work sound
  | commit _ opened meets success ih => exact ih.commit opened meets success
  | checkpoint _ ih => exact ih.checkpoint

/-- The mount of a crashed ring. -/
theorem ringMount_of_describes {image : Nat → Block} {w : World} {area : JournalArea}
    {count : Nat} {pending : List Transaction} {home : Nat → Block}
    (inv : RingInv w area count pending home) (describes : Describes (image 0) w.sbi count) :
    RingMount (mounting image w.size) area count := by
  obtain ⟨same, _, _, _, ring⟩ := describes.loaded
  have area' : (mounting image w.size).sbi.area = area := same.trans inv.ready.sameArea
  have count' : blocksCount (mounting image w.size) = count := describes.blocksCount
  have size : (mounting image w.size).size = w.size := rfl
  have ready : Ready (mounting image w.size) area count := by
    refine ⟨mounting_healthy image w.size, area', count', ?_, ?_, ?_⟩ <;> rw [size]
    · exact inv.ready.journal
    · exact inv.ready.homes
    · exact inv.ready.bounded
  refine RingMount.mk ready ?_ ?_ ?_ ?_ ?_ ?_ ?_ ?_
  case refine_1 => rfl
  case refine_2 => exact ring.trans inv.ring
  case refine_3 => rfl
  case refine_4 =>
    rw [← inv.ready.sameArea]
    exact inv.mode.first
  case refine_5 => exact inv.long
  case refine_6 => exact inv.limit
  case refine_7 => rfl
  case refine_8 => rfl

/-- Replay after a crash at any point of such a run succeeds and leaves exactly what was
owed, with the allocation cursors the crashed device had. -/
theorem ringRun_recovers {first w : World} {area : JournalArea} {count : Nat}
    {history : List (Transaction × Nat)} (mounted : RingMounted first area count)
    (run : RingRun CommitRoom count first w history) (written : Nat)
    (since : first.log.length ≤ written) (until_ : written ≤ w.log.length) :
    ∃ after, journalV3ReplayRing (mounting (w.crashAt written) w.size) = (.ok (), after) ∧
      RingRecovered area (w.crashAt written) after.disk (owed first history written) := by
  have inv := run.inv mounted
  obtain ⟨pending, ring⟩ := inv.ring
  exact replayRing_recovers
    (ringMount_of_describes ring (inv.device written since until_)) _
    (inv.image written since until_)

end Cryexts
