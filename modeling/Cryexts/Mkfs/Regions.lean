import Cryexts.Mkfs.Groups
import Mathlib.Algebra.BigOperators.Group.Finset.Piecewise
import Mathlib.Order.Interval.Finset.Nat

set_option autoImplicit false

namespace Cryexts

/-- The blocks of the last group. -/
def tailBlocks (g : MkfsGeometry) : Nat :=
  g.blocksCount - (g.groupCount - 1) * g.blocksPerGroup

/-- What `main` has computed for a device with block groups. -/
structure Grouped (g : MkfsGeometry) : Prop where
  large : 20 ≤ g.blocksCount
  perGroup : g.blocksPerGroup = min g.blocksCount 4096
  count : 0 < g.groupCount
  reach : (g.groupCount - 1) * g.blocksPerGroup < g.blocksCount
  cover : g.blocksCount ≤ (g.groupCount - 1) * g.blocksPerGroup + g.blocksPerGroup
  table : 1 ≤ g.gdtBlocks
  tableSize : g.gdtBlocks = divRoundUp (g.groupCount * GROUP_DESC_SIZE) BLOCK_SIZE
  blockBitmap : g.rootBlockBitmapBlock = g.gdtBlocks + 1
  inodeBitmap : g.rootInodeBitmapBlock = g.gdtBlocks + 2
  inodeTable : g.rootInodeTableStart = g.gdtBlocks + 3
  rootDir : g.rootDirBlock = g.gdtBlocks + 7
  root : g.gdtBlocks + 7 < g.blocksPerGroup
  policy : g.policyTableBlock = 0 ∨
    g.policyTableBlock = g.gdtBlocks + 8 ∧ g.gdtBlocks + 8 < g.blocksPerGroup
  journal : g.journalBlocks = min (tailBlocks g - 6) 512
  journalBlock : 0 < g.journalBlocks → g.journalBlock = g.blocksCount - g.journalBlocks

/-- What `main` has computed for a device without. -/
structure Ungrouped (g : MkfsGeometry) : Prop where
  large : 20 ≤ g.blocksCount
  count : g.groupCount = 1
  blockBitmap : g.rootBlockBitmapBlock = 1
  inodeBitmap : g.rootInodeBitmapBlock = 2
  inodeTable : g.rootInodeTableStart = 3
  rootDir : g.rootDirBlock = 19
  policy : g.policyTableBlock = 0 ∨ g.policyTableBlock = 20 ∧ 20 < g.blocksCount
  journal : g.journalBlocks = 0

section Accepted

variable {options : MkfsOptions} {deviceSize : Nat} {g : MkfsGeometry}
variable (accepted : mkfsGeometry options deviceSize = some g)
include accepted

theorem mkfsGeometry_accepts : g = mkfsLayout options deviceSize ∧
    MkfsAccepts options deviceSize g := by
  unfold mkfsGeometry at accepted
  dsimp only at accepted
  split at accepted
  case isFalse => cases accepted
  case isTrue accepts =>
      injection accepted with same
      rw [← same]
      exact ⟨rfl, accepts⟩

theorem mkfsGeometry_blocks : g.blocksCount = deviceSize / BLOCK_SIZE ∧ 20 ≤ g.blocksCount := by
  obtain ⟨same, accepts⟩ := mkfsGeometry_accepts accepted
  have large := accepts.large
  have blocks : g.blocksCount = deviceSize / BLOCK_SIZE := by
    rw [same]
    rfl
  refine ⟨blocks, ?_⟩
  rw [blocks, Nat.le_div_iff_mul_le (by decide)]
  have least : BLOCK_SIZE * FIRST_FREE_DATA_BLOCK = 20 * BLOCK_SIZE := by decide
  omega

theorem mkfsGeometry_ungrouped (plain : options.useBlockGroups = false) : Ungrouped g := by
  obtain ⟨_, large⟩ := mkfsGeometry_blocks accepted
  obtain ⟨same, accepts⟩ := mkfsGeometry_accepts accepted
  have policy := accepts.policy
  constructor
  case large => exact large
  case policy =>
      have placed : g.policyTableBlock = if options.usePolicyTable then 20 else 0 := by
        rw [same]
        simp [mkfsLayout, plain, ROOT_DIR_BLOCK, INODE_TABLE_START, INODE_TABLE_BLOCKS]
      cases used : options.usePolicyTable with
      | false =>
          rw [used] at placed
          exact Or.inl placed
      | true =>
          rw [used] at placed policy
          have room := (policy.resolve_left (by decide)).2.1
          rw [placed] at room
          exact Or.inr ⟨placed, room⟩
  all_goals
    rw [same]
    simp [mkfsLayout, plain, BLOCK_BITMAP_BLOCK, INODE_BITMAP_BLOCK, ROOT_DIR_BLOCK,
      INODE_TABLE_START, INODE_TABLE_BLOCKS]

theorem mkfsGeometry_grouped (grouped : options.useBlockGroups = true) : Grouped g := by
  obtain ⟨blocks, large⟩ := mkfsGeometry_blocks accepted
  obtain ⟨same, accepts⟩ := mkfsGeometry_accepts accepted
  have policy := accepts.policy
  have root := accepts.rootGroup.resolve_left (by rw [grouped]; decide)
  have perGroup : g.blocksPerGroup = min g.blocksCount 4096 := by
    rw [same]
    simp [mkfsLayout, grouped, DEFAULT_BLOCKS_PER_GROUP]
  have count : g.groupCount = divRoundUp g.blocksCount g.blocksPerGroup := by
    rw [same]
    simp [mkfsLayout, grouped]
  have table : g.gdtBlocks = divRoundUp (g.groupCount * GROUP_DESC_SIZE) BLOCK_SIZE := by
    rw [same]
    simp [mkfsLayout, grouped]
  have bounds := divRoundUp_bounds g.blocksCount g.blocksPerGroup (by omega) (by omega)
  rw [← count] at bounds
  have whole : g.groupCount * g.blocksPerGroup =
      (g.groupCount - 1) * g.blocksPerGroup + g.blocksPerGroup := by
    rw [← Nat.succ_mul]
    congr 1
    omega
  have tables := divRoundUp_bounds (g.groupCount * GROUP_DESC_SIZE) BLOCK_SIZE (by decide)
    (Nat.mul_pos bounds.1 (by decide))
  rw [← table] at tables
  have rootDir : g.rootDirBlock = g.gdtBlocks + 7 := by
    rw [same]
    simp [mkfsLayout, grouped, GDT_START_BLOCK, DEFAULT_INODE_TABLE_BLOCKS_PER_GROUP]
    omega
  have last : min g.blocksPerGroup (g.blocksCount - (g.groupCount - 1) * g.blocksPerGroup) =
      tailBlocks g := by
    unfold tailBlocks
    omega
  have journal : g.journalBlocks = min (tailBlocks g - 6) 512 := by
    rw [← last, same]
    simp [mkfsLayout, grouped, DEFAULT_INODE_TABLE_BLOCKS_PER_GROUP, DEFAULT_JOURNAL_BLOCKS]
  constructor
  case large => exact large
  case perGroup => exact perGroup
  case count => exact bounds.1
  case reach => exact bounds.2.1
  case cover => omega
  case table => exact tables.1
  case tableSize => exact table
  case blockBitmap =>
      rw [same]
      simp [mkfsLayout, grouped, GDT_START_BLOCK]
      omega
  case inodeBitmap =>
      rw [same]
      simp [mkfsLayout, grouped, GDT_START_BLOCK]
      omega
  case inodeTable =>
      rw [same]
      simp [mkfsLayout, grouped, GDT_START_BLOCK]
      omega
  case rootDir => exact rootDir
  case root =>
      unfold GDT_START_BLOCK DEFAULT_INODE_TABLE_BLOCKS_PER_GROUP at root
      omega
  case policy =>
      have placed : g.policyTableBlock = if options.usePolicyTable then g.rootDirBlock + 1 else 0 := by
        rw [same]
        simp [mkfsLayout, grouped]
      cases used : options.usePolicyTable with
      | false =>
          rw [used] at placed
          exact Or.inl placed
      | true =>
          rw [used] at placed policy
          have room := (policy.resolve_left (by decide)).2.2.resolve_left (by rw [grouped]; decide)
          change g.policyTableBlock = g.rootDirBlock + 1 at placed
          omega
  case journal => exact journal
  case journalBlock =>
      intro some_
      have placed : g.journalBlock = if 0 < g.journalBlocks then
          (g.groupCount - 1) * g.blocksPerGroup + tailBlocks g - g.journalBlocks else 0 := by
        rw [← last, same]
        simp [mkfsLayout, grouped]
      rw [placed, if_pos some_]
      unfold tailBlocks
      omega

end Accepted

theorem foldl_add (count start : Nat) (amount : Nat → Nat) :
    (List.range count).foldl (fun total index => total + amount index) start =
      start + ∑ index ∈ Finset.range count, amount index := by
  induction count with
  | zero => rfl
  | succ count ih =>
      rw [List.range_succ, List.foldl_append, ih, Finset.sum_range_succ]
      show start + _ + amount count = _
      omega

section Spread

variable {options : MkfsOptions} {g : MkfsGeometry} (grouped : options.useBlockGroups = true)
variable (layout : Grouped g) (two : 2 ≤ g.groupCount)

include layout two

theorem Grouped.full : g.blocksPerGroup = 4096 := by
  have per := layout.perGroup
  have reach := layout.reach
  have once : g.blocksPerGroup ≤ (g.groupCount - 1) * g.blocksPerGroup :=
    Nat.le_mul_of_pos_left _ (by omega)
  omega

/-- The region a block of a device with several groups belongs to. -/
def groupedOwner (g : MkfsGeometry) (block : Nat) : Option Region :=
  let group := block / 4096
  let place := block % 4096
  if group = 0 then
    if place = 0 then some .superblock
    else if place ≤ g.gdtBlocks then some .groupTable
    else if place = g.gdtBlocks + 1 then some (.blockBitmap 0)
    else if place = g.gdtBlocks + 2 then some (.inodeBitmap 0)
    else if place < g.gdtBlocks + 7 then some (.inodeTable 0)
    else if place = g.gdtBlocks + 7 then some .rootDir
    else if place = g.gdtBlocks + 8 ∧ g.policyTableBlock ≠ 0 then some .policyTable
    else none
  else if place = 0 then some (.blockBitmap group)
  else if place = 1 then some (.inodeBitmap group)
  else if place < 6 then some (.inodeTable group)
  else if 0 < g.journalBlocks ∧ g.journalBlock ≤ block then some .journal
  else none

theorem Grouped.blockBitmap_start (group : Nat) : (mkfsGroup g group).blockBitmapBlock =
    if group = 0 then g.gdtBlocks + 1 else group * 4096 + 0 := by
  rw [mkfsGroup_blockBitmapBlock, layout.blockBitmap, layout.full two]
  by_cases zero : group = 0
  · rw [if_pos zero, if_pos zero]
  · rw [if_neg zero, if_neg zero]
    omega

theorem Grouped.inodeBitmap_start (group : Nat) : (mkfsGroup g group).inodeBitmapBlock =
    if group = 0 then g.gdtBlocks + 2 else group * 4096 + 1 := by
  rw [mkfsGroup_inodeBitmapBlock, layout.inodeBitmap, layout.full two]

theorem Grouped.inodeTable_start (group : Nat) : (mkfsGroup g group).inodeTableStart =
    if group = 0 then g.gdtBlocks + 3 else group * 4096 + 2 := by
  rw [mkfsGroup_inodeTableStart, layout.inodeTable, layout.full two]

/-- Where a structure of a group lies: behind the table in the first group, else among the group's
first blocks. -/
theorem structure_place (group block start first place width : Nat)
    (low : first + width ≤ 8) (high : place + width ≤ 6)
    (starts : start = if group = 0 then g.gdtBlocks + first else group * 4096 + place)
    (covers : start ≤ block ∧ block < start + if group < g.groupCount then width else 0) :
    block / 4096 = group ∧
      (group = 0 → g.gdtBlocks + first ≤ block % 4096 ∧
        block % 4096 < g.gdtBlocks + first + width) ∧
      (group ≠ 0 → place ≤ block % 4096 ∧ block % 4096 < place + width) := by
  have full := layout.full two
  have root := layout.root
  have present : group < g.groupCount := by
    by_contra absent
    rw [if_neg absent] at covers
    omega
  rw [if_pos present] at covers
  by_cases zero : group = 0
  · rw [if_pos zero] at starts
    omega
  · rw [if_neg zero] at starts
    omega

include grouped

theorem covers_owner (region : Region) (block : Nat)
    (covers : region.Covers options g block) : groupedOwner g block = some region := by
  have full := layout.full two
  have root := layout.root
  have journal := layout.journal
  have journalBlock := layout.journalBlock
  have reach := layout.reach
  have cover := layout.cover
  unfold tailBlocks at journal
  unfold Region.Covers Region.extent at covers
  cases region with
  | superblock =>
      simp only at covers
      have zero : block = 0 := by omega
      rw [zero]
      rfl
  | groupTable =>
      simp only [grouped, ↓reduceIte, GDT_START_BLOCK] at covers
      unfold groupedOwner
      have first : block / 4096 = 0 := by omega
      simp only [first, ↓reduceIte]
      rw [if_neg (by omega), if_pos (by omega)]
  | blockBitmap group =>
      obtain ⟨owner, behind, among⟩ := structure_place layout two group block _ 1 0 1 (by decide)
        (by decide) (layout.blockBitmap_start two group) covers
      unfold groupedOwner
      by_cases zero : group = 0
      · have place := behind zero
        simp only [owner, zero, ↓reduceIte]
        rw [if_neg (by omega), if_neg (by omega), if_pos (by omega)]
      · have place := among zero
        simp only [owner, zero, ↓reduceIte]
        rw [if_pos (by omega)]
  | inodeBitmap group =>
      obtain ⟨owner, behind, among⟩ := structure_place layout two group block _ 2 1 1 (by decide)
        (by decide) (layout.inodeBitmap_start two group) covers
      unfold groupedOwner
      by_cases zero : group = 0
      · have place := behind zero
        simp only [owner, zero, ↓reduceIte]
        rw [if_neg (by omega), if_neg (by omega), if_neg (by omega), if_pos (by omega)]
      · have place := among zero
        simp only [owner, zero, ↓reduceIte]
        rw [if_neg (by omega), if_pos (by omega)]
  | inodeTable group =>
      simp only [grouped, ↓reduceIte, DEFAULT_INODE_TABLE_BLOCKS_PER_GROUP] at covers
      obtain ⟨owner, behind, among⟩ := structure_place layout two group block _ 3 2 4 (by decide)
        (by decide) (layout.inodeTable_start two group) covers
      unfold groupedOwner
      by_cases zero : group = 0
      · have place := behind zero
        simp only [owner, zero, ↓reduceIte]
        rw [if_neg (by omega), if_neg (by omega), if_neg (by omega), if_neg (by omega),
          if_pos (by omega)]
      · have place := among zero
        simp only [owner, zero, ↓reduceIte]
        rw [if_neg (by omega), if_neg (by omega), if_pos (by omega)]
  | rootDir =>
      simp only [layout.rootDir] at covers
      unfold groupedOwner
      have first : block / 4096 = 0 := by omega
      simp only [first, ↓reduceIte]
      rw [if_neg (by omega), if_neg (by omega), if_neg (by omega), if_neg (by omega),
        if_neg (by omega), if_pos (by omega)]
  | policyTable =>
      have policy := layout.policy
      simp only at covers
      unfold groupedOwner
      have used : g.policyTableBlock ≠ 0 := by
        intro none
        rw [if_pos none] at covers
        omega
      rw [if_neg used] at covers
      have first : block / 4096 = 0 := by omega
      simp only [first, ↓reduceIte]
      rw [if_neg (by omega), if_neg (by omega), if_neg (by omega), if_neg (by omega),
        if_neg (by omega), if_neg (by omega), if_pos (by omega)]
  | journal =>
      simp only at covers
      have some_ : 0 < g.journalBlocks := by omega
      have starts := journalBlock some_
      rw [full] at reach cover journal
      unfold groupedOwner
      have last : block / 4096 = g.groupCount - 1 := by omega
      simp only [last]
      rw [if_neg (by omega), if_neg (by omega), if_neg (by omega), if_neg (by omega),
        if_pos ⟨some_, covers.1⟩]

omit grouped in
/-- A group reaches as far as its bitmap speaks, and at least over its structures. -/
theorem groupBlocks_room (room : 6 ≤ tailBlocks g) (group : Nat) (inside : group < g.groupCount) :
    6 ≤ (mkfsGroup g group).blocksCount ∧
      (mkfsGroup g group).blocksCount ≤ 4096 ∧
      (group = 0 → (mkfsGroup g group).blocksCount = 4096) ∧
      (group ≠ g.groupCount - 1 → (mkfsGroup g group).blocksCount = 4096) ∧
      (group = g.groupCount - 1 → (mkfsGroup g group).blocksCount = tailBlocks g) := by
  have full := layout.full two
  have reach := layout.reach
  have cover := layout.cover
  unfold tailBlocks at room ⊢
  have value : (mkfsGroup g group).blocksCount = min 4096 (g.blocksCount - group * 4096) := by
    simp only [mkfsGroup, full]
  rw [full] at reach cover room ⊢
  rw [value]
  refine ⟨?_, ?_, ?_, ?_, ?_⟩
  · omega
  · omega
  · omega
  · omega
  · intro last
    rw [last]
    omega

omit grouped in
/-- A structure of a group, among its first blocks or behind the table in the first group. -/
theorem structure_inside (room : 6 ≤ tailBlocks g) (group block start first place width : Nat)
    (low : first + width ≤ 8) (high : place + width ≤ 6)
    (starts : start = if group = 0 then g.gdtBlocks + first else group * 4096 + place)
    (covers : start ≤ block ∧ block < start + if group < g.groupCount then width else 0) :
    group * 4096 ≤ block ∧ block < group * 4096 + (mkfsGroup g group).blocksCount := by
  have full := layout.full two
  have root := layout.root
  have present : group < g.groupCount := by
    by_contra absent
    rw [if_neg absent] at covers
    omega
  obtain ⟨least, _, whole, _⟩ := groupBlocks_room layout two room group present
  rw [if_pos present] at covers
  by_cases zero : group = 0
  · rw [if_pos zero] at starts
    have all := whole zero
    omega
  · rw [if_neg zero] at starts
    omega

theorem grouped_inside (room : 6 ≤ tailBlocks g) (region : Region) (group block : Nat)
    (belongs : region.group = some group) (covers : region.Covers options g block) :
    (groupExtent options g group).1 ≤ block ∧
      block < (groupExtent options g group).1 + (groupExtent options g group).2 := by
  have full := layout.full two
  unfold groupExtent
  rw [if_pos grouped]
  have starts : (mkfsGroup g group).groupStart = group * 4096 := by
    simp only [mkfsGroup, full]
  rw [starts]
  unfold Region.Covers Region.extent at covers
  cases region with
  | superblock => cases belongs
  | groupTable => cases belongs
  | rootDir => cases belongs
  | policyTable => cases belongs
  | journal => cases belongs
  | blockBitmap owner =>
      injection belongs with same
      rw [same] at covers
      simp only at covers
      exact structure_inside layout two room group block _ 1 0 1 (by decide) (by decide)
        (layout.blockBitmap_start two group) covers
  | inodeBitmap owner =>
      injection belongs with same
      rw [same] at covers
      simp only at covers
      exact structure_inside layout two room group block _ 2 1 1 (by decide) (by decide)
        (layout.inodeBitmap_start two group) covers
  | inodeTable owner =>
      injection belongs with same
      rw [same] at covers
      simp only [grouped, ↓reduceIte, DEFAULT_INODE_TABLE_BLOCKS_PER_GROUP] at covers
      exact structure_inside layout two room group block _ 3 2 4 (by decide) (by decide)
        (layout.inodeTable_start two group) covers

/-- The first bit behind a group's structures. -/
def structureBits (g : MkfsGeometry) (group : Nat) : Nat :=
  if group = 0 then g.gdtBlocks + 8 + (if g.policyTableBlock = 0 then 0 else 1) else 6

/-- The blocks of the journal in a group. -/
def journalBits (g : MkfsGeometry) (group : Nat) : Nat :=
  if group = g.groupCount - 1 then g.journalBlocks else 0

theorem test_groupedBitmap (room : 6 ≤ tailBlocks g) (group : Nat) (inside : group < g.groupCount)
    (bit : Nat) (below : bit < (mkfsGroup g group).blocksCount) :
    Bitmap.test (mkfsBlockBitmap options g group) bit = true ↔
      bit < structureBits g group ∨
        (mkfsGroup g group).blocksCount - journalBits g group ≤ bit := by
  have full := layout.full two
  have root := layout.root
  have journal := layout.journal
  have reach := layout.reach
  have cover := layout.cover
  have bounds := groupBlocks_room layout two room group inside
  have policy := layout.policy
  unfold mkfsBlockBitmap structureBits journalBits
  by_cases zero : group = 0
  · have first : group ≠ g.groupCount - 1 := by omega
    simp only [zero, ↓reduceIte, grouped, Bitmap.test_setRange, Bitmap.test_zero, Bool.or_false,
      decide_eq_true_eq, layout.rootDir]
    rw [zero] at first below
    rw [if_neg first]
    omega
  · simp only [zero, ↓reduceIte]
    by_cases last : group = g.groupCount - 1
    · by_cases some_ : 0 < g.journalBlocks
      · have starts := layout.journalBlock some_
        have tail := bounds.2.2.2.2 last
        have blocks : min g.blocksPerGroup (g.blocksCount - group * g.blocksPerGroup) =
            tailBlocks g := by
          rw [← tail]
          rfl
        rw [if_pos ⟨some_, last⟩, if_pos last, Bitmap.test_setRange, Bitmap.test_setRange,
          Bitmap.test_zero, blocks, tail]
        rw [tail] at below
        have start : group * g.blocksPerGroup + tailBlocks g = g.blocksCount := by
          unfold tailBlocks
          rw [last]
          omega
        rw [start, Bool.or_false, Bool.or_eq_true, decide_eq_true_eq, decide_eq_true_eq]
        unfold DEFAULT_INODE_TABLE_BLOCKS_PER_GROUP
        omega
      · rw [if_neg (by omega), if_pos last, Bitmap.test_setRange, Bitmap.test_zero, Bool.or_false,
          decide_eq_true_eq]
        unfold DEFAULT_INODE_TABLE_BLOCKS_PER_GROUP
        omega
    · rw [if_neg (by omega), if_neg last, Bitmap.test_setRange, Bitmap.test_zero, Bool.or_false,
        decide_eq_true_eq]
      unfold DEFAULT_INODE_TABLE_BLOCKS_PER_GROUP
      omega

theorem owner_covers (region : Region) (block : Nat) (below : block < g.blocksCount)
    (owner : groupedOwner g block = some region) : region.Covers options g block := by
  have full := layout.full two
  have root := layout.root
  have journal := layout.journal
  have journalBlock := layout.journalBlock
  have reach := layout.reach
  have cover := layout.cover
  have policy := layout.policy
  rw [full] at reach cover root
  have present : block / 4096 < g.groupCount := by omega
  unfold groupedOwner at owner
  unfold Region.Covers Region.extent
  simp only at owner
  split at owner
  · rename_i first
    have some_ : 0 < g.groupCount := by omega
    repeat' split at owner
    all_goals cases owner
    all_goals simp only [mkfsGroup_blockBitmapBlock, mkfsGroup_inodeBitmapBlock,
      mkfsGroup_inodeTableStart, grouped, some_, ↓reduceIte, layout.blockBitmap,
      layout.inodeBitmap, layout.inodeTable, layout.rootDir, GDT_START_BLOCK,
      DEFAULT_INODE_TABLE_BLOCKS_PER_GROUP]
    all_goals first
      | omega
      | rename_i table
        rw [if_neg table.2]
        omega
  · rename_i later
    repeat' split at owner
    all_goals cases owner
    all_goals simp only [mkfsGroup_blockBitmapBlock, mkfsGroup_inodeBitmapBlock,
      mkfsGroup_inodeTableStart, grouped, present, later, ↓reduceIte, full,
      DEFAULT_INODE_TABLE_BLOCKS_PER_GROUP]
    all_goals omega

omit grouped in
/-- The blocks with an owner are those whose bit is set. -/
theorem groupedOwner_isSome (room : 6 ≤ tailBlocks g) (group bit : Nat)
    (inside : group < g.groupCount) (below : bit < (mkfsGroup g group).blocksCount) :
    (groupedOwner g (group * 4096 + bit)).isSome = true ↔ bit < structureBits g group ∨
      (mkfsGroup g group).blocksCount - journalBits g group ≤ bit := by
  have full := layout.full two
  have root := layout.root
  have journal := layout.journal
  have journalBlock := layout.journalBlock
  have cover := layout.cover
  have reach := layout.reach
  have policy := layout.policy
  obtain ⟨least, most, whole, others, tail⟩ := groupBlocks_room layout two room group inside
  have here : (group * 4096 + bit) / 4096 = group := by omega
  have place : (group * 4096 + bit) % 4096 = bit := by omega
  unfold groupedOwner structureBits journalBits
  simp only [here, place]
  by_cases zero : group = 0
  · have first : group ≠ g.groupCount - 1 := by omega
    have count := whole zero
    rw [if_pos zero, if_pos zero, if_neg first]
    repeat' split
    all_goals simp only [Option.isSome_some, Option.isSome_none, true_iff, Bool.false_eq_true,
      false_iff]
    all_goals omega
  · rw [if_neg zero, if_neg zero]
    unfold tailBlocks at tail journal
    rw [full] at tail reach journal
    repeat' split
    all_goals simp only [Option.isSome_some, Option.isSome_none, true_iff, Bool.false_eq_true,
      false_iff]
    all_goals omega

theorem grouped_bitmaps (room : 6 ≤ tailBlocks g) (group bit : Nat) (inside : group < g.groupCount)
    (below : bit < (groupExtent options g group).2) :
    Bitmap.test (mkfsBlockBitmap options g group) bit = true ↔
      ∃ region, Region.Covers options g region ((groupExtent options g group).1 + bit) := by
  have full := layout.full two
  have extent : groupExtent options g group = (group * 4096, (mkfsGroup g group).blocksCount) := by
    unfold groupExtent
    rw [if_pos grouped, ← full]
    rfl
  rw [extent] at below ⊢
  change bit < (mkfsGroup g group).blocksCount at below
  change _ ↔ ∃ region, Region.Covers options g region (group * 4096 + bit)
  rw [test_groupedBitmap grouped layout two room group inside bit below,
    ← groupedOwner_isSome layout two room group bit inside below]
  constructor
  · intro owned
    obtain ⟨region, owner⟩ := Option.isSome_iff_exists.mp owned
    refine ⟨region, owner_covers grouped layout two region _ ?_ owner⟩
    rw [mkfsGroup_blocksCount, full] at below
    omega
  · rintro ⟨region, covers⟩
    rw [covers_owner grouped layout two region _ covers]
    rfl

omit grouped in
theorem group_fits (room : 6 ≤ tailBlocks g) (group : Nat) (inside : group < g.groupCount) :
    structureBits g group + journalBits g group ≤ (mkfsGroup g group).blocksCount := by
  have root := layout.root
  have full := layout.full two
  have journal := layout.journal
  have policy := layout.policy
  obtain ⟨least, most, whole, others, tail⟩ := groupBlocks_room layout two room group inside
  unfold structureBits journalBits
  split
  · rename_i zero
    have count := whole zero
    have first : group ≠ g.groupCount - 1 := by omega
    rw [if_neg first]
    split
    · omega
    · omega
  · split
    · rename_i last
      have count := tail last
      omega
    · omega

omit grouped in
theorem mkfsGroup_free (room : 6 ≤ tailBlocks g) (group : Nat) (inside : group < g.groupCount) :
    (mkfsGroup g group).freeBlocksCount =
      (mkfsGroup g group).blocksCount - (structureBits g group + journalBits g group) := by
  have full := layout.full two
  have root := layout.root
  have journal := layout.journal
  have fits := group_fits layout two room group inside
  obtain ⟨least, most, whole, others, tail⟩ := groupBlocks_room layout two room group inside
  have value : (mkfsGroup g group).freeBlocksCount = mkfsGroupFree g group
      (mkfsGroup g group).blocksCount (if group = 0 then g.rootDirBlock + 1
        else (mkfsGroup g group).inodeTableStart + DEFAULT_INODE_TABLE_BLOCKS_PER_GROUP) := rfl
  rw [value, mkfsGroup_inodeTableStart]
  generalize (mkfsGroup g group).blocksCount = blocks at *
  unfold mkfsGroupFree DEFAULT_INODE_TABLE_BLOCKS_PER_GROUP
  unfold structureBits journalBits at fits ⊢
  by_cases zero : group = 0
  · have first : ¬ (0 < g.journalBlocks ∧ group = g.groupCount - 1) := by omega
    have also : group ≠ g.groupCount - 1 := by omega
    have count := whole zero
    simp only [zero, ↓reduceIte, layout.rootDir, full, Nat.zero_mul, true_and] at fits ⊢
    rw [zero] at first also
    simp only [also, and_false, ↓reduceIte] at fits ⊢
    rw [Nat.mod_eq_of_lt (by omega)]
    repeat' split
    all_goals omega
  · simp only [zero, ↓reduceIte, full, false_and] at fits ⊢
    rw [Nat.mod_eq_of_lt (by omega)]
    by_cases last : group = g.groupCount - 1
    · rw [if_pos last] at fits ⊢
      repeat' split
      all_goals omega
    · rw [if_neg last] at fits ⊢
      rw [if_neg (by omega)]
      split
      · omega
      · omega

omit grouped two in
theorem grouped_room : g.blocksCount ≤ g.groupCount * g.blocksPerGroup := by
  have cover := layout.cover
  have count := layout.count
  have whole : g.groupCount * g.blocksPerGroup =
      (g.groupCount - 1) * g.blocksPerGroup + g.blocksPerGroup := by
    rw [← Nat.succ_mul]
    congr 1
    omega
  omega

omit grouped two in
theorem sum_blocksCount :
    ∑ group ∈ Finset.range g.groupCount, (mkfsGroup g group).blocksCount = g.blocksCount := by
  have per := layout.perGroup
  have large := layout.large
  have counted := Bitmap.card_by_group g.blocksPerGroup g.groupCount g.blocksCount
    (fun _ => True) (by omega) (grouped_room layout)
  simp only [Finset.filter_true, Finset.card_range] at counted
  rw [counted]
  rfl

theorem sum_used : mkfsTotalUsedBlocks options g =
    ∑ group ∈ Finset.range g.groupCount, (structureBits g group + journalBits g group) := by
  have full := layout.full two
  have first : ∀ group, structureBits g group = (mkfsDataStart g group - group * g.blocksPerGroup) +
      (if 0 = group then 1 + (if g.policyTableBlock = 0 then 0 else 1) else 0) := by
    intro group
    unfold structureBits mkfsDataStart DEFAULT_INODE_TABLE_BLOCKS_PER_GROUP
    rw [layout.rootDir, full]
    by_cases zero : group = 0
    · rw [if_pos zero, if_pos zero, if_pos zero.symm]
      omega
    · rw [if_neg zero, if_neg zero, if_neg (fun same => zero same.symm)]
      omega
  have last : ∀ group, journalBits g group =
      if g.groupCount - 1 = group then g.journalBlocks else 0 := by
    intro group
    unfold journalBits
    by_cases here : group = g.groupCount - 1
    · rw [if_pos here, if_pos here.symm]
    · rw [if_neg here, if_neg (fun same => here same.symm)]
  unfold mkfsTotalUsedBlocks
  simp only [grouped, ↓reduceIte]
  rw [foldl_add, Finset.sum_add_distrib]
  simp only [first, last]
  rw [Finset.sum_add_distrib, Finset.sum_ite_eq, Finset.sum_ite_eq,
    if_pos (Finset.mem_range.mpr (by omega)), if_pos (Finset.mem_range.mpr (by omega))]
  omega

theorem grouped_free (room : 6 ≤ tailBlocks g) : mkfsFreeBlocks options g =
    ∑ group ∈ Finset.range g.groupCount, (mkfsGroup g group).freeBlocksCount := by
  have used := sum_used grouped layout two
  have total : ∑ group ∈ Finset.range g.groupCount, (mkfsGroup g group).freeBlocksCount +
      ∑ group ∈ Finset.range g.groupCount, (structureBits g group + journalBits g group) =
      g.blocksCount := by
    rw [← Finset.sum_add_distrib, ← sum_blocksCount layout]
    apply Finset.sum_congr rfl
    intro group member
    have inside := Finset.mem_range.mp member
    have fits := group_fits layout two room group inside
    rw [mkfsGroup_free layout two room group inside]
    omega
  unfold mkfsFreeBlocks
  rw [used, if_pos (by omega)]
  omega

theorem clearBits_card (room : 6 ≤ tailBlocks g) (group : Nat) (inside : group < g.groupCount) :
    (clearBits options g group).card = (mkfsGroup g group).freeBlocksCount := by
  have fits := group_fits layout two room group inside
  have extent : (groupExtent options g group).2 = (mkfsGroup g group).blocksCount := by
    unfold groupExtent
    rw [if_pos grouped]
  have area : clearBits options g group = Finset.Ico (structureBits g group)
      ((mkfsGroup g group).blocksCount - journalBits g group) := by
    ext bit
    unfold clearBits
    rw [Bitmap.mem_zeros, Finset.mem_range, Finset.mem_Ico, extent]
    constructor
    · rintro ⟨below, clear⟩
      have set := test_groupedBitmap grouped layout two room group inside bit below
      rw [clear] at set
      have missed := mt set.mpr (by decide)
      omega
    · rintro ⟨low, high⟩
      have below : bit < (mkfsGroup g group).blocksCount := by omega
      refine ⟨below, ?_⟩
      have set := test_groupedBitmap grouped layout two room group inside bit below
      rw [← Bool.not_eq_true, set]
      omega
  rw [area, Nat.card_Ico, mkfsGroup_free layout two room group inside]
  omega

/-- With several groups, the last one large enough for its structures, everything fits. -/
theorem grouped_laidOut (room : 6 ≤ tailBlocks g) : LaidOut options g where
  disjoint := by
    intro first second block one other
    have owner := covers_owner grouped layout two first block one
    rw [covers_owner grouped layout two second block other] at owner
    exact (Option.some.inj owner).symm
  inside := grouped_inside grouped layout two room
  bitmaps := grouped_bitmaps grouped layout two room
  freeGroups := fun _ => grouped_free grouped layout two room
  freeBits := by
    rw [grouped_free grouped layout two room]
    apply Finset.sum_congr rfl
    intro group member
    exact (clearBits_card grouped layout two room group (Finset.mem_range.mp member)).symm

end Spread

section Single

variable {options : MkfsOptions} {g : MkfsGeometry}

/-- The region a block of a device without block groups belongs to. -/
def plainOwner (g : MkfsGeometry) (block : Nat) : Option Region :=
  if block = 0 then some .superblock
  else if block = 1 then some (.blockBitmap 0)
  else if block = 2 then some (.inodeBitmap 0)
  else if block < 19 then some (.inodeTable 0)
  else if block = 19 then some .rootDir
  else if block = 20 ∧ g.policyTableBlock ≠ 0 then some .policyTable
  else none

section Plain

variable (plain : options.useBlockGroups = false) (layout : Ungrouped g)

include plain layout

theorem covers_plainOwner (region : Region) (block : Nat) (covers : region.Covers options g block) :
    plainOwner g block = some region := by
  have count := layout.count
  have policy := layout.policy
  unfold Region.Covers Region.extent at covers
  unfold plainOwner
  -- The only group is the first.
  have only : ∀ group, (if group < g.groupCount then 1 else 0) ≠ 0 → group = 0 := by
    intro group present
    by_contra other
    rw [if_neg (by omega)] at present
    omega
  cases region with
  | superblock =>
      simp only at covers
      rw [if_pos (by omega)]
  | groupTable =>
      simp only [plain, Bool.false_eq_true, ↓reduceIte] at covers
      omega
  | blockBitmap group =>
      simp only at covers
      have zero := only group (by omega)
      rw [zero, mkfsGroup_blockBitmapBlock, if_pos rfl, layout.blockBitmap, if_pos (by omega)] at covers
      rw [zero, if_neg (by omega), if_pos (by omega)]
  | inodeBitmap group =>
      simp only at covers
      have zero := only group (by omega)
      rw [zero, mkfsGroup_inodeBitmapBlock, if_pos rfl, layout.inodeBitmap, if_pos (by omega)] at covers
      rw [zero, if_neg (by omega), if_neg (by omega), if_pos (by omega)]
  | inodeTable group =>
      simp only [plain, Bool.false_eq_true, ↓reduceIte, INODE_TABLE_BLOCKS] at covers
      have zero : group = 0 := by
        by_contra other
        rw [if_neg (by omega)] at covers
        omega
      rw [zero, mkfsGroup_inodeTableStart, if_pos rfl, layout.inodeTable, if_pos (by omega)] at covers
      rw [zero, if_neg (by omega), if_neg (by omega), if_neg (by omega), if_pos (by omega)]
  | rootDir =>
      simp only [layout.rootDir] at covers
      rw [if_neg (by omega), if_neg (by omega), if_neg (by omega), if_neg (by omega),
        if_pos (by omega)]
  | policyTable =>
      simp only at covers
      have used : g.policyTableBlock ≠ 0 := by
        intro none
        rw [if_pos none] at covers
        omega
      rw [if_neg used] at covers
      rw [if_neg (by omega), if_neg (by omega), if_neg (by omega), if_neg (by omega),
        if_neg (by omega), if_pos (by omega)]
  | journal =>
      simp only [layout.journal] at covers
      omega

theorem plainOwner_covers (region : Region) (block : Nat) (owner : plainOwner g block = some region) :
    region.Covers options g block := by
  have some_ : 0 < g.groupCount := by
    rw [layout.count]
    decide
  have policy := layout.policy
  unfold plainOwner at owner
  unfold Region.Covers Region.extent
  repeat' split at owner
  all_goals cases owner
  all_goals simp only [mkfsGroup_blockBitmapBlock, mkfsGroup_inodeBitmapBlock,
    mkfsGroup_inodeTableStart, plain, some_, ↓reduceIte, Bool.false_eq_true, layout.blockBitmap,
    layout.inodeBitmap, layout.inodeTable, layout.rootDir, INODE_TABLE_BLOCKS]
  all_goals first
    | omega
    | rename_i table
      rw [if_neg table.2]
      omega

omit layout in
theorem plain_bitmap (bit : Nat) : Bitmap.test (mkfsBlockBitmap options g 0) bit = true ↔
    bit < 20 + (if g.policyTableBlock = 0 then 0 else 1) := by
  unfold mkfsBlockBitmap
  simp only [↓reduceIte, plain, Bool.false_eq_true, Bitmap.test_setRange, Bitmap.test_zero,
    Bool.or_false, decide_eq_true_eq]
  have free : FIRST_FREE_DATA_BLOCK = 20 := rfl
  omega

/-- A device without block groups is laid out as its bitmap says. -/
theorem ungrouped_laidOut : LaidOut options g := by
  have large := layout.large
  have count := layout.count
  have policy := layout.policy
  have extent : ∀ group, groupExtent options g group = (0, g.blocksCount) := by
    intro group
    unfold groupExtent
    rw [if_neg (by rw [plain]; decide)]
  constructor
  case disjoint =>
      intro first second block one other
      have owner := covers_plainOwner plain layout first block one
      rw [covers_plainOwner plain layout second block other] at owner
      exact (Option.some.inj owner).symm
  case inside =>
      intro region group block belongs covers
      have owner := covers_plainOwner plain layout region block covers
      rw [extent]
      show 0 ≤ block ∧ block < 0 + g.blocksCount
      unfold plainOwner at owner
      repeat' split at owner
      all_goals cases owner
      all_goals cases belongs
      all_goals omega
  case bitmaps =>
      intro group bit inside below
      have first : group = 0 := by omega
      rw [extent] at below ⊢
      rw [first, plain_bitmap plain]
      show _ ↔ ∃ region, Region.Covers options g region (0 + bit)
      rw [Nat.zero_add]
      have owned : (plainOwner g bit).isSome = true ↔
          bit < 20 + (if g.policyTableBlock = 0 then 0 else 1) := by
        unfold plainOwner
        repeat' split
        all_goals simp only [Option.isSome_some, Option.isSome_none, true_iff, Bool.false_eq_true,
          false_iff]
        all_goals omega
      rw [← owned]
      constructor
      · intro some_
        obtain ⟨region, owner⟩ := Option.isSome_iff_exists.mp some_
        exact ⟨region, plainOwner_covers plain layout region bit owner⟩
      · rintro ⟨region, covers⟩
        rw [covers_plainOwner plain layout region bit covers]
        rfl
  case freeGroups =>
      intro grouped
      rw [plain] at grouped
      cases grouped
  case freeBits =>
      have used : mkfsTotalUsedBlocks options g =
          20 + (if g.policyTableBlock = 0 then 0 else 1) := by
        unfold mkfsTotalUsedBlocks
        simp only [plain, Bool.false_eq_true, ↓reduceIte, layout.rootDir]
      have area : clearBits options g 0 =
          Finset.Ico (20 + (if g.policyTableBlock = 0 then 0 else 1)) g.blocksCount := by
        ext bit
        unfold clearBits
        rw [Bitmap.mem_zeros, Finset.mem_range, Finset.mem_Ico, extent, ← Bool.not_eq_true,
          plain_bitmap plain]
        omega
      rw [count, Finset.sum_range_one, area, Nat.card_Ico]
      unfold mkfsFreeBlocks
      rw [used, if_pos (by split <;> omega)]

end Plain

/-- A single group's bitmap leaves the journal out. -/
theorem single_not_laidOut (grouped : options.useBlockGroups = true) (layout : Grouped g)
    (single : g.groupCount = 1) : ¬ LaidOut options g := by
  intro laid
  have large := layout.large
  have per := layout.perGroup
  have cover := layout.cover
  have root := layout.root
  have journal := layout.journal
  have journalBlock := layout.journalBlock
  have policy := layout.policy
  have tail : tailBlocks g = g.blocksCount := by
    unfold tailBlocks
    rw [single]
    omega
  rw [single] at cover
  rw [tail] at journal
  have some_ : 0 < g.journalBlocks := by omega
  have starts := journalBlock some_
  have extent : groupExtent options g 0 = (0 * g.blocksPerGroup, (mkfsGroup g 0).blocksCount) := by
    unfold groupExtent
    rw [if_pos grouped]
    rfl
  have count : (mkfsGroup g 0).blocksCount = g.blocksCount := by
    rw [mkfsGroup_blocksCount]
    omega
  have set := (laid.bitmaps 0 (g.blocksCount - 1) (by omega) (by
    rw [extent, count]
    show g.blocksCount - 1 < g.blocksCount
    omega)).mpr ⟨.journal, by
      rw [extent]
      show g.journalBlock ≤ 0 * g.blocksPerGroup + (g.blocksCount - 1) ∧
        0 * g.blocksPerGroup + (g.blocksCount - 1) < g.journalBlock + g.journalBlocks
      omega⟩
  unfold mkfsBlockBitmap at set
  simp only [↓reduceIte, grouped, Bitmap.test_setRange, Bitmap.test_zero, Bool.or_false,
    decide_eq_true_eq, layout.rootDir] at set
  have size : g.gdtBlocks = 1 := by
    rw [layout.tableSize, single]
    decide
  split at set
  · omega
  · omega

/-- A last group shorter than its structures does not hold them. -/
theorem short_not_laidOut (grouped : options.useBlockGroups = true) (layout : Grouped g)
    (short : tailBlocks g < 6) (two : 2 ≤ g.groupCount) : ¬ LaidOut options g := by
  intro laid
  have full := layout.full two
  have reach := layout.reach
  unfold tailBlocks at short
  rw [full] at reach short
  have inside := laid.inside (.inodeTable (g.groupCount - 1)) (g.groupCount - 1)
    ((g.groupCount - 1) * 4096 + 5) rfl (by
      unfold Region.Covers Region.extent
      simp only [grouped, ↓reduceIte]
      rw [mkfsGroup_inodeTableStart, if_neg (by omega), if_pos (by omega), full]
      unfold DEFAULT_INODE_TABLE_BLOCKS_PER_GROUP
      omega)
  unfold groupExtent at inside
  rw [if_pos grouped] at inside
  simp only [mkfsGroup_blocksCount, full] at inside
  have starts : (mkfsGroup g (g.groupCount - 1)).groupStart = (g.groupCount - 1) * 4096 := by
    rw [← full]
    rfl
  omega

end Single

/-- `mkfs.cryexts` lays out disjoint regions and truthful bitmaps exactly on devices without
block groups, and on those with several groups of which the last holds its own structures. -/
theorem mkfs_laidOut_iff (options : MkfsOptions) (deviceSize : Nat) (g : MkfsGeometry)
    (accepted : mkfsGeometry options deviceSize = some g) :
    LaidOut options g ↔ options.useBlockGroups = false ∨
      (4096 < deviceSize / BLOCK_SIZE ∧
        (deviceSize / BLOCK_SIZE % 4096 = 0 ∨ 6 ≤ deviceSize / BLOCK_SIZE % 4096)) := by
  obtain ⟨blocks, _⟩ := mkfsGeometry_blocks accepted
  rw [← blocks]
  cases grouped : options.useBlockGroups with
  | false =>
      have laid := ungrouped_laidOut grouped (mkfsGeometry_ungrouped accepted grouped)
      exact ⟨fun _ => Or.inl rfl, fun _ => laid⟩
  | true =>
      have layout := mkfsGeometry_grouped accepted grouped
      have per := layout.perGroup
      have reach := layout.reach
      have cover := layout.cover
      have count := layout.count
      by_cases single : g.groupCount = 1
      · have missed := single_not_laidOut grouped layout single
        rw [single] at cover
        constructor
        · intro laid
          exact absurd laid missed
        · rintro (plain | ⟨several, _⟩)
          · cases plain
          · omega
      · have two : 2 ≤ g.groupCount := by omega
        have full := layout.full two
        by_cases room : 6 ≤ tailBlocks g
        · have laid := grouped_laidOut grouped layout two room
          refine ⟨fun _ => Or.inr ?_, fun _ => laid⟩
          unfold tailBlocks at room
          rw [full] at reach cover room
          omega
        · have missed := short_not_laidOut grouped layout (by omega) two
          constructor
          · intro laid
            exact absurd laid missed
          · rintro (plain | ⟨several, last⟩)
            · cases plain
            · unfold tailBlocks at room
              rw [full] at reach cover room
              omega

theorem mkfs_laidOut_iff_small : LaidOut smallRing smallGeometry ↔
    smallRing.useBlockGroups = false ∨
      (4096 < 4111 * BLOCK_SIZE / BLOCK_SIZE ∧ (4111 * BLOCK_SIZE / BLOCK_SIZE % 4096 = 0 ∨
        6 ≤ 4111 * BLOCK_SIZE / BLOCK_SIZE % 4096)) :=
  mkfs_laidOut_iff smallRing (4111 * BLOCK_SIZE) smallGeometry smallGeometry_accepted

/-- `mkfs.cryexts -G` without any other switch. -/
def blockGroupsOnly : MkfsOptions :=
  { smallRing with blockGroups := true, journalRing := false }

/-- A device of 20 blocks is one group, whose bitmap leaves the journal's last block free. -/
theorem mkfs_single_group : ∃ g, mkfsGeometry blockGroupsOnly (20 * BLOCK_SIZE) = some g ∧
    Region.Covers blockGroupsOnly g .journal 19 ∧
    Bitmap.test (mkfsBlockBitmap blockGroupsOnly g 0) 19 = false ∧
    Region.Covers blockGroupsOnly g .rootDir 8 ∧ Region.Covers blockGroupsOnly g .journal 8 ∧
    ¬ LaidOut blockGroupsOnly g := by
  refine ⟨mkfsLayout blockGroupsOnly (20 * BLOCK_SIZE), by decide, by decide, by decide, by decide,
    by decide, ?_⟩
  intro laid
  have same := laid.disjoint .rootDir .journal 8 (by decide) (by decide)
  cases same

end Cryexts
