import Cryexts.Journal.RingRecovery
import Cryexts.Journal.Work
import Cryexts.Journal.Commit
import Cryexts.Journal.RingCommit
import Cryexts.Journal.RingCheckpoint
import Cryexts.Journal.RingStep
import Cryexts.Journal.RingInvariant
import Cryexts.Journal.RingRun
import Cryexts.Journal.RingMount
import Cryexts.Mkfs
import Cryexts.Journal.SingleWrite
import Cryexts.Journal.RingFill
import Cryexts.Journal.RingAtomicity
import Cryexts.Journal.Faults
import Cryexts.Journal.Ownership
import Cryexts.Journal.WriteAhead
import Cryexts.Balloc
import Cryexts.Balloc.Geometry
import Cryexts.Balloc.Invariant
import Cryexts.Balloc.Search
import Cryexts.Balloc.Run
import Cryexts.Dir.Entry
import Cryexts.Dir.Index
import Cryexts.Dir.Ops
import Cryexts.Dir.Agreement
import Cryexts.Dir.IndexKept
import Cryexts.Dir.Effects
import Cryexts.Dir.IndexRun
import Cryexts.Mkfs.Groups
import Cryexts.Mkfs.Regions
import Cryexts.Journal.CheckpointView
import Cryexts.Journal.CheckpointInvisible
import Cryexts.Journal.DataReuse
import Cryexts.Journal.Flush
import Cryexts.Journal.Newest
import Cryexts.Journal.NewestKept
import Cryexts.Journal.FixedCommit
import Cryexts.Journal.FixedRecovery
import Cryexts.Journal.FixedAtomicity
import Cryexts.Lib.RingSpace
import Cryexts.Journal.RingSpace
import Cryexts.Journal.RingWalk
import Cryexts.Journal.CheckpointFailure
import Cryexts.Journal.ReplaySegment
import Cryexts.Journal.ReplayWalk
import Cryexts.Journal.ReplayRejects
import Cryexts.Inode.Mapping
import Cryexts.Inode.Release
import Cryexts.Balloc.Blocks
import Cryexts.Inode.Freeing
import Cryexts.Inode.Taking
import Cryexts.Inode.ExtentTree
import Cryexts.Inode.TreeCreate
import Cryexts.Inode.Punch
import Cryexts.Inode.PunchExact
import Cryexts.Inode.TreeRun
import Cryexts.Journal.ReplayBounds
import Cryexts.Crypto
import Cryexts.Lib.Slice
import Cryexts.Xattr.Codec
import Cryexts.Xattr.RoundTrip
import Cryexts.Lib.Chain
import Cryexts.Orphan
import Cryexts.Dir.Walk
import Cryexts.Dir.Enumeration
import Cryexts.Dir.FiniteMap
import Cryexts.Xattr.Atomic
import Cryexts.Xattr.FiniteMap
import Cryexts.Lib.NameTree
import Cryexts.Namei.Ops
import Cryexts.Namei.Ancestors
import Cryexts.Namei.Below
import Cryexts.Namei.Calm
import Cryexts.Namei.Account
import Cryexts.Namei.Failure
import Cryexts.Inode.TreeSpace
import Cryexts.Fsck
import Cryexts.Remount
import Cryexts.Inode.Accepted
import Cryexts.Inode.DirectRelease
import Cryexts.Inode.ListRelease
