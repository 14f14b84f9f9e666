import Cryexts.Xattr.RoundTrip
import Cryexts.Balloc.Blocks
import Mathlib.Data.Nat.Digits.Defs

set_option autoImplicit false

namespace Cryexts

namespace Xattr

open Balloc (Allocator)

/-- `CRYEXTS_XATTR_POLICY_NAME`, "cryexts.policy_id". -/
def POLICY_NAME : List UInt8 :=
  [0x63, 0x72, 0x79, 0x65, 0x78, 0x74, 0x73, 0x2e, 0x70, 0x6f, 0x6c, 0x69, 0x63, 0x79, 0x5f, 0x69,
    0x64]

/-- What the mount and the inode's kind settle for the handlers: the features, the policies of
the policy table if there is one, and whether the inode is a file or symlink with data. -/
structure XattrSuper where
  xattr : Bool
  largeXattr : Bool
  policy : Bool
  policyTable : Option (Nat → Bool)
  hasData : Bool

/-- The inode in memory, its slot in the inode table, the block bitmaps and what the blocks hold. -/
structure XattrState where
  xattrBlock : Nat
  policyId : Nat
  slotXattrBlock : Nat
  slotPolicyId : Nat
  allocator : Allocator
  buffers : Nat → Block

/-- The answers that one call gets from memory, the block layer and the journal: the error that a
step fails with, if it does. `values` stands for the `kmemdup`s of a load. -/
structure Outcomes where
  items : Option Errno
  loadBuffer : Option Errno
  rootRead : Option Errno
  overflowRead : Option Errno
  values : Option Errno
  newValue : Option Errno
  begins : Option Errno
  rootBuffer : Option Errno
  reread : Option Errno
  overflowBuffer : Option Errno
  recordOverflow : Option Errno
  writeOverflow : Option Errno
  recordRoot : Option Errno
  writeRoot : Option Errno
  writeInode : Option Errno
  commits : Option Errno

/-- Nothing fails. -/
def Outcomes.calm : Outcomes :=
  ⟨none, none, none, none, none, none, none, none, none, none, none, none, none, none, none, none⟩

abbrev XattrOp (α : Type) : Type := Routine XattrState (Stop Errno) α

def answer (outcome : Option Errno) : XattrOp Unit := Routine.answer (outcome.map Stop.error)

/-- A call of the block allocator. -/
def withAllocator {α : Type} (call : Routine Allocator Errno α) : XattrOp α :=
  Routine.onPart XattrState.allocator (fun s a => { s with allocator := a })
    (call.mapError Stop.error)

def allocBlock : XattrOp Nat := withAllocator Balloc.allocBlock

def freeBlock (block : Nat) : XattrOp Unit := withAllocator (Balloc.freeBlock block)

/-- The members of `cryexts_write_inode_to_disk` that the handlers change. -/
def writeInodeToDisk (writes : Option Errno) : XattrOp Unit := do
  answer writes
  Routine.modify fun s => { s with slotXattrBlock := s.xattrBlock, slotPolicyId := s.policyId }

/-- `cryexts_policy_exists`. -/
def policyExists (sup : XattrSuper) (policy : Nat) : Bool :=
  match sup.policyTable with
  | none => true
  | some present => present policy

/-- What `cryexts_iget` checks and loads of the handlers' members, for an inode that has left the
cache. -/
def igetXattrs (sup : XattrSuper) : XattrOp Unit := do
  let s ← Routine.read
  if s.slotXattrBlock ≠ 0 ∧ (Balloc.dataBlockValid s.allocator s.slotXattrBlock = false ∨
      Balloc.blockBitmapUsed s.allocator s.slotXattrBlock = false) then
    Routine.fail (.error .euclean)
  else if policyExists sup s.slotPolicyId = false then Routine.fail (.error .euclean)
  else Routine.modify fun s =>
    { s with xattrBlock := s.slotXattrBlock, policyId := s.slotPolicyId }

/-- The items that a parse has counted. -/
def listed (parsed : XattrParse) : List XattrItem := (List.range parsed.count).map parsed.items

/-- The array that holds a list of items. -/
def itemAt (items : List XattrItem) (slot : Nat) : XattrItem := items.getD slot .empty

section Handlers

variable (sup : XattrSuper) (o : Outcomes)

/-- `cryexts_load_xattrs`. -/
def loadXattrs : XattrOp (List XattrItem) := do
  let s ← Routine.read
  if s.xattrBlock = 0 then return []
  else do
    answer o.loadBuffer
    answer o.rootRead
    match parseXattrBlock (s.buffers s.xattrBlock) 0 (XattrParse.start []) with
    | (.error reason, _) => Routine.fail reason
    | (.ok (), parsed) => do
      answer o.values
      if parsed.overflowBlock = 0 then return listed parsed
      else if sup.largeXattr = false then Routine.fail (.error .euclean)
      else do
        answer o.overflowRead
        match parseXattrBlock (s.buffers parsed.overflowBlock) parsed.count parsed with
        | (.error reason, _) => Routine.fail reason
        | (.ok (), after) =>
          if after.overflowBlock ≠ 0 then Routine.fail (.error .euclean)
          else return listed after

/-- `cryexts_find_xattr_item`: the items' names are C strings. -/
def findXattrItem (items : List XattrItem) (name : List UInt8) : Option Nat :=
  items.findIdx? fun item => item.name.takeWhile (· != 0) == name

/-- The value of a name. -/
def valueOf (items : List XattrItem) (name : List UInt8) : Option (List UInt8) :=
  (findXattrItem items name).map fun idx =>
    ((itemAt items idx).value.getD []).take (itemAt items idx).valueLen

/-- `scnprintf` of a policy id with `%u`. -/
def decimal (value : Nat) : List UInt8 :=
  if value = 0 then [0x30]
  else (Nat.digits 10 value).reverse.map fun digit => UInt8.ofNat (0x30 + digit)

/-- The length of a value and, if there is a buffer and it is long enough, the value. -/
def handOut (value : List UInt8) (buffer : Option Nat) : XattrOp (Nat × List UInt8) :=
  match buffer with
  | none => return (value.length, [])
  | some size =>
    if size < value.length then Routine.fail (.error .erange)
    else return (value.length, value)

/-- `cryexts_user_xattr_get`. -/
def userXattrGet (name : List UInt8) (buffer : Option Nat) : XattrOp (Nat × List UInt8) := do
  answer o.items
  if name = [] then Routine.fail (.error .einval)
  else if sup.xattr = false ∧ name ≠ POLICY_NAME then Routine.fail (.error .eopnotsupp)
  else if name = POLICY_NAME then do
    if sup.policy = false then Routine.fail (.error .eopnotsupp)
    else do
      let s ← Routine.read
      handOut (decimal s.policyId) buffer
  else do
    let items ← loadXattrs sup o
    match valueOf items name with
    | none => Routine.fail (.error .enodata)
    | some value => handOut value buffer

/-- `XATTR_USER_PREFIX`, "user.". -/
def XATTR_USER_PREFIX : List UInt8 := [0x75, 0x73, 0x65, 0x72, 0x2e]

/-- A name in the answer of `cryexts_listxattr`. -/
def listEntry (name : List UInt8) : List UInt8 := XATTR_USER_PREFIX ++ name ++ [0]

/-- `cryexts_listxattr`. -/
def listxattr (buffer : Option Nat) : XattrOp (Nat × List UInt8) := do
  answer o.items
  let policy := if sup.policy then listEntry POLICY_NAME else []
  if sup.xattr = false then handOut policy buffer
  else do
    let items ← loadXattrs sup o
    handOut (policy ++ items.flatMap fun item => listEntry (item.name.takeWhile (· != 0))) buffer

/-- What a call of the set handler is given: a C string, a value or `NULL`, and the flags. -/
structure SetCall where
  name : List UInt8
  ended : 0 ∉ name
  value : Option (List UInt8)
  create : Bool
  replace : Bool

/-- The item for a new value, whose length goes into 16 bits. -/
def newItem (name value : List UInt8) : XattrItem :=
  ⟨name, value.length % 2 ^ 16, if value = [] then none else some value⟩

/-- The items after the change that the set handler makes to them in memory. -/
def changeItems (call : SetCall) (items : List XattrItem) : XattrOp (List XattrItem) :=
  let found := findXattrItem items call.name
  if call.create = true ∧ found.isSome = true then Routine.fail (.error .eexist)
  else if call.replace = true ∧ found = none then Routine.fail (.error .enodata)
  else
    match call.value, found with
    | none, none => Routine.fail (.error .enodata)
    | none, some idx => return items.eraseIdx idx
    | some value, some idx => do
      answer (if value = [] then none else o.newValue)
      return items.set idx { newItem call.name value with name := (itemAt items idx).name }
    | some value, none =>
      if XATTR_MAX_ITEMS ≤ items.length then Routine.fail (.error .enospc)
      else do
        answer (if value = [] then none else o.newValue)
        return items ++ [newItem call.name value]

/-- `cryexts_free_xattr_storage`. -/
def freeXattrStorage : XattrOp Unit := do
  let s ← Routine.read
  if s.xattrBlock = 0 then return ()
  else do
    answer o.rootBuffer
    answer o.reread
    let overflowBlock := (s.buffers s.xattrBlock).get Header.overflowBlock
    if overflowBlock = 0 then pure () else freeBlock overflowBlock
    freeBlock s.xattrBlock
    Routine.modify fun s => { s with xattrBlock := 0 }

/-- How many items from the first on go into the root block. -/
def rootEntries : (used : Nat) → List XattrItem → Nat
  | _, [] => 0
  | used, item :: rest =>
    if BLOCK_SIZE < used + item.size then 0 else rootEntries (used + item.size) rest + 1

/-- What `cryexts_write_xattrs` has made ready before it writes a block. -/
structure Plan where
  rootBlock : Nat
  rootNew : Bool
  oldOverflowBlock : Nat
  overflowBlock : Nat
  overflowNew : Bool
  root : Block
  second : Option Block

/-- The label `out_free` of `cryexts_write_xattrs`. -/
def outFree (rootNew : Bool) (rootBlock : Nat) (overflowNew : Bool) (overflowBlock : Nat) :
    XattrOp Unit := do
  if rootNew then (freeBlock rootBlock).ignored else pure ()
  if overflowNew then (freeBlock overflowBlock).ignored else pure ()

def packed (result : Except Errno Block) : XattrOp Block :=
  match result with
  | .ok content => pure content
  | .error reason => Routine.fail (.error reason)

/-- The part of `cryexts_write_xattrs` up to the sizes of the items: the overflow block of the
root block as it is. -/
def oldOverflow (items : List XattrItem) (rootBlock : Nat) (rootNew : Bool) : XattrOp Nat := do
  answer o.rootBuffer
  let s ← Routine.read
  answer (if rootNew then none else o.reread)
  if items.any (fun item => decide (BLOCK_SIZE - Header.SIZE < item.size)) then
    Routine.fail (.error .enospc)
  else return if rootNew then 0 else (s.buffers rootBlock).get Header.overflowBlock

/-- The overflow block that the items behind the root block go to. -/
def overflowFor (old : Nat) : XattrOp Nat :=
  if sup.largeXattr = false then Routine.fail (.error .enospc)
  else if old = 0 then allocBlock
  else return old

def packBoth (items : List XattrItem) (rootBlock : Nat) (rootNew : Bool) (old overflowBlock : Nat) :
    XattrOp Plan := do
  let entries := rootEntries Header.SIZE items
  answer o.overflowBuffer
  let second ← packed (packXattrBlock (itemAt items) entries (items.length - entries) 0)
  let root ← packed (packXattrBlock (itemAt items) 0 entries overflowBlock)
  return ⟨rootBlock, rootNew, old, overflowBlock, old == 0, root, some second⟩

/-- The part of `cryexts_write_xattrs` that packs the items, once the root block is known. -/
def packBlocks (items : List XattrItem) (rootBlock : Nat) (rootNew : Bool) : XattrOp Plan := do
  let old ← Routine.onFailure (oldOverflow o items rootBlock rootNew)
    fun _ => outFree rootNew rootBlock false 0
  let entries := rootEntries Header.SIZE items
  if entries = items.length then
    Routine.onFailure (do
      let root ← packed (packXattrBlock (itemAt items) 0 entries 0)
      return ⟨rootBlock, rootNew, old, old, false, root, none⟩)
      fun _ => outFree rootNew rootBlock false 0
  else do
    let overflowBlock ← Routine.onFailure (overflowFor sup old)
      fun _ => outFree rootNew rootBlock false 0
    Routine.onFailure (packBoth o items rootBlock rootNew old overflowBlock)
      fun _ => outFree rootNew rootBlock (old == 0) overflowBlock

/-- The part of `cryexts_write_xattrs` before it writes a block. -/
def prepareXattrs (items : List XattrItem) : XattrOp Plan := do
  let s ← Routine.read
  let rootNew := s.xattrBlock == 0
  let rootBlock ← if rootNew then allocBlock else pure s.xattrBlock
  packBlocks sup o items rootBlock rootNew

def writeBlock (block : Nat) (content : Block) (records writes : Option Errno) : XattrOp Unit := do
  answer records
  answer writes
  Routine.modify fun s => { s with buffers := WriteLog.store s.buffers block content }

/-- The part of `cryexts_write_xattrs` that writes the overflow block and the root block. -/
def writeBlocks (plan : Plan) : XattrOp Unit := do
  match plan.second with
  | none => pure ()
  | some second => writeBlock plan.overflowBlock second o.recordOverflow o.writeOverflow
  writeBlock plan.rootBlock plan.root o.recordRoot o.writeRoot

/-- The rest of `cryexts_write_xattrs`: both blocks, the inode, and the old overflow block when it is
no longer needed. -/
def storeXattrs (plan : Plan) : XattrOp Unit := do
  Routine.onFailure (writeBlocks o plan)
    fun _ => outFree plan.rootNew plan.rootBlock plan.overflowNew plan.overflowBlock
  Routine.modify fun s => { s with xattrBlock := plan.rootBlock }
  writeInodeToDisk o.writeInode
  if plan.second.isNone ∧ plan.oldOverflowBlock ≠ 0 then freeBlock plan.oldOverflowBlock else pure ()

/-- `cryexts_write_xattrs`. -/
def writeXattrs (items : List XattrItem) : XattrOp Unit :=
  if items = [] then freeXattrStorage o
  else do
    let plan ← prepareXattrs sup o items
    storeXattrs o plan

/-- `kstrtou32` of a C string, in base ten. -/
def kstrtou32 (bytes : List UInt8) : Except Errno Nat :=
  let bytes := bytes.takeWhile (· != 0)
  let bytes := if bytes.head? = some 0x2b then bytes.tail else bytes
  let isDigit := fun byte : UInt8 => decide (0x30 ≤ byte ∧ byte ≤ 0x39)
  let digits := bytes.takeWhile isDigit
  let rest := bytes.dropWhile isDigit
  let value := digits.foldl (fun total digit => 10 * total + (digit.toNat - 0x30)) 0
  if 2 ^ 64 ≤ value then .error .erange
  else if digits = [] then .error .einval
  else if rest ≠ [] ∧ rest ≠ [0x0a] then .error .einval
  else if 2 ^ 32 ≤ value then .error .erange
  else .ok value

/-- The policy that a value asks for. -/
def policyOf (value : Option (List UInt8)) : Except Errno Nat :=
  match value with
  | none => .ok 0
  | some bytes => if bytes = [] ∨ 32 ≤ bytes.length then .error .einval else kstrtou32 bytes

/-- `cryexts_policy_xattr_set`. -/
def policyXattrSet (value : Option (List UInt8)) : XattrOp Unit :=
  match policyOf value with
  | .error reason => Routine.fail (.error reason)
  | .ok policy => do
    let s ← Routine.read
    if policy = s.policyId then return ()
    else if sup.policyTable.isSome ∧ policyExists sup policy = false then
      Routine.fail (.error .einval)
    else if sup.hasData then Routine.fail (.error .ebusy)
    else do
      Routine.modify fun s => { s with policyId := policy }
      writeInodeToDisk o.writeInode

/-- The part of `cryexts_user_xattr_set` before the transaction: the items to store. -/
def nextItems (call : SetCall) : XattrOp (List XattrItem) :=
  if sup.xattr = false then Routine.fail (.error .eopnotsupp)
  else if XATTR_MAX_NAME_LEN < call.name.length then Routine.fail (.error .erange)
  else do
    let items ← loadXattrs sup o
    changeItems o call items

/-- `cryexts_user_xattr_set`. An abort drops what the journal has recorded of the transaction, and
leaves the buffers and the inode as they are. -/
def userXattrSet (call : SetCall) : XattrOp Unit := do
  answer o.items
  if call.name = [] then Routine.fail (.error .einval)
  else if call.name = POLICY_NAME then do
    if sup.policy = false then Routine.fail (.error .eopnotsupp)
    else do
      answer o.begins
      policyXattrSet sup o call.value
      answer o.commits
  else do
    let items ← nextItems sup o call
    answer o.begins
    writeXattrs sup o items
    answer o.commits

end Handlers

end Xattr

end Cryexts
