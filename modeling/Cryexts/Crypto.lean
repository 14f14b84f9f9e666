import Cryexts.Super
import Mathlib.Data.Nat.Bitwise
import Mathlib.Data.Nat.ModEq
import Mathlib.Data.Int.GCD
import Mathlib.Data.List.TakeWhile

set_option autoImplicit false

namespace Cryexts

def SALT_LEN : Nat := 16
def DERIVED_KEY_LEN : Nat := 32
def KEY_MAX : Nat := 64
def ENC_FLAG_DATA : Nat := 1
def KDF_SALTED_FNV1A : Nat := 1
def ALG_AES_CTR : Nat := 2

/-- The byte that ends one mount option. -/
def COMMA : UInt8 := 0x2c

/-- `key=`. -/
def KEY_OPTION : List UInt8 := [0x6b, 0x65, 0x79, 0x3d]

/-- A C string: its bytes up to the terminator. -/
abbrev CString : Type := List UInt8

/-- `strchr` for a comma. -/
def strchrComma : CString → Option CString
  | [] => none
  | byte :: rest => if byte = COMMA then some (byte :: rest) else strchrComma rest

/-- `strcspn` up to a comma. -/
def strcspnComma (s : CString) : Nat := (s.takeWhile (· != COMMA)).length

/-- `cryexts_fnv1a_bytes`. -/
def fnv1aBytes (bytes : List UInt8) (seed : Nat) : Nat := bytes.foldl fnv1aStep seed

/-- The hash a round of `cryexts_derive_salted_key` starts from. -/
def roundSeed (round : Nat) : Nat := FNV_OFFSET ^^^ (0x9e3779b9 * (round + 1) % 2 ^ 32)

def deriveRound (key : CString) (salt : List UInt8) (round : Nat) : Nat :=
  let hash := fnv1aBytes key (roundSeed round)
  let hash := fnv1aBytes salt (hash ^^^ 0x85ebca6b)
  fnv1aBytes [UInt8.ofNat round] (hash ^^^ 0xc2b2ae35)

/-- `cryexts_derive_salted_key`. -/
def deriveSaltedKey (key : CString) (salt : List UInt8) : List UInt8 :=
  (List.range (DERIVED_KEY_LEN / 4)).flatMap fun round => leBytes (deriveRound key salt round) 4

/-- `cryexts_key_verifier`. -/
def keyVerifier (derived : List UInt8) : Nat := fnv1aBytes derived FNV_OFFSET

namespace Mkfs

/-- `derive_salted_key` of the formatter, line for line the kernel's. -/
def deriveSaltedKey (key : CString) (salt : List UInt8) : List UInt8 :=
  Cryexts.deriveSaltedKey key salt

/-- `key_verifier` of the formatter. -/
def keyVerifier (derived : List UInt8) : Nat := Cryexts.keyVerifier derived

/-- The check of `-E` in `main`. -/
def keyAccepted (key : CString) : Bool := !(key.isEmpty || decide (KEY_MAX ≤ key.length))

/-- `ensure_nonzero_salt`. -/
def ensureNonzeroSalt (salt : List UInt8) : List UInt8 :=
  if salt.all (· == 0) then salt.set 0 1 else salt

end Mkfs

/-- The members of the superblock that describe the encryption of a volume. -/
structure EncryptionMembers where
  encrypted : Bool
  keyHash : Nat
  encryptionFlags : Nat
  encryptionKdf : Nat
  encryptionAlg : Nat
  salt : List UInt8
  deriving DecidableEq

/-- What `main` of the formatter stores for a key; `random` is what `fill_random` or its
fallback has left in the salt. -/
def Mkfs.encryption (key : Option CString) (random : List UInt8) : EncryptionMembers :=
  match key with
  | some key =>
    let salt := Mkfs.ensureNonzeroSalt random
    let derived := Mkfs.deriveSaltedKey key salt
    ⟨true, Mkfs.keyVerifier derived, ENC_FLAG_DATA, KDF_SALTED_FNV1A, ALG_AES_CTR, salt⟩
  | none => ⟨false, 0, 0, 0, 0, List.replicate SALT_LEN 0⟩

/-- The members of `struct cryexts_sb_info` that the key set-up reads and writes. -/
structure CryptoInfo where
  encrypted : Bool
  keyVerifier : Nat
  encryptionFlags : Nat
  encryptionKdf : Nat
  encryptionAlg : Nat
  salt : List UInt8
  derivedKey : List UInt8
  derivedKeyLen : Nat
  skcipher : Bool
  deriving DecidableEq

/-- What `cryexts_fill_super` loads of them, into a zeroed `sbi`. -/
def loadEncryption (super : EncryptionMembers) : CryptoInfo :=
  ⟨super.encrypted, super.keyHash, super.encryptionFlags, super.encryptionKdf, super.encryptionAlg,
    super.salt, [], 0, false⟩

/-- The kernel's crypto API, as far as the mount calls it. -/
structure SkcipherApi where
  allocSkcipher : Except Errno Unit
  setkey : List UInt8 → Except Errno Unit

abbrev Crypto (α : Type) : Type := Routine CryptoInfo Errno α

/-- `cryexts_init_crypto_transform`. -/
def initCryptoTransform (api : SkcipherApi) : Crypto Unit := do
  let sbi ← Routine.read
  if !sbi.encrypted then return ()
  else if sbi.skcipher then return ()
  else if sbi.encryptionAlg != ALG_AES_CTR then Routine.fail .einval
  else
    match api.allocSkcipher with
    | .error err => Routine.fail err
    | .ok () =>
      match api.setkey (sbi.derivedKey.take (min sbi.derivedKeyLen 32)) with
      | .error err => Routine.fail err
      | .ok () => Routine.modify fun sbi => { sbi with skcipher := true }

theorem strchrComma_cons (s found : CString) (comma : strchrComma s = some found) :
    ∃ rest, found = COMMA :: rest ∧ found.length ≤ s.length := by
  induction s with
  | nil => contradiction
  | cons byte rest ih =>
      rw [strchrComma] at comma
      split at comma
      · rename_i here
        cases comma
        exact ⟨rest, by rw [here], Nat.le_refl _⟩
      · obtain ⟨more, same, short⟩ := ih comma
        exact ⟨more, same, Nat.le_succ_of_le short⟩

/-- The loop of `cryexts_find_mount_key`; `mountKey` is the module's own parameter. -/
def findMountKeyFrom (mountKey : Option CString) (p : CString) : Option CString :=
  if p.isEmpty then mountKey
  else if KEY_OPTION.isPrefixOf p then some (p.drop KEY_OPTION.length)
  else
    match _found : strchrComma p with
    | none => mountKey
    | some comma => findMountKeyFrom mountKey (comma.drop 1)
termination_by p.length
decreasing_by
  obtain ⟨rest, rfl, short⟩ := strchrComma_cons _ _ ‹_›
  simp only [List.length_cons, List.drop_one, List.tail_cons] at short ⊢
  omega

/-- `cryexts_find_mount_key`. -/
def findMountKey (mountKey options : Option CString) : Option CString :=
  match options with
  | none => mountKey
  | some options => findMountKeyFrom mountKey options

/-- `cryexts_set_encryption_key`. -/
def setEncryptionKey (api : SkcipherApi) (mountKey options : Option CString) : Crypto Unit := do
  let sbi ← Routine.read
  if !sbi.encrypted then return ()
  else
    match findMountKey mountKey options with
    | none => Routine.fail .eacces
    | some key =>
      if key.isEmpty then Routine.fail .eacces
      else if sbi.encryptionFlags != ENC_FLAG_DATA || sbi.encryptionKdf != KDF_SALTED_FNV1A ||
          sbi.encryptionAlg != ALG_AES_CTR then Routine.fail .einval
      else
        let len := strcspnComma key
        if len = 0 ∨ KEY_MAX ≤ len then Routine.fail .einval
        else
          let derived := deriveSaltedKey (key.take len) sbi.salt
          if keyVerifier derived != sbi.keyVerifier then Routine.fail .eacces
          else do
            Routine.modify fun sbi =>
              { sbi with derivedKey := derived, derivedKeyLen := DERIVED_KEY_LEN }
            initCryptoTransform api

section Hash

theorem fnv1aBytes_lt (bytes : List UInt8) (seed : Nat) (small : seed < 2 ^ 32) :
    fnv1aBytes bytes seed < 2 ^ 32 :=
  fnv1a_bytes_lt bytes seed small

/-- The prime is odd, so a step loses nothing of a 32-bit hash. -/
theorem fnv1aStep_injective (byte : UInt8) (first second : Nat) (low : first < 2 ^ 32)
    (high : second < 2 ^ 32) (same : fnv1aStep first byte = fnv1aStep second byte) :
    first = second := by
  have small : byte.toNat < 2 ^ 32 := Nat.lt_trans byte.toNat_lt (by decide)
  have cancelled : Nat.ModEq (2 ^ 32) (first ^^^ byte.toNat) (second ^^^ byte.toNat) :=
    Nat.ModEq.cancel_right_of_coprime (by decide) same
  have equal : first ^^^ byte.toNat = second ^^^ byte.toNat :=
    Nat.ModEq.eq_of_lt_of_lt cancelled (Nat.xor_lt_two_pow low small)
      (Nat.xor_lt_two_pow high small)
  exact Nat.xor_left_injective equal

theorem fnv1aBytes_cons (byte : UInt8) (rest : List UInt8) (seed : Nat) :
    fnv1aBytes (byte :: rest) seed = fnv1aBytes rest (fnv1aStep seed byte) := by
  simp only [fnv1aBytes, List.foldl_cons]

theorem fnv1aBytes_injective (bytes : List UInt8) (first second : Nat) (low : first < 2 ^ 32)
    (high : second < 2 ^ 32) (same : fnv1aBytes bytes first = fnv1aBytes bytes second) :
    first = second := by
  induction bytes generalizing first second with
  | nil => exact same
  | cons byte rest ih =>
      rw [fnv1aBytes_cons, fnv1aBytes_cons] at same
      have stepped := ih _ _ (fnv1aStep_lt first byte) (fnv1aStep_lt second byte) same
      exact fnv1aStep_injective byte first second low high stepped

theorem fnv1aBytes_append (first second : List UInt8) (seed : Nat) :
    fnv1aBytes (first ++ second) seed = fnv1aBytes second (fnv1aBytes first seed) :=
  List.foldl_append

theorem roundSeed_lt (round : Nat) : roundSeed round < 2 ^ 32 :=
  Nat.xor_lt_two_pow (by decide) (Nat.mod_lt _ (by decide))

theorem deriveRound_eq_iff (first second : CString) (salt : List UInt8) (round : Nat) :
    deriveRound first salt round = deriveRound second salt round ↔
      fnv1aBytes first (roundSeed round) = fnv1aBytes second (roundSeed round) := by
  have low := fnv1aBytes_lt first _ (roundSeed_lt round)
  have high := fnv1aBytes_lt second _ (roundSeed_lt round)
  constructor
  · intro same
    have mixed : ∀ key : CString, fnv1aBytes key (roundSeed round) ^^^ 0x85ebca6b < 2 ^ 32 :=
      fun key => Nat.xor_lt_two_pow (fnv1aBytes_lt key _ (roundSeed_lt round)) (by decide)
    have salted := fun key => fnv1aBytes_lt salt _ (mixed key)
    have last := fnv1aBytes_injective _ _ _ (Nat.xor_lt_two_pow (salted first) (by decide))
      (Nat.xor_lt_two_pow (salted second) (by decide)) same
    have middle := fnv1aBytes_injective _ _ _ (mixed first) (mixed second)
      (Nat.xor_left_injective last)
    exact Nat.xor_left_injective middle
  · intro same
    simp only [deriveRound, same]

theorem deriveRound_lt (key : CString) (salt : List UInt8) (round : Nat) :
    deriveRound key salt round < 2 ^ 32 := by
  have seeded := fnv1aBytes_lt key _ (roundSeed_lt round)
  have salted := fnv1aBytes_lt salt _ (Nat.xor_lt_two_pow seeded (show 0x85ebca6b < 2 ^ 32 by decide))
  exact fnv1aBytes_lt _ _ (Nat.xor_lt_two_pow salted (by decide))

theorem leBytes_injective (first second : Nat) (low : first < 2 ^ 32) (high : second < 2 ^ 32)
    (same : leBytes first 4 = leBytes second 4) : first = second := by
  have digit : ∀ value, (leBytes value 4).map UInt8.toNat =
      [value % 256, value / 256 % 256, value / 65536 % 256, value / 16777216 % 256] := by
    intro value
    simp [leBytes, List.range_succ]
  have digits := congrArg (List.map UInt8.toNat) same
  simp only [digit, List.cons.injEq] at digits
  omega

theorem flatMap_eq_iff (first second : Nat → List UInt8) (rounds : List Nat) (width : Nat)
    (low : ∀ round, (first round).length = width) (high : ∀ round, (second round).length = width)
    (same : rounds.flatMap first = rounds.flatMap second) :
    ∀ round ∈ rounds, first round = second round := by
  induction rounds with
  | nil => simp
  | cons round rest ih =>
      rw [List.flatMap_cons, List.flatMap_cons] at same
      have split := List.append_inj same (by rw [low, high])
      intro other member
      rcases List.mem_cons.mp member with rfl | later
      · exact split.1
      · exact ih split.2 other later

/-- Two keys derive the same bytes just when they leave the same hash in every round. -/
theorem deriveSaltedKey_eq_iff (first second : CString) (salt : List UInt8) :
    deriveSaltedKey first salt = deriveSaltedKey second salt ↔
      ∀ round < 8, fnv1aBytes first (roundSeed round) = fnv1aBytes second (roundSeed round) := by
  constructor
  · intro same round within
    have wide : ∀ value, (leBytes value 4).length = 4 := by simp [leBytes]
    have bytes := flatMap_eq_iff _ _ _ 4 (fun _ => wide _) (fun _ => wide _) same round
      (List.mem_range.mpr within)
    rw [← deriveRound_eq_iff first second salt]
    exact leBytes_injective _ _ (deriveRound_lt _ _ _) (deriveRound_lt _ _ _) bytes
  · intro same
    apply List.flatMap_congr
    intro round member
    have within : round < 8 := List.mem_range.mp member
    rw [(deriveRound_eq_iff first second salt round).mpr (same round within)]

end Hash

/-- One option of the comma-separated string, other than the key. -/
structure MountOption where
  bytes : CString
  single : COMMA ∉ bytes
  other : ¬ KEY_OPTION <+: bytes

/-- The option string with the key among the other options. -/
def optionString (before : List MountOption) (key : CString) (after : List MountOption) : CString :=
  [COMMA].intercalate (before.map (·.bytes) ++ (KEY_OPTION ++ key) :: after.map (·.bytes))

section Options

theorem strchrComma_append (option rest : CString) (single : COMMA ∉ option) :
    strchrComma (option ++ COMMA :: rest) = some (COMMA :: rest) := by
  induction option with
  | nil => rw [List.nil_append, strchrComma, if_pos rfl]
  | cons byte more ih =>
      have apart : byte ≠ COMMA ∧ COMMA ∉ more := by simpa [eq_comm] using single
      rw [List.cons_append, strchrComma, if_neg apart.1]
      exact ih apart.2

theorem MountOption.not_key (option : MountOption) (rest : CString) :
    ¬ KEY_OPTION <+: option.bytes ++ COMMA :: rest := by
  intro starts
  have comma : option.bytes ++ [COMMA] <+: option.bytes ++ COMMA :: rest := ⟨rest, by simp⟩
  rcases List.prefix_or_prefix_of_prefix starts comma with short | long
  · rcases List.prefix_concat_iff.mp short with whole | inside
    · have member : COMMA ∈ KEY_OPTION := by rw [whole]; simp
      exact absurd member (by decide)
    · exact option.other inside
  · have member : COMMA ∈ KEY_OPTION := long.subset (by simp)
    exact absurd member (by decide)

/-- The loop steps over one option that is not the key. -/
theorem findMountKeyFrom_option (mountKey : Option CString) (option : MountOption)
    (rest : CString) :
    findMountKeyFrom mountKey (option.bytes ++ COMMA :: rest) = findMountKeyFrom mountKey rest := by
  have shown : (option.bytes ++ COMMA :: rest).isEmpty = false := by simp
  have other : KEY_OPTION.isPrefixOf (option.bytes ++ COMMA :: rest) = false := by
    rw [Bool.eq_false_iff, ne_eq, List.isPrefixOf_iff_prefix]
    exact option.not_key rest
  rw [findMountKeyFrom, shown, other]
  simp only [Bool.false_eq_true, ↓reduceIte]
  split
  · rename_i missing
    rw [strchrComma_append _ _ option.single] at missing
    contradiction
  · rename_i comma found
    rw [strchrComma_append _ _ option.single] at found
    cases found
    rfl

/-- What the options behind the key add to the string from the key on. -/
def optionTail : List MountOption → CString
  | [] => []
  | option :: rest => COMMA :: [COMMA].intercalate ((option :: rest).map (·.bytes))

theorem optionTail_takeWhile (after : List MountOption) :
    (optionTail after).takeWhile (· != COMMA) = [] := by
  cases after with
  | nil => rfl
  | cons option rest => simp [optionTail]

theorem findMountKey_optionString (mountKey : Option CString) (before after : List MountOption)
    (key : CString) :
    findMountKey mountKey (some (optionString before key after)) =
      some (key ++ optionTail after) := by
  rw [findMountKey]
  induction before with
  | nil =>
      have joined : optionString [] key after = KEY_OPTION ++ (key ++ optionTail after) := by
        cases after with
        | nil => simp [optionString, optionTail]
        | cons option rest =>
            simp [optionString, optionTail, List.intercalate_cons_cons]
      rw [joined, findMountKeyFrom]
      have starts : KEY_OPTION.isPrefixOf (KEY_OPTION ++ (key ++ optionTail after)) = true := by
        rw [List.isPrefixOf_iff_prefix]
        exact List.prefix_append _ _
      have shown : (KEY_OPTION ++ (key ++ optionTail after)).isEmpty = false := by simp [KEY_OPTION]
      rw [starts, shown, List.drop_left]
      simp
  | cons option rest ih =>
      have joined : optionString (option :: rest) key after =
          option.bytes ++ COMMA :: optionString rest key after := by
        cases rest with
        | nil => simp [optionString, List.intercalate_cons_cons]
        | cons next more => simp [optionString, List.intercalate_cons_cons]
      rw [joined, findMountKeyFrom_option]
      exact ih

end Options

/-- The crypto API has the cipher and takes a 256-bit key for it. -/
structure SkcipherApi.Works (api : SkcipherApi) : Prop where
  alloc : api.allocSkcipher = .ok ()
  setkey : ∀ key : List UInt8, key.length = 32 → api.setkey key = .ok ()

/-- What the kernel takes for the key: the formatter's key up to its first comma. -/
def mountedKey (key : CString) : CString := key.takeWhile (· != COMMA)

/-- The mount accepts the key of a volume just formatted with it and holds the bytes that
the stored verifier was computed from. -/
def MountsFormatted (api : SkcipherApi) (mountKey : Option CString) (key : CString)
    (random : List UInt8) (before after : List MountOption) : Prop :=
  ∃ sbi, setEncryptionKey api mountKey (some (optionString before key after))
      (loadEncryption (Mkfs.encryption (some key) random)) = (.ok (), sbi) ∧
    sbi.derivedKey = Mkfs.deriveSaltedKey key (Mkfs.ensureNonzeroSalt random)

/-- The bytes from the first comma on leave every one of the eight round hashes as they
found it, and some byte stands before them. -/
def CutUnnoticed (key : CString) : Prop :=
  mountedKey key ≠ [] ∧
    ∀ round < 8, fnv1aBytes (key.drop (mountedKey key).length)
      (fnv1aBytes (mountedKey key) (roundSeed round)) =
        fnv1aBytes (mountedKey key) (roundSeed round)

section Mounted

theorem mountedKey_append (key : CString) (after : List MountOption) :
    strcspnComma (key ++ optionTail after) = (mountedKey key).length ∧
      (key ++ optionTail after).take (mountedKey key).length = mountedKey key := by
  have taken : (key ++ optionTail after).takeWhile (· != COMMA) = mountedKey key := by
    rw [List.takeWhile_append, optionTail_takeWhile, List.append_nil, mountedKey]
    split
    · rename_i whole
      exact ((List.takeWhile_prefix _).eq_of_length whole).symm
    · rfl
  constructor
  · rw [strcspnComma, taken]
  · have start : mountedKey key <+: key ++ optionTail after :=
      (List.takeWhile_prefix _).trans (List.prefix_append _ _)
    exact (List.prefix_iff_eq_take.mp start).symm

theorem mountedKey_drop (key : CString) :
    mountedKey key ++ key.drop (mountedKey key).length = key :=
  List.prefix_iff_eq_append.mp (List.takeWhile_prefix _)

theorem mountedKey_whole (key : CString) (single : COMMA ∉ key) : mountedKey key = key := by
  apply List.takeWhile_eq_self_iff.mpr
  intro byte member
  have apart : byte ≠ COMMA := fun same => single (same ▸ member)
  simpa using apart

theorem deriveSaltedKey_length (key : CString) (salt : List UInt8) :
    (deriveSaltedKey key salt).length = 32 := by
  simp [deriveSaltedKey, leBytes, DERIVED_KEY_LEN]

theorem loadEncryption_formatted (key : CString) (random : List UInt8) :
    loadEncryption (Mkfs.encryption (some key) random) =
      ⟨true, keyVerifier (deriveSaltedKey key (Mkfs.ensureNonzeroSalt random)), ENC_FLAG_DATA,
        KDF_SALTED_FNV1A, ALG_AES_CTR, Mkfs.ensureNonzeroSalt random, [], 0, false⟩ := by
  simp only [loadEncryption, Mkfs.encryption, Mkfs.keyVerifier, Mkfs.deriveSaltedKey]

theorem initCryptoTransform_works (api : SkcipherApi) (works : api.Works) (sbi : CryptoInfo)
    (aes : sbi.encryptionAlg = ALG_AES_CTR) (fresh : sbi.skcipher = false)
    (encrypted : sbi.encrypted = true) (key : sbi.derivedKey.length = 32)
    (len : sbi.derivedKeyLen = DERIVED_KEY_LEN) :
    initCryptoTransform api sbi = (.ok (), { sbi with skcipher := true }) := by
  have taken : (sbi.derivedKey.take (min sbi.derivedKeyLen 32)).length = 32 := by
    simp [key, len, DERIVED_KEY_LEN]
  simp [initCryptoTransform, aes, fresh, encrypted, works.alloc, works.setkey _ taken]

/-- The key set-up of an encrypted volume with known metadata, over the string it has found. -/
theorem setEncryptionKey_found (api : SkcipherApi) (works : api.Works)
    (mountKey options : Option CString) (text : CString) (verifier : Nat) (salt : List UInt8)
    (found : findMountKey mountKey options = some text) (shown : text.isEmpty = false)
    (short : strcspnComma text < KEY_MAX) :
    setEncryptionKey api mountKey options
      ⟨true, verifier, ENC_FLAG_DATA, KDF_SALTED_FNV1A, ALG_AES_CTR, salt, [], 0, false⟩ =
      if strcspnComma text = 0 then (.error .einval,
        ⟨true, verifier, ENC_FLAG_DATA, KDF_SALTED_FNV1A, ALG_AES_CTR, salt, [], 0, false⟩)
      else if keyVerifier (deriveSaltedKey (text.take (strcspnComma text)) salt) = verifier then
        (.ok (), ⟨true, verifier, ENC_FLAG_DATA, KDF_SALTED_FNV1A, ALG_AES_CTR, salt,
          deriveSaltedKey (text.take (strcspnComma text)) salt, DERIVED_KEY_LEN, true⟩)
      else (.error .eacces,
        ⟨true, verifier, ENC_FLAG_DATA, KDF_SALTED_FNV1A, ALG_AES_CTR, salt, [], 0, false⟩) := by
  have wide := deriveSaltedKey_length (text.take (strcspnComma text)) salt
  rw [setEncryptionKey, Routine.read_bind, found]
  simp only [shown, Bool.not_true, Bool.false_eq_true, ↓reduceIte]
  rw [if_neg (by simp)]
  generalize deriveSaltedKey (text.take (strcspnComma text)) salt = derived at *
  by_cases empty : strcspnComma text = 0
  · rw [if_pos (Or.inl empty), if_pos empty, Routine.fail_run]
  · rw [if_neg (by omega), if_neg empty]
    by_cases same : keyVerifier derived = verifier
    · rw [if_pos same, if_neg (by simp [same])]
      simp only [Routine.modify_bind]
      rw [initCryptoTransform_works api works _ rfl rfl rfl wide rfl]
    · rw [if_neg same, if_pos (by simpa using same), Routine.fail_run]

/-- The key set-up of a volume formatted with an accepted key. -/
theorem setEncryptionKey_formatted (api : SkcipherApi) (works : api.Works)
    (mountKey : Option CString) (key : CString) (accepted : Mkfs.keyAccepted key = true)
    (random : List UInt8) (before after : List MountOption) (part whole : List UInt8)
    (taken : deriveSaltedKey (mountedKey key) (Mkfs.ensureNonzeroSalt random) = part)
    (formatted : deriveSaltedKey key (Mkfs.ensureNonzeroSalt random) = whole) :
    setEncryptionKey api mountKey (some (optionString before key after))
      (loadEncryption (Mkfs.encryption (some key) random)) =
      if (mountedKey key).length = 0 then
        (.error .einval, loadEncryption (Mkfs.encryption (some key) random))
      else if keyVerifier part = keyVerifier whole then
        (.ok (), { loadEncryption (Mkfs.encryption (some key) random) with
          derivedKey := part, derivedKeyLen := DERIVED_KEY_LEN, skcipher := true })
      else (.error .eacces, loadEncryption (Mkfs.encryption (some key) random)) := by
  have bounds : key ≠ [] ∧ key.length < KEY_MAX := by
    simpa [Mkfs.keyAccepted] using accepted
  have short : (mountedKey key).length < KEY_MAX :=
    Nat.lt_of_le_of_lt (List.takeWhile_prefix _).length_le bounds.2
  have shown : (key ++ optionTail after).isEmpty = false := by simp [bounds.1]
  have extracted := mountedKey_append key after
  have run := setEncryptionKey_found api works mountKey _ _ (keyVerifier whole)
    (Mkfs.ensureNonzeroSalt random) (findMountKey_optionString mountKey before after key) shown
    (by rw [extracted.1]; exact short)
  rw [extracted.1, extracted.2, taken] at run
  rw [loadEncryption_formatted, formatted]
  exact run

/-- A formatted key mounts, with the formatter's key bytes, just when it has no comma, or the
bytes that the comma cuts off go unnoticed by the hash. -/
theorem mountsFormatted_iff (api : SkcipherApi) (works : api.Works) (mountKey : Option CString)
    (key : CString) (accepted : Mkfs.keyAccepted key = true) (random : List UInt8)
    (before after : List MountOption) :
    MountsFormatted api mountKey key random before after ↔ COMMA ∉ key ∨ CutUnnoticed key := by
  have bounds : key ≠ [] ∧ key.length < KEY_MAX := by
    simpa [Mkfs.keyAccepted] using accepted
  have cut : deriveSaltedKey (mountedKey key) (Mkfs.ensureNonzeroSalt random) =
      deriveSaltedKey key (Mkfs.ensureNonzeroSalt random) ↔
        ∀ round < 8, fnv1aBytes (key.drop (mountedKey key).length)
          (fnv1aBytes (mountedKey key) (roundSeed round)) =
            fnv1aBytes (mountedKey key) (roundSeed round) := by
    have rounds : ∀ round, fnv1aBytes key (roundSeed round) =
        fnv1aBytes (key.drop (mountedKey key).length)
          (fnv1aBytes (mountedKey key) (roundSeed round)) := by
      intro round
      rw [← fnv1aBytes_append, mountedKey_drop]
    rw [deriveSaltedKey_eq_iff]
    simp only [rounds, eq_comm]
  rw [MountsFormatted, Mkfs.deriveSaltedKey]
  generalize formatted : deriveSaltedKey key (Mkfs.ensureNonzeroSalt random) = whole at *
  generalize taken : deriveSaltedKey (mountedKey key) (Mkfs.ensureNonzeroSalt random) = part at *
  rw [setEncryptionKey_formatted api works mountKey key accepted random before after part whole
    taken formatted]
  constructor
  · rintro ⟨sbi, mounted, derived⟩
    right
    split at mounted
    · cases mounted
    · rename_i nonempty
      split at mounted
      · cases mounted
        exact ⟨fun empty => nonempty (by rw [empty]; rfl), cut.mp derived⟩
      · cases mounted
  · intro clear
    have same : part = whole ∧ mountedKey key ≠ [] := by
      rcases clear with single | ⟨nonempty, unnoticed⟩
      · have kept := mountedKey_whole key single
        rw [kept, formatted] at taken
        exact ⟨taken.symm, by rw [kept]; exact bounds.1⟩
      · exact ⟨cut.mpr unnoticed, nonempty⟩
    rw [if_neg (mt List.length_eq_zero_iff.mp same.2), if_pos (by rw [same.1])]
    exact ⟨_, rfl, same.1⟩

end Mounted

/-- A crypto API that knows the cipher and takes keys of 32 bytes. -/
def aesApi : SkcipherApi where
  allocSkcipher := .ok ()
  setkey := fun key => if key.length = 32 then .ok () else .error .einval

theorem aesApi_works : aesApi.Works := ⟨rfl, fun _ long => if_pos long⟩

/-- `ro`. -/
def readOnlyOption : MountOption := ⟨[0x72, 0x6f], by decide, by decide⟩

/-- `test-key`. -/
def plainKey : CString := [0x74, 0x65, 0x73, 0x74, 0x2d, 0x6b, 0x65, 0x79]

/-- `pass,word`. -/
def commaKey : CString := [0x70, 0x61, 0x73, 0x73, 0x2c, 0x77, 0x6f, 0x72, 0x64]

def someSalt : List UInt8 := List.replicate SALT_LEN 7

theorem mountsFormatted_plain :
    MountsFormatted aesApi none plainKey someSalt [readOnlyOption] [readOnlyOption] :=
  (mountsFormatted_iff aesApi aesApi_works none plainKey (by decide) someSalt [readOnlyOption]
    [readOnlyOption]).mpr (Or.inl (by decide))

/-- The volume is formatted with `pass,word` and cannot be mounted with it. -/
theorem mountsFormatted_comma :
    Mkfs.keyAccepted commaKey = true ∧
      ¬ MountsFormatted aesApi none commaKey someSalt [readOnlyOption] [] := by
  have accepted : Mkfs.keyAccepted commaKey = true := by decide
  refine ⟨accepted, ?_⟩
  rw [MountsFormatted, setEncryptionKey_formatted aesApi aesApi_works none commaKey accepted _ _ _
    _ _ rfl rfl, if_neg (by decide), if_neg (by decide +kernel)]
  rintro ⟨sbi, refused, _⟩
  cases refused

end Cryexts
