import LoadReth.Engine.Payload

/-!
# The Load engine validator

`engine/validator.rs`: `LoadEngineValidator` wraps the upstream
`EthereumExecutionPayloadValidator` and adds the Load checks.  It has two entry points
for payloads, and they do not check the same things.

* `validate_version_specific_fields`, which the Engine API runs before it forwards a
  payload or attributes, refuses a payload whose `prev_randao` is not `LOAD_PREVRANDAO`,
  that carries more than `LOAD_MAX_BLOB_COUNT` versioned hashes, or that carries full
  execution requests before Prague; and attributes without the constant.  It then runs
  the upstream version checks.
* `ensure_well_formed_payload`, which the engine tree runs on every payload it is
  handed, is the upstream conversion of the payload to a block with its fork-field
  checks, then signer recovery.  It makes no Load check of its own.

## Main results

* `validateVersionSpecificFields_payload_eq_ok_iff`,
  `validateVersionSpecificFields_attributes_eq_ok_iff`: the Engine API check accepts
  exactly what the Load rules and the upstream checks both accept.
* `ensureWellFormedPayload_eq_ok_iff`: the engine-tree check, as the conditions it
  imposes.

## Design notes

* The upstream `reth_payload_primitives::validate_version_specific_fields` (withdrawals,
  beacon root and timestamp rules per message version) is not part of this crate: it is
  the parameter `upstream`, and every result holds whatever it does.
* The upstream `ensure_well_formed_payload` is written out, because what it does not
  check is the point.  The two keccak digests it computes, a header's hash and the
  EIP-7685 commitment to a list of requests, are the parameter `Hasher`.  Its pre-Prague
  EIP-7702 transaction check is left out, so the model accepts at least what the code
  accepts; a payload the model accepts without EIP-7702 transactions the code accepts too.
-/

namespace LoadReth

/-! ## The Engine API check -/

/-- `EngineApiMessageVersion`. -/
inductive EngineApiMessageVersion
  | v1 | v2 | v3 | v4 | v5
  deriving DecidableEq

/-- `PayloadOrAttributes`: what `validate_version_specific_fields` is asked about. -/
inductive PayloadOrAttributes
  | executionPayload (payload : LoadExecutionData)
  | payloadAttributes (attributes : LoadPayloadAttributes)
  deriving DecidableEq

/-- `timestamp()`: the payload's or the attributes'. -/
def PayloadOrAttributes.timestamp : PayloadOrAttributes → Nat
  | .executionPayload payload => payload.payload.timestamp
  | .payloadAttributes attributes => attributes.timestamp

/-- `EngineObjectValidationError`.  The upstream variants are kept by kind only; the
Load checks all answer `InvalidParams` with a text. -/
inductive EngineObjectValidationError
  | payload
  | payloadAttributes
  | unsupportedFork
  | invalidParams (message : String)
  deriving DecidableEq

/-- The Engine API check upstream runs after the Load one, at the validator's chain spec. -/
abbrev UpstreamVersionCheck :=
  LoadChainSpec → EngineApiMessageVersion → PayloadOrAttributes →
    Except EngineObjectValidationError Unit

/-- `LoadEngineValidator`, by the chain spec its inner validator holds. -/
structure LoadEngineValidator where
  chainSpec : LoadChainSpec

/-- What the Load rules ask of an incoming payload at a chain spec: the constant
`prev_randao`, at most `LOAD_MAX_BLOB_COUNT` versioned hashes, and no full execution
requests before Prague is active at its timestamp. -/
@[mk_iff]
structure LoadExecutionData.LoadRules (spec : LoadChainSpec) (x : LoadExecutionData) :
    Prop where
  prevRandao_eq : x.payload.prevRandao = loadPrevrandao
  versionedHashes_le : ∀ hashes ∈ x.sidecar.versionedHashes, hashes.length ≤ loadMaxBlobCount
  requests_eq_none :
    spec.isPragueActiveAtTimestamp x.payload.timestamp = false → x.sidecar.requests = none

namespace LoadEngineValidator

variable (v : LoadEngineValidator) (upstream : UpstreamVersionCheck)

/-- The Load half of `validate_version_specific_fields`, run before the upstream call. -/
def validateLoadFields (payloadOrAttrs : PayloadOrAttributes) :
    Except EngineObjectValidationError Unit := do
  let pragueActive := v.chainSpec.isPragueActiveAtTimestamp payloadOrAttrs.timestamp
  match payloadOrAttrs with
  | .executionPayload payload =>
    if payload.payload.prevRandao ≠ loadPrevrandao then
      throw (.invalidParams loadPrevRandaoMessage)
    if let some versionedHashes := payload.sidecar.versionedHashes then
      if versionedHashes.length > loadMaxBlobCount then
        let len := versionedHashes.length
        throw (.invalidParams s!"too many blob versioned hashes: {len} (max {loadMaxBlobCount})")
    if !pragueActive && payload.sidecar.requests.isSome then
      let timestamp := payload.payload.timestamp
      throw (.invalidParams s!"Prague payload fields not active at timestamp {timestamp}")
  | .payloadAttributes attrs =>
    if attrs.prevRandao ≠ loadPrevrandao then
      throw (.invalidParams loadPrevRandaoMessage)

/-- `validate_version_specific_fields`: the Load checks, then upstream's. -/
def validateVersionSpecificFields (version : EngineApiMessageVersion)
    (payloadOrAttrs : PayloadOrAttributes) : Except EngineObjectValidationError Unit := do
  v.validateLoadFields payloadOrAttrs
  upstream v.chainSpec version payloadOrAttrs

/-- `ensure_well_formed_attributes`: the constant `prev_randao`, then upstream's checks. -/
def ensureWellFormedAttributes (version : EngineApiMessageVersion)
    (attributes : LoadPayloadAttributes) : Except EngineObjectValidationError Unit := do
  if attributes.prevRandao ≠ loadPrevrandao then
    throw (.invalidParams loadPrevRandaoMessage)
  upstream v.chainSpec version (.payloadAttributes attributes)

/-- The Load half of the check passes on a payload exactly when the payload keeps the
Load rules. -/
theorem validateLoadFields_payload_eq_ok_iff (x : LoadExecutionData) :
    v.validateLoadFields (.executionPayload x) = .ok () ↔ x.LoadRules v.chainSpec := by
  rw [LoadExecutionData.loadRules_iff]
  rcases h : x.sidecar.versionedHashes with _ | hashes <;>
    simp only [validateLoadFields, PayloadOrAttributes.timestamp, h] <;>
    split_ifs <;> simp_all [throw, throwThe, MonadExceptOf.throw, bind, Except.bind, pure,
      Except.pure, Option.isSome_iff_ne_none]

theorem validateLoadFields_attributes_eq_ok_iff (attrs : LoadPayloadAttributes) :
    v.validateLoadFields (.payloadAttributes attrs) = .ok () ↔ attrs.prevRandao = loadPrevrandao := by
  by_cases h : attrs.prevRandao = loadPrevrandao <;>
    simp [validateLoadFields, h, throw, throwThe, MonadExceptOf.throw, pure, Except.pure]

/-- **The Engine API check on a payload is the Load rules, then upstream's.** -/
theorem validateVersionSpecificFields_payload_eq_ok_iff (version : EngineApiMessageVersion)
    (x : LoadExecutionData) :
    v.validateVersionSpecificFields upstream version (.executionPayload x) = .ok () ↔
      x.LoadRules v.chainSpec ∧ upstream v.chainSpec version (.executionPayload x) = .ok () := by
  rw [validateVersionSpecificFields, Except.bind_unit_eq_ok_iff,
    validateLoadFields_payload_eq_ok_iff]

/-- **The Engine API check on attributes is the constant `prev_randao`, then upstream's.** -/
theorem validateVersionSpecificFields_attributes_eq_ok_iff (version : EngineApiMessageVersion)
    (attrs : LoadPayloadAttributes) :
    v.validateVersionSpecificFields upstream version (.payloadAttributes attrs) = .ok () ↔
      attrs.prevRandao = loadPrevrandao ∧ upstream v.chainSpec version (.payloadAttributes attrs) = .ok () := by
  rw [validateVersionSpecificFields, Except.bind_unit_eq_ok_iff,
    validateLoadFields_attributes_eq_ok_iff]

/-- On attributes the two entry points are one check. -/
theorem ensureWellFormedAttributes_eq (version : EngineApiMessageVersion)
    (attrs : LoadPayloadAttributes) :
    v.ensureWellFormedAttributes upstream version attrs =
      v.validateVersionSpecificFields upstream version (.payloadAttributes attrs) := by
  by_cases h : attrs.prevRandao = loadPrevrandao <;>
    simp [ensureWellFormedAttributes, validateVersionSpecificFields, validateLoadFields, h,
      throw, throwThe, MonadExceptOf.throw, bind, Except.bind, pure, Except.pure]

end LoadEngineValidator

/-! ## The engine-tree check -/

/-- The two keccak digests the upstream conversion computes and the model takes as given. -/
structure Hasher where
  /-- `seal_slow`: the hash of a header. -/
  headerHash : Header → B256
  /-- `Requests::requests_hash`: the EIP-7685 commitment to a list of requests. -/
  requestsHash : Requests → B256

/-- `RequestsOrHash::requests_hash`. -/
def RequestsOrHash.requestsHash (hasher : Hasher) : RequestsOrHash → B256
  | .requests list => hasher.requestsHash list
  | .hash digest => digest

/-- `ExecutionPayload::try_into_block_with_sidecar`, then `seal_slow`: the block the
payload describes, with the parent beacon root and the requests hash its sidecar
supplies, sealed with the hash of its header. -/
def ExecutionPayload.sealWithSidecar (hasher : Hasher) (payload : ExecutionPayload)
    (sidecar : ExecutionPayloadSidecar) : SealedBlock :=
  let header : Header :=
    { timestamp := payload.timestamp
      prevRandao := payload.prevRandao
      gasLimit := payload.gasLimit
      blobGasUsed := payload.blobGasUsed
      parentBeaconBlockRoot := sidecar.cancun.map (·.parentBeaconBlockRoot)
      requestsHash := sidecar.prague.map (RequestsOrHash.requestsHash hasher) }
  { header
    transactions := payload.transactions
    withdrawals := payload.withdrawals
    hash := hasher.headerHash header }

/-- `PayloadError`, by the variants the modelled checks raise. -/
inductive PayloadError
  | blockHash (execution consensus : B256)
  | postShanghaiBlockWithoutWithdrawals
  | preShanghaiBlockWithWithdrawals
  | postCancunBlockWithoutBlobGasUsed
  | postCancunWithoutCancunFields
  | preCancunBlockWithBlobGasUsed
  | preCancunWithCancunFields
  | preCancunBlockWithBlobTransactions
  | invalidVersionedHashes
  | prePragueBlockRequests
  deriving DecidableEq

/-- `shanghai::ensure_well_formed_fields`: withdrawals exactly once Shanghai is active. -/
def shanghaiEnsureWellFormedFields (block : SealedBlock) (isShanghaiActive : Bool) :
    Except PayloadError Unit :=
  if isShanghaiActive then
    if block.withdrawals.isNone then .error .postShanghaiBlockWithoutWithdrawals else .ok ()
  else if block.withdrawals.isSome then .error .preShanghaiBlockWithWithdrawals else .ok ()

/-- `ensure_matching_blob_versioned_hashes`: the sidecar lists the block's blob
versioned hashes, in order; without Cancun fields the block has none. -/
def ensureMatchingBlobVersionedHashes (block : SealedBlock)
    (cancunFields : Option CancunPayloadFields) : Except PayloadError Unit :=
  let numBlobVersionedHashes := block.blobVersionedHashes.length
  match cancunFields with
  | some fields =>
    if numBlobVersionedHashes ≠ fields.versionedHashes.length then .error .invalidVersionedHashes
    else if (fields.versionedHashes.zip block.blobVersionedHashes).all (fun p => p.1 = p.2) then
      .ok ()
    else .error .invalidVersionedHashes
  | none => if numBlobVersionedHashes > 0 then .error .invalidVersionedHashes else .ok ()

/-- `cancun::ensure_well_formed_fields`: the blob gas field and the Cancun sidecar fields
exactly once Cancun is active, no blob transaction before it, and matching hashes. -/
def cancunEnsureWellFormedFields (block : SealedBlock)
    (cancunFields : Option CancunPayloadFields) (isCancunActive : Bool) :
    Except PayloadError Unit := do
  if isCancunActive then
    if block.header.blobGasUsed.isNone then throw .postCancunBlockWithoutBlobGasUsed
    if cancunFields.isNone then throw .postCancunWithoutCancunFields
  else
    if block.header.blobGasUsed.isSome then throw .preCancunBlockWithBlobGasUsed
    if cancunFields.isSome then throw .preCancunWithCancunFields
  if !isCancunActive && block.transactions.any (·.isEip4844) then
    throw .preCancunBlockWithBlobTransactions
  ensureMatchingBlobVersionedHashes block cancunFields

/-- `prague::ensure_well_formed_sidecar_fields`: no Prague fields before Prague. -/
def pragueEnsureWellFormedFields (pragueFields : Option RequestsOrHash) (isPragueActive : Bool) :
    Except PayloadError Unit :=
  if !isPragueActive && pragueFields.isSome then .error .prePragueBlockRequests else .ok ()

/-- `EthereumExecutionPayloadValidator`, by its chain spec. -/
structure EthereumExecutionPayloadValidator where
  chainSpec : LoadChainSpec

/-- `EthereumExecutionPayloadValidator::ensure_well_formed_payload`: the sealed block, if
its hash is the one the payload declares and its fork fields are well formed. -/
def EthereumExecutionPayloadValidator.ensureWellFormedPayload
    (v : EthereumExecutionPayloadValidator) (hasher : Hasher) (data : LoadExecutionData) :
    Except PayloadError SealedBlock := do
  let expectedHash := data.payload.blockHash
  let sealedBlock := data.payload.sealWithSidecar hasher data.sidecar
  if expectedHash ≠ sealedBlock.hash then
    throw (.blockHash sealedBlock.hash expectedHash)
  let timestamp := sealedBlock.header.timestamp
  shanghaiEnsureWellFormedFields sealedBlock (v.chainSpec.isShanghaiActiveAtTimestamp timestamp)
  cancunEnsureWellFormedFields sealedBlock data.sidecar.cancun
    (v.chainSpec.isCancunActiveAtTimestamp timestamp)
  pragueEnsureWellFormedFields data.sidecar.prague
    (v.chainSpec.isPragueActiveAtTimestamp timestamp)
  return sealedBlock

/-- `NewPayloadError`: an upstream payload error, or a signer that does not recover. -/
inductive NewPayloadError
  | eth (error : PayloadError)
  | other
  deriving DecidableEq

/-- `LoadEngineValidator::ensure_well_formed_payload`: the upstream check, then
`try_recover` of every signer.  The recovered senders are not modelled. -/
def LoadEngineValidator.ensureWellFormedPayload (v : LoadEngineValidator) (hasher : Hasher)
    (payload : LoadExecutionData) : Except NewPayloadError SealedBlock := do
  let sealedBlock ← (EthereumExecutionPayloadValidator.mk v.chainSpec).ensureWellFormedPayload
    hasher payload |>.mapError .eth
  if sealedBlock.transactions.all (·.signerRecoverable) then pure sealedBlock
  else throw .other

/-- Comparing two lists of one length pairwise is comparing them. -/
theorem zip_all_eq_iff {l₁ l₂ : List B256} (h : l₁.length = l₂.length) :
    (l₁.zip l₂).all (fun p => p.1 = p.2) = true ↔ l₁ = l₂ := by
  have : l₁ = l₂ ↔ l₁.length = l₂.length ∧ ∀ {a b}, (a, b) ∈ l₁.zip l₂ → a = b := by
    rw [← List.forall₂_iff_zip, List.forall₂_eq_eq_eq]
  simp [this, h, List.all_eq_true]

/-- The hash check passes exactly when the sidecar lists the block's blob hashes. -/
theorem ensureMatchingBlobVersionedHashes_eq_ok_iff (block : SealedBlock)
    (cancunFields : Option CancunPayloadFields) :
    ensureMatchingBlobVersionedHashes block cancunFields = .ok () ↔
      (cancunFields.map (·.versionedHashes)).getD [] = block.blobVersionedHashes := by
  rcases cancunFields with _ | ⟨_, hashes⟩
  · simp [ensureMatchingBlobVersionedHashes]
  · by_cases hl : block.blobVersionedHashes.length = hashes.length
    · simp [ensureMatchingBlobVersionedHashes, hl, zip_all_eq_iff hl.symm]
    · simp [ensureMatchingBlobVersionedHashes, hl]
      rintro rfl
      exact hl rfl

theorem shanghaiEnsureWellFormedFields_eq_ok_iff (block : SealedBlock) (active : Bool) :
    shanghaiEnsureWellFormedFields block active = .ok () ↔ block.withdrawals.isSome = active := by
  cases active <;> cases h : block.withdrawals <;> simp [shanghaiEnsureWellFormedFields, h]

theorem pragueEnsureWellFormedFields_eq_ok_iff (pragueFields : Option RequestsOrHash) (active : Bool) :
    pragueEnsureWellFormedFields pragueFields active = .ok () ↔
      (active = false → pragueFields = none) := by
  cases active <;> cases pragueFields <;> simp [pragueEnsureWellFormedFields]

/-- The Cancun checks: both fields exactly when Cancun is active, no blob transaction
before it, and the sidecar's hashes are the block's. -/
theorem cancunEnsureWellFormedFields_eq_ok_iff (block : SealedBlock)
    (cancunFields : Option CancunPayloadFields) (active : Bool) :
    cancunEnsureWellFormedFields block cancunFields active = .ok () ↔
      block.header.blobGasUsed.isSome = active ∧ cancunFields.isSome = active ∧
      (active = false → ∀ tx ∈ block.transactions, tx.isEip4844 = false) ∧
      (cancunFields.map (·.versionedHashes)).getD [] = block.blobVersionedHashes := by
  rw [← ensureMatchingBlobVersionedHashes_eq_ok_iff]
  cases active <;> cases h : block.header.blobGasUsed <;> cases cancunFields <;>
    simp [cancunEnsureWellFormedFields, h, throw, throwThe, MonadExceptOf.throw, bind, Except.bind,
      pure, Except.pure]
  split_ifs with h4
  · obtain ⟨tx, hmem, htx⟩ := h4
    simpa using fun hall => absurd (hall tx hmem) (by simp [htx])
  · simp_all

@[simp] theorem ExecutionPayload.sealWithSidecar_timestamp (hasher : Hasher)
    (payload : ExecutionPayload) (sidecar : ExecutionPayloadSidecar) :
    (payload.sealWithSidecar hasher sidecar).header.timestamp = payload.timestamp := rfl

/-- The upstream check accepts exactly the payloads that declare the hash of the block
they describe and whose fork fields are well formed at its timestamp. -/
theorem EthereumExecutionPayloadValidator.ensureWellFormedPayload_eq_ok_iff
    (v : EthereumExecutionPayloadValidator) (hasher : Hasher) (data : LoadExecutionData)
    (block : SealedBlock) :
    v.ensureWellFormedPayload hasher data = .ok block ↔
      block = data.payload.sealWithSidecar hasher data.sidecar ∧
      data.payload.blockHash = block.hash ∧
      shanghaiEnsureWellFormedFields block
        (v.chainSpec.isShanghaiActiveAtTimestamp data.payload.timestamp) = .ok () ∧
      cancunEnsureWellFormedFields block data.sidecar.cancun
        (v.chainSpec.isCancunActiveAtTimestamp data.payload.timestamp) = .ok () ∧
      pragueEnsureWellFormedFields data.sidecar.prague
        (v.chainSpec.isPragueActiveAtTimestamp data.payload.timestamp) = .ok () := by
  by_cases hh : data.payload.blockHash = (data.payload.sealWithSidecar hasher data.sidecar).hash
  · simp only [ensureWellFormedPayload, hh, ne_eq, not_true_eq_false, if_false,
      ExecutionPayload.sealWithSidecar_timestamp, Except.bind_unit_eq_ok_iff]
    constructor
    · rintro ⟨-, hs, hc, hp, ⟨⟩⟩
      exact ⟨rfl, rfl, hs, hc, hp⟩
    · rintro ⟨rfl, -, hs, hc, hp⟩
      exact ⟨rfl, hs, hc, hp, rfl⟩
  · simp only [ensureWellFormedPayload, hh, ne_eq, not_false_eq_true, if_true,
      Except.bind_unit_eq_ok_iff, throw, throwThe, MonadExceptOf.throw]
    simp only [reduceCtorEq, false_and, false_iff, not_and]
    rintro rfl h
    exact absurd h hh

/-- The Load entry adds signer recovery to the upstream check, and nothing else. -/
theorem LoadEngineValidator.ensureWellFormedPayload_eq_ok_iff (v : LoadEngineValidator)
    (hasher : Hasher) (x : LoadExecutionData) (block : SealedBlock) :
    v.ensureWellFormedPayload hasher x = .ok block ↔
      (EthereumExecutionPayloadValidator.mk v.chainSpec).ensureWellFormedPayload hasher x =
        .ok block ∧ ∀ tx ∈ block.transactions, tx.signerRecoverable = true := by
  unfold LoadEngineValidator.ensureWellFormedPayload
  cases (EthereumExecutionPayloadValidator.mk v.chainSpec).ensureWellFormedPayload hasher x with
  | error => simp [Except.mapError, bind, Except.bind]
  | ok sealedBlock =>
    cases hr : sealedBlock.transactions.all (·.signerRecoverable) <;>
      simp [Except.mapError, bind, Except.bind, hr, pure, Except.pure, throw, throwThe,
        MonadExceptOf.throw] <;>
      rintro rfl <;> simpa using hr
/-- **What the engine-tree check guarantees.**  A payload `ensure_well_formed_payload`
accepts describes the block it returns, declares that block's hash, lists in its sidecar
exactly the block's blob versioned hashes, carries Prague fields (requests or their hash)
only once Prague is active, and has recoverable signers.  No Load rule is among these. -/
theorem ensureWellFormedPayload_guarantees {v : LoadEngineValidator} {hasher : Hasher}
    {x : LoadExecutionData} {block : SealedBlock}
    (h : v.ensureWellFormedPayload hasher x = .ok block) :
    block = x.payload.sealWithSidecar hasher x.sidecar ∧ block.hash = x.payload.blockHash ∧
      x.sidecar.versionedHashes.getD [] = block.blobVersionedHashes ∧
      (v.chainSpec.isPragueActiveAtTimestamp x.payload.timestamp = false →
        x.sidecar.prague = none) ∧
      ∀ tx ∈ block.transactions, tx.signerRecoverable = true := by
  obtain ⟨hup, hrec⟩ := (LoadEngineValidator.ensureWellFormedPayload_eq_ok_iff ..).mp h
  obtain ⟨rfl, hhash, -, hc, hp⟩ :=
    (EthereumExecutionPayloadValidator.ensureWellFormedPayload_eq_ok_iff ..).mp hup
  exact ⟨rfl, hhash.symm, ((cancunEnsureWellFormedFields_eq_ok_iff ..).mp hc).2.2.2,
    (pragueEnsureWellFormedFields_eq_ok_iff ..).mp hp, hrec⟩

/-- A payload on the default Load chain whose `prev_randao` is zero and whose
thirty-three blob transactions of thirty-two blobs each are listed in its sidecar, 1056
versioned hashes; it declares the hash of the block it describes. -/
def overBudgetExecutionData (hasher : Hasher) : LoadExecutionData :=
  let transactions := List.replicate 33 maxBlobTransaction
  let payload : ExecutionPayload :=
    { blockHash := B256.zero
      prevRandao := B256.zero
      timestamp := 1
      gasLimit := 36000000
      transactions
      withdrawals := some []
      blobGasUsed := some (1056 * dataGasPerBlob) }
  let sidecar : ExecutionPayloadSidecar :=
    ⟨some ⟨B256.zero, transactions.flatMap TransactionSigned.blobHashes⟩, none⟩
  ⟨{ payload with blockHash := (payload.sealWithSidecar hasher sidecar).hash }, sidecar⟩

/-- Whatever the hash function, the engine-tree check accepts that payload. -/
theorem ensureWellFormedPayload_overBudgetExecutionData (hasher : Hasher) :
    let x := overBudgetExecutionData hasher
    (LoadEngineValidator.mk LoadChainSpec.default).ensureWellFormedPayload hasher x =
      .ok (x.payload.sealWithSidecar hasher x.sidecar) := by
  refine (LoadEngineValidator.ensureWellFormedPayload_eq_ok_iff ..).mpr
    ⟨(EthereumExecutionPayloadValidator.ensureWellFormedPayload_eq_ok_iff ..).mpr
      ⟨rfl, rfl, ?_, ?_, ?_⟩, ?_⟩
  · exact (shanghaiEnsureWellFormedFields_eq_ok_iff ..).mpr rfl
  · exact (cancunEnsureWellFormedFields_eq_ok_iff ..).mpr ⟨rfl, rfl, nofun, rfl⟩
  · exact (pragueEnsureWellFormedFields_eq_ok_iff ..).mpr fun _ => rfl
  · simp [overBudgetExecutionData, ExecutionPayload.sealWithSidecar, maxBlobTransaction]

/-- Whatever the hash function, the engine-tree check accepts a payload with a zero
`prev_randao` and more than `LOAD_MAX_BLOB_COUNT` versioned hashes. -/
theorem ensureWellFormedPayload_accepts_overBudget (hasher : Hasher) :
    (∃ block, (LoadEngineValidator.mk LoadChainSpec.default).ensureWellFormedPayload hasher
      (overBudgetExecutionData hasher) = .ok block) ∧
    (overBudgetExecutionData hasher).payload.prevRandao ≠ loadPrevrandao ∧
    ∃ hashes, (overBudgetExecutionData hasher).sidecar.versionedHashes = some hashes ∧
      loadMaxBlobCount < hashes.length :=
  ⟨⟨_, ensureWellFormedPayload_overBudgetExecutionData hasher⟩,
    fun h => loadPrevrandao_ne_zero h.symm, _, rfl,
    by rw [List.flatMap_replicate, List.length_flatten, List.map_replicate]; decide⟩

/-- A hash function that maps everything to zero. -/
def zeroHasher : Hasher := ⟨fun _ => B256.zero, fun _ => B256.zero⟩

theorem ensureWellFormedPayload_ignores_load_rules :
    (∃ block, (LoadEngineValidator.mk LoadChainSpec.default).ensureWellFormedPayload zeroHasher
      (overBudgetExecutionData zeroHasher) = .ok block) ∧
    (overBudgetExecutionData zeroHasher).payload.prevRandao ≠ loadPrevrandao ∧
    ∃ hashes, (overBudgetExecutionData zeroHasher).sidecar.versionedHashes = some hashes ∧
      loadMaxBlobCount < hashes.length :=
  ensureWellFormedPayload_accepts_overBudget zeroHasher

theorem ensureWellFormedPayload_guarantees_overBudget :
    let hasher : Hasher := ⟨fun _ => B256.zero, fun _ => B256.zero⟩
    let x := overBudgetExecutionData hasher
    let block := x.payload.sealWithSidecar hasher x.sidecar
    (LoadEngineValidator.mk LoadChainSpec.default).ensureWellFormedPayload hasher x = .ok block ∧
      block = x.payload.sealWithSidecar hasher x.sidecar ∧ block.hash = x.payload.blockHash ∧
      x.sidecar.versionedHashes.getD [] = block.blobVersionedHashes ∧
      (LoadChainSpec.default.isPragueActiveAtTimestamp x.payload.timestamp = false →
        x.sidecar.prague = none) ∧
      ∀ tx ∈ block.transactions, tx.signerRecoverable = true :=
  let h := ensureWellFormedPayload_overBudgetExecutionData _
  ⟨h, ensureWellFormedPayload_guarantees h⟩

end LoadReth
