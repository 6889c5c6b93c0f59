import LoadReth.Chainspec
import LoadReth.Block

/-!
# Load payload types and their guards

`engine/payload.rs` wraps the upstream Ethereum payload types and attaches the Load
invariants to them at the points a payload or its attributes cross a boundary:

* attribute construction (`LoadPayloadBuilderAttributes::try_new`) and pre-build
  validation (`validate_payload_attributes`) enforce the fixed `prev_randao` and a
  timestamp strictly after the parent's;
* the local miner (`LoadLocalPayloadAttributesBuilder::build`) produces attributes that
  carry the constant;
* the outbound conversions of a `LoadBuiltPayload` to the V3, V4 and V5 envelopes first
  run `guard_sidecars`, which rejects EIP-7594 sidecars and more than
  `LOAD_MAX_BLOB_COUNT` EIP-4844 sidecars.

## Design notes

The upstream pieces these conversions call — `EthBuiltPayload`'s `try_into_v4` /
`try_into_v5`, `ExecutionPayload::from_block_unchecked`, `ExecutionPayloadSidecar` — are
modelled by the shape of their results: which scheme of sidecars each accepts, which
fields of a block end up where.  Envelopes keep the block, the value and the number of
blobs their bundle carries; a payload id (a hash of the attributes) is not modelled.
`B256::random`, used by the local miner, is a parameter.
-/

namespace LoadReth

/-! ## Attributes -/

/-- The text every `prev_randao` guard of the crate reports. -/
def loadPrevRandaoMessage : String := "prev_randao must be constant 0x01 for Load"

/-- `validate_prev_randao`: the Load constant, or the error text the callers wrap. -/
def validatePrevRandao (prevRandao : B256) : Except String Unit :=
  if prevRandao = loadPrevrandao then .ok () else .error loadPrevRandaoMessage

/-- `LoadPayloadAttributesError`, each variant with the text it carries. -/
inductive LoadPayloadAttributesError
  | invalidPrevRandao (message : String)
  | invalidTimestamp (message : String)
  deriving DecidableEq

/-- The `#[error]` rendering of each variant. -/
def LoadPayloadAttributesError.render : LoadPayloadAttributesError → String
  | .invalidPrevRandao message => s!"invalid prev_randao for Load: {message}"
  | .invalidTimestamp message => s!"invalid timestamp for Load: {message}"

/-- Engine API payload attributes (`LoadPayloadAttributes`, flattening `PayloadAttributes`). -/
structure LoadPayloadAttributes where
  timestamp : Nat
  prevRandao : B256
  suggestedFeeRecipient : Nat
  withdrawals : Option (List Withdrawal)
  parentBeaconBlockRoot : Option B256
  deriving DecidableEq

/-- Builder attributes (`LoadPayloadBuilderAttributes`, wrapping
`EthPayloadBuilderAttributes`). -/
structure LoadPayloadBuilderAttributes where
  parent : B256
  timestamp : Nat
  suggestedFeeRecipient : Nat
  prevRandao : B256
  withdrawals : List Withdrawal
  parentBeaconBlockRoot : Option B256
  deriving DecidableEq

/-- `EthPayloadBuilderAttributes::try_new`, which cannot fail: the attributes on top of
`parent`, with absent withdrawals read as none. -/
def ethPayloadBuilderAttributes (parent : B256) (attributes : LoadPayloadAttributes) :
    LoadPayloadBuilderAttributes where
  parent := parent
  timestamp := attributes.timestamp
  suggestedFeeRecipient := attributes.suggestedFeeRecipient
  prevRandao := attributes.prevRandao
  withdrawals := attributes.withdrawals.getD []
  parentBeaconBlockRoot := attributes.parentBeaconBlockRoot

/-- `LoadPayloadBuilderAttributes::try_new`: the upstream attributes, refused unless
they carry `LOAD_PREVRANDAO`. -/
def LoadPayloadBuilderAttributes.tryNew (parent : B256) (attributes : LoadPayloadAttributes) :
    Except LoadPayloadAttributesError LoadPayloadBuilderAttributes :=
  let inner := ethPayloadBuilderAttributes parent attributes
  match validatePrevRandao inner.prevRandao with
  | .error message => .error (.invalidPrevRandao message)
  | .ok () => .ok inner

/-- `validate_payload_attributes`: the constant `prev_randao` again, and a timestamp
strictly after the parent's. -/
def validatePayloadAttributes (parentTimestamp : Nat) (attrs : LoadPayloadBuilderAttributes) :
    Except LoadPayloadAttributesError Unit :=
  match validatePrevRandao attrs.prevRandao with
  | .error message => .error (.invalidPrevRandao message)
  | .ok () =>
    if attrs.timestamp ≤ parentTimestamp then
      let timestamp := attrs.timestamp
      .error (.invalidTimestamp
        s!"timestamp {timestamp} must be greater than parent {parentTimestamp}")
    else .ok ()

/-- `LoadLocalPayloadAttributesBuilder::build`: the local miner's attributes at
`timestamp`, with `random` the value `B256::random` returned. -/
def LoadLocalPayloadAttributesBuilder.build (spec : LoadChainSpec) (random : B256)
    (timestamp : Nat) : LoadPayloadAttributes where
  timestamp := timestamp
  prevRandao := loadPrevrandao
  suggestedFeeRecipient := 0
  withdrawals := if spec.isShanghaiActiveAtTimestamp timestamp then some [] else none
  parentBeaconBlockRoot := if spec.isCancunActiveAtTimestamp timestamp then some random else none

@[simp] theorem validatePrevRandao_eq_ok_iff {prevRandao : B256} :
    validatePrevRandao prevRandao = .ok () ↔ prevRandao = loadPrevrandao := by
  unfold validatePrevRandao
  split_ifs <;> simp_all

/-- `try_new` refuses exactly the attributes without the constant, and otherwise keeps
them as they are. -/
theorem tryNew_eq_ok_iff {parent : B256} {attributes : LoadPayloadAttributes}
    {built : LoadPayloadBuilderAttributes} :
    LoadPayloadBuilderAttributes.tryNew parent attributes = .ok built ↔
      attributes.prevRandao = loadPrevrandao ∧
        built = ethPayloadBuilderAttributes parent attributes := by
  by_cases hr : attributes.prevRandao = loadPrevrandao <;>
    simp [LoadPayloadBuilderAttributes.tryNew, validatePrevRandao, ethPayloadBuilderAttributes,
      hr, eq_comm]

/-- Pre-build validation passes exactly on the constant and a later timestamp. -/
theorem validatePayloadAttributes_eq_ok_iff {parentTimestamp : Nat}
    {attrs : LoadPayloadBuilderAttributes} :
    validatePayloadAttributes parentTimestamp attrs = .ok () ↔
      attrs.prevRandao = loadPrevrandao ∧ parentTimestamp < attrs.timestamp := by
  by_cases hr : attrs.prevRandao = loadPrevrandao
  · by_cases ht : attrs.timestamp ≤ parentTimestamp <;>
      simp_all [validatePayloadAttributes, validatePrevRandao, Nat.not_le]
  · simp [validatePayloadAttributes, validatePrevRandao, hr]

/-! ## Built payloads and their wire envelopes -/

/-- A built payload (`LoadBuiltPayload`, wrapping `EthBuiltPayload`). -/
structure LoadBuiltPayload where
  block : SealedBlock
  fees : Nat
  requests : Option Requests
  sidecars : BlobSidecars
  deriving DecidableEq

/-- `BuiltPayloadConversionError`. -/
inductive BuiltPayloadConversionError
  | unexpectedEip4844Sidecars
  | unexpectedEip7594Sidecars
  deriving DecidableEq

/-- A V1 blobs bundle, by the number of blobs (with their commitments and proofs). -/
structure BlobsBundleV1 where
  blobs : Nat
  deriving DecidableEq

/-- A V2 (cell-proof) blobs bundle, by the number of blobs. -/
structure BlobsBundleV2 where
  blobs : Nat
  deriving DecidableEq

/-- `BlobsBundleV1::from(sidecars)`: every blob of every sidecar, in order. -/
def BlobsBundleV1.ofSidecars (sidecars : List BlobTransactionSidecar) : BlobsBundleV1 :=
  ⟨(sidecars.map (·.blobCount)).sum⟩

/-- `BlobsBundleV2::from(sidecars)`. -/
def BlobsBundleV2.ofSidecars (sidecars : List BlobTransactionSidecarEip7594) : BlobsBundleV2 :=
  ⟨(sidecars.map (·.blobCount)).sum⟩

structure ExecutionPayloadEnvelopeV3 where
  executionPayload : SealedBlock
  blockValue : Nat
  shouldOverrideBuilder : Bool
  blobsBundle : BlobsBundleV1
  deriving DecidableEq

structure ExecutionPayloadEnvelopeV4 where
  envelopeInner : ExecutionPayloadEnvelopeV3
  executionRequests : Requests
  deriving DecidableEq

structure ExecutionPayloadEnvelopeV5 where
  executionPayload : SealedBlock
  blockValue : Nat
  shouldOverrideBuilder : Bool
  blobsBundle : BlobsBundleV2
  executionRequests : Requests
  deriving DecidableEq

namespace LoadBuiltPayload

/-- `guard_sidecars`: EIP-7594 sidecars are refused outright, and an EIP-4844 list is
refused when it holds more than `max_blobs` sidecars. -/
def guardSidecars (p : LoadBuiltPayload) (maxBlobs : Nat) :
    Except BuiltPayloadConversionError Unit :=
  match p.sidecars with
  | .eip7594 _ => .error .unexpectedEip7594Sidecars
  | .eip4844 sidecars =>
    if sidecars.length > maxBlobs then .error .unexpectedEip4844Sidecars else .ok ()
  | .empty => .ok ()

/-- `EthBuiltPayload::try_into_v3` (upstream): the V1 bundle of the EIP-4844 sidecars;
EIP-7594 sidecars do not fit it. -/
def tryIntoV3 (p : LoadBuiltPayload) :
    Except BuiltPayloadConversionError ExecutionPayloadEnvelopeV3 :=
  match p.sidecars with
  | .empty => .ok ⟨p.block, p.fees, false, ⟨0⟩⟩
  | .eip4844 sidecars => .ok ⟨p.block, p.fees, false, BlobsBundleV1.ofSidecars sidecars⟩
  | .eip7594 _ => .error .unexpectedEip7594Sidecars

/-- `EthBuiltPayload::try_into_v4` (upstream): the V3 envelope and the requests. -/
def tryIntoV4 (p : LoadBuiltPayload) :
    Except BuiltPayloadConversionError ExecutionPayloadEnvelopeV4 := do
  let inner ← p.tryIntoV3
  return ⟨inner, p.requests.getD []⟩

/-- `EthBuiltPayload::try_into_v5` (upstream): the V2 bundle of the EIP-7594 sidecars;
EIP-4844 sidecars do not fit it. -/
def tryIntoV5 (p : LoadBuiltPayload) :
    Except BuiltPayloadConversionError ExecutionPayloadEnvelopeV5 :=
  match p.sidecars with
  | .empty => .ok ⟨p.block, p.fees, false, ⟨0⟩, p.requests.getD []⟩
  | .eip7594 sidecars =>
    .ok ⟨p.block, p.fees, false, BlobsBundleV2.ofSidecars sidecars, p.requests.getD []⟩
  | .eip4844 _ => .error .unexpectedEip4844Sidecars

end LoadBuiltPayload

/-- `TryFrom<LoadBuiltPayload> for ExecutionPayloadEnvelopeV3`; the outer `none` is the
`unreachable!()` arm. -/
def ExecutionPayloadEnvelopeV3.tryFrom (value : LoadBuiltPayload) :
    Option (Except BuiltPayloadConversionError ExecutionPayloadEnvelopeV3) :=
  match value.guardSidecars loadMaxBlobCount with
  | .error e => some (.error e)
  | .ok () =>
    let blobsBundle : Option BlobsBundleV1 := match value.sidecars with
      | .empty => some ⟨0⟩
      | .eip4844 sidecars => some (BlobsBundleV1.ofSidecars sidecars)
      | .eip7594 _ => none
    blobsBundle.map fun blobsBundle =>
      .ok { executionPayload := value.block, blockValue := value.fees,
            shouldOverrideBuilder := false, blobsBundle }

/-- `TryFrom<LoadBuiltPayload> for ExecutionPayloadEnvelopeV4`. -/
def ExecutionPayloadEnvelopeV4.tryFrom (value : LoadBuiltPayload) :
    Except BuiltPayloadConversionError ExecutionPayloadEnvelopeV4 := do
  value.guardSidecars loadMaxBlobCount
  value.tryIntoV4

/-- `TryFrom<LoadBuiltPayload> for ExecutionPayloadEnvelopeV5`. -/
def ExecutionPayloadEnvelopeV5.tryFrom (value : LoadBuiltPayload) :
    Except BuiltPayloadConversionError ExecutionPayloadEnvelopeV5 := do
  value.guardSidecars loadMaxBlobCount
  value.tryIntoV5

theorem guardSidecars_eq_ok_iff (p : LoadBuiltPayload) (maxBlobs : Nat) :
    p.guardSidecars maxBlobs = .ok () ↔
      p.sidecars = .empty ∨
        ∃ sidecars, p.sidecars = .eip4844 sidecars ∧ sidecars.length ≤ maxBlobs := by
  unfold LoadBuiltPayload.guardSidecars
  split <;> simp_all

/-- The Load V3 conversion is the guard followed by the upstream one: the
`unreachable!()` arm is never reached, because the guard has already refused every
EIP-7594 payload. -/
theorem tryFrom_v3_eq (p : LoadBuiltPayload) :
    ExecutionPayloadEnvelopeV3.tryFrom p =
      some (p.guardSidecars loadMaxBlobCount >>= fun _ => p.tryIntoV3) := by
  rcases p with ⟨block, fees, requests, _ | sidecars | sidecars⟩
  case eip4844 =>
    by_cases h : sidecars.length > loadMaxBlobCount <;>
      simp [ExecutionPayloadEnvelopeV3.tryFrom, LoadBuiltPayload.guardSidecars, h,
        LoadBuiltPayload.tryIntoV3, bind, Except.bind]
  all_goals rfl

/-- Past the guard, the upstream V3 and V4 conversions accept the sidecars. -/
theorem isOk_tryIntoV3_of_guardSidecars {p : LoadBuiltPayload} {maxBlobs : Nat}
    (h : p.guardSidecars maxBlobs = .ok ()) : (p.tryIntoV3).isOk := by
  rcases (guardSidecars_eq_ok_iff p maxBlobs).mp h with hs | ⟨_, hs, -⟩ <;>
    simp [LoadBuiltPayload.tryIntoV3, hs, Except.isOk, Except.toBool]

theorem isOk_tryIntoV4 (p : LoadBuiltPayload) : (p.tryIntoV4).isOk = (p.tryIntoV3).isOk := by
  unfold LoadBuiltPayload.tryIntoV4
  cases p.tryIntoV3 <;> rfl

/-- The V3 conversion, as `tryFrom_v3_eq` unfolds it, succeeds exactly past the guard. -/
theorem isOk_guard_bind_tryIntoV3 (p : LoadBuiltPayload) :
    (p.guardSidecars loadMaxBlobCount >>= fun _ => p.tryIntoV3).isOk ↔
      p.guardSidecars loadMaxBlobCount = .ok () := by
  rw [Except.isOk_bind_unit]
  exact ⟨And.left, fun h => ⟨h, isOk_tryIntoV3_of_guardSidecars h⟩⟩

/-- The V4 conversion succeeds exactly past the guard. -/
theorem isOk_tryFrom_v4_iff (p : LoadBuiltPayload) :
    (ExecutionPayloadEnvelopeV4.tryFrom p).isOk ↔ p.guardSidecars loadMaxBlobCount = .ok () := by
  rw [ExecutionPayloadEnvelopeV4.tryFrom, Except.isOk_bind_unit, isOk_tryIntoV4]
  exact ⟨And.left, fun h => ⟨h, isOk_tryIntoV3_of_guardSidecars h⟩⟩

/-- The V5 conversion succeeds exactly on a payload without sidecars: the guard refuses
EIP-7594 sidecars, and upstream refuses EIP-4844 ones. -/
theorem isOk_tryFrom_v5_iff (p : LoadBuiltPayload) :
    (ExecutionPayloadEnvelopeV5.tryFrom p).isOk ↔ p.sidecars = .empty := by
  rw [ExecutionPayloadEnvelopeV5.tryFrom, Except.isOk_bind_unit]
  rcases p with ⟨block, fees, requests, _ | sidecars | sidecars⟩ <;>
    simp [LoadBuiltPayload.guardSidecars, LoadBuiltPayload.tryIntoV5, Except.isOk,
      Except.toBool]

/-- **What the outbound guard bounds: sidecars, not blobs.**  The V3 conversion never
reaches its `unreachable!()` arm; the V3 and V4 conversions succeed exactly on payloads
with no sidecars or with at most `LOAD_MAX_BLOB_COUNT` EIP-4844 sidecars, whatever
number of blobs those carry; the V5 conversion succeeds only on payloads without sidecars. -/
theorem envelope_tryFrom_spec (p : LoadBuiltPayload) :
    let accepted := p.sidecars = .empty ∨
      ∃ sidecars, p.sidecars = .eip4844 sidecars ∧ sidecars.length ≤ loadMaxBlobCount
    (∃ r, ExecutionPayloadEnvelopeV3.tryFrom p = some r ∧ (r.isOk ↔ accepted)) ∧
    ((ExecutionPayloadEnvelopeV4.tryFrom p).isOk ↔ accepted) ∧
    ((ExecutionPayloadEnvelopeV5.tryFrom p).isOk ↔ p.sidecars = .empty) := by
  have hguard := guardSidecars_eq_ok_iff p loadMaxBlobCount
  exact ⟨⟨_, tryFrom_v3_eq p, (isOk_guard_bind_tryIntoV3 p).trans hguard⟩,
    (isOk_tryFrom_v4_iff p).trans hguard, isOk_tryFrom_v5_iff p⟩

/-- An EIP-4844 transaction carrying `LOAD_MAX_BLOBS_PER_TX` blobs. -/
def maxBlobTransaction : TransactionSigned :=
  ⟨21000, some (List.replicate loadMaxBlobsPerTx B256.zero), 0, 1, some 1, true⟩

/-- Thirty-three EIP-4844 blob transactions of thirty-two blobs each, and their sidecars:
1056 blobs in 33 sidecars. -/
def overBudgetPayload : LoadBuiltPayload where
  block :=
    { header := ⟨1, loadPrevrandao, 36000000, some (1056 * dataGasPerBlob), some B256.zero, none⟩
      transactions := List.replicate 33 maxBlobTransaction
      withdrawals := some []
      hash := B256.zero }
  fees := 0
  requests := none
  sidecars := .eip4844 (List.replicate 33 ⟨32⟩)

/-- The guard lets the over-budget payload through: both the V3 and the V4 envelope are
built, each with a bundle of more than `LOAD_MAX_BLOB_COUNT` blobs. -/
theorem overBudgetPayload_converts :
    (∃ env, ExecutionPayloadEnvelopeV3.tryFrom overBudgetPayload = some (.ok env) ∧
      loadMaxBlobCount < env.blobsBundle.blobs) ∧
    (∃ env, ExecutionPayloadEnvelopeV4.tryFrom overBudgetPayload = .ok env ∧
      loadMaxBlobCount < env.envelopeInner.blobsBundle.blobs) :=
  ⟨⟨_, rfl, by decide⟩, ⟨_, rfl, by decide⟩⟩

/-! ## Execution data coming in -/

/-- An execution payload (`ExecutionPayload` V1–V3), by the fields read here; the
version is the presence of withdrawals (V2) and of the blob gas fields (V3). -/
structure ExecutionPayload where
  blockHash : B256
  prevRandao : B256
  timestamp : Nat
  gasLimit : Nat
  transactions : List TransactionSigned
  withdrawals : Option (List Withdrawal)
  blobGasUsed : Option Nat
  deriving DecidableEq

/-- Cancun's sidecar fields. -/
structure CancunPayloadFields where
  parentBeaconBlockRoot : B256
  versionedHashes : List B256
  deriving DecidableEq

/-- Prague's request data: the requests themselves, or only their hash. -/
inductive RequestsOrHash
  | requests (requests : Requests)
  | hash (hash : B256)
  deriving DecidableEq

/-- `ExecutionPayloadSidecar`: the fork-gated data that travels beside a payload. -/
structure ExecutionPayloadSidecar where
  cancun : Option CancunPayloadFields
  prague : Option RequestsOrHash
  deriving DecidableEq

namespace ExecutionPayloadSidecar

def none : ExecutionPayloadSidecar := ⟨.none, .none⟩

/-- `versioned_hashes()`. -/
def versionedHashes (s : ExecutionPayloadSidecar) : Option (List B256) :=
  s.cancun.map (·.versionedHashes)

/-- `requests()`: the requests, when they travel in full (a bare hash gives `None`). -/
def requests (s : ExecutionPayloadSidecar) : Option Requests :=
  match s.prague with
  | some (.requests requests) => some requests
  | _ => .none

/-- `ExecutionPayloadSidecar::from_block`: the Cancun fields when the header has a parent
beacon root, with the body's versioned hashes; the requests hash when the header has one. -/
def fromBlock (block : SealedBlock) : ExecutionPayloadSidecar :=
  match block.header.parentBeaconBlockRoot with
  | some root => ⟨some ⟨root, block.blobVersionedHashes⟩, block.header.requestsHash.map .hash⟩
  | .none => none

/-- A sidecar derived from a block never carries the requests themselves, only their
hash. -/
@[simp] theorem requests_fromBlock (block : SealedBlock) : (fromBlock block).requests = .none := by
  rcases block with ⟨⟨_, _, _, _, root, hash⟩, _, _, _⟩
  cases root <;> cases hash <;> rfl

theorem eq_of_mem_versionedHashes_fromBlock {block : SealedBlock} {hashes : List B256}
    (h : hashes ∈ (fromBlock block).versionedHashes) : hashes = block.blobVersionedHashes := by
  rcases block with ⟨⟨_, _, _, _, root, hash⟩, _, _, _⟩
  cases root <;> simp_all [fromBlock, versionedHashes, none]

end ExecutionPayloadSidecar

/-- `LoadExecutionData`: a payload and its sidecar. -/
structure LoadExecutionData where
  payload : ExecutionPayload
  sidecar : ExecutionPayloadSidecar
  deriving DecidableEq

namespace LoadExecutionData

/-- `LoadExecutionData::v3`. -/
def v3 (payload : ExecutionPayload) (versionedHashes : List B256)
    (parentBeaconBlockRoot : B256) : LoadExecutionData :=
  ⟨payload, ⟨some ⟨parentBeaconBlockRoot, versionedHashes⟩, .none⟩⟩

/-- `LoadExecutionData::v4`. -/
def v4 (payload : ExecutionPayload) (versionedHashes : List B256) (parentBeaconBlockRoot : B256)
    (executionRequests : RequestsOrHash) : LoadExecutionData :=
  ⟨payload, ⟨some ⟨parentBeaconBlockRoot, versionedHashes⟩, some executionRequests⟩⟩

/-- `From<ExecutionPayloadV1>` and `From<ExecutionPayloadInputV2>`: no sidecar. -/
def ofPayload (payload : ExecutionPayload) : LoadExecutionData :=
  ⟨payload, ExecutionPayloadSidecar.none⟩

end LoadExecutionData

/-- `LoadEngineTypes::block_to_payload`: `ExecutionPayload::from_block_unchecked`, a V3
payload when the header has a parent beacon root (blob gas and withdrawals defaulted),
else V2 when the body has withdrawals, else V1; and the sidecar `from_block` derives. -/
def LoadEngineTypes.blockToPayload (block : SealedBlock) : LoadExecutionData where
  payload :=
    { blockHash := block.hash
      prevRandao := block.header.prevRandao
      timestamp := block.header.timestamp
      gasLimit := block.header.gasLimit
      transactions := block.transactions
      withdrawals :=
        if block.header.parentBeaconBlockRoot.isSome then some (block.withdrawals.getD [])
        else block.withdrawals
      blobGasUsed := block.header.parentBeaconBlockRoot.map fun _ =>
        block.header.blobGasUsed.getD 0 }
  sidecar := ExecutionPayloadSidecar.fromBlock block

end LoadReth
