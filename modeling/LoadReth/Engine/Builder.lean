import LoadReth.Engine.Validator
import LoadReth.Evm

/-!
# The Load payload builder

`engine/builder.rs`: `default_load_payload` is the upstream Ethereum payload-building
loop with the Load blob budget.  It validates the attributes, sets up the block builder,
asks the pool for its best transactions, and takes the candidates one by one:

1. a candidate that does not fit the block's remaining gas is marked invalid;
2. otherwise the cancel signal is polled, and a set signal ends the build;
3. once Osaka is active, a candidate that would push the estimated block size past
   `MAX_RLP_BLOCK_SIZE` is marked invalid;
4. a blob transaction that would exceed the blob cap, whose sidecar the pool does not
   have, or whose sidecar is of the wrong scheme for the fork is marked invalid;
5. the transaction is executed, and the gas, blob count, encoded length, fees and
   sidecars grow.

After the loop the payload is kept only if it pays more than the best one so far; it is
then sealed, with the requests once Prague is active.

## Main definitions

* `Candidate`: a transaction the pool yields, with the environment's answers about it.
* `selectStep`, `selectLoop`: one iteration of the selection loop, and the loop.
* `defaultLoadPayload`: the whole build, as `try_build` runs it.
* `buildEmptyPayload`: `build_empty_payload`, the same build with no best payload and no
  cancellation.

## Main results

* `selectStep_fate`, `selectStep_eq_next`: everything one iteration can do to the loop
  state, with and without the reasons.
* `selectLoop_invariant`, `selectLoop_append`: the run principles of the loop.
* `selectLoop_of_isCancelled`: what the loop does once the cancel signal is set.
* `selectLoop_cancelledAt`: a cancelled build runs the loop on the candidates before the
  signal, and is cancelled only if a later candidate fits the block's gas.

## Design notes

* The best-transactions iterator is the list of candidates it yields.  Its reactions to
  `mark_invalid` and `skip_blobs` decide which candidates come next, so they are part of
  what the list is; the loop records the calls it makes, in order.
* The pool's answer to `get_blob` and the outcome of `execute_transaction` are fields of
  the candidate: every theorem holds for every answer.
* The cancel signal only ever goes from unset to set.  It is the index of the first
  candidate at whose poll it is set (`cancelledAt`).
* The gas sums are `u64` and wrap (`% u64Modulus`).  A blob count is the length of a
  `Vec` of 32-byte hashes, below `2^58`, and the block's count stays at most
  `LOAD_MAX_BLOB_COUNT`, so the `u64` blob sums cannot wrap and are naturals here; so are
  the encoded lengths (`usize`) and the fees (`U256`).
* `expect("fee is valid after successful execution")` can fail when an execution
  succeeds for a transaction whose fee cap is below the base fee; the build then
  panics, which is `none`.
* The setup calls (`state_by_block_hash`, `builder_for_next_block`,
  `apply_pre_execution_changes`), `finish` and a block's RLP length are upstream: the
  parameter `UpstreamBuilder`, by what they return.
-/

namespace LoadReth

/-! ## Data -/

/-- `MAX_RLP_BLOCK_SIZE` (EIP-7934): ten MiB less a two-MiB safety margin. -/
def maxRlpBlockSize : Nat := 10485760 - 2097152

/-- `compute_load_blob_cap`: the fork's maximum blob count, `LOAD_MAX_BLOB_COUNT` when the
spec has none, and never more than `LOAD_MAX_BLOB_COUNT`. -/
def computeLoadBlobCap (spec : LoadChainSpec) (timestamp : Nat) : Nat :=
  min (((spec.blobParamsAtTimestamp timestamp).map (·.maxBlobCount)).getD loadMaxBlobCount)
    loadMaxBlobCount

theorem computeLoadBlobCap_le (spec : LoadChainSpec) (timestamp : Nat) :
    computeLoadBlobCap spec timestamp ≤ loadMaxBlobCount :=
  Nat.min_le_right _ _

/-- `PayloadBuilderError`, by where this crate raises it. -/
inductive PayloadBuilderError
  /-- `PayloadBuilderError::other` of a `validate_payload_attributes` error. -/
  | attributes (error : LoadPayloadAttributesError)
  /-- `PayloadBuilderError::other` of a blob-store error. -/
  | blobStore
  /-- `PayloadBuilderError::evm`: an execution error other than an invalid transaction. -/
  | evm
  /-- `ConsensusError::BlockTooLarge`. -/
  | blockTooLarge (rlpLength maxRlpLength : Nat)
  /-- An error of the upstream setup or of `finish`. -/
  | upstream
  /-- `PayloadBuilderError::MissingPayload`: a build that delivered no payload. -/
  | missingPayload
  deriving DecidableEq

/-- `BlockExecutionError`, by the two arms the loop tells apart. -/
inductive BlockExecutionError
  /-- `BlockValidationError::InvalidTx`; whether its error is "nonce too low". -/
  | invalidTx (nonceTooLow : Bool)
  | other
  deriving DecidableEq

/-- `BlobStoreError`. -/
inductive BlobStoreError
  | missingSidecar
  | decodeError
  | other
  deriving DecidableEq

/-- `Eip4844PoolTransactionError`, the variants the loop raises. -/
inductive Eip4844PoolTransactionError
  | tooManyEip4844Blobs (total permitted : Nat)
  | missingEip4844BlobSidecar
  | unexpectedEip4844SidecarAfterOsaka
  | unexpectedEip7594SidecarBeforeOsaka
  deriving DecidableEq

/-- `InvalidPoolTransactionError`, the variants the loop raises. -/
inductive InvalidPoolTransactionError
  | exceedsGasLimit (gasLimit blockGasLimit : Nat)
  | oversizedData (size limit : Nat)
  | eip4844 (error : Eip4844PoolTransactionError)
  /-- `Consensus(InvalidTransactionError::TxTypeNotSupported)`. -/
  | txTypeNotSupported
  deriving DecidableEq

/-- A call the loop makes on the best-transactions iterator. -/
inductive BestTransactionsCall
  | markInvalid (tx : TransactionSigned) (error : InvalidPoolTransactionError)
  | skipBlobs
  deriving DecidableEq

/-- A candidate the best-transactions iterator yields, with what the environment answers
about it: the pool's `get_blob` and the block builder's `execute_transaction`. -/
structure Candidate where
  tx : TransactionSigned
  blobLookup : Except BlobStoreError (Option BlobTransactionSidecarVariant)
  execution : Except BlockExecutionError Nat

/-- The sidecar the pool holds for the candidate, if it answered with one. -/
def Candidate.sidecar (c : Candidate) : Option BlobTransactionSidecarVariant :=
  match c.blobLookup with
  | .ok sidecar => sidecar
  | .error _ => none

/-- The sidecar the built payload carries for an executed candidate: its pool sidecar if
it is a blob transaction, none otherwise. -/
def Candidate.includedSidecar (c : Candidate) : Option BlobTransactionSidecarVariant :=
  if c.tx.isEip4844 then c.sidecar else none

/-- What the loop reads and never changes. -/
structure SelectionEnv where
  blockGasLimit : Nat
  baseFee : Nat
  maxBlobCount : Nat
  isOsaka : Bool
  /-- `attributes.withdrawals().length()`. -/
  withdrawalsLength : Nat
  /-- The index of the first candidate at whose poll the cancel signal is set. -/
  cancelledAt : Option Nat

/-- `cancel.is_cancelled()` at the poll of the candidate of index `index`. -/
def SelectionEnv.isCancelled (env : SelectionEnv) (index : Nat) : Bool :=
  env.cancelledAt.any (· ≤ index)

/-- The loop's accumulators, the transactions the block builder holds, and the calls made
on the iterator. -/
structure SelectionState where
  cumulativeGasUsed : Nat
  blockBlobCount : Nat
  blockTransactionsRlpLength : Nat
  totalFees : Nat
  blobSidecars : BlobSidecars
  /-- The candidates executed, in order; the block builder holds their transactions. -/
  executed : List Candidate
  calls : List BestTransactionsCall

namespace SelectionState

/-- The state before the first candidate. -/
def init : SelectionState := ⟨0, 0, 0, 0, .empty, [], []⟩

/-- `best_txs.mark_invalid(&pool_tx, &error)`. -/
def markInvalid (s : SelectionState) (c : Candidate) (error : InvalidPoolTransactionError) :
    SelectionState :=
  { s with calls := s.calls ++ [.markInvalid c.tx error] }

/-- The bookkeeping after `c` executed with `gasUsed` and paid `minerFee` per gas, with
`sidecar` the sidecar fetched for it. -/
def record (s : SelectionState) (env : SelectionEnv) (c : Candidate)
    (sidecar : Option BlobTransactionSidecarVariant) (gasUsed minerFee : Nat) : SelectionState :=
  let blockBlobCount :=
    if c.tx.isEip4844 then s.blockBlobCount + c.tx.blobCount else s.blockBlobCount
  { cumulativeGasUsed := (s.cumulativeGasUsed + gasUsed) % u64Modulus
    blockBlobCount
    blockTransactionsRlpLength := s.blockTransactionsRlpLength + c.tx.encodedLength
    totalFees := s.totalFees + minerFee * gasUsed
    blobSidecars := match sidecar with
      | some sidecar => s.blobSidecars.pushSidecarVariant sidecar
      | none => s.blobSidecars
    executed := s.executed ++ [c]
    calls := if c.tx.isEip4844 && blockBlobCount == env.maxBlobCount then s.calls ++ [.skipBlobs]
      else s.calls }

end SelectionState

/-! ## One iteration, and the loop -/

/-- How one iteration ends: with the next state, or by leaving the build. -/
inductive StepOutcome
  | next (s : SelectionState)
  | cancelled
  | failed (error : PayloadBuilderError)
  | panicked

/-- The sidecar check of a blob transaction within the cap: the pool must hold a
sidecar, EIP-7594 once Osaka is active and EIP-4844 before. -/
def blobSidecarResult (isOsaka : Bool) (sidecar : Option BlobTransactionSidecarVariant) :
    Except Eip4844PoolTransactionError BlobTransactionSidecarVariant :=
  match sidecar with
  | none => .error .missingEip4844BlobSidecar
  | some sidecar =>
    if isOsaka then
      if sidecar.isEip7594 then .ok sidecar else .error .unexpectedEip4844SidecarAfterOsaka
    else if sidecar.isEip4844 then .ok sidecar else .error .unexpectedEip7594SidecarBeforeOsaka

/-- `builder.execute_transaction(tx)` and what follows it: an invalid transaction is
skipped (and marked invalid unless its nonce is too low), another error ends the build,
and a success is booked. -/
def executeCandidate (env : SelectionEnv) (s : SelectionState) (c : Candidate)
    (sidecar : Option BlobTransactionSidecarVariant) : StepOutcome :=
  match c.execution with
  | .ok gasUsed =>
    match c.tx.effectiveTipPerGas env.baseFee with
    | some minerFee => .next (s.record env c sidecar gasUsed minerFee)
    | none => .panicked
  | .error (.invalidTx nonceTooLow) =>
    if nonceTooLow then .next s else .next (s.markInvalid c .txTypeNotSupported)
  | .error .other => .failed .evm

/-- One iteration of the `while let Some(pool_tx) = best_txs.next()` loop, for the
candidate of index `index`. -/
def selectStep (env : SelectionEnv) (index : Nat) (s : SelectionState) (c : Candidate) :
    StepOutcome :=
  if (s.cumulativeGasUsed + c.tx.gasLimit) % u64Modulus > env.blockGasLimit then
    .next (s.markInvalid c (.exceedsGasLimit c.tx.gasLimit env.blockGasLimit))
  else if env.isCancelled index then .cancelled
  else
    let estimatedBlockSizeWithTx :=
      s.blockTransactionsRlpLength + c.tx.encodedLength + env.withdrawalsLength + 1024
    if env.isOsaka && estimatedBlockSizeWithTx > maxRlpBlockSize then
      .next (s.markInvalid c (.oversizedData estimatedBlockSizeWithTx maxRlpBlockSize))
    else
      match c.tx.blobVersionedHashes with
      | none => executeCandidate env s c none
      | some hashes =>
        let txBlobCount := hashes.length
        if s.blockBlobCount + txBlobCount > env.maxBlobCount then
          .next (s.markInvalid c
            (.eip4844 (.tooManyEip4844Blobs (s.blockBlobCount + txBlobCount) env.maxBlobCount)))
        else
          match c.blobLookup with
          | .error _ => .failed .blobStore
          | .ok sidecar =>
            match blobSidecarResult env.isOsaka sidecar with
            | .ok sidecar => executeCandidate env s c (some sidecar)
            | .error error => .next (s.markInvalid c (.eip4844 error))

/-- How the loop ends: with its final state, or by leaving the build early. -/
inductive SelectionOutcome
  | done (s : SelectionState)
  | cancelled
  | failed (error : PayloadBuilderError)
  | panicked

/-- The selection loop over the candidates, the first of index `index`. -/
def selectLoop (env : SelectionEnv) : Nat → SelectionState → List Candidate → SelectionOutcome
  | _, s, [] => .done s
  | index, s, c :: cs =>
    match selectStep env index s c with
    | .next s' => selectLoop env (index + 1) s' cs
    | .cancelled => .cancelled
    | .failed error => .failed error
    | .panicked => .panicked

/-! ## The build -/

/-- `BuildOutcome`. -/
inductive BuildOutcome
  | better (payload : LoadBuiltPayload)
  | aborted (fees : Nat)
  | cancelled

/-- `is_better_payload`: there is no best payload yet, or this one pays more. -/
def isBetterPayload (bestPayload : Option LoadBuiltPayload) (fees : Nat) : Bool :=
  bestPayload.all fun best => fees > best.fees

/-- `BestTransactionsAttributes`: the base fee and the blob fee the pool orders by. -/
structure BestTransactionsAttributes where
  basefee : Nat
  blobFee : Option Nat

/-- The attributes the build asks the pool with: the block's base fee, and its blob gas
price cast to `u64` (`gasprice as u64`). -/
def BlockEnv.bestTransactionsAttributes (blockEnv : BlockEnv) : BestTransactionsAttributes :=
  ⟨blockEnv.basefee, blockEnv.blobGasprice.map (· % u64Modulus)⟩

/-- The upstream parts of a build, by what they return. -/
structure UpstreamBuilder where
  /-- `state_by_block_hash`, `builder_for_next_block` and `apply_pre_execution_changes`:
  the new block's environment, or the error one of them returned. -/
  setup : Except PayloadBuilderError BlockEnv
  /-- `builder.finish`: the sealed block and the execution requests, for the executed
  transactions. -/
  finish : List TransactionSigned → Except PayloadBuilderError (SealedBlock × Requests)
  /-- `rlp_length()` of a sealed block. -/
  rlpLength : SealedBlock → Nat

/-- The loop's environment in a build at `attributes` on `blockEnv`. -/
def selectionEnv (spec : LoadChainSpec) (attributes : LoadPayloadBuilderAttributes)
    (blockEnv : BlockEnv) (cancelledAt : Option Nat) : SelectionEnv where
  blockGasLimit := blockEnv.gasLimit
  baseFee := blockEnv.basefee
  maxBlobCount := computeLoadBlobCap spec attributes.timestamp
  isOsaka := spec.isOsakaActiveAtTimestamp attributes.timestamp
  withdrawalsLength := withdrawalsLength attributes.withdrawals
  cancelledAt := cancelledAt

/-- After the loop: keep the payload only if it is better, then seal it. -/
def sealPayload (spec : LoadChainSpec) (upstream : UpstreamBuilder)
    (attributes : LoadPayloadBuilderAttributes) (bestPayload : Option LoadBuiltPayload)
    (isOsaka : Bool) (s : SelectionState) : Except PayloadBuilderError BuildOutcome := do
  if !isBetterPayload bestPayload s.totalFees then
    return .aborted s.totalFees
  let (block, executionRequests) ← upstream.finish (s.executed.map (·.tx))
  let requests :=
    if spec.isPragueActiveAtTimestamp attributes.timestamp then some executionRequests else none
  if isOsaka && upstream.rlpLength block > maxRlpBlockSize then
    throw (.blockTooLarge (upstream.rlpLength block) maxRlpBlockSize)
  return .better ⟨block, s.totalFees, requests, s.blobSidecars⟩

/-- `default_load_payload`, with `bestTxs` the pool's `best_transactions_with_attributes`
and `cancelledAt` the cancel signal; `none` is a panic. -/
def defaultLoadPayload (spec : LoadChainSpec) (upstream : UpstreamBuilder)
    (parentTimestamp : Nat) (attributes : LoadPayloadBuilderAttributes)
    (bestPayload : Option LoadBuiltPayload) (cancelledAt : Option Nat)
    (bestTxs : BestTransactionsAttributes → List Candidate) :
    Option (Except PayloadBuilderError BuildOutcome) :=
  match validatePayloadAttributes parentTimestamp attributes with
  | .error error => some (.error (.attributes error))
  | .ok () =>
    match upstream.setup with
    | .error error => some (.error error)
    | .ok blockEnv =>
      let env := selectionEnv spec attributes blockEnv cancelledAt
      match selectLoop env 0 .init (bestTxs blockEnv.bestTransactionsAttributes) with
      | .done s => some (sealPayload spec upstream attributes bestPayload env.isOsaka s)
      | .cancelled => some (.ok .cancelled)
      | .failed error => some (.error error)
      | .panicked => none

/-- `BuildOutcome::into_payload`: the payload of a better outcome. -/
def BuildOutcome.intoPayload : BuildOutcome → Option LoadBuiltPayload
  | .better payload => some payload
  | .aborted _ | .cancelled => none

/-- `build_empty_payload`: `default_load_payload` with no best payload, a cancel signal that
is never set, and the pool's best transactions; `MissingPayload` where the outcome has no
payload. -/
def buildEmptyPayload (spec : LoadChainSpec) (upstream : UpstreamBuilder) (parentTimestamp : Nat)
    (attributes : LoadPayloadBuilderAttributes)
    (bestTxs : BestTransactionsAttributes → List Candidate) :
    Option (Except PayloadBuilderError LoadBuiltPayload) :=
  (defaultLoadPayload spec upstream parentTimestamp attributes none none bestTxs).map fun r =>
    r.bind fun outcome =>
      match outcome.intoPayload with
      | some payload => .ok payload
      | none => .error .missingPayload

/-! ## What one iteration does, and the run principles -/

section Step

variable {env : SelectionEnv} {index : Nat} {s s' : SelectionState} {c : Candidate}

/-- What a candidate that gets executed has passed: the gas check, the Osaka size check,
and for a blob transaction the cap and the sidecar check. -/
structure Admitted (env : SelectionEnv) (s : SelectionState) (c : Candidate) : Prop where
  gas_le : (s.cumulativeGasUsed + c.tx.gasLimit) % u64Modulus ≤ env.blockGasLimit
  size_le : env.isOsaka = true → s.blockTransactionsRlpLength + c.tx.encodedLength +
    env.withdrawalsLength + 1024 ≤ maxRlpBlockSize
  blobCount_le : c.tx.isEip4844 = true → s.blockBlobCount + c.tx.blobCount ≤ env.maxBlobCount
  sidecar_eq : c.tx.isEip4844 = true → ∃ v, c.sidecar = some v ∧ v.isEip7594 = env.isOsaka

/-- What the error an iteration reports with `mark_invalid` says about the candidate: the
gas it asked for against the block's limit; the size estimate, at least the candidate's
own length with the withdrawals and the allowance, over the limit once Osaka is active;
the blob count, at least the candidate's own, over the cap; the sidecar the pool holds, of
the wrong scheme or none; or an execution that found the transaction invalid. -/
def InvalidPoolTransactionError.Justifies (env : SelectionEnv) (c : Candidate) :
    InvalidPoolTransactionError → Prop
  | .exceedsGasLimit gasLimit blockGasLimit =>
    gasLimit = c.tx.gasLimit ∧ blockGasLimit = env.blockGasLimit
  | .oversizedData size limit =>
    env.isOsaka = true ∧ limit = maxRlpBlockSize ∧ limit < size ∧
      c.tx.encodedLength + env.withdrawalsLength + 1024 ≤ size
  | .eip4844 (.tooManyEip4844Blobs total permitted) =>
    c.tx.isEip4844 = true ∧ permitted = env.maxBlobCount ∧ permitted < total ∧
      c.tx.blobCount ≤ total
  | .eip4844 .missingEip4844BlobSidecar => c.tx.isEip4844 = true ∧ c.blobLookup = .ok none
  | .eip4844 .unexpectedEip4844SidecarAfterOsaka =>
    c.tx.isEip4844 = true ∧ env.isOsaka = true ∧ ∃ v, c.sidecar = some v ∧ v.isEip7594 = false
  | .eip4844 .unexpectedEip7594SidecarBeforeOsaka =>
    c.tx.isEip4844 = true ∧ env.isOsaka = false ∧ ∃ v, c.sidecar = some v ∧ v.isEip7594 = true
  | .txTypeNotSupported => c.execution = .error (.invalidTx false)

/-- The sidecar check passes exactly on a sidecar of the fork's scheme. -/
theorem blobSidecarResult_eq_ok_iff {isOsaka : Bool} {sidecar : Option BlobTransactionSidecarVariant}
    {v : BlobTransactionSidecarVariant} :
    blobSidecarResult isOsaka sidecar = .ok v ↔ sidecar = some v ∧ v.isEip7594 = isOsaka := by
  rcases sidecar with _ | ⟨_⟩ | ⟨_⟩ <;> cases isOsaka <;>
    simp [blobSidecarResult, BlobTransactionSidecarVariant.isEip7594] <;> rintro rfl <;> rfl

/-- A failed sidecar check names what the pool holds for the blob transaction. -/
theorem justifies_of_blobSidecarResult (h4844 : c.tx.isEip4844 = true)
    {sidecar : Option BlobTransactionSidecarVariant} (hlookup : c.blobLookup = .ok sidecar)
    {error : Eip4844PoolTransactionError} (h : blobSidecarResult env.isOsaka sidecar = .error error) :
    (InvalidPoolTransactionError.eip4844 error).Justifies env c := by
  rcases sidecar with _ | v
  · cases h
    exact ⟨h4844, hlookup⟩
  · have hsc : c.sidecar = some v := by simp [Candidate.sidecar, hlookup]
    cases ho : env.isOsaka <;> cases hv : v.isEip7594 <;>
      simp [blobSidecarResult, ho, hv] at h <;> subst h <;> exact ⟨h4844, ho, v, hsc, hv⟩

/-- An execution that does not leave the build marks the candidate invalid because it
found the transaction invalid, skips it because its nonce was too low, or books it at its
effective tip. -/
theorem executeCandidate_fate {sidecar : Option BlobTransactionSidecarVariant}
    (h : executeCandidate env s c sidecar = .next s') :
    (∃ error, error.Justifies env c ∧ s' = s.markInvalid c error) ∨
      (c.execution = .error (.invalidTx true) ∧ s' = s) ∨
      ∃ gasUsed minerFee, c.execution = .ok gasUsed ∧
        c.tx.effectiveTipPerGas env.baseFee = some minerFee ∧
        s' = s.record env c sidecar gasUsed minerFee := by
  unfold executeCandidate at h
  split at h
  next gasUsed hg =>
    split at h <;> cases h
    exact .inr (.inr ⟨gasUsed, _, hg, ‹_›, rfl⟩)
  next nonceTooLow he =>
    cases nonceTooLow <;> simp only [Bool.false_eq_true, if_false, if_true,
      StepOutcome.next.injEq] at h <;> subst h
    · exact .inl ⟨.txTypeNotSupported, he, rfl⟩
    · exact .inr (.inl ⟨he, rfl⟩)
  next => cases h

/-- **Everything one iteration can do.**  An iteration that does not leave the build marks
the candidate invalid with an error that says what it failed, skips it because its nonce
was too low, or books it at its effective tip after executing it; and it executes only a
candidate that passed the gas check, the Osaka size check, the blob cap and the sidecar
check. -/
theorem selectStep_fate (h : selectStep env index s c = .next s') :
    (∃ error, error.Justifies env c ∧ s' = s.markInvalid c error) ∨
      (c.execution = .error (.invalidTx true) ∧ s' = s) ∨
      ∃ gasUsed minerFee, c.execution = .ok gasUsed ∧
        c.tx.effectiveTipPerGas env.baseFee = some minerFee ∧ Admitted env s c ∧
        s' = s.record env c c.includedSidecar gasUsed minerFee := by
  unfold selectStep at h
  by_cases hgas : (s.cumulativeGasUsed + c.tx.gasLimit) % u64Modulus > env.blockGasLimit
  · simp only [hgas, if_true, StepOutcome.next.injEq] at h
    exact .inl ⟨.exceedsGasLimit c.tx.gasLimit env.blockGasLimit, ⟨rfl, rfl⟩, h.symm⟩
  have hfits : (s.cumulativeGasUsed + c.tx.gasLimit) % u64Modulus ≤ env.blockGasLimit :=
    Nat.le_of_not_gt hgas
  simp only [hgas, if_false] at h
  split at h
  · cases h
  split at h
  next hsize =>
    simp only [Bool.and_eq_true, decide_eq_true_eq] at hsize
    exact .inl ⟨.oversizedData (s.blockTransactionsRlpLength + c.tx.encodedLength +
      env.withdrawalsLength + 1024) maxRlpBlockSize, ⟨hsize.1, rfl, hsize.2, by omega⟩,
      (StepOutcome.next.inj h).symm⟩
  rename_i hsize
  have hsz : env.isOsaka = true → s.blockTransactionsRlpLength + c.tx.encodedLength +
      env.withdrawalsLength + 1024 ≤ maxRlpBlockSize := fun ho => by
    simpa [ho] using hsize
  split at h
  next hnone =>
    have h4844 : c.tx.isEip4844 = false := by simp [TransactionSigned.isEip4844, hnone]
    rcases executeCandidate_fate h with h | h | ⟨g, m, hg, hm, rfl⟩
    · exact .inl h
    · exact .inr (.inl h)
    · refine .inr (.inr ⟨g, m, hg, hm, ⟨hfits, hsz, by simp [h4844], by simp [h4844]⟩, ?_⟩)
      simp [Candidate.includedSidecar, h4844]
  next hashes hsome =>
    have h4844 : c.tx.isEip4844 = true := by simp [TransactionSigned.isEip4844, hsome]
    have hcount : c.tx.blobCount = hashes.length := by simp [TransactionSigned.blobCount, hsome]
    split at h
    next hcap =>
      exact .inl ⟨.eip4844 (.tooManyEip4844Blobs (s.blockBlobCount + hashes.length)
        env.maxBlobCount), ⟨h4844, rfl, hcap, by omega⟩, (StepOutcome.next.inj h).symm⟩
    split at h
    · cases h
    next sidecar hlookup =>
      split at h
      next v hv =>
        obtain ⟨rfl, hscheme⟩ := blobSidecarResult_eq_ok_iff.mp hv
        have hsc : c.sidecar = some v := by simp [Candidate.sidecar, hlookup]
        rcases executeCandidate_fate h with h | h | ⟨g, m, hg, hm, rfl⟩
        · exact .inl h
        · exact .inr (.inl h)
        · refine .inr (.inr ⟨g, m, hg, hm,
            ⟨hfits, hsz, fun _ => by omega, fun _ => ⟨v, hsc, hscheme⟩⟩, ?_⟩)
          simp [Candidate.includedSidecar, h4844, hsc]
      next error herr =>
        exact .inl ⟨_, justifies_of_blobSidecarResult h4844 hlookup herr,
          (StepOutcome.next.inj h).symm⟩

/-- Everything one iteration can do, without the reasons: it marks the candidate invalid,
skips it, or books it after executing it, and executes only an admitted candidate. -/
theorem selectStep_eq_next (h : selectStep env index s c = .next s') :
    (∃ error, s' = s.markInvalid c error) ∨ s' = s ∨
      ∃ gasUsed minerFee, c.execution = .ok gasUsed ∧
        c.tx.effectiveTipPerGas env.baseFee = some minerFee ∧ Admitted env s c ∧
        s' = s.record env c c.includedSidecar gasUsed minerFee :=
  (selectStep_fate h).imp (fun ⟨error, _, he⟩ => ⟨error, he⟩) (Or.imp_left And.right)

/-- **The loop's run principle.**  A property that every iteration on a candidate of the
list keeps holds of the state the loop finishes with. -/
theorem selectLoop_invariant (P : SelectionState → Prop) {cs : List Candidate}
    (hstep : ∀ index s c s', c ∈ cs → P s → selectStep env index s c = .next s' → P s') :
    ∀ {index s s'}, P s → selectLoop env index s cs = .done s' → P s' := by
  induction cs with
  | nil => intro _ _ _ hs h; cases h; exact hs
  | cons c cs ih =>
    intro index s s' hs h
    simp only [selectLoop] at h
    split at h
    next s₁ hs₁ =>
      exact ih (fun i t d t' hd => hstep i t d t' (List.mem_cons_of_mem c hd))
        (hstep index s c s₁ (List.mem_cons_self c cs) hs hs₁) h
    all_goals cases h

/-- A run over `xs ++ ys` is the run over `xs`, continued over `ys` from where it stopped. -/
theorem selectLoop_append (xs ys : List Candidate) :
    ∀ (index : Nat) (s : SelectionState), selectLoop env index s (xs ++ ys) =
      match selectLoop env index s xs with
      | .done s' => selectLoop env (index + xs.length) s' ys
      | r => r := by
  induction xs with
  | nil => intro index s; rfl
  | cons c xs ih =>
    intro index s
    rw [List.cons_append, selectLoop, selectLoop]
    split
    · rw [ih, List.length_cons, Nat.add_assoc, Nat.add_comm 1]
    all_goals rfl

theorem SelectionEnv.isCancelled_succ {index : Nat} (h : env.isCancelled index = true) :
    env.isCancelled (index + 1) = true := by
  unfold SelectionEnv.isCancelled at h ⊢
  cases hk : env.cancelledAt <;> simp_all
  omega

/-- **Once the cancel signal is set, nothing more is executed.**  The loop marks every
candidate that exceeds the remaining gas invalid, and ends the build at the first one that
fits; if none fits, it finishes with no other change than those marks. -/
theorem selectLoop_of_isCancelled :
    ∀ (cs : List Candidate) {index : Nat} (s : SelectionState), env.isCancelled index = true →
      selectLoop env index s cs =
        if cs.any fun c => (s.cumulativeGasUsed + c.tx.gasLimit) % u64Modulus ≤ env.blockGasLimit
        then .cancelled
        else .done { s with calls := s.calls ++ cs.map (fun c =>
          .markInvalid c.tx (.exceedsGasLimit c.tx.gasLimit env.blockGasLimit)) }
  | [], _, s, _ => by simp [selectLoop]
  | c :: cs, index, s, hc => by
    by_cases hgas : (s.cumulativeGasUsed + c.tx.gasLimit) % u64Modulus > env.blockGasLimit
    · have hfits : ¬ (s.cumulativeGasUsed + c.tx.gasLimit) % u64Modulus ≤ env.blockGasLimit := by
        omega
      simp only [selectLoop, selectStep, hgas, if_true]
      rw [selectLoop_of_isCancelled cs _ (SelectionEnv.isCancelled_succ hc)]
      simp [SelectionState.markInvalid, hfits]
    · have hfits : (s.cumulativeGasUsed + c.tx.gasLimit) % u64Modulus ≤ env.blockGasLimit := by
        omega
      simp [selectLoop, selectStep, hgas, hc, hfits]

end Step

/-- **Cancellation is observed at the first candidate that fits the gas.**  When the
cancel signal is set from the candidate of index `k` on, the loop runs the first `k`
candidates as usual; from then on it executes nothing: it marks invalid each candidate
that exceeds the remaining gas, and ends with `Cancelled` at the first one that fits.  If
none fits, the loop finishes, and the build goes on to seal what it had. -/
theorem selectLoop_cancelledAt {env : SelectionEnv} {k : Nat} (hk : env.cancelledAt = some k)
    (candidates : List Candidate) :
    selectLoop env 0 .init candidates =
      match selectLoop env 0 .init (candidates.take k) with
      | .done s =>
        if (candidates.drop k).any fun c =>
            (s.cumulativeGasUsed + c.tx.gasLimit) % u64Modulus ≤ env.blockGasLimit
        then .cancelled
        else .done { s with calls := s.calls ++ (candidates.drop k).map (fun c =>
          .markInvalid c.tx (.exceedsGasLimit c.tx.gasLimit env.blockGasLimit)) }
      | r => r := by
  conv_lhs => rw [← List.take_append_drop k candidates]
  rw [selectLoop_append]
  split
  next s _ =>
    by_cases hlen : k ≤ candidates.length
    · rw [selectLoop_of_isCancelled]
      simp [SelectionEnv.isCancelled, hk, List.length_take, Nat.min_eq_left hlen]
    · simp [List.drop_eq_nil_of_le (Nat.le_of_not_le hlen), selectLoop]
  all_goals rfl

/-- Builder attributes at timestamp one on a zero parent, with `LOAD_PREVRANDAO`. -/
def timestampOneAttributes : LoadPayloadBuilderAttributes :=
  ⟨B256.zero, 1, 0, loadPrevrandao, [], some B256.zero⟩

/-- An upstream builder for a block of gas limit `gasLimit` that seals whatever it is
given at timestamp one with `LOAD_PREVRANDAO`. -/
def sealingUpstream (gasLimit : Nat) : UpstreamBuilder where
  setup := .ok ⟨gasLimit, 7, none⟩
  finish txs :=
    .ok (⟨⟨1, loadPrevrandao, gasLimit, some 0, some B256.zero, none⟩, txs, some [], B256.zero⟩, [])
  rlpLength _ := 0

/-- A transfer asking for one more gas than a thirty-million-gas block has. -/
def oversizedCandidate : Candidate :=
  ⟨⟨30000001, none, 100, 1, some 1, true⟩, .ok none, .ok 21000⟩

/-- With the cancel signal set before the first candidate, a candidate that exceeds the
block's gas is still marked invalid, the loop finishes, and the build seals a better
payload instead of returning `Cancelled`. -/
theorem cancelled_build_is_sealed :
    selectLoop (selectionEnv LoadChainSpec.default timestampOneAttributes ⟨30000000, 7, none⟩
        (some 0)) 0 .init [oversizedCandidate] =
      .done { SelectionState.init with
        calls := [.markInvalid oversizedCandidate.tx (.exceedsGasLimit 30000001 30000000)] } ∧
    ∃ p, defaultLoadPayload LoadChainSpec.default (sealingUpstream 30000000) 0
      timestampOneAttributes none (some 0) (fun _ => [oversizedCandidate]) =
        some (.ok (.better p)) :=
  ⟨rfl, _, rfl⟩

theorem selectLoop_cancelledAt_oversized :
    let env := selectionEnv LoadChainSpec.default timestampOneAttributes ⟨30000000, 7, none⟩
      (some 0)
    env.cancelledAt = some 0 ∧
    selectLoop env 0 .init [oversizedCandidate] =
      match selectLoop env 0 .init ([oversizedCandidate].take 0) with
      | .done s =>
        if ([oversizedCandidate].drop 0).any fun c =>
            (s.cumulativeGasUsed + c.tx.gasLimit) % u64Modulus ≤ env.blockGasLimit
        then .cancelled
        else .done { s with calls := s.calls ++ ([oversizedCandidate].drop 0).map (fun c =>
          .markInvalid c.tx (.exceedsGasLimit c.tx.gasLimit env.blockGasLimit)) }
      | r => r :=
  ⟨rfl, selectLoop_cancelledAt rfl _⟩

end LoadReth
