import LoadReth.Primitives

/-!
# Blocks, transactions and blob sidecars

`LoadPrimitives` is `EthPrimitives` (`primitives/mod.rs`): Load blocks, headers and
transactions are the upstream Ethereum ones.  This module gives them the shape the rest
of the crate reads: the fields the payload builder, the validators and the wire
conversions look at, and nothing else.

## Design notes

* A transaction is its gas limit, its fee fields, its encoded length, whether its
  signer can be recovered, and — for EIP-4844 transactions only — its blob versioned
  hashes.  `as_eip4844()` is `blobVersionedHashes.isSome`.
* A blob sidecar is the number of blobs it carries; its commitments and proofs come one
  per blob and are not modelled.  The two schemes (EIP-4844, EIP-7594) are kept apart by
  type, as upstream does, because the crate's guards are about which scheme a payload
  carries.
* `BlobSidecars.pushSidecarVariant` is the upstream method: a sidecar of the other
  scheme than the collection already holds is dropped.  The builder never pushes one
  (`Engine.BuilderInvariant`), which is why the collection it returns is faithful.
-/

namespace LoadReth

/-- A signed transaction (`TransactionSigned`), by what this crate reads of it. -/
structure TransactionSigned where
  gasLimit : Nat
  /-- The blob versioned hashes of an EIP-4844 transaction; `none` for every other type. -/
  blobVersionedHashes : Option (List B256)
  /-- `tx.inner().length()`: the length of its encoding. -/
  encodedLength : Nat
  maxFeePerGas : Nat
  /-- `None` for legacy and access-list transactions, which pay their gas price. -/
  maxPriorityFeePerGas : Option Nat
  /-- Whether `try_recover` can recover the signer. -/
  signerRecoverable : Bool
  deriving DecidableEq

namespace TransactionSigned

/-- `as_eip4844().is_some()`. -/
def isEip4844 (tx : TransactionSigned) : Bool := tx.blobVersionedHashes.isSome

/-- `blob_versioned_hashes.len()` of an EIP-4844 transaction; no blobs for any other. -/
def blobCount (tx : TransactionSigned) : Nat := (tx.blobVersionedHashes.map List.length).getD 0

/-- The blob versioned hashes a block body reports for `tx`. -/
def blobHashes (tx : TransactionSigned) : List B256 := tx.blobVersionedHashes.getD []

/-- `effective_tip_per_gas(base_fee)`: `None` when the fee cap is below the base fee,
otherwise what is left of it above the base fee, capped by the priority fee. -/
def effectiveTipPerGas (tx : TransactionSigned) (baseFee : Nat) : Option Nat :=
  if tx.maxFeePerGas < baseFee then none
  else some ((tx.maxPriorityFeePerGas.map (min (tx.maxFeePerGas - baseFee))).getD
    (tx.maxFeePerGas - baseFee))

@[simp] theorem blobHashes_length (tx : TransactionSigned) :
    tx.blobHashes.length = tx.blobCount := by
  cases h : tx.blobVersionedHashes <;> simp [blobHashes, blobCount, h]

/-- Only an EIP-4844 transaction carries blobs. -/
theorem blobCount_eq_zero {tx : TransactionSigned} (h : tx.isEip4844 = false) :
    tx.blobCount = 0 := by
  cases hb : tx.blobVersionedHashes <;> simp_all [isEip4844, blobCount]

end TransactionSigned

/-! ## Blob sidecars -/

/-- An EIP-4844 sidecar (`BlobTransactionSidecar`), by the number of blobs it carries. -/
structure BlobTransactionSidecar where
  blobCount : Nat
  deriving DecidableEq

/-- An EIP-7594 sidecar (cell proofs), by the number of blobs it carries. -/
structure BlobTransactionSidecarEip7594 where
  blobCount : Nat
  deriving DecidableEq

/-- A sidecar of either scheme, as the blob store hands it out. -/
inductive BlobTransactionSidecarVariant
  | eip4844 (sidecar : BlobTransactionSidecar)
  | eip7594 (sidecar : BlobTransactionSidecarEip7594)
  deriving DecidableEq

/-- `is_eip7594()`. -/
def BlobTransactionSidecarVariant.isEip7594 : BlobTransactionSidecarVariant → Bool
  | .eip4844 _ => false
  | .eip7594 _ => true

/-- `is_eip4844()`. -/
def BlobTransactionSidecarVariant.isEip4844 : BlobTransactionSidecarVariant → Bool
  | .eip4844 _ => true
  | .eip7594 _ => false

@[simp] theorem BlobTransactionSidecarVariant.isEip4844_eq_not_isEip7594
    (s : BlobTransactionSidecarVariant) : s.isEip4844 = !s.isEip7594 := by
  cases s <;> rfl

/-- The sidecars of a built payload: none, or a list of one scheme. -/
inductive BlobSidecars
  | empty
  | eip4844 (sidecars : List BlobTransactionSidecar)
  | eip7594 (sidecars : List BlobTransactionSidecarEip7594)
  deriving DecidableEq

namespace BlobSidecars

/-- `push_sidecar_variant`: start or extend a list of the sidecar's scheme; a sidecar of
the other scheme is dropped. -/
def pushSidecarVariant : BlobSidecars → BlobTransactionSidecarVariant → BlobSidecars
  | .empty, .eip4844 s => .eip4844 [s]
  | .empty, .eip7594 s => .eip7594 [s]
  | .eip4844 l, .eip4844 s => .eip4844 (l ++ [s])
  | .eip7594 l, .eip7594 s => .eip7594 (l ++ [s])
  | sidecars, _ => sidecars

/-- The sidecars held, in order, each tagged with its scheme. -/
def toVariants : BlobSidecars → List BlobTransactionSidecarVariant
  | .empty => []
  | .eip4844 l => l.map .eip4844
  | .eip7594 l => l.map .eip7594

/-- The collection is empty or a list of the given scheme. -/
def OfScheme (eip7594 : Bool) : BlobSidecars → Prop
  | .empty => True
  | .eip4844 _ => eip7594 = false
  | .eip7594 _ => eip7594 = true

/-- Pushing a sidecar of the collection's own scheme appends it. -/
theorem toVariants_pushSidecarVariant {sidecars : BlobSidecars}
    {s : BlobTransactionSidecarVariant} (h : sidecars.OfScheme s.isEip7594) :
    (sidecars.pushSidecarVariant s).toVariants = sidecars.toVariants ++ [s] := by
  cases sidecars <;> cases s <;> simp_all [pushSidecarVariant, toVariants, OfScheme,
    BlobTransactionSidecarVariant.isEip7594]

theorem pushSidecarVariant_ne_empty {sidecars : BlobSidecars}
    {s : BlobTransactionSidecarVariant} (h : sidecars.OfScheme s.isEip7594) :
    sidecars.pushSidecarVariant s ≠ .empty := by
  cases sidecars <;> cases s <;> simp_all [pushSidecarVariant, OfScheme,
    BlobTransactionSidecarVariant.isEip7594]

theorem ofScheme_pushSidecarVariant {sidecars : BlobSidecars}
    {s : BlobTransactionSidecarVariant} (h : sidecars.OfScheme s.isEip7594) :
    (sidecars.pushSidecarVariant s).OfScheme s.isEip7594 := by
  cases sidecars <;> cases s <;> simp_all [pushSidecarVariant, OfScheme,
    BlobTransactionSidecarVariant.isEip7594]

end BlobSidecars

/-! ## Headers and blocks -/

/-- A withdrawal, by the length of its encoding. -/
structure Withdrawal where
  encodedLength : Nat
  deriving DecidableEq

/-- The length of an RLP list header for a payload of `payloadLength` bytes. -/
def rlpListHeaderLength (payloadLength : Nat) : Nat :=
  if payloadLength < 56 then 1 else 1 + (Nat.toDigits 256 payloadLength).length

/-- `Withdrawals::length()`: the length of the RLP encoding of the list. -/
def withdrawalsLength (withdrawals : List Withdrawal) : Nat :=
  let payload := (withdrawals.map (·.encodedLength)).sum
  rlpListHeaderLength payload + payload

/-- A block header, by the fields this crate reads or the assembler sets from the
build attributes. -/
structure Header where
  timestamp : Nat
  prevRandao : B256
  gasLimit : Nat
  /-- EIP-4844 blob gas used; its companion `excess_blob_gas` is present exactly when it
  is (both arrive with a V3 payload), so the checks on the pair are checks on this field. -/
  blobGasUsed : Option Nat
  parentBeaconBlockRoot : Option B256
  requestsHash : Option B256
  deriving DecidableEq

/-- A sealed block: header, transactions, withdrawals, and the hash it was sealed with. -/
structure SealedBlock where
  header : Header
  transactions : List TransactionSigned
  withdrawals : Option (List Withdrawal)
  hash : B256
  deriving DecidableEq

/-- The blob versioned hashes of a block body, in transaction order. -/
def SealedBlock.blobVersionedHashes (block : SealedBlock) : List B256 :=
  block.transactions.flatMap TransactionSigned.blobHashes

theorem SealedBlock.blobVersionedHashes_length (block : SealedBlock) :
    block.blobVersionedHashes.length =
      (block.transactions.map TransactionSigned.blobCount).sum := by
  simp [SealedBlock.blobVersionedHashes, List.flatMap, Function.comp_def]

/-- EIP-7685 execution requests, by their encodings. -/
abbrev Requests := List (List UInt8)

end LoadReth
