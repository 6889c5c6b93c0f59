import Mathlib

/-!
# Primitives and the Load network constants

The constants every component of `load-reth` reads (`chainspec/mod.rs`, `lib.rs`), and
the few upstream value types the crate passes between them: a 32-byte word and the
data-availability parameters `BlobParams`.

## Design notes

* Integers are naturals.  Where the crate's own arithmetic has a width that can be
  reached — the `u64` gas sums of the payload builder, the `u128` fee loop, the
  `gasprice as u64` cast — the module that models it carries the width explicitly
  (`u64Modulus`, `u128Modulus`) and proves what happens at the boundary.
* `B256` is its 32 bytes.  The only thing the crate ever does with one is compare it
  against `LOAD_PREVRANDAO` (`as_slice() == LOAD_PREVRANDAO`), so equality is all the
  model provides.
* `BlobParams::cancun()` and `BlobParams::osaka()` are upstream constants (alloy-eips);
  they are written out here with the values that crate gives them, because
  `load_blob_params_at` falls back to the first and `from_genesis` installs the second.
-/

namespace LoadReth

/-- `2^32`: one past `u32::MAX`. -/
def u32Modulus : Nat := 2 ^ 32

/-- `2^64`: one past `u64::MAX`. -/
def u64Modulus : Nat := 2 ^ 64

/-- `2^128`: one past `u128::MAX`. -/
def u128Modulus : Nat := 2 ^ 128

/-- A 32-byte word (`alloy_primitives::B256`), as its bytes. -/
structure B256 where
  bytes : List UInt8
  length_bytes : bytes.length = 32
  deriving DecidableEq

/-- `B256::ZERO`. -/
def B256.zero : B256 := ⟨List.replicate 32 0, rfl⟩

/-- `LOAD_PREVRANDAO`: thirty-one zero bytes, then `0x01`. -/
def loadPrevrandao : B256 := ⟨List.replicate 31 0 ++ [1], by simp⟩

theorem loadPrevrandao_ne_zero : loadPrevrandao ≠ B256.zero := by decide

/-- `LOAD_MAX_BLOB_COUNT`: the per-block blob budget. -/
def loadMaxBlobCount : Nat := 1024

/-- `LOAD_TARGET_BLOB_COUNT`. -/
def loadTargetBlobCount : Nat := 512

/-- `LOAD_MAX_BLOBS_PER_TX`. -/
def loadMaxBlobsPerTx : Nat := 32

/-- `LOAD_BLOB_UPDATE_FRACTION`: the Pectra (EIP-7691) blob-fee update fraction. -/
def loadBlobUpdateFraction : Nat := 5007716

/-- `DATA_GAS_PER_BLOB` (EIP-4844): the blob gas one blob consumes, `2^17`. -/
def dataGasPerBlob : Nat := 131072

/-- The data-availability parameters of one fork (`alloy_eips::eip7840::BlobParams`). -/
structure BlobParams where
  targetBlobCount : Nat
  maxBlobCount : Nat
  updateFraction : Nat
  minBlobFee : Nat
  maxBlobsPerTx : Nat
  blobBaseCost : Nat
  deriving DecidableEq, Repr

namespace BlobParams

/-- `BlobParams::cancun()`: the EIP-4844 parameters. -/
def cancun : BlobParams where
  targetBlobCount := 3
  maxBlobCount := 6
  updateFraction := 3338477
  minBlobFee := 1
  maxBlobsPerTx := 6
  blobBaseCost := 0

/-- `BlobParams::prague()`: the EIP-7691 parameters. -/
def prague : BlobParams where
  targetBlobCount := 6
  maxBlobCount := 9
  updateFraction := 5007716
  minBlobFee := 1
  maxBlobsPerTx := 9
  blobBaseCost := 0

/-- `BlobParams::osaka()`: Prague's counts and fraction, the EIP-7594 per-transaction
cap and the EIP-7918 base cost. -/
def osaka : BlobParams where
  targetBlobCount := 6
  maxBlobCount := 9
  updateFraction := 5007716
  minBlobFee := 1
  maxBlobsPerTx := 6
  blobBaseCost := 8192

/-- `max_blob_gas_per_block`: the blob gas of a block carrying `max_blob_count` blobs. -/
def maxBlobGasPerBlock (p : BlobParams) : Nat := p.maxBlobCount * dataGasPerBlob

end BlobParams

/-- Peeling a successful `Except` computation: every fallible step of a `do` block
succeeded. -/
theorem Except.bind_eq_ok_iff {ε α β : Type} {x : Except ε α} {f : α → Except ε β} {b : β} :
    (x >>= f) = .ok b ↔ ∃ a, x = .ok a ∧ f a = .ok b := by
  cases x <;> simp [bind, Except.bind]

theorem Except.bind_unit_eq_ok_iff {ε α : Type} {x : Except ε Unit} {k : Except ε α} {b : α} :
    (x >>= fun _ => k) = .ok b ↔ x = .ok () ∧ k = .ok b := by
  cases x <;> simp [bind, Except.bind]

/-- A computation that runs a check and then `k` succeeds when both do. -/
theorem Except.isOk_bind_unit {ε α : Type} (x : Except ε Unit) (k : Except ε α) :
    (x >>= fun _ => k).isOk ↔ x = .ok () ∧ k.isOk := by
  cases x <;> simp [bind, Except.bind, Except.isOk, Except.toBool]

/-- The Load blob parameters `from_genesis` installs for Cancun and Prague: the Load
counts and fraction, with Cancun's minimum fee and base cost. -/
def loadBlobParams : BlobParams where
  targetBlobCount := loadTargetBlobCount
  maxBlobCount := loadMaxBlobCount
  maxBlobsPerTx := loadMaxBlobsPerTx
  updateFraction := loadBlobUpdateFraction
  minBlobFee := BlobParams.cancun.minBlobFee
  blobBaseCost := BlobParams.cancun.blobBaseCost

end LoadReth
