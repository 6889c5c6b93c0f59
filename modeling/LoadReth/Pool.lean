import LoadReth.Chainspec

/-!
# The transaction pool's blob cache and blob sub-pool

`pool/mod.rs`: `LoadPoolBuilder::build_pool` sizes the blob store's cache from the chain's
target blob count at the current time, two epochs' worth of target blobs, unless the
operator configured a size. From that cache size it then scales the blob sub-pool's
`SubPoolLimit` up from the default one.

## Main definitions

* `LoadPoolBuilder.blobCacheSize`: the cache size, configured or derived.
* `LoadPoolBuilder.blobLimit`: the blob sub-pool limit the builder installs, or `none`
  where its `usize` arithmetic overflows.
* `LoadPoolBuilder.blobLimitFormula`: the limit the scaling is meant to give, a count of
  `max(m, ⌊4c/32⌋, LOAD_TARGET_BLOB_COUNT)` and a size of `s` times
  `⌈max_txs / max(m, 1)⌉`.

## Main results

* `blobLimit_eq_some`, `blobLimit_eq_none`: the derivation, unfolded once, on each side
  of the `usize` boundary of `target_blob_txs + max_txs`.
* `minBlobTxs_eq`, `blobCacheSize_lt_u32Modulus`: for a `u32` cache size `min_blob_txs`
  is `max(⌊4c/32⌋, 512)`, and the cache size is a `u32`.
* `blobLimit_spec`: for a `u32` cache size the derivation overflows exactly when the
  default count reaches `2^63`, gives the formula below that for a nonzero default count,
  and at a default count of zero scales the size by one less than the formula does
  (`blobLimit_misses_formula`).
* `blobLimit_ge_default`: whenever it does not overflow, the derived limit is never below
  the default one.

## Design notes

* `target_blob_count.saturating_mul(EPOCH_SLOTS).saturating_mul(2)` is `u64` arithmetic
  that saturates, and `as u32` truncates: both are written out.
* The current time (`SystemTime::now()`) is a parameter.
* `usize` is `u64`: the node's targets are 64-bit. Its `+` and `-` are written as checked
  operations whose `none` is the overflow, which Rust counts an error: a debug build
  panics there, and a release build without overflow checks wraps. No build profile is
  part of the crate's sources, so the model stops at the overflow.
-/

namespace LoadReth

/-- `EPOCH_SLOTS`: slots per beacon epoch. -/
def epochSlots : Nat := 32

/-- `u64::saturating_mul`. -/
def saturatingMulU64 (a b : Nat) : Nat := min (a * b) (u64Modulus - 1)

namespace LoadPoolBuilder

/-- The blob parameters `build_pool` sizes the cache from: the chain's at `now`, Cancun's
before any blob fork. -/
def blobParams (spec : LoadChainSpec) (now : Nat) : BlobParams :=
  (spec.blobParamsAtTimestamp now).getD BlobParams.cancun

/-- `calculated_blob_cache`: two epochs of target blobs, cast to `u32`. -/
def calculatedBlobCache (params : BlobParams) : Nat :=
  saturatingMulU64 (saturatingMulU64 params.targetBlobCount epochSlots) 2 % u32Modulus

/-- `blob_cache_size`: the configured size, or the calculated one. -/
def blobCacheSize (configured : Option Nat) (spec : LoadChainSpec) (now : Nat) : Nat :=
  configured.getD (calculatedBlobCache (blobParams spec now))

/-- At the Load target the cache holds 32768 blobs (`test_blob_cache_calculation`). -/
example : calculatedBlobCache loadBlobParams = 32768 := by decide

/-- The cache size is a `u32`: the calculated one is cast to `u32`, and a configured one is
read as one. -/
theorem blobCacheSize_lt_u32Modulus {configured : Option Nat} (spec : LoadChainSpec)
    (now : Nat) (h : ∀ size ∈ configured, size < u32Modulus) :
    blobCacheSize configured spec now < u32Modulus := by
  cases configured with
  | none => exact Nat.mod_lt _ (by decide)
  | some size => exact h size rfl

end LoadPoolBuilder

/-! ## The blob sub-pool limit -/

/-- `usize::MAX + 1`: on the node's 64-bit targets `usize` is `u64`. -/
def usizeModulus : Nat := u64Modulus

/-- `a + b` on `usize`: `none` where the sum overflows. -/
def usizeAdd (a b : Nat) : Option Nat := if a + b < usizeModulus then some (a + b) else none

/-- `a - b` on `usize`: `none` where the difference would be negative. -/
def usizeSub (a b : Nat) : Option Nat := if b ≤ a then some (a - b) else none

/-- `usize::saturating_mul`. -/
def saturatingMulUsize (a b : Nat) : Nat := min (a * b) (usizeModulus - 1)

/-- `usize::checked_div`. -/
def checkedDiv (a b : Nat) : Option Nat := if b = 0 then none else some (a / b)

@[simp] theorem usizeAdd_eq_some {a b : Nat} (h : a + b < usizeModulus) :
    usizeAdd a b = some (a + b) :=
  if_pos h

@[simp] theorem usizeAdd_eq_none {a b : Nat} (h : usizeModulus ≤ a + b) : usizeAdd a b = none :=
  if_neg (Nat.not_lt.mpr h)

@[simp] theorem usizeSub_eq_some {a b : Nat} (h : b ≤ a) : usizeSub a b = some (a - b) := if_pos h

/-- `SubPoolLimit`: how many transactions, and how many bytes of them, a sub-pool holds. -/
structure SubPoolLimit where
  maxTxs : Nat
  maxSize : Nat
  deriving DecidableEq, Repr

namespace LoadPoolBuilder

/-- `min_blob_txs`: four cache-fulls of blobs at `LOAD_MAX_BLOBS_PER_TX` blobs a
transaction, and at least `LOAD_TARGET_BLOB_COUNT`. -/
def minBlobTxs (blobCacheSize : Nat) : Nat :=
  max ((checkedDiv (saturatingMulUsize blobCacheSize 4) loadMaxBlobsPerTx).getD
    (usizeModulus - 1)) loadTargetBlobCount

/-- `target_blob_txs`: the default count, raised to `min_blob_txs`. -/
def targetBlobTxs (blobCacheSize : Nat) (defaultBlobLimit : SubPoolLimit) : Nat :=
  max defaultBlobLimit.maxTxs (minBlobTxs blobCacheSize)

/-- The blob `SubPoolLimit` `build_pool` installs: `target_blob_txs` transactions, and the
default size times `scale`, the ceiling of `target_blob_txs` over the default count as the
code computes it; `none` where that `usize` arithmetic overflows. -/
def blobLimit (blobCacheSize : Nat) (defaultBlobLimit : SubPoolLimit) :
    Option SubPoolLimit := do
  let targetBlobTxs := targetBlobTxs blobCacheSize defaultBlobLimit
  let sum ← usizeAdd targetBlobTxs defaultBlobLimit.maxTxs
  let numerator ← usizeSub sum 1
  let scale := numerator / max defaultBlobLimit.maxTxs 1
  pure ⟨targetBlobTxs, saturatingMulUsize defaultBlobLimit.maxSize scale⟩

/-- The limit the scaling is meant to give (the formula the sub-pool's sizing follows):
`max(m, ⌊4c/32⌋, LOAD_TARGET_BLOB_COUNT)` transactions, and `s` times
`⌈max_txs / max(m, 1)⌉` bytes, saturating. -/
def blobLimitFormula (blobCacheSize : Nat) (defaultBlobLimit : SubPoolLimit) : SubPoolLimit :=
  let maxTxs := max defaultBlobLimit.maxTxs
    (max (4 * blobCacheSize / loadMaxBlobsPerTx) loadTargetBlobCount)
  ⟨maxTxs, saturatingMulUsize defaultBlobLimit.maxSize (maxTxs ⌈/⌉ max defaultBlobLimit.maxTxs 1)⟩

theorem loadTargetBlobCount_le_minBlobTxs (c : Nat) : loadTargetBlobCount ≤ minBlobTxs c :=
  le_max_right _ _

/-- For a `u32` cache size nothing saturates: `min_blob_txs` is `max(⌊4c/32⌋, 512)`. -/
theorem minBlobTxs_eq {c : Nat} (hc : c < u32Modulus) :
    minBlobTxs c = max (4 * c / loadMaxBlobsPerTx) loadTargetBlobCount := by
  have h4 : saturatingMulUsize c 4 = 4 * c := by
    unfold saturatingMulUsize usizeModulus u64Modulus
    unfold u32Modulus at hc
    omega
  rw [minBlobTxs, h4]
  rfl

/-- Below the `usize` boundary the derivation runs to the end. -/
theorem blobLimit_eq_some {c : Nat} {d : SubPoolLimit}
    (h : targetBlobTxs c d + d.maxTxs < usizeModulus) :
    blobLimit c d = some ⟨targetBlobTxs c d,
      saturatingMulUsize d.maxSize ((targetBlobTxs c d + d.maxTxs - 1) / max d.maxTxs 1)⟩ := by
  have hpos : 1 ≤ targetBlobTxs c d + d.maxTxs :=
    le_trans (by decide) ((loadTargetBlobCount_le_minBlobTxs c).trans (le_max_right _ _)
      |>.trans (Nat.le_add_right _ _))
  simp [blobLimit, h, hpos]

/-- At the `usize` boundary the sum `target_blob_txs + max_txs` overflows. -/
theorem blobLimit_eq_none {c : Nat} {d : SubPoolLimit}
    (h : usizeModulus ≤ targetBlobTxs c d + d.maxTxs) : blobLimit c d = none := by
  simp [blobLimit, h]

/-- **The blob sub-pool limit.** For a `u32` cache size the derivation overflows exactly
when the default count reaches `2^63`. Below that it gives the formula's limit, except at a
default count of zero, where `target_blob_txs + 0 - 1` scales the size by one less than
`⌈max_txs / 1⌉`. -/
theorem blobLimit_spec (d : SubPoolLimit) {c : Nat} (hc : c < u32Modulus) :
    blobLimit c d =
      if 2 ^ 63 ≤ d.maxTxs then none
      else if d.maxTxs = 0 then
        some ⟨(blobLimitFormula c d).maxTxs,
          saturatingMulUsize d.maxSize ((blobLimitFormula c d).maxTxs - 1)⟩
      else some (blobLimitFormula c d) := by
  have ht : targetBlobTxs c d = (blobLimitFormula c d).maxTxs := by
    rw [targetBlobTxs, minBlobTxs_eq hc]
    rfl
  have hbound : (blobLimitFormula c d).maxTxs ≤ max d.maxTxs (2 ^ 32) := by
    simp only [blobLimitFormula, loadMaxBlobsPerTx, loadTargetBlobCount]
    unfold u32Modulus at hc
    omega
  have hle : d.maxTxs ≤ (blobLimitFormula c d).maxTxs := le_max_left _ _
  split_ifs with hm hz
  · exact blobLimit_eq_none (by unfold usizeModulus u64Modulus; omega)
  · rw [blobLimit_eq_some (by unfold usizeModulus u64Modulus; omega), ht, hz]
    simp only [Nat.add_zero, Nat.zero_max, Nat.div_one]
  · rw [blobLimit_eq_some (by unfold usizeModulus u64Modulus; omega), ht]
    simp only [blobLimitFormula, Nat.ceilDiv_eq_add_pred_div,
      max_eq_left (Nat.one_le_iff_ne_zero.mpr hz)]

/-- Under the derived cache a default of 1000 transactions gets the formula's limit. -/
theorem blobLimit_spec_derivedCache :
    32768 < u32Modulus ∧ blobLimit 32768 ⟨1000, 20971520⟩ =
      some (blobLimitFormula 32768 ⟨1000, 20971520⟩) :=
  ⟨by decide, (blobLimit_spec ⟨1000, 20971520⟩ (c := 32768) (by decide)).trans (by decide)⟩

/-- At the cache size Load derives (32768 blobs), a default count of zero scales the size by
4095 where the formula scales by 4096; a default count of `2^63 + 1` overflows. -/
theorem blobLimit_misses_formula :
    blobLimit 32768 ⟨0, 1⟩ = some ⟨4096, 4095⟩ ∧ blobLimitFormula 32768 ⟨0, 1⟩ = ⟨4096, 4096⟩ ∧
      blobLimit 32768 ⟨2 ^ 63 + 1, 1⟩ = none := by
  decide

/-- **Never below the defaults.** Whenever the derivation runs to the end, the blob sub-pool
holds at least the default count and the default size. -/
theorem blobLimit_ge_default {c : Nat} {d l : SubPoolLimit} (h : blobLimit c d = some l)
    (hs : d.maxSize < usizeModulus) : d.maxTxs ≤ l.maxTxs ∧ d.maxSize ≤ l.maxSize := by
  rcases lt_or_le (targetBlobTxs c d + d.maxTxs) usizeModulus with hlt | hge
  · obtain rfl := Option.some.inj ((blobLimit_eq_some hlt).symm.trans h)
    have hm : d.maxTxs ≤ targetBlobTxs c d := le_max_left _ _
    have h512 : loadTargetBlobCount ≤ targetBlobTxs c d :=
      (loadTargetBlobCount_le_minBlobTxs c).trans (le_max_right _ _)
    have hscale : 0 < (targetBlobTxs c d + d.maxTxs - 1) / max d.maxTxs 1 :=
      Nat.div_pos (by unfold loadTargetBlobCount at h512; omega) (by omega)
    exact ⟨hm, le_min (Nat.le_mul_of_pos_right _ hscale) (by omega)⟩
  · simp [blobLimit_eq_none hge] at h

/-- A default of 1000 transactions under the derived cache: the count rises to 4096 and the
size is scaled by five. -/
theorem blobLimit_ge_default_derivedCache :
    blobLimit 32768 ⟨1000, 20971520⟩ = some ⟨4096, 104857600⟩ ∧ 1000 ≤ 4096 ∧
      20971520 ≤ 104857600 :=
  have h : blobLimit 32768 ⟨1000, 20971520⟩ = some ⟨4096, 104857600⟩ := by decide
  ⟨h, blobLimit_ge_default h (by decide)⟩

end LoadPoolBuilder

end LoadReth
