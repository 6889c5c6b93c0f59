import LoadReth.Engine.Payload

/-!
# The Load blob environment of the EVM

`LoadEvmConfig` (`evm/mod.rs`) wraps the upstream EVM configuration and, every time it
builds an environment (`evm_env`, `next_evm_env`, `evm_env_for_payload`), rewrites the
blob part of it with `enforce_load_blob_env`: the Load per-transaction cap and update
fraction go into the configuration, the block's excess blob gas is clamped to the blob
gas of a full Load block, and the blob gas price is recomputed from the clamped excess.

## The fee loop

The price is EIP-4844's `fake_exponential`, computed by alloy-eips in `u128`.  The model
checks each sum and product the loop forms (`checkedU128`) and answers `none` where the
code would overflow (or trip its `assert!` on the denominator).  The loop is structural
on a fuel of `2^128` iterations: the counter `i` is itself a `u128`, so a run longer
than that would overflow it first, and the fuel never cuts a run the code could finish.

`fakeExponentialLoop_mono` is the one real argument: every quantity the loop forms is
monotone in the numerator, so the run at any clamped excess is dominated, step by step,
by the run at the clamp itself — a single closed computation (`fakeExponential_at_cap`).

## The environments the configuration builds

`evm_env`, `next_evm_env` and `evm_env_for_payload` share one shape, `withLoadBlobEnv`:
the upstream configuration's answer, its error passed on by `?`, then
`enforce_load_blob_env` at the block's timestamp.  The upstream functions are parameters,
so every answer upstream can give is covered.  `enforceLoadBlobEnv_idempotent` says that
enforcing twice changes nothing, and `withLoadBlobEnv_of_fromGenesis` that on an accepted
chain no environment the configuration builds panics, and each carries the Load blob
environment, whether or not upstream set one.
-/

namespace LoadReth

/-- A `u128` result: the value when it fits, `none` where the operation overflows. -/
def checkedU128 (x : Nat) : Option Nat := if x < u128Modulus then some x else none

@[simp] theorem checkedU128_eq_some_iff {x y : Nat} :
    checkedU128 x = some y ↔ x < u128Modulus ∧ y = x := by
  unfold checkedU128
  split_ifs with h <;> simp [h, eq_comm]

/-- The `while numerator_accum > 0` loop of `fake_exponential`, from the counter `i`, the
running `output` and the current term `accum`. -/
def fakeExponentialLoop (numerator denominator : Nat) : Nat → Nat → Nat → Nat → Option Nat
  | _, _, output, 0 => some output
  | 0, _, _, _ => none
  | fuel + 1, i, output, accum + 1 => do
    let output ← checkedU128 (output + (accum + 1))
    let product ← checkedU128 ((accum + 1) * numerator)
    let divisor ← checkedU128 (denominator * i)
    let i ← checkedU128 (i + 1)
    fakeExponentialLoop numerator denominator fuel i output (product / divisor)

/-- `fake_exponential(factor, numerator, denominator)`: `factor · e^(numerator/denominator)`
by its Taylor series in integer arithmetic. -/
def fakeExponential (factor numerator denominator : Nat) : Option Nat :=
  if denominator = 0 then none else do
    let accum ← checkedU128 (factor * denominator)
    let output ← fakeExponentialLoop numerator denominator u128Modulus 1 0 accum
    some (output / denominator)

/-- `BlobParams::calc_blob_fee`: the blob gas price at a given excess blob gas. -/
def BlobParams.calcBlobFee (p : BlobParams) (excessBlobGas : Nat) : Option Nat :=
  fakeExponential p.minBlobFee excessBlobGas p.updateFraction

/-! ## The EVM environment -/

/-- The block's blob gas state (`BlobExcessGasAndPrice`). -/
structure BlobExcessGasAndPrice where
  excessBlobGas : Nat
  blobGasprice : Nat
  deriving DecidableEq

/-- The configuration knobs `enforce_load_blob_env` sets. -/
structure CfgEnv where
  maxBlobsPerTx : Option Nat
  blobBaseFeeUpdateFraction : Option Nat
  deriving DecidableEq

/-- The block environment, by the fields this crate reads. -/
structure BlockEnv where
  gasLimit : Nat
  basefee : Nat
  blobExcessGasAndPrice : Option BlobExcessGasAndPrice
  deriving DecidableEq

/-- `EvmEnv`: configuration and block environment. -/
structure EvmEnv where
  cfgEnv : CfgEnv
  blockEnv : BlockEnv
  deriving DecidableEq

/-- `block().blob_gasprice()`. -/
def BlockEnv.blobGasprice (b : BlockEnv) : Option Nat :=
  b.blobExcessGasAndPrice.map (·.blobGasprice)

/-- `LoadEvmConfig`: the upstream configuration, by the chain specification it holds. -/
structure LoadEvmConfig where
  chainSpec : LoadChainSpec

namespace LoadEvmConfig

/-- `load_blob_params_at`: the chain's parameters at the timestamp (Cancun's before any
blob fork), with the Load counts and update fraction written over them. -/
def loadBlobParamsAt (cfg : LoadEvmConfig) (timestamp : Nat) : BlobParams :=
  { (cfg.chainSpec.blobParamsAtTimestamp timestamp).getD BlobParams.cancun with
    targetBlobCount := loadTargetBlobCount, maxBlobCount := loadMaxBlobCount,
    maxBlobsPerTx := loadMaxBlobsPerTx, updateFraction := loadBlobUpdateFraction }

/-- `enforce_load_blob_env`; `none` where the fee computation would panic. -/
def enforceLoadBlobEnv (cfg : LoadEvmConfig) (timestamp : Nat) (env : EvmEnv) :
    Option EvmEnv :=
  let params := cfg.loadBlobParamsAt timestamp
  let cfgEnv := { env.cfgEnv with
    maxBlobsPerTx := some params.maxBlobsPerTx,
    blobBaseFeeUpdateFraction := some loadBlobUpdateFraction }
  match env.blockEnv.blobExcessGasAndPrice with
  | some blobEnv => do
    let maxBlobGas := params.maxBlobGasPerBlock
    let excessBlobGas :=
      if blobEnv.excessBlobGas > maxBlobGas then maxBlobGas else blobEnv.excessBlobGas
    let blobGasprice ← params.calcBlobFee excessBlobGas
    some { cfgEnv, blockEnv := { env.blockEnv with
      blobExcessGasAndPrice := some ⟨excessBlobGas, blobGasprice⟩ } }
  | none =>
    if cfg.chainSpec.isCancunActiveAtTimestamp timestamp then do
      let blobGasprice ← params.calcBlobFee 0
      some { cfgEnv, blockEnv := { env.blockEnv with
        blobExcessGasAndPrice := some ⟨0, blobGasprice⟩ } }
    else some { env with cfgEnv }

@[simp] theorem loadBlobParamsAt_maxBlobCount (cfg : LoadEvmConfig) (timestamp : Nat) :
    (cfg.loadBlobParamsAt timestamp).maxBlobCount = loadMaxBlobCount := rfl

@[simp] theorem loadBlobParamsAt_maxBlobsPerTx (cfg : LoadEvmConfig) (timestamp : Nat) :
    (cfg.loadBlobParamsAt timestamp).maxBlobsPerTx = loadMaxBlobsPerTx := rfl

@[simp] theorem loadBlobParamsAt_updateFraction (cfg : LoadEvmConfig) (timestamp : Nat) :
    (cfg.loadBlobParamsAt timestamp).updateFraction = loadBlobUpdateFraction := rfl

end LoadEvmConfig

/-! ## The fee is bounded, exact in `u64`, and monotone -/

/-- The loop only ever adds to its output. -/
theorem le_of_fakeExponentialLoop_eq_some {numerator denominator : Nat} :
    ∀ {fuel i output accum r : Nat},
      fakeExponentialLoop numerator denominator fuel i output accum = some r → output ≤ r := by
  intro fuel
  induction fuel with
  | zero =>
    intro i output accum r h
    cases accum <;> simp [fakeExponentialLoop] at h
    omega
  | succ fuel ih =>
    intro i output accum r h
    cases accum with
    | zero => simp [fakeExponentialLoop] at h; omega
    | succ accum =>
      simp only [fakeExponentialLoop, Option.bind_eq_bind, Option.bind_eq_some,
        checkedU128_eq_some_iff] at h
      obtain ⟨_, ⟨_, rfl⟩, _, ⟨_, rfl⟩, _, ⟨_, rfl⟩, _, ⟨_, rfl⟩, h⟩ := h
      have := ih h
      omega


/-- **Every quantity the loop forms is monotone in the numerator.**  A run from smaller
output and term, at a smaller numerator, stays below a run that succeeds, step by step:
so it succeeds too (no sum or product it forms can overflow) and ends no higher. -/
theorem fakeExponentialLoop_mono {n₁ n₂ denominator : Nat} (hn : n₁ ≤ n₂) :
    ∀ {fuel i o₁ o₂ a₁ a₂ r₂ : Nat}, o₁ ≤ o₂ → a₁ ≤ a₂ →
      fakeExponentialLoop n₂ denominator fuel i o₂ a₂ = some r₂ →
      ∃ r₁, fakeExponentialLoop n₁ denominator fuel i o₁ a₁ = some r₁ ∧ r₁ ≤ r₂ := by
  intro fuel
  induction fuel with
  | zero =>
    intro i o₁ o₂ a₁ a₂ r₂ ho ha h
    cases a₂ with
    | zero =>
      obtain rfl : a₁ = 0 := by omega
      simp only [fakeExponentialLoop, Option.some.injEq] at h
      exact ⟨o₁, by simp [fakeExponentialLoop], by omega⟩
    | succ => simp [fakeExponentialLoop] at h
  | succ fuel ih =>
    intro i o₁ o₂ a₁ a₂ r₂ ho ha h
    cases a₁ with
    | zero =>
      exact ⟨o₁, by simp [fakeExponentialLoop], Nat.le_trans ho (le_of_fakeExponentialLoop_eq_some h)⟩
    | succ a₁ =>
      obtain ⟨a₂, rfl⟩ : ∃ b, a₂ = b + 1 := ⟨a₂ - 1, by omega⟩
      simp only [fakeExponentialLoop, Option.bind_eq_bind, Option.bind_eq_some,
        checkedU128_eq_some_iff] at h ⊢
      obtain ⟨_, ⟨hsum, rfl⟩, _, ⟨hprod, rfl⟩, _, ⟨hdiv, rfl⟩, _, ⟨hi, rfl⟩, h⟩ := h
      have hmul : (a₁ + 1) * n₁ ≤ (a₂ + 1) * n₂ := Nat.mul_le_mul (by omega) hn
      have hout : o₁ + (a₁ + 1) ≤ o₂ + (a₂ + 1) := by omega
      obtain ⟨r₁, h₁, hle⟩ := ih hout (Nat.div_le_div_right hmul) h
      exact ⟨r₁, ⟨_, ⟨by omega, rfl⟩, _, ⟨by omega, rfl⟩, _, ⟨hdiv, rfl⟩, _, ⟨hi, rfl⟩, h₁⟩, hle⟩

/-- `fake_exponential` is monotone in its numerator, overflow-freedom included. -/
theorem fakeExponential_mono {factor n₁ n₂ denominator r₂ : Nat} (hn : n₁ ≤ n₂)
    (h : fakeExponential factor n₂ denominator = some r₂) :
    ∃ r₁, fakeExponential factor n₁ denominator = some r₁ ∧ r₁ ≤ r₂ := by
  unfold fakeExponential at h ⊢
  split_ifs at h ⊢ with hd
  simp only [Option.bind_eq_bind, Option.bind_eq_some, checkedU128_eq_some_iff,
    Option.some.injEq] at h ⊢
  obtain ⟨_, ⟨hacc, rfl⟩, o₂, h₂, rfl⟩ := h
  obtain ⟨o₁, h₁, hle⟩ := fakeExponentialLoop_mono hn le_rfl le_rfl h₂
  exact ⟨_, ⟨_, ⟨hacc, rfl⟩, o₁, h₁, rfl⟩, Nat.div_le_div_right hle⟩

set_option maxRecDepth 10000 in
/-- The one closed computation: the fee of a block at the Load blob-gas cap. -/
theorem fakeExponential_at_cap :
    fakeExponential 1 (loadMaxBlobCount * dataGasPerBlob) loadBlobUpdateFraction =
      some 436556860642 := by
  decide

/-- Under a chain built by `from_genesis` every parameter set the EVM config can start
from has the EIP-4844 minimum fee of one wei. -/
theorem loadBlobParamsAt_minBlobFee {g : Genesis} {spec : LoadChainSpec}
    (hspec : LoadChainSpec.fromGenesis g = .ok spec) (timestamp : Nat) :
    (LoadEvmConfig.mk spec |>.loadBlobParamsAt timestamp).minBlobFee = 1 := by
  simp only [LoadEvmConfig.loadBlobParamsAt, blobParamsAtTimestamp_of_fromGenesis hspec]
  split_ifs <;> rfl

/-- **The blob-fee clamp bounds the fee computation.**  On an accepted chain, whatever
excess blob gas the environment carries, `enforce_load_blob_env` clamps it to a full Load
block's blob gas and prices it with a `fake_exponential` run that terminates without a
`u128` overflow; the price is below `2^64`, so the builder's `as u64` is exact, and no
smaller excess is priced higher. -/
theorem enforceLoadBlobEnv_blob_fee {g : Genesis} {spec : LoadChainSpec}
    (hspec : LoadChainSpec.fromGenesis g = .ok spec) (timestamp : Nat) (env : EvmEnv)
    (blobEnv : BlobExcessGasAndPrice) (henv : env.blockEnv.blobExcessGasAndPrice = some blobEnv) :
    let cfg : LoadEvmConfig := ⟨spec⟩
    let cap := loadMaxBlobCount * dataGasPerBlob
    ∃ price,
      fakeExponential (cfg.loadBlobParamsAt timestamp).minBlobFee
        (min blobEnv.excessBlobGas cap) loadBlobUpdateFraction = some price ∧
      cfg.enforceLoadBlobEnv timestamp env = some
        { cfgEnv :=
            { env.cfgEnv with
              maxBlobsPerTx := some loadMaxBlobsPerTx
              blobBaseFeeUpdateFraction := some loadBlobUpdateFraction }
          blockEnv :=
            { env.blockEnv with
              blobExcessGasAndPrice := some ⟨min blobEnv.excessBlobGas cap, price⟩ } } ∧
      price < u64Modulus ∧
      ∀ e ≤ blobEnv.excessBlobGas, ∃ price' ≤ price,
        fakeExponential (cfg.loadBlobParamsAt timestamp).minBlobFee (min e cap)
          loadBlobUpdateFraction = some price' := by
  intro cfg cap
  have hfee : (cfg.loadBlobParamsAt timestamp).minBlobFee = 1 :=
    loadBlobParamsAt_minBlobFee hspec timestamp
  obtain ⟨price, hprice, hle⟩ := fakeExponential_mono (Nat.min_le_right _ cap) fakeExponential_at_cap
  refine ⟨price, by rw [hfee]; exact hprice, ?_, ?_, fun e he => ?_⟩
  · have hclamp : (if blobEnv.excessBlobGas > cap then cap else blobEnv.excessBlobGas) =
        min blobEnv.excessBlobGas cap := by
      split_ifs <;> omega
    simp [LoadEvmConfig.enforceLoadBlobEnv, henv, BlobParams.maxBlobGasPerBlock,
      BlobParams.calcBlobFee, hfee, cap, hclamp, hprice]
  · exact Nat.lt_of_le_of_lt hle (by decide)
  · obtain ⟨price', h', hle'⟩ :=
      fakeExponential_mono (by omega : min e cap ≤ min blobEnv.excessBlobGas cap) hprice
    exact ⟨price', hle', by rw [hfee]; exact h'⟩

/-- `enforceLoadBlobEnv_blob_fee` on the default chain, at the largest `u64` excess. -/
theorem enforceLoadBlobEnv_blob_fee_default :
    let env : EvmEnv := ⟨⟨none, none⟩, ⟨36000000, 7, some ⟨u64Modulus - 1, 0⟩⟩⟩
    let cfg : LoadEvmConfig := ⟨LoadChainSpec.default⟩
    let cap := loadMaxBlobCount * dataGasPerBlob
    LoadChainSpec.fromGenesis defaultGenesis = .ok LoadChainSpec.default ∧
    env.blockEnv.blobExcessGasAndPrice = some ⟨u64Modulus - 1, 0⟩ ∧
    ∃ price,
      fakeExponential (cfg.loadBlobParamsAt 0).minBlobFee (min (u64Modulus - 1) cap)
        loadBlobUpdateFraction = some price ∧
      cfg.enforceLoadBlobEnv 0 env = some
        { cfgEnv :=
            { env.cfgEnv with
              maxBlobsPerTx := some loadMaxBlobsPerTx
              blobBaseFeeUpdateFraction := some loadBlobUpdateFraction }
          blockEnv :=
            { env.blockEnv with
              blobExcessGasAndPrice := some ⟨min (u64Modulus - 1) cap, price⟩ } } ∧
      price < u64Modulus ∧
      ∀ e ≤ u64Modulus - 1, ∃ price' ≤ price,
        fakeExponential (cfg.loadBlobParamsAt 0).minBlobFee (min e cap)
          loadBlobUpdateFraction = some price' :=
  ⟨fromGenesis_defaultGenesis, rfl,
    enforceLoadBlobEnv_blob_fee fromGenesis_defaultGenesis 0 _ ⟨u64Modulus - 1, 0⟩ rfl⟩

/-! ## The environments the configuration builds -/

/-- `NextBlockEnvAttributes`, by the field the configuration reads. -/
structure NextBlockEnvAttributes where
  timestamp : Nat

namespace LoadEvmConfig

/-- What `evm_env`, `next_evm_env` and `evm_env_for_payload` do with the upstream answer:
pass its error on (`?`), or enforce the Load blob environment on it at the block's
timestamp.  `none` where the fee computation would panic. -/
def withLoadBlobEnv {ε : Type} (cfg : LoadEvmConfig) (timestamp : Nat) :
    Except ε EvmEnv → Option (Except ε EvmEnv)
  | .error e => some (.error e)
  | .ok env => (cfg.enforceLoadBlobEnv timestamp env).map .ok

/-- `evm_env`, over the upstream `evm_env`. -/
def evmEnv {ε : Type} (cfg : LoadEvmConfig) (innerEvmEnv : Header → Except ε EvmEnv)
    (header : Header) : Option (Except ε EvmEnv) :=
  cfg.withLoadBlobEnv header.timestamp (innerEvmEnv header)

/-- `next_evm_env`, over the upstream `next_evm_env`. -/
def nextEvmEnv {ε : Type} (cfg : LoadEvmConfig)
    (innerNextEvmEnv : Header → NextBlockEnvAttributes → Except ε EvmEnv) (parent : Header)
    (attributes : NextBlockEnvAttributes) : Option (Except ε EvmEnv) :=
  cfg.withLoadBlobEnv attributes.timestamp (innerNextEvmEnv parent attributes)

/-- `evm_env_for_payload`, over the upstream `evm_env_for_payload`. -/
def evmEnvForPayload {ε : Type} (cfg : LoadEvmConfig)
    (innerEvmEnvForPayload : LoadExecutionData → Except ε EvmEnv) (payload : LoadExecutionData) :
    Option (Except ε EvmEnv) :=
  cfg.withLoadBlobEnv payload.payload.timestamp (innerEvmEnvForPayload payload)

variable (cfg : LoadEvmConfig) (timestamp : Nat) {env : EvmEnv}

/-- `enforce_load_blob_env` on an environment with a blob environment: the excess is
clamped and priced. -/
theorem enforceLoadBlobEnv_of_some {blobEnv : BlobExcessGasAndPrice}
    (hb : env.blockEnv.blobExcessGasAndPrice = some blobEnv) :
    cfg.enforceLoadBlobEnv timestamp env =
      ((cfg.loadBlobParamsAt timestamp).calcBlobFee
        (min blobEnv.excessBlobGas (loadMaxBlobCount * dataGasPerBlob))).map fun price =>
        { cfgEnv := { env.cfgEnv with
            maxBlobsPerTx := some loadMaxBlobsPerTx
            blobBaseFeeUpdateFraction := some loadBlobUpdateFraction }
          blockEnv := { env.blockEnv with
            blobExcessGasAndPrice :=
              some ⟨min blobEnv.excessBlobGas (loadMaxBlobCount * dataGasPerBlob), price⟩ } } := by
  have hclamp : (if blobEnv.excessBlobGas > loadMaxBlobCount * dataGasPerBlob then
      loadMaxBlobCount * dataGasPerBlob else blobEnv.excessBlobGas) =
      min blobEnv.excessBlobGas (loadMaxBlobCount * dataGasPerBlob) := by
    split_ifs <;> omega
  simp only [enforceLoadBlobEnv, hb, BlobParams.maxBlobGasPerBlock, loadBlobParamsAt_maxBlobCount,
    loadBlobParamsAt_maxBlobsPerTx, hclamp]
  cases (cfg.loadBlobParamsAt timestamp).calcBlobFee _ <;> rfl

/-- `enforce_load_blob_env` on an environment without a blob environment: one at zero
excess once Cancun is active, none before. -/
theorem enforceLoadBlobEnv_of_none (hb : env.blockEnv.blobExcessGasAndPrice = none) :
    cfg.enforceLoadBlobEnv timestamp env =
      if cfg.chainSpec.isCancunActiveAtTimestamp timestamp then
        ((cfg.loadBlobParamsAt timestamp).calcBlobFee 0).map fun price =>
          { cfgEnv := { env.cfgEnv with
              maxBlobsPerTx := some loadMaxBlobsPerTx
              blobBaseFeeUpdateFraction := some loadBlobUpdateFraction }
            blockEnv := { env.blockEnv with blobExcessGasAndPrice := some ⟨0, price⟩ } }
      else some { env with cfgEnv := { env.cfgEnv with
        maxBlobsPerTx := some loadMaxBlobsPerTx
        blobBaseFeeUpdateFraction := some loadBlobUpdateFraction } } := by
  simp only [enforceLoadBlobEnv, hb, loadBlobParamsAt_maxBlobsPerTx]
  split_ifs
  · cases (cfg.loadBlobParamsAt timestamp).calcBlobFee 0 <;> rfl
  · rfl

end LoadEvmConfig

/-- **Enforcing the Load blob environment is idempotent.**  On any chain and at any
timestamp, `enforce_load_blob_env` leaves an environment it has already enforced as it
is: the clamped excess is within the clamp, and its price is recomputed to the same
value. -/
theorem enforceLoadBlobEnv_idempotent {cfg : LoadEvmConfig} {timestamp : Nat} {env env' : EvmEnv}
    (h : cfg.enforceLoadBlobEnv timestamp env = some env') :
    cfg.enforceLoadBlobEnv timestamp env' = some env' := by
  cases hb : env.blockEnv.blobExcessGasAndPrice with
  | some blobEnv =>
    rw [cfg.enforceLoadBlobEnv_of_some timestamp hb, Option.map_eq_some'] at h
    obtain ⟨price, hprice, rfl⟩ := h
    rw [cfg.enforceLoadBlobEnv_of_some timestamp rfl]
    simp only [Nat.min_le_right, Nat.min_eq_left, hprice]
    rfl
  | none =>
    rw [cfg.enforceLoadBlobEnv_of_none timestamp hb] at h
    split_ifs at h with hc
    · obtain ⟨price, hprice, rfl⟩ := Option.map_eq_some'.mp h
      rw [cfg.enforceLoadBlobEnv_of_some timestamp rfl]
      simp only [Nat.zero_min, hprice]
      rfl
    · obtain rfl := Option.some.inj h
      simp [LoadEvmConfig.enforceLoadBlobEnv, hb, hc]

/-- On an accepted chain `enforce_load_blob_env` never panics: the excess it installs, the
upstream one or zero, clamped, has a fee below `2^64`. -/
theorem enforceLoadBlobEnv_of_fromGenesis {g : Genesis} {spec : LoadChainSpec}
    (hspec : LoadChainSpec.fromGenesis g = .ok spec) (timestamp : Nat) (env : EvmEnv) :
    let excess := min ((env.blockEnv.blobExcessGasAndPrice.map (·.excessBlobGas)).getD 0)
      (loadMaxBlobCount * dataGasPerBlob)
    ∃ price, fakeExponential 1 excess loadBlobUpdateFraction = some price ∧
      price < u64Modulus ∧
      (LoadEvmConfig.mk spec).enforceLoadBlobEnv timestamp env = some
        { cfgEnv := { env.cfgEnv with
            maxBlobsPerTx := some loadMaxBlobsPerTx
            blobBaseFeeUpdateFraction := some loadBlobUpdateFraction }
          blockEnv := { env.blockEnv with blobExcessGasAndPrice := some ⟨excess, price⟩ } } := by
  intro excess
  obtain ⟨price, hprice, hle⟩ :=
    fakeExponential_mono (Nat.min_le_right _ (loadMaxBlobCount * dataGasPerBlob))
      fakeExponential_at_cap
  have hfee : ∀ e, ((LoadEvmConfig.mk spec).loadBlobParamsAt timestamp).calcBlobFee e =
      fakeExponential 1 e loadBlobUpdateFraction := fun e => by
    rw [BlobParams.calcBlobFee, loadBlobParamsAt_minBlobFee hspec,
      LoadEvmConfig.loadBlobParamsAt_updateFraction]
  refine ⟨price, hprice, Nat.lt_of_le_of_lt hle (by decide), ?_⟩
  cases hb : env.blockEnv.blobExcessGasAndPrice with
  | some blobEnv =>
    simp only [excess, hb, Option.map_some', Option.getD_some] at hprice ⊢
    rw [LoadEvmConfig.enforceLoadBlobEnv_of_some _ _ hb, hfee, hprice]
    rfl
  | none =>
    simp only [excess, hb, Option.map_none', Option.getD_none, Nat.zero_min] at hprice ⊢
    rw [LoadEvmConfig.enforceLoadBlobEnv_of_none _ _ hb,
      if_pos (isCancunActiveAtTimestamp_of_fromGenesis hspec timestamp), hfee, hprice]
    rfl

/-- **No environment the configuration builds panics, and each carries the Load blob
environment.**  On an accepted chain, at every timestamp and whatever the upstream
configuration answers, `evm_env`, `next_evm_env` and `evm_env_for_payload` return the
upstream error unchanged, or the upstream environment with the Load per-transaction cap
and update fraction and a blob environment: the upstream excess clamped to a full Load
block's blob gas, or zero where upstream set none, priced by `fake_exponential` below
`2^64`.  Every other field is upstream's. -/
theorem withLoadBlobEnv_of_fromGenesis {g : Genesis} {spec : LoadChainSpec}
    (hspec : LoadChainSpec.fromGenesis g = .ok spec) {ε : Type} (timestamp : Nat)
    (upstream : Except ε EvmEnv) :
    ∃ result, (LoadEvmConfig.mk spec).withLoadBlobEnv timestamp upstream = some result ∧
      (∀ e, upstream = .error e → result = .error e) ∧
      ∀ env, upstream = .ok env →
        let excess := min ((env.blockEnv.blobExcessGasAndPrice.map (·.excessBlobGas)).getD 0)
          (loadMaxBlobCount * dataGasPerBlob)
        ∃ price, fakeExponential 1 excess loadBlobUpdateFraction = some price ∧
          price < u64Modulus ∧
          result = .ok
            { cfgEnv := { env.cfgEnv with
                maxBlobsPerTx := some loadMaxBlobsPerTx
                blobBaseFeeUpdateFraction := some loadBlobUpdateFraction }
              blockEnv := { env.blockEnv with blobExcessGasAndPrice := some ⟨excess, price⟩ } } := by
  cases upstream with
  | error e => exact ⟨.error e, rfl, fun _ h => h, fun _ h => by cases h⟩
  | ok env =>
    obtain ⟨price, hprice, hlt, henv⟩ := enforceLoadBlobEnv_of_fromGenesis hspec timestamp env
    refine ⟨_, by rw [LoadEvmConfig.withLoadBlobEnv, henv]; rfl, (fun _ h => nomatch h), ?_⟩
    rintro _ ⟨⟩
    exact ⟨price, hprice, hlt, rfl⟩

/-- An upstream environment without a blob environment. -/
def upstreamEnvWithoutBlobs : EvmEnv := ⟨⟨none, none⟩, ⟨36000000, 7, none⟩⟩

/-- What the default chain's configuration makes of it at genesis: the Load knobs, and a
blob environment at zero excess and the minimum price. -/
def loadEnvAtGenesis : EvmEnv :=
  ⟨⟨some loadMaxBlobsPerTx, some loadBlobUpdateFraction⟩, ⟨36000000, 7, some ⟨0, 1⟩⟩⟩

theorem enforceLoadBlobEnv_idempotent_atGenesis :
    (LoadEvmConfig.mk LoadChainSpec.default).enforceLoadBlobEnv 0 upstreamEnvWithoutBlobs =
      some loadEnvAtGenesis ∧
    (LoadEvmConfig.mk LoadChainSpec.default).enforceLoadBlobEnv 0 loadEnvAtGenesis =
      some loadEnvAtGenesis :=
  have h : (LoadEvmConfig.mk LoadChainSpec.default).enforceLoadBlobEnv 0 upstreamEnvWithoutBlobs =
      some loadEnvAtGenesis := by decide
  ⟨h, enforceLoadBlobEnv_idempotent h⟩

theorem withLoadBlobEnv_of_fromGenesis_default :
    LoadChainSpec.fromGenesis defaultGenesis = .ok LoadChainSpec.default ∧
    ∃ result, (LoadEvmConfig.mk LoadChainSpec.default).withLoadBlobEnv 0
        (.ok upstreamEnvWithoutBlobs : Except String EvmEnv) = some result ∧
      (∀ e, (.ok upstreamEnvWithoutBlobs : Except String EvmEnv) = .error e → result = .error e) ∧
      ∀ env, (.ok upstreamEnvWithoutBlobs : Except String EvmEnv) = .ok env →
        let excess := min ((env.blockEnv.blobExcessGasAndPrice.map (·.excessBlobGas)).getD 0)
          (loadMaxBlobCount * dataGasPerBlob)
        ∃ price, fakeExponential 1 excess loadBlobUpdateFraction = some price ∧
          price < u64Modulus ∧
          result = .ok
            { cfgEnv := { env.cfgEnv with
                maxBlobsPerTx := some loadMaxBlobsPerTx
                blobBaseFeeUpdateFraction := some loadBlobUpdateFraction }
              blockEnv := { env.blockEnv with blobExcessGasAndPrice := some ⟨excess, price⟩ } } :=
  ⟨fromGenesis_defaultGenesis,
    withLoadBlobEnv_of_fromGenesis fromGenesis_defaultGenesis 0 (.ok upstreamEnvWithoutBlobs)⟩

end LoadReth
