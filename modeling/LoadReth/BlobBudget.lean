import LoadReth.Engine.Builder
import LoadReth.Pool

/-!
# The blob budget across the components

Five components of the crate each carry a blob budget: the chain spec's blob parameters,
the payload builder's cap (`compute_load_blob_cap`), the EVM configuration
(`load_blob_params_at`), the Engine API and the outbound guards (`LOAD_MAX_BLOB_COUNT`),
and the pool's blob cache (sized from the target blob count).  `from_genesis` installs the
Load parameters for Cancun and Prague, but keeps upstream's Osaka parameters, and it does
not refuse a genesis that schedules Osaka.  So the components agree at every timestamp
before Osaka, and part ways once Osaka is active: the chain spec then answers with
`BlobParams::osaka()`, which the builder and the pool follow while the EVM configuration
and the validators keep the Load budget.

## Main results

* `blob_budget_of_fromGenesis`: each component's budget on an accepted chain, at every
  timestamp.
-/

namespace LoadReth

/-- **The blob budget of an accepted chain, at every timestamp.**  The chain spec's blob
parameters are the Load ones until Osaka is active and `BlobParams::osaka()` from then on;
the payload builder's cap and the pool's target follow them; the EVM configuration keeps
`LOAD_MAX_BLOB_COUNT` throughout. -/
theorem blob_budget_of_fromGenesis {g : Genesis} {spec : LoadChainSpec}
    (hspec : LoadChainSpec.fromGenesis g = .ok spec) (timestamp : Nat) :
    let params := if spec.isOsakaActiveAtTimestamp timestamp then BlobParams.osaka
      else loadBlobParams
    spec.blobParamsAtTimestamp timestamp = some params ∧
    computeLoadBlobCap spec timestamp = params.maxBlobCount ∧
    (LoadPoolBuilder.blobParams spec timestamp).targetBlobCount = params.targetBlobCount ∧
    ((LoadEvmConfig.mk spec).loadBlobParamsAt timestamp).maxBlobCount = loadMaxBlobCount := by
  intro params
  have hparams := blobParamsAtTimestamp_of_fromGenesis hspec timestamp
  refine ⟨hparams, ?_, by simp [LoadPoolBuilder.blobParams, hparams], rfl⟩
  simp only [computeLoadBlobCap, hparams, Option.map_some', Option.getD_some, params]
  split_ifs <;> rfl

/-- On a chain whose genesis schedules Osaka at genesis, which `from_genesis` accepts, the
chain spec answers with `BlobParams::osaka()` from timestamp zero on: the builder caps
blocks at nine blobs and the pool sizes its cache for a target of six, while the EVM
configuration keeps `LOAD_MAX_BLOB_COUNT`. -/
theorem osaka_blob_budget_diverges :
    LoadChainSpec.fromGenesis osakaGenesis = .ok LoadChainSpec.osakaAtGenesis ∧
    LoadChainSpec.osakaAtGenesis.isCancunActiveAtTimestamp 0 = true ∧
    LoadChainSpec.osakaAtGenesis.blobParamsAtTimestamp 0 = some BlobParams.osaka ∧
    computeLoadBlobCap LoadChainSpec.osakaAtGenesis 0 = 9 ∧
    ((LoadEvmConfig.mk LoadChainSpec.osakaAtGenesis).loadBlobParamsAt 0).maxBlobCount =
      loadMaxBlobCount ∧
    LoadPoolBuilder.calculatedBlobCache (LoadPoolBuilder.blobParams LoadChainSpec.osakaAtGenesis 0)
      = 384 :=
  ⟨rfl, rfl, rfl, rfl, rfl, by decide⟩

theorem blob_budget_of_osakaGenesis :
    LoadChainSpec.fromGenesis osakaGenesis = .ok LoadChainSpec.osakaAtGenesis ∧
    let spec := LoadChainSpec.osakaAtGenesis
    let params := if spec.isOsakaActiveAtTimestamp 0 then BlobParams.osaka else loadBlobParams
    spec.blobParamsAtTimestamp 0 = some params ∧
    computeLoadBlobCap spec 0 = params.maxBlobCount ∧
    (LoadPoolBuilder.blobParams spec 0).targetBlobCount = params.targetBlobCount ∧
    ((LoadEvmConfig.mk spec).loadBlobParamsAt 0).maxBlobCount = loadMaxBlobCount :=
  ⟨fromGenesis_osakaGenesis, blob_budget_of_fromGenesis fromGenesis_osakaGenesis 0⟩

end LoadReth
