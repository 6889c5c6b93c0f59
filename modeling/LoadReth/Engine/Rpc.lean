import LoadReth.Engine.Validator
import LoadReth.Engine.Builder

/-!
# The Load Engine API

`engine/rpc.rs`: `LoadEngineApi` wraps reth's `EngineApi` and serves the consensus
client's `engine_*` methods.  In front of the upstream methods it adds checks of its own:

* `engine_newPayloadV3` and `V4` refuse more than `LOAD_MAX_BLOB_COUNT` versioned hashes
  (`validate_blob_request`) and a `prev_randao` other than `LOAD_PREVRANDAO`
  (`ensure_load_prev_randao`) before the payload is handed on;
* `engine_forkchoiceUpdatedV3` refuses attributes without the constant;
* `engine_getBlobsV1`–`V3` refuse an over-cap request before the pool is queried, and
  `V2` and `V3` refuse every request before Osaka.

`newPayloadV1`, `V2` and `forkchoiceUpdatedV1`, `V2` go to the upstream methods
unchecked: there the validator alone keeps the Load rules.

## Main definitions

* `EngineEffect`, `EngineCall`: what a call hands on to the rest of the node, beside its
  answer.
* `EngineApi`, `EngineApi.RunsValidator`: the upstream API by the methods the wrapper
  calls, and the assumption on it: it hands the beacon engine only what the configured
  `LoadEngineValidator` accepted.
* `LoadEngineApi.call`: the RPC module, each method to its handler.
* `payloadJob`: the build job the engine tree starts from a forkchoice update with
  attributes.

## Main results

* `LoadEngineApi.call_effects_keepLoadRules`: every effect of every call keeps the Load
  rules.
* `LoadEngineApi.call_refused_of_blobRequest_tooLarge`: an over-cap `getBlobs` request is
  refused and the pool is not queried.
* `payloadJob_refused`: a build job from attributes without the constant, or not after
  the parent, is refused on its attributes.
* `loadEngineApi_enforces_load_guards`: the guards end to end, under the assumption on
  the upstream API.

## Design notes

* reth's `EngineApi` is not part of this crate: it is a structure of functions, and every
  result holds for each of them that keeps `RunsValidator`.  `EngineApi.reference` is one
  that does.
* Metrics, timing and tracing are left out, and so are the methods forwarded without a
  check that introduce no block (`getPayload*`, `getPayloadBodies*`,
  `getClientVersionV1`, `exchangeCapabilities`).
* `SystemTime::now` and the `is_syncing` closure are read as their answers at the call.
-/

namespace LoadReth

/-! ## Answers, errors and effects -/

/-- `ForkchoiceState`. -/
structure ForkchoiceState where
  headBlockHash : B256
  safeBlockHash : B256
  finalizedBlockHash : B256
  deriving DecidableEq

/-- `PayloadStatusEnum`: the beacon engine's verdict. -/
inductive PayloadStatusEnum
  | valid | invalid | syncing | accepted
  deriving DecidableEq

/-- `PayloadStatus`, the answer to `engine_newPayload`. -/
structure PayloadStatus where
  status : PayloadStatusEnum
  latestValidHash : Option B256
  deriving DecidableEq

/-- `ForkchoiceUpdated`, the answer to `engine_forkchoiceUpdated`: the verdict on the new
head, and the id of the build job it started, if any. -/
structure ForkchoiceUpdated where
  payloadStatus : PayloadStatus
  payloadId : Option Nat
  deriving DecidableEq

/-- `BlobAndProofV1`: a blob and its KZG proof, as bytes. -/
structure BlobAndProofV1 where
  blob : List UInt8
  proof : List UInt8
  deriving DecidableEq

/-- `BlobAndProofV2`: a blob and its cell proofs, as bytes. -/
structure BlobAndProofV2 where
  blob : List UInt8
  proofs : List (List UInt8)
  deriving DecidableEq

/-- `EngineApiError`, by the variants the wrapper raises or passes on. -/
inductive EngineApiError
  /-- `BlobRequestTooLarge { len }`. -/
  | blobRequestTooLarge (len : Nat)
  /-- A validator's or a Load guard's refusal. -/
  | engineObjectValidationError (error : EngineObjectValidationError)
  /-- `Internal`: the pool's blob store failed. -/
  | internal (error : BlobStoreError)
  /-- The beacon engine's own errors, by kind only. -/
  | beaconEngine
  deriving DecidableEq

/-- What a call hands on to the rest of the node. -/
inductive EngineEffect
  /-- A payload handed to the beacon engine for import. -/
  | importPayload (payload : LoadExecutionData)
  /-- A forkchoice update handed to the beacon engine; with attributes, the engine tree
  starts a build job from them. -/
  | forkchoiceUpdated (version : EngineApiMessageVersion) (state : ForkchoiceState)
      (attributes : Option LoadPayloadAttributes)
  /-- A query of the pool's blob store. -/
  | queryBlobs (versionedHashes : List B256)
  deriving DecidableEq

/-- What the Load rules ask of an effect at a chain spec: an imported payload keeps them,
a build job's attributes carry `LOAD_PREVRANDAO`, and a pool query asks for at most
`LOAD_MAX_BLOB_COUNT` blobs. -/
def EngineEffect.KeepsLoadRules (spec : LoadChainSpec) : EngineEffect → Prop
  | .importPayload x => x.LoadRules spec
  | .forkchoiceUpdated _ _ attributes => ∀ attrs ∈ attributes, attrs.prevRandao = loadPrevrandao
  | .queryBlobs versionedHashes => versionedHashes.length ≤ loadMaxBlobCount

/-- A call's answer, and what it handed on, in order. -/
structure EngineCall (α : Type) where
  result : Except EngineApiError α
  effects : List EngineEffect

namespace EngineCall

variable {α β : Type}

/-- An early return: the error, and nothing handed on. -/
def reject (error : EngineApiError) : EngineCall α := ⟨.error error, []⟩

/-- `if let Err(err) = check { return Err(err.into()) }`, then `k`. -/
def guard (check : Except EngineApiError Unit) (k : EngineCall α) : EngineCall α :=
  match check with
  | .error error => reject error
  | .ok () => k

def map (f : α → β) (c : EngineCall α) : EngineCall β := ⟨c.result.map f, c.effects⟩

/-- Refused: an error, and nothing handed on. -/
def Refused (c : EngineCall α) : Prop := c.effects = [] ∧ ∃ error, c.result = .error error

@[simp] theorem effects_map (f : α → β) (c : EngineCall α) : (c.map f).effects = c.effects :=
  rfl

@[simp] theorem mem_effects_guard {check : Except EngineApiError Unit} {k : EngineCall α}
    {e : EngineEffect} : e ∈ (guard check k).effects ↔ check = .ok () ∧ e ∈ k.effects := by
  rcases check with _ | ⟨⟩ <;> simp [guard, reject]

theorem refused_guard_of_error {check : Except EngineApiError Unit} {error : EngineApiError}
    (h : check = .error error) (k : EngineCall α) : (guard check k).Refused := by
  subst h
  exact ⟨rfl, _, rfl⟩

theorem Refused.guard {k : EngineCall α} (hk : k.Refused) (check : Except EngineApiError Unit) :
    (EngineCall.guard check k).Refused := by
  rcases check with error | ⟨⟩
  · exact refused_guard_of_error rfl k
  · exact hk

theorem Refused.map {c : EngineCall α} (hc : c.Refused) (f : α → β) : (c.map f).Refused := by
  obtain ⟨he, error, hr⟩ := hc
  exact ⟨he, error, by simp [EngineCall.map, hr, Except.map]⟩

end EngineCall

/-! ## The upstream Engine API and the assumption on it -/

/-- reth's `EngineApi`, by the methods the wrapper calls: its chain spec, and what
`new_payload_v*` and `fork_choice_updated_v*` answer and hand on. -/
structure EngineApi where
  chainSpec : LoadChainSpec
  newPayload : EngineApiMessageVersion → LoadExecutionData → EngineCall PayloadStatus
  forkChoiceUpdated : EngineApiMessageVersion → ForkchoiceState → Option LoadPayloadAttributes →
    EngineCall ForkchoiceUpdated

/-- The assumption on the upstream API: it runs the configured validator before it hands
anything to the beacon engine. -/
structure EngineApi.RunsValidator (inner : EngineApi) (v : LoadEngineValidator)
    (upstream : UpstreamVersionCheck) : Prop where
  /-- A payload goes to the beacon engine only once `validate_version_specific_fields`
  accepted it. -/
  newPayload : ∀ version x e, e ∈ (inner.newPayload version x).effects →
    e = .importPayload x ∧
      v.validateVersionSpecificFields upstream version (.executionPayload x) = .ok ()
  /-- A forkchoice update goes to the beacon engine with the attributes it was given once
  `ensure_well_formed_attributes` accepted them, or without attributes. -/
  forkChoiceUpdated : ∀ version state attributes e,
    e ∈ (inner.forkChoiceUpdated version state attributes).effects →
      ∃ forwarded, e = .forkchoiceUpdated version state forwarded ∧
        ∀ attrs ∈ forwarded,
          attrs ∈ attributes ∧ v.ensureWellFormedAttributes upstream version attrs = .ok ()

/-- The beacon engine's answers (`BeaconConsensusEngineHandle`). -/
structure BeaconEngineHandle where
  newPayload : LoadExecutionData → Except EngineApiError PayloadStatus
  forkChoiceUpdated : ForkchoiceState → Option LoadPayloadAttributes → EngineApiMessageVersion →
    Except EngineApiError ForkchoiceUpdated

/-- An upstream API that keeps the assumption: the validator's check, and on success the
call to the beacon engine. -/
def EngineApi.reference (spec : LoadChainSpec) (v : LoadEngineValidator)
    (upstream : UpstreamVersionCheck) (handle : BeaconEngineHandle) : EngineApi where
  chainSpec := spec
  newPayload version payload :=
    .guard ((v.validateVersionSpecificFields upstream version (.executionPayload payload)).mapError
        .engineObjectValidationError)
      ⟨handle.newPayload payload, [.importPayload payload]⟩
  forkChoiceUpdated version state attributes :=
    .guard (match attributes with
        | some attrs =>
          (v.ensureWellFormedAttributes upstream version attrs).mapError .engineObjectValidationError
        | none => .ok ())
      ⟨handle.forkChoiceUpdated state attributes version,
        [.forkchoiceUpdated version state attributes]⟩

@[simp] theorem Except.mapError_eq_ok_iff {ε ε' α : Type} {f : ε → ε'} {x : Except ε α} {a : α} :
    x.mapError f = .ok a ↔ x = .ok a := by
  cases x <;> simp [Except.mapError]

theorem EngineApi.reference_runsValidator (spec : LoadChainSpec) (v : LoadEngineValidator)
    (upstream : UpstreamVersionCheck) (handle : BeaconEngineHandle) :
    (EngineApi.reference spec v upstream handle).RunsValidator v upstream where
  newPayload version x e he := by
    simp only [reference, EngineCall.mem_effects_guard, Except.mapError_eq_ok_iff,
      List.mem_singleton] at he
    exact ⟨he.2, he.1⟩
  forkChoiceUpdated version state attributes e he := by
    simp only [reference, EngineCall.mem_effects_guard, List.mem_singleton] at he
    refine ⟨attributes, he.2, fun attrs hattrs => ⟨hattrs, ?_⟩⟩
    simpa [Option.mem_def.mp hattrs] using he.1

namespace EngineApi.RunsValidator

variable {inner : EngineApi} {v : LoadEngineValidator} {upstream : UpstreamVersionCheck}
  {e : EngineEffect}

theorem keepsLoadRules_of_mem_newPayload (h : inner.RunsValidator v upstream)
    {version : EngineApiMessageVersion} {x : LoadExecutionData}
    (he : e ∈ (inner.newPayload version x).effects) : e.KeepsLoadRules v.chainSpec := by
  obtain ⟨rfl, hv⟩ := h.newPayload version x e he
  exact ((v.validateVersionSpecificFields_payload_eq_ok_iff upstream version x).mp hv).1

theorem keepsLoadRules_of_mem_forkChoiceUpdated (h : inner.RunsValidator v upstream)
    {version : EngineApiMessageVersion} {state : ForkchoiceState}
    {attributes : Option LoadPayloadAttributes}
    (he : e ∈ (inner.forkChoiceUpdated version state attributes).effects) :
    e.KeepsLoadRules v.chainSpec := by
  obtain ⟨forwarded, rfl, hv⟩ := h.forkChoiceUpdated version state attributes e he
  intro attrs hattrs
  have hok := (hv attrs hattrs).2
  rw [LoadEngineValidator.ensureWellFormedAttributes_eq,
    LoadEngineValidator.validateVersionSpecificFields_attributes_eq_ok_iff] at hok
  exact hok.1

end EngineApi.RunsValidator

/-! ## The wrapper -/

/-- `validate_blob_request`. -/
def validateBlobRequest (versionedHashes : List B256) : Except EngineApiError Unit :=
  if versionedHashes.length > loadMaxBlobCount then
    .error (.blobRequestTooLarge versionedHashes.length)
  else .ok ()

/-- `ensure_load_prev_randao`. -/
def ensureLoadPrevRandao (prevRandao : B256) : Except EngineApiError Unit :=
  if prevRandao = loadPrevrandao then .ok ()
  else .error (.engineObjectValidationError (.invalidParams loadPrevRandaoMessage))

/-- `payload_v3_prev_randao`. -/
def payloadV3PrevRandao (payload : ExecutionPayload) : B256 := payload.prevRandao

@[simp] theorem validateBlobRequest_eq_ok_iff {versionedHashes : List B256} :
    validateBlobRequest versionedHashes = .ok () ↔ versionedHashes.length ≤ loadMaxBlobCount := by
  simp [validateBlobRequest]

@[simp] theorem ensureLoadPrevRandao_eq_ok_iff {prevRandao : B256} :
    ensureLoadPrevRandao prevRandao = .ok () ↔ prevRandao = loadPrevrandao := by
  by_cases h : prevRandao = loadPrevrandao <;> simp [ensureLoadPrevRandao, h]

/-- The pool's blob-store queries (`get_blobs_for_versioned_hashes_v1`–`v3`), by their
answers. -/
structure TransactionPool where
  getBlobsForVersionedHashesV1 : List B256 → Except BlobStoreError (List (Option BlobAndProofV1))
  getBlobsForVersionedHashesV2 : List B256 → Except BlobStoreError (Option (List BlobAndProofV2))
  getBlobsForVersionedHashesV3 :
    List B256 → Except BlobStoreError (List (Option BlobAndProofV2))

/-- `LoadEngineApi`: the upstream API, the pool, and what `is_syncing` answers. -/
structure LoadEngineApi where
  inner : EngineApi
  pool : TransactionPool
  isSyncing : Bool

/-- A query of the pool: its answer, a store failure reported as `Internal`. -/
def queryPool {α : Type} (versionedHashes : List B256) (answer : Except BlobStoreError α) :
    EngineCall α :=
  ⟨answer.mapError .internal, [.queryBlobs versionedHashes]⟩

theorem keepsLoadRules_of_mem_queryPool {α : Type} {spec : LoadChainSpec}
    {versionedHashes : List B256} {answer : Except BlobStoreError α} {e : EngineEffect}
    (hcheck : validateBlobRequest versionedHashes = .ok ())
    (he : e ∈ (queryPool versionedHashes answer).effects) : e.KeepsLoadRules spec := by
  simp only [queryPool, List.mem_singleton] at he
  subst he
  exact validateBlobRequest_eq_ok_iff.mp hcheck

namespace LoadEngineApi

variable (api : LoadEngineApi)

/-- The Osaka gate of `get_blobs_v2` and `get_blobs_v3`, at the wall-clock time `now`. -/
def ensureOsakaActive (now : Nat) : Except EngineApiError Unit :=
  if api.inner.chainSpec.isOsakaActiveAtTimestamp now then .ok ()
  else .error (.engineObjectValidationError .unsupportedFork)

def newPayloadV1 (payload : ExecutionPayload) : EngineCall PayloadStatus :=
  api.inner.newPayload .v1 (.ofPayload payload)

def newPayloadV2 (payload : ExecutionPayload) : EngineCall PayloadStatus :=
  api.inner.newPayload .v2 (.ofPayload payload)

def newPayloadV3 (payload : ExecutionPayload) (versionedHashes : List B256)
    (parentBeaconBlockRoot : B256) : EngineCall PayloadStatus :=
  .guard (validateBlobRequest versionedHashes) <|
  .guard (ensureLoadPrevRandao (payloadV3PrevRandao payload)) <|
  api.inner.newPayload .v3 (.v3 payload versionedHashes parentBeaconBlockRoot)

def newPayloadV4 (payload : ExecutionPayload) (versionedHashes : List B256)
    (parentBeaconBlockRoot : B256) (executionRequests : RequestsOrHash) :
    EngineCall PayloadStatus :=
  .guard (validateBlobRequest versionedHashes) <|
  .guard (ensureLoadPrevRandao (payloadV3PrevRandao payload)) <|
  api.inner.newPayload .v4 (.v4 payload versionedHashes parentBeaconBlockRoot executionRequests)

def forkChoiceUpdatedV1 (state : ForkchoiceState) (attributes : Option LoadPayloadAttributes) :
    EngineCall ForkchoiceUpdated :=
  api.inner.forkChoiceUpdated .v1 state attributes

def forkChoiceUpdatedV2 (state : ForkchoiceState) (attributes : Option LoadPayloadAttributes) :
    EngineCall ForkchoiceUpdated :=
  api.inner.forkChoiceUpdated .v2 state attributes

def forkChoiceUpdatedV3 (state : ForkchoiceState) (attributes : Option LoadPayloadAttributes) :
    EngineCall ForkchoiceUpdated :=
  .guard (match attributes with
      | some attrs => ensureLoadPrevRandao attrs.prevRandao
      | none => .ok ()) <|
  api.inner.forkChoiceUpdated .v3 state attributes

def getBlobsV1 (versionedHashes : List B256) : EngineCall (List (Option BlobAndProofV1)) :=
  .guard (validateBlobRequest versionedHashes) <|
  queryPool versionedHashes (api.pool.getBlobsForVersionedHashesV1 versionedHashes)

def getBlobsV2 (now : Nat) (versionedHashes : List B256) :
    EngineCall (Option (List BlobAndProofV2)) :=
  .guard (api.ensureOsakaActive now) <|
  .guard (validateBlobRequest versionedHashes) <|
  queryPool versionedHashes (api.pool.getBlobsForVersionedHashesV2 versionedHashes)

def getBlobsV3 (now : Nat) (versionedHashes : List B256) :
    EngineCall (Option (List (Option BlobAndProofV2))) :=
  .guard (api.ensureOsakaActive now) <|
  .guard (validateBlobRequest versionedHashes) <|
  if api.isSyncing then ⟨.ok none, []⟩
  else (queryPool versionedHashes (api.pool.getBlobsForVersionedHashesV3 versionedHashes)).map some

end LoadEngineApi

/-- The methods the wrapper serves with a Load check, or that can bring a block in, with
their parameters. -/
inductive EngineRequest
  | newPayloadV1 (payload : ExecutionPayload)
  | newPayloadV2 (payload : ExecutionPayload)
  | newPayloadV3 (payload : ExecutionPayload) (versionedHashes : List B256)
      (parentBeaconBlockRoot : B256)
  | newPayloadV4 (payload : ExecutionPayload) (versionedHashes : List B256)
      (parentBeaconBlockRoot : B256) (executionRequests : RequestsOrHash)
  | forkChoiceUpdatedV1 (state : ForkchoiceState) (attributes : Option LoadPayloadAttributes)
  | forkChoiceUpdatedV2 (state : ForkchoiceState) (attributes : Option LoadPayloadAttributes)
  | forkChoiceUpdatedV3 (state : ForkchoiceState) (attributes : Option LoadPayloadAttributes)
  | getBlobsV1 (versionedHashes : List B256)
  | getBlobsV2 (versionedHashes : List B256)
  | getBlobsV3 (versionedHashes : List B256)
  deriving DecidableEq

/-- The hashes a `getBlobs` request asks for. -/
def EngineRequest.blobRequest : EngineRequest → Option (List B256)
  | .getBlobsV1 versionedHashes | .getBlobsV2 versionedHashes | .getBlobsV3 versionedHashes =>
    some versionedHashes
  | _ => none

/-- The answers, one constructor per method's result type. -/
inductive EngineResponse
  | payloadStatus (status : PayloadStatus)
  | forkchoiceUpdated (updated : ForkchoiceUpdated)
  | blobsV1 (blobs : List (Option BlobAndProofV1))
  | blobsV2 (blobs : Option (List BlobAndProofV2))
  | blobsV3 (blobs : Option (List (Option BlobAndProofV2)))
  deriving DecidableEq

namespace LoadEngineApi

variable (api : LoadEngineApi)

/-- The RPC module (`into_rpc_module`): each method to its handler, at wall-clock time
`now`. -/
def call (now : Nat) : EngineRequest → EngineCall EngineResponse
  | .newPayloadV1 payload => (api.newPayloadV1 payload).map .payloadStatus
  | .newPayloadV2 payload => (api.newPayloadV2 payload).map .payloadStatus
  | .newPayloadV3 payload versionedHashes root =>
    (api.newPayloadV3 payload versionedHashes root).map .payloadStatus
  | .newPayloadV4 payload versionedHashes root requests =>
    (api.newPayloadV4 payload versionedHashes root requests).map .payloadStatus
  | .forkChoiceUpdatedV1 state attributes =>
    (api.forkChoiceUpdatedV1 state attributes).map .forkchoiceUpdated
  | .forkChoiceUpdatedV2 state attributes =>
    (api.forkChoiceUpdatedV2 state attributes).map .forkchoiceUpdated
  | .forkChoiceUpdatedV3 state attributes =>
    (api.forkChoiceUpdatedV3 state attributes).map .forkchoiceUpdated
  | .getBlobsV1 versionedHashes => (api.getBlobsV1 versionedHashes).map .blobsV1
  | .getBlobsV2 versionedHashes => (api.getBlobsV2 now versionedHashes).map .blobsV2
  | .getBlobsV3 versionedHashes => (api.getBlobsV3 now versionedHashes).map .blobsV3

variable {api} {v : LoadEngineValidator} {upstream : UpstreamVersionCheck}

/-- **Nothing leaves the Engine API against the Load rules.**  Whatever the method and
its arguments, every payload a call hands the beacon engine keeps the Load rules at the
validator's chain spec, every build job's attributes carry `LOAD_PREVRANDAO`, and every
pool query asks for at most `LOAD_MAX_BLOB_COUNT` blobs. -/
theorem call_effects_keepLoadRules (h : api.inner.RunsValidator v upstream) (now : Nat)
    (request : EngineRequest) :
    ∀ e ∈ (api.call now request).effects, e.KeepsLoadRules v.chainSpec := by
  intro e he
  cases request <;>
    simp only [call, EngineCall.effects_map, newPayloadV1, newPayloadV2, newPayloadV3,
      newPayloadV4, forkChoiceUpdatedV1, forkChoiceUpdatedV2, forkChoiceUpdatedV3, getBlobsV1,
      getBlobsV2, getBlobsV3, EngineCall.mem_effects_guard] at he
  case newPayloadV1 | newPayloadV2 => exact h.keepsLoadRules_of_mem_newPayload he
  case newPayloadV3 | newPayloadV4 => exact h.keepsLoadRules_of_mem_newPayload he.2.2
  case forkChoiceUpdatedV1 | forkChoiceUpdatedV2 =>
    exact h.keepsLoadRules_of_mem_forkChoiceUpdated he
  case forkChoiceUpdatedV3 => exact h.keepsLoadRules_of_mem_forkChoiceUpdated he.2
  case getBlobsV1 => exact keepsLoadRules_of_mem_queryPool he.1 he.2
  case getBlobsV2 => exact keepsLoadRules_of_mem_queryPool he.2.1 he.2.2
  case getBlobsV3 =>
    obtain ⟨-, hcheck, he⟩ := he
    split at he
    · simp at he
    · rw [EngineCall.effects_map] at he
      exact keepsLoadRules_of_mem_queryPool hcheck he

/-- **An over-cap `getBlobs` request never reaches the pool.**  It is refused, by the
blob cap or before it by the Osaka gate, and the call hands nothing on. -/
theorem call_refused_of_blobRequest_tooLarge {request : EngineRequest}
    {versionedHashes : List B256} (hreq : request.blobRequest = some versionedHashes)
    (hlen : loadMaxBlobCount < versionedHashes.length) (now : Nat) :
    (api.call now request).Refused := by
  have hcheck : validateBlobRequest versionedHashes =
      .error (.blobRequestTooLarge versionedHashes.length) := by
    simp [validateBlobRequest, hlen]
  cases request <;> simp only [EngineRequest.blobRequest, Option.some.injEq, reduceCtorEq] at hreq
  all_goals subst hreq
  case getBlobsV1 => exact (EngineCall.refused_guard_of_error hcheck _).map _
  case getBlobsV2 | getBlobsV3 => exact ((EngineCall.refused_guard_of_error hcheck _).guard _).map _

end LoadEngineApi

/-! ## Build jobs -/

/-- The payload-build job the engine tree starts from a forkchoice update with attributes
on top of `head`: `LoadPayloadBuilderAttributes::try_new`, then the payload builder's
`default_load_payload` on the head's header. -/
def payloadJob (spec : LoadChainSpec) (builder : UpstreamBuilder) (head : B256)
    (parentTimestamp : Nat) (attributes : LoadPayloadAttributes)
    (bestPayload : Option LoadBuiltPayload) (cancelledAt : Option Nat)
    (bestTxs : BestTransactionsAttributes → List Candidate) :
    Except LoadPayloadAttributesError (Option (Except PayloadBuilderError BuildOutcome)) := do
  let attrs ← LoadPayloadBuilderAttributes.tryNew head attributes
  return defaultLoadPayload spec builder parentTimestamp attrs bestPayload cancelledAt bestTxs

section PayloadJob

variable {spec : LoadChainSpec} {builder : UpstreamBuilder} {head : B256} {parentTimestamp : Nat}
  {attributes : LoadPayloadAttributes} {bestPayload : Option LoadBuiltPayload}
  {cancelledAt : Option Nat} {bestTxs : BestTransactionsAttributes → List Candidate}

/-- **A build job from bad attributes is refused on them.**  Attributes without
`LOAD_PREVRANDAO` fail `try_new`; attributes not after the parent fail
`validate_payload_attributes`, before the builder asks for anything. -/
theorem payloadJob_refused
    (h : attributes.prevRandao ≠ loadPrevrandao ∨ attributes.timestamp ≤ parentTimestamp) :
    ∃ error,
      payloadJob spec builder head parentTimestamp attributes bestPayload cancelledAt bestTxs =
          .error error ∨
        payloadJob spec builder head parentTimestamp attributes bestPayload cancelledAt bestTxs =
          .ok (some (.error (.attributes error))) := by
  by_cases hr : attributes.prevRandao = loadPrevrandao
  · have ht := h.resolve_left (not_not.mpr hr)
    refine ⟨.invalidTimestamp
      s!"timestamp {attributes.timestamp} must be greater than parent {parentTimestamp}", .inr ?_⟩
    simp [payloadJob, LoadPayloadBuilderAttributes.tryNew, validatePrevRandao,
      ethPayloadBuilderAttributes, hr, defaultLoadPayload, validatePayloadAttributes, ht, bind,
      Except.bind, pure, Except.pure]
  · exact ⟨.invalidPrevRandao loadPrevRandaoMessage, .inl (by
      simp [payloadJob, LoadPayloadBuilderAttributes.tryNew, validatePrevRandao,
        ethPayloadBuilderAttributes, hr, bind, Except.bind])⟩

end PayloadJob

/-- The local miner's attributes pass every Load check on the way to a build job: the
wrapper's, the validator's, `try_new` and `validate_payload_attributes` on any parent
before them. -/
theorem localPayloadAttributes_pass (v : LoadEngineValidator) (spec : LoadChainSpec)
    (random head : B256) {timestamp parentTimestamp : Nat} (h : parentTimestamp < timestamp) :
    ensureLoadPrevRandao (LoadLocalPayloadAttributesBuilder.build spec random timestamp).prevRandao =
        .ok () ∧
      v.validateLoadFields
          (.payloadAttributes (LoadLocalPayloadAttributesBuilder.build spec random timestamp)) =
        .ok () ∧
      ∃ attrs, LoadPayloadBuilderAttributes.tryNew head
          (LoadLocalPayloadAttributesBuilder.build spec random timestamp) = .ok attrs ∧
        validatePayloadAttributes parentTimestamp attrs = .ok () :=
  ⟨ensureLoadPrevRandao_eq_ok_iff.mpr rfl, (v.validateLoadFields_attributes_eq_ok_iff _).mpr rfl,
    _, tryNew_eq_ok_iff.mpr ⟨rfl, rfl⟩, validatePayloadAttributes_eq_ok_iff.mpr ⟨rfl, h⟩⟩

/-! ## The guards, end to end -/

/-- **Every Engine API entry point enforces the Load guards.**  If the upstream API runs
the configured validator before it forwards anything, then whatever method is called
with whatever arguments: no payload is handed on for import that breaks the Load rules,
and no build job's attributes lack `LOAD_PREVRANDAO`; a `getBlobs` request for more than
`LOAD_MAX_BLOB_COUNT` blobs is refused before the pool is queried; a build job from
attributes without the constant, or not after the parent, is refused by `try_new` or by
`validate_payload_attributes`; and the local miner's attributes pass each of these
checks. -/
theorem loadEngineApi_enforces_load_guards {api : LoadEngineApi} {v : LoadEngineValidator}
    {upstream : UpstreamVersionCheck} (hinner : api.inner.RunsValidator v upstream) :
    (∀ now request, ∀ e ∈ (api.call now request).effects, e.KeepsLoadRules v.chainSpec) ∧
    (∀ now request versionedHashes, request.blobRequest = some versionedHashes →
      loadMaxBlobCount < versionedHashes.length → (api.call now request).Refused) ∧
    (∀ spec builder head parentTimestamp (attributes : LoadPayloadAttributes) bestPayload
        cancelledAt bestTxs,
      attributes.prevRandao ≠ loadPrevrandao ∨ attributes.timestamp ≤ parentTimestamp →
      ∃ error,
        payloadJob spec builder head parentTimestamp attributes bestPayload cancelledAt bestTxs =
            .error error ∨
          payloadJob spec builder head parentTimestamp attributes bestPayload cancelledAt bestTxs =
            .ok (some (.error (.attributes error)))) ∧
    (∀ spec random head timestamp parentTimestamp, parentTimestamp < timestamp →
      ensureLoadPrevRandao (LoadLocalPayloadAttributesBuilder.build spec random timestamp).prevRandao =
          .ok () ∧
        v.validateLoadFields
            (.payloadAttributes (LoadLocalPayloadAttributesBuilder.build spec random timestamp)) =
          .ok () ∧
        ∃ attrs, LoadPayloadBuilderAttributes.tryNew head
            (LoadLocalPayloadAttributesBuilder.build spec random timestamp) = .ok attrs ∧
          validatePayloadAttributes parentTimestamp attrs = .ok ()) :=
  ⟨LoadEngineApi.call_effects_keepLoadRules hinner,
    fun now _ _ hreq hlen => LoadEngineApi.call_refused_of_blobRequest_tooLarge hreq hlen now,
    fun _ _ _ _ _ _ _ _ h => payloadJob_refused h,
    fun spec random head _ _ h => localPayloadAttributes_pass v spec random head h⟩

/-- Upstream version checks that accept everything. -/
def acceptingUpstream : UpstreamVersionCheck := fun _ _ _ => .ok ()

/-- A beacon engine that answers every call `VALID`. -/
def validatingHandle : BeaconEngineHandle where
  newPayload _ := .ok ⟨.valid, none⟩
  forkChoiceUpdated _ _ _ := .ok ⟨⟨.valid, none⟩, none⟩

/-- A pool that holds no blob. -/
def emptyPool : TransactionPool where
  getBlobsForVersionedHashesV1 versionedHashes := .ok (versionedHashes.map fun _ => none)
  getBlobsForVersionedHashesV2 _ := .ok none
  getBlobsForVersionedHashesV3 versionedHashes := .ok (versionedHashes.map fun _ => none)

/-- The wrapper over the reference upstream API, at the default chain spec. -/
def defaultLoadEngineApi : LoadEngineApi where
  inner := EngineApi.reference LoadChainSpec.default ⟨LoadChainSpec.default⟩ acceptingUpstream
    validatingHandle
  pool := emptyPool
  isSyncing := false

theorem loadEngineApi_enforces_load_guards_default :
    defaultLoadEngineApi.inner.RunsValidator ⟨LoadChainSpec.default⟩ acceptingUpstream ∧
    (∀ now request, ∀ e ∈ (defaultLoadEngineApi.call now request).effects,
      e.KeepsLoadRules LoadChainSpec.default) ∧
    (∀ now request versionedHashes, request.blobRequest = some versionedHashes →
      loadMaxBlobCount < versionedHashes.length →
        (defaultLoadEngineApi.call now request).Refused) ∧
    (∀ spec builder head parentTimestamp (attributes : LoadPayloadAttributes) bestPayload
        cancelledAt bestTxs,
      attributes.prevRandao ≠ loadPrevrandao ∨ attributes.timestamp ≤ parentTimestamp →
      ∃ error,
        payloadJob spec builder head parentTimestamp attributes bestPayload cancelledAt bestTxs =
            .error error ∨
          payloadJob spec builder head parentTimestamp attributes bestPayload cancelledAt bestTxs =
            .ok (some (.error (.attributes error)))) ∧
    (∀ spec random head timestamp parentTimestamp, parentTimestamp < timestamp →
      ensureLoadPrevRandao (LoadLocalPayloadAttributesBuilder.build spec random timestamp).prevRandao =
          .ok () ∧
        LoadEngineValidator.validateLoadFields ⟨LoadChainSpec.default⟩
            (.payloadAttributes (LoadLocalPayloadAttributesBuilder.build spec random timestamp)) =
          .ok () ∧
        ∃ attrs, LoadPayloadBuilderAttributes.tryNew head
            (LoadLocalPayloadAttributesBuilder.build spec random timestamp) = .ok attrs ∧
          validatePayloadAttributes parentTimestamp attrs = .ok ()) :=
  have hinner := EngineApi.reference_runsValidator LoadChainSpec.default ⟨LoadChainSpec.default⟩
    acceptingUpstream validatingHandle
  ⟨hinner, loadEngineApi_enforces_load_guards hinner⟩

end LoadReth
