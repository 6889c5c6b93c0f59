import LoadReth.Primitives

/-!
# The Load chain specification

`LoadChainSpec::from_genesis` (`chainspec/mod.rs`) is the network's parameter authority:
it checks a genesis description against the merge-at-genesis policy, fills in the
activation points the description leaves open, builds the upstream `ChainSpec` from the
result and replaces the blob-parameter schedule with the Load one.

## Main definitions

* `validateGenesis` — the guardrails, step by step as the source performs them: the
  first violated rule is the error reported, and an absent activation point becomes `0`.
* `LoadChainSpec.fromGenesis` — validation, then the upstream `ChainSpec` with the Load
  blob schedule.
* `ChainSpec.blobParamsAtTimestamp` — the upstream schedule lookup every component
  reads the blob budget through.
* `Genesis.Accepted`, `Genesis.normalize` — the policy and the normal form, stated
  declaratively; `fromGenesis_eq_ok_iff` is the refinement between the two readings.

## Main results

* `fromGenesis_eq_ok_iff`: `from_genesis` accepts exactly the merge-at-genesis
  descriptions, and builds the specification of their normal form.
* `fromGenesis_genesis`: the genesis a specification carries reloads to the same
  specification.
* `blobParamsAtTimestamp_of_fromGenesis`: an accepted chain's blob schedule.

## Design notes

The upstream `ChainSpec` is modelled by what this crate reads of it: its chain id, the
genesis it was built from (the timestamp forks are read off the genesis configuration,
as the upstream conversion does) and its blob schedule.  The genesis blob schedule is
taken already in its typed form; `from_genesis` replaces it wholesale, so nothing below
depends on how it was parsed.  Fields of `Genesis` and `ChainConfig` that no modelled
function reads (allocations, extra data, gas limit, block-number forks after Gray
Glacier) are left out.
-/

namespace LoadReth

/-- A chain's blob-parameter schedule (`BlobScheduleBlobParams`): the parameters of the
three blob forks, and the blob-parameter-only forks with their activation timestamps. -/
structure BlobScheduleBlobParams where
  cancun : BlobParams
  prague : BlobParams
  osaka : BlobParams
  scheduled : List (Nat × BlobParams)
  deriving DecidableEq

/-- `active_scheduled_params_at_timestamp`: the latest scheduled entry already active. -/
def BlobScheduleBlobParams.activeScheduledParamsAtTimestamp (s : BlobScheduleBlobParams)
    (timestamp : Nat) : Option BlobParams :=
  (s.scheduled.reverse.find? fun e => e.1 ≤ timestamp).map Prod.snd

/-- `BlobScheduleBlobParams::default()`: the mainnet parameters, which a genesis without
a blob schedule gets. -/
def BlobScheduleBlobParams.mainnet : BlobScheduleBlobParams where
  cancun := BlobParams.cancun
  prague := BlobParams.prague
  osaka := BlobParams.osaka
  scheduled := []

/-- The schedule `from_genesis` installs: the Load parameters for Cancun and Prague, the
upstream Osaka parameters, and no blob-parameter-only forks. -/
def loadBlobScheduleBlobParams : BlobScheduleBlobParams where
  cancun := loadBlobParams
  prague := loadBlobParams
  osaka := BlobParams.osaka
  scheduled := []

/-- The fields of a genesis `ChainConfig` that the guardrails and the fork schedule read. -/
structure ChainConfig where
  chainId : Nat
  homesteadBlock : Option Nat
  daoForkBlock : Option Nat
  eip150Block : Option Nat
  eip155Block : Option Nat
  eip158Block : Option Nat
  byzantiumBlock : Option Nat
  constantinopleBlock : Option Nat
  petersburgBlock : Option Nat
  istanbulBlock : Option Nat
  muirGlacierBlock : Option Nat
  berlinBlock : Option Nat
  londonBlock : Option Nat
  arrowGlacierBlock : Option Nat
  grayGlacierBlock : Option Nat
  mergeNetsplitBlock : Option Nat
  shanghaiTime : Option Nat
  cancunTime : Option Nat
  pragueTime : Option Nat
  osakaTime : Option Nat
  terminalTotalDifficulty : Option Nat
  terminalTotalDifficultyPassed : Bool
  blobSchedule : BlobScheduleBlobParams
  deriving DecidableEq

/-- A genesis description (`alloy_genesis::Genesis`), by its chain configuration. -/
structure Genesis where
  config : ChainConfig
  deriving DecidableEq

/-- The genesis `LoadChainSpec::default()` builds its specification from: chain id
16383, the merge and the three timestamp forks at genesis, nothing else scheduled. -/
def defaultGenesis : Genesis where
  config :=
    { chainId := 16383
      homesteadBlock := none, daoForkBlock := none, eip150Block := none, eip155Block := none,
      eip158Block := none, byzantiumBlock := none, constantinopleBlock := none,
      petersburgBlock := none, istanbulBlock := none, muirGlacierBlock := none,
      berlinBlock := none, londonBlock := none, arrowGlacierBlock := none,
      grayGlacierBlock := none
      mergeNetsplitBlock := some 0
      shanghaiTime := some 0, cancunTime := some 0, pragueTime := some 0, osakaTime := none
      terminalTotalDifficulty := some 0
      terminalTotalDifficultyPassed := true
      blobSchedule := BlobScheduleBlobParams.mainnet }

/-- The fourteen pre-Cancun block forks, in the order `validate_genesis` visits them. -/
def preCancunForks (c : ChainConfig) : List (Option Nat) :=
  [c.homesteadBlock, c.daoForkBlock, c.eip150Block, c.eip155Block, c.eip158Block,
    c.byzantiumBlock, c.constantinopleBlock, c.petersburgBlock, c.istanbulBlock,
    c.muirGlacierBlock, c.berlinBlock, c.londonBlock, c.arrowGlacierBlock,
    c.grayGlacierBlock]

/-! ## The upstream chain specification -/

/-- The upstream `ChainSpec`, by what this crate reads of it. -/
structure ChainSpec where
  chain : Nat
  genesis : Genesis
  blobParams : BlobScheduleBlobParams

namespace ChainSpec

/-- `ChainSpec::from(genesis)`: the forks of the genesis configuration, its chain id and
its blob schedule. -/
def ofGenesis (genesis : Genesis) : ChainSpec where
  chain := genesis.config.chainId
  genesis := genesis
  blobParams := genesis.config.blobSchedule

/-- `ForkCondition::Timestamp(t).active_at_timestamp`; an unscheduled fork never
activates. -/
def timestampForkActive (activation : Option Nat) (timestamp : Nat) : Bool :=
  activation.any (· ≤ timestamp)

def isShanghaiActiveAtTimestamp (spec : ChainSpec) (timestamp : Nat) : Bool :=
  timestampForkActive spec.genesis.config.shanghaiTime timestamp

def isCancunActiveAtTimestamp (spec : ChainSpec) (timestamp : Nat) : Bool :=
  timestampForkActive spec.genesis.config.cancunTime timestamp

def isPragueActiveAtTimestamp (spec : ChainSpec) (timestamp : Nat) : Bool :=
  timestampForkActive spec.genesis.config.pragueTime timestamp

def isOsakaActiveAtTimestamp (spec : ChainSpec) (timestamp : Nat) : Bool :=
  timestampForkActive spec.genesis.config.osakaTime timestamp

/-- `blob_params_at_timestamp`: a scheduled blob-parameter fork wins, then the latest
active of Osaka, Prague and Cancun; before Cancun there is no blob budget at all. -/
def blobParamsAtTimestamp (spec : ChainSpec) (timestamp : Nat) : Option BlobParams :=
  match spec.blobParams.activeScheduledParamsAtTimestamp timestamp with
  | some params => some params
  | none =>
    if spec.isOsakaActiveAtTimestamp timestamp then some spec.blobParams.osaka
    else if spec.isPragueActiveAtTimestamp timestamp then some spec.blobParams.prague
    else if spec.isCancunActiveAtTimestamp timestamp then some spec.blobParams.cancun
    else none

end ChainSpec

/-- `LoadChainSpec`: the upstream specification it wraps, to which every query is
delegated. -/
structure LoadChainSpec where
  inner : ChainSpec

namespace LoadChainSpec

def blobParamsAtTimestamp (spec : LoadChainSpec) (timestamp : Nat) : Option BlobParams :=
  spec.inner.blobParamsAtTimestamp timestamp

def isShanghaiActiveAtTimestamp (spec : LoadChainSpec) (timestamp : Nat) : Bool :=
  spec.inner.isShanghaiActiveAtTimestamp timestamp

def isCancunActiveAtTimestamp (spec : LoadChainSpec) (timestamp : Nat) : Bool :=
  spec.inner.isCancunActiveAtTimestamp timestamp

def isPragueActiveAtTimestamp (spec : LoadChainSpec) (timestamp : Nat) : Bool :=
  spec.inner.isPragueActiveAtTimestamp timestamp

def isOsakaActiveAtTimestamp (spec : LoadChainSpec) (timestamp : Nat) : Bool :=
  spec.inner.isOsakaActiveAtTimestamp timestamp

end LoadChainSpec

/-! ## The guardrails -/

/-- The ways `validate_genesis` refuses a genesis, with the value it found. -/
inductive GenesisError
  | cancunNotAtGenesis (got : Option Nat)
  | nonzeroTerminalTotalDifficulty (ttd : Nat)
  | mergeNotAtGenesis (block : Nat)
  | preCancunForkNotAtGenesis (block : Nat)
  | shanghaiNotAtGenesis (time : Nat)
  | pragueNotAtGenesis (time : Nat)
  deriving DecidableEq

/-- The text of each `eyre::bail!` (the caller adds the context "Genesis validation
failed"). -/
def GenesisError.message : GenesisError → String
  | .cancunNotAtGenesis got =>
    let shown := match got with
      | some time => s!"Some({time})"
      | none => "None"
    s!"Load Network requires Cancun hardfork at genesis (cancunTime = 0). Got: {shown}"
  | .nonzeroTerminalTotalDifficulty ttd =>
    s!"Load Network PoS mode requires terminalTotalDifficulty = 0. Got: {ttd}"
  | .mergeNotAtGenesis block =>
    s!"Load Network requires merge_netsplit_block = 0 (merge at genesis). Got: {block}"
  | .preCancunForkNotAtGenesis block =>
    s!"Load Network requires pre-Cancun forks at block 0 (got {block})"
  | .shanghaiNotAtGenesis time =>
    s!"Load Network requires Shanghai hardfork at genesis (shanghaiTime = 0). Got: {time}"
  | .pragueNotAtGenesis time =>
    s!"Load Network requires Prague hardfork at genesis (pragueTime = 0). Got: {time}"

/-- The guardrail `validate_genesis` applies to every activation point Load fixes at
genesis: a point other than `0` is refused with `err`, an absent one becomes `0`. -/
def requireAtGenesis (err : Nat → GenesisError) : Option Nat → Except GenesisError (Option Nat)
  | some point => if point ≠ 0 then .error (err point) else .ok (some point)
  | none => .ok (some 0)

/-- `validate_genesis`, returning the genesis as the source leaves it after mutating it
in place. -/
def validateGenesis (genesis : Genesis) : Except GenesisError Genesis := do
  let c := genesis.config
  if c.cancunTime ≠ some 0 then
    throw (.cancunNotAtGenesis c.cancunTime)
  let ttd ← requireAtGenesis .nonzeroTerminalTotalDifficulty c.terminalTotalDifficulty
  let merge ← requireAtGenesis .mergeNotAtGenesis c.mergeNetsplitBlock
  let homestead ← requireAtGenesis .preCancunForkNotAtGenesis c.homesteadBlock
  let daoFork ← requireAtGenesis .preCancunForkNotAtGenesis c.daoForkBlock
  let eip150 ← requireAtGenesis .preCancunForkNotAtGenesis c.eip150Block
  let eip155 ← requireAtGenesis .preCancunForkNotAtGenesis c.eip155Block
  let eip158 ← requireAtGenesis .preCancunForkNotAtGenesis c.eip158Block
  let byzantium ← requireAtGenesis .preCancunForkNotAtGenesis c.byzantiumBlock
  let constantinople ← requireAtGenesis .preCancunForkNotAtGenesis c.constantinopleBlock
  let petersburg ← requireAtGenesis .preCancunForkNotAtGenesis c.petersburgBlock
  let istanbul ← requireAtGenesis .preCancunForkNotAtGenesis c.istanbulBlock
  let muirGlacier ← requireAtGenesis .preCancunForkNotAtGenesis c.muirGlacierBlock
  let berlin ← requireAtGenesis .preCancunForkNotAtGenesis c.berlinBlock
  let london ← requireAtGenesis .preCancunForkNotAtGenesis c.londonBlock
  let arrowGlacier ← requireAtGenesis .preCancunForkNotAtGenesis c.arrowGlacierBlock
  let grayGlacier ← requireAtGenesis .preCancunForkNotAtGenesis c.grayGlacierBlock
  let shanghai ← requireAtGenesis .shanghaiNotAtGenesis c.shanghaiTime
  let prague ← requireAtGenesis .pragueNotAtGenesis c.pragueTime
  return { genesis with config := { c with
    terminalTotalDifficulty := ttd, terminalTotalDifficultyPassed := true,
    mergeNetsplitBlock := merge, homesteadBlock := homestead, daoForkBlock := daoFork,
    eip150Block := eip150, eip155Block := eip155, eip158Block := eip158,
    byzantiumBlock := byzantium, constantinopleBlock := constantinople,
    petersburgBlock := petersburg, istanbulBlock := istanbul, muirGlacierBlock := muirGlacier,
    berlinBlock := berlin, londonBlock := london, arrowGlacierBlock := arrowGlacier,
    grayGlacierBlock := grayGlacier, shanghaiTime := shanghai, pragueTime := prague } }

/-- `LoadChainSpec::from_genesis`: validate and normalise, build the upstream
specification from the result under the genesis chain id, and install the Load blob
schedule whatever the genesis declared. -/
def LoadChainSpec.fromGenesis (genesis : Genesis) : Except GenesisError LoadChainSpec := do
  let genesis ← validateGenesis genesis
  return ⟨{ ChainSpec.ofGenesis genesis with
    chain := genesis.config.chainId, blobParams := loadBlobScheduleBlobParams }⟩

/-! ## The policy, stated declaratively -/

/-- An activation point compatible with the merge-at-genesis policy: absent, or `0`. -/
def AtGenesis (point : Option Nat) : Prop := point = none ∨ point = some 0

instance (point : Option Nat) : Decidable (AtGenesis point) :=
  inferInstanceAs (Decidable (_ ∨ _))

/-- The genesis descriptions the network accepts: Cancun at `0`, and every other
activation point the policy fixes either absent or `0`. -/
def Genesis.Accepted (g : Genesis) : Prop :=
  g.config.cancunTime = some 0 ∧ AtGenesis g.config.terminalTotalDifficulty ∧
    AtGenesis g.config.mergeNetsplitBlock ∧ (∀ b ∈ preCancunForks g.config, AtGenesis b) ∧
    AtGenesis g.config.shanghaiTime ∧ AtGenesis g.config.pragueTime

instance (g : Genesis) : Decidable g.Accepted :=
  inferInstanceAs (Decidable (_ ∧ _))

/-- The normal form `g′`: every point the policy fixes set to `0`, the terminal total
difficulty marked as passed, everything else as `g` has it. -/
def Genesis.normalize (g : Genesis) : Genesis :=
  { g with config := { g.config with
    terminalTotalDifficulty := some 0, terminalTotalDifficultyPassed := true,
    mergeNetsplitBlock := some 0, homesteadBlock := some 0, daoForkBlock := some 0,
    eip150Block := some 0, eip155Block := some 0, eip158Block := some 0,
    byzantiumBlock := some 0, constantinopleBlock := some 0, petersburgBlock := some 0,
    istanbulBlock := some 0, muirGlacierBlock := some 0, berlinBlock := some 0,
    londonBlock := some 0, arrowGlacierBlock := some 0, grayGlacierBlock := some 0,
    shanghaiTime := some 0, pragueTime := some 0 } }

theorem requireAtGenesis_eq_ok_iff {err : Nat → GenesisError} {point point' : Option Nat} :
    requireAtGenesis err point = .ok point' ↔ point' = some 0 ∧ AtGenesis point := by
  cases point with
  | none => simp [requireAtGenesis, AtGenesis, eq_comm]
  | some p => by_cases hp : p = 0 <;> simp [requireAtGenesis, AtGenesis, hp, eq_comm]

/-- **The guardrails refine the policy.**  Run step by step, `validate_genesis` succeeds
exactly on the accepted descriptions, and what it leaves behind is their normal form. -/
theorem validateGenesis_eq_ok_iff (g g' : Genesis) :
    validateGenesis g = .ok g' ↔ g.Accepted ∧ g' = g.normalize := by
  by_cases hc : g.config.cancunTime = some 0
  · simp only [validateGenesis, hc, ne_eq, not_true_eq_false, if_false, Except.bind_eq_ok_iff,
      requireAtGenesis_eq_ok_iff, and_assoc, exists_eq_left]
    simp [Genesis.Accepted, Genesis.normalize, preCancunForks, hc, pure, Except.pure, eq_comm,
      and_assoc]
  · simp [validateGenesis, hc, Genesis.Accepted, throw, throwThe, MonadExceptOf.throw, bind,
      Except.bind]

/-- **`from_genesis` accepts exactly the merge-at-genesis descriptions, and produces a
fixed normal form**: the upstream specification of `g′` under `g`'s chain id, with the
Load blob schedule in place of whatever `g` declared. -/
theorem fromGenesis_eq_ok_iff (g : Genesis) (spec : LoadChainSpec) :
    LoadChainSpec.fromGenesis g = .ok spec ↔
      g.Accepted ∧ spec.inner = { ChainSpec.ofGenesis g.normalize with
        chain := g.config.chainId, blobParams := loadBlobScheduleBlobParams } := by
  simp only [LoadChainSpec.fromGenesis, Except.bind_eq_ok_iff, validateGenesis_eq_ok_iff]
  constructor
  · rintro ⟨_, ⟨hacc, rfl⟩, h⟩
    cases h
    exact ⟨hacc, rfl⟩
  · rintro ⟨hacc, h⟩
    exact ⟨_, ⟨hacc, rfl⟩, by cases spec; cases h; rfl⟩

/-- The normal form of an accepted description is accepted. -/
theorem Genesis.Accepted.normalize {g : Genesis} (h : g.Accepted) : g.normalize.Accepted := by
  simp [Genesis.Accepted, Genesis.normalize, AtGenesis, preCancunForks, h.1]

/-- **Reloading an accepted chain gives it back.**  The genesis a Load specification
carries is the normal form `from_genesis` made; handing it to `from_genesis` again, as a
node does when it restarts from the genesis it stored, yields the same specification. -/
theorem fromGenesis_genesis {g : Genesis} {spec : LoadChainSpec}
    (h : LoadChainSpec.fromGenesis g = .ok spec) :
    LoadChainSpec.fromGenesis spec.inner.genesis = .ok spec := by
  obtain ⟨hacc, hinner⟩ := (fromGenesis_eq_ok_iff g spec).mp h
  obtain ⟨inner⟩ := spec
  subst hinner
  exact (fromGenesis_eq_ok_iff _ _).mpr ⟨hacc.normalize, rfl⟩

/-- `LoadChainSpec::default()`: the specification `from_genesis` builds from
`defaultGenesis` (`fromGenesis_defaultGenesis`). -/
def LoadChainSpec.default : LoadChainSpec :=
  ⟨{ ChainSpec.ofGenesis defaultGenesis.normalize with
    chain := defaultGenesis.config.chainId, blobParams := loadBlobScheduleBlobParams }⟩

theorem fromGenesis_defaultGenesis :
    LoadChainSpec.fromGenesis defaultGenesis = .ok LoadChainSpec.default := rfl

theorem fromGenesis_genesis_default :
    LoadChainSpec.fromGenesis defaultGenesis = .ok LoadChainSpec.default ∧
      LoadChainSpec.fromGenesis LoadChainSpec.default.inner.genesis = .ok LoadChainSpec.default :=
  ⟨rfl, @fromGenesis_genesis defaultGenesis LoadChainSpec.default rfl⟩

/-- The default genesis with Osaka scheduled at genesis.  `validate_genesis` does not look
at `osaka_time`, so `from_genesis` accepts it. -/
def osakaGenesis : Genesis :=
  { defaultGenesis with config := { defaultGenesis.config with osakaTime := some 0 } }

/-- The specification `from_genesis` builds from `osakaGenesis`. -/
def LoadChainSpec.osakaAtGenesis : LoadChainSpec :=
  ⟨{ ChainSpec.ofGenesis osakaGenesis.normalize with
    chain := osakaGenesis.config.chainId, blobParams := loadBlobScheduleBlobParams }⟩

theorem fromGenesis_osakaGenesis :
    LoadChainSpec.fromGenesis osakaGenesis = .ok LoadChainSpec.osakaAtGenesis := rfl

/-! ## The fork schedule of an accepted genesis -/

section FromGenesis

variable {g : Genesis} {spec : LoadChainSpec}

theorem inner_of_fromGenesis (h : LoadChainSpec.fromGenesis g = .ok spec) :
    spec.inner = { ChainSpec.ofGenesis g.normalize with
      chain := g.config.chainId, blobParams := loadBlobScheduleBlobParams } :=
  ((fromGenesis_eq_ok_iff g spec).mp h).2

/-- Cancun is active at every timestamp of an accepted chain. -/
theorem isCancunActiveAtTimestamp_of_fromGenesis (h : LoadChainSpec.fromGenesis g = .ok spec)
    (timestamp : Nat) : spec.isCancunActiveAtTimestamp timestamp = true := by
  simp [LoadChainSpec.isCancunActiveAtTimestamp, ChainSpec.isCancunActiveAtTimestamp,
    inner_of_fromGenesis h, ChainSpec.ofGenesis, Genesis.normalize,
    ((fromGenesis_eq_ok_iff g spec).mp h).1.1, ChainSpec.timestampForkActive]

/-- **The schedule of an accepted chain has a single switch**: the Load parameters from
genesis on, the upstream Osaka parameters once (and if) the genesis schedules Osaka. -/
theorem blobParamsAtTimestamp_of_fromGenesis (h : LoadChainSpec.fromGenesis g = .ok spec)
    (timestamp : Nat) :
    spec.blobParamsAtTimestamp timestamp =
      some (if spec.isOsakaActiveAtTimestamp timestamp then BlobParams.osaka
        else loadBlobParams) := by
  obtain ⟨inner⟩ := spec
  have hinner : inner = _ := inner_of_fromGenesis h
  subst hinner
  by_cases hosaka : g.config.osakaTime.any (· ≤ timestamp) <;>
    simp [LoadChainSpec.blobParamsAtTimestamp, ChainSpec.blobParamsAtTimestamp,
      LoadChainSpec.isOsakaActiveAtTimestamp, ChainSpec.isOsakaActiveAtTimestamp,
      ChainSpec.isPragueActiveAtTimestamp, ChainSpec.timestampForkActive, ChainSpec.ofGenesis,
      Genesis.normalize, BlobScheduleBlobParams.activeScheduledParamsAtTimestamp,
      loadBlobScheduleBlobParams, hosaka]

end FromGenesis

end LoadReth
