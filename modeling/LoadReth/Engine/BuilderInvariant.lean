import LoadReth.Engine.Builder

/-!
# What every build keeps, and what a successful build delivers

The invariants of the selection loop of `default_load_payload`, proved once per iteration
(`selectStep_eq_next`) and carried over whole runs by `selectLoop_invariant`:

* the blob side (`BlobInv`), which holds of every run whatever the candidates: the block's
  blob count stays within the cap and is the number of blobs of the executed
  transactions, and the sidecars are one per executed blob transaction, in order, of the
  fork's scheme;
* the gas bound, which holds when executions report no more gas than their limit and the
  limits leave the `u64` sums room.

From them follow the guarantees of a build that ends with a better payload: the checks it
meets on its way out (the Engine API's Load checks, the envelope conversions).

## Main results

* `selectLoop_accumulators`: the accumulator invariant at every iteration.
* `defaultLoadPayload_better_guarantees`: what a better payload satisfies.
-/

namespace LoadReth

/-! ## The blob invariant -/

/-- The blob side of the loop state, which every run keeps. -/
structure BlobInv (env : SelectionEnv) (s : SelectionState) : Prop where
  blockBlobCount_le : s.blockBlobCount ≤ env.maxBlobCount
  blockBlobCount_eq : s.blockBlobCount = (s.executed.map (·.tx.blobCount)).sum
  ofScheme : s.blobSidecars.OfScheme env.isOsaka
  toVariants_eq : s.blobSidecars.toVariants = s.executed.filterMap Candidate.includedSidecar
  empty_iff : s.blobSidecars = .empty ↔ s.blobSidecars.toVariants = []
  executed_spec : ∀ c ∈ s.executed, (∃ gasUsed, c.execution = .ok gasUsed) ∧
    (c.tx.isEip4844 = true → ∃ v, c.sidecar = some v ∧ v.isEip7594 = env.isOsaka)

section Blob

variable {env : SelectionEnv} {s s' : SelectionState} {c : Candidate} {index : Nat}

theorem BlobInv.init : BlobInv env .init :=
  ⟨Nat.zero_le _, rfl, trivial, rfl, ⟨fun _ => rfl, fun _ => rfl⟩, by simp [SelectionState.init]⟩

theorem BlobInv.markInvalid (h : BlobInv env s) (error : InvalidPoolTransactionError) :
    BlobInv env (s.markInvalid c error) :=
  ⟨h.1, h.2, h.3, h.4, h.5, h.6⟩

theorem BlobInv.record {gasUsed minerFee : Nat} (h : BlobInv env s) (hadm : Admitted env s c)
    (hg : c.execution = .ok gasUsed) :
    BlobInv env (s.record env c c.includedSidecar gasUsed minerFee) := by
  by_cases h4844 : c.tx.isEip4844 = true
  · obtain ⟨v, hv, hscheme⟩ := hadm.sidecar_eq h4844
    have hinc : c.includedSidecar = some v := by simp [Candidate.includedSidecar, h4844, hv]
    have hof : s.blobSidecars.OfScheme v.isEip7594 := hscheme ▸ h.ofScheme
    refine ⟨?_, ?_, ?_, ?_, ?_, ?_⟩
    · simpa [SelectionState.record, h4844] using hadm.blobCount_le h4844
    · simp [SelectionState.record, h4844, h.blockBlobCount_eq]
    · simpa [SelectionState.record, hinc, hscheme] using BlobSidecars.ofScheme_pushSidecarVariant hof
    · simp [SelectionState.record, hinc, BlobSidecars.toVariants_pushSidecarVariant hof,
        h.toVariants_eq]
    · simp [SelectionState.record, hinc, BlobSidecars.toVariants_pushSidecarVariant hof,
        BlobSidecars.pushSidecarVariant_ne_empty hof]
    · intro d hd
      simp only [SelectionState.record, List.mem_append, List.mem_singleton] at hd
      rcases hd with hd | rfl
      · exact h.executed_spec d hd
      · exact ⟨⟨_, hg⟩, fun _ => ⟨v, hv, hscheme⟩⟩
  · have h4844 : c.tx.isEip4844 = false := by simpa using h4844
    have hinc : c.includedSidecar = none := by simp [Candidate.includedSidecar, h4844]
    refine ⟨?_, ?_, by simpa [SelectionState.record, hinc] using h.ofScheme, ?_,
      by simpa [SelectionState.record, hinc] using h.empty_iff, ?_⟩
    · simpa [SelectionState.record, h4844] using h.blockBlobCount_le
    · simp [SelectionState.record, h4844, h.blockBlobCount_eq, TransactionSigned.blobCount_eq_zero h4844]
    · simp [SelectionState.record, hinc, h.toVariants_eq]
    · intro d hd
      simp only [SelectionState.record, List.mem_append, List.mem_singleton] at hd
      rcases hd with hd | rfl
      · exact h.executed_spec d hd
      · exact ⟨⟨_, hg⟩, fun h' => absurd h' (by simp [h4844])⟩

theorem BlobInv.step (h : BlobInv env s) (hs : selectStep env index s c = .next s') :
    BlobInv env s' := by
  rcases selectStep_eq_next hs with ⟨error, rfl⟩ | rfl | ⟨gasUsed, minerFee, hg, -, hadm, rfl⟩
  · exact h.markInvalid error
  · exact h
  · exact h.record hadm hg
end Blob

/-! ## The gas bound -/

section Gas

variable {env : SelectionEnv} {s s' : SelectionState} {c : Candidate} {index : Nat}

/-- One iteration keeps the gas within the block's limit when the candidate's execution
reports no more gas than its limit, the limit fits the block, and the block's limit is at
most `u64::MAX / 2`, so that the sums cannot wrap. -/
theorem cumulativeGasUsed_step (hlimit : env.blockGasLimit ≤ (u64Modulus - 1) / 2)
    (hgas : c.tx.gasLimit ≤ env.blockGasLimit)
    (hused : ∀ gasUsed, c.execution = .ok gasUsed → gasUsed ≤ c.tx.gasLimit)
    (h : s.cumulativeGasUsed ≤ env.blockGasLimit) (hs : selectStep env index s c = .next s') :
    s'.cumulativeGasUsed ≤ env.blockGasLimit := by
  rcases selectStep_eq_next hs with ⟨error, rfl⟩ | rfl | ⟨gasUsed, minerFee, hg, -, hadm, rfl⟩
  · exact h
  · exact h
  · have hfits := hadm.gas_le
    have hle := hused gasUsed hg
    simp only [SelectionState.record, u64Modulus] at hfits hlimit ⊢
    omega

end Gas

/-- The invariant of the selection loop: the blob invariant, and the gas used within the
block's limit. -/
structure SelectionInv (env : SelectionEnv) (s : SelectionState) extends BlobInv env s : Prop where
  cumulativeGasUsed_le : s.cumulativeGasUsed ≤ env.blockGasLimit

/-- **The accumulator invariant of the selection loop.**  Whatever the candidates the pool
yields, the sidecars the pool holds and the outcomes of their executions: if every
execution reports no more gas than the transaction's limit, every limit fits the block,
and the block's limit is at most `u64::MAX / 2`, then after every iteration the gas used is
within the block's limit, the blob count is within `compute_load_blob_cap` and is the
number of blobs of the executed transactions, and the sidecars are one per executed blob
transaction, in order, each of the scheme of the fork. -/
theorem selectLoop_accumulators {spec : LoadChainSpec} {attributes : LoadPayloadBuilderAttributes}
    {blockEnv : BlockEnv} {cancelledAt : Option Nat} {candidates : List Candidate}
    (hlimit : blockEnv.gasLimit ≤ (u64Modulus - 1) / 2)
    (hcandidates : ∀ c ∈ candidates, c.tx.gasLimit ≤ blockEnv.gasLimit ∧
      ∀ gasUsed, c.execution = .ok gasUsed → gasUsed ≤ c.tx.gasLimit)
    (n : Nat) {s : SelectionState}
    (hrun : selectLoop (selectionEnv spec attributes blockEnv cancelledAt) 0 .init
      (candidates.take n) = .done s) :
    SelectionInv (selectionEnv spec attributes blockEnv cancelledAt) s :=
  selectLoop_invariant _
    (fun _ _ c _ hc hinv hs =>
      have hc' := hcandidates c (List.mem_of_mem_take hc)
      ⟨hinv.toBlobInv.step hs,
        cumulativeGasUsed_step hlimit hc'.1 hc'.2 hinv.cumulativeGasUsed_le hs⟩)
    ⟨BlobInv.init, Nat.zero_le _⟩ hrun

/-- A transfer of 21000 gas paying one wei per gas over a base fee of seven. -/
def transferCandidate : Candidate :=
  ⟨⟨21000, none, 110, 10, some 1, true⟩, .ok none, .ok 21000⟩

theorem selectLoop_accumulators_transfer :
    let blockEnv : BlockEnv := ⟨30000000, 7, none⟩
    let env := selectionEnv LoadChainSpec.default timestampOneAttributes blockEnv none
    (blockEnv.gasLimit ≤ (u64Modulus - 1) / 2 ∧
      (∀ c ∈ [transferCandidate], c.tx.gasLimit ≤ blockEnv.gasLimit ∧
        ∀ gasUsed, c.execution = .ok gasUsed → gasUsed ≤ c.tx.gasLimit) ∧
      selectLoop env 0 .init ([transferCandidate].take 1) =
        .done (SelectionState.init.record env transferCandidate none 21000 1)) ∧
    SelectionInv env (SelectionState.init.record env transferCandidate none 21000 1) :=
  have hcandidates : ∀ c ∈ [transferCandidate], c.tx.gasLimit ≤ 30000000 ∧
      ∀ gasUsed, c.execution = .ok gasUsed → gasUsed ≤ c.tx.gasLimit := by
    simp [transferCandidate]
  have hrun : selectLoop (selectionEnv LoadChainSpec.default timestampOneAttributes
      ⟨30000000, 7, none⟩ none) 0 .init ([transferCandidate].take 1) =
      .done (SelectionState.init.record (selectionEnv LoadChainSpec.default
        timestampOneAttributes ⟨30000000, 7, none⟩ none) transferCandidate none 21000 1) := rfl
  ⟨⟨by decide, hcandidates, hrun⟩, selectLoop_accumulators (by decide) hcandidates 1 hrun⟩

/-! ## A successful build -/

/-- **What a sealing that succeeds did.**  It aborted with the loop's fees, which do not
beat the best payload's; or the fees beat them, `finish` assembled the block from the
executed transactions, the block passed the Osaka size check, and the payload is that
block, with the loop's fees and sidecars and, once Prague is active, the requests. -/
theorem sealPayload_eq_ok {spec : LoadChainSpec} {upstream : UpstreamBuilder}
    {attributes : LoadPayloadBuilderAttributes} {bestPayload : Option LoadBuiltPayload}
    {isOsaka : Bool} {s : SelectionState} {outcome : BuildOutcome}
    (h : sealPayload spec upstream attributes bestPayload isOsaka s = .ok outcome) :
    (isBetterPayload bestPayload s.totalFees = false ∧ outcome = .aborted s.totalFees) ∨
    (isBetterPayload bestPayload s.totalFees = true ∧
      ∃ block executionRequests,
        upstream.finish (s.executed.map (·.tx)) = .ok (block, executionRequests) ∧
        (isOsaka = true → upstream.rlpLength block ≤ maxRlpBlockSize) ∧
        outcome = .better ⟨block, s.totalFees,
          if spec.isPragueActiveAtTimestamp attributes.timestamp then some executionRequests
          else none, s.blobSidecars⟩) := by
  unfold sealPayload at h
  cases hb : isBetterPayload bestPayload s.totalFees
  · simp only [hb, Bool.not_false, if_true, pure, Except.pure, Except.ok.injEq] at h
    exact .inl ⟨rfl, h.symm⟩
  · simp only [hb, Bool.not_true, Bool.false_eq_true, if_false] at h
    cases hf : upstream.finish (s.executed.map (·.tx)) with
    | error e => simp [hf, bind, Except.bind, pure, Except.pure] at h
    | ok r =>
      obtain ⟨block, reqs⟩ := r
      by_cases hsize : (isOsaka && decide (upstream.rlpLength block > maxRlpBlockSize)) = true
      · simp [hf, hsize, bind, Except.bind, throw, throwThe, MonadExceptOf.throw, pure,
          Except.pure] at h
      · simp [hf, hsize, bind, Except.bind, pure, Except.pure] at h
        subst h
        exact .inr ⟨rfl, block, reqs, rfl, fun ho => by simpa [ho] using hsize, rfl⟩

/-- A sealing that delivers a better payload: the loop's fees beat the best payload's,
`finish` assembled the block from the executed transactions, the block passed the Osaka
size check, and the payload carries the loop's fees and sidecars. -/
theorem sealPayload_eq_better {spec : LoadChainSpec} {upstream : UpstreamBuilder}
    {attributes : LoadPayloadBuilderAttributes} {bestPayload : Option LoadBuiltPayload}
    {isOsaka : Bool} {s : SelectionState} {p : LoadBuiltPayload}
    (h : sealPayload spec upstream attributes bestPayload isOsaka s = .ok (.better p)) :
    isBetterPayload bestPayload s.totalFees = true ∧
    ∃ executionRequests, upstream.finish (s.executed.map (·.tx)) = .ok (p.block, executionRequests) ∧
      (isOsaka = true → upstream.rlpLength p.block ≤ maxRlpBlockSize) ∧
      p.fees = s.totalFees ∧ p.sidecars = s.blobSidecars := by
  rcases sealPayload_eq_ok h with ⟨-, ⟨⟩⟩ | ⟨hb, block, reqs, hf, hsize, ⟨⟩⟩
  exact ⟨hb, reqs, hf, hsize, rfl, rfl⟩

/-- **What a build that succeeds did.**  It validated its attributes and set up its block;
then it sealed the outcome of its loop, or the loop was cancelled. -/
theorem defaultLoadPayload_eq_ok {spec : LoadChainSpec} {upstream : UpstreamBuilder}
    {parentTimestamp : Nat} {attributes : LoadPayloadBuilderAttributes}
    {bestPayload : Option LoadBuiltPayload} {cancelledAt : Option Nat}
    {bestTxs : BestTransactionsAttributes → List Candidate} {outcome : BuildOutcome}
    (h : defaultLoadPayload spec upstream parentTimestamp attributes bestPayload cancelledAt
      bestTxs = some (.ok outcome)) :
    validatePayloadAttributes parentTimestamp attributes = .ok () ∧
    ∃ blockEnv, upstream.setup = .ok blockEnv ∧
      ((∃ s, selectLoop (selectionEnv spec attributes blockEnv cancelledAt) 0 .init
          (bestTxs blockEnv.bestTransactionsAttributes) = .done s ∧
        sealPayload spec upstream attributes bestPayload
          (spec.isOsakaActiveAtTimestamp attributes.timestamp) s = .ok outcome) ∨
      (selectLoop (selectionEnv spec attributes blockEnv cancelledAt) 0 .init
          (bestTxs blockEnv.bestTransactionsAttributes) = .cancelled ∧ outcome = .cancelled)) := by
  unfold defaultLoadPayload at h
  split at h
  · cases h
  next hattrs =>
    split at h
    · cases h
    next blockEnv hsetup =>
      dsimp only at h
      split at h
      next s hloop => exact ⟨hattrs, blockEnv, hsetup, .inl ⟨s, hloop, Option.some.inj h⟩⟩
      next hloop =>
        cases h
        exact ⟨hattrs, blockEnv, hsetup, .inr ⟨hloop, rfl⟩⟩
      all_goals cases h

/-- A build that delivers a better payload validated its attributes, set up its block,
finished its loop, and sealed that loop's outcome. -/
theorem defaultLoadPayload_eq_better {spec : LoadChainSpec} {upstream : UpstreamBuilder}
    {parentTimestamp : Nat} {attributes : LoadPayloadBuilderAttributes}
    {bestPayload : Option LoadBuiltPayload} {cancelledAt : Option Nat}
    {bestTxs : BestTransactionsAttributes → List Candidate} {p : LoadBuiltPayload}
    (h : defaultLoadPayload spec upstream parentTimestamp attributes bestPayload cancelledAt
      bestTxs = some (.ok (.better p))) :
    validatePayloadAttributes parentTimestamp attributes = .ok () ∧
    ∃ blockEnv s executionRequests, upstream.setup = .ok blockEnv ∧
      selectLoop (selectionEnv spec attributes blockEnv cancelledAt) 0 .init
        (bestTxs blockEnv.bestTransactionsAttributes) = .done s ∧
      upstream.finish (s.executed.map (·.tx)) = .ok (p.block, executionRequests) ∧
      p.sidecars = s.blobSidecars := by
  obtain ⟨hattrs, blockEnv, hsetup, ⟨s, hloop, hseal⟩ | ⟨-, ⟨⟩⟩⟩ := defaultLoadPayload_eq_ok h
  obtain ⟨-, reqs, hfinish, -, -, hsc⟩ := sealPayload_eq_better hseal
  exact ⟨hattrs, blockEnv, s, reqs, hsetup, hloop, hfinish, hsc⟩

/-- One iteration executes at most its own candidate. -/
theorem selectStep_executed {env : SelectionEnv} {index : Nat} {s s' : SelectionState}
    {c : Candidate} (hs : selectStep env index s c = .next s') :
    s'.executed = s.executed ∨ s'.executed = s.executed ++ [c] := by
  rcases selectStep_eq_next hs with ⟨_, rfl⟩ | rfl | ⟨_, _, _, _, _, rfl⟩
  · exact .inl rfl
  · exact .inl rfl
  · exact .inr rfl

/-- A list has no more entries with a value than the sum of a weight that is positive on
them. -/
theorem length_filterMap_le_sum {α β : Type} {f : α → Option β} {g : α → Nat} :
    ∀ {l : List α}, (∀ a ∈ l, (f a).isSome → 0 < g a) → (l.filterMap f).length ≤ (l.map g).sum
  | [], _ => by simp
  | a :: l, h => by
    have ih := length_filterMap_le_sum fun b hb => h b (List.mem_cons_of_mem a hb)
    cases hf : f a with
    | none => simp [List.filterMap_cons, hf]; omega
    | some _ =>
      have := h a (List.mem_cons_self a l) (by simp [hf])
      simp [List.filterMap_cons, hf]; omega

/-- A run from the initial state keeps the blob invariant. -/
theorem selectLoop_blobInv {env : SelectionEnv} {cs : List Candidate} {s : SelectionState}
    (h : selectLoop env 0 .init cs = .done s) : BlobInv env s :=
  selectLoop_invariant _ (fun _ _ _ _ _ hinv hs => hinv.step hs) BlobInv.init h

/-- A run executes only candidates it was given. -/
theorem selectLoop_executed_mem {env : SelectionEnv} {cs : List Candidate} {s : SelectionState}
    (h : selectLoop env 0 .init cs = .done s) : ∀ c ∈ s.executed, c ∈ cs :=
  selectLoop_invariant (fun s => ∀ c ∈ s.executed, c ∈ cs)
    (fun _ _ c _ hc hmem hs d hd => by
      rcases selectStep_executed hs with he | he <;> rw [he] at hd
      · exact hmem d hd
      · rcases List.mem_append.mp hd with hd | hd
        · exact hmem d hd
        · exact List.mem_singleton.mp hd ▸ hc)
    (by simp [SelectionState.init]) h

section BlobInvConsequences

variable {env : SelectionEnv} {s : SelectionState}

/-- Under a build's selection environment, the executed transactions carry at most
`LOAD_MAX_BLOB_COUNT` blobs. -/
theorem BlobInv.sum_blobCount_le {spec : LoadChainSpec} {attributes : LoadPayloadBuilderAttributes}
    {blockEnv : BlockEnv} {cancelledAt : Option Nat}
    (hinv : BlobInv (selectionEnv spec attributes blockEnv cancelledAt) s) :
    (s.executed.map (·.tx.blobCount)).sum ≤ loadMaxBlobCount :=
  hinv.blockBlobCount_eq ▸ hinv.blockBlobCount_le.trans (computeLoadBlobCap_le _ _)

/-- There are no more sidecars than blobs, when every executed blob transaction carries
one. -/
theorem BlobInv.length_toVariants_le (hinv : BlobInv env s)
    (hblobs : ∀ c ∈ s.executed, c.tx.isEip4844 = true → 0 < c.tx.blobCount) :
    s.blobSidecars.toVariants.length ≤ (s.executed.map (·.tx.blobCount)).sum := by
  rw [hinv.toVariants_eq]
  refine length_filterMap_le_sum fun c hc hsome => hblobs c hc ?_
  by_contra h4844
  simp [Candidate.includedSidecar, h4844] at hsome

/-- Before Osaka, the loop's sidecars pass the outbound guard once there are few enough. -/
theorem BlobInv.guardSidecars_eq_ok {p : LoadBuiltPayload} (hinv : BlobInv env s)
    (hosaka : env.isOsaka = false) (hle : s.blobSidecars.toVariants.length ≤ loadMaxBlobCount)
    (hp : p.sidecars = s.blobSidecars) : p.guardSidecars loadMaxBlobCount = .ok () := by
  have hscheme := hinv.ofScheme
  rw [guardSidecars_eq_ok_iff, hp]
  rcases hs : s.blobSidecars with _ | l | l
  · exact .inl rfl
  · exact .inr ⟨l, rfl, by simpa [hs, BlobSidecars.toVariants] using hle⟩
  · simp [hs, BlobSidecars.OfScheme, hosaka] at hscheme

/-- The loop has no sidecars exactly when it executed no blob transaction. -/
theorem BlobInv.blobSidecars_eq_empty_iff (hinv : BlobInv env s) :
    s.blobSidecars = .empty ↔ ∀ c ∈ s.executed, c.tx.isEip4844 = false := by
  rw [hinv.empty_iff, hinv.toVariants_eq, List.filterMap_eq_nil_iff]
  refine forall₂_congr fun c hc => ?_
  cases h4844 : c.tx.isEip4844
  · simp [Candidate.includedSidecar, h4844]
  · obtain ⟨v, hv, -⟩ := (hinv.executed_spec c hc).2 h4844
    simp [Candidate.includedSidecar, h4844, hv]

end BlobInvConsequences

/-- What is assumed of the upstream `finish`, which this crate does not implement: the block
it assembles holds exactly the transactions it is given, and its header carries the
attributes' `prev_randao` and timestamp, as the upstream block assembler writes them. -/
def UpstreamBuilder.Assembles (upstream : UpstreamBuilder)
    (attributes : LoadPayloadBuilderAttributes) : Prop :=
  ∀ txs block requests, upstream.finish txs = .ok (block, requests) →
    block.transactions = txs ∧ block.header.prevRandao = attributes.prevRandao ∧
      block.header.timestamp = attributes.timestamp

/-- **What a better payload satisfies.**  When `finish` assembles the executed transactions
under the attributes' `prev_randao` and timestamp, and every blob transaction that
executes carries at least one blob, a build that ends with a better payload delivers a
block with `LOAD_PREVRANDAO` and a timestamp after the parent's; the Engine API's Load
checks accept the payload `block_to_payload` makes of it; before Osaka its V3 and V4
envelopes are built; and once Osaka is active its V5 envelope is built exactly when the
block holds no blob transaction. -/
theorem defaultLoadPayload_better_guarantees {spec : LoadChainSpec} {upstream : UpstreamBuilder}
    {parentTimestamp : Nat} {attributes : LoadPayloadBuilderAttributes}
    {bestPayload : Option LoadBuiltPayload} {cancelledAt : Option Nat}
    {bestTxs : BestTransactionsAttributes → List Candidate} {p : LoadBuiltPayload}
    (hassembles : upstream.Assembles attributes)
    (hblobs : ∀ attrs, ∀ c ∈ bestTxs attrs, c.tx.isEip4844 = true →
      ∀ gasUsed, c.execution = .ok gasUsed → 0 < c.tx.blobCount)
    (h : defaultLoadPayload spec upstream parentTimestamp attributes bestPayload cancelledAt
      bestTxs = some (.ok (.better p))) :
    p.block.header.prevRandao = loadPrevrandao ∧ parentTimestamp < p.block.header.timestamp ∧
    (LoadEngineValidator.mk spec).validateLoadFields
      (.executionPayload (LoadEngineTypes.blockToPayload p.block)) = .ok () ∧
    (spec.isOsakaActiveAtTimestamp attributes.timestamp = false →
      (∃ r, ExecutionPayloadEnvelopeV3.tryFrom p = some r ∧ r.isOk) ∧
        (ExecutionPayloadEnvelopeV4.tryFrom p).isOk) ∧
    (spec.isOsakaActiveAtTimestamp attributes.timestamp = true →
      ((ExecutionPayloadEnvelopeV5.tryFrom p).isOk ↔
        ∀ tx ∈ p.block.transactions, tx.isEip4844 = false)) := by
  obtain ⟨hattrs, blockEnv, s, reqs, -, hloop, hfinish, hsidecars⟩ :=
    defaultLoadPayload_eq_better h
  obtain ⟨hrandao, htime⟩ := validatePayloadAttributes_eq_ok_iff.mp hattrs
  obtain ⟨htxs, hprev, htimestamp⟩ := hassembles _ _ _ hfinish
  have hinv := selectLoop_blobInv hloop
  have hmem := selectLoop_executed_mem hloop
  have hcount := hinv.sum_blobCount_le
  -- one sidecar per executed blob transaction, each of which carries a blob
  have hsidecars_le : s.blobSidecars.toVariants.length ≤ loadMaxBlobCount :=
    (hinv.length_toVariants_le fun c hc h4844 => (hinv.executed_spec c hc).1.elim
      fun gasUsed hg => hblobs _ c (hmem c hc) h4844 gasUsed hg).trans hcount
  refine ⟨hprev.trans hrandao, htimestamp ▸ htime, ?_, fun hosaka => ?_, fun _ => ?_⟩
  · refine (LoadEngineValidator.validateLoadFields_payload_eq_ok_iff _ _).mpr
      ⟨hprev.trans hrandao, fun hashes hh => ?_, fun _ => ExecutionPayloadSidecar.requests_fromBlock _⟩
    rw [ExecutionPayloadSidecar.eq_of_mem_versionedHashes_fromBlock hh,
      SealedBlock.blobVersionedHashes_length, htxs, List.map_map]
    exact hcount
  · have hguard := hinv.guardSidecars_eq_ok hosaka hsidecars_le hsidecars
    exact ⟨⟨_, tryFrom_v3_eq p, (isOk_guard_bind_tryIntoV3 p).mpr hguard⟩,
      (isOk_tryFrom_v4_iff p).mpr hguard⟩
  · rw [isOk_tryFrom_v5_iff, hsidecars, hinv.blobSidecars_eq_empty_iff, htxs, List.forall_mem_map]

/-- The sealing upstream builder's `finish` keeps the transactions it is given and writes
the attributes' `prev_randao` and timestamp. -/
theorem sealingUpstream_assembles (gasLimit : Nat) :
    (sealingUpstream gasLimit).Assembles timestampOneAttributes := by
  intro txs block requests h
  simp only [sealingUpstream, Except.ok.injEq, Prod.mk.injEq] at h
  obtain ⟨rfl, -⟩ := h
  exact ⟨rfl, rfl, rfl⟩

/-- A blob transaction of one blob whose pool sidecar is an EIP-7594 one, as Osaka wants. -/
def osakaBlobCandidate : Candidate :=
  ⟨⟨21000, some [B256.zero], 110, 10, some 1, true⟩, .ok (some (.eip7594 ⟨1⟩)), .ok 21000⟩

/-- The payload a build on `osakaAtGenesis` makes of `osakaBlobCandidate`. -/
def osakaBlobPayload : LoadBuiltPayload where
  block := ⟨⟨1, loadPrevrandao, 30000000, some 0, some B256.zero, none⟩,
    [osakaBlobCandidate.tx], some [], B256.zero⟩
  fees := 21000
  requests := some []
  sidecars := .eip7594 [⟨1⟩]

/-- Once Osaka is active, the builder only takes EIP-7594 sidecars, and the guard of the V5
conversion refuses them: a payload with one blob transaction has no V5 envelope. -/
theorem osaka_blob_payload_has_no_v5_envelope :
    LoadChainSpec.osakaAtGenesis.isOsakaActiveAtTimestamp timestampOneAttributes.timestamp = true ∧
    defaultLoadPayload LoadChainSpec.osakaAtGenesis (sealingUpstream 30000000) 0
      timestampOneAttributes none none (fun _ => [osakaBlobCandidate]) =
        some (.ok (.better osakaBlobPayload)) ∧
    (ExecutionPayloadEnvelopeV5.tryFrom osakaBlobPayload).isOk = false :=
  ⟨rfl, rfl, rfl⟩

theorem defaultLoadPayload_better_guarantees_osaka :
    let spec := LoadChainSpec.osakaAtGenesis
    let p := osakaBlobPayload
    ((sealingUpstream 30000000).Assembles timestampOneAttributes ∧
      (∀ _ : BestTransactionsAttributes, ∀ c ∈ [osakaBlobCandidate], c.tx.isEip4844 = true →
        ∀ gasUsed, c.execution = .ok gasUsed → 0 < c.tx.blobCount) ∧
      defaultLoadPayload spec (sealingUpstream 30000000) 0 timestampOneAttributes none none
        (fun _ => [osakaBlobCandidate]) = some (.ok (.better p))) ∧
    (p.block.header.prevRandao = loadPrevrandao ∧ 0 < p.block.header.timestamp ∧
      (LoadEngineValidator.mk spec).validateLoadFields
        (.executionPayload (LoadEngineTypes.blockToPayload p.block)) = .ok () ∧
      (spec.isOsakaActiveAtTimestamp timestampOneAttributes.timestamp = false →
        (∃ r, ExecutionPayloadEnvelopeV3.tryFrom p = some r ∧ r.isOk) ∧
          (ExecutionPayloadEnvelopeV4.tryFrom p).isOk) ∧
      (spec.isOsakaActiveAtTimestamp timestampOneAttributes.timestamp = true →
        ((ExecutionPayloadEnvelopeV5.tryFrom p).isOk ↔
          ∀ tx ∈ p.block.transactions, tx.isEip4844 = false))) :=
  have hblobs : ∀ _ : BestTransactionsAttributes, ∀ c ∈ [osakaBlobCandidate],
      c.tx.isEip4844 = true → ∀ gasUsed, c.execution = .ok gasUsed → 0 < c.tx.blobCount := by
    simp [osakaBlobCandidate, TransactionSigned.blobCount]
  have hrun : defaultLoadPayload LoadChainSpec.osakaAtGenesis (sealingUpstream 30000000) 0
      timestampOneAttributes none none (fun _ => [osakaBlobCandidate]) =
        some (.ok (.better osakaBlobPayload)) := rfl
  ⟨⟨sealingUpstream_assembles _, hblobs, hrun⟩,
    defaultLoadPayload_better_guarantees (sealingUpstream_assembles _) hblobs hrun⟩
end LoadReth
