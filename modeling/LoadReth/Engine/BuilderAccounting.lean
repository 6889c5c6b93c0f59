import LoadReth.Engine.BuilderInvariant

/-!
# The builder's accounting

What `default_load_payload` books while it executes candidates: the gas it sums, the fees
it compares with the best payload, and the encoded length it checks against
`MAX_RLP_BLOCK_SIZE`.  Each accumulator is the sum of what the executed transactions
contributed.  Those transactions are candidates the pool yielded, in the pool's order,
each at most once.  The proof is the invariant route of
`LoadReth.Engine.BuilderInvariant`: one lemma per thing an iteration can do
(`selectStep_eq_next`), carried over whole runs by `selectLoop_invariant`.

## Main definitions

* `Candidate.gasUsed`, `Candidate.fee`: what an executed candidate contributed.
* `AccountingInv`: the accumulators are those sums, and under Osaka the encoded length
  leaves room for the withdrawals and the 1024-byte allowance.
* `SkipBlobsInv`: the `skip_blobs` calls on the pool's iterator.
* `CandidateFate`, `CandidateFate.Justified`: what became of a candidate, and why.

## Main results

* `AccountingInv.step`: every iteration keeps the accounting.
* `selectLoop_executed_sublist`: a run executes the candidates in order, each at most once.
* `selectLoop_accounting`: the accounting over every run that finishes.
* `selectLoop_skipBlobs`: `skip_blobs` is called once, exactly when the block's blob count
  reaches a nonzero cap.
* `selectLoop_candidateFates`: every candidate is executed, marked invalid with an error
  that says what it failed, or skipped for a nonce too low; nothing else is dropped.
* `defaultLoadPayload_better_accounting`: a better payload's fees are exactly the tips its
  transactions pay, they beat the best payload's, and under Osaka its block passed both
  size checks.
* `buildEmptyPayload_map_better`: `build_empty_payload` returns exactly what the build
  returns with no best payload and no cancel signal; its `MissingPayload` never fires.
-/

namespace LoadReth

/-! ## What an executed candidate contributed -/

/-- The gas an executed candidate used, as its execution reported it. -/
def Candidate.gasUsed (c : Candidate) : Nat :=
  match c.execution with
  | .ok gasUsed => gasUsed
  | .error _ => 0

/-- What an executed candidate pays the beneficiary at base fee `baseFee`: its effective
tip per gas times the gas it used. -/
def Candidate.fee (c : Candidate) (baseFee : Nat) : Nat :=
  (c.tx.effectiveTipPerGas baseFee).getD 0 * c.gasUsed

/-- The loop's accumulators are the sums of what the executed candidates contributed: the
gas as a `u64` sum, the fees, and the encoded length; once Osaka is active, a block with a
transaction leaves room for the withdrawals and the 1024-byte allowance. -/
structure AccountingInv (env : SelectionEnv) (s : SelectionState) : Prop where
  cumulativeGasUsed_eq :
    s.cumulativeGasUsed = (s.executed.map Candidate.gasUsed).sum % u64Modulus
  totalFees_eq : s.totalFees = (s.executed.map (·.fee env.baseFee)).sum
  rlpLength_eq : s.blockTransactionsRlpLength = (s.executed.map (·.tx.encodedLength)).sum
  rlpLength_le : env.isOsaka = true → s.executed ≠ [] →
    s.blockTransactionsRlpLength + env.withdrawalsLength + 1024 ≤ maxRlpBlockSize

/-! ## Every iteration keeps the accounting -/

section Step

variable {env : SelectionEnv} {s s' : SelectionState} {c : Candidate} {index : Nat}

theorem AccountingInv.init : AccountingInv env .init :=
  ⟨rfl, rfl, rfl, fun _ h => absurd rfl h⟩

theorem AccountingInv.markInvalid (h : AccountingInv env s) (error : InvalidPoolTransactionError) :
    AccountingInv env (s.markInvalid c error) :=
  ⟨h.1, h.2, h.3, h.4⟩

/-- Booking an executed candidate adds its gas, its fee and its encoded length; it passed
the Osaka size check, so the length stays within the limit. -/
theorem AccountingInv.record {gasUsed minerFee : Nat} (h : AccountingInv env s)
    (hadm : Admitted env s c) (hg : c.execution = .ok gasUsed)
    (hm : c.tx.effectiveTipPerGas env.baseFee = some minerFee)
    (sidecar : Option BlobTransactionSidecarVariant) :
    AccountingInv env (s.record env c sidecar gasUsed minerFee) where
  cumulativeGasUsed_eq := by
    simp only [SelectionState.record, List.map_append, List.sum_append, List.map_singleton,
      List.sum_singleton, h.cumulativeGasUsed_eq, Candidate.gasUsed, hg, Nat.mod_add_mod]
  totalFees_eq := by
    simp [SelectionState.record, h.totalFees_eq, Candidate.fee, Candidate.gasUsed, hg, hm]
  rlpLength_eq := by simp [SelectionState.record, h.rlpLength_eq]
  rlpLength_le ho _ := by
    have := hadm.size_le ho
    simp only [SelectionState.record]
    omega

theorem AccountingInv.step (h : AccountingInv env s) (hs : selectStep env index s c = .next s') :
    AccountingInv env s' := by
  rcases selectStep_eq_next hs with ⟨error, rfl⟩ | rfl | ⟨_, _, hg, hm, hadm, rfl⟩
  · exact h.markInvalid error
  · exact h
  · exact h.record hadm hg hm _

end Step

/-! ## Whole runs -/

/-- A run executes candidates of its list, in the list's order, each at most once. -/
theorem selectLoop_executed_sublist {env : SelectionEnv} :
    ∀ {cs : List Candidate} {index : Nat} {s s' : SelectionState},
      selectLoop env index s cs = .done s' → ∃ l, l.Sublist cs ∧ s'.executed = s.executed ++ l
  | [], _, _, _, h => by
    cases h
    exact ⟨[], .slnil, (List.append_nil _).symm⟩
  | c :: cs, index, s, s', h => by
    simp only [selectLoop] at h
    split at h
    next s₁ hs₁ =>
      obtain ⟨l, hl, he⟩ := selectLoop_executed_sublist h
      rcases selectStep_executed hs₁ with h₁ | h₁
      · exact ⟨l, .cons c hl, by rw [he, h₁]⟩
      · exact ⟨c :: l, .cons₂ c hl, by rw [he, h₁, List.append_assoc, List.singleton_append]⟩
    all_goals cases h

/-- A run from the initial state keeps the accounting, and executes its candidates in
order. -/
theorem AccountingInv.of_selectLoop {env : SelectionEnv} {cs : List Candidate}
    {s : SelectionState} (h : selectLoop env 0 .init cs = .done s) :
    AccountingInv env s ∧ s.executed.Sublist cs :=
  have ⟨_, hl, he⟩ := selectLoop_executed_sublist h
  ⟨selectLoop_invariant _ (fun _ _ _ _ _ hinv hs => hinv.step hs) .init h, he ▸ hl⟩

/-- **The loop's accounting.**  In every run of the selection loop that finishes, whatever
the candidates the pool yields, the sidecars it holds and the outcomes of the executions:
the executed candidates are candidates the pool yielded, in the pool's order, each at most
once; the gas used is the `u64` sum of the gas they used; the fees are the sum of their
effective tips times their gas used; the encoded length is the sum of theirs; and once
Osaka is active, a block with a transaction has that length, the withdrawals and the
1024-byte allowance within `MAX_RLP_BLOCK_SIZE`. -/
theorem selectLoop_accounting {env : SelectionEnv} {cs : List Candidate} {s : SelectionState}
    (h : selectLoop env 0 .init cs = .done s) :
    s.executed.Sublist cs ∧
    s.cumulativeGasUsed = (s.executed.map Candidate.gasUsed).sum % u64Modulus ∧
    s.totalFees = (s.executed.map (·.fee env.baseFee)).sum ∧
    s.blockTransactionsRlpLength = (s.executed.map (·.tx.encodedLength)).sum ∧
    (env.isOsaka = true → s.executed ≠ [] →
      (s.executed.map (·.tx.encodedLength)).sum + env.withdrawalsLength + 1024 ≤
        maxRlpBlockSize) := by
  obtain ⟨hinv, hsub⟩ := AccountingInv.of_selectLoop h
  refine ⟨hsub, hinv.cumulativeGasUsed_eq, hinv.totalFees_eq, hinv.rlpLength_eq,
    fun ho hne => ?_⟩
  rw [← hinv.rlpLength_eq]
  exact hinv.rlpLength_le ho hne

theorem selectLoop_accounting_transfer :
    let env := selectionEnv LoadChainSpec.default timestampOneAttributes ⟨30000000, 7, none⟩ none
    let s := SelectionState.init.record env transferCandidate none 21000 1
    selectLoop env 0 .init [transferCandidate] = .done s ∧
    s.executed.Sublist [transferCandidate] ∧
    s.cumulativeGasUsed = (s.executed.map Candidate.gasUsed).sum % u64Modulus ∧
    s.totalFees = (s.executed.map (·.fee env.baseFee)).sum ∧
    s.blockTransactionsRlpLength = (s.executed.map (·.tx.encodedLength)).sum ∧
    (env.isOsaka = true → s.executed ≠ [] →
      (s.executed.map (·.tx.encodedLength)).sum + env.withdrawalsLength + 1024 ≤
        maxRlpBlockSize) :=
  have h : selectLoop (selectionEnv LoadChainSpec.default timestampOneAttributes
      ⟨30000000, 7, none⟩ none) 0 .init [transferCandidate] =
      .done (SelectionState.init.record (selectionEnv LoadChainSpec.default
        timestampOneAttributes ⟨30000000, 7, none⟩ none) transferCandidate none 21000 1) := rfl
  ⟨h, selectLoop_accounting h⟩

/-! ## The calls on the pool's iterator -/

/-- `skip_blobs` has been called once if the block's blob count has reached a nonzero cap,
and never otherwise. -/
def SkipBlobsInv (env : SelectionEnv) (s : SelectionState) : Prop :=
  s.calls.count .skipBlobs =
    if s.blockBlobCount = env.maxBlobCount ∧ 0 < env.maxBlobCount then 1 else 0

/-- One iteration keeps `SkipBlobsInv` when its candidate, if it is a blob transaction that
executes, carries a blob: only the execution that brings the count to the cap calls
`skip_blobs`, and it is the only one that can. -/
theorem SkipBlobsInv.step {env : SelectionEnv} {index : Nat} {s s' : SelectionState}
    {c : Candidate}
    (hc : c.tx.isEip4844 = true → ∀ gasUsed, c.execution = .ok gasUsed → 0 < c.tx.blobCount)
    (h : SkipBlobsInv env s) (hs : selectStep env index s c = .next s') : SkipBlobsInv env s' := by
  rcases selectStep_eq_next hs with ⟨error, rfl⟩ | rfl | ⟨gasUsed, _, hg, -, hadm, rfl⟩
  · simpa [SkipBlobsInv, SelectionState.markInvalid] using h
  · exact h
  · cases h4844 : c.tx.isEip4844
    · simpa [SkipBlobsInv, SelectionState.record, h4844] using h
    · have hpos := hc h4844 gasUsed hg
      have hle := hadm.blobCount_le h4844
      unfold SkipBlobsInv at h ⊢
      have hold : ¬ (s.blockBlobCount = env.maxBlobCount ∧ 0 < env.maxBlobCount) := by omega
      rw [if_neg hold] at h
      by_cases hcap : s.blockBlobCount + c.tx.blobCount = env.maxBlobCount
      · have hmax : 0 < env.maxBlobCount := by omega
        simp [SelectionState.record, h4844, hcap, hmax, h, List.count_append]
      · simp [SelectionState.record, h4844, hcap, h]

/-- **`skip_blobs` is called once, when the cap is reached.**  In every run of the
selection loop that finishes, if every blob transaction that executes carries a blob: the
loop has called `skip_blobs` on the pool's iterator exactly once if the block's blob count
has reached a nonzero cap, and never otherwise. -/
theorem selectLoop_skipBlobs {env : SelectionEnv} {cs : List Candidate} {s : SelectionState}
    (hblobs : ∀ c ∈ cs, c.tx.isEip4844 = true →
      ∀ gasUsed, c.execution = .ok gasUsed → 0 < c.tx.blobCount)
    (h : selectLoop env 0 .init cs = .done s) :
    s.calls.count .skipBlobs =
      if s.blockBlobCount = env.maxBlobCount ∧ 0 < env.maxBlobCount then 1 else 0 :=
  selectLoop_invariant (SkipBlobsInv env)
    (fun _ _ c _ hc hinv hs => hinv.step (hblobs c hc) hs)
    (by rw [SkipBlobsInv, if_neg fun ⟨h0, hmax⟩ => (Nat.lt_irrefl _) (h0.symm ▸ hmax)]; rfl) h

/-- A cap of one blob, reached by `osakaBlobCandidate`. -/
def oneBlobEnv : SelectionEnv := ⟨30000000, 7, 1, true, 0, none⟩

theorem selectLoop_skipBlobs_oneBlob :
    (∀ c ∈ [osakaBlobCandidate], c.tx.isEip4844 = true →
      ∀ gasUsed, c.execution = .ok gasUsed → 0 < c.tx.blobCount) ∧
    selectLoop oneBlobEnv 0 .init [osakaBlobCandidate] =
      .done (SelectionState.init.record oneBlobEnv osakaBlobCandidate
        osakaBlobCandidate.includedSidecar 21000 1) ∧
    (SelectionState.init.record oneBlobEnv osakaBlobCandidate
        osakaBlobCandidate.includedSidecar 21000 1).calls.count .skipBlobs =
      if (SelectionState.init.record oneBlobEnv osakaBlobCandidate
          osakaBlobCandidate.includedSidecar 21000 1).blockBlobCount = oneBlobEnv.maxBlobCount ∧
        0 < oneBlobEnv.maxBlobCount then 1 else 0 :=
  have hblobs : ∀ c ∈ [osakaBlobCandidate], c.tx.isEip4844 = true →
      ∀ gasUsed, c.execution = .ok gasUsed → 0 < c.tx.blobCount := by
    simp [osakaBlobCandidate, TransactionSigned.blobCount]
  have h : selectLoop oneBlobEnv 0 .init [osakaBlobCandidate] =
      .done (SelectionState.init.record oneBlobEnv osakaBlobCandidate
        osakaBlobCandidate.includedSidecar 21000 1) := rfl
  ⟨hblobs, h, selectLoop_skipBlobs hblobs h⟩

/-! ## What the pool is told about each candidate -/

/-- What became of a candidate the loop took. -/
inductive CandidateFate
  | executed
  | markedInvalid (error : InvalidPoolTransactionError)
  | skippedNonceTooLow
  deriving DecidableEq

/-- Why a candidate met its fate: it executed; the error it was marked invalid with says
what it failed; or its execution found its nonce too low. -/
def CandidateFate.Justified (env : SelectionEnv) (c : Candidate) : CandidateFate → Prop
  | .executed => ∃ gasUsed, c.execution = .ok gasUsed
  | .markedInvalid error => error.Justifies env c
  | .skippedNonceTooLow => c.execution = .error (.invalidTx true)

/-- The candidate, if its fate was to be executed. -/
def CandidateFate.executedCandidate : Candidate × CandidateFate → Option Candidate
  | (c, .executed) => some c
  | _ => none

/-- The `mark_invalid` call a candidate's fate made, if any. -/
def CandidateFate.markInvalidCall : Candidate × CandidateFate → Option BestTransactionsCall
  | (c, .markedInvalid error) => some (.markInvalid c.tx error)
  | _ => none

/-- Whether a call on the iterator is a `mark_invalid`. -/
def BestTransactionsCall.isMarkInvalid : BestTransactionsCall → Bool
  | .markInvalid _ _ => true
  | .skipBlobs => false

/-- One iteration gives its candidate one fate, for a reason, and adds to the executed
candidates and to the `mark_invalid` calls exactly what that fate says. -/
theorem selectStep_candidateFate {env : SelectionEnv} {index : Nat} {s s' : SelectionState}
    {c : Candidate} (h : selectStep env index s c = .next s') :
    ∃ fate : CandidateFate, fate.Justified env c ∧
      s'.executed = s.executed ++ (CandidateFate.executedCandidate (c, fate)).toList ∧
      s'.calls.filter BestTransactionsCall.isMarkInvalid =
        s.calls.filter BestTransactionsCall.isMarkInvalid ++
          (CandidateFate.markInvalidCall (c, fate)).toList := by
  rcases selectStep_fate h with ⟨error, hj, rfl⟩ | ⟨he, rfl⟩ | ⟨gasUsed, _, hg, -, -, rfl⟩
  · exact ⟨.markedInvalid error, hj, by simp [SelectionState.markInvalid,
      CandidateFate.executedCandidate], by simp [SelectionState.markInvalid,
      CandidateFate.markInvalidCall, BestTransactionsCall.isMarkInvalid]⟩
  · exact ⟨.skippedNonceTooLow, he, by simp [CandidateFate.executedCandidate],
      by simp [CandidateFate.markInvalidCall]⟩
  · refine ⟨.executed, ⟨gasUsed, hg⟩, rfl, ?_⟩
    simp only [SelectionState.record, CandidateFate.markInvalidCall, Option.toList_none,
      List.append_nil]
    split_ifs <;> simp [BestTransactionsCall.isMarkInvalid]

/-- **No candidate is dropped without telling the pool, but for a low nonce.**  In every run
of the selection loop that finishes, each candidate the pool yielded has exactly one fate.
It was executed, and it is in the block.  Or it was marked invalid on the pool's iterator,
and the error says what it failed.  Or its execution found its nonce too low, the one case
the pool is not told about.  The candidates the run executed and the `mark_invalid` calls
it made are exactly those the fates give, in the pool's order. -/
theorem selectLoop_candidateFates {env : SelectionEnv} :
    ∀ {cs : List Candidate} {index : Nat} {s s' : SelectionState},
      selectLoop env index s cs = .done s' →
      ∃ fates : List CandidateFate, fates.length = cs.length ∧
        (∀ p ∈ cs.zip fates, p.2.Justified env p.1) ∧
        s'.executed = s.executed ++ (cs.zip fates).filterMap CandidateFate.executedCandidate ∧
        s'.calls.filter BestTransactionsCall.isMarkInvalid =
          s.calls.filter BestTransactionsCall.isMarkInvalid ++
            (cs.zip fates).filterMap CandidateFate.markInvalidCall
  | [], _, _, _, h => by
    cases h
    exact ⟨[], rfl, by simp, by simp, by simp⟩
  | c :: cs, index, s, s', h => by
    simp only [selectLoop] at h
    split at h
    next s₁ hs₁ =>
      obtain ⟨fate, hj, hex, hcalls⟩ := selectStep_candidateFate hs₁
      obtain ⟨fates, hlen, hjs, hex', hcalls'⟩ := selectLoop_candidateFates h
      refine ⟨fate :: fates, by simp [hlen], ?_, ?_, ?_⟩
      · simpa only [List.zip_cons_cons, List.mem_cons, forall_eq_or_imp] using ⟨hj, hjs⟩
      · rw [hex', hex, List.zip_cons_cons, List.filterMap_cons, List.append_assoc]
        cases CandidateFate.executedCandidate (c, fate) <;> rfl
      · rw [hcalls', hcalls, List.zip_cons_cons, List.filterMap_cons, List.append_assoc]
        cases CandidateFate.markInvalidCall (c, fate) <;> rfl
    all_goals cases h

theorem selectLoop_candidateFates_transfer :
    let env := selectionEnv LoadChainSpec.default timestampOneAttributes ⟨30000000, 7, none⟩ none
    let s := (SelectionState.init.record env transferCandidate none 21000 1).markInvalid
      oversizedCandidate (.exceedsGasLimit 30000001 30000000)
    let cs := [transferCandidate, oversizedCandidate]
    selectLoop env 0 .init cs = .done s ∧
    ∃ fates : List CandidateFate, fates.length = cs.length ∧
      (∀ p ∈ cs.zip fates, p.2.Justified env p.1) ∧
      s.executed =
        SelectionState.init.executed ++ (cs.zip fates).filterMap CandidateFate.executedCandidate ∧
      s.calls.filter BestTransactionsCall.isMarkInvalid =
        SelectionState.init.calls.filter BestTransactionsCall.isMarkInvalid ++
          (cs.zip fates).filterMap CandidateFate.markInvalidCall :=
  have h : selectLoop (selectionEnv LoadChainSpec.default timestampOneAttributes
      ⟨30000000, 7, none⟩ none) 0 .init [transferCandidate, oversizedCandidate] =
      .done ((SelectionState.init.record (selectionEnv LoadChainSpec.default
        timestampOneAttributes ⟨30000000, 7, none⟩ none) transferCandidate none 21000 1).markInvalid
        oversizedCandidate (.exceedsGasLimit 30000001 30000000)) := rfl
  ⟨h, selectLoop_candidateFates h⟩

/-! ## Outcomes -/

theorem executeCandidate_ne_cancelled {env : SelectionEnv} {s : SelectionState} {c : Candidate}
    {sidecar : Option BlobTransactionSidecarVariant} :
    executeCandidate env s c sidecar ≠ .cancelled := by
  unfold executeCandidate
  split <;> (try split) <;> simp

/-- An iteration ends the build as cancelled only where the signal is set at its poll. -/
theorem isCancelled_of_selectStep {env : SelectionEnv} {index : Nat} {s : SelectionState}
    {c : Candidate} (h : selectStep env index s c = .cancelled) : env.isCancelled index = true := by
  unfold selectStep at h
  by_cases hgas : (s.cumulativeGasUsed + c.tx.gasLimit) % u64Modulus > env.blockGasLimit
  · simp only [hgas, if_true] at h
    cases h
  simp only [hgas, if_false] at h
  split at h
  · assumption
  split at h
  · cases h
  split at h
  · exact absurd h executeCandidate_ne_cancelled
  split at h
  · cases h
  split at h
  · cases h
  split at h
  · exact absurd h executeCandidate_ne_cancelled
  · cases h

/-- Without a cancel signal, the loop never ends as cancelled. -/
theorem selectLoop_ne_cancelled {env : SelectionEnv} (hc : env.cancelledAt = none) :
    ∀ (cs : List Candidate) (index : Nat) (s : SelectionState), selectLoop env index s cs ≠ .cancelled
  | [], _, _ => by simp [selectLoop]
  | c :: cs, index, s => by
    simp only [selectLoop]
    split
    · exact selectLoop_ne_cancelled hc cs _ _
    · next hs =>
      have hnot : env.isCancelled index = false := by simp [SelectionEnv.isCancelled, hc]
      rw [isCancelled_of_selectStep hs] at hnot
      cases hnot
    all_goals simp

/-- With no best payload and no cancel signal, a build that succeeds delivers a better
payload: nothing beats no payload, and nothing cancels the loop. -/
theorem defaultLoadPayload_fresh_eq_better {spec : LoadChainSpec} {upstream : UpstreamBuilder}
    {parentTimestamp : Nat} {attributes : LoadPayloadBuilderAttributes}
    {bestTxs : BestTransactionsAttributes → List Candidate} {outcome : BuildOutcome}
    (h : defaultLoadPayload spec upstream parentTimestamp attributes none none bestTxs =
      some (.ok outcome)) :
    ∃ p, outcome = .better p := by
  obtain ⟨-, blockEnv, -, ⟨s, -, hseal⟩ | ⟨hloop, -⟩⟩ := defaultLoadPayload_eq_ok h
  · rcases sealPayload_eq_ok hseal with ⟨hb, -⟩ | ⟨-, -, -, -, -, rfl⟩
    · cases hb
    · exact ⟨_, rfl⟩
  · exact absurd hloop (selectLoop_ne_cancelled rfl _ _ _)

/-- **`build_empty_payload` is the build, with nothing missing.**  Whatever the pool yields
and whatever the upstream builder answers, `build_empty_payload` returns what
`default_load_payload` returns with no best payload and no cancel signal: the same panic,
the same error, or the payload of the same better outcome.  Its `MissingPayload` is never
raised, and the payload holds the pool transactions the build executed: the empty payload
need not be empty. -/
theorem buildEmptyPayload_map_better (spec : LoadChainSpec) (upstream : UpstreamBuilder)
    (parentTimestamp : Nat) (attributes : LoadPayloadBuilderAttributes)
    (bestTxs : BestTransactionsAttributes → List Candidate) :
    (buildEmptyPayload spec upstream parentTimestamp attributes bestTxs).map
        (·.map BuildOutcome.better) =
      defaultLoadPayload spec upstream parentTimestamp attributes none none bestTxs := by
  unfold buildEmptyPayload
  cases h : defaultLoadPayload spec upstream parentTimestamp attributes none none bestTxs with
  | none => rfl
  | some r =>
    cases r with
    | error e => rfl
    | ok outcome =>
      obtain ⟨p, rfl⟩ := defaultLoadPayload_fresh_eq_better h
      rfl

/-! ## A better payload -/

/-- **A better payload's accounting.**  When a build delivers a better payload, whatever
the pool yields and whatever the executions and the upstream builder answer: the block was
assembled from candidates the pool yielded, in the pool's order, each at most once; the
payload's fees are exactly the effective tips times the gas used of those transactions,
and more than the best payload's so far; and once Osaka is active, the sealed block's
encoded length is within `MAX_RLP_BLOCK_SIZE`, and so was the loop's estimate for it. -/
theorem defaultLoadPayload_better_accounting {spec : LoadChainSpec} {upstream : UpstreamBuilder}
    {parentTimestamp : Nat} {attributes : LoadPayloadBuilderAttributes}
    {bestPayload : Option LoadBuiltPayload} {cancelledAt : Option Nat}
    {bestTxs : BestTransactionsAttributes → List Candidate} {p : LoadBuiltPayload}
    (h : defaultLoadPayload spec upstream parentTimestamp attributes bestPayload cancelledAt
      bestTxs = some (.ok (.better p))) :
    ∃ blockEnv executed executionRequests, upstream.setup = .ok blockEnv ∧
      executed.Sublist (bestTxs blockEnv.bestTransactionsAttributes) ∧
      upstream.finish (executed.map (·.tx)) = .ok (p.block, executionRequests) ∧
      p.fees = (executed.map (·.fee blockEnv.basefee)).sum ∧
      (∀ best ∈ bestPayload, best.fees < p.fees) ∧
      (spec.isOsakaActiveAtTimestamp attributes.timestamp = true →
        upstream.rlpLength p.block ≤ maxRlpBlockSize ∧
        (executed ≠ [] → (executed.map (·.tx.encodedLength)).sum +
          withdrawalsLength attributes.withdrawals + 1024 ≤ maxRlpBlockSize)) := by
  obtain ⟨-, blockEnv, hsetup, ⟨s, hloop, hseal⟩ | ⟨-, ⟨⟩⟩⟩ := defaultLoadPayload_eq_ok h
  obtain ⟨hbetter, reqs, hfinish, hsize, hfees, -⟩ := sealPayload_eq_better hseal
  obtain ⟨hinv, hsub⟩ := AccountingInv.of_selectLoop hloop
  refine ⟨blockEnv, s.executed, reqs, hsetup, hsub, hfinish, hfees.trans hinv.totalFees_eq,
    fun best hbest => ?_, fun ho => ⟨hsize ho, fun hne => ?_⟩⟩
  · obtain rfl : bestPayload = some best := hbest
    simp only [isBetterPayload, Option.all_some, decide_eq_true_eq] at hbetter
    omega
  · rw [← hinv.rlpLength_eq]
    exact hinv.rlpLength_le ho hne

theorem defaultLoadPayload_better_accounting_osaka :
    let p := osakaBlobPayload
    defaultLoadPayload LoadChainSpec.osakaAtGenesis (sealingUpstream 30000000) 0
      timestampOneAttributes none none (fun _ => [osakaBlobCandidate]) = some (.ok (.better p)) ∧
    ∃ blockEnv executed executionRequests, (sealingUpstream 30000000).setup = .ok blockEnv ∧
      executed.Sublist [osakaBlobCandidate] ∧
      (sealingUpstream 30000000).finish (executed.map (·.tx)) =
        .ok (p.block, executionRequests) ∧
      p.fees = (executed.map (·.fee blockEnv.basefee)).sum ∧
      (∀ best ∈ (none : Option LoadBuiltPayload), best.fees < p.fees) ∧
      (LoadChainSpec.osakaAtGenesis.isOsakaActiveAtTimestamp timestampOneAttributes.timestamp =
          true →
        (sealingUpstream 30000000).rlpLength p.block ≤ maxRlpBlockSize ∧
        (executed ≠ [] → (executed.map (·.tx.encodedLength)).sum +
          withdrawalsLength timestampOneAttributes.withdrawals + 1024 ≤ maxRlpBlockSize)) :=
  have h : defaultLoadPayload LoadChainSpec.osakaAtGenesis (sealingUpstream 30000000) 0
      timestampOneAttributes none none (fun _ => [osakaBlobCandidate]) =
        some (.ok (.better osakaBlobPayload)) := rfl
  ⟨h, defaultLoadPayload_better_accounting h⟩

end LoadReth
