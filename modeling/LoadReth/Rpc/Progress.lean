import LoadReth.Rpc.Batch

/-!
# RPC backpressure: progress

The admission gates never make a request wait for another: `try_acquire` takes a permit
or answers overload at once, and the permit is dropped as soon as the inner service
answers.  This module proves it of the model of `LoadReth.Rpc.Backpressure`.  From any
reachable state, a request run alone is answered within four of its own steps, and the
other requests are not touched.  So every reachable state can be drained: all requests
answered, and every counter back at zero.  A `batch` call needs no other request's help
either: a schedule of its own steps returns it, within a number of steps linear in the
entries it has left.

## Main definitions

* `soloPotential`: how many steps a request still needs, run alone.
* `BatchedSystem.ReturnsWithin`: a schedule of the batch's own steps returns it.

## Main results

* `RequestPhase.soloPotential_step`: a solo step of an unanswered request lowers its
  potential.
* `request_answered_alone`: a request run alone is answered within four steps.
* `reachable_drains`: every reachable state drains, all requests answered and every
  counter zero.
* `batch_returns`: a `batch` call returns from every state it reaches.

## Design notes

* Progress is stated with the schedule as a witness, and the schedule takes no spurious
  exchange failure.  A weak exchange that fails spuriously forever keeps a request in the
  retry loop; neither the code nor the model bounds that.
* A request that read the counter for the exchange has potential two if the counter
  still holds the value read, since the exchange then succeeds, and four otherwise, since
  the exchange fails and the request goes back to the load.
* The batch's progress is relative to the inner service: each step of the task that awaits
  it takes its answer, `answer`, at once.  The gates add no waiting of their own.
-/

namespace LoadReth

/-! ## A request run alone -/

/-- How many of its own steps, none failing spuriously, a request in `phase` still takes to
be answered, with the gates in `st`. -/
def soloPotential (st : LoadRpcBackpressureState) : RequestPhase → Nat
  | .start => 4
  | .acquiring _ => 3
  | .loaded method inflight => if (st.gate method).inflight = inflight then 2 else 4
  | .holding _ | .storing _ => 1
  | .released _ | .overloaded _ | .passed => 0

theorem soloPotential_le_four (st : LoadRpcBackpressureState) (phase : RequestPhase) :
    soloPotential st phase ≤ 4 := by
  unfold soloPotential
  split <;> (try split) <;> omega

/-- **A solo step lowers the potential.**  An unanswered request has a step that does not
fail spuriously, and that step lowers its potential, as long as a release does not read
zero. -/
theorem RequestPhase.soloPotential_step (st : LoadRpcBackpressureState) (methodName : String)
    {phase : RequestPhase} (ha : phase.isAnswered = false)
    (hz : ∀ method, phase = .holding method → (st.gate method).inflight ≠ 0) :
    ∃ next, phase.step st methodName false = some next ∧
      soloPotential next.1 next.2 < soloPotential st phase := by
  cases phase with
  | start =>
    cases hc : st.classifyMethod methodName <;> simp only [step, hc] <;>
      exact ⟨_, rfl, by simp [soloPotential]⟩
  | acquiring method =>
    by_cases hl : (st.gate method).limit ≤ (st.gate method).inflight <;>
      simp only [step, ge_iff_le, hl, if_true, if_false] <;>
      exact ⟨_, rfl, by simp [soloPotential]⟩
  | loaded method inflight =>
    by_cases he : (st.gate method).inflight = inflight <;>
      simp only [step, compareExchangeWeak, he, and_true, if_true, if_false] <;>
      exact ⟨_, rfl, by simp [soloPotential, he]⟩
  | holding method =>
    simp only [step, if_neg (hz method rfl)]
    exact ⟨_, rfl, by simp [soloPotential]⟩
  | storing method => exact ⟨_, rfl, by simp [soloPotential]⟩
  | released | overloaded | passed => cases ha

/-- A request's step keeps every request's method. -/
theorem methodNames_set {requests : List Request} {index : Nat} {r : Request}
    (hr : requests[index]? = some r) (phase : RequestPhase) :
    (requests.set index { r with phase }).map Request.methodName =
      requests.map Request.methodName := by
  refine List.ext_getElem? fun j => ?_
  by_cases hj : index = j
  · subst hj
    obtain ⟨hlt, rfl⟩ := List.getElem?_eq_some_iff.mp hr
    simp [hlt]
  · simp [List.getElem?_set_ne hj]

namespace System

variable {config : LoadRpcBackpressureConfig}

/-- A request run alone from a reachable state is answered within its potential; the other
requests are untouched, and every request keeps its method. -/
theorem soloRun {sys : System} (hreach : Reachable config sys) {index : Nat} {r : Request}
    (hr : sys.requests[index]? = some r) :
    ∃ k ≤ soloPotential sys.state r.phase, ∃ sys',
      sys.run (List.replicate k (.step index false)) = some sys' ∧ sys'.Answered index ∧
      sys'.requests.map Request.methodName = sys.requests.map Request.methodName ∧
      ∀ j ≠ index, sys'.requests[j]? = sys.requests[j]? := by
  generalize hn : soloPotential sys.state r.phase = n
  induction n using Nat.strongRecOn generalizing sys r with
  | ind n ih =>
    cases ha : r.phase.isAnswered with
    | true => exact ⟨0, Nat.zero_le _, sys, rfl, ⟨r, hr, ha⟩, rfl, fun _ _ => rfl⟩
    | false =>
      obtain ⟨⟨st', phase'⟩, hs, hlt⟩ := RequestPhase.soloPotential_step sys.state r.methodName ha
        fun _ hm => (reachable_gateInv hreach).inflight_ne_zero (List.getElem?_mem hr) hm
      have hstep : sys.step (.step index false) =
          some ⟨st', sys.requests.set index { r with phase := phase' }⟩ := by
        simp [step, hr, hs]
      have hr' : (sys.requests.set index { r with phase := phase' })[index]? =
          some { r with phase := phase' } := by
        simp [(List.getElem?_eq_some_iff.mp hr).1]
      have hlt' : soloPotential st' phase' < n := hn ▸ hlt
      obtain ⟨k, hk, sys', hrun, hans, hnames, hframe⟩ := ih _ hlt' (hreach.step hstep) hr' rfl
      refine ⟨k + 1, by omega, sys', by rw [List.replicate_succ, run, hstep]; exact hrun, hans,
        hnames.trans (methodNames_set hr phase'), fun j hj => ?_⟩
      rw [hframe j hj]
      exact List.getElem?_set_ne (Ne.symm hj)

/-- No request holds a permit once all are answered. -/
theorem livePermits_eq_zero {sys : System}
    (ha : ∀ index < sys.requests.length, sys.Answered index) (method : GuardedMethod) :
    sys.livePermits method = 0 := by
  refine List.countP_eq_zero.mpr fun r hr hm => ?_
  obtain ⟨index, hi⟩ := List.mem_iff_getElem?.mp hr
  obtain ⟨r', hr', hans⟩ := ha index (List.getElem?_eq_some_iff.mp hi).1
  obtain rfl := Option.some.inj (hi.symm.trans hr')
  simp [of_decide_eq_true hm, RequestPhase.isAnswered] at hans

/-- The first `m` requests, run alone one after the other, are answered within four steps
each. -/
theorem drainPrefix {sys : System} (hreach : Reachable config sys) :
    ∀ m ≤ sys.requests.length, ∃ actions : List Action,
      (∀ a ∈ actions, ∃ index < m, a = .step index false) ∧ actions.length ≤ 4 * m ∧
      ∃ sys', sys.run actions = some sys' ∧
        sys'.requests.map Request.methodName = sys.requests.map Request.methodName ∧
        ∀ index < m, sys'.Answered index
  | 0, _ => ⟨[], by simp, by simp, sys, rfl, rfl, fun _ h => absurd h (Nat.not_lt_zero _)⟩
  | m + 1, hm => by
    obtain ⟨actions, hact, hlen, sys₁, hrun₁, hnames₁, hans₁⟩ := drainPrefix hreach m (by omega)
    have hlt : m < sys₁.requests.length := by
      simpa only [← List.length_map _ Request.methodName, hnames₁] using hm
    obtain ⟨k, hk, sys₂, hrun₂, hans₂, hnames₂, hframe⟩ :=
      soloRun (hreach.run hrun₁) (List.getElem?_eq_getElem hlt)
    have hk4 := hk.trans (soloPotential_le_four _ _)
    refine ⟨actions ++ List.replicate k (.step m false), fun a ha => ?_, by simp; omega, sys₂,
      by rw [run_append, hrun₁]; exact hrun₂, hnames₂.trans hnames₁, fun index hi => ?_⟩
    · rcases List.mem_append.mp ha with ha | ha
      · obtain ⟨index, hi, rfl⟩ := hact a ha
        exact ⟨index, by omega, rfl⟩
      · exact ⟨m, by omega, (List.mem_replicate.mp ha).2⟩
    · by_cases him : index = m
      · exact him ▸ hans₂
      · obtain ⟨r, hr, hr'⟩ := hans₁ index (by omega)
        exact ⟨r, (hframe index him).trans hr, hr'⟩

end System

/-- **A request run alone is answered.**  In every state the gates reach, any request,
taking its own steps with no spurious exchange failure and with no other request moving,
is answered within four steps: passed on, rejected with the overload error, or served and
its permit dropped.  The other requests are untouched, and every request keeps its
method. -/
theorem request_answered_alone {config : LoadRpcBackpressureConfig} {sys : System}
    (hreach : Reachable config sys) {index : Nat} (hlt : index < sys.requests.length) :
    ∃ k ≤ 4, ∃ sys', sys.run (List.replicate k (.step index false)) = some sys' ∧
      sys'.Answered index ∧
      sys'.requests.map Request.methodName = sys.requests.map Request.methodName ∧
      ∀ j ≠ index, sys'.requests[j]? = sys.requests[j]? := by
  obtain ⟨k, hk, rest⟩ := System.soloRun hreach (List.getElem?_eq_getElem hlt)
  exact ⟨k, hk.trans (soloPotential_le_four _ _), rest⟩

theorem request_answered_alone_capacity :
    Reachable capacityConfig capacitySystem ∧ 0 < capacitySystem.requests.length ∧
    ∃ k ≤ 4, ∃ sys', capacitySystem.run (List.replicate k (.step 0 false)) = some sys' ∧
      sys'.Answered 0 ∧
      sys'.requests.map Request.methodName = capacitySystem.requests.map Request.methodName ∧
      ∀ j ≠ 0, sys'.requests[j]? = capacitySystem.requests[j]? :=
  have hreach : Reachable capacityConfig capacitySystem :=
    reachable_iff_run.mpr ⟨capacitySchedule, rfl⟩
  ⟨hreach, by decide, request_answered_alone hreach (by decide)⟩

/-- **Every reachable state drains.**  From every state the gates reach, a schedule of solo
steps, none failing spuriously and at most four per request, answers every request: the
same requests, each with its method, are then all answered, and every gate's counter is
back at zero, so no permit is leaked. -/
theorem reachable_drains {config : LoadRpcBackpressureConfig} {sys : System}
    (hreach : Reachable config sys) :
    ∃ actions : List Action,
      (∀ a ∈ actions, ∃ index < sys.requests.length, a = .step index false) ∧
      actions.length ≤ 4 * sys.requests.length ∧
      ∃ sys', sys.run actions = some sys' ∧
        sys'.requests.map Request.methodName = sys.requests.map Request.methodName ∧
        (∀ index < sys.requests.length, sys'.Answered index) ∧
        ∀ method, (sys'.state.gate method).inflight = 0 := by
  obtain ⟨actions, hact, hlen, sys', hrun, hnames, hans⟩ :=
    System.drainPrefix hreach _ (le_refl _)
  have hlen' : sys'.requests.length = sys.requests.length := by
    simpa only [List.length_map] using congrArg List.length hnames
  refine ⟨actions, hact, hlen, sys', hrun, hnames, hans, fun method => ?_⟩
  rw [(reachable_gateInv (hreach.run hrun)).inflight_eq]
  exact System.livePermits_eq_zero (hlen' ▸ hans) method

theorem reachable_drains_capacity :
    Reachable capacityConfig capacitySystem ∧
    ∃ actions : List Action,
      (∀ a ∈ actions, ∃ index < capacitySystem.requests.length, a = .step index false) ∧
      actions.length ≤ 4 * capacitySystem.requests.length ∧
      ∃ sys', capacitySystem.run actions = some sys' ∧
        sys'.requests.map Request.methodName =
          capacitySystem.requests.map Request.methodName ∧
        (∀ index < capacitySystem.requests.length, sys'.Answered index) ∧
        ∀ method, (sys'.state.gate method).inflight = 0 :=
  have hreach : Reachable capacityConfig capacitySystem :=
    reachable_iff_run.mpr ⟨capacitySchedule, rfl⟩
  ⟨hreach, reachable_drains hreach⟩

/-! ## A `batch` call returns -/

namespace BatchTask

variable {t : BatchTask} {responseLength : MethodResponse → Nat} {response : MethodResponse}

@[simp] theorem remaining_append : (t.append responseLength response).remaining = t.remaining := by
  unfold append
  split <;> rfl

/-- Appending a response goes back to the loop, or returns the builder's error. -/
theorem stage_append (t : BatchTask) (responseLength : MethodResponse → Nat)
    (response : MethodResponse) :
    (t.append responseLength response).stage = .looping ∨
      ∃ r, (t.append responseLength response).stage = .returned r := by
  unfold append
  split <;> simp

variable {sys : System} {answer : MethodResponse}

theorem step_start_guarded (hs : t.stage = .start) (hg : sys.state.hasGuardedCall t.batch = true) :
    t.step responseLength sys answer =
      some ({ t with stage := .looping, builder := .newWithLimit t.responseLimit }, sys) := by
  simp only [step, hs, hg, if_true]

theorem step_start_unguarded (hs : t.stage = .start)
    (hg : sys.state.hasGuardedCall t.batch = false) :
    t.step responseLength sys answer = some ({ t with
      stage := .returned (.inner answer)
      innerRequests := t.innerRequests ++ [.batch t.batch] }, sys) := by
  simp only [step, hs, hg, Bool.false_eq_true, if_false]

/-- Once the awaited request is answered, the task takes its answer. -/
theorem step_awaiting_of_answered (responseLength : MethodResponse → Nat) {index : Nat}
    {call : CallRequest} (hs : t.stage = .awaiting index call) (ha : sys.Answered index)
    (answer : MethodResponse) :
    ∃ response, t.step responseLength sys answer = some (t.append responseLength response, sys) := by
  obtain ⟨r, hr, hans⟩ := ha
  simp only [step, hs, hr]
  cases hp : r.phase <;>
    simp only [hp, RequestPhase.isAnswered, Bool.false_eq_true] at hans ⊢ <;> exact ⟨_, rfl⟩

end BatchTask

namespace BatchedSystem

variable {responseLength : MethodResponse → Nat}

theorem run_append (bs : BatchedSystem) (xs ys : List BatchAction) :
    bs.run responseLength (xs ++ ys) =
      (bs.run responseLength xs).bind (·.run responseLength ys) := by
  induction xs generalizing bs with
  | nil => rfl
  | cons a xs ih =>
    simp only [List.cons_append, run]
    split <;> simp [ih]

/-- Steps of the gates' system, with the task standing still. -/
theorem run_map_request (sys : System) (t : BatchTask) (actions : List Action) :
    run responseLength ⟨sys, t⟩ (actions.map .request) = (sys.run actions).map (⟨·, t⟩) := by
  induction actions generalizing sys with
  | nil => rfl
  | cons a actions ih => cases h : sys.step a <;> simp [run, step, System.run, h, ih]

/-- A schedule of the batch's own steps: steps of its task, with the inner service answering
`answer` wherever the task awaits it, and steps of requests in `issued`, none failing
spuriously. -/
def OwnSchedule (answer : MethodResponse) (issued : List Nat) (actions : List BatchAction) :
    Prop :=
  ∀ a ∈ actions, a = .task answer ∨ ∃ index ∈ issued, a = .request (.step index false)

/-- A schedule of the batch's own steps, at most `bound` of them, returns it. -/
def ReturnsWithin (responseLength : MethodResponse → Nat) (answer : MethodResponse)
    (bs : BatchedSystem) (bound : Nat) : Prop :=
  ∃ actions bs', actions.length ≤ bound ∧ bs.run responseLength actions = some bs' ∧
    bs.task.issued <+: bs'.task.issued ∧ OwnSchedule answer bs'.task.issued actions ∧
    ∃ response, bs'.task.stage = .returned response

variable {config : LoadRpcBackpressureConfig} {answer : MethodResponse} {bs : BatchedSystem}
  {bound : Nat}

theorem ReturnsWithin.of_returned {response : BatchResponse}
    (hs : bs.task.stage = .returned response) : ReturnsWithin responseLength answer bs 0 :=
  ⟨[], bs, le_refl _, rfl, List.prefix_refl _, by simp [OwnSchedule], response, hs⟩

theorem ReturnsWithin.mono (h : ReturnsWithin responseLength answer bs bound) {bound' : Nat}
    (hb : bound ≤ bound') : ReturnsWithin responseLength answer bs bound' :=
  let ⟨actions, bs', hlen, rest⟩ := h
  ⟨actions, bs', hlen.trans hb, rest⟩

theorem ReturnsWithin.of_run {bs₁ : BatchedSystem}
    (h : ReturnsWithin responseLength answer bs₁ bound) {xs : List BatchAction}
    (hrun : bs.run responseLength xs = some bs₁) (hiss : bs.task.issued <+: bs₁.task.issued)
    (hown : OwnSchedule answer bs₁.task.issued xs) :
    ReturnsWithin responseLength answer bs (bound + xs.length) := by
  obtain ⟨ys, bs', hlen, hrun', hiss', hown', hret⟩ := h
  refine ⟨xs ++ ys, bs', by simp only [List.length_append]; omega,
    by rw [run_append, hrun]; exact hrun', hiss.trans hiss', fun a ha => ?_, hret⟩
  rcases List.mem_append.mp ha with ha | ha
  · exact (hown a ha).imp_right fun ⟨index, hi, he⟩ => ⟨index, hiss'.subset hi, he⟩
  · exact hown' a ha

theorem ReturnsWithin.of_taskStep {t' : BatchTask} {sys' : System}
    (h : ReturnsWithin responseLength answer ⟨sys', t'⟩ bound)
    (hstep : bs.task.step responseLength bs.system answer = some (t', sys'))
    (hiss : bs.task.issued <+: t'.issued) : ReturnsWithin responseLength answer bs (bound + 1) :=
  h.of_run (show bs.run responseLength [.task answer] = some ⟨sys', t'⟩ by simp [run, step, hstep])
    hiss (by simp [OwnSchedule])

end BatchedSystem

open BatchedSystem

section Returns

variable {config : LoadRpcBackpressureConfig} {responseLength : MethodResponse → Nat}
  {answer : MethodResponse}

theorem BatchReachable.taskStep {bs : BatchedSystem} (h : BatchReachable config responseLength bs)
    {t' : BatchTask} {sys' : System}
    (hstep : bs.task.step responseLength bs.system answer = some (t', sys')) :
    BatchReachable config responseLength ⟨sys', t'⟩ :=
  h.step (show bs.step responseLength (.task answer) = some ⟨sys', t'⟩ by
    simp [BatchedSystem.step, hstep])

/-- The awaited call is answered within five of the batch's own steps: its request, run
alone, is answered, and the task takes the answer.  Then the loop goes on with the same
entries left, or the batch returns the builder's error. -/
theorem ReturnsWithin.of_awaiting {bs : BatchedSystem} (h : BatchReachable config responseLength bs)
    {index : Nat} {call : CallRequest} (hs : bs.task.stage = .awaiting index call) {bound : Nat}
    (hloop : ∀ {bs'}, BatchReachable config responseLength bs' → bs'.task.stage = .looping →
      bs'.task.remaining = bs.task.remaining → ReturnsWithin responseLength answer bs' bound) :
    ReturnsWithin responseLength answer bs (bound + 5) := by
  obtain ⟨sys, t⟩ := bs
  dsimp only at hs
  have hinv := batchReachable_batchInv h
  obtain ⟨answered, hl⟩ : ∃ answered, LoopInv responseLength sys t (some (.call call index)) answered := by
    simpa only [StageInv, hs] using hinv.stage
  obtain ⟨r, hr, -⟩ := hl.pendingRequest call index rfl
  have hmem : index ∈ t.issued := by simp [← hl.issued, AnsweredEntry.index]
  obtain ⟨k, hk, sys', hrun, hans, -, -⟩ := System.soloRun hinv.reachable hr
  have hk4 := hk.trans (soloPotential_le_four _ _)
  obtain ⟨response, hstep⟩ := BatchTask.step_awaiting_of_answered responseLength hs hans answer
  have hrun' : run responseLength ⟨sys, t⟩ ((List.replicate k (.step index false)).map .request) =
      some ⟨sys', t⟩ := by
    rw [run_map_request, hrun]
    rfl
  have hown : OwnSchedule answer t.issued ((List.replicate k (.step index false)).map .request) := by
    intro a ha
    obtain ⟨x, hx, rfl⟩ := List.mem_map.mp ha
    exact .inr ⟨index, hmem, by rw [(List.mem_replicate.mp hx).2]⟩
  have hnext : ReturnsWithin responseLength answer ⟨sys', t.append responseLength response⟩ bound := by
    rcases BatchTask.stage_append t responseLength response with hs' | ⟨_, hs'⟩
    · exact hloop ((h.run hrun').taskStep hstep) hs' BatchTask.remaining_append
    · exact (ReturnsWithin.of_returned hs').mono (Nat.zero_le _)
  refine ((hnext.of_taskStep hstep (by simp)).of_run hrun' (List.prefix_refl _) hown).mono ?_
  simp only [List.length_map, List.length_replicate]
  omega

/-- From the head of the loop, the batch returns within six of its own steps per entry left,
and one more. -/
theorem returnsWithin_of_looping (answer : MethodResponse) :
    ∀ n {bs : BatchedSystem}, BatchReachable config responseLength bs →
      bs.task.stage = .looping → bs.task.remaining.length = n →
        ReturnsWithin responseLength answer bs (6 * n + 1)
  | 0, ⟨sys, t⟩, _, hs, hn =>
    (ReturnsWithin.of_returned rfl).of_taskStep
      (BatchTask.step_looping_nil hs (List.length_eq_zero.mp hn)) (List.prefix_refl _)
  | n + 1, ⟨sys, t⟩, h, hs, hn => by
    dsimp only at hs hn
    obtain ⟨entry, rest, hr⟩ := List.exists_cons_of_length_eq_add_one hn
    have hrest : rest.length = n := by simpa [hr] using hn
    rcases entry with invalid | call | notification
    · have hstep : t.step responseLength sys answer = some (_, sys) :=
        BatchTask.step_looping_invalid hs hr
      have hiss : t.issued <+: ({ t with remaining := rest }.append responseLength
          (.error invalid.id invalid.error)).issued := by
        rw [BatchTask.issued_append]
      rcases BatchTask.stage_append { t with remaining := rest } responseLength
        (.error invalid.id invalid.error) with hs₁ | ⟨_, hs₁⟩
      · exact ((returnsWithin_of_looping answer n (h.taskStep hstep) hs₁
          (by rw [BatchTask.remaining_append]; exact hrest)).of_taskStep hstep hiss).mono (by omega)
      · exact ((ReturnsWithin.of_returned hs₁).of_taskStep hstep hiss).mono (by omega)
    · have hstep : t.step responseLength sys answer = some (_, _) :=
        BatchTask.step_looping_call hs hr
      refine ((ReturnsWithin.of_awaiting (h.taskStep hstep) rfl fun h' hs' hrem =>
        returnsWithin_of_looping answer n h' hs' (by rw [hrem]; exact hrest)).of_taskStep hstep
          (List.prefix_append _ _)).mono (by omega)
    · have hstep : t.step responseLength sys answer = some (_, sys) :=
        BatchTask.step_looping_notification hs hr
      exact ((returnsWithin_of_looping answer n (h.taskStep hstep) hs hrest).of_taskStep hstep
        (List.prefix_refl _)).mono (by omega)

end Returns

/-- **A `batch` call returns.**  From every state a `batch` call reaches, whatever the other
requests did before, and whatever answer `answer` the inner service gives wherever the task
awaits it, a schedule of the batch's own steps returns it: steps of its task, and solo
steps, none failing spuriously, of the requests its calls became.  The schedule takes at
most six steps per entry the loop has left, and seven more. -/
theorem batch_returns {config : LoadRpcBackpressureConfig} {responseLength : MethodResponse → Nat}
    {bs : BatchedSystem} (h : BatchReachable config responseLength bs) (answer : MethodResponse) :
    ∃ actions bs', actions.length ≤ 6 * bs.task.remaining.length + 7 ∧
      bs.run responseLength actions = some bs' ∧
      (∀ a ∈ actions, a = .task answer ∨
        ∃ index ∈ bs'.task.issued, a = .request (.step index false)) ∧
      ∃ response, bs'.task.stage = .returned response := by
  suffices hret : ReturnsWithin responseLength answer bs (6 * bs.task.remaining.length + 7) by
    obtain ⟨actions, bs', hlen, hrun, -, hown, hret⟩ := hret
    exact ⟨actions, bs', hlen, hrun, hown, hret⟩
  obtain ⟨sys, t⟩ := bs
  dsimp only
  cases hs : t.stage with
  | start =>
    cases hg : sys.state.hasGuardedCall t.batch
    · exact ((ReturnsWithin.of_returned rfl).of_taskStep
        (BatchTask.step_start_unguarded hs hg) (List.prefix_refl _)).mono (by omega)
    · have hstep : t.step responseLength sys answer = some (_, sys) :=
        BatchTask.step_start_guarded hs hg
      exact ((returnsWithin_of_looping answer t.remaining.length (h.taskStep hstep) rfl rfl).of_taskStep
        hstep (List.prefix_refl _)).mono (by omega)
  | looping => exact (returnsWithin_of_looping answer t.remaining.length h hs rfl).mono (by omega)
  | awaiting index call =>
    exact (ReturnsWithin.of_awaiting h hs fun h' hs' hrem =>
      returnsWithin_of_looping answer t.remaining.length h' hs' (congrArg List.length hrem)).mono
        (by omega)
  | returned response => exact (ReturnsWithin.of_returned hs).mono (Nat.zero_le _)

/-- A `batch` call on the mixed batch, at fresh gates with the default limits. -/
def mixedBatchStart : BatchedSystem :=
  ⟨.init .default, .init mixedBatch defaultBatchResponseLimitBytes⟩

theorem batch_returns_mixed :
    BatchReachable .default (fun _ => 64) mixedBatchStart ∧
    ∃ actions bs', actions.length ≤ 6 * mixedBatchStart.task.remaining.length + 7 ∧
      mixedBatchStart.run (fun _ => 64) actions = some bs' ∧
      (∀ a ∈ actions, a = .task txHashAnswer ∨
        ∃ index ∈ bs'.task.issued, a = .request (.step index false)) ∧
      ∃ response, bs'.task.stage = .returned response :=
  have h : BatchReachable .default (fun _ => 64) mixedBatchStart :=
    .init mixedBatch defaultBatchResponseLimitBytes Reachable.init
  ⟨h, batch_returns h txHashAnswer⟩

end LoadReth
