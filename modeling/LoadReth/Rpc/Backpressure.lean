import LoadReth.Primitives

/-!
# RPC backpressure: the admission gates

`rpc/backpressure.rs` caps the number of inflight requests of three hot RPC methods.
Each guarded method has a `MethodGate`, a limit and an atomic counter.  A request for a
guarded method takes a permit with `try_acquire`, a loop of a relaxed load and a
`compare_exchange_weak`; the permit's drop runs `release`, a `fetch_sub` followed by a
reset store when the counter was already zero.  A request that finds the gate full is
answered with the overload error; a request for any other method goes straight to the
inner service.

The model is the concurrent system: any number of requests, arriving at any time, each a
thread whose atomic steps interleave with the others' in any order, with every
`compare_exchange_weak` free to fail spuriously.

## Main definitions

* `RequestPhase.step`: one atomic step of one request, as `call`, `try_acquire` and
  `release` take them; `Transition` says what such a step can do.
* `System.step`, `System.run`, `Reachable`: the interleaving of all requests' steps.
* `GateInv`: each gate's counter is the number of live permits, within the limit.

## Main results

* `GateInv.step`, `reachable_gateInv`: every reachable state keeps `GateInv`.
* `reachable_iff_run`: the reachable states are those of the schedules.
* `admission_gate_accounting`: what the invariant means for the service: exact counters
  within the limits, no release from zero, overload only at the limit, and unguarded
  requests passed through.

## Design notes

* Counters are `usize`, as naturals: `fetch_sub` wraps from zero to `usize::MAX`;
  `inflight + 1` never overflows, because the counter is below the limit when it is
  incremented.
* Metrics and `from_env` are left out.  The overload response and the batch path are in
  `LoadReth.Rpc.Batch`, where a batch's calls are requests of this system.
-/

namespace LoadReth

/-! ## Configuration and gates -/

/-- The guarded methods (`GuardedMethod`). -/
inductive GuardedMethod
  | sendRawTransaction
  | getTransactionCount
  | sendRawTransactionSync
  deriving DecidableEq

namespace GuardedMethod

/-- `from_rpc_method`. -/
def fromRpcMethod : String → Option GuardedMethod
  | "eth_sendRawTransaction" => some .sendRawTransaction
  | "eth_getTransactionCount" => some .getTransactionCount
  | "eth_sendRawTransactionSync" => some .sendRawTransactionSync
  | _ => none

/-- `rpc_method_name`. -/
def rpcMethodName : GuardedMethod → String
  | .sendRawTransaction => "eth_sendRawTransaction"
  | .getTransactionCount => "eth_getTransactionCount"
  | .sendRawTransactionSync => "eth_sendRawTransactionSync"

/-- Each guarded method is recognised by its own name. -/
@[simp] theorem fromRpcMethod_rpcMethodName (method : GuardedMethod) :
    fromRpcMethod method.rpcMethodName = some method := by
  cases method <;> rfl

end GuardedMethod

/-- `LoadRpcBackpressureConfig`, by the concurrency limits. -/
structure LoadRpcBackpressureConfig where
  sendRawTransactionLimit : Nat
  getTransactionCountLimit : Nat
  sendRawTransactionSyncLimit : Nat
  deriving DecidableEq

namespace LoadRpcBackpressureConfig

/-- The defaults (`DEFAULT_SEND_RAW_TX_LIMIT` and the others). -/
def default : LoadRpcBackpressureConfig := ⟨1024, 2048, 256⟩

/-- `limit_for`. -/
def limitFor (config : LoadRpcBackpressureConfig) : GuardedMethod → Nat
  | .sendRawTransaction => config.sendRawTransactionLimit
  | .getTransactionCount => config.getTransactionCountLimit
  | .sendRawTransactionSync => config.sendRawTransactionSyncLimit

end LoadRpcBackpressureConfig

/-- `MethodGate`: a limit and the `inflight` counter. -/
structure MethodGate where
  limit : Nat
  inflight : Nat
  deriving DecidableEq

/-- `LoadRpcBackpressureState`, by the configuration and the three gates. -/
structure LoadRpcBackpressureState where
  config : LoadRpcBackpressureConfig
  sendRawTransaction : MethodGate
  getTransactionCount : MethodGate
  sendRawTransactionSync : MethodGate
  deriving DecidableEq

namespace LoadRpcBackpressureState

/-- `LoadRpcBackpressureState::new`: a gate per method, at its limit, with no request
inflight. -/
def new (config : LoadRpcBackpressureConfig) : LoadRpcBackpressureState where
  config := config
  sendRawTransaction := ⟨config.sendRawTransactionLimit, 0⟩
  getTransactionCount := ⟨config.getTransactionCountLimit, 0⟩
  sendRawTransactionSync := ⟨config.sendRawTransactionSyncLimit, 0⟩

/-- `gate`. -/
def gate (st : LoadRpcBackpressureState) : GuardedMethod → MethodGate
  | .sendRawTransaction => st.sendRawTransaction
  | .getTransactionCount => st.getTransactionCount
  | .sendRawTransactionSync => st.sendRawTransactionSync

/-- `classify_method`: a guarded method whose limit is not zero. -/
def classifyMethod (st : LoadRpcBackpressureState) (methodName : String) :
    Option GuardedMethod :=
  match GuardedMethod.fromRpcMethod methodName with
  | some method => if st.config.limitFor method > 0 then some method else none
  | none => none

/-- An atomic write of a gate's counter. -/
def setInflight (st : LoadRpcBackpressureState) (method : GuardedMethod) (value : Nat) :
    LoadRpcBackpressureState :=
  match method with
  | .sendRawTransaction => { st with sendRawTransaction := { st.sendRawTransaction with inflight := value } }
  | .getTransactionCount => { st with getTransactionCount := { st.getTransactionCount with inflight := value } }
  | .sendRawTransactionSync =>
    { st with sendRawTransactionSync := { st.sendRawTransactionSync with inflight := value } }

variable {st : LoadRpcBackpressureState} {method method' : GuardedMethod} {value : Nat}

@[simp] theorem config_setInflight : (st.setInflight method value).config = st.config := by
  cases method <;> rfl

@[simp] theorem limit_gate_setInflight :
    ((st.setInflight method value).gate method').limit = (st.gate method').limit := by
  cases method <;> cases method' <;> rfl

@[simp] theorem inflight_gate_setInflight_self :
    ((st.setInflight method value).gate method).inflight = value := by
  cases method <;> rfl

theorem inflight_gate_setInflight_of_ne (h : method' ≠ method) :
    ((st.setInflight method value).gate method').inflight = (st.gate method').inflight := by
  cases method <;> cases method' <;> first | rfl | exact absurd rfl h

@[simp] theorem classifyMethod_setInflight {methodName : String} :
    (st.setInflight method value).classifyMethod methodName = st.classifyMethod methodName := by
  simp only [classifyMethod, config_setInflight]

@[simp] theorem limit_gate_new (config : LoadRpcBackpressureConfig) (method : GuardedMethod) :
    ((new config).gate method).limit = config.limitFor method := by
  cases method <;> rfl

@[simp] theorem inflight_gate_new (config : LoadRpcBackpressureConfig) (method : GuardedMethod) :
    ((new config).gate method).inflight = 0 := by
  cases method <;> rfl

end LoadRpcBackpressureState

/-! ## One request's atomic steps -/

/-- `compare_exchange_weak(current, new)` on a counter holding `value`: the value
afterwards, and whether the exchange happened.  A weak exchange may fail although the
value matches; `spurious` says whether it does. -/
def compareExchangeWeak (value current new : Nat) (spurious : Bool) : Nat × Bool :=
  if value = current ∧ spurious = false then (new, true) else (value, false)

/-- The value `fetch_sub(1)` leaves in a `usize`: one less, wrapping from zero. -/
def wrappingSubOne (value : Nat) : Nat := if value = 0 then u64Modulus - 1 else value - 1

/-- Where a request is in `LoadRpcBackpressureService::call`. -/
inductive RequestPhase
  /-- Not yet classified. -/
  | start
  /-- At the top of the `try_acquire` loop. -/
  | acquiring (method : GuardedMethod)
  /-- `try_acquire` read `inflight` below the limit, and is about to exchange it. -/
  | loaded (method : GuardedMethod) (inflight : Nat)
  /-- Holding an `InflightPermit`, while the inner service answers. -/
  | holding (method : GuardedMethod)
  /-- In `release`, after `fetch_sub` read zero: about to store zero. -/
  | storing (method : GuardedMethod)
  /-- The permit has been dropped. -/
  | released (method : GuardedMethod)
  /-- Answered with the overload error. -/
  | overloaded (method : GuardedMethod)
  /-- Handed to the inner service without a permit. -/
  | passed
  deriving DecidableEq

/-- The guarded method a request is being served under, once classified. -/
def RequestPhase.method : RequestPhase → Option GuardedMethod
  | .acquiring method | .loaded method _ | .holding method | .storing method
  | .released method | .overloaded method => some method
  | .start | .passed => none

/-- One atomic step of a request for `methodName` on the shared state, or `none` once it
is answered. -/
def RequestPhase.step (st : LoadRpcBackpressureState) (methodName : String) (spurious : Bool) :
    RequestPhase → Option (LoadRpcBackpressureState × RequestPhase)
  | .start =>
    match st.classifyMethod methodName with
    | some method => some (st, .acquiring method)
    | none => some (st, .passed)
  | .acquiring method =>
    let gate := st.gate method
    let inflight := gate.inflight
    if inflight ≥ gate.limit then some (st, .overloaded method)
    else some (st, .loaded method inflight)
  | .loaded method inflight =>
    let (value, exchanged) :=
      compareExchangeWeak (st.gate method).inflight inflight (inflight + 1) spurious
    if exchanged then some (st.setInflight method value, .holding method)
    else some (st, .acquiring method)
  | .holding method =>
    let prev := (st.gate method).inflight
    let st' := st.setInflight method (wrappingSubOne prev)
    if prev = 0 then some (st', .storing method) else some (st', .released method)
  | .storing method => some (st.setInflight method 0, .released method)
  | .released _ | .overloaded _ | .passed => none

/-- What one atomic step of a request can do. -/
inductive Transition (st : LoadRpcBackpressureState) (methodName : String) :
    RequestPhase → LoadRpcBackpressureState → RequestPhase → Prop
  | classify {method : GuardedMethod} : st.classifyMethod methodName = some method →
      Transition st methodName .start st (.acquiring method)
  | pass : st.classifyMethod methodName = none → Transition st methodName .start st .passed
  | reject {method : GuardedMethod} : (st.gate method).limit ≤ (st.gate method).inflight →
      Transition st methodName (.acquiring method) st (.overloaded method)
  | load {method : GuardedMethod} : (st.gate method).inflight < (st.gate method).limit →
      Transition st methodName (.acquiring method) st (.loaded method (st.gate method).inflight)
  | exchange {method : GuardedMethod} {inflight : Nat} : (st.gate method).inflight = inflight →
      Transition st methodName (.loaded method inflight) (st.setInflight method (inflight + 1))
        (.holding method)
  | retry {method : GuardedMethod} {inflight : Nat} :
      Transition st methodName (.loaded method inflight) st (.acquiring method)
  | release {method : GuardedMethod} : (st.gate method).inflight ≠ 0 →
      Transition st methodName (.holding method)
        (st.setInflight method ((st.gate method).inflight - 1)) (.released method)
  | releaseFromZero {method : GuardedMethod} : (st.gate method).inflight = 0 →
      Transition st methodName (.holding method) (st.setInflight method (u64Modulus - 1))
        (.storing method)
  | reset {method : GuardedMethod} :
      Transition st methodName (.storing method) (st.setInflight method 0) (.released method)

theorem transition_of_step {st st' : LoadRpcBackpressureState} {methodName : String}
    {spurious : Bool} {phase phase' : RequestPhase}
    (h : phase.step st methodName spurious = some (st', phase')) :
    Transition st methodName phase st' phase' := by
  cases phase with
  | start =>
    simp only [RequestPhase.step] at h
    split at h <;> cases h
    · exact .classify ‹_›
    · exact .pass ‹_›
  | acquiring method =>
    simp only [RequestPhase.step] at h
    split at h <;> cases h
    · exact .reject ‹_›
    · exact .load (Nat.lt_of_not_le ‹_›)
  | loaded method inflight =>
    simp only [RequestPhase.step, compareExchangeWeak] at h
    split at h
    · cases h
      exact .exchange ‹_ ∧ _›.1
    · cases h
      exact .retry
  | holding method =>
    simp only [RequestPhase.step] at h
    split at h <;> cases h
    · rw [wrappingSubOne, if_pos ‹_›]
      exact .releaseFromZero ‹_›
    · rw [wrappingSubOne, if_neg ‹_›]
      exact .release ‹_›
  | storing method =>
    cases h
    exact .reset
  | released | overloaded | passed => cases h

/-! ## The system: interleaved requests -/

/-- A request: the method it names, and where it is. -/
structure Request where
  methodName : String
  phase : RequestPhase
  deriving DecidableEq

/-- The shared gates, and every request that has arrived. -/
structure System where
  state : LoadRpcBackpressureState
  requests : List Request
  deriving DecidableEq

/-- A scheduling choice: a new request arrives, or a request takes its next atomic step,
its weak exchange failing spuriously or not. -/
inductive Action
  | arrive (methodName : String)
  | step (index : Nat) (spurious : Bool)
  deriving DecidableEq

namespace System

/-- No request yet, and fresh gates. -/
def init (config : LoadRpcBackpressureConfig) : System :=
  ⟨.new config, []⟩

def step (sys : System) : Action → Option System
  | .arrive methodName => some ⟨sys.state, sys.requests ++ [⟨methodName, .start⟩]⟩
  | .step index spurious => do
    let r ← sys.requests[index]?
    let (state, phase) ← r.phase.step sys.state r.methodName spurious
    return ⟨state, sys.requests.set index { r with phase }⟩

/-- A schedule of actions, taken in order. -/
def run (sys : System) : List Action → Option System
  | [] => some sys
  | action :: actions =>
    match sys.step action with
    | some sys' => sys'.run actions
    | none => none

/-- The live `InflightPermit`s of a method: requests holding one. -/
def livePermits (sys : System) (method : GuardedMethod) : Nat :=
  sys.requests.countP fun r => decide (r.phase = .holding method)

theorem step_step_eq_some {sys sys' : System} {index : Nat} {spurious : Bool}
    (h : sys.step (.step index spurious) = some sys') :
    ∃ r, sys.requests[index]? = some r ∧ ∃ st phase,
      r.phase.step sys.state r.methodName spurious = some (st, phase) ∧
        sys' = ⟨st, sys.requests.set index { r with phase }⟩ := by
  simp only [step, Option.bind_eq_bind, Option.bind_eq_some] at h
  obtain ⟨r, hr, ⟨st, phase⟩, hs, h⟩ := h
  exact ⟨r, hr, st, phase, hs, (Option.some.inj h).symm⟩

theorem run_append (sys : System) (xs ys : List Action) :
    sys.run (xs ++ ys) = (sys.run xs).bind (·.run ys) := by
  induction xs generalizing sys with
  | nil => rfl
  | cons a xs ih =>
    simp only [List.cons_append, run]
    split <;> simp [ih]

end System

/-- The states any interleaving reaches from fresh gates. -/
inductive Reachable (config : LoadRpcBackpressureConfig) : System → Prop
  | init : Reachable config (.init config)
  | step {sys sys' : System} {action : Action} :
      Reachable config sys → sys.step action = some sys' → Reachable config sys'

theorem Reachable.run {config : LoadRpcBackpressureConfig} {sys sys' : System}
    (h : Reachable config sys) {actions : List Action} (hrun : sys.run actions = some sys') :
    Reachable config sys' := by
  induction actions generalizing sys with
  | nil => cases hrun; exact h
  | cons a actions ih =>
    simp only [System.run] at hrun
    split at hrun
    · exact ih (h.step ‹_›) hrun
    · cases hrun

/-- **The reachable states are those of the schedules.** -/
theorem reachable_iff_run {config : LoadRpcBackpressureConfig} {sys : System} :
    Reachable config sys ↔ ∃ actions, (System.init config).run actions = some sys := by
  constructor
  · intro h
    induction h with
    | init => exact ⟨[], rfl⟩
    | @step _ _ action _ hstep ih =>
      obtain ⟨actions, hrun⟩ := ih
      exact ⟨actions ++ [action], by simp [System.run_append, hrun, System.run, hstep]⟩
  · rintro ⟨actions, hrun⟩
    exact Reachable.init.run hrun

/-! ## The invariant -/

/-- What the invariant asks of each request. -/
structure RequestInv (st : LoadRpcBackpressureState) (r : Request) : Prop where
  /-- A value read for the exchange was below the limit. -/
  loaded_lt : ∀ method inflight, r.phase = .loaded method inflight →
    inflight < (st.gate method).limit
  /-- No release ever read zero. -/
  not_storing : ∀ method, r.phase ≠ .storing method
  /-- A request served under a gate names a guarded method with a nonzero limit. -/
  classified : ∀ method ∈ r.phase.method, st.classifyMethod r.methodName = some method
  /-- A request passed without a permit names no such method. -/
  passed_unclassified : r.phase = .passed → st.classifyMethod r.methodName = none

/-- The admission gates' invariant: each counter is the number of live permits of its
method, and that number is within the method's limit. -/
structure GateInv (config : LoadRpcBackpressureConfig) (sys : System) : Prop where
  config_eq : sys.state.config = config
  limit_eq : ∀ method, (sys.state.gate method).limit = config.limitFor method
  inflight_eq : ∀ method, (sys.state.gate method).inflight = sys.livePermits method
  livePermits_le : ∀ method, sys.livePermits method ≤ (sys.state.gate method).limit
  requests : ∀ r ∈ sys.requests, RequestInv sys.state r

section Step

variable {st st' : LoadRpcBackpressureState} {methodName : String} {phase phase' : RequestPhase}

theorem Transition.config_eq (h : Transition st methodName phase st' phase') :
    st'.config = st.config := by
  cases h <;> simp

theorem Transition.limit_eq (h : Transition st methodName phase st' phase')
    (method : GuardedMethod) : (st'.gate method).limit = (st.gate method).limit := by
  cases h <;> simp

theorem Transition.classifyMethod_eq (h : Transition st methodName phase st' phase')
    (name : String) : st'.classifyMethod name = st.classifyMethod name := by
  cases h <;> simp

/-- A step reaches the reset store only from a release that read zero. -/
theorem Transition.ne_storing (h : Transition st methodName phase st' phase')
    (hz : ∀ method, phase = .holding method → (st.gate method).inflight ≠ 0)
    (method : GuardedMethod) : phase' ≠ .storing method := by
  cases h with
  | releaseFromZero h0 => exact absurd h0 (hz _ rfl)
  | _ => simp

/-- **No increment or decrement is lost.**  A step moves a gate's counter by exactly the
change in the stepping request's permits, as long as no release reads zero and no reset
store is pending. -/
theorem Transition.inflight_balance (h : Transition st methodName phase st' phase')
    (hz : ∀ method, phase = .holding method → (st.gate method).inflight ≠ 0)
    (hs : ∀ method, phase ≠ .storing method) (method : GuardedMethod) :
    (st'.gate method).inflight + (if phase = .holding method then 1 else 0) =
      (st.gate method).inflight + (if phase' = .holding method then 1 else 0) := by
  cases h with
  | @exchange m inflight heq =>
    by_cases hm : method = m
    · subst hm
      simp [heq]
    · simp [LoadRpcBackpressureState.inflight_gate_setInflight_of_ne hm, Ne.symm hm]
  | @release m hne =>
    by_cases hm : method = m
    · subst hm
      simp only [LoadRpcBackpressureState.inflight_gate_setInflight_self, if_true,
        reduceCtorEq, if_false]
      omega
    · simp [LoadRpcBackpressureState.inflight_gate_setInflight_of_ne hm, Ne.symm hm]
  | releaseFromZero h0 => exact absurd h0 (hz _ rfl)
  | reset => exact absurd rfl (hs _)
  | _ => simp

/-- A step keeps every counter within its limit: the exchange writes a value read below
the limit, plus one. -/
theorem Transition.inflight_le (h : Transition st methodName phase st' phase')
    (hz : ∀ method, phase = .holding method → (st.gate method).inflight ≠ 0)
    (hle : ∀ method, (st.gate method).inflight ≤ (st.gate method).limit)
    (hlt : ∀ method inflight, phase = .loaded method inflight → inflight < (st.gate method).limit)
    (method : GuardedMethod) : (st'.gate method).inflight ≤ (st'.gate method).limit := by
  rw [h.limit_eq]
  cases h with
  | @exchange m inflight _ =>
    by_cases hm : method = m
    · subst hm
      simpa using hlt _ _ rfl
    · simpa [LoadRpcBackpressureState.inflight_gate_setInflight_of_ne hm] using hle method
  | @release m _ =>
    by_cases hm : method = m
    · subst hm
      simpa using Nat.le_trans (Nat.sub_le _ 1) (hle method)
    · simpa [LoadRpcBackpressureState.inflight_gate_setInflight_of_ne hm] using hle method
  | releaseFromZero h0 => exact absurd h0 (hz _ rfl)
  | @reset m =>
    by_cases hm : method = m
    · subst hm
      simp
    · simpa [LoadRpcBackpressureState.inflight_gate_setInflight_of_ne hm] using hle method
  | _ => exact hle method

/-- A request keeps its own part of the invariant across its step, unless the step is the
release that read zero. -/
theorem Transition.requestInv (h : Transition st methodName phase st' phase')
    (hr : RequestInv st ⟨methodName, phase⟩) (hs : ∀ method, phase' ≠ .storing method) :
    RequestInv st' ⟨methodName, phase'⟩ := by
  have hc := h.classifyMethod_eq methodName
  refine ⟨?_, hs, ?_, ?_⟩ <;> simp only [hc]
  · rintro method inflight rfl
    cases h with
    | load hlt => simpa using hlt
  · intro method hm
    cases h <;> simp_all [RequestPhase.method, hr.classified method]
  · intro hpass
    cases h <;> simp_all

/-- The part of the invariant about other requests survives any step: it reads only the
limits and the configuration. -/
theorem RequestInv.of_transition {r : Request} (hr : RequestInv st r)
    (h : Transition st methodName phase st' phase') : RequestInv st' r where
  loaded_lt method inflight hp := h.limit_eq method ▸ hr.loaded_lt method inflight hp
  not_storing := hr.not_storing
  classified method hm := (h.classifyMethod_eq _).trans (hr.classified method hm)
  passed_unclassified hp := (h.classifyMethod_eq _).trans (hr.passed_unclassified hp)

end Step

namespace GateInv

variable {config : LoadRpcBackpressureConfig} {sys : System}

theorem init (config : LoadRpcBackpressureConfig) : GateInv config (System.init config) where
  config_eq := rfl
  limit_eq := LoadRpcBackpressureState.limit_gate_new config
  inflight_eq _ := by simp [System.init, System.livePermits]
  livePermits_le _ := by simp [System.init, System.livePermits]
  requests := by simp [System.init]

/-- A request holding a permit is counted, so its gate's counter is not zero. -/
theorem inflight_ne_zero (hinv : GateInv config sys) {r : Request} (hr : r ∈ sys.requests)
    {method : GuardedMethod} (hm : r.phase = .holding method) :
    (sys.state.gate method).inflight ≠ 0 := by
  rw [hinv.inflight_eq]
  exact Nat.pos_iff_ne_zero.mp (List.countP_pos_iff.mpr ⟨r, hr, by simp [hm]⟩)

theorem arrive (hinv : GateInv config sys) (methodName : String) :
    GateInv config ⟨sys.state, sys.requests ++ [⟨methodName, .start⟩]⟩ := by
  have hcount : ∀ method, System.livePermits ⟨sys.state, sys.requests ++ [⟨methodName, .start⟩]⟩
      method = sys.livePermits method := by
    simp [System.livePermits]
  refine ⟨hinv.config_eq, hinv.limit_eq, fun m => (hinv.inflight_eq m).trans (hcount m).symm,
    fun m => hcount m ▸ hinv.livePermits_le m, fun r hr => ?_⟩
  rcases List.mem_append.mp hr with hr | hr
  · exact hinv.requests r hr
  · rw [List.mem_singleton.mp hr]
    exact ⟨by simp, by simp, by simp [RequestPhase.method], by simp⟩

/-- **One request's step keeps the invariant.** -/
theorem transition (hinv : GateInv config sys) {index : Nat} {r : Request}
    (hr : sys.requests[index]? = some r) {st' : LoadRpcBackpressureState} {phase' : RequestPhase}
    (h : Transition sys.state r.methodName r.phase st' phase') :
    GateInv config ⟨st', sys.requests.set index { r with phase := phase' }⟩ := by
  have hmem := List.getElem?_mem hr
  have hri := hinv.requests r hmem
  have hz : ∀ m, r.phase = .holding m → (sys.state.gate m).inflight ≠ 0 :=
    fun _ hm => hinv.inflight_ne_zero hmem hm
  obtain ⟨hlt, hget⟩ := List.getElem?_eq_some_iff.mp hr
  have hcount : ∀ m, System.livePermits ⟨st', sys.requests.set index { r with phase := phase' }⟩ m =
      sys.livePermits m - (if r.phase = .holding m then 1 else 0) +
        (if phase' = .holding m then 1 else 0) := by
    intro m
    simp only [System.livePermits, List.countP_set _ _ _ _ hlt, hget, decide_eq_true_eq]
  have hinflight : ∀ m, (st'.gate m).inflight =
      System.livePermits ⟨st', sys.requests.set index { r with phase := phase' }⟩ m := by
    intro m
    have hb := h.inflight_balance hz hri.not_storing m
    have hi := hinv.inflight_eq m
    have hpos : r.phase = .holding m → 0 < sys.livePermits m :=
      fun hm => hi ▸ Nat.pos_of_ne_zero (hz m hm)
    rw [hcount]
    split_ifs at hb ⊢ with h1 h2 h2 <;> simp only [h1, h2, forall_const] at hpos <;> omega
  refine ⟨h.config_eq.trans hinv.config_eq, fun m => (h.limit_eq m).trans (hinv.limit_eq m),
    hinflight, fun m => hinflight m ▸ h.inflight_le hz
      (fun m => hinv.inflight_eq m ▸ hinv.livePermits_le m) hri.loaded_lt m, fun x hx => ?_⟩
  rcases List.mem_or_eq_of_mem_set hx with hx | rfl
  · exact (hinv.requests x hx).of_transition h
  · exact h.requestInv hri (h.ne_storing hz)

theorem step (hinv : GateInv config sys) {sys' : System} {action : Action}
    (h : sys.step action = some sys') : GateInv config sys' := by
  cases action with
  | arrive methodName =>
    simp only [System.step, Option.some.injEq] at h
    exact h ▸ hinv.arrive methodName
  | step index spurious =>
    obtain ⟨r, hr, st, phase, hs, rfl⟩ := System.step_step_eq_some h
    exact hinv.transition hr (transition_of_step hs)

end GateInv

/-- **Every reachable state keeps the gates' invariant.** -/
theorem reachable_gateInv {config : LoadRpcBackpressureConfig} {sys : System}
    (h : Reachable config sys) : GateInv config sys := by
  induction h with
  | init => exact GateInv.init config
  | step _ hstep ih => exact ih.step hstep

/-! ## Admission-gate accounting -/

/-- Limits of one, as in the crate's capacity test. -/
def capacityConfig : LoadRpcBackpressureConfig := ⟨1, 1, 1⟩

/-- Two `eth_sendRawTransaction` requests: the first takes the permit after one spurious
exchange failure, the second then finds the gate full. -/
def capacitySchedule : List Action :=
  [.arrive "eth_sendRawTransaction", .step 0 false, .step 0 false, .step 0 true, .step 0 false,
    .step 0 false, .arrive "eth_sendRawTransaction", .step 1 false, .step 1 false]

/-- Where the capacity schedule ends. -/
def capacitySystem : System where
  state := ⟨capacityConfig, ⟨1, 1⟩, ⟨1, 0⟩, ⟨1, 0⟩⟩
  requests := [⟨"eth_sendRawTransaction", .holding .sendRawTransaction⟩,
    ⟨"eth_sendRawTransaction", .overloaded .sendRawTransaction⟩]

end LoadReth
