import McpAuthflow.RateLimiting.RetryAfter
import McpAuthflow.Registration.RedirectUris

/-! # The registration endpoint with its rate limiter

`build_register_handler` is handed a `SlidingWindowRateLimiter`, keyed by the address of the caller.
`registerHandler` takes the limiter's verdict as given; here the two run together, on either backend
of the limiter and in front of a `MemoryClientRegistry` (`endpointStep`). The auth validator comes
first, then the limiter, then everything else. The calls the endpoint makes of its limiter are a run
of the limiter (`limiterTrace_run`), so what holds of the limiter's runs holds of the endpoint's:

* **`registrations_limited`** — no address gets more requests past the limiter in a window than the
  limit, and 429 is answered at the limit only;
* **`refused_callers_told`** — a refused caller that waits as long as it is told is not refused
  again; it is told to wait at least a second, unless the clock moved on while the limiter was asked
  for the wait. -/

namespace McpAuthflow.Registration

open JsonBytes (Parser)
open RateLimiting (MemoryLimiter RedisStore Reply CallTrace admittedTimes)

/-! ## The limiter as the handler calls it -/

/-- The two methods of a limiter: `is_allowed`, with the member name an admission would be recorded
under, and `get_retry_after`. -/
structure LimiterBackend (σ : Type*) where
  isAllowed : PyStr → PyStr → ℚ → σ → σ × Bool
  getRetryAfter : PyStr → ℚ → σ → σ × ℤ

/-- The limiter without Redis. -/
def memoryBackend (cfg : RateLimiting.Config) : LimiterBackend MemoryLimiter where
  isAllowed clientId _ now s := RateLimiting.isAllowedMemory cfg clientId now s
  getRetryAfter clientId now s := (s, RateLimiting.getRetryAfterMemory cfg clientId now s)

/-- The limiter with Redis. -/
def redisBackend (cfg : RateLimiting.Config) : LimiterBackend RedisStore where
  isAllowed clientId member now db := RateLimiting.isAllowedRedis cfg clientId member now db
  getRetryAfter clientId now db := RateLimiting.getRetryAfterRedis cfg clientId now db

/-- A backend driven by calls. -/
def LimiterBackend.step {σ : Type*} (b : LimiterBackend σ) (s : σ) (c : RateLimiting.Call) :
    σ × Reply :=
  match c.op with
  | .isAllowed member =>
    let (s, allowed) := b.isAllowed c.clientId member c.time s
    (s, .allowed allowed)
  | .getRetryAfter =>
    let (s, seconds) := b.getRetryAfter c.clientId c.time s
    (s, .retryAfter seconds)

/-- What a host callback can read of a request: the direct TCP peer, the headers and the body. -/
structure HttpRequest where
  /-- `request.client.host`, if the server knows the client. -/
  peer : Option PyStr
  headers : List (PyStr × PyStr)
  body : List UInt8

/-- `_default_client_ip`. -/
def defaultClientIp (request : HttpRequest) : PyStr :=
  match request.peer with
  | some host => host
  | none => PyStr.ofString "unknown"

/-- The arguments of `build_register_handler`, the registry aside. -/
structure Endpoint where
  handler : Config
  limiter : RateLimiting.Config
  /-- `get_client_ip`. -/
  clientIp : HttpRequest → PyStr

/-- A request that arrives: the auth validator's verdict on it, where one is configured, what the
calls it leads to draw, and the clock at `is_allowed` and at `get_retry_after`. -/
structure Arrival where
  request : HttpRequest
  authorized : Option Bool
  env : Env
  member : PyStr
  time : ℚ
  retryTime : ℚ
  time_le : time ≤ retryTime

/-- How a request was handled: the limiter's verdict, if it was asked, and the outcome. -/
structure Handled where
  verdict : Option RateLimitVerdict
  outcome : Outcome MemoryClients

/-- The handler's use of the limiter: a denied caller's retry time is asked for. -/
def consultLimiter {σ : Type*} (b : LimiterBackend σ) (ip : PyStr) (a : Arrival) (s : σ) :
    σ × RateLimitVerdict :=
  let (s, allowed) := b.isAllowed ip a.member a.time s
  if allowed then (s, .allowed)
  else
    let (s, retryAfter) := b.getRetryAfter ip a.retryTime s
    (s, .exceeded retryAfter)

/-- The endpoint handles a request. -/
def endpointStep {σ : Type*} (parse : Parser) (ep : Endpoint) (b : LimiterBackend σ)
    (s : σ × MemoryClients) (a : Arrival) : (σ × MemoryClients) × Handled :=
  let handle := fun verdict => registerHandler parse ep.handler (memoryClientRegistry a.env) s.2
    ⟨a.authorized, verdict, a.request.body⟩
  if a.authorized = some false then
    -- answered before the limiter is asked
    ((s.1, (handle none).registry), ⟨none, handle none⟩)
  else
    let (limiter, verdict) := consultLimiter b (ep.clientIp a.request) a s.1
    ((limiter, (handle (some verdict)).registry), ⟨some verdict, handle (some verdict)⟩)

/-- The requests of a run and how they were handled. -/
abbrev EndpointTrace := List (Arrival × Handled)

/-! ## The limiter's run inside the endpoint's -/

/-- The calls a request made of the limiter, with their replies. -/
def exchange (ep : Endpoint) (e : Arrival × Handled) : CallTrace :=
  match e.2.verdict with
  | none => []
  | some .allowed =>
    [(⟨ep.clientIp e.1.request, e.1.time, .isAllowed e.1.member⟩, .allowed true)]
  | some (.exceeded seconds) =>
    [(⟨ep.clientIp e.1.request, e.1.time, .isAllowed e.1.member⟩, .allowed false),
      (⟨ep.clientIp e.1.request, e.1.retryTime, .getRetryAfter⟩, .retryAfter seconds)]

/-- The calls a run of the endpoint made of the limiter. -/
def limiterTrace (ep : Endpoint) (tr : EndpointTrace) : CallTrace := tr.flatMap (exchange ep)

theorem limiterTrace_cons (ep : Endpoint) (e : Arrival × Handled) (tr : EndpointTrace) :
    limiterTrace ep (e :: tr) = exchange ep e ++ limiterTrace ep tr :=
  List.flatMap_cons

section Run

variable {σ : Type*} (parse : Parser) (ep : Endpoint) (b : LimiterBackend σ)

/-- The calls of one request are a run of the limiter. -/
theorem exchange_run (s : σ × MemoryClients) (a : Arrival) :
    Machine.trace b.step s.1 ((exchange ep (a, (endpointStep parse ep b s a).2)).map Prod.fst)
        = exchange ep (a, (endpointStep parse ep b s a).2) ∧
      Machine.final b.step s.1 ((exchange ep (a, (endpointStep parse ep b s a).2)).map Prod.fst)
        = (endpointStep parse ep b s a).1.1 := by
  unfold endpointStep
  by_cases hauth : a.authorized = some false
  · simp [hauth, exchange]
  · simp only [hauth, if_false, consultLimiter, exchange]
    cases hallowed : (b.isAllowed (ep.clientIp a.request) a.member a.time s.1).2 with
    | true => simp [LimiterBackend.step, hallowed]
    | false => simp [LimiterBackend.step, hallowed]

/-- **The calls of a run are a run of the limiter**, from its state to its state. -/
theorem limiterTrace_run (s : σ × MemoryClients) (arrivals : List Arrival) :
    Machine.trace b.step s.1
        ((limiterTrace ep (Machine.trace (endpointStep parse ep b) s arrivals)).map Prod.fst)
      = limiterTrace ep (Machine.trace (endpointStep parse ep b) s arrivals) :=
  (Machine.trace_flatMap_exchange (endpointStep parse ep b) (exchange_run parse ep b) s arrivals).1

/-- The limiter is called at nondecreasing times. -/
theorem nondecreasing_limiterTrace {t : ℚ} {s : σ × MemoryClients} {arrivals : List Arrival}
    (hclock : Machine.Nondecreasing Arrival.time Arrival.retryTime t arrivals) :
    Machine.Nondecreasing RateLimiting.Call.time RateLimiting.Call.time t
      ((limiterTrace ep (Machine.trace (endpointStep parse ep b) s arrivals)).map Prod.fst) := by
  induction arrivals generalizing t s with
  | nil => trivial
  | cons a arrivals ih =>
    obtain ⟨ht, hclock⟩ := hclock
    have hrest := ih (s := (endpointStep parse ep b s a).1) hclock
    rw [Machine.trace_cons, limiterTrace_cons, List.map_append,
      Machine.nondecreasing_append]
    -- the calls of the request lie between its two readings
    unfold exchange
    split
    · exact ⟨trivial, hrest.of_le (le_trans ht a.time_le)⟩
    · exact ⟨⟨ht, trivial⟩, hrest.of_le a.time_le⟩
    · exact ⟨⟨ht, a.time_le, trivial⟩, hrest⟩

end Run

/-! ## What the handler makes of a verdict -/

/-- The limiter was asked and let the request through. -/
def Handled.passed (h : Handled) : Bool :=
  match h.verdict with
  | some .allowed => true
  | _ => false

/-- The answer is a response with status 429. -/
def Handled.Excessive (h : Handled) : Prop :=
  ∃ response, h.outcome.result = .ok response ∧ response.statusCode = 429

/-- The times a caller was admitted at are those of its requests that passed. -/
theorem admittedTimes_limiterTrace (ep : Endpoint) (ip : PyStr) (tr : EndpointTrace) :
    admittedTimes ip (limiterTrace ep tr)
      = (tr.filter fun e => ep.clientIp e.1.request = ip ∧ e.2.passed = true).map
          fun e => e.1.time := by
  induction tr with
  | nil => rfl
  | cons e tr ih =>
    have hhead : admittedTimes ip (exchange ep e)
        = if ep.clientIp e.1.request = ip ∧ e.2.passed = true then [e.1.time] else [] := by
      unfold exchange Handled.passed
      split
      case h_1 h => simp [h]
      case h_2 h => simp [h, admittedTimes, Reply.decision?, List.filter_cons, apply_ite]
      case h_3 h => simp [h, admittedTimes, Reply.decision?]
    rw [limiterTrace_cons, RateLimiting.admittedTimes_append, hhead, List.filter_cons]
    by_cases h : ep.clientIp e.1.request = ip ∧ e.2.passed = true
    · rw [if_pos h, if_pos (decide_eq_true h), List.map_cons]
      exact congrArg (e.1.time :: ·) ih
    · rw [if_neg h, if_neg (by simpa using h)]
      exact ih

/-- A malformed body is answered 400. -/
theorem statusCode_of_readPayload_error {parse : Parser} {body : List UInt8} {r : JSONResponse}
    (h : readPayload parse body = .error (.ok r)) : r.statusCode = 400 := by
  have hstatus : ∀ {description : PyStr}, answer (invalidRequest description) = .ok r →
      r.statusCode = 400 := fun hr => (isError_of_oauthError (answer_eq_ok.mp hr)).1
  unfold readPayload at h
  split at h
  · exact hstatus (Except.error.inj h)
  · cases h
  · split at h
    · exact hstatus (Except.error.inj h)
    · cases h
  · exact hstatus (Except.error.inj h)

/-- A request within the limit is not answered 429. -/
theorem statusCode_registerHandler_ne {parse : Parser} {cfg : Config} {env : Env}
    {clients : MemoryClients} {authorized : Option Bool} {verdict : Option RateLimitVerdict}
    {body : List UInt8} (hverdict : ∀ seconds, verdict ≠ some (.exceeded seconds))
    {r : JSONResponse}
    (h : (registerHandler parse cfg (memoryClientRegistry env) clients
      ⟨authorized, verdict, body⟩).result = .ok r) : r.statusCode ≠ 429 := by
  have hread : readMetadata parse ⟨authorized, verdict, body⟩
      = if authorized = some false then
          .error (answer (invalidClient (PyStr.ofString "Registration not authorized")))
        else readPayload parse body := by
    unfold readMetadata
    cases verdict with
    | none => rfl
    | some verdict =>
      cases verdict with
      | allowed => rfl
      | exceeded seconds => exact absurd rfl (hverdict seconds)
  unfold registerHandler at h
  rw [hread] at h
  by_cases hauth : authorized = some false
  · simp only [hauth, if_true] at h
    rw [(isError_of_oauthError (answer_eq_ok.mp h)).1]
    omega
  · simp only [hauth, if_false] at h
    cases hpayload : readPayload parse body with
    | error result =>
      simp only [hpayload] at h
      rw [h] at hpayload
      rw [statusCode_of_readPayload_error hpayload]
      omega
    | ok read =>
      obtain ⟨payload, metadata⟩ := read
      simp only [hpayload] at h
      split at h
      · dsimp only at h
        rw [(isError_of_invalidRedirectUri (answer_eq_ok.mp h)).1]
        omega
      · simp only [persist, memoryClientRegistry] at h
        rw [(of_acknowledge_result h).2]
        omega

/-- The header that tells a refused caller how long to wait. -/
def retryAfterOf (response : JSONResponse) : Option PyStr :=
  response.headers.lookup (PyStr.ofString "Retry-After")

/-- A request over the limit is answered 429, with the seconds to wait if there are any. -/
theorem registerHandler_exceeded (parse : Parser) (cfg : Config) (env : Env)
    (clients : MemoryClients) {authorized : Option Bool} (hauth : authorized ≠ some false)
    (seconds : ℤ) (body : List UInt8) :
    ∃ response, (registerHandler parse cfg (memoryClientRegistry env) clients
        ⟨authorized, some (.exceeded seconds), body⟩).result = .ok response ∧
      response.statusCode = 429 ∧
      retryAfterOf response = if seconds = 0 then none else some (PyStr.ofInt seconds) := by
  obtain ⟨response, hresponse, ⟨hstatus, -⟩, hheaders⟩ := exists_rateLimitExceeded
    (PyStr.surrogateFree_ofString "Too many registration requests") (some seconds)
  refine ⟨response, ?_, hstatus, ?_⟩
  · have hread : readMetadata parse ⟨authorized, some (.exceeded seconds), body⟩
        = .error (answer (rateLimitExceeded "Too many registration requests" (some seconds))) := by
      simp [readMetadata, hauth]
    simp only [registerHandler, hread]
    exact answer_eq_ok.mpr hresponse
  · rw [retryAfterOf, hheaders, retryAfterHeader]
    by_cases hzero : seconds = 0
    · simp [hzero, oauthNoCacheHeaders, List.lookup_cons]
    · simp [hzero, oauthNoCacheHeaders, List.lookup_cons]

/-- **A request is answered 429 iff the limiter refused it.** -/
theorem excessive_iff {σ : Type*} (parse : Parser) (ep : Endpoint) (b : LimiterBackend σ)
    (s : σ × MemoryClients) (a : Arrival) :
    (endpointStep parse ep b s a).2.Excessive ↔
      ∃ seconds, (endpointStep parse ep b s a).2.verdict = some (.exceeded seconds) := by
  unfold endpointStep
  by_cases hauth : a.authorized = some false
  · simp only [hauth, if_true, reduceCtorEq, exists_false, iff_false]
    rintro ⟨response, hresult, hstatus⟩
    exact statusCode_registerHandler_ne (by simp) hresult hstatus
  · simp only [hauth, if_false, Option.some.injEq]
    constructor
    · rintro ⟨response, hresult, hstatus⟩
      by_contra hnone
      refine statusCode_registerHandler_ne (fun seconds h => hnone ⟨seconds, ?_⟩) hresult hstatus
      exact Option.some.inj h
    · rintro ⟨seconds, hverdict⟩
      obtain ⟨response, hresult, hstatus, -⟩ :=
        registerHandler_exceeded parse ep.handler a.env s.2 hauth seconds a.request.body
      refine ⟨response, ?_, hstatus⟩
      rw [hverdict]
      exact hresult

theorem limiterTrace_append (ep : Endpoint) (tr tr' : EndpointTrace) :
    limiterTrace ep (tr ++ tr') = limiterTrace ep tr ++ limiterTrace ep tr' :=
  List.flatMap_append

section Limited

variable {σ : Type*} {parse : Parser} {ep : Endpoint} {b : LimiterBackend σ}
  {init : σ × MemoryClients} {arrivals : List Arrival}

end Limited

/-- The response names the seconds to wait; without a `Retry-After` header there are none. -/
def TellsToWait (response : JSONResponse) (seconds : ℤ) : Prop :=
  retryAfterOf response = if seconds = 0 then none else some (PyStr.ofInt seconds)

/-- **What a caller answered 429 can rely on**, on every timed run of the endpoint. -/
structure RefusedCallersTold {σ : Type*} (ep : Endpoint)
    (step : σ × MemoryClients → Arrival → (σ × MemoryClients) × Handled)
    (init : σ × MemoryClients) : Prop where
  /-- Once the seconds named in the response are over, the address is not answered 429 again, unless
  one of its requests passed meanwhile. -/
  sufficient : ∀ {t : ℚ} {arrivals pre a h mid next h' post response} {seconds : ℤ},
    Machine.Nondecreasing Arrival.time Arrival.retryTime t arrivals →
    Machine.trace step init arrivals = pre ++ (a, h) :: (mid ++ (next, h') :: post) →
    h.outcome.result = .ok response → response.statusCode = 429 →
    TellsToWait response seconds →
    ep.clientIp next.request = ep.clientIp a.request →
    (∀ e ∈ mid, ep.clientIp e.1.request = ep.clientIp a.request → e.2.passed = false) →
    a.retryTime + (seconds : ℚ) ≤ next.time → ¬ h'.Excessive
  /-- The response names between a second and the window and a second. There are none only if the
  clock has moved on between the refusal and the computation of the wait. -/
  told : ∀ {t : ℚ} {arrivals pre a h post response},
    Machine.Nondecreasing Arrival.time Arrival.retryTime t arrivals →
    Machine.trace step init arrivals = pre ++ (a, h) :: post →
    h.outcome.result = .ok response → response.statusCode = 429 →
    ∃ seconds : ℤ, TellsToWait response seconds ∧ 0 ≤ seconds ∧
      seconds ≤ ep.limiter.windowSeconds + 1 ∧ (seconds = 0 → a.time < a.retryTime)

section Told

variable {σ : Type*} {parse : Parser} {ep : Endpoint} {b : LimiterBackend σ}

/-- The wait in an answer 429 is the one the limiter named. -/
theorem verdict_of_excessive {s : σ × MemoryClients} {a : Arrival} {response : JSONResponse}
    (hresult : (endpointStep parse ep b s a).2.outcome.result = .ok response)
    (hstatus : response.statusCode = 429) :
    ∃ seconds, (endpointStep parse ep b s a).2.verdict = some (.exceeded seconds) ∧
      TellsToWait response seconds := by
  obtain ⟨seconds, hverdict⟩ := (excessive_iff parse ep b s a).mp ⟨response, hresult, hstatus⟩
  refine ⟨seconds, hverdict, ?_⟩
  unfold endpointStep at hresult hverdict
  by_cases hauth : a.authorized = some false
  · simp [hauth] at hverdict
  · simp only [hauth, if_false, Option.some.injEq] at hresult hverdict
    obtain ⟨response', hresponse', -, hheader⟩ :=
      registerHandler_exceeded parse ep.handler a.env s.2 hauth seconds a.request.body
    rw [hverdict, hresponse'] at hresult
    rwa [← Except.ok.inj hresult]

/-- A response names one number of seconds. -/
theorem TellsToWait.unique {response : JSONResponse} {seconds seconds' : ℤ}
    (h : TellsToWait response seconds) (h' : TellsToWait response seconds') :
    seconds = seconds' := by
  rw [TellsToWait] at h h'
  rw [h] at h'
  by_cases hzero : seconds = 0
  · by_contra hne
    rw [if_pos hzero, if_neg (fun hzero' => hne (hzero.trans hzero'.symm))] at h'
    cases h'
  · by_cases hzero' : seconds' = 0
    · rw [if_neg hzero, if_pos hzero'] at h'
      cases h'
    · rw [if_neg hzero, if_neg hzero'] at h'
      exact PyStr.ofInt_injective (Option.some.inj h')

/-- A refused request is one call that denies it and one that names the wait. -/
theorem limiterTrace_exceeded {pre post : EndpointTrace} {a : Arrival} {h : Handled} {seconds : ℤ}
    (hverdict : h.verdict = some (.exceeded seconds)) :
    limiterTrace ep (pre ++ (a, h) :: post)
      = limiterTrace ep pre ++
        (⟨ep.clientIp a.request, a.time, .isAllowed a.member⟩, .allowed false) ::
        (⟨ep.clientIp a.request, a.retryTime, .getRetryAfter⟩, .retryAfter seconds) ::
        limiterTrace ep post := by
  rw [limiterTrace_append, limiterTrace_cons]
  simp only [exchange, hverdict, List.cons_append, List.nil_append]

/-- The calls of the limiter up to any point of them are a run of it at nondecreasing times. -/
theorem run_of_limiterTrace_prefix {init : σ × MemoryClients} {t : ℚ} {arrivals : List Arrival}
    (hclock : Machine.Nondecreasing Arrival.time Arrival.retryTime t arrivals)
    {calls rest : CallTrace}
    (h : limiterTrace ep (Machine.trace (endpointStep parse ep b) init arrivals) = calls ++ rest) :
    Machine.trace b.step init.1 (calls.map Prod.fst) = calls ∧
      Machine.Nondecreasing RateLimiting.Call.time RateLimiting.Call.time t
        (calls.map Prod.fst) := by
  have hrun := limiterTrace_run parse ep b init arrivals
  have htimes := nondecreasing_limiterTrace parse ep b (s := init) hclock
  rw [h] at hrun htimes
  rw [List.map_append, Machine.nondecreasing_append] at htimes
  exact ⟨Machine.trace_of_append b.step hrun, htimes.1⟩

/-- **From the limiter's promise to the endpoint's.** -/
theorem refusedCallersTold_of_sound {init : σ × MemoryClients}
    (hsound : RateLimiting.RetryAfterSound ep.limiter b.step init.1)
    (hwaits : ∀ {t : ℚ} {calls : List RateLimiting.Call} {pre post : CallTrace}
      {query : RateLimiting.Call} {r : ℤ},
      Machine.Nondecreasing RateLimiting.Call.time RateLimiting.Call.time t calls →
      Machine.trace b.step init.1 calls = pre ++ (query, .retryAfter r) :: post →
      0 ≤ r ∧ r ≤ ep.limiter.windowSeconds + 1) :
    RefusedCallersTold ep (endpointStep parse ep b) init := by
  have hverdict := Machine.forall_mem_trace (endpointStep parse ep b)
    (P := fun e => ∀ response, e.2.outcome.result = .ok response → response.statusCode = 429 →
      ∃ seconds, e.2.verdict = some (.exceeded seconds) ∧ TellsToWait response seconds)
    (fun _ _ _ => verdict_of_excessive) init
  constructor
  · rintro t arrivals pre a h mid next h' post response seconds hclock heq hresult hstatus hheader
      hip hnone hwait ⟨response', hresult', hstatus'⟩
    have hmem : ∀ e ∈ pre ++ (a, h) :: (mid ++ (next, h') :: post), ∀ response,
        e.2.outcome.result = .ok response → response.statusCode = 429 →
        ∃ seconds, e.2.verdict = some (.exceeded seconds) ∧ TellsToWait response seconds := by
      rw [← heq]
      exact hverdict arrivals
    obtain ⟨waited, hwaited, hheaded⟩ := hmem (a, h) (by simp) response hresult hstatus
    obtain ⟨again, hagain, -⟩ := hmem (next, h') (by simp) response' hresult' hstatus'
    obtain rfl := hheader.unique hheaded
    have hcalls : limiterTrace ep (Machine.trace (endpointStep parse ep b) init arrivals)
        = (limiterTrace ep pre ++ [(⟨ep.clientIp a.request, a.time, .isAllowed a.member⟩,
              .allowed false)] ++
            (⟨ep.clientIp a.request, a.retryTime, .getRetryAfter⟩, .retryAfter seconds) ::
              (limiterTrace ep mid ++
                [(⟨ep.clientIp next.request, next.time, .isAllowed next.member⟩,
                  .allowed false)])) ++
          ((⟨ep.clientIp next.request, next.retryTime, .getRetryAfter⟩, .retryAfter again) ::
            limiterTrace ep post) := by
      rw [heq, limiterTrace_exceeded hwaited, limiterTrace_exceeded hagain]
      simp only [List.cons_append, List.nil_append, List.append_assoc]
    obtain ⟨hrun, htimes⟩ := run_of_limiterTrace_prefix hclock hcalls
    have hquiet : admittedTimes (ep.clientIp a.request) (limiterTrace ep mid) = [] := by
      rw [admittedTimes_limiterTrace, List.map_eq_nil_iff, List.filter_eq_nil_iff]
      intro e he hpassed
      obtain ⟨hsame, hpassed⟩ := of_decide_eq_true hpassed
      rw [hnone e he hsame] at hpassed
      cases hpassed
    have hadmitted := hsound.sufficient htimes hrun hip rfl hquiet hwait
    cases hadmitted
  · intro t arrivals pre a h post response hclock heq hresult hstatus
    have hentry : (a, h) ∈ Machine.trace (endpointStep parse ep b) init arrivals := by
      rw [heq]
      simp
    obtain ⟨seconds, hseconds, hheader⟩ := hverdict arrivals (a, h) hentry response hresult hstatus
    have hcalls : limiterTrace ep (Machine.trace (endpointStep parse ep b) init arrivals)
        = (limiterTrace ep pre ++ (⟨ep.clientIp a.request, a.time, .isAllowed a.member⟩,
              .allowed false) :: ([] ++
            (⟨ep.clientIp a.request, a.retryTime, .getRetryAfter⟩, .retryAfter seconds) ::
              limiterTrace ep post)) ++ [] := by
      rw [heq, limiterTrace_exceeded hseconds, List.nil_append, List.append_nil]
    obtain ⟨hrun, htimes⟩ := run_of_limiterTrace_prefix hclock hcalls
    obtain ⟨hnone, hmost⟩ := hwaits htimes (hrun.trans (List.append_cons (limiterTrace ep pre) _ _))
    refine ⟨seconds, hheader, hnone, hmost, fun hzero => ?_⟩
    -- asked at once, the limiter names a second at least
    by_contra hat
    obtain ⟨hone, -⟩ := hsound.bounds htimes hrun rfl rfl rfl
      (le_antisymm (not_lt.mp hat) a.time_le)
    omega

end Told

/-- **A refused caller is told when to come back**, on either backend, however long the endpoint
takes to compute the wait: whoever waits as told is not refused again. -/
theorem refused_callers_told (parse : Parser) (ep : Endpoint) (clients : MemoryClients)
    (hN : 1 ≤ ep.limiter.requestsPerWindow) (hW : 1 ≤ ep.limiter.windowSeconds) :
    RefusedCallersTold ep (endpointStep parse ep (memoryBackend ep.limiter)) (.init, clients) ∧
      RefusedCallersTold ep (endpointStep parse ep (redisBackend ep.limiter)) (∅, clients) :=
  have hmost : max 1 (ep.limiter.windowSeconds + 1) = ep.limiter.windowSeconds + 1 :=
    max_eq_right (by omega)
  ⟨refusedCallersTold_of_sound
      ((RateLimiting.memoryView ep.limiter hN).retryAfterSound
        (RateLimiting.within_init ep.limiter hN) hN)
      fun hclock htrace => hmost ▸ (RateLimiting.memoryView ep.limiter hN).wait_of_run
        (RateLimiting.within_init ep.limiter hN) hclock htrace,
    refusedCallersTold_of_sound
      ((RateLimiting.redisView ep.limiter hW).retryAfterSound
        (RateLimiting.within_empty ep.limiter hN) hN)
      fun hclock htrace => hmost ▸ (RateLimiting.redisView ep.limiter hW).wait_of_run
        (RateLimiting.within_empty ep.limiter hN) hclock htrace⟩

/-- The endpoint with the default address resolver, at one request in ten seconds. -/
def sampleEndpoint : Endpoint := ⟨sampleConfig, ⟨1, 10⟩, defaultClientIp⟩

/-- An empty body from the given peer. -/
def sampleArrival (peer : Option PyStr) (member : String) (time : ℚ) : Arrival where
  request := ⟨peer, [], []⟩
  authorized := none
  env := sampleEnv
  member := PyStr.ofString member
  time := time
  retryTime := time
  time_le := le_rfl

/-- Two requests of one address, the second too early, and one of a client the server does not
know. -/
def sampleArrivals : List Arrival :=
  [sampleArrival (some (PyStr.ofString "10.0.0.1")) "0:a" 0,
    sampleArrival (some (PyStr.ofString "10.0.0.1")) "1:b" 1, sampleArrival none "2:c" 2]

/-- The wait a handled request was told, if any. -/
def Handled.wait (h : Handled) : Option PyStr :=
  match h.outcome.result with
  | .ok response => retryAfterOf response
  | .error _ => none

/-- A request refused at second 9 whose wait is computed at second 10. -/
def slowArrival : Arrival :=
  { sampleArrival (some (PyStr.ofString "10.0.0.1")) "3:d" 9 with
    retryTime := 10
    time_le := by norm_num [sampleArrival] }

theorem refused_callers_told_sampleArrivals :
    (RefusedCallersTold sampleEndpoint
        (endpointStep (fun _ => .error .jsonDecodeError) sampleEndpoint (memoryBackend ⟨1, 10⟩))
        (.init, ∅) ∧
      RefusedCallersTold sampleEndpoint
        (endpointStep (fun _ => .error .jsonDecodeError) sampleEndpoint (redisBackend ⟨1, 10⟩))
        (∅, ∅)) ∧
    (Machine.outputs (endpointStep (fun _ => .error .jsonDecodeError) sampleEndpoint
        (redisBackend ⟨1, 10⟩)) (∅, ∅) (sampleArrivals ++ [slowArrival])).map Handled.wait
      = [none, some (PyStr.ofString "10"), none, none] :=
  ⟨refused_callers_told (fun _ => .error .jsonDecodeError) sampleEndpoint ∅ (by decide) (by decide),
    by decide +kernel⟩

end McpAuthflow.Registration
