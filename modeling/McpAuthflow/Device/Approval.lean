import McpAuthflow.Device.PollRuns

/-! # Device approval

A token is handed out exactly when it should be: at every poll of every run in which the user
decides once at most, under either rule for `last_poll_at`, whatever codes and clients are presented
in between (`SafeRun`): **`device_approval_safe`**. The codes are compared as UTF-8, so the device
code is taken to be one that can be encoded, as every generated one can; with one that cannot, every
poll raises (`Poll.evaluate_of_not_surrogateFree`). -/

namespace McpAuthflow.Device

/-! ## What safety means -/

/-- The statuses that have been written, in order. -/
def writes (events : List Event) : List PyStr :=
  events.filterMap fun e =>
    match e.action with
    | .poll _ => none
    | .write status _ => some status

/-- **The user decides at most once**, and approves or denies. -/
def DecidesOnce (events : List Event) : Prop :=
  (writes events).length ≤ 1 ∧
    ∀ status ∈ writes events, status = statusApproved ∨ status = statusDenied

/-- The status has been written in the run so far. -/
def Written (status : PyStr) (tr : PollTrace) : Prop := status ∈ writes (tr.map Prod.fst)

/-- The event is a poll with the code and the client of the record. -/
def Event.Addressed (record : DeviceCodeRecord) (e : Event) : Prop :=
  ∃ p, e.action = .poll p ∧ p.Addressed record

/-- **A token is handed out exactly when it should be**: on a poll with the right code and client,
by the expiry, after the user has approved, and not too soon after the last one. -/
def ApprovedExactly (rule : UpdateRule) (record : DeviceCodeRecord) (s : DeviceCodeRecord)
    (tr : PollTrace) (e : Event) : Prop :=
  Yields .approved (step rule s e).2 ↔
    e.Addressed record ∧ e.time ≤ record.expiresAt.moment ∧ Written statusApproved tr ∧
      ∀ last, s.lastPollAt = some last → record.interval * 1000000 ≤ e.time - last.moment

/-- **A denied record is never answered with a token.** -/
def DeniedForGood (rule : UpdateRule) (s : DeviceCodeRecord) (tr : PollTrace) (e : Event) : Prop :=
  Written statusDenied tr → ¬ Yields .approved (step rule s e).2

/-- **Once expired, expired for good**, to whoever presents the right code and client. -/
def ExpiredForGood (record : DeviceCodeRecord) (tr : PollTrace) : Prop :=
  tr.Pairwise fun a b => a.1.Addressed record → Yields .expiredToken a.2 → b.1.Addressed record →
    Yields .expiredToken b.2

/-- The datetimes of a record, with their UTC marker. -/
def DeviceCodeRecord.inUtc (record : DeviceCodeRecord) : DeviceCodeRecord :=
  { record with
    expiresAt := asUtc record.expiresAt
    lastPollAt := record.lastPollAt.map asUtc }

/-- A poll whose moment is stored with its UTC marker. -/
def Poll.inUtc (p : Poll) : Poll := { p with storedOffset := some (p.storedOffset.getD 0) }

/-- An event whose moment is stored with its UTC marker. -/
def Event.inUtc (e : Event) : Event :=
  match e.action with
  | .poll p => ⟨e.time, .poll p.inUtc⟩
  | .write status userId => ⟨e.time, .write status userId⟩

/-- What the answer to a poll is made from, the record aside. -/
def verdict (result : Option (Except PollError DevicePollDecision)) :
    Option (Except PollError (DevicePollDecisionKind × Option ℤ)) :=
  result.map fun answer => answer.map fun decision => (decision.kind, decision.retryAfter)

/-- **The decisions of a run are safe.** -/
structure SafeRun (rule : UpdateRule) (record : DeviceCodeRecord) (events : List Event) : Prop where
  approved : Machine.AllSteps (step rule) (ApprovedExactly rule record) record events
  denied : Machine.AllSteps (step rule) (DeniedForGood rule) record events
  expired : ExpiredForGood record (Machine.trace (step rule) record events)
  /-- Naive and UTC-aware datetimes in the record come to the same. -/
  inUtc : (Machine.outputs (step rule) record events).map verdict
    = (Machine.outputs (step rule) record.inUtc (events.map Event.inUtc)).map verdict

/-- **The record is safe**: so is every run that starts with it pending, by either rule, at
nondecreasing times, in which the user decides once at most. -/
def DeviceSafe (record : DeviceCodeRecord) : Prop :=
  ∀ (rule : UpdateRule) (lastPollAt : Option DateTime) (t : ℤ) (events : List Event),
    Machine.Nondecreasing Event.time Event.time t events → DecidesOnce events →
    SafeRun rule { record with status := statusPending, lastPollAt := lastPollAt } events

/-! ## The status -/

theorem writes_append (events more : List Event) :
    writes (events ++ more) = writes events ++ writes more :=
  List.filterMap_append

/-- **The status of a record** is the last one written, or the one it started with. -/
theorem status_final (rule : UpdateRule) (record : DeviceCodeRecord) (events : List Event) :
    (Machine.final (step rule) record events).status
      = (writes events).getLast?.getD record.status := by
  induction events using List.reverseRecOn with
  | nil => rfl
  | append_singleton events e ih =>
    rw [Machine.final_append, Machine.final_cons, Machine.final_nil, writes_append]
    obtain ⟨time, p | ⟨status, userId⟩⟩ := e
    · have hnone : writes [⟨time, .poll p⟩] = [] := rfl
      rw [hnone, List.append_nil, ← ih]
      rcases p.update_cases rule (Machine.final (step rule) record events) time
        (p.evaluate (Machine.final (step rule) record events) time) with hsame | hset
      · simp only [step, hsame]
      · simp only [step, hset]
    · have hone : writes [⟨time, .write status userId⟩] = [status] := rfl
      rw [hone, List.getLast?_concat]
      rfl

/-- The record is approved iff the user has approved, if the user has decided once at most. -/
theorem status_eq_approved_iff {events : List Event} (h : DecidesOnce events) (rule : UpdateRule)
    {record : DeviceCodeRecord} (hpending : record.status = statusPending) :
    (Machine.final (step rule) record events).status = statusApproved ↔
      statusApproved ∈ writes events := by
  rw [status_final, hpending]
  have hone := h.1
  match hwrites : writes events with
  | [] =>
    simp only [List.getLast?_nil, Option.getD_none, List.not_mem_nil, iff_false]
    decide
  | [status] => simp [eq_comm]
  | _ :: _ :: _ =>
    rw [hwrites] at hone
    simp at hone

/-- A decision stays the only one. -/
theorem DecidesOnce.of_append {events more : List Event} (h : DecidesOnce (events ++ more)) :
    DecidesOnce events := by
  obtain ⟨hone, hstatus⟩ := h
  rw [writes_append] at hone hstatus
  rw [List.length_append] at hone
  exact ⟨by omega, fun status hmem => hstatus status (List.mem_append_left _ hmem)⟩

/-- A user who has denied has not approved. -/
theorem DecidesOnce.not_both {events : List Event} (h : DecidesOnce events)
    (hdenied : statusDenied ∈ writes events) : statusApproved ∉ writes events := by
  have hone := h.1
  match hwrites : writes events with
  | [] => simp
  | [status] =>
    rw [hwrites, List.mem_singleton] at hdenied
    rw [← hdenied, List.mem_singleton]
    decide
  | _ :: _ :: _ =>
    rw [hwrites] at hone
    simp at hone

/-! ## One event -/

/-- A poll is not too soon if the interval has passed. -/
theorem not_tooSoon_iff (s : DeviceCodeRecord) (t : ℤ) :
    ¬ TooSoon s t ↔
      ∀ last, s.lastPollAt = some last → s.interval * 1000000 ≤ t - last.moment := by
  simp [TooSoon, not_lt]

/-- **What a poll yields**, other than an invalid grant. -/
theorem yields_step_iff {s : DeviceCodeRecord} (hcode : s.deviceCode.SurrogateFree)
    (rule : UpdateRule) (e : Event) {kind : DevicePollDecisionKind} (hkind : kind ≠ .invalidGrant) :
    Yields kind (step rule s e).2 ↔ e.Addressed s ∧ (pollDecision s e.time).kind = kind := by
  constructor
  · rintro ⟨decision, hresult, rfl⟩
    obtain ⟨time, p | ⟨status, userId⟩⟩ := e
    · obtain ⟨haddressed, rfl⟩ := Poll.of_evaluate_eq_ok (Option.some.inj hresult) hkind
      exact ⟨⟨p, rfl, haddressed⟩, rfl⟩
    · cases hresult
  · rintro ⟨⟨p, hpoll, haddressed⟩, hdecision⟩
    refine ⟨pollDecision s e.time, ?_, hdecision⟩
    simp only [step, hpoll, Poll.evaluate_of_addressed hcode haddressed]

/-- An event is addressed to a record throughout its run, or never. -/
theorem SameIssue.event_addressed_iff {record s : DeviceCodeRecord} (h : SameIssue record s)
    (e : Event) : e.Addressed s ↔ e.Addressed record := by
  unfold Event.Addressed
  simp only [h.addressed_iff]

/-- **When a token is handed out.** -/
theorem yields_approved_iff {record s : DeviceCodeRecord} (h : SameIssue record s)
    (hcode : record.deviceCode.SurrogateFree) (rule : UpdateRule) (e : Event) :
    Yields .approved (step rule s e).2 ↔
      e.Addressed record ∧ e.time ≤ record.expiresAt.moment ∧ s.status = statusApproved ∧
        ∀ last, s.lastPollAt = some last → record.interval * 1000000 ≤ e.time - last.moment := by
  rw [yields_step_iff (h.deviceCode ▸ hcode) rule e (by decide), h.event_addressed_iff,
    pollDecision_kind_eq_approved_iff, not_tooSoon_iff, h.expiresAt, h.interval]
  tauto

/-- When a poll is answered with the expiry. -/
theorem yields_expired_iff {record s : DeviceCodeRecord} (h : SameIssue record s)
    (hcode : record.deviceCode.SurrogateFree) (rule : UpdateRule) (e : Event) :
    Yields .expiredToken (step rule s e).2 ↔
      e.Addressed record ∧ record.expiresAt.moment < e.time := by
  rw [yields_step_iff (h.deviceCode ▸ hcode) rule e (by decide), h.event_addressed_iff,
    pollDecision_kind_eq_expired_iff, h.expiresAt]

/-! ## Runs -/

/-- The issue stays as it is in every run. -/
theorem sameIssue_final (rule : UpdateRule) (record : DeviceCodeRecord) (events : List Event) :
    SameIssue record (Machine.final (step rule) record events) :=
  Machine.trace_invariant (step rule) (fun s _ => SameIssue record s)
    (fun _ _ e h => h.step rule e) (SameIssue.refl record) events

/-- **Tokens are handed out exactly when they should be.** -/
theorem approvedExactly_of_run {record : DeviceCodeRecord}
    (hcode : record.deviceCode.SurrogateFree) (hpending : record.status = statusPending)
    (rule : UpdateRule) {events : List Event} (hdecides : DecidesOnce events) :
    Machine.AllSteps (step rule) (ApprovedExactly rule record) record events := by
  rw [Machine.allSteps_iff]
  rintro pre e post rfl
  rw [ApprovedExactly, yields_approved_iff (sameIssue_final rule record pre) hcode,
    status_eq_approved_iff hdecides.of_append rule hpending, Written, Machine.map_fst_trace]

/-- **A denied record is never answered with a token.** -/
theorem deniedForGood_of_run {record : DeviceCodeRecord}
    (hcode : record.deviceCode.SurrogateFree) (hpending : record.status = statusPending)
    (rule : UpdateRule) {events : List Event} (hdecides : DecidesOnce events) :
    Machine.AllSteps (step rule) (DeniedForGood rule) record events := by
  rw [Machine.allSteps_iff]
  rintro pre e post rfl hdenied happroved
  rw [Written, Machine.map_fst_trace] at hdenied
  rw [yields_approved_iff (sameIssue_final rule record pre) hcode,
    status_eq_approved_iff hdecides.of_append rule hpending] at happroved
  exact hdecides.of_append.not_both hdenied happroved.2.2.1

/-- **Once expired, expired for good.** -/
theorem expiredForGood_of_run {record : DeviceCodeRecord}
    (hcode : record.deviceCode.SurrogateFree) (rule : UpdateRule) {t : ℤ} {events : List Event}
    (hclock : Machine.Nondecreasing Event.time Event.time t events) :
    ExpiredForGood record (Machine.trace (step rule) record events) := by
  have hrun := Machine.timed_invariant (step rule) Event.time Event.time
    (fun t s tr => SameIssue record s ∧ ExpiredForGood record tr ∧
      ∀ a ∈ tr, Yields .expiredToken a.2 → record.expiresAt.moment < t)
    (fun t s tr e ⟨hissue, hexpired, hpast⟩ ht => by
      refine ⟨hissue.step rule e, ?_, ?_⟩
      · rw [ExpiredForGood, List.pairwise_append]
        refine ⟨hexpired, List.pairwise_singleton _ _, ?_⟩
        intro a ha b hb _ hyields haddressed
        rw [List.mem_singleton.mp hb] at haddressed ⊢
        have hbefore := hpast a ha hyields
        exact (yields_expired_iff hissue hcode rule e).mpr ⟨haddressed, by omega⟩
      · intro a ha hyields
        rcases List.mem_append.mp ha with ha | ha
        · have hbefore := hpast a ha hyields
          omega
        · rw [List.mem_singleton.mp ha] at hyields
          exact ((yields_expired_iff hissue hcode rule e).mp hyields).2)
    (t := t) ⟨SameIssue.refl record, List.Pairwise.nil, by simp⟩ hclock
  exact hrun.2.1

/-! ## The UTC marker -/

/-- The interval is measured between moments. -/
theorem tooSoon_inUtc (s : DeviceCodeRecord) (t : ℤ) : TooSoon s.inUtc t ↔ TooSoon s t := by
  unfold TooSoon DeviceCodeRecord.inUtc
  cases s.lastPollAt with
  | none => simp
  | some last => simp

/-- The decision is made on moments. -/
theorem pollDecision_inUtc (s : DeviceCodeRecord) (t : ℤ) :
    (pollDecision s.inUtc t).kind = (pollDecision s t).kind ∧
      (pollDecision s.inUtc t).retryAfter = (pollDecision s t).retryAfter := by
  have hexpires : s.inUtc.expiresAt.moment = s.expiresAt.moment := DateTime.moment_asUtc _
  unfold pollDecision
  simp only [hexpires, tooSoon_inUtc]
  split_ifs <;> exact ⟨rfl, rfl⟩

/-- The marker changes no verdict. -/
theorem verdict_evaluate_inUtc (p : Poll) (s : DeviceCodeRecord) (t : ℤ) :
    verdict (some (p.inUtc.evaluate s.inUtc t)) = verdict (some (p.evaluate s t)) := by
  obtain ⟨hkind, hretry⟩ := pollDecision_inUtc s t
  have hfields : s.inUtc.deviceCode = s.deviceCode ∧ s.inUtc.clientId = s.clientId ∧
      p.inUtc.deviceCode = p.deviceCode ∧ p.inUtc.clientId = p.clientId := ⟨rfl, rfl, rfl, rfl⟩
  obtain ⟨hcode, hclient, hcode', hclient'⟩ := hfields
  rw [Poll.evaluate_eq, Poll.evaluate_eq, hcode, hclient, hcode', hclient']
  split_ifs
  · rfl
  · rfl
  · show some (Except.ok ((pollDecision s.inUtc t).kind, (pollDecision s.inUtc t).retryAfter))
      = some (Except.ok ((pollDecision s t).kind, (pollDecision s t).retryAfter))
    rw [hkind, hretry]
  · rfl

/-- The marker of a stored moment. -/
theorem asUtc_ofMoment (t : ℤ) (offset : Option ℤ) :
    asUtc (DateTime.ofMoment t offset) = DateTime.ofMoment t (some (offset.getD 0)) := by
  cases offset <;> rfl

/-- After a poll with the same verdict, the records are the same but for the marker. -/
theorem update_inUtc {x y : Except PollError DevicePollDecision}
    (h : verdict (some x) = verdict (some y)) (p : Poll) (rule : UpdateRule) (s : DeviceCodeRecord)
    (t : ℤ) : p.inUtc.update rule s.inUtc t x = (p.update rule s t y).inUtc := by
  cases x with
  | error e =>
    cases y with
    | error e' => rfl
    | ok decision' => cases h
  | ok decision =>
    cases y with
    | error e' => cases h
    | ok decision' =>
      have hkind : decision.kind = decision'.kind :=
        congrArg Prod.fst (Except.ok.inj (Option.some.inj h))
      simp only [Poll.update, hkind]
      by_cases hupdates : rule.updates decision'.kind = true
      · rw [if_pos hupdates, if_pos hupdates]
        simp only [DeviceCodeRecord.inUtc, Option.map_some, asUtc_ofMoment, Poll.inUtc]
      · rw [if_neg hupdates, if_neg hupdates]

/-- **The marker makes no difference to an event.** -/
theorem step_inUtc (rule : UpdateRule) (s : DeviceCodeRecord) (e : Event) :
    (step rule s.inUtc e.inUtc).1 = (step rule s e).1.inUtc ∧
      verdict (step rule s.inUtc e.inUtc).2 = verdict (step rule s e).2 := by
  obtain ⟨time, p | ⟨status, userId⟩⟩ := e
  · have hverdict := verdict_evaluate_inUtc p s time
    exact ⟨update_inUtc hverdict p rule s time, hverdict⟩
  · exact ⟨rfl, rfl⟩

/-- **The marker changes no decision** of a run. -/
theorem outputs_inUtc (rule : UpdateRule) (record : DeviceCodeRecord) (events : List Event) :
    (Machine.outputs (step rule) record events).map verdict
      = (Machine.outputs (step rule) record.inUtc (events.map Event.inUtc)).map verdict := by
  induction events generalizing record with
  | nil => rfl
  | cons e events ih =>
    obtain ⟨hstate, hverdict⟩ := step_inUtc rule record e
    rw [List.map_cons, Machine.outputs_cons, Machine.outputs_cons, List.map_cons, List.map_cons,
      hstate, hverdict, ih]

/-! ## Safety -/

/-- **Device approval is safe**, for every record whose device code can be encoded. -/
theorem device_approval_safe {record : DeviceCodeRecord}
    (hcode : record.deviceCode.SurrogateFree) : DeviceSafe record := by
  intro rule lastPollAt t events hclock hdecides
  set start : DeviceCodeRecord :=
    { record with status := statusPending, lastPollAt := lastPollAt } with hstart
  have hcode' : start.deviceCode.SurrogateFree := hcode
  have hpending : start.status = statusPending := rfl
  exact ⟨approvedExactly_of_run hcode' hpending rule hdecides,
    deniedForGood_of_run hcode' hpending rule hdecides, expiredForGood_of_run hcode' rule hclock,
    outputs_inUtc rule start events⟩

/-- The device polls, the user approves, and the device polls again: too soon, in time, and after
the record has expired. -/
def approvedRun : List Event :=
  [pollAt 1 (PyStr.ofString "code"), ⟨2000000, .write statusApproved none⟩,
    pollAt 3 (PyStr.ofString "code"), pollAt 8 (PyStr.ofString "code"),
    pollAt 601 (PyStr.ofString "code")]

theorem device_approval_safe_approvedRun :
    SafeRun .exceptInvalidGrant (sampleRecord (PyStr.ofString "code")) approvedRun ∧
      (Machine.outputs (step .exceptInvalidGrant) (sampleRecord (PyStr.ofString "code"))
        approvedRun).map (fun result => (verdict result).bind Except.toOption)
        = [some (.authorizationPending, none), none, some (.slowDown, some 5),
          some (.approved, none), some (.expiredToken, none)] := by
  have hcode : (sampleRecord (PyStr.ofString "code")).deviceCode.SurrogateFree := by decide
  refine ⟨device_approval_safe hcode .exceptInvalidGrant none 0 approvedRun ?_ ?_, ?_⟩
  · norm_num [Machine.Nondecreasing, approvedRun, pollAt]
  · unfold DecidesOnce
    decide +kernel
  · decide +kernel

end McpAuthflow.Device
