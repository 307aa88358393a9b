import McpAuthflow.Device.DevicePoll
import McpAuthflow.Foundations.Machine
import Mathlib.Data.Int.ConditionallyCompleteOrder

/-! # Polling a device code

A record is polled any number of times, by anybody, while its status may be written in between.
After each poll the caller updates `last_poll_at` by one of the two rules the docstrings give. The
code, the client, the expiry and the interval stay as they are.

Polls with another code or client change nothing, and of two polls that are answered with the status
the second comes an interval after the first: **`polls_paced_and_undisturbed`**. -/

namespace McpAuthflow.Device

/-! ## Runs -/

/-- The rule by which a caller sets `last_poll_at` after a decision. -/
inductive UpdateRule where
  /-- After all but `INVALID_GRANT`, as `evaluate_device_poll` has it. -/
  | exceptInvalidGrant
  /-- After all but `INVALID_GRANT` and `SLOW_DOWN`, as `DeviceCodeRecord` has it. -/
  | exceptInvalidGrantAndSlowDown

/-- Whether `last_poll_at` is set after a decision. -/
def UpdateRule.updates : UpdateRule → DevicePollDecisionKind → Bool
  | _, .invalidGrant => false
  | .exceptInvalidGrantAndSlowDown, .slowDown => false
  | _, _ => true

/-- What a poll presents, the offset of the `now` it is evaluated at (`none` leaves it to the
clock), and the offset its moment is stored with (`none` for a naive datetime). -/
structure Poll where
  deviceCode : PyStr
  clientId : PyStr
  nowOffset : Option ℤ
  storedOffset : Option ℤ

/-- What happens to a record. -/
inductive Action where
  | poll (p : Poll)
  | write (status : PyStr) (userId : Option UserId)

/-- An action at a moment. -/
structure Event where
  time : ℤ
  action : Action

/-- The decision on a poll at the moment `t`. -/
def Poll.evaluate (p : Poll) (record : DeviceCodeRecord) (t : ℤ) :
    Except PollError DevicePollDecision :=
  evaluateDevicePoll (some record) p.deviceCode p.clientId
    (p.nowOffset.map fun offset => DateTime.ofMoment t (some offset)) (DateTime.ofMoment t (some 0))

/-- What the caller makes of the record after a poll. -/
def Poll.update (p : Poll) (rule : UpdateRule) (record : DeviceCodeRecord) (t : ℤ) :
    Except PollError DevicePollDecision → DeviceCodeRecord
  | .error _ => record
  | .ok decision =>
    if rule.updates decision.kind then
      { record with lastPollAt := some (DateTime.ofMoment t p.storedOffset) }
    else record

/-- One event; a poll shows its decision or exception. -/
def step (rule : UpdateRule) (record : DeviceCodeRecord) (e : Event) :
    DeviceCodeRecord × Option (Except PollError DevicePollDecision) :=
  match e.action with
  | .write status userId => ({ record with status := status, userId := userId }, none)
  | .poll p =>
    (p.update rule record e.time (p.evaluate record e.time), some (p.evaluate record e.time))

/-- The trace of a run. -/
abbrev PollTrace := List (Event × Option (Except PollError DevicePollDecision))

/-- The poll presents the code and the client of the record. -/
def Poll.Addressed (p : Poll) (record : DeviceCodeRecord) : Prop :=
  p.deviceCode = record.deviceCode ∧ p.clientId = record.clientId

instance decidableAddressed (p : Poll) (record : DeviceCodeRecord) :
    Decidable (p.Addressed record) := inferInstanceAs (Decidable (_ ∧ _))

/-- The decision that was made, if one was. -/
def Yields (kind : DevicePollDecisionKind)
    (result : Option (Except PollError DevicePollDecision)) : Prop :=
  ∃ decision, result = some (.ok decision) ∧ decision.kind = kind

/-! ## One poll -/

/-- A poll is evaluated at its moment, whatever the offset. -/
theorem Poll.evaluate_eq (p : Poll) (record : DeviceCodeRecord) (t : ℤ) :
    p.evaluate record t
      = if ¬ (record.deviceCode.SurrogateFree ∧ p.deviceCode.SurrogateFree) then
          .error .unicodeEncodeError
        else if record.deviceCode ≠ p.deviceCode then .ok ⟨.invalidGrant, none, none⟩
        else if record.clientId ≠ p.clientId then .ok ⟨.invalidGrant, some record, none⟩
        else .ok (pollDecision record t) := by
  obtain ⟨code, client, nowOffset, storedOffset⟩ := p
  have hmoment : ((nowOffset.map fun offset => DateTime.ofMoment t (some offset)).getD
      (DateTime.ofMoment t (some 0))).moment = t := by
    cases nowOffset <;> simp
  have haware : ((nowOffset.map fun offset => DateTime.ofMoment t (some offset)).getD
      (DateTime.ofMoment t (some 0))).utcoffset.isSome := by
    cases nowOffset <;> rfl
  rw [Poll.evaluate, evaluateDevicePoll_eq record code client haware, hmoment]

/-- A poll with the right code and client is decided, if the code can be encoded. -/
theorem Poll.evaluate_of_addressed {p : Poll} {record : DeviceCodeRecord}
    (hcode : record.deviceCode.SurrogateFree) (h : p.Addressed record) (t : ℤ) :
    p.evaluate record t = .ok (pollDecision record t) := by
  rw [Poll.evaluate_eq, if_neg (not_not.mpr ⟨hcode, h.1 ▸ hcode⟩), if_neg (not_not.mpr h.1.symm),
    if_neg (not_not.mpr h.2.symm)]

/-- A poll with another code or client is an invalid grant, or an exception. -/
theorem Poll.evaluate_of_not_addressed {p : Poll} {record : DeviceCodeRecord}
    (h : ¬ p.Addressed record) {t : ℤ} {decision : DevicePollDecision}
    (hdecision : p.evaluate record t = .ok decision) : decision.kind = .invalidGrant := by
  rw [Poll.evaluate_eq] at hdecision
  split_ifs at hdecision with hencoded hcode hclient
  · rw [← Except.ok.inj hdecision]
  · rw [← Except.ok.inj hdecision]
  · exact absurd ⟨(not_not.mp hcode).symm, (not_not.mp hclient).symm⟩ h

/-- If the device code has no encoding, every poll raises. -/
theorem Poll.evaluate_of_not_surrogateFree {p : Poll} {record : DeviceCodeRecord}
    (h : ¬ record.deviceCode.SurrogateFree) (t : ℤ) :
    p.evaluate record t = .error .unicodeEncodeError := by
  rw [Poll.evaluate_eq, if_pos fun hboth => h hboth.1]

/-- A decision other than `INVALID_GRANT` is made on a poll with the right code and client. -/
theorem Poll.of_evaluate_eq_ok {p : Poll} {record : DeviceCodeRecord} {t : ℤ}
    {decision : DevicePollDecision} (h : p.evaluate record t = .ok decision)
    (hkind : decision.kind ≠ .invalidGrant) :
    p.Addressed record ∧ decision = pollDecision record t := by
  have haddressed : p.Addressed record := by
    by_contra hnot
    exact hkind (Poll.evaluate_of_not_addressed hnot h)
  refine ⟨haddressed, ?_⟩
  by_cases hcode : record.deviceCode.SurrogateFree
  · rw [Poll.evaluate_of_addressed hcode haddressed] at h
    exact (Except.ok.inj h).symm
  · rw [Poll.evaluate_of_not_surrogateFree hcode] at h
    cases h

/-- A poll with another code or client leaves the record alone. -/
theorem Poll.update_of_not_addressed {p : Poll} {record : DeviceCodeRecord}
    (h : ¬ p.Addressed record) (rule : UpdateRule) (t : ℤ) :
    p.update rule record t (p.evaluate record t) = record := by
  cases hdecision : p.evaluate record t with
  | error e => rfl
  | ok decision =>
    have hkind := Poll.evaluate_of_not_addressed h hdecision
    simp only [Poll.update, hkind]
    cases rule <;> rfl

/-- A poll changes nothing but `last_poll_at`, which is set to its moment if at all. -/
theorem Poll.update_cases (p : Poll) (rule : UpdateRule) (record : DeviceCodeRecord) (t : ℤ)
    (result : Except PollError DevicePollDecision) :
    p.update rule record t result = record ∨
      p.update rule record t result
        = { record with lastPollAt := some (DateTime.ofMoment t p.storedOffset) } := by
  cases result with
  | error e => exact Or.inl rfl
  | ok decision =>
    unfold Poll.update
    by_cases hupdates : rule.updates decision.kind = true
    · exact Or.inr (if_pos hupdates)
    · exact Or.inl (if_neg hupdates)

/-! ## What stays as it is -/

/-- The fields of a record that nothing writes. -/
structure SameIssue (record s : DeviceCodeRecord) : Prop where
  deviceCode : s.deviceCode = record.deviceCode
  clientId : s.clientId = record.clientId
  expiresAt : s.expiresAt = record.expiresAt
  interval : s.interval = record.interval

theorem SameIssue.refl (record : DeviceCodeRecord) : SameIssue record record := ⟨rfl, rfl, rfl, rfl⟩

/-- **An event keeps the code, the client, the expiry and the interval.** -/
theorem SameIssue.step {record s : DeviceCodeRecord} (h : SameIssue record s) (rule : UpdateRule)
    (e : Event) : SameIssue record (step rule s e).1 := by
  obtain ⟨time, p | ⟨status, userId⟩⟩ := e
  · rcases p.update_cases rule s time (p.evaluate s time) with hsame | hset
    · simp only [Device.step, hsame]
      exact h
    · simp only [Device.step, hset]
      exact ⟨h.deviceCode, h.clientId, h.expiresAt, h.interval⟩
  · exact ⟨h.deviceCode, h.clientId, h.expiresAt, h.interval⟩

/-- A poll is addressed to a record throughout its run, or never. -/
theorem SameIssue.addressed_iff {record s : DeviceCodeRecord} (h : SameIssue record s) (p : Poll) :
    p.Addressed s ↔ p.Addressed record := by
  rw [Poll.Addressed, Poll.Addressed, h.deviceCode, h.clientId]

/-! ## Pacing -/

/-- The poll was answered with the status. -/
def Answered (result : Option (Except PollError DevicePollDecision)) : Prop :=
  Yields .authorizationPending result ∨ Yields .accessDenied result ∨ Yields .approved result

/-- **The polls answered with the status are an interval apart.** -/
def Spaced (record : DeviceCodeRecord) (tr : PollTrace) : Prop :=
  tr.Pairwise fun a b => Answered a.2 → Answered b.2 →
    record.interval * 1000000 ≤ b.1.time - a.1.time

/-- The decision behind an answer with the status. -/
theorem Answered.decision {result : Option (Except PollError DevicePollDecision)}
    (h : Answered result) :
    ∃ decision, result = some (.ok decision) ∧ decision.kind ≠ .invalidGrant ∧
      decision.kind ≠ .expiredToken ∧ decision.kind ≠ .slowDown := by
  rcases h with ⟨decision, hresult, hkind⟩ | ⟨decision, hresult, hkind⟩ | ⟨decision, hresult, hkind⟩
  all_goals
    refine ⟨decision, hresult, ?_⟩
    rw [hkind]
    decide

/-- Every such decision sets `last_poll_at`, by either rule. -/
theorem UpdateRule.updates_of_ne {kind : DevicePollDecisionKind} (h : kind ≠ .invalidGrant)
    (h' : kind ≠ .slowDown) (rule : UpdateRule) : rule.updates kind = true := by
  cases kind with
  | invalidGrant => exact absurd rfl h
  | slowDown => exact absurd rfl h'
  | approved | authorizationPending | accessDenied | expiredToken => cases rule <;> rfl

/-- `last_poll_at` stays, or becomes the moment of the event. -/
theorem lastPollAt_step (rule : UpdateRule) (s : DeviceCodeRecord) (e : Event) :
    (step rule s e).1.lastPollAt = s.lastPollAt ∨
      ∃ last, (step rule s e).1.lastPollAt = some last ∧ last.moment = e.time := by
  obtain ⟨time, p | ⟨status, userId⟩⟩ := e
  · rcases p.update_cases rule s time (p.evaluate s time) with hsame | hset
    · exact Or.inl (by simp only [step, hsame])
    · exact Or.inr ⟨DateTime.ofMoment time p.storedOffset, by simp only [step, hset],
        DateTime.moment_ofMoment _ _⟩
  · exact Or.inl rfl

/-- **A poll answered with the status** comes an interval after `last_poll_at`, and sets it. -/
theorem answered_step {rule : UpdateRule} {s : DeviceCodeRecord} {e : Event}
    (h : Answered (step rule s e).2) :
    (∀ last, s.lastPollAt = some last → s.interval * 1000000 ≤ e.time - last.moment) ∧
      ∃ last, (step rule s e).1.lastPollAt = some last ∧ last.moment = e.time := by
  obtain ⟨time, p | ⟨status, userId⟩⟩ := e
  · obtain ⟨decision, hresult, hgrant, hexpired, hslow⟩ := h.decision
    have hdecision : p.evaluate s time = .ok decision := Option.some.inj hresult
    obtain ⟨-, rfl⟩ := Poll.of_evaluate_eq_ok hdecision hgrant
    have hpaced := pollDecision_of_kind_ne hexpired hslow
    refine ⟨?_, DateTime.ofMoment time p.storedOffset, ?_, DateTime.moment_ofMoment _ _⟩
    · intro last hlast
      exact not_lt.mp fun hsoon => hpaced ⟨last, hlast, hsoon⟩
    · have hupdates := UpdateRule.updates_of_ne hgrant hslow rule
      simp only [step, hdecision, Poll.update, if_pos hupdates]
  · obtain ⟨decision, hresult, -⟩ := h.decision
    cases hresult

/-- **The invariant of pacing** at the time `t`: no poll that was answered is later than
`last_poll_at`. -/
structure Paced (record : DeviceCodeRecord) (t : ℤ) (s : DeviceCodeRecord) (tr : PollTrace) :
    Prop where
  issue : SameIssue record s
  spaced : Spaced record tr
  polled : ∀ a ∈ tr, Answered a.2 →
    a.1.time ≤ t ∧ ∃ last, s.lastPollAt = some last ∧ a.1.time ≤ last.moment

/-- **One event keeps the invariant.** -/
theorem Paced.step {record s : DeviceCodeRecord} {t : ℤ} {tr : PollTrace}
    (h : Paced record t s tr) {e : Event} (ht : t ≤ e.time) (rule : UpdateRule) :
    Paced record e.time (step rule s e).1 (tr ++ [(e, (step rule s e).2)]) := by
  refine ⟨h.issue.step rule e, ?_, ?_⟩
  · rw [Spaced, List.pairwise_append]
    refine ⟨h.spaced, List.pairwise_singleton _ _, ?_⟩
    intro a ha b hb hanswered hanswered'
    rw [List.mem_singleton.mp hb] at hanswered' ⊢
    obtain ⟨-, last, hlast, hle⟩ := h.polled a ha hanswered
    have hinterval := (answered_step hanswered').1 last hlast
    rw [h.issue.interval] at hinterval
    show record.interval * 1000000 ≤ e.time - a.1.time
    omega
  · intro a ha hanswered
    rcases List.mem_append.mp ha with ha | ha
    · obtain ⟨hbefore, last, hlast, hle⟩ := h.polled a ha hanswered
      refine ⟨by omega, ?_⟩
      rcases lastPollAt_step rule s e with hsame | ⟨last', hlast', hmoment⟩
      · exact ⟨last, hsame.trans hlast, hle⟩
      · exact ⟨last', hlast', by omega⟩
    · rw [List.mem_singleton.mp ha] at hanswered ⊢
      obtain ⟨-, last, hlast, hmoment⟩ := answered_step hanswered
      exact ⟨le_rfl, last, hlast, hmoment.ge⟩

/-! ## Outsiders -/

/-- The event is not a poll with another code or client. -/
def Event.concerns (record : DeviceCodeRecord) (e : Event) : Bool :=
  match e.action with
  | .poll p => p.Addressed record
  | .write _ _ => true

/-- An event that does not concern a record leaves it alone. -/
theorem step_of_not_concerns {record s : DeviceCodeRecord} (h : SameIssue record s) {e : Event}
    (hother : e.concerns record = false) (rule : UpdateRule) : (step rule s e).1 = s := by
  obtain ⟨time, p | ⟨status, userId⟩⟩ := e
  · have hnot : ¬ p.Addressed s := mt (h.addressed_iff p).mp (of_decide_eq_false hother)
    exact Poll.update_of_not_addressed hnot rule time
  · cases hother

/-- **Polling is paced and cannot be disturbed by outsiders**: for every record, either rule, and
every run of polls and writes of the status at nondecreasing times, the polls that are answered with
the status are an interval apart; and without the polls that present another code or client, the
other polls are decided alike. -/
theorem polls_paced_and_undisturbed (rule : UpdateRule) (record : DeviceCodeRecord) (t : ℤ)
    (events : List Event) (hclock : Machine.Nondecreasing Event.time Event.time t events) :
    Spaced record (Machine.trace (step rule) record events) ∧
      Machine.trace (step rule) record (events.filter (·.concerns record))
        = (Machine.trace (step rule) record events).filter (·.1.concerns record) := by
  constructor
  · have hinit : Paced record t record [] :=
      ⟨SameIssue.refl record, List.Pairwise.nil, by simp⟩
    exact (Machine.timed_invariant (step rule) Event.time Event.time (Paced record)
      (fun t s tr e h ht => h.step ht rule) hinit hclock).spaced
  · refine Machine.trace_filter (step rule) Event.time Event.time
      (fun _ s _ u => s = u ∧ SameIssue record s) (G := fun _ _ _ => True) ?_ ?_
      ⟨rfl, SameIssue.refl record⟩ hclock (Machine.allSteps_true _ _ _)
    · rintro t s tr _ e ⟨rfl, hissue⟩ - - -
      exact ⟨rfl, rfl, hissue.step rule e⟩
    · rintro t s tr _ e ⟨rfl, hissue⟩ - - hother
      rw [step_of_not_concerns hissue hother rule]
      exact ⟨rfl, hissue⟩

/-- A pending record that expires at second 600, to be polled every five seconds. -/
def sampleRecord (code : PyStr) : DeviceCodeRecord where
  deviceCode := code
  userCode := PyStr.ofString "WDJB-MJHT"
  clientId := PyStr.ofString "client"
  scopes := PyStr.ofString "read"
  status := statusPending
  userId := none
  expiresAt := DateTime.ofMoment 600000000 none
  interval := 5
  lastPollAt := none

/-- A poll by the client at the given second. -/
def pollAt (second : ℤ) (code : PyStr) : Event :=
  ⟨second * 1000000, .poll ⟨code, PyStr.ofString "client", none, none⟩⟩

/-- An outsider polls between two polls of the device. -/
def disturbedRun : List Event :=
  [pollAt 1 (PyStr.ofString "code"), pollAt 5 (PyStr.ofString "guess"),
    pollAt 6 (PyStr.ofString "code")]

theorem polls_paced_and_undisturbed_disturbedRun :
    Spaced (sampleRecord (PyStr.ofString "code"))
        (Machine.trace (step .exceptInvalidGrant) (sampleRecord (PyStr.ofString "code"))
          disturbedRun) ∧
      Machine.trace (step .exceptInvalidGrant) (sampleRecord (PyStr.ofString "code"))
          (disturbedRun.filter (·.concerns (sampleRecord (PyStr.ofString "code"))))
        = (Machine.trace (step .exceptInvalidGrant) (sampleRecord (PyStr.ofString "code"))
            disturbedRun).filter (·.1.concerns (sampleRecord (PyStr.ofString "code"))) :=
  polls_paced_and_undisturbed .exceptInvalidGrant _ 0 disturbedRun
    (by simp [disturbedRun, pollAt, Machine.Nondecreasing])

end McpAuthflow.Device
