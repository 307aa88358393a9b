import McpAuthflow.Foundations.Text
import Mathlib.Algebra.Order.Field.Rat
import Mathlib.Tactic.Linarith

/-! # `evaluate_device_poll` (`mcp_authflow/device.py`)

The decision on a poll of the token endpoint for a device code: five checks in order of priority, on
the record of the device code and the moment of the poll. Datetimes are Python's, naive or aware; a
naive one in the record stands for UTC. The decision depends on the moments they stand for alone
(`evaluateDevicePoll_eq`). -/

namespace McpAuthflow.Device

/-! ## `datetime` -/

/-- What the comparison of datetimes and the encoding of text raise. -/
inductive PollError where
  /-- A naive datetime meets an aware one. -/
  | typeError
  /-- A lone surrogate meets strict UTF-8. -/
  | unicodeEncodeError

/-- A `datetime`: its reading in microseconds, and its offset from UTC if it is aware. -/
structure DateTime where
  reading : ℤ
  utcoffset : Option ℤ

/-- `_as_utc`. -/
def asUtc (dt : DateTime) : DateTime :=
  match dt.utcoffset with
  | none => { dt with utcoffset := some 0 }
  | some _ => dt

namespace DateTime

/-- The moment a datetime stands for, in microseconds; a naive one is taken for UTC. -/
def moment (dt : DateTime) : ℤ := dt.reading - dt.utcoffset.getD 0

/-- A moment as a datetime, naive or with the offset. -/
def ofMoment (t : ℤ) (utcoffset : Option ℤ) : DateTime := ⟨t + utcoffset.getD 0, utcoffset⟩

@[simp] theorem moment_ofMoment (t : ℤ) (utcoffset : Option ℤ) :
    (ofMoment t utcoffset).moment = t :=
  Int.add_sub_cancel t _

/-- `a - b` in microseconds. -/
def sub (a b : DateTime) : Except PollError ℤ :=
  match a.utcoffset, b.utcoffset with
  | none, none => .ok (a.reading - b.reading)
  | some x, some y => .ok ((a.reading - x) - (b.reading - y))
  | _, _ => .error .typeError

/-- `a < b`. -/
def lt (a b : DateTime) : Except PollError Bool :=
  match a.utcoffset, b.utcoffset with
  | none, none => .ok (a.reading < b.reading)
  | some x, some y => .ok (a.reading - x < b.reading - y)
  | _, _ => .error .typeError

@[simp] theorem moment_asUtc (dt : DateTime) : (asUtc dt).moment = dt.moment := by
  obtain ⟨reading, _ | offset⟩ := dt <;> rfl

/-- Datetimes read as UTC compare with an aware one by the moments. -/
theorem lt_asUtc {now : DateTime} (h : now.utcoffset.isSome) (dt : DateTime) :
    (asUtc dt).lt now = .ok (decide (dt.moment < now.moment)) := by
  obtain ⟨offset, hoffset⟩ := Option.isSome_iff_exists.mp h
  have hnow : now.moment = now.reading - offset := by rw [moment, hoffset, Option.getD_some]
  rw [hnow, lt, hoffset]
  obtain ⟨reading, _ | offset'⟩ := dt <;> rfl

/-- Datetimes read as UTC are subtracted from an aware one by the moments. -/
theorem sub_asUtc {now : DateTime} (h : now.utcoffset.isSome) (dt : DateTime) :
    now.sub (asUtc dt) = .ok (now.moment - dt.moment) := by
  obtain ⟨offset, hoffset⟩ := Option.isSome_iff_exists.mp h
  have hnow : now.moment = now.reading - offset := by rw [moment, hoffset, Option.getD_some]
  rw [hnow, sub, hoffset]
  obtain ⟨reading, _ | offset'⟩ := dt <;> rfl

end DateTime

/-! ## Records and decisions -/

/-- `DeviceCodeStatus`, as the texts of a record's `status`. -/
def statusPending : PyStr := PyStr.ofString "pending"

def statusApproved : PyStr := PyStr.ofString "approved"

def statusDenied : PyStr := PyStr.ofString "denied"

/-- A `user_id`: an integer or a text. -/
inductive UserId where
  | int (n : ℤ)
  | str (s : PyStr)

/-- `DeviceCodeRecord`. -/
structure DeviceCodeRecord where
  deviceCode : PyStr
  userCode : PyStr
  clientId : PyStr
  scopes : PyStr
  status : PyStr
  userId : Option UserId
  expiresAt : DateTime
  interval : ℤ
  lastPollAt : Option DateTime

/-- `DevicePollDecisionKind`. -/
inductive DevicePollDecisionKind where
  | approved
  | authorizationPending
  | accessDenied
  | slowDown
  | expiredToken
  | invalidGrant
  deriving DecidableEq

/-- `DevicePollDecision`. -/
structure DevicePollDecision where
  kind : DevicePollDecisionKind
  record : Option DeviceCodeRecord
  retryAfter : Option ℤ

/-- `_STATUS_TO_DECISION_KIND`. -/
def statusToDecisionKind : List (PyStr × DevicePollDecisionKind) :=
  [(statusPending, .authorizationPending), (statusDenied, .accessDenied),
    (statusApproved, .approved)]

/-- The decision for a status; an unknown one is an invalid grant. -/
def decisionKindOf (status : PyStr) : DevicePollDecisionKind :=
  (statusToDecisionKind.lookup status).getD .invalidGrant

/-- The decision for a status, as a chain of tests. -/
theorem decisionKindOf_eq (status : PyStr) :
    decisionKindOf status
      = if status = statusPending then .authorizationPending
        else if status = statusDenied then .accessDenied
        else if status = statusApproved then .approved
        else .invalidGrant := by
  unfold decisionKindOf statusToDecisionKind
  rw [List.lookup_cons, List.lookup_cons, List.lookup_cons, List.lookup_nil]
  split_ifs with hpending hdenied happroved
  · rw [beq_iff_eq.mpr hpending]
    rfl
  · rw [beq_false_of_ne hpending, beq_iff_eq.mpr hdenied]
    rfl
  · rw [beq_false_of_ne hpending, beq_false_of_ne hdenied, beq_iff_eq.mpr happroved]
    rfl
  · rw [beq_false_of_ne hpending, beq_false_of_ne hdenied, beq_false_of_ne happroved]
    rfl

/-- Only the status `approved` is answered with a token. -/
theorem decisionKindOf_eq_approved_iff (status : PyStr) :
    decisionKindOf status = .approved ↔ status = statusApproved := by
  rw [decisionKindOf_eq]
  split_ifs with hpending hdenied happroved
  · rw [hpending]
    decide
  · rw [hdenied]
    decide
  · simp [happroved]
  · simp [happroved]

/-- A status is not answered with `EXPIRED_TOKEN` or `SLOW_DOWN`. -/
theorem decisionKindOf_ne (status : PyStr) :
    decisionKindOf status ≠ .expiredToken ∧ decisionKindOf status ≠ .slowDown := by
  rw [decisionKindOf_eq]
  split_ifs <;> decide

/-! ## `evaluate_device_poll` -/

/-- `timedelta.total_seconds()`: the exact quotient, where the `float` loses the microseconds of
durations from `2 ^ 34` seconds on. -/
def totalSeconds (microseconds : ℤ) : ℚ := microseconds / 1000000

/-- The last steps of `evaluate_device_poll`: the interval, then the status. -/
def evaluateInterval (record : DeviceCodeRecord) (current : DateTime) :
    Except PollError DevicePollDecision :=
  let decided : DevicePollDecision := ⟨decisionKindOf record.status, some record, none⟩
  match record.lastPollAt with
  | none => .ok decided
  | some lastPollAt =>
    match current.sub (asUtc lastPollAt) with
    | .error e => .error e
    | .ok elapsed =>
      if totalSeconds elapsed < record.interval then
        .ok ⟨.slowDown, some record, some record.interval⟩
      else .ok decided

/-- `evaluate_device_poll`. `utcnow` is the answer of `datetime.now(UTC)`, for calls without
`now`. -/
def evaluateDevicePoll (record : Option DeviceCodeRecord) (presentedDeviceCode : PyStr)
    (presentedClientId : PyStr) (now : Option DateTime) (utcnow : DateTime) :
    Except PollError DevicePollDecision :=
  let current := now.getD utcnow
  match record with
  | none => .ok ⟨.invalidGrant, none, none⟩
  | some record =>
    match record.deviceCode.encodeUtf8, presentedDeviceCode.encodeUtf8 with
    | some stored, some presented =>
      -- `secrets.compare_digest`
      if stored ≠ presented then .ok ⟨.invalidGrant, none, none⟩
      else if record.clientId ≠ presentedClientId then .ok ⟨.invalidGrant, some record, none⟩
      else
        match (asUtc record.expiresAt).lt current with
        | .error e => .error e
        | .ok expired =>
          if expired then .ok ⟨.expiredToken, some record, none⟩
          else evaluateInterval record current
    | _, _ => .error .unicodeEncodeError

/-! ## What it depends on -/

/-- The poll comes less than the interval after the last one. -/
def TooSoon (record : DeviceCodeRecord) (t : ℤ) : Prop :=
  ∃ last, record.lastPollAt = some last ∧ t - last.moment < record.interval * 1000000

instance decidableTooSoon (record : DeviceCodeRecord) (t : ℤ) : Decidable (TooSoon record t) :=
  match h : record.lastPollAt with
  | none => .isFalse (by simp [TooSoon, h])
  | some last => decidable_of_iff (t - last.moment < record.interval * 1000000)
      (by simp [TooSoon, h])

/-- Seconds are compared as microseconds. -/
theorem totalSeconds_lt (elapsed interval : ℤ) :
    totalSeconds elapsed < interval ↔ elapsed < interval * 1000000 := by
  rw [totalSeconds, div_lt_iff₀ (by norm_num)]
  exact_mod_cast Iff.rfl

/-- The decision on a poll at the moment `t` with the right code and client. -/
def pollDecision (record : DeviceCodeRecord) (t : ℤ) : DevicePollDecision :=
  if record.expiresAt.moment < t then ⟨.expiredToken, some record, none⟩
  else if TooSoon record t then ⟨.slowDown, some record, some record.interval⟩
  else ⟨decisionKindOf record.status, some record, none⟩

/-- The interval check, at an aware `current`. -/
theorem evaluateInterval_eq (record : DeviceCodeRecord) {current : DateTime}
    (h : current.utcoffset.isSome) :
    evaluateInterval record current
      = .ok (if TooSoon record current.moment then
          ⟨.slowDown, some record, some record.interval⟩
        else ⟨decisionKindOf record.status, some record, none⟩) := by
  unfold evaluateInterval
  cases hlast : record.lastPollAt with
  | none => simp [TooSoon, hlast]
  | some last =>
    simp only [DateTime.sub_asUtc h, totalSeconds_lt]
    have hiff : TooSoon record current.moment ↔
        current.moment - last.moment < record.interval * 1000000 := by
      simp [TooSoon, hlast]
    by_cases hsoon : TooSoon record current.moment
    · rw [if_pos hsoon, if_pos (hiff.mp hsoon)]
    · rw [if_neg hsoon, if_neg (mt hiff.mpr hsoon)]

/-- **What a poll comes to**, at an aware moment: an exception if one of the codes has no encoding,
else an invalid grant if the code or the client is not the record's, else the decision for that
moment. -/
theorem evaluateDevicePoll_eq (record : DeviceCodeRecord) (code client : PyStr)
    {now : Option DateTime} {utcnow : DateTime} (h : (now.getD utcnow).utcoffset.isSome) :
    evaluateDevicePoll (some record) code client now utcnow
      = if ¬ (record.deviceCode.SurrogateFree ∧ code.SurrogateFree) then
          .error .unicodeEncodeError
        else if record.deviceCode ≠ code then .ok ⟨.invalidGrant, none, none⟩
        else if record.clientId ≠ client then .ok ⟨.invalidGrant, some record, none⟩
        else .ok (pollDecision record (now.getD utcnow).moment) := by
  unfold evaluateDevicePoll
  simp only [← PyStr.encodeUtf8_isSome_iff]
  cases hstored : record.deviceCode.encodeUtf8 with
  | none => simp
  | some stored =>
    cases hpresented : code.encodeUtf8 with
    | none => simp
    | some presented =>
      -- the bytes are compared, which compares the codes
      have hsame : stored ≠ presented ↔ record.deviceCode ≠ code :=
        not_congr (PyStr.encodings_eq_iff hstored hpresented)
      simp only [Option.isSome_some, and_self, not_true_eq_false, if_false, hsame]
      split_ifs with hcode hclient
      · rfl
      · rfl
      · simp only [DateTime.lt_asUtc h, evaluateInterval_eq record h, pollDecision]
        by_cases hexpired : record.expiresAt.moment < (now.getD utcnow).moment
        · simp [hexpired]
        · simp only [hexpired, decide_false, Bool.false_eq_true, if_false]

/-- When a poll is answered with the expiry. -/
theorem pollDecision_kind_eq_expired_iff (record : DeviceCodeRecord) (t : ℤ) :
    (pollDecision record t).kind = .expiredToken ↔ record.expiresAt.moment < t := by
  have hstatus := (decisionKindOf_ne record.status).1
  unfold pollDecision
  split_ifs with hexpired hsoon
  · simp [hexpired]
  · simp [hexpired]
  · simp [hexpired, hstatus]

/-- When a poll is answered with the status. -/
theorem pollDecision_of_kind_ne {record : DeviceCodeRecord} {t : ℤ}
    (hexpired : (pollDecision record t).kind ≠ .expiredToken)
    (hslow : (pollDecision record t).kind ≠ .slowDown) :
    ¬ TooSoon record t := by
  intro hsoon
  unfold pollDecision at hexpired hslow
  split_ifs at hexpired hslow
  · exact hexpired rfl
  · exact hslow rfl

/-- When a poll is answered with a token. -/
theorem pollDecision_kind_eq_approved_iff (record : DeviceCodeRecord) (t : ℤ) :
    (pollDecision record t).kind = .approved ↔
      t ≤ record.expiresAt.moment ∧ ¬ TooSoon record t ∧ record.status = statusApproved := by
  unfold pollDecision
  split_ifs with hexpired hsoon
  · simp [hexpired]
  · simp [hsoon]
  · simp [not_lt.mp hexpired, hsoon, decisionKindOf_eq_approved_iff]

end McpAuthflow.Device
