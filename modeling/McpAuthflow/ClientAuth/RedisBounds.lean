import McpAuthflow.ClientAuth.CacheBounds
import McpAuthflow.ClientAuth.RedisReplay

/-! # What the replay checks keep in Redis

The replay cache in Redis is not swept either: each key is written with a time to live, which is
capped at the six minutes for which a replay could still be accepted, whatever `exp` an assertion
claims. So over any interleaving of calls, on any number of authenticators over one server, and with
any failures of the Redis client, the keys are bounded by the calls of the last six minutes:
**`redis_replay_keys_recent`**. -/

namespace McpAuthflow.ClientAuth

variable {κ : Type*}

/-! ## What is written -/

/-- A `SET` that wrote its key at this moment, with a legal time to live. -/
def JtiWrite.LegalAt (w : JtiWrite) (now : ℚ) : Prop := w.time = now ∧ LegalTtl w.ttlMs

theorem set_legal {format : Json → PyStr} {s : Cluster κ} {jti : Json} {exp checkAt : ℚ}
    {w : JtiWrite} (h : (s.set format jti exp checkAt).1 = some w) : w.LegalAt s.clock := by
  rcases set_cases format s jti exp checkAt with ⟨-, hset⟩ | ⟨w', rfl, -, hset⟩
  · rw [hset] at h
    cases h
  · rw [hset] at h
    obtain rfl := Option.some.inj h
    exact ⟨rfl, legalTtl_redisTtlMs exp checkAt⟩

/-- **Every key is written with a legal time to live**, whatever the action. -/
theorem step_legal {jwt : PyJWT κ} {format : Json → PyStr} {s : Cluster κ} {a : Action}
    {w : JtiWrite} (h : (Cluster.step jwt format s a).2.bind Reply.written = some w) :
    w.LegalAt s.clock := by
  cases a with
  | tick now => cases h
  | present id tokenEndpoint call =>
    simp only [Cluster.step] at h
    split at h <;> cases h
  | advance id =>
    simp only [Cluster.step] at h
    split at h
    · cases h
    case h_5 call jti exp checkAt _ => exact set_legal h
    all_goals
      rw [(db_proceed s id _ _).2.2.1] at h
      cases h
  | failSet id executed text =>
    simp only [Cluster.step] at h
    split at h
    case h_1 call jti exp checkAt _ =>
      cases executed with
      | false => cases h
      | true => exact set_legal h
    case h_2 => cases h

/-! ## The bound -/

/-- The `SET`s that wrote their key in the six minutes before `now`. -/
def recentWrites (now : ℚ) (tr : List (Action × Option Reply)) : List JtiWrite :=
  (writes tr).filter fun w => w.time ≤ now ∧ now ≤ w.time + jwtReplayCacheMaxTtlSeconds

/-- **The replay keys are bounded by recent traffic.** -/
structure BoundedReplayKeys (s : Cluster κ) (tr : List (Action × Option Reply)) : Prop where
  /-- Each key was written in the last six minutes. -/
  recent : ∀ key v, Keyspace.read s.db s.clock key = some v →
    ∃ w ∈ recentWrites s.clock tr, w.key = key
  /-- There are at most as many keys as calls that wrote one in the last six minutes. -/
  size : (Keyspace.liveKeys s.db s.clock).length ≤ (recentWrites s.clock tr).length

/-- **The invariant**: keys exist while a time to live is running, which started in the past and was
legal. -/
structure LegalKeysInv (s : Cluster κ) (tr : List (Action × Option Reply)) : Prop where
  keys : KeysInv s tr
  legal : ∀ w ∈ writes tr, w.time ≤ s.clock ∧ LegalTtl w.ttlMs

/-- **One action keeps the invariant.** -/
theorem LegalKeysInv.step {jwt : PyJWT κ} {format : Json → PyStr} {s : Cluster κ}
    {tr : List (Action × Option Reply)} (h : LegalKeysInv s tr) (a : Action) :
    LegalKeysInv (Cluster.step jwt format s a).1
      (tr ++ [(a, (Cluster.step jwt format s a).2)]) := by
  have hclock : s.clock ≤ (Cluster.step jwt format s a).1.clock := by
    rcases step_cases jwt format s a with ⟨-, hclock, -⟩ | ⟨w, -, -, -, hclock, -⟩
    · exact hclock
    · exact hclock.ge
  refine ⟨h.keys.step a, fun w hw => ?_⟩
  rcases mem_writes_concat.mp hw with hold | hnew
  · obtain ⟨htime, hlegal⟩ := h.legal w hold
    exact ⟨le_trans htime hclock, hlegal⟩
  · obtain ⟨htime, hlegal⟩ := step_legal hnew
    exact ⟨htime ▸ hclock, hlegal⟩

/-- A running time to live that is legal started at most six minutes ago. -/
theorem LegalKeysInv.boundedReplayKeys {s : Cluster κ} {tr : List (Action × Option Reply)}
    (h : LegalKeysInv s tr) : BoundedReplayKeys s tr := by
  have hrecent : ∀ key v, Keyspace.read s.db s.clock key = some v →
      ∃ w ∈ recentWrites s.clock tr, w.key = key := by
    intro key v hread
    obtain ⟨w, hw, hkey, hrunning⟩ := (h.keys.exists_iff key).mp ⟨v, hread⟩
    obtain ⟨htime, -, hcap⟩ := h.legal w hw
    refine ⟨w, ?_, hkey⟩
    rw [recentWrites, List.mem_filter, decide_eq_true_eq]
    refine ⟨hw, htime, ?_⟩
    rw [JtiWrite.deadline] at hrunning
    linarith
  refine ⟨hrecent, ?_⟩
  have hkeys : ∀ key v, Keyspace.read s.db s.clock key = some v →
      key ∈ (recentWrites s.clock tr).map JtiWrite.key :=
    fun key v hread => List.mem_map.mpr (hrecent key v hread)
  have hlength := Keyspace.length_liveKeys_le hkeys
  rwa [List.length_map] at hlength

/-- **The replay cache in Redis is bounded by recent traffic**, in every state that any interleaving
of calls and failures reaches. -/
theorem redis_replay_keys_recent (jwt : PyJWT κ) (format : Json → PyStr) (clock : ℚ)
    (actions : List Action) :
    BoundedReplayKeys
      (Machine.final (Cluster.step jwt format) (Cluster.start clock) actions)
      (Machine.trace (Cluster.step jwt format) (Cluster.start clock) actions) := by
  have hinit : LegalKeysInv (Cluster.start clock : Cluster κ) [] :=
    ⟨.start clock, fun w hw => absurd hw (List.not_mem_nil)⟩
  exact (Machine.trace_invariant (Cluster.step jwt format) LegalKeysInv
    (fun s tr a h => h.step a) hinit actions).boundedReplayKeys

end McpAuthflow.ClientAuth
