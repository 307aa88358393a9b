import McpAuthflow.ClientAuth.CacheBounds

/-! # What clients can do to one another

All clients share one replay cache, whose entries name a `jti` and no client. So the run of all
calls is compared with the run of one client's calls alone. The two caches hold the same entries,
except those that another client has had recorded, and those that a cleanup pass may or may not have
dropped yet: passes are run when a call of any client finds one due (`Alike`).

As long as the client presents no `jti` for which the cache still holds the entry of another
client's accepted assertion, and without Redis none of its own in the minute after its tracked
expiry (`Undisturbed`), the others make no difference to it: **`clients_do_not_interfere`**. Both
conditions are needed: `clients_interfere`, `cleanup_interferes`. -/

namespace McpAuthflow.ClientAuth

variable {κ : Type*} (jwt : PyJWT κ) (tokenEndpoint : PyStr) (format : Json → PyStr)

/-! ## Runs of one client -/

/-- The call is made with the client id. -/
def TimedCall.ofClient (clientId : PyStr) (c : TimedCall) : Bool := c.call.clientId = clientId

/-- **The others make no difference**: without them, the calls of the client are answered alike. -/
def NoInterference (s : ReplayCache) (clientId : PyStr) (calls : List TimedCall) : Prop :=
  Machine.trace (cacheStep jwt tokenEndpoint format) s (calls.filter (·.ofClient clientId))
    = (Machine.trace (cacheStep jwt tokenEndpoint format) s calls).filter (·.1.ofClient clientId)

/-- In Redis, a call that is accepted writes the key, up to the deadline. -/
def SetsUntil (c : TimedCall) (key : PyStr) (deadline : ℚ) : Prop :=
  ∃ jti exp expires, presented jwt tokenEndpoint c = .ok (jti, exp) ∧
    redisJtiKey format jti = key ∧ floatOperand exp = .ok expires ∧
    deadline = c.readings.record + redisTtlMs expires c.readings.check / 1000

/-- Under the `jti` that `c` presents the cache still holds the entry that `b` has recorded: after
the cleanup of `c`, or when its `SET` is executed. -/
def StillHeld (cache : ReplayCache) (b c : TimedCall) : Prop :=
  match cache with
  | .memory s => ∃ key tracked tracked', Records jwt tokenEndpoint b key tracked ∧
      Records jwt tokenEndpoint c key tracked' ∧
      (cleanupExpiredJtis c.readings.check s).usedJtis.lookup key = some tracked
  | .redis db => ∃ key deadline deadline', SetsUntil jwt tokenEndpoint format b key deadline ∧
      SetsUntil jwt tokenEndpoint format c key deadline' ∧
      db.lookup key = some ⟨PyStr.ofString "1", some deadline⟩ ∧ c.readings.record ≤ deadline

/-- **The condition on a call of the client**, after a run with the trace `tr` that has led to the
replay cache. -/
structure Undisturbed (withRedis : Bool) (clientId : PyStr) (cache : ReplayCache)
    (tr : List (TimedCall × Except AuthError Unit)) (c : TimedCall) : Prop where
  /-- The `jti` is not held for an assertion of another client. -/
  own : ∀ b ∈ tr, b.2 = .ok () → b.1.call.clientId ≠ clientId →
    ¬ StillHeld jwt tokenEndpoint format cache b.1 c
  /-- Without Redis: an entry the client has had recorded is in force, or certain to be dropped. -/
  settled : withRedis = false → ∀ a ∈ tr, a.2 = .ok () → a.1.call.clientId = clientId →
    ∀ key tracked tracked', Records jwt tokenEndpoint a.1 key tracked →
      Records jwt tokenEndpoint c key tracked' →
      c.readings.check ≤ tracked ∨
        max tracked a.1.readings.record + jwtReplayCacheCleanupInterval ≤ c.readings.check

variable {jwt tokenEndpoint format}

/-! ## In memory -/

/-- The step of an authenticator without Redis is that of its dict. -/
theorem cacheStep_memory (s : JtiCache) (c : TimedCall) :
    cacheStep jwt tokenEndpoint format (.memory s) c
      = (.memory (memoryStep jwt tokenEndpoint s c).1, (memoryStep jwt tokenEndpoint s c).2) := by
  rw [cacheStep, memoryStep, authenticate_eq, authenticate_eq]
  cases presented jwt tokenEndpoint c <;> rfl

/-- Another client has had the entry recorded. -/
def RecordedByOther (jwt : PyJWT κ) (tokenEndpoint : PyStr) (clientId : PyStr)
    (tr : List (TimedCall × Except AuthError Unit)) (key : Json.HashKey) (tracked : ℚ) : Prop :=
  ∃ b ∈ tr, b.2 = .ok () ∧ b.1.call.clientId ≠ clientId ∧ Records jwt tokenEndpoint b.1 key tracked

/-- **The relation of the two runs** at the time `t`: `s` is the cache after the trace `tr` of all
calls, `u` the one after the calls of the client alone. What is in force in `u` is so in `s`, and
the other way round for what no other client has had recorded. -/
structure Alike (jwt : PyJWT κ) (tokenEndpoint : PyStr) (clientId : PyStr) (t : ℚ) (s : JtiCache)
    (tr : List (TimedCall × Except AuthError Unit)) (u : JtiCache) : Prop where
  all : TrackedInv jwt tokenEndpoint t s tr
  alone : TrackedInv jwt tokenEndpoint t u (tr.filter (·.1.ofClient clientId))
  fromAll : ∀ key tracked, t ≤ tracked →
    ¬ RecordedByOther jwt tokenEndpoint clientId tr key tracked →
    s.usedJtis.lookup key = some tracked → u.usedJtis.lookup key = some tracked
  fromAlone : ∀ key tracked, t ≤ tracked → u.usedJtis.lookup key = some tracked →
    s.usedJtis.lookup key = some tracked

/-- A cleanup leaves the entries in force alone. -/
theorem lookup_cleanup_of_le {now tracked : ℚ} (h : now ≤ tracked) (s : JtiCache)
    (key : Json.HashKey) :
    (cleanupExpiredJtis now s).usedJtis.lookup key = some tracked ↔
      s.usedJtis.lookup key = some tracked := by
  constructor
  · exact lookup_of_cleanupExpiredJtis
  · intro hlookup
    rcases lookup_cleanupExpiredJtis hlookup now with hkept | ⟨-, hpast⟩
    · exact hkept
    · exact absurd hpast (not_lt.mpr h)

/-- **A call changes no entry in force** but the one it records. -/
theorem lookup_memoryStep_of_le {c : TimedCall} {key : Json.HashKey} {tracked : ℚ}
    (h : c.readings.check ≤ tracked) (s : JtiCache)
    (hother : (memoryStep jwt tokenEndpoint s c).2 = .ok () →
      ∀ x, ¬ Records jwt tokenEndpoint c key x) :
    (memoryStep jwt tokenEndpoint s c).1.usedJtis.lookup key = some tracked ↔
      s.usedJtis.lookup key = some tracked := by
  have hcleaned := lookup_cleanup_of_le h s key
  rw [memoryStep_eq] at hother ⊢
  cases hpresented : presented jwt tokenEndpoint c with
  | error e => rfl
  | ok shown =>
    obtain ⟨jti, exp⟩ := shown
    simp only [hpresented] at hother ⊢
    cases hentry : memoryEntry jti exp c.readings with
    | none => exact hcleaned
    | some entry =>
      obtain ⟨key', tracked'⟩ := entry
      simp only [hentry] at hother ⊢
      cases hheld : (cleanupExpiredJtis c.readings.check s).usedJtis.lookup key' with
      | some old => exact hcleaned
      | none =>
        simp only [hheld] at hother
        -- the entry that is written is the one the call records
        have hne : key ≠ key' := by
          rintro rfl
          exact hother trivial tracked' ⟨jti, exp, hpresented, hentry⟩
        simp only
        rw [AList.lookup_insert_ne hne]
        exact hcleaned

/-- **What the client finds in either cache is in force**, if it is its own: the entry a cleanup
leaves at a key it presents has not run out. -/
theorem check_le_of_held {clientId : PyStr} {t x tracked : ℚ} {s : JtiCache} {cache : ReplayCache}
    {tr tr' : List (TimedCall × Except AuthError Unit)} {c : TimedCall} {key : Json.HashKey}
    (hinv : TrackedInv jwt tokenEndpoint t s tr')
    (hguard : Undisturbed jwt tokenEndpoint format false clientId cache tr c)
    (hown : ∀ a ∈ tr', a.2 = .ok () → Records jwt tokenEndpoint a.1 key x →
      a ∈ tr ∧ a.1.call.clientId = clientId)
    (hc : Records jwt tokenEndpoint c key tracked)
    (hheld : (cleanupExpiredJtis c.readings.check s).usedJtis.lookup key = some x) :
    c.readings.check ≤ x := by
  obtain ⟨a, ha, hok, hrecords, hbefore⟩ := hinv.stems key x (lookup_of_cleanupExpiredJtis hheld)
  obtain ⟨hmem, hclient⟩ := hown a ha hok hrecords
  rcases hguard.settled rfl a hmem hok hclient key x tracked hrecords hc with hforce | hdropped
  · exact hforce
  · -- the last pass would be too old
    have hlast := lastCleanup_cleanup c.readings.check s
    have hle := lastCleanup_cleanup_le_of_lookup hheld hbefore
    linarith

/-- The client finds its `jti` in the one cache iff it finds it in the other. -/
theorem Alike.held_iff {clientId : PyStr} {t tracked : ℚ} {s u : JtiCache}
    {tr : List (TimedCall × Except AuthError Unit)} {c : TimedCall} {key : Json.HashKey}
    (h : Alike jwt tokenEndpoint clientId t s tr u) (ht : t ≤ c.readings.check)
    (hguard : Undisturbed jwt tokenEndpoint format false clientId (.memory s) tr c)
    (hc : Records jwt tokenEndpoint c key tracked) (x : ℚ) :
    (cleanupExpiredJtis c.readings.check s).usedJtis.lookup key = some x ↔
      (cleanupExpiredJtis c.readings.check u).usedJtis.lookup key = some x := by
  constructor
  · intro hheld
    -- what is held is the client's own
    have hclean : ¬ RecordedByOther jwt tokenEndpoint clientId tr key x := by
      rintro ⟨b, hb, hok, hne, hrecords⟩
      exact hguard.own b hb hok hne ⟨key, x, tracked, hrecords, hc, hheld⟩
    have hle := check_le_of_held h.all hguard (fun a ha hok hrecords =>
      ⟨ha, by_contra fun hne => hclean ⟨a, ha, hok, hne, hrecords⟩⟩) hc hheld
    rw [lookup_cleanup_of_le hle] at hheld ⊢
    exact h.fromAll key x (le_trans ht hle) hclean hheld
  · intro hheld
    have hle := check_le_of_held h.alone hguard (fun a ha _ _ =>
      ⟨(List.mem_filter.mp ha).1, of_decide_eq_true (List.mem_filter.mp ha).2⟩) hc hheld
    rw [lookup_cleanup_of_le hle] at hheld ⊢
    exact h.fromAlone key x (le_trans ht hle) hheld

/-- An accepted call has found its `jti` free, and leaves the entry it records. -/
theorem accepted_memoryStep {c : TimedCall} {key : Json.HashKey} {tracked : ℚ} {s : JtiCache}
    (hok : (memoryStep jwt tokenEndpoint s c).2 = .ok ())
    (hrecords : Records jwt tokenEndpoint c key tracked) :
    (cleanupExpiredJtis c.readings.check s).usedJtis.lookup key = none ∧
      (memoryStep jwt tokenEndpoint s c).1.usedJtis.lookup key = some tracked := by
  obtain ⟨jti, exp, hpresented, hentry⟩ := hrecords
  rw [memoryStep_eq, hpresented] at hok ⊢
  simp only [hentry] at hok ⊢
  cases hheld : (cleanupExpiredJtis c.readings.check s).usedJtis.lookup key with
  | some old =>
    simp only [hheld] at hok
    cases hok
  | none => exact ⟨rfl, AList.lookup_insert _⟩

/-- The client is answered alike in both runs. -/
theorem Alike.answer_eq {clientId : PyStr} {t : ℚ} {s u : JtiCache}
    {tr : List (TimedCall × Except AuthError Unit)} {c : TimedCall}
    (h : Alike jwt tokenEndpoint clientId t s tr u) (ht : t ≤ c.readings.check)
    (hguard : Undisturbed jwt tokenEndpoint format false clientId (.memory s) tr c) :
    (memoryStep jwt tokenEndpoint s c).2 = (memoryStep jwt tokenEndpoint u c).2 := by
  rw [memoryStep_eq, memoryStep_eq]
  cases hpresented : presented jwt tokenEndpoint c with
  | error e => rfl
  | ok shown =>
    obtain ⟨jti, exp⟩ := shown
    simp only
    cases hentry : memoryEntry jti exp c.readings with
    | none => rfl
    | some entry =>
      obtain ⟨key, tracked⟩ := entry
      have heq : (cleanupExpiredJtis c.readings.check s).usedJtis.lookup key
          = (cleanupExpiredJtis c.readings.check u).usedJtis.lookup key :=
        Option.ext (h.held_iff ht hguard ⟨jti, exp, hpresented, hentry⟩)
      simp only [heq]
      cases (cleanupExpiredJtis c.readings.check u).usedJtis.lookup key <;> rfl

/-- What no other client has had recorded in a longer run, none had in a shorter one. -/
theorem RecordedByOther.append {clientId : PyStr} {key : Json.HashKey} {tracked : ℚ}
    {tr : List (TimedCall × Except AuthError Unit)}
    (h : RecordedByOther jwt tokenEndpoint clientId tr key tracked)
    (more : List (TimedCall × Except AuthError Unit)) :
    RecordedByOther jwt tokenEndpoint clientId (tr ++ more) key tracked := by
  obtain ⟨b, hb, hrest⟩ := h
  exact ⟨b, List.mem_append_left _ hb, hrest⟩

/-- **A call of the client** is answered alike and keeps the relation. -/
theorem Alike.keep {clientId : PyStr} {t : ℚ} {s u : JtiCache}
    {tr : List (TimedCall × Except AuthError Unit)} {c : TimedCall}
    (h : Alike jwt tokenEndpoint clientId t s tr u) (ht : t ≤ c.readings.verify)
    (hown : c.ofClient clientId = true)
    (hguard : Undisturbed jwt tokenEndpoint format false clientId (.memory s) tr c) :
    (memoryStep jwt tokenEndpoint s c).2 = (memoryStep jwt tokenEndpoint u c).2 ∧
      Alike jwt tokenEndpoint clientId c.readings.record (memoryStep jwt tokenEndpoint s c).1
        (tr ++ [(c, (memoryStep jwt tokenEndpoint s c).2)])
        (memoryStep jwt tokenEndpoint u c).1 := by
  have hcheck : t ≤ c.readings.check :=
    le_trans ht (le_trans c.readings.verify_le_decode c.readings.decode_le_check)
  have hanswer := h.answer_eq hcheck hguard
  -- a call either records the same entry in both caches, or keeps what is in force in both
  have hboth : ∀ key tracked, c.readings.check ≤ tracked →
      (memoryStep jwt tokenEndpoint s c).1.usedJtis.lookup key
          = (memoryStep jwt tokenEndpoint u c).1.usedJtis.lookup key ∨
        ((memoryStep jwt tokenEndpoint s c).1.usedJtis.lookup key = some tracked ↔
          s.usedJtis.lookup key = some tracked) ∧
        ((memoryStep jwt tokenEndpoint u c).1.usedJtis.lookup key = some tracked ↔
          u.usedJtis.lookup key = some tracked) := by
    intro key tracked hforce
    by_cases hnew : (memoryStep jwt tokenEndpoint s c).2 = .ok () ∧
        ∃ x, Records jwt tokenEndpoint c key x
    · obtain ⟨hok, x, hrecords⟩ := hnew
      left
      rw [(accepted_memoryStep hok hrecords).2, (accepted_memoryStep (hanswer ▸ hok) hrecords).2]
    · have hother : (memoryStep jwt tokenEndpoint s c).2 = .ok () →
          ∀ x, ¬ Records jwt tokenEndpoint c key x :=
        fun hok x hrecords => hnew ⟨hok, x, hrecords⟩
      exact Or.inr ⟨lookup_memoryStep_of_le hforce s hother,
        lookup_memoryStep_of_le hforce u fun hok => hother (hanswer.trans hok)⟩
  refine ⟨hanswer, h.all.step ht, ?_, ?_, ?_⟩
  · have halone := h.alone.step ht
    rw [← hanswer] at halone
    rw [List.filter_append, List.filter_cons_of_pos (by exact hown), List.filter_nil]
    exact halone
  · intro key tracked hle hclean hlookup
    have hforce : c.readings.check ≤ tracked := le_trans c.readings.check_le_record hle
    rcases hboth key tracked hforce with heq | ⟨hs, hu⟩
    · rwa [← heq]
    · exact hu.mpr (h.fromAll key tracked (le_trans hcheck hforce)
        (fun hbefore => hclean (hbefore.append _)) (hs.mp hlookup))
  · intro key tracked hle hlookup
    have hforce : c.readings.check ≤ tracked := le_trans c.readings.check_le_record hle
    rcases hboth key tracked hforce with heq | ⟨hs, hu⟩
    · rwa [heq]
    · exact hs.mpr (h.fromAlone key tracked (le_trans hcheck hforce) (hu.mp hlookup))

/-- **A call of another client** keeps the relation. -/
theorem Alike.skip {clientId : PyStr} {t : ℚ} {s u : JtiCache}
    {tr : List (TimedCall × Except AuthError Unit)} {c : TimedCall}
    (h : Alike jwt tokenEndpoint clientId t s tr u) (ht : t ≤ c.readings.verify)
    (hother : c.ofClient clientId = false) :
    Alike jwt tokenEndpoint clientId c.readings.record (memoryStep jwt tokenEndpoint s c).1
      (tr ++ [(c, (memoryStep jwt tokenEndpoint s c).2)]) u := by
  have hcheck : t ≤ c.readings.check :=
    le_trans ht (le_trans c.readings.verify_le_decode c.readings.decode_le_check)
  have hne : c.call.clientId ≠ clientId := of_decide_eq_false hother
  refine ⟨h.all.step ht, ?_, ?_, ?_⟩
  · have halone := h.alone.extend (le_trans hcheck c.readings.check_le_record) []
    rw [List.append_nil] at halone
    rw [List.filter_append, List.filter_cons_of_neg (by simp [hother]), List.filter_nil,
      List.append_nil]
    exact halone
  · intro key tracked hle hclean hlookup
    have hforce : c.readings.check ≤ tracked := le_trans c.readings.check_le_record hle
    -- an entry it records is another client's from now on
    have hkept := lookup_memoryStep_of_le hforce s fun hok x hrecords => by
      rw [(accepted_memoryStep hok hrecords).2, Option.some_inj] at hlookup
      exact hclean ⟨(c, _), List.mem_append_right _ List.mem_cons_self, hok, hne,
        hlookup ▸ hrecords⟩
    exact h.fromAll key tracked (le_trans hcheck hforce)
      (fun hbefore => hclean (hbefore.append _)) (hkept.mp hlookup)
  · intro key tracked hle hlookup
    have hforce : c.readings.check ≤ tracked := le_trans c.readings.check_le_record hle
    have hheld := h.fromAlone key tracked (le_trans hcheck hforce) hlookup
    -- it records nothing where an entry is in force
    refine (lookup_memoryStep_of_le hforce s fun hok x hrecords => ?_).mpr hheld
    rw [← lookup_cleanup_of_le hforce, (accepted_memoryStep hok hrecords).1] at hheld
    cases hheld

/-! ## In Redis -/

/-- Another client has had the key written, up to the deadline. -/
def WrittenByOther (jwt : PyJWT κ) (tokenEndpoint : PyStr) (format : Json → PyStr)
    (clientId : PyStr) (tr : List (TimedCall × Except AuthError Unit)) (key : PyStr)
    (deadline : ℚ) : Prop :=
  ∃ b ∈ tr, b.2 = .ok () ∧ b.1.call.clientId ≠ clientId ∧
    SetsUntil jwt tokenEndpoint format b.1 key deadline

/-- **The relation of the two runs** in Redis: a key is the same in both, or another client has had
it written, with a deadline that outlasts what the client alone has left there. -/
def SameKeys (jwt : PyJWT κ) (tokenEndpoint : PyStr) (format : Json → PyStr) (clientId : PyStr)
    (db : RedisJtis) (tr : List (TimedCall × Except AuthError Unit)) (db' : RedisJtis) : Prop :=
  ∀ key, db.lookup key = db'.lookup key ∨
    ∃ deadline, db.lookup key = some ⟨PyStr.ofString "1", some deadline⟩ ∧
      WrittenByOther jwt tokenEndpoint format clientId tr key deadline ∧
      ∀ e, db'.lookup key = some e → ∃ d, e.deadline = some d ∧ d ≤ deadline

/-- A call on an authenticator with Redis. -/
def redisStep (jwt : PyJWT κ) (tokenEndpoint : PyStr) (format : Json → PyStr) (db : RedisJtis)
    (c : TimedCall) : RedisJtis × Except AuthError Unit :=
  authenticate jwt tokenEndpoint (checkAndRecordJtiRedis format) c.call c.readings db

/-- The step of an authenticator with Redis is that of the server. -/
theorem cacheStep_redis (db : RedisJtis) (c : TimedCall) :
    cacheStep jwt tokenEndpoint format (.redis db) c
      = (.redis (redisStep jwt tokenEndpoint format db c).1,
          (redisStep jwt tokenEndpoint format db c).2) := by
  rw [cacheStep, redisStep, authenticate_eq, authenticate_eq]
  cases presented jwt tokenEndpoint c <;> rfl

/-- **What a call with Redis can do**: raise whatever the keys, or execute its `SET`. -/
theorem redisStep_cases (jwt : PyJWT κ) (tokenEndpoint : PyStr) (format : Json → PyStr)
    (c : TimedCall) :
    (∃ e, ∀ db, redisStep jwt tokenEndpoint format db c = (db, .error e)) ∨
      ∃ key deadline, SetsUntil jwt tokenEndpoint format c key deadline ∧
        ∀ db, redisStep jwt tokenEndpoint format db c
          = match db.read c.readings.record key with
            | some _ => (db, .error (.jwtAuth .replay))
            | none => (db.insert key ⟨PyStr.ofString "1", some deadline⟩, .ok ()) := by
  simp only [redisStep, authenticate_eq]
  cases hpresented : presented jwt tokenEndpoint c with
  | error e => exact Or.inl ⟨e, fun _ => rfl⟩
  | ok shown =>
    obtain ⟨jti, exp⟩ := shown
    simp only [checkAndRecordJtiRedis]
    cases hexp : floatOperand exp with
    | error e => exact Or.inl ⟨_, fun _ => rfl⟩
    | ok expires =>
      refine Or.inr ⟨_, _, ⟨jti, exp, expires, hpresented, rfl, hexp, rfl⟩, fun db => ?_⟩
      simp only [redisSet, Keyspace.setIfAbsent]
      cases db.read c.readings.record (redisJtiKey format jti) <;> rfl

/-- What another client has had written in a shorter run, it has in a longer one. -/
theorem WrittenByOther.append {clientId : PyStr} {key : PyStr} {deadline : ℚ}
    {tr : List (TimedCall × Except AuthError Unit)}
    (h : WrittenByOther jwt tokenEndpoint format clientId tr key deadline)
    (more : List (TimedCall × Except AuthError Unit)) :
    WrittenByOther jwt tokenEndpoint format clientId (tr ++ more) key deadline := by
  obtain ⟨b, hb, hrest⟩ := h
  exact ⟨b, List.mem_append_left _ hb, hrest⟩

/-- The run goes on, and the keys stay as they are. -/
theorem SameKeys.append {clientId : PyStr} {db db' : RedisJtis}
    {tr : List (TimedCall × Except AuthError Unit)}
    (h : SameKeys jwt tokenEndpoint format clientId db tr db')
    (more : List (TimedCall × Except AuthError Unit)) :
    SameKeys jwt tokenEndpoint format clientId db (tr ++ more) db' := by
  intro key
  rcases h key with hsame | ⟨deadline, hlookup, hwritten, hbound⟩
  · exact Or.inl hsame
  · exact Or.inr ⟨deadline, hlookup, hwritten.append more, hbound⟩

/-- **Where the client is undisturbed it reads the same**: a key of another client has expired, and
what it has left there itself has expired before. -/
theorem SameKeys.read_eq {clientId : PyStr} {db db' : RedisJtis} {key : PyStr} {deadline : ℚ}
    {tr : List (TimedCall × Except AuthError Unit)} {c : TimedCall}
    (h : SameKeys jwt tokenEndpoint format clientId db tr db')
    (hguard : Undisturbed jwt tokenEndpoint format true clientId (.redis db) tr c)
    (hc : SetsUntil jwt tokenEndpoint format c key deadline) :
    db.read c.readings.record key = db'.read c.readings.record key := by
  rcases h key with hsame | ⟨held, hlookup, ⟨b, hb, hok, hne, hsets⟩, hbound⟩
  · rw [Keyspace.read, Keyspace.read, hsame]
  · have hgone : ¬ c.readings.record ≤ held := fun hle =>
      hguard.own b hb hok hne ⟨key, held, deadline, hsets, hc, hlookup, hle⟩
    have hnone : db.read c.readings.record key = none := by
      rw [Keyspace.read_of_lookup hlookup]
      simp [Keyspace.alive, hgone]
    rw [hnone]
    cases hlookup' : db'.lookup key with
    | none => exact (Keyspace.read_of_lookup_none hlookup' _).symm
    | some e =>
      obtain ⟨d, hd, hle⟩ := hbound e hlookup'
      have hlate : ¬ c.readings.record ≤ d := fun hle' => hgone (le_trans hle' hle)
      rw [Keyspace.read_of_lookup hlookup']
      simp [Keyspace.alive, hd, hlate]

/-- **A call of the client** is answered alike and keeps the relation. -/
theorem SameKeys.keep {clientId : PyStr} {db db' : RedisJtis}
    {tr : List (TimedCall × Except AuthError Unit)} {c : TimedCall}
    (h : SameKeys jwt tokenEndpoint format clientId db tr db')
    (hguard : Undisturbed jwt tokenEndpoint format true clientId (.redis db) tr c) :
    (redisStep jwt tokenEndpoint format db c).2 = (redisStep jwt tokenEndpoint format db' c).2 ∧
      SameKeys jwt tokenEndpoint format clientId (redisStep jwt tokenEndpoint format db c).1
        (tr ++ [(c, (redisStep jwt tokenEndpoint format db c).2)])
        (redisStep jwt tokenEndpoint format db' c).1 := by
  rcases redisStep_cases jwt tokenEndpoint format c with
    ⟨e, hstep⟩ | ⟨key, deadline, hsets, hstep⟩
  · rw [hstep, hstep]
    exact ⟨rfl, h.append _⟩
  · rw [hstep, hstep, h.read_eq hguard hsets]
    cases db'.read c.readings.record key with
    | some value => exact ⟨rfl, h.append _⟩
    | none =>
      refine ⟨rfl, fun key' => ?_⟩
      by_cases hkey : key' = key
      · rw [hkey, AList.lookup_insert, AList.lookup_insert]
        exact Or.inl rfl
      · rw [AList.lookup_insert_ne hkey, AList.lookup_insert_ne hkey]
        exact h.append _ key'

/-- A `SET` outlasts the moment it is executed. -/
theorem SetsUntil.record_le {c : TimedCall} {key : PyStr} {deadline : ℚ}
    (h : SetsUntil jwt tokenEndpoint format c key deadline) : c.readings.record ≤ deadline := by
  obtain ⟨jti, exp, expires, -, -, -, rfl⟩ := h
  have hlegal := (legalTtl_redisTtlMs expires c.readings.check).1
  rw [jwtMaxClockSkewSeconds] at hlegal
  linarith

/-- **A call of another client** keeps the relation. -/
theorem SameKeys.skip {clientId : PyStr} {db db' : RedisJtis}
    {tr : List (TimedCall × Except AuthError Unit)} {c : TimedCall}
    (h : SameKeys jwt tokenEndpoint format clientId db tr db')
    (hother : c.ofClient clientId = false) :
    SameKeys jwt tokenEndpoint format clientId (redisStep jwt tokenEndpoint format db c).1
      (tr ++ [(c, (redisStep jwt tokenEndpoint format db c).2)]) db' := by
  have hne : c.call.clientId ≠ clientId := of_decide_eq_false hother
  rcases redisStep_cases jwt tokenEndpoint format c with
    ⟨e, hstep⟩ | ⟨key, deadline, hsets, hstep⟩
  · rw [hstep]
    exact h.append _
  · cases hread : db.read c.readings.record key with
    | some value =>
      simp only [hstep, hread]
      exact h.append _
    | none =>
      simp only [hstep, hread]
      intro key'
      by_cases hkey : key' = key
      · subst hkey
        refine Or.inr ⟨deadline, AList.lookup_insert _,
          ⟨(c, _), List.mem_append_right _ List.mem_cons_self, rfl, hne, hsets⟩, ?_⟩
        -- whatever the client has left there had expired before
        intro e he
        rcases h key' with hsame | ⟨held, hlookup, -, hbound⟩
        · obtain ⟨d, hd, hlt⟩ := Keyspace.deadline_lt_of_read_none (hsame.trans he) hread
          exact ⟨d, hd, le_trans hlt.le hsets.record_le⟩
        · obtain ⟨d, hd, hle⟩ := hbound e he
          obtain ⟨d', hd', hlt⟩ := Keyspace.deadline_lt_of_read_none hlookup hread
          obtain rfl := Option.some_inj.mp hd'
          exact ⟨d, hd, le_trans hle (le_trans hlt.le hsets.record_le)⟩
      · rw [AList.lookup_insert_ne hkey]
        exact h.append _ key'

/-! ## Runs -/

/-- **Clients cannot interfere with each other's authentication**, in any run in which each call of
the client is undisturbed: for any library behind `decode`, any calls by any clients with any
assertions, and either cache; in memory, at nondecreasing clock readings. -/
theorem clients_do_not_interfere (jwt : PyJWT κ) (tokenEndpoint : PyStr) (format : Json → PyStr)
    (withRedis : Bool) (createdAt : ℚ) (clientId : PyStr) (calls : List TimedCall)
    (hclock : withRedis = false → Machine.Nondecreasing (fun c : TimedCall => c.readings.verify)
      (fun c => c.readings.record) createdAt calls)
    (hguard : Machine.AllSteps (cacheStep jwt tokenEndpoint format)
      (fun cache tr c => c.call.clientId = clientId →
        Undisturbed jwt tokenEndpoint format withRedis clientId cache tr c)
      (.init withRedis createdAt) calls) :
    NoInterference jwt tokenEndpoint format (.init withRedis createdAt) clientId calls := by
  cases withRedis with
  | false =>
    refine Machine.trace_filter (cacheStep jwt tokenEndpoint format)
      (fun c : TimedCall => c.readings.verify) (fun c => c.readings.record)
      (fun t s tr u => ∃ s' u', s = .memory s' ∧ u = .memory u' ∧
        Alike jwt tokenEndpoint clientId t s' tr u') ?_ ?_ ?_ (hclock rfl) hguard
    · rintro t _ tr _ c ⟨s, u, rfl, rfl, halike⟩ ht hc hown
      rw [cacheStep_memory, cacheStep_memory]
      obtain ⟨hanswer, hkeep⟩ := halike.keep ht hown (hc (of_decide_eq_true hown))
      exact ⟨hanswer, _, _, rfl, rfl, hkeep⟩
    · rintro t _ tr _ c ⟨s, u, rfl, rfl, halike⟩ ht - hother
      rw [cacheStep_memory]
      exact ⟨_, _, rfl, rfl, halike.skip ht hother⟩
    · exact ⟨_, _, rfl, rfl, trackedInv_init createdAt, trackedInv_init createdAt,
        fun _ _ _ _ h => h, fun _ _ _ h => h⟩
  | true =>
    -- what Redis holds does not depend on the clocks of the calls
    refine Machine.trace_filter (cacheStep jwt tokenEndpoint format) (fun _ => ()) (fun _ => ())
      (fun _ s tr u => ∃ db db', s = .redis db ∧ u = .redis db' ∧
        SameKeys jwt tokenEndpoint format clientId db tr db') ?_ ?_ ?_
      (Machine.nondecreasing_const () calls) hguard
    · rintro - _ tr _ c ⟨db, db', rfl, rfl, hsame⟩ - hc hown
      rw [cacheStep_redis, cacheStep_redis]
      obtain ⟨hanswer, hkeep⟩ := hsame.keep (hc (of_decide_eq_true hown))
      exact ⟨hanswer, _, _, rfl, rfl, hkeep⟩
    · rintro - _ tr _ c ⟨db, db', rfl, rfl, hsame⟩ - - hother
      rw [cacheStep_redis]
      exact ⟨_, _, rfl, rfl, hsame.skip hother⟩
    · exact ⟨_, _, rfl, rfl, fun _ => Or.inl rfl⟩

/-! ## Two clients -/

/-- The claims of an assertion by `client`, with the `jti` and expiry given. -/
def claimsBy (client jti : PyStr) (exp : ℚ) : JsonObject :=
  [(PyStr.ofString "iss", .str client), (PyStr.ofString "sub", .str client),
    (PyStr.ofString "aud", .str "token"), (PyStr.ofString "iat", .num 0),
    (PyStr.ofString "exp", .num exp), (PyStr.ofString "jti", .str jti)]

/-- A library for which an assertion's text is its client. -/
def twoClientsJwt (jti : PyStr → PyStr) (exp : PyStr → ℚ) : PyJWT Unit :=
  claimsJwt fun assertion => claimsBy assertion (jti assertion) (exp assertion)

/-- A presentation of its assertion by a client. -/
def presentationBy (client : PyStr) (t : ℚ) : TimedCall where
  call :=
    { clientId := client
      clientAssertion := client
      clientAssertionType := jwtClientAssertionType
      provided := .ok (.obj [(PyStr.ofString "keys", .arr [.obj sampleKey])]) }
  readings := .constant t

/-- Whether the calls of a run were accepted. -/
def acceptances (tr : List (TimedCall × Except AuthError Unit)) : List Bool :=
  tr.map fun e => e.2.isOk

/-- The assertion of `b` expires at second 30, that of any other client at second 300. -/
def shortLivedB (client : PyStr) : ℚ := if client = PyStr.ofString "b" then 30 else 300

/-- Two clients with one `jti`. When the second one comes, the entry of the first is dropped. -/
theorem clients_do_not_interfere_droppedEntry :
    NoInterference (twoClientsJwt (fun _ => PyStr.ofString "j") shortLivedB)
      (PyStr.ofString "token") (fun _ => []) (.init false 0) (PyStr.ofString "a")
      [presentationBy (PyStr.ofString "b") 10, presentationBy (PyStr.ofString "a") 100] := by
  have hne : (presentationBy (PyStr.ofString "b") 10).call.clientId ≠ PyStr.ofString "a" := by
    decide
  -- nothing is left after the cleanup at second 100
  have hempty : (cleanupExpiredJtis 100
      (memoryStep (twoClientsJwt (fun _ => PyStr.ofString "j") shortLivedB) (PyStr.ofString "token")
        (.init 0) (presentationBy (PyStr.ofString "b") 10)).1).usedJtis.entries.isEmpty = true := by
    decide +kernel
  rw [List.isEmpty_iff] at hempty
  apply clients_do_not_interfere
  · intro _
    norm_num [Machine.Nondecreasing, presentationBy, Readings.constant]
  · refine ⟨fun h => absurd h hne, fun _ => ⟨?_, ?_⟩, trivial⟩
    · rintro b - - - hheld
      rw [ReplayCache.init, if_neg Bool.false_ne_true, cacheStep_memory] at hheld
      obtain ⟨key, tracked, tracked', -, -, hlookup⟩ := hheld
      rw [show (presentationBy (PyStr.ofString "a") 100).readings.check = 100 from rfl,
        AList.lookup, hempty] at hlookup
      cases hlookup
    · intro _ a ha _ hclient
      rw [List.mem_singleton.mp ha] at hclient
      exact absurd hclient hne

/-- **Another client's `jti`**: two clients whose assertions carry the same `jti`. The second one is
accepted alone and rejected after the first, with either cache. -/
theorem clients_interfere :
    (twoClientsJwt (fun _ => PyStr.ofString "j") fun _ => 300).Documented
        (fun assertion => claimsBy assertion (PyStr.ofString "j") 300) (fun _ _ _ _ => True) ∧
      Machine.Nondecreasing (fun c : TimedCall => c.readings.verify) (fun c => c.readings.record) 0
        [presentationBy (PyStr.ofString "b") 10, presentationBy (PyStr.ofString "a") 20] ∧
      ¬ NoInterference (twoClientsJwt (fun _ => PyStr.ofString "j") fun _ => 300)
        (PyStr.ofString "token") (fun _ => []) (.init false 0) (PyStr.ofString "a")
        [presentationBy (PyStr.ofString "b") 10, presentationBy (PyStr.ofString "a") 20] ∧
      ¬ NoInterference (twoClientsJwt (fun _ => PyStr.ofString "j") fun _ => 300)
        (PyStr.ofString "token") (fun _ => []) (.init true 0) (PyStr.ofString "a")
        [presentationBy (PyStr.ofString "b") 10, presentationBy (PyStr.ofString "a") 20] := by
  refine ⟨documented_claimsJwt _,
    by norm_num [Machine.Nondecreasing, presentationBy, Readings.constant], fun h => ?_,
    fun h => ?_⟩
  · have haccepted := congrArg acceptances h
    revert haccepted
    decide +kernel
  · have haccepted := congrArg acceptances h
    revert haccepted
    decide +kernel

/-- **Another client's cleanup**: at second 61 a pass for `b` is run, so none is due for `a` at
second 70 and one is at second 125, five seconds after the expiry `a` is tracked under. Alone, `a`
has its pass at second 70 and none at second 125. -/
theorem cleanup_interferes :
    ¬ NoInterference (twoClientsJwt id fun _ => 120) (PyStr.ofString "token") (fun _ => [])
      (.init false 0) (PyStr.ofString "a")
      [presentationBy (PyStr.ofString "b") 61, presentationBy (PyStr.ofString "a") 70,
        presentationBy (PyStr.ofString "a") 125] := by
  intro h
  have haccepted := congrArg acceptances h
  revert haccepted
  decide +kernel

end McpAuthflow.ClientAuth
