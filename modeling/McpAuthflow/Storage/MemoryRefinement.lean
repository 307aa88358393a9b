import McpAuthflow.Storage.AbstractStore
import McpAuthflow.Storage.Memory

/-! # `MemoryTokenStorage` implements the abstract store

The dicts forget expired records (on load and on cleanup) and the abstract store does not, so the
two agree on what may be shown now or later (`MemoryTokenStorage.Tracks`): a record that has expired
at `⌊now⌋` has expired for good. Tokens are digested, so agreement is claimed for a set `K` of
tokens on which digests do not collide.

* **`step_tracks`** — one call is answered as the abstract store answers it, counts aside;
* **`memory_implements_store`** — every load returns the latest store of its token, read off the
  history of the run. -/

namespace McpAuthflow.Storage

variable {sha256 : List UInt8 → PyStr} {K : PyStr → Prop}

/-- What may be shown of a record. -/
def shown (now : ℚ) (data : Option TokenData) : Option TokenData :=
  data.filter (TokenData.shownAt now)

/-- What is not shown any more never will be. -/
theorem TokenData.shownAt_of_le {now later : ℚ} (hle : now ≤ later) {data : TokenData}
    (h : data.shownAt later = true) : data.shownAt now = true := by
  simp only [shownAt, decide_eq_true_eq] at h ⊢
  exact le_trans (Int.floor_le_floor hle) h

/-- Forgetting records that are not shown now is not seen later. -/
theorem shown_filter {now later : ℚ} (hle : now ≤ later) {p : TokenData → Bool}
    (hp : ∀ data, data.shownAt now = true → p data = true) (data : Option TokenData) :
    shown later (data.filter p) = shown later data := by
  rw [shown, shown, Option.filter_filter]
  congr 1
  funext d
  cases hd : d.shownAt later with
  | false => simp
  | true => simp [hp d (TokenData.shownAt_of_le hle hd)]

/-- On the clock of a run `int(time.time())` is the floor, so the code keeps what may be shown. -/
theorem not_expired_iff_shownAt {now : ℚ} (h : 0 ≤ now) (data : TokenData) :
    (!decide (data.expiresAt < pyInt now)) = data.shownAt now := by
  rw [pyInt_of_nonneg h, TokenData.shownAt, ← decide_not]
  simp only [not_lt]

/-- The storage shows what the abstract store shows, now and later, of the tokens in `K`. -/
structure MemoryTokenStorage.Tracks (sha256 : List UInt8 → PyStr) (K : PyStr → Prop) (t : ℚ)
    (s : MemoryTokenStorage) (u : AbstractStore) : Prop where
  initialized : s.initialized = u.initialized
  shows : ∀ kind token digest, K token → hashToken sha256 token = .ok digest → ∀ later, t ≤ later →
    shown later ((s.tokens kind).lookup digest) = shown later (u.records kind token)

namespace MemoryTokenStorage

theorem Tracks.of_le {t now : ℚ} {s : MemoryTokenStorage} {u : AbstractStore}
    (h : s.Tracks sha256 K t u) (ht : t ≤ now) : s.Tracks sha256 K now u :=
  ⟨h.initialized, fun kind token digest hK hd later hle =>
    h.shows kind token digest hK hd later (le_trans ht hle)⟩

/-- Replacing the dict of one kind by one that shows what the abstract store now shows. -/
theorem Tracks.setTokens {now : ℚ} {s : MemoryTokenStorage} {u u' : AbstractStore}
    {kind : TokenKind} (h : s.Tracks sha256 K now u) {store : TokenStore}
    (hinit : u'.initialized = u.initialized)
    (hother : ∀ k, k ≠ kind → u'.records k = u.records k)
    (hself : ∀ token digest, K token → hashToken sha256 token = .ok digest → ∀ later, now ≤ later →
      shown later (store.lookup digest) = shown later (u'.records kind token)) :
    (s.setTokens kind store).Tracks sha256 K now u' := by
  refine ⟨by rw [initialized_setTokens, hinit, h.initialized], ?_⟩
  intro k token digest hK hd later hle
  by_cases hk : k = kind
  · subst hk
    rw [tokens_setTokens_self]
    exact hself token digest hK hd later hle
  · rw [tokens_setTokens_ne hk, hother k hk]
    exact h.shows k token digest hK hd later hle

/-- Forgetting records that are not shown any more. -/
theorem Tracks.forget {now : ℚ} {s : MemoryTokenStorage} {u : AbstractStore} {kind : TokenKind}
    (h : s.Tracks sha256 K now u) {store : TokenStore}
    (hstore : ∀ digest later, now ≤ later →
      shown later (store.lookup digest) = shown later ((s.tokens kind).lookup digest)) :
    (s.setTokens kind store).Tracks sha256 K now u := by
  refine h.setTokens rfl (fun _ _ => rfl) ?_
  intro token digest hK hd later hle
  rw [hstore digest later hle]
  exact h.shows kind token digest hK hd later hle

/-- Changing the record of one token in `K`, in both. -/
theorem Tracks.setRecord {now : ℚ} {s : MemoryTokenStorage} {u : AbstractStore} {kind : TokenKind}
    {token digest : PyStr} (hinj : HashInjOn sha256 K) (h : s.Tracks sha256 K now u) (hK : K token)
    (hd : hashToken sha256 token = .ok digest) {store : TokenStore} {data : Option TokenData}
    (hself : store.lookup digest = data)
    (hother : ∀ digest', digest' ≠ digest → store.lookup digest' = (s.tokens kind).lookup digest') :
    (s.setTokens kind store).Tracks sha256 K now (u.setRecord kind token data) := by
  refine h.setTokens rfl ?_ ?_
  · intro k hk
    funext t
    simp [AbstractStore.setRecord, hk]
  · intro token' digest' hK' hd' later hle
    by_cases htoken : token' = token
    · subst htoken
      obtain rfl : digest' = digest := Except.ok.inj (hd'.symm.trans hd)
      rw [hself]
      simp [AbstractStore.setRecord]
    · -- another token in `K` has another digest
      have hne : digest' ≠ digest := by
        rintro rfl
        exact htoken (hinj token' token digest' hK' hK hd' hd)
      rw [hother digest' hne]
      simp only [AbstractStore.setRecord, true_and, htoken, if_false]
      exact h.shows kind token' digest' hK' hd' later hle

end MemoryTokenStorage

/-- A reply of the storage with the counts left out. -/
def Reply.forgetCount : Reply → Reply
  | .number _ => .done
  | r => r

open MemoryTokenStorage

/-- An operation on tokens is answered as the abstract store answers it, counts aside, and leaves
stores that agree. -/
def Follows (sha256 : List UInt8 → PyStr) (K : PyStr → Prop) (s : MemoryTokenStorage)
    (u : AbstractStore) (now : ℚ) (op : TokenOp) : Prop :=
  (s.tokenStep sha256 now op).2.map Reply.forgetCount = (u.tokenStep sha256 now op).2 ∧
    (s.tokenStep sha256 now op).1.Tracks sha256 K now (u.tokenStep sha256 now op).1

section Operations

variable {s : MemoryTokenStorage} {u : AbstractStore} {now : ℚ}

/-- A token without a digest is refused by both. -/
theorem follows_of_hashToken_error (h : s.Tracks sha256 K now u) (hinit : s.initialized = true)
    {op : TokenOp} {token : PyStr} (hop : token ∈ op.tokens) {e : StorageError}
    (he : hashToken sha256 token = .error e) : Follows sha256 K s u now op := by
  rw [Follows, MemoryTokenStorage.tokenStep_of_hashToken_error hinit hop he,
    AbstractStore.tokenStep_of_hashToken_error hop he]
  exact ⟨rfl, h⟩

/-- A load: a record that has expired is forgotten, and was not shown. -/
theorem follows_load (h0 : 0 ≤ now) (h : s.Tracks sha256 K now u) (hinit : s.initialized = true)
    (kind : TokenKind) {token digest : PyStr} (hK : K token)
    (hd : hashToken sha256 token = .ok digest) :
    Follows sha256 K s u now (.load kind token) := by
  have hshow := h.shows kind token digest hK hd now le_rfl
  rw [Follows, tokenStep_load hinit hd]
  simp only [AbstractStore.tokenStep, hd]
  cases hdata : (s.tokens kind).lookup digest with
  | none =>
    rw [hdata] at hshow
    exact ⟨by rw [← shown, ← hshow]; rfl, h⟩
  | some data =>
    rw [hdata] at hshow
    have hexp := not_expired_iff_shownAt h0 data
    simp only
    split
    case isTrue hlt =>
      -- expired: deleted by the load, and hidden by the abstract store for good
      have hnot : data.shownAt now = false := by
        rw [← hexp]
        simp [hlt]
      refine ⟨?_, h.forget ?_⟩
      · rw [← shown, ← hshow, shown, Option.filter_some_neg hnot]
        rfl
      · intro digest' later hle
        by_cases hdig : digest' = digest
        · subst hdig
          rw [AList.lookup_erase, hdata, ← shown_filter hle (fun _ hd => hd) (some data),
            Option.filter_some_neg hnot]
        · rw [AList.lookup_erase_ne hdig]
    case isFalse hge =>
      -- in force: found by both
      have hshown : data.shownAt now = true := by
        rw [← hexp]
        simp [hge]
      refine ⟨?_, h⟩
      rw [← shown, ← hshow, shown, Option.filter_some_pos hshown]
      rfl

/-- A revocation: whether a record is the client's does not depend on the clock. -/
theorem follows_revokeClientTokens (h : s.Tracks sha256 K now u) (hinit : s.initialized = true)
    (clientId : PyStr) : Follows sha256 K s u now (.revokeClientTokens clientId) := by
  obtain ⟨htokens, hinit', hresult⟩ := tokenStep_revokeClientTokens sha256 now hinit clientId
  rw [Follows, hresult]
  refine ⟨rfl, ⟨by rw [hinit', ← hinit, h.initialized]; rfl, ?_⟩⟩
  intro kind token digest hKt hd later hle
  rw [htokens, AList.lookup_filter]
  have hcomm : ∀ data : Option TokenData,
      shown later (data.filter fun d => !decide (d.clientId = clientId))
        = (shown later data).filter fun d => !decide (d.clientId = clientId) := by
    intro data
    rw [shown, shown, Option.filter_filter, Option.filter_filter]
    congr 1
    funext d
    exact Bool.and_comm _ _
  rw [hcomm, h.shows kind token digest hKt hd later hle, ← hcomm]
  simp [AbstractStore.tokenStep]

/-- **An operation on tokens**, on initialized stores. -/
theorem tokenStep_tracks (hinj : HashInjOn sha256 K) (h0 : 0 ≤ now) (h : s.Tracks sha256 K now u)
    (hinit : s.initialized = true) {op : TokenOp} (hK : ∀ token ∈ op.tokens, K token) :
    Follows sha256 K s u now op := by
  cases op with
  | store kind args =>
    cases hd : hashToken sha256 args.token with
    | error e => exact follows_of_hashToken_error h hinit (by simp [TokenOp.tokens]) hd
    | ok digest =>
      rw [Follows, tokenStep_store hinit hd]
      simp only [AbstractStore.tokenStep, hd]
      refine ⟨rfl, h.setRecord hinj (hK _ (by simp [TokenOp.tokens])) hd ?_ ?_⟩
      · rw [AList.lookup_insert]
      · intro digest' hne
        rw [AList.lookup_insert_ne hne]
  | load kind token =>
    cases hd : hashToken sha256 token with
    | error e => exact follows_of_hashToken_error h hinit (by simp [TokenOp.tokens]) hd
    | ok digest => exact follows_load h0 h hinit kind (hK _ (by simp [TokenOp.tokens])) hd
  | delete kind token =>
    cases hd : hashToken sha256 token with
    | error e => exact follows_of_hashToken_error h hinit (by simp [TokenOp.tokens]) hd
    | ok digest =>
      rw [Follows, tokenStep_delete hinit hd]
      simp only [AbstractStore.tokenStep, hd]
      refine ⟨rfl, h.setRecord hinj (hK _ (by simp [TokenOp.tokens])) hd ?_ ?_⟩
      · rw [AList.lookup_erase]
      · intro digest' hne
        rw [AList.lookup_erase_ne hne]
  | cleanup kind =>
    rw [Follows, tokenStep_cleanup hinit]
    refine ⟨rfl, h.forget ?_⟩
    intro digest later hle
    rw [AList.lookup_filter]
    -- what a cleanup removes is not shown now, and will not be
    apply shown_filter hle
    intro data hshown
    rw [not_expired_iff_shownAt h0, hshown]
  | count kind =>
    rw [Follows, tokenStep_count hinit]
    exact ⟨rfl, h⟩
  | revokeClientTokens clientId => exact follows_revokeClientTokens h hinit clientId

end Operations

/-- **One call** is answered as the abstract store answers it, counts aside. -/
theorem step_tracks (hinj : HashInjOn sha256 K) {t : ℚ} {s : MemoryTokenStorage} {u : AbstractStore}
    {c : Call} (h0 : 0 ≤ t) (h : s.Tracks sha256 K t u) (ht : t ≤ c.time)
    (hK : ∀ token ∈ c.tokens, K token) :
    (s.step sha256 c).2.map Reply.forgetCount = (u.step sha256 c).2 ∧
      (s.step sha256 c).1.Tracks sha256 K c.time (u.step sha256 c).1 := by
  have hnow := h.of_le ht
  unfold MemoryTokenStorage.step AbstractStore.step
  cases hop : c.op with
  | initializeStorage => exact ⟨rfl, ⟨rfl, hnow.shows⟩⟩
  | close => exact ⟨rfl, ⟨rfl, fun kind _ _ _ _ _ _ => by cases kind <;> rfl⟩⟩
  | token op =>
    simp only
    cases hinit : s.initialized with
    | false =>
      rw [tokenStep_of_not_initialized hinit, ← h.initialized, hinit]
      exact ⟨rfl, hnow⟩
    | true =>
      rw [← h.initialized, hinit, if_pos rfl]
      refine tokenStep_tracks hinj (le_trans h0 ht) hnow hinit ?_
      intro token htoken
      exact hK token (by rw [Call.tokens, hop]; exact htoken)

/-! ## Runs -/

/-- A run at nondecreasing clock readings, counted from the epoch, on tokens whose digests do not
collide. -/
structure TimedRun (sha256 : List UInt8 → PyStr) (calls : List Call) : Prop where
  clock : Machine.Nondecreasing Call.time Call.time 0 calls
  digests : HashInjOn sha256 fun token => ∃ c ∈ calls, token ∈ c.tokens

/-- **A run** of the storage keeps showing what the abstract store shows, and has its history. -/
theorem run_tracks (hinj : HashInjOn sha256 K) {calls : List Call}
    (hclock : Machine.Nondecreasing Call.time Call.time 0 calls)
    (hK : ∀ c ∈ calls, ∀ token ∈ c.tokens, K token) :
    0 ≤ Machine.lastReading Call.time 0 calls ∧
      (Machine.final (MemoryTokenStorage.step sha256) .init calls).Tracks sha256 K
        (Machine.lastReading Call.time 0 calls)
        (Machine.final (AbstractStore.step sha256) .init calls) ∧
      history (Machine.trace (MemoryTokenStorage.step sha256) .init calls)
        = history (Machine.trace (AbstractStore.step sha256) .init calls) := by
  have hinit : MemoryTokenStorage.init.Tracks sha256 K 0 .init :=
    ⟨rfl, fun kind _ _ _ _ _ _ => by cases kind <;> rfl⟩
  have hguard : Machine.AllSteps (MemoryTokenStorage.step sha256)
      (fun _ _ c => ∀ token ∈ c.tokens, K token) .init calls := by
    rw [Machine.allSteps_iff]
    rintro pre c post rfl
    exact hK c (by simp)
  -- the abstract run is replayed from the inputs of the trace
  have hrun := Machine.trace_induction (MemoryTokenStorage.step sha256)
    Call.time Call.time
    (fun t s tr => 0 ≤ t ∧
      s.Tracks sha256 K t (Machine.final (AbstractStore.step sha256) .init (tr.map Prod.fst)) ∧
      (tr.map fun e => (e.1, e.2.isOk))
        = (Machine.trace (AbstractStore.step sha256) .init (tr.map Prod.fst)).map
            fun e => (e.1, e.2.isOk))
    (fun t s tr c hinv ht hc => by
      obtain ⟨h0, htracks, hmap⟩ := hinv
      obtain ⟨hreply, hnext⟩ := step_tracks hinj h0 htracks ht hc
      refine ⟨le_trans h0 ht, ?_, ?_⟩
      · rw [List.map_append, Machine.final_append]
        exact hnext
      · rw [List.map_append, List.map_append, hmap, Machine.trace_append, List.map_append]
        simp only [List.map_cons, List.map_nil, Machine.trace_cons, Machine.trace_nil, ← hreply]
        cases (s.step sha256 c).2 <;> rfl)
    ⟨le_rfl, hinit, rfl⟩ hclock hguard
  rw [Machine.map_fst_trace] at hrun
  exact ⟨hrun.1, hrun.2.1, history_congr hrun.2.2⟩

/-- What a storage promises of the call `c` made after the run `calls`. -/
structure ImplementsStore (sha256 : List UInt8 → PyStr) (calls : List Call) (c : Call) : Prop where
  /-- A load returns a record iff it is the latest store of the token and has not expired. -/
  load_iff : ∀ kind token, c.op = .token (.load kind token) → ∀ data,
    ((Machine.final (MemoryTokenStorage.step sha256) .init calls).step sha256 c).2
        = .ok (.loaded (some data)) ↔
      LatestStore (history (Machine.trace (MemoryTokenStorage.step sha256) .init calls))
        kind token data ∧ ⌊c.time⌋ ≤ data.expiresAt
  /-- An initialized storage answers every load of a token that has a digest. -/
  load_returns : ∀ kind token digest, c.op = .token (.load kind token) →
    initializedAfter (history (Machine.trace (MemoryTokenStorage.step sha256) .init calls)) = true →
    hashToken sha256 token = .ok digest →
    ∃ data, ((Machine.final (MemoryTokenStorage.step sha256) .init calls).step sha256 c).2
      = .ok (.loaded data)
  /-- Loads, cleanups, counts and the other kind's stores and deletes can be inserted anywhere
  before a load, or left out, without changing what it returns. -/
  load_congr : ∀ kind token, c.op = .token (.load kind token) → ∀ calls',
    TimedRun sha256 (calls' ++ [c]) →
    calls'.filter (Call.affects kind) = calls.filter (Call.affects kind) →
    ((Machine.final (MemoryTokenStorage.step sha256) .init calls').step sha256 c).2
      = ((Machine.final (MemoryTokenStorage.step sha256) .init calls).step sha256 c).2
  /-- While not initialized, every operation on tokens raises and changes nothing. -/
  uninitialized : ∀ op, c.op = .token op →
    initializedAfter (history (Machine.trace (MemoryTokenStorage.step sha256) .init calls))
      = false →
    (Machine.final (MemoryTokenStorage.step sha256) .init calls).step sha256 c
      = (Machine.final (MemoryTokenStorage.step sha256) .init calls,
          .error (.notInitialized notInitializedMessage))

/-- A load after a run returns what the abstract store shows. -/
theorem load_eq_abstract {calls : List Call} {c : Call} (hrun : TimedRun sha256 (calls ++ [c]))
    {kind : TokenKind} {token : PyStr} (hop : c.op = .token (.load kind token)) :
    ((Machine.final (MemoryTokenStorage.step sha256) .init calls).step sha256 c).2
      = ((Machine.final (AbstractStore.step sha256) .init calls).step sha256 c).2 := by
  obtain ⟨hclock, hlast⟩ := (Machine.nondecreasing_concat _ _ _ _ _).mp hrun.clock
  obtain ⟨h0, htracks, -⟩ := run_tracks hrun.digests hclock
    (fun d hd token htoken => ⟨d, List.mem_append_left _ hd, htoken⟩)
  obtain ⟨hreply, -⟩ := step_tracks hrun.digests h0 htracks hlast
    (fun token htoken => ⟨c, by simp, htoken⟩)
  rw [← hreply]
  -- a load never replies with a count
  unfold MemoryTokenStorage.step
  rw [hop]
  simp only [MemoryTokenStorage.tokenStep_load_eq, MemoryTokenStorage.replying]
  cases (MemoryTokenStorage.loadFrom sha256 _ kind token c.time).2 <;> rfl

/-- **`MemoryTokenStorage` implements the abstract store**, at every call of every run. -/
theorem memory_implements_store {calls : List Call} {c : Call}
    (hrun : TimedRun sha256 (calls ++ [c])) : ImplementsStore sha256 calls c := by
  obtain ⟨hclock, hlast⟩ := (Machine.nondecreasing_concat _ _ _ _ _).mp hrun.clock
  obtain ⟨h0, htracks, hhist⟩ := run_tracks hrun.digests hclock
    (fun d hd token htoken => ⟨d, List.mem_append_left _ hd, htoken⟩)
  obtain ⟨hrec, hinit⟩ := AbstractStore.records_eq_current sha256 calls
  rw [← hhist] at hinit
  refine ⟨?_, ?_, ?_, ?_⟩
  · -- the register of the token, read off the history
    intro kind token hop data
    rw [load_eq_abstract hrun hop, LatestStore, ← Register.current_eq_some_iff, hhist, ← hrec]
    exact AbstractStore.step_load (AbstractStore.wellFormed_final sha256 calls) hop data
  · intro kind token digest hop hinit' hd
    rw [load_eq_abstract hrun hop, AbstractStore.step, hop]
    simp only [hinit.trans hinit', if_true, AbstractStore.tokenStep, hd]
    exact ⟨_, rfl⟩
  · -- both runs leave the abstract store the same view of the kind
    intro kind token hop calls' hrun' hfilter
    rw [load_eq_abstract hrun hop, load_eq_abstract hrun' hop, AbstractStore.step,
      AbstractStore.step, hop]
    have hview := AbstractStore.view_final_congr sha256 hfilter .init
    have hrec' := congrFun (congrArg Prod.fst hview) token
    have hinit' := congrArg Prod.snd hview
    simp only [AbstractStore.view] at hrec' hinit'
    simp only [hinit', AbstractStore.tokenStep, hrec']
    split
    · split <;> rfl
    · rfl
  · intro op hop hfalse
    rw [MemoryTokenStorage.step, hop]
    exact tokenStep_of_not_initialized (htracks.initialized.trans (hinit.trans hfalse)) op

/-- Two tokens are stored, an overwritten one among them, and the expired ones are swept. -/
def sampleCalls : List Call :=
  [⟨0, .initializeStorage⟩,
    ⟨0, .token (.store .access { sampleArgs (PyStr.ofString "a") with expiresAt := 1 })⟩,
    ⟨1 / 2, .token (.store .access (sampleArgs (PyStr.ofString "a")))⟩,
    ⟨1, .token (.store .refresh (sampleArgs (PyStr.ofString "b")))⟩,
    ⟨3, .token (.cleanup .access)⟩]

/-- A load within the last second of the token. -/
def sampleLoad : Call := ⟨21 / 2, .token (.load .access (PyStr.ofString "a"))⟩

theorem memory_implements_store_sample :
    ImplementsStore sampleSha256 sampleCalls sampleLoad ∧
      ((Machine.final (MemoryTokenStorage.step sampleSha256) .init sampleCalls).step
          sampleSha256 sampleLoad).2
        = .ok (.loaded (some { sampleArgs (PyStr.ofString "a") with createdAt := some 0 })) := by
  refine ⟨memory_implements_store ⟨?_, ?_⟩, by decide +kernel⟩
  · norm_num [sampleCalls, sampleLoad, Machine.Nondecreasing]
  · have htokens : ∀ token, (∃ c ∈ sampleCalls ++ [sampleLoad], token ∈ c.tokens) →
        token = PyStr.ofString "a" ∨ token = PyStr.ofString "b" := by
      rintro token ⟨c, hc, htoken⟩
      simp only [sampleCalls, sampleLoad, List.cons_append, List.nil_append, List.mem_cons,
        List.not_mem_nil, or_false] at hc
      rcases hc with rfl | rfl | rfl | rfl | rfl | rfl <;>
        simp_all [Call.tokens, TokenOp.tokens, sampleArgs]
    intro token token' digest h h' hd hd'
    rcases htokens token h with rfl | rfl <;> rcases htokens token' h' with rfl | rfl
    · rfl
    · rw [← hd] at hd'
      revert hd'
      decide +kernel
    · rw [← hd] at hd'
      revert hd'
      decide +kernel
    · rfl

end McpAuthflow.Storage
