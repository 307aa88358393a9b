import McpAuthflow.Storage.Statements

/-! # What the database and the log learn of a token

A token is a credential; a copy of the database or of the log must not contain it. `hash_token` and
`token_fingerprint` are there for this. Nothing can be said here about how hard it is to find a
token from its digest, but that the digest is all there is: two series of calls that differ only in
their tokens, and whose tokens have the same digests, even digests of different hash functions, are
one and the same to the database and to the log (**`tokens_undisclosed`**). This holds against every
database, also one that answers what it likes. -/

namespace McpAuthflow.Storage

open Program

/-! ## Calls that differ in their tokens -/

section

variable (sha256 sha256' : List UInt8 → PyStr)

/-- Two tokens with the same digest, or both without one. -/
def SameDigest (token token' : PyStr) : Prop :=
  (hashToken sha256 token).toOption = (hashToken sha256' token').toOption

instance (token token' : PyStr) : Decidable (SameDigest sha256 sha256' token token') :=
  inferInstanceAs (Decidable (_ = _))

/-- Two operations that are the same but for their tokens, and these have the same digests. -/
inductive SameButTokens : TokenOp → TokenOp → Prop where
  | store (kind : TokenKind) (args : TokenArgs) (token' : PyStr)
      (h : SameDigest sha256 sha256' args.token token') :
      SameButTokens (.store kind args) (.store kind { args with token := token' })
  | load (kind : TokenKind) (token token' : PyStr) (h : SameDigest sha256 sha256' token token') :
      SameButTokens (.load kind token) (.load kind token')
  | delete (kind : TokenKind) (token token' : PyStr) (h : SameDigest sha256 sha256' token token') :
      SameButTokens (.delete kind token) (.delete kind token')
  | cleanup (kind : TokenKind) : SameButTokens (.cleanup kind) (.cleanup kind)
  | revokeClientTokens (clientId : PyStr) :
      SameButTokens (.revokeClientTokens clientId) (.revokeClientTokens clientId)
  | count (kind : TokenKind) : SameButTokens (.count kind) (.count kind)

end

/-- Two exceptions that are the same but for the text that could not be encoded. -/
inductive SameError : StorageError → StorageError → Prop where
  | refl (e : StorageError) : SameError e e
  | unicodeEncode (text text' : PyStr) : SameError (.unicodeEncode text) (.unicodeEncode text')

/-- Two replies that are the same but for the caller's own token in a loaded record. -/
inductive SameReply : Reply → Reply → Prop where
  | refl (r : Reply) : SameReply r r
  | loaded (data : TokenData) (token' : PyStr) :
      SameReply (.loaded (some data)) (.loaded (some { data with token := token' }))

/-! ## One method -/

section

variable {sha256 sha256' : List UInt8 → PyStr} {token token' : PyStr}

/-- Tokens with the same digest are digested alike. -/
theorem SameDigest.hashToken (h : SameDigest sha256 sha256' token token') :
    (∃ digest, Storage.hashToken sha256 token = .ok digest ∧
        Storage.hashToken sha256' token' = .ok digest) ∨
      Storage.hashToken sha256 token = .error (.unicodeEncode token) ∧
        Storage.hashToken sha256' token' = .error (.unicodeEncode token') := by
  unfold SameDigest at h
  revert h
  unfold Storage.hashToken
  cases token.encodeUtf8 with
  | none =>
    cases token'.encodeUtf8 with
    | none => exact fun _ => .inr ⟨rfl, rfl⟩
    | some bytes' => simp [Except.toOption]
  | some bytes =>
    cases token'.encodeUtf8 with
    | none => simp [Except.toOption]
    | some bytes' =>
      intro h
      have hdigest : sha256 bytes = sha256' bytes' := Option.some.inj h
      exact .inl ⟨sha256' bytes', congrArg Except.ok hdigest, rfl⟩

/-- To agree, whatever is the same otherwise. -/
theorem agree_refl {α : Type} (p : Method α) : Agree Eq SameError p p :=
  .refl (fun _ => rfl) .refl p

/-- Digesting tokens with the same digest, methods may go on with what they have in common. -/
theorem SameDigest.agree_bind {α β : Type} {R : α → β → Prop}
    (h : SameDigest sha256 sha256' token token') {f : PyStr → Method α} {f' : PyStr → Method β}
    (hf : ∀ digest, Storage.hashToken sha256 token = .ok digest →
      Storage.hashToken sha256' token' = .ok digest → Agree R SameError (f digest) (f' digest)) :
    Agree R SameError (ofExcept (Storage.hashToken sha256 token) >>= f)
      (ofExcept (Storage.hashToken sha256' token') >>= f') := by
  obtain ⟨digest, hdigest, hdigest'⟩ | ⟨herror, herror'⟩ := h.hashToken
  · rw [hdigest, hdigest']
    exact hf digest hdigest hdigest'
  · rw [herror, herror']
    exact .raise (.unicodeEncode token token')

theorem agree_deleteFrom (h : SameDigest sha256 sha256' token token') (pool : Bool)
    (kind : TokenKind) :
    Agree Eq SameError (Method.deleteFrom sha256 pool kind token)
      (Method.deleteFrom sha256' pool kind token') := by
  refine Agree.bind (agree_refl (Method.requirePool pool)) ?_
  rintro _ _ -
  apply h.agree_bind
  intro digest hdigest hdigest'
  rw [Method.tokenFingerprint_of_hashToken hdigest, Method.tokenFingerprint_of_hashToken hdigest']
  exact agree_refl _

theorem agree_storeTo {args : TokenArgs} (h : SameDigest sha256 sha256' args.token token')
    (pool : Bool) (kind : TokenKind) :
    Agree Eq SameError (Method.storeTo sha256 pool kind args)
      (Method.storeTo sha256' pool kind { args with token := token' }) := by
  refine Agree.bind (agree_refl (Method.requirePool pool)) ?_
  rintro _ _ -
  refine Agree.bind (agree_refl (ofExcept (fromTimestamp args.expiresAt))) ?_
  rintro expiresAt _ rfl
  apply h.agree_bind
  intro digest hdigest hdigest'
  rw [Method.tokenFingerprint_of_hashToken hdigest, Method.tokenFingerprint_of_hashToken hdigest']
  exact agree_refl _

/-- What a load returns differs in the token it was called with. -/
theorem agree_loadFrom (h : SameDigest sha256 sha256' token token') (pool : Bool)
    (kind : TokenKind) (now : ℚ) :
    Agree (fun d d' => SameReply (.loaded d) (.loaded d')) SameError
      (Method.loadFrom sha256 pool kind token now)
      (Method.loadFrom sha256' pool kind token' now) := by
  refine Agree.bind (agree_refl (Method.requirePool pool)) ?_
  rintro _ _ -
  apply h.agree_bind
  intro digest hdigest hdigest'
  rw [Method.tokenFingerprint_of_hashToken hdigest, Method.tokenFingerprint_of_hashToken hdigest']
  simp only [Method.send, request_bind, ofExcept_ok, ret_bind, logLine_bind, pure_eq]
  apply Agree.send
  intro row
  cases row with
  | none => exact .log (.ret (.refl _))
  | some row =>
    by_cases hexpired : row.expiresAt < micros now
    · simp only [if_pos hexpired]
      apply Agree.log
      refine Agree.bind (agree_deleteFrom h pool kind) ?_
      rintro _ _ -
      exact .ret (.refl _)
    · simp only [if_neg hexpired]
      exact .ret (.loaded (PostgresTokenStorage.loadedRow token row) token')

/-- **One call**: operations that are the same but for their tokens have programs that agree. -/
theorem agree_program {op op' : TokenOp} (h : SameButTokens sha256 sha256' op op') (pool : Bool)
    (now : ℚ) :
    Agree SameReply SameError (Method.program sha256 pool now op)
      (Method.program sha256' pool now op') := by
  cases h with
  | store kind args token' h =>
    exact Agree.bind (agree_storeTo h pool kind) fun _ _ _ => .ret (.refl _)
  | load kind token token' h =>
    exact Agree.bind (agree_loadFrom h pool kind now) fun _ _ hdata => .ret hdata
  | delete kind token token' h =>
    exact Agree.bind (agree_deleteFrom h pool kind) fun _ _ _ => .ret (.refl _)
  | cleanup kind | revokeClientTokens clientId | count kind => exact .refl .refl .refl _

end

/-! ## Series of calls -/

/-- One call against a database: what the database and the log see, and how the call ends. -/
def callDatabase {σ φ : Type}
    (serve : ℚ → σ → (st : Statement) → σ × Except φ st.Answer) (sha256 : List UInt8 → PyStr)
    (pool : Bool) (s : σ) (c : TokenCall) :
    σ × List (Event Statement LogLine) × Ending StorageError φ Reply :=
  let r := (Method.program sha256 pool c.time c.op).run (serve c.time) s
  (r.state, r.events, r.ending)

/-- **Tokens are not disclosed.** Take any database and two series of calls at the same moments that
are the same but for their tokens, where these have the same digests under the hash functions used.
Then the database receives the same statements and ends in the same state, and the same lines are
logged; only what the callers get back differs, in their own tokens. -/
theorem tokens_undisclosed {σ φ : Type}
    (serve : ℚ → σ → (st : Statement) → σ × Except φ st.Answer) (s : σ) (pool : Bool)
    (sha256 sha256' : List UInt8 → PyStr) {calls calls' : List TokenCall}
    (h : List.Forall₂
      (fun c c' => c.time = c'.time ∧ SameButTokens sha256 sha256' c.op c'.op) calls calls') :
    let seen := Machine.outputs (callDatabase serve sha256 pool) s calls
    let seen' := Machine.outputs (callDatabase serve sha256' pool) s calls'
    Machine.final (callDatabase serve sha256 pool) s calls
        = Machine.final (callDatabase serve sha256' pool) s calls' ∧
      List.Forall₂ (fun o o' => o.1 = o'.1 ∧ Ending.Agree SameReply SameError o.2 o'.2)
        seen seen' := by
  intro seen seen'
  refine Machine.forall₂_outputs (R := Eq) ?_ rfl h
  rintro s _ c c' rfl ⟨htime, hop⟩
  obtain ⟨hstate, hevents, hending⟩ :=
    (agree_program hop pool c.time).run (serve c.time) s
  simp only [callDatabase, ← htime]
  exact ⟨hstate, hevents, hending⟩

/-- A hash function under which the token `b` has the digest that `a` has. -/
def swappedSha256 (bytes : List UInt8) : PyStr :=
  sampleSha256 (if bytes = [97] then [98] else if bytes = [98] then [97] else bytes)

/-- Storing and loading `a`, and storing and loading `b`. -/
theorem tokens_undisclosed_swapped :
    let calls (token : PyStr) : List TokenCall :=
      [⟨0, .store .access (sampleArgs token)⟩, ⟨1, .load .access token⟩]
    let serve := PostgresTokenStorage.execute
    let s : PostgresTokenStorage := ⟨true, ∅, none⟩
    let a := PyStr.ofString "a"
    let b := PyStr.ofString "b"
    SameDigest sampleSha256 swappedSha256 a b ∧
      Machine.final (callDatabase serve sampleSha256 true) s (calls a)
        = Machine.final (callDatabase serve swappedSha256 true) s (calls b) ∧
      List.Forall₂ (fun o o' => o.1 = o'.1 ∧ Ending.Agree SameReply SameError o.2 o'.2)
        (Machine.outputs (callDatabase serve sampleSha256 true) s (calls a))
        (Machine.outputs (callDatabase serve swappedSha256 true) s (calls b)) := by
  intro calls serve s a b
  have hdigest : SameDigest sampleSha256 swappedSha256 a b := by decide +kernel
  have hcalls : List.Forall₂
      (fun c c' : TokenCall => c.time = c'.time ∧
        SameButTokens sampleSha256 swappedSha256 c.op c'.op) (calls a) (calls b) :=
    .cons ⟨rfl, .store .access (sampleArgs a) b hdigest⟩
      (.cons ⟨rfl, .load .access a b hdigest⟩ .nil)
  exact ⟨hdigest, tokens_undisclosed serve s true sampleSha256 swappedSha256 hcalls⟩

end McpAuthflow.Storage
