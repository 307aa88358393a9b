import McpAuthflow.Foundations.Heap
import McpAuthflow.Foundations.Machine
import McpAuthflow.Storage.Memory

/-! # Who else holds the scopes of a stored token

`MemoryTokenStorage` keeps Python objects, and a caller that holds one of them can change it.
Storing copies the caller's list of scopes; loading copies the record but not the list in it, so the
list a caller is given is the one the storage keeps. Here the storage is modelled with its objects:
a record refers to its list of scopes, and callers may create and change lists between the calls.

* **`values_suffice`** — along every run in which no caller changes the list of a record that is
  stored, the storage behaves as one that keeps values;
* **`loaded_scopes_writable`** — a caller that does change the list it was given changes what the
  next load returns. -/

namespace McpAuthflow.Storage

/-! ## Records with references -/

/-- The arguments of `store_token` and `store_refresh_token`, the scopes by reference. -/
structure ObjectArgs where
  token : PyStr
  clientId : PyStr
  scopes : Ref
  expiresAt : ℤ
  resource : Option PyStr
  userId : Option UserId

/-- A record, as it is stored and as a load returns it. -/
structure ObjectData extends ObjectArgs where
  createdAt : Option ℤ

/-- The lists of scopes that there are. -/
abbrev ListHeap := Heap (List PyStr)

/-- What the arguments say at the moment. -/
def ObjectArgs.value (heap : ListHeap) (args : ObjectArgs) : TokenArgs where
  token := args.token
  clientId := args.clientId
  scopes := heap.read args.scopes
  expiresAt := args.expiresAt
  resource := args.resource
  userId := args.userId

/-- What a record says at the moment. -/
def ObjectData.value (heap : ListHeap) (data : ObjectData) : TokenData where
  toTokenArgs := data.toObjectArgs.value heap
  createdAt := data.createdAt

/-- The state of a `MemoryTokenStorage`, with the lists of the program it runs in. -/
structure ObjectStorage where
  accessTokens : Dict PyStr ObjectData
  refreshTokens : Dict PyStr ObjectData
  initialized : Bool
  heap : ListHeap

/-- The operations on an initialized storage. -/
inductive ObjectOp where
  | store (kind : TokenKind) (args : ObjectArgs)
  | load (kind : TokenKind) (token : PyStr)
  | delete (kind : TokenKind) (token : PyStr)
  | cleanup (kind : TokenKind)
  | revokeClientTokens (clientId : PyStr)
  | count (kind : TokenKind)

/-- What an operation asks for at the moment. -/
def ObjectOp.value (heap : ListHeap) : ObjectOp → TokenOp
  | .store kind args => .store kind (args.value heap)
  | .load kind token => .load kind token
  | .delete kind token => .delete kind token
  | .cleanup kind => .cleanup kind
  | .revokeClientTokens clientId => .revokeClientTokens clientId
  | .count kind => .count kind

/-- What an operation returns. -/
inductive ObjectReply where
  | done
  | loaded (data : Option ObjectData)
  | number (n : ℕ)

/-- What a caller reads in a reply at the moment. -/
def ObjectReply.value (heap : ListHeap) : ObjectReply → Reply
  | .done => .done
  | .loaded data => .loaded (data.map (·.value heap))
  | .number n => .number n

namespace ObjectStorage

/-- A storage as `__init__` leaves it, in a program whose lists are `heap`. -/
def init (heap : ListHeap) : ObjectStorage := ⟨∅, ∅, false, heap⟩

/-- The dict of a kind. -/
def tokens (s : ObjectStorage) : TokenKind → Dict PyStr ObjectData
  | .access => s.accessTokens
  | .refresh => s.refreshTokens

/-- Replace the dict of a kind. -/
def setTokens (s : ObjectStorage) (kind : TokenKind) (store : Dict PyStr ObjectData) :
    ObjectStorage :=
  match kind with
  | .access => { s with accessTokens := store }
  | .refresh => { s with refreshTokens := store }

variable (sha256 : List UInt8 → PyStr)

/-! ## The methods -/

/-- `_require_initialized`. -/
def requireInitialized (s : ObjectStorage) : Except StorageError Unit :=
  if s.initialized then .ok () else .error (.notInitialized notInitializedMessage)

/-- The checks every keyed operation starts with. -/
def digestOf (s : ObjectStorage) (token : PyStr) : Except StorageError PyStr := do
  s.requireInitialized
  hashToken sha256 token

/-- `_store_to`: the record refers to `scopes.copy()`. -/
def storeTo (s : ObjectStorage) (kind : TokenKind) (args : ObjectArgs) (now : ℚ) :
    ObjectStorage × Except StorageError ObjectReply :=
  match s.digestOf sha256 args.token with
  | .error e => (s, .error e)
  | .ok digest =>
    let data : ObjectData := { args with scopes := s.heap.fresh, createdAt := some (pyInt now) }
    ({ s.setTokens kind ((s.tokens kind).insert digest data) with
        heap := s.heap.alloc (s.heap.read args.scopes) }, .ok .done)

/-- `_delete_from`. -/
def deleteFrom (s : ObjectStorage) (kind : TokenKind) (token : PyStr) :
    ObjectStorage × Except StorageError ObjectReply :=
  match s.digestOf sha256 token with
  | .error e => (s, .error e)
  | .ok digest => (s.setTokens kind ((s.tokens kind).erase digest), .ok .done)

/-- `_load_from`: `token_data.copy()` is a dict of its own that refers to the same list. -/
def loadFrom (s : ObjectStorage) (kind : TokenKind) (token : PyStr) (now : ℚ) :
    ObjectStorage × Except StorageError ObjectReply :=
  match s.digestOf sha256 token with
  | .error e => (s, .error e)
  | .ok digest =>
    match (s.tokens kind).lookup digest with
    | none => (s, .ok (.loaded none))
    | some data =>
      if data.expiresAt < pyInt now then
        let (s, deleted) := s.deleteFrom sha256 kind token
        (s, deleted.map fun _ => .loaded none)
      else (s, .ok (.loaded (some data)))

/-- `_cleanup_from`. -/
def cleanupFrom (s : ObjectStorage) (kind : TokenKind) (now : ℚ) :
    ObjectStorage × Except StorageError ObjectReply :=
  match s.requireInitialized with
  | .error e => (s, .error e)
  | .ok _ =>
    let expired := (s.tokens kind).filter fun _ data => data.expiresAt < pyInt now
    let kept := (s.tokens kind).filter fun _ data => !decide (data.expiresAt < pyInt now)
    (s.setTokens kind kept, .ok (.number expired.size))

/-- `revoke_client_tokens`. -/
def revokeClientTokens (s : ObjectStorage) (clientId : PyStr) :
    ObjectStorage × Except StorageError ObjectReply :=
  match s.requireInitialized with
  | .error e => (s, .error e)
  | .ok _ =>
    let issued (_ : PyStr) (data : ObjectData) : Bool := data.clientId = clientId
    let others (_ : PyStr) (data : ObjectData) : Bool := !decide (data.clientId = clientId)
    ({ s with
        accessTokens := s.accessTokens.filter others
        refreshTokens := s.refreshTokens.filter others },
      .ok (.number ((s.accessTokens.filter issued).size + (s.refreshTokens.filter issued).size)))

/-- The number of records of a kind. -/
def countOf (s : ObjectStorage) (kind : TokenKind) :
    ObjectStorage × Except StorageError ObjectReply :=
  (s, s.requireInitialized.map fun _ => .number (s.tokens kind).size)

/-- The method of an operation. -/
def perform (s : ObjectStorage) (now : ℚ) :
    ObjectOp → ObjectStorage × Except StorageError ObjectReply
  | .store kind args => s.storeTo sha256 kind args now
  | .load kind token => s.loadFrom sha256 kind token now
  | .delete kind token => s.deleteFrom sha256 kind token
  | .cleanup kind => s.cleanupFrom kind now
  | .revokeClientTokens clientId => s.revokeClientTokens clientId
  | .count kind => s.countOf kind

/-! ## The storage among its callers -/

/-- What happens in the program: its callers create lists and change lists they hold, and they call
the storage. -/
inductive Act where
  | create (items : List PyStr)
  | assign (list : Ref) (items : List PyStr)
  | initializeStorage (time : ℚ)
  | close (time : ℚ)
  | call (time : ℚ) (op : ObjectOp)

/-- One act. A call is observed with the values of its arguments and of its reply. -/
def step (s : ObjectStorage) : Act → ObjectStorage × Option (Call × Result)
  | .create items => ({ s with heap := s.heap.alloc items }, none)
  | .assign list items => ({ s with heap := s.heap.write list items }, none)
  | .initializeStorage time =>
    ({ s with initialized := true }, some (⟨time, .initializeStorage⟩, .ok .done))
  | .close time =>
    ({ s with accessTokens := ∅, refreshTokens := ∅, initialized := false },
      some (⟨time, .close⟩, .ok .done))
  | .call time op =>
    let (s', reply) := s.perform sha256 time op
    (s', some (⟨time, .token (op.value s.heap)⟩, reply.map (·.value s'.heap)))

/-- A stored record refers to the list. -/
def Holds (s : ObjectStorage) (list : Ref) : Prop :=
  ∃ kind digest data, (s.tokens kind).lookup digest = some data ∧ data.scopes = list

instance (s : ObjectStorage) (list : Ref) : Decidable (s.Holds list) :=
  decidable_of_iff
    (∃ kind ∈ [TokenKind.access, .refresh], ∃ e ∈ (s.tokens kind).entries, e.2.scopes = list) <| by
      constructor
      · rintro ⟨kind, -, e, he, hlist⟩
        exact ⟨kind, e.1, e.2, AList.lookup_eq_some_iff_mem.mpr he, hlist⟩
      · rintro ⟨kind, digest, data, hlookup, hlist⟩
        exact ⟨kind, by cases kind <;> simp, ⟨digest, data⟩,
          AList.lookup_eq_some_iff_mem.mp hlookup, hlist⟩

/-- The act changes no list that a stored record refers to. -/
def Harmless (s : ObjectStorage) : Act → Prop
  | .assign list _ => ¬ s.Holds list
  | _ => True

instance (s : ObjectStorage) : ∀ act, Decidable (s.Harmless act)
  | .assign list _ => inferInstanceAs (Decidable (¬ s.Holds list))
  | .create _ | .initializeStorage _ | .close _ | .call _ _ => .isTrue trivial

/-- The storage with the records as values. -/
def view (s : ObjectStorage) : MemoryTokenStorage where
  accessTokens := s.accessTokens.mapValues (ObjectData.value s.heap)
  refreshTokens := s.refreshTokens.mapValues (ObjectData.value s.heap)
  initialized := s.initialized

/-- The lists of stored records are there. -/
def Sound (s : ObjectStorage) : Prop :=
  ∀ kind digest data, (s.tokens kind).lookup digest = some data → s.heap.Allocated data.scopes

/-! ## The records as values -/

variable {sha256} {s : ObjectStorage}

theorem tokens_view (s : ObjectStorage) (kind : TokenKind) :
    s.view.tokens kind = (s.tokens kind).mapValues (ObjectData.value s.heap) := by
  cases kind <;> rfl

theorem view_setTokens (s : ObjectStorage) (kind : TokenKind) (store : Dict PyStr ObjectData) :
    (s.setTokens kind store).view
      = s.view.setTokens kind (store.mapValues (ObjectData.value s.heap)) := by
  cases kind <;> rfl

theorem heap_setTokens (s : ObjectStorage) (kind : TokenKind) (store : Dict PyStr ObjectData) :
    (s.setTokens kind store).heap = s.heap := by
  cases kind <;> rfl

/-- The heap and the dicts are apart. -/
theorem setTokens_heap (s : ObjectStorage) (kind : TokenKind) (store : Dict PyStr ObjectData)
    (heap : ListHeap) :
    ({ s.setTokens kind store with heap := heap } : ObjectStorage)
      = ({ s with heap := heap } : ObjectStorage).setTokens kind store := by
  cases kind <;> rfl

/-- The values stay the same where the lists of the records do. -/
theorem view_congr {heap : ListHeap}
    (h : ∀ kind digest data, (s.tokens kind).lookup digest = some data →
      heap.read data.scopes = s.heap.read data.scopes) :
    ({ s with heap := heap } : ObjectStorage).view = s.view := by
  have hvalue : ∀ kind digest data, (s.tokens kind).lookup digest = some data →
      data.value heap = data.value s.heap := by
    intro kind digest data hlookup
    simp only [ObjectData.value, ObjectArgs.value, h kind digest data hlookup]
  have haccess : s.accessTokens.mapValues (ObjectData.value heap)
      = s.accessTokens.mapValues (ObjectData.value s.heap) := AList.mapValues_congr (hvalue .access)
  have hrefresh : s.refreshTokens.mapValues (ObjectData.value heap)
      = s.refreshTokens.mapValues (ObjectData.value s.heap) :=
    AList.mapValues_congr (hvalue .refresh)
  simp only [view, haccess, hrefresh]

/-- A new list changes no value. -/
theorem view_alloc (hs : s.Sound) (items : List PyStr) :
    ({ s with heap := s.heap.alloc items } : ObjectStorage).view = s.view :=
  view_congr fun kind digest data hlookup => Heap.read_alloc (hs kind digest data hlookup) items

/-- A list that no record refers to can be changed. -/
theorem view_write {list : Ref} (h : ¬ s.Holds list) (items : List PyStr) :
    ({ s with heap := s.heap.write list items } : ObjectStorage).view = s.view := by
  refine view_congr fun kind digest data hlookup => Heap.read_write_ne s.heap ?_ items
  rintro rfl
  exact h ⟨kind, digest, data, hlookup, rfl⟩

theorem digestOf_view (s : ObjectStorage) (token : PyStr) :
    s.view.digestOf sha256 token = s.digestOf sha256 token :=
  rfl

/-- The new record of a `store` on an initialized storage. -/
theorem storeTo_value (hs : s.Sound) (kind : TokenKind) (args : ObjectArgs) (now : ℚ) :
    s.view.tokenStep sha256 now (.store kind (args.value s.heap))
      = ((s.storeTo sha256 kind args now).1.view,
          (s.storeTo sha256 kind args now).2.map
            (·.value (s.storeTo sha256 kind args now).1.heap)) := by
  rw [MemoryTokenStorage.tokenStep_store_eq, MemoryTokenStorage.storeTo, storeTo]
  show MemoryTokenStorage.replying _ (match s.digestOf sha256 args.token with
    | .error e => _
    | .ok digest => _) = _
  cases hd : s.digestOf sha256 args.token with
  | error e => rfl
  | ok digest =>
    set items := s.heap.read args.scopes with hitems
    set data : ObjectData :=
      { args with scopes := s.heap.fresh, createdAt := some (pyInt now) } with hdata
    -- first the copy is made, which changes no record, then the dict is written
    have hvalue : data.value (s.heap.alloc items)
        = { args.value s.heap with createdAt := some (pyInt now) } := by
      simp only [hdata, ObjectData.value, ObjectArgs.value, Heap.read_alloc_fresh, hitems]
    have htokens : (s.tokens kind).mapValues (ObjectData.value (s.heap.alloc items))
        = s.view.tokens kind := by
      rw [← view_alloc hs items, tokens_view]
      cases kind <;> rfl
    simp only [MemoryTokenStorage.replying, setTokens_heap, view_setTokens, AList.mapValues_insert,
      hvalue, htokens, view_alloc hs items]
    rfl

theorem deleteFrom_value (s : ObjectStorage) (kind : TokenKind) (token : PyStr) :
    s.view.deleteFrom sha256 kind token
      = ((s.deleteFrom sha256 kind token).1.view,
          (s.deleteFrom sha256 kind token).2.map fun _ => ()) := by
  rw [MemoryTokenStorage.deleteFrom, deleteFrom, digestOf_view]
  cases s.digestOf sha256 token with
  | error e => rfl
  | ok digest =>
    simp only [view_setTokens, AList.mapValues_erase, tokens_view]
    rfl

theorem loadFrom_value (s : ObjectStorage) (kind : TokenKind) (token : PyStr) (now : ℚ) :
    s.view.tokenStep sha256 now (.load kind token)
      = ((s.loadFrom sha256 kind token now).1.view,
          (s.loadFrom sha256 kind token now).2.map
            (·.value (s.loadFrom sha256 kind token now).1.heap)) := by
  rw [MemoryTokenStorage.tokenStep_load_eq, MemoryTokenStorage.loadFrom, loadFrom, digestOf_view]
  cases s.digestOf sha256 token with
  | error e => rfl
  | ok digest =>
    simp only [tokens_view, AList.lookup_mapValues]
    cases (s.tokens kind).lookup digest with
    | none => rfl
    | some data =>
      have hexpires : (data.value s.heap).expiresAt = data.expiresAt := rfl
      simp only [Option.map_some, hexpires, deleteFrom_value]
      split_ifs
      · cases (s.deleteFrom sha256 kind token).2 <;> rfl
      · rfl

theorem cleanupFrom_value (s : ObjectStorage) (kind : TokenKind) (now : ℚ) :
    s.view.tokenStep sha256 now (.cleanup kind)
      = ((s.cleanupFrom kind now).1.view,
          (s.cleanupFrom kind now).2.map (·.value (s.cleanupFrom kind now).1.heap)) := by
  rw [MemoryTokenStorage.tokenStep_cleanup_eq, MemoryTokenStorage.cleanupFrom, cleanupFrom]
  show MemoryTokenStorage.replying _ (match s.requireInitialized with
    | .error e => _
    | .ok _ => _) = _
  cases s.requireInitialized with
  | error e => rfl
  | ok _ =>
    simp only [view_setTokens, tokens_view, AList.filter_mapValues, MemoryTokenStorage.replying]
    rw [AList.size_mapValues]
    rfl

theorem revokeClientTokens_value (s : ObjectStorage) (clientId : PyStr) (now : ℚ) :
    s.view.tokenStep sha256 now (.revokeClientTokens clientId)
      = ((s.revokeClientTokens clientId).1.view,
          (s.revokeClientTokens clientId).2.map
            (·.value (s.revokeClientTokens clientId).1.heap)) := by
  have hreq : s.view.requireInitialized = s.requireInitialized := rfl
  rw [MemoryTokenStorage.tokenStep, MemoryTokenStorage.revokeClientTokens, revokeClientTokens, hreq]
  cases s.requireInitialized with
  | error e => rfl
  | ok _ =>
    simp only [view, AList.filter_mapValues, AList.size_mapValues, MemoryTokenStorage.replying]
    rfl

/-- **A method on objects is the method on values.** -/
theorem perform_value (hs : s.Sound) (now : ℚ) (op : ObjectOp) :
    s.view.tokenStep sha256 now (op.value s.heap)
      = ((s.perform sha256 now op).1.view,
          (s.perform sha256 now op).2.map (·.value (s.perform sha256 now op).1.heap)) := by
  cases op with
  | store kind args => exact storeTo_value hs kind args now
  | load kind token => exact loadFrom_value s kind token now
  | delete kind token =>
    rw [ObjectOp.value, MemoryTokenStorage.tokenStep_delete_eq, deleteFrom_value, perform,
      deleteFrom]
    cases s.digestOf sha256 token <;> rfl
  | cleanup kind => exact cleanupFrom_value s kind now
  | revokeClientTokens clientId => exact revokeClientTokens_value s clientId now
  | count kind =>
    rw [ObjectOp.value, MemoryTokenStorage.tokenStep_count_eq, MemoryTokenStorage.countOf, perform,
      countOf, tokens_view, AList.size_mapValues]
    show MemoryTokenStorage.replying _ (s.view, s.requireInitialized.map _) = _
    cases s.requireInitialized <;> rfl

/-! ## Along a run -/

/-- More lists, or other contents, leave the lists of the records allocated. -/
theorem Sound.withHeap (hs : s.Sound) {heap : ListHeap}
    (h : ∀ list, s.heap.Allocated list → heap.Allocated list) :
    ({ s with heap := heap } : ObjectStorage).Sound :=
  fun kind digest data hlookup => h _ (hs kind digest data hlookup)

/-- A dict whose records have allocated lists. -/
theorem Sound.setTokens (hs : s.Sound) {kind : TokenKind} {store : Dict PyStr ObjectData}
    (h : ∀ digest data, store.lookup digest = some data → s.heap.Allocated data.scopes) :
    (s.setTokens kind store).Sound := by
  intro kind' digest data hlookup
  rw [heap_setTokens]
  by_cases hkind : kind' = kind
  · subst hkind
    refine h digest data ?_
    cases kind' <;> exact hlookup
  · refine hs kind' digest data ?_
    cases kind <;> cases kind' <;> first | exact hlookup | exact absurd rfl hkind

theorem Sound.deleteFrom (hs : s.Sound) (kind : TokenKind) (token : PyStr) :
    (s.deleteFrom sha256 kind token).1.Sound := by
  unfold ObjectStorage.deleteFrom
  split
  · exact hs
  · exact hs.setTokens (AList.forall_lookup_erase (hs kind) _)

/-- A method keeps the lists of the records allocated: the one that a store makes is new. -/
theorem Sound.perform (hs : s.Sound) (now : ℚ) (op : ObjectOp) :
    (s.perform sha256 now op).1.Sound := by
  -- records that are left over have the lists they had
  have hfilter : ∀ kind (p : PyStr → ObjectData → Bool) digest data,
      ((s.tokens kind).filter p).lookup digest = some data → s.heap.Allocated data.scopes := by
    intro kind p digest data hlookup
    rw [AList.lookup_filter, Option.filter_eq_some_iff] at hlookup
    exact hs kind digest data hlookup.1
  cases op with
  | store kind args =>
    rw [ObjectStorage.perform, storeTo]
    split
    · exact hs
    · simp only [setTokens_heap]
      have hmore := hs.withHeap fun list h =>
        Heap.Allocated.alloc h (s.heap.read args.scopes)
      refine hmore.setTokens (AList.forall_lookup_insert ?_ ?_)
      · exact hmore kind
      · exact Heap.allocated_fresh s.heap _
  | load kind token =>
    rw [ObjectStorage.perform, loadFrom]
    split
    · exact hs
    · split
      · exact hs
      · split
        · exact hs.deleteFrom kind token
        · exact hs
  | delete kind token => exact hs.deleteFrom kind token
  | cleanup kind =>
    rw [ObjectStorage.perform, cleanupFrom]
    split
    · exact hs
    · exact hs.setTokens (hfilter kind _)
  | revokeClientTokens clientId =>
    rw [ObjectStorage.perform, ObjectStorage.revokeClientTokens]
    split
    · exact hs
    · intro kind digest data hlookup
      have hkept := hfilter kind (fun _ data => !decide (data.clientId = clientId)) digest data
      cases kind <;> exact hkept hlookup
  | count kind => exact hs

theorem Sound.step (hs : s.Sound) (act : Act) : (s.step sha256 act).1.Sound := by
  cases act with
  | create items => exact hs.withHeap fun list h => h.alloc items
  | assign list items => exact hs.withHeap fun list' h => h.write list items
  | initializeStorage time => exact hs
  | close time =>
    intro kind digest data hlookup
    cases kind <;> cases hlookup
  | call time op => exact hs.perform time op

/-- The calls that can be observed of an act: one or none. -/
def observed (e : Act × Option (Call × Result)) : List (Call × Result) := e.2.toList

/-- **One act**: a call is the call on values, and any other harmless act changes no value. -/
theorem step_value (hs : s.Sound) {act : Act} (hact : s.Harmless act) :
    let calls := observed (act, (s.step sha256 act).2)
    Machine.trace (MemoryTokenStorage.step sha256) s.view (calls.map Prod.fst) = calls ∧
      Machine.final (MemoryTokenStorage.step sha256) s.view (calls.map Prod.fst)
        = (s.step sha256 act).1.view := by
  cases act with
  | create items => exact ⟨rfl, (view_alloc hs items).symm⟩
  | assign list items => exact ⟨rfl, (view_write hact items).symm⟩
  | initializeStorage time => exact ⟨rfl, rfl⟩
  | close time => exact ⟨rfl, rfl⟩
  | call time op =>
    have hcall : s.view.step sha256 ⟨time, .token (op.value s.heap)⟩ = _ :=
      perform_value hs time op
    constructor
    · show [(_, (s.view.step sha256 ⟨time, .token (op.value s.heap)⟩).2)] = _
      rw [hcall]
      rfl
    · show (s.view.step sha256 ⟨time, .token (op.value s.heap)⟩).1 = _
      rw [hcall]
      rfl

/-- **A storage of values suffices** to say what the calls return, in every run in which no caller
changes the list of a record that is stored. -/
theorem values_suffice (sha256 : List UInt8 → PyStr) (heap : ListHeap) (acts : List Act)
    (h : Machine.AllSteps (step sha256) (fun s _ act => s.Harmless act) (init heap) acts) :
    let calls := (Machine.trace (step sha256) (init heap) acts).flatMap observed
    Machine.trace (MemoryTokenStorage.step sha256) MemoryTokenStorage.init (calls.map Prod.fst)
        = calls ∧
      Machine.final (MemoryTokenStorage.step sha256) MemoryTokenStorage.init
          (calls.map Prod.fst)
        = (Machine.final (step sha256) (init heap) acts).view := by
  have hinit : (init heap).Sound := by
    intro kind digest data hlookup
    cases kind <;> cases hlookup
  exact Machine.trace_flatMap_exchange_of_allSteps (step sha256) (fun s act hs => hs.step act)
    (fun s act hs hact => step_value hs hact) hinit h

/-- A caller stores a token, changes its own list, loads the token and loads it again. -/
def sampleActs : List Act :=
  let token := PyStr.ofString "a"
  [.create [PyStr.ofString "read"], .initializeStorage 0,
    .call 1 (.store .access ⟨token, PyStr.ofString "client", 0, 10, none, none⟩),
    .assign 0 [PyStr.ofString "admin"], .call 2 (.load .access token),
    .call 3 (.load .access token)]

/-- The caller's own list is its own: the loads return what was stored. -/
theorem values_suffice_sampleActs :
    let calls := (Machine.trace (step sampleSha256) (init []) sampleActs).flatMap observed
    Machine.AllSteps (step sampleSha256) (fun s _ act => s.Harmless act) (init []) sampleActs ∧
      Machine.trace (MemoryTokenStorage.step sampleSha256) MemoryTokenStorage.init
          (calls.map Prod.fst) = calls := by
  have hharmless : Machine.AllSteps (step sampleSha256) (fun s _ act => s.Harmless act) (init [])
      sampleActs := by
    decide +kernel
  exact ⟨hharmless, (values_suffice sampleSha256 [] sampleActs hharmless).1⟩

/-! ## The list that is shared -/

/-- A load that returns a record found it at the token's digest. -/
theorem of_loaded {kind : TokenKind} {token : PyStr} {time : ℚ} {data : ObjectData}
    (h : (s.loadFrom sha256 kind token time).2 = .ok (.loaded (some data))) :
    ∃ digest, s.digestOf sha256 token = .ok digest ∧ (s.tokens kind).lookup digest = some data := by
  unfold loadFrom at h
  cases hd : s.digestOf sha256 token with
  | error e => simp [hd] at h
  | ok digest =>
    refine ⟨digest, rfl, ?_⟩
    simp only [hd] at h
    cases hlookup : (s.tokens kind).lookup digest with
    | none => simp [hlookup] at h
    | some data' =>
      simp only [hlookup] at h
      split_ifs at h
      · -- an expired record is not returned
        cases hdeleted : (s.deleteFrom sha256 kind token).2 <;> simp [hdeleted, Except.map] at h
      · simpa using h

/-- **A caller can change what is stored**, through the list of a record that it loaded: whatever it
writes there, the next load of the token returns. -/
theorem loaded_scopes_writable (hs : s.Sound) {kind : TokenKind} {token : PyStr} {time time' : ℚ}
    {data : ObjectData}
    (hload : (s.loadFrom sha256 kind token time).2 = .ok (.loaded (some data)))
    (hlive : ¬ data.expiresAt < pyInt time') (items : List PyStr) :
    let s' := (s.step sha256 (.assign data.scopes items)).1
    (s'.step sha256 (.call time' (.load kind token))).2
      = some (⟨time', .token (.load kind token)⟩,
          .ok (.loaded (some { data.value s.heap with scopes := items }))) := by
  obtain ⟨digest, hd, hlookup⟩ := of_loaded hload
  have hwritten := Heap.read_write_self (hs kind digest data hlookup) items
  have hd' : ({ s with heap := s.heap.write data.scopes items } : ObjectStorage).digestOf sha256
      token = .ok digest := hd
  have hlookup' : (({ s with heap := s.heap.write data.scopes items } : ObjectStorage).tokens
      kind).lookup digest = some data := by
    cases kind <;> exact hlookup
  simp only [step, perform, loadFrom, hd', hlookup', if_neg hlive, ObjectOp.value, Except.map,
    ObjectReply.value, Option.map_some, ObjectData.value, ObjectArgs.value, hwritten]

end ObjectStorage

end McpAuthflow.Storage
