import McpAuthflow.Foundations.Machine
import Mathlib.Data.List.ReduceOption

/-! # Caches between a server and its clients

An HTTP cache keeps responses with the requests they answered. It may answer a later request from
an entry if the two requests agree on the headers that the `Vary` header of the response names;
what it keeps, reuses and evicts is its own affair. **`delivered_eq_serve`**: in front of a server
whose responses depend on those headers only, no cache can be told from the server. -/

namespace VaryCache

variable {ρ κ ν π : Type*}

/-- A server, as caches see it: the headers of a request, the headers that a response names, and
the response to a request. -/
structure Server (ρ κ ν π : Type*) where
  header : ρ → κ → Option ν
  vary : π → List κ
  serve : ρ → π

/-- A response and the request it answered. -/
abbrev Entry (ρ π : Type*) := ρ × π

variable (server : Server ρ κ ν π)

/-- The requests agree on the headers that the response names. -/
def Server.Agree (response : π) (r r' : ρ) : Prop :=
  ∀ name ∈ server.vary response, server.header r name = server.header r' name

instance [DecidableEq ν] (response : π) (r r' : ρ) : Decidable (server.Agree response r r') :=
  List.decidableBAll _ _

/-- **The response names the headers it depends on.** -/
def Server.NamesHeaders : Prop :=
  ∀ r r', server.Agree (server.serve r) r r' → server.serve r' = server.serve r

/-- What the cache does next: it forwards a request, and may keep the response; it answers a request
from an entry; or it drops an entry. -/
inductive Act (ρ : Type*) where
  | forward (r : ρ) (keep : Bool)
  | reuse (n : ℕ) (r : ρ)
  | evict (n : ℕ)

/-- One act: the entries after it and the response that is delivered, with its request. An entry
that does not fit is not used. -/
def step [DecidableEq ν] (cache : List (Entry ρ π)) : Act ρ → List (Entry ρ π) × Option (Entry ρ π)
  | .forward r keep =>
    (if keep then (r, server.serve r) :: cache else cache, some (r, server.serve r))
  | .reuse n r =>
    match cache[n]? with
    | none => (cache, none)
    | some (r', response) =>
      (cache, if server.Agree response r' r then some (r, response) else none)
  | .evict n => (cache.eraseIdx n, none)

/-- The responses delivered along a run that starts with an empty cache. -/
def delivered [DecidableEq ν] (acts : List (Act ρ)) : List (Entry ρ π) :=
  (Machine.outputs (step server) [] acts).reduceOption

variable {server}

/-- The entries hold what the server would answer. -/
def Server.Holds (server : Server ρ κ ν π) (cache : List (Entry ρ π)) : Prop :=
  ∀ e ∈ cache, e.2 = server.serve e.1

/-- **One act** keeps the entries right, and delivers what the server would answer. -/
theorem holds_step [DecidableEq ν] (h : server.NamesHeaders) {cache : List (Entry ρ π)}
    (hcache : server.Holds cache) (act : Act ρ) :
    server.Holds (step server cache act).1 ∧
      ∀ e ∈ (step server cache act).2, e.2 = server.serve e.1 := by
  cases act with
  | forward r keep =>
    constructor
    · cases keep with
      | true => exact List.forall_mem_cons.mpr ⟨rfl, hcache⟩
      | false => exact hcache
    · rintro e ⟨⟩
      rfl
  | reuse n r =>
    rw [step]
    cases hentry : cache[n]? with
    | none => exact ⟨hcache, by simp⟩
    | some entry =>
      obtain ⟨r', response⟩ := entry
      refine ⟨hcache, ?_⟩
      have hright : response = server.serve r' := hcache _ (List.mem_of_getElem? hentry)
      intro e he
      simp only [Option.mem_def] at he
      split_ifs at he with hagree
      obtain rfl := Option.some.inj he
      rw [hright] at hagree ⊢
      exact (h r' r hagree).symm
  | evict n => exact ⟨fun e he => hcache e (List.mem_of_mem_eraseIdx he), by simp [step]⟩

/-- **A cache cannot be told from the server.** -/
theorem delivered_eq_serve [DecidableEq ν] (h : server.NamesHeaders) (acts : List (Act ρ)) :
    ∀ e ∈ delivered server acts, e.2 = server.serve e.1 := by
  have hrun : ∀ cache, server.Holds cache →
      ∀ e ∈ (Machine.outputs (step server) cache acts).reduceOption, e.2 = server.serve e.1 := by
    induction acts with
    | nil => simp
    | cons act acts ih =>
      intro cache hcache e he
      obtain ⟨hnext, hout⟩ := holds_step h hcache act
      rw [Machine.outputs_cons] at he
      cases hdelivered : (step server cache act).2 with
      | none =>
        rw [hdelivered, List.reduceOption_cons_of_none] at he
        exact ih _ hnext e he
      | some entry =>
        rw [hdelivered, List.reduceOption_cons_of_some] at he
        rcases List.mem_cons.mp he with rfl | he
        · exact hout e hdelivered
        · exact ih _ hnext e he
  exact hrun [] (by simp [Server.Holds])

end VaryCache
