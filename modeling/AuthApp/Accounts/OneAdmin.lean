import AuthApp.Accounts.Callback
import AuthApp.Accounts.Complete
import AuthApp.Interleave.Trail

/-!
# Accounts — one identity, one administrator

Callbacks that resolve to one external identity, in any interleaving, with storage that fails or
not.  A call that found the identity unlinked answers the account its own lookup named, also where
another call has linked the identity in between.

* `linked_exec`: a link is never changed.
* `linked_of_resolved`: a callback that found a link, or made one in time, answers the stored one.
* `one_admin`: when every link step is in time, the callbacks of an identity answer one
  administrator, the stored one.
* `racing_callbacks`: two first sign-ins that answer two administrators.
-/

namespace AuthApp.Accounts
open Interleave Pool

variable {ι : Type}

structure CallbackRequest where
  state : String
  code : String
  deriving DecidableEq, Repr

/-- A pool of callbacks. -/
abbrev CallbackPool (ι : Type) :=
  Pool authSig (AuthDb ι) CallbackRequest (Except OAuthError OAuthAuthenticatedAdmin)

/-- Callbacks, each call of which may fail, under a clock that moves at will. -/
def callbackSystem (P : AuthPorts ι) : System authSig (AuthDb ι) CallbackRequest
    (Except OAuthError OAuthAuthenticatedAdmin) Fate AuthEnv where
  code request := OAuthLoginService.complete P.providers request.state request.code
  exec := AuthDb.exec P
  env := AuthEnv.act

/-- The call `i` signed the identity in, as `id`. -/
def SignedIn (p : CallbackPool ι) (i : Nat) (identity : OAuthIdentity) (id : AdminId) : Prop :=
  (∃ request out, p.Returned i request (.ok out) ∧ out.id = id) ∧
    ∃ provider request,
      (⟨.exchangeCode provider request, .ok identity⟩ : Reply authSig) ∈ pastOf i p.log

/-- Two callbacks that sign in the same provider and subject answer one administrator, and it is
the one that is stored for them. -/
def OneAdmin (p : CallbackPool ι) : Prop :=
  ∀ i j a b x y, SignedIn p i a x → SignedIn p j b y → a.provider = b.provider →
    a.subject = b.subject → x = y ∧ p.store.linked a.provider a.subject = some x

/-- A link step finds its pair unlinked, or linked to the administrator it is about to link. -/
def LinksInTime (q : CallbackPool ι) : Act CallbackRequest Fate AuthEnv → Prop
  | .step i _ =>
      match q.calls[i]? with
      | some ⟨_, .call (.link provider subject _ id) _⟩ =>
          q.store.linked provider subject = none ∨ q.store.linked provider subject = some id
      | _ => True
  | _ => True

instance (q : CallbackPool ι) (a : Act CallbackRequest Fate AuthEnv) :
    Decidable (LinksInTime q a) := by
  cases a with
  | step i c =>
      unfold LinksInTime
      dsimp only
      split <;> infer_instance
  | _ => exact .isTrue trivial

/-! ### Links stay -/

/-- A call that is no link leaves the links alone. -/
theorem AuthDb.serve_identities (P : AuthPorts ι) {op : AuthOp}
    (h : ∀ provider subject email id, op ≠ .link provider subject email id) (db : AuthDb ι) :
    (AuthDb.serve P op db).2.identities = db.identities := by
  cases op with
  | link provider subject email id => exact absurd rfl (h provider subject email id)
  | consume state => rw [serve, consume_snd]
  | _ => rfl

theorem AuthDb.linked_serve (P : AuthPorts ι) (op : AuthOp) {db : AuthDb ι} {p : ProviderId}
    {s : String} {id : AdminId} (h : db.linked p s = some id) :
    (AuthDb.serve P op db).2.linked p s = some id := by
  by_cases hop : ∃ provider subject email adminId, op = .link provider subject email adminId
  · obtain ⟨provider, subject, email, adminId, rfl⟩ := hop
    rw [serve]
    generalize hr : db.link provider subject email adminId = r
    obtain ⟨e | ⟨⟩, db'⟩ := r
    · -- a link that is refused changes nothing
      rw [link] at hr
      split at hr
      · cases hr
        exact h
      · cases hr
    · dsimp only
      rw [linked_link hr]
      split
      · next heq =>
          obtain ⟨hp, hs⟩ := Prod.mk.inj heq
          have hlinked : db.linked provider subject = db.linked p s := by rw [linked, linked, heq]
          rw [hlinked, h]
          rfl
      · exact h
  · rw [linked, serve_identities P (fun a b c d e => hop ⟨a, b, c, d, e⟩)]
    exact h

/-- A link is never changed. -/
theorem linked_exec (P : AuthPorts ι) (fate : Fate) (op : AuthOp) {db : AuthDb ι} {p : ProviderId}
    {s : String} {id : AdminId} (h : db.linked p s = some id) :
    (AuthDb.exec P fate op db).2.linked p s = some id := by
  rcases Fate.under_state (S := authSig) AuthOp.fault (AuthDb.serve P) fate op db with hs | hs
  · rw [AuthDb.exec, hs]
    exact h
  · rw [AuthDb.exec, hs]
    exact AuthDb.linked_serve P op h

/-! ### What an answer says of the links -/

/-- A lookup that is answered was served. -/
theorem findAdmin_exec {P : AuthPorts ι} {fate : Fate} {db db' : AuthDb ι} {provider : ProviderId}
    {subject : String} {found : Option AdminId}
    (h : AuthDb.exec P fate (.findAdmin provider subject) db = (.ok found, db')) :
    db.linked provider subject = found ∧ db' = db := by
  cases fate <;> cases h
  exact ⟨rfl, rfl⟩

theorem link_exec {P : AuthPorts ι} {fate : Fate} {db db' : AuthDb ι} {provider : ProviderId}
    {subject email : String} {id : AdminId}
    (h : AuthDb.exec P fate (.link provider subject email id) db = (.ok (), db')) :
    db.link provider subject email id = (.ok (), db') := by
  cases fate with
  | served => exact h
  | refused msg => cases h
  | unacknowledged msg => cases h

section Runs
variable {P : AuthPorts ι} {db : AuthDb ι} {p : CallbackPool ι}

/-- What a step of a run left linked is still linked. -/
theorem linked_after {ok : CallbackPool ι → Act CallbackRequest Fate AuthEnv → Prop}
    (h : (callbackSystem P).Run ok (.init db) p) {n : Nat} {e : Event authSig (AuthDb ι)}
    (hn : p.log[n]? = some e) {provider : ProviderId} {subject : String} {id : AdminId}
    (hl : e.post.linked provider subject = some id) :
    p.store.linked provider subject = some id :=
  (h.trail.after hn).inv_exec (I := fun s => s.linked provider subject = some id)
    (fun _ _ hs => hs) (fun c op _ hs => linked_exec P c op hs) hl

/-- A callback that found a link, or linked in time, has the stored administrator. -/
theorem linked_of_resolved (h : (callbackSystem P).Run LinksInTime (.init db) p) {i : Nat}
    {identity : OAuthIdentity} {id : AdminId} (hr : Resolved identity (pastOf i p.log) id) :
    p.store.linked identity.provider identity.subject = some id := by
  rw [← List.take_length (l := p.log)] at hr
  rcases hr with hr | hr
  · obtain ⟨n, -, c, pre, post, hn, hx⟩ := h.reply_exec hr
    obtain ⟨hfound, rfl⟩ := findAdmin_exec hx
    exact linked_after h hn hfound
  · obtain ⟨n, -, c, pre, post, hn, hx⟩ := h.reply_exec hr
    obtain ⟨q, c', request, k, -, hok, -, hstore, hcall⟩ := h.before_event hn
    simp only [LinksInTime, hcall] at hok
    rw [hstore] at hok
    refine linked_after h hn ?_
    change post.linked _ _ = _
    rw [AuthDb.linked_link (link_exec hx), if_pos rfl]
    rcases hok with hnone | hsome
    · exact congrArg (fun l : Option AdminId => some (l.getD id)) hnone
    · exact congrArg (fun l : Option AdminId => some (l.getD id)) hsome

theorem linked_of_signedIn (h : (callbackSystem P).Run LinksInTime (.init db) p) {i : Nat}
    {identity : OAuthIdentity} {id : AdminId} (hs : SignedIn p i identity id) :
    p.store.linked identity.provider identity.subject = some id := by
  obtain ⟨⟨request, out, hret, rfl⟩, provider, exchange, hmem⟩ := hs
  have htrace := h.point
    (P := fun request past q => CompleteTrace P.providers request.state request.code past q.head)
    (fun request => complete_trace P.providers request.state request.code) hret
  obtain ⟨resolved, hresolved, hone⟩ := CompleteTrace.signed_in htrace
  obtain rfl := hone provider exchange identity hmem
  exact linked_of_resolved h hresolved

/-- **One identity, one administrator.** When every link step finds its pair unlinked, or linked to
the administrator it names, the callbacks that sign an identity in answer the stored
administrator, and so one. -/
theorem one_admin (h : (callbackSystem P).Run LinksInTime (.init db) p) : OneAdmin p := by
  intro i j a b x y ha hb hprovider hsubject
  have hx := linked_of_signedIn h ha
  have hy := linked_of_signedIn h hb
  rw [← hprovider, ← hsubject, hx] at hy
  exact ⟨Option.some.inj hy, hx⟩

end Runs

/-! ### Two first sign-ins -/

/-- The provider answers one subject, whose address has changed between the two codes. -/
def movedPorts : AuthPorts Unit where
  hasher := plainHasher
  providers := ⟨fun _ => true, fun provider request s =>
    (.ok ⟨provider, "1", if request.code = "c1" then "ed@example.com" else "root@example.com"⟩, s)⟩

/-- Two administrators, no link, and two flows that were begun. -/
def movedDb : AuthDb Unit where
  admins := editorDb.admins
  ipLockouts := .empty
  pending := ⟨[⟨"s1", google.name, "n1", "v1", "https://admin.example.com", 0⟩,
    ⟨"s2", google.name, "n2", "v2", "https://admin.example.com", 0⟩], by decide⟩
  identities := .empty
  providers := ()
  clock := 0

def callbackActs (order : List Nat) : List (Act CallbackRequest Fate AuthEnv) :=
  .start ⟨"s1", "c1"⟩ :: .start ⟨"s2", "c2"⟩ :: order.map fun i => .step i .served

/-- Both look the identity up before either links it. -/
def racingOrder : List Nat := [0, 0, 0, 0, 0, 1, 1, 1, 1, 1, 0, 1, 0, 1]

/-- One after the other. -/
def calmOrder : List Nat := [0, 0, 0, 0, 0, 0, 0, 1, 1, 1, 1, 1]

def racingPool : CallbackPool Unit :=
  ((callbackSystem movedPorts).acts (callbackActs racingOrder) (.init movedDb)).get rfl

def calmPool : CallbackPool Unit :=
  ((callbackSystem movedPorts).guardedActs LinksInTime (callbackActs calmOrder) (.init movedDb)).get
    rfl

/-- One after the other, the second finds the link of the first. -/
theorem calm_callbacks :
    calmPool.Returned 0 ⟨"s1", "c1"⟩ (.ok ⟨editorRow.id, editorRole⟩) ∧
      calmPool.Returned 1 ⟨"s2", "c2"⟩ (.ok ⟨editorRow.id, adminRole⟩) ∧ OneAdmin calmPool :=
  ⟨rfl, rfl, one_admin (.of_guardedActs .refl (Option.some_get rfl).symm)⟩

/-- Two first sign-ins of one identity at once answer two administrators, and one is stored. -/
theorem racing_callbacks :
    ∃ p, (callbackSystem movedPorts).Run (fun _ _ => True) (.init movedDb) p ∧
      SignedIn p 0 ⟨google, "1", "ed@example.com"⟩ editorRow.id ∧
      SignedIn p 1 ⟨google, "1", "root@example.com"⟩ adminRow.id ∧
      p.store.linked google "1" = some editorRow.id ∧ ¬ OneAdmin p := by
  have hfirst : SignedIn racingPool 0 ⟨google, "1", "ed@example.com"⟩ editorRow.id := by
    refine ⟨⟨⟨"s1", "c1"⟩, ⟨editorRow.id, editorRole⟩, rfl, rfl⟩, google,
      ⟨"c1", "v1", "https://admin.example.com", "n1"⟩, ?_⟩
    exact List.mem_of_getElem? (i := 2) rfl
  have hsecond : SignedIn racingPool 1 ⟨google, "1", "root@example.com"⟩ adminRow.id := by
    refine ⟨⟨⟨"s2", "c2"⟩, ⟨adminRow.id, adminRole⟩, rfl, rfl⟩, google,
      ⟨"c2", "v2", "https://admin.example.com", "n2"⟩, ?_⟩
    exact List.mem_of_getElem? (i := 2) rfl
  have hrun : (callbackSystem movedPorts).Run (fun _ _ => True) (.init movedDb) racingPool :=
    .of_acts .refl (fun _ _ _ => trivial) (Option.some_get rfl).symm
  refine ⟨racingPool, hrun, hfirst, hsecond, rfl, fun hone => ?_⟩
  have heq : editorRow.id = adminRow.id := (hone 0 1 _ _ _ _ hfirst hsecond rfl rfl).1
  exact absurd heq (by decide)

end AuthApp.Accounts
