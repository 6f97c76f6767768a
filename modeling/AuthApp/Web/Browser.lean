import AuthApp.Http.Api
import AuthApp.Sessions.Tokens
import AuthApp.Text.Separated
import Mathlib.Data.List.Find

/-!
# Web — cookies

What a browser keeps of the cookies that the server sets, what it sends back, and what a script can
read of it: the CSRF token, which the UI mirrors into a header.

* `csrfHeader_documentCookie`: the header carries the readable `csrf` cookie, whatever cookies stand
  beside it.
* `Holds.attach` and `Holds.clear`: the two cookies of a session come and go together.
* `Holds.sent` and `Holds.mirrored`: so do the token that is sent and the header.
-/

namespace AuthApp.Web
open Http Sessions Separated

/-! ### The jar -/

/-- The second from which on a cookie is kept no longer. -/
def deadline (cookie : Cookie) : Int := fromEpoch (cookie.expires / nanosPerSec)

/-- A cookie takes the place of the one with its name. -/
def put (cookie : Cookie) : List Cookie → List Cookie
  | [] => [cookie]
  | c :: jar => if c.name = cookie.name then cookie :: jar else c :: put cookie jar

/-- `Set-Cookie`: a cookie whose time is over removes the one with its name. -/
def setCookie (now : ℕ) (jar : List Cookie) (cookie : Cookie) : List Cookie :=
  if deadline cookie ≤ now then jar.filter (·.name ≠ cookie.name) else put cookie jar

/-- The cookies of a response, one after another. -/
def receive (now : ℕ) (jar cookies : List Cookie) : List Cookie :=
  cookies.foldl (setCookie now) jar

/-- The cookies that are kept still. -/
def unexpired (now : ℕ) (jar : List Cookie) : List Cookie :=
  jar.filter fun cookie => now < deadline cookie

/-- The value that a request carries under a name. -/
def sentCookie (now : ℕ) (jar : List Cookie) (name : String) : Option String :=
  ((unexpired now jar).find? (·.name = name)).map Cookie.value

/-- `document.cookie`: the cookies that are not `HttpOnly`. -/
def documentCookie (now : ℕ) (jar : List Cookie) : List Char :=
  "; ".toList.intercalate (((unexpired now jar).filter fun cookie => !cookie.httpOnly).map
    fun cookie => cookie.name.toList ++ '=' :: cookie.value.toList)

/-! ### The header -/

/-- The `X-CSRF-Token` header, from what a script reads. -/
def csrfHeader (documentCookie : List Char) : Option String :=
  match (cut "; ".toList documentCookie).find? ("csrf=".toList.isPrefixOf ·) with
  | none => none
  | some row =>
      let token := row.drop "csrf=".length
      if token.isEmpty then none else some (.ofList token)

/-- A cookie that can be told from what stands beside it: a `;` would end it, and a `=` its
name. -/
structure Legible (cookie : Cookie) : Prop where
  mark : '=' ∉ cookie.name.toList
  name : ';' ∉ cookie.name.toList
  value : ';' ∉ cookie.value.toList

def row (cookie : Cookie) : List Char := cookie.name.toList ++ '=' :: cookie.value.toList

theorem Legible.row {cookie : Cookie} (h : Legible cookie) : ';' ∉ row cookie := by
  simp [Web.row, h.name, h.value]

/-- A script finds a cookie by its name. -/
theorem find?_rows {jar : List Cookie} (h : ∀ cookie ∈ jar, Legible cookie) :
    (cut "; ".toList ("; ".toList.intercalate (jar.map row))).find? ("csrf=".toList.isPrefixOf ·) =
      (jar.find? (·.name = csrfCookieName)).map row := by
  cases hjar : jar with
  | nil => rfl
  | cons first rest =>
      have hcut : cut "; ".toList ("; ".toList.intercalate (jar.map row)) = jar.map row := by
        refine cut_intercalate (by simp [hjar]) fun field hfield => ?_
        obtain ⟨cookie, hcookie, rfl⟩ := List.mem_map.mp hfield
        exact (h cookie hcookie).row
      rw [← hjar, hcut, List.find?_map]
      refine congrArg (Option.map row) (List.find?_congr fun cookie hcookie => ?_)
      have hprefix : csrfCookieName.toList ++ ['='] <+: row cookie ↔
          csrfCookieName.toList = cookie.name.toList :=
        append_mark_prefix_iff (by decide) (h cookie hcookie).mark
      rw [Function.comp, Bool.eq_iff_iff, List.isPrefixOf_iff_prefix, decide_eq_true_eq]
      refine hprefix.trans ?_
      rw [eq_comm, String.toList_inj]

/-- The header carries the readable cookie of its name, whatever stands beside it. -/
theorem csrfHeader_documentCookie {now : ℕ} {jar : List Cookie}
    (h : ∀ cookie ∈ jar, Legible cookie) :
    csrfHeader (documentCookie now jar) =
      (((unexpired now jar).filter fun cookie => !cookie.httpOnly).find?
        (·.name = csrfCookieName)).bind
          fun cookie => if cookie.value = "" then none else some cookie.value := by
  have hlegible : ∀ cookie ∈ (unexpired now jar).filter fun cookie => !cookie.httpOnly,
      Legible cookie :=
    fun cookie hcookie => h cookie (List.mem_of_mem_filter (List.mem_of_mem_filter hcookie))
  have hfind := find?_rows hlegible
  rw [csrfHeader, documentCookie]
  rw [show (fun cookie : Cookie => cookie.name.toList ++ '=' :: cookie.value.toList) = row from rfl,
    hfind]
  cases hcookie : ((unexpired now jar).filter fun cookie => !cookie.httpOnly).find?
    (·.name = csrfCookieName) with
  | none => rfl
  | some cookie =>
      have hname : cookie.name = csrfCookieName := by simpa using List.find?_some hcookie
      have hdrop : (row cookie).drop "csrf=".length = cookie.value.toList := by
        rw [row, hname]
        rfl
      simp only [Option.map_some, Option.bind_some, hdrop]
      by_cases hempty : cookie.value = ""
      · simp [hempty]
      · simp [hempty]

/-! ### The two cookies of a session -/

def named (name : String) (jar : List Cookie) : List Cookie := jar.filter (·.name = name)

theorem mem_put {cookie c : Cookie} {jar : List Cookie} (h : c ∈ put cookie jar) :
    c = cookie ∨ c ∈ jar := by
  induction jar with
  | nil => exact .inl (List.mem_singleton.mp h)
  | cons first jar ih =>
      rw [put] at h
      split at h
      · exact (List.mem_cons.mp h).imp id (List.mem_cons_of_mem _)
      · rcases List.mem_cons.mp h with rfl | h
        · exact .inr List.mem_cons_self
        · exact (ih h).imp id (List.mem_cons_of_mem _)

theorem named_put_of_ne {cookie : Cookie} {name : String} (h : cookie.name ≠ name)
    (jar : List Cookie) : named name (put cookie jar) = named name jar := by
  induction jar with
  | nil => simp [put, named, h]
  | cons first jar ih =>
      rw [put]
      split
      · next hfirst => simp [named, hfirst, h]
      · rw [named, List.filter_cons, ← named, ih, named, named, List.filter_cons]

theorem named_put_self {cookie : Cookie} {jar : List Cookie}
    (h : (named cookie.name jar).length ≤ 1) : named cookie.name (put cookie jar) = [cookie] := by
  induction jar with
  | nil => simp [put, named]
  | cons first jar ih =>
      rw [put]
      split
      · next hfirst =>
          have hnone : named cookie.name jar = [] := by
            rw [named, List.filter_cons_of_pos (by simpa using hfirst), ← named] at h
            simpa using h
          rw [named, List.filter_cons_of_pos (by simp), ← named, hnone]
      · next hfirst =>
          have hskip (rest : List Cookie) :
              named cookie.name (first :: rest) = named cookie.name rest :=
            List.filter_cons_of_neg (by simpa using hfirst)
          rw [hskip]
          exact ih (hskip jar ▸ h)

theorem named_setCookie_of_ne {cookie : Cookie} {name : String} (h : cookie.name ≠ name) (now : ℕ)
    (jar : List Cookie) : named name (setCookie now jar cookie) = named name jar := by
  rw [setCookie]
  split
  · rw [named, List.filter_filter]
    refine List.filter_congr fun c _ => ?_
    by_cases hc : c.name = name
    · simp [hc, Ne.symm h]
    · simp [hc]
  · exact named_put_of_ne h jar

theorem named_setCookie_self {cookie : Cookie} {jar : List Cookie}
    (h : (named cookie.name jar).length ≤ 1) (now : ℕ) :
    named cookie.name (setCookie now jar cookie) =
      if deadline cookie ≤ now then [] else [cookie] := by
  rw [setCookie]
  split
  · rw [named, List.filter_filter]
    refine List.filter_eq_nil_iff.mpr fun c _ => ?_
    simp
  · exact named_put_self h

theorem plain_setCookie {cookie : Cookie} {jar : List Cookie} (hcookie : Legible cookie)
    (h : ∀ c ∈ jar, Legible c) (now : ℕ) : ∀ c ∈ setCookie now jar cookie, Legible c := by
  intro c hc
  rw [setCookie] at hc
  split at hc
  · exact h c (List.mem_of_mem_filter hc)
  · rcases mem_put hc with rfl | hc
    · exact hcookie
    · exact h c hc

def sessionCookie (issued : IssuedSession) : Cookie :=
  ⟨sessionCookieName, issued.token.raw, true, true, "/", issued.absoluteExpiresAt⟩

def csrfCookie (issued : IssuedSession) : Cookie :=
  ⟨csrfCookieName, issued.csrfToken.raw, false, true, "/", issued.absoluteExpiresAt⟩

/-- A jar keeps the two cookies of one session, or none; and all its cookies can be told apart. -/
structure Holds (jar : List Cookie) (issued : Option IssuedSession) : Prop where
  session : named sessionCookieName jar = issued.toList.map sessionCookie
  csrf : named csrfCookieName jar = issued.toList.map csrfCookie
  plain : ∀ cookie ∈ jar, Legible cookie

/-- Neither token ends its cookie, and the CSRF token is there. -/
structure Printable (issued : IssuedSession) : Prop where
  session : ';' ∉ issued.token.raw.toList
  csrf : ';' ∉ issued.csrfToken.raw.toList
  nonempty : issued.csrfToken.raw ≠ ""

namespace Holds
variable {jar : List Cookie} {held : Option IssuedSession}

/-- Two cookies of the names of a session take the place of those that are there. -/
theorem replace (h : Holds jar held) (first second : Cookie)
    (hfirst : first.name = sessionCookieName) (hsecond : second.name = csrfCookieName)
    (hvalue : ';' ∉ first.value.toList) (hvalue' : ';' ∉ second.value.toList) (now : ℕ) :
    named sessionCookieName (receive now jar [first, second]) =
        (if deadline first ≤ now then [] else [first]) ∧
      named csrfCookieName (receive now jar [first, second]) =
        (if deadline second ≤ now then [] else [second]) ∧
      ∀ cookie ∈ receive now jar [first, second], Legible cookie := by
  have hone (k : IssuedSession → Cookie) : (held.toList.map k).length ≤ 1 := by
    cases held <;> simp
  have hnames : sessionCookieName ≠ csrfCookieName := by decide
  have hreceive : receive now jar [first, second] =
      setCookie now (setCookie now jar first) second := rfl
  rw [hreceive]
  refine ⟨?_, ?_, plain_setCookie ⟨?_, ?_, hvalue'⟩ (plain_setCookie ⟨?_, ?_, hvalue⟩ h.plain now)
    now⟩
  · rw [named_setCookie_of_ne (by rw [hsecond]; exact hnames.symm), ← hfirst]
    refine named_setCookie_self ?_ now
    rw [hfirst, h.session]
    exact hone _
  · rw [← hsecond]
    refine named_setCookie_self ?_ now
    rw [hsecond, named_setCookie_of_ne (by rw [hfirst]; exact hnames), h.csrf]
    exact hone _
  · rw [hsecond]; decide
  · rw [hsecond]; decide
  · rw [hfirst]; decide
  · rw [hfirst]; decide

/-- A login leaves the cookies of its session, unless their time is over already. -/
theorem attach (h : Holds jar held) {issued : IssuedSession} (hprint : Printable issued) (now : ℕ) :
    Holds (receive now jar (attachSessionCookies issued))
      (if deadline (sessionCookie issued) ≤ now then none else some issued) := by
  obtain ⟨hsession, hcsrf, hplain⟩ := h.replace (sessionCookie issued) (csrfCookie issued)
    rfl rfl hprint.session hprint.csrf now
  refine ⟨hsession.trans ?_, hcsrf.trans ?_, hplain⟩
  · split <;> rfl
  · rw [show deadline (csrfCookie issued) = deadline (sessionCookie issued) from rfl]
    split <;> rfl

/-- A logout leaves none. -/
theorem clear (h : Holds jar held) (now : ℕ) :
    Holds (receive now jar clearSessionCookies) none := by
  have hover (cookie : Cookie) (hzero : cookie.expires = 0) : deadline cookie ≤ now := by
    rw [deadline, hzero]
    exact Int.natCast_nonneg now
  obtain ⟨hsession, hcsrf, hplain⟩ := h.replace ⟨sessionCookieName, "", true, true, "/", 0⟩
    ⟨csrfCookieName, "", false, true, "/", 0⟩ rfl rfl (by simp) (by simp) now
  rw [if_pos (hover _ rfl)] at hsession hcsrf
  exact ⟨hsession, hcsrf, hplain⟩

/-- The session whose cookies have not expired. -/
def live (now : ℕ) (held : Option IssuedSession) : Option IssuedSession :=
  held.filter fun issued => now < deadline (sessionCookie issued)

/-- A cookie that is kept is found by its name. -/
theorem find?_unexpired (now : ℕ) (name : String) (jar : List Cookie) :
    (unexpired now jar).find? (·.name = name) =
      (named name jar).find? fun cookie => now < deadline cookie := by
  rw [unexpired, named, List.find?_filter, List.find?_filter]
  refine List.find?_congr fun cookie _ => ?_
  simp only [decide_eq_true_eq, and_comm]

/-- The token of the session is sent. -/
theorem sent (h : Holds jar held) (now : ℕ) :
    sentCookie now jar sessionCookieName = (live now held).map fun issued => issued.token.raw := by
  rw [sentCookie, find?_unexpired, h.session]
  cases held with
  | none => rfl
  | some issued =>
      have hvalue : (sessionCookie issued).value = issued.token.raw := rfl
      by_cases hlive : now < deadline (sessionCookie issued)
      · simp [live, Option.filter, hlive, hvalue]
      · simp [live, Option.filter, hlive]

/-- And its CSRF token is mirrored. -/
theorem mirrored (h : Holds jar held) (hprint : ∀ issued ∈ held, Printable issued) (now : ℕ) :
    csrfHeader (documentCookie now jar) =
      (live now held).map fun issued => issued.csrfToken.raw := by
  have hfind : ((unexpired now jar).filter fun cookie => !cookie.httpOnly).find?
      (·.name = csrfCookieName) =
        (named csrfCookieName jar).find? fun cookie =>
          now < deadline cookie ∧ !cookie.httpOnly := by
    rw [unexpired, named, List.filter_filter, List.find?_filter, List.find?_filter]
    refine List.find?_congr fun cookie _ => ?_
    simp only [Bool.and_eq_true, decide_eq_true_eq, and_comm]
  rw [csrfHeader_documentCookie h.plain, hfind, h.csrf]
  cases held with
  | none => rfl
  | some issued =>
      have hvalue : (csrfCookie issued).value = issued.csrfToken.raw := rfl
      have hreadable : (csrfCookie issued).httpOnly = false := rfl
      have hdeadline : deadline (csrfCookie issued) = deadline (sessionCookie issued) := rfl
      have hnonempty := (hprint issued rfl).nonempty
      by_cases hlive : now < deadline (sessionCookie issued)
      · simp [live, Option.filter, hlive, hvalue, hreadable, hdeadline, hnonempty]
      · simp [live, Option.filter, hlive, hdeadline]

end Holds

end AuthApp.Web
