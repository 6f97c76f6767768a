import AuthApp.Accounts.Account
import AuthApp.Text.Separated

/-!
# Accounts — the grammar of an email

An address is a local part and a domain around one `@`, and a domain is two or more labels with
dots between them.  `Email::parse` asks for a dot in the domain, and for none at either end of it,
so it also takes a domain with an empty label inside.

* `check_eq_none_iff`: what the code accepts.
* `meetsGrammar_iff`: the texts on which that is the grammar.
-/

namespace AuthApp.Accounts.Email

/-! ### The grammar -/

/-- Two labels or more, with dots between them, none of them empty. -/
def IsDomain (domain : List Char) : Prop :=
  2 ≤ (domain.splitOn '.').length ∧ ∀ label ∈ domain.splitOn '.', label ≠ []

/-- A local part that is not empty, and a domain, around the one `@`. -/
def IsAddress (s : List Char) : Prop :=
  ∃ localPart domain, s = localPart ++ '@' :: domain ∧ '@' ∉ localPart ∧ '@' ∉ domain ∧
    localPart ≠ [] ∧ IsDomain domain

/-- `parse` accepts the text exactly when it spells an address; what it makes of it is the
normalized text, and parses to itself. -/
structure MeetsGrammar (raw : String) : Prop where
  accepted : (∃ email, parse raw = .ok email) ↔ IsAddress (normalize raw).toList
  normalized : ∀ email, parse raw = .ok email → email.address = normalize raw
  again : ∀ email, parse raw = .ok email → parse email.address = .ok email

/-! ### What is accepted -/

/-- A dot in the domain, and none at either end. -/
structure DomainOk (domain : List Char) : Prop where
  dotted : '.' ∈ domain
  head : domain.head? ≠ some '.'
  last : domain.getLast? ≠ some '.'

/-- A domain is what the code takes for one, without two dots next to each other. -/
theorem isDomain_iff {domain : List Char} :
    IsDomain domain ↔ DomainOk domain ∧ ¬ ['.', '.'] <:+: domain := by
  have hlabels : (∀ label ∈ domain.splitOn '.', label ≠ []) ↔ [] ∉ domain.splitOn '.' :=
    ⟨fun h hnil => h [] hnil rfl, fun h label hl heq => h (heq ▸ hl)⟩
  rw [IsDomain, Separated.two_le_length_splitOn_iff, hlabels, Separated.nil_mem_splitOn_iff]
  constructor
  · rintro ⟨hdot, hno⟩
    simp only [not_or] at hno
    exact ⟨⟨hdot, hno.2.1, hno.2.2.1⟩, hno.2.2.2⟩
  · rintro ⟨⟨hdot, hhead, hlast⟩, hpair⟩
    refine ⟨hdot, ?_⟩
    rintro (hnil | h | h | h)
    · exact List.ne_nil_of_mem hdot hnil
    · exact hhead h
    · exact hlast h
    · exact hpair h

theorem splitOnce_eq_some_iff {c : Char} {s before after : List Char} :
    splitOnce c s = some (before, after) ↔ s = before ++ c :: after ∧ c ∉ before := by
  rw [splitOnce]
  constructor
  · intro h
    have hstop := List.head?_dropWhile_not (· ≠ c) s
    have hsplit := List.takeWhile_append_dropWhile (p := (· ≠ c)) (l := s)
    cases hd : s.dropWhile (· ≠ c) with
    | nil => rw [hd] at h; cases h
    | cons x rest =>
        rw [hd] at h hstop hsplit
        obtain ⟨rfl, rfl⟩ := Prod.mk.inj (Option.some.inj h)
        obtain rfl : x = c := by simpa using hstop
        refine ⟨hsplit.symm, fun hc => ?_⟩
        simpa using List.mem_takeWhile_imp hc
  · rintro ⟨rfl, hc⟩
    have hall : ∀ a ∈ before, decide (a ≠ c) = true := fun a ha =>
      decide_eq_true fun heq => hc (heq ▸ ha)
    rw [List.dropWhile_append_of_pos hall, List.takeWhile_append_of_pos hall,
      List.dropWhile_cons_of_neg (by simp), List.takeWhile_cons_of_neg (by simp), List.append_nil]

/-- A text is cut at its first `@` in one way. -/
theorem isAddress_append_iff {localPart domain : List Char} (hat : '@' ∉ localPart) :
    IsAddress (localPart ++ '@' :: domain) ↔ '@' ∉ domain ∧ localPart ≠ [] ∧ IsDomain domain := by
  constructor
  · rintro ⟨localPart', domain', heq, hat', hdomain, hlocal, hd⟩
    obtain ⟨rfl, rfl⟩ := Prod.mk.inj (Option.some.inj ((splitOnce_eq_some_iff.mpr
      ⟨rfl, hat⟩).symm.trans (splitOnce_eq_some_iff.mpr ⟨heq, hat'⟩)))
    exact ⟨hdomain, hlocal, hd⟩
  · rintro ⟨hdomain, hlocal, hd⟩
    exact ⟨localPart, domain, rfl, hat, hdomain, hlocal, hd⟩

/-- What the code accepts of a normalized text. -/
theorem check_eq_none_iff {s : List Char} :
    check s = none ↔ ∃ localPart domain, s = localPart ++ '@' :: domain ∧ '@' ∉ localPart ∧
      '@' ∉ domain ∧ localPart ≠ [] ∧ DomainOk domain := by
  rw [check]
  cases hs : splitOnce '@' s with
  | none =>
      refine iff_of_false (by split <;> simp) ?_
      rintro ⟨localPart, domain, heq, hat, -⟩
      rw [splitOnce_eq_some_iff.mpr ⟨heq, hat⟩] at hs
      cases hs
  | some p =>
      obtain ⟨localPart, domain⟩ := p
      obtain ⟨rfl, hat⟩ := splitOnce_eq_some_iff.mp hs
      rw [if_neg (by simp)]
      constructor
      · intro h
        simp only [ite_eq_right_iff, reduceCtorEq, imp_false, not_or, not_not] at h
        obtain ⟨hlocal, hdomain, hdot, hhead, hlast⟩ := h
        exact ⟨localPart, domain, rfl, hat, hdomain, hlocal, hdot, hhead, hlast⟩
      · rintro ⟨localPart', domain', heq, hat', hdomain, hlocal, hok⟩
        obtain ⟨rfl, rfl⟩ := Prod.mk.inj (Option.some.inj
          (hs.symm.trans (splitOnce_eq_some_iff.mpr ⟨heq, hat'⟩)))
        simp [hlocal, hdomain, hok.dotted, hok.head, hok.last]

theorem address_of_parse {raw : String} {email : Email} (h : parse raw = .ok email) :
    email.address = normalize raw := by
  rw [parse] at h
  split at h
  · cases h
  · cases h; rfl

theorem accepted_iff {raw : String} :
    (∃ email, parse raw = .ok email) ↔ check (normalize raw).toList = none := by
  rw [parse]
  split
  · next e he => simp [he]
  · next hnone => exact iff_of_true ⟨_, rfl⟩ hnone

/-- **The grammar.** `parse` is as the grammar has it on every text but those it accepts with two
dots next to each other in the domain. -/
theorem meetsGrammar_iff (raw : String) :
    MeetsGrammar raw ↔
      ∀ localPart domain, (normalize raw).toList = localPart ++ '@' :: domain →
        '@' ∉ localPart → '@' ∉ domain → localPart ≠ [] → domain.head? ≠ some '.' →
          domain.getLast? ≠ some '.' → ¬ ['.', '.'] <:+: domain := by
  have hmeets : MeetsGrammar raw ↔
      (check (normalize raw).toList = none ↔ IsAddress (normalize raw).toList) := by
    rw [← accepted_iff]
    refine ⟨fun h => h.accepted, fun h => ⟨h, fun email => address_of_parse, fun email _ => ?_⟩⟩
    exact email.parse_address
  rw [hmeets, check_eq_none_iff, IsAddress]
  constructor
  · intro hiff localPart domain heq hat hdomain hlocal hhead hlast hpair
    have hdot : '.' ∈ domain := hpair.subset List.mem_cons_self
    have haddr := hiff.mp ⟨localPart, domain, heq, hat, hdomain, hlocal, hdot, hhead, hlast⟩
    rw [heq] at haddr
    exact (isDomain_iff.mp ((isAddress_append_iff hat).mp haddr).2.2).2 hpair
  · intro hcond
    constructor
    · rintro ⟨localPart, domain, heq, hat, hdomain, hlocal, hok⟩
      exact ⟨localPart, domain, heq, hat, hdomain, hlocal, isDomain_iff.mpr
        ⟨hok, hcond localPart domain heq hat hdomain hlocal hok.head hok.last⟩⟩
    · rintro ⟨localPart, domain, heq, hat, hdomain, hlocal, hd⟩
      exact ⟨localPart, domain, heq, hat, hdomain, hlocal, (isDomain_iff.mp hd).1⟩

/-- A domain with an empty label in it is accepted. -/
theorem doubledDot_not_meetsGrammar : ¬ MeetsGrammar "a@b..c" := by
  intro h
  have haccepted : check (normalize "a@b..c").toList = none := by decide +kernel
  have haddr := h.accepted.mp (accepted_iff.mpr haccepted)
  rw [show (normalize "a@b..c").toList = ['a'] ++ '@' :: ['b', '.', '.', 'c'] by decide +kernel,
    isAddress_append_iff (by decide)] at haddr
  exact (isDomain_iff.mp haddr.2.2).2 ⟨['b'], ['c'], rfl⟩

end AuthApp.Accounts.Email
