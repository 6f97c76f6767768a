import AuthApp.Interleave.Trail
import Mathlib.Data.List.Induction

/-!
# Interleave — marks

A mark is a step of a kind, with a value read off its answer.  The marks of a log, each with the
call that made it, say in which order the calls passed a point of their programs.

* `mem_marks`: a mark is in the past of its call.
* `pairwise_marks`: a relation between the marks of a log, proved of each mark and the ones before.
-/

namespace Interleave
open Pool

variable {S : Sig} {σ ι α χ ε β : Type}

namespace Pool

/-- The steps of the log that `f` has a value for, in order. -/
def marks (f : Reply S → Option β) (log : List (Event S σ)) : List (Nat × β) :=
  log.filterMap fun e => (f ⟨e.op, e.ans⟩).map fun b => (e.caller, b)

variable {f : Reply S → Option β}

theorem marks_append (l₁ l₂ : List (Event S σ)) :
    marks f (l₁ ++ l₂) = marks f l₁ ++ marks f l₂ :=
  List.filterMap_append

theorem mem_marks {log : List (Event S σ)} {i : Nat} {b : β} :
    (i, b) ∈ marks f log ↔ ∃ r ∈ pastOf i log, f r = some b := by
  constructor
  · intro h
    obtain ⟨e, he, hb⟩ := List.mem_filterMap.mp h
    obtain ⟨b', hb', heq⟩ := Option.map_eq_some_iff.mp hb
    cases heq
    exact ⟨_, mem_pastOf_of_mem he, hb'⟩
  · rintro ⟨r, hr, hb⟩
    obtain ⟨e, he, rfl, rfl⟩ := mem_pastOf hr
    exact List.mem_filterMap.mpr ⟨e, he, by rw [hb]; rfl⟩

theorem marks_take (log : List (Event S σ)) (n : Nat) :
    marks f (log.take n) <+: marks f log :=
  (List.take_prefix n log).filterMap _

/-- A relation that each mark of a log has with the marks before it. -/
theorem pairwise_marks {Q : Nat × β → Nat × β → Prop} {log : List (Event S σ)}
    (h : ∀ (n : Nat) (e : Event S σ) (b : β), log[n]? = some e → f ⟨e.op, e.ans⟩ = some b →
      ∀ a ∈ marks f (log.take n), Q a (e.caller, b)) :
    (marks f log).Pairwise Q := by
  induction log using List.reverseRecOn with
  | nil => exact List.Pairwise.nil
  | append_singleton log e ih =>
      rw [marks_append]
      refine List.pairwise_append.mpr ⟨ih fun n g b hn hb a ha => ?_, ?_, fun a ha c hc => ?_⟩
      · have hlt := (List.getElem?_eq_some_iff.mp hn).1
        refine h n g b ((List.getElem?_append_left hlt).trans hn) hb a ?_
        rwa [List.take_append_of_le_length (Nat.le_of_lt hlt)]
      · rw [marks, List.filterMap_cons]
        split
        · exact List.Pairwise.nil
        · exact List.pairwise_singleton _ _
      · obtain ⟨g, hg, hb⟩ := List.mem_filterMap.mp hc
        obtain rfl := List.mem_singleton.mp hg
        obtain ⟨b, hfb, rfl⟩ := Option.map_eq_some_iff.mp hb
        refine h log.length g b List.getElem?_concat_length hfb a ?_
        rwa [List.take_left]

end Pool

end Interleave
