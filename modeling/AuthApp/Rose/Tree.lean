import AuthApp.Listed.Repeats

/-!
# Rose — trees of any width

A node is its address: the numbers of the children that lead to it.  Equal labels at two addresses
are two nodes.

* `RoseTree.At`: the label at an address, and the labels above it.
* `RoseTree.At.unique`: an address has one label.
* `RoseTree.At.mem_nodes`: every node is listed.
* `RoseTree.mem_flat_iff`: what a flattened tree holds is listed by a node.
* `RoseTree.duplicate_flat_iff`: what it holds twice is listed at two places.
-/

namespace Rose
open Listed

variable {α β : Type}

inductive RoseTree (α : Type) where
  | node (label : α) (children : List (RoseTree α))

@[elab_as_elim, induction_eliminator]
theorem RoseTree.induct {P : RoseTree α → Prop}
    (node : ∀ label children, (∀ t ∈ children, P t) → P (.node label children)) : ∀ t, P t
  | .node label children => node label children fun t _ => induct node t

/-! ### Flattening -/

mutual
/-- What the labels list, each node before its children. -/
def RoseTree.flat (f : α → List β) : RoseTree α → List β
  | .node label children => f label ++ flatAll f children
def flatAll (f : α → List β) : List (RoseTree α) → List β
  | [] => []
  | t :: ts => t.flat f ++ flatAll f ts
end

theorem flatAll_eq_flatMap (f : α → List β) (ts : List (RoseTree α)) :
    flatAll f ts = ts.flatMap (RoseTree.flat f) := by
  induction ts with
  | nil => rfl
  | cons t ts ih => rw [flatAll, ih, List.flatMap_cons]

theorem RoseTree.flat_node (f : α → List β) (label : α) (children : List (RoseTree α)) :
    (RoseTree.node label children).flat f = f label ++ children.flatMap (flat f) := by
  rw [flat, flatAll_eq_flatMap]

/-! ### Addresses -/

/-- The label at an address, and the labels above it, from the root on. -/
inductive RoseTree.At : RoseTree α → List Nat → List α → α → Prop where
  | root (label : α) (children : List (RoseTree α)) : At (.node label children) [] [] label
  | child {label : α} {children : List (RoseTree α)} {i : Nat} {t : RoseTree α}
      {address : List Nat} {above : List α} {a : α} (ht : children[i]? = some t)
      (h : t.At address above a) :
      At (.node label children) (i :: address) (label :: above) a

theorem RoseTree.At.unique {t : RoseTree α} {address : List Nat} {above above' : List α} {a a' : α}
    (h : t.At address above a) (h' : t.At address above' a') : above = above' ∧ a = a' := by
  induction h generalizing above' with
  | root =>
      cases h'
      exact ⟨rfl, rfl⟩
  | child ht _ ih =>
      cases h' with
      | child ht' h' =>
          obtain rfl := Option.some.inj (ht.symm.trans ht')
          obtain ⟨rfl, rfl⟩ := ih h'
          exact ⟨rfl, rfl⟩

mutual
/-- The nodes of a tree: the address of each, the labels above it and its own. -/
def RoseTree.nodes : RoseTree α → List (List Nat × List α × α)
  | .node label children => ([], [], label) :: nodesFrom label 0 children
/-- The nodes below `label`, where the first of the trees is its child number `i`. -/
def nodesFrom (label : α) (i : Nat) : List (RoseTree α) → List (List Nat × List α × α)
  | [] => []
  | t :: ts =>
      t.nodes.map (fun n => (i :: n.1, label :: n.2.1, n.2.2)) ++ nodesFrom label (i + 1) ts
end

theorem mem_nodesFrom {label : α} {i j : Nat} {ts : List (RoseTree α)} {t : RoseTree α}
    {n : List Nat × List α × α} (ht : ts[j]? = some t) (hn : n ∈ t.nodes) :
    ((i + j) :: n.1, label :: n.2.1, n.2.2) ∈ nodesFrom label i ts := by
  induction ts generalizing i j with
  | nil => cases ht
  | cons t' ts ih =>
      rw [nodesFrom, List.mem_append]
      cases j with
      | zero =>
          obtain rfl := Option.some.inj ht
          exact .inl (List.mem_map.mpr ⟨n, hn, rfl⟩)
      | succ j =>
          rw [show i + (j + 1) = i + 1 + j by omega]
          exact .inr (ih ht)

/-- Every node is listed. -/
theorem RoseTree.At.mem_nodes {t : RoseTree α} {address : List Nat} {above : List α} {a : α}
    (h : t.At address above a) : (address, above, a) ∈ t.nodes := by
  induction h with
  | root label children =>
      rw [RoseTree.nodes]
      exact List.mem_cons_self
  | @child label children i t address above a ht _ ih =>
      rw [RoseTree.nodes]
      have hmem : ((0 + i) :: address, label :: above, a) ∈ nodesFrom label 0 children :=
        mem_nodesFrom ht ih
      rw [Nat.zero_add] at hmem
      exact List.mem_cons_of_mem _ hmem

/-- The label at the address lists `b` in its place `n`. -/
def RoseTree.Occurs (f : α → List β) (t : RoseTree α) (address : List Nat) (n : Nat) (b : β) :
    Prop :=
  ∃ above a, t.At address above a ∧ (f a)[n]? = some b

namespace RoseTree
variable {f : α → List β} {label : α} {children : List (RoseTree α)} {i n : Nat} {t : RoseTree α}
  {address : List Nat} {b : β}

theorem Occurs.root (h : (f label)[n]? = some b) : Occurs f (.node label children) [] n b :=
  ⟨[], label, .root label children, h⟩

theorem Occurs.child (ht : children[i]? = some t) (h : t.Occurs f address n b) :
    Occurs f (.node label children) (i :: address) n b := by
  obtain ⟨above, a, hat, hb⟩ := h
  exact ⟨label :: above, a, .child ht hat, hb⟩

/-- An occurrence is at the root, or below one of its children. -/
theorem Occurs.cases (h : Occurs f (.node label children) address n b) :
    address = [] ∧ (f label)[n]? = some b ∨
      ∃ i t below, address = i :: below ∧ children[i]? = some t ∧ t.Occurs f below n b := by
  obtain ⟨above, a, hat, hb⟩ := h
  cases hat with
  | root => exact .inl ⟨rfl, hb⟩
  | child ht hat => exact .inr ⟨_, _, _, rfl, ht, _, _, hat, hb⟩

theorem mem_flat_iff : b ∈ t.flat f ↔ ∃ address n, t.Occurs f address n b := by
  induction t with
  | node label children ih =>
      rw [flat_node, List.mem_append, List.mem_flatMap]
      constructor
      · rintro (h | ⟨t, ht, h⟩)
        · obtain ⟨n, hn⟩ := List.mem_iff_getElem?.mp h
          exact ⟨[], n, .root hn⟩
        · obtain ⟨i, hi⟩ := List.mem_iff_getElem?.mp ht
          obtain ⟨address, n, hb⟩ := (ih t ht).mp h
          exact ⟨i :: address, n, .child hi hb⟩
      · rintro ⟨address, n, h⟩
        rcases h.cases with ⟨rfl, hb⟩ | ⟨i, t, below, rfl, hi, hb⟩
        · exact .inl (List.mem_of_getElem? hb)
        · have ht := List.mem_of_getElem? hi
          exact .inr ⟨t, ht, (ih t ht).mpr ⟨below, n, hb⟩⟩

/-- Two places of the tree list `b`. -/
def OccursTwice (f : α → List β) (t : RoseTree α) (b : β) : Prop :=
  ∃ address n address' n', (address, n) ≠ (address', n') ∧
    t.Occurs f address n b ∧ t.Occurs f address' n' b

/-- Two occurrences at one node, at a node and below it, below one child, or below two. -/
theorem occursTwice_node_iff : OccursTwice f (.node label children) b ↔
    (f label).Duplicate b ∨
      (∃ (i : Nat) (t : RoseTree α), children[i]? = some t ∧ t.OccursTwice f b) ∨
      (∃ (i j : Nat) (t t' : RoseTree α), i ≠ j ∧ children[i]? = some t ∧ children[j]? = some t' ∧
        b ∈ t.flat f ∧ b ∈ t'.flat f) ∨
      b ∈ f label ∧ ∃ t ∈ children, b ∈ t.flat f := by
  constructor
  · rintro ⟨x, n, y, m, hne, hx, hy⟩
    rcases hx.cases with ⟨rfl, hb⟩ | ⟨i, t, below, rfl, hi, hb⟩ <;>
      rcases hy.cases with ⟨rfl, hb'⟩ | ⟨j, t', below', rfl, hj, hb'⟩
    · exact .inl (duplicate_iff_getElem?.mpr ⟨n, m, fun h => hne (h ▸ rfl), hb, hb'⟩)
    · exact .inr (.inr (.inr ⟨List.mem_of_getElem? hb, t', List.mem_of_getElem? hj,
        mem_flat_iff.mpr ⟨_, _, hb'⟩⟩))
    · exact .inr (.inr (.inr ⟨List.mem_of_getElem? hb', t, List.mem_of_getElem? hi,
        mem_flat_iff.mpr ⟨_, _, hb⟩⟩))
    · by_cases hij : i = j
      · subst hij
        obtain rfl := Option.some.inj (hi.symm.trans hj)
        refine .inr (.inl ⟨i, t, hi, below, n, below', m, fun h => hne ?_, hb, hb'⟩)
        obtain ⟨rfl, rfl⟩ := Prod.mk.inj h
        rfl
      · exact .inr (.inr (.inl ⟨i, j, t, t', hij, hi, hj, mem_flat_iff.mpr ⟨_, _, hb⟩,
          mem_flat_iff.mpr ⟨_, _, hb'⟩⟩))
  · rintro (hdup | ⟨i, t, hi, x, n, y, m, hne, hx, hy⟩ | ⟨i, j, t, t', hne, hi, hj, hb, hb'⟩ |
      ⟨hb, t, ht, hb'⟩)
    · obtain ⟨n, m, hne, hn, hm⟩ := duplicate_iff_getElem?.mp hdup
      exact ⟨[], n, [], m, fun h => hne (Prod.mk.inj h).2, .root hn, .root hm⟩
    · refine ⟨i :: x, n, i :: y, m, fun h => hne ?_, .child hi hx, .child hi hy⟩
      obtain ⟨hxy, rfl⟩ := Prod.mk.inj h
      rw [(List.cons.inj hxy).2]
    · obtain ⟨x, n, hx⟩ := mem_flat_iff.mp hb
      obtain ⟨y, m, hy⟩ := mem_flat_iff.mp hb'
      exact ⟨i :: x, n, j :: y, m, fun h => hne (List.cons.inj (Prod.mk.inj h).1).1,
        .child hi hx, .child hj hy⟩
    · obtain ⟨n, hn⟩ := List.mem_iff_getElem?.mp hb
      obtain ⟨j, hj⟩ := List.mem_iff_getElem?.mp ht
      obtain ⟨y, m, hy⟩ := mem_flat_iff.mp hb'
      exact ⟨[], n, j :: y, m, fun h => List.cons_ne_nil j y (Prod.mk.inj h).1.symm, .root hn,
        .child hj hy⟩

/-- **Duplicates.** A flattened tree holds twice what two of its places list. -/
theorem duplicate_flat_iff : (t.flat f).Duplicate b ↔ t.OccursTwice f b := by
  induction t with
  | node label children ih =>
      rw [flat_node, duplicate_append_iff, duplicate_flatMap_iff, occursTwice_node_iff,
        List.mem_flatMap, or_assoc]
      refine or_congr_right (or_congr_left (exists_congr fun i => exists_congr fun t => ?_))
      exact and_congr_right fun ht => ih t (List.mem_of_getElem? ht)

end RoseTree

end Rose
