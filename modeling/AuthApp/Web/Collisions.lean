import AuthApp.Web.Compose

/-!
# Web — routes that collide

The router joins the path of a route to the full path above it, so two routes can come to one full
path by declaring different paths, and two routes that declare one path can come to different full
paths.  `duplicateRoutePaths` compares what is declared.

* `Reaches`: the full paths that a route comes to.
* `Kept`: every route comes to the paths it declares.
* `detects_of_kept`: among such routes, the reported paths are the collisions.
* `missed_beside`: a page where a route ends up collides with it, unseen.
* `nested_misjudged`: nested routes that collide unseen, and that are reported and do not collide.
-/

namespace AuthApp.Web
open Rose

/-! ### Full paths -/

section Paths
variable (join : String → Option String → String)

/-- The full paths below an element: those above it, each joined with each path of its own. -/
def extend (above : List String) (mount : Mount) : List String :=
  match mount.path with
  | none => above
  | some path => above.flatMap fun parent => path.own.map (join parent)

/-- The full paths at the end of a chain of elements, from the root of the router on. -/
def fullPaths (mounts : List Mount) : List String := mounts.foldl (extend join) [""]

variable (features : List FeatureModule) (place : List Nat)

/-- The route of a feature that is mounted at the place, and the elements above it. -/
def RouteAt (above : List Mount) (path : RoutePath) : Prop :=
  (shell features).At place above (.route path)

/-- The route at the place resolves to the full path. -/
def ResolvesTo (full : String) : Prop :=
  ∃ above path, RouteAt features place above path ∧
    full ∈ fullPaths join (above ++ [.route path])

/-- The route at the place declares `own`, and resolves to the full path with it. -/
def Reaches (own : Option String) (full : String) : Prop :=
  ∃ above path, RouteAt features place above path ∧ own ∈ path.own ∧
    ∃ parent ∈ fullPaths join above, join parent own = full

/-- The place of the tree declares `own`, as the entry `n` of its paths. -/
abbrev Declares (n : Nat) (own : Option String) : Prop :=
  (shell features).Occurs Mount.declared place n own

/-- Two places declare `own`: two routes, or two entries of one route's array. -/
abbrev DeclaredTwice (own : Option String) : Prop :=
  (shell features).OccursTwice Mount.declared own

end Paths

/-! ### What is claimed, and where it holds -/

section Claim
variable (join : String → Option String → String) (features : List FeatureModule)

/-- Without a report, no two routes resolve to one full path. -/
def Complete : Prop :=
  duplicateRoutePaths features = [] → ∀ place place' full,
    ResolvesTo join features place full → ResolvesTo join features place' full → place = place'

/-- Every path that is reported is the full path of two routes. -/
def Sound : Prop :=
  ∀ own ∈ duplicateRoutePaths features, ∃ full place place', own = some full ∧ place ≠ place' ∧
    ResolvesTo join features place full ∧ ResolvesTo join features place' full

/-- The reported paths tell whether the features collide, and where. -/
structure DetectsCollisions : Prop where
  complete : Complete join features
  sound : Sound join features

/-- A route below `above` comes to the paths it declares: it is not below an empty array of paths,
each of its paths, joined to any full path above it, is that path, and its array repeats none. -/
structure Stays (above : List Mount) (path : RoutePath) : Prop where
  mounted : ∀ own ∈ path.own, ∃ parent, parent ∈ fullPaths join above
  kept : ∀ own ∈ path.own, ∀ parent ∈ fullPaths join above, own = some (join parent own)
  nodup : path.own.Nodup

/-- Every route comes to the paths it declares. -/
def Kept : Prop := ∀ place above path, RouteAt features place above path → Stays join above path

end Claim

/-! ### Every list of features -/

section Every
variable {join : String → Option String → String} {features : List FeatureModule}
  {place : List Nat} {own : Option String} {full : String}

/-- A route resolves to what it reaches with one of its paths. -/
theorem resolvesTo_iff : ResolvesTo join features place full ↔
    ∃ own, Reaches join features place own full := by
  constructor
  · rintro ⟨above, path, hat, hfull⟩
    rw [fullPaths, List.foldl_append] at hfull
    obtain ⟨parent, hparent, hown⟩ := List.mem_flatMap.mp hfull
    obtain ⟨own, hmem, hjoin⟩ := List.mem_map.mp hown
    exact ⟨own, above, path, hat, hmem, parent, hparent, hjoin⟩
  · rintro ⟨own, above, path, hat, hmem, parent, hparent, hjoin⟩
    refine ⟨above, path, hat, ?_⟩
    rw [fullPaths, List.foldl_append]
    exact List.mem_flatMap.mpr ⟨parent, hparent, List.mem_map.mpr ⟨own, hmem, hjoin⟩⟩

theorem Reaches.resolvesTo (h : Reaches join features place own full) :
    ResolvesTo join features place full :=
  resolvesTo_iff.mpr ⟨own, h⟩

theorem Reaches.declares (h : Reaches join features place own full) :
    ∃ n, Declares features place n own := by
  obtain ⟨above, path, hat, hmem, -⟩ := h
  obtain ⟨n, hn⟩ := List.mem_iff_getElem?.mp hmem
  exact ⟨n, above, .route path, hat, hn⟩

/-- Two routes that reach a path each, by the same declaration, declare it twice. -/
theorem Reaches.declaredTwice {place' : List Nat} {full' : String}
    (h : Reaches join features place own full) (h' : Reaches join features place' own full')
    (hne : place ≠ place') : DeclaredTwice features own := by
  obtain ⟨n, hn⟩ := h.declares
  obtain ⟨n', hn'⟩ := h'.declares
  exact ⟨place, n, place', n', fun heq => hne (Prod.mk.inj heq).1, hn, hn'⟩

/-- A route that is kept reaches the path it declares. -/
theorem Kept.resolvesTo (h : Kept join features) {n : Nat} (hn : Declares features place n own) :
    ∃ full, own = some full ∧ ResolvesTo join features place full := by
  obtain ⟨above, a, hat, hget⟩ := hn
  cases a with
  | route path =>
      have hown := List.mem_of_getElem? hget
      have hstays := h place above path hat
      obtain ⟨parent, hparent⟩ := hstays.mounted own hown
      exact ⟨_, hstays.kept own hown parent hparent,
        Reaches.resolvesTo ⟨above, path, hat, hown, parent, hparent, rfl⟩⟩
  | _ => cases hget

/-- A route that is kept reaches nothing else. -/
theorem Kept.reaches (h : Kept join features) (hreaches : Reaches join features place own full) :
    own = some full := by
  obtain ⟨above, path, hat, hown, parent, hparent, rfl⟩ := hreaches
  exact (h place above path hat).kept own hown parent hparent

/-- A route that is kept declares a path once. -/
theorem Kept.entry (h : Kept join features) {n n' : Nat} (hn : Declares features place n own)
    (hn' : Declares features place n' own) : n = n' := by
  obtain ⟨above, a, hat, hget⟩ := hn
  obtain ⟨above', a', hat', hget'⟩ := hn'
  obtain ⟨rfl, rfl⟩ := hat.unique hat'
  cases a with
  | route path =>
      have hlt := (List.getElem?_eq_some_iff.mp hget).1
      exact (List.getElem?_inj hlt (h place above path hat).nodup).mp (hget.trans hget'.symm)
  | _ => cases hget

/-- **Collisions.** Where every route comes to the paths it declares, the reported paths are the
collisions. -/
theorem detects_of_kept (h : Kept join features) : DetectsCollisions join features := by
  refine ⟨fun hnil place place' full hfull hfull' => ?_, fun own hreported => ?_⟩
  · obtain ⟨own, hreaches⟩ := resolvesTo_iff.mp hfull
    obtain ⟨own', hreaches'⟩ := resolvesTo_iff.mp hfull'
    by_contra hne
    -- both declare the full path, so it would have been reported
    obtain rfl := (h.reaches hreaches).trans (h.reaches hreaches').symm
    have hreported := mem_duplicateRoutePaths_iff.mpr (hreaches.declaredTwice hreaches' hne)
    rw [hnil] at hreported
    cases hreported
  · obtain ⟨place, n, place', n', hne, hn, hn'⟩ := mem_duplicateRoutePaths_iff.mp hreported
    have hplace : place ≠ place' := by
      rintro rfl
      exact hne (congrArg (place, ·) (h.entry hn hn'))
    obtain ⟨full, rfl, hfull⟩ := h.resolvesTo hn
    obtain ⟨full', heq, hfull'⟩ := h.resolvesTo hn'
    obtain rfl := Option.some.inj heq
    exact ⟨full, place, place', rfl, hplace, hfull, hfull'⟩

end Every

/-! ### Other features beside -/

/-- A route without children. -/
def leaf (path : String) : RouteDefinition := .mk (.one path) .undefined

section Beside
variable {join : String → Option String → String} {features : List FeatureModule}
  {place : List Nat} {full : String}

/-- Features that come after leave a route where it was. -/
theorem RouteAt.append {above : List Mount} {path : RoutePath}
    (h : RouteAt features place above path) (more : List FeatureModule) :
    RouteAt (features ++ more) place above path ∧
      ∃ i below, place = i :: below ∧ i < features.length := by
  cases h with
  | @child _ _ i t below above' _ ht hat =>
      rw [featureRoutes] at ht
      rcases Nat.lt_or_ge i (features.map FeatureModule.element).length with hi | hi
      · rw [List.getElem?_append_left hi] at ht
        refine ⟨.child ?_ hat, i, below, rfl, List.length_map _ ▸ hi⟩
        rw [featureRoutes, List.map_append, List.append_assoc, List.getElem?_append_left hi, ht]
      -- the catch-all is no route of a feature
      · rw [List.getElem?_append_right hi] at ht
        obtain rfl := List.mem_singleton.mp (List.mem_of_getElem? ht)
        cases hat with
        | child ht => cases ht

theorem ResolvesTo.append (h : ResolvesTo join features place full)
    (more : List FeatureModule) : ResolvesTo join (features ++ more) place full ∧
      ∃ i below, place = i :: below ∧ i < features.length := by
  obtain ⟨above, path, hat, hfull⟩ := h
  obtain ⟨hat', hplace⟩ := hat.append more
  exact ⟨⟨above, path, hat', hfull⟩, hplace⟩

/-- A page of its own, after other features. -/
theorem resolvesTo_leaf {path : String} (hjoin : join (join "" (some "/")) (some path) = full) :
    ResolvesTo join (features ++ [⟨[leaf path], none⟩]) [features.length, 0] full := by
  have helement : (featureRoutes (features ++ [⟨[leaf path], none⟩]))[features.length]? =
      some (.node .fragment [toRouteElement (leaf path)]) := by
    rw [featureRoutes, List.map_append, List.append_assoc,
      List.getElem?_append_right (List.length_map _).le, List.length_map, Nat.sub_self]
    rfl
  refine ⟨[.admin, .fragment], .one path, .child helement (.child rfl (.root _ _)), ?_⟩
  rw [← hjoin]
  exact List.mem_singleton_self _

/-- A page where a route of other features ends up collides with it; unless the page is declared
twice, the collision is missed. -/
theorem missed_beside (h : ResolvesTo join features place full)
    (hpage : join (join "" (some "/")) (some full) = full)
    (hquiet : duplicateRoutePaths (features ++ [⟨[leaf full], none⟩]) = []) :
    ¬ DetectsCollisions join (features ++ [⟨[leaf full], none⟩]) := by
  intro hdetects
  obtain ⟨hbefore, i, below, rfl, hi⟩ := h.append [⟨[leaf full], none⟩]
  have hsame := hdetects.complete hquiet _ _ full hbefore (resolvesTo_leaf hpage)
  exact absurd (List.cons.inj hsame).1 (Nat.ne_of_lt hi)

end Beside

/-! ### Two panels -/

/-- The router's join, for paths that begin with a slash and do not end with one. -/
def plainJoin (parent : String) : Option String → String
  | none => parent
  | some own => if own = "/" then parent else parent ++ own

/-- A feature with one page, and another page below it. -/
def nestedFeature (path child : String) : FeatureModule :=
  ⟨[.mk (.one path) (.array [leaf child])], none⟩

/-- One feature mounts `/users/new` in two steps, and another in one. -/
def usersTwice : List FeatureModule := [nestedFeature "/users" "/new", ⟨[leaf "/users/new"], none⟩]

/-- Two features with a page of details each. -/
def twoDetails : List FeatureModule :=
  [nestedFeature "/users" "/:id", nestedFeature "/orders" "/:id"]

/-- Two pages below a layout without a path, and one of them again, behind a guard. -/
def groupedUsers : List FeatureModule :=
  [⟨[.mk (.one "") (.array [leaf "/users", leaf "/audit"])], none⟩,
    ⟨[leaf "/users"], some ["admin"]⟩]

/-- The layout keeps its pages, and the page that is mounted twice is reported. -/
theorem grouped_detected : duplicateRoutePaths groupedUsers = [some "/users"] ∧
    DetectsCollisions plainJoin groupedUsers := by
  have hnodes : ∀ n ∈ (shell groupedUsers).nodes, n.2.2.declared.Nodup ∧
      ∀ own ∈ n.2.2.declared, fullPaths plainJoin n.2.1 ≠ [] ∧
        ∀ parent ∈ fullPaths plainJoin n.2.1, own = some (plainJoin parent own) := by
    decide +kernel
  refine ⟨by decide +kernel, detects_of_kept fun place above path hat => ?_⟩
  obtain ⟨hnodup, howns⟩ := hnodes _ hat.mem_nodes
  exact
    { mounted := fun own hown => List.exists_mem_of_ne_nil _ (howns own hown).1
      kept := fun own hown => (howns own hown).2
      nodup := hnodup }

/-- No route of the two resolves to the path that both declare. -/
theorem not_resolvesTo_details (place : List Nat) :
    ¬ ResolvesTo plainJoin twoDetails place "/:id" := by
  have hnone : ∀ n ∈ (shell twoDetails).nodes,
      "/:id" ∉ fullPaths plainJoin (n.2.1 ++ [n.2.2]) := by
    decide +kernel
  rintro ⟨above, path, hat, hfull⟩
  exact hnone _ hat.mem_nodes hfull

/-- A collision that is not reported, and a report without a collision. -/
theorem nested_misjudged :
    (duplicateRoutePaths usersTwice = [] ∧
        ResolvesTo plainJoin usersTwice [0, 0, 0] "/users/new" ∧
        ResolvesTo plainJoin usersTwice [1, 0] "/users/new" ∧
        ¬ DetectsCollisions plainJoin usersTwice) ∧
      duplicateRoutePaths twoDetails = [some "/:id"] ∧
      (∀ place, ¬ ResolvesTo plainJoin twoDetails place "/:id") ∧
      ¬ DetectsCollisions plainJoin twoDetails := by
  have hmissed : duplicateRoutePaths usersTwice = [] := by decide +kernel
  have hnested : ResolvesTo plainJoin usersTwice [0, 0, 0] "/users/new" :=
    ⟨_, _, .child rfl (.child rfl (.child rfl (.root _ _))), by decide +kernel⟩
  have hflat : ResolvesTo plainJoin usersTwice [1, 0] "/users/new" :=
    ⟨_, _, .child rfl (.child rfl (.root _ _)), by decide +kernel⟩
  have halarm : duplicateRoutePaths twoDetails = [some "/:id"] := by decide +kernel
  refine ⟨⟨hmissed, hnested, hflat, fun h => ?_⟩, halarm, not_resolvesTo_details, fun h => ?_⟩
  · have hsame := h.complete hmissed _ _ _ hnested hflat
    cases hsame
  · obtain ⟨full, place, -, hown, -, hresolves, -⟩ :=
      h.sound (some "/:id") (halarm ▸ List.mem_singleton_self _)
    cases hown
    exact not_resolvesTo_details place hresolves

end AuthApp.Web
