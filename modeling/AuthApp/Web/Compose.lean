import AuthApp.Rose.Tree

/-!
# Web — the shell and its features

The admin panel is put together from features: each contributes routes, and the shell mounts them
below its own.  `duplicateRoutePaths` reads the paths that the features declare, route by route, in
the order in which they are declared.

* `pathsOf_mk`: the paths of a route are its own, and those of its children.
* `collectRoutePaths_eq`: the declared paths are what the mounted tree lists.
* `mem_duplicateRoutePaths_iff`: a path is reported when two places of the tree declare it.
-/

namespace AuthApp.Web
open Listed Rose

/-! ### Features and their routes -/

/-- The `path` of a route: it may be missing, and it may be an array. -/
inductive RoutePath where
  | undefined
  | one (path : String)
  | array (paths : List String)
  deriving DecidableEq, Repr

/-- `Array.isArray(path) ? path : [path]`, where a path that is missing is `none`. -/
def RoutePath.own : RoutePath → List (Option String)
  | undefined => [none]
  | one path => [some path]
  | array paths => paths.map some

mutual
inductive RouteDefinition where
  | mk (path : RoutePath) (children : RouteChildren)
/-- The `children` of a route: they may be missing, and they may be a single route. -/
inductive RouteChildren where
  | undefined
  | one (route : RouteDefinition)
  | array (routes : List RouteDefinition)
end

def RouteChildren.toArray : RouteChildren → List RouteDefinition
  | undefined => []
  | one route => [route]
  | array routes => routes

structure FeatureModule where
  routes : List RouteDefinition
  roles : Option (List String)

/-- The feature declares roles, and is mounted behind a guard. -/
def FeatureModule.guarded (feature : FeatureModule) : Bool :=
  feature.roles.any fun roles => 0 < roles.length

/-! ### The paths that are declared -/

mutual
/-- The paths of a route, and after them those of its children. -/
def pathsOf : RouteDefinition → List (Option String)
  | .mk path children => path.own ++ children.pathsOf
def RouteChildren.pathsOf : RouteChildren → List (Option String)
  | .undefined => []
  | .one route => Web.pathsOf route
  | .array routes => pathsOfAll routes
def pathsOfAll : List RouteDefinition → List (Option String)
  | [] => []
  | route :: routes => pathsOf route ++ pathsOfAll routes
end

/-- Every path that the features declare. -/
def collectRoutePaths (features : List FeatureModule) : List (Option String) :=
  features.flatMap fun feature => feature.routes.flatMap pathsOf

/-- The declared paths that have been seen before, each once. -/
def duplicateRoutePaths (features : List FeatureModule) : List (Option String) :=
  repeats (collectRoutePaths features)

theorem pathsOfAll_eq_flatMap (routes : List RouteDefinition) :
    pathsOfAll routes = routes.flatMap pathsOf := by
  induction routes with
  | nil => rfl
  | cons route routes ih => rw [pathsOfAll, ih, List.flatMap_cons]

theorem pathsOf_mk (path : RoutePath) (children : RouteChildren) :
    pathsOf (.mk path children) = path.own ++ children.toArray.flatMap pathsOf := by
  rw [pathsOf]
  cases children with
  | undefined => rfl
  | one route => rw [RouteChildren.pathsOf, RouteChildren.toArray, List.flatMap_singleton]
  | array routes => rw [RouteChildren.pathsOf, RouteChildren.toArray, pathsOfAll_eq_flatMap]

/-! ### The mounted tree -/

/-- What is mounted: the shell's own elements, and the routes of the features. -/
inductive Mount where
  /-- `<Route path="/" component={AdminShell}>`. -/
  | admin
  /-- The routes of a feature without roles, side by side. -/
  | fragment
  /-- `<Route path="">` around the routes of a feature with roles. -/
  | guard
  /-- `<Route path="*" component={NotFound} />`. -/
  | fallback
  | route (path : RoutePath)
  deriving DecidableEq, Repr

/-- The `path` of the element, if it is a `<Route>`. -/
def Mount.path : Mount → Option RoutePath
  | admin => some (.one "/")
  | fragment => none
  | guard => some (.one "")
  | fallback => some (.one "*")
  | route path => some path

/-- The paths that a feature declares with the element. -/
def Mount.declared : Mount → List (Option String)
  | route path => path.own
  | _ => []

mutual
def toRouteElement : RouteDefinition → RoseTree Mount
  | .mk path children => .node (.route path) children.nested
def RouteChildren.nested : RouteChildren → List (RoseTree Mount)
  | .undefined => []
  | .one route => [toRouteElement route]
  | .array routes => toRouteElements routes
/-- `<Route>` elements for the routes, nested as they are. -/
def toRouteElements : List RouteDefinition → List (RoseTree Mount)
  | [] => []
  | route :: routes => toRouteElement route :: toRouteElements routes
end

/-- What the shell mounts for a feature. -/
def FeatureModule.element (feature : FeatureModule) : RoseTree Mount :=
  .node (if feature.guarded then .guard else .fragment) (toRouteElements feature.routes)

/-- Every feature's routes, and a catch-all. -/
def featureRoutes (features : List FeatureModule) : List (RoseTree Mount) :=
  features.map FeatureModule.element ++ [.node .fallback []]

/-- The admin route group, with the routes of the features below it. -/
def shell (features : List FeatureModule) : RoseTree Mount := .node .admin (featureRoutes features)

/-! ### Declared, and mounted -/

mutual
theorem flat_toRouteElement : ∀ route : RouteDefinition,
    (toRouteElement route).flat Mount.declared = pathsOf route
  | .mk path children => by
      rw [toRouteElement, RoseTree.flat, flatAll_nested children, pathsOf, Mount.declared]
theorem flatAll_nested : ∀ children : RouteChildren,
    flatAll Mount.declared children.nested = children.pathsOf
  | .undefined => rfl
  | .one route => by
      rw [RouteChildren.nested, flatAll, flatAll, List.append_nil, flat_toRouteElement route,
        RouteChildren.pathsOf]
  | .array routes => by
      rw [RouteChildren.nested, flatAll_toRouteElements routes, RouteChildren.pathsOf]
theorem flatAll_toRouteElements : ∀ routes : List RouteDefinition,
    flatAll Mount.declared (toRouteElements routes) = pathsOfAll routes
  | [] => rfl
  | route :: routes => by
      rw [toRouteElements, flatAll, flat_toRouteElement route, flatAll_toRouteElements routes,
        pathsOfAll]
end

theorem flat_element (feature : FeatureModule) :
    feature.element.flat Mount.declared = feature.routes.flatMap pathsOf := by
  have hnone : Mount.declared (if feature.guarded then .guard else .fragment) = [] := by
    split <;> rfl
  rw [FeatureModule.element, RoseTree.flat, hnone, List.nil_append, flatAll_toRouteElements,
    pathsOfAll_eq_flatMap]

/-- What the features declare is what the mounted tree lists. -/
theorem collectRoutePaths_eq (features : List FeatureModule) :
    collectRoutePaths features = (shell features).flat Mount.declared := by
  have hadmin : Mount.admin.declared = [] := rfl
  have hfallback :
      [RoseTree.node Mount.fallback []].flatMap (RoseTree.flat Mount.declared) = [] := rfl
  rw [shell, RoseTree.flat_node, hadmin, List.nil_append, featureRoutes, List.flatMap_append,
    hfallback, List.append_nil, List.flatMap_map, collectRoutePaths]
  exact congrArg features.flatMap (funext fun feature => (flat_element feature).symm)

/-- **Reports.** A path is reported when it is declared at two places. -/
theorem mem_duplicateRoutePaths_iff {features : List FeatureModule} {own : Option String} :
    own ∈ duplicateRoutePaths features ↔ (shell features).OccursTwice Mount.declared own := by
  rw [duplicateRoutePaths, mem_repeats_iff, collectRoutePaths_eq, RoseTree.duplicate_flat_iff]

end AuthApp.Web
