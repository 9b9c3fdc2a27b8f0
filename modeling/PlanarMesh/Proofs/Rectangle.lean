import PlanarMesh.Proofs.Build.Border
import PlanarMesh.Proofs.Building
import PlanarMesh.Proofs.EdgeOutcome
import PlanarMesh.Proofs.Flood.Components

/-!
# Rectangles

A rectangle of cells is built from the triangles of a grid in an empty mesh, so what comes of it is
a drawing of the grid and nothing else (`Gridded`).  What is known of the grid is read off the mesh:
around each node half-edges lead along the headings, the half-edges without a face run along the
border, and faces are adjacent where their triangles share a side.

The loops and the components are told by one member each.  Every boundary loop passes the node at
the least corner, where only one half-edge has no face (`Gridded.mem_of_circles`), and every
component has the first face (`Gridded.exists_first`).
-/

namespace PlanarMesh

/-- If lists have a member in common and none of them repeats a member of another, there is only
one. -/
theorem exists_eq_singleton {α : Type} {ls : List (List α)} {a : α} (nodup : ls.flatten.Nodup)
    (common : ∀ l ∈ ls, a ∈ l) (mem : a ∈ ls.flatten) : ∃ l, ls = [l] := by
  rcases ls with _ | ⟨l, _ | ⟨l', rest⟩⟩
  · cases mem
  · exact ⟨l, rfl⟩
  · rw [List.flatten_cons, List.nodup_append'] at nodup
    have here := common l List.mem_cons_self
    have there := common l' (List.mem_cons_of_mem l List.mem_cons_self)
    exact absurd (List.mem_append_left _ there) (nodup.2.2 here)

namespace Mesh

open TriangleList (gridTriangles innerPlaces place sides Skirts)

variable {m base : Mesh} {ns : List NodeId} {nx ny i j v x y : Nat} {n : NodeId}
  {g h : HalfedgeId} {f : FaceId} {fs : List FaceId} {points : List Point} {l : List HalfedgeId}

/-! ## Counting half-edges -/

/-- A half-edge is the side of a face or on the boundary. -/
theorem Sound.halfedgeCount_eq (sound : m.Sound) (nodup : l.Nodup)
    (mem_iff : ∀ h, h ∈ l ↔ m.Free h) : m.halfedgeCount = 3 * m.faceCount + l.length := by
  let reports (h : HalfedgeId) : Bool := (m.halfedge? h).any fun record => record.face.isSome
  have faced : m.halfedgeIds.countP reports = 3 * m.faceCount := sound.facedCount_eq
  have free : m.halfedgeIds.countP (fun h => ! reports h) = l.length := by
    refine countP_eq_length_of_mem_iff m.nodup_halfedgeIds nodup fun h => ?_
    rw [mem_iff, mem_halfedgeIds, Free, faceOf?, containsHalfedge]
    cases found : m.halfedge? h with
    | none => simp
    | some record => simp [reports, found]
  rw [← length_halfedgeIds, List.length_eq_countP_add_countP reports, faced]
  simpa using free

/-! ## Faces of drawings -/

/-- A face with the corners of a triangle is reported along its sides. -/
theorem Drawn.reports {triangles : List (Corners Nat)} {lines : List (Nat × Nat)}
    {t : Corners Nat} (drawn : base.Drawn ns triangles lines m) (corners : m.HasCorners ns t f)
    (side : (v, x) ∈ t.sides) (spans : m.Spans ns h v x) : m.faceOf? h = some (some f) := by
  rcases corners with ⟨a, b, c, atA, atB, atC, told⟩
  have corner : m.HasCorner a f := ⟨_, told, by simp⟩
  rcases drawn.sound.exists_corners corner.live with
    ⟨h₁, h₂, h₃, a', b', c', triangle, chain, told'⟩
  obtain ⟨rfl, rfl, rfl⟩ : a = a' ∧ b = b' ∧ c = c' := by simpa using told.symm.trans told'
  have side₁ : m.Spans ns h₁ t.a t.b := ⟨a, b, atA, atB, chain.side₁⟩
  have side₂ : m.Spans ns h₂ t.b t.c := ⟨b, c, atB, atC, chain.side₂⟩
  have side₃ : m.Spans ns h₃ t.c t.a := ⟨c, a, atC, atA, chain.side₃⟩
  rw [triangle.reports_iff, Corners.mem_toList]
  exact (drawn.side_iff side₁ side₂ side₃ spans).2 side

/-! ## Grids -/

/-- `m` has a grid of `nx` times `ny` cells and nothing else. -/
structure Gridded (nx ny : Nat) (points : List Point) (ns : List NodeId) (base : Mesh)
    (fs : List FaceId) (m : Mesh) : Prop where
  columns : 0 < nx
  rows : 0 < ny
  enough : points.length = (ny + 1) * (nx + 1)
  planted : empty.Planted points ns base
  drawn : base.Drawn ns (gridTriangles nx ny) (sides (gridTriangles nx ny)) m
  filled : base.Filled ns (gridTriangles nx ny) fs m

namespace Gridded

variable (grid : Gridded nx ny points ns base fs m)

include grid

theorem builds : empty.Builds ⟨points, gridTriangles nx ny⟩ ns m :=
  builds_of_drawn sound_empty grid.planted grid.drawn grid.filled

theorem containsNode_iff : m.containsNode n = true ↔ n ∈ ns := by
  rw [grid.builds.nodes, or_iff_left]
  simp [containsNode, node?, empty]

theorem containsFace_iff : m.containsFace f = true ↔ f ∈ fs := by
  have faceless : base.containsFace f = false := by
    rw [containsFace, face?, grid.planted.faces]
    simp [empty]
  rw [grid.filled.containsFace, faceless]
  simp

theorem length_nodes : ns.length = (ny + 1) * (nx + 1) := by
  rw [← grid.planted.placed.length_eq, grid.enough]

/-- Every node stands in a column and a row. -/
theorem exists_place (mem : n ∈ ns) : ∃ i j, i ≤ nx ∧ j ≤ ny ∧ ns[place nx i j]? = some n := by
  rcases List.mem_iff_getElem?.1 mem with ⟨v, atV⟩
  have bound := (List.getElem?_eq_some_iff.1 atV).1
  rw [grid.length_nodes] at bound
  rcases TriangleList.exists_place bound with ⟨i, j, left, right, rfl⟩
  exact ⟨i, j, left, right, atV⟩

theorem exists_node (left : i ≤ nx) (right : j ≤ ny) : ∃ n, ns[place nx i j]? = some n := by
  have bound := TriangleList.place_lt left right
  rw [← grid.length_nodes] at bound
  exact ⟨_, List.getElem?_eq_getElem bound⟩

theorem mem_of_origin? (start : m.origin? h = some n) : n ∈ ns :=
  grid.containsNode_iff.1 (grid.drawn.sound.origin_live h n start)

theorem exists_start (start : m.origin? h = some n) :
    ∃ v x, ns[v]? = some n ∧ m.Spans ns h v x := by
  rcases List.mem_iff_getElem?.1 (grid.mem_of_origin? start) with ⟨v, atV⟩
  rcases grid.drawn.exists_spans atV start with ⟨x, spans, -⟩
  exact ⟨v, x, atV, spans⟩

/-! ## Headings -/

theorem exists_heading (spans : m.Spans ns h v x) :
    ∃ d : Heading, (x : Int) = v + d.offset nx := by
  rcases grid.drawn.line_of_spans spans with side | side
  · rcases TriangleList.mem_sides_grid_iff.1 side with ⟨d, -, heads⟩
    exact ⟨d, heads⟩
  · rcases TriangleList.mem_sides_back_grid_iff.1 side with ⟨d, -, heads⟩
    exact ⟨d.left, heads⟩

theorem exists_spans {d : Heading} (sector : d.Sector nx ny v) :
    ∃ h x, m.Spans ns h v x ∧ (x : Int) = v + d.offset nx := by
  rcases sector.exists_end with ⟨⟨x, heads⟩, -⟩
  rcases grid.drawn.line v x (TriangleList.mem_sides_grid_iff.2 ⟨d, sector, heads⟩) with
    ⟨h, spans⟩
  exact ⟨h, x, spans, heads⟩

/-- Where there is a triangle beside every heading, six half-edges start. -/
theorem degree_of_sectors (sectors : ∀ d : Heading, d.Sector nx ny v) (atV : ns[v]? = some n) :
    m.degree n = .ok 6 := by
  choose out x spans heads using fun d => grid.exists_spans (sectors d)
  have live := grid.containsNode_iff.2 (List.mem_of_getElem? atV)
  rcases grid.drawn.sound.exists_tour live with ⟨l, tour⟩
  have nodup : (Heading.all.map out).Nodup := by
    refine Heading.nodup_all.map fun d e same => ?_
    have ends := (spans d).ends_unique grid.drawn.ground (same ▸ spans e)
    rw [← Heading.offset_inj grid.columns]
    have first := heads d
    have second := heads e
    omega
  have listed : l.Perm (Heading.all.map out) := by
    refine (List.perm_ext_iff_of_nodup (Cycle.nodup_coe_iff.1 tour.ring.nodup) nodup).2
      fun h => ?_
    have starts : h ∈ l ↔ m.origin? h = some n := tour.ring.mem_iff h
    rw [starts, List.mem_map]
    constructor
    · intro start
      rcases grid.drawn.exists_spans atV start with ⟨x', spans', -⟩
      rcases grid.exists_heading spans' with ⟨d, heads'⟩
      obtain rfl : x d = x' := by
        have same := heads d
        omega
      exact ⟨d, d.mem_all, grid.drawn.unique _ _ v (x d) (spans d) spans'⟩
    · rintro ⟨d, -, rfl⟩
      exact (spans d).starts atV
  rw [degree, tour.lists]
  simp only [bind, Except.bind, pure, Except.pure, listed.length_eq]
  rfl

/-! ## The border -/

theorem exists_free_iff : (∃ h, m.Free h ∧ m.Spans ns h v x) ↔ Skirts nx ny v x := by
  rw [grid.drawn.exists_free_iff (List.Subset.refl _),
    TriangleList.exit_grid_iff grid.columns grid.rows]

/-- At most one half-edge without a face starts at each node. -/
theorem free_unique (free : m.Free g) (free' : m.Free h) (start : m.origin? g = some n)
    (start' : m.origin? h = some n) : g = h := by
  rcases grid.exists_start start with ⟨v, x, atV, spans⟩
  rcases grid.drawn.exists_spans atV start' with ⟨y, spans', -⟩
  have skirts := grid.exists_free_iff.1 ⟨g, free, spans⟩
  have skirts' := grid.exists_free_iff.1 ⟨h, free', spans'⟩
  obtain rfl := skirts.unique grid.columns grid.rows skirts'
  exact grid.drawn.unique g h v x spans spans'

theorem exists_free_start_iff (atV : ns[v]? = some n) :
    (∃ h, m.Free h ∧ m.origin? h = some n) ↔ ∃ x, Skirts nx ny v x := by
  constructor
  · rintro ⟨h, free, start⟩
    rcases grid.drawn.exists_spans atV start with ⟨x, spans, -⟩
    exact ⟨x, grid.exists_free_iff.1 ⟨h, free, spans⟩⟩
  · rintro ⟨x, skirts⟩
    rcases grid.exists_free_iff.2 skirts with ⟨h, free, spans⟩
    exact ⟨h, free, spans.starts atV⟩

theorem exists_origin (left : i ≤ nx) (right : j ≤ ny) (atPlace : ns[place nx i j]? = some n) :
    ∃ h, m.origin? h = some n := by
  rcases Heading.exists_inside grid.columns grid.rows left right with ⟨d, inside⟩
  rcases grid.exists_spans ((Heading.sector_place_iff left right).2 inside) with ⟨h, x, spans, -⟩
  exact ⟨h, spans.starts atPlace⟩

/-- The nodes inside are those in columns and rows between the first and the last. -/
theorem interior_iff (left : i ≤ nx) (right : j ≤ ny) (atPlace : ns[place nx i j]? = some n) :
    m.Interior n ↔ (0 < i ∧ i < nx) ∧ 0 < j ∧ j < ny := by
  rw [grid.drawn.sound.interior_iff, and_iff_right (grid.exists_origin left right atPlace),
    grid.exists_free_start_iff atPlace,
    TriangleList.exists_skirts_iff grid.columns grid.rows left right, not_not]

theorem exists_place_of_interior (interior : m.Interior n) :
    ∃ i j, (0 < i ∧ i < nx) ∧ (0 < j ∧ j < ny) ∧ ns[place nx i j]? = some n := by
  rcases interior.1 with ⟨h, start⟩
  rcases grid.exists_place (grid.mem_of_origin? start) with ⟨i, j, left, right, atPlace⟩
  rcases (grid.interior_iff left right atPlace).1 interior with ⟨column, row⟩
  exact ⟨i, j, column, row, atPlace⟩

theorem degree_of_interior (interior : m.Interior n) : m.degree n = .ok 6 := by
  rcases grid.exists_place_of_interior interior with ⟨i, j, column, row, atPlace⟩
  have inside := Heading.forall_inside_iff.2 ⟨column, row⟩
  have sectors (d : Heading) : d.Sector nx ny (place nx i j) :=
    (Heading.sector_place_iff column.2.le row.2.le).2 (inside d)
  exact grid.degree_of_sectors sectors atPlace

/-! ## The boundary loop -/

/-- A loop of half-edges without a face passes the node at the least corner. -/
theorem mem_of_circles (circles : m.Circles g l) (frees : ∀ g ∈ l, m.Free g) (free : m.Free h)
    (atFirst : ns[place nx 0 0]? = some n) (start : m.origin? h = some n) : h ∈ l := by
  -- The loop passes a place if the half-edge without a face that starts there is on it.
  let passes (v : Nat) : Prop := ∃ g ∈ l, ∃ k, ns[v]? = some k ∧ m.origin? g = some k
  have passes_iff {g : HalfedgeId} {v : Nat} {k : NodeId} (free : m.Free g)
      (atV : ns[v]? = some k) (start : m.origin? g = some k) : passes v ↔ g ∈ l := by
    constructor
    · rintro ⟨g', mem, k', atV', start'⟩
      cases atV.symm.trans atV'
      rwa [grid.free_unique free (frees g' mem) start start']
    · exact fun mem => ⟨g, mem, k, atV, start⟩
  have closed (v x : Nat) (skirts : Skirts nx ny v x) : passes v ↔ passes x := by
    rcases grid.exists_free_iff.2 skirts with ⟨g, free, k, k', atV, atX, leads⟩
    rcases grid.drawn.sound.exists_free free with ⟨g', -, next, -, free', -⟩
    have start' := (grid.drawn.sound.origin?_next? next).trans leads.finish
    rw [passes_iff free atV leads.start, passes_iff free' atX start']
    exact circles.mem_iff grid.drawn.sound next
  have first := circles.start_mem
  rcases containsHalfedge_iff_origin?.1
    (containsHalfedge_iff_faceOf?.2 ⟨none, frees g first⟩) with ⟨k, start'⟩
  rcases grid.exists_start start' with ⟨v, x, atV, spans⟩
  have skirts := grid.exists_free_iff.1 ⟨g, frees g first, spans⟩
  have passed := (passes_iff (frees g first) atV start').2 first
  exact (passes_iff free atFirst start).1
    ((TriangleList.skirts_iff_of_closed closed skirts).1 passed)

/-- There is one boundary loop. -/
theorem exists_boundaryLoop :
    ∃ l, m.boundaryLoops = .ok [l] ∧ l.Nodup ∧ ∀ h, h ∈ l ↔ m.Free h := by
  rcases grid.drawn.sound.exists_boundaryLoops with ⟨loops, scanned, beyond⟩
  have mem_iff (h : HalfedgeId) : h ∈ loops.flatten ↔ m.Free h := by
    rw [beyond.mem_iff, isBoundary_eq_true_iff]
    simp
  rcases grid.exists_node (Nat.zero_le nx) (Nat.zero_le ny) with ⟨n, atFirst⟩
  rcases (grid.exists_free_start_iff atFirst).2 ⟨_, .north grid.rows⟩ with ⟨h, free, start⟩
  have common : ∀ l ∈ loops, h ∈ l := by
    intro l mem
    rcases beyond.loop l mem with ⟨g, circles, -, frees⟩
    exact grid.mem_of_circles circles (fun g mem => isBoundary_eq_true_iff.1 (frees g mem)) free
      atFirst start
  rcases exists_eq_singleton beyond.nodup common ((mem_iff h).2 free) with ⟨l, rfl⟩
  refine ⟨l, scanned, ?_, ?_⟩
  · simpa using beyond.nodup
  · simpa using mem_iff

/-! ## Counts -/

/-- The boundary passes every node once that is not inside. -/
theorem perm_nodes {inner : List NodeId} (nodup : l.Nodup) (mem_iff : ∀ h, h ∈ l ↔ m.Free h)
    (nodup' : inner.Nodup) (mem_iff' : ∀ n, n ∈ inner ↔ m.Interior n) :
    (l.map m.origin? ++ inner.map some).Perm (ns.map some) := by
  have sound := grid.drawn.sound
  have starts {h : HalfedgeId} (mem : h ∈ l) : ∃ n, m.origin? h = some n :=
    containsHalfedge_iff_origin?.1 (containsHalfedge_iff_faceOf?.2 ⟨none, (mem_iff h).1 mem⟩)
  have once : (l.map m.origin? ++ inner.map some).Nodup := by
    refine List.nodup_append'.2 ⟨?_, nodup'.map (Option.some_injective _), ?_⟩
    · refine nodup.map_on fun g mem h mem' same => ?_
      rcases starts mem with ⟨n, start⟩
      exact grid.free_unique ((mem_iff g).1 mem) ((mem_iff h).1 mem') start (same ▸ start)
    · intro o outer mem
      rcases List.mem_map.1 mem with ⟨n, inside, rfl⟩
      rcases List.mem_map.1 outer with ⟨h, mem', start⟩
      exact (sound.interior_iff.1 ((mem_iff' n).1 inside)).2 ⟨h, (mem_iff h).1 mem', start⟩
  refine (List.perm_ext_iff_of_nodup once
    (grid.planted.nodup.map (Option.some_injective _))).2 fun o => ?_
  rw [List.mem_append, List.mem_map, List.mem_map, List.mem_map]
  constructor
  · rintro (⟨h, mem, rfl⟩ | ⟨n, inside, rfl⟩)
    · rcases starts mem with ⟨n, start⟩
      exact ⟨n, grid.mem_of_origin? start, start.symm⟩
    · rcases ((mem_iff' n).1 inside).1 with ⟨h, start⟩
      exact ⟨n, grid.mem_of_origin? start, rfl⟩
  · rintro ⟨n, mem, rfl⟩
    rcases grid.exists_place mem with ⟨i, j, left, right, atPlace⟩
    by_cases outer : ∃ h, m.Free h ∧ m.origin? h = some n
    · rcases outer with ⟨h, free, start⟩
      exact .inl ⟨h, (mem_iff h).2 free, start⟩
    · refine .inr ⟨n, (mem_iff' n).2 ?_, rfl⟩
      exact sound.interior_iff.2 ⟨grid.exists_origin left right atPlace, outer⟩

theorem length_interior {inner : List NodeId} (nodup : inner.Nodup)
    (mem_iff : ∀ n, n ∈ inner ↔ m.Interior n) : inner.length = (nx - 1) * (ny - 1) := by
  have resolved {v : Nat} (mem : v ∈ innerPlaces nx ny) : ∃ n ∈ inner, ns[v]? = some n := by
    rcases TriangleList.mem_innerPlaces.1 mem with ⟨i, j, column, row, rfl⟩
    rcases grid.exists_node column.2.le row.2.le with ⟨n, atPlace⟩
    exact ⟨n, (mem_iff n).2 ((grid.interior_iff column.2.le row.2.le atPlace).2 ⟨column, row⟩),
      atPlace⟩
  have once : ((innerPlaces nx ny).map fun v => ns[v]?).Nodup := by
    refine TriangleList.nodup_innerPlaces.map_on fun v mem v' mem' same => ?_
    rcases resolved mem with ⟨n, -, atV⟩
    exact grid.drawn.ground.place_unique atV (same ▸ atV)
  have listed : (inner.map some).Perm ((innerPlaces nx ny).map fun v => ns[v]?) := by
    refine (List.perm_ext_iff_of_nodup (nodup.map (Option.some_injective _)) once).2 fun o => ?_
    rw [List.mem_map, List.mem_map]
    constructor
    · rintro ⟨n, mem, rfl⟩
      rcases grid.exists_place_of_interior ((mem_iff n).1 mem) with ⟨i, j, column, row, atPlace⟩
      exact ⟨_, TriangleList.mem_innerPlaces.2 ⟨i, j, column, row, rfl⟩, atPlace⟩
    · rintro ⟨v, mem, rfl⟩
      rcases resolved mem with ⟨n, inside, atV⟩
      exact ⟨n, inside, atV.symm⟩
  rw [← TriangleList.length_innerPlaces, ← List.length_map (f := some), listed.length_eq,
    List.length_map]

/-! ## The component -/

theorem exists_face {t : Corners Nat} (mem : t ∈ gridTriangles nx ny) :
    ∃ f ∈ fs, m.HasCorners ns t f :=
  exists_related grid.filled.corners.flip mem

/-- Along each side of a triangle a half-edge reports the faces with its corners. -/
theorem exists_reports {t : Corners Nat} (mem : t ∈ gridTriangles nx ny)
    (side : (v, x) ∈ t.sides) : ∃ h, m.Spans ns h v x ∧
      ∀ f, m.HasCorners ns t f → m.faceOf? h = some (some f) := by
  rcases grid.drawn.line v x (List.mem_flatMap.2 ⟨t, mem, side⟩) with ⟨h, spans⟩
  exact ⟨h, spans, fun f corners => grid.drawn.reports corners side spans⟩

/-- From the first face paths lead to all others. -/
theorem exists_first : ∃ f, m.containsFace f = true ∧
    ∀ g, m.containsFace g = true → (m.faceGraph .edge).Reachable f g := by
  have least : TriangleList.lowerTriangle nx (place nx 0 0) ∈ gridTriangles nx ny :=
    TriangleList.mem_gridTriangles.2 ⟨_, ⟨0, 0, grid.columns, grid.rows, rfl⟩, .inl rfl⟩
  rcases grid.exists_face least with ⟨f, mem, corners⟩
  have paths : ∀ t ∈ gridTriangles nx ny, ∀ g, m.HasCorners ns t g →
      (m.faceGraph .edge).Reachable f g := by
    apply TriangleList.forall_grid_of_shared
    · intro t mem t' mem' v x side side' holds g corners'
      rcases grid.exists_face mem with ⟨e, -, corners⟩
      rcases grid.exists_reports mem side with ⟨h, spans, reports⟩
      have adjacent : m.Adjacent e g :=
        ⟨h, reports e corners, grid.drawn.reports corners' side' spans.pair⟩
      have near : (m.faceGraph .edge).Adj e g :=
        ⟨grid.drawn.sound.ne_of_adjacent adjacent, adjacent⟩
      exact (holds e corners).trans near.reachable
    · intro g corners'
      rcases grid.exists_reports least (Corners.mem_sides.2 (.inl ⟨rfl, rfl⟩)) with
        ⟨h, -, reports⟩
      cases (reports f corners).symm.trans (reports g corners')
      exact .rfl
  refine ⟨f, grid.containsFace_iff.2 mem, fun g live => ?_⟩
  rcases exists_related grid.filled.corners (grid.containsFace_iff.1 live) with
    ⟨t, mem', corners'⟩
  exact paths t mem' g corners'

theorem exists_component :
    ∃ c, m.components = .ok [c] ∧ ∀ f, f ∈ c ↔ m.containsFace f = true := by
  rcases grid.drawn.sound.exists_components with ⟨cs, result, components⟩
  rcases grid.exists_first with ⟨f, live, reachable⟩
  have common : ∀ c ∈ cs, f ∈ c := by
    intro c mem
    rcases components.connected c mem with ⟨g, head, mem_iff⟩
    have listed := List.mem_flatten.2 ⟨c, mem, List.mem_of_head? head⟩
    exact (mem_iff f).2 (reachable g ((components.mem_flatten g).1 listed)).symm
  rcases exists_eq_singleton components.nodup common ((components.mem_flatten f).2 live) with
    ⟨c, rfl⟩
  exact ⟨c, result, by simpa using components.mem_flatten⟩

end Gridded

/-! ## Rectangles -/

/-- What can be seen of a rectangle of `nx` times `ny` cells. -/
structure Rectangular (m : Mesh) (nx ny : Nat) : Prop where
  nodeCount : m.nodeCount = (nx + 1) * (ny + 1)
  edgeCount : m.edgeCount = nx * (ny + 1) + ny * (nx + 1) + nx * ny
  faceCount : m.faceCount = 2 * nx * ny
  checks : ∀ options, m.checkTopology options = .ok ()
  component : ∃ c, m.components = .ok [c] ∧ ∀ f, f ∈ c ↔ m.containsFace f = true
  boundary : ∃ l, m.boundaryLoops = .ok [l] ∧ l.length = 2 * (nx + ny)
  interior : ∃ classes, m.classifyNodes = .ok classes ∧ classes.interior.Nodup ∧
    classes.interior.length = (nx - 1) * (ny - 1) ∧ ∀ n ∈ classes.interior, m.degree n = .ok 6

theorem Gridded.rectangular (grid : Gridded nx ny points ns base fs m) : m.Rectangular nx ny := by
  have sound := grid.drawn.sound
  rcases grid.exists_boundaryLoop with ⟨l, scanned, nodup, mem_iff⟩
  rcases sound.exists_classifyNodes with ⟨classes, -, classified, -, -, -, -, nodup'⟩
  rcases sound.exists_interior with ⟨classes', classified', mem_iff'⟩
  cases classified.symm.trans classified'
  have inside := grid.length_interior nodup' mem_iff'
  have around : l.length + (nx - 1) * (ny - 1) = (ny + 1) * (nx + 1) := by
    have nodes := (grid.perm_nodes nodup mem_iff nodup' mem_iff').length_eq
    simpa [inside, grid.length_nodes] using nodes
  have sides := sound.halfedgeCount_eq nodup mem_iff
  have faces : m.faceCount = 2 * nx * ny := by
    rw [grid.builds.faceCount, TriangleList.length_gridTriangles]
    exact Nat.zero_add _
  have border : l.length = 2 * (nx + ny) := by
    obtain ⟨a, rfl⟩ := Nat.exists_eq_add_one_of_ne_zero (Nat.ne_of_gt grid.columns)
    obtain ⟨b, rfl⟩ := Nat.exists_eq_add_one_of_ne_zero (Nat.ne_of_gt grid.rows)
    have split : (b + 1 + 1) * (a + 1 + 1) = 2 * (a + 1 + (b + 1)) + a * b := by ring
    exact Nat.add_right_cancel (around.trans split)
  constructor
  case nodeCount =>
    rw [grid.builds.nodeCount, grid.enough, Nat.mul_comm]
    exact Nat.zero_add _
  case edgeCount =>
    refine Nat.mul_left_cancel Nat.two_pos (sides.trans ?_)
    rw [faces, border]
    ring
  case faceCount => exact faces
  case checks => exact sound.checkTopology
  case component => exact grid.exists_component
  case boundary => exact ⟨l, scanned, border⟩
  case interior =>
    exact ⟨classes, classified, nodup', inside, fun n mem =>
      grid.degree_of_interior ((mem_iff' n).1 mem)⟩

/-- A rectangle of cells can be built, whatever is replaced by it. -/
theorem rectangular_of_rebuildRectangle {min max : Point} (columns : 1 ≤ nx) (rows : 1 ≤ ny)
    (wide : min.x < max.x) (high : min.y < max.y) (s : Session) :
    ∃ t, Edit.rebuildRectangle nx ny min max s = .ok () t ∧ t.mesh.Rectangular nx ny := by
  rcases TriangleList.exists_rectangle columns rows wide high with ⟨points, enough, listed⟩
  have buildable := TriangleList.buildable_grid columns enough
  have ends : (do let _ ← Edit.build ⟨points, gridTriangles nx ny⟩).Ends ⟨empty, s.journal⟩
      (fun _ m => m.Rectangular nx ny) (fun _ _ => False) := by
    refine (Edit.build_draws (s := ⟨empty, s.journal⟩) sound_empty _).bind ?_ ?_
    · rintro ns t ⟨-, base, fs, planted, drawn, filled⟩
      exact Gridded.rectangular ⟨columns, rows, enough, planted, drawn, filled⟩
    · exact fun _ _ refused => refused buildable
  rcases ends.exists_ok fun _ _ => id with ⟨⟨⟩, t, built, rectangular⟩
  refine ⟨t, ?_, rectangular⟩
  rw [Edit.rebuildRectangle, listed]
  exact Edit.replacing_of_ok built

/-- Three columns and two rows of cells. -/
theorem rectangular_three_by_two :
    let min : Point := ⟨0, 0⟩
    let max : Point := ⟨3, 2⟩
    1 ≤ 3 ∧ 1 ≤ 2 ∧ min.x < max.x ∧ min.y < max.y ∧
      ∃ t, Edit.rebuildRectangle 3 2 min max (.on empty) = .ok () t ∧ t.mesh.Rectangular 3 2 := by
  intro min max
  have wide : min.x < max.x := by decide +kernel
  have high : min.y < max.y := by decide +kernel
  exact ⟨by decide, by decide, wide, high,
    rectangular_of_rebuildRectangle (by decide) (by decide) wide high (.on empty)⟩

end Mesh

end PlanarMesh
