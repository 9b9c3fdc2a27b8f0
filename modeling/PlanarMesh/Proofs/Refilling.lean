import PlanarMesh.Proofs.FaceOutcome

/-!
# Taking faces off and putting them back

Taking a face off frees its sides and moves no pointer.  What is left is an `Opening`, a loop of
three half-edges without a face.  A face on an opening needs no splicing: at each of its corners the
sides follow each other already, so that it fits, and all rings stay (`Opening.fits`,
`AddedFace.ring_of_opening`).

Hence the faces that were taken off can be put back one after the other, in any order and from any
of their sides on, and only their handles are new (`refilled_of_operations`).  How many half-edges
are free around the corners in the meantime does not matter.
-/

namespace PlanarMesh

namespace Mesh

variable {m m' m'' : Mesh} {f : FaceId} {fs fs' gs gs' : List FaceId} {t : Corners HalfedgeId}
  {ts ts' : List (Corners HalfedgeId)}

/-! ## Taking faces off -/

/-- A live face is taken off. -/
theorem Sound.outcome_removeFace (sound : m.Sound) (live : m.containsFace f = true) :
    ∃ m', (Operation.removeFace f).outcome m = (.ok .done, m') ∧ m.Cleared [f] m' := by
  have ends : (Operation.removeFace f).edit.Ends (Session.on m)
      (fun reply m' => reply = .done ∧ m.Cleared [f] m') (fun _ _ => False) := by
    apply (Edit.removeFace_ends (s := Session.on m) sound).bind
    · rintro - s ⟨t, removed⟩
      exact ⟨rfl, removed.cleared live⟩
    · rintro error m' ⟨dead, -⟩
      cases live.symm.trans dead
  rcases Operation.outcome_of_ends ends with ⟨_, m', ended, rfl, cleared⟩ | ⟨_, _, _, impossible⟩
  · exact ⟨m', ended, cleared⟩
  · exact impossible.elim

/-- Different live faces are taken off one after the other. -/
theorem Sound.run_removeFaces (sound : m.Sound) (nodup : fs.Nodup)
    (live : ∀ f ∈ fs, m.containsFace f = true) :
    m.replies (fs.map .removeFace) = fs.map (fun _ => .ok .done) ∧
      m.Cleared fs (m.run (fs.map .removeFace)) := by
  induction fs generalizing m with
  | nil => exact ⟨rfl, .refl sound⟩
  | cons f fs inductionHypothesis =>
    rcases List.nodup_cons.1 nodup with ⟨other, nodup⟩
    rcases List.forall_mem_cons.1 live with ⟨here, live⟩
    rcases sound.outcome_removeFace here with ⟨m₁, ended, cleared⟩
    have live₁ : ∀ g ∈ fs, m₁.containsFace g = true := by
      intro g mem
      refine (cleared.containsFace g).2 ⟨live g mem, fun same => other ?_⟩
      rwa [← List.mem_singleton.1 same]
    rcases inductionHypothesis cleared.sound nodup live₁ with ⟨answers, rest⟩
    have result : (Operation.removeFace f).result m = m₁ := congrArg Prod.snd ended
    simp only [List.map_cons, replies_cons, run_cons, result, ended, answers, true_and]
    exact cleared.trans rest

/-! ## Openings -/

/-- The half-edges are a loop, and none of them has a face. -/
structure Opening (m : Mesh) (t : Corners HalfedgeId) : Prop where
  next_a : m.next? t.a = some t.b
  next_b : m.next? t.b = some t.c
  next_c : m.next? t.c = some t.a
  free : ∀ h ∈ t.toList, m.Free h

/-- Where a face was taken off, its sides are left. -/
theorem Cleared.opening (cleared : m.Cleared fs m') (triangle : m.Triangle f t) (mem : f ∈ fs) :
    m'.Opening t where
  next_a := (cleared.next? _).trans triangle.next_a
  next_b := (cleared.next? _).trans triangle.next_b
  next_c := (cleared.next? _).trans triangle.next_c
  free h side := cleared.free h f mem ((triangle.reports_iff h).2 side)

/-- A face fits on an opening without moving anything. -/
theorem Opening.fits (opening : m.Opening t) (sound : m.Sound) : m.Fits t.a t.b t.c where
  free₁ := opening.free t.a (by simp)
  free₂ := opening.free t.b (by simp)
  free₃ := opening.free t.c (by simp)
  chained₁ := (sound.origin?_next? opening.next_a).symm
  chained₂ := (sound.origin?_next? opening.next_b).symm
  chained₃ := (sound.origin?_next? opening.next_c).symm
  joinable₁ := .inl (sound.follows_of_next? opening.next_a)
  joinable₂ := .inl (sound.follows_of_next? opening.next_b)
  joinable₃ := .inl (sound.follows_of_next? opening.next_c)

theorem AddedFace.ring_of_opening (added : m.AddedFace t.a t.b t.c f m') (opening : m.Opening t)
    (sound : m.Sound) (n : NodeId) (ring : Cycle HalfedgeId) (around : m.Ring n ring) :
    m'.Ring n ring := by
  by_cases atA : m.origin? t.a = some n
  · exact added.corner₃.ring_of_follows (sound.follows_of_next? opening.next_c) n ring atA around
  by_cases atB : m.origin? t.b = some n
  · exact added.corner₁.ring_of_follows (sound.follows_of_next? opening.next_a) n ring atB around
  by_cases atC : m.origin? t.c = some n
  · exact added.corner₂.ring_of_follows (sound.follows_of_next? opening.next_b) n ring atC around
  exact added.ring_of_ne n ring atA atB atC around

/-! ## Putting faces on openings -/

/-- `m'` is `m` with the new faces `gs` on the sides `ts`, and nothing has moved. -/
structure Patched (m : Mesh) (gs : List FaceId) (ts : List (Corners HalfedgeId)) (m' : Mesh) :
    Prop where
  sound : m'.Sound
  nodes : m'.nodes = m.nodes
  faceGenerations : m'.faces.generationAt = m.faces.generationAt
  origin? : ∀ h, m'.origin? h = m.origin? h
  next? : ∀ h, m'.next? h = m.next? h
  prev? : ∀ h, m'.prev? h = m.prev? h
  face? : ∀ g, g ∉ gs → m'.face? g = m.face? g
  faceOf? : ∀ h, (∀ t ∈ ts, h ∉ t.toList) → m'.faceOf? h = m.faceOf? h
  free : ∀ t ∈ ts, ∀ h ∈ t.toList, m.Free h
  nodup : gs.Nodup
  fresh : ∀ g ∈ gs, m.containsFace g = false
  placed : List.Forall₂ (fun g t => m'.face? g = some ⟨t.a⟩ ∧ m'.Triangle g t) gs ts

theorem AddedFace.patched (added : m.AddedFace t.a t.b t.c f m') (opening : m.Opening t)
    (sound : m.Sound) : m.Patched [f] [t] m' where
  sound := added.sound
  nodes := added.nodes
  faceGenerations := by rw [added.faces, SlotStore.generationAt_insert]
  origin? := added.origin?
  next? h := (sound.pointers_of_rings added.origin? (added.ring_of_opening opening sound) h).1
  prev? h := (sound.pointers_of_rings added.origin? (added.ring_of_opening opening sound) h).2
  face? g other := by
    rw [added.face?, if_neg (by simpa using other)]
  faceOf? h off := by
    rw [added.faceOf?, if_neg (by simpa using off)]
  free := by simpa using opening.free
  nodup := List.nodup_singleton f
  fresh := by
    rw [List.forall_mem_singleton, added.key]
    exact m.faces.contains_nextKey
  placed := .cons ⟨by rw [added.face?, if_pos rfl], added.triangle⟩ .nil

namespace Patched

theorem refl (sound : m.Sound) : m.Patched [] [] m where
  sound := sound
  nodes := rfl
  faceGenerations := rfl
  origin? _ := rfl
  next? _ := rfl
  prev? _ := rfl
  face? _ _ := rfl
  faceOf? _ _ := rfl
  free := by simp
  nodup := .nil
  fresh := by simp
  placed := .nil

variable (patched : m.Patched gs ts m')

include patched

/-- The sides of the new faces report them. -/
theorem exists_reported (mem : t ∈ ts) : ∃ g ∈ gs, m'.Triangle g t := by
  rcases exists_related patched.placed mem with ⟨g, mem', -, triangle⟩
  exact ⟨g, mem', triangle⟩

theorem containsFace (g : FaceId) :
    m'.containsFace g = true ↔ g ∈ gs ∨ m.containsFace g = true := by
  by_cases new : g ∈ gs
  · rcases exists_related patched.placed.flip new with ⟨t, -, found, -⟩
    simp [Mesh.containsFace, found, new]
  · simp [Mesh.containsFace, patched.face? g new, new]

/-- What is free afterwards is no side of a new face. -/
theorem not_mem_of_free {h : HalfedgeId} (free : m'.Free h) : ∀ t ∈ ts, h ∉ t.toList := by
  intro t mem side
  rcases patched.exists_reported mem with ⟨g, -, triangle⟩
  cases free.symm.trans ((triangle.reports_iff h).2 side)

theorem opening (opening : m.Opening t) (apart : ∀ t' ∈ ts, t'.toList.Disjoint t.toList) :
    m'.Opening t where
  next_a := (patched.next? _).trans opening.next_a
  next_b := (patched.next? _).trans opening.next_b
  next_c := (patched.next? _).trans opening.next_c
  free h side :=
    (patched.faceOf? h fun t' mem side' => apart t' mem side' side).trans (opening.free h side)

/-- A face that is there in between stays. -/
theorem placed_of_fresh {g : FaceId} (other : g ∉ gs) (found : m.face? g = some ⟨t.a⟩)
    (triangle : m.Triangle g t) : m'.face? g = some ⟨t.a⟩ ∧ m'.Triangle g t := by
  refine ⟨(patched.face? g other).trans found, (patched.next? _).trans triangle.next_a,
    (patched.next? _).trans triangle.next_b, (patched.next? _).trans triangle.next_c, fun h => ?_⟩
  rw [← triangle.reports_iff]
  by_cases off : ∀ t ∈ ts, h ∉ t.toList
  · rw [patched.faceOf? h off]
  · push Not at off
    rcases off with ⟨t', mem, side⟩
    rcases patched.exists_reported mem with ⟨g', mem', triangle'⟩
    have free : m.faceOf? h = some none := patched.free t' mem h side
    rw [(triangle'.reports_iff h).2 side, free]
    simp only [Option.some.injEq, reduceCtorEq, iff_false]
    rintro rfl
    exact other mem'

theorem trans (second : m'.Patched gs' ts' m'') : m.Patched (gs ++ gs') (ts ++ ts') m'' where
  sound := second.sound
  nodes := second.nodes.trans patched.nodes
  faceGenerations := second.faceGenerations.trans patched.faceGenerations
  origin? h := (second.origin? h).trans (patched.origin? h)
  next? h := (second.next? h).trans (patched.next? h)
  prev? h := (second.prev? h).trans (patched.prev? h)
  face? g other := by
    rw [List.mem_append, not_or] at other
    rw [second.face? g other.2, patched.face? g other.1]
  faceOf? h off := by
    rw [List.forall_mem_append] at off
    rw [second.faceOf? h off.2, patched.faceOf? h off.1]
  free := by
    rw [List.forall_mem_append]
    refine ⟨patched.free, fun t mem h side => ?_⟩
    have free := second.free t mem h side
    exact (patched.faceOf? h (patched.not_mem_of_free free)).symm.trans free
  nodup := by
    apply List.nodup_append'.2 ⟨patched.nodup, second.nodup, fun g mem mem' => ?_⟩
    cases (second.fresh g mem').symm.trans ((patched.containsFace g).2 (.inl mem))
  fresh := by
    rw [List.forall_mem_append]
    refine ⟨patched.fresh, fun g mem => ?_⟩
    by_contra live
    rw [Bool.not_eq_false] at live
    cases (second.fresh g mem).symm.trans ((patched.containsFace g).2 (.inr live))
  placed := by
    have news : ∀ g ∈ gs, g ∉ gs' := by
      intro g mem mem'
      cases (second.fresh g mem').symm.trans ((patched.containsFace g).2 (.inl mem))
    have stay := ((List.forall₂_and_left gs ts).2 ⟨news, patched.placed⟩).imp fun g t here =>
      second.placed_of_fresh here.1 here.2.1 here.2.2
    exact List.rel_append stay second.placed

end Patched

/-- A face is put on an opening. -/
theorem Opening.outcome_addFace (opening : m.Opening t) (sound : m.Sound) :
    ∃ g m', (Operation.addFace t.a t.b t.c).outcome m = (.ok (.face g), m') ∧
      m.Patched [g] [t] m' := by
  rcases sound.addFace_cases t.a t.b t.c with ⟨_, _, -, misfit⟩ | ⟨g, m', ended, -, added⟩
  · exact absurd (opening.fits sound) misfit.not_fits
  · exact ⟨g, m', ended, added.patched opening sound⟩

/-- Faces are put on openings one after the other. -/
theorem Sound.run_addFaces (sound : m.Sound) (openings : ∀ t ∈ ts, m.Opening t)
    (apart : ts.Pairwise fun t t' => t.toList.Disjoint t'.toList) :
    ∃ gs, m.replies (ts.map fun t => .addFace t.a t.b t.c) = gs.map (fun g => .ok (.face g)) ∧
      m.Patched gs ts (m.run (ts.map fun t => .addFace t.a t.b t.c)) := by
  induction ts generalizing m with
  | nil => exact ⟨[], rfl, .refl sound⟩
  | cons t ts inductionHypothesis =>
    rcases List.forall_mem_cons.1 openings with ⟨opening, openings⟩
    rcases List.pairwise_cons.1 apart with ⟨first, apart⟩
    rcases opening.outcome_addFace sound with ⟨g, m₁, ended, patched⟩
    have openings₁ : ∀ t' ∈ ts, m₁.Opening t' := fun t' mem =>
      patched.opening (openings t' mem) (by simpa using first t' mem)
    rcases inductionHypothesis patched.sound openings₁ apart with ⟨gs, answers, rest⟩
    have result : (Operation.addFace t.a t.b t.c).result m = m₁ := congrArg Prod.snd ended
    refine ⟨g :: gs, ?_⟩
    simp only [List.map_cons, replies_cons, run_cons, result, ended, answers, true_and]
    exact patched.trans rest

/-! ## Off and on again -/

/-- `m'` is `m` with the faces `gs` in place of the faces `fs`, on the sides `ts`. -/
structure Refilled (m : Mesh) (fs gs : List FaceId) (ts : List (Corners HalfedgeId)) (m' : Mesh) :
    Prop where
  node : ∀ n, m'.node n = m.node n
  origin : ∀ h, m'.origin h = m.origin h
  next : ∀ h, m'.next h = m.next h
  prev : ∀ h, m'.prev h = m.prev h
  isBoundary : ∀ h, m'.isBoundary h = m.isBoundary h
  faceOf : ∀ h, (∀ f ∈ fs, m.faceOf h ≠ .ok (some f)) → m'.faceOf h = m.faceOf h
  faceHalfedges : ∀ f, f ∉ fs → f ∉ gs → m'.faceHalfedges f = m.faceHalfedges f
  placed : List.Forall₂ (fun g t => m'.faceHalfedges g = .ok t ∧
    ∀ h, m'.faceOf h = .ok (some g) ↔ h ∈ t.toList) gs ts
  nodup : gs.Nodup
  fresh : ∀ g ∈ gs, m.containsFace g = false
  gone : ∀ f ∈ fs, m'.containsFace f = false

/-- Different faces have no sides in common. -/
theorem pairwise_disjoint_of_triangles (triangles : List.Forall₂ m.Triangle fs ts)
    (nodup : fs.Nodup) : ts.Pairwise fun t t' => t.toList.Disjoint t'.toList := by
  induction triangles with
  | nil => exact .nil
  | @cons f t fs ts triangle rest inductionHypothesis =>
    rcases List.nodup_cons.1 nodup with ⟨other, nodup⟩
    refine .cons (fun t' mem h side side' => ?_) (inductionHypothesis nodup)
    rcases exists_related rest mem with ⟨f', mem', triangle'⟩
    have reports := (triangle.reports_iff h).2 side
    cases reports.symm.trans ((triangle'.reports_iff h).2 side')
    exact other mem'

/-- The sides that a walk around a face lists are its triangle. -/
theorem Sound.triangle_of_faceHalfedges (sound : m.Sound) (told : m.faceHalfedges f = .ok t) :
    m.Triangle f t := by
  rcases faceHalfedges_eq_ok_iff.1 told with ⟨found, -, -⟩
  rcases sound.triangle f _ found with ⟨t', first, triangle⟩
  cases told.symm.trans (faceHalfedges_of_triangle found first triangle)
  exact triangle

section Refilled

variable {m₁ : Mesh} {order : List FaceId} (cleared : m.Cleared fs m₁)
  (patched : m₁.Patched gs ts m') (same : order.Perm fs)
  (triangles : List.Forall₂ m.Triangle order ts)

include cleared patched same triangles

/-- Half-edges off the faces that were taken off report what they did. -/
theorem faceOf?_of_refilled {h : HalfedgeId} (off : ∀ f ∈ fs, m.faceOf? h ≠ some (some f)) :
    m'.faceOf? h = m.faceOf? h := by
  rw [patched.faceOf? h, cleared.faceOf? h off]
  intro t mem side
  rcases exists_related triangles mem with ⟨f, mem', triangle⟩
  exact off f (same.mem_iff.1 mem') ((triangle.reports_iff h).2 side)

omit cleared in
/-- Half-edges at the faces that were taken off report the new ones. -/
theorem exists_faceOf?_of_refilled {h : HalfedgeId} (mem : f ∈ fs)
    (reports : m.faceOf? h = some (some f)) : ∃ g, m'.faceOf? h = some (some g) := by
  rcases exists_related triangles.flip (same.mem_iff.2 mem) with ⟨t, mem', triangle⟩
  rcases patched.exists_reported mem' with ⟨g, -, triangle'⟩
  exact ⟨g, (triangle'.reports_iff h).2 ((triangle.reports_iff h).1 reports)⟩

theorem Cleared.refilled : m.Refilled fs gs ts m' where
  node n := by
    rw [node, node, node?, node?, patched.nodes, cleared.nodes]
  origin h := by
    rw [origin_eq_orInvalid, origin_eq_orInvalid, patched.origin?, cleared.origin?]
  next h := by
    rw [next_eq_orInvalid, next_eq_orInvalid, patched.next?, cleared.next?]
  prev h := by
    rw [prev_eq_orInvalid, prev_eq_orInvalid, patched.prev?, cleared.prev?]
  isBoundary h := by
    rw [isBoundary_eq_orInvalid, isBoundary_eq_orInvalid]
    by_cases off : ∀ f ∈ fs, m.faceOf? h ≠ some (some f)
    · rw [faceOf?_of_refilled cleared patched same triangles off]
    · push Not at off
      rcases off with ⟨f, mem, reports⟩
      rcases exists_faceOf?_of_refilled patched same triangles mem reports with
        ⟨g, reports'⟩
      rw [reports, reports']
      rfl
  faceOf h off := by
    simp only [ne_eq, faceOf_eq_ok_iff] at off
    rw [faceOf_eq_orInvalid, faceOf_eq_orInvalid,
      faceOf?_of_refilled cleared patched same triangles off]
  faceHalfedges f old other := by
    have found : m'.face f = m.face f := by
      rw [face, face, patched.face? f other, cleared.face?, if_neg old]
    have following (h : HalfedgeId) : m'.next h = m.next h := by
      rw [next_eq_orInvalid, next_eq_orInvalid, patched.next?, cleared.next?]
    simp only [Mesh.faceHalfedges, found, following]
  placed := by
    refine patched.placed.imp fun g t placed => ⟨?_, fun h => ?_⟩
    · exact faceHalfedges_of_triangle placed.1 rfl placed.2
    · rw [faceOf_eq_ok_iff, placed.2.reports_iff]
  nodup := patched.nodup
  fresh g mem := by
    -- A handle that was live before names a face that is still there, or one that is retired.
    by_contra live
    rw [Bool.not_eq_false] at live
    have unplaced := patched.fresh g mem
    by_cases old : g ∈ fs
    · have gone := ((cleared.retired g old).of_generationAt patched.faceGenerations).not_contains
      cases gone.symm.trans ((patched.containsFace g).2 (.inl mem))
    · cases unplaced.symm.trans ((cleared.containsFace g).2 ⟨live, old⟩)
  gone f mem := ((cleared.retired f mem).of_generationAt patched.faceGenerations).not_contains

end Refilled

/-- Whatever operations were run: different faces can be taken off, and put back in any order and
from any of their sides on.  Then all is as before, but for the handles of these faces. -/
theorem refilled_of_operations (operations : List Operation) {fs order : List FaceId}
    {ts : List (Corners HalfedgeId)} (nodup : fs.Nodup) (same : order.Perm fs)
    (sides : List.Forall₂ (fun f t => ∃ t₀ k, (empty.run operations).faceHalfedges f = .ok t₀ ∧
      t = Corners.rotate^[k] t₀) order ts) :
    let m := empty.run operations
    let off := fs.map Operation.removeFace
    let on := ts.map fun t => Operation.addFace t.a t.b t.c
    m.replies off = fs.map (fun _ => .ok .done) ∧
      ∃ gs, (m.run off).replies on = gs.map (fun g => .ok (.face g)) ∧
        m.Refilled fs gs ts ((m.run off).run on) := by
  intro m off on
  have sound : m.Sound := sound_empty.run operations
  have triangles : List.Forall₂ m.Triangle order ts := by
    apply sides.imp
    rintro f _ ⟨t, k, told, rfl⟩
    exact Function.Iterate.rec _ (sound.triangle_of_faceHalfedges told) (fun _ => Triangle.rotate) k
  have live : ∀ f ∈ fs, m.containsFace f = true := by
    intro f mem
    rcases exists_related sides.flip (same.mem_iff.2 mem) with ⟨t, -, t₀, k, told, -⟩
    exact Option.isSome_iff_exists.2 ⟨_, (faceHalfedges_eq_ok_iff.1 told).1⟩
  rcases sound.run_removeFaces nodup live with ⟨removed, cleared⟩
  have openings : ∀ t ∈ ts, (m.run off).Opening t := by
    intro t mem
    rcases exists_related triangles mem with ⟨f, mem', triangle⟩
    exact cleared.opening triangle (same.mem_iff.1 mem')
  have apart := pairwise_disjoint_of_triangles triangles (same.nodup_iff.2 nodup)
  rcases cleared.sound.run_addFaces openings apart with ⟨gs, added, patched⟩
  exact ⟨removed, gs, added, cleared.refilled patched same triangles⟩

/-- The three triangles of the bowtie go, and come back in another order and turned. -/
theorem refilled_bowtie :
    let m := empty.run bowtie
    let fs : List FaceId := [⟨3, 0⟩, ⟨1, 0⟩, ⟨2, 0⟩]
    let order : List FaceId := [⟨1, 0⟩, ⟨2, 0⟩, ⟨3, 0⟩]
    let ts : List (Corners HalfedgeId) :=
      [⟨Key.first ⟨2, 0⟩, Key.first ⟨3, 0⟩, Key.first ⟨1, 0⟩⟩,
        ⟨Key.second ⟨3, 0⟩, Key.first ⟨4, 0⟩, Key.first ⟨5, 0⟩⟩,
        ⟨Key.first ⟨8, 0⟩, Key.first ⟨6, 0⟩, Key.first ⟨7, 0⟩⟩]
    let off := fs.map Operation.removeFace
    let on := ts.map fun t => Operation.addFace t.a t.b t.c
    fs.Nodup ∧ order.Perm fs ∧
      List.Forall₂ (fun f t => ∃ t₀ k, m.faceHalfedges f = .ok t₀ ∧ t = Corners.rotate^[k] t₀)
        order ts ∧
      m.replies off = fs.map (fun _ => .ok .done) ∧
      ∃ gs, (m.run off).replies on = gs.map (fun g => .ok (.face g)) ∧
        m.Refilled fs gs ts ((m.run off).run on) := by
  intro m fs order ts off on
  have nodup : fs.Nodup := by decide
  have same : order.Perm fs := by decide
  have sides : List.Forall₂
      (fun f t => ∃ t₀ k, m.faceHalfedges f = .ok t₀ ∧ t = Corners.rotate^[k] t₀) order ts := by
    have told : m.faceHalfedges ⟨1, 0⟩ =
        .ok ⟨Key.first ⟨1, 0⟩, Key.first ⟨2, 0⟩, Key.first ⟨3, 0⟩⟩ := by decide +kernel
    have told' : m.faceHalfedges ⟨2, 0⟩ =
        .ok ⟨Key.second ⟨3, 0⟩, Key.first ⟨4, 0⟩, Key.first ⟨5, 0⟩⟩ := by decide +kernel
    have told'' : m.faceHalfedges ⟨3, 0⟩ =
        .ok ⟨Key.first ⟨6, 0⟩, Key.first ⟨7, 0⟩, Key.first ⟨8, 0⟩⟩ := by decide +kernel
    exact .cons ⟨_, 1, told, rfl⟩ (.cons ⟨_, 0, told', rfl⟩ (.cons ⟨_, 2, told'', rfl⟩ .nil))
  exact ⟨nodup, same, sides, refilled_of_operations bowtie nodup same sides⟩

end Mesh

end PlanarMesh
