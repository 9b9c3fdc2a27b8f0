import PlanarMesh.Proofs.Intact
import PlanarMesh.Proofs.Locality
import PlanarMesh.Snapshot.Load
import Mathlib.Algebra.BigOperators.Ring.Finset

/-!
# Loops of faces

The checks of the structure take three steps along the loop of a face and compare the end with
the start.  Three steps also lead back on a loop of one half-edge, which then belongs to an edge
that joins a node with itself.  So the loop of a face that passes is a triangle of three different
half-edges or such a `Noose`.

That no other half-edges report faces is checked by their number alone.  A noose leaves room for
two of them: on a mesh that passes the checks there are twice as many half-edges that report a
face without being on its loop (`Stray`) as there are nooses.  Where no edge joins a node with
itself, there is neither, and every loop is a triangle of exactly the half-edges that report the
face.
-/

namespace PlanarMesh

namespace Mesh

/-- Three half-edges that follow each other round, all of which report the face. -/
structure Circuit (m : Mesh) (f : FaceId) (t : Corners HalfedgeId) : Prop where
  next_a : m.next? t.a = some t.b
  next_b : m.next? t.b = some t.c
  next_c : m.next? t.c = some t.a
  reports : ∀ h ∈ t.toList, m.faceOf? h = some (some f)

/-- The loop of the face is a single half-edge, on an edge that joins a node with itself. -/
def Noose (m : Mesh) (f : FaceId) : Prop :=
  ∃ h n, m.faceHalfedges f = .ok ⟨h, h, h⟩ ∧ m.origin h = .ok n ∧ m.target h = .ok n

/-- The half-edge reports a face, but it is not on the loop of this face. -/
def Stray (m : Mesh) (h : HalfedgeId) : Prop :=
  ∃ f, m.faceOf h = .ok (some f) ∧ ∀ t, m.faceHalfedges f = .ok t → h ∉ t.toList

/-- No edge joins a node with itself. -/
def Straight (m : Mesh) : Prop :=
  ∀ h n, m.origin h = .ok n → m.target h ≠ .ok n

variable {m : Mesh}

theorem straight_iff : m.Straight ↔ ∀ h ∈ m.halfedgeIds, m.origin? h ≠ m.origin? h.pair := by
  simp only [Straight, ne_eq, origin_eq_ok_iff, target_eq_ok_iff, mem_halfedgeIds,
    containsHalfedge_iff_origin?]
  constructor
  · rintro straight h ⟨n, start⟩ same
    exact straight h n start (same ▸ start)
  · intro checked h n start finish
    exact checked h ⟨n, start⟩ (start.trans finish.symm)

instance (m : Mesh) : Decidable m.Straight :=
  decidable_of_iff _ straight_iff.symm

/-! ## Single steps -/

namespace Intact

variable (intact : m.Intact)

include intact

theorem prev?_of_next? {h g : HalfedgeId} (next : m.next? h = some g) : m.prev? g = some h := by
  rcases Option.map_eq_some_iff.1 next with ⟨record, found, rfl⟩
  exact (intact.fits h record found).prev_of_next

theorem next?_of_prev? {h g : HalfedgeId} (prev : m.prev? h = some g) : m.next? g = some h := by
  rcases Option.map_eq_some_iff.1 prev with ⟨record, found, rfl⟩
  exact (intact.fits h record found).next_of_prev

theorem next?_injective {g h k : HalfedgeId} (first : m.next? g = some k)
    (second : m.next? h = some k) : g = h :=
  Option.some.inj ((intact.prev?_of_next? first).symm.trans (intact.prev?_of_next? second))

theorem origin?_next? {h g : HalfedgeId} (next : m.next? h = some g) :
    m.origin? g = m.origin? h.pair := by
  rcases Option.map_eq_some_iff.1 next with ⟨record, found, rfl⟩
  exact (intact.fits h record found).next_starts

theorem face_live {h : HalfedgeId} {f : FaceId} (reports : m.faceOf? h = some (some f)) :
    m.containsFace f = true := by
  rcases Option.map_eq_some_iff.1 reports with ⟨record, found, reported⟩
  exact (intact.fits h record found).face_live f reported

/-- Only a half-edge that leads from a node back to it can be followed by itself. -/
theorem exists_ends_of_next?_self {h : HalfedgeId} (next : m.next? h = some h) :
    ∃ n, m.origin? h = some n ∧ m.origin? h.pair = some n := by
  rcases containsHalfedge_iff_origin?.1 (containsHalfedge_iff_next?.2 ⟨h, next⟩) with ⟨n, start⟩
  exact ⟨n, start, (intact.origin?_next? next).symm.trans start⟩

theorem exists_circuit {f : FaceId} {record : Face} (found : m.face? f = some record) :
    ∃ t, t.a = record.halfedge ∧ m.Circuit f t := by
  rcases intact.enclosed f record found with ⟨h₂, h₃, reports₁, next₁, reports₂, next₂, reports₃,
    next₃⟩
  exact ⟨⟨record.halfedge, h₂, h₃⟩, rfl, next₁, next₂, next₃,
    by simp [reports₁, reports₂, reports₃]⟩

end Intact

/-! ## Circuits -/

namespace Circuit

variable {f : FaceId} {t : Corners HalfedgeId} (circuit : m.Circuit f t)

include circuit

/-- Of three half-edges that follow each other round, no two are the same unless all are. -/
theorem nodup_or_eq (intact : m.Intact) : t.toList.Nodup ∨ t.b = t.a ∧ t.c = t.a := by
  by_cases ab : t.b = t.a
  · have bc : t.c = t.a := by
      have again := circuit.next_b
      rw [ab, circuit.next_a, ab] at again
      exact (Option.some.inj again).symm
    exact .inr ⟨ab, bc⟩
  · have bc : t.c ≠ t.b := by
      intro same
      have again := circuit.next_b
      rw [same] at again
      exact ab (intact.next?_injective again circuit.next_a)
    have ca : t.c ≠ t.a := by
      intro same
      have again := circuit.next_c
      rw [same] at again
      exact ab (Option.some.inj (circuit.next_a.symm.trans again))
    left
    simp [Corners.toList, Ne.symm ab, bc.symm, ca.symm]

theorem faceHalfedges {record : Face} (found : m.face? f = some record)
    (first : t.a = record.halfedge) : m.faceHalfedges f = .ok t :=
  faceHalfedges_of_next found first circuit.next_a circuit.next_b

end Circuit

/-- The loop of a live face is a circuit. -/
theorem Intact.exists_loop (intact : m.Intact) {f : FaceId} (live : m.containsFace f = true) :
    ∃ t, m.faceHalfedges f = .ok t ∧ m.Circuit f t := by
  rcases Option.isSome_iff_exists.1 live with ⟨record, found⟩
  rcases intact.exists_circuit found with ⟨t, first, circuit⟩
  exact ⟨t, circuit.faceHalfedges found first, circuit⟩

theorem Noose.containsFace {f : FaceId} (noose : m.Noose f) : m.containsFace f = true := by
  rcases noose with ⟨h, n, sides, -⟩
  cases found : m.face? f with
  | none => simp [Mesh.faceHalfedges, face, found, orInvalid, bind, Except.bind] at sides
  | some record => exact Option.isSome_iff_exists.2 ⟨record, found⟩

section Loops

variable (intact : m.Intact) {f : FaceId} {t : Corners HalfedgeId}
  (sides : m.faceHalfedges f = .ok t) (circuit : m.Circuit f t)

include intact sides circuit

/-- The three half-edges of a loop are the same if and only if the face is a noose. -/
theorem noose_iff : m.Noose f ↔ t.b = t.a ∧ t.c = t.a := by
  constructor
  · rintro ⟨h, n, single, -⟩
    cases sides.symm.trans single
    exact ⟨rfl, rfl⟩
  · rintro ⟨same, same'⟩
    have next := circuit.next_a
    rw [same] at next
    rcases intact.exists_ends_of_next?_self next with ⟨n, start, finish⟩
    cases t
    cases same
    cases same'
    exact ⟨_, n, sides, origin_eq_ok_iff.2 start, target_eq_ok_iff.2 finish⟩

theorem nodup_of_not_noose (other : ¬ m.Noose f) : t.toList.Nodup :=
  (circuit.nodup_or_eq intact).resolve_right fun same =>
    other ((noose_iff intact sides circuit).2 same)

end Loops

/-! ## Counting -/

/-- The half-edges on the loop of the face. -/
def loopSides (m : Mesh) (f : FaceId) : Finset HalfedgeId :=
  match m.faceHalfedges f with
  | .ok t => t.toList.toFinset
  | .error _ => ∅

/-- The half-edges that report a face. -/
def facedSides (m : Mesh) : Finset HalfedgeId :=
  m.halfedgeIds.toFinset.filter fun h => (m.faceOf? h).join.isSome

/-- The half-edges on the loops of all live faces. -/
def allLoopSides (m : Mesh) : Finset HalfedgeId :=
  m.faceIds.toFinset.biUnion m.loopSides

theorem mem_loopSides {f : FaceId} {h : HalfedgeId} :
    h ∈ m.loopSides f ↔ ∃ t, m.faceHalfedges f = .ok t ∧ h ∈ t.toList := by
  unfold loopSides
  cases m.faceHalfedges f <;> simp

theorem mem_facedSides {h : HalfedgeId} :
    h ∈ m.facedSides ↔ ∃ f, m.faceOf? h = some (some f) := by
  simp only [facedSides, Finset.mem_filter, List.mem_toFinset, mem_halfedgeIds,
    Option.isSome_iff_exists, Option.join_eq_some_iff, and_iff_right_iff_imp]
  rintro ⟨f, reports⟩
  exact containsHalfedge_iff_faceOf?.2 ⟨_, reports⟩

theorem mem_allLoopSides {h : HalfedgeId} :
    h ∈ m.allLoopSides ↔ ∃ f, m.containsFace f = true ∧ h ∈ m.loopSides f := by
  simp [allLoopSides, mem_faceIds]

theorem Intact.card_facedSides (intact : m.Intact) : m.facedSides.card = 3 * m.faceCount := by
  rw [← intact.faced, ← Set.ncard_coe_finset]
  congr 1
  ext h
  exact mem_facedSides

theorem card_faceIds (m : Mesh) : m.faceIds.toFinset.card = m.faceCount := by
  rw [faceIds, List.toFinset_card_of_nodup m.faces.nodup_keys]
  exact SlotStore.length_keys _

theorem ncard_noose [DecidablePred m.Noose] :
    {f | m.Noose f}.ncard = (m.faceIds.toFinset.filter m.Noose).card := by
  rw [← Set.ncard_coe_finset]
  congr 1
  ext f
  simp only [Set.mem_ofPred_eq, Finset.coe_filter, List.mem_toFinset, mem_faceIds]
  exact ⟨fun noose => ⟨noose.containsFace, noose⟩, And.right⟩

namespace Intact

variable (intact : m.Intact)

include intact

theorem reports_of_mem_loopSides {f : FaceId} (live : m.containsFace f = true) {h : HalfedgeId}
    (mem : h ∈ m.loopSides f) : m.faceOf? h = some (some f) := by
  rcases mem_loopSides.1 mem with ⟨t, sides, mem⟩
  rcases intact.exists_loop live with ⟨t', sides', circuit⟩
  cases sides.symm.trans sides'
  exact circuit.reports h mem

/-- A half-edge reports one face, so the loops of different faces do not meet. -/
theorem disjoint_loopSides :
    (m.faceIds.toFinset : Set FaceId).PairwiseDisjoint m.loopSides := by
  intro f listed g listed' other
  rw [Finset.mem_coe, List.mem_toFinset, mem_faceIds] at listed listed'
  rw [Function.onFun, Finset.disjoint_left]
  intro h mem mem'
  have reports := intact.reports_of_mem_loopSides listed mem
  rw [intact.reports_of_mem_loopSides listed' mem', Option.some_inj, Option.some_inj] at reports
  exact other reports.symm

/-- A noose falls short of a triangle by two half-edges. -/
theorem card_loopSides [DecidablePred m.Noose] {f : FaceId} (live : m.containsFace f = true) :
    (m.loopSides f).card + (if m.Noose f then 2 else 0) = 3 := by
  rcases intact.exists_loop live with ⟨t, sides, circuit⟩
  have listed : m.loopSides f = t.toList.toFinset := by rw [loopSides, sides]
  rw [listed]
  by_cases noose : m.Noose f
  · obtain ⟨same, same'⟩ := (noose_iff intact sides circuit).1 noose
    simp [Corners.toList, same, same', noose]
  · rw [List.toFinset_card_of_nodup (nodup_of_not_noose intact sides circuit noose), if_neg noose]
    rfl

theorem card_allLoopSides [DecidablePred m.Noose] :
    m.allLoopSides.card + 2 * (m.faceIds.toFinset.filter m.Noose).card = 3 * m.faceCount := by
  calc m.allLoopSides.card + 2 * (m.faceIds.toFinset.filter m.Noose).card
      = ∑ f ∈ m.faceIds.toFinset, ((m.loopSides f).card + if m.Noose f then 2 else 0) := by
        rw [allLoopSides, Finset.card_biUnion intact.disjoint_loopSides, Finset.card_filter,
          Finset.mul_sum, Finset.sum_add_distrib]
        simp only [mul_ite, mul_one, mul_zero]
    _ = ∑ _f ∈ m.faceIds.toFinset, 3 := by
        apply Finset.sum_congr rfl
        intro f listed
        exact intact.card_loopSides (mem_faceIds.1 (List.mem_toFinset.1 listed))
    _ = 3 * m.faceCount := by
        rw [Finset.sum_const, card_faceIds, smul_eq_mul, Nat.mul_comm]

theorem stray_iff {h : HalfedgeId} : m.Stray h ↔ h ∈ m.facedSides \ m.allLoopSides := by
  rw [Finset.mem_sdiff, mem_facedSides, mem_allLoopSides]
  constructor
  · rintro ⟨f, reports, off⟩
    rw [faceOf_eq_ok_iff] at reports
    constructor
    · exact ⟨f, reports⟩
    · rintro ⟨g, live, mem⟩
      cases reports.symm.trans (intact.reports_of_mem_loopSides live mem)
      rcases mem_loopSides.1 mem with ⟨t, sides, mem⟩
      exact off t sides mem
  · rintro ⟨⟨f, reports⟩, off⟩
    have missed : ∀ t, m.faceHalfedges f = .ok t → h ∉ t.toList := fun t sides mem =>
      off ⟨f, intact.face_live reports, mem_loopSides.2 ⟨t, sides, mem⟩⟩
    exact ⟨f, faceOf_eq_ok_iff.2 reports, missed⟩

/-- There are twice as many strays as nooses. -/
theorem ncard_stray : {h | m.Stray h}.ncard = 2 * {f | m.Noose f}.ncard := by
  classical
  have strays : {h | m.Stray h} = ↑(m.facedSides \ m.allLoopSides) :=
    Set.ext fun h => intact.stray_iff
  have within : m.allLoopSides ⊆ m.facedSides := by
    intro h mem
    rcases mem_allLoopSides.1 mem with ⟨f, live, mem⟩
    exact mem_facedSides.2 ⟨f, intact.reports_of_mem_loopSides live mem⟩
  have faced := intact.card_facedSides
  have onLoops := intact.card_allLoopSides
  rw [strays, ncard_noose, Set.ncard_coe_finset, Finset.card_sdiff_of_subset within]
  omega

/-! ## Meshes without self-loops -/

variable (straight : m.Straight)

include straight

omit intact in
theorem not_noose (f : FaceId) : ¬ m.Noose f := by
  rintro ⟨h, n, -, start, finish⟩
  exact straight h n start finish

/-- Where no edge joins a node with itself, there are no strays. -/
theorem not_stray (h : HalfedgeId) : ¬ m.Stray h := by
  have none : {f | m.Noose f} = ∅ := Set.eq_empty_of_forall_notMem (not_noose straight)
  have finite : {h | m.Stray h}.Finite := m.facedSides.finite_toSet.subset fun h stray =>
    (Finset.mem_sdiff.1 (intact.stray_iff.1 stray)).1
  have strays := intact.ncard_stray
  rw [none, Set.ncard_empty, Set.ncard_eq_zero finite] at strays
  exact Set.eq_empty_iff_forall_notMem.1 strays h

/-- Where no edge joins a node with itself, loops are triangles of exactly those half-edges that
report the face. -/
theorem triangle_of_loop {f : FaceId} {t : Corners HalfedgeId} (sides : m.faceHalfedges f = .ok t)
    (circuit : m.Circuit f t) : m.Triangle f t where
  next_a := circuit.next_a
  next_b := circuit.next_b
  next_c := circuit.next_c
  reports_iff h := by
    constructor
    · intro reports
      by_contra off
      have missed : ∀ t', m.faceHalfedges f = .ok t' → h ∉ t'.toList := by
        intro t' sides'
        cases sides.symm.trans sides'
        exact off
      exact intact.not_stray straight h ⟨f, faceOf_eq_ok_iff.2 reports, missed⟩
    · exact circuit.reports h

end Intact

/-! ## What the checks let in -/

/-- On a mesh that passes the checks, whatever its records contain, the loop of every live face is a
circuit of three different half-edges or a noose, and there are twice as many strays as nooses.  If
no edge joins a node with itself, then every loop consists of three different half-edges, which are
all that report the face. -/
theorem faceLoops_of_checkTopology {m : Mesh} (passes : m.checkTopology {} = .ok ()) :
    (∀ f, m.containsFace f = true → ∃ t, m.faceHalfedges f = .ok t ∧ m.next t.c = .ok t.a ∧
      (∀ h ∈ t.toList, m.faceOf h = .ok (some f)) ∧ (t.toList.Nodup ∨ m.Noose f)) ∧
    {h | m.Stray h}.ncard = 2 * {f | m.Noose f}.ncard ∧
    (m.Straight → ∀ f, m.containsFace f = true → ∃ t,
      m.faceHalfedges f = .ok t ∧ m.next t.c = .ok t.a ∧ t.toList.Nodup ∧
        ∀ h, m.faceOf h = .ok (some f) ↔ h ∈ t.toList) := by
  have intact := checkTopology_tells.eq_ok_iff.1 passes
  constructor
  · intro f live
    rcases intact.exists_loop live with ⟨t, sides, circuit⟩
    have reports : ∀ h ∈ t.toList, m.faceOf h = .ok (some f) := fun h mem =>
      faceOf_eq_ok_iff.2 (circuit.reports h mem)
    have different := circuit.nodup_or_eq intact
    rw [← noose_iff intact sides circuit] at different
    exact ⟨t, sides, next_eq_ok_iff.2 circuit.next_c, reports, different⟩
  constructor
  · exact intact.ncard_stray
  · intro straight f live
    rcases intact.exists_loop live with ⟨t, sides, circuit⟩
    have different := nodup_of_not_noose intact sides circuit (Intact.not_noose straight f)
    have reports : ∀ h, m.faceOf h = .ok (some f) ↔ h ∈ t.toList := fun h => by
      rw [faceOf_eq_ok_iff]
      exact (intact.triangle_of_loop straight sides circuit).reports_iff h
    exact ⟨t, sides, next_eq_ok_iff.2 circuit.next_c, different, reports⟩

/-- A single triangle. -/
def pane : Mesh :=
  let n₁ : NodeId := ⟨1, 0⟩
  let n₂ : NodeId := ⟨2, 0⟩
  let n₃ : NodeId := ⟨3, 0⟩
  let e₁ : EdgeId := ⟨1, 0⟩
  let e₂ : EdgeId := ⟨2, 0⟩
  let e₃ : EdgeId := ⟨3, 0⟩
  let f : FaceId := ⟨1, 0⟩
  { nodes := .ofSlots [⟨0, some ⟨⟨0, 0⟩, some e₁.first⟩⟩, ⟨0, some ⟨⟨1, 0⟩, some e₂.first⟩⟩,
      ⟨0, some ⟨⟨0, 1⟩, some e₃.first⟩⟩]
    edges := .ofSlots
      [⟨0, some ⟨⟨n₁, e₂.first, e₃.first, some f⟩, ⟨n₂, e₃.second, e₂.second, none⟩⟩⟩,
        ⟨0, some ⟨⟨n₂, e₃.first, e₁.first, some f⟩, ⟨n₃, e₁.second, e₃.second, none⟩⟩⟩,
        ⟨0, some ⟨⟨n₃, e₁.first, e₂.first, some f⟩, ⟨n₁, e₂.second, e₁.second, none⟩⟩⟩]
    faces := .ofSlots [⟨0, some ⟨e₁.first⟩⟩]
    cachedBox := none }

/-- The loop of a single triangle consists of three different half-edges. -/
theorem faceLoops_pane :
    pane.checkTopology {} = .ok () ∧ pane.Straight ∧
      {h | pane.Stray h}.ncard = 2 * {f | pane.Noose f}.ncard ∧
      ∀ f, pane.containsFace f = true → ∃ t, pane.faceHalfedges f = .ok t ∧
        pane.next t.c = .ok t.a ∧ t.toList.Nodup ∧
          ∀ h, pane.faceOf h = .ok (some f) ↔ h ∈ t.toList := by
  have passes : pane.checkTopology {} = .ok () := by decide +kernel
  have straight : pane.Straight := by decide +kernel
  obtain ⟨-, strays, loops⟩ := faceLoops_of_checkTopology passes
  exact ⟨passes, straight, strays, loops straight⟩

/-- A face whose loop is one side of an edge that joins a node with itself.  Both sides of another
edge report the face, too. -/
def snare : Mesh :=
  let n₁ : NodeId := ⟨1, 0⟩
  let n₂ : NodeId := ⟨2, 0⟩
  let n₃ : NodeId := ⟨3, 0⟩
  let e₁ : EdgeId := ⟨1, 0⟩
  let e₂ : EdgeId := ⟨2, 0⟩
  let f : FaceId := ⟨1, 0⟩
  { nodes := .ofSlots [⟨0, some ⟨⟨0, 0⟩, some e₁.first⟩⟩, ⟨0, some ⟨⟨1, 0⟩, some e₂.first⟩⟩,
      ⟨0, some ⟨⟨0, 1⟩, some e₂.second⟩⟩]
    edges := .ofSlots
      [⟨0, some ⟨⟨n₁, e₁.first, e₁.first, some f⟩, ⟨n₁, e₁.second, e₁.second, none⟩⟩⟩,
        ⟨0, some ⟨⟨n₂, e₂.second, e₂.second, some f⟩, ⟨n₃, e₂.first, e₂.first, some f⟩⟩⟩]
    faces := .ofSlots [⟨0, some ⟨e₁.first⟩⟩]
    cachedBox := none }

/-- The snapshot is loaded as it is. -/
theorem load_snare : load snare.save = .ok snare :=
  rfl

/-- The checks let the snare in, although the loop of its face is a single half-edge, and two
half-edges that are not on the loop report the face. -/
theorem snare_checks :
    let loop : HalfedgeId := Key.first ⟨1, 0⟩
    let strays : List HalfedgeId := [Key.first ⟨2, 0⟩, Key.second ⟨2, 0⟩]
    snare.checkTopology {} = .ok () ∧ snare.containsFace ⟨1, 0⟩ = true ∧
      snare.faceHalfedges ⟨1, 0⟩ = .ok ⟨loop, loop, loop⟩ ∧
      ∀ h ∈ strays, h ≠ loop ∧ snare.faceOf h = .ok (some ⟨1, 0⟩) := by
  decide +kernel

end Mesh

end PlanarMesh
