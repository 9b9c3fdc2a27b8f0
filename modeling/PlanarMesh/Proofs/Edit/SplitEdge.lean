import PlanarMesh.Edit.Refinement
import PlanarMesh.Proofs.Edit.Rejoined

/-!
# Splitting edges

Splitting an edge removes it with the faces at its sides, connects a new node with its ends and
folds in a flap for each side that had a face.  None of these steps is ever refused, so an edge
can be split as long as it is live.
-/

namespace PlanarMesh

namespace Mesh

/-- The wing that is read off at a half-edge, along with its face. -/
inductive Winged (m : Mesh) (h : HalfedgeId) :
    List (FaceId × Corners NodeId) → Option Wing → Prop
  | free (free : m.Free h) : Winged m h [] none
  | faced {f : FaceId} {next prev : HalfedgeId} {u v w : NodeId}
      (triangle : m.Triangle f ⟨h, next, prev⟩) (chain : m.Chain h next prev u v w) :
      Winged m h [(f, ⟨u, v, w⟩)] (some ⟨next, prev, w⟩)

theorem Winged.flanked {m : Mesh} {h : HalfedgeId} {flanks : List (FaceId × Corners NodeId)}
    {wing : Option Wing} (winged : m.Winged h flanks wing) : m.Flanked h flanks := by
  cases winged with
  | free free => exact .free free
  | faced triangle chain => exact .faced triangle chain

theorem Sound.exists_winged {m : Mesh} (sound : m.Sound) {h : HalfedgeId}
    (live : m.containsHalfedge h = true) :
    ∃ flanks wing, m.Winged h flanks wing ∧ m.wing h = .ok wing := by
  rcases sound.exists_flanked live with ⟨flanks, flanked⟩
  cases flanked with
  | free free =>
    refine ⟨_, _, .free free, ?_⟩
    rw [wing, isBoundary_of_free free]
    rfl
  | faced triangle chain =>
    refine ⟨_, _, .faced triangle chain, ?_⟩
    have faced : ¬ m.Free h := by simp [Free, triangle.faceOf?_a]
    have before := sound.prev?_eq_some_iff.2 triangle.next_c
    rw [wing, isBoundary_of_not_free live faced, prev_eq_orInvalid, before, next_eq_orInvalid,
      triangle.next_a]
    simp [bind, Except.bind, pure, Except.pure, orInvalid, origin_eq_orInvalid, chain.side₃.start]

/-- The wing at `h` in `m₀` is ready to be folded in as a flap in `m`. -/
inductive Ready (m₀ m : Mesh) (x u v : NodeId) (s t h : HalfedgeId) (lu lv : List HalfedgeId) :
    List (FaceId × Corners NodeId) → Option Wing → Prop
  | none (bare : m₀.Free h) : Ready m₀ m x u v s t h lu lv [] none
  | flap {f : FaceId} {next prev : HalfedgeId} {w : NodeId} {l : List HalfedgeId}
      (triangle : m₀.Triangle f ⟨h, next, prev⟩) (flap : m.Flap x u v w s t next prev l)
      (first : lv.head? = some next) (last : lu.getLast? = some prev.pair) :
      Ready m₀ m x u v s t h lu lv [(f, ⟨u, v, w⟩)] (some ⟨next, prev, w⟩)

theorem Winged.ready {m₀ m m₁ m₂ m₃ m₄ : Mesh} {e eA eB : EdgeId} {n₁ n₂ x u v : NodeId}
    {position : Point} {fs : List FaceId} {h s t : HalfedgeId} {lu lv : List HalfedgeId}
    {flanks : List (FaceId × Corners NodeId)} {wing : Option Wing}
    (winged : m₀.Winged h flanks wing) (sound : m₀.Sound) (cleared : m₀.Cleared fs m)
    (mem : ∀ f ∈ flanks.map Prod.fst, f ∈ fs) (leads : m.Leads e.first n₁ n₂)
    (dropped : m.DroppedEdge e m₁) (node : m₁.AddedNode position x m₂)
    (spoke₁ : m₂.AddedEdge x n₁ eA m₃) (spoke₂ : m₃.AddedEdge x n₂ eB m₄) (side : h.edge = e)
    (along : m.Leads h u v) (severed : m.Severed h u lu m₁) (severed' : m.Severed h.pair v lv m₁)
    (spokeS : m₄.Leads s x u) (spokeT : m₄.Leads t x v) (free_back : m₄.Free s.pair)
    (free_end : m₄.Free t) : m₀.Ready m₄ x u v s t h lu lv flanks wing := by
  cases winged with
  | free free => exact .none free
  | @faced f next prev u' v' w triangle chain =>
    have loop := cleared.loop sound (mem f (by simp)) triangle chain
    obtain rfl : u = u' := along.eq_start loop.chain.side₁.start
    obtain rfl : v = v' := along.eq_finish loop.chain.side₁.finish
    obtain ⟨l, flap⟩ := exists_flap cleared.sound leads dropped node spoke₁ spoke₂ side loop spokeS
      spokeT free_back free_end
    exact .flap triangle flap (loop.first_of_severed severed') (loop.last_of_severed severed)

end Mesh

namespace Edit

open Mesh

variable {s : Session}

/-- Folding in a flap is never refused. -/
theorem splitWing_ends {x u v w : NodeId} {toStart toEnd h₁ h₂ : HalfedgeId}
    {l lu lv k : List HalfedgeId} (flap : s.mesh.Flap x u v w toStart toEnd h₁ h₂ l)
    (leaving : s.mesh.Leaving v lv toEnd.pair) (first : lv.head? = some h₁)
    (arriving : s.mesh.Arriving u lu toStart.pair) (last : lu.getLast? = some h₂.pair)
    (spreads : ∀ e m, s.mesh.AddedEdge x w e m → m.Spread x toStart e.first toEnd k) :
    (splitWing x toStart toEnd (some ⟨h₁, h₂, w⟩)).Ends s
      (fun _ m => ∃ e f₁ f₂, s.mesh.Folded x u v w toStart toEnd h₁ h₂ lu lv k e f₁ f₂ m)
      (fun _ _ => False) := by
  unfold splitWing
  refine (addEdge_of_connectable flap.sound flap.connectable).bind ?_ fun _ _ => False.elim
  rintro toApex t₁ ⟨e, rfl, spoke⟩
  have spread := spreads e t₁.mesh spoke
  refine (addFace_of_fits spoke.sound (flap.fits₁ spoke leaving first spread)).bind ?_
    fun _ _ => False.elim
  rintro f₁ t₂ face₁
  refine (addFace_of_fits face₁.sound (flap.fits₂ spoke face₁ spread arriving last)).bind ?_
    fun _ _ => False.elim
  rintro f₂ t₃ face₂
  exact ⟨e, f₁, f₂, flap.folded spoke face₁ face₂ leaving first arriving last spread⟩

/-- Folding in the flaps on both sides is never refused. -/
theorem splitWings_ends {m₀ : Mesh} {x n₁ n₂ : NodeId} {e eA eB : EdgeId}
    {l₁ l₂ : List HalfedgeId} {k₁ k₂ : List (FaceId × Corners NodeId)} {left right : Option Wing}
    (bridged : s.mesh.Bridged x n₁ n₂ eA eB l₁ l₂)
    (ready₁ : m₀.Ready s.mesh x n₁ n₂ eA.first eB.first e.first l₁ l₂ k₁ left)
    (ready₂ : m₀.Ready s.mesh x n₂ n₁ eB.first eA.first e.second l₂ l₁ k₂ right)
    {next : Edit NodeId} {returns : NodeId → Mesh → Prop} {refuses : MeshError → Mesh → Prop}
    (continues : ∀ t, m₀.Rejoined s.mesh x n₁ n₂ e eA eB l₁ l₂ (k₁ ++ k₂) t.mesh →
      next.Ends t returns refuses) :
    (do
      splitWing x eA.first eB.first left
      splitWing x eB.first eA.first right
      next).Ends s returns refuses := by
  have nonempty : ∀ {l : List HalfedgeId} {h}, l.head? = some h → l ≠ [] := by
    rintro l h first rfl
    cases first
  have nonempty' : ∀ {l : List HalfedgeId} {h}, l.getLast? = some h → l ≠ [] := by
    rintro l h last rfl
    cases last
  cases ready₁ with
  | none bare₁ =>
    show (splitWing x eB.first eA.first right >>= fun _ => next).Ends s returns refuses
    cases ready₂ with
    | none bare₂ => exact continues s (bridged.rejoined_none bare₁ bare₂)
    | flap triangle flap first last =>
      refine (splitWing_ends flap (.loose (bridged.loose₁ (nonempty first))) first
        (.loose (bridged.loose₂ (nonempty' last)) (bridged.free eB.first (.inr rfl))) last
        fun e m => bridged.spread_second).bind ?_ fun _ _ => False.elim
      rintro - t ⟨eW, f₁, f₂, folded⟩
      exact continues t (bridged.rejoined_second triangle bare₁ flap (nonempty first) folded)
  | flap triangle₁ flap₁ first₁ last₁ =>
    refine (splitWing_ends flap₁ (.loose (bridged.loose₂ (nonempty first₁))) first₁
      (.loose (bridged.loose₁ (nonempty' last₁)) (bridged.free eA.first (.inl rfl))) last₁
      fun e m => bridged.spread_first).bind ?_ fun _ _ => False.elim
    rintro - t ⟨eW, f₁, f₂, folded₁⟩
    cases ready₂ with
    | none bare₂ =>
      exact continues t (bridged.rejoined_first triangle₁ bare₂ flap₁ (nonempty first₁) folded₁)
    | flap triangle₂ flap₂ first₂ last₂ =>
      rcases flap₁.exists_other flap₂ folded₁ with ⟨l, flap⟩
      have shifted := folded₁.shifted_end (bridged.loose₂ (nonempty first₁))
      refine (splitWing_ends flap (.seated folded₁.seated_start) first₂
        (.shifted shifted folded₁.not_free_end) last₂
        fun e m => bridged.spread_other folded₁ flap.free_back).bind ?_ fun _ _ => False.elim
      rintro - t' ⟨eW', f₁', f₂', folded₂⟩
      exact continues t' (bridged.rejoined_both triangle₁ triangle₂ last₁ last₂ folded₁ folded₂)

/-- Every live edge can be split. -/
theorem splitEdge_ends (sound : s.mesh.Sound) {e : EdgeId} {position : Point} :
    (splitEdge e position).Ends s
      (fun x m => m.Sound ∧ ∃ n₁ n₂ k₁ k₂, s.mesh.Leads e.first n₁ n₂ ∧
        s.mesh.Flanked e.first k₁ ∧ s.mesh.Flanked e.second k₂ ∧
        s.mesh.SplitsEdge e n₁ n₂ (k₁ ++ k₂) position x m ∧
        ∃ a b, s.mesh.Interposed x n₁ n₂ e a b m)
      (fun error m => s.mesh.containsEdge e = false ∧ m = s.mesh ∧ error = .invalidEdge e) := by
  unfold splitEdge
  cases live : s.mesh.containsEdge e with
  | false =>
    have dead : s.mesh.halfedge? e.first = none := by
      simpa [containsHalfedge] using (s.mesh.containsHalfedge_eq_containsEdge e.first).trans live
    rw [ends_bind_of_refused (query_of_error (by rw [dead]))]
    exact ⟨rfl, rfl, rfl⟩
  | true =>
  have live₁ : s.mesh.containsHalfedge e.first = true := by
    rwa [containsHalfedge_eq_containsEdge]
  have live₂ : s.mesh.containsHalfedge e.second = true := by
    rwa [containsHalfedge_eq_containsEdge]
  rcases sound.exists_leads live₁ with ⟨n₁, n₂, leads⟩
  rcases Option.map_eq_some_iff.1 leads.start with ⟨record, found, starts⟩
  rcases sound.exists_winged live₁ with ⟨k₁, left, winged₁, reads₁⟩
  rcases sound.exists_winged live₂ with ⟨k₂, right, winged₂, reads₂⟩
  have finish : s.mesh.origin? e.second = some n₂ := leads.finish
  rw [ends_bind_of_ok (query_of_ok (by rw [found])), starts, ends_bind_of_ok (query_origin finish),
    ends_bind_of_ok (query_of_ok reads₁), ends_bind_of_ok (query_of_ok reads₂)]
  apply (removeEdge_ends sound).bind
  rotate_left
  · rintro error m ⟨dead, -⟩
    rw [live] at dead
    cases dead
  rintro - t₁ ⟨-, mA, m, opened₁, opened₂, dropped⟩
  have clearedA := opened₁.cleared sound winged₁.flanked
  have cleared : s.mesh.Cleared ((k₁ ++ k₂).map Prod.fst) m := by
    rw [List.map_append]
    exact clearedA.trans (opened₂.cleared clearedA.sound
      (clearedA.flanked winged₂.flanked winged₁.flanked.pair_apart))
  have along := leads.of_origin? cleared.origin?
  have free : ∀ h : HalfedgeId, h.edge = e → m.Free h := by
    intro h same
    rcases edge_eq_iff.1 same with rfl | rfl
    · exact opened₂.free_of_free opened₁.free_self
    · exact opened₂.free_self
  rcases dropped.exists_severed cleared.sound rfl along.start (free _ rfl) with ⟨l₁, severed₁⟩
  rcases dropped.exists_severed cleared.sound rfl along.finish (free _ rfl) with ⟨l₂, severed₂⟩
  refine (addNode_ends dropped.sound).bind ?_ fun _ _ => False.elim
  rintro x t₂ node
  refine (addEdge_of_connectable node.sound
    (connectable_first cleared.sound along dropped severed₁ node)).bind ?_ fun _ _ => False.elim
  rintro to₁ t₃ ⟨eA, rfl, spoke₁⟩
  refine (addEdge_of_connectable spoke₁.sound (connectable_second cleared.sound along dropped
    severed₂ node spoke₁)).bind ?_ fun _ _ => False.elim
  rintro to₂ t₄ ⟨eB, rfl, spoke₂⟩
  have bridged := bridged cleared.sound along dropped severed₁ severed₂ node spoke₁ spoke₂
  rw [List.map_append] at cleared
  have ready₁ := winged₁.ready sound cleared (fun _ => List.mem_append_left _) along dropped node
    spoke₁ spoke₂ rfl along severed₁ severed₂ bridged.spoke₁ bridged.spoke₂
    (bridged.free _ (.inl rfl)) (bridged.free _ (.inr rfl))
  have ready₂ := winged₂.ready sound cleared (fun _ => List.mem_append_right _) along dropped node
    spoke₁ spoke₂ rfl along.pair severed₂ severed₁ bridged.spoke₂ bridged.spoke₁
    (bridged.free _ (.inr rfl)) (bridged.free _ (.inl rfl))
  rw [← List.map_append] at cleared
  apply splitWings_ends bridged ready₁ ready₂
  intro t₅ rejoined
  rcases rejoined.refaced with ⟨news, refaced⟩
  rw [ends_bind_of_ok (record_apply _ _)]
  refine (ends_bind_of_ok (checkAfter_of_sound ?_)).2 ?_
  · exact refaced.sound
  · have fringed := rejoined.fringed
    have splits := splitsEdge_of_refaced sound live cleared free dropped node spoke₁ spoke₂ refaced
      rejoined.hub fun two h old off =>
        (rejoined.restored two).halfedge? sound cleared along dropped severed₁ severed₂ node spoke₁
          spoke₂ fringed rejoined.refaced old off
    have interposed := fringed.interposed sound cleared along dropped severed₁ severed₂ node spoke₁
      spoke₂ refaced.grown splits.edge_gone bridged
    exact ⟨refaced.sound, n₁, n₂, k₁, k₂, leads, winged₁.flanked, winged₂.flanked, splits, eA, eB,
      interposed⟩

end Edit

end PlanarMesh
