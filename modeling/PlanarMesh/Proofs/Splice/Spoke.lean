import PlanarMesh.Proofs.Edit.AddEdge
import PlanarMesh.Proofs.Edit.Face

/-!
# Spokes

Refining a mesh puts a new edge, a spoke, into the ring of a corner and then fills the gaps on
its two sides.  The gap lies between the last and the first member of `l`, the ring as it was
before the spoke, and `p` is the side of the spoke at the corner.

A spoke is attached at the first free place, which need not be the gap (`Loose`).  Filling the
gap on one side moves `p` into its place at once, if `p` comes after the gap on that side
(`Loose.seated`).  Otherwise it moves other half-edges along (`Shifted`), and filling the gap on
the other side brings these back (`Shifted.seated`).  Either way the ring ends up as it was but
for `p` in the gap (`Seated`).
-/

namespace PlanarMesh

namespace Mesh

/-- The spoke `p` stands somewhere after a place that is free. -/
def Loose (m : Mesh) (n : NodeId) (l : List HalfedgeId) (p : HalfedgeId) : Prop :=
  ∃ l₁ u l₂, l = l₁ ++ u :: l₂ ∧ m.Free u.pair ∧ m.Ring n ↑(l₁ ++ u :: p :: l₂)

/-- The spoke `p` stands before the start of `l`, but what came after it in `l` was moved to the
first free place. -/
def Shifted (m : Mesh) (n : NodeId) (l : List HalfedgeId) (p : HalfedgeId) : Prop :=
  ∃ l₁ u l₂ A g B, l = l₁ ++ u :: l₂ ∧ m.Free u.pair ∧ m.FirstFree (l₁ ++ [u]) A g B ∧
    m.Ring n ↑(A ++ g :: (l₂ ++ B ++ [p]))

/-- The spoke `p` stands in the gap. -/
def Seated (m : Mesh) (n : NodeId) (l : List HalfedgeId) (p : HalfedgeId) : Prop :=
  m.Ring n ↑(l ++ [p])

/-- A new edge is attached behind the first free place. -/
theorem Docked.loose {m m' : Mesh} {n : NodeId} {l : List HalfedgeId} {p : HalfedgeId}
    (docked : m.Docked p n m') (sound : m.Sound) (around : m.Ring n ↑l)
    (room : ∃ a ∈ l, m.Free a.pair) (same : ∀ a ∈ l, m'.Free a.pair ↔ m.Free a.pair) :
    m'.Loose n l p := by
  rcases room with ⟨a, mem, free⟩
  obtain ⟨record, r, ring, found, chosen, around', rMem⟩ :=
    sound.exists_representative ((around.mem_iff a).1 mem)
  rcases Cycle.exists_coe_cons rMem with ⟨l', rfl⟩
  have equal := around'.unique around
  have mem' : a ∈ r :: l' := show a ∈ ((r :: l' : List HalfedgeId) : Cycle HalfedgeId) from
    equal ▸ mem
  rcases exists_firstFree ⟨a, mem', free⟩ with ⟨A, u, B, first⟩
  have uMem : u ∈ l := show u ∈ (l : Cycle HalfedgeId) from equal ▸ first.mem
  have attached := docked.ring record r _ A u B found chosen around' rfl first
  rcases List.append_of_mem uMem with ⟨l₁, l₂, rfl⟩
  refine ⟨l₁, u, l₂, rfl, (same u uMem).2 first.free, ?_⟩
  rw [first.split] at equal around'
  rwa [← Cycle.coe_insert_eq around'.nodup equal]

section Spoke

variable {m m' : Mesh} {n : NodeId} {l : List HalfedgeId} {p q x : HalfedgeId}

theorem Corner.ring_of_rel (corner : m.Corner q p m') {ring : Cycle HalfedgeId}
    (around : m.Ring n ring) (follows : m.Follows q p) (mem : p ∈ ring) : m'.Ring n ring :=
  corner.ring_of_follows follows n ring ((around.mem_iff p).1 mem) around

namespace Loose

theorem starts (loose : m.Loose n l p) {a : HalfedgeId} (mem : a ∈ l) : m.origin? a = some n := by
  rcases loose with ⟨l₁, u, l₂, rfl, -, around⟩
  apply (around.mem_iff a).1
  simp only [List.mem_append, List.mem_cons, Cycle.mem_coe_iff] at mem ⊢
  tauto

theorem exists_last (loose : m.Loose n l p) : ∃ q, l.getLast? = some q := by
  rcases loose with ⟨l₁, u, l₂, rfl, -, -⟩
  exact ⟨_, List.getLast?_eq_some_getLast (by simp)⟩

theorem notMem (loose : m.Loose n l p) : p ∉ l := by
  rcases loose with ⟨l₁, u, l₂, rfl, -, around⟩
  have nodup : (l₁ ++ u :: p :: l₂).Nodup := around.nodup
  rw [show l₁ ++ u :: p :: l₂ = (l₁ ++ [u]) ++ p :: l₂ by simp] at nodup
  simpa using (List.nodup_cons.1 (List.nodup_middle.1 nodup)).1

/-- Behind the gap, the spoke itself offers the first place for what is moved. -/
theorem read (loose : m.Loose n l p) (last : l.getLast? = some q) (free : m.Free p.pair) :
    m.Seated n l p ∧ m.Follows q p ∨ ∃ B C, l = C ++ B ++ [q] ∧
      m.Ring n ↑(p :: B ++ q :: C) ∧ m.FirstFree (p :: B) [] p B := by
  rcases loose with ⟨l₁, u, l₂, rfl, -, around⟩
  rcases List.eq_nil_or_concat' l₂ with rfl | ⟨B, y, rfl⟩
  · have seated : m.Seated n (l₁ ++ [u]) p := by
      rwa [Seated, show l₁ ++ [u] ++ [p] = l₁ ++ [u, p] by simp]
    exact .inl ⟨seated, seated.follows (Cycle.adjacent_append last rfl)⟩
  · have same : y = q := by
      rw [← List.cons_append, ← List.append_assoc, List.getLast?_concat] at last
      exact Option.some.inj last
    subst same
    refine .inr ⟨B, l₁ ++ [u], by simp, ?_, rfl, by simp, free⟩
    rwa [show p :: B ++ y :: (l₁ ++ [u]) = (p :: (B ++ [y])) ++ (l₁ ++ [u]) by simp,
      Cycle.coe_append_comm, show l₁ ++ [u] ++ p :: (B ++ [y]) = l₁ ++ u :: p :: (B ++ [y]) by simp]

theorem joinable_into (loose : m.Loose n l p) (last : l.getLast? = some q)
    (free : m.Free p.pair) : m.Joinable q p := by
  rcases loose.read last free with ⟨-, follows⟩ | ⟨B, C, -, around, place⟩
  · exact .inl follows
  · exact .inr ⟨n, p :: B, C, around, rfl, p, place.mem, place.free⟩

theorem seated (loose : m.Loose n l p) (last : l.getLast? = some q) (free : m.Free p.pair)
    (corner : m.Corner q p m') : m'.Seated n l p := by
  rcases loose.read last free with ⟨seated, follows⟩ | ⟨B, C, rfl, around, place⟩
  · exact corner.ring_of_rel seated follows (by simp)
  · have moved := corner.ring n _ C [] p B around rfl place
    rwa [show [] ++ p :: (C ++ B ++ [q]) = [p] ++ (C ++ B ++ [q]) by simp,
      Cycle.coe_append_comm] at moved

/-- In front of the gap, the place behind which the spoke stands is free. -/
theorem joinable_out (loose : m.Loose n l p) (first : l.head? = some x) : m.Joinable p x := by
  rcases loose with ⟨l₁, u, l₂, rfl, free, around⟩
  refine .inr ⟨n, l₁ ++ [u], l₂, ?_, ?_, u, by simp, free⟩
  · rwa [show l₁ ++ [u] ++ p :: l₂ = l₁ ++ u :: p :: l₂ by simp]
  · cases l₁ <;> simpa using first

theorem shifted (loose : m.Loose n l p) (first : l.head? = some x) (corner : m.Corner p x m')
    (same : ∀ a ∈ l, m'.Free a.pair ↔ m.Free a.pair) : m'.Shifted n l p := by
  rcases loose with ⟨l₁, u, l₂, rfl, free, around⟩
  rcases exists_firstFree ⟨u, (by simp : u ∈ l₁ ++ [u]), free⟩ with ⟨A, g, B, place⟩
  refine ⟨l₁, u, l₂, A, g, B, rfl, (same u (by simp)).2 free,
    place.congr fun a mem => same a ?_, ?_⟩
  · rcases List.mem_append.1 mem with mem | mem
    · simp [mem]
    · simp [List.mem_singleton.1 mem]
  · refine corner.ring n (l₁ ++ [u]) l₂ A g B ?_ ?_ place
    · rwa [show l₁ ++ [u] ++ p :: l₂ = l₁ ++ u :: p :: l₂ by simp]
    · cases l₁ <;> simpa using first

/-- If there is no other room, the spoke was attached in the gap. -/
theorem seated_of_countP (loose : m.Loose n l p) (last : l.getLast? = some q)
    (room : m.Free q.pair) (few : l.countP (fun a => m.Free a.pair) ≤ 1) : m.Seated n l p := by
  rcases loose with ⟨l₁, u, l₂, rfl, free, around⟩
  rcases List.eq_nil_or_concat' l₂ with rfl | ⟨B, y, rfl⟩
  · rwa [Seated, List.append_assoc]
  · have same : y = q := by
      rw [← List.cons_append, ← List.append_assoc, List.getLast?_concat] at last
      exact Option.some.inj last
    simp only [List.countP_append, List.countP_cons, same, decide_eq_true free,
      decide_eq_true room, ite_true] at few
    omega

theorem of_ring (loose : m.Loose n l p) (kept : ∀ ring, m.Ring n ring → m'.Ring n ring)
    (same : ∀ a ∈ l, m'.Free a.pair ↔ m.Free a.pair) : m'.Loose n l p := by
  rcases loose with ⟨l₁, u, l₂, rfl, free, around⟩
  exact ⟨l₁, u, l₂, rfl, (same u (by simp)).2 free, kept _ around⟩

end Loose

namespace Shifted

theorem exists_last (shifted : m.Shifted n l p) : ∃ q, l.getLast? = some q := by
  rcases shifted with ⟨l₁, u, l₂, A, g, B, rfl, -, -, -⟩
  exact ⟨_, List.getLast?_eq_some_getLast (by simp)⟩

theorem starts (shifted : m.Shifted n l p) {a : HalfedgeId} (mem : a ∈ l) :
    m.origin? a = some n := by
  rcases shifted with ⟨l₁, u, l₂, A, g, B, rfl, -, place, around⟩
  apply (around.mem_iff a).1
  rw [show l₁ ++ u :: l₂ = (l₁ ++ [u]) ++ l₂ by simp, place.split] at mem
  simp only [List.mem_append, List.mem_cons, Cycle.mem_coe_iff] at mem ⊢
  tauto

/-- The search passes the spoke, whose other side borders the face in front of it, and finds the
place that it found before. -/
theorem read (shifted : m.Shifted n l p) (last : l.getLast? = some q) (faced : ¬ m.Free p.pair) :
    m.Seated n l p ∧ m.Follows q p ∨ ∃ A g B C, l = A ++ g :: B ++ C ++ [q] ∧
      m.Ring n ↑((p :: A ++ g :: C) ++ q :: B) ∧ m.FirstFree (p :: A ++ g :: C) (p :: A) g C := by
  rcases shifted with ⟨l₁, u, l₂, A, g, B, rfl, -, place, around⟩
  rw [show l₁ ++ u :: l₂ = (l₁ ++ [u]) ++ l₂ by simp, place.split] at last ⊢
  rcases List.eq_nil_or_concat' l₂ with rfl | ⟨C, y, rfl⟩
  · have seated : m.Seated n (A ++ g :: B ++ []) p := by
      rw [Seated]
      rwa [show A ++ g :: B ++ [] ++ [p] = A ++ g :: ([] ++ B ++ [p]) by simp]
    exact .inl ⟨seated, seated.follows (Cycle.adjacent_append last rfl)⟩
  · have same : y = q := by
      rw [← List.append_assoc, List.getLast?_concat] at last
      exact Option.some.inj last
    subst same
    refine .inr ⟨A, g, B, C, by simp, ?_, ⟨rfl, ?_, place.free⟩⟩
    · rwa [show (p :: A ++ g :: C) ++ y :: B = [p] ++ (A ++ g :: (C ++ [y] ++ B)) by simp,
        Cycle.coe_append_comm,
        show A ++ g :: (C ++ [y] ++ B) ++ [p] = A ++ g :: (C ++ [y] ++ B ++ [p]) by simp]
    · intro a mem
      rcases List.mem_cons.1 mem with rfl | mem
      · exact faced
      · exact place.faced a mem

theorem joinable (shifted : m.Shifted n l p) (last : l.getLast? = some q)
    (faced : ¬ m.Free p.pair) : m.Joinable q p := by
  rcases shifted.read last faced with ⟨-, follows⟩ | ⟨A, g, B, C, -, around, place⟩
  · exact .inl follows
  · exact .inr ⟨n, p :: A ++ g :: C, B, around, rfl, g, place.mem, place.free⟩

theorem seated (shifted : m.Shifted n l p) (last : l.getLast? = some q) (faced : ¬ m.Free p.pair)
    (corner : m.Corner q p m') : m'.Seated n l p := by
  rcases shifted.read last faced with ⟨seated, follows⟩ | ⟨A, g, B, C, rfl, around, place⟩
  · exact corner.ring_of_rel seated follows (by simp)
  · have moved := corner.ring n _ B _ g C around rfl place
    rwa [show p :: A ++ g :: (B ++ C ++ [q]) = [p] ++ (A ++ g :: B ++ C ++ [q]) by simp,
      Cycle.coe_append_comm] at moved

/-- If there is room at the gap and in one more place, what was moved came back to where it was. -/
theorem seated_of_countP (shifted : m.Shifted n l p) (last : l.getLast? = some q)
    (room : m.Free q.pair) (few : l.countP (fun a => m.Free a.pair) ≤ 2) : m.Seated n l p := by
  rcases shifted with ⟨l₁, u, l₂, A, g, B, rfl, free, place, around⟩
  rw [show l₁ ++ u :: l₂ = (l₁ ++ [u]) ++ l₂ by simp, place.split] at last few ⊢
  rcases List.eq_nil_or_concat' l₂ with rfl | ⟨C, y, rfl⟩
  · rw [Seated]
    rwa [show A ++ g :: B ++ [] ++ [p] = A ++ g :: ([] ++ B ++ [p]) by simp]
  have same : y = q := by
    rw [← List.append_assoc, List.getLast?_concat] at last
    exact Option.some.inj last
  -- The spoke was attached at the end of the stretch that was searched, where there was room.
  rcases List.eq_nil_or_concat' B with rfl | ⟨D, z, rfl⟩
  · rw [Seated]
    rwa [show A ++ [g] ++ (C ++ [y]) ++ [p] = A ++ g :: (C ++ [y] ++ [] ++ [p]) by simp]
  · have stretch := place.split
    rw [← List.cons_append, ← List.append_assoc] at stretch
    have stop : u = z := List.singleton_inj.1 (List.append_inj' stretch rfl).2
    simp only [List.countP_append, List.countP_cons, same, ← stop, decide_eq_true place.free,
      decide_eq_true room, decide_eq_true free, ite_true] at few
    omega

theorem of_ring (shifted : m.Shifted n l p) (kept : ∀ ring, m.Ring n ring → m'.Ring n ring)
    (same : ∀ a ∈ l, m'.Free a.pair ↔ m.Free a.pair) : m'.Shifted n l p := by
  rcases shifted with ⟨l₁, u, l₂, A, g, B, rfl, free, place, around⟩
  refine ⟨l₁, u, l₂, A, g, B, rfl, (same u (by simp)).2 free,
    place.congr fun a mem => same a ?_, kept _ around⟩
  rcases List.mem_append.1 mem with mem | mem
  · simp [mem]
  · simp [List.mem_singleton.1 mem]

end Shifted

/-- Where two rings begin alike, what follows does not differ. -/
theorem Ring.follows_of_append {l₁ l₂ : List HalfedgeId} (around : m.Ring n ↑(l ++ l₁))
    (around' : m'.Ring n ↑(l ++ l₂)) (last : l.getLast? = some q) {g k : HalfedgeId} (mem : g ∈ l)
    (other : g ≠ q) (follows : m.Follows g k) : m'.Follows g k := by
  rcases List.append_of_mem mem with ⟨before, rest, rfl⟩
  cases rest with
  | nil => exact absurd (by simpa using last) other
  | cons k' rest =>
    have split : ∀ tail, before ++ g :: k' :: rest ++ tail = before ++ g :: k' :: (rest ++ tail) :=
      by simp
    rw [split] at around around'
    rw [follows.right_unique (around.follows (Cycle.adjacent_cons_cons before _ g k'))]
    exact around'.follows (Cycle.adjacent_cons_cons before _ g k')

namespace Seated

theorem follows_first (seated : m.Seated n l p) (first : l.head? = some x) : m.Follows p x :=
  seated.follows (Cycle.adjacent_of_ends (by simp) (by rw [List.head?_append, first]; rfl))

/-- In the gap, the spoke is in its place in front of the gap as well. -/
theorem of_corner (seated : m.Seated n l p) (first : l.head? = some x)
    (corner : m.Corner p x m') : m'.Seated n l p :=
  corner.ring_of_rel seated (seated.follows_first first) (by simp [List.mem_of_head? first])

/-- A spoke in the gap disturbs what follows at the last member before the gap only. -/
theorem follows_of_ne (seated : m'.Seated n l p) (around : m.Ring n ↑l)
    (last : l.getLast? = some q) {g k : HalfedgeId} (start : m.origin? g = some n) (other : g ≠ q)
    (follows : m.Follows g k) : m'.Follows g k := by
  rw [← l.append_nil] at around
  refine around.follows_of_append seated last ?_ other follows
  simpa using (around.mem_iff g).2 start

end Seated

end Spoke

end Mesh

end PlanarMesh
