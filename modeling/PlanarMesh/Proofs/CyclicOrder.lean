import Mathlib.Data.List.Cycle
import Mathlib.Dynamics.PeriodicPts.Lemmas

/-!
# Cyclic orders

The half-edges at a node have a cyclic order and no first one, so they are a `Cycle`.  A
cycle is written as a list from any of its members on (`exists_coe_cons`, `exists_coe_concat`),
and for cycles without repetition the list is determined by where it starts
(`coe_cons_injective`).

`Adjacent` says which member comes right after which.  A relation that holds along a cycle
holds between adjacent members (`Chain.rel`), and it holds along `l` read as a cycle when it
holds along the list and from the last member back to the first (`chain_coe_iff`).  What passes
from members to those before them passes all around (`forall_of_closed`).  Where each step is
determined by the member at which it is taken, a cycle is determined by any of its members
(`eq_of_chain`).

Cycles come from steps that can be taken back: on finitely many members such a step returns to
where it starts from (`exists_of_injective`).
-/

namespace Cycle

universe u v

variable {α : Type u}

/-! ## Writing a cycle as a list -/

theorem coe_append_comm (l₁ l₂ : List α) :
    ((l₁ ++ l₂ : List α) : Cycle α) = (l₂ ++ l₁ : List α) :=
  coe_eq_coe.2 List.isRotated_append

/-- Every member of a cycle can be written first. -/
theorem exists_coe_cons {c : Cycle α} {a : α} (mem : a ∈ c) : ∃ l, c = ↑(a :: l) := by
  induction c using Quotient.inductionOn' with
  | h l =>
    rcases List.append_of_mem (show a ∈ l from mem) with ⟨before, after, rfl⟩
    exact ⟨after ++ before, coe_append_comm before (a :: after)⟩

/-- Every member of a cycle can be written last. -/
theorem exists_coe_concat {c : Cycle α} {a : α} (mem : a ∈ c) : ∃ l, c = ↑(l ++ [a]) := by
  rcases exists_coe_cons mem with ⟨l, rfl⟩
  exact ⟨l, coe_cons_eq_coe_append l a⟩

theorem exists_mem {c : Cycle α} (nonempty : c ≠ nil) : ∃ a, a ∈ c := by
  induction c using Quotient.inductionOn' with
  | h l =>
    cases l with
    | nil => exact absurd rfl nonempty
    | cons a l => exact ⟨a, List.mem_cons_self⟩

theorem nodup_map {β : Type v} {f : α → β} (injective : Function.Injective f) {c : Cycle α}
    (nodup : c.Nodup) : (c.map f).Nodup := by
  induction c using Quotient.inductionOn' with
  | h l => exact List.Nodup.map injective nodup

/-- A cycle without repetition is written in one way only from a given member on. -/
theorem coe_cons_injective {a : α} {l l' : List α} (nodup : (a :: l).Nodup)
    (same : ((a :: l : List α) : Cycle α) = (a :: l' : List α)) : l = l' := by
  rcases coe_eq_coe.1 same with ⟨n, rotated⟩
  have first : ((a :: l).rotate n)[0]? = some a := by rw [rotated]; rfl
  have bound : 0 < (a :: l).length := by simp
  rw [List.getElem?_rotate bound, Nat.zero_add] at first
  have start : (a :: l)[0]? = some a := rfl
  have whole : n % (a :: l).length = 0 :=
    (List.getElem?_inj (Nat.mod_lt _ bound) nodup).1 (first.trans start.symm)
  rw [← List.rotate_mod, whole, List.rotate_zero] at rotated
  exact (List.cons.inj rotated).2

/-- Where a cycle is read from does not matter for what is put in behind one of its members. -/
theorem coe_insert_eq {a b : α} {l₁ l₂ l₁' l₂' : List α} (nodup : (l₁ ++ a :: l₂).Nodup)
    (same : ((l₁ ++ a :: l₂ : List α) : Cycle α) = (l₁' ++ a :: l₂' : List α)) :
    ((l₁ ++ a :: b :: l₂ : List α) : Cycle α) = (l₁' ++ a :: b :: l₂' : List α) := by
  rw [coe_append_comm, coe_append_comm l₁'] at same
  have rest : l₂ ++ l₁ = l₂' ++ l₁' := by
    refine coe_cons_injective ?_ same
    exact (List.Perm.nodup_iff List.perm_append_comm).1 nodup
  rw [coe_append_comm, coe_append_comm l₁', List.cons_append, List.cons_append, rest]
  rfl

/-! ## Adjacent members -/

/-- Along the cycle, `b` comes right after `a`. -/
def Adjacent (c : Cycle α) (a b : α) : Prop :=
  ∃ l : List α, c = ↑l ∧ l.getLast? = some a ∧ l.head? = some b

theorem adjacent_of_ends {l : List α} {a b : α} (last : l.getLast? = some a)
    (first : l.head? = some b) : Adjacent ↑l a b :=
  ⟨l, rfl, last, first⟩

/-- Neighbours in a list are adjacent in the cycle that it writes. -/
theorem adjacent_append {l₁ l₂ : List α} {a b : α} (last : l₁.getLast? = some a)
    (first : l₂.head? = some b) : Adjacent ↑(l₁ ++ l₂) a b := by
  refine ⟨l₂ ++ l₁, coe_append_comm l₁ l₂, ?_, ?_⟩
  · simp [List.getLast?_append, last]
  · simp [List.head?_append, first]

theorem adjacent_cons_cons (l₁ l₂ : List α) (a b : α) :
    Adjacent ↑(l₁ ++ a :: b :: l₂) a b := by
  rw [show l₁ ++ a :: b :: l₂ = (l₁ ++ [a]) ++ b :: l₂ by simp]
  exact adjacent_append (by simp) rfl

/-- Something comes right after every member. -/
theorem exists_adjacent {c : Cycle α} {a : α} (mem : a ∈ c) : ∃ b, Adjacent c a b := by
  rcases exists_coe_concat mem with ⟨l, rfl⟩
  cases l with
  | nil => exact ⟨a, [a], rfl, rfl, rfl⟩
  | cons b l => exact ⟨b, b :: l ++ [a], rfl, List.getLast?_concat, rfl⟩

/-- Something comes right before every member. -/
theorem exists_adjacent_to {c : Cycle α} {b : α} (mem : b ∈ c) : ∃ a, Adjacent c a b := by
  rcases exists_coe_cons mem with ⟨l, rfl⟩
  exact ⟨(b :: l).getLast (by simp), b :: l, rfl, List.getLast?_eq_some_getLast _, rfl⟩

theorem Adjacent.mem_left {c : Cycle α} {a b : α} (adjacent : Adjacent c a b) : a ∈ c := by
  rcases adjacent with ⟨l, rfl, last, _⟩
  exact List.mem_of_getLast? last

theorem Adjacent.mem_right {c : Cycle α} {a b : α} (adjacent : Adjacent c a b) : b ∈ c := by
  rcases adjacent with ⟨l, rfl, _, first⟩
  exact List.mem_of_head? first

theorem Adjacent.map {β : Type v} (f : α → β) {c : Cycle α} {a b : α}
    (adjacent : Adjacent c a b) : Adjacent (c.map f) (f a) (f b) := by
  rcases adjacent with ⟨l, rfl, last, first⟩
  exact ⟨l.map f, rfl, by rw [List.getLast?_map, last]; rfl, by rw [List.head?_map, first]; rfl⟩

/-! ## Relations along a cycle -/

variable {r s : α → α → Prop}

theorem chain_coe_iff {l : List α} :
    Chain r ↑l ↔ l.IsChain r ∧ ∀ a ∈ l.getLast?, ∀ b ∈ l.head?, r a b := by
  cases l with
  | nil => simp
  | cons a l =>
    rw [chain_coe_cons, ← List.cons_append, List.isChain_append]
    simp

theorem Chain.rel {c : Cycle α} (chain : Chain r c) {a b : α} (adjacent : Adjacent c a b) :
    r a b := by
  rcases adjacent with ⟨l, rfl, last, first⟩
  exact (chain_coe_iff.1 chain).2 a last b first

/-- A relation holds along a cycle if it holds between all adjacent members. -/
theorem chain_of_adjacent {c : Cycle α} (rel : ∀ a b, Adjacent c a b → r a b) :
    Chain r c := by
  induction c using Quotient.inductionOn' with
  | h l =>
    refine chain_coe_iff.2 ⟨?_, fun a last b first => rel a b (adjacent_of_ends last first)⟩
    apply List.isChain_iff_forall_rel_of_append_cons_cons.2
    intro a b before after split
    exact rel a b (split ▸ adjacent_cons_cons before after a b)

theorem chain_reverse_iff {c : Cycle α} :
    Chain r c.reverse ↔ Chain (fun a b => r b a) c := by
  induction c using Quotient.inductionOn' with
  | h l =>
    show Chain r ((l.reverse : List α) : Cycle α) ↔ Chain _ (l : Cycle α)
    rw [chain_coe_iff, chain_coe_iff, List.isChain_reverse, List.getLast?_reverse,
      List.head?_reverse]
    exact and_congr_right' ⟨fun closes a last b first => closes b first a last,
      fun closes a first b last => closes b last a first⟩

/-- What passes from each member to the one before it passes all around. -/
theorem forall_of_closed {c : Cycle α} {p : α → Prop} (closed : ∀ a b, c.Adjacent a b → p b → p a)
    {a : α} (mem : a ∈ c) (holds : p a) : ∀ b ∈ c, p b := by
  rcases exists_coe_concat mem with ⟨l, rfl⟩
  have chain : Chain (fun a b => p b → p a) ↑(l ++ [a]) := chain_of_adjacent closed
  refine (chain_coe_iff.1 chain).1.backwards_induction p _ (fun _ _ => id) fun _ => ?_
  rwa [List.getLast_concat]

/-- From a member on, there is only one way back to `a`. -/
theorem eq_of_isChain (functional : ∀ a b b', r a b → r a b' → b = b') {a b : α} {l l' : List α}
    (chain : (b :: l).IsChain r) (closes : ∀ c ∈ (b :: l).getLast?, r c a) (fresh : a ∉ l)
    (chain' : (b :: l').IsChain r) (closes' : ∀ c ∈ (b :: l').getLast?, r c a)
    (fresh' : a ∉ l') : l = l' := by
  induction l generalizing b l' with
  | nil =>
    cases l' with
    | nil => rfl
    | cons c l' =>
      have same := functional b a c (closes b rfl) (List.isChain_cons_cons.1 chain').1
      exact absurd List.mem_cons_self (same ▸ fresh')
  | cons c l inductionHypothesis =>
    rcases List.isChain_cons_cons.1 chain with ⟨step, chain⟩
    cases l' with
    | nil =>
      have same := functional b a c (closes' b rfl) step
      exact absurd List.mem_cons_self (same ▸ fresh)
    | cons c' l' =>
      rcases List.isChain_cons_cons.1 chain' with ⟨step', chain'⟩
      cases functional b c c' step step'
      rw [inductionHypothesis chain (by simpa using closes)
        (fun mem => fresh (List.mem_cons_of_mem c mem)) chain' (by simpa using closes')
        fun mem => fresh' (List.mem_cons_of_mem c mem)]

/-- Cycles with a common member are the same if they follow the same steps. -/
theorem eq_of_chain {c c' : Cycle α} (functional : ∀ a b b', r a b → r a b' → b = b')
    (nodup : c.Nodup) (nodup' : c'.Nodup) (chain : Chain r c) (chain' : Chain r c') {a : α}
    (mem : a ∈ c) (mem' : a ∈ c') : c = c' := by
  rcases exists_coe_cons mem with ⟨l, rfl⟩
  rcases exists_coe_cons mem' with ⟨l', rfl⟩
  rcases chain_coe_iff.1 chain with ⟨chain, closes⟩
  rcases chain_coe_iff.1 chain' with ⟨chain', closes'⟩
  rw [eq_of_isChain functional chain (fun g last => closes g last a rfl)
    (List.nodup_cons.1 nodup).1 chain' (fun g last => closes' g last a rfl)
    (List.nodup_cons.1 nodup').1]

/-- A relation that agrees with `r` at all members but those in `moved` holds along every
stretch of which only the last member may be in `moved`. -/
theorem isChain_of_agree {moved : α → Prop} {l : List α}
    (agree : ∀ a b, ¬ moved a → r a b → s a b) (still : ∀ a ∈ l.dropLast, ¬ moved a)
    (chain : l.IsChain r) : l.IsChain s := by
  induction chain with
  | nil => exact .nil
  | singleton a => exact .singleton a
  | cons_cons rel _ inductionHypothesis =>
    refine .cons_cons (agree _ _ (still _ (by simp)) rel) (inductionHypothesis ?_)
    intro a mem
    exact still a (by simp [mem])

/-- Where every member of a cycle makes way for a stretch, the stretches make up a cycle. -/
theorem chain_flatMap {β : Type v} {s : β → β → Prop} {f : α → List β} {l : List α}
    (nonempty : ∀ a, f a ≠ []) (within : ∀ a ∈ l, (f a).IsChain s)
    (between : ∀ a b, r a b → ∀ x ∈ (f a).getLast?, ∀ y ∈ (f b).head?, s x y)
    (chain : Chain r ↑l) : Chain s ↑(l.flatMap f) := by
  cases l with
  | nil => exact Chain.nil s
  | cons a l =>
    have steps := (chain_coe_cons r a l).1 chain
    have stretches : (((a :: (l ++ [a])).map f).flatten).IsChain s := by
      refine (List.isChain_flatten fun mem => ?_).2 ⟨?_, ?_⟩
      · rcases List.mem_map.1 mem with ⟨b, -, empty⟩
        exact nonempty b empty
      · rw [List.forall_mem_map]
        intro b mem
        refine within b ?_
        simpa [or_comm] using mem
      · exact (List.isChain_map f).2 (steps.imp between)
    rcases List.exists_cons_of_ne_nil (nonempty a) with ⟨x, rest, start⟩
    have around : (x :: (rest ++ l.flatMap f ++ [x]) ++ rest).IsChain s := by
      simpa [start, List.flatMap_def] using stretches
    rw [List.flatMap_cons, start, List.cons_append, chain_coe_cons]
    exact around.left_of_append

/-! ## Cycles of a step -/

/-- On finitely many members, a step that every member can take and that takes no two of them to
the same one leads back to where it starts from. -/
theorem exists_of_injective {step : α → Option α} {members : Set α} (finite : members.Finite)
    (stays : ∀ a ∈ members, ∃ b ∈ members, step a = some b)
    (injective : ∀ a b c, step a = some c → step b = some c → a = b) {a : α}
    (mem : a ∈ members) : ∃ c : Cycle α, c.Nodup ∧ Chain (fun a b => step a = some b) c ∧
      ∀ b, b ∈ c ↔ Relation.ReflTransGen (fun a b => step a = some b) a b := by
  choose after after_mem leads using fun b : members => stays b.1 b.2
  let total (b : members) : members := ⟨after b, after_mem b⟩
  have totalInjective : Function.Injective total := by
    intro b b' same
    have same' : after b = after b' := congrArg Subtype.val same
    exact Subtype.ext (injective _ _ _ (leads b) (same' ▸ leads b'))
  have : Finite members := finite.to_subtype
  have periodic := totalInjective.mem_periodicPts ⟨a, mem⟩
  have chain : Chain (fun a b => step a = some b)
      ((Function.periodicOrbit total ⟨a, mem⟩).map Subtype.val) := by
    rw [chain_map, Function.periodicOrbit_chain']
    · intro n
      rw [Function.iterate_succ_apply']
      exact leads _
    · exact periodic
  have forward (n : Nat) : Relation.ReflTransGen (fun a b => step a = some b) a
      (total^[n] ⟨a, mem⟩).val := by
    induction n with
    | zero => exact .refl
    | succ n inductionHypothesis =>
      rw [Function.iterate_succ_apply']
      exact inductionHypothesis.tail (leads _)
  have once := nodup_map Subtype.val_injective
    (Function.nodup_periodicOrbit (f := total) (x := ⟨a, mem⟩))
  refine ⟨_, once, chain, fun b => ⟨fun listed => ?_, fun reached => ?_⟩⟩
  · rcases mem_map.1 listed with ⟨_, reached, rfl⟩
    rcases (Function.mem_periodicOrbit_iff periodic).1 reached with ⟨n, rfl⟩
    exact forward n
  · induction reached with
    | refl => exact mem_map.2 ⟨_, Function.self_mem_periodicOrbit periodic, rfl⟩
    | tail _ next listed =>
      rcases exists_adjacent listed with ⟨b, adjacent⟩
      cases (chain.rel adjacent).symm.trans next
      exact adjacent.mem_right

end Cycle
