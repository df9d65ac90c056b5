import Marktree.Proofs.Node.Conservation
import Marktree.Proofs.Node.Equality

/-!
# Trees from their walks

The trace of a tree, its nodes without their children in the order of the walk and each with its depth,
tells the tree (`undivided_eq_iff`): the children of a node are what comes after it and is deeper. It
does not tell which rows of a table are its head, so trees are compared with all rows in the bodies, and as
equal nodes are without their hooks.
-/
namespace Marktree.Node

mutual

/-- The nodes of a tree in the order of the walk, each with its depth. -/
def placed (depth : Nat) : Node → List (Nat × Node)
  | leaf l => [(depth, leaf l)]
  | branch b cs => (depth, branch b cs) :: placedAll (depth + 1) cs
  | table head body =>
    (depth, table head body) :: (placedAll (depth + 1) head ++ placedAll (depth + 1) body)

def placedAll (depth : Nat) : List Node → List (Nat × Node)
  | [] => []
  | n :: ns => placed depth n ++ placedAll depth ns

end

mutual

/-- The tree without hooks, and with all rows of its tables in their bodies. -/
def undivided : Node → Node
  | leaf l => leaf l.unhooked
  | branch b cs => branch b (undividedAll cs)
  | table head body => table [] (undividedAll head ++ undividedAll body)

def undividedAll : List Node → List Node
  | [] => []
  | n :: ns => undivided n :: undividedAll ns

end

/-- A node without its children and its hook. -/
def bare : Node → Node
  | leaf l => leaf l.unhooked
  | branch b _ => branch b []
  | table .. => table [] []

/-! ## Nodes and their children -/

theorem placedAll_append (depth : Nat) (ms ns : List Node) :
    placedAll depth (ms ++ ns) = placedAll depth ms ++ placedAll depth ns := by
  induction ms with
  | nil => rfl
  | cons m ms ih => rw [List.cons_append, placedAll, placedAll, ih, List.append_assoc]

theorem placed_eq_cons (depth : Nat) (n : Node) :
    placed depth n = (depth, n) :: placedAll (depth + 1) n.children := by
  cases n with
  | leaf l => rfl
  | branch b cs => rw [placed, children]
  | table head body => rw [placed, children, placedAll_append]

theorem undividedAll_append (ms ns : List Node) :
    undividedAll (ms ++ ns) = undividedAll ms ++ undividedAll ns := by
  induction ms with
  | nil => rfl
  | cons m ms ih => rw [List.cons_append, undividedAll, undividedAll, ih, List.cons_append]

/-- Apart from its children a node is told by its bare form. -/
theorem undivided_congr {m n : Node} (hbare : m.bare = n.bare)
    (hchildren : undividedAll m.children = undividedAll n.children) : m.undivided = n.undivided := by
  cases m <;> cases n <;> simp_all [bare, undivided, children, undividedAll_append]

mutual

/-- The walk is what is placed. -/
theorem map_snd_placed (depth : Nat) : ∀ n, (placed depth n).map Prod.snd = n.walk
  | leaf l => rfl
  | branch b cs => by rw [placed, List.map_cons, map_snd_placedAll (depth + 1) cs, walk]
  | table head body => by
    rw [placed, List.map_cons, List.map_append, map_snd_placedAll (depth + 1) head,
      map_snd_placedAll (depth + 1) body, walk]

theorem map_snd_placedAll (depth : Nat) : ∀ ns, (placedAll depth ns).map Prod.snd = walkAll ns
  | [] => rfl
  | n :: ns => by
    rw [placedAll, List.map_append, map_snd_placed depth n, map_snd_placedAll depth ns, walkAll]

end

/-! ## The tree from its trace -/

/-- The bare nodes of a tree in the order of the walk, each with its depth. -/
def trace (depth : Nat) (n : Node) : List (Nat × Node) :=
  (placed depth n).map (Prod.map id bare)

def traceAll (depth : Nat) (ns : List Node) : List (Nat × Node) :=
  (placedAll depth ns).map (Prod.map id bare)

theorem traceAll_cons (depth : Nat) (n : Node) (ns : List Node) :
    traceAll depth (n :: ns) =
      (depth, n.bare) :: (traceAll (depth + 1) n.children ++ traceAll depth ns) := by
  rw [traceAll, placedAll, placed_eq_cons, List.map_append, List.map_cons]
  rfl

/-- What comes next after the trees at a depth is no deeper. -/
theorem le_of_mem_head? {depth : Nat} {ns : List Node} {x : List (Nat × Node)}
    (hx : ∀ p ∈ x.head?, p.1 ≤ depth) : ∀ p ∈ (traceAll depth ns ++ x).head?, p.1 ≤ depth := by
  cases ns with
  | nil => exact hx
  | cons n ns =>
    rw [traceAll_cons]
    rintro p hp
    cases hp
    exact Nat.le_refl depth

/-- **The trees at a depth are told by their trace**, whatever comes after it that is less deep. -/
theorem undividedAll_of_traceAll {depth : Nat} {ms ns : List Node} {x y : List (Nat × Node)}
    (hx : ∀ p ∈ x.head?, p.1 < depth) (hy : ∀ p ∈ y.head?, p.1 < depth)
    (h : traceAll depth ms ++ x = traceAll depth ns ++ y) :
    undividedAll ms = undividedAll ns ∧ x = y := by
  match ms, ns with
  | [], [] => exact ⟨rfl, h⟩
  | [], n :: ns =>
    rw [traceAll_cons] at h
    exact absurd (hx (depth, n.bare) (congrArg List.head? h)) (Nat.lt_irrefl depth)
  | m :: ms, [] =>
    rw [traceAll_cons] at h
    exact absurd (hy (depth, m.bare) (congrArg List.head? h.symm)) (Nat.lt_irrefl depth)
  | m :: ms, n :: ns =>
    rw [traceAll_cons, traceAll_cons, List.cons_append, List.cons_append, List.append_assoc,
      List.append_assoc] at h
    obtain ⟨hhead, hrest⟩ := List.cons.inj h
    -- the children of both nodes end where the depth comes back
    have hchildren := undividedAll_of_traceAll
      (fun p hp => Nat.lt_succ_of_le (le_of_mem_head? (fun p hp => Nat.le_of_lt (hx p hp)) p hp))
      (fun p hp => Nat.lt_succ_of_le (le_of_mem_head? (fun p hp => Nat.le_of_lt (hy p hp)) p hp)) hrest
    obtain ⟨htrees, hend⟩ := undividedAll_of_traceAll hx hy hchildren.2
    have hnode := undivided_congr (congrArg Prod.snd hhead) hchildren.1
    exact ⟨by rw [undividedAll, undividedAll, hnode, htrees], hend⟩
termination_by (walkAll ms).length
decreasing_by
  all_goals
    rw [walkAll, walk_eq_cons, List.length_append, List.length_cons]
    omega

mutual

/-- How tables are divided leaves no trace. -/
theorem trace_undivided (depth : Nat) : ∀ n, trace depth (undivided n) = trace depth n
  | leaf l => by simp [undivided, trace, placed, bare]
  | branch b cs => by
    rw [undivided, trace, trace, placed, placed, List.map_cons, List.map_cons, ← traceAll, ← traceAll,
      traceAll_undividedAll (depth + 1) cs]
    rfl
  | table head body => by
    rw [undivided, trace, trace, placed, placed, List.map_cons, List.map_cons, placedAll,
      List.nil_append, placedAll_append, List.map_append, List.map_append, ← traceAll, ← traceAll,
      ← traceAll, ← traceAll, traceAll_undividedAll (depth + 1) head,
      traceAll_undividedAll (depth + 1) body]
    rfl

theorem traceAll_undividedAll (depth : Nat) : ∀ ns, traceAll depth (undividedAll ns) = traceAll depth ns
  | [] => rfl
  | n :: ns => by
    rw [undividedAll, traceAll, traceAll, placedAll, placedAll, List.map_append, List.map_append, ← trace,
      ← trace, ← traceAll, ← traceAll, trace_undivided depth n, traceAll_undividedAll depth ns]

end

/-- **Two trees have the same trace exactly if they differ only in how tables are divided.** -/
theorem undivided_eq_iff {m n : Node} : m.undivided = n.undivided ↔ trace 0 m = trace 0 n := by
  constructor
  · intro h
    rw [← trace_undivided, h, trace_undivided]
  · intro h
    have hall (k : Node) : traceAll 0 [k] ++ [] = trace 0 k := by
      rw [traceAll, placedAll, placedAll, List.append_nil, List.append_nil, trace]
    have hlists : traceAll 0 [m] ++ [] = traceAll 0 [n] ++ [] := (hall m).trans (h.trans (hall n).symm)
    have htrees := undividedAll_of_traceAll (by simp) (by simp) hlists
    exact (List.cons.inj htrees.1).1

end Marktree.Node
