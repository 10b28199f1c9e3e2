import MorningstarModbus.Lib.Table

/-!
# KeyedGraph

Directed graphs with keyed nodes, put together node by node and edge by edge.  A node that is put
under a key that is taken replaces the one that was there.

* `WellFormed.putNode`, `WellFormed.addEdge` — every key stands for one node, and every edge joins
  nodes of the graph, whatever is put there;
* `nodes_putNode` — under a key of its own a node comes after the others.
-/

universe u v w

structure KeyedGraph (ν : Type u) (ε : Type v) where
  nodes : List ν := []
  edges : List ε := []

namespace KeyedGraph

open Table

variable {ν : Type u} {ε : Type v} {κ : Type w}

/-- A node is there under a key. -/
def Has (key : ν → κ) (g : KeyedGraph ν ε) (k : κ) : Prop := ∃ n ∈ g.nodes, key n = k

/-- Keys are unique, and edges join nodes of the graph. -/
structure WellFormed (key : ν → κ) (ends : ε → κ × κ) (g : KeyedGraph ν ε) : Prop where
  keyed : Keyed key g.nodes
  closed : ∀ e ∈ g.edges, g.Has key (ends e).1 ∧ g.Has key (ends e).2

def addEdge (e : ε) (g : KeyedGraph ν ε) : KeyedGraph ν ε := { g with edges := g.edges ++ [e] }

variable [DecidableEq κ]

def putNode (key : ν → κ) (n : ν) (g : KeyedGraph ν ε) : KeyedGraph ν ε :=
  { g with nodes := upsert key (fun _ new => new) n g.nodes }

variable {key : ν → κ} {ends : ε → κ × κ} {g : KeyedGraph ν ε} {n : ν} {e : ε} {k : κ}

@[simp] theorem edges_putNode : (g.putNode key n).edges = g.edges := rfl

@[simp] theorem nodes_addEdge : (g.addEdge e).nodes = g.nodes := rfl

@[simp] theorem edges_addEdge : (g.addEdge e).edges = g.edges ++ [e] := rfl

/-- A put adds its key, and takes none away. -/
theorem has_putNode : (g.putNode key n).Has key k ↔ k = key n ∨ g.Has key k := by
  exact @exists_key_upsert ν κ _ key (fun _ new => new) n g.nodes (fun _ _ => rfl) k

omit [DecidableEq κ] in
@[simp] theorem has_addEdge : (g.addEdge e).Has key k ↔ g.Has key k := Iff.rfl

/-- Under a key of its own a node comes after the others. -/
theorem nodes_putNode (h : Keyed key (g.nodes ++ [n])) :
    (g.putNode key n).nodes = g.nodes ++ [n] := by
  have hfresh : ∀ r ∈ g.nodes, key r ≠ key n := by
    intro r hr hkey
    rw [Keyed, List.map_append, List.nodup_append] at h
    exact h.2.2 _ (List.mem_map_of_mem hr) _ (by simp) hkey
  exact @upsert_of_fresh ν κ _ key (fun _ new => new) n g.nodes hfresh

/-- A node can be put, or put again, at any time. -/
theorem WellFormed.putNode (h : g.WellFormed key ends) :
    (g.putNode key n).WellFormed key ends where
  keyed := @Keyed.upsert ν κ _ key (fun _ new => new) n g.nodes h.keyed fun _ _ => rfl
  closed := fun e he =>
    (h.closed e he).imp (fun hfrom => has_putNode.mpr (.inr hfrom)) fun hto =>
      has_putNode.mpr (.inr hto)

omit [DecidableEq κ] in
/-- An edge can be added between nodes that are there. -/
theorem WellFormed.addEdge (h : g.WellFormed key ends) (hfrom : g.Has key (ends e).1)
    (hto : g.Has key (ends e).2) : (g.addEdge e).WellFormed key ends where
  keyed := h.keyed
  closed := by
    intro e' he'
    cases List.mem_append.mp he' with
    | inl hbefore => exact h.closed e' hbefore
    | inr hhere =>
        rw [List.mem_singleton.mp hhere]
        exact ⟨hfrom, hto⟩

end KeyedGraph
