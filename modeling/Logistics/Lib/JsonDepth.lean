import Logistics.Lib.JsonScan

/-!
# How deep a JSON value is nested

* `Tree.depth`       the arrays and objects around each other, empty ones included;
* `document_depth`   **a text holds no more levels than it has bytes**.
-/

namespace JsonText

mutual
def Tree.depth : Tree → Nat
  | .arr elems => depthElems elems + 1
  | .obj fields => depthFields fields + 1
  | _ => 0

def depthElems : List Tree → Nat
  | [] => 0
  | v :: rest => max v.depth (depthElems rest)

def depthFields : List (Text × Tree) → Nat
  | [] => 0
  | (_, v) :: rest => max v.depth (depthFields rest)
end

theorem depth_arr_le {vs : List Tree} {n : Nat} (h : ∀ v ∈ vs, v.depth ≤ n) :
    (Tree.arr vs).depth ≤ n + 1 := by
  rw [Tree.depth]
  refine Nat.succ_le_succ ?_
  induction vs with
  | nil => exact Nat.zero_le n
  | cons v vs ih =>
    rw [List.forall_mem_cons] at h
    rw [depthElems]
    exact max_le h.1 (ih h.2)

theorem depth_obj_le {fs : List (Text × Tree)} {n : Nat} (h : ∀ f ∈ fs, f.2.depth ≤ n) :
    (Tree.obj fs).depth ≤ n + 1 := by
  rw [Tree.depth]
  refine Nat.succ_le_succ ?_
  induction fs with
  | nil => exact Nat.zero_le n
  | cons f fs ih =>
    rw [List.forall_mem_cons] at h
    rw [depthFields]
    exact max_le h.1 (ih h.2)

/-! ## the depth of what is scanned -/

section
variable {D : Dialect}

theorem constant_depth {t r : Text} {v : Tree} (h : constant t = some (v, r)) : v.depth = 0 := by
  unfold constant at h
  split_ifs at h
  · cases h
    rfl
  · cases h
    rfl
  · cases h
    rfl

theorem scan_depth (n : Nat) :
    (∀ t v r, value D n t = some (v, r) → 2 * v.depth ≤ n + 1) ∧
      (∀ t vs r, elems D n t = some (vs, r) → 2 * depthElems vs ≤ n) ∧
      ∀ t fs r, fields D n t = some (fs, r) → 2 * depthFields fs ≤ n := by
  induction n with
  | zero => exact ⟨nofun, nofun, nofun⟩
  | succ n ih =>
    obtain ⟨ihvalue, ihelems, ihfields⟩ := ih
    refine ⟨fun t v r h => ?_, fun t vs r h => ?_, fun t fs r h => ?_⟩
    · cases value_succ_iff.mp h with
      | str h => exact Nat.zero_le _
      | arrNil h => exact Nat.le_add_left 2 n
      | arr hne h =>
        have hdepth := ihelems _ _ _ h
        rw [Tree.depth]
        omega
      | objNil h => exact Nat.le_add_left 2 n
      | obj hne h =>
        have hdepth := ihfields _ _ _ h
        rw [Tree.depth]
        omega
      | number hb h => exact Nat.zero_le _
      | constant hb h =>
        rw [constant_depth h]
        exact Nat.zero_le _
    · obtain ⟨v, u, hv, ⟨u', vs', -, hvs, rfl⟩ | ⟨-, rfl⟩⟩ := elems_succ_iff.mp h
      · have hfirst := ihvalue _ _ _ hv
        have hrest := ihelems _ _ _ hvs
        rw [depthElems]
        omega
      · have hfirst := ihvalue _ _ _ hv
        rw [depthElems, depthElems]
        omega
    · obtain ⟨k, t', v, u, -, hv, ⟨u', fs', -, hfs, rfl⟩ | ⟨-, rfl⟩⟩ := fields_succ_iff.mp h
      · have hfirst := ihvalue _ _ _ hv
        have hrest := ihfields _ _ _ hfs
        rw [depthFields]
        omega
      · have hfirst := ihvalue _ _ _ hv
        rw [depthFields, depthFields]
        omega

/-- **A text holds no more levels than it has bytes.** -/
theorem document_depth {t r : Text} {v : Tree} (h : document D t = some (v, r)) :
    v.depth ≤ t.length := by
  have hdepth := (scan_depth (2 * t.length)).1 _ _ _ h
  omega

end

end JsonText
