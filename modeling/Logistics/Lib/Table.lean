import Mathlib

/-!
# Tables with a primary key and a row check

`Table κ ρ check` is a relational table: a finite set of rows `ρ` under distinct keys `κ`, every
row of which passes `check`.  The check is a field, so a table that violates its schema cannot be
built; the operations answer `none` where the database refuses the statement.

* `find?`     `SELECT ... WHERE key = k`
* `insert?`   `INSERT`: refused on a used key or a failed check
* `upsert?`   `INSERT ... ON CONFLICT(key) DO UPDATE`: refused on a failed check
* `update?`   `UPDATE ... WHERE key = k`: nothing to do without such a row, refused on a failed check
-/

/-- a table with primary key `κ`, rows `ρ` and the row constraint `check` -/
structure Table (κ ρ : Type) [DecidableEq κ] (check : κ → ρ → Prop) where
  rows : AList fun _ : κ => ρ
  checked : ∀ k r, rows.lookup k = some r → check k r

namespace Table
variable {κ ρ : Type} [DecidableEq κ] {check : κ → ρ → Prop}

def empty : Table κ ρ check := ⟨∅, fun k r h => by simp at h⟩

def find? (t : Table κ ρ check) (k : κ) : Option ρ := t.rows.lookup k

def entries (t : Table κ ρ check) : List (κ × ρ) := t.rows.entries.map fun e => (e.1, e.2)

theorem checked_insert (t : Table κ ρ check) {k : κ} {r : ρ} (h : check k r) :
    ∀ k' r', (t.rows.insert k r).lookup k' = some r' → check k' r' := by
  intro k' r' h'
  by_cases e : k' = k
  · subst e
    rw [AList.lookup_insert] at h'
    cases h'
    exact h
  · rw [AList.lookup_insert_ne e] at h'
    exact t.checked k' r' h'

def put (t : Table κ ρ check) (k : κ) (r : ρ) (h : check k r) : Table κ ρ check :=
  ⟨t.rows.insert k r, t.checked_insert h⟩

/-! ## lookups -/

@[simp] theorem find?_put_self (t : Table κ ρ check) (k : κ) (r : ρ) (h : check k r) :
    (t.put k r h).find? k = some r :=
  AList.lookup_insert t.rows

theorem find?_put_of_ne (t : Table κ ρ check) {k k' : κ} (r : ρ) (h : check k r) (e : k' ≠ k) :
    (t.put k r h).find? k' = t.find? k' :=
  AList.lookup_insert_ne e

theorem find?_put (t : Table κ ρ check) (k k' : κ) (r : ρ) (h : check k r) :
    (t.put k r h).find? k' = if k' = k then some r else t.find? k' := by
  by_cases e : k' = k
  · rw [if_pos e, e, find?_put_self]
  · rw [if_neg e, find?_put_of_ne t r h e]

theorem mem_entries (t : Table κ ρ check) (k : κ) (r : ρ) :
    (k, r) ∈ t.entries ↔ t.find? k = some r := by
  have h : r ∈ t.rows.lookup k ↔ Sigma.mk k r ∈ t.rows.entries := AList.mem_lookup_iff
  rw [Option.mem_def] at h
  unfold entries find?
  rw [h, List.mem_map]
  constructor
  · rintro ⟨⟨k', r'⟩, hm, e⟩
    cases e
    exact hm
  · intro hm
    exact ⟨⟨k, r⟩, hm, rfl⟩

/-! ## statements -/

variable [∀ k r, Decidable (check k r)]

def insert? (t : Table κ ρ check) (k : κ) (r : ρ) : Option (Table κ ρ check) :=
  if h : check k r then if t.find? k = none then some (t.put k r h) else none else none

def upsert? (t : Table κ ρ check) (k : κ) (r : ρ) : Option (Table κ ρ check) :=
  if h : check k r then some (t.put k r h) else none

def update? (t : Table κ ρ check) (k : κ) (f : ρ → ρ) : Option (Table κ ρ check) :=
  match t.find? k with
  | none => some t
  | some r => t.upsert? k (f r)

theorem upsert?_eq_some (t : Table κ ρ check) {k : κ} {r : ρ} (h : check k r) :
    t.upsert? k r = some (t.put k r h) := by
  unfold upsert?
  rw [dif_pos h]

theorem upsert?_cases {t t' : Table κ ρ check} {k : κ} {r : ρ} (h : t.upsert? k r = some t') :
    ∃ hc : check k r, t' = t.put k r hc := by
  unfold upsert? at h
  by_cases hc : check k r
  · rw [dif_pos hc] at h
    exact ⟨hc, (Option.some.inj h).symm⟩
  · rw [dif_neg hc] at h
    cases h

theorem insert?_cases {t t' : Table κ ρ check} {k : κ} {r : ρ} (h : t.insert? k r = some t') :
    t.find? k = none ∧ ∃ hc : check k r, t' = t.put k r hc := by
  unfold insert? at h
  by_cases hc : check k r
  · rw [dif_pos hc] at h
    by_cases hk : t.find? k = none
    · rw [if_pos hk] at h
      exact ⟨hk, hc, (Option.some.inj h).symm⟩
    · rw [if_neg hk] at h
      cases h
  · rw [dif_neg hc] at h
    cases h

/-- an accepted update finds no row, or replaces the row it finds -/
theorem update?_cases {t t' : Table κ ρ check} {k : κ} {f : ρ → ρ} (h : t.update? k f = some t') :
    (t.find? k = none ∧ t' = t) ∨
      ∃ r, ∃ hc : check k (f r), t.find? k = some r ∧ t' = t.put k (f r) hc := by
  unfold update? at h
  cases hk : t.find? k with
  | none =>
    rw [hk] at h
    exact .inl ⟨rfl, (Option.some.inj h).symm⟩
  | some r =>
    rw [hk] at h
    obtain ⟨hc, e⟩ := upsert?_cases h
    exact .inr ⟨r, hc, rfl, e⟩

theorem find?_update? {t t' : Table κ ρ check} {k : κ} {f : ρ → ρ} (h : t.update? k f = some t')
    (k' : κ) : t'.find? k' = if k' = k then (t.find? k).map f else t.find? k' := by
  rcases update?_cases h with ⟨hnone, rfl⟩ | ⟨r, hc, hrow, rfl⟩
  · split_ifs with hk
    · rw [hk, hnone]
      rfl
    · rfl
  · rw [find?_put, hrow]
    rfl

/-- an update keeps what its function keeps of each row -/
theorem map_find?_update? {β : Type} {t t' : Table κ ρ check} {k : κ} {f : ρ → ρ} {g : ρ → β}
    (h : t.update? k f = some t') (hg : ∀ r, g (f r) = g r) (k' : κ) :
    (t'.find? k').map g = (t.find? k').map g := by
  rw [find?_update? h]
  split_ifs with hk
  · rw [hk, Option.map_map]
    exact congrArg (fun g' => (t.find? k).map g') (funext hg)
  · rfl

end Table
