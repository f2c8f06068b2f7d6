import Mathlib.Data.List.Nodup

/-! Go maps, as association lists listed in one of their iteration orders. -/
namespace Everoute.Monitor

/-- A Go map. `entries` lists it in one iteration order, which Go leaves unspecified; its keys
are pairwise distinct. -/
structure GoMap (κ ν : Type) where
  entries : List (κ × ν)
  nodup : (entries.map Prod.fst).Nodup
  deriving DecidableEq

namespace GoMap

variable {κ ν : Type} [DecidableEq κ]

omit [DecidableEq κ] in
@[ext] theorem ext {m m' : GoMap κ ν} (h : m.entries = m'.entries) : m = m' := by
  cases m; cases m'; cases h; rfl

/-- `make(map[κ]ν)`. -/
def empty : GoMap κ ν := ⟨[], List.nodup_nil⟩

def keys (m : GoMap κ ν) : List κ := m.entries.map Prod.fst

/-- `v, ok := m[k]`. -/
def lookup (m : GoMap κ ν) (k : κ) : Option ν := m.entries.lookup k

/-- `_, ok := m[k]`. -/
def contains (m : GoMap κ ν) (k : κ) : Bool := (m.lookup k).isSome

/-- `len(m)`. -/
def size (m : GoMap κ ν) : Nat := m.entries.length

omit [DecidableEq κ] in
private theorem keys_map_fst_of_fst (l : List (κ × ν)) (f : κ × ν → κ × ν)
    (hf : ∀ e, (f e).1 = e.1) : (l.map f).map Prod.fst = l.map Prod.fst := by
  simp [Function.comp_def, hf]

/-- `m[k] = v`. A key already present keeps its place in the iteration order; a new key is
listed last. -/
def insert (m : GoMap κ ν) (k : κ) (v : ν) : GoMap κ ν :=
  if h : k ∈ m.keys then
    ⟨m.entries.map fun e => if e.1 = k then (k, v) else e, by
      rw [keys_map_fst_of_fst _ _ (fun e => by split <;> simp_all)]
      exact m.nodup⟩
  else
    ⟨m.entries ++ [(k, v)], by
      rw [List.map_append, List.map_singleton]
      exact m.nodup.append (List.nodup_singleton k) (List.disjoint_singleton.mpr h)⟩

/-- A map with one entry, `map[κ]ν{k: v}`. -/
def single (k : κ) (v : ν) : GoMap κ ν := ⟨[(k, v)], List.nodup_singleton k⟩

/-- A map literal `map[κ]ν{k₁: v₁, …}`. -/
def ofList (l : List (κ × ν)) : GoMap κ ν := l.foldl (fun m e => m.insert e.1 e.2) empty

omit [DecidableEq κ] in
@[simp] theorem entries_empty : (empty : GoMap κ ν).entries = [] := rfl

omit [DecidableEq κ] in
@[simp] theorem entries_single (k : κ) (v : ν) : (single k v).entries = [(k, v)] := rfl

@[simp] theorem lookup_empty (k : κ) : (empty : GoMap κ ν).lookup k = none := rfl

omit [DecidableEq κ] in
@[simp] theorem keys_empty : (empty : GoMap κ ν).keys = [] := rfl

omit [DecidableEq κ] in
@[simp] theorem size_empty : (empty : GoMap κ ν).size = 0 := rfl

omit [DecidableEq κ] in
theorem keys_nodup (m : GoMap κ ν) : m.keys.Nodup := m.nodup

omit [DecidableEq κ] in
theorem size_eq_length_keys (m : GoMap κ ν) : m.size = m.keys.length := by
  simp [size, keys]

omit [DecidableEq κ] in
theorem mem_keys_of_mem {m : GoMap κ ν} {k : κ} {v : ν} (h : (k, v) ∈ m.entries) :
    k ∈ m.keys :=
  List.mem_map.mpr ⟨_, h, rfl⟩

theorem lookup_eq_some_iff {m : GoMap κ ν} {k : κ} {v : ν} :
    m.lookup k = some v ↔ (k, v) ∈ m.entries := by
  obtain ⟨l, nd⟩ := m
  simp only [lookup]
  induction l with
  | nil => simp
  | cons e l ih =>
    obtain ⟨k', v'⟩ := e
    rw [List.map_cons, List.nodup_cons] at nd
    by_cases hk : k = k'
    · subst hk
      have absent : (k, v) ∉ l := fun h => nd.1 (List.mem_map.mpr ⟨_, h, rfl⟩)
      simp [absent, eq_comm]
    · have differ : (k == k') = false := by simpa using hk
      simp [List.lookup_cons, differ, hk, ih nd.2]

theorem mem_keys {m : GoMap κ ν} {k : κ} : k ∈ m.keys ↔ (m.lookup k).isSome := by
  simp only [keys, List.mem_map, Option.isSome_iff_exists, lookup_eq_some_iff]
  constructor
  · rintro ⟨⟨_, v⟩, h, rfl⟩
    exact ⟨v, h⟩
  · rintro ⟨v, h⟩
    exact ⟨_, h, rfl⟩

theorem contains_iff {m : GoMap κ ν} {k : κ} : m.contains k = true ↔ k ∈ m.keys := by
  simp [contains, mem_keys]

theorem lookup_eq_none {m : GoMap κ ν} {k : κ} : m.lookup k = none ↔ k ∉ m.keys := by
  simp [mem_keys]

/-- Two iteration orders of one map answer every lookup alike. -/
theorem lookup_of_perm {m m' : GoMap κ ν} (perm : m'.entries.Perm m.entries) (k : κ) :
    m'.lookup k = m.lookup k :=
  Option.ext fun v => by
    rw [Option.mem_def, Option.mem_def, lookup_eq_some_iff, lookup_eq_some_iff, perm.mem_iff]

theorem mem_entries_insert {m : GoMap κ ν} {k k' : κ} {v w : ν} :
    (k', w) ∈ (m.insert k v).entries ↔ if k' = k then w = v else (k', w) ∈ m.entries := by
  unfold insert
  split
  next present =>
    simp only [List.mem_map]
    split
    next same =>
      subst same
      obtain ⟨u, hu⟩ := Option.isSome_iff_exists.mp (mem_keys.mp present)
      constructor
      · rintro ⟨e, -, he⟩
        split at he <;> simp_all
      · rintro rfl
        exact ⟨(k', u), lookup_eq_some_iff.mp hu, by simp⟩
    next other =>
      constructor
      · rintro ⟨e, he, eq⟩
        split at eq
        · simp_all
        · exact eq ▸ he
      · intro h
        exact ⟨(k', w), h, by simp [other]⟩
  next absent =>
    simp only [List.mem_append, List.mem_singleton, Prod.mk.injEq]
    split
    next same =>
      subst same
      simp only [true_and, or_iff_right_iff_imp]
      exact fun h => absurd (mem_keys_of_mem h) absent
    next other => simp [other]

theorem lookup_insert (m : GoMap κ ν) (k k' : κ) (v : ν) :
    (m.insert k v).lookup k' = if k' = k then some v else m.lookup k' := by
  refine Option.ext fun w => ?_
  rw [Option.mem_def, Option.mem_def, lookup_eq_some_iff, mem_entries_insert]
  split
  · simp [eq_comm]
  · exact lookup_eq_some_iff.symm

@[simp] theorem lookup_insert_self (m : GoMap κ ν) (k : κ) (v : ν) :
    (m.insert k v).lookup k = some v := by
  simp [lookup_insert]

theorem lookup_insert_of_ne (m : GoMap κ ν) {k k' : κ} (v : ν) (h : k' ≠ k) :
    (m.insert k v).lookup k' = m.lookup k' := by
  simp [lookup_insert, h]

@[simp] theorem lookup_single (k k' : κ) (v : ν) :
    (single k v).lookup k' = if k' = k then some v else none := by
  refine Option.ext fun w => ?_
  rw [Option.mem_def, Option.mem_def, lookup_eq_some_iff]
  split <;> simp_all [eq_comm]

end GoMap

end Everoute.Monitor
