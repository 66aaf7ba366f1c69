/-!
Finite maps kept in key order, so that a map prints the same way however it was built.

* `SortedMap.find?_insert`, `SortedMap.find?_erase`: what one write does to every look-up.
* `SortedMap.ext_find?`: two maps with the same look-ups are the same map.
* `SortedMap.find?_ofList_eq_some_iff`: a list with each key once has the look-ups of its map.
* `SortedMap.find?_ofList`: of a list with a key more than once the last entry counts.
* `SortedMap.entries_ofList`: a list in order is the list of entries of its map.
-/

namespace FleetMend

/-- A finite map whose entries stand in strictly increasing key order. -/
structure SortedMap (κ : Type) [Ord κ] (α : Type) where
  entries : List (κ × α)
  ordered : entries.Pairwise (fun a b => compare a.1 b.1 = .lt)
deriving DecidableEq

namespace SortedMap

variable {κ : Type} [Ord κ] {α β : Type}

/-! ### Entry lists -/

/-- The value at the first entry with key `k`. -/
def lookup (k : κ) : List (κ × α) → Option α
  | [] => none
  | (k', v) :: rest => if compare k k' = .eq then some v else lookup k rest

/-- Puts an entry in its place, in the stead of an entry with the same key. -/
def place (k : κ) (v : α) : List (κ × α) → List (κ × α)
  | [] => [(k, v)]
  | (k', v') :: rest =>
    match compare k k' with
    | .lt => (k, v) :: (k', v') :: rest
    | .eq => (k, v) :: rest
    | .gt => (k', v') :: place k v rest

theorem mem_place {k : κ} {v : α} {e : κ × α} {l : List (κ × α)} (h : e ∈ place k v l) :
    e = (k, v) ∨ e ∈ l := by
  induction l with
  | nil => simpa [place] using h
  | cons a rest ih =>
    obtain ⟨k', v'⟩ := a
    unfold place at h
    split at h <;> grind

theorem ordered_place [Std.TransOrd κ] [Std.LawfulEqOrd κ] {k : κ} {v : α} {l : List (κ × α)}
    (h : l.Pairwise (fun a b => compare a.1 b.1 = .lt)) :
    (place k v l).Pairwise (fun a b => compare a.1 b.1 = .lt) := by
  induction l with
  | nil => simp [place]
  | cons a rest ih =>
    obtain ⟨k', v'⟩ := a
    rw [List.pairwise_cons] at h
    unfold place
    split
    · next hlt =>
      refine List.pairwise_cons.2 ⟨fun e he => ?_, List.pairwise_cons.2 h⟩
      rcases List.mem_cons.1 he with rfl | he
      · exact hlt
      · exact Std.TransCmp.lt_trans hlt (h.1 e he)
    · next heq =>
      obtain rfl := Std.LawfulEqCmp.eq_of_compare heq
      exact List.pairwise_cons.2 h
    · next hgt =>
      refine List.pairwise_cons.2 ⟨fun e he => ?_, ih h.2⟩
      rcases mem_place he with rfl | he
      · exact Std.OrientedCmp.gt_iff_lt.1 hgt
      · exact h.1 e he

theorem lookup_place [Std.TransOrd κ] [Std.LawfulEqOrd κ] (k j : κ) (v : α) (l : List (κ × α)) :
    lookup j (place k v l) = if compare j k = .eq then some v else lookup j l := by
  induction l with
  | nil => simp [place, lookup]
  | cons a rest ih =>
    obtain ⟨k', v'⟩ := a
    unfold place
    split
    · simp [lookup]
    · next heq =>
      obtain rfl := Std.LawfulEqCmp.eq_of_compare heq
      by_cases hj : compare j k = .eq <;> simp [lookup, hj]
    · next hgt =>
      simp only [lookup, ih]
      by_cases hj : compare j k' = .eq
      · obtain rfl := Std.LawfulEqCmp.eq_of_compare hj
        have hne : compare j k ≠ .eq := fun h => by
          obtain rfl := Std.LawfulEqCmp.eq_of_compare h
          simp [Std.ReflCmp.compare_self] at hgt
        simp [hne]
      · simp [hj]

theorem lookup_eq_none_of_lt [Std.TransOrd κ] {j : κ} {l : List (κ × α)}
    (h : ∀ e ∈ l, compare j e.1 = .lt) : lookup j l = none := by
  induction l with
  | nil => rfl
  | cons a rest ih =>
    obtain ⟨k', v'⟩ := a
    have := h (k', v') (by simp)
    simp only at this
    simp [lookup, this, ih fun e he => h e (by simp [he])]

/-- An entry past all others comes last. -/
theorem place_of_last [Std.TransOrd κ] {k : κ} {v : α} {l : List (κ × α)}
    (h : ∀ e ∈ l, compare e.1 k = .lt) : place k v l = l ++ [(k, v)] := by
  induction l with
  | nil => rfl
  | cons e rest ih =>
    have past : compare k e.1 = .gt := Std.OrientedCmp.gt_iff_lt.2 (h e List.mem_cons_self)
    rw [place, past, ih fun e he => h e (List.mem_cons_of_mem _ he)]
    rfl

/-! ### Maps -/

/-- The map without entries. -/
def empty : SortedMap κ α := ⟨[], .nil⟩

instance : EmptyCollection (SortedMap κ α) := ⟨empty⟩
instance : Inhabited (SortedMap κ α) := ⟨empty⟩

/-- Two maps agree where they have the same keys with values that agree. -/
instance [BEq κ] [BEq α] : BEq (SortedMap κ α) := ⟨fun m n => m.entries == n.entries⟩

/-- The value stored under `k`. -/
def find? (m : SortedMap κ α) (k : κ) : Option α := lookup k m.entries

def contains (m : SortedMap κ α) (k : κ) : Bool := (m.find? k).isSome

def isEmpty (m : SortedMap κ α) : Bool := m.entries.isEmpty

/-- The keys, in order. -/
def keys (m : SortedMap κ α) : List κ := m.entries.map (·.1)

/-- The values, in key order. -/
def values (m : SortedMap κ α) : List α := m.entries.map (·.2)

/-- The same keys, each with its value changed by `f`. -/
def mapValues (f : α → β) (m : SortedMap κ α) : SortedMap κ β :=
  ⟨m.entries.map fun e => (e.1, f e.2), List.pairwise_map.2 m.ordered⟩

instance {κ α : Type} [Ord κ] [BEq κ] [LawfulBEq κ] [BEq α] [LawfulBEq α] :
    LawfulBEq (SortedMap κ α) where
  rfl {m} := beq_self_eq_true m.entries
  eq_of_beq {m n} h := by
    obtain ⟨l, _⟩ := m
    obtain ⟨r, _⟩ := n
    obtain rfl : l = r := eq_of_beq h
    rfl

theorem mapValues_eq_self {f : α → α} {m : SortedMap κ α} (h : ∀ a ∈ m.values, f a = a) :
    m.mapValues f = m := by
  obtain ⟨l, ordered⟩ := m
  have same : ∀ e ∈ l, (e.1, f e.2) = e := fun e he =>
    congrArg (Prod.mk e.1) (h e.2 (List.mem_map_of_mem he))
  simp only [mapValues, (List.map_congr_left same).trans (List.map_id' l)]

/-- The map without the entry at `k`. -/
def erase (m : SortedMap κ α) (k : κ) : SortedMap κ α :=
  ⟨m.entries.filter fun e => compare k e.1 != .eq, m.ordered.filter _⟩

variable [Std.TransOrd κ] [Std.LawfulEqOrd κ]

/-- Stores `v` under `k`, in the stead of what stood there. -/
def insert (m : SortedMap κ α) (k : κ) (v : α) : SortedMap κ α :=
  ⟨place k v m.entries, ordered_place m.ordered⟩

/-- Stores the entries one after the other, so that of two with one key the later stays. -/
def insertAll (m : SortedMap κ α) (l : List (κ × α)) : SortedMap κ α :=
  l.foldl (fun m e => m.insert e.1 e.2) m

def ofList (l : List (κ × α)) : SortedMap κ α := empty.insertAll l

omit [Std.TransOrd κ] [Std.LawfulEqOrd κ] in
@[simp] theorem find?_empty (k : κ) : (∅ : SortedMap κ α).find? k = none := rfl

theorem find?_insert [DecidableEq κ] (m : SortedMap κ α) (k j : κ) (v : α) :
    (m.insert k v).find? j = if j = k then some v else m.find? j := by
  simp only [find?, insert, lookup_place, Std.LawfulEqCmp.compare_eq_iff_eq]

@[simp] theorem find?_insert_self (m : SortedMap κ α) (k : κ) (v : α) :
    (m.insert k v).find? k = some v := by
  simp [find?, insert, lookup_place, Std.ReflCmp.compare_self]

omit [Std.TransOrd κ] in
theorem find?_erase [DecidableEq κ] (m : SortedMap κ α) (k j : κ) :
    (m.erase k).find? j = if j = k then none else m.find? j := by
  simp only [find?, erase]
  generalize m.entries = l
  induction l with
  | nil => simp [lookup]
  | cons a rest ih =>
    obtain ⟨k', v'⟩ := a
    by_cases hk : k = k'
    · subst hk
      simp only [List.filter, Std.ReflCmp.compare_self, bne_self_eq_false, ih, lookup,
        Std.LawfulEqCmp.compare_eq_iff_eq]
      split <;> rfl
    · have hne : (compare k k' != .eq) = true := by simp [hk]
      simp only [List.filter, hne, lookup, ih, Std.LawfulEqCmp.compare_eq_iff_eq]
      by_cases hj : j = k'
      · subst hj; simp [Ne.symm hk]
      · simp [hj]

omit [Std.LawfulEqOrd κ] in
theorem lookup_self_of_ordered {k : κ} {v : α} {rest : List (κ × α)} :
    lookup k ((k, v) :: rest) = some v := by simp [lookup, Std.ReflCmp.compare_self]

omit [Std.LawfulEqOrd κ] in
/-- A map of one key is empty without it. -/
theorem erase_of_keys {m : SortedMap κ α} {k : κ} (h : m.keys = [k]) : m.erase k = ∅ := by
  obtain ⟨l, hl⟩ := m
  obtain ⟨e, rfl, rfl⟩ := List.map_eq_singleton_iff.1 h
  simp only [erase, List.filter_cons, Std.ReflCmp.compare_self]
  rfl

theorem insertAll_of_ordered (m : SortedMap κ α) {l : List (κ × α)}
    (h : (m.entries ++ l).Pairwise fun a b => compare a.1 b.1 = .lt) :
    (m.insertAll l).entries = m.entries ++ l := by
  induction l generalizing m with
  | nil => exact (List.append_nil _).symm
  | cons e rest ih =>
    have placed : (m.insert e.1 e.2).entries = m.entries ++ [e] :=
      place_of_last fun a ha => (List.pairwise_append.1 h).2.2 a ha e List.mem_cons_self
    have split : m.entries ++ e :: rest = (m.insert e.1 e.2).entries ++ rest := by simp [placed]
    rw [split] at h ⊢
    exact ih _ h

/-- A list in order is the list of entries of its map. -/
theorem entries_ofList {l : List (κ × α)} (h : l.Pairwise fun a b => compare a.1 b.1 = .lt) :
    (ofList l).entries = l := insertAll_of_ordered empty h

theorem find?_insertAll_eq_some_iff [DecidableEq κ] (m : SortedMap κ α) {l : List (κ × α)}
    (distinct : (l.map (·.1)).Nodup) {k : κ} {v : α} :
    (m.insertAll l).find? k = some v ↔
      (k, v) ∈ l ∨ k ∉ l.map (·.1) ∧ m.find? k = some v := by
  induction l generalizing m with
  | nil => simp [insertAll]
  | cons e rest ih =>
    obtain ⟨new, distinct⟩ := List.nodup_cons.1 distinct
    have step : (m.insertAll (e :: rest)).find? k = ((m.insert e.1 e.2).insertAll rest).find? k :=
      rfl
    rw [step, ih _ distinct, find?_insert]
    by_cases hk : k = e.1
    · subst hk
      have absent : (e.1, v) ∉ rest := fun h => new (List.mem_map.2 ⟨_, h, rfl⟩)
      simp [absent, new, Prod.ext_iff, eq_comm]
    · simp [hk, Prod.ext_iff]

/-- In a map made of a list with each key once, a key has the value that it has in the list. -/
theorem find?_ofList_eq_some_iff [DecidableEq κ] {l : List (κ × α)}
    (distinct : (l.map (·.1)).Nodup) {k : κ} {v : α} :
    (ofList l).find? k = some v ↔ (k, v) ∈ l := by
  refine (find?_insertAll_eq_some_iff empty distinct).trans (or_iff_left fun h => ?_)
  cases h.2

/-- A map has no entries but those that were put in. -/
theorem mem_ofList {e : κ × α} {l : List (κ × α)} (h : e ∈ (ofList l).entries) : e ∈ l := by
  suffices ∀ m : SortedMap κ α, e ∈ (m.insertAll l).entries → e ∈ m.entries ∨ e ∈ l from
    (this empty h).resolve_left List.not_mem_nil
  clear h
  induction l with
  | nil => exact fun m h => .inl h
  | cons a rest ih =>
    intro m h
    rcases ih (m.insert a.1 a.2) h with h | h
    · rcases mem_place h with rfl | h
      · exact .inr List.mem_cons_self
      · exact .inl h
    · exact .inr (List.mem_cons_of_mem a h)

/-- Of the entries stored under a key the last one stays; where there is none, what stood there
before does. -/
theorem find?_insertAll [DecidableEq κ] (m : SortedMap κ α) (l : List (κ × α)) (k : κ) :
    (m.insertAll l).find? k =
      ((l.filter (·.1 = k)).getLast?.map (·.2)).or (m.find? k) := by
  induction l generalizing m with
  | nil => rfl
  | cons e rest ih =>
    have step : (m.insertAll (e :: rest)).find? k = ((m.insert e.1 e.2).insertAll rest).find? k :=
      rfl
    rw [step, ih, find?_insert]
    by_cases hk : e.1 = k
    · cases h : (rest.filter (·.1 = k)).getLast? <;> simp [List.getLast?_cons, hk, h]
    · simp [hk, Ne.symm hk]

theorem find?_ofList [DecidableEq κ] (l : List (κ × α)) (k : κ) :
    (ofList l).find? k = (l.filter (·.1 = k)).getLast?.map (·.2) :=
  (find?_insertAll empty l k).trans (Option.or_none ..)

/-- The entries of one map stored in another. -/
theorem find?_insertAll_entries [DecidableEq κ] (m n : SortedMap κ α) (k : κ) :
    (m.insertAll n.entries).find? k = (n.find? k).or (m.find? k) := by
  have again : n.find? k = (ofList n.entries).find? k :=
    congrArg (lookup k) (entries_ofList n.ordered).symm
  rw [find?_insertAll, again, find?_ofList]

/-- Two maps with the same look-ups are equal. -/
theorem ext_find? {m n : SortedMap κ α} (h : ∀ k, m.find? k = n.find? k) : m = n := by
  obtain ⟨l, hl⟩ := m
  obtain ⟨r, hr⟩ := n
  simp only [find?] at h
  suffices l = r by subst this; rfl
  induction l generalizing r with
  | nil =>
    cases r with
    | nil => rfl
    | cons b _ => have := h b.1; simp [lookup, Std.ReflCmp.compare_self] at this
  | cons a l ih =>
    obtain ⟨ka, va⟩ := a
    cases r with
    | nil => have := h ka; simp [lookup, Std.ReflCmp.compare_self] at this
    | cons b r =>
      obtain ⟨kb, vb⟩ := b
      rw [List.pairwise_cons] at hl hr
      have hab : ka = kb := by
        cases hc : compare ka kb with
        | eq => exact Std.LawfulEqCmp.eq_of_compare hc
        | lt =>
          have hn : lookup ka ((kb, vb) :: r) = none := lookup_eq_none_of_lt fun e he => by
            rcases List.mem_cons.1 he with rfl | he
            · exact hc
            · exact Std.TransCmp.lt_trans hc (hr.1 e he)
          have := h ka
          rw [lookup_self_of_ordered, hn] at this
          simp at this
        | gt =>
          have hc' := Std.OrientedCmp.gt_iff_lt.1 hc
          have hn : lookup kb ((ka, va) :: l) = none := lookup_eq_none_of_lt fun e he => by
            rcases List.mem_cons.1 he with rfl | he
            · exact hc'
            · exact Std.TransCmp.lt_trans hc' (hl.1 e he)
          have := h kb
          rw [lookup_self_of_ordered, hn] at this
          simp at this
      subst hab
      have hv := h ka
      simp only [lookup_self_of_ordered, Option.some.injEq] at hv
      subst hv
      refine congrArg _ (ih hl.2 r hr.2 fun k => ?_)
      by_cases hk : compare k ka = .eq
      · obtain rfl := Std.LawfulEqCmp.eq_of_compare hk
        rw [lookup_eq_none_of_lt hl.1, lookup_eq_none_of_lt hr.1]
      · have := h k
        simpa [lookup, hk] using this

end SortedMap

end FleetMend
