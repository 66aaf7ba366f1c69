import FleetMend.Fleet.Codec.Pod

/-!
What is written as JSON is read back, and what is read has properties of its own.

* `Json.Returns`: what is written for one value is read back as the like of another.
* `Json.Yields`: whatever a reader accepts has a property.
* `Json.Returns.option`, `Json.Returns.list`, `Json.Returns.map`: values that return do so within an
  option, a list and a map.
* `Json.bind_members`, `Json.bind_required`, `Json.bind_defaulted`: a record that was written by
  name is read member by member.
* `Json.Yields.option`, `Json.Yields.map`: what is read in an option or a map has the property
  throughout.
-/

namespace FleetMend

namespace Json

/-! ### Numbers and texts -/

theorem str?_str (s : String) : (str s).str? = some s := rfl

theorem bool?_bool (b : Bool) : (bool b).bool? = some b := rfl

theorem int64?_int (n : Int64) : (int n.toInt).int64? = some n := by
  have low := n.le_toInt
  have high := n.toInt_lt
  have fits : fitsInt64 n.toInt = true := fitsInt64_iff.2 (by omega)
  simp only [int64?, int?, Option.filter_some, fits, if_true, Option.map_some, Int64.ofInt_toInt]

theorem nat64?_ofNat {n : Nat} (h : n < Nat.pow 2 64) : (ofNat n).nat64? = some n := by
  have fits : fitsNat64 (n : Int) = true := by
    rw [Nat.pow_eq] at h
    exact fitsNat64_iff.2 (by omega)
  simp only [ofNat, nat64?, int?, Option.filter_some, fits, if_true, Option.map_some,
    Int.toNat_natCast]

theorem uint64?_ofUInt64 (n : UInt64) : (ofUInt64 n).uint64? = some n := by
  rw [ofUInt64, uint64?, nat64?_ofNat n.toNat_lt, Option.map_some, UInt64.ofNat_toNat]

theorem uint32?_ofUInt32 (n : UInt32) : (ofUInt32 n).uint32? = some n := by
  have small := n.toNat_lt
  have fits : fitsNat32 (n.toNat : Int) = true := by
    simp only [fitsNat32, Nat.pow_eq, Nat.reducePow, Bool.and_eq_true, decide_eq_true_eq]
    omega
  simp only [ofUInt32, ofNat, uint32?, int?, Option.filter_some, fits, if_true, Option.map_some,
    Int.toNat_natCast, UInt32.ofNat_toNat]

/-! ### What is read back -/

variable {α : Type} [BEq α] {toJson : α → Json} {ofJson? : Json → Option α} {f : α → α}

/-- What is written for the first is read back as the like of the second. -/
def Returns (toJson : α → Json) (ofJson? : Json → Option α) (a b : α) : Prop :=
  ∃ c, ofJson? (toJson a) = some c ∧ (c == b) = true

namespace Returns

theorem of_eq [ReflBEq α] {a b : α} (h : ofJson? (toJson a) = some b) :
    Returns toJson ofJson? a b := ⟨b, h, BEq.rfl⟩

/-- Where the like is the same, the very value is read back. -/
theorem eq [LawfulBEq α] {a b : α} (h : Returns toJson ofJson? a b) :
    ofJson? (toJson a) = some b := by
  obtain ⟨c, read, like⟩ := h
  rw [read, eq_of_beq like]

/-- A reader that does not take null tells nothing from something. -/
theorem option {o : Option α} (refuses : ofJson? null = none)
    (h : ∀ a ∈ o, Returns toJson ofJson? a (f a)) :
    Returns (ofOption toJson) (option? ofJson?) o (o.map f) := by
  cases o with
  | none => exact ⟨none, rfl, rfl⟩
  | some a =>
    obtain ⟨c, read, like⟩ := h a rfl
    refine ⟨some c, ?_, like⟩
    change option? ofJson? (toJson a) = _
    unfold option?
    split
    · next null => rw [null, refuses] at read; cases read
    · rw [read]; rfl

theorem option_self {o : Option α} (refuses : ofJson? null = none)
    (h : ∀ a ∈ o, Returns toJson ofJson? a a) :
    Returns (ofOption toJson) (option? ofJson?) o o := by
  have returns := option (f := fun a => a) refuses h
  rwa [Option.map_id'] at returns

theorem list {l : List α} (h : ∀ a ∈ l, Returns toJson ofJson? a a) :
    Returns (ofList toJson) (list? ofJson?) l l := by
  change ∃ c, (l.map toJson).mapM ofJson? = some c ∧ _
  induction l with
  | nil => exact ⟨[], rfl, rfl⟩
  | cons a rest ih =>
    obtain ⟨c, read, like⟩ := h a List.mem_cons_self
    obtain ⟨cs, reads, likes⟩ := ih fun b hb => h b (List.mem_cons_of_mem a hb)
    refine ⟨c :: cs, ?_, ?_⟩
    · rw [List.map_cons, List.mapM_cons, read, reads]
      rfl
    · exact Bool.and_eq_true_iff.2 ⟨like, likes⟩

/-- The entries are read back one by one, each under its own key. -/
theorem entries {l : List (String × α)} (h : ∀ e ∈ l, Returns toJson ofJson? e.2 (f e.2)) :
    ∃ r, (l.map fun e => (e.1, toJson e.2)).mapM (fun e => (ofJson? e.2).map (e.1, ·)) = some r ∧
      r.map (·.1) = l.map (·.1) ∧ (r == l.map fun e => (e.1, f e.2)) = true := by
  induction l with
  | nil => exact ⟨[], rfl, rfl, rfl⟩
  | cons e rest ih =>
    obtain ⟨c, read, like⟩ := h e List.mem_cons_self
    obtain ⟨r, reads, keys, likes⟩ := ih fun b hb => h b (List.mem_cons_of_mem e hb)
    refine ⟨(e.1, c) :: r, ?_, ?_, ?_⟩
    · rw [List.map_cons, List.mapM_cons, read, reads]
      rfl
    · rw [List.map_cons, List.map_cons, keys]
    · exact Bool.and_eq_true_iff.2 ⟨Bool.and_eq_true_iff.2 ⟨beq_self_eq_true e.1, like⟩, likes⟩

theorem map {m : SortedMap String α} (h : ∀ a ∈ m.values, Returns toJson ofJson? a (f a)) :
    Returns (ofMap toJson) (map? ofJson?) m (m.mapValues f) := by
  have each : ∀ e ∈ m.entries, Returns toJson ofJson? e.2 (f e.2) :=
    fun e he => h e.2 (List.mem_map_of_mem he)
  obtain ⟨r, reads, keys, likes⟩ := entries each
  -- The order of the entries is that of their keys, and these are the same.
  have ordered : r.Pairwise fun a b => compare a.1 b.1 = .lt := by
    have inOrder : (m.entries.map (·.1)).Pairwise fun a b => compare a b = .lt :=
      List.pairwise_map.2 m.ordered
    rw [← keys] at inOrder
    exact List.pairwise_map.1 inOrder
  refine ⟨.ofList r, ?_, ?_⟩
  · exact congrArg (Option.map SortedMap.ofList) reads
  · change ((SortedMap.ofList r).entries == m.entries.map fun e => (e.1, f e.2)) = true
    rw [SortedMap.entries_ofList ordered, likes]

theorem map_self {m : SortedMap String α} (h : ∀ a ∈ m.values, Returns toJson ofJson? a a) :
    Returns (ofMap toJson) (map? ofJson?) m m := by
  have returns := map (f := fun a => a) h
  rwa [SortedMap.mapValues_eq_self fun _ _ => rfl] at returns

end Returns

/-! ### Records -/

section Records

variable {α β : Type} {ofJson? : Json → Option α} {m : Members} {name : String} {j : Json}
  {a default : α} {rest : α → Option β}

/-- A record that was written by name is read by name. -/
theorem bind_members {fields : List (String × Json)} {names : List String}
    {rest : Members → Option β} :
    (obj fields).members? names >>= rest = rest ⟨true, fun name => fields.lookup name⟩ := rfl

/-- The reader of a record goes on with the member that stands under the name. -/
theorem bind_required (read : ofJson? j = some a) (find : m.find? name = some j) :
    m.required name ofJson? >>= rest = rest a := by
  rw [Members.required, find, Option.bind_some, read]
  rfl

theorem bind_defaulted (read : ofJson? j = some a) (find : m.find? name = some j) :
    m.defaulted name ofJson? default >>= rest = rest a := by
  simp only [Members.defaulted, find, read]
  rfl

end Records

/-! ### What is read -/

omit [BEq α]

/-- Whatever the reader accepts has the property. -/
def Yields (ofJson? : Json → Option α) (P : α → Prop) : Prop :=
  ∀ j a, ofJson? j = some a → P a

theorem yields_nat64 : Yields nat64? (· < Nat.pow 2 64) := by
  intro j n read
  obtain ⟨m, filtered, rfl⟩ := Option.map_eq_some_iff.1 read
  have fits := fitsNat64_iff.1 (Option.filter_eq_some_iff.1 filtered).2
  rw [Nat.pow_eq]
  omega

namespace Yields

variable {P : α → Prop}

theorem option (h : Yields ofJson? P) : Yields (option? ofJson?) fun o => ∀ a ∈ o, P a := by
  intro j o read a ha
  obtain rfl : o = some a := ha
  unfold option? at read
  split at read
  · cases read
  · obtain ⟨b, read, same⟩ := Option.map_eq_some_iff.1 read
    cases same
    exact h _ _ read

theorem mapM {β : Type} {item? : β → Option α} {items : List β} {l : List α}
    (h : ∀ b a, item? b = some a → P a) (read : items.mapM item? = some l) : ∀ a ∈ l, P a := by
  induction items generalizing l with
  | nil => cases read; exact fun _ ha => absurd ha List.not_mem_nil
  | cons b rest ih =>
    rw [List.mapM_cons] at read
    obtain ⟨c, first, read⟩ := Option.bind_eq_some_iff.1 read
    obtain ⟨cs, others, same⟩ := Option.bind_eq_some_iff.1 read
    cases same
    exact List.forall_mem_cons.2 ⟨h b c first, ih others⟩

theorem map (h : Yields ofJson? P) : Yields (map? ofJson?) fun m => ∀ a ∈ m.values, P a := by
  intro j m read
  cases j with
  | obj fields =>
    obtain ⟨l, reads, rfl⟩ := Option.map_eq_some_iff.1 read
    have every : ∀ e ∈ l, P e.2 := by
      refine mapM (P := fun e : String × α => P e.2) (fun field e entry => ?_) reads
      obtain ⟨a, read, rfl⟩ := Option.map_eq_some_iff.1 entry
      exact h field.2 a read
    intro a ha
    obtain ⟨e, he, rfl⟩ := List.mem_map.1 ha
    exact every e (SortedMap.mem_ofList he)
  | _ => cases read

theorem required {m : Members} {name : String} {a : α} (h : Yields ofJson? P)
    (read : m.required name ofJson? = some a) : P a := by
  obtain ⟨j, -, read⟩ := Option.bind_eq_some_iff.1 read
  exact h j a read

/-- A member left out is what stands for it. -/
theorem defaulted {m : Members} {name : String} {a default : α} (h : Yields ofJson? P)
    (missing : P default) (read : m.defaulted name ofJson? default = some a) : P a := by
  unfold Members.defaulted at read
  split at read
  · exact h _ a read
  · cases read
    exact missing

theorem defaulted_option {m : Members} {name : String} {o : Option α} (h : Yields ofJson? P)
    (read : m.defaulted name (option? ofJson?) none = some o) : ∀ a ∈ o, P a :=
  h.option.defaulted (fun _ ha => absurd ha (Option.not_mem_none _)) read

theorem defaulted_map {m : Members} {name : String} {o : SortedMap String α}
    (h : Yields ofJson? P) (read : m.defaulted name (map? ofJson?) ∅ = some o) :
    ∀ a ∈ o.values, P a :=
  h.map.defaulted (fun _ ha => absurd ha List.not_mem_nil) read

end Yields

end Json

end FleetMend
