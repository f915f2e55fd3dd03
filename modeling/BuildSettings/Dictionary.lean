/-!
# Dictionaries with text keys

A `Dictionary α` is a finite map from text to `α`, held as its entries in ascending key order
(code point order, which is also the order of the UTF-8 bytes). The order is part of the type,
so two dictionaries with the same look-ups are equal (`Dictionary.ext_get?`).

Main statements: `get?_insert` says what an insertion does to every look-up, `get?_extend` the
same for laying one dictionary over another.

Notes on how dictionaries mirror the maps of a program:
- A program keeps its maps in balanced trees and compares keys by their bytes. Here the entries are
  a list, and keys are compared by code points; that this is the same order is `utf8Bytes_lt_iff`.
- Two trees that hold the same entries may differ in shape, which no function of a map can tell. Two
  dictionaries with the same entries are equal, so statements about maps are equations.
-/

namespace BuildSettings

/-- A finite map from text to `α`; its entries ascend strictly by key. -/
structure Dictionary (α : Type) where
  /-- The entries in key order. -/
  entries : List (String × α)
  /-- Each key is smaller than every later one. -/
  ascending : entries.Pairwise (fun a b => a.1 < b.1)

namespace Dictionary

variable {α β : Type}

/-- Sorted insertion into a list of entries; an entry with the same key is replaced. -/
def insertEntry (key : String) (value : α) : List (String × α) → List (String × α)
  | [] => [(key, value)]
  | (k, v) :: rest =>
    if key < k then (key, value) :: (k, v) :: rest
    else if k < key then (k, v) :: insertEntry key value rest
    else (k, value) :: rest

theorem mem_insertEntry {key : String} {value : α} {e : String × α} {l : List (String × α)}
    (h : e ∈ insertEntry key value l) : e.1 = key ∨ ∃ v, (e.1, v) ∈ l := by
  induction l with
  | nil => simp [insertEntry] at h; simp [h]
  | cons hd tl ih =>
    obtain ⟨k, v⟩ := hd
    rw [insertEntry] at h
    split at h
    · rcases List.mem_cons.1 h with rfl | h
      · exact .inl rfl
      · exact .inr ⟨e.2, h⟩
    · split at h
      · rcases List.mem_cons.1 h with rfl | h
        · exact .inr ⟨v, by simp⟩
        · rcases ih h with h | ⟨w, h⟩
          · exact .inl h
          · exact .inr ⟨w, List.mem_cons_of_mem _ h⟩
      · rcases List.mem_cons.1 h with rfl | h
        · exact .inr ⟨v, by simp⟩
        · exact .inr ⟨e.2, List.mem_cons_of_mem _ h⟩

theorem insertEntry_ascending (key : String) (value : α) {l : List (String × α)}
    (h : l.Pairwise (fun a b => a.1 < b.1)) :
    (insertEntry key value l).Pairwise (fun a b => a.1 < b.1) := by
  induction l with
  | nil => simp [insertEntry]
  | cons hd tl ih =>
    obtain ⟨k, v⟩ := hd
    have ⟨hhd, htl⟩ := List.pairwise_cons.1 h
    rw [insertEntry]
    split
    next hlt =>
      refine List.pairwise_cons.2 ⟨fun e he => ?_, h⟩
      rcases List.mem_cons.1 he with rfl | he
      · exact hlt
      · exact String.lt_trans hlt (hhd e he)
    · split
      next hgt =>
        refine List.pairwise_cons.2 ⟨fun e he => ?_, ih htl⟩
        rcases mem_insertEntry he with he | ⟨w, he⟩
        · exact he ▸ hgt
        · exact hhd (e.1, w) he
      · exact List.pairwise_cons.2 ⟨hhd, htl⟩

/-- The dictionary without entries. -/
def empty : Dictionary α := ⟨[], .nil⟩

instance : EmptyCollection (Dictionary α) := ⟨empty⟩

instance : Inhabited (Dictionary α) := ⟨empty⟩

instance [DecidableEq α] : DecidableEq (Dictionary α) := fun a b =>
  decidable_of_iff (a.entries = b.entries) (by cases a; cases b; simp)

/-- The value of the entry with this key. -/
def get? (d : Dictionary α) (key : String) : Option α :=
  d.entries.lookup key

/-- Sets the value of one key. -/
def insert (d : Dictionary α) (key : String) (value : α) : Dictionary α :=
  ⟨insertEntry key value d.entries, insertEntry_ascending key value d.ascending⟩

/-- Enters the pairs from left to right, so the last of several pairs with one key stays. -/
def insertAll (d : Dictionary α) (pairs : List (String × α)) : Dictionary α :=
  pairs.foldl (fun acc pair => acc.insert pair.1 pair.2) d

/-- The dictionary of the pairs; the last of several pairs with one key stays. -/
def ofList (pairs : List (String × α)) : Dictionary α :=
  insertAll ∅ pairs

/-- Lays `top` over `d`: where both have a key, `top` decides. -/
def extend (d top : Dictionary α) : Dictionary α :=
  d.insertAll top.entries

/-- Whether the key has an entry. -/
def contains (d : Dictionary α) (key : String) : Bool :=
  (d.get? key).isSome

/-- The keys in ascending order. -/
def keys (d : Dictionary α) : List String :=
  d.entries.map (·.1)

/-- The number of entries. -/
def size (d : Dictionary α) : Nat :=
  d.entries.length

/-- Whether there are no entries. -/
def isEmpty (d : Dictionary α) : Bool :=
  d.entries.isEmpty

/-- The same keys with each value replaced by its image. -/
def map (f : α → β) (d : Dictionary α) : Dictionary β :=
  ⟨d.entries.map fun e => (e.1, f e.2), d.ascending.map _ fun _ _ h => h⟩

/-- The entries that satisfy `p`. -/
def filter (p : String → α → Bool) (d : Dictionary α) : Dictionary α :=
  ⟨d.entries.filter fun e => p e.1 e.2, d.ascending.filter _⟩

/-! ### Look-ups -/

theorem lookup_cons_eq (e : String × α) (l : List (String × α)) (k : String) :
    (e :: l).lookup k = if k = e.1 then some e.2 else l.lookup k := by
  obtain ⟨k', v⟩ := e
  by_cases h : k = k'
  · simp [h]
  · have h' : (k == k') = false := by simpa using h
    simp [List.lookup_cons, h', h]

theorem mem_of_lookup {l : List (String × α)} {k : String} {v : α} (h : l.lookup k = some v) :
    (k, v) ∈ l := by
  obtain ⟨l₁, l₂, rfl, -⟩ := List.lookup_eq_some_iff.1 h
  exact List.mem_append_right _ List.mem_cons_self

@[simp] theorem get?_empty (key : String) : (∅ : Dictionary α).get? key = none := rfl

theorem eq_of_not_lt {a b : String} (h : ¬ a < b) (h' : ¬ b < a) : a = b :=
  String.le_antisymm h' h

theorem lookup_insertEntry (key k : String) (value : α) (l : List (String × α)) :
    (insertEntry key value l).lookup k = if k = key then some value else l.lookup k := by
  induction l with
  | nil => simp [insertEntry, lookup_cons_eq]
  | cons hd tl ih =>
    obtain ⟨k', v⟩ := hd
    rw [insertEntry]
    split
    · simp [lookup_cons_eq]
    · split
      next hgt =>
        have hne : k' ≠ key := fun h => String.lt_irrefl _ (h ▸ hgt)
        by_cases h : k = key
        · subst h
          simp [lookup_cons_eq, Ne.symm hne, ih]
        · simp [lookup_cons_eq, h, ih]
      next hlt hgt =>
        obtain rfl := eq_of_not_lt hlt hgt
        by_cases h : k = key <;> simp [lookup_cons_eq, h]

/-- An insertion answers for its own key and leaves every other look-up alone. -/
theorem get?_insert (d : Dictionary α) (key k : String) (value : α) :
    (d.insert key value).get? k = if k = key then some value else d.get? k :=
  lookup_insertEntry key k value d.entries

@[simp] theorem get?_insert_self (d : Dictionary α) (key : String) (value : α) :
    (d.insert key value).get? key = some value := by
  simp [get?_insert]

theorem get?_insert_of_ne (d : Dictionary α) {key k : String} (value : α) (h : k ≠ key) :
    (d.insert key value).get? k = d.get? k := by
  simp [get?_insert, h]

/-- Entering pairs one by one: the last pair with a key answers for it. -/
theorem get?_insertAll (d : Dictionary α) (pairs : List (String × α)) (k : String) :
    (d.insertAll pairs).get? k = (pairs.reverse.lookup k).or (d.get? k) := by
  induction pairs generalizing d with
  | nil => simp [insertAll]
  | cons pair rest ih =>
    have step : (insertAll d (pair :: rest)) = insertAll (d.insert pair.1 pair.2) rest := rfl
    rw [step, ih, List.reverse_cons, List.lookup_append, Option.or_assoc, get?_insert]
    congr 1
    by_cases h : k = pair.1 <;> simp [lookup_cons_eq, h]

theorem get?_ofList (pairs : List (String × α)) (k : String) :
    (ofList pairs).get? k = pairs.reverse.lookup k := by
  simp [ofList, get?_insertAll]

theorem lookup_map (f : α → β) (k : String) (l : List (String × α)) :
    (l.map fun e => (e.1, f e.2)).lookup k = (l.lookup k).map f := by
  induction l with
  | nil => rfl
  | cons hd tl ih =>
    by_cases h : k = hd.1 <;> simp [lookup_cons_eq, h, ih]

@[simp] theorem get?_map (f : α → β) (d : Dictionary α) (k : String) :
    (d.map f).get? k = (d.get? k).map f :=
  lookup_map f k d.entries

/-- Pairs of names and what `f` has for them: each name of the list is looked up in `f`. -/
theorem lookup_filterMap_pair (f : String → Option α) (l : List String) (k : String) :
    (l.filterMap fun x => (f x).map (x, ·)).lookup k = if k ∈ l then f k else none := by
  induction l with
  | nil => rfl
  | cons x l ih =>
    by_cases hk : k = x
    · subst hk
      cases hf : f k with
      | none => simp [hf, ih]
      | some v => simp [hf]
    · cases hf : f x with
      | none => simp [hf, ih, hk]
      | some v => simp [hf, ih, hk, lookup_cons_eq]

theorem lookup_map_pair (value : α) (l : List String) (k : String) :
    (l.map fun x => (x, value)).lookup k = if k ∈ l then some value else none := by
  have hpairs := lookup_filterMap_pair (fun _ => some value) l k
  simpa only [Option.map_some, List.filterMap_eq_map'] using hpairs

/-! ### Entries and look-ups agree -/

theorem lookup_eq_some_iff {l : List (String × α)} (h : l.Pairwise (fun a b => a.1 < b.1))
    {k : String} {v : α} : l.lookup k = some v ↔ (k, v) ∈ l := by
  induction l with
  | nil => simp
  | cons hd tl ih =>
    obtain ⟨k', v'⟩ := hd
    have ⟨hhd, htl⟩ := List.pairwise_cons.1 h
    by_cases hk : k = k'
    · subst hk
      have hnot : ∀ w, (k, w) ∉ tl := fun w hw => String.lt_irrefl _ (hhd (k, w) hw)
      simp [hnot, eq_comm]
    · simp [lookup_cons_eq, hk, ih htl]

theorem get?_eq_some_iff {d : Dictionary α} {k : String} {v : α} :
    d.get? k = some v ↔ (k, v) ∈ d.entries :=
  lookup_eq_some_iff d.ascending

theorem get?_filter_eq_some {p : String → α → Bool} {d : Dictionary α} {k : String} {v : α} :
    (d.filter p).get? k = some v ↔ d.get? k = some v ∧ p k v = true := by
  rw [get?_eq_some_iff, get?_eq_some_iff]
  exact List.mem_filter

/-- Filtering keeps a look-up or makes it fail. -/
theorem get?_filter (p : String → α → Bool) (d : Dictionary α) (k : String) :
    (d.filter p).get? k = (d.get? k).filter (p k) := by
  refine Option.ext fun v => ?_
  rw [get?_filter_eq_some, Option.filter_eq_some_iff]

theorem mem_keys_iff {d : Dictionary α} {k : String} : k ∈ d.keys ↔ (d.get? k).isSome := by
  simp [keys, Option.isSome_iff_exists, get?_eq_some_iff]

theorem contains_iff {d : Dictionary α} {k : String} :
    d.contains k = true ↔ ∃ v, d.get? k = some v :=
  Option.isSome_iff_exists

theorem contains_eq_false_iff {d : Dictionary α} {k : String} :
    d.contains k = false ↔ d.get? k = none :=
  Option.isSome_eq_false_iff.trans Option.isNone_iff_eq_none

theorem lookup_reverse {l : List (String × α)} (h : l.Pairwise (fun a b => a.1 < b.1))
    (k : String) : l.reverse.lookup k = l.lookup k := by
  induction l with
  | nil => rfl
  | cons hd tl ih =>
    obtain ⟨k', v'⟩ := hd
    have ⟨hhd, htl⟩ := List.pairwise_cons.1 h
    rw [List.reverse_cons, List.lookup_append, ih htl]
    by_cases hk : k = k'
    · subst hk
      have : tl.lookup k = none := by
        rw [Option.eq_none_iff_forall_ne_some]
        intro v hv
        exact String.lt_irrefl _ (hhd (k, v) ((lookup_eq_some_iff htl).1 hv))
      simp [this]
    · simp [lookup_cons_eq, hk]

/-- Laying `top` over `d`: `top` answers first. -/
theorem get?_extend (d top : Dictionary α) (k : String) :
    (d.extend top).get? k = (top.get? k).or (d.get? k) := by
  rw [extend, get?_insertAll, lookup_reverse top.ascending]
  rfl

theorem entries_eq_of_lookup {l m : List (String × α)} (hl : l.Pairwise (fun a b => a.1 < b.1))
    (hm : m.Pairwise (fun a b => a.1 < b.1)) (h : ∀ k, l.lookup k = m.lookup k) : l = m := by
  induction l generalizing m with
  | nil =>
    cases m with
    | nil => rfl
    | cons hd tl => exact absurd (h hd.1) (by simp [lookup_cons_eq])
  | cons a l ih =>
    cases m with
    | nil => exact absurd (h a.1) (by simp [lookup_cons_eq])
    | cons b m =>
      have ⟨ha, hl'⟩ := List.pairwise_cons.1 hl
      have ⟨hb, hm'⟩ := List.pairwise_cons.1 hm
      have hab : a ∈ b :: m := (lookup_eq_some_iff hm).1 (by rw [← h]; simp [lookup_cons_eq])
      have hba : b ∈ a :: l := (lookup_eq_some_iff hl).1 (by rw [h]; simp [lookup_cons_eq])
      have hkey : a = b := by
        rcases List.mem_cons.1 hab with rfl | hab
        · rfl
        · rcases List.mem_cons.1 hba with rfl | hba
          · rfl
          · exact absurd (String.lt_trans (hb _ hab) (ha _ hba)) (String.lt_irrefl _)
      subst hkey
      congr 1
      refine ih hl' hm' fun k => ?_
      by_cases hk : k = a.1
      · subst hk
        have none_of : ∀ {t : List (String × α)}, (∀ e ∈ t, a.1 < e.1) → t.lookup a.1 = none := by
          intro t ht
          rw [List.lookup_eq_none_iff]
          intro e he
          simpa using fun heq => String.lt_irrefl _ (heq ▸ ht e he)
        rw [none_of ha, none_of hb]
      · simpa [lookup_cons_eq, hk] using h k

/-- Equal look-ups make equal dictionaries. -/
theorem ext_get? {d e : Dictionary α} (h : ∀ k, d.get? k = e.get? k) : d = e := by
  cases d with
  | mk entries asc =>
    cases e with
    | mk entries' asc' =>
      have : entries = entries' := entries_eq_of_lookup asc asc' h
      subst this
      rfl

theorem eq_empty_of_isEmpty {d : Dictionary α} (h : d.isEmpty = true) : d = ∅ := by
  refine ext_get? fun k => ?_
  rw [get?, List.isEmpty_iff.1 h]
  rfl

/-- Entering the entries of a dictionary gives the dictionary. -/
theorem ofList_entries (d : Dictionary α) : ofList d.entries = d := by
  refine ext_get? fun k => ?_
  rw [get?_ofList, lookup_reverse d.ascending]
  rfl

/-- Setting a value that is there already changes nothing. -/
theorem insert_eq_self {d : Dictionary α} {key : String} {value : α}
    (h : d.get? key = some value) : d.insert key value = d := by
  refine ext_get? fun k => ?_
  rw [get?_insert]
  split
  next hk => rw [hk, h]
  next => rfl

/-! ### Parts -/

/-- Each entry of the one is an entry of the other. -/
def IsPart (d e : Dictionary α) : Prop :=
  ∀ k v, d.get? k = some v → e.get? k = some v

theorem isPart_iff {d e : Dictionary α} :
    d.IsPart e ↔ ∀ entry ∈ d.entries, e.get? entry.1 = some entry.2 :=
  ⟨fun h entry hentry => h entry.1 entry.2 (get?_eq_some_iff.2 hentry),
    fun h k v hget => h (k, v) (get?_eq_some_iff.1 hget)⟩

theorem IsPart.refl (d : Dictionary α) : d.IsPart d :=
  fun _ _ h => h

theorem IsPart.trans {d e f : Dictionary α} (hde : d.IsPart e) (hef : e.IsPart f) : d.IsPart f :=
  fun k v h => hef k v (hde k v h)

theorem IsPart.contains {d e : Dictionary α} (h : d.IsPart e) {k : String}
    (hk : d.contains k = true) : e.contains k = true := by
  obtain ⟨v, hv⟩ := contains_iff.1 hk
  exact contains_iff.2 ⟨v, h k v hv⟩

/-- A part has no key that the whole does not have. -/
theorem IsPart.get?_eq_none {d e : Dictionary α} (h : d.IsPart e) {k : String}
    (hk : e.get? k = none) : d.get? k = none := by
  cases hd : d.get? k with
  | none => rfl
  | some v =>
    rw [h k v hd] at hk
    cases hk

/-- A new key takes no entry away. -/
theorem isPart_insert {d : Dictionary α} {key : String} (h : d.get? key = none) (value : α) :
    d.IsPart (d.insert key value) := by
  intro k v hv
  have hne : k ≠ key := by
    rintro rfl
    rw [h] at hv
    cases hv
  rw [get?_insert_of_ne d value hne]
  exact hv

end Dictionary

end BuildSettings
