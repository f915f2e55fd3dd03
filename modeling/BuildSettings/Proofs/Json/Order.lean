import BuildSettings.Json.Basic

/-!
# Ordered values, and paths through them

A value is in order if the members of every object in it ascend by their keys, so no key comes up
twice. A path of keys leads through objects; a value is open to a path if nothing but objects
stands on the way to its end.

* `alike` — equality of values, so that it can be decided.
* `at?_cons` — a path step by step.
* `OpenTo` — values that a path leads through.
* `IsOrdered` — values in order.
-/

namespace BuildSettings.Json

/-! ### Equality -/

mutual

/-- Whether two values are equal. -/
def alike : Json → Json → Bool
  | .null, .null => true
  | .bool a, .bool b => a == b
  | .number a, .number b => a == b
  | .text a, .text b => a == b
  | .array as, .array bs => alikeItems as bs
  | .object as, .object bs => alikeMembers as bs
  | _, _ => false

/-- Whether two lists have equal items. -/
def alikeItems : List Json → List Json → Bool
  | [], [] => true
  | a :: as, b :: bs => alike a b && alikeItems as bs
  | _, _ => false

/-- Whether two lists have equal members. -/
def alikeMembers : List (String × Json) → List (String × Json) → Bool
  | [], [] => true
  | (k, a) :: as, (l, b) :: bs => k == l && alike a b && alikeMembers as bs
  | _, _ => false

end

mutual

/-- The test for equal values is equality. It goes through both values at once, so it is proved
together with the two for lists of items and of members. -/
theorem alike_iff (a b : Json) : alike a b = true ↔ a = b := by
  cases a with
  | array as =>
    cases b with
    | array bs => rw [alike, alikeItems_iff as bs, array.injEq]
    | _ => simp [alike]
  | object as =>
    cases b with
    | object bs => rw [alike, alikeMembers_iff as bs, object.injEq]
    | _ => simp [alike]
  | _ => cases b <;> simp [alike]

theorem alikeItems_iff (as bs : List Json) : alikeItems as bs = true ↔ as = bs := by
  cases as with
  | nil => cases bs <;> simp [alikeItems]
  | cons a as =>
    cases bs with
    | nil => simp [alikeItems]
    | cons b bs =>
      rw [alikeItems, Bool.and_eq_true, alike_iff a b, alikeItems_iff as bs, List.cons.injEq]

theorem alikeMembers_iff (as bs : List (String × Json)) : alikeMembers as bs = true ↔ as = bs := by
  cases as with
  | nil => cases bs <;> simp [alikeMembers]
  | cons a as =>
    cases bs with
    | nil => simp [alikeMembers]
    | cons b bs =>
      obtain ⟨k, a⟩ := a
      obtain ⟨l, b⟩ := b
      rw [alikeMembers, Bool.and_eq_true, Bool.and_eq_true, beq_iff_eq, alike_iff a b,
        alikeMembers_iff as bs, List.cons.injEq, Prod.mk.injEq]

end

instance : DecidableEq Json := fun a b => decidable_of_iff _ (alike_iff a b)

/-! ### Paths -/

/-- Whether the value is an object. -/
def isObject : Json → Bool
  | .object _ => true
  | _ => false

theorem isObject_iff {value : Json} : value.isObject = true ↔ ∃ members, value = .object members := by
  cases value <;> simp [isObject]

@[simp] theorem at?_nil (value : Json) : value.at? [] = some value := rfl

/-- Where a path has left the value it stays outside. -/
theorem foldl_field?_none (path : List String) :
    path.foldl (fun v key => v.bind (field? key)) (none : Option Json) = none := by
  induction path with
  | nil => rfl
  | cons key path ih => exact ih

/-- A path goes on from the member under its first key. -/
theorem at?_cons (value : Json) (key : String) (path : List String) :
    value.at? (key :: path) = (value.field? key).bind (·.at? path) := by
  show path.foldl (fun v key => v.bind (field? key)) (value.field? key) = _
  cases value.field? key with
  | none => exact foldl_field?_none path
  | some below => rfl

theorem at?_singleton (value : Json) (key : String) : value.at? [key] = value.field? key := by
  rw [at?_cons]
  cases value.field? key <;> rfl

/-- What stands on a path before its end is an object. -/
def OpenTo (value : Json) (path : List String) : Prop :=
  ∀ start, start <+: path → start ≠ path → ∀ below, value.at? start = some below →
    below.isObject = true

/-- Each value is open to the empty path, for there is nothing on the way. -/
theorem openTo_nil (value : Json) : value.OpenTo [] := by
  intro start hstart hne
  exact absurd (List.prefix_nil.1 hstart) hne

/-- Open step by step: the value itself is an object, and its member is open to the rest of the
path. This is the form in which the inductions over paths use it. -/
theorem openTo_cons_iff {value : Json} {key : String} {path : List String} :
    value.OpenTo (key :: path) ↔
      value.isObject = true ∧ ∀ below, value.field? key = some below → below.OpenTo path := by
  constructor
  · intro h
    constructor
    · exact h [] List.nil_prefix (by simp) value rfl
    · intro below hbelow start hstart hne end_ hend
      refine h (key :: start) (List.prefix_cons_inj key |>.2 hstart) (by simpa using hne) end_ ?_
      rw [at?_cons, hbelow]
      exact hend
  · rintro ⟨hobject, hbelow⟩ start hstart hne end_ hend
    cases start with
    | nil => exact Option.some.inj hend ▸ hobject
    | cons first start =>
      obtain ⟨rfl, hrest⟩ := List.cons_prefix_cons.1 hstart
      rw [at?_cons] at hend
      obtain ⟨below, hfield, hat⟩ := Option.bind_eq_some_iff.1 hend
      exact hbelow below hfield start hrest (fun h => hne (h ▸ rfl)) end_ hat

/-! ### Order -/

/-- Every object in the value has its keys in order, each once. -/
inductive IsOrdered : Json → Prop
  | null : IsOrdered .null
  | bool (b : Bool) : IsOrdered (.bool b)
  | number (n : Number) : IsOrdered (.number n)
  | text (s : String) : IsOrdered (.text s)
  | array {items : List Json} (hitems : ∀ item ∈ items, IsOrdered item) : IsOrdered (.array items)
  | object {members : List (String × Json)} (hkeys : members.Pairwise fun a b => a.1 < b.1)
      (hmembers : ∀ m ∈ members, IsOrdered m.2) : IsOrdered (.object members)

/-- The keys of an ordered object ascend, so none comes twice. -/
theorem IsOrdered.keys {members : List (String × Json)} (h : (Json.object members).IsOrdered) :
    members.Pairwise fun a b => a.1 < b.1 := by
  cases h with
  | object hkeys _ => exact hkeys

/-- Each part of an ordered value is ordered. -/
theorem IsOrdered.field? {value below : Json} {key : String} (h : value.IsOrdered)
    (hbelow : value.field? key = some below) : below.IsOrdered := by
  cases h with
  | object hkeys hmembers => exact hmembers _ ((Dictionary.lookup_eq_some_iff hkeys).1 hbelow)
  | _ => cases hbelow

/-- So is what is left of an object without its first member. -/
theorem IsOrdered.tail {m : String × Json} {members : List (String × Json)}
    (h : (Json.object (m :: members)).IsOrdered) : (Json.object members).IsOrdered := by
  cases h with
  | object hkeys hmembers =>
    exact .object (List.pairwise_cons.1 hkeys).2 (List.forall_mem_cons.1 hmembers).2

/-- An object is in order if its keys are and whatever stands under a key is. -/
theorem IsOrdered.of_lookup {members : List (String × Json)}
    (hkeys : members.Pairwise fun a b => a.1 < b.1)
    (hlookup : ∀ key value, members.lookup key = some value → value.IsOrdered) :
    (Json.object members).IsOrdered :=
  .object hkeys fun m hm => hlookup m.1 m.2 ((Dictionary.lookup_eq_some_iff hkeys).2 hm)

theorem isOrdered_entries {d : Dictionary Json}
    (h : ∀ key value, d.get? key = some value → value.IsOrdered) :
    (Json.object d.entries).IsOrdered :=
  .of_lookup d.ascending h

end BuildSettings.Json
