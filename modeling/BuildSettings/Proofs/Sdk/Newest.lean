import BuildSettings.Sdk.Basic
import Mathlib.Data.List.Basic

/-!
# The newest SDK

Every text is a version, since parts that are no numbers of 32 bits do not count. So the order of
versions is that of the lists of numbers that are left (`compareParts_eq`), and its laws hold of all
texts. It is no order of the texts themselves: `17.2`, `17.02` and `17.x.2` are equal.

* `parts_of_spells` — nothing is lost of a version that is written in digits and dots.
* `newest?_eq_some_iff` — of the entries with the newest version the last one is taken.
* `find_newest` — so it is for the SDKs of a catalog.
-/

namespace BuildSettings

namespace Version

/-! ### The order -/

/-- Lists of parts are compared as the library compares lists of numbers, from which the laws of an
order come. -/
theorem compareParts_eq (as bs : List Nat) : compareParts as bs = Ord.compare as bs := by
  induction as generalizing bs with
  | nil => cases bs <;> rfl
  | cons a as ih =>
    cases bs with
    | nil => rfl
    | cons b bs =>
      rw [compareParts, List.compare_cons_cons, ih]
      rcases Nat.lt_trichotomy a b with hlt | rfl | hgt
      · rw [if_pos hlt, Nat.compare_eq_lt.2 hlt]
        rfl
      · rw [if_neg (Nat.lt_irrefl a), if_neg (Nat.lt_irrefl a), Nat.compare_eq_eq.2 rfl]
        rfl
      · rw [if_neg (Nat.lt_asymm hgt), if_pos hgt, Nat.compare_eq_gt.2 hgt]
        rfl

/-- The first part that differs decides, and a list that runs out before is smaller. -/
theorem compareParts_eq_lt_iff {as bs : List Nat} : compareParts as bs = .lt ↔ as < bs := by
  induction as generalizing bs with
  | nil => cases bs <;> simp [compareParts]
  | cons a as ih =>
    cases bs with
    | nil => simp [compareParts]
    | cons b bs =>
      rw [compareParts, List.cons_lt_cons_iff]
      rcases Nat.lt_trichotomy a b with hlt | rfl | hgt
      · simp [hlt]
      · simp [ih]
      · simp [Nat.lt_asymm hgt, hgt, Nat.ne_of_gt hgt]

/-- Only the same numbers compare as equal, so versions that do are spelled with the same parts. -/
theorem compareParts_eq_eq_iff {as bs : List Nat} : compareParts as bs = .eq ↔ as = bs := by
  rw [compareParts_eq]
  exact Std.LawfulEqOrd.compare_eq_iff_eq

instance : Std.TransCmp Version.compare where
  eq_swap := by
    intro a b
    rw [compare, compare, compareParts_eq, compareParts_eq]
    exact Std.OrientedCmp.eq_swap
  isLE_trans := by
    intro a b c
    rw [compare, compare, compare, compareParts_eq, compareParts_eq, compareParts_eq]
    exact Std.TransCmp.isLE_trans

/-! ### Versions in digits and dots -/

/-- The number that is written in these digits. -/
def valueOf (digits : List Char) : Nat :=
  Nat.ofDigitChars 10 digits 0

/-- The version is written as these numbers: each in digits, perhaps with zeros in front, and with a
dot between neighbours. -/
def Spells (version : String) (numbers : List Nat) : Prop :=
  ∃ words, words ≠ [] ∧ version.toList = Text.joinPieces '.' words ∧
    (∀ word ∈ words, word ≠ [] ∧ ∀ c ∈ word, c.isDigit = true) ∧ words.map valueOf = numbers

/-- Digits are read as the number they spell if it has 32 bits, leading zeros included. Larger
numbers are not read, and then the part does not count. -/
theorem part?_of_digits {digits : List Char} (hne : digits ≠ [])
    (hdigits : ∀ c ∈ digits, c.isDigit = true) (hsmall : valueOf digits < Decimal.twoTo 32) :
    part? digits = some (valueOf digits) := by
  have hvalue : digits.foldl (fun n c => n * 10 + (c.toNat - 48)) 0 = valueOf digits := by
    simp only [valueOf, Nat.ofDigitChars, Nat.mul_comm]
    rfl
  unfold part?
  split
  next rest => exact absurd (hdigits '+' (List.mem_cons_self ..)) (by decide)
  next =>
    dsimp only
    rw [hvalue, if_pos]
    simp only [Bool.and_eq_true, Bool.not_eq_true', List.isEmpty_eq_false_iff, List.all_eq_true,
      decide_eq_true_eq]
    exact ⟨⟨hne, hdigits⟩, hsmall⟩

/-- All numbers of 32 bits count. -/
theorem parts_of_spells {version : String} {numbers : List Nat} (h : Spells version numbers)
    (hsmall : ∀ n ∈ numbers, n < Decimal.twoTo 32) : parts version = numbers := by
  obtain ⟨words, hne, hversion, hwords, rfl⟩ := h
  have hpieces : Text.pieces '.' version.toList = words := by
    refine Text.pieces_eq_iff.2 ⟨hne, fun word hword hdot => ?_, hversion⟩
    exact absurd ((hwords word hword).2 '.' hdot) (by decide)
  have hparts : ∀ word ∈ words, part? word = some (valueOf word) := fun word hword =>
    part?_of_digits (hwords word hword).1 (hwords word hword).2
      (hsmall _ (List.mem_map_of_mem hword))
  rw [parts, hpieces, List.filterMap_congr hparts, List.filterMap_eq_map']

/-! ### The choice -/

section Newest

variable {α : Type} {version : α → String} {l : List α} {x y : α}

/-- No entry of the list has a newer version, and no entry behind this one has the same. -/
def IsNewest (version : α → String) (l : List α) (x : α) : Prop :=
  ∃ before after, l = before ++ x :: after ∧
    (∀ y ∈ before, (compare (version y) (version x)).isLE = true) ∧
    ∀ y ∈ after, compare (version y) (version x) = .lt

theorem IsNewest.mem (h : IsNewest version l x) : x ∈ l := by
  obtain ⟨before, after, rfl, -, -⟩ := h
  exact List.mem_append_right _ (List.mem_cons_self ..)

/-- No other is newer. Among equal ones it is the last, which this does not say. -/
theorem IsNewest.isLE (h : IsNewest version l x) :
    ∀ y ∈ l, (compare (version y) (version x)).isLE = true := by
  obtain ⟨before, after, rfl, hbefore, hafter⟩ := h
  intro y hy
  rcases List.mem_append.1 hy with hmem | hmem
  · exact hbefore y hmem
  · rcases List.mem_cons.1 hmem with rfl | hmem
    · exact Std.ReflCmp.isLE_rfl
    · rw [hafter y hmem]
      rfl

/-- An entry in front of others is the newest if it is newer than the newest of them. -/
theorem IsNewest.cons_of_gt (h : IsNewest version l y)
    (hgt : compare (version x) (version y) = .gt) : IsNewest version (x :: l) x := by
  refine ⟨[], l, rfl, nofun, fun z hz => ?_⟩
  exact Std.TransCmp.lt_of_isLE_of_lt (h.isLE z hz) (Std.OrientedCmp.lt_of_gt hgt)

/-- Otherwise the newest of the others stays. -/
theorem IsNewest.cons_of_isLE (h : IsNewest version l y)
    (hle : (compare (version x) (version y)).isLE = true) : IsNewest version (x :: l) y := by
  obtain ⟨before, after, rfl, hbefore, hafter⟩ := h
  exact ⟨x :: before, after, rfl, List.forall_mem_cons.2 ⟨hle, hbefore⟩, hafter⟩

/-- There is a newest entry, unless there are none. -/
theorem newest?_eq_none_iff : newest? version l = none ↔ l = [] := by
  cases l with
  | nil => simp [newest?]
  | cons x xs =>
    rw [newest?]
    cases newest? version xs with
    | none => simp
    | some y => simp [ite_eq_iff]

/-- What the search for the newest finds is the newest: the search keeps the later of two equal
ones. -/
theorem isNewest_of_newest? (h : newest? version l = some x) : IsNewest version l x := by
  induction l generalizing x with
  | nil => cases h
  | cons z l ih =>
    rw [newest?] at h
    split at h
    -- nothing behind, so the entry is the newest
    next hnone =>
      obtain rfl := newest?_eq_none_iff.1 hnone
      obtain rfl := Option.some.inj h
      exact ⟨[], [], rfl, nofun, nofun⟩
    next y hy =>
      split at h
      next hgt =>
        obtain rfl := Option.some.inj h
        exact (ih hy).cons_of_gt hgt
      next hle =>
        obtain rfl := Option.some.inj h
        exact (ih hy).cons_of_isLE (Ordering.isLE_iff_ne_gt.2 hle)

/-- The newest entry is the one that is taken. There is one newest entry at most, because of several
equal ones it is the last. -/
theorem newest?_eq_some_iff : newest? version l = some x ↔ IsNewest version l x := by
  refine ⟨isNewest_of_newest?, ?_⟩
  rintro ⟨before, after, rfl, hbefore, hafter⟩
  induction before with
  | nil =>
    rw [List.nil_append, newest?]
    split
    next => rfl
    next y hy =>
      -- the newest of the rest is older, so the entry itself is taken
      have hlt := hafter y (isNewest_of_newest? hy).mem
      rw [if_pos (Std.OrientedCmp.gt_of_lt hlt)]
  | cons y before ih =>
    obtain ⟨hy, hbefore⟩ := List.forall_mem_cons.1 hbefore
    rw [List.cons_append, newest?, ih hbefore]
    exact if_neg (Ordering.isLE_iff_ne_gt.1 hy)

end Newest

end Version

/-! ### Catalogs -/

namespace SdkCatalog

open Version (IsNewest Spells)

/-- The SDK has this name, where the case of ASCII letters does not count. -/
def IsFor (platform : String) (sdk : Sdk) : Prop :=
  Text.asciiLower sdk.name = Text.asciiLower platform

instance (platform : String) (sdk : Sdk) : Decidable (IsFor platform sdk) :=
  inferInstanceAs (Decidable (_ = _))

variable {catalog : SdkCatalog} {platform : String} {sdk : Sdk}

/-- The catalog searches among its SDKs for the variant, the case of ASCII letters aside. -/
theorem find_eq (catalog : SdkCatalog) (platform : String) :
    catalog.find platform =
      match Version.newest? Sdk.version (catalog.sdks.filter (IsFor platform ·)) with
      | some sdk => .ok sdk
      | none => .error (.missing platform) :=
  rfl

/-- It gives the newest SDK of the variant. -/
theorem find_eq_ok_iff : catalog.find platform = .ok sdk ↔
    IsNewest Sdk.version (catalog.sdks.filter (IsFor platform ·)) sdk := by
  rw [← Version.newest?_eq_some_iff, find_eq]
  cases Version.newest? Sdk.version (catalog.sdks.filter (IsFor platform ·)) <;> simp

/-- It gives none if there is none for the variant, and the error has the name that was asked for.
-/
theorem find_eq_error_iff {error : SdkError} : catalog.find platform = .error error ↔
    (¬ ∃ sdk ∈ catalog.sdks, IsFor platform sdk) ∧ error = .missing platform := by
  have hnone : (¬ ∃ sdk ∈ catalog.sdks, IsFor platform sdk) ↔
      Version.newest? Sdk.version (catalog.sdks.filter (IsFor platform ·)) = none := by
    simp [Version.newest?_eq_none_iff, List.filter_eq_nil_iff]
  rw [hnone, find_eq]
  cases Version.newest? Sdk.version (catalog.sdks.filter (IsFor platform ·)) <;> simp [eq_comm]

/-- The newest of the entries that count is older than none of those in front of it, and newer than
those behind it. -/
theorem isNewest_filter_iff {p : Sdk → Bool} {sdks : List Sdk} :
    IsNewest Sdk.version (sdks.filter p) sdk ↔
      ∃ before after, sdks = before ++ sdk :: after ∧ p sdk = true ∧
        (∀ s ∈ before, p s = true → (Version.compare s.version sdk.version).isLE = true) ∧
        ∀ s ∈ after, p s = true → Version.compare s.version sdk.version = .lt := by
  constructor
  · rintro ⟨front, back, hsplit, hfront, hback⟩
    -- entries that do not count may stand on both sides
    obtain ⟨before, rest, rfl, rfl, hrest⟩ := List.filter_eq_append_iff.1 hsplit
    obtain ⟨others, after, rfl, hothers, hsdk, rfl⟩ := List.filter_eq_cons_iff.1 hrest
    refine ⟨before ++ others, after, by simp, hsdk, fun s hs hp => ?_, fun s hs hp => ?_⟩
    · rcases List.mem_append.1 hs with hmem | hmem
      · exact hfront s (List.mem_filter.2 ⟨hmem, hp⟩)
      · exact absurd hp (hothers s hmem)
    · exact hback s (List.mem_filter.2 ⟨hs, hp⟩)
  · rintro ⟨before, after, rfl, hsdk, hbefore, hafter⟩
    refine ⟨before.filter p, after.filter p, ?_, fun s hs => ?_, fun s hs => ?_⟩
    · rw [List.filter_append, List.filter_cons_of_pos hsdk]
    · exact hbefore s (List.mem_filter.1 hs).1 (List.mem_filter.1 hs).2
    · exact hafter s (List.mem_filter.1 hs).1 (List.mem_filter.1 hs).2

/-- **A catalog has the newest SDK.** Any two texts can be compared as versions, and no comparison
contradicts another one. Versions in digits and dots, with numbers of 32 bits, are compared number
by number, and one that runs out first is older. A catalog has no SDK for a platform exactly if none
of its entries has the name; otherwise it gives the entry that is older than none of them, and the
last of several. -/
theorem find_newest :
    ((∀ a, Version.compare a a = .eq) ∧
      (∀ a b, Version.compare b a = (Version.compare a b).swap) ∧
      ∀ a b c, (Version.compare a b).isLE = true → (Version.compare b c).isLE = true →
        (Version.compare a c).isLE = true) ∧
    (∀ a b as bs, Spells a as → Spells b bs → (∀ n ∈ as ++ bs, n < Decimal.twoTo 32) →
      (Version.compare a b = .lt ↔ as < bs) ∧ (Version.compare a b = .eq ↔ as = bs)) ∧
    ∀ (catalog : SdkCatalog) (platform : String),
      (∀ error, catalog.find platform = .error error ↔
        (¬ ∃ sdk ∈ catalog.sdks, IsFor platform sdk) ∧ error = .missing platform) ∧
      ∀ sdk, catalog.find platform = .ok sdk ↔
        ∃ before after, catalog.sdks = before ++ sdk :: after ∧ IsFor platform sdk ∧
          (∀ s ∈ before, IsFor platform s →
            (Version.compare s.version sdk.version).isLE = true) ∧
          ∀ s ∈ after, IsFor platform s → Version.compare s.version sdk.version = .lt := by
  refine ⟨⟨?_, ?_, ?_⟩, ?_, fun catalog platform => ⟨fun error => find_eq_error_iff, ?_⟩⟩
  · exact fun a => Std.ReflCmp.compare_self
  · exact fun a b => Std.OrientedCmp.eq_swap
  · exact fun a b c => Std.TransCmp.isLE_trans
  · intro a b as bs ha hb hsmall
    have has := Version.parts_of_spells ha fun n hn => hsmall n (List.mem_append_left _ hn)
    have hbs := Version.parts_of_spells hb fun n hn => hsmall n (List.mem_append_right _ hn)
    rw [Version.compare, has, hbs]
    exact ⟨Version.compareParts_eq_lt_iff, Version.compareParts_eq_eq_iff⟩
  · intro sdk
    rw [find_eq_ok_iff, isNewest_filter_iff]
    simp only [decide_eq_true_eq]

/-- Entries of several spellings of one name and of one version. -/
def spelledCatalog : SdkCatalog where
  sdks := [{ name := "macosx", version := "99" }, { name := "iPhoneOS", version := "17.10" },
    { name := "iphoneos", version := "17.beta.010" }, { name := "IPHONEOS", version := "17.9.4" }]

/-- A part that is no number does not count, leading zeros do not either, and 9 is less than 10,
though not as a text. -/
theorem find_newest_spelled :
    Version.compare "17.9.4" "17.010" = .lt ∧
    (∃ sdk, spelledCatalog.find "iphoneOS" = .ok sdk ∧ sdk.version = "17.beta.010") ∧
    spelledCatalog.find "watchos" = .error (.missing "watchos") := by
  obtain ⟨-, hnumbers, hcatalog⟩ := find_newest
  obtain ⟨-, hfind⟩ := hcatalog spelledCatalog "iphoneOS"
  obtain ⟨hmissing, -⟩ := hcatalog spelledCatalog "watchos"
  have hfirst : Spells "17.9.4" [17, 9, 4] :=
    ⟨["17".toList, "9".toList, "4".toList], by decide, by decide, by simp, by decide⟩
  have hsecond : Spells "17.010" [17, 10] :=
    ⟨["17".toList, "010".toList], by decide, by decide, by simp, by decide⟩
  have hlast : spelledCatalog.find "iphoneOS" =
      .ok { name := "iphoneos", version := "17.beta.010" } :=
    (hfind _).2 ⟨spelledCatalog.sdks.take 2, spelledCatalog.sdks.drop 3, rfl, by decide, by decide,
      by decide⟩
  exact ⟨(hnumbers _ _ _ _ hfirst hsecond (by decide)).1.2 (by decide), ⟨_, hlast, rfl⟩,
    (hmissing _).2 ⟨by decide, rfl⟩⟩

end SdkCatalog

end BuildSettings
