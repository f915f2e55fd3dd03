import BuildSettings.Compile.SearchPaths
import BuildSettings.Proofs.Text.TokenList
import BuildSettings.Setting.Expansion

/-!
# Flags of search paths

The path stands behind its flag in the same token. A flag without a path would take the next token
for it, whatever that is. Lists of settings have no empty entries, and a setting that is blank
gives no path, so a path can be lost in one way alone: the mark for all directories below is cut
off an entry that consists of it. Such entries are easily made, by `$(ROOT)/**` where `ROOT` is
not set; and `/**` also means the root of all directories.

* `searchEntry_eq_empty_iff` — the entries that lose their path.
* `hasBareFlag_iff` — where a flag is left without its path.
* `path_ne_empty_iff` — everywhere else each flag has one.
-/

namespace BuildSettings

/-! ### Entries and values are not empty -/

namespace Settings

variable {settings : Settings} {key : String}

/-- Lists of settings have no empty entries, so that only the cutting of marks can leave an empty
path. -/
theorem ne_empty_of_mem_list {entry : String} (h : entry ∈ settings.list key) : entry ≠ "" := by
  unfold list at h
  cases hvalue : settings.get? key with
  | none =>
    rw [hvalue] at h
    cases h
  | some value =>
    rw [hvalue] at h
    exact Text.ne_empty_of_mem_splitList h

/-- A value that is not blank has some character. -/
theorem length_pos_of_filled? {value : String} (h : settings.filled? key = some value) :
    0 < value.length := by
  refine Nat.pos_of_ne_zero fun hlength => ?_
  rw [String.length_eq_zero_iff.1 hlength] at h
  obtain ⟨-, hblank⟩ := Option.filter_eq_some_iff.1 h
  cases hblank

end Settings

namespace Compile

/-! ### Marks -/

/-- The entry is a mark for all directories below, and nothing is in front of it. -/
def IsMark (entry : String) : Prop :=
  entry = "/**" ∨ entry = "**"

instance (entry : String) : Decidable (IsMark entry) :=
  inferInstanceAs (Decidable (_ ∨ _))

/-- What an ending was taken off from is what is left with the ending behind it. -/
theorem eq_append_of_beforeEnd? {part entry : String} {front : List Char}
    (h : Text.beforeEnd? part.toList entry.toList = some front) :
    entry = String.ofList front ++ part := by
  rw [← String.toList_inj, String.toList_append, String.toList_ofList]
  exact Text.beforeEnd?_eq_some_iff.1 h

/-- Nothing but a mark is cut off. -/
theorem searchEntry_cases (entry : String) :
    searchEntry entry = entry ∨ entry = searchEntry entry ++ "/**" ∨
      entry = searchEntry entry ++ "**" := by
  unfold searchEntry
  split
  next front hfront => exact .inr (.inl (eq_append_of_beforeEnd? hfront))
  next =>
    split
    next front hfront => exact .inr (.inr (eq_append_of_beforeEnd? hfront))
    next => exact .inl rfl

/-- An entry that is not empty loses everything exactly if it is a mark; of any other entry a mark
at its end leaves something. -/
theorem searchEntry_eq_empty_iff {entry : String} (h : entry ≠ "") :
    searchEntry entry = "" ↔ IsMark entry := by
  constructor
  · intro hempty
    have hcases := searchEntry_cases entry
    rw [hempty] at hcases
    rcases hcases with hentry | hmark | hmark
    · exact absurd hentry.symm h
    · exact .inl hmark
    · exact .inr hmark
  · rintro (rfl | rfl)
    · decide
    · decide

/-! ### Flags -/

/-- The flags that a search path stands behind. -/
def pathFlags : List String :=
  ["-I", "-F", "-L"]

/-- One of the tokens is a flag without a path. -/
def HasBareFlag (tokens : List String) : Prop :=
  ∃ token ∈ tokens, token ∈ pathFlags

theorem length_of_mem_pathFlags : ∀ flag ∈ pathFlags, flag.length = 2 := by
  decide

/-- All flags have two characters, so a flag with something behind it is no other flag. -/
theorem append_mem_pathFlags_iff {flag path : String} (hflag : flag ∈ pathFlags) :
    flag ++ path ∈ pathFlags ↔ path = "" := by
  constructor
  · intro h
    have hlength := length_of_mem_pathFlags _ h
    rw [String.length_append, length_of_mem_pathFlags flag hflag] at hlength
    exact String.length_eq_zero_iff.1 (Nat.add_left_cancel hlength)
  · rintro rfl
    rw [String.append_empty]
    exact hflag

/-- A list of tokens has a flag without a path if one of its parts has. -/
theorem hasBareFlag_append {a b : List String} :
    HasBareFlag (a ++ b) ↔ HasBareFlag a ∨ HasBareFlag b := by
  unfold HasBareFlag
  constructor
  · rintro ⟨token, hmem, hbare⟩
    rcases List.mem_append.1 hmem with hmem | hmem
    · exact .inl ⟨token, hmem, hbare⟩
    · exact .inr ⟨token, hmem, hbare⟩
  · rintro (⟨token, hmem, hbare⟩ | ⟨token, hmem, hbare⟩)
    · exact ⟨token, List.mem_append_left _ hmem, hbare⟩
    · exact ⟨token, List.mem_append_right _ hmem, hbare⟩

/-- A token that is wrapped stays what it is, so the compiler does not matter for search paths. -/
theorem hasBareFlag_wrap {compiler : Compiler} {tokens : List String} :
    HasBareFlag (compiler.wrap tokens) ↔ HasBareFlag tokens := by
  cases compiler with
  | clang => rfl
  | swift =>
    constructor
    · rintro ⟨token, hmem, hbare⟩
      obtain ⟨a, ha, htoken⟩ := List.mem_flatMap.1 hmem
      -- the flag in front of each token is no flag of a search path
      rcases List.mem_cons.1 htoken with rfl | htoken
      · exact absurd hbare (by decide)
      · exact ⟨a, ha, List.mem_singleton.1 htoken ▸ hbare⟩
    · rintro ⟨token, hmem, hbare⟩
      exact ⟨token, List.mem_flatMap.2 ⟨token, hmem, by simp⟩, hbare⟩

/-- Tokens of more than two characters are no flags without paths. -/
theorem not_hasBareFlag_of_length {tokens : List String} (h : ∀ token ∈ tokens, 2 < token.length) :
    ¬ HasBareFlag tokens := by
  rintro ⟨token, hmem, hbare⟩
  have hlong := h token hmem
  rw [length_of_mem_pathFlags token hbare] at hlong
  exact Nat.lt_irrefl _ hlong

/-- A flag with a path behind it has more than two characters. -/
theorem two_lt_length_append {flag path : String} (hflag : flag ∈ pathFlags)
    (hpath : 0 < path.length) : 2 < (flag ++ path).length := by
  rw [String.length_append, length_of_mem_pathFlags flag hflag]
  exact Nat.lt_add_of_pos_right hpath

/-- A flag loses its path to an entry that is a mark, and to no other entry of the list, because the
entries of a list are not empty. -/
theorem hasBareFlag_entries {settings : Settings} {key flag : String} (hflag : flag ∈ pathFlags) :
    HasBareFlag ((settings.list key).map fun entry => flag ++ searchEntry entry) ↔
      ∃ entry ∈ settings.list key, IsMark entry := by
  constructor
  · rintro ⟨token, hmem, hbare⟩
    obtain ⟨entry, hentry, rfl⟩ := List.mem_map.1 hmem
    have hempty := (append_mem_pathFlags_iff hflag).1 hbare
    exact ⟨entry, hentry,
      (searchEntry_eq_empty_iff (Settings.ne_empty_of_mem_list hentry)).1 hempty⟩
  · rintro ⟨entry, hentry, hmark⟩
    refine ⟨flag ++ searchEntry entry, List.mem_map.2 ⟨entry, hentry, rfl⟩, ?_⟩
    rw [append_mem_pathFlags_iff hflag]
    exact (searchEntry_eq_empty_iff (Settings.ne_empty_of_mem_list hentry)).2 hmark

/-! ### Providers -/

/-- The providers of search paths, each with the settings that list paths for it. -/
def pathProviders : List (ArgumentProvider × List String) :=
  [(headerSearchPaths, ["HEADER_SEARCH_PATHS", "USER_HEADER_SEARCH_PATHS"]),
    (frameworkSearchPaths, ["FRAMEWORK_SEARCH_PATHS"]),
    (librarySearchPaths, ["LIBRARY_SEARCH_PATHS"]),
    (derivedSources, [])]

variable {ctx : CompileContext}

/-- The directories of headers come from two lists, and all their flags from entries. -/
theorem hasBareFlag_headerSearchPaths :
    HasBareFlag (headerSearchPaths.arguments ctx) ↔
      (∃ entry ∈ ctx.settings.list "HEADER_SEARCH_PATHS", IsMark entry) ∨
        ∃ entry ∈ ctx.settings.list "USER_HEADER_SEARCH_PATHS", IsMark entry := by
  have hflag : "-I" ∈ pathFlags := by decide
  unfold headerSearchPaths
  rw [hasBareFlag_wrap, List.map_append, hasBareFlag_append, hasBareFlag_entries hflag,
    hasBareFlag_entries hflag]

/-- What is put behind a path is part of the result, if not all of it. -/
theorem length_le_length_join (base : Path) (child : String) :
    child.length ≤ (base / child).text.length := by
  show child.length ≤ (Path.join base child).text.length
  unfold Path.join
  split
  · exact Nat.le_refl _
  · split
    · rw [String.length_append]
      exact Nat.le_add_left _ _
    · rw [String.length_append]
      exact Nat.le_add_left _ _

/-- The directory of the platform adds a name. -/
theorem not_hasBareFlag_testPlatform? {flag child : String} (hflag : flag ∈ pathFlags)
    (hchild : 0 < child.length) :
    ¬ HasBareFlag ((testPlatform? ctx).toList.map fun platform =>
      flag ++ (platform / child).text) := by
  refine not_hasBareFlag_of_length fun token htoken => ?_
  obtain ⟨platform, -, rfl⟩ := List.mem_map.1 htoken
  exact two_lt_length_append hflag (Nat.lt_of_lt_of_le hchild (length_le_length_join _ _))

/-- The directories of frameworks come from one list, from the products and from the platform, and
those of the last two have their names behind them. -/
theorem hasBareFlag_frameworkSearchPaths :
    HasBareFlag (frameworkSearchPaths.arguments ctx) ↔
      ∃ entry ∈ ctx.settings.list "FRAMEWORK_SEARCH_PATHS", IsMark entry := by
  have hflag : "-F" ∈ pathFlags := by decide
  have hproducts : ¬ HasBareFlag ((ctx.settings.filled? "CONFIGURATION_BUILD_DIR").toList.flatMap
      fun products => ["-F" ++ products, "-F" ++ products ++ "/PackageFrameworks"]) := by
    refine not_hasBareFlag_of_length fun token htoken => ?_
    obtain ⟨products, hproducts, htoken⟩ := List.mem_flatMap.1 htoken
    -- the directory of products is not blank, so something stands behind the flag
    have hlength := Settings.length_pos_of_filled? (Option.mem_toList.1 hproducts)
    simp only [List.mem_cons, List.not_mem_nil, or_false] at htoken
    rcases htoken with rfl | rfl
    · exact two_lt_length_append hflag hlength
    · rw [String.length_append]
      exact Nat.lt_add_right _ (two_lt_length_append hflag hlength)
  have hplatform := @not_hasBareFlag_testPlatform? ctx "-F" "Developer/Library/Frameworks" hflag
    (by decide)
  unfold frameworkSearchPaths
  rw [hasBareFlag_append, hasBareFlag_append, hasBareFlag_entries hflag, or_iff_left hplatform,
    or_iff_left hproducts]

/-- The directory of plug-ins of the toolchain has a name at its end. -/
theorem not_hasBareFlag_testingPlugins : ¬ HasBareFlag (testingPlugins ctx) := by
  refine not_hasBareFlag_of_length fun token htoken => ?_
  unfold testingPlugins at htoken
  split at htoken
  · obtain ⟨toolchain, -, htoken⟩ := List.mem_flatMap.1 htoken
    simp only [List.mem_cons, List.not_mem_nil, or_false] at htoken
    rcases htoken with rfl | rfl
    · decide
    · have hchild : 2 < "usr/lib/swift/host/plugins/testing".length := by decide
      exact Nat.lt_of_lt_of_le hchild (length_le_length_join _ _)
  · cases htoken

/-- The directories of libraries come from one list. -/
theorem hasBareFlag_librarySearchPaths :
    HasBareFlag (librarySearchPaths.arguments ctx) ↔
      ∃ entry ∈ ctx.settings.list "LIBRARY_SEARCH_PATHS", IsMark entry := by
  have hflag : "-L" ∈ pathFlags := by decide
  have hplatform := @not_hasBareFlag_testPlatform? ctx "-L" "Developer/usr/lib" hflag (by decide)
  unfold librarySearchPaths
  rw [hasBareFlag_append, hasBareFlag_append, hasBareFlag_entries hflag, or_iff_left hplatform,
    or_iff_left not_hasBareFlag_testingPlugins]

theorem length_pos_append {a : String} (h : 0 < a.length) (b : String) : 0 < (a ++ b).length := by
  rw [String.length_append]
  exact Nat.lt_add_right _ h

/-- Each directory of derived sources lies below another one, so its path has a step at least. -/
theorem not_hasBareFlag_derivedSources : ¬ HasBareFlag (derivedSources.arguments ctx) := by
  have hflag : "-I" ∈ pathFlags := by decide
  unfold derivedSources
  rw [hasBareFlag_wrap]
  -- the directory above is the value of a setting, which is not blank
  refine not_hasBareFlag_of_length fun token htoken => ?_
  obtain ⟨directory, hdirectory, rfl⟩ := List.mem_map.1 htoken
  refine two_lt_length_append hflag ?_
  rcases List.mem_append.1 hdirectory with hinclude | hderived
  · obtain ⟨products, hproducts, rfl⟩ := List.mem_map.1 hinclude
    exact length_pos_append (Settings.length_pos_of_filled? (Option.mem_toList.1 hproducts)) _
  · obtain ⟨temp, htemp, hbelow⟩ := List.mem_flatMap.1 hderived
    have hlength := Settings.length_pos_of_filled? (Option.mem_toList.1 htemp)
    rcases List.mem_append.1 hbelow with harch | hplain
    · obtain ⟨arch, -, harch⟩ := List.mem_flatMap.1 harch
      simp only [List.mem_cons, List.not_mem_nil, or_false] at harch
      rcases harch with rfl | rfl
      · exact length_pos_append (length_pos_append hlength _) _
      · exact length_pos_append (length_pos_append hlength _) _
    · rw [List.mem_singleton.1 hplain]
      exact length_pos_append hlength _

/-- A flag is left without its path by an entry that is a mark, and by nothing else. -/
theorem hasBareFlag_iff {p : ArgumentProvider} {keys : List String}
    (hp : (p, keys) ∈ pathProviders) :
    HasBareFlag (p.arguments ctx) ↔
      ∃ key ∈ keys, ∃ entry ∈ ctx.settings.list key, IsMark entry := by
  simp only [pathProviders, List.mem_cons, List.not_mem_nil, or_false, Prod.mk.injEq] at hp
  rcases hp with ⟨rfl, rfl⟩ | ⟨rfl, rfl⟩ | ⟨rfl, rfl⟩ | ⟨rfl, rfl⟩
  · simp [hasBareFlag_headerSearchPaths]
  · simp [hasBareFlag_frameworkSearchPaths]
  · simp [hasBareFlag_librarySearchPaths]
  · simp [not_hasBareFlag_derivedSources]

/-- Search paths of a bundle of tests, one of which is all that is below a directory. -/
def testTarget : CompileContext where
  settings := Dictionary.ofList [
    ("HEADER_SEARCH_PATHS", "/a \"/b c/**\" \"\""), ("LIBRARY_SEARCH_PATHS", "lib** ///**"),
    ("PRODUCT_TYPE", "com.apple.product-type.bundle.unit-test"), ("TARGET_TEMP_DIR", "/t"),
    ("SDKROOT_PATH", "/X/Platforms/P.platform/Developer/SDKs/P.sdk"), ("TOOLCHAIN_DIR", "/T/")]
  derivedData := ⟨"/dd/Hello-abc"⟩

/-- **Search paths**: each flag of a search path has its path behind it exactly if no entry of the
lists that the paths are from consists of a mark. Other paths are never empty. -/
theorem path_ne_empty_iff (ctx : CompileContext) {p : ArgumentProvider} {keys : List String}
    (hp : (p, keys) ∈ pathProviders) :
    (∀ flag ∈ pathFlags, ∀ path, flag ++ path ∈ p.arguments ctx → path ≠ "") ↔
      ∀ key ∈ keys, ∀ entry ∈ ctx.settings.list key, entry ≠ "/**" ∧ entry ≠ "**" := by
  have hflags : (∀ flag ∈ pathFlags, ∀ path, flag ++ path ∈ p.arguments ctx → path ≠ "") ↔
      ¬ HasBareFlag (p.arguments ctx) := by
    constructor
    · rintro hpaths ⟨flag, hmem, hflag⟩
      rw [← String.append_empty (s := flag)] at hmem
      exact hpaths flag hflag "" hmem rfl
    · rintro hbare flag hflag path hmem rfl
      rw [String.append_empty] at hmem
      exact hbare ⟨flag, hmem, hflag⟩
  -- what is left is the same statement about marks, once for each provider
  rw [hflags, hasBareFlag_iff hp]
  simp only [IsMark, not_exists, not_and, not_or, ne_eq]

/-- What is left of `///**` is a path, and so is what the quotes make one entry. -/
theorem path_ne_empty_iff_tests :
    headerSearchPaths.arguments testTarget = ["-Xcc", "-I/a", "-Xcc", "-I/b c"] ∧
      ∀ q ∈ pathProviders, ∀ flag ∈ pathFlags, ∀ path,
        flag ++ path ∈ q.1.arguments testTarget → path ≠ "" := by
  have hentries : ∀ q ∈ pathProviders, ∀ key ∈ q.2, ∀ entry ∈ testTarget.settings.list key,
      entry ≠ "/**" ∧ entry ≠ "**" := by
    decide
  exact ⟨by decide, fun q hq => (path_ne_empty_iff testTarget hq).2 (hentries q hq)⟩

/-- What a root that is not set leaves of `$(ROOT)/**` is a flag without a path. -/
theorem bareFlag_of_unset :
    let written : Settings := .ofList [("HEADER_SEARCH_PATHS", "$(ROOT)/**")]
    let ctx := (CompileContext.start (Setting.expandReferences written) ⟨"/dd"⟩).forFile ⟨"/p/a.c"⟩
    ctx.settings.list "HEADER_SEARCH_PATHS" = ["/**"] ∧
      headerSearchPaths.arguments ctx = ["-I"] := by
  decide

end Compile

end BuildSettings
