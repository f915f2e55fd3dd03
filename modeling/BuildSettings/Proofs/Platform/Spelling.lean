import BuildSettings.Proofs.Platform.Coherence
import BuildSettings.Proofs.Setting.Pieces
import Mathlib

/-!
# Spellings of the names of SDKs

An SDK is named in settings by its name alone, with a version, by the directory of the SDK or by the
path to that directory, in any case of its letters. `variantName` takes all of this off in a fixed
order. It does so in two halves: the last part of a path (`lastPart`) and the name in the name of a
file (`nameOfFile`).

* `lastPart_of_file` — directories in front, slashes behind and blanks around a file do not count.
* `nameOfFile_append` — neither do a version, the ending of a directory and the case of letters.
* `find?_of_spells` — so every spelling of the name of an SDK leads to its family.
-/

namespace BuildSettings

/-! ### The ends of a text -/

section Ends

variable {α : Type} {p : α → Bool} {front back : List α}

/-- What has the property in front is dropped up to the first element that does not have it. -/
theorem dropWhile_append_of_head? (hfront : ∀ a ∈ front, p a = true)
    (hback : ∀ a ∈ back.head?, p a = false) : (front ++ back).dropWhile p = back := by
  rw [List.dropWhile_append_of_pos hfront]
  cases back with
  | nil => rfl
  | cons a back => rw [List.dropWhile_cons, hback a rfl, if_neg Bool.false_ne_true]

/-- The same at the end, where everything is read from the back. -/
theorem dropEndWhile_append_of_getLast? (hback : ∀ a ∈ back, p a = true)
    (hfront : ∀ a ∈ front.getLast?, p a = false) :
    ((front ++ back).reverse.dropWhile p).reverse = front := by
  have hdrop : (back.reverse ++ front.reverse).dropWhile p = front.reverse :=
    dropWhile_append_of_head? (fun a ha => hback a (List.mem_reverse.1 ha))
      fun a ha => hfront a (List.head?_reverse ▸ ha)
  rw [List.reverse_append, hdrop, List.reverse_reverse]

theorem mem_of_getLast?_append {a : α} (hne : back ≠ []) (h : a ∈ (front ++ back).getLast?) :
    a ∈ back := by
  rw [List.getLast?_append_of_ne_nil front hne] at h
  exact List.mem_of_getLast? h

end Ends

/-- Where no blanks stand at the end only those in front are trimmed, which may be all there is in
front. -/
theorem trimChars_append_of_forall {front back : List Char} (hne : back ≠ [])
    (hback : ∀ c ∈ back, Text.isBlank c = false) :
    Text.trimChars (front ++ back) = front.dropWhile Text.isBlank ++ back := by
  have hdrop : (front ++ back).dropWhile Text.isBlank = front.dropWhile Text.isBlank ++ back := by
    rw [List.dropWhile_append]
    split
    next hempty =>
      rw [Text.dropWhile_isBlank_of_forall hback, List.isEmpty_iff.1 hempty, List.nil_append]
    next => rfl
  have hend : (((front.dropWhile Text.isBlank ++ back) ++ []).reverse.dropWhile
      Text.isBlank).reverse = front.dropWhile Text.isBlank ++ back :=
    dropEndWhile_append_of_getLast? (fun _ hc => nomatch hc)
      fun c hc => hback c (mem_of_getLast?_append hne hc)
  rw [List.append_nil] at hend
  rw [Text.trimChars, hdrop, Text.trimEnd, hend]

/-! ### The two halves -/

/-- The last part of a path, without blanks around and slashes behind it. -/
def lastPart (cs : List Char) : List Char :=
  let trimmed := ((Text.trimChars cs).reverse.dropWhile (· == '/')).reverse
  match Text.cutLast? '/' trimmed with
  | some (_, name) => name
  | none => trimmed

/-- Whether a character may stand in a version. -/
def isVersionChar (c : Char) : Bool :=
  c.isDigit || c == '.'

/-- The name of an SDK in the name of its directory: without the ending of such a directory and
without a version, in small letters. -/
def nameOfFile (file : List Char) : List Char :=
  let bare := ((Text.beforeEnd? ".sdk".toList file).getD file).map Char.toLower
  (bare.reverse.dropWhile isVersionChar).reverse

/-- Names of SDKs that are not those of their variants. -/
def sdkAliases : List (String × String) :=
  [("tvos", "appletvos"), ("tvossimulator", "appletvsimulator")]

/-- The variant that an SDK of this name is for. -/
def variantOf (sdk : String) : String :=
  (sdkAliases.lookup sdk).getD sdk

/-- The name of a variant is read in two steps: the last part of the text, and what is left of it as
the name of a file. The two are told apart because the first one is about slashes and the second one
about endings. -/
theorem variantName_eq (requested : String) :
    variantName requested =
      variantOf (String.ofList (nameOfFile (lastPart requested.toList))) := by
  unfold variantName variantOf nameOfFile lastPart isVersionChar
  dsimp only
  generalize String.ofList _ = sdk
  split
  next => rfl
  next => rfl
  next _ htvos hsimulator =>
    have hnone : sdkAliases.lookup sdk = none := by
      simp [sdkAliases, List.lookup_cons, beq_eq_false_iff_ne.2 htvos,
        beq_eq_false_iff_ne.2 hsimulator]
    rw [hnone]
    rfl

/-! ### The last part of a path -/

variable {before directory file slashes after name version ending : List Char}

/-- What is left of a directory without the blanks in front is a directory. -/
theorem dropWhile_isBlank_directory (h : directory = [] ∨ directory.getLast? = some '/') :
    directory.dropWhile Text.isBlank = [] ∨
      ∃ front, directory.dropWhile Text.isBlank = front ++ ['/'] := by
  rcases h with rfl | hlast
  · exact .inl rfl
  · obtain ⟨front, rfl⟩ := List.getLast?_eq_some_iff.1 hlast
    refine .inr ?_
    rw [List.dropWhile_append]
    split
    next => exact ⟨[], rfl⟩
    next => exact ⟨_, rfl⟩

/-- The path to a file ends with the name of the file, whatever blanks stand around it and whatever
slashes behind it. The name itself has neither blanks nor slashes. -/
theorem lastPart_of_file (hbefore : ∀ c ∈ before, Text.isBlank c = true)
    (hdirectory : directory = [] ∨ directory.getLast? = some '/')
    (hfile : ∀ c ∈ file, Text.isBlank c = false ∧ c ≠ '/') (hne : file ≠ [])
    (hslashes : ∀ c ∈ slashes, c = '/') (hafter : ∀ c ∈ after, Text.isBlank c = true) :
    lastPart (before ++ (directory ++ (file ++ slashes)) ++ after) = file := by
  have hnoBlank : ∀ c ∈ file ++ slashes, Text.isBlank c = false := by
    intro c hc
    rcases List.mem_append.1 hc with hmem | hmem
    · exact (hfile c hmem).1
    · rw [hslashes c hmem]
      decide
  have hnoSlash : '/' ∉ file := fun hmem => (hfile '/' hmem).2 rfl
  -- the blanks that a directory has in front are trimmed with those before it
  let inside := directory.dropWhile Text.isBlank
  have htrim : Text.trimChars (before ++ (directory ++ (file ++ slashes)) ++ after) =
      inside ++ file ++ slashes := by
    have hne' : file ++ slashes ≠ [] := List.append_ne_nil_of_left_ne_nil hne slashes
    rw [Text.trimChars_of_blank_ends hbefore hafter, trimChars_append_of_forall hne' hnoBlank,
      List.append_assoc]
  have hslash : ∀ c ∈ (inside ++ file).getLast?, (c == '/') = false := fun c hc =>
    beq_eq_false_iff_ne.2 (hfile c (mem_of_getLast?_append hne hc)).2
  -- the slashes behind the name are dropped, and those of the directory are not
  have htrimmed : ((inside ++ file ++ slashes).reverse.dropWhile (· == '/')).reverse =
      inside ++ file :=
    dropEndWhile_append_of_getLast? (fun c hc => beq_iff_eq.2 (hslashes c hc)) hslash
  unfold lastPart
  simp only [htrim, htrimmed]
  rcases dropWhile_isBlank_directory hdirectory with hnone | ⟨front, hfront⟩
  · have hinside : inside = [] := hnone
    rw [hinside, List.nil_append, Text.cutLast?_of_notMem hnoSlash]
  · have hinside : inside = front ++ ['/'] := hfront
    rw [hinside, List.append_assoc, List.singleton_append, Text.cutLast?_append hnoSlash]

/-! ### The name in the name of a file -/

/-- Letters stand in no version. -/
theorem isVersionChar_of_isAlpha {c : Char} (h : c.isAlpha = true) : isVersionChar c = false := by
  unfold isVersionChar
  rw [Bool.or_eq_false_iff, beq_eq_false_iff_ne]
  constructor
  · rw [Bool.eq_false_iff]
    intro hdigit
    simp only [Char.isAlpha, Char.isUpper, Char.isLower, Char.isDigit, Bool.or_eq_true,
      Bool.and_eq_true, decide_eq_true_eq, ge_iff_le, UInt32.le_iff_toNat_le] at h hdigit
    have : '9'.val.toNat = 57 := rfl
    have : 'A'.val.toNat = 65 := rfl
    have : 'a'.val.toNat = 97 := rfl
    omega
  · rintro rfl
    exact absurd h (by decide)

/-- A version has no capitals. -/
theorem toLower_of_isVersionChar {c : Char} (h : isVersionChar c = true) : c.toLower = c := by
  refine Char.toLower_eq_of_not_isUpper fun hupper => ?_
  have hletter : c.isAlpha = true := by rw [Char.isAlpha, hupper, Bool.true_or]
  rw [isVersionChar_of_isAlpha hletter] at h
  cases h

/-- Letters and versions can be the name of a file. -/
theorem isFileChar_of_isAlpha_or {c : Char} (h : c.isAlpha = true ∨ isVersionChar c = true) :
    Text.isBlank c = false ∧ c ≠ '/' := by
  constructor
  · rw [Bool.eq_false_iff]
    intro hblank
    have hbreak := (Setting.Reference.isBreak_of_isBlank hblank).noWord
    rcases h with hletter | hversion
    · simp [Text.isWordChar, Char.isAlphanum, hletter] at hbreak
    · rw [isVersionChar, Bool.or_eq_true, beq_iff_eq] at hversion
      rcases hversion with hdigit | rfl
      · simp [Text.isWordChar, Char.isAlphanum, hdigit] at hbreak
      · exact absurd hblank (by decide)
  · rintro rfl
    exact absurd h (by decide)

/-- Only the ending of a directory is taken off. A version may end in dots and digits, which are no
part of that ending. -/
theorem beforeEnd?_getD (hname : ∀ c ∈ name, c.isAlpha = true)
    (hversion : ∀ c ∈ version, isVersionChar c = true)
    (hending : ending = [] ∨ ending = ".sdk".toList) :
    (Text.beforeEnd? ".sdk".toList (name ++ version ++ ending)).getD (name ++ version ++ ending) =
      name ++ version := by
  rcases hending with rfl | rfl
  · rw [List.append_nil]
    cases hend : Text.beforeEnd? ".sdk".toList (name ++ version) with
    | none => rfl
    | some front =>
      have hfile := Text.beforeEnd?_eq_some_iff.1 hend
      exfalso
      by_cases hempty : version = []
      · -- a name has no dot
        have hdot : '.' ∈ name := by
          rw [hempty, List.append_nil] at hfile
          rw [hfile]
          simp
        exact absurd (hname '.' hdot) (by decide)
      · -- a version does not end with a letter
        have hlast : 'k' ∈ (name ++ version).getLast? := by
          rw [hfile]
          simp
        exact absurd (hversion 'k' (mem_of_getLast?_append hempty hlast)) (by decide)
  · rw [Text.beforeEnd?_eq_some_iff.2 rfl, Option.getD_some]

/-- Of the name of a file the name of the SDK is left, in small letters: the ending and the version
are taken off, and no letter with them. -/
theorem nameOfFile_append (hname : ∀ c ∈ name, c.isAlpha = true)
    (hversion : ∀ c ∈ version, isVersionChar c = true)
    (hending : ending = [] ∨ ending = ".sdk".toList) :
    nameOfFile (name ++ version ++ ending) = name.map Char.toLower := by
  have hsmall : version.map Char.toLower = version := by
    rw [List.map_congr_left fun c hc => toLower_of_isVersionChar (hversion c hc), List.map_id']
  have hletter : ∀ c ∈ (name.map Char.toLower).getLast?, isVersionChar c = false := by
    intro c hc
    obtain ⟨d, hd, rfl⟩ := List.mem_map.1 (List.mem_of_getLast? hc)
    exact isVersionChar_of_isAlpha ((Char.isAlpha_toLower_eq_isAlpha d).trans (hname d hd))
  unfold nameOfFile
  dsimp only
  rw [beforeEnd?_getD hname hversion hending, List.map_append, hsmall]
  exact dropEndWhile_append_of_getLast? hversion hletter

/-! ### Spellings -/

/-- The parts of a text that names an SDK. -/
structure SdkSpelling where
  before : List Char
  /-- The directories of a path, with the slash behind them. -/
  directory : List Char
  name : List Char
  version : List Char
  ending : List Char
  slashes : List Char
  after : List Char

namespace SdkSpelling

/-- The parts one after the other. -/
def text (s : SdkSpelling) : String :=
  String.ofList (s.before ++
    (s.directory ++ (s.name ++ s.version ++ s.ending ++ s.slashes)) ++ s.after)

/-- The text is a way of writing this name: in any case of its letters, with a version, the ending
of a directory, a path in front, slashes behind and blanks around it, all of which may be empty. -/
structure Spells (s : SdkSpelling) (sdk : String) : Prop where
  before : ∀ c ∈ s.before, Text.isBlank c = true
  directory : s.directory = [] ∨ s.directory.getLast? = some '/'
  name : s.name.map Char.toLower = sdk.toList.map Char.toLower
  version : ∀ c ∈ s.version, c.isDigit = true ∨ c = '.'
  ending : s.ending = [] ∨ s.ending = ".sdk".toList
  slashes : ∀ c ∈ s.slashes, c = '/'
  after : ∀ c ∈ s.after, Text.isBlank c = true

variable {s : SdkSpelling} {sdk : String}

/-- A name of letters is read back from every spelling of it. This needs small letters, since all
others are lowered on the way. -/
theorem Spells.variantName_eq (h : s.Spells sdk) (hne : sdk ≠ "")
    (hsdk : ∀ c ∈ sdk.toList, c.isLower = true) : variantName s.text = variantOf sdk := by
  have hsmall : sdk.toList.map Char.toLower = sdk.toList := by
    have hlower : ∀ c ∈ sdk.toList, c.toLower = c := fun c hc =>
      Char.toLower_eq_of_not_isUpper (Char.not_isUpper_of_isLower (hsdk c hc))
    rw [List.map_congr_left hlower, List.map_id']
  have hname : ∀ c ∈ s.name, c.isAlpha = true := by
    intro c hc
    have hlower : c.toLower ∈ sdk.toList := by
      rw [← hsmall, ← h.name]
      exact List.mem_map_of_mem hc
    rw [← Char.isAlpha_toLower_eq_isAlpha, Char.isAlpha, hsdk _ hlower, Bool.or_true]
  have hversion : ∀ c ∈ s.version, isVersionChar c = true := by
    intro c hc
    rw [isVersionChar, Bool.or_eq_true, beq_iff_eq]
    exact h.version c hc
  -- so the name of the file is all one part, which trimming and splitting leave alone
  have hfile : ∀ c ∈ s.name ++ s.version ++ s.ending, Text.isBlank c = false ∧ c ≠ '/' := by
    intro c hc
    rcases List.mem_append.1 hc with hbare | hending
    · exact isFileChar_of_isAlpha_or ((List.mem_append.1 hbare).imp (hname c) (hversion c))
    · rcases h.ending with hnone | hsome
      · rw [hnone] at hending
        cases hending
      · rw [hsome] at hending
        simp only [String.reduceToList, List.mem_cons, List.not_mem_nil, or_false] at hending
        rcases hending with rfl | rfl | rfl | rfl <;> decide
  have hneFile : s.name ++ s.version ++ s.ending ≠ [] := by
    intro hnil
    have hname := h.name
    rw [(List.append_eq_nil_iff.1 (List.append_eq_nil_iff.1 hnil).1).1, hsmall] at hname
    exact hne (String.toList_eq_nil_iff.1 hname.symm)
  -- the two steps of reading, one after the other
  have hlast : lastPart s.text.toList = s.name ++ s.version ++ s.ending := by
    rw [text, String.toList_ofList]
    exact lastPart_of_file h.before h.directory hfile hneFile h.slashes h.after
  rw [BuildSettings.variantName_eq, hlast, nameOfFile_append hname hversion h.ending, h.name, hsmall,
    String.ofList_toList]

/-- All names of SDKs are words of small letters, those in the tables of families and those that are
replaced by others. -/
theorem isLower_of_names {family : PlatformFamily} (h : family.Names (variantOf sdk)) :
    sdk ≠ "" ∧ ∀ c ∈ sdk.toList, c.isLower = true := by
  rw [← List.all_eq_true]
  unfold variantOf at h
  cases hlookup : sdkAliases.lookup sdk with
  | some variant =>
    have hall : ∀ e ∈ sdkAliases, e.1 ≠ "" ∧ e.1.toList.all Char.isLower = true := by
      decide
    exact hall _ (Dictionary.mem_of_lookup hlookup)
  | none =>
    rw [hlookup, Option.getD_none] at h
    obtain ⟨hfamily, hname⟩ := h
    have hall : ∀ f ∈ PlatformFamily.all, ∀ name ∈ f.deviceSdk :: f.simulatorSdk.toList,
        name ≠ "" ∧ name.toList.all Char.isLower = true := by
      decide
    refine hall family hfamily sdk ?_
    rcases hname with rfl | hsimulator
    · exact List.mem_cons_self ..
    · rw [hsimulator]
      simp

/-- **Spellings**: however the name of an SDK is spelled, it stands for the variant of that name and
leads to the family of that variant. -/
theorem find?_of_spells {family : PlatformFamily} (hsdk : family.Names (variantOf sdk))
    (h : s.Spells sdk) :
    variantName s.text = variantOf sdk ∧
      PlatformFamily.find? (variantName s.text) = some family := by
  obtain ⟨hne, hlower⟩ := isLower_of_names hsdk
  have hvariant := h.variantName_eq hne hlower
  refine ⟨hvariant, ?_⟩
  rw [hvariant]
  exact PlatformFamily.find?_eq_some_iff.2 hsdk

/-- The path to a simulator SDK of television sets, as it may stand in a settings file. -/
def televisionPath : SdkSpelling where
  before := "\t ".toList
  directory := " /Volumes/Xcode 15/SDKs/".toList
  name := "TVOSSimulator".toList
  version := "17.0.".toList
  ending := ".sdk".toList
  slashes := "//".toList
  after := " \n".toList

/-- Blanks, directories, capitals, a version, the ending of a directory and slashes behind it, all
at once; the name of the SDK for simulators of television sets is one of the two that are replaced.
-/
theorem find?_of_spells_television :
    televisionPath.text = "\t  /Volumes/Xcode 15/SDKs/TVOSSimulator17.0..sdk// \n" ∧
      variantName televisionPath.text = "appletvsimulator" ∧
      (PlatformFamily.find? (variantName televisionPath.text)).map (·.name) = some "tvos" := by
  obtain ⟨family, hfamily⟩ : ∃ family, PlatformFamily.all[3]? = some family := ⟨_, rfl⟩
  have hnames : family.Names (variantOf "tvossimulator") := by
    obtain rfl := Option.some.inj hfamily
    decide
  have hspells : televisionPath.Spells "tvossimulator" := by
    -- what is said of all characters is computed at once
    have hall {p : Char → Bool} {cs : List Char} (h : cs.all p = true) : ∀ c ∈ cs, p c = true :=
      List.all_eq_true.1 h
    exact {
      before := hall (by decide)
      directory := by decide
      name := by decide
      version := fun c hc => by
        simpa using hall (p := fun c => c.isDigit || c == '.') (by decide) c hc
      ending := .inr rfl
      slashes := fun c hc => eq_of_beq (hall (p := (· == '/')) (by decide) c hc)
      after := hall (by decide) }
  obtain ⟨hvariant, hfind⟩ := find?_of_spells hnames hspells
  refine ⟨by decide, hvariant, ?_⟩
  rw [hfind]
  obtain rfl := Option.some.inj hfamily
  rfl

end SdkSpelling

end BuildSettings
