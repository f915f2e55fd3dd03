import BuildSettings.FileIndex
import BuildSettings.Project.Document
import BuildSettings.Proofs.Json.Printed
import BuildSettings.Proofs.Json.Written
import BuildSettings.Sdk.Basic

/-!
# Documents that are written and read again

A project, a file index or a catalog of SDKs that was read from a text is written to a text that is
read as the same value. That is no matter of the encoder and the decoder alone: a product type that
keeps an identifier which is known, or a project without a name whose file has one, would come back
changed. No text reads as such a value (`Canonical`), so what was read once is stable from then on,
however the first text gave it: by arrays for records, with members in any order, or repeated.
-/

namespace BuildSettings

open Json Json.Decoder

variable {room : Nat}

/-! ### Parts of documents -/

theorem fits_ofTexts (l : List String) : Json.Fits (room + 1) (.ofTexts l) := by
  refine .array fun item hitem => ?_
  obtain ⟨s, -, rfl⟩ := List.mem_map.1 hitem
  exact .text s

/-- A dictionary takes one level more than what it holds. -/
theorem fits_ofDictionary {α : Type} {write : α → Json} {d : Dictionary α}
    (h : ∀ e ∈ d.entries, Json.Fits room (write e.2)) :
    Json.Fits (room + 1) (.ofDictionary write d) := by
  refine .object fun m hm => ?_
  obtain ⟨e, he, rfl⟩ := List.mem_map.1 hm
  exact h e he

/-- So does a list. -/
theorem fits_map {α : Type} {write : α → Json} {l : List α}
    (h : ∀ a ∈ l, Json.Fits room (write a)) :
    Json.Fits (room + 1) (.array (l.map write)) := by
  refine .array fun item hitem => ?_
  obtain ⟨a, ha, rfl⟩ := List.mem_map.1 hitem
  exact h a ha

/-- What is said of a member that may be missing is said of the value that may be missing. -/
theorem forall_optionalMember {α : Type} {p : String × Json → Prop} {key : String}
    {write : α → Json} {value : Option α} :
    (∀ m ∈ optionalMember key write value, p m) ↔ ∀ a ∈ value, p (key, write a) := by
  cases value <;> simp [optionalMember]

namespace SettingValue

/-- The items that are written for a list of texts are the texts again. -/
theorem toList_ofTexts (l : List String) :
    (Items.ofList (l.map .text)).toList = .ok (l.map .text) := by
  induction l with
  | nil => rw [List.map_nil, Items.ofList, Items.toList]
  | cons s l ih =>
    rw [List.map_cons, Items.ofList, Items.toList, ih, Document.ofJson, Document.toJson]
    rfl

theorem textItems?_ofTexts (l : List String) : textItems? (.ofList (l.map .text)) = some l := by
  induction l with
  | nil => rw [List.map_nil, Items.ofList, textItems?]
  | cons s l ih =>
    rw [List.map_cons, Items.ofList, Document.ofJson, textItems?, ih]
    rfl

/-- The value of a setting keeps its form, one text or a list of texts. -/
theorem decode_toJson (v : SettingValue) : decode (.ofJson v.toJson) = .ok v := by
  cases v with
  | text s =>
    rw [toJson, Document.ofJson]
    rfl
  | list l =>
    rw [toJson, Json.ofTexts, Document.ofJson, decode, textOrTexts, Document.toJson, toList_ofTexts]
    show ((textItems? (.ofList (l.map .text))).map list).elim _ _ = _
    rw [textItems?_ofTexts]
    rfl

/-- A value of a setting needs one level more than the place it stands in, for its list. -/
theorem fits_toJson (v : SettingValue) : Json.Fits (room + 1) v.toJson := by
  cases v with
  | text s => exact .text s
  | list l => exact fits_ofTexts l

end SettingValue

namespace Configuration

/-- A configuration is read back, with its settings in the order of their names. -/
theorem decode_toJson (c : Configuration) : decode (.ofJson c.toJson) = .ok c := by
  refine record_object (by decide) ?_
  refine .needed (text_text _) ?_
  refine .defaulted (dictionary_ofDictionary fun e _ => e.2.decode_toJson) ?_
  exact .done c

theorem fits_toJson (c : Configuration) : Json.Fits (room + 3) c.toJson := by
  refine .object ?_
  simp only [List.forall_mem_cons]
  exact ⟨.text _, fits_ofDictionary fun e _ => e.2.fits_toJson, nofun⟩

end Configuration

namespace Dependency

/-- A dependency is read back; its two members are left out where they are missing. -/
theorem decode_toJson (d : Dependency) : decode (.ofJson d.toJson) = .ok d := by
  refine record_object (by decide) ?_
  refine .optional nofun (fun s _ => text_text s) rfl ?_
  exact .optional_last nofun (fun s _ => text_text s) rfl

theorem fits_toJson (d : Dependency) : Json.Fits (room + 1) d.toJson := by
  refine .object ?_
  simp only [List.forall_mem_append, forall_optionalMember]
  exact ⟨fun s _ => .text s, fun s _ => .text s⟩

end Dependency

namespace Target

/-- A product type with a known identifier is the known type. -/
def Canonical (t : Target) : Prop :=
  ∀ p ∈ t.productType, ProductType.ofIdentifier p.identifier = p

/-- A target is read back if it is canonical: a type of product that is written by a known
identifier must be the known type, since that is what the identifier is read as. -/
theorem decode_toJson {t : Target} (h : t.Canonical) : decode (.ofJson t.toJson) = .ok t := by
  refine record_object (by decide) ?_
  simp only [List.append_assoc]
  refine .needed (text_text _) ?_
  refine .optional nofun (fun s _ => text_text s) rfl ?_
  refine .optional nofun (fun p hp => ?_) rfl ?_
  · rw [Decoder.map, text_text]
    exact congrArg Except.ok (h p hp)
  refine .defaulted (list_map fun d _ => d.decode_toJson) ?_
  refine .defaulted (list_ofTexts _) ?_
  refine .defaulted (list_ofTexts _) ?_
  refine .unless (dictionary_ofSettings _) rfl Dictionary.eq_empty_of_isEmpty ?_
  refine .defaulted (list_map fun c _ => c.decode_toJson) ?_
  exact .done t

/-- A target holds configurations, which hold settings, which may be lists; with its own object and
the list of configurations these are five levels. -/
theorem fits_toJson (t : Target) : Json.Fits (room + 5) t.toJson := by
  refine .object ?_
  simp only [List.forall_mem_append, List.forall_mem_cons, forall_optionalMember]
  refine ⟨⟨⟨⟨⟨⟨.text _, nofun⟩, fun s _ => .text s⟩, fun p _ => .text _⟩, ?_, ?_, ?_, nofun⟩, ?_⟩,
    ?_, nofun⟩
  · exact fits_map fun d _ => d.fits_toJson
  · exact fits_ofTexts _
  · exact fits_ofTexts _
  · split
    · exact nofun
    · exact List.forall_mem_singleton.2 (fits_ofDictionary fun e _ => .text e.2)
  · exact fits_map fun c _ => c.fits_toJson

/-- Each target that is read is canonical. -/
theorem yields_canonical : decode.Yields Canonical := by
  have hknown : Yields (.map ProductType.ofIdentifier text)
      fun p => ProductType.ofIdentifier p.identifier = p := by
    intro document p hread
    obtain ⟨s, -, rfl⟩ := map_eq_ok_iff.1 hread
    rw [ProductType.identifier_ofIdentifier]
  refine .record nofun ?_
  simp only [fields, List.forall_mem_cons]
  refine ⟨?_, ?_, keeps_defaulted hknown.optional fun r p _ hp => hp, ?_, ?_, ?_, ?_, ?_, nofun⟩
  all_goals exact keeps_of_put rfl fun r _ hr => hr

end Target

namespace Project

/-- The project has the name it gets when it is read, and so have the product types. -/
structure Canonical (p : Project) : Prop where
  name : p.withName = p
  targets : ∀ t ∈ p.targets, t.Canonical

/-- The name that is derived from the path is derived once, for a project that has a name keeps it.
-/
theorem withName_withName (p : Project) : p.withName.withName = p.withName := by
  unfold withName
  by_cases hname : p.name.isEmpty = true
  · rw [if_pos hname]
    split <;> rfl
  · rw [if_neg hname, if_neg hname]

/-- A project is read back if it is canonical, that is, if it has the name that reading gives it and
its targets are canonical. -/
theorem decode_toJson {p : Project} (h : p.Canonical) : decode (.ofJson p.toJson) = .ok p := by
  have hrecord : record {} fields (.ofJson p.toJson) = .ok p := by
    refine record_object (by decide) ?_
    refine .needed (text_text _) ?_
    refine .defaulted (text_text _) ?_
    refine .defaulted (text_text _) ?_
    refine .defaulted (list_map fun c _ => c.decode_toJson) ?_
    refine .defaulted (list_map fun t ht => Target.decode_toJson (h.targets t ht)) ?_
    exact .done p
  rw [decode, Decoder.map, hrecord]
  exact congrArg Except.ok h.name

theorem fits_toJson (p : Project) : Json.Fits (room + 7) p.toJson := by
  refine .object ?_
  simp only [List.forall_mem_cons]
  refine ⟨.text _, .text _, .text _, ?_, ?_, nofun⟩
  · exact fits_map fun c _ => c.fits_toJson
  · exact fits_map fun t _ => t.fits_toJson

/-- Each project that is read is canonical, since reading derives the name. -/
theorem yields_canonical : decode.Yields Canonical := by
  have htargets : (record {} fields).Yields fun p : Project => ∀ t ∈ p.targets, t.Canonical := by
    refine .record nofun ?_
    simp only [fields, List.forall_mem_cons]
    refine ⟨?_, ?_, ?_, ?_, keeps_defaulted Target.yields_canonical.list fun r l _ hl => hl, nofun⟩
    all_goals exact keeps_of_put rfl fun r _ hr => hr
  refine htargets.map fun p hp => ⟨withName_withName p, ?_⟩
  unfold withName
  split <;> exact hp

end Project

/-! ### File indexes -/

namespace FileRecord

/-- A dialect with a known tag is the known dialect. -/
def Canonical (r : FileRecord) : Prop :=
  ∀ d ∈ r.dialect, Dialect.ofTag d.tag = d

/-- A record about a file is read back if a dialect that is written by a known tag is the known
dialect. -/
theorem decode_toJson {r : FileRecord} (h : r.Canonical) : decode (.ofJson r.toJson) = .ok r := by
  refine record_object (by decide) ?_
  simp only [List.append_assoc]
  refine .optional nofun (fun d hd => ?_) rfl ?_
  · rw [Decoder.map, text_text]
    exact congrArg Except.ok (h d hd)
  refine .optional nofun (fun s _ => text_text s) rfl ?_
  refine .optional nofun (fun l _ => list_ofTexts l) rfl ?_
  refine .optional nofun (fun l _ => list_ofTexts l) rfl ?_
  refine .optional nofun (fun s _ => text_text s) rfl ?_
  exact .optional_last nofun (fun s _ => text_text s) rfl

theorem fits_toJson (r : FileRecord) : Json.Fits (room + 2) r.toJson := by
  refine .object ?_
  simp only [List.forall_mem_append, forall_optionalMember]
  exact ⟨⟨⟨⟨⟨fun d _ => .text _, fun s _ => .text s⟩, fun l _ => fits_ofTexts l⟩,
    fun l _ => fits_ofTexts l⟩, fun s _ => .text s⟩, fun s _ => .text s⟩

/-- Each record that is read is canonical: a dialect that comes from a tag is the one the tag is
for. -/
theorem yields_canonical : decode.Yields Canonical := by
  have hknown : Yields (.map Dialect.ofTag text) fun d => Dialect.ofTag d.tag = d := by
    intro document d hread
    obtain ⟨s, -, rfl⟩ := map_eq_ok_iff.1 hread
    rw [Dialect.tag_ofTag]
  refine .record nofun ?_
  simp only [fields, List.forall_mem_cons]
  refine ⟨keeps_defaulted hknown.optional fun r d _ hd => hd, ?_, ?_, ?_, ?_, ?_, nofun⟩
  all_goals exact keeps_of_put rfl fun r _ hr => hr

end FileRecord

namespace FileIndex

/-- All dialects with known tags are the known ones. -/
def Canonical (index : FileIndex) : Prop :=
  ∀ e ∈ index.entries, ∀ f ∈ e.2.entries, f.2.Canonical

/-- An index is read back, with all records in it. -/
theorem decode_toJson {index : FileIndex} (h : Canonical index) :
    decode (.ofJson (toJson index)) = .ok index :=
  dictionary_ofDictionary fun e he => dictionary_ofDictionary fun f hf =>
    FileRecord.decode_toJson (h e he f hf)

theorem fits_toJson (index : FileIndex) : Json.Fits (room + 4) (toJson index) :=
  fits_ofDictionary fun _ _ => fits_ofDictionary fun f _ => f.2.fits_toJson

/-- Each index that is read is canonical, for its records are. -/
theorem yields_canonical : decode.Yields Canonical :=
  FileRecord.yields_canonical.dictionary.dictionary

end FileIndex

/-! ### Catalogs -/

namespace Sdk

theorem decode_toJson (sdk : Sdk) : record {} fields (.ofJson sdk.toJson) = .ok sdk := by
  refine record_object (by decide) ?_
  refine .needed (text_text _) ?_
  refine .needed (text_text _) ?_
  refine .needed (text_text _) ?_
  refine .defaulted (text_text _) ?_
  exact .done sdk

end Sdk

namespace Installation

theorem decode_toJson (i : Installation) : decode (.ofJson i.toJson) = .ok i := by
  refine record_object (by decide) ?_
  refine .needed (text_text _) ?_
  refine .needed (text_text _) ?_
  exact .done i

end Installation

namespace SdkCatalog

/-- A catalog is read back. -/
theorem decode_toJson (c : SdkCatalog) : decode (.ofJson c.toJson) = .ok c := by
  refine record_object (by decide) ?_
  refine .optional nofun (fun i _ => i.decode_toJson) rfl ?_
  refine .defaulted (list_map fun sdk _ => sdk.decode_toJson) ?_
  exact .done c

theorem fits_toJson (c : SdkCatalog) : Json.Fits (room + 3) c.toJson := by
  refine .object ?_
  simp only [List.forall_mem_append, List.forall_mem_singleton, forall_optionalMember]
  refine ⟨fun i _ => .object ?_, fits_map fun sdk _ => .object ?_⟩
  · simp only [List.forall_mem_cons]
    exact ⟨.text _, .text _, nofun⟩
  · simp only [List.forall_mem_cons]
    exact ⟨.text _, .text _, .text _, .text _, nofun⟩

end SdkCatalog

/-! ### Restored values -/

/-- What is written for the value is read as the value, and is written again as it was. -/
def Restored {α : Type} (read : String → Except Fault α) (write : α → Json) (a : α) : Prop :=
  ∀ print ∈ [Json.compact, Json.pretty], read (print (write a)) = .ok a ∧
    (read (print (write a))).map (fun b => print (write b)) = .ok (print (write a))

/-- What fits into the depth of documents and is read back from its value is read back from its
text. -/
theorem restored_of_decode {α : Type} {decode : Decoder α} {write : α → Json} {a : α}
    (hfits : Json.Fits maxDepth (write a)) (hread : decode (.ofJson (write a)) = .ok a) :
    Restored (Document.readText decode) write a := by
  have hprint : ∀ layout : Layout, layout.IsBlank →
      Document.readText decode (layout.print (write a)) = .ok a := by
    intro layout hlayout
    rw [readText_print decode hlayout hfits, hread]
  have hback : ∀ print ∈ [Json.compact, Json.pretty],
      Document.readText decode (print (write a)) = .ok a := by
    simp only [List.forall_mem_cons]
    exact ⟨hprint _ Layout.isBlank_compact, hprint _ Layout.isBlank_indented, nofun⟩
  intro print hmem
  refine ⟨hback print hmem, ?_⟩
  rw [hback print hmem]
  rfl

/-- **Documents are restored**: a project, a file index or a catalog that was read from some text
is written to a text, in either layout, that is read as the same value, and the second writing gives
the same text as the first. -/
theorem restored_of_read :
    (∀ s p, Project.ofText s = .ok p → Restored Project.ofText Project.toJson p) ∧
    (∀ s index, FileIndex.ofText s = .ok index → Restored FileIndex.ofText FileIndex.toJson index) ∧
    (∀ s catalog, SdkCatalog.ofText s = .ok catalog →
      Restored SdkCatalog.ofText SdkCatalog.toJson catalog) := by
  refine ⟨fun s p hread => ?_, fun s index hread => ?_, fun s catalog _ => ?_⟩
  · have hp : p.Canonical := Project.yields_canonical.of_readText hread
    exact restored_of_decode p.fits_toJson (Project.decode_toJson hp)
  · have hindex : FileIndex.Canonical index := FileIndex.yields_canonical.of_readText hread
    exact restored_of_decode index.fits_toJson (FileIndex.decode_toJson hindex)
  · exact restored_of_decode catalog.fits_toJson catalog.decode_toJson

/-- A project by arrays, without a name, with a known product type and flags given twice. -/
def arrayProject : Json :=
  .array [.text "/w/App.xcodeproj", .text "", .text "é\"\n", .array [],
    .array [.object [("productType", .text "com.apple.product-type.tool"), ("name", .text "App"),
      ("productName", .null),
      ("fileCompilerFlags", .object [("a.m", .text "-w"), ("a.m", .text "-g")])]]]

/-- A file index with a record by an array, for a file that is written in Swift. -/
def arrayIndex : Json :=
  .object [("App", .object [("/w/a.swift",
    .array [.text "Xcode.SourceCodeLanguage.Swift", .null, .array [], .null, .null, .text "App"])])]

/-- A catalog by arrays. -/
def arrayCatalog : Json :=
  .array [.array [.text "16A242d", .text "/X"],
    .array [.array [.text "macosx", .text "/S", .text "15.0", .text ""]]]

/-- A project, an index and a catalog that are given as arrays of their fields and in two layouts.
-/
theorem restored_of_read_arrays :
    (∃ p, Project.ofText arrayProject.compact = .ok p ∧ p.name = "App" ∧
      Restored Project.ofText Project.toJson p) ∧
    (∃ index, FileIndex.ofText arrayIndex.pretty = .ok index ∧
      Restored FileIndex.ofText FileIndex.toJson index) ∧
    ∃ catalog, SdkCatalog.ofText arrayCatalog.pretty = .ok catalog ∧
      Restored SdkCatalog.ofText SdkCatalog.toJson catalog := by
  have hproject : Project.ofText arrayProject.compact = .ok
      { path := "/w/App.xcodeproj", name := "App", guid := "é\"\n"
        targets := [{ name := "App", productType := some .tool,
                      fileFlags := .ofList [("a.m", "-g")] }] } := by
    refine (readText_print _ Layout.isBlank_compact ?_).trans rfl
    simp [arrayProject, maxDepth]
  have hindex : FileIndex.ofText arrayIndex.pretty = .ok
      (.ofList [("App", .ofList [("/w/a.swift",
        { dialect := some .swift, swiftArguments := some [], swiftModule := some "App" })])]) := by
    refine (readText_print _ Layout.isBlank_indented ?_).trans rfl
    simp [arrayIndex, maxDepth]
  have hcatalog : SdkCatalog.ofText arrayCatalog.pretty = .ok
      { installation := some ⟨"16A242d", ⟨"/X"⟩⟩, sdks := [⟨"macosx", ⟨"/S"⟩, "15.0", ""⟩] } := by
    refine (readText_print _ Layout.isBlank_indented ?_).trans rfl
    simp [arrayCatalog, maxDepth]
  exact ⟨⟨_, hproject, rfl, restored_of_read.1 _ _ hproject⟩,
    ⟨_, hindex, restored_of_read.2.1 _ _ hindex⟩,
    ⟨_, hcatalog, restored_of_read.2.2 _ _ hcatalog⟩⟩

end BuildSettings
