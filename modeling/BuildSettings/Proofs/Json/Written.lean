import BuildSettings.Proofs.Json.Record

/-!
# Reading what was written

A decoder reads back what the encoder beside it has written, one law a combinator. For records the
law is a chain with a step for each field (`Rebuilt`): starting from the blank record, each member
that was written is read into the record, and a value that was left out is one that the record still
lacks. So whether a field is there need not be told apart for several fields at once.

What a decoder can give at all is said by `Yields`, from any document: from an array as well as from
an object, with members in any order.

* `list_map`, `dictionary_ofDictionary` — lists and dictionaries.
* `record_object` — a record from the members that rebuild it.
* `Yields.record` — what holds of the blank record and is kept by each field holds of the result.
-/

namespace BuildSettings.Json.Decoder

variable {α β σ : Type} {decode : Decoder α} {write : α → Json} {P : α → Prop}

/-! ### Texts and lists -/

theorem text_text (s : String) : text (.ofJson (.text s)) = .ok s := by
  rw [Document.ofJson, text]

/-- If each element of a list is read back from what is written for it, the whole list is. -/
theorem items_map {l : List α} (h : ∀ a ∈ l, decode (.ofJson (write a)) = .ok a) :
    items decode (.ofList (l.map write)) = .ok l := by
  induction l with
  | nil => rw [List.map_nil, Items.ofList, items]
  | cons a l ih =>
    obtain ⟨ha, hl⟩ := List.forall_mem_cons.1 h
    rw [List.map_cons, Items.ofList, items, ha, ih hl]
    rfl

theorem list_map {l : List α} (h : ∀ a ∈ l, decode (.ofJson (write a)) = .ok a) :
    list decode (.ofJson (.array (l.map write))) = .ok l := by
  rw [Document.ofJson]
  exact items_map h

theorem list_ofTexts (l : List String) : list text (.ofJson (.ofTexts l)) = .ok l :=
  list_map fun s _ => text_text s

/-- The same for the members of an object, whose keys are written as they are. -/
theorem members_map {l : List (String × α)} (h : ∀ e ∈ l, decode (.ofJson (write e.2)) = .ok e.2) :
    members decode (.ofList (l.map fun e => (e.1, write e.2))) = .ok l := by
  induction l with
  | nil => rw [List.map_nil, Members.ofList, members]
  | cons e l ih =>
    obtain ⟨he, hl⟩ := List.forall_mem_cons.1 h
    rw [List.map_cons, Members.ofList, members, he, ih hl]
    rfl

/-- A dictionary is written in the order of its keys and read back to the same dictionary, since the
order is part of what it is. -/
theorem dictionary_ofDictionary {d : Dictionary α}
    (h : ∀ e ∈ d.entries, decode (.ofJson (write e.2)) = .ok e.2) :
    dictionary decode (.ofJson (.ofDictionary write d)) = .ok d := by
  rw [Json.ofDictionary, Document.ofJson, dictionary, members_map h]
  exact congrArg Except.ok d.ofList_entries

theorem dictionary_ofSettings (d : Dictionary String) :
    dictionary text (.ofJson (.ofSettings d)) = .ok d :=
  dictionary_ofDictionary fun e _ => text_text e.2

/-- What is written for a value that is there must not be `null`, which stands for a missing one. -/
theorem optional_ofJson {value : Json} {a : α} (hnull : value ≠ .null)
    (h : decode (.ofJson value) = .ok a) : optional decode (.ofJson value) = .ok (some a) := by
  cases value with
  | null => exact absurd rfl hnull
  | _ =>
    rw [Document.ofJson] at h ⊢
    rw [optional, h]
    · rfl
    · rintro ⟨⟩

/-! ### Records -/

/-- Members in the order of the fields, each read into the record; a field without a member may be
missing. -/
inductive Rebuilt : σ → List (RecordField σ) → List (String × Json) → σ → Prop
  | done (r : σ) : Rebuilt r [] [] r
  | present {r whole : σ} {f : RecordField σ} {fields : List (RecordField σ)} {value : Json}
      {put : σ → σ} {members : List (String × Json)} (hread : f.read (.ofJson value) = .ok put)
      (hrest : Rebuilt (put r) fields members whole) :
      Rebuilt r (f :: fields) ((f.name, value) :: members) whole
  | absent {r whole : σ} {f : RecordField σ} {fields : List (RecordField σ)}
      {members : List (String × Json)} (hrequired : f.required = false)
      (hrest : Rebuilt r fields members whole) : Rebuilt r (f :: fields) members whole

section Rebuilt

variable {r whole : σ} {fields : List (RecordField σ)} {members : List (String × Json)}
  {name : String}

/-- A field that has to be there is written and read first, and the others after it, in the order of
the fields. -/
theorem Rebuilt.needed {put : σ → α → σ} {value : Json} {a : α}
    (hread : decode (.ofJson value) = .ok a) (hrest : Rebuilt (put r a) fields members whole) :
    Rebuilt r (.needed name decode put :: fields) ((name, value) :: members) whole :=
  .present (map_eq_ok_iff.2 ⟨a, hread, rfl⟩) hrest

/-- For a field with a default the same holds as long as it is written. -/
theorem Rebuilt.defaulted {put : σ → α → σ} {value : Json} {a : α}
    (hread : decode (.ofJson value) = .ok a) (hrest : Rebuilt (put r a) fields members whole) :
    Rebuilt r (.defaulted name decode put :: fields) ((name, value) :: members) whole :=
  .present (map_eq_ok_iff.2 ⟨a, hread, rfl⟩) hrest

/-- A value that may be missing is left out, and read as missing. -/
theorem Rebuilt.optional {put : σ → Option α → σ} {value : Option α}
    (hnull : ∀ a, write a ≠ .null) (hread : ∀ a ∈ value, decode (.ofJson (write a)) = .ok a)
    (hmissing : put r none = r) (hrest : Rebuilt (put r value) fields members whole) :
    Rebuilt r (.defaulted name (.optional decode) put :: fields)
      (optionalMember name write value ++ members) whole := by
  cases value with
  | none =>
    rw [hmissing] at hrest
    exact .absent rfl hrest
  | some a => exact .defaulted (optional_ofJson (hnull a) (hread a rfl)) hrest

/-- A last field may be left out when there is nothing to write. The reader then gives the record as
it is, so it must have had nothing in that field. -/
theorem Rebuilt.optional_last {put : σ → Option α → σ} {value : Option α}
    (hnull : ∀ a, write a ≠ .null) (hread : ∀ a ∈ value, decode (.ofJson (write a)) = .ok a)
    (hmissing : put r none = r) : Rebuilt r [.defaulted name (.optional decode) put]
      (optionalMember name write value) (put r value) := by
  rw [← List.append_nil (optionalMember name write value)]
  exact .optional hnull hread hmissing (.done _)

/-- A value that is left out when it is the one that the record comes with. -/
theorem Rebuilt.unless {put : σ → α → σ} {value : Json} {a usual : α} {missing : Bool}
    (hread : decode (.ofJson value) = .ok a) (husual : put r usual = r)
    (hmissing : missing = true → a = usual) (hrest : Rebuilt (put r a) fields members whole) :
    Rebuilt r (.defaulted name decode put :: fields)
      ((if missing then [] else [(name, value)]) ++ members) whole := by
  cases missing with
  | true =>
    rw [hmissing rfl, husual] at hrest
    exact .absent rfl hrest
  | false => exact .defaulted hread hrest

/-- Of fields with different names each is found by its own. -/
theorem find?_of_nodup {earlier later : List (RecordField σ)} {f : RecordField σ}
    (hnodup : ((earlier ++ f :: later).map (·.name)).Nodup) :
    (earlier ++ f :: later).find? (·.name == f.name) = some f ∧ ∀ e ∈ earlier, e.name ≠ f.name := by
  rw [List.map_append, List.nodup_append] at hnodup
  have hne : ∀ e ∈ earlier, e.name ≠ f.name := fun e he =>
    hnodup.2.2 _ (List.mem_map_of_mem he) _ (by simp)
  refine ⟨List.find?_eq_some_iff_append.2 ⟨beq_self_eq_true _, earlier, later, rfl, fun e he => ?_⟩,
    hne⟩
  simpa using hne e he

/-- Members that follow the fields in order are read to the whole record. The induction is on the
fields that are left; those read earlier have been seen, which is what the reader tests against
repeated keys. -/
theorem recordMembers_of_rebuilt (h : Rebuilt r fields members whole)
    (earlier : List (RecordField σ)) (seen : List String)
    (hnodup : ((earlier ++ fields).map (·.name)).Nodup)
    (hseen : ∀ n ∈ seen, ∃ f ∈ earlier, f.name = n)
    (hrequired : ∀ f ∈ earlier, f.required = true → f.name ∈ seen) :
    recordMembers (earlier ++ fields) seen r (.ofList members) = .ok whole := by
  induction h generalizing earlier seen with
  | done r =>
    rw [Members.ofList, recordMembers, if_pos]
    rw [List.append_nil, List.all_eq_true]
    intro f hf
    cases hneeded : f.required with
    | false => rfl
    | true => simpa using hrequired f hf hneeded
  | @present r whole f fields value put members hread hrest ih =>
    obtain ⟨hfind, hne⟩ := find?_of_nodup hnodup
    -- the names differ, so a field that is left was not seen
    have hnew : ¬ seen.contains f.name = true := by
      intro hcontains
      obtain ⟨e, he, hname⟩ := hseen _ (List.contains_iff_mem.1 hcontains)
      exact hne e he hname
    have hsplit : earlier ++ f :: fields = (earlier ++ [f]) ++ fields := by simp
    rw [Members.ofList, recordMembers]
    refine bind_eq_ok_iff.2 ⟨f.name, rfl, ?_⟩
    rw [hfind]
    dsimp only
    rw [if_neg hnew]
    refine bind_eq_ok_iff.2 ⟨put, hread, ?_⟩
    rw [hsplit] at hnodup ⊢
    refine ih (earlier ++ [f]) (f.name :: seen) hnodup (fun n hn => ?_) fun g hg hneeded => ?_
    · rcases List.mem_cons.1 hn with rfl | hn
      · exact ⟨f, by simp, rfl⟩
      · obtain ⟨e, he, hname⟩ := hseen n hn
        exact ⟨e, List.mem_append_left _ he, hname⟩
    · rcases List.mem_append.1 hg with hg | hg
      · exact List.mem_cons_of_mem _ (hrequired g hg hneeded)
      · exact List.mem_singleton.1 hg ▸ List.mem_cons_self
  | @absent r whole f fields members hoptional hrest ih =>
    have hsplit : earlier ++ f :: fields = (earlier ++ [f]) ++ fields := by simp
    rw [hsplit] at hnodup ⊢
    refine ih (earlier ++ [f]) seen hnodup (fun n hn => ?_) fun g hg hgrequired => ?_
    · obtain ⟨g, hg, hname⟩ := hseen n hn
      exact ⟨g, List.mem_append_left _ hg, hname⟩
    · rcases List.mem_append.1 hg with hg | hg
      · exact hrequired g hg hgrequired
      · rw [List.mem_singleton.1 hg, hoptional] at hgrequired
        cases hgrequired

/-- A record is read from the members that rebuild it. -/
theorem record_object {blank : σ} (hnodup : (fields.map (·.name)).Nodup)
    (h : Rebuilt blank fields members whole) :
    record blank fields (.ofJson (.object members)) = .ok whole := by
  rw [Document.ofJson]
  exact recordMembers_of_rebuilt h [] [] hnodup (fun _ hn => absurd hn List.not_mem_nil)
    fun _ hf => absurd hf List.not_mem_nil

end Rebuilt

/-! ### What a decoder can give -/

/-- Whatever is read has the property. -/
def Yields (decode : Decoder α) (P : α → Prop) : Prop :=
  ∀ document a, decode document = .ok a → P a

/-- What a decoder yields carries over to what is made of it. -/
theorem Yields.map {Q : β → Prop} (h : decode.Yields P) {f : α → β} (hf : ∀ a, P a → Q (f a)) :
    (Decoder.map f decode).Yields Q := by
  intro document b hread
  obtain ⟨a, ha, rfl⟩ := map_eq_ok_iff.1 hread
  exact hf a (h document a ha)

theorem Yields.optional (h : decode.Yields P) : (optional decode).Yields fun o => ∀ a ∈ o, P a := by
  intro document o hread
  unfold Decoder.optional at hread
  split at hread
  next =>
    obtain rfl := Except.ok.inj hread
    exact nofun
  next =>
    obtain ⟨a, ha, rfl⟩ := map_eq_ok_iff.1 hread
    rintro b ⟨⟩
    exact h _ a ha

/-- If all values that a decoder yields have a property, so have all elements of a list that it
reads. -/
theorem Yields.items (h : decode.Yields P) : ∀ (contents : Items) (l : List α),
    Decoder.items decode contents = .ok l → ∀ a ∈ l, P a
  | .close, l, hread => by
    obtain rfl := Except.ok.inj hread
    exact nofun
  | .cut _, _, hread => nomatch hread
  | .item value rest, l, hread => by
    obtain ⟨a, ha, hread⟩ := bind_eq_ok_iff.1 hread
    obtain ⟨others, hrest, hread⟩ := bind_eq_ok_iff.1 hread
    obtain rfl := Except.ok.inj hread
    exact List.forall_mem_cons.2 ⟨h _ a ha, Yields.items h rest others hrest⟩

theorem Yields.list (h : decode.Yields P) : (list decode).Yields fun l => ∀ a ∈ l, P a := by
  intro document l hread
  cases document with
  | array contents => exact h.items contents l hread
  | _ => cases hread

/-- The same for the members of an object. -/
theorem Yields.members (h : decode.Yields P) : ∀ (contents : Members) (l : List (String × α)),
    Decoder.members decode contents = .ok l → ∀ e ∈ l, P e.2
  | .close, l, hread => by
    obtain rfl := Except.ok.inj hread
    exact nofun
  | .cut _, _, hread => nomatch hread
  | .member key value rest, l, hread => by
    obtain ⟨name, -, hread⟩ := bind_eq_ok_iff.1 hread
    obtain ⟨a, ha, hread⟩ := bind_eq_ok_iff.1 hread
    obtain ⟨others, hrest, hread⟩ := bind_eq_ok_iff.1 hread
    obtain rfl := Except.ok.inj hread
    exact List.forall_mem_cons.2 ⟨h _ a ha, Yields.members h rest others hrest⟩

/-- And for a dictionary, in which the last of several members of one key stays. -/
theorem Yields.dictionary (h : decode.Yields P) :
    (dictionary decode).Yields fun d => ∀ e ∈ d.entries, P e.2 := by
  intro document d hread
  cases document with
  | object contents =>
    obtain ⟨l, hl, rfl⟩ := map_eq_ok_iff.1 hread
    intro e he
    have hget := Dictionary.get?_eq_some_iff.2 he
    rw [Dictionary.get?_ofList] at hget
    exact h.members contents l hl _ (List.mem_reverse.1 (Dictionary.mem_of_lookup hget))
  | _ => cases hread

/-- Reading the field keeps a property of the record. -/
def Keeps (P : σ → Prop) (f : RecordField σ) : Prop :=
  ∀ document put, f.read document = .ok put → ∀ r, P r → P (put r)

/-- A field keeps a property of records if putting a value with the yielded property into the record
does. -/
theorem keeps_defaulted {P : σ → Prop} {Q : α → Prop} {name : String} {put : σ → α → σ}
    (h : decode.Yields Q) (hput : ∀ r a, P r → Q a → P (put r a)) :
    Keeps P (.defaulted name decode put) := by
  intro document change hread r hr
  obtain ⟨a, ha, rfl⟩ := map_eq_ok_iff.1 hread
  exact hput r a hr (h document a ha)

/-- A field that does not touch what the property is about. -/
theorem keeps_of_put {P : σ → Prop} {f : RecordField σ} {decode : Decoder α} {put : σ → α → σ}
    (hread : f.read = fun document => (decode document).map fun a r => put r a)
    (h : ∀ r a, P r → P (put r a)) : Keeps P f := by
  intro document change hchange r hr
  rw [hread] at hchange
  obtain ⟨a, -, rfl⟩ := map_eq_ok_iff.1 hchange
  exact h r a hr

section Record

variable {P : σ → Prop} {fields : List (RecordField σ)}

/-- So a property that all fields keep holds of any record read from members, since each member
changes the record by one field or is passed over. -/
theorem recordMembers_keeps (h : ∀ f ∈ fields, Keeps P f) :
    ∀ (contents : Members) (seen : List String) (r whole : σ), P r →
      recordMembers fields seen r contents = .ok whole → P whole
  | .close, seen, r, whole, hr, hread => by
    rw [recordMembers] at hread
    split at hread
    · exact Except.ok.inj hread ▸ hr
    · cases hread
  | .cut _, _, _, _, _, hread => nomatch hread
  | .member key value rest, seen, r, whole, hr, hread => by
    cases key with
    | error fault => cases hread
    | ok name =>
      rcases recordMembers_member hread with ⟨-, hrest⟩ | ⟨f, put, hf, -, hput, hrest⟩
      · exact recordMembers_keeps h rest seen r whole hr hrest
      · have hkept := h f (List.mem_of_find?_eq_some hf) value put hput r hr
        exact recordMembers_keeps h rest _ _ whole hkept hrest

/-- The same for records that are given as arrays. -/
theorem recordItems_keeps : ∀ (contents : Items) (fields : List (RecordField σ)) (r whole : σ),
    (∀ f ∈ fields, Keeps P f) → P r → recordItems r fields contents = .ok whole → P whole
  | .close, [], r, whole, _, hr, hread => Except.ok.inj hread ▸ hr
  | .close, f :: fields, r, whole, _, hr, hread => by
    rw [recordItems] at hread
    · split at hread
      · cases hread
      · exact Except.ok.inj hread ▸ hr
    · exact nofun
  | .cut _, [], _, _, _, _, hread => nomatch hread
  | .cut _, _ :: _, _, _, _, _, hread => nomatch hread
  | .item _ _, [], _, _, _, _, hread => nomatch hread
  | .item value rest, f :: fields, r, whole, h, hr, hread => by
    obtain ⟨hf, hfields⟩ := List.forall_mem_cons.1 h
    rw [recordItems] at hread
    obtain ⟨put, hput, hrest⟩ := bind_eq_ok_iff.1 hread
    exact recordItems_keeps rest fields _ whole hfields (hf value put hput r hr) hrest

/-- What holds of the blank record and is kept by each field holds of the whole record. -/
theorem Yields.record {blank : σ} (hblank : P blank) (h : ∀ f ∈ fields, Keeps P f) :
    (record blank fields).Yields P := by
  intro document whole hread
  cases document with
  | object contents => exact recordMembers_keeps h contents [] blank whole hblank hread
  | array contents => exact recordItems_keeps contents fields blank whole h hblank hread
  | _ => cases hread

end Record

/-- What is read from a text has the property that the decoder yields. -/
theorem Yields.of_readText (h : decode.Yields P) {text : String} {a : α}
    (hread : Document.readText decode text = .ok a) : P a := by
  unfold Document.readText at hread
  dsimp only at hread
  split at hread
  next => cases hread
  next b hb =>
    split at hread
    · cases hread
    · exact Except.ok.inj hread ▸ h _ b hb

end BuildSettings.Json.Decoder
