/-
Reading undoes writing.

What is written of an item, or of a file or a tag of it, is read as that item again, and so is
anything that extends it: the readers ask for members by their names and look at no others.
Files are followed along their nesting, with the array of a container's files beside the file
(`File.ofJson_of_extends`).  An item's metadata is kept as it is, whatever it is, so that is
the one part to which nothing may be added.
-/
import MediaSearch.Proofs.Except
import MediaSearch.Proofs.Json.Extends

namespace MediaSearch

open Json (Value Extends)

/-! ### Tags -/

theorem Tag.ofJson_of_extends (tag : Tag) {value : Value} (h : Extends tag.toJson value) :
    Tag.ofJson value = .ok tag := by
  obtain ⟨text, group⟩ := tag
  cases group with
  | none =>
      obtain rfl := h.eq_of_isPlain trivial
      rfl
  | some group =>
      obtain ⟨members, rfl⟩ := h.exists_object
      have hvalue : textField members "value" = .ok text := textField_of_extends h rfl
      have hgroup : textField members "group" = .ok group := textField_of_extends h rfl
      rw [Tag.ofJson, hvalue, hgroup]
      rfl

theorem Tag.mapM_ofJson_of_extends {tags : List Tag} :
    ∀ {values : List Value}, List.Forall₂ Extends (tags.map Tag.toJson) values →
      values.mapM Tag.ofJson = .ok tags := by
  induction tags with
  | nil =>
      intro values h
      cases h
      rfl
  | cons tag tags ih =>
      intro values h
      cases h with
      | cons hfirst hrest =>
          rw [List.mapM_cons, tag.ofJson_of_extends hfirst, ih hrest]
          rfl

/-! ### Files -/

/-- A downloaded file's type is found among its members, and its source is read from them. -/
theorem Download.ofJson_of_extends (source : Download) {type : String} (more : Members)
    {members : Members} (h : Extends (.object (source.toJson type ++ more)) (.object members)) :
    members.lookup "type" = some (.string type) ∧ Download.ofJson members = .ok source := by
  have hkey : textField members "key" = .ok source.key := textField_of_extends h rfl
  have hfilename : textField members "filename" = .ok source.filename :=
    textField_of_extends h rfl
  have hurl : textField members "url" = .ok source.url := textField_of_extends h rfl
  have hdownloaded : flagField members "downloaded" = source.downloaded :=
    flagField_of_extends h rfl
  refine ⟨lookup_of_extends h rfl trivial, ?_⟩
  rw [Download.ofJson, hkey, hfilename, hurl, hdownloaded]
  rfl

theorem File.nestedOfJson_eq_of_lookup {members : Members} {value : Value}
    (h : members.lookup "nested" = some value) :
    File.nestedOfJson members = File.listOfJson value := by
  induction members with
  | nil => exact nomatch h
  | cons member members ih =>
      obtain ⟨name, first⟩ := member
      rw [File.nestedOfJson]
      by_cases hname : name = "nested"
      · subst hname
        rw [List.lookup_cons_self] at h
        obtain rfl := Option.some.inj h
        rw [if_pos (beq_self_eq_true _)]
      · have hne : ("nested" == name) = false := beq_false_of_ne (Ne.symm hname)
        rw [List.lookup_cons, hne] at h
        rw [if_neg (by simpa using hname)]
        exact ih h

mutual

/-- A file is read from what is written of it, and from all that extends that. -/
theorem File.ofJson_of_extends :
    ∀ (file : File) {value : Value}, Extends file.toJson value → File.ofJson value = .ok file
  | .image source, value, h => by
      rw [File.toJson] at h
      obtain ⟨members, rfl⟩ := h.exists_object
      obtain ⟨htype, hsource⟩ := source.ofJson_of_extends [] h
      simp only [File.ofJson, File.ofMembers, htype, hsource]
      rfl
  | .video source, value, h => by
      rw [File.toJson] at h
      obtain ⟨members, rfl⟩ := h.exists_object
      obtain ⟨htype, hsource⟩ := source.ofJson_of_extends [] h
      simp only [File.ofJson, File.ofMembers, htype, hsource]
      rfl
  | .container source errors nested, value, h => by
      rw [File.toJson] at h
      obtain ⟨members, rfl⟩ := h.exists_object
      obtain ⟨htype, hsource⟩ := source.ofJson_of_extends _ h
      have herrors : flagField members "postprocessingErrors" = errors :=
        flagField_of_extends h rfl
      obtain ⟨value, hvalue, hextends⟩ := h.exists_member "nested" rfl
      obtain ⟨items, rfl, heach⟩ := hextends.exists_array
      have hnested : File.nestedOfJson members = .ok nested := by
        rw [File.nestedOfJson_eq_of_lookup hvalue, File.listOfJson]
        exact File.allOfJson_of_extends nested heach
      simp only [File.ofJson, File.ofMembers, htype, hsource, herrors, hnested]
      rfl
  | .inlineText key content, value, h => by
      rw [File.toJson] at h
      obtain ⟨members, rfl⟩ := h.exists_object
      have htype : members.lookup "type" = some (.string "InlineTextFile") :=
        lookup_of_extends h rfl trivial
      have hkey : textField members "key" = .ok key := textField_of_extends h rfl
      have hcontent : textField members "content" = .ok content := textField_of_extends h rfl
      simp only [File.ofJson, File.ofMembers, htype, hkey, hcontent]
      rfl

/-- Files are read, each from what is written of it or from what extends that. -/
theorem File.allOfJson_of_extends :
    ∀ (files : List File) {values : List Value},
      List.Forall₂ Extends (File.allToJson files) values → File.allOfJson values = .ok files
  | [], values, h => by
      rw [File.allToJson] at h
      cases h
      rfl
  | file :: files, values, h => by
      rw [File.allToJson] at h
      cases h with
      | cons hfirst hrest =>
          rw [File.allOfJson, File.ofJson_of_extends file hfirst,
            File.allOfJson_of_extends files hrest]
          rfl

end

/-! ### Descriptions -/

theorem TextFormat.ofJson_name (format : TextFormat) :
    TextFormat.ofJson (.string format.name) = .ok format := by
  cases format <;> rfl

theorem FormattedText.ofJson_of_extends (description : FormattedText) {value : Value}
    (h : Extends (.object [("format", .string description.format.name),
      ("value", .string description.value)]) value) :
    FormattedText.ofJson value = .ok description := by
  obtain ⟨members, rfl⟩ := h.exists_object
  have hformat : members.lookup "format" = some (.string description.format.name) :=
    lookup_of_extends h rfl trivial
  have hvalue : textField members "value" = .ok description.value := textField_of_extends h rfl
  simp only [FormattedText.ofJson, hformat, hvalue, Option.getD_some, TextFormat.ofJson_name]
  rfl

/-! ### Items -/

/-- An item is read from what is written of it, and from all that extends that and keeps the
metadata. -/
theorem Item.ofJson_of_extends (item : Item) {value : Value} (h : Extends item.toJson value)
    (hmeta : value.member? "meta" = some item.metadata) :
    Item.ofJson item.site value = .ok item := by
  obtain ⟨members, rfl⟩ := h.exists_object
  have hkey : textField members "key" = .ok item.key := textField_of_extends h rfl
  have htitle : textField members "title" = .ok item.title := textField_of_extends h rfl
  have hurl : textField members "url" = .ok item.url := textField_of_extends h rfl
  obtain ⟨description, hlookup, hextends⟩ := h.exists_member "description" rfl
  have hdescription := item.description.ofJson_of_extends hextends
  have hpublished : intField members "sourcePublished" = .ok item.published :=
    intField_of_extends h rfl
  have hfirst : intFieldOr0 members "firstSeen" = .ok item.firstSeen :=
    intFieldOr0_of_extends h rfl
  have hlast : intFieldOr0 members "lastSeen" = .ok item.lastSeen := intFieldOr0_of_extends h rfl
  have hseen : flagField members "seenInLastRefresh" = item.seenInLastRefresh :=
    flagField_of_extends h rfl
  obtain ⟨tags, htags, heachTag⟩ := arrayField_of_extends h "tags" rfl
  obtain ⟨files, hfiles, heachFile⟩ := arrayField_of_extends h "files" rfl
  have hmetadata : members.lookup "meta" = some item.metadata := hmeta
  have htagsRead := Tag.mapM_ofJson_of_extends heachTag
  have hfilesRead := File.allOfJson_of_extends item.files heachFile
  have hitem : Item.ofMembers item.site members = .ok item := by
    simp only [Item.ofMembers, hkey, htitle, hurl, hlookup, Option.getD_some, hdescription,
      hpublished, hfirst, hlast, htags, htagsRead, hfiles, hfilesRead, hmetadata, hseen, ok_bind]
    rfl
  rw [Item.ofJson, hitem]
  rfl

/-- An item is of the site that it is read for. -/
theorem Item.site_of_ofJson {site : String} {value : Value} {item : Item}
    (h : Item.ofJson site value = .ok item) : item.site = site := by
  cases value with
  | object members =>
      have hread : Item.ofMembers site members = .ok item := mapError_eq_ok_iff.mp h
      simp only [Item.ofMembers, bind_eq_ok_iff] at hread
      obtain ⟨_, _, _, _, _, _, _, _, _, _, _, _, _, _, _, _, _, _, _, _, _, _, hitem⟩ := hread
      rw [← Except.ok.inj hitem]
  | _ => exact nomatch h

theorem Item.ofJson_toJson (item : Item) : Item.ofJson item.site item.toJson = .ok item :=
  item.ofJson_of_extends (.same _) rfl

end MediaSearch
