/-
What is read as an item.

The schema says what has to be in a JSON value for it to be an item, and nothing about how it is
read: members that must be there or may be missing, each with what its value may be, and files
within containers to any depth (`Schema.IsItem`).  Every reader of a part has a result exactly if
that part is as the schema has it.  For files one direction follows the file that was read, the
other the reasons for which a value is a file; both come to the files in a container by looking up
one member.
-/
import MediaSearch.Proofs.Item.RoundTrip

namespace MediaSearch

open Json (Value)

variable {members : Members} {name : String} {value data : Value} {items : List Value}

namespace Schema

/-! ### Members and values -/

/-- A member is there, and its value is of a kind. -/
def Has (members : Members) (name : String) (kind : Value → Prop) : Prop :=
  ∃ value, members.lookup name = some value ∧ kind value

/-- A member is missing, or its value is of a kind. -/
def MayHave (members : Members) (name : String) (kind : Value → Prop) : Prop :=
  ∀ value, members.lookup name = some value → kind value

/-- A value is a text. -/
def IsText (value : Value) : Prop :=
  ∃ text, value = .string text

/-- A value is one of some texts. -/
def IsOneOf (texts : List String) (value : Value) : Prop :=
  ∃ text ∈ texts, value = .string text

/-- A value is a whole number, without a point or an exponent. -/
def IsInt (value : Value) : Prop :=
  ∃ number, value = .int number

/-- A value is an array of values of a kind. -/
def IsArrayOf (kind : Value → Prop) (value : Value) : Prop :=
  ∃ items, value = .array items ∧ ∀ item ∈ items, kind item

/-- A value is an object with members of a kind. -/
def IsObject (kind : Members → Prop) (value : Value) : Prop :=
  ∃ members, value = .object members ∧ kind members

/-! ### The schema -/

/-- A description is an object with a markup that is known and a text. -/
def IsDescription : Value → Prop :=
  IsObject fun members =>
    Has members "format" (IsOneOf ["markdown", "plaintext", "html"]) ∧ Has members "value" IsText

/-- A tag is a text, or an object with a text and a group. -/
def IsTag (value : Value) : Prop :=
  IsText value ∨
    IsObject (fun members => Has members "value" IsText ∧ Has members "group" IsText) value

/-- What tells where a file comes from. -/
structure IsDownload (members : Members) : Prop where
  /-- The file's key, -/
  key : Has members "key" IsText
  /-- its name -/
  filename : Has members "filename" IsText
  /-- and its address are texts. -/
  url : Has members "url" IsText

/-- A file is an object with one of four types, and with what belongs to that type. -/
inductive IsFile : Value → Prop
  /-- A picture -/
  | image {members : Members} (type : members.lookup "type" = some (.string "ImageFile"))
      (source : IsDownload members) : IsFile (.object members)
  /-- or a film comes from somewhere. -/
  | video {members : Members} (type : members.lookup "type" = some (.string "VideoFile"))
      (source : IsDownload members) : IsFile (.object members)
  /-- So does a container; the files in it may be missing, else they are an array of files. -/
  | container {members : Members} (type : members.lookup "type" = some (.string "IntermediateFile"))
      (source : IsDownload members) (array : MayHave members "nested" (IsArrayOf fun _ => True))
      (nested : ∀ items, members.lookup "nested" = some (.array items) →
        ∀ item ∈ items, IsFile item) : IsFile (.object members)
  /-- A text is written out. -/
  | inlineText {members : Members} (type : members.lookup "type" = some (.string "InlineTextFile"))
      (key : Has members "key" IsText) (content : Has members "content" IsText) :
      IsFile (.object members)

/-- The members of an item.  There may be any others, and flags may be anything. -/
structure IsItemMembers (members : Members) : Prop where
  /-- Key, -/
  key : Has members "key" IsText
  /-- title -/
  title : Has members "title" IsText
  /-- and address are texts. -/
  url : Has members "url" IsText
  /-- There is a description. -/
  description : Has members "description" IsDescription
  /-- The time of publication is a whole number, -/
  published : Has members "sourcePublished" IsInt
  /-- and so are the times at which the item was first -/
  firstSeen : MayHave members "firstSeen" IsInt
  /-- and last seen, if they are there. -/
  lastSeen : MayHave members "lastSeen" IsInt
  /-- Tags -/
  tags : MayHave members "tags" (IsArrayOf IsTag)
  /-- and files are arrays, if they are there. -/
  files : MayHave members "files" (IsArrayOf IsFile)

/-- A value is an item. -/
def IsItem : Value → Prop :=
  IsObject IsItemMembers

end Schema

open Schema

/-! ### Fields -/

/-- A text that has to be there is read if it is there. -/
theorem exists_textField_iff :
    (∃ text, textField members name = .ok text) ↔ Has members name IsText := by
  rw [textField]
  constructor
  · rintro ⟨text, h⟩
    split at h
    · cases h
    · next found hfound => exact ⟨_, hfound, found, rfl⟩
    · cases h
  · rintro ⟨_, hfound, text, rfl⟩
    exact ⟨text, by rw [hfound]⟩

theorem exists_intField_iff :
    (∃ number, intField members name = .ok number) ↔ Has members name IsInt := by
  rw [intField]
  constructor
  · rintro ⟨number, h⟩
    split at h
    · cases h
    · next found hfound => exact ⟨_, hfound, found, rfl⟩
    · cases h
  · rintro ⟨_, hfound, number, rfl⟩
    exact ⟨number, by rw [hfound]⟩

/-- A member that is there is what it may be if it is what it has to be. -/
theorem mayHave_iff_of_lookup {kind : Value → Prop} (h : members.lookup name = some value) :
    MayHave members name kind ↔ kind value := by
  constructor
  · intro hmay
    exact hmay value h
  · intro hkind other hother
    rwa [← Option.some.inj (h.symm.trans hother)]

theorem mayHave_of_lookup_eq_none {kind : Value → Prop} (h : members.lookup name = none) :
    MayHave members name kind :=
  fun _ hfound => nomatch h.symm.trans hfound

theorem exists_intFieldOr0_iff :
    (∃ number, intFieldOr0 members name = .ok number) ↔ MayHave members name IsInt := by
  rw [intFieldOr0]
  cases h : members.lookup name with
  | none => exact iff_of_true ⟨0, rfl⟩ (mayHave_of_lookup_eq_none h)
  | some value =>
      rw [mayHave_iff_of_lookup h]
      show (∃ number, intField members name = .ok number) ↔ _
      rw [exists_intField_iff, Has, h]
      simp

/-- Where null is not of the kind, a member has to be there exactly if it is like null when it is
missing. -/
theorem has_iff_getD {kind : Value → Prop} (hnull : ¬kind .null) :
    Has members name kind ↔ kind ((members.lookup name).getD .null) := by
  rw [Has]
  cases members.lookup name with
  | none => simpa using hnull
  | some value => simp

/-- An array is read with what each of its items gives. -/
theorem exists_arrayField_iff {kind : Value → Prop} :
    (∃ items, arrayField members name = .ok items ∧ ∀ item ∈ items, kind item) ↔
      MayHave members name (IsArrayOf kind) := by
  rw [arrayField]
  cases h : members.lookup name with
  | none =>
      exact iff_of_true ⟨[], rfl, List.forall_mem_nil _⟩ (mayHave_of_lookup_eq_none h)
  | some value =>
      rw [mayHave_iff_of_lookup h]
      constructor
      · rintro ⟨items, hitems, heach⟩
        cases value with
        | array found =>
            obtain rfl : found = items := Except.ok.inj hitems
            exact ⟨found, rfl, heach⟩
        | _ => cases hitems
      · rintro ⟨items, rfl, heach⟩
        exact ⟨items, rfl, heach⟩

/-! ### Tags -/

theorem exists_tag_iff : (∃ tag, Tag.ofJson value = .ok tag) ↔ IsTag value := by
  constructor
  · rintro ⟨tag, h⟩
    cases value with
    | string text => exact .inl ⟨text, rfl⟩
    | object members =>
        simp only [Tag.ofJson, bind_eq_ok_iff] at h
        obtain ⟨text, htext, group, hgroup, -⟩ := h
        exact .inr ⟨members, rfl, exists_textField_iff.mp ⟨text, htext⟩,
          exists_textField_iff.mp ⟨group, hgroup⟩⟩
    | _ => cases h
  · rintro (⟨text, rfl⟩ | ⟨members, rfl, htext, hgroup⟩)
    · exact ⟨_, rfl⟩
    · obtain ⟨text, htext⟩ := exists_textField_iff.mpr htext
      obtain ⟨group, hgroup⟩ := exists_textField_iff.mpr hgroup
      refine ⟨⟨text, some group⟩, ?_⟩
      simp only [Tag.ofJson, htext, hgroup, ok_bind]
      rfl

/-! ### Files -/

theorem exists_download_iff :
    (∃ source, Download.ofJson members = .ok source) ↔ IsDownload members := by
  constructor
  · rintro ⟨source, h⟩
    simp only [Download.ofJson, bind_eq_ok_iff] at h
    obtain ⟨key, hkey, filename, hfilename, url, hurl, -⟩ := h
    exact ⟨exists_textField_iff.mp ⟨key, hkey⟩, exists_textField_iff.mp ⟨filename, hfilename⟩,
      exists_textField_iff.mp ⟨url, hurl⟩⟩
  · rintro ⟨hkey, hfilename, hurl⟩
    obtain ⟨key, hkey⟩ := exists_textField_iff.mpr hkey
    obtain ⟨filename, hfilename⟩ := exists_textField_iff.mpr hfilename
    obtain ⟨url, hurl⟩ := exists_textField_iff.mpr hurl
    refine ⟨⟨key, filename, url, flagField members "downloaded"⟩, ?_⟩
    simp only [Download.ofJson, hkey, hfilename, hurl, ok_bind]
    rfl

theorem File.allOfJson_eq_mapM : File.allOfJson items = items.mapM File.ofJson := by
  induction items with
  | nil => rw [File.allOfJson, List.mapM_nil]; rfl
  | cons item items ih => rw [File.allOfJson, List.mapM_cons, ih]

theorem File.nestedOfJson_of_lookup_eq_none (h : members.lookup "nested" = none) :
    File.nestedOfJson members = .ok [] := by
  induction members with
  | nil => rw [File.nestedOfJson]
  | cons member members ih =>
      obtain ⟨name, first⟩ := member
      rw [List.lookup_cons] at h
      split at h
      · cases h
      · next hname =>
        have hne : ¬(name == "nested") = true := fun hsame =>
          ne_of_beq_false hname (beq_iff_eq.mp hsame).symm
        rw [File.nestedOfJson, if_neg hne]
        exact ih h

/-- The files in a container are those of an array, or there are none since no member tells. -/
theorem File.nestedOfJson_eq_ok_iff {files : List File} :
    File.nestedOfJson members = .ok files ↔
      (members.lookup "nested" = none ∧ files = []) ∨
      ∃ items, members.lookup "nested" = some (.array items) ∧
        File.allOfJson items = .ok files := by
  cases h : members.lookup "nested" with
  | none =>
      rw [File.nestedOfJson_of_lookup_eq_none h]
      simp [eq_comm]
  | some value =>
      rw [File.nestedOfJson_eq_of_lookup h]
      cases value <;> simp [File.listOfJson]

/-- What a file has been read from. -/
def File.ReadFrom (members : Members) (nested : Except Fault (List File)) : File → Prop
  | image source =>
    members.lookup "type" = some (.string "ImageFile") ∧ Download.ofJson members = .ok source
  | video source =>
    members.lookup "type" = some (.string "VideoFile") ∧ Download.ofJson members = .ok source
  | container source _ files =>
    members.lookup "type" = some (.string "IntermediateFile") ∧
      Download.ofJson members = .ok source ∧ nested = .ok files
  | inlineText key content =>
    members.lookup "type" = some (.string "InlineTextFile") ∧
      textField members "key" = .ok key ∧ textField members "content" = .ok content

theorem File.readFrom_of_ofMembers {nested : Except Fault (List File)} {file : File}
    (h : File.ofMembers members nested = .ok file) : file.ReadFrom members nested := by
  rw [File.ofMembers] at h
  split at h
  · next htype =>
    obtain ⟨source, hsource, rfl⟩ := map_eq_ok_iff.mp h
    exact ⟨htype, hsource⟩
  · next htype =>
    obtain ⟨source, hsource, rfl⟩ := map_eq_ok_iff.mp h
    exact ⟨htype, hsource⟩
  · next htype =>
    simp only [bind_eq_ok_iff] at h
    obtain ⟨source, hsource, files, hfiles, h⟩ := h
    obtain rfl := Except.ok.inj h
    exact ⟨htype, hsource, hfiles⟩
  · next htype =>
    simp only [bind_eq_ok_iff] at h
    obtain ⟨key, hkey, content, hcontent, h⟩ := h
    obtain rfl := Except.ok.inj h
    exact ⟨htype, hkey, hcontent⟩
  · cases h

mutual

/-- What is read as a file is one, along the file that is read. -/
theorem File.isFile_of_ofJson :
    ∀ (file : File) {value : Value}, File.ofJson value = .ok file → IsFile value
  | .image source, .object members, h => by
      rw [File.ofJson] at h
      obtain ⟨htype, hsource⟩ := File.readFrom_of_ofMembers h
      exact .image htype (exists_download_iff.mp ⟨source, hsource⟩)
  | .video source, .object members, h => by
      rw [File.ofJson] at h
      obtain ⟨htype, hsource⟩ := File.readFrom_of_ofMembers h
      exact .video htype (exists_download_iff.mp ⟨source, hsource⟩)
  | .container source _ files, .object members, h => by
      rw [File.ofJson] at h
      obtain ⟨htype, hsource, hfiles⟩ := File.readFrom_of_ofMembers h
      have hdownload := exists_download_iff.mp ⟨source, hsource⟩
      rcases File.nestedOfJson_eq_ok_iff.mp hfiles with ⟨hnone, -⟩ | ⟨items, hitems, hfiles⟩
      · exact .container htype hdownload (mayHave_of_lookup_eq_none hnone)
          fun items hitems => nomatch hnone.symm.trans hitems
      · refine .container htype hdownload
          ((mayHave_iff_of_lookup hitems).mpr ⟨items, rfl, fun _ _ => trivial⟩) ?_
        intro others hothers
        obtain rfl := Value.array.inj (Option.some.inj (hitems.symm.trans hothers))
        exact File.isFile_of_allOfJson files hfiles
  | .inlineText key content, .object members, h => by
      rw [File.ofJson] at h
      obtain ⟨htype, hkey, hcontent⟩ := File.readFrom_of_ofMembers h
      exact .inlineText htype (exists_textField_iff.mp ⟨key, hkey⟩)
        (exists_textField_iff.mp ⟨content, hcontent⟩)

/-- Where files are read, each value is one. -/
theorem File.isFile_of_allOfJson :
    ∀ (files : List File) {values : List Value}, File.allOfJson values = .ok files →
      ∀ value ∈ values, IsFile value
  | _, [], _ => fun _ h => nomatch h
  | [], value :: values, h => by
      simp only [File.allOfJson, bind_eq_ok_iff] at h
      obtain ⟨file, -, files, -, h⟩ := h
      exact nomatch h
  | file :: files, value :: values, h => by
      simp only [File.allOfJson, bind_eq_ok_iff] at h
      obtain ⟨first, hfirst, rest, hrest, h⟩ := h
      obtain ⟨rfl, rfl⟩ := List.cons.inj (Except.ok.inj h)
      exact List.forall_mem_cons.mpr
        ⟨File.isFile_of_ofJson first hfirst, File.isFile_of_allOfJson rest hrest⟩

end

/-- A file is read, along the reasons for which a value is one. -/
theorem exists_file_of_isFile (h : IsFile value) : ∃ file, File.ofJson value = .ok file := by
  induction h with
  | image type source =>
      obtain ⟨source, hsource⟩ := exists_download_iff.mpr source
      exact ⟨.image source, by simp only [File.ofJson, File.ofMembers, type, hsource]; rfl⟩
  | video type source =>
      obtain ⟨source, hsource⟩ := exists_download_iff.mpr source
      exact ⟨.video source, by simp only [File.ofJson, File.ofMembers, type, hsource]; rfl⟩
  | @container members type source array nested ih =>
      obtain ⟨source, hsource⟩ := exists_download_iff.mpr source
      have hnested : ∃ files, File.nestedOfJson members = .ok files := by
        cases hlookup : members.lookup "nested" with
        | none => exact ⟨[], File.nestedOfJson_of_lookup_eq_none hlookup⟩
        | some value =>
            obtain ⟨items, rfl, -⟩ := array value hlookup
            rw [File.nestedOfJson_eq_of_lookup hlookup, File.listOfJson, File.allOfJson_eq_mapM]
            exact exists_mapM_iff.mpr (ih items hlookup)
      obtain ⟨files, hfiles⟩ := hnested
      refine ⟨.container source (flagField members "postprocessingErrors") files, ?_⟩
      simp only [File.ofJson, File.ofMembers, type, hsource, hfiles, ok_bind]
      rfl
  | inlineText type key content =>
      obtain ⟨key, hkey⟩ := exists_textField_iff.mpr key
      obtain ⟨content, hcontent⟩ := exists_textField_iff.mpr content
      refine ⟨.inlineText key content, ?_⟩
      simp only [File.ofJson, File.ofMembers, type, hkey, hcontent, ok_bind]
      rfl

theorem exists_file_iff : (∃ file, File.ofJson value = .ok file) ↔ IsFile value :=
  ⟨fun ⟨file, h⟩ => file.isFile_of_ofJson h, exists_file_of_isFile⟩

/-! ### Descriptions -/

theorem exists_format_iff :
    (∃ format, TextFormat.ofJson value = .ok format) ↔
      IsOneOf ["markdown", "plaintext", "html"] value := by
  constructor
  · rintro ⟨format, h⟩
    cases value with
    | string text =>
        refine ⟨text, ?_, rfl⟩
        by_contra hunknown
        have hnone : TextFormat.named.lookup text = none := by
          rw [List.lookup_eq_none_iff]
          rintro ⟨name, format⟩ hentry
          have hname : name ∈ ["markdown", "plaintext", "html"] :=
            List.mem_map_of_mem (f := Prod.fst) hentry
          have hne : text ≠ name := fun hsame => hunknown (hsame ▸ hname)
          simpa using hne
        simp only [TextFormat.ofJson, hnone] at h
        cases h
    | _ => cases h
  · rintro ⟨text, htext, rfl⟩
    simp only [List.mem_cons, List.not_mem_nil, or_false] at htext
    rcases htext with rfl | rfl | rfl
    · exact ⟨.markdown, rfl⟩
    · exact ⟨.plaintext, rfl⟩
    · exact ⟨.html, rfl⟩

theorem exists_description_iff :
    (∃ description, FormattedText.ofJson value = .ok description) ↔ IsDescription value := by
  have hnull : ¬IsOneOf ["markdown", "plaintext", "html"] .null := by
    rintro ⟨_, _, h⟩
    cases h
  constructor
  · rintro ⟨description, h⟩
    cases value with
    | object members =>
        simp only [FormattedText.ofJson, bind_eq_ok_iff] at h
        obtain ⟨format, hformat, text, htext, -⟩ := h
        exact ⟨members, rfl, (has_iff_getD hnull).mpr (exists_format_iff.mp ⟨format, hformat⟩),
          exists_textField_iff.mp ⟨text, htext⟩⟩
    | _ => cases h
  · rintro ⟨members, rfl, hformat, htext⟩
    obtain ⟨format, hformat⟩ := exists_format_iff.mpr ((has_iff_getD hnull).mp hformat)
    obtain ⟨text, htext⟩ := exists_textField_iff.mpr htext
    refine ⟨⟨format, text⟩, ?_⟩
    simp only [FormattedText.ofJson, hformat, htext, ok_bind]
    rfl

/-! ### Items -/

theorem exists_tags_iff :
    (∃ values, arrayField members "tags" = .ok values ∧
        ∃ tags, values.mapM Tag.ofJson = .ok tags) ↔
      MayHave members "tags" (IsArrayOf IsTag) := by
  rw [← exists_arrayField_iff]
  simp only [exists_mapM_iff, exists_tag_iff]

theorem exists_files_iff :
    (∃ values, arrayField members "files" = .ok values ∧
        ∃ files, File.allOfJson values = .ok files) ↔
      MayHave members "files" (IsArrayOf IsFile) := by
  rw [← exists_arrayField_iff]
  simp only [File.allOfJson_eq_mapM, exists_mapM_iff, exists_file_iff]

theorem exists_itemMembers_iff {site : String} :
    (∃ item, Item.ofMembers site members = .ok item) ↔ IsItemMembers members := by
  have hnull : ¬IsDescription .null := by
    rintro ⟨_, h, _⟩
    cases h
  constructor
  · rintro ⟨item, h⟩
    simp only [Item.ofMembers, bind_eq_ok_iff] at h
    obtain ⟨key, hkey, title, htitle, url, hurl, description, hdescription, published, hpublished,
      firstSeen, hfirstSeen, lastSeen, hlastSeen, tagValues, htagValues, tags, htags,
      fileValues, hfileValues, files, hfiles, -⟩ := h
    exact {
      key := exists_textField_iff.mp ⟨key, hkey⟩
      title := exists_textField_iff.mp ⟨title, htitle⟩
      url := exists_textField_iff.mp ⟨url, hurl⟩
      description :=
        (has_iff_getD hnull).mpr (exists_description_iff.mp ⟨description, hdescription⟩)
      published := exists_intField_iff.mp ⟨published, hpublished⟩
      firstSeen := exists_intFieldOr0_iff.mp ⟨firstSeen, hfirstSeen⟩
      lastSeen := exists_intFieldOr0_iff.mp ⟨lastSeen, hlastSeen⟩
      tags := exists_tags_iff.mp ⟨tagValues, htagValues, tags, htags⟩
      files := exists_files_iff.mp ⟨fileValues, hfileValues, files, hfiles⟩ }
  · intro h
    obtain ⟨key, hkey⟩ := exists_textField_iff.mpr h.key
    obtain ⟨title, htitle⟩ := exists_textField_iff.mpr h.title
    obtain ⟨url, hurl⟩ := exists_textField_iff.mpr h.url
    obtain ⟨description, hdescription⟩ :=
      exists_description_iff.mpr ((has_iff_getD hnull).mp h.description)
    obtain ⟨published, hpublished⟩ := exists_intField_iff.mpr h.published
    obtain ⟨firstSeen, hfirstSeen⟩ := exists_intFieldOr0_iff.mpr h.firstSeen
    obtain ⟨lastSeen, hlastSeen⟩ := exists_intFieldOr0_iff.mpr h.lastSeen
    obtain ⟨tagValues, htagValues, tags, htags⟩ := exists_tags_iff.mpr h.tags
    obtain ⟨fileValues, hfileValues, files, hfiles⟩ := exists_files_iff.mpr h.files
    simp only [Item.ofMembers, hkey, htitle, hurl, hdescription, hpublished, hfirstSeen, hlastSeen,
      htagValues, htags, hfileValues, hfiles, ok_bind]
    exact ⟨_, rfl⟩

/-- An item is refused for a fault that is reported with its key, if it has one. -/
theorem Item.key?_of_ofJson {site : String} {e : FormatError} (h : Item.ofJson site data = .error e)
    (key : String) : e.key? = some key ↔ data.member? "key" = some (.string key) := by
  cases data with
  | object members =>
      obtain ⟨fault, -, rfl⟩ := mapError_eq_error_iff.mp h
      show reportedKey? members = some key ↔ members.lookup "key" = some (.string key)
      rw [reportedKey?]
      split
      · next found hfound => simp [hfound]
      · next hnone => exact iff_of_false nofun (hnone key)
  | _ =>
      obtain rfl := Except.error.inj h
      exact iff_of_false nofun nofun

/--
**What is read as an item is what the schema says.**  A value is read exactly if it is an item by
the schema, with the files in containers at any depth.  In every other case it is refused, as
malformed, and the error tells the item's key if it has one.
-/
theorem Item.read_iff_schema (site : String) (data : Value) :
    ((∃ item, Item.ofJson site data = .ok item) ↔ IsItem data) ∧
    ((∃ e, Item.ofJson site data = .error e ∧
        ∀ key, e.key? = some key ↔ data.member? "key" = some (.string key)) ↔ ¬IsItem data) := by
  have hread : (∃ item, Item.ofJson site data = .ok item) ↔ IsItem data := by
    constructor
    · rintro ⟨item, h⟩
      cases data with
      | object members =>
          exact ⟨members, rfl, exists_itemMembers_iff.mp ⟨item, mapError_eq_ok_iff.mp h⟩⟩
      | _ => exact nomatch h
    · rintro ⟨members, rfl, h⟩
      obtain ⟨item, hitem⟩ := exists_itemMembers_iff.mpr h
      exact ⟨item, mapError_eq_ok_iff.mpr hitem⟩
  refine ⟨hread, ?_⟩
  rw [← hread]
  cases h : Item.ofJson site data with
  | ok item => simp
  | error e => simpa using Item.key?_of_ofJson h

/-- A post with a text in an archive that is in an archive. -/
def postWithText (content : Value) : Value :=
  .object [("key", .string "42"), ("title", .string "Lake"),
    ("url", .string "https://example.com/42"),
    ("description", .object [("format", .string "plaintext"), ("value", .string "")]),
    ("sourcePublished", .int 1577836800000), ("lastSeen", .int 0),
    ("tags", .array [.string "water",
      .object [("value", .string "dry"), ("group", .string "weather")]]),
    ("files", .array [archive "a" [archive "b" [.object [("type", .string "InlineTextFile"),
      ("key", .string "c"), ("content", content)]]]])]
where
  /-- An archive that says nothing about being downloaded. -/
  archive (key : String) (nested : List Value) : Value :=
    .object [("type", .string "IntermediateFile"), ("key", .string key),
      ("filename", .string (key ++ ".zip")), ("url", .string ""), ("nested", .array nested)]

/-- Such a post is an item; with a number for the text it is none, however deep that is. -/
theorem Item.read_iff_schema_of_post :
    IsItem (postWithText (.string "The lake is dry.")) ∧ ¬IsItem (postWithText (.int 5)) := by
  refine ⟨(Item.read_iff_schema "" _).1.mp ⟨_, rfl⟩, (Item.read_iff_schema "" _).2.mp ⟨_, rfl, ?_⟩⟩
  intro key
  simp [postWithText, Json.Value.member?, reportedKey?]

end MediaSearch
