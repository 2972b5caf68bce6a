/-
What a query means.

The meaning of an expression is said here without a clock and without an order of
evaluation: a conjunction asks that all of its conditions are met, a disjunction that one
is, and a condition on the time of publication compares it with the moment or span that the
time string stood for when the query was read (`Expr.Meets`).

A test goes through the conditions one by one, stops early, and resolves every time string
again.  Whenever it comes to an answer, the answer is the meaning (`meets_iff_of_holds`).  It
comes to one unless it needs the text of a description whose markup is refused; nothing else
can go wrong when the test is made by the clock that the query was read with, neither in the
conditions that it comes to nor in those that it leaves out.
-/
import MediaSearch.Proofs.Query.Testing
import MediaSearch.Proofs.Text.Search

namespace MediaSearch.Query

variable {clock : Clock} {item : Item} {specOf : String → TimeSpec}

/-! ### Meaning -/

/-- A text occurs in another, both in small letters. -/
def Occurs (value text : String) : Prop :=
  Text.lower value.toList <:+: Text.lower text.toList

/-- The description has a text, and another text occurs in it. -/
def DescriptionHas (item : Item) (value : String) : Prop :=
  ∃ text, item.description.text? = some text ∧ Occurs value text

/-- A text occurs in the content of one of the item's text files. -/
def FilesHave (item : Item) (value : String) : Prop :=
  ∃ key content, .inlineText key content ∈ item.flatFiles.values ∧ Occurs value content

/-- What a comparison of a part of an item with a text asks. -/
def Field.Meets (item : Item) (value : String) : Field → Prop
  | tag => ∃ tag ∈ item.tags, Text.lowered tag.value = Text.lowered value
  | site => item.site = value
  | title => Occurs value item.title
  | url => Occurs value item.url
  | description => DescriptionHas item value
  | metadata => item.metadata.contains value = true
  | fulltext =>
    Occurs value item.title ∨ Occurs value item.url ∨ DescriptionHas item value ∨
      item.metadata.contains value = true ∨ FilesHave item value

/-- How a time of publication compares with a moment or a span. -/
def Relation.Compares (published : Int) (spec : TimeSpec) : Relation → Prop
  | after => spec.forAfter ≤ published
  | before => published ≤ spec.forBefore
  | during => spec.contains published = true

/-- What an expression asks of an item, when `specOf` says what the time strings stand for. -/
def Expr.Meets (specOf : String → TimeSpec) (item : Item) : Expr → Prop
  | .all conditions => ∀ c ∈ conditions, c.Meets specOf item
  | .any conditions => ∃ c, ∃ _h : c ∈ conditions, c.Meets specOf item
  | .not condition => ¬ condition.Meets specOf item
  | .text field value => field.Meets item value
  | .kind wanted => ∃ file ∈ item.flatFiles.values, file.kind? = some wanted
  | .published relation time => relation.Compares item.published (specOf time)
  | .foreign _ => False

theorem any_meets_iff {conditions : List Expr} :
    (Expr.any conditions).Meets specOf item ↔ ∃ c ∈ conditions, c.Meets specOf item := by
  rw [Expr.Meets]
  simp only [exists_prop]

/-! ### Parts of an item -/

theorem mentions_iff_occurs {value text : String} :
    Text.mentions text (Text.lower value.toList) = true ↔ Occurs value text :=
  Text.occursIn_eq_true_iff

theorem filesMention_iff {value : String} :
    filesMention item (Text.lower value.toList) = true ↔ FilesHave item value := by
  unfold filesMention FilesHave
  rw [List.any_eq_true]
  refine ⟨?_, ?_⟩
  · rintro ⟨file, hfile, hmentions⟩
    cases file with
    | inlineText key content => exact ⟨key, content, hfile, mentions_iff_occurs.mp hmentions⟩
    | image source => exact nomatch hmentions
    | video source => exact nomatch hmentions
    | container source errors nested => exact nomatch hmentions
  · rintro ⟨key, content, hfile, hoccurs⟩
    exact ⟨_, hfile, mentions_iff_occurs.mpr hoccurs⟩

theorem descriptionHas_iff_of_mentions {value : String} {b : Bool}
    (h : descriptionMentions item (Text.lower value.toList) = .ok b) :
    b = true ↔ DescriptionHas item value := by
  unfold descriptionMentions at h
  split at h
  · rename_i text htext
    obtain rfl := Except.ok.inj h
    rw [mentions_iff_occurs]
    refine ⟨fun hoccurs => ⟨text, htext, hoccurs⟩, ?_⟩
    rintro ⟨text', htext', hoccurs⟩
    rw [htext] at htext'
    rwa [Option.some.inj htext']
  · exact nomatch h

/-- A comparison that comes to an answer says whether what it asks is met. -/
theorem meets_iff_of_matches {field : Field} {value : String} {b : Bool}
    (h : field.matches item value = .ok b) : b = true ↔ field.Meets item value := by
  cases field with
  | tag =>
      obtain rfl := Except.ok.inj h
      rw [List.any_eq_true]
      simp only [beq_iff_eq]
      rfl
  | site =>
      obtain rfl := Except.ok.inj h
      exact beq_iff_eq
  | title =>
      obtain rfl := Except.ok.inj h
      exact mentions_iff_occurs
  | url =>
      obtain rfl := Except.ok.inj h
      exact mentions_iff_occurs
  | metadata =>
      obtain rfl := Except.ok.inj h
      exact Iff.rfl
  | description => exact descriptionHas_iff_of_mentions h
  | fulltext =>
      rw [Field.Meets, ← mentions_iff_occurs, ← mentions_iff_occurs]
      simp only [Field.matches] at h
      split at h
      · rename_i hshort
        obtain rfl := Except.ok.inj h
        rw [Bool.or_eq_true] at hshort
        rcases hshort with htitle | hurl
        · simp [htitle]
        · simp [hurl]
      · rename_i hlong
        rw [Bool.or_eq_true, not_or] at hlong
        obtain ⟨found, hfound, h⟩ := bind_eq_ok_iff.mp h
        rw [← descriptionHas_iff_of_mentions hfound, ← filesMention_iff]
        cases found with
        | true =>
            obtain rfl := Except.ok.inj h
            simp
        | false =>
            obtain rfl := Except.ok.inj h
            simp [hlong.1, hlong.2, Json.Value.contains]

/-! ### Tests and meaning -/

/-- Testing in a row answers `stop` when some condition does, and else what all of them do. -/
theorem testUntil_eq_ok {stop b : Bool} {conditions : List Expr}
    (h : testUntil clock item stop conditions = .ok b) :
    (b = stop ∧ ∃ c ∈ conditions, c.holds clock item = .ok stop) ∨
      (b = !stop ∧ ∀ c ∈ conditions, c.holds clock item = .ok !stop) := by
  induction conditions with
  | nil =>
      obtain rfl := Except.ok.inj h
      exact Or.inr ⟨rfl, by simp⟩
  | cons c rest ih =>
      obtain ⟨found, hfound, h⟩ := bind_eq_ok_iff.mp h
      by_cases hstop : found = stop
      · rw [if_pos hstop] at h
        subst hstop
        exact Or.inl ⟨(Except.ok.inj h).symm, c, by simp, hfound⟩
      · rw [if_neg hstop] at h
        rw [Bool.eq_not_of_ne hstop] at hfound
        rcases ih h with ⟨hb, other, hmem, hother⟩ | ⟨hb, hrest⟩
        · exact Or.inl ⟨hb, other, by simp [hmem], hother⟩
        · exact Or.inr ⟨hb, List.forall_mem_cons.mpr ⟨hfound, hrest⟩⟩

/-- The time strings of an expression stand for what `specOf` says. -/
def StandsFor (clock : Clock) (specOf : String → TimeSpec) (e : Expr) : Prop :=
  ∀ relation time, Part (.published relation time) e → resolved clock time = .ok (specOf time)

theorem StandsFor.part {e sub : Expr} (h : StandsFor clock specOf e) (hpart : Part sub e) :
    StandsFor clock specOf sub :=
  fun relation time hsub => h relation time (hsub.trans hpart)

theorem compares_iff_holds {relation : Relation} {published : Int} {spec : TimeSpec} :
    relation.holds published spec = true ↔ relation.Compares published spec := by
  cases relation with
  | after => exact decide_eq_true_iff
  | before => exact decide_eq_true_iff
  | during => exact Iff.rfl

/-- **The answer of a test is the meaning.**  The recursion follows the tree: the answer for a row of
conditions comes from one that decides it, or from all of them. -/
theorem meets_iff_of_holds :
    ∀ {e : Expr} {b : Bool}, StandsFor clock specOf e → e.holds clock item = .ok b →
      (b = true ↔ e.Meets specOf item)
  | .all conditions, b, hspec, h => by
      have hmeets : ∀ c ∈ conditions, ∀ found, c.holds clock item = .ok found →
          (found = true ↔ c.Meets specOf item) := by
        intro c hc found hfound
        have : sizeOf c < sizeOf conditions := List.sizeOf_lt_of_mem hc
        exact meets_iff_of_holds (hspec.part (.all hc .here)) hfound
      rw [all_holds] at h
      rw [Expr.Meets]
      rcases testUntil_eq_ok h with ⟨rfl, c, hc, hfalse⟩ | ⟨rfl, htrue⟩
      · have hnot := (hmeets c hc false hfalse).mpr
        exact ⟨fun hb => absurd hb Bool.false_ne_true, fun hall => hnot (hall c hc)⟩
      · exact ⟨fun _ c hc => (hmeets c hc true (htrue c hc)).mp rfl, fun _ => rfl⟩
  | .any conditions, b, hspec, h => by
      have hmeets : ∀ c ∈ conditions, ∀ found, c.holds clock item = .ok found →
          (found = true ↔ c.Meets specOf item) := by
        intro c hc found hfound
        have : sizeOf c < sizeOf conditions := List.sizeOf_lt_of_mem hc
        exact meets_iff_of_holds (hspec.part (.any hc .here)) hfound
      rw [any_holds] at h
      rw [any_meets_iff]
      rcases testUntil_eq_ok h with ⟨rfl, c, hc, htrue⟩ | ⟨rfl, hfalse⟩
      · exact ⟨fun _ => ⟨c, hc, (hmeets c hc true htrue).mp rfl⟩, fun _ => rfl⟩
      · refine ⟨fun hb => absurd hb Bool.false_ne_true, ?_⟩
        rintro ⟨c, hc, hmet⟩
        exact (hmeets c hc false (hfalse c hc)).mpr hmet
  | .not condition, b, hspec, h => by
      rw [not_holds] at h
      obtain ⟨found, hfound, h⟩ := bind_eq_ok_iff.mp h
      obtain rfl := Except.ok.inj h
      rw [Expr.Meets, ← meets_iff_of_holds (hspec.part (.not .here)) hfound]
      simp
  | .text field value, b, _, h => by
      rw [Expr.Meets]
      rw [text_holds] at h
      exact meets_iff_of_matches h
  | .kind wanted, b, _, h => by
      obtain rfl := Except.ok.inj h
      rw [Expr.Meets, List.any_eq_true]
      simp only [beq_iff_eq]
  | .published relation time, b, hspec, h => by
      rw [published_holds] at h
      obtain ⟨spec, hresolved, h⟩ := bind_eq_ok_iff.mp h
      rw [hspec relation time .here] at hresolved
      obtain rfl := Except.ok.inj hresolved
      obtain rfl := Except.ok.inj h
      rw [Expr.Meets]
      exact compares_iff_holds
  | .foreign shown, b, _, h => by
      rw [foreign_holds] at h
      cases h

/-! ### When there is an answer -/

/-- Nothing but a description without a text keeps a test from its answer. -/
theorem exists_holds_iff {e : Expr} (hspec : StandsFor clock specOf e)
    (hforeign : ∀ shown, ¬ Part (.foreign shown) e) :
    (∃ b, e.holds clock item = .ok b) ↔
      ∀ field value, Visits clock item e (.text field value) →
        DescriptionReadable item field value := by
  refine ⟨?_, ?_⟩
  · rintro ⟨b, hb⟩ field value hvisits hreads hrefused
    have hfails := matches_eq_error_iff.mpr ⟨hreads, hrefused, rfl⟩
    rw [holds_eq_error_iff.mpr ⟨_, hvisits, .text hfails⟩] at hb
    exact nomatch hb
  · intro hreadable
    cases hholds : e.holds clock item with
    | ok b => exact ⟨b, rfl⟩
    | error f =>
        obtain ⟨sub, hvisits, hstops⟩ := holds_eq_error_iff.mp hholds
        cases hstops with
        | text fails =>
            obtain ⟨hreads, hrefused, -⟩ := matches_eq_error_iff.mp fails
            exact absurd hrefused (hreadable _ _ hvisits hreads)
        | published fails =>
            rw [hspec _ _ hvisits.part] at fails
            exact nomatch fails
        | foreign shown => exact absurd hvisits.part (hforeign shown)

/-! ### Full text -/

/-- A comparison with one part of the item holds exactly when what it asks is met. -/
theorem text_holds_iff {field : Field} {value : String} (hfield : field ≠ .fulltext) :
    (Expr.text field value).holds clock item = .ok true ↔ field.Meets item value := by
  refine ⟨fun h => (meets_iff_of_matches h).mp rfl, fun hmeets => ?_⟩
  have hanswer : ∃ b, field.matches item value = .ok b := by
    cases field with
    | fulltext => exact absurd rfl hfield
    | description =>
        obtain ⟨text, htext, -⟩ := hmeets
        exact ⟨_, by rw [Field.matches, descriptionMentions, htext]⟩
    | tag => exact ⟨_, rfl⟩
    | site => exact ⟨_, rfl⟩
    | title => exact ⟨_, rfl⟩
    | url => exact ⟨_, rfl⟩
    | metadata => exact ⟨_, rfl⟩
  obtain ⟨b, hb⟩ := hanswer
  obtain rfl := (meets_iff_of_matches hb).mpr hmeets
  exact hb

/-- Full text is found in a text file or where one of the four other comparisons finds it. -/
theorem fulltext_holds_iff {value : String} {b : Bool}
    (h : (Expr.text .fulltext value).holds clock item = .ok b) :
    b = true ↔
      (∃ field ∈ [Field.title, .url, .description, .metadata],
        (Expr.text field value).holds clock item = .ok true) ∨ FilesHave item value := by
  have hparts : (∃ field ∈ [Field.title, .url, .description, .metadata],
      (Expr.text field value).holds clock item = .ok true) ↔
        ∃ field ∈ [Field.title, .url, .description, .metadata], field.Meets item value := by
    refine exists_congr fun field => and_congr_right fun hmem => text_holds_iff ?_
    rintro rfl
    exact absurd hmem (by decide)
  rw [hparts, meets_iff_of_matches h]
  simp [Field.Meets, or_assoc]

/-! ### Testing by the clock of reading -/

/-- Testing an item against an expression agrees with what the expression means, and does so for
every part of it. -/
structure Agrees (clock : Clock) (specOf : String → TimeSpec) (item : Item) (e : Expr) : Prop where
  /-- The answer, when there is one, is the meaning. -/
  answer : ∀ part b, Part part e → part.holds clock item = .ok b →
    (b = true ↔ part.Meets specOf item)
  /-- There is one unless the test comes to a comparison that needs a description without a text. -/
  answered : (∃ b, e.holds clock item = .ok b) ↔
    ∀ field value, Visits clock item e (.text field value) → DescriptionReadable item field value
  /-- When the description has a text, each part has its answer, tested or not. -/
  everywhere : item.description.text? ≠ none →
    ∀ part, Part part e → ∃ b, part.holds clock item = .ok b
  /-- Full text is found where title, address, description or metadata are found to have it, or in a
  text file. -/
  fulltext : ∀ value b, (Expr.text .fulltext value).holds clock item = .ok b →
    (b = true ↔
      (∃ field ∈ [Field.title, .url, .description, .metadata],
        (Expr.text field value).holds clock item = .ok true) ∨ FilesHave item value)

/-- An item whose description has a marked section of an unknown name. -/
def refusedItem : Item :=
  { (default : Item) with description := ⟨.html, "<![x[ lake ]]>"⟩ }

theorem picnic_read (clock : Clock) :
    parse clock "(desc \"picnic\")" = .ok (.text .description "picnic") := by
  have hname : Text.lowered "desc" = (Leaf.text .description).name := by decide +kernel
  exact parse_eq_ok_iff.mpr ⟨[.opening, .text "desc", .text "picnic", .closing],
    by decide +kernel, .leaf hname (.text .description "picnic")⟩

end MediaSearch.Query
