/-
Readers that do not tell capitals from small letters.

Most of what a reader asks of a character is the same of an ASCII capital and of its small letter:
whether it is a digit, a letter or a blank, and whether it is a certain mark (`IgnoresCase`).  A
reader that asks nothing else takes the same from a text and from the text in small letters, and
leaves the same rest, in small letters.  Digits are no letters, so a number is the same number.

The small letters of Unicode are the same, too, although a capital sigma looks at its neighbours: a
capital and its small letter are letters with case both (`lower_map_toLower`).
-/
import MediaSearch.Proofs.Text.LowerAscii
import MediaSearch.Proofs.Text.Readers

namespace MediaSearch.Text

variable {α β : Type} {test : Char → Bool}

/-- What is asked of a character is the same of an ASCII capital and of its small letter. -/
def IgnoresCase (f : Char → α) : Prop :=
  ∀ c : Char, f c.toLower = f c

/-- That has to be looked at for the characters of ASCII only: no other one has a small letter. -/
theorem ignoresCase_of_ascii {f : Char → α}
    (h : ∀ n : Fin 128, f (Char.ofNat n).toLower = f (Char.ofNat n)) : IgnoresCase f := by
  intro c
  cases hc : c.isAlpha with
  | false => rw [toLower_of_not_isAlpha hc]
  | true =>
      have hascii := h ⟨c.toNat, isAscii_of_isAlpha hc⟩
      rwa [Char.ofNat_toNat] at hascii

theorem ignoresCase_isDigit : IgnoresCase Char.isDigit :=
  ignoresCase_of_ascii (by decide)

theorem ignoresCase_isAlpha : IgnoresCase Char.isAlpha :=
  ignoresCase_of_ascii (by decide)

theorem ignoresCase_isPlainBlank : IgnoresCase isPlainBlank :=
  ignoresCase_of_ascii (by decide)

/-- A small letter is its own. -/
theorem ignoresCase_toLower : IgnoresCase Char.toLower :=
  ignoresCase_of_ascii (by decide)

theorem map_toLower_map_toLower (text : List Char) :
    (text.map Char.toLower).map Char.toLower = text.map Char.toLower := by
  rw [List.map_map]
  exact List.map_congr_left fun c _ => ignoresCase_toLower c

/-! ### Unicode -/

theorem startsCased_map_toLower (text : List Char) :
    startsCased (text.map Char.toLower) = startsCased text := by
  have hignorable : IgnoresCase isCaseIgnorable := ignoresCase_of_ascii (by decide +kernel)
  have hcased : IgnoresCase isCased := ignoresCase_of_ascii (by decide +kernel)
  induction text with
  | nil => rfl
  | cons c rest ih => rw [List.map_cons, startsCased, startsCased, hignorable c, hcased c, ih]

/-- A text and the text with small letters of ASCII become the same in small letters. -/
theorem lower_map_toLower (text : List Char) : lower (text.map Char.toLower) = lower text := by
  have hignorable : IgnoresCase isCaseIgnorable := ignoresCase_of_ascii (by decide +kernel)
  have hcased : IgnoresCase isCased := ignoresCase_of_ascii (by decide +kernel)
  have hchar : IgnoresCase lowerChar := ignoresCase_of_ascii (by decide +kernel)
  have hsigma : IgnoresCase (· == 'Σ') := ignoresCase_of_ascii (by decide +kernel)
  have hafter : ∀ (text : List Char) (afterCased : Bool),
      lowerAfter afterCased (text.map Char.toLower) = lowerAfter afterCased text := by
    intro text
    induction text with
    | nil => exact fun _ => rfl
    | cons c rest ih =>
        intro afterCased
        rw [List.map_cons, lowerAfter, lowerAfter, startsCased_map_toLower, hchar c, hcased c,
          hignorable c, ih]
        simp only [hsigma c]
  exact hafter text false

/-! ### Runs -/

theorem takeWhile_map_toLower (h : IgnoresCase test) (text : List Char) :
    (text.map Char.toLower).takeWhile test = (text.takeWhile test).map Char.toLower := by
  have htest : test ∘ Char.toLower = test := funext h
  rw [List.takeWhile_map, htest]

theorem dropWhile_map_toLower (h : IgnoresCase test) (text : List Char) :
    (text.map Char.toLower).dropWhile test = (text.dropWhile test).map Char.toLower := by
  have htest : test ∘ Char.toLower = test := funext h
  rw [List.dropWhile_map, htest]

/-- A run of digits has no capitals. -/
theorem takeWhile_isDigit_map_toLower (text : List Char) :
    (text.map Char.toLower).takeWhile Char.isDigit = text.takeWhile Char.isDigit := by
  rw [takeWhile_map_toLower ignoresCase_isDigit]
  exact map_toLower_eq_self fun c hc =>
    toLower_of_not_isAlpha (isAlpha_of_isDigit (List.mem_takeWhile_imp hc))

/-! ### Readers -/

/-- What a reader takes, and the rest in small letters. -/
def restToLower (taken : α × List Char) : α × List Char :=
  (taken.1, taken.2.map Char.toLower)

theorem number?_map_toLower (least most : Nat) (text : List Char) :
    number? least most (text.map Char.toLower) = (number? least most text).map restToLower := by
  unfold number? digitRun?
  dsimp only
  rw [takeWhile_isDigit_map_toLower, dropWhile_map_toLower ignoresCase_isDigit]
  split <;> rfl

theorem oneOf?_map_toLower (h : IgnoresCase test) (text : List Char) :
    oneOf? test (text.map Char.toLower)
      = (oneOf? test text).map fun (c, rest) => (c.toLower, rest.map Char.toLower) := by
  cases text with
  | nil => rfl
  | cons c rest =>
      rw [List.map_cons, oneOf?, oneOf?, h c]
      split <;> rfl

theorem char?_map_toLower {expected : Char} (h : IgnoresCase (· == expected)) (text : List Char) :
    char? expected (text.map Char.toLower)
      = (char? expected text).map (List.map Char.toLower) := by
  rw [char?, char?, oneOf?_map_toLower h, Option.map_map, Option.map_map]
  rfl

theorem blanks?_map_toLower (h : IgnoresCase test) (text : List Char) :
    blanks? test (text.map Char.toLower) = (blanks? test text).map (List.map Char.toLower) := by
  cases text with
  | nil => rfl
  | cons c rest =>
      rw [List.map_cons, blanks?, blanks?, h c, dropWhile_map_toLower h]
      split <;> rfl

theorem done?_map_toLower (text : List Char) : done? (text.map Char.toLower) = done? text := by
  cases text <;> rfl

/-- A step of a chain of readers that has the same result up to small letters leads to the same end
if what comes behind it does. -/
theorem bind_eq_of_map {x y : Option α} {small : α → α} {k k' : α → Option β}
    (hstep : x = y.map small) (hbehind : ∀ a, k (small a) = k' a) : (x >>= k) = (y >>= k') := by
  rw [hstep, Option.bind_eq_bind, Option.bind_map]
  exact congrArg y.bind (funext hbehind)

/-- A reader of texts without letters reads the same in small letters: what changes has a letter, and
keeps it. -/
theorem read_map_toLower_of_letterless {read : List Char → Option α}
    (h : ∀ {text a}, read text = some a → ∀ c ∈ text, c.isAlpha = false) (text : List Char) :
    read (text.map Char.toLower) = read text := by
  by_cases hletter : ∃ c ∈ text, c.isAlpha = true
  · obtain ⟨c, hc, halpha⟩ := hletter
    have hunread : ∀ {text c}, c ∈ text → c.isAlpha = true → read text = none := by
      intro text c hc halpha
      by_contra hsome
      obtain ⟨a, ha⟩ := Option.ne_none_iff_exists'.mp hsome
      exact absurd ((h ha c hc).symm.trans halpha) Bool.false_ne_true
    rw [hunread hc halpha, hunread (List.mem_map_of_mem hc) (isAlpha_toLower halpha)]
  · rw [map_toLower_eq_self fun c hc => toLower_of_not_isAlpha ?_]
    exact Bool.eq_false_iff.mpr fun halpha => hletter ⟨c, hc, halpha⟩

end MediaSearch.Text
