/-
This file fixes how locators may be written and proves that they are read and taken for selectors
in just this grammar.

A written locator is a kind and a literal between parentheses, with blanks in three places and,
where it stands alone, around it. Reading it takes nothing for granted: whatever is read was
written in the grammar, and whatever is written in the grammar is read, whatever follows. So a text
is changed into a selector only if it is a locator of a known kind, and then the selector is made
of its decoded value.
-/

import BrowserPlan.Action.Locator
import BrowserPlan.Proofs.Java.Method

namespace BrowserPlan

open Java (Gap)

/-! ### Signs between blanks -/

/-- No blanks. -/
def Java.Gap.none : Gap :=
  ⟨[], List.all_nil⟩

/-- A sign that is read behind blanks stands behind blanks. -/
theorem exists_of_sign {sign text rest : Text}
    (read : Text.after? sign (Text.dropBlanks text) = some rest) :
    ∃ before : Gap, text = before.text ++ (sign ++ rest) := by
  obtain ⟨before, blank, written⟩ := Text.exists_append_dropBlanks text
  rw [Text.after?_eq_some_iff.mp read] at written
  exact ⟨⟨before, blank⟩, written⟩

/-- A sign that is read with blanks around it is written with two gaps. -/
theorem exists_of_spacedSign {sign text rest : Text}
    (read : (Text.after? sign (Text.dropBlanks text)).map Text.dropBlanks = some rest) :
    ∃ before behind : Gap, text = before.text ++ (sign ++ (behind.text ++ rest)) := by
  obtain ⟨opened, found, rfl⟩ := Option.map_eq_some_iff.mp read
  obtain ⟨before, written⟩ := exists_of_sign found
  obtain ⟨behind, blank, inside⟩ := Text.exists_append_dropBlanks opened
  exact ⟨before, ⟨behind, blank⟩, by rw [← inside, written]⟩

/-! ### How locators are written -/

/-- The blanks inside of a written locator. -/
structure Spacing where
  beforeOpening : Gap
  behindOpening : Gap
  beforeClosing : Gap

/-- A locator without blanks. -/
def Spacing.none : Spacing :=
  ⟨.none, .none, .none⟩

namespace Locator

/-- Whether a locator can be written: its kind is a word, and its contents stand in a literal. -/
structure WellFormed (locator : Locator) : Prop where
  notEmpty : locator.word ≠ []
  isWord : ∀ char ∈ locator.word, Text.isWord char = true
  isContents : Java.IsContents locator.contents

/-- A locator as it is written with the given blanks. -/
def text (locator : Locator) (spacing : Spacing) : Text :=
  "By." ++ (locator.word ++ (spacing.beforeOpening.text ++ ("(" ++ (spacing.behindOpening.text ++
    (Java.quoted locator.contents ++ (spacing.beforeClosing.text ++ ")"))))))

theorem text_append (locator : Locator) (spacing : Spacing) (rest : Text) :
    locator.text spacing ++ rest =
      "By." ++ (locator.word ++ (spacing.beforeOpening.text ++ ("(" ++
        (spacing.behindOpening.text ++
          (Java.quoted locator.contents ++ (spacing.beforeClosing.text ++ (")" ++ rest))))))) := by
  unfold text
  simp only [List.append_assoc]

/-! ### Nothing that is written is a comment -/

theorem uncommented_gap (gap : Gap) : Java.Uncommented gap.text :=
  Java.uncommented_code gap.bare

/-- Before a closing parenthesis and the blanks there is no quote. -/
theorem head?_gap_ne_quote (gap : Gap) :
    (gap.text ++ ")").head?.any (· != '"') = true := by
  rcases gap.cases with none | ⟨char, more, equal, isBlank, _⟩
  · rw [none]
    rfl
  · rw [equal]
    refine bne_iff_ne.mpr ?_
    rintro rfl
    exact absurd isBlank (by decide)

/-- In a written locator with an escaped value there is no comment. -/
theorem uncommented_text {word : Text} (isWord : ∀ char ∈ word, Text.isWord char = true)
    (value : Text) (spacing : Spacing) :
    Java.Uncommented (text ⟨word, Java.escape value⟩ spacing) := by
  have bare : Java.Uncommented word := Java.uncommented_code <|
    List.all_eq_true.mpr fun _ member => Java.isBare_of_isWord (isWord _ member)
  have opening : Java.Uncommented "By." := Java.uncommented_code rfl
  have parenthesis : Java.Uncommented "(" := Java.uncommented_code rfl
  have closing : Java.Uncommented (spacing.beforeClosing.text ++ ")") :=
    (uncommented_gap _).append (Java.uncommented_code rfl)
  have literal := closing.literal_append (head?_gap_ne_quote spacing.beforeClosing) value
  exact opening.append (bare.append ((uncommented_gap _).append
    (parenthesis.append ((uncommented_gap _).append literal))))

/-! ### Parentheses -/

theorem readOpening_append (before behind : Gap) {rest : Text}
    (solid : Text.dropBlanks rest = rest) :
    readOpening (before.text ++ ("(" ++ (behind.text ++ rest))) = some rest := by
  rw [readOpening, Text.dropBlanks_append before.blank]
  show (some (Text.dropBlanks (behind.text ++ rest))) = _
  rw [Text.dropBlanks_append behind.blank, solid]

theorem readClosing_append (before : Gap) (rest : Text) :
    readClosing (before.text ++ (")" ++ rest)) = some rest := by
  rw [readClosing, Text.dropBlanks_append before.blank]
  rfl

theorem exists_of_readOpening {text rest : Text} (read : readOpening text = some rest) :
    ∃ before behind : Gap, text = before.text ++ ("(" ++ (behind.text ++ rest)) :=
  exists_of_spacedSign read

theorem exists_of_readClosing {text rest : Text} (read : readClosing text = some rest) :
    ∃ before : Gap, text = before.text ++ (")" ++ rest) :=
  exists_of_sign read

/-! ### Reading -/

/-- A word does not run on into blanks or a parenthesis. -/
theorem atWordEnd_gap (gap : Gap) (rest : Text) :
    Text.atWordEnd (gap.text ++ ("(" ++ rest)) = true := by
  rcases gap.cases with none | ⟨char, more, equal, isBlank, _⟩
  · rw [none]
    rfl
  · rw [equal]
    exact congrArg (!·) (Text.isWord_eq_false_of_isBlank isBlank)

/-- A written locator is read, whatever follows. -/
theorem WellFormed.read_text {locator : Locator} (wellFormed : locator.WellFormed)
    (spacing : Spacing) (rest : Text) :
    read (locator.text spacing ++ rest) = some (locator, rest) := by
  have word := Text.readWord?_append wellFormed.notEmpty wellFormed.isWord
    (atWordEnd_gap spacing.beforeOpening (spacing.behindOpening.text ++
      (Java.quoted locator.contents ++ (spacing.beforeClosing.text ++ (")" ++ rest)))))
  have opening := @readOpening_append spacing.beforeOpening spacing.behindOpening
    (Java.quoted locator.contents ++ (spacing.beforeClosing.text ++ (")" ++ rest)))
    (Text.dropBlanks_cons rfl _)
  have literal := Java.readLiteral_eq_some_iff.mpr
    (And.intro wellFormed.isContents
      (Eq.refl (Java.quoted locator.contents ++ (spacing.beforeClosing.text ++ (")" ++ rest)))))
  have closing := readClosing_append spacing.beforeClosing rest
  rw [text_append, read, Text.after?_append]
  simp only [Option.bind_eq_bind, Option.bind_some, word, opening, literal, closing]
  rfl

/-- Whatever is read was written. -/
theorem exists_text_of_read {text rest : Text} {locator : Locator}
    (found : read text = some (locator, rest)) :
    locator.WellFormed ∧ ∃ spacing, text = locator.text spacing ++ rest := by
  obtain ⟨behindBy, starts, found⟩ := Option.bind_eq_some_iff.mp found
  obtain ⟨⟨word, behindWord⟩, word?, found⟩ := Option.bind_eq_some_iff.mp found
  obtain ⟨opened, opening, found⟩ := Option.bind_eq_some_iff.mp found
  obtain ⟨⟨contents, behindLiteral⟩, literal, found⟩ := Option.bind_eq_some_iff.mp found
  obtain ⟨behind, closing, found⟩ := Option.bind_eq_some_iff.mp found
  cases found
  obtain ⟨isWord, writtenWord⟩ := Text.eq_append_of_readWord? word?
  obtain ⟨isContents, writtenLiteral⟩ := Java.readLiteral_eq_some_iff.mp literal
  obtain ⟨beforeOpening, behindOpening, writtenOpening⟩ := exists_of_readOpening opening
  obtain ⟨beforeClosing, writtenClosing⟩ := exists_of_readClosing closing
  refine ⟨⟨Text.ne_nil_of_readWord? word?, isWord, isContents⟩,
    ⟨beforeOpening, behindOpening, beforeClosing⟩, ?_⟩
  rw [text_append, Text.after?_eq_some_iff.mp starts, writtenWord, writtenOpening, writtenLiteral,
    writtenClosing]

end Locator

/-! ### Kinds -/

namespace LocatorKind

theorem ofWord?_word (kind : LocatorKind) : ofWord? kind.word = some kind := by
  cases kind <;> rfl

theorem word_of_ofWord? {word : Text} {kind : LocatorKind} (known : ofWord? word = some kind) :
    word = kind.word := by
  have found := List.find?_some (p := fun kind : LocatorKind => decide (kind.word = word)) known
  exact (of_decide_eq_true found).symm

theorem ofWord?_eq_none_iff {word : Text} :
    ofWord? word = none ↔ ∀ kind : LocatorKind, word ≠ kind.word := by
  constructor
  · rintro unknown kind rfl
    rw [ofWord?_word] at unknown
    cases unknown
  · intro unknown
    exact Option.eq_none_iff_forall_ne_some.mpr fun kind known =>
      unknown kind (word_of_ofWord? known)

theorem wellFormed_word (kind : LocatorKind) {contents : Text}
    (isContents : Java.IsContents contents) : Locator.WellFormed ⟨kind.word, contents⟩ where
  notEmpty := by cases kind <;> exact List.cons_ne_nil _ _
  isWord := by
    refine List.all_eq_true.mp ?_
    cases kind <;> rfl
  isContents := isContents

/-- What stands before the value in a selector. -/
def opening : LocatorKind → Text
  | .id => "#"
  | .name => "[name=\""
  | .cssSelector => ""
  | .xpath => "xpath="
  | .className => "."
  | .tagName => ""
  | .linkText => "text=\""

/-- What stands behind the value in a selector. -/
def ending : LocatorKind → Text
  | .name => "\"]"
  | .linkText => "\""
  | _ => ""

theorem selector_eq (kind : LocatorKind) (value : Text) :
    kind.selector value = kind.opening ++ (value ++ kind.ending) := by
  rw [← List.append_assoc]
  cases kind with
  | name | linkText => rfl
  | id | cssSelector | xpath | className | tagName => exact (List.append_nil _).symm

/-- A selector is shorter than any way to write its locator. -/
theorem length_selector_lt (kind : LocatorKind) (value : Text) :
    (kind.selector value).length < value.length + kind.word.length + 7 := by
  have frame : kind.opening.length + kind.ending.length < kind.word.length + 7 := by
    cases kind <;> decide
  rw [selector_eq, List.length_append, List.length_append]
  omega

end LocatorKind

/-! ### What locators mean -/

namespace Locator

/-- The selector that a written locator means: as it is written if its kind is unknown. -/
def meaning (locator : Locator) (spacing : Spacing) : Text :=
  locator.selector?.getD (locator.text spacing)

/-- The selector of a locator of a known kind is built from its value. -/
theorem selector?_word (kind : LocatorKind) (contents : Text) :
    selector? ⟨kind.word, contents⟩ = some (kind.selector (Java.unescape contents)) := by
  rw [selector?, kind.ofWord?_word, Option.map_some]

/-- A locator of a known kind means the selector of its decoded contents. -/
theorem meaning_of_word_eq (locator : Locator) (spacing : Spacing) {kind : LocatorKind}
    (known : locator.word = kind.word) :
    locator.meaning spacing = kind.selector (Java.unescape locator.contents) := by
  obtain ⟨word, contents⟩ := locator
  obtain rfl : word = kind.word := known
  rw [meaning, selector?_word, Option.getD_some]

/-- A locator of an unknown kind stands for itself. -/
theorem meaning_of_word_ne (locator : Locator) (spacing : Spacing)
    (unknown : ∀ kind : LocatorKind, locator.word ≠ kind.word) :
    locator.meaning spacing = locator.text spacing := by
  rw [meaning, selector?, LocatorKind.ofWord?_eq_none_iff.mpr unknown]
  rfl

/-- A locator as it is written is none of the seven forms of its decoded contents. -/
theorem text_ne_selector (locator : Locator) (spacing : Spacing) (kind : LocatorKind) :
    locator.text spacing ≠ kind.selector (Java.unescape locator.contents) := by
  intro same
  have first : (kind.selector (Java.unescape locator.contents)).head? = some 'B' :=
    same ▸ rfl
  have longer : (Java.unescape locator.contents).length < (locator.text spacing).length := by
    have decoded := Java.length_unescape_le locator.contents
    simp [text, Java.quoted]
    omega
  -- Two of the forms are the value itself, which is too short; the others start with another sign.
  cases kind with
  | cssSelector | tagName =>
    rw [same] at longer
    exact absurd longer (Nat.lt_irrefl _)
  | id | name | xpath | className | linkText => exact absurd (Option.some.inj first) (by decide)

/-- What a locator means is one of the seven forms of its decoded contents exactly if its kind is
known. -/
theorem meaning_isForm_iff (locator : Locator) (spacing : Spacing) :
    (∃ kind : LocatorKind,
        locator.meaning spacing = kind.selector (Java.unescape locator.contents)) ↔
      ∃ kind : LocatorKind, locator.word = kind.word := by
  constructor
  · rintro ⟨kind, isForm⟩
    by_contra unknown
    rw [locator.meaning_of_word_ne spacing (not_exists.mp unknown)] at isForm
    exact locator.text_ne_selector spacing kind isForm
  · rintro ⟨kind, known⟩
    exact ⟨kind, locator.meaning_of_word_eq spacing known⟩

/-- A locator is read back with what it means, however it is spaced. -/
theorem WellFormed.readSelector_text {locator : Locator} (wellFormed : locator.WellFormed)
    (spacing : Spacing) (rest : Text) :
    readSelector (locator.text spacing ++ rest) = some (locator.meaning spacing, rest) := by
  rw [readSelector, wellFormed.read_text]
  simp only [Option.bind_eq_bind, Option.bind_some, List.length_append, Nat.add_sub_cancel,
    List.take_left']
  rfl

/-- Whatever is read as a selector is a locator that is written out. -/
theorem exists_of_readSelector {text rest selector : Text}
    (found : readSelector text = some (selector, rest)) :
    ∃ (locator : Locator) (spacing : Spacing), locator.WellFormed ∧
      text = locator.text spacing ++ rest ∧ selector = locator.meaning spacing := by
  obtain ⟨⟨locator, behind⟩, read, _⟩ := Option.bind_eq_some_iff.mp found
  obtain ⟨wellFormed, spacing, rfl⟩ := exists_text_of_read read
  cases found.symm.trans (wellFormed.readSelector_text spacing behind)
  exact ⟨locator, spacing, wellFormed, rfl, rfl⟩

/-! ### Normalizing -/

/-- A text that holds nothing but a locator, blanks around it aside. -/
def surrounded (locator : Locator) (spacing : Spacing) (front back : Gap) : Text :=
  front.text ++ (locator.text spacing ++ back.text)

/-- Blanks around a locator do not matter, but a text of an unknown kind keeps them. -/
theorem WellFormed.normalize_surrounded {locator : Locator} (wellFormed : locator.WellFormed)
    (spacing : Spacing) (front back : Gap) :
    normalize (locator.surrounded spacing front back) =
      locator.selector?.getD (locator.surrounded spacing front back) := by
  have solid : Text.dropBlanks (locator.text spacing ++ back.text) =
      locator.text spacing ++ back.text := by
    rw [text_append]
    exact Text.dropBlanks_cons rfl _
  rw [normalize, surrounded, Text.dropBlanks_append front.blank, solid, wellFormed.read_text]
  exact if_pos back.blank

/-- Nothing but a locator of a known kind is changed. -/
theorem exists_of_normalize_ne {text : Text} (changed : normalize text ≠ text) :
    ∃ (kind : LocatorKind) (contents : Text) (spacing : Spacing) (front back : Gap),
      Java.IsContents contents ∧ text = surrounded ⟨kind.word, contents⟩ spacing front back := by
  unfold normalize at changed
  split at changed
  · rename_i locator rest found
    split_ifs at changed with blank
    · obtain ⟨wellFormed, spacing, written⟩ := exists_text_of_read found
      obtain ⟨front, frontBlank, split⟩ := Text.exists_append_dropBlanks text
      obtain ⟨word, contents⟩ := locator
      cases known : LocatorKind.ofWord? word with
      | none =>
        rw [selector?, known] at changed
        exact absurd rfl changed
      | some kind =>
        obtain rfl := LocatorKind.word_of_ofWord? known
        refine ⟨kind, contents, spacing, ⟨front, frontBlank⟩, ⟨rest, blank⟩,
          wellFormed.isContents, ?_⟩
        rw [surrounded, ← written, ← split]
    · exact absurd rfl changed
  · exact absurd rfl changed

/-- A locator of a known kind is changed into the selector of its decoded contents. -/
theorem normalize_surrounded_word (kind : LocatorKind) {contents : Text}
    (isContents : Java.IsContents contents) (spacing : Spacing) (front back : Gap) :
    normalize (surrounded ⟨kind.word, contents⟩ spacing front back) =
      kind.selector (Java.unescape contents) := by
  rw [(kind.wellFormed_word isContents).normalize_surrounded, selector?_word, Option.getD_some]

/-- Every value comes through, whatever has to be escaped in it. -/
theorem normalize_surrounded_escape (kind : LocatorKind) (value : Text) (spacing : Spacing)
    (front back : Gap) :
    normalize (surrounded ⟨kind.word, Java.escape value⟩ spacing front back) =
      kind.selector value := by
  rw [normalize_surrounded_word kind (Java.isContents_escape value), Java.unescape_escape]

theorem normalize_surrounded_ne (kind : LocatorKind) {contents : Text}
    (isContents : Java.IsContents contents) (spacing : Spacing) (front back : Gap) :
    normalize (surrounded ⟨kind.word, contents⟩ spacing front back) ≠
      surrounded ⟨kind.word, contents⟩ spacing front back := by
  intro same
  rw [normalize_surrounded_word kind isContents] at same
  have lengths := congrArg List.length same
  have shorter := kind.length_selector_lt (Java.unescape contents)
  have decoded := Java.length_unescape_le contents
  simp [surrounded, text, Java.quoted] at lengths
  omega

end Locator

/-- Decoding undoes escaping, and a locator of a known kind, however it is spaced, is taken for the
selector of its decoded value. A text is changed exactly if it is such a locator, blanks around it
aside, and every other text stays as it is. -/
theorem normalize_changes_locators_alone :
    (∀ value : Text, Java.unescape (Java.escape value) = value) ∧
    (∀ (kind : LocatorKind) (value : Text) (spacing : Spacing) (front back : Gap),
      Locator.normalize (Locator.surrounded ⟨kind.word, Java.escape value⟩ spacing front back) =
        kind.selector value) ∧
    (∀ text : Text, Locator.normalize text ≠ text ↔
      ∃ (kind : LocatorKind) (contents : Text) (spacing : Spacing) (front back : Gap),
        Java.IsContents contents ∧
          text = Locator.surrounded ⟨kind.word, contents⟩ spacing front back) ∧
    (∀ (kind : LocatorKind) (contents : Text) (spacing : Spacing) (front back : Gap),
      Java.IsContents contents →
        Locator.normalize (Locator.surrounded ⟨kind.word, contents⟩ spacing front back) =
          kind.selector (Java.unescape contents)) := by
  refine ⟨Java.unescape_escape, Locator.normalize_surrounded_escape, fun text => ?_,
    fun kind contents spacing front back isContents =>
      Locator.normalize_surrounded_word kind isContents spacing front back⟩
  refine ⟨Locator.exists_of_normalize_ne, ?_⟩
  rintro ⟨kind, contents, spacing, front, back, isContents, rfl⟩
  exact Locator.normalize_surrounded_ne kind isContents spacing front back

/-- A link text of a quote and a backslash, with blanks all around. -/
theorem normalize_spaced_linkText :
    Java.IsContents "\\\"\\\\" ∧
      Locator.normalize "  By.linkText (\t\"\\\"\\\\\" )\n" = "text=\"\"\\\"" :=
  ⟨by decide, normalize_changes_locators_alone.2.2.2 .linkText "\\\"\\\\"
    ⟨⟨" ", rfl⟩, ⟨"\t", rfl⟩, ⟨" ", rfl⟩⟩ ⟨"  ", rfl⟩ ⟨"\n", rfl⟩ (by decide)⟩

end BrowserPlan
