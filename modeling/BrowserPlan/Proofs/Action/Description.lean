/-
This file proves that descriptions tell elements apart.

A description holds the value of its locator in a frame that depends on the kind. Selectors by name
and by link text are told by their ends, and what stands between them must be on one line. With a
newline in the value such a selector is its own description, which is a frame as well. No frame
opens like the start of another one, so that the opening of a description gives the kind away, and
what is left of it is the value.
-/

import BrowserPlan.Proofs.Action.Reading

namespace BrowserPlan

/-! ### What stands on one line between two ends -/

/-- What is written between an opening and an ending is read back, if it is one line. -/
theorem lineBetween?_append (opening ending value : Text) :
    lineBetween? opening ending (opening ++ (value ++ ending)) =
      if value.contains '\n' then none else some value := by
  have cut : Text.after? ending.reverse (value ++ ending).reverse = some value.reverse := by
    rw [List.reverse_append, Text.after?_append]
  simp only [lineBetween?, Text.after?_append, Option.bind_eq_bind, Option.bind_some, cut,
    Option.map_some, List.reverse_reverse, Option.some_or]

theorem lineBetween?_eq_none {opening text : Text} (other : Text.after? opening text = none)
    (ending : Text) : lineBetween? opening ending text = none := by
  simp only [lineBetween?, other, Option.bind_eq_bind, Option.bind_none]

/-! ### Frames -/

/-- What stands before and behind the value in a description. -/
structure Frame where
  opening : Text
  ending : Text
  deriving DecidableEq, Repr

/-- A value in a frame. -/
def Frame.around (frame : Frame) (value : Text) : Text :=
  frame.opening ++ (value ++ frame.ending)

/-- The frame of a description. It depends on the kind of the locator and, for the kinds that are
told by their ends, on whether the value is on one line. -/
def LocatorKind.frame : (kind : LocatorKind) → (oneLine : Bool) → Frame
  | .id, _ => ⟨"element with id=\"", "\""⟩
  | .name, true => ⟨"input with name=\"", "\""⟩
  | .name, false => ⟨"[name=\"", "\"]"⟩
  | .cssSelector, _ => ⟨"", ""⟩
  | .xpath, _ => ⟨"element at xpath ", ""⟩
  | .className, _ => ⟨"element with class=\"", "\""⟩
  | .tagName, _ => ⟨"<", "> element"⟩
  | .linkText, true => ⟨"element with text \"", "\""⟩
  | .linkText, false => ⟨"text=\"", "\""⟩

/-- The kinds of locators that have frames of their own. -/
def framedKinds : List LocatorKind :=
  [.id, .name, .xpath, .className, .tagName, .linkText]

/-- No frame opens like the start of a frame of another kind. -/
theorem frame_eq_of_opening_isPrefix {first second : LocatorKind} (isFirst : first ∈ framedKinds)
    (isSecond : second ∈ framedKinds) {oneLine other : Bool}
    (starts : (first.frame oneLine).opening <+: (second.frame other).opening) :
    first = second ∧ first.frame oneLine = second.frame other := by
  have table : ∀ first ∈ framedKinds, ∀ second ∈ framedKinds, ∀ oneLine other : Bool,
      (first.frame oneLine).opening.isPrefixOf (second.frame other).opening = true →
        first = second ∧ first.frame oneLine = second.frame other := by
    decide
  exact table first isFirst second isSecond oneLine other (List.isPrefixOf_iff_prefix.mpr starts)

/-- A value in a frame gives back the kind and the value. -/
theorem eq_of_around_eq {first second : LocatorKind} (isFirst : first ∈ framedKinds)
    (isSecond : second ∈ framedKinds) {oneLine other : Bool} {value text : Text}
    (same : (first.frame oneLine).around value = (second.frame other).around text) :
    first = second ∧ value = text := by
  obtain ⟨kinds, frames⟩ : first = second ∧ first.frame oneLine = second.frame other := by
    have starts : (first.frame oneLine).opening <+: (first.frame oneLine).around value :=
      List.prefix_append _ _
    have startsToo : (second.frame other).opening <+: (first.frame oneLine).around value := by
      rw [same]
      exact List.prefix_append _ _
    rcases List.prefix_or_prefix_of_prefix starts startsToo with shorter | longer
    · exact frame_eq_of_opening_isPrefix isFirst isSecond shorter
    · obtain ⟨kinds, frames⟩ := frame_eq_of_opening_isPrefix isSecond isFirst longer
      exact ⟨kinds.symm, frames.symm⟩
  rw [frames] at same
  exact ⟨kinds, List.append_cancel_right (List.append_cancel_left same)⟩

/-! ### Descriptions of selectors -/

/-- A selector that is neither by id nor by class is told by its ends, then by the mark of a path,
and then by its characters. -/
theorem describe_of_head {selector : Text} {char : Char} (head : selector.head? = some char)
    (notId : char ≠ '#') (notClass : char ≠ '.') :
    describe selector =
      (((lineBetween? "[name=\"" "\"]" selector).map
          (Frame.around ⟨"input with name=\"", "\""⟩)).or
        (((lineBetween? "text=\"" "\"" selector).map
            (Frame.around ⟨"element with text \"", "\""⟩)).or
          ((Text.after? "xpath=" selector).map (Frame.around ⟨"element at xpath ", ""⟩)))).getD
        (if isTagName selector then Frame.around ⟨"<", "> element"⟩ selector else selector) := by
  unfold describe
  split
  · exact absurd (Option.some.inj head).symm notId
  · exact absurd (Option.some.inj head).symm notClass
  · cases lineBetween? "[name=\"" "\"]" selector with
    | some value => exact List.append_assoc _ _ _
    | none =>
      cases lineBetween? "text=\"" "\"" selector with
      | some value => exact List.append_assoc _ _ _
      | none =>
        cases Text.after? "xpath=" selector with
        | some value => exact congrArg (List.append _) (List.append_nil value).symm
        | none => rfl

/-- A path is described behind its mark. -/
theorem describe_xpath (value : Text) :
    describe ("xpath=" ++ value) = (LocatorKind.xpath.frame true).around value := by
  rw [describe_of_head rfl (by decide) (by decide), lineBetween?_eq_none rfl,
    lineBetween?_eq_none rfl, Text.after?_append]
  rfl

/-- A selector by name is described by its name, unless that runs over a line. -/
theorem describe_name (value : Text) :
    describe ("[name=\"" ++ (value ++ "\"]")) =
      (LocatorKind.name.frame !value.contains '\n').around value := by
  rw [describe_of_head rfl (by decide) (by decide), lineBetween?_append]
  cases value.contains '\n' with
  | false => rfl
  | true =>
    rw [if_pos rfl, lineBetween?_eq_none rfl]
    rfl

/-- So is a selector by the text of a link. -/
theorem describe_linkText (value : Text) :
    describe ("text=\"" ++ (value ++ "\"")) =
      (LocatorKind.linkText.frame !value.contains '\n').around value := by
  rw [describe_of_head rfl (by decide) (by decide), lineBetween?_eq_none rfl,
    lineBetween?_append]
  cases value.contains '\n' with
  | false => rfl
  | true => rfl

/-- Whether the description of an element is made of its value: a selector of another language is
taken as it is, and the name of a tag must look like one. -/
def Target.IsDescribed (target : Target) : Prop :=
  target.kind ∈ framedKinds ∧ (target.kind = .tagName → isTagName target.value = true)

instance : DecidablePred Target.IsDescribed := fun target =>
  inferInstanceAs (Decidable
    (target.kind ∈ framedKinds ∧ (target.kind = .tagName → isTagName target.value = true)))

/-- A tag is not named like the opening of another selector. -/
theorem after?_eq_none_of_isTagName {opening text : Text} {char : Char} (holds : char ∈ opening)
    (notAlphanum : char.isAlphanum = false) (notHyphen : char ≠ '-')
    (tag : isTagName text = true) : Text.after? opening text = none := by
  refine Text.after?_eq_none fun starts => ?_
  have member : char ∈ text := starts.subset holds
  cases text with
  | nil => cases member
  | cons first text =>
    rw [isTagName, Bool.and_eq_true] at tag
    rcases List.mem_cons.mp member with rfl | inside
    · rw [Char.isAlphanum, tag.1] at notAlphanum
      cases notAlphanum
    · have allowed := List.all_eq_true.mp tag.2 char inside
      rw [notAlphanum, Bool.false_or, beq_iff_eq] at allowed
      exact notHyphen allowed

/-- The name of a tag is described as one. -/
theorem describe_tagName {value : Text} (tag : isTagName value = true) :
    describe value = (LocatorKind.tagName.frame true).around value := by
  obtain ⟨first, rest, rfl⟩ : ∃ first rest, value = first :: rest := by
    cases value with
    | nil => cases tag
    | cons first rest => exact ⟨first, rest, rfl⟩
  have letter : first.isAlpha = true := by
    rw [isTagName, Bool.and_eq_true] at tag
    exact tag.1
  have ne {other : Char} (notLetter : other.isAlpha = false) : first ≠ other := by
    rintro rfl
    exact Bool.false_ne_true (notLetter.symm.trans letter)
  have apart {opening : Text} (holds : '=' ∈ opening) :
      Text.after? opening (first :: rest) = none :=
    after?_eq_none_of_isTagName holds rfl (by decide) tag
  rw [describe_of_head rfl (ne rfl) (ne rfl), lineBetween?_eq_none (apart (by decide)),
    lineBetween?_eq_none (apart (by decide)), apart (by decide), tag]
  rfl

/-- The selector of an element is described by its value in the frame of its kind. -/
theorem describe_selector {target : Target} (described : target.IsDescribed) :
    ∃ oneLine, describe target.selector = (target.kind.frame oneLine).around target.value := by
  obtain ⟨kind, value⟩ := target
  obtain ⟨framed, tag⟩ := described
  rw [Target.selector]
  cases kind with
  | id | className => exact ⟨true, List.append_assoc _ _ _⟩
  | cssSelector => contradiction
  | xpath => exact ⟨true, describe_xpath value⟩
  | tagName => exact ⟨true, describe_tagName (tag rfl)⟩
  | name =>
    rw [LocatorKind.selector_eq]
    exact ⟨_, describe_name value⟩
  | linkText =>
    rw [LocatorKind.selector_eq]
    exact ⟨_, describe_linkText value⟩

/-- A target that is written as code is normalised to its selector. -/
theorem Target.normalize_text (target : Target) :
    Locator.normalize target.text = target.selector := by
  have normalized := Locator.normalize_surrounded_escape target.kind target.value .none .none .none
  have whole : Locator.surrounded ⟨target.kind.word, Java.escape target.value⟩ .none .none .none =
      target.text :=
    List.append_nil target.text
  rwa [whole] at normalized

/-- The description of an element holds its value, and two elements are described alike only if they
are one, so that the description gives back both the kind of the locator and the value. -/
theorem descriptions_tell_apart :
    (∀ target : Target, target.IsDescribed →
      target.value <:+: describe (Locator.normalize target.text)) ∧
    (∀ first second : Target, first.IsDescribed → second.IsDescribed →
      (describe (Locator.normalize first.text) = describe (Locator.normalize second.text) ↔
        first = second)) := by
  refine ⟨fun target described => ?_, fun first second describedFirst describedSecond => ?_⟩
  · obtain ⟨oneLine, inFrame⟩ := describe_selector described
    rw [target.normalize_text, inFrame]
    exact ⟨_, _, List.append_assoc _ _ _⟩
  · refine ⟨fun same => ?_, fun same => by rw [same]⟩
    obtain ⟨oneLine, inFrame⟩ := describe_selector describedFirst
    obtain ⟨other, inOther⟩ := describe_selector describedSecond
    rw [first.normalize_text, second.normalize_text, inFrame, inOther] at same
    obtain ⟨kinds, values⟩ := eq_of_around_eq describedFirst.1 describedSecond.1 same
    obtain ⟨kind, value⟩ := first
    obtain ⟨otherKind, text⟩ := second
    obtain rfl : kind = otherKind := kinds
    obtain rfl : value = text := values
    rfl

/-- The name of a field runs over a line and ends like another selector; so does the text of a link
that imitates it. -/
theorem descriptions_tell_imitation_apart :
    Target.IsDescribed ⟨.name, "a\n\"]"⟩ ∧ Target.IsDescribed ⟨.linkText, "[name=\"a\n\"]"⟩ ∧
      ("a\n\"]" : Text) <:+: describe (Locator.normalize (Target.text ⟨.name, "a\n\"]"⟩)) ∧
      describe (Locator.normalize (Target.text ⟨.name, "a\n\"]"⟩)) ≠
        describe (Locator.normalize (Target.text ⟨.linkText, "[name=\"a\n\"]"⟩)) := by
  have name : Target.IsDescribed ⟨.name, "a\n\"]"⟩ := by decide
  have link : Target.IsDescribed ⟨.linkText, "[name=\"a\n\"]"⟩ := by decide
  refine ⟨name, link, descriptions_tell_apart.1 _ name, fun same => ?_⟩
  have equal := (descriptions_tell_apart.2 _ _ name link).mp same
  cases (Target.mk.inj equal).1

end BrowserPlan
