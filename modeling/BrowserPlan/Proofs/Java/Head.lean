/-
This file proves where reading the head of a test method leaves off: at an opening brace, with
a rest of the text that lacks at least the annotation at its front.

Every reader of the head leaves a rest of its text. That is one short lemma for each of them,
in the order in which they are defined.
-/

import BrowserPlan.Java.TestMethod
import BrowserPlan.Proofs.Text.Search

namespace BrowserPlan.Java

open Text (dropBlanks_isSuffix isSuffix_of_dropSomeBlanks? isSuffix_of_after?)

/-! ### Readers leave a rest of the text -/

theorem getD_isSuffix {text : Text} {rest? : Option Text}
    (reads : ∀ rest, rest? = some rest → rest <:+ text) : rest?.getD text <:+ text := by
  cases rest? with
  | none => exact List.suffix_rfl
  | some rest => exact reads rest rfl

theorem isSuffix_of_readParentheses {text rest : Text}
    (read : readParentheses text = some rest) : rest <:+ text := by
  unfold readParentheses at read
  split at read
  · cases read
  · rename_i inside opened
    split at read
    · cases read
    · rename_i closing _ found
      cases read
      have closed : closing :: rest <:+ inside := found ▸ List.dropWhile_suffix _
      exact (List.suffix_cons closing rest).trans (closed.trans (isSuffix_of_after? opened))

theorem skipParentheses_isSuffix (text : Text) : skipParentheses text <:+ text :=
  getD_isSuffix fun _ read => (isSuffix_of_readParentheses read).trans (dropBlanks_isSuffix text)

theorem isSuffix_of_readWord? {text word rest : Text}
    (read : Text.readWord? text = some (word, rest)) : rest <:+ text := by
  unfold Text.readWord? at read
  split at read
  · cases read
  · cases read
    exact List.dropWhile_suffix _

theorem isSuffix_of_readAnnotationName {fuel : Nat} {text rest : Text}
    (read : readAnnotationName fuel text = some rest) : rest <:+ text := by
  induction fuel generalizing text rest with
  | zero => cases read
  | succ fuel inductionHypothesis =>
    simp only [readAnnotationName, bind, Option.bind_eq_some_iff] at read
    obtain ⟨⟨word, behind⟩, word?, read⟩ := read
    refine List.IsSuffix.trans ?_ (isSuffix_of_readWord? word?)
    split at read
    · rename_i more point
      obtain rfl : behind = '.' :: more := point
      cases read
      refine getD_isSuffix fun rest readMore => ?_
      exact (inductionHypothesis readMore).trans (List.suffix_cons '.' more)
    · cases read
      exact List.suffix_rfl

theorem isSuffix_of_annotation_read {text rest : Text} (read : readAnnotation text = some rest) :
    rest <:+ text := by
  unfold readAnnotation at read
  simp only [bind, Option.bind_eq_some_iff] at read
  obtain ⟨afterBlanks, blanks, name, sign, behind, named, read⟩ := read
  cases read
  exact (skipParentheses_isSuffix behind).trans ((isSuffix_of_readAnnotationName named).trans
    ((isSuffix_of_after? sign).trans (isSuffix_of_dropSomeBlanks? blanks)))

theorem skipAnnotations_isSuffix (fuel : Nat) (text : Text) :
    skipAnnotations fuel text <:+ text := by
  induction fuel generalizing text with
  | zero => exact List.suffix_rfl
  | succ fuel inductionHypothesis =>
    rw [skipAnnotations]
    split
    · rename_i rest read
      exact (inductionHypothesis rest).trans (isSuffix_of_annotation_read read)
    · exact List.suffix_rfl

theorem isSuffix_of_readModifier {text rest : Text} (read : readModifier text = some rest) :
    rest <:+ text := by
  obtain ⟨modifier, _, read⟩ := List.exists_of_findSome?_eq_some read
  obtain ⟨behind, word, blanks⟩ := Option.bind_eq_some_iff.mp read
  exact (isSuffix_of_dropSomeBlanks? blanks).trans (isSuffix_of_after? word)

theorem skipModifiers_isSuffix (fuel : Nat) (text : Text) : skipModifiers fuel text <:+ text := by
  induction fuel generalizing text with
  | zero => exact List.suffix_rfl
  | succ fuel inductionHypothesis =>
    rw [skipModifiers]
    split
    · rename_i rest read
      exact (inductionHypothesis rest).trans (isSuffix_of_readModifier read)
    · exact List.suffix_rfl

theorem isSuffix_of_readDotted {text rest : Text} (read : readDotted text = some rest) :
    rest <:+ text := by
  unfold readDotted at read
  split_ifs at read
  cases read
  exact List.dropWhile_suffix _

theorem skipNames_isSuffix (fuel : Nat) (text : Text) : skipNames fuel text <:+ text := by
  induction fuel generalizing text with
  | zero => exact List.suffix_rfl
  | succ fuel inductionHypothesis =>
    simp only [skipNames]
    split
    · rename_i rest read
      obtain ⟨behind, comma, dotted⟩ := Option.bind_eq_some_iff.mp read
      exact (inductionHypothesis rest).trans ((isSuffix_of_readDotted dotted).trans
        ((dropBlanks_isSuffix behind).trans
          ((isSuffix_of_after? comma).trans (dropBlanks_isSuffix text))))
    · exact List.suffix_rfl

theorem skipExceptions_isSuffix (text : Text) : skipExceptions text <:+ text := by
  refine getD_isSuffix fun rest read => ?_
  simp only [bind, Option.bind_eq_some_iff] at read
  obtain ⟨behind, word, blanked, blanks, names, dotted, read⟩ := read
  cases read
  exact (dropBlanks_isSuffix _).trans ((skipNames_isSuffix _ names).trans
    ((isSuffix_of_readDotted dotted).trans
      ((isSuffix_of_dropSomeBlanks? blanks).trans (isSuffix_of_after? word))))

/-! ### The whole head -/

/-- A head ends at an opening brace, behind an annotation. -/
theorem readHead_eq_some {text name rest : Text} (read : readHead text = some (name, rest)) :
    (∃ passed, passed ≠ [] ∧ text = passed ++ rest) ∧ ∃ inside, rest = '\x7b' :: inside := by
  simp only [readHead, bind, Option.bind_eq_some_iff] at read
  obtain ⟨marked, mark, spaced, blanks, void, keyword, named, moreBlanks, ⟨word, behind⟩, word?,
    closed, parentheses, read⟩ := read
  split_ifs at read with opens
  cases read
  obtain ⟨inside, equal⟩ := Text.opensWith_iff.mp opens
  have marks : text = "@Test" ++ marked :=
    Text.after?_eq_some_iff.mp (Option.eq_some_of_filter_eq_some mark)
  have leaves : skipExceptions (Text.dropBlanks closed) <:+ marked :=
    (skipExceptions_isSuffix _).trans ((dropBlanks_isSuffix closed).trans
      ((isSuffix_of_readParentheses parentheses).trans ((dropBlanks_isSuffix behind).trans
        ((isSuffix_of_readWord? word?).trans ((isSuffix_of_dropSomeBlanks? moreBlanks).trans
          ((isSuffix_of_after? keyword).trans ((skipModifiers_isSuffix _ spaced).trans
            ((isSuffix_of_dropSomeBlanks? blanks).trans ((skipAnnotations_isSuffix _ _).trans
              (skipParentheses_isSuffix marked))))))))))
  obtain ⟨passed, equalMarked⟩ := leaves
  refine ⟨⟨"@Test" ++ passed, by simp, ?_⟩, inside, equal.symm⟩
  rw [marks, ← equalMarked, List.append_assoc]

end BrowserPlan.Java
