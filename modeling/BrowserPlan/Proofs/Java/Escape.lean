/-
This file proves that a Java string literal means what was written into it.

A value is written between quotes with seven of its characters escaped. The literal is read to
its own closing quote, whatever follows, and decoding its contents gives the value back. Reading
and decoding bring in no character that is neither written nor meant by a pair.

Not every literal is written like that. The grammar of contents says which texts can stand between
the quotes at all, and reading accepts just these.
-/

import BrowserPlan.Java.Literal
import Mathlib.Data.List.Basic

namespace BrowserPlan.Java

/-! ### Writing literals -/

/-- How a character is written in a literal. -/
def escapeChar (char : Char) : Text :=
  match char with
  | '\\' => "\\\\"
  | '"' => "\\\""
  | '\n' => "\\n"
  | '\t' => "\\t"
  | '\r' => "\\r"
  | '\x08' => "\\b"
  | '\x0c' => "\\f"
  | _ => [char]

/-- The contents of a literal that means the given value. -/
def escape (value : Text) : Text :=
  value.flatMap escapeChar

/-- A value as a literal. -/
def literal (value : Text) : Text :=
  '"' :: escape value ++ ['"']

/-- The letters that stand behind a backslash in what is written. -/
def escapeLetters : Text :=
  "\\\"ntrbf"

/-- A character is written as a pair that means it, or as itself if it could not be mistaken
for anything else. -/
theorem escapeChar_cases (char : Char) :
    (∃ letter ∈ escapeLetters, escapeChar char = ['\\', letter] ∧
      escapeMeaning? letter = some char) ∨
    (escapeChar char = [char] ∧ char ≠ '"' ∧ char ≠ '\\' ∧ char ≠ '\n') := by
  unfold escapeChar
  split
  · exact Or.inl ⟨'\\', List.contains_iff_mem.mp rfl, rfl, rfl⟩
  · exact Or.inl ⟨'"', List.contains_iff_mem.mp rfl, rfl, rfl⟩
  · exact Or.inl ⟨'n', List.contains_iff_mem.mp rfl, rfl, rfl⟩
  · exact Or.inl ⟨'t', List.contains_iff_mem.mp rfl, rfl, rfl⟩
  · exact Or.inl ⟨'r', List.contains_iff_mem.mp rfl, rfl, rfl⟩
  · exact Or.inl ⟨'b', List.contains_iff_mem.mp rfl, rfl, rfl⟩
  · exact Or.inl ⟨'f', List.contains_iff_mem.mp rfl, rfl, rfl⟩
  · rename_i notBackslash notQuote notNewline _ _ _ _
    exact Or.inr ⟨rfl, notQuote, notBackslash, notNewline⟩

theorem ne_newline_of_mem_escapeLetters {letter : Char} (member : letter ∈ escapeLetters) :
    letter ≠ '\n' := by
  rintro rfl
  exact absurd (List.contains_iff_mem.mpr member) (by decide)

theorem escape_cons (char : Char) (value : Text) :
    escape (char :: value) = escapeChar char ++ escape value :=
  List.flatMap_cons

theorem literal_append (value rest : Text) :
    literal value ++ rest = '"' :: (escape value ++ '"' :: rest) := by
  show '"' :: (escape value ++ ['"'] ++ rest) = _
  rw [List.append_assoc]
  rfl

/-- Writing adds no characters but those of the pairs. -/
theorem mem_of_mem_escape {char : Char} (notLetter : char ∉ escapeLetters) {value : Text}
    (member : char ∈ escape value) : char ∈ value := by
  obtain ⟨written, inValue, inWritten⟩ := List.mem_flatMap.mp member
  rcases escapeChar_cases written with ⟨letter, isLetter, equal, _⟩ | ⟨equal, _⟩
  · rw [equal, List.mem_pair] at inWritten
    rcases inWritten with rfl | rfl
    · exact absurd (List.contains_iff_mem.mp rfl) notLetter
    · exact absurd isLetter notLetter
  · rw [equal, List.mem_singleton] at inWritten
    exact inWritten ▸ inValue

/-- The characters of a literal are those of its value and those that escape them. -/
theorem mem_of_mem_literal {char : Char} (notLetter : char ∉ escapeLetters) {value : Text}
    (member : char ∈ literal value) : char ∈ value := by
  have notQuote : char ≠ '"' := by
    rintro rfl
    exact notLetter (List.contains_iff_mem.mp rfl)
  rcases List.mem_cons.mp member with quote | member
  · exact absurd quote notQuote
  · rcases List.mem_append.mp member with written | quote
    · exact mem_of_mem_escape notLetter written
    · exact absurd (List.mem_singleton.mp quote) notQuote

/-! ### Decoding what was written -/

theorem unescape_cons {char : Char} (notBackslash : char ≠ '\\') (text : Text) :
    unescape (char :: text) = char :: unescape text := by
  cases text with
  | nil => rfl
  | cons second text => rw [unescape, if_neg notBackslash]

theorem unescape_pair {letter meaning : Char} (means : escapeMeaning? letter = some meaning)
    (text : Text) : unescape ('\\' :: letter :: text) = meaning :: unescape text := by
  rw [unescape, if_pos rfl, means]

/-- Decoding gives back the value that was written. -/
theorem unescape_escape (value : Text) : unescape (escape value) = value := by
  induction value with
  | nil => rfl
  | cons char value inductionHypothesis =>
    rw [escape_cons]
    rcases escapeChar_cases char with ⟨letter, _, equal, means⟩ | ⟨equal, _, notBackslash, _⟩
    · rw [equal, List.cons_append, List.cons_append, List.nil_append, unescape_pair means,
        inductionHypothesis]
    · rw [equal, List.singleton_append, unescape_cons notBackslash, inductionHypothesis]

/-! ### The grammar of literals -/

/-- Whether a text can stand between the quotes of a literal: characters that are neither a quote
nor a backslash, and pairs of a backslash and any character but a newline. -/
inductive IsContents : Text → Prop
  | nil : IsContents []
  | plain {char : Char} {contents : Text} (notQuote : char ≠ '"') (notBackslash : char ≠ '\\')
      (further : IsContents contents) : IsContents (char :: contents)
  | pair {char : Char} {contents : Text} (notNewline : char ≠ '\n')
      (further : IsContents contents) : IsContents ('\\' :: char :: contents)

/-- Contents between quotes. -/
def quoted (contents : Text) : Text :=
  '"' :: (contents ++ ['"'])

theorem quoted_append (contents rest : Text) :
    quoted contents ++ rest = '"' :: (contents ++ '"' :: rest) := by
  rw [quoted, List.cons_append, List.append_assoc]
  rfl

/-- What is written for a value can stand in a literal. -/
theorem isContents_escape (value : Text) : IsContents (escape value) := by
  induction value with
  | nil => exact .nil
  | cons char value inductionHypothesis =>
    rw [escape_cons]
    rcases escapeChar_cases char with
      ⟨letter, isLetter, equal, _⟩ | ⟨equal, notQuote, notBackslash, _⟩
    · rw [equal]
      exact .pair (ne_newline_of_mem_escapeLetters isLetter) inductionHypothesis
    · rw [equal]
      exact .plain notQuote notBackslash inductionHypothesis

theorem readContents_cons {char : Char} {text : Text} (notQuote : char ≠ '"')
    (notBackslash : char ≠ '\\') (notEmpty : text ≠ []) :
    readContents (char :: text) =
      (readContents text).map fun (contents, rest) => (char :: contents, rest) := by
  cases text with
  | nil => exact absurd rfl notEmpty
  | cons second text => rw [readContents, if_neg notQuote, if_neg notBackslash]

theorem readContents_pair {letter : Char} (notNewline : letter ≠ '\n') (text : Text) :
    readContents ('\\' :: letter :: text) =
      (readContents text).map fun (contents, rest) => ('\\' :: letter :: contents, rest) := by
  rw [readContents, if_neg (by decide), if_pos rfl, if_neg notNewline]

/-- Contents are read up to the closing quote and no further. -/
theorem IsContents.readContents_append {contents : Text} (isContents : IsContents contents)
    (rest : Text) : readContents (contents ++ '"' :: rest) = some (contents, rest) := by
  induction isContents with
  | nil => cases rest <;> rfl
  | plain notQuote notBackslash _ inductionHypothesis =>
    rw [List.cons_append, readContents_cons notQuote notBackslash (by simp), inductionHypothesis]
    rfl
  | pair notNewline _ inductionHypothesis =>
    rw [List.cons_append, List.cons_append, readContents_pair notNewline, inductionHypothesis]
    rfl

/-- Nothing but contents is read. -/
theorem isContents_of_readContents {text contents rest : Text}
    (read : readContents text = some (contents, rest)) :
    IsContents contents ∧ text = contents ++ '"' :: rest := by
  induction text using readContents.induct generalizing contents rest with
  | case1 => cases read
  | case2 | case4 =>
    cases read
    exact ⟨.nil, rfl⟩
  | case3 char notQuote =>
    rw [readContents, if_neg notQuote] at read
    cases read
  | case5 => cases read
  | case6 second text notNewline _ inductionHypothesis =>
    rw [readContents_pair notNewline] at read
    obtain ⟨⟨further, _⟩, later, equal⟩ := Option.map_eq_some_iff.mp read
    cases equal
    obtain ⟨isContents, rfl⟩ := inductionHypothesis later
    exact ⟨.pair notNewline isContents, rfl⟩
  | case7 first second text notQuote notBackslash inductionHypothesis =>
    rw [readContents_cons notQuote notBackslash (List.cons_ne_nil _ _)] at read
    obtain ⟨⟨further, _⟩, later, equal⟩ := Option.map_eq_some_iff.mp read
    cases equal
    obtain ⟨isContents, written⟩ := inductionHypothesis later
    exact ⟨.plain notQuote notBackslash isContents, congrArg (List.cons first) written⟩

/-- Exactly the quoted contents are read as a literal. -/
theorem readLiteral_eq_some_iff {text contents rest : Text} :
    readLiteral text = some (contents, rest) ↔
      IsContents contents ∧ text = quoted contents ++ rest := by
  constructor
  · intro read
    unfold readLiteral at read
    split at read
    · obtain ⟨isContents, rfl⟩ := isContents_of_readContents read
      exact ⟨isContents, (quoted_append contents rest).symm⟩
    · cases read
  · rintro ⟨isContents, rfl⟩
    rw [quoted_append]
    exact isContents.readContents_append rest

/-- A text is one literal exactly if it is contents between quotes. -/
theorem wholeLiteral?_eq_some_iff {text contents : Text} :
    wholeLiteral? text = some contents ↔ IsContents contents ∧ text = quoted contents := by
  have whole : wholeLiteral? text = some contents ↔ readLiteral text = some (contents, []) := by
    unfold wholeLiteral?
    split
    · rename_i read
      simp [read]
    · rename_i other
      exact iff_of_false nofun (other contents)
  rw [whole, readLiteral_eq_some_iff, List.append_nil]

instance : DecidablePred IsContents := fun contents =>
  decidable_of_iff (wholeLiteral? (quoted contents) = some contents)
    (wholeLiteral?_eq_some_iff.trans (and_iff_left rfl))

/-! ### Reading a literal back -/

/-- A written literal is read back. -/
theorem readLiteral_literal (value rest : Text) :
    readLiteral (literal value ++ rest) = some (escape value, rest) :=
  readLiteral_eq_some_iff.mpr ⟨isContents_escape value, rfl⟩

theorem wholeLiteral?_literal (value : Text) :
    wholeLiteral? (literal value) = some (escape value) :=
  wholeLiteral?_eq_some_iff.mpr ⟨isContents_escape value, rfl⟩

/-! ### Nothing is read but what is written -/

theorem subset_of_wholeLiteral? {text contents : Text}
    (whole : wholeLiteral? text = some contents) : contents ⊆ text := by
  rw [(wholeLiteral?_eq_some_iff.mp whole).2]
  exact List.subset_cons_of_subset _ (List.subset_append_left _ _)

/-- Decoding adds no characters but those that pairs mean. -/
theorem mem_of_mem_unescape {char : Char} (notMeant : ∀ letter, escapeMeaning? letter ≠ some char)
    {text : Text} (member : char ∈ unescape text) : char ∈ text := by
  induction text using unescape.induct with
  | case1 | case2 => exact member
  | case3 second text meaning means inductionHypothesis =>
    rw [unescape_pair means] at member
    obtain rfl | further := List.mem_cons.mp member
    · exact absurd means (notMeant second)
    · exact List.mem_cons_of_mem _ (List.mem_cons_of_mem _ (inductionHypothesis further))
  | case4 second text means inductionHypothesis =>
    rw [unescape, if_pos rfl, means] at member
    obtain rfl | member := List.mem_cons.mp member
    · exact List.mem_cons_self
    refine List.mem_cons_of_mem _ ?_
    obtain rfl | further := List.mem_cons.mp member
    · exact List.mem_cons_self
    · exact List.mem_cons_of_mem _ (inductionHypothesis further)
  | case5 first second text notBackslash inductionHypothesis =>
    rw [unescape_cons notBackslash] at member
    obtain rfl | further := List.mem_cons.mp member
    · exact List.mem_cons_self
    · exact List.mem_cons_of_mem _ (inductionHypothesis further)

/-- A pair means one character or stands for itself, so that decoding lengthens nothing. -/
theorem length_unescape_le (text : Text) : (unescape text).length ≤ text.length := by
  induction text using unescape.induct with
  | case1 | case2 => exact Nat.le_refl _
  | case3 second text meaning means inductionHypothesis =>
    rw [unescape_pair means]
    exact Nat.le_succ_of_le (Nat.succ_le_succ inductionHypothesis)
  | case4 second text means inductionHypothesis =>
    rw [unescape, if_pos rfl, means]
    exact Nat.succ_le_succ (Nat.succ_le_succ inductionHypothesis)
  | case5 first second text notBackslash inductionHypothesis =>
    rw [unescape_cons notBackslash]
    exact Nat.succ_le_succ inductionHypothesis

end BrowserPlan.Java
