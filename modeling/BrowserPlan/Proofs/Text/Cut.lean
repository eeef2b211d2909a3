/-
This file proves what is found first in a text and where the text is cut, if a reader is known
to fail in the front part of it.

What is found or cut off is moved past a part of the text in which the reader fails at every
position. A reader that needs a fixed opening fails in every part that the opening is apart from:
it neither occurs there nor can it start there and go on in what follows.
-/

import BrowserPlan.Proofs.Text.Blank
import BrowserPlan.Text.Search
import Mathlib.Data.List.Infix

namespace BrowserPlan.Text

variable {Value : Type}

/-! ### Readers that fail in the front part of a text -/

/-- The reader fails at every position in the front part of a text. -/
def Misses (read : Text → Option Value) : (front rest : Text) → Prop
  | [], _ => True
  | char :: front, rest => read (char :: (front ++ rest)) = none ∧ Misses read front rest

theorem Misses.append {read : Text → Option Value} {front back rest : Text}
    (first : Misses read front (back ++ rest)) (second : Misses read back rest) :
    Misses read (front ++ back) rest := by
  induction front with
  | nil => exact second
  | cons char front inductionHypothesis =>
    refine ⟨?_, inductionHypothesis first.2⟩
    show read (char :: (front ++ back ++ rest)) = none
    rw [List.append_assoc]
    exact first.1

/-- A front in which nothing is read does not matter to what is found first. -/
theorem findFirst_append {read : Text → Option Value} {front rest : Text}
    (misses : Misses read front rest) : findFirst read (front ++ rest) = findFirst read rest := by
  induction front with
  | nil => rfl
  | cons char front inductionHypothesis =>
    rw [List.cons_append, findFirst, misses.1, Option.none_or, inductionHypothesis misses.2]

theorem findFirst_of_read {read : Text → Option Value} {text : Text} {value : Value}
    (found : read text = some value) : findFirst read text = some value := by
  cases text with
  | nil => exact found
  | cons char text => rw [findFirst, found, Option.some_or]

/-- Nothing is found just if nothing is read at any end of the text. -/
theorem findFirst_eq_none_iff {read : Text → Option Value} {text : Text} :
    findFirst read text = none ↔ ∀ part, part <:+ text → read part = none := by
  induction text with
  | nil =>
    refine ⟨fun nothing part behind => ?_, fun nothing => nothing [] List.suffix_rfl⟩
    rwa [List.suffix_nil.mp behind]
  | cons char text inductionHypothesis =>
    rw [findFirst, Option.or_eq_none_iff, inductionHypothesis]
    constructor
    · rintro ⟨here, later⟩ part behind
      obtain rfl | further := List.suffix_cons_iff.mp behind
      · exact here
      · exact later part further
    · intro nothing
      exact ⟨nothing _ List.suffix_rfl,
        fun part behind => nothing part (behind.trans (List.suffix_cons char text))⟩

theorem upTo_of_read {stop : Text → Option Value} {text : Text} {value : Value}
    (found : stop text = some value) : upTo stop text = some ([], value) := by
  cases text with
  | nil => rw [upTo, found, Option.map_some]
  | cons char text => rw [upTo, found]

theorem upTo_append {stop : Text → Option Value} {front rest passed : Text} {value : Value}
    (misses : Misses stop front rest) (found : upTo stop rest = some (passed, value)) :
    upTo stop (front ++ rest) = some (front ++ passed, value) := by
  induction front with
  | nil => exact found
  | cons char front inductionHypothesis =>
    rw [List.cons_append, upTo, misses.1, inductionHypothesis misses.2]
    rfl

/-! ### Pieces -/

theorem cutBefore_append {read : Text → Option Value} {front rest piece : Text}
    {pieces : List Text} (misses : Misses read front rest)
    (cut : cutBefore (fun text => (read text).isSome) rest = piece :: pieces) :
    cutBefore (fun text => (read text).isSome) (front ++ rest) = (front ++ piece) :: pieces := by
  induction front with
  | nil => exact cut
  | cons char front inductionHypothesis =>
    rw [List.cons_append, cutBefore, misses.1, inductionHypothesis misses.2]
    rfl

theorem cutAround_append {separator : Text → Option Text} {front rest piece : Text}
    {pieces : List Text} (misses : Misses separator front rest)
    (cut : cutAround separator rest = piece :: pieces) :
    cutAround separator (front ++ rest) = (front ++ piece) :: pieces := by
  induction front with
  | nil => exact cut
  | cons char front inductionHypothesis =>
    have further := inductionHypothesis misses.2
    rw [cutAround] at further ⊢
    rw [List.cons_append, cutAroundFrom, misses.1, further]
    rfl

theorem cutAroundFrom_length (separator : Text → Option Text) (front rest : Text) :
    cutAroundFrom separator front.length (front ++ rest) = cutAround separator rest := by
  induction front with
  | nil => rfl
  | cons char front inductionHypothesis => exact inductionHypothesis

/-- A separator at the beginning cuts off an empty piece. -/
theorem cutAround_of_read {separator : Text → Option Text} {passed rest : Text}
    (notEmpty : passed ≠ []) (found : separator (passed ++ rest) = some rest) :
    cutAround separator (passed ++ rest) = [] :: cutAround separator rest := by
  obtain ⟨char, passed, rfl⟩ := List.exists_cons_of_ne_nil notEmpty
  have skipped : (passed ++ rest).length - rest.length = passed.length := by
    rw [List.length_append, Nat.add_sub_cancel]
  rw [List.cons_append] at found ⊢
  rw [cutAround, cutAroundFrom, found]
  show [] :: cutAroundFrom separator ((passed ++ rest).length - rest.length) (passed ++ rest) = _
  rw [skipped, cutAroundFrom_length]

/-! ### Parts that do not start in a text -/

/-- Whether no occurrence of the part starts in the text, whatever follows the text. -/
def isApart (part : Text) : Text → Bool
  | [] => true
  | char :: text =>
      !opensWith part (char :: text) && !opensWith (char :: text) part && isApart part text

theorem isApart_cons {part text : Text} {char : Char} :
    isApart part (char :: text) = true ↔
      ¬ part <+: char :: text ∧ ¬ char :: text <+: part ∧ isApart part text = true := by
  simp only [isApart, Bool.and_eq_true, Bool.not_eq_true', ← Bool.not_eq_true, opensWith_iff,
    and_assoc]

theorem not_prefix_append_of_isApart {part text : Text} {char : Char}
    (apart : isApart part (char :: text) = true) (rest : Text) :
    ¬ part <+: char :: (text ++ rest) := by
  obtain ⟨notHere, notLonger, _⟩ := isApart_cons.mp apart
  intro starts
  exact (List.prefix_or_prefix_of_prefix starts
    (List.prefix_append (char :: text) rest)).elim notHere notLonger

/-- A part that neither is in two texts nor runs out of them is not where they meet. -/
theorem isApart_append {part front back : Text} (apartFront : isApart part front = true)
    (apartBack : isApart part back = true) : isApart part (front ++ back) = true := by
  induction front with
  | nil => exact apartBack
  | cons char front inductionHypothesis =>
    obtain ⟨_, notLonger, further⟩ := isApart_cons.mp apartFront
    refine isApart_cons.mpr ⟨not_prefix_append_of_isApart apartFront back, fun longer => ?_,
      inductionHypothesis further⟩
    exact notLonger ((List.prefix_append (char :: front) back).trans longer)

/-- What has to begin with a part is not read in a text apart from it. -/
theorem misses_of_isApart {part : Text} {read : Text → Option Value}
    (starts : ∀ text, ¬ part <+: text → read text = none) {front : Text}
    (apart : isApart part front = true) (rest : Text) : Misses read front rest := by
  induction front with
  | nil => trivial
  | cons char front inductionHypothesis =>
    exact ⟨starts _ (not_prefix_append_of_isApart apart rest),
      inductionHypothesis (isApart_cons.mp apart).2.2⟩

theorem isApart_of_head_not_mem {head : Char} {text : Text} (missing : head ∉ text)
    (part : Text) : isApart (head :: part) text = true := by
  induction text with
  | nil => rfl
  | cons char text inductionHypothesis =>
    have other : head ≠ char := List.ne_of_not_mem_cons missing
    refine isApart_cons.mpr ⟨fun starts => ?_, fun longer => ?_,
      inductionHypothesis (List.not_mem_of_not_mem_cons missing)⟩
    · exact other (List.cons_prefix_cons.mp starts).1
    · exact other (List.cons_prefix_cons.mp longer).1.symm

/-- A part does not run on over a character that it does not hold. -/
theorem prefix_of_prefix_append_cons {part front rest : Text} {stop : Char} (noStop : stop ∉ part)
    (starts : part <+: front ++ stop :: rest) : part <+: front := by
  induction front generalizing part with
  | nil =>
    cases part with
    | nil => exact List.nil_prefix
    | cons char part =>
      obtain ⟨rfl, _⟩ := List.cons_prefix_cons.mp starts
      exact absurd List.mem_cons_self noStop
  | cons first front inductionHypothesis =>
    cases part with
    | nil => exact List.nil_prefix
    | cons char part =>
      obtain ⟨rfl, further⟩ := List.cons_prefix_cons.mp starts
      exact List.cons_prefix_cons.mpr
        ⟨rfl, inductionHypothesis (List.not_mem_of_not_mem_cons noStop) further⟩

/-- A part that a text does not hold does not start in it if it cannot run on. -/
theorem isApart_concat {part text : Text} {stop : Char} (notHeld : ¬ part <:+: text)
    (noStop : stop ∉ part) : isApart part (text ++ [stop]) = true := by
  induction text with
  | nil =>
    refine isApart_cons.mpr ⟨fun starts => ?_, fun longer => ?_, rfl⟩
    · exact notHeld (prefix_of_prefix_append_cons noStop starts).isInfix
    · exact noStop (longer.subset List.mem_cons_self)
  | cons char text inductionHypothesis =>
    refine isApart_cons.mpr ⟨fun starts => ?_, fun longer => ?_, inductionHypothesis fun held => ?_⟩
    · exact notHeld (prefix_of_prefix_append_cons noStop starts).isInfix
    · exact noStop (longer.subset (List.mem_append_right (char :: text) List.mem_cons_self))
    · exact notHeld (held.trans (List.suffix_cons char text).isInfix)

/-- A part cannot run over a character that is not in it. -/
theorem isApart_append_stop {part front rest : Text} {stop : Char} (notHeld : ¬ part <:+: front)
    (noStop : stop ∉ part) (apart : isApart part (stop :: rest) = true) :
    isApart part (front ++ stop :: rest) = true := by
  rw [List.append_cons]
  exact isApart_append (isApart_concat notHeld noStop) (isApart_cons.mp apart).2.2

theorem not_infix_append {part front rest : Text} (apart : isApart part front = true)
    (notHeld : ¬ part <:+: rest) : ¬ part <:+: front ++ rest := by
  induction front with
  | nil => exact notHeld
  | cons char front inductionHypothesis =>
    intro held
    obtain starts | further := List.infix_cons_iff.mp held
    · exact not_prefix_append_of_isApart apart rest starts
    · exact inductionHypothesis (isApart_cons.mp apart).2.2 further

theorem not_infix_of_isApart {part text : Text} (apart : isApart part text = true)
    (notEmpty : part ≠ []) : ¬ part <:+: text := by
  rw [← List.append_nil text]
  exact not_infix_append apart fun held => notEmpty (List.infix_nil.mp held)

/-! ### From blanks to the next line that opens as given -/

theorem afterBlanks_some (text : Text) : afterBlanks some text = some (dropBlanks text) := by
  induction text with
  | nil => rfl
  | cons char text inductionHypothesis =>
    rw [afterBlanks]
    split_ifs with blank
    · rw [inductionHypothesis, Option.some_or, dropBlanks_cons_of_isBlank blank]
    · rw [dropBlanks_cons (Bool.eq_false_iff.mpr blank)]

theorem after?_eq_none {opening text : Text} (other : ¬ opening <+: text) :
    after? opening text = none := by
  rw [← opensWith_iff, opensWith] at other
  simpa using other

theorem upTo_eq_none {part text : Text} (notHeld : ¬ part <:+: text) :
    upTo (after? part) text = none := by
  induction text with
  | nil => rw [upTo, after?_eq_none fun starts => notHeld starts.isInfix, Option.map_none]
  | cons char text inductionHypothesis =>
    rw [upTo, after?_eq_none fun starts => notHeld starts.isInfix,
      inductionHypothesis fun held => notHeld (held.trans (List.suffix_cons char text).isInfix)]
    rfl

/-- A line that opens as given is only found where it stands. -/
theorem upTo_line {next content : Text} (notHeld : ¬ next <:+: content) (noNewline : '\n' ∉ next)
    (more : Text) :
    upTo (after? ('\n' :: next)) (content ++ '\n' :: (next ++ more)) = some (content, more) := by
  have found : upTo (after? ('\n' :: next)) ('\n' :: (next ++ more)) = some ([], more) :=
    upTo_of_read (after?_eq_some_iff.mpr rfl)
  have misses : Misses (after? ('\n' :: next)) content ('\n' :: (next ++ more)) := by
    clear found
    induction content with
    | nil => trivial
    | cons char content inductionHypothesis =>
      have later : ¬ next <:+: content := fun held =>
        notHeld (held.trans (List.suffix_cons char content).isInfix)
      refine ⟨after?_eq_none fun starts => later ?_, inductionHypothesis later⟩
      exact (prefix_of_prefix_append_cons noNewline (List.cons_prefix_cons.mp starts).2).isInfix
  rw [upTo_append misses found, List.append_nil]

/-- What is read behind blanks up to a line that opens as given is, trimmed, all that stands
before that line. If that is nothing but blanks, the newline is first taken for one of them, and it
is given back only if no such line follows later. -/
theorem afterBlanks_upTo {next : Text} {first : Char} (opening : next.head? = some first)
    (notBlank : isBlank first = false) (noNewline : '\n' ∉ next) {content more : Text}
    (notHeld : ¬ next <:+: content) (notLater : isAllBlank content = true → ¬ next <:+: more) :
    ∃ passed, afterBlanks (fun text => (upTo (after? ('\n' :: next)) text).map Prod.fst)
      (content ++ '\n' :: (next ++ more)) = some passed ∧ trim passed = trim content := by
  induction content with
  | nil =>
    have nothing : upTo (after? ('\n' :: next)) (next ++ more) = none :=
      upTo_eq_none (not_infix_append (isApart_of_head_not_mem noNewline next) fun held =>
        notLater rfl ((List.suffix_cons '\n' next).isInfix.trans held))
    have here := upTo_line notHeld noNewline more
    obtain ⟨rest, rfl⟩ := List.head?_eq_some_iff.mp opening
    rw [List.cons_append] at nothing
    refine ⟨[], ?_, rfl⟩
    rw [List.nil_append, afterBlanks, if_pos (by decide), List.cons_append, afterBlanks,
      if_neg (Bool.eq_false_iff.mp notBlank), nothing, Option.map_none, Option.none_or]
    exact congrArg (Option.map Prod.fst) here
  | cons char content inductionHypothesis =>
    by_cases blank : isBlank char = true
    · have later : ¬ next <:+: content := fun held =>
        notHeld (held.trans (List.suffix_cons char content).isInfix)
      obtain ⟨passed, read, same⟩ := inductionHypothesis later fun allBlank =>
        notLater (by rw [isAllBlank, List.all_cons, blank, ← isAllBlank, allBlank]; rfl)
      refine ⟨passed, ?_, by rw [same, trim_cons_of_isBlank blank]⟩
      rw [List.cons_append, afterBlanks, if_pos blank, read, Option.some_or]
    · refine ⟨char :: content, ?_, rfl⟩
      rw [List.cons_append, afterBlanks, if_neg blank, ← List.cons_append,
        upTo_line notHeld noNewline more]
      rfl

end BrowserPlan.Text
