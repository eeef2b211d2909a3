/-
This file proves what halves of UTF-16 pairs are to a text.

A half is a unit and has a character that stands for it. Where an upper half stands before a lower
one the two can be joined, and it makes no difference to that what stands around a text, as long as
no other halves do.
-/

import BrowserPlan.Text.Half
import Mathlib.Data.List.Basic

namespace BrowserPlan.Text

/-! ### Halves and units -/

theorem isHalf_iff {unit : Nat} : isHalf unit = true ↔ 0xd800 ≤ unit ∧ unit < 0xe000 := by
  rw [isHalf, Bool.and_eq_true, decide_eq_true_eq, decide_eq_true_eq]

/-- A character stands for the half that lies the fixed distance below it. -/
theorem half?_eq_some_iff {char : Char} {unit : Nat} :
    half? char = some unit ↔ isHalf unit = true ∧ char.toNat = unit + halfDistance := by
  unfold half?
  split_ifs with half
  · rw [Bool.and_eq_true, decide_eq_true_eq] at half
    rw [Option.some_inj]
    constructor
    · rintro rfl
      exact ⟨half.1, (Nat.sub_add_cancel half.2).symm⟩
    · rintro ⟨_, equal⟩
      rw [equal, Nat.add_sub_cancel]
  · refine iff_of_false (by simp) ?_
    rintro ⟨isHalf, equal⟩
    rw [equal, Nat.add_sub_cancel, isHalf, Bool.true_and, decide_eq_true_eq] at half
    exact half (Nat.le_add_left _ _)

theorem toNat_ofHalf {unit : Nat} (half : isHalf unit = true) :
    (ofHalf unit).toNat = unit + halfDistance := by
  have bounds := isHalf_iff.mp half
  have valid : (unit + halfDistance).isValidChar := by
    unfold halfDistance
    exact Or.inr (by omega)
  rw [ofHalf, Char.ofNat, dif_pos valid]
  rfl

theorem half?_ofUnit {unit : Nat} (half : isHalf unit = true) :
    half? (ofUnit unit) = some unit := by
  rw [ofUnit, if_pos half]
  exact half?_eq_some_iff.mpr ⟨half, toNat_ofHalf half⟩

theorem ofUnit_of_half? {char : Char} {unit : Nat} (half : half? char = some unit) :
    ofUnit unit = char := by
  obtain ⟨isHalf, equal⟩ := half?_eq_some_iff.mp half
  rw [ofUnit, if_pos isHalf, ofHalf, ← equal, Char.ofNat_toNat]

/-- The code point of a character is no half. -/
theorem ofUnit_toNat (char : Char) : ofUnit char.toNat = char := by
  have valid : char.toNat.isValidChar := char.valid
  have notHalf : ¬ isHalf char.toNat = true := by
    unfold Nat.isValidChar at valid
    rw [isHalf_iff]
    omega
  rw [ofUnit, if_neg notHalf, Char.ofNat_toNat]

/-- Whether a unit is the upper half of a pair. -/
structure IsUpper (unit : Nat) : Prop where
  least : 0xd800 ≤ unit
  most : unit < 0xdc00

/-- Whether a unit is the lower half of a pair. -/
structure IsLower (unit : Nat) : Prop where
  least : 0xdc00 ≤ unit
  most : unit < 0xe000

theorem IsUpper.isHalf {unit : Nat} (isUpper : IsUpper unit) : Text.isHalf unit = true :=
  isHalf_iff.mpr ⟨isUpper.least, Nat.lt_trans isUpper.most (by omega)⟩

theorem IsLower.isHalf {unit : Nat} (isLower : IsLower unit) : Text.isHalf unit = true :=
  isHalf_iff.mpr ⟨Nat.le_trans (by omega) isLower.least, isLower.most⟩

theorem IsUpper.not_isLower {unit : Nat} (isUpper : IsUpper unit) : ¬ IsLower unit :=
  fun isLower => Nat.not_lt.mpr isLower.least isUpper.most

/-! ### Halves side by side -/

/-- The character that an upper and a lower half spell together. -/
def ofPair (upper lower : Nat) : Char :=
  Char.ofNat (0x10000 + (upper - 0xd800) * 0x400 + (lower - 0xdc00))

/-- The character that two characters spell, if they stand for the halves of a pair. -/
def joined? (first second : Char) : Option Char :=
  if halfDistance + 0xd800 ≤ first.toNat && first.toNat < halfDistance + 0xdc00 &&
      halfDistance + 0xdc00 ≤ second.toNat && second.toNat < halfDistance + 0xe000 then
    some (ofPair (first.toNat - halfDistance) (second.toNat - halfDistance))
  else none

/-- A text in which neighbours are joined, from the left, where they can be. What can be joined is
left open, so that the bounds of the halves are not evaluated whenever this is unfolded. -/
def joinNeighbours (join? : Char → Char → Option Char) : Text → Text
  | [] => []
  | [char] => [char]
  | first :: second :: text =>
      match join? first second with
      | some char => char :: joinNeighbours join? text
      | none => first :: joinNeighbours join? (second :: text)

/-- A text in which the halves of pairs are joined where they stand side by side. -/
def joinHalves : Text → Text :=
  joinNeighbours joined?

theorem joinHalves_of_some {first second char : Char} (joined : joined? first second = some char)
    (text : Text) : joinHalves (first :: second :: text) = char :: joinHalves text := by
  rw [joinHalves, joinNeighbours, joined]

theorem joinHalves_of_none {first second : Char} (apart : joined? first second = none)
    (text : Text) :
    joinHalves (first :: second :: text) = first :: joinHalves (second :: text) := by
  rw [joinHalves, joinNeighbours, apart]

/-- Only an upper and a lower half are joined. -/
theorem joined?_eq_some {first second char : Char} (joined : joined? first second = some char) :
    ∃ upper lower, half? first = some upper ∧ half? second = some lower ∧
      IsUpper upper ∧ IsLower lower ∧ ofPair upper lower = char := by
  unfold joined? at joined
  split_ifs at joined with pair
  simp only [Bool.and_eq_true, decide_eq_true_eq] at pair
  have isUpper : IsUpper (first.toNat - halfDistance) := by
    constructor <;> omega
  have isLower : IsLower (second.toNat - halfDistance) := by
    constructor <;> omega
  refine ⟨_, _, ?_, ?_, isUpper, isLower, Option.some.inj joined⟩
  · exact half?_eq_some_iff.mpr ⟨isUpper.isHalf, by omega⟩
  · exact half?_eq_some_iff.mpr ⟨isLower.isHalf, by omega⟩

theorem not_isLower_of_apart {first second : Char} {upper lower : Nat}
    (apart : joined? first second = none) (isFirst : half? first = some upper)
    (isUpper : IsUpper upper) (isSecond : half? second = some lower) : ¬ IsLower lower := by
  intro isLower
  obtain ⟨least, most⟩ := isUpper
  obtain ⟨leastLower, mostLower⟩ := isLower
  unfold joined? at apart
  rw [(half?_eq_some_iff.mp isFirst).2, (half?_eq_some_iff.mp isSecond).2, if_pos] at apart
  · cases apart
  · simp only [Bool.and_eq_true, decide_eq_true_eq]
    omega

theorem joined?_eq_none {first second : Char}
    (noHalf : half? first = none ∨ half? second = none) : joined? first second = none := by
  refine Option.eq_none_iff_forall_ne_some.mpr fun char joined => ?_
  obtain ⟨upper, lower, isFirst, isSecond, _⟩ := joined?_eq_some joined
  rcases noHalf with noFirst | noSecond
  · cases noFirst.symm.trans isFirst
  · cases noSecond.symm.trans isSecond

/-! ### Texts around a text -/

/-- Whether no character of a text stands for a half. -/
def HoldsNoHalf (text : Text) : Prop :=
  ∀ char ∈ text, half? char = none

theorem holdsNoHalf_of_ascii {text : Text}
    (ascii : (text.all fun char => char.toNat < 128) = true) : HoldsNoHalf text := by
  intro char member
  refine Option.eq_none_iff_forall_ne_some.mpr fun unit half => ?_
  have below : char.toNat < 128 := of_decide_eq_true (List.all_eq_true.mp ascii char member)
  rw [(half?_eq_some_iff.mp half).2, halfDistance] at below
  omega

/-- A front without halves stays as it is. -/
theorem joinHalves_append_left {front : Text} (noHalf : HoldsNoHalf front) (text : Text) :
    joinHalves (front ++ text) = front ++ joinHalves text := by
  induction front with
  | nil => rfl
  | cons char front inductionHypothesis =>
    have further := inductionHypothesis fun other member =>
      noHalf other (List.mem_cons_of_mem _ member)
    rw [List.cons_append, List.cons_append, ← further]
    cases front ++ text with
    | nil => rfl
    | cons second rest =>
      exact joinHalves_of_none (joined?_eq_none (.inl (noHalf char List.mem_cons_self))) rest

theorem HoldsNoHalf.joinHalves_eq {text : Text} (noHalf : HoldsNoHalf text) :
    joinHalves text = text := by
  have joined := joinHalves_append_left noHalf []
  have nothing : joinHalves [] = [] := rfl
  rwa [nothing, List.append_nil] at joined

theorem joinHalves_append_right {back : Text} (noHalf : HoldsNoHalf back) (text : Text) :
    joinHalves (text ++ back) = joinHalves text ++ back := by
  induction text using joinNeighbours.induct joined? with
  | case1 => exact noHalf.joinHalves_eq
  | case2 char =>
    cases back with
    | nil => rfl
    | cons second rest =>
      have apart : joined? char second = none :=
        joined?_eq_none (.inr (noHalf second List.mem_cons_self))
      rw [List.singleton_append, joinHalves_of_none apart, noHalf.joinHalves_eq]
      rfl
  | case3 first second text char joined inductionHypothesis =>
    rw [List.cons_append, List.cons_append, joinHalves_of_some joined, joinHalves_of_some joined,
      inductionHypothesis, List.cons_append]
  | case4 first second text apart inductionHypothesis =>
    rw [List.cons_append, List.cons_append, joinHalves_of_none apart, joinHalves_of_none apart,
      ← List.cons_append, inductionHypothesis, List.cons_append]

end BrowserPlan.Text
