/-
This file proves what is read of a string that was printed in ASCII.

A half of a pair is printed as its unit, and reading joins an upper half with a lower one that
stands behind it. So a printed string is read as the text in which all such halves are joined, and
as the text itself if there are none of them.
-/

import BrowserPlan.Json.Parser
import BrowserPlan.Json.Printer
import BrowserPlan.Proofs.Text.Half

namespace BrowserPlan.Json

open Text (hexUnit ofUnit half? IsUpper IsLower ofPair joined? joinHalves)

/-! ### How a character is printed -/

/-- The ways in which a character is written so that it is read again. -/
inductive IsWritten : Char → Text → Prop
  | plain {char : Char} (notQuote : char ≠ '"') (notBackslash : char ≠ '\\')
      (notControl : ¬ char.toNat < 32) : IsWritten char [char]
  | sign {sign char : Char} (means : shortEscapeValue? sign = some char) :
      IsWritten char ['\\', sign]
  | unit {unit : Nat} (short : unit < 0x10000) : IsWritten (ofUnit unit) (escapeUnit unit)
  | pair {upper lower : Nat} (isUpper : IsUpper upper) (isLower : IsLower lower) :
      IsWritten (ofPair upper lower) (escapeUnit upper ++ escapeUnit lower)

/-- A short escape means the character it was written for. -/
theorem shortEscape?_eq_some {char : Char} {written : Text}
    (short : shortEscape? char = some written) :
    ∃ sign, written = ['\\', sign] ∧ shortEscapeValue? sign = some char := by
  have equal_ofNat (code : Nat) (equal : char.toNat = code) : Char.ofNat code = char := by
    rw [← equal, Char.ofNat_toNat]
  unfold shortEscape? at short
  split_ifs at short with quote backslash newline carriage tab back feed <;> cases short
  · exact ⟨'"', rfl, congrArg some quote.symm⟩
  · exact ⟨'\\', rfl, congrArg some backslash.symm⟩
  · exact ⟨'n', rfl, congrArg some newline.symm⟩
  · exact ⟨'r', rfl, congrArg some carriage.symm⟩
  · exact ⟨'t', rfl, congrArg some tab.symm⟩
  · exact ⟨'b', rfl, congrArg some (equal_ofNat 8 back)⟩
  · exact ⟨'f', rfl, congrArg some (equal_ofNat 12 feed)⟩

theorem toNat_lt_of_shortEscapeValue? {sign char : Char}
    (means : shortEscapeValue? sign = some char) : char.toNat < 128 := by
  unfold shortEscapeValue? at means
  split at means <;> cases means <;> decide

/-- No half has an escape of its own. -/
theorem shortEscape?_of_half {char : Char} {unit : Nat} (half : half? char = some unit) :
    shortEscape? char = none := by
  cases short : shortEscape? char with
  | none => rfl
  | some written =>
    obtain ⟨sign, _, means⟩ := shortEscape?_eq_some short
    have below := toNat_lt_of_shortEscapeValue? means
    rw [(Text.half?_eq_some_iff.mp half).2, Text.halfDistance] at below
    omega

theorem printAsciiChar_of_half {char : Char} {unit : Nat} (half : half? char = some unit) :
    printAsciiChar char = escapeUnit unit := by
  have bounds := Text.isHalf_iff.mp (Text.half?_eq_some_iff.mp half).1
  have notPrintable : ¬ (32 ≤ unit && unit < 127) = true := by
    rw [Bool.and_eq_true, decide_eq_true_eq, decide_eq_true_eq]
    omega
  have short : unit < 0x10000 := by
    omega
  unfold printAsciiChar
  rw [shortEscape?_of_half half, half, Option.getD_some, if_neg notPrintable, if_pos short]

/-- A character of more than one unit is written as the pair that spells it. -/
theorem isWritten_long {char : Char} (long : 0x10000 ≤ char.toNat) :
    IsWritten char (escapeUnit (0xd800 + (char.toNat - 0x10000) / 0x400) ++
      escapeUnit (0xdc00 + (char.toNat - 0x10000) % 0x400)) := by
  have valid : char.toNat.isValidChar := char.valid
  unfold Nat.isValidChar at valid
  have isUpper : IsUpper (0xd800 + (char.toNat - 0x10000) / 0x400) := by
    constructor <;> omega
  have isLower : IsLower (0xdc00 + (char.toNat - 0x10000) % 0x400) := by
    constructor <;> omega
  have spelled : ofPair (0xd800 + (char.toNat - 0x10000) / 0x400)
      (0xdc00 + (char.toNat - 0x10000) % 0x400) = char := by
    rw [ofPair, Nat.add_sub_cancel_left, Nat.add_sub_cancel_left, Nat.add_assoc,
      Nat.div_add_mod', Nat.add_sub_cancel' long, Char.ofNat_toNat]
  have written := IsWritten.pair isUpper isLower
  rwa [spelled] at written

theorem isWritten_printAsciiChar (char : Char) : IsWritten char (printAsciiChar char) := by
  cases half : half? char with
  | some unit =>
    have bounds := Text.isHalf_iff.mp (Text.half?_eq_some_iff.mp half).1
    rw [printAsciiChar_of_half half, ← Text.ofUnit_of_half? half]
    exact .unit (by omega)
  | none =>
    unfold printAsciiChar
    cases short : shortEscape? char with
    | some written =>
      obtain ⟨sign, rfl, means⟩ := shortEscape?_eq_some short
      exact .sign means
    | none =>
      simp only [half, Option.getD_none]
      split_ifs with printable oneUnit
      · rw [Bool.and_eq_true, decide_eq_true_eq, decide_eq_true_eq] at printable
        refine .plain ?_ ?_ (Nat.not_lt.mpr printable.1)
        · rintro rfl
          cases short
        · rintro rfl
          cases short
      · have written := @IsWritten.unit char.toNat oneUnit
        rwa [Text.ofUnit_toNat] at written
      · exact isWritten_long (Nat.not_lt.mp oneUnit)

/-! ### Reading a unit -/

theorem hexValue?_digitChar : ∀ digit < 16, hexValue? (Nat.digitChar digit) = some digit := by
  decide

theorem unit?_hexUnit {unit : Nat} (short : unit < 0x10000) (rest : Text) :
    unit? (hexUnit unit ++ rest) = some unit := by
  have digits : (hexUnit unit).mapM hexValue? =
      some [unit / 4096 % 16, unit / 256 % 16, unit / 16 % 16, unit % 16] := by
    simp [hexUnit, hexValue?_digitChar, Nat.mod_lt]
  have value : ((unit / 4096 % 16 * 16 + unit / 256 % 16) * 16 + unit / 16 % 16) * 16 + unit % 16 =
      unit := by
    omega
  have taken : (hexUnit unit ++ rest).take 4 = hexUnit unit := rfl
  rw [unit?, taken, digits]
  exact congrArg some value

theorem le_length_hexUnit_append (unit : Nat) {rest : Text} (notEmpty : rest ≠ []) :
    5 ≤ (hexUnit unit ++ rest).length := by
  rw [List.length_append]
  exact Nat.add_le_add_left (List.length_pos_of_ne_nil notEmpty) 4

/-- Whether no lower half is written as a unit at the start of a text. -/
def OpensNoLower (text : Text) : Prop :=
  ∀ behind, text = '\\' :: 'u' :: behind →
    ∃ unit rest, behind = hexUnit unit ++ rest ∧ unit < 0x10000 ∧ ¬ IsLower unit

/-- A unit is read on its own, unless it is an upper half before a lower one. -/
theorem readEscape_unit {unit : Nat} {rest : Text} (short : unit < 0x10000)
    (notEmpty : rest ≠ []) (apart : IsUpper unit → OpensNoLower rest) (start position : Nat) :
    readEscape start position ('u' :: (hexUnit unit ++ rest)) = .ok (ofUnit unit, 5) := by
  have behind : (hexUnit unit ++ rest).drop 4 = rest := rfl
  rw [readEscape, if_neg (Nat.not_lt.mpr (le_length_hexUnit_append unit notEmpty)),
    unit?_hexUnit short, behind]
  dsimp only
  split
  · rename_i second
    split_ifs with upper
    · simp only [Bool.and_eq_true, decide_eq_true_eq] at upper
      obtain ⟨low, further, rfl, shortLow, notLower⟩ := apart ⟨upper.1.1, upper.1.2⟩ second rfl
      rw [unit?_hexUnit shortLow]
      refine if_neg fun lower => notLower ?_
      simp only [Bool.and_eq_true, decide_eq_true_eq] at lower
      exact ⟨lower.1, lower.2⟩
    · rfl
  · rfl

/-- Two escapes that make a pair are read as one character. -/
theorem readEscape_pair {upper lower : Nat} {rest : Text} (isUpper : IsUpper upper)
    (isLower : IsLower lower) (notEmpty : rest ≠ []) (start position : Nat) :
    readEscape start position ('u' :: (hexUnit upper ++ '\\' :: 'u' :: (hexUnit lower ++ rest))) =
      .ok (ofPair upper lower, 11) := by
  obtain ⟨least, most⟩ := isUpper
  obtain ⟨leastLower, mostLower⟩ := isLower
  have behind : (hexUnit upper ++ '\\' :: 'u' :: (hexUnit lower ++ rest)).drop 4 =
      '\\' :: 'u' :: (hexUnit lower ++ rest) := rfl
  have isFirst : (0xd800 ≤ upper && upper < 0xdc00 &&
      5 ≤ (hexUnit lower ++ rest).length) = true := by
    have long := le_length_hexUnit_append lower notEmpty
    simp only [Bool.and_eq_true, decide_eq_true_eq]
    exact ⟨⟨least, most⟩, long⟩
  rw [readEscape, if_neg (Nat.not_lt.mpr (le_length_hexUnit_append upper (List.cons_ne_nil _ _))),
    unit?_hexUnit (by omega), behind]
  refine (if_pos isFirst).trans ?_
  rw [unit?_hexUnit (by omega)]
  exact if_pos (by simp [leastLower, mostLower])

/-! ### Reading a string -/

/-- Whether a string that goes on with what is written is read as the character and what comes
behind it. -/
def ReadsAs (start : Nat) (char : Char) (written rest : Text) : Prop :=
  ∀ position, ∃ behind, readString start 0 position (written ++ rest) =
    (readString start 0 behind rest).map fun (chars, found) => (char :: chars, found)

theorem readString_skip (start position : Nat) (front rest : Text) :
    readString start front.length position (front ++ rest) =
      readString start 0 (position + front.length) rest := by
  induction front generalizing position with
  | nil => rfl
  | cons char front inductionHypothesis =>
    rw [List.cons_append, List.length_cons, readString, inductionHypothesis, Nat.add_assoc,
      Nat.add_comm 1]

theorem readsAs_escape {start : Nat} {escape rest : Text} {char : Char}
    (read : ∀ position,
      readEscape start position (escape ++ rest) = .ok (char, escape.length)) :
    ReadsAs start char ('\\' :: escape) rest := by
  intro position
  refine ⟨position + 1 + escape.length, ?_⟩
  rw [List.cons_append, readString, if_neg (by decide), if_pos rfl, read]
  simp only [readString_skip]

theorem readsAs_pair {upper lower : Nat} {rest : Text} (isUpper : IsUpper upper)
    (isLower : IsLower lower) (notEmpty : rest ≠ []) (start : Nat) :
    ReadsAs start (ofPair upper lower) (escapeUnit upper ++ escapeUnit lower) rest :=
  @readsAs_escape start ('u' :: (hexUnit upper ++ '\\' :: 'u' :: hexUnit lower)) rest _
    (readEscape_pair isUpper isLower notEmpty start)

/-- A written character is read back, unless it is an upper half and a lower one follows. -/
theorem IsWritten.readsAs {char : Char} {written rest : Text} (isWritten : IsWritten char written)
    (notEmpty : rest ≠ [])
    (apart : ∀ unit, half? char = some unit → IsUpper unit → OpensNoLower rest) (start : Nat) :
    ReadsAs start char written rest := by
  cases isWritten with
  | plain notQuote notBackslash notControl =>
    intro position
    refine ⟨position + 1, ?_⟩
    rw [List.singleton_append, readString, if_neg notQuote, if_neg notBackslash, if_neg notControl]
  | @sign sign _ means =>
    refine @readsAs_escape start [sign] rest char fun position => ?_
    have notUnit : sign ≠ 'u' := by
      rintro rfl
      cases means
    show readEscape start position (sign :: rest) = _
    rw [readEscape, means]
    · rfl
    · exact notUnit
  | @unit unit short =>
    exact @readsAs_escape start ('u' :: hexUnit unit) rest _
      (readEscape_unit short notEmpty
        (fun isUpper => apart unit (Text.half?_ofUnit isUpper.isHalf) isUpper) start)
  | pair isUpper isLower => exact readsAs_pair isUpper isLower notEmpty start

theorem opensNoLower_quote (rest : Text) : OpensNoLower ('"' :: rest) := by
  intro behind equal
  cases equal

theorem IsWritten.opensNoLower {char : Char} {written : Text} (isWritten : IsWritten char written)
    (notLower : ∀ unit, half? char = some unit → ¬ IsLower unit) (rest : Text) :
    OpensNoLower (written ++ rest) := by
  intro behind equal
  cases isWritten with
  | plain _ notBackslash _ => exact absurd (List.cons.inj equal).1 notBackslash
  | sign means =>
    cases equal
    cases means
  | @unit unit short =>
    cases equal
    exact ⟨unit, rest, rfl, short, fun isLower =>
      notLower unit (Text.half?_ofUnit isLower.isHalf) isLower⟩
  | @pair upper lower isUpper isLower =>
    cases equal
    exact ⟨upper, escapeUnit lower ++ rest, rfl, Nat.lt_trans isUpper.most (by omega),
      isUpper.not_isLower⟩

/-- A printed string is read up to its quote, with the halves of pairs joined. -/
theorem readString_printAscii (text rest : Text) (start position : Nat) :
    ∃ behind, readString start 0 position (text.flatMap printAsciiChar ++ '"' :: rest) =
      .ok (joinHalves text, behind, rest) := by
  induction text using Text.joinNeighbours.induct joined? generalizing position with
  | case1 => exact ⟨position + 1, rfl⟩
  | case2 char =>
    obtain ⟨behind, read⟩ := (isWritten_printAsciiChar char).readsAs (List.cons_ne_nil '"' rest)
      (fun _ _ _ => opensNoLower_quote rest) start position
    refine ⟨behind + 1, ?_⟩
    rw [List.flatMap_singleton, read, readString]
    rfl
  | case3 first second text char joined inductionHypothesis =>
    obtain ⟨upper, lower, isFirst, isSecond, isUpper, isLower, equal⟩ := Text.joined?_eq_some joined
    have notEmpty : text.flatMap printAsciiChar ++ '"' :: rest ≠ [] := by
      simp
    obtain ⟨behind, read⟩ := readsAs_pair isUpper isLower notEmpty start position
    obtain ⟨last, further⟩ := inductionHypothesis behind
    have written : (first :: second :: text).flatMap printAsciiChar ++ '"' :: rest =
        escapeUnit upper ++ escapeUnit lower ++ (text.flatMap printAsciiChar ++ '"' :: rest) := by
      rw [List.flatMap_cons, List.flatMap_cons, printAsciiChar_of_half isFirst,
        printAsciiChar_of_half isSecond, List.append_assoc, List.append_assoc, List.append_assoc]
    refine ⟨last, ?_⟩
    rw [written, read, further, Text.joinHalves_of_some joined, equal]
    rfl
  | case4 first second text apart inductionHypothesis =>
    have notEmpty : (second :: text).flatMap printAsciiChar ++ '"' :: rest ≠ [] := by
      simp
    -- The two are no pair, so an upper half that stands here is not joined with what follows.
    have parted (upper : Nat) (isFirst : half? first = some upper) (isUpper : IsUpper upper) :
        OpensNoLower ((second :: text).flatMap printAsciiChar ++ '"' :: rest) := by
      rw [List.flatMap_cons, List.append_assoc]
      exact (isWritten_printAsciiChar second).opensNoLower
        (fun lower isSecond => Text.not_isLower_of_apart apart isFirst isUpper isSecond) _
    obtain ⟨behind, read⟩ :=
      (isWritten_printAsciiChar first).readsAs notEmpty parted start position
    obtain ⟨last, further⟩ := inductionHypothesis behind
    refine ⟨last, ?_⟩
    rw [List.flatMap_cons, List.append_assoc, read, further, Text.joinHalves_of_none apart]
    rfl

/-- A printed string is read back, with its pairs of halves joined. -/
theorem readValue_printAsciiString (fuel depth : Nat) (text : Text) :
    ∃ behind, readValue (fuel + 1) depth 0 (printAsciiString text) =
      .ok (.string (joinHalves text), behind, []) := by
  obtain ⟨behind, read⟩ := readString_printAscii text [] 0 1
  refine ⟨behind, ?_⟩
  rw [printAsciiString, List.cons_append, readValue, read]
  rfl

/-- A printed string is read as its text with the halves of pairs joined. -/
theorem parse_printAsciiString (text : Text) :
    parse (printAsciiString text) = .ok (.string (joinHalves text)) := by
  obtain ⟨behind, value⟩ :=
    readValue_printAsciiString (2 * (printAsciiString text).length + 1) depthLimit text
  have opens : skipSpaces 0 (printAsciiString text) = (0, printAsciiString text) := rfl
  have plain : parsePlain (printAsciiString text) = .ok (.string (joinHalves text)) := by
    rw [parsePlain, opens]
    dsimp only
    rw [value]
    rfl
  exact plain

/-- So it is read as the text itself exactly if no halves are to be joined in it. -/
theorem parse_printAsciiString_eq_iff (text : Text) :
    parse (printAsciiString text) = .ok (.string text) ↔ joinHalves text = text := by
  rw [parse_printAsciiString, Except.ok.injEq, Json.string.injEq]

end BrowserPlan.Json
