/-
This file proves that the names of the store are safe and stable.

The last thing that is done to the name of a model is to put an underscore in the place of each
forbidden character, and all that was cut off before was found by a colon or a slash. So a name
that was made holds nothing more to cut or to replace, and is its own name. A description is cut at
last, but a part of what is safe is safe.
-/

import BrowserPlan.Store.Name
import Mathlib.Data.List.Basic
import Mathlib.Data.List.TakeWhile

namespace BrowserPlan.Store

/-! ### Forbidden characters -/

theorem isForbidden_permitted (char : Char) : isForbidden (permitted char) = false := by
  rw [permitted]
  split_ifs with forbidden
  · decide
  · exact Bool.eq_false_iff.mpr forbidden

theorem permitted_of_not_forbidden {char : Char} (allowed : isForbidden char = false) :
    permitted char = char :=
  if_neg (Bool.eq_false_iff.mp allowed)

/-- A name without forbidden characters. -/
def IsPermitted (name : Text) : Prop :=
  ∀ char ∈ name, isForbidden char = false

theorem IsPermitted.notMem {name : Text} (isPermitted : IsPermitted name) {char : Char}
    (forbidden : isForbidden char = true) : char ∉ name :=
  fun member => Bool.noConfusion ((isPermitted char member).symm.trans forbidden)

theorem IsPermitted.map_permitted {name : Text} (isPermitted : IsPermitted name) :
    name.map permitted = name := by
  rw [List.map_congr_left fun char member => permitted_of_not_forbidden (isPermitted char member)]
  exact List.map_id name

/-- The name of a model has no forbidden characters. -/
theorem isForbidden_of_mem_modelName {provider : Text} {char : Char}
    (member : char ∈ modelName provider) : isForbidden char = false := by
  obtain ⟨original, _, rfl⟩ := List.mem_map.mp member
  exact isForbidden_permitted original

/-! ### Descriptions -/

/-- A character that may stand in a file name: it is no blank, no control character and not
forbidden. -/
structure IsSafe (char : Char) : Prop where
  notBlank : Text.isBlank char = false
  notControl : 32 ≤ char.toNat
  allowed : isForbidden char = false

theorem isSafe_underscore : IsSafe '_' := by
  constructor <;> decide

/-- A character, or an underscore in place of one that is forbidden or a control character. -/
def printed (char : Char) : Char :=
  if char.toNat < 32 then '_' else permitted char

theorem stemName_eq (description : Text) :
    stemName description = (joinBlanks false (description.map printed)).take stemLimit :=
  rfl

theorem isSafe_printed {char : Char} (notBlank : Text.isBlank (printed char) = false) :
    IsSafe (printed char) := by
  rw [printed] at notBlank ⊢
  split_ifs at notBlank ⊢ with control
  · exact isSafe_underscore
  · refine ⟨notBlank, ?_, isForbidden_permitted char⟩
    rw [permitted]
    split_ifs
    · decide
    · exact Nat.le_of_not_lt control

theorem printed_of_isSafe {char : Char} (isSafe : IsSafe char) : printed char = char := by
  rw [printed, if_neg (Nat.not_lt.mpr isSafe.notControl), permitted_of_not_forbidden isSafe.allowed]

/-- The characters of a joined text are those of the text and underscores for its blanks. -/
theorem mem_joinBlanks {afterBlank : Bool} {text : Text} {char : Char}
    (member : char ∈ joinBlanks afterBlank text) :
    char = '_' ∨ char ∈ text ∧ Text.isBlank char = false := by
  induction text generalizing afterBlank with
  | nil => exact absurd member List.not_mem_nil
  | cons first text inductionHypothesis =>
    have later {after : Bool} (member : char ∈ joinBlanks after text) :
        char = '_' ∨ char ∈ first :: text ∧ Text.isBlank char = false :=
      (inductionHypothesis member).imp_right (And.imp_left (List.mem_cons_of_mem _))
    rw [joinBlanks] at member
    split_ifs at member with blank
    · exact later member
    · exact (List.mem_cons.mp member).elim .inl later
    · obtain rfl | further := List.mem_cons.mp member
      · exact .inr ⟨List.mem_cons_self, Bool.eq_false_iff.mpr blank⟩
      · exact later further

theorem joinBlanks_of_notBlank {text : Text}
    (notBlank : ∀ char ∈ text, Text.isBlank char = false) (afterBlank : Bool) :
    joinBlanks afterBlank text = text := by
  induction text generalizing afterBlank with
  | nil => rfl
  | cons char text inductionHypothesis =>
    obtain ⟨here, later⟩ := List.forall_mem_cons.mp notBlank
    rw [joinBlanks, if_neg (Bool.eq_false_iff.mp here), inductionHypothesis later]

/-- Every character of the name of a file is safe. -/
theorem isSafe_of_mem_stemName {description : Text} {char : Char}
    (member : char ∈ stemName description) : IsSafe char := by
  rw [stemName_eq] at member
  obtain rfl | ⟨isPrinted, notBlank⟩ := mem_joinBlanks (List.mem_of_mem_take member)
  · exact isSafe_underscore
  · obtain ⟨original, _, rfl⟩ := List.mem_map.mp isPrinted
    exact isSafe_printed notBlank

theorem isForbidden_of_mem_stemName {description : Text} {char : Char}
    (member : char ∈ stemName description) : isForbidden char = false :=
  (isSafe_of_mem_stemName member).allowed

theorem length_stemName_le (description : Text) : (stemName description).length ≤ 100 :=
  List.length_take_le _ _

/-- A short name of safe characters is left as it is. -/
theorem stemName_of_isSafe {name : Text} (isSafe : ∀ char ∈ name, IsSafe char)
    (short : name.length ≤ 100) : stemName name = name := by
  have same : name.map printed = name := by
    rw [List.map_congr_left fun char member => printed_of_isSafe (isSafe char member)]
    exact List.map_id name
  rw [stemName_eq, same, joinBlanks_of_notBlank fun char member => (isSafe char member).notBlank,
    stemLimit, List.take_of_length_le short]

/-! ### What is cut off the name of a model -/

theorem ne_of_mem_of_notMem {stop : Char} {text : Text} (noStop : stop ∉ text) :
    ∀ char ∈ text, decide (char ≠ stop) = true :=
  fun _ member => decide_eq_true fun isStop => noStop (isStop ▸ member)

theorem takeWhile_ne_eq_self {stop : Char} {text : Text} (noStop : stop ∉ text) :
    text.takeWhile (· ≠ stop) = text :=
  List.takeWhile_eq_self_iff.mpr (ne_of_mem_of_notMem noStop)

theorem takeWhile_ne_append {stop : Char} {front : Text} (noStop : stop ∉ front) (back : Text) :
    (front ++ stop :: back).takeWhile (· ≠ stop) = front := by
  rw [List.takeWhile_append_of_pos (ne_of_mem_of_notMem noStop),
    List.takeWhile_cons_of_neg (by simp), List.append_nil]

/-- What stands behind the last slash. -/
def lastPart (name : Text) : Text :=
  (name.reverse.takeWhile (· ≠ '/')).reverse

/-- The last part stands behind the last slash. -/
theorem lastPart_append {back : Text} (noSlash : '/' ∉ back) (front : Text) :
    lastPart (front ++ '/' :: back) = back := by
  rw [lastPart, List.reverse_append, List.reverse_cons, List.append_assoc, List.singleton_append,
    takeWhile_ne_append (by rwa [List.mem_reverse]), List.reverse_reverse]

theorem lastPart_of_notMem {name : Text} (noSlash : '/' ∉ name) : lastPart name = name := by
  rw [lastPart, takeWhile_ne_eq_self (by rwa [List.mem_reverse]), List.reverse_reverse]

theorem withoutService_of_notMem {name : Text} (noColon : ':' ∉ name) :
    withoutService name = name := by
  rw [withoutService]
  cases found : Text.after? "openrouter:" name with
  | none => rfl
  | some rest =>
    rw [Text.after?_eq_some_iff.mp found] at noColon
    exact absurd (List.mem_append_left rest (by decide)) noColon

/-- The service has no slash, and so it is cut off what stands in front of one. -/
theorem exists_withoutService (folders rest : Text) :
    ∃ fewer, fewer <:+ folders ∧
      withoutService (folders ++ '/' :: rest) = fewer ++ '/' :: rest := by
  rw [withoutService]
  cases found : Text.after? "openrouter:" (folders ++ '/' :: rest) with
  | none => exact ⟨folders, List.suffix_rfl, rfl⟩
  | some behind =>
    obtain ⟨further, service, slash⟩ | ⟨fewer, split, rfl⟩ :=
      List.append_eq_append_iff.mp (Text.after?_eq_some_iff.mp found)
    · cases further with
      | nil =>
        obtain rfl : '/' :: rest = behind := slash
        exact ⟨[], List.nil_suffix, rfl⟩
      | cons char further =>
        obtain rfl := (List.cons.inj slash).1
        have inService : '/' ∈ "openrouter:".toList := by
          rw [service]
          exact List.mem_append_right _ List.mem_cons_self
        exact absurd inService (by decide)
    · exact ⟨fewer, ⟨_, split.symm⟩, rfl⟩

theorem withoutTag_of_notMem {name : Text} (noColon : ':' ∉ lastPart name) :
    withoutTag name = name := by
  show (if ((lastPart name).takeWhile (· ≠ ':')).length + 1 < (lastPart name).length then _
    else name) = name
  rw [takeWhile_ne_eq_self noColon, if_neg (Nat.not_lt.mpr (Nat.le_succ _))]

/-- A tag behind the last part is taken away. -/
theorem withoutTag_append {part tag : Text} (noSlash : '/' ∉ part) (noColon : ':' ∉ part)
    (notEmpty : tag ≠ []) (noSlashBehind : '/' ∉ tag) (front : Text) :
    withoutTag (front ++ '/' :: (part ++ ':' :: tag)) = front ++ '/' :: part := by
  have last : lastPart (front ++ '/' :: (part ++ ':' :: tag)) = part ++ ':' :: tag :=
    lastPart_append (by simp [noSlash, noSlashBehind]) front
  have long : part.length + 1 < (part ++ ':' :: tag).length := by
    have := List.length_pos_of_ne_nil notEmpty
    rw [List.length_append, List.length_cons]
    omega
  have parts : front ++ '/' :: (part ++ ':' :: tag) = (front ++ '/' :: part) ++ ':' :: tag := by
    rw [List.append_assoc, List.cons_append]
  show (if ((lastPart _).takeWhile (· ≠ ':')).length + 1 < (lastPart _).length then
    List.take (_ - (lastPart _).length + ((lastPart _).takeWhile (· ≠ ':')).length) _ else _) = _
  rw [last, takeWhile_ne_append noColon, if_pos long, parts, List.take_left']
  simp only [List.length_append, List.length_cons]
  omega

theorem withoutFolders_of_notMem {name : Text} (noSlash : '/' ∉ name) :
    withoutFolders name = name := by
  have noSlashInLine : '/' ∉ name.takeWhile (· ≠ '\n') :=
    fun member => noSlash (List.takeWhile_subset _ member)
  show name.drop (_ - (lastPart (name.takeWhile (· ≠ '\n'))).length) = name
  rw [lastPart_of_notMem noSlashInLine, Nat.sub_self, List.drop_zero]

/-- Folders on one line are taken away. -/
theorem withoutFolders_append {front back : Text} (line : '\n' ∉ front)
    (lineBehind : '\n' ∉ back) (noSlash : '/' ∉ back) :
    withoutFolders (front ++ '/' :: back) = back := by
  have oneLine : (front ++ '/' :: back).takeWhile (· ≠ '\n') = front ++ '/' :: back :=
    takeWhile_ne_eq_self (by simp [line, lineBehind])
  show List.drop (List.length (List.takeWhile _ _) - (lastPart (List.takeWhile _ _)).length) _ = _
  rw [oneLine, lastPart_append noSlash]
  have parts : front ++ '/' :: back = (front ++ ['/']) ++ back := by
    rw [List.append_assoc, List.singleton_append]
  rw [parts, List.drop_left']
  simp only [List.length_append, List.length_cons, List.length_nil]
  omega

/-- There is nothing to cut off a name without forbidden characters. -/
theorem modelName_of_isPermitted {name : Text} (isPermitted : IsPermitted name) :
    modelName name = name := by
  have noColon : ':' ∉ name := isPermitted.notMem (by decide)
  have noSlash : '/' ∉ name := isPermitted.notMem (by decide)
  have noTag : ':' ∉ lastPart name := by rwa [lastPart_of_notMem noSlash]
  rw [modelName, withoutService_of_notMem noColon, withoutTag_of_notMem noTag,
    withoutFolders_of_notMem noSlash, isPermitted.map_permitted]

/-! ### What a model may be called -/

/-- A model with what it may be called by: a service in front, folders, and a tag behind. -/
structure CalledModel where
  served : Bool
  folders : Text
  model : Text
  tag? : Option Text

namespace CalledModel

/-- The tag behind its colon, if there is one. -/
def tagText (called : CalledModel) : Text :=
  match called.tag? with
  | some tag => ':' :: tag
  | none => []

/-- What the model is called. -/
def text (called : CalledModel) : Text :=
  (if called.served then ("openrouter:" : Text) else []) ++
    (called.folders ++ '/' :: (called.model ++ called.tagText))

/-- The folders and the model stand in one line, the model has no forbidden characters, and a tag
is not empty and has no slashes. -/
structure WellFormed (called : CalledModel) : Prop where
  folders : '\n' ∉ called.folders
  line : '\n' ∉ called.model
  model : IsPermitted called.model
  tag : ∀ tag, called.tag? = some tag → tag ≠ [] ∧ '/' ∉ tag

variable {called : CalledModel}

/-- Taking away the service leaves the model with its tag and some of the folders. -/
theorem exists_withoutService_text (called : CalledModel) :
    ∃ fewer, fewer <:+ called.folders ∧
      withoutService called.text = fewer ++ '/' :: (called.model ++ called.tagText) := by
  rw [text]
  cases called.served with
  | true =>
    refine ⟨called.folders, List.suffix_rfl, ?_⟩
    rw [withoutService, if_pos rfl, Text.after?_append]
    rfl
  | false => exact exists_withoutService called.folders _

theorem WellFormed.withoutTag_append (wellFormed : called.WellFormed) (folders : Text) :
    withoutTag (folders ++ '/' :: (called.model ++ called.tagText)) =
      folders ++ '/' :: called.model := by
  have noColon : ':' ∉ called.model := wellFormed.model.notMem (by decide)
  have noSlash : '/' ∉ called.model := wellFormed.model.notMem (by decide)
  rw [tagText]
  cases tagged : called.tag? with
  | none =>
    rw [List.append_nil]
    exact withoutTag_of_notMem (by rwa [lastPart_append noSlash])
  | some tag =>
    obtain ⟨notEmpty, noSlashBehind⟩ := wellFormed.tag tag tagged
    exact Store.withoutTag_append noSlash noColon notEmpty noSlashBehind folders

/-- Whatever the model is called by, its name is that of the model alone. -/
theorem WellFormed.modelName_text (wellFormed : called.WellFormed) :
    modelName called.text = called.model := by
  obtain ⟨fewer, isSuffix, served⟩ := called.exists_withoutService_text
  have line : '\n' ∉ fewer := fun member => wellFormed.folders (isSuffix.subset member)
  rw [modelName, served, wellFormed.withoutTag_append,
    withoutFolders_append line wellFormed.line (wellFormed.model.notMem (by decide)),
    wellFormed.model.map_permitted]

end CalledModel

/-! ### Names -/

/-- A file name is short and all of it is safe, and a folder name has no forbidden characters.
Either is the name that is made of it. A model has its own name, whatever service, folders and tag
it is called by. -/
theorem names_safe_and_stable :
    (∀ description : Text,
      (stemName description).length ≤ 100 ∧
        (∀ char ∈ stemName description, IsSafe char) ∧
        stemName (stemName description) = stemName description) ∧
    (∀ provider : Text,
      (∀ char ∈ modelName provider, isForbidden char = false) ∧
        modelName (modelName provider) = modelName provider) ∧
    ∀ called : CalledModel, called.WellFormed → modelName called.text = called.model := by
  refine ⟨fun description => ?_, fun provider => ?_, fun called wellFormed => ?_⟩
  · have safe : ∀ char ∈ stemName description, IsSafe char := fun _ => isSafe_of_mem_stemName
    have short := length_stemName_le description
    exact ⟨short, safe, stemName_of_isSafe safe short⟩
  · have allowed : IsPermitted (modelName provider) := fun _ => isForbidden_of_mem_modelName
    exact ⟨allowed, modelName_of_isPermitted allowed⟩
  · exact wellFormed.modelName_text

/-- A model whose folders look like a service and whose tag holds a colon and ends its line. -/
def oddlyCalled : CalledModel where
  served := true
  folders := "openrouter:a:b"
  model := "llama 4"
  tag? := some "free:1\n"

/-- Neither the folders nor the tag of such a model are in its name. -/
theorem names_safe_and_stable_of_oddlyCalled :
    oddlyCalled.WellFormed ∧
      oddlyCalled.text = "openrouter:openrouter:a:b/llama 4:free:1\n" ∧
      modelName oddlyCalled.text = "llama 4" := by
  have allowed : (oddlyCalled.model.all fun char => !isForbidden char) = true := by
    decide
  have wellFormed : oddlyCalled.WellFormed := by
    refine ⟨by decide, by decide, fun char member => ?_, ?_⟩
    · simpa using List.all_eq_true.mp allowed char member
    · rintro _ ⟨⟩
      decide
  exact ⟨wellFormed, by decide, names_safe_and_stable.2.2 oddlyCalled wellFormed⟩

end BrowserPlan.Store
