/-
This file proves that the two orders in which actions can be listed rearrange one another.

Each construct is looked for on its own, so its findings stand behind one another. The findings of
all constructs are therefore in order twice over: by the kind of their actions first and, within a
kind, by their positions. Sorting them by position moves kinds about but no action within its kind,
and sorting by kind brings the groups back. Which methods are listed has nothing to do with the
order, and asking for a name only leaves methods out.
-/

import BrowserPlan.Proofs.Action.Document
import BrowserPlan.Proofs.Sort

namespace BrowserPlan

/-! ### The kinds of actions in order -/

/-- The types of actions in the order in which their constructs are listed. -/
def kindOrder : List Text :=
  ["navigate", "fill", "clear", "click", "get_text", "assert_text", "assert_true", "assert_false",
    "wait", "count_elements"]

/-- The place of an action's type in the order of types. -/
def Action.rank (action : Action) : Nat :=
  kindOrder.idxOf action.type

/-- An action is ranked by the place of its construct in the table. -/
theorem Action.rank_of_construct? {action : Action} {construct : Construct}
    (recognised : action.construct? = some construct) :
    action.rank = Construct.all.idxOf construct := by
  cases action with
  | unknown => cases recognised
  | _ =>
    cases recognised
    rfl

/-! ### Findings in order -/

/-- The findings of one construct stand behind one another. -/
theorem Construct.pairwise_findAll (construct : Construct) (text : Text) :
    (construct.findAll text).Pairwise fun first second => first.1 < second.1 := by
  refine (Text.pairwise_findFrom construct.read none 0 0 text).filterMap _ ?_
  intro first second less here isHere further isFurther
  obtain ⟨_, _, rfl⟩ := Option.map_eq_some_iff.mp isHere
  obtain ⟨_, _, rfl⟩ := Option.map_eq_some_iff.mp isFurther
  exact less

/-- Findings are listed by the kind of their actions and, within a kind, by their positions. -/
theorem pairwise_findActions (text : Text) :
    (findActions text).Pairwise fun first second =>
      first.2.rank < second.2.rank ∨ first.2.rank = second.2.rank ∧ first.1 < second.1 := by
  have rank {construct : Construct} {found : Nat × Action}
      (member : found ∈ construct.findAll text) :
      found.2.rank = Construct.all.idxOf construct :=
    Action.rank_of_construct? (Construct.construct?_of_mem_findAll member)
  refine List.pairwise_flatMap.mpr ⟨fun construct _ => ?_, ?_⟩
  · refine (construct.pairwise_findAll text).imp_of_mem fun inFirst inSecond less => ?_
    exact .inr ⟨(rank inFirst).trans (rank inSecond).symm, less⟩
  · have listed : Construct.all.Pairwise fun first second =>
        Construct.all.idxOf first < Construct.all.idxOf second := by
      decide
    refine listed.imp fun less found inFirst other inSecond => .inl ?_
    rwa [rank inFirst, rank inSecond]

/-! ### Grouping what is in the order of the source -/

/-- Sorting the findings by their positions leaves the findings of a kind as they are. -/
theorem filter_rank_mergeSort_findActions (text : Text) (rank : Nat) :
    ((findActions text).mergeSort fun first second => first.1 ≤ second.1).filter
        (fun found => found.2.rank = rank) =
      (findActions text).filter fun found => found.2.rank = rank := by
  refine filter_mergeSort_key (((pairwise_findActions text).filter _).imp_of_mem ?_)
  intro first second inFirst inSecond ordered
  have same : first.2.rank = second.2.rank := by
    rw [of_decide_eq_true (List.mem_filter.mp inFirst).2,
      of_decide_eq_true (List.mem_filter.mp inSecond).2]
  obtain less | ⟨_, less⟩ := ordered
  · exact absurd same (Nat.ne_of_lt less)
  · exact Nat.le_of_lt less

/-- The groups are the order of the source, sorted by kind. -/
theorem mergeSort_rank_actionsOfBody (body : Text) :
    ((actionsOfBody body .source).mergeSort fun first second => first.rank ≤ second.rank) =
      actionsOfBody body .grouped := by
  have grouped : (findActions (Java.masked .commentsOnly body)).Pairwise
      fun first second => first.2.rank ≤ second.2.rank := by
    refine (pairwise_findActions _).imp fun ordered => ?_
    obtain less | ⟨same, _⟩ := ordered
    · exact Nat.le_of_lt less
    · exact Nat.le_of_eq same
  have regrouped := mergeSort_key_eq_of_groups grouped fun rank =>
    (filter_rank_mergeSort_findActions (Java.masked .commentsOnly body) rank).symm
  refine Eq.trans ?_ (congrArg (List.map Prod.snd) regrouped)
  show (((findActions (Java.masked .commentsOnly body)).mergeSort
    fun first second => first.1 ≤ second.1).map Prod.snd).mergeSort _ = _
  exact Eq.symm (List.map_mergeSort fun _ _ _ _ => rfl)

/-- Both orders have the same actions. -/
theorem actionsOfBody_perm (body : Text) :
    (actionsOfBody body .grouped).Perm (actionsOfBody body .source) := by
  rw [← mergeSort_rank_actionsOfBody]
  exact List.mergeSort_perm _ _

/-! ### Whole sources -/

/-- The actions of the first are those of the second, sorted by kind, and both have one name. -/
structure Regroups (grouped inSource : TestMethod) : Prop where
  name : grouped.name = inSource.name
  perm : grouped.actions.Perm inSource.actions
  sorted : grouped.actions =
    inSource.actions.mergeSort fun first second => first.rank ≤ second.rank

/-- Of one segment, the grouped method is the other one sorted. -/
theorem regroups_ofSegment (segment : Java.Segment) :
    Regroups (TestMethod.ofSegment .grouped segment) (TestMethod.ofSegment .source segment) where
  name := rfl
  perm := actionsOfBody_perm segment.body
  sorted := (mergeSort_rank_actionsOfBody segment.body).symm

/-- Asking for a name leaves out the methods of other names and nothing else. -/
theorem methods_ofSource_some (source : Text) (first : Char) (rest : Text) (order : ActionOrder) :
    (Extraction.ofSource source (some (first :: rest)) order).methods =
      (Extraction.ofSource source none order).methods.filter
        fun method => method.name = first :: rest := by
  have all : (Java.segments source).filter (fun segment => isWanted none segment.name) =
      Java.segments source :=
    List.filter_eq_self.mpr fun _ _ => rfl
  rw [Extraction.ofSource, Extraction.ofSource, List.filter_map, all]
  rfl

/-- For any source and any name that is asked for, both orders list the same methods, and the groups
of a method are its actions in the order of the source, sorted by kind. A name that is asked for
selects the methods of that name among all methods. -/
theorem ofSource_regroups (source : Text) :
    (∀ wanted? : Option Text,
      List.Forall₂ Regroups (Extraction.ofSource source wanted? .grouped).methods
        (Extraction.ofSource source wanted? .source).methods) ∧
    (∀ (first : Char) (rest : Text) (order : ActionOrder),
      (Extraction.ofSource source (some (first :: rest)) order).methods =
        (Extraction.ofSource source none order).methods.filter
          fun method => method.name = first :: rest) := by
  refine ⟨fun wanted? => ?_, methods_ofSource_some source⟩
  refine List.forall₂_map_left_iff.mpr (List.forall₂_map_right_iff.mpr ?_)
  exact List.forall₂_same.mpr fun segment _ => regroups_ofSegment segment

end BrowserPlan
