import Mathlib.Data.List.Lex
import Mathlib.Data.List.Sort

/-!
Sorted lists, lists without repetitions and lists split by a label. A list is sorted by a key when
its comparison goes by the order of the keys; if no two items have one key, the sorted list does
not tell the order from which it was made.
-/

namespace ClusterPower

variable {Item Key : Type}

/-! ## Sorting by a key -/

/-- The comparison goes by the order of the keys. -/
def GoesBy [LinearOrder Key] (le : Item → Item → Bool) (key : Item → Key) : Prop :=
  ∀ left right, le left right = true ↔ key left ≤ key right

section GoesBy

variable [LinearOrder Key] {le : Item → Item → Bool} {key : Item → Key} {items others : List Item}

theorem goesBy_le [DecidableLE Key] (key : Item → Key) :
    GoesBy (fun left right => decide (key left ≤ key right)) key :=
  fun _ _ => decide_eq_true_iff

theorem GoesBy.pairwise_mergeSort (goes : GoesBy le key) (items : List Item) :
    (items.mergeSort le).Pairwise fun left right => key left ≤ key right := by
  have sorted := List.pairwise_mergeSort
    (fun first second third before behind =>
      (goes first third).mpr (((goes _ _).mp before).trans ((goes _ _).mp behind)))
    (fun left right => by
      rw [Bool.or_eq_true, goes, goes]
      exact le_total _ _) items
  exact sorted.imp (goes _ _).mp

theorem GoesBy.mergeSort_eq_of_perm_of_apart (goes : GoesBy le key)
    (apart : ∀ left ∈ items, ∀ right ∈ items, key left = key right → left = right)
    (perm : items.Perm others) : items.mergeSort le = others.mergeSort le := by
  have sorted : (items.mergeSort le).Perm (others.mergeSort le) :=
    (List.mergeSort_perm items le).trans (perm.trans (List.mergeSort_perm others le).symm)
  refine List.Perm.eq_of_pairwise (fun left right inLeft inRight below above => ?_)
    (goes.pairwise_mergeSort items) (goes.pairwise_mergeSort others) sorted
  have leftIn : left ∈ items := List.mem_mergeSort.mp inLeft
  have rightIn : right ∈ items := perm.mem_iff.mpr (List.mem_mergeSort.mp inRight)
  exact apart left leftIn right rightIn (below.antisymm above)

theorem GoesBy.mergeSort_eq_of_perm (goes : GoesBy le key) (injective : Function.Injective key)
    (perm : items.Perm others) : items.mergeSort le = others.mergeSort le :=
  goes.mergeSort_eq_of_perm_of_apart (fun _ _ _ _ same => injective same) perm

end GoesBy

/-! ## Repetitions -/

theorem eraseDups_sublist [BEq Item] (items : List Item) : items.eraseDups.Sublist items := by
  match items with
  | [] => exact .slnil
  | first :: rest =>
      rw [List.eraseDups_cons]
      exact ((eraseDups_sublist _).trans List.filter_sublist).cons_cons first
termination_by items.length
decreasing_by exact Nat.lt_succ_of_le (List.length_filter_le _ _)

section Repetitions

variable [BEq Item] [LawfulBEq Item] {items others : List Item}

theorem nodup_eraseDups (items : List Item) : items.eraseDups.Nodup := by
  match items with
  | [] => exact List.nodup_nil
  | first :: rest =>
      rw [List.eraseDups_cons, List.nodup_cons, List.mem_eraseDups]
      exact ⟨fun member => by simp at member, nodup_eraseDups _⟩
termination_by items.length
decreasing_by exact Nat.lt_succ_of_le (List.length_filter_le _ _)

theorem eraseDups_perm (perm : items.Perm others) : items.eraseDups.Perm others.eraseDups :=
  (List.perm_ext_iff_of_nodup (nodup_eraseDups items) (nodup_eraseDups others)).mpr fun item => by
    rw [List.mem_eraseDups, List.mem_eraseDups, perm.mem_iff]

theorem eraseDups_of_nodup (distinct : items.Nodup) : items.eraseDups = items := by
  have perm : items.eraseDups.Perm items :=
    (List.perm_ext_iff_of_nodup (nodup_eraseDups items) distinct).mpr fun _ => List.mem_eraseDups
  exact (eraseDups_sublist items).eq_of_length perm.length_eq

theorem GoesBy.increasing_eraseDups [LinearOrder Item] {le : Item → Item → Bool}
    (goes : GoesBy le id) (items : List Item) :
    (items.mergeSort le).eraseDups.Pairwise (· < ·) :=
  ((goes.pairwise_mergeSort items).sublist (eraseDups_sublist _)).imp₂
    (fun _ _ => lt_of_le_of_ne) (nodup_eraseDups _)

end Repetitions

/-! ## Classes -/

theorem flatMap_classes_perm {Label : Type} [BEq Label] [LawfulBEq Label] (label : Item → Label)
    {labels : List Label} (distinct : labels.Nodup) {items : List Item}
    (labelled : ∀ item ∈ items, label item ∈ labels) :
    (labels.flatMap fun each => items.filter fun item => label item == each).Perm items := by
  induction labels generalizing items with
  | nil => simpa using List.eq_nil_iff_forall_not_mem.mpr fun item member =>
      nomatch labelled item member
  | cons first rest induction =>
      rw [List.nodup_cons] at distinct
      -- The classes of the other labels are the same without the items of the first label.
      have apart : ∀ each ∈ rest, (items.filter fun item => label item == each) =
          (items.filter fun item => !(label item == first)).filter fun item =>
            label item == each := by
        intro each member
        rw [List.filter_filter]
        refine List.filter_congr fun item _ => ?_
        by_cases same : label item = each
        · have other : each ≠ first := fun equal => distinct.1 (equal ▸ member)
          simp [same, other]
        · simp [same]
      have others : ∀ item ∈ items.filter fun item => !(label item == first),
          label item ∈ rest := by
        intro item member
        rcases List.mem_filter.mp member with ⟨listed, other⟩
        have different : label item ≠ first := by simpa using other
        exact (List.mem_cons.mp (labelled item listed)).resolve_left different
      rw [List.flatMap_cons, List.flatMap_congr apart]
      exact ((induction distinct.2 others).append_left _).trans (List.filter_append_perm _ _)

end ClusterPower
