import Mathlib.Data.List.Basic

/-!
Lists that are worked off side by side, each in its own order. Two of them make an interleaving,
any number of them a shuffle, and nothing but the choice of who is next differs between two
shuffles of the same lists.
-/

namespace ClusterPower.Campaign

/-- Two lists are worked off side by side, each in its order. -/
inductive Interleaves {Item : Type} : List Item → List Item → List Item → Prop
  | nil : Interleaves [] [] []
  | left {item first second whole} (rest : Interleaves first second whole) :
      Interleaves (item :: first) second (item :: whole)
  | right {item first second whole} (rest : Interleaves first second whole) :
      Interleaves first (item :: second) (item :: whole)

namespace Interleaves

variable {Item Found : Type} {first second whole more others all : List Item} {item : Item}

theorem cases_mem (interleaves : Interleaves first second whole) (member : item ∈ whole) :
    item ∈ first ∨ item ∈ second := by
  induction interleaves with
  | nil => cases member
  | left rest induction =>
      rcases List.mem_cons.mp member with rfl | member
      · exact Or.inl List.mem_cons_self
      · exact (induction member).imp_left (List.mem_cons_of_mem _)
  | right rest induction =>
      rcases List.mem_cons.mp member with rfl | member
      · exact Or.inr List.mem_cons_self
      · exact (induction member).imp_right (List.mem_cons_of_mem _)

theorem eq_of_nil (interleaves : Interleaves [] second whole) : whole = second := by
  induction second generalizing whole with
  | nil => cases interleaves; rfl
  | cons item second induction =>
      cases interleaves with
      | right rest => rw [induction rest]

theorem nil_left (second : List Item) : Interleaves [] second second := by
  induction second with
  | nil => exact .nil
  | cons item second induction => exact .right induction

theorem nil_right (first : List Item) : Interleaves first [] first := by
  induction first with
  | nil => exact .nil
  | cons item first induction => exact .left induction

theorem eq_of_nil_right (interleaves : Interleaves first [] whole) : whole = first := by
  induction first generalizing whole with
  | nil => cases interleaves; rfl
  | cons item first induction =>
      cases interleaves with
      | left rest => rw [induction rest]

theorem sublist_left (interleaves : Interleaves first second whole) : first.Sublist whole := by
  induction interleaves with
  | nil => exact .slnil
  | left rest induction => exact induction.cons_cons _
  | right rest induction => exact induction.cons _

theorem sublist_right (interleaves : Interleaves first second whole) : second.Sublist whole := by
  induction interleaves with
  | nil => exact .slnil
  | left rest induction => exact induction.cons _
  | right rest induction => exact induction.cons_cons _

theorem perm (interleaves : Interleaves first second whole) :
    (first ++ second).Perm whole := by
  induction interleaves with
  | nil => exact .refl _
  | left rest induction => exact induction.cons _
  | right rest induction => exact List.perm_middle.trans (induction.cons _)

theorem filterMap (interleaves : Interleaves first second whole) (find : Item → Option Found) :
    Interleaves (first.filterMap find) (second.filterMap find) (whole.filterMap find) := by
  induction interleaves with
  | nil => exact .nil
  | @left item _ _ _ rest induction =>
      cases found : find item with
      | none => simpa only [List.filterMap_cons_none found] using induction
      | some other => simpa only [List.filterMap_cons_some found] using induction.left
  | @right item _ _ _ rest induction =>
      cases found : find item with
      | none => simpa only [List.filterMap_cons_none found] using induction
      | some other => simpa only [List.filterMap_cons_some found] using induction.right

theorem filterMap_right {find : Item → Option Found}
    (interleaves : Interleaves first second whole) (nothing : first.filterMap find = []) :
    whole.filterMap find = second.filterMap find := by
  have found := interleaves.filterMap find
  rw [nothing] at found
  exact found.eq_of_nil

theorem append (interleaves : Interleaves first second whole)
    (behind : Interleaves more others all) :
    Interleaves (first ++ more) (second ++ others) (whole ++ all) := by
  induction interleaves with
  | nil => exact behind
  | left rest induction => exact induction.left
  | right rest induction => exact induction.right

theorem snoc_left (interleaves : Interleaves first second whole) (item : Item) :
    Interleaves (first ++ [item]) second (whole ++ [item]) := by
  have longer := interleaves.append (nil_right [item])
  rwa [List.append_nil] at longer

theorem snoc_right (interleaves : Interleaves first second whole) (item : Item) :
    Interleaves first (second ++ [item]) (whole ++ [item]) := by
  have longer := interleaves.append (nil_left [item])
  rwa [List.append_nil] at longer

theorem of_filter (picks : Item → Bool) (whole : List Item) :
    Interleaves (whole.filter picks) (whole.filter fun item => !picks item) whole := by
  induction whole with
  | nil => exact .nil
  | cons item rest induction =>
      cases picked : picks item with
      | true => simpa [picked] using induction.left
      | false => simpa [picked] using induction.right

end Interleaves

/-- Any number of lists are worked off side by side, each in its order. -/
inductive Shuffles {Item : Type} : List (List Item) → List Item → Prop
  | nil : Shuffles [] []
  | cons {part parts rest whole} (shuffles : Shuffles parts rest)
      (beside : Interleaves part rest whole) : Shuffles (part :: parts) whole

namespace Shuffles

variable {Item Found Key : Type} {parts : List (List Item)} {part whole other : List Item}

theorem sublist (shuffles : Shuffles parts whole) (member : part ∈ parts) :
    part.Sublist whole := by
  induction shuffles with
  | nil => cases member
  | cons shuffles beside induction =>
      rcases List.mem_cons.mp member with rfl | member
      · exact beside.sublist_left
      · exact (induction member).trans beside.sublist_right

theorem filterMap (shuffles : Shuffles parts whole) (find : Item → Option Found) :
    Shuffles (parts.map (List.filterMap find)) (whole.filterMap find) := by
  induction shuffles with
  | nil => exact .nil
  | cons shuffles beside induction => exact induction.cons (beside.filterMap find)

theorem map (shuffles : Shuffles parts whole) (change : Item → Found) :
    Shuffles (parts.map (List.map change)) (whole.map change) := by
  have changed := shuffles.filterMap (some ∘ change)
  rw [List.filterMap_eq_map] at changed
  exact changed

theorem eq_nil (shuffles : Shuffles [] whole) : whole = [] := by
  cases shuffles
  rfl

theorem eq_of_singleton (shuffles : Shuffles [part] whole) : whole = part := by
  cases shuffles with
  | cons shuffles beside =>
      cases shuffles
      exact beside.eq_of_nil_right

theorem replicate_nil (count : Nat) : Shuffles (List.replicate count ([] : List Item)) [] := by
  induction count with
  | zero => exact .nil
  | succ count induction => exact induction.cons .nil

theorem of_keys [DecidableEq Key] (key : Item → Key) {keys : List Key} (distinct : keys.Nodup)
    (covered : ∀ item ∈ whole, key item ∈ keys) :
    Shuffles (keys.map fun one => whole.filter fun item => key item = one) whole := by
  induction keys generalizing whole with
  | nil =>
      cases whole with
      | nil => exact .nil
      | cons item rest => cases covered item List.mem_cons_self
  | cons first keys induction =>
      rw [List.nodup_cons] at distinct
      let rest := whole.filter fun item => !decide (key item = first)
      have later : Shuffles (keys.map fun one => rest.filter fun item => key item = one) rest := by
        apply induction distinct.2
        intro item member
        rw [List.mem_filter] at member
        exact (List.mem_cons.mp (covered item member.1)).resolve_left (by simpa using member.2)
      have same : (keys.map fun one => rest.filter fun item => key item = one) =
          keys.map fun one => whole.filter fun item => key item = one := by
        apply List.map_congr_left
        intro one listed
        rw [List.filter_filter]
        apply List.filter_congr
        intro item _
        by_cases here : key item = one
        · have apart : key item ≠ first := by
            rintro rfl
            exact distinct.1 (here ▸ listed)
          simp [here, here ▸ apart]
        · simp [here]
      rw [same] at later
      exact later.cons (.of_filter _ _)

theorem append_replicate {count : Nat} {front behind first second : List Item}
    (shuffles : Shuffles (List.replicate count front) first)
    (later : Shuffles (List.replicate count behind) second) :
    Shuffles (List.replicate count (front ++ behind)) (first ++ second) := by
  induction count generalizing first second with
  | zero =>
      cases shuffles
      cases later
      exact .nil
  | succ count induction =>
      rw [List.replicate_succ] at shuffles later ⊢
      cases shuffles with
      | cons shuffles beside =>
          cases later with
          | cons later besideLater =>
              exact (induction shuffles later).cons (beside.append besideLater)

theorem unique {count : Nat} (single : count ≤ 1)
    (shuffles : Shuffles (List.replicate count part) whole)
    (again : Shuffles (List.replicate count part) other) : whole = other := by
  match count, single with
  | 0, _ => rw [shuffles.eq_nil, again.eq_nil]
  | 1, _ => rw [shuffles.eq_of_singleton, again.eq_of_singleton]

end Shuffles

end ClusterPower.Campaign
