import ClusterPower.Json.Basic

/-!
Equality of JSON values is decidable: the values are gone through side by side.
-/

namespace ClusterPower.Json

mutual

def same : Json → Json → Bool
  | .null, .null => true
  | .boolean left, .boolean right => decide (left = right)
  | .integer left, .integer right => decide (left = right)
  | .real left, .real right => decide (left = right)
  | .text left, .text right => decide (left = right)
  | .array left, .array right => sameItems left right
  | .object left, .object right => sameMembers left right
  | .unreadable, .unreadable => true
  | _, _ => false

def sameItems : List Json → List Json → Bool
  | [], [] => true
  | left :: lefts, right :: rights => same left right && sameItems lefts rights
  | _, _ => false

def sameMembers : List (String × Json) → List (String × Json) → Bool
  | [], [] => true
  | (name, left) :: lefts, (other, right) :: rights =>
    decide (name = other) && same left right && sameMembers lefts rights
  | _, _ => false

end

mutual

theorem same_iff : ∀ left right : Json, same left right = true ↔ left = right
  | .null, right => by cases right <;> simp [same]
  | .boolean _, right => by cases right <;> simp [same]
  | .integer _, right => by cases right <;> simp [same]
  | .real _, right => by cases right <;> simp [same]
  | .text _, right => by cases right <;> simp [same]
  | .unreadable, right => by cases right <;> simp [same]
  | .array left, right => by
      cases right with
      | array right => simp [same, sameItems_iff left right]
      | _ => simp [same]
  | .object left, right => by
      cases right with
      | object right => simp [same, sameMembers_iff left right]
      | _ => simp [same]

theorem sameItems_iff : ∀ left right : List Json, sameItems left right = true ↔ left = right
  | [], right => by cases right <;> simp [sameItems]
  | left :: lefts, [] => by simp [sameItems]
  | left :: lefts, right :: rights => by
      simp [sameItems, same_iff left right, sameItems_iff lefts rights]

theorem sameMembers_iff :
    ∀ left right : List (String × Json), sameMembers left right = true ↔ left = right
  | [], right => by cases right <;> simp [sameMembers]
  | (name, left) :: lefts, [] => by simp [sameMembers]
  | (name, left) :: lefts, (other, right) :: rights => by
      simp [sameMembers, same_iff left right, sameMembers_iff lefts rights]

end

instance : DecidableEq Json := fun left right =>
  decidable_of_iff _ (same_iff left right)

end ClusterPower.Json
