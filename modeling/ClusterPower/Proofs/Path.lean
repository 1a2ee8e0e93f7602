import ClusterPower.Path
import Mathlib.Data.List.DropRight
import Mathlib.Data.List.Infix
import Mathlib.Data.List.TakeWhile
import Mathlib.Logic.Function.Iterate

/-!
Paths cut at their last slash. Slashes at its end aside, a path is one segment, or a segment behind
a slash with something before it. Its parent and its base make it up again, and from parent to
parent every path comes to an end. The parent of the parent of a path that leads to a member of a
collection is the root of the collection.
-/

namespace ClusterPower.Path

variable {path : String} {characters before segment : List Char}

/-! ## Slashes at the end -/

/-- The path has no slash at its end. -/
def IsTrimmed (characters : List Char) : Prop :=
  characters.getLast? ≠ some '/'

instance : Decidable (IsTrimmed characters) := inferInstanceAs (Decidable (_ ≠ _))

theorem isTrimmed_trimSlashes (characters : List Char) : IsTrimmed (trimSlashes characters) := by
  intro last
  have stops := List.head?_dropWhile_not (· == '/') characters.reverse
  rw [trimSlashes, List.getLast?_reverse] at last
  rw [last] at stops
  cases stops

theorem exists_slashes (characters : List Char) :
    ∃ count, characters = trimSlashes characters ++ List.replicate count '/' := by
  have slashes : ∀ character ∈ characters.rtakeWhile (· == '/'), character = '/' :=
    fun character member => by simpa using List.mem_rtakeWhile_imp member
  refine ⟨(characters.rtakeWhile (· == '/')).length, ?_⟩
  rw [← List.eq_replicate_of_mem slashes]
  exact (List.rdropWhile_append_rtakeWhile).symm

theorem trimSlashes_append_slashes (trimmed : IsTrimmed characters) (count : Nat) :
    trimSlashes (characters ++ List.replicate count '/') = characters := by
  have slashes : ∀ character ∈ (List.replicate count '/').reverse, (character == '/') = true := by
    simp
  rw [trimSlashes, List.reverse_append, List.dropWhile_append_of_pos slashes]
  apply List.rdropWhile_eq_self_iff.mpr
  intro present isSlash
  exact trimmed (by rw [List.getLast?_eq_getLast_of_ne_nil present, eq_of_beq isSlash])

theorem trimSlashes_of_isTrimmed (trimmed : IsTrimmed characters) :
    trimSlashes characters = characters := by
  simpa using trimSlashes_append_slashes trimmed 0

/-! ## Forms of paths -/

/-- The characters are a segment of a path. -/
structure IsSegment (segment : List Char) : Prop where
  present : segment ≠ []
  single : '/' ∉ segment

instance : Decidable (IsSegment segment) :=
  decidable_of_iff (segment ≠ [] ∧ '/' ∉ segment)
    ⟨fun ⟨present, single⟩ => ⟨present, single⟩, fun name => ⟨name.present, name.single⟩⟩

/-- The forms of a path, slashes at its end aside. -/
inductive Form (path : String) : Prop
  | alone (single : '/' ∉ trimSlashes path.toList)
  | behind {before segment : List Char} (split : trimSlashes path.toList = before ++ '/' :: segment)
      (name : IsSegment segment)

theorem isTrimmed_behind (before : List Char) (name : IsSegment segment) :
    IsTrimmed (before ++ '/' :: segment) := by
  rw [IsTrimmed, List.getLast?_append, List.getLast?_cons,
    List.getLast?_eq_getLast_of_ne_nil name.present]
  intro last
  exact name.single (Option.some.inj last ▸ List.getLast_mem name.present)

theorem form (path : String) : Form path := by
  by_cases slash : '/' ∈ trimSlashes path.toList
  · -- The last slash is the first one from behind.
    rcases List.eq_append_cons_of_mem (List.mem_reverse.mpr slash) with
      ⟨backwards, rest, found, single⟩
    have split : trimSlashes path.toList = rest.reverse ++ '/' :: backwards.reverse := by
      rw [← List.reverse_inj, found]
      simp
    refine .behind split ⟨fun nothing => ?_, by simpa using single⟩
    refine isTrimmed_trimSlashes path.toList ?_
    rw [split, nothing]
    exact List.getLast?_concat
  · exact .alone slash

/-! ## Parents and bases of the forms -/

theorem ne_slash_of_single (single : '/' ∉ segment) :
    ∀ character ∈ segment.reverse, (character != '/') = true := by
  intro character member
  rw [bne_iff_ne]
  rintro rfl
  exact single (List.mem_reverse.mp member)

theorem lastSegment_alone (single : '/' ∉ segment) : lastSegment segment = segment := by
  rw [lastSegment, List.takeWhile_eq_self_iff.mpr (ne_slash_of_single single),
    List.reverse_reverse]

theorem lastSegment_behind (before : List Char) (single : '/' ∉ segment) :
    lastSegment (before ++ '/' :: segment) = segment := by
  rw [lastSegment, List.reverse_append, List.reverse_cons, List.append_assoc,
    List.takeWhile_append_of_pos (ne_slash_of_single single)]
  simp

theorem beforeLastSlash_alone (single : '/' ∉ segment) : beforeLastSlash segment = [] := by
  rw [beforeLastSlash, List.dropWhile_eq_nil_iff.mpr (ne_slash_of_single single)]
  rfl

theorem beforeLastSlash_behind (before : List Char) (single : '/' ∉ segment) :
    beforeLastSlash (before ++ '/' :: segment) = before := by
  rw [beforeLastSlash, List.reverse_append, List.reverse_cons, List.append_assoc,
    List.dropWhile_append_of_pos (ne_slash_of_single single)]
  simp

theorem parent_alone (single : '/' ∉ trimSlashes path.toList) : parent path = "" := by
  simp [parent, beforeLastSlash_alone single, single]

theorem toList_base_alone (single : '/' ∉ trimSlashes path.toList) :
    (base path).toList = trimSlashes path.toList := by
  rw [base, String.toList_ofList, lastSegment_alone single]

theorem toList_parent_behind (split : trimSlashes path.toList = before ++ '/' :: segment)
    (single : '/' ∉ segment) :
    (parent path).toList = if before = [] then ['/'] else before := by
  simp [parent, split, beforeLastSlash_behind before single]

theorem toList_base_behind (split : trimSlashes path.toList = before ++ '/' :: segment)
    (single : '/' ∉ segment) : (base path).toList = segment := by
  rw [base, String.toList_ofList, split, lastSegment_behind before single]

/-! ## Making up a path -/

def trimmed (path : String) : String :=
  String.ofList (trimSlashes path.toList)

theorem exists_slashes_trimmed (path : String) :
    ∃ count, path = trimmed path ++ String.ofList (List.replicate count '/') := by
  rcases exists_slashes path.toList with ⟨count, whole⟩
  refine ⟨count, String.toList_inj.mp ?_⟩
  rw [String.toList_append, trimmed, String.toList_ofList, String.toList_ofList]
  exact whole

theorem parent_trimmed (path : String) : parent (trimmed path) = parent path := by
  rw [parent, parent, trimmed, String.toList_ofList,
    trimSlashes_of_isTrimmed (isTrimmed_trimSlashes _)]

theorem base_trimmed (path : String) : base (trimmed path) = base path := by
  rw [base, base, trimmed, String.toList_ofList,
    trimSlashes_of_isTrimmed (isTrimmed_trimSlashes _)]

theorem slash_not_mem_base (path : String) : '/' ∉ (base path).toList := by
  cases form path with
  | alone single => rwa [toList_base_alone single]
  | behind split name =>
      rw [toList_base_behind split name.single]
      exact name.single

/-- The path has one slash, and that at its beginning. -/
def IsBelowRoot (path : String) : Prop :=
  path.toList.head? = some '/' ∧ '/' ∉ path.toList.tail

instance : Decidable (IsBelowRoot path) := inferInstanceAs (Decidable (_ ∧ _))

theorem isBelowRoot_behind_iff (split : path.toList = before ++ '/' :: segment)
    (single : '/' ∉ segment) : IsBelowRoot path ↔ before = [] := by
  cases before with
  | nil => simpa [IsBelowRoot, split] using single
  | cons first rest => simp [IsBelowRoot, split]

/-- A path is its base behind its parent, with a slash between them unless the parent is the root,
or nothing. -/
theorem trimmed_eq (path : String) :
    trimmed path =
      if '/' ∉ (trimmed path).toList then base path
      else if IsBelowRoot (trimmed path) then "/" ++ base path
      else parent path ++ "/" ++ base path := by
  have characters : (trimmed path).toList = trimSlashes path.toList := String.toList_ofList
  apply String.toList_inj.mp
  cases form path with
  | alone single =>
      rw [if_pos (characters ▸ single), toList_base_alone single, characters]
  | @behind before segment split name =>
      have slash : '/' ∈ (trimmed path).toList := by simp [characters, split]
      have below := isBelowRoot_behind_iff (characters.trans split) name.single
      rw [if_neg (not_not_intro slash)]
      split_ifs with isBelowRoot
      · simp [characters, split, below.mp isBelowRoot, toList_base_behind split name.single]
      · have deep : before ≠ [] := mt below.mpr isBelowRoot
        simp [characters, split, deep, toList_parent_behind split name.single,
          toList_base_behind split name.single]

/-! ## From parent to parent -/

theorem exists_rest_of_parent (present : path ≠ "") :
    ∃ rest, rest ≠ [] ∧ path.toList = (parent path).toList ++ rest := by
  rcases exists_slashes path.toList with ⟨count, whole⟩
  cases form path with
  | alone single =>
      refine ⟨path.toList, mt String.toList_eq_nil_iff.mp present, ?_⟩
      rw [parent_alone single]
      rfl
  | @behind before segment split name =>
      rw [split, List.append_assoc] at whole
      rw [toList_parent_behind split name.single]
      split_ifs with root
      · refine ⟨segment ++ List.replicate count '/', by simp [name.present], ?_⟩
        rw [whole, root]
        rfl
      · exact ⟨_, List.cons_ne_nil _ _, whole⟩

theorem length_parent_lt (present : path ≠ "") : (parent path).length < path.length := by
  rcases exists_rest_of_parent present with ⟨rest, something, whole⟩
  have lengths := congrArg List.length whole
  rw [List.length_append, String.length_toList, String.length_toList] at lengths
  have positive := List.length_pos_iff.mpr something
  omega

theorem parent_empty : parent "" = "" :=
  parent_alone (by simp [trimSlashes])

theorem iterate_parent (path : String) {steps : Nat} (enough : path.length ≤ steps) :
    parent^[steps] path = "" := by
  induction steps generalizing path with
  | zero => exact String.length_eq_zero_iff.mp (Nat.le_zero.mp enough)
  | succ steps induction =>
      rw [Function.iterate_succ_apply]
      apply induction
      by_cases present : path = ""
      · rw [present, parent_empty]
        exact Nat.zero_le steps
      · have shorter := length_parent_lt present
        omega

/-! ## Two segments below a root -/

/-- The path goes from the root through a collection to one of its members; the root may be
nothing at all. -/
structure LeadsTo (path root collection member : String) : Prop where
  trimmed : IsTrimmed root.toList
  inRoot : IsSegment collection.toList
  inCollection : IsSegment member.toList
  whole : ∃ count, path = root ++ "/" ++ collection ++ "/" ++ member ++
    String.ofList (List.replicate count '/')

section

variable {root collection member : String}

theorem LeadsTo.trimSlashes_eq (leads : LeadsTo path root collection member) :
    trimSlashes path.toList =
      (root.toList ++ '/' :: collection.toList) ++ '/' :: member.toList := by
  rcases leads.whole with ⟨count, rfl⟩
  rw [← trimSlashes_append_slashes (isTrimmed_behind _ leads.inCollection) count]
  simp

theorem LeadsTo.base_eq (leads : LeadsTo path root collection member) : base path = member :=
  String.toList_inj.mp (toList_base_behind leads.trimSlashes_eq leads.inCollection.single)

theorem LeadsTo.parent_parent_eq (leads : LeadsTo path root collection member) :
    parent (parent path) = if root = "" then "/" else root := by
  have parentOf : (parent path).toList = root.toList ++ '/' :: collection.toList := by
    simp [toList_parent_behind leads.trimSlashes_eq leads.inCollection.single]
  have split : trimSlashes (parent path).toList = root.toList ++ '/' :: collection.toList := by
    rw [parentOf, trimSlashes_of_isTrimmed (isTrimmed_behind _ leads.inRoot)]
  apply String.toList_inj.mp
  rw [toList_parent_behind split leads.inRoot.single, apply_ite String.toList]
  simp only [String.toList_eq_nil_iff]
  rfl

theorem LeadsTo.powerOf_eq (leads : LeadsTo path root collection member) :
    powerOf path = root ++ "/Chassis/" ++
      (if baseboardMark.toList <:+: member.toList then baseboard else member) ++ "/Power" := by
  have bare : String.ofList (trimSlashes (parent (parent path)).toList) = root := by
    rw [leads.parent_parent_eq]
    split_ifs with nameless
    · rw [nameless]
      rfl
    · rw [trimSlashes_of_isTrimmed leads.trimmed, String.ofList_toList]
  simp only [powerOf, bare, leads.base_eq, Text.occursIn_iff]

end

/-! ## Paths as a whole -/

/-- The base of a path is free of slashes, and makes up the path again with what it belongs to,
slashes at the end aside; these make no difference to either. What a path belongs to is a shorter
beginning of it, so that going on from parent to parent ends at nothing. -/
theorem parent_and_base_make_up_path (path : String) :
    (∃ count, path = trimmed path ++ String.ofList (List.replicate count '/')) ∧
    IsTrimmed (trimmed path).toList ∧
    '/' ∉ (base path).toList ∧
    trimmed path =
      (if '/' ∉ (trimmed path).toList then base path
      else if IsBelowRoot (trimmed path) then "/" ++ base path
      else parent path ++ "/" ++ base path) ∧
    parent (trimmed path) = parent path ∧ base (trimmed path) = base path ∧
    (path = "" ∨
      (parent path).toList <+: path.toList ∧ (parent path).length < path.length) ∧
    ∀ more, parent^[path.length + more] path = "" := by
  have bare : IsTrimmed (trimmed path).toList := by
    rw [trimmed, String.toList_ofList]
    exact isTrimmed_trimSlashes _
  refine ⟨exists_slashes_trimmed path, bare, slash_not_mem_base path, trimmed_eq path,
    parent_trimmed path, base_trimmed path, or_iff_not_imp_left.mpr fun present => ?_,
    fun more => iterate_parent path (Nat.le_add_right _ more)⟩
  rcases exists_rest_of_parent present with ⟨rest, _, whole⟩
  exact ⟨⟨rest, whole.symm⟩, length_parent_lt present⟩

example : (parent "//a/", base "//a/", trimmed "//a/") = ("/", "a", "//a") := by decide +kernel

end ClusterPower.Path
