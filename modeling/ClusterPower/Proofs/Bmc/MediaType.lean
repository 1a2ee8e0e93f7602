import ClusterPower.Bmc.Refusal
import Mathlib.Data.List.TakeWhile

/-!
Media types. The media type of a content type does not depend on the blanks around it, on the case
of its letters or on the parameters behind it.
-/

namespace ClusterPower

namespace Text

variable {drops : Char → Bool} {lead body trail : List Char}

/-! ## Stripping -/

theorem strip_append (leading : ∀ character ∈ lead, drops character = true)
    (trailing : ∀ character ∈ trail, drops character = true) :
    strip drops (lead ++ (body ++ trail)) = strip drops body := by
  have behind : trail.dropWhile drops = [] := by
    rw [List.dropWhile_eq_nil_iff]
    exact trailing
  have before : (trail.reverse).dropWhile drops = [] := by
    rw [List.dropWhile_eq_nil_iff]
    exact fun character member => trailing character (List.mem_reverse.mp member)
  unfold strip
  rw [List.dropWhile_append_of_pos leading, List.dropWhile_append]
  split
  · next empty =>
    rw [List.isEmpty_iff] at empty
    rw [empty, behind]
  · rw [List.reverse_append, List.dropWhile_append_of_pos]
    exact fun character member => trailing character (List.mem_reverse.mp member)

theorem strip_map {change : Char → Char} (keeps : ∀ character, drops (change character) =
    drops character) (characters : List Char) :
    strip drops (characters.map change) = (strip drops characters).map change := by
  have same : drops ∘ change = drops := funext keeps
  unfold strip
  rw [List.dropWhile_map, same, ← List.map_reverse, List.dropWhile_map, same, List.map_reverse]

theorem exists_strip (drops : Char → Bool) (characters : List Char) :
    ∃ lead trail, characters = lead ++ (strip drops characters ++ trail) ∧
      (∀ character ∈ lead, drops character = true) ∧
      ∀ character ∈ trail, drops character = true := by
  refine ⟨characters.takeWhile drops,
    (((characters.dropWhile drops).reverse).takeWhile drops).reverse, ?_, ?_, ?_⟩
  · rw [strip, ← List.reverse_append, List.takeWhile_append_dropWhile, List.reverse_reverse,
      List.takeWhile_append_dropWhile]
  · exact fun character member => List.mem_takeWhile_imp member
  · exact fun character member => List.mem_takeWhile_imp (List.mem_reverse.mp member)

theorem isBlank_of_letter {character : Char} (low : 0x41 ≤ character.toNat)
    (high : character.toNat ≤ 0x7A) : isBlank character = false := by
  simp only [isBlank, Bool.or_eq_false_iff, Bool.and_eq_false_iff, decide_eq_false_iff_not,
    beq_eq_false_iff_ne]
  omega

theorem isBlank_toLower (character : Char) : isBlank character.toLower = isBlank character := by
  unfold Char.toLower
  split
  · next upper =>
    -- A letter of either case is no blank.
    obtain ⟨low, high⟩ : 0x41 ≤ character.toNat ∧ character.toNat ≤ 0x5A := upper
    have lowered : (character.val + 0x20).toNat = character.toNat + 0x20 := by
      rw [UInt32.toNat_add]
      exact Nat.mod_eq_of_lt (Nat.lt_of_le_of_lt (Nat.add_le_add_right high 0x20) (by decide))
    rw [isBlank_of_letter low (high.trans (by decide)), isBlank_of_letter]
    · exact (Nat.le_add_right_of_le low).trans_eq lowered.symm
    · exact lowered.trans_le (Nat.add_le_add_right high 0x20)
  · rfl

end Text

namespace Bmc

variable {contentType other : String} {media : List Char}

/-! ## Media types of content types -/

/-- The content type has this media type in it: blanks may stand around it, and behind it
parameters. -/
def Presents (contentType : String) (media : List Char) : Prop :=
  ';' ∉ media ∧ ∃ lead trail parameters,
    contentType.toList = lead ++ (media ++ trail) ++ parameters ∧
    (∀ character ∈ lead, Text.isBlank character = true) ∧
    (∀ character ∈ trail, Text.isBlank character = true) ∧
    ∀ first ∈ parameters.head?, first = ';'

/-- The two content types differ at most in blanks around the media type, in the case of its
letters and in parameters. -/
def SameMedia (contentType other : String) : Prop :=
  ∃ media again, Presents contentType media ∧ Presents other again ∧
    media.map Char.toLower = again.map Char.toLower

/-- The media type is the one of JSON texts, whatever the case of its letters. -/
def PresentsJson (contentType : String) : Prop :=
  ∃ media, Presents contentType media ∧
    media.map Char.toLower = "application/json".toList

theorem toList_mediaType (contentType : String) :
    (mediaType contentType).toList =
      Text.strip Text.isBlank ((contentType.toList.takeWhile (· != ';')).map Char.toLower) := by
  rw [Text.strip_map Text.isBlank_toLower]
  simp [mediaType, Text.trim]

theorem toList_mediaType_of_presents (presents : Presents contentType media) :
    (mediaType contentType).toList = Text.strip Text.isBlank (media.map Char.toLower) := by
  obtain ⟨uncut, lead, trail, parameters, split, leading, trailing, ends⟩ := presents
  have blank_ne {character : Char} (blank : Text.isBlank character = true) :
      (character != ';') = true := by
    rw [bne_iff_ne]
    intro same
    rw [same] at blank
    cases blank
  have inside : ∀ character ∈ lead ++ (media ++ trail), (character != ';') = true := by
    intro character member
    simp only [List.mem_append] at member
    obtain before | within | behind := member
    · exact blank_ne (leading character before)
    · exact bne_iff_ne.mpr fun same => uncut (same ▸ within)
    · exact blank_ne (trailing character behind)
  have cut : parameters.takeWhile (· != ';') = [] := by
    cases parameters with
    | nil => rfl
    | cons first rest => simp [ends first rfl]
  have type : contentType.toList.takeWhile (· != ';') = lead ++ (media ++ trail) := by
    rw [split, List.takeWhile_append_of_pos inside, cut, List.append_nil]
  rw [toList_mediaType, type, Text.strip_map Text.isBlank_toLower,
    Text.strip_map Text.isBlank_toLower, Text.strip_append leading trailing]

theorem mediaType_eq_of_same (same : SameMedia contentType other) :
    mediaType contentType = mediaType other := by
  obtain ⟨media, again, presents, alsoPresents, equal⟩ := same
  apply String.toList_inj.mp
  rw [toList_mediaType_of_presents presents, toList_mediaType_of_presents alsoPresents, equal]

theorem exists_presents (contentType : String) :
    ∃ media, Presents contentType media ∧
      (mediaType contentType).toList = media.map Char.toLower := by
  obtain ⟨lead, trail, split, leading, trailing⟩ :=
    Text.exists_strip Text.isBlank (contentType.toList.takeWhile (· != ';'))
  refine ⟨Text.strip Text.isBlank (contentType.toList.takeWhile (· != ';')), ⟨?_, lead, trail,
    contentType.toList.dropWhile (· != ';'), ?_, leading, trailing, ?_⟩, ?_⟩
  · intro member
    have inside : ';' ∈ contentType.toList.takeWhile (· != ';') := by
      rw [split]
      simp [member]
    simpa using List.mem_takeWhile_imp inside
  · rw [← split, List.takeWhile_append_dropWhile]
  · intro first member
    have stops := List.head?_dropWhile_not (· != ';') contentType.toList
    rw [member] at stops
    simpa using stops
  · rw [toList_mediaType, Text.strip_map Text.isBlank_toLower]

theorem mediaType_eq_json_iff :
    mediaType contentType = jsonMediaType ↔ PresentsJson contentType := by
  constructor
  · intro json
    obtain ⟨media, presents, lowered⟩ := exists_presents contentType
    rw [json] at lowered
    exact ⟨media, presents, lowered.symm⟩
  · intro presentsJson
    obtain ⟨media, presents, lowered⟩ := presentsJson
    apply String.toList_inj.mp
    rw [toList_mediaType_of_presents presents, lowered]
    decide +kernel

end Bmc

end ClusterPower
