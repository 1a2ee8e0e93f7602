import ClusterPower.Json.Reader
import ClusterPower.Proofs.Json.Equality
import ClusterPower.Proofs.Redfish.RoundTrip
import ClusterPower.Proofs.Target.RoundTrip
import ClusterPower.Redfish.Request

/-!
Targets and power resources as documents. A library for JSON texts stands between a value and its
document; nothing more is asked of it than that it reads back the document at hand.
-/

namespace ClusterPower.Json

open Redfish

/-! ## Documents -/

/-- A library for JSON texts. -/
structure Library where
  write : Json → Bytes
  read? : Bytes → Option Json

namespace Library

variable {Value : Type} (library : Library)

/-- The text that is written for a value is read as this value. -/
def ReadsBack (json : Json) : Prop :=
  library.read? (library.write json) = some json

def decode? (ofJson? : Json → Option Value) (text : Bytes) : Option Value :=
  (library.read? text).bind ofJson?

def encode (toJson : Value → Json) (value : Value) : Bytes :=
  library.write (toJson value)

/-- To decode undoes to encode, for the values that fit and for all that have been decoded, as far
as the library reads back their documents. -/
structure Keeps (ofJson? : Json → Option Value) (toJson : Value → Json) (Fits : Value → Prop) :
    Prop where
  encoded : ∀ value, Fits value → library.ReadsBack (toJson value) →
    library.decode? ofJson? (library.encode toJson value) = some value
  decoded : ∀ text value, library.decode? ofJson? text = some value →
    library.ReadsBack (toJson value) →
    library.decode? ofJson? (library.encode toJson value) = some value

theorem decode?_encode {ofJson? : Json → Option Value} {toJson : Value → Json} {value : Value}
    (readsBack : library.ReadsBack (toJson value)) :
    library.decode? ofJson? (library.encode toJson value) = ofJson? (toJson value) := by
  have text : library.read? (library.encode toJson value) = some (toJson value) := readsBack
  rw [decode?, text, Option.bind_some]

theorem keeps_of_undoes {ofJson? : Json → Option Value} {toJson : Value → Json}
    {Fits : Value → Prop} (undoes : Undoes ofJson? toJson Fits) :
    library.Keeps ofJson? toJson Fits where
  encoded value fits readsBack := by
    rw [library.decode?_encode readsBack, undoes.written value fits]
  decoded text value found readsBack := by
    rcases Option.bind_eq_some_iff.mp found with ⟨json, _, found⟩
    rw [library.decode?_encode readsBack, undoes.reread found]

/-- The documents of targets, power resources, power controls, posted limits and collections of
controls are decoded to what was encoded. That holds for whatever has been decoded, and for all
values whose numbers are words, targets being of no kind that bears the name of another and power
resources having no error of null. -/
theorem documents_keep_values (library : Library) :
    library.Keeps Target.ofJson? Target.toJson Target.Fits ∧
    library.Keeps Power.ofJson? Power.toJson Power.Fits ∧
    library.Keeps PowerControl.ofJson? PowerControl.toJson PowerControl.Fits ∧
    library.Keeps ZoneLimits.ofJson? ZoneLimits.toJson ZoneLimits.Fits ∧
    library.Keeps ControlMembers.ofJson? ControlMembers.toJson ControlMembers.Fits :=
  ⟨library.keeps_of_undoes Target.undoes, library.keeps_of_undoes Power.undoes,
    library.keeps_of_undoes PowerControl.undoes, library.keeps_of_undoes ZoneLimits.undoes,
    library.keeps_of_undoes ControlMembers.undoes⟩

theorem power_and_member_are_kept :
    let library : Library := ⟨body, Json.read?⟩
    let power : Power := {
      controls := [{ name := some "node", limit := some {} }]
      error := some ⟨.object [("code", .text "license"), ("tries", .integer 3)], rfl⟩
      setPoint := some 0 }
    let text := Text.utf8 "\x7b\"Members\":[[\"/c\",null,\x7b\"Disabled\":null\x7d]]\x7d"
    let members : ControlMembers := ⟨[{ id := "/c", mode := .disabled }]⟩
    library.decode? Power.ofJson? (library.encode Power.toJson power) = some power ∧
    library.decode? ControlMembers.ofJson? text = some members ∧
    library.encode ControlMembers.toJson members ≠ text ∧
    library.decode? ControlMembers.ofJson? (library.encode ControlMembers.toJson members) =
      some members := by
  intro library power text members
  have kept := documents_keep_values library
  have fits : power.Fits := {
    controls := by simp [power, PowerControl.Fits, PowerLimit.Fits, FitsWord]
    error := by simp [power]
    actualLimits := by simp [power]
    limits := by simp [power]
    setPoint := by
      rintro _ ⟨⟩
      decide }
  have readsPower : library.ReadsBack power.toJson := by
    unfold ReadsBack
    decide +kernel
  have found : library.decode? ControlMembers.ofJson? text = some members := by decide +kernel
  have readsMembers : library.ReadsBack members.toJson := by
    unfold ReadsBack
    decide +kernel
  exact ⟨kept.2.1.encoded power fits readsPower, found, by decide +kernel,
    kept.2.2.2.2.decoded text members found readsMembers⟩

end Library

end ClusterPower.Json
