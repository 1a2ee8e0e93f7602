import Mathlib.Data.List.Basic

/-!
The lock of the client. Any number of users may be inside together, a writer only alone, and
while a writer waits nobody gets in who has asked after it. Which of those who may be let in is
let in next is left open, so that what holds of all such locks holds of a fair one.
-/

namespace ClusterPower

/-- How the client is wanted. -/
inductive Guard where
  | shared
  | alone
deriving DecidableEq, Repr

/-- The guards that are out, and those that are waited for, in the order in which they were
asked for. Nothing keeps anybody from being on both lists. -/
structure Lock (Place : Type) where
  held : List (Place × Guard) := []
  waiting : List (Place × Guard) := []

/-- Where somebody stands who minds one guard at a time. -/
inductive Standing where
  | outside
  | waiting (guard : Guard)
  | inside (guard : Guard)
deriving DecidableEq, Repr

namespace Standing

variable {Place : Type}

def held (place : Place) : Standing → List (Place × Guard)
  | .inside guard => [(place, guard)]
  | .outside | .waiting _ => []

def awaited (place : Place) : Standing → List (Place × Guard)
  | .waiting guard => [(place, guard)]
  | .outside | .inside _ => []

end Standing

namespace Lock

variable {Place : Type}

/-- Whoever is inside is there among users, or alone. -/
def Sound (lock : Lock Place) : Prop :=
  (∀ entry ∈ lock.held, entry.2 = .shared) ∨ ∃ place, lock.held = [(place, .alone)]

theorem Sound.held_eq {lock : Lock Place} {place : Place} (sound : lock.Sound)
    (inside : (place, .alone) ∈ lock.held) :
    lock.held = [(place, .alone)] := by
  rcases sound with all | ⟨writer, only⟩
  · cases all _ inside
  · rw [only] at inside ⊢
    rw [List.mem_singleton.mp inside]

variable [DecidableEq Place]

def ask (lock : Lock Place) (place : Place) (guard : Guard) : Lock Place :=
  { lock with waiting := lock.waiting ++ [(place, guard)] }

def letIn (lock : Lock Place) (place : Place) (guard : Guard) : Lock Place where
  held := (place, guard) :: lock.held
  waiting := lock.waiting.erase (place, guard)

def giveBack (lock : Lock Place) (place : Place) (guard : Guard) : Lock Place :=
  { lock with held := lock.held.erase (place, guard) }

/-! ## One place of many -/

def guardsOf (entries : List (Place × Guard)) (place : Place) : List (Place × Guard) :=
  entries.filter fun entry => entry.1 = place

variable {lock : Lock Place} {entries : List (Place × Guard)} {place other : Place}
  {guard : Guard} {standing : Standing}

theorem mem_guardsOf : (place, guard) ∈ guardsOf entries place ↔ (place, guard) ∈ entries := by
  simp [guardsOf]

theorem guardsOf_concat :
    guardsOf (entries ++ [(place, guard)]) place = guardsOf entries place ++ [(place, guard)] := by
  simp [guardsOf]

theorem guardsOf_concat_other (apart : other ≠ place) :
    guardsOf (entries ++ [(other, guard)]) place = guardsOf entries place := by
  simp [guardsOf, apart]

theorem guardsOf_cons :
    guardsOf ((place, guard) :: entries) place = (place, guard) :: guardsOf entries place := by
  simp [guardsOf]

theorem guardsOf_cons_other (apart : other ≠ place) :
    guardsOf ((other, guard) :: entries) place = guardsOf entries place := by
  simp [guardsOf, apart]

theorem guardsOf_erase (entry : Place × Guard) :
    guardsOf (entries.erase entry) place = (guardsOf entries place).erase entry :=
  List.erase_filter.symm

theorem guardsOf_erase_other (apart : other ≠ place) :
    guardsOf (entries.erase (other, guard)) place = guardsOf entries place := by
  rw [guardsOf_erase]
  apply List.erase_of_not_mem
  simp [guardsOf, apart]

/-- Where a place stands with the lock. -/
structure Stands (lock : Lock Place) (place : Place) (standing : Standing) : Prop where
  held : guardsOf lock.held place = standing.held place
  awaited : guardsOf lock.waiting place = standing.awaited place

namespace Stands

theorem mem_held_iff (stands : lock.Stands place standing) :
    (place, guard) ∈ lock.held ↔ standing = .inside guard := by
  rw [← mem_guardsOf, stands.held]
  cases standing <;> simp [Standing.held, eq_comm]

theorem mem_waiting_iff (stands : lock.Stands place standing) :
    (place, guard) ∈ lock.waiting ↔ standing = .waiting guard := by
  rw [← mem_guardsOf, stands.awaited]
  cases standing <;> simp [Standing.awaited, eq_comm]

theorem ask (stands : lock.Stands place .outside) (guard : Guard) :
    (lock.ask place guard).Stands place (.waiting guard) where
  held := stands.held
  awaited := by
    rw [Lock.ask, guardsOf_concat, stands.awaited]
    rfl

theorem letIn (stands : lock.Stands place (.waiting guard)) :
    (lock.letIn place guard).Stands place (.inside guard) where
  held := by
    rw [Lock.letIn, guardsOf_cons, stands.held]
    rfl
  awaited := by
    rw [Lock.letIn, guardsOf_erase, stands.awaited]
    exact List.erase_cons_head _ _

theorem giveBack (stands : lock.Stands place (.inside guard)) :
    (lock.giveBack place guard).Stands place .outside where
  held := by
    rw [Lock.giveBack, guardsOf_erase, stands.held]
    exact List.erase_cons_head _ _
  awaited := stands.awaited

theorem ask_other (stands : lock.Stands place standing) (apart : other ≠ place) :
    (lock.ask other guard).Stands place standing where
  held := stands.held
  awaited := (guardsOf_concat_other apart).trans stands.awaited

theorem letIn_other (stands : lock.Stands place standing) (apart : other ≠ place) :
    (lock.letIn other guard).Stands place standing where
  held := (guardsOf_cons_other apart).trans stands.held
  awaited := (guardsOf_erase_other apart).trans stands.awaited

theorem giveBack_other (stands : lock.Stands place standing) (apart : other ≠ place) :
    (lock.giveBack other guard).Stands place standing where
  held := (guardsOf_erase_other apart).trans stands.held
  awaited := stands.awaited

end Stands

theorem Sound.giveBack (sound : lock.Sound) : (lock.giveBack place guard).Sound := by
  rcases sound with all | ⟨writer, only⟩
  · exact Or.inl fun entry member => all entry (List.mem_of_mem_erase member)
  · by_cases leaves : (place, guard) = (writer, .alone)
    · refine Or.inl fun entry member => ?_
      simp [Lock.giveBack, only, leaves] at member
    · refine Or.inr ⟨writer, ?_⟩
      rw [Lock.giveBack, only]
      exact List.erase_of_not_mem (mt List.mem_singleton.mp leaves)

end Lock

/-! ## Who is let in -/

/-- Rules by which a lock lets in those who wait. -/
structure Discipline (Place : Type) where
  Admits : Lock Place → Place → Guard → Prop
  awaited {lock place guard} : Admits lock place guard → (place, guard) ∈ lock.waiting
  shares {lock place} : Admits lock place .shared → ∀ entry ∈ lock.held, entry.2 = .shared
  blocks {lock place} : Admits lock place .shared →
    ∃ ahead behind, lock.waiting = ahead ++ (place, .shared) :: behind ∧
      ∀ entry ∈ ahead, entry.2 = .shared
  excludes {lock place} : Admits lock place .alone → lock.held = []
  serves {lock} : lock.held = [] → lock.waiting ≠ [] → ∃ place guard, Admits lock place guard

namespace Discipline

variable {Place : Type} {discipline : Discipline Place} {lock : Lock Place}
  {place other : Place} {guard : Guard}

theorem not_admits_nested (inside : (place, .shared) ∈ lock.held)
    (waiting : lock.waiting = [(other, .alone), (place, .shared)]) (next : Place) :
    ¬discipline.Admits lock next guard := by
  intro admits
  cases guard with
  | alone =>
      rw [discipline.excludes admits] at inside
      cases inside
  | shared =>
      rcases discipline.blocks admits with ⟨ahead, behind, split, users⟩
      rw [waiting] at split
      cases ahead with
      | nil => cases split
      | cons first rest =>
          have writer : first = (other, .alone) := (List.cons.inj split).1.symm
          have user := users first List.mem_cons_self
          rw [writer] at user
          cases user

theorem sound_letIn [DecidableEq Place] (admits : discipline.Admits lock place guard) :
    (lock.letIn place guard).Sound := by
  cases guard with
  | shared =>
      refine Or.inl fun entry member => ?_
      rcases List.mem_cons.mp member with rfl | inside
      · rfl
      · exact discipline.shares admits entry inside
  | alone =>
      refine Or.inr ⟨place, ?_⟩
      rw [Lock.letIn, discipline.excludes admits]

def fifo (Place : Type) : Discipline Place where
  Admits lock place guard := lock.waiting.head? = some (place, guard) ∧
    match guard with
    | .shared => ∀ entry ∈ lock.held, entry.2 = .shared
    | .alone => lock.held = []
  awaited admits := List.mem_of_mem_head? admits.1
  shares admits := admits.2
  blocks admits := by
    rcases List.head?_eq_some_iff.mp admits.1 with ⟨behind, split⟩
    exact ⟨[], behind, split, nofun⟩
  excludes admits := admits.2
  serves {lock} free waits := by
    cases waiting : lock.waiting with
    | nil => exact absurd waiting waits
    | cons first rest =>
        rcases first with ⟨place, guard⟩
        refine ⟨place, guard, by simp, ?_⟩
        cases guard with
        | shared => simp [free]
        | alone => exact free

instance [DecidableEq Place] : (guard : Guard) → Decidable ((fifo Place).Admits lock place guard)
  | .shared => inferInstanceAs (Decidable (_ ∧ ∀ entry ∈ lock.held, entry.2 = .shared))
  | .alone => inferInstanceAs (Decidable (_ ∧ lock.held = []))

end Discipline

end ClusterPower
