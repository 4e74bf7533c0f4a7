import CrashQuery.Error
import CrashQuery.Field

/-!
# Where fields stand

A catalog notes where in its list of fields each public name and each storage name stands. Names are
noted while the list is checked from its start: a public name that has been noted before is a fault,
and a storage name that has been noted before keeps its first position. `exists_noteAll_iff` says
which lists are noted without a fault, and `Indexes.noteAll` that then each name has the position of
the first field that bears it.
-/

namespace CrashQuery

/-- The section of a field and its name there. -/
def Field.place (f : Field) : Origin × String := (f.origin, f.storageName)

/-- Where fields stand in a list. -/
structure Positions where
  /-- The positions by public name. -/
  byName : List (String × Nat) := []
  /-- The positions by section and storage name. -/
  byPlace : List ((Origin × String) × Nat) := []
  deriving DecidableEq

namespace Positions

/-- Notes the position of a field; a place that has a position keeps it. -/
def note (p : Positions) (position : Nat) (f : Field) : Positions where
  byName := (f.publicName, position) :: p.byName
  byPlace :=
    if (p.byPlace.lookup f.place).isSome then p.byPlace else (f.place, position) :: p.byPlace

/-- Notes the positions of fields from `next` on, or names the first fault in them. -/
def noteAll (p : Positions) (next : Nat) : List Field → Except SettingsFault Positions
  | [] => .ok p
  | f :: rest =>
    if !f.isValid then .error (.invalidField f.publicName)
    else if (p.byName.lookup f.publicName).isSome then .error (.duplicateField f.publicName)
    else noteAll (p.note next f) (next + 1) rest

variable {p q : Positions} {next : Nat} {f : Field} {fields rest : List Field}

/-- A note gives the public name of its field a new position. -/
theorem lookup_byName_note (name : String) : (p.note next f).byName.lookup name =
    if name = f.publicName then some next else p.byName.lookup name := by
  rw [note, List.lookup_cons]
  split
  · next heq => rw [if_pos (beq_iff_eq.1 heq)]
  · next hne => rw [if_neg (by simpa using hne)]

/-- A note gives the place of its field a position, unless it has one. -/
theorem lookup_byPlace_note (place : Origin × String) : (p.note next f).byPlace.lookup place =
    (p.byPlace.lookup place).or (if place = f.place then some next else none) := by
  rw [note]
  split
  · next hnoted =>
    split
    · next heq =>
      obtain ⟨i, hi⟩ := Option.isSome_iff_exists.1 hnoted
      rw [heq, hi, Option.some_or]
    · rw [Option.or_none]
  · next hnew =>
    rw [Bool.not_eq_true, Option.isSome_eq_false_iff, Option.isNone_iff_eq_none] at hnew
    rw [List.lookup_cons]
    split
    · next heq => rw [beq_iff_eq.1 heq, hnew, if_pos rfl, Option.none_or]
    · next hne => rw [if_neg (by simpa using hne), Option.or_none]

/-- Fields are noted exactly when the first of them is valid and has a new public name, and the
others are noted behind it. -/
theorem noteAll_cons_eq_ok : p.noteAll next (f :: rest) = .ok q ↔
    f.isValid = true ∧ p.byName.lookup f.publicName = none ∧
      (p.note next f).noteAll (next + 1) rest = .ok q := by
  rw [noteAll]
  cases f.isValid <;> cases p.byName.lookup f.publicName <;> simp

/-- Of faulty fields the first one is invalid, or its public name is noted, or the fault is in the
others. -/
theorem noteAll_cons_eq_error {fault : SettingsFault} :
    p.noteAll next (f :: rest) = .error fault ↔
      (f.isValid = false ∧ fault = .invalidField f.publicName) ∨
        (f.isValid = true ∧ (p.byName.lookup f.publicName).isSome = true ∧
          fault = .duplicateField f.publicName) ∨
        (f.isValid = true ∧ p.byName.lookup f.publicName = none ∧
          (p.note next f).noteAll (next + 1) rest = .error fault) := by
  rw [noteAll]
  cases f.isValid <;> cases p.byName.lookup f.publicName <;> simp [eq_comm]

/-- Fields whose public names are distinct and new. -/
def AreNew (p : Positions) (fields : List Field) : Prop :=
  (fields.map Field.publicName).Nodup ∧ ∀ f ∈ fields, p.byName.lookup f.publicName = none

/-- The first of some fields is new, and so are the others behind it. -/
theorem areNew_cons_iff (next : Nat) : p.AreNew (f :: rest) ↔
    p.byName.lookup f.publicName = none ∧ (p.note next f).AreNew rest := by
  simp only [AreNew, List.map_cons, List.nodup_cons, List.mem_map, not_exists, not_and,
    List.mem_cons, forall_eq_or_imp, lookup_byName_note]
  constructor
  · rintro ⟨⟨hother, hnodup⟩, hfirst, hnew⟩
    exact ⟨hfirst, hnodup, fun g hg => by rw [if_neg (hother g hg), hnew g hg]⟩
  · rintro ⟨hfirst, hnodup, hnew⟩
    have hother : ∀ g ∈ rest, g.publicName ≠ f.publicName := fun g hg heq => by
      have hnone := hnew g hg
      rw [if_pos heq] at hnone
      cases hnone
    exact ⟨⟨hother, hnodup⟩, hfirst, fun g hg => by
      rw [← hnew g hg, if_neg (hother g hg)]⟩

/-- Fields are noted without a fault exactly when they are valid and new. -/
theorem exists_noteAll_iff :
    (∃ q, p.noteAll next fields = .ok q) ↔ (∀ f ∈ fields, f.isValid = true) ∧ p.AreNew fields := by
  induction fields generalizing p next with
  | nil => simp [noteAll, AreNew]
  | cons f rest ih =>
    rw [areNew_cons_iff next, List.forall_mem_cons]
    constructor
    · rintro ⟨q, hok⟩
      obtain ⟨hvalid, hfirst, hrest⟩ := noteAll_cons_eq_ok.1 hok
      obtain ⟨hvalids, hnew⟩ := ih.1 ⟨q, hrest⟩
      exact ⟨⟨hvalid, hvalids⟩, hfirst, hnew⟩
    · rintro ⟨⟨hvalid, hvalids⟩, hfirst, hnew⟩
      obtain ⟨q, hrest⟩ := ih.2 ⟨hvalids, hnew⟩
      exact ⟨q, noteAll_cons_eq_ok.2 ⟨hvalid, hfirst, hrest⟩⟩

/-- The fault in new fields is that one of them is invalid. -/
theorem invalid_of_noteAll (hnew : p.AreNew fields) {fault : SettingsFault}
    (herror : p.noteAll next fields = .error fault) :
    ∃ f ∈ fields, f.isValid = false ∧ fault = .invalidField f.publicName := by
  induction fields generalizing p next with
  | nil => cases herror
  | cons f rest ih =>
    obtain ⟨hfirst, hrest⟩ := (areNew_cons_iff next).1 hnew
    rcases noteAll_cons_eq_error.1 herror with ⟨hinvalid, hfault⟩ | ⟨-, hnoted, -⟩ | ⟨-, -, hlater⟩
    · exact ⟨f, List.mem_cons_self, hinvalid, hfault⟩
    · rw [hfirst] at hnoted
      cases hnoted
    · obtain ⟨g, hg, hfault⟩ := ih hrest hlater
      exact ⟨g, List.mem_cons_of_mem _ hg, hfault⟩

/-- Whether each name has the position of the first field that bears it. -/
structure Indexes (p : Positions) (fields : List Field) : Prop where
  /-- The public names have. -/
  byName : ∀ name, p.byName.lookup name = fields.findIdx? fun f => f.publicName == name
  /-- The places have. -/
  byPlace : ∀ place, p.byPlace.lookup place = fields.findIdx? fun f => f.place == place

/-- No names are noted of no fields. -/
theorem indexes_nil : Indexes {} [] := ⟨fun _ => rfl, fun _ => rfl⟩

/-- A field with a new public name is noted behind the others. -/
theorem Indexes.note (h : p.Indexes fields) (hnew : p.byName.lookup f.publicName = none) :
    (p.note fields.length f).Indexes (fields ++ [f]) where
  byName name := by
    rw [lookup_byName_note, List.findIdx?_append, ← h.byName, List.findIdx?_singleton]
    split
    · next heq =>
      rw [heq, hnew]
      simp
    · next hne => simp [Ne.symm hne]
  byPlace place := by
    rw [lookup_byPlace_note, List.findIdx?_append, ← h.byPlace, List.findIdx?_singleton]
    congr 1
    split
    · next heq => simp [heq]
    · next hne => simp [Ne.symm hne]

/-- The fields of a list that has been noted to its end. -/
theorem Indexes.noteAll (h : p.Indexes fields) (hok : p.noteAll fields.length rest = .ok q) :
    q.Indexes (fields ++ rest) := by
  induction rest generalizing p fields with
  | nil =>
    rw [Positions.noteAll, Except.ok.injEq] at hok
    rwa [List.append_nil, ← hok]
  | cons f rest ih =>
    obtain ⟨-, hnew, hrest⟩ := noteAll_cons_eq_ok.1 hok
    rw [List.append_cons]
    exact ih (h.note hnew) (by rwa [List.length_append, List.length_singleton])

end Positions

end CrashQuery
