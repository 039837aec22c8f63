import MakeTools.Server.Call

/-!
# MakeTools.Proofs.Writing

Which values can be written, and so which arguments of a call.

Writing goes through a value from the left and stops at the first thing that
stands against it.  Whether it comes to an end does not depend on that order:
what counts is how deep lists and records are nested (`Value.depth`) and which
whole numbers stand anywhere in the value (`Value.numbers`).  A value fits into
the room that there is, or it cannot be written (`write_eq_ok_iff`), and the
arguments of a call can be written if those fit that become texts
(`writeArguments_eq_ok_iff`).
-/

namespace MakeTools

open Text

/-! ## Values -/

namespace Value

mutual

/-- How many lists and records stand inside one another, without the empty
ones. -/
def depth : Value → Nat
  | .list items => itemsDepth items
  | .record fields => fieldsDepth fields
  | .null | .bool _ | .integer _ | .real _ | .text _ => 0

/-- How deep a list with these items is. -/
def itemsDepth : List Value → Nat
  | [] => 0
  | v :: vs => max (depth v + 1) (itemsDepth vs)

/-- How deep a record with these fields is. -/
def fieldsDepth : List (String × Value) → Nat
  | [] => 0
  | f :: fs => max (depth f.2 + 1) (fieldsDepth fs)

end

mutual

/-- The whole numbers in a value. -/
def numbers : Value → List Int
  | .integer n => [n]
  | .list items => itemsNumbers items
  | .record fields => fieldsNumbers fields
  | .null | .bool _ | .real _ | .text _ => []

/-- The whole numbers in items. -/
def itemsNumbers : List Value → List Int
  | [] => []
  | v :: vs => numbers v ++ itemsNumbers vs

/-- The whole numbers in fields. -/
def fieldsNumbers : List (String × Value) → List Int
  | [] => []
  | f :: fs => numbers f.2 ++ fieldsNumbers fs

end

/-- The value is nested no deeper than there is room for, and each number in it
can be written. -/
structure Fits (room : Nat) (v : Value) : Prop where
  depth : v.depth ≤ room
  numbers : ∀ n ∈ v.numbers, Integer.isWritable n = true

/-- Nothing stands against the first of some values and the rest exactly if
there is room for one more level and all of them fit. -/
theorem ite_or_eq_none_iff {room depth restDepth : Nat} {numbers restNumbers : List Int}
    {u rest : Option Unwritable}
    (hu : u = none ↔ depth ≤ room - 1 ∧ ∀ n ∈ numbers, Integer.isWritable n = true)
    (hrest : rest = none ↔ restDepth ≤ room ∧ ∀ n ∈ restNumbers, Integer.isWritable n = true) :
    (if room = 0 then some .tooDeep else u.or rest) = none ↔
      max (depth + 1) restDepth ≤ room ∧
        ∀ n ∈ numbers ++ restNumbers, Integer.isWritable n = true := by
  by_cases hroom : room = 0
  · simp [hroom]
  · have hdepth : depth ≤ room - 1 ↔ depth + 1 ≤ room := by omega
    rw [if_neg hroom, Option.or_eq_none_iff, hu, hrest, Nat.max_le, hdepth,
      List.forall_mem_append]
    exact and_and_and_comm

mutual

/-- Nothing stands against writing a value exactly if it fits. -/
theorem unwritable?_eq_none_iff (room : Nat) : (v : Value) →
    (v.unwritable? room = none ↔
      v.depth ≤ room ∧ ∀ n ∈ v.numbers, Integer.isWritable n = true)
  | .null | .bool _ | .real _ | .text _ => by simp [unwritable?, depth, numbers]
  | .integer n => by simp [unwritable?, depth, numbers]
  | .list items => by
      rw [unwritable?, depth, numbers]
      exact unwritableItem?_eq_none_iff room items
  | .record fields => by
      rw [unwritable?, depth, numbers]
      exact unwritableField?_eq_none_iff room fields

theorem unwritableItem?_eq_none_iff (room : Nat) : (vs : List Value) →
    (unwritableItem? room vs = none ↔
      itemsDepth vs ≤ room ∧ ∀ n ∈ itemsNumbers vs, Integer.isWritable n = true)
  | [] => by simp [unwritableItem?, itemsDepth, itemsNumbers]
  | v :: vs => by
      rw [unwritableItem?, itemsDepth, itemsNumbers]
      exact ite_or_eq_none_iff (unwritable?_eq_none_iff (room - 1) v)
        (unwritableItem?_eq_none_iff room vs)

theorem unwritableField?_eq_none_iff (room : Nat) : (fs : List (String × Value)) →
    (unwritableField? room fs = none ↔
      fieldsDepth fs ≤ room ∧ ∀ n ∈ fieldsNumbers fs, Integer.isWritable n = true)
  | [] => by simp [unwritableField?, fieldsDepth, fieldsNumbers]
  | f :: fs => by
      rw [unwritableField?, fieldsDepth, fieldsNumbers]
      exact ite_or_eq_none_iff (unwritable?_eq_none_iff (room - 1) f.2)
        (unwritableField?_eq_none_iff room fs)

end

/-- A value is written as its text if it fits, and otherwise not at all. -/
theorem write_eq_ok_iff {room : Nat} {v : Value} {s : String} :
    v.write room = .ok s ↔ v.Fits room ∧ v.render = s := by
  have hfits : v.Fits room ↔ v.unwritable? room = none := by
    rw [unwritable?_eq_none_iff]
    exact ⟨fun h => ⟨h.depth, h.numbers⟩, fun h => ⟨h.1, h.2⟩⟩
  rw [hfits, write]
  cases v.unwritable? room <;> simp

end Value

/-! ## Arguments -/

namespace Server

variable {room : Nat} {arguments : List (String × Value)}

/-- Every argument of a call fits that becomes a text. -/
structure Writable (room : Nat) (arguments : List (String × Value)) : Prop where
  settings : ∀ a ∈ arguments.filter isSetting, a.2.Fits room
  rawArgs : ∀ v, arguments.lookup rawArgsName = some v → v.isVoid = false → v.Fits room

theorem writeSettings_eq_ok_iff {given : List (String × Value)}
    {settings : List (String × String)} :
    writeSettings room given = .ok settings ↔
      (∀ a ∈ given, a.2.Fits room) ∧ given.map (fun a => (a.1, a.2.render)) = settings := by
  induction given generalizing settings with
  | nil => simp [writeSettings]
  | cons a given ih =>
      rw [List.forall_mem_cons, List.map_cons]
      constructor
      · intro h
        cases hw : a.2.write room with
        | error u => simp [writeSettings, hw] at h
        | ok text =>
            cases hs : writeSettings room given with
            | error u => simp [writeSettings, hw, hs, Except.map] at h
            | ok texts =>
                obtain ⟨hfits, rfl⟩ := Value.write_eq_ok_iff.1 hw
                obtain ⟨hall, rfl⟩ := ih.1 hs
                simp only [writeSettings, hw, hs, Except.map, Except.ok.injEq] at h
                exact ⟨⟨hfits, hall⟩, h⟩
      · rintro ⟨⟨hfits, hall⟩, rfl⟩
        simp only [writeSettings, Value.write_eq_ok_iff.2 ⟨hfits, rfl⟩, ih.2 ⟨hall, rfl⟩,
          Except.map]

theorem writeRawArgs_eq_ok_iff {v : Option Value} {text : String} :
    writeRawArgs room v = .ok text ↔
      (∀ w, v = some w → w.isVoid = false → w.Fits room) ∧
        (match v with
          | none => ""
          | some w => if w.isVoid then "" else w.render) = text := by
  cases v with
  | none => simp [writeRawArgs]
  | some w => cases hw : w.isVoid <;> simp [writeRawArgs, hw, Value.write_eq_ok_iff]

/-- Arguments are written as their texts if they can be written, and otherwise
not at all. -/
theorem writeArguments_eq_ok_iff {given : List (String × String) × String} :
    writeArguments room arguments = .ok given ↔
      Writable room arguments ∧ collect arguments = given := by
  unfold writeArguments
  constructor
  · intro h
    cases hs : writeSettings room (arguments.filter isSetting) with
    | error u => rw [hs] at h; contradiction
    | ok settings =>
        cases hr : writeRawArgs room (arguments.lookup rawArgsName) with
        | error u => rw [hs, hr] at h; contradiction
        | ok rawArgs =>
            obtain ⟨hall, rfl⟩ := writeSettings_eq_ok_iff.1 hs
            obtain ⟨hraw, rfl⟩ := writeRawArgs_eq_ok_iff.1 hr
            rw [hs, hr] at h
            exact ⟨⟨hall, hraw⟩, Except.ok.inj h⟩
  · rintro ⟨⟨hall, hraw⟩, rfl⟩
    rw [writeSettings_eq_ok_iff.2 ⟨hall, rfl⟩, writeRawArgs_eq_ok_iff.2 ⟨hraw, rfl⟩]
    rfl

theorem not_writable_of_writeArguments_eq_error {u : Value.Unwritable}
    (h : writeArguments room arguments = .error u) : ¬ Writable room arguments := by
  intro hw
  rw [writeArguments_eq_ok_iff.2 ⟨hw, rfl⟩] at h
  contradiction

end Server
end MakeTools
